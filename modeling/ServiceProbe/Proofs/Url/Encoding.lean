import Mathlib.Data.List.Flatten
import Mathlib.Data.List.Infix
import ServiceProbe.Url.Reading

/-!
# What encoding and decoding keep

A part of a URL is encoded when it is read and is decoded by whoever looks at it. The two do not undo each
other: a percent sign is not encoded, since it may belong to a code already. What holds instead, for the sets of
all parts:

* `encode_encode` — a text is encoded after one time;
* `decodeBytes_encode` — encoding makes no difference to the bytes that a text stands for;
* `decodeBytes_eq_utf8_iff` — a text stands for its own bytes exactly if there is no code in it, and for fewer
  bytes otherwise (`length_decodeBytes_le`).

The bytes of a text determine it (`utf8_inj`). A segment that counts as one dot or as two stands for one dot or
for two (`decodeBytes_of_isSingleDot`, `decodeBytes_of_isDoubleDot`).
-/

namespace ServiceProbe.Url

open Text (digitValue? upperHex)

/-! ### ASCII characters -/

/-- What holds of the first 128 characters holds of every ASCII character. -/
theorem of_ascii {holds : Char → Prop} (all : ∀ n < 0x80, holds (Char.ofNat n)) {c : Char}
    (ascii : c.toNat < 0x80) : holds c := by
  have here := all c.toNat ascii
  rwa [Char.ofNat_toNat] at here

theorem le_iff_toNat_le {c d : Char} : c ≤ d ↔ c.toNat ≤ d.toNat :=
  UInt32.le_iff_toNat_le

theorem toNat_le_of_isDigit {c : Char} (isDigit : c.isDigit) : c.toNat ≤ '9'.toNat := by
  rw [Char.isDigit, Bool.and_eq_true, decide_eq_true_eq, decide_eq_true_eq] at isDigit
  exact UInt32.le_iff_toNat_le.1 isDigit.2

theorem toNat_lt_of_isSome_digitValue? {c : Char} (isDigit : (digitValue? c).isSome) :
    c.toNat < 0x80 := by
  by_contra big
  have notDecimal : ¬ c.isDigit := fun h => big ((toNat_le_of_isDigit h).trans_lt (by decide))
  have notSmall : ¬ c ≤ 'f' := fun h => big ((le_iff_toNat_le.1 h).trans_lt (by decide))
  have notCapital : ¬ c ≤ 'F' := fun h => big ((le_iff_toNat_le.1 h).trans_lt (by decide))
  simp [digitValue?, notDecimal, notSmall, notCapital] at isDigit

/-! ### Texts as bytes -/

/-- The bytes of a text. -/
def utf8 (text : List Char) : List UInt8 :=
  text.flatMap String.utf8EncodeChar

@[simp] theorem utf8_nil : utf8 [] = [] :=
  rfl

@[simp] theorem utf8_cons (c : Char) (text : List Char) :
    utf8 (c :: text) = String.utf8EncodeChar c ++ utf8 text :=
  rfl

/-- A text is read back from its bytes. -/
theorem fromUTF8?_utf8 (text : List Char) :
    String.fromUTF8? ⟨(utf8 text).toArray⟩ = some (String.ofList text) := by
  have bytes : (⟨(utf8 text).toArray⟩ : ByteArray) = (String.ofList text).toByteArray := by
    rw [String.toByteArray_ofList]
    exact ByteArray.ext (List.data_toByteArray).symm
  rw [bytes, String.fromUTF8?, dif_pos (String.ofList text).isValidUTF8]
  rfl

theorem utf8_inj {text text' : List Char} (h : utf8 text = utf8 text') : text = text' := by
  have read := fromUTF8?_utf8 text
  rw [h, fromUTF8?_utf8] at read
  exact (String.ofList_injective (Option.some.inj read)).symm

theorem utf8_sublist {part text : List Char} (sub : part.Sublist text) :
    (utf8 part).Sublist (utf8 text) :=
  sub.flatMap String.utf8EncodeChar

/-- A part of a text that has as many bytes is the text. -/
theorem eq_of_sublist_of_length_utf8_le {part text : List Char} (sub : part.Sublist text)
    (long : (utf8 text).length ≤ (utf8 part).length) : part = text :=
  utf8_inj ((utf8_sublist sub).eq_of_length_le long)

/-! ### Sets that keep codes -/

/-- The set leaves codes as they are: percent signs and hexadecimal digits are not in it. -/
structure EncodeSet.KeepsCodes (set : EncodeSet) : Prop where
  percent : set '%' = false
  digit : ∀ c : Char, (digitValue? c).isSome → set c = false

namespace EncodeSet

theorem KeepsCodes.of_ascii {set : EncodeSet} (percent : set '%' = false)
    (all : ∀ n < 0x80, (digitValue? (Char.ofNat n)).isSome → set (Char.ofNat n) = false) :
    set.KeepsCodes where
  percent := percent
  digit c isDigit :=
    @Url.of_ascii (fun c => (digitValue? c).isSome → set c = false) all c
      (toNat_lt_of_isSome_digitValue? isDigit) isDigit

theorem path_keepsCodes : path.KeepsCodes :=
  .of_ascii (by decide) (by decide)

theorem userinfo_keepsCodes : userinfo.KeepsCodes :=
  .of_ascii (by decide) (by decide)

end EncodeSet

/-! ### Encoding -/

variable {set : EncodeSet} {text : List Char}

/-- A character is written as it is: it is in ASCII and not in the set. -/
def Plain (set : EncodeSet) (c : Char) : Prop :=
  c.toNat < 0x80 ∧ set c = false

theorem encodeChar_of_plain {c : Char} (plain : Plain set c) : encodeChar set c = [c] := by
  simp [encodeChar, plain.1, plain.2]

theorem encodeChar_of_not_plain {c : Char} (encoded : ¬ Plain set c) :
    encodeChar set c = (String.utf8EncodeChar c).flatMap encodeByte := by
  refine if_neg ?_
  simpa [Plain] using encoded

@[simp] theorem encode_nil : encode set [] = [] :=
  rfl

@[simp] theorem encode_cons (c : Char) (text : List Char) :
    encode set (c :: text) = encodeChar set c ++ encode set text :=
  rfl

/-- A text of plain characters is written as it is. -/
theorem encode_eq_self (plain : ∀ c ∈ text, Plain set c) : encode set text = text := by
  induction text with
  | nil => rfl
  | cons c text ih =>
    rw [encode_cons, encodeChar_of_plain (plain c List.mem_cons_self),
      ih fun d hd => plain d (List.mem_cons_of_mem c hd)]
    rfl

theorem EncodeSet.KeepsCodes.plain_percent (keeps : set.KeepsCodes) : Plain set '%' :=
  ⟨by decide, keeps.percent⟩

theorem EncodeSet.KeepsCodes.plain_digit (keeps : set.KeepsCodes) {c : Char}
    (isDigit : (digitValue? c).isSome) : Plain set c :=
  ⟨toNat_lt_of_isSome_digitValue? isDigit, keeps.digit c isDigit⟩

theorem digitValue?_upperHex_div (byte : UInt8) :
    digitValue? (upperHex (byte.toNat / 16)) = some (byte.toNat / 16) := by
  have small := byte.toNat_lt
  exact Text.digitValue?_upperHex _ (by omega)

theorem digitValue?_upperHex_mod (byte : UInt8) :
    digitValue? (upperHex (byte.toNat % 16)) = some (byte.toNat % 16) :=
  Text.digitValue?_upperHex _ (Nat.mod_lt _ (by decide))

theorem of_mem_encodeByte {byte : UInt8} {c : Char} (written : c ∈ encodeByte byte) :
    c = '%' ∨ (digitValue? c).isSome := by
  rw [encodeByte, List.mem_cons, List.mem_cons, List.mem_singleton] at written
  rcases written with rfl | rfl | rfl
  · exact .inl rfl
  · exact .inr (by rw [digitValue?_upperHex_div]; rfl)
  · exact .inr (by rw [digitValue?_upperHex_mod]; rfl)

/-- What encoding writes is plain and stood there before, or belongs to a code. -/
theorem of_mem_encode {c : Char} (written : c ∈ encode set text) :
    (c ∈ text ∧ Plain set c) ∨ c = '%' ∨ (digitValue? c).isSome := by
  obtain ⟨d, member, written⟩ := List.mem_flatMap.1 written
  by_cases plain : Plain set d
  · rw [encodeChar_of_plain plain, List.mem_singleton] at written
    exact .inl (written ▸ ⟨member, plain⟩)
  · rw [encodeChar_of_not_plain plain] at written
    obtain ⟨byte, -, written⟩ := List.mem_flatMap.1 written
    exact .inr (of_mem_encodeByte written)

theorem plain_of_mem_encode (keeps : set.KeepsCodes) {c : Char} (written : c ∈ encode set text) :
    Plain set c := by
  rcases of_mem_encode written with ⟨-, plain⟩ | rfl | isDigit
  · exact plain
  · exact keeps.plain_percent
  · exact keeps.plain_digit isDigit

/-- **Encoding settles a text.** What is encoded is not encoded again. -/
theorem encode_encode (keeps : set.KeepsCodes) (text : List Char) :
    encode set (encode set text) = encode set text :=
  encode_eq_self fun _ => plain_of_mem_encode keeps

/-! ### Decoding -/

@[simp] theorem decodeBytes_nil : decodeBytes [] = [] := by
  rw [decodeBytes]

/-- The text begins with the two digits of a code. -/
def startsCode : List Char → Bool
  | high :: low :: _ => (digitValue? high).isSome && (digitValue? low).isSome
  | _ => false

theorem decodeBytes_of_startsCode {high low : Char} {rest : List Char} {h l : Nat}
    (isHigh : digitValue? high = some h) (isLow : digitValue? low = some l) :
    decodeBytes ('%' :: high :: low :: rest) = UInt8.ofNat (16 * h + l) :: decodeBytes rest := by
  rw [decodeBytes, isHigh, isLow]

/-- Every character that does not begin a code stands for its own bytes. -/
theorem decodeBytes_cons {c : Char} (noCode : c = '%' → startsCode text = false) :
    decodeBytes (c :: text) = String.utf8EncodeChar c ++ decodeBytes text := by
  by_cases percent : c = '%'
  · -- a percent sign is no code if two characters are missing behind it, or one of the two is no digit
    subst percent
    have noCode := noCode rfl
    match text with
    | [] => simp [decodeBytes.eq_def]
    | [high] => simp [decodeBytes.eq_def]
    | high :: low :: rest =>
      rw [decodeBytes]
      split
      · next h l isHigh isLow => simp [startsCode, isHigh, isLow] at noCode
      · rfl
  · rw [decodeBytes]
    exact fun high low rest same _ => percent same

/-- A text in codes stands for its bytes. -/
theorem decodeBytes_flatMap_encodeByte (bytes : List UInt8) (rest : List Char) :
    decodeBytes (bytes.flatMap encodeByte ++ rest) = bytes ++ decodeBytes rest := by
  induction bytes with
  | nil => rfl
  | cons byte bytes ih =>
    have whole : 16 * (byte.toNat / 16) + byte.toNat % 16 = byte.toNat := Nat.div_add_mod _ _
    show decodeBytes ('%' :: upperHex _ :: upperHex _ :: (bytes.flatMap encodeByte ++ rest)) = _
    rw [decodeBytes_of_startsCode (digitValue?_upperHex_div byte) (digitValue?_upperHex_mod byte), ih,
      whole, UInt8.ofNat_toNat]
    rfl

/-- A digit is written as it is, and nothing else is written with a digit first. -/
theorem encodeChar_cases (keeps : set.KeepsCodes) (c : Char) :
    ((digitValue? c).isSome ∧ encodeChar set c = [c]) ∨
      (digitValue? c = none ∧ ∃ d more, encodeChar set c = d :: more ∧ digitValue? d = none) := by
  by_cases isDigit : (digitValue? c).isSome
  · exact .inl ⟨isDigit, encodeChar_of_plain (keeps.plain_digit isDigit)⟩
  · have none : digitValue? c = none := Option.not_isSome_iff_eq_none.1 isDigit
    refine .inr ⟨none, ?_⟩
    by_cases plain : Plain set c
    · exact ⟨c, [], encodeChar_of_plain plain, none⟩
    · rw [encodeChar_of_not_plain plain]
      obtain ⟨byte, bytes, same⟩ : ∃ byte bytes, String.utf8EncodeChar c = byte :: bytes :=
        List.exists_cons_of_ne_nil String.utf8EncodeChar_ne_nil
      rw [same]
      exact ⟨'%', _, rfl, by decide⟩

/-- A text begins with a code's digits after encoding exactly if it did before. -/
theorem startsCode_encode (keeps : set.KeepsCodes) (text : List Char) :
    startsCode (encode set text) = startsCode text := by
  -- only the first two characters count, and a code that is written for one of them begins with no digit
  match text with
  | [] => rfl
  | [c] =>
    obtain ⟨-, same⟩ | ⟨-, d, more, same, none⟩ := encodeChar_cases keeps c
    · simp [same, startsCode]
    · cases more <;> simp [same, startsCode, none]
  | c :: e :: rest =>
    obtain ⟨-, same⟩ | ⟨cNone, d, more, same, none⟩ := encodeChar_cases keeps c
    · obtain ⟨isDigit, same'⟩ | ⟨eNone, d, more, same', none⟩ := encodeChar_cases keeps e
      · simp [same, same', startsCode]
      · simp [same, same', startsCode, none, eNone]
    · cases more with
      | nil => cases written : encode set (e :: rest) <;> simp_all [startsCode]
      | cons => simp [same, startsCode, none, cNone]

/-- Induction along the reading of a text: a code is read in one step, every other character in one. -/
@[elab_as_elim]
theorem reading_induction {motive : List Char → Prop} (nil : motive [])
    (code : ∀ high low rest, (digitValue? high).isSome → (digitValue? low).isSome → motive rest →
      motive ('%' :: high :: low :: rest))
    (single : ∀ c rest, (c = '%' → startsCode rest = false) → motive rest → motive (c :: rest))
    (text : List Char) : motive text := by
  match text with
  | [] => exact nil
  | c :: rest =>
    by_cases begins : c = '%' ∧ startsCode rest
    · match rest, begins with
      | high :: low :: rest, ⟨percent, digits⟩ =>
        obtain ⟨isHigh, isLow⟩ := Bool.and_eq_true_iff.1 digits
        rw [percent]
        exact code high low rest isHigh isLow (reading_induction nil code single rest)
    · -- a percent sign without two digits behind it stands for itself
      have noCode : c = '%' → startsCode rest = false :=
        fun percent => Bool.eq_false_iff.2 fun digits => begins ⟨percent, digits⟩
      exact single c rest noCode (reading_induction nil code single rest)
termination_by text.length

/-- **Encoding keeps the meaning.** -/
theorem decodeBytes_encode (keeps : set.KeepsCodes) (text : List Char) :
    decodeBytes (encode set text) = decodeBytes text := by
  induction text using reading_induction with
  | nil => rfl
  | code high low rest isHigh isLow ih =>
    have written : encode set ('%' :: high :: low :: rest) = '%' :: high :: low :: encode set rest := by
      rw [encode_cons, encode_cons, encode_cons, encodeChar_of_plain keeps.plain_percent,
        encodeChar_of_plain (keeps.plain_digit isHigh), encodeChar_of_plain (keeps.plain_digit isLow)]
      rfl
    obtain ⟨h, isHigh⟩ := Option.isSome_iff_exists.1 isHigh
    obtain ⟨l, isLow⟩ := Option.isSome_iff_exists.1 isLow
    rw [written, decodeBytes_of_startsCode isHigh isLow, decodeBytes_of_startsCode isHigh isLow, ih]
  | single c rest noCode ih =>
    rw [encode_cons, decodeBytes_cons noCode, ← ih]
    -- a plain percent sign begins no code behind which nothing but the rest was encoded
    by_cases plain : Plain set c
    · rw [encodeChar_of_plain plain]
      exact decodeBytes_cons fun percent => (startsCode_encode keeps rest).trans (noCode percent)
    · rw [encodeChar_of_not_plain plain, decodeBytes_flatMap_encodeByte]

/-! ### Texts without codes -/

/-- Somewhere in the text stand a percent sign and two hexadecimal digits. -/
def HasCode (text : List Char) : Prop :=
  ∃ high low, (digitValue? high).isSome ∧ (digitValue? low).isSome ∧ ['%', high, low] <:+: text

theorem not_hasCode_nil : ¬ HasCode [] := by
  rintro ⟨high, low, -, -, inside⟩
  exact List.cons_ne_nil _ _ (List.infix_nil.1 inside)

theorem hasCode_cons {c : Char} :
    HasCode (c :: text) ↔ (c = '%' ∧ startsCode text) ∨ HasCode text := by
  constructor
  · rintro ⟨high, low, isHigh, isLow, inside⟩
    rcases List.infix_cons_iff.1 inside with first | later
    · obtain ⟨rest, same⟩ := first
      obtain ⟨rfl, rfl⟩ := List.cons.inj same
      exact .inl ⟨rfl, by simp [startsCode, isHigh, isLow]⟩
    · exact .inr ⟨high, low, isHigh, isLow, later⟩
  · rintro (⟨rfl, digits⟩ | ⟨high, low, isHigh, isLow, inside⟩)
    · match text, digits with
      | high :: low :: rest, digits =>
        obtain ⟨isHigh, isLow⟩ := Bool.and_eq_true_iff.1 digits
        exact ⟨high, low, isHigh, isLow, List.IsPrefix.isInfix ⟨rest, rfl⟩⟩
    · exact ⟨high, low, isHigh, isLow, List.infix_cons inside⟩

/-- A text stands for no more bytes than it has, and for fewer if there is a code in it. -/
theorem length_decodeBytes (text : List Char) :
    (decodeBytes text).length ≤ (utf8 text).length ∧
      (HasCode text → (decodeBytes text).length < (utf8 text).length) := by
  induction text using reading_induction with
  | nil => exact ⟨by simp, fun has => absurd has not_hasCode_nil⟩
  | code high low rest isHigh isLow ih =>
    obtain ⟨h, isHigh⟩ := Option.isSome_iff_exists.1 isHigh
    obtain ⟨l, isLow⟩ := Option.isSome_iff_exists.1 isLow
    -- a code is three characters and stands for one byte
    have shorter : (decodeBytes ('%' :: high :: low :: rest)).length <
        (utf8 ('%' :: high :: low :: rest)).length := by
      rw [decodeBytes_of_startsCode isHigh isLow, List.length_cons, utf8_cons, utf8_cons, utf8_cons,
        List.length_append, List.length_append, List.length_append]
      have one : (String.utf8EncodeChar '%').length = 1 := by decide
      have high := Char.utf8Size_pos high
      rw [← String.length_utf8EncodeChar] at high
      omega
    exact ⟨shorter.le, fun _ => shorter⟩
  | single c rest noCode ih =>
    have notHere : ¬ (c = '%' ∧ startsCode rest) := fun here => by
      rw [noCode here.1] at here
      exact Bool.false_ne_true here.2
    rw [decodeBytes_cons noCode, utf8_cons, List.length_append, List.length_append, hasCode_cons]
    exact ⟨Nat.add_le_add_left ih.1 _, fun has => Nat.add_lt_add_left (ih.2 (has.resolve_left notHere)) _⟩

theorem length_decodeBytes_le (text : List Char) : (decodeBytes text).length ≤ (utf8 text).length :=
  (length_decodeBytes text).1

theorem decodeBytes_of_not_hasCode (no : ¬ HasCode text) : decodeBytes text = utf8 text := by
  induction text with
  | nil => exact decodeBytes_nil
  | cons c text ih =>
    rw [hasCode_cons, not_or] at no
    have noCode : c = '%' → startsCode text = false :=
      fun percent => Bool.eq_false_iff.2 fun digits => no.1 ⟨percent, digits⟩
    rw [decodeBytes_cons noCode, ih no.2, utf8_cons]

/-- **Texts that stand for themselves.** They are the texts without a code. -/
theorem decodeBytes_eq_utf8_iff : decodeBytes text = utf8 text ↔ ¬ HasCode text := by
  refine ⟨fun same has => ?_, decodeBytes_of_not_hasCode⟩
  have shorter := (length_decodeBytes text).2 has
  rw [same] at shorter
  exact lt_irrefl _ shorter

/-! ### Dots -/

theorem toLower_of_not_ascii {c : Char} (beyond : ¬ c.toNat < 0x80) : c.toLower = c :=
  Text.toLower_of_toNat (by omega)

/-- Only letters are changed by making them small. -/
theorem eq_or_eq_toUpper_toLower (c : Char) : c = c.toLower ∨ c = c.toLower.toUpper := by
  by_cases ascii : c.toNat < 0x80
  · exact @of_ascii (fun c => c = c.toLower ∨ c = c.toLower.toUpper) (by decide) c ascii
  · exact .inl (toLower_of_not_ascii ascii).symm

theorem eq_or_eq_of_toLower_eq {c d : Char} (small : c.toLower = d) : c = d ∨ c = d.toUpper :=
  small ▸ eq_or_eq_toUpper_toLower c

theorem isSingleDot_iff {segment : List Char} :
    isSingleDot segment ↔
      Text.lowerAscii segment = ".".toList ∨ Text.lowerAscii segment = "%2e".toList := by
  rw [isSingleDot, Bool.or_eq_true, decide_eq_true_eq, decide_eq_true_eq]

/-- The three spellings of a dot. -/
theorem eq_of_isSingleDot {segment : List Char} (single : isSingleDot segment) :
    segment = ['.'] ∨ segment = ['%', '2', 'e'] ∨ segment = ['%', '2', 'E'] := by
  rcases isSingleDot_iff.1 single with dot | code
  · obtain ⟨c, rest, rfl, small, nil⟩ := List.map_eq_cons_iff.1 (show segment.map _ = ['.'] from dot)
    rw [List.map_eq_nil_iff.1 nil]
    rcases eq_or_eq_of_toLower_eq small with rfl | rfl <;> exact .inl rfl
  · obtain ⟨a, rest, rfl, smallA, more⟩ :=
      List.map_eq_cons_iff.1 (show segment.map _ = ['%', '2', 'e'] from code)
    obtain ⟨b, rest, rfl, smallB, more⟩ := List.map_eq_cons_iff.1 more
    obtain ⟨c, rest, rfl, smallC, nil⟩ := List.map_eq_cons_iff.1 more
    rw [List.map_eq_nil_iff.1 nil]
    have a : a = '%' := (eq_or_eq_of_toLower_eq smallA).elim id id
    have b : b = '2' := (eq_or_eq_of_toLower_eq smallB).elim id id
    rw [a, b]
    -- the letter alone can be written in two ways
    rcases eq_or_eq_of_toLower_eq smallC with rfl | rfl
    · exact .inr (.inl rfl)
    · exact .inr (.inr rfl)

/-- What counts as two dots is made of two that count as one. -/
theorem exists_of_isDoubleDot {segment : List Char} (double : isDoubleDot segment) :
    ∃ first second, segment = first ++ second ∧ isSingleDot first ∧ isSingleDot second := by
  -- each of the two dots is written plainly or as a code
  have cut : ∃ small small', Text.lowerAscii segment = small ++ small' ∧
      (small = ".".toList ∨ small = "%2e".toList) ∧ (small' = ".".toList ∨ small' = "%2e".toList) := by
    simp only [isDoubleDot, List.any_cons, List.any_nil, Bool.or_eq_true, decide_eq_true_eq] at double
    rcases double with same | same | same | same | impossible
    · exact ⟨".".toList, ".".toList, same.symm, by decide, by decide⟩
    · exact ⟨".".toList, "%2e".toList, same.symm, by decide, by decide⟩
    · exact ⟨"%2e".toList, ".".toList, same.symm, by decide, by decide⟩
    · exact ⟨"%2e".toList, "%2e".toList, same.symm, by decide, by decide⟩
    · exact absurd impossible Bool.false_ne_true
  obtain ⟨small, small', same, dot, dot'⟩ := cut
  obtain ⟨first, second, rfl, rfl, rfl⟩ := List.map_eq_append_iff.1 same
  exact ⟨first, second, rfl, isSingleDot_iff.2 dot, isSingleDot_iff.2 dot'⟩

/-- What counts as a dot stands for a dot, whatever follows. -/
theorem decodeBytes_append_of_isSingleDot {dot : List Char} (single : isSingleDot dot)
    (rest : List Char) : decodeBytes (dot ++ rest) = utf8 ['.'] ++ decodeBytes rest := by
  rcases eq_of_isSingleDot single with rfl | rfl | rfl
  · exact decodeBytes_cons fun percent => absurd percent (by decide)
  · exact @decodeBytes_of_startsCode '2' 'e' rest 2 14 (by decide) (by decide)
  · exact @decodeBytes_of_startsCode '2' 'E' rest 2 14 (by decide) (by decide)

theorem decodeBytes_of_isSingleDot {segment : List Char} (single : isSingleDot segment) :
    decodeBytes segment = utf8 ['.'] := by
  have whole := decodeBytes_append_of_isSingleDot single []
  rwa [List.append_nil, decodeBytes_nil, List.append_nil] at whole

theorem decodeBytes_of_isDoubleDot {segment : List Char} (double : isDoubleDot segment) :
    decodeBytes segment = utf8 ['.', '.'] := by
  obtain ⟨first, second, rfl, dot, dot'⟩ := exists_of_isDoubleDot double
  rw [decodeBytes_append_of_isSingleDot dot, decodeBytes_of_isSingleDot dot']
  rfl

end ServiceProbe.Url
