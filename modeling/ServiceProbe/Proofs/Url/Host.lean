import Mathlib.Data.List.Basic
import ServiceProbe.Proofs.Url.Address
import ServiceProbe.Proofs.Url.Encoding
import ServiceProbe.Proofs.Url.Punycode

/-!
# Hosts are read back from their texts

What is read as a host is canonical (`canonical_of_parse`), and a canonical host is read back from its text
(`parse_render`). For addresses this is about their numbers. A name is canonical if it is read as itself, which
holds of every name that was read (`domainName?_domainName?`): its labels are in ASCII and in small letters, and
a label that had characters beyond ASCII is encoded so that it can be read back.

The text of a canonical host does not run into what stands around it in a URL: it has no character that would end
the authority (`Canonical.inner`), and a colon behind it is found to be the one before the port
(`Canonical.splitHost_render`).
-/

namespace ServiceProbe.Url

open Text (splitOn lowerAscii toLower_of_toNat)

namespace Host

/-! ### Characters of names -/

/-- A character that stays as it is in a name. -/
def Kept (c : Char) : Prop :=
  c.toNat < 0x80 ∧ nameChar c = [c]

theorem kept_of_toLower {c : Char} (ascii : c.toNat < 0x80) (small : c.toLower = c) : Kept c :=
  ⟨ascii, @of_ascii (fun c => c.toLower = c → nameChar c = [c]) (by decide) c ascii small⟩

/-- The small letters of capitals beyond ASCII are no capitals of ASCII. -/
theorem capitalRuns_bound : ∀ run ∈ Text.capitalRuns, 90 < (run.1 : Int) + run.2.2.2 := by
  decide +kernel

theorem toLower_ofNat {n : Nat} (big : 90 < n) : (Char.ofNat n).toLower = Char.ofNat n := by
  by_cases valid : n.isValidChar
  · refine toLower_of_toNat ?_
    have same : (Char.ofNat n).toNat = n := by
      rw [Char.ofNat, dif_pos valid]
      rfl
    omega
  · rw [Char.ofNat, dif_neg valid]
    rfl

/-- A small letter is no capital of ASCII. -/
theorem toLower_smallLetter (c : Char) : (Text.smallLetter c).toLower = Text.smallLetter c := by
  rw [Text.smallLetter]
  split
  · next ascii => exact @of_ascii (fun c => c.toLower.toLower = c.toLower) (by decide) c ascii
  · next beyond =>
    split
    · next first last step distance found =>
      -- letters are moved within their run of the table, and no run is moved to the capitals of ASCII
      have bound := capitalRuns_bound _ (List.mem_of_find?_eq_some found)
      have inside := List.find?_some found
      simp only [Bool.and_eq_true, decide_eq_true_eq] at inside bound
      exact toLower_ofNat (by omega)
    · exact toLower_of_not_ascii beyond

/-- What a character becomes in a name is kept there, if it is in ASCII. -/
theorem kept_of_mem_nameChar {c d : Char} (becomes : c ∈ nameChar d) (ascii : c.toNat < 0x80) :
    Kept c := by
  refine kept_of_toLower ascii ?_
  -- a character goes away, becomes a point, an i with a mark behind it, or its small letter
  rw [nameChar] at becomes
  split at becomes
  · exact absurd becomes List.not_mem_nil
  · split at becomes
    · rw [List.mem_singleton.1 becomes]
      rfl
    · split at becomes
      · rcases List.mem_cons.1 becomes with rfl | mark
        · rfl
        · rw [List.mem_singleton.1 mark]
          decide
      · rw [List.mem_singleton.1 becomes]
        exact toLower_smallLetter d

theorem kept_of_isDigit {c : Char} (isDigit : Punycode.IsDigit c) : Kept c ∧ c ≠ '.' := by
  obtain ⟨n, small, rfl⟩ := isDigit
  have all : ∀ n < 36, ((Punycode.digit n).toNat < 0x80 ∧ nameChar (Punycode.digit n) = [Punycode.digit n]) ∧
      Punycode.digit n ≠ '.' := by
    decide
  exact all n small

/-! ### Labels -/

/-- A label as it stands in a canonical name: it is kept, and is the label that it is read as. -/
structure KeptLabel (label : List Char) : Prop where
  kept : ∀ c ∈ label, Kept c
  noPoint : '.' ∉ label
  same : label? label = some label

theorem kept_of_mem_encodedMark : ∀ c ∈ encodedMark, Kept c ∧ c ≠ '.' := by
  have all : ∀ c ∈ encodedMark, (c.toNat < 0x80 ∧ nameChar c = [c]) ∧ c ≠ '.' :=
    List.all_iff_forall_prop.1 (by decide)
  exact all

/-- **Labels are kept** once they were written. -/
theorem keptLabel_of_label? {label written : List Char} (noPoint : '.' ∉ label)
    (named : ∀ c ∈ label, c.toNat < 0x80 → Kept c) (write : label? label = some written) :
    KeptLabel written := by
  have wrote := write
  rw [label?] at write
  split at write
  · next code after =>
    -- a label that is encoded already is written as it is
    obtain ⟨meant, read, sound⟩ := Option.bind_eq_some_iff.1 write
    split at sound
    · obtain rfl := Option.some.inj sound
      refine ⟨fun c member => named c member ?_, noPoint, wrote⟩
      rw [Text.after?_eq_some_iff.1 after, List.mem_append] at member
      rcases member with mark | inCode
      · exact (kept_of_mem_encodedMark c mark).1.1
      · exact Punycode.ascii_of_decode? read c inCode
    · exact absurd sound (Option.some_ne_none written).symm
  · split at write
    · next ascii =>
      obtain rfl := Option.some.inj write
      rw [List.all_eq_true] at ascii
      exact ⟨fun c member => named c member (of_decide_eq_true (ascii c member)), noPoint, wrote⟩
    · next beyond =>
      split at write
      · next sound =>
        -- a label beyond ASCII is encoded, and is read back from its code
        obtain rfl := Option.some.inj write
        have kept : ∀ c ∈ encodedMark ++ Punycode.encode label, Kept c ∧ c ≠ '.' := by
          refine List.forall_mem_append.2 ⟨kept_of_mem_encodedMark, fun c member => ?_⟩
          rcases Punycode.of_mem_encode member with basic | rfl | isDigit
          · obtain ⟨inLabel, ascii⟩ := List.mem_filter.1 basic
            exact ⟨named c inLabel (of_decide_eq_true ascii), fun point => noPoint (point ▸ inLabel)⟩
          · exact ⟨kept_of_toLower (by decide) (by decide), by decide⟩
          · exact kept_of_isDigit isDigit
        have any : label.any (0x80 ≤ ·.toNat) := by
          simpa [Nat.not_lt] using beyond
        refine ⟨fun c member => (kept c member).1, fun member => (kept _ member).2 rfl, ?_⟩
        rw [label?, Text.after?_eq_some_iff.2 rfl]
        simp only [Punycode.decode?_encode, Option.bind_some, any, sound, Bool.and_self, if_true]
      · exact absurd write (Option.some_ne_none written).symm

/-! ### Names -/

/-- A name of kept labels is read as itself. -/
theorem domainName?_of_keptLabel {labels : List (List Char)} (some : labels ≠ [])
    (kept : ∀ label ∈ labels, KeptLabel label)
    (allowed : (['.'].intercalate labels).any isForbidden = false) :
    domainName? (['.'].intercalate labels) = Option.some (['.'].intercalate labels) := by
  set name := ['.'].intercalate labels with isName
  -- a percent sign is forbidden in a name, so there is nothing to decode
  have noPercent : '%' ∉ name := fun member => by
    have forbidden := List.any_eq_false.1 allowed '%' member
    exact forbidden (by decide)
  have noCode : ¬ HasCode name := by
    rintro ⟨high, low, -, -, inside⟩
    exact noPercent (inside.mem List.mem_cons_self)
  have keptChars : ∀ c ∈ name, nameChar c = [c] := by
    intro c member
    rcases of_mem_intercalate member with rfl | ⟨label, among, inside⟩
    · decide
    · exact ((kept label among).kept c inside).2
  have same : name.flatMap nameChar = name := by
    rw [List.flatMap_congr keptChars]
    exact List.flatMap_singleton' name
  have parts : splitOn '.' name = labels := by
    rw [splitOn_eq_splitOn]
    exact List.splitOn_intercalate '.' (fun label member => (kept label member).noPoint) some
  have written : labels.mapM label? = Option.some labels := by
    have each := @mapM_map _ label? id labels fun label member => (kept label member).same
    rwa [List.map_id] at each
  rw [domainName?, decodeBytes_of_not_hasCode noCode, fromUTF8?_utf8]
  simp only [Option.bind_eq_bind, Option.bind_some, String.toList_ofList, same, parts, written]
  rw [show "." = String.singleton '.' from rfl, toList_joinWith, ← isName, allowed]
  rfl

/-- What is read as a name is made of kept labels. -/
theorem exists_of_domainName? {text name : List Char} (read : domainName? text = some name) :
    ∃ labels, labels ≠ [] ∧ name = ['.'].intercalate labels ∧ (∀ label ∈ labels, KeptLabel label) ∧
      name.any isForbidden = false := by
  obtain ⟨decoded, -, read⟩ := Option.bind_eq_some_iff.1 read
  obtain ⟨labels, written, read⟩ := Option.bind_eq_some_iff.1 read
  rw [show "." = String.singleton '.' from rfl, toList_joinWith] at read
  simp only at read
  split at read
  · exact absurd read (Option.some_ne_none name).symm
  · next allowed =>
    obtain rfl := Option.some.inj read
    refine ⟨labels, ?_, rfl, ?_, Bool.eq_false_iff.2 allowed⟩
    · -- a text has at least one part, and for each part a label was written
      rintro rfl
      have some := splitBy_ne_nil (· == '.') (decoded.toList.flatMap nameChar)
      rw [← splitOn_eq_splitBy] at some
      obtain ⟨first, more, parts⟩ := List.exists_cons_of_ne_nil some
      rw [parts, List.mapM_cons] at written
      obtain ⟨_, -, written⟩ := Option.bind_eq_some_iff.1 written
      obtain ⟨_, -, written⟩ := Option.bind_eq_some_iff.1 written
      exact List.cons_ne_nil _ _ (Option.some.inj written)
    · refine forall_of_mapM (fun label among written => ?_) written
      rw [splitOn_eq_splitBy] at among
      refine keptLabel_of_label? (fun point => ?_) (fun c inside ascii => ?_)
      · exact absurd (of_mem_splitBy among point).2 (by decide)
      · obtain ⟨d, -, becomes⟩ := List.mem_flatMap.1 (of_mem_splitBy among inside).1
        exact kept_of_mem_nameChar becomes ascii

/-- **Names are kept** once they were read. -/
theorem domainName?_domainName? {text name : List Char} (read : domainName? text = some name) :
    domainName? name = some name := by
  obtain ⟨labels, some, rfl, kept, allowed⟩ := exists_of_domainName? read
  exact domainName?_of_keptLabel some kept allowed

/-! ### Hosts -/

/-- A host as reading gives it. -/
inductive Canonical : Host → Prop where
  | domain {name : List Char} (read : domainName? name = some name) (some : name ≠ [])
      (noNumber : endsInNumber name = false) : Canonical (.domain name)
  | ipv4 {address : Nat} (small : address < 2 ^ 32) : Canonical (.ipv4 address)
  | ipv6 {groups : List Nat} (eight : groups.length = 8) (small : ∀ group ∈ groups, group < 65536) :
      Canonical (.ipv6 groups)

theorem canonical_of_parseIpv6 {text : List Char} {host : Host} (read : parseIpv6 text = .ok host) :
    Canonical host := by
  rw [parseIpv6] at read
  split at read
  · next groups same =>
    obtain ⟨eight, small⟩ := eight_of_ipv6Groups? same
    exact Except.ok.inj read ▸ .ipv6 eight small
  · exact absurd read (by simp)

/-- **What is read as a host is canonical.** -/
theorem canonical_of_parse {text : List Char} {host : Host} (read : parse text = .ok host) :
    Canonical host := by
  rw [parse.eq_def] at read
  split at read
  · exact absurd read (by simp)
  · split at read
    · exact canonical_of_parseIpv6 read
    · exact absurd read (by simp)
  · split at read
    · exact absurd read (by simp)
    · exact absurd read (by simp)
    · -- a name that ends in a number is an address, or no host at all
      next name some same =>
      split at read
      · obtain ⟨address, rfl, small⟩ := lt_of_parseIpv4 read
        exact .ipv4 small
      · next noNumber =>
        obtain rfl := Except.ok.inj read
        exact .domain (domainName?_domainName? same) some (Bool.eq_false_iff.2 noNumber)

/-- A text that begins with no bracket is read as a name. -/
theorem parse_of_domainName? {name : List Char} (read : domainName? name = some name) (some : name ≠ []) :
    parse name = if endsInNumber name then parseIpv4 name else .ok (domain name) := by
  obtain ⟨-, -, -, -, allowed⟩ := exists_of_domainName? read
  obtain ⟨c, rest, rfl⟩ := List.exists_cons_of_ne_nil some
  have noBracket : c ≠ '[' := by
    rintro rfl
    exact List.any_eq_false.1 allowed '[' List.mem_cons_self (by decide)
  rw [parse]
  · rw [read]
  · exact List.cons_ne_nil c rest
  · rintro rest' same
    exact noBracket (List.cons.inj same).1

theorem kept_of_isDigit_decimal {c : Char} (isDigit : c.isDigit) : Kept c ∧ isForbidden c = false := by
  have ascii : c.toNat < 0x80 := (toNat_le_of_isDigit isDigit).trans_lt (by decide)
  refine ⟨⟨ascii, ?_⟩, ?_⟩
  · exact @of_ascii (fun c => c.isDigit → nameChar c = [c]) (by decide) c ascii isDigit
  · exact @of_ascii (fun c => c.isDigit → isForbidden c = false) (by decide) c ascii isDigit

theorem keptLabel_toDigits (n : Nat) : KeptLabel (Nat.toDigits 10 n) := by
  have digits : ∀ c ∈ Nat.toDigits 10 n, Kept c :=
    fun c member => (kept_of_isDigit_decimal (isDigit_of_mem_toDigits member)).1
  refine ⟨digits, fun member => absurd (isDigit_of_mem_toDigits member) (by decide), ?_⟩
  -- the mark of encoded labels begins with a letter
  have unmarked : Text.after? encodedMark (Nat.toDigits 10 n) = none := by
    rw [Option.eq_none_iff_forall_ne_some]
    intro rest after
    have mark : 'x' ∈ Nat.toDigits 10 n := by
      rw [Text.after?_eq_some_iff.1 after]
      exact List.mem_append_left rest (by decide)
    exact absurd (isDigit_of_mem_toDigits mark) (by decide)
  have ascii : (Nat.toDigits 10 n).all (·.toNat < 0x80) :=
    List.all_eq_true.2 fun c member => decide_eq_true (digits c member).1
  rw [label?, unmarked]
  exact if_pos ascii

theorem domainName?_renderIpv4 (address : Nat) :
    domainName? (renderIpv4 address) = some (renderIpv4 address) := by
  have allowed : (renderIpv4 address).any isForbidden = false := by
    refine List.any_eq_false.2 fun c member => Bool.eq_false_iff.1 ?_
    rcases of_mem_renderIpv4 member with rfl | isDigit
    · decide
    · exact (kept_of_isDigit_decimal isDigit).2
  rw [renderIpv4_eq] at allowed ⊢
  refine domainName?_of_keptLabel (by simp [octets]) (fun label member => ?_) allowed
  obtain ⟨n, -, rfl⟩ := List.mem_map.1 member
  exact keptLabel_toDigits n

/-- **Canonical hosts are read back.** -/
theorem parse_render {host : Host} (canonical : Canonical host) : parse host.render = .ok host := by
  cases canonical with
  | domain read some noNumber =>
    rw [render, parse_of_domainName? read some, noNumber]
    rfl
  | @ipv4 address small =>
    -- the text of an address is a name that ends in a number, so it is read as an address again
    have some : renderIpv4 address ≠ [] := by
      intro none
      have number := endsInNumber_renderIpv4 address
      rw [none] at number
      exact absurd number (by decide)
    rw [render, parse_of_domainName? (domainName?_renderIpv4 address) some,
      if_pos (endsInNumber_renderIpv4 address), parseIpv4_renderIpv4 small]
  | @ipv6 groups eight small =>
    rw [render, List.cons_append, parse, if_pos (by simp), List.dropLast_concat, parseIpv6,
      ipv6Groups?_renderIpv6 eight small]

/-! ### Within an authority -/

end Host

/-- A character that neither ends an authority nor is dropped: no blank or control character, slash, question
mark or number sign. -/
def Inner (c : Char) : Prop :=
  isEdge c = false ∧ isSlash c = false ∧ c ≠ '?' ∧ c ≠ '#'

instance (c : Char) : Decidable (Inner c) :=
  inferInstanceAs (Decidable (_ ∧ _))

namespace Host

/-- A character that stands in a host outside brackets: none of those that mean something in an authority. -/
structure Named (c : Char) : Prop where
  inner : Inner c
  noAt : c ≠ '@'
  noColon : c ≠ ':'
  noBracket : c ≠ '[' ∧ c ≠ ']'

theorem named_of_not_isForbidden {c : Char} (allowed : isForbidden c = false) : Named c := by
  have noEdge : isEdge c = false := by
    rw [← Bool.not_eq_true]
    intro edge
    have ascii : c.toNat < 0x80 := (of_decide_eq_true edge).trans_lt (by decide)
    have forbidden := @of_ascii (fun c => isEdge c → isForbidden c) (by decide) c ascii edge
    rw [allowed] at forbidden
    exact Bool.false_ne_true forbidden
  -- all characters that cut a URL are forbidden in a host
  have other : ∀ {d : Char}, isForbidden d → c ≠ d := by
    rintro d forbidden rfl
    rw [allowed] at forbidden
    exact Bool.false_ne_true forbidden
  have noSlash : isSlash c = false := by
    rw [isSlash, Bool.or_eq_false_iff, decide_eq_false_iff_not, decide_eq_false_iff_not]
    exact ⟨other (by decide), other (by decide)⟩
  exact ⟨⟨noEdge, noSlash, other (by decide), other (by decide)⟩, other (by decide), other (by decide),
    other (by decide), other (by decide)⟩

/-- A canonical host is a name or numbers in characters of names, or stands in brackets. -/
theorem Canonical.cases_render {host : Host} (canonical : Canonical host) :
    (∀ c ∈ host.render, Named c) ∨
      ∃ body, host.render = '[' :: body ++ [']'] ∧ ∀ c ∈ body, c = ':' ∨ (Text.digitValue? c).isSome := by
  cases canonical with
  | domain read some noNumber =>
    obtain ⟨-, -, -, -, allowed⟩ := exists_of_domainName? read
    exact .inl fun c member =>
      named_of_not_isForbidden (Bool.eq_false_iff.2 (List.any_eq_false.1 allowed c member))
  | ipv4 small =>
    refine .inl fun c member => named_of_not_isForbidden ?_
    -- an address of four numbers consists of digits and points
    rcases of_mem_renderIpv4 member with rfl | isDigit
    · decide
    · exact (kept_of_isDigit_decimal isDigit).2
  | @ipv6 groups eight small =>
    exact .inr ⟨renderIpv6 groups, rfl, fun c => of_mem_renderIpv6⟩

theorem inner_of_isSome_digitValue? {c : Char} (isDigit : (Text.digitValue? c).isSome) :
    Inner c ∧ c ≠ '@' ∧ c ≠ '[' ∧ c ≠ ']' :=
  @of_ascii (fun c => (Text.digitValue? c).isSome → Inner c ∧ c ≠ '@' ∧ c ≠ '[' ∧ c ≠ ']') (by decide) c
    (toNat_lt_of_isSome_digitValue? isDigit) isDigit

/-- **A host ends no authority.** -/
theorem Canonical.inner {host : Host} (canonical : Canonical host) {c : Char} (member : c ∈ host.render) :
    Inner c ∧ c ≠ '@' := by
  obtain named | ⟨body, same, digits⟩ := canonical.cases_render
  · exact ⟨(named c member).inner, (named c member).noAt⟩
  · rw [same, List.cons_append, List.mem_cons, List.mem_append, List.mem_singleton] at member
    rcases member with rfl | inside | rfl
    · decide
    · rcases digits c inside with rfl | isDigit
      · decide
      · have inner := inner_of_isSome_digitValue? isDigit
        exact ⟨inner.1, inner.2.1⟩
    · decide

theorem Canonical.render_ne_nil {host : Host} (canonical : Canonical host) : host.render ≠ [] := by
  intro none
  have read := parse_render canonical
  rw [none, parse] at read
  exact absurd read (by simp)

/-- Characters outside brackets belong to the host up to a colon. -/
theorem splitHost_append {text : List Char} (named : ∀ c ∈ text, c ≠ ':' ∧ c ≠ '[' ∧ c ≠ ']')
    (rest : List Char) :
    splitHost false (text ++ rest) = (text ++ (splitHost false rest).1, (splitHost false rest).2) := by
  induction text with
  | nil => rfl
  | cons c text ih =>
    obtain ⟨⟨noColon, noOpening, noClosing⟩, more⟩ := List.forall_mem_cons.1 named
    rw [List.cons_append, splitHost, if_neg (by simp [noColon]), if_neg noOpening, if_neg noClosing,
      ih more]
    rfl

/-- Between brackets, colons belong to the host. -/
theorem splitHost_bracketed {text : List Char} (inside : ∀ c ∈ text, c ≠ '[' ∧ c ≠ ']')
    (rest : List Char) :
    splitHost true (text ++ ']' :: rest) =
      (text ++ ']' :: (splitHost false rest).1, (splitHost false rest).2) := by
  induction text with
  | nil => rfl
  | cons c text ih =>
    obtain ⟨⟨noOpening, noClosing⟩, more⟩ := List.forall_mem_cons.1 inside
    rw [List.cons_append, splitHost, if_neg (by simp), if_neg noOpening, if_neg noClosing, ih more]
    rfl

/-- **The end of a host is found.** -/
theorem Canonical.splitHost_render {host : Host} (canonical : Canonical host) (rest : List Char) :
    splitHost false (host.render ++ rest) =
      (host.render ++ (splitHost false rest).1, (splitHost false rest).2) := by
  obtain named | ⟨body, same, digits⟩ := canonical.cases_render
  · exact splitHost_append
      (fun c member => ⟨(named c member).noColon, (named c member).noBracket⟩) rest
  · have inside : ∀ c ∈ body, c ≠ '[' ∧ c ≠ ']' := by
      intro c member
      rcases digits c member with rfl | isDigit
      · decide
      · exact (inner_of_isSome_digitValue? isDigit).2.2
    have whole : '[' :: body ++ [']'] ++ rest = '[' :: (body ++ ']' :: rest) := by simp
    rw [same, whole, splitHost, if_neg (by decide), if_pos rfl, splitHost_bracketed inside]
    simp

end Host

end ServiceProbe.Url
