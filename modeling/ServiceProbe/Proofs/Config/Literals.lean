import Mathlib.Data.List.TakeWhile
import ServiceProbe.Config.Toml

/-!
# Whole numbers in a document

A value that is a whole number in decimal is read as exactly that number, or makes the document unreadable.

* `readValue_of_decimal` — the setting that a whole number in decimal is read as.

The number must end where it seems to end: what follows it is none of the characters that numbers, dates and
times have (`EndsNumber`).
-/

namespace ServiceProbe.Config.Toml

open Number (Double digitsValue splitSign splitSign_cases)

/-- A digit, or an underscore between digits. -/
def isDecimalChar (c : Char) : Bool :=
  c.isDigit || c = '_'

/-- The digits and underscores of a whole number, after its sign. -/
def IsDecimalBody (body : List Char) : Prop :=
  body ≠ [] ∧ ∀ c ∈ body, isDecimalChar c

/-- A whole number in decimal: a sign, if it has one, and digits, perhaps with underscores among them. -/
def IsDecimal (literal : List Char) (n : Int) : Prop :=
  ∃ negative body, splitSign literal = (negative, body) ∧ IsDecimalBody body ∧
    n = if negative then -(digitsValue (body.filter Char.isDigit) : Int)
      else digitsValue (body.filter Char.isDigit)

/-- A number before this text ends where the text begins. -/
def EndsNumber (rest : List Char) : Prop :=
  ∀ c, rest.head? = some c → isNumberChar c = false

variable {literal body rest : List Char} {n : Int}

/-! ### Characters -/

theorem isDecimalChar_cases {c : Char} (h : isDecimalChar c) : c.isDigit ∨ c = '_' := by
  rcases Bool.or_eq_true_iff.1 h with digit | underscore
  · exact .inl digit
  · exact .inr (of_decide_eq_true underscore)

theorem isNumberChar_of_isDigit {c : Char} (digit : c.isDigit) : isNumberChar c := by
  rw [isNumberChar, Char.isAlphanum, digit, Bool.or_true, Bool.true_or]

theorem isNumberChar_of_isDecimalChar {c : Char} (h : isDecimalChar c) : isNumberChar c := by
  rcases isDecimalChar_cases h with digit | rfl
  · exact isNumberChar_of_isDigit digit
  · rfl

/-- A character that no whole number has after its sign. -/
theorem ne_of_isDecimalChar {c mark : Char} (h : isDecimalChar c) (other : isDecimalChar mark = false) :
    c ≠ mark := by
  rintro rfl
  exact Bool.false_ne_true (other.symm.trans h)

/-- The first character of a whole number is a sign, a digit or an underscore. -/
theorem IsDecimal.exists_cons (h : IsDecimal literal n) :
    ∃ c more, literal = c :: more ∧ (c = '+' ∨ c = '-' ∨ isDecimalChar c) := by
  obtain ⟨negative, body, isSplit, ⟨some, all⟩, -⟩ := h
  rcases splitSign_cases isSplit with ⟨rfl, -⟩ | ⟨sign, isSign, rfl⟩
  · obtain ⟨c, more, rfl⟩ := List.exists_cons_of_ne_nil some
    exact ⟨c, more, rfl, .inr (.inr (all c List.mem_cons_self))⟩
  · exact ⟨sign, body, rfl, isSign.imp_right .inl⟩

theorem IsDecimal.isNumberChar (h : IsDecimal literal n) : ∀ c ∈ literal, isNumberChar c := by
  obtain ⟨negative, body, isSplit, ⟨-, all⟩, -⟩ := h
  intro c member
  rcases splitSign_cases isSplit with ⟨rfl, -⟩ | ⟨sign, isSign, rfl⟩
  · exact isNumberChar_of_isDecimalChar (all c member)
  · rcases List.mem_cons.1 member with rfl | member
    · rcases isSign with rfl | rfl <;> rfl
    · exact isNumberChar_of_isDecimalChar (all c member)

/-! ### No date and no time -/

/-- After digits no mark of a date or a time follows. -/
theorem drop_append_ne_cons (ends : EndsNumber rest) {mark : Char} (isMark : isNumberChar mark)
    (other : isDecimalChar mark = false) {length : Nat} (all : ∀ c ∈ body, isDecimalChar c)
    (isLength : ((body ++ rest).take length).length = length)
    (digits : ((body ++ rest).take length).all Char.isDigit) (more : List Char) :
    (body ++ rest).drop length ≠ mark :: more := by
  induction length generalizing body with
  | zero =>
    intro same
    rw [List.drop_zero] at same
    cases body with
    | nil =>
      have head : rest.head? = some mark := by
        rw [← List.nil_append rest, same]
        rfl
      exact Bool.false_ne_true ((ends mark head).symm.trans isMark)
    | cons c body =>
      -- no decimal character is a mark of dates or times
      obtain rfl : c = mark := (List.cons.inj same).1
      exact ne_of_isDecimalChar (all c List.mem_cons_self) other rfl
  | succ length ih =>
    cases body with
    | nil =>
      -- the digits would go on behind the number, where it ends
      cases rest with
      | nil => exact absurd isLength (by simp)
      | cons c rest =>
        rw [List.nil_append, List.take_succ_cons, List.all_cons, Bool.and_eq_true] at digits
        exact absurd (isNumberChar_of_isDigit digits.1) (by rw [ends c rfl]; exact Bool.false_ne_true)
    | cons c body =>
      rw [List.cons_append, List.take_succ_cons, List.all_cons, Bool.and_eq_true] at digits
      rw [List.cons_append, List.take_succ_cons, List.length_cons] at isLength
      exact ih (fun c member => all c (List.mem_cons_of_mem _ member)) (Nat.succ.inj isLength) digits.2

/-- A field of a date or a time that is read from a whole number is not followed by its mark. -/
theorem expect_of_field (decimal : IsDecimal literal n) (ends : EndsNumber rest) (mark : Char)
    (isMark : isNumberChar mark) (other : isDecimalChar mark = false) {length low high : Nat}
    (long : 0 < length) {digits after : List Char}
    (isField : field length low high (literal ++ rest) = some (digits, after)) : expect mark after = none := by
  unfold field at isField
  dsimp only at isField
  split at isField
  · next valid =>
    simp only [Bool.and_eq_true, decide_eq_true_eq] at valid
    obtain ⟨⟨⟨isLength, isDigits⟩, -⟩, -⟩ := valid
    obtain rfl : (literal ++ rest).drop length = after := (Prod.mk.inj (Option.some.inj isField)).2
    have none : ∀ more, (literal ++ rest).drop length ≠ mark :: more := by
      obtain ⟨negative, body, isSplit, ⟨-, all⟩, -⟩ := decimal
      rcases splitSign_cases isSplit with ⟨rfl, -⟩ | ⟨sign, isSign, rfl⟩
      · exact drop_append_ne_cons ends isMark other all isLength isDigits
      · -- a sign is no digit
        obtain ⟨less, rfl⟩ := Nat.exists_eq_succ_of_ne_zero long.ne'
        rw [List.cons_append, List.take_succ_cons, List.all_cons, Bool.and_eq_true] at isDigits
        rcases isSign with rfl | rfl
        · exact absurd isDigits.1 (by decide)
        · exact absurd isDigits.1 (by decide)
    unfold expect
    split
    · next d after' same =>
      refine if_neg ?_
      rintro rfl
      exact none _ same
    · rfl
  · cases isField

theorem dateTime_of_decimal (decimal : IsDecimal literal n) (ends : EndsNumber rest) :
    dateTime (literal ++ rest) = none := by
  -- a date would go on with a dash behind its year, and a time with a colon behind its hour
  have noDate : date (literal ++ rest) = none := by
    unfold date
    cases isField : field 4 0 9999 (literal ++ rest) with
    | none => rfl
    | some read =>
      obtain ⟨year, after⟩ := read
      have noMark := expect_of_field decimal ends '-' rfl rfl (Nat.succ_pos 3) isField
      simp only [Option.bind_eq_bind, Option.bind_some, noMark, Option.bind_none]
  have noTime : time (literal ++ rest) = none := by
    unfold time
    cases isField : field 2 0 23 (literal ++ rest) with
    | none => rfl
    | some read =>
      obtain ⟨hour, after⟩ := read
      have noMark := expect_of_field decimal ends ':' rfl rfl (Nat.succ_pos 1) isField
      simp only [Option.bind_eq_bind, Option.bind_some, noMark, Option.bind_none]
  unfold dateTime
  rw [noDate]
  exact noTime

/-! ### The number -/

/-- Underscores between digits are left out. -/
theorem eq_filter_of_groupedDigits? {digits : List Char} (all : ∀ c ∈ body, isDecimalChar c)
    (h : groupedDigits? Char.isDigit body = some digits) : digits = body.filter Char.isDigit := by
  -- each step takes a digit, or a digit and the mark that groups it with the next
  fun_induction groupedDigits? Char.isDigit body generalizing digits with
  | case1 => cases h
  | case2 c digit =>
    rw [List.filter_cons_of_pos digit]
    exact (Option.some.inj h).symm
  | case3 => cases h
  | case4 c rest digit ih =>
    obtain ⟨inner, isInner, rfl⟩ := Option.map_eq_some_iff.1 h
    rw [List.filter_cons_of_pos digit, List.filter_cons_of_neg (by decide),
      ih (fun c member => all c (List.mem_cons_of_mem _ (List.mem_cons_of_mem _ member))) isInner]
  | case5 => cases h
  | case6 c rest _ _ digit ih =>
    obtain ⟨inner, isInner, rfl⟩ := Option.map_eq_some_iff.1 h
    rw [List.filter_cons_of_pos digit, ih (fun c member => all c (List.mem_cons_of_mem _ member)) isInner]
  | case7 => cases h

theorem takeWhile_of_body (all : ∀ c ∈ body, isDecimalChar c) (keeps : Char → Bool)
    (kept : ∀ c, isDecimalChar c → keeps c) : body.takeWhile keeps = body ∧ body.dropWhile keeps = [] :=
  ⟨List.takeWhile_eq_self_iff.2 fun c member => kept c (all c member),
    List.dropWhile_eq_nil_iff.2 fun c member => kept c (all c member)⟩

/-- A whole number is read as a word that holds it, or not at all. -/
theorem integer?_of_decimal (decimal : IsDecimal literal n) {scalar : Scalar}
    (h : integer? literal = some scalar) : ∃ word : Int64, scalar = .whole word ∧ word.toInt = n := by
  obtain ⟨negative, body, isSplit, ⟨-, all⟩, rfl⟩ := decimal
  -- a letter of a base would be no decimal character
  have noBase {mark : Char} (other : isDecimalChar mark = false) (more : List Char) :
      literal ≠ '0' :: mark :: more := by
    rcases splitSign_cases isSplit with ⟨rfl, -⟩ | ⟨sign, isSign, rfl⟩
    · rintro rfl
      exact ne_of_isDecimalChar (all mark (List.mem_cons_of_mem _ List.mem_cons_self)) other rfl
    · intro same
      rcases isSign with rfl | rfl
      · exact absurd (List.cons.inj same).1 (by decide)
      · exact absurd (List.cons.inj same).1 (by decide)
  have plain : integer? literal = (do
      let size := digitsValue (← wholeDigits? body)
      ofInt? (if negative then -(size : Int) else size)) := by
    unfold integer?
    split
    · exact absurd rfl (noBase (by decide) _)
    · exact absurd rfl (noBase (by decide) _)
    · exact absurd rfl (noBase (by decide) _)
    · rw [isSplit]
  rw [plain] at h
  obtain ⟨digits, isWhole, isInt⟩ := Option.bind_eq_some_iff.1 h
  obtain ⟨grouped, isGrouped, same⟩ := Option.bind_eq_some_iff.1 isWhole
  obtain ⟨word, isWord, rfl⟩ := Option.map_eq_some_iff.1 isInt
  have kept : digits = grouped := by
    split at same
    · cases same
    · exact (Option.some.inj same).symm
  refine ⟨word, rfl, ?_⟩
  rw [← eq_filter_of_groupedDigits? all isGrouped, ← kept]
  exact (Number.of_int64? isWord).2.2

/-- It has neither a point nor an exponent. -/
theorem real?_of_decimal (decimal : IsDecimal literal n) : real? literal = none := by
  obtain ⟨negative, body, isSplit, ⟨some, all⟩, -⟩ := decimal
  have main := takeWhile_of_body all (fun c => c ≠ 'e' && c ≠ 'E') fun c h =>
    Bool.and_eq_true_iff.2 ⟨decide_eq_true (ne_of_isDecimalChar h rfl), decide_eq_true (ne_of_isDecimalChar h rfl)⟩
  have whole := takeWhile_of_body all (fun c => c ≠ '.') fun c h => decide_eq_true (ne_of_isDecimalChar h rfl)
  -- no letter stands in it, so it is none of the words for a number
  have noWord : ¬ (body = "inf".toList || body = "nan".toList) := by
    intro word
    rcases Bool.or_eq_true_iff.1 word with same | same
    · rw [of_decide_eq_true same] at all
      exact absurd (all 'i' List.mem_cons_self) (by decide)
    · rw [of_decide_eq_true same] at all
      exact absurd (all 'n' List.mem_cons_self) (by decide)
  unfold real?
  simp only [isSplit, if_neg noWord, main, whole, List.drop_length]
  cases wholeDigits? body with
  | none => rfl
  | some digits => rfl

/-- The characters that values other than numbers, dates and times begin with. -/
def valueMarks : List Char :=
  ['[', '\x7b', '"', '\'', 't', 'f']

theorem readValue_of_not_mem {c : Char} (other : c ∉ valueMarks) {origin : Origin} {depth fuel : Nat}
    {text : List Char} :
    readValue origin depth (fuel + 1) (c :: text) =
      (numeric (c :: text)).map fun (scalar, rest) => (.leaf scalar origin, rest) := by
  have apart {mark : Char} (among : mark ∈ valueMarks) {tail : List Char} : c :: text ≠ mark :: tail := by
    intro same
    obtain rfl : c = mark := (List.cons.inj same).1
    exact other among
  rw [readValue]
  all_goals
    intros
    refine apart ?_ ‹c :: text = _ :: _›
    decide

/-- **Whole numbers in decimal.** -/
theorem readValue_of_decimal (decimal : IsDecimal literal n) (ends : EndsNumber rest) {origin : Origin}
    {depth fuel : Nat} {setting : Setting} {after : List Char}
    (h : readValue origin depth fuel (literal ++ rest) = some (setting, after)) :
    ∃ word : Int64, setting = .leaf (.whole word) origin ∧ word.toInt = n := by
  -- the literal is all that is taken for a number
  have word : (literal ++ rest).takeWhile isNumberChar = literal := by
    rw [List.takeWhile_append_of_pos decimal.isNumberChar]
    cases rest with
    | nil => rw [List.takeWhile_nil, List.append_nil]
    | cons c rest => rw [List.takeWhile_cons_of_neg (by rw [ends c rfl]; exact Bool.false_ne_true), List.append_nil]
  have isNumeric : ∃ scalar, numeric (literal ++ rest) = some (scalar, after) ∧
      setting = .leaf scalar origin := by
    obtain ⟨c, more, rfl, isFirst⟩ := decimal.exists_cons
    -- it does not begin like a text, a truth value, a list or a table
    have other : c ∉ valueMarks := by
      rcases isFirst with rfl | rfl | isFirst
      · decide
      · decide
      · intro mark
        have all : valueMarks.all (!isDecimalChar ·) := by decide
        have none := List.all_eq_true.1 all c mark
        rw [isFirst] at none
        exact Bool.false_ne_true none
    cases fuel with
    | zero => cases h
    | succ fuel =>
      rw [List.cons_append, readValue_of_not_mem other] at h
      obtain ⟨⟨scalar, left⟩, isScalar, same⟩ := Option.map_eq_some_iff.1 h
      obtain ⟨rfl, rfl⟩ := Prod.mk.inj same
      exact ⟨scalar, isScalar, rfl⟩
  obtain ⟨scalar, isScalar, rfl⟩ := isNumeric
  unfold numeric at isScalar
  -- neither a date nor a real number, so an integer if anything
  rw [dateTime_of_decimal decimal ends] at isScalar
  dsimp only at isScalar
  rw [word, real?_of_decimal decimal] at isScalar
  obtain ⟨value, isValue, same⟩ := Option.bind_eq_some_iff.1 isScalar
  obtain rfl : value = scalar := (Prod.mk.inj (Option.some.inj same)).1
  cases isInteger : integer? literal with
  | none =>
    rw [isInteger] at isValue
    cases isValue
  | some found =>
    rw [isInteger] at isValue
    obtain rfl : found = value := Option.some.inj isValue
    obtain ⟨number, rfl, isNumber⟩ := integer?_of_decimal decimal isInteger
    exact ⟨number, rfl, isNumber⟩

end ServiceProbe.Config.Toml
