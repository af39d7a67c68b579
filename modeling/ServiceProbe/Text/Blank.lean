import ServiceProbe.Text.Ranges

/-!
# Blanks, case and leading words of a text

Texts are read as lists of characters. A blank is a character with the Unicode property
White_Space; trimming drops blanks from both ends. `lowerAscii` turns letters into small ones in the
ASCII range only. `dropLeading` removes every copy of a word from the front of a text.

Main statements: `after?` gives exactly what follows the word (`after?_eq_some_iff`), and a trimmed
text neither starts nor ends with a blank (`head?_trimStart`, `getLast?_trimEnd`).
-/

namespace ServiceProbe.Text

/-- The code points with the property White_Space. -/
def blankRanges : Ranges :=
  [(0x9, 0xD), (0x20, 0x20), (0x85, 0x85), (0xA0, 0xA0), (0x1680, 0x1680), (0x2000, 0x200A),
    (0x2028, 0x2029), (0x202F, 0x202F), (0x205F, 0x205F), (0x3000, 0x3000)]

/-- A character with the property White_Space. -/
def isBlank (c : Char) : Bool :=
  blankRanges.has c

/-- The text without the blanks at its start. -/
def trimStart (text : List Char) : List Char :=
  text.dropWhile isBlank

/-- The text without the blanks at its end. -/
def trimEnd (text : List Char) : List Char :=
  (text.reverse.dropWhile isBlank).reverse

/-- The text without the blanks at both ends. -/
def trim (text : List Char) : List Char :=
  trimEnd (trimStart text)

/-- ASCII capitals become small letters; every other character stays. -/
def lowerAscii (text : List Char) : List Char :=
  text.map Char.toLower

/-- What is no capital of ASCII stays. -/
theorem toLower_of_toNat {c : Char} (notCapital : ¬ (65 ≤ c.toNat ∧ c.toNat ≤ 90)) : c.toLower = c := by
  refine dif_neg fun capital => notCapital ?_
  exact ⟨UInt32.le_iff_toNat_le.1 capital.1, UInt32.le_iff_toNat_le.1 capital.2⟩

/-- The text after `word`, if it starts with `word`. -/
def after? (word text : List Char) : Option (List Char) :=
  match word, text with
  | [], rest => some rest
  | _ :: _, [] => none
  | w :: word, c :: text => if w = c then after? word text else none

/-- `after?` gives exactly what follows the word. -/
theorem after?_eq_some_iff {word text rest : List Char} :
    after? word text = some rest ↔ text = word ++ rest := by
  induction word generalizing text with
  | nil => simp [after?, eq_comm]
  | cons w word ih =>
    cases text with
    | nil => simp [after?]
    | cons c text =>
      by_cases h : w = c
      · simp [after?, h, ih]
      · simp [after?, h, Ne.symm h]

/-- The text without all copies of a word at its start. An empty word leaves the text as it is. -/
def dropLeading (word text : List Char) : List Char :=
  if word.isEmpty then text
  else
    match after? word text with
    | some rest =>
      if rest.length < text.length then dropLeading word rest else text
    | none => text
termination_by text.length

/-- `part` occurs somewhere in the text. -/
def contains (part text : List Char) : Bool :=
  (after? part text).isSome ||
    match text with
    | [] => false
    | _ :: text => contains part text

/-- `contains` finds a part wherever it stands. -/
theorem contains_iff {part text : List Char} : contains part text = true ↔ part <:+: text := by
  have here (text : List Char) : (after? part text).isSome = true ↔ part <+: text := by
    rw [Option.isSome_iff_exists]
    exact exists_congr fun rest => after?_eq_some_iff.trans eq_comm
  induction text with
  | nil =>
    rw [contains, Bool.or_false, here, List.prefix_nil, List.infix_nil]
  | cons c text ih =>
    rw [contains, Bool.or_eq_true, here]
    exact (or_congr_right ih).trans List.infix_cons_iff.symm

/-- The texts between the separators; one text when there is no separator. -/
def splitOn (separator : Char) (text : List Char) : List (List Char) :=
  match text with
  | [] => [[]]
  | c :: rest =>
    if c = separator then [] :: splitOn separator rest
    else
      match splitOn separator rest with
      | [] => [[c]]
      | part :: parts => (c :: part) :: parts

/-- The parts written one after the other with a separator between them. -/
def joinWith (separator : String) (parts : List String) : String :=
  String.intercalate separator parts

/-! ### What trimming and dropping leave -/

private theorem head?_dropWhile_isBlank (text : List Char) (c : Char) :
    (text.dropWhile isBlank).head? = some c → isBlank c = false := by
  induction text with
  | nil => simp
  | cons d text ih =>
    by_cases h : isBlank d = true
    · simpa [List.dropWhile_cons, h] using ih
    · simp only [List.dropWhile_cons, h]
      simp only [Bool.false_eq_true, if_false, List.head?_cons, Option.some.injEq]
      rintro rfl
      simpa using h

/-- A trimmed start holds no blank. -/
theorem head?_trimStart {text : List Char} {c : Char}
    (h : (trimStart text).head? = some c) : isBlank c = false :=
  head?_dropWhile_isBlank text c h

/-- A trimmed end holds no blank. -/
theorem getLast?_trimEnd {text : List Char} {c : Char}
    (h : (trimEnd text).getLast? = some c) : isBlank c = false := by
  refine head?_dropWhile_isBlank text.reverse c ?_
  simpa [trimEnd] using h

end ServiceProbe.Text
