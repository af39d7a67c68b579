import ServiceProbe.Number.Double

/-!
# Decimal texts of doubles

Two families. `fixed` writes a given number of places, rounding the exact binary value half to even.
The others write the fewest digits that read back as the same double: `shortest` finds them, and two
forms arrange them, `positional` without an exponent and `compact` with one for very large and very
small numbers.
-/

namespace ServiceProbe.Number

namespace Double

private def signText (x : Double) : String :=
  if x.isNegative then "-" else ""

private def zeros (n : Nat) : String :=
  String.ofList (List.replicate n '0')

/-- Texts of the doubles that are not finite. -/
def specialText (x : Double) : String :=
  if x.isNaN then "NaN" else signText x ++ "inf"

/-- The number with `places` decimals; the exact value is rounded, a tie to the even digit. -/
def fixed (places : Nat) (x : Double) : String :=
  if x.isFinite then
    let scaled := roundDiv (x.units * Nat.pow 10 places) unitsPerOne
    let whole := toString (scaled / Nat.pow 10 places)
    if places = 0 then signText x ++ whole
    else
      let rest := toString (scaled % Nat.pow 10 places)
      signText x ++ whole ++ "." ++ zeros (places - rest.length) ++ rest
  else specialText x

/-! ### Fewest digits -/

/-- `a / b < c / d` on natural numbers with positive denominators. -/
private def ratioLt (a b c d : Nat) : Bool :=
  decide (a * d < c * b)

/-- `10 ^ k` as a ratio. -/
private def powerOfTen (k : Int) : Nat × Nat :=
  (Nat.pow 10 k.toNat, Nat.pow 10 (-k).toNat)

/-- The largest `e` with `10 ^ e ≤ units / 2 ^ 1074`: a guess from the binary length that is off by
at most one, and its correction. -/
private def decimalExponent (units : Nat) : Int :=
  let guess : Int := ((units.log2 : Int) - 1074) * 30103 / 100000
  let reaches (k : Int) : Bool :=
    let (num, den) := powerOfTen k
    !ratioLt units unitsPerOne num den
  if reaches (guess + 1) then guess + 1
  else if reaches guess then guess
  else guess - 1

/-- A whole number of steps of `10 ^ exponent`. -/
structure Decimal where
  digits : Nat
  exponent : Int
deriving DecidableEq

/-- The decimals of the grid `10 ^ exponent` next to the value that read back as the magnitude. Read
back means: between the midpoints to the neighbouring magnitudes, the midpoints themselves only if
the magnitude is even. All sizes are in half units. -/
private def candidate (magnitude : Nat) (exponent : Int) : Option Decimal :=
  let value := 2 * unitsOf magnitude
  let low := unitsOf (magnitude - 1) + unitsOf magnitude
  let high := unitsOf magnitude + unitsOf (magnitude + 1)
  let inclusive := magnitude % 2 = 0
  let (num, den) := powerOfTen exponent
  let step := 2 * unitsPerOne * num
  let readsBack (digits : Nat) : Bool :=
    let size := digits * step
    if inclusive then decide (low * den ≤ size) && decide (size ≤ high * den)
    else decide (low * den < size) && decide (size < high * den)
  let below := value * den / step
  let above := below + 1
  let twice := value * den * 2
  let middle := (below + above) * step
  -- the nearer of the two decimals comes first, the even one from the middle
  let nearer :=
    if twice < middle || (twice = middle && below % 2 = 0) then below else above
  let other := if nearer = below then above else below
  if readsBack nearer then some ⟨nearer, exponent⟩
  else if readsBack other then some ⟨other, exponent⟩
  else none

/-- The decimal with the fewest digits that reads back as the magnitude, the nearest of those. Grids
are tried from coarse to fine; seventeen digits always suffice. -/
def shortest (magnitude : Nat) : Decimal :=
  let top := decimalExponent (unitsOf magnitude)
  let grids := (List.range 17).map fun (n : Nat) => top - (n : Int)
  match grids.findSome? (candidate magnitude) with
  | some decimal => decimal
  | none => ⟨0, 0⟩

/-- A decimal without trailing zeros, as its digits and the place of the point from their start. -/
private def pointed (decimal : Decimal) : List Char × Int :=
  let digits := (Nat.toDigits 10 decimal.digits)
  let kept := (digits.reverse.dropWhile (· = '0')).reverse
  (kept, digits.length + decimal.exponent)

/-- Digits with the point at its place, and whether there is a point in the text. -/
private def place (digits : List Char) (point : Int) : String × Bool :=
  let text := String.ofList digits
  if point ≤ 0 then ("0." ++ zeros (-point).toNat ++ text, true)
  else if digits.length ≤ point.toNat then (text ++ zeros (point.toNat - digits.length), false)
  else
    (String.ofList (digits.take point.toNat) ++ "." ++ String.ofList (digits.drop point.toNat), true)

/-- The fewest digits, never with an exponent: `1.5`, `100000000000000000000`, `0.000001`, `-0`. -/
def positional (x : Double) : String :=
  if x.isFinite then
    if x.isZero then signText x ++ "0"
    else
      let (digits, point) := pointed (shortest x.magnitude)
      signText x ++ (place digits point).1
  else specialText x

/-- The fewest digits, always recognisable as a floating-point number: `1.0`, `2.5`, and with an
exponent from `1e+16` on and below `1e-5`. -/
def compact (x : Double) : String :=
  if x.isFinite then
    if x.isZero then signText x ++ "0.0"
    else
      let (digits, point) := pointed (shortest x.magnitude)
      if -5 < point && point ≤ 16 then
        let (text, hasPoint) := place digits point
        signText x ++ text ++ (if hasPoint then "" else ".0")
      else
        -- one digit stands before the point, and no point where it is the only one
        let exponent := point - 1
        let lead := String.ofList (digits.take 1)
        let rest := digits.drop 1
        let fraction := if rest.isEmpty then "" else "." ++ String.ofList rest
        let mark := if exponent < 0 then "e-" else "e+"
        signText x ++ lead ++ fraction ++ mark ++ toString exponent.natAbs
  else "null"

/-! ### Characters of numbers -/

/-- A character of a number that is written without an exponent: a digit, the sign, the point, or a letter of
the words for what is not finite. -/
def isPositionalChar (c : Char) : Bool :=
  c.isDigit || ['-', '.', 'N', 'a', 'i', 'n', 'f'].contains c

private theorem all_signText (x : Double) : (signText x).toList.all isPositionalChar := by
  unfold signText
  split
  · rfl
  · rfl

private theorem all_zeros (n : Nat) : (zeros n).toList.all isPositionalChar := by
  rw [zeros, String.toList_ofList]
  refine List.all_eq_true.2 fun c member => ?_
  rw [List.eq_of_mem_replicate member]
  rfl

private theorem all_place {digits : List Char} (numeral : digits.all isPositionalChar) (point : Int) :
    (place digits point).1.toList.all isPositionalChar := by
  -- where the point stands, digits on either side of it are digits of the number
  have kept (n : Nat) :
      (digits.take n).all isPositionalChar ∧ (digits.drop n).all isPositionalChar := by
    rwa [← Bool.and_eq_true, ← List.all_append, List.take_append_drop]
  unfold place
  dsimp only
  split
  · simp only [String.toList_append, String.toList_ofList, List.all_append, all_zeros, numeral]
    rfl
  · split
    · simp only [String.toList_append, String.toList_ofList, List.all_append, all_zeros, numeral]
      rfl
    · simp only [String.toList_append, String.toList_ofList, List.all_append, kept]
      rfl

private theorem all_pointed (decimal : Decimal) : (pointed decimal).1.all isPositionalChar := by
  refine List.all_eq_true.2 fun c member => ?_
  have digit : c ∈ Nat.toDigits 10 decimal.digits :=
    List.mem_reverse.1 ((List.dropWhile_sublist _).subset (List.mem_reverse.1 member))
  rw [isPositionalChar, Nat.isDigit_of_mem_toDigits (by decide) (by decide) digit, Bool.true_or]

theorem all_positional (x : Double) : x.positional.toList.all isPositionalChar := by
  unfold positional
  split
  · split
    · rw [String.toList_append, List.all_append, all_signText]
      rfl
    · rw [String.toList_append, List.all_append, all_signText, all_place (all_pointed _)]
      rfl
  · unfold specialText
    split
    · rfl
    · rw [String.toList_append, List.all_append, all_signText]
      rfl

end Double

end ServiceProbe.Number
