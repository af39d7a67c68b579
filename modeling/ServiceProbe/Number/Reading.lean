import ServiceProbe.Number.Double
import ServiceProbe.Text.Blank

/-!
# Reading numbers

`whole?` reads a whole number with an optional sign, `Double.read?` a decimal number with an optional sign,
point and exponent, or one of the words for infinity and for no number. A decimal is rounded once, from
its exact value. Exponents far outside the range of doubles are settled by their size alone.
-/

namespace ServiceProbe.Number

/-- The value of decimal digits. -/
def digitsValue (digits : List Char) : Nat :=
  digits.foldl (fun n c => 10 * n + (c.toNat - '0'.toNat)) 0

/-- The sign in front of a text, minus being `true`, and the rest. -/
def splitSign : List Char → Bool × List Char
  | '-' :: rest => (true, rest)
  | '+' :: rest => (false, rest)
  | text => (false, text)

/-- Where the sign stands, if there is one. -/
theorem splitSign_cases {text body : List Char} {negative : Bool} (h : splitSign text = (negative, body)) :
    text = body ∧ negative = false ∨ ∃ sign, (sign = '+' ∨ sign = '-') ∧ text = sign :: body := by
  unfold splitSign at h
  split at h
  · cases h
    exact .inr ⟨'-', .inr rfl, rfl⟩
  · cases h
    exact .inr ⟨'+', .inl rfl, rfl⟩
  · cases h
    exact .inl ⟨rfl, rfl⟩

/-- At least one digit and nothing else. -/
def isDigits (text : List Char) : Bool :=
  !text.isEmpty && text.all Char.isDigit

/-- A whole number. -/
def whole? (text : List Char) : Option Int :=
  let (negative, digits) := splitSign text
  if isDigits digits then
    some (if negative then -(digitsValue digits : Int) else digitsValue digits)
  else none

/-- A natural number; a plus sign may stand before it. -/
def natural? (text : List Char) : Option Nat :=
  let digits := match text with
    | '+' :: rest => rest
    | text => text
  if isDigits digits then some (digitsValue digits) else none

/-- A whole number as a signed word of 64 bits, if it fits. -/
def int64? (n : Int) : Option Int64 :=
  if Int64.minValue.toInt ≤ n ∧ n ≤ Int64.maxValue.toInt then some (Int64.ofInt n) else none

/-- A signed word of 64 bits holds a whole number exactly if it is within these bounds. -/
theorem int64?_eq_some {n : Int} (low : Int64.minValue.toInt ≤ n) (high : n ≤ Int64.maxValue.toInt) :
    int64? n = some (Int64.ofInt n) :=
  if_pos ⟨low, high⟩

theorem of_int64? {n : Int} {word : Int64} (h : int64? n = some word) :
    Int64.minValue.toInt ≤ n ∧ n ≤ Int64.maxValue.toInt ∧ word.toInt = n := by
  unfold int64? at h
  split at h
  · next fits =>
    rw [← Option.some.inj h]
    exact ⟨fits.1, fits.2, Int64.toInt_ofInt_of_le fits.1 (Int.lt_add_one_of_le fits.2)⟩
  · cases h

namespace Double

/-- Decimal exponents beyond which every number is infinite or zero. -/
private def exponentLimit : Int := 400

/-- The double nearest to `digits · 10 ^ exponent`, whatever the exponent. -/
def ofScientific (negative : Bool) (digits : Nat) (exponent : Int) : Double :=
  if digits = 0 then ofMagnitude negative 0
  else if exponentLimit < exponent then ofMagnitude negative infinityBits
  else if exponent + digits.log2 < -exponentLimit - digits.log2 then ofMagnitude negative 0
  else ofDecimal negative digits exponent

/-- The exponent after its mark; no text means none. -/
private def exponent? : List Char → Option Int
  | [] => some 0
  | mark :: rest => if mark = 'e' || mark = 'E' then whole? rest else none

/-- The words for doubles that are not finite. -/
private def ofWord? (negative : Bool) (word : List Char) : Option Double :=
  let small := String.ofList (Text.lowerAscii word)
  if small = "inf" || small = "infinity" then some (ofMagnitude negative infinityBits)
  else if small = "nan" then some (ofMagnitude negative nan.magnitude)
  else none

/-- A decimal number. One of the sides of the point may be empty. -/
def read? (text : List Char) : Option Double :=
  let (negative, body) := splitSign text
  let whole := body.takeWhile Char.isDigit
  let afterWhole := body.dropWhile Char.isDigit
  let (fraction, afterFraction) :=
    match afterWhole with
    | '.' :: rest => (rest.takeWhile Char.isDigit, rest.dropWhile Char.isDigit)
    | rest => ([], rest)
  let digits := whole ++ fraction
  if digits.isEmpty then ofWord? negative body
  else
    (exponent? afterFraction).map fun exponent =>
      ofScientific negative (digitsValue digits) (exponent - fraction.length)

/-- Without an exponent the digits alone are rounded. -/
theorem ofScientific_zero (negative : Bool) (digits : Nat) :
    ofScientific negative digits 0 = ofRatio negative digits 1 := by
  unfold ofScientific
  split
  · next none =>
    rw [none]
    rfl
  · split
    · -- neither bound on exponents is passed by an exponent of zero
      next large => exact absurd large (by decide)
    · split
      · next small =>
        unfold exponentLimit at small
        omega
      · change ofRatio negative (digits * 1) 1 = _
        rw [Nat.mul_one]

end Double

end ServiceProbe.Number
