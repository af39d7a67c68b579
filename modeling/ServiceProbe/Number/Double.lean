import ServiceProbe.Number.Rounding

/-!
# Double-precision numbers

A `Double` is a 64-bit binary floating-point number, held as its bits. A finite number is a signed
whole multiple of 2⁻¹⁰⁷⁴, and `units` is that multiple without the sign. Each operation computes the
exact value as a ratio of natural numbers and rounds it once, to the nearest double with ties to the
even one (`nearest`); so the results are those of the usual arithmetic, and all of them can be
reasoned about. `orderKey` places all doubles, zeros of both signs, infinities and the numbers that
are none included, in one total order.
-/

namespace ServiceProbe.Number

/-- A double-precision floating-point number, as its 64 bits. -/
structure Double where
  bits : UInt64
deriving DecidableEq, Inhabited

namespace Double

/-- The value of the sign bit. -/
def signBit : Nat := 0x8000000000000000

/-- How many fractions there are for each exponent. -/
def fractions : Nat := 0x10000000000000

/-- The bits of a magnitude from which on it is infinite or no number. -/
def infinityBits : Nat := 0x7FF * fractions

/-- The sign bit is set. -/
def isNegative (x : Double) : Bool :=
  decide (signBit ≤ x.bits.toNat)

/-- The bits without the sign. -/
def magnitude (x : Double) : Nat :=
  x.bits.toNat % signBit

/-- The double with this sign and these bits of the magnitude. -/
def ofMagnitude (negative : Bool) (magnitude : Nat) : Double :=
  ⟨UInt64.ofNat ((if negative then signBit else 0) + magnitude)⟩

def isNaN (x : Double) : Bool :=
  decide (infinityBits < x.magnitude)

def isInfinite (x : Double) : Bool :=
  decide (x.magnitude = infinityBits)

def isFinite (x : Double) : Bool :=
  decide (x.magnitude < infinityBits)

def isZero (x : Double) : Bool :=
  decide (x.magnitude = 0)

/-- The value of a magnitude in units of 2⁻¹⁰⁷⁴: the fraction counts units below the first normal
number, and each later exponent doubles the step. -/
def unitsOf (magnitude : Nat) : Nat :=
  let exponent := magnitude / fractions
  let fraction := magnitude % fractions
  if exponent = 0 then fraction else (fractions + fraction) <<< (exponent - 1)

/-- The absolute value of a finite double in units of 2⁻¹⁰⁷⁴. -/
def units (x : Double) : Nat :=
  unitsOf x.magnitude

/-- How many units make one. -/
def unitsPerOne : Nat := 1 <<< 1074

/-- The magnitude nearest to `num / den`, ties to the even one; infinity from half a step above the
largest finite magnitude on. With `step` doublings of the unit the quotient has at most 53 binary
digits before the point, which is the precision of a double. -/
def nearest (num den : Nat) : Nat :=
  let scaled := num * unitsPerOne
  -- a carry out of the rounded fraction runs into the exponent, as it should
  let step := (scaled / den).log2 - 52
  min (step * fractions + roundDiv scaled (den <<< step)) infinityBits

/-- The double nearest to the ratio, with the given sign. -/
def ofRatio (negative : Bool) (num den : Nat) : Double :=
  ofMagnitude negative (nearest num den)

/-- The double nearest to a natural number. -/
def ofNat (n : Nat) : Double :=
  ofRatio false n 1

/-- The double nearest to `digits · 10 ^ exponent`. -/
def ofDecimal (negative : Bool) (digits : Nat) (exponent : Int) : Double :=
  ofRatio negative (digits * Nat.pow 10 exponent.toNat) (Nat.pow 10 (-exponent).toNat)

def zero : Double := ⟨0⟩

def negativeZero : Double := ofMagnitude true 0

def infinity : Double := ofMagnitude false infinityBits

/-- The one result of an operation without a value. -/
def nan : Double := ofMagnitude false (infinityBits + fractions / 2)

/-- The number with the opposite sign. -/
def neg (x : Double) : Double :=
  ofMagnitude (!x.isNegative) x.magnitude

/-- The value of a finite double in units, with its sign. -/
def signedUnits (x : Double) : Int :=
  if x.isNegative then -(x.units : Int) else x.units

/-- Sum, rounded to nearest. A sum of zero is negative only if both terms are. -/
def add (x y : Double) : Double :=
  if x.isNaN || y.isNaN then nan
  else if x.isInfinite then
    if y.isInfinite && x.isNegative != y.isNegative then nan else x
  else if y.isInfinite then y
  else
    let sum := x.signedUnits + y.signedUnits
    if sum = 0 then ofMagnitude (x.isNegative && y.isNegative) 0
    else ofRatio (decide (sum < 0)) sum.natAbs unitsPerOne

/-- Product, rounded to nearest. -/
def mul (x y : Double) : Double :=
  let negative := x.isNegative != y.isNegative
  if x.isNaN || y.isNaN then nan
  else if x.isInfinite || y.isInfinite then
    if x.isZero || y.isZero then nan else ofMagnitude negative infinityBits
  else ofRatio negative (x.units * y.units) (unitsPerOne * unitsPerOne)

/-- Quotient, rounded to nearest. -/
def div (x y : Double) : Double :=
  let negative := x.isNegative != y.isNegative
  if x.isNaN || y.isNaN then nan
  else if x.isInfinite then
    if y.isInfinite then nan else ofMagnitude negative infinityBits
  else if y.isInfinite then ofMagnitude negative 0
  else if y.isZero then
    if x.isZero then nan else ofMagnitude negative infinityBits
  else ofRatio negative x.units y.units

/-- The largest index that fits a 64-bit word. -/
def maxIndex : Nat := UInt64.size - 1

/-- The floor as an index: what is no number or below zero gives 0, what is too large the largest
index. -/
def floorIndex (x : Double) : Nat :=
  if x.isNaN || x.isNegative then 0
  else if x.isInfinite then maxIndex
  else min (x.units / unitsPerOne) maxIndex

/-- The nearest whole number, a tie going away from zero; no number gives 0, and what lies outside
`low … high` the nearer end. -/
def roundWithin (low high : Int) (x : Double) : Int :=
  if x.isNaN then 0
  else if x.isInfinite then if x.isNegative then low else high
  else
    let size : Int := roundDivUp x.units unitsPerOne
    max low (min high (if x.isNegative then -size else size))

/-- The position of a double in the total order: below zero the order of the magnitudes is turned
round, so that -NaN < -∞ < … < -0 < 0 < … < ∞ < NaN. -/
def orderKey (x : Double) : Nat :=
  if x.isNegative then signBit - 1 - x.magnitude else signBit + x.magnitude

/-- Comparison in the total order. -/
def totalLe (x y : Double) : Bool :=
  decide (x.orderKey ≤ y.orderKey)

/-- Comparison by value; false when one side is no number, and the two zeros are equal. -/
def le (x y : Double) : Bool :=
  if x.isNaN || y.isNaN then false
  else (x.isZero && y.isZero) || totalLe x y

/-! ### Small facts -/

theorem magnitude_lt (x : Double) : x.magnitude < signBit :=
  Nat.mod_lt _ (by decide)

theorem nearest_le (num den : Nat) : nearest num den ≤ infinityBits :=
  Nat.min_le_right _ _

/-- Two doubles at one place of the total order are the same. -/
theorem eq_of_orderKey {x y : Double} (h : x.orderKey = y.orderKey) : x = y := by
  have hx := x.magnitude_lt
  have hy := y.magnitude_lt
  have boundX := x.bits.toNat_lt
  have boundY := y.bits.toNat_lt
  have same : x.bits.toNat = y.bits.toNat := by
    simp only [orderKey, isNegative, magnitude, decide_eq_true_eq] at *
    unfold signBit at *
    split at h <;> split at h <;> omega
  obtain ⟨a⟩ := x
  obtain ⟨b⟩ := y
  exact congrArg Double.mk (UInt64.toNat_inj.1 same)

end Double

end ServiceProbe.Number
