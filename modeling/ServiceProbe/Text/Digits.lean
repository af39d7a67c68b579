/-!
# Digits

The digits up to base sixteen: the character of a value, the value of a character, and the number that a
run of digits stands for in a base. Main statements: a digit has the value it was made from
(`digitValue?_hexDigit`), also as a capital letter (`digitValue?_upperHex`).
-/

namespace ServiceProbe.Text

/-- The digit of a number below sixteen, small letters from ten on. -/
def hexDigit (n : Nat) : Char :=
  Nat.digitChar n

/-- The digit of a number below sixteen, capital letters from ten on. -/
def upperHex (n : Nat) : Char :=
  (hexDigit n).toUpper

/-- The value of a hexadecimal digit. -/
def digitValue? (c : Char) : Option Nat :=
  if c.isDigit then some (c.toNat - '0'.toNat)
  else if 'a' ≤ c && c ≤ 'f' then some (c.toNat - 'a'.toNat + 10)
  else if 'A' ≤ c && c ≤ 'F' then some (c.toNat - 'A'.toNat + 10)
  else none

/-- The number that digits stand for in a base of at most sixteen; no digits stand for zero. -/
def number? (base : Nat) (digits : List Char) : Option Nat :=
  digits.foldlM (fun n c => do
    let value ← digitValue? c
    if value < base then some (base * n + value) else none) 0

/-! ### Small facts -/

theorem digitValue?_hexDigit : ∀ n < 16, digitValue? (hexDigit n) = some n := by
  decide

theorem digitValue?_upperHex : ∀ n < 16, digitValue? (upperHex n) = some n := by
  decide

end ServiceProbe.Text
