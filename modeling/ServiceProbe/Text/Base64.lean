/-!
# Base64

Three bytes are written as four characters, each for six bits; the end is filled up with equals signs.
-/

namespace ServiceProbe.Text

/-- The characters for the numbers below 64. -/
def base64Alphabet : List Char :=
  "ABCDEFGHIJKLMNOPQRSTUVWXYZabcdefghijklmnopqrstuvwxyz0123456789+/".toList

private def digit (n : Nat) : Char :=
  base64Alphabet.getD (n % 64) '='

/-- Bytes in Base64. -/
def base64 : List UInt8 → List Char
  | a :: b :: c :: rest =>
    let n := (a.toNat * 256 + b.toNat) * 256 + c.toNat
    digit (n >>> 18) :: digit (n >>> 12) :: digit (n >>> 6) :: digit n :: base64 rest
  | [a, b] =>
    let n := (a.toNat * 256 + b.toNat) * 256
    [digit (n >>> 18), digit (n >>> 12), digit (n >>> 6), '=']
  | [a] =>
    let n := a.toNat * 256 * 256
    [digit (n >>> 18), digit (n >>> 12), '=', '=']
  | [] => []

end ServiceProbe.Text
