/-!
# Labels in ASCII

A label of a domain name with characters beyond ASCII is written with ASCII characters alone: first those
that it has, then, behind a dash, numbers that tell where each of the others is put in, the smallest
character first. A number is written with 36 digits, the least significant first; at each place a threshold
decides whether a digit is the last one, and the thresholds follow the size of the numbers so far.
-/

namespace ServiceProbe.Url.Punycode

/-- The digit of a number below 36: letters first, then numerals. -/
def digit (n : Nat) : Char :=
  if n < 26 then Char.ofNat ('a'.toNat + n) else Char.ofNat ('0'.toNat + (n - 26))

/-- A digit below the threshold is the last one of its number; `weight` is 36 times the place. -/
def threshold (bias weight : Nat) : Nat :=
  min 26 (max 1 (weight - bias))

theorem threshold_pos (bias weight : Nat) : 1 ≤ threshold bias weight := by
  unfold threshold
  omega

/-- The digits of a number from a place on. -/
def number (bias weight n : Nat) : List Char :=
  let t := threshold bias weight
  if n < t then [digit n]
  else digit (t + (n - t) % (36 - t)) :: number bias (weight + 36) ((n - t) / (36 - t))
termination_by n
decreasing_by
  have positive := threshold_pos bias weight
  have small : (n - threshold bias weight) / (36 - threshold bias weight) ≤ n - threshold bias weight :=
    Nat.div_le_self _ _
  omega

/-- How often a number is divided by 35 until it is small, each time counting 36, and what is left. -/
def reduce (n : Nat) : Nat × Nat :=
  if 455 < n then
    let (counted, left) := reduce (n / 35)
    (counted + 36, left)
  else (0, n)
termination_by n

/-- The bias after a number: `handled` characters are in their place, and the first number of a label counts
less. -/
def adapt (n handled : Nat) (isFirst : Bool) : Nat :=
  let scaled := n / (if isFirst then 700 else 2)
  let (counted, left) := reduce (scaled + scaled / handled)
  counted + 36 * left / (left + 38)

/-! ### Writing -/

/-- What has been written of a label. -/
structure Progress where
  written : List Char
  bias : Nat := 72
  /-- How many characters are in their place. -/
  handled : Nat
  /-- The number to be written next, as far as it is known. -/
  skipped : Nat := 0

/-- Takes one character of the label into account while those with a code point are put in. -/
def visit (basicCount code : Nat) (progress : Progress) (c : Char) : Progress :=
  if c.toNat < code then { progress with skipped := progress.skipped + 1 }
  else if c.toNat = code then
    { written := progress.written ++ number progress.bias 36 progress.skipped
      bias := adapt progress.skipped (progress.handled + 1) (progress.handled = basicCount)
      handled := progress.handled + 1
      skipped := 0 }
  else progress

/-- Puts in the characters with these code points, which increase from `next` on. -/
def putIn (label : List Char) (basicCount : Nat) : Nat → List Nat → Progress → Progress
  | _, [], progress => progress
  | next, code :: codes, progress =>
    let skipped := progress.skipped + (code - next) * (progress.handled + 1)
    let progress := label.foldl (visit basicCount code) { progress with skipped }
    putIn label basicCount (code + 1) codes { progress with skipped := progress.skipped + 1 }

/-- The label in ASCII. -/
def encode (label : List Char) : List Char :=
  let basic := label.filter (·.toNat < 0x80)
  let codes := ((label.map Char.toNat).filter (0x80 ≤ ·)).mergeSort.eraseDups
  let start : Progress :=
    { written := if basic.isEmpty then [] else basic ++ ['-'], handled := basic.length }
  (putIn label basic.length 0x80 codes start).written

/-! ### Reading -/

/-- The number below 36 of a digit. -/
def valueOf? (c : Char) : Option Nat :=
  if c.isLower then some (c.toNat - 'a'.toNat)
  else if c.isDigit then some (c.toNat - '0'.toNat + 26)
  else none

/-- The number at the start of a text from a place on, and the text behind it. A digit counts `unit` times. -/
def number? (bias weight unit : Nat) : List Char → Option (Nat × List Char)
  | [] => none
  | c :: rest => do
    let value ← valueOf? c
    let t := threshold bias weight
    if value < t then return (value * unit, rest)
    let (more, rest) ← number? bias (weight + 36) (unit * (36 - t)) rest
    return (value * unit + more, rest)

/-- What has been read of a label. -/
structure Reading where
  label : List Char
  bias : Nat := 72
  /-- The code point of the character that was put in last. -/
  code : Nat := 0x80
  /-- The place behind that character; it is zero only at the start. -/
  place : Nat := 0

/-- Puts in the characters that the numbers in a text tell of. The fuel is the number of digits. -/
def takeUp : Nat → Reading → List Char → Option (List Char)
  | _, reading, [] => some reading.label
  | 0, _, _ :: _ => none
  | fuel + 1, reading, text => do
    let (skipped, rest) ← number? reading.bias 36 1 text
    -- a round through the label and its end belongs to each code
    let count := reading.label.length + 1
    let code := reading.code + (reading.place + skipped) / count
    let place := (reading.place + skipped) % count
    if ¬ code.isValidChar then none
    takeUp fuel
      { label := reading.label.take place ++ Char.ofNat code :: reading.label.drop place
        bias := adapt skipped count (reading.place = 0)
        code
        place := place + 1 }
      rest

/-- The label that a text in ASCII stands for. The characters of the label that are in ASCII end with the last
dash, which cannot come first. -/
def decode? (text : List Char) : Option (List Char) :=
  let digits := (text.reverse.takeWhile (· ≠ '-')).reverse
  let basic := text.take (text.length - digits.length - 1)
  if basic.isEmpty then takeUp text.length { label := [] } text
  else if basic.all (·.toNat < 0x80) then takeUp digits.length { label := basic } digits
  else none

end ServiceProbe.Url.Punycode
