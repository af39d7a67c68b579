import ServiceProbe.Json.Reader
import ServiceProbe.Text.Blank

/-!
# The outline of a JSON text

A record can be read out of a text without making values of the members that mean nothing to it. What is
passed over needs the form of JSON and no more: a number may be of any size, a text need not be UTF-8, an
escape need not belong to a pair, and the nesting may be of any depth. `outline?` splits a list or an
object into its parts and leaves each part as it was written, so that a member is met as often as it
occurs. `wholeText?` reads a part that is a text.

The text is taken as bytes, each standing as the character of its number.
-/

namespace ServiceProbe.Json

/-- Bytes as characters of the same numbers. -/
def asCharacters (bytes : List UInt8) : List Char :=
  bytes.map fun byte => Char.ofNat byte.toNat

/-- Characters that stand for bytes, as these bytes. -/
def asBytes (text : List Char) : ByteArray :=
  ⟨(text.map Char.toUInt8).toArray⟩

/-- What was passed over to come from `text` to `rest`, which is an end of it. -/
def passed (text rest : List Char) : List Char :=
  text.take (text.length - rest.length)

/-! ### Numbers -/

/-- The text behind one digit and those that follow it. -/
def passDigits? : List Char → Option (List Char)
  | c :: rest => if c.isDigit then some (rest.dropWhile Char.isDigit) else none
  | [] => none

/-- The text behind an exponent, if there is one. -/
def passExponent? : List Char → Option (List Char)
  | c :: rest =>
    if isExponentMark c then
      match rest with
      | '+' :: digits => passDigits? digits
      | '-' :: digits => passDigits? digits
      | digits => passDigits? digits
    else some (c :: rest)
  | [] => some []

/-- The text behind the decimals and the exponent, if there are any. -/
def passFraction? : List Char → Option (List Char)
  | '.' :: rest => passDigits? rest >>= passExponent?
  | text => passExponent? text

/-- The text behind a number without its sign; only zero itself starts with a zero. -/
def passNumber? : List Char → Option (List Char)
  | '0' :: rest => if rest.head?.any Char.isDigit then none else passFraction? rest
  | text => passDigits? text >>= passFraction?

/-! ### Texts -/

/-- A character that is an escape with its backslash alone. -/
def isShortEscape (c : Char) : Bool :=
  ['"', '\\', '/', 'b', 'f', 'n', 'r', 't'].contains c

/-- The text behind the closing quote. -/
def passText? : List Char → Option (List Char)
  | [] => none
  | '"' :: rest => some rest
  | '\\' :: 'u' :: a :: b :: c :: d :: rest =>
    if (Text.number? 16 [a, b, c, d]).isSome then passText? rest else none
  | '\\' :: c :: rest => if isShortEscape c then passText? rest else none
  | c :: rest => if c.toNat < 0x20 then none else passText? rest

/-- The text whose opening quote has been taken, and what follows its closing quote. -/
def takeText? (text : List Char) : Option (String × List Char) := do
  let rest ← passText? text
  let quoted ← String.fromUTF8? (asBytes ('"' :: passed text rest))
  match read quoted with
  | .ok (.string s) => some (s, rest)
  | _ => none

/-! ### Values -/

mutual

/-- The text behind a value. Every two rounds take at least one character, which `fuel` has to allow
for. -/
def passValue? (fuel : Nat) (text : List Char) : Option (List Char) :=
  match fuel with
  | 0 => none
  | fuel + 1 =>
    match text.dropWhile isSpace with
    | 'n' :: rest => Text.after? ['u', 'l', 'l'] rest
    | 't' :: rest => Text.after? ['r', 'u', 'e'] rest
    | 'f' :: rest => Text.after? ['a', 'l', 's', 'e'] rest
    | '"' :: rest => passText? rest
    | '-' :: rest => passNumber? rest
    -- an empty list has no item, so its end is looked for first
    | '[' :: rest =>
      match rest.dropWhile isSpace with
      | ']' :: rest => some rest
      | rest => passItems? fuel rest
    | '\x7b' :: rest =>
      match rest.dropWhile isSpace with
      | '\x7d' :: rest => some rest
      | rest => passMembers? fuel rest
    | rest => passNumber? rest

/-- The text behind the closing bracket, at the start of an item. -/
def passItems? (fuel : Nat) (text : List Char) : Option (List Char) :=
  match fuel with
  | 0 => none
  | fuel + 1 => do
    let rest ← passValue? fuel text
    match rest.dropWhile isSpace with
    | ',' :: rest => passItems? fuel rest
    | ']' :: rest => some rest
    | _ => none

/-- The text behind the closing brace, at the start of a member. -/
def passMembers? (fuel : Nat) (text : List Char) : Option (List Char) :=
  match fuel with
  | 0 => none
  | fuel + 1 => do
    let name ← Text.after? ['"'] (text.dropWhile isSpace)
    let value ← Text.after? [':'] ((← passText? name).dropWhile isSpace)
    let rest ← passValue? fuel value
    match rest.dropWhile isSpace with
    | ',' :: rest => passMembers? fuel rest
    | '\x7d' :: rest => some rest
    | _ => none

end

/-- One value as it is written, and the text behind it. -/
def takePart? (text : List Char) : Option (List Char × List Char) :=
  let start := text.dropWhile isSpace
  (passValue? (2 * start.length + 2) start).map fun rest => (passed start rest, rest)

/-! ### Outlines -/

/-- The outermost form of a value. -/
inductive Outline where
  | list (items : List (List Char))
  /-- Every member in its place, also those of one name. -/
  | object (members : List (String × List Char))

/-- The items up to the closing bracket, and the text behind it. Each round takes an item. -/
def splitItems? : Nat → List Char → Option (List (List Char) × List Char)
  | 0, _ => none
  | fuel + 1, text => do
    let (item, rest) ← takePart? text
    match rest.dropWhile isSpace with
    | ',' :: rest =>
      let (items, rest) ← splitItems? fuel rest
      return (item :: items, rest)
    | ']' :: rest => return ([item], rest)
    | _ => none

/-- The members up to the closing brace, and the text behind it. Each round takes a member. -/
def splitMembers? : Nat → List Char → Option (List (String × List Char) × List Char)
  | 0, _ => none
  | fuel + 1, text => do
    -- members of one name are kept apart here, so that a reader can refuse them
    let (name, rest) ← takeText? (← Text.after? ['"'] (text.dropWhile isSpace))
    let (value, rest) ← takePart? (← Text.after? [':'] (rest.dropWhile isSpace))
    match rest.dropWhile isSpace with
    | ',' :: rest =>
      let (members, rest) ← splitMembers? fuel rest
      return ((name, value) :: members, rest)
    | '\x7d' :: rest => return ([(name, value)], rest)
    | _ => none

/-- The outline of a list or an object that is the whole text; other texts have none. -/
def outline? (text : List Char) : Option Outline := do
  let (outline, rest) ←
    match text.dropWhile isSpace with
    | '[' :: rest =>
      match rest.dropWhile isSpace with
      | ']' :: rest => some (Outline.list [], rest)
      | rest => (splitItems? rest.length rest).map fun (items, rest) => (.list items, rest)
    | '\x7b' :: rest =>
      match rest.dropWhile isSpace with
      | '\x7d' :: rest => some (Outline.object [], rest)
      | rest =>
        (splitMembers? rest.length rest).map fun (members, rest) => (.object members, rest)
    | _ => none
  if rest.all isSpace then return outline else none

/-- The text that a whole part is. -/
def wholeText? (part : List Char) : Option String := do
  match ← takeText? (← Text.after? ['"'] part) with
  | (s, []) => return s
  | _ => none

end ServiceProbe.Json
