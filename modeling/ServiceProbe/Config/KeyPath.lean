import ServiceProbe.Number.Reading

/-!
# Keys as paths

The key of a setting is a path into the tree of settings: a name, and after it names behind points and places
of list items in brackets. Names hold letters, digits, blanks, underscores and dashes. A place counts from
zero, and a negative one from the end. A key of any other form is one name as it stands.
-/

namespace ServiceProbe.Config

/-- A step into a tree of settings. -/
inductive KeyStep where
  /-- To the entry of a table. -/
  | name (name : String)
  /-- To the item of a list. -/
  | item (place : Int)
deriving DecidableEq

namespace KeyStep

/-- A character of a name on a path. -/
def isNameChar (c : Char) : Bool :=
  c.isAlphanum || c = ' ' || c = '_' || c = '-'

/-- The name at the start of a text, and what follows it. -/
def name? (text : List Char) : Option (KeyStep × List Char) :=
  let name := text.takeWhile isNameChar
  if name.isEmpty then none else some (.name (String.ofList name), text.drop name.length)

private def isGap (c : Char) : Bool :=
  c = ' ' || c = '\t'

/-- The place at the start of a text, after the opening bracket, and what follows the closing one. -/
def item? (text : List Char) : Option (KeyStep × List Char) := do
  let inner := text.dropWhile isGap
  let (negative, body) :=
    match inner with
    | '-' :: rest => (true, rest)
    | rest => (false, rest)
  let digits := body.takeWhile Char.isDigit
  if digits.isEmpty then none
  else
    -- a place may be counted from the end, but it has to fit a machine word
    let size := Number.digitsValue digits
    let place ← Number.int64? (if negative then -(size : Int) else size)
    match (body.drop digits.length).dropWhile isGap with
    | ']' :: rest => some (.item place.toInt, rest)
    | _ => none

/-- The steps after the first name. The fuel is the number of characters. -/
private def more? : Nat → List Char → Option (List KeyStep)
  | _, [] => some []
  | 0, _ :: _ => none
  | fuel + 1, mark :: rest => do
    let (step, rest) ←
      if mark = '.' then name? rest else if mark = '[' then item? rest else none
    return step :: (← more? fuel rest)

/-- The steps of a key, the first of which is a name. -/
def ofKey? (key : String) : Option (List KeyStep) := do
  let (first, rest) ← name? key.toList
  return first :: (← more? rest.length rest)

/-- The steps of a key; one that is no path is a single name. -/
def ofKey (key : String) : List KeyStep :=
  (ofKey? key).getD [.name key]

end KeyStep

end ServiceProbe.Config
