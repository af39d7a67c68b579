import ServiceProbe.Named
import ServiceProbe.Number.Text

/-!
# JSON values

A number is kept as it was written: a natural number of 64 bits, a negative whole number of 64 bits,
or a double. The members of an object stand in the order of their names, each name once.

`pointer?` follows a path of names and indices into a value, and `isContentful` says that a value is
more than an empty one.
-/

namespace ServiceProbe

open Number (Double)

/-- A number of a JSON text. -/
inductive JsonNumber where
  | natural (n : UInt64)
  | negative (n : Int64)
  | double (x : Double)
deriving DecidableEq

/-- A JSON value. -/
inductive Json where
  | null
  | bool (b : Bool)
  | number (n : JsonNumber)
  | string (s : String)
  | array (items : List Json)
  | object (members : List (String × Json))
deriving Inhabited

namespace Json

/-- The members of an object. -/
abbrev Members := List (String × Json)

/-- An object from members in any order; of two with one name the last stays. -/
def ofMembers (members : List (String × Json)) : Json :=
  .object (Entries.collect members)

/-- A natural number below 2⁶⁴. -/
def ofNat (n : Nat) : Json :=
  .number (.natural (UInt64.ofNat n))

/-- The text, or null. -/
def ofText? : Option String → Json
  | none => .null
  | some s => .string s

/-- The natural number, or null. -/
def ofNat? : Option Nat → Json
  | none => .null
  | some n => ofNat n

/-- The value of a member of an object. -/
def member? (name : String) : Json → Option Json
  | .object members => Entries.find? name members
  | _ => none

/-- The items of an array. -/
def items? : Json → Option (List Json)
  | .array items => some items
  | _ => none

def text? : Json → Option String
  | .string s => some s
  | _ => none

def bool? : Json → Option Bool
  | .bool b => some b
  | _ => none

/-- A whole number that is not negative. -/
def natural? : Json → Option UInt64
  | .number (.natural n) => some n
  | _ => none

/-! ### Following a pointer -/

/-- An index of an array is written without a sign and without needless zeros, and fits a word. -/
def index? (token : List Char) : Option Nat :=
  match token with
  | [] => none
  | ['0'] => some 0
  | '0' :: _ => none
  | digits =>
    if digits.all Char.isDigit then
      let n := digits.foldl (fun n c => 10 * n + (c.toNat - '0'.toNat)) 0
      if n < UInt64.size then some n else none
    else none

/-- The token of a pointer with `~1` read as `/` and, after that, `~0` as `~`. -/
def unescape (token : List Char) : List Char :=
  tilde (slash token)
where
  slash : List Char → List Char
    | '~' :: '1' :: rest => '/' :: slash rest
    | c :: rest => c :: slash rest
    | [] => []
  tilde : List Char → List Char
    | '~' :: '0' :: rest => '~' :: tilde rest
    | c :: rest => c :: tilde rest
    | [] => []

/-- One step of a pointer: the member of that name, or the item of that index. -/
def child? (token : List Char) : Json → Option Json
  | .object members => Entries.find? (String.ofList token) members
  | .array items => index? token >>= fun i => items[i]?
  | _ => none

private def tokens (text : List Char) : List (List Char) :=
  match text with
  | [] => [[]]
  | '/' :: rest => [] :: tokens rest
  | c :: rest =>
    match tokens rest with
    | [] => [[c]]
    | token :: more => (c :: token) :: more

/-- The value at a pointer. The empty pointer is the whole value; every other one starts with a
slash. -/
def pointer? (pointer : String) (value : Json) : Option Json :=
  match pointer.toList with
  | [] => some value
  | '/' :: rest => (tokens rest).foldlM (fun held token => held.child? (unescape token)) value
  | _ => none

/-- Not null, false, zero, or an empty text, array or object. -/
def isContentful : Json → Bool
  | .null => false
  | .bool b => b
  | .number (.natural n) => n != 0
  | .number (.negative n) => n != 0
  | .number (.double x) => !x.isZero
  | .string s => !s.isEmpty
  | .array items => !items.isEmpty
  | .object members => !members.isEmpty

end Json

end ServiceProbe
