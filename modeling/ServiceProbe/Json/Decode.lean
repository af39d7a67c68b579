import ServiceProbe.Json.Value
import ServiceProbe.Text.Quoted

/-!
# Decoding JSON values into typed ones

A decoder takes a value and gives a typed one or the reason why it cannot. A record is read from an
object, by the names of its fields, or from an array, by their positions. From an object the present
fields are decoded in the order of their names and unknown ones are ignored; then the missing ones are
looked at in the order of the record. From an array the fields are decoded in the order of the record.
An enumeration is read from the name of one of its cases, or from an object with that name as its only
member and nothing under it.
-/

namespace ServiceProbe

namespace Json

/-- A value as a message names it. -/
def describe : Json → String
  | .null => "null"
  | .bool b => s!"boolean `{b}`"
  | .number (.natural n) => s!"integer `{n.toNat}`"
  | .number (.negative n) => s!"integer `{n.toInt}`"
  | .number (.double x) => s!"floating point `{x.compact}`"
  | .string s => "string " ++ Text.quoted s
  | .array _ => "sequence"
  | .object _ => "map"

end Json

/-- Why a value does not decode. -/
inductive DecodeError where
  | wrongType (found : Json) (expected : String)
  | wrongValue (found : Json) (expected : String)
  | wrongLength (length : Nat) (expected : String)
  | missing (field : String)
  | unknownCase (name : String) (cases : List String)

namespace DecodeError

/-- The names a case may have, as a message lists them. -/
private def choices : List String → String
  | [a, b] => s!"`{a}` or `{b}`"
  | [a] => s!"`{a}`"
  | names => "one of " ++ ", ".intercalate (names.map fun name => s!"`{name}`")

def message : DecodeError → String
  | wrongType found expected => s!"invalid type: {found.describe}, expected {expected}"
  | wrongValue found expected => s!"invalid value: {found.describe}, expected {expected}"
  | wrongLength length expected => s!"invalid length {length}, expected {expected}"
  | missing field => s!"missing field `{field}`"
  | unknownCase name cases => s!"unknown variant `{name}`, expected {choices cases}"

end DecodeError

/-- What decoding gives. -/
abbrev Decoded (α : Type) := Except DecodeError α

/-- One after the other: the second has a result if the first has one to go on with. -/
theorem bind_eq_ok_iff {ε α β : Type} {x : Except ε α} {f : α → Except ε β} {result : β} :
    (x >>= f) = .ok result ↔ ∃ value, x = .ok value ∧ f value = .ok result := by
  cases x with
  | error fault => exact iff_of_false nofun nofun
  | ok value =>
    refine ⟨fun result => ⟨value, rfl, result⟩, fun ⟨other, same, result⟩ => ?_⟩
    cases same
    exact result

theorem map_eq_ok_iff {ε α β : Type} {x : Except ε α} {f : α → β} {result : β} :
    x.map f = .ok result ↔ ∃ value, x = .ok value ∧ f value = result := by
  cases x <;> simp [Except.map]

/-- Turns a value into a typed one. -/
abbrev Decoder (α : Type) := Json → Decoded α

namespace Decoder

def text : Decoder String
  | .string s => .ok s
  | other => .error (.wrongType other "a string")

def boolean : Decoder Bool
  | .bool b => .ok b
  | other => .error (.wrongType other "a boolean")

/-- A natural number below `limit`; messages call its type `name`. -/
def naturalBelow (limit : Nat) (name : String) : Decoder Nat
  | .number (.natural n) =>
    if n.toNat < limit then .ok n.toNat
    else .error (.wrongValue (.number (.natural n)) name)
  | .number (.negative n) => .error (.wrongValue (.number (.negative n)) name)
  | other => .error (.wrongType other name)

/-- A natural number of 32 bits. -/
def word32 : Decoder UInt32 := fun value =>
  (naturalBelow UInt32.size "u32" value).map UInt32.ofNat

/-- A natural number of 64 bits. -/
def word64 : Decoder UInt64 := fun value =>
  (naturalBelow UInt64.size "u64" value).map UInt64.ofNat

/-- A number of items. -/
def count : Decoder UInt64 := fun value =>
  (naturalBelow UInt64.size "usize" value).map UInt64.ofNat

/-- Null, or what the decoder takes. -/
def orNull {α : Type} (decode : Decoder α) : Decoder (Option α)
  | .null => .ok none
  | value => (decode value).map some

def list {α : Type} (decode : Decoder α) : Decoder (List α)
  | .array items => items.mapM decode
  | other => .error (.wrongType other "a sequence")

/-- An object whose members all decode alike. -/
def named {α : Type} (decode : Decoder α) : Decoder (Named α)
  | .object members => do
    let entries ← members.mapM fun (name, value) => return (name, ← decode value)
    return Named.ofList entries
  | other => .error (.wrongType other "a map")

/-- One of the named cases. -/
def oneOf {α : Type} (cases : List (String × α)) : Decoder α
  | .string name => pick name
  | .object [(name, value)] => do
    let chosen ← pick name
    match value with
    | .null => return chosen
    | other => .error (.wrongType other "unit")
  | .object members => .error (.wrongValue (.object members) "map with a single key")
  | other => .error (.wrongType other "string or map")
where
  pick (name : String) : Decoded α :=
    match cases.find? (·.1 = name) with
    | some (_, chosen) => .ok chosen
    | none => .error (.unknownCase name (cases.map (·.1)))

/-! ### Records -/

/-- The name of a record and the number of its fields. -/
structure Shape where
  name : String
  arity : Nat

namespace Shape

/-- The shape as a message names it where a length is wrong. -/
def withLength (shape : Shape) : String :=
  let plural := if shape.arity = 1 then "" else "s"
  s!"struct {shape.name} with {shape.arity} element{plural}"

end Shape

/-- A record from its members or from its items. An array may not have more items than fields. -/
def record {α : Type} (shape : Shape) (fromMembers : Json.Members → Decoded α)
    (fromItems : List Json → Decoded α) : Decoder α
  | .object members => fromMembers members
  | .array items => do
    let result ← fromItems items
    if shape.arity < items.length then
      .error (.wrongLength items.length "fewer elements in array")
    else return result
  | other => .error (.wrongType other s!"struct {shape.name}")

/-- A member, decoded if it is there. -/
def member {α : Type} (members : Json.Members) (name : String) (decode : Decoder α) :
    Decoded (Option α) :=
  match Entries.find? name members with
  | none => .ok none
  | some value => (decode value).map some

/-- A member that has to be there. -/
def required {α : Type} (name : String) : Option α → Decoded α
  | some value => .ok value
  | none => .error (.missing name)

/-- The item at a position, which has to be there. -/
def item {α : Type} (shape : Shape) (items : List Json) (position : Nat) (decode : Decoder α) :
    Decoded α :=
  match items[position]? with
  | some value => decode value
  | none => .error (.wrongLength position shape.withLength)

/-- The item at a position, or a default behind the end. -/
def itemOr {α : Type} (default : α) (items : List Json) (position : Nat) (decode : Decoder α) :
    Decoded α :=
  match items[position]? with
  | some value => decode value
  | none => .ok default

end Decoder

end ServiceProbe
