import ServiceProbe.Config.KeyPath
import ServiceProbe.Named
import ServiceProbe.Number.Text
import ServiceProbe.Text.Case
import ServiceProbe.Text.Quoted

/-!
# Settings and their layers

A configuration is read from several layers: built-in values, files, the environment. Each layer is a
tree of settings, whose leaves know the origin they were read from. `Setting.place` puts one setting
over a tree at a path: under a name a table is merged entry by entry, and everything else is replaced. The
case of letters does not matter in names: a tree knows them in small letters only.

A setting can be written in more than one way. `SettingFault` lists what can be wrong with one that is read as a
value.
-/

namespace ServiceProbe.Config

open Number (Double)

/-- A single value. -/
inductive Scalar where
  /-- Nothing: what stands at the places of a list that were never set. -/
  | nothing
  | truth (b : Bool)
  | whole (n : Int64)
  | real (x : Double)
  | text (s : String)
deriving DecidableEq

/-- Where a setting was read: a file, by its name, or the environment. Built-in ones have none. -/
abbrev Origin := Option String

/-- A tree of settings. -/
inductive Setting where
  | leaf (value : Scalar) (origin : Origin)
  | list (items : List Setting) (origin : Origin)
  | table (entries : List (String × Setting)) (origin : Origin)
deriving Inhabited

namespace Setting

def origin : Setting → Origin
  | leaf _ origin => origin
  | list _ origin => origin
  | table _ origin => origin

/-- A table without entries, made while merging. -/
def emptyTable : Setting := table [] none

/-- The entries of a table; nothing else has any. -/
def entries : Setting → List (String × Setting)
  | table entries _ => entries
  | _ => []

/-- A name as the tables of a tree know it: in small letters. -/
def foldName (name : String) : String :=
  String.ofList (Text.lower name.toList)

/-- The setting with one entry set; what is no table becomes one. -/
def withEntry (held : Setting) (name : String) (value : Setting) : Setting :=
  match held with
  | table entries origin => table (Entries.insert (foldName name) value entries) origin
  | _ => table [(foldName name, value)] none

/-- The items of a list; nothing else has any. -/
def items : Setting → List Setting
  | list items _ => items
  | _ => []

/-- The index that a place stands for in a list of some length. -/
def indexOf (length : Nat) (place : Int) : Nat :=
  if 0 ≤ place then place.toNat else length - place.natAbs

/-- The item at a place of a list, or nothing where there is none. -/
def itemOrNothing (place : Int) (held : Setting) : Setting :=
  held.items[indexOf held.items.length place]?.getD (leaf .nothing none)

/-- The setting with one item set; what is no list becomes one, and a short list grows. -/
def withItem (held : Setting) (place : Int) (value : Setting) : Setting :=
  let index := indexOf held.items.length place
  let items := held.items ++ List.replicate (index + 1 - held.items.length) (leaf .nothing none)
  list (items.set index value)
    (match held with
      | list _ origin => origin
      | _ => none)

/-- The entry of a table, or an empty table where there is none. -/
def entryOrEmpty (name : String) (held : Setting) : Setting :=
  (Entries.find? (foldName name) held.entries).getD emptyTable

mutual

/-- `value` put over `held` under a name. A table is merged into what is there, entry by entry; so one
without entries changes only an absent setting. -/
def put (name : String) (value : Setting) (held : Setting) : Setting :=
  match value with
  | table entries _ => held.withEntry name (putAll entries (held.entryOrEmpty name))
  | other => held.withEntry name other

/-- All entries put over `held`, one after the other. -/
def putAll (entries : List (String × Setting)) (held : Setting) : Setting :=
  match entries with
  | [] => held
  | (name, value) :: rest => putAll rest (put name value held)

end

/-- `value` put over `held` at a path. An item of a list is replaced whatever it is. -/
def place (held : Setting) (path : List KeyStep) (value : Setting) : Setting :=
  match path with
  | [] => held
  | [.name name] => put name value held
  | [.item place] => held.withItem place value
  | .name name :: rest => held.withEntry name ((held.entryOrEmpty name).place rest value)
  | .item place :: rest => held.withItem place ((held.itemOrNothing place).place rest value)

/-- The setting at a path of names. -/
def find? (path : List String) (held : Setting) : Option Setting :=
  match path with
  | [] => some held
  | name :: rest => Entries.find? name held.entries >>= find? rest

end Setting

/-! ### Reading a setting -/

/-- What a setting should have been. -/
inductive Wanted where
  | text | whole | truth
deriving DecidableEq

/-- What is wrong with a setting. -/
inductive SettingFault where
  /-- The setting at `key` cannot be read as wanted. -/
  | mismatch (found : Setting) (wanted : Wanted) (key : String)
  /-- A number below zero where a natural one is wanted. -/
  | negative (n : Int64) (key : String) (origin : Origin)
  /-- A number of more than 32 bits where one of at most 32 is wanted. -/
  | tooLarge (n : Nat) (key : String)
  /-- Something that is neither a table nor a list where a section is wanted. -/
  | noSection (found : Setting) (name : String)
  /-- A list too short for a section. -/
  | shortSection (length : Nat) (name : String) (arity : Nat)
  /-- A section without one of its settings. -/
  | missing (name : String)

namespace SettingFault

/-- A real number as a message names it, with a point in any case. -/
private def realText (x : Double) : String :=
  let text := x.positional
  if text.contains '.' || !x.isFinite then text else text ++ ".0"

private def wantedText : Wanted → String
  | .text => "a string"
  | .whole => "an integer"
  | .truth => "a boolean"

/-- A setting as a message names it. -/
def describe : Setting → String
  | .leaf .nothing _ => "unit value"
  | .leaf (.truth b) _ => s!"boolean `{b}`"
  | .leaf (.whole n) _ => s!"integer `{n.toInt}`"
  | .leaf (.real x) _ => s!"floating point `{realText x}`"
  | .leaf (.text s) _ => "string " ++ Text.quoted s
  | .list _ _ => "sequence"
  | .table _ _ => "map"

private def place (key : String) (origin : Origin) : String :=
  s!" for key `{key}`" ++ (match origin with | some origin => s!" in {origin}" | none => "")

def message : SettingFault → String
  | mismatch found wanted key =>
    s!"invalid type: {describe found}, expected {wantedText wanted}" ++ place key found.origin
  | negative n key origin =>
    s!"invalid type: 64-bit integer `{n.toInt}`, expected an unsigned 64 bit or less integer" ++
      place key origin
  | tooLarge n key =>
    s!"invalid type: 64-bit unsigned integer `{n}`, expected an unsigned 32 bit integer" ++
      place key none
  | noSection found name => s!"invalid type: {describe found}, expected struct {name}"
  | shortSection length name arity =>
    s!"invalid length {length}, expected struct {name} with {arity} elements"
  | missing name => s!"missing field `{name}`"

end SettingFault

end ServiceProbe.Config
