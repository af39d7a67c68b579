import ServiceProbe.Json.Decode
import ServiceProbe.Json.Outline

/-!
# What an accepted submission says

The body of an accepted submission is a record with one member that matters, the id of the task.
`Acceptance.read?` takes it from the bytes of a body: the id has to be there once and be a text, and
whatever else the record holds is passed over. `Acceptance.decode` takes it from a value, in which each
member is there once in any case.
-/

namespace ServiceProbe

/-- The body of an accepted submission. -/
structure Acceptance where
  id : String
deriving DecidableEq

namespace Acceptance

def encode (acceptance : Acceptance) : Json :=
  Json.ofMembers [("id", .string acceptance.id)]

private def shape : Decoder.Shape := ⟨"CreateTaskResponse", 1⟩

def decode : Decoder Acceptance :=
  Decoder.record shape
    (fun members => do
      let id ← Decoder.member members "id" Decoder.text
      return { id := ← Decoder.required "id" id })
    (fun items => return { id := ← Decoder.item shape items 0 Decoder.text })

/-- The acceptance in the bytes of a body. A list of the id alone stands for the record. -/
def read? (body : List UInt8) : Option Acceptance := do
  let part ←
    match ← Json.outline? (Json.asCharacters body) with
    | .list [part] => some part
    | .list _ => none
    | .object members =>
      match members.filter fun (name, _) => name = "id" with
      -- a member that is there twice is refused
      | [(_, part)] => some part
      | _ => none
  return { id := ← Json.wholeText? part }

end Acceptance

end ServiceProbe
