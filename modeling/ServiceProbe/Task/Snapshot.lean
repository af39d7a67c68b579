import ServiceProbe.Task.Status

/-!
# What a status request shows

A status body is a record of a status word, two counts and an error; everything else in it stays opaque
and is kept with it. `StatusBody.decode` accepts the bodies of that form, `Snapshot.ofBody` those among
them whose word is known.
-/

namespace ServiceProbe

/-- The parts of a status body that mean something here. -/
structure StatusBody where
  status : String
  completedTasks : Option UInt64 := none
  totalTasks : Option UInt64 := none
  error : Option String := none
deriving DecidableEq

namespace StatusBody

private def encodeCount : Option UInt64 → Json
  | none => .null
  | some n => .number (.natural n)

def encode (body : StatusBody) : Json :=
  Json.ofMembers
    [("status", .string body.status),
      ("completed_tasks", encodeCount body.completedTasks),
      ("total_tasks", encodeCount body.totalTasks),
      ("error", Json.ofText? body.error)]

private def shape : Decoder.Shape := ⟨"TaskStatusBody", 4⟩

def decode : Decoder StatusBody :=
  let count := Decoder.orNull Decoder.word64
  Decoder.record shape
    (fun members => do
      -- members are met by their names and items by their places, and the first that is wrong is told
      let completedTasks ← Decoder.member members "completed_tasks" count
      let error ← Decoder.member members "error" (Decoder.orNull Decoder.text)
      let status ← Decoder.member members "status" Decoder.text
      let totalTasks ← Decoder.member members "total_tasks" count
      return {
        status := ← Decoder.required "status" status
        completedTasks := completedTasks.join
        totalTasks := totalTasks.join
        error := error.join })
    (fun items => do
      let status ← Decoder.item shape items 0 Decoder.text
      let completedTasks ← Decoder.itemOr none items 1 count
      let totalTasks ← Decoder.itemOr none items 2 count
      let error ← Decoder.itemOr none items 3 (Decoder.orNull Decoder.text)
      return { status, completedTasks, totalTasks, error })

end StatusBody

/-- One observation of a task. -/
structure Snapshot where
  status : Status
  completed : UInt64 := 0
  total : UInt64 := 0
  /-- The whole body. -/
  payload : Json := .null
  error : Option String := none

namespace Snapshot

/-- The snapshot with this status and nothing else. -/
def ofStatus (status : Status) : Snapshot :=
  { status }

/-- The snapshot that a body describes. -/
def ofBody (body : Json) : Except Error Snapshot :=
  match StatusBody.decode body with
  | .error fault => .error (.invalidResponse "status" fault.message)
  | .ok parts => do
    let status ← Status.parse parts.status
    return {
      status
      completed := parts.completedTasks.getD 0
      total := parts.totalTasks.getD 0
      payload := body
      error := parts.error }

/-- The part of the body at a pointer. -/
def field? (snapshot : Snapshot) (pointer : String) : Option Json :=
  snapshot.payload.pointer? pointer

/-- The part of the body at a pointer is there and more than an empty value. -/
def hasContent (snapshot : Snapshot) (pointer : String) : Bool :=
  (snapshot.field? pointer).any Json.isContentful

end Snapshot

end ServiceProbe
