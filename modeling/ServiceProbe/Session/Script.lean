import ServiceProbe.Session.Service

/-!
# Scripted services

A `Script` fixes every answer of a service in advance. Submissions are answered by the order of their
arrival, cancellations by theirs, and every task goes through the same status replies, counted from its
own first status request. `Script.service` is the service that plays the script.
-/

namespace ServiceProbe

/-- The answers of a service, by number from zero. -/
structure Script where
  /-- The reply to a submission; an acceptance without an id gets one from its number. -/
  submission : Nat → Reply (Option String) := fun _ => ⟨.returns (.ok none), 0⟩
  /-- The reply to a task's status request. -/
  status : Nat → Reply Snapshot := fun _ => ⟨.returns (.ok (Snapshot.ofStatus .pending)), 0⟩
  cancellation : Nat → Except Error Bool := fun _ => .ok true
  healthy : Bool := true

namespace Script

/-- How far a script has been played. -/
structure Progress where
  /-- The submissions so far. -/
  submissions : Nat := 0
  /-- The status requests so far, by task. -/
  checks : List (String × Nat) := []
  cancellations : Nat := 0

namespace Progress

/-- How often the status of a task was asked for. -/
def checksOf (progress : Progress) (id : String) : Nat :=
  (Entries.find? id progress.checks).getD 0

end Progress

/-- The replies one after the other; the last one repeats, and without any there is the default. -/
def repeating {α : Type} (default : α) (replies : List α) (number : Nat) : α :=
  match replies[number]? with
  | some reply => reply
  | none => replies.getLastD default

/-- The replies one after the other, then the default. -/
def inTurn {α : Type} (default : α) (replies : List α) (number : Nat) : α :=
  replies.getD number default

/-- The id of a task that gets none from the script. -/
def idOf (number : Nat) : String :=
  s!"task-{number}"

/-- The answer to the submission of this number. -/
def submissionReply (script : Script) (number : Nat) : Reply String :=
  let reply := script.submission number
  { delay := reply.delay
    answer :=
      match reply.answer with
      | .returns (.ok id?) => .returns (.ok (id?.getD (idOf number)))
      | .returns (.error e) => .returns (.error e)
      | .crashes text => .crashes text }

/-- The service that plays the script. -/
def service (script : Script) : Service Progress where
  submit progress _ _ _ :=
    (script.submissionReply progress.submissions,
      { progress with submissions := progress.submissions + 1 })
  check progress _ id :=
    let asked := progress.checksOf id
    (script.status asked,
      { progress with checks := Entries.insert id (asked + 1) progress.checks })
  cancel progress _ _ :=
    (⟨.returns (script.cancellation progress.cancellations), 0⟩,
      { progress with cancellations := progress.cancellations + 1 })
  health progress := (script.healthy, progress)

end Script

end ServiceProbe
