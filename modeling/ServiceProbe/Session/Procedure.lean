import ServiceProbe.Event
import ServiceProbe.Task.Request

/-!
# Procedures

A `Procedure` says what the harness does, one step after the other: it reads the clock, sleeps, makes a
request of the service, records an event, ends with a result or breaks off. What it does next may depend
on each answer. A procedure does nothing by itself; it is run against a service, simulated or real.

Procedures compose: `bind` goes on where the first one ends, and the laws of a monad hold.
-/

namespace ServiceProbe

/-- The credential a submission is made with. -/
inductive Credential where
  /-- The one from the configuration. -/
  | configured
  | token (text : String)
deriving DecidableEq

/-- A submitted task, with the instant just before its submission. -/
structure Handle where
  id : String
  endpoint : Endpoint
  submitted : Nanos
deriving DecidableEq

/-- What the harness does, up to a result. -/
inductive Procedure (α : Type) where
  | done (result : α)
  /-- Breaks off, with a text if there is one. -/
  | crash (text : Option String)
  | clock (next : Nanos → Procedure α)
  | sleep (span : Nanos) (next : Procedure α)
  | submit (credential : Credential) (endpoint : Endpoint) (payload : Payload)
      (next : Except Error String → Procedure α)
  | check (endpoint : Endpoint) (id : String) (next : Except Error Snapshot → Procedure α)
  | cancel (endpoint : Endpoint) (id : String) (next : Except Error Bool → Procedure α)
  | record (event : Event) (next : Procedure α)

namespace Procedure

variable {α β γ : Type}

/-- Goes on with `f` where a procedure ends. -/
def bind (procedure : Procedure α) (f : α → Procedure β) : Procedure β :=
  match procedure with
  | done result => f result
  | crash text => crash text
  | clock next => clock fun now => (next now).bind f
  | sleep span next => sleep span (next.bind f)
  | submit credential endpoint payload next =>
    submit credential endpoint payload fun answer => (next answer).bind f
  | check endpoint id next => check endpoint id fun answer => (next answer).bind f
  | cancel endpoint id next => cancel endpoint id fun answer => (next answer).bind f
  | record event next => record event (next.bind f)

instance : Monad Procedure where
  pure := done
  bind := bind

@[simp] theorem bind_done (procedure : Procedure α) : procedure.bind done = procedure := by
  induction procedure with
  | done | crash => rfl
  | clock _ ih | submit _ _ _ _ ih | check _ _ _ ih | cancel _ _ _ ih => simp [bind, ih]
  | sleep _ _ ih | record _ _ ih => simp [bind, ih]

theorem bind_assoc (procedure : Procedure α) (f : α → Procedure β) (g : β → Procedure γ) :
    (procedure.bind f).bind g = procedure.bind fun a => (f a).bind g := by
  induction procedure with
  | done | crash => rfl
  | clock _ ih | submit _ _ _ _ ih | check _ _ _ ih | cancel _ _ _ ih => simp [bind, ih]
  | sleep _ _ ih | record _ _ ih => simp [bind, ih]

instance : LawfulMonad Procedure :=
  LawfulMonad.mk' Procedure bind_done (fun _ _ => rfl) bind_assoc

/-! ### Single steps -/

/-- The present instant. -/
def now : Procedure Nanos :=
  clock done

/-- Waits. -/
def wait (span : Nanos) : Procedure Unit :=
  sleep span (done ())

/-- Records an event. -/
def note (event : Event) : Procedure Unit :=
  record event (done ())

/-- Submits a task and keeps the instant just before the request. -/
def submitTask (endpoint : Endpoint) (payload : Payload) (credential : Credential := .configured) :
    Procedure (Except Error Handle) :=
  clock fun submitted =>
    submit credential endpoint payload fun
      | .ok id => done (.ok ⟨id, endpoint, submitted⟩)
      | .error e => done (.error e)

/-- Asks for the status of a task. -/
def checkTask (handle : Handle) : Procedure (Except Error Snapshot) :=
  check handle.endpoint handle.id done

/-- Asks to cancel a task; the answer says whether the service accepted that. -/
def cancelTask (handle : Handle) : Procedure (Except Error Bool) :=
  cancel handle.endpoint handle.id done

end Procedure

end ServiceProbe
