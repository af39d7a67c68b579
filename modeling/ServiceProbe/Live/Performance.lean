import ServiceProbe.Live.Transport
import ServiceProbe.Session.Program

/-!
# Sessions in real time

A session is performed step by step: the clock and sleeps are real, requests go out through a client, and
a batch has as many threads as workers, each of which takes the next invocation when it is done with one.
Events go to whoever keeps the log.
-/

namespace ServiceProbe.Live

/-- What a performance needs besides the client. -/
structure Stage where
  client : Client
  log : Event → IO Unit

/-- Sleeps for a span, rounded up to whole milliseconds. -/
private partial def sleepFor (span : Nanos) : IO Unit := do
  let millis := (span + Nanos.perMilli - 1) / Nanos.perMilli
  let longest := UInt32.size / 2
  if millis ≤ longest then IO.sleep millis.toUInt32
  else
    IO.sleep longest.toUInt32
    sleepFor (span - Nanos.ofMillis longest)

/-- Performs a procedure. -/
def performProcedure {α : Type} (stage : Stage) : Procedure α → IO (Ending α)
  | .done result => return .returned result
  | .crash text => return .crashed text
  | .clock next => do performProcedure stage (next (← IO.monoNanosNow))
  | .sleep span next => do
    sleepFor span
    performProcedure stage next
  | .submit credential endpoint payload next => do
    let token := stage.client.tokenFor credential
    let answer ← ask stage.client .post endpoint.path token (some payload.encode)
    performProcedure stage (next (answer >>= Client.readSubmission))
  | .check endpoint id next => do
    let path := Client.taskPath endpoint id
    let answer ← ask stage.client .get path stage.client.token none
    performProcedure stage (next (answer >>= Client.readStatus))
  | .cancel endpoint id next => do
    let path := Client.taskPath endpoint id
    let answer ← ask stage.client .delete path stage.client.token none
    performProcedure stage (next (answer >>= Client.readCancellation))
  | .record event next => do
    stage.log event
    performProcedure stage next

/-- Performs one invocation and gives its run. -/
private def performJob (stage : Stage) (index : Nat) (job : Job) : IO Spell := do
  let start ← IO.monoNanosNow
  match job with
  | .unbuilt text => return ⟨index, none, start, .crashed text, []⟩
  | .built procedure =>
    let ending ← performProcedure stage procedure
    return ⟨index, some start, ← IO.monoNanosNow, InvocationEnd.ofEnding ending, []⟩

/-- What one worker does: it takes invocations while there are any. -/
private partial def work (stage : Stage) (waiting : IO.Ref (List (Nat × Job)))
    (done : IO.Ref (List Spell)) : IO Unit := do
  match ← waiting.modifyGet fun jobs => (jobs.head?, jobs.tail) with
  | none => return
  | some (index, job) =>
    let spell ← performJob stage index job
    done.modify (spell :: ·)
    work stage waiting done

/-- The workers of a batch: never more than it has invocations. -/
private def performBatch (stage : Stage) (workers count : Nat) (job : Nat → Job) : IO (Ending (List Report)) := do
  if Pool.HasChannel workers count then
    let waiting ← IO.mkRef ((List.range count).map fun index => (index, job index))
    let done ← IO.mkRef []
    let crew := min (Pool.workers workers) count
    let tasks ← (List.range crew).mapM fun _ =>
      IO.asTask (work stage waiting done) Task.Priority.dedicated
    for task in tasks do
      match ← IO.wait task with
      | .ok _ => pure ()
      | .error e => throw e
    return .returned (Pool.complete count (Pool.received (← done.get).reverse))
  else return .crashed (some Pool.noChannel)

/-- Performs a session. -/
def perform {α : Type} (stage : Stage) : Session α → IO α
  | .done result => return result
  | .clock next => do perform stage (next (← IO.monoNanosNow))
  | .print text next => do
    let output ← IO.getStdout
    output.putStr text
    output.flush
    perform stage next
  | .health next => do
    let answer ← ask stage.client .get Client.healthPath stage.client.token none
    perform stage (next (answer.toOption.any Client.readHealth))
  | .perform procedure next => do
    let ending ← performProcedure stage procedure
    perform stage (next ending)
  | .batch workers count job next => do
    let ending ← performBatch stage workers count job
    perform stage (next ending)

end ServiceProbe.Live
