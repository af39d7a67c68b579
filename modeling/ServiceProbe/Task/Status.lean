import ServiceProbe.Error
import ServiceProbe.Json.Decode
import ServiceProbe.Text.Blank

/-!
# The status of a task

A service reports a status by a word, and several words stand for one status. Blanks around the word and
the case of its ASCII letters do not matter; any other word is an error that carries it as sent.
-/

namespace ServiceProbe

/-- The state of a task. -/
inductive Status where
  | pending | running | completed | failed | cancelled
  /-- Cancellation was accepted but has not taken effect. -/
  | cancelling
  /-- The service gave the task up. -/
  | timedOut
deriving DecidableEq, Inhabited

namespace Status

/-- The words for a status, in small letters. -/
def spellings : Status → List String
  | pending => ["pending", "queued"]
  | running => ["running", "active", "processing", "in_progress"]
  | completed => ["completed"]
  | failed => ["failed"]
  | cancelled => ["cancelled", "canceled"]
  | cancelling => ["cancelling", "canceling"]
  | timedOut => ["timeout", "timed_out"]

def all : List Status :=
  [pending, running, completed, failed, cancelled, cancelling, timedOut]

/-- The status a word stands for. -/
def parse (word : String) : Except Error Status :=
  let key := String.ofList (Text.lowerAscii (Text.trim word.toList))
  match all.find? fun status => status.spellings.contains key with
  | some status => .ok status
  | none => .error (.unknownStatus word)

/-- The word a status is shown by. -/
def word : Status → String
  | pending => "pending"
  | running => "running"
  | completed => "completed"
  | failed => "failed"
  | cancelled => "cancelled"
  | cancelling => "cancelling"
  | timedOut => "timeout"

/-- The name a status has in JSON. -/
def jsonName : Status → String
  | timedOut => "timed_out"
  | status => status.word

def encode (status : Status) : Json :=
  .string status.jsonName

def decode : Decoder Status :=
  Decoder.oneOf (all.map fun status => (status.jsonName, status))

/-- No further change is to be expected. -/
def isTerminal : Status → Bool
  | completed => true
  | failed => true
  | cancelled => true
  | _ => false

/-- The service has taken note of a cancellation. -/
def acknowledgesCancel : Status → Bool
  | cancelling => true
  | cancelled => true
  | _ => false

end Status

end ServiceProbe
