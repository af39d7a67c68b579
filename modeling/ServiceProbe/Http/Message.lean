import ServiceProbe.Json.Reader
import ServiceProbe.Task.Acceptance
import ServiceProbe.Task.Outcome
import ServiceProbe.Text.Bytes
import ServiceProbe.Url.Reading

/-!
# Requests and responses

A `Network` carries a request to a service and brings back its response, or the reasons why there is none.
What it does may depend on what came before, which it keeps in a state.
-/

namespace ServiceProbe.Http

inductive Method where
  | get | post | delete
deriving DecidableEq

def Method.name : Method → String
  | get => "GET"
  | post => "POST"
  | delete => "DELETE"

/-- A request as it goes out. -/
structure Request where
  method : Method
  /-- Where it goes; credentials that the request presents are not in it. -/
  url : Url
  authorization : Option String
  userAgent : String
  body : Option Json

/-- A response. -/
structure Response where
  status : Nat
  body : List UInt8
  /-- The whole announced body arrived. -/
  complete : Bool := true

/-- What comes of a request. -/
inductive Exchange where
  | answered (response : Response)
  /-- There is no response; the causes stand outermost first. -/
  | lost (causes : List String)

/-- What carries requests, with a state. -/
structure Network (τ : Type) where
  /-- The exchange, how long it takes, and the state after it. -/
  exchange : τ → Request → Exchange × Nanos × τ

namespace Network

/-- A network that reaches nobody. To find that out takes a moment, but hardly any. -/
def unreachable : Network Unit where
  exchange _ _ :=
    (.lost ["client error (Connect)", "tcp connect error", "Network is unreachable (os error 101)"],
      1, ())

end Network

namespace Response

/-- The body as JSON. -/
def json (response : Response) : Except HttpFault Json :=
  if response.complete then
    match String.fromUTF8? ⟨response.body.toArray⟩ with
    | none => .error (.unreadableBody [])
    | some text =>
      match Json.read text with
      | .ok value => .ok value
      | .error fault => .error (.unreadableBody [fault.message])
  else .error (.unreadableBody [])

/-- The body as an acceptance. -/
def acceptance? (response : Response) : Option Acceptance :=
  if response.complete then Acceptance.read? response.body else none

/-- The body as a text, whatever its content type; a fixed text where it is cut short. -/
def text (response : Response) : String :=
  if response.complete then Text.ofBytes response.body else "Unknown error"

end Response

end ServiceProbe.Http
