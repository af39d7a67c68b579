import Std.Async.DNS
import Std.Async.TCP
import ServiceProbe.Http.Client
import ServiceProbe.Live.Wire

/-!
# Exchanges over TCP

One exchange is one connection: the host is looked up, the request sent, and bytes are received until they
are a response. An exchange that takes longer than the timeout of the client is given up. Only plain HTTP
is spoken.
-/

namespace ServiceProbe.Live

open Http
open Std.Async

/-- Where a request goes. -/
private def addressesOf (url : Url) : IO (List Std.Net.SocketAddress) := do
  match url.authority with
  | none => throw (IO.userError "no host")
  | some authority =>
    let port := ((authority.port.or (Url.defaultPort? url.scheme)).getD 80).toUInt16
    let name :=
      match authority.host with
      | .ipv6 groups => Url.Host.renderIpv6 groups
      | host => host.render
    let found ← (DNS.getAddrInfo (String.ofList name) (toString port.toNat)).block
    return found.toList.map fun
      | .v4 address => .v4 ⟨address, port⟩
      | .v6 address => .v6 ⟨address, port⟩

/-- Connects to the first address that answers. -/
private def connect (addresses : List Std.Net.SocketAddress) : IO TCP.Socket.Client := do
  match addresses with
  | [] => throw (IO.userError "no address")
  | [address] =>
    let socket ← TCP.Socket.Client.mk
    (socket.connect address).block
    return socket
  | address :: rest =>
    -- an address that does not answer says nothing about the others
    try
      let socket ← TCP.Socket.Client.mk
      (socket.connect address).block
      return socket
    catch _ => connect rest

/-- Receives until there is a response. -/
private partial def receive (socket : TCP.Socket.Client) (bytes : ByteArray) : IO Response := do
  let chunk ← (socket.recv? 65536).block
  let closed := chunk.isNone
  let bytes := bytes ++ chunk.getD ByteArray.empty
  match arrivalOf closed bytes.toList with
  | .whole response => return response
  | .waiting => receive socket bytes
  | .malformed => throw (IO.userError "invalid HTTP response")

/-- One exchange, however long it takes. -/
private def exchangeOnce (request : Request) : IO Exchange := do
  if request.url.scheme ≠ "http".toList then
    return .lost ["client error (Connect)", "only plain HTTP is supported"]
  let socket ←
    try connect (← addressesOf request.url)
    catch e => return .lost ["client error (Connect)", "tcp connect error", e.toString]
  try
    (socket.send ⟨request.bytes.toArray⟩).block
    return .answered (← receive socket ByteArray.empty)
  catch e => return .lost ["client error (SendRequest)", e.toString]

/-- How long to sleep between two looks at an exchange under way, in milliseconds. -/
private def lookPause : UInt32 := 2

/-- Waits for a task until an instant. -/
private partial def awaitUntil {α : Type} (deadline : Nat) (task : Task (Except IO.Error α)) :
    IO (Option (Except IO.Error α)) := do
  if ← IO.hasFinished task then return some task.get
  else if deadline ≤ (← IO.monoMsNow) then return none
  else
    IO.sleep lookPause
    awaitUntil deadline task

/-- One exchange within a timeout. -/
def exchange (timeoutMillis : Nat) (request : Request) : IO Exchange := do
  let started ← IO.monoMsNow
  let task ← IO.asTask (exchangeOnce request) Task.Priority.dedicated
  match ← awaitUntil (started + timeoutMillis) task with
  | some (.ok found) => return found
  | some (.error e) => return .lost [e.toString]
  | none => return .lost ["operation timed out"]

/-- What a client gets for a request, sent if its URL allows it. -/
def ask (client : Client) (method : Method) (path : String) (token : Option String)
    (body : Option Json) : IO (Except Error Response) := do
  match client.urlFor path with
  | .error e => return .error e
  | .ok url =>
    let request := Client.request method url token body
    match Client.obstacle? request.url with
    | some cause => return .error (.http (.unsendable request.url.text [cause]))
    | none =>
      match ← exchange client.timeoutMillis.toNat request with
      | .answered response => return .ok response
      | .lost causes => return .error (.http (.unanswered request.url.text causes))

end ServiceProbe.Live
