import ServiceProbe.Http.Message
import ServiceProbe.Json.Writer
import ServiceProbe.Number.Reading

/-!
# Messages on the wire

A request is written as a head of lines and a body, and asks the other side to close the connection after
its response. A response is read from the bytes that have come so far: its head ends at the first empty
line, and the body is as long as its length says, or chunked, or reaches to the end of the connection.
-/

namespace ServiceProbe.Http

/-! ### Requests -/

private def bytesOf (text : String) : List UInt8 :=
  text.toUTF8.toList

/-- The path and query of a URL, as the first line of a request names them. -/
def targetOf (url : Url) : String :=
  let query := (url.query.map ('?' :: ·)).getD []
  String.ofList (url.path.render ++ query)

/-- The host and port of a URL. -/
def hostOf (url : Url) : String :=
  String.ofList ((url.authority.map Authority.render).getD [])

private def header (name value : String) : String :=
  s!"{name}: {value}\x0d\n"

/-- A request as bytes. -/
def Request.bytes (request : Request) : List UInt8 :=
  let body := (request.body.map fun value => bytesOf value.render).getD []
  let first := s!"{request.method.name} {targetOf request.url} HTTP/1.1\x0d\n"
  let headers :=
    [header "host" (hostOf request.url), header "accept" "*/*", header "user-agent" request.userAgent]
  let authorization := (request.authorization.map (header "authorization")).toList
  let content :=
    if request.body.isSome then
      [header "content-type" "application/json", header "content-length" (toString body.length)]
    else []
  let closing := [header "connection" "close", "\x0d\n"]
  bytesOf (first ++ String.join (headers ++ authorization ++ content ++ closing)) ++ body

/-! ### Responses -/

/-- The bytes before and after the first occurrence of a mark. -/
def splitAtBytes? (mark : List UInt8) (bytes : List UInt8) : Option (List UInt8 × List UInt8) :=
  if mark.isPrefixOf bytes then some ([], bytes.drop mark.length)
  else
    match bytes with
    | [] => none
    | byte :: rest => (splitAtBytes? mark rest).map fun (before, after) => (byte :: before, after)

private def lineBreak : List UInt8 := [13, 10]

/-- Bytes as a text, one character for each. -/
private def latin (bytes : List UInt8) : String :=
  String.ofList (bytes.map fun byte => Char.ofNat byte.toNat)

/-- The lines of a head. The fuel is the number of bytes. -/
private def linesOf : Nat → List UInt8 → List String
  | 0, _ => []
  | fuel + 1, bytes =>
    match splitAtBytes? lineBreak bytes with
    | some (line, rest) => latin line :: linesOf fuel rest
    | none => [latin bytes]

/-- The head of a response: its status, and its headers by names in small letters. -/
structure Head where
  status : Nat
  headers : List (String × String)

namespace Head

private def headerOf? (line : String) : Option (String × String) :=
  match Url.splitAtMark ':' line.toList with
  | (name, some value) =>
    some (String.ofList (Text.lowerAscii name), String.ofList (Text.trim value))
  | _ => none

/-- The head in some bytes. -/
def of? (bytes : List UInt8) : Option Head :=
  match linesOf (bytes.length + 1) bytes with
  | [] => none
  | first :: rest =>
    match Text.splitOn ' ' first.toList with
    | _ :: code :: _ =>
      (Number.natural? code).map fun status => ⟨status, rest.filterMap headerOf?⟩
    | _ => none

def header? (head : Head) (name : String) : Option String :=
  head.headers.lookup name

/-- The body comes in chunks. -/
def isChunked (head : Head) : Bool :=
  (head.header? "transfer-encoding").any fun value =>
    Text.contains "chunked".toList (Text.lowerAscii value.toList)

def length? (head : Head) : Option Nat :=
  (head.header? "content-length").bind fun value => Number.natural? value.toList

/-- No body follows. -/
def isBare (head : Head) : Bool :=
  head.status < 200 || head.status = 204 || head.status = 304

def response (head : Head) (body : List UInt8) (complete : Bool) : Response :=
  { status := head.status, body, complete }

end Head

/-- The chunks in some bytes put together, and whether the last one is there. The fuel is the number of
bytes. -/
private def chunks : Nat → List UInt8 → List UInt8 × Bool
  | 0, _ => ([], false)
  | fuel + 1, bytes =>
    match splitAtBytes? lineBreak bytes with
    | none => ([], false)
    | some (line, rest) =>
      match Text.number? 16 ((latin line).toList.takeWhile (· ≠ ';')) with
      | none => ([], false)
      | some 0 => ([], true)
      | some size =>
        -- a line break of two bytes stands behind each chunk
        if rest.length < size + 2 then (rest.take size, false)
        else
          let (more, isWhole) := chunks fuel (rest.drop (size + 2))
          (rest.take size ++ more, isWhole)

/-- What has come of a response so far. -/
inductive Arrival where
  /-- More bytes are needed. -/
  | waiting
  | whole (response : Response)
  /-- These bytes begin no response. -/
  | malformed

/-- The response in the bytes so far; `closed` says that no more will come. Interim responses are passed
over. The fuel is the number of bytes. -/
def arrivalFrom (closed : Bool) : Nat → List UInt8 → Arrival
  | 0, _ => .malformed
  | fuel + 1, bytes =>
    match splitAtBytes? [13, 10, 13, 10] bytes with
    | none => if closed then .malformed else .waiting
    | some (headBytes, rest) =>
      match Head.of? headBytes with
      | none => .malformed
      | some head =>
        if head.status < 200 then arrivalFrom closed fuel rest
        else if head.isBare then .whole (head.response [] true)
        else if head.isChunked then
          let (body, isWhole) := chunks (rest.length + 1) rest
          if isWhole || closed then .whole (head.response body isWhole) else .waiting
        else
          match head.length? with
          | some length =>
            if length ≤ rest.length then .whole (head.response (rest.take length) true)
            else if closed then .whole (head.response rest false)
            else .waiting
          -- without a length the body goes on until the connection is closed
          | none => if closed then .whole (head.response rest true) else .waiting

/-- The response in the bytes so far. -/
def arrivalOf (closed : Bool) (bytes : List UInt8) : Arrival :=
  arrivalFrom closed (bytes.length + 1) bytes

end ServiceProbe.Http
