import ServiceProbe.Error
import ServiceProbe.Json.Decode
import ServiceProbe.Text.Blank

/-!
# The endpoints that accept tasks

An endpoint has a short name and a path. Both are accepted as its name, and so is every text that becomes
the short name when blanks around it, then copies of `/v1/` and then slashes at its start are removed.
-/

namespace ServiceProbe

/-- An endpoint that accepts tasks. -/
inductive Endpoint where
  | scrape | crawl | search | extract
deriving DecidableEq, Inhabited

namespace Endpoint

def all : List Endpoint :=
  [scrape, crawl, search, extract]

/-- The short name. -/
def name : Endpoint → String
  | scrape => "scrape"
  | crawl => "crawl"
  | search => "search"
  | extract => "extract"

/-- The path of the collection; a task is found below it. -/
def path (endpoint : Endpoint) : String :=
  "/v1/" ++ endpoint.name

/-- A text without the parts that may stand before a short name. -/
def bareName (text : List Char) : List Char :=
  Text.dropLeading ['/'] (Text.dropLeading ['/', 'v', '1', '/'] (Text.trim text))

/-- The endpoint a text names. -/
def parse (text : String) : Except Error Endpoint :=
  let bare := bareName text.toList
  match all.find? fun endpoint => endpoint.name.toList = bare with
  | some endpoint => .ok endpoint
  | none => .error (.config (.unknownEndpoint (String.ofList bare)))

def encode (endpoint : Endpoint) : Json :=
  .string endpoint.name

def decode : Decoder Endpoint :=
  Decoder.oneOf (all.map fun endpoint => (endpoint.name, endpoint))

end Endpoint

end ServiceProbe
