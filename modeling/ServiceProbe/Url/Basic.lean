import ServiceProbe.Url.Host

/-!
# URLs

A URL is a scheme, an authority with credentials, host and port, a path, a query and a fragment, of which
all but the scheme and the path may be missing. `Url.render` writes it. The parts hold the text that is
written: encoding is done when a URL is read.
-/

namespace ServiceProbe

/-- Who is asked: credentials, host and port. The port is missing where the scheme implies it. -/
structure Authority where
  user : List Char := []
  password : Option (List Char) := none
  host : Url.Host
  port : Option Nat := none
deriving DecidableEq

namespace Authority

/-- Credentials are given. -/
def hasCredentials (authority : Authority) : Bool :=
  !authority.user.isEmpty || authority.password.isSome

def render (authority : Authority) : List Char :=
  (if authority.hasCredentials then
    authority.user ++
      (match authority.password with
        | some password => ':' :: password
        | none => []) ++ ['@']
  else []) ++
    authority.host.render ++
    (match authority.port with
      | some port => ':' :: Nat.toDigits 10 port
      | none => [])

end Authority

/-- The path of a URL: segments, each after a slash, or a text without structure. -/
inductive UrlPath where
  | segments (parts : List (List Char))
  | plain (text : List Char)
deriving DecidableEq

namespace UrlPath

def render : UrlPath → List Char
  | segments parts => parts.flatMap fun part => '/' :: part
  | plain text => text

end UrlPath

/-- A URL. -/
structure Url where
  scheme : List Char
  authority : Option Authority := none
  path : UrlPath
  query : Option (List Char) := none
  fragment : Option (List Char) := none
deriving DecidableEq

namespace Url

/-- A text after a mark, if there is one. -/
def marked (mark : Char) : Option (List Char) → List Char
  | some text => mark :: text
  | none => []

/-- The authority after two slashes. Without one a path must not begin with two slashes, and a dot is put
before it. -/
def renderAuthority (url : Url) : List Char :=
  match url.authority, url.path with
  | some authority, _ => '/' :: '/' :: authority.render
  | none, .segments ([] :: _ :: _) => ['/', '.']
  | none, _ => []

/-- The URL up to the end of its path. -/
def renderBase (url : Url) : List Char :=
  url.scheme ++ [':'] ++ url.renderAuthority ++ url.path.render

def render (url : Url) : List Char :=
  url.renderBase ++ marked '?' url.query ++ marked '#' url.fragment

def text (url : Url) : String :=
  String.ofList url.render

/-- The URL without credentials. -/
def withoutCredentials (url : Url) : Url :=
  { url with
    authority := url.authority.map fun authority =>
      { authority with user := [], password := none } }

/-- The common schemes. With them a host is needed, and a backslash separates like a slash. -/
def specialSchemes : List (String × Option Nat) :=
  [("http", some 80), ("https", some 443), ("ws", some 80), ("wss", some 443), ("ftp", some 21),
    ("file", none)]

/-- The scheme is a common one. -/
def isSpecial (scheme : List Char) : Bool :=
  specialSchemes.any (·.1.toList = scheme)

/-- The port a scheme implies. -/
def defaultPort? (scheme : List Char) : Option Nat :=
  (specialSchemes.find? (·.1.toList = scheme)).bind (·.2)

def isFile (scheme : List Char) : Bool :=
  scheme = "file".toList

/-- The scheme by which a service can be asked. -/
def isHttp (url : Url) : Bool :=
  url.scheme = "http".toList || url.scheme = "https".toList

end Url

end ServiceProbe
