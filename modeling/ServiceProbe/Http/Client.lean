import ServiceProbe.Config.Basic
import ServiceProbe.Http.Message
import ServiceProbe.Session.Service
import ServiceProbe.Text.Base64

/-!
# The client of a task service

A client knows where a service is and the token to present. It appends the path of an endpoint to the
text of its base URL, sends one request, and reads the answer by its status code: a task is accepted with
201 or 202, a status comes with 200, a cancellation is taken with 204, and a service is well if it
answers 200. `Client.service` is the service as it is seen through the client over a network.
-/

namespace ServiceProbe

open Http

/-- What a client is made from. -/
structure ClientSettings where
  baseUrl : String := "http://localhost:3000"
  timeoutMillis : UInt64 := 30000
  token : Option String := none

namespace ClientSettings

/-- The settings that a configuration gives; an empty key is no token. -/
def ofApi (api : ApiSettings) : ClientSettings :=
  { baseUrl := api.baseUrl
    timeoutMillis := api.requestTimeoutMillis
    token := if api.apiKey.isEmpty then none else some api.apiKey }

end ClientSettings

/-- A client. -/
structure Client where
  baseUrl : Url
  timeoutMillis : UInt64
  token : Option String

namespace Client

/-- A character that may stand in a header: no control character but the tab. -/
def isHeaderChar (c : Char) : Bool :=
  c = '\t' || (0x20 ≤ c.toNat && c.toNat ≠ 0x7F)

/-- A client for the settings, if the base URL can be read and the token can be sent. -/
def make (settings : ClientSettings) : Except Error Client :=
  match Url.parse settings.baseUrl.toList with
  | .error fault => .error (.config (.invalidBaseUrl fault))
  | .ok baseUrl =>
    if settings.token.all fun token => token.toList.all isHeaderChar then
      .ok { baseUrl, timeoutMillis := settings.timeoutMillis, token := settings.token }
    else .error (.config .invalidToken)

/-- The client as it shows itself, without its token. -/
def describe (client : Client) : String :=
  "TaskApiClient \x7b base_url: " ++ Text.quoted client.baseUrl.text ++
    s!", timeout_ms: {client.timeoutMillis.toNat}, auth_enabled: {client.token.isSome} \x7d"

/-- The text without slashes at its end. -/
def dropTrailingSlashes (text : List Char) : List Char :=
  (text.reverse.dropWhile (· = '/')).reverse

/-- The URL for a path: the text of the base URL without slashes at its end, and the path. -/
def urlFor (client : Client) (path : String) : Except Error Url :=
  match Url.parse (dropTrailingSlashes client.baseUrl.render ++ path.toList) with
  | .ok url => .ok url
  | .error fault => .error (.config (.unusableUrl fault))

/-- The path of a task. -/
def taskPath (endpoint : Endpoint) (id : String) : String :=
  s!"{endpoint.path}/{id}"

def healthPath : String := "/health"

def userAgent : String := "taskprobe/0.1.0"

/-- What encoded text stands for, if that is a text. -/
def decoded? (text : List Char) : Option (List UInt8) :=
  let bytes := Url.decodeBytes text
  if (String.fromUTF8? ⟨bytes.toArray⟩).isSome then some bytes else none

/-- The user and the password that a URL presents. A user who is no text presents nothing, and a password
that is no text counts as missing. -/
def credentials? (url : Url) : Option (List UInt8 × Option (List UInt8)) := do
  let authority ← url.authority
  let user ← decoded? authority.user
  let password := authority.password >>= decoded?
  if user.isEmpty && password.isNone then none else some (user, password)

/-- Credentials as a header. -/
def basicCredentials (user : List UInt8) (password : Option (List UInt8)) : String :=
  "Basic " ++ String.ofList (Text.base64 (user ++ ':'.toUInt8 :: password.getD []))

/-- The credential a request bears: the one in its URL, else the token. -/
def authorization (url : Url) (token : Option String) : Option String :=
  match credentials? url with
  | some (user, password) => some (basicCredentials user password)
  | none => token.map ("Bearer " ++ ·)

/-- The URL a request goes to: what is presented in a header is taken out of it. -/
def target (url : Url) : Url :=
  if (credentials? url).isSome then url.withoutCredentials else url

/-- A character of a host that the first line of a request cannot hold. -/
private def isUnwritable (c : Char) : Bool :=
  ['"', '\x60', '\x7b', '\x7d'].contains c

/-- The most bytes a URL on the first line of a request may have. -/
def longestTarget : Nat := 65534

/-- Why no request can go to a URL. -/
def obstacle? (url : Url) : Option String :=
  if !url.isHttp then some "URL scheme is not allowed"
  else if (url.authority.any fun authority => authority.host.render.any isUnwritable) ||
      longestTarget < url.text.utf8ByteSize then some "Parsed Url is not a valid Uri"
  else none

/-- The token a credential stands for. -/
def tokenFor (client : Client) : Credential → Option String
  | .configured => client.token
  | .token text => some text

/-! ### What answers mean -/

/-- The answer to a submission: the id of the accepted task. -/
def readSubmission (response : Response) : Except Error String :=
  if response.status = 201 || response.status = 202 then
    match response.acceptance? with
    | some acceptance => .ok acceptance.id
    | none =>
      let fault := HttpFault.unreadableBody []
      .error (.invalidResponse "id" s!"Failed to parse creation response: {fault.message}")
  else .error (.ofRejection response.status response.text)

/-- The answer to a status request. -/
def readStatus (response : Response) : Except Error Snapshot :=
  if response.status = 200 then
    match response.json with
    | .error fault => .error (.http fault)
    | .ok body => Snapshot.ofBody body
  else .error (.ofStatus response.status response.text)

/-- The answer to a cancellation: whether it was taken. -/
def readCancellation (response : Response) : Except Error Bool :=
  if response.status = 204 then .ok true
  else if Error.refusesCredential response.status then
    .error (.ofStatus response.status response.text)
  else .ok false

/-- The answer to a health check. -/
def readHealth (response : Response) : Bool :=
  response.status = 200

/-! ### Asking -/

variable {τ : Type}

/-- The request to a URL. -/
def request (method : Method) (url : Url) (token : Option String) (body : Option Json) : Request :=
  { method
    url := target url
    authorization := authorization url token
    userAgent
    body }

/-- Sends one request; a URL that cannot be read or asked makes none. -/
def ask (client : Client) (network : Network τ) (state : τ) (method : Method) (path : String)
    (token : Option String) (body : Option Json) : Except Error Response × Nanos × τ :=
  match client.urlFor path with
  | .error e => (.error e, 0, state)
  | .ok url =>
    let request := request method url token body
    -- faults name the URL of the request, without the credentials that it presents
    match obstacle? request.url with
    | some cause => (.error (.http (.unsendable request.url.text [cause])), 0, state)
    | none =>
      match network.exchange state request with
      | (.answered response, delay, state) => (.ok response, delay, state)
      | (.lost causes, delay, state) =>
        (.error (.http (.unanswered request.url.text causes)), delay, state)

def replyOf {α : Type} (read : Response → Except Error α)
    (asked : Except Error Response × Nanos × τ) : Reply α × τ :=
  let (result, delay, state) := asked
  (⟨.returns (result >>= read), delay⟩, state)

/-- The service behind a network, seen through the client. -/
def service (client : Client) (network : Network τ) : Service τ where
  submit state credential endpoint payload :=
    replyOf readSubmission
      (client.ask network state .post endpoint.path (client.tokenFor credential)
        (some payload.encode))
  check state endpoint id :=
    replyOf readStatus
      (client.ask network state .get (taskPath endpoint id) client.token none)
  cancel state endpoint id :=
    replyOf readCancellation
      (client.ask network state .delete (taskPath endpoint id) client.token none)
  health state :=
    let (result, _, state) := client.ask network state .get healthPath client.token none
    (result.toOption.any readHealth, state)

end Client

end ServiceProbe
