import ServiceProbe.Config.Setting
import ServiceProbe.Json.Reader
import ServiceProbe.Url.Fault

/-!
# What can go wrong

`Error` lists the causes, `Error.message` their wording. Two questions decide what a caller does with an
error: does it say that the credential was refused (`isAuthFailure`), and is a failed status check worth
another attempt (`isRecoverable`)? `chain` is the message followed by the messages of what caused it.
-/

namespace ServiceProbe

/-- Why an exchange over HTTP gave no usable answer. -/
inductive HttpFault where
  /-- The request for this URL did not go out or was not answered. -/
  | unanswered (url : String) (causes : List String)
  /-- No request can be made for this URL. -/
  | unsendable (url : String) (causes : List String)
  /-- The body of the answer is cut short or is not what it should be. -/
  | unreadableBody (causes : List String)
  /-- The answer from this URL came with a code of failure that was taken for a fault; a phrase goes with the
  code. -/
  | failureCode (url : String) (status : Nat) (phrase : String)
deriving DecidableEq

namespace HttpFault

def message : HttpFault → String
  | unanswered url _ => s!"error sending request for url ({url})"
  | unsendable url _ => s!"builder error for url ({url})"
  | unreadableBody _ => "error decoding response body"
  | failureCode url status phrase =>
    let side := if 400 ≤ status && status < 500 then "client" else "server"
    s!"HTTP status {side} error ({status} {phrase}) for url ({url})"

/-- What caused the fault, outermost first. -/
def causes : HttpFault → List String
  | unanswered _ causes => causes
  | unsendable _ causes => causes
  | unreadableBody causes => causes
  | failureCode _ _ _ => []

/-- The code of the answer, where the fault is its code. -/
def status? : HttpFault → Option Nat
  | failureCode _ status _ => some status
  | _ => none

end HttpFault

/-- What is wrong with a configuration. -/
inductive ConfigFault where
  | unknownEndpoint (name : String)
  | invalidBaseUrl (fault : UrlFault)
  | invalidToken
  | unusableUrl (fault : UrlFault)
  | fileNotFound (path : String)
  /-- A file of no known format. -/
  | unknownFormat (path : String)
  | unreadableFile
  | setting (fault : Config.SettingFault)
  | emptyBaseUrl
  | malformedBaseUrl (fault : UrlFault)
  /-- A setting that has to be above zero. -/
  | notPositive (name : String)
  | other (message : String)

def ConfigFault.message : ConfigFault → String
  | .unknownEndpoint name => s!"Unknown task endpoint: {name}"
  | .invalidBaseUrl fault => s!"Invalid base URL: {fault.message}"
  | .invalidToken => "Invalid bearer token: failed to parse header value"
  | .unusableUrl fault => s!"Failed to construct URL: {fault.message}"
  | .fileNotFound path => s!"Config file not found: {path}"
  | .unknownFormat path => s!"configuration file \"{path}\" is not of a registered file format"
  | .unreadableFile => "TOML parse error"
  | .setting fault => fault.message
  | .emptyBaseUrl => "api.base_url must not be empty"
  | .malformedBaseUrl fault => s!"api.base_url is not a valid URL: {fault.message}"
  | .notPositive name => s!"{name} must be positive"
  | .other message => message

/-- An error of the harness. -/
inductive Error where
  | http (fault : HttpFault)
  | serialization (cause : Json.SyntaxError)
  | config (fault : ConfigFault)
  /-- A submission answered with another code than acceptance. -/
  | creation (status : Nat) (message : String)
  | api (status : Nat) (message : String)
  /-- The service refused the credential. -/
  | auth (status : Nat) (message : String)
  | unknownStatus (word : String)
  | invalidResponse (field reason : String)
  | internal (message : String)

namespace Error

/-- The codes by which a service refuses a credential. -/
def refusesCredential (status : Nat) : Bool :=
  status = 401 || status = 403

/-- The error for a code that is no success. -/
def ofStatus (status : Nat) (message : String) : Error :=
  if refusesCredential status then auth status message else api status message

/-- The error for a refused submission. -/
def ofRejection (status : Nat) (message : String) : Error :=
  if refusesCredential status then auth status message else creation status message

def message : Error → String
  | http fault => s!"HTTP request failed: {fault.message}"
  | serialization cause => s!"JSON serialization/deserialization failed: {cause.message}"
  | config fault => s!"Configuration error: {fault.message}"
  | creation status message => s!"Task creation rejected: {status} - {message}"
  | api status message => s!"API error: {status} - {message}"
  | auth status message => s!"Authentication failed: {status} - {message}"
  | unknownStatus word => s!"Unknown task status: {word}"
  | invalidResponse field reason => s!"Invalid response: {field} - {reason}"
  | internal message => s!"Internal error: {message}"

/-- The message, and the messages of the causes below it. -/
def chain (e : Error) : List String :=
  e.message ::
    match e with
    | http fault => fault.message :: fault.causes
    | serialization cause => [cause.message]
    | _ => []

/-- The code the service answered with, if it answered at all. -/
def status? : Error → Option Nat
  | creation status _ => some status
  | api status _ => some status
  | auth status _ => some status
  | http fault => fault.status?
  | _ => none

def isAuthFailure : Error → Bool
  | auth _ _ => true
  | _ => false

/-- A failed status check after which another attempt may succeed. -/
def isRecoverable : Error → Bool
  | http fault => !fault.status?.any refusesCredential
  | api _ _ => true
  | serialization _ => true
  | invalidResponse _ _ => true
  | _ => false

end Error

end ServiceProbe
