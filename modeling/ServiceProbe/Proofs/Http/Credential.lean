import ServiceProbe.Proofs.Http.Paths

/-!
# The credential of a request

A client with a token is meant to present it with every request. Whether a request bears it is decided
by the URL that the request goes to, which may present a user and a password of its own. All URLs of a
client have the authority of its base URL, so that all its requests bear the same credential
(`Client.authorization_of_seen`). A user or a password in the base URL takes the place of the token
(`Client.authorization_of_seen_ne_bearer`).
-/

namespace ServiceProbe

open Url Http

namespace Client

/-! ### Tokens -/

/-- A control character of ASCII. -/
def isControl (c : Char) : Bool :=
  c.toNat < 0x20 || c.toNat = 0x7F

theorem isHeaderChar_iff {c : Char} : isHeaderChar c ↔ c = '\t' ∨ ¬ isControl c := by
  simp [isHeaderChar, isControl]

/-- A token with a control character cannot be sent. -/
theorem make_ne_ok_of_isControl {settings : ClientSettings} {token : String}
    (isToken : settings.token = some token) {c : Char} (member : c ∈ token.toList) (control : isControl c)
    (noTab : c ≠ '\t') (client : Client) : make settings ≠ .ok client := by
  intro made
  have sound := (make_eq_ok_iff.1 made).2.2.2
  rw [isToken, Option.all_some, List.all_eq_true] at sound
  exact (isHeaderChar_iff.1 (sound c member)).elim noTab fun other => other control

/-! ### Credentials in a URL -/

/-- Credentials are those of the authority. -/
theorem credentials?_congr {url url' : Url} (same : url.authority = url'.authority) :
    credentials? url = credentials? url' := by
  rw [credentials?, credentials?, same]

theorem decoded?_nil : decoded? [] = some [] := by
  rw [decoded?, decodeBytes_nil]
  exact if_pos (by decide +kernel)

/-- Without a user and a password there are no credentials. -/
theorem credentials?_eq_none {url : Url} (noCredentials : ¬ url.authority.any Authority.hasCredentials) :
    credentials? url = none := by
  rw [credentials?]
  cases same : url.authority with
  | none => rfl
  | some authority =>
    obtain ⟨user, password, host, port⟩ := authority
    rw [same, Option.any_some, Authority.hasCredentials, Bool.or_eq_true, not_or] at noCredentials
    obtain rfl : user = [] := by simpa using noCredentials.1
    obtain rfl : password = none := by simpa using noCredentials.2
    simp only [bind, Option.bind_some, decoded?_nil]
    rfl

/-- Credentials of a URL are not those of a token. -/
theorem basicCredentials_ne (user : List UInt8) (password : Option (List UInt8)) (token : String) :
    basicCredentials user password ≠ "Bearer " ++ token := by
  intro same
  have texts := congrArg String.toList same
  rw [basicCredentials, String.toList_append, String.toList_append] at texts
  -- the schemes differ in their second letter
  have second : 'a' = 'e' := (List.cons.inj (List.cons.inj texts).2).1
  exact absurd second (by decide)

theorem authorization_of_credentials? {url : Url} {user : List UInt8} {password : Option (List UInt8)}
    (presented : credentials? url = some (user, password)) (token : Option String) :
    authorization url token = some (basicCredentials user password) := by
  rw [authorization, presented]

/-- Behind the credentials of a URL the token is not seen. -/
theorem authorization_eq_bearer_iff {url : Url} {token : String} :
    authorization url (some token) = some ("Bearer " ++ token) ↔ credentials? url = none := by
  constructor
  · intro bears
    by_contra some
    obtain ⟨⟨user, password⟩, presented⟩ := Option.ne_none_iff_exists'.1 some
    rw [authorization_of_credentials? presented] at bears
    exact basicCredentials_ne user password token (Option.some.inj bears)
  · intro none
    rw [authorization, none]
    rfl

/-- Without a token none is borne. -/
theorem authorization_none_ne {url : Url} (token : String) :
    authorization url none ≠ some ("Bearer " ++ token) := by
  rw [authorization]
  split
  · exact fun same => basicCredentials_ne _ _ token (Option.some.inj same)
  · exact nofun

/-! ### Runs -/

/-- Every inquiry is at a path that begins with a slash. -/
theorem exists_path (inquiry : Inquiry) : ∃ tail, inquiry.path.toList = '/' :: tail := by
  match inquiry with
  | .call (.submit endpoint payload) => exact ⟨_, endpoint.flatMap_segments.symm⟩
  | .call (.check endpoint id) => exact ⟨_, toList_taskPath endpoint id⟩
  | .call (.cancel endpoint id) => exact ⟨_, toList_taskPath endpoint id⟩
  | .health => exact ⟨_, rfl⟩

section made

variable {settings : ClientSettings} {client : Client} (made : make settings = .ok client)
  (http : client.baseUrl.isHttp)

include made http

/-- What a request bears is decided by the base URL and the token. -/
theorem authorization_of_requestOf? {inquiry : Inquiry} {sent : Request}
    (found : client.requestOf? inquiry = some sent) :
    sent.authorization = authorization client.baseUrl settings.token := by
  obtain ⟨authority, segments, settled⟩ := exists_settled_baseUrl made http
  obtain ⟨tail, slash⟩ := exists_path inquiry
  obtain ⟨url, isUrl, -, rfl⟩ := exists_of_requestOf? found
  -- wherever the path leads, the URL has the authority of the base URL, and with it its credentials
  obtain ⟨url', isUrl', -, sameAuthority⟩ := exists_urlFor settled slash
  rw [isUrl] at isUrl'
  obtain rfl := Except.ok.inj isUrl'
  rw [request, authorization, authorization, credentials?_congr sameAuthority, (make_eq_ok_iff.1 made).2.2.1]

end made

/-- **The credential of all requests.** A token with a control character other than a tab makes no
client. All requests of a client bear the same credential, whatever is asked and answered: the token,
exactly if the base URL presents nothing, and else what the base URL presents. Without a token, as with
an empty key, none is borne. -/
theorem authorization_of_seen (settings : ClientSettings) :
    (∀ token, settings.token = some token → (∃ c ∈ token.toList, isControl c ∧ c ≠ '\t') →
      ∃ fault, make settings = .error (.config fault)) ∧
    (∀ client, make settings = .ok client → client.baseUrl.isHttp →
      (¬ client.baseUrl.authority.any Authority.hasCredentials → credentials? client.baseUrl = none) ∧
      ∀ {τ : Type} (network : Network τ) (state : τ) (inquiries : List Inquiry),
        ∀ request ∈ client.seen network state inquiries,
          (∀ token, settings.token = some token →
            (request.authorization = some ("Bearer " ++ token) ↔ credentials? client.baseUrl = none)) ∧
          (∀ user password, credentials? client.baseUrl = some (user, password) →
            request.authorization = some (basicCredentials user password)) ∧
          (settings.token = none → ∀ token, request.authorization ≠ some ("Bearer " ++ token))) ∧
    ∀ api : ApiSettings, api.apiKey = "" → (ClientSettings.ofApi api).token = none := by
  refine ⟨?_, ?_, ?_⟩
  · -- a control character makes a header impossible, so there is no client
    rintro token isToken ⟨c, member, control, noTab⟩
    exact exists_make_eq_error (make_ne_ok_of_isControl isToken member control noTab)
  · intro client made http
    refine ⟨credentials?_eq_none, fun network state inquiries request member => ?_⟩
    rw [seen_eq_filterMap, List.mem_filterMap] at member
    -- each request that went out is that of an inquiry, and has the header of every other
    obtain ⟨inquiry, -, found⟩ := member
    rw [authorization_of_requestOf? made http found]
    refine ⟨fun token isToken => ?_, fun user password presented => ?_, fun noToken token => ?_⟩
    · rw [isToken, authorization_eq_bearer_iff]
    · exact authorization_of_credentials? presented settings.token
    · rw [noToken]
      exact authorization_none_ne token
  · intro api empty
    rw [ClientSettings.ofApi, empty]
    rfl

/-- A client with a token. -/
def bearing : Client :=
  { builtIn with token := some "secret" }

/-- A token is borne by the request for the health of a service; with a line break in it there is no
client. -/
theorem authorization_of_seen_health :
    make { token := some "secret" } = .ok bearing ∧ bearing.baseUrl.isHttp ∧
      (∃ request, bearing.seen Network.unreachable () [.health] = [request] ∧
        request.authorization = some "Bearer secret") ∧
      ∃ fault, make { token := some "secret\nX: 1" } = .error (.config fault) := by
  have made : make { token := some "secret" } = .ok bearing :=
    make_eq_ok_iff.2 ⟨by decide +kernel, rfl, rfl, by decide +kernel⟩
  obtain ⟨-, sound, -⟩ := authorization_of_seen { token := some "secret" }
  obtain ⟨noCredentials, borne⟩ := sound bearing made (by decide)
  -- a token is borne by the first client, and the second one cannot be made
  refine ⟨made, by decide, ?_, ?_⟩
  · have isUrl : bearing.urlFor Inquiry.health.path =
        .ok { bearing.baseUrl with path := .segments ["health".toList] } := urlFor_eq_ok (by decide +kernel)
    have seen := seen_eq_singleton isUrl (by decide +kernel) Network.unreachable ()
    refine ⟨_, seen, ?_⟩
    have isSeen := List.mem_singleton_self (request Inquiry.health.method
      { bearing.baseUrl with path := .segments ["health".toList] } bearing.token Inquiry.health.body)
    rw [← seen] at isSeen
    exact ((borne Network.unreachable () [.health] _ isSeen).1 "secret" rfl).2 (noCredentials (by decide))
  · obtain ⟨refused, -, -⟩ := authorization_of_seen { token := some "secret\nX: 1" }
    exact refused _ rfl ⟨'\n', by decide +kernel, by decide, by decide⟩

/-- A client with a token whose base URL presents a user and a password. -/
def presenting : Client where
  baseUrl :=
    { scheme := "http".toList
      authority := some
        { user := "user".toList
          password := some "pw".toList
          host := .domain "localhost".toList
          port := some 3000 }
      path := .segments [[]] }
  timeoutMillis := 30000
  token := some "secret"

/-- The user and the password of a URL take the place of the token. -/
theorem authorization_of_seen_ne_bearer :
    make { baseUrl := "http://user:pw@localhost:3000", token := some "secret" } = .ok presenting ∧
      presenting.baseUrl.isHttp ∧
      ∃ request ∈ presenting.seen Network.unreachable () [.health],
        request.authorization = some "Basic dXNlcjpwdw==" ∧ request.authorization ≠ some "Bearer secret" := by
  have isUrl : presenting.urlFor Inquiry.health.path =
      .ok { presenting.baseUrl with path := .segments ["health".toList] } := urlFor_eq_ok (by decide +kernel)
  refine ⟨make_eq_ok_iff.2 ⟨by decide +kernel, rfl, rfl, by decide +kernel⟩, by decide, ?_⟩
  rw [seen_eq_singleton isUrl (by decide +kernel)]
  exact ⟨_, List.mem_singleton_self _, by decide +kernel, by decide +kernel⟩

end Client

end ServiceProbe
