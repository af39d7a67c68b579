import ServiceProbe.Proofs.Http.Answers
import ServiceProbe.Proofs.LoadTest.Submissions
import ServiceProbe.Proofs.Session.Motion

/-!
# What is sent in the course of a session

A network that notes its requests knows at the end of a session what was sent, and in which order. Each thing that
a client is asked for adds its request to the note, and nothing is ever taken out of it.

* `Client.moves_noting` — what has been sent stays in front of what is sent later;
* `Client.tallies_noting` — of all requests only the submissions are posted;
* `Client.fst_health_iff` — a service is found well by the answer to its health check.
-/

namespace ServiceProbe

open Http

/-- The requests by which something is submitted. -/
def Http.Request.posts (requests : List Request) : List Request :=
  requests.filter (·.method = .post)

namespace Client

variable {τ : Type} (client : Client) (network : Network τ) (state : τ × List Request)

/-! ### One request after the other -/

/-- Where a token is given, that of the client does not matter. -/
theorem ask_of_token (own : Option String) (method : Method) (path : String) (token : Option String)
    (body : Option Json) :
    { client with token := own }.ask network.noting state method path token body =
      client.ask network.noting state method path token body := by
  rw [ask, ask, urlFor, urlFor]

/-- A submission goes out with the token that its credential stands for. -/
theorem sent_submit (credential : Credential) (endpoint : Endpoint) (payload : Payload) :
    ((client.service network.noting).submit state credential endpoint payload).2.2 =
      state.2 ++ ({ client with token := client.tokenFor credential }.requestOf?
        (.call (.submit endpoint payload))).toList := by
  have seen := seen_after { client with token := client.tokenFor credential } network state
    (.call (.submit endpoint payload))
  rw [after_eq_ask, ask_of_token] at seen
  simp only [Inquiry.method, Inquiry.path, Inquiry.body] at seen
  simp only [service, snd_replyOf]
  exact seen

theorem sent_check (endpoint : Endpoint) (id : String) :
    ((client.service network.noting).check state endpoint id).2.2 =
      state.2 ++ (client.requestOf? (.call (.check endpoint id))).toList := by
  have seen := client.seen_after network state (.call (.check endpoint id))
  rw [Inquiry.after] at seen
  exact seen

theorem sent_cancel (endpoint : Endpoint) (id : String) :
    ((client.service network.noting).cancel state endpoint id).2.2 =
      state.2 ++ (client.requestOf? (.call (.cancel endpoint id))).toList := by
  have seen := client.seen_after network state (.call (.cancel endpoint id))
  rw [Inquiry.after] at seen
  exact seen

theorem sent_health :
    ((client.service network.noting).health state).2.2 = state.2 ++ (client.requestOf? .health).toList := by
  have seen := client.seen_after network state .health
  rw [Inquiry.after] at seen
  exact seen

/-- **Nothing is unsent.** What was sent before stays in front. -/
theorem moves_noting : (client.service network.noting).Moves fun before after => before.2 <+: after.2 where
  refl _ := List.prefix_rfl
  trans := List.IsPrefix.trans
  submit state credential endpoint payload := ⟨_, (client.sent_submit network state credential endpoint payload).symm⟩
  check state endpoint id := ⟨_, (client.sent_check network state endpoint id).symm⟩
  cancel state endpoint id := ⟨_, (client.sent_cancel network state endpoint id).symm⟩
  health state := ⟨_, (client.sent_health network state).symm⟩

/-! ### Submissions among the requests -/

/-- What is asked for decides the method of its request. -/
theorem method_of_requestOf? {inquiry : Inquiry} {sent : Request} (found : client.requestOf? inquiry = some sent) :
    sent.method = inquiry.method := by
  obtain ⟨url, -, -, rfl⟩ := exists_of_requestOf? found
  rfl

/-- Of what is asked for only a submission is posted. -/
theorem posts_append_requestOf? (before : List Request) (inquiry : Inquiry) :
    Request.posts (before ++ (client.requestOf? inquiry).toList) =
      Request.posts before ++ if inquiry.method = .post then (client.requestOf? inquiry).toList else [] := by
  rw [Request.posts, Request.posts, List.filter_append]
  congr 1
  cases found : client.requestOf? inquiry with
  | none => simp
  | some sent => simp [List.filter_singleton, client.method_of_requestOf? found]

/-- What is posted tells the submissions. -/
theorem tallies_noting :
    (client.service network.noting).Tallies (fun state => Request.posts state.2)
      fun endpoint payload => client.requestOf? (.call (.submit endpoint payload)) where
  submit state endpoint payload :=
    (congrArg Request.posts (client.sent_submit network state .configured endpoint payload)).trans
      (client.posts_append_requestOf? state.2 (.call (.submit endpoint payload)))
  check state endpoint id :=
    (congrArg Request.posts (client.sent_check network state endpoint id)).trans
      ((client.posts_append_requestOf? state.2 (.call (.check endpoint id))).trans (List.append_nil _))

theorem posts_health :
    Request.posts ((client.service network.noting).health state).2.2 = Request.posts state.2 :=
  (congrArg Request.posts (client.sent_health network state)).trans
    ((client.posts_append_requestOf? state.2 .health).trans (List.append_nil _))

end Client

/-! ### Health -/

namespace Client

variable {τ : Type} {client : Client} {network : Network τ} {state : τ}

/-- A service is well if it answers its health check with 200. -/
def FindsWell (client : Client) (network : Network τ) (state : τ) : Prop :=
  ∃ response, client.answer? network state .health = some response ∧ response.status = 200

/-- A client has found out what was answered, if anything was. -/
theorem toOption_asked (inquiry : Inquiry) :
    (client.asked network state inquiry).toOption = client.answer? network state inquiry := by
  rw [answer?, requestOf?, asked, ask]
  cases client.urlFor inquiry.path with
  | error e => rfl
  | ok url =>
    simp only
    cases obstacle? (request inquiry.method url client.token inquiry.body).url with
    | some cause => rfl
    | none =>
      simp only [Option.isSome_none, Bool.false_eq_true, if_false, Option.bind_some]
      rcases network.exchange state (request inquiry.method url client.token inquiry.body) with
        ⟨response | causes, delay, after⟩ <;> rfl

/-- The health check succeeds if the service is well. -/
theorem fst_health_iff : ((client.service network).health state).1 = true ↔ client.FindsWell network state := by
  rw [fst_health, toOption_asked, FindsWell, Option.any_eq_true]
  simp [readHealth]

/-- A note of the requests changes no answer. -/
theorem fst_health_noting_iff {sent : List Request} :
    ((client.service network.noting).health (state, sent)).1 = true ↔ client.FindsWell network state := by
  have same : client.FindsWell network.noting (state, sent) ↔ client.FindsWell network state := Iff.rfl
  exact fst_health_iff.trans same

/-- Without a request there is no answer. -/
theorem FindsWell.exists_request (well : client.FindsWell network state) :
    ∃ request, client.requestOf? .health = some request := by
  obtain ⟨response, answered, -⟩ := well
  obtain ⟨request, isRequest, -⟩ := Option.bind_eq_some_iff.1 answered
  exact ⟨request, isRequest⟩

end Client

end ServiceProbe
