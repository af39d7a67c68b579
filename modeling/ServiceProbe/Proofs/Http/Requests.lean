import ServiceProbe.Http.Client
import ServiceProbe.Proofs.Http.Addressing

/-!
# What goes out

A client that is asked for something reads the text of its base URL and a path as one URL and sends a
request there.

* `Client.urlFor_of_unmarked` — behind a base URL without a query and a fragment, the path goes on where
  the path of the base URL ends, less its last slashes;
* `Client.exists_urlFor_of_marked` — behind a query or a fragment it becomes part of that, and the path
  of the base URL stays as it is;
* `Client.make_eq_ok_iff` — when there is a client, and what it is;
* `Client.seen_eq_filterMap` — which requests a network sees depends on the client and on what is asked
  (`Inquiry`), and not on the answers.
-/

namespace ServiceProbe

open Url Http

namespace Url

/-- A query or a fragment begins with its mark. -/
theorem exists_mark {query fragment : Option (List Char)} (isMarked : ¬ (query = none ∧ fragment = none)) :
    ∃ mark rest, (mark = '?' ∨ mark = '#') ∧ marked '?' query ++ marked '#' fragment = mark :: rest := by
  cases query with
  | some text => exact ⟨'?', text ++ marked '#' fragment, .inl rfl, rfl⟩
  | none =>
    cases fragment with
    | some text => exact ⟨'#', text, .inr rfl, rfl⟩
    | none => exact absurd ⟨rfl, rfl⟩ isMarked

end Url

namespace Url.Settled

variable {url : Url} {authority : Authority} {segments : List (List Char)}
  (settled : Settled url authority segments)

include settled

/-- Slashes are dropped behind the authority only. -/
theorem dropTrailingSlashes_render :
    Client.dropTrailingSlashes url.render = url.scheme ++ ':' :: '/' :: '/' :: (authority.render ++
      Client.dropTrailingSlashes
        (segments.flatMap ('/' :: ·) ++ (marked '?' url.query ++ marked '#' url.fragment))) := by
  obtain ⟨start, c, same⟩ :=
    (List.eq_nil_or_concat authority.render).resolve_left settled.authority.render_ne_nil
  -- an authority is not empty and has no slash in it, so no slash in front of its end is dropped
  have stays : c ≠ '/' := by
    rintro rfl
    exact absurd (settled.authority.inner (show '/' ∈ authority.render by rw [same]; simp)) (by decide)
  have front : ∀ text, url.scheme ++ ':' :: '/' :: '/' :: (authority.render ++ text) =
      (url.scheme ++ ':' :: '/' :: '/' :: start) ++ c :: text := by
    intro text
    rw [same]
    simp
  rw [settled.render_eq, front, front]
  exact dropTrailingSlashes_append_cons _ _ stays

theorem noSlash : ∀ segment ∈ segments, ∀ c ∈ segment, isSlash c = false :=
  fun segment member => (settled.segment segment member).noSlash

end Url.Settled

namespace Client

variable {client : Client} {authority : Authority} {segments : List (List Char)}
  (settled : Settled client.baseUrl authority segments)

theorem urlFor_eq_ok {path : String} {url : Url}
    (read : parse (dropTrailingSlashes client.baseUrl.render ++ path.toList) = .ok url) :
    client.urlFor path = .ok url := by
  rw [urlFor, read]

include settled

/-- **Behind the path.** Without a query and a fragment, the path of the base URL goes on. -/
theorem urlFor_of_unmarked (noQuery : client.baseUrl.query = none)
    (noFragment : client.baseUrl.fragment = none) {path : String} {front : List (List Char)} {last : List Char}
    (isPath : path.toList = front.flatMap ('/' :: ·) ++ '/' :: last)
    (settledFront : ∀ segment ∈ front, SettledSegment segment) :
    client.urlFor path =
      .ok (client.baseUrl.addressed (segments.rdropWhile List.isEmpty ++ front) last) := by
  -- the slashes that are dropped are the empty segments at the end
  have kept : ∀ segment ∈ segments.rdropWhile List.isEmpty ++ front, SettledSegment segment := by
    refine List.forall_mem_append.2 ⟨fun segment member => ?_, settledFront⟩
    exact settled.segment segment ((List.rdropWhile_prefix _ _).subset member)
  have whole : dropTrailingSlashes client.baseUrl.render ++ path.toList =
      client.baseUrl.scheme ++ ':' :: '/' :: '/' :: (authority.render ++ '/' ::
        afterSlash (segments.rdropWhile List.isEmpty ++ front) last) := by
    rw [settled.dropTrailingSlashes_render, noQuery, noFragment, marked, marked, List.append_nil,
      List.append_nil, dropTrailingSlashes_flatMap settled.noSlash, isPath, ← flatMap_append_eq_cons,
      List.flatMap_append]
    simp
  apply urlFor_eq_ok
  rw [whole, settled.parse_append, continued_afterSlash settled.http.isSpecial kept]

/-- **Behind a mark.** With a query or a fragment, the path of the base URL stays as it is. -/
theorem exists_urlFor_of_marked (isMarked : ¬ (client.baseUrl.query = none ∧ client.baseUrl.fragment = none))
    (path : String) :
    ∃ url, client.urlFor path = .ok url ∧ url.scheme = client.baseUrl.scheme ∧
      url.authority = client.baseUrl.authority ∧ url.path = client.baseUrl.path := by
  obtain ⟨mark, rest, isMark, marks⟩ := exists_mark isMarked
  obtain ⟨first, more, rfl⟩ := List.exists_cons_of_ne_nil settled.nonempty
  have stays : mark ≠ '/' := by rcases isMark with rfl | rfl <;> decide
  have edge : isEdge mark = false := by rcases isMark with rfl | rfl <;> decide
  -- the mark is no slash, so slashes are dropped behind it only
  set text := first ++ more.flatMap ('/' :: ·) ++ mark :: (dropTrailingSlashes rest ++ path.toList)
    with isText
  have whole : dropTrailingSlashes client.baseUrl.render ++ path.toList =
      client.baseUrl.scheme ++ ':' :: '/' :: '/' :: (authority.render ++ '/' :: text) := by
    rw [settled.dropTrailingSlashes_render, marks, dropTrailingSlashes_append_cons _ _ stays, isText]
    simp
  have sound : ∀ c ∈ first ++ more.flatMap ('/' :: ·), isEdge c = false := fun c member =>
    (isEdge_of_mem_flatMap settled.segment (List.mem_cons_of_mem '/' member)).1
  refine ⟨client.baseUrl.continued (cleanEnd text), urlFor_eq_ok ?_, rfl, rfl, ?_⟩
  · rw [whole, settled.parse_append]
  · rw [isText, cleanEnd_append_cons sound edge, settled.isPath,
      path_continued settled.http.isSpecial settled.segment isMark]

theorem exists_urlFor {path : String} {tail : List Char} (slash : path.toList = '/' :: tail) :
    ∃ url, client.urlFor path = .ok url ∧ url.scheme = client.baseUrl.scheme ∧
      url.authority = client.baseUrl.authority := by
  by_cases unmarked : client.baseUrl.query = none ∧ client.baseUrl.fragment = none
  · have found := @urlFor_of_unmarked _ _ _ settled unmarked.1 unmarked.2 path [] tail slash (by simp)
    exact ⟨_, found, rfl, rfl⟩
  · obtain ⟨url, found, scheme, isAuthority, -⟩ := exists_urlFor_of_marked settled unmarked path
    exact ⟨url, found, scheme, isAuthority⟩

end Client

/-! ### Clients -/

namespace Client

/-- A client is made if its base URL can be read and its token can stand in a header. -/
theorem make_eq_ok_iff {settings : ClientSettings} {client : Client} :
    make settings = .ok client ↔ parse settings.baseUrl.toList = .ok client.baseUrl ∧
      settings.timeoutMillis = client.timeoutMillis ∧ settings.token = client.token ∧
      (settings.token.all fun token => token.toList.all isHeaderChar) = true := by
  obtain ⟨baseUrl, timeoutMillis, token⟩ := client
  rw [make]
  cases parse settings.baseUrl.toList with
  | error fault => simp
  | ok url =>
    by_cases sound : settings.token.all fun token => token.toList.all isHeaderChar
    · simp [sound]
    · simp [sound]

/-- What cannot be made is a matter of the configuration. -/
theorem exists_make_eq_error {settings : ClientSettings} (none : ∀ client, make settings ≠ .ok client) :
    ∃ fault, make settings = .error (.config fault) := by
  rw [make] at none ⊢
  split
  · exact ⟨_, rfl⟩
  · next read =>
    split
    · next sound =>
      rw [read] at none
      exact absurd (if_pos sound) (none _)
    · exact ⟨_, rfl⟩

end Client

/-! ### What a network sees -/

namespace Http.Network

variable {τ : Type}

/-- The network with a note of the requests that it carried. -/
def noting (network : Network τ) : Network (τ × List Request) where
  exchange state request :=
    let (exchange, delay, after) := network.exchange state.1 request
    (exchange, delay, (after, state.2 ++ [request]))

end Http.Network

/-- What a client is asked for. -/
inductive Inquiry where
  | call (call : Call)
  | health

namespace Inquiry

def method : Inquiry → Method
  | call (.submit _ _) => .post
  | call (.check _ _) => .get
  | call (.cancel _ _) => .delete
  | health => .get

/-- The path at which it is asked. -/
def path : Inquiry → String
  | call (.submit endpoint _) => endpoint.path
  | call (.check endpoint id) => Client.taskPath endpoint id
  | call (.cancel endpoint id) => Client.taskPath endpoint id
  | health => Client.healthPath

def body : Inquiry → Option Json
  | call (.submit _ payload) => some payload.encode
  | call (.check _ _) => none
  | call (.cancel _ _) => none
  | health => none

/-- The state of a service after an inquiry. -/
def after {σ : Type} (service : Service σ) (state : σ) : Inquiry → σ
  | call (.submit endpoint payload) => (service.submit state .configured endpoint payload).2
  | call (.check endpoint id) => (service.check state endpoint id).2
  | call (.cancel endpoint id) => (service.cancel state endpoint id).2
  | health => (service.health state).2

end Inquiry

namespace Client

variable {τ : Type}

/-- The requests that a network sees while a client is asked one thing after another. -/
def seen (client : Client) (network : Network τ) (state : τ) (inquiries : List Inquiry) : List Request :=
  (inquiries.foldl (Inquiry.after (client.service network.noting)) (state, [])).2

/-- The request that an inquiry makes, if one can go out. -/
def requestOf? (client : Client) (inquiry : Inquiry) : Option Request :=
  match client.urlFor inquiry.path with
  | .error _ => none
  | .ok url =>
    let request := request inquiry.method url client.token inquiry.body
    if (obstacle? request.url).isSome then none else some request

/-- Reading an answer leaves the state as it is. -/
theorem snd_replyOf {α : Type} (read : Response → Except Error α)
    (asked : Except Error Response × Nanos × τ) : (replyOf read asked).2 = asked.2.2 :=
  rfl

/-- An inquiry is one question at its path. -/
theorem after_eq_ask (client : Client) (network : Network τ) (state : τ) (inquiry : Inquiry) :
    inquiry.after (client.service network) state =
      (client.ask network state inquiry.method inquiry.path client.token inquiry.body).2.2 := by
  match inquiry with
  | .call (.submit endpoint payload) =>
    simp only [Inquiry.after, Inquiry.method, Inquiry.path, Inquiry.body, service, snd_replyOf, tokenFor]
  | .call (.check endpoint id) =>
    simp only [Inquiry.after, Inquiry.method, Inquiry.path, Inquiry.body, service, snd_replyOf]
  | .call (.cancel endpoint id) =>
    simp only [Inquiry.after, Inquiry.method, Inquiry.path, Inquiry.body, service, snd_replyOf]
  | .health => simp only [Inquiry.after, Inquiry.method, Inquiry.path, Inquiry.body, service]

section run

variable (client : Client) (network : Network τ) (state : τ × List Request)

/-- Each inquiry adds its request, whatever the answer. -/
theorem seen_after (inquiry : Inquiry) :
    (inquiry.after (client.service network.noting) state).2 =
      state.2 ++ (client.requestOf? inquiry).toList := by
  rw [after_eq_ask, ask, requestOf?]
  cases client.urlFor inquiry.path with
  | error e => exact (List.append_nil _).symm
  | ok url =>
    simp only
    -- an obstacle is met before the network is asked
    cases obstacle? (request inquiry.method url client.token inquiry.body).url with
    | some cause => exact (List.append_nil _).symm
    | none =>
      simp only [Network.noting]
      cases (network.exchange state.1 (request inquiry.method url client.token inquiry.body)).1 <;> rfl

theorem seen_foldl (inquiries : List Inquiry) :
    (inquiries.foldl (Inquiry.after (client.service network.noting)) state).2 =
      state.2 ++ inquiries.filterMap client.requestOf? := by
  induction inquiries generalizing state with
  | nil => exact (List.append_nil _).symm
  | cons inquiry inquiries ih =>
    rw [List.foldl_cons, ih, seen_after, List.append_assoc]
    cases same : client.requestOf? inquiry with
    | none => rw [List.filterMap_cons_none same, Option.toList_none, List.nil_append]
    | some request => rw [List.filterMap_cons_some same, Option.toList_some, List.singleton_append]

end run

/-- **What a network sees.** It sees the requests of the inquiries in order, whatever it answers. -/
theorem seen_eq_filterMap (client : Client) (network : Network τ) (state : τ) (inquiries : List Inquiry) :
    client.seen network state inquiries = inquiries.filterMap client.requestOf? :=
  client.seen_foldl network (state, []) inquiries

/-- A request goes out to a URL that nothing keeps it from. -/
theorem requestOf?_of_free {client : Client} {inquiry : Inquiry} {url : Url}
    (found : client.urlFor inquiry.path = .ok url) (free : obstacle? (target url) = none) :
    client.requestOf? inquiry = some (request inquiry.method url client.token inquiry.body) := by
  rw [requestOf?, found]
  exact if_neg (by rw [request, free]; exact Bool.false_ne_true)

theorem seen_eq_singleton {client : Client} {inquiry : Inquiry} {url : Url}
    (found : client.urlFor inquiry.path = .ok url) (free : obstacle? (target url) = none)
    (network : Network τ) (state : τ) :
    client.seen network state [inquiry] = [request inquiry.method url client.token inquiry.body] := by
  rw [seen_eq_filterMap, List.filterMap_cons_some (requestOf?_of_free found free), List.filterMap_nil]

/-- A request goes where its path leads, and only if a service is there. -/
theorem exists_of_requestOf? {client : Client} {inquiry : Inquiry} {sent : Request}
    (found : client.requestOf? inquiry = some sent) :
    ∃ url, client.urlFor inquiry.path = .ok url ∧ url.isHttp ∧
      sent = request inquiry.method url client.token inquiry.body := by
  rw [requestOf?] at found
  split at found
  · exact nomatch found
  · next url same =>
    simp only at found
    split at found
    · exact nomatch found
    · next free =>
      obtain rfl := Option.some.inj found
      refine ⟨url, same, ?_, rfl⟩
      -- another scheme would have been an obstacle, and taking out credentials does not change it
      by_contra other
      have scheme : (target url).scheme = url.scheme := by
        rw [target]
        split <;> rfl
      refine free ?_
      have notHttp : (target url).isHttp = false := by
        rw [Bool.not_eq_true] at other
        rw [← other, isHttp, isHttp, scheme]
      rw [obstacle?, request, notHttp]
      rfl

/-- The scheme of the base URL is the scheme of all requests. -/
theorem scheme_of_urlFor {settings : ClientSettings} {client : Client} (made : make settings = .ok client)
    {path : String} {url : Url} (found : client.urlFor path = .ok url) :
    url.scheme = client.baseUrl.scheme := by
  have read := (make_eq_ok_iff.1 made).1
  rw [urlFor] at found
  split at found
  · next reread =>
    obtain rfl := Except.ok.inj found
    -- the text that is read again opens with the scheme of the base URL
    have front : client.baseUrl.render = client.baseUrl.scheme ++ ':' ::
        (client.baseUrl.renderAuthority ++ client.baseUrl.path.render ++
          marked '?' client.baseUrl.query ++ marked '#' client.baseUrl.fragment) := by
      rw [render, renderBase]
      simp
    rw [front, dropTrailingSlashes_append_cons _ _ (by decide), List.append_assoc, List.cons_append] at reread
    exact scheme_of_parse_append read reread
  · cases found

end Client

end ServiceProbe
