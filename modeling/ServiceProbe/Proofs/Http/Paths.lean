import ServiceProbe.Proofs.Http.Requests

/-!
# Where the paths of requests lead

The path of a request is the one of a collection or of a task below it, or the one for the health of the
service. It is meant to go on where the path of the base URL ends.

* `Client.urlFor_appends_iff` — it does, exactly if the base URL has neither a query nor a fragment;
* `Client.urlFor_taskPath_names_iff` — behind such a base URL, the URL of a task names the id of the
  task exactly if the id is plain, and tasks with different plain ids have different URLs.

An id is put into a path as it is. With a question mark in it, its end is not in the path, and with dots
and slashes it leads to another collection (`Client.urlFor_taskPath_not_names`).
-/

namespace ServiceProbe

open Url Http

/-! ### Letters and digits -/

namespace Url

/-- Letters and digits have no meaning in a path. -/
theorem plain_of_isAlphanum {c : Char} (isAlphanum : c.isAlphanum) :
    Plain EncodeSet.path c ∧ isSlash c = false ∧ isEdge c = false ∧ c ∉ ['?', '#', '%', '.'] := by
  have ascii := toNat_lt_of_isSchemeChar (isSchemeChar_of_isAlphanum isAlphanum)
  have here := @of_ascii (fun c => c.isAlphanum → EncodeSet.path c = false ∧ isSlash c = false ∧
    isEdge c = false ∧ c ∉ ['?', '#', '%', '.']) (by decide) c ascii isAlphanum
  exact ⟨⟨ascii, here.1⟩, here.2⟩

section alphanumeric

variable {text : List Char} (all : ∀ c ∈ text, c.isAlphanum)

include all

theorem plainId_of_isAlphanum : PlainId text := by
  have outside : ∀ c ∈ ['?', '#', '%', '.'], c ∉ text := fun c mark member =>
    (plain_of_isAlphanum (all c member)).2.2.2 mark
  refine ⟨fun c member => ⟨(plain_of_isAlphanum (all c member)).2.1, ?_, ?_⟩, fun c member => ?_,
    fun c isLast => ?_, ?_, ?_, ?_⟩
  · rintro rfl
    exact outside '?' (by decide) member
  · rintro rfl
    exact outside '#' (by decide) member
  · exact isIgnored_of_not_isEdge (plain_of_isAlphanum (all c member)).2.2.1
  · exact (plain_of_isAlphanum (all c (List.mem_of_getLast? isLast))).2.2.1
  · -- without a percent sign there is no code
    rintro ⟨high, low, -, -, inside⟩
    exact outside '%' (by decide) (inside.subset List.mem_cons_self)
  · rintro rfl
    exact outside '.' (by decide) List.mem_cons_self
  · rintro rfl
    exact outside '.' (by decide) List.mem_cons_self

theorem encode_of_isAlphanum : encode EncodeSet.path text = text :=
  encode_eq_self fun c member => (plain_of_isAlphanum (all c member)).1

theorem settledSegment_of_isAlphanum : SettledSegment text := by
  have noDots := (plainId_of_isAlphanum all).isDot_encode
  rw [encode_of_isAlphanum all, isDot, Bool.or_eq_false_iff] at noDots
  exact ⟨fun c member => (plain_of_isAlphanum (all c member)).1,
    fun c member => (plain_of_isAlphanum (all c member)).2.1, noDots.2, noDots.1⟩

end alphanumeric

end Url

/-! ### Collections -/

namespace Endpoint

/-- The segments of the path of a collection. -/
def segments (endpoint : Endpoint) : List (List Char) :=
  ["v1".toList, endpoint.name.toList]

theorem flatMap_segments (endpoint : Endpoint) :
    endpoint.segments.flatMap ('/' :: ·) = endpoint.path.toList := by
  cases endpoint <;> rfl

theorem settledSegment_segments (endpoint : Endpoint) :
    ∀ segment ∈ endpoint.segments, SettledSegment segment := by
  have letters : endpoint.segments.all (·.all Char.isAlphanum) := by
    cases endpoint <;> decide
  intro segment member
  exact settledSegment_of_isAlphanum (List.all_eq_true.1 (List.all_eq_true.1 letters segment member))

theorem eq_of_segments_eq {endpoint endpoint' : Endpoint} (same : endpoint.segments = endpoint'.segments) :
    endpoint = endpoint' := by
  revert same
  cases endpoint <;> cases endpoint' <;> decide

end Endpoint

namespace Client

theorem toList_taskPath (endpoint : Endpoint) (id : String) :
    (taskPath endpoint id).toList = endpoint.segments.flatMap ('/' :: ·) ++ '/' :: id.toList := by
  rw [taskPath, endpoint.flatMap_segments]
  simp [toString]

/-- The paths of requests: the one for the health of the service, those of collections, and those of
tasks whose ids are made of letters and digits. -/
inductive IsRequestPath : String → Prop where
  | health : IsRequestPath healthPath
  | collection (endpoint : Endpoint) : IsRequestPath endpoint.path
  | task (endpoint : Endpoint) (id : String) (letters : ∀ c ∈ id.toList, c.isAlphanum) :
      IsRequestPath (taskPath endpoint id)

/-- The last part of such a path is a word of letters and digits, and before it there are segments. It
is not made of slashes only. -/
theorem IsRequestPath.exists_last {path : String} (isRequest : IsRequestPath path) :
    ∃ (front : List (List Char)) (last : List Char), path.toList = front.flatMap ('/' :: ·) ++ '/' :: last ∧
      (∀ segment ∈ front, SettledSegment segment) ∧ (∀ c ∈ last, c.isAlphanum) ∧
      ∃ c ∈ path.toList, c ≠ '/' := by
  cases isRequest with
  | health =>
    exact ⟨[], "health".toList, by decide +kernel, by simp, List.all_eq_true.1 (by decide), 'h',
      by decide +kernel, by decide⟩
  | collection endpoint =>
    refine ⟨["v1".toList], endpoint.name.toList, ?_, ?_, ?_, 'v', ?_, by decide⟩
    · cases endpoint <;> rfl
    · intro segment member
      exact endpoint.settledSegment_segments segment (List.mem_cons.2 (.inl (List.mem_singleton.1 member)))
    · cases endpoint <;> exact List.all_eq_true.1 (by decide)
    · cases endpoint <;> decide +kernel
  | task endpoint id letters =>
    refine ⟨endpoint.segments, id.toList, toList_taskPath endpoint id, endpoint.settledSegment_segments,
      letters, 'v', ?_, by decide⟩
    rw [toList_taskPath]
    exact List.mem_append_left _ (List.mem_flatMap.2 ⟨"v1".toList, List.mem_cons_self, by decide⟩)

section made

variable {settings : ClientSettings} {client : Client} (made : make settings = .ok client)
  (http : client.baseUrl.isHttp)

include made http

theorem exists_settled_baseUrl : ∃ authority segments, Settled client.baseUrl authority segments :=
  exists_settled (make_eq_ok_iff.1 made).1 http

/-- **Paths are appended to paths.** A request has the scheme, the host and the port of the base URL.
Its path is the path of the base URL without slashes at its end and then its own one, exactly if the
base URL has neither a query nor a fragment; else it is the path of the base URL. -/
theorem urlFor_appends_iff {path : String} (isRequest : IsRequestPath path) :
    ∃ url, client.urlFor path = .ok url ∧
      url.scheme = client.baseUrl.scheme ∧ url.authority = client.baseUrl.authority ∧
      (url.path.render = dropTrailingSlashes client.baseUrl.path.render ++ path.toList ↔
        client.baseUrl.query = none ∧ client.baseUrl.fragment = none) ∧
      (¬ (client.baseUrl.query = none ∧ client.baseUrl.fragment = none) →
        url.path = client.baseUrl.path) := by
  obtain ⟨authority, segments, settled⟩ := exists_settled_baseUrl made http
  obtain ⟨front, last, isPath, settledFront, letters, c, inside, other⟩ := isRequest.exists_last
  by_cases unmarked : client.baseUrl.query = none ∧ client.baseUrl.fragment = none
  · have found := urlFor_of_unmarked settled unmarked.1 unmarked.2 isPath settledFront
    rw [(plainId_of_isAlphanum letters).addressed, encode_of_isAlphanum letters] at found
    refine ⟨_, found, rfl, rfl, ⟨fun _ => unmarked, fun _ => ?_⟩, fun marked => absurd unmarked marked⟩
    rw [settled.isPath, UrlPath.render, UrlPath.render, dropTrailingSlashes_flatMap settled.noSlash, isPath]
    simp
  · obtain ⟨url, found, scheme, isAuthority, stays⟩ := exists_urlFor_of_marked settled unmarked path
    refine ⟨url, found, scheme, isAuthority, ⟨fun same => ?_, fun both => absurd both unmarked⟩,
      fun _ => stays⟩
    -- the path of the base URL goes on behind its kept part with slashes only, and `path` is more than that
    rw [stays] at same
    exact absurd (eq_slash_of_eq_append same _ inside) other

end made

/-- A client of a service that is reached below a path at a port, with a user. -/
def gateway : Client where
  baseUrl :=
    { scheme := "http".toList
      authority := some { user := "probe".toList, host := .domain "localhost".toList, port := some 8899 }
      path := .segments ["api".toList, [], "b".toList, []] }
  timeoutMillis := 30000
  token := none

theorem make_gateway : make { baseUrl := "http://probe@localhost:8899/api//a/../b/" } = .ok gateway :=
  make_eq_ok_iff.2 ⟨by decide +kernel, rfl, rfl, rfl⟩

/-- A path behind a prefix with repeated slashes, one of which is the last. -/
theorem urlFor_appends_behind_prefix :
    make { baseUrl := "http://probe@localhost:8899/api//a/../b/" } = .ok gateway ∧ gateway.baseUrl.isHttp ∧
      IsRequestPath (taskPath .crawl "t1") ∧
      ∃ url, gateway.urlFor (taskPath .crawl "t1") = .ok url ∧ url.scheme = gateway.baseUrl.scheme ∧
        url.authority = gateway.baseUrl.authority ∧ url.path.render = "/api//b/v1/crawl/t1".toList := by
  have isRequest : IsRequestPath (taskPath .crawl "t1") :=
    .task .crawl "t1" (List.all_eq_true.1 (by decide))
  obtain ⟨url, found, scheme, isAuthority, appended, -⟩ :=
    urlFor_appends_iff make_gateway (by decide) isRequest
  have path : url.path.render = "/api//b/v1/crawl/t1".toList :=
    (appended.2 ⟨rfl, rfl⟩).trans (by decide +kernel)
  exact ⟨make_gateway, by decide, isRequest, url, found, scheme, isAuthority, path⟩

/-- A client whose base URL has a query. -/
def querying : Client where
  baseUrl :=
    { scheme := "http".toList
      authority := some { host := .domain "h".toList }
      path := .segments [[]]
      query := some "q=1".toList }
  timeoutMillis := 30000
  token := none

/-- Behind a query, the path of a task is no path. -/
theorem urlFor_not_appends_behind_query :
    ∃ config : Config, config.validate.isOk ∧ make (.ofApi config.api) = .ok querying ∧
      querying.baseUrl.isHttp ∧ IsRequestPath (taskPath .crawl "t") ∧
      ∃ url, querying.urlFor (taskPath .crawl "t") = .ok url ∧ url.query = some "q=1/v1/crawl/t".toList ∧
        url.path.render ≠
          dropTrailingSlashes querying.baseUrl.path.render ++ (taskPath .crawl "t").toList := by
  have made : make (.ofApi { baseUrl := "http://h?q=1" }) = .ok querying :=
    make_eq_ok_iff.2 ⟨by decide +kernel, rfl, rfl, rfl⟩
  refine ⟨{ api := { baseUrl := "http://h?q=1" } }, by decide +kernel, made, by decide,
    .task .crawl "t" (List.all_eq_true.1 (by decide)), ?_⟩
  refine ⟨{ querying.baseUrl with query := some "q=1/v1/crawl/t".toList }, urlFor_eq_ok ?_, rfl, ?_⟩
  · decide +kernel
  · decide +kernel

section tasks

variable {client : Client} {authority : Authority} {segments : List (List Char)}
  (settled : Settled client.baseUrl authority segments) (noQuery : client.baseUrl.query = none)
  (noFragment : client.baseUrl.fragment = none)

include settled noQuery noFragment

/-- A task whose id is plain is one segment behind those of its collection. -/
theorem urlFor_taskPath_of_plainId (endpoint : Endpoint) {id : String}
    (plain : PlainId id.toList) :
    client.urlFor (taskPath endpoint id) =
      .ok { client.baseUrl with
        path := .segments (segments.rdropWhile List.isEmpty ++ endpoint.segments ++
          [encode EncodeSet.path id.toList])
        query := none
        fragment := none } := by
  rw [urlFor_of_unmarked settled noQuery noFragment (toList_taskPath endpoint id)
    endpoint.settledSegment_segments, plain.addressed]

/-- Tasks with plain ids are apart. -/
theorem eq_of_urlFor_taskPath_eq {endpoint endpoint' : Endpoint} {id id' : String}
    (plain : PlainId id.toList) (plain' : PlainId id'.toList)
    (same : client.urlFor (taskPath endpoint id) = client.urlFor (taskPath endpoint' id')) :
    endpoint = endpoint' ∧ id = id' := by
  rw [urlFor_taskPath_of_plainId settled noQuery noFragment endpoint plain,
    urlFor_taskPath_of_plainId settled noQuery noFragment endpoint' plain'] at same
  have paths := UrlPath.segments.inj (congrArg Url.path (Except.ok.inj same))
  obtain ⟨front, last⟩ := List.append_inj' paths rfl
  -- encoding may write different texts alike, but not if they have no codes
  have meaning := congrArg decodeBytes (List.singleton_inj.1 last)
  rw [decodeBytes_encode EncodeSet.path_keepsCodes, decodeBytes_encode EncodeSet.path_keepsCodes,
    decodeBytes_of_not_hasCode plain.noCode, decodeBytes_of_not_hasCode plain'.noCode] at meaning
  exact ⟨Endpoint.eq_of_segments_eq (List.append_cancel_left front), String.toList_inj.1 (utf8_inj meaning)⟩

end tasks

/-- **Tasks and their URLs.** Let the base URL have neither a query nor a fragment. With the scheme of a
service, every task has a URL, with the scheme and the authority of the base URL, and behind the path of
its collection this URL names the id exactly if the id is plain. Different tasks with plain ids have
different URLs. What is asked about a task goes to its URL, and with another scheme nothing goes out. -/
theorem urlFor_taskPath_names_iff {settings : ClientSettings} {client : Client}
    (made : make settings = .ok client) (noQuery : client.baseUrl.query = none)
    (noFragment : client.baseUrl.fragment = none) :
    (client.baseUrl.isHttp →
      (∀ endpoint id, ∃ url, client.urlFor (taskPath endpoint id) = .ok url ∧
        url.scheme = client.baseUrl.scheme ∧ url.authority = client.baseUrl.authority ∧
        (Names url (dropTrailingSlashes client.baseUrl.path.render ++ endpoint.path.toList) id.toList ↔
          PlainId id.toList)) ∧
      ∀ endpoint endpoint' id id', PlainId id.toList → PlainId id'.toList →
        client.urlFor (taskPath endpoint id) = client.urlFor (taskPath endpoint' id') →
          endpoint = endpoint' ∧ id = id') ∧
    ∀ {τ : Type} (network : Network τ) (state : τ) (call : Call) (endpoint : Endpoint) (id : String),
      call = .check endpoint id ∨ call = .cancel endpoint id →
        ∀ request ∈ client.seen network state [.call call], client.baseUrl.isHttp ∧
          ∃ url, client.urlFor (taskPath endpoint id) = .ok url ∧ request.url = target url := by
  refine ⟨fun http => ⟨fun endpoint id => ?_, ?_⟩, ?_⟩
  · obtain ⟨authority, segments, settled⟩ := exists_settled_baseUrl made http
    -- behind a base URL without marks a path is read as it is written
    have found := urlFor_of_unmarked settled noQuery noFragment (toList_taskPath endpoint id)
      endpoint.settledSegment_segments
    refine ⟨_, found, rfl, rfl, ?_⟩
    rw [← names_addressed_iff, settled.isPath, UrlPath.render, dropTrailingSlashes_flatMap settled.noSlash,
      ← endpoint.flatMap_segments, ← List.flatMap_append]
  · obtain ⟨authority, segments, settled⟩ := exists_settled_baseUrl made http
    intro endpoint endpoint' id id' plain plain' same
    exact eq_of_urlFor_taskPath_eq settled noQuery noFragment plain plain' same
  · intro τ network state call endpoint id isCall request member
    rw [seen_eq_filterMap, List.mem_filterMap] at member
    obtain ⟨inquiry, isInquiry, found⟩ := member
    obtain ⟨url, isUrl, isHttp, rfl⟩ := exists_of_requestOf? found
    have path : inquiry.path = taskPath endpoint id := by
      -- both kinds of call about a task have its path
      rw [List.mem_singleton.1 isInquiry]
      rcases isCall with rfl | rfl <;> rfl
    rw [path] at isUrl
    refine ⟨?_, url, isUrl, rfl⟩
    rw [isHttp_iff, ← scheme_of_urlFor made isUrl, ← isHttp_iff]
    exact isHttp

/-- A task with a percent sign, a blank and a letter beyond ASCII in its id, behind a prefix. -/
theorem urlFor_taskPath_names_behind_prefix :
    make { baseUrl := "http://probe@localhost:8899/api//a/../b/" } = .ok gateway ∧
      gateway.baseUrl.query = none ∧ gateway.baseUrl.fragment = none ∧ gateway.baseUrl.isHttp ∧
      ∃ url, gateway.urlFor (taskPath .crawl "50% ü.") = .ok url ∧
        Names url "/api//b/v1/crawl".toList "50% ü.".toList ∧
        ∀ request ∈ gateway.seen Network.unreachable () [.call (.cancel .crawl "50% ü.")],
          request.url = target url := by
  have plain : PlainId "50% ü.".toList := by
    refine ⟨List.all_iff_forall_prop.1 (by decide), List.all_iff_forall_prop.1 (by decide), ?_,
      decodeBytes_eq_utf8_iff.1 (by decide +kernel), by decide⟩
    intro c isLast
    obtain rfl := Option.some.inj isLast
    decide
  -- its marks are encoded, so that they say nothing in the path
  obtain ⟨addressed, asked⟩ := urlFor_taskPath_names_iff make_gateway rfl rfl
  obtain ⟨url, found, -, -, names⟩ := (addressed (by decide)).1 .crawl "50% ü."
  refine ⟨make_gateway, rfl, rfl, by decide, url, found, names.2 plain, fun request member => ?_⟩
  obtain ⟨-, url', found', goes⟩ := asked Network.unreachable () _ .crawl "50% ü." (.inr rfl) request member
  rw [found] at found'
  rw [goes, Except.ok.inj found']

/-- The client with the settings that stand where nothing is set. -/
def builtIn : Client where
  baseUrl :=
    { scheme := "http".toList
      authority := some { host := .domain "localhost".toList, port := some 3000 }
      path := .segments [[]] }
  timeoutMillis := 30000
  token := none

theorem make_builtIn : make {} = .ok builtIn :=
  make_eq_ok_iff.2 ⟨by decide +kernel, rfl, rfl, rfl⟩

/-- An id with a mark leaves the path, and one with dots its collection. -/
theorem urlFor_taskPath_not_names :
    make {} = .ok builtIn ∧ builtIn.baseUrl.query = none ∧ builtIn.baseUrl.fragment = none ∧
      (∃ url, builtIn.urlFor (taskPath .crawl "a?b") = .ok url ∧ url.query = some "b".toList ∧
        ¬ Names url (dropTrailingSlashes builtIn.baseUrl.path.render ++ Endpoint.crawl.path.toList)
          "a?b".toList) ∧
      builtIn.urlFor (taskPath .crawl "../scrape/t") = builtIn.urlFor (taskPath .scrape "t") := by
  refine ⟨make_builtIn, rfl, rfl, ?_, ?_⟩
  · have cut : builtIn.urlFor (taskPath .crawl "a?b") = .ok { builtIn.baseUrl with
        path := .segments ["v1".toList, "crawl".toList, "a".toList]
        query := some "b".toList } := urlFor_eq_ok (by decide +kernel)
    exact ⟨_, cut, rfl, fun names => absurd names.noQuery (Option.some_ne_none _)⟩
  · have there : builtIn.urlFor (taskPath .scrape "t") = .ok { builtIn.baseUrl with
        path := .segments ["v1".toList, "scrape".toList, "t".toList] } := urlFor_eq_ok (by decide +kernel)
    rw [there]
    exact urlFor_eq_ok (by decide +kernel)

end Client

end ServiceProbe
