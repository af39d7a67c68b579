import ServiceProbe.Proofs.Json.Members

/-!
# The bodies of submissions read back

A body is written as JSON and read again.

* `ScrapeRequest.decode_encode`, `CrawlRequest.decode_encode`, `SearchRequest.decode_encode`,
  `ExtractRequest.decode_encode` — a reader who knows the kind of the body gets it back as it was, absent
  parts and empty ones kept apart;
* `Payload.ofJson_encode_iff` — one who does not know the kind gets it back exactly if it is not for a
  crawl. A body does not name its kind, and a reader takes the first kind that fits.

The body for a crawl fits as one for a scrape: both have a URL, nothing else is needed for a scrape, and a
member that is not looked for does no harm. So it is read as a scrape of the same URL, and how far the crawl
goes is lost.
-/

namespace ServiceProbe

open Decoder

/-- A part that may be missing and was looked for. -/
private theorem join_map_some {α : Type} (value? : Option α) : (value?.map some).join = value? := by
  cases value? <;> rfl

/-! ### Parts of bodies -/

namespace ExtractRule

/-- The parts of a rule by name. -/
def parts (rule : ExtractRule) : List (String × Option Json) :=
  [("selector", some (.string rule.selector)), ("is_array", some (.bool rule.isArray))]

theorem encode_eq (rule : ExtractRule) : rule.encode = .object (presentEntries rule.parts) := rfl

theorem distinct_parts (rule : ExtractRule) : (rule.parts.map (·.1)).Nodup := by
  change ["selector", "is_array"].Nodup
  decide

theorem decode_encode (rule : ExtractRule) : decode rule.encode = .ok rule := by
  have isArray : member (presentEntries rule.parts) "is_array" boolean = .ok (some rule.isArray) :=
    member_present Json.bool rule.distinct_parts rfl rfl
  have selector : member (presentEntries rule.parts) "selector" text = .ok (some rule.selector) :=
    member_present Json.string rule.distinct_parts rfl rfl
  rw [encode_eq, decode, record, isArray, selector]
  rfl

end ExtractRule

namespace ScrapeOptions

/-- The parts of the options by name. -/
def parts (options : ScrapeOptions) : List (String × Option Json) :=
  [("extract_rules",
    if options.rules.isEmpty then none
    else some (Json.ofMembers (options.rules.entries.map fun (name, rule) => (name, rule.encode))))]

theorem encode_eq (options : ScrapeOptions) : options.encode = .object (presentEntries options.parts) :=
  presentMembers_eq _

theorem distinct_parts (options : ScrapeOptions) : (options.parts.map (·.1)).Nodup := by
  change ["extract_rules"].Nodup
  decide

/-- No rules at all are written as no table of rules, which is read as no rules. -/
theorem decode_encode (options : ScrapeOptions) : decode options.encode = .ok options := by
  obtain ⟨rules⟩ := options
  -- the table of rules is written exactly if there is a rule
  by_cases isEmpty : rules.isEmpty
  · obtain rfl := Named.eq_empty_of_isEmpty isEmpty
    rfl
  · have table : member (presentEntries (parts ⟨rules⟩)) "extract_rules" (named ExtractRule.decode) =
        .ok (some rules) := by
      refine member_present (fun rules : Named ExtractRule =>
        Json.ofMembers (rules.entries.map fun (name, rule) => (name, rule.encode)))
        (distinct_parts _) ?_ (named_encode ExtractRule.decode_encode rules)
      rw [parts, if_neg isEmpty]
      rfl
    rw [encode_eq, decode, record, table]
    rfl

end ScrapeOptions

namespace CrawlerOptions

/-- The parts of the options by name. -/
def parts (options : CrawlerOptions) : List (String × Option Json) :=
  [("max_depth", options.maxDepth.map encodeWord),
    ("limit", options.limit.map encodeWord),
    ("strategy", options.strategy.map Json.string),
    ("include_patterns", options.includePatterns.map encodeTexts),
    ("exclude_patterns", options.excludePatterns.map encodeTexts)]

theorem encode_eq (options : CrawlerOptions) : options.encode = .object (presentEntries options.parts) :=
  presentMembers_eq _

theorem distinct_parts (options : CrawlerOptions) : (options.parts.map (·.1)).Nodup := by
  change ["max_depth", "limit", "strategy", "include_patterns", "exclude_patterns"].Nodup
  decide

theorem decode_encode (options : CrawlerOptions) : decode options.encode = .ok options := by
  have distinct := options.distinct_parts
  have excludes : member (presentEntries options.parts) "exclude_patterns" (orNull (list text)) =
      .ok (options.excludePatterns.map some) :=
    member_optional distinct rfl fun texts => congrArg (Except.map some) (list_texts texts)
  have includes : member (presentEntries options.parts) "include_patterns" (orNull (list text)) =
      .ok (options.includePatterns.map some) :=
    member_optional distinct rfl fun texts => congrArg (Except.map some) (list_texts texts)
  have limit : member (presentEntries options.parts) "limit" (orNull word32) =
      .ok (options.limit.map some) :=
    member_optional distinct rfl fun n => congrArg (Except.map some) (word32_encode n)
  have maxDepth : member (presentEntries options.parts) "max_depth" (orNull word32) =
      .ok (options.maxDepth.map some) :=
    member_optional distinct rfl fun n => congrArg (Except.map some) (word32_encode n)
  have strategy : member (presentEntries options.parts) "strategy" (orNull text) =
      .ok (options.strategy.map some) :=
    member_optional distinct rfl fun _ => rfl
  rw [encode_eq, decode, record, excludes, includes, limit, maxDepth, strategy]
  change Except.ok (CrawlerOptions.mk _ _ _ _ _) = _
  rw [join_map_some, join_map_some, join_map_some, join_map_some, join_map_some]

end CrawlerOptions

/-! ### Bodies of a known kind -/

namespace ScrapeRequest

/-- The parts of the body by name. -/
def parts (request : ScrapeRequest) : List (String × Option Json) :=
  [("url", some (.string request.url)),
    ("task_type", request.taskType.map Json.string),
    ("formats", request.formats.map encodeTexts),
    ("payload", request.options.map ScrapeOptions.encode)]

theorem encode_eq (request : ScrapeRequest) : request.encode = .object (presentEntries request.parts) :=
  presentMembers_eq _

theorem distinct_parts (request : ScrapeRequest) : (request.parts.map (·.1)).Nodup := by
  change ["url", "task_type", "formats", "payload"].Nodup
  decide

/-- **A scrape read back.** -/
theorem decode_encode (request : ScrapeRequest) : decode request.encode = .ok request := by
  have distinct := request.distinct_parts
  have formats : member (presentEntries request.parts) "formats" (orNull (list text)) =
      .ok (request.formats.map some) :=
    member_optional distinct rfl fun texts => congrArg (Except.map some) (list_texts texts)
  have options : member (presentEntries request.parts) "payload" (orNull ScrapeOptions.decode) =
      .ok (request.options.map some) :=
    member_optional distinct rfl fun options => congrArg (Except.map some) options.decode_encode
  have taskType : member (presentEntries request.parts) "task_type" (orNull text) =
      .ok (request.taskType.map some) :=
    member_optional distinct rfl fun _ => rfl
  have url : member (presentEntries request.parts) "url" text = .ok (some request.url) :=
    member_present Json.string distinct rfl rfl
  rw [encode_eq, decode, record, formats, options, taskType, url]
  change Except.ok (ScrapeRequest.mk _ _ _ _) = _
  rw [join_map_some, join_map_some, join_map_some]

section foreign

variable {parts : List (String × Option Json)} (distinct : (parts.map (·.1)).Nodup)
  (absent : ∀ name ∈ ["task_type", "formats", "payload"], name ∉ parts.map (·.1))

include distinct absent

/-- Of an object that shares at most the URL with a scrape, nothing else is read. -/
theorem decode_of_absent :
    decode (.object (presentEntries parts)) = do
      let url ← member (presentEntries parts) "url" text
      return { url := ← required "url" url } := by
  rw [decode, record, member_absent distinct (absent "formats" (by decide)),
    member_absent distinct (absent "payload" (by decide)),
    member_absent distinct (absent "task_type" (by decide))]
  rfl

/-- An object without a URL is no scrape. -/
theorem decode_of_no_url (noUrl : "url" ∉ parts.map (·.1)) :
    decode (.object (presentEntries parts)) = .error (.missing "url") := by
  rw [decode_of_absent distinct absent, member_absent distinct noUrl]
  rfl

end foreign

end ScrapeRequest

namespace CrawlRequest

/-- The parts of the body by name. -/
def parts (request : CrawlRequest) : List (String × Option Json) :=
  [("url", some (.string request.url)),
    ("crawler_options", request.options.map CrawlerOptions.encode)]

theorem encode_eq (request : CrawlRequest) : request.encode = .object (presentEntries request.parts) :=
  presentMembers_eq _

theorem distinct_parts (request : CrawlRequest) : (request.parts.map (·.1)).Nodup := by
  change ["url", "crawler_options"].Nodup
  decide

/-- **A crawl read back.** -/
theorem decode_encode (request : CrawlRequest) : decode request.encode = .ok request := by
  have distinct := request.distinct_parts
  have options : member (presentEntries request.parts) "crawler_options" (orNull CrawlerOptions.decode) =
      .ok (request.options.map some) :=
    member_optional distinct rfl fun options => congrArg (Except.map some) options.decode_encode
  have url : member (presentEntries request.parts) "url" text = .ok (some request.url) :=
    member_present Json.string distinct rfl rfl
  rw [encode_eq, decode, record, options, url]
  change Except.ok (CrawlRequest.mk _ _) = _
  rw [join_map_some]

/-- An object without a URL is no crawl. -/
theorem decode_of_no_url {parts : List (String × Option Json)} (distinct : (parts.map (·.1)).Nodup)
    (absent : ∀ name ∈ ["url", "crawler_options"], name ∉ parts.map (·.1)) :
    decode (.object (presentEntries parts)) = .error (.missing "url") := by
  rw [decode, record, member_absent distinct (absent "crawler_options" (by decide)),
    member_absent distinct (absent "url" (by decide))]
  rfl

end CrawlRequest

namespace SearchRequest

/-- The parts of the body by name. -/
def parts (request : SearchRequest) : List (String × Option Json) :=
  [("query", some (.string request.query)),
    ("sources", request.sources.map encodeTexts),
    ("limit", request.limit.map encodeWord)]

theorem encode_eq (request : SearchRequest) : request.encode = .object (presentEntries request.parts) :=
  presentMembers_eq _

theorem distinct_parts (request : SearchRequest) : (request.parts.map (·.1)).Nodup := by
  change ["query", "sources", "limit"].Nodup
  decide

/-- **A search read back.** -/
theorem decode_encode (request : SearchRequest) : decode request.encode = .ok request := by
  have distinct := request.distinct_parts
  have limit : member (presentEntries request.parts) "limit" (orNull word32) =
      .ok (request.limit.map some) :=
    member_optional distinct rfl fun n => congrArg (Except.map some) (word32_encode n)
  have query : member (presentEntries request.parts) "query" text = .ok (some request.query) :=
    member_present Json.string distinct rfl rfl
  have sources : member (presentEntries request.parts) "sources" (orNull (list text)) =
      .ok (request.sources.map some) :=
    member_optional distinct rfl fun texts => congrArg (Except.map some) (list_texts texts)
  rw [encode_eq, decode, record, limit, query, sources]
  change Except.ok (SearchRequest.mk _ _ _) = _
  rw [join_map_some, join_map_some]

/-- An object without a query is no search. -/
theorem decode_of_no_query {parts : List (String × Option Json)} (distinct : (parts.map (·.1)).Nodup)
    (absent : ∀ name ∈ ["query", "sources", "limit"], name ∉ parts.map (·.1)) :
    decode (.object (presentEntries parts)) = .error (.missing "query") := by
  rw [decode, record, member_absent distinct (absent "limit" (by decide)),
    member_absent distinct (absent "query" (by decide)),
    member_absent distinct (absent "sources" (by decide))]
  rfl

end SearchRequest

namespace ExtractRequest

/-- The parts of the body by name. -/
def parts (request : ExtractRequest) : List (String × Option Json) :=
  [("urls", some (encodeTexts request.urls)), ("prompt", request.prompt.map Json.string)]

theorem encode_eq (request : ExtractRequest) : request.encode = .object (presentEntries request.parts) :=
  presentMembers_eq _

theorem distinct_parts (request : ExtractRequest) : (request.parts.map (·.1)).Nodup := by
  change ["urls", "prompt"].Nodup
  decide

/-- **An extraction read back.** -/
theorem decode_encode (request : ExtractRequest) : decode request.encode = .ok request := by
  have distinct := request.distinct_parts
  have prompt : member (presentEntries request.parts) "prompt" (orNull text) =
      .ok (request.prompt.map some) :=
    member_optional distinct rfl fun _ => rfl
  have urls : member (presentEntries request.parts) "urls" (list text) = .ok (some request.urls) :=
    member_present encodeTexts distinct rfl (list_texts request.urls)
  rw [encode_eq, decode, record, prompt, urls]
  change Except.ok (ExtractRequest.mk _ _) = _
  rw [join_map_some]

end ExtractRequest

/-! ### Bodies of an unknown kind -/

namespace Payload

theorem ofJson_scrape (request : ScrapeRequest) : ofJson (scrape request).encode = scrape request := by
  rw [ofJson, encode, request.decode_encode]

/-- A crawl is read as a scrape of its URL. -/
theorem ofJson_crawl (request : CrawlRequest) :
    ofJson (crawl request).encode = scrape { url := request.url } := by
  have url : member (presentEntries request.parts) "url" text = .ok (some request.url) :=
    member_present Json.string request.distinct_parts rfl rfl
  have absent : ∀ name ∈ ["task_type", "formats", "payload"], name ∉ request.parts.map (·.1) := by
    change ∀ name ∈ _, name ∉ ["url", "crawler_options"]
    decide
  rw [ofJson, encode, request.encode_eq, ScrapeRequest.decode_of_absent request.distinct_parts absent, url]
  rfl

/-- A search has no URL, so it is no scrape and no crawl. -/
theorem ofJson_search (request : SearchRequest) : ofJson (search request).encode = search request := by
  have distinct := request.distinct_parts
  have noScrape : ScrapeRequest.decode request.encode = .error (.missing "url") := by
    refine ScrapeRequest.decode_of_no_url distinct ?_ ?_
    · change ∀ name ∈ _, name ∉ ["query", "sources", "limit"]
      decide
    · change "url" ∉ ["query", "sources", "limit"]
      decide
  have noCrawl : CrawlRequest.decode request.encode = .error (.missing "url") := by
    refine CrawlRequest.decode_of_no_url distinct ?_
    change ∀ name ∈ _, name ∉ ["query", "sources", "limit"]
    decide
  rw [ofJson, encode, noScrape, noCrawl, request.decode_encode]

/-- An extraction has URLs but no single one, and it has no query. -/
theorem ofJson_extract (request : ExtractRequest) : ofJson (extract request).encode = extract request := by
  have distinct := request.distinct_parts
  -- no kind that is tried before is read, for want of a member that it needs
  have noScrape : ScrapeRequest.decode request.encode = .error (.missing "url") := by
    refine ScrapeRequest.decode_of_no_url distinct ?_ ?_
    · change ∀ name ∈ _, name ∉ ["urls", "prompt"]
      decide
    · change "url" ∉ ["urls", "prompt"]
      decide
  have noCrawl : CrawlRequest.decode request.encode = .error (.missing "url") := by
    refine CrawlRequest.decode_of_no_url distinct ?_
    change ∀ name ∈ _, name ∉ ["urls", "prompt"]
    decide
  have noSearch : SearchRequest.decode request.encode = .error (.missing "query") := by
    refine SearchRequest.decode_of_no_query distinct ?_
    change ∀ name ∈ _, name ∉ ["urls", "prompt"]
    decide
  rw [ofJson, encode, noScrape, noCrawl, noSearch, request.decode_encode]

/-- **Bodies read back without knowing their kind.** A body for a scrape, a search or an extraction is read
as it was written, whatever its parts are. A body for a crawl never is: it is read as a scrape of the same
URL, and so it is meant for another endpoint. -/
theorem ofJson_encode_iff (payload : Payload) (isTyped : payload.endpoint?.isSome) :
    (ofJson payload.encode = payload ↔ payload.endpoint? ≠ some .crawl) ∧
      ((ofJson payload.encode).endpoint? = payload.endpoint? ↔ payload.endpoint? ≠ some .crawl) ∧
      ∀ request, payload = crawl request → ofJson payload.encode = scrape { url := request.url } := by
  cases payload with
  | raw value => cases isTyped
  | scrape request =>
    rw [ofJson_scrape]
    simp [endpoint?]
  | search request =>
    rw [ofJson_search]
    simp [endpoint?]
  | extract request =>
    rw [ofJson_extract]
    simp [endpoint?]
  | crawl request =>
    rw [ofJson_crawl]
    simp [endpoint?]

theorem ofJson_encode_iff_search :
    (search { query := "q", limit := some 1 }).endpoint?.isSome ∧
      ofJson (search { query := "q", limit := some 1 }).encode = search { query := "q", limit := some 1 } :=
  ⟨rfl, (ofJson_encode_iff (search { query := "q", limit := some 1 }) rfl).1.2 (by decide)⟩

/-- A breadth-first crawl is not read back. -/
theorem ofJson_encode_breadthFirst_ne :
    ofJson (crawl (CrawlRequest.breadthFirst "http://u/" 1 10)).encode ≠
      crawl (CrawlRequest.breadthFirst "http://u/" 1 10) := by
  rw [ofJson_crawl]
  exact Payload.noConfusion

end Payload

end ServiceProbe
