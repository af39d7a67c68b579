import ServiceProbe.Task.Endpoint

/-!
# The bodies of submissions

One record per endpoint, and `Payload` for what is submitted: one of the records, or any JSON value for
probing how the service checks its input. The codec of each type stands behind it. On writing, a part
that is absent and an empty table of rules leave no member; on reading, an absent or null member is an
absent part. A payload is read as the first kind, in the order of the cases, whose record the value is.
-/

namespace ServiceProbe

/-- Members for the parts that are there. -/
def presentMembers (members : List (String × Option Json)) : Json :=
  Json.ofMembers (members.filterMap fun (name, value?) => value?.map fun value => (name, value))

def encodeTexts (texts : List String) : Json :=
  .array (texts.map Json.string)

def encodeWord (n : UInt32) : Json :=
  Json.ofNat n.toNat

/-- Which part of a page to take. -/
structure ExtractRule where
  selector : String
  isArray : Bool := false
deriving DecidableEq

namespace ExtractRule

def encode (rule : ExtractRule) : Json :=
  Json.ofMembers [("selector", .string rule.selector), ("is_array", .bool rule.isArray)]

private def shape : Decoder.Shape := ⟨"ExtractRule", 2⟩

def decode : Decoder ExtractRule :=
  Decoder.record shape
    (fun members => do
      let isArray ← Decoder.member members "is_array" Decoder.boolean
      let selector ← Decoder.member members "selector" Decoder.text
      return { selector := ← Decoder.required "selector" selector, isArray := isArray.getD false })
    (fun items => do
      let selector ← Decoder.item shape items 0 Decoder.text
      let isArray ← Decoder.itemOr false items 1 Decoder.boolean
      return { selector, isArray })

end ExtractRule

/-- What a scrape takes from the page, under names. -/
structure ScrapeOptions where
  rules : Named ExtractRule := Named.empty
deriving DecidableEq

namespace ScrapeOptions

def encode (options : ScrapeOptions) : Json :=
  presentMembers
    [("extract_rules",
      if options.rules.isEmpty then none
      else some (Json.ofMembers (options.rules.entries.map fun (name, rule) => (name, rule.encode))))]

private def shape : Decoder.Shape := ⟨"ScrapeOptions", 1⟩

def decode : Decoder ScrapeOptions :=
  Decoder.record shape
    (fun members => do
      let rules ← Decoder.member members "extract_rules" (Decoder.named ExtractRule.decode)
      return { rules := rules.getD Named.empty })
    (fun items => do
      return { rules := ← Decoder.itemOr Named.empty items 0 (Decoder.named ExtractRule.decode) })

end ScrapeOptions

/-- The body for the scrape endpoint. -/
structure ScrapeRequest where
  url : String
  taskType : Option String := none
  formats : Option (List String) := none
  options : Option ScrapeOptions := none
deriving DecidableEq

namespace ScrapeRequest

/-- The request with a rule for one element under a name. -/
def withRule (request : ScrapeRequest) (name selector : String) : ScrapeRequest :=
  let options := request.options.getD {}
  { request with
    taskType := some "scrape"
    options := some { rules := options.rules.insert name { selector } } }

/-- The request with these formats. -/
def withFormats (request : ScrapeRequest) (formats : List String) : ScrapeRequest :=
  { request with formats := some formats }

def encode (request : ScrapeRequest) : Json :=
  presentMembers
    [("url", some (.string request.url)),
      ("task_type", request.taskType.map Json.string),
      ("formats", request.formats.map encodeTexts),
      ("payload", request.options.map ScrapeOptions.encode)]

private def shape : Decoder.Shape := ⟨"ScrapeRequest", 4⟩

def decode : Decoder ScrapeRequest :=
  Decoder.record shape
    (fun members => do
      let formats ← Decoder.member members "formats" (Decoder.orNull (Decoder.list Decoder.text))
      let options ← Decoder.member members "payload" (Decoder.orNull ScrapeOptions.decode)
      let taskType ← Decoder.member members "task_type" (Decoder.orNull Decoder.text)
      let url ← Decoder.member members "url" Decoder.text
      return {
        url := ← Decoder.required "url" url
        taskType := taskType.join
        formats := formats.join
        options := options.join })
    (fun items => do
      let url ← Decoder.item shape items 0 Decoder.text
      let taskType ← Decoder.item shape items 1 (Decoder.orNull Decoder.text)
      let formats ← Decoder.item shape items 2 (Decoder.orNull (Decoder.list Decoder.text))
      let options ← Decoder.item shape items 3 (Decoder.orNull ScrapeOptions.decode)
      return { url, taskType, formats, options })

end ScrapeRequest

/-- How far a crawl goes. -/
structure CrawlerOptions where
  maxDepth : Option UInt32 := none
  limit : Option UInt32 := none
  strategy : Option String := none
  includePatterns : Option (List String) := none
  excludePatterns : Option (List String) := none
deriving DecidableEq

namespace CrawlerOptions

def encode (options : CrawlerOptions) : Json :=
  presentMembers
    [("max_depth", options.maxDepth.map encodeWord),
      ("limit", options.limit.map encodeWord),
      ("strategy", options.strategy.map Json.string),
      ("include_patterns", options.includePatterns.map encodeTexts),
      ("exclude_patterns", options.excludePatterns.map encodeTexts)]

private def shape : Decoder.Shape := ⟨"CrawlerOptions", 5⟩

def decode : Decoder CrawlerOptions :=
  let texts := Decoder.orNull (Decoder.list Decoder.text)
  let word := Decoder.orNull Decoder.word32
  Decoder.record shape
    (fun members => do
      let excludePatterns ← Decoder.member members "exclude_patterns" texts
      let includePatterns ← Decoder.member members "include_patterns" texts
      let limit ← Decoder.member members "limit" word
      let maxDepth ← Decoder.member members "max_depth" word
      let strategy ← Decoder.member members "strategy" (Decoder.orNull Decoder.text)
      return {
        maxDepth := maxDepth.join
        limit := limit.join
        strategy := strategy.join
        includePatterns := includePatterns.join
        excludePatterns := excludePatterns.join })
    (fun items => do
      let maxDepth ← Decoder.item shape items 0 word
      let limit ← Decoder.item shape items 1 word
      let strategy ← Decoder.item shape items 2 (Decoder.orNull Decoder.text)
      let includePatterns ← Decoder.item shape items 3 texts
      let excludePatterns ← Decoder.item shape items 4 texts
      return { maxDepth, limit, strategy, includePatterns, excludePatterns })

end CrawlerOptions

/-- The body for the crawl endpoint. -/
structure CrawlRequest where
  url : String
  options : Option CrawlerOptions := none
deriving DecidableEq

namespace CrawlRequest

/-- A breadth-first crawl within limits. -/
def breadthFirst (url : String) (maxDepth limit : UInt32) : CrawlRequest :=
  { url, options := some { maxDepth, limit, strategy := some "bfs" } }

def encode (request : CrawlRequest) : Json :=
  presentMembers
    [("url", some (.string request.url)),
      ("crawler_options", request.options.map CrawlerOptions.encode)]

private def shape : Decoder.Shape := ⟨"CrawlRequest", 2⟩

def decode : Decoder CrawlRequest :=
  Decoder.record shape
    (fun members => do
      let options ← Decoder.member members "crawler_options" (Decoder.orNull CrawlerOptions.decode)
      let url ← Decoder.member members "url" Decoder.text
      return { url := ← Decoder.required "url" url, options := options.join })
    (fun items => do
      let url ← Decoder.item shape items 0 Decoder.text
      let options ← Decoder.item shape items 1 (Decoder.orNull CrawlerOptions.decode)
      return { url, options })

end CrawlRequest

/-- The body for the search endpoint. -/
structure SearchRequest where
  query : String
  sources : Option (List String) := none
  limit : Option UInt32 := none
deriving DecidableEq

namespace SearchRequest

def encode (request : SearchRequest) : Json :=
  presentMembers
    [("query", some (.string request.query)),
      ("sources", request.sources.map encodeTexts),
      ("limit", request.limit.map encodeWord)]

private def shape : Decoder.Shape := ⟨"SearchRequest", 3⟩

def decode : Decoder SearchRequest :=
  Decoder.record shape
    (fun members => do
      let limit ← Decoder.member members "limit" (Decoder.orNull Decoder.word32)
      let query ← Decoder.member members "query" Decoder.text
      let sources ← Decoder.member members "sources" (Decoder.orNull (Decoder.list Decoder.text))
      return {
        query := ← Decoder.required "query" query
        sources := sources.join
        limit := limit.join })
    (fun items => do
      let query ← Decoder.item shape items 0 Decoder.text
      let sources ← Decoder.item shape items 1 (Decoder.orNull (Decoder.list Decoder.text))
      let limit ← Decoder.item shape items 2 (Decoder.orNull Decoder.word32)
      return { query, sources, limit })

end SearchRequest

/-- The body for the extract endpoint. -/
structure ExtractRequest where
  urls : List String
  prompt : Option String := none
deriving DecidableEq

namespace ExtractRequest

def encode (request : ExtractRequest) : Json :=
  presentMembers
    [("urls", some (encodeTexts request.urls)), ("prompt", request.prompt.map Json.string)]

private def shape : Decoder.Shape := ⟨"ExtractRequest", 2⟩

def decode : Decoder ExtractRequest :=
  Decoder.record shape
    (fun members => do
      let prompt ← Decoder.member members "prompt" (Decoder.orNull Decoder.text)
      let urls ← Decoder.member members "urls" (Decoder.list Decoder.text)
      return { urls := ← Decoder.required "urls" urls, prompt := prompt.join })
    (fun items => do
      let urls ← Decoder.item shape items 0 (Decoder.list Decoder.text)
      let prompt ← Decoder.item shape items 1 (Decoder.orNull Decoder.text)
      return { urls, prompt })

end ExtractRequest

/-- What is submitted. -/
inductive Payload where
  | scrape (request : ScrapeRequest)
  | crawl (request : CrawlRequest)
  | search (request : SearchRequest)
  | extract (request : ExtractRequest)
  | raw (value : Json)

namespace Payload

/-- The endpoint a payload is meant for; a raw one is meant for none. -/
def endpoint? : Payload → Option Endpoint
  | scrape _ => some .scrape
  | crawl _ => some .crawl
  | search _ => some .search
  | extract _ => some .extract
  | raw _ => none

def encode : Payload → Json
  | scrape request => request.encode
  | crawl request => request.encode
  | search request => request.encode
  | extract request => request.encode
  | raw value => value

/-- The payload a value is; every value is at least a raw one. -/
def ofJson (value : Json) : Payload :=
  -- the first kind that can read the value takes it, and none of them minds members it does not know
  match ScrapeRequest.decode value with
  | .ok request => scrape request
  | .error _ =>
    match CrawlRequest.decode value with
    | .ok request => crawl request
    | .error _ =>
      match SearchRequest.decode value with
      | .ok request => search request
      | .error _ =>
        match ExtractRequest.decode value with
        | .ok request => extract request
        | .error _ => raw value

/-- The light payload of one invocation of a load test. Searches differ by the index. -/
def forLoad (endpoint : Endpoint) (targetUrl : String) (index : Nat) : Payload :=
  match endpoint with
  | .scrape => scrape (ScrapeRequest.withRule { url := targetUrl } "title" "title")
  | .crawl => crawl (CrawlRequest.breadthFirst targetUrl 1 10)
  | .search => search { query := s!"load test {index}", limit := some 1 }
  | .extract => extract { urls := [targetUrl], prompt := some "Extract the page title" }

end Payload

end ServiceProbe
