import ServiceProbe.Http.Client
import ServiceProbe.Json.Writer
import ServiceProbe.Scenario.Runner
import ServiceProbe.Text.Case

/-!
# The standard scenarios

Six scenarios submit one task, poll it to its end and look for evidence in the body of the completed
snapshot. The others cancel a task, run several tasks at once, submit what has to be refused, and submit
until the service limits the rate. The configuration gives the target of the tasks and how they are
polled.
-/

namespace ServiceProbe

namespace Scenario

/-! ### One task and its evidence -/

/-- Submits a task and polls it to its end. -/
def submitAndPoll (polling : Polling) (endpoint : Endpoint) (payload : Payload) :
    Procedure (Except Failure Outcome) := do
  match ← Procedure.submitTask endpoint payload with
  | .error e => return .error (.within s!"submitting task to {endpoint.path}" (.error e))
  | .ok handle => return .ok (← polling.poll handle)

/-- The verdict on an outcome: that of the evidence on the snapshot of a success, else a failure. -/
def judge (evidence : Snapshot → Verdict) (outcome : Outcome) : Verdict :=
  match outcome with
  | .success snapshot _ => evidence snapshot
  | _ => .fail s!"task did not complete: {outcome.describe}"

/-- The scenario of one task. -/
def ofTask (name : String) (polling : Config → Polling) (endpoint : Endpoint)
    (payload : Config → Payload) (evidence : Snapshot → Verdict) : Scenario :=
  ofProcedure name fun config => do
    match ← submitAndPoll (polling config) endpoint (payload config) with
    | .error failure => return .error failure
    | .ok outcome => return .ok (judge evidence outcome)

/-- A title was extracted. -/
def titleEvidence (snapshot : Snapshot) : Verdict :=
  match snapshot.field? "/content/title" with
  | some title =>
    if title.isContentful then .pass s!"extracted title {title.render}"
    else .fail "completed without an extracted title"
  | none => .fail "completed without an extracted title"

/-- At least one URL was crawled. -/
def crawlEvidence (snapshot : Snapshot) : Verdict :=
  let crawled := (snapshot.field? "/urls_crawled" >>= Json.natural?).getD 0
  if 0 < crawled then .pass s!"{crawled.toNat} urls crawled"
  else .fail "completed without crawling any url"

/-- The names that a search result has to have. -/
def searchResultNames : List String :=
  ["title", "url", "snippet"]

/-- There are search results, and the first one is complete. -/
def searchEvidence (snapshot : Snapshot) : Verdict :=
  match (snapshot.field? "/data/web" >>= Json.items?).getD [] with
  | [] => .fail "completed without search results"
  | first :: rest =>
    if searchResultNames.all fun name => (first.member? name).isSome then
      .pass s!"{rest.length + 1} search results"
    else .fail s!"malformed search result: {first.render}"

/-- The value at a pointer has content; `what` names it. -/
def contentEvidence (pointer what : String) (snapshot : Snapshot) : Verdict :=
  if snapshot.hasContent pointer then .pass s!"{what} present"
  else .fail s!"completed without {what}"

/-- A completed crawl needs no further evidence. -/
def statsEvidence (snapshot : Snapshot) : Verdict :=
  let stats := (snapshot.field? "/stats").getD .null
  .pass s!"crawl completed, stats {stats.render}"

def scrapeBasic : Scenario :=
  ofTask "scrape basic" Config.pollingOf .scrape
    (fun config => .scrape (ScrapeRequest.withRule { url := config.load.targetUrl } "title" "title"))
    titleEvidence

def crawlBasic : Scenario :=
  ofTask "crawl basic" Config.pollingOf .crawl
    (fun config => .crawl (CrawlRequest.breadthFirst config.load.targetUrl 1 10)) crawlEvidence

def searchBasic : Scenario :=
  ofTask "search basic" Config.pollingOf .search
    (fun _ =>
      .search { query := "rust programming language", sources := some ["web"], limit := some 5 })
    searchEvidence

def extractBasic : Scenario :=
  ofTask "extract basic" Config.pollingOf .extract
    (fun config =>
      .extract
        { urls := [config.load.targetUrl]
          prompt := some "Extract the page title and any headings (h1, h2, h3)" })
    (contentEvidence "/data" "extracted data")

def scrapeScreenshot : Scenario :=
  ofTask "scrape screenshot" Config.pollingOf .scrape
    (fun config => .scrape (ScrapeRequest.withFormats { url := config.load.targetUrl } ["screenshot"]))
    (contentEvidence "/data/screenshot" "screenshot data")

/-- A crawl of many pages, with twice the budgets of the others. -/
def crawlFull : Scenario :=
  ofTask "crawl full" (fun config => config.pollingOf.doubled) .crawl
    (fun _ =>
      .crawl
        { url := "https://httpbin.org/links/5/0"
          options := some { maxDepth := some 1, limit := some 10 } })
    statsEvidence

/-! ### Cancellation -/

/-- The verdict on the status after a cancellation. -/
def cancellationVerdict (id : String) (snapshot : Snapshot) : Verdict :=
  if snapshot.status.acknowledgesCancel then .pass s!"task {id} is {snapshot.status.word}"
  else .fail s!"task {id} still {snapshot.status.word} after cancellation"

/-- Submits a crawl, cancels it after a pause, and asks for its status after another. -/
def taskCancellation : Scenario :=
  ofProcedure "task cancellation" fun config => do
    let pause := config.pollingOf.interval
    let payload := Payload.crawl (CrawlRequest.breadthFirst config.load.targetUrl 3 100)
    match ← Procedure.submitTask .crawl payload with
    | .error e => return .error (.error e)
    | .ok handle =>
      Procedure.wait pause
      match ← Procedure.cancelTask handle with
      | .error e => return .error (.error e)
      -- the service knows no such task, or it is over
      | .ok false => return .ok (.fail s!"cancellation of {handle.id} was not accepted")
      | .ok true =>
        Procedure.wait pause
        match ← Procedure.checkTask handle with
        | .error e => return .error (.error e)
        | .ok snapshot => return .ok (cancellationVerdict handle.id snapshot)

/-! ### Several tasks at once -/

/-- How many tasks run at once. -/
def concurrentCount : Nat := 5

/-- One of the tasks that run at once. -/
def concurrentJob (config : Config) : Job :=
  .built do
    let payload :=
      Payload.scrape (ScrapeRequest.withRule { url := config.load.targetUrl } "title" "title")
    match ← Procedure.submitTask .scrape payload with
    | .error e => return .error e
    | .ok handle => return .ok (← config.pollingOf.poll handle)

/-- The verdict on the outcomes: all have to be successes, and those that are none are told. -/
def concurrentVerdict (reports : List Report) : Verdict :=
  let failures := Report.byIndex (reports.filter fun entry => !entry.outcome.isSuccess)
  let summary := s!"{reports.length - failures.length}/{concurrentCount} tasks completed"
  if failures.isEmpty then .pass summary
  else
    let details := failures.map fun entry => s!"task {entry.index}: {entry.outcome.describe}"
    .fail (summary ++ "; " ++ Text.joinWith "; " details)

def concurrentTasks : Scenario where
  name := "concurrent tasks"
  body config := do
    match ← Session.inPool concurrentCount concurrentCount fun _ => concurrentJob config with
    | .crashed text => return .crashed text
    | .returned reports => return .returned (.ok (concurrentVerdict reports))

/-! ### Refusals -/

/-- A body with some members for probing how the service checks its input. -/
private def probe (members : List (String × Json)) : Payload :=
  .raw (Json.ofMembers (members ++ [("task_type", .string "scrape"), ("payload", .object [])]))

/-- A body that the service accepts. -/
def validProbe : Payload :=
  probe [("url", .string "https://example.com")]

/-- What is wrong with the answer to a submission that has to be refused with a code. -/
def mismatch? (case : String) (expected : Nat) : Except Error Handle → Option String
  | .error e =>
    if e.status? = some expected then none
    else some s!"{case}: expected {expected}, got {e.message}"
  | .ok _ => some s!"{case}: expected {expected}, task was accepted"

/-- The credential that has to be refused. -/
def invalidKey : String := "invalid-key"

/-- Submits a bad URL, no URL, and a good one with a bad credential. -/
def errorHandling : Scenario :=
  ofProcedure "error handling" fun config => do
    let badUrl ← Procedure.submitTask .scrape (probe [("url", .string "not-a-valid-url")])
    let noUrl ← Procedure.submitTask .scrape (probe [])
    -- only the key of this client is another one, so what it is asked for goes to the same service
    match Client.make { ClientSettings.ofApi config.api with token := some invalidKey } with
    | .error e =>
      return .error (.within "building client with an invalid credential" (.error e))
    | .ok _ =>
      let badKey ← Procedure.submitTask .scrape validProbe (.token invalidKey)
      let mismatches :=
        [mismatch? "invalid url" 422 badUrl, mismatch? "missing url" 422 noUrl,
          mismatch? "invalid credential" 401 badKey].filterMap id
      if mismatches.isEmpty then return .ok (.pass "422/422/401 as expected")
      else return .ok (.fail (Text.joinWith "; " mismatches))

/-! ### Rate limits -/

/-- How often the service is asked for a rate limit at most. -/
def rateLimitRequests : Nat := 105

/-- The text of a refusal in which a rate limit may be mentioned: the error member of a JSON object, if
it is a text, else the whole. -/
def refusalText (message : String) : String :=
  match Json.read message with
  | .ok value => (value.member? "error" >>= Json.text?).getD message
  | .error _ => message

/-- The refusal speaks of a rate limit. -/
def mentionsRateLimit (message : String) : Bool :=
  Text.contains "rate limit".toList (Text.lower (refusalText message).toList)

/-- What the answer to a request of this number decides, if it does. -/
def rateLimitDecision? (number : Nat) : Except Error Handle → Option (Except Failure Verdict)
  | .error (.creation 429 message) =>
    some (.ok
      (if mentionsRateLimit message then .pass s!"rate limited at request {number}"
      else .fail s!"429 at request {number} without a rate limit error: {message}"))
  | .error (.auth status message) => some (.error (.error (.auth status message)))
  | _ => none

/-- Submits until an answer decides, with so many requests left after so many made. -/
def probeRateLimit (made : Nat) : Nat → Procedure (Except Failure Verdict)
  | 0 => return .ok (.fail s!"no 429 within {rateLimitRequests} requests")
  | left + 1 => do
    match rateLimitDecision? (made + 1) (← Procedure.submitTask .scrape validProbe) with
    | some decision => return decision
    | none => probeRateLimit (made + 1) left

def rateLimiting : Scenario :=
  ofProcedure "rate limiting" fun _ => probeRateLimit 0 rateLimitRequests

/-! ### All of them -/

/-- The standard scenarios, in the order in which they run. -/
def standard : List Scenario :=
  [scrapeBasic, crawlBasic, searchBasic, extractBasic, scrapeScreenshot, crawlFull, taskCancellation,
    concurrentTasks, errorHandling, rateLimiting]

/-- The standard scenarios whose name contains one of the fragments; all of them without fragments. -/
def selected (fragments : List String) : List Scenario :=
  standard.filter fun scenario =>
    fragments.isEmpty ||
      fragments.any fun fragment => Text.contains fragment.toList scenario.name.toList

end Scenario

end ServiceProbe
