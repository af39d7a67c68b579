import ServiceProbe.Summary
import ServiceProbe.Task.Polling
import ServiceProbe.Url.Reading

/-!
# Configurations

A configuration has four sections: the service, the polling of tasks, load tests and logging. It decodes
from JSON and is written as JSON. `Config.validate` accepts the configurations that can be run: the base
URL can be read, the endpoint is known, and neither the pause between two attempts nor one of the budgets
is zero.
-/

namespace ServiceProbe

/-- The service and the credential for it. An empty key means none. -/
structure ApiSettings where
  baseUrl : String := "http://localhost:3000"
  apiKey : String := ""
  requestTimeoutMillis : UInt64 := 30000
deriving DecidableEq

/-- How tasks are polled. -/
structure PollingSettings where
  intervalMillis : UInt64 := 2000
  maxAttempts : UInt32 := 30
  maxWaitMillis : Option UInt64 := none
deriving DecidableEq

/-- What a load test does. -/
structure LoadSettings where
  endpoint : String := "crawl"
  targetUrl : String := "https://httpbin.org/html"
  concurrency : UInt64 := 5
  workerBudget : UInt64 := 5
  cancelledCountsAsSuccess : Bool := false
  successesOnlyLatency : Bool := false
deriving DecidableEq

/-- What is logged, and into which directory besides the console. -/
structure LoggingSettings where
  level : String := "info"
  logDir : Option String := none
deriving DecidableEq

/-- A configuration; without anything set it is the built-in one. -/
structure Config where
  api : ApiSettings := {}
  polling : PollingSettings := {}
  load : LoadSettings := {}
  logging : LoggingSettings := {}
deriving DecidableEq

private def encodeWord64 (n : UInt64) : Json :=
  .number (.natural n)

namespace ApiSettings

def shape : Decoder.Shape := ⟨"ApiConfig", 3⟩

def encode (api : ApiSettings) : Json :=
  Json.ofMembers
    [("base_url", .string api.baseUrl),
      ("api_key", .string api.apiKey),
      ("request_timeout_ms", encodeWord64 api.requestTimeoutMillis)]

def decode : Decoder ApiSettings :=
  Decoder.record shape
    (fun members => do
      let apiKey ← Decoder.member members "api_key" Decoder.text
      let baseUrl ← Decoder.member members "base_url" Decoder.text
      let timeout ← Decoder.member members "request_timeout_ms" Decoder.word64
      return {
        baseUrl := ← Decoder.required "base_url" baseUrl
        apiKey := ← Decoder.required "api_key" apiKey
        requestTimeoutMillis := ← Decoder.required "request_timeout_ms" timeout })
    (fun items => do
      let baseUrl ← Decoder.item shape items 0 Decoder.text
      let apiKey ← Decoder.item shape items 1 Decoder.text
      let requestTimeoutMillis ← Decoder.item shape items 2 Decoder.word64
      return { baseUrl, apiKey, requestTimeoutMillis })

end ApiSettings

namespace PollingSettings

def shape : Decoder.Shape := ⟨"PollingConfig", 3⟩

def encode (polling : PollingSettings) : Json :=
  Json.ofMembers
    [("interval_ms", encodeWord64 polling.intervalMillis),
      ("max_attempts", Json.ofNat polling.maxAttempts.toNat),
      ("max_wait_ms", (polling.maxWaitMillis.map encodeWord64).getD .null)]

def decode : Decoder PollingSettings :=
  Decoder.record shape
    (fun members => do
      let interval ← Decoder.member members "interval_ms" Decoder.word64
      let attempts ← Decoder.member members "max_attempts" Decoder.word32
      let wait ← Decoder.member members "max_wait_ms" (Decoder.orNull Decoder.word64)
      return {
        intervalMillis := ← Decoder.required "interval_ms" interval
        maxAttempts := ← Decoder.required "max_attempts" attempts
        maxWaitMillis := wait.join })
    (fun items => do
      let intervalMillis ← Decoder.item shape items 0 Decoder.word64
      let maxAttempts ← Decoder.item shape items 1 Decoder.word32
      let maxWaitMillis ← Decoder.itemOr none items 2 (Decoder.orNull Decoder.word64)
      return { intervalMillis, maxAttempts, maxWaitMillis })

end PollingSettings

namespace LoadSettings

def shape : Decoder.Shape := ⟨"LoadConfig", 6⟩

def encode (load : LoadSettings) : Json :=
  Json.ofMembers
    [("endpoint", .string load.endpoint),
      ("target_url", .string load.targetUrl),
      ("concurrency", encodeWord64 load.concurrency),
      ("worker_budget", encodeWord64 load.workerBudget),
      ("cancelled_counts_as_success", .bool load.cancelledCountsAsSuccess),
      ("successes_only_latency", .bool load.successesOnlyLatency)]

def decode : Decoder LoadSettings :=
  Decoder.record shape
    (fun members => do
      let cancelled ← Decoder.member members "cancelled_counts_as_success" Decoder.boolean
      let concurrency ← Decoder.member members "concurrency" Decoder.count
      let endpoint ← Decoder.member members "endpoint" Decoder.text
      let successesOnly ← Decoder.member members "successes_only_latency" Decoder.boolean
      let targetUrl ← Decoder.member members "target_url" Decoder.text
      let workerBudget ← Decoder.member members "worker_budget" Decoder.count
      return {
        endpoint := ← Decoder.required "endpoint" endpoint
        targetUrl := ← Decoder.required "target_url" targetUrl
        concurrency := ← Decoder.required "concurrency" concurrency
        workerBudget := ← Decoder.required "worker_budget" workerBudget
        cancelledCountsAsSuccess := ← Decoder.required "cancelled_counts_as_success" cancelled
        successesOnlyLatency := ← Decoder.required "successes_only_latency" successesOnly })
    (fun items => do
      let endpoint ← Decoder.item shape items 0 Decoder.text
      let targetUrl ← Decoder.item shape items 1 Decoder.text
      let concurrency ← Decoder.item shape items 2 Decoder.count
      let workerBudget ← Decoder.item shape items 3 Decoder.count
      let cancelledCountsAsSuccess ← Decoder.item shape items 4 Decoder.boolean
      let successesOnlyLatency ← Decoder.item shape items 5 Decoder.boolean
      return {
        endpoint, targetUrl, concurrency, workerBudget, cancelledCountsAsSuccess,
        successesOnlyLatency })

end LoadSettings

namespace LoggingSettings

def shape : Decoder.Shape := ⟨"LoggingConfig", 2⟩

def encode (logging : LoggingSettings) : Json :=
  Json.ofMembers
    [("level", .string logging.level), ("log_dir", Json.ofText? logging.logDir)]

def decode : Decoder LoggingSettings :=
  Decoder.record shape
    (fun members => do
      let level ← Decoder.member members "level" Decoder.text
      let logDir ← Decoder.member members "log_dir" (Decoder.orNull Decoder.text)
      return { level := ← Decoder.required "level" level, logDir := logDir.join })
    (fun items => do
      let level ← Decoder.item shape items 0 Decoder.text
      let logDir ← Decoder.itemOr none items 1 (Decoder.orNull Decoder.text)
      return { level, logDir })

end LoggingSettings

namespace Config

def shape : Decoder.Shape := ⟨"HarnessConfig", 4⟩

def encode (config : Config) : Json :=
  Json.ofMembers
    [("api", config.api.encode),
      ("polling", config.polling.encode),
      ("load", config.load.encode),
      ("logging", config.logging.encode)]

def decode : Decoder Config :=
  Decoder.record shape
    (fun members => do
      let api ← Decoder.member members "api" ApiSettings.decode
      let load ← Decoder.member members "load" LoadSettings.decode
      let logging ← Decoder.member members "logging" LoggingSettings.decode
      let polling ← Decoder.member members "polling" PollingSettings.decode
      return {
        api := ← Decoder.required "api" api
        polling := ← Decoder.required "polling" polling
        load := ← Decoder.required "load" load
        logging := ← Decoder.required "logging" logging })
    (fun items => do
      let api ← Decoder.item shape items 0 ApiSettings.decode
      let polling ← Decoder.item shape items 1 PollingSettings.decode
      let load ← Decoder.item shape items 2 LoadSettings.decode
      let logging ← Decoder.item shape items 3 LoggingSettings.decode
      return { api, polling, load, logging })

/-- The configuration can be run. Of several faults the first in this order is told. -/
def validate (config : Config) : Except Error Unit := do
  if (Text.trim config.api.baseUrl.toList).isEmpty then
    throw (.config .emptyBaseUrl)
  match Url.parse config.api.baseUrl.toList with
  | .error fault => throw (.config (.malformedBaseUrl fault))
  | .ok _ => pure ()
  if config.polling.intervalMillis = 0 then
    throw (.config (.notPositive "polling.interval_ms"))
  if config.polling.maxAttempts = 0 then
    throw (.config (.notPositive "polling.max_attempts"))
  if config.load.workerBudget = 0 then
    throw (.config (.notPositive "load.worker_budget"))
  let _ ← Endpoint.parse config.load.endpoint

/-- How tasks are polled under the configuration. -/
def pollingOf (config : Config) : Polling :=
  { interval := Nanos.ofMillis config.polling.intervalMillis.toNat
    maxAttempts := config.polling.maxAttempts.toNat
    maxWait := config.polling.maxWaitMillis.map fun millis => Nanos.ofMillis millis.toNat }

/-- How outcomes are summarized under the configuration. -/
def summaryOptions (config : Config) : SummaryOptions :=
  { cancelled := if config.load.cancelledCountsAsSuccess then .asSuccess else .asFailure
    latencyBasis := if config.load.successesOnlyLatency then .successesOnly else .allOutcomes }

end Config

end ServiceProbe
