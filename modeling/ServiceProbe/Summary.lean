import ServiceProbe.Task.Outcome

/-!
# Summaries of outcomes

A summary counts outcomes by kind and by success and describes their latencies. Two options decide
whether a cancelled task counts as a success and which outcomes contribute latencies. Latencies are put
in the total order of doubles first, so that neither the average nor the percentiles depend on the order
of the outcomes; a percentile is the sample at the floor of the number of samples times the quantile,
or the last one.
-/

namespace ServiceProbe

open Number (Double)

/-- How a confirmed cancellation counts. -/
inductive CancelledPolicy where
  | asSuccess | asFailure
deriving DecidableEq

/-- Which outcomes contribute latencies. -/
inductive LatencyBasis where
  | allOutcomes | successesOnly
deriving DecidableEq

/-- How outcomes are summarized. -/
structure SummaryOptions where
  cancelled : CancelledPolicy := .asFailure
  latencyBasis : LatencyBasis := .allOutcomes
deriving DecidableEq

namespace CancelledPolicy

def jsonName : CancelledPolicy → String
  | asSuccess => "as_success"
  | asFailure => "as_failure"

def decode : Decoder CancelledPolicy :=
  Decoder.oneOf ([asSuccess, asFailure].map fun policy => (policy.jsonName, policy))

end CancelledPolicy

namespace LatencyBasis

def jsonName : LatencyBasis → String
  | allOutcomes => "all_outcomes"
  | successesOnly => "successes_only"

def decode : Decoder LatencyBasis :=
  Decoder.oneOf ([allOutcomes, successesOnly].map fun basis => (basis.jsonName, basis))

end LatencyBasis

namespace SummaryOptions

def encode (options : SummaryOptions) : Json :=
  Json.ofMembers
    [("cancelled", .string options.cancelled.jsonName),
      ("latency_basis", .string options.latencyBasis.jsonName)]

private def shape : Decoder.Shape := ⟨"SummaryOptions", 2⟩

def decode : Decoder SummaryOptions :=
  Decoder.record shape
    (fun members => do
      let cancelled ← Decoder.member members "cancelled" CancelledPolicy.decode
      let latencyBasis ← Decoder.member members "latency_basis" LatencyBasis.decode
      return {
        cancelled := ← Decoder.required "cancelled" cancelled
        latencyBasis := ← Decoder.required "latency_basis" latencyBasis })
    (fun items => do
      let cancelled ← Decoder.item shape items 0 CancelledPolicy.decode
      let latencyBasis ← Decoder.item shape items 1 LatencyBasis.decode
      return { cancelled, latencyBasis })

/-- The outcome counts as a success. -/
def countsAsSuccess (options : SummaryOptions) (outcome : Outcome) : Bool :=
  match outcome.kind with
  | .success => true
  | .cancelled => options.cancelled = .asSuccess
  | _ => false

/-- The outcome contributes its latency. -/
def contributes (options : SummaryOptions) (outcome : Outcome) : Bool :=
  options.countsAsSuccess outcome || options.latencyBasis = .allOutcomes

end SummaryOptions

/-! ### Latencies -/

/-- The sample at a quantile of ascending samples; zero when there is none. -/
def nearestRank (samples : List Double) (quantile : Double) : Double :=
  let index := ((Double.ofNat samples.length).mul quantile).floorIndex
  samples.getD (min index (samples.length - 1)) Double.zero

/-- The distribution of latencies. -/
structure LatencyStats where
  average : Double := Double.zero
  maximum : Double := Double.zero
  p95 : Double := Double.zero
  p99 : Double := Double.zero
deriving DecidableEq

namespace LatencyStats

/-- The sum from left to right. A sum of nothing is minus zero, which changes no other sum. -/
def sum (samples : List Double) : Double :=
  samples.foldl Double.add Double.negativeZero

/-- The samples in the total order. -/
def sorted (samples : List Double) : List Double :=
  samples.mergeSort Double.totalLe

def ofSamples (samples : List Double) : LatencyStats :=
  match sorted samples with
  | [] => {}
  | first :: rest =>
    -- the sum too is taken in ascending order, so that no figure depends on the given one
    let ascending := first :: rest
    { average := (sum ascending).div (Double.ofNat ascending.length)
      maximum := ascending.getLastD Double.zero
      p95 := nearestRank ascending (Double.ofRatio false 95 100)
      p99 := nearestRank ascending (Double.ofRatio false 99 100) }

end LatencyStats

/-! ### Counts -/

/-- The number of outcomes of each kind. -/
structure Breakdown where
  success : Nat := 0
  failure : Nat := 0
  cancelled : Nat := 0
  timedOut : Nat := 0
  transportError : Nat := 0
deriving DecidableEq

namespace Breakdown

/-- One more outcome of a kind. -/
def record (breakdown : Breakdown) : OutcomeKind → Breakdown
  | .success => { breakdown with success := breakdown.success + 1 }
  | .failure => { breakdown with failure := breakdown.failure + 1 }
  | .cancelled => { breakdown with cancelled := breakdown.cancelled + 1 }
  | .timedOut => { breakdown with timedOut := breakdown.timedOut + 1 }
  | .transportError => { breakdown with transportError := breakdown.transportError + 1 }

end Breakdown

/-- The summary of a run. -/
structure Summary where
  total : Nat
  succeeded : Nat
  failed : Nat
  /-- The successes as a part of the total; zero for an empty run. -/
  successRate : Double
  latency : LatencyStats
  breakdown : Breakdown
deriving DecidableEq

namespace Summary

/-- The part `n` is of `total`; zero when there is none. -/
def ratio (n total : Nat) : Double :=
  if total = 0 then Double.zero else (Double.ofNat n).div (Double.ofNat total)

/-- The summary of some outcomes. -/
def of (outcomes : List Outcome) (options : SummaryOptions) : Summary :=
  let total := outcomes.length
  let succeeded := (outcomes.filter options.countsAsSuccess).length
  { total
    succeeded
    -- those that succeeded are among all, so that the difference is exact
    failed := total - succeeded
    successRate := ratio succeeded total
    latency :=
      LatencyStats.ofSamples
        ((outcomes.filter options.contributes).map fun outcome =>
          Nanos.milliseconds outcome.latency)
    breakdown := outcomes.foldl (fun held outcome => held.record outcome.kind) {} }

/-- Every outcome counts as a success. -/
def allSucceeded (summary : Summary) : Bool :=
  summary.succeeded = summary.total

/-- The summary as lines of text, without a line break at its end. -/
def describe (summary : Summary) : String :=
  let percent := summary.successRate.mul (Double.ofNat 100)
  let kinds := summary.breakdown
  "\n".intercalate
    [s!"Total:        {summary.total}",
      s!"Succeeded:    {summary.succeeded}",
      s!"Failed:       {summary.failed}",
      s!"Success rate: {percent.fixed 1}%",
      s!"  (failure {kinds.failure}, cancelled {kinds.cancelled}, timed out {kinds.timedOut}, " ++
        s!"transport {kinds.transportError})",
      s!"Avg latency:  {summary.latency.average.fixed 2}ms",
      s!"Max latency:  {summary.latency.maximum.fixed 2}ms",
      s!"P95 latency:  {summary.latency.p95.fixed 2}ms",
      s!"P99 latency:  {summary.latency.p99.fixed 2}ms"]

end Summary

end ServiceProbe
