import CryptoScanner.Library.Dict
import CryptoScanner.Models

/-!
# Performance results and their summary

What a run stores for an asset, and what `summarize_results` counts.  The arithmetic on metrics
(rates, deltas, averages) is the class `PerformanceEngine`: it may raise, and it may yield numbers and
texts that the database does not take.
-/

namespace CryptoScanner.Performance

open Library Python

abbrev Dict := List (String × Json)

/-- `value.get(key)`, which is `None` for an absent key. -/
def Dict.get (d : Dict) (key : String) : Json := (d.lookup key).getD .null

/-! ## 1. What the database takes -/

def storableText (text : List Char) : Bool := !text.contains '\x00'

mutual

def storable : Json → Bool
  | .null | .bool _ | .int _ => true
  | .float x => x.isFinite
  | .str s => storableText s.toList
  | .list items => storableItems items
  | .dict entries => storableEntries entries

def storableItems : List Json → Bool
  | [] => true
  | item :: items => storable item && storableItems items

def storableEntries : List (String × Json) → Bool
  | [] => true
  | (key, value) :: entries => storableText key.toList && storable value && storableEntries entries

end

/-! ## 2. Results -/

inductive ResultStatus
  | pass
  | warn
  | fail
  | error
  deriving DecidableEq, Repr

def ResultStatus.text : ResultStatus → String
  | .pass => "PASS"
  | .warn => "WARN"
  | .fail => "FAIL"
  | .error => "ERROR"

def resultStatuses : List ResultStatus := [.pass, .warn, .fail, .error]

inductive SignalLevel
  | warn
  | fail
  deriving DecidableEq, Repr

structure Signal where
  level : SignalLevel
  reason : String
  value : Option PyFloat := none
  deriving DecidableEq, Repr

structure AssetPerformanceResult where
  run : Id
  asset : Id
  status : ResultStatus
  compatibilityStatus : ResultStatus
  negotiatedAlgorithm : String
  metrics : Dict
  deltas : Dict
  signals : List Signal
  recommendation : String
  errorMessage : String
  measuredAt : Time
  deriving DecidableEq, Repr

def fitsColumn (length : Nat) (text : String) : Bool :=
  text.toList.length ≤ length && storableText text.toList

def AssetPerformanceResult.storable (result : AssetPerformanceResult) : Bool :=
  fitsColumn 128 result.negotiatedAlgorithm && fitsColumn 64 result.recommendation &&
    fitsColumn 255 result.errorMessage && storableEntries result.metrics &&
    storableEntries result.deltas &&
    result.signals.all fun signal =>
      storableText signal.reason.toList && signal.value.all PyFloat.isFinite

/-- What `refresh_run_summary` hands to `summarize_results` for each result. -/
structure ResultEntry where
  status : ResultStatus
  deltas : Dict
  metrics : Dict
  bomRef : List Char
  deriving DecidableEq, Repr

/-- The functions of `performance_engine`; `none` where one raises. -/
class PerformanceEngine where
  normalizeAvailabilityMetrics : Dict → Option Dict
  /-- `_calculate_deltas`, of the metrics and those of the baseline -/
  calculateDeltas : Dict → Dict → Option (List (String × PyFloat))
  /-- `_collect_signals`, of the metrics, the deltas, the compatibility and the thresholds -/
  collectSignals : Dict → List (String × PyFloat) → ResultStatus → Dict → Option (List Signal)
  averageDeltas : List ResultEntry → Option Json
  averageMetrics : List ResultEntry → Option Json
  latencyComparison : List ResultEntry → Option Json
  throughputComparison : List ResultEntry → Option Json
  clientCompatibility : List ResultEntry → Option Json
  failurePaths : List ResultEntry → Option Json
  byProtocol : List ResultEntry → Option Json

def countOf (results : List ResultEntry) (status : ResultStatus) : Nat :=
  results.countP fun result => result.status = status

def byStatus (results : List ResultEntry) : Dict :=
  resultStatuses.map fun status => (status.text, .int (countOf results status))

/-- `DEFAULT_THRESHOLDS`, as the doubles that the literals stand for. -/
def defaultThresholds : Dict :=
  [("warn_latency_delta_percent", .float (.ofRat 10)),
    ("fail_latency_delta_percent", .float (.ofRat 30)),
    ("warn_failure_rate", .float (.ofRat (1 / 100))),
    ("fail_failure_rate", .float (.ofRat (3 / 100))),
    ("warn_handshake_success_rate", .float (.ofRat (99 / 100))),
    ("fail_handshake_success_rate", .float (.ofRat (97 / 100))),
    ("warn_timeout_rate", .float (.ofRat (1 / 100))),
    ("fail_timeout_rate", .float (.ofRat (3 / 100))),
    ("warn_handshake_bytes_delta_percent", .float (.ofRat 50)),
    ("fail_handshake_bytes_delta_percent", .float (.ofRat 100)),
    ("warn_throughput_drop_percent", .float (.ofRat 10)),
    ("fail_throughput_drop_percent", .float (.ofRat 30))]

/-! ## 3. One result -/

def statusFromSignals (signals : List Signal) : ResultStatus :=
  if signals.any fun signal => signal.level = .fail then .fail
  else if signals.any fun signal => signal.level = .warn then .warn
  else .pass

def recommendationFor (status compatibilityStatus : ResultStatus) : String :=
  if compatibilityStatus = .error then "manual_review"
  else if status = .fail then "rollback_or_manual_review"
  else if status = .warn then "canary_more"
  else "proceed"

structure Evaluation where
  status : ResultStatus
  deltas : Dict
  recommendation : String
  signals : List Signal
  deriving DecidableEq, Repr

def evaluateAssetPerformance [PerformanceEngine] (metrics : Dict) (baselineMetrics : Option Dict)
    (compatibilityStatus : ResultStatus) (thresholds : Dict) : Option Evaluation := do
  let mergedThresholds := Dict.update defaultThresholds thresholds
  let metrics ← PerformanceEngine.normalizeAvailabilityMetrics metrics
  let baselineMetrics ← PerformanceEngine.normalizeAvailabilityMetrics (baselineMetrics.getD [])
  let deltas ← PerformanceEngine.calculateDeltas metrics baselineMetrics
  let signals ←
    PerformanceEngine.collectSignals metrics deltas compatibilityStatus mergedThresholds
  let status := statusFromSignals signals
  return {
    status
    deltas := deltas.map fun (key, delta) => (key, .float delta)
    recommendation := recommendationFor status compatibilityStatus
    signals }

/-! ## 4. The summary of a run -/

def overallStatus (results : List ResultEntry) : String :=
  if countOf results .error ≠ 0 then "ERROR"
  else if countOf results .fail ≠ 0 then "FAIL"
  else if countOf results .warn ≠ 0 then "WARN"
  else if countOf results .pass ≠ 0 then "PASS"
  else "PENDING"

def summarizeResults [PerformanceEngine] (results : List ResultEntry) : Option Dict := do
  let averageDeltas ← PerformanceEngine.averageDeltas results
  let averageMetrics ← PerformanceEngine.averageMetrics results
  let latencyComparison ← PerformanceEngine.latencyComparison results
  let throughputComparison ← PerformanceEngine.throughputComparison results
  let clientCompatibility ← PerformanceEngine.clientCompatibility results
  let failurePaths ← PerformanceEngine.failurePaths results
  let byProtocol ← PerformanceEngine.byProtocol results
  return [("total_results", .int ((resultStatuses.map (countOf results)).sum : Nat)),
    ("by_status", .dict (byStatus results)), ("average_deltas", averageDeltas),
    ("average_metrics", averageMetrics), ("latency_comparison", latencyComparison),
    ("throughput_comparison", throughputComparison),
    ("client_compatibility", clientCompatibility), ("failure_paths", failurePaths),
    ("by_protocol", byProtocol), ("overall_status", .str (overallStatus results))]

/-- The keys that `summarize_results` computes. -/
def summaryKeys : List String :=
  ["total_results", "by_status", "average_deltas", "average_metrics", "latency_comparison",
    "throughput_comparison", "client_compatibility", "failure_paths", "by_protocol",
    "overall_status"]

/-- A summary that is there names its keys and counts the results, whatever the engine computes. -/
theorem summarizeResults_spec [PerformanceEngine] {results : List ResultEntry} {summary : Dict}
    (h : summarizeResults results = some summary) :
    summary.map Prod.fst = summaryKeys ∧
      summary.lookup "total_results" =
        some (.int ((resultStatuses.map (countOf results)).sum : Nat)) ∧
      summary.lookup "by_status" = some (.dict (byStatus results)) := by
  simp only [summarizeResults, Option.bind_eq_bind, Option.bind_eq_some_iff] at h
  obtain ⟨_, _, _, _, _, _, _, _, _, _, _, _, _, _, h⟩ := h
  cases h
  exact ⟨rfl, rfl, rfl⟩

/-- Every result has one of the four statuses, so their counts add up to all results. -/
theorem sum_countOf (results : List ResultEntry) :
    (resultStatuses.map (countOf results)).sum = results.length := by
  induction results with
  | nil => rfl
  | cons result results ih =>
      have hcons : ∀ status, countOf (result :: results) status =
          countOf results status + if result.status = status then 1 else 0 := by
        intro status
        rw [countOf, List.countP_cons]
        simp only [decide_eq_true_eq]
        rfl
      rw [List.length_cons, ← ih]
      simp only [resultStatuses, List.map_cons, List.map_nil, List.sum_cons, List.sum_nil, hcons]
      cases result.status <;> simp <;> omega

end CryptoScanner.Performance
