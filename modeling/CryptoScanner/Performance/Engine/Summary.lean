import CryptoScanner.Library.Accumulate
import CryptoScanner.Performance.Engine.Evaluation
import Mathlib.Data.Char
import Mathlib.Data.List.Lex
import Mathlib.Data.List.Sort
import Mathlib.Data.Prod.Lex

/-!
# The summary of performance results

`summarize_results` counts the results by status, by protocol and by client profile, averages their
numbers and lists the paths on which they failed.  Every loop fills dictionaries in insertion order.
-/

namespace CryptoScanner.Performance.Engine

open Library Python

/-! ## 1. What is read of a result -/

/-- `value or {}`; reading a key of anything but a mapping raises. -/
def mapping (value : Json) : Except EngineError Dict :=
  match pyOr value (.dict []) with
  | .dict fields => .ok fields
  | _ => .error .attribute

def resultMetrics (result : Dict) : Except EngineError Dict := mapping (result.get "metrics")

def resultDeltas (result : Dict) : Except EngineError Dict := mapping (result.get "deltas")

/-- The status, if it is counted; lists and mappings have no hash. -/
def countedStatus (result : Dict) : Except EngineError (Option ResultStatus) :=
  match result.get "status" with
  | .str status => .ok (resultStatuses.find? fun known => known.text = status)
  | .list _ | .dict _ => .error .type
  | _ => .ok none

/-- `metrics.get("baseline_metrics")`, where it is a mapping. -/
def baselineOf (metrics : Dict) : Dict :=
  match metrics.get "baseline_metrics" with
  | .dict baseline => baseline
  -- what is no mapping stands for an empty baseline
  | _ => []

/-- The client checks of the metrics; a check that is no mapping has no `get`. -/
def resultChecks (metrics : Dict) : Except EngineError (List Dict) :=
  (clientCompatibilityChecks metrics).mapM fun check =>
    match check with
    | .dict fields => .ok fields
    | _ => .error .attribute

/-! ## 2. Counts -/

structure StatusCounts where
  pass : Nat
  warn : Nat
  fail : Nat
  error : Nat
  deriving DecidableEq, Repr

def statusCounts : StatusCounts := ⟨0, 0, 0, 0⟩

namespace StatusCounts

def get (counts : StatusCounts) : ResultStatus → Nat
  | .pass => counts.pass
  | .warn => counts.warn
  | .fail => counts.fail
  | .error => counts.error

def increment (counts : StatusCounts) : ResultStatus → StatusCounts
  | .pass => { counts with pass := counts.pass + 1 }
  | .warn => { counts with warn := counts.warn + 1 }
  | .fail => { counts with fail := counts.fail + 1 }
  | .error => { counts with error := counts.error + 1 }

def count (counts : StatusCounts) : Option ResultStatus → StatusCounts
  | some status => counts.increment status
  | none => counts

/-- `sum(counts.values())` -/
def total (counts : StatusCounts) : Nat :=
  counts.pass + counts.warn + counts.fail + counts.error

end StatusCounts

def overallStatus (counts : StatusCounts) : String :=
  if counts.error ≠ 0 then "ERROR"
  else if counts.fail ≠ 0 then "FAIL"
  else if counts.warn ≠ 0 then "WARN"
  else if counts.pass ≠ 0 then "PASS"
  else "PENDING"

section

variable [PyText] (floatRepr : PyFloat → List Char)

def textOrEmpty (value : Json) : List Char :=
  match value with
  | .null => []
  | value => strip (text floatRepr value)

def incrementCount (counts : List (List Char × Nat)) (value : Json) : List (List Char × Nat) :=
  let key := textOrEmpty floatRepr value
  if key = [] then counts
  else Library.Dict.set key ((Library.Dict.get? counts key).getD 0 + 1) counts

end

/-! ## 3. Averages -/

section

-- `round(sum(values) / len(values), digits)`; how a sum of floats is rounded is left open
variable (average : Nat → List Json → Except EngineError PyFloat)

def averageEntry (digits : Nat) (key : String) (values : List Json) :
    Except EngineError (List (String × PyFloat)) := do
  -- a key without numbers is left out
  if values = [] then return []
  return [(key, ← average digits values)]

/-- `isinstance(value, (int, float))`, which a boolean is. -/
def isNumber (value : Json) : Bool := value.number?.isSome

def deltaKeys (deltas : List Dict) : List String :=
  (deltas.flatMap fun entries => entries.map Prod.fst).dedup.insertionSort (· ≤ ·)

def averageDeltas (results : List Dict) : Except EngineError (List (String × PyFloat)) := do
  let deltas ← results.mapM resultDeltas
  let entries ← (deltaKeys deltas).mapM fun key =>
    averageEntry average 2 key ((deltas.map fun entries => entries.get key).filter isNumber)
  return entries.flatten

/-- The keys of `average_metrics`, which are also those of each protocol. -/
def averagedKeys : List String :=
  ["availability_success_rate", "handshake_success_rate", "negotiation_success_rate",
    "failure_rate", "timeout_rate"] ++ throughputSeries.map Prod.fst

def averageMetrics (results : List Dict) : Except EngineError (List (String × PyFloat)) := do
  let metrics ← results.mapM resultMetrics
  let entries ← averagedKeys.mapM fun key =>
    averageEntry average 4 key ((metrics.map fun fields => fields.get key).filter isNumber)
  return entries.flatten

structure Comparison where
  baseline : PyFloat
  candidate : PyFloat
  deltaPercent : Option PyFloat
  deriving DecidableEq, Repr

def bothNumbers : Option PyFloat × Option PyFloat → Option (PyFloat × PyFloat)
  | (some candidate, some baseline) => some (candidate, baseline)
  | _ => none

/-- The comparison of one series over all results, where some result has both numbers. -/
def compareSeries (read : Dict → Except EngineError (Option PyFloat)) (results : List Dict) :
    Except EngineError (Option Comparison) := do
  let pairs ← results.mapM fun result => do
    let metrics ← resultMetrics result
    let candidate ← read metrics
    let baseline ← read (baselineOf metrics)
    return (candidate, baseline)
  -- a result that lacks one of the two numbers counts in neither average
  let values := pairs.filterMap bothNumbers
  if values = [] then return none
  let candidate ← average 2 (values.map fun value => .float value.1)
  let baseline ← average 2 (values.map fun value => .float value.2)
  return some ⟨baseline, candidate, percentDelta (some candidate) (some baseline)⟩

def compareAll (read : String → Dict → Except EngineError (Option PyFloat)) (names : List String)
    (results : List Dict) : Except EngineError (List (String × Comparison)) := do
  let entries ← names.mapM fun series => do
    let comparison ← compareSeries average (read series) results
    return (comparison.map fun comparison => (series, comparison)).toList
  return entries.flatten

def summarizeLatencyComparison (results : List Dict) :
    Except EngineError (List (String × Comparison)) :=
  compareAll average (fun series metrics => metricValue metrics series "p95")
    (latencySeries.map Prod.fst) results

def summarizeThroughputComparison (results : List Dict) :
    Except EngineError (List (String × Comparison)) :=
  compareAll average (fun series metrics => number (metrics.get series))
    (throughputSeries.map Prod.fst) results

end

/-! ## 4. Client compatibility -/

structure ProfileSummary where
  totalChecks : Nat
  byStatus : StatusCounts
  responseCodes : List (List Char × Nat)
  failureReasons : List (List Char × Nat)
  overallStatus : String
  deriving DecidableEq, Repr

structure ClientSummary where
  totalChecks : Nat
  byStatus : StatusCounts
  byProfile : List (List Char × ProfileSummary)
  overallStatus : String
  deriving DecidableEq, Repr

section

variable [PyText] (floatRepr : PyFloat → List Char)

def profileOf (check : Dict) : List Char :=
  text floatRepr (pyOr (check.get "profile") (.str "unknown"))

def newProfile : ProfileSummary := ⟨0, statusCounts, [], [], "PENDING"⟩

def countProfileCheck (profile : ProfileSummary) (check : Dict) : ProfileSummary where
  totalChecks := profile.totalChecks + 1
  byStatus := profile.byStatus.increment (statusOfCheck floatRepr check)
  responseCodes := incrementCount floatRepr profile.responseCodes (check.get "response_code")
  failureReasons := incrementCount floatRepr profile.failureReasons (check.get "failure_reason")
  overallStatus := profile.overallStatus

def countCheck (summary : ClientSummary) (check : Dict) : ClientSummary where
  totalChecks := summary.totalChecks + 1
  byStatus := summary.byStatus.increment (statusOfCheck floatRepr check)
  byProfile := Library.Dict.accumulateStep (profileOf floatRepr) (fun _ => newProfile)
    (countProfileCheck floatRepr) summary.byProfile check
  overallStatus := summary.overallStatus

def ProfileSummary.settle (profile : ProfileSummary) : ProfileSummary :=
  { profile with overallStatus := Engine.overallStatus profile.byStatus }

def summarizeClientCompatibility (results : List Dict) : Except EngineError ClientSummary := do
  let checks ← results.mapM fun result => do resultChecks (← resultMetrics result)
  let summary := checks.flatten.foldl (countCheck floatRepr) ⟨0, statusCounts, [], "PENDING"⟩
  return { summary with
    byProfile := summary.byProfile.map fun (profile, counts) => (profile, counts.settle)
    overallStatus := overallStatus summary.byStatus }

end

/-! ## 5. Protocols -/

structure ProtocolEntry where
  totalResults : Nat
  byStatus : StatusCounts
  metrics : List (String × List Json)
  responseCodes : List (List Char × Nat)
  failureReasons : List (List Char × Nat)

structure ProtocolSummary where
  totalResults : Nat
  byStatus : StatusCounts
  averageMetrics : List (String × PyFloat)
  responseCodes : List (List Char × Nat)
  failureReasons : List (List Char × Nat)
  deriving DecidableEq, Repr

/-- `isinstance(value, (int, float)) and not isinstance(value, bool)` -/
def isProperNumber : Json → Bool
  | .int _ | .float _ => true
  | _ => false

def newProtocol : ProtocolEntry := ⟨0, statusCounts, averagedKeys.map fun key => (key, []), [], []⟩

/-- The values of the metrics, with one more where it is a number. -/
def addValues (values : List (String × List Json)) (metrics : Dict) : List (String × List Json) :=
  values.map fun (key, values) =>
    (key, if isProperNumber (metrics.get key) then values ++ [metrics.get key] else values)

section

variable [PyText] (floatRepr : PyFloat → List Char)

def protocolOf (metrics : Dict) (fallback : Json) : List Char :=
  upper (text floatRepr (pyOr (metrics.get "protocol") fallback))

/-- One turn of the loop over the results, with the counted status and the metrics. -/
def countResult (entry : ProtocolEntry) (row : Option ResultStatus × Dict) : ProtocolEntry where
  totalResults := entry.totalResults + 1
  byStatus := entry.byStatus.count row.1
  metrics := addValues entry.metrics row.2
  responseCodes := incrementCount floatRepr entry.responseCodes (row.2.get "response_code")
  failureReasons := incrementCount floatRepr entry.failureReasons (row.2.get "failure_reason")

def protocolRow (result : Dict) : Except EngineError (Option ResultStatus × Dict) := do
  let metrics ← resultMetrics result
  let status ← countedStatus result
  return (status, metrics)

def collectProtocols (rows : List (Option ResultStatus × Dict)) :
    List (List Char × ProtocolEntry) :=
  Library.Dict.accumulate (fun row => protocolOf floatRepr row.2 (.str "UNKNOWN"))
    (fun _ => newProtocol) (countResult floatRepr) rows

variable (average : Nat → List Json → Except EngineError PyFloat)

omit [PyText] in
def ProtocolEntry.summary (entry : ProtocolEntry) : Except EngineError ProtocolSummary := do
  let averages ← entry.metrics.mapM fun (key, values) => averageEntry average 4 key values
  return {
    totalResults := entry.totalResults
    byStatus := entry.byStatus
    averageMetrics := averages.flatten
    responseCodes := entry.responseCodes
    failureReasons := entry.failureReasons }

def summarizeByProtocol (results : List Dict) :
    Except EngineError (List (List Char × ProtocolSummary)) := do
  let rows ← results.mapM protocolRow
  (collectProtocols floatRepr rows).mapM fun (protocol, entry) => do
    return (protocol, ← entry.summary average)

end

/-! ## 6. Failure paths -/

structure PathKey where
  protocol : List Char
  clientProfile : List Char
  responseCode : List Char
  failureReason : List Char
  deriving DecidableEq, Repr

/-- The arguments of `_add_failure_path`. -/
structure Failure where
  key : PathKey
  status : ResultStatus
  assetRef : List Char
  deriving DecidableEq, Repr

/-- An entry of the failure paths; the references to assets are a set until they are sorted. -/
structure FailurePath where
  key : PathKey
  count : Nat
  assetRefs : List (List Char)
  status : ResultStatus
  deriving DecidableEq, Repr

def newPath (failure : Failure) : FailurePath := ⟨failure.key, 0, [], failure.status⟩

/-- The update of the entry in `_add_failure_path`. -/
def countFailure (path : FailurePath) (failure : Failure) : FailurePath where
  key := path.key
  count := path.count + 1
  assetRefs :=
    if failure.assetRef ∈ path.assetRefs then path.assetRefs
    else path.assetRefs ++ [failure.assetRef]
  -- the worst status stays
  status :=
    if statusRank path.status < statusRank failure.status then failure.status else path.status

/-- `_add_failure_path`, for every failure -/
def collectPaths (failures : List Failure) : List (PathKey × FailurePath) :=
  Library.Dict.accumulate Failure.key newPath countFailure failures

/-- The key by which the failure paths are sorted; codes and reasons have no part in it. -/
def sortKey (path : FailurePath) : ℤ ×ₗ ℤ ×ₗ List Char ×ₗ List Char :=
  toLex (-(statusRank path.status : ℤ),
    toLex (-(path.count : ℤ), toLex (path.key.protocol, path.key.clientProfile)))

/-- `{**path, "asset_refs": sorted(path["asset_refs"])}` -/
def FailurePath.settle (path : FailurePath) : FailurePath :=
  { path with assetRefs := path.assetRefs.insertionSort (· ≤ ·) }

def normalizedPaths (failures : List Failure) : List FailurePath :=
  (collectPaths failures).map fun (_, path) => path.settle

def sortedPaths (failures : List Failure) : List FailurePath :=
  (normalizedPaths failures).insertionSort fun path other => sortKey path ≤ sortKey other

section

variable [PyText] (floatRepr : PyFloat → List Char)

def isFailing (status : ResultStatus) : Bool := status ≠ .pass

/-- The failure of a result itself, unless it is one of its clients. -/
def resultFailure (result metrics : Dict) (checks : List Dict) (protocol assetRef : List Char) :
    List Failure :=
  let status := normalizeResultStatus floatRepr (result.get "status") .error
  let failureReason :=
    textOrEmpty floatRepr (pyOr (metrics.get "failure_reason") (result.get "failure_reason"))
  let responseCode :=
    textOrEmpty floatRepr (pyOr (metrics.get "response_code") (result.get "response_code"))
  -- a reason that names a client is left to the failures of the checks
  let hasClientFailures := checks.any fun check => isFailing (statusOfCheck floatRepr check)
  if (isFailing status ∨ failureReason ≠ []) ∧
      ¬(hasClientFailures ∧ "client_".toList <+: failureReason) then
    [{ key := {
        protocol
        clientProfile := []
        responseCode
        failureReason := if failureReason = [] then lower status.text.toList else failureReason }
       status
       assetRef }]
  else []

def checkFailure (protocol assetRef : List Char) (check : Dict) : List Failure :=
  let status := statusOfCheck floatRepr check
  let failureReason := textOrEmpty floatRepr (check.get "failure_reason")
  if isFailing status then
    [{ key := {
        protocol
        clientProfile := text floatRepr (pyOr (check.get "profile") (.str ""))
        responseCode := textOrEmpty floatRepr (check.get "response_code")
        failureReason := if failureReason = [] then lower status.text.toList else failureReason }
       status
       assetRef }]
  else []

/-- The failures of one result, in the order in which they are added. -/
def resultFailures (result : Dict) : Except EngineError (List Failure) := do
  let metrics ← resultMetrics result
  let checks ← resultChecks metrics
  let protocol := protocolOf floatRepr metrics (pyOr (result.get "protocol") (.str "UNKNOWN"))
  let assetRef :=
    text floatRepr (pyOr (result.get "bom_ref") (pyOr (metrics.get "bom_ref") (.str "-")))
  return resultFailure floatRepr result metrics checks protocol assetRef ++
    checks.flatMap (checkFailure floatRepr protocol assetRef)

def summarizeFailurePaths (results : List Dict) : Except EngineError (List FailurePath) := do
  let failures ← results.mapM (resultFailures floatRepr)
  return sortedPaths failures.flatten

end

/-! ## 7. The summary -/

structure Summary where
  totalResults : Nat
  byStatus : StatusCounts
  averageDeltas : List (String × PyFloat)
  averageMetrics : List (String × PyFloat)
  latencyComparison : List (String × Comparison)
  throughputComparison : List (String × Comparison)
  clientCompatibility : ClientSummary
  failurePaths : List FailurePath
  byProtocol : List (List Char × ProtocolSummary)
  overallStatus : String
  deriving DecidableEq, Repr

def summarizeResults [PyText] (floatRepr : PyFloat → List Char)
    (average : Nat → List Json → Except EngineError PyFloat) (results : List Dict) :
    Except EngineError Summary := do
  -- the parts are in the order in which they may raise
  let statuses ← results.mapM countedStatus
  let counts := statuses.foldl StatusCounts.count statusCounts
  let averageDeltas ← averageDeltas average results
  let averageMetrics ← averageMetrics average results
  let latencyComparison ← summarizeLatencyComparison average results
  let throughputComparison ← summarizeThroughputComparison average results
  let clientCompatibility ← summarizeClientCompatibility floatRepr results
  let failurePaths ← summarizeFailurePaths floatRepr results
  let byProtocol ← summarizeByProtocol floatRepr average results
  return {
    totalResults := counts.total
    byStatus := counts
    averageDeltas
    averageMetrics
    latencyComparison
    throughputComparison
    clientCompatibility
    failurePaths
    byProtocol
    overallStatus := overallStatus counts }

/-! ## 8. What the services import -/

/-- The row that `refresh_run_summary` makes of a result. -/
def rowOf (entry : ResultEntry) : Dict :=
  [("status", .str entry.status.text), ("deltas", .dict entry.deltas),
    ("metrics", .dict entry.metrics), ("bom_ref", .str (String.ofList entry.bomRef))]

def floatsJson (entries : List (String × PyFloat)) : Json :=
  .dict (entries.map fun (key, value) => (key, .float value))

def countsJson (counts : List (List Char × Nat)) : Json :=
  .dict (counts.map fun (key, count) => (String.ofList key, .int count))

def StatusCounts.toJson (counts : StatusCounts) : Json :=
  .dict (resultStatuses.map fun status => (status.text, .int (counts.get status)))

/-- An entry of a comparison, whose numbers end in `suffix`. -/
def Comparison.toJson (suffix : String) (comparison : Comparison) : Json :=
  .dict [("baseline_" ++ suffix, .float comparison.baseline),
    ("candidate_" ++ suffix, .float comparison.candidate),
    ("delta_percent", (comparison.deltaPercent.map Json.float).getD .null)]

def ProfileSummary.toJson (profile : ProfileSummary) : Json :=
  .dict [("total_checks", .int profile.totalChecks), ("by_status", profile.byStatus.toJson),
    ("response_codes", countsJson profile.responseCodes),
    ("failure_reasons", countsJson profile.failureReasons),
    ("overall_status", .str profile.overallStatus)]

def ClientSummary.toJson (summary : ClientSummary) : Json :=
  .dict [("total_checks", .int summary.totalChecks), ("by_status", summary.byStatus.toJson),
    ("by_profile", .dict (summary.byProfile.map fun (profile, counts) =>
      (String.ofList profile, counts.toJson))),
    ("overall_status", .str summary.overallStatus)]

def FailurePath.toJson (path : FailurePath) : Json :=
  .dict [("protocol", .str (String.ofList path.key.protocol)),
    ("client_profile", .str (String.ofList path.key.clientProfile)),
    ("response_code", .str (String.ofList path.key.responseCode)),
    ("failure_reason", .str (String.ofList path.key.failureReason)), ("count", .int path.count),
    ("asset_refs", .list (path.assetRefs.map fun ref => .str (String.ofList ref))),
    ("status", .str path.status.text)]

def ProtocolSummary.toJson (summary : ProtocolSummary) : Json :=
  .dict [("total_results", .int summary.totalResults), ("by_status", summary.byStatus.toJson),
    ("average_metrics", floatsJson summary.averageMetrics),
    ("response_codes", countsJson summary.responseCodes),
    ("failure_reasons", countsJson summary.failureReasons)]

def comparisonsJson (suffix : String) (comparisons : List (String × Comparison)) : Json :=
  .dict (comparisons.map fun (series, comparison) => (series, comparison.toJson suffix))

def protocolsJson (protocols : List (List Char × ProtocolSummary)) : Json :=
  .dict (protocols.map fun (protocol, summary) => (String.ofList protocol, summary.toJson))

section

variable [PyText] (floatRepr : PyFloat → List Char)
  (average : Nat → List Json → Except EngineError PyFloat)

/-- The functions of `engine.py`, on what the services hand to them. -/
@[reducible] def engineFunctions : PerformanceEngine where
  normalizeAvailabilityMetrics metrics :=
    (normalizeAvailabilityMetrics floatRepr (some metrics)).toOption
  calculateDeltas metrics baselineMetrics := (calculateDeltas metrics baselineMetrics).toOption
  collectSignals metrics deltas compatibilityStatus thresholds :=
    (collectSignals floatRepr metrics deltas compatibilityStatus thresholds).toOption
  averageDeltas results := (averageDeltas average (results.map rowOf)).toOption.map floatsJson
  averageMetrics results := (averageMetrics average (results.map rowOf)).toOption.map floatsJson
  latencyComparison results :=
    (summarizeLatencyComparison average (results.map rowOf)).toOption.map (comparisonsJson "p95")
  throughputComparison results :=
    (summarizeThroughputComparison average (results.map rowOf)).toOption.map
      (comparisonsJson "value")
  clientCompatibility results :=
    (summarizeClientCompatibility floatRepr (results.map rowOf)).toOption.map ClientSummary.toJson
  failurePaths results :=
    (summarizeFailurePaths floatRepr (results.map rowOf)).toOption.map fun paths =>
      .list (paths.map FailurePath.toJson)
  byProtocol results :=
    (summarizeByProtocol floatRepr average (results.map rowOf)).toOption.map protocolsJson

/-- The services evaluate a result with the engine. -/
theorem evaluateAssetPerformance_engine (metrics : Dict) (baselineMetrics : Option Dict)
    (compatibilityStatus : ResultStatus) (thresholds : Dict) :
    @Performance.evaluateAssetPerformance (engineFunctions floatRepr average) metrics
        baselineMetrics compatibilityStatus thresholds =
      (evaluateAssetPerformance floatRepr metrics baselineMetrics compatibilityStatus
        (some thresholds)).toOption := by
  unfold Performance.evaluateAssetPerformance evaluateAssetPerformance
  simp only [toOption_bind, Option.bind_eq_bind]
  rfl

end

/-- The engine on results that have no numbers, so that it takes no average. -/
@[reducible] def numberlessEngine : PerformanceEngine :=
  letI := asciiText
  engineFunctions (fun _ => []) fun _ _ => .ok zero

end CryptoScanner.Performance.Engine
