import CryptoScanner.Performance.Engine.Renormalization

/-!
# The evaluation of a performance result

`evaluate_asset_performance` compares the metrics with those of the baseline, tests every rate and
every delta against two thresholds, and takes the worst signal.
-/

namespace CryptoScanner.Performance.Engine

open Library Python

/-! ## 1. Deltas -/

/-- `LATENCY_SERIES`, each with the key of its delta. -/
def latencySeries : List (String × String) :=
  [("tcp_connect_ms", "tcp_connect_p95_percent"), ("handshake_ms", "handshake_p95_percent"),
    ("ttfb_ms", "ttfb_p95_percent"), ("total_request_ms", "total_request_p95_percent")]

/-- `THROUGHPUT_SERIES`, each with the key of its delta. -/
def throughputSeries : List (String × String) :=
  [("throughput_rps", "throughput_rps_percent"),
    ("requests_per_second", "requests_per_second_percent"),
    ("connections_per_second", "connections_per_second_percent")]

/-- The percentile of a series, or the number that stands in its place. -/
def seriesValue (metrics : Dict) (series percentile : String) : Json :=
  match metrics.get series with
  | .dict percentiles => Dict.get percentiles percentile
  | value => value

def metricValue (metrics : Dict) (series percentile : String) :
    Except EngineError (Option PyFloat) :=
  number (seriesValue metrics series percentile)

def handshakeBytes (metrics : Dict) : Except EngineError (Option PyFloat) := do
  let sent ← number (metrics.get "handshake_bytes_sent")
  let received ← number (metrics.get "handshake_bytes_received")
  if sent = none ∧ received = none then return none
  return some ((sent.getD zero).add (received.getD zero))

def percentDelta (candidate baseline : Option PyFloat) : Option PyFloat := do
  let candidate ← candidate
  let baseline ← baseline
  -- no percentage of a baseline that is not positive
  if baseline.le zero then none
  else some ((((candidate.sub baseline).div baseline).scale 100).round 2)

def deltaEntry (key : String) (candidate baseline : Except EngineError (Option PyFloat)) :
    Except EngineError (List (String × PyFloat)) := do
  let candidate ← candidate
  let baseline ← baseline
  return ((percentDelta candidate baseline).map fun delta => (key, delta)).toList

def calculateDeltas (metrics baselineMetrics : Dict) :
    Except EngineError (List (String × PyFloat)) := do
  let latency ← latencySeries.mapM fun (series, key) =>
    deltaEntry key (metricValue metrics series "p95") (metricValue baselineMetrics series "p95")
  let throughput ← throughputSeries.mapM fun (series, key) =>
    deltaEntry key (number (metrics.get series)) (number (baselineMetrics.get series))
  let bytes ← deltaEntry "handshake_bytes_percent" (handshakeBytes metrics)
    (handshakeBytes baselineMetrics)
  return latency.flatten ++ throughput.flatten ++ bytes

/-! ## 2. Signals -/

/-- A comparison with a threshold, which must be a number of some kind. -/
def against (threshold : Json) (test : PyFloat → Bool) : Except EngineError Bool :=
  match threshold.number? with
  | some bound => .ok (test bound)
  | none => .error .type

def isAbove (value : PyFloat) (threshold : Json) : Except EngineError Bool :=
  against threshold fun bound => bound.lt value

def isBelow (value : PyFloat) (threshold : Json) : Except EngineError Bool :=
  against threshold value.lt

def isDropBelow (value : PyFloat) (threshold : Json) : Except EngineError Bool :=
  against threshold fun bound => value.lt bound.neg

/-- The test against two thresholds, of which the one for failing comes first. -/
def levelSignals (beyond : Json → Except EngineError Bool) (warn fail : Json)
    (signal : SignalLevel → Signal) : Except EngineError (List Signal) := do
  if ← beyond fail then return [signal .fail]
  if ← beyond warn then return [signal .warn]
  return []

def SignalLevel.text : SignalLevel → String
  | .warn => "warn"
  | .fail => "fail"

def thresholdSignal (key side : String) (value : PyFloat) (level : SignalLevel) : Signal where
  level := level
  reason := s!"{key}_{side}_{SignalLevel.text level}_threshold"
  value := some value

def appendRateSignal (key : String) (value : PyFloat) (warn fail : Json) :
    Except EngineError (List Signal) :=
  levelSignals (isAbove value) warn fail (thresholdSignal key "above" value)

def appendMinRateSignal (key : String) (value : PyFloat) (warn fail : Json) :
    Except EngineError (List Signal) :=
  levelSignals (isBelow value) warn fail (thresholdSignal key "below" value)

def deltaSignals (thresholds : Dict) (entry : String × PyFloat) :
    Except EngineError (List Signal) :=
  let (key, delta) := entry
  -- only a throughput is worse when it is lower
  if key ∈ throughputSeries.map Prod.snd then
    levelSignals (isDropBelow delta) (thresholds.get "warn_throughput_drop_percent")
      (thresholds.get "fail_throughput_drop_percent") (thresholdSignal key "below" delta)
  else if key = "handshake_bytes_percent" then
    appendRateSignal key delta (thresholds.get "warn_handshake_bytes_delta_percent")
      (thresholds.get "fail_handshake_bytes_delta_percent")
  else
    appendRateSignal key delta (thresholds.get "warn_latency_delta_percent")
      (thresholds.get "fail_latency_delta_percent")

def compatibilitySignals (compatibilityStatus : ResultStatus) : List Signal :=
  match compatibilityStatus with
  | .fail | .error => [{ level := .fail, reason := "compatibility_failed" }]
  | .warn => [{ level := .warn, reason := "compatibility_warning" }]
  | .pass => []

section

variable [PyText] (floatRepr : PyFloat → List Char)

def isAlnum (c : Char) : Bool := PyText.isWord c && c ≠ '_'

def reasonToken (value : List Char) : List Char :=
  let token := trim (· == '_') (value.flatMap fun c => if isAlnum c then lower [c] else ['_'])
  if token = [] then "unknown".toList else token

def clientCompatibilityChecks (metrics : Dict) : List Json :=
  match metrics.get "client_compatibility" with
  | .list checks => checks
  | _ => []

/-- The status of a check that has been normalised; a check that is no mapping has no `get`. -/
def statusOfCheck (fields : Dict) : ResultStatus :=
  normalizeResultStatus floatRepr (fields.get "status") .error

def checkSignals (check : Json) : Except EngineError (List Signal) :=
  match check with
  | .dict fields =>
      let profile := String.ofList
        (reasonToken (text floatRepr (pyOr (Dict.get fields "profile") (.str "unknown"))))
      match statusOfCheck floatRepr fields with
      | .fail | .error =>
          .ok [{ level := .fail, reason := s!"client_{profile}_compatibility_failed" }]
      | .warn => .ok [{ level := .warn, reason := s!"client_{profile}_compatibility_warning" }]
      | .pass => .ok []
  | _ => .error .attribute

/-- The success rate of the protocol, or else the availability, with its key. -/
def successMetric (metrics : Dict) : Except EngineError (Option (String × PyFloat)) := do
  let key := successRateKey floatRepr metrics
  match ← number (metrics.get key) with
  | some rate => return some (key, rate)
  | none =>
      let rate ← number (metrics.get "availability_success_rate")
      return rate.map fun rate => ("availability_success_rate", rate)

def successSignals (metrics thresholds : Dict) : Except EngineError (List Signal) := do
  match ← successMetric floatRepr metrics with
  | none => return []
  | some (key, rate) =>
      appendMinRateSignal key rate (thresholds.get "warn_handshake_success_rate")
        (thresholds.get "fail_handshake_success_rate")

def collectSignals (metrics : Dict) (deltas : List (String × PyFloat))
    (compatibilityStatus : ResultStatus) (thresholds : Dict) :
    Except EngineError (List Signal) := do
  let failureRate ← number (metrics.get "failure_rate")
  let timeoutRate ← number (metrics.get "timeout_rate")
  let success ← successSignals floatRepr metrics thresholds
  let failure ← appendRateSignal "failure_rate" (failureRate.getD zero)
    (thresholds.get "warn_failure_rate") (thresholds.get "fail_failure_rate")
  let timeout ← appendRateSignal "timeout_rate" (timeoutRate.getD zero)
    (thresholds.get "warn_timeout_rate") (thresholds.get "fail_timeout_rate")
  let checks ← (clientCompatibilityChecks metrics).mapM (checkSignals floatRepr)
  let deltas ← deltas.mapM (deltaSignals thresholds)
  return compatibilitySignals compatibilityStatus ++ success ++ failure ++ timeout ++
    checks.flatten ++ deltas.flatten

def evaluateAssetPerformance (metrics : Dict) (baselineMetrics : Option Dict)
    (compatibilityStatus : ResultStatus) (thresholds : Option Dict) :
    Except EngineError Evaluation := do
  let mergedThresholds := Library.Dict.update defaultThresholds (thresholds.getD [])
  let metrics ← normalizeAvailabilityMetrics floatRepr (some metrics)
  let baselineMetrics ← normalizeAvailabilityMetrics floatRepr baselineMetrics
  let deltas ← calculateDeltas metrics baselineMetrics
  let signals ← collectSignals floatRepr metrics deltas compatibilityStatus mergedThresholds
  let status := statusFromSignals signals
  return {
    status
    deltas := deltas.map fun (key, delta) => (key, .float delta)
    recommendation := recommendationFor status compatibilityStatus
    signals }

end

end CryptoScanner.Performance.Engine
