import CryptoScanner.Library.Fallible
import CryptoScanner.Performance.Results
import CryptoScanner.Python.Float

/-!
# Normalising the metrics of a performance result

`normalize_availability_metrics` cleans the texts and the client checks of a map of metrics, and
derives rates from the counts of handshakes.  What it derives it reads again the next time.
-/

namespace CryptoScanner.Performance.Engine

open Library Python

/-! ## 1. Numbers -/

/-- The exceptions that the engine can raise: an integer is too large for a float, values are compared
that have no order, or a client check is no mapping. -/
inductive EngineError
  | overflow
  | type
  | attribute
  deriving DecidableEq, Repr

def pyOr (a b : Json) : Json := if a.truthy then a else b

/-- `_number`; a boolean is no number here. -/
def number : Json → Except EngineError (Option PyFloat)
  | .int n => if Oversized n then .error .overflow else .ok (some (.ofRat n))
  | .float x => .ok (some x)
  | _ => .ok none

def zero : PyFloat := .finite 0

def one : PyFloat := .finite 1

/-- `_clamp_rate`; `min` and `max` keep the bound where the other is not beyond it. -/
def clampRate (value : PyFloat) : PyFloat :=
  let low := if value.lt one then value else one
  if zero.lt low then low else zero

def numberOr (metrics : Dict) (key other : String) : Except EngineError (Option PyFloat) := do
  match ← number (metrics.get key) with
  | some value => if value = zero then number (metrics.get other) else return some value
  | none => number (metrics.get other)

def totalJson (total : PyFloat) : Json :=
  match total with
  | .finite q => if q.den = 1 then .int q.num else .float (.finite q)
  | total => .float total

section

variable [PyText] (floatRepr : PyFloat → List Char)

/-! ## 2. Texts and client checks -/

def text (value : Json) : List Char := value.pyStr floatRepr

def successRateKey (metrics : Dict) : String :=
  if upper (text floatRepr (pyOr (metrics.get "protocol") (.str ""))) = "IKE".toList then
    "negotiation_success_rate"
  else "handshake_success_rate"

def normalizeTextMetric (key : String) (metrics : Dict) : Dict :=
  match metrics.get key with
  | .null => metrics
  | value =>
      let normalized := strip (text floatRepr value)
      if normalized ≠ [] then Library.Dict.set key (.str (String.ofList normalized)) metrics
      else Library.Dict.pop key metrics

def statusNames : List (List Char × ResultStatus) :=
  [("PASS".toList, .pass), ("WARN".toList, .warn), ("FAIL".toList, .fail), ("ERROR".toList, .error),
    ("OK".toList, .pass), ("SUCCESS".toList, .pass), ("PASSED".toList, .pass),
    ("PARTIAL".toList, .warn), ("FAILED".toList, .fail), ("UNREACHABLE".toList, .fail)]

def statusRank : ResultStatus → Nat
  | .pass => 0
  | .warn => 1
  | .fail => 2
  | .error => 3

def normalizeResultStatus (value : Json) (default : ResultStatus) : ResultStatus :=
  (statusNames.lookup (upper (strip (text floatRepr (pyOr value (.str default.text)))))).getD default

def rawChecks : Json → List Json
  | .dict entries => entries.map fun (profile, raw) =>
      match raw with
      | .dict fields =>
          .dict (Library.Dict.set "profile" (pyOr (Dict.get fields "profile") (.str profile)) fields)
      | raw => .dict [("profile", .str profile), ("status", raw)]
  | .list raws => raws
  | _ => []

def checkProfile (fields : Dict) : List Char :=
  strip (text floatRepr (pyOr (fields.get "profile") (pyOr (fields.get "client_profile")
    (pyOr (fields.get "name") (.str "")))))

/-- The status of a check, which `success` gives where neither status is there. -/
def checkStatus (fields : Dict) : ResultStatus :=
  let status := normalizeResultStatus floatRepr
    (pyOr (fields.get "status") (fields.get "compatibility_status")) .pass
  if fields.get "status" = .null ∧ fields.get "compatibility_status" = .null then
    match fields.get "success" with
    | .bool success => if success then .pass else .fail
    | _ => status
  else status

/-- One turn of the loop over the checks, with the fields of the check. -/
def normalizeCheck : Json → Option Dict
  | .dict fields =>
      let profile := checkProfile floatRepr fields
      if profile = [] then none
      else
        let check := Library.Dict.set "status" (.str (checkStatus floatRepr fields).text)
          (Library.Dict.set "profile" (.str (String.ofList profile)) fields)
        some (normalizeTextMetric floatRepr "failure_reason"
          (normalizeTextMetric floatRepr "response_code" check))
  | _ => none

def normalizeClientCompatibility (value : Json) : List Dict :=
  (rawChecks value).filterMap (normalizeCheck floatRepr)

def upperProtocol (metrics : Dict) : Dict :=
  if (metrics.get "protocol").truthy then
    Library.Dict.set "protocol"
      (.str (String.ofList (upper (text floatRepr (metrics.get "protocol"))))) metrics
  else metrics

def setClientChecks (checks : List Dict) (metrics : Dict) : Dict :=
  if checks = [] then Library.Dict.pop "client_compatibility" metrics
  else Library.Dict.set "client_compatibility" (.list (checks.map .dict)) metrics

/-- The first part of `normalize_availability_metrics`: texts and client checks. -/
def normalizeTexts (metrics : Dict) : Dict :=
  let metrics := upperProtocol floatRepr metrics
  let metrics := normalizeTextMetric floatRepr "response_code" metrics
  let metrics := normalizeTextMetric floatRepr "failure_reason" metrics
  setClientChecks
    (normalizeClientCompatibility floatRepr (metrics.get "client_compatibility")) metrics

end

/-! ## 3. Rates -/

structure CountKeys where
  successful : String
  failed : String
  total : String
  attempted : String
  deriving DecidableEq

def handshakeKeys : CountKeys :=
  ⟨"successful_handshakes", "failed_handshakes", "total_handshakes", "attempted_handshakes"⟩

/-- The keys of IKE, which are read where no successful handshakes are counted. -/
def negotiationKeys : CountKeys :=
  ⟨"successful_negotiations", "failed_negotiations", "total_negotiations",
    "attempted_negotiations"⟩

structure Counts where
  success : Option PyFloat
  failed : Option PyFloat
  total : Option PyFloat

def readCounts (metrics : Dict) (keys : CountKeys) : Except EngineError Counts := do
  let success ← number (metrics.get keys.successful)
  let failed ← number (metrics.get keys.failed)
  let total ← numberOr metrics keys.total keys.attempted
  return ⟨success, failed, total⟩

def Counts.rate (counts : Counts) : Option (PyFloat × PyFloat) :=
  match counts.success with
  | none => none
  | some success =>
      let total := counts.total.getD (success.add (counts.failed.getD zero))
      if zero.lt total then some (success, total) else none

def countedRate (metrics : Dict) : Except EngineError (Option (PyFloat × PyFloat)) := do
  let handshakes ← readCounts metrics handshakeKeys
  if handshakes.success = none then
    let negotiations ← readCounts metrics negotiationKeys
    return negotiations.rate
  else return handshakes.rate

def totalKey (successKey : String) : String :=
  if successKey = "negotiation_success_rate" then negotiationKeys.total else handshakeKeys.total

/-- The rates of counted successes replace those that are given, but for the failure rate. -/
def setCountedRate (successKey : String) (success total : PyFloat) (metrics : Dict) : Dict :=
  let successRate := clampRate (success.div total)
  let rounded := Json.float (successRate.round 4)
  let metrics := Library.Dict.set successKey rounded metrics
  let metrics := Library.Dict.set "availability_success_rate" rounded metrics
  let metrics := Library.Dict.setdefault "failure_rate"
    (.float ((clampRate (one.sub successRate)).round 4)) metrics
  Library.Dict.setdefault (totalKey successKey) (totalJson total) metrics

def deriveRates (successKey : String) (metrics : Dict) : Except EngineError Dict := do
  if (metrics.lookup "availability_success_rate").isSome then
    return Library.Dict.setdefault successKey (metrics.get "availability_success_rate") metrics
  match ← number (metrics.get "failure_rate") with
  | some failureRate =>
      let successRate := Json.float ((clampRate (one.sub failureRate)).round 4)
      return Library.Dict.setdefault successKey successRate
        (Library.Dict.set "availability_success_rate" successRate metrics)
  | none =>
      match ← number (metrics.get successKey) with
      | some directSuccessRate =>
          return Library.Dict.set "availability_success_rate"
            (.float ((clampRate directSuccessRate).round 4)) metrics
      | none => return metrics

section

variable [PyText] (floatRepr : PyFloat → List Char)

/-- The rest of `normalize_availability_metrics`. -/
def normalizeRates (metrics : Dict) : Except EngineError Dict := do
  let successKey := successRateKey floatRepr metrics
  match ← countedRate metrics with
  | some (success, total) => return setCountedRate successKey success total metrics
  | none => deriveRates successKey metrics

def normalizeAvailabilityMetrics (metrics : Option Dict) : Except EngineError Dict :=
  normalizeRates floatRepr (normalizeTexts floatRepr (metrics.getD []))

end

end CryptoScanner.Performance.Engine
