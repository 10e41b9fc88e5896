import CryptoScanner.AgentDiscovery.Registry
import CryptoScanner.Performance.Engine.Evaluation
import CryptoScanner.Performance.Runner
import CryptoScanner.Scan.TlsScan

/-!
# Measuring a target

`measure_target` probes a target a few times and puts the answers together.  The probes themselves are
a parameter: each returns its metrics or raises.
-/

namespace CryptoScanner.Performance

open Library Python Engine

/-! ## 1. Failures -/

structure ProbeException where
  /-- `str(exc)` -/
  message : List Char
  /-- `exc.__class__.__name__` -/
  className : List Char
  /-- The code of a `ProbeError`. -/
  responseCode : Option (List Char) := none
  gaierror : Bool := false
  timeoutType : Bool := false
  refused : Bool := false
  sslError : Bool := false
  deriving DecidableEq, Repr

section

variable [PyText]

def isTimeout (exc : ProbeException) : Bool :=
  exc.timeoutType || decide (Has "timed out" (lower exc.message))

def errorCode (exc : ProbeException) : List Char :=
  match exc.responseCode with
  | some code => code
  | none =>
      if exc.gaierror then "dns_resolution_failed".toList
      else if isTimeout exc then "connection_timeout".toList
      else if exc.refused then "connection_refused".toList
      else if exc.sslError then "tls_handshake_failed".toList
      else "connection_failed".toList

def errorMessage (exc : ProbeException) : List Char :=
  let message := strip exc.message
  if message = [] then exc.className else message

def noProbeResult : ProbeException where
  message := "No probe result".toList
  className := "ProbeError".toList
  responseCode := some "probe_failed".toList

end

/-! ## 2. Series -/

/-- The place of a percentile among `count` ordered values. -/
def percentileIndex (count : Nat) (percentile : ℚ) : Nat :=
  min (count - 1)
    (roundHalfEven (nearestDouble (((count - 1 : Nat) : ℚ) * nearestDouble percentile))).toNat

def percentileOf (ordered : List ℚ) (percentile : ℚ) : ℚ :=
  ordered.getD (percentileIndex ordered.length percentile) 0

def orderedValues (values : List ℚ) : List ℚ := (values.map roundTwo).insertionSort (· ≤ ·)

def half : ℚ := 1 / 2

def ninetyFive : ℚ := 95 / 100

/-- `_series`, for times that are finite. -/
def series (values : List ℚ) : Json :=
  let ordered := orderedValues values
  .dict [("p50", .float (.finite (percentileOf ordered half))),
    ("p95", .float (.finite (percentileOf ordered ninetyFive))),
    ("samples", .int ordered.length)]

/-- `float(value)` of a finite number. -/
def finiteNumber (value : Json) : Option ℚ :=
  match value.number? with
  | some (.finite q) => some (nearestDouble q)
  | _ => none

def seriesValueOf (value : Json) (percentile : String) : Option ℚ :=
  match value with
  | .dict kvs => finiteNumber ((kvs.lookup percentile).getD .null)
  | value => finiteNumber value

/-! ## 3. Putting the answers together -/

def latencyKeys : List String := ["tcp_connect_ms", "handshake_ms", "ttfb_ms", "total_request_ms"]

def answerKeys : List String := ["response_code", "tls_version", "cipher_suite"]

section

variable [PyText] (floatRepr : PyFloat → List Char)

def firstText (items : List Dict) (key : String) : List Char :=
  ((items.find? fun item => (item.get key).truthy).map fun item =>
    (item.get key).pyStr floatRepr).getD []

omit [PyText] in
def latencyValues (successes : List Dict) (key : String) : List ℚ :=
  successes.filterMap fun success => seriesValueOf (success.get key) "p95"

omit [PyText] in
def addLatency (successes : List Dict) (metrics : Dict) (key : String) : Dict :=
  let values := latencyValues successes key
  if values = [] then metrics else Library.Dict.set key (series values) metrics

def addAnswer (successes : List Dict) (metrics : Dict) (key : String) : Dict :=
  let value := firstText floatRepr successes key
  if value = [] then metrics else Library.Dict.set key (.str (String.ofList value)) metrics

def mergeSuccessMetrics (protocol : List Char) (successes : List Dict) : Dict :=
  let metrics : Dict := [("protocol", .str (String.ofList protocol))]
  if successes = [] then metrics
  else answerKeys.foldl (addAnswer floatRepr successes)
    (latencyKeys.foldl (addLatency successes) metrics)

omit [PyText] in
def rateOf (count attempts : Nat) : PyFloat :=
  ((PyFloat.ofRat (count : ℚ)).div (PyFloat.ofRat (attempts : ℚ))).round 4

omit [PyText] in
def countKeysOf (protocol : List Char) : CountKeys :=
  if protocol = "IKE".toList then negotiationKeys else handshakeKeys

def timeoutCount (failures : List ProbeException) : Nat := failures.countP isTimeout

def countedMetrics (protocol : List Char) (attempts : Nat) (successes : List Dict)
    (failures : List ProbeException) : Dict :=
  let keys := countKeysOf protocol
  let metrics := mergeSuccessMetrics floatRepr protocol successes
  let metrics := Library.Dict.set "sample_count" (.int attempts) metrics
  let metrics := Library.Dict.set "failure_rate" (.float (rateOf failures.length attempts)) metrics
  let metrics := Library.Dict.set "timeout_rate"
    (.float (rateOf (timeoutCount failures) attempts)) metrics
  let metrics := Library.Dict.set keys.successful (.int successes.length) metrics
  let metrics := Library.Dict.set keys.failed (.int failures.length) metrics
  Library.Dict.set keys.total (.int attempts) metrics

/-- The texts of the last failure where some probe has answered, whose code stays. -/
def addFailure (failure : ProbeException) (metrics : Dict) : Dict :=
  let metrics := Library.Dict.set "failure_reason"
    (.str (String.ofList (errorMessage failure))) metrics
  Library.Dict.set "response_code"
    (pyOr (Dict.get metrics "response_code") (.str (String.ofList (errorCode failure)))) metrics

def setFailure (failure : ProbeException) (metrics : Dict) : Dict :=
  Library.Dict.set "failure_reason" (.str (String.ofList (errorMessage failure)))
    (Library.Dict.set "response_code" (.str (String.ofList (errorCode failure))) metrics)

def aggregateMeasurements (protocol : List Char) (attempts : Nat) (successes : List Dict)
    (failures : List ProbeException) : Measurement :=
  let metrics := countedMetrics floatRepr protocol attempts successes failures
  let negotiatedAlgorithm := String.ofList (firstText floatRepr successes "negotiated_algorithm")
  if successes ≠ [] then
    { compatibilityStatus := .pass
      metrics :=
        match failures.getLast? with
        | none => metrics
        | some failure => addFailure failure metrics
      negotiatedAlgorithm }
  else
    let failure := failures.getLast?.getD noProbeResult
    { compatibilityStatus := if failure.gaierror then .error else .fail
      metrics := setFailure failure metrics
      negotiatedAlgorithm
      errorMessage := String.ofList ((errorMessage failure).take 255) }

/-! ## 4. The loop over the attempts -/

omit [PyText] in
def profileAttempts : RunProfile → Nat
  | .smoke => 1
  | .baseline => 3
  | .canary => 3
  | .stress => 5

/-- `_attempts_for_profile`, given the value of `PERFORMANCE_RUN_SAMPLES`. -/
def attemptsForProfile (limits : Limits) (configured : List Char) (profile : RunProfile) : Nat :=
  if configured = [] then profileAttempts profile
  else
    match intOfText limits configured with
    | some samples => (max 1 (min 20 samples)).toNat
    | none => profileAttempts profile

omit [PyText] in
def httpPorts : List Nat := [80, 8080]

def targetProtocol (target : Target) : List Char :=
  if target.transport = .udp ∧ target.port ∈ [500, 4500] then "IKE".toList
  else if target.port ∈ [22, 2222] then "SSH".toList
  else if target.port ∈ httpPorts then "HTTP".toList
  else upper target.protocolHint.text

inductive ProbeKind
  | ike
  | ssh
  | smtpStarttls
  | postgresqlTls
  | http
  | tls
  | tcp
  deriving DecidableEq, Repr

omit [PyText] in
/-- The probe that `_probe_once` chooses. -/
def probeKind (target : Target) (protocol : List Char) : ProbeKind :=
  if target.transport = .udp ∧ protocol = "IKE".toList then .ike
  else if protocol = "SSH".toList ∨ target.port ∈ [22, 2222] then .ssh
  else if protocol = "SMTP".toList ∧ target.port ∈ AgentDiscovery.smtpStarttlsPorts then
    .smtpStarttls
  else if target.port = 5432 then .postgresqlTls
  else if protocol = "HTTP".toList ∨ target.port ∈ httpPorts then .http
  else if protocol ∈ ["TLS", "SMTP", "IMAP", "POP3"].map String.toList ∨
      target.port ∈ Scan.tlsDirectPorts then .tls
  else .tcp

omit [PyText] in
def collectProbes (probe : Nat → Except ProbeException Dict) :
    Nat → List Dict × List ProbeException
  | 0 => ([], [])
  | attempt + 1 =>
      let (successes, failures) := collectProbes probe attempt
      match probe attempt with
      | .ok metrics => (successes ++ [metrics], failures)
      | .error exc => (successes, failures ++ [exc])

def measureTarget (limits : Limits) (configured : List Char)
    (probe : ProbeKind → Nat → Except ProbeException Dict) (target : Target) (profile : RunProfile) :
    Measurement :=
  let protocol := targetProtocol target
  let attempts := attemptsForProfile limits configured profile
  let (successes, failures) := collectProbes (probe (probeKind target protocol)) attempts
  aggregateMeasurements floatRepr protocol attempts successes failures

end

end CryptoScanner.Performance
