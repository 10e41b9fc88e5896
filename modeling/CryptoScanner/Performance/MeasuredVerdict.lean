import CryptoScanner.Performance.Measure
import CryptoScanner.Performance.Engine.Monotone

/-!
# The verdict on a measured target

The runner counts what its probes returned, the engine derives rates from the counts and tests them
against the thresholds.  With at most twenty attempts one that fails is more than the threshold for
failing allows, so a target passes exactly where every attempt was answered.
-/

namespace CryptoScanner.Performance

open Library Python Engine

/-! ## 1. The rates of at most twenty attempts -/

theorem ofRat_small : ∀ n : Nat, n ≤ 20 → PyFloat.ofRat (n : ℚ) = .finite n := by decide +kernel

theorem number_small {n : Nat} (h : n ≤ 20) : number (.int n) = .ok (some (.finite n)) := by
  have hsmall : PyFloat.ofRat ((n : Int) : ℚ) = .finite n := ofRat_small n h
  have hsize : ¬ Oversized n := by
    rw [Oversized, hsmall]
    simp
  rw [number, if_neg hsize, hsmall]

theorem rateOf_eq {count attempts : Nat} (hcount : count ≤ attempts) (h : attempts ≤ 20) :
    rateOf count attempts = (PyFloat.ofRat ((count : ℚ) / attempts)).round 4 := by
  unfold rateOf
  rw [ofRat_small count (by omega), ofRat_small attempts h]
  rfl

theorem ofRat_zero : PyFloat.ofRat 0 = .finite 0 := ofRat_small 0 (by decide)

theorem ofRat_one : PyFloat.ofRat 1 = .finite 1 := by
  have h := ofRat_small 1 (by decide)
  rwa [Nat.cast_one] at h

theorem rateOf_zero {attempts : Nat} (h : attempts ≤ 20) : rateOf 0 attempts = zero := by
  rw [rateOf_eq (Nat.zero_le _) h, Nat.cast_zero, zero_div, ofRat_zero]
  decide +kernel

theorem fullRate {attempts : Nat} (hpos : 0 < attempts) :
    (clampRate ((PyFloat.finite attempts).div (.finite attempts))).round 4 = one := by
  have hdiv : (PyFloat.finite attempts).div (.finite attempts) = .finite 1 := by
    show PyFloat.ofRat ((attempts : ℚ) / attempts) = .finite 1
    rw [div_self (Nat.cast_ne_zero.mpr (by omega)), ofRat_one]
  rw [hdiv]
  decide +kernel

/-- One attempt in twenty is more than three in a hundred. -/
theorem failing_rateOf {count attempts : Nat} (hpos : 0 < count) (hcount : count ≤ attempts)
    (h : attempts ≤ 20) : (PyFloat.ofRat (3 / 100)).lt (rateOf count attempts) = true := by
  have hleast : ((1 : ℚ) / 20) ≤ (count : ℚ) / attempts := by
    rw [div_le_div_iff₀ (by norm_num) (by exact_mod_cast Nat.lt_of_lt_of_le hpos hcount)]
    have hcross : attempts ≤ count * 20 := by omega
    calc (1 : ℚ) * attempts = attempts := one_mul _
      _ ≤ ((count * 20 : Nat) : ℚ) := by exact_mod_cast hcross
      _ = (count : ℚ) * 20 := by push_cast; rfl
  have hrate : ((PyFloat.ofRat (1 / 20)).round 4).AtMost (rateOf count attempts) := by
    rw [rateOf_eq hcount h]
    exact (PyFloat.keeps_round 4).atMost (PyFloat.ofRat_mono hleast)
  exact hrate.above (by decide +kernel)

/-! ## 2. What the metrics of a measurement say -/

/-- The keys that a measurement does not write and the engine reads. -/
def unwrittenKeys : List String :=
  "client_compatibility" :: "handshake_bytes_sent" :: "handshake_bytes_received" ::
    throughputSeries.map Prod.fst

/-- The metrics of `attempts` attempts, of which `failed` failed and `timeouts` timed out. -/
structure Sampled (metrics : Dict) (protocol : List Char) (attempts failed timeouts : Nat) :
    Prop where
  protocolText : metrics.get "protocol" = .str (String.ofList protocol)
  successful : metrics.get (countKeysOf protocol).successful = .int ((attempts - failed : Nat) : Int)
  failedCount : metrics.get (countKeysOf protocol).failed = .int failed
  total : metrics.get (countKeysOf protocol).total = .int attempts
  handshakes : protocol = "IKE".toList →
    ∀ key ∈ [handshakeKeys.successful, handshakeKeys.failed, handshakeKeys.total,
      handshakeKeys.attempted], metrics.get key = .null
  failureRate : metrics.get "failure_rate" = .float (rateOf failed attempts)
  timeoutRate : metrics.get "timeout_rate" = .float (rateOf timeouts attempts)
  unwritten : ∀ key ∈ unwrittenKeys, metrics.get key = .null
  latency : ∀ key ∈ latencyKeys, ∃ value, metricValue metrics key "p95" = .ok value

/-- The keys that the statement above reads, but for the protocol. -/
def sampledKeys : List String :=
  ["failure_rate", "timeout_rate"] ++ latencyKeys ++ unwrittenKeys ++
    [handshakeKeys.successful, handshakeKeys.failed, handshakeKeys.total, handshakeKeys.attempted,
      negotiationKeys.successful, negotiationKeys.failed, negotiationKeys.total]

theorem Sampled.congr {metrics metrics' : Dict} {protocol : List Char}
    {attempts failed timeouts : Nat} (h : Sampled metrics protocol attempts failed timeouts)
    (hprotocol : metrics'.get "protocol" = .str (String.ofList protocol))
    (hkeys : ∀ key ∈ sampledKeys, metrics'.get key = metrics.get key) :
    Sampled metrics' protocol attempts failed timeouts := by
  have hcounts : ∀ key ∈ [(countKeysOf protocol).successful, (countKeysOf protocol).failed,
      (countKeysOf protocol).total], metrics'.get key = metrics.get key := by
    intro key hkey
    apply hkeys
    unfold countKeysOf at hkey
    split at hkey
    · exact (show ∀ key ∈ [negotiationKeys.successful, negotiationKeys.failed,
        negotiationKeys.total], key ∈ sampledKeys by decide) key hkey
    · exact (show ∀ key ∈ [handshakeKeys.successful, handshakeKeys.failed, handshakeKeys.total],
        key ∈ sampledKeys by decide) key hkey
  refine ⟨hprotocol, ?_, ?_, ?_, ?_, ?_, ?_, ?_, ?_⟩
  · rw [hcounts _ (by simp), h.successful]
  · rw [hcounts _ (by simp), h.failedCount]
  · rw [hcounts _ (by simp), h.total]
  · intro hike key hkey
    have hmem : ∀ key ∈ [handshakeKeys.successful, handshakeKeys.failed, handshakeKeys.total,
        handshakeKeys.attempted], key ∈ sampledKeys := by decide
    rw [hkeys key (hmem key hkey), h.handshakes hike key hkey]
  · rw [hkeys _ (by decide), h.failureRate]
  · rw [hkeys _ (by decide), h.timeoutRate]
  · intro key hkey
    have hmem : ∀ key ∈ unwrittenKeys, key ∈ sampledKeys := by decide
    rw [hkeys key (hmem key hkey), h.unwritten key hkey]
  · intro key hkey
    have hmem : ∀ key ∈ latencyKeys, key ∈ sampledKeys := by decide
    obtain ⟨value, hvalue⟩ := h.latency key hkey
    refine ⟨value, ?_⟩
    rw [← hvalue]
    unfold metricValue seriesValue
    rw [hkeys key (hmem key hkey)]

theorem numberOr_sampled {metrics : Dict} {key other : String} {n : Nat} (hpos : 0 < n)
    (hsmall : n ≤ 20) (h : metrics.get key = .int n) :
    numberOr metrics key other = .ok (some (.finite n)) := by
  have hne : (PyFloat.finite (n : ℚ)) ≠ zero := by
    intro heq
    have hzero : (n : ℚ) = 0 := PyFloat.finite.inj heq
    rw [Nat.cast_eq_zero] at hzero
    omega
  unfold numberOr
  rw [h, number_small hsmall]
  show (if PyFloat.finite (n : ℚ) = zero then _ else _) = _
  rw [if_neg hne]
  rfl

theorem readCounts_sampled {metrics : Dict} {keys : CountKeys} {attempts failed : Nat}
    (hpos : 0 < attempts) (hsmall : attempts ≤ 20) (hfailed : failed ≤ attempts)
    (hsuccessful : metrics.get keys.successful = .int ((attempts - failed : Nat) : Int))
    (hfailedCount : metrics.get keys.failed = .int failed)
    (htotal : metrics.get keys.total = .int attempts) :
    readCounts metrics keys = .ok ⟨some (.finite ((attempts - failed : Nat) : ℚ)),
      some (.finite failed), some (.finite attempts)⟩ := by
  unfold readCounts
  rw [hsuccessful, hfailedCount, number_small (by omega), number_small (by omega),
    numberOr_sampled hpos hsmall htotal]
  rfl

theorem rate_counts {success failed total : ℚ} (hpos : 0 < total) :
    (Counts.mk (some (.finite success)) (some (.finite failed)) (some (.finite total))).rate =
      some (.finite success, .finite total) := by
  have hlt : zero.lt (.finite total) = true := decide_eq_true hpos
  show (if zero.lt (.finite total) then _ else _) = _
  rw [if_pos hlt]
  rfl

/-- The engine finds the counts of the measurement. -/
theorem countedRate_sampled {metrics : Dict} {protocol : List Char}
    {attempts failed timeouts : Nat} (hpos : 0 < attempts) (hsmall : attempts ≤ 20)
    (hfailed : failed ≤ attempts) (h : Sampled metrics protocol attempts failed timeouts) :
    countedRate metrics =
      .ok (some (.finite ((attempts - failed : Nat) : ℚ), .finite attempts)) := by
  have hread := readCounts_sampled hpos hsmall hfailed h.successful h.failedCount h.total
  have hrate := @rate_counts ((attempts - failed : Nat) : ℚ) (failed : ℚ) (attempts : ℚ)
    (by exact_mod_cast hpos)
  unfold countedRate
  by_cases hike : protocol = "IKE".toList
  · have hkeys : countKeysOf protocol = negotiationKeys := if_pos hike
    have hnone := h.handshakes hike
    have hhandshakes : readCounts metrics handshakeKeys = .ok ⟨none, none, none⟩ := by
      unfold readCounts numberOr
      rw [hnone _ (by simp), hnone handshakeKeys.failed (by simp),
        hnone handshakeKeys.total (by simp), hnone handshakeKeys.attempted (by simp)]
      rfl
    rw [hkeys] at hread
    rw [hhandshakes]
    show (readCounts metrics negotiationKeys).bind _ = _
    rw [hread]
    exact congrArg Except.ok hrate
  · have hkeys : countKeysOf protocol = handshakeKeys := if_neg hike
    rw [hkeys] at hread
    rw [hread]
    exact congrArg Except.ok hrate

section

variable [PyText] (floatRepr : PyFloat → List Char)

theorem successRateKey_sampled {metrics : Dict} {protocol : List Char}
    (hprotocol : metrics.get "protocol" = .str (String.ofList protocol))
    (hupper : upper protocol = protocol) :
    successRateKey floatRepr metrics =
      if protocol = "IKE".toList then "negotiation_success_rate" else "handshake_success_rate" := by
  have htext : text floatRepr (pyOr (.str (String.ofList protocol)) (.str "")) = protocol := by
    by_cases hnil : protocol = []
    · rw [hnil]
      rfl
    · rw [pyOr_str hnil, text_str]
  unfold successRateKey
  rw [hprotocol, htext, hupper]

theorem sampled_setCountedRate {metrics : Dict} {protocol : List Char}
    {attempts failed timeouts : Nat} (h : Sampled metrics protocol attempts failed timeouts)
    (hupper : upper protocol = protocol) (success total : PyFloat) :
    Sampled (setCountedRate (successRateKey floatRepr metrics) success total metrics) protocol
      attempts failed timeouts := by
  have hkey := successRateKey_cases floatRepr metrics
  have hvalue := successRateKey_sampled floatRepr h.protocolText hupper
  obtain ⟨-, -, hfailure, htotal⟩ := lookups_setCountedRate success total hkey metrics
  have hfailureKept : (setCountedRate (successRateKey floatRepr metrics) success total metrics).get
      "failure_rate" = metrics.get "failure_rate" := by
    rw [Dict.get, hfailure, Dict.lookup_of_get h.failureRate (by simp), h.failureRate]
    rfl
  have htotalKept : (setCountedRate (successRateKey floatRepr metrics) success total metrics).get
      (totalKey (successRateKey floatRepr metrics)) =
      metrics.get (totalKey (successRateKey floatRepr metrics)) := by
    have hown : totalKey (successRateKey floatRepr metrics) = (countKeysOf protocol).total := by
      rw [hvalue]
      unfold countKeysOf totalKey
      by_cases hike : protocol = "IKE".toList
      · rw [if_pos hike, if_pos hike, if_pos rfl]
      · rw [if_neg hike, if_neg hike, if_neg (by decide)]
    rw [Dict.get, htotal, hown, Dict.lookup_of_get h.total (by simp), h.total]
    rfl
  apply h.congr
  · rw [← h.protocolText]
    apply Dict.get_of_lookup
    apply lookup_setCountedRate
    rcases hkey with heq | heq <;> rw [heq] <;> decide
  · intro key hmem
    by_cases hrate : key ∈ rateKeys (successRateKey floatRepr metrics)
    · simp only [rateKeys, List.mem_cons, List.not_mem_nil, or_false] at hrate
      rcases hrate with heq | rfl | rfl | rfl
      · rcases hkey with hname | hname <;> rw [heq, hname] at hmem <;> exact absurd hmem (by decide)
      · exact absurd hmem (by decide)
      · exact hfailureKept
      · exact htotalKept
    · exact Dict.get_of_lookup (lookup_setCountedRate hrate metrics)

theorem protocol_normalizeTexts {metrics : Dict} {protocol : List Char}
    (hprotocol : metrics.get "protocol" = .str (String.ofList protocol))
    (hupper : upper protocol = protocol) :
    (normalizeTexts floatRepr metrics).get "protocol" = .str (String.ofList protocol) := by
  rw [get_normalizeTexts_protocol]
  unfold upperProtocol
  by_cases htruthy : (metrics.get "protocol").truthy = true
  · rw [if_pos htruthy, Dict.get_set, if_pos rfl, hprotocol, text_str, hupper]
  · rw [if_neg htruthy, hprotocol]

theorem checks_normalizeTexts {metrics : Dict}
    (h : metrics.get "client_compatibility" = .null) :
    (normalizeTexts floatRepr metrics).get "client_compatibility" = .null := by
  unfold normalizeTexts
  dsimp only
  have hkept : (normalizeTextMetric floatRepr "failure_reason" (normalizeTextMetric floatRepr
      "response_code" (upperProtocol floatRepr metrics))).get "client_compatibility" = .null := by
    rw [← h]
    apply Dict.get_of_lookup
    rw [lookup_normalizeTextMetric floatRepr (by decide),
      lookup_normalizeTextMetric floatRepr (by decide), lookup_upperProtocol floatRepr (by decide)]
  have hempty : normalizeClientCompatibility floatRepr .null = [] := rfl
  rw [hkept, hempty, setClientChecks, if_pos rfl, Dict.get, Library.Dict.lookup_pop, if_pos rfl]
  rfl

/-- Normalising keeps what the metrics say, and adds the success rate. -/
theorem normalize_sampled {metrics : Dict} {protocol : List Char} {attempts failed timeouts : Nat}
    (hupper : upper protocol = protocol) (hpos : 0 < attempts) (hsmall : attempts ≤ 20)
    (hfailed : failed ≤ attempts) (h : Sampled metrics protocol attempts failed timeouts) :
    ∃ normalized, normalizeAvailabilityMetrics floatRepr (some metrics) = .ok normalized ∧
      Sampled normalized protocol attempts failed timeouts ∧
      normalized.get (successRateKey floatRepr normalized) = .float ((clampRate
        ((PyFloat.finite ((attempts - failed : Nat) : ℚ)).div (.finite attempts))).round 4) := by
  have hclean : Sampled (normalizeTexts floatRepr metrics) protocol attempts failed timeouts := by
    apply h.congr (protocol_normalizeTexts floatRepr h.protocolText hupper)
    intro key hkey
    by_cases hchecks : key = "client_compatibility"
    · rw [hchecks, checks_normalizeTexts floatRepr (h.unwritten _ (by decide)),
        h.unwritten _ (by decide)]
    · apply Dict.get_of_lookup
      apply lookup_normalizeTexts
      intro htext
      simp only [textKeys, List.mem_cons, List.not_mem_nil, or_false] at htext
      rcases htext with rfl | rfl | rfl | rfl
      · exact absurd hkey (by decide)
      · exact absurd hkey (by decide)
      · exact absurd hkey (by decide)
      · exact hchecks rfl
  generalize hcleaned : normalizeTexts floatRepr metrics = cleaned at hclean
  have hkey := successRateKey_cases floatRepr cleaned
  have hcounted := countedRate_sampled hpos hsmall hfailed hclean
  have hnormal : normalizeAvailabilityMetrics floatRepr (some metrics) =
      .ok (setCountedRate (successRateKey floatRepr cleaned)
        (.finite ((attempts - failed : Nat) : ℚ)) (.finite attempts) cleaned) := by
    unfold normalizeAvailabilityMetrics normalizeRates
    rw [Option.getD_some, hcleaned, hcounted]
    rfl
  refine ⟨_, hnormal, sampled_setCountedRate floatRepr hclean hupper _ _, ?_⟩
  obtain ⟨hsuccess, -, -, -⟩ := lookups_setCountedRate
    (.finite ((attempts - failed : Nat) : ℚ)) (.finite attempts) hkey cleaned
  have hsame : successRateKey floatRepr (setCountedRate (successRateKey floatRepr cleaned)
      (.finite ((attempts - failed : Nat) : ℚ)) (.finite attempts) cleaned) =
      successRateKey floatRepr cleaned := by
    apply successRateKey_congr
    apply Dict.get_of_lookup
    apply lookup_setCountedRate
    rcases hkey with heq | heq <;> rw [heq] <;> decide
  rw [hsame, Dict.get, hsuccess]
  rfl

/-! ## 3. The signals -/

omit [PyText] in
def highSignals (key : String) (value warn fail : PyFloat) : List Signal :=
  if fail.lt value then [thresholdSignal key "above" value .fail]
  else if warn.lt value then [thresholdSignal key "above" value .warn] else []

omit [PyText] in
def lowSignals (key : String) (value warn fail : PyFloat) : List Signal :=
  if value.lt fail then [thresholdSignal key "below" value .fail]
  else if value.lt warn then [thresholdSignal key "below" value .warn] else []

omit [PyText] in
theorem appendRateSignal_float (key : String) (value warn fail : PyFloat) :
    appendRateSignal key value (.float warn) (.float fail) =
      .ok (highSignals key value warn fail) := by
  have habove : ∀ bound, isAbove value (.float bound) = .ok (bound.lt value) := fun _ => rfl
  unfold appendRateSignal levelSignals highSignals
  rw [habove, habove]
  cases fail.lt value with
  | true => rfl
  | false => cases warn.lt value <;> rfl

omit [PyText] in
theorem appendMinRateSignal_float (key : String) (value warn fail : PyFloat) :
    appendMinRateSignal key value (.float warn) (.float fail) =
      .ok (lowSignals key value warn fail) := by
  have hbelow : ∀ bound, isBelow value (.float bound) = .ok (value.lt bound) := fun _ => rfl
  unfold appendMinRateSignal levelSignals lowSignals
  rw [hbelow, hbelow]
  cases value.lt fail with
  | true => rfl
  | false => cases value.lt warn <;> rfl

omit [PyText] in
/-- The tests of the three rates, against the default thresholds. -/
def rateSignals (key : String) (success failure timeout : PyFloat) : List Signal :=
  lowSignals key success (.ofRat (99 / 100)) (.ofRat (97 / 100)) ++
    highSignals "failure_rate" failure (.ofRat (1 / 100)) (.ofRat (3 / 100)) ++
      highSignals "timeout_rate" timeout (.ofRat (1 / 100)) (.ofRat (3 / 100))

omit [PyText] in
theorem rateSignals_full (key : String) : rateSignals key one zero zero = [] := by
  have hlow : one.lt (.ofRat (97 / 100)) = false ∧ one.lt (.ofRat (99 / 100)) = false := by
    decide +kernel
  have hhigh : (PyFloat.ofRat (3 / 100)).lt zero = false ∧
      (PyFloat.ofRat (1 / 100)).lt zero = false := by decide +kernel
  simp only [rateSignals, lowSignals, highSignals, hlow, hhigh, if_neg Bool.false_ne_true,
    List.append_nil]

/-- A measurement has no client check, so only its rates and its deltas are tested. -/
theorem collectSignals_sampled {metrics : Dict} {protocol : List Char}
    {attempts failed timeouts : Nat} (h : Sampled metrics protocol attempts failed timeouts)
    {rate : PyFloat} (hrate : metrics.get (successRateKey floatRepr metrics) = .float rate)
    (deltas : List (String × PyFloat)) (status : ResultStatus) :
    collectSignals floatRepr metrics deltas status defaultThresholds =
      (deltas.mapM (deltaSignals defaultThresholds)).map fun groups =>
        compatibilitySignals status ++ (rateSignals (successRateKey floatRepr metrics) rate
          (rateOf failed attempts) (rateOf timeouts attempts) ++ groups.flatten) := by
  have hsuccess : successSignals floatRepr metrics defaultThresholds =
      .ok (lowSignals (successRateKey floatRepr metrics) rate
        (.ofRat (99 / 100)) (.ofRat (97 / 100))) := by
    rw [← appendMinRateSignal_float]
    unfold successSignals successMetric
    dsimp only
    rw [hrate]
    rfl
  have hfailure : appendRateSignal "failure_rate" (rateOf failed attempts)
      (defaultThresholds.get "warn_failure_rate")
      (defaultThresholds.get "fail_failure_rate") = _ :=
    appendRateSignal_float _ _ (.ofRat (1 / 100)) (.ofRat (3 / 100))
  have htimeout : appendRateSignal "timeout_rate" (rateOf timeouts attempts)
      (defaultThresholds.get "warn_timeout_rate")
      (defaultThresholds.get "fail_timeout_rate") = _ :=
    appendRateSignal_float _ _ (.ofRat (1 / 100)) (.ofRat (3 / 100))
  have hchecks : clientCompatibilityChecks metrics = [] := by
    unfold clientCompatibilityChecks
    rw [h.unwritten _ (by decide)]
  have hthen : ∀ {α β : Type} (x : α) (f : α → Except EngineError β), (.ok x >>= f) = f x :=
    fun _ _ => rfl
  unfold collectSignals
  rw [hsuccess, hchecks, h.failureRate, h.timeoutRate]
  simp only [number, hthen, Option.getD_some, hfailure, htimeout]
  cases deltas.mapM (deltaSignals defaultThresholds) with
  | error exc => rfl
  | ok groups =>
      apply congrArg Except.ok
      simp only [rateSignals, List.append_assoc]
      rfl

/-! ## 4. The evaluation -/

omit [PyText] in
theorem mapM_empty {α : Type} {f : α → Except EngineError (List (String × PyFloat))}
    {items : List α} (h : ∀ item ∈ items, f item = .ok []) :
    ∃ groups, items.mapM f = .ok groups ∧ groups.flatten = [] := by
  obtain ⟨groups, hgroups⟩ := exists_mapM_eq_ok fun item hitem => ⟨[], h item hitem⟩
  apply Exists.intro groups
  apply And.intro hgroups
  apply List.flatten_eq_nil_iff.mpr
  intro group hgroup
  obtain ⟨item, hitem, heq⟩ := (mem_mapM hgroups).1 group hgroup
  rw [h item hitem] at heq
  exact (Except.ok.inj heq).symm

omit [PyText] in
/-- Without a baseline there is nothing to compare with. -/
theorem deltaEntry_without {key : String} {candidate baseline :
    Except EngineError (Option PyFloat)} (h : ∃ value, candidate = .ok value)
    (hbaseline : baseline = .ok none) : deltaEntry key candidate baseline = .ok [] := by
  obtain ⟨value, rfl⟩ := h
  rw [hbaseline]
  cases value <;> rfl

omit [PyText] in
theorem calculateDeltas_sampled {metrics : Dict} {protocol : List Char}
    {attempts failed timeouts : Nat} (h : Sampled metrics protocol attempts failed timeouts) :
    calculateDeltas metrics [] = .ok [] := by
  have hlatency : ∀ entry ∈ latencySeries, deltaEntry entry.2 (metricValue metrics entry.1 "p95")
      (metricValue [] entry.1 "p95") = .ok [] := by
    intro entry hentry
    have hkey : ∀ entry ∈ latencySeries, entry.1 ∈ latencyKeys := by decide
    exact deltaEntry_without (h.latency _ (hkey entry hentry)) rfl
  have hthroughput : ∀ entry ∈ throughputSeries, deltaEntry entry.2 (number (metrics.get entry.1))
      (number (Dict.get [] entry.1)) = .ok [] := by
    intro entry hentry
    have hkey : ∀ entry ∈ throughputSeries, entry.1 ∈ unwrittenKeys := by decide
    rw [h.unwritten _ (hkey entry hentry)]
    exact deltaEntry_without ⟨none, rfl⟩ rfl
  have hbytes : handshakeBytes metrics = .ok none := by
    unfold handshakeBytes
    rw [h.unwritten "handshake_bytes_sent" (by decide),
      h.unwritten "handshake_bytes_received" (by decide)]
    rfl
  obtain ⟨groups, hgroups, hempty⟩ := mapM_empty hlatency
  obtain ⟨groups', hgroups', hempty'⟩ := mapM_empty hthroughput
  unfold calculateDeltas
  rw [hgroups, hgroups', hbytes]
  show Except.ok (groups.flatten ++ groups'.flatten ++ _) = _
  rw [hempty, hempty']
  rfl

/-- A failed attempt is enough to fail, whatever the baseline. -/
theorem fails_of_failed {metrics : Dict} {protocol : List Char} {attempts failed timeouts : Nat}
    (hupper : upper protocol = protocol) (hpos : 0 < failed) (hfailed : failed ≤ attempts)
    (hsmall : attempts ≤ 20) (h : Sampled metrics protocol attempts failed timeouts)
    {baseline : Option Dict} {status : ResultStatus} {evaluation : Evaluation}
    (hevaluation : Engine.evaluateAssetPerformance floatRepr metrics baseline status none =
      .ok evaluation) : evaluation.status = .fail := by
  obtain ⟨normalized, hnormal, hsampled, hrate⟩ :=
    normalize_sampled floatRepr hupper (by omega) hsmall hfailed h
  unfold Engine.evaluateAssetPerformance at hevaluation
  rw [hnormal] at hevaluation
  simp only [bind_eq_ok] at hevaluation
  obtain ⟨_, heq, baselineMetrics, -, deltas, -, signals, hsignals, hevaluation⟩ := hevaluation
  cases heq
  cases hevaluation
  have hthresholds : Library.Dict.update defaultThresholds
      ((none : Option Dict).getD []) = defaultThresholds := rfl
  rw [hthresholds, collectSignals_sampled floatRepr hsampled hrate] at hsignals
  cases hgroups : deltas.mapM (deltaSignals defaultThresholds) with
  | error exc =>
      rw [hgroups] at hsignals
      cases hsignals
  | ok groups =>
      rw [hgroups] at hsignals
      have hmem : thresholdSignal "failure_rate" "above" (rateOf failed attempts) .fail ∈
          signals := by
        rw [← Except.ok.inj hsignals, rateSignals, highSignals,
          if_pos (failing_rateOf hpos hfailed hsmall)]
        simp only [List.mem_append, List.mem_singleton, true_or, or_true]
      unfold statusFromSignals
      exact if_pos (List.any_eq_true.mpr ⟨_, hmem, rfl⟩)

/-- The evaluation without a baseline, which raises no exception. -/
theorem evaluate_sampled {metrics : Dict} {protocol : List Char} {attempts failed timeouts : Nat}
    (hupper : upper protocol = protocol) (hpos : 0 < attempts) (hfailed : failed ≤ attempts)
    (hsmall : attempts ≤ 20) (h : Sampled metrics protocol attempts failed timeouts)
    (status : ResultStatus) :
    ∃ evaluation key, Engine.evaluateAssetPerformance floatRepr metrics none status none =
      .ok evaluation ∧ evaluation.signals = compatibilitySignals status ++ rateSignals key
        ((clampRate ((PyFloat.finite ((attempts - failed : Nat) : ℚ)).div (.finite attempts))).round
          4) (rateOf failed attempts) (rateOf timeouts attempts) ∧
      evaluation.status = statusFromSignals evaluation.signals := by
  obtain ⟨normalized, hnormal, hsampled, hrate⟩ :=
    normalize_sampled floatRepr hupper hpos hsmall hfailed h
  have hnone : normalizeAvailabilityMetrics floatRepr none = .ok [] := rfl
  have hsignals := collectSignals_sampled floatRepr hsampled hrate [] status
  have hthresholds : Library.Dict.update defaultThresholds
      ((none : Option Dict).getD []) = defaultThresholds := rfl
  unfold Engine.evaluateAssetPerformance
  rw [hnormal, hnone, hthresholds]
  simp only [bind, Except.bind]
  rw [calculateDeltas_sampled hsampled]
  dsimp only
  rw [hsignals]
  exact ⟨_, _, rfl, congrArg (compatibilitySignals status ++ ·) (List.append_nil _), rfl⟩

/-! ## 5. The metrics that the aggregation writes -/

omit [PyText] in
theorem foldl_keeps {step : Dict → String → Dict} {keeps : Dict → Prop} {keys : List String}
    (hstep : ∀ key ∈ keys, ∀ metrics, keeps metrics → keeps (step metrics key)) {metrics : Dict}
    (h : keeps metrics) : keeps (keys.foldl step metrics) := by
  induction keys generalizing metrics with
  | nil => exact h
  | cons key keys ih =>
      apply ih (fun key hkey => hstep key (List.mem_cons_of_mem _ hkey))
      exact hstep key List.mem_cons_self metrics h

omit [PyText] in
theorem get_addLatency {successes : List Dict} {key other : String} (hne : other ≠ key)
    (metrics : Dict) : (addLatency successes metrics key).get other = metrics.get other := by
  unfold addLatency
  dsimp only
  split
  · rfl
  · rw [Dict.get_set, if_neg hne]

theorem get_addAnswer {successes : List Dict} {key other : String} (hne : other ≠ key)
    (metrics : Dict) :
    (addAnswer floatRepr successes metrics key).get other = metrics.get other := by
  unfold addAnswer
  dsimp only
  split
  · rfl
  · rw [Dict.get_set, if_neg hne]

omit [PyText] in
theorem metricValue_addLatency {successes : List Dict} (key : String) {metrics : Dict}
    (h : ∃ value, metricValue metrics key "p95" = .ok value) :
    ∃ value, metricValue (addLatency successes metrics key) key "p95" = .ok value := by
  unfold addLatency
  dsimp only
  split
  · exact h
  · apply Exists.intro
    unfold metricValue seriesValue
    rw [Dict.get_set, if_pos rfl]
    rfl

theorem get_mergeSuccessMetrics {protocol : List Char} {successes : List Dict} {key : String}
    (hlatency : key ∉ latencyKeys) (hanswer : key ∉ answerKeys) :
    (mergeSuccessMetrics floatRepr protocol successes).get key =
      Dict.get [("protocol", .str (String.ofList protocol))] key := by
  unfold mergeSuccessMetrics
  dsimp only
  split
  · rfl
  · apply @foldl_keeps (addAnswer floatRepr successes) (fun metrics => metrics.get key =
      Dict.get [("protocol", .str (String.ofList protocol))] key)
    · intro other hother metrics h
      rw [get_addAnswer floatRepr (by rintro rfl; exact hanswer hother), h]
    · apply @foldl_keeps (addLatency successes) (fun metrics => metrics.get key =
        Dict.get [("protocol", .str (String.ofList protocol))] key)
      · intro other hother metrics h
        rw [get_addLatency (by rintro rfl; exact hlatency hother), h]
      · rfl

theorem metricValue_mergeSuccessMetrics {protocol : List Char} {successes : List Dict}
    {key : String} (hkey : key ∈ latencyKeys) :
    ∃ value, metricValue (mergeSuccessMetrics floatRepr protocol successes) key "p95" =
      .ok value := by
  have hstart : ∃ value,
      metricValue [("protocol", .str (String.ofList protocol))] key "p95" = .ok value := by
    have hnull : ∀ key ∈ latencyKeys, key ≠ "protocol" := by decide
    have hget : Dict.get [("protocol", .str (String.ofList protocol))] key = .null := by
      rw [Dict.get, List.lookup_cons, beq_eq_false_iff_ne.mpr (hnull key hkey)]
      rfl
    unfold metricValue seriesValue
    rw [hget]
    exact ⟨none, rfl⟩
  unfold mergeSuccessMetrics
  dsimp only
  split
  · exact hstart
  · apply @foldl_keeps (addAnswer floatRepr successes) (fun metrics =>
      ∃ value, metricValue metrics key "p95" = .ok value)
    · intro other hother metrics h
      have hne : ∀ key ∈ latencyKeys, ∀ other ∈ answerKeys, key ≠ other := by decide
      unfold metricValue seriesValue
      rw [get_addAnswer floatRepr (hne key hkey other hother)]
      exact h
    · apply @foldl_keeps (addLatency successes) (fun metrics =>
        ∃ value, metricValue metrics key "p95" = .ok value)
      · intro other hother metrics h
        by_cases hsame : key = other
        · rw [← hsame]
          exact metricValue_addLatency key h
        · unfold metricValue seriesValue
          rw [get_addLatency hsame]
          exact h
      · exact hstart

def countedKeys (keys : CountKeys) : List String :=
  ["sample_count", "failure_rate", "timeout_rate", keys.successful, keys.failed, keys.total]

theorem get_countedMetrics {protocol : List Char} {attempts : Nat} {successes : List Dict}
    {failures : List ProbeException} {key : String} (h : key ∉ countedKeys (countKeysOf protocol)) :
    (countedMetrics floatRepr protocol attempts successes failures).get key =
      (mergeSuccessMetrics floatRepr protocol successes).get key := by
  simp only [countedKeys, List.mem_cons, List.not_mem_nil, or_false, not_or] at h
  unfold countedMetrics
  dsimp only
  rw [Dict.get_set, if_neg h.2.2.2.2.2, Dict.get_set, if_neg h.2.2.2.2.1, Dict.get_set,
    if_neg h.2.2.2.1, Dict.get_set, if_neg h.2.2.1, Dict.get_set, if_neg h.2.1, Dict.get_set,
    if_neg h.1]

theorem counts_countedMetrics (protocol : List Char) (attempts : Nat) (successes : List Dict)
    (failures : List ProbeException) {keys : CountKeys} (hkeys : countKeysOf protocol = keys)
    (hcases : keys = handshakeKeys ∨ keys = negotiationKeys) :
    let metrics := countedMetrics floatRepr protocol attempts successes failures
    metrics.get keys.successful = .int successes.length ∧
      metrics.get keys.failed = .int failures.length ∧ metrics.get keys.total = .int attempts ∧
      metrics.get "failure_rate" = .float (rateOf failures.length attempts) ∧
      metrics.get "timeout_rate" = .float (rateOf (timeoutCount failures) attempts) := by
  unfold countedMetrics
  rw [hkeys]
  rcases hcases with rfl | rfl
  · simp [Dict.get_set, handshakeKeys]
  · simp [Dict.get_set, negotiationKeys]

theorem sampled_countedMetrics (protocol : List Char) {attempts : Nat} {successes : List Dict}
    {failures : List ProbeException} (h : successes.length + failures.length = attempts) :
    Sampled (countedMetrics floatRepr protocol attempts successes failures) protocol attempts
      failures.length (timeoutCount failures) := by
  have hcases : countKeysOf protocol = handshakeKeys ∨ countKeysOf protocol = negotiationKeys := by
    unfold countKeysOf
    split
    · exact .inr rfl
    · exact .inl rfl
  have hapart : ∀ key ∈ "protocol" :: latencyKeys ++ unwrittenKeys,
      key ∉ countedKeys (countKeysOf protocol) := by
    rcases hcases with heq | heq <;> rw [heq] <;> decide
  have hnull : ∀ {key : String}, key ∉ latencyKeys → key ∉ answerKeys →
      key ∉ countedKeys (countKeysOf protocol) → key ≠ "protocol" →
      (countedMetrics floatRepr protocol attempts successes failures).get key = .null := by
    intro key hlatency hanswer hcounted hprotocol
    rw [get_countedMetrics floatRepr hcounted, get_mergeSuccessMetrics floatRepr hlatency hanswer,
      Dict.get, List.lookup_cons, beq_eq_false_iff_ne.mpr hprotocol]
    rfl
  obtain ⟨hsuccessful, hfailed, htotal, hfailure, htimeout⟩ :=
    counts_countedMetrics floatRepr protocol attempts successes failures rfl hcases
  have hsuccesses : successes.length = attempts - failures.length := by omega
  rw [hsuccesses] at hsuccessful
  refine ⟨?_, hsuccessful, hfailed, htotal, ?_, hfailure, htimeout, ?_, ?_⟩
  · rw [get_countedMetrics floatRepr (hapart _ (by decide)),
      get_mergeSuccessMetrics floatRepr (by decide) (by decide)]
    rfl
  · intro hike key hkey
    have hkeys : countKeysOf protocol = negotiationKeys := if_pos hike
    rw [hkeys] at hnull
    simp only [List.mem_cons, List.not_mem_nil, or_false] at hkey
    rcases hkey with rfl | rfl | rfl | rfl <;>
      exact hnull (by decide) (by decide) (by decide) (by decide)
  · intro key hkey
    apply hnull
    · exact (show ∀ key ∈ unwrittenKeys, key ∉ latencyKeys by decide) key hkey
    · exact (show ∀ key ∈ unwrittenKeys, key ∉ answerKeys by decide) key hkey
    · exact hapart key (List.mem_append_right _ hkey)
    · exact (show ∀ key ∈ unwrittenKeys, key ≠ "protocol" by decide) key hkey
  · intro key hkey
    unfold metricValue seriesValue
    rw [get_countedMetrics floatRepr
      (hapart key (List.mem_append_left _ (List.mem_cons_of_mem _ hkey)))]
    exact metricValue_mergeSuccessMetrics floatRepr hkey

/-- The texts of a failure leave what the engine reads. -/
theorem sampled_aggregate (protocol : List Char) {attempts : Nat} {successes : List Dict}
    {failures : List ProbeException} (h : successes.length + failures.length = attempts) :
    Sampled (aggregateMeasurements floatRepr protocol attempts successes failures).metrics protocol
      attempts failures.length (timeoutCount failures) := by
  have hcounted := sampled_countedMetrics floatRepr protocol h
  have htexts : ∀ key ∈ "protocol" :: sampledKeys,
      key ≠ "failure_reason" ∧ key ≠ "response_code" := by decide
  have hadd : ∀ failure metrics, ∀ key ∈ "protocol" :: sampledKeys,
      (addFailure failure metrics).get key = Dict.get metrics key := by
    intro failure metrics key hkey
    unfold addFailure
    rw [Dict.get_set, if_neg (htexts key hkey).2, Dict.get_set, if_neg (htexts key hkey).1]
  have hset : ∀ failure metrics, ∀ key ∈ "protocol" :: sampledKeys,
      (setFailure failure metrics).get key = Dict.get metrics key := by
    intro failure metrics key hkey
    unfold setFailure
    rw [Dict.get_set, if_neg (htexts key hkey).1, Dict.get_set, if_neg (htexts key hkey).2]
  unfold aggregateMeasurements
  dsimp only
  split
  · cases failures.getLast? with
    | none => exact hcounted
    | some failure =>
        apply hcounted.congr
        · rw [hadd _ _ _ List.mem_cons_self, hcounted.protocolText]
        · exact fun key hkey => hadd _ _ key (List.mem_cons_of_mem _ hkey)
  · apply hcounted.congr
    · rw [hset _ _ _ List.mem_cons_self, hcounted.protocolText]
    · exact fun key hkey => hset _ _ key (List.mem_cons_of_mem _ hkey)

theorem compatibilityStatus_aggregate (protocol : List Char) (attempts : Nat)
    (successes : List Dict) (failures : List ProbeException) :
    (aggregateMeasurements floatRepr protocol attempts successes failures).compatibilityStatus =
      .pass ↔ successes ≠ [] := by
  unfold aggregateMeasurements
  dsimp only
  split
  · rename_i hne
    exact iff_of_true rfl hne
  · rename_i hnil
    apply iff_of_false _ hnil
    dsimp only
    split <;> decide

/-! ## 6. The attempts -/

section

variable {probe : Nat → Except ProbeException Dict} {attempts : Nat}

omit [PyText]

theorem collectProbes_answered {metrics : Dict} (h : probe attempts = .ok metrics) :
    collectProbes probe (attempts + 1) =
      ((collectProbes probe attempts).1 ++ [metrics], (collectProbes probe attempts).2) := by
  rw [collectProbes, h]

theorem collectProbes_failed {exc : ProbeException} (h : probe attempts = .error exc) :
    collectProbes probe (attempts + 1) =
      ((collectProbes probe attempts).1, (collectProbes probe attempts).2 ++ [exc]) := by
  rw [collectProbes, h]

variable (probe attempts)

theorem length_collectProbes :
    (collectProbes probe attempts).1.length + (collectProbes probe attempts).2.length =
      attempts := by
  induction attempts with
  | zero => rfl
  | succ attempts ih =>
      cases hprobe : probe attempts with
      | ok metrics =>
          rw [collectProbes_answered hprobe, List.length_append, List.length_singleton]
          dsimp only
          omega
      | error exc =>
          rw [collectProbes_failed hprobe, List.length_append, List.length_singleton]
          dsimp only
          omega

theorem failures_collectProbes :
    (collectProbes probe attempts).2 = [] ↔
      ∀ attempt < attempts, (probe attempt).isOk = true := by
  induction attempts with
  | zero => exact iff_of_true rfl (fun attempt h => absurd h (Nat.not_lt_zero attempt))
  | succ attempts ih =>
      rw [Nat.forall_lt_succ_right, ← ih]
      cases hprobe : probe attempts with
      | ok metrics =>
          rw [collectProbes_answered hprobe]
          exact ⟨fun h => ⟨h, rfl⟩, fun h => h.1⟩
      | error exc =>
          rw [collectProbes_failed hprobe]
          apply iff_of_false
          · exact List.append_ne_nil_of_right_ne_nil _ (List.cons_ne_nil _ _)
          · exact fun h => Bool.false_ne_true h.2

theorem successes_collectProbes :
    (collectProbes probe attempts).1 ≠ [] ↔
      ∃ attempt < attempts, (probe attempt).isOk = true := by
  induction attempts with
  | zero => exact iff_of_false (fun h => h rfl) (fun ⟨attempt, h, _⟩ => Nat.not_lt_zero attempt h)
  | succ attempts ih =>
      rw [Nat.exists_lt_succ_right, ← ih]
      cases hprobe : probe attempts with
      | ok metrics =>
          rw [collectProbes_answered hprobe]
          apply iff_of_true
          · exact List.append_ne_nil_of_right_ne_nil _ (List.cons_ne_nil _ _)
          · exact .inr rfl
      | error exc =>
          rw [collectProbes_failed hprobe]
          exact ⟨.inl, fun h => h.elim id fun hno => absurd hno Bool.false_ne_true⟩

end

theorem attemptsForProfile_bounds (limits : Limits) (configured : List Char)
    (profile : RunProfile) : 0 < attemptsForProfile limits configured profile ∧
      attemptsForProfile limits configured profile ≤ 20 := by
  have hprofile : 0 < profileAttempts profile ∧ profileAttempts profile ≤ 20 := by
    cases profile <;> decide
  unfold attemptsForProfile
  split
  · exact hprofile
  · split
    · omega
    · exact hprofile

theorem upper_targetProtocol (target : Target) :
    upper (targetProtocol target) = targetProtocol target := by
  have hnames : ∀ {s : List Char}, (∀ c ∈ s, isAscii c = true) → s.map Char.toUpper = s →
      upper s = s := by
    intro s hascii heq
    rw [upper_ascii hascii, heq]
  have hhint : ∀ hint : ProtocolHint, upper hint.text = hint.text := by
    intro hint
    cases hint <;> exact hnames (by decide) (by decide)
  unfold targetProtocol
  split
  · exact hnames (by decide) (by decide)
  · split
    · exact hnames (by decide) (by decide)
    · split
      · exact hnames (by decide) (by decide)
      · rw [hhint, hhint]

/-- With no baseline and the default thresholds a target passes exactly where every attempt was
answered, and a failed attempt makes it fail against any baseline; the compatibility of a target
passes as soon as one attempt was answered. -/
theorem measured_target_verdict (limits : Limits) (configured : List Char)
    (probe : ProbeKind → Nat → Except ProbeException Dict) (target : Target) (profile : RunProfile) :
    let attempts := attemptsForProfile limits configured profile
    let answers := probe (probeKind target (targetProtocol target))
    let measurement := measureTarget floatRepr limits configured probe target profile
    (∃ evaluation, Engine.evaluateAssetPerformance floatRepr measurement.metrics none
        measurement.compatibilityStatus none = .ok evaluation ∧
      evaluation.status =
        if ∀ attempt < attempts, (answers attempt).isOk = true then .pass else .fail) ∧
    (∀ baseline evaluation, Engine.evaluateAssetPerformance floatRepr measurement.metrics baseline
        measurement.compatibilityStatus none = .ok evaluation →
      (∃ attempt < attempts, (answers attempt).isOk = false) → evaluation.status = .fail) ∧
    (measurement.compatibilityStatus = .pass ↔
      ∃ attempt < attempts, (answers attempt).isOk = true) := by
  intro attempts answers measurement
  have hbounds := attemptsForProfile_bounds limits configured profile
  have hlength := length_collectProbes answers attempts
  have hnone := failures_collectProbes answers attempts
  have hsome := successes_collectProbes answers attempts
  have hmeasurement : measurement = aggregateMeasurements floatRepr (targetProtocol target)
      attempts (collectProbes answers attempts).1 (collectProbes answers attempts).2 := rfl
  -- of the probes only the number of the successes and of the failures matters
  generalize collectProbes answers attempts = probes at hlength hnone hsome hmeasurement
  have hupper := upper_targetProtocol target
  have hfailed : probes.2.length ≤ attempts := by omega
  have hsampled := sampled_aggregate floatRepr (targetProtocol target) hlength
  have hstatus := compatibilityStatus_aggregate floatRepr (targetProtocol target) attempts
    probes.1 probes.2
  rw [← hmeasurement] at hsampled hstatus
  have hfails : ∀ baseline evaluation, Engine.evaluateAssetPerformance floatRepr
      measurement.metrics baseline measurement.compatibilityStatus none = .ok evaluation →
      probes.2 ≠ [] → evaluation.status = .fail := by
    intro baseline evaluation hevaluation hne
    exact fails_of_failed floatRepr hupper (List.length_pos_iff.mpr hne) hfailed hbounds.2
      hsampled hevaluation
  apply And.intro
  · obtain ⟨evaluation, key, hevaluation, hsignals, hverdict⟩ := evaluate_sampled floatRepr hupper
      hbounds.1 hfailed hbounds.2 hsampled measurement.compatibilityStatus
    apply Exists.intro evaluation
    apply And.intro hevaluation
    by_cases hall : probes.2 = []
    · rw [if_pos (hnone.mp hall), hverdict, hsignals]
      -- without failures some attempt succeeded, since there is at least one
      have hpass : measurement.compatibilityStatus = .pass := by
        apply hstatus.mpr
        intro hnil
        rw [hall, hnil] at hlength
        exact absurd hlength (Nat.ne_of_lt hbounds.1)
      have htimeouts : timeoutCount probes.2 = 0 := by
        rw [hall]
        rfl
      rw [hpass, htimeouts, hall, List.length_nil, Nat.sub_zero, fullRate hbounds.1,
        rateOf_zero hbounds.2, rateSignals_full]
      rfl
    · rw [if_neg (fun h => hall (hnone.mpr h))]
      exact hfails none evaluation hevaluation hall
  · apply And.intro
    · intro baseline evaluation hevaluation hfailing
      apply hfails baseline evaluation hevaluation
      intro hnil
      obtain ⟨attempt, hlt, hno⟩ := hfailing
      rw [hnone.mp hnil attempt hlt] at hno
      exact Bool.noConfusion hno
    · rw [hstatus, ← hsome]

end

end CryptoScanner.Performance
