import CryptoScanner.Performance.Engine.Evaluation

/-!
# Worse metrics get no better status

Every signal tests one number against two thresholds, so a number that exceeds as much raises at
least the same signal.  The order of the numbers goes through the normalisation and the deltas.
-/

namespace CryptoScanner.Performance.Engine

open Library Python

/-! ## 1. Worse metrics -/

/-- Where both values are read without an exception, both are numbers in order or neither is one. -/
def NumberLe (a b : Json) : Prop :=
  ∀ x y, number a = .ok x → number b = .ok y → Option.Rel PyFloat.AtMost x y

/-- The metrics that are worse when they are higher, and those that are worse when they are lower. -/
def higherIsWorse : List String :=
  ["failure_rate", "timeout_rate", "handshake_bytes_sent", "handshake_bytes_received"]

def lowerIsWorse : List String :=
  ["handshake_success_rate", "negotiation_success_rate", "availability_success_rate"] ++
    throughputSeries.map Prod.fst

section

variable [PyText] (floatRepr : PyFloat → List Char)

def clientChecks (metrics : Dict) : List Dict :=
  normalizeClientCompatibility floatRepr (metrics.get "client_compatibility")

/-- With the same keys, protocol and counts, the second map is no better on any metric. -/
structure NoBetter (metrics worse : Dict) : Prop where
  keys : ∀ key, (worse.lookup key).isSome = (metrics.lookup key).isSome
  protocol : worse.get "protocol" = metrics.get "protocol"
  counts : ∀ key ∈ countKeys, worse.get key = metrics.get key
  higher : ∀ key ∈ higherIsWorse, NumberLe (metrics.get key) (worse.get key)
  lower : ∀ key ∈ lowerIsWorse, NumberLe (worse.get key) (metrics.get key)
  latency : ∀ series ∈ latencySeries.map Prod.fst,
    NumberLe (seriesValue metrics series "p95") (seriesValue worse series "p95")
  checks : ∀ check ∈ clientChecks floatRepr metrics, ∃ check' ∈ clientChecks floatRepr worse,
    check'.get "profile" = check.get "profile" ∧
      statusRank (statusOfCheck floatRepr check) ≤ statusRank (statusOfCheck floatRepr check')

end

/-! ## 2. Levels -/

def levelRank : SignalLevel → Nat
  | .warn => 1
  | .fail => 2

def worst (signals : List Signal) : Nat :=
  (signals.map fun signal => levelRank signal.level).foldr max 0

theorem worst_cons (signal : Signal) (signals : List Signal) :
    worst (signal :: signals) = max (levelRank signal.level) (worst signals) := rfl

theorem worst_singleton (signal : Signal) : worst [signal] = levelRank signal.level :=
  Nat.max_zero _

theorem worst_append (signals other : List Signal) :
    worst (signals ++ other) = max (worst signals) (worst other) := by
  induction signals with
  | nil => exact (Nat.zero_max _).symm
  | cons signal signals ih => rw [List.cons_append, worst_cons, worst_cons, ih, Nat.max_assoc]

theorem worst_flatten_le {groups : List (List Signal)} {bound : Nat} :
    worst groups.flatten ≤ bound ↔ ∀ group ∈ groups, worst group ≤ bound := by
  induction groups with
  | nil => simp [worst]
  | cons group groups ih =>
      rw [List.flatten_cons, worst_append, Nat.max_le, ih, List.forall_mem_cons]

theorem worst_le {signals : List Signal} {bound : Nat} :
    worst signals ≤ bound ↔ ∀ signal ∈ signals, levelRank signal.level ≤ bound := by
  induction signals with
  | nil => simp [worst]
  | cons signal signals ih => rw [worst_cons, Nat.max_le, ih, List.forall_mem_cons]

theorem statusRank_statusFromSignals (signals : List Signal) :
    statusRank (statusFromSignals signals) = worst signals := by
  have hmem := (@worst_le signals (worst signals)).mp le_rfl
  unfold statusFromSignals
  split
  · rename_i hfail
    obtain ⟨signal, hsignal, hlevel⟩ := List.any_eq_true.mp hfail
    have hlow := hmem signal hsignal
    rw [of_decide_eq_true hlevel] at hlow
    -- no level ranks above a failing one
    have hhigh : worst signals ≤ 2 := worst_le.mpr fun signal _ => by
      cases signal.level <;> decide
    exact le_antisymm hlow hhigh
  · rename_i hfail
    have hnofail : ∀ signal ∈ signals, signal.level = .warn := by
      intro signal hsignal
      cases hlevel : signal.level with
      | warn => rfl
      | fail => exact absurd (List.any_eq_true.mpr ⟨signal, hsignal, decide_eq_true hlevel⟩) hfail
    split
    · rename_i hwarn
      obtain ⟨signal, hsignal, hlevel⟩ := List.any_eq_true.mp hwarn
      have hlow := hmem signal hsignal
      rw [of_decide_eq_true hlevel] at hlow
      have hhigh : worst signals ≤ 1 := worst_le.mpr fun signal hsignal => by
        rw [hnofail signal hsignal]
        decide
      exact le_antisymm hlow hhigh
    · rename_i hwarn
      have hempty : worst signals ≤ 0 := worst_le.mpr fun signal hsignal =>
        absurd (List.any_eq_true.mpr
          ⟨signal, hsignal, decide_eq_true (hnofail signal hsignal)⟩) hwarn
      exact (Nat.le_zero.mp hempty).symm

/-- A test that exceeds as much raises at least the same signal. -/
theorem levelSignals_mono {beyond beyond' : Json → Except EngineError Bool} {warn fail : Json}
    {signal signal' : SignalLevel → Signal} {signals signals' : List Signal}
    (hsignal : ∀ level, (signal level).level = level)
    (hsignal' : ∀ level, (signal' level).level = level)
    (hbeyond : ∀ threshold exceeds, beyond threshold = .ok true →
      beyond' threshold = .ok exceeds → exceeds = true)
    (h : levelSignals beyond warn fail signal = .ok signals)
    (h' : levelSignals beyond' warn fail signal' = .ok signals') :
    worst signals ≤ worst signals' := by
  simp only [levelSignals, bind_eq_ok] at h h'
  obtain ⟨failed, hfail, h⟩ := h
  obtain ⟨failed', hfail', h'⟩ := h'
  have hone : ∀ level, worst [signal level] = levelRank level := fun level => by
    rw [worst_singleton, hsignal]
  have hone' : ∀ level, worst [signal' level] = levelRank level := fun level => by
    rw [worst_singleton, hsignal']
  -- the second test exceeds every threshold that the first exceeds, so it stops no later
  cases failed with
  | true =>
      rw [hbeyond fail failed' hfail hfail', if_pos rfl] at h'
      cases h
      cases h'
      rw [hone, hone']
  | false =>
      rw [if_neg (by decide), bind_eq_ok] at h
      obtain ⟨warned, hwarn, h⟩ := h
      cases failed' with
      | true =>
          cases h'
          rw [hone']
          cases warned with
          | true =>
              cases h
              rw [hone]
              decide
          | false =>
              cases h
              decide
      | false =>
          rw [if_neg (by decide), bind_eq_ok] at h'
          obtain ⟨warned', hwarn', h'⟩ := h'
          cases warned with
          | true =>
              rw [hbeyond warn warned' hwarn hwarn', if_pos rfl] at h'
              cases h
              cases h'
              rw [hone, hone']
          | false =>
              cases h
              exact Nat.zero_le _

theorem level_thresholdSignal (key side : String) (value : PyFloat) (level : SignalLevel) :
    (thresholdSignal key side value level).level = level := rfl

theorem against_mono {test test' : PyFloat → Bool}
    (htest : ∀ bound, test bound = true → test' bound = true) (threshold : Json) (exceeds : Bool)
    (h : against threshold test = .ok true) (h' : against threshold test' = .ok exceeds) :
    exceeds = true := by
  unfold against at h h'
  cases hbound : threshold.number? with
  | none =>
      rw [hbound] at h
      cases h
  | some bound =>
      rw [hbound] at h h'
      rw [← Except.ok.inj h']
      exact htest bound (Except.ok.inj h)

theorem appendRateSignal_mono {key key' : String} {x y : PyFloat} (h : x.NotAbove y)
    {warn fail : Json} {signals signals' : List Signal}
    (hx : appendRateSignal key x warn fail = .ok signals)
    (hy : appendRateSignal key' y warn fail = .ok signals') : worst signals ≤ worst signals' :=
  levelSignals_mono (level_thresholdSignal key "above" x) (level_thresholdSignal key' "above" y)
    (against_mono fun _ => h.above) hx hy

theorem appendMinRateSignal_mono {key key' : String} {x y : PyFloat} (h : y.AtMost x)
    {warn fail : Json} {signals signals' : List Signal}
    (hx : appendMinRateSignal key x warn fail = .ok signals)
    (hy : appendMinRateSignal key' y warn fail = .ok signals') : worst signals ≤ worst signals' :=
  levelSignals_mono (level_thresholdSignal key "below" x) (level_thresholdSignal key' "below" y)
    (against_mono fun _ => h.under) hx hy

/-! ## 3. Deltas -/

/-- Deltas of one key, of which the second is no better. -/
structure WorseDelta (entry entry' : String × PyFloat) : Prop where
  key : entry'.1 = entry.1
  drop : entry.1 ∈ throughputSeries.map Prod.snd → entry'.2.AtMost entry.2
  rise : entry.1 ∉ throughputSeries.map Prod.snd → entry.2.NotAbove entry'.2

theorem deltaSignals_mono {thresholds : Dict} {entry entry' : String × PyFloat}
    (h : WorseDelta entry entry') {signals signals' : List Signal}
    (hx : deltaSignals thresholds entry = .ok signals)
    (hy : deltaSignals thresholds entry' = .ok signals') : worst signals ≤ worst signals' := by
  unfold deltaSignals at hx hy
  dsimp only at hx hy
  rw [h.key] at hy
  by_cases hdrop : entry.1 ∈ throughputSeries.map Prod.snd
  · rw [if_pos hdrop] at hx hy
    exact levelSignals_mono (level_thresholdSignal _ _ _) (level_thresholdSignal _ _ _)
      (against_mono fun _ => (h.drop hdrop).under) hx hy
  · rw [if_neg hdrop] at hx hy
    by_cases hbytes : entry.1 = "handshake_bytes_percent"
    · rw [if_pos hbytes] at hx hy
      exact appendRateSignal_mono (h.rise hdrop) hx hy
    · rw [if_neg hbytes] at hx hy
      exact appendRateSignal_mono (h.rise hdrop) hx hy

/-- The delta of a candidate that exceeds as much against one baseline. -/
theorem percentDelta_rel {R : PyFloat → PyFloat → Prop} (hrefl : R .nan .nan)
    (hkeeps : ∀ f, PyFloat.Keeps f → ∀ x y, R x y → R (f x) (f y)) {x y : Option PyFloat}
    (h : Option.Rel R x y) (baseline : Option PyFloat) :
    Option.Rel R (percentDelta x baseline) (percentDelta y baseline) := by
  cases h with
  | none => exact .none
  | some hle =>
      cases baseline with
      | none => exact .none
      | some b =>
          rename_i x y
          have hdelta : ∀ z : PyFloat, percentDelta (some z) (some b) =
              if b.le zero then none else some ((((z.sub b).div b).scale 100).round 2) :=
            fun _ => rfl
          rw [hdelta, hdelta]
          cases hpos : b.le zero with
          | true => exact .none
          | false =>
              rw [if_neg (by decide), if_neg (by decide)]
              apply Option.Rel.some
              cases b with
              | finite b =>
                  have hb : 0 < b := by
                    rw [zero, PyFloat.le_finite, decide_eq_false_iff_not, not_le] at hpos
                    exact hpos
                  apply hkeeps _ (PyFloat.keeps_round 2)
                  apply hkeeps _ (PyFloat.keeps_scale 100)
                  apply hkeeps _ (PyFloat.keeps_div hb)
                  exact hkeeps _ (PyFloat.keeps_sub b) x y hle
              | negInf => cases hpos
              -- a baseline that is no finite number makes every percentage `nan`
              | inf => cases x <;> cases y <;> exact hrefl
              | nan => cases x <;> cases y <;> exact hrefl

theorem percentDelta_atMost {x y : Option PyFloat} (h : Option.Rel PyFloat.AtMost x y)
    (baseline : Option PyFloat) :
    Option.Rel PyFloat.AtMost (percentDelta x baseline) (percentDelta y baseline) :=
  percentDelta_rel (.inl rfl) (fun _ hf _ _ => hf.atMost) h baseline

theorem percentDelta_notAbove {x y : Option PyFloat} (h : Option.Rel PyFloat.NotAbove x y)
    (baseline : Option PyFloat) :
    Option.Rel PyFloat.NotAbove (percentDelta x baseline) (percentDelta y baseline) :=
  percentDelta_rel (.inl rfl) (fun _ hf _ _ => hf.notAbove) h baseline

theorem deltaEntry_worse {key : String} {candidate candidate' baseline :
      Except EngineError (Option PyFloat)} {entries entries' : List (String × PyFloat)}
    (h : ∀ x y b, candidate = .ok x → candidate' = .ok y →
      (key ∈ throughputSeries.map Prod.snd →
        Option.Rel PyFloat.AtMost (percentDelta y b) (percentDelta x b)) ∧
      (key ∉ throughputSeries.map Prod.snd →
        Option.Rel PyFloat.NotAbove (percentDelta x b) (percentDelta y b)))
    (hx : deltaEntry key candidate baseline = .ok entries)
    (hy : deltaEntry key candidate' baseline = .ok entries') :
    List.Forall₂ WorseDelta entries entries' := by
  simp only [deltaEntry, bind_eq_ok] at hx hy
  obtain ⟨x, hcandidate, b, hbaseline, hx⟩ := hx
  obtain ⟨y, hcandidate', b', hbaseline', hy⟩ := hy
  rw [hbaseline] at hbaseline'
  cases hbaseline'
  cases hx
  cases hy
  have hrel := h x y b hcandidate hcandidate'
  by_cases hdrop : key ∈ throughputSeries.map Prod.snd
  · have hle := hrel.1 hdrop
    generalize percentDelta x b = d at hle ⊢
    generalize percentDelta y b = d' at hle ⊢
    cases hle with
    | none => exact .nil
    | some hle => exact .cons ⟨rfl, fun _ => hle, fun hno => absurd hdrop hno⟩ .nil
  · have hle := hrel.2 hdrop
    generalize percentDelta x b = d at hle ⊢
    generalize percentDelta y b = d' at hle ⊢
    cases hle with
    | none => exact .nil
    | some hle => exact .cons ⟨rfl, fun hyes => absurd hyes hdrop, fun _ => hle⟩ .nil

/-- The metrics that the deltas read, in order. -/
structure WorseSeries (metrics worse : Dict) : Prop where
  latency : ∀ entry ∈ latencySeries,
    NumberLe (seriesValue metrics entry.1 "p95") (seriesValue worse entry.1 "p95")
  throughput : ∀ entry ∈ throughputSeries, NumberLe (worse.get entry.1) (metrics.get entry.1)
  sent : NumberLe (metrics.get "handshake_bytes_sent") (worse.get "handshake_bytes_sent")
  received :
    NumberLe (metrics.get "handshake_bytes_received") (worse.get "handshake_bytes_received")

theorem Rel.notAbove {x y : Option PyFloat} (h : Option.Rel PyFloat.AtMost x y) :
    Option.Rel PyFloat.NotAbove x y := by
  cases h with
  | none => exact .none
  | some h => exact .some (.inr (.inr h))

theorem handshakeBytes_notAbove {metrics worse : Dict} (h : WorseSeries metrics worse)
    {x y : Option PyFloat} (hx : handshakeBytes metrics = .ok x)
    (hy : handshakeBytes worse = .ok y) : Option.Rel PyFloat.NotAbove x y := by
  simp only [handshakeBytes, bind_eq_ok] at hx hy
  obtain ⟨sent, hsent, received, hreceived, hx⟩ := hx
  obtain ⟨sent', hsent', received', hreceived', hy⟩ := hy
  cases h.sent _ _ hsent hsent' with
  | none =>
      cases h.received _ _ hreceived hreceived' with
      | none =>
          cases hx
          cases hy
          exact .none
      | some hle =>
          cases hx
          cases hy
          exact .some (PyFloat.AtMost.add (.inl rfl) hle)
  | some hle =>
      cases h.received _ _ hreceived hreceived' with
      | none =>
          cases hx
          cases hy
          exact .some (hle.add (.inl rfl))
      | some hle' =>
          cases hx
          cases hy
          exact .some (hle.add hle')

theorem calculateDeltas_worse {metrics worse baselineMetrics : Dict}
    (h : WorseSeries metrics worse) {deltas deltas' : List (String × PyFloat)}
    (hx : calculateDeltas metrics baselineMetrics = .ok deltas)
    (hy : calculateDeltas worse baselineMetrics = .ok deltas') :
    List.Forall₂ WorseDelta deltas deltas' := by
  simp only [calculateDeltas, bind_eq_ok] at hx hy
  obtain ⟨latency, hlatency, throughput, hthroughput, bytes, hbytes, hx⟩ := hx
  obtain ⟨latency', hlatency', throughput', hthroughput', bytes', hbytes', hy⟩ := hy
  cases hx
  cases hy
  -- a latency that rises is worse, and a throughput that drops
  have hrise : ∀ entry ∈ latencySeries, entry.2 ∉ throughputSeries.map Prod.snd := by decide
  have hfirst : List.Forall₂ (List.Forall₂ WorseDelta) latency latency' := by
    apply mapM_forall₂_same _ hlatency hlatency'
    intro entry hentry entries entries' hx hy
    refine deltaEntry_worse (fun x y b hx hy => ⟨fun hdrop => absurd hdrop (hrise entry hentry),
      fun _ => ?_⟩) hx hy
    exact percentDelta_notAbove (Rel.notAbove (h.latency entry hentry x y hx hy)) b
  have hdrop : ∀ entry ∈ throughputSeries, entry.2 ∈ throughputSeries.map Prod.snd :=
    fun entry hentry => List.mem_map_of_mem hentry
  have hsecond : List.Forall₂ (List.Forall₂ WorseDelta) throughput throughput' := by
    apply mapM_forall₂_same _ hthroughput hthroughput'
    intro entry hentry entries entries' hx hy
    refine deltaEntry_worse (fun x y b hx hy => ⟨fun _ => ?_,
      fun hrise => absurd (hdrop entry hentry) hrise⟩) hx hy
    exact percentDelta_atMost (h.throughput entry hentry y x hy hx) b
  have hlast : List.Forall₂ WorseDelta bytes bytes' := by
    refine deltaEntry_worse (fun x y b hx hy => ⟨fun hdrop => absurd hdrop (by decide),
      fun _ => ?_⟩) hbytes hbytes'
    exact percentDelta_notAbove (handshakeBytes_notAbove h hx hy) b
  exact List.rel_append (List.rel_append (List.rel_flatten hfirst) (List.rel_flatten hsecond)) hlast

/-! ## 4. Signals -/

theorem worst_le_of_forall₂ {groups groups' : List (List Signal)}
    (h : List.Forall₂ (fun group group' => worst group ≤ worst group') groups groups') :
    worst groups.flatten ≤ worst groups'.flatten := by
  induction h with
  | nil => exact le_rfl
  | cons hle _ ih =>
      rw [List.flatten_cons, List.flatten_cons, worst_append, worst_append]
      exact max_le_max hle ih

theorem compatibilitySignals_mono {status status' : ResultStatus}
    (h : statusRank status ≤ statusRank status') :
    worst (compatibilitySignals status) ≤ worst (compatibilitySignals status') := by
  cases status <;> cases status' <;> first | decide | exact absurd h (by decide)

/-- The rates that the signals read, in order. -/
structure WorseRates (successKey : String) (metrics worse : Dict) : Prop where
  failure : NumberLe (metrics.get "failure_rate") (worse.get "failure_rate")
  success : NumberLe (worse.get successKey) (metrics.get successKey)
  availability : NumberLe (worse.get "availability_success_rate")
    (metrics.get "availability_success_rate")

section

variable [PyText] (floatRepr : PyFloat → List Char)

theorem checkSignals_mono {fields fields' : Dict} {signals signals' : List Signal}
    (h : statusRank (statusOfCheck floatRepr fields) ≤ statusRank (statusOfCheck floatRepr fields'))
    (hx : checkSignals floatRepr (.dict fields) = .ok signals)
    (hy : checkSignals floatRepr (.dict fields') = .ok signals') :
    worst signals ≤ worst signals' := by
  simp only [checkSignals] at hx hy
  cases hstatus : statusOfCheck floatRepr fields <;>
    cases hstatus' : statusOfCheck floatRepr fields' <;>
      rw [hstatus] at hx h <;> rw [hstatus'] at hy h <;>
        first
          | exact absurd h (by decide)
          | simp [← Except.ok.inj hx, ← Except.ok.inj hy, worst, levelRank]

theorem checks_mono {checks checks' : List Dict} {groups groups' : List (List Signal)}
    (h : ∀ check ∈ checks, ∃ check' ∈ checks',
      statusRank (statusOfCheck floatRepr check) ≤ statusRank (statusOfCheck floatRepr check'))
    (hx : (checks.map Json.dict).mapM (checkSignals floatRepr) = .ok groups)
    (hy : (checks'.map Json.dict).mapM (checkSignals floatRepr) = .ok groups') :
    worst groups.flatten ≤ worst groups'.flatten := by
  apply worst_flatten_le.mpr
  intro group hgroup
  obtain ⟨check, hcheck, hsignals⟩ := (mem_mapM hx).1 group hgroup
  obtain ⟨fields, hfields, rfl⟩ := List.mem_map.mp hcheck
  obtain ⟨fields', hfields', hle⟩ := h fields hfields
  obtain ⟨group', hgroup', hsignals'⟩ := (mem_mapM hy).2 _ (List.mem_map_of_mem hfields')
  exact (checkSignals_mono floatRepr hle hsignals hsignals').trans
    (worst_flatten_le.mp le_rfl group' hgroup')

theorem successMetric_rel {metrics worse : Dict}
    (hkey : successRateKey floatRepr worse = successRateKey floatRepr metrics)
    (h : WorseRates (successRateKey floatRepr metrics) metrics worse)
    {x y : Option (String × PyFloat)} (hx : successMetric floatRepr metrics = .ok x)
    (hy : successMetric floatRepr worse = .ok y) :
    Option.Rel (fun rate rate' => rate'.2.AtMost rate.2) x y := by
  simp only [successMetric, bind_eq_ok, hkey] at hx hy
  obtain ⟨rate, hrate, hx⟩ := hx
  obtain ⟨rate', hrate', hy⟩ := hy
  cases h.success _ _ hrate' hrate with
  | some hle =>
      cases hx
      cases hy
      exact .some hle
  | none =>
      simp only [bind_eq_ok] at hx hy
      obtain ⟨available, havailable, hx⟩ := hx
      obtain ⟨available', havailable', hy⟩ := hy
      cases h.availability _ _ havailable' havailable with
      | some hle =>
          cases hx
          cases hy
          exact .some hle
      | none =>
          cases hx
          cases hy
          exact .none

theorem successSignals_mono {metrics worse thresholds : Dict}
    (hkey : successRateKey floatRepr worse = successRateKey floatRepr metrics)
    (h : WorseRates (successRateKey floatRepr metrics) metrics worse)
    {signals signals' : List Signal}
    (hx : successSignals floatRepr metrics thresholds = .ok signals)
    (hy : successSignals floatRepr worse thresholds = .ok signals') :
    worst signals ≤ worst signals' := by
  simp only [successSignals, bind_eq_ok] at hx hy
  obtain ⟨rate, hrate, hx⟩ := hx
  obtain ⟨rate', hrate', hy⟩ := hy
  cases successMetric_rel floatRepr hkey h hrate hrate' with
  | none =>
      cases hx
      exact Nat.zero_le _
  | some hle => exact appendMinRateSignal_mono hle hx hy

end

/-! ## 5. Normalised metrics -/

theorem NumberLe.refl (value : Json) : NumberLe value value := by
  intro x y hx hy
  rw [hx] at hy
  cases hy
  cases x with
  | none => exact .none
  | some x => exact .some (.inl rfl)

theorem numberLe_of_numbers {a b : Json} {x y : PyFloat} (ha : number a = .ok (some x))
    (hb : number b = .ok (some y)) (h : x.AtMost y) : NumberLe a b := by
  intro x' y' hx hy
  rw [ha] at hx
  rw [hb] at hy
  cases hx
  cases hy
  exact .some h

theorem numberLe_float {x y : PyFloat} (h : x.AtMost y) : NumberLe (.float x) (.float y) :=
  numberLe_of_numbers rfl rfl h

theorem clampRate_finite (q : ℚ) : clampRate (.finite q) = .finite (max 0 (min 1 q)) := by
  have hlt : ∀ a b : ℚ, PyFloat.lt (.finite a) (.finite b) = decide (a < b) := fun _ _ => rfl
  have hlow : (if PyFloat.lt (.finite q) one then PyFloat.finite q else one) =
      .finite (min 1 q) := by
    rw [one, hlt]
    by_cases hone : q < 1
    · rw [if_pos (decide_eq_true hone), min_eq_right hone.le]
    · rw [if_neg (by simpa using hone), min_eq_left (not_lt.mp hone)]
  rw [clampRate, hlow, zero, hlt]
  by_cases hzero : 0 < min 1 q
  · rw [if_pos (decide_eq_true hzero), max_eq_right hzero.le]
  · rw [if_neg (by simpa using hzero), max_eq_left (not_lt.mp hzero)]

/-- Bringing a rate between its bounds keeps the order. -/
theorem clampRate_mono {x y : PyFloat} (h : x.AtMost y) : (clampRate x).AtMost (clampRate y) := by
  have hbounds : ∀ q : ℚ, 0 ≤ max 0 (min 1 q) ∧ max 0 (min 1 q) ≤ 1 := fun q =>
    ⟨le_max_left _ _, max_le zero_le_one (min_le_left _ _)⟩
  rcases h.cases with rfl | ⟨q, r, rfl, rfl, hle⟩ | ⟨rfl, hy⟩ | ⟨hx, rfl⟩
  · exact .inl rfl
  · rw [clampRate_finite, clampRate_finite]
    exact PyFloat.atMost_of_le (max_le_max le_rfl (min_le_min le_rfl hle))
  · show zero.AtMost (clampRate y)
    cases y with
    | finite r =>
        rw [clampRate_finite]
        exact PyFloat.atMost_of_le (hbounds r).1
    | inf => exact PyFloat.atMost_of_le zero_le_one
    | negInf => exact .inl rfl
    | nan => exact absurd rfl hy
  · show (clampRate x).AtMost one
    cases x with
    | finite q =>
        rw [clampRate_finite]
        exact PyFloat.atMost_of_le (hbounds q).2
    | inf => exact .inl rfl
    | negInf => exact PyFloat.atMost_of_le zero_le_one
    | nan => exact absurd rfl hx

/-- The rounded rate of a failure rate falls, and that of a success rate rises. -/
theorem roundedRate_mono {x y : PyFloat} (h : x.AtMost y) :
    NumberLe (.float ((clampRate x).round 4)) (.float ((clampRate y).round 4)) :=
  numberLe_float ((PyFloat.keeps_round 4).atMost (clampRate_mono h))

/-- The value under a key that both maps have or neither has, else what is stored in its place. -/
theorem numberLe_getD {a b : Option Json} {c d : Json} (hsome : a.isSome = b.isSome)
    (h : NumberLe (a.getD .null) (b.getD .null)) (hdefault : NumberLe c d) :
    NumberLe (a.getD c) (b.getD d) := by
  cases a with
  | none =>
      cases b with
      | none => exact hdefault
      | some => cases hsome
  | some =>
      cases b with
      | none => cases hsome
      | some => exact h

section

variable {metrics worse : Dict} {successKey : String}

theorem setCountedRate_worse {success total : PyFloat}
    (hkey : successKey = "negotiation_success_rate" ∨ successKey = "handshake_success_rate")
    (hsome : (metrics.lookup "failure_rate").isSome = (worse.lookup "failure_rate").isSome)
    (hfailure : NumberLe (metrics.get "failure_rate") (worse.get "failure_rate")) :
    WorseRates successKey (setCountedRate successKey success total metrics)
      (setCountedRate successKey success total worse) := by
  obtain ⟨hrate, havailable, hfailed, -⟩ :=
    lookups_setCountedRate success total hkey metrics
  obtain ⟨hrate', havailable', hfailed', -⟩ :=
    lookups_setCountedRate success total hkey worse
  refine ⟨?_, ?_, ?_⟩
  · rw [Dict.get, Dict.get, hfailed, hfailed', Option.getD_some, Option.getD_some]
    exact numberLe_getD hsome hfailure (NumberLe.refl _)
  · rw [Dict.get, Dict.get, hrate, hrate']
    exact NumberLe.refl _
  · rw [Dict.get, Dict.get, havailable, havailable']
    exact NumberLe.refl _

/-- Both success rates are there afterwards, the one of the protocol as it was or as the other. -/
theorem derived_worse {derived derived' : Dict} {rate rate' : Json}
    (hsome : (worse.lookup successKey).isSome = (metrics.lookup successKey).isSome)
    (h : WorseRates successKey metrics worse) (hrate : NumberLe rate' rate)
    (hfailure : derived.get "failure_rate" = metrics.get "failure_rate")
    (hfailure' : derived'.get "failure_rate" = worse.get "failure_rate")
    (hsuccess : derived.get successKey = (metrics.lookup successKey).getD rate)
    (hsuccess' : derived'.get successKey = (worse.lookup successKey).getD rate')
    (havailable : derived.get "availability_success_rate" = rate)
    (havailable' : derived'.get "availability_success_rate" = rate') :
    WorseRates successKey derived derived' := by
  refine ⟨?_, ?_, ?_⟩
  · rw [hfailure, hfailure']
    exact h.failure
  · rw [hsuccess, hsuccess']
    exact numberLe_getD hsome h.success hrate
  · rw [havailable, havailable']
    exact hrate

theorem deriveRates_worse (hne : successKey ≠ "availability_success_rate")
    (hne' : successKey ≠ "failure_rate")
    (hkeys : ∀ key ∈ [successKey, "availability_success_rate"],
      (worse.lookup key).isSome = (metrics.lookup key).isSome)
    (h : WorseRates successKey metrics worse) {derived derived' : Dict}
    (hx : deriveRates successKey metrics = .ok derived)
    (hy : deriveRates successKey worse = .ok derived') :
    WorseRates successKey derived derived' := by
  have hsome := hkeys successKey List.mem_cons_self
  have havailable := hkeys "availability_success_rate" (List.mem_cons_of_mem _ List.mem_cons_self)
  have hfailure : ∀ {metrics derived : Dict}, deriveRates successKey metrics = .ok derived →
      derived.get "failure_rate" = metrics.get "failure_rate" := fun hderived =>
    Dict.get_of_lookup ((deriveRates_cases hne hderived).1 _ hne'.symm (by decide))
  have hfailed := hfailure hx
  have hfailed' := hfailure hy
  unfold deriveRates at hx hy
  rw [havailable] at hy
  by_cases hpresent : (metrics.lookup "availability_success_rate").isSome = true
  · rw [if_pos hpresent] at hx hy
    cases hx
    cases hy
    apply derived_worse hsome h h.availability hfailed hfailed'
    · rw [Dict.get_setdefault, if_pos rfl]
    · rw [Dict.get_setdefault, if_pos rfl]
    · rw [Dict.get_setdefault, if_neg hne.symm]
    · rw [Dict.get_setdefault, if_neg hne.symm]
  · rw [if_neg hpresent, bind_eq_ok] at hx hy
    obtain ⟨failureRate, hread, hx⟩ := hx
    obtain ⟨failureRate', hread', hy⟩ := hy
    cases h.failure _ _ hread hread' with
    | @some a b hle =>
        cases hx
        cases hy
        -- the higher failure rate leaves the lower success rate
        have hrate : NumberLe (.float ((clampRate (one.sub b)).round 4))
            (.float ((clampRate (one.sub a)).round 4)) := roundedRate_mono (hle.sub_left 1)
        apply derived_worse hsome h hrate hfailed hfailed'
        · rw [Dict.get_setdefault, if_pos rfl, Library.Dict.lookup_set, if_neg hne]
        · rw [Dict.get_setdefault, if_pos rfl, Library.Dict.lookup_set, if_neg hne]
        · rw [Dict.get_setdefault, if_neg hne.symm, Dict.get_set, if_pos rfl]
        · rw [Dict.get_setdefault, if_neg hne.symm, Dict.get_set, if_pos rfl]
    | none =>
        simp only [bind_eq_ok] at hx hy
        obtain ⟨direct, hdirect, hx⟩ := hx
        obtain ⟨direct', hdirect', hy⟩ := hy
        cases h.success _ _ hdirect' hdirect with
        | none =>
            cases hx
            cases hy
            exact h
        | some hle =>
            cases hx
            cases hy
            refine ⟨?_, ?_, ?_⟩
            · rw [hfailed, hfailed']
              exact h.failure
            · rw [Dict.get_set, Dict.get_set, if_neg hne, if_neg hne]
              exact h.success
            · rw [Dict.get_set, Dict.get_set, if_pos rfl, if_pos rfl]
              exact roundedRate_mono hle

end

/-! ## 6. The status -/

section

variable [PyText] (floatRepr : PyFloat → List Char)

/-- A normalised map has the client checks that normalisation reads. -/
theorem clientCompatibilityChecks_normalized {metrics normalized : Dict}
    (h : normalizeAvailabilityMetrics floatRepr (some metrics) = .ok normalized) :
    clientCompatibilityChecks normalized = (clientChecks floatRepr metrics).map .dict := by
  have hkey : ∀ successKey, successKey = "negotiation_success_rate" ∨
      successKey = "handshake_success_rate" → "client_compatibility" ∉ rateKeys successKey := by
    rintro successKey (rfl | rfl) <;> decide
  have hlookup := lookup_normalizeRates floatRepr
    (hkey _ (successRateKey_cases floatRepr (normalizeTexts floatRepr metrics))) h
  have hraw : (normalizeTextMetric floatRepr "failure_reason" (normalizeTextMetric floatRepr
      "response_code" (upperProtocol floatRepr metrics))).get "client_compatibility" =
        metrics.get "client_compatibility" := by
    apply Dict.get_of_lookup
    rw [lookup_normalizeTextMetric floatRepr (by decide),
      lookup_normalizeTextMetric floatRepr (by decide), lookup_upperProtocol floatRepr (by decide)]
  rw [clientCompatibilityChecks, Dict.get_of_lookup hlookup]
  unfold normalizeTexts
  dsimp only [Option.getD_some]
  have hchecks : normalizeClientCompatibility floatRepr (metrics.get "client_compatibility") =
      clientChecks floatRepr metrics := rfl
  rw [hraw, hchecks]
  unfold setClientChecks
  by_cases hempty : clientChecks floatRepr metrics = []
  · rw [if_pos hempty, Dict.get, Library.Dict.lookup_pop, if_pos rfl, hempty]
    rfl
  · rw [if_neg hempty, Dict.get_set, if_pos rfl]

theorem get_normalized {metrics normalized : Dict}
    (h : normalizeAvailabilityMetrics floatRepr (some metrics) = .ok normalized) {key : String}
    (htext : key ∉ textKeys) (hrate : ∀ successKey, successKey = "negotiation_success_rate" ∨
      successKey = "handshake_success_rate" → key ∉ rateKeys successKey) :
    normalized.get key = metrics.get key := by
  apply Dict.get_of_lookup
  rw [lookup_normalizeRates floatRepr
    (hrate _ (successRateKey_cases floatRepr (normalizeTexts floatRepr metrics))) h,
    lookup_normalizeTexts floatRepr htext]

variable {floatRepr}

omit [PyText] in
theorem not_mem_rateKeys {successKey : String} (h : successKey = "negotiation_success_rate" ∨
    successKey = "handshake_success_rate") {key : String}
    (hkey : key ∉ ["negotiation_success_rate", "handshake_success_rate", "availability_success_rate",
      "failure_rate", "total_negotiations", "total_handshakes"]) : key ∉ rateKeys successKey := by
  have hsubset : rateKeys successKey ⊆ ["negotiation_success_rate", "handshake_success_rate",
      "availability_success_rate", "failure_rate", "total_negotiations", "total_handshakes"] := by
    rcases h with rfl | rfl <;> decide
  exact fun hmem => hkey (hsubset hmem)

/-- Before the rates are derived they are in the order of the maps. -/
theorem NoBetter.texts {metrics worse : Dict} (h : NoBetter floatRepr metrics worse)
    {successKey : String} (hkey : successKey = "negotiation_success_rate" ∨
      successKey = "handshake_success_rate") :
    WorseRates successKey (normalizeTexts floatRepr metrics) (normalizeTexts floatRepr worse) := by
  have hget : ∀ metrics key, key ∉ textKeys →
      (normalizeTexts floatRepr metrics).get key = metrics.get key := fun metrics key hkey =>
    Dict.get_of_lookup (lookup_normalizeTexts floatRepr hkey metrics)
  have hrate : successKey ∉ textKeys ∧ successKey ∈ lowerIsWorse := by
    rcases hkey with rfl | rfl <;> decide
  refine ⟨?_, ?_, ?_⟩
  · rw [hget _ _ (by decide), hget _ _ (by decide)]
    exact h.higher _ (by decide)
  · rw [hget _ _ hrate.1, hget _ _ hrate.1]
    exact h.lower _ hrate.2
  · rw [hget _ _ (by decide), hget _ _ (by decide)]
    exact h.lower _ (by decide)

theorem NoBetter.rates {metrics worse normalized normalized' : Dict}
    (h : NoBetter floatRepr metrics worse)
    (hx : normalizeAvailabilityMetrics floatRepr (some metrics) = .ok normalized)
    (hy : normalizeAvailabilityMetrics floatRepr (some worse) = .ok normalized') :
    successRateKey floatRepr normalized' = successRateKey floatRepr normalized ∧
      WorseRates (successRateKey floatRepr normalized) normalized normalized' := by
  unfold normalizeAvailabilityMetrics at hx hy
  rw [Option.getD_some] at hx hy
  have hprotocol : (normalizeTexts floatRepr worse).get "protocol" =
      (normalizeTexts floatRepr metrics).get "protocol" := by
    rw [get_normalizeTexts_protocol, get_normalizeTexts_protocol]
    exact get_upperProtocol_congr floatRepr h.protocol
  have hkey := successRateKey_cases floatRepr (normalizeTexts floatRepr metrics)
  have hkey' := successRateKey_cases floatRepr (normalizeTexts floatRepr worse)
  have hsame := successRateKey_congr floatRepr hprotocol
  -- the protocol, and with it the key, outlives the rates
  have hout : "protocol" ∉ rateKeys _ := not_mem_rateKeys hkey (by decide)
  have hout' : "protocol" ∉ rateKeys _ := not_mem_rateKeys hkey' (by decide)
  have hkept := successRateKey_congr floatRepr
    (Dict.get_of_lookup (lookup_normalizeRates floatRepr hout hx))
  have hkept' := successRateKey_congr floatRepr
    (Dict.get_of_lookup (lookup_normalizeRates floatRepr hout' hy))
  refine ⟨by rw [hkept, hkept', hsame], ?_⟩
  rw [hkept]
  have hsome : ∀ key, key ∉ textKeys → ((normalizeTexts floatRepr worse).lookup key).isSome =
      ((normalizeTexts floatRepr metrics).lookup key).isSome := by
    intro key hkey
    rw [lookup_normalizeTexts floatRepr hkey, lookup_normalizeTexts floatRepr hkey]
    exact h.keys key
  have hcounts : countedRate (normalizeTexts floatRepr worse) =
      countedRate (normalizeTexts floatRepr metrics) := by
    have hdisjoint : ∀ key ∈ countKeys, key ∉ textKeys := by decide
    apply countedRate_congr
    intro key hmem
    rw [Dict.get_of_lookup (lookup_normalizeTexts floatRepr (hdisjoint key hmem) worse),
      Dict.get_of_lookup (lookup_normalizeTexts floatRepr (hdisjoint key hmem) metrics)]
    exact h.counts key hmem
  have hrates := h.texts hkey
  rw [normalizeRates, bind_eq_ok] at hx hy
  rw [hcounts, hsame] at hy
  obtain ⟨counted, hcounted, hx⟩ := hx
  obtain ⟨counted', hcounted', hy⟩ := hy
  rw [hcounted] at hcounted'
  cases hcounted'
  cases counted with
  | some rate =>
      obtain ⟨success, total⟩ := rate
      rw [← Except.ok.inj hx, ← Except.ok.inj hy]
      exact setCountedRate_worse hkey (hsome "failure_rate" (by decide)).symm hrates.failure
  | none =>
      apply deriveRates_worse _ _ _ hrates hx hy
      · rcases hkey with heq | heq <;> rw [heq] <;> decide
      · rcases hkey with heq | heq <;> rw [heq] <;> decide
      · intro key hmem
        apply hsome
        have hdisjoint : ∀ successKey, successKey = "negotiation_success_rate" ∨
            successKey = "handshake_success_rate" →
              ∀ key ∈ [successKey, "availability_success_rate"], key ∉ textKeys := by
          rintro successKey (rfl | rfl) <;> decide
        exact hdisjoint _ hkey key hmem

theorem NoBetter.series {metrics worse normalized normalized' : Dict}
    (h : NoBetter floatRepr metrics worse)
    (hx : normalizeAvailabilityMetrics floatRepr (some metrics) = .ok normalized)
    (hy : normalizeAvailabilityMetrics floatRepr (some worse) = .ok normalized') :
    WorseSeries normalized normalized' := by
  have hget : ∀ {metrics normalized : Dict},
      normalizeAvailabilityMetrics floatRepr (some metrics) = .ok normalized →
        ∀ key, key ∉ textKeys ++ ["negotiation_success_rate", "handshake_success_rate",
          "availability_success_rate", "failure_rate", "total_negotiations", "total_handshakes"] →
            normalized.get key = metrics.get key := by
    intro metrics normalized hnormal key hkey
    rw [List.mem_append, not_or] at hkey
    exact get_normalized floatRepr hnormal hkey.1 fun _ hsuccess => not_mem_rateKeys hsuccess hkey.2
  have hlatency : ∀ entry ∈ latencySeries, entry.1 ∉ textKeys ++ ["negotiation_success_rate",
      "handshake_success_rate", "availability_success_rate", "failure_rate", "total_negotiations",
      "total_handshakes"] := by decide
  have hthroughput : ∀ entry ∈ throughputSeries, entry.1 ∉ textKeys ++ ["negotiation_success_rate",
      "handshake_success_rate", "availability_success_rate", "failure_rate", "total_negotiations",
      "total_handshakes"] ∧ entry.1 ∈ lowerIsWorse := by decide
  refine ⟨?_, ?_, ?_, ?_⟩
  · intro entry hentry
    rw [seriesValue, seriesValue, hget hx _ (hlatency entry hentry),
      hget hy _ (hlatency entry hentry)]
    exact h.latency entry.1 (List.mem_map_of_mem hentry)
  · intro entry hentry
    rw [hget hx _ (hthroughput entry hentry).1, hget hy _ (hthroughput entry hentry).1]
    exact h.lower entry.1 (hthroughput entry hentry).2
  · rw [hget hx _ (by decide), hget hy _ (by decide)]
    exact h.higher _ (by decide)
  · rw [hget hx _ (by decide), hget hy _ (by decide)]
    exact h.higher _ (by decide)

omit [PyText] in
theorem getD_zero_notAbove {x y : Option PyFloat} (h : Option.Rel PyFloat.AtMost x y) :
    (x.getD zero).NotAbove (y.getD zero) := by
  cases h with
  | none => exact .inr (.inr (.inl rfl))
  | some h => exact .inr (.inr h)

/-- **Worse metrics get no better status.** -/
theorem evaluate_monotone {metrics worse : Dict} {baselineMetrics thresholds : Option Dict}
    {compatibilityStatus compatibilityStatus' : ResultStatus} {evaluation evaluation' : Evaluation}
    (hworse : NoBetter floatRepr metrics worse)
    (hcompatibility : statusRank compatibilityStatus ≤ statusRank compatibilityStatus')
    (h : evaluateAssetPerformance floatRepr metrics baselineMetrics compatibilityStatus thresholds =
      .ok evaluation)
    (h' : evaluateAssetPerformance floatRepr worse baselineMetrics compatibilityStatus' thresholds =
      .ok evaluation') :
    statusRank evaluation.status ≤ statusRank evaluation'.status := by
  simp only [evaluateAssetPerformance, bind_eq_ok] at h h'
  obtain ⟨normalized, hnormal, baseline, hbaseline, deltas, hdeltas, signals, hsignals, h⟩ := h
  obtain ⟨normalized', hnormal', baseline', hbaseline', deltas', hdeltas', signals', hsignals',
    h'⟩ := h'
  -- both are compared with one baseline
  rw [hbaseline] at hbaseline'
  cases hbaseline'
  cases h
  cases h'
  show statusRank (statusFromSignals signals) ≤ statusRank (statusFromSignals signals')
  rw [statusRank_statusFromSignals, statusRank_statusFromSignals]
  have hseries := hworse.series hnormal hnormal'
  obtain ⟨hkey, hrates⟩ := hworse.rates hnormal hnormal'
  have hchanges := calculateDeltas_worse hseries hdeltas hdeltas'
  simp only [collectSignals, bind_eq_ok] at hsignals hsignals'
  obtain ⟨failureRate, hfailureRate, timeoutRate, htimeoutRate, success, hsuccess, failure, hfailure,
    timeout, htimeout, checks, hchecks, changes, hchange, hsignals⟩ := hsignals
  obtain ⟨failureRate', hfailureRate', timeoutRate', htimeoutRate', success', hsuccess', failure',
    hfailure', timeout', htimeout', checks', hchecks', changes', hchange', hsignals'⟩ := hsignals'
  cases hsignals
  cases hsignals'
  have htimeoutLe : NumberLe (normalized.get "timeout_rate") (normalized'.get "timeout_rate") := by
    have hout : ∀ successKey, successKey = "negotiation_success_rate" ∨
        successKey = "handshake_success_rate" → "timeout_rate" ∉ rateKeys successKey :=
      fun _ hkey => not_mem_rateKeys hkey (by decide)
    rw [get_normalized floatRepr hnormal (by decide) hout,
      get_normalized floatRepr hnormal' (by decide) hout]
    exact hworse.higher _ (by decide)
  rw [clientCompatibilityChecks_normalized floatRepr hnormal] at hchecks
  rw [clientCompatibilityChecks_normalized floatRepr hnormal'] at hchecks'
  have hprofiles : ∀ check ∈ clientChecks floatRepr metrics,
      ∃ check' ∈ clientChecks floatRepr worse,
        statusRank (statusOfCheck floatRepr check) ≤
          statusRank (statusOfCheck floatRepr check') := by
    intro check hcheck
    obtain ⟨check', hcheck', -, hle⟩ := hworse.checks check hcheck
    exact ⟨check', hcheck', hle⟩
  -- part by part the signals of the second map are no better
  simp only [worst_append]
  refine max_le_max (max_le_max (max_le_max (max_le_max (max_le_max
    (compatibilitySignals_mono hcompatibility) ?_) ?_) ?_) ?_) ?_
  · exact successSignals_mono floatRepr hkey hrates hsuccess hsuccess'
  · exact appendRateSignal_mono (getD_zero_notAbove (hrates.failure _ _ hfailureRate hfailureRate'))
      hfailure hfailure'
  · exact appendRateSignal_mono (getD_zero_notAbove (htimeoutLe _ _ htimeoutRate htimeoutRate'))
      htimeout htimeout'
  · exact checks_mono floatRepr hprofiles hchecks hchecks'
  · apply worst_le_of_forall₂
    apply mapM_forall₂ _ hchanges hchange hchange'
    intro entry entry' group group' hdelta hgroup hgroup'
    exact deltaSignals_mono hdelta hgroup hgroup'

omit [PyText] in
/-- A handshake that is slower by more than a tenth, with every fiftieth failing. -/
theorem slower_no_better : letI := asciiText
    let baseline : Dict := [("handshake_ms", .dict [("p95", .int 20)])]
    let metrics : Dict :=
      [("protocol", .str "TLS"), ("handshake_ms", .dict [("p95", .int 20)]),
        ("failure_rate", .int 0)]
    let worse : Dict :=
      [("protocol", .str "TLS"), ("handshake_ms", .dict [("p95", .int 23)]),
        ("failure_rate", .float (.ofRat (1 / 50)))]
    ∃ evaluation evaluation',
      evaluateAssetPerformance (fun _ => []) metrics (some baseline) .pass none = .ok evaluation ∧
        evaluateAssetPerformance (fun _ => []) worse (some baseline) .warn none = .ok evaluation' ∧
          statusRank evaluation.status ≤ statusRank evaluation'.status := by
  let _ := asciiText
  intro baseline metrics worse
  -- the two maps differ in the latency and in the failure rate only
  have hlookup : ∀ key, key ≠ "handshake_ms" → key ≠ "failure_rate" →
      worse.lookup key = metrics.lookup key := by
    intro key hlatency hrate
    simp [worse, metrics, List.lookup_cons, beq_false_of_ne hlatency, beq_false_of_ne hrate]
  have hsame : ∀ key, key ≠ "handshake_ms" → key ≠ "failure_rate" →
      worse.get key = metrics.get key := by
    intro key hlatency hrate
    rw [Dict.get, Dict.get, hlookup key hlatency hrate]
  have hsuccessful : number (metrics.get "failure_rate") = .ok (some (.ofRat 0)) := by
    decide +kernel
  have hfailing : number (worse.get "failure_rate") = .ok (some (.ofRat (1 / 50))) := by
    decide +kernel
  have hfast : number (seriesValue metrics "handshake_ms" "p95") = .ok (some (.ofRat 20)) := by
    decide +kernel
  have hslow : number (seriesValue worse "handshake_ms" "p95") = .ok (some (.ofRat 23)) := by
    decide +kernel
  have hworse : NoBetter (fun _ => []) metrics worse := by
    refine ⟨?_, rfl, ?_, ?_, ?_, ?_, ?_⟩
    · intro key
      by_cases hlatency : key = "handshake_ms"
      · rw [hlatency]
        rfl
      · by_cases hrate : key = "failure_rate"
        · rw [hrate]
          rfl
        · rw [hlookup key hlatency hrate]
    · decide
    · intro key hkey
      by_cases hrate : key = "failure_rate"
      · rw [hrate]
        exact numberLe_of_numbers hsuccessful hfailing (.inr (by decide +kernel))
      · rw [hsame key (by rintro rfl; exact absurd hkey (by decide)) hrate]
        exact NumberLe.refl _
    · intro key hkey
      rw [hsame key (by rintro rfl; exact absurd hkey (by decide))
        (by rintro rfl; exact absurd hkey (by decide))]
      exact NumberLe.refl _
    · intro series hseries
      by_cases hlatency : series = "handshake_ms"
      · rw [hlatency]
        exact numberLe_of_numbers hfast hslow (.inr (by decide +kernel))
      · rw [seriesValue, seriesValue,
          hsame series hlatency (by rintro rfl; exact absurd hseries (by decide))]
        exact NumberLe.refl _
    · intro check hcheck
      cases hcheck
  -- both evaluations are computed; that the second is no better is the theorem
  have hevaluation : evaluateAssetPerformance (fun _ => []) metrics (some baseline) .pass none =
      .ok ⟨.pass, [("handshake_p95_percent", .float (.finite 0))], "proceed", []⟩ := by
    decide +kernel
  have hevaluation' : evaluateAssetPerformance (fun _ => []) worse (some baseline) .warn none =
      .ok ⟨.warn, [("handshake_p95_percent", .float (.finite 15))], "canary_more",
        [{ level := .warn, reason := "compatibility_warning" },
          thresholdSignal "handshake_success_rate" "below" (.ofRat (49 / 50)) .warn,
          thresholdSignal "failure_rate" "above" (.ofRat (1 / 50)) .warn,
          thresholdSignal "handshake_p95_percent" "above" (.finite 15) .warn]⟩ := by
    decide +kernel
  exact ⟨_, _, hevaluation, hevaluation',
    evaluate_monotone hworse (by decide) hevaluation hevaluation'⟩

end

end CryptoScanner.Performance.Engine
