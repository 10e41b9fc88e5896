import CryptoScanner.Performance.RunInvariants

/-!
# The baseline of a result

`_baseline_metrics_for` picks one run of the baseline snapshot by its creation time, whatever its
status, and looks for the asset in that run alone.
-/

namespace CryptoScanner.Performance

open Library Python

/-! ## 1. The lookup and the results that it is for -/

namespace Store

variable (store : Store) (runId : Id) (run : PerformanceRun) (asset : Asset)

/-- The row of the baseline snapshot with the reference of the asset. -/
def baselineAsset : Option Id := do
  let baselineSnapshot ← run.baselineSnapshot
  store.assets.first? fun other =>
    other.snapshot = some baselineSnapshot ∧ other.bomRef = asset.bomRef

def baselineRuns : List Id :=
  match run.baselineSnapshot with
  | none => []
  | some baselineSnapshot => (store.runs.ids fun other =>
      other.snapshot = baselineSnapshot ∧ other.profile = run.profile).filter fun id => id ≠ runId

def createdAt (id : Id) : Time := ((store.runs.find? id).map PerformanceRun.createdAt).getD 0

def measuredAt (id : Id) : Time :=
  ((store.results.find? id).map AssetPerformanceResult.measuredAt).getD 0

/-- The result whose metrics `_baseline_metrics_for` returns. -/
def baselineResult : Option Id := do
  let baselineAsset ← store.baselineAsset run asset
  let baselineRun ← (store.baselineRuns runId run).argmax store.createdAt
  (store.resultIds baselineRun baselineAsset).argmax store.measuredAt

def IsCompletedBaseline (other : PerformanceRun) : Prop :=
  other.status = .completed ∧ run.baselineSnapshot = some other.snapshot ∧
    other.profile = run.profile

instance (other : PerformanceRun) : Decidable (IsCompletedBaseline run other) :=
  inferInstanceAs (Decidable (_ ∧ _))

/-- The results of the completed baseline runs for the reference of the asset. -/
def completedResults : List Id :=
  store.results.ids fun result =>
    (store.runs.find? result.run).any (fun other => IsCompletedBaseline run other) &&
      (store.assets.find? result.asset).any fun other =>
        other.snapshot = run.baselineSnapshot ∧ other.bomRef = asset.bomRef

/-- The newest of the other runs is completed and has a result for the asset. -/
def LatestRunMeasured : Prop :=
  ∃ id ∈ store.baselineRuns runId run,
    (∀ other ∈ store.baselineRuns runId run,
      store.createdAt other < store.createdAt id ∨
        store.createdAt other = store.createdAt id ∧ id ≤ other) ∧
    (store.runs.find? id).map PerformanceRun.status = some .completed ∧
    ∃ baselineAsset ∈ store.baselineAsset run asset, store.resultIds id baselineAsset ≠ []

instance : Decidable (store.LatestRunMeasured runId run asset) := by
  unfold LatestRunMeasured
  infer_instance

end Store

section

variable {store : Store} {runId : Id} {run : PerformanceRun} {asset : Asset}

theorem baselineMetricsFor_eq : baselineMetricsFor store runId run asset =
    (store.baselineResult runId run asset).bind fun id =>
      (store.results.find? id).map AssetPerformanceResult.metrics := by
  unfold baselineMetricsFor Store.baselineResult Store.baselineAsset Store.baselineRuns
  cases run.baselineSnapshot with
  | none => rfl
  | some baselineSnapshot =>
      simp only [Option.bind_eq_bind, Option.bind_some, Option.bind_assoc]
      rfl

theorem mem_baselineRuns {id : Id} : id ∈ store.baselineRuns runId run ↔
    id ≠ runId ∧ ∃ other, store.runs.find? id = some other ∧
      run.baselineSnapshot = some other.snapshot ∧ other.profile = run.profile := by
  unfold Store.baselineRuns
  cases hbaseline : run.baselineSnapshot with
  | none => simp
  | some baselineSnapshot =>
      rw [List.mem_filter, Table.mem_ids]
      simp only [decide_eq_true_eq, Option.some.injEq]
      constructor
      · rintro ⟨⟨other, hfound, hsnapshot, hprofile⟩, hne⟩
        exact ⟨hne, other, hfound, hsnapshot.symm, hprofile⟩
      · rintro ⟨hne, other, hfound, hsnapshot, hprofile⟩
        exact ⟨⟨other, hfound, hsnapshot.symm, hprofile⟩, hne⟩

theorem mem_resultIds {baselineRun baselineAsset id : Id} :
    id ∈ store.resultIds baselineRun baselineAsset ↔ ∃ result, store.results.find? id = some result ∧
      result.run = baselineRun ∧ result.asset = baselineAsset := by
  unfold Store.resultIds
  rw [Table.mem_ids]
  simp only [decide_eq_true_eq]

theorem baselineAsset_spec {id : Id} (h : store.baselineAsset run asset = some id) :
    ∃ other, store.assets.find? id = some other ∧ other.snapshot = run.baselineSnapshot ∧
      other.bomRef = asset.bomRef := by
  unfold Store.baselineAsset at h
  rw [Option.bind_eq_bind, Option.bind_eq_some_iff] at h
  obtain ⟨baselineSnapshot, hbaseline, h⟩ := h
  obtain ⟨other, hfound, hother⟩ := Table.first?_eq_some h
  rw [decide_eq_true_eq] at hother
  exact ⟨other, hfound, hother.1.trans hbaseline.symm, hother.2⟩

theorem mem_completedResults {id : Id} : id ∈ store.completedResults run asset ↔
    ∃ result, store.results.find? id = some result ∧
      (∃ other, store.runs.find? result.run = some other ∧ Store.IsCompletedBaseline run other) ∧
      ∃ other, store.assets.find? result.asset = some other ∧
        other.snapshot = run.baselineSnapshot ∧ other.bomRef = asset.bomRef := by
  unfold Store.completedResults
  rw [Table.mem_ids]
  simp only [Bool.and_eq_true, Option.any_eq_true, decide_eq_true_eq]

/-- The run that is searched is the newest, and the first of those that are as new. -/
theorem argmax_baselineRuns {id : Id} :
    (store.baselineRuns runId run).argmax store.createdAt = some id ↔
      id ∈ store.baselineRuns runId run ∧ ∀ other ∈ store.baselineRuns runId run,
        store.createdAt other < store.createdAt id ∨
          store.createdAt other = store.createdAt id ∧ id ≤ other := by
  apply argmax_eq_some_iff_of_sorted
  unfold Store.baselineRuns
  cases run.baselineSnapshot with
  | none => exact .nil
  | some baselineSnapshot => exact (Table.sorted_ids _ _).filter _

/-- The lookup finds a result of a completed run exactly if the newest of the other runs is
completed and has a result for the asset. -/
theorem completedResult_iff :
    (∃ id ∈ store.completedResults run asset, store.baselineResult runId run asset = some id) ↔
      store.LatestRunMeasured runId run asset := by
  constructor
  · rintro ⟨id, hcompleted, hresult⟩
    unfold Store.baselineResult at hresult
    simp only [Option.bind_eq_bind, Option.bind_eq_some_iff] at hresult
    obtain ⟨baselineAsset, hasset, baselineRun, hrun, hid⟩ := hresult
    have hmem := List.argmax_mem hid
    obtain ⟨result, hfound, hof, -⟩ := mem_resultIds.mp hmem
    obtain ⟨_, hfound', ⟨other, hother, hstatus, -⟩, -⟩ := mem_completedResults.mp hcompleted
    -- the row is the one of the run that was searched, so that run is completed
    obtain rfl := Option.some.inj (hfound.symm.trans hfound')
    rw [hof] at hother
    obtain ⟨hbaseline, hnewest⟩ := argmax_baselineRuns.mp hrun
    refine ⟨baselineRun, hbaseline, hnewest, ?_, baselineAsset, hasset, List.ne_nil_of_mem hmem⟩
    rw [hother, Option.map_some, hstatus]
  · rintro ⟨baselineRun, hbaseline, hnewest, hstatus, baselineAsset, hasset, hmeasured⟩
    have hrun := argmax_baselineRuns.mpr ⟨hbaseline, hnewest⟩
    -- the run has a result for the asset, so one of them was measured last
    cases hid : (store.resultIds baselineRun baselineAsset).argmax store.measuredAt with
    | none => exact absurd (List.argmax_eq_none.mp hid) hmeasured
    | some id =>
        refine ⟨id, ?_, ?_⟩
        · obtain ⟨result, hfound, rfl, rfl⟩ := mem_resultIds.mp (List.argmax_mem hid)
          obtain ⟨-, other, hother, hsnapshot, hprofile⟩ := mem_baselineRuns.mp hbaseline
          rw [hother, Option.map_some, Option.some.injEq] at hstatus
          exact mem_completedResults.mpr ⟨result, hfound, ⟨other, hother, hstatus, hsnapshot,
            hprofile⟩, baselineAsset_spec hasset⟩
        · unfold Store.baselineResult
          rw [hasset, Option.bind_eq_bind, Option.bind_some, hrun, Option.bind_some, hid]

end

/-! ## 2. The results that a history stores -/

section

variable [PyText] [PerformanceEngine] (floatRepr : PyFloat → List Char)

/-- The deltas of a result that is compared with the metrics of a baseline. -/
def deltasAgainst (store : Store) (asset : Asset) (payload : ResultCreate)
    (baselineMetrics : Dict) : Option Dict := do
  let metrics ← PerformanceEngine.normalizeAvailabilityMetrics
    (metricsWithProtocol floatRepr store asset payload.metrics)
  let metrics ← withBaselineMetrics metrics (some baselineMetrics)
  let metrics ← PerformanceEngine.normalizeAvailabilityMetrics metrics
  let baselineMetrics ← PerformanceEngine.normalizeAvailabilityMetrics baselineMetrics
  let deltas ← PerformanceEngine.calculateDeltas metrics baselineMetrics
  return deltas.map fun (key, delta) => (key, .float delta)

variable {floatRepr} {store : Store} {runId : Id} {run : PerformanceRun} {asset : Asset}
  {payload : ResultCreate} {now : Time}

omit [PyText] in
theorem evaluateAssetPerformance_deltas {metrics baselineMetrics thresholds : Dict}
    {compatibilityStatus : ResultStatus} {evaluation : Evaluation}
    (h : evaluateAssetPerformance metrics (some baselineMetrics) compatibilityStatus thresholds =
      some evaluation) :
    (do
      let metrics ← PerformanceEngine.normalizeAvailabilityMetrics metrics
      let baselineMetrics ← PerformanceEngine.normalizeAvailabilityMetrics baselineMetrics
      let deltas ← PerformanceEngine.calculateDeltas metrics baselineMetrics
      return deltas.map fun (key, delta) => (key, Json.float delta)) = some evaluation.deltas := by
  simp only [evaluateAssetPerformance, Option.bind_eq_bind, Option.bind_eq_some_iff] at h ⊢
  obtain ⟨metrics', hmetrics, baseline', hbaseline, deltas, hdeltas, signals, -, h⟩ := h
  cases h
  exact ⟨metrics', hmetrics, baseline', hbaseline, deltas, hdeltas, rfl⟩

theorem measuredResult_deltas {baselineMetrics : Dict} {result : AssetPerformanceResult}
    (h : baselineMetricsFor store runId run asset = some baselineMetrics)
    (hresult : measuredResult floatRepr store runId run asset payload now = some result) :
    deltasAgainst floatRepr store asset payload baselineMetrics = some result.deltas := by
  simp only [measuredResult, h, Option.bind_eq_bind, Option.bind_eq_some_iff] at hresult
  obtain ⟨measured, hmeasured, metrics, hmetrics, evaluation, hevaluation, _, -, hresult⟩ := hresult
  cases hresult
  rw [deltasAgainst, hmeasured, Option.bind_eq_bind, Option.bind_some, hmetrics]
  exact evaluateAssetPerformance_deltas hevaluation

theorem measuredResult_keys {result : AssetPerformanceResult}
    (hresult : measuredResult floatRepr store runId run asset payload now = some result) :
    result.run = runId ∧ result.asset = payload.assetId := by
  simp only [measuredResult, Option.bind_eq_bind, Option.bind_eq_some_iff] at hresult
  obtain ⟨_, -, _, -, _, -, _, -, hresult⟩ := hresult
  cases hresult
  exact ⟨rfl, rfl⟩

omit [PyText] [PerformanceEngine] in
theorem find?_saveResult (result : AssetPerformanceResult) :
    ∃ id, (store.saveResult result).results.find? id = some result := by
  unfold Store.saveResult
  split
  · rename_i id ids hids
    have hmem : id ∈ store.resultIds result.run result.asset := by
      rw [hids]
      exact List.mem_cons_self
    obtain ⟨row, hrow, -⟩ := mem_resultIds.mp hmem
    refine ⟨id, ?_⟩
    show (store.results.modify id _).find? id = _
    rw [Table.find?_modify_self, hrow, Option.map_some]
  · exact ⟨_, Table.find?_insert_self _ _⟩

/-- What a step measures: a run, as its caller has it loaded, and the payload of a result. -/
def measurement (s : System) : Action → Option (Id × PerformanceRun × ResultCreate)
  | .uploadResult snapshotId runId payload =>
      ((s.store.runs.find? runId).filter fun run => run.snapshot = snapshotId).map fun run =>
        (runId, run, payload)
  | .runnerResult worker payload =>
      (s.sessions worker).map fun (runId, loaded) => (runId, loaded, payload)
  | _ => none

/-- What holds of every result that the step stores: of the run, the asset and the payload. -/
def ForStored (floatRepr : PyFloat → List Char) (s : System) (now : Time) (a : Action)
    (P : Id → PerformanceRun → Asset → ResultCreate → Prop) : Prop :=
  ∀ m ∈ measurement s a, ∀ asset ∈ s.store.assets.find? m.2.2.assetId,
    asset.snapshot = some m.2.1.snapshot →
    (measuredResult floatRepr s.store m.1 m.2.1 asset m.2.2 now).any (·.storable) = true →
    P m.1 m.2.1 asset m.2.2

/-- If a completed run with the profile holds a result for the asset on the baseline snapshot, the
deltas of the stored result are computed against such a result. -/
def BaselineFound (floatRepr : PyFloat → List Char) (s t : System) (now : Time) (a : Action) :
    Prop :=
  ForStored floatRepr s now a fun runId run asset payload =>
    s.store.completedResults run asset ≠ [] →
      ∃ id ∈ s.store.completedResults run asset,
        s.store.baselineResult runId run asset = some id ∧
        ∃ baseline stored storedId, s.store.results.find? id = some baseline ∧
          t.store.results.find? storedId = some stored ∧ stored.run = runId ∧
          stored.asset = payload.assetId ∧
          deltasAgainst floatRepr s.store asset payload baseline.metrics = some stored.deltas

/-- No newer run hides the completed one that holds a result for the asset. -/
def NewestMeasured (floatRepr : PyFloat → List Char) (s : System) (now : Time) (a : Action) :
    Prop :=
  ForStored floatRepr s now a fun runId run asset _ =>
    s.store.completedResults run asset = [] ∨ s.store.LatestRunMeasured runId run asset

instance (s : System) (a : Action) : Decidable (NewestMeasured floatRepr s now a) := by
  unfold NewestMeasured ForStored
  infer_instance

variable {s t : System} {a : Action}

omit [PyText] in
theorem refreshRunSummary_results :
    (refreshRunSummary store runId run).1.results = store.results := by
  unfold refreshRunSummary
  split
  · rfl
  · split <;> rfl

omit [PyText] [PerformanceEngine] in
theorem beginRun_results : (beginRun store runId run now).1.results = store.results := by
  unfold beginRun
  split <;> rfl

/-- A step that measures an asset of the run's snapshot stores what `upsert_result` computes. -/
theorem step_measurement (h : step floatRepr s (a, now) = some t)
    (hm : measurement s a = some (runId, run, payload)) {result : AssetPerformanceResult}
    (hstores : Stores floatRepr s.store runId run payload now result) :
    t.store.results = (s.store.saveResult result).results := by
  have hresults : (upsertResult floatRepr s.store runId run payload now).1.results =
      (s.store.saveResult result).results := by
    rw [upsertResult_of_stores hstores, refreshRunSummary_results, beginRun_results]
  rw [← hresults]
  -- an upload and a runner measure; no other action does
  cases a with
  | uploadResult snapshotId id uploaded =>
      simp only [measurement, Option.map_eq_some_iff, Option.filter_eq_some_iff,
        decide_eq_true_eq] at hm
      obtain ⟨_, ⟨hrun, hof⟩, ⟨⟩⟩ := hm
      cases h
      simp only [upsertPerformanceResult, hrun, hof, ne_eq, not_true_eq_false, if_false]
  | runnerResult worker measured =>
      simp only [measurement, Option.map_eq_some_iff] at hm
      obtain ⟨⟨_, _⟩, hsession, ⟨⟩⟩ := hm
      -- the runner stores the result under the session that it has loaded
      simp only [step, hsession, Option.bind_eq_bind, Option.bind_some] at h
      generalize upsertResult floatRepr s.store _ _ payload now = outcome at h
      obtain ⟨store, _ | loaded⟩ := outcome <;> cases h <;> rfl
  | createRun _ _ | patchRun _ _ _ _ | claim _ | beginRunner _ _ | endRunner _ _
  | failRunner _ _ => cases hm

theorem baselineFound_iff_newestMeasured (h : step floatRepr s (a, now) = some t) :
    BaselineFound floatRepr s t now a ↔ NewestMeasured floatRepr s now a := by
  unfold BaselineFound NewestMeasured ForStored
  -- both sides speak of the same measurements, so they are compared one by one
  refine forall₂_congr ?_
  rintro ⟨runId, run, payload⟩ hm
  refine forall₄_congr ?_
  intro asset hasset hsnapshot hstored
  obtain ⟨result, hresult, hstorable⟩ := (Option.any_eq_true _ _).mp hstored
  constructor
  · intro hfound
    by_cases hnone : s.store.completedResults run asset = []
    · exact .inl hnone
    · obtain ⟨id, hcompleted, hresult, -⟩ := hfound hnone
      exact .inr (completedResult_iff.mp ⟨id, hcompleted, hresult⟩)
  · intro hnewest hsome
    obtain ⟨id, hcompleted, hbaseline⟩ :=
      completedResult_iff.mpr (hnewest.resolve_left hsome)
    obtain ⟨baseline, hfound, -⟩ := mem_completedResults.mp hcompleted
    -- the lookup returns the metrics of this very result, and the deltas are computed against them
    have hmetrics : baselineMetricsFor s.store runId run asset = some baseline.metrics := by
      rw [baselineMetricsFor_eq, hbaseline, Option.bind_some, hfound, Option.map_some]
    obtain ⟨storedId, hrow⟩ := @find?_saveResult s.store result
    rw [← step_measurement h hm ⟨asset, hasset, hsnapshot, hresult, hstorable⟩] at hrow
    have hkeys := measuredResult_keys hresult
    exact ⟨id, hcompleted, hbaseline, baseline, result, storedId, hfound, hrow, hkeys.1, hkeys.2,
      measuredResult_deltas hmetrics hresult⟩

/-- In every history of runs, the results are compared with those of completed runs wherever there
are such exactly if no newer run hides them. -/
theorem baselineFound_iff (floatRepr : PyFloat → List Char) (s : System)
    (actions : List (Action × Time)) :
    everyStep (step floatRepr) (fun s a t => BaselineFound floatRepr s t a.2 a.1) s actions ↔
      everyStep (step floatRepr) (fun s a _ => NewestMeasured floatRepr s a.2 a.1) s
        actions := by
  refine everyStep_iff (I := fun _ => True) ?_ ?_ trivial actions
  · intro s a t _ _ _
    trivial
  · rintro s ⟨a, now⟩ t _ hstep
    exact baselineFound_iff_newestMeasured hstep

end

/-- Two snapshots of one host, before and after its migration, and no run yet. -/
def migratedHost : System where
  store :=
    let before := firstSnapshot.store
    { snapshots := ⟨before.snapshots.rows ++ before.snapshots.rows⟩
      assets := ⟨before.assets.rows ++
        before.assets.rows.map (Option.map fun asset => { asset with snapshot := some 1 })⟩ }
  sessions := fun _ => none

def comparedRun : RunCreate := { smokeRun with baselineSnapshotId := some 0 }

/-- The snapshot is measured before the migration, and once more after it. -/
theorem measuredTwice_found : letI := asciiText
    letI := Engine.numberlessEngine
    everyStep (step fun _ => []) (fun s a t => BaselineFound (fun _ => []) s t a.2 a.1) migratedHost
      (measuredRun ++ [(.createRun 1 comparedRun, 7), (.uploadResult 1 1 { assetId := 1 }, 8)]) := by
  apply (@baselineFound_iff asciiText Engine.numberlessEngine _ _ _).mpr
  decide +kernel

/-- A run that is only created on the baseline snapshot hides the completed one. -/
theorem pendingRun_hides : letI := asciiText
    letI := Engine.numberlessEngine
    Initial migratedHost ∧ ¬ everyStep (step fun _ => [])
      (fun s a t => BaselineFound (fun _ => []) s t a.2 a.1) migratedHost
      (measuredRun ++ [(.createRun 0 smokeRun, 7), (.createRun 1 comparedRun, 8),
        (.uploadResult 1 2 { assetId := 1 }, 9)]) := by
  refine ⟨⟨rfl, rfl, fun _ => rfl⟩, ?_⟩
  intro h
  -- the property of every step is traded for the condition, which can be evaluated
  have hiff : ∀ (s : System) (a : Action × Time) (t : System), True →
      @step asciiText Engine.numberlessEngine (fun _ => []) s a = some t →
        (@BaselineFound asciiText Engine.numberlessEngine (fun _ => []) s t a.2 a.1 ↔
          @NewestMeasured asciiText Engine.numberlessEngine (fun _ => []) s a.2 a.1) := by
    rintro s ⟨a, now⟩ t - hstep
    exact @baselineFound_iff_newestMeasured asciiText Engine.numberlessEngine _ _ s t a hstep
  have hmeasured := (everyStep_iff (fun _ _ _ _ _ _ => trivial) hiff trivial _).mp h
  exact absurd hmeasured (by decide +kernel)

end CryptoScanner.Performance
