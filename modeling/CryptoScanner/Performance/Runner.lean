import CryptoScanner.Library.GroupBy
import CryptoScanner.Performance.BaselineLookup

/-!
# The runner of a performance run

`run_performance_run` measures every target of a snapshot once and stores a result for each of its
assets.  What the network answers to the probes of a target is a parameter, which may depend on how
many targets were measured before.  The run ends where the engine raises on a result, or where the
database does not take what the engine returns.
-/

namespace CryptoScanner.Performance

open Library Python

/-! ## 1. The runner -/

structure Measurement where
  compatibilityStatus : ResultStatus
  metrics : Dict
  negotiatedAlgorithm : String := ""
  errorMessage : String := ""
  deriving DecidableEq, Repr

/-- What the runner hands to `upsert_result` for an asset of the target. -/
def Measurement.payload (measurement : Measurement) (assetId : Id) : ResultCreate where
  assetId := assetId
  compatibilityStatus := measurement.compatibilityStatus
  negotiatedAlgorithm := measurement.negotiatedAlgorithm
  metrics := measurement.metrics
  errorMessage := measurement.errorMessage

structure AssetRow where
  id : Id
  asset : Asset
  targetId : Id
  target : Target
  deriving DecidableEq

/-- The assets of a snapshot that belong to a target, joined with it. -/
def Store.assetRows (store : Store) (snapshotId : Id) : List AssetRow :=
  (store.assets.ids fun asset => asset.snapshot = some snapshotId).filterMap fun id => do
    let asset ← store.assets.find? id
    let targetId ← asset.target
    let target ← store.targets.find? targetId
    return { id, asset, targetId, target }

/-- The local variables of `run_performance_run`, and the targets that it has probed. -/
structure Progress where
  store : Store
  run : PerformanceRun
  probed : List Id := []
  measuredAssets : Nat := 0
  measuredTargets : Nat := 0
  failedTargets : Nat := 0

section

variable [PyText] [PerformanceEngine] (floatRepr : PyFloat → List Char)
  (measureTarget : Nat → Target → RunProfile → Measurement) (runId : Id) (now : Time)

def storeMeasurement (measurement : Measurement) (progress : Progress) (row : AssetRow) :
    Except PerformanceError Progress :=
  match upsertResult floatRepr progress.store runId progress.run (measurement.payload row.id)
      now with
  | (store, .ok run) =>
      return { progress with store, run, measuredAssets := progress.measuredAssets + 1 }
  | (_, .error e) => throw e

/-- One turn of the loop over the groups; a group has at least one asset. -/
def measureGroup (progress : Progress) (targetAssets : List AssetRow) :
    Except PerformanceError Progress :=
  match targetAssets.head? with
  | none => return progress
  | some row =>
      let measurement := measureTarget progress.measuredTargets row.target progress.run.profile
      targetAssets.foldlM (storeMeasurement floatRepr runId now measurement)
        { progress with
          probed := progress.probed ++ [row.targetId]
          measuredTargets := progress.measuredTargets + 1
          failedTargets := progress.failedTargets +
            if measurement.compatibilityStatus = .fail ∨ measurement.compatibilityStatus = .error
            then 1 else 0 }

/-- `run_performance_run`, given what its query for the assets returns. -/
def runPerformanceRun (assets : List AssetRow) (store : Store) : Except PerformanceError Progress :=
  match store.runs.find? runId with
  | none => throw .doesNotExist
  | some run => do
      -- the start is saved before the first target is measured
      let started := startRunner now run
      let begun : Progress :=
        { store := store.saveRun runId (saveStatus started), run := started }
      let measured ← (groupby AssetRow.targetId assets).foldlM
        (measureGroup floatRepr measureTarget runId now) begun
      let counts : Dict :=
        if assets = [] then
          [("measured_assets", .int 0), ("measured_targets", .int 0),
            ("skipped_assets", .int
              (store.assets.ids fun asset => asset.snapshot = some run.snapshot).length)]
        else
          [("measured_assets", .int measured.measuredAssets),
            ("measured_targets", .int measured.measuredTargets),
            ("failed_targets", .int measured.failedTargets)]
      let finished := finishRunner counts now measured.run
      return { measured with
        store := measured.store.saveRun runId (saveStatus finished), run := finished }

end

/-! ## 2. What is counted -/

structure Counters (store : Store) (runId : Id) (summary : Dict) : Prop where
  total : summary.lookup "total_results" =
    some (.int (store.results.ids fun result => result.run = runId).length)
  byStatus : summary.lookup "by_status" = some (.dict (resultStatuses.map fun status =>
    (status.text, .int (store.results.ids fun result =>
      result.run = runId ∧ result.status = status).length)))

/-- A run as it was created, with no result. -/
structure Fresh (store : Store) (runId : Id) (run : PerformanceRun) : Prop where
  results : (store.results.ids fun result => result.run = runId) = []
  counters : Counters store runId run.summary

theorem counters_summarizeResults [PerformanceEngine] {store : Store} {runId : Id} {summary : Dict}
    (h : summarizeResults (store.resultEntries runId) = some summary) :
    Counters store runId summary := by
  have hlength : (store.resultEntries runId).length =
      (store.results.ids fun result => result.run = runId).length :=
    Table.length_filterMap_ids store.results _ _
  have hcount : ∀ status, countOf (store.resultEntries runId) status =
      (store.results.ids fun result => result.run = runId ∧ result.status = status).length := by
    intro status
    unfold countOf Store.resultEntries
    rw [Table.countP_ids]
    simp only [Bool.decide_and]
  obtain ⟨-, htotal, hstatus⟩ := summarizeResults_spec h
  constructor
  · rw [htotal, sum_countOf, hlength]
  · rw [hstatus, byStatus]
    simp only [hcount]

theorem Counters.update {store : Store} {runId : Id} {summary : Dict} (h : Counters store runId summary)
    {entries : Dict} (hentries : ∀ key ∈ ["total_results", "by_status"], key ∉ entries.map Prod.fst) :
    Counters store runId (Library.Dict.update summary entries) := by
  constructor
  · rw [Library.Dict.lookup_update_of_not_mem summary (hentries "total_results" (by decide))]
    exact h.total
  · rw [Library.Dict.lookup_update_of_not_mem summary (hentries "by_status" (by decide))]
    exact h.byStatus

theorem Counters.runnerEntry {store : Store} {runId : Id} {summary : Dict}
    (h : Counters store runId summary) (state : Dict) :
    Counters store runId (Library.Dict.update summary (runnerEntry state)) := by
  apply h.update
  intro key hkey
  show key ∉ ["runner"]
  revert key
  decide

theorem createRun_fresh [PerformanceEngine] {store store' : Store} {snapshotId : Id}
    {payload : RunCreate} {now : Time} (h : createRun store snapshotId payload now = .ok store')
    (hkeys : ∀ id result, store.results.find? id = some result → result.run < store.runs.nextId) :
    ∃ run, store'.runs.find? store.runs.nextId = some run ∧ Fresh store' store.runs.nextId run := by
  have hresults : (store.results.ids fun result => result.run = store.runs.nextId) = [] := by
    rw [List.eq_nil_iff_forall_not_mem]
    intro id hid
    obtain ⟨result, hresult, hrun⟩ := Table.mem_ids.mp hid
    have hlt := hkeys id result hresult
    rw [of_decide_eq_true hrun] at hlt
    exact Nat.lt_irrefl _ hlt
  obtain ⟨baselineSnapshot, summary, -, hsummary, rfl⟩ := createRun_eq_ok h
  refine ⟨_, Table.find?_insert_self _ _, hresults, ?_⟩
  have hentries : store.resultEntries store.runs.nextId = [] := by
    rw [Store.resultEntries, hresults]
    rfl
  rw [← hentries] at hsummary
  have hcounters := counters_summarizeResults hsummary
  exact ⟨hcounters.total, hcounters.byStatus⟩

/-- A save on the run leaves the results and their counts. -/
theorem Counters.saveRun {store : Store} {runId : Id} {summary : Dict}
    (h : Counters store runId summary) (f : PerformanceRun → PerformanceRun) :
    Counters (store.saveRun runId f) runId summary := ⟨h.total, h.byStatus⟩

/-! ## 3. What the results of a run are computed from -/

def PerformanceRun.request (run : PerformanceRun) :
    Id × Option Id × RunProfile × Dict × Time :=
  (run.snapshot, run.baselineSnapshot, run.profile, run.thresholds, run.createdAt)

theorem resultRow_request (loaded row : PerformanceRun) (summary : Dict) (now : Time) :
    (resultRow loaded summary now row).request = row.request := by
  unfold resultRow begunRow
  split <;> rfl

section

variable {store : Store} {runId : Id} {run : PerformanceRun} {asset : Asset}

/-- A save on a run changes nothing that the lookup of a baseline reads. -/
theorem baselineMetricsFor_saveRun {f : PerformanceRun → PerformanceRun} {id : Id}
    (hf : ∀ row, (f row).request = row.request) :
    baselineMetricsFor (store.saveRun id f) runId run asset =
      baselineMetricsFor store runId run asset := by
  have hsnapshot : ∀ row, (f row).snapshot = row.snapshot := fun row =>
    congrArg Prod.fst (hf row)
  have hprofile : ∀ row, (f row).profile = row.profile := fun row =>
    congrArg (fun request => request.2.2.1) (hf row)
  have hcreated : ∀ row, (f row).createdAt = row.createdAt := fun row =>
    congrArg (fun request => request.2.2.2.2) (hf row)
  have hids : ∀ baselineSnapshot, ((store.saveRun id f).runs.ids fun other =>
      other.snapshot = baselineSnapshot ∧ other.profile = run.profile) =
      store.runs.ids fun other =>
        other.snapshot = baselineSnapshot ∧ other.profile = run.profile := by
    intro baselineSnapshot
    apply Table.ids_modify
    intro row _
    simp only [hsnapshot, hprofile]
  have htime : (fun other => (((store.saveRun id f).runs.find? other).map
      PerformanceRun.createdAt).getD 0) =
      fun other => ((store.runs.find? other).map PerformanceRun.createdAt).getD 0 := by
    funext other
    rw [find?_saveRun, Option.map_map]
    congr 2
    funext row
    show (if other = id then f row else row).createdAt = row.createdAt
    split
    · exact hcreated row
    · rfl
  unfold baselineMetricsFor
  simp only [hids, htime]
  rfl

/-- The lookup of a baseline does not read the results of the run itself. -/
theorem baselineMetricsFor_insert {result : AssetPerformanceResult} (hrun : result.run = runId) :
    baselineMetricsFor { store with results := store.results.insert result } runId run asset =
      baselineMetricsFor store runId run asset := by
  let saved : Store := { store with results := store.results.insert result }
  have hids : ∀ other ≠ runId, ∀ assetId, saved.resultIds other assetId =
      store.resultIds other assetId := by
    intro other hne assetId
    have hnot : ¬ (result.run = other ∧ result.asset = assetId) := fun h =>
      hne (h.1.symm.trans hrun)
    show (store.results.insert result).ids _ = _
    rw [Table.ids_insert, if_neg (by simpa only [decide_eq_true_eq] using hnot), List.append_nil]
    rfl
  have hfound : ∀ {other assetId id}, id ∈ store.resultIds other assetId →
      saved.results.find? id = store.results.find? id := by
    intro other assetId id hid
    obtain ⟨row, hrow, -⟩ := mem_resultIds.mp hid
    rw [hrow]
    exact Table.find?_insert_of_find? result hrow
  have hresult : saved.baselineResult runId run asset = store.baselineResult runId run asset := by
    apply Option.bind_congr
    intro baselineAsset _
    apply Option.bind_congr
    intro baselineRun hbaseline
    -- the runs that are searched are others
    have hne := (mem_baselineRuns.mp (List.argmax_mem hbaseline)).1
    rw [hids baselineRun hne]
    apply argmax_congr
    intro id hid
    unfold Store.measuredAt
    rw [hfound hid]
  rw [baselineMetricsFor_eq, baselineMetricsFor_eq]
  show (saved.baselineResult runId run asset).bind _ = _
  rw [hresult]
  apply Option.bind_congr
  intro id hid
  unfold Store.baselineResult at hid
  simp only [Option.bind_eq_bind, Option.bind_eq_some_iff] at hid
  obtain ⟨baselineAsset, -, baselineRun, -, hid⟩ := hid
  show (saved.results.find? id).map _ = _
  rw [hfound (List.argmax_mem hid)]

/-- What is stored for an asset depends on the targets, the baseline and the request of the run. -/
theorem measuredResult_congr [PyText] [PerformanceEngine] {floatRepr : PyFloat → List Char}
    {before : Store} {loaded : PerformanceRun} (htargets : store.targets = before.targets)
    (hbaseline : baselineMetricsFor store runId run asset =
      baselineMetricsFor before runId run asset)
    (hrequest : loaded.request = run.request) (payload : ResultCreate) (now : Time) :
    measuredResult floatRepr store runId loaded asset payload now =
      measuredResult floatRepr before runId run asset payload now := by
  have hsnapshot : loaded.baselineSnapshot = run.baselineSnapshot :=
    congrArg (fun request => request.2.1) hrequest
  have hprofile : loaded.profile = run.profile :=
    congrArg (fun request => request.2.2.1) hrequest
  have hthresholds : loaded.thresholds = run.thresholds :=
    congrArg (fun request => request.2.2.2.1) hrequest
  have hloaded : baselineMetricsFor store runId loaded asset =
      baselineMetricsFor before runId run asset := by
    rw [← hbaseline]
    unfold baselineMetricsFor
    rw [hsnapshot, hprofile]
  have hmetrics : metricsWithProtocol floatRepr store asset payload.metrics =
      metricsWithProtocol floatRepr before asset payload.metrics := by
    unfold metricsWithProtocol assetProtocol
    rw [htargets]
  unfold measuredResult
  rw [hmetrics, hloaded, hthresholds]

end

/-! ## 4. When the engine lets a run through -/

section

variable [PyText] [PerformanceEngine] (floatRepr : PyFloat → List Char)
  (measureTarget : Nat → Target → RunProfile → Measurement) (before : Store) (runId : Id)
  (run : PerformanceRun) (now : Time)

/-- The assets of a target, with what its measurement hands on for each. -/
def groupPayloads (first : Nat) (group : List AssetRow) : List (AssetRow × ResultCreate) :=
  match group.head? with
  | none => []
  | some row =>
      let measurement := measureTarget first row.target run.profile
      group.map fun row => (row, measurement.payload row.id)

def payloads (groups : List (List AssetRow)) : List (AssetRow × ResultCreate) :=
  groups.zipIdx.flatMap fun (group, first) => groupPayloads measureTarget run first group

/-- What the engine makes of an asset, from the rows before the run. -/
def evaluatedResult (item : AssetRow × ResultCreate) : Option AssetPerformanceResult :=
  measuredResult floatRepr before runId run item.1.asset item.2 now

def entryOf (asset : Asset) (result : AssetPerformanceResult) : ResultEntry where
  status := result.status
  deltas := result.deltas
  metrics := result.metrics
  bomRef := asset.bomRef

def evaluatedEntry (item : AssetRow × ResultCreate) : Option ResultEntry :=
  (evaluatedResult floatRepr before runId run now item).map (entryOf item.1.asset)

/-- Further results, after those of `entries`: the engine evaluates every one of them and sums up the
results so far, and the database takes what it returns. -/
def EvaluatesAfter (entries : List ResultEntry) (items : List (AssetRow × ResultCreate)) : Prop :=
  (∀ item ∈ items, (evaluatedResult floatRepr before runId run now item).any (·.storable) = true) ∧
    ∀ n < items.length, (summarizeResults (entries ++ (items.take (n + 1)).filterMap
      (evaluatedEntry floatRepr before runId run now))).any storableEntries = true

instance (entries : List ResultEntry) (items : List (AssetRow × ResultCreate)) :
    Decidable (EvaluatesAfter floatRepr before runId run now entries items) :=
  inferInstanceAs (Decidable (_ ∧ _))

variable {floatRepr measureTarget before runId run now}

theorem evaluatesAfter_append (entries : List ResultEntry)
    (items items' : List (AssetRow × ResultCreate)) :
    EvaluatesAfter floatRepr before runId run now entries (items ++ items') ↔
      EvaluatesAfter floatRepr before runId run now entries items ∧
        EvaluatesAfter floatRepr before runId run now
          (entries ++ items.filterMap (evaluatedEntry floatRepr before runId run now)) items' := by
  have htake : ∀ n, (items ++ items').take (items.length + n + 1) = items ++ items'.take (n + 1) := by
    intro n
    rw [Nat.add_assoc, List.take_length_add_append]
  have hfront : ∀ n < items.length, (items ++ items').take (n + 1) = items.take (n + 1) :=
    fun n hn => List.take_append_of_le_length hn
  unfold EvaluatesAfter
  rw [List.forall_mem_append, List.length_append]
  constructor
  · intro h
    refine ⟨⟨h.1.1, fun n hn => ?_⟩, h.1.2, fun n hn => ?_⟩
    · have hsummary := h.2 n (by omega)
      rwa [hfront n hn] at hsummary
    · have hsummary := h.2 (items.length + n) (by omega)
      rwa [htake, List.filterMap_append, ← List.append_assoc] at hsummary
  · intro h
    refine ⟨⟨h.1.1, h.2.1⟩, fun n hn => ?_⟩
    by_cases hlt : n < items.length
    · rw [hfront n hlt]
      exact h.1.2 n hlt
    · obtain ⟨k, rfl⟩ := Nat.exists_eq_add_of_le (Nat.le_of_not_lt hlt)
      rw [htake, List.filterMap_append, ← List.append_assoc]
      exact h.2.2 k (by omega)

theorem evaluatesAfter_singleton (entries : List ResultEntry) (item : AssetRow × ResultCreate) :
    EvaluatesAfter floatRepr before runId run now entries [item] ↔
      ∃ result summary, evaluatedResult floatRepr before runId run now item = some result ∧
        result.storable = true ∧ summarizeResults (entries ++ [entryOf item.1.asset result]) = some summary ∧
        storableEntries summary = true := by
  unfold EvaluatesAfter
  rw [List.forall_mem_singleton]
  constructor
  · intro h
    obtain ⟨result, hresult, hstorable⟩ := (Option.any_eq_true _ _).mp h.1
    have hentry : evaluatedEntry floatRepr before runId run now item =
        some (entryOf item.1.asset result) := by
      rw [evaluatedEntry, hresult, Option.map_some]
    have hsummary := h.2 0 Nat.zero_lt_one
    rw [List.take_succ_cons, List.take_zero, List.filterMap_cons_some hentry] at hsummary
    obtain ⟨summary, hsummary, hentries⟩ := (Option.any_eq_true _ _).mp hsummary
    exact ⟨result, summary, hresult, hstorable, hsummary, hentries⟩
  · intro h
    obtain ⟨result, summary, hresult, hstorable, hsummary, hentries⟩ := h
    have hentry : evaluatedEntry floatRepr before runId run now item =
        some (entryOf item.1.asset result) := by
      rw [evaluatedEntry, hresult, Option.map_some]
    refine ⟨(Option.any_eq_true _ _).mpr ⟨result, hresult, hstorable⟩, fun n hn => ?_⟩
    obtain rfl : n = 0 := Nat.lt_one_iff.mp hn
    rw [List.take_succ_cons, List.take_zero, List.filterMap_cons_some hentry]
    exact (Option.any_eq_true _ _).mpr ⟨summary, hsummary, hentries⟩

end

/-! ## 5. One asset, one target, all targets -/

/-- A result of an asset that has none is a new row. -/
theorem saveResult_new {store : Store} {result : AssetPerformanceResult}
    (h : store.resultIds result.run result.asset = []) :
    store.saveResult result = { store with results := store.results.insert result } := by
  rw [Store.saveResult, h]

theorem length_resultIds_insert (store : Store) (result : AssetPerformanceResult) (assetId : Id) :
    (Store.resultIds { store with results := store.results.insert result } result.run
        assetId).length =
      (store.resultIds result.run assetId).length + if assetId = result.asset then 1 else 0 := by
  show ((store.results.insert result).ids _).length = _
  rw [Table.ids_insert, List.length_append]
  congr 1
  by_cases heq : assetId = result.asset
  · subst heq
    simp only [and_self, decide_true, if_true, List.length_singleton]
  · have hne : result.asset ≠ assetId := fun h => heq h.symm
    simp only [hne, and_false, decide_false, Bool.false_eq_true, if_false, heq, List.length_nil]

theorem resultEntries_insert {store : Store} {result : AssetPerformanceResult} {asset : Asset}
    (hasset : store.assets.find? result.asset = some asset) :
    Store.resultEntries { store with results := store.results.insert result } result.run =
      store.resultEntries result.run ++ [entryOf asset result] := by
  unfold Store.resultEntries
  show ((store.results.insert result).ids _).filterMap _ = _
  rw [Table.ids_insert, List.filterMap_append, if_pos (decide_eq_true rfl)]
  congr 1
  · apply List.filterMap_congr
    intro id hid
    obtain ⟨row, hrow, -⟩ := Table.mem_ids.mp hid
    show ((store.results.insert result).find? id).map _ = _
    rw [Table.find?_insert_of_find? result hrow, hrow]
  · show List.filterMap (fun id => ((store.results.insert result).find? id).map _) _ = _
    rw [List.filterMap_cons, Table.find?_insert_self, Option.map_some, hasset]
    rfl

/-- The state of the loop after the assets in `done` and the targets in `probed`. -/
structure Measured (before : Store) (runId : Id) (run : PerformanceRun) (done : List Id)
    (entries : List ResultEntry) (probed : List Id) (progress : Progress) : Prop where
  assets : progress.store.assets = before.assets
  targets : progress.store.targets = before.targets
  request : progress.run.request = run.request
  row : ∃ row, progress.store.runs.find? runId = some row
  baseline : ∀ asset, baselineMetricsFor progress.store runId run asset =
    baselineMetricsFor before runId run asset
  results : ∀ assetId, (progress.store.resultIds runId assetId).length =
    if assetId ∈ done then 1 else 0
  entries : progress.store.resultEntries runId = entries
  counters : Counters progress.store runId progress.run.summary
  measuredTargets : progress.measuredTargets = probed.length
  probed : progress.probed = probed

def Queried (before : Store) (run : PerformanceRun) (row : AssetRow) : Prop :=
  before.assets.find? row.id = some row.asset ∧ row.asset.snapshot = some run.snapshot

section

variable [PyText] [PerformanceEngine] (floatRepr : PyFloat → List Char)
  (measureTarget : Nat → Target → RunProfile → Measurement) (before : Store) (runId : Id)
  (run : PerformanceRun) (now : Time)

/-- The loop over the items ends with an exception where they are not evaluated, and has stored all
of them where they are. -/
def Continues (done : List Id) (entries : List ResultEntry)
    (items : List (AssetRow × ResultCreate)) (probed : List Id) :
    Except PerformanceError Progress → Prop
  | .error _ => ¬ EvaluatesAfter floatRepr before runId run now entries items
  | .ok progress => EvaluatesAfter floatRepr before runId run now entries items ∧
      Measured before runId run ((items.map fun item => item.1.id).reverse ++ done)
        (entries ++ items.filterMap (evaluatedEntry floatRepr before runId run now)) probed progress

variable {floatRepr measureTarget before runId run now} {done : List Id}
  {entries : List ResultEntry} {items items' : List (AssetRow × ResultCreate)}
  {probed probed' : List Id} {progress : Progress}

theorem Continues.bind {outcome : Except PerformanceError Progress}
    {f : Progress → Except PerformanceError Progress}
    (h : Continues floatRepr before runId run now done entries items probed outcome)
    (hnext : ∀ progress, Measured before runId run
        ((items.map fun item => item.1.id).reverse ++ done)
        (entries ++ items.filterMap (evaluatedEntry floatRepr before runId run now)) probed progress →
      Continues floatRepr before runId run now ((items.map fun item => item.1.id).reverse ++ done)
        (entries ++ items.filterMap (evaluatedEntry floatRepr before runId run now)) items' probed'
        (f progress)) :
    Continues floatRepr before runId run now done entries (items ++ items') probed'
      (outcome >>= f) := by
  cases outcome with
  | error e => exact fun hall => h ((evaluatesAfter_append entries items items').mp hall).1
  | ok progress =>
      have hrest := hnext progress h.2
      show Continues _ _ _ _ _ _ _ _ _ (f progress)
      generalize f progress = outcome at hrest
      cases outcome with
      | error e => exact fun hall => hrest ((evaluatesAfter_append entries items items').mp hall).2
      | ok progress' =>
          refine ⟨(evaluatesAfter_append entries items items').mpr ⟨h.1, hrest.1⟩, ?_⟩
          rw [List.map_append, List.reverse_append, List.append_assoc, List.filterMap_append,
            ← List.append_assoc entries]
          exact hrest.2

theorem continues_nil (h : Measured before runId run done entries probed progress) :
    Continues floatRepr before runId run now done entries [] probed (.ok progress) := by
  refine ⟨⟨fun _ hitem => absurd hitem List.not_mem_nil, fun n hn => absurd hn n.not_lt_zero⟩, ?_⟩
  rw [List.filterMap_nil, List.append_nil]
  exact h

omit [PyText] [PerformanceEngine] in
/-- The result of an asset that has none yet is a new row, and the last entry of the summary. -/
theorem Measured.saveResult (h : Measured before runId run done entries probed progress)
    {row : AssetRow} (hrow : Queried before run row) (hnew : row.id ∉ done)
    {result : AssetPerformanceResult} (hkeys : result.run = runId ∧ result.asset = row.id) :
    progress.store.saveResult result =
        { progress.store with results := progress.store.results.insert result } ∧
      (progress.store.saveResult result).resultEntries runId =
        entries ++ [entryOf row.asset result] := by
  obtain ⟨rfl, hasset⟩ := hkeys
  have hnone : progress.store.resultIds result.run result.asset = [] := by
    apply List.eq_nil_of_length_eq_zero
    rw [h.results, hasset, if_neg hnew]
  have hfound : progress.store.assets.find? result.asset = some row.asset := by
    rw [h.assets, hasset]
    exact hrow.1
  have hsaved := saveResult_new hnone
  refine ⟨hsaved, ?_⟩
  rw [hsaved, resultEntries_insert hfound, h.entries]

omit [PyText] in
/-- The state after the result of an asset and the new summary are saved. -/
theorem Measured.insert (h : Measured before runId run done entries probed progress)
    {row : AssetRow} (hrow : Queried before run row) (hnew : row.id ∉ done)
    {result : AssetPerformanceResult} (hkeys : result.run = runId ∧ result.asset = row.id)
    {summary : Dict} (hsummary : summarizeResults
      ((progress.store.saveResult result).resultEntries runId) = some summary) :
    Measured before runId run (row.id :: done) (entries ++ [entryOf row.asset result]) probed
      { progress with
        store := (progress.store.saveResult result).saveRun runId
          (resultRow progress.run summary now)
        run := resultRow progress.run summary now progress.run
        measuredAssets := progress.measuredAssets + 1 } := by
  obtain ⟨hsaved, hentries⟩ := h.saveResult hrow hnew hkeys
  obtain ⟨rfl, hasset⟩ := hkeys
  have hcounters := counters_summarizeResults hsummary
  rw [hsaved] at hentries hcounters ⊢
  constructor
  · exact h.assets
  · exact h.targets
  · exact (resultRow_request _ _ _ _).trans h.request
  · obtain ⟨current, hcurrent⟩ := h.row
    refine ⟨resultRow progress.run summary now current, ?_⟩
    rw [find?_saveRun, hcurrent, Option.map_some, if_pos rfl]
  · intro asset
    rw [baselineMetricsFor_saveRun fun row => resultRow_request _ row _ _,
      baselineMetricsFor_insert rfl]
    exact h.baseline asset
  · intro assetId
    refine (length_resultIds_insert progress.store result assetId).trans ?_
    rw [h.results, hasset]
    by_cases heq : assetId = row.id
    · subst heq
      rw [if_neg hnew, if_pos rfl, if_pos List.mem_cons_self]
    · simp only [heq, if_false, Nat.add_zero, List.mem_cons, false_or]
  · exact hentries
  · exact hcounters.saveRun _
  · exact h.measuredTargets
  · exact h.probed

/-- The row of an asset is stored exactly if the engine evaluates the asset from the rows before the
run and the database takes the result. -/
theorem Measured.stores_iff (h : Measured before runId run done entries probed progress)
    {row : AssetRow} (hrow : Queried before run row) (measurement : Measurement)
    (result : AssetPerformanceResult) :
    Stores floatRepr progress.store runId progress.run (measurement.payload row.id) now result ↔
      evaluatedResult floatRepr before runId run now (row, measurement.payload row.id) =
        some result ∧ result.storable = true := by
  have hasset : progress.store.assets.find? row.id = some row.asset := by
    rw [h.assets]
    exact hrow.1
  have hsnapshot : row.asset.snapshot = some progress.run.snapshot := by
    rw [show progress.run.snapshot = run.snapshot from congrArg Prod.fst h.request]
    exact hrow.2
  have hresult : measuredResult floatRepr progress.store runId progress.run row.asset
      (measurement.payload row.id) now =
      evaluatedResult floatRepr before runId run now (row, measurement.payload row.id) :=
    measuredResult_congr h.targets (h.baseline row.asset) h.request _ now
  rw [← hresult]
  constructor
  · intro hstores
    obtain ⟨asset, hfound, -, hmeasured, hstorable⟩ := hstores
    rw [show progress.store.assets.find? row.id = some asset from hfound] at hasset
    cases hasset
    exact ⟨hmeasured, hstorable⟩
  · intro hmeasured
    exact ⟨row.asset, hasset, hsnapshot, hmeasured⟩

/-- One turn of the loop over the assets of a target. -/
theorem storeMeasurement_continues (measurement : Measurement)
    (h : Measured before runId run done entries probed progress) {row : AssetRow}
    (hrow : Queried before run row) (hnew : row.id ∉ done) :
    Continues floatRepr before runId run now done entries [(row, measurement.payload row.id)] probed
      (storeMeasurement floatRepr runId now measurement progress row) := by
  let payload := measurement.payload row.id
  have hstores := fun result =>
    @Measured.stores_iff _ _ floatRepr _ _ _ now _ _ _ _ h _ hrow measurement result
  have hkeys : ∀ result, evaluatedResult floatRepr before runId run now (row, payload) =
      some result → result.run = runId ∧ result.asset = row.id :=
    fun result hresult => measuredResult_keys hresult
  have hcases := upserted floatRepr progress.store runId progress.run payload now
  unfold storeMeasurement
  generalize upsertResult floatRepr progress.store runId progress.run payload now = outcome at hcases
  cases hcases with
  | refused error hnone =>
      intro hall
      obtain ⟨result, -, hmeasured, hstorable, -⟩ := (evaluatesAfter_singleton entries _).mp hall
      exact hnone result ((hstores result).mpr ⟨hmeasured, hstorable⟩)
  | unsummarized result error hstored hnone =>
      intro hall
      obtain ⟨other, summary, hmeasured, -, hsummary, hstorable⟩ :=
        (evaluatesAfter_singleton entries _).mp hall
      have heval := ((hstores result).mp hstored).1
      cases hmeasured.symm.trans heval
      rw [← (h.saveResult hrow hnew (hkeys result heval)).2] at hsummary
      rw [hnone summary hsummary] at hstorable
      cases hstorable
  | summarized result summary hstored hsummary hstorable =>
      obtain ⟨heval, hresult⟩ := (hstores result).mp hstored
      have hentries := (h.saveResult hrow hnew (hkeys result heval)).2
      have hentry : evaluatedEntry floatRepr before runId run now (row, payload) =
          some (entryOf row.asset result) := by
        rw [evaluatedEntry, heval, Option.map_some]
      refine ⟨(evaluatesAfter_singleton entries _).mpr
        ⟨result, summary, heval, hresult, ?_, hstorable⟩, ?_⟩
      · rw [← hentries]
        exact hsummary
      · rw [List.filterMap_cons_some hentry]
        exact h.insert hrow hnew (hkeys result heval) hsummary

theorem foldlM_storeMeasurement (measurement : Measurement) {rows : List AssetRow}
    (h : Measured before runId run done entries probed progress)
    (hrows : ∀ row ∈ rows, Queried before run row) (hnodup : (rows.map AssetRow.id).Nodup)
    (hnew : ∀ row ∈ rows, row.id ∉ done) :
    Continues floatRepr before runId run now done entries
      (rows.map fun row => (row, measurement.payload row.id)) probed
      (rows.foldlM (storeMeasurement floatRepr runId now measurement) progress) := by
  induction rows generalizing done entries progress with
  | nil => exact continues_nil h
  | cons row rows ih =>
      have hhead : row.id ∉ rows.map AssetRow.id ∧ (rows.map AssetRow.id).Nodup :=
        List.nodup_cons.mp hnodup
      rw [List.foldlM_cons]
      apply Continues.bind (storeMeasurement_continues measurement h (hrows row List.mem_cons_self)
        (hnew row List.mem_cons_self))
      intro progress' hmeasured
      apply ih hmeasured (fun other hother => hrows other (List.mem_cons_of_mem row hother)) hhead.2
      -- an asset comes once in its group and in no group before
      intro other hother hmem
      rcases List.mem_cons.mp hmem with heq | hdone
      · have hsame : other.id = row.id := heq
        rw [← hsame] at hhead
        exact hhead.1 (List.mem_map_of_mem hother)
      · exact hnew other (List.mem_cons_of_mem row hother) hdone

theorem measureGroup_continues {group : List AssetRow} {row : AssetRow}
    (hhead : group.head? = some row)
    (h : Measured before runId run done entries probed progress)
    (hrows : ∀ row ∈ group, Queried before run row) (hnodup : (group.map AssetRow.id).Nodup)
    (hnew : ∀ row ∈ group, row.id ∉ done) :
    Continues floatRepr before runId run now done entries
      (groupPayloads measureTarget run probed.length group) (probed ++ [row.targetId])
      (measureGroup floatRepr measureTarget runId now progress group) := by
  unfold measureGroup groupPayloads
  rw [hhead]
  have hprofile : progress.run.profile = run.profile :=
    congrArg (fun request => request.2.2.1) h.request
  simp only [hprofile, h.measuredTargets]
  apply foldlM_storeMeasurement _ _ hrows hnodup hnew
  have hcount : probed.length + 1 = (probed ++ [row.targetId]).length := by
    rw [List.length_append, List.length_singleton]
  exact ⟨h.assets, h.targets, h.request, h.row, h.baseline, h.results, h.entries, h.counters,
    hcount, congrArg (· ++ [row.targetId]) h.probed⟩

omit [PyText] [PerformanceEngine] in
theorem map_groupPayloads (first : Nat) (group : List AssetRow) :
    (groupPayloads measureTarget run first group).map (fun item => item.1.id) =
      group.map AssetRow.id := by
  unfold groupPayloads
  cases group with
  | nil => rfl
  | cons row rows =>
      simp only [List.head?_cons, List.map_map]
      rfl

theorem foldlM_measureGroup {groups : List (List AssetRow)}
    (h : Measured before runId run done entries probed progress)
    (hrows : ∀ row ∈ groups.flatten, Queried before run row)
    (hnodup : (groups.flatten.map AssetRow.id).Nodup)
    (hnew : ∀ row ∈ groups.flatten, row.id ∉ done) (hne : ∀ group ∈ groups, group ≠ []) :
    Continues floatRepr before runId run now done entries
      ((groups.zipIdx probed.length).flatMap fun (group, first) =>
        groupPayloads measureTarget run first group)
      (probed ++ groupKeys AssetRow.targetId groups)
      (groups.foldlM (measureGroup floatRepr measureTarget runId now) progress) := by
  induction groups generalizing done entries probed progress with
  | nil =>
      show Continues _ _ _ _ _ _ _ [] (probed ++ []) _
      rw [List.append_nil]
      exact continues_nil h
  | cons group groups ih =>
      rw [List.flatten_cons, List.map_append] at hnodup
      rw [List.flatten_cons] at hrows hnew
      obtain ⟨row, hhead⟩ : ∃ row, group.head? = some row :=
        ⟨_, List.head?_eq_some_head (hne group List.mem_cons_self)⟩
      obtain ⟨hgroup, hgroups, hdisjoint⟩ := List.nodup_append.mp hnodup
      rw [List.foldlM_cons, List.zipIdx_cons, List.flatMap_cons, groupKeys_cons hhead,
        List.append_cons]
      apply Continues.bind (measureGroup_continues hhead h
        (fun row hrow => hrows row (List.mem_append_left _ hrow)) hgroup
        (fun row hrow => hnew row (List.mem_append_left _ hrow)))
      intro progress' hmeasured
      have hcount : (probed ++ [row.targetId]).length = probed.length + 1 := by
        rw [List.length_append, List.length_singleton]
      rw [← hcount]
      apply ih hmeasured (fun other hother => hrows other (List.mem_append_right _ hother)) hgroups _
        (fun other hother => hne other (List.mem_cons_of_mem group hother))
      -- groups share no asset
      intro other hother hmem
      rw [map_groupPayloads] at hmem
      rcases List.mem_append.mp hmem with hsame | hdone
      · exact hdisjoint other.id (List.mem_reverse.mp hsame) other.id
          (List.mem_map_of_mem hother) rfl
      · exact hnew other (List.mem_append_right _ hother) hdone

end

/-! ## 6. The whole run -/

theorem mem_assetRows {store : Store} {snapshotId : Id} {row : AssetRow} : row ∈ store.assetRows snapshotId ↔
    store.assets.find? row.id = some row.asset ∧ row.asset.snapshot = some snapshotId ∧
      row.asset.target = some row.targetId ∧ store.targets.find? row.targetId = some row.target := by
  unfold Store.assetRows
  rw [List.mem_filterMap]
  constructor
  · rintro ⟨id, hid, hrow⟩
    obtain ⟨asset, hasset, hsnapshot⟩ := Table.mem_ids.mp hid
    simp only [hasset, Option.bind_eq_bind, Option.bind_some, Option.bind_eq_some_iff] at hrow
    obtain ⟨targetId, htargetId, target, htarget, hrow⟩ := hrow
    cases hrow
    exact ⟨hasset, of_decide_eq_true hsnapshot, htargetId, htarget⟩
  · rintro ⟨hasset, hsnapshot, htargetId, htarget⟩
    refine ⟨row.id, Table.mem_ids.mpr ⟨row.asset, hasset, decide_eq_true hsnapshot⟩, ?_⟩
    simp only [hasset, htargetId, htarget, Option.bind_eq_bind, Option.bind_some]
    rfl

theorem nodup_assetRows (store : Store) (snapshotId : Id) :
    ((store.assetRows snapshotId).map AssetRow.id).Nodup := by
  unfold Store.assetRows
  rw [List.Nodup, List.pairwise_map, List.pairwise_filterMap]
  apply (Table.nodup_ids store.assets _).imp
  intro id id' hne row hrow row' hrow' heq
  apply hne
  have hid : ∀ id row, (do
      let asset ← store.assets.find? id
      let targetId ← asset.target
      let target ← store.targets.find? targetId
      return ({ id, asset, targetId, target } : AssetRow)) = some row → row.id = id := by
    intro id row hrow
    simp only [Option.bind_eq_bind, Option.bind_eq_some_iff] at hrow
    obtain ⟨asset, -, targetId, -, target, -, hrow⟩ := hrow
    cases hrow
    rfl
  rw [← hid id row hrow, ← hid id' row' hrow']
  exact heq

/-- What a run leaves: one probe of every target with assets, one result for every asset of a
target, and the counters of these results. -/
structure Exact (before : Store) (runId snapshotId : Id) (after : Progress) : Prop where
  probes : ∀ targetId, after.probed.count targetId =
    if ∃ row ∈ before.assetRows snapshotId, row.targetId = targetId then 1 else 0
  results : ∀ assetId, (after.store.resultIds runId assetId).length =
    if ∃ row ∈ before.assetRows snapshotId, row.id = assetId then 1 else 0
  counters : ∃ run, after.store.runs.find? runId = some run ∧ Counters after.store runId run.summary

section

variable [PyText] [PerformanceEngine] {floatRepr : PyFloat → List Char}
  {measureTarget : Nat → Target → RunProfile → Measurement} {runId : Id} {now : Time}
  {store : Store} {run : PerformanceRun} {assets : List AssetRow}

omit [PyText] [PerformanceEngine] in
theorem measured_begun (hrun : store.runs.find? runId = some run) (hfresh : Fresh store runId run) :
    Measured store runId run [] [] []
      { store := store.saveRun runId (saveStatus (startRunner now run)), run := startRunner now run } := by
  have hsaved : ∀ row, (saveStatus (startRunner now run) row).request = row.request := fun _ => rfl
  constructor
  · rfl
  · rfl
  · rfl
  · refine ⟨saveStatus (startRunner now run) run, ?_⟩
    rw [find?_saveRun, hrun, Option.map_some, if_pos rfl]
  · exact fun asset => baselineMetricsFor_saveRun hsaved
  · intro assetId
    rw [if_neg List.not_mem_nil, List.length_eq_zero_iff, List.eq_nil_iff_forall_not_mem]
    intro id hid
    obtain ⟨result, hresult, hkeys⟩ := Table.mem_ids.mp hid
    have hrunId : result.run = runId := (of_decide_eq_true hkeys).1
    have hmem : id ∈ store.results.ids fun result => result.run = runId :=
      Table.mem_ids.mpr ⟨result, hresult, decide_eq_true hrunId⟩
    rw [hfresh.results] at hmem
    cases hmem
  · show (store.results.ids fun result => result.run = runId).filterMap _ = []
    rw [hfresh.results]
    rfl
  · exact (hfresh.counters.runnerEntry _).saveRun _
  · rfl
  · rfl

omit [PyText] [PerformanceEngine] in
/-- A loop over all groups leaves what an exact run leaves. -/
theorem Measured.exact {items : List (AssetRow × ResultCreate)} {entries : List ResultEntry}
    {progress : Progress} {counts : Dict}
    (h : Measured store runId run ((items.map fun item => item.1.id).reverse ++ []) entries
      ([] ++ groupKeys AssetRow.targetId (groupby AssetRow.targetId assets)) progress)
    (hitems : items.map (fun item => item.1.id) = assets.map AssetRow.id)
    (hassets : assets.Perm (store.assetRows run.snapshot))
    (hsorted : assets.Pairwise fun row row' => row.targetId ≤ row'.targetId) :
    Exact store runId run.snapshot
      { progress with
        store := progress.store.saveRun runId (saveStatus (finishRunner counts now progress.run))
        run := finishRunner counts now progress.run } := by
  constructor
  · intro targetId
    show progress.probed.count targetId = _
    -- sorted by target, so no target has two groups
    rw [h.probed, List.nil_append, (nodup_groupKeys_groupby hsorted).count]
    apply if_congr _ rfl rfl
    rw [mem_groupKeys_groupby]
    simp only [hassets.mem_iff]
  · intro assetId
    show (progress.store.resultIds runId assetId).length = _
    rw [h.results]
    apply if_congr _ rfl rfl
    rw [List.append_nil, List.mem_reverse, hitems, List.mem_map]
    simp only [hassets.mem_iff]
  · obtain ⟨row, hrow⟩ := h.row
    refine ⟨saveStatus (finishRunner counts now progress.run) row, ?_, ?_⟩
    · rw [find?_saveRun, hrow, Option.map_some, if_pos rfl]
    · exact (h.counters.runnerEntry _).saveRun _

omit [PyText] [PerformanceEngine] in
theorem map_payloads (groups : List (List AssetRow)) (first : Nat) :
    ((groups.zipIdx first).flatMap fun (group, first) =>
      groupPayloads measureTarget run first group).map (fun item => item.1.id) =
      groups.flatten.map AssetRow.id := by
  induction groups generalizing first with
  | nil => rfl
  | cons group groups ih =>
      rw [List.zipIdx_cons, List.flatMap_cons, List.map_append, List.flatten_cons,
        List.map_append, ih, map_groupPayloads]

variable (floatRepr measureTarget) (now)

/-- A run on the sorted assets ends, and has measured exactly, if and only if all results and all
summaries are evaluated. -/
theorem exact_iff_evaluates (hrun : store.runs.find? runId = some run)
    (hfresh : Fresh store runId run) (hassets : assets.Perm (store.assetRows run.snapshot))
    (hsorted : assets.Pairwise fun row row' => row.targetId ≤ row'.targetId) :
    (∃ after, runPerformanceRun floatRepr measureTarget runId now assets store = .ok after ∧
        Exact store runId run.snapshot after) ↔
      EvaluatesAfter floatRepr store runId run now []
        (payloads measureTarget run (groupby AssetRow.targetId assets)) := by
  -- the groups are the sorted assets, cut where the target changes
  have hflat : (groupby AssetRow.targetId assets).flatten = assets := flatten_groupby _ assets
  have hqueried : ∀ row ∈ assets, Queried store run row := by
    intro row hrow
    have hquery := mem_assetRows.mp (hassets.mem_iff.mp hrow)
    exact ⟨hquery.1, hquery.2.1⟩
  have hnodup : (assets.map AssetRow.id).Nodup :=
    (hassets.map AssetRow.id).nodup_iff.mpr (nodup_assetRows store run.snapshot)
  have hids : (payloads measureTarget run (groupby AssetRow.targetId assets)).map
      (fun item => item.1.id) = assets.map AssetRow.id :=
    (map_payloads _ 0).trans (congrArg (List.map AssetRow.id) hflat)
  have hloop := @foldlM_measureGroup _ _ floatRepr measureTarget store runId run now [] [] [] _
    (groupby AssetRow.targetId assets) (@measured_begun runId now store run hrun hfresh)
    (by rwa [hflat]) (by rwa [hflat]) (fun _ _ => List.not_mem_nil)
    (fun group hgroup => ne_nil_of_mem_groupby hgroup)
  unfold runPerformanceRun
  rw [hrun]
  dsimp only
  generalize (groupby AssetRow.targetId assets).foldlM
    (measureGroup floatRepr measureTarget runId now)
    { store := store.saveRun runId (saveStatus (startRunner now run))
      run := startRunner now run } = outcome at hloop ⊢
  cases outcome with
  | error e =>
      constructor
      · rintro ⟨after, hend, -⟩
        cases hend
      · intro hall
        exact absurd hall hloop
  | ok progress =>
      constructor
      · intro _
        exact hloop.1
      · intro _
        exact ⟨_, rfl, hloop.2.exact hids hassets hsorted⟩

end

/-! ## 7. Two snapshots -/

def testTarget (host : String) : Target where
  host := host
  displayName := none
  ip := none
  port := 443
  protocolHint := .tls
  sni := none
  transport := .tcp
  agentEnabled := false
  agentUrl := none
  context := { field := RiskEngine.emptyContext }

def certificateOf (snapshotId : Id) (target : Option Id) : Asset where
  snapshot := some snapshotId
  target := target
  name := "certificate".toList
  assetClass := "crypto".toList
  assetType := "certificate".toList
  bomRef := "network:cert".toList
  algorithm := "RSA-2048".toList
  algorithmFamily := "RSA".toList
  metadata := .dict []

def createdRun (snapshotId : Id) (baselineSnapshot : Option Id) : PerformanceRun where
  snapshot := snapshotId
  baselineSnapshot := baselineSnapshot
  trigger := .manual
  profile := .smoke
  status := .pending
  thresholds := defaultThresholds
  summary := (@summarizeResults Engine.numberlessEngine []).getD []
  createdAt := 1

/-- Three assets of two targets and one asset of no target, with a run that was just created. -/
def twoTargets : Store where
  targets := ⟨[some (testTarget "web.testbed.local"), some (testTarget "api.testbed.local")]⟩
  assets := ⟨[some (certificateOf 0 (some 1)), some (certificateOf 0 (some 0)),
    some (certificateOf 0 none), some (certificateOf 0 (some 1))]⟩
  runs := ⟨[some (createdRun 0 none)]⟩

def rowOfTarget (id snapshotId targetId : Id) (host : String) : AssetRow where
  id := id
  asset := certificateOf snapshotId (some targetId)
  targetId := targetId
  target := testTarget host

def twoTargetsRows : List AssetRow :=
  [rowOfTarget 1 0 0 "web.testbed.local", rowOfTarget 0 0 1 "api.testbed.local",
    rowOfTarget 3 0 1 "api.testbed.local"]

/-- A snapshot of one certificate and the one before it, for which a result was uploaded. -/
def tinyBaseline : Store where
  targets := ⟨[some (testTarget "web.testbed.local")]⟩
  assets := ⟨[some (certificateOf 0 (some 0)), some (certificateOf 1 (some 0))]⟩
  runs := ⟨[some { createdRun 0 none with status := .completed }, some (createdRun 1 (some 0))]⟩
  results := ⟨[some
    { run := 0
      asset := 0
      status := .pass
      compatibilityStatus := .pass
      negotiatedAlgorithm := ""
      metrics := [("handshake_ms", .float (.ofRat (1 / 10 ^ 155 / 10 ^ 155)))]
      deltas := []
      signals := []
      recommendation := "proceed"
      errorMessage := ""
      measuredAt := 1 }]⟩

def tenMilliseconds : Measurement where
  compatibilityStatus := .pass
  metrics := [("handshake_ms", .int 10)]

end CryptoScanner.Performance
