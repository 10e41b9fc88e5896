import Mathlib.Data.List.MinMax
import CryptoScanner.Library.Fallible
import CryptoScanner.Performance.Results
import CryptoScanner.Jobs.Pipelines

/-!
# The performance services

`create_run`, `upsert_result`, `update_run_status` and `refresh_run_summary` on the rows that they
read and write.  A caller holds a loaded run object, and a save writes the columns that it names.  A
call that raises leaves what it has saved before.
-/

namespace CryptoScanner.Performance

open Library Python

/-! ## 1. The rows -/

structure PerformanceRun where
  snapshot : Id
  baselineSnapshot : Option Id
  trigger : RunTrigger
  profile : RunProfile
  status : RunStatus
  thresholds : Dict
  summary : Dict
  startedAt : Option Time := none
  completedAt : Option Time := none
  createdAt : Time
  deriving DecidableEq, Repr

structure Store where
  snapshots : Table CbomSnapshot := .empty
  targets : Table Target := .empty
  assets : Table Asset := .empty
  runs : Table PerformanceRun := .empty
  results : Table AssetPerformanceResult := .empty

/-- `InvalidPerformanceResult`, the lookup of a row that is gone, an exception of the engine, and a
value that the database does not take. -/
inductive PerformanceError
  | doesNotExist
  | invalid (message : String) (details : Dict)
  | engine
  | data
  deriving DecidableEq, Repr

def Store.saveRun (store : Store) (id : Id) (f : PerformanceRun → PerformanceRun) : Store :=
  { store with runs := store.runs.modify id f }

@[simp] theorem saveRun_runs (store : Store) (id : Id) (f : PerformanceRun → PerformanceRun) :
    (store.saveRun id f).runs = store.runs.modify id f := rfl

def Store.resultIds (store : Store) (runId assetId : Id) : List Id :=
  store.results.ids fun result => result.run = runId ∧ result.asset = assetId

/-! ## 2. Creating a run -/

structure RunCreate where
  baselineSnapshotId : Option Id
  trigger : RunTrigger
  profile : RunProfile
  thresholds : Dict
  deriving DecidableEq, Repr

def resolveBaselineSnapshot (store : Store) (snapshotId : Id) (payload : RunCreate) :
    Except PerformanceError (Option Id) :=
  match payload.baselineSnapshotId with
  | some baselineId =>
      if store.snapshots.find? baselineId = none then
        throw (.invalid "baseline_snapshot_id does not exist."
          [("baseline_snapshot_id", .int baselineId)])
      else if baselineId = snapshotId then
        throw (.invalid "baseline_snapshot_id must be different from snapshot_id."
          [("baseline_snapshot_id", .int baselineId)])
      -- ids grow with time: a baseline that was made later is none
      else if payload.trigger = .postMigration ∧ snapshotId < baselineId then
        throw (.invalid "baseline_snapshot_id must reference a pre-migration snapshot."
          [("baseline_snapshot_id", .int baselineId), ("snapshot_id", .int snapshotId)])
      else return some baselineId
  | none =>
      if payload.trigger ≠ .postMigration then return none
      else
        -- the newest snapshot before this one
        match ((store.snapshots.ids fun _ => true).filter fun id => id < snapshotId).getLast? with
        | some baselineId => return some baselineId
        | none =>
            throw (.invalid "post_migration performance runs require a pre-migration snapshot."
              [("snapshot_id", .int snapshotId)])

/-- `create_run`, up to the link in the snapshot's summary; the run's id is `store.runs.nextId`. -/
def createRun [PerformanceEngine] (store : Store) (snapshotId : Id) (payload : RunCreate)
    (now : Time) : Except PerformanceError Store := do
  let baselineSnapshot ← resolveBaselineSnapshot store snapshotId payload
  match summarizeResults [] with
  | none => throw .engine
  | some summary =>
      return { store with
        runs := store.runs.insert
          { snapshot := snapshotId
            baselineSnapshot
            trigger := payload.trigger
            profile := payload.profile
            status := .pending
            thresholds := Dict.update defaultThresholds payload.thresholds
            summary
            createdAt := now } }

theorem createRun_eq_ok [PerformanceEngine] {store store' : Store} {snapshotId : Id}
    {payload : RunCreate} {now : Time} (h : createRun store snapshotId payload now = .ok store') :
    ∃ baselineSnapshot summary,
      resolveBaselineSnapshot store snapshotId payload = .ok baselineSnapshot ∧
      summarizeResults [] = some summary ∧
      store' = { store with
        runs := store.runs.insert
          { snapshot := snapshotId
            baselineSnapshot
            trigger := payload.trigger
            profile := payload.profile
            status := .pending
            thresholds := Dict.update defaultThresholds payload.thresholds
            summary
            createdAt := now } } := by
  unfold createRun at h
  obtain ⟨baselineSnapshot, hbaseline, h⟩ := bind_eq_ok.mp h
  cases hsummary : summarizeResults [] with
  | none =>
      rw [hsummary] at h
      cases h
  | some summary =>
      rw [hsummary] at h
      cases h
      exact ⟨baselineSnapshot, summary, hbaseline, rfl, rfl⟩

/-! ## 3. The status and the summary of a run -/

/-- `update_run_status` on the loaded object. -/
def updateRunStatus (status : RunStatus) (summary : Option Dict) (now : Time)
    (run : PerformanceRun) : PerformanceRun :=
  { run with
    status
    -- both times are written once
    startedAt := if status = .running then some (run.startedAt.getD now) else run.startedAt
    completedAt :=
      if status = .completed ∨ status = .failed then some (run.completedAt.getD now)
      else run.completedAt
    summary := Dict.update run.summary (summary.getD []) }

/-- The columns that `update_run_status` saves. -/
def saveStatus (run row : PerformanceRun) : PerformanceRun :=
  { row with
    status := run.status
    startedAt := run.startedAt
    completedAt := run.completedAt
    summary := run.summary }

/-- What `refresh_run_summary` reads of each result of the run. -/
def Store.resultEntries (store : Store) (runId : Id) : List ResultEntry :=
  (store.results.ids fun result => result.run = runId).filterMap fun id =>
    (store.results.find? id).map fun result =>
      { status := result.status
        deltas := result.deltas
        metrics := result.metrics
        bomRef := ((store.assets.find? result.asset).map Asset.bomRef).getD [] }

/-- `refresh_run_summary`, with the loaded object after it. -/
def refreshRunSummary [PerformanceEngine] (store : Store) (runId : Id) (run : PerformanceRun) :
    Store × Except PerformanceError PerformanceRun :=
  match summarizeResults (store.resultEntries runId) with
  | none => (store, .error .engine)
  | some summary =>
      -- a summary with an infinity is refused by the JSON column
      if storableEntries summary then
        (store.saveRun runId fun row => { row with summary }, .ok { run with summary })
      else (store, .error .data)

/-! ## 4. Storing a result -/

structure ResultCreate where
  assetId : Id
  compatibilityStatus : ResultStatus := .pass
  negotiatedAlgorithm : String := ""
  metrics : Dict := []
  recommendation : Option String := none
  errorMessage : String := ""
  deriving DecidableEq, Repr

section

variable [PyText] (floatRepr : PyFloat → List Char)

def assetProtocol (store : Store) (asset : Asset) : String :=
  match asset.target.bind store.targets.find? with
  | some target => String.ofList target.protocolHint.text
  | none =>
      let protocol :=
        match asset.metadata with
        | .dict metadata => Dict.get metadata "protocol"
        | _ => .null
      if protocol.truthy then String.ofList (protocol.pyStr floatRepr)
      else if asset.assetType = "ssh_host_key".toList ∨ asset.assetType = "ssh_user_key".toList ∨
          Has "ssh" (lower asset.bomRef) then "SSH"
      else "UNKNOWN"

def metricsWithProtocol (store : Store) (asset : Asset) (metrics : Dict) : Dict :=
  if (Dict.get metrics "protocol").truthy then metrics
  else Library.Dict.set "protocol" (.str (assetProtocol floatRepr store asset)) metrics

omit [PyText] in
def metricsWithFailureContext [PerformanceEngine] (metrics : Dict) (payload : ResultCreate)
    (evaluation : Evaluation) (status : ResultStatus) : Option Dict :=
  let enriched :=
    if status ≠ .pass ∧ ¬ (Dict.get metrics "failure_reason").truthy then
      if payload.errorMessage ≠ "" then
        Library.Dict.set "failure_reason" (.str payload.errorMessage) metrics
      else
        match evaluation.signals with
        | signal :: _ =>
            Library.Dict.set "failure_reason"
              (.str (if signal.reason = "" then status.text else signal.reason)) metrics
        | [] => metrics
    else metrics
  PerformanceEngine.normalizeAvailabilityMetrics enriched

omit [PyText] in
/-- `_baseline_metrics_for`: the latest run of the profile on the baseline snapshot, and the result
it has for the asset with the same reference. -/
def baselineMetricsFor (store : Store) (runId : Id) (run : PerformanceRun) (asset : Asset) :
    Option Dict := do
  let baselineSnapshot ← run.baselineSnapshot
  let baselineAsset ← store.assets.first? fun other =>
    other.snapshot = some baselineSnapshot ∧ other.bomRef = asset.bomRef
  let candidates := (store.runs.ids fun other =>
    other.snapshot = baselineSnapshot ∧ other.profile = run.profile).filter fun id => id ≠ runId
  let baselineRun ← candidates.argmax fun id =>
    ((store.runs.find? id).map PerformanceRun.createdAt).getD 0
  let result ← (store.resultIds baselineRun baselineAsset).argmax fun id =>
    ((store.results.find? id).map AssetPerformanceResult.measuredAt).getD 0
  (store.results.find? result).map AssetPerformanceResult.metrics

/-- `update_or_create` on the result of the run for the asset. -/
def Store.saveResult (store : Store) (result : AssetPerformanceResult) : Store :=
  match store.resultIds result.run result.asset with
  | id :: _ => { store with results := store.results.modify id fun _ => result }
  | [] => { store with results := store.results.insert result }

omit [PyText] in
/-- The metrics that `upsert_result` evaluates, with those of the baseline in them. -/
def withBaselineMetrics [PerformanceEngine] (metrics : Dict) : Option Dict → Option Dict
  | some (entry :: entries) =>
      (PerformanceEngine.normalizeAvailabilityMetrics (entry :: entries)).map fun normalized =>
        Library.Dict.set "baseline_metrics" (.dict normalized) metrics
  | _ => some metrics

/-- What `upsert_result` stores for the asset; `none` where the engine raises. -/
def measuredResult [PerformanceEngine] (store : Store) (runId : Id) (run : PerformanceRun)
    (asset : Asset) (payload : ResultCreate) (now : Time) : Option AssetPerformanceResult := do
  let metrics ← PerformanceEngine.normalizeAvailabilityMetrics
    (metricsWithProtocol floatRepr store asset payload.metrics)
  let baselineMetrics := baselineMetricsFor store runId run asset
  let metrics ← withBaselineMetrics metrics baselineMetrics
  let evaluation ←
    evaluateAssetPerformance metrics baselineMetrics payload.compatibilityStatus run.thresholds
  let status := if payload.compatibilityStatus = .error then .error else evaluation.status
  let metrics ← metricsWithFailureContext metrics payload evaluation status
  return {
    run := runId
    asset := payload.assetId
    status
    compatibilityStatus := payload.compatibilityStatus
    negotiatedAlgorithm := payload.negotiatedAlgorithm
    metrics
    deltas := evaluation.deltas
    signals := evaluation.signals
    recommendation :=
      match payload.recommendation with
      | some recommendation =>
          if recommendation = "" then evaluation.recommendation else recommendation
      | none => evaluation.recommendation
    errorMessage := payload.errorMessage
    measuredAt := now }

omit [PyText] in
/-- The first result moves a pending run to RUNNING; it reads the loaded object. -/
def beginRun (store : Store) (runId : Id) (run : PerformanceRun) (now : Time) :
    Store × PerformanceRun :=
  if run.status = .pending then
    let startedAt := some (run.startedAt.getD now)
    (store.saveRun runId fun row => { row with status := .running, startedAt },
      { run with status := .running, startedAt })
  else (store, run)

/-- `upsert_result`, which also changes the loaded object. -/
def upsertResult [PerformanceEngine] (store : Store) (runId : Id) (run : PerformanceRun)
    (payload : ResultCreate) (now : Time) : Store × Except PerformanceError PerformanceRun :=
  match store.assets.find? payload.assetId with
  | none =>
      (store, throw (.invalid "asset_id does not exist." [("asset_id", .int payload.assetId)]))
  | some asset =>
      if asset.snapshot ≠ some run.snapshot then
        (store, throw (.invalid "asset does not belong to the performance run snapshot."
          [("asset_id", .int payload.assetId),
            ("asset_snapshot_id", (asset.snapshot.map fun id => Json.int id).getD .null),
            ("run_snapshot_id", .int run.snapshot)]))
      else
        match measuredResult floatRepr store runId run asset payload now with
        | none => (store, .error .engine)
        | some result =>
            if result.storable then
              let begun := beginRun (store.saveResult result) runId run now
              refreshRunSummary begun.1 runId begun.2
            else (store, .error .data)

end

/-! ## 5. The requests -/

def patchPerformanceRun (store : Store) (snapshotId runId : Id) (status : RunStatus)
    (summary : Option Dict) (now : Time) : Except PerformanceError Store :=
  match store.runs.find? runId with
  | none => throw .doesNotExist
  | some run =>
      if run.snapshot ≠ snapshotId then throw .doesNotExist
      else return store.saveRun runId (saveStatus (updateRunStatus status summary now run))

/-- `POST /snapshots/../performance-runs/../results` -/
def upsertPerformanceResult [PyText] [PerformanceEngine] (floatRepr : PyFloat → List Char)
    (store : Store) (snapshotId runId : Id) (payload : ResultCreate) (now : Time) :
    Store × Except PerformanceError PerformanceRun :=
  match store.runs.find? runId with
  | none => (store, .error .doesNotExist)
  | some run =>
      if run.snapshot ≠ snapshotId then (store, .error .doesNotExist)
      else upsertResult floatRepr store runId run payload now

end CryptoScanner.Performance
