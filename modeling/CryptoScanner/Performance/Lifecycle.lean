import CryptoScanner.Library.Transition
import CryptoScanner.Performance.Services

/-!
# The life of a performance run

Requests, uploaded results and workers write the same row.  A worker holds the run object that it
loaded when its runner began, so what it saves may be older than the row.
-/

namespace CryptoScanner.Performance

open Library Python

/-! ## 1. The writers -/

abbrev WorkerId := Nat

structure System where
  store : Store
  /-- The run that a worker measures, as its runner has it loaded. -/
  sessions : WorkerId → Option (Id × PerformanceRun)

inductive Action
  | createRun (snapshotId : Id) (payload : RunCreate)
  | patchRun (snapshotId runId : Id) (status : RunStatus) (summary : Option Dict)
  | uploadResult (snapshotId runId : Id) (payload : ResultCreate)
  | claim (runId : Id)
  | beginRunner (worker : WorkerId) (runId : Id)
  | runnerResult (worker : WorkerId) (payload : ResultCreate)
  | endRunner (worker : WorkerId) (counts : Dict)
  | failRunner (worker : WorkerId) (error : String)

def runnerEntry (state : Dict) : Dict := [("runner", .dict state)]

/-- What the claim of `process_performance_run_task` does to the run. -/
def claimRun (now : Time) (run : PerformanceRun) : PerformanceRun :=
  if run.status = .pending then
    { run with
      status := .running
      startedAt := some (run.startedAt.getD now)
      summary := Library.Dict.update run.summary (runnerEntry [("state", .str "queued")]) }
  else run

/-- The start of `run_performance_run`, on the object that it has just loaded. -/
def startRunner (now : Time) (run : PerformanceRun) : PerformanceRun :=
  updateRunStatus .running (some (runnerEntry [("state", .str "running")])) now run

def finishRunner (counts : Dict) (now : Time) (run : PerformanceRun) : PerformanceRun :=
  updateRunStatus .completed (some (runnerEntry (("state", .str "completed") :: counts))) now run

/-- The run part of `_fail_performance_run_task`. -/
def failRun (error : String) (now : Time) (run : PerformanceRun) : PerformanceRun :=
  updateRunStatus .failed
    (some (runnerEntry
      [("state", .str "failed"), ("error", .str (Jobs.truncateError error))])) now run

namespace System

def withSession (s : System) (worker : WorkerId) (session : Option (Id × PerformanceRun)) :
    System :=
  { s with sessions := Function.update s.sessions worker session }

/-- A request that creates or patches a run leaves the rows as they are where it is refused. -/
def answer (s : System) : Except PerformanceError Store → System
  | .ok store => { s with store }
  | .error _ => s

end System

section

variable [PyText] [PerformanceEngine] (floatRepr : PyFloat → List Char)

/-- One writer's step at the time `now`; `none` where the step is not enabled. -/
def step (s : System) : Action × Time → Option System
  | (.createRun snapshotId payload, now) =>
      some (s.answer (createRun s.store snapshotId payload now))
  | (.patchRun snapshotId runId status summary, now) =>
      some (s.answer (patchPerformanceRun s.store snapshotId runId status summary now))
  | (.uploadResult snapshotId runId payload, now) =>
      some { s with
        store := (upsertPerformanceResult floatRepr s.store snapshotId runId payload now).1 }
  | (.claim runId, now) => some { s with store := s.store.saveRun runId (claimRun now) }
  | (.beginRunner worker runId, now) => do
      let run ← s.store.runs.find? runId
      let loaded := startRunner now run
      return { s with store := s.store.saveRun runId (saveStatus loaded) }.withSession worker
        (some (runId, loaded))
  | (.runnerResult worker payload, now) => do
      let (runId, loaded) ← s.sessions worker
      match upsertResult floatRepr s.store runId loaded payload now with
      | (store, .ok loaded) => return { s with store }.withSession worker (some (runId, loaded))
      | (store, .error _) => return { s with store }
  | (.endRunner worker counts, now) => do
      let (runId, loaded) ← s.sessions worker
      return { s with store := s.store.saveRun runId (saveStatus (finishRunner counts now loaded)) }
        |>.withSession worker none
  | (.failRunner worker error, now) => do
      let (runId, _) ← s.sessions worker
      return { s with store := s.store.saveRun runId (failRun error now) }.withSession worker none

/-- Any snapshots, targets and assets, before the first run is created. -/
structure Initial (s : System) : Prop where
  runs : s.store.runs = .empty
  results : s.store.results = .empty
  sessions : ∀ worker, s.sessions worker = none

end

/-! ## 2. What a result does to its run -/

/-- The row of a run after a result is stored, by the loaded object. -/
def begunRow (loaded : PerformanceRun) (now : Time) (row : PerformanceRun) : PerformanceRun :=
  if loaded.status = .pending then
    { row with status := .running, startedAt := some (loaded.startedAt.getD now) }
  else row

def resultRow (loaded : PerformanceRun) (summary : Dict) (now : Time) (row : PerformanceRun) :
    PerformanceRun :=
  { begunRow loaded now row with summary }

theorem begunRow_pending {loaded : PerformanceRun} (h : loaded.status = .pending) (now : Time) :
    begunRow loaded now = fun row =>
      { row with status := .running, startedAt := some (loaded.startedAt.getD now) } := by
  funext row
  rw [begunRow, if_pos h]

theorem begunRow_begun {loaded : PerformanceRun} (h : loaded.status ≠ .pending) (now : Time)
    (row : PerformanceRun) : begunRow loaded now row = row := if_neg h

theorem begunRow_summary (loaded : PerformanceRun) (now : Time) (row : PerformanceRun) :
    (begunRow loaded now row).summary = row.summary := by
  unfold begunRow
  split <;> rfl

section

variable [PyText] [PerformanceEngine] (floatRepr : PyFloat → List Char) (store : Store) (runId : Id)
  (run : PerformanceRun) (payload : ResultCreate) (now : Time)

/-- The asset belongs to the snapshot of the run, the engine returns, and the database takes the
row. -/
def Stores (result : AssetPerformanceResult) : Prop :=
  ∃ asset, store.assets.find? payload.assetId = some asset ∧ asset.snapshot = some run.snapshot ∧
    measuredResult floatRepr store runId run asset payload now = some result ∧
    result.storable = true

/-- The result is accepted: it is stored and the new summary is saved. -/
def Accepts : Prop := (upsertResult floatRepr store runId run payload now).2.toOption.isSome = true

instance : Decidable (Accepts floatRepr store runId run payload now) :=
  inferInstanceAs (Decidable (_ = true))

/-- The rows that `upsert_result` leaves, and what it returns. -/
inductive Upserted : Store × Except PerformanceError PerformanceRun → Prop
  | refused (error : PerformanceError)
      (hnone : ∀ result, ¬ Stores floatRepr store runId run payload now result) :
      Upserted (store, .error error)
  | unsummarized (result : AssetPerformanceResult) (error : PerformanceError)
      (hstores : Stores floatRepr store runId run payload now result)
      (hnone : ∀ summary, summarizeResults ((store.saveResult result).resultEntries runId) =
        some summary → storableEntries summary = false) :
      Upserted ((beginRun (store.saveResult result) runId run now).1, .error error)
  | summarized (result : AssetPerformanceResult) (summary : Dict)
      (hstores : Stores floatRepr store runId run payload now result)
      (hsummary : summarizeResults ((store.saveResult result).resultEntries runId) = some summary)
      (hstorable : storableEntries summary = true) :
      Upserted ((store.saveResult result).saveRun runId (resultRow run summary now),
        .ok (resultRow run summary now run))

end

section

variable [PyText] [PerformanceEngine] {floatRepr : PyFloat → List Char} {store : Store} {runId : Id}
  {run : PerformanceRun} {payload : ResultCreate} {now : Time}

omit [PyText] [PerformanceEngine] in
theorem saveResult_runs (result : AssetPerformanceResult) :
    (store.saveResult result).runs = store.runs := by
  unfold Store.saveResult
  split <;> rfl

omit [PyText] [PerformanceEngine] in
theorem find?_saveRun (f : PerformanceRun → PerformanceRun) (id : Id) :
    (store.saveRun runId f).runs.find? id = (store.runs.find? id).map fun row =>
      if id = runId then f row else row := by
  rw [saveRun_runs, Table.find?_modify]
  by_cases heq : id = runId
  · simp only [heq, if_true]
  · simp only [heq, if_false, Option.map_id']

omit [PyText] [PerformanceEngine] in
theorem find?_beginRun (saved : Store) (id : Id) :
    (beginRun saved runId run now).1.runs.find? id = (saved.runs.find? id).map fun row =>
      if id = runId then begunRow run now row else row := by
  by_cases hpending : run.status = .pending
  · rw [beginRun, if_pos hpending, begunRow_pending hpending]
    exact find?_saveRun _ id
  · simp only [beginRun, hpending, if_false, begunRow_begun hpending, ite_self, Option.map_id']

omit [PyText] in
theorem refreshRunSummary_of_summary {summary : Dict}
    (hsummary : summarizeResults (store.resultEntries runId) = some summary)
    (hstorable : storableEntries summary = true) :
    refreshRunSummary store runId run =
      (store.saveRun runId fun row => { row with summary }, .ok { run with summary }) := by
  rw [refreshRunSummary, hsummary]
  exact if_pos hstorable

omit [PyText] in
/-- A PENDING run is saved twice: by its start, and by the new summary. -/
theorem refresh_beginRun {saved : Store} {summary : Dict}
    (hsummary : summarizeResults (saved.resultEntries runId) = some summary)
    (hstorable : storableEntries summary = true) :
    refreshRunSummary (beginRun saved runId run now).1 runId (beginRun saved runId run now).2 =
      (saved.saveRun runId (resultRow run summary now), .ok (resultRow run summary now run)) := by
  unfold resultRow
  by_cases hpending : run.status = .pending
  · rw [beginRun, if_pos hpending, begunRow_pending hpending]
    rw [refreshRunSummary_of_summary (by exact hsummary) hstorable]
    simp only [Store.saveRun, Table.modify_modify]
    rfl
  · simp only [begunRow_begun hpending]
    rw [beginRun, if_neg hpending]
    exact refreshRunSummary_of_summary hsummary hstorable

/-- The result of a call whose asset, evaluation and row are fine. -/
theorem upsertResult_of_stores {result : AssetPerformanceResult}
    (h : Stores floatRepr store runId run payload now result) :
    upsertResult floatRepr store runId run payload now =
      refreshRunSummary (beginRun (store.saveResult result) runId run now).1 runId
        (beginRun (store.saveResult result) runId run now).2 := by
  obtain ⟨asset, hfound, hsnapshot, hresult, hstorable⟩ := h
  unfold upsertResult
  rw [hfound]
  simp only [hsnapshot, ne_eq, not_true_eq_false, if_false, hresult, hstorable, if_true]

theorem upserted (floatRepr : PyFloat → List Char) (store : Store) (runId : Id) (run : PerformanceRun)
    (payload : ResultCreate) (now : Time) :
    Upserted floatRepr store runId run payload now
      (upsertResult floatRepr store runId run payload now) := by
  by_cases hstores : ∃ result, Stores floatRepr store runId run payload now result
  · obtain ⟨result, hstores⟩ := hstores
    have hentries : (beginRun (store.saveResult result) runId run now).1.resultEntries runId =
        (store.saveResult result).resultEntries runId := by
      unfold beginRun
      split <;> rfl
    rw [upsertResult_of_stores hstores]
    -- the row is stored, so only the summary can still raise
    cases hsummary : summarizeResults ((store.saveResult result).resultEntries runId) with
    | none =>
        rw [refreshRunSummary, hentries, hsummary]
        apply Upserted.unsummarized result .engine hstores
        intro summary hsome
        rw [hsummary] at hsome
        cases hsome
    | some summary =>
        cases hstorable : storableEntries summary with
        | true =>
            rw [refresh_beginRun hsummary hstorable]
            exact .summarized result summary hstores hsummary hstorable
        | false =>
            rw [refreshRunSummary, hentries, hsummary]
            simp only [hstorable, Bool.false_eq_true, if_false]
            apply Upserted.unsummarized result .data hstores
            intro other hsome
            rw [hsummary] at hsome
            cases hsome
            exact hstorable
  · have hnone := not_exists.mp hstores
    unfold upsertResult
    cases hfound : store.assets.find? payload.assetId with
    | none => exact .refused _ hnone
    | some asset =>
        by_cases hsnapshot : asset.snapshot = some run.snapshot
        · simp only [hsnapshot, ne_eq, not_true_eq_false, if_false]
          cases hresult : measuredResult floatRepr store runId run asset payload now with
          | none => exact .refused _ hnone
          | some result =>
              by_cases hstorable : result.storable = true
              · exact absurd ⟨result, asset, hfound, hsnapshot, hresult, hstorable⟩ hstores
              · simp only [hstorable, Bool.false_eq_true, if_false]
                exact .refused _ hnone
        · simp only [ne_eq, hsnapshot, not_false_eq_true, if_true]
          exact .refused _ hnone

theorem find?_upsertResult (h : Accepts floatRepr store runId run payload now) :
    ∃ store' results summary, summarizeResults results = some summary ∧
      upsertResult floatRepr store runId run payload now =
        (store', .ok (resultRow run summary now run)) ∧
      ∀ id, store'.runs.find? id = (store.runs.find? id).map fun row =>
        if id = runId then resultRow run summary now row else row := by
  have hcases := upserted floatRepr store runId run payload now
  unfold Accepts at h
  generalize hresult : upsertResult floatRepr store runId run payload now = outcome at hcases h
  cases hcases with
  | refused error hnone => cases h
  | unsummarized result error hstores hnone => cases h
  | summarized result summary hstores hsummary hstorable =>
      refine ⟨_, _, summary, hsummary, rfl, ?_⟩
      intro id
      rw [find?_saveRun, saveResult_runs]

end

/-! ## 3. What a step does to a row -/

section

variable [PyText] [PerformanceEngine]

/-- The row that a step leaves, from the row that was there. -/
inductive RowWrite (floatRepr : PyFloat → List Char) (s : System) (now : Time) :
    Action → Id → Option PerformanceRun → PerformanceRun → Prop
  | kept {a : Action} {id : Id} {row : PerformanceRun} : RowWrite floatRepr s now a id (some row) row
  | created {snapshotId : Id} {payload : RunCreate} {id : Id} {row : PerformanceRun}
      (hstatus : row.status = .pending) (hcompleted : row.completedAt = none) :
      RowWrite floatRepr s now (.createRun snapshotId payload) id none row
  | patched {runId : Id} {status : RunStatus} {summary : Option Dict} {row : PerformanceRun} :
      RowWrite floatRepr s now (.patchRun row.snapshot runId status summary) runId (some row)
        (updateRunStatus status summary now row)
  | uploaded {runId : Id} {payload : ResultCreate} {row : PerformanceRun}
      {results : List ResultEntry} {summary : Dict}
      (haccepts : Accepts floatRepr s.store runId row payload now)
      (hsummary : summarizeResults results = some summary) :
      RowWrite floatRepr s now (.uploadResult row.snapshot runId payload) runId (some row)
        (resultRow row summary now row)
  -- the result is stored, and then its summary raises
  | uploadStarted {runId : Id} {payload : ResultCreate} {row : PerformanceRun} :
      RowWrite floatRepr s now (.uploadResult row.snapshot runId payload) runId (some row)
        (begunRow row now row)
  | claimed {runId : Id} {row : PerformanceRun} :
      RowWrite floatRepr s now (.claim runId) runId (some row) (claimRun now row)
  | begun {worker : WorkerId} {runId : Id} {row : PerformanceRun} :
      RowWrite floatRepr s now (.beginRunner worker runId) runId (some row) (startRunner now row)
  | measured {worker : WorkerId} {runId : Id} {loaded row : PerformanceRun}
      {payload : ResultCreate} {results : List ResultEntry} {summary : Dict}
      (hsession : s.sessions worker = some (runId, loaded))
      (haccepts : Accepts floatRepr s.store runId loaded payload now)
      (hsummary : summarizeResults results = some summary) :
      RowWrite floatRepr s now (.runnerResult worker payload) runId (some row)
        (resultRow loaded summary now row)
  | measureStarted {worker : WorkerId} {runId : Id} {loaded row : PerformanceRun}
      {payload : ResultCreate} (hsession : s.sessions worker = some (runId, loaded)) :
      RowWrite floatRepr s now (.runnerResult worker payload) runId (some row)
        (begunRow loaded now row)
  | ended {worker : WorkerId} {runId : Id} {loaded row : PerformanceRun} {counts : Dict}
      (hsession : s.sessions worker = some (runId, loaded)) :
      RowWrite floatRepr s now (.endRunner worker counts) runId (some row)
        (saveStatus (finishRunner counts now loaded) row)
  | failed {worker : WorkerId} {runId : Id} {row : PerformanceRun} {error : String} :
      RowWrite floatRepr s now (.failRunner worker error) runId (some row) (failRun error now row)

variable {floatRepr : PyFloat → List Char} {s t : System} {a : Action} {now : Time}

theorem RowWrite.of_map {runId id : Id} {f : PerformanceRun → PerformanceRun}
    {row' : PerformanceRun}
    (hwrite : ∀ row, s.store.runs.find? runId = some row →
      RowWrite floatRepr s now a runId (some row) (f row))
    (h : ((s.store.runs.find? id).map fun row => if id = runId then f row else row) = some row') :
    RowWrite floatRepr s now a id (s.store.runs.find? id) row' := by
  obtain ⟨row, hrow, rfl⟩ := Option.map_eq_some_iff.mp h
  rw [hrow]
  by_cases heq : id = runId
  · subst heq
    rw [if_pos rfl]
    exact hwrite row hrow
  · rw [if_neg heq]
    exact .kept

/-- The steps that save one row by a function of the row. -/
theorem RowWrite.of_saveRun {runId id : Id} {f : PerformanceRun → PerformanceRun}
    {row' : PerformanceRun}
    (hwrite : ∀ row, s.store.runs.find? runId = some row →
      RowWrite floatRepr s now a runId (some row) (f row))
    (h : (s.store.saveRun runId f).runs.find? id = some row') :
    RowWrite floatRepr s now a id (s.store.runs.find? id) row' := by
  apply RowWrite.of_map hwrite
  rw [← find?_saveRun]
  exact h

/-- A result that a caller stores, by the object that it has loaded. -/
theorem RowWrite.of_upsertResult {runId id : Id} {loaded : PerformanceRun}
    {payload : ResultCreate} {row' : PerformanceRun}
    (hstarted : ∀ row, s.store.runs.find? runId = some row →
      RowWrite floatRepr s now a runId (some row) (begunRow loaded now row))
    (hwrite : ∀ row results summary, s.store.runs.find? runId = some row →
      Accepts floatRepr s.store runId loaded payload now →
      summarizeResults results = some summary →
      RowWrite floatRepr s now a runId (some row) (resultRow loaded summary now row))
    (h : (upsertResult floatRepr s.store runId loaded payload now).1.runs.find? id = some row') :
    RowWrite floatRepr s now a id (s.store.runs.find? id) row' := by
  have hcases := upserted floatRepr s.store runId loaded payload now
  have haccepts : (upsertResult floatRepr s.store runId loaded payload now).2.toOption.isSome →
      Accepts floatRepr s.store runId loaded payload now := fun h => h
  generalize upsertResult floatRepr s.store runId loaded payload now = outcome at hcases h haccepts
  cases hcases with
  | refused error hnone =>
      rw [show s.store.runs.find? id = some row' from h]
      exact .kept
  | unsummarized result error hstores hnone =>
      rw [find?_beginRun, saveResult_runs] at h
      exact RowWrite.of_map hstarted h
  | summarized result summary hstores hsummary hstorable =>
      rw [find?_saveRun, saveResult_runs] at h
      exact RowWrite.of_map (fun row hrow => hwrite row _ summary hrow (haccepts rfl) hsummary) h

theorem createRun_row {snapshotId : Id} {payload : RunCreate} {store : Store}
    (h : createRun s.store snapshotId payload now = .ok store) {id : Id} {row' : PerformanceRun}
    (hrow' : store.runs.find? id = some row') :
    RowWrite floatRepr s now (.createRun snapshotId payload) id (s.store.runs.find? id) row' := by
  obtain ⟨baselineSnapshot, summary, -, -, rfl⟩ := createRun_eq_ok h
  rw [Table.find?_insert] at hrow'
  by_cases heq : id = s.store.runs.nextId
  · rw [if_pos heq] at hrow'
    cases hrow'
    rw [heq, Table.find?_nextId]
    exact .created rfl rfl
  · rw [if_neg heq] at hrow'
    rw [hrow']
    exact .kept

theorem patchRun_row {snapshotId runId : Id} {status : RunStatus} {summary : Option Dict}
    {store : Store} (h : patchPerformanceRun s.store snapshotId runId status summary now = .ok store)
    {id : Id} {row' : PerformanceRun} (hrow' : store.runs.find? id = some row') :
    RowWrite floatRepr s now (.patchRun snapshotId runId status summary) id (s.store.runs.find? id) row' := by
  unfold patchPerformanceRun at h
  cases hfound : s.store.runs.find? runId with
  | none =>
      rw [hfound] at h
      cases h
  | some run =>
      rw [hfound] at h
      by_cases hsnapshot : run.snapshot = snapshotId
      · simp only [hsnapshot, ne_eq, not_true_eq_false, if_false] at h
        cases h
        refine RowWrite.of_saveRun ?_ hrow'
        intro row hrow
        rw [hfound] at hrow
        cases hrow
        subst hsnapshot
        exact .patched
      · simp only [ne_eq, hsnapshot, not_false_eq_true, if_true] at h
        cases h

theorem uploadResult_row {snapshotId runId : Id} {payload : ResultCreate} {id : Id}
    {row' : PerformanceRun}
    (h : (upsertPerformanceResult floatRepr s.store snapshotId runId payload now).1.runs.find? id =
      some row') :
    RowWrite floatRepr s now (.uploadResult snapshotId runId payload) id
      (s.store.runs.find? id) row' := by
  unfold upsertPerformanceResult at h
  cases hfound : s.store.runs.find? runId with
  | none =>
      rw [hfound] at h
      rw [show s.store.runs.find? id = some row' from h]
      exact .kept
  | some run =>
      rw [hfound] at h
      by_cases hsnapshot : run.snapshot = snapshotId
      · simp only [hsnapshot, ne_eq, not_true_eq_false, if_false] at h
        subst hsnapshot
        -- the run is loaded for the upload, so it is the row itself
        apply RowWrite.of_upsertResult _ _ h
        · intro row hrow
          rw [hfound] at hrow
          cases hrow
          exact .uploadStarted
        · intro row results summary hrow haccepts hsummary
          rw [hfound] at hrow
          cases hrow
          exact .uploaded haccepts hsummary
      · simp only [ne_eq, hsnapshot, not_false_eq_true, if_true] at h
        rw [show s.store.runs.find? id = some row' from h]
        exact .kept

theorem RowWrite.of_answer {id : Id} {row' : PerformanceRun} {outcome : Except PerformanceError Store}
    (hwrite : ∀ store, outcome = .ok store → store.runs.find? id = some row' →
      RowWrite floatRepr s now a id (s.store.runs.find? id) row')
    (h : (s.answer outcome).store.runs.find? id = some row') :
    RowWrite floatRepr s now a id (s.store.runs.find? id) row' := by
  cases outcome with
  | ok store => exact hwrite store rfl h
  | error e =>
      change s.store.runs.find? id = some row' at h
      rw [h]
      exact .kept

theorem step_row (h : step floatRepr s (a, now) = some t) {id : Id} {row' : PerformanceRun}
    (hrow' : t.store.runs.find? id = some row') :
    RowWrite floatRepr s now a id (s.store.runs.find? id) row' := by
  cases a with
  | createRun snapshotId payload =>
      cases h
      exact RowWrite.of_answer (fun store hok hrow => createRun_row hok hrow) hrow'
  | patchRun snapshotId runId status summary =>
      cases h
      exact RowWrite.of_answer (fun store hok hrow => patchRun_row hok hrow) hrow'
  | uploadResult snapshotId runId payload =>
      cases h
      exact uploadResult_row hrow'
  | claim runId =>
      cases h
      exact RowWrite.of_saveRun (fun row _ => .claimed) hrow'
  | beginRunner worker runId =>
      simp only [step, Option.bind_eq_bind, Option.bind_eq_some_iff] at h
      obtain ⟨run, hrun, h⟩ := h
      cases h
      -- the runner writes to the row it has just read
      refine RowWrite.of_saveRun ?_ hrow'
      intro row hrow
      rw [hrun] at hrow
      cases hrow
      exact .begun
  | runnerResult worker payload =>
      simp only [step, Option.bind_eq_bind, Option.bind_eq_some_iff] at h
      obtain ⟨⟨runId, loaded⟩, hsession, h⟩ := h
      have hstore : t.store = (upsertResult floatRepr s.store runId loaded payload now).1 := by
        generalize upsertResult floatRepr s.store runId loaded payload now = outcome at h
        obtain ⟨store, _ | loaded'⟩ := outcome <;> cases h <;> rfl
      rw [hstore] at hrow'
      apply RowWrite.of_upsertResult _ _ hrow'
      · intro row _
        exact .measureStarted hsession
      · intro row results summary _ haccepts hsummary
        exact .measured hsession haccepts hsummary
  | endRunner worker counts =>
      simp only [step, Option.bind_eq_bind, Option.bind_eq_some_iff] at h
      obtain ⟨⟨runId, loaded⟩, hsession, h⟩ := h
      cases h
      exact RowWrite.of_saveRun (fun row _ => .ended hsession) hrow'
  | failRunner worker error =>
      simp only [step, Option.bind_eq_bind, Option.bind_eq_some_iff] at h
      obtain ⟨⟨runId, loaded⟩, hsession, h⟩ := h
      cases h
      exact RowWrite.of_saveRun (fun row _ => .failed) hrow'

end

end CryptoScanner.Performance
