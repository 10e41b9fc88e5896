import CryptoScanner.Performance.Engine.Summary
import CryptoScanner.Performance.Lifecycle

/-!
# The end of a run and its summary

A run is over when it is COMPLETED or FAILED.  Nothing stops a request or a second task from taking
such a run up again, and a new result replaces the whole summary.
-/

namespace CryptoScanner.Performance

open Library Python

/-! ## 1. The end of a run -/

def Terminal (status : RunStatus) : Prop := status = .completed ∨ status = .failed

instance (status : RunStatus) : Decidable (Terminal status) := inferInstanceAs (Decidable (_ ∨ _))

/-- The time of completion is set for exactly the runs that are over. -/
def CompletedAtMatches (store : Store) : Prop :=
  ∀ id run, store.runs.find? id = some run → (run.completedAt ≠ none ↔ Terminal run.status)

/-- A result that comes late leaves the runs that are over as they are. -/
def LateResultKeeps (s t : System) : Action → Prop
  | .uploadResult _ _ _ | .runnerResult _ _ => ∀ id run run', s.store.runs.find? id = some run →
      t.store.runs.find? id = some run' → Terminal run.status → Terminal run'.status
  | _ => True

/-- No request and no runner takes up a run that is over. -/
def TakesUpNone (s : System) : Action → Prop
  | .patchRun snapshotId runId status _ => ∀ run, s.store.runs.find? runId = some run →
      run.snapshot = snapshotId → Terminal status ∨ run.completedAt = none
  | .beginRunner _ runId => ∀ run, s.store.runs.find? runId = some run → run.completedAt = none
  | _ => True

theorem completedAt_updateRunStatus (status : RunStatus) (summary : Option Dict) (now : Time)
    (run : PerformanceRun) : (updateRunStatus status summary now run).completedAt =
      if Terminal status then some (run.completedAt.getD now) else run.completedAt := rfl

theorem updateRunStatus_matches {status : RunStatus} (summary : Option Dict) {now : Time}
    {run : PerformanceRun} (h : Terminal status ∨ run.completedAt = none) :
    (updateRunStatus status summary now run).completedAt ≠ none ↔ Terminal status := by
  rw [completedAt_updateRunStatus]
  by_cases hterminal : Terminal status
  · simp only [hterminal, if_true, ne_eq, reduceCtorEq, not_false_eq_true]
  · simp only [hterminal, if_false, iff_false, not_not]
    exact h.resolve_left hterminal

instance (s : System) : (a : Action) → Decidable (TakesUpNone s a)
  | .patchRun snapshotId runId status _ => inferInstanceAs (Decidable
      (∀ run ∈ s.store.runs.find? runId, run.snapshot = snapshotId →
        Terminal status ∨ run.completedAt = none))
  | .beginRunner _ runId => inferInstanceAs (Decidable
      (∀ run ∈ s.store.runs.find? runId, run.completedAt = none))
  | .createRun _ _ | .uploadResult _ _ _ | .claim _ | .runnerResult _ _ | .endRunner _ _
  | .failRunner _ _ => isTrue trivial

/-- The runs are consistent, and every loaded run is one that its runner has started. -/
structure Consistent (s : System) : Prop where
  runs : CompletedAtMatches s.store
  sessions : ∀ worker id run, s.sessions worker = some (id, run) → run.status = .running

theorem Initial.consistent {s : System} (h : Initial s) : Consistent s := by
  constructor
  · intro id run hrun
    rw [h.runs] at hrun
    cases hrun
  · intro worker id run hsession
    rw [h.sessions] at hsession
    cases hsession

section

variable [PyText] [PerformanceEngine] {floatRepr : PyFloat → List Char} {s t : System} {a : Action}
  {now : Time}

omit [PyText] [PerformanceEngine] in
/-- A result that comes to a loaded run which runs leaves the row's status alone. -/
theorem begunRow_running {loaded : PerformanceRun} (h : loaded.status = .running) (now : Time)
    (row : PerformanceRun) : begunRow loaded now row = row := by
  have hbegun : loaded.status ≠ .pending := by
    rw [h]
    decide
  exact begunRow_begun hbegun now row

omit [PyText] [PerformanceEngine] in
theorem not_terminal_running : ¬ Terminal .running := by
  decide

omit [PyText] [PerformanceEngine] in
theorem begunRow_matches {row : PerformanceRun} (h : row.completedAt ≠ none ↔ Terminal row.status)
    (now : Time) : (begunRow row now row).completedAt ≠ none ↔
      Terminal (begunRow row now row).status := by
  by_cases hpending : row.status = .pending
  · rw [begunRow_pending hpending]
    rw [hpending] at h
    exact h.trans (iff_of_false (by decide) not_terminal_running)
  · rw [begunRow_begun hpending]
    exact h

/-- One step leaves every row consistent, unless it takes up a run that is over. -/
theorem RowWrite.matches (hs : Consistent s) (hguard : TakesUpNone s a) {id : Id}
    {row? : Option PerformanceRun} (hrow? : s.store.runs.find? id = row?) {row' : PerformanceRun}
    (h : RowWrite floatRepr s now a id row? row') : row'.completedAt ≠ none ↔ Terminal row'.status := by
  cases h with
  | kept => exact hs.runs id row' hrow?
  | created hstatus hcompleted =>
      rw [hcompleted, hstatus]
      decide
  | patched => exact updateRunStatus_matches _ (hguard _ hrow? rfl)
  | @uploaded runId payload row results summary haccepts hsummary =>
      exact begunRow_matches (hs.runs id row hrow?) now
  | @uploadStarted runId payload row => exact begunRow_matches (hs.runs id row hrow?) now
  | @claimed runId row =>
      have hrow := hs.runs id row hrow?
      unfold claimRun
      by_cases hpending : row.status = .pending
      · rw [if_pos hpending]
        rw [hpending] at hrow
        exact hrow.trans (iff_of_false (by decide) not_terminal_running)
      · rw [if_neg hpending]
        exact hrow
  | begun => exact updateRunStatus_matches _ (.inr (hguard _ hrow?))
  -- the loaded run is RUNNING, so the save names neither `status` nor `completed_at`
  | @measured worker runId loaded row payload results summary hsession haccepts hsummary =>
      unfold resultRow
      rw [begunRow_running (hs.sessions worker id loaded hsession)]
      exact hs.runs id row hrow?
  | @measureStarted worker runId loaded row payload hsession =>
      rw [begunRow_running (hs.sessions worker id loaded hsession)]
      exact hs.runs id row hrow?
  -- both ends set the completion time in the same save as the status
  | @ended worker runId loaded row counts hsession =>
      show (finishRunner counts now loaded).completedAt ≠ none ↔ Terminal .completed
      exact updateRunStatus_matches _ (.inl (.inl rfl))
  | failed => exact updateRunStatus_matches _ (.inl (.inr rfl))

omit [PyText] [PerformanceEngine] in
theorem withSession_status {worker : WorkerId} {session : Option (Id × PerformanceRun)}
    (hs : ∀ worker id run, s.sessions worker = some (id, run) → run.status = .running)
    (hsession : ∀ id run, session = some (id, run) → run.status = .running) :
    ∀ other id run, (s.withSession worker session).sessions other = some (id, run) →
      run.status = .running := by
  intro other id run hother
  dsimp only [System.withSession] at hother
  by_cases heq : other = worker
  · subst heq
    rw [Function.update_self] at hother
    exact hsession id run hother
  · rw [Function.update_of_ne heq] at hother
    exact hs other id run hother

theorem step_sessions (hs : Consistent s) (h : step floatRepr s (a, now) = some t) :
    ∀ worker id run, t.sessions worker = some (id, run) → run.status = .running := by
  have hanswer : ∀ outcome, (s.answer outcome).sessions = s.sessions := by
    intro outcome
    cases outcome <;> rfl
  -- a request leaves the copies of the workers alone, a worker writes to its own
  cases a with
  | createRun _ _ | patchRun _ _ _ _ =>
      cases h
      rw [hanswer]
      exact hs.sessions
  | claim _ | uploadResult _ _ _ =>
      cases h
      exact hs.sessions
  | beginRunner worker runId =>
      simp only [step, Option.bind_eq_bind, Option.bind_eq_some_iff] at h
      obtain ⟨run, hrun, h⟩ := h
      cases h
      refine withSession_status hs.sessions ?_
      rintro id loaded ⟨⟩
      rfl
  | runnerResult worker payload =>
      simp only [step, Option.bind_eq_bind, Option.bind_eq_some_iff] at h
      obtain ⟨⟨runId, loaded⟩, hsession, h⟩ := h
      have hcases := upserted floatRepr s.store runId loaded payload now
      generalize upsertResult floatRepr s.store runId loaded payload now = outcome at h hcases
      cases hcases with
      | refused error hnone | unsummarized result error hstores hnone =>
          cases h
          exact hs.sessions
      | summarized result summary hstores hsummary hstorable =>
          cases h
          refine withSession_status hs.sessions ?_
          rintro id run ⟨⟩
          -- the new copy is the old one with a summary, so it still runs
          have hrunning := hs.sessions worker runId loaded hsession
          show (begunRow loaded now loaded).status = .running
          rw [begunRow_running hrunning, hrunning]
  | endRunner worker counts | failRunner worker error =>
      simp only [step, Option.bind_eq_bind, Option.bind_eq_some_iff] at h
      obtain ⟨⟨runId, loaded⟩, hsession, h⟩ := h
      cases h
      refine withSession_status hs.sessions ?_
      rintro id run ⟨⟩

theorem step_consistent (hs : Consistent s) (hguard : TakesUpNone s a)
    (h : step floatRepr s (a, now) = some t) : Consistent t where
  runs := fun _ _ hrow' => RowWrite.matches hs hguard rfl (step_row h hrow')
  sessions := step_sessions hs h

/-- A stored result never changes the status of a run that is over. -/
theorem step_lateResult (hs : Consistent s) (h : step floatRepr s (a, now) = some t) :
    LateResultKeeps s t a := by
  have hkeeps : ∀ id run run', s.store.runs.find? id = some run →
      t.store.runs.find? id = some run' → Terminal run.status →
      (RowWrite floatRepr s now a id (some run) run' → run'.status = run.status) →
      Terminal run'.status := by
    intro id run run' hrun hrun' hterminal hsame
    have hwrite := step_row h hrun'
    rw [hrun] at hwrite
    rw [hsame hwrite]
    exact hterminal
  cases a with
  | uploadResult snapshotId runId payload =>
      intro id run run' hrun hrun' hterminal
      apply hkeeps id run run' hrun hrun' hterminal
      intro hwrite
      have hbegun : run.status ≠ .pending := by
        intro heq
        rw [heq] at hterminal
        exact absurd hterminal (by decide)
      cases hwrite with
      | kept => rfl
      | uploaded haccepts hsummary =>
          show (begunRow run now run).status = run.status
          rw [begunRow_begun hbegun]
      | uploadStarted => exact congrArg PerformanceRun.status (begunRow_begun hbegun now run)
  | runnerResult worker payload =>
      intro id run run' hrun hrun' hterminal
      apply hkeeps id run run' hrun hrun' hterminal
      intro hwrite
      cases hwrite with
      | kept => rfl
      | @measured _ _ loaded _ _ _ _ hsession haccepts hsummary =>
          show (begunRow loaded now run).status = run.status
          rw [begunRow_running (hs.sessions worker id loaded hsession)]
      | measureStarted hsession =>
          exact congrArg PerformanceRun.status
            (begunRow_running (hs.sessions worker id _ hsession) now run)
  | createRun _ _ | patchRun _ _ _ _ | claim _ | beginRunner _ _ | endRunner _ _
  | failRunner _ _ => trivial

/-- Taking up a run that is over leaves its time of completion behind. -/
theorem takesUpNone_of_matches (h : step floatRepr s (a, now) = some t)
    (ht : CompletedAtMatches t.store) : TakesUpNone s a := by
  cases a with
  | patchRun snapshotId runId status summary =>
      intro run hrun hsnapshot
      by_contra hneither
      rw [not_or] at hneither
      cases h
      have hrow : (s.answer (patchPerformanceRun s.store snapshotId runId status summary now)
          ).store.runs.find? runId = some (updateRunStatus status summary now run) := by
        unfold patchPerformanceRun
        simp only [hrun, hsnapshot, ne_eq, not_true_eq_false, if_false]
        show (s.store.saveRun runId _).runs.find? runId = _
        rw [saveRun_runs, Table.find?_modify_self, hrun]
        rfl
      -- the kept completion time would stand beside a status that is not the end
      have hmatch := ht runId _ hrow
      rw [completedAt_updateRunStatus, if_neg hneither.1] at hmatch
      exact hneither.1 (hmatch.mp hneither.2)
  | beginRunner worker runId =>
      intro run hrun
      by_contra hcompleted
      simp only [step, hrun, Option.bind_eq_bind, Option.bind_some] at h
      cases h
      have hrow : (s.store.saveRun runId (saveStatus (startRunner now run))).runs.find? runId =
          some (startRunner now run) := by
        rw [saveRun_runs, Table.find?_modify_self, hrun]
        rfl
      exact not_terminal_running ((ht runId _ hrow).mp hcompleted)
  | createRun _ _ | uploadResult _ _ _ | claim _ | runnerResult _ _ | endRunner _ _
  | failRunner _ _ => trivial

/-- In the runs of the writers, completion times match the statuses and late results keep the runs
that are over exactly if no step takes up a run that is over. -/
theorem completedAt_matches_iff (floatRepr : PyFloat → List Char) {s : System} (hs : Initial s)
    (actions : List (Action × Time)) :
    everyStep (step floatRepr)
        (fun s a t => CompletedAtMatches t.store ∧ LateResultKeeps s t a.1) s actions ↔
      everyStep (step floatRepr) (fun s a _ => TakesUpNone s a.1) s actions := by
  -- every step of a consistent system is right exactly if it takes up no run that is over
  refine everyStep_iff (I := Consistent) ?_ ?_ hs.consistent actions
  · rintro s ⟨a, now⟩ t hconsistent hguard hstep
    exact step_consistent hconsistent hguard hstep
  · rintro s ⟨a, now⟩ t hconsistent hstep
    constructor
    · intro h
      exact takesUpNone_of_matches hstep h.1
    · intro hguard
      exact ⟨(step_consistent hconsistent hguard hstep).runs, step_lateResult hconsistent hstep⟩

end

def firstSnapshot : System where
  store :=
    { snapshots := ⟨[some
        { scanJob := 0
          summary :=
            { assetCount := 1
              targetCount := 0
              byType := []
              byAlgorithmFamily := []
              byScanner := [] } }]⟩
      assets := ⟨[some
        { snapshot := some 0
          target := none
          name := "web certificate".toList
          assetClass := "crypto".toList
          assetType := "certificate".toList
          bomRef := "network:cert".toList
          algorithm := "RSA-2048".toList
          algorithmFamily := "RSA".toList
          metadata := .dict [("protocol", .str "TLS")] }]⟩ }
  sessions := fun _ => none

theorem firstSnapshot_initial : Initial firstSnapshot where
  runs := rfl
  results := rfl
  sessions := fun _ => rfl

def smokeRun : RunCreate where
  baselineSnapshotId := none
  trigger := .manual
  profile := .smoke
  thresholds := []

/-- A run that a worker takes and measures, and a result that is uploaded after its end. -/
def measuredRun : List (Action × Time) :=
  [(.createRun 0 smokeRun, 1), (.claim 0, 2), (.beginRunner 7 0, 3),
    (.runnerResult 7 { assetId := 0 }, 4), (.endRunner 7 [], 5),
    (.uploadResult 0 0 { assetId := 0 }, 6)]

theorem measuredRun_matches : letI := asciiText
    letI := Engine.numberlessEngine
    everyStep (step fun _ => [])
      (fun s a t => CompletedAtMatches t.store ∧ LateResultKeeps s t a.1) firstSnapshot
      measuredRun :=
  letI := asciiText
  letI := Engine.numberlessEngine
  (completedAt_matches_iff (fun _ => []) firstSnapshot_initial measuredRun).mpr
    (by decide +kernel)

/-- A PATCH may take up a run that is over, and the run is then measured with a completion time. -/
theorem reopened_run : letI := asciiText
    letI := Engine.numberlessEngine
    ¬ ∀ (s : System), Initial s → ∀ actions, everyStep (step fun _ => [])
      (fun s a t => CompletedAtMatches t.store ∧ LateResultKeeps s t a.1) s actions := by
  let := asciiText
  let := Engine.numberlessEngine
  intro h
  have hrun := h firstSnapshot firstSnapshot_initial
    [(.createRun 0 smokeRun, 1), (.patchRun 0 0 .completed none, 2),
      (.patchRun 0 0 .running none, 3)]
  rw [completedAt_matches_iff _ firstSnapshot_initial] at hrun
  exact absurd hrun (by decide +kernel)

/-! ## 2. The summary of a run -/

/-- A key that `summarize_results` does not compute has the same value in both summaries. -/
def SameOtherKeys (summary summary' : Dict) : Prop :=
  ∀ key ∉ summaryKeys, summary'.lookup key = summary.lookup key

/-- A stored result changes only the computed keys of the summaries. -/
def ResultKeepsKeys (s t : System) : Action → Prop
  | .uploadResult _ _ _ | .runnerResult _ _ => ∀ id run run', s.store.runs.find? id = some run →
      t.store.runs.find? id = some run' → SameOtherKeys run.summary run'.summary
  | _ => True

def OnlyComputedKeys (summary : Dict) : Prop := ∀ key ∈ summary.map Prod.fst, key ∈ summaryKeys

instance (summary : Dict) : Decidable (OnlyComputedKeys summary) :=
  inferInstanceAs (Decidable (∀ key ∈ summary.map Prod.fst, key ∈ summaryKeys))

section

variable [PyText] [PerformanceEngine] (floatRepr : PyFloat → List Char)

/-- The summary of the run that takes a result has only computed keys. -/
def SummaryIsComputed (s : System) (now : Time) : Action → Prop
  | .uploadResult snapshotId runId payload => ∀ run ∈ s.store.runs.find? runId,
      run.snapshot = snapshotId → Accepts floatRepr s.store runId run payload now →
        OnlyComputedKeys run.summary
  | .runnerResult worker payload => ∀ session ∈ s.sessions worker,
      ∀ run ∈ s.store.runs.find? session.1,
        Accepts floatRepr s.store session.1 session.2 payload now → OnlyComputedKeys run.summary
  | _ => True

instance (s : System) (now : Time) : (a : Action) → Decidable (SummaryIsComputed floatRepr s now a)
  | .uploadResult snapshotId runId payload => inferInstanceAs (Decidable
      (∀ run ∈ s.store.runs.find? runId, run.snapshot = snapshotId →
        Accepts floatRepr s.store runId run payload now → OnlyComputedKeys run.summary))
  | .runnerResult worker payload => inferInstanceAs (Decidable
      (∀ session ∈ s.sessions worker, ∀ run ∈ s.store.runs.find? session.1,
        Accepts floatRepr s.store session.1 session.2 payload now → OnlyComputedKeys run.summary))
  | .createRun _ _ | .patchRun _ _ _ _ | .claim _ | .beginRunner _ _ | .endRunner _ _
  | .failRunner _ _ => isTrue trivial

end

theorem onlyComputedKeys_iff (summary : Dict) :
    OnlyComputedKeys summary ↔ ∀ key ∉ summaryKeys, summary.lookup key = none := by
  apply forall_congr'
  intro key
  rw [Library.Dict.lookup_eq_none_iff_keys]
  exact not_imp_not.symm

theorem lookup_summarizeResults [PerformanceEngine] {results : List ResultEntry} {summary : Dict}
    (hsummary : summarizeResults results = some summary) {key : String} (hkey : key ∉ summaryKeys) :
    summary.lookup key = none := by
  rw [Library.Dict.lookup_eq_none_iff_keys, (summarizeResults_spec hsummary).1]
  exact hkey

section

variable [PyText] [PerformanceEngine] {floatRepr : PyFloat → List Char} {s t : System} {a : Action}
  {now : Time}

omit [PyText] in
/-- The new summary has no other key, so it keeps those of the old one only where there are none. -/
theorem sameOtherKeys_resultRow {loaded row : PerformanceRun} {results : List ResultEntry}
    {summary : Dict} (hsummary : summarizeResults results = some summary) :
    SameOtherKeys row.summary (resultRow loaded summary now row).summary ↔
      OnlyComputedKeys row.summary := by
  show SameOtherKeys row.summary summary ↔ _
  rw [onlyComputedKeys_iff]
  apply forall_congr'
  intro key
  apply imp_congr_right
  intro hkey
  rw [lookup_summarizeResults hsummary hkey]
  exact eq_comm

omit [PyText] [PerformanceEngine] in
theorem sameOtherKeys_begunRow (loaded row : PerformanceRun) (now : Time) :
    SameOtherKeys row.summary (begunRow loaded now row).summary := by
  rw [begunRow_summary]
  exact fun _ _ => rfl

theorem resultKeepsKeys_iff (h : step floatRepr s (a, now) = some t) :
    ResultKeepsKeys s t a ↔ SummaryIsComputed floatRepr s now a := by
  -- only the two ways to store a result write a summary computed from the results
  cases a with
  | uploadResult snapshotId runId payload =>
      constructor
      · intro hkeeps run hrun hsnapshot haccepts
        obtain ⟨store', results, summary, hsummary, hok, hrows⟩ := find?_upsertResult haccepts
        have hrow : t.store.runs.find? runId = some (resultRow run summary now run) := by
          cases h
          rw [Option.mem_def] at hrun
          simp only [upsertPerformanceResult, hrun, hsnapshot, ne_eq, not_true_eq_false, if_false,
            hok]
          rw [hrows, hrun, Option.map_some, if_pos rfl]
        exact (sameOtherKeys_resultRow hsummary).mp (hkeeps runId run _ hrun hrow)
      · intro hcomputed id run run' hrun hrun'
        have hwrite := step_row h hrun'
        rw [hrun] at hwrite
        cases hwrite with
        | kept => exact fun _ _ => rfl
        | uploaded haccepts hsummary =>
            exact (sameOtherKeys_resultRow hsummary).mpr (hcomputed run hrun rfl haccepts)
        | uploadStarted => exact sameOtherKeys_begunRow run run now
  | runnerResult worker payload =>
      constructor
      · rintro hkeeps ⟨runId, loaded⟩ hsession run hrun haccepts
        obtain ⟨store', results, summary, hsummary, hok, hrows⟩ := find?_upsertResult haccepts
        have hrow : t.store.runs.find? runId = some (resultRow loaded summary now run) := by
          rw [Option.mem_def] at hsession
          simp only [step, hsession, Option.bind_eq_bind, Option.bind_some, hok] at h
          cases h
          show store'.runs.find? runId = _
          rw [hrows, hrun, Option.map_some, if_pos rfl]
        exact (sameOtherKeys_resultRow hsummary).mp (hkeeps runId run _ hrun hrow)
      · intro hcomputed id run run' hrun hrun'
        have hwrite := step_row h hrun'
        rw [hrun] at hwrite
        cases hwrite with
        | kept => exact fun _ _ => rfl
        | measured hsession haccepts hsummary =>
            exact (sameOtherKeys_resultRow hsummary).mpr
              (hcomputed (id, _) hsession run hrun haccepts)
        | measureStarted hsession => exact sameOtherKeys_begunRow _ run now
  | createRun _ _ | patchRun _ _ _ _ | claim _ | beginRunner _ _ | endRunner _ _
  | failRunner _ _ => exact Iff.rfl

/-- In the runs of the writers, every result keeps the other keys of the summaries exactly if every
result that is accepted comes to a run whose summary has no other key. -/
theorem resultsKeepKeys_iff (floatRepr : PyFloat → List Char) (s : System)
    (actions : List (Action × Time)) :
    everyStep (step floatRepr) (fun s a t => ResultKeepsKeys s t a.1) s actions ↔
      everyStep (step floatRepr) (fun s a _ => SummaryIsComputed floatRepr s a.2 a.1) s
        actions := by
  refine everyStep_iff (I := fun _ => True) ?_ ?_ trivial actions
  · intro s a t _ _ _
    trivial
  · rintro s ⟨a, now⟩ t _ hstep
    exact resultKeepsKeys_iff hstep

end

/-- The first result of a run that a worker measures erases the state of its runner. -/
theorem runner_state_erased : letI := asciiText
    letI := Engine.numberlessEngine
    ¬ ∀ (s : System), Initial s → ∀ actions, everyStep (step fun _ => [])
      (fun s a t => ResultKeepsKeys s t a.1) s actions := by
  intro h
  have hrun := h firstSnapshot firstSnapshot_initial measuredRun
  -- the first upload comes to a run whose summary has the state of its runner
  have hcomputed := (@resultsKeepKeys_iff asciiText Engine.numberlessEngine _ _ _).mp hrun
  exact absurd hcomputed (by decide +kernel)

end CryptoScanner.Performance
