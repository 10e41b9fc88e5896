import CryptoScanner.Jobs.QueueOrder
import CryptoScanner.Jobs.Records

/-!
# The performance run that follows a scan

The completing transaction of a scan that asks for an availability check opens a run on the new
snapshot, and names it in the job's result.  In every run of the system a scan names a run exactly
where it asked for one, and each run is carried by one task of the queue.
-/

namespace CryptoScanner

open Library

/-- `result["availability_run_id"]` and `result["availability_snapshot_id"]` of a scan's job. -/
def JobResult.availability : JobResult → Option Availability
  | .scan result => result.availability
  | _ => none

def AsyncJob.availability (job : AsyncJob) : Option Availability :=
  job.result.bind JobResult.availability

theorem AsyncJob.availability_eq_some {job : AsyncJob} {availability : Availability} :
    job.availability = some availability ↔
      ∃ result, job.result = some (.scan result) ∧ result.availability = some availability := by
  unfold AsyncJob.availability
  rw [Option.bind_eq_some_iff]
  constructor
  · intro h
    obtain ⟨result, hresult, havailability⟩ := h
    cases result with
    | scan result => exact ⟨result, hresult, havailability⟩
    | discovery | recompute => cases havailability
  · intro h
    obtain ⟨result, hresult, havailability⟩ := h
    exact ⟨.scan result, hresult, havailability⟩

def AsyncJob.outcome (job : AsyncJob) : RequestPayload × Option JobResult :=
  (job.requestPayload, job.result)

/-- What was asked for when a run was created, which no later save changes. -/
def PerformanceEvaluationRun.request (run : PerformanceEvaluationRun) :
    Id × RunTrigger × RunProfile :=
  (run.snapshot, run.trigger, run.profile)

def TaskPayload.RunFree (payload : TaskPayload) : Prop :=
  ∀ runId snapshotId, payload ≠ .performanceRun runId snapshotId

namespace Jobs

open Database

/-! ## 1. What a step does to the runs -/

/-- A job that has no result of a scan, or one that neither asked for a run nor names one. -/
def Unasked (job : AsyncJob) : Prop :=
  ∀ result, job.result = some (.scan result) →
    result.availability = none ∧ job.requestPayload.autoAvailabilityCheck ≠ some true

theorem Unasked.of_outcome {job job' : AsyncJob} (h : Unasked job)
    (hsame : job'.outcome = job.outcome) : Unasked job' := by
  have hpayload : job'.requestPayload = job.requestPayload := congrArg Prod.fst hsame
  have hresult : job'.result = job.result := congrArg Prod.snd hsame
  intro result hfound
  rw [hpayload]
  exact h result (hresult ▸ hfound)

/-- A job whose result names the run `runId`, which it asked for. -/
def Names (job : AsyncJob) (runId : Id) (request : Id × RunTrigger × RunProfile) : Prop :=
  ∃ result, job.result = some (.scan result) ∧
    job.requestPayload.autoAvailabilityCheck = some true ∧
    result.availability = some { runId, snapshotId := result.snapshotId } ∧
    request = (result.snapshotId, .discovery, .smoke)

/-- The row of a job after a step shows what one before did, or neither asks for a run nor names
one. -/
def OutcomeKept (db : Database) (jobId : Id) (job' : AsyncJob) : Prop :=
  Unasked job' ∨ ∃ job, db.jobs.find? jobId = some job ∧ job'.outcome = job.outcome

/-- Every row that the second table has and the first has not satisfies `P`. -/
def AddsOnly (t t' : Table QueuedTask) (P : Id → TaskPayload → Prop) : Prop :=
  ∀ taskId task', t'.find? taskId = some task' → t.find? taskId = none → P taskId task'.payload

/-- What a step does to the runs, to the tasks that carry them and to the results that name them. -/
inductive RunsChange (db db' : Database) : Prop
  | kept : SameView PerformanceEvaluationRun.request db.runs db'.runs →
      AddsOnly db.tasks db'.tasks (fun _ payload => payload.RunFree) →
      (∀ jobId job', db'.jobs.find? jobId = some job' → OutcomeKept db jobId job') →
      RunsChange db db'
  | opened (run : PerformanceEvaluationRun) (task : QueuedTask) (owner : Option Id) :
      db'.runs = db.runs.insert run →
      db'.tasks.find? db.tasks.nextId = some task →
      task.payload = .performanceRun db.runs.nextId run.snapshot →
      AddsOnly db.tasks db'.tasks (fun taskId payload =>
        taskId = db.tasks.nextId ∧ payload = .performanceRun db.runs.nextId run.snapshot) →
      (∀ jobId job', db'.jobs.find? jobId = some job' → OutcomeKept db jobId job' ∨
        owner = some jobId ∧ Names job' db.runs.nextId run.request) →
      RunsChange db db'
  /-- A run that waits for uploads, which no task carries. -/
  | created (run : PerformanceEvaluationRun) :
      db'.runs = db.runs.insert run → db'.tasks = db.tasks →
      (∀ jobId job', db'.jobs.find? jobId = some job' → OutcomeKept db jobId job') →
      RunsChange db db'

/-- The rows of the jobs after one of them was saved and kept its outcome. -/
theorem outcomeKept_modify {db db' : Database} {jobId : Id} {f : AsyncJob → AsyncJob}
    (hjobs : db'.jobs = db.jobs.modify jobId f)
    (hf : ∀ job, db.jobs.find? jobId = some job →
      Unasked (f job) ∨ (f job).outcome = job.outcome) :
    ∀ id job', db'.jobs.find? id = some job' → OutcomeKept db id job' := by
  intro id job' hfound
  rw [hjobs] at hfound
  by_cases hid : id = jobId
  · subst hid
    rw [Table.find?_modify_self, Option.map_eq_some_iff] at hfound
    obtain ⟨job, hjob, heq⟩ := hfound
    subst heq
    exact (hf job hjob).imp_right fun hsame => ⟨job, hjob, hsame⟩
  · rw [Table.find?_modify_ne _ f hid] at hfound
    exact .inr ⟨job', hfound, rfl⟩

theorem OutcomeKept.trans {db db' : Database} {jobId : Id} {job' : AsyncJob}
    (h : OutcomeKept db' jobId job')
    (hbefore : ∀ id job, db'.jobs.find? id = some job → OutcomeKept db id job) :
    OutcomeKept db jobId job' := by
  rcases h with hunasked | ⟨job, hjob, hsame⟩
  · exact .inl hunasked
  · rcases hbefore jobId job hjob with hunasked | ⟨old, hold, heq⟩
    · exact .inl (hunasked.of_outcome hsame)
    · exact .inr ⟨old, hold, hsame.trans heq⟩

theorem outcomeKept_same {db db' : Database} (hjobs : db'.jobs = db.jobs) :
    ∀ id job', db'.jobs.find? id = some job' → OutcomeKept db id job' := by
  intro id job' hfound
  rw [hjobs] at hfound
  exact .inr ⟨job', hfound, rfl⟩

theorem outcomeKept_insert {db db' : Database} {row : AsyncJob} (hrow : row.result = none)
    (hjobs : db'.jobs = db.jobs.insert row) :
    ∀ id job', db'.jobs.find? id = some job' → OutcomeKept db id job' := by
  intro id job' hfound
  rw [hjobs, Table.find?_insert] at hfound
  by_cases hid : id = db.jobs.nextId
  · rw [if_pos hid] at hfound
    cases hfound
    left
    intro result hresult
    rw [hrow] at hresult
    cases hresult
  · rw [if_neg hid] at hfound
    exact .inr ⟨job', hfound, rfl⟩

section AddsOnly

variable {t t' : Table QueuedTask} {P : Id → TaskPayload → Prop}

theorem AddsOnly.refl (t : Table QueuedTask) : AddsOnly t t P := by
  intro taskId task' hfound hnone
  rw [hnone] at hfound
  cases hfound

theorem AddsOnly.updateWhere (t : Table QueuedTask) (p : Id → QueuedTask → Bool)
    (f : QueuedTask → QueuedTask) : AddsOnly t (t.updateWhere p f) P := by
  intro taskId task' hfound hnone
  rw [Table.find?_updateWhere, hnone] at hfound
  cases hfound

theorem AddsOnly.insert (h : AddsOnly t t' P) {row : QueuedTask} (hrow : P t'.nextId row.payload) :
    AddsOnly t (t'.insert row) P := by
  intro taskId task' hfound hnone
  rw [Table.find?_insert] at hfound
  by_cases hid : taskId = t'.nextId
  · rw [if_pos hid] at hfound
    cases hfound
    rw [hid]
    exact hrow
  · rw [if_neg hid] at hfound
    exact h taskId task' hfound hnone

end AddsOnly

/-! ## 2. The transactions of the workers -/

theorem claim_adds {P : Id → TaskPayload → Prop} {db db' : Database} {taskId : Id} {now : Time}
    (h : ClaimedRows db db' taskId now) : AddsOnly db.tasks db'.tasks P := by
  rcases h.tasks with ⟨_, _, _, hsame⟩ | htaken | hdropped
  · rw [hsame]
    exact .refl db.tasks
  · rw [htaken]
    exact .updateWhere db.tasks _ _
  · rw [hdropped]
    intro id task' hfound hnone
    rw [Table.modify_modify] at hfound
    exact AddsOnly.updateWhere db.tasks _ _ id task' hfound hnone

theorem claimTask_runs {prepare : Database → QueuedTask → Except DbError Prepared}
    {db : Database} {taskId : Id} {now : Time} {c : Claim}
    (hprepare : ∀ task prepared, prepare db task = .ok prepared → ∀ db',
      SameView PerformanceEvaluationRun.request db'.runs (prepared.saveResource db').runs)
    (h : claimTask prepare db taskId now = .ok c) :
    SameView PerformanceEvaluationRun.request db.runs c.db.runs := by
  obtain ⟨task, _, hcase⟩ := claimTask_cases h
  rcases hcase with ⟨_, hskip⟩ | ⟨_, prepared, hprepared, hstart⟩
  · subst hskip
    exact SameView.refl _ _
  · rcases hstart with ⟨_, hc⟩ | ⟨jobId, progress, job, _, _, ⟨_, hc⟩ | hc⟩
    · subst hc
      exact hprepare task prepared hprepared (db.saveTask taskId (takeTask now))
    · subst hc
      exact SameView.refl _ _
    · subst hc
      exact hprepare task prepared hprepared
        ((db.saveTask taskId (takeTask now)).saveJob jobId (beginJob progress now))

theorem claim_runs {db : Database} {taskId : Id} {now : Time} {c : Claim}
    (h : claim db taskId now = .ok c) : RunsChange db c.db := by
  have hrows := claim_rows h
  refine .kept ?_ (claim_adds hrows) ?_
  · unfold claim at h
    rw [bind_eq_ok] at h
    obtain ⟨task, _, h⟩ := h
    -- only a performance run saves a run with the claim
    cases hpayload : task.payload with
    | performanceRun runId snapshotId =>
        simp only [hpayload] at h
        apply claimTask_runs _ h
        intro task' prepared hprepared db'
        rw [bind_eq_ok] at hprepared
        obtain ⟨run, _, hprepared⟩ := hprepared
        cases hprepared
        by_cases hpending : run.status = .pending
        · simp only [hpending, if_true]
          exact SameView.modify db'.runs runId fun _ _ => rfl
        · simp only [hpending, if_false]
          exact SameView.refl _ _
    | scanJob scanJobId targetIds scanners =>
        simp only [hpayload] at h
        apply claimTask_runs _ h
        intro task' prepared hprepared db'
        cases hjob : task'.asyncJob with
        | none =>
            rw [hjob] at hprepared
            cases hprepared
        | some jobId =>
            simp only [hjob, bind_eq_ok] at hprepared
            obtain ⟨scanJob, _, hprepared⟩ := hprepared
            cases hprepared
            exact SameView.refl _ _
    | discovery discoveryId =>
        simp only [hpayload] at h
        apply claimTask_runs _ h
        intro task' prepared hprepared db'
        rw [bind_eq_ok] at hprepared
        obtain ⟨discovery, _, hprepared⟩ := hprepared
        cases hprepared
        exact SameView.refl _ _
    | recompute request =>
        simp only [hpayload] at h
        apply claimTask_runs _ h
        intro task' prepared hprepared db'
        cases hprepared
        exact SameView.refl _ _
    | qualitativeAssessment assetId =>
        simp only [hpayload] at h
        apply claimTask_runs _ h
        intro task' prepared hprepared db'
        cases hprepared
        exact SameView.refl _ _
  · rcases hrows.jobs with hsame | ⟨jobId, progress, hjobs⟩
    · exact outcomeKept_same hsame
    · exact outcomeKept_modify hjobs fun _ _ => .inr rfl

theorem fail_runs {db db' : Database} {taskId : Id} {error : String} {now : Time}
    (h : fail db taskId error now = .ok db') : RunsChange db db' := by
  have hadds : AddsOnly db.tasks db'.tasks (fun _ payload => payload.RunFree) := by
    rw [fail_tasks h]
    exact .updateWhere db.tasks _ _
  unfold fail at h
  rw [bind_eq_ok] at h
  obtain ⟨task, hget, h⟩ := h
  have hfound := get_eq_ok.mp hget
  have hsaved : ∀ jobId, db'.jobs = db.jobs.modify jobId (failJob error now) →
      SameView PerformanceEvaluationRun.request db.runs db'.runs → RunsChange db db' :=
    fun _ hjobs hruns => .kept hruns hadds (outcomeKept_modify hjobs fun _ _ => .inr rfl)
  cases hpayload : task.payload with
  | scanJob scanJobId targetIds scanners =>
      simp only [hpayload, failScanJobTask, get_bind hfound] at h
      cases howner : task.asyncJob with
      | none =>
          rw [howner] at h
          cases h
      | some jobId =>
          simp only [howner] at h
          cases h
          exact hsaved jobId rfl (SameView.refl _ _)
  | discovery discoveryId =>
      simp only [hpayload, failDiscoveryTask, get_bind hfound] at h
      cases howner : task.asyncJob with
      | none =>
          simp only [howner] at h
          cases h
          exact .kept (SameView.refl _ _) hadds (outcomeKept_same rfl)
      | some jobId =>
          simp only [howner] at h
          cases h
          exact hsaved jobId rfl (SameView.refl _ _)
  | recompute request =>
      simp only [hpayload, failRecomputeTask, get_bind hfound] at h
      cases howner : task.asyncJob with
      | none =>
          simp only [howner] at h
          cases h
          exact .kept (SameView.refl _ _) hadds (outcomeKept_same rfl)
      | some jobId =>
          simp only [howner] at h
          cases h
          exact hsaved jobId rfl (SameView.refl _ _)
  | qualitativeAssessment assetId =>
      simp only [hpayload, failQualitativeAssessmentTask, get_bind hfound] at h
      cases h
      exact .kept (SameView.refl _ _) hadds (outcomeKept_same rfl)
  | performanceRun runId snapshotId =>
      simp only [hpayload, failPerformanceRunTask, get_bind hfound] at h
      cases h
      refine .kept ?_ hadds (outcomeKept_same rfl)
      exact SameView.modify db.runs runId fun _ _ => rfl

theorem completeScanJobTask_runs {db db' : Database} {taskId : Id} {task : QueuedTask}
    {result : ScanResult} {now : Time} (hfound : db.tasks.find? taskId = some task)
    (hbare : result.availability = none)
    (h : completeScanJobTask db taskId result now = .ok db') : RunsChange db db' := by
  simp only [completeScanJobTask, get_bind hfound] at h
  cases howner : task.asyncJob with
  | none =>
      rw [howner] at h
      cases h
  | some jobId =>
      simp only [howner, bind_eq_ok] at h
      obtain ⟨job, hget, h⟩ := h
      have hjob := get_eq_ok.mp hget
      -- a cancelled scan is completed without a run, and so is one that did not ask for the check
      by_cases hdead : job.status = .cancelled
      · rw [if_pos hdead] at h
        cases h
        exact .kept (SameView.refl _ _) (.updateWhere db.tasks _ _) (outcomeKept_same rfl)
      · rw [if_neg hdead] at h
        simp only [bind_eq_ok] at h
        obtain ⟨⟨result', db₁⟩, hcheck, h⟩ := h
        cases h
        unfold enqueueAvailabilityCheckIfRequested at hcheck
        by_cases hflag : job.requestPayload.autoAvailabilityCheck ≠ some true
        · rw [if_pos hflag] at hcheck
          cases hcheck
          refine .kept (SameView.refl _ _) (.updateWhere db.tasks _ _) (outcomeKept_modify rfl ?_)
          intro row hrow
          rw [hjob] at hrow
          cases hrow
          left
          intro other hother
          cases hother
          exact ⟨hbare, hflag⟩
        · rw [if_neg hflag, bind_eq_ok] at hcheck
          obtain ⟨snapshot, _, hcheck⟩ := hcheck
          cases hcheck
          -- the row and the task of `enqueue_availability_check_if_requested`
          let run : PerformanceEvaluationRun :=
            { snapshot := result.snapshotId, trigger := .discovery, profile := .smoke,
              status := .pending }
          let task' : QueuedTask :=
            { asyncJob := none
              payload := .performanceRun db.runs.nextId result.snapshotId
              availableAt := some now }
          have hnextId : (db.tasks.modify taskId completeTask).nextId = db.tasks.nextId :=
            Table.nextId_modify db.tasks taskId completeTask
          refine .opened run task' (some jobId) rfl ?_ rfl ?_ ?_
          · show ((db.tasks.modify taskId completeTask).insert task').find? db.tasks.nextId = _
            rw [← hnextId]
            exact Table.find?_insert_self _ _
          · show AddsOnly db.tasks ((db.tasks.modify taskId completeTask).insert task') _
            exact .insert (.updateWhere db.tasks _ _) ⟨hnextId, rfl⟩
          · intro id job' hfound'
            change (db.jobs.modify jobId _).find? id = some job' at hfound'
            by_cases hid : id = jobId
            · subst hid
              rw [Table.find?_modify_self, hjob] at hfound'
              cases hfound'
              exact .inr ⟨rfl, _, rfl, not_ne_iff.mp hflag, rfl, rfl⟩
            · rw [Table.find?_modify_ne _ _ hid] at hfound'
              exact .inl (.inr ⟨job', hfound', rfl⟩)

theorem completeDiscoveryTask_runs {db db' : Database} {taskId discoveryId : Id}
    {task : QueuedTask} {result : DiscoveryResult} {now : Time}
    (hfound : db.tasks.find? taskId = some task)
    (h : completeDiscoveryTask db taskId discoveryId result now = .ok db') : RunsChange db db' := by
  -- the result of a discovery names no run
  have hunasked : ∀ (progress : Progress) (result : DiscoveryResult) (job : AsyncJob),
      Unasked (completeJob progress (.discovery result) now job) := by
    intro progress result job other hother
    cases hother
  simp only [completeDiscoveryTask, get_bind hfound] at h
  cases howner : task.asyncJob with
  | none =>
      simp only [howner] at h
      cases h
      exact .kept (SameView.refl _ _) (.updateWhere db.tasks _ _) (outcomeKept_same rfl)
  | some jobId =>
      simp only [howner, bind_eq_ok] at h
      obtain ⟨job, _, h⟩ := h
      by_cases hdead : job.status = .cancelled
      · rw [if_pos hdead] at h
        cases h
        exact .kept (SameView.refl _ _) (.updateWhere db.tasks _ _) (outcomeKept_same rfl)
      · rw [if_neg hdead] at h
        split at h
        · generalize hfollow : enqueueFollowUpScan _ discoveryId jobId job result now = follow at h
          obtain ⟨result', db₁⟩ := follow
          cases h
          rcases enqueueFollowUpScan_cases _ discoveryId jobId job result now with hsame | hopen
          · rw [hfollow] at hsame
            cases hsame
            exact .kept (SameView.refl _ _) (.updateWhere db.tasks _ _)
              (outcomeKept_modify rfl fun job _ => .inl (hunasked _ _ job))
          · obtain ⟨targetIds, flag, hopen⟩ := hopen
            rw [hfollow] at hopen
            cases hopen
            refine .kept (SameView.refl _ _) ?_ ?_
            · have hended : AddsOnly db.tasks (db.tasks.modify taskId completeTask)
                  (fun _ payload => payload.RunFree) := .updateWhere db.tasks _ _
              apply hended.insert
              intro _ _ heq
              cases heq
            · let payload : RequestPayload :=
                .scanJob targetIds [.network] (some { discoveryId, jobId }) flag
              let opened : Database :=
                { db with jobs := db.jobs.insert (.opened db.scanJobs.nextId payload) }
              have hopened : ∀ id job', opened.jobs.find? id = some job' →
                  OutcomeKept db id job' := outcomeKept_insert rfl rfl
              intro id job' hjob
              have hsaved := @outcomeKept_modify opened _ jobId _ rfl
                (fun job _ => .inl (hunasked _ _ job)) id job' hjob
              exact hsaved.trans hopened
        · cases h
          exact .kept (SameView.refl _ _) (.updateWhere db.tasks _ _)
            (outcomeKept_modify rfl fun job _ => .inl (hunasked _ _ job))

theorem complete_runs {db db' : Database} {taskId : Id} {result : BodyResult} {now : Time}
    (hbare : result.Bare) (h : complete db taskId result now = .ok db') : RunsChange db db' := by
  rw [complete, bind_eq_ok] at h
  obtain ⟨task, hget, h⟩ := h
  have hfound := get_eq_ok.mp hget
  cases hpayload : task.payload <;> cases result <;> simp only [hpayload] at h
  case scanJob.scanJob => exact completeScanJobTask_runs hfound hbare h
  case discovery.discovery => exact completeDiscoveryTask_runs hfound h
  case recompute.recompute request result =>
    simp only [completeRecomputeTask, get_bind hfound] at h
    cases howner : task.asyncJob with
    | none =>
        simp only [howner] at h
        cases h
        exact .kept (SameView.refl _ _) (.updateWhere db.tasks _ _) (outcomeKept_same rfl)
    | some jobId =>
        simp only [howner] at h
        cases h
        refine .kept (SameView.refl _ _) (.updateWhere db.tasks _ _) (outcomeKept_modify rfl ?_)
        intro job _
        left
        intro other hother
        cases hother
  case qualitativeAssessment.qualitativeAssessment =>
    simp only [completeJoblessTask, get_bind hfound] at h
    cases h
    exact .kept (SameView.refl _ _) (.updateWhere db.tasks _ _) (outcomeKept_same rfl)
  case performanceRun.performanceRun =>
    simp only [completeJoblessTask, get_bind hfound] at h
    cases h
    exact .kept (SameView.refl _ _) (.updateWhere db.tasks _ _) (outcomeKept_same rfl)
  all_goals cases h

/-! ## 3. The steps of the system -/

theorem cancelJob_runs (db : Database) (jobId : Id) (now : Time) :
    RunsChange db (cancelJob db jobId now).1 := by
  -- a cancellation saves the job and its resource; neither names a run
  have hsaved : ∀ (f : AsyncJob → AsyncJob) kind finishedAt,
      (∀ job, (f job).outcome = job.outcome) →
      RunsChange db (syncCancelledResource (cancelQueuedTasks (db.saveJob jobId f) jobId) jobId
        kind finishedAt) := by
    intro f kind finishedAt hf
    have hruns : (syncCancelledResource (cancelQueuedTasks (db.saveJob jobId f) jobId) jobId
        kind finishedAt).runs = db.runs := by
      unfold syncCancelledResource
      split
      · rfl
      · split <;> rfl
    have htasks : (syncCancelledResource (cancelQueuedTasks (db.saveJob jobId f) jobId) jobId
        kind finishedAt).tasks = (cancelQueuedTasks db jobId).tasks := by
      unfold syncCancelledResource
      split
      · rfl
      · split <;> rfl
    refine .kept ?_ ?_ ?_
    · rw [hruns]
      exact SameView.refl _ _
    · rw [htasks]
      exact .updateWhere db.tasks _ _
    · refine @outcomeKept_modify db _ jobId f ?_ fun job _ => .inr (hf job)
      rw [syncCancelledResource_jobs]
      rfl
  have hsame : RunsChange db db :=
    .kept (SameView.refl _ _) (.refl db.tasks) (outcomeKept_same rfl)
  unfold cancelJob
  cases hjob : db.jobs.find? jobId with
  | none => exact hsame
  | some job =>
      cases hcancel : requestCancel db jobId job now with
      | none =>
          simp only [hcancel]
          exact hsame
      | some db' =>
          simp only [hcancel]
          unfold requestCancel at hcancel
          by_cases hcancelled : job.status = .cancelled
          · rw [if_pos hcancelled] at hcancel
            cases hcancel
            exact hsaved _ _ _ fun _ => rfl
          · rw [if_neg hcancelled] at hcancel
            by_cases hterminal : job.status = .completed ∨ job.status = .failed
            · rw [if_pos hterminal] at hcancel
              cases hcancel
            · rw [if_neg hterminal] at hcancel
              by_cases hrecompute : job.kind = .recompute ∧ job.status = .running
              · rw [if_pos hrecompute] at hcancel
                cases hcancel
              · rw [if_neg hrecompute] at hcancel
                cases hcancel
                exact hsaved _ _ _ fun _ => rfl

theorem bodyWrite_runs (db : Database) (task : QueuedTask) (now : Time) (write : BodyWrite) :
    RunsChange db (bodyWrite db task now write) := by
  have hsame : ∀ db', db'.runs = db.runs → db'.tasks = db.tasks → db'.jobs = db.jobs →
      RunsChange db db' := by
    intro db' hruns htasks hjobs
    refine .kept ?_ ?_ (outcomeKept_same hjobs)
    · rw [hruns]
      exact SameView.refl _ _
    · rw [htasks]
      exact .refl db.tasks
  cases write with
  | updateProgress completed total target scanner =>
      unfold bodyWrite
      cases task.asyncJob with
      | none => exact hsame db rfl rfl rfl
      | some jobId =>
          exact .kept (SameView.refl _ _) (.refl db.tasks)
            (outcomeKept_modify rfl fun _ _ => .inr rfl)
  | saveSnapshot snapshot => exact hsame _ rfl rfl rfl
  | saveEndpoint endpoint => exact hsame _ rfl rfl rfl
  | updateRun status runner =>
      unfold bodyWrite
      cases task.payload with
      | performanceRun runId snapshotId =>
          refine .kept ?_ (.refl db.tasks) (outcomeKept_same rfl)
          exact SameView.modify db.runs runId fun _ _ => rfl
      | scanJob | discovery | recompute | qualitativeAssessment => exact hsame db rfl rfl rfl

theorem step_runs {s s' : System} {action : Action} {now : Time}
    (hbare : (FaultyAction.step (action, now)).Bare) (h : step s (action, now) = some s') :
    RunsChange s.db s'.db := by
  have hsame : RunsChange s.db s.db :=
    .kept (SameView.refl _ _) (.refl s.db.tasks) (outcomeKept_same rfl)
  -- a request that opens a job enqueues one task of another pipeline
  have hsubmitted : ∀ db' row task, row.result = none → task.payload.RunFree →
      db'.runs = s.db.runs → db'.tasks = s.db.tasks.insert task →
      db'.jobs = s.db.jobs.insert row → RunsChange s.db db' := by
    intro db' row task hrow hfree hruns htasks hjobs
    refine .kept ?_ ?_ (outcomeKept_insert hrow hjobs)
    · rw [hruns]
      exact SameView.refl _ _
    · rw [htasks]
      exact .insert (.refl s.db.tasks) hfree
  cases action with
  | createScanJob targetIds scanners =>
      cases h
      refine hsubmitted _ _ _ ?_ ?_ rfl rfl rfl
      · rfl
      · intro _ _ heq
        cases heq
  | createDiscovery request =>
      simp only [step] at h
      split at h
      · cases h
        exact hsame
      · rw [Option.bind_eq_bind, Option.bind_eq_some_iff] at h
        obtain ⟨discovery, _, h⟩ := h
        split at h
        · cases h
          exact hsame
        · cases h
          refine hsubmitted _ _ _ ?_ ?_ rfl rfl rfl
          · rfl
          · intro _ _ heq
            cases heq
  | insertDiscovery index =>
      simp only [step, Option.bind_eq_bind, Option.bind_eq_some_iff] at h
      obtain ⟨request, _, h⟩ := h
      cases h
      refine hsubmitted _ _ _ ?_ ?_ rfl rfl rfl
      · rfl
      · intro _ _ heq
        cases heq
  | createRecomputeJob request =>
      cases h
      refine hsubmitted _ _ _ ?_ ?_ rfl rfl rfl
      · rfl
      · intro _ _ heq
        cases heq
  | enqueueQualitativeAssessment assetId =>
      cases h
      refine .kept (SameView.refl _ _) ?_ (outcomeKept_same rfl)
      exact .insert (.refl s.db.tasks) fun _ _ heq => by cases heq
  | createRun snapshotId trigger profile autoStart =>
      cases h
      let run : PerformanceEvaluationRun :=
        { snapshot := snapshotId, trigger, profile, status := .pending }
      have hjobs : ∀ jobId job', s.db.jobs.find? jobId = some job' → OutcomeKept s.db jobId job' :=
        outcomeKept_same rfl
      cases autoStart with
      | false => exact .created run rfl rfl hjobs
      | true =>
          let task : QueuedTask :=
            { asyncJob := none
              payload := .performanceRun s.db.runs.nextId snapshotId
              availableAt := some now }
          refine .opened run task none rfl ?_ rfl ?_ fun jobId job' hfound =>
            .inl (hjobs jobId job' hfound)
          · exact Table.find?_insert_self s.db.tasks task
          · show AddsOnly s.db.tasks (s.db.tasks.insert task) _
            exact .insert (.refl s.db.tasks) ⟨rfl, rfl⟩
  | cancel jobId =>
      cases h
      exact cancelJob_runs s.db jobId now
  | claim worker taskId =>
      simp only [step] at h
      cases hbusy : s.busy worker with
      | some other =>
          rw [hbusy] at h
          cases h
      | none =>
          rw [hbusy] at h
          cases hclaim : claim s.db taskId now with
          | error e =>
              simp only [hclaim] at h
              cases h
              exact hsame
          | ok c =>
              have hchange := claim_runs hclaim
              simp only [hclaim] at h
              cases c <;>
              · cases h
                exact hchange
  | write worker write =>
      simp only [step, Option.bind_eq_bind, Option.bind_eq_some_iff] at h
      obtain ⟨taskId, _, task, _, h⟩ := h
      cases h
      exact bodyWrite_runs s.db task now write
  | finish worker result =>
      simp only [step, Option.bind_eq_bind, Option.bind_eq_some_iff] at h
      obtain ⟨taskId, _, h⟩ := h
      cases h
      cases hcomplete : complete s.db taskId result now with
      | error e => exact hsame
      | ok db' => exact complete_runs hbare hcomplete
  | raise worker error =>
      simp only [step, Option.bind_eq_bind, Option.bind_eq_some_iff] at h
      obtain ⟨taskId, _, h⟩ := h
      cases h
      cases hfail : fail s.db taskId error now with
      | error e => exact hsame
      | ok db' => exact fail_runs hfail

/-! ## 4. Whole runs -/

def Carries (db : Database) (taskId runId snapshotId : Id) : Prop :=
  ∃ task, db.tasks.find? taskId = some task ∧ task.payload = .performanceRun runId snapshotId

/-- No run is carried by two tasks or named by two jobs, and a run that a job names is carried. -/
structure RunsExact (db : Database) : Prop where
  carries : ∀ taskId runId snapshotId, Carries db taskId runId snapshotId →
    ∃ run, db.runs.find? runId = some run ∧ run.snapshot = snapshotId
  carrier_unique : ∀ taskId taskId' runId snapshotId snapshotId',
    Carries db taskId runId snapshotId → Carries db taskId' runId snapshotId' → taskId = taskId'
  named : ∀ jobId job, db.jobs.find? jobId = some job → Unasked job ∨
    ∃ runId run, db.runs.find? runId = some run ∧ Names job runId run.request
  carried : ∀ jobId job runId request, db.jobs.find? jobId = some job →
    Names job runId request → ∃ taskId, Carries db taskId runId request.1
  namer_unique : ∀ jobId jobId' job job' runId request request',
    db.jobs.find? jobId = some job → db.jobs.find? jobId' = some job' →
    Names job runId request → Names job' runId request' → jobId = jobId'

theorem Names.of_outcome {job job' : AsyncJob} {runId : Id} {request : Id × RunTrigger × RunProfile}
    (h : Names job runId request) (hsame : job'.outcome = job.outcome) :
    Names job' runId request := by
  have hpayload : job'.requestPayload = job.requestPayload := congrArg Prod.fst hsame
  have hresult : job'.result = job.result := congrArg Prod.snd hsame
  obtain ⟨result, hfound, hasked, hnames⟩ := h
  exact ⟨result, hresult ▸ hfound, hpayload ▸ hasked, hnames⟩

theorem Names.not_unasked {job : AsyncJob} {runId : Id} {request : Id × RunTrigger × RunProfile}
    (h : Names job runId request) : ¬ Unasked job := by
  obtain ⟨result, hresult, hasked, _⟩ := h
  intro hunasked
  exact (hunasked result hresult).2 hasked

/-- A job that names a run after it kept its outcome named it before. -/
theorem OutcomeKept.names {db : Database} {jobId runId : Id} {job' : AsyncJob}
    {request : Id × RunTrigger × RunProfile} (h : OutcomeKept db jobId job')
    (hnames : Names job' runId request) :
    ∃ job, db.jobs.find? jobId = some job ∧ Names job runId request := by
  rcases h with hunasked | ⟨job, hjob, hsame⟩
  · exact absurd hunasked hnames.not_unasked
  · exact ⟨job, hjob, hnames.of_outcome hsame.symm⟩

theorem RunsExact.outcomeKept_named {db : Database} (hdb : RunsExact db) {jobId : Id}
    {job' : AsyncJob} (h : OutcomeKept db jobId job') : Unasked job' ∨
      ∃ runId run, db.runs.find? runId = some run ∧ Names job' runId run.request := by
  rcases h with hunasked | ⟨job, hjob, hsame⟩
  · exact .inl hunasked
  · rcases hdb.named jobId job hjob with hunasked | ⟨runId, run, hrun, hnames⟩
    · exact .inl (hunasked.of_outcome hsame)
    · exact .inr ⟨runId, run, hrun, hnames.of_outcome hsame⟩

theorem RunsExact.lt_nextId {db : Database} (hdb : RunsExact db) {jobId runId : Id} {job : AsyncJob}
    {request : Id × RunTrigger × RunProfile} (hjob : db.jobs.find? jobId = some job)
    (hnames : Names job runId request) : runId < db.runs.nextId := by
  rcases hdb.named jobId job hjob with hunasked | ⟨other, run, hrun, hother⟩
  · exact absurd hunasked hnames.not_unasked
  · obtain ⟨result, hresult, _, havailability, _⟩ := hnames
    obtain ⟨result', hresult', _, havailability', _⟩ := hother
    rw [hresult] at hresult'
    cases hresult'
    rw [havailability] at havailability'
    cases havailability'
    exact Table.lt_nextId hrun

/-- The payload of a row that was there is kept, and a new row is one that the step adds. -/
theorem TasksLater.payload_cases {now : Time} {t t' : Table QueuedTask} (h : TasksLater now t t')
    {P : Id → TaskPayload → Prop} (hadds : AddsOnly t t' P) {taskId : Id} {task' : QueuedTask}
    (hfound : t'.find? taskId = some task') :
    (∃ task, t.find? taskId = some task ∧ task.payload = task'.payload) ∨
      P taskId task'.payload := by
  cases hbefore : t.find? taskId with
  | none => exact .inr (hadds taskId task' hfound hbefore)
  | some task =>
      obtain ⟨later, hlater, hpayload, _⟩ := h.old taskId task hbefore
      rw [hfound] at hlater
      cases hlater
      exact .inl ⟨task, rfl, hpayload.symm⟩

section

variable {now : Time} {db db' : Database}

theorem Carries.later (hlater : TasksLater now db.tasks db'.tasks) {taskId runId snapshotId : Id}
    (h : Carries db taskId runId snapshotId) : Carries db' taskId runId snapshotId := by
  obtain ⟨task, hfound, hpayload⟩ := h
  obtain ⟨task', hfound', hsame, _⟩ := hlater.old taskId task hfound
  exact ⟨task', hfound', hsame.trans hpayload⟩

theorem RunsChange.run_kept (h : RunsChange db db') {runId : Id} {run : PerformanceEvaluationRun}
    (hrun : db.runs.find? runId = some run) :
    ∃ run', db'.runs.find? runId = some run' ∧ run'.request = run.request := by
  cases h with
  | kept hruns => exact hruns.of_find? hrun
  | opened new _ _ hruns | created new hruns =>
      rw [hruns]
      exact ⟨run, Table.find?_insert_of_find? new hrun, rfl⟩

/-- A task that carries a run did so before, or is the new task of the new run. -/
theorem RunsChange.carrier (h : RunsChange db db') (hlater : TasksLater now db.tasks db'.tasks)
    {taskId runId snapshotId : Id} (hcarries : Carries db' taskId runId snapshotId) :
    Carries db taskId runId snapshotId ∨
      runId = db.runs.nextId ∧ taskId = db.tasks.nextId ∧
        ∃ run, db'.runs.find? runId = some run ∧ run.snapshot = snapshotId := by
  obtain ⟨task', hfound, hpayload⟩ := hcarries
  cases h with
  | kept hruns hadds =>
      rcases hlater.payload_cases hadds hfound with ⟨task, hbefore, hsame⟩ | hfree
      · exact .inl ⟨task, hbefore, hsame.trans hpayload⟩
      · exact absurd hpayload (hfree runId snapshotId)
  | opened run _ _ hruns _ _ hadds =>
      rcases hlater.payload_cases hadds hfound with ⟨task, hbefore, hsame⟩ | ⟨hnew, hadded⟩
      · exact .inl ⟨task, hbefore, hsame.trans hpayload⟩
      · rw [hpayload] at hadded
        cases hadded
        refine .inr ⟨rfl, hnew, run, ?_, rfl⟩
        rw [hruns]
        exact Table.find?_insert_self db.runs run
  | created _ _ htasks =>
      rw [htasks] at hfound
      exact .inl ⟨task', hfound, hpayload⟩

/-- A job that names a run did so before, or is the only one that names the new run. -/
theorem RunsChange.namer (h : RunsChange db db') (hdb : RunsExact db) {jobId : Id}
    {job' : AsyncJob} (hjob : db'.jobs.find? jobId = some job') :
    OutcomeKept db jobId job' ∨ ∃ run, db'.runs.find? db.runs.nextId = some run ∧
      Names job' db.runs.nextId run.request ∧
      (∃ taskId, Carries db' taskId db.runs.nextId run.snapshot) ∧
      ∀ otherId other request, db'.jobs.find? otherId = some other →
        Names other db.runs.nextId request → otherId = jobId := by
  cases h with
  | kept _ _ hjobs => exact .inl (hjobs jobId job' hjob)
  | created _ _ _ hjobs => exact .inl (hjobs jobId job' hjob)
  | opened run task owner hruns htask hpayload _ hjobs =>
      refine (hjobs jobId job' hjob).imp_right fun ⟨howner, hnames⟩ => ?_
      refine ⟨run, ?_, hnames, ⟨_, task, htask, hpayload⟩, ?_⟩
      · rw [hruns]
        exact Table.find?_insert_self db.runs run
      · intro otherId other request hother hotherNames
        rcases hjobs otherId other hother with hkept | ⟨howner', _⟩
        · -- an old namer names an old run
          obtain ⟨old, hold, holdNames⟩ := hkept.names hotherNames
          exact absurd (hdb.lt_nextId hold holdNames) (Nat.lt_irrefl _)
        · rw [howner] at howner'
          exact (Option.some.inj howner').symm

theorem RunsChange.carrier_unique (h : RunsChange db db')
    (hlater : TasksLater now db.tasks db'.tasks) (hdb : RunsExact db)
    {taskId taskId' runId snapshotId snapshotId' : Id}
    (hfirst : Carries db' taskId runId snapshotId)
    (hsecond : Carries db' taskId' runId snapshotId') : taskId = taskId' := by
  have hlt : ∀ {taskId snapshotId}, Carries db taskId runId snapshotId →
      runId < db.runs.nextId := by
    intro taskId snapshotId hcarries
    obtain ⟨run, hrun, _⟩ := hdb.carries taskId runId snapshotId hcarries
    exact Table.lt_nextId hrun
  rcases h.carrier hlater hfirst with hold | ⟨hnew, htask, _⟩
  · rcases h.carrier hlater hsecond with hold' | ⟨hnew', _⟩
    · exact hdb.carrier_unique _ _ _ _ _ hold hold'
    · exact absurd hnew' (Nat.ne_of_lt (hlt hold))
  · rcases h.carrier hlater hsecond with hold' | ⟨_, htask', _⟩
    · exact absurd hnew (Nat.ne_of_lt (hlt hold'))
    · rw [htask, htask']

/-- Two jobs with results that name one run are one job. -/
theorem Names.runId_eq {job : AsyncJob} {runId runId' : Id}
    {request request' : Id × RunTrigger × RunProfile} (h : Names job runId request)
    (h' : Names job runId' request') : runId = runId' ∧ request = request' := by
  obtain ⟨result, hresult, _, havailability, hrequest⟩ := h
  obtain ⟨result', hresult', _, havailability', hrequest'⟩ := h'
  rw [hresult] at hresult'
  cases hresult'
  rw [havailability] at havailability'
  cases havailability'
  exact ⟨rfl, hrequest.trans hrequest'.symm⟩

theorem RunsChange.runsExact (h : RunsChange db db') (hlater : TasksLater now db.tasks db'.tasks)
    (hdb : RunsExact db) : RunsExact db' where
  carries := by
    intro taskId runId snapshotId hcarries
    rcases h.carrier hlater hcarries with hold | ⟨_, _, hrun⟩
    · obtain ⟨run, hrun, hsnapshot⟩ := hdb.carries taskId runId snapshotId hold
      obtain ⟨run', hrun', hrequest⟩ := h.run_kept hrun
      have hkept : run'.snapshot = run.snapshot := congrArg Prod.fst hrequest
      exact ⟨run', hrun', hkept.trans hsnapshot⟩
    · exact hrun
  carrier_unique := fun _ _ _ _ _ => h.carrier_unique hlater hdb
  named := by
    intro jobId job' hjob
    rcases h.namer hdb hjob with hkept | ⟨run, hrun, hnames, _⟩
    · rcases hdb.outcomeKept_named hkept with hunasked | ⟨runId, run, hrun, hnames⟩
      · exact .inl hunasked
      · obtain ⟨run', hrun', hrequest⟩ := h.run_kept hrun
        exact .inr ⟨runId, run', hrun', hrequest ▸ hnames⟩
    · exact .inr ⟨_, run, hrun, hnames⟩
  carried := by
    intro jobId job' runId request hjob hnames
    rcases h.namer hdb hjob with hkept | ⟨run, _, hnew, ⟨taskId, hcarries⟩, _⟩
    · obtain ⟨job, hold, holdNames⟩ := hkept.names hnames
      obtain ⟨taskId, hcarries⟩ := hdb.carried jobId job runId request hold holdNames
      exact ⟨taskId, hcarries.later hlater⟩
    · obtain ⟨rfl, rfl⟩ := hnew.runId_eq hnames
      exact ⟨taskId, hcarries⟩
  namer_unique := by
    intro jobId jobId' job job' runId request request' hjob hjob' hnames hnames'
    rcases h.namer hdb hjob with hkept | ⟨_, _, hnew, _, honly⟩
    · rcases h.namer hdb hjob' with hkept' | ⟨_, _, hnew', _, honly'⟩
      · obtain ⟨old, hold, holdNames⟩ := hkept.names hnames
        obtain ⟨old', hold', holdNames'⟩ := hkept'.names hnames'
        exact hdb.namer_unique jobId jobId' old old' runId request request' hold hold' holdNames
          holdNames'
      · obtain ⟨rfl, rfl⟩ := hnew'.runId_eq hnames'
        exact honly' jobId job request hjob hnames
    · obtain ⟨rfl, rfl⟩ := hnew.runId_eq hnames
      exact (honly jobId' job' request' hjob' hnames').symm

theorem RunsChange.uncarried (h : RunsChange db db') (hlater : TasksLater now db.tasks db'.tasks)
    {runId : Id} {run : PerformanceEvaluationRun} (hrun : db.runs.find? runId = some run)
    (hnone : ∀ taskId snapshotId, ¬ Carries db taskId runId snapshotId) (taskId snapshotId : Id) :
    ¬ Carries db' taskId runId snapshotId := by
  intro hcarries
  rcases h.carrier hlater hcarries with hold | ⟨hnew, _⟩
  · exact hnone taskId snapshotId hold
  · exact absurd hnew (Nat.ne_of_lt (Table.lt_nextId hrun))

end

theorem emptySystem_runsExact : RunsExact emptySystem.db where
  carries := by
    rintro _ _ _ ⟨_, htask, _⟩
    cases htask
  carrier_unique := by
    rintro _ _ _ _ _ ⟨_, htask, _⟩
    cases htask
  named _ _ hjob := by cases hjob
  carried _ _ _ _ hjob := by cases hjob
  namer_unique _ _ _ _ _ _ _ hjob := by cases hjob

theorem faultyStep_runs {s t : System} {a : FaultyAction} (hbare : a.Bare)
    (hstep : faultyStep s a = some t) :
    ∃ now, RunsChange s.db t.db ∧ TasksLater now s.db.tasks t.db.tasks := by
  cases a with
  | fault worker =>
      cases hstep
      exact ⟨0, .kept (SameView.refl _ _) (.refl s.db.tasks) (outcomeKept_same rfl),
        .refl 0 s.db.tasks⟩
  | step action =>
      obtain ⟨action, now⟩ := action
      exact ⟨now, step_runs hbare hstep, step_later hstep⟩

theorem run_runsExact {s : System} {as : List FaultyAction}
    (hrun : Run faultyStep (fun _ a => a.Bare) emptySystem as s) : RunsExact s.db := by
  apply hrun.invariant _ emptySystem_runsExact
  intro s a t hs hbare hstep
  obtain ⟨now, hchange, hlater⟩ := faultyStep_runs hbare hstep
  exact hchange.runsExact hlater hs

/-- A job that names a run asked for it, and names it with the snapshot it is to measure. -/
theorem RunsExact.names {db : Database} (hdb : RunsExact db) {jobId : Id} {job : AsyncJob}
    {availability : Availability} (hjob : db.jobs.find? jobId = some job)
    (hnames : job.availability = some availability) :
    Names job availability.runId (availability.snapshotId, .discovery, .smoke) ∧
      ∃ run, db.runs.find? availability.runId = some run ∧
        run.request = (availability.snapshotId, .discovery, .smoke) := by
  obtain ⟨result, hresult, havailability⟩ := AsyncJob.availability_eq_some.mp hnames
  rcases hdb.named jobId job hjob with hunasked | ⟨runId, run, hrun, hspec⟩
  · rw [(hunasked result hresult).1] at havailability
    cases havailability
  · obtain ⟨other, hother, hasked, hnamed, hrequest⟩ := hspec
    rw [hresult] at hother
    cases hother
    rw [havailability] at hnamed
    cases hnamed
    exact ⟨⟨result, hresult, hasked, havailability, rfl⟩, run, hrun, hrequest⟩

/-- A run that is created with `auto_start` stays carried, and one without it is never carried. -/
theorem createdRun_carried {s t : System} {more : List FaultyAction} {snapshotId : Id}
    {trigger : RunTrigger} {profile : RunProfile} {autoStart : Bool} {now : Time}
    (hs : RunsExact s.db) (hrun : Run faultyStep (fun _ a => a.Bare) s
      (.step (.createRun snapshotId trigger profile autoStart, now) :: more) t) :
    if autoStart then ∃ taskId, Carries t.db taskId s.db.runs.nextId snapshotId
    else ∀ taskId snapshot, ¬ Carries t.db taskId s.db.runs.nextId snapshot := by
  have hfresh : ∀ taskId snapshot, ¬ Carries s.db taskId s.db.runs.nextId snapshot := by
    intro taskId snapshot hcarries
    obtain ⟨run, hfound, _⟩ := hs.carries _ _ _ hcarries
    exact absurd (Table.lt_nextId hfound) (Nat.lt_irrefl _)
  cases hrun with
  | cons _ hstep hmore =>
      cases hstep
      cases autoStart with
      | true =>
          apply hmore.invariant _ ⟨_, _, Table.find?_insert_self s.db.tasks _, rfl⟩
          intro u a v hcarried hbare hnext
          obtain ⟨taskId, hcarries⟩ := hcarried
          obtain ⟨_, _, hlater⟩ := faultyStep_runs hbare hnext
          exact ⟨taskId, hcarries.later hlater⟩
      | false =>
          have hkept : (∃ run, t.db.runs.find? s.db.runs.nextId = some run) ∧
              ∀ taskId snapshot, ¬ Carries t.db taskId s.db.runs.nextId snapshot := by
            apply hmore.invariant _ ⟨⟨_, Table.find?_insert_self s.db.runs _⟩, hfresh⟩
            intro u a v hu hbare hnext
            obtain ⟨⟨run, hfound⟩, hnone⟩ := hu
            obtain ⟨_, hchange, hlater⟩ := faultyStep_runs hbare hnext
            obtain ⟨run', hfound', _⟩ := hchange.run_kept hfound
            exact ⟨⟨run', hfound'⟩, hchange.uncarried hlater hfound hnone⟩
          exact hkept.2

/-- The follow-up scan of the discovery runs as well, and asks for a check of its snapshot. -/
def scanWithRun : List FaultyAction :=
  discoveryWithScan ++ [.step (.claim 1 1, 5),
    .step (.write 1 (.saveSnapshot ⟨0, 1, 1, [], [], []⟩), 6),
    .step (.finish 1 (.scanJob ⟨0, 0, 1, 1, none⟩), 7)]

end Jobs

end CryptoScanner
