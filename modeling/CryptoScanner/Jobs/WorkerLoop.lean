import Mathlib.Data.List.MinMax
import CryptoScanner.Jobs.Changes
import CryptoScanner.Library.Isolation

/-!
# The worker's loop over the five queues

`process_queued_jobs` asks one processor after the other for its next task.  A processor selects a
task, claims it, runs its body and completes or fails it; after failing it, it raises the body's
exception again.  What the rest of the system does meanwhile, and what the body does and returns, are
parameters of a call.
-/

namespace CryptoScanner

inductive TaskName
  | scanJob
  | discovery
  | recompute
  | qualitativeAssessment
  | performanceRun
  deriving DecidableEq, Repr

def TaskPayload.taskName : TaskPayload → TaskName
  | .scanJob _ _ _ => .scanJob
  | .discovery _ => .discovery
  | .recompute _ => .recompute
  | .qualitativeAssessment _ => .qualitativeAssessment
  | .performanceRun _ _ => .performanceRun

namespace Jobs

open Library Database

/-! ## 1. Selecting a task -/

/-- A task that is waiting and due; a row without `available_at` is never due. -/
def isDue (name : TaskName) (now : Time) (task : QueuedTask) : Bool :=
  task.payload.taskName == name && task.status == .queued && task.availableAt.any (· ≤ now)

def availableAt (db : Database) (taskId : Id) : Time :=
  ((db.tasks.find? taskId).bind (·.availableAt)).getD 0

/-- `order_by("available_at", "id").first()` over the due tasks. -/
def nextTask (name : TaskName) (db : Database) (now : Time) : Option Id :=
  (db.tasks.ids (isDue name now)).argmin (availableAt db)

/-! ## 2. One processor -/

inductive Raised
  /-- Raised by a claiming, completing or failing transaction, which is rolled back. -/
  | transaction (error : DbError)
  /-- The exception of a body, raised again after its task has been failed. -/
  | body (taskId : Id) (error : String)
  deriving DecidableEq, Repr

/-- What a call of a processor does not decide itself: the times it reads, what the other workers and
requests commit before the selection and between it and the claim, and the body, with all that is
committed while it runs. -/
structure Surroundings where
  selectedAt : Time
  claimedAt : Time
  endedAt : Time
  before : Database → Database
  meanwhile : Database → Database
  body : Id → Database → Database × Except String BodyResult

/-- `process_scan_job_task` and its four siblings. -/
def processTask (around : Surroundings) (db : Database) (taskId : Id) : Database × Option Raised :=
  match claim db taskId around.claimedAt with
  | .error error => (db, some (.transaction error))
  | .ok (.skipped db) => (db, none)
  | .ok (.started db) =>
      match around.body taskId db with
      | (db, .error error) =>
          match fail db taskId error around.endedAt with
          | .error error => (db, some (.transaction error))
          | .ok db => (db, some (.body taskId error))
      | (db, .ok result) =>
          match complete db taskId result around.endedAt with
          | .error error => (db, some (.transaction error))
          | .ok db => (db, none)

/-- `process_next_scan_job_task` and its four siblings. -/
def processNext (call : TaskName × Surroundings) (db : Database) : Database × Option Raised :=
  let db := call.2.before db
  match nextTask call.1 db call.2.selectedAt with
  | none => (db, none)
  | some taskId => processTask call.2 (call.2.meanwhile db) taskId

/-! ## 3. The loop -/

def processors : List TaskName :=
  [.scanJob, .discovery, .recompute, .qualitativeAssessment, .performanceRun]

abbrev Pass := TaskName → Surroundings

def Pass.calls (pass : Pass) : List (TaskName × Surroundings) :=
  processors.map fun name => (name, pass name)

/-- The command for the passes it has time for: one without `--loop`. -/
def handle (passes : List Pass) (db : Database) : Database × Option Raised :=
  runUnguarded processNext (passes.flatMap Pass.calls) db

/-! ## 4. What a failure leaves -/

/-- The failing transactions save the error on the one task and on no other. -/
theorem fail_tasks {db db' : Database} {taskId : Id} {error : String} {now : Time}
    (h : fail db taskId error now = .ok db') :
    db'.tasks = db.tasks.modify taskId (failTask error) := by
  unfold fail at h
  rw [bind_eq_ok] at h
  obtain ⟨task, hget, h⟩ := h
  have hfound := get_eq_ok.mp hget
  cases hpayload : task.payload with
  | scanJob scanJobId targetIds scanners =>
      simp only [hpayload, failScanJobTask, get_bind hfound] at h
      cases hjobId : task.asyncJob with
      | none =>
          rw [hjobId] at h
          cases h
      | some jobId =>
          simp only [hjobId] at h
          cases h
          rfl
  | discovery discoveryId =>
      simp only [hpayload, failDiscoveryTask, get_bind hfound] at h
      split at h <;> cases h <;> rfl
  | recompute request =>
      simp only [hpayload, failRecomputeTask, get_bind hfound] at h
      split at h <;> cases h <;> rfl
  | qualitativeAssessment assetId =>
      simp only [hpayload, failQualitativeAssessmentTask, get_bind hfound] at h
      cases h
      rfl
  | performanceRun runId snapshotId =>
      simp only [hpayload, failPerformanceRunTask, get_bind hfound] at h
      cases h
      rfl

theorem nextTask_congr {name : TaskName} {db db' : Database} (now : Time)
    (h : db'.tasks = db.tasks) : nextTask name db' now = nextTask name db now := by
  unfold nextTask availableAt
  rw [h]

/-- A save on a task of one queue that leaves its payload and its time alone is not seen by the
processor of another queue. -/
theorem nextTask_saveTask {name : TaskName} {db : Database} {taskId : Id} {task : QueuedTask}
    {f : QueuedTask → QueuedTask} (now : Time) (hfound : db.tasks.find? taskId = some task)
    (hname : task.payload.taskName ≠ name) (hpayload : ∀ t, (f t).payload = t.payload)
    (havailable : ∀ t, (f t).availableAt = t.availableAt) :
    nextTask name (db.saveTask taskId f) now = nextTask name db now := by
  have hdue : ∀ t : QueuedTask, t.payload.taskName ≠ name → isDue name now t = false := by
    intro t ht
    rw [isDue, beq_eq_false_iff_ne.mpr ht, Bool.false_and, Bool.false_and]
  have hids : (db.tasks.modify taskId f).ids (isDue name now) =
      db.tasks.ids (isDue name now) := by
    unfold Table.ids
    rw [Table.nextId_modify]
    apply List.filter_congr
    intro k hk
    rw [Table.find?_modify]
    by_cases hself : k = taskId
    · rw [if_pos hself, hself, hfound, Option.map_some, Option.any_some, Option.any_some,
        hdue task hname, hdue (f task) (by rwa [hpayload])]
    · rw [if_neg hself]
  have htimes : availableAt (db.saveTask taskId f) = availableAt db := by
    funext k
    unfold availableAt
    rw [saveTask_tasks, Table.find?_modify]
    by_cases hself : k = taskId
    · rw [if_pos hself, hself, hfound, Option.map_some, Option.bind_some, Option.bind_some,
        havailable]
    · rw [if_neg hself]
  rw [nextTask, nextTask, htimes, saveTask_tasks, hids]

/-- To the processors of the other queues a failed task is one that is not queued. -/
theorem nextTask_fail {name : TaskName} {db db' : Database} {taskId : Id} {task : QueuedTask}
    {error : String} {failedAt : Time} (now : Time)
    (h : fail db taskId error failedAt = .ok db') (hfound : db.tasks.find? taskId = some task)
    (hname : task.payload.taskName ≠ name) :
    nextTask name db' now = nextTask name (db.saveTask taskId dropTask) now := by
  have hfailed : nextTask name db' now = nextTask name (db.saveTask taskId (failTask error)) now :=
    nextTask_congr now (fail_tasks h)
  have hdropped : nextTask name (db.saveTask taskId dropTask) now = nextTask name db now :=
    nextTask_saveTask now hfound hname (fun _ => rfl) fun _ => rfl
  rw [hfailed, hdropped]
  exact nextTask_saveTask now hfound hname (fun _ => rfl) fun _ => rfl

/-! ## 5. When the transactions commit -/

def ClaimRows (db : Database) (task : QueuedTask) : Prop :=
  let jobFound := ∀ jobId, task.asyncJob = some jobId → (db.jobs.find? jobId).isSome
  match task.payload with
  | .scanJob _ _ _ =>
      (∃ jobId, task.asyncJob = some jobId ∧ (db.scanJobs.first? (·.asyncJob == jobId)).isSome) ∧
        jobFound
  | .discovery discoveryId => (db.discoveries.find? discoveryId).isSome ∧ jobFound
  | .recompute _ => jobFound
  | .qualitativeAssessment _ => True
  | .performanceRun runId _ => (db.runs.find? runId).isSome

/-- The task has not been taken by another worker, and its rows are there. -/
def Claimable (db : Database) (taskId : Id) : Prop :=
  ∃ task, db.tasks.find? taskId = some task ∧
    (task.status = .cancelled ∨ task.status = .queued ∧ ClaimRows db task)

def CompleteRows (db : Database) (task : QueuedTask) (result : BodyResult) : Prop :=
  match task.payload, result with
  | .scanJob _ _ _, .scanJob result =>
      ∃ jobId job, task.asyncJob = some jobId ∧ db.jobs.find? jobId = some job ∧
        (job.status = .cancelled ∨ job.requestPayload.autoAvailabilityCheck ≠ some true ∨
          (db.snapshots.find? result.snapshotId).isSome)
  | .discovery _, .discovery _ =>
      ∀ jobId, task.asyncJob = some jobId → (db.jobs.find? jobId).isSome
  | .recompute _, .recompute _ => True
  | .qualitativeAssessment _, .qualitativeAssessment => True
  | .performanceRun _ _, .performanceRun => True
  | _, _ => False

def Completable (db : Database) (taskId : Id) (result : BodyResult) : Prop :=
  ∃ task, db.tasks.find? taskId = some task ∧ CompleteRows db task result

theorem claimTask_isOk_iff {prepare : Database → QueuedTask → Except DbError Prepared}
    {db : Database} {taskId : Id} {now : Time} :
    (∃ c, claimTask prepare db taskId now = .ok c) ↔
      ∃ task, db.tasks.find? taskId = some task ∧
        (task.status = .cancelled ∨ task.status = .queued ∧
          ∃ prepared, prepare db task = .ok prepared ∧
            ∀ jobId progress, prepared.job = some (jobId, progress) →
              (db.jobs.find? jobId).isSome) := by
  constructor
  · intro ⟨c, h⟩
    obtain ⟨task, hfound, hcase⟩ := claimTask_cases h
    refine ⟨task, hfound, ?_⟩
    rcases hcase with ⟨hcancelled, -⟩ | ⟨hqueued, prepared, hprepared, hstart⟩
    · exact .inl hcancelled
    · refine .inr ⟨hqueued, prepared, hprepared, ?_⟩
      intro jobId progress hjob
      rcases hstart with ⟨hnone, -⟩ | ⟨jobId', progress', job, hsome, hfoundJob, -⟩
      · rw [hnone] at hjob
        cases hjob
      · rw [hsome] at hjob
        cases hjob
        rw [hfoundJob, Option.isSome_some]
  · intro ⟨task, hfound, hcase⟩
    unfold claimTask
    rw [get_bind hfound]
    rcases hcase with hcancelled | ⟨hqueued, prepared, hprepared, hjobs⟩
    · rw [if_pos hcancelled]
      exact ⟨_, rfl⟩
    · rw [if_neg (by rw [hqueued]; decide), if_neg (not_not_intro hqueued), hprepared]
      dsimp only [bind, Except.bind]
      cases hjob : prepared.job with
      | none => exact ⟨_, rfl⟩
      | some pair =>
          obtain ⟨job, hfoundJob⟩ := Option.isSome_iff_exists.mp (hjobs pair.1 pair.2 hjob)
          show ∃ c, (Database.get db.jobs pair.1 >>= _) = Except.ok c
          rw [get_bind hfoundJob]
          by_cases hdead : job.status = .cancelled
          · rw [if_pos hdead]
            exact ⟨_, rfl⟩
          · rw [if_neg hdead]
            exact ⟨_, rfl⟩

/-- The rows that the preparation finds and the job that it names are those of `ClaimRows`. -/
def ReadsClaimRows (prepare : Database → QueuedTask → Except DbError Prepared) (db : Database)
    (task : QueuedTask) : Prop :=
  (∃ prepared, prepare db task = .ok prepared ∧ ∀ jobId progress,
    prepared.job = some (jobId, progress) → (db.jobs.find? jobId).isSome) ↔ ClaimRows db task

theorem claimTask_claimable {prepare : Database → QueuedTask → Except DbError Prepared}
    {db : Database} {taskId : Id} {now : Time} {task : QueuedTask}
    (hfound : db.tasks.find? taskId = some task) (hrows : ReadsClaimRows prepare db task) :
    (∃ c, claimTask prepare db taskId now = .ok c) ↔ Claimable db taskId := by
  unfold ReadsClaimRows at hrows
  rw [claimTask_isOk_iff, Claimable, hfound]
  apply exists_congr
  intro t
  apply and_congr_right
  intro ht
  cases ht
  rw [hrows]

/-- A preparation that names the task's own job, if it has one. -/
theorem readsJob_iff (db : Database) (task : QueuedTask) (progress : Progress) :
    (∀ jobId progress', task.asyncJob.map (fun jobId => (jobId, progress)) =
        some (jobId, progress') → (db.jobs.find? jobId).isSome) ↔
      ∀ jobId, task.asyncJob = some jobId → (db.jobs.find? jobId).isSome := by
  cases task.asyncJob with
  | none =>
      constructor
      · intro _ jobId h
        cases h
      · intro _ jobId progress' h
        cases h
  | some owner =>
      constructor
      · intro h jobId howner
        cases howner
        exact h owner progress rfl
      · intro h jobId progress' howner
        cases howner
        exact h owner rfl

theorem scanJobOf_isOk_iff {db : Database} {jobId : Id} :
    (∃ scanJob, scanJobOf db jobId = .ok scanJob) ↔
      (db.scanJobs.first? (·.asyncJob == jobId)).isSome := by
  unfold scanJobOf
  cases hfirst : db.scanJobs.first? (·.asyncJob == jobId) with
  | none =>
      apply iff_of_false
      · intro ⟨scanJob, h⟩
        cases h
      · exact Bool.false_ne_true
  | some scanJobId =>
      obtain ⟨scanJob, hrow, -⟩ := Table.first?_eq_some hfirst
      exact iff_of_true ⟨scanJob, get_eq_ok.mpr hrow⟩ rfl

theorem claim_isOk_iff {db : Database} {taskId : Id} {now : Time} :
    (∃ c, claim db taskId now = .ok c) ↔ Claimable db taskId := by
  cases hfound : db.tasks.find? taskId with
  | none =>
      apply iff_of_false
      · intro ⟨c, h⟩
        rw [claim, bind_eq_ok] at h
        obtain ⟨task, hget, -⟩ := h
        rw [get_eq_ok, hfound] at hget
        cases hget
      · intro ⟨task, hrow, _⟩
        rw [hfound] at hrow
        cases hrow
  | some task =>
      rw [claim, get_bind hfound]
      -- every kind reads its own row and then the job; the kinds differ in which rows these are
      cases hpayload : task.payload with
      | scanJob scanJobId targetIds scanners =>
          apply claimTask_claimable hfound
          simp only [ReadsClaimRows, ClaimRows, hpayload]
          cases howner : task.asyncJob with
          | none =>
              apply iff_of_false
              · intro ⟨prepared, h, _⟩
                cases h
              · intro ⟨⟨jobId, h, _⟩, _⟩
                cases h
          | some owner =>
              simp only [bind_eq_ok]
              constructor
              · intro ⟨prepared, ⟨scanJob, hscan, hprepared⟩, hjobs⟩
                cases hprepared
                refine ⟨⟨owner, rfl, scanJobOf_isOk_iff.mp ⟨scanJob, hscan⟩⟩, ?_⟩
                intro jobId hjobId
                cases hjobId
                exact hjobs owner _ rfl
              · intro ⟨⟨jobId, hjobId, hscan⟩, hjobs⟩
                cases hjobId
                obtain ⟨scanJob, hscan⟩ := scanJobOf_isOk_iff.mpr hscan
                refine ⟨_, ⟨scanJob, hscan, rfl⟩, ?_⟩
                intro jobId progress hpair
                cases hpair
                exact hjobs owner rfl
      | discovery discoveryId =>
          apply claimTask_claimable hfound
          simp only [ReadsClaimRows, ClaimRows, hpayload, bind_eq_ok]
          constructor
          · intro ⟨prepared, ⟨discovery, hget, hprepared⟩, hjobs⟩
            cases hprepared
            exact ⟨Option.isSome_iff_exists.mpr ⟨discovery, get_eq_ok.mp hget⟩,
              (readsJob_iff db task _).mp hjobs⟩
          · intro ⟨hdiscovery, hjobs⟩
            obtain ⟨discovery, hget⟩ := Option.isSome_iff_exists.mp hdiscovery
            exact ⟨_, ⟨discovery, get_eq_ok.mpr hget, rfl⟩, (readsJob_iff db task _).mpr hjobs⟩
      | recompute request =>
          apply claimTask_claimable hfound
          simp only [ReadsClaimRows, ClaimRows, hpayload]
          constructor
          · intro ⟨prepared, hprepared, hjobs⟩
            cases hprepared
            exact (readsJob_iff db task _).mp hjobs
          · intro hjobs
            exact ⟨_, rfl, (readsJob_iff db task _).mpr hjobs⟩
      | qualitativeAssessment assetId =>
          apply claimTask_claimable hfound
          simp only [ReadsClaimRows, ClaimRows, hpayload, iff_true]
          -- an assessment has no row to read and no job to start
          refine ⟨_, rfl, ?_⟩
          intro jobId progress h
          cases h
      | performanceRun runId snapshotId =>
          apply claimTask_claimable hfound
          simp only [ReadsClaimRows, ClaimRows, hpayload, bind_eq_ok]
          constructor
          · intro ⟨prepared, ⟨run, hget, hprepared⟩, _⟩
            exact Option.isSome_iff_exists.mpr ⟨run, get_eq_ok.mp hget⟩
          · intro hrun
            obtain ⟨run, hget⟩ := Option.isSome_iff_exists.mp hrun
            refine ⟨_, ⟨run, get_eq_ok.mpr hget, rfl⟩, ?_⟩
            intro jobId progress h
            cases h

theorem enqueueAvailabilityCheckIfRequested_isOk_iff {db : Database} {asyncJob : AsyncJob}
    {result : ScanResult} {now : Time} :
    (∃ r, enqueueAvailabilityCheckIfRequested db asyncJob result now = .ok r) ↔
      asyncJob.requestPayload.autoAvailabilityCheck ≠ some true ∨
        (db.snapshots.find? result.snapshotId).isSome := by
  unfold enqueueAvailabilityCheckIfRequested
  by_cases hrequested : asyncJob.requestPayload.autoAvailabilityCheck = some true
  · rw [if_neg (not_not_intro hrequested)]
    simp only [bind_eq_ok]
    constructor
    · intro ⟨r, snapshot, hget, _⟩
      exact .inr (Option.isSome_iff_exists.mpr ⟨snapshot, get_eq_ok.mp hget⟩)
    · intro h
      have hsome := h.resolve_left (not_not_intro hrequested)
      obtain ⟨snapshot, hget⟩ := Option.isSome_iff_exists.mp hsome
      exact ⟨_, snapshot, get_eq_ok.mpr hget, rfl⟩
  · rw [if_pos hrequested]
    exact iff_of_true ⟨_, rfl⟩ (.inl hrequested)

theorem completeScanJobTask_isOk_iff {db : Database} {taskId : Id} {task : QueuedTask}
    {result : ScanResult} {now : Time} (hfound : db.tasks.find? taskId = some task) :
    (∃ db', completeScanJobTask db taskId result now = .ok db') ↔
      ∃ jobId job, task.asyncJob = some jobId ∧ db.jobs.find? jobId = some job ∧
        (job.status = .cancelled ∨ job.requestPayload.autoAvailabilityCheck ≠ some true ∨
          (db.snapshots.find? result.snapshotId).isSome) := by
  unfold completeScanJobTask
  rw [get_bind hfound]
  cases howner : task.asyncJob with
  | none =>
      apply iff_of_false
      · intro ⟨db', h⟩
        cases h
      · intro ⟨jobId, job, h, _⟩
        cases h
  | some jobId =>
      have hjobs : (∃ jobId' job, some jobId = some jobId' ∧ db.jobs.find? jobId' = some job ∧
          (job.status = .cancelled ∨ job.requestPayload.autoAvailabilityCheck ≠ some true ∨
            (db.snapshots.find? result.snapshotId).isSome)) ↔
          ∃ job, db.jobs.find? jobId = some job ∧
            (job.status = .cancelled ∨ job.requestPayload.autoAvailabilityCheck ≠ some true ∨
              (db.snapshots.find? result.snapshotId).isSome) := by
        constructor
        · intro ⟨jobId', job, h, hjob⟩
          cases h
          exact ⟨job, hjob⟩
        · intro ⟨job, hjob⟩
          exact ⟨jobId, job, rfl, hjob⟩
      rw [hjobs]
      simp only [bind_eq_ok]
      rw [exists_comm]
      apply exists_congr
      intro job
      rw [exists_and_left, get_eq_ok]
      apply and_congr_right
      intro hjob
      by_cases hcancelled : job.status = .cancelled
      · simp only [if_pos hcancelled]
        exact iff_of_true ⟨_, rfl⟩ (.inl hcancelled)
      · simp only [if_neg hcancelled, bind_eq_ok]
        have hcheck : (∃ r, enqueueAvailabilityCheckIfRequested (db.saveTask taskId completeTask) job
            result now = .ok r) ↔ job.requestPayload.autoAvailabilityCheck ≠ some true ∨
              (db.snapshots.find? result.snapshotId).isSome :=
          enqueueAvailabilityCheckIfRequested_isOk_iff
        constructor
        · intro ⟨db', r, hr, _⟩
          exact .inr (hcheck.mp ⟨r, hr⟩)
        · intro h
          obtain ⟨r, hr⟩ := hcheck.mpr (h.resolve_left hcancelled)
          exact ⟨_, r, hr, rfl⟩

theorem completeDiscoveryTask_isOk_iff {db : Database} {taskId discoveryId : Id}
    {task : QueuedTask} {result : DiscoveryResult} {now : Time}
    (hfound : db.tasks.find? taskId = some task) :
    (∃ db', completeDiscoveryTask db taskId discoveryId result now = .ok db') ↔
      ∀ jobId, task.asyncJob = some jobId → (db.jobs.find? jobId).isSome := by
  unfold completeDiscoveryTask
  rw [get_bind hfound]
  cases howner : task.asyncJob with
  | none =>
      apply iff_of_true ⟨_, rfl⟩
      intro jobId h
      cases h
  | some jobId =>
      simp only [bind_eq_ok]
      constructor
      · intro ⟨db', job, hget, _⟩ jobId' h
        cases h
        exact Option.isSome_iff_exists.mpr ⟨job, get_eq_ok.mp hget⟩
      · intro h
        obtain ⟨job, hget⟩ := Option.isSome_iff_exists.mp (h jobId rfl)
        by_cases hcancelled : job.status = .cancelled
        · exact ⟨_, job, get_eq_ok.mpr hget, if_pos hcancelled⟩
        · exact ⟨_, job, get_eq_ok.mpr hget, if_neg hcancelled⟩

theorem complete_isOk_iff {db : Database} {taskId : Id} {result : BodyResult} {now : Time} :
    (∃ db', complete db taskId result now = .ok db') ↔ Completable db taskId result := by
  cases hfound : db.tasks.find? taskId with
  | none =>
      apply iff_of_false
      · intro ⟨db', h⟩
        rw [complete, bind_eq_ok] at h
        obtain ⟨task, hget, -⟩ := h
        rw [get_eq_ok, hfound] at hget
        cases hget
      · intro ⟨task, hrow, _⟩
        rw [hfound] at hrow
        cases hrow
  | some task =>
      have hcompletable : Completable db taskId result ↔ CompleteRows db task result := by
        constructor
        · intro ⟨t, ht, hrows⟩
          rw [hfound] at ht
          cases ht
          exact hrows
        · intro hrows
          exact ⟨task, hfound, hrows⟩
      rw [hcompletable, complete, get_bind hfound]
      unfold CompleteRows
      -- a body returns a result of its own pipeline, every other pair is a type error
      cases hpayload : task.payload with
      | scanJob scanJobId targetIds scanners =>
          cases result with
          | scanJob result => exact completeScanJobTask_isOk_iff hfound
          | _ => exact iff_of_false (fun ⟨db', h⟩ => by cases h) not_false
      | discovery discoveryId =>
          cases result with
          | discovery result => exact completeDiscoveryTask_isOk_iff hfound
          | _ => exact iff_of_false (fun ⟨db', h⟩ => by cases h) not_false
      | recompute request =>
          cases result with
          | recompute result =>
              show (∃ db', completeRecomputeTask db taskId result now = .ok db') ↔ True
              unfold completeRecomputeTask
              rw [get_bind hfound]
              apply iff_of_true ?_ trivial
              cases task.asyncJob with
              | none => exact ⟨_, rfl⟩
              | some jobId => exact ⟨_, rfl⟩
          | _ => exact iff_of_false (fun ⟨db', h⟩ => by cases h) not_false
      | qualitativeAssessment assetId =>
          cases result with
          | qualitativeAssessment => exact iff_of_true ⟨_, get_bind hfound _⟩ trivial
          | _ => exact iff_of_false (fun ⟨db', h⟩ => by cases h) not_false
      | performanceRun runId snapshotId =>
          cases result with
          | performanceRun => exact iff_of_true ⟨_, get_bind hfound _⟩ trivial
          | _ => exact iff_of_false (fun ⟨db', h⟩ => by cases h) not_false

/-! ## 6. Isolation -/

/-- The body of the call raises the error for the task that the call has selected and claimed. -/
def BodyRaises (call : TaskName × Surroundings) (db : Database) (taskId : Id) (error : String) :
    Prop :=
  nextTask call.1 (call.2.before db) call.2.selectedAt = some taskId ∧
    ∃ claimed, claim (call.2.meanwhile (call.2.before db)) taskId call.2.claimedAt =
      .ok (.started claimed) ∧ (call.2.body taskId claimed).2 = .error error

def MarkedFailed (db : Database) (taskId : Id) (error : String) : Prop :=
  ∃ task, db.tasks.find? taskId = some task ∧ task.status = .failed ∧ task.lastError = some error

/-- The worker gets through its passes as one that calls every processor whatever the others raised,
and each task whose body raised is FAILED at the end of its call. -/
structure Isolated (passes : List Pass) (db : Database) : Prop where
  survives : handle passes db = (runIsolated processNext (passes.flatMap Pass.calls) db, none)
  marked : ∀ c ∈ callsOf processNext (passes.flatMap Pass.calls) db, ∀ taskId error,
    BodyRaises c.1 c.2 taskId error → MarkedFailed (processNext c.1 c.2).1 taskId error

/-- The task that the call selects, if there is one, can be claimed when the call claims it, and where
its body is started, it returns a result with which the task can be completed. -/
def Succeeds (call : TaskName × Surroundings) (db : Database) : Prop :=
  let selectable := call.2.before db
  ∀ taskId, nextTask call.1 selectable call.2.selectedAt = some taskId →
    Claimable (call.2.meanwhile selectable) taskId ∧
      ∀ claimed, claim (call.2.meanwhile selectable) taskId call.2.claimedAt =
          .ok (.started claimed) →
        ∃ returned result, call.2.body taskId claimed = (returned, .ok result) ∧
          Completable returned taskId result

theorem processTask_returns_iff {around : Surroundings} {db : Database} {taskId : Id} :
    (processTask around db taskId).2 = none ↔
      Claimable db taskId ∧
        ∀ claimed, claim db taskId around.claimedAt = .ok (.started claimed) →
          ∃ returned result, around.body taskId claimed = (returned, .ok result) ∧
            Completable returned taskId result := by
  have hclaims : Claimable db taskId ↔ ∃ c, claim db taskId around.claimedAt = .ok c :=
    claim_isOk_iff.symm
  rw [hclaims]
  unfold processTask
  cases hclaim : claim db taskId around.claimedAt with
  | error e =>
      apply iff_of_false
      · intro h
        cases h
      · intro ⟨⟨c, h⟩, _⟩
        cases h
  | ok c =>
      -- a skipped task returns at once, a started one runs its body
      cases c with
      | skipped skipped =>
          apply iff_of_true rfl
          refine ⟨⟨_, rfl⟩, ?_⟩
          intro claimed h
          cases h
      | started claimed =>
          show (match around.body taskId claimed with
            | (db, .error error) => _
            | (db, .ok result) => _ : Database × Option Raised).2 = none ↔ _
          cases hbody : around.body taskId claimed with
          | mk returned outcome =>
              cases outcome with
              | error error =>
                  -- a body that raised is reported, whether or not the failure could be written
                  apply iff_of_false
                  · show ¬ (match fail returned taskId error around.endedAt with
                      | .error error => _
                      | .ok db => _ : Database × Option Raised).2 = none
                    split
                    · exact Option.some_ne_none _
                    · exact Option.some_ne_none _
                  · intro ⟨_, h⟩
                    obtain ⟨_, _, heq, _⟩ := h claimed rfl
                    rw [hbody] at heq
                    cases heq
              | ok result =>
                  show (match complete returned taskId result around.endedAt with
                    | .error error => _
                    | .ok db => _ : Database × Option Raised).2 = none ↔ _
                  have hcomplete : (∃ db', complete returned taskId result around.endedAt =
                      .ok db') ↔ Completable returned taskId result := complete_isOk_iff
                  cases hend : complete returned taskId result around.endedAt with
                  | error e =>
                      rw [hend] at hcomplete
                      apply iff_of_false
                      · exact Option.some_ne_none _
                      · intro ⟨_, h⟩
                        obtain ⟨_, _, heq, hrows⟩ := h claimed rfl
                        rw [hbody] at heq
                        cases heq
                        obtain ⟨db', h⟩ := hcomplete.mpr hrows
                        cases h
                  | ok db' =>
                      rw [hend] at hcomplete
                      apply iff_of_true rfl
                      refine ⟨⟨_, rfl⟩, ?_⟩
                      intro claimed' h
                      cases h
                      exact ⟨returned, result, hbody, hcomplete.mp ⟨db', rfl⟩⟩

theorem processNext_returns_iff (call : TaskName × Surroundings) (db : Database) :
    (processNext call db).2 = none ↔ Succeeds call db := by
  unfold processNext Succeeds
  dsimp only
  cases nextTask call.1 (call.2.before db) call.2.selectedAt with
  | none =>
      apply iff_of_true rfl
      intro taskId h
      cases h
  | some taskId =>
      rw [processTask_returns_iff]
      constructor
      · intro h taskId' heq
        cases heq
        exact h
      · intro h
        exact h taskId rfl

theorem BodyRaises.not_succeeds {call : TaskName × Surroundings} {db : Database} {taskId : Id}
    {error : String} (h : BodyRaises call db taskId error) : ¬ Succeeds call db := by
  obtain ⟨hnext, claimed, hclaim, hbody⟩ := h
  intro hsucceeds
  obtain ⟨-, hreturns⟩ := hsucceeds taskId hnext
  obtain ⟨returned, result, heq, -⟩ := hreturns claimed hclaim
  rw [heq] at hbody
  cases hbody

/-- The worker isolates its tasks in exactly the runs in which there is nothing to isolate. -/
theorem isolated_iff (passes : List Pass) (db : Database) :
    Isolated passes db ↔
      ∀ c ∈ callsOf processNext (passes.flatMap Pass.calls) db, Succeeds c.1 c.2 := by
  have hreturns : handle passes db =
      (runIsolated processNext (passes.flatMap Pass.calls) db, none) ↔
        ∀ c ∈ callsOf processNext (passes.flatMap Pass.calls) db, Succeeds c.1 c.2 := by
    rw [handle, runUnguarded_eq_isolated_iff]
    simp only [processNext_returns_iff]
  constructor
  · intro h
    exact hreturns.mp h.survives
  · intro h
    refine ⟨hreturns.mpr h, ?_⟩
    intro c hc taskId error hraises
    exact absurd (h c hc) hraises.not_succeeds

/-! ## 7. What a raising body does -/

/-- The task of a body that raises is marked, where the failing transaction finds its row and, for a
scan, its job; the call raises the body's exception again. -/
theorem BodyRaises.marked {call : TaskName × Surroundings} {db : Database} {taskId : Id}
    {error : String} (h : BodyRaises call db taskId error)
    (hfail : ∀ claimed,
      claim (call.2.meanwhile (call.2.before db)) taskId call.2.claimedAt = .ok (.started claimed) →
      ∃ db', fail (call.2.body taskId claimed).1 taskId error call.2.endedAt = .ok db') :
    (processNext call db).2 = some (.body taskId error) ∧
      MarkedFailed (processNext call db).1 taskId error := by
  obtain ⟨hnext, claimed, hclaim, hbody⟩ := h
  obtain ⟨db', hfailed⟩ := hfail claimed hclaim
  have hpair : call.2.body taskId claimed =
      ((call.2.body taskId claimed).1, .error error) := Prod.ext rfl hbody
  have hcall : processNext call db = (db', some (.body taskId error)) := by
    unfold processNext
    simp only [hnext]
    unfold processTask
    simp only [hclaim]
    rw [hpair]
    simp only [hfailed]
  have hrow : ∃ task, (call.2.body taskId claimed).1.tasks.find? taskId = some task := by
    unfold fail at hfailed
    rw [bind_eq_ok] at hfailed
    obtain ⟨task, hget, -⟩ := hfailed
    exact ⟨task, get_eq_ok.mp hget⟩
  obtain ⟨task, hfound⟩ := hrow
  rw [hcall]
  refine ⟨rfl, failTask error task, ?_, rfl, rfl⟩
  show db'.tasks.find? taskId = _
  rw [fail_tasks hfailed, Table.find?_modify_self, hfound, Option.map_some]

/-- A raising body ends the worker where it stands: no processor after it is called. -/
theorem handle_stops {passes : List Pass} {done rest : List (TaskName × Surroundings)}
    {call : TaskName × Surroundings} {db : Database} {taskId : Id} {error : String}
    (hcalls : passes.flatMap Pass.calls = done ++ call :: rest)
    (hdone : ∀ c ∈ callsOf processNext done db, Succeeds c.1 c.2)
    (hraises : BodyRaises call (runIsolated processNext done db) taskId error)
    (hfail : ∀ claimed,
      claim (call.2.meanwhile (call.2.before (runIsolated processNext done db))) taskId
        call.2.claimedAt = .ok (.started claimed) →
      ∃ db', fail (call.2.body taskId claimed).1 taskId error call.2.endedAt = .ok db') :
    handle passes db =
      ((processNext call (runIsolated processNext done db)).1, some (.body taskId error)) := by
  rw [handle, hcalls]
  apply runUnguarded_raised
  · intro c hc
    exact (processNext_returns_iff c.1 c.2).mpr (hdone c hc)
  · exact (hraises.marked hfail).1

/-- A call with nothing going on around it, whose body recomputes no score. -/
def quiet : Surroundings where
  selectedAt := 1
  claimedAt := 1
  endedAt := 1
  before := id
  meanwhile := id
  body := fun _ db => (db, .ok (.recompute ⟨none, none, [0], 0⟩))

def unreachablePass : Pass
  | .scanJob => { quiet with body := fun _ db => (db, .error "unreachable host") }
  | _ => quiet

/-- A pass in which another worker takes the scan between its selection and its claim. -/
def lostRacePass : Pass
  | .scanJob => { quiet with meanwhile := fun db => db.saveTask 0 (takeTask 1) }
  | _ => quiet

def scanAndRecompute : Database :=
  createRecomputeJob (createScanJob {} [0] [.network] 0) ⟨none, none, some 0, none, false⟩ 0

/-- The scan ends the worker before the recompute task is looked for, which without the scan is
completed in the same pass. -/
theorem scan_stops_recompute :
    ¬ Isolated [unreachablePass] scanAndRecompute ∧ ¬ Isolated [lostRacePass] scanAndRecompute ∧
      ((handle [unreachablePass] scanAndRecompute).1.tasks.find? 1).map (·.status) = some .queued ∧
      ((handle [unreachablePass] (scanAndRecompute.saveTask 0 dropTask)).1.tasks.find? 1).map
        (·.status) = some .completed := by
  have hbody : (handle [unreachablePass] scanAndRecompute).2 = some (.body 0 "unreachable host") :=
    rfl
  have hrace : (handle [lostRacePass] scanAndRecompute).2 =
      some (.transaction (.notQueued 0)) := rfl
  refine ⟨?_, ?_, rfl, rfl⟩
  · intro h
    rw [h.survives] at hbody
    cases hbody
  · intro h
    rw [h.survives] at hrace
    cases hrace

end Jobs

end CryptoScanner
