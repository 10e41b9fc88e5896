import CryptoScanner.Jobs.Guarantees

/-!
# How a processor leaves its task

A body returns, raises an exception that the processor catches, or is interrupted by one that it does
not catch.  Only the first two lead to a last transaction, and an exception at any point of that
transaction rolls it back.
-/

namespace CryptoScanner

def TaskStatus.Terminal (status : TaskStatus) : Prop :=
  status = .completed ∨ status = .failed ∨ status = .cancelled

instance (status : TaskStatus) : Decidable status.Terminal :=
  inferInstanceAs (Decidable (_ ∨ _ ∨ _))

def JobStatus.Terminal (status : JobStatus) : Prop :=
  status = .completed ∨ status = .failed ∨ status = .cancelled

instance (status : JobStatus) : Decidable status.Terminal :=
  inferInstanceAs (Decidable (_ ∨ _ ∨ _))

theorem TaskStatus.terminal_job (status : TaskStatus) : status.job.Terminal ↔ status.Terminal := by
  cases status <;> decide

namespace Jobs

open Library Database

/-! ## 1. The end of a processor -/

inductive BodyEnd
  | returned (result : BodyResult)
  /-- What `except Exception` catches. -/
  | raised (error : String)
  /-- A `KeyboardInterrupt` or a `SystemExit`. -/
  | interrupted

/-- The processor leaves its task.  `point` is the operation of the last transaction at which an
exception is raised, if one is. -/
def System.leave (s : System) (worker : WorkerId) (taskId : Id) (bodyEnd : BodyEnd)
    (point : Option Nat) (now : Time) : System :=
  match bodyEnd, point with
  | .returned result, none => s.endBody worker (complete s.db taskId result now)
  | .raised error, none => s.endBody worker (fail s.db taskId error now)
  | .interrupted, _ => s.release worker
  | _, some _ => s.release worker

/-- The task, and its job if it has one, have a terminal status. -/
def Ended (db : Database) (taskId : Id) : Prop :=
  ∃ task, db.tasks.find? taskId = some task ∧ task.status.Terminal ∧
    ∀ jobId, task.asyncJob = some jobId →
      ∃ job, db.jobs.find? jobId = some job ∧ job.status.Terminal

def BodyResult.OfPipeline : BodyResult → TaskPayload → Prop
  | .scanJob _, .scanJob _ _ _ => True
  | .discovery _, .discovery _ => True
  | .recompute _, .recompute _ => True
  | .qualitativeAssessment, .qualitativeAssessment _ => True
  | .performanceRun, .performanceRun _ _ => True
  | _, _ => False

/-- The availability run that a scan asks for has no snapshot to run on. -/
def SnapshotMissing (db : Database) (task : QueuedTask) : BodyResult → Prop
  | .scanJob result =>
      ∃ jobId job, task.asyncJob = some jobId ∧ db.jobs.find? jobId = some job ∧
        job.status ≠ .cancelled ∧ job.requestPayload.autoAvailabilityCheck = some true ∧
        db.snapshots.find? result.snapshotId = none
  | _ => False

/-- Any process of the system takes a step, or an exception takes a worker out of its processor. -/
inductive FaultyAction
  | step (action : Action × Time)
  | fault (worker : WorkerId)

def faultyStep (s : System) : FaultyAction → Option System
  | .step action => step s action
  | .fault worker => some (s.release worker)

/-! ## 2. Whether the last transaction commits -/

section Commits

variable {db : Database} {taskId : Id} {task : QueuedTask}

theorem completeScanJobTask_commits_iff (hdb : Coherent db)
    (hfound : db.tasks.find? taskId = some task) {scanJobId : Id} {targetIds : List Id}
    {scanners : List Scanner} (hpayload : task.payload = .scanJob scanJobId targetIds scanners)
    (result : ScanResult) (now : Time) :
    (∃ db', completeScanJobTask db taskId result now = .ok db') ↔
      ¬ SnapshotMissing db task (.scanJob result) := by
  cases howner : task.asyncJob with
  | none =>
      have hkind := (hdb.owned taskId task hfound).mp howner
      rw [hpayload] at hkind
      cases hkind
  | some jobId =>
      obtain ⟨job, hjob, -, -⟩ := hdb.job_of_task taskId task jobId hfound howner
      rw [completeScanJobTask, get_bind hfound]
      simp only [howner, get_bind hjob]
      -- the job of the task is this one, so the condition speaks of its row
      have hmissing : SnapshotMissing db task (.scanJob result) ↔
          job.status ≠ .cancelled ∧ job.requestPayload.autoAvailabilityCheck = some true ∧
            db.snapshots.find? result.snapshotId = none := by
        constructor
        · rintro ⟨jobId', job', howner', hjob', h⟩
          rw [howner] at howner'
          cases howner'
          rw [hjob] at hjob'
          cases hjob'
          exact h
        · intro h
          exact ⟨jobId, job, howner, hjob, h⟩
      rw [hmissing]
      by_cases hcancelled : job.status = .cancelled
      · rw [if_pos hcancelled]
        exact ⟨fun _ h => h.1 hcancelled, fun _ => ⟨_, rfl⟩⟩
      · rw [if_neg hcancelled, enqueueAvailabilityCheckIfRequested]
        by_cases hflag : job.requestPayload.autoAvailabilityCheck = some true
        · rw [if_neg (not_not_intro hflag)]
          have hsnapshots : (db.saveTask taskId completeTask).snapshots = db.snapshots := rfl
          rw [hsnapshots]
          cases hsnapshot : db.snapshots.find? result.snapshotId with
          | none =>
              constructor
              · rintro ⟨db', h⟩
                simp only [Database.get, hsnapshot] at h
                cases h
              · intro h
                exact absurd ⟨hcancelled, hflag, rfl⟩ h
          | some snapshot =>
              constructor
              · intro _ h
                cases h.2.2
              · intro _
                exact ⟨_, by simp only [Database.get, hsnapshot]; rfl⟩
        · rw [if_pos hflag]
          exact ⟨fun _ h => hflag h.2.1, fun _ => ⟨_, rfl⟩⟩

theorem completeDiscoveryTask_commits (hdb : Coherent db)
    (hfound : db.tasks.find? taskId = some task) (discoveryId : Id) (result : DiscoveryResult)
    (now : Time) : ∃ db', completeDiscoveryTask db taskId discoveryId result now = .ok db' := by
  rw [completeDiscoveryTask, get_bind hfound]
  cases howner : task.asyncJob with
  | none => exact ⟨_, rfl⟩
  | some jobId =>
      obtain ⟨job, hjob, -, -⟩ := hdb.job_of_task taskId task jobId hfound howner
      simp only [get_bind hjob]
      by_cases hcancelled : job.status = .cancelled
      · rw [if_pos hcancelled]
        exact ⟨_, rfl⟩
      · rw [if_neg hcancelled]
        exact ⟨_, rfl⟩

/-- A completing transaction raises by itself in one case only. -/
theorem complete_commits_iff (hdb : Coherent db) (hfound : db.tasks.find? taskId = some task)
    {result : BodyResult} (hpipeline : result.OfPipeline task.payload) (now : Time) :
    (∃ db', complete db taskId result now = .ok db') ↔ ¬ SnapshotMissing db task result := by
  rw [complete, get_bind hfound]
  -- of the five kinds only a scan job looks a snapshot up
  cases hpayload : task.payload with
  | scanJob scanJobId targetIds scanners =>
      rw [hpayload] at hpipeline
      cases result with
      | scanJob result => exact completeScanJobTask_commits_iff hdb hfound hpayload result now
      | discovery | recompute | qualitativeAssessment | performanceRun => cases hpipeline
  | discovery discoveryId =>
      rw [hpayload] at hpipeline
      cases result with
      | discovery result =>
          exact ⟨fun _ h => h, fun _ =>
            completeDiscoveryTask_commits hdb hfound discoveryId result now⟩
      | scanJob | recompute | qualitativeAssessment | performanceRun => cases hpipeline
  | recompute request =>
      rw [hpayload] at hpipeline
      cases result with
      | recompute result =>
          refine ⟨fun _ h => h, fun _ => ?_⟩
          simp only [completeRecomputeTask, get_bind hfound]
          cases task.asyncJob <;> exact ⟨_, rfl⟩
      | scanJob | discovery | qualitativeAssessment | performanceRun => cases hpipeline
  | qualitativeAssessment assetId =>
      rw [hpayload] at hpipeline
      cases result with
      | qualitativeAssessment =>
          refine ⟨fun _ h => h, fun _ => ?_⟩
          simp only [completeJoblessTask, get_bind hfound]
          exact ⟨_, rfl⟩
      | scanJob | discovery | recompute | performanceRun => cases hpipeline
  | performanceRun runId snapshotId =>
      rw [hpayload] at hpipeline
      cases result with
      | performanceRun =>
          refine ⟨fun _ h => h, fun _ => ?_⟩
          simp only [completeJoblessTask, get_bind hfound]
          exact ⟨_, rfl⟩
      | scanJob | discovery | recompute | qualitativeAssessment => cases hpipeline

/-- Every failing transaction of a task that is there commits. -/
theorem fail_task_commits (hdb : Coherent db) (hfound : db.tasks.find? taskId = some task)
    (error : String) (now : Time) : ∃ db', fail db taskId error now = .ok db' := by
  cases howner : task.asyncJob with
  | some jobId => exact fail_commits error now hfound howner
  | none =>
      have hkind := (hdb.owned taskId task hfound).mp howner
      rw [fail, get_bind hfound]
      cases hpayload : task.payload with
      | scanJob | discovery | recompute =>
          rw [hpayload] at hkind
          cases hkind
      | qualitativeAssessment assetId =>
          exact ⟨_, by simp only [failQualitativeAssessmentTask, get_bind hfound]; rfl⟩
      | performanceRun runId snapshotId =>
          exact ⟨_, by simp only [failPerformanceRunTask, get_bind hfound]; rfl⟩

/-- The status that the last transaction gives its task is terminal. -/
theorem complete_terminal {db' : Database} {result : BodyResult} {now : Time} (hdb : Coherent db)
    (h : complete db taskId result now = .ok db') :
    ∃ task', db'.tasks.find? taskId = some task' ∧ task'.status.Terminal := by
  obtain ⟨task, hfound, hcase⟩ := complete_completed hdb h
  rcases hcase with ⟨-, -, heq⟩ | ⟨-, mid, hadvanced, hrest⟩
  · refine ⟨dropTask task, ?_, .inr (.inr rfl)⟩
    rw [heq, saveTask_tasks, Table.find?_modify_self, hfound]
    rfl
  · obtain ⟨task', hmid, hview⟩ := hadvanced.task_self
    have hstatus : task'.status = .completed := congrArg TaskView.status hview
    refine ⟨task', ?_, .inl hstatus⟩
    rcases hrest with heq | ⟨payload, hsubmitted⟩
    · rw [heq, hmid]
    · exact hsubmitted.task_old hmid

theorem fail_terminal {db' : Database} {error : String} {now : Time} (hdb : Coherent db)
    (h : fail db taskId error now = .ok db') :
    ∃ task', db'.tasks.find? taskId = some task' ∧ task'.status.Terminal := by
  obtain ⟨task, hadvanced⟩ := fail_advanced hdb h
  obtain ⟨task', hfound, hview⟩ := hadvanced.task_self
  have hstatus : task'.status = .failed := congrArg TaskView.status hview
  exact ⟨task', hfound, .inr (.inl hstatus)⟩

theorem ended_iff (hdb : Coherent db) (hfound : db.tasks.find? taskId = some task) :
    Ended db taskId ↔ task.status.Terminal := by
  constructor
  · rintro ⟨task', hfound', hterminal, -⟩
    rw [hfound] at hfound'
    cases hfound'
    exact hterminal
  · intro hterminal
    refine ⟨task, hfound, hterminal, fun jobId howner => ?_⟩
    obtain ⟨job, hjob, -, hstatus⟩ := hdb.job_of_task taskId task jobId hfound howner
    refine ⟨job, hjob, ?_⟩
    rw [hstatus, TaskStatus.terminal_job]
    exact hterminal

end Commits

/-! ## 3. No task stays RUNNING, unless its last transaction is lost -/

theorem faultyStep_sound {s s' : System} {a : FaultyAction} (hs : Sound s)
    (h : faultyStep s a = some s') : Sound s' := by
  cases a with
  | step action => exact (run_sound_any (.single trivial h) hs).1
  | fault worker =>
      cases h
      have hevent : Event (fun _ _ => True) s (s.release worker) :=
        .released worker (Quiet.refl _) rfl rfl
      have hadmits : Admits (fun _ _ => True) fun _ => True := fun _ _ _ _ _ _ _ => trivial
      exact (hevent.sound hadmits hs).1

theorem faulty_run_sound {s s' : System} {as : List FaultyAction}
    (h : Run faultyStep anyStep s as s') (hs : Sound s) : Sound s' :=
  h.invariant (fun _ _ _ hs _ hstep => faultyStep_sound hs hstep) hs

/-- **Every way out of a processor.**  After any run, a processor leaves its task with a terminal
status exactly when a cancel request gave it one before, or its last transaction is reached, no
exception is raised inside it, and the snapshot of a requested availability run is there. -/
theorem leave_ended_iff {s₀ s : System} {as : List FaultyAction} (h₀ : Populated s₀)
    (hrun : Run faultyStep anyStep s₀ as s) {worker : WorkerId} {taskId : Id}
    (hbusy : s.busy worker = some taskId) {task : QueuedTask}
    (hfound : s.db.tasks.find? taskId = some task) {bodyEnd : BodyEnd}
    (hpipeline : ∀ result, bodyEnd = .returned result → result.OfPipeline task.payload)
    (point : Option Nat) (now : Time) :
    Ended (s.leave worker taskId bodyEnd point now).db taskId ↔
      task.status = .cancelled ∨
        (bodyEnd ≠ .interrupted ∧ point = none ∧
          ∀ result, bodyEnd = .returned result → ¬ SnapshotMissing s.db task result) := by
  have hsound := faulty_run_sound hrun h₀.sound
  have hactive : task.status.Terminal ↔ task.status = .cancelled := by
    obtain ⟨task', hfound', hstatus⟩ := busy_task hsound.valid hbusy
    rw [hfound] at hfound'
    cases hfound'
    rcases hstatus with hstatus | ⟨hstatus, -⟩ <;> rw [hstatus] <;> decide
  -- a worker that goes without a transaction leaves the task as a cancellation left it
  have hreleased : Ended (s.release worker).db taskId ↔ task.status = .cancelled :=
    (ended_iff hsound.coherent hfound).trans hactive
  -- an exception inside the last transaction rolls it back
  cases point with
  | some point =>
      have hleave : s.leave worker taskId bodyEnd (some point) now = s.release worker := by
        cases bodyEnd <;> rfl
      rw [hleave, hreleased]
      simp
  | none =>
      cases bodyEnd with
      | interrupted =>
          rw [System.leave, hreleased]
          simp
      | raised error =>
          obtain ⟨db', hfail⟩ := fail_task_commits hsound.coherent hfound error now
          have hstep : step s (.raise worker error, now) =
              some (s.endBody worker (fail s.db taskId error now)) := by
            simp only [step, hbusy]
            rfl
          have hafter := (run_sound_any (.single trivial hstep) hsound).1.coherent
          obtain ⟨task', hfound', hterminal⟩ := fail_terminal hsound.coherent hfail
          rw [hfail] at hafter
          rw [System.leave, hfail]
          have hended := (ended_iff hafter hfound').mpr hterminal
          simp [hended]
      | returned result =>
          have hcommits := complete_commits_iff hsound.coherent hfound (hpipeline result rfl) now
          have hstep : step s (.finish worker result, now) =
              some (s.endBody worker (complete s.db taskId result now)) := by
            simp only [step, hbusy]
            rfl
          have hafter := (run_sound_any (.single trivial hstep) hsound).1.coherent
          rw [System.leave]
          cases hcomplete : complete s.db taskId result now with
          | error e =>
              -- the completing transaction fails for a missing snapshot only
              have hmissing : SnapshotMissing s.db task result := by
                by_contra hthere
                obtain ⟨db', hok⟩ := hcommits.mpr hthere
                rw [hcomplete] at hok
                cases hok
              have hend : s.endBody worker (Except.error e) = s.release worker := rfl
              rw [hend, hreleased]
              simp [hmissing]
          | ok db' =>
              obtain ⟨task', hfound', hterminal⟩ := complete_terminal hsound.coherent hcomplete
              rw [hcomplete] at hafter
              have hended := (ended_iff hafter hfound').mpr hterminal
              have hthere := hcommits.mp ⟨db', hcomplete⟩
              simp [hended, hthere]

/-- The scan of `queuedScan` once its worker has started. -/
theorem startedScan : ∃ s, Run faultyStep anyStep queuedScan [.step (.claim 0 0, 1)] s ∧
    s.busy 0 = some 0 ∧ ∃ task, s.db.tasks.find? 0 = some task ∧
      (∀ result, BodyEnd.returned (.scanJob ⟨0, 0, 0, 0, none⟩) = .returned result →
        result.OfPipeline task.payload) ∧ task.status = .running := by
  refine ⟨_, .cons trivial rfl (.nil _), rfl, _, rfl, ?_, rfl⟩
  intro result h
  cases h
  trivial

theorem startedScan_leave_ended : ∃ s task,
    Run faultyStep anyStep queuedScan [.step (.claim 0 0, 1)] s ∧
      (Ended (s.leave 0 0 (.returned (.scanJob ⟨0, 0, 0, 0, none⟩)) none 2).db 0 ↔
        task.status = .cancelled ∨
          (BodyEnd.returned (.scanJob ⟨0, 0, 0, 0, none⟩) ≠ .interrupted ∧ (none : Option Nat) = none ∧
            ∀ result, BodyEnd.returned (.scanJob ⟨0, 0, 0, 0, none⟩) = .returned result →
              ¬ SnapshotMissing s.db task result)) := by
  obtain ⟨s, hrun, hbusy, task, hfound, hpipeline, -⟩ := startedScan
  exact ⟨s, task, hrun,
    leave_ended_iff queuedScan_populated hrun hbusy hfound hpipeline none 2⟩

/-- The database goes away while the completing transaction of a scan is open. -/
theorem completion_fault_leaves_running : ¬ ∀ (s₀ s : System) (as : List FaultyAction),
    Populated s₀ → Run faultyStep anyStep s₀ as s → ∀ (worker : WorkerId) (taskId : Id),
      s.busy worker = some taskId → ∀ task, s.db.tasks.find? taskId = some task →
        ∀ bodyEnd : BodyEnd,
          (∀ result, bodyEnd = .returned result → result.OfPipeline task.payload) →
            ∀ (point : Option Nat) (now : Time),
              Ended (s.leave worker taskId bodyEnd point now).db taskId := by
  intro h
  obtain ⟨s, hrun, hbusy, task, hfound, hpipeline, hstatus⟩ := startedScan
  obtain ⟨task', hfound', hterminal, -⟩ := h queuedScan s _ queuedScan_populated hrun 0 0 hbusy task
    hfound _ hpipeline (some 0) 2
  change s.db.tasks.find? 0 = some task' at hfound'
  rw [hfound] at hfound'
  cases hfound'
  rw [hstatus] at hterminal
  revert hterminal
  decide

end Jobs

end CryptoScanner
