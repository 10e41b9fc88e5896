import CryptoScanner.Jobs.Pipelines
import CryptoScanner.Library.Fallible

/-!
# What a transaction can do to the queue

The rows that the queue's invariants read are the status, the attempts and the owner of a task, the
kind and the status of a job, and the job and the status of a discovery.  On these rows every
transaction is one of four changes: it leaves them as they are, it submits a task with its job, it
moves a task with its job and its discovery to a new status, or it revokes a job.
-/

namespace CryptoScanner

/-! ## 1. The rows the invariants read -/

/-- The kind of the job that a task of this payload belongs to, if it belongs to one. -/
def TaskPayload.kind : TaskPayload → Option JobKind
  | .scanJob _ _ _ => some .scanJob
  | .discovery _ => some .discovery
  | .recompute _ => some .recompute
  | .qualitativeAssessment _ => none
  | .performanceRun _ _ => none

def TaskPayload.revocable (payload : TaskPayload) : Bool :=
  payload.kind == some .scanJob || payload.kind == some .discovery

def TaskStatus.job : TaskStatus → JobStatus
  | .queued => .pending
  | .running => .running
  | .completed => .completed
  | .failed => .failed
  | .cancelled => .cancelled

theorem TaskStatus.job_inj {a b : TaskStatus} (h : a.job = b.job) : a = b := by
  cases a <;> cases b <;> first | rfl | cases h

structure TaskView where
  status : TaskStatus
  attempts : Nat
  asyncJob : Option Id
  payload : TaskPayload

def QueuedTask.view (task : QueuedTask) : TaskView :=
  ⟨task.status, task.attempts, task.asyncJob, task.payload⟩

structure JobView where
  kind : JobKind
  status : JobStatus

def AsyncJob.view (job : AsyncJob) : JobView := ⟨job.kind, job.status⟩

/-- The jobs that a cancel request is accepted for. -/
def AsyncJob.Cancellable (job : AsyncJob) : Prop :=
  job.status ≠ .completed ∧ job.status ≠ .failed ∧
    ¬ (job.kind = .recompute ∧ job.status = .running)

structure DiscoveryView where
  asyncJob : Id
  status : JobStatus

def Discovery.view (discovery : Discovery) : DiscoveryView :=
  ⟨discovery.asyncJob, discovery.status⟩

namespace Jobs

open Library Database

/-- The tables have the same rows up to what `view` shows. -/
def SameView {α β : Type} (view : α → β) (t t' : Table α) : Prop :=
  ∀ id, (t'.find? id).map view = (t.find? id).map view

theorem SameView.refl {α β : Type} (view : α → β) (t : Table α) : SameView view t t :=
  fun _ => rfl

theorem SameView.modify {α β : Type} {view : α → β} (t : Table α) (id : Id) {f : α → α}
    (h : ∀ row, t.find? id = some row → view (f row) = view row) :
    SameView view t (t.modify id f) := by
  intro k
  by_cases hk : k = id
  · subst hk
    rw [Table.find?_modify_self]
    cases hrow : t.find? k with
    | none => rfl
    | some row =>
        simp only [Option.map_some]
        rw [h row hrow]
  · rw [Table.find?_modify_ne t f hk]

/-- A row on one side has a row of the same view on the other. -/
theorem SameView.of_find? {α β : Type} {view : α → β} {t t' : Table α} (h : SameView view t t')
    {id : Id} {row : α} (hrow : t.find? id = some row) :
    ∃ row', t'.find? id = some row' ∧ view row' = view row := by
  have hid := h id
  rw [hrow, Option.map_some, Option.map_eq_some_iff] at hid
  exact hid

theorem SameView.find?_of {α β : Type} {view : α → β} {t t' : Table α} (h : SameView view t t')
    {id : Id} {row' : α} (hrow : t'.find? id = some row') :
    ∃ row, t.find? id = some row ∧ view row = view row' := by
  have hid := (h id).symm
  rw [hrow, Option.map_some, Option.map_eq_some_iff] at hid
  exact hid

/-! ## 2. The four changes -/

/-- Nothing that the invariants read changes. -/
structure Quiet (db db' : Database) : Prop where
  tasks : SameView QueuedTask.view db.tasks db'.tasks
  jobs : SameView AsyncJob.view db.jobs db'.jobs
  discoveries : SameView Discovery.view db.discoveries db'.discoveries

/-- A new task, with a new job if its payload asks for one, and attached to its discovery, which is
either a settled one or new. -/
structure Submitted (db db' : Database) (payload : TaskPayload) : Prop where
  tasks : ∃ task, task.status = .queued ∧ task.attempts = 0 ∧
    task.asyncJob = payload.kind.map (fun _ => db.jobs.nextId) ∧ task.payload = payload ∧
    db'.tasks = db.tasks.insert task
  jobs : match payload.kind with
    | none => db'.jobs = db.jobs
    | some kind => ∃ job, job.kind = kind ∧ job.status = .pending ∧ db'.jobs = db.jobs.insert job
  discoveries : match payload with
    | .discovery discoveryId =>
        (∃ discovery f, db.discoveries.find? discoveryId = some discovery ∧
          discovery.status ≠ .pending ∧ discovery.status ≠ .running ∧
          (∀ row, (f row).asyncJob = db.jobs.nextId ∧ (f row).status = .pending) ∧
          db'.discoveries = db.discoveries.modify discoveryId f) ∨
        (∃ discovery, discoveryId = db.discoveries.nextId ∧
          discovery.asyncJob = db.jobs.nextId ∧ discovery.status = .pending ∧
          db'.discoveries = db.discoveries.insert discovery)
    | _ => db'.discoveries = db.discoveries

/-- The task moves to `status` with `starts` new attempts, and its job and discovery move along. -/
structure Advanced (db db' : Database) (taskId : Id) (task : QueuedTask) (starts : Nat)
    (status : TaskStatus) : Prop where
  found : db.tasks.find? taskId = some task
  tasks : ∃ f, db'.tasks = db.tasks.modify taskId f ∧
    (f task).view = ⟨status, task.attempts + starts, task.asyncJob, task.payload⟩
  jobs : ∃ f, (∀ job, (f job).view = ⟨job.kind, status.job⟩) ∧
    db'.jobs = match task.asyncJob with
      | none => db.jobs
      | some jobId => db.jobs.modify jobId f
  discoveries : ∃ f, (∀ discovery, (f discovery).view = ⟨discovery.asyncJob, status.job⟩) ∧
    db'.discoveries = match task.payload with
      | .discovery discoveryId => db.discoveries.modify discoveryId f
      | _ => db.discoveries

/-- The job is cancelled, with its unfinished tasks and the discovery that references it. -/
structure Revoked (db db' : Database) (jobId : Id) (job : AsyncJob) : Prop where
  found : db.jobs.find? jobId = some job
  cancellable : job.Cancellable
  tasks : db'.tasks = (cancelQueuedTasks db jobId).tasks
  jobs : ∃ f, (∀ row, (f row).kind = row.kind) ∧ (f job).status = .cancelled ∧
    db'.jobs = db.jobs.modify jobId f
  discoveries : ∃ finishedAt,
    db'.discoveries = (syncCancelledResource db jobId job.kind finishedAt).discoveries

/-! ## 3. Submitting transactions -/

theorem openScanJob_submitted (db : Database) (targetIds : List Id) (scanners : List Scanner)
    (origin : Option Origin) (flag : Option Bool) (now : Time) :
    ∃ payload, Submitted db (openScanJob db targetIds scanners origin flag now) payload := by
  refine ⟨.scanJob db.scanJobs.nextId targetIds scanners, ?_, ?_, ?_⟩
  · exact ⟨_, rfl, rfl, rfl, rfl, rfl⟩
  · exact ⟨_, rfl, rfl, rfl⟩
  · rfl

theorem createRecomputeJob_submitted (db : Database) (request : RecomputeRequest) (now : Time) :
    Submitted db (createRecomputeJob db request now) (.recompute request) where
  tasks := ⟨_, rfl, rfl, rfl, rfl, rfl⟩
  jobs := ⟨_, rfl, rfl, rfl⟩
  discoveries := rfl

theorem enqueueQualitativeAssessment_submitted (db : Database) (assetId : Id) (now : Time) :
    Submitted db (enqueueQualitativeAssessment db assetId now)
      (.qualitativeAssessment assetId) where
  tasks := ⟨_, rfl, rfl, rfl, rfl, rfl⟩
  jobs := rfl
  discoveries := rfl

theorem enqueueRun_submitted (db : Database) (runId snapshotId : Id) (trigger : RunTrigger)
    (profile : RunProfile) (now : Time) :
    Submitted db (enqueueRun (createRun db snapshotId trigger profile) runId snapshotId now)
      (.performanceRun runId snapshotId) where
  tasks := ⟨_, rfl, rfl, rfl, rfl, rfl⟩
  jobs := rfl
  discoveries := rfl

theorem insertDiscovery_submitted (db : Database) (request : DiscoveryCreate) (now : Time) :
    Submitted db (insertDiscovery db request now) (.discovery db.discoveries.nextId) where
  tasks := ⟨_, rfl, rfl, rfl, rfl, rfl⟩
  jobs := ⟨_, rfl, rfl, rfl⟩
  discoveries := .inr ⟨_, rfl, rfl, rfl, rfl⟩

theorem rerunDiscovery_submitted {db : Database} {discoveryId : Id} {discovery : Discovery}
    (request : DiscoveryCreate) (now : Time)
    (hfound : db.discoveries.find? discoveryId = some discovery)
    (hpending : discovery.status ≠ .pending) (hrunning : discovery.status ≠ .running) :
    Submitted db (rerunDiscovery db request discoveryId now) (.discovery discoveryId) where
  tasks := ⟨_, rfl, rfl, rfl, rfl, rfl⟩
  jobs := ⟨_, rfl, rfl, rfl⟩
  discoveries := .inl ⟨discovery, reattach request db.jobs.nextId, hfound, hpending, hrunning,
    fun _ => ⟨rfl, rfl⟩, rfl⟩

/-! ## 4. Coherence of tasks and jobs -/

/-- Every job has exactly one task, of its kind and in step with its status. -/
structure Coherent (db : Database) : Prop where
  owned : ∀ taskId task, db.tasks.find? taskId = some task →
    (task.asyncJob = none ↔ task.payload.kind = none)
  job_of_task : ∀ taskId task jobId, db.tasks.find? taskId = some task →
    task.asyncJob = some jobId → ∃ job, db.jobs.find? jobId = some job ∧
      some job.kind = task.payload.kind ∧ job.status = task.status.job
  task_of_job : ∀ jobId job, db.jobs.find? jobId = some job →
    ∃ taskId task, db.tasks.find? taskId = some task ∧ task.asyncJob = some jobId
  task_unique : ∀ taskId taskId' task task' jobId, db.tasks.find? taskId = some task →
    db.tasks.find? taskId' = some task' → task.asyncJob = some jobId →
    task'.asyncJob = some jobId → taskId = taskId'

theorem Coherent.jobless {db : Database} (h : Coherent db) {taskId : Id} {task : QueuedTask}
    (hfound : db.tasks.find? taskId = some task) (hkind : task.payload.kind = none) :
    task.asyncJob = none :=
  (h.owned taskId task hfound).mpr hkind

/-! ## 5. The transactions of the workers -/

theorem get_bind {α β : Type} {t : Table α} {id : Id} {row : α} (h : t.find? id = some row)
    (f : α → Except DbError β) : (Database.get t id >>= f) = f row := by
  rw [get_eq_ok.mpr h]
  rfl

/-- The shared claim either finds nothing to do or takes a queued task. -/
theorem claimTask_cases {prepare : Database → QueuedTask → Except DbError Prepared}
    {db : Database} {taskId : Id} {now : Time} {c : Claim}
    (h : claimTask prepare db taskId now = .ok c) :
    ∃ task, db.tasks.find? taskId = some task ∧
      (task.status = .cancelled ∧ c = .skipped db ∨
        task.status = .queued ∧ ∃ prepared, prepare db task = .ok prepared ∧
          (prepared.job = none ∧
              c = .started (prepared.saveResource (db.saveTask taskId (takeTask now))) ∨
            ∃ jobId progress job, prepared.job = some (jobId, progress) ∧
              db.jobs.find? jobId = some job ∧
              (job.status = .cancelled ∧
                  c = .skipped ((db.saveTask taskId (takeTask now)).saveTask taskId dropTask) ∨
                c = .started (prepared.saveResource
                  ((db.saveTask taskId (takeTask now)).saveJob jobId
                    (beginJob progress now)))))) := by
  unfold claimTask at h
  rw [bind_eq_ok] at h
  obtain ⟨task, hfound, h⟩ := h
  refine ⟨task, get_eq_ok.mp hfound, ?_⟩
  by_cases hcancelled : task.status = .cancelled
  · rw [if_pos hcancelled] at h
    cases h
    exact .inl ⟨hcancelled, rfl⟩
  · rw [if_neg hcancelled] at h
    by_cases hqueued : task.status = .queued
    · rw [if_neg (not_not_intro hqueued), bind_eq_ok] at h
      obtain ⟨prepared, hprepared, h⟩ := h
      refine .inr ⟨hqueued, prepared, hprepared, ?_⟩
      cases hjob : prepared.job with
      | none =>
          simp only [hjob] at h
          cases h
          exact .inl ⟨rfl, rfl⟩
      | some pair =>
          obtain ⟨jobId, progress⟩ := pair
          simp only [hjob, bind_eq_ok] at h
          obtain ⟨job, hfoundJob, h⟩ := h
          refine .inr ⟨jobId, progress, job, rfl, get_eq_ok.mp hfoundJob, ?_⟩
          by_cases hdead : job.status = .cancelled
          · rw [if_pos hdead] at h
            cases h
            exact .inl ⟨hdead, rfl⟩
          · rw [if_neg hdead] at h
            cases h
            exact .inr rfl
    · rw [if_pos hqueued] at h
      cases h

/-- A pipeline whose preparation names the task's own job, and saves nothing on tasks, jobs and
discoveries but the start of the task's discovery, advances the task it claims. -/
theorem claimTask_advanced {prepare : Database → QueuedTask → Except DbError Prepared}
    {db : Database} {taskId : Id} {now : Time} {c : Claim} (hdb : Coherent db)
    (hprepare : ∀ task prepared, db.tasks.find? taskId = some task →
      prepare db task = .ok prepared →
      prepared.job.map Prod.fst = task.asyncJob ∧
        ∀ db', (prepared.saveResource db').tasks = db'.tasks ∧
          (prepared.saveResource db').jobs = db'.jobs ∧
          (prepared.saveResource db').discoveries = match task.payload with
            | .discovery discoveryId => db'.discoveries.modify discoveryId (beginDiscovery now)
            | _ => db'.discoveries)
    (h : claimTask prepare db taskId now = .ok c) :
    c = .skipped db ∨ ∃ db' task, c = .started db' ∧ task.status = .queued ∧
      Advanced db db' taskId task 1 .running := by
  obtain ⟨task, hfound, hcase⟩ := claimTask_cases h
  rcases hcase with ⟨_, hskip⟩ | ⟨hqueued, prepared, hprepared, hstart⟩
  · exact .inl hskip
  · right
    obtain ⟨hjob, hsave⟩ := hprepare task prepared hfound hprepared
    rcases hstart with ⟨hnone, hc⟩ | ⟨jobId, progress, job, hsome, hfoundJob, hstart⟩
    · obtain ⟨htasks, hjobs, hdiscoveries⟩ := hsave (db.saveTask taskId (takeTask now))
      rw [hnone, Option.map_none] at hjob
      refine ⟨_, task, hc, hqueued, hfound, ⟨takeTask now, htasks, rfl⟩,
        ⟨beginJob (.count 0 none 0) now, fun _ => rfl, ?_⟩,
        ⟨beginDiscovery now, fun _ => rfl, hdiscoveries⟩⟩
      rw [hjobs, ← hjob]
      rfl
    · rw [hsome, Option.map_some] at hjob
      have hstatus : job.status = .pending := by
        obtain ⟨job', hfound', _, hstatus⟩ := hdb.job_of_task taskId task jobId hfound hjob.symm
        rw [hfoundJob] at hfound'
        cases hfound'
        rw [hstatus, hqueued]
        rfl
      rcases hstart with ⟨hdead, -⟩ | hc
      · -- a queued task's job is pending, so the check for a cancelled one finds none
        rw [hdead] at hstatus
        cases hstatus
      · obtain ⟨htasks, hjobs, hdiscoveries⟩ :=
          hsave ((db.saveTask taskId (takeTask now)).saveJob jobId (beginJob progress now))
        refine ⟨_, task, hc, hqueued, hfound, ⟨takeTask now, htasks, rfl⟩,
          ⟨beginJob progress now, fun _ => rfl, ?_⟩,
          ⟨beginDiscovery now, fun _ => rfl, hdiscoveries⟩⟩
        rw [hjobs, ← hjob]
        rfl

theorem claim_advanced {db : Database} {taskId : Id} {now : Time} {c : Claim} (hdb : Coherent db)
    (h : claim db taskId now = .ok c) :
    c = .skipped db ∨ ∃ db' task, c = .started db' ∧ task.status = .queued ∧
      Advanced db db' taskId task 1 .running := by
  unfold claim at h
  rw [bind_eq_ok] at h
  obtain ⟨task, hget, h⟩ := h
  have hfound := get_eq_ok.mp hget
  have hsame : ∀ {task'}, db.tasks.find? taskId = some task' → task' = task := by
    intro task' hfound'
    rw [hfound] at hfound'
    cases hfound'
    rfl
  -- what is prepared differs by kind, but every kind takes the task the same way
  cases hpayload : task.payload with
  | scanJob scanJobId targetIds scanners =>
      simp only [hpayload] at h
      apply claimTask_advanced hdb _ h
      intro task' prepared hfound' hprepared
      rw [hsame hfound'] at hprepared ⊢
      cases hjob : task.asyncJob with
      | none =>
          rw [hjob] at hprepared
          cases hprepared
      | some jobId =>
          simp only [hjob, bind_eq_ok] at hprepared
          obtain ⟨scanJob, _, hprepared⟩ := hprepared
          cases hprepared
          simp only [hpayload]
          exact ⟨rfl, fun db' => ⟨rfl, rfl, rfl⟩⟩
  | discovery discoveryId =>
      simp only [hpayload] at h
      apply claimTask_advanced hdb _ h
      intro task' prepared hfound' hprepared
      rw [hsame hfound'] at hprepared ⊢
      rw [bind_eq_ok] at hprepared
      obtain ⟨discovery, _, hprepared⟩ := hprepared
      cases hprepared
      simp only [hpayload, Option.map_map]
      refine ⟨?_, fun db' => ⟨rfl, rfl, rfl⟩⟩
      cases task.asyncJob <;> rfl
  | recompute request =>
      simp only [hpayload] at h
      apply claimTask_advanced hdb _ h
      intro task' prepared hfound' hprepared
      rw [hsame hfound'] at hprepared ⊢
      cases hprepared
      simp only [hpayload, Option.map_map]
      refine ⟨?_, fun db' => ⟨rfl, rfl, rfl⟩⟩
      cases task.asyncJob <;> rfl
  | qualitativeAssessment assetId =>
      simp only [hpayload] at h
      apply claimTask_advanced hdb _ h
      intro task' prepared hfound' hprepared
      rw [hsame hfound']
      -- this kind is enqueued without a job, so no job starts with it
      have hjob := hdb.jobless hfound (by rw [hpayload]; rfl)
      cases hprepared
      simp only [hpayload, hjob]
      exact ⟨rfl, fun db' => ⟨rfl, rfl, rfl⟩⟩
  | performanceRun runId snapshotId =>
      simp only [hpayload] at h
      apply claimTask_advanced hdb _ h
      intro task' prepared hfound' hprepared
      rw [hsame hfound']
      have hjob := hdb.jobless hfound (by rw [hpayload]; rfl)
      rw [bind_eq_ok] at hprepared
      obtain ⟨run, _, hprepared⟩ := hprepared
      cases hprepared
      simp only [hpayload, hjob]
      refine ⟨rfl, fun db' => ?_⟩
      by_cases hpending : run.status = .pending
      · simp [hpending]
      · simp [hpending]

theorem Coherent.job_status {db : Database} (h : Coherent db) {taskId jobId : Id}
    {task : QueuedTask} {job : AsyncJob} (htask : db.tasks.find? taskId = some task)
    (hjobId : task.asyncJob = some jobId) (hjob : db.jobs.find? jobId = some job) :
    job.status = task.status.job := by
  obtain ⟨job', hfound, _, hstatus⟩ := h.job_of_task taskId task jobId htask hjobId
  rw [hjob] at hfound
  cases hfound
  exact hstatus

/-- A commit of a completing transaction either lets a cancelled task go or completes the task, and
in the latter case may submit a follow-up. -/
def Completed (db db' : Database) (taskId : Id) (task : QueuedTask) : Prop :=
  (task.payload.revocable = true ∧ task.status = .cancelled ∧
      db' = db.saveTask taskId dropTask) ∨
    ((task.payload.revocable = true → task.status ≠ .cancelled) ∧
      ∃ mid, Advanced db mid taskId task 0 .completed ∧
        (db' = mid ∨ ∃ payload, Submitted mid db' payload))

theorem completeScanJobTask_completed {db db' : Database} {taskId : Id} {task : QueuedTask}
    {result : ScanResult} {now : Time} (hdb : Coherent db)
    (hfound : db.tasks.find? taskId = some task) (hrevocable : task.payload.revocable = true)
    (hdiscovery : ∀ discoveryId, task.payload ≠ .discovery discoveryId)
    (h : completeScanJobTask db taskId result now = .ok db') : Completed db db' taskId task := by
  unfold completeScanJobTask at h
  rw [bind_eq_ok] at h
  obtain ⟨task', hget, h⟩ := h
  rw [get_eq_ok, hfound] at hget
  cases hget
  cases hjobId : task.asyncJob with
  | none =>
      rw [hjobId] at h
      cases h
  | some jobId =>
      simp only [hjobId, bind_eq_ok] at h
      obtain ⟨job, hjob, h⟩ := h
      have hstatus := hdb.job_status hfound hjobId (get_eq_ok.mp hjob)
      by_cases hdead : job.status = .cancelled
      · rw [if_pos hdead] at h
        cases h
        rw [hdead] at hstatus
        exact .inl ⟨hrevocable, TaskStatus.job_inj hstatus.symm, rfl⟩
      · rw [if_neg hdead] at h
        right
        refine ⟨fun _ hcancelled => hdead (by rw [hstatus, hcancelled]; rfl), ?_⟩
        simp only [bind_eq_ok] at h
        obtain ⟨⟨result', db₁⟩, hcheck, h⟩ := h
        cases h
        have hadvanced : ∀ progress result',
            Advanced db ((db.saveTask taskId completeTask).saveJob jobId
              (completeJob progress result' now)) taskId task 0 .completed := by
          intro progress result'
          refine ⟨hfound, ⟨completeTask, rfl, rfl⟩, ⟨completeJob progress result' now,
            fun _ => rfl, by rw [hjobId]; rfl⟩, ⟨completeDiscovery now, fun _ => rfl, ?_⟩⟩
          cases hpayload : task.payload with
          | discovery discoveryId => exact absurd hpayload (hdiscovery discoveryId)
          | scanJob | recompute | qualitativeAssessment | performanceRun => rfl
        let total := (job.progress.bind Progress.total).getD 0
        refine ⟨_, hadvanced (.scan total total none none) (.scan result'), ?_⟩
        unfold enqueueAvailabilityCheckIfRequested at hcheck
        by_cases hflag : job.requestPayload.autoAvailabilityCheck ≠ some true
        · rw [if_pos hflag] at hcheck
          cases hcheck
          exact .inl rfl
        · rw [if_neg hflag, bind_eq_ok] at hcheck
          obtain ⟨snapshot, _, hcheck⟩ := hcheck
          cases hcheck
          exact .inr ⟨_, enqueueRun_submitted
            ((db.saveTask taskId completeTask).saveJob jobId _) _ _ .discovery .smoke now⟩

theorem enqueueFollowUpScan_cases (db : Database) (discoveryId jobId : Id) (job : AsyncJob)
    (result : DiscoveryResult) (now : Time) :
    (enqueueFollowUpScan db discoveryId jobId job result now).2 = db ∨
      ∃ targetIds flag, (enqueueFollowUpScan db discoveryId jobId job result now).2 =
        openScanJob db targetIds [.network] (some { discoveryId, jobId }) flag now := by
  unfold enqueueFollowUpScan
  split
  · exact .inl rfl
  · dsimp only
    split
    · exact .inl rfl
    · exact .inr ⟨_, _, rfl⟩

/-- The job of a follow-up scan is new, so finishing an old job commutes with opening it. -/
theorem openScanJob_saveJob_submitted (db : Database) {jobId : Id} (hfresh : jobId ≠ db.jobs.nextId)
    (targetIds : List Id) (scanners : List Scanner) (origin : Option Origin) (flag : Option Bool)
    (now : Time) (f : AsyncJob → AsyncJob) :
    ∃ payload, Submitted (db.saveJob jobId f)
      ((openScanJob db targetIds scanners origin flag now).saveJob jobId f) payload := by
  refine ⟨.scanJob db.scanJobs.nextId targetIds scanners, ⟨_, rfl, rfl, ?_, rfl, rfl⟩, ?_, rfl⟩
  · show some db.jobs.nextId = some (db.saveJob jobId f).jobs.nextId
    rw [saveJob_jobs, Table.nextId_modify]
  · exact ⟨_, rfl, rfl, Table.insert_modify db.jobs f _ hfresh⟩

theorem completeDiscoveryTask_completed {db db' : Database} {taskId discoveryId : Id}
    {task : QueuedTask} {result : DiscoveryResult} {now : Time} (hdb : Coherent db)
    (hfound : db.tasks.find? taskId = some task) (hpayload : task.payload = .discovery discoveryId)
    (h : completeDiscoveryTask db taskId discoveryId result now = .ok db') :
    Completed db db' taskId task := by
  have hrevocable : task.payload.revocable = true := by rw [hpayload]; rfl
  unfold completeDiscoveryTask at h
  rw [bind_eq_ok] at h
  obtain ⟨task', hget, h⟩ := h
  rw [get_eq_ok, hfound] at hget
  cases hget
  cases hjobId : task.asyncJob with
  | none =>
      have hkind := (hdb.owned taskId task hfound).mp hjobId
      rw [hpayload] at hkind
      cases hkind
  | some jobId =>
      simp only [hjobId, bind_eq_ok] at h
      obtain ⟨job, hjob, h⟩ := h
      rw [get_eq_ok] at hjob
      have hstatus := hdb.job_status hfound hjobId hjob
      have hfresh : jobId ≠ db.jobs.nextId := Nat.ne_of_lt (Table.lt_nextId hjob)
      -- a task cancelled meanwhile is dropped: its job has the same status
      by_cases hdead : job.status = .cancelled
      · rw [if_pos hdead] at h
        cases h
        rw [hdead] at hstatus
        exact .inl ⟨hrevocable, TaskStatus.job_inj hstatus.symm, rfl⟩
      · rw [if_neg hdead] at h
        right
        refine ⟨fun _ hcancelled => hdead (by rw [hstatus, hcancelled]; rfl), ?_⟩
        have hadvanced : ∀ progress result',
            Advanced db (((db.saveTask taskId completeTask).saveDiscovery discoveryId
              (completeDiscovery now)).saveJob jobId (completeJob progress result' now))
              taskId task 0 .completed := by
          intro progress result'
          exact ⟨hfound, ⟨completeTask, rfl, rfl⟩,
            ⟨completeJob progress result' now, fun _ => rfl, by rw [hjobId]; rfl⟩,
            ⟨completeDiscovery now, fun _ => rfl, by rw [hpayload]; rfl⟩⟩
        split at h
        · generalize hfollow : enqueueFollowUpScan _ discoveryId jobId job result now = follow at h
          obtain ⟨result', db₁⟩ := follow
          cases h
          let count := result'.endpointsCount
          refine ⟨_, hadvanced (.count count (some count) 100) (.discovery result'), ?_⟩
          -- the follow-up scan is opened before the job is saved, the event has it after
          rcases enqueueFollowUpScan_cases _ discoveryId jobId job result now with hsame | hopen
          · rw [hfollow] at hsame
            cases hsame
            exact .inl rfl
          · obtain ⟨targetIds, flag, hopen⟩ := hopen
            rw [hfollow] at hopen
            cases hopen
            exact .inr (openScanJob_saveJob_submitted
              ((db.saveTask taskId completeTask).saveDiscovery discoveryId (completeDiscovery now))
              hfresh _ _ _ _ _ _)
        · cases h
          let count := result.endpointsCount
          exact ⟨_, hadvanced (.count count (some count) 100) (.discovery result), .inl rfl⟩

/-- A task that no cancel request reaches is only ever completed. -/
theorem Advanced.completed {db db' : Database} {taskId : Id} {task : QueuedTask}
    (h : Advanced db db' taskId task 0 .completed) (hrevocable : task.payload.revocable = false) :
    Completed db db' taskId task := by
  refine .inr ⟨fun htrue => ?_, db', h, .inl rfl⟩
  rw [hrevocable] at htrue
  cases htrue

theorem completeRecomputeTask_completed {db db' : Database} {taskId : Id} {task : QueuedTask}
    {request : RecomputeRequest} {result : RecomputeResult} {now : Time}
    (hfound : db.tasks.find? taskId = some task) (hpayload : task.payload = .recompute request)
    (h : completeRecomputeTask db taskId result now = .ok db') : Completed db db' taskId task := by
  let count := result.updatedScoresCount
  let f := completeJob (.count count (some count) 100) (.recompute result) now
  apply Advanced.completed _ (by rw [hpayload]; rfl)
  simp only [completeRecomputeTask, get_bind hfound] at h
  cases hjobId : task.asyncJob with
  | none =>
      simp only [hjobId] at h
      cases h
      exact ⟨hfound, ⟨completeTask, rfl, rfl⟩, ⟨f, fun _ => rfl, by rw [hjobId]; rfl⟩,
        ⟨completeDiscovery now, fun _ => rfl, by rw [hpayload]; rfl⟩⟩
  | some jobId =>
      simp only [hjobId] at h
      cases h
      exact ⟨hfound, ⟨completeTask, rfl, rfl⟩, ⟨f, fun _ => rfl, by rw [hjobId]; rfl⟩,
        ⟨completeDiscovery now, fun _ => rfl, by rw [hpayload]; rfl⟩⟩

theorem completeJoblessTask_completed {db db' : Database} {taskId : Id} {task : QueuedTask}
    (hdb : Coherent db) (hfound : db.tasks.find? taskId = some task)
    (hkind : task.payload.kind = none) (h : completeJoblessTask db taskId = .ok db') :
    Completed db db' taskId task := by
  let f := completeJob (.count 0 none 0) (.recompute ⟨none, none, [], 0⟩) 0
  have hjobId := hdb.jobless hfound hkind
  apply Advanced.completed _ (by unfold TaskPayload.revocable; rw [hkind]; rfl)
  simp only [completeJoblessTask, get_bind hfound] at h
  cases h
  refine ⟨hfound, ⟨completeTask, rfl, rfl⟩, ⟨f, fun _ => rfl, by rw [hjobId]; rfl⟩,
    ⟨completeDiscovery 0, fun _ => rfl, ?_⟩⟩
  cases hpayload : task.payload with
  | discovery discoveryId =>
      rw [hpayload] at hkind
      cases hkind
  | scanJob | recompute | qualitativeAssessment | performanceRun => rfl

theorem complete_completed {db db' : Database} {taskId : Id} {result : BodyResult} {now : Time}
    (hdb : Coherent db) (h : complete db taskId result now = .ok db') :
    ∃ task, db.tasks.find? taskId = some task ∧ Completed db db' taskId task := by
  unfold complete at h
  rw [bind_eq_ok] at h
  obtain ⟨task, hget, h⟩ := h
  have hfound := get_eq_ok.mp hget
  refine ⟨task, hfound, ?_⟩
  cases hpayload : task.payload <;> cases result <;> simp only [hpayload] at h
  case scanJob.scanJob =>
    apply completeScanJobTask_completed hdb hfound (by rw [hpayload]; rfl) _ h
    intro discoveryId hdiscovery
    rw [hpayload] at hdiscovery
    cases hdiscovery
  case discovery.discovery => exact completeDiscoveryTask_completed hdb hfound hpayload h
  case recompute.recompute => exact completeRecomputeTask_completed hfound hpayload h
  case qualitativeAssessment.qualitativeAssessment =>
    exact completeJoblessTask_completed hdb hfound (by rw [hpayload]; rfl) h
  case performanceRun.performanceRun =>
    exact completeJoblessTask_completed hdb hfound (by rw [hpayload]; rfl) h
  all_goals cases h

/-- A task that is failed with its own job and discovery is advanced. -/
theorem advanced_failed {db db' : Database} {taskId : Id} {task : QueuedTask} {error : String}
    (now : Time) (hfound : db.tasks.find? taskId = some task)
    (htasks : db'.tasks = db.tasks.modify taskId (failTask error))
    (hjobs : db'.jobs = match task.asyncJob with
      | none => db.jobs
      | some jobId => db.jobs.modify jobId (failJob error now))
    (hdiscoveries : db'.discoveries = match task.payload with
      | .discovery discoveryId => db.discoveries.modify discoveryId (failDiscovery error now)
      | _ => db.discoveries) :
    Advanced db db' taskId task 0 .failed :=
  ⟨hfound, ⟨failTask error, htasks, rfl⟩, ⟨failJob error now, fun _ => rfl, hjobs⟩,
    ⟨failDiscovery error now, fun _ => rfl, hdiscoveries⟩⟩

/-- What the failing transactions do: none of them looks at the status of the task or of its job. -/
theorem fail_advanced {db db' : Database} {taskId : Id} {error : String} {now : Time}
    (hdb : Coherent db) (h : fail db taskId error now = .ok db') :
    ∃ task, Advanced db db' taskId task 0 .failed := by
  unfold fail at h
  rw [bind_eq_ok] at h
  obtain ⟨task, hget, h⟩ := h
  have hfound := get_eq_ok.mp hget
  refine ⟨task, ?_⟩
  -- the kinds differ in whether the task may be without a job, and in the row they mark
  cases hpayload : task.payload with
  | scanJob scanJobId targetIds scanners =>
      simp only [hpayload, failScanJobTask, get_bind hfound] at h
      cases hjobId : task.asyncJob with
      | none =>
          rw [hjobId] at h
          cases h
      | some jobId =>
          simp only [hjobId] at h
          cases h
          exact advanced_failed now hfound rfl (by rw [hjobId]; rfl) (by rw [hpayload]; rfl)
  | discovery discoveryId =>
      simp only [hpayload, failDiscoveryTask, get_bind hfound] at h
      cases hjobId : task.asyncJob with
      | none =>
          simp only [hjobId] at h
          cases h
          exact advanced_failed now hfound rfl (by rw [hjobId]; rfl) (by rw [hpayload]; rfl)
      | some jobId =>
          simp only [hjobId] at h
          cases h
          exact advanced_failed now hfound rfl (by rw [hjobId]; rfl) (by rw [hpayload]; rfl)
  | recompute request =>
      simp only [hpayload, failRecomputeTask, get_bind hfound] at h
      cases hjobId : task.asyncJob with
      | none =>
          simp only [hjobId] at h
          cases h
          exact advanced_failed now hfound rfl (by rw [hjobId]; rfl) (by rw [hpayload]; rfl)
      | some jobId =>
          simp only [hjobId] at h
          cases h
          exact advanced_failed now hfound rfl (by rw [hjobId]; rfl) (by rw [hpayload]; rfl)
  | qualitativeAssessment assetId =>
      have hjobId := hdb.jobless hfound (by rw [hpayload]; rfl)
      simp only [hpayload, failQualitativeAssessmentTask, get_bind hfound] at h
      cases h
      exact advanced_failed now hfound rfl (by rw [hjobId]; rfl) (by rw [hpayload]; rfl)
  | performanceRun runId snapshotId =>
      have hjobId := hdb.jobless hfound (by rw [hpayload]; rfl)
      simp only [hpayload, failPerformanceRunTask, get_bind hfound] at h
      cases h
      exact advanced_failed now hfound rfl (by rw [hjobId]; rfl) (by rw [hpayload]; rfl)

/-! ## 6. The cancel request -/

theorem syncCancelledResource_tasks (db : Database) (jobId : Id) (kind : JobKind)
    (finishedAt : Time) : (syncCancelledResource db jobId kind finishedAt).tasks = db.tasks := by
  unfold syncCancelledResource
  split
  · rfl
  · split <;> rfl

theorem syncCancelledResource_jobs (db : Database) (jobId : Id) (kind : JobKind)
    (finishedAt : Time) : (syncCancelledResource db jobId kind finishedAt).jobs = db.jobs := by
  unfold syncCancelledResource
  split
  · rfl
  · split <;> rfl

theorem syncCancelledResource_discoveries (db db' : Database) (jobId : Id) (kind : JobKind)
    (finishedAt : Time) (h : db'.discoveries = db.discoveries) :
    (syncCancelledResource db' jobId kind finishedAt).discoveries =
      (syncCancelledResource db jobId kind finishedAt).discoveries := by
  unfold syncCancelledResource
  rw [h]
  split
  · exact h
  · split
    · exact h
    · simp only [saveDiscovery_discoveries, h]

theorem cancelJob_revoked {db : Database} {jobId : Id} {job : AsyncJob} (now : Time)
    (hfound : db.jobs.find? jobId = some job) (hcancellable : job.Cancellable) :
    Revoked db (cancelJob db jobId now).1 jobId job := by
  obtain ⟨hcompleted, hfailed, hrecompute⟩ := hcancellable
  have hterminal : ¬ (job.status = .completed ∨ job.status = .failed) := not_or.mpr
    ⟨hcompleted, hfailed⟩
  unfold cancelJob
  rw [hfound]
  simp only [requestCancel]
  by_cases hcancelled : job.status = .cancelled
  · rw [if_pos hcancelled]
    refine ⟨hfound, ⟨hcompleted, hfailed, hrecompute⟩, ?_, ?_, ⟨job.finishedAt.getD now, ?_⟩⟩
    · rw [syncCancelledResource_tasks]
      rfl
    · rw [syncCancelledResource_jobs]
      refine ⟨_, ?_, ?_, rfl⟩
      · intro row
        rfl
      · exact hcancelled
    · apply syncCancelledResource_discoveries
      rfl
  · rw [if_neg hcancelled, if_neg hterminal, if_neg hrecompute]
    refine ⟨hfound, ⟨hcompleted, hfailed, hrecompute⟩, ?_, ?_, ⟨now, ?_⟩⟩
    · rw [syncCancelledResource_tasks]
      rfl
    · rw [syncCancelledResource_jobs]
      refine ⟨_, ?_, ?_, rfl⟩
      · intro row
        rfl
      · rfl
    · apply syncCancelledResource_discoveries
      rfl

theorem cancelJob_refused {db : Database} {jobId : Id} {job : AsyncJob} (now : Time)
    (hfound : db.jobs.find? jobId = some job) (hrefused : ¬ job.Cancellable) :
    cancelJob db jobId now = (db, .notCancellable) := by
  unfold cancelJob
  rw [hfound]
  unfold AsyncJob.Cancellable at hrefused
  simp only [requestCancel]
  by_cases hcancelled : job.status = .cancelled
  · exact absurd (by rw [hcancelled]; simp) hrefused
  · rw [if_neg hcancelled]
    by_cases hterminal : job.status = .completed ∨ job.status = .failed
    · rw [if_pos hterminal]
    · rw [not_or] at hterminal
      rw [if_neg (not_or.mpr hterminal)]
      have hrecompute : job.kind = .recompute ∧ job.status = .running := by
        by_contra hno
        exact hrefused ⟨hterminal.1, hterminal.2, hno⟩
      rw [if_pos hrecompute]

theorem cancelJob_changes (db : Database) (jobId : Id) (now : Time) :
    (cancelJob db jobId now).1 = db ∨ ∃ job, Revoked db (cancelJob db jobId now).1 jobId job := by
  cases hfound : db.jobs.find? jobId with
  | none =>
      left
      unfold cancelJob
      rw [hfound]
  | some job =>
      by_cases hcancellable : job.Cancellable
      · exact .inr ⟨job, cancelJob_revoked now hfound hcancellable⟩
      · exact .inl (congrArg Prod.fst (cancelJob_refused now hfound hcancellable))

end Jobs

end CryptoScanner
