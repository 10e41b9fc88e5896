import Mathlib.Data.List.Dedup
import CryptoScanner.Jobs.Endings

/-!
# What a step does to the rows of the jobs

Where `Changes` shows a row up to its kind and its status, this module follows the whole row: a step
saves a job in five ways only, and inserts one in two.
-/

namespace CryptoScanner

open Library

def RequestPayload.kind : RequestPayload → JobKind
  | .scanJob _ _ _ _ => .scanJob
  | .discovery _ => .discovery
  | .recompute _ => .recompute

def RequestPayload.originJob : RequestPayload → Option Id
  | .scanJob _ _ origin _ => origin.map Origin.jobId
  | _ => none

def JobResult.kind : JobResult → JobKind
  | .scan _ => .scanJob
  | .discovery _ => .discovery
  | .recompute _ => .recompute

/-- `result["follow_up"]` of a discovery job. -/
def JobResult.followUp : JobResult → Option FollowUp
  | .discovery result => result.followUp
  | _ => none

def AsyncJob.followUpScan (job : AsyncJob) : Option Id :=
  (job.result.bind JobResult.followUp).bind FollowUp.scanAsyncJobId

def AsyncJob.linked (job : AsyncJob) : Option FollowUp :=
  (job.result.bind JobResult.followUp).filter (·.scanAsyncJobId.isSome)

theorem AsyncJob.linked_eq_none {job : AsyncJob} : job.linked = none ↔ job.followUpScan = none := by
  unfold AsyncJob.linked AsyncJob.followUpScan
  cases job.result.bind JobResult.followUp with
  | none => simp
  | some followUp => simp [Option.filter_some, Option.isSome_iff_ne_none]

theorem AsyncJob.followUpScan_eq_some {job : AsyncJob} {scanId : Id} :
    job.followUpScan = some scanId ↔
      ∃ followUp, job.linked = some followUp ∧ followUp.scanAsyncJobId = some scanId := by
  unfold AsyncJob.linked AsyncJob.followUpScan
  cases job.result.bind JobResult.followUp with
  | none => simp
  | some followUp =>
      rw [Option.bind_some, Option.filter_some]
      constructor
      · intro h
        refine ⟨followUp, ?_, h⟩
        rw [h]
        rfl
      · intro h
        obtain ⟨other, hother, hscan⟩ := h
        split at hother
        · cases hother
          exact hscan
        · cases hother

/-- What of a row the correspondence of jobs and follow-ups reads. -/
def AsyncJob.links (job : AsyncJob) : RequestPayload × Option FollowUp :=
  (job.requestPayload, job.linked)

def AsyncJob.opened (resourceId : Id) (requestPayload : RequestPayload) : AsyncJob :=
  { kind := requestPayload.kind, resourceId := some resourceId, requestPayload }

namespace Jobs

open Database

/-! ## 1. How a row is saved -/

def cancelRow (now : Time) (job : AsyncJob) : AsyncJob :=
  { job with
    status := .cancelled
    cancelRequestedAt := some (job.cancelRequestedAt.getD now)
    finishedAt := some (job.finishedAt.getD now) }

/-- One save of a job's row, with what is known of the row before. -/
inductive JobSave (now : Time) (job : AsyncJob) : AsyncJob → Prop
  | progressed (progress : Option Progress) : JobSave now job { job with progress }
  | begun (progress : Progress) : job.status = .pending → JobSave now job (beginJob progress now job)
  | completed (progress : Progress) (result : JobResult) : job.status = .running →
      result.kind = job.kind → JobSave now job (completeJob progress result now job)
  | failed (error : String) : job.status = .running ∨ job.status = .cancelled →
      job.startedAt.isSome = true → JobSave now job (failJob error now job)
  | cancelled : job.Cancellable → JobSave now job (cancelRow now job)

/-- The scan that the job of a discovery opens when it completes.  The request of the discovery asks
for it, and its flag is passed on. -/
structure FollowedUp (scanJobId scanAsyncJobId jobId : Id) (request payload : RequestPayload)
    (followUp : FollowUp) (targetIds : List Id) : Prop where
  asked : request.autoScan ≠ false
  flag : followUp.autoAvailabilityCheck = request.autoAvailabilityCheck.getD true
  payload_eq : ∃ discoveryId, payload = .scanJob targetIds [.network]
    (some { discoveryId, jobId }) (some followUp.autoAvailabilityCheck)
  count : followUp.targetCount = targetIds.length
  nonempty : targetIds ≠ []
  sorted : targetIds.Pairwise (· < ·)
  scanJob : followUp.scanJobId = some scanJobId
  asyncJob : followUp.scanAsyncJobId = some scanAsyncJobId

inductive JobsChange (now : Time) (db : Database) : Database → Prop
  | same {db' : Database} : db'.jobs = db.jobs → db'.scanJobs = db.scanJobs → JobsChange now db db'
  | opened {db' : Database} (resourceId : Id) (payload : RequestPayload) :
      payload.originJob = none → db'.jobs = db.jobs.insert (.opened resourceId payload) →
      (∀ id row, db.scanJobs.find? id = some row → db'.scanJobs.find? id = some row) →
      JobsChange now db db'
  | saved {db' : Database} {jobId : Id} {f : AsyncJob → AsyncJob} :
      (∀ job, db.jobs.find? jobId = some job → JobSave now job (f job) ∧
        ((f job).result = job.result ∨ (f job).followUpScan = none)) →
      db'.jobs = db.jobs.modify jobId f → db'.scanJobs = db.scanJobs → JobsChange now db db'
  | followed {db' : Database} {jobId : Id} {job : AsyncJob} {targetIds : List Id}
      (progress : Progress) (result : DiscoveryResult) (followUp : FollowUp)
      (payload : RequestPayload) :
      db.jobs.find? jobId = some job → job.status = .running → job.kind = .discovery →
      result.followUp = some followUp →
      FollowedUp db.scanJobs.nextId db.jobs.nextId jobId job.requestPayload payload followUp
        targetIds →
      db'.jobs = (db.jobs.insert (.opened db.scanJobs.nextId payload)).modify jobId
        (completeJob progress (.discovery result) now) →
      db'.scanJobs = db.scanJobs.insert
        { asyncJob := db.jobs.nextId, targetIds, scannerSelection := [.network] } →
      JobsChange now db db'

/-- A body returns the entries of its own run; the entries of a follow-up are added to them later. -/
def BodyResult.Bare : BodyResult → Prop
  | .scanJob result => result.availability = none
  | .discovery result => result.followUp = none
  | _ => True

def FaultyAction.Bare : FaultyAction → Prop
  | .step (.finish _ result, _) => result.Bare
  | _ => True

/-- A row after the change is a new one, or an old one that was saved at most once. -/
theorem JobsChange.job_cases {now : Time} {db db' : Database} (h : JobsChange now db db')
    {id : Id} {job' : AsyncJob} (hfound : db'.jobs.find? id = some job') :
    (id = db.jobs.nextId ∧ ∃ resourceId payload, job' = .opened resourceId payload) ∨
      ∃ job, db.jobs.find? id = some job ∧ (job' = job ∨ JobSave now job job') := by
  cases h with
  | same hjobs =>
      rw [hjobs] at hfound
      exact .inr ⟨job', hfound, .inl rfl⟩
  | opened resourceId payload _ hjobs =>
      rw [hjobs, Table.find?_insert] at hfound
      by_cases hid : id = db.jobs.nextId
      · rw [if_pos hid] at hfound
        cases hfound
        exact .inl ⟨hid, resourceId, payload, rfl⟩
      · rw [if_neg hid] at hfound
        exact .inr ⟨job', hfound, .inl rfl⟩
  | @saved jobId f hsave hjobs =>
      rw [hjobs] at hfound
      by_cases hid : id = jobId
      · subst hid
        rw [Table.find?_modify_self, Option.map_eq_some_iff] at hfound
        obtain ⟨job, hold, rfl⟩ := hfound
        exact .inr ⟨job, hold, .inr (hsave job hold).1⟩
      · rw [Table.find?_modify_ne _ f hid] at hfound
        exact .inr ⟨job', hfound, .inl rfl⟩
  | @followed jobId job targetIds progress result followUp payload hold hrunning hkind _ _ hjobs =>
      rw [hjobs] at hfound
      by_cases hid : id = jobId
      · subst hid
        rw [Table.find?_modify_self, Table.find?_insert_of_find? _ hold] at hfound
        cases hfound
        exact .inr ⟨job, hold, .inr (.completed progress (.discovery result) hrunning hkind.symm)⟩
      · rw [Table.find?_modify_ne _ _ hid, Table.find?_insert] at hfound
        by_cases hnew : id = db.jobs.nextId
        · rw [if_pos hnew] at hfound
          cases hfound
          exact .inl ⟨hnew, _, payload, rfl⟩
        · rw [if_neg hnew] at hfound
          exact .inr ⟨job', hfound, .inl rfl⟩

/-- A save keeps what the job is, and the start of one that has started. -/
theorem JobSave.kept {now : Time} {job job' : AsyncJob} (h : JobSave now job job') :
    job'.kind = job.kind ∧ job'.requestPayload = job.requestPayload ∧
      (∀ t, job.startedAt = some t → job'.startedAt = some t) := by
  cases h with
  | progressed | completed | failed | cancelled => exact ⟨rfl, rfl, fun _ h => h⟩
  | begun progress =>
      refine ⟨rfl, rfl, fun t ht => ?_⟩
      show some (job.startedAt.getD now) = some t
      rw [ht]
      rfl

/-- A row that was there is there after the change, saved at most once. -/
theorem JobsChange.job_kept {now : Time} {db db' : Database} (h : JobsChange now db db')
    {id : Id} {job : AsyncJob} (hfound : db.jobs.find? id = some job) :
    ∃ job', db'.jobs.find? id = some job' ∧ (job' = job ∨ JobSave now job job') := by
  cases h with
  | same hjobs => exact ⟨job, by rw [hjobs, hfound], .inl rfl⟩
  | opened resourceId payload _ hjobs =>
      exact ⟨job, by rw [hjobs, Table.find?_insert_of_find? _ hfound], .inl rfl⟩
  | @saved jobId f hsave hjobs =>
      by_cases hid : id = jobId
      · subst hid
        refine ⟨f job, ?_, .inr (hsave job hfound).1⟩
        rw [hjobs, Table.find?_modify_self, hfound]
        rfl
      · exact ⟨job, by rw [hjobs, Table.find?_modify_ne _ f hid, hfound], .inl rfl⟩
  | @followed jobId row targetIds progress result followUp payload hold hrunning hkind _ _ hjobs =>
      have hinserted := Table.find?_insert_of_find? (.opened db.scanJobs.nextId payload) hfound
      by_cases hid : id = jobId
      · subst hid
        rw [hfound] at hold
        cases hold
        refine ⟨_, by rw [hjobs, Table.find?_modify_self, hinserted]; rfl, .inr ?_⟩
        exact .completed progress (.discovery result) hrunning hkind.symm
      · exact ⟨job, by rw [hjobs, Table.find?_modify_ne _ _ hid, hinserted], .inl rfl⟩

/-! ## 2. The transactions of the workers -/

structure ClaimedRows (db db' : Database) (taskId : Id) (now : Time) : Prop where
  jobs : db'.jobs = db.jobs ∨
    ∃ jobId progress, db'.jobs = db.jobs.modify jobId (beginJob progress now)
  scanJobs : db'.scanJobs = db.scanJobs
  /-- A task that is left as it is was cancelled. -/
  tasks : (∃ task, db.tasks.find? taskId = some task ∧ task.status = .cancelled ∧
      db'.tasks = db.tasks) ∨ db'.tasks = db.tasks.modify taskId (takeTask now) ∨
    db'.tasks = (db.tasks.modify taskId (takeTask now)).modify taskId dropTask

theorem claimTask_rows {prepare : Database → QueuedTask → Except DbError Prepared}
    {db : Database} {taskId : Id} {now : Time} {c : Claim}
    (hprepare : ∀ task prepared, prepare db task = .ok prepared →
      ∀ db', (prepared.saveResource db').jobs = db'.jobs ∧
        (prepared.saveResource db').scanJobs = db'.scanJobs ∧
        (prepared.saveResource db').tasks = db'.tasks)
    (h : claimTask prepare db taskId now = .ok c) : ClaimedRows db c.db taskId now := by
  obtain ⟨task, hfound, hcase⟩ := claimTask_cases h
  rcases hcase with ⟨hcancelled, hskip⟩ | ⟨_, prepared, hprepared, hstart⟩
  · subst hskip
    exact ⟨.inl rfl, rfl, .inl ⟨task, hfound, hcancelled, rfl⟩⟩
  · have hsave := hprepare task prepared hprepared
    rcases hstart with ⟨_, hc⟩ | ⟨jobId, progress, job, _, _, ⟨_, hc⟩ | hc⟩
    · subst hc
      obtain ⟨hjobs, hscanJobs, htasks⟩ := hsave (db.saveTask taskId (takeTask now))
      exact ⟨.inl hjobs, hscanJobs, .inr (.inl htasks)⟩
    · subst hc
      exact ⟨.inl rfl, rfl, .inr (.inr rfl)⟩
    · subst hc
      obtain ⟨hjobs, hscanJobs, htasks⟩ :=
        hsave ((db.saveTask taskId (takeTask now)).saveJob jobId (beginJob progress now))
      exact ⟨.inr ⟨jobId, progress, hjobs⟩, hscanJobs, .inr (.inl htasks)⟩

theorem claim_rows {db : Database} {taskId : Id} {now : Time} {c : Claim}
    (h : claim db taskId now = .ok c) : ClaimedRows db c.db taskId now := by
  unfold claim at h
  rw [bind_eq_ok] at h
  obtain ⟨task, _, h⟩ := h
  -- only a discovery and a performance run save their own row with the claim
  cases hpayload : task.payload with
  | scanJob scanJobId targetIds scanners =>
      simp only [hpayload] at h
      apply claimTask_rows _ h
      intro task' prepared hprepared db'
      cases hjob : task'.asyncJob with
      | none =>
          rw [hjob] at hprepared
          cases hprepared
      | some jobId =>
          simp only [hjob, bind_eq_ok] at hprepared
          obtain ⟨scanJob, _, hprepared⟩ := hprepared
          cases hprepared
          exact ⟨rfl, rfl, rfl⟩
  | discovery discoveryId =>
      simp only [hpayload] at h
      apply claimTask_rows _ h
      intro task' prepared hprepared db'
      rw [bind_eq_ok] at hprepared
      obtain ⟨discovery, _, hprepared⟩ := hprepared
      cases hprepared
      exact ⟨rfl, rfl, rfl⟩
  | recompute request =>
      simp only [hpayload] at h
      apply claimTask_rows _ h
      intro task' prepared hprepared db'
      cases hprepared
      exact ⟨rfl, rfl, rfl⟩
  | qualitativeAssessment assetId =>
      simp only [hpayload] at h
      apply claimTask_rows _ h
      intro task' prepared hprepared db'
      cases hprepared
      exact ⟨rfl, rfl, rfl⟩
  | performanceRun runId snapshotId =>
      simp only [hpayload] at h
      apply claimTask_rows _ h
      intro task' prepared hprepared db'
      rw [bind_eq_ok] at hprepared
      obtain ⟨run, _, hprepared⟩ := hprepared
      cases hprepared
      by_cases hpending : run.status = .pending
      · simp [hpending, saveRun]
      · simp [hpending]

theorem claim_change {db : Database} {taskId : Id} {now : Time} {c : Claim} (hdb : Coherent db)
    (h : claim db taskId now = .ok c) : JobsChange now db c.db := by
  obtain ⟨hjobs, hscanJobs, _⟩ := claim_rows h
  rcases claim_advanced hdb h with hskip | ⟨db', task, hstart, hqueued, hadvanced⟩
  · subst hskip
    exact .same rfl rfl
  · subst hstart
    change db'.jobs = db.jobs ∨ _ at hjobs
    rcases hjobs with hsame | ⟨jobId, progress, hjobs⟩
    · exact .same hsame hscanJobs
    · change db'.jobs = _ at hjobs
      cases howner : task.asyncJob with
      | none =>
          obtain ⟨f, _, hnone⟩ := hadvanced.jobs
          rw [howner] at hnone
          exact .same hnone hscanJobs
      | some owner =>
          obtain ⟨row, hrow, _, hstatus⟩ :=
            hdb.job_of_task taskId task owner hadvanced.found howner
          obtain ⟨row', hrow', hview⟩ := hadvanced.job_self howner hrow
          have hstatus' : row'.status = .running := congrArg JobView.status hview
          rw [hqueued] at hstatus
          -- the job of the task moves from pending to running, so it is the one that was saved
          have howns : owner = jobId := by
            by_contra hne
            rw [hjobs, Table.find?_modify_ne _ _ hne, hrow] at hrow'
            cases hrow'
            rw [hstatus] at hstatus'
            cases hstatus'
          subst howns
          refine .saved ?_ hjobs hscanJobs
          intro job hjob
          rw [hrow] at hjob
          cases hjob
          exact ⟨.begun progress hstatus, .inl rfl⟩

/-- The job of a task whose body is under way, unless it was cancelled meanwhile. -/
theorem Coherent.job_running {db : Database} (hdb : Coherent db) {taskId jobId : Id}
    {task : QueuedTask} {job : AsyncJob} (hfound : db.tasks.find? taskId = some task)
    (hactive : task.status = .running ∨ task.status = .cancelled)
    (howner : task.asyncJob = some jobId) (hjob : db.jobs.find? jobId = some job)
    (hlive : job.status ≠ .cancelled) : job.status = .running := by
  have hstatus := hdb.job_status hfound howner hjob
  rcases hactive with hrunning | hcancelled
  · rw [hstatus, hrunning]
    rfl
  · rw [hcancelled] at hstatus
    exact absurd hstatus hlive

theorem completeScanJobTask_change {db db' : Database} {taskId : Id} {task : QueuedTask}
    {result : ScanResult} {now : Time} (hdb : Coherent db)
    (hfound : db.tasks.find? taskId = some task) (hkind : task.payload.kind = some .scanJob)
    (hactive : task.status = .running ∨ task.status = .cancelled)
    (h : completeScanJobTask db taskId result now = .ok db') : JobsChange now db db' := by
  simp only [completeScanJobTask, get_bind hfound] at h
  cases howner : task.asyncJob with
  | none =>
      rw [howner] at h
      cases h
  | some jobId =>
      simp only [howner, bind_eq_ok] at h
      obtain ⟨job, hget, h⟩ := h
      have hjob := get_eq_ok.mp hget
      by_cases hdead : job.status = .cancelled
      · rw [if_pos hdead] at h
        cases h
        exact .same rfl rfl
      · rw [if_neg hdead] at h
        simp only [bind_eq_ok] at h
        obtain ⟨⟨result', db₁⟩, hcheck, h⟩ := h
        have hrows : db₁.jobs = db.jobs ∧ db₁.scanJobs = db.scanJobs := by
          unfold enqueueAvailabilityCheckIfRequested at hcheck
          by_cases hflag : job.requestPayload.autoAvailabilityCheck ≠ some true
          · rw [if_pos hflag] at hcheck
            cases hcheck
            exact ⟨rfl, rfl⟩
          · rw [if_neg hflag, bind_eq_ok] at hcheck
            obtain ⟨snapshot, _, hcheck⟩ := hcheck
            cases hcheck
            exact ⟨rfl, rfl⟩
        cases h
        let total := (job.progress.bind Progress.total).getD 0
        refine @JobsChange.saved now db _ jobId
          (completeJob (.scan total total none none) (.scan result') now) ?_ ?_ hrows.2
        · intro row hrow
          rw [hjob] at hrow
          cases hrow
          obtain ⟨row, hrow, hjobKind, _⟩ := hdb.job_of_task taskId task jobId hfound howner
          rw [hjob] at hrow
          cases hrow
          have hrunning := hdb.job_running hfound hactive howner hjob hdead
          rw [hkind, Option.some_inj] at hjobKind
          exact ⟨.completed _ _ hrunning hjobKind.symm, .inr rfl⟩
        · show db₁.jobs.modify jobId _ = _
          rw [hrows.1]

theorem promotedTargetIds_sorted (db : Database) (discoveryId : Id) :
    (promotedTargetIds db discoveryId).Pairwise (· < ·) := by
  unfold promotedTargetIds
  apply List.SortedLT.pairwise
  apply List.SortedLE.sortedLT_of_nodup
  · exact List.sortedLE_insertionSort
  · rw [List.Perm.nodup_iff (List.perm_insertionSort _ _)]
    exact List.nodup_dedup _

/-- A discovery that asks for no scan, or has no promoted target, names none; otherwise the scan is
opened under the ids that the result names. -/
theorem enqueueFollowUpScan_spec (db : Database) (discoveryId jobId : Id) (job : AsyncJob)
    {result result' : DiscoveryResult} {now : Time} {db' : Database} (hbare : result.followUp = none)
    (h : enqueueFollowUpScan db discoveryId jobId job result now = (result', db')) :
    (result'.followUp.bind FollowUp.scanAsyncJobId = none ∧ db'.jobs = db.jobs ∧
        db'.scanJobs = db.scanJobs) ∨
      ∃ followUp payload targetIds, result'.followUp = some followUp ∧
        FollowedUp db.scanJobs.nextId db.jobs.nextId jobId job.requestPayload payload followUp
          targetIds ∧
        db'.jobs = db.jobs.insert (.opened db.scanJobs.nextId payload) ∧
        db'.scanJobs = db.scanJobs.insert
          { asyncJob := db.jobs.nextId, targetIds, scannerSelection := [.network] } := by
  unfold enqueueFollowUpScan at h
  by_cases hauto : job.requestPayload.autoScan = false
  · rw [if_pos hauto] at h
    cases h
    exact .inl ⟨by rw [hbare]; rfl, rfl, rfl⟩
  · rw [if_neg hauto] at h
    dsimp only at h
    by_cases hempty : promotedTargetIds db discoveryId = []
    · rw [if_pos hempty] at h
      cases h
      exact .inl ⟨rfl, rfl, rfl⟩
    · rw [if_neg hempty] at h
      cases h
      exact .inr ⟨_, _, _, rfl, ⟨hauto, rfl, ⟨discoveryId, rfl⟩, rfl, hempty,
        promotedTargetIds_sorted db discoveryId, rfl, rfl⟩, rfl, rfl⟩

theorem completeDiscoveryTask_change {db db' : Database} {taskId discoveryId : Id}
    {task : QueuedTask} {result : DiscoveryResult} {now : Time} (hdb : Coherent db)
    (hfound : db.tasks.find? taskId = some task) (hpayload : task.payload = .discovery discoveryId)
    (hactive : task.status = .running ∨ task.status = .cancelled) (hbare : result.followUp = none)
    (h : completeDiscoveryTask db taskId discoveryId result now = .ok db') :
    JobsChange now db db' := by
  simp only [completeDiscoveryTask, get_bind hfound] at h
  cases howner : task.asyncJob with
  | none =>
      simp only [howner] at h
      cases h
      exact .same rfl rfl
  | some jobId =>
      simp only [howner, bind_eq_ok] at h
      obtain ⟨job, hget, h⟩ := h
      have hjob := get_eq_ok.mp hget
      by_cases hdead : job.status = .cancelled
      · rw [if_pos hdead] at h
        cases h
        exact .same rfl rfl
      · rw [if_neg hdead] at h
        have hrunning := hdb.job_running hfound hactive howner hjob hdead
        have hkind : job.kind = .discovery := by
          obtain ⟨row, hrow, hjobKind, _⟩ := hdb.job_of_task taskId task jobId hfound howner
          rw [hjob] at hrow
          cases hrow
          rw [hpayload] at hjobKind
          exact Option.some.inj hjobKind
        -- without a scan to open, only the row of the job is saved
        have hplain : ∀ (progress : Progress) (result' : DiscoveryResult),
            (result'.followUp.bind FollowUp.scanAsyncJobId = none) → ∀ db'',
            db''.jobs = db.jobs.modify jobId (completeJob progress (.discovery result') now) →
            db''.scanJobs = db.scanJobs → JobsChange now db db'' := by
          intro progress result' hnone db'' hjobs hscanJobs
          refine .saved ?_ hjobs hscanJobs
          intro row hrow
          rw [hjob] at hrow
          cases hrow
          exact ⟨.completed _ _ hrunning hkind.symm, .inr hnone⟩
        split at h
        · generalize hfollow : enqueueFollowUpScan _ discoveryId jobId job result now = follow at h
          obtain ⟨result', db₁⟩ := follow
          cases h
          let count := result'.endpointsCount
          rcases enqueueFollowUpScan_spec _ discoveryId jobId job hbare hfollow with
            ⟨hnone, hjobs, hscanJobs⟩ | ⟨followUp, payload, targetIds, hsome, hspec, hjobs, hscanJobs⟩
          · refine hplain (.count count (some count) 100) result' hnone _ ?_ hscanJobs
            show db₁.jobs.modify jobId _ = _
            rw [hjobs]
            rfl
          · refine .followed (.count count (some count) 100) result' followUp payload hjob hrunning
              hkind hsome hspec ?_ hscanJobs
            show db₁.jobs.modify jobId _ = _
            rw [hjobs]
            rfl
        · cases h
          exact hplain _ result (by rw [hbare]; rfl) _ rfl rfl

theorem complete_change {db db' : Database} {taskId : Id} {task : QueuedTask} {result : BodyResult}
    {now : Time} (hdb : Coherent db) (hfound : db.tasks.find? taskId = some task)
    (hactive : task.status = .running ∨ task.status = .cancelled ∧ task.payload.revocable = true)
    (hbare : result.Bare) (h : complete db taskId result now = .ok db') : JobsChange now db db' := by
  have hended : task.status = .running ∨ task.status = .cancelled := hactive.imp_right And.left
  simp only [complete, get_bind hfound] at h
  cases hpayload : task.payload <;> cases result <;> simp only [hpayload] at h
  case scanJob.scanJob =>
    exact completeScanJobTask_change hdb hfound (by rw [hpayload]; rfl) hended h
  case discovery.discovery =>
    exact completeDiscoveryTask_change hdb hfound hpayload hended hbare h
  case recompute.recompute request result =>
    simp only [completeRecomputeTask, get_bind hfound] at h
    cases howner : task.asyncJob with
    | none =>
        simp only [howner] at h
        cases h
        exact .same rfl rfl
    | some jobId =>
        simp only [howner] at h
        cases h
        let count := result.updatedScoresCount
        refine @JobsChange.saved now db _ jobId
          (completeJob (.count count (some count) 100) (.recompute result) now) ?_ rfl rfl
        intro job hjob
        obtain ⟨row, hrow, hjobKind, hstatus⟩ := hdb.job_of_task taskId task jobId hfound howner
        rw [hjob] at hrow
        cases hrow
        -- a recompute is not cancelled while it runs
        have hrunning : task.status = .running := by
          rcases hactive with hrunning | ⟨_, hrevocable⟩
          · exact hrunning
          · rw [hpayload] at hrevocable
            cases hrevocable
        rw [hrunning] at hstatus
        rw [hpayload] at hjobKind
        exact ⟨.completed _ _ hstatus (Option.some.inj hjobKind).symm, .inr rfl⟩
  case qualitativeAssessment.qualitativeAssessment =>
    simp only [completeJoblessTask, get_bind hfound] at h
    cases h
    exact .same rfl rfl
  case performanceRun.performanceRun =>
    simp only [completeJoblessTask, get_bind hfound] at h
    cases h
    exact .same rfl rfl
  all_goals cases h

/-- The failing transactions save the job of the task, whatever its status. -/
theorem fail_change {db db' : Database} {taskId : Id} {task : QueuedTask} {error : String}
    {now : Time} (hdb : Coherent db) (hfound : db.tasks.find? taskId = some task)
    (hactive : task.status = .running ∨ task.status = .cancelled)
    (hstarted : ∀ jobId job, task.asyncJob = some jobId → db.jobs.find? jobId = some job →
      job.startedAt.isSome = true)
    (h : fail db taskId error now = .ok db') : JobsChange now db db' := by
  -- a body that raises was started, so its job has begun
  have hsaved : ∀ jobId db'', task.asyncJob = some jobId →
      db''.jobs = db.jobs.modify jobId (failJob error now) → db''.scanJobs = db.scanJobs →
      JobsChange now db db'' := by
    intro jobId db'' howner hjobs hscanJobs
    refine .saved ?_ hjobs hscanJobs
    intro job hjob
    refine ⟨.failed error ?_ (hstarted jobId job howner hjob), .inl rfl⟩
    have hstatus := hdb.job_status hfound howner hjob
    rcases hactive with hrunning | hcancelled
    · exact .inl (by rw [hstatus, hrunning]; rfl)
    · exact .inr (by rw [hstatus, hcancelled]; rfl)
  simp only [fail, get_bind hfound] at h
  cases hpayload : task.payload with
  | scanJob scanJobId targetIds scanners =>
      simp only [hpayload, failScanJobTask, get_bind hfound] at h
      cases howner : task.asyncJob with
      | none =>
          rw [howner] at h
          cases h
      | some jobId =>
          simp only [howner] at h
          cases h
          exact hsaved jobId _ howner rfl rfl
  | discovery discoveryId =>
      simp only [hpayload, failDiscoveryTask, get_bind hfound] at h
      cases howner : task.asyncJob with
      | none =>
          simp only [howner] at h
          cases h
          exact .same rfl rfl
      | some jobId =>
          simp only [howner] at h
          cases h
          exact hsaved jobId _ howner rfl rfl
  | recompute request =>
      simp only [hpayload, failRecomputeTask, get_bind hfound] at h
      cases howner : task.asyncJob with
      | none =>
          simp only [howner] at h
          cases h
          exact .same rfl rfl
      | some jobId =>
          simp only [howner] at h
          cases h
          exact hsaved jobId _ howner rfl rfl
  | qualitativeAssessment assetId =>
      simp only [hpayload, failQualitativeAssessmentTask, get_bind hfound] at h
      cases h
      exact .same rfl rfl
  | performanceRun runId snapshotId =>
      simp only [hpayload, failPerformanceRunTask, get_bind hfound] at h
      cases h
      exact .same rfl rfl

/-! ## 3. The steps of the system -/

theorem requestCancel_change {db db' : Database} {jobId : Id} {job : AsyncJob} {now : Time}
    (hjob : db.jobs.find? jobId = some job) (h : requestCancel db jobId job now = some db') :
    JobsChange now db db' := by
  have hscan : ∀ (db₁ : Database) kind finishedAt,
      (syncCancelledResource db₁ jobId kind finishedAt).scanJobs = db₁.scanJobs := by
    intro db₁ kind finishedAt
    unfold syncCancelledResource
    split
    · rfl
    · split <;> rfl
  -- both branches save the row as `cancelRow` has it
  have hsaved : ∀ (f : AsyncJob → AsyncJob) kind finishedAt, job.Cancellable →
      f job = cancelRow now job →
      JobsChange now db (syncCancelledResource (cancelQueuedTasks (db.saveJob jobId f) jobId) jobId
        kind finishedAt) := by
    intro f kind finishedAt hcancellable hf
    refine @JobsChange.saved now db _ jobId f ?_ ?_ ?_
    · intro row hrow
      rw [hjob] at hrow
      cases hrow
      rw [hf]
      exact ⟨.cancelled hcancellable, .inl rfl⟩
    · rw [syncCancelledResource_jobs]
      rfl
    · rw [hscan]
      rfl
  unfold requestCancel at h
  by_cases hcancelled : job.status = .cancelled
  · rw [if_pos hcancelled] at h
    cases h
    apply hsaved
    · unfold AsyncJob.Cancellable
      rw [hcancelled]
      simp
    · unfold cancelRow
      rw [hcancelled]
  · rw [if_neg hcancelled] at h
    by_cases hterminal : job.status = .completed ∨ job.status = .failed
    · rw [if_pos hterminal] at h
      cases h
    · rw [if_neg hterminal] at h
      by_cases hrecompute : job.kind = .recompute ∧ job.status = .running
      · rw [if_pos hrecompute] at h
        cases h
      · rw [if_neg hrecompute] at h
        cases h
        rw [not_or] at hterminal
        exact hsaved _ _ _ ⟨hterminal.1, hterminal.2, hrecompute⟩ rfl

theorem cancelJob_change (db : Database) (jobId : Id) (now : Time) :
    JobsChange now db (cancelJob db jobId now).1 := by
  unfold cancelJob
  cases hjob : db.jobs.find? jobId with
  | none => exact .same rfl rfl
  | some job =>
      cases hcancel : requestCancel db jobId job now with
      | none =>
          simp only [hcancel]
          exact .same rfl rfl
      | some db' =>
          simp only [hcancel]
          exact requestCancel_change hjob hcancel

/-- The job of a task that a worker is in has started. -/
def BodiesStarted (s : System) : Prop :=
  ∀ worker taskId task jobId job, s.busy worker = some taskId →
    s.db.tasks.find? taskId = some task → task.asyncJob = some jobId →
    s.db.jobs.find? jobId = some job → job.startedAt.isSome = true

theorem step_change {s s' : System} {action : Action} {now : Time} (hs : Sound s)
    (hstarted : BodiesStarted s) (hbare : (FaultyAction.step (action, now)).Bare)
    (h : step s (action, now) = some s') : JobsChange now s.db s'.db := by
  have hkeep : ∀ (jobs : Table ScanJob) (row : ScanJob) id found,
      jobs.find? id = some found → (jobs.insert row).find? id = some found :=
    fun _ row _ _ hfound => Table.find?_insert_of_find? row hfound
  cases action with
  | createScanJob targetIds scanners =>
      cases h
      exact .opened s.db.scanJobs.nextId (.scanJob targetIds scanners none none) rfl rfl
        (hkeep _ _)
  -- a scope that is known reopens its discovery, one that is not goes to the insertion
  | createDiscovery request =>
      simp only [step] at h
      split at h
      · cases h
        exact .same rfl rfl
      · rename_i discoveryId _
        rw [Option.bind_eq_bind, Option.bind_eq_some_iff] at h
        obtain ⟨discovery, _, h⟩ := h
        by_cases hactive : discovery.status = .pending ∨ discovery.status = .running
        · rw [if_pos hactive] at h
          cases h
          exact .same rfl rfl
        · rw [if_neg hactive] at h
          cases h
          exact .opened discoveryId (.discovery request) rfl rfl fun _ _ hfound => hfound
  | insertDiscovery index =>
      simp only [step, Option.bind_eq_bind, Option.bind_eq_some_iff] at h
      obtain ⟨request, _, h⟩ := h
      cases h
      exact .opened s.db.discoveries.nextId (.discovery request) rfl rfl fun _ _ hfound => hfound
  | createRecomputeJob request =>
      cases h
      exact .opened s.db.jobs.nextId (.recompute request) rfl rfl fun _ _ hfound => hfound
  | enqueueQualitativeAssessment assetId =>
      cases h
      exact .same rfl rfl
  | createRun snapshotId trigger profile autoStart =>
      cases h
      cases autoStart <;> exact .same rfl rfl
  | cancel jobId =>
      cases h
      exact cancelJob_change s.db jobId now
  -- what a claim writes is the subject of `claim_change`; a claim that fails rolls back
  | claim worker taskId =>
      simp only [step] at h
      cases hbusy : s.busy worker with
      | some other =>
          rw [hbusy] at h
          cases h
      | none =>
          rw [hbusy] at h
          cases hclaim : claim s.db taskId now with
          | error e =>
              simp only [hclaim] at h
              cases h
              exact .same rfl rfl
          | ok c =>
              have hchange := claim_change hs.coherent hclaim
              simp only [hclaim] at h
              cases c <;>
              · cases h
                exact hchange
  -- of the writes of a body only the progress of a scan reaches a job
  | write worker write =>
      simp only [step, Option.bind_eq_bind, Option.bind_eq_some_iff] at h
      obtain ⟨taskId, _, task, _, h⟩ := h
      cases h
      cases write with
      | updateProgress completed total target scanner =>
          show JobsChange now s.db
            (bodyWrite s.db task now (.updateProgress completed total target scanner))
          unfold bodyWrite
          cases task.asyncJob with
          | none => exact .same rfl rfl
          | some jobId =>
              exact .saved (fun job _ =>
                ⟨.progressed (some (.scan completed total (some target) (some scanner))), .inl rfl⟩)
                rfl rfl
      | saveSnapshot snapshot => exact .same rfl rfl
      | saveEndpoint endpoint => exact .same rfl rfl
      | updateRun status runner =>
          show JobsChange now s.db (bodyWrite s.db task now (.updateRun status runner))
          unfold bodyWrite
          cases task.payload <;> exact .same rfl rfl
  -- a completing transaction that fails leaves the rows as they were
  | finish worker result =>
      simp only [step, Option.bind_eq_bind, Option.bind_eq_some_iff] at h
      obtain ⟨taskId, hbusy, h⟩ := h
      cases h
      obtain ⟨task, hfound, hactive⟩ := busy_task hs.valid hbusy
      cases hcomplete : complete s.db taskId result now with
      | error e => exact .same rfl rfl
      | ok db' => exact complete_change hs.coherent hfound hactive hbare hcomplete
  | raise worker error =>
      simp only [step, Option.bind_eq_bind, Option.bind_eq_some_iff] at h
      obtain ⟨taskId, hbusy, h⟩ := h
      cases h
      obtain ⟨task, hfound, hactive⟩ := busy_task hs.valid hbusy
      cases hfail : fail s.db taskId error now with
      | error e => exact .same rfl rfl
      | ok db' =>
          exact fail_change hs.coherent hfound (hactive.imp_right And.left)
            (hstarted worker taskId task · · hbusy hfound) hfail

/-- A worker that has just got into a body holds a running task. -/
theorem step_busy {s s' : System} {a : Action × Time} (hs : Sound s) (h : step s a = some s')
    {worker : WorkerId} {taskId : Id} (hbusy : s'.busy worker = some taskId) :
    s.busy worker = some taskId ∨
      ∃ task, s'.db.tasks.find? taskId = some task ∧ task.status = .running := by
  -- a worker that is let go holds nothing
  have hreleased : ∀ other : WorkerId, (s.release other).busy worker = some taskId →
      s.busy worker = some taskId := by
    intro other hother
    change Function.update s.busy other none worker = some taskId at hother
    by_cases heq : worker = other
    · subst heq
      rw [Function.update_self] at hother
      cases hother
    · rwa [Function.update_of_ne heq] at hother
  obtain ⟨action, now⟩ := a
  cases action with
  | createScanJob | createRecomputeJob | enqueueQualitativeAssessment | createRun | cancel =>
      cases h
      exact .inl hbusy
  | createDiscovery request =>
      simp only [step] at h
      split at h
      · cases h
        exact .inl hbusy
      · rw [Option.bind_eq_bind, Option.bind_eq_some_iff] at h
        obtain ⟨discovery, _, h⟩ := h
        split at h <;>
        · cases h
          exact .inl hbusy
  | insertDiscovery index =>
      simp only [step, Option.bind_eq_bind, Option.bind_eq_some_iff] at h
      obtain ⟨request, _, h⟩ := h
      cases h
      exact .inl hbusy
  | claim other claimed =>
      simp only [step] at h
      cases hidle : s.busy other with
      | some current =>
          rw [hidle] at h
          cases h
      | none =>
          rw [hidle] at h
          cases hclaim : claim s.db claimed now with
          | error e =>
              simp only [hclaim] at h
              cases h
              exact .inl hbusy
          | ok c =>
              -- the claim skips a cancelled task, or starts the one that the worker then holds
              rcases claim_advanced hs.coherent hclaim with hskip | ⟨db', task, hstart, _, hadv⟩
              · subst hskip
                simp only [hclaim] at h
                cases h
                exact .inl hbusy
              · subst hstart
                simp only [hclaim] at h
                cases h
                change Function.update s.busy other (some claimed) worker = some taskId at hbusy
                by_cases heq : worker = other
                · subst heq
                  rw [Function.update_self] at hbusy
                  cases hbusy
                  obtain ⟨task', hfound, hview⟩ := hadv.task_self
                  exact .inr ⟨task', hfound, congrArg TaskView.status hview⟩
                · rw [Function.update_of_ne heq] at hbusy
                  exact .inl hbusy
  | write other write =>
      simp only [step, Option.bind_eq_bind, Option.bind_eq_some_iff] at h
      obtain ⟨held, _, task, _, h⟩ := h
      cases h
      exact .inl hbusy
  | finish other result =>
      simp only [step, Option.bind_eq_bind, Option.bind_eq_some_iff] at h
      obtain ⟨held, _, h⟩ := h
      cases h
      left
      apply hreleased other
      cases hcomplete : complete s.db held result now <;>
      · rw [hcomplete] at hbusy
        exact hbusy
  | raise other error =>
      simp only [step, Option.bind_eq_bind, Option.bind_eq_some_iff] at h
      obtain ⟨held, _, h⟩ := h
      cases h
      left
      apply hreleased other
      cases hfail : fail s.db held error now <;>
      · rw [hfail] at hbusy
        exact hbusy

end Jobs

end CryptoScanner
