import CryptoScanner.Jobs.Simulation

/-!
# What the queue guarantees over whole runs

Runs start from a population of queued jobs and interleave any number of workers and API requests.
A body is started at most once in every run.  A job that has ended keeps its status in every run in
which no body raises after its job was cancelled; without that condition it does not.
-/

namespace CryptoScanner.Jobs

open Library Database

/-! ## 1. Populations of queued jobs -/

/-- Only queued work: every job is pending with its one queued task, and no worker has started. -/
structure Populated (s : System) : Prop where
  jobs_pending : ∀ jobId job, s.db.jobs.find? jobId = some job → job.status = .pending
  tasks_queued : ∀ taskId task, s.db.tasks.find? taskId = some task →
    task.status = .queued ∧ task.attempts = 0
  coherent : Coherent s.db
  idle : ∀ worker, s.busy worker = none
  unstarted : s.started = []
  unposted : s.posting = []

def emptySystem : System :=
  { db := {}, busy := fun _ => none, started := [], posting := [] }

theorem emptySystem_populated : Populated emptySystem := by
  have hjobs : ∀ id, emptySystem.db.jobs.find? id = none := fun _ => rfl
  have htasks : ∀ id, emptySystem.db.tasks.find? id = none := fun _ => rfl
  refine ⟨?_, ?_, ⟨?_, ?_, ?_, ?_⟩, fun _ => rfl, rfl, rfl⟩
  · intro jobId job h
    rw [hjobs] at h
    cases h
  · intro taskId task h
    rw [htasks] at h
    cases h
  · intro taskId task h
    rw [htasks] at h
    cases h
  · intro taskId task jobId h
    rw [htasks] at h
    cases h
  · intro jobId job h
    rw [hjobs] at h
    cases h
  · intro taskId taskId' task task' jobId h
    rw [htasks] at h
    cases h

/-- Submitting work to a population gives a population. -/
theorem Populated.submitted {s : System} {db' : Database} {payload : TaskPayload}
    (h : Populated s) (hsubmitted : Submitted s.db db' payload) :
    Populated { s with db := db' } where
  jobs_pending := by
    intro jobId job hfound
    rcases hsubmitted.job_cases hfound with ⟨_, _, hstatus⟩ | hold
    · exact hstatus
    · exact h.jobs_pending jobId job hold
  tasks_queued := by
    intro taskId task hfound
    rcases hsubmitted.task_cases hfound with ⟨_, hview⟩ | hold
    · simp only [QueuedTask.view, TaskView.mk.injEq] at hview
      exact ⟨hview.1, hview.2.1⟩
    · exact h.tasks_queued taskId task hold
  coherent := hsubmitted.coherent h.coherent
  idle := h.idle
  unstarted := h.unstarted
  unposted := h.unposted

theorem Populated.valid {s : System} (h : Populated s) : s.queue.Valid := by
  have hitem : ∀ id it, s.queue.item id = some it → it.phase = .waiting ∧ it.attempts = 0 := by
    intro id it hit
    have hmap : (s.db.tasks.find? id).map QueuedTask.item = some it := hit
    rw [Option.map_eq_some_iff] at hmap
    obtain ⟨task, hfound, rfl⟩ := hmap
    obtain ⟨hstatus, hattempts⟩ := h.tasks_queued id task hfound
    refine ⟨?_, hattempts⟩
    show task.status.phase = .waiting
    rw [hstatus]
    rfl
  have hstarted : s.queue.started = [] := h.unstarted
  have hidle : ∀ worker, s.queue.executing worker = none := h.idle
  refine ⟨?_, ?_, ?_, ?_, ?_, ?_⟩
  · intro id it hit _
    exact (hitem id it hit).2
  · intro id it hit
    rw [(hitem id it hit).2]
    exact Nat.zero_le 1
  · intro worker id hmem
    rw [hstarted] at hmem
    cases hmem
  · rw [hstarted]
    exact List.nodup_nil
  · intro worker id hbusy
    rw [hidle] at hbusy
    cases hbusy
  · intro worker id hbusy
    rw [hidle] at hbusy
    cases hbusy

/-! ## 2. Runs -/

/-- The invariant of every run. -/
structure Sound (s : System) : Prop where
  coherent : Coherent s.db
  valid : s.queue.Valid

theorem Populated.sound {s : System} (h : Populated s) : Sound s := ⟨h.coherent, h.valid⟩

theorem Event.asyncJob {mayFail : Database → QueuedTask → Prop} {s s' : System}
    (h : Event mayFail s s') {taskId : Id} {task : QueuedTask}
    (hfound : s.db.tasks.find? taskId = some task) :
    ∃ task', s'.db.tasks.find? taskId = some task' ∧ task'.asyncJob = task.asyncJob := by
  have hadvanced : ∀ {id : Id} {row : QueuedTask} {starts : Nat} {status : TaskStatus},
      Advanced s.db s'.db id row starts status →
      ∃ task', s'.db.tasks.find? taskId = some task' ∧ task'.asyncJob = task.asyncJob := by
    intro id row starts status hchange
    by_cases hid : taskId = id
    · subst hid
      obtain ⟨task', hnew, hview⟩ := hchange.task_self
      rw [hchange.found] at hfound
      cases hfound
      simp only [QueuedTask.view, TaskView.mk.injEq] at hview
      exact ⟨task', hnew, hview.2.2.1⟩
    · exact ⟨task, by rw [hchange.task_other hid, hfound], rfl⟩
  cases h with
  | quiet hchange =>
      obtain ⟨task', hnew, hview⟩ := hchange.tasks.of_find? hfound
      exact ⟨task', hnew, (QueuedTask.view_eq hview).2.2.1⟩
  | submitted hchange => exact ⟨task, hchange.task_old hfound, rfl⟩
  | claimed _ _ hchange => exact hadvanced hchange
  | completed _ _ hchange => exact hadvanced hchange
  | failed _ _ hchange => exact hadvanced hchange
  | released _ hchange =>
      obtain ⟨task', hnew, hview⟩ := hchange.tasks.of_find? hfound
      exact ⟨task', hnew, (QueuedTask.view_eq hview).2.2.1⟩
  | @revoked jobId _ hchange =>
      refine ⟨revokeTask jobId task, ?_, revokeTask_asyncJob jobId task⟩
      rw [hchange.find?_task, hfound]
      rfl

/-- Which items may fail, when `mayFail` says which tasks may. -/
def Admits (mayFail : Database → QueuedTask → Prop) (mayFailItem : Item → Prop) : Prop :=
  ∀ db taskId task, Coherent db → db.tasks.find? taskId = some task → mayFail db task →
    (task.status = .running ∨ task.status = .cancelled ∧ task.payload.revocable = true) →
    mayFailItem task.item

/-- `s'` is later than `s`: the work queue has taken steps, and every task is there with its owner. -/
structure Later (mayFailItem : Item → Prop) (s s' : System) : Prop where
  steps : WorkQueue.Steps mayFailItem s.queue s'.queue
  owner : ∀ taskId task, s.db.tasks.find? taskId = some task →
    ∃ task', s'.db.tasks.find? taskId = some task' ∧ task'.asyncJob = task.asyncJob

theorem Later.refl (mayFailItem : Item → Prop) (s : System) : Later mayFailItem s s :=
  ⟨.refl, fun _ task hfound => ⟨task, hfound, rfl⟩⟩

theorem Later.trans {mayFailItem : Item → Prop} {s t u : System} (h : Later mayFailItem s t)
    (h' : Later mayFailItem t u) : Later mayFailItem s u := by
  refine ⟨h.steps.trans h'.steps, ?_⟩
  intro taskId task hfound
  obtain ⟨task', hfound', howner⟩ := h.owner taskId task hfound
  obtain ⟨task'', hfound'', howner'⟩ := h'.owner taskId task' hfound'
  exact ⟨task'', hfound'', howner'.trans howner⟩

theorem Event.sound {mayFail : Database → QueuedTask → Prop} {mayFailItem : Item → Prop}
    {s s' : System} (hadmits : Admits mayFail mayFailItem) (h : Event mayFail s s')
    (hs : Sound s) : Sound s' ∧ Later mayFailItem s s' := by
  have hsteps := h.simulates hs.coherent hs.valid fun taskId task hfound =>
    hadmits s.db taskId task hs.coherent hfound
  exact ⟨⟨h.coherent hs.coherent, hsteps.valid hs.valid⟩, hsteps, fun _ _ => h.asyncJob⟩

theorem Events.sound {mayFail : Database → QueuedTask → Prop} {mayFailItem : Item → Prop}
    {s s' : System} (hadmits : Admits mayFail mayFailItem) (h : Events mayFail s s')
    (hs : Sound s) : Sound s' ∧ Later mayFailItem s s' := by
  induction h with
  | refl => exact ⟨hs, .refl _ _⟩
  | tail _ hevent ih =>
      obtain ⟨hsound, hlater⟩ := ih
      obtain ⟨hsound', hlater'⟩ := hevent.sound hadmits hsound
      exact ⟨hsound', hlater.trans hlater'⟩

/-- **Refinement.**  Every run keeps the invariant and is a run of the abstract work queue. -/
theorem run_sound {mayFail : Database → QueuedTask → Prop} {mayFailItem : Item → Prop}
    {s s' : System} {as : List (Action × Time)} (hadmits : Admits mayFail mayFailItem)
    (h : Run step (FailGuard mayFail) s as s') (hs : Sound s) :
    Sound s' ∧ Later mayFailItem s s' := by
  induction h with
  | nil s => exact ⟨hs, .refl _ s⟩
  | cons hguard hstep _ ih =>
      obtain ⟨hsound, hlater⟩ := (step_events hs.coherent hguard hstep).sound hadmits hs
      obtain ⟨hsound', hlater'⟩ := ih hsound
      exact ⟨hsound', hlater.trans hlater'⟩

/-- The case without a condition on the bodies that raise. -/
theorem run_sound_any {s s' : System} {as : List (Action × Time)} (h : Run step anyStep s as s')
    (hs : Sound s) : Sound s' ∧ Later (fun _ => True) s s' := by
  have hrun : Run step (FailGuard fun _ _ => True) s as s' :=
    h.weaken fun _ _ _ _ _ _ _ _ _ _ _ => trivial
  exact run_sound (fun _ _ _ _ _ _ _ => trivial) hrun hs

/-! ## 3. At most one start -/

/-- **At-most-once execution.**  In every run a task's body is started at most once, by whichever
worker, its attempts never exceed one, and if its job is cancelled while it is still queued then it
is never started. -/
theorem body_started_at_most_once {s₀ s : System} {as : List (Action × Time)} (h₀ : Populated s₀)
    (hrun : Run step anyStep s₀ as s) :
    (s.started.map Prod.snd).Nodup ∧
      (∀ taskId task, s.db.tasks.find? taskId = some task → task.attempts ≤ 1) ∧
      ∀ taskId task jobId now t bs u, s.db.tasks.find? taskId = some task →
        task.status = .queued → task.asyncJob = some jobId →
        step s (.cancel jobId, now) = some t → Run step anyStep t bs u →
        ∀ worker, (worker, taskId) ∉ u.started := by
  obtain ⟨hsound, _⟩ := run_sound_any hrun h₀.sound
  refine ⟨hsound.valid.started_nodup, ?_, ?_⟩
  · intro taskId task hfound
    exact hsound.valid.attempts_le_one taskId task.item (queue_item hfound)
  · intro taskId task jobId now t bs u hfound hqueued howner hcancel hrest worker hmem
    obtain ⟨hsoundT, _⟩ := run_sound_any (.single trivial hcancel) hsound
    obtain ⟨_, hlater⟩ := run_sound_any hrest hsoundT
    cases hcancel
    -- the job is pending with its task, so the request is accepted and the task is withdrawn
    obtain ⟨job, hjob, _, hstatus⟩ := hsound.coherent.job_of_task taskId task jobId hfound howner
    rw [hqueued] at hstatus
    have hcancellable : job.Cancellable := by
      refine ⟨?_, ?_, ?_⟩ <;> rw [hstatus] <;> simp [TaskStatus.job]
    have hrevoked := cancelJob_revoked now hjob hcancellable
    have hwithdrawn : (cancelJob s.db jobId now).1.tasks.find? taskId =
        some (revokeTask jobId task) := by
      rw [hrevoked.find?_task, hfound]
      rfl
    have hphase : (revokeTask jobId task).item.phase ≠ .waiting := by
      unfold revokeTask
      rw [if_pos ⟨howner, .inl hqueued⟩]
      show Phase.withdrawn ≠ .waiting
      decide
    obtain ⟨_, hback⟩ := hlater.steps.not_restarted (queue_item hwithdrawn) hphase
    have hbefore : (worker, taskId) ∈ s.queue.started := hback worker hmem
    refine hsound.valid.not_started_of_waiting (queue_item hfound) ?_ hbefore
    show task.status.phase = .waiting
    rw [hqueued]
    rfl

def queuedScan : System := { emptySystem with db := createScanJob {} [0] [.network] 0 }

theorem queuedScan_populated : Populated queuedScan := by
  obtain ⟨payload, hsubmitted⟩ :=
    openScanJob_submitted emptySystem.db [0] [.network] none none 0
  exact emptySystem_populated.submitted hsubmitted

/-- Two workers race for one task: the second claim finds it taken, and a scan that is cancelled
before any claim is not started by a later one. -/
theorem queuedScan_started_at_most_once :
    (∃ s, Run step anyStep queuedScan [(.claim 0 0, 1), (.claim 1 0, 2)] s ∧
      s.started = [(0, 0)] ∧ (s.started.map Prod.snd).Nodup) ∧
    ∃ t u, step queuedScan (.cancel 0, 1) = some t ∧ Run step anyStep t [(.claim 0 0, 2)] u ∧
      ∀ worker, (worker, 0) ∉ u.started := by
  constructor
  · obtain ⟨s, hrun, hstarted⟩ : ∃ s,
        Run step anyStep queuedScan [(.claim 0 0, 1), (.claim 1 0, 2)] s ∧
          s.started = [(0, 0)] :=
      ⟨_, .cons trivial rfl (.cons trivial rfl (.nil _)), rfl⟩
    exact ⟨s, hrun, hstarted, (body_started_at_most_once queuedScan_populated hrun).1⟩
  · obtain ⟨t, hcancel, u, hclaim⟩ : ∃ t, step queuedScan (.cancel 0, 1) = some t ∧
        ∃ u, Run step anyStep t [(.claim 0 0, 2)] u :=
      ⟨_, rfl, _, .cons trivial rfl (.nil _)⟩
    have honce := body_started_at_most_once queuedScan_populated (.nil queuedScan)
    exact ⟨t, u, hcancel, hclaim, honce.2.2 0 _ 0 1 t _ u rfl rfl rfl hcancel hclaim⟩

/-! ## 4. Ended jobs -/

def AsyncJobEnded (job : AsyncJob) : Prop :=
  job.status = .completed ∨ job.status = .failed ∨ job.status = .cancelled

/-- Every job that has ended in `s` has the same status in `s'`, and so has its task. -/
def EndedJobsKept (s s' : System) : Prop :=
  ∀ jobId job, s.db.jobs.find? jobId = some job → AsyncJobEnded job →
    (∃ job', s'.db.jobs.find? jobId = some job' ∧ job'.status = job.status) ∧
      ∀ taskId task, s.db.tasks.find? taskId = some task → task.asyncJob = some jobId →
        ∃ task', s'.db.tasks.find? taskId = some task' ∧ task'.status = task.status

def JobNotCancelled (db : Database) (task : QueuedTask) : Prop :=
  ∀ jobId job, task.asyncJob = some jobId → db.jobs.find? jobId = some job →
    job.status ≠ .cancelled

/-- No body raises in this step, or it raises while its job is not cancelled. -/
abbrev NoRaiseAfterCancel : System → Action × Time → Prop := FailGuard JobNotCancelled

theorem admits_jobNotCancelled : Admits JobNotCancelled fun it => it.phase = .executing := by
  intro db taskId task hdb hfound hnot hstatus
  rcases hstatus with hrunning | ⟨hcancelled, hrevocable⟩
  · show task.status.phase = .executing
    rw [hrunning]
    rfl
  · obtain ⟨jobId, job, howner, hjob, hjobStatus⟩ :=
      hdb.job_cancelled hfound hrevocable hcancelled
    exact absurd hjobStatus (hnot jobId job howner hjob)

theorem TaskStatus.phase_inj {a b : TaskStatus} (h : a.phase = b.phase) : a = b := by
  cases a <;> cases b <;> first | rfl | cases h

/-- **Ended jobs stay ended.**  In every run in which no body raises after its job was cancelled, a
completed, failed or cancelled job keeps its status, and its task keeps its own. -/
theorem ended_jobs_kept {s₀ s s' : System} {as bs : List (Action × Time)} (h₀ : Populated s₀)
    (h₁ : Run step NoRaiseAfterCancel s₀ as s) (h₂ : Run step NoRaiseAfterCancel s bs s') :
    EndedJobsKept s s' := by
  obtain ⟨hsound, _⟩ := run_sound admits_jobNotCancelled h₁ h₀.sound
  obtain ⟨hsound', hlater⟩ := run_sound admits_jobNotCancelled h₂ hsound
  intro jobId job hjob hended
  obtain ⟨taskId, task, hfound, howner⟩ := hsound.coherent.task_of_job jobId job hjob
  have hstatus := hsound.coherent.job_status hfound howner hjob
  have hsettled : task.item.phase.Settled := by
    show task.status.phase.Settled
    unfold AsyncJobEnded at hended
    rw [hstatus] at hended
    cases hcase : task.status <;> simp only [hcase, TaskStatus.job] at hended
    case queued => simp at hended
    case running => simp at hended
    case completed => decide
    case failed => decide
    case cancelled => decide
  obtain ⟨it, hitem, hphase⟩ :=
    hlater.steps.settled (fun _ h => h) (queue_item hfound) hsettled
  obtain ⟨task', hfound', howner'⟩ := hlater.owner taskId task hfound
  rw [queue_item hfound'] at hitem
  cases hitem
  have hsame : task'.status = task.status := TaskStatus.phase_inj hphase
  obtain ⟨job', hjob', _, hstatus'⟩ :=
    hsound'.coherent.job_of_task taskId task' jobId hfound' (howner'.trans howner)
  refine ⟨⟨job', hjob', by rw [hstatus', hsame, hstatus]⟩, ?_⟩
  intro id row hrow hrowOwner
  have hid := hsound.coherent.task_unique id taskId row task jobId hrow hfound hrowOwner howner
  subst hid
  rw [hfound] at hrow
  cases hrow
  exact ⟨task', hfound', hsame⟩

/-- A step in which no body raises meets every condition on raising bodies. -/
theorem failGuard_of_no_raise {mayFail : Database → QueuedTask → Prop} {s : System}
    {action : Action} {now : Time} (h : ∀ worker error, action ≠ .raise worker error) :
    FailGuard mayFail s (action, now) := by
  intro worker error time taskId task heq
  cases heq
  exact absurd rfl (h worker error)

/-- A scan that is cancelled while it runs stays cancelled when its body returns. -/
theorem queuedScan_stays_cancelled :
    ∃ s s', Run step NoRaiseAfterCancel queuedScan [(.claim 0 0, 1), (.cancel 0, 2)] s ∧
      (s.db.jobs.find? 0).map (·.status) = some .cancelled ∧
      Run step NoRaiseAfterCancel s [(.finish 0 (.scanJob ⟨0, 0, 0, 0, none⟩), 3)] s' ∧
      EndedJobsKept s s' := by
  have hclaim : ∀ s, NoRaiseAfterCancel s (.claim 0 0, 1) :=
    fun _ => failGuard_of_no_raise (by simp)
  have hcancel : ∀ s, NoRaiseAfterCancel s (.cancel 0, 2) :=
    fun _ => failGuard_of_no_raise (by simp)
  have hfinish : ∀ s, NoRaiseAfterCancel s (.finish 0 (.scanJob ⟨0, 0, 0, 0, none⟩), 3) :=
    fun _ => failGuard_of_no_raise (by simp)
  obtain ⟨s, hrun, hstatus, s', hrest⟩ : ∃ s,
      Run step NoRaiseAfterCancel queuedScan [(.claim 0 0, 1), (.cancel 0, 2)] s ∧
        (s.db.jobs.find? 0).map (·.status) = some .cancelled ∧
        ∃ s', Run step NoRaiseAfterCancel s [(.finish 0 (.scanJob ⟨0, 0, 0, 0, none⟩), 3)] s' :=
    ⟨_, .cons (hclaim _) rfl (.cons (hcancel _) rfl (.nil _)), rfl, _,
      .cons (hfinish _) rfl (.nil _)⟩
  exact ⟨s, s', hrun, hstatus, hrest, ended_jobs_kept queuedScan_populated hrun hrest⟩

/-- The failing transaction of a task with a job commits. -/
theorem fail_commits {db : Database} {taskId jobId : Id} {task : QueuedTask} (error : String)
    (now : Time) (hfound : db.tasks.find? taskId = some task)
    (howner : task.asyncJob = some jobId) : ∃ db', fail db taskId error now = .ok db' := by
  unfold fail
  rw [get_bind hfound]
  cases task.payload with
  | scanJob scanJobId targetIds scanners =>
      exact ⟨_, by simp only [failScanJobTask, get_bind hfound, howner]; rfl⟩
  | discovery discoveryId =>
      exact ⟨_, by simp only [failDiscoveryTask, get_bind hfound, howner]; rfl⟩
  | recompute request =>
      exact ⟨_, by simp only [failRecomputeTask, get_bind hfound, howner]; rfl⟩
  | qualitativeAssessment assetId =>
      exact ⟨_, by simp only [failQualitativeAssessmentTask, get_bind hfound]; rfl⟩
  | performanceRun runId snapshotId =>
      exact ⟨_, by simp only [failPerformanceRunTask, get_bind hfound]; rfl⟩

/-- The condition on raising bodies is exact: a step that violates it overwrites a cancelled job. -/
theorem raise_after_cancel {s s' : System} {worker : WorkerId} {taskId jobId : Id}
    {task : QueuedTask} {job : AsyncJob} {error : String} {now : Time} (hs : Sound s)
    (hbusy : s.busy worker = some taskId) (hfound : s.db.tasks.find? taskId = some task)
    (howner : task.asyncJob = some jobId) (hjob : s.db.jobs.find? jobId = some job)
    (hcancelled : job.status = .cancelled)
    (h : step s (.raise worker error, now) = some s') : ¬ EndedJobsKept s s' := by
  intro hkept
  obtain ⟨⟨job', hjob', hstatus⟩, _⟩ := hkept jobId job hjob (.inr (.inr hcancelled))
  obtain ⟨db', hfail⟩ := fail_commits error now hfound howner
  obtain ⟨row, hadvanced⟩ := fail_advanced hs.coherent hfail
  have hrow := hadvanced.found
  rw [hfound] at hrow
  cases hrow
  obtain ⟨job'', hjob'', hview⟩ := hadvanced.job_self howner hjob
  simp only [step, Option.bind_eq_bind, hbusy, Option.bind_some, hfail] at h
  cases h
  change db'.jobs.find? jobId = some job' at hjob'
  rw [hjob''] at hjob'
  cases hjob'
  simp only [AsyncJob.view, JobView.mk.injEq] at hview
  rw [hview.2, hcancelled] at hstatus
  cases hstatus

/-- A scan that is cancelled while it runs ends FAILED when its body raises. -/
theorem queuedScan_fails_after_cancel :
    ∃ s₀ s s' as bs, Populated s₀ ∧ Run step anyStep s₀ as s ∧ Run step anyStep s bs s' ∧
      ¬ EndedJobsKept s s' := by
  refine ⟨queuedScan, _, _, [(.claim 0 0, 1), (.cancel 0, 2)], [(.raise 0 "unreachable host", 3)],
    queuedScan_populated, .cons trivial rfl (.cons trivial rfl (.nil _)),
    .cons trivial rfl (.nil _), ?_⟩
  intro h
  obtain ⟨⟨job', hjob', hstatus⟩, _⟩ := h 0 _ rfl (.inr (.inr rfl))
  cases hjob'
  cases hstatus

end CryptoScanner.Jobs
