import CryptoScanner.Jobs.Changes
import CryptoScanner.Jobs.Queue
import CryptoScanner.Library.WorkQueue

/-!
# Tasks and jobs stay in step, and the queue is a work queue

Coherence of tasks and jobs is an invariant of every step, and under it the system simulates the
abstract work queue of the library: a task is an item, a body is its execution, and a cancel request
is a withdrawal.
-/

namespace CryptoScanner

theorem QueuedTask.view_eq {task task' : QueuedTask} (h : task.view = task'.view) :
    task.status = task'.status ∧ task.attempts = task'.attempts ∧
      task.asyncJob = task'.asyncJob ∧ task.payload = task'.payload := by
  simpa only [QueuedTask.view, TaskView.mk.injEq] using h

theorem AsyncJob.view_eq {job job' : AsyncJob} (h : job.view = job'.view) :
    job.kind = job'.kind ∧ job.status = job'.status := by
  simpa only [AsyncJob.view, JobView.mk.injEq] using h

namespace Jobs

open Library Database

/-! ## 1. Changes seen row by row -/

section RowByRow

variable {db db' : Database} {taskId : Id} {task : QueuedTask} {starts : Nat}
  {status : TaskStatus}

theorem Advanced.task_self (h : Advanced db db' taskId task starts status) :
    ∃ task', db'.tasks.find? taskId = some task' ∧
      task'.view = ⟨status, task.attempts + starts, task.asyncJob, task.payload⟩ := by
  obtain ⟨f, htasks, hview⟩ := h.tasks
  refine ⟨f task, ?_, hview⟩
  rw [htasks, Table.find?_modify_self, h.found]
  rfl

theorem Advanced.task_other (h : Advanced db db' taskId task starts status) {id : Id}
    (hne : id ≠ taskId) : db'.tasks.find? id = db.tasks.find? id := by
  obtain ⟨f, htasks, _⟩ := h.tasks
  rw [htasks, Table.find?_modify_ne _ f hne]

theorem Advanced.job_self (h : Advanced db db' taskId task starts status) {jobId : Id}
    {job : AsyncJob} (hjobId : task.asyncJob = some jobId)
    (hfound : db.jobs.find? jobId = some job) :
    ∃ job', db'.jobs.find? jobId = some job' ∧ job'.view = ⟨job.kind, status.job⟩ := by
  obtain ⟨f, hview, hjobs⟩ := h.jobs
  refine ⟨f job, ?_, hview job⟩
  rw [hjobs, hjobId]
  show (db.jobs.modify jobId f).find? jobId = some (f job)
  rw [Table.find?_modify_self, hfound]
  rfl

theorem Advanced.job_other (h : Advanced db db' taskId task starts status) {jobId : Id}
    (hne : task.asyncJob ≠ some jobId) : db'.jobs.find? jobId = db.jobs.find? jobId := by
  obtain ⟨f, _, hjobs⟩ := h.jobs
  rw [hjobs]
  cases howner : task.asyncJob with
  | none => rfl
  | some owner =>
      have hid : jobId ≠ owner := by
        intro heq
        rw [howner, heq] at hne
        exact hne rfl
      exact Table.find?_modify_ne _ f hid

theorem Advanced.job_of (h : Advanced db db' taskId task starts status) {jobId : Id}
    {job' : AsyncJob} (hfound : db'.jobs.find? jobId = some job') :
    ∃ job, db.jobs.find? jobId = some job := by
  by_cases howner : task.asyncJob = some jobId
  · obtain ⟨f, _, hjobs⟩ := h.jobs
    rw [hjobs, howner] at hfound
    have hmap : (db.jobs.modify jobId f).find? jobId = some job' := hfound
    rw [Table.find?_modify_self, Option.map_eq_some_iff] at hmap
    obtain ⟨job, hjob, _⟩ := hmap
    exact ⟨job, hjob⟩
  · rw [h.job_other howner] at hfound
    exact ⟨job', hfound⟩

def revokeTask (jobId : Id) (task : QueuedTask) : QueuedTask :=
  if task.asyncJob = some jobId ∧ (task.status = .queued ∨ task.status = .running) then
    { task with status := .cancelled, lastError := some "cancel_requested" }
  else task

theorem revokeTask_asyncJob (jobId : Id) (task : QueuedTask) :
    (revokeTask jobId task).asyncJob = task.asyncJob := by
  unfold revokeTask
  split <;> rfl

theorem revokeTask_payload (jobId : Id) (task : QueuedTask) :
    (revokeTask jobId task).payload = task.payload := by
  unfold revokeTask
  split <;> rfl

theorem Revoked.find?_task {jobId : Id} {job : AsyncJob} (h : Revoked db db' jobId job) (id : Id) :
    db'.tasks.find? id = (db.tasks.find? id).map (revokeTask jobId) := by
  rw [h.tasks]
  unfold cancelQueuedTasks
  rw [Table.find?_updateWhere]
  congr 1
  funext task
  unfold revokeTask
  simp

theorem Revoked.job_self {jobId : Id} {job : AsyncJob} (h : Revoked db db' jobId job) :
    ∃ job', db'.jobs.find? jobId = some job' ∧ job'.view = ⟨job.kind, .cancelled⟩ := by
  obtain ⟨f, hkind, hstatus, hjobs⟩ := h.jobs
  refine ⟨f job, ?_, ?_⟩
  · rw [hjobs, Table.find?_modify_self, h.found]
    rfl
  · rw [AsyncJob.view, hkind, hstatus]

theorem Revoked.job_other {jobId id : Id} {job : AsyncJob} (h : Revoked db db' jobId job)
    (hne : id ≠ jobId) : db'.jobs.find? id = db.jobs.find? id := by
  obtain ⟨f, _, _, hjobs⟩ := h.jobs
  rw [hjobs, Table.find?_modify_ne _ f hne]

end RowByRow

/-! ## 2. Coherence is kept -/

section Coherence

variable {db db' : Database}

theorem Quiet.coherent (h : Quiet db db') (hdb : Coherent db) : Coherent db' where
  owned := by
    intro taskId task' hfound
    obtain ⟨task, htask, hview⟩ := h.tasks.find?_of hfound
    obtain ⟨_, _, hjobId, hpayload⟩ := QueuedTask.view_eq hview
    rw [← hjobId, ← hpayload]
    exact hdb.owned taskId task htask
  job_of_task := by
    intro taskId task' jobId hfound hjobId
    obtain ⟨task, htask, hview⟩ := h.tasks.find?_of hfound
    obtain ⟨hstatus, _, howner, hpayload⟩ := QueuedTask.view_eq hview
    obtain ⟨job, hjob, hkind, hjobStatus⟩ :=
      hdb.job_of_task taskId task jobId htask (howner.trans hjobId)
    obtain ⟨job', hjob', hjobView⟩ := h.jobs.of_find? hjob
    obtain ⟨hkind', hstatus'⟩ := AsyncJob.view_eq hjobView
    exact ⟨job', hjob', by rw [hkind', hkind, hpayload], by rw [hstatus', hjobStatus, hstatus]⟩
  task_of_job := by
    intro jobId job' hfound
    obtain ⟨job, hjob, _⟩ := h.jobs.find?_of hfound
    obtain ⟨taskId, task, htask, hjobId⟩ := hdb.task_of_job jobId job hjob
    obtain ⟨task', htask', hview⟩ := h.tasks.of_find? htask
    obtain ⟨_, _, howner, _⟩ := QueuedTask.view_eq hview
    exact ⟨taskId, task', htask', howner.trans hjobId⟩
  task_unique := by
    intro taskId taskId' task₁ task₂ jobId hfound₁ hfound₂ hjobId₁ hjobId₂
    obtain ⟨old₁, hold₁, hview₁⟩ := h.tasks.find?_of hfound₁
    obtain ⟨old₂, hold₂, hview₂⟩ := h.tasks.find?_of hfound₂
    obtain ⟨_, _, howner₁, _⟩ := QueuedTask.view_eq hview₁
    obtain ⟨_, _, howner₂, _⟩ := QueuedTask.view_eq hview₂
    exact hdb.task_unique taskId taskId' old₁ old₂ jobId hold₁ hold₂ (howner₁.trans hjobId₁)
      (howner₂.trans hjobId₂)

/-- A task after an advance is the advanced one, or one that was there before. -/
theorem Advanced.task_cases {taskId id : Id} {task task' : QueuedTask} {starts : Nat}
    {status : TaskStatus} (h : Advanced db db' taskId task starts status)
    (hfound : db'.tasks.find? id = some task') :
    ∃ old, db.tasks.find? id = some old ∧ task'.asyncJob = old.asyncJob ∧
      task'.payload = old.payload ∧
      (id = taskId ∧ old = task ∧ task'.status = status ∨ id ≠ taskId ∧ task' = old) := by
  by_cases hid : id = taskId
  · subst hid
    obtain ⟨new, hnew, hview⟩ := h.task_self
    rw [hnew] at hfound
    cases hfound
    simp only [QueuedTask.view, TaskView.mk.injEq] at hview
    obtain ⟨hstatus, _, hjobId, hpayload⟩ := hview
    exact ⟨task, h.found, hjobId, hpayload, .inl ⟨rfl, rfl, hstatus⟩⟩
  · rw [h.task_other hid] at hfound
    exact ⟨task', hfound, rfl, rfl, .inr ⟨hid, rfl⟩⟩

theorem Advanced.coherent {taskId : Id} {task : QueuedTask} {starts : Nat} {status : TaskStatus}
    (h : Advanced db db' taskId task starts status) (hdb : Coherent db) : Coherent db' where
  owned := by
    intro id task' hfound
    obtain ⟨old, hold, hjobId, hpayload, _⟩ := h.task_cases hfound
    rw [hjobId, hpayload]
    exact hdb.owned id old hold
  job_of_task := by
    intro id task' jobId hfound hjobId
    obtain ⟨old, hold, hsame, hpayload, hcase⟩ := h.task_cases hfound
    have holdJob : old.asyncJob = some jobId := hsame.symm.trans hjobId
    obtain ⟨job, hjob, hkind, hjobStatus⟩ := hdb.job_of_task id old jobId hold holdJob
    rcases hcase with ⟨_, heq, hstatus⟩ | ⟨hid, heq⟩
    · subst heq
      obtain ⟨job', hjob', hview⟩ := h.job_self holdJob hjob
      simp only [AsyncJob.view, JobView.mk.injEq] at hview
      exact ⟨job', hjob', by rw [hview.1, hkind, hpayload], by rw [hview.2, hstatus]⟩
    · subst heq
      -- the job of another task is not the advanced task's job
      have hne : task.asyncJob ≠ some jobId := by
        intro howner
        exact hid (hdb.task_unique id taskId task' task jobId hold h.found holdJob howner)
      exact ⟨job, by rw [h.job_other hne, hjob], hkind, hjobStatus⟩
  task_of_job := by
    intro jobId job' hfound
    obtain ⟨job, hjob⟩ := h.job_of hfound
    obtain ⟨id, old, hold, hjobId⟩ := hdb.task_of_job jobId job hjob
    by_cases hid : id = taskId
    · subst hid
      obtain ⟨new, hnew, hview⟩ := h.task_self
      rw [h.found] at hold
      cases hold
      simp only [QueuedTask.view, TaskView.mk.injEq] at hview
      exact ⟨id, new, hnew, hview.2.2.1.trans hjobId⟩
    · exact ⟨id, old, by rw [h.task_other hid, hold], hjobId⟩
  task_unique := by
    intro id id' task₁ task₂ jobId hfound₁ hfound₂ hjobId₁ hjobId₂
    obtain ⟨old₁, hold₁, hsame₁, _⟩ := h.task_cases hfound₁
    obtain ⟨old₂, hold₂, hsame₂, _⟩ := h.task_cases hfound₂
    exact hdb.task_unique id id' old₁ old₂ jobId hold₁ hold₂ (hsame₁.symm.trans hjobId₁)
      (hsame₂.symm.trans hjobId₂)

theorem Revoked.coherent {jobId : Id} {job : AsyncJob} (h : Revoked db db' jobId job)
    (hdb : Coherent db) : Coherent db' where
  owned := by
    intro id task' hfound
    rw [h.find?_task id, Option.map_eq_some_iff] at hfound
    obtain ⟨old, hold, rfl⟩ := hfound
    rw [revokeTask_asyncJob, revokeTask_payload]
    exact hdb.owned id old hold
  job_of_task := by
    intro id task' owner hfound howner
    rw [h.find?_task id, Option.map_eq_some_iff] at hfound
    obtain ⟨old, hold, rfl⟩ := hfound
    rw [revokeTask_asyncJob] at howner
    obtain ⟨row, hrow, hkind, hstatus⟩ := hdb.job_of_task id old owner hold howner
    rw [revokeTask_payload]
    by_cases hid : owner = jobId
    · subst hid
      obtain ⟨job', hjob', hview⟩ := h.job_self
      rw [h.found] at hrow
      cases hrow
      simp only [AsyncJob.view, JobView.mk.injEq] at hview
      refine ⟨job', hjob', by rw [hview.1, hkind], ?_⟩
      rw [hview.2]
      -- the job was not completed or failed, so its task is active or cancelled already
      obtain ⟨hcompleted, hfailed, _⟩ := h.cancellable
      rw [hstatus] at hcompleted hfailed
      unfold revokeTask
      cases hold' : old.status with
      | queued => rw [if_pos ⟨howner, .inl rfl⟩]; rfl
      | running => rw [if_pos ⟨howner, .inr rfl⟩]; rfl
      | completed => exact absurd (by rw [hold']; rfl) hcompleted
      | failed => exact absurd (by rw [hold']; rfl) hfailed
      | cancelled =>
          rw [if_neg (by simp), hold']
          rfl
    · refine ⟨row, by rw [h.job_other hid, hrow], hkind, ?_⟩
      have hkeep : revokeTask jobId old = old := by
        unfold revokeTask
        rw [if_neg]
        intro hactive
        rw [howner] at hactive
        exact hid (Option.some.inj hactive.1)
      rw [hkeep, hstatus]
  task_of_job := by
    intro id row hfound
    have hold : ∃ old, db.jobs.find? id = some old := by
      by_cases hid : id = jobId
      · exact ⟨job, by rw [hid, h.found]⟩
      · exact ⟨row, by rw [← h.job_other hid, hfound]⟩
    obtain ⟨old, hold⟩ := hold
    obtain ⟨taskId, task, htask, howner⟩ := hdb.task_of_job id old hold
    refine ⟨taskId, revokeTask jobId task, ?_, ?_⟩
    · rw [h.find?_task taskId, htask]
      rfl
    · rw [revokeTask_asyncJob, howner]
  task_unique := by
    intro id id' task₁ task₂ owner hfound₁ hfound₂ howner₁ howner₂
    rw [h.find?_task, Option.map_eq_some_iff] at hfound₁ hfound₂
    obtain ⟨old₁, hold₁, rfl⟩ := hfound₁
    obtain ⟨old₂, hold₂, rfl⟩ := hfound₂
    rw [revokeTask_asyncJob] at howner₁ howner₂
    exact hdb.task_unique id id' old₁ old₂ owner hold₁ hold₂ howner₁ howner₂

/-- A task after a submission is the new one, or one that was there before. -/
theorem Submitted.task_cases {payload : TaskPayload} (h : Submitted db db' payload) {id : Id}
    {task' : QueuedTask} (hfound : db'.tasks.find? id = some task') :
    (id = db.tasks.nextId ∧ task'.view =
        ⟨.queued, 0, payload.kind.map (fun _ => db.jobs.nextId), payload⟩) ∨
      db.tasks.find? id = some task' := by
  obtain ⟨task, hstatus, hattempts, hjobId, hpayload, htasks⟩ := h.tasks
  rw [htasks, Table.find?_insert] at hfound
  by_cases hid : id = db.tasks.nextId
  · rw [if_pos hid] at hfound
    cases hfound
    exact .inl ⟨hid, by rw [QueuedTask.view, hstatus, hattempts, hjobId, hpayload]⟩
  · rw [if_neg hid] at hfound
    exact .inr hfound

theorem Submitted.task_old {payload : TaskPayload} (h : Submitted db db' payload) {id : Id}
    {task : QueuedTask} (hfound : db.tasks.find? id = some task) :
    db'.tasks.find? id = some task := by
  obtain ⟨new, _, _, _, _, htasks⟩ := h.tasks
  rw [htasks]
  exact Table.find?_insert_of_find? new hfound

theorem Submitted.job_old {payload : TaskPayload} (h : Submitted db db' payload) {id : Id}
    {job : AsyncJob} (hfound : db.jobs.find? id = some job) : db'.jobs.find? id = some job := by
  have hjobs := h.jobs
  cases hkind : payload.kind with
  | none =>
      simp only [hkind] at hjobs
      rw [hjobs, hfound]
  | some kind =>
      simp only [hkind] at hjobs
      obtain ⟨new, _, _, hinsert⟩ := hjobs
      rw [hinsert]
      exact Table.find?_insert_of_find? new hfound

/-- A job after a submission is the new one, or one that was there before. -/
theorem Submitted.job_cases {payload : TaskPayload} (h : Submitted db db' payload) {id : Id}
    {job' : AsyncJob} (hfound : db'.jobs.find? id = some job') :
    (id = db.jobs.nextId ∧ payload.kind = some job'.kind ∧ job'.status = .pending) ∨
      db.jobs.find? id = some job' := by
  have hjobs := h.jobs
  cases hkind : payload.kind with
  | none =>
      simp only [hkind] at hjobs
      rw [hjobs] at hfound
      exact .inr hfound
  | some kind =>
      simp only [hkind] at hjobs
      obtain ⟨new, hnewKind, hnewStatus, hinsert⟩ := hjobs
      rw [hinsert, Table.find?_insert] at hfound
      by_cases hid : id = db.jobs.nextId
      · rw [if_pos hid] at hfound
        cases hfound
        exact .inl ⟨hid, by rw [hnewKind], hnewStatus⟩
      · rw [if_neg hid] at hfound
        exact .inr hfound

theorem Submitted.job_new {payload : TaskPayload} (h : Submitted db db' payload) {kind : JobKind}
    (hkind : payload.kind = some kind) :
    ∃ job, db'.jobs.find? db.jobs.nextId = some job ∧ job.view = ⟨kind, .pending⟩ := by
  have hjobs := h.jobs
  simp only [hkind] at hjobs
  obtain ⟨new, hnewKind, hnewStatus, hinsert⟩ := hjobs
  exact ⟨new, by rw [hinsert, Table.find?_insert_self],
    by rw [AsyncJob.view, hnewKind, hnewStatus]⟩

theorem Submitted.coherent {payload : TaskPayload} (h : Submitted db db' payload)
    (hdb : Coherent db) : Coherent db' := by
  -- an old task has an old job, so only the new task can own the new job
  have hold : ∀ {id : Id} {task : QueuedTask}, db.tasks.find? id = some task →
      task.asyncJob ≠ some db.jobs.nextId := by
    intro id task hfound howner
    obtain ⟨job, hjob, _⟩ := hdb.job_of_task id task _ hfound howner
    exact absurd (Table.lt_nextId hjob) (Nat.lt_irrefl _)
  refine ⟨?_, ?_, ?_, ?_⟩
  · intro id task' hfound
    rcases h.task_cases hfound with ⟨_, hview⟩ | hfound
    · simp only [QueuedTask.view, TaskView.mk.injEq] at hview
      rw [hview.2.2.1, hview.2.2.2, Option.map_eq_none_iff]
    · exact hdb.owned id task' hfound
  · intro id task' jobId hfound howner
    rcases h.task_cases hfound with ⟨_, hview⟩ | hfound
    · simp only [QueuedTask.view, TaskView.mk.injEq] at hview
      obtain ⟨hstatus, _, hjobId, hpayload⟩ := hview
      rw [hjobId, Option.map_eq_some_iff] at howner
      obtain ⟨kind, hkind, rfl⟩ := howner
      obtain ⟨job, hjob, hjobView⟩ := h.job_new hkind
      simp only [AsyncJob.view, JobView.mk.injEq] at hjobView
      exact ⟨job, hjob, by rw [hjobView.1, hpayload, hkind], by rw [hjobView.2, hstatus]; rfl⟩
    · obtain ⟨job, hjob, hkind, hstatus⟩ := hdb.job_of_task id task' jobId hfound howner
      exact ⟨job, h.job_old hjob, hkind, hstatus⟩
  · intro jobId job' hfound
    rcases h.job_cases hfound with ⟨hid, hkind, _⟩ | hfound
    · obtain ⟨task, _, _, hjobId, _, htasks⟩ := h.tasks
      refine ⟨db.tasks.nextId, task, by rw [htasks, Table.find?_insert_self], ?_⟩
      rw [hjobId, hkind, hid]
      rfl
    · obtain ⟨id, task, htask, howner⟩ := hdb.task_of_job jobId job' hfound
      exact ⟨id, task, h.task_old htask, howner⟩
  · intro id id' task₁ task₂ jobId hfound₁ hfound₂ howner₁ howner₂
    have hnew : ∀ {task : QueuedTask}, task.view =
        ⟨.queued, 0, payload.kind.map (fun _ => db.jobs.nextId), payload⟩ →
        task.asyncJob = some jobId → jobId = db.jobs.nextId := by
      intro task hview howner
      simp only [QueuedTask.view, TaskView.mk.injEq] at hview
      rw [hview.2.2.1, Option.map_eq_some_iff] at howner
      obtain ⟨_, _, heq⟩ := howner
      exact heq.symm
    rcases h.task_cases hfound₁ with ⟨hid₁, hview₁⟩ | hfound₁
    · have hjobId := hnew hview₁ howner₁
      rcases h.task_cases hfound₂ with ⟨hid₂, _⟩ | hfound₂
      · rw [hid₁, hid₂]
      · rw [hjobId] at howner₂
        exact absurd howner₂ (hold hfound₂)
    · rcases h.task_cases hfound₂ with ⟨_, hview₂⟩ | hfound₂
      · have hjobId := hnew hview₂ howner₂
        rw [hjobId] at howner₁
        exact absurd howner₁ (hold hfound₁)
      · exact hdb.task_unique id id' task₁ task₂ jobId hfound₁ hfound₂ howner₁ howner₂

end Coherence

end Jobs

end CryptoScanner
