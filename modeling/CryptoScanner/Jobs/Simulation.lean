import CryptoScanner.Jobs.Lifecycle

/-!
# Steps as events, and events as steps of the abstract work queue

Every step of the system is a short sequence of events, each a change of the rows together with what
it does to the workers.  Under coherence an event is simulated by the library's work queue, where a
task is an item, its body is the execution, and a cancel request withdraws it.
-/

namespace CryptoScanner

open Library

def TaskStatus.phase : TaskStatus → Phase
  | .queued => .waiting
  | .running => .executing
  | .completed => .done
  | .failed => .failed
  | .cancelled => .withdrawn

def QueuedTask.item (task : QueuedTask) : Item :=
  ⟨task.status.phase, task.attempts, task.payload.revocable⟩

namespace Jobs

open Database

def System.queue (s : System) : WorkQueue Id WorkerId where
  item id := (s.db.tasks.find? id).map QueuedTask.item
  executing := s.busy
  started := s.started

/-! ## 1. Events -/

/-- What one step can do; `mayFail` says of which tasks a body may raise. -/
inductive Event (mayFail : Database → QueuedTask → Prop) : System → System → Prop
  | quiet {s s' : System} :
      Quiet s.db s'.db → s'.busy = s.busy → s'.started = s.started → Event mayFail s s'
  | submitted {s s' : System} {payload : TaskPayload} :
      Submitted s.db s'.db payload → s'.busy = s.busy → s'.started = s.started →
      Event mayFail s s'
  | claimed {s s' : System} {worker : WorkerId} {taskId : Id} {task : QueuedTask} :
      s.busy worker = none → task.status = .queued →
      Advanced s.db s'.db taskId task 1 .running →
      s'.busy = Function.update s.busy worker (some taskId) →
      s'.started = (worker, taskId) :: s.started → Event mayFail s s'
  | completed {s s' : System} {worker : WorkerId} {taskId : Id} {task : QueuedTask} :
      s.busy worker = some taskId → (task.payload.revocable = true → task.status ≠ .cancelled) →
      Advanced s.db s'.db taskId task 0 .completed →
      s'.busy = Function.update s.busy worker none → s'.started = s.started → Event mayFail s s'
  | failed {s s' : System} {worker : WorkerId} {taskId : Id} {task : QueuedTask} :
      s.busy worker = some taskId → mayFail s.db task →
      Advanced s.db s'.db taskId task 0 .failed →
      s'.busy = Function.update s.busy worker none → s'.started = s.started → Event mayFail s s'
  | released {s s' : System} (worker : WorkerId) :
      Quiet s.db s'.db → s'.busy = Function.update s.busy worker none →
      s'.started = s.started → Event mayFail s s'
  | revoked {s s' : System} {jobId : Id} {job : AsyncJob} :
      Revoked s.db s'.db jobId job → s'.busy = s.busy → s'.started = s.started →
      Event mayFail s s'

abbrev Events (mayFail : Database → QueuedTask → Prop) : System → System → Prop :=
  Relation.ReflTransGen (Event mayFail)

/-- A step in which a body raises is one of a task that `mayFail` admits. -/
def FailGuard (mayFail : Database → QueuedTask → Prop) (s : System) (a : Action × Time) : Prop :=
  ∀ worker error now taskId task, a = (.raise worker error, now) → s.busy worker = some taskId →
    s.db.tasks.find? taskId = some task → mayFail s.db task

theorem Event.coherent {mayFail : Database → QueuedTask → Prop} {s s' : System}
    (h : Event mayFail s s') (hdb : Coherent s.db) : Coherent s'.db := by
  cases h with
  | quiet hchange => exact hchange.coherent hdb
  | submitted hchange => exact hchange.coherent hdb
  | claimed _ _ hchange => exact hchange.coherent hdb
  | completed _ _ hchange => exact hchange.coherent hdb
  | failed _ _ hchange => exact hchange.coherent hdb
  | released _ hchange => exact hchange.coherent hdb
  | revoked hchange => exact hchange.coherent hdb

/-! ## 2. Every step is a sequence of events -/

theorem Quiet.refl (db : Database) : Quiet db db where
  tasks := SameView.refl _ _
  jobs := SameView.refl _ _
  discoveries := SameView.refl _ _

theorem bodyWrite_quiet (db : Database) (task : QueuedTask) (now : Time) (write : BodyWrite) :
    Quiet db (bodyWrite db task now write) := by
  cases write with
  | updateProgress completed total target scanner =>
      unfold bodyWrite
      cases task.asyncJob with
      | none => exact Quiet.refl db
      | some jobId =>
          refine ⟨SameView.refl _ _, ?_, SameView.refl _ _⟩
          apply SameView.modify
          intro job _
          rfl
  | saveSnapshot snapshot => exact ⟨SameView.refl _ _, SameView.refl _ _, SameView.refl _ _⟩
  | saveEndpoint endpoint => exact ⟨SameView.refl _ _, SameView.refl _ _, SameView.refl _ _⟩
  | updateRun status runner =>
      unfold bodyWrite
      cases task.payload with
      | performanceRun runId snapshotId =>
          exact ⟨SameView.refl _ _, SameView.refl _ _, SameView.refl _ _⟩
      | scanJob | discovery | recompute | qualitativeAssessment => exact Quiet.refl db

/-- Dropping a task that is cancelled already shows nothing new. -/
theorem dropTask_quiet {db : Database} {taskId : Id} {task : QueuedTask}
    (hfound : db.tasks.find? taskId = some task) (hstatus : task.status = .cancelled) :
    Quiet db (db.saveTask taskId dropTask) := by
  refine ⟨?_, SameView.refl _ _, SameView.refl _ _⟩
  apply SameView.modify
  intro row hrow
  rw [hfound] at hrow
  cases hrow
  unfold dropTask QueuedTask.view
  rw [hstatus]

theorem endBody_completed {mayFail : Database → QueuedTask → Prop} {s : System}
    {worker : WorkerId} {taskId : Id} {result : BodyResult} {now : Time} (hdb : Coherent s.db)
    (hbusy : s.busy worker = some taskId) :
    Events mayFail s (s.endBody worker (complete s.db taskId result now)) := by
  cases hcomplete : complete s.db taskId result now with
  | error e => exact .single (.released worker (Quiet.refl _) rfl rfl)
  | ok db' =>
      obtain ⟨task, hfound, hcase⟩ := complete_completed hdb hcomplete
      rcases hcase with ⟨_, hstatus, heq⟩ | ⟨hlive, mid, hadvanced, hrest⟩
      · subst heq
        exact .single (.released worker (dropTask_quiet hfound hstatus) rfl rfl)
      · have hfirst : Event mayFail s ({ s with db := mid }.release worker) :=
          .completed hbusy hlive hadvanced rfl rfl
        rcases hrest with heq | ⟨payload, hsubmitted⟩
        · subst heq
          exact .single hfirst
        · exact .tail (.single hfirst) (.submitted hsubmitted rfl rfl)

theorem step_events {mayFail : Database → QueuedTask → Prop} {s s' : System} {a : Action × Time}
    (hdb : Coherent s.db) (hguard : FailGuard mayFail s a) (h : step s a = some s') :
    Events mayFail s s' := by
  obtain ⟨action, now⟩ := a
  cases action with
  | createScanJob targetIds scanners =>
      cases h
      obtain ⟨payload, hsubmitted⟩ :=
        openScanJob_submitted s.db targetIds scanners none none now
      exact .single (.submitted hsubmitted rfl rfl)
  | createDiscovery request =>
      simp only [step] at h
      split at h
      · cases h
        exact .single (.quiet (Quiet.refl _) rfl rfl)
      · rename_i discoveryId _
        rw [Option.bind_eq_bind, Option.bind_eq_some_iff] at h
        obtain ⟨discovery, hfound, h⟩ := h
        -- a discovery that still waits or runs is answered as it is, one that ended is run again
        by_cases hactive : discovery.status = .pending ∨ discovery.status = .running
        · rw [if_pos hactive] at h
          cases h
          exact .single (.quiet (Quiet.refl _) rfl rfl)
        · rw [if_neg hactive] at h
          cases h
          rw [not_or] at hactive
          exact .single (.submitted
            (rerunDiscovery_submitted request now hfound hactive.1 hactive.2) rfl rfl)
  | insertDiscovery index =>
      simp only [step, Option.bind_eq_bind, Option.bind_eq_some_iff] at h
      obtain ⟨request, _, h⟩ := h
      cases h
      exact .single (.submitted (insertDiscovery_submitted s.db request now) rfl rfl)
  | createRecomputeJob request =>
      cases h
      exact .single (.submitted (createRecomputeJob_submitted s.db request now) rfl rfl)
  | enqueueQualitativeAssessment assetId =>
      cases h
      exact .single
        (.submitted (enqueueQualitativeAssessment_submitted s.db assetId now) rfl rfl)
  | createRun snapshotId trigger profile autoStart =>
      cases h
      cases autoStart with
      | true =>
          exact .single (.submitted
            (enqueueRun_submitted s.db s.db.runs.nextId snapshotId trigger profile now) rfl rfl)
      | false =>
          exact .single (.quiet ⟨SameView.refl _ _, SameView.refl _ _, SameView.refl _ _⟩ rfl rfl)
  | cancel jobId =>
      cases h
      rcases cancelJob_changes s.db jobId now with hsame | ⟨job, hrevoked⟩
      · refine .single (.quiet ?_ rfl rfl)
        show Quiet s.db (cancelJob s.db jobId now).1
        rw [hsame]
        exact Quiet.refl _
      · exact .single (.revoked hrevoked rfl rfl)
  | claim worker taskId =>
      simp only [step] at h
      cases hbusy : s.busy worker with
      | some other =>
          rw [hbusy] at h
          cases h
      | none =>
          rw [hbusy] at h
          cases hclaim : claim s.db taskId now with
          | error e =>
              simp only [hclaim] at h
              cases h
              exact .refl
          | ok c =>
              -- a task that is no longer queued is skipped, and nothing has changed
              rcases claim_advanced hdb hclaim with hskip | ⟨db', task, hstart, hqueued, hadv⟩
              · subst hskip
                simp only [hclaim] at h
                cases h
                exact .refl
              · subst hstart
                simp only [hclaim] at h
                cases h
                exact .single (.claimed hbusy hqueued hadv rfl rfl)
  | write worker write =>
      simp only [step, Option.bind_eq_bind, Option.bind_eq_some_iff] at h
      obtain ⟨taskId, _, task, _, h⟩ := h
      cases h
      exact .single (.quiet (bodyWrite_quiet s.db task now write) rfl rfl)
  | finish worker result =>
      simp only [step, Option.bind_eq_bind, Option.bind_eq_some_iff] at h
      obtain ⟨taskId, hbusy, h⟩ := h
      cases h
      exact endBody_completed hdb hbusy
  | raise worker error =>
      simp only [step, Option.bind_eq_bind, Option.bind_eq_some_iff] at h
      obtain ⟨taskId, hbusy, h⟩ := h
      cases h
      cases hfail : fail s.db taskId error now with
      | error e => exact .single (.released worker (Quiet.refl _) rfl rfl)
      | ok db' =>
          obtain ⟨task, hadv⟩ := fail_advanced hdb hfail
          -- the guard of the run is what lets this body fail
          have hmay := hguard worker error now taskId task rfl hbusy hadv.found
          exact .single (.failed hbusy hmay hadv rfl rfl)

/-! ## 3. Events on the abstract work queue -/

theorem item_of_view {task task' : QueuedTask} (h : task.view = task'.view) :
    task.item = task'.item := by
  obtain ⟨hstatus, hattempts, _, hpayload⟩ := QueuedTask.view_eq h
  unfold QueuedTask.item
  rw [hstatus, hattempts, hpayload]

theorem queue_item {s : System} {taskId : Id} {task : QueuedTask}
    (hfound : s.db.tasks.find? taskId = some task) : s.queue.item taskId = some task.item := by
  show (s.db.tasks.find? taskId).map QueuedTask.item = some task.item
  rw [hfound]
  rfl

theorem queue_ext {s : System} {q : WorkQueue Id WorkerId}
    (hitem : ∀ id, (s.db.tasks.find? id).map QueuedTask.item = q.item id)
    (hbusy : s.busy = q.executing) (hstarted : s.started = q.started) : s.queue = q := by
  obtain ⟨item, executing, started⟩ := q
  unfold System.queue
  rw [hbusy, hstarted]
  congr 1
  funext id
  exact hitem id

theorem Quiet.item {db db' : Database} (h : Quiet db db') (id : Id) :
    (db'.tasks.find? id).map QueuedTask.item = (db.tasks.find? id).map QueuedTask.item := by
  have hview := h.tasks id
  cases hold : db.tasks.find? id with
  | none =>
      rw [hold, Option.map_none, Option.map_eq_none_iff] at hview
      rw [hview]
  | some task =>
      rw [hold, Option.map_some, Option.map_eq_some_iff] at hview
      obtain ⟨task', hnew, hview⟩ := hview
      rw [hnew, Option.map_some, Option.map_some, item_of_view hview]

theorem Advanced.item {db db' : Database} {taskId : Id} {task : QueuedTask} {starts : Nat}
    {status : TaskStatus} (h : Advanced db db' taskId task starts status) (id : Id) :
    (db'.tasks.find? id).map QueuedTask.item =
      Function.update (fun id => (db.tasks.find? id).map QueuedTask.item) taskId
        (some ⟨status.phase, task.attempts + starts, task.payload.revocable⟩) id := by
  by_cases hid : id = taskId
  · subst hid
    obtain ⟨task', hfound, hview⟩ := h.task_self
    simp only [QueuedTask.view, TaskView.mk.injEq] at hview
    obtain ⟨hstatus, hattempts, _, hpayload⟩ := hview
    rw [Function.update_self, hfound, Option.map_some, QueuedTask.item, hstatus, hattempts,
      hpayload]
  · rw [Function.update_of_ne hid, h.task_other hid]

/-- A cancelled task that a cancel request may reach has a cancelled job. -/
theorem Coherent.job_cancelled {db : Database} (h : Coherent db) {taskId : Id} {task : QueuedTask}
    (hfound : db.tasks.find? taskId = some task) (hrevocable : task.payload.revocable = true)
    (hstatus : task.status = .cancelled) :
    ∃ jobId job, task.asyncJob = some jobId ∧ db.jobs.find? jobId = some job ∧
      job.status = .cancelled := by
  cases howner : task.asyncJob with
  | none =>
      have hkind := (h.owned taskId task hfound).mp howner
      unfold TaskPayload.revocable at hrevocable
      rw [hkind] at hrevocable
      cases hrevocable
  | some jobId =>
      obtain ⟨job, hjob, _, hjobStatus⟩ := h.job_of_task taskId task jobId hfound howner
      exact ⟨jobId, job, rfl, hjob, by rw [hjobStatus, hstatus]; rfl⟩

/-- The task a worker is busy with is running, or was cancelled under it. -/
theorem busy_task {s : System} (hq : s.queue.Valid) {worker : WorkerId} {taskId : Id}
    (hbusy : s.busy worker = some taskId) :
    ∃ task, s.db.tasks.find? taskId = some task ∧
      (task.status = .running ∨ task.status = .cancelled ∧ task.payload.revocable = true) := by
  obtain ⟨it, hitem, hphase⟩ := hq.executing_phase worker taskId hbusy
  have hmap : (s.db.tasks.find? taskId).map QueuedTask.item = some it := hitem
  rw [Option.map_eq_some_iff] at hmap
  obtain ⟨task, hfound, rfl⟩ := hmap
  refine ⟨task, hfound, ?_⟩
  change task.status.phase = .executing ∨ task.status.phase = .withdrawn ∧
    task.payload.revocable = true at hphase
  cases hstatus : task.status <;> simp only [hstatus, TaskStatus.phase] at hphase
  case queued => simp at hphase
  case running => exact .inl rfl
  case completed => simp at hphase
  case failed => simp at hphase
  case cancelled => exact .inr ⟨rfl, by simpa using hphase⟩

theorem Revoked.simulates {mayFail : Item → Prop} {s s' : System} {jobId : Id} {job : AsyncJob}
    (h : Revoked s.db s'.db jobId job) (hbusy : s'.busy = s.busy)
    (hstarted : s'.started = s.started) (hdb : Coherent s.db) :
    WorkQueue.Steps mayFail s.queue s'.queue := by
  -- a job has one task, so the cancellation withdraws one item at most
  obtain ⟨taskId, task, hfound, howner⟩ := hdb.task_of_job jobId job h.found
  have hother : ∀ id, id ≠ taskId → s'.db.tasks.find? id = s.db.tasks.find? id := by
    intro id hid
    rw [h.find?_task id]
    cases hold : s.db.tasks.find? id with
    | none => rfl
    | some old =>
        have hne : old.asyncJob ≠ some jobId := fun hsame =>
          hid (hdb.task_unique id taskId old task jobId hold hfound hsame howner)
        rw [Option.map_some, revokeTask, if_neg (fun hactive => hne hactive.1)]
  have hself : s'.db.tasks.find? taskId = some (revokeTask jobId task) := by
    rw [h.find?_task taskId, hfound]
    rfl
  -- a task that has ended keeps its status, and the abstract queue makes no step
  by_cases hactive : task.status = .queued ∨ task.status = .running
  · have hitem : (revokeTask jobId task).item =
        { task.item with phase := .withdrawn } := by
      unfold revokeTask
      rw [if_pos ⟨howner, hactive⟩]
      rfl
    have hqueue : s'.queue = { s.queue with
        item := Function.update s.queue.item taskId
          (some { task.item with phase := .withdrawn }) } := by
      apply queue_ext _ hbusy hstarted
      intro id
      by_cases hid : id = taskId
      · subst hid
        simp only [Function.update_self]
        rw [hself, Option.map_some, hitem]
      · simp only [Function.update_of_ne hid]
        rw [hother id hid]
        rfl
    rw [hqueue]
    apply Relation.ReflTransGen.single
    apply WorkQueue.Step.withdraw (queue_item hfound)
    obtain ⟨row, hrow, hkind, hstatus⟩ := hdb.job_of_task taskId task jobId hfound howner
    rw [h.found] at hrow
    cases hrow
    rcases hactive with hqueued | hrunning
    · left
      show task.status.phase = .waiting
      rw [hqueued]
      rfl
    · right
      refine ⟨?_, ?_⟩
      · show task.status.phase = .executing
        rw [hrunning]
        rfl
      · -- a running recompute is refused, so the job is a scan or a discovery
        show task.payload.revocable = true
        unfold TaskPayload.revocable
        rw [← hkind]
        cases hjobKind : job.kind with
        | scanJob => rfl
        | discovery => rfl
        | recompute =>
            exact absurd ⟨hjobKind, by rw [hstatus, hrunning]; rfl⟩ h.cancellable.2.2
  · have hqueue : s'.queue = s.queue := by
      apply queue_ext _ hbusy hstarted
      intro id
      by_cases hid : id = taskId
      · subst hid
        rw [hself, revokeTask, if_neg (fun hboth => hactive hboth.2), queue_item hfound]
        rfl
      · rw [hother id hid]
        rfl
    rw [hqueue]

/-- **Simulation.**  Every event is a run of the abstract work queue. -/
theorem Event.simulates {mayFail : Database → QueuedTask → Prop} {mayFailItem : Item → Prop}
    {s s' : System} (hdb : Coherent s.db) (hq : s.queue.Valid)
    (hmay : ∀ taskId task, s.db.tasks.find? taskId = some task → mayFail s.db task →
      (task.status = .running ∨ task.status = .cancelled ∧ task.payload.revocable = true) →
      mayFailItem task.item)
    (h : Event mayFail s s') : WorkQueue.Steps mayFailItem s.queue s'.queue := by
  cases h with
  | quiet hchange hbusy hstarted =>
      have hqueue : s'.queue = s.queue := queue_ext hchange.item hbusy hstarted
      rw [hqueue]
  | @submitted payload hchange hbusy hstarted =>
      obtain ⟨task, hstatus, hattempts, _, hpayload, htasks⟩ := hchange.tasks
      have hqueue : s'.queue = { s.queue with
          item := Function.update s.queue.item s.db.tasks.nextId
            (some ⟨.waiting, 0, payload.revocable⟩) } := by
        -- the new row is the only one that differs, and it waits
        apply queue_ext _ hbusy hstarted
        intro id
        rw [htasks, Table.find?_insert]
        by_cases hid : id = s.db.tasks.nextId
        · subst hid
          simp only [Function.update_self, if_true]
          rw [Option.map_some, QueuedTask.item, hstatus, hattempts, hpayload]
          rfl
        · simp only [Function.update_of_ne hid, if_neg hid]
          rfl
      rw [hqueue]
      apply Relation.ReflTransGen.single
      apply WorkQueue.Step.submit
      show (s.db.tasks.find? s.db.tasks.nextId).map QueuedTask.item = none
      rw [Table.find?_nextId]
      rfl
  | @claimed worker taskId task hidle hqueued hchange hbusy hstarted =>
      have hqueue : s'.queue =
          { item := Function.update s.queue.item taskId
              (some { task.item with phase := .executing, attempts := task.item.attempts + 1 })
            executing := Function.update s.queue.executing worker (some taskId)
            started := (worker, taskId) :: s.queue.started } :=
        queue_ext hchange.item hbusy hstarted
      rw [hqueue]
      apply Relation.ReflTransGen.single
      apply WorkQueue.Step.claim hidle (queue_item hchange.found)
      show task.status.phase = .waiting
      rw [hqueued]
      rfl
  | @completed worker taskId task hworker hlive hchange hbusy hstarted =>
      have hqueue : s'.queue =
          { s.queue with
            item := Function.update s.queue.item taskId (some { task.item with phase := .done })
            executing := Function.update s.queue.executing worker none } :=
        queue_ext hchange.item hbusy hstarted
      rw [hqueue]
      apply Relation.ReflTransGen.single
      apply WorkQueue.Step.finish hworker (queue_item hchange.found)
      obtain ⟨row, hrow, hstatus⟩ := busy_task hq hworker
      rw [hchange.found] at hrow
      cases hrow
      -- a busy worker holds a running task, or one cancelled meanwhile, which does not complete
      rcases hstatus with hrunning | ⟨hcancelled, hrevocable⟩
      · show task.status.phase = .executing
        rw [hrunning]
        rfl
      · exact absurd hcancelled (hlive hrevocable)
  | @failed worker taskId task hworker hfail hchange hbusy hstarted =>
      have hqueue : s'.queue =
          { s.queue with
            item := Function.update s.queue.item taskId (some { task.item with phase := .failed })
            executing := Function.update s.queue.executing worker none } :=
        queue_ext hchange.item hbusy hstarted
      rw [hqueue]
      apply Relation.ReflTransGen.single
      apply WorkQueue.Step.fail hworker (queue_item hchange.found)
      obtain ⟨row, hrow, hstatus⟩ := busy_task hq hworker
      rw [hchange.found] at hrow
      cases hrow
      exact hmay taskId task hchange.found hfail hstatus
  | released worker hchange hbusy hstarted =>
      have hqueue : s'.queue = { s.queue with
          executing := Function.update s.queue.executing worker none } :=
        queue_ext hchange.item hbusy hstarted
      rw [hqueue]
      exact .single (.release worker)
  | revoked hchange hbusy hstarted => exact hchange.simulates hbusy hstarted hdb

end Jobs

end CryptoScanner
