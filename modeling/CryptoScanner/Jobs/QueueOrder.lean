import CryptoScanner.Jobs.RowChanges
import CryptoScanner.Jobs.WorkerLoop

/-!
# The order in which the workers start tasks

A worker selects the first due task of one of the five queues, and claims it in a later transaction;
between the two the other workers, the requests and the faults of any process may fall.  As long as
the clock does not go back, each queue is still served first come, first served.
-/

namespace CryptoScanner.Jobs

open Library Database

/-! ## 1. Workers that select before they claim -/

structure Scheduling where
  system : System
  /-- What a worker has selected and not yet claimed. -/
  selected : WorkerId → Option Id
  clock : Time

inductive ScheduledAction
  | select (worker : WorkerId) (name : TaskName)
  | claim (worker : WorkerId)
  | fault (worker : WorkerId)
  /-- Every step of the system but a claim. -/
  | other (action : Action)

/-- One step at the time `now`; `none` where it is not enabled. -/
def scheduledMove (s : Scheduling) (now : Time) : ScheduledAction → Option Scheduling
  | .select worker name =>
      some { s with
        selected := Function.update s.selected worker (nextTask name s.system.db now)
        clock := now }
  | .claim worker => do
      let taskId ← s.selected worker
      let system ← step s.system (.claim worker taskId, now)
      return { system, selected := Function.update s.selected worker none, clock := now }
  | .fault worker =>
      some {
        system := s.system.release worker
        selected := Function.update s.selected worker none
        clock := now }
  | .other (.claim _ _) => none
  | .other action => do
      let system ← step s.system (action, now)
      return { s with system, clock := now }

def scheduledStep (s : Scheduling) (a : ScheduledAction × Time) : Option Scheduling :=
  if a.2 < s.clock then none else scheduledMove s a.2 a.1

def idle : Scheduling := { system := emptySystem, selected := fun _ => none, clock := 0 }

/-! ## 2. What a step does to the tasks -/

/-- The later table of two between which the transactions at `now` were committed. -/
structure TasksLater (now : Time) (t t' : Table QueuedTask) : Prop where
  nextId_le : t.nextId ≤ t'.nextId
  old : ∀ id task, t.find? id = some task → ∃ task', t'.find? id = some task' ∧
    task'.payload = task.payload ∧ task'.availableAt = task.availableAt ∧
    (task'.status = .queued → task.status = .queued)
  new : ∀ id task', t'.find? id = some task' → t.find? id = none →
    t.nextId ≤ id ∧ task'.availableAt = some now

section TasksLater

variable {now : Time} {t t' t'' : Table QueuedTask}

theorem TasksLater.refl (now : Time) (t : Table QueuedTask) : TasksLater now t t where
  nextId_le := Nat.le_refl _
  old _ task h := ⟨task, h, rfl, rfl, fun hqueued => hqueued⟩
  new id task h hnone := by
    rw [hnone] at h
    cases h

theorem TasksLater.trans (h : TasksLater now t t') (h' : TasksLater now t' t'') :
    TasksLater now t t'' where
  nextId_le := h.nextId_le.trans h'.nextId_le
  old := by
    intro id task hfound
    obtain ⟨task', hfound', hpayload, havailable, hqueued⟩ := h.old id task hfound
    obtain ⟨task'', hfound'', hpayload', havailable', hqueued'⟩ := h'.old id task' hfound'
    exact ⟨task'', hfound'', hpayload'.trans hpayload, havailable'.trans havailable,
      fun hstatus => hqueued (hqueued' hstatus)⟩
  new := by
    intro id task'' hfound hnone
    cases hmid : t'.find? id with
    | none =>
        obtain ⟨hle, havailable⟩ := h'.new id task'' hfound hmid
        exact ⟨h.nextId_le.trans hle, havailable⟩
    | some task' =>
        obtain ⟨hle, havailable⟩ := h.new id task' hmid hnone
        obtain ⟨later, hlater, _, hsame, _⟩ := h'.old id task' hmid
        rw [hfound] at hlater
        cases hlater
        exact ⟨hle, hsame.trans havailable⟩

/-- An update that keeps what a task is and when it is due, and queues nothing again. -/
theorem TasksLater.updateWhere (now : Time) (t : Table QueuedTask) (p : Id → QueuedTask → Bool)
    (f : QueuedTask → QueuedTask)
    (hf : ∀ task, (f task).payload = task.payload ∧ (f task).availableAt = task.availableAt ∧
      ((f task).status = .queued → task.status = .queued)) :
    TasksLater now t (t.updateWhere p f) where
  nextId_le := Nat.le_of_eq (Table.nextId_updateWhere t p f).symm
  old := by
    intro id task hfound
    refine ⟨if p id task then f task else task, ?_, ?_⟩
    · rw [Table.find?_updateWhere, hfound]
      rfl
    · by_cases hp : p id task = true
      · rw [if_pos hp]
        exact hf task
      · rw [if_neg hp]
        exact ⟨rfl, rfl, fun hqueued => hqueued⟩
  new := by
    intro id task hfound hnone
    rw [Table.find?_updateWhere, hnone] at hfound
    cases hfound

theorem TasksLater.modify (now : Time) (t : Table QueuedTask) (id : Id)
    (f : QueuedTask → QueuedTask)
    (hf : ∀ task, (f task).payload = task.payload ∧ (f task).availableAt = task.availableAt ∧
      ((f task).status = .queued → task.status = .queued)) :
    TasksLater now t (t.modify id f) :=
  TasksLater.updateWhere now t _ f hf

theorem TasksLater.insert (t : Table QueuedTask) (task : QueuedTask)
    (havailable : task.availableAt = some now) : TasksLater now t (t.insert task) where
  nextId_le := by
    rw [Table.nextId_insert]
    omega
  old _ row h := ⟨row, Table.find?_insert_of_find? task h, rfl, rfl, fun hqueued => hqueued⟩
  new := by
    intro id row hfound hnone
    rw [Table.find?_insert] at hfound
    by_cases hid : id = t.nextId
    · rw [if_pos hid] at hfound
      cases hfound
      exact ⟨Nat.le_of_eq hid.symm, havailable⟩
    · rw [if_neg hid, hnone] at hfound
      cases hfound

end TasksLater

theorem takeTask_later (now : Time) (t : Table QueuedTask) (id : Id) :
    TasksLater now t (t.modify id (takeTask now)) :=
  .modify now t id _ fun _ => ⟨rfl, rfl, fun h => by cases h⟩

theorem dropTask_later (now : Time) (t : Table QueuedTask) (id : Id) :
    TasksLater now t (t.modify id dropTask) :=
  .modify now t id _ fun _ => ⟨rfl, rfl, fun h => by cases h⟩

theorem completeTask_later (now : Time) (t : Table QueuedTask) (id : Id) :
    TasksLater now t (t.modify id completeTask) :=
  .modify now t id _ fun _ => ⟨rfl, rfl, fun h => by cases h⟩

theorem failTask_later (now : Time) (t : Table QueuedTask) (id : Id) (error : String) :
    TasksLater now t (t.modify id (failTask error)) :=
  .modify now t id _ fun _ => ⟨rfl, rfl, fun h => by cases h⟩

theorem claim_later {db : Database} {taskId : Id} {now : Time} {c : Claim}
    (h : claim db taskId now = .ok c) : TasksLater now db.tasks c.db.tasks := by
  rcases (claim_rows h).tasks with ⟨_, _, _, hsame⟩ | htaken | hdropped
  · rw [hsame]
    exact .refl now db.tasks
  · rw [htaken]
    exact takeTask_later now db.tasks taskId
  · rw [hdropped]
    exact (takeTask_later now db.tasks taskId).trans (dropTask_later now _ taskId)

/-- The task that the completion of this one may enqueue. -/
def FollowedBy : TaskPayload → TaskPayload → Prop
  | .scanJob _ _ _, .performanceRun _ _ => True
  | .discovery _, .scanJob _ _ _ => True
  | _, _ => False

/-- The tasks after a completing transaction: this one has ended, and one may follow it. -/
structure CompletedTasks (now : Time) (t t' : Table QueuedTask) (taskId : Id) (task : QueuedTask) :
    Prop where
  found : t.find? taskId = some task
  tasks : t' = t.modify taskId dropTask ∨ t' = t.modify taskId completeTask ∨
    ∃ payload asyncJob, FollowedBy task.payload payload ∧
      t' = (t.modify taskId completeTask).insert { asyncJob, payload, availableAt := some now }

theorem complete_tasks {db db' : Database} {taskId : Id} {result : BodyResult} {now : Time}
    (h : complete db taskId result now = .ok db') :
    ∃ task, CompletedTasks now db.tasks db'.tasks taskId task := by
  rw [complete, bind_eq_ok] at h
  obtain ⟨task, hget, h⟩ := h
  have hfound := get_eq_ok.mp hget
  refine ⟨task, hfound, ?_⟩
  -- the result of a body has the kind of its task; any other pair is refused
  cases hpayload : task.payload <;> cases result <;> simp only [hpayload] at h
  case scanJob.scanJob =>
    simp only [completeScanJobTask, get_bind hfound] at h
    cases howner : task.asyncJob with
    | none =>
        rw [howner] at h
        cases h
    | some jobId =>
        simp only [howner, bind_eq_ok] at h
        obtain ⟨job, _, h⟩ := h
        by_cases hdead : job.status = .cancelled
        · rw [if_pos hdead] at h
          cases h
          exact .inl rfl
        · rw [if_neg hdead] at h
          simp only [bind_eq_ok] at h
          obtain ⟨⟨result', db₁⟩, hcheck, h⟩ := h
          cases h
          -- the task of the availability check comes last in the table
          unfold enqueueAvailabilityCheckIfRequested at hcheck
          by_cases hflag : job.requestPayload.autoAvailabilityCheck ≠ some true
          · rw [if_pos hflag] at hcheck
            cases hcheck
            exact .inr (.inl rfl)
          · rw [if_neg hflag, bind_eq_ok] at hcheck
            obtain ⟨snapshot, _, hcheck⟩ := hcheck
            cases hcheck
            refine .inr (.inr ⟨_, _, ?_, rfl⟩)
            trivial
  case discovery.discovery discoveryId result =>
    simp only [completeDiscoveryTask, get_bind hfound] at h
    cases howner : task.asyncJob with
    | none =>
        simp only [howner] at h
        cases h
        exact .inr (.inl rfl)
    | some jobId =>
        simp only [howner, bind_eq_ok] at h
        obtain ⟨job, _, h⟩ := h
        by_cases hdead : job.status = .cancelled
        · rw [if_pos hdead] at h
          cases h
          exact .inl rfl
        · rw [if_neg hdead] at h
          split at h
          · generalize hfollow : enqueueFollowUpScan _ discoveryId jobId job result now = follow at h
            obtain ⟨result', db₁⟩ := follow
            cases h
            -- so does the task of the follow-up scan
            rcases enqueueFollowUpScan_cases _ discoveryId jobId job result now with hsame | hopen
            · rw [hfollow] at hsame
              cases hsame
              exact .inr (.inl rfl)
            · obtain ⟨targetIds, flag, hopen⟩ := hopen
              rw [hfollow] at hopen
              cases hopen
              refine .inr (.inr ⟨_, _, ?_, rfl⟩)
              trivial
          · cases h
            exact .inr (.inl rfl)
  case recompute.recompute =>
    simp only [completeRecomputeTask, get_bind hfound] at h
    split at h <;>
    · cases h
      exact .inr (.inl rfl)
  case qualitativeAssessment.qualitativeAssessment =>
    simp only [completeJoblessTask, get_bind hfound] at h
    cases h
    exact .inr (.inl rfl)
  case performanceRun.performanceRun =>
    simp only [completeJoblessTask, get_bind hfound] at h
    cases h
    exact .inr (.inl rfl)
  all_goals cases h

theorem complete_later {db db' : Database} {taskId : Id} {result : BodyResult} {now : Time}
    (h : complete db taskId result now = .ok db') : TasksLater now db.tasks db'.tasks := by
  have hcompleted := completeTask_later now db.tasks taskId
  obtain ⟨task, hchange⟩ := complete_tasks h
  rcases hchange.tasks with hdropped | hended | ⟨payload, asyncJob, _, hfollowed⟩
  · rw [hdropped]
    exact dropTask_later now db.tasks taskId
  · rw [hended]
    exact hcompleted
  · rw [hfollowed]
    exact hcompleted.trans (.insert _ _ rfl)

theorem cancelJob_later (db : Database) (jobId : Id) (now : Time) :
    TasksLater now db.tasks (cancelJob db jobId now).1.tasks := by
  rcases cancelJob_changes db jobId now with hsame | ⟨job, hrevoked⟩
  · rw [hsame]
    exact .refl now db.tasks
  · rw [hrevoked.tasks]
    exact .updateWhere now db.tasks _ _ fun _ => ⟨rfl, rfl, fun h => by cases h⟩

theorem step_later {s s' : System} {action : Action} {now : Time}
    (h : step s (action, now) = some s') : TasksLater now s.db.tasks s'.db.tasks := by
  -- every enqueue of the source writes the time of the request
  have hsubmitted : ∀ payload asyncJob, TasksLater now s.db.tasks
      (s.db.tasks.insert { asyncJob, payload, availableAt := some now }) :=
    fun payload asyncJob => .insert _ _ rfl
  cases action with
  | createScanJob | createRecomputeJob | enqueueQualitativeAssessment =>
      cases h
      exact hsubmitted _ _
  | createRun snapshotId trigger profile autoStart =>
      cases h
      cases autoStart with
      | true => exact hsubmitted _ _
      | false => exact .refl now s.db.tasks
  | createDiscovery request =>
      simp only [step] at h
      split at h
      · cases h
        exact .refl now s.db.tasks
      · rw [Option.bind_eq_bind, Option.bind_eq_some_iff] at h
        obtain ⟨discovery, _, h⟩ := h
        split at h
        · cases h
          exact .refl now s.db.tasks
        · cases h
          exact hsubmitted _ _
  | insertDiscovery index =>
      simp only [step, Option.bind_eq_bind, Option.bind_eq_some_iff] at h
      obtain ⟨request, _, h⟩ := h
      cases h
      exact hsubmitted _ _
  | cancel jobId =>
      cases h
      exact cancelJob_later s.db jobId now
  | claim worker taskId =>
      simp only [step] at h
      cases hbusy : s.busy worker with
      | some other =>
          rw [hbusy] at h
          cases h
      | none =>
          rw [hbusy] at h
          cases hclaim : claim s.db taskId now with
          | error e =>
              simp only [hclaim] at h
              cases h
              exact .refl now s.db.tasks
          | ok c =>
              have hlater := claim_later hclaim
              simp only [hclaim] at h
              cases c <;>
              · cases h
                exact hlater
  | write worker write =>
      simp only [step, Option.bind_eq_bind, Option.bind_eq_some_iff] at h
      obtain ⟨taskId, _, task, _, h⟩ := h
      cases h
      -- no body writes a task
      have htasks : (bodyWrite s.db task now write).tasks = s.db.tasks := by
        unfold bodyWrite
        cases write with
        | updateProgress => cases task.asyncJob <;> rfl
        | saveSnapshot | saveEndpoint => rfl
        | updateRun => cases task.payload <;> rfl
      show TasksLater now s.db.tasks (bodyWrite s.db task now write).tasks
      rw [htasks]
      exact .refl now s.db.tasks
  | finish worker result =>
      simp only [step, Option.bind_eq_bind, Option.bind_eq_some_iff] at h
      obtain ⟨taskId, _, h⟩ := h
      cases h
      cases hcomplete : complete s.db taskId result now with
      | error e => exact .refl now s.db.tasks
      | ok db' => exact complete_later hcomplete
  | raise worker error =>
      simp only [step, Option.bind_eq_bind, Option.bind_eq_some_iff] at h
      obtain ⟨taskId, _, h⟩ := h
      cases h
      cases hfail : fail s.db taskId error now with
      | error e => exact .refl now s.db.tasks
      | ok db' =>
          have htasks := fail_tasks hfail
          show TasksLater now s.db.tasks db'.tasks
          rw [htasks]
          exact failTask_later now s.db.tasks taskId error

/-! ## 3. What the system has started -/

theorem step_started {s s' : System} {action : Action} {now : Time} (hs : Sound s)
    (h : step s (action, now) = some s') :
    s'.started = s.started ∨ ∃ worker taskId task, action = .claim worker taskId ∧
      s'.started = (worker, taskId) :: s.started ∧ s.db.tasks.find? taskId = some task ∧
      task.status = .queued := by
  cases action with
  | createScanJob | createRecomputeJob | enqueueQualitativeAssessment | createRun | cancel =>
      cases h
      exact .inl rfl
  | createDiscovery request =>
      simp only [step] at h
      split at h
      · cases h
        exact .inl rfl
      · rw [Option.bind_eq_bind, Option.bind_eq_some_iff] at h
        obtain ⟨discovery, _, h⟩ := h
        split at h <;>
        · cases h
          exact .inl rfl
  | insertDiscovery index =>
      simp only [step, Option.bind_eq_bind, Option.bind_eq_some_iff] at h
      obtain ⟨request, _, h⟩ := h
      cases h
      exact .inl rfl
  -- only a claim that starts a body adds to the list
  | claim worker taskId =>
      simp only [step] at h
      cases hbusy : s.busy worker with
      | some other =>
          rw [hbusy] at h
          cases h
      | none =>
          rw [hbusy] at h
          cases hclaim : claim s.db taskId now with
          | error e =>
              simp only [hclaim] at h
              cases h
              exact .inl rfl
          | ok c =>
              rcases claim_advanced hs.coherent hclaim with hskip | ⟨db', task, hstart, hqueued, hadv⟩
              · subst hskip
                simp only [hclaim] at h
                cases h
                exact .inl rfl
              · subst hstart
                simp only [hclaim] at h
                cases h
                exact .inr ⟨worker, taskId, task, rfl, rfl, hadv.found, hqueued⟩
  | write worker write =>
      simp only [step, Option.bind_eq_bind, Option.bind_eq_some_iff] at h
      obtain ⟨taskId, _, task, _, h⟩ := h
      cases h
      exact .inl rfl
  | finish worker result =>
      simp only [step, Option.bind_eq_bind, Option.bind_eq_some_iff] at h
      obtain ⟨taskId, _, h⟩ := h
      cases h
      left
      cases complete s.db taskId result now <;> rfl
  | raise worker error =>
      simp only [step, Option.bind_eq_bind, Option.bind_eq_some_iff] at h
      obtain ⟨taskId, _, h⟩ := h
      cases h
      left
      cases fail s.db taskId error now <;> rfl

/-- A task that no longer waits was started or cancelled. -/
def Accounted (s : System) : Prop :=
  ∀ id task, s.db.tasks.find? id = some task → task.status = .queued ∨ task.status = .cancelled ∨
    ∃ worker, (worker, id) ∈ s.started

theorem Advanced.accounted {s s' : System} {taskId : Id} {task : QueuedTask} {starts : Nat}
    {status : TaskStatus} (h : Advanced s.db s'.db taskId task starts status)
    (hstarted : ∀ entry, entry ∈ s.started → entry ∈ s'.started)
    (hself : ∃ worker, (worker, taskId) ∈ s'.started) (hs : Accounted s) : Accounted s' := by
  intro id row hrow
  by_cases hid : id = taskId
  · rw [hid]
    exact .inr (.inr hself)
  · rw [h.task_other hid] at hrow
    exact (hs id row hrow).imp_right (Or.imp_right fun ⟨worker, hmem⟩ => ⟨worker, hstarted _ hmem⟩)

theorem Quiet.accounted {s s' : System} (h : Quiet s.db s'.db) (hstarted : s'.started = s.started)
    (hs : Accounted s) : Accounted s' := by
  intro id row hrow
  obtain ⟨old, hold, hview⟩ := h.tasks.find?_of hrow
  have hstatus : row.status = old.status := congrArg TaskView.status hview.symm
  rw [hstatus, hstarted]
  exact hs id old hold

theorem Event.accounted {mayFail : Database → QueuedTask → Prop} {s s' : System} (hsound : Sound s)
    (h : Event mayFail s s') (hs : Accounted s) : Accounted s' := by
  cases h with
  | quiet hchange _ hstarted => exact hchange.accounted hstarted hs
  | submitted hchange _ hstarted =>
      intro id row hrow
      rcases hchange.task_cases hrow with ⟨_, hview⟩ | hold
      · exact .inl (congrArg TaskView.status hview)
      · rw [hstarted]
        exact hs id row hold
  | @claimed worker taskId task _ _ hchange _ hstarted =>
      apply hchange.accounted _ ⟨worker, _⟩ hs
      · intro entry hmem
        rw [hstarted]
        exact List.mem_cons_of_mem _ hmem
      · rw [hstarted]
        exact List.mem_cons_self
  | @completed worker taskId task hbusy _ hchange _ hstarted =>
      apply hchange.accounted _ ⟨worker, _⟩ hs
      · intro entry hmem
        rwa [hstarted]
      · rw [hstarted]
        exact hsound.valid.executing_started worker taskId hbusy
  | @failed worker taskId task hbusy _ hchange _ hstarted =>
      apply hchange.accounted _ ⟨worker, _⟩ hs
      · intro entry hmem
        rwa [hstarted]
      · rw [hstarted]
        exact hsound.valid.executing_started worker taskId hbusy
  | released _ hchange _ hstarted => exact hchange.accounted hstarted hs
  | @revoked jobId job hchange _ hstarted =>
      intro id row hrow
      rw [hchange.find?_task id, Option.map_eq_some_iff] at hrow
      obtain ⟨old, hold, hrow⟩ := hrow
      rw [hstarted]
      unfold revokeTask at hrow
      split at hrow
      · subst hrow
        exact .inr (.inl rfl)
      · subst hrow
        exact hs id old hold

theorem step_accounted {s s' : System} {a : Action × Time} (hsound : Sound s)
    (h : step s a = some s') (hs : Accounted s) : Accounted s' := by
  have hguard : FailGuard (fun _ _ => True) s a := fun _ _ _ _ _ _ _ _ => trivial
  have hadmits : Admits (fun _ _ => True) fun _ => True := fun _ _ _ _ _ _ _ => trivial
  have hevents := step_events hsound.coherent hguard h
  have hboth : Sound s' ∧ Accounted s' := by
    clear h
    induction hevents with
    | refl => exact ⟨hsound, hs⟩
    | tail _ hevent ih => exact ⟨(hevent.sound hadmits ih.1).1, hevent.accounted ih.1 ih.2⟩
  exact hboth.2

/-! ## 4. First come, first served -/

def Passed (t : Table QueuedTask) (name : TaskName) (id : Id) : Prop :=
  ∀ id' < id, ∀ task, t.find? id' = some task → task.payload.taskName = name →
    task.status ≠ .queued

theorem Passed.later {now : Time} {t t' : Table QueuedTask} {name : TaskName} {id : Id}
    {task : QueuedTask} (h : Passed t name id) (hfound : t.find? id = some task)
    (hlater : TasksLater now t t') : Passed t' name id := by
  intro id' hlt row hrow hname hqueued
  cases hold : t.find? id' with
  | none =>
      -- a new task is behind every old one
      obtain ⟨hle, _⟩ := hlater.new id' row hrow hold
      have hbound := Table.lt_nextId hfound
      exact absurd (hbound.trans_le hle) (Nat.lt_asymm hlt)
  | some old =>
      obtain ⟨row', hrow', hpayload, _, hstatus⟩ := hlater.old id' old hold
      rw [hrow] at hrow'
      cases hrow'
      rw [hpayload] at hname
      exact h id' hlt old hold hname (hstatus hqueued)

theorem nextTask_spec {name : TaskName} {db : Database} {now : Time} {id : Id}
    (h : nextTask name db now = some id) :
    ∃ task, db.tasks.find? id = some task ∧ isDue name now task = true ∧
      ∀ id' < id, ∀ task', db.tasks.find? id' = some task' → isDue name now task' = true →
        availableAt db id < availableAt db id' := by
  have hsorted := Table.sorted_ids db.tasks (isDue name now)
  obtain ⟨hmem, hleast⟩ := (argmax_eq_some_iff_of_sorted (β := Timeᵒᵈ) hsorted).mp h
  obtain ⟨task, hfound, hdue⟩ := Table.mem_ids.mp hmem
  refine ⟨task, hfound, hdue, ?_⟩
  intro id' hlt task' hfound' hdue'
  rcases hleast id' (Table.mem_ids.mpr ⟨task', hfound', hdue'⟩) with hbefore | ⟨_, hle⟩
  · exact hbefore
  · exact absurd hlt (Nat.not_lt.mpr hle)

/-- Every task was enqueued by the time `clock`. -/
def EnqueuedBy (clock : Time) (t : Table QueuedTask) : Prop :=
  ∀ id task, t.find? id = some task → ∃ at', task.availableAt = some at' ∧ at' ≤ clock

theorem EnqueuedBy.mono {clock clock' : Time} {t : Table QueuedTask} (h : EnqueuedBy clock t)
    (hle : clock ≤ clock') : EnqueuedBy clock' t := by
  intro id task hfound
  obtain ⟨at', hat, hbefore⟩ := h id task hfound
  exact ⟨at', hat, hbefore.trans hle⟩

theorem EnqueuedBy.later {clock now : Time} {t t' : Table QueuedTask} (h : EnqueuedBy clock t)
    (hlater : TasksLater now t t') (hclock : clock ≤ now) : EnqueuedBy now t' := by
  intro id task' hfound'
  cases hfound : t.find? id with
  | none => exact ⟨now, (hlater.new id task' hfound' hfound).2, Nat.le_refl now⟩
  | some task =>
      obtain ⟨other, hother, _, havailable, _⟩ := hlater.old id task hfound
      rw [hfound'] at hother
      cases hother
      obtain ⟨at', hat, hle⟩ := h id task hfound
      exact ⟨at', havailable.trans hat, hle.trans hclock⟩

/-- No task is available before one with a smaller id. -/
def EnqueuedInOrder (t : Table QueuedTask) : Prop :=
  ∀ id id' task task', t.find? id = some task → t.find? id' = some task' → id < id' →
    ∀ at' at'', task.availableAt = some at' → task'.availableAt = some at'' → at' ≤ at''

/-- The times of the tasks that were there are kept, and new ones come last, in place and in time. -/
theorem EnqueuedInOrder.later {clock now : Time} {t t' : Table QueuedTask} (h : EnqueuedInOrder t)
    (hdue : EnqueuedBy clock t) (hlater : TasksLater now t t') (hclock : clock ≤ now) :
    EnqueuedInOrder t' := by
  intro id id' task task' hfound hfound' hlt at' at'' hat hat'
  have hnow : ∀ at', task.availableAt = some at' → at' ≤ now := by
    intro at' hat
    obtain ⟨other, hother, hle⟩ := hdue.later hlater hclock id task hfound
    rw [hat] at hother
    cases hother
    exact hle
  cases hold' : t.find? id' with
  | none =>
      obtain ⟨_, hnew⟩ := hlater.new id' task' hfound' hold'
      rw [hnew] at hat'
      cases hat'
      exact hnow at' hat
  | some old' =>
      obtain ⟨other', hother', _, havailable', _⟩ := hlater.old id' old' hold'
      rw [hfound'] at hother'
      cases hother'
      cases hold : t.find? id with
      | none =>
          obtain ⟨hle, _⟩ := hlater.new id task hfound hold
          exact absurd ((Table.lt_nextId hold').trans_le hle) (Nat.lt_asymm hlt)
      | some old =>
          obtain ⟨other, hother, _, havailable, _⟩ := hlater.old id old hold
          rw [hfound] at hother
          cases hother
          rw [havailable] at hat
          rw [havailable'] at hat'
          exact h id id' old old' hold hold' hlt at' at'' hat hat'

/-- The task is there, and none of its queue before it waits. -/
def Reached (t : Table QueuedTask) (id : Id) : Prop :=
  ∃ task, t.find? id = some task ∧ Passed t task.payload.taskName id

theorem Reached.later {now : Time} {t t' : Table QueuedTask} {id : Id} (h : Reached t id)
    (hlater : TasksLater now t t') : Reached t' id := by
  obtain ⟨task, hfound, hpassed⟩ := h
  obtain ⟨task', hfound', hpayload, _, _⟩ := hlater.old id task hfound
  refine ⟨task', hfound', ?_⟩
  rw [hpayload]
  exact hpassed.later hfound hlater

/-- The payload of a task that was there is the one it had. -/
theorem TasksLater.payload_eq {now : Time} {t t' : Table QueuedTask} (h : TasksLater now t t')
    {id : Id} {task task' : QueuedTask} (hfound : t.find? id = some task)
    (hfound' : t'.find? id = some task') : task'.payload = task.payload := by
  obtain ⟨other, hother, hpayload, _, _⟩ := h.old id task hfound
  rw [hfound'] at hother
  cases hother
  exact hpayload

structure InQueueOrder (s : Scheduling) : Prop where
  sound : Sound s.system
  accounted : Accounted s.system
  due : EnqueuedBy s.clock s.system.db.tasks
  sorted : EnqueuedInOrder s.system.db.tasks
  selected : ∀ worker id, s.selected worker = some id → Reached s.system.db.tasks id
  started : ∀ worker id, (worker, id) ∈ s.system.started → Reached s.system.db.tasks id
  inOrder : s.system.started.Pairwise fun later earlier =>
    ∀ task task', s.system.db.tasks.find? later.2 = some task →
      s.system.db.tasks.find? earlier.2 = some task' →
      task.payload.taskName = task'.payload.taskName → earlier.2 < later.2

theorem InQueueOrder.select {s : Scheduling} (h : InQueueOrder s) (worker : WorkerId)
    (name : TaskName) {now : Time} (hclock : s.clock ≤ now) :
    InQueueOrder { s with
      selected := Function.update s.selected worker (nextTask name s.system.db now)
      clock := now } where
  sound := h.sound
  accounted := h.accounted
  due := h.due.mono hclock
  sorted := h.sorted
  selected := by
    intro other id hselected
    change Function.update s.selected worker (nextTask name s.system.db now) other = some id
      at hselected
    by_cases heq : other = worker
    · subst heq
      rw [Function.update_self] at hselected
      obtain ⟨task, hfound, hdue, hleast⟩ := nextTask_spec hselected
      have hname : task.payload.taskName = name := by
        simp only [isDue, Bool.and_eq_true, beq_iff_eq] at hdue
        exact hdue.1.1
      refine ⟨task, hfound, ?_⟩
      intro id' hlt task' hfound' hname' hqueued
      obtain ⟨t, havailable, _⟩ := h.due id task hfound
      obtain ⟨t', havailable', hle'⟩ := h.due id' task' hfound'
      -- an earlier task that waits is due as well, and due no later
      have hdue' : isDue name now task' = true := by
        simp only [isDue, Bool.and_eq_true, beq_iff_eq]
        refine ⟨⟨hname'.trans hname, hqueued⟩, ?_⟩
        rw [havailable', Option.any_some, decide_eq_true_eq]
        exact hle'.trans hclock
      have hlt' := hleast id' hlt task' hfound' hdue'
      have hle := h.sorted id' id task' task hfound' hfound hlt t' t havailable' havailable
      simp only [availableAt, hfound, hfound', Option.bind_some, havailable, havailable',
        Option.getD_some] at hlt'
      exact absurd hlt' (Nat.not_lt.mpr hle)
    · rw [Function.update_of_ne heq] at hselected
      exact h.selected other id hselected
  started := h.started
  inOrder := h.inOrder

/-- What has been started was reached, and a claim starts what its worker has reached. -/
theorem InQueueOrder.started_step {s : Scheduling} (h : InQueueOrder s) {system : System}
    {action : Action} {now : Time} (hstep : step s.system (action, now) = some system)
    (hclaim : ∀ worker taskId, action = .claim worker taskId → Reached s.system.db.tasks taskId)
    (worker : WorkerId) (id : Id) (hmem : (worker, id) ∈ system.started) :
    Reached system.db.tasks id := by
  have hlater := step_later hstep
  rcases step_started h.sound hstep with hsame | ⟨claimer, taskId, task, haction, hnew, _, _⟩
  · rw [hsame] at hmem
    exact (h.started worker id hmem).later hlater
  · rw [hnew, List.mem_cons] at hmem
    rcases hmem with heq | hmem
    · obtain ⟨rfl, rfl⟩ := Prod.mk.inj heq
      exact (hclaim worker id haction).later hlater
    · exact (h.started worker id hmem).later hlater

/-- A waiting task has no started task of its queue behind it. -/
theorem InQueueOrder.started_before {s : Scheduling} (h : InQueueOrder s) {entry : WorkerId × Id}
    (hmem : entry ∈ s.system.started) {earlier : QueuedTask}
    (hearlier : s.system.db.tasks.find? entry.2 = some earlier) {taskId : Id} {task : QueuedTask}
    (hfound : s.system.db.tasks.find? taskId = some task) (hqueued : task.status = .queued)
    (hsame : task.payload.taskName = earlier.payload.taskName) : entry.2 < taskId := by
  obtain ⟨row, hrow, hpassed⟩ := h.started entry.1 entry.2 hmem
  rw [hearlier] at hrow
  cases hrow
  by_contra hnot
  rcases Nat.lt_or_eq_of_le (Nat.le_of_not_lt hnot) with hlt | heq
  · exact hpassed taskId hlt task hfound hsame hqueued
  · -- one that waits has not been started
    have hwaiting : task.item.phase = .waiting := by
      show task.status.phase = .waiting
      rw [hqueued]
      rfl
    have hnever := h.sound.valid.not_started_of_waiting (w := entry.1) (queue_item hfound) hwaiting
    rw [heq] at hnever
    exact hnever hmem

theorem InQueueOrder.inOrder_step {s : Scheduling} (h : InQueueOrder s) {system : System}
    {action : Action} {now : Time} (hstep : step s.system (action, now) = some system) :
    system.started.Pairwise fun later earlier =>
      ∀ task task', system.db.tasks.find? later.2 = some task →
        system.db.tasks.find? earlier.2 = some task' →
        task.payload.taskName = task'.payload.taskName → earlier.2 < later.2 := by
  have hlater := step_later hstep
  have hordered : s.system.started.Pairwise fun later earlier =>
      ∀ task task', system.db.tasks.find? later.2 = some task →
        system.db.tasks.find? earlier.2 = some task' →
        task.payload.taskName = task'.payload.taskName → earlier.2 < later.2 := by
    apply h.inOrder.imp_of_mem
    intro later earlier hmemLater hmemEarlier hbefore task' task'' hfound' hfound'' hsame
    obtain ⟨task, hfound, _⟩ := h.started later.1 later.2 hmemLater
    obtain ⟨other, hother, _⟩ := h.started earlier.1 earlier.2 hmemEarlier
    rw [hlater.payload_eq hfound hfound', hlater.payload_eq hother hfound''] at hsame
    exact hbefore task other hfound hother hsame
  rcases step_started h.sound hstep with
    hsame | ⟨claimer, taskId, task, haction, hnew, hfound, hqueued⟩
  · rw [hsame]
    exact hordered
  · rw [hnew, List.pairwise_cons]
    refine ⟨?_, hordered⟩
    intro entry hmem claimed earlier' hclaimed hearlier' hsame
    obtain ⟨earlier, hearlier, _⟩ := h.started entry.1 entry.2 hmem
    rw [hlater.payload_eq hfound hclaimed, hlater.payload_eq hearlier hearlier'] at hsame
    exact h.started_before hmem hearlier hfound hqueued hsame

/-- A step of the system that starts nothing, or the first waiting task of a queue. -/
theorem InQueueOrder.step {s : Scheduling} (h : InQueueOrder s) {system : System} {action : Action}
    {now : Time} (hclock : s.clock ≤ now) (hstep : step s.system (action, now) = some system)
    (hclaim : ∀ worker taskId, action = .claim worker taskId → Reached s.system.db.tasks taskId)
    {selected : WorkerId → Option Id}
    (hselected : ∀ worker id, selected worker = some id → s.selected worker = some id) :
    InQueueOrder { system, selected, clock := now } where
  sound := (run_sound_any (.single trivial hstep) h.sound).1
  accounted := step_accounted h.sound hstep h.accounted
  due := h.due.later (step_later hstep) hclock
  sorted := h.sorted.later h.due (step_later hstep) hclock
  selected worker id hchosen :=
    (h.selected worker id (hselected worker id hchosen)).later (step_later hstep)
  started := h.started_step hstep hclaim
  inOrder := h.inOrder_step hstep

theorem InQueueOrder.fault {s : Scheduling} (h : InQueueOrder s) (worker : WorkerId) {now : Time}
    (hclock : s.clock ≤ now) :
    InQueueOrder {
      system := s.system.release worker
      selected := Function.update s.selected worker none
      clock := now } where
  sound := faultyStep_sound h.sound (a := .fault worker) rfl
  accounted := h.accounted
  due := h.due.mono hclock
  sorted := h.sorted
  selected := by
    intro other id hselected
    change Function.update s.selected worker none other = some id at hselected
    by_cases heq : other = worker
    · rw [heq, Function.update_self] at hselected
      cases hselected
    · rw [Function.update_of_ne heq] at hselected
      exact h.selected other id hselected
  started := h.started
  inOrder := h.inOrder

theorem scheduledStep_inQueueOrder {s s' : Scheduling} {a : ScheduledAction × Time}
    (h : InQueueOrder s) (hstep : scheduledStep s a = some s') : InQueueOrder s' := by
  obtain ⟨action, now⟩ := a
  unfold scheduledStep at hstep
  by_cases hback : now < s.clock
  · rw [if_pos hback] at hstep
    cases hstep
  · rw [if_neg hback] at hstep
    have hclock : s.clock ≤ now := Nat.le_of_not_lt hback
    change scheduledMove s now action = some s' at hstep
    cases action with
    | select worker name =>
        cases hstep
        exact h.select worker name hclock
    | fault worker =>
        cases hstep
        exact h.fault worker hclock
    | claim worker =>
        simp only [scheduledMove, Option.bind_eq_bind, Option.bind_eq_some_iff] at hstep
        obtain ⟨taskId, hselected, system, hsystem, hstep⟩ := hstep
        cases hstep
        apply h.step hclock hsystem
        · intro other claimed heq
          cases heq
          exact h.selected worker taskId hselected
        · intro other id hother
          by_cases heq : other = worker
          · rw [heq, Function.update_self] at hother
            cases hother
          · rwa [Function.update_of_ne heq] at hother
    | other action =>
        cases action with
        | claim worker taskId => cases hstep
        | _ =>
            simp only [scheduledMove, Option.bind_eq_bind, Option.bind_eq_some_iff] at hstep
            obtain ⟨system, hsystem, hstep⟩ := hstep
            cases hstep
            apply h.step hclock hsystem
            · intro worker taskId heq
              cases heq
            · exact fun _ _ hselected => hselected

theorem idle_inQueueOrder : InQueueOrder idle := by
  have htasks : ∀ id, idle.system.db.tasks.find? id = none := fun _ => rfl
  refine ⟨emptySystem_populated.sound, ?_, ?_, ?_, ?_, ?_, .nil⟩
  · intro id task hfound
    rw [htasks] at hfound
    cases hfound
  · intro id task hfound
    rw [htasks] at hfound
    cases hfound
  · intro id id' task task' hfound
    rw [htasks] at hfound
    cases hfound
  · intro worker id hselected
    cases hselected
  · intro worker id hmem
    cases hmem

/-- Two scans whose workers select the first one both; the one that comes too late selects again. -/
def twoScans : List (ScheduledAction × Time) :=
  [(.other (.createScanJob [0] [.network]), 1), (.other (.createScanJob [1] [.network]), 2),
    (.select 0 .scanJob, 3), (.select 1 .scanJob, 3), (.claim 1, 4), (.claim 0, 5),
    (.select 0 .scanJob, 6), (.claim 0, 7), (.fault 1, 8)]

end CryptoScanner.Jobs
