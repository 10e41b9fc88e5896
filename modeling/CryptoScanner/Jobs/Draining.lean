import CryptoScanner.Jobs.QueueOrder
import CryptoScanner.Library.TableTotal

/-!
# A worker that is left alone empties the queue

A discovery may be followed by a scan and a scan by a performance run, but by nothing else, so the
work that is queued is bounded from the start.  Every pass of the loop that finds a task makes it
less.
-/

namespace CryptoScanner.Jobs

open Library Database

/-! ## 1. The work that is queued -/

def payloadWork : TaskPayload → Nat
  | .discovery _ => 3
  | .scanJob _ _ _ => 2
  | _ => 1

def taskWork (task : QueuedTask) : Nat :=
  if task.status = .queued then payloadWork task.payload else 0

def queuedWork (db : Database) : Nat := db.tasks.total taskWork

theorem payloadWork_pos (payload : TaskPayload) : 0 < payloadWork payload := by
  cases payload <;> simp [payloadWork]

theorem FollowedBy.work_lt {payload next : TaskPayload} (h : FollowedBy payload next) :
    payloadWork next < payloadWork payload := by
  cases payload <;> cases next <;> first | exact h.elim | simp [payloadWork]

/-- Queued tasks are work, and without work none is queued. -/
theorem not_queued_of_no_work {db : Database} (h : queuedWork db = 0) {id : Id} {task : QueuedTask}
    (hfound : db.tasks.find? id = some task) : task.status ≠ .queued := by
  intro hqueued
  have hle := Table.le_total hfound taskWork
  have hpos := payloadWork_pos task.payload
  rw [taskWork, if_pos hqueued] at hle
  unfold queuedWork at h
  omega

/-! ## 2. One call -/

/-- Nothing but this worker touches the tasks while the call goes on. -/
structure Calm (around : Surroundings) : Prop where
  before : ∀ db, (around.before db).tasks = db.tasks
  meanwhile : ∀ db, (around.meanwhile db).tasks = db.tasks
  body : ∀ taskId db, (around.body taskId db).1.tasks = db.tasks

theorem nextTask_eq_none {name : TaskName} {db : Database} {now : Time}
    (hdue : EnqueuedBy now db.tasks) (h : nextTask name db now = none) {id : Id}
    {task : QueuedTask} (hfound : db.tasks.find? id = some task)
    (hname : task.payload.taskName = name) : task.status ≠ .queued := by
  intro hqueued
  have hempty : db.tasks.ids (isDue name now) = [] := List.argmin_eq_none.mp h
  have hmem : id ∈ db.tasks.ids (isDue name now) := by
    obtain ⟨at', hat, hle⟩ := hdue id task hfound
    refine Table.mem_ids.mpr ⟨task, hfound, ?_⟩
    simp only [isDue, Bool.and_eq_true, beq_iff_eq]
    refine ⟨⟨hname, hqueued⟩, ?_⟩
    rw [hat, Option.any_some, decide_eq_true_eq]
    exact hle
  rw [hempty] at hmem
  cases hmem

/-- Completing a task that is off the queue may only enqueue a lighter one. -/
theorem complete_work {db db' : Database} {taskId : Id} {task : QueuedTask} {result : BodyResult}
    {now : Time} (hfound : db.tasks.find? taskId = some task) (hnot : task.status ≠ .queued)
    (h : complete db taskId result now = .ok db') :
    queuedWork db' < queuedWork db + payloadWork task.payload := by
  have hpos := payloadWork_pos task.payload
  have hnone : taskWork task = 0 := if_neg hnot
  obtain ⟨row, hchange⟩ := complete_tasks h
  have hrow := hchange.found
  rw [hfound] at hrow
  cases hrow
  have hended : (db.tasks.modify taskId completeTask).total taskWork = db.tasks.total taskWork := by
    have htotal := Table.total_modify hfound completeTask taskWork
    have hzero : taskWork (completeTask task) = 0 := rfl
    omega
  unfold queuedWork
  rcases hchange.tasks with hdropped | hcompleted | ⟨payload, asyncJob, hfollows, hfollowed⟩
  · have htotal := Table.total_modify hfound dropTask taskWork
    have hzero : taskWork (dropTask task) = 0 := rfl
    rw [hdropped]
    omega
  · rw [hcompleted, hended]
    omega
  · have hless := hfollows.work_lt
    rw [hfollowed, Table.total_insert, hended]
    show db.tasks.total taskWork + payloadWork payload < _
    omega

/-- A processor that gets to the end of its task leaves less work than it found. -/
theorem processTask_work {around : Surroundings} {db : Database} {taskId : Id} {task : QueuedTask}
    (hcalm : Calm around) (hfound : db.tasks.find? taskId = some task)
    (hqueued : task.status = .queued) (h : (processTask around db taskId).2 = none) :
    queuedWork (processTask around db taskId).1 < queuedWork db := by
  have hpos := payloadWork_pos task.payload
  have hwork : taskWork task = payloadWork task.payload := if_pos hqueued
  -- a claim takes the task off the queue, whatever becomes of it then
  have htaken : ∀ {c}, claim db taskId around.claimedAt = .ok c →
      queuedWork c.db + payloadWork task.payload = queuedWork db ∧
        ∃ taken, c.db.tasks.find? taskId = some taken ∧ taken.payload = task.payload ∧
          taken.status ≠ .queued := by
    intro c hclaim
    rcases (claim_rows hclaim).tasks with ⟨row, hrow, hcancelled, _⟩ | htaken | hdropped
    · rw [hfound] at hrow
      cases hrow
      rw [hqueued] at hcancelled
      cases hcancelled
    · have htotal := Table.total_modify hfound (takeTask around.claimedAt) taskWork
      have hzero : taskWork (takeTask around.claimedAt task) = 0 := rfl
      unfold queuedWork
      rw [htaken]
      refine ⟨by omega, takeTask around.claimedAt task, ?_, rfl, by simp [takeTask]⟩
      rw [Table.find?_modify_self, hfound]
      rfl
    · have htotal := Table.total_modify hfound (dropTask ∘ takeTask around.claimedAt) taskWork
      have hzero : taskWork ((dropTask ∘ takeTask around.claimedAt) task) = 0 := rfl
      unfold queuedWork
      rw [hdropped, Table.modify_modify]
      refine ⟨by omega, dropTask (takeTask around.claimedAt task), ?_, rfl, by simp [dropTask]⟩
      rw [Table.find?_modify_self, hfound]
      rfl
  unfold processTask at h ⊢
  cases hclaim : claim db taskId around.claimedAt with
  | error e =>
      rw [hclaim] at h
      cases h
  | ok c =>
      rw [hclaim] at h
      obtain ⟨hless, taken, hrow, hpayload, hnot⟩ := htaken hclaim
      cases c with
      | skipped skipped =>
          change queuedWork skipped + _ = _ at hless
          show queuedWork skipped < queuedWork db
          omega
      | started claimed =>
          change queuedWork claimed + _ = _ at hless
          have hbody := hcalm.body taskId claimed
          cases hreturn : around.body taskId claimed with
          | mk returned outcome =>
              rw [hreturn] at hbody
              change returned.tasks = claimed.tasks at hbody
              cases outcome with
              | error error =>
                  simp only [hreturn] at h
                  cases hfail : fail returned taskId error around.endedAt <;>
                  · rw [hfail] at h
                    cases h
              | ok result =>
                  simp only [hreturn] at h ⊢
                  cases hcomplete : complete returned taskId result around.endedAt with
                  | error e =>
                      rw [hcomplete] at h
                      cases h
                  | ok db' =>
                      change claimed.tasks.find? taskId = some taken at hrow
                      rw [← hbody] at hrow
                      have hwork' := complete_work hrow hnot hcomplete
                      have hsame : queuedWork returned = queuedWork claimed :=
                        congrArg (Table.total · taskWork) hbody
                      show queuedWork db' < queuedWork db
                      rw [hpayload] at hwork'
                      omega

theorem processTask_enqueued {around : Surroundings} {db : Database} {taskId : Id} {clock : Time}
    (hcalm : Calm around) (hdue : EnqueuedBy clock db.tasks) (hclaimed : clock ≤ around.claimedAt)
    (hended : around.claimedAt ≤ around.endedAt) :
    EnqueuedBy around.endedAt (processTask around db taskId).1.tasks := by
  unfold processTask
  cases hclaim : claim db taskId around.claimedAt with
  | error e => exact hdue.mono (hclaimed.trans hended)
  | ok c =>
      have hafter := hdue.later (claim_later hclaim) hclaimed
      cases c with
      | skipped skipped => exact hafter.mono hended
      | started claimed =>
          have hbody := hcalm.body taskId claimed
          cases hreturn : around.body taskId claimed with
          | mk returned outcome =>
              rw [hreturn] at hbody
              change returned.tasks = claimed.tasks at hbody
              have hreturned : EnqueuedBy around.claimedAt returned.tasks := by
                rw [hbody]
                exact hafter
              cases outcome with
              | error error =>
                  simp only [hreturn]
                  cases hfail : fail returned taskId error around.endedAt with
                  | error e => exact hreturned.mono hended
                  | ok db' =>
                      have hlater : TasksLater around.endedAt returned.tasks db'.tasks := by
                        rw [fail_tasks hfail]
                        exact failTask_later _ _ taskId error
                      exact hreturned.later hlater hended
              | ok result =>
                  simp only [hreturn]
                  cases hcomplete : complete returned taskId result around.endedAt with
                  | error e => exact hreturned.mono hended
                  | ok db' => exact hreturned.later (complete_later hcomplete) hended

/-! ## 3. Passes -/

def Timely : Time → List (TaskName × Surroundings) → Prop
  | _, [] => True
  | clock, call :: calls =>
      clock ≤ call.2.selectedAt ∧ call.2.selectedAt ≤ call.2.claimedAt ∧
        call.2.claimedAt ≤ call.2.endedAt ∧ Timely call.2.endedAt calls

def endTime (clock : Time) (calls : List (TaskName × Surroundings)) : Time :=
  calls.foldl (fun _ call => call.2.endedAt) clock

theorem timely_append {clock : Time} {calls calls' : List (TaskName × Surroundings)} :
    Timely clock (calls ++ calls') ↔
      Timely clock calls ∧ Timely (endTime clock calls) calls' := by
  induction calls generalizing clock with
  | nil => exact (iff_of_eq (true_and _)).symm
  | cons call calls ih =>
      show _ ∧ _ ∧ _ ∧ Timely call.2.endedAt (calls ++ calls') ↔ (_ ∧ _ ∧ _ ∧ _) ∧ _
      rw [ih]
      simp only [and_assoc]
      rfl

/-- A call that finds no task leaves the tasks as they are, one that finds one leaves less work. -/
theorem processNext_work {call : TaskName × Surroundings} {db : Database} (hcalm : Calm call.2)
    (hdue : EnqueuedBy call.2.selectedAt db.tasks) (h : (processNext call db).2 = none) :
    ((processNext call db).1.tasks = db.tasks ∧
        ∀ id task, db.tasks.find? id = some task → task.payload.taskName = call.1 →
          task.status ≠ .queued) ∨
      queuedWork (processNext call db).1 < queuedWork db := by
  have hbefore := hcalm.before db
  have hmeanwhile := (hcalm.meanwhile (call.2.before db)).trans hbefore
  unfold processNext at h ⊢
  cases hnext : nextTask call.1 (call.2.before db) call.2.selectedAt with
  | none =>
      left
      simp only [hnext]
      refine ⟨hbefore, ?_⟩
      intro id task hfound hname
      rw [← hbefore] at hfound hdue
      exact nextTask_eq_none hdue hnext hfound hname
  | some taskId =>
      right
      simp only [hnext] at h ⊢
      obtain ⟨task, hfound, hselected, _⟩ := nextTask_spec hnext
      have hqueued : task.status = .queued := by
        simp only [isDue, Bool.and_eq_true, beq_iff_eq] at hselected
        exact hselected.1.2
      rw [hbefore, ← hmeanwhile] at hfound
      have hless := processTask_work hcalm hfound hqueued h
      have hsame : queuedWork (call.2.meanwhile (call.2.before db)) = queuedWork db :=
        congrArg (Table.total · taskWork) hmeanwhile
      omega

theorem processNext_enqueued {call : TaskName × Surroundings} {db : Database} {clock : Time}
    (hcalm : Calm call.2) (hdue : EnqueuedBy clock db.tasks) (hclaimed : clock ≤ call.2.claimedAt)
    (hended : call.2.claimedAt ≤ call.2.endedAt) :
    EnqueuedBy call.2.endedAt (processNext call db).1.tasks := by
  have hbefore := hcalm.before db
  have hmeanwhile := (hcalm.meanwhile (call.2.before db)).trans hbefore
  unfold processNext
  cases hnext : nextTask call.1 (call.2.before db) call.2.selectedAt with
  | none =>
      simp only [hnext]
      rw [hbefore]
      exact hdue.mono (hclaimed.trans hended)
  | some taskId =>
      simp only [hnext]
      rw [← hmeanwhile] at hdue
      exact processTask_enqueued hcalm hdue hclaimed hended

theorem runUnguarded_work {calls : List (TaskName × Surroundings)} {db : Database} {clock : Time}
    (hcalm : ∀ call ∈ calls, Calm call.2) (htimely : Timely clock calls)
    (hdue : EnqueuedBy clock db.tasks) (h : (runUnguarded processNext calls db).2 = none) :
    EnqueuedBy (endTime clock calls) (runUnguarded processNext calls db).1.tasks ∧
      (((runUnguarded processNext calls db).1.tasks = db.tasks ∧
          ∀ call ∈ calls, ∀ id task, db.tasks.find? id = some task →
            task.payload.taskName = call.1 → task.status ≠ .queued) ∨
        queuedWork (runUnguarded processNext calls db).1 < queuedWork db) := by
  induction calls generalizing db clock with
  | nil =>
      refine ⟨hdue, .inl ⟨rfl, ?_⟩⟩
      intro call hcall
      cases hcall
  | cons call calls ih =>
      obtain ⟨hselected, hclaimed, hended, hrest⟩ := htimely
      rw [runUnguarded] at h ⊢
      have hcall := hcalm call List.mem_cons_self
      have hselectable := hdue.mono hselected
      have hwork := processNext_work hcall hselectable
      have hafter := processNext_enqueued hcall hselectable hclaimed hended
      cases hnext : processNext call db with
      | mk db' raised =>
          rw [hnext] at hwork hafter
          cases raised with
          | some e =>
              simp only [hnext] at h
              cases h
          | none =>
              simp only [hnext] at h ⊢
              have hcalms : ∀ call ∈ calls, Calm call.2 :=
                fun other hother => hcalm other (List.mem_cons_of_mem _ hother)
              change EnqueuedBy call.2.endedAt db'.tasks at hafter
              obtain ⟨hlast, hless⟩ := ih hcalms hrest hafter h
              refine ⟨hlast, ?_⟩
              rcases hwork rfl with ⟨hsame, hnone⟩ | hdecreased
              · change db'.tasks = db.tasks at hsame
                have hequal : queuedWork db' = queuedWork db := congrArg (Table.total · taskWork) hsame
                rw [hsame, hequal] at hless
                rcases hless with ⟨htasks, hothers⟩ | hless
                · exact .inl ⟨htasks, List.forall_mem_cons.mpr ⟨hnone, hothers⟩⟩
                · exact .inr hless
              · right
                change queuedWork db' < queuedWork db at hdecreased
                rcases hless with ⟨htasks, _⟩ | hless
                · have hequal : queuedWork (runUnguarded processNext calls db').1 = queuedWork db' :=
                    congrArg (Table.total · taskWork) htasks
                  omega
                · omega

theorem mem_processors (name : TaskName) : name ∈ processors := by
  cases name <;> simp [processors]

theorem pass_work {pass : Pass} {db : Database} {clock : Time} (hcalm : ∀ name, Calm (pass name))
    (htimely : Timely clock pass.calls) (hdue : EnqueuedBy clock db.tasks)
    (h : (runUnguarded processNext pass.calls db).2 = none) :
    EnqueuedBy (endTime clock pass.calls) (runUnguarded processNext pass.calls db).1.tasks ∧
      queuedWork (runUnguarded processNext pass.calls db).1 ≤ queuedWork db - 1 := by
  have hcalms : ∀ call ∈ pass.calls, Calm call.2 := by
    intro call hcall
    obtain ⟨name, _, rfl⟩ := List.mem_map.mp hcall
    exact hcalm name
  obtain ⟨hlast, hcase⟩ := runUnguarded_work hcalms htimely hdue h
  refine ⟨hlast, ?_⟩
  rcases hcase with ⟨hsame, hnone⟩ | hless
  · -- every queue was asked, so none of them holds a waiting task
    have hempty : queuedWork db = 0 := by
      unfold queuedWork Table.total
      apply Finset.sum_eq_zero
      intro id _
      cases hfound : db.tasks.find? id with
      | none => rfl
      | some task =>
          have hcall : (task.payload.taskName, pass task.payload.taskName) ∈ pass.calls :=
            List.mem_map.mpr ⟨_, mem_processors _, rfl⟩
          exact if_neg (hnone _ hcall id task hfound rfl)
    have hequal : queuedWork (runUnguarded processNext pass.calls db).1 = queuedWork db :=
      congrArg (Table.total · taskWork) hsame
    omega
  · omega

/-- **The queue drains.**  A worker that nobody disturbs, and whose calls all return, has nothing
left to do after as many passes as tasks can come of the queued ones: three for a discovery, two for
a scan and one for every other task. -/
theorem handle_drains {passes : List Pass} {db : Database} {clock : Time}
    (hcalm : ∀ pass ∈ passes, ∀ name, Calm (pass name))
    (htimely : Timely clock (passes.flatMap Pass.calls)) (hdue : EnqueuedBy clock db.tasks)
    (hreturns : (handle passes db).2 = none) (hlong : queuedWork db ≤ passes.length) :
    ∀ id task, (handle passes db).1.tasks.find? id = some task → task.status ≠ .queued := by
  have hleft : queuedWork (handle passes db).1 ≤ queuedWork db - passes.length := by
    clear hlong
    unfold handle at hreturns ⊢
    induction passes generalizing db clock with
    | nil => exact Nat.le_refl _
    | cons pass passes ih =>
        rw [List.flatMap_cons, timely_append] at htimely
        rw [List.flatMap_cons, runUnguarded_append] at hreturns ⊢
        have hfirst := pass_work (hcalm pass List.mem_cons_self) htimely.1 hdue
        have hpasses : ∀ pass ∈ passes, ∀ name, Calm (pass name) :=
          fun other hother => hcalm other (List.mem_cons_of_mem _ hother)
        cases hpass : runUnguarded processNext pass.calls db with
        | mk db' raised =>
            rw [hpass] at hfirst
            cases raised with
            | some e =>
                simp only [hpass] at hreturns
                cases hreturns
            | none =>
                simp only [hpass] at hreturns ⊢
                obtain ⟨hnext, hless⟩ := hfirst rfl
                change EnqueuedBy _ db'.tasks at hnext
                have hrest := ih hpasses htimely.2 hnext hreturns
                change queuedWork db' ≤ queuedWork db - 1 at hless
                rw [List.length_cons]
                omega
  intro id task hfound
  apply not_queued_of_no_work _ hfound
  omega

/-- What the bodies write when the one endpoint of a discovery is promoted and scanned. -/
def promotedBody : TaskName → Database → Database × Except String BodyResult
  | .discovery, db =>
      ({ db with endpoints := db.endpoints.insert ⟨0, some 0, true⟩ },
        .ok (.discovery ⟨0, .central, 1, none⟩))
  | .scanJob, db =>
      ({ db with snapshots := db.snapshots.insert ⟨0, 1, 1, [], [], []⟩ },
        .ok (.scanJob ⟨0, 0, 1, 1, none⟩))
  | .recompute, db => (db, .ok (.recompute ⟨none, none, [], 0⟩))
  | .qualitativeAssessment, db => (db, .ok .qualitativeAssessment)
  | .performanceRun, db => (db, .ok .performanceRun)

/-- A worker alone with a discovery that asks for a scan and an availability check. -/
def aloneWithDiscovery : Pass := fun name =>
  { selectedAt := 1
    claimedAt := 1
    endedAt := 1
    before := id
    meanwhile := id
    body := fun _ db => promotedBody name db }

/-- The discovery is followed by a scan, and the scan by a performance run. -/
theorem aloneWithDiscovery_drains :
    let db := insertDiscovery {} ⟨.ip, "10.0.0.1", .central, none, [443], true, true, true⟩ 0
    let after := handle [aloneWithDiscovery, aloneWithDiscovery, aloneWithDiscovery] db
    db.tasks.nextId = 1 ∧ after.1.tasks.nextId = 3 ∧ after.2 = none ∧
      ∀ id task, after.1.tasks.find? id = some task → task.status ≠ .queued := by
  have hempty : EnqueuedBy 0 ({} : Database).tasks := fun id task hfound => by cases hfound
  have hcalm : ∀ name, Calm (aloneWithDiscovery name) := by
    intro name
    refine ⟨fun _ => rfl, fun _ => rfl, fun _ _ => ?_⟩
    cases name <;> rfl
  refine ⟨rfl, rfl, rfl, ?_⟩
  apply @handle_drains _ _ 0 _ _ (hempty.later (.insert _ _ rfl) (Nat.le_refl 0)) rfl
  · exact Nat.le_of_eq rfl
  · intro pass hpass name
    simp only [List.mem_cons, List.not_mem_nil, or_false, or_self] at hpass
    rw [hpass]
    exact hcalm name
  · simp [Timely, Pass.calls, processors, aloneWithDiscovery]

end CryptoScanner.Jobs
