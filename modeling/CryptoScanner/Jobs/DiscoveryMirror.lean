import CryptoScanner.Jobs.Guarantees

/-!
# A discovery mirrors its current job

Re-running a scope reattaches the discovery to a new job while a worker may still be in the body of
the old one.  In every run in which no body of such a superseded task raises, a discovery has the
status of the job it references, and the worker of a superseded task leaves the row alone.
-/

namespace CryptoScanner

theorem Discovery.view_eq {discovery discovery' : Discovery}
    (h : discovery.view = discovery'.view) :
    discovery.asyncJob = discovery'.asyncJob ∧ discovery.status = discovery'.status := by
  simpa only [Discovery.view, DiscoveryView.mk.injEq] using h

namespace Jobs

open Library Database

/-! ## 1. The invariant -/

/-- Every discovery has the status of its job, no two share one, and an unfinished discovery task
belongs to the job that its discovery references. -/
structure Mirrored (db : Database) : Prop where
  current : ∀ discoveryId discovery, db.discoveries.find? discoveryId = some discovery →
    ∃ job, db.jobs.find? discovery.asyncJob = some job ∧ job.kind = .discovery ∧
      job.status = discovery.status
  job_unique : ∀ discoveryId discoveryId' discovery discovery',
    db.discoveries.find? discoveryId = some discovery →
    db.discoveries.find? discoveryId' = some discovery' →
    discovery.asyncJob = discovery'.asyncJob → discoveryId = discoveryId'
  attached : ∀ taskId task discoveryId, db.tasks.find? taskId = some task →
    task.payload = .discovery discoveryId → ∃ discovery,
      db.discoveries.find? discoveryId = some discovery ∧
        (task.status = .queued ∨ task.status = .running →
          task.asyncJob = some discovery.asyncJob)

/-- The discovery that the task is about references the task's job. -/
def TaskIsCurrent (db : Database) (task : QueuedTask) : Prop :=
  ∀ discoveryId discovery, task.payload = .discovery discoveryId →
    db.discoveries.find? discoveryId = some discovery → task.asyncJob = some discovery.asyncJob

/-- A step in which no body raises, or one of a task that no newer job has superseded. -/
abbrev NoSupersededRaise : System → Action × Time → Prop := FailGuard TaskIsCurrent

/-! ## 2. Changes of a discovery row -/

section RowByRow

variable {db db' : Database}

theorem Advanced.discovery_cases {taskId : Id} {task : QueuedTask} {starts : Nat}
    {status : TaskStatus} (h : Advanced db db' taskId task starts status) {id : Id}
    {discovery' : Discovery} (hfound : db'.discoveries.find? id = some discovery') :
    ∃ discovery, db.discoveries.find? id = some discovery ∧
      discovery'.asyncJob = discovery.asyncJob ∧
      (task.payload = .discovery id ∧ discovery'.status = status.job ∨
        task.payload ≠ .discovery id ∧ discovery' = discovery) := by
  obtain ⟨f, hview, hdiscoveries⟩ := h.discoveries
  rw [hdiscoveries] at hfound
  cases hpayload : task.payload with
  | discovery discoveryId =>
      simp only [hpayload] at hfound
      by_cases hid : id = discoveryId
      · subst hid
        rw [Table.find?_modify_self, Option.map_eq_some_iff] at hfound
        obtain ⟨discovery, hold, rfl⟩ := hfound
        have hrow := hview discovery
        simp only [Discovery.view, DiscoveryView.mk.injEq] at hrow
        exact ⟨discovery, hold, hrow.1, .inl ⟨rfl, hrow.2⟩⟩
      · rw [Table.find?_modify_ne _ f hid] at hfound
        refine ⟨discovery', hfound, rfl, .inr ⟨?_, rfl⟩⟩
        intro heq
        cases heq
        exact hid rfl
  | scanJob | recompute | qualitativeAssessment | performanceRun =>
      simp only [hpayload] at hfound
      exact ⟨discovery', hfound, rfl, .inr ⟨by simp, rfl⟩⟩

theorem Advanced.discovery_kept {taskId : Id} {task : QueuedTask} {starts : Nat}
    {status : TaskStatus} (h : Advanced db db' taskId task starts status) {id : Id}
    {discovery : Discovery} (hfound : db.discoveries.find? id = some discovery) :
    ∃ discovery', db'.discoveries.find? id = some discovery' ∧
      discovery'.asyncJob = discovery.asyncJob := by
  obtain ⟨f, hview, hdiscoveries⟩ := h.discoveries
  rw [hdiscoveries]
  cases hpayload : task.payload with
  | discovery discoveryId =>
      simp only
      by_cases hid : id = discoveryId
      · subst hid
        have hrow := hview discovery
        simp only [Discovery.view, DiscoveryView.mk.injEq] at hrow
        refine ⟨f discovery, ?_, hrow.1⟩
        rw [Table.find?_modify_self, hfound]
        rfl
      · exact ⟨discovery, by rw [Table.find?_modify_ne _ f hid, hfound], rfl⟩
  | scanJob | recompute | qualitativeAssessment | performanceRun =>
      exact ⟨discovery, hfound, rfl⟩

/-- The synchronization reaches exactly the discovery that references the job. -/
theorem syncCancelledResource_find? (hdb : Mirrored db) (jobId : Id) (finishedAt : Time) {id : Id}
    {discovery : Discovery} (hfound : db.discoveries.find? id = some discovery) :
    ∃ discovery', (syncCancelledResource db jobId .discovery finishedAt).discoveries.find? id =
        some discovery' ∧ discovery'.asyncJob = discovery.asyncJob ∧
      (discovery.asyncJob = jobId ∧ discovery'.status = .cancelled ∨
        discovery.asyncJob ≠ jobId ∧ discovery' = discovery) := by
  unfold syncCancelledResource
  rw [if_neg (by simp)]
  cases hfirst : db.discoveries.first? (·.asyncJob == jobId) with
  | none =>
      have hne := Table.first?_eq_none hfirst hfound
      exact ⟨discovery, hfound, rfl, .inr ⟨by simpa using hne, rfl⟩⟩
  | some first =>
      obtain ⟨row, hrow, hjob⟩ := Table.first?_eq_some hfirst
      have hrowJob : row.asyncJob = jobId := by simpa using hjob
      simp only [saveDiscovery_discoveries]
      by_cases hid : id = first
      · subst hid
        rw [hfound] at hrow
        cases hrow
        rw [Table.find?_modify_self, hfound, Option.map_some]
        exact ⟨_, rfl, rfl, .inl ⟨hrowJob, rfl⟩⟩
      · refine ⟨discovery, by rw [Table.find?_modify_ne _ _ hid, hfound], rfl, .inr ⟨?_, rfl⟩⟩
        intro hsame
        exact hid (hdb.job_unique id first discovery row hfound hrow (hsame.trans hrowJob.symm))

end RowByRow

/-! ## 3. The invariant is kept -/

section Preservation

variable {db db' : Database}

theorem Quiet.mirrored (h : Quiet db db') (hdb : Mirrored db) : Mirrored db' where
  current := by
    intro id discovery' hfound
    obtain ⟨discovery, hold, hview⟩ := h.discoveries.find?_of hfound
    obtain ⟨hjobId, hstatus⟩ := Discovery.view_eq hview
    obtain ⟨job, hjob, hkind, hjobStatus⟩ := hdb.current id discovery hold
    obtain ⟨job', hjob', hjobView⟩ := h.jobs.of_find? hjob
    obtain ⟨hkind', hstatus'⟩ := AsyncJob.view_eq hjobView
    rw [← hjobId, ← hstatus]
    exact ⟨job', hjob', hkind'.trans hkind, hstatus'.trans hjobStatus⟩
  job_unique := by
    intro id id' discovery₁ discovery₂ hfound₁ hfound₂ hsame
    obtain ⟨old₁, hold₁, hview₁⟩ := h.discoveries.find?_of hfound₁
    obtain ⟨old₂, hold₂, hview₂⟩ := h.discoveries.find?_of hfound₂
    apply hdb.job_unique id id' old₁ old₂ hold₁ hold₂
    rw [(Discovery.view_eq hview₁).1, hsame, (Discovery.view_eq hview₂).1]
  attached := by
    intro taskId task' id hfound hpayload
    obtain ⟨task, htask, hview⟩ := h.tasks.find?_of hfound
    obtain ⟨hstatus, _, howner, hsame⟩ := QueuedTask.view_eq hview
    obtain ⟨discovery, hold, hactive⟩ := hdb.attached taskId task id htask (hsame.trans hpayload)
    obtain ⟨discovery', hnew, hdiscoveryView⟩ := h.discoveries.of_find? hold
    refine ⟨discovery', hnew, ?_⟩
    rw [(Discovery.view_eq hdiscoveryView).1, ← hstatus, ← howner]
    exact hactive

/-- A task that advances together with its discovery, or that is about none, keeps the mirror. -/
theorem Advanced.mirrored {taskId : Id} {task : QueuedTask} {starts : Nat} {status : TaskStatus}
    (h : Advanced db db' taskId task starts status) (hcoherent : Coherent db)
    (hdb : Mirrored db) (hcurrent : TaskIsCurrent db task) : Mirrored db' where
  current := by
    intro id discovery' hfound
    obtain ⟨discovery, hold, hjobId, hcase⟩ := h.discovery_cases hfound
    obtain ⟨job, hjob, hkind, hjobStatus⟩ := hdb.current id discovery hold
    rw [hjobId]
    rcases hcase with ⟨hpayload, hstatus⟩ | ⟨hpayload, heq⟩
    · have howner := hcurrent id discovery hpayload hold
      obtain ⟨job', hjob', hview⟩ := h.job_self howner hjob
      simp only [AsyncJob.view, JobView.mk.injEq] at hview
      exact ⟨job', hjob', hview.1.trans hkind, hview.2.trans hstatus.symm⟩
    · subst heq
      -- the advanced task is of another kind, or about another discovery with another job
      have hother : task.asyncJob ≠ some discovery'.asyncJob := by
        intro howner
        obtain ⟨job', hjob', hkind', _⟩ :=
          hcoherent.job_of_task taskId task _ h.found howner
        rw [hjob] at hjob'
        cases hjob'
        rw [hkind] at hkind'
        cases hcase : task.payload with
        | discovery other =>
            obtain ⟨row, hrow, _⟩ := hdb.attached taskId task other h.found hcase
            have hrowOwner := hcurrent other row hcase hrow
            rw [howner, Option.some.injEq] at hrowOwner
            have hid := hdb.job_unique id other discovery' row hold hrow hrowOwner
            exact hpayload (by rw [hcase, hid])
        | scanJob | recompute | qualitativeAssessment | performanceRun =>
            rw [hcase] at hkind'
            cases hkind'
      exact ⟨job, by rw [h.job_other hother, hjob], hkind, hjobStatus⟩
  job_unique := by
    intro id id' discovery₁ discovery₂ hfound₁ hfound₂ hsame
    obtain ⟨old₁, hold₁, hjobId₁, _⟩ := h.discovery_cases hfound₁
    obtain ⟨old₂, hold₂, hjobId₂, _⟩ := h.discovery_cases hfound₂
    apply hdb.job_unique id id' old₁ old₂ hold₁ hold₂
    rw [← hjobId₁, hsame, hjobId₂]
  attached := by
    intro id task' discoveryId hfound hpayload
    obtain ⟨old, hold, howner, hsame, hcase⟩ := h.task_cases hfound
    obtain ⟨discovery, hdiscovery, hactive⟩ :=
      hdb.attached id old discoveryId hold (hsame.symm.trans hpayload)
    obtain ⟨discovery', hnew, hjobId⟩ := h.discovery_kept hdiscovery
    refine ⟨discovery', hnew, ?_⟩
    rw [howner, hjobId]
    rcases hcase with ⟨_, heq, _⟩ | ⟨_, heq⟩
    · intro _
      subst heq
      exact hcurrent discoveryId discovery (hsame.symm.trans hpayload) hdiscovery
    · subst heq
      exact hactive

theorem Revoked.mirrored {jobId : Id} {job : AsyncJob} (h : Revoked db db' jobId job)
    (hdb : Mirrored db) : Mirrored db' := by
  obtain ⟨finishedAt, hdiscoveries⟩ := h.discoveries
  -- a discovery keeps its job, and has been cancelled exactly if that is the revoked job
  have hrow : ∀ {id : Id} {discovery : Discovery}, db.discoveries.find? id = some discovery →
      ∃ discovery', db'.discoveries.find? id = some discovery' ∧
        discovery'.asyncJob = discovery.asyncJob ∧
        (discovery.asyncJob = jobId ∧ discovery'.status = .cancelled ∨
          discovery.asyncJob ≠ jobId ∧ discovery' = discovery) := by
    intro id discovery hfound
    rw [hdiscoveries]
    by_cases hkind : job.kind = .discovery
    · rw [hkind]
      exact syncCancelledResource_find? hdb jobId finishedAt hfound
    · unfold syncCancelledResource
      rw [if_pos hkind]
      refine ⟨discovery, hfound, rfl, .inr ⟨?_, rfl⟩⟩
      intro hsame
      obtain ⟨row, hrow, hrowKind, _⟩ := hdb.current id discovery hfound
      rw [hsame, h.found] at hrow
      cases hrow
      exact hkind hrowKind
  have hback : ∀ {id : Id} {discovery' : Discovery},
      db'.discoveries.find? id = some discovery' →
      ∃ discovery, db.discoveries.find? id = some discovery := by
    intro id discovery' hfound
    cases hold : db.discoveries.find? id with
    | some discovery => exact ⟨discovery, rfl⟩
    | none =>
        rw [hdiscoveries] at hfound
        unfold syncCancelledResource at hfound
        split at hfound
        · rw [hold] at hfound
          cases hfound
        · split at hfound
          · rw [hold] at hfound
            cases hfound
          · rw [saveDiscovery_discoveries, Table.find?_modify] at hfound
            split at hfound <;> simp [hold] at hfound
  refine ⟨?_, ?_, ?_⟩
  · intro id discovery' hfound
    obtain ⟨discovery, hold⟩ := hback hfound
    obtain ⟨new, hnew, hjobId, hcase⟩ := hrow hold
    rw [hfound] at hnew
    cases hnew
    obtain ⟨row, hjob, hkind, hstatus⟩ := hdb.current id discovery hold
    rw [hjobId]
    rcases hcase with ⟨hsame, hcancelled⟩ | ⟨hother, heq⟩
    · obtain ⟨job', hjob', hview⟩ := h.job_self
      rw [hsame, h.found] at hjob
      cases hjob
      simp only [AsyncJob.view, JobView.mk.injEq] at hview
      exact ⟨job', by rw [hsame, hjob'], hview.1.trans hkind, hview.2.trans hcancelled.symm⟩
    · subst heq
      exact ⟨row, by rw [h.job_other hother, hjob], hkind, hstatus⟩
  · intro id id' discovery₁ discovery₂ hfound₁ hfound₂ hsame
    obtain ⟨old₁, hold₁⟩ := hback hfound₁
    obtain ⟨old₂, hold₂⟩ := hback hfound₂
    obtain ⟨new₁, hnew₁, hjobId₁, _⟩ := hrow hold₁
    obtain ⟨new₂, hnew₂, hjobId₂, _⟩ := hrow hold₂
    rw [hfound₁] at hnew₁
    rw [hfound₂] at hnew₂
    cases hnew₁
    cases hnew₂
    apply hdb.job_unique id id' old₁ old₂ hold₁ hold₂
    rw [← hjobId₁, hsame, hjobId₂]
  · intro taskId task' discoveryId hfound hpayload
    rw [h.find?_task, Option.map_eq_some_iff] at hfound
    obtain ⟨task, hold, rfl⟩ := hfound
    rw [revokeTask_payload] at hpayload
    obtain ⟨discovery, hdiscovery, hactive⟩ := hdb.attached taskId task discoveryId hold hpayload
    obtain ⟨discovery', hnew, hjobId, _⟩ := hrow hdiscovery
    refine ⟨discovery', hnew, ?_⟩
    rw [revokeTask_asyncJob, hjobId]
    intro hstill
    apply hactive
    unfold revokeTask at hstill
    split at hstill
    · simp at hstill
    · exact hstill

/-- A discovery after a submission is the one the new task is about, or an old one. -/
theorem Submitted.discovery_cases {payload : TaskPayload} (h : Submitted db db' payload) {id : Id}
    {discovery' : Discovery} (hfound : db'.discoveries.find? id = some discovery') :
    (payload = .discovery id ∧ discovery'.asyncJob = db.jobs.nextId ∧
        discovery'.status = .pending) ∨
      (payload ≠ .discovery id ∧ db.discoveries.find? id = some discovery') := by
  have hdiscoveries := h.discoveries
  cases hpayload : payload with
  | discovery discoveryId =>
      simp only [hpayload] at hdiscoveries
      have hne : id ≠ discoveryId → TaskPayload.discovery discoveryId ≠ .discovery id := by
        intro hid heq
        cases heq
        exact hid rfl
      rcases hdiscoveries with ⟨discovery, f, hold, _, _, hview, hmodify⟩ |
        ⟨new, hnext, hjobId, hstatus, hinsert⟩
      · rw [hmodify] at hfound
        by_cases hid : id = discoveryId
        · subst hid
          rw [Table.find?_modify_self, hold] at hfound
          cases hfound
          exact .inl ⟨rfl, (hview discovery).1, (hview discovery).2⟩
        · rw [Table.find?_modify_ne _ f hid] at hfound
          exact .inr ⟨hne hid, hfound⟩
      · rw [hinsert, Table.find?_insert] at hfound
        by_cases hid : id = db.discoveries.nextId
        · rw [if_pos hid] at hfound
          cases hfound
          exact .inl ⟨by rw [hnext, hid], hjobId, hstatus⟩
        · rw [if_neg hid] at hfound
          exact .inr ⟨hne (by rw [hnext]; exact hid), hfound⟩
  | scanJob | recompute | qualitativeAssessment | performanceRun =>
      simp only [hpayload] at hdiscoveries
      rw [hdiscoveries] at hfound
      exact .inr ⟨by simp, hfound⟩

theorem Submitted.discovery_kept {payload : TaskPayload} (h : Submitted db db' payload) {id : Id}
    {discovery : Discovery} (hne : payload ≠ .discovery id)
    (hfound : db.discoveries.find? id = some discovery) :
    db'.discoveries.find? id = some discovery := by
  have hdiscoveries := h.discoveries
  cases hpayload : payload with
  | discovery discoveryId =>
      simp only [hpayload] at hdiscoveries
      have hid : id ≠ discoveryId := by
        intro hid
        exact hne (by rw [hpayload, hid])
      rcases hdiscoveries with ⟨row, f, _, _, _, _, hmodify⟩ | ⟨new, _, _, _, hinsert⟩
      · rw [hmodify, Table.find?_modify_ne _ f hid, hfound]
      · rw [hinsert]
        exact Table.find?_insert_of_find? new hfound
  | scanJob | recompute | qualitativeAssessment | performanceRun =>
      simp only [hpayload] at hdiscoveries
      rw [hdiscoveries, hfound]

theorem Submitted.discovery_new {id : Id} (h : Submitted db db' (.discovery id)) :
    ∃ discovery', db'.discoveries.find? id = some discovery' ∧
      discovery'.asyncJob = db.jobs.nextId := by
  have hdiscoveries := h.discoveries
  simp only at hdiscoveries
  rcases hdiscoveries with ⟨row, f, hold, _, _, hview, hmodify⟩ | ⟨new, hnext, hjobId, _, hinsert⟩
  · refine ⟨f row, ?_, (hview row).1⟩
    rw [hmodify, Table.find?_modify_self, hold]
    rfl
  · exact ⟨new, by rw [hinsert, hnext, Table.find?_insert_self], hjobId⟩

/-- A discovery that is taken over by a new job has no unfinished task. -/
theorem Submitted.discovery_settled {id taskId : Id} {task : QueuedTask}
    (h : Submitted db db' (.discovery id)) (hcoherent : Coherent db) (hdb : Mirrored db)
    (hfound : db.tasks.find? taskId = some task) (hpayload : task.payload = .discovery id) :
    ¬ (task.status = .queued ∨ task.status = .running) := by
  intro hactive
  obtain ⟨discovery, hold, howner⟩ := hdb.attached taskId task id hfound hpayload
  obtain ⟨job, hjob, _, hstatus⟩ := hdb.current id discovery hold
  have htask := hcoherent.job_status hfound (howner hactive) hjob
  have hdiscoveries := h.discoveries
  simp only at hdiscoveries
  rcases hdiscoveries with ⟨row, f, hrow, hpending, hrunning, _, _⟩ | ⟨new, hnext, _, _, _⟩
  · rw [hold] at hrow
    cases hrow
    rw [← hstatus, htask] at hpending hrunning
    rcases hactive with hqueued | hbusy
    · exact hpending (by rw [hqueued]; rfl)
    · exact hrunning (by rw [hbusy]; rfl)
  · rw [hnext, Table.find?_nextId] at hold
    cases hold

theorem Submitted.mirrored {payload : TaskPayload} (h : Submitted db db' payload)
    (hcoherent : Coherent db) (hdb : Mirrored db) : Mirrored db' where
  current := by
    intro id discovery' hfound
    rcases h.discovery_cases hfound with ⟨hpayload, hjobId, hstatus⟩ | ⟨_, hold⟩
    · obtain ⟨job, hjob, hview⟩ := h.job_new (show payload.kind = some .discovery by rw [hpayload]; rfl)
      simp only [AsyncJob.view, JobView.mk.injEq] at hview
      exact ⟨job, by rw [hjobId, hjob], hview.1, hview.2.trans hstatus.symm⟩
    · obtain ⟨job, hjob, hkind, hstatus⟩ := hdb.current id discovery' hold
      exact ⟨job, h.job_old hjob, hkind, hstatus⟩
  job_unique := by
    intro id id' discovery₁ discovery₂ hfound₁ hfound₂ hsame
    -- an old discovery has an old job
    have hne : ∀ {k : Id} {row : Discovery}, db.discoveries.find? k = some row →
        row.asyncJob ≠ db.jobs.nextId := by
      intro k row hrow hnext
      obtain ⟨job, hjob, _⟩ := hdb.current k row hrow
      rw [hnext, Table.find?_nextId] at hjob
      cases hjob
    rcases h.discovery_cases hfound₁ with ⟨hpayload₁, hjobId₁, _⟩ | ⟨_, hold₁⟩
    · rcases h.discovery_cases hfound₂ with ⟨hpayload₂, _, _⟩ | ⟨_, hold₂⟩
      · rw [hpayload₁] at hpayload₂
        cases hpayload₂
        rfl
      · exact absurd (hsame.symm.trans hjobId₁) (hne hold₂)
    · rcases h.discovery_cases hfound₂ with ⟨_, hjobId₂, _⟩ | ⟨_, hold₂⟩
      · exact absurd (hsame.trans hjobId₂) (hne hold₁)
      · exact hdb.job_unique id id' discovery₁ discovery₂ hold₁ hold₂ hsame
  attached := by
    intro taskId task' id hfound hpayload'
    rcases h.task_cases hfound with ⟨_, hview⟩ | hold
    · simp only [QueuedTask.view, TaskView.mk.injEq] at hview
      obtain ⟨_, _, howner, hsame⟩ := hview
      have hpayload : payload = .discovery id := hsame.symm.trans hpayload'
      subst hpayload
      obtain ⟨discovery', hnew, hjobId⟩ := h.discovery_new
      refine ⟨discovery', hnew, fun _ => ?_⟩
      rw [howner, hjobId]
      rfl
    · by_cases hpayload : payload = .discovery id
      · subst hpayload
        obtain ⟨discovery', hnew, _⟩ := h.discovery_new
        refine ⟨discovery', hnew, fun hactive => ?_⟩
        exact absurd hactive (h.discovery_settled hcoherent hdb hold hpayload')
      · obtain ⟨discovery, hdiscovery, hactive⟩ := hdb.attached taskId task' id hold hpayload'
        exact ⟨discovery, h.discovery_kept hpayload hdiscovery, hactive⟩

theorem Mirrored.taskIsCurrent (hdb : Mirrored db) {taskId : Id} {task : QueuedTask}
    (hfound : db.tasks.find? taskId = some task)
    (hactive : task.status = .queued ∨ task.status = .running) : TaskIsCurrent db task := by
  intro discoveryId discovery hpayload hdiscovery
  obtain ⟨row, hrow, howner⟩ := hdb.attached taskId task discoveryId hfound hpayload
  rw [hdiscovery] at hrow
  cases hrow
  exact howner hactive

end Preservation

/-! ## 4. Runs -/

theorem Event.mirrored {s s' : System} (h : Event TaskIsCurrent s s') (hs : Sound s)
    (hdb : Mirrored s.db) : Mirrored s'.db := by
  cases h with
  | quiet hchange => exact hchange.mirrored hdb
  | submitted hchange => exact hchange.mirrored hs.coherent hdb
  | claimed _ hqueued hchange =>
      exact hchange.mirrored hs.coherent hdb (hdb.taskIsCurrent hchange.found (.inl hqueued))
  | @completed worker taskId task hbusy hlive hchange =>
      apply hchange.mirrored hs.coherent hdb
      obtain ⟨row, hrow, hstatus⟩ := busy_task hs.valid hbusy
      rw [hchange.found] at hrow
      cases hrow
      rcases hstatus with hrunning | ⟨hcancelled, hrevocable⟩
      · exact hdb.taskIsCurrent hchange.found (.inr hrunning)
      · exact absurd hcancelled (hlive hrevocable)
  | failed _ hcurrent hchange => exact hchange.mirrored hs.coherent hdb hcurrent
  | released _ hchange => exact hchange.mirrored hdb
  | revoked hchange => exact hchange.mirrored hdb

theorem admits_any (mayFail : Database → QueuedTask → Prop) : Admits mayFail fun _ => True :=
  fun _ _ _ _ _ _ _ => trivial

theorem Events.mirrored {s s' : System} (h : Events TaskIsCurrent s s') (hs : Sound s)
    (hdb : Mirrored s.db) : Mirrored s'.db := by
  induction h with
  | refl => exact hdb
  | tail hevents hevent ih =>
      exact hevent.mirrored (Events.sound (admits_any _) hevents hs).1 ih

theorem run_mirrored {s s' : System} {as : List (Action × Time)}
    (h : Run step NoSupersededRaise s as s') (hs : Sound s) (hdb : Mirrored s.db) :
    Sound s' ∧ Mirrored s'.db := by
  induction h with
  | nil s => exact ⟨hs, hdb⟩
  | cons hguard hstep _ ih =>
      have hevents := step_events hs.coherent hguard hstep
      exact ih (hevents.sound (admits_any _) hs).1 (hevents.mirrored hs hdb)

theorem emptySystem_mirrored : Mirrored emptySystem.db := by
  have hdiscoveries : ∀ id, emptySystem.db.discoveries.find? id = none := fun _ => rfl
  have htasks : ∀ id, emptySystem.db.tasks.find? id = none := fun _ => rfl
  refine ⟨?_, ?_, ?_⟩
  · intro id discovery h
    rw [hdiscoveries] at h
    cases h
  · intro id id' discovery discovery' h
    rw [hdiscoveries] at h
    cases h
  · intro taskId task id h
    rw [htasks] at h
    cases h

/-! ## 5. The worker of a superseded task -/

/-- The steps that a worker takes while it is in a body. -/
def Action.ofWorker (worker : WorkerId) : Action → Prop
  | .write w _ => w = worker
  | .finish w _ => w = worker
  | .raise w _ => w = worker
  | _ => False

theorem bodyWrite_discoveries (db : Database) (task : QueuedTask) (now : Time)
    (write : BodyWrite) : (bodyWrite db task now write).discoveries = db.discoveries := by
  cases write with
  | updateProgress completed total target scanner =>
      unfold bodyWrite
      cases task.asyncJob <;> rfl
  | saveSnapshot snapshot => rfl
  | saveEndpoint endpoint => rfl
  | updateRun status runner =>
      unfold bodyWrite
      cases task.payload <;> rfl

/-- Completing a discovery task whose job is cancelled only drops the task. -/
theorem complete_cancelled_discovery {db db' : Database} {taskId discoveryId jobId : Id}
    {task : QueuedTask} {job : AsyncJob} {result : BodyResult} {now : Time}
    (hfound : db.tasks.find? taskId = some task) (hpayload : task.payload = .discovery discoveryId)
    (howner : task.asyncJob = some jobId) (hjob : db.jobs.find? jobId = some job)
    (hcancelled : job.status = .cancelled) (h : complete db taskId result now = .ok db') :
    db'.discoveries = db.discoveries := by
  unfold complete at h
  rw [get_bind hfound] at h
  cases result with
  | discovery result =>
      simp only [hpayload, completeDiscoveryTask, get_bind hfound, howner, get_bind hjob] at h
      rw [if_pos hcancelled] at h
      cases h
      rfl
  | scanJob | recompute | qualitativeAssessment | performanceRun =>
      simp only [hpayload] at h
      cases h

/-- **A discovery mirrors its job.**  In every run from the empty system in which no body of a
superseded discovery task raises, every discovery has the status of the job it references, and no
step of a worker whose task a newer job has superseded changes the row. -/
theorem discovery_mirrors_current_job {s : System} {as : List (Action × Time)}
    (hrun : Run step NoSupersededRaise emptySystem as s) :
    (∀ discoveryId discovery, s.db.discoveries.find? discoveryId = some discovery →
      ∃ job, s.db.jobs.find? discovery.asyncJob = some job ∧ job.status = discovery.status) ∧
    ∀ worker taskId task discoveryId discovery action now s', s.busy worker = some taskId →
      s.db.tasks.find? taskId = some task → task.payload = .discovery discoveryId →
      s.db.discoveries.find? discoveryId = some discovery →
      task.asyncJob ≠ some discovery.asyncJob → action.ofWorker worker →
      NoSupersededRaise s (action, now) → step s (action, now) = some s' →
      s'.db.discoveries.find? discoveryId = some discovery := by
  obtain ⟨hsound, hmirrored⟩ :=
    run_mirrored hrun emptySystem_populated.sound emptySystem_mirrored
  constructor
  · intro discoveryId discovery hfound
    obtain ⟨job, hjob, _, hstatus⟩ := hmirrored.current discoveryId discovery hfound
    exact ⟨job, hjob, hstatus⟩
  · intro worker taskId task discoveryId discovery action now s' hbusy hfound hpayload hdiscovery
      hsuperseded hworker hguard hstep
    cases action with
    | write w write =>
        cases hworker
        simp only [step, Option.bind_eq_bind, hbusy, Option.bind_some, hfound] at hstep
        cases hstep
        show (bodyWrite s.db task now write).discoveries.find? discoveryId = some discovery
        rw [bodyWrite_discoveries, hdiscovery]
    | finish w result =>
        cases hworker
        simp only [step, Option.bind_eq_bind, hbusy, Option.bind_some] at hstep
        cases hstep
        -- an unfinished task is current, so the superseded one was cancelled, and so was its job
        obtain ⟨row, hrow, hstatus⟩ := busy_task hsound.valid hbusy
        rw [hfound] at hrow
        cases hrow
        rcases hstatus with hrunning | ⟨hcancelled, hrevocable⟩
        · have hcurrent := hmirrored.taskIsCurrent hfound (.inr hrunning)
          exact absurd (hcurrent discoveryId discovery hpayload hdiscovery) hsuperseded
        · obtain ⟨jobId, job, howner, hjob, hjobStatus⟩ :=
            hsound.coherent.job_cancelled hfound hrevocable hcancelled
          cases hcomplete : complete s.db taskId result now with
          | error e => exact hdiscovery
          | ok db' =>
              show db'.discoveries.find? discoveryId = some discovery
              rw [complete_cancelled_discovery hfound hpayload howner hjob hjobStatus hcomplete,
                hdiscovery]
    | raise w error =>
        cases hworker
        have hcurrent := hguard worker error now taskId task rfl hbusy hfound
        exact absurd (hcurrent discoveryId discovery hpayload hdiscovery) hsuperseded
    | createScanJob | createDiscovery | insertDiscovery | createRecomputeJob
    | enqueueQualitativeAssessment | createRun | cancel | claim => cases hworker

def discoverySubnet : DiscoveryCreate :=
  { scopeType := .cidr
    scopeValue := "10.0.0.0/24"
    executorType := .central
    agentId := none
    ports := []
    includeDefaultPorts := true
    autoScan := true
    autoAvailabilityCheck := true }

/-- A discovery is cancelled while its worker is in the body, and re-run. -/
def rerunAfterCancel : List (Action × Time) :=
  [(.createDiscovery discoverySubnet, 1), (.insertDiscovery 0, 1), (.claim 0 0, 2), (.cancel 0, 3),
    (.createDiscovery discoverySubnet, 4)]

theorem rerunAfterCancel_noSupersededRaise {s : System} {a : Action × Time}
    (h : a ∈ rerunAfterCancel) : NoSupersededRaise s a := by
  obtain ⟨action, now⟩ := a
  apply failGuard_of_no_raise
  intro worker error heq
  subst heq
  simp [rerunAfterCancel] at h

/-- The superseded worker returns, and the row keeps mirroring the new job. -/
theorem rerunAfterCancel_mirrored :
    ∃ s, Run step NoSupersededRaise emptySystem rerunAfterCancel s ∧
      (s.db.discoveries.find? 0).map (fun row => (row.asyncJob, row.status)) =
        some (1, .pending) ∧
      (∀ discoveryId discovery, s.db.discoveries.find? discoveryId = some discovery →
        ∃ job, s.db.jobs.find? discovery.asyncJob = some job ∧ job.status = discovery.status) ∧
      ∃ s', step s (.finish 0 (.discovery ⟨0, .central, 0, none⟩), 5) = some s' ∧
        s'.db.discoveries.find? 0 = s.db.discoveries.find? 0 := by
  have hguard : ∀ s a, a ∈ rerunAfterCancel → NoSupersededRaise s a :=
    fun _ _ => rerunAfterCancel_noSupersededRaise
  obtain ⟨s, hrun, hrow, discovery, hdiscovery, task, htask, hbusy, howner, s', hstep⟩ :
      ∃ s, Run step NoSupersededRaise emptySystem rerunAfterCancel s ∧
        (s.db.discoveries.find? 0).map (fun row => (row.asyncJob, row.status)) =
          some (1, .pending) ∧
        ∃ discovery, s.db.discoveries.find? 0 = some discovery ∧
          ∃ task, (s.db.tasks.find? 0 = some task ∧ task.payload = .discovery 0) ∧
            s.busy 0 = some 0 ∧ task.asyncJob ≠ some discovery.asyncJob ∧
              ∃ s', step s (.finish 0 (.discovery ⟨0, .central, 0, none⟩), 5) = some s' :=
    ⟨_, .cons (hguard _ _ (by simp [rerunAfterCancel])) rfl
      (.cons (hguard _ _ (by simp [rerunAfterCancel])) rfl
      (.cons (hguard _ _ (by simp [rerunAfterCancel])) rfl
      (.cons (hguard _ _ (by simp [rerunAfterCancel])) rfl
      (.cons (hguard _ _ (by simp [rerunAfterCancel])) rfl (.nil _))))), rfl, _, rfl, _,
      ⟨rfl, rfl⟩, rfl, by decide, _, rfl⟩
  obtain ⟨hmirrors, hworker⟩ := discovery_mirrors_current_job hrun
  refine ⟨s, hrun, hrow, hmirrors, s', hstep, ?_⟩
  rw [hdiscovery]
  exact hworker 0 0 task 0 discovery (.finish 0 (.discovery ⟨0, .central, 0, none⟩)) 5 s' hbusy htask.1 htask.2 hdiscovery howner rfl
    (failGuard_of_no_raise (by simp)) hstep

/-- The superseded worker raises, and the row says FAILED while its new job is pending. -/
theorem rerunAfterCancel_overwritten :
    ∃ s, Run step anyStep emptySystem (rerunAfterCancel ++ [(.raise 0 "timed out", 5)]) s ∧
      ∃ discovery, s.db.discoveries.find? 0 = some discovery ∧ discovery.status = .failed ∧
        ∃ job, s.db.jobs.find? discovery.asyncJob = some job ∧ job.status = .pending :=
  ⟨_, .cons trivial rfl (.cons trivial rfl (.cons trivial rfl (.cons trivial rfl
    (.cons trivial rfl (.cons trivial rfl (.nil _)))))), _, rfl, rfl, _, rfl, rfl⟩

end Jobs

end CryptoScanner
