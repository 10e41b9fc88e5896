import CryptoScanner.Jobs.RowChanges

/-!
# What a job's row records of its run

Over whole runs the status of a job determines which of its other fields are set, and its times are
in order if the clock does not go back.
-/

namespace CryptoScanner

open Library

/-! ## 1. What the status says of the other fields -/

structure AsyncJob.Recorded (job : AsyncJob) : Prop where
  waiting : job.status = .pending → job.startedAt = none
  started : job.status = .running ∨ job.status = .completed ∨ job.status = .failed →
    job.startedAt.isSome = true
  finished : job.finishedAt.isSome = true ↔ job.status.Terminal
  requested : job.status = .cancelled → job.cancelRequestedAt.isSome = true
  /-- A failed job may have been cancelled before. -/
  of_requested : job.cancelRequestedAt.isSome = true → job.status = .cancelled ∨ job.status = .failed
  result : job.result.isSome = true ↔ job.status = .completed
  result_kind : ∀ result, job.result = some result → result.kind = job.kind
  payload_kind : job.requestPayload.kind = job.kind
  error : job.error.isSome = true ↔ job.status = .failed

/-- The times of a job that are set are in order, and none is later than `clock`. -/
structure AsyncJob.InOrder (clock : Time) (job : AsyncJob) : Prop where
  started : ∀ t, job.startedAt = some t → t ≤ clock
  requested : ∀ t, job.cancelRequestedAt = some t → t ≤ clock
  finished : ∀ t, job.finishedAt = some t → t ≤ clock
  started_requested : ∀ t u, job.startedAt = some t → job.cancelRequestedAt = some u → t ≤ u
  started_finished : ∀ t u, job.startedAt = some t → job.finishedAt = some u → t ≤ u
  requested_finished : ∀ t u, job.cancelRequestedAt = some t → job.finishedAt = some u → t ≤ u

theorem AsyncJob.opened_recorded (resourceId : Id) (payload : RequestPayload) :
    (AsyncJob.opened resourceId payload).Recorded := by
  constructor <;> simp [AsyncJob.opened, JobStatus.Terminal]

/-- Nothing of a job that has not ended is set but its start. -/
theorem AsyncJob.Recorded.unended {job : AsyncJob} (h : job.Recorded)
    (hstatus : job.status = .pending ∨ job.status = .running) :
    job.finishedAt = none ∧ job.cancelRequestedAt = none ∧ job.result = none ∧
      job.error = none := by
  have hopen : ¬ job.status.Terminal ∧ ¬ (job.status = .cancelled ∨ job.status = .failed) ∧
      job.status ≠ .completed ∧ job.status ≠ .failed := by
    rcases hstatus with hstatus | hstatus <;> rw [hstatus] <;> decide
  obtain ⟨hfinished, hrequested, hresult, herror⟩ := hopen
  rw [← h.finished, Option.not_isSome_iff_eq_none] at hfinished
  rw [ne_eq, ← h.result, Option.not_isSome_iff_eq_none] at hresult
  rw [ne_eq, ← h.error, Option.not_isSome_iff_eq_none] at herror
  refine ⟨hfinished, ?_, hresult, herror⟩
  rw [← Option.not_isSome_iff_eq_none]
  exact fun hsome => hrequested (h.of_requested hsome)

namespace Jobs

open Database

theorem JobSave.recorded {now : Time} {job job' : AsyncJob} (h : JobSave now job job')
    (hjob : job.Recorded) : job'.Recorded := by
  cases h with
  | progressed progress =>
      exact ⟨hjob.waiting, hjob.started, hjob.finished, hjob.requested, hjob.of_requested,
        hjob.result, hjob.result_kind, hjob.payload_kind, hjob.error⟩
  | begun progress hpending =>
      obtain ⟨hfinished, hrequested, hresult, herror⟩ := hjob.unended (.inl hpending)
      have hpayload := hjob.payload_kind
      constructor <;> simp_all [beginJob, JobStatus.Terminal]
  | completed progress result hrunning hkind =>
      obtain ⟨-, hrequested, -, -⟩ := hjob.unended (.inr hrunning)
      have hstarted := hjob.started (.inl hrunning)
      have hpayload := hjob.payload_kind
      constructor <;> simp_all [completeJob, JobStatus.Terminal]
  | failed error hstatus hstarted =>
      -- a job that is cancelled has no result either
      have hresult : job.result = none := by
        have hiff := hjob.result
        rcases hstatus with hrunning | hcancelled <;> simp_all
      have hpayload := hjob.payload_kind
      constructor <;> simp_all [failJob, JobStatus.Terminal]
  | cancelled hcancellable =>
      obtain ⟨hcompleted, hfailed, -⟩ := hcancellable
      have hresult : job.result = none := by
        have hiff := hjob.result
        simp_all
      have herror : job.error = none := by
        have hiff := hjob.error
        simp_all
      have hpayload := hjob.payload_kind
      constructor <;> simp_all [cancelRow, JobStatus.Terminal]

theorem JobSave.inOrder {clock now : Time} {job job' : AsyncJob} (h : JobSave now job job')
    (hrecorded : job.Recorded) (hjob : job.InOrder clock) (hclock : clock ≤ now) :
    job'.InOrder now := by
  -- the times that are there lie before the new time as well
  have hlater : job.InOrder now :=
    ⟨fun t ht => (hjob.started t ht).trans hclock, fun t ht => (hjob.requested t ht).trans hclock,
      fun t ht => (hjob.finished t ht).trans hclock, hjob.started_requested, hjob.started_finished,
      hjob.requested_finished⟩
  cases h with
  | progressed progress =>
      exact ⟨hlater.started, hlater.requested, hlater.finished, hlater.started_requested,
        hlater.started_finished, hlater.requested_finished⟩
  | begun progress hpending =>
      obtain ⟨hfinished, hrequested, -, -⟩ := hrecorded.unended (.inl hpending)
      have hstarted := hrecorded.waiting hpending
      constructor <;> simp [beginJob, hfinished, hrequested, hstarted]
  | completed progress result hrunning hkind =>
      constructor
      · exact hlater.started
      · exact hlater.requested
      · intro t ht
        cases ht
        exact Nat.le_refl now
      · exact hlater.started_requested
      · intro t u ht hu
        cases hu
        exact hlater.started t ht
      · intro t u ht hu
        cases hu
        exact hlater.requested t ht
  | failed error hstatus hstarted =>
      constructor
      · exact hlater.started
      · exact hlater.requested
      · intro t ht
        cases ht
        exact Nat.le_refl now
      · exact hlater.started_requested
      · intro t u ht hu
        cases hu
        exact hlater.started t ht
      · intro t u ht hu
        cases hu
        exact hlater.requested t ht
  | cancelled hcancellable =>
      by_cases hcancelled : job.status = .cancelled
      · -- a second request finds both times set
        obtain ⟨requested, hrequested⟩ := Option.isSome_iff_exists.mp (hrecorded.requested hcancelled)
        obtain ⟨finished, hfinished⟩ := Option.isSome_iff_exists.mp
          (hrecorded.finished.mpr (.inr (.inr hcancelled)))
        have hsame : cancelRow now job = { job with status := .cancelled } := by
          unfold cancelRow
          rw [hrequested, hfinished]
          rfl
        rw [hsame]
        exact ⟨hlater.started, hlater.requested, hlater.finished, hlater.started_requested,
          hlater.started_finished, hlater.requested_finished⟩
      · have hunended : job.status = .pending ∨ job.status = .running := by
          obtain ⟨hcompleted, hfailed, -⟩ := hcancellable
          cases hstatus : job.status <;> simp_all
        obtain ⟨hfinished, hrequested, -, -⟩ := hrecorded.unended hunended
        constructor <;> simp [cancelRow, hfinished, hrequested]
        · exact hlater.started
        · exact hlater.started
        · exact hlater.started

/-! ## 2. Whole runs -/

/-- The invariant of the runs whose bodies return bare results. -/
structure Kept (s : System) : Prop where
  sound : Sound s
  bodies : BodiesStarted s
  recorded : ∀ jobId job, s.db.jobs.find? jobId = some job → job.Recorded

def FaultyAction.time? : FaultyAction → Option Time
  | .step (_, now) => some now
  | .fault _ => none

theorem JobsChange.recorded {now : Time} {db db' : Database} (h : JobsChange now db db')
    (hdb : ∀ jobId job, db.jobs.find? jobId = some job → job.Recorded) :
    ∀ jobId job, db'.jobs.find? jobId = some job → job.Recorded := by
  intro jobId job' hfound
  rcases h.job_cases hfound with ⟨_, resourceId, payload, heq⟩ | ⟨job, hold, heq | hsave⟩
  · rw [heq]
    exact AsyncJob.opened_recorded resourceId payload
  · rw [heq]
    exact hdb jobId job hold
  · exact hsave.recorded (hdb jobId job hold)

theorem JobsChange.inOrder {clock now : Time} {db db' : Database} (h : JobsChange now db db')
    (hrecorded : ∀ jobId job, db.jobs.find? jobId = some job → job.Recorded)
    (hdb : ∀ jobId job, db.jobs.find? jobId = some job → job.InOrder clock) (hclock : clock ≤ now) :
    ∀ jobId job, db'.jobs.find? jobId = some job → job.InOrder now := by
  intro jobId job' hfound
  rcases h.job_cases hfound with ⟨_, resourceId, payload, heq⟩ | ⟨job, hold, hsave⟩
  · rw [heq]
    constructor <;> simp [AsyncJob.opened]
  · have hsave' : JobSave now job job' := by
      rcases hsave with heq | hsave
      · rw [heq]
        exact .progressed job.progress
      · exact hsave
    exact hsave'.inOrder (hrecorded jobId job hold) (hdb jobId job hold) hclock

theorem step_kept {s s' : System} {action : Action} {now : Time} (hs : Kept s)
    (hbare : (FaultyAction.step (action, now)).Bare) (h : step s (action, now) = some s') :
    Kept s' := by
  have hchange := step_change hs.sound hs.bodies hbare h
  obtain ⟨hsound, hlater⟩ := run_sound_any (.single trivial h) hs.sound
  have hrecorded := hchange.recorded hs.recorded
  refine ⟨hsound, ?_, hrecorded⟩
  intro worker taskId task jobId job hbusy hfound howner hjob
  -- the job runs, or the worker was in the body before and the job had started
  have hrunning : task.status = .running → job.startedAt.isSome = true := by
    intro hstatus
    apply (hrecorded jobId job hjob).started
    left
    rw [hsound.coherent.job_status hfound howner hjob, hstatus]
    rfl
  rcases step_busy hs.sound h hbusy with hbefore | ⟨task', hfound', hstatus⟩
  · obtain ⟨old, hold, _⟩ := busy_task hs.sound.valid hbefore
    obtain ⟨task', hfound', howner'⟩ := hlater.owner taskId old hold
    rw [hfound] at hfound'
    cases hfound'
    rw [howner] at howner'
    obtain ⟨oldJob, hjobBefore, _⟩ :=
      hs.sound.coherent.job_of_task taskId old jobId hold howner'.symm
    have hstartedBefore := hs.bodies worker taskId old jobId oldJob hbefore hold howner'.symm
      hjobBefore
    obtain ⟨job', hjob', hsave⟩ := hchange.job_kept hjobBefore
    rw [hjob] at hjob'
    cases hjob'
    rcases hsave with heq | hsave
    · rw [heq]
      exact hstartedBefore
    · obtain ⟨t, ht⟩ := Option.isSome_iff_exists.mp hstartedBefore
      rw [hsave.kept.2.2 t ht]
      rfl
  · rw [hfound] at hfound'
    cases hfound'
    exact hrunning hstatus

theorem faultyStep_kept {s s' : System} {a : FaultyAction} (hs : Kept s) (hbare : a.Bare)
    (h : faultyStep s a = some s') : Kept s' := by
  cases a with
  | step action => exact step_kept hs hbare h
  | fault worker =>
      cases h
      refine ⟨faultyStep_sound hs.sound (a := .fault worker) rfl, ?_, hs.recorded⟩
      intro other taskId task jobId job hbusy
      apply hs.bodies other taskId task jobId job
      change Function.update s.busy worker none other = some taskId at hbusy
      by_cases heq : other = worker
      · subst heq
        rw [Function.update_self] at hbusy
        cases hbusy
      · rwa [Function.update_of_ne heq] at hbusy

theorem emptySystem_kept : Kept emptySystem := by
  refine ⟨emptySystem_populated.sound, ?_, ?_⟩
  · intro worker taskId task jobId job hbusy
    cases hbusy
  · intro jobId job hjob
    have hnone : emptySystem.db.jobs.find? jobId = none := rfl
    rw [hnone] at hjob
    cases hjob

theorem run_kept {s s' : System} {as : List FaultyAction}
    (hrun : Run faultyStep (fun _ a => a.Bare) s as s') (hs : Kept s) : Kept s' :=
  hrun.invariant (fun _ _ _ hs hbare hstep => faultyStep_kept hs hbare hstep) hs

/-- The jobs of a run along which the clock does not go back. -/
theorem run_inOrder {s s' : System} {as : List FaultyAction} {clock : Time}
    (hrun : Run faultyStep (fun _ a => a.Bare) s as s') (hs : Kept s)
    (horder : ∀ jobId job, s.db.jobs.find? jobId = some job → job.InOrder clock)
    (htimes : (clock :: as.filterMap FaultyAction.time?).Pairwise (· ≤ ·)) :
    ∀ jobId job, s'.db.jobs.find? jobId = some job →
      job.InOrder ((as.filterMap FaultyAction.time?).getLastD clock) := by
  induction hrun generalizing clock with
  | nil s => exact horder
  | @cons s t u a as hbare hstep _ ih =>
      have ht := faultyStep_kept hs hbare hstep
      cases a with
      | fault worker =>
          cases hstep
          exact ih ht horder htimes
      | step action =>
          obtain ⟨action, now⟩ := action
          have hchange := step_change hs.sound hs.bodies hbare hstep
          rw [List.filterMap_cons] at htimes
          obtain ⟨hclock, htimes⟩ := List.pairwise_cons.mp htimes
          have hle : clock ≤ now := hclock now List.mem_cons_self
          have hlast : ((FaultyAction.step (action, now) :: as).filterMap
              FaultyAction.time?).getLastD clock =
              (as.filterMap FaultyAction.time?).getLastD now := List.getLastD_cons
          rw [hlast]
          exact ih ht (hchange.inOrder hs.recorded horder hle) htimes

/-- A discovery that promotes one endpoint and completes; its scan is opened as job 1. -/
def discoveryWithScan : List FaultyAction :=
  [.step (.createDiscovery ⟨.ip, "10.0.0.1", .central, none, [443], true, true, true⟩, 1),
    .step (.insertDiscovery 0, 1), .step (.claim 0 0, 2),
    .step (.write 0 (.saveEndpoint ⟨0, some 0, true⟩), 3), .fault 1,
    .step (.finish 0 (.discovery ⟨0, .central, 1, none⟩), 4)]

theorem discoveryWithScan_run :
    ∃ s, Run faultyStep (fun _ a => a.Bare) emptySystem discoveryWithScan s ∧
      ∃ job, s.db.jobs.find? 0 = some job ∧ job.followUpScan = some 1 := by
  have hbare : ∀ a ∈ discoveryWithScan, a.Bare := by
    simp [discoveryWithScan, FaultyAction.Bare, BodyResult.Bare]
  exact ⟨_, Run.of_runAll_of_forall rfl fun a ha _ => hbare a ha, _, rfl, rfl⟩

end Jobs

end CryptoScanner
