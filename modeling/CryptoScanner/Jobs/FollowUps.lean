import CryptoScanner.Jobs.Records

/-!
# The scan that follows a discovery

The completing transaction of a discovery opens a scan of the targets it has promoted, and names it
in the job's result.  In every run the scans that results name are the scans that name a discovery's
job as their origin, one for one.
-/

namespace CryptoScanner.Jobs

open Library Database

/-- The scans that results name are the scans that have an origin, one for one. -/
structure FollowUpsExact (db : Database) : Prop where
  opened : ∀ jobId job followUp, db.jobs.find? jobId = some job → job.linked = some followUp →
    ∃ scanId scanJobId targetIds scan, db.jobs.find? scanId = some scan ∧
      FollowedUp scanJobId scanId jobId job.requestPayload scan.requestPayload followUp targetIds ∧
      db.scanJobs.find? scanJobId =
        some { asyncJob := scanId, targetIds, scannerSelection := [.network] }
  named : ∀ scanId scan jobId, db.jobs.find? scanId = some scan →
    scan.requestPayload.originJob = some jobId →
    ∃ job followUp, db.jobs.find? jobId = some job ∧ job.linked = some followUp ∧
      followUp.scanAsyncJobId = some scanId

theorem JobsChange.scanJob_kept {now : Time} {db db' : Database} (h : JobsChange now db db')
    {id : Id} {row : ScanJob} (hfound : db.scanJobs.find? id = some row) :
    db'.scanJobs.find? id = some row := by
  cases h with
  | same _ hscanJobs => rw [hscanJobs, hfound]
  | opened _ _ _ _ hscanJobs => exact hscanJobs id row hfound
  | saved _ _ hscanJobs => rw [hscanJobs, hfound]
  | followed _ _ _ _ _ _ _ _ _ _ hscanJobs =>
      rw [hscanJobs]
      exact Table.find?_insert_of_find? _ hfound

theorem JobSave.links {now : Time} {job job' : AsyncJob} (h : JobSave now job job')
    (hrecorded : job.Recorded) (hresult : job'.result = job.result ∨ job'.followUpScan = none) :
    job'.links = job.links := by
  have hlinked : job'.linked = job.linked := by
    rcases hresult with hsame | hnone
    · unfold AsyncJob.linked
      rw [hsame]
    · have hbefore : job'.result = job.result ∨ job.result = none := by
        cases h with
        | progressed | begun | failed | cancelled => exact .inl rfl
        | completed progress result hrunning hkind =>
            exact .inr (hrecorded.unended (.inr hrunning)).2.2.1
      rcases hbefore with hsame | hempty
      · unfold AsyncJob.linked
        rw [hsame]
      · rw [AsyncJob.linked_eq_none.mpr hnone, AsyncJob.linked, hempty]
        rfl
  unfold AsyncJob.links
  rw [h.kept.2.1, hlinked]

/-- Rows that show the same links, and rows of new jobs without any. -/
theorem FollowUpsExact.extend {db db' : Database} (hdb : FollowUpsExact db)
    (hold : ∀ id job, db.jobs.find? id = some job →
      ∃ job', db'.jobs.find? id = some job' ∧ job'.links = job.links)
    (hnew : ∀ id job', db'.jobs.find? id = some job' →
      (job'.linked = none ∧ job'.requestPayload.originJob = none) ∨
        ∃ job, db.jobs.find? id = some job ∧ job'.links = job.links)
    (hscanJobs : ∀ id row, db.scanJobs.find? id = some row → db'.scanJobs.find? id = some row) :
    FollowUpsExact db' where
  opened := by
    intro jobId job' followUp hjob hlinked
    rcases hnew jobId job' hjob with ⟨hnone, _⟩ | ⟨job, hbefore, hlinks⟩
    · rw [hnone] at hlinked
      cases hlinked
    · have hlinkedBefore : job.linked = some followUp := by
        rw [← hlinked]
        exact (congrArg Prod.snd hlinks).symm
      obtain ⟨scanId, scanJobId, targetIds, scan, hscan, hspec, hrow⟩ :=
        hdb.opened jobId job followUp hbefore hlinkedBefore
      obtain ⟨scan', hscan', hscanLinks⟩ := hold scanId scan hscan
      have hpayload : scan'.requestPayload = scan.requestPayload := congrArg Prod.fst hscanLinks
      have hrequest : job'.requestPayload = job.requestPayload := congrArg Prod.fst hlinks
      rw [← hpayload, ← hrequest] at hspec
      exact ⟨scanId, scanJobId, targetIds, scan', hscan', hspec, hscanJobs scanJobId _ hrow⟩
  named := by
    intro scanId scan' jobId hscan horigin
    rcases hnew scanId scan' hscan with ⟨_, hnone⟩ | ⟨scan, hbefore, hlinks⟩
    · rw [hnone] at horigin
      cases horigin
    · have hpayload : scan'.requestPayload = scan.requestPayload := congrArg Prod.fst hlinks
      rw [hpayload] at horigin
      obtain ⟨job, followUp, hjob, hlinked, hscanId⟩ := hdb.named scanId scan jobId hbefore horigin
      obtain ⟨job', hjob', hjobLinks⟩ := hold jobId job hjob
      refine ⟨job', followUp, hjob', ?_, hscanId⟩
      rw [← hlinked]
      exact congrArg Prod.snd hjobLinks

section

variable {now : Time} {db db' : Database}

theorem followUpsExact_opened {resourceId : Id} {payload : RequestPayload}
    (horigin : payload.originJob = none)
    (hjobs : db'.jobs = db.jobs.insert (.opened resourceId payload))
    (hscanJobs : ∀ id row, db.scanJobs.find? id = some row → db'.scanJobs.find? id = some row)
    (hdb : FollowUpsExact db) : FollowUpsExact db' := by
  apply hdb.extend _ _ hscanJobs
  · intro id job hjob
    exact ⟨job, by rw [hjobs, Table.find?_insert_of_find? _ hjob], rfl⟩
  · intro id job' hjob
    rw [hjobs, Table.find?_insert] at hjob
    by_cases hid : id = db.jobs.nextId
    · rw [if_pos hid] at hjob
      cases hjob
      exact .inl ⟨rfl, horigin⟩
    · rw [if_neg hid] at hjob
      exact .inr ⟨job', hjob, rfl⟩

theorem followUpsExact_saved {jobId : Id} {f : AsyncJob → AsyncJob}
    (hsave : ∀ job, db.jobs.find? jobId = some job → JobSave now job (f job) ∧
      ((f job).result = job.result ∨ (f job).followUpScan = none))
    (hjobs : db'.jobs = db.jobs.modify jobId f)
    (hscanJobs : ∀ id row, db.scanJobs.find? id = some row → db'.scanJobs.find? id = some row)
    (hrecorded : ∀ jobId job, db.jobs.find? jobId = some job → job.Recorded)
    (hdb : FollowUpsExact db) : FollowUpsExact db' := by
  have hlinks : ∀ job, db.jobs.find? jobId = some job → (f job).links = job.links :=
    fun job hjob => (hsave job hjob).1.links (hrecorded jobId job hjob) (hsave job hjob).2
  have hview : SameView AsyncJob.links db.jobs db'.jobs := by
    rw [hjobs]
    exact SameView.modify db.jobs jobId hlinks
  apply hdb.extend _ _ hscanJobs
  · intro id job hjob
    exact hview.of_find? hjob
  · intro id job' hjob
    obtain ⟨job, hbefore, heq⟩ := hview.find?_of hjob
    exact .inr ⟨job, hbefore, heq.symm⟩

/-- The rows of the jobs when a discovery completes and opens a scan. -/
theorem followed_rows {jobId : Id} {job opened : AsyncJob} {f : AsyncJob → AsyncJob}
    (hjob : db.jobs.find? jobId = some job)
    (hjobs : db'.jobs = (db.jobs.insert opened).modify jobId f) :
    db'.jobs.find? jobId = some (f job) ∧ db'.jobs.find? db.jobs.nextId = some opened ∧
      ∀ id, id ≠ jobId → id ≠ db.jobs.nextId → db'.jobs.find? id = db.jobs.find? id := by
  refine ⟨?_, ?_, fun id hid hnew => ?_⟩
  · rw [hjobs, Table.find?_modify_self, Table.find?_insert_of_find? _ hjob]
    rfl
  · rw [hjobs, Table.find?_modify_ne _ _ (Nat.ne_of_gt (Table.lt_nextId hjob)),
      Table.find?_insert_self]
  · rw [hjobs, Table.find?_modify_ne _ _ hid, Table.find?_insert, if_neg hnew]

/-- Every row is a row of before with the same request, or the new scan. -/
theorem followed_request {jobId : Id} {job opened : AsyncJob} {f : AsyncJob → AsyncJob}
    (hjob : db.jobs.find? jobId = some job)
    (hjobs : db'.jobs = (db.jobs.insert opened).modify jobId f)
    (hf : (f job).requestPayload = job.requestPayload) :
    (∀ id row, db.jobs.find? id = some row → ∃ row', db'.jobs.find? id = some row' ∧
        row'.requestPayload = row.requestPayload ∧ (id ≠ jobId → row' = row)) ∧
      ∀ id row', id ≠ db.jobs.nextId → db'.jobs.find? id = some row' →
        ∃ row, db.jobs.find? id = some row ∧ row'.requestPayload = row.requestPayload := by
  obtain ⟨hself, _, hother⟩ := followed_rows hjob hjobs
  constructor
  · intro id row hrow
    by_cases hid : id = jobId
    · subst hid
      rw [hjob] at hrow
      cases hrow
      exact ⟨_, hself, hf, fun hne => absurd rfl hne⟩
    · have hold : id ≠ db.jobs.nextId := Nat.ne_of_lt (Table.lt_nextId hrow)
      exact ⟨row, by rw [hother id hid hold, hrow], rfl, fun _ => rfl⟩
  · intro id row' hold hrow
    by_cases hid : id = jobId
    · subst hid
      rw [hself] at hrow
      cases hrow
      exact ⟨job, hjob, hf⟩
    · rw [hother id hid hold] at hrow
      exact ⟨row', hrow, rfl⟩

theorem followUpsExact_followed {jobId : Id} {job : AsyncJob} {targetIds : List Id}
    {progress : Progress} {result : DiscoveryResult} {followUp : FollowUp}
    {payload : RequestPayload} (hjob : db.jobs.find? jobId = some job)
    (hrunning : job.status = .running) (hresult : result.followUp = some followUp)
    (hspec : FollowedUp db.scanJobs.nextId db.jobs.nextId jobId job.requestPayload payload followUp
      targetIds)
    (hjobs : db'.jobs = (db.jobs.insert (.opened db.scanJobs.nextId payload)).modify jobId
      (completeJob progress (.discovery result) now))
    (hrows : db'.scanJobs = db.scanJobs.insert
      { asyncJob := db.jobs.nextId, targetIds, scannerSelection := [.network] })
    (hscanJobs : ∀ id row, db.scanJobs.find? id = some row → db'.scanJobs.find? id = some row)
    (hrecorded : ∀ jobId job, db.jobs.find? jobId = some job → job.Recorded)
    (hdb : FollowUpsExact db) : FollowUpsExact db' := by
  obtain ⟨hself, hscan, hother⟩ := followed_rows hjob hjobs
  obtain ⟨hkept, hold⟩ := followed_request hjob hjobs rfl
  have hlinked : (completeJob progress (.discovery result) now job).linked = some followUp := by
    show result.followUp.filter _ = some followUp
    rw [hresult, Option.filter_some, hspec.asyncJob]
    rfl
  -- the job had no result, so it named no scan before
  have hbefore : job.linked = none := by
    rw [AsyncJob.linked, ((hrecorded jobId job hjob).unended (.inr hrunning)).2.2.1]
    rfl
  constructor
  · intro id row followUp' hrow hlinked'
    by_cases hid : id = jobId
    · subst hid
      rw [hself] at hrow
      cases hrow
      rw [hlinked] at hlinked'
      cases hlinked'
      refine ⟨db.jobs.nextId, db.scanJobs.nextId, targetIds, _, hscan, hspec, ?_⟩
      rw [hrows, Table.find?_insert_self]
    · have hnew : id ≠ db.jobs.nextId := by
        intro heq
        rw [heq, hscan] at hrow
        cases hrow
        cases hlinked'
      rw [hother id hid hnew] at hrow
      obtain ⟨scanId, scanJobId, targets, scan, hfound, hspec', hrow'⟩ :=
        hdb.opened id row followUp' hrow hlinked'
      obtain ⟨scan', hfound', hpayload, _⟩ := hkept scanId scan hfound
      exact ⟨scanId, scanJobId, targets, scan', hfound', hpayload ▸ hspec',
        hscanJobs scanJobId _ hrow'⟩
  · intro scanId scan origin hfound horigin
    by_cases hnew : scanId = db.jobs.nextId
    · subst hnew
      rw [hscan] at hfound
      cases hfound
      obtain ⟨discoveryId, hpayload⟩ := hspec.payload_eq
      change payload.originJob = some origin at horigin
      rw [hpayload] at horigin
      cases horigin
      exact ⟨_, followUp, hself, hlinked, hspec.asyncJob⟩
    · obtain ⟨row, hrow, hpayload⟩ := hold scanId scan hnew hfound
      rw [hpayload] at horigin
      obtain ⟨opener, followUp', hopener, hlinked', hscanId⟩ :=
        hdb.named scanId row origin hrow horigin
      have hne : origin ≠ jobId := by
        intro heq
        subst heq
        rw [hjob] at hopener
        cases hopener
        rw [hbefore] at hlinked'
        cases hlinked'
      obtain ⟨opener', hopener', _, hsame⟩ := hkept origin opener hopener
      exact ⟨opener', followUp', hopener', (hsame hne).symm ▸ hlinked', hscanId⟩

theorem JobsChange.followUpsExact (h : JobsChange now db db')
    (hrecorded : ∀ jobId job, db.jobs.find? jobId = some job → job.Recorded)
    (hdb : FollowUpsExact db) : FollowUpsExact db' := by
  have hscanJobs : ∀ id row, db.scanJobs.find? id = some row → db'.scanJobs.find? id = some row :=
    fun _ _ hfound => h.scanJob_kept hfound
  cases h with
  | same hjobs _ =>
      apply hdb.extend _ _ hscanJobs
      · intro id job hjob
        exact ⟨job, by rw [hjobs, hjob], rfl⟩
      · intro id job' hjob
        rw [hjobs] at hjob
        exact .inr ⟨job', hjob, rfl⟩
  | opened _ _ horigin hjobs _ => exact followUpsExact_opened horigin hjobs hscanJobs hdb
  | saved hsave hjobs _ => exact followUpsExact_saved hsave hjobs hscanJobs hrecorded hdb
  | followed _ _ _ _ hjob hrunning _ hresult hspec hjobs hrows =>
      exact followUpsExact_followed hjob hrunning hresult hspec hjobs hrows hscanJobs hrecorded hdb

end

theorem emptySystem_followUpsExact : FollowUpsExact emptySystem.db where
  opened _ _ _ hjob := by cases hjob
  named _ _ _ hscan := by cases hscan

/-- **Exactly-once follow-up.**  In every interleaving a discovery's job names a scan in its result
exactly when that scan names the job as its origin, so that no scan is opened twice, none is lost
and none is opened for a job that did not complete.  The scan covers the targets that the result
counts, each once, and carries the flag of the discovery's request. -/
theorem follow_up_scans_exact {s : System} {as : List FaultyAction}
    (hrun : Run faultyStep (fun _ a => a.Bare) emptySystem as s) (jobId scanId : Id) :
    ((∃ job, s.db.jobs.find? jobId = some job ∧ job.followUpScan = some scanId) ↔
        ∃ scan, s.db.jobs.find? scanId = some scan ∧
          scan.requestPayload.originJob = some jobId) ∧
      ∀ job, s.db.jobs.find? jobId = some job → job.followUpScan = some scanId →
        job.status = .completed ∧ ∃ followUp scanJobId targetIds scan,
          job.result.bind JobResult.followUp = some followUp ∧
          s.db.jobs.find? scanId = some scan ∧
          FollowedUp scanJobId scanId jobId job.requestPayload scan.requestPayload followUp
            targetIds ∧
          s.db.scanJobs.find? scanJobId =
            some { asyncJob := scanId, targetIds, scannerSelection := [.network] } := by
  -- a worker that dies changes no row, so the invariant is one of the steps
  have hinvariant : Kept s ∧ FollowUpsExact s.db := by
    apply hrun.invariant _ ⟨emptySystem_kept, emptySystem_followUpsExact⟩
    intro s a t hs hbare hstep
    refine ⟨faultyStep_kept hs.1 hbare hstep, ?_⟩
    cases a with
    | fault worker =>
        cases hstep
        exact hs.2
    | step action =>
        have hchange := step_change hs.1.sound hs.1.bodies hbare hstep
        exact hchange.followUpsExact hs.1.recorded hs.2
  obtain ⟨hkept, hexact⟩ := hinvariant
  have hdetails : ∀ job, s.db.jobs.find? jobId = some job → job.followUpScan = some scanId →
      ∃ followUp scanJobId targetIds scan, job.result.bind JobResult.followUp = some followUp ∧
        s.db.jobs.find? scanId = some scan ∧
        FollowedUp scanJobId scanId jobId job.requestPayload scan.requestPayload followUp
          targetIds ∧
        s.db.scanJobs.find? scanJobId =
          some { asyncJob := scanId, targetIds, scannerSelection := [.network] } := by
    intro job hjob hscanId
    obtain ⟨followUp, hlinked, hscanId⟩ := AsyncJob.followUpScan_eq_some.mp hscanId
    obtain ⟨scanId', scanJobId, targetIds, scan, hscan, hspec, hrow⟩ :=
      hexact.opened jobId job followUp hjob hlinked
    have heq := hspec.asyncJob
    rw [hscanId] at heq
    cases heq
    exact ⟨followUp, scanJobId, targetIds, scan, (Option.filter_eq_some_iff.mp hlinked).1, hscan,
      hspec, hrow⟩
  refine ⟨⟨?_, ?_⟩, ?_⟩
  · intro h
    obtain ⟨job, hjob, hscanId⟩ := h
    obtain ⟨followUp, scanJobId, targetIds, scan, _, hscan, hspec, _⟩ := hdetails job hjob hscanId
    obtain ⟨discoveryId, hpayload⟩ := hspec.payload_eq
    exact ⟨scan, hscan, by rw [hpayload]; rfl⟩
  · intro h
    obtain ⟨scan, hscan, horigin⟩ := h
    obtain ⟨job, followUp, hjob, hlinked, hscanId⟩ := hexact.named scanId scan jobId hscan horigin
    exact ⟨job, hjob, AsyncJob.followUpScan_eq_some.mpr ⟨followUp, hlinked, hscanId⟩⟩
  · intro job hjob hscanId
    refine ⟨?_, hdetails job hjob hscanId⟩
    -- only completed jobs have a result
    apply (hkept.recorded jobId job hjob).result.mp
    obtain ⟨followUp, _, _, _, hresult, _⟩ := hdetails job hjob hscanId
    cases hnone : job.result with
    | none =>
        rw [hnone] at hresult
        cases hresult
    | some result => rfl

theorem discoveryWithScan_exact : ∃ s, Run faultyStep (fun _ a => a.Bare) emptySystem
    discoveryWithScan s ∧ ∃ scan, s.db.jobs.find? 1 = some scan ∧
      scan.requestPayload.originJob = some 0 := by
  obtain ⟨s, hrun, job, hjob, hscan⟩ := discoveryWithScan_run
  exact ⟨s, hrun, (follow_up_scans_exact hrun 0 1).1.mp ⟨job, hjob, hscan⟩⟩

end CryptoScanner.Jobs
