import CryptoScanner.Jobs.Guarantees

/-!
# How many discoveries a scope has

No transaction changes the scope of a discovery, so a second row for one scope can only be inserted.
-/

namespace CryptoScanner

/-- What `create_discovery` looks a row up by. -/
structure DiscoveryScope where
  scopeType : ScopeType
  scopeValue : String
  executorType : ExecutorType
  agent : Option Id
  deriving DecidableEq, Repr

def Discovery.scope (discovery : Discovery) : DiscoveryScope :=
  ⟨discovery.scopeType, discovery.scopeValue, discovery.executorType, discovery.discoveryAgent⟩

def DiscoveryCreate.scope (request : DiscoveryCreate) : DiscoveryScope :=
  ⟨request.scopeType, request.scopeValue, request.executorType, request.agentId⟩

namespace Jobs

open Library Database

/-! ## 1. Scopes are kept -/

abbrev ScopesKept (db db' : Database) : Prop :=
  SameView Discovery.scope db.discoveries db'.discoveries

theorem ScopesKept.trans {a b c : Database} (h : ScopesKept a b) (h' : ScopesKept b c) :
    ScopesKept a c :=
  fun id => (h' id).trans (h id)

theorem ScopesKept.of_eq {db db' : Database} (h : db'.discoveries = db.discoveries) :
    ScopesKept db db' := by
  rw [ScopesKept, h]
  exact SameView.refl _ _

theorem ScopesKept.save {db db' : Database} {discoveryId : Id} {f : Discovery → Discovery}
    (hf : ∀ discovery, (f discovery).scope = discovery.scope)
    (h : db'.discoveries = db.discoveries.modify discoveryId f) : ScopesKept db db' := by
  rw [ScopesKept, h]
  exact SameView.modify _ _ fun row _ => hf row

section Transactions

variable {db db' : Database} {taskId : Id} {now : Time}

theorem claimTask_scopes {prepare : Database → QueuedTask → Except DbError Prepared} {c : Claim}
    (hprepare : ∀ task prepared, prepare db task = .ok prepared →
      ∀ db', ScopesKept db' (prepared.saveResource db'))
    (h : claimTask prepare db taskId now = .ok c) : ScopesKept db c.db := by
  obtain ⟨task, -, hcase⟩ := claimTask_cases h
  rcases hcase with ⟨-, rfl⟩ | ⟨-, prepared, hprepared, hstart⟩
  · exact .of_eq rfl
  · have hsave := hprepare task prepared hprepared
    rcases hstart with ⟨-, rfl⟩ | ⟨jobId, progress, job, -, -, hstart⟩
    · exact hsave (db.saveTask taskId (takeTask now))
    · rcases hstart with ⟨-, rfl⟩ | rfl
      · exact .of_eq rfl
      · exact hsave ((db.saveTask taskId (takeTask now)).saveJob jobId (beginJob progress now))

theorem claim_scopes {c : Claim} (h : claim db taskId now = .ok c) : ScopesKept db c.db := by
  unfold claim at h
  rw [bind_eq_ok] at h
  obtain ⟨task, -, h⟩ := h
  -- a discovery that begins keeps its scope; the other kinds save no discovery
  cases hpayload : task.payload with
  | scanJob scanJobId targetIds scanners =>
      simp only [hpayload] at h
      apply claimTask_scopes _ h
      intro task prepared hprepared db'
      cases hjob : task.asyncJob with
      | none =>
          rw [hjob] at hprepared
          cases hprepared
      | some jobId =>
          simp only [hjob, bind_eq_ok] at hprepared
          obtain ⟨scanJob, -, hprepared⟩ := hprepared
          cases hprepared
          exact .of_eq rfl
  | discovery discoveryId =>
      simp only [hpayload] at h
      apply claimTask_scopes _ h
      intro task prepared hprepared db'
      rw [bind_eq_ok] at hprepared
      obtain ⟨discovery, -, hprepared⟩ := hprepared
      cases hprepared
      exact .save (f := beginDiscovery now) (fun _ => rfl) rfl
  | recompute request =>
      simp only [hpayload] at h
      apply claimTask_scopes _ h
      intro task prepared hprepared db'
      cases hprepared
      exact .of_eq rfl
  | qualitativeAssessment assetId =>
      simp only [hpayload] at h
      apply claimTask_scopes _ h
      intro task prepared hprepared db'
      cases hprepared
      exact .of_eq rfl
  | performanceRun runId snapshotId =>
      simp only [hpayload] at h
      apply claimTask_scopes _ h
      intro task prepared hprepared db'
      rw [bind_eq_ok] at hprepared
      obtain ⟨run, -, hprepared⟩ := hprepared
      cases hprepared
      by_cases hpending : run.status = .pending
      · simp only [hpending, if_true]
        exact .of_eq rfl
      · simp only [hpending, if_false]
        exact .of_eq rfl

theorem completeScanJobTask_scopes {result : ScanResult}
    (h : completeScanJobTask db taskId result now = .ok db') : ScopesKept db db' := by
  unfold completeScanJobTask at h
  rw [bind_eq_ok] at h
  obtain ⟨task, -, h⟩ := h
  cases hjobId : task.asyncJob with
  | none =>
      rw [hjobId] at h
      cases h
  | some jobId =>
      simp only [hjobId, bind_eq_ok] at h
      obtain ⟨job, -, h⟩ := h
      split at h
      · cases h
        exact .of_eq rfl
      · simp only [bind_eq_ok] at h
        obtain ⟨⟨result', mid⟩, hcheck, h⟩ := h
        cases h
        unfold enqueueAvailabilityCheckIfRequested at hcheck
        split at hcheck
        · cases hcheck
          exact .of_eq rfl
        · rw [bind_eq_ok] at hcheck
          obtain ⟨snapshot, -, hcheck⟩ := hcheck
          cases hcheck
          exact .of_eq rfl

theorem enqueueFollowUpScan_discoveries (db : Database) (discoveryId jobId : Id) (job : AsyncJob)
    (result : DiscoveryResult) (now : Time) :
    (enqueueFollowUpScan db discoveryId jobId job result now).2.discoveries = db.discoveries := by
  rcases enqueueFollowUpScan_cases db discoveryId jobId job result now with h | ⟨_, _, h⟩
  · rw [h]
  · rw [h]
    rfl

theorem completeDiscoveryTask_scopes {discoveryId : Id} {result : DiscoveryResult}
    (h : completeDiscoveryTask db taskId discoveryId result now = .ok db') : ScopesKept db db' := by
  have hsettled : ScopesKept db
      ((db.saveTask taskId completeTask).saveDiscovery discoveryId (completeDiscovery now)) :=
    .save (f := completeDiscovery now) (fun _ => rfl) rfl
  unfold completeDiscoveryTask at h
  rw [bind_eq_ok] at h
  obtain ⟨task, -, h⟩ := h
  cases hjobId : task.asyncJob with
  | none =>
      simp only [hjobId] at h
      cases h
      exact hsettled
  | some jobId =>
      simp only [hjobId, bind_eq_ok] at h
      obtain ⟨job, -, h⟩ := h
      split at h
      · cases h
        exact .of_eq rfl
      · split at h
        · cases h
          exact hsettled.trans (.of_eq (enqueueFollowUpScan_discoveries _ _ _ _ _ _))
        · cases h
          exact hsettled

theorem complete_scopes {result : BodyResult} (h : complete db taskId result now = .ok db') :
    ScopesKept db db' := by
  unfold complete at h
  rw [bind_eq_ok] at h
  obtain ⟨task, -, h⟩ := h
  cases hpayload : task.payload <;> cases result <;> simp only [hpayload] at h
  case scanJob.scanJob => exact completeScanJobTask_scopes h
  case discovery.discovery => exact completeDiscoveryTask_scopes h
  case recompute.recompute =>
    unfold completeRecomputeTask at h
    rw [bind_eq_ok] at h
    obtain ⟨task', -, h⟩ := h
    cases hjobId : task'.asyncJob <;> simp only [hjobId] at h <;> cases h <;> exact .of_eq rfl
  case qualitativeAssessment.qualitativeAssessment | performanceRun.performanceRun =>
    unfold completeJoblessTask at h
    rw [bind_eq_ok] at h
    obtain ⟨task', -, h⟩ := h
    cases h
    exact .of_eq rfl
  all_goals cases h

theorem fail_scopes {error : String} (h : fail db taskId error now = .ok db') :
    ScopesKept db db' := by
  unfold fail at h
  rw [bind_eq_ok] at h
  obtain ⟨task, -, h⟩ := h
  cases hpayload : task.payload with
  | scanJob scanJobId targetIds scanners =>
      simp only [hpayload, failScanJobTask, bind_eq_ok] at h
      obtain ⟨task', -, h⟩ := h
      cases hjobId : task'.asyncJob <;> simp only [hjobId] at h <;> cases h
      exact .of_eq rfl
  | discovery discoveryId =>
      simp only [hpayload, failDiscoveryTask, bind_eq_ok] at h
      obtain ⟨task', -, h⟩ := h
      cases hjobId : task'.asyncJob <;> simp only [hjobId] at h <;> cases h <;>
        exact .save (f := failDiscovery error now) (fun _ => rfl) rfl
  | recompute request =>
      simp only [hpayload, failRecomputeTask, bind_eq_ok] at h
      obtain ⟨task', -, h⟩ := h
      cases hjobId : task'.asyncJob <;> simp only [hjobId] at h <;> cases h <;> exact .of_eq rfl
  | qualitativeAssessment assetId =>
      simp only [hpayload, failQualitativeAssessmentTask, bind_eq_ok] at h
      obtain ⟨task', -, h⟩ := h
      cases h
      exact .of_eq rfl
  | performanceRun runId snapshotId =>
      simp only [hpayload, failPerformanceRunTask, bind_eq_ok] at h
      obtain ⟨task', -, h⟩ := h
      cases h
      exact .of_eq rfl

theorem cancelJob_scopes (db : Database) (jobId : Id) (now : Time) :
    ScopesKept db (cancelJob db jobId now).1 := by
  rcases cancelJob_changes db jobId now with h | ⟨job, h⟩
  · rw [h]
    exact .of_eq rfl
  · obtain ⟨finishedAt, hdiscoveries⟩ := h.discoveries
    unfold syncCancelledResource at hdiscoveries
    split at hdiscoveries
    · exact .of_eq hdiscoveries
    · split at hdiscoveries
      · exact .of_eq hdiscoveries
      · refine .save ?_ hdiscoveries
        intro discovery
        rfl

end Transactions

theorem bodyWrite_scopes (db : Database) (task : QueuedTask) (now : Time) (write : BodyWrite) :
    ScopesKept db (bodyWrite db task now write) := by
  apply ScopesKept.of_eq
  cases write with
  | updateProgress =>
      unfold bodyWrite
      cases task.asyncJob <;> rfl
  | saveSnapshot | saveEndpoint => rfl
  | updateRun =>
      unfold bodyWrite
      cases task.payload <;> rfl

/-! ## 2. One row for each scope -/

def OnePerScope (db : Database) : Prop :=
  ∀ id id' discovery discovery', db.discoveries.find? id = some discovery →
    db.discoveries.find? id' = some discovery' → discovery.scope = discovery'.scope → id = id'

/-- At most one discovery of a scope has a job that is pending or running. -/
def OneActivePerScope (db : Database) : Prop :=
  ∀ id id' discovery discovery', db.discoveries.find? id = some discovery →
    db.discoveries.find? id' = some discovery' → discovery.scope = discovery'.scope →
    ∀ job job', db.jobs.find? discovery.asyncJob = some job →
      db.jobs.find? discovery'.asyncJob = some job' →
      (job.status = .pending ∨ job.status = .running) →
      (job'.status = .pending ∨ job'.status = .running) → id = id'

/-- A request that has found no row of its scope inserts one while there still is none. -/
def InsertsFirst (s : System) (a : Action × Time) : Prop :=
  ∀ index now request, a = (.insertDiscovery index, now) → s.posting[index]? = some request →
    ∀ id discovery, s.db.discoveries.find? id = some discovery → discovery.scope ≠ request.scope

theorem OnePerScope.kept {db db' : Database} (hdb : OnePerScope db) (h : ScopesKept db db') :
    OnePerScope db' := by
  intro id id' discovery discovery' hfound hfound' hscope
  obtain ⟨old, hold, hsame⟩ := h.find?_of hfound
  obtain ⟨old', hold', hsame'⟩ := h.find?_of hfound'
  exact hdb id id' old old' hold hold' (hsame.trans (hscope.trans hsame'.symm))

theorem OnePerScope.insert {db db' : Database} (hdb : OnePerScope db) {new : Discovery}
    (hnew : ∀ id discovery, db.discoveries.find? id = some discovery →
      discovery.scope ≠ new.scope)
    (h : db'.discoveries = db.discoveries.insert new) : OnePerScope db' := by
  intro id id' discovery discovery' hfound hfound' hscope
  rw [h, Table.find?_insert] at hfound hfound'
  split at hfound
  · rename_i hid
    cases hfound
    split at hfound'
    · rename_i hid'
      rw [hid, hid']
    · exact absurd hscope.symm (hnew id' discovery' hfound')
  · split at hfound'
    · cases hfound'
      exact absurd hscope (hnew id discovery hfound)
    · exact hdb id id' discovery discovery' hfound hfound' hscope

theorem OnePerScope.active {db : Database} (hdb : OnePerScope db) : OneActivePerScope db :=
  fun id id' discovery discovery' hfound hfound' hscope _ _ _ _ _ _ =>
    hdb id id' discovery discovery' hfound hfound' hscope

/-- One step keeps the scopes, or inserts the row of a request that waits. -/
theorem step_scopes {s s' : System} {a : Action × Time} (h : step s a = some s') :
    ScopesKept s.db s'.db ∨ ∃ index now request, a = (.insertDiscovery index, now) ∧
      s.posting[index]? = some request ∧ s'.db = insertDiscovery s.db request now := by
  obtain ⟨action, now⟩ := a
  -- only `insertDiscovery` adds a discovery; every other action changes one at most
  cases action with
  | createScanJob | createRecomputeJob | enqueueQualitativeAssessment =>
      cases h
      exact .inl (.of_eq rfl)
  | createRun snapshotId trigger profile autoStart =>
      cases h
      cases autoStart <;> exact .inl (.of_eq rfl)
  | createDiscovery request =>
      left
      simp only [step] at h
      split at h
      · cases h
        exact .of_eq rfl
      · rename_i discoveryId _
        rw [Option.bind_eq_bind, Option.bind_eq_some_iff] at h
        obtain ⟨discovery, hfound, h⟩ := h
        split at h
        · cases h
          exact .of_eq rfl
        · cases h
          exact .save (f := reattach request s.db.jobs.nextId) (fun _ => rfl) rfl
  | insertDiscovery index =>
      right
      simp only [step, Option.bind_eq_bind, Option.bind_eq_some_iff] at h
      obtain ⟨request, hrequest, h⟩ := h
      cases h
      exact ⟨index, now, request, rfl, hrequest, rfl⟩
  | cancel jobId =>
      cases h
      exact .inl (cancelJob_scopes s.db jobId now)
  | claim worker taskId =>
      left
      simp only [step] at h
      split at h
      · cases h
      · cases hclaim : claim s.db taskId now with
        | error e =>
            simp only [hclaim] at h
            cases h
            exact .of_eq rfl
        | ok c =>
            have hkept := claim_scopes hclaim
            cases c <;> simp only [hclaim] at h <;> cases h <;> exact hkept
  | write worker write =>
      simp only [step, Option.bind_eq_bind, Option.bind_eq_some_iff] at h
      obtain ⟨taskId, -, task, -, h⟩ := h
      cases h
      exact .inl (bodyWrite_scopes s.db task now write)
  | finish worker result =>
      simp only [step, Option.bind_eq_bind, Option.bind_eq_some_iff] at h
      obtain ⟨taskId, -, h⟩ := h
      cases h
      cases hcomplete : complete s.db taskId result now with
      | error e => exact .inl (.of_eq rfl)
      | ok db' => exact .inl (complete_scopes hcomplete)
  | raise worker error =>
      simp only [step, Option.bind_eq_bind, Option.bind_eq_some_iff] at h
      obtain ⟨taskId, -, h⟩ := h
      cases h
      cases hfail : fail s.db taskId error now with
      | error e => exact .inl (.of_eq rfl)
      | ok db' => exact .inl (fail_scopes hfail)

theorem insertDiscovery_row (db : Database) (request : DiscoveryCreate) (now : Time) :
    ∃ new : Discovery, new.scope = request.scope ∧
      (insertDiscovery db request now).discoveries = db.discoveries.insert new :=
  ⟨_, rfl, rfl⟩

theorem step_onePerScope {s s' : System} {a : Action × Time} (hs : OnePerScope s.db)
    (hguard : InsertsFirst s a) (h : step s a = some s') : OnePerScope s'.db := by
  rcases step_scopes h with hkept | ⟨index, now, request, rfl, hrequest, hdb⟩
  · exact hs.kept hkept
  · have hnew := hguard index now request rfl hrequest
    obtain ⟨new, hscope, hinsert⟩ := insertDiscovery_row s.db request now
    rw [hdb]
    rw [← hscope] at hnew
    exact hs.insert hnew hinsert

/-- The condition is exact: a second row of a scope breaks it. -/
theorem insert_second_row {db : Database} {request : DiscoveryCreate} {id : Id}
    {discovery : Discovery} (now : Time) (hfound : db.discoveries.find? id = some discovery)
    (hscope : discovery.scope = request.scope) :
    ¬ OnePerScope (insertDiscovery db request now) := by
  intro h
  obtain ⟨new, hnew, hinsert⟩ := insertDiscovery_row db request now
  have hold : (insertDiscovery db request now).discoveries.find? id = some discovery := by
    rw [hinsert]
    exact Table.find?_insert_of_find? new hfound
  have hlast : (insertDiscovery db request now).discoveries.find? db.discoveries.nextId =
      some new := by
    rw [hinsert, Table.find?_insert_self]
  have hsame := h id _ discovery new hold hlast (hscope.trans hnew.symm)
  have hlt := Table.lt_nextId hfound
  omega

/-- **One discovery for each scope.**  It holds in every state of every run in which each request
that found no row inserts while there still is none. -/
theorem one_discovery_per_scope {s₀ s : System} {as : List (Action × Time)}
    (h₀ : OnePerScope s₀.db) (hrun : Run step InsertsFirst s₀ as s) :
    OnePerScope s.db ∧ OneActivePerScope s.db := by
  have hone : OnePerScope s.db :=
    hrun.invariant (I := fun s => OnePerScope s.db)
      (fun _ _ _ hs hguard hstep => step_onePerScope hs hguard hstep) h₀
  exact ⟨hone, hone.active⟩

def scanSubnet : DiscoveryCreate :=
  { scopeType := .cidr
    scopeValue := "10.0.0.0/24"
    executorType := .central
    agentId := none
    ports := []
    includeDefaultPorts := true
    autoScan := true
    autoAvailabilityCheck := true }

theorem emptySystem_onePerScope : OnePerScope emptySystem.db := by
  intro id id' discovery discovery' hfound
  cases hfound

/-- One request, its discovery cancelled, and the same request again. -/
theorem scanSubnet_rerun_once : ∃ s,
    Run step InsertsFirst emptySystem [(.createDiscovery scanSubnet, 1), (.insertDiscovery 0, 1),
      (.cancel 0, 2), (.createDiscovery scanSubnet, 3)] s ∧
      OnePerScope s.db ∧ OneActivePerScope s.db := by
  have hother : ∀ (s : System) (action : Action) (now : Time),
      (∀ index, action ≠ .insertDiscovery index) → InsertsFirst s (action, now) := by
    intro s action now hne index now' request heq
    cases heq
    exact absurd rfl (hne index)
  obtain ⟨s, hrun⟩ : ∃ s, Run step InsertsFirst emptySystem
      [(.createDiscovery scanSubnet, 1), (.insertDiscovery 0, 1), (.cancel 0, 2),
        (.createDiscovery scanSubnet, 3)] s := by
    refine ⟨_, .cons (hother _ _ _ (by simp)) rfl (.cons ?_ rfl
      (.cons (hother _ _ _ (by simp)) rfl (.cons (hother _ _ _ (by simp)) rfl (.nil _))))⟩
    intro index now request _ _ id discovery hfound
    cases hfound
  exact ⟨s, hrun, one_discovery_per_scope emptySystem_onePerScope hrun⟩

/-- Two first requests for one scope whose lookups both come before the inserts. -/
theorem simultaneous_requests_duplicate : ¬ ∀ (s : System) (as : List (Action × Time)),
    Run step anyStep emptySystem as s → OnePerScope s.db ∧ OneActivePerScope s.db := by
  intro h
  have hrun : ∃ s, Run step anyStep emptySystem
      [(.createDiscovery scanSubnet, 1), (.createDiscovery scanSubnet, 1), (.insertDiscovery 0, 2),
        (.insertDiscovery 0, 2)] s ∧
        (∃ discovery, s.db.discoveries.find? 0 = some discovery ∧
          discovery.scope = scanSubnet.scope) ∧
        ∃ discovery, s.db.discoveries.find? 1 = some discovery ∧
          discovery.scope = scanSubnet.scope :=
    ⟨_, .cons trivial rfl (.cons trivial rfl (.cons trivial rfl (.cons trivial rfl (.nil _)))),
      ⟨_, rfl, rfl⟩, ⟨_, rfl, rfl⟩⟩
  obtain ⟨s, hrun, ⟨discovery, hfound, hscope⟩, discovery', hfound', hscope'⟩ := hrun
  have hsame := (h s _ hrun).1 0 1 discovery discovery' hfound hfound' (hscope.trans hscope'.symm)
  cases hsame

end Jobs

end CryptoScanner
