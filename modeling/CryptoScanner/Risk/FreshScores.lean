import CryptoScanner.Risk.ScoreRows
import CryptoScanner.Targets.OperatorContext

/-!
# Scores and the rows they were read off

Requests and scans change rows that scores depend on, and recompute tasks bring the scores up to
date.  An operation is a request, a claim, one write of a running scan, or a body from the statement
that reads its rows to its completing transaction.
-/

namespace CryptoScanner.Risk

open Library Python RiskEngine Scan Targets

/-! ## 1. The operations -/

inductive Operation
  | createTarget (payload : Target)
  | patchTarget (targetId : Id) (patch : TargetPatch)
  | deleteTarget (targetId : Id)
  | patchContext (assetId : Id) (patch : AssetContextPatch)
  | createRecomputeJob (request : RecomputeRequest)
  | createScanJob (targetIds : List Id) (scanners : List Scanner)
  | startScan (taskId : Id)
  /-- The homepage inference for a target whose context was `loaded` by the scan. -/
  | infer (targetId : Id) (loaded : TargetContext) (inference : Option HomepageInference)
  | finishScan (taskId : Id) (candidates : List AssetCandidate) (result : ScanResult)
  | startRecompute (taskId : Id)
  | finishRecompute (taskId : Id) (result : RecomputeResult)

def startedBy : Except DbError Jobs.Claim → Option Database
  | .ok (.started db) => some db
  | _ => none

def applyInference (db : Database) (targetId : Id) (loaded : TargetContext)
    (inference : Option HomepageInference) : Database :=
  { db with targets := (applyHomepageContextInference db.targets targetId loaded inference).1 }

section

variable [PyText] (floatRepr : PyFloat → List Char)

/-- The snapshot of a scan with its scores; `none` where a row refers to a target that is gone, two
rows have one reference, or the default weights are out of range. -/
def storeScan (db : Database) (scanJobId : Id) (candidates : List AssetCandidate) :
    Option Database :=
  if (dedupeCandidates floatRepr candidates).all fun candidate =>
      (db.targets.find? candidate.targetId).isSome then
    match persistSnapshot floatRepr db scanJobId candidates with
    | (persisted, none) => (recomputeSnapshotRisks persisted db.snapshots.nextId none).toOption
    | (_, some _) => none
  else none

/-- One operation at the time `now`; `none` where it is not enabled, refused or raises. -/
def operationStep (db : Database) : Operation × Time → Option Database
  | (.createTarget payload, _) => createTarget db payload
  | (.patchTarget targetId patch, now) => patchTarget db targetId patch now
  | (.deleteTarget targetId, _) => deleteTarget db targetId
  | (.patchContext assetId patch, now) => patchAssetContext db assetId patch now
  | (.createRecomputeJob request, now) => some (Jobs.createRecomputeJob db request now)
  | (.createScanJob targetIds scanners, now) => some (Jobs.createScanJob db targetIds scanners now)
  | (.startScan taskId, now) => startedBy (Jobs.claimScanJobTask db taskId now)
  | (.infer targetId loaded inference, _) => some (applyInference db targetId loaded inference)
  | (.finishScan taskId candidates result, now) => do
      let task ← db.tasks.find? taskId
      match task.payload, task.status with
      | .scanJob scanJobId _ _, .running => do
          let stored ← storeScan floatRepr db scanJobId candidates
          (Jobs.completeScanJobTask stored taskId result now).toOption
      | _, _ => none
  | (.startRecompute taskId, now) => startedBy (Jobs.claimRecomputeTask db taskId now)
  | (.finishRecompute taskId result, now) => do
      let task ← db.tasks.find? taskId
      match task.payload, task.status with
      | .recompute request, .running => do
          let scored ← (runRecomputePayload db request).toOption
          (Jobs.completeRecomputeTask scored taskId result now).toOption
      | _, _ => none

/-! ## 2. The property and the condition -/

/-- The score is that of its asset on the rows as they are, with the weights stored in it. -/
def Current (db : Database) (score : RiskScore) : Prop :=
  ∀ asset, db.assets.find? score.asset = some asset →
    currentRisk db score.asset asset score.result.weights = .ok score.result

/-- Every crypto asset that has a score has its current one. -/
def Fresh (db : Database) : Prop :=
  ∀ id score asset, db.scores.find? id = some score → db.assets.find? score.asset = some asset →
    isCrypto asset = true → Current db score

omit [PyText] in
/-- A recompute task for the request is queued or running. -/
def Waiting (db : Database) (request : RecomputeRequest) : Prop :=
  ∃ taskId task, db.tasks.find? taskId = some task ∧ task.payload = .recompute request ∧
    (task.status = .queued ∨ task.status = .running)

omit [PyText] in
def Covers (request : RecomputeRequest) (assetId : Id) (asset : Asset) : Prop :=
  match request.assetId, request.targetId, request.snapshotId with
  | some id, _, _ => id = assetId
  | none, some targetId, _ => asset.target = some targetId ∧ isCrypto asset = true
  | none, none, some snapshotId => asset.snapshot = some snapshotId ∧ isCrypto asset = true
  -- `run_recompute_payload` raises without an id
  | none, none, none => False

omit [PyText] in
def Covered (db : Database) (assetId : Id) (asset : Asset) : Prop :=
  ∃ request, Waiting db request ∧ Covers request assetId asset

/-- With the row `next` for the target, each of its scored crypto assets waits for a recompute or
keeps its risk. -/
def KeepsRisk (db : Database) (targetId : Id) (next : Target) : Prop :=
  ∀ id score asset, db.scores.find? id = some score → db.assets.find? score.asset = some asset →
    isCrypto asset = true → asset.target = some targetId →
      Covered db score.asset asset ∨
        riskWith asset (some next) (overrideOf db score.asset) score.result.weights =
          currentRisk db score.asset asset score.result.weights

/-- Without the target, each of its scored crypto assets still waits for a recompute, or it has its
current score and keeps its risk. -/
def KeepsRiskWithout (db : Database) (targetId : Id) : Prop :=
  ∀ id score asset, db.scores.find? id = some score → db.assets.find? score.asset = some asset →
    isCrypto asset = true → asset.target = some targetId →
      Covered db score.asset { asset with target := none } ∨
        (Current db score ∧
          riskWith asset none (overrideOf db score.asset) score.result.weights =
            currentRisk db score.asset asset score.result.weights)

/-- What changes a target without a recompute of its own changes the risk of no asset that is not
going to be recomputed. -/
def Harmless (db : Database) : Operation × Time → Prop
  | (.patchTarget targetId patch, _) =>
      ∀ target next, db.targets.find? targetId = some target → patch.apply target = some next →
        patch.sendsColumns = true → patch.changesContext target = false →
          KeepsRisk db targetId next
  | (.deleteTarget targetId, _) => KeepsRiskWithout db targetId
  | (.infer targetId loaded inference, _) =>
      ∀ target inferred, db.targets.find? targetId = some target → inference = some inferred →
        infers loaded inferred = true →
          KeepsRisk db targetId { target with context := inferredContext loaded inferred }
  | _ => True

omit [PyText] in
/-- The foreign keys of assets lead to targets. -/
def Linked (db : Database) : Prop :=
  ∀ assetId asset targetId, db.assets.find? assetId = some asset →
    asset.target = some targetId → ∃ target, db.targets.find? targetId = some target

/-- What every harmless operation keeps: a score that is not current waits for a recompute. -/
structure Tracked (db : Database) : Prop where
  linked : Linked db
  tracked : ∀ id score asset, db.scores.find? id = some score →
    db.assets.find? score.asset = some asset → isCrypto asset = true →
      Current db score ∨ Covered db score.asset asset

end

/-! ## 3. What a risk depends on -/

/-- The rows that risks are read off are the same. -/
structure SameRows (db db' : Database) : Prop where
  assets : db'.assets = db.assets
  targets : db'.targets = db.targets
  overrides : db'.overrides = db.overrides

/-- Recompute tasks go on waiting. -/
def StillWaiting (db db' : Database) : Prop := ∀ request, Waiting db request → Waiting db' request

theorem SameRows.trans {db db' db'' : Database} (h : SameRows db db') (h' : SameRows db' db'') :
    SameRows db db'' :=
  ⟨h'.assets.trans h.assets, h'.targets.trans h.targets, h'.overrides.trans h.overrides⟩

theorem SameRows.symm {db db' : Database} (h : SameRows db db') : SameRows db' db :=
  ⟨h.assets.symm, h.targets.symm, h.overrides.symm⟩

theorem Linked.congr {db db' : Database} (h : Linked db) (hassets : db'.assets = db.assets)
    (htargets : db'.targets = db.targets) : Linked db' := by
  unfold Linked
  rw [hassets, htargets]
  exact h

theorem overrideOf_congr {db db' : Database} (h : db'.overrides = db.overrides) (assetId : Id) :
    overrideOf db' assetId = overrideOf db assetId := by
  rw [overrideOf, overrideOf, h]

theorem StillWaiting.covered {db db' : Database} (h : StillWaiting db db') {assetId : Id}
    {asset : Asset} (hcovered : Covered db assetId asset) : Covered db' assetId asset := by
  obtain ⟨request, hwaiting, hcovers⟩ := hcovered
  exact ⟨request, h request hwaiting, hcovers⟩

theorem stillWaiting_of_eq {db db' : Database} (h : db'.tasks = db.tasks) :
    StillWaiting db db' := by
  rintro request ⟨taskId, task, hfound, hrest⟩
  exact ⟨taskId, task, by rw [h, hfound], hrest⟩

theorem stillWaiting_insert {db db' : Database} {task : QueuedTask}
    (h : db'.tasks = db.tasks.insert task) : StillWaiting db db' := by
  rintro request ⟨taskId, old, hfound, hrest⟩
  exact ⟨taskId, old, by rw [h]; exact Table.find?_insert_of_find? task hfound, hrest⟩

/-- A save keeps what waits, if it keeps it in its own row. -/
theorem stillWaiting_modify {db db' : Database} {taskId : Id} {f : QueuedTask → QueuedTask}
    (h : db'.tasks = db.tasks.modify taskId f)
    (hf : ∀ task request, db.tasks.find? taskId = some task → task.payload = .recompute request →
      (task.status = .queued ∨ task.status = .running) → (f task).payload = .recompute request ∧
        ((f task).status = .queued ∨ (f task).status = .running)) :
    StillWaiting db db' := by
  rintro request ⟨id, task, hfound, hpayload, hstatus⟩
  -- only the saved row changes, and `hf` speaks of that one
  by_cases hid : id = taskId
  · subst hid
    refine ⟨id, f task, ?_, hf task request hfound hpayload hstatus⟩
    rw [h, Table.find?_modify_self, hfound]
    rfl
  · refine ⟨id, task, ?_, hpayload, hstatus⟩
    rw [h, Table.find?_modify_ne _ _ hid, hfound]

/-- What no score depends on: no row that a risk is read off changes, no score does, and what waits
goes on waiting. -/
structure Apart (db db' : Database) : Prop where
  rows : SameRows db db'
  scores : db'.scores = db.scores
  waiting : StillWaiting db db'

theorem Apart.trans {db db' db'' : Database} (h : Apart db db') (h' : Apart db' db'') :
    Apart db db'' :=
  ⟨h.rows.trans h'.rows, h'.scores.trans h.scores,
    fun request hrequest => h'.waiting request (h.waiting request hrequest)⟩

theorem createRecomputeJob_apart (db : Database) (request : RecomputeRequest) (now : Time) :
    Apart db (Jobs.createRecomputeJob db request now) ∧
      Waiting (Jobs.createRecomputeJob db request now) request := by
  refine ⟨⟨⟨rfl, rfl, rfl⟩, rfl, stillWaiting_insert rfl⟩, db.tasks.nextId, _,
    Table.find?_insert_self db.tasks _, rfl, .inl rfl⟩

theorem createScanJob_apart (db : Database) (targetIds : List Id) (scanners : List Scanner)
    (now : Time) : Apart db (Jobs.createScanJob db targetIds scanners now) :=
  ⟨⟨rfl, rfl, rfl⟩, rfl, stillWaiting_insert rfl⟩

theorem claimTask_apart {prepare : Database → QueuedTask → Except DbError Jobs.Prepared}
    (hprepare : ∀ db task prepared, prepare db task = .ok prepared → prepared.saveResource = id)
    {db db' : Database} {taskId : Id} {now : Time}
    (h : startedBy (Jobs.claimTask prepare db taskId now) = some db') : Apart db db' := by
  have hclaim : Jobs.claimTask prepare db taskId now = .ok (.started db') := by
    unfold startedBy at h
    split at h
    · rename_i started heq
      cases h
      exact heq
    · cases h
  have htasks : StillWaiting db (db.saveTask taskId (Jobs.takeTask now)) :=
    stillWaiting_modify rfl fun task request _ hpayload _ => ⟨hpayload, .inr rfl⟩
  -- of the ways a claim can end, only the two that start a body have a database here
  obtain ⟨task, -, ⟨-, hskip⟩ | ⟨-, prepared, hprepared, hstart⟩⟩ := Jobs.claimTask_cases hclaim
  · cases hskip
  · rw [hprepare _ _ _ hprepared] at hstart
    rcases hstart with ⟨-, hstart⟩ | ⟨_, _, _, -, -, ⟨-, hstart⟩ | hstart⟩
    · cases hstart
      exact ⟨⟨rfl, rfl, rfl⟩, rfl, htasks⟩
    · cases hstart
    · cases hstart
      exact ⟨⟨rfl, rfl, rfl⟩, rfl, htasks⟩

theorem startScan_apart {db db' : Database} {taskId : Id} {now : Time}
    (h : startedBy (Jobs.claimScanJobTask db taskId now) = some db') : Apart db db' := by
  apply claimTask_apart _ h
  intro db task prepared hprepared
  cases hjob : task.asyncJob with
  | none =>
      simp only [hjob] at hprepared
      cases hprepared
  | some jobId =>
      simp only [hjob, bind_eq_ok] at hprepared
      obtain ⟨scanJob, -, hprepared⟩ := hprepared
      cases hprepared
      rfl

theorem startRecompute_apart {db db' : Database} {taskId : Id} {now : Time}
    (h : startedBy (Jobs.claimRecomputeTask db taskId now) = some db') : Apart db db' := by
  apply claimTask_apart _ h
  intro db task prepared hprepared
  cases hprepared
  rfl

/-- Completing a scan touches its own task and job, and may enqueue an availability check. -/
theorem completeScanJobTask_apart {db db' : Database} {taskId scanJobId : Id} {task : QueuedTask}
    {targetIds : List Id} {scanners : List Scanner} {result : ScanResult} {now : Time}
    (hfound : db.tasks.find? taskId = some task)
    (hpayload : task.payload = .scanJob scanJobId targetIds scanners)
    (h : Jobs.completeScanJobTask db taskId result now = .ok db') : Apart db db' := by
  -- the saved task is a scan, so no recompute loses its row
  have hsave : ∀ f, StillWaiting db (db.saveTask taskId f) := by
    intro f
    apply stillWaiting_modify rfl
    intro task' request hfound' hpayload'
    rw [hfound] at hfound'
    cases hfound'
    rw [hpayload] at hpayload'
    cases hpayload'
  unfold Jobs.completeScanJobTask at h
  rw [Jobs.get_bind hfound] at h
  cases hjob : task.asyncJob with
  | none =>
      simp only [hjob] at h
      cases h
  | some jobId =>
      simp only [hjob, bind_eq_ok] at h
      obtain ⟨job, -, h⟩ := h
      by_cases hdead : job.status = .cancelled
      · rw [if_pos hdead] at h
        cases h
        exact ⟨⟨rfl, rfl, rfl⟩, rfl, hsave _⟩
      · rw [if_neg hdead, bind_eq_ok] at h
        obtain ⟨⟨result', db₁⟩, hcheck, h⟩ := h
        cases h
        have hdone : Apart db (db.saveTask taskId Jobs.completeTask) :=
          ⟨⟨rfl, rfl, rfl⟩, rfl, hsave _⟩
        have hqueued : Apart (db.saveTask taskId Jobs.completeTask) db₁ := by
          unfold Jobs.enqueueAvailabilityCheckIfRequested at hcheck
          split at hcheck
          · cases hcheck
            exact ⟨⟨rfl, rfl, rfl⟩, rfl, fun _ => id⟩
          · rw [bind_eq_ok] at hcheck
            obtain ⟨snapshot, -, hcheck⟩ := hcheck
            cases hcheck
            exact ⟨⟨rfl, rfl, rfl⟩, rfl, stillWaiting_insert rfl⟩
        exact (hdone.trans hqueued).trans
          ⟨⟨rfl, rfl, rfl⟩, rfl, stillWaiting_of_eq rfl⟩

section

variable [PyText]

theorem currentRisk_congr {db db' : Database} {assetId : Id} {asset asset' : Asset}
    (htarget : targetOf db' asset' = targetOf db asset)
    (hoverride : overrideOf db' assetId = overrideOf db assetId)
    (hasset : ∀ target override weights,
      riskWith asset' target override weights = riskWith asset target override weights)
    (weights : Weights) :
    currentRisk db' assetId asset' weights = currentRisk db assetId asset weights := by
  rw [currentRisk, currentRisk, htarget, hoverride, hasset]

theorem SameRows.current {db db' : Database} (h : SameRows db db') {score : RiskScore}
    (hscore : Current db score) : Current db' score := by
  intro asset hasset
  rw [h.assets] at hasset
  rw [← hscore asset hasset]
  apply currentRisk_congr
  · rw [targetOf, targetOf, h.targets]
  · exact overrideOf_congr h.overrides score.asset
  · intro _ _ _
    rfl

theorem Apart.tracked {db db' : Database} (h : Apart db db') (hdb : Tracked db) : Tracked db' where
  linked := hdb.linked.congr h.rows.assets h.rows.targets
  tracked := by
    intro id score asset hscore hasset hcrypto
    rw [h.scores] at hscore
    rw [h.rows.assets] at hasset
    rcases hdb.tracked id score asset hscore hasset hcrypto with hcurrent | hcovered
    · exact .inl (h.rows.current hcurrent)
    · exact .inr (h.waiting.covered hcovered)

/-! ## 4. Targets -/

/-- A change of the table of targets, from what it does to the risk of each scored asset. -/
theorem Tracked.of_targets {db db' : Database} (hdb : Tracked db)
    (hassets : db'.assets = db.assets) (hoverrides : db'.overrides = db.overrides)
    (hscores : db'.scores = db.scores) (hwaiting : StillWaiting db db') (hstay : TargetsStay db db')
    (hrisk : ∀ id score asset, db.scores.find? id = some score →
      db.assets.find? score.asset = some asset → isCrypto asset = true →
        Covered db' score.asset asset ∨
          riskWith asset (targetOf db' asset) (overrideOf db score.asset) score.result.weights =
            currentRisk db score.asset asset score.result.weights) : Tracked db' where
  linked := by
    intro assetId asset targetId hasset htarget
    rw [hassets] at hasset
    obtain ⟨target, hfound⟩ := hdb.linked assetId asset targetId hasset htarget
    exact hstay targetId target hfound
  tracked := by
    intro id score asset hscore hasset hcrypto
    rw [hscores] at hscore
    rw [hassets] at hasset
    -- a score that was current stays so where the risk is the same, and what waits goes on waiting
    rcases hrisk id score asset hscore hasset hcrypto with hcovered | hsame
    · exact .inr hcovered
    · rcases hdb.tracked id score asset hscore hasset hcrypto with hcurrent | hcovered
      · left
        intro asset' hasset'
        rw [hassets, hasset] at hasset'
        cases hasset'
        rw [currentRisk, overrideOf_congr hoverrides, hsame]
        exact hcurrent asset hasset
      · exact .inr (hwaiting.covered hcovered)

omit [PyText] in
theorem targetOf_of_ne {db db' : Database} {targetId : Id} {asset : Asset}
    (htargets : ∀ id, id ≠ targetId → db'.targets.find? id = db.targets.find? id)
    (hne : asset.target ≠ some targetId) : targetOf db' asset = targetOf db asset := by
  unfold targetOf
  cases htarget : asset.target with
  | none => rfl
  | some id =>
      apply htargets id
      intro heq
      exact hne (heq ▸ htarget)

theorem createTarget_tracked {db db' : Database} {payload : Target} (hdb : Tracked db)
    (h : createTarget db payload = some db') : Tracked db' := by
  unfold createTarget at h
  split at h
  · cases h
  · cases h
    refine hdb.of_targets rfl rfl rfl (stillWaiting_of_eq rfl) ?_ ?_
    · intro id target hfound
      exact ⟨target, Table.find?_insert_of_find? _ hfound⟩
    · intro id score asset _ hasset _
      right
      -- no asset refers to the new key
      have hne : asset.target ≠ some db.targets.nextId := by
        intro htarget
        obtain ⟨target, hfound⟩ := hdb.linked _ asset _ hasset htarget
        exact Nat.lt_irrefl _ (Table.lt_nextId hfound)
      rw [targetOf_of_ne (fun id hid => by rw [Table.find?_insert, if_neg hid]) hne]
      rfl

/-- Another row for a target, where its scored assets keep their risk. -/
theorem Tracked.modify_target {db : Database} (hdb : Tracked db) {targetId : Id}
    {target next : Target} {f : Target → Target}
    (hfound : db.targets.find? targetId = some target) (hf : f target = next)
    (hkeeps : KeepsRisk db targetId next) :
    Tracked { db with targets := db.targets.modify targetId f } := by
  refine hdb.of_targets rfl rfl rfl (stillWaiting_of_eq rfl) (targetsStay_modify rfl) ?_
  intro id score asset hscore hasset hcrypto
  -- an asset of another target reads the same row as before
  by_cases htarget : asset.target = some targetId
  · rcases hkeeps id score asset hscore hasset hcrypto htarget with hcovered | hsame
    · exact .inl hcovered
    · right
      rw [← hsame, targetOf, htarget]
      show riskWith asset ((db.targets.modify targetId f).find? targetId) _ _ = _
      rw [Table.find?_modify_self, hfound, Option.map_some, hf]
  · right
    rw [targetOf_of_ne (fun id hid => Table.find?_modify_ne _ _ hid) htarget]
    rfl

/-- Another row for a target, with a recompute of the target. -/
theorem Tracked.recompute_target {db : Database} (hdb : Tracked db) {targetId : Id}
    (f : Target → Target) (now : Time) :
    Tracked (Jobs.createRecomputeJob { db with targets := db.targets.modify targetId f }
      (targetRecompute targetId) now) := by
  have hwaiting := (createRecomputeJob_apart
    { db with targets := db.targets.modify targetId f } (targetRecompute targetId) now).2
  refine hdb.of_targets rfl rfl rfl (stillWaiting_insert rfl) (targetsStay_modify rfl) ?_
  intro id score asset hscore hasset hcrypto
  by_cases htarget : asset.target = some targetId
  · exact .inl ⟨targetRecompute targetId, hwaiting, htarget, hcrypto⟩
  · right
    have hsame := @targetOf_of_ne db (Jobs.createRecomputeJob
      { db with targets := db.targets.modify targetId f } (targetRecompute targetId) now) targetId
      asset (fun id hid => Table.find?_modify_ne _ _ hid) htarget
    rw [hsame]
    rfl

theorem patchTarget_tracked {db db' : Database} {targetId : Id} {patch : TargetPatch} {now : Time}
    (hdb : Tracked db) (hharmless : Harmless db (.patchTarget targetId patch, now))
    (h : patchTarget db targetId patch now = some db') : Tracked db' := by
  unfold patchTarget at h
  rw [Option.bind_eq_bind, Option.bind_eq_some_iff] at h
  obtain ⟨target, hfound, h⟩ := h
  rcases savePatch_cases h with ⟨-, rfl⟩ | ⟨hbusy, next, hnext, rfl⟩
  · exact hdb
  · cases hcontext : patch.changesContext target with
    | true =>
        rw [if_pos rfl]
        exact hdb.recompute_target (fun _ => next) now
    | false =>
        rw [if_neg (by decide)]
        have hsends : patch.sendsColumns = true := by
          rw [hcontext] at hbusy
          simpa using hbusy
        exact hdb.modify_target hfound rfl
          (hharmless target next hfound hnext hsends hcontext)

theorem infer_tracked {db : Database} {targetId : Id} {loaded : TargetContext}
    {inference : Option HomepageInference} {now : Time} (hdb : Tracked db)
    (hharmless : Harmless db (.infer targetId loaded inference, now)) :
    Tracked (applyInference db targetId loaded inference) := by
  unfold applyInference applyHomepageContextInference
  cases inference with
  | none => exact hdb
  | some inferred =>
      dsimp only
      split
      · rename_i hinfers
        cases hfound : db.targets.find? targetId with
        | none =>
            refine hdb.of_targets rfl rfl rfl (stillWaiting_of_eq rfl) (targetsStay_modify rfl) ?_
            intro id score asset _ hasset _
            right
            have hne : asset.target ≠ some targetId := by
              intro htarget
              obtain ⟨target, htaken⟩ := hdb.linked _ asset targetId hasset htarget
              rw [hfound] at htaken
              cases htaken
            rw [targetOf_of_ne (fun id hid => Table.find?_modify_ne _ _ hid) hne]
            rfl
        | some target =>
            exact hdb.modify_target hfound rfl
              (hharmless target inferred hfound rfl hinfers)
      · exact hdb

/-- The assets of a deleted target lose it, and with it the recomputes of the target. -/
theorem deleteTarget_tracked {db db' : Database} {targetId : Id} {now : Time} (hdb : Tracked db)
    (hharmless : Harmless db (.deleteTarget targetId, now))
    (h : deleteTarget db targetId = some db') : Tracked db' := by
  unfold deleteTarget at h
  rw [Option.bind_eq_bind, Option.bind_eq_some_iff] at h
  obtain ⟨target, -, h⟩ := h
  cases h
  -- `SET_NULL`: each row of the new table is an old one, without the target where it had it
  have hrow : ∀ assetId asset', (db.assets.updateWhere
      (fun _ asset => asset.target == some targetId)
      fun asset => { asset with target := none }).find? assetId = some asset' →
      ∃ asset, db.assets.find? assetId = some asset ∧
        (asset.target = some targetId ∧ asset' = { asset with target := none } ∨
          asset.target ≠ some targetId ∧ asset' = asset) := by
    intro assetId asset' hasset
    rw [Table.find?_updateWhere, Option.map_eq_some_iff] at hasset
    obtain ⟨asset, hasset, heq⟩ := hasset
    refine ⟨asset, hasset, ?_⟩
    by_cases htarget : asset.target = some targetId
    · rw [if_pos (by rw [htarget]; exact beq_self_eq_true _)] at heq
      exact .inl ⟨htarget, heq.symm⟩
    · rw [if_neg (by simpa using htarget)] at heq
      exact .inr ⟨htarget, heq.symm⟩
  have hother : ∀ id, id ≠ targetId →
      (db.targets.delete targetId).find? id = db.targets.find? id := by
    intro id hid
    rw [Table.find?_delete, if_neg hid]
  refine ⟨?_, ?_⟩
  · intro assetId asset' id hasset htarget
    obtain ⟨asset, hold, ⟨-, rfl⟩ | ⟨hne, rfl⟩⟩ := hrow assetId asset' hasset
    · cases htarget
    · obtain ⟨old, hfound⟩ := hdb.linked assetId asset' id hold htarget
      refine ⟨old, (hother id ?_).trans hfound⟩
      intro heq
      exact hne (heq ▸ htarget)
  · intro id score asset' hscore hasset hcrypto
    obtain ⟨asset, hold, ⟨htarget, rfl⟩ | ⟨hne, rfl⟩⟩ := hrow score.asset asset' hasset
    · rcases hharmless id score asset hscore hold hcrypto htarget with
        hcovered | ⟨hcurrent, hsame⟩
      · exact .inr hcovered
      · left
        intro asset'' hasset''
        rw [hasset] at hasset''
        cases hasset''
        rw [← hcurrent asset hold, ← hsame]
        rfl
    · rcases hdb.tracked id score asset' hscore hold hcrypto with hcurrent | hcovered
      · left
        intro asset'' hasset''
        rw [hasset] at hasset''
        cases hasset''
        rw [← hcurrent asset' hold]
        apply currentRisk_congr
        · exact targetOf_of_ne hother hne
        · rfl
        · intro _ _ _
          rfl
      · exact .inr hcovered

/-! ## 5. Contexts -/

omit [PyText] in
theorem overrideOf_saveOverride {db : Database} {assetId other : Id} {patch : AssetContextPatch}
    (hne : other ≠ assetId) :
    overrideOf (saveOverride db assetId patch) other = overrideOf db other := by
  unfold overrideOf saveOverride
  -- the first row of `other` is found by its asset, which neither an insert nor a save changes
  have hfirst : ∀ id row, db.overrides.first? (fun row => row.asset == other) = some id →
      db.overrides.find? id = some row → row.asset = other := by
    intro id row hid hrow
    obtain ⟨row', hrow', hasset⟩ := Table.first?_eq_some hid
    rw [hrow] at hrow'
    cases hrow'
    exact eq_of_beq hasset
  cases hfound : db.overrides.first? (fun row => row.asset == assetId) with
  | none =>
      dsimp only
      have hpatched : ((applyPatch patch (.blank assetId)).asset == other) = false := by
        rw [applyPatch_asset]
        exact beq_false_of_ne fun heq => hne (heq ▸ save_asset _)
      have hids := Table.ids_insert db.overrides (applyPatch patch (.blank assetId))
        fun row => row.asset == other
      rw [hpatched, if_neg (by decide), List.append_nil] at hids
      unfold Table.first?
      rw [hids]
      cases hhead : (db.overrides.ids fun row => row.asset == other).head? with
      | none => rfl
      | some id =>
          obtain ⟨row, hrow, -⟩ := Table.first?_eq_some hhead
          rw [Option.bind_some, Option.bind_some, Table.find?_insert_of_find? _ hrow, hrow]
  | some found =>
      dsimp only
      obtain ⟨row, hrow, hasset⟩ := Table.first?_eq_some hfound
      have hmine : row.asset = assetId := eq_of_beq hasset
      have hids := Table.ids_modify db.overrides found (applyPatch patch)
        (fun row => row.asset == other) fun row' _ => by rw [applyPatch_asset]
      unfold Table.first?
      rw [hids]
      cases hhead : (db.overrides.ids fun row => row.asset == other).head? with
      | none => rfl
      | some id =>
          have hid : id ≠ found := by
            intro heq
            exact hne (hmine ▸ (hfirst id row hhead (heq ▸ hrow)).symm)
          rw [Option.bind_some, Option.bind_some, Table.find?_modify_ne _ _ hid]

/-- A change of an asset's context asks for a recompute of the asset. -/
theorem patchContext_tracked {db db' : Database} {assetId : Id} {patch : AssetContextPatch}
    {now : Time} (hdb : Tracked db) (h : patchAssetContext db assetId patch now = some db') :
    Tracked db' := by
  unfold patchAssetContext at h
  split at h
  · cases h
  · cases h
    let saved := saveOverride db assetId patch
    have hsaved : saved.assets = db.assets ∧ saved.targets = db.targets ∧
        saved.scores = db.scores ∧ saved.tasks = db.tasks := by
      dsimp only [saved, saveOverride]
      split <;> exact ⟨rfl, rfl, rfl, rfl⟩
    obtain ⟨hassets, htargets, hscores, htasks⟩ := hsaved
    obtain ⟨hjob, hwaiting⟩ := createRecomputeJob_apart saved (assetRecompute assetId) now
    have hkept : StillWaiting db (Jobs.createRecomputeJob saved (assetRecompute assetId) now) :=
      fun request hrequest => hjob.waiting request (stillWaiting_of_eq htasks request hrequest)
    refine ⟨?_, ?_⟩
    · exact hdb.linked.congr (hjob.rows.assets.trans hassets) (hjob.rows.targets.trans htargets)
    · intro id score asset hscore hasset hcrypto
      rw [hjob.scores, hscores] at hscore
      rw [hjob.rows.assets, hassets] at hasset
      -- the patched asset waits for the recompute just queued, the others read the same rows
      by_cases hmine : score.asset = assetId
      · exact .inr ⟨assetRecompute assetId, hwaiting, hmine.symm⟩
      · rcases hdb.tracked id score asset hscore hasset hcrypto with hcurrent | hcovered
        · left
          apply hjob.rows.current
          intro asset' hasset'
          rw [hassets] at hasset'
          rw [← hcurrent asset' hasset']
          apply currentRisk_congr
          · rw [targetOf, targetOf, htargets]
          · exact overrideOf_saveOverride hmine
          · intro _ _ _
            rfl
        · exact .inr (hkept.covered hcovered)

/-! ## 6. Bodies -/

omit [PyText] in
theorem normalizeWeights_eq {weights resolved : Weights}
    (h : normalizeWeights weights = .ok resolved) : resolved = weights := by
  unfold normalizeWeights at h
  simp only [bind_eq_ok] at h
  obtain ⟨_, -, _, -, _, -, _, -, _, -, h⟩ := h
  cases h
  rfl

/-- A result stores the weights that it was computed with. -/
theorem riskWith_weights {asset : Asset} {target : Option Target}
    {override : Option AssetContextOverride} {weights : Weights} {result : RiskResult}
    (h : riskWith asset target override weights = .ok result) : result.weights = weights := by
  unfold riskWith computeRisk at h
  rw [bind_eq_ok] at h
  obtain ⟨resolved, hresolved, h⟩ := h
  cases h
  exact normalizeWeights_eq hresolved

/-- What scoring some assets leaves: their rows are current, and every other row is an old one. -/
structure Rescored (db db' : Database) (scored : Id → Prop) : Prop where
  rows : SameRows db db'
  tasks : db'.tasks = db.tasks
  scores : ∀ id score, db'.scores.find? id = some score →
    Current db score ∨ (db.scores.find? id = some score ∧ ¬ scored score.asset)

theorem Rescored.refl (db : Database) : Rescored db db fun _ => False :=
  ⟨⟨rfl, rfl, rfl⟩, rfl, fun _ _ h => .inr ⟨h, id⟩⟩

theorem Rescored.trans {db db' db'' : Database} {scored scored' : Id → Prop}
    (h : Rescored db db' scored) (h' : Rescored db' db'' scored') :
    Rescored db db'' fun assetId => scored assetId ∨ scored' assetId where
  rows := h.rows.trans h'.rows
  tasks := h'.tasks.trans h.tasks
  scores := by
    intro id score hscore
    -- a row that the second step leaves alone is one that the first step left
    rcases h'.scores id score hscore with hcurrent | ⟨hold, hnot'⟩
    · exact .inl (h.rows.symm.current hcurrent)
    · rcases h.scores id score hold with hcurrent | ⟨hold, hnot⟩
      · exact .inl hcurrent
      · exact .inr ⟨hold, fun hscored => hscored.elim hnot hnot'⟩

theorem Rescored.weaken {db db' : Database} {scored scored' : Id → Prop}
    (h : Rescored db db' scored) (himp : ∀ assetId, scored' assetId → scored assetId) :
    Rescored db db' scored' :=
  ⟨h.rows, h.tasks, fun id score hscore => (h.scores id score hscore).imp_right fun hold =>
    ⟨hold.1, fun hscored => hold.2 (himp _ hscored)⟩⟩

theorem upsertAssetRisk_rescored {db db' : Database} {assetId : Id} {asset : Asset}
    {weights : Weights} (hasset : db.assets.find? assetId = some asset)
    (h : upsertAssetRisk db assetId asset weights = .ok db') :
    Rescored db db' fun other => other = assetId := by
  unfold upsertAssetRisk at h
  rw [bind_eq_ok] at h
  obtain ⟨result, hresult, h⟩ := h
  cases h
  let score : RiskScore :=
    { snapshot := asset.snapshot
      asset := assetId
      result
      context := currentContext db assetId asset }
  -- the row written is the one the asset would get now
  have hcurrent : Current db score := by
    intro asset' hasset'
    change db.assets.find? assetId = some asset' at hasset'
    rw [hasset] at hasset'
    cases hasset'
    show currentRisk db assetId asset result.weights = .ok result
    rw [riskWith_weights hresult]
    exact hresult
  -- a row of another asset is neither written nor deleted
  have hother : ∀ id old, db.scores.find? id = some old → id ∉ scoresOf db assetId →
      Current db old ∨ (db.scores.find? id = some old ∧ ¬ old.asset = assetId) := by
    intro id old hold hid
    exact .inr ⟨hold, fun heq => hid (mem_scoresOf.mpr ⟨old, hold, heq⟩)⟩
  show Rescored db (saveScore db (scoresOf db assetId) score) _
  cases hexisting : scoresOf db assetId with
  | nil =>
      refine ⟨⟨rfl, rfl, rfl⟩, rfl, ?_⟩
      intro id row hrow
      change (db.scores.insert score).find? id = some row at hrow
      rw [Table.find?_insert] at hrow
      split at hrow
      · cases hrow
        exact .inl hcurrent
      · exact hother id row hrow (by rw [hexisting]; exact List.not_mem_nil)
  | cons first rest =>
      refine ⟨⟨rfl, rfl, rfl⟩, rfl, ?_⟩
      intro id row hrow
      change ((deleteScores db.scores rest).modify first fun _ => score).find? id = some row at hrow
      rw [Table.find?_modify] at hrow
      split at hrow
      · obtain ⟨old, -, rfl⟩ := Option.map_eq_some_iff.mp hrow
        exact .inl hcurrent
      · rename_i hfirst
        rw [find?_deleteScores] at hrow
        split at hrow
        · cases hrow
        · rename_i hrest
          apply hother id row hrow
          rw [hexisting]
          exact fun hmem => (List.mem_cons.mp hmem).elim hfirst hrest

theorem scoreAssets_rescored {weights : Weights} {assetIds : List Id} {db db' : Database}
    (h : scoreAssets weights assetIds db = .ok db') :
    Rescored db db' fun assetId =>
      assetId ∈ assetIds ∧ ∃ asset, db.assets.find? assetId = some asset := by
  induction assetIds generalizing db with
  | nil =>
      cases h
      exact (Rescored.refl _).weaken fun _ hmem => nomatch hmem.1
  | cons assetId rest ih =>
      rw [scoreAssets] at h
      cases hasset : db.assets.find? assetId with
      | none =>
          simp only [hasset] at h
          refine (ih h).weaken ?_
          rintro other ⟨hmem, asset, hother⟩
          refine ⟨List.mem_of_ne_of_mem ?_ hmem, asset, hother⟩
          intro heq
          rw [heq, hasset] at hother
          cases hother
      | some asset =>
          simp only [hasset, bind_eq_ok] at h
          obtain ⟨mid, hmid, h⟩ := h
          have hfirst := upsertAssetRisk_rescored hasset hmid
          refine (hfirst.trans (ih h)).weaken ?_
          rintro other ⟨hmem, asset', hother⟩
          rcases List.mem_cons.mp hmem with heq | hmem
          · exact .inl heq
          · exact .inr ⟨hmem, asset', by rw [hfirst.rows.assets, hother]⟩

omit [PyText] in
theorem liftWeights_eq_ok {α : Type} {x : Except WeightError α} {a : α}
    (h : liftWeights x = .ok a) : x = .ok a := by
  cases x with
  | ok b =>
      cases h
      rfl
  | error e => cases h

theorem recomputeSnapshotRisks_rescored {db db' : Database} {snapshotId : Id}
    {weights : Option Weights} (h : recomputeSnapshotRisks db snapshotId weights = .ok db') :
    Rescored db db' fun assetId => assetId ∈ snapshotAssets db snapshotId := by
  unfold recomputeSnapshotRisks at h
  rw [bind_eq_ok] at h
  obtain ⟨resolved, -, h⟩ := h
  refine (scoreAssets_rescored (liftWeights_eq_ok h)).weaken fun assetId hmem => ⟨hmem, ?_⟩
  obtain ⟨asset, hasset, -⟩ := mem_snapshotAssets.mp hmem
  exact ⟨asset, hasset⟩

theorem recomputeTargetRisks_rescored {db db' : Database} {targetId : Id}
    {weights : Option Weights} (h : recomputeTargetRisks db targetId weights = .ok db') :
    Rescored db db' fun assetId => assetId ∈ targetAssets db targetId := by
  unfold recomputeTargetRisks at h
  rw [bind_eq_ok] at h
  obtain ⟨resolved, -, h⟩ := h
  refine (scoreAssets_rescored (liftWeights_eq_ok h)).weaken fun assetId hmem => ⟨hmem, ?_⟩
  obtain ⟨asset, hasset, -⟩ := mem_targetAssets.mp hmem
  exact ⟨asset, hasset⟩

theorem recomputeAssetRisk_rescored {db db' : Database} {assetId : Id} {weights : Option Weights}
    (h : recomputeAssetRisk db assetId weights = .ok db') :
    Rescored db db' fun other => other = assetId := by
  unfold recomputeAssetRisk at h
  cases hasset : db.assets.find? assetId with
  | none =>
      simp only [hasset] at h
      cases h
  | some asset =>
      simp only [hasset, bind_eq_ok] at h
      obtain ⟨resolved, -, h⟩ := h
      exact upsertAssetRisk_rescored hasset (liftWeights_eq_ok h)

theorem runRecomputePayload_rescored {db db' : Database} {request : RecomputeRequest}
    (h : runRecomputePayload db request = .ok db') :
    Rescored db db' fun assetId =>
      ∃ asset, db.assets.find? assetId = some asset ∧ Covers request assetId asset := by
  unfold runRecomputePayload at h
  rw [bind_eq_ok] at h
  obtain ⟨weights, -, h⟩ := h
  -- the default weights are the only thing that may have changed by now
  generalize hready : (if request.persistWeightsAsDefault = true then
    persistDefaultWeights db weights else db) = ready at h
  have hsame : Rescored db ready fun _ => False := by
    rw [← hready]
    split
    · unfold persistDefaultWeights
      split <;> exact ⟨⟨rfl, rfl, rfl⟩, rfl, fun _ _ h => .inr ⟨h, id⟩⟩
    · exact .refl db
  have hassets : ready.assets = db.assets := hsame.rows.assets
  unfold Covers
  cases hrequest : request.assetId with
  | some assetId =>
      simp only [hrequest] at h
      refine (hsame.trans (recomputeAssetRisk_rescored h)).weaken ?_
      rintro other ⟨asset, -, hcovers⟩
      exact .inr hcovers.symm
  | none =>
      cases htarget : request.targetId with
      | some targetId =>
          simp only [hrequest, htarget] at h
          refine (hsame.trans (recomputeTargetRisks_rescored h)).weaken ?_
          rintro other ⟨asset, hasset, hcovers⟩
          exact .inr (mem_targetAssets.mpr ⟨asset, by rw [hassets, hasset], hcovers⟩)
      | none =>
          cases hsnapshot : request.snapshotId with
          | some snapshotId =>
              simp only [hrequest, htarget, hsnapshot] at h
              refine (hsame.trans (recomputeSnapshotRisks_rescored h)).weaken ?_
              rintro other ⟨asset, hasset, hcovers⟩
              exact .inr (mem_snapshotAssets.mpr ⟨asset, by rw [hassets, hasset], hcovers⟩)
          | none =>
              simp only [hrequest, htarget, hsnapshot] at h
              cases h

omit [PyText] in
theorem completeRecomputeTask_rows {db db' : Database} {taskId : Id} {result : RecomputeResult}
    {now : Time} (h : Jobs.completeRecomputeTask db taskId result now = .ok db') :
    SameRows db db' ∧ db'.scores = db.scores ∧
      db'.tasks = db.tasks.modify taskId Jobs.completeTask := by
  unfold Jobs.completeRecomputeTask at h
  rw [bind_eq_ok] at h
  obtain ⟨task, -, h⟩ := h
  cases hjob : task.asyncJob <;> simp only [hjob] at h <;> cases h <;>
    exact ⟨⟨rfl, rfl, rfl⟩, rfl, rfl⟩

/-- A recompute task that is done leaves no asset waiting that it alone covered. -/
theorem finishRecompute_tracked {db scored db' : Database} {taskId : Id} {task : QueuedTask}
    {request : RecomputeRequest} {result : RecomputeResult} {now : Time} (hdb : Tracked db)
    (hfound : db.tasks.find? taskId = some task) (hpayload : task.payload = .recompute request)
    (hscored : runRecomputePayload db request = .ok scored)
    (h : Jobs.completeRecomputeTask scored taskId result now = .ok db') : Tracked db' := by
  have hbody := runRecomputePayload_rescored hscored
  obtain ⟨hsame, hscores, htasks⟩ := completeRecomputeTask_rows h
  have hrows : SameRows db db' := hbody.rows.trans hsame
  refine ⟨?_, ?_⟩
  · exact hdb.linked.congr hrows.assets hrows.targets
  · intro id score asset hscore hasset hcrypto
    rw [hscores] at hscore
    rw [hrows.assets] at hasset
    rcases hbody.scores id score hscore with hcurrent | ⟨hold, hnot⟩
    · exact .inl (hrows.current hcurrent)
    · rcases hdb.tracked id score asset hold hasset hcrypto with hcurrent | hcovered
      · exact .inl (hrows.current hcurrent)
      · obtain ⟨request', ⟨taskId', task', hfound', hpayload', hstatus⟩, hcovers⟩ := hcovered
        -- the finished task covers no score that it did not renew, so another task covers this one
        have hne : taskId' ≠ taskId := by
          intro heq
          rw [heq, hfound] at hfound'
          cases hfound'
          rw [hpayload] at hpayload'
          cases hpayload'
          exact hnot ⟨asset, hasset, hcovers⟩
        have hkept : db'.tasks.find? taskId' = some task' := by
          rw [htasks, Table.find?_modify_ne _ _ hne, hbody.tasks, hfound']
        exact .inr ⟨request', ⟨taskId', task', hkept, hpayload', hstatus⟩, hcovers⟩

variable {floatRepr : PyFloat → List Char}

/-- A scan that stores its results has inserted the row of every candidate. -/
theorem storeScan_eq_some {db stored : Database} {scanJobId : Id} {candidates : List AssetCandidate}
    (h : storeScan floatRepr db scanJobId candidates = some stored) :
    (∀ candidate ∈ dedupeCandidates floatRepr candidates,
      (db.targets.find? candidate.targetId).isSome = true) ∧
    recomputeSnapshotRisks
      { insertSnapshot db scanJobId (dedupeCandidates floatRepr candidates) with
        assets := insertAssets db.snapshots.nextId (dedupeCandidates floatRepr candidates) db.assets }
      db.snapshots.nextId none = .ok stored := by
  unfold storeScan at h
  split at h
  · rename_i htargets
    split at h
    · rename_i persisted hpersist
      have hrows := insertEach_ended hpersist
      rw [hrows] at h
      exact ⟨List.all_eq_true.mp htargets, toOption_eq_some.mp h⟩
    · cases h
  · cases h

theorem storeScan_tracked {db stored : Database} {scanJobId : Id}
    {candidates : List AssetCandidate} (hdb : Tracked db)
    (h : storeScan floatRepr db scanJobId candidates = some stored) :
    Tracked stored ∧ stored.tasks = db.tasks := by
  obtain ⟨htargets, hscored⟩ := storeScan_eq_some h
  have hbody := recomputeSnapshotRisks_rescored hscored
  -- an asset is an old one, or a row of the new snapshot, which the scan has just scored
  have hnew : ∀ assetId asset, stored.assets.find? assetId = some asset →
      db.assets.find? assetId = some asset ∨
        ∃ candidate ∈ dedupeCandidates floatRepr candidates,
          asset = assetRow db.snapshots.nextId candidate := by
    intro assetId asset hasset
    rw [hbody.rows.assets] at hasset
    rcases find?_insertAssets hasset with hold | ⟨-, hcandidate⟩
    · exact .inl hold
    · exact .inr hcandidate
  -- inserting assets changes no row that an old score is read off
  have hold : ∀ score, (∃ asset, db.assets.find? score.asset = some asset) →
      Current db score → Current stored score := by
    rintro score ⟨asset, hasset⟩ hcurrent
    apply hbody.rows.current
    intro asset' hasset'
    have hkept : asset' = asset := by
      have hstays : (insertAssets db.snapshots.nextId (dedupeCandidates floatRepr candidates)
          db.assets).find? score.asset = some asset := find?_insertAssets_of_find? hasset
      exact Option.some.inj (hasset'.symm.trans hstays)
    rw [hkept, ← hcurrent asset hasset]
    rfl
  refine ⟨⟨?_, ?_⟩, hbody.tasks⟩
  · intro assetId asset targetId hasset htarget
    rw [hbody.rows.targets]
    rcases hnew assetId asset hasset with hprevious | ⟨candidate, hmem, rfl⟩
    · exact hdb.linked assetId asset targetId hprevious htarget
    · cases htarget
      exact Option.isSome_iff_exists.mp (htargets candidate hmem)
  · intro id score asset hscore hasset hcrypto
    rcases hbody.scores id score hscore with hcurrent | ⟨hrow, hnot⟩
    · exact .inl (hbody.rows.current hcurrent)
    · rcases hnew score.asset asset hasset with hprevious | ⟨candidate, hmem, rfl⟩
      · rcases hdb.tracked id score asset hrow hprevious hcrypto with hcurrent | hcovered
        · exact .inl (hold score ⟨asset, hprevious⟩ hcurrent)
        · exact .inr ((stillWaiting_of_eq hbody.tasks).covered hcovered)
      · rw [hbody.rows.assets] at hasset
        exact absurd (mem_snapshotAssets.mpr ⟨_, hasset, rfl, hcrypto⟩) hnot

/-! ## 7. Runs -/

theorem operationStep_tracked {db db' : Database} {a : Operation × Time} (hdb : Tracked db)
    (hharmless : Harmless db a) (h : operationStep floatRepr db a = some db') : Tracked db' := by
  obtain ⟨operation, now⟩ := a
  cases operation with
  | createTarget payload => exact createTarget_tracked hdb h
  | patchTarget targetId patch => exact patchTarget_tracked hdb hharmless h
  | deleteTarget targetId => exact deleteTarget_tracked hdb hharmless h
  | patchContext assetId patch => exact patchContext_tracked hdb h
  | createRecomputeJob request =>
      cases h
      exact (createRecomputeJob_apart db request now).1.tracked hdb
  | createScanJob targetIds scanners =>
      cases h
      exact (createScanJob_apart db targetIds scanners now).tracked hdb
  | startScan taskId => exact (startScan_apart h).tracked hdb
  | infer targetId loaded inference =>
      cases h
      exact infer_tracked hdb hharmless
  | finishScan taskId candidates result =>
      simp only [operationStep, Option.bind_eq_bind, Option.bind_eq_some_iff] at h
      obtain ⟨task, hfound, h⟩ := h
      split at h
      · rename_i hpayload _
        rw [Option.bind_eq_some_iff] at h
        obtain ⟨stored, hstored, h⟩ := h
        -- the results are stored first, then the job of the scan is completed
        obtain ⟨htracked, htasks⟩ := storeScan_tracked hdb hstored
        rw [← htasks] at hfound
        exact (completeScanJobTask_apart hfound hpayload
          (toOption_eq_some.mp h)).tracked htracked
      · cases h
  | startRecompute taskId => exact (startRecompute_apart h).tracked hdb
  | finishRecompute taskId result =>
      simp only [operationStep, Option.bind_eq_bind, Option.bind_eq_some_iff] at h
      obtain ⟨task, hfound, h⟩ := h
      split at h
      · rename_i hpayload _
        rw [Option.bind_eq_some_iff] at h
        obtain ⟨scored, hscored, h⟩ := h
        exact finishRecompute_tracked hdb hfound hpayload (toOption_eq_some.mp hscored)
          (toOption_eq_some.mp h)
      · cases h

/-- In a run of harmless operations, no score is stale when no recompute task is queued or
running. -/
theorem fresh_of_run {db db' : Database} {as : List (Operation × Time)} (hlinked : Linked db)
    (hfresh : Fresh db) (h : Run (operationStep floatRepr) Harmless db as db')
    (hidle : ∀ request, ¬ Waiting db' request) : Fresh db' := by
  have hstart : Tracked db :=
    ⟨hlinked, fun id score asset hscore hasset hcrypto =>
      .inl (hfresh id score asset hscore hasset hcrypto)⟩
  have hend : Tracked db' :=
    h.invariant (fun _ _ _ hdb hharmless hstep => operationStep_tracked hdb hharmless hstep) hstart
  intro id score asset hscore hasset hcrypto
  rcases hend.tracked id score asset hscore hasset hcrypto with hcurrent | hcovered
  · exact hcurrent
  · obtain ⟨request, hwaiting, -⟩ := hcovered
    exact absurd hwaiting (hidle request)

/-! ## 8. A recompute, and an inference without one -/

omit [PyText] in
def waits (task : QueuedTask) : Bool :=
  match task.payload with
  | .recompute _ => task.status == .queued || task.status == .running
  | _ => false

omit [PyText] in
theorem not_waiting_iff {db : Database} :
    (∀ request, ¬ Waiting db request) ↔ db.tasks.ids waits = [] := by
  rw [List.eq_nil_iff_forall_not_mem]
  constructor
  · intro h taskId hmem
    obtain ⟨task, hfound, hwaits⟩ := Table.mem_ids.mp hmem
    unfold waits at hwaits
    split at hwaits
    · rename_i request hpayload
      exact h request ⟨taskId, task, hfound, hpayload, by simpa using hwaits⟩
    · cases hwaits
  · rintro h request ⟨taskId, task, hfound, hpayload, hstatus⟩
    refine h taskId (Table.mem_ids.mpr ⟨task, hfound, ?_⟩)
    simpa only [waits, hpayload, Bool.or_eq_true, beq_iff_eq] using hstatus

def staleScores (db : Database) : List Id :=
  db.scores.ids fun score =>
    (db.assets.find? score.asset).any fun asset => isCrypto asset &&
      decide (currentRisk db score.asset asset score.result.weights ≠ .ok score.result)

theorem fresh_iff {db : Database} : Fresh db ↔ staleScores db = [] := by
  rw [List.eq_nil_iff_forall_not_mem]
  constructor
  · intro h id hmem
    obtain ⟨score, hscore, hstale⟩ := Table.mem_ids.mp hmem
    obtain ⟨asset, hasset, hstale⟩ := (Option.any_eq_true _ _).mp hstale
    rw [Bool.and_eq_true, decide_eq_true_eq] at hstale
    exact hstale.2 (h id score asset hscore hasset hstale.1 asset hasset)
  · intro h id score asset hscore hasset hcrypto asset' hasset'
    rw [hasset] at hasset'
    cases hasset'
    by_contra hstale
    refine h id (Table.mem_ids.mpr ⟨score, hscore, ?_⟩)
    rw [hasset, Option.any_some, hcrypto, decide_eq_true hstale]
    rfl

end

def scanResult : ScanResult := ⟨0, 0, 1, 1, none⟩

def firstScan : List (Operation × Time) :=
  [(.createTarget agentHost, 1), (.createScanJob [0] [.network, .agentAppCertFiles], 2),
    (.startScan 0, 3), (.finishScan 0 (hostCandidates 0 "ab") scanResult, 4)]

/-- The operator sets the exposure of the certificate, and it is recomputed. -/
def exposurePatched : List (Operation × Time) :=
  [(.patchContext 0 fun
      | .exposure => some (some "public_internet".toList)
      | _ => none, 5),
    (.startRecompute 1, 6), (.finishRecompute 1 ⟨some 0, none, [], 1⟩, 7)]

def publicHomepage : HomepageInference where
  field
    | .exposure => some "public_internet".toList
    | _ => none
  evidence := none

def exposureInferred : List (Operation × Time) :=
  [(.createScanJob [0] [.network, .agentAppCertFiles], 5), (.startScan 1, 6),
    (.infer 0 agentHost.context (some publicHomepage), 7),
    (.finishScan 1 (hostCandidates 0 "ab") scanResult, 8)]

theorem linked_empty : Linked {} := by
  intro assetId asset targetId hasset
  cases hasset

theorem fresh_empty [PyText] : Fresh {} := by
  intro id score asset hscore
  cases hscore

theorem exposurePatched_fresh : letI := asciiText
    ∃ db, Run (operationStep fun _ => []) Harmless {} (firstScan ++ exposurePatched) db ∧
      (∀ request, ¬ Waiting db request) ∧ scoresOf db 0 = [0] ∧ Fresh db := by
  let := asciiText
  have hall : ((runAll (operationStep fun _ => []) {} (firstScan ++ exposurePatched)).map
      fun db => (db.tasks.ids waits, scoresOf db 0)) = some ([], [0]) := by decide +kernel
  rw [Option.map_eq_some_iff] at hall
  obtain ⟨db, hrun, heq⟩ := hall
  injection heq with hwaits hscores
  have hidle := not_waiting_iff.mpr hwaits
  have hharmless :
      Run (operationStep fun _ => []) Harmless {} (firstScan ++ exposurePatched) db := by
    apply Run.of_runAll_of_forall hrun
    simp [firstScan, exposurePatched, Harmless]
  exact ⟨db, hharmless, hidle, hscores, fresh_of_run linked_empty fresh_empty hharmless hidle⟩

/-- The certificate of the first snapshot keeps the score it had without the exposure. -/
theorem exposureInferred_stale : letI := asciiText
    ¬ ∀ as db, Run (operationStep fun _ => []) anyStep {} as db →
      (∀ request, ¬ Waiting db request) → Fresh db := by
  let := asciiText
  intro h
  have hall : ((runAll (operationStep fun _ => []) {} (firstScan ++ exposureInferred)).map
      fun db => (db.tasks.ids waits, staleScores db)) = some ([], [0]) := by decide +kernel
  rw [Option.map_eq_some_iff] at hall
  obtain ⟨db, hrun, heq⟩ := hall
  injection heq with hwaits hstale
  have hfresh := fresh_iff.mp (h _ db (Run.of_runAll hrun) (not_waiting_iff.mpr hwaits))
  rw [hstale] at hfresh
  cases hfresh

end CryptoScanner.Risk
