import CryptoScanner.Jobs.Changes
import CryptoScanner.Risk.Services
import CryptoScanner.Scan.BomRefs

/-!
# How many scores an asset has

Workers score the assets of scans and of recompute tasks.  The lookup of an asset's rows and the
write that follows it are two statements, and those of other workers may fall between them.
-/

namespace CryptoScanner.Risk

open Library Python RiskEngine Scan

/-! ## 1. The workers -/

abbrev WorkerId := Nat

structure Scoring where
  db : Database
  /-- The recompute task that the worker runs. -/
  task : WorkerId → Option Id
  /-- The assets that the worker has still to score. -/
  todo : WorkerId → List Id
  /-- The rows that the worker has found for the first of them. -/
  found : WorkerId → Option (List Id)

inductive ScoringAction
  | patchContext (assetId : Id) (patch : AssetContextPatch)
  | createRecomputeJob (request : RecomputeRequest)
  | scan (worker : WorkerId) (scanJobId : Id) (candidates : List AssetCandidate)
  | start (worker : WorkerId) (taskId : Id)
  | lookup (worker : WorkerId)
  | write (worker : WorkerId) (result : RiskResult) (context : Context)
  | finish (worker : WorkerId) (result : RecomputeResult)
  | raise (worker : WorkerId) (error : String)

def Scoring.idle (s : Scoring) (worker : WorkerId) : Bool :=
  (s.task worker).isNone && (s.todo worker).isEmpty

def Scoring.raise (s : Scoring) (worker : WorkerId) (error : String) (now : Time) : Scoring :=
  let db :=
    match s.task worker with
    | none => s.db
    | some taskId => (Jobs.failRecomputeTask s.db taskId error now).toOption.getD s.db
  { db
    task := Function.update s.task worker none
    todo := Function.update s.todo worker []
    found := Function.update s.found worker none }

def firstKept (db : Database) (existing : List Id) : Bool :=
  existing.head?.all fun first => (db.scores.find? first).isSome

section

variable [PyText] (floatRepr : PyFloat → List Char)

/-- One step at the time `now`; `none` where the step is not enabled. -/
def scoringStep (s : Scoring) : ScoringAction × Time → Option Scoring
  | (.patchContext assetId patch, now) => do
      let db ← patchAssetContext s.db assetId patch now
      return { s with db }
  | (.createRecomputeJob request, now) =>
      some { s with db := Jobs.createRecomputeJob s.db request now }
  | (.scan worker scanJobId candidates, _) =>
      if s.idle worker then
        -- a scan that raises at an asset has nothing to score
        let (db, raised) := persistSnapshot floatRepr s.db scanJobId candidates
        some { s with
          db
          todo := Function.update s.todo worker
            (if raised.isSome then [] else snapshotAssets db s.db.snapshots.nextId)
          found := Function.update s.found worker none }
      else none
  | (.start worker taskId, now) => do
      let task ← s.db.tasks.find? taskId
      match s.idle worker, task.payload, Jobs.claimRecomputeTask s.db taskId now with
      | true, .recompute request, .ok (.started db) =>
          some { s with
            db
            task := Function.update s.task worker (some taskId)
            todo := Function.update s.todo worker (coveredAssets db request)
            found := Function.update s.found worker none }
      | _, _, _ => none
  | (.lookup worker, _) =>
      match s.todo worker with
      | [] => none
      | assetId :: _ =>
          some { s with
            found := Function.update s.found worker (some (scoresOf s.db assetId)) }
  | (.write worker result context, now) =>
      match s.todo worker, s.found worker with
      | assetId :: rest, some existing => do
          let asset ← s.db.assets.find? assetId
          let db := saveScore s.db existing
            { snapshot := asset.snapshot, asset := assetId, result, context }
          let saved := { s with
            db
            todo := Function.update s.todo worker rest
            found := Function.update s.found worker none }
          -- the surplus rows are deleted by then
          return if firstKept s.db existing then saved
            else saved.raise worker "Save with update_fields did not affect any rows." now
      | _, _ => none
  | (.finish worker result, now) =>
      match s.todo worker, s.task worker with
      | [], some taskId =>
          match Jobs.completeRecomputeTask s.db taskId result now with
          | .ok db => some { s with db, task := Function.update s.task worker none }
          | .error _ => none
      | _, _ => none
  | (.raise worker error, now) => some (s.raise worker error now)

end

/-! ## 2. The property and the condition -/

def OneScore (db : Database) : Prop :=
  ∀ id id' score score', db.scores.find? id = some score → db.scores.find? id' = some score' →
    score.asset = score'.asset → id = id'

def CryptoScored (db : Database) : Prop :=
  ∀ id score, db.scores.find? id = some score →
    ∃ asset, db.assets.find? score.asset = some asset ∧ isCrypto asset = true

/-- Scans insert no other assets. -/
def AllCrypto (db : Database) : Prop :=
  ∀ assetId asset, db.assets.find? assetId = some asset → isCrypto asset = true

/-- A worker that has found no row for an asset writes one while there still is none. -/
def WritesAlone (s : Scoring) : ScoringAction × Time → Prop
  | (.write worker _ _, _) =>
      match s.todo worker, s.found worker with
      | assetId :: _, some [] => scoresOf s.db assetId = []
      | _, _ => True
  | _ => True

instance (s : Scoring) (a : ScoringAction × Time) : Decidable (WritesAlone s a) := by
  unfold WritesAlone
  split
  · split <;> infer_instance
  · infer_instance

def FoundOf (s : Scoring) (worker : WorkerId) : Prop :=
  ∀ assetId rest existing, s.todo worker = assetId :: rest → s.found worker = some existing →
    ∀ id ∈ existing, id < s.db.scores.nextId ∧
      ∀ score, s.db.scores.find? id = some score → score.asset = assetId

/-- What every step keeps. -/
structure ScoresFormed (s : Scoring) : Prop where
  crypto : AllCrypto s.db
  scored : CryptoScored s.db
  found : ∀ worker, FoundOf s worker

def Scoring.start (db : Database) : Scoring where
  db
  task := fun _ => none
  todo := fun _ => []
  found := fun _ => none

theorem start_formed {db : Database} (hcrypto : AllCrypto db) (hscored : CryptoScored db) :
    ScoresFormed (.start db) where
  crypto := hcrypto
  scored := hscored
  found := by
    intro worker assetId rest existing htodo
    cases htodo

/-! ## 3. What a step does -/

/-- A change that leaves the scores alone, keeps the assets and adds crypto assets only. -/
structure Unscored (db db' : Database) : Prop where
  scores : db'.scores = db.scores
  old : ∀ id asset, db.assets.find? id = some asset → db'.assets.find? id = some asset
  new : ∀ id asset, db'.assets.find? id = some asset →
    db.assets.find? id = some asset ∨ isCrypto asset = true

theorem Unscored.of_eq {db db' : Database} (hscores : db'.scores = db.scores)
    (hassets : db'.assets = db.assets) : Unscored db db' :=
  ⟨hscores, fun _ _ h => hassets ▸ h, fun _ _ h => .inl (hassets ▸ h)⟩

theorem Unscored.trans {db db' db'' : Database} (h : Unscored db db') (h' : Unscored db' db'') :
    Unscored db db'' where
  scores := h'.scores.trans h.scores
  old := fun id asset hasset => h'.old id asset (h.old id asset hasset)
  new := by
    intro id asset hasset
    rcases h'.new id asset hasset with hmid | hcrypto
    · exact h.new id asset hmid
    · exact .inr hcrypto

theorem saveOverride_unscored (db : Database) (assetId : Id) (patch : AssetContextPatch) :
    Unscored db (saveOverride db assetId patch) := by
  unfold saveOverride
  split <;> exact .of_eq rfl rfl

theorem patchAssetContext_unscored {db db' : Database} {assetId : Id} {patch : AssetContextPatch}
    {now : Time} (h : patchAssetContext db assetId patch now = some db') : Unscored db db' := by
  unfold patchAssetContext at h
  split at h
  · cases h
  · cases h
    have hjob : Unscored (saveOverride db assetId patch)
        (Jobs.createRecomputeJob (saveOverride db assetId patch) (assetRecompute assetId) now) :=
      .of_eq rfl rfl
    exact (saveOverride_unscored db assetId patch).trans hjob

theorem claimRecomputeTask_unscored {db db' : Database} {taskId : Id} {now : Time}
    (h : Jobs.claimRecomputeTask db taskId now = .ok (.started db')) : Unscored db db' := by
  obtain ⟨task, -, ⟨-, hskip⟩ | ⟨-, prepared, hprepared, hstart⟩⟩ := Jobs.claimTask_cases h
  · cases hskip
  · cases hprepared
    rcases hstart with ⟨-, hstart⟩ | ⟨_, _, _, -, -, ⟨-, hstart⟩ | hstart⟩
    · cases hstart
      exact .of_eq rfl rfl
    · cases hstart
    · cases hstart
      exact .of_eq rfl rfl

theorem completeRecomputeTask_unscored {db db' : Database} {taskId : Id} {result : RecomputeResult}
    {now : Time} (h : Jobs.completeRecomputeTask db taskId result now = .ok db') :
    Unscored db db' := by
  unfold Jobs.completeRecomputeTask at h
  rw [bind_eq_ok] at h
  obtain ⟨task, -, h⟩ := h
  cases hjob : task.asyncJob <;> simp only [hjob] at h <;> cases h <;> exact .of_eq rfl rfl

theorem raise_scores (s : Scoring) (worker : WorkerId) (error : String) (now : Time) :
    (s.raise worker error now).db.scores = s.db.scores ∧
      (s.raise worker error now).db.assets = s.db.assets := by
  dsimp only [Scoring.raise]
  split
  · exact ⟨rfl, rfl⟩
  · rename_i taskId _
    cases hfail : Jobs.failRecomputeTask s.db taskId error now with
    | error _ => exact ⟨rfl, rfl⟩
    | ok db =>
        unfold Jobs.failRecomputeTask at hfail
        rw [bind_eq_ok] at hfail
        obtain ⟨task, -, hfail⟩ := hfail
        cases hjob : task.asyncJob <;> simp only [hjob] at hfail <;> cases hfail <;>
          exact ⟨rfl, rfl⟩

theorem persistSnapshot_unscored [PyText] (floatRepr : PyFloat → List Char) (db : Database)
    (scanJobId : Id) (candidates : List AssetCandidate) :
    Unscored db (persistSnapshot floatRepr db scanJobId candidates).1 := by
  unfold persistSnapshot
  dsimp only
  obtain ⟨done, rest, -, hrows, -⟩ := insertEach_inserted db.snapshots.nextId
    (dedupeCandidates floatRepr candidates)
    (insertSnapshot db scanJobId (dedupeCandidates floatRepr candidates))
  rw [hrows]
  refine ⟨rfl, fun id asset h => find?_insertAssets_of_find? h, fun id asset h => ?_⟩
  rcases find?_insertAssets h with hold | ⟨-, candidate, -, rfl⟩
  · exact .inl hold
  · exact .inr (beq_self_eq_true _)

/-- After the step a worker holds what it held, or holds no rows, or holds those it has just looked
up. -/
def WorkKept (s s' : Scoring) : Prop :=
  ∀ worker, (s'.todo worker = s.todo worker ∧ s'.found worker = s.found worker) ∨
    s'.found worker = none ∨
    ∃ assetId rest, s'.todo worker = assetId :: rest ∧
      s'.found worker = some (scoresOf s'.db assetId)

theorem WorkKept.of_eq {s s' : Scoring} (htodo : s'.todo = s.todo) (hfound : s'.found = s.found) :
    WorkKept s s' :=
  fun _ => .inl ⟨htodo ▸ rfl, hfound ▸ rfl⟩

theorem WorkKept.of_none {s s' : Scoring} {worker : WorkerId} (hnone : s'.found worker = none)
    (hothers : ∀ other, other ≠ worker →
      s'.todo other = s.todo other ∧ s'.found other = s.found other) : WorkKept s s' := by
  intro other
  by_cases hother : other = worker
  · exact .inr (.inl (hother ▸ hnone))
  · exact .inl (hothers other hother)

theorem workKept_of_update {s s' : Scoring} {worker : WorkerId} {todo : List Id}
    (htodo : s'.todo = Function.update s.todo worker todo)
    (hfound : s'.found = Function.update s.found worker none) : WorkKept s s' := by
  apply @WorkKept.of_none _ _ worker
  · rw [hfound, Function.update_self]
  · intro other hother
    rw [htodo, hfound, Function.update_of_ne hother, Function.update_of_ne hother]
    exact ⟨rfl, rfl⟩

/-- Dropping the work after a step that was the worker's own. -/
theorem WorkKept.raise {s s' : Scoring} {worker : WorkerId}
    (hothers : ∀ other, other ≠ worker →
      s'.todo other = s.todo other ∧ s'.found other = s.found other) (error : String) (now : Time) :
    WorkKept s (s'.raise worker error now) := by
  apply @WorkKept.of_none _ _ worker
  · exact Function.update_self worker none s'.found
  · intro other hother
    dsimp only [Scoring.raise]
    rw [Function.update_of_ne hother, Function.update_of_ne hother]
    exact hothers other hother

structure Wrote (s s' : Scoring) (worker : WorkerId) (assetId : Id) (rest existing : List Id)
    (score : RiskScore) : Prop where
  todo : s.todo worker = assetId :: rest
  found : s.found worker = some existing
  asset : ∃ asset, s.db.assets.find? assetId = some asset
  of_asset : score.asset = assetId
  scores : s'.db.scores = (saveScore s.db existing score).scores
  assets : s'.db.assets = s.db.assets

def ScoringAction.WritesBy (worker : WorkerId) : ScoringAction × Time → Prop
  | (.write worker' _ _, _) => worker' = worker
  | _ => False

theorem saveScore_assets (db : Database) (existing : List Id) (score : RiskScore) :
    (saveScore db existing score).assets = db.assets := by
  unfold saveScore
  split <;> rfl

section

variable [PyText] {floatRepr : PyFloat → List Char}

theorem scoringStep_cases {s s' : Scoring} {a : ScoringAction × Time}
    (h : scoringStep floatRepr s a = some s') :
    WorkKept s s' ∧ (Unscored s.db s'.db ∨ ∃ worker assetId rest existing score,
      ScoringAction.WritesBy worker a ∧ Wrote s s' worker assetId rest existing score) := by
  obtain ⟨action, now⟩ := a
  cases action with
  | patchContext assetId patch =>
      simp only [scoringStep, Option.bind_eq_bind, Option.bind_eq_some_iff] at h
      obtain ⟨db, hpatch, h⟩ := h
      cases h
      exact ⟨.of_eq rfl rfl, .inl (patchAssetContext_unscored hpatch)⟩
  | createRecomputeJob request =>
      cases h
      exact ⟨.of_eq rfl rfl, .inl (.of_eq rfl rfl)⟩
  | scan worker scanJobId candidates =>
      simp only [scoringStep] at h
      split at h
      · cases h
        exact ⟨workKept_of_update rfl rfl,
          .inl (persistSnapshot_unscored floatRepr s.db scanJobId candidates)⟩
      · cases h
  | start worker taskId =>
      simp only [scoringStep, Option.bind_eq_bind, Option.bind_eq_some_iff] at h
      obtain ⟨task, -, h⟩ := h
      split at h
      · rename_i request db _ _ hclaim
        cases h
        exact ⟨workKept_of_update rfl rfl, .inl (claimRecomputeTask_unscored hclaim)⟩
      · cases h
  | lookup worker =>
      simp only [scoringStep] at h
      split at h
      · cases h
      · rename_i assetId rest htodo
        cases h
        refine ⟨?_, .inl (.of_eq rfl rfl)⟩
        intro other
        dsimp only
        -- only the worker of the action looks rows up; the others keep what they found
        by_cases hother : other = worker
        · right
          right
          rw [hother, Function.update_self]
          exact ⟨assetId, rest, htodo, rfl⟩
        · left
          rw [Function.update_of_ne hother]
          exact ⟨rfl, rfl⟩
  | write worker result context =>
      simp only [scoringStep] at h
      split at h
      · rename_i assetId rest existing htodo hfound
        rw [Option.bind_eq_bind, Option.bind_eq_some_iff] at h
        obtain ⟨asset, hasset, h⟩ := h
        cases h
        let score : RiskScore := { snapshot := asset.snapshot, asset := assetId, result, context }
        -- the row is written in both cases; where it is gone by then, the worker raises after it
        split
        · refine ⟨workKept_of_update rfl rfl,
            .inr ⟨worker, assetId, rest, existing, score, rfl, ?_⟩⟩
          exact ⟨htodo, hfound, ⟨asset, hasset⟩, rfl, rfl, saveScore_assets _ _ _⟩
        · refine ⟨WorkKept.raise ?_ _ now, .inr ⟨worker, assetId, rest, existing, score, rfl, ?_⟩⟩
          · intro other hother
            exact ⟨Function.update_of_ne hother _ _, Function.update_of_ne hother _ _⟩
          · obtain ⟨hscores, hassets⟩ := raise_scores
              { s with
                db := saveScore s.db existing score
                todo := Function.update s.todo worker rest
                found := Function.update s.found worker none }
              worker "Save with update_fields did not affect any rows." now
            exact ⟨htodo, hfound, ⟨asset, hasset⟩, rfl, hscores,
              hassets.trans (saveScore_assets _ _ _)⟩
      · cases h
  | finish worker result =>
      simp only [scoringStep] at h
      split at h
      · split at h
        · rename_i db hcomplete
          cases h
          exact ⟨.of_eq rfl rfl, .inl (completeRecomputeTask_unscored hcomplete)⟩
        · cases h
      · cases h
  | raise worker error =>
      cases h
      obtain ⟨hscores, hassets⟩ := raise_scores s worker error now
      exact ⟨workKept_of_update rfl rfl, .inl (.of_eq hscores hassets)⟩

end

/-! ## 4. Rows -/

/-- What the scores are after a write: rows of the same assets as before, and at most one new row,
of the asset that is scored. -/
theorem saveScore_cases {db : Database} {existing : List Id} {score : RiskScore}
    (hexisting : ∀ id ∈ existing, id < db.scores.nextId ∧
      ∀ old, db.scores.find? id = some old → old.asset = score.asset) {id : Id} {row : RiskScore}
    (h : (saveScore db existing score).scores.find? id = some row) :
    (∃ old, db.scores.find? id = some old ∧ old.asset = row.asset) ∨
      (existing = [] ∧ id = db.scores.nextId ∧ row = score) := by
  cases existing with
  | nil =>
      change (db.scores.insert score).find? id = some row at h
      rw [Table.find?_insert] at h
      split at h
      · rename_i hid
        exact .inr ⟨rfl, hid, (Option.some.inj h).symm⟩
      · exact .inl ⟨row, h, rfl⟩
  | cons first rest =>
      left
      change ((deleteScores db.scores rest).modify first fun _ => score).find? id = some row at h
      rw [Table.find?_modify] at h
      split at h
      · rename_i hid
        rw [find?_deleteScores, Option.map_eq_some_iff] at h
        obtain ⟨old, hold, rfl⟩ := h
        split at hold
        · cases hold
        · rw [hid] at hold ⊢
          exact ⟨old, hold, (hexisting first List.mem_cons_self).2 old hold⟩
      · rw [find?_deleteScores] at h
        split at h
        · cases h
        · exact ⟨row, h, rfl⟩

theorem nextId_deleteScores (scores : Table RiskScore) (ids : List Id) :
    (deleteScores scores ids).nextId = scores.nextId := by
  induction ids generalizing scores with
  | nil => rfl
  | cons id ids ih => rw [deleteScores, List.foldl_cons, ← deleteScores, ih, Table.nextId_delete]

theorem nextId_saveScore_le (db : Database) (existing : List Id) (score : RiskScore) :
    db.scores.nextId ≤ (saveScore db existing score).scores.nextId := by
  cases existing with
  | nil =>
      show _ ≤ (db.scores.insert score).nextId
      rw [Table.nextId_insert]
      omega
  | cons first rest =>
      show _ ≤ ((deleteScores db.scores rest).modify first fun _ => score).nextId
      rw [Table.nextId_modify, nextId_deleteScores]

/-- Old rows keep their assets. -/
structure RowsKept (db db' : Database) : Prop where
  nextId : db.scores.nextId ≤ db'.scores.nextId
  asset : ∀ id row, id < db.scores.nextId → db'.scores.find? id = some row →
    ∃ old, db.scores.find? id = some old ∧ old.asset = row.asset

theorem Unscored.rowsKept {db db' : Database} (h : Unscored db db') : RowsKept db db' where
  nextId := h.scores ▸ Nat.le_refl _
  asset := by
    intro id row _ hrow
    rw [h.scores] at hrow
    exact ⟨row, hrow, rfl⟩

section

variable {s s' : Scoring} {worker : WorkerId} {assetId : Id} {rest existing : List Id}
  {score : RiskScore}

theorem Wrote.row_cases (h : Wrote s s' worker assetId rest existing score)
    (hs : ScoresFormed s) {id : Id} {row : RiskScore} (hrow : s'.db.scores.find? id = some row) :
    (∃ old, s.db.scores.find? id = some old ∧ old.asset = row.asset) ∨
      (existing = [] ∧ id = s.db.scores.nextId ∧ row = score) := by
  rw [h.scores] at hrow
  refine saveScore_cases ?_ hrow
  rw [h.of_asset]
  exact hs.found worker assetId rest existing h.todo h.found

theorem Wrote.rowsKept (h : Wrote s s' worker assetId rest existing score) (hs : ScoresFormed s) :
    RowsKept s.db s'.db where
  nextId := h.scores ▸ nextId_saveScore_le s.db existing score
  asset := by
    intro id row hlt hrow
    rcases h.row_cases hs hrow with hold | ⟨-, hid, -⟩
    · exact hold
    · exact absurd hlt (hid ▸ Nat.lt_irrefl _)

theorem Wrote.cryptoScored (h : Wrote s s' worker assetId rest existing score)
    (hs : ScoresFormed s) : CryptoScored s'.db := by
  intro id row hrow
  rw [h.assets]
  rcases h.row_cases hs hrow with ⟨old, hold, hasset⟩ | ⟨-, -, rfl⟩
  · rw [← hasset]
    exact hs.scored id old hold
  · obtain ⟨asset, hasset⟩ := h.asset
    rw [h.of_asset]
    exact ⟨asset, hasset, hs.crypto _ asset hasset⟩

/-- A write leaves one score for each asset, if a new row is the first of its asset. -/
theorem Wrote.oneScore (h : Wrote s s' worker assetId rest existing score) (hs : ScoresFormed s)
    (hone : OneScore s.db) (halone : existing = [] → scoresOf s.db assetId = []) :
    OneScore s'.db := by
  have hnew : ∀ id old, existing = [] → s.db.scores.find? id = some old →
      old.asset ≠ score.asset := by
    intro id old hnil hold heq
    have hmem : id ∈ scoresOf s.db assetId := mem_scoresOf.mpr ⟨old, hold, heq.trans h.of_asset⟩
    rw [halone hnil] at hmem
    cases hmem
  intro id id' row row' hrow hrow' hsame
  rcases h.row_cases hs hrow with ⟨old, hold, hasset⟩ | ⟨hnil, hid, rfl⟩
  · rcases h.row_cases hs hrow' with ⟨old', hold', hasset'⟩ | ⟨hnil, -, rfl⟩
    · exact hone id id' old old' hold hold' (hasset.trans (hsame.trans hasset'.symm))
    · exact absurd (hasset.trans hsame) (hnew id old hnil hold)
  · rcases h.row_cases hs hrow' with ⟨old', hold', hasset'⟩ | ⟨-, hid', -⟩
    · exact absurd (hasset'.trans hsame.symm) (hnew id' old' hnil hold')
    · rw [hid, hid']

end

theorem Unscored.oneScore {db db' : Database} (h : Unscored db db') (hdb : OneScore db) :
    OneScore db' := by
  unfold OneScore
  rw [h.scores]
  exact hdb

theorem Unscored.cryptoScored {db db' : Database} (h : Unscored db db') (hdb : CryptoScored db) :
    CryptoScored db' := by
  intro id score hscore
  rw [h.scores] at hscore
  obtain ⟨asset, hasset, hcrypto⟩ := hdb id score hscore
  exact ⟨asset, h.old _ _ hasset, hcrypto⟩

theorem Unscored.allCrypto {db db' : Database} (h : Unscored db db') (hdb : AllCrypto db) :
    AllCrypto db' := by
  intro assetId asset hasset
  rcases h.new assetId asset hasset with hold | hcrypto
  · exact hdb assetId asset hold
  · exact hcrypto

theorem foundOf_workKept {s s' : Scoring} (hwork : WorkKept s s') (hrows : RowsKept s.db s'.db)
    {worker : WorkerId} (hs : FoundOf s worker) : FoundOf s' worker := by
  intro assetId rest existing htodo hfound id hmem
  rcases hwork worker with ⟨htodo', hfound'⟩ | hnone | ⟨assetId', rest', htodo', hfound'⟩
  · rw [htodo'] at htodo
    rw [hfound'] at hfound
    obtain ⟨hlt, hrow⟩ := hs assetId rest existing htodo hfound id hmem
    refine ⟨Nat.lt_of_lt_of_le hlt hrows.nextId, ?_⟩
    intro row hfind
    obtain ⟨old, hold, hasset⟩ := hrows.asset id row hlt hfind
    rw [← hasset]
    exact hrow old hold
  · rw [hnone] at hfound
    cases hfound
  · rw [htodo'] at htodo
    rw [hfound'] at hfound
    cases htodo
    cases hfound
    obtain ⟨score, hscore, hasset⟩ := mem_scoresOf.mp hmem
    refine ⟨Table.lt_nextId hscore, ?_⟩
    intro row hfind
    rw [hscore] at hfind
    cases hfind
    exact hasset

/-! ## 5. Runs -/

section

variable [PyText] {floatRepr : PyFloat → List Char} {s s' : Scoring} {a : ScoringAction × Time}

theorem scoringStep_formed (hs : ScoresFormed s) (h : scoringStep floatRepr s a = some s') :
    ScoresFormed s' := by
  obtain ⟨hwork, hkept | ⟨worker, assetId, rest, existing, score, -, hwrote⟩⟩ :=
    scoringStep_cases h
  · exact ⟨hkept.allCrypto hs.crypto, hkept.cryptoScored hs.scored,
      fun worker => foundOf_workKept hwork hkept.rowsKept (hs.found worker)⟩
  · refine ⟨?_, hwrote.cryptoScored hs,
      fun worker => foundOf_workKept hwork (hwrote.rowsKept hs) (hs.found worker)⟩
    intro assetId asset hasset
    rw [hwrote.assets] at hasset
    exact hs.crypto assetId asset hasset

theorem scoringStep_oneScore (hs : ScoresFormed s) (hone : OneScore s.db)
    (hguard : WritesAlone s a) (h : scoringStep floatRepr s a = some s') : OneScore s'.db := by
  obtain ⟨-, hkept | ⟨worker, assetId, rest, existing, score, hwrites, hwrote⟩⟩ :=
    scoringStep_cases h
  · exact hkept.oneScore hone
  · apply hwrote.oneScore hs hone
    intro hnil
    obtain ⟨action, now⟩ := a
    cases action with
    | write worker' result context =>
        cases hwrites
        simp only [WritesAlone, hwrote.todo, hwrote.found, hnil] at hguard
        exact hguard
    | _ => cases hwrites

/-- Whatever the interleaving, only crypto assets are scored. -/
theorem cryptoScored_of_run {db : Database} (hcrypto : AllCrypto db) (hscored : CryptoScored db)
    {as : List (ScoringAction × Time)}
    (h : Run (scoringStep floatRepr) anyStep (.start db) as s') : CryptoScored s'.db := by
  have hformed : ScoresFormed s' :=
    h.invariant (I := ScoresFormed) (fun _ _ _ hs _ => scoringStep_formed hs)
      (start_formed hcrypto hscored)
  exact hformed.scored

/-- In a run in which no worker inserts a row for an asset that has got one since the lookup, each
asset has at most one score, and an asset that has one is a crypto asset. -/
theorem oneScore_and_cryptoScored_of_run {db : Database} (hcrypto : AllCrypto db)
    (hscored : CryptoScored db) (hone : OneScore db) {as : List (ScoringAction × Time)}
    (h : Run (scoringStep floatRepr) WritesAlone (.start db) as s') :
    OneScore s'.db ∧ CryptoScored s'.db := by
  have hboth : ScoresFormed s' ∧ OneScore s'.db := by
    apply h.invariant (I := fun s => ScoresFormed s ∧ OneScore s.db)
    · rintro s a t ⟨hs, hone⟩ hguard hstep
      exact ⟨scoringStep_formed hs hstep, scoringStep_oneScore hs hone hguard hstep⟩
    · exact ⟨start_formed hcrypto hscored, hone⟩
  exact ⟨hboth.2, hboth.1.scored⟩

end

/-! ## 6. A recompute during a scan -/

def oneHost : Database := { targets := Table.empty.insert agentHost }

def certificateScore : RiskResult where
  score := 48
  tier := .medium
  factors := ⟨19 / 20, 1 / 2, 1 / 2, 1 / 2, 1 / 2⟩
  weightedFactors := ⟨19 / 20, 1 / 2, 1 / 2, 1 / 2, 1 / 2⟩
  sources := ⟨.heuristic, .heuristic, .heuristic, .heuristic⟩
  raw := 19 / 40
  weightedRaw := 19 / 40
  weights := defaultWeights

example : letI := asciiText
    ((persistSnapshot (fun _ => []) oneHost 0 (hostCandidates 0 "ab")).1.assets.find? 0).map
      (fun asset => currentRisk oneHost 0 asset defaultWeights) = some (.ok certificateScore) := by
  decide +kernel

/-- Worker 1 scores the assets of a scan, and then worker 2 recomputes one of them. -/
def scanThenRecompute : List (ScoringAction × Time) :=
  [(.scan 1 0 (hostCandidates 0 "ab"), 1), (.lookup 1, 2), (.write 1 certificateScore emptyContext, 3),
    (.createRecomputeJob (assetRecompute 0), 4), (.start 2 0, 5), (.lookup 2, 6),
    (.write 2 certificateScore emptyContext, 7)]

/-- Worker 2 recomputes the asset before worker 1 has written its score. -/
def scanDuringRecompute : List (ScoringAction × Time) :=
  [(.scan 1 0 (hostCandidates 0 "ab"), 1), (.createRecomputeJob (assetRecompute 0), 2),
    (.start 2 0, 3), (.lookup 1, 4), (.lookup 2, 5), (.write 2 certificateScore emptyContext, 6),
    (.write 1 certificateScore emptyContext, 7)]

theorem oneHost_start : AllCrypto oneHost ∧ CryptoScored oneHost ∧ OneScore oneHost := by
  refine ⟨?_, ?_, ?_⟩
  · intro assetId asset hasset
    cases hasset
  · intro id score hscore
    cases hscore
  · intro id id' score score' hscore
    cases hscore

theorem scanThenRecompute_oneScore : letI := asciiText
    ∃ s, Run (scoringStep fun _ => []) WritesAlone (.start oneHost) scanThenRecompute s ∧
      scoresOf s.db 0 = [0] ∧ OneScore s.db ∧ CryptoScored s.db := by
  let := asciiText
  have hrun : ((runWhere (scoringStep fun _ => []) WritesAlone (.start oneHost)
      scanThenRecompute).map fun s => scoresOf s.db 0) = some [0] := by decide +kernel
  rw [Option.map_eq_some_iff] at hrun
  obtain ⟨s, hs, hscores⟩ := hrun
  obtain ⟨hcrypto, hscored, hone⟩ := oneHost_start
  have hrun := Run.of_runWhere hs
  exact ⟨s, hrun, hscores, oneScore_and_cryptoScored_of_run hcrypto hscored hone hrun⟩

/-- Both workers find no row, and each inserts one. -/
theorem scanDuringRecompute_twoScores : letI := asciiText
    ¬ ∀ as s, Run (scoringStep fun _ => []) anyStep (.start oneHost) as s →
      OneScore s.db ∧ CryptoScored s.db := by
  let := asciiText
  intro h
  have hrun : ((runAll (scoringStep fun _ => []) (.start oneHost) scanDuringRecompute).map
      fun s => scoresOf s.db 0) = some [0, 1] := by decide +kernel
  rw [Option.map_eq_some_iff] at hrun
  obtain ⟨s, hs, hscores⟩ := hrun
  have hrow : ∀ id ∈ [0, 1], ∃ score, s.db.scores.find? id = some score ∧ score.asset = 0 := by
    intro id hid
    rw [← hscores] at hid
    exact mem_scoresOf.mp hid
  obtain ⟨score, hscore, hasset⟩ := hrow 0 (by decide)
  obtain ⟨score', hscore', hasset'⟩ := hrow 1 (by decide)
  have hsame := (h _ s (Run.of_runAll hs)).1 0 1 score score' hscore hscore'
    (hasset.trans hasset'.symm)
  cases hsame

end CryptoScanner.Risk
