import CryptoScanner.Jobs.Changes
import CryptoScanner.Scan.BomRefs
import CryptoScanner.Scan.ScanBody

/-!
# What a failed scan leaves behind

Collecting touches none of the tables of snapshots, assets and scores.  After it the snapshot, its
assets and their scores are written in this order.
-/

namespace CryptoScanner.Scan

open Library Python RiskEngine Risk Targets

/-! ## 1. The parts of the body -/

def Statement.collects : Statement → Bool
  | .loadScanJob | .loadTargets | .findAgent | .inferContext _ _ | .log _ | .progress _ _ _ _ => true
  | _ => false

def Statement.insertsSnapshot : Statement → Bool
  | .insertSnapshot _ => true
  | _ => false

def Statement.scores : Statement → Bool
  | .resolveWeights | .scoreAsset _ _ | .countAssets => true
  | _ => false

theorem scores_of_collects {x : Statement} (h : x.collects = true) : x.scores = false := by
  cases x <;> first | rfl | cases h

theorem not_before_of_scores {x : Statement} (h : x.scores = true) :
    ¬ (x.collects = true ∨ x.insertsSnapshot = true) := by
  cases x <;> simp [Statement.scores, Statement.collects, Statement.insertsSnapshot] at h ⊢

/-- The tables of snapshots, assets and scores are the same. -/
structure SameResults (db db' : Database) : Prop where
  snapshots : db'.snapshots = db.snapshots
  assets : db'.assets = db.assets
  scores : db'.scores = db.scores

theorem SameResults.refl (db : Database) : SameResults db db := ⟨rfl, rfl, rfl⟩

theorem SameResults.trans {db db' db'' : Database} (h : SameResults db db')
    (h' : SameResults db' db'') : SameResults db db'' :=
  ⟨h'.snapshots.trans h.snapshots, h'.assets.trans h.assets, h'.scores.trans h.scores⟩

structure ForeignKeys (db : Database) : Prop where
  snapshot : ∀ id asset snapshotId, db.assets.find? id = some asset →
    asset.snapshot = some snapshotId → snapshotId < db.snapshots.nextId
  asset : ∀ id score, db.scores.find? id = some score → score.asset < db.assets.nextId

def scoredIds (xs : List Statement) : List Id :=
  xs.filterMap fun
    | .scoreAsset _ assetId => some assetId
    | _ => none

theorem failScanJobTask_sameResults {db db' : Database} {taskId : Id} {error : String} {now : Time}
    (h : Jobs.failScanJobTask db taskId error now = .ok db') : SameResults db db' := by
  unfold Jobs.failScanJobTask at h
  rw [bind_eq_ok] at h
  obtain ⟨task, -, h⟩ := h
  cases hjob : task.asyncJob <;> simp only [hjob] at h <;> cases h
  exact ⟨rfl, rfl, rfl⟩

section

variable [PyText]

/-! ## 2. Collecting -/

theorem commit_sameResults {task : ScanTask} {snapshotId : Id} {s s' : BodyState} {x : Statement}
    (hx : x.collects = true) (h : Statement.commit task snapshotId s x = some s') :
    SameResults s.db s'.db := by
  cases x with
  | loadScanJob =>
      obtain ⟨_, -, rfl⟩ := Option.map_eq_some_iff.mp h
      exact .refl _
  | loadTargets =>
      simp only [Statement.commit] at h
      split at h <;> cases h
      exact .refl _
  | findAgent =>
      cases h
      exact .refl _
  | log entry =>
      cases h
      exact .refl _
  | inferContext targetId inference =>
      simp only [Statement.commit, Option.bind_eq_bind, Option.bind_eq_some_iff] at h
      obtain ⟨target, -, h⟩ := h
      cases h
      exact ⟨rfl, rfl, rfl⟩
  | progress completed total targetId scanner =>
      simp only [Statement.commit, Option.bind_eq_bind, Option.bind_eq_some_iff] at h
      obtain ⟨target, -, h⟩ := h
      cases h
      exact ⟨rfl, rfl, rfl⟩
  | insertSnapshot | insertAsset | resolveWeights | scoreAsset | countAssets => cases hx

omit [PyText] in
theorem logScanners_collects (completed total : Nat) (entries : List ScanRunLog) :
    ∀ x ∈ logScanners completed total entries, x.collects = true := by
  intro x hx
  unfold logScanners at hx
  rw [List.mem_flatMap] at hx
  obtain ⟨⟨entry, index⟩, -, hmem⟩ := hx
  simp only [List.mem_cons, List.not_mem_nil, or_false] at hmem
  rcases hmem with rfl | rfl <;> rfl

omit [PyText] in
theorem runAgentScanners_collects (completed total : Nat) (targetId : Id)
    (findings : TargetFindings) :
    ∀ x ∈ (runAgentScanners completed total targetId findings).1, x.collects = true := by
  have hlogs : ∀ n entries, ∀ x ∈ Statement.findAgent :: logScanners n total entries,
      x.collects = true := by
    intro n entries x hx
    rcases List.mem_cons.mp hx with rfl | hx
    · rfl
    · exact logScanners_collects n total entries x hx
  intro x hx
  unfold runAgentScanners at hx
  dsimp only at hx
  split at hx
  · exact hlogs _ _ x hx
  · rcases List.mem_append.mp hx with hx | hx
    · exact hlogs _ _ x hx
    · unfold runSupportedScanners at hx
      split at hx <;> exact hlogs _ _ x hx

omit [PyText] in
theorem networkPart_collects (scanners : List Scanner) (completed total : Nat) (targetId : Id)
    (findings : TargetFindings) :
    ∀ x ∈ (networkPart scanners completed total targetId findings).1, x.collects = true := by
  intro x hx
  unfold networkPart at hx
  split at hx
  · rcases List.mem_append.mp hx with hx | hx
    · unfold runNetworkScanner at hx
      split at hx
      · rw [List.mem_singleton.mp hx]
        rfl
      · simp only [List.mem_cons, List.not_mem_nil, or_false] at hx
        rcases hx with rfl | rfl <;> rfl
    · rw [List.mem_singleton.mp hx]
      rfl
  · cases hx

omit [PyText] in
theorem collectTargets_collects (scanners : List Scanner) (total completed : Nat)
    (targets : List (Id × TargetFindings)) :
    ∀ x ∈ (collectTargets scanners total completed targets).1, x.collects = true := by
  induction targets generalizing completed with
  | nil => exact fun _ hx => absurd hx List.not_mem_nil
  | cons target targets ih =>
      intro x hx
      rcases List.mem_append.mp hx with hx | hx
      · rcases List.mem_append.mp hx with hx | hx
        · exact networkPart_collects _ _ _ _ _ x hx
        · unfold agentPart at hx
          split at hx
          · cases hx
          · exact runAgentScanners_collects _ _ _ _ x hx
      · exact ih _ x hx

/-! ## 3. Inserting -/

abbrev commitStep (task : ScanTask) (snapshotId : Id) (x : Statement) (s : BodyState) :
    Option BodyState :=
  Statement.commit task snapshotId s x

theorem commitAll_insertAssets {task : ScanTask} {snapshotId : Id} {unique : List AssetCandidate}
    {s s' : BodyState}
    (h : commitAll (commitStep task snapshotId) (unique.map Statement.insertAsset) s = some s') :
    insertEach snapshotId unique s.db = (s'.db, none) := by
  induction unique generalizing s with
  | nil =>
      cases h
      rfl
  | cons candidate unique ih =>
      rw [List.map_cons, commitAll, Option.bind_eq_some_iff] at h
      obtain ⟨t, hcommit, hrest⟩ := h
      simp only [Statement.commit, Option.bind_eq_bind, Option.bind_eq_some_iff] at hcommit
      obtain ⟨_, -, db, hinsert, hcommit⟩ := hcommit
      cases hcommit
      rw [insertEach, hinsert]
      exact ih hrest

/-! ## 4. Scoring -/

/-- What scoring an asset that has no score commits. -/
theorem commit_scoreAsset {task : ScanTask} {snapshotId : Id} {s s' : BodyState} {weights : Weights}
    {assetId : Id} (hnone : scoresOf s.db assetId = [])
    (h : Statement.commit task snapshotId s (.scoreAsset weights assetId) = some s') :
    s'.db.snapshots = s.db.snapshots ∧ s'.db.assets = s.db.assets ∧
      ∀ id, scoresOf s'.db id =
        scoresOf s.db id ++ if id = assetId then [s.db.scores.nextId] else [] := by
  simp only [Statement.commit, Option.bind_eq_bind, Option.bind_eq_some_iff] at h
  obtain ⟨asset, -, db, hdb, h⟩ := h
  cases h
  cases hupsert : upsertAssetRisk s.db assetId asset weights with
  | error error =>
      rw [hupsert] at hdb
      cases hdb
  | ok db' =>
      rw [hupsert] at hdb
      cases hdb
      unfold upsertAssetRisk at hupsert
      rw [hnone] at hupsert
      cases hrisk : currentRisk s.db assetId asset weights with
      | error error =>
          rw [hrisk] at hupsert
          cases hupsert
      | ok result =>
          rw [hrisk] at hupsert
          cases hupsert
          refine ⟨rfl, rfl, ?_⟩
          intro id
          unfold scoresOf saveScore
          rw [Table.ids_insert]
          by_cases hid : id = assetId
          · simp [hid]
          · have hne : assetId ≠ id := fun h => hid h.symm
            simp [hid, hne]

/-- What the statements of the scoring part commit, if the assets they score have no score yet. -/
theorem commitAll_scores {task : ScanTask} {snapshotId : Id} {xs : List Statement}
    (hxs : ∀ x ∈ xs, x.scores = true) (hnodup : (scoredIds xs).Nodup) {s s' : BodyState}
    (hnone : ∀ id ∈ scoredIds xs, scoresOf s.db id = [])
    (h : commitAll (commitStep task snapshotId) xs s = some s') :
    s'.db.snapshots = s.db.snapshots ∧ s'.db.assets = s.db.assets ∧
      (∀ id ∈ scoredIds xs, (scoresOf s'.db id).length = 1) ∧
      ∀ id, id ∉ scoredIds xs → scoresOf s'.db id = scoresOf s.db id := by
  induction xs generalizing s with
  | nil =>
      cases h
      exact ⟨rfl, rfl, fun _ hid => absurd hid List.not_mem_nil, fun _ _ => rfl⟩
  | cons x xs ih =>
      rw [commitAll, Option.bind_eq_some_iff] at h
      obtain ⟨t, hcommit, hrest⟩ := h
      have hxs' : ∀ y ∈ xs, y.scores = true := fun y hy => hxs y (List.mem_cons_of_mem x hy)
      have hx := hxs x List.mem_cons_self
      cases x with
      | resolveWeights =>
          obtain ⟨_, -, rfl⟩ := Option.map_eq_some_iff.mp hcommit
          exact ih hxs' hnodup hnone hrest
      | countAssets =>
          cases hcommit
          exact ih hxs' hnodup hnone hrest
      | scoreAsset weights assetId =>
          have hids : scoredIds (.scoreAsset weights assetId :: xs) = assetId :: scoredIds xs := rfl
          rw [hids] at hnodup hnone ⊢
          obtain ⟨hfirst, hnodup'⟩ := List.nodup_cons.mp hnodup
          obtain ⟨hsnapshots, hassets, hscores⟩ :=
            commit_scoreAsset (hnone assetId List.mem_cons_self) hcommit
          -- a score of this asset leaves the later ones without, since no asset is scored twice
          have hnone' : ∀ id ∈ scoredIds xs, scoresOf t.db id = [] := by
            intro id hid
            have hne : id ≠ assetId := fun heq => hfirst (heq ▸ hid)
            rw [hscores, if_neg hne, hnone id (List.mem_cons_of_mem _ hid)]
            rfl
          obtain ⟨hsnapshots', hassets', hone, hsame⟩ := ih hxs' hnodup' hnone' hrest
          refine ⟨hsnapshots'.trans hsnapshots, hassets'.trans hassets, ?_, ?_⟩
          · intro id hid
            rcases List.mem_cons.mp hid with rfl | hid
            · rw [hsame id hfirst, hscores, if_pos rfl, hnone id List.mem_cons_self]
              rfl
            · exact hone id hid
          · intro id hid
            have hne : id ≠ assetId := fun heq => hid (heq ▸ List.mem_cons_self)
            rw [hsame id fun hmem => hid (List.mem_cons_of_mem _ hmem), hscores, if_neg hne,
              List.append_nil]
      | loadScanJob | loadTargets | findAgent | inferContext | log | progress | insertSnapshot
      | insertAsset => cases hx

/-! ## 5. The body -/

def collectedCandidates (task : ScanTask) (findings : List TargetFindings) : List AssetCandidate :=
  (collectTargets task.scanners (task.targetIds.length * task.scanners.length) 0
    (task.targetIds.zip findings)).2

variable {floatRepr : PyFloat → List Char} {task : ScanTask} {findings : List TargetFindings}
  {raises : Nat → Bool} {db : Database} {snapshotId : Id}

def collectStatements (task : ScanTask) (findings : List TargetFindings) : List Statement :=
  .loadScanJob :: .loadTargets :: (collectTargets task.scanners
    (task.targetIds.length * task.scanners.length) 0 (task.targetIds.zip findings)).1

omit [PyText] in
theorem collectStatements_collects :
    ∀ x ∈ collectStatements task findings, x.collects = true := by
  intro x hx
  rcases List.mem_cons.mp hx with rfl | hx
  · rfl
  · rcases List.mem_cons.mp hx with rfl | hx
    · rfl
    · exact collectTargets_collects _ _ _ _ x hx

theorem persistStatements_eq :
    persistStatements floatRepr task findings = collectStatements task findings ++
      .insertSnapshot (dedupeCandidates floatRepr (collectedCandidates task findings)) ::
        (dedupeCandidates floatRepr (collectedCandidates task findings)).map
          Statement.insertAsset :=
  rfl

omit [PyText] in
theorem insertAsset_congr {db db' : Database} (h : db'.assets = db.assets) (snapshotId : Id)
    (candidate : AssetCandidate) :
    (insertAsset snapshotId db' candidate).isSome = (insertAsset snapshotId db candidate).isSome := by
  unfold insertAsset
  dsimp only
  rw [h]
  split <;> rfl

omit [PyText] in
/-- Equal tables of assets let the same candidates in. -/
theorem insertEach_congr {snapshotId : Id} {unique : List AssetCandidate} {db db' rows' : Database}
    (h : SameResults db db') (h' : insertEach snapshotId unique db' = (rows', none)) :
    ∃ rows, insertEach snapshotId unique db = (rows, none) ∧ SameResults rows rows' := by
  induction unique generalizing db db' with
  | nil =>
      cases h'
      exact ⟨db, rfl, h⟩
  | cons candidate unique ih =>
      rw [insertEach] at h' ⊢
      have hsome := insertAsset_congr h.assets snapshotId candidate
      cases hinsert' : insertAsset snapshotId db' candidate with
      | none =>
          rw [hinsert'] at h'
          cases h'
      | some next' =>
          rw [hinsert'] at h' hsome
          obtain ⟨next, hinsert⟩ := Option.isSome_iff_exists.mp hsome.symm
          rw [hinsert]
          apply ih _ h'
          rw [insertAsset_eq_some hinsert, insertAsset_eq_some hinsert']
          exact ⟨h.snapshots, congrArg (Table.insert · _) h.assets, h.scores⟩

omit [PyText] in
theorem SameResults.insertSnapshot {db db' : Database} (h : SameResults db db') (scanJobId : Id)
    (unique : List AssetCandidate) :
    SameResults (insertSnapshot db scanJobId unique) (insertSnapshot db' scanJobId unique) :=
  ⟨congrArg (Table.insert · _) h.snapshots, h.assets, h.scores⟩

theorem run_insertAssets {i : Nat} {unique : List AssetCandidate} {s s' : BodyState}
    {stop : Option Statement}
    (h : runStatements (commitStep task snapshotId) Statement.caught raises i
      (unique.map Statement.insertAsset) s = (s', stop)) :
    (∀ x, stop = some x → ∃ candidate, x = .insertAsset candidate) ∧
      (stop = none → insertEach snapshotId unique s.db = (s'.db, none)) := by
  have hcaught : ∀ x ∈ unique.map Statement.insertAsset, x.caught = false := by
    intro x hx
    obtain ⟨candidate, -, rfl⟩ := List.mem_map.mp hx
    rfl
  obtain ⟨done, rest, hxs, hhead, hdone⟩ :=
    @runStatements_committed _ _ (commitStep task snapshotId) _ raises _ hcaught i s
  rw [h] at hhead hdone
  dsimp only at hhead hdone
  constructor
  · rintro x rfl
    have hx : x ∈ unique.map Statement.insertAsset := by
      rw [hxs]
      exact List.mem_append_right _ (List.mem_of_head? hhead)
    obtain ⟨candidate, -, rfl⟩ := List.mem_map.mp hx
    exact ⟨candidate, rfl⟩
  · rintro rfl
    rw [List.head?_eq_none_iff] at hhead
    rw [hhead, List.append_nil] at hxs
    rw [← hxs] at hdone
    exact commitAll_insertAssets hdone

/-- How the part of the body up to the last asset ends. -/
theorem run_persist (s : BodyState) {s' : BodyState} {stop : Option Statement}
    (h : runStatements (commitStep task snapshotId) Statement.caught raises 0
      (persistStatements floatRepr task findings) s = (s', stop)) :
    (∀ x, stop = some x → x.scores = false ∧
      (x.collects = true ∨ x.insertsSnapshot = true → SameResults s.db s'.db)) ∧
    (stop = none → ∃ persisted,
      insertEach snapshotId (dedupeCandidates floatRepr (collectedCandidates task findings))
        (insertSnapshot s.db task.scanJobId
          (dedupeCandidates floatRepr (collectedCandidates task findings))) = (persisted, none) ∧
      SameResults persisted s'.db) := by
  have hsame : SameResults s.db (runStatements (commitStep task snapshotId) Statement.caught raises 0
      (collectStatements task findings) s).1.db :=
    runStatements_related (R := fun s s' => SameResults s.db s'.db)
      (fun s => .refl s.db) (fun _ _ _ => .trans)
      (fun x hx _ _ hcommit => commit_sameResults (collectStatements_collects x hx) hcommit) 0 s
  rw [persistStatements_eq, runStatements_append] at h
  -- the targets are scanned to the end, or a statement raises before the snapshot
  split at h
  · rename_i s₁ hcollected
    rw [hcollected] at hsame
    dsimp only at hsame
    -- the insert of the snapshot commits or raises; no exception of it is caught
    rcases runStatements_cons _ _ _ s₁ with ⟨s₂, hcommit, heq⟩ | ⟨hcaught, -⟩ | ⟨-, heq⟩
    · rw [heq] at h
      cases hcommit
      obtain ⟨hraised, hreturned⟩ := run_insertAssets h
      constructor
      · intro x hx
        obtain ⟨candidate, rfl⟩ := hraised x hx
        exact ⟨rfl, fun hkind => by cases hkind with | inl h | inr h => cases h⟩
      · intro hnone
        exact insertEach_congr (hsame.insertSnapshot _ _) (hreturned hnone)
    · cases hcaught
    · rw [heq] at h
      cases h
      constructor
      · intro x hx
        cases hx
        exact ⟨rfl, fun _ => hsame⟩
      · intro hnone
        cases hnone
  · rename_i s₁ x hcollected
    cases h
    have hmem := (runStatements_mem (congrArg Prod.snd hcollected)).1
    have hcollects := collectStatements_collects x hmem
    rw [hcollected] at hsame
    constructor
    · intro y hy
      cases hy
      exact ⟨scores_of_collects hcollects, fun _ => hsame⟩
    · intro hnone
      cases hnone

omit [PyText] in
/-- The foreign keys leave no score for an asset that the scan inserts. -/
theorem ForeignKeys.unscored (hkeys : ForeignKeys db) {scanJobId : Id} {unique : List AssetCandidate}
    {db' persisted : Database}
    (hpersist : insertEach db.snapshots.nextId unique (insertSnapshot db scanJobId unique) =
      (persisted, none)) (h : SameResults persisted db') :
    (∀ id, scoresOf db' id = scoresOf db id) ∧
      ∀ id ∈ snapshotAssets db' db.snapshots.nextId, scoresOf db id = [] := by
  rw [insertEach_ended hpersist] at h
  constructor
  · intro id
    rw [scoresOf, h.scores]
    rfl
  · intro id hid
    obtain ⟨asset, hfound, hsnapshot, -⟩ := mem_snapshotAssets.mp hid
    rw [h.assets] at hfound
    rw [List.eq_nil_iff_forall_not_mem]
    intro scoreId hscore
    obtain ⟨score, hrow, hasset⟩ := mem_scoresOf.mp hscore
    have hlt : id < db.assets.nextId := hasset ▸ hkeys.asset scoreId score hrow
    rcases find?_insertAssets hfound with hold | ⟨hnew, -⟩
    · exact absurd (hkeys.snapshot id asset _ hold hsnapshot) (Nat.lt_irrefl _)
    · exact absurd hlt (Nat.not_lt.mpr hnew)

omit [PyText] in
theorem snapshotAssets_nodup (db : Database) (snapshotId : Id) :
    (snapshotAssets db snapshotId).Nodup :=
  List.nodup_range.filter _

omit [PyText] in
theorem scoredIds_map (weights : Weights) (ids : List Id) :
    scoredIds (ids.map (Statement.scoreAsset weights)) = ids := by
  induction ids with
  | nil => rfl
  | cons id ids ih => exact congrArg (id :: ·) ih

omit [PyText] in
theorem scoreStatements_scores (db : Database) (snapshotId : Id) :
    ∀ x ∈ scoreStatements db snapshotId, x.scores = true ∧ x.caught = false := by
  intro x hx
  unfold scoreStatements at hx
  split at hx
  · rw [List.mem_singleton.mp hx]
    exact ⟨rfl, rfl⟩
  · simp only [List.cons_append, List.mem_cons, List.mem_append, List.mem_map, List.not_mem_nil,
      or_false] at hx
    rcases hx with rfl | ⟨id, -, rfl⟩ | rfl <;> exact ⟨rfl, rfl⟩

omit [PyText] in
/-- The statements score the assets of the snapshot, or none of them. -/
theorem scoredIds_scoreStatements (db : Database) (snapshotId : Id) :
    ∃ later, snapshotAssets db snapshotId = scoredIds (scoreStatements db snapshotId) ++ later ∧
      (later = [] ∨ scoreStatements db snapshotId = [.resolveWeights]) := by
  unfold scoreStatements
  split
  · exact ⟨_, rfl, .inr rfl⟩
  · refine ⟨[], ?_, .inl rfl⟩
    have happend : ∀ weights : Weights, scoredIds (.resolveWeights ::
        (snapshotAssets db snapshotId).map (Statement.scoreAsset weights) ++ [.countAssets]) =
        snapshotAssets db snapshotId := by
      intro weights
      show scoredIds ((snapshotAssets db snapshotId).map (Statement.scoreAsset weights) ++
        [.countAssets]) = _
      rw [scoredIds, List.filterMap_append, ← scoredIds, scoredIds_map]
      exact List.append_nil _
    rw [List.append_nil, happend]

/-- What a scan that raised in the scoring part has left: the snapshot with all its assets, and the
score of each asset before the one at which it raised. -/
structure LeftByScoring (db db' : Database) (persisted : Database) (x : Statement) : Prop where
  snapshots : db'.snapshots = persisted.snapshots
  assets : db'.assets = persisted.assets
  scores : ∃ scored rest, snapshotAssets db' db.snapshots.nextId = scored ++ rest ∧
    (∀ weights id, x = .scoreAsset weights id → rest.head? = some id) ∧
    (∀ id ∈ scored, (scoresOf db' id).length = 1) ∧ (∀ id ∈ rest, scoresOf db' id = []) ∧
    ∀ id, id ∉ snapshotAssets db' db.snapshots.nextId → scoresOf db' id = scoresOf db id

omit [PyText] in
theorem LeftByScoring.trans {db db' db'' persisted : Database} {x : Statement}
    (h : LeftByScoring db db' persisted x) (h' : SameResults db' db'') :
    LeftByScoring db db'' persisted x where
  snapshots := h'.snapshots.trans h.snapshots
  assets := h'.assets.trans h.assets
  scores := by
    have hassets : snapshotAssets db'' = snapshotAssets db' := by
      funext id
      rw [snapshotAssets, h'.assets, ← snapshotAssets]
    have hscores : scoresOf db'' = scoresOf db' := by
      funext id
      rw [scoresOf, h'.scores, ← scoresOf]
    rw [hassets, hscores]
    exact h.scores

theorem run_score (hkeys : ForeignKeys db) {scanJobId : Id} {unique : List AssetCandidate}
    {persisted : Database} {s s' : BodyState} {x : Statement} {i : Nat}
    (hpersist : insertEach db.snapshots.nextId unique (insertSnapshot db scanJobId unique) =
      (persisted, none)) (hs : SameResults persisted s.db)
    (h : runStatements (commitStep task db.snapshots.nextId) Statement.caught raises i
      (scoreStatements s.db db.snapshots.nextId) s = (s', some x)) :
    LeftByScoring db s'.db persisted x := by
  obtain ⟨hkept, hnone⟩ := hkeys.unscored hpersist hs
  have hstatements := scoreStatements_scores s.db db.snapshots.nextId
  obtain ⟨done, rest, hxs, hhead, hdone⟩ :=
    @runStatements_committed _ _ (commitStep task db.snapshots.nextId) _ raises _
      (fun x hx => (hstatements x hx).2) i s
  rw [h] at hhead hdone
  dsimp only at hhead hdone
  obtain ⟨later, hids, hlater⟩ := scoredIds_scoreStatements s.db db.snapshots.nextId
  -- the statements that were committed scored the first assets, each once
  have hsplit : scoredIds (scoreStatements s.db db.snapshots.nextId) =
      scoredIds done ++ scoredIds rest := by
    rw [hxs, scoredIds, List.filterMap_append]
    rfl
  rw [hsplit, List.append_assoc] at hids
  have hnodup := snapshotAssets_nodup s.db db.snapshots.nextId
  rw [hids] at hnodup hnone
  obtain ⟨hsnapshots, hassets, hone, hsame⟩ := commitAll_scores
    (fun x hx => (hstatements x (hxs ▸ List.mem_append_left _ hx)).1) hnodup.of_append_left
    (fun id hid => by rw [hkept, hnone id (List.mem_append_left _ hid)]) hdone
  have hids' : snapshotAssets s'.db db.snapshots.nextId =
      scoredIds done ++ (scoredIds rest ++ later) := by
    rw [← hids, snapshotAssets, snapshotAssets, hassets]
  refine ⟨hsnapshots.trans hs.snapshots, hassets.trans hs.assets, scoredIds done,
    scoredIds rest ++ later, hids', ?_, hone, ?_, ?_⟩
  · rintro weights id rfl
    cases rest with
    | nil => cases hhead
    | cons y rest =>
        cases hhead
        rfl
  · intro id hid
    have hnot : id ∉ scoredIds done := fun hmem => List.disjoint_of_nodup_append hnodup hmem hid
    rw [hsame id hnot, hkept, hnone id (List.mem_append_right _ hid)]
  · intro id hid
    rw [hids'] at hid
    rw [hsame id fun hmem => hid (List.mem_append_left _ hmem), hkept]

/-- **What a failed scan leaves.**  Nothing, if it raised before the snapshot was there.  The snapshot,
its assets and the scores so far, if it raised after the last asset was there. -/
theorem failed_scan_leaves (hkeys : ForeignKeys db) {state db' : Database} {x : Statement}
    {taskId : Id} {error : String} {now : Time}
    (hrun : runScanJobPayload floatRepr task findings raises db = (state, some x))
    (hfail : Jobs.failScanJobTask state taskId error now = .ok db') :
    (x.collects = true ∨ x.insertsSnapshot = true → SameResults db db') ∧
      (x.scores = true → ∃ persisted,
        persistSnapshot floatRepr db task.scanJobId (collectedCandidates task findings) =
          (persisted, none) ∧ LeftByScoring db db' persisted x) := by
  have hsame := failScanJobTask_sameResults hfail
  unfold runScanJobPayload at hrun
  dsimp only at hrun
  split at hrun
  · rename_i s y hpersist
    cases hrun
    obtain ⟨hscores, hbefore⟩ := (run_persist _ hpersist).1 x rfl
    constructor
    · exact fun hx => (hbefore hx).trans hsame
    · intro hx
      rw [hscores] at hx
      cases hx
  · rename_i s hpersist
    cases hscore : runStatements (commitStep task db.snapshots.nextId) Statement.caught raises
      (persistStatements floatRepr task findings).length
      (scoreStatements s.db db.snapshots.nextId) s with
    | mk s' stop =>
        rw [hscore] at hrun
        cases hrun
        have hx := (scoreStatements_scores _ _ x
          (runStatements_mem (congrArg Prod.snd hscore)).1).1
        constructor
        · intro hbefore
          exact absurd hbefore (not_before_of_scores hx)
        · intro _
          obtain ⟨persisted, hinserted, hs⟩ := (run_persist _ hpersist).2 rfl
          exact ⟨persisted, hinserted, (run_score hkeys hinserted hs hscore).trans hsame⟩

end

/-! ## 6. A scan of one host -/

def queuedHostScan : Database :=
  Jobs.createScanJob { targets := Table.empty.insert agentHost } [0]
    [.agentAppCertFiles, .agentPrivateKeyFiles] 0

def hostScanTask : ScanTask where
  asyncJob := 0
  scanJobId := 0
  targetIds := [0]
  scanners := [.agentAppCertFiles, .agentPrivateKeyFiles]

def keyFileFinding : Finding :=
  [("type", .str "private_key_file"), ("path", .str "/etc/ssl/web.key"),
    ("algorithm", .str "RSA-2048"), ("key_size_bits", .int 2048)]

def hostFindings : TargetFindings where
  network := .ok []
  inference := none
  skipped := []
  supported := [.agentAppCertFiles, .agentPrivateKeyFiles]
  agent := .ok <|
    letI := asciiText
    letI := constantDigest
    mapAgentFindings (fun _ => []) 0 agentHost [certificateFinding "ab", keyFileFinding]
      ["agent.app_cert_files", "agent.private_key_files"]

theorem queuedHostScan_keys : ForeignKeys queuedHostScan where
  snapshot := by
    intro id asset snapshotId hasset
    cases hasset
  asset := by
    intro id score hscore
    cases hscore

/-- What the scan leaves if the statement with the index `point` raises. -/
def failedHostScan [PyText] (point : Nat) : Database × Option Statement :=
  runScanJobPayload (fun _ => []) hostScanTask [hostFindings] (· == point) queuedHostScan

/-- Whatever the body has committed, the failing transaction commits. -/
theorem failedHostScan_fails : letI := asciiText
    ∃ db', Jobs.failScanJobTask (failedHostScan 13).1 0 "server closed the connection" 1 = .ok db' := by
  let := asciiText
  cases hfail : Jobs.failScanJobTask (failedHostScan 13).1 0 "server closed the connection" 1 with
  | ok db' => exact ⟨db', rfl⟩
  | error error =>
      have hok : (Jobs.failScanJobTask (failedHostScan 13).1 0 "server closed the connection" 1
        ).toOption.isSome = true := by decide +kernel
      rw [hfail] at hok
      cases hok

/-- The second score raises. -/
theorem failedHostScan_leaves : letI := asciiText
    ∃ db' x, (failedHostScan 13).2 = some x ∧ x.scores = true ∧
      Jobs.failScanJobTask (failedHostScan 13).1 0 "server closed the connection" 1 = .ok db' ∧
      ∃ persisted, persistSnapshot (fun _ => []) queuedHostScan 0
        (collectedCandidates hostScanTask [hostFindings]) = (persisted, none) ∧
        LeftByScoring queuedHostScan db' persisted x := by
  let := asciiText
  have hstop : ((failedHostScan 13).2.map Statement.scores) = some true := by decide +kernel
  obtain ⟨x, hx, hscores⟩ := Option.map_eq_some_iff.mp hstop
  obtain ⟨db', hfail⟩ := failedHostScan_fails
  have hrun : runScanJobPayload (fun _ => []) hostScanTask [hostFindings] (· == 13)
      queuedHostScan = ((failedHostScan 13).1, some x) := Prod.ext rfl hx
  exact ⟨db', x, hx, hscores, hfail, (failed_scan_leaves queuedHostScan_keys hrun hfail).2 hscores⟩

/-- Its failure leaves rows behind. -/
theorem failedHostScan_not_empty : letI := asciiText
    ¬ ∀ point x db', (failedHostScan point).2 = some x →
      Jobs.failScanJobTask (failedHostScan point).1 0 "server closed the connection" 1 = .ok db' →
      SameResults queuedHostScan db' := by
  let := asciiText
  intro h
  have hstop : (failedHostScan 13).2.isSome = true := by decide +kernel
  obtain ⟨x, hx⟩ := Option.isSome_iff_exists.mp hstop
  obtain ⟨db', hfail⟩ := failedHostScan_fails
  have hrows : (failedHostScan 13).1.snapshots.nextId = 1 := by decide +kernel
  rw [← (failScanJobTask_sameResults hfail).snapshots, (h 13 x db' hx hfail).snapshots] at hrows
  cases hrows

end CryptoScanner.Scan
