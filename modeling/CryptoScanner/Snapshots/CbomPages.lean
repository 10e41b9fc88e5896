import CryptoScanner.Risk.FreshScores
import CryptoScanner.Snapshots.CbomPlan

/-!
# The export and the pages of the assets

The document takes the migration properties of a component from the plan of the snapshot, and the
page of an asset from the latest score of the asset.  The two agree where an asset has one score, and
no recomputation ends that.
-/

namespace CryptoScanner.Snapshots

open Library Python RiskEngine Risk

/-! ## 1. One write -/

/-- A row after a write is the score written or a row from before. -/
theorem saveScore_row {db : Database} {existing : List Id} {score row : RiskScore} {id : Nat}
    (h : (saveScore db existing score).scores.find? id = some row) :
    row = score ∨ db.scores.find? id = some row := by
  cases existing with
  | nil =>
      change (db.scores.insert score).find? id = some row at h
      rw [Table.find?_insert] at h
      split at h
      · exact .inl (Option.some.inj h).symm
      · exact .inr h
  | cons first rest =>
      change ((deleteScores db.scores rest).modify first fun _ => score).find? id = some row at h
      rw [Table.find?_modify, find?_deleteScores] at h
      split at h
      · obtain ⟨-, -, rfl⟩ := Option.map_eq_some_iff.mp h
        exact .inl rfl
      · split at h
        · cases h
        · exact .inr h

/-- Writing over the rows of an asset leaves it one row. -/
theorem oneScore_saveScore {db : Database} (hone : OneScore db) (score : RiskScore) :
    OneScore (saveScore db (scoresOf db score.asset) score) := by
  have hexisting : ∀ id ∈ scoresOf db score.asset, id < db.scores.nextId ∧
      ∀ old, db.scores.find? id = some old → old.asset = score.asset := by
    intro id hid
    obtain ⟨found, hfound, hasset⟩ := mem_scoresOf.mp hid
    refine ⟨Table.lt_nextId hfound, ?_⟩
    intro old hold
    rw [hfound, Option.some.injEq] at hold
    rw [← hold, hasset]
  intro id id' row row' h h' heq
  rcases saveScore_cases hexisting h with ⟨old, hold, hasset⟩ | ⟨hnone, hid, hrow⟩ <;>
    rcases saveScore_cases hexisting h' with ⟨old', hold', hasset'⟩ | ⟨hnone', hid', hrow'⟩
  · exact hone id id' old old' hold hold' (by rw [hasset, heq, hasset'])
  · -- the asset had no row, and the first of the two is an old row of it
    have hmem : id ∈ scoresOf db score.asset :=
      mem_scoresOf.mpr ⟨old, hold, by rw [hasset, heq, hrow']⟩
    rw [hnone'] at hmem
    cases hmem
  · have hmem : id' ∈ scoresOf db score.asset :=
      mem_scoresOf.mpr ⟨old', hold', by rw [hasset', ← heq, hrow]⟩
    rw [hnone] at hmem
    cases hmem
  · rw [hid, hid']

section

variable [PyText]

theorem upsertAssetRisk_scoredOnce {db db' : Database} {assetId : Id} {asset : Asset}
    {weights : Weights} (hdb : ScoredOnce db) (hasset : db.assets.find? assetId = some asset)
    (h : upsertAssetRisk db assetId asset weights = .ok db') : ScoredOnce db' := by
  have hassets : db'.assets = db.assets := (upsertAssetRisk_rescored hasset h).rows.assets
  unfold upsertAssetRisk at h
  rw [bind_eq_ok] at h
  obtain ⟨result, -, h⟩ := h
  cases h
  constructor
  · exact oneScore_saveScore hdb.one
      { snapshot := asset.snapshot, asset := assetId, result
        context := currentContext db assetId asset }
  · intro id row hrow
    rw [hassets]
    rcases saveScore_row hrow with rfl | hold
    · exact ⟨asset, hasset, rfl⟩
    · exact hdb.own id row hold

theorem scoreAssets_scoredOnce {weights : Weights} {assetIds : List Id} {db db' : Database}
    (hdb : ScoredOnce db) (h : scoreAssets weights assetIds db = .ok db') : ScoredOnce db' := by
  induction assetIds generalizing db with
  | nil =>
      cases h
      exact hdb
  | cons assetId rest ih =>
      rw [scoreAssets] at h
      cases hasset : db.assets.find? assetId with
      | none =>
          simp only [hasset] at h
          exact ih hdb h
      | some asset =>
          simp only [hasset, bind_eq_ok] at h
          obtain ⟨mid, hmid, h⟩ := h
          exact ih (upsertAssetRisk_scoredOnce hdb hasset hmid) h

theorem runRecomputePayload_scoredOnce {db db' : Database} {request : RecomputeRequest}
    (hdb : ScoredOnce db) (h : runRecomputePayload db request = .ok db') : ScoredOnce db' := by
  unfold runRecomputePayload at h
  rw [bind_eq_ok] at h
  obtain ⟨weights, -, h⟩ := h
  generalize hready : (if request.persistWeightsAsDefault = true then
    persistDefaultWeights db weights else db) = ready at h
  have hkept : ScoredOnce ready := by
    rw [← hready]
    split
    · unfold persistDefaultWeights
      split <;> exact ⟨hdb.one, hdb.own⟩
    · exact hdb
  cases hrequest : request.assetId with
  | some assetId =>
      simp only [hrequest] at h
      unfold recomputeAssetRisk at h
      cases hasset : ready.assets.find? assetId with
      | none =>
          simp only [hasset] at h
          cases h
      | some asset =>
          simp only [hasset, bind_eq_ok] at h
          obtain ⟨resolved, -, h⟩ := h
          exact upsertAssetRisk_scoredOnce hkept hasset (liftWeights_eq_ok h)
  | none =>
      cases htarget : request.targetId with
      | some targetId =>
          simp only [hrequest, htarget] at h
          unfold recomputeTargetRisks at h
          rw [bind_eq_ok] at h
          obtain ⟨resolved, -, h⟩ := h
          exact scoreAssets_scoredOnce hkept (liftWeights_eq_ok h)
      | none =>
          cases hsnapshot : request.snapshotId with
          | some snapshotId =>
              simp only [hrequest, htarget, hsnapshot] at h
              unfold recomputeSnapshotRisks at h
              rw [bind_eq_ok] at h
              obtain ⟨resolved, -, h⟩ := h
              exact scoreAssets_scoredOnce hkept (liftWeights_eq_ok h)
          | none =>
              simp only [hrequest, htarget, hsnapshot] at h
              cases h

/-! ## 2. Any number of recomputations -/

theorem recomputes_scoredOnce {db db' : Database} {requests : List RecomputeRequest}
    (hdb : ScoredOnce db) (h : requests.foldlM runRecomputePayload db = .ok db') :
    ScoredOnce db' := by
  induction requests generalizing db with
  | nil =>
      cases h
      exact hdb
  | cons request requests ih =>
      rw [List.foldlM_cons, bind_eq_ok] at h
      obtain ⟨mid, hmid, h⟩ := h
      exact ih (runRecomputePayload_scoredOnce hdb hmid) h

/-- After any recomputations the export of a snapshot shows for every asset what its page shows. -/
theorem export_matches_pages (floatRepr : PyFloat → List Char) {db : Database}
    {requests : List RecomputeRequest} {src : CbomSource} (hdb : ScoredOnce db)
    (h : requests.foldlM runRecomputePayload db = .ok src.db) (hanswers : src.plan.Perm src.scores) :
    elements (entry "components" (buildCbomDocument floatRepr src)) =
      src.assets.map fun row => buildEnrichedAssetComponent floatRepr src.db row.1 row.2 :=
  components_eq_pages floatRepr ⟨recomputes_scoredOnce hdb h, hanswers⟩

end

def wholeSnapshot : RecomputeRequest :=
  { assetId := none, targetId := none, snapshotId := some 0, weights := none
    persistWeightsAsDefault := false }

def rescoredCertificate : CbomSource :=
  { scoredCertificate with
    db := (([wholeSnapshot].foldlM (@runRecomputePayload asciiText)
      scoredCertificate.db).toOption).getD {}
    plan := [0, 1] }

theorem rescoredCertificate_matches : letI := asciiText
    elements (entry "components" (buildCbomDocument (fun _ => []) rescoredCertificate)) =
      rescoredCertificate.assets.map fun row =>
        buildEnrichedAssetComponent (fun _ => []) rescoredCertificate.db row.1 row.2 := by
  let := asciiText
  have hrun : [wholeSnapshot].foldlM runRecomputePayload scoredCertificate.db =
      .ok rescoredCertificate.db := by
    have hok : (([wholeSnapshot].foldlM runRecomputePayload
        scoredCertificate.db).toOption).isSome = true := by
      decide +kernel
    unfold rescoredCertificate
    cases hresult : [wholeSnapshot].foldlM runRecomputePayload scoredCertificate.db with
    | ok db => rfl
    | error e =>
        rw [hresult] at hok
        cases hok
  have hscores : rescoredCertificate.scores = [0, 1] := by decide +kernel
  exact export_matches_pages (fun _ => []) scoredCertificate_scored.toScoredOnce hrun
    (hscores ▸ List.Perm.refl [0, 1])

end CryptoScanner.Snapshots
