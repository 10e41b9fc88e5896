import CryptoScanner.Assets.Context
import CryptoScanner.Library.Transition

/-!
# Scoring assets

`apps/risk/services.py`.  A score is read off the rows of the asset, of its target and of its
override as they are.
-/

namespace CryptoScanner.Risk

open Library Python RiskEngine

/-! ## 1. Weights -/

def defaultWeightsDict (db : Database) : Weights :=
  ((db.weights.first? fun _ => true).bind db.weights.find?).getD defaultWeights

def persistDefaultWeights (db : Database) (weights : Weights) : Database :=
  match db.weights.first? fun _ => true with
  | some id => { db with weights := db.weights.modify id fun _ => weights }
  | none => { db with weights := db.weights.insert weights }

def resolvedWeights (db : Database) (weights : Option Weights) : Except WeightError Weights :=
  normalizeWeights (weights.getD (defaultWeightsDict db))

/-! ## 2. The rows a score depends on -/

def targetOf (db : Database) (asset : Asset) : Option Target := asset.target.bind db.targets.find?

def overrideOf (db : Database) (assetId : Id) : Option AssetContextOverride :=
  (db.overrides.first? fun row => row.asset == assetId).bind db.overrides.find?

def isCrypto (asset : Asset) : Bool := asset.assetClass == "crypto".toList

def snapshotAssets (db : Database) (snapshotId : Id) : List Id :=
  db.assets.ids fun asset => asset.snapshot == some snapshotId && isCrypto asset

def targetAssets (db : Database) (targetId : Id) : List Id :=
  db.assets.ids fun asset => asset.target == some targetId && isCrypto asset

def scoresOf (db : Database) (assetId : Id) : List Id :=
  db.scores.ids fun score => score.asset == assetId

def coveredAssets (db : Database) (request : RecomputeRequest) : List Id :=
  match request.assetId, request.targetId, request.snapshotId with
  | some assetId, _, _ => if (db.assets.find? assetId).isSome then [assetId] else []
  | none, some targetId, _ => targetAssets db targetId
  | none, none, some snapshotId => snapshotAssets db snapshotId
  | none, none, none => []

section

variable [PyText]

/-- What `compute_risk` is given in `_upsert_asset_risk`, with its result. -/
def riskWith (asset : Asset) (target : Option Target) (override : Option AssetContextOverride)
    (weights : Weights) : Except WeightError RiskResult :=
  computeRisk asset.algorithm asset.algorithmFamily asset.assetType
    (effectiveContext target override) (contextSources target override)
    (target.bind (·.ip)) (target.map (·.protocolHint.text)) weights

def currentRisk (db : Database) (assetId : Id) (asset : Asset) (weights : Weights) :
    Except WeightError RiskResult :=
  riskWith asset (targetOf db asset) (overrideOf db assetId) weights

def currentContext (db : Database) (assetId : Id) (asset : Asset) : Context :=
  effectiveContext (targetOf db asset) (overrideOf db assetId)

/-! ## 3. Writing a score -/

def deleteScores (scores : Table RiskScore) (ids : List Id) : Table RiskScore :=
  ids.foldl Table.delete scores

/-- The last part of `_upsert_asset_risk`: the first row found is updated and the others are deleted,
and a row is created if none was found. -/
def saveScore (db : Database) (existing : List Id) (score : RiskScore) : Database :=
  match existing with
  | [] => { db with scores := db.scores.insert score }
  | first :: rest =>
      { db with scores := (deleteScores db.scores rest).modify first fun _ => score }

def upsertAssetRisk (db : Database) (assetId : Id) (asset : Asset) (weights : Weights) :
    Except WeightError Database := do
  let result ← currentRisk db assetId asset weights
  return saveScore db (scoresOf db assetId)
    { snapshot := asset.snapshot
      asset := assetId
      result
      context := currentContext db assetId asset }

/-- The loop over the assets of a query; an asset that is gone is passed over. -/
def scoreAssets (weights : Weights) : List Id → Database → Except WeightError Database
  | [], db => .ok db
  | assetId :: rest, db =>
      match db.assets.find? assetId with
      | none => scoreAssets weights rest db
      | some asset => do
          let db ← upsertAssetRisk db assetId asset weights
          scoreAssets weights rest db

inductive RecomputeError
  | weights (error : WeightError)
  | assetNotFound
  | nothingToCover
  deriving DecidableEq, Repr

def liftWeights {α : Type} (x : Except WeightError α) : Except RecomputeError α :=
  x.mapError .weights

def recomputeSnapshotRisks (db : Database) (snapshotId : Id) (weights : Option Weights) :
    Except RecomputeError Database := do
  let resolved ← liftWeights (resolvedWeights db weights)
  liftWeights (scoreAssets resolved (snapshotAssets db snapshotId) db)

/-- `recompute_asset_risk`, which does not look at the class of the asset. -/
def recomputeAssetRisk (db : Database) (assetId : Id) (weights : Option Weights) :
    Except RecomputeError Database :=
  match db.assets.find? assetId with
  | none => throw .assetNotFound
  | some asset => do
      let resolved ← liftWeights (resolvedWeights db weights)
      liftWeights (upsertAssetRisk db assetId asset resolved)

def recomputeTargetRisks (db : Database) (targetId : Id) (weights : Option Weights) :
    Except RecomputeError Database := do
  let resolved ← liftWeights (resolvedWeights db weights)
  liftWeights (scoreAssets resolved (targetAssets db targetId) db)

def runRecomputePayload (db : Database) (request : RecomputeRequest) :
    Except RecomputeError Database := do
  let weights ← liftWeights (resolvedWeights db request.weights)
  let db := if request.persistWeightsAsDefault then persistDefaultWeights db weights else db
  match request.assetId, request.targetId, request.snapshotId with
  | some assetId, _, _ => recomputeAssetRisk db assetId (some weights)
  | none, some targetId, _ => recomputeTargetRisks db targetId (some weights)
  | none, none, some snapshotId => recomputeSnapshotRisks db snapshotId (some weights)
  | none, none, none => throw .nothingToCover

end

/-! ## 4. Rows of the score table -/

theorem mem_scoresOf {db : Database} {assetId id : Id} :
    id ∈ scoresOf db assetId ↔ ∃ score, db.scores.find? id = some score ∧ score.asset = assetId := by
  rw [scoresOf, Table.mem_ids]
  simp

theorem mem_snapshotAssets {db : Database} {snapshotId assetId : Id} :
    assetId ∈ snapshotAssets db snapshotId ↔
      ∃ asset, db.assets.find? assetId = some asset ∧ asset.snapshot = some snapshotId ∧
        isCrypto asset = true := by
  rw [snapshotAssets, Table.mem_ids]
  simp

theorem mem_targetAssets {db : Database} {targetId assetId : Id} :
    assetId ∈ targetAssets db targetId ↔
      ∃ asset, db.assets.find? assetId = some asset ∧ asset.target = some targetId ∧
        isCrypto asset = true := by
  rw [targetAssets, Table.mem_ids]
  simp

theorem find?_deleteScores (scores : Table RiskScore) (ids : List Id) (id : Id) :
    (deleteScores scores ids).find? id = if id ∈ ids then none else scores.find? id :=
  Table.find?_foldl_delete scores ids id

end CryptoScanner.Risk
