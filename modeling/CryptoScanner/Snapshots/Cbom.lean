import CryptoScanner.Llm.ResponseRoundTrip
import CryptoScanner.Risk.Services
import CryptoScanner.Snapshots.Diff
import CryptoScanner.Snapshots.QuantumVulnerable
import CryptoScanner.Snapshots.Redaction

/-!
# The CycloneDX document of a snapshot

`apps/snapshots/cbom.py`: the components, their dependencies and the migration plan that is attached
as an annotation; and the component that the page of one asset shows.
-/

namespace CryptoScanner.Snapshots

open Library Python RiskEngine MigrationEngine Risk
open Llm (textsJson)

/-! ## 1. The rows -/

structure AssetDependency where
  snapshot : Id
  sourceAsset : Id
  targetAsset : Id
  relationType : List Char := "dependsOn".toList
  semantic : List Char := []
  deriving DecidableEq, Repr

/-- What `build_cbom_document` reads: the snapshot's own columns, the tables, and the ids that the
query of the plan answers. -/
structure CbomSource where
  snapshotId : Id
  scanJob : Option Id
  serialNumber : List Char
  /-- `serialize_dt(snapshot.created_at)` -/
  createdAt : List Char
  db : Database
  dependencies : Table AssetDependency
  plan : List Id

def CbomSource.assets (src : CbomSource) : List (Id × Asset) :=
  (src.db.assets.ids fun asset => asset.snapshot == some src.snapshotId).filterMap fun id =>
    (src.db.assets.find? id).map fun asset => (id, asset)

/-- `snapshot.asset_dependencies`, by the `bom_ref` of both ends. -/
def CbomSource.edges (src : CbomSource) : List (List Char × List Char) :=
  (src.dependencies.ids fun row => row.snapshot == src.snapshotId).filterMap fun id => do
    let row ← src.dependencies.find? id
    let source ← src.db.assets.find? row.sourceAsset
    let target ← src.db.assets.find? row.targetAsset
    return (source.bomRef, target.bomRef)

/-- `RiskScore.objects.filter(snapshot=snapshot)` -/
def CbomSource.scores (src : CbomSource) : List Id :=
  src.db.scores.ids fun score => score.snapshot == some src.snapshotId

/-! ## 2. Texts -/

def purposeText : Purpose → List Char
  | .keyAgreement => "key_agreement".toList
  | .keyExchange => "key_exchange".toList
  | .digitalSignature => "digital_signature".toList
  | .longTermSignature => "long_term_signature".toList
  | .hashIntegrity => "hash_integrity".toList
  | .symmetricEncryption => "symmetric_encryption".toList
  | .unknown => "unknown".toList

def publicMigrationStrategy : Strategy → List Char
  | .noChange => "monitor".toList
  | .hybrid | .replace => "pqc_transition".toList

def publicMigrationPhase : MigrationEngine.Phase → List Char
  | .monitor => "monitor".toList
  | .hybridFirst | .replaceNow => "transition_review".toList

def agilityLevelText : AgilityLevel → List Char
  | .high => "high".toList
  | .medium => "medium".toList
  | .low => "low".toList

/-- `{"name": name, "value": value}` -/
def propertyJson (entry : String × List Char) : Json :=
  .dict [("name", .str entry.1), ("value", textJson entry.2)]

def propertiesJson (entries : List (String × List Char)) : Json := .list (entries.map propertyJson)

section

variable [PyText] (floatRepr : PyFloat → List Char)

/-! ## 3. Components -/

def safeKeys : List (String × String) :=
  [("scanner", "evidence.scanner"), ("type", "evidence.type"), ("path", "evidence.path"),
    ("fingerprint_sha256", "evidence.fingerprint_sha256"), ("key_size_bits", "crypto.key_size_bits"),
    ("in_use", "evidence.in_use"), ("dormant", "evidence.dormant"),
    ("referenced_by", "evidence.referenced_by"), ("source_scanners", "evidence.source_scanners"),
    ("source_paths", "evidence.source_paths"), ("source_bom_refs", "evidence.source_bom_refs"),
    ("merged", "evidence.merged"), ("minimum_tls_version", "crypto.minimum_tls_version"),
    ("format", "crypto.format")]

def metadataValue : Json → List Char
  | .bool b => if b then "true".toList else "false".toList
  | .list xs => dumpsSorted floatRepr (.list xs)
  | .dict kvs => dumpsSorted floatRepr (.dict kvs)
  | value => value.pyStr floatRepr

/-- `_asset_metadata_properties`, for a metadata that is a dict. -/
def assetMetadataProperties (metadata : Json) : List (String × List Char) :=
  match metadata with
  | .dict kvs =>
      safeKeys.filterMap fun key =>
        match kvs.lookup key.1 with
        | none | some .null => none
        | some value => some (key.2, metadataValue floatRepr value)
  | _ => []

/-- `_target_context_properties`: the keys in the order of the code. -/
def exportedFields : List ContextField :=
  [.serviceRole, .sensitivity, .criticality, .exposure, .lifespanYears]

def inferenceKeys : List String :=
  ["source", "method", "url", "title", "description", "signals", "confidence"]

def blankValue (value : Json) : Bool := value = .null || value = .str "" || value = .list []

def inferenceValue : Json → List Char
  | .list xs => dumpsSorted floatRepr (.list xs)
  | value => value.pyStr floatRepr

def inferenceProperties : Option Json → List (String × List Char)
  | some (.dict kvs) =>
      inferenceKeys.filterMap fun key =>
        match kvs.lookup key with
        | none => none
        | some value =>
            if blankValue value then none
            else some ("context.homepage." ++ key, inferenceValue floatRepr value)
  | _ => []

def targetContextProperties (target : Option Target) : List (String × List Char) :=
  match target with
  | none => []
  | some row =>
      (exportedFields.filterMap fun field =>
        (row.context.field field).map fun value =>
          ("context." ++ fieldName field, (fieldJson field (some value)).pyStr floatRepr)) ++
        inferenceProperties floatRepr row.context.homepageInference

def riskProperties : Option RiskScore → List (String × List Char)
  | none => []
  | some score =>
      [("risk.tier", tierText score.result.tier),
        ("risk.score", (toString score.result.score).toList)]

def migrationPlanComponentProperties (item : MigrationItem) : List (String × List Char) :=
  let recommendation := item.recommendation
  [("migration.asset_purpose", purposeText item.assetPurpose),
    ("migration.strategy", publicMigrationStrategy recommendation.strategy),
    ("migration.target_algorithm", recommendation.targetAlgorithm),
    ("migration.target_algorithm_set",
      dumpsSorted floatRepr (textsJson recommendation.targetAlgorithmSet)),
    ("migration.final_algorithm_set",
      dumpsSorted floatRepr (textsJson recommendation.finalAlgorithmSet)),
    ("migration.phase", publicMigrationPhase recommendation.phase),
    ("migration.agility_level", agilityLevelText item.agility.level)]

def componentType (asset : Asset) : List Char :=
  if asset.assetClass = "crypto".toList then "crypto-asset".toList else asset.assetClass

def latestScore (db : Database) (assetId : Id) : Option RiskScore :=
  (db.scores.last? fun score => score.asset == assetId).bind db.scores.find?

def componentProperties (db : Database) (assetId : Id) (asset : Asset)
    (item : Option MigrationItem) : List (String × List Char) :=
  (asset.target.toList.map fun id => ("internal:target_id", (toString id).toList)) ++
    (if asset.algorithmFamily = [] then [] else
      [("internal:algorithm_family", asset.algorithmFamily)]) ++
    [("internal:quantum_vulnerable", quantumVulnerableProperty asset)] ++
    assetMetadataProperties floatRepr (orEmpty asset.metadata) ++
    targetContextProperties floatRepr (targetOf db asset) ++
    riskProperties (latestScore db assetId) ++
    item.toList.flatMap (migrationPlanComponentProperties floatRepr)

def buildCbomComponent (db : Database) (assetId : Id) (asset : Asset)
    (item : Option MigrationItem) : Json :=
  .dict [("type", textJson (componentType asset)), ("bom-ref", textJson asset.bomRef),
    ("name", textJson asset.name),
    ("cryptoProperties", .dict [("assetType", textJson asset.assetType),
      ("algorithm", textJson asset.algorithm),
      ("algorithmFamily", textJson asset.algorithmFamily)]),
    ("properties", propertiesJson (componentProperties floatRepr db assetId asset item))]

def buildEnrichedAssetComponent (db : Database) (assetId : Id) (asset : Asset) : Json :=
  buildCbomComponent floatRepr db assetId asset
    ((latestScore db assetId).map fun score =>
      recommendForRiskScore score asset (targetOf db asset))

/-! ## 4. The migration plan -/

def planItem (db : Database) (scoreId : Id) : Option MigrationItem := do
  let score ← db.scores.find? scoreId
  let asset ← db.assets.find? score.asset
  return recommendForRiskScore score asset (targetOf db asset)

def snapshotMigrationPlanItems (src : CbomSource) : List MigrationItem :=
  src.plan.filterMap (planItem src.db)

def migrationByAssetId (items : List MigrationItem) : List (Nat × MigrationItem) :=
  Dict.update [] (items.map fun item => (item.assetId, item))

def bomRefOf (assets : List (Id × Asset)) (assetId : Nat) : Option (List Char) :=
  (assets.lookup assetId).map Asset.bomRef

def attachmentMembers (item : MigrationItem) (bomRef : Option (List Char)) :
    List (String × Json) :=
  let recommendation := item.recommendation
  [("asset_id", .int item.assetId), ("bom_ref", (bomRef.map textJson).getD .null),
    ("asset_name", textJson item.assetName), ("asset_type", textJson item.assetType),
    ("asset_purpose", textJson (purposeText item.assetPurpose)),
    ("risk_score", .int item.riskScore), ("tier", textJson (tierText item.tier)),
    ("current_algorithm", textJson item.current.algorithm),
    ("quantum_vulnerable", .bool item.current.quantumVulnerable),
    ("strategy", textJson (publicMigrationStrategy recommendation.strategy)),
    ("target_algorithm", textJson recommendation.targetAlgorithm),
    ("target_algorithm_set", textsJson recommendation.targetAlgorithmSet),
    ("final_algorithm_set", textsJson recommendation.finalAlgorithmSet),
    ("phase", textJson (publicMigrationPhase recommendation.phase)),
    ("blockers", textsJson (recommendation.blockers.map Blocker.text)),
    ("validation", textsJson (recommendation.validation.map Check.text)),
    ("agility_level", textJson (agilityLevelText item.agility.level)),
    ("agility_score", .int item.agility.score)]

def migrationPlanAttachmentItem (item : MigrationItem) (bomRef : Option (List Char)) : Json :=
  .dict (attachmentMembers item bomRef)

def attachmentItems (assets : List (Id × Asset)) (items : List MigrationItem) : List Json :=
  items.map fun item => migrationPlanAttachmentItem item (bomRefOf assets item.assetId)

def toolComponent : Json :=
  .dict [("type", .str "application"), ("name", .str "PQC Risk Assessment System"),
    ("version", .str "0.1.0")]

def attachmentProperties (assets : List (Id × Asset)) (items : List MigrationItem) :
    List (String × List Char) :=
  [("attachment.type", "pqc_migration_plan".toList),
    ("attachment.format", "application/json".toList),
    ("migration_plan.item_count", (toString items.length).toList),
    ("migration_plan.items", dumpsSorted floatRepr (.list (attachmentItems assets items)))]

def migrationPlanAnnotations (src : CbomSource) (assets : List (Id × Asset))
    (items : List MigrationItem) : List Json :=
  if items = [] then []
  else
    let subjects := (items.filterMap fun item => bomRefOf assets item.assetId).filter (· ≠ [])
    [.dict [("bom-ref", textJson ("migration-plan:snapshot:".toList ++
        (toString src.snapshotId).toList)),
      ("subjects", textsJson subjects),
      ("annotator", .dict [("component", toolComponent)]),
      ("timestamp", textJson src.createdAt),
      ("text", .str "PQC migration plan generated from snapshot risk scores."),
      ("properties", propertiesJson (attachmentProperties floatRepr assets items))]]

/-! ## 5. The document -/

def hostPort (target : Target) : List Char :=
  target.host.toList ++ ':' :: (toString target.port).toList

def metadataProperties (src : CbomSource) (assets : List (Id × Asset))
    (items : List MigrationItem) : List (String × List Char) :=
  let targets := sortedRefs ((assets.filterMap fun row => targetOf src.db row.2).map hostPort).dedup
  [("internal:snapshot_id", (toString src.snapshotId).toList)] ++
    (src.scanJob.toList.map fun id => ("internal:scan_job_id", (toString id).toList)) ++
    (if targets = [] then [] else
      [("internal:targets", dumpsSorted floatRepr (textsJson targets))]) ++
    if items = [] then [] else
      [("migration_plan.attached", "true".toList),
        ("migration_plan.item_count", (toString items.length).toList)]

omit [PyText] in
def dependencyRows (assets : List (Id × Asset)) (edges : List (List Char × List Char)) :
    List (List Char × List (List Char)) :=
  assets.filterMap fun row =>
    (Dict.get? (Dict.gather edges) row.2.bomRef).map fun targets =>
      (row.2.bomRef, sortedRefs targets.dedup)

omit [PyText] in
def dependencyJson (row : List Char × List (List Char)) : Json :=
  .dict [("ref", textJson row.1), ("dependsOn", textsJson row.2)]

def components (src : CbomSource) (items : List MigrationItem) : List Json :=
  let byAsset := migrationByAssetId items
  src.assets.map fun row => buildCbomComponent floatRepr src.db row.1 row.2 (byAsset.lookup row.1)

def buildCbomDocument (src : CbomSource) : Json :=
  let assets := src.assets
  let items := snapshotMigrationPlanItems src
  let annotations := migrationPlanAnnotations floatRepr src assets items
  .dict ([("bomFormat", .str "CycloneDX"), ("specVersion", .str "1.6"),
    ("serialNumber", textJson src.serialNumber), ("version", .int 1),
    ("metadata", .dict [("timestamp", textJson src.createdAt), ("component", toolComponent),
      ("properties", propertiesJson (metadataProperties floatRepr src assets items))]),
    ("components", .list (components floatRepr src items)),
    ("dependencies", .list ((dependencyRows assets src.edges).map dependencyJson))] ++
    if annotations = [] then [] else [("annotations", .list annotations)])

end

end CryptoScanner.Snapshots
