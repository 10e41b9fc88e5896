import Mathlib.Data.Char
import Mathlib.Data.List.Lex
import CryptoScanner.Library.Dict
import CryptoScanner.Scan.Candidates

/-!
# Deduplication and the rows of a snapshot

`_dedupe_candidates` and the rows that `_persist_snapshot` writes.
-/

namespace CryptoScanner.Scan

open Library Python

/-! ## 1. Deduplication -/

def asList : Json → List Json
  | .null => []
  | .list items => items
  | value => [value]

def mergedValues (current value : Json) : List Json :=
  (asList current ++ asList value).foldl
    (fun result item =>
      if item = .null ∨ item = .str "" ∨ result.any (fun other => other.sameItem item) then result
      else result ++ [item]) []

def metadataGet (metadata : List (String × Json)) (key : String) : Json :=
  (metadata.lookup key).getD .null

/-- `metadata.get("scanner") or scanner_kind` -/
def sourceScanner (candidate : AssetCandidate) : Json :=
  let scanner := metadataGet candidate.metadata "scanner"
  if scanner.truthy then scanner else .str (String.ofList candidate.scannerKind)

def mergeCandidates (existing incoming : AssetCandidate) : AssetCandidate :=
  let merged := Dict.update incoming.metadata existing.metadata
  -- the lists of both, and of each the value of its own, in this order
  let collect := fun (key : String) (own : AssetCandidate → Json) =>
    mergedValues (.list (mergedValues (.list (mergedValues (metadataGet existing.metadata key)
      (own existing))) (metadataGet incoming.metadata key))) (own incoming)
  let sourceScanners := collect "source_scanners" sourceScanner
  let sourcePaths := collect "source_paths" fun candidate => metadataGet candidate.metadata "path"
  let sourceBomRefs := collect "source_bom_refs" fun candidate =>
    .str (String.ofList candidate.bomRef)
  let merged := Dict.set "source_scanners" (.list sourceScanners) merged
  let merged := Dict.set "source_bom_refs" (.list sourceBomRefs) merged
  let merged :=
    if sourcePaths = [] then merged else Dict.set "source_paths" (.list sourcePaths) merged
  let merged :=
    -- the last two entries are written only where there are several scanners
    if 1 < sourceScanners.length then
      Dict.set "merged" (.bool true) (Dict.set "scanner" (.str "multiple") merged)
    else merged
  { existing with metadata := merged }

section

variable [PyText] (floatRepr : PyFloat → List Char)

/-- The value of `fingerprint_sha256`. -/
def fingerprint (candidate : AssetCandidate) : Json :=
  metadataGet candidate.metadata "fingerprint_sha256"

def dedupeKey (candidate : AssetCandidate) : List Char :=
  if (fingerprint candidate).truthy then
    candidate.assetType ++ ":fingerprint:".toList ++ lower ((fingerprint candidate).pyStr floatRepr)
  else "bom_ref:".toList ++ candidate.bomRef

def dedupeCandidates (candidates : List AssetCandidate) : List AssetCandidate :=
  (Dict.collect (dedupeKey floatRepr) mergeCandidates candidates).map Prod.snd

/-! ## 2. The rows -/

def sortedCounts (texts : List (List Char)) : List (List Char × Nat) :=
  (texts.foldl (fun counts text => Dict.set text ((counts.lookup text).getD 0 + 1) counts)
    []).mergeSort fun a b => decide (a.1 ≤ b.1)

def snapshotSummary (candidates : List AssetCandidate) : SnapshotSummary where
  assetCount := candidates.length
  targetCount := (candidates.map AssetCandidate.targetId).dedup.length
  byType := sortedCounts (candidates.map AssetCandidate.assetType)
  byAlgorithmFamily := sortedCounts (candidates.map fun candidate =>
    if candidate.algorithmFamily = [] then "unknown".toList else candidate.algorithmFamily)
  byScanner := sortedCounts (candidates.map AssetCandidate.scannerKind)

/-- The row that `Asset.objects.create` inserts. -/
def assetRow (snapshotId : Id) (candidate : AssetCandidate) : Asset where
  snapshot := some snapshotId
  target := some candidate.targetId
  name := candidate.name.take 255
  assetClass := "crypto".toList
  assetType := candidate.assetType.take 32
  bomRef := candidate.bomRef.take 255
  algorithm := candidate.algorithm.take 128
  algorithmFamily := candidate.algorithmFamily.take 64
  metadata := .dict candidate.metadata

/-- `uniq_asset_snapshot_bom_ref` lets the row in. -/
def refFree (assets : Table Asset) (row : Asset) : Bool :=
  (assets.ids fun asset => asset.snapshot == row.snapshot && asset.bomRef == row.bomRef).isEmpty

/-- `none` where the insert raises. -/
def insertAsset (snapshotId : Id) (db : Database) (candidate : AssetCandidate) : Option Database :=
  let row := assetRow snapshotId candidate
  if refFree db.assets row then some { db with assets := db.assets.insert row } else none

/-- The rows that the loop leaves, and the candidate at which an insert raised. -/
def insertEach (snapshotId : Id) : List AssetCandidate → Database → Database × Option AssetCandidate
  | [], db => (db, none)
  | candidate :: rest, db =>
      match insertAsset snapshotId db candidate with
      | some db => insertEach snapshotId rest db
      | none => (db, some candidate)

def insertSnapshot (db : Database) (scanJobId : Id) (unique : List AssetCandidate) : Database :=
  { db with
    snapshots := db.snapshots.insert { scanJob := scanJobId, summary := snapshotSummary unique } }

/-- `_persist_snapshot`; the id of the snapshot is `db.snapshots.nextId`. -/
def persistSnapshot (db : Database) (scanJobId : Id) (candidates : List AssetCandidate) :
    Database × Option AssetCandidate :=
  let unique := dedupeCandidates floatRepr candidates
  insertEach db.snapshots.nextId unique (insertSnapshot db scanJobId unique)

end

/-! ## 3. The rows after the insertions -/

def insertAssets (snapshotId : Id) (unique : List AssetCandidate) (assets : Table Asset) :
    Table Asset :=
  unique.foldl (fun assets candidate => assets.insert (assetRow snapshotId candidate)) assets

theorem insertAsset_eq_some {snapshotId : Id} {db db' : Database} {candidate : AssetCandidate}
    (h : insertAsset snapshotId db candidate = some db') :
    db' = { db with assets := db.assets.insert (assetRow snapshotId candidate) } := by
  unfold insertAsset at h
  dsimp only at h
  split at h
  · exact (Option.some.inj h).symm
  · cases h

/-- The loop inserts the candidates before the one at which it raised, and all of them if it did
not. -/
theorem insertEach_inserted (snapshotId : Id) (unique : List AssetCandidate) (db : Database) :
    ∃ done rest, unique = done ++ rest ∧
      (insertEach snapshotId unique db).1 =
        { db with assets := insertAssets snapshotId done db.assets } ∧
      (insertEach snapshotId unique db).2 = rest.head? := by
  induction unique generalizing db with
  | nil => exact ⟨[], [], rfl, rfl, rfl⟩
  | cons candidate unique ih =>
      rw [insertEach]
      cases hinsert : insertAsset snapshotId db candidate with
      | none => exact ⟨[], candidate :: unique, rfl, rfl, rfl⟩
      | some db' =>
          obtain ⟨done, rest, hsplit, hrows, hstop⟩ := ih db'
          refine ⟨candidate :: done, rest, by rw [hsplit, List.cons_append], ?_, hstop⟩
          show (insertEach snapshotId unique db').1 = _
          rw [hrows, insertAsset_eq_some hinsert]
          rfl

theorem insertEach_ended {snapshotId : Id} {unique : List AssetCandidate} {db db' : Database}
    (h : insertEach snapshotId unique db = (db', none)) :
    db' = { db with assets := insertAssets snapshotId unique db.assets } := by
  obtain ⟨done, rest, hsplit, hrows, hstop⟩ := insertEach_inserted snapshotId unique db
  rw [h] at hrows hstop
  have hdone : done = unique := by
    rw [hsplit, List.head?_eq_none_iff.mp hstop.symm, List.append_nil]
  rw [← hdone]
  exact hrows

/-- Only the references of the assets of this snapshot matter. -/
theorem refFree_iff {assets : Table Asset} {snapshotId : Id} {candidate : AssetCandidate} :
    refFree assets (assetRow snapshotId candidate) = true ↔
      ∀ id asset, assets.find? id = some asset → asset.snapshot = some snapshotId →
        asset.bomRef ≠ candidate.bomRef.take 255 := by
  unfold refFree
  rw [List.isEmpty_iff, List.eq_nil_iff_forall_not_mem]
  constructor
  · intro h id asset hfound hsnapshot href
    apply h id
    rw [Table.mem_ids]
    refine ⟨asset, hfound, ?_⟩
    rw [Bool.and_eq_true, beq_iff_eq, beq_iff_eq]
    exact ⟨hsnapshot, href⟩
  · intro h id hid
    obtain ⟨asset, hfound, hrow⟩ := Table.mem_ids.mp hid
    rw [Bool.and_eq_true, beq_iff_eq, beq_iff_eq] at hrow
    exact h id asset hfound hrow.1 hrow.2

/-- Candidates whose references are different, from each other and from those of the snapshot, are
all inserted. -/
theorem insertEach_of_nodup {snapshotId : Id} {unique : List AssetCandidate} {db : Database}
    (hnodup : (unique.map fun candidate => candidate.bomRef.take 255).Nodup)
    (hfree : ∀ candidate ∈ unique, refFree db.assets (assetRow snapshotId candidate) = true) :
    insertEach snapshotId unique db =
      ({ db with assets := insertAssets snapshotId unique db.assets }, none) := by
  induction unique generalizing db with
  | nil => rfl
  | cons candidate unique ih =>
      rw [List.map_cons, List.nodup_cons] at hnodup
      rw [insertEach, insertAsset, if_pos (hfree candidate List.mem_cons_self)]
      -- the row that was inserted has none of the references to come
      apply ih hnodup.2
      intro other hother
      rw [refFree_iff]
      intro id asset hfound hsnapshot
      dsimp only at hfound
      rw [Table.find?_insert] at hfound
      split at hfound
      · cases hfound
        intro href
        exact hnodup.1 (List.mem_map.mpr ⟨other, hother, href.symm⟩)
      · exact refFree_iff.mp (hfree other (List.mem_cons_of_mem _ hother)) id asset hfound hsnapshot

theorem find?_insertAssets_of_find? {snapshotId : Id} {unique : List AssetCandidate}
    {assets : Table Asset} {id : Id} {asset : Asset} (h : assets.find? id = some asset) :
    (insertAssets snapshotId unique assets).find? id = some asset := by
  induction unique generalizing assets with
  | nil => exact h
  | cons candidate unique ih => exact ih (Table.find?_insert_of_find? _ h)

/-- A row after the insertions is an old one, or that of a candidate under a new id. -/
theorem find?_insertAssets {snapshotId : Id} {unique : List AssetCandidate} {assets : Table Asset}
    {id : Id} {asset : Asset} (h : (insertAssets snapshotId unique assets).find? id = some asset) :
    assets.find? id = some asset ∨
      (assets.nextId ≤ id ∧ ∃ candidate ∈ unique, asset = assetRow snapshotId candidate) := by
  induction unique generalizing assets with
  | nil => exact .inl h
  | cons candidate unique ih =>
      rcases ih h with hold | ⟨hlt, other, hmem, hasset⟩
      · rw [Table.find?_insert] at hold
        split at hold
        · rename_i hid
          cases hold
          exact .inr ⟨Nat.le_of_eq hid.symm, candidate, List.mem_cons_self, rfl⟩
        · exact .inl hold
      · rw [Table.nextId_insert] at hlt
        exact .inr ⟨Nat.le_of_succ_le hlt, other, List.mem_cons_of_mem _ hmem, hasset⟩

end CryptoScanner.Scan
