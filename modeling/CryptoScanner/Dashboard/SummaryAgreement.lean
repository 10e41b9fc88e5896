import CryptoScanner.Dashboard.Summary
import CryptoScanner.Scan.BomRefs

/-!
# The dashboard of a new snapshot

A scan stores a summary with its snapshot, which `_snapshot_summary` makes from the deduplicated
candidates; the dashboard counts the rows.  The two agree, but for the key of assets without a family,
as long as no two rows have one reference and no column cuts a text off.
-/

namespace CryptoScanner.Dashboard

open Library Python RiskEngine Snapshots Scan

/-! ## 1. The rows of the new snapshot -/

/-- The rows that `p` selects, in the order of their ids. -/
def rowsWhere {α : Type*} (t : Table α) (p : α → Bool) : List α := (t.ids p).filterMap t.find?

theorem rowsWhere_insert {α : Type*} (t : Table α) (p : α → Bool) (a : α) :
    rowsWhere (t.insert a) p = rowsWhere t p ++ if p a then [a] else [] := by
  unfold rowsWhere
  rw [Table.ids_insert, List.filterMap_append]
  congr 1
  · apply List.filterMap_congr
    intro id hid
    obtain ⟨row, hrow, -⟩ := Table.mem_ids.mp hid
    rw [hrow, Table.find?_insert_of_find? a hrow]
  · by_cases hp : p a = true
    · rw [if_pos hp, if_pos hp, List.filterMap_cons, Table.find?_insert_self, List.filterMap_nil]
    · rw [if_neg hp, if_neg hp, List.filterMap_nil]

theorem assetsOf_eq (db : Database) (snapshotId : Id) :
    assetsOf db snapshotId = rowsWhere db.assets fun asset => asset.snapshot == some snapshotId :=
  rfl

theorem rowsWhere_insertAssets (snapshotId : Id) (unique : List AssetCandidate)
    (assets : Table Asset) :
    rowsWhere (insertAssets snapshotId unique assets)
        (fun asset => asset.snapshot == some snapshotId) =
      rowsWhere assets (fun asset => asset.snapshot == some snapshotId) ++
        unique.map (assetRow snapshotId) := by
  induction unique generalizing assets with
  | nil => exact (List.append_nil _).symm
  | cons candidate unique ih =>
      show rowsWhere (insertAssets snapshotId unique (assets.insert _)) _ = _
      have hown : ((assetRow snapshotId candidate).snapshot == some snapshotId) = true :=
        beq_self_eq_true (some snapshotId)
      rw [ih, rowsWhere_insert, if_pos hown, List.append_assoc]
      rfl

/-- No asset refers to the snapshot that is inserted next. -/
def FreshSnapshot (db : Database) : Prop :=
  ∀ id asset, db.assets.find? id = some asset → asset.snapshot ≠ some db.snapshots.nextId

section

variable [PyText] (floatRepr : PyFloat → List Char)

/-- Different references are all inserted into a new snapshot. -/
theorem persistSnapshot_of_nodup {db : Database} (hfresh : FreshSnapshot db) (scanJobId : Id)
    {candidates : List AssetCandidate} (hrefs : (storedRefs floatRepr candidates).Nodup) :
    persistSnapshot floatRepr db scanJobId candidates =
      ({ insertSnapshot db scanJobId (dedupeCandidates floatRepr candidates) with
        assets := insertAssets db.snapshots.nextId (dedupeCandidates floatRepr candidates) db.assets },
        none) := by
  apply insertEach_of_nodup hrefs
  intro candidate _
  rw [refFree_iff]
  intro id asset hfound hsnapshot
  exact absurd hsnapshot (hfresh id asset hfound)

/-- The rows of the new snapshot are those of the deduplicated candidates. -/
theorem assetsOf_persistSnapshot {db : Database} (hfresh : FreshSnapshot db) (scanJobId : Id)
    {candidates : List AssetCandidate} (hrefs : (storedRefs floatRepr candidates).Nodup) :
    assetsOf (persistSnapshot floatRepr db scanJobId candidates).1 db.snapshots.nextId =
      (dedupeCandidates floatRepr candidates).map (assetRow db.snapshots.nextId) := by
  rw [persistSnapshot_of_nodup floatRepr hfresh scanJobId hrefs, assetsOf_eq, rowsWhere_insertAssets]
  have hnone : rowsWhere db.assets (fun asset => asset.snapshot == some db.snapshots.nextId) = [] := by
    unfold rowsWhere
    have hids : (db.assets.ids fun asset => asset.snapshot == some db.snapshots.nextId) = [] := by
      rw [List.eq_nil_iff_forall_not_mem]
      intro id hid
      obtain ⟨asset, hasset, hsnapshot⟩ := Table.mem_ids.mp hid
      exact hfresh id asset hasset (beq_iff_eq.mp hsnapshot)
    rw [hids, List.filterMap_nil]
  exact congrArg (· ++ _) hnone

end

/-! ## 2. The counts of the summary -/

def countOf (counts : List (List Char × Nat)) (key : List Char) : Nat :=
  (Dict.get? counts key).getD 0

/-- The summary sorts the same counts by their keys. -/
theorem sortedCounts_perm (texts : List (List Char)) : (sortedCounts texts).Perm (tally texts) := by
  have hsame : (List.instBEq : BEq (List Char)) = instBEqOfDecidableEq := by
    have hbeq : @BEq.beq _ (List.instBEq : BEq (List Char)) = @BEq.beq _ instBEqOfDecidableEq := by
      funext a b
      rw [Bool.eq_iff_iff]
      exact (@beq_iff_eq _ List.instBEq _ a b).trans (@beq_iff_eq _ instBEqOfDecidableEq _ a b).symm
    exact congrArg BEq.mk hbeq
  have hfold : (texts.foldl (fun counts text =>
      Dict.set text ((counts.lookup text).getD 0 + 1) counts) []) = tally texts := by
    rw [hsame]
    rfl
  unfold sortedCounts
  rw [hfold]
  exact List.mergeSort_perm _ _

theorem countOf_sortedCounts (texts : List (List Char)) (key : List Char) :
    countOf (sortedCounts texts) key = countOf (tally texts) key := by
  have hperm := sortedCounts_perm texts
  have hkeys : ((sortedCounts texts).map Prod.fst).Nodup :=
    (hperm.map Prod.fst).nodup_iff.mpr (nodup_keys_tally texts)
  unfold countOf
  congr 1
  ext count
  rw [Dict.get?, Dict.get?, ← Dict.mem_iff_lookup hkeys, ← Dict.mem_iff_lookup (nodup_keys_tally texts)]
  exact hperm.mem_iff

theorem countOf_tally_map {α : Type*} (key : α → List Char) (items : List α) (k : List Char) :
    countOf (tally (items.map key)) k = items.countP fun item => decide (key item = k) :=
  getD_lookup_tally_map key items k

/-- `candidate.algorithm_family or "unknown"` -/
def summaryFamily (family : List Char) : List Char :=
  if family = [] then "unknown".toList else family

/-! ## 3. The agreement -/

section

variable [PyText] (floatRepr : PyFloat → List Char)

/-- No column cuts off a text that is counted. -/
def Fits (candidates : List AssetCandidate) : Prop :=
  ∀ candidate ∈ candidates,
    candidate.assetType.length ≤ 32 ∧ candidate.algorithmFamily.length ≤ 64

instance (candidates : List AssetCandidate) : Decidable (Fits candidates) :=
  inferInstanceAs (Decidable (∀ candidate ∈ candidates, _))

end

/-! ## 4. A scan with two assets -/

def twoCandidates : List AssetCandidate :=
  [{ targetId := 0, scannerKind := "cert".toList, assetType := "certificate".toList
     name := "www".toList, bomRef := "cert:www".toList, algorithm := "RSA-2048".toList
     algorithmFamily := "RSA".toList, metadata := [] },
    { targetId := 0, scannerKind := "private_key".toList, assetType := "key".toList
      name := "www.key".toList, bomRef := "key:www".toList, algorithm := [], algorithmFamily := []
      metadata := [("type", .str "private_key_file"), ("dormant", .bool true)] }]

end CryptoScanner.Dashboard
