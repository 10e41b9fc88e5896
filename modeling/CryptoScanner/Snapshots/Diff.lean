import Mathlib.Data.Char
import Mathlib.Data.List.Lex
import CryptoScanner.Library.Dict
import CryptoScanner.Library.KeyedDiff
import CryptoScanner.MigrationEngine.Rules
import CryptoScanner.Models
import CryptoScanner.Python.Digits

/-!
# The diff of two snapshots

`diff_snapshots` compares the assets of two snapshots by their reference: which are added, removed
or modified, and which of the removed and modified ones are regressions.
-/

namespace CryptoScanner.Snapshots

open Library Python MigrationEngine

/-! ## 1. The response -/

structure DiffAsset where
  bomRef : List Char
  type : List Char
  name : List Char
  deriving DecidableEq, Repr

structure FieldChange where
  field : String
  before : List Char
  after : List Char
  deriving DecidableEq, Repr

structure ModifiedAsset extends DiffAsset where
  fieldChanges : List FieldChange
  deriving DecidableEq, Repr

structure RegressionAssetState extends DiffAsset where
  algorithm : List Char
  algorithmFamily : List Char
  deriving DecidableEq, Repr

structure Regression where
  kind : String
  severity : String
  bomRef : List Char
  assetType : List Char
  message : String
  before : RegressionAssetState
  after : Option RegressionAssetState
  deriving DecidableEq, Repr

structure Collections where
  added : List DiffAsset
  removed : List DiffAsset
  modified : List ModifiedAsset
  unchangedCount : Nat
  deriving DecidableEq, Repr

structure SnapshotDiff extends Collections where
  snapshotA : Id
  snapshotB : Id
  regressions : List Regression
  deriving DecidableEq, Repr

/-- A snapshot and what `snapshot.assets.all()` returns. -/
structure SnapshotAssets where
  id : Id
  assets : List Asset
  deriving DecidableEq, Repr

inductive DiffError
  | attributeError
  | valueError
  deriving DecidableEq, Repr

def diffAsset (asset : Asset) : DiffAsset where
  bomRef := asset.bomRef
  type := asset.assetType
  name := asset.name

def regressionAssetState (asset : Asset) : RegressionAssetState where
  toDiffAsset := diffAsset asset
  algorithm := asset.algorithm
  algorithmFamily := asset.algorithmFamily

/-! ## 2. The strength of an algorithm -/

section Strength

variable [PyText]

def normalizedAlgorithmFamily (family algorithm : List Char) : String :=
  let value := (upper (family ++ ' ' :: algorithm)).map fun c => if c = '_' then '-' else c
  if Has "ML-KEM" value ∨ Has "KYBER" value then "ML-KEM"
  else if Has "ML-DSA" value ∨ Has "DILITHIUM" value then "ML-DSA"
  else if Has "SLH-DSA" value ∨ Has "SPHINCS" value then "SLH-DSA"
  else if Has "ED25519" value ∨ Has "ED448" value ∨ Has "EDDSA" value then "EDDSA"
  else if Has "ECDSA" value then "ECDSA"
  else if Has "ECDH" value ∨ Has "X25519" value ∨ Has "CURVE25519" value then "ECDH"
  else if Has "RSA" value then "RSA"
  else if Has "DIFFIE" value ∨ Has "MODP" value ∨
      (Regex.whole (.text "DH".toList)).Search textClasses value then "DH"
  else if (Regex.whole (.text "DSA".toList)).Search textClasses value then "DSA"
  else ""

def familyRanks : List (String × Nat) :=
  [("ML-KEM", 500), ("ML-DSA", 500), ("SLH-DSA", 500), ("EDDSA", 360), ("ECDSA", 340),
    ("ECDH", 340), ("X25519", 340), ("RSA", 300), ("DH", 200), ("DSA", 150)]

def familyRank (asset : Asset) : Nat :=
  (familyRanks.lookup (normalizedAlgorithmFamily asset.algorithmFamily asset.algorithm)).getD 0

/-- `asset.metadata or {}`, on which `.get` is called. -/
def metadataDict : Json → Except DiffError (List (String × Json))
  | .dict metadata => .ok metadata
  | value => if value.truthy then .error .attributeError else .ok []

def intOrValueError (limits : Limits) (text : List Char) : Except DiffError Int :=
  match intOfText limits text with
  | some n => .ok n
  | none => .error .valueError

variable [PyDigits] (limits : Limits)

/-- One turn of the loop over the metadata keys; a boolean is an `int`. -/
def sizeOfValue : Json → Except DiffError (Option Int)
  | .bool b => .ok (some (if b then 1 else 0))
  | .int n => .ok (some n)
  | .str text =>
      if isDigitText text.toList then (intOrValueError limits text.toList).map some else .ok none
  | .null | .float _ | .list _ | .dict _ => .ok none

def metadataSize (metadata : List (String × Json)) : List String → Except DiffError (Option Int)
  | [] => .ok none
  | key :: keys => do
      match ← sizeOfValue limits ((metadata.lookup key).getD .null) with
      | some n => return some n
      | none => metadataSize metadata keys

/-- `max(values) if values else 0` -/
def maxOrZero : List Int → Int
  | [] => 0
  | n :: values => values.foldl max n

/-- The integers of `re.findall`; the first one that `int` does not read raises. -/
def intsOf : List (List Char) → Except DiffError (List Int)
  | [] => .ok []
  | digits :: rest => do
      let n ← intOrValueError limits digits
      let values ← intsOf rest
      return n :: values

def algorithmSize (asset : Asset) : Except DiffError Int := do
  let metadata ← metadataDict asset.metadata
  match ← metadataSize limits metadata ["key_size_bits", "key_size", "bits"] with
  | some n => return n
  | none =>
      let values ← intsOf limits (digitRuns (asset.algorithm ++ ' ' :: asset.algorithmFamily))
      return maxOrZero values

def algorithmStrength (asset : Asset) : Except DiffError (Nat × Int) :=
  (algorithmSize limits asset).map fun size => (familyRank asset, size)

omit [PyText] [PyDigits] in
/-- `after < before`, as Python compares tuples. -/
def Weaker (after before : Nat × Int) : Prop :=
  after.1 < before.1 ∨ after.1 = before.1 ∧ after.2 < before.2

instance (after before : Nat × Int) : Decidable (Weaker after before) :=
  inferInstanceAs (Decidable (_ ∨ _))

/-! ## 3. The comparison -/

def algorithmRegression (before after : Asset) : Except DiffError (Option Regression) :=
  if before.algorithm ≠ [] ∧ after.algorithm = [] then
    return some
      { kind := "algorithm_removed"
        severity := "high"
        bomRef := before.bomRef
        assetType := before.assetType
        message := "Algorithm metadata was removed from the post-migration snapshot."
        before := regressionAssetState before
        after := some (regressionAssetState after) }
  else do
    let beforeStrength ← algorithmStrength limits before
    let afterStrength ← algorithmStrength limits after
    if beforeStrength.1 = 0 ∨ afterStrength.1 = 0 then return none
    else if ¬ Weaker afterStrength beforeStrength then return none
    else
      return some
        { kind := "algorithm_downgrade"
          severity := "high"
          bomRef := after.bomRef
          assetType := after.assetType
          message := "Algorithm strength decreased in the post-migration snapshot."
          before := regressionAssetState before
          after := some (regressionAssetState after) }

omit [PyText] [PyDigits] in
def assetRemoved (before : Asset) : Regression where
  kind := "asset_removed"
  severity := "high"
  bomRef := before.bomRef
  assetType := before.assetType
  message := "Asset is missing from the post-migration snapshot."
  before := regressionAssetState before
  after := none

/-- The second loop of `_diff_regressions`. -/
def modifiedRegressions : List (Asset × Asset) → Except DiffError (List Regression)
  | [] => .ok []
  | (before, after) :: pairs => do
      let regression ← algorithmRegression limits before after
      let rest ← modifiedRegressions pairs
      return regression.toList ++ rest

end Strength

/-- The fields that `_diff_field_changes` compares. -/
def diffFields : List (String × (Asset → List Char)) :=
  [("name", Asset.name), ("asset_type", Asset.assetType), ("algorithm", Asset.algorithm),
    ("algorithm_family", Asset.algorithmFamily)]

def diffFieldChanges (before after : Asset) : List FieldChange :=
  diffFields.filterMap fun field =>
    if field.2 before ≠ field.2 after then some ⟨field.1, field.2 before, field.2 after⟩ else none

def fieldsChanged (before after : Asset) : Bool := diffFieldChanges before after != []

def assetsByRef (assets : List Asset) : List (List Char × Asset) :=
  Dict.update [] (assets.map fun asset => (asset.bomRef, asset))

def sortedRefs (refs : List (List Char)) : List (List Char) := refs.insertionSort (· ≤ ·)

abbrev ByRef := List (List Char × Asset)

def addedAssets (assetsA assetsB : ByRef) : List Asset :=
  (sortedRefs (KeyedDiff.addedKeys assetsA assetsB)).filterMap (Dict.get? assetsB)

/-- The assets of the modified references, before and after, in order. -/
def modifiedPairs (assetsA assetsB : ByRef) : List (Asset × Asset) :=
  (sortedRefs (KeyedDiff.modifiedKeys fieldsChanged assetsA assetsB)).filterMap
    (KeyedDiff.pairAt assetsA assetsB)

def modifiedAsset (pair : Asset × Asset) : ModifiedAsset where
  toDiffAsset := diffAsset pair.2
  fieldChanges := diffFieldChanges pair.1 pair.2

def diffCollections (assetsA assetsB : ByRef) : Collections where
  added := (addedAssets assetsA assetsB).map diffAsset
  -- `removed_keys` is the same difference the other way round
  removed := (addedAssets assetsB assetsA).map diffAsset
  modified := (modifiedPairs assetsA assetsB).map modifiedAsset
  unchangedCount := (KeyedDiff.unchangedKeys fieldsChanged assetsA assetsB).length

/-- `diff_snapshots` on the two loaded snapshots; an error is an exception in `_diff_regressions`. -/
def diffSnapshots [PyText] [PyDigits] (limits : Limits) (a b : SnapshotAssets) :
    Except DiffError SnapshotDiff := do
  let assetsA := assetsByRef a.assets
  let assetsB := assetsByRef b.assets
  let downgrades ← modifiedRegressions limits (modifiedPairs assetsA assetsB)
  return {
    toCollections := diffCollections assetsA assetsB
    snapshotA := a.id
    snapshotB := b.id
    regressions := (addedAssets assetsB assetsA).map assetRemoved ++ downgrades }

/-! ## 4. Partition and symmetry -/

def SnapshotAssets.refs (snapshot : SnapshotAssets) : List (List Char) :=
  snapshot.assets.map Asset.bomRef

/-- What the collections of a diff are, for the two lists of references. -/
structure DiffPartition (refsA refsB : List (List Char)) (d : Collections) : Prop where
  added : ∀ ref, ref ∈ d.added.map DiffAsset.bomRef ↔ ref ∈ refsB ∧ ref ∉ refsA
  removed : ∀ ref, ref ∈ d.removed.map DiffAsset.bomRef ↔ ref ∈ refsA ∧ ref ∉ refsB
  modified : ∀ asset ∈ d.modified, asset.bomRef ∈ refsA ∧ asset.bomRef ∈ refsB
  disjoint : (d.added.map DiffAsset.bomRef ++ d.removed.map DiffAsset.bomRef ++
    d.modified.map fun asset => asset.bomRef).Nodup
  total : d.added.length + d.removed.length + d.modified.length + d.unchangedCount =
    (refsA.toFinset ∪ refsB.toFinset).card

def FieldChange.reverse (change : FieldChange) : FieldChange :=
  { change with before := change.after, after := change.before }

/-- The two directions of one diff. -/
structure DiffSwapped (d d' : Collections) : Prop where
  added : d'.added = d.removed
  removed : d'.removed = d.added
  modified : (d'.modified.map fun asset => asset.bomRef) = d.modified.map fun asset => asset.bomRef
  fieldChanges : d'.modified.map ModifiedAsset.fieldChanges =
    d.modified.map fun asset => asset.fieldChanges.map FieldChange.reverse
  unchangedCount : d'.unchangedCount = d.unchangedCount

section Refs

variable {assets : List Asset} {asset : Asset} {ref : List Char} {assetsA assetsB : ByRef}

theorem mem_keys_assetsByRef : ref ∈ KeyedDiff.keys (assetsByRef assets) ↔
    ref ∈ assets.map Asset.bomRef := by
  rw [KeyedDiff.keys, assetsByRef, Dict.mem_keys_update, List.map_map]
  simp only [List.map_nil, List.not_mem_nil, false_or]
  rfl

theorem nodup_keys_assetsByRef : (KeyedDiff.keys (assetsByRef assets)).Nodup :=
  Dict.nodup_keys_update _ List.nodup_nil

/-- Every asset stands under its own reference. -/
def OwnRefs (byRef : ByRef) : Prop :=
  ∀ ref asset, Dict.get? byRef ref = some asset → asset.bomRef = ref

theorem ownRefs_assetsByRef (assets : List Asset) : OwnRefs (assetsByRef assets) := by
  have hfold : ∀ (assets : List Asset) (byRef : ByRef), OwnRefs byRef →
      OwnRefs (Dict.update byRef (assets.map fun asset => (asset.bomRef, asset))) := by
    intro assets
    induction assets with
    | nil => exact fun _ h => h
    | cons asset assets ih =>
        intro byRef h
        apply ih (Dict.set asset.bomRef asset byRef)
        intro ref other hother
        rw [Dict.get?, Dict.lookup_set] at hother
        by_cases heq : ref = asset.bomRef
        · rw [if_pos heq] at hother
          rw [← Option.some.inj hother, heq]
        · rw [if_neg heq] at hother
          exact h ref other hother
  exact hfold assets [] nofun

/-- Reading the assets of listed references gives the references back. -/
theorem map_bomRef_filterMap_lookup (hown : OwnRefs assetsA) {refs : List (List Char)}
    (hmem : ∀ ref ∈ refs, ref ∈ KeyedDiff.keys assetsA) :
    (refs.filterMap (Dict.get? assetsA)).map Asset.bomRef = refs := by
  induction refs with
  | nil => rfl
  | cons ref refs ih =>
      obtain ⟨asset, hasset⟩ := KeyedDiff.exists_lookup_of_mem_keys (hmem ref List.mem_cons_self)
      have hget : Dict.get? assetsA ref = some asset := hasset
      rw [List.filterMap_cons, hget, List.map_cons, hown ref asset hget,
        ih fun ref href => hmem ref (List.mem_cons_of_mem _ href)]

theorem mem_sortedRefs {refs : List (List Char)} : ref ∈ sortedRefs refs ↔ ref ∈ refs :=
  List.mem_insertionSort _

theorem map_bomRef_addedAssets (hown : OwnRefs assetsB) :
    (addedAssets assetsA assetsB).map Asset.bomRef =
      sortedRefs (KeyedDiff.addedKeys assetsA assetsB) := by
  apply map_bomRef_filterMap_lookup hown
  intro ref href
  exact (KeyedDiff.mem_addedKeys.mp (mem_sortedRefs.mp href)).1

/-- The pairs of listed shared references, with the reference of each. -/
theorem map_filterMap_pairAt (hown : OwnRefs assetsB) {refs : List (List Char)}
    (hmem : ∀ ref ∈ refs, ref ∈ KeyedDiff.sharedKeys assetsA assetsB) :
    (refs.filterMap (KeyedDiff.pairAt assetsA assetsB)).map (fun pair => pair.2.bomRef) = refs := by
  induction refs with
  | nil => rfl
  | cons ref refs ih =>
      have hshared := KeyedDiff.mem_sharedKeys.mp (hmem ref List.mem_cons_self)
      obtain ⟨before, hbefore⟩ := KeyedDiff.exists_lookup_of_mem_keys hshared.1
      obtain ⟨after, hafter⟩ := KeyedDiff.exists_lookup_of_mem_keys hshared.2
      rw [List.filterMap_cons, KeyedDiff.pairAt_eq_some.mpr ⟨hbefore, hafter⟩, List.map_cons,
        hown ref after hafter, ih fun ref href => hmem ref (List.mem_cons_of_mem _ href)]

theorem map_bomRef_modifiedPairs (hown : OwnRefs assetsB) :
    (modifiedPairs assetsA assetsB).map (fun pair => pair.2.bomRef) =
      sortedRefs (KeyedDiff.modifiedKeys fieldsChanged assetsA assetsB) := by
  apply map_filterMap_pairAt hown
  intro ref href
  exact KeyedDiff.mem_sharedKeys_of_mem_modifiedKeys (mem_sortedRefs.mp href)

end Refs

section Changes

variable (before after : Asset)

/-- The changes of the reverse comparison are the reversed changes. -/
theorem diffFieldChanges_swap :
    diffFieldChanges after before = (diffFieldChanges before after).map FieldChange.reverse := by
  unfold diffFieldChanges
  rw [List.map_filterMap]
  apply List.filterMap_congr
  intro field _
  by_cases heq : field.2 before = field.2 after
  · rw [if_neg (not_not.mpr heq.symm), if_neg (not_not.mpr heq)]
    rfl
  · rw [if_pos (Ne.symm heq), if_pos heq]
    rfl

theorem fieldsChanged_swap : fieldsChanged before after = fieldsChanged after before := by
  unfold fieldsChanged
  rw [diffFieldChanges_swap before after]
  cases diffFieldChanges before after <;> rfl

end Changes

section Partition

variable {assetsA assetsB : ByRef}

theorem sortedRefs_modifiedKeys_swap (ha : (KeyedDiff.keys assetsA).Nodup)
    (hb : (KeyedDiff.keys assetsB).Nodup) :
    sortedRefs (KeyedDiff.modifiedKeys fieldsChanged assetsB assetsA) =
      sortedRefs (KeyedDiff.modifiedKeys fieldsChanged assetsA assetsB) :=
  KeyedDiff.sorted_congr _ (KeyedDiff.nodup_modifiedKeys hb) (KeyedDiff.nodup_modifiedKeys ha)
    fun _ => KeyedDiff.mem_modifiedKeys_swap fieldsChanged_swap

/-- The modified pairs of the reverse comparison are the swapped pairs, in the same order. -/
theorem modifiedPairs_swap (ha : (KeyedDiff.keys assetsA).Nodup)
    (hb : (KeyedDiff.keys assetsB).Nodup) :
    modifiedPairs assetsB assetsA = (modifiedPairs assetsA assetsB).map Prod.swap := by
  unfold modifiedPairs
  rw [sortedRefs_modifiedKeys_swap ha hb, List.map_filterMap]
  apply List.filterMap_congr
  intro ref _
  exact KeyedDiff.pairAt_swap

theorem diffSwapped_diffCollections (ha : (KeyedDiff.keys assetsA).Nodup)
    (hb : (KeyedDiff.keys assetsB).Nodup) (howna : OwnRefs assetsA) (hownb : OwnRefs assetsB) :
    DiffSwapped (diffCollections assetsA assetsB) (diffCollections assetsB assetsA) where
  added := rfl
  removed := rfl
  modified := by
    show ((modifiedPairs assetsB assetsA).map modifiedAsset).map _ =
      ((modifiedPairs assetsA assetsB).map modifiedAsset).map _
    rw [List.map_map, List.map_map]
    show (modifiedPairs assetsB assetsA).map (fun pair => pair.2.bomRef) =
      (modifiedPairs assetsA assetsB).map fun pair => pair.2.bomRef
    rw [map_bomRef_modifiedPairs howna, map_bomRef_modifiedPairs hownb,
      sortedRefs_modifiedKeys_swap ha hb]
  fieldChanges := by
    show ((modifiedPairs assetsB assetsA).map modifiedAsset).map ModifiedAsset.fieldChanges =
      ((modifiedPairs assetsA assetsB).map modifiedAsset).map _
    rw [modifiedPairs_swap ha hb, List.map_map, List.map_map, List.map_map]
    apply List.map_congr_left
    intro pair _
    exact diffFieldChanges_swap pair.1 pair.2
  unchangedCount := KeyedDiff.length_unchangedKeys_swap ha hb fieldsChanged_swap

theorem diffPartition_diffCollections (ha : (KeyedDiff.keys assetsA).Nodup)
    (hb : (KeyedDiff.keys assetsB).Nodup) (howna : OwnRefs assetsA) (hownb : OwnRefs assetsB) :
    DiffPartition (KeyedDiff.keys assetsA) (KeyedDiff.keys assetsB)
      (diffCollections assetsA assetsB) := by
  have hadded : ∀ {assetsA assetsB : ByRef}, OwnRefs assetsB →
      ((addedAssets assetsA assetsB).map diffAsset).map DiffAsset.bomRef =
        sortedRefs (KeyedDiff.addedKeys assetsA assetsB) := by
    intro assetsA assetsB hown
    rw [List.map_map]
    exact map_bomRef_addedAssets hown
  have hmodified : (((modifiedPairs assetsA assetsB).map modifiedAsset).map fun asset =>
      asset.bomRef) = sortedRefs (KeyedDiff.modifiedKeys fieldsChanged assetsA assetsB) := by
    rw [List.map_map]
    exact map_bomRef_modifiedPairs hownb
  have hparts := @KeyedDiff.nodup_parts _ _ _ fieldsChanged assetsA assetsB ha hb
  refine ⟨?_, ?_, ?_, ?_, ?_⟩
  · intro ref
    show ref ∈ ((addedAssets assetsA assetsB).map diffAsset).map DiffAsset.bomRef ↔ _
    rw [hadded hownb, mem_sortedRefs, KeyedDiff.mem_addedKeys]
  · intro ref
    show ref ∈ ((addedAssets assetsB assetsA).map diffAsset).map DiffAsset.bomRef ↔ _
    rw [hadded howna, mem_sortedRefs, KeyedDiff.mem_addedKeys]
  · intro asset hasset
    have hmem := List.mem_map_of_mem (f := fun asset : ModifiedAsset => asset.bomRef) hasset
    have href : asset.bomRef ∈ KeyedDiff.modifiedKeys fieldsChanged assetsA assetsB := by
      apply mem_sortedRefs.mp
      rw [← hmodified]
      exact hmem
    exact KeyedDiff.mem_sharedKeys.mp (KeyedDiff.mem_sharedKeys_of_mem_modifiedKeys href)
  · show (((addedAssets assetsA assetsB).map diffAsset).map DiffAsset.bomRef ++
      ((addedAssets assetsB assetsA).map diffAsset).map DiffAsset.bomRef ++
      ((modifiedPairs assetsA assetsB).map modifiedAsset).map fun asset => asset.bomRef).Nodup
    rw [hadded hownb, hadded howna, hmodified]
    -- sorting the three parts permutes their concatenation
    have hperm : ∀ refs : List (List Char), (sortedRefs refs).Perm refs :=
      List.perm_insertionSort _
    rw [(((hperm _).append (hperm _)).append (hperm _)).nodup_iff]
    exact hparts.of_append_left
  · have hlength : ∀ refs : List (List Char), (sortedRefs refs).length = refs.length :=
      fun refs => (List.perm_insertionSort _ refs).length_eq
    have hcount : ∀ {assetsA assetsB : ByRef}, OwnRefs assetsB →
        ((addedAssets assetsA assetsB).map diffAsset).length =
          (KeyedDiff.addedKeys assetsA assetsB).length := by
      intro assetsA assetsB hown
      rw [← hlength, ← hadded hown, List.length_map, List.length_map, List.length_map]
    have hmod : ((modifiedPairs assetsA assetsB).map modifiedAsset).length =
        (KeyedDiff.modifiedKeys fieldsChanged assetsA assetsB).length := by
      rw [← hlength, ← hmodified, List.length_map, List.length_map, List.length_map]
    show ((addedAssets assetsA assetsB).map diffAsset).length +
      ((addedAssets assetsB assetsA).map diffAsset).length +
      ((modifiedPairs assetsA assetsB).map modifiedAsset).length +
      (KeyedDiff.unchangedKeys fieldsChanged assetsA assetsB).length = _
    rw [hcount hownb, hcount howna, hmod]
    exact KeyedDiff.length_parts ha hb

end Partition

theorem DiffPartition.congr {refsA refsB refsA' refsB' : List (List Char)} {d : Collections}
    (h : DiffPartition refsA refsB d) (ha : ∀ ref, ref ∈ refsA ↔ ref ∈ refsA')
    (hb : ∀ ref, ref ∈ refsB ↔ ref ∈ refsB') : DiffPartition refsA' refsB' d where
  added ref := by rw [h.added ref, ha, hb]
  removed ref := by rw [h.removed ref, ha, hb]
  modified asset hasset := by
    have hboth := h.modified asset hasset
    exact ⟨(ha _).mp hboth.1, (hb _).mp hboth.2⟩
  disjoint := h.disjoint
  total := by
    rw [h.total]
    congr 1
    ext ref
    rw [Finset.mem_union, Finset.mem_union, List.mem_toFinset, List.mem_toFinset,
      List.mem_toFinset, List.mem_toFinset, ha, hb]

/-- The collections of a response, which no exception in the regressions changes. -/
theorem diffSnapshots_toCollections [PyText] [PyDigits] {limits : Limits} {a b : SnapshotAssets}
    {response : SnapshotDiff} (h : diffSnapshots limits a b = .ok response) :
    response.toCollections = diffCollections (assetsByRef a.assets) (assetsByRef b.assets) := by
  unfold diffSnapshots at h
  cases hregressions : modifiedRegressions limits
      (modifiedPairs (assetsByRef a.assets) (assetsByRef b.assets)) with
  | error e =>
      simp only [hregressions] at h
      cases h
  | ok downgrades =>
      simp only [hregressions] at h
      cases h
      rfl

/-- What a response says of two snapshots, and what the one with the snapshots swapped says. -/
theorem diffCollections_partition_swapped (a b : SnapshotAssets) :
    DiffPartition a.refs b.refs
        (diffCollections (assetsByRef a.assets) (assetsByRef b.assets)) ∧
      DiffSwapped (diffCollections (assetsByRef a.assets) (assetsByRef b.assets))
        (diffCollections (assetsByRef b.assets) (assetsByRef a.assets)) := by
  have hpartition := @diffPartition_diffCollections (assetsByRef a.assets) (assetsByRef b.assets)
    nodup_keys_assetsByRef nodup_keys_assetsByRef (ownRefs_assetsByRef _) (ownRefs_assetsByRef _)
  constructor
  · exact hpartition.congr (fun _ => mem_keys_assetsByRef) fun _ => mem_keys_assetsByRef
  · exact diffSwapped_diffCollections nodup_keys_assetsByRef nodup_keys_assetsByRef
      (ownRefs_assetsByRef _) (ownRefs_assetsByRef _)

end CryptoScanner.Snapshots
