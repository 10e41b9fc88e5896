import CryptoScanner.Snapshots.Cbom
import Mathlib.Logic.Relation

/-!
# The dependency graph of the exported document

What a reader of the CycloneDX document finds in it: the components and, by their references, which
of them depends on which.  The graph is a copy of the one the rows of the snapshot describe.
-/

namespace CryptoScanner.Snapshots

open Library Python Risk
open Llm (textsJson)

/-! ## 1. Reading a document -/

/-- `value[key]`, and `null` where there is none. -/
def entry (key : String) : Json → Json
  | .dict kvs => (kvs.lookup key).getD .null
  | _ => .null

def elements : Json → List Json
  | .list xs => xs
  | _ => []

def text? : Json → Option (List Char)
  | .str s => some s.toList
  | _ => none

def textsOf (value : Json) : List (List Char) := (elements value).filterMap text?

/-- The `bom-ref` of every component. -/
def componentRefs (document : Json) : List (List Char) :=
  (elements (entry "components" document)).filterMap fun component =>
    text? (entry "bom-ref" component)

/-- The `ref` of every dependency with its `dependsOn`. -/
def dependencyTable (document : Json) : List (List Char × List (List Char)) :=
  (elements (entry "dependencies" document)).filterMap fun row =>
    (text? (entry "ref" row)).map fun ref => (ref, textsOf (entry "dependsOn" row))

/-- The document says that `a` depends on `b`. -/
def DependsOn (document : Json) (a b : List Char) : Prop :=
  ∃ targets, (a, targets) ∈ dependencyTable document ∧ b ∈ targets

theorem text?_textJson (text : List Char) : text? (textJson text) = some text := by
  show some (String.ofList text).toList = some text
  rw [String.toList_ofList]

theorem textsOf_textsJson (texts : List (List Char)) : textsOf (textsJson texts) = texts := by
  show (texts.map textJson).filterMap text? = texts
  rw [List.filterMap_map]
  have hread : text? ∘ textJson = some := funext text?_textJson
  rw [hread, List.filterMap_some]

/-! ## 2. What the rows say -/

/-- A dependency of the snapshot leads from the first asset to the second. -/
def CbomSource.Edge (src : CbomSource) (source target : Id) : Prop :=
  ∃ id row, src.dependencies.find? id = some row ∧ row.snapshot = src.snapshotId ∧
    row.sourceAsset = source ∧ row.targetAsset = target

/-- The asset is one of the snapshot's and has the reference. -/
def CbomSource.HasRef (src : CbomSource) (id : Id) (ref : List Char) : Prop :=
  ∃ asset, src.db.assets.find? id = some asset ∧ asset.snapshot = some src.snapshotId ∧
    asset.bomRef = ref

/-- `uniq_asset_snapshot_bom_ref` -/
def CbomSource.UniqueRefs (src : CbomSource) : Prop :=
  ∀ id id' ref, src.HasRef id ref → src.HasRef id' ref → id = id'

/-- The dependencies of the snapshot join assets of the snapshot. -/
def CbomSource.Inside (src : CbomSource) : Prop :=
  ∀ source target, src.Edge source target →
    (∃ ref, src.HasRef source ref) ∧ ∃ ref, src.HasRef target ref

theorem HasRef.unique {src : CbomSource} {id : Id} {ref ref' : List Char} (h : src.HasRef id ref)
    (h' : src.HasRef id ref') : ref = ref' := by
  obtain ⟨asset, hfind, -, rfl⟩ := h
  obtain ⟨asset', hfind', -, rfl⟩ := h'
  rw [hfind, Option.some.injEq] at hfind'
  rw [hfind']

theorem mem_assets {src : CbomSource} {id : Id} {asset : Asset} :
    (id, asset) ∈ src.assets ↔
      src.db.assets.find? id = some asset ∧ asset.snapshot = some src.snapshotId := by
  unfold CbomSource.assets
  rw [List.mem_filterMap]
  constructor
  · intro h
    obtain ⟨other, hmem, hrow⟩ := h
    obtain ⟨found, hfind, hsnapshot⟩ := Table.mem_ids.mp hmem
    rw [hfind, Option.map_some, Option.some.injEq, Prod.mk.injEq] at hrow
    obtain ⟨rfl, rfl⟩ := hrow
    exact ⟨hfind, beq_iff_eq.mp hsnapshot⟩
  · intro h
    exact ⟨id, Table.mem_ids.mpr ⟨asset, h.1, beq_iff_eq.mpr h.2⟩, by rw [h.1, Option.map_some]⟩

theorem mem_edges {src : CbomSource} {a b : List Char} :
    (a, b) ∈ src.edges ↔ ∃ source target asset other, src.Edge source target ∧
      src.db.assets.find? source = some asset ∧ src.db.assets.find? target = some other ∧
      asset.bomRef = a ∧ other.bomRef = b := by
  unfold CbomSource.edges
  rw [List.mem_filterMap]
  constructor
  · intro h
    obtain ⟨id, hmem, hedge⟩ := h
    obtain ⟨row, hrow, hsnapshot⟩ := Table.mem_ids.mp hmem
    simp only [Option.bind_eq_bind, Option.bind_eq_some_iff] at hedge
    obtain ⟨found, hfound, asset, hasset, other, hother, heq⟩ := hedge
    cases heq
    rw [hrow, Option.some.injEq] at hfound
    subst hfound
    exact ⟨row.sourceAsset, row.targetAsset, asset, other,
      ⟨id, row, hrow, beq_iff_eq.mp hsnapshot, rfl, rfl⟩, hasset, hother, rfl, rfl⟩
  · intro h
    obtain ⟨source, target, asset, other, ⟨id, row, hrow, hsnapshot, rfl, rfl⟩, hasset, hother,
      rfl, rfl⟩ := h
    refine ⟨id, Table.mem_ids.mpr ⟨row, hrow, beq_iff_eq.mpr hsnapshot⟩, ?_⟩
    simp only [hrow, hasset, hother, Option.bind_eq_bind, Option.bind_some]
    rfl

/-! ## 3. The dependency rows -/

theorem lookup_gather_eq {κ α : Type*} [DecidableEq κ] (entries : List (κ × α)) (key : κ) :
    Dict.get? (Dict.gather entries) key =
      if (entries.filter fun entry => entry.1 = key) = [] then none
      else some ((entries.filter fun entry => entry.1 = key).map Prod.snd) := by
  induction entries using List.reverseRecOn with
  | nil => rfl
  | append_singleton entries entry ih =>
      have hpush : Dict.gather (entries ++ [entry]) =
          Dict.push entry.1 entry.2 (Dict.gather entries) := by
        unfold Dict.gather
        rw [List.foldl_append, List.foldl_cons, List.foldl_nil]
      rw [Dict.get?, hpush, Dict.push, Dict.lookup_set, Dict.lookup_gather, List.filter_append]
      by_cases hkey : key = entry.1
      · subst hkey
        have hlast : ([entry].filter fun other => other.1 = entry.1) = [entry] :=
          List.filter_cons_of_pos (by simp)
        rw [if_pos rfl, hlast, if_neg (by simp), List.map_append]
        rfl
      · have hlast : ([entry].filter fun other => other.1 = key) = [] :=
          List.filter_cons_of_neg (by simpa using fun h => hkey h.symm)
        rw [if_neg hkey, hlast, List.append_nil, ← ih]

theorem mem_dependencyRows {assets : List (Id × Asset)} {edges : List (List Char × List Char)}
    {a : List Char} {targets : List (List Char)} :
    (a, targets) ∈ dependencyRows assets edges ↔
      a ∈ assets.map (fun row => row.2.bomRef) ∧ (∃ b, (a, b) ∈ edges) ∧
        targets = sortedRefs ((edges.filter fun edge => edge.1 = a).map Prod.snd).dedup := by
  unfold dependencyRows
  rw [List.mem_filterMap, List.mem_map]
  have hkey : ∀ ref : List Char, (edges.filter fun edge => edge.1 = ref) = [] ↔
      ¬ ∃ b, (ref, b) ∈ edges := by
    intro ref
    rw [List.filter_eq_nil_iff]
    constructor
    · intro h ⟨b, hmem⟩
      exact h _ hmem (decide_eq_true rfl)
    · intro h edge hmem heq
      exact h ⟨edge.2, (of_decide_eq_true heq) ▸ hmem⟩
  constructor
  · intro h
    obtain ⟨row, hrow, heq⟩ := h
    rw [lookup_gather_eq] at heq
    by_cases hnil : (edges.filter fun edge => edge.1 = row.2.bomRef) = []
    · rw [if_pos hnil, Option.map_none] at heq
      cases heq
    · rw [if_neg hnil, Option.map_some, Option.some.injEq, Prod.mk.injEq] at heq
      obtain ⟨rfl, rfl⟩ := heq
      exact ⟨⟨row, hrow, rfl⟩, not_not.mp fun h => hnil ((hkey _).mpr h), rfl⟩
  · intro h
    obtain ⟨⟨row, hrow, rfl⟩, hedge, rfl⟩ := h
    refine ⟨row, hrow, ?_⟩
    rw [lookup_gather_eq, if_neg fun h => (hkey _).mp h hedge, Option.map_some]

/-- `sorted(set(refs))` has every reference once, in strictly ascending order. -/
theorem sortedRefs_strict (refs : List (List Char)) :
    (sortedRefs refs.dedup).Pairwise (· < ·) := by
  have hle : (sortedRefs refs.dedup).Pairwise (· ≤ ·) :=
    List.pairwise_insertionSort (· ≤ ·) refs.dedup
  have hne : (sortedRefs refs.dedup).Nodup :=
    (List.perm_insertionSort (· ≤ ·) refs.dedup).nodup_iff.mpr (List.nodup_dedup refs)
  exact hle.imp₂ (fun a b hab hne => lt_of_le_of_ne hab hne) hne

theorem dependencyRows_refs (assets : List (Id × Asset)) (edges : List (List Char × List Char)) :
    ((dependencyRows assets edges).map Prod.fst).Sublist
      (assets.map fun row => row.2.bomRef) := by
  induction assets with
  | nil => exact List.Sublist.refl _
  | cons row assets ih =>
      unfold dependencyRows
      rw [List.filterMap_cons]
      cases Dict.get? (Dict.gather edges) row.2.bomRef with
      | none => exact ih.cons _
      | some targets => exact ih.cons_cons _

/-! ## 4. What the document says -/

section

variable [PyText] (floatRepr : PyFloat → List Char)

theorem componentRefs_document (src : CbomSource) :
    componentRefs (buildCbomDocument floatRepr src) = src.assets.map fun row => row.2.bomRef := by
  show (components floatRepr src (snapshotMigrationPlanItems src)).filterMap
    (fun component => text? (entry "bom-ref" component)) = _
  unfold components
  rw [List.filterMap_map]
  have href : ((fun component => text? (entry "bom-ref" component)) ∘ fun row : Id × Asset =>
      buildCbomComponent floatRepr src.db row.1 row.2
        ((migrationByAssetId (snapshotMigrationPlanItems src)).lookup row.1)) =
      some ∘ fun row : Id × Asset => row.2.bomRef := by
    funext row
    show text? (textJson row.2.bomRef) = some row.2.bomRef
    exact text?_textJson _
  rw [href, ← List.filterMap_map, List.filterMap_some]

theorem dependencyTable_document (src : CbomSource) :
    dependencyTable (buildCbomDocument floatRepr src) = dependencyRows src.assets src.edges := by
  show ((dependencyRows src.assets src.edges).map dependencyJson).filterMap
    (fun row => (text? (entry "ref" row)).map fun ref => (ref, textsOf (entry "dependsOn" row))) = _
  rw [List.filterMap_map]
  have hrow : ((fun row => (text? (entry "ref" row)).map fun ref =>
      (ref, textsOf (entry "dependsOn" row))) ∘ dependencyJson) = some := by
    funext row
    show (text? (textJson row.1)).map (fun ref => (ref, textsOf (textsJson row.2))) = some row
    rw [text?_textJson, textsOf_textsJson, Option.map_some]
  rw [hrow, List.filterMap_some]

/-- Two references are joined in the document where a dependency joins two such assets. -/
theorem dependsOn_document {src : CbomSource} (hinside : src.Inside) {a b : List Char} :
    DependsOn (buildCbomDocument floatRepr src) a b ↔
      ∃ source target, src.Edge source target ∧ src.HasRef source a ∧ src.HasRef target b := by
  unfold DependsOn
  rw [dependencyTable_document]
  constructor
  · intro h
    obtain ⟨targets, hrow, hmem⟩ := h
    obtain ⟨-, -, rfl⟩ := mem_dependencyRows.mp hrow
    rw [mem_sortedRefs, List.mem_dedup, List.mem_map] at hmem
    obtain ⟨edge, hedge, rfl⟩ := hmem
    obtain ⟨hmem, heq⟩ := List.mem_filter.mp hedge
    obtain rfl := of_decide_eq_true heq
    obtain ⟨source, target, asset, other, hjoin, hasset, hother, ha, hb⟩ := mem_edges.mp hmem
    obtain ⟨⟨ref, hsource⟩, ref', htarget⟩ := hinside source target hjoin
    have href : ref = edge.1 := by
      obtain ⟨found, hfound, -, rfl⟩ := hsource
      rw [hasset, Option.some.injEq] at hfound
      rw [← hfound, ha]
    have href' : ref' = edge.2 := by
      obtain ⟨found, hfound, -, rfl⟩ := htarget
      rw [hother, Option.some.injEq] at hfound
      rw [← hfound, hb]
    exact ⟨source, target, hjoin, href ▸ hsource, href' ▸ htarget⟩
  · intro h
    obtain ⟨source, target, hjoin, ⟨asset, hasset, hsnapshot, rfl⟩, other, hother, -, rfl⟩ := h
    have hedge : (asset.bomRef, other.bomRef) ∈ src.edges :=
      mem_edges.mpr ⟨source, target, asset, other, hjoin, hasset, hother, rfl, rfl⟩
    refine ⟨_, mem_dependencyRows.mpr ⟨List.mem_map.mpr ⟨(source, asset), ?_, rfl⟩,
      ⟨_, hedge⟩, rfl⟩, ?_⟩
    · exact mem_assets.mpr ⟨hasset, hsnapshot⟩
    · rw [mem_sortedRefs, List.mem_dedup, List.mem_map]
      exact ⟨(asset.bomRef, other.bomRef), List.mem_filter.mpr ⟨hedge, decide_eq_true rfl⟩, rfl⟩

/-- Following `dependsOn` from a component leads to the components of the assets that the rows lead
to, and to no other. -/
theorem dependsOn_reaches {src : CbomSource} (hunique : src.UniqueRefs) (hinside : src.Inside)
    {source target : Id} {a b : List Char} (ha : src.HasRef source a) (hb : src.HasRef target b) :
    Relation.ReflTransGen (DependsOn (buildCbomDocument floatRepr src)) a b ↔
      Relation.ReflTransGen src.Edge source target := by
  constructor
  · intro h
    -- along the way every reference is that of an asset the rows lead to
    have hway : ∃ id, src.HasRef id b ∧ Relation.ReflTransGen src.Edge source id := by
      clear hb
      induction h with
      | refl => exact ⟨source, ha, .refl⟩
      | tail _ hstep ih =>
          obtain ⟨id, hid, hpath⟩ := ih
          obtain ⟨from', to', hedge, hfrom, hto⟩ := (dependsOn_document floatRepr hinside).mp hstep
          obtain rfl := hunique _ _ _ hid hfrom
          exact ⟨to', hto, hpath.tail hedge⟩
    obtain ⟨id, hid, hpath⟩ := hway
    exact hunique _ _ _ hid hb ▸ hpath
  · intro h
    induction h generalizing b with
    | refl =>
        rw [HasRef.unique ha hb]
    | @tail middle last _ hstep ih =>
        obtain ⟨⟨ref, href⟩, -⟩ := hinside _ _ hstep
        exact (ih href).tail
          ((dependsOn_document floatRepr hinside).mpr ⟨middle, last, hstep, href, hb⟩)

omit [PyText] in
theorem nodup_assetIds (src : CbomSource) : (src.assets.map Prod.fst).Nodup := by
  have hnodup := Table.nodup_ids src.db.assets fun asset => asset.snapshot == some src.snapshotId
  refine List.Nodup.sublist ?_ hnodup
  unfold CbomSource.assets
  generalize (src.db.assets.ids fun asset => asset.snapshot == some src.snapshotId) = ids
  induction ids with
  | nil => exact List.Sublist.refl _
  | cons id ids ih =>
      rw [List.filterMap_cons]
      cases src.db.assets.find? id with
      | none => exact ih.cons _
      | some asset => exact ih.cons_cons _

omit [PyText] in
theorem nodup_componentRefs {src : CbomSource} (hunique : src.UniqueRefs) :
    (src.assets.map fun row => row.2.bomRef).Nodup := by
  have hids := nodup_assetIds src
  rw [List.Nodup, List.pairwise_map] at hids ⊢
  refine hids.imp_of_mem fun {x y} hx hy hne heq => hne ?_
  obtain ⟨hfind, hsnapshot⟩ := mem_assets.mp hx
  obtain ⟨hfind', hsnapshot'⟩ := mem_assets.mp hy
  exact hunique _ _ _ ⟨x.2, hfind, hsnapshot, rfl⟩ ⟨y.2, hfind', hsnapshot', heq.symm⟩

/-- The document's graph is a copy of the snapshot's: one component for each asset, no reference
twice, every dependency row about a component, sorted and without repetition, and the same paths. -/
theorem cbom_dependency_graph (src : CbomSource) (hunique : src.UniqueRefs)
    (hinside : src.Inside) :
    let document := buildCbomDocument floatRepr src
    (componentRefs document).Nodup ∧
    (∀ ref, ref ∈ componentRefs document ↔ ∃ id, src.HasRef id ref) ∧
    ((dependencyTable document).map Prod.fst).Sublist (componentRefs document) ∧
    (∀ row ∈ dependencyTable document, row.2 ≠ [] ∧ row.2.Pairwise (· < ·) ∧
      row.2 ⊆ componentRefs document) ∧
    ∀ source target a b, src.HasRef source a → src.HasRef target b →
      (DependsOn document a b ↔ src.Edge source target) ∧
      (Relation.ReflTransGen (DependsOn document) a b ↔
        Relation.ReflTransGen src.Edge source target) := by
  intro document
  have hrefs : componentRefs document = src.assets.map fun row => row.2.bomRef :=
    componentRefs_document floatRepr src
  have hmem : ∀ ref, ref ∈ componentRefs document ↔ ∃ id, src.HasRef id ref := by
    intro ref
    rw [hrefs, List.mem_map]
    constructor
    · intro h
      obtain ⟨row, hrow, rfl⟩ := h
      obtain ⟨hfind, hsnapshot⟩ := mem_assets.mp hrow
      exact ⟨row.1, row.2, hfind, hsnapshot, rfl⟩
    · intro h
      obtain ⟨id, asset, hfind, hsnapshot, rfl⟩ := h
      exact ⟨(id, asset), mem_assets.mpr ⟨hfind, hsnapshot⟩, rfl⟩
  -- each component stands for one asset, so an edge between references is one of assets
  have hedge : ∀ source target a b, src.HasRef source a → src.HasRef target b →
      (DependsOn document a b ↔ src.Edge source target) := by
    intro source target a b ha hb
    rw [dependsOn_document floatRepr hinside]
    constructor
    · intro h
      obtain ⟨from', to', hjoin, hfrom, hto⟩ := h
      rw [hunique _ _ _ ha hfrom, hunique _ _ _ hb hto]
      exact hjoin
    · exact fun h => ⟨source, target, h, ha, hb⟩
  refine ⟨hrefs ▸ nodup_componentRefs hunique, hmem, ?_, ?_, ?_⟩
  · rw [hrefs]
    show ((dependencyTable (buildCbomDocument floatRepr src)).map Prod.fst).Sublist _
    rw [dependencyTable_document]
    exact dependencyRows_refs _ _
  · intro row hrow
    have hin : row ∈ dependencyRows src.assets src.edges := by
      rw [← dependencyTable_document floatRepr src]
      exact hrow
    obtain ⟨-, ⟨b, hb⟩, htargets⟩ := mem_dependencyRows.mp (show (row.1, row.2) ∈ _ from hin)
    refine ⟨?_, ?_, ?_⟩
    -- a row is written only where some dependency starts
    · have hlisted : b ∈ row.2 := by
        rw [htargets, mem_sortedRefs, List.mem_dedup, List.mem_map]
        exact ⟨(row.1, b), List.mem_filter.mpr ⟨hb, decide_eq_true rfl⟩, rfl⟩
      exact List.ne_nil_of_mem hlisted
    · rw [htargets]
      exact sortedRefs_strict _
    · intro ref href
      obtain ⟨-, target, -, -, htarget⟩ :=
        (dependsOn_document floatRepr hinside).mp ⟨row.2, hrow, href⟩
      exact (hmem ref).mpr ⟨target, htarget⟩
  · intro source target a b ha hb
    exact ⟨hedge source target a b ha hb, dependsOn_reaches floatRepr hunique hinside ha hb⟩

end

/-! ## 5. A snapshot with one dependency -/

def certificateWithKey : CbomSource where
  snapshotId := 0
  scanJob := none
  serialNumber := "urn:uuid:0".toList
  createdAt := "2026-01-01T00:00:00Z".toList
  db :=
    { assets := (Table.empty.insert (exampleAsset "www" "certificate" "RSA-2048" "RSA")).insert
        (exampleAsset "www.key" "key" "RSA-2048" "RSA") }
  dependencies := Table.empty.insert { snapshot := 0, sourceAsset := 0, targetAsset := 1 }
  plan := []

theorem hasRef_certificateWithKey {id : Nat} {ref : List Char}
    (h : certificateWithKey.HasRef id ref) :
    id = 0 ∧ ref = "www".toList ∨ id = 1 ∧ ref = "www.key".toList := by
  obtain ⟨asset, hfind, -, rfl⟩ := h
  have hid : id < 2 := Table.lt_nextId hfind
  obtain rfl | rfl : id = 0 ∨ id = 1 := by omega
  · cases hfind
    exact .inl ⟨rfl, rfl⟩
  · cases hfind
    exact .inr ⟨rfl, rfl⟩

theorem certificateWithKey_unique : certificateWithKey.UniqueRefs := by
  intro id id' ref h h'
  rcases hasRef_certificateWithKey h with ⟨rfl, hw⟩ | ⟨rfl, hw⟩ <;>
    rcases hasRef_certificateWithKey h' with ⟨rfl, hw'⟩ | ⟨rfl, hw'⟩
  · rfl
  · exact absurd (hw.symm.trans hw') (by decide)
  · exact absurd (hw.symm.trans hw') (by decide)
  · rfl

theorem certificateWithKey_exported :
    (@componentRefs (@buildCbomDocument asciiText (fun _ => []) certificateWithKey)).Nodup ∧
      DependsOn (@buildCbomDocument asciiText (fun _ => []) certificateWithKey)
        "www".toList "www.key".toList := by
  let := asciiText
  have hwww : certificateWithKey.HasRef 0 "www".toList := ⟨_, rfl, rfl, rfl⟩
  have hkey : certificateWithKey.HasRef 1 "www.key".toList := ⟨_, rfl, rfl, rfl⟩
  have hinside : certificateWithKey.Inside := by
    intro source target h
    obtain ⟨id, row, hrow, -, rfl, rfl⟩ := h
    have hid : id < 1 := Table.lt_nextId hrow
    obtain rfl : id = 0 := by omega
    cases hrow
    exact ⟨⟨_, hwww⟩, _, hkey⟩
  obtain ⟨hnodup, -, -, -, hpaths⟩ :=
    cbom_dependency_graph (fun _ => []) certificateWithKey certificateWithKey_unique hinside
  exact ⟨hnodup, (hpaths 0 1 _ _ hwww hkey).1.mpr ⟨0, _, rfl, rfl, rfl, rfl⟩⟩

end CryptoScanner.Snapshots
