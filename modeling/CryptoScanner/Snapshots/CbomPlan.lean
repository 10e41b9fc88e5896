import CryptoScanner.Risk.ScoreRows
import CryptoScanner.Snapshots.CbomGraph

/-!
# The migration plan of the exported document

The plan stands in the document twice: as properties of the components, and as a JSON text in an
annotation.  Both are made from the scores of the snapshot, and the page of an asset makes its
component from the latest score of the asset.
-/

namespace CryptoScanner.Snapshots

open Library Python RiskEngine MigrationEngine Risk
open Llm (textsJson readable_textsJson)

/-! ## 1. The rows -/

/-- An asset has one score, and a score belongs to the snapshot of its asset. -/
structure ScoredOnce (db : Database) : Prop where
  one : OneScore db
  own : ∀ id score, db.scores.find? id = some score →
    ∃ asset, db.assets.find? score.asset = some asset ∧ asset.snapshot = score.snapshot

structure CbomSource.Scored (src : CbomSource) : Prop extends ScoredOnce src.db where
  answers : src.plan.Perm src.scores

section

variable [PyText] {src : CbomSource}

omit [PyText] in
theorem mem_plan (h : src.Scored) {id : Id} :
    id ∈ src.plan ↔ ∃ score, src.db.scores.find? id = some score ∧
      score.snapshot = some src.snapshotId := by
  rw [h.answers.mem_iff, CbomSource.scores, Table.mem_ids]
  simp only [beq_iff_eq]

theorem planItem_eq_some {db : Database} {id : Id} {item : MigrationItem} :
    planItem db id = some item ↔ ∃ score asset, db.scores.find? id = some score ∧
      db.assets.find? score.asset = some asset ∧
      recommendForRiskScore score asset (targetOf db asset) = item := by
  unfold planItem
  simp only [Option.bind_eq_bind, Option.bind_eq_some_iff]
  constructor
  · intro h
    obtain ⟨score, hscore, asset, hasset, hitem⟩ := h
    cases hitem
    exact ⟨score, asset, hscore, hasset, rfl⟩
  · intro h
    obtain ⟨score, asset, hscore, hasset, rfl⟩ := h
    exact ⟨score, hscore, asset, hasset, rfl⟩

/-- The item of a score is about the asset of the score. -/
theorem assetId_of_planItem {db : Database} {id : Id} {item : MigrationItem}
    (h : planItem db id = some item) :
    ∃ score, db.scores.find? id = some score ∧ score.asset = item.assetId := by
  obtain ⟨score, asset, hscore, -, rfl⟩ := planItem_eq_some.mp h
  exact ⟨score, hscore, rfl⟩

theorem nodup_planAssets (h : src.Scored) :
    ((snapshotMigrationPlanItems src).map MigrationItem.assetId).Nodup := by
  have hplan : src.plan.Nodup := h.answers.nodup_iff.mpr (Table.nodup_ids _ _)
  unfold snapshotMigrationPlanItems
  rw [List.Nodup, List.pairwise_map, List.pairwise_filterMap]
  refine hplan.imp fun {id id'} hne item hitem item' hitem' heq => hne ?_
  obtain ⟨score, hscore, hasset⟩ := assetId_of_planItem hitem
  obtain ⟨score', hscore', hasset'⟩ := assetId_of_planItem hitem'
  exact h.one id id' score score' hscore hscore' (by rw [hasset, heq, hasset'])

omit [PyText] in
theorem latestScore_eq_some (hone : OneScore src.db) {assetId : Id} {score : RiskScore} :
    latestScore src.db assetId = some score ↔
      ∃ id, src.db.scores.find? id = some score ∧ score.asset = assetId := by
  unfold latestScore
  rw [Option.bind_eq_some_iff]
  constructor
  · intro h
    obtain ⟨id, hlast, hfind⟩ := h
    have hmem : id ∈ src.db.scores.ids fun score => score.asset == assetId :=
      List.mem_of_getLast? hlast
    obtain ⟨found, hfound, hasset⟩ := Table.mem_ids.mp hmem
    rw [hfind, Option.some.injEq] at hfound
    exact ⟨id, hfind, hfound ▸ beq_iff_eq.mp hasset⟩
  · intro h
    obtain ⟨id, hfind, hasset⟩ := h
    have hmem : id ∈ src.db.scores.ids fun score => score.asset == assetId :=
      Table.mem_ids.mpr ⟨score, hfind, beq_iff_eq.mpr hasset⟩
    obtain ⟨last, hlast⟩ : ∃ last, src.db.scores.last? (fun score => score.asset == assetId) =
        some last := by
      apply Option.ne_none_iff_exists'.mp
      intro hnone
      rw [Table.last?, List.getLast?_eq_none_iff] at hnone
      rw [hnone] at hmem
      cases hmem
    obtain ⟨found, hfound, hlastAsset⟩ := Table.mem_ids.mp (List.mem_of_getLast? hlast)
    have hsame : last = id :=
      hone last id found score hfound hfind ((beq_iff_eq.mp hlastAsset).trans hasset.symm)
    exact ⟨last, hlast, hsame ▸ hfind⟩

theorem lookup_migrationByAssetId (h : src.Scored) {assetId : Nat} {item : MigrationItem} :
    (migrationByAssetId (snapshotMigrationPlanItems src)).lookup assetId = some item ↔
      item ∈ snapshotMigrationPlanItems src ∧ item.assetId = assetId := by
  have hkeys : (((snapshotMigrationPlanItems src).map fun item =>
      (item.assetId, item)).map Prod.fst).Nodup := by
    rw [List.map_map]
    exact nodup_planAssets h
  unfold migrationByAssetId
  rw [Dict.lookup_update hkeys]
  show (List.lookup assetId _).or none = _ ↔ _
  rw [Option.or_none, ← Dict.mem_iff_lookup hkeys, List.mem_map]
  constructor
  · intro hmem
    obtain ⟨other, hother, heq⟩ := hmem
    obtain ⟨hid, rfl⟩ := Prod.mk.inj heq
    exact ⟨hother, hid⟩
  · intro hitem
    exact ⟨item, hitem.1, Prod.ext hitem.2 rfl⟩

/-- The item of an asset in the plan is the one that its latest score gives. -/
theorem lookup_plan_eq (h : src.Scored) {row : Id × Asset} (hrow : row ∈ src.assets) :
    (migrationByAssetId (snapshotMigrationPlanItems src)).lookup row.1 =
      (latestScore src.db row.1).map fun score =>
        recommendForRiskScore score row.2 (targetOf src.db row.2) := by
  obtain ⟨hfind, hsnapshot⟩ := mem_assets.mp hrow
  ext item
  rw [lookup_migrationByAssetId h, Option.map_eq_some_iff]
  constructor
  · intro hmem
    obtain ⟨hitem, hid⟩ := hmem
    obtain ⟨id, -, hitem⟩ := List.mem_filterMap.mp hitem
    obtain ⟨score, asset, hscore, hasset, rfl⟩ := planItem_eq_some.mp hitem
    have hscored : score.asset = row.1 := hid
    rw [hscored, hfind, Option.some.injEq] at hasset
    subst hasset
    exact ⟨score, (latestScore_eq_some h.one).mpr ⟨id, hscore, hscored⟩, rfl⟩
  · intro hlatest
    obtain ⟨score, hscore, rfl⟩ := hlatest
    obtain ⟨id, hid, hasset⟩ := (latestScore_eq_some h.one).mp hscore
    obtain ⟨asset, howner, hown⟩ := h.own id score hid
    rw [hasset, hfind, Option.some.injEq] at howner
    subst howner
    have hplan : id ∈ src.plan := (mem_plan h).mpr ⟨score, hid, hown ▸ hsnapshot⟩
    exact ⟨List.mem_filterMap.mpr ⟨id, hplan,
      planItem_eq_some.mpr ⟨score, row.2, hid, hasset ▸ hfind, rfl⟩⟩, hasset⟩

/-! ## 2. The components -/

variable (floatRepr : PyFloat → List Char)

/-- The components of the document are those that the pages of the assets show. -/
theorem components_eq_pages (h : src.Scored) :
    elements (entry "components" (buildCbomDocument floatRepr src)) =
      src.assets.map fun row => buildEnrichedAssetComponent floatRepr src.db row.1 row.2 := by
  show components floatRepr src (snapshotMigrationPlanItems src) = _
  unfold components
  apply List.map_congr_left
  intro row hrow
  show buildCbomComponent floatRepr src.db row.1 row.2 _ = _
  rw [lookup_plan_eq h hrow]
  rfl

def propertyOf (name : String) (component : Json) : Option (List Char) :=
  ((elements (entry "properties" component)).find? fun property =>
    entry "name" property == .str name).bind fun property => text? (entry "value" property)

omit [PyText] in
theorem propertyOf_of_entry {component : Json} {entries : List (String × List Char)}
    (h : entry "properties" component = propertiesJson entries) (name : String) :
    propertyOf name component = entries.lookup name := by
  unfold propertyOf
  rw [h]
  show (((entries.map propertyJson).find? _).bind _) = _
  induction entries generalizing component with
  | nil => rfl
  | cons item entries ih =>
      rw [List.map_cons, List.find?_cons, List.lookup_cons]
      have hname : (entry "name" (propertyJson item) == .str name) = (name == item.1) := by
        show ((Json.str item.1) == .str name) = _
        rw [Bool.eq_iff_iff, beq_iff_eq, beq_iff_eq, Json.str.injEq]
        exact eq_comm
      rw [hname]
      cases name == item.1 with
      | false => exact @ih (.dict [("properties", propertiesJson entries)]) rfl
      | true =>
          show text? (textJson item.2) = some item.2
          exact text?_textJson item.2

/-- The names of the properties that are not of the plan do not begin as those of the plan. -/
def Elsewhere (name : String) : Prop := name.toList.head? ≠ some 'm'

instance (name : String) : Decidable (Elsewhere name) :=
  inferInstanceAs (Decidable (name.toList.head? ≠ some 'm'))

theorem elsewhere_metadata (metadata : Json) {item : String × List Char}
    (h : item ∈ assetMetadataProperties floatRepr metadata) : Elsewhere item.1 := by
  have hkeys : ∀ key ∈ safeKeys, Elsewhere key.2 := by decide
  unfold assetMetadataProperties at h
  split at h
  · obtain ⟨key, hkey, hitem⟩ := List.mem_filterMap.mp h
    split at hitem
    · cases hitem
    · cases hitem
    · cases hitem
      exact hkeys key hkey
  · cases h

theorem elsewhere_inference (inference : Option Json) {item : String × List Char}
    (h : item ∈ inferenceProperties floatRepr inference) : Elsewhere item.1 := by
  have hkeys : ∀ key ∈ inferenceKeys, Elsewhere ("context.homepage." ++ key) := by decide
  unfold inferenceProperties at h
  split at h
  · obtain ⟨key, hkey, hitem⟩ := List.mem_filterMap.mp h
    split at hitem
    · cases hitem
    · split at hitem
      · cases hitem
      · cases hitem
        exact hkeys key hkey
  · cases h

theorem elsewhere_context (target : Option Target) {item : String × List Char}
    (h : item ∈ targetContextProperties floatRepr target) : Elsewhere item.1 := by
  have hkeys : ∀ field ∈ exportedFields, Elsewhere ("context." ++ fieldName field) := by decide
  unfold targetContextProperties at h
  split at h
  · cases h
  · rcases List.mem_append.mp h with hfield | hinference
    · obtain ⟨field, hmem, hitem⟩ := List.mem_filterMap.mp hfield
      obtain ⟨value, -, rfl⟩ := Option.map_eq_some_iff.mp hitem
      exact hkeys field hmem
    · exact elsewhere_inference floatRepr _ hinference

omit [PyText] in
theorem elsewhere_risk (score : Option RiskScore) {item : String × List Char}
    (h : item ∈ riskProperties score) : Elsewhere item.1 := by
  unfold riskProperties at h
  split at h
  · cases h
  · rw [List.mem_cons, List.mem_singleton] at h
    rcases h with rfl | rfl
    · show Elsewhere "risk.tier"
      decide
    · show Elsewhere "risk.score"
      decide

omit [PyText] in
theorem lookup_append_of_elsewhere {before : List (String × List Char)}
    (h : ∀ item ∈ before, Elsewhere item.1) (after : List (String × List Char)) {name : String}
    (hname : ¬ Elsewhere name) : (before ++ after).lookup name = after.lookup name := by
  rw [List.lookup_append]
  have hnone : before.lookup name = none := by
    rw [List.lookup_eq_none_iff]
    intro item hitem
    rw [bne_iff_ne]
    intro heq
    exact hname (heq ▸ h item hitem)
  rw [hnone, Option.none_or]

/-- A component says of the plan what the item of its asset says. -/
theorem propertyOf_component (db : Database) (assetId : Id) (asset : Asset)
    (item : Option MigrationItem) {name : String} (hname : ¬ Elsewhere name) :
    propertyOf name (buildCbomComponent floatRepr db assetId asset item) =
      (item.toList.flatMap (migrationPlanComponentProperties floatRepr)).lookup name := by
  have hentries : entry "properties" (buildCbomComponent floatRepr db assetId asset item) =
      propertiesJson (componentProperties floatRepr db assetId asset item) := rfl
  rw [propertyOf_of_entry hentries]
  unfold componentProperties
  apply lookup_append_of_elsewhere _ _ hname
  intro entry hentry
  simp only [List.mem_append] at hentry
  rcases hentry with ((((htarget | hfamily) | hvulnerable) | hmetadata) | hcontext) | hrisk
  · obtain ⟨id, -, rfl⟩ := List.mem_map.mp htarget
    show Elsewhere "internal:target_id"
    decide
  · split at hfamily
    · cases hfamily
    · obtain rfl := List.mem_singleton.mp hfamily
      show Elsewhere "internal:algorithm_family"
      decide
  · obtain rfl := List.mem_singleton.mp hvulnerable
    show Elsewhere "internal:quantum_vulnerable"
    decide
  · exact elsewhere_metadata floatRepr _ hmetadata
  · exact elsewhere_context floatRepr _ hcontext
  · exact elsewhere_risk _ hrisk

/-! ## 3. The annotation -/

variable (limits : Limits)

/-- The text `migration_plan.items` of the annotation. -/
def attachedText (document : Json) : Option (List Char) :=
  (elements (entry "annotations" document)).head?.bind (propertyOf "migration_plan.items")

/-- `json.loads(text)`, for a text that is a list. -/
def readItems (text : List Char) : Option (List Json) :=
  match rawDecode limits text with
  | .ok (.list items, []) => some items
  | _ => none

/-- The plan that a reader of the document finds in the annotation. -/
def attachedPlan (document : Json) : Option (List Json) :=
  (attachedText document).bind (readItems limits)

omit [PyText] in
theorem nodup_attachmentMembers (item : MigrationItem) (ref : Option (List Char)) :
    ((attachmentMembers item ref).map Prod.fst).Nodup := by
  show ["asset_id", "bom_ref", "asset_name", "asset_type", "asset_purpose", "risk_score", "tier",
    "current_algorithm", "quantum_vulnerable", "strategy", "target_algorithm",
    "target_algorithm_set", "final_algorithm_set", "phase", "blockers", "validation",
    "agility_level", "agility_score"].Nodup
  decide

omit [PyText] in
theorem readable_attachment {item : MigrationItem} {ref : Option (List Char)} {depth : Nat}
    (hasset : (decimalText item.assetId).length ≤ limits.intDigits)
    (hrisk : (decimalText item.riskScore.natAbs).length ≤ limits.intDigits)
    (hagility : (decimalText item.agility.score).length ≤ limits.intDigits) :
    Readable floatRepr limits (depth + 2) (migrationPlanAttachmentItem item ref) := by
  have htext : ∀ text, Readable floatRepr limits (depth + 1) (textJson text) := by
    intro text
    rw [textJson, Readable]
    trivial
  have hint : ∀ n : Int, (decimalText n.natAbs).length ≤ limits.intDigits →
      Readable floatRepr limits (depth + 1) (.int n) := by
    intro n hn
    rw [Readable]
    exact hn
  have hbool : Readable floatRepr limits (depth + 1) (.bool item.current.quantumVulnerable) := by
    rw [Readable]
    trivial
  have href : Readable floatRepr limits (depth + 1) ((ref.map textJson).getD .null) := by
    cases ref with
    | none =>
        show Readable floatRepr limits (depth + 1) .null
        rw [Readable]
        trivial
    | some text => exact htext text
  rw [migrationPlanAttachmentItem, Readable, readableMembers_iff]
  refine ⟨nodup_attachmentMembers item ref, ?_⟩
  unfold attachmentMembers
  simp only [List.forall_mem_cons, List.not_mem_nil, false_imp_iff, implies_true, and_true]
  exact ⟨hint _ hasset, href, htext _, htext _, htext _, hint _ hrisk, htext _, htext _, hbool,
    htext _, htext _, readable_textsJson _ _, readable_textsJson _ _, htext _,
    readable_textsJson _ _, readable_textsJson _ _, htext _, hint _ hagility⟩

/-- The numbers of the plan are within the limits of the decoder. -/
def WithinLimits (items : List MigrationItem) : Prop :=
  3 ≤ limits.recursion ∧ ∀ item ∈ items,
    (decimalText item.assetId).length ≤ limits.intDigits ∧
    (decimalText item.riskScore.natAbs).length ≤ limits.intDigits ∧
    (decimalText item.agility.score).length ≤ limits.intDigits

/-- The ids of the scored assets are within the limits of the decoder, and the scores within
`risk_score_range`. -/
structure CbomSource.Readable (src : CbomSource) (limits : Limits) : Prop where
  recursion : 3 ≤ limits.recursion
  intDigits : 3 ≤ limits.intDigits
  rows : ∀ id score, src.db.scores.find? id = some score → score.snapshot = some src.snapshotId →
    (decimalText score.asset).length ≤ limits.intDigits ∧
      0 ≤ score.result.score ∧ score.result.score ≤ 100

theorem withinLimits_plan (hscored : src.Scored) (h : src.Readable limits) :
    WithinLimits limits (snapshotMigrationPlanItems src) := by
  have hhundred : ∀ n, n ≤ 100 → (decimalText n).length ≤ 3 := by decide
  refine ⟨h.recursion, ?_⟩
  intro item hitem
  obtain ⟨id, hid, hplan⟩ := List.mem_filterMap.mp hitem
  obtain ⟨score, hscore, hsnapshot⟩ := (mem_plan hscored).mp hid
  obtain ⟨score', asset, hscore', -, rfl⟩ := planItem_eq_some.mp hplan
  rw [hscore, Option.some.injEq] at hscore'
  subst hscore'
  obtain ⟨hasset, hlow, hhigh⟩ := h.rows id score hscore hsnapshot
  refine ⟨hasset, ?_, ?_⟩
  · show (decimalText score.result.score.natAbs).length ≤ limits.intDigits
    exact Nat.le_trans (hhundred _ (by omega)) h.intDigits
  · have hagility : (recommendForRiskScore score asset (targetOf src.db asset)).agility.score ≤ 100 :=
      Nat.le_trans (Nat.sub_le _ _) (Nat.min_le_left _ _)
    exact Nat.le_trans (hhundred _ hagility) h.intDigits

omit [PyText] in
theorem sortItems_eq_map (items : List Json) : sortItems items = items.map sortKeys := by
  induction items with
  | nil => rfl
  | cons item items ih => rw [sortItems, ih, List.map_cons]

omit [PyText] in
theorem readable_attachments {assets : List (Id × Asset)} {items : List MigrationItem}
    (h : WithinLimits limits items) :
    Readable floatRepr limits limits.recursion (.list (attachmentItems assets items)) := by
  obtain ⟨hdepth, hdigits⟩ := h
  obtain ⟨depth, hrecursion⟩ := Nat.exists_eq_add_of_le' hdepth
  rw [hrecursion, Readable]
  unfold attachmentItems
  clear hdepth
  induction items with
  | nil => trivial
  | cons item items ih =>
      obtain ⟨hasset, hrisk, hagility⟩ := hdigits item List.mem_cons_self
      exact ⟨readable_attachment floatRepr limits hasset hrisk hagility,
        ih fun other hother => hdigits other (List.mem_cons_of_mem _ hother)⟩

theorem attachedText_document (src : CbomSource) :
    attachedText (buildCbomDocument floatRepr src) =
      if snapshotMigrationPlanItems src = [] then none
      else some (dumpsSorted floatRepr
        (.list (attachmentItems src.assets (snapshotMigrationPlanItems src)))) := by
  have hannotations : elements (entry "annotations" (buildCbomDocument floatRepr src)) =
      migrationPlanAnnotations floatRepr src src.assets (snapshotMigrationPlanItems src) := by
    unfold buildCbomDocument
    dsimp only
    by_cases hnil : migrationPlanAnnotations floatRepr src src.assets
        (snapshotMigrationPlanItems src) = []
    · rw [if_pos hnil, hnil]
      rfl
    · rw [if_neg hnil]
      rfl
  unfold attachedText
  rw [hannotations]
  unfold migrationPlanAnnotations
  by_cases hnil : snapshotMigrationPlanItems src = []
  · rw [if_pos hnil, if_pos hnil]
    rfl
  · rw [if_neg hnil, if_neg hnil, List.head?_cons, Option.bind_some]
    have hentry : ∀ before : List (String × Json), before.lookup "properties" = none →
        entry "properties" (.dict (before ++ [("properties", propertiesJson
          (attachmentProperties floatRepr src.assets (snapshotMigrationPlanItems src)))])) =
          propertiesJson
            (attachmentProperties floatRepr src.assets (snapshotMigrationPlanItems src)) := by
      intro before hbefore
      show (List.lookup _ _).getD _ = _
      rw [List.lookup_append, hbefore, Option.none_or]
      rfl
    exact propertyOf_of_entry (hentry [_, _, _, _, _] rfl) _

omit [PyText] in
theorem readItems_dumpsSorted {items : List Json}
    (h : Readable floatRepr limits limits.recursion (.list items)) :
    readItems limits (dumpsSorted floatRepr (.list items)) = some (items.map sortKeys) := by
  have hend : Ends [] := fun c hc => by cases hc
  have hdecode := rawDecode_dumpsSorted h hend
  rw [List.append_nil, sortKeys, sortItems_eq_map] at hdecode
  unfold readItems
  rw [hdecode]

/-- The attached text is read back as the items, with their keys in order. -/
theorem attachedPlan_document
    (hlimits : WithinLimits limits (snapshotMigrationPlanItems src)) :
    attachedPlan limits (buildCbomDocument floatRepr src) =
      if snapshotMigrationPlanItems src = [] then none
      else some ((attachmentItems src.assets (snapshotMigrationPlanItems src)).map sortKeys) := by
  unfold attachedPlan
  rw [attachedText_document]
  by_cases hnil : snapshotMigrationPlanItems src = []
  · rw [if_pos hnil, if_pos hnil]
    rfl
  · rw [if_neg hnil, if_neg hnil, Option.bind_some,
      readItems_dumpsSorted floatRepr limits (readable_attachments floatRepr limits hlimits)]

/-! ## 4. The two renderings -/

/-- The keys of an attached item whose texts stand also in the component, and those of its sets. -/
def sharedTexts : List String :=
  ["asset_purpose", "strategy", "target_algorithm", "phase", "agility_level"]

def sharedSets : List String := ["target_algorithm_set", "final_algorithm_set"]

def SaysTheSame (component item : Json) : Prop :=
  (∀ key ∈ sharedTexts, propertyOf ("migration." ++ key) component = text? (entry key item)) ∧
  ∀ key ∈ sharedSets, propertyOf ("migration." ++ key) component =
    some (dumpsSorted floatRepr (entry key item))

omit [PyText] in
theorem entry_sortKeys {kvs : List (String × Json)} (h : (kvs.map Prod.fst).Nodup) (key : String) :
    entry key (sortKeys (.dict kvs)) = sortKeys (entry key (.dict kvs)) := by
  show ((sortMembers kvs).lookup key).getD .null = sortKeys ((kvs.lookup key).getD .null)
  rw [lookup_sortMembers h]
  cases kvs.lookup key <;> rfl

omit [PyText] in
theorem text?_sortKeys (value : Json) : text? (sortKeys value) = text? value := by
  cases value <;> rfl

omit [PyText] in
theorem sortKeys_textsJson (texts : List (List Char)) :
    sortKeys (textsJson texts) = textsJson texts := by
  show Json.list (sortItems _) = .list _
  rw [sortItems_eq_map, List.map_map]
  rfl

omit [PyText] in
theorem entry_attachment (item : MigrationItem) (ref : Option (List Char)) (key : String) :
    entry key (sortKeys (migrationPlanAttachmentItem item ref)) =
      sortKeys (entry key (migrationPlanAttachmentItem item ref)) := by
  exact entry_sortKeys (nodup_attachmentMembers item ref) key

theorem saysTheSame_of_item (db : Database) (assetId : Id) (asset : Asset) (item : MigrationItem)
    (ref : Option (List Char)) :
    SaysTheSame floatRepr (buildCbomComponent floatRepr db assetId asset (some item))
      (sortKeys (migrationPlanAttachmentItem item ref)) := by
  have hnames : ∀ key ∈ sharedTexts ++ sharedSets, ¬ Elsewhere ("migration." ++ key) := by decide
  have hproperty : ∀ key ∈ sharedTexts ++ sharedSets,
      propertyOf ("migration." ++ key) (buildCbomComponent floatRepr db assetId asset (some item)) =
        (migrationPlanComponentProperties floatRepr item).lookup ("migration." ++ key) := by
    intro key hkey
    rw [propertyOf_component floatRepr db assetId asset _ (hnames key hkey)]
    show (List.lookup _ (_ ++ [])) = _
    rw [List.append_nil]
  constructor
  · intro key hkey
    rw [hproperty key (List.mem_append_left _ hkey), entry_attachment, text?_sortKeys]
    unfold sharedTexts at hkey
    simp only [List.mem_cons, List.not_mem_nil, or_false] at hkey
    rcases hkey with rfl | rfl | rfl | rfl | rfl <;> exact (text?_textJson _).symm
  · intro key hkey
    rw [hproperty key (List.mem_append_right _ hkey), entry_attachment]
    unfold sharedSets at hkey
    simp only [List.mem_cons, List.not_mem_nil, or_false] at hkey
    rcases hkey with rfl | rfl
    · show some (dumpsSorted floatRepr _) = some (dumpsSorted floatRepr (sortKeys (textsJson _)))
      rw [sortKeys_textsJson]
    · show some (dumpsSorted floatRepr _) = some (dumpsSorted floatRepr (sortKeys (textsJson _)))
      rw [sortKeys_textsJson]

omit [PyText] in
theorem refOf_attachment (item : MigrationItem) (ref : Option (List Char)) :
    text? (entry "bom_ref" (sortKeys (migrationPlanAttachmentItem item ref))) = ref := by
  rw [entry_attachment, text?_sortKeys]
  cases ref with
  | none => rfl
  | some text => exact text?_textJson text

omit [PyText] in
theorem bomRefOf_eq_some {assetId : Nat} {ref : List Char} :
    bomRefOf src.assets assetId = some ref ↔ src.HasRef assetId ref := by
  unfold bomRefOf
  rw [Option.map_eq_some_iff]
  constructor
  · intro h
    obtain ⟨asset, hlookup, rfl⟩ := h
    obtain ⟨hfind, hsnapshot⟩ :=
      mem_assets.mp ((Dict.mem_iff_lookup (nodup_assetIds src) assetId asset).mpr hlookup)
    exact ⟨asset, hfind, hsnapshot, rfl⟩
  · intro h
    obtain ⟨asset, hfind, hsnapshot, rfl⟩ := h
    exact ⟨asset, (Dict.mem_iff_lookup (nodup_assetIds src) assetId asset).mp
      (mem_assets.mpr ⟨hfind, hsnapshot⟩), rfl⟩

/-- Every score of the snapshot has its item in the plan. -/
theorem length_plan (h : src.Scored) :
    (snapshotMigrationPlanItems src).length = src.scores.length := by
  rw [← h.answers.length_eq]
  unfold snapshotMigrationPlanItems
  have hall : ∀ id ∈ src.plan, (planItem src.db id).isSome := by
    intro id hid
    obtain ⟨score, hscore, -⟩ := (mem_plan h).mp hid
    obtain ⟨asset, hasset, -⟩ := h.own id score hscore
    rw [planItem_eq_some.mpr ⟨score, asset, hscore, hasset, rfl⟩]
    rfl
  generalize src.plan = plan at hall
  induction plan with
  | nil => rfl
  | cons id plan ih =>
      obtain ⟨item, hitem⟩ := Option.isSome_iff_exists.mp (hall id List.mem_cons_self)
      rw [List.filterMap_cons_some hitem, List.length_cons, List.length_cons,
        ih fun other hother => hall other (List.mem_cons_of_mem _ hother)]

/-- The attached text is there where the snapshot has scores, and is read back as one item for each.
A component has properties of the plan exactly where an item has its reference, and the two say the
same. -/
theorem cbom_migration_plan (src : CbomSource) (hunique : src.UniqueRefs) (hscored : src.Scored)
    (hread : src.Readable limits) :
    let document := buildCbomDocument floatRepr src
    (attachedPlan limits document = none ↔ src.scores = []) ∧
    ∀ items, attachedPlan limits document = some items →
      items.length = src.scores.length ∧
      ∀ component ∈ elements (entry "components" document), ∀ ref,
        text? (entry "bom-ref" component) = some ref →
        ((∃ item ∈ items, text? (entry "bom_ref" item) = some ref) ↔
          (propertyOf "migration.strategy" component).isSome) ∧
        ∀ item ∈ items, text? (entry "bom_ref" item) = some ref →
          SaysTheSame floatRepr component item := by
  intro document
  have hattached : attachedPlan limits document = _ :=
    attachedPlan_document floatRepr limits (withinLimits_plan limits hscored hread)
  have hlength := length_plan hscored
  constructor
  · have hempty : src.scores = [] ↔ snapshotMigrationPlanItems src = [] := by
      rw [← List.length_eq_zero_iff, ← hlength, List.length_eq_zero_iff]
    rw [hattached, hempty]
    by_cases hnil : snapshotMigrationPlanItems src = []
    · rw [if_pos hnil]
      exact iff_of_true rfl hnil
    · rw [if_neg hnil]
      exact iff_of_false (fun h => by cases h) hnil
  · intro items hitems
    obtain rfl : (attachmentItems src.assets (snapshotMigrationPlanItems src)).map sortKeys =
        items := by
      rw [hattached] at hitems
      split at hitems
      · cases hitems
      · exact Option.some.inj hitems
    unfold attachmentItems
    rw [List.map_map]
    refine ⟨by rw [List.length_map, hlength], ?_⟩
    intro component hcomponent ref href
    obtain ⟨row, hrow, rfl⟩ := List.mem_map.mp hcomponent
    have hown : row.2.bomRef = ref := by
      have htext : text? (textJson row.2.bomRef) = some ref := href
      rw [text?_textJson, Option.some.injEq] at htext
      exact htext
    obtain ⟨hfind, hsnapshot⟩ := mem_assets.mp hrow
    have hasset : src.HasRef row.1 ref := ⟨row.2, hfind, hsnapshot, hown⟩
    -- an item with the reference of the component is the one the component is made from
    have hlookup : ∀ item ∈ snapshotMigrationPlanItems src,
        text? (entry "bom_ref" (sortKeys (migrationPlanAttachmentItem item
          (bomRefOf src.assets item.assetId)))) = some ref →
        (migrationByAssetId (snapshotMigrationPlanItems src)).lookup row.1 = some item := by
      intro item hitem hitemRef
      rw [refOf_attachment, bomRefOf_eq_some] at hitemRef
      exact (lookup_migrationByAssetId hscored).mpr ⟨hitem, hunique _ _ _ hitemRef hasset⟩
    constructor
    · rw [propertyOf_component floatRepr _ _ _ _ (show ¬ Elsewhere "migration.strategy" by decide)]
      constructor
      · intro h
        obtain ⟨_, hmem, hitemRef⟩ := h
        obtain ⟨item, hitem, rfl⟩ := List.mem_map.mp hmem
        rw [hlookup item hitem hitemRef]
        rfl
      · intro h
        cases hitem : (migrationByAssetId (snapshotMigrationPlanItems src)).lookup row.1 with
        | none =>
            rw [hitem] at h
            cases h
        | some item =>
            obtain ⟨hmem, hid⟩ := (lookup_migrationByAssetId hscored).mp hitem
            refine ⟨_, List.mem_map_of_mem hmem, ?_⟩
            show text? (entry "bom_ref" (sortKeys (migrationPlanAttachmentItem item _))) = _
            rw [refOf_attachment, bomRefOf_eq_some, hid]
            exact hasset
    · intro _ hmem hitemRef
      obtain ⟨item, hitem, rfl⟩ := List.mem_map.mp hmem
      rw [hlookup item hitem hitemRef]
      exact saysTheSame_of_item floatRepr src.db row.1 row.2 item _

end

/-! ## 5. A scored certificate -/

/-- The certificate with its key, and a score of the certificate. -/
def scoredCertificate : CbomSource :=
  { certificateWithKey with
    db := { certificateWithKey.db with scores := Table.empty.insert exampleScore }
    plan := [0] }

theorem scoredCertificate_scored : scoredCertificate.Scored where
  one := by
    intro id id' score score' h h' _
    have hid : id < 1 := Table.lt_nextId h
    have hid' : id' < 1 := Table.lt_nextId h'
    exact (Nat.lt_one_iff.mp hid).trans (Nat.lt_one_iff.mp hid').symm
  own := by
    intro id score h
    have hid : id < 1 := Table.lt_nextId h
    obtain rfl := Nat.lt_one_iff.mp hid
    cases h
    exact ⟨_, rfl, rfl⟩
  answers := List.Perm.refl [0]

theorem scoredCertificate_attached : letI := asciiText
    ∃ items, attachedPlan ⟨3, 4300⟩ (buildCbomDocument (fun _ => []) scoredCertificate) =
      some items ∧ items.length = 1 := by
  let := asciiText
  have hread : scoredCertificate.Readable ⟨3, 4300⟩ := by
    refine ⟨by decide, by decide, ?_⟩
    intro id score h _
    have hid : id < 1 := Table.lt_nextId h
    obtain rfl := Nat.lt_one_iff.mp hid
    cases h
    decide
  obtain ⟨hnone, hsome⟩ := cbom_migration_plan (fun _ => []) ⟨3, 4300⟩ scoredCertificate
    certificateWithKey_unique scoredCertificate_scored hread
  have hscores : scoredCertificate.scores = [0] := rfl
  rw [hscores] at hnone hsome
  obtain ⟨items, hitems⟩ := Option.ne_none_iff_exists'.mp fun h =>
    absurd (hnone.mp h) (List.cons_ne_nil 0 [])
  exact ⟨items, hitems, (hsome items hitems).1⟩

end CryptoScanner.Snapshots
