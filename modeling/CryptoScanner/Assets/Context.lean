import CryptoScanner.Jobs.Services

/-!
# The context of an asset

What an operator overrides for one asset, and the context that the risk engine is given.
-/

namespace CryptoScanner

open RiskEngine

/-! ## 1. Overrides -/

/-- `AssetContextOverride.save`: an empty list of keys is filled in from the values. -/
def AssetContextOverride.save (row : AssetContextOverride) : AssetContextOverride :=
  if row.overrideKeys = [] then
    { row with overrideKeys := contextFields.filter fun field => (row.value field).isSome }
  else row

/-- The row that `get_or_create` inserts. -/
def AssetContextOverride.blank (asset : Id) : AssetContextOverride :=
  AssetContextOverride.save { asset, value := emptyContext, overrideKeys := [] }

/-- `payload.model_dump(exclude_unset=True)`; a field that is sent may be null. -/
abbrev AssetContextPatch := (field : ContextField) → Option (Option field.Value)

/-- The keys in the order of `sorted`. -/
def sortedContextFields : List ContextField :=
  [.criticality, .exposure, .lifespanYears, .sensitivity, .serviceRole]

/-- What `patch_asset_context` makes of the row it has read. -/
def applyPatch (patch : AssetContextPatch) (row : AssetContextOverride) : AssetContextOverride :=
  AssetContextOverride.save
    { row with
      value := fun field => (patch field).getD (row.value field)
      overrideKeys := sortedContextFields.filter fun field =>
        match patch field with
        | none => decide (field ∈ row.overrideKeys)
        | some value => value.isSome }

def overrideToDict (override : Option AssetContextOverride) : Context :=
  match override with
  | none => emptyContext
  | some row => fun field => if field ∈ row.overrideKeys then row.value field else none

/-- The keys of a row are the fields that have a value. -/
def AssetContextOverride.Listed (row : AssetContextOverride) : Prop :=
  ∀ field, field ∈ row.overrideKeys ↔ (row.value field).isSome = true

theorem mem_sortedContextFields (field : ContextField) : field ∈ sortedContextFields := by
  cases field <;> decide

@[simp] theorem save_value (row : AssetContextOverride) : row.save.value = row.value := by
  unfold AssetContextOverride.save
  split <;> rfl

@[simp] theorem save_asset (row : AssetContextOverride) : row.save.asset = row.asset := by
  unfold AssetContextOverride.save
  split <;> rfl

@[simp] theorem applyPatch_value (patch : AssetContextPatch) (row : AssetContextOverride)
    (field : ContextField) :
    (applyPatch patch row).value field = (patch field).getD (row.value field) := by
  rw [applyPatch, save_value]

@[simp] theorem applyPatch_asset (patch : AssetContextPatch) (row : AssetContextOverride) :
    (applyPatch patch row).asset = row.asset := by
  rw [applyPatch, save_asset]

theorem listed_save_of_nil {row : AssetContextOverride} (h : row.overrideKeys = []) :
    row.save.Listed := by
  intro field
  rw [AssetContextOverride.save, if_pos h]
  simp [mem_contextFields]

theorem blank_listed (asset : Id) : (AssetContextOverride.blank asset).Listed :=
  listed_save_of_nil rfl

/-- A request keeps the keys in step with the values. -/
theorem applyPatch_listed (patch : AssetContextPatch) {row : AssetContextOverride}
    (h : row.Listed) : (applyPatch patch row).Listed := by
  unfold applyPatch AssetContextOverride.save
  dsimp only
  split
  · intro field
    simp [mem_contextFields]
  · intro field
    rw [List.mem_filter]
    cases hpatch : patch field with
    | none => simp [mem_sortedContextFields, h field, hpatch]
    | some value => simp [mem_sortedContextFields, hpatch]

/-- In such a row every value counts as an override. -/
theorem overrideToDict_of_listed {row : AssetContextOverride} (h : row.Listed) :
    overrideToDict (some row) = row.value := by
  funext field
  show (if field ∈ row.overrideKeys then row.value field else none) = row.value field
  by_cases hmem : field ∈ row.overrideKeys
  · rw [if_pos hmem]
  · rw [if_neg hmem]
    rw [h field, Option.isSome_iff_ne_none, not_not] at hmem
    exact hmem.symm

/-! ## 2. The effective context -/

def targetContext (target : Option Target) : Context :=
  match target with
  | none => emptyContext
  | some target => target.context.field

def effectiveContext (target : Option Target) (override : Option AssetContextOverride) : Context :=
  fun field =>
    match overrideToDict override field with
    | some value => some value
    | none => targetContext target field

def contextSources (target : Option Target) (override : Option AssetContextOverride)
    (field : ContextField) : ContextSource :=
  if (overrideToDict override field).isSome then .assetOverride
  else if (targetContext target field).isSome then .target
  else .heuristic

/-! ## 3. `PATCH /assets/{id}/context` -/

def assetRecompute (assetId : Id) : RecomputeRequest :=
  { assetId := some assetId
    targetId := none
    snapshotId := none
    weights := none
    persistWeightsAsDefault := false }

/-- The override row that `get_or_create` finds or inserts, patched and saved. -/
def saveOverride (db : Database) (assetId : Id) (patch : AssetContextPatch) : Database :=
  match db.overrides.first? fun row => row.asset == assetId with
  | some id => { db with overrides := db.overrides.modify id (applyPatch patch) }
  | none => { db with overrides := db.overrides.insert (applyPatch patch (.blank assetId)) }

/-- `patch_asset_context` as one transaction. -/
def patchAssetContext (db : Database) (assetId : Id) (patch : AssetContextPatch) (now : Time) :
    Option Database :=
  match db.assets.find? assetId with
  | none => none
  | some _ =>
      some (Jobs.createRecomputeJob (saveOverride db assetId patch) (assetRecompute assetId) now)

end CryptoScanner
