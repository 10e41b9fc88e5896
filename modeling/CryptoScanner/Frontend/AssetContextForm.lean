import CryptoScanner.Assets.ContextHistory
import CryptoScanner.JavaScript.Number
import CryptoScanner.Llm.ContextSuggestion

/-!
# The form for the context of an asset

The form shows the effective context as texts and sends what an operator has changed.  Between the
loading of the form and its saving other requests and scans may change the context.
-/

namespace CryptoScanner.Frontend

open Library Python RiskEngine JavaScript Assets Risk

/-! ## 1. The form -/

abbrev AssetContextFormValues := ContextField → List Char

def lifespanError : String := "Lifespan years는 0 이상의 정수여야 합니다."

def validateAssetContextPatchValues (values : AssetContextFormValues) : Option String :=
  if values .lifespanYears = [] then none
  else if naturalOf (jsNumber (values .lifespanYears)) = none then some lifespanError
  else none

def yearsText (years : Option Nat) : List Char := (years.map decimalText).getD []

/-- `text === "" ? null : Number(text)`, once the text is valid. -/
def yearsOrNull (text : List Char) : Option Nat :=
  if text = [] then none else naturalOf (jsNumber text)

/-- The text of one value, as `assetContextToFormValues` puts it. -/
def formText : (field : ContextField) → Option field.Value → List Char
  | .lifespanYears, years => yearsText years
  | .sensitivity, text => Option.getD text []
  | .criticality, text => Option.getD text []
  | .exposure, text => Option.getD text []
  | .serviceRole, text => Option.getD text []

def assetContextToFormValues (context : Context) : AssetContextFormValues := fun field =>
  formText field (context field)

def textOrNull (text : List Char) : Option (List Char) := if text = [] then none else some text

def formValue : (field : ContextField) → List Char → Option field.Value
  | .lifespanYears, text => yearsOrNull text
  | .sensitivity, text => textOrNull text
  | .criticality, text => textOrNull text
  | .exposure, text => textOrNull text
  | .serviceRole, text => textOrNull text

def fieldPatch (initialValue : Context) (contextSources : ContextField → ContextSource)
    (values : AssetContextFormValues) (field : ContextField) : Option (Option field.Value) :=
  let nextValue := formValue field (values field)
  if nextValue = none ∧ contextSources field ≠ .assetOverride then none
  else if initialValue field ≠ nextValue then some nextValue
  else none

def buildAssetContextPatch (initialValue : Context) (values : AssetContextFormValues)
    (contextSources : ContextField → ContextSource) : Except String AssetContextPatch :=
  match validateAssetContextPatchValues values with
  | some validationError => .error validationError
  | none => .ok (fieldPatch initialValue contextSources values)

/-! ## 2. The values that the form shows faithfully -/

/-- No text is empty, and the years are an integer that a number holds exactly. -/
def Shown : (field : ContextField) → Option field.Value → Prop
  | .lifespanYears, years => ∀ n : Nat, years = some n → n ≤ maxSafeInteger
  | .sensitivity, text => text ≠ some []
  | .criticality, text => text ≠ some []
  | .exposure, text => text ≠ some []
  | .serviceRole, text => text ≠ some []

theorem textOrNull_getD {text : Option (List Char)} (h : text ≠ some []) :
    textOrNull (text.getD []) = text := by
  cases text with
  | none => rfl
  | some s => exact if_neg fun hnil => h (congrArg some hnil)

theorem yearsOrNull_yearsText {years : Option Nat} (h : ∀ n, years = some n → n ≤ maxSafeInteger) :
    yearsOrNull (yearsText years) = years := by
  cases years with
  | none => rfl
  | some n =>
      show (if decimalText n = [] then none else naturalOf (jsNumber (decimalText n))) = _
      rw [if_neg (decimalText_ne_nil n), jsNumber_decimalText (h n rfl), naturalOf_natCast]

theorem formValue_formText {field : ContextField} {value : Option field.Value}
    (h : Shown field value) : formValue field (formText field value) = value := by
  cases field with
  | lifespanYears => exact yearsOrNull_yearsText h
  | sensitivity => exact textOrNull_getD h
  | criticality => exact textOrNull_getD h
  | exposure => exact textOrNull_getD h
  | serviceRole => exact textOrNull_getD h

theorem validate_shown {context : Context} (h : Shown .lifespanYears (context .lifespanYears)) :
    validateAssetContextPatchValues (assetContextToFormValues context) = none := by
  have hread : yearsOrNull (yearsText (context .lifespanYears)) = context .lifespanYears :=
    yearsOrNull_yearsText h
  show (if yearsText (context .lifespanYears) = [] then none
    else if naturalOf (jsNumber (yearsText (context .lifespanYears))) = none then some lifespanError
      else none) = none
  by_cases hnil : yearsText (context .lifespanYears) = []
  · exact if_pos hnil
  · rw [if_neg hnil]
    unfold yearsOrNull at hread
    rw [if_neg hnil] at hread
    rw [hread]
    apply if_neg
    intro hnone
    have hempty : yearsText (context .lifespanYears) = yearsText none := congrArg yearsText hnone
    exact hnil hempty

/-- A field that was left as it was shown is not sent. -/
theorem fieldPatch_unedited {initialValue : Context} {contextSources : ContextField → ContextSource}
    {values : AssetContextFormValues} {field : ContextField}
    (hshown : Shown field (initialValue field))
    (h : values field = formText field (initialValue field)) :
    fieldPatch initialValue contextSources values field = none := by
  have hvalue : formValue field (values field) = initialValue field := by
    rw [h, formValue_formText hshown]
  unfold fieldPatch
  dsimp only
  split
  · rfl
  · exact if_neg (not_not.mpr hvalue.symm)

/-! ## 3. Saving -/

/-- What a request for the context of an asset does, whatever it sends. -/
structure Patched (db db' : Database) (assetId : Id) (patch : AssetContextPatch) : Prop where
  target : currentTarget db' assetId = currentTarget db assetId
  effective : ∀ field, effectiveContext (currentTarget db assetId) (overrideOf db' assetId) field =
    match patch field with
    | none => effectiveContext (currentTarget db assetId) (overrideOf db assetId) field
    | some none => targetContext (currentTarget db assetId) field
    | some (some value) => some value
  sources : ∀ field, contextSources (currentTarget db assetId) (overrideOf db' assetId) field =
    match patch field with
    | none => contextSources (currentTarget db assetId) (overrideOf db assetId) field
    | some none =>
        if (targetContext (currentTarget db assetId) field).isSome then .target else .heuristic
    | some (some _) => .assetOverride

theorem currentTarget_patchAssetContext {db db' : Database} {assetId : Id}
    {patch : AssetContextPatch} {now : Time} (h : patchAssetContext db assetId patch now = some db')
    (other : Id) : currentTarget db' other = currentTarget db other := by
  have hsaved : (saveOverride db assetId patch).assets = db.assets ∧
      (saveOverride db assetId patch).targets = db.targets := by
    unfold saveOverride
    split <;> exact ⟨rfl, rfl⟩
  unfold patchAssetContext at h
  split at h
  · cases h
  · cases h
    show ((saveOverride db assetId patch).assets.find? other).bind
      (fun asset => asset.target.bind (saveOverride db assetId patch).targets.find?) = _
    rw [hsaved.1, hsaved.2]
    rfl

theorem patched_patchAssetContext {db db' : Database} {assetId : Id} {patch : AssetContextPatch}
    {now : Time} {overrides : Context} (hstands : Stands (overrideOf db assetId) overrides)
    (h : patchAssetContext db assetId patch now = some db') : Patched db db' assetId patch := by
  have htarget := currentTarget_patchAssetContext h assetId
  have hoverride : overrideOf db' assetId =
      some (applyPatch patch ((overrideOf db assetId).getD (.blank assetId))) := by
    unfold patchAssetContext at h
    split at h
    · cases h
    · cases h
      have hjob := (createRecomputeJob_apart (saveOverride db assetId patch)
        (assetRecompute assetId) now).1.rows.overrides
      rw [overrideOf_congr hjob, overrideOf_saveOverride_self]
  have hafter : overrideToDict (overrideOf db' assetId) = patchOverrides patch overrides := by
    rw [hoverride]
    exact (stands_applyPatch hstands assetId patch).overrideToDict
  have hbefore := hstands.overrideToDict
  constructor
  · exact htarget
  · intro field
    unfold effectiveContext
    rw [hafter, hbefore]
    unfold patchOverrides
    cases patch field with
    | none => rfl
    | some value => cases value <;> rfl
  · intro field
    unfold contextSources
    rw [hafter, hbefore]
    unfold patchOverrides
    cases patch field with
    | none => rfl
    | some value => cases value <;> rfl

/-- What `GET /assets/..` returns as the effective context, and its sources. -/
def shownContext (db : Database) (assetId : Id) : Context :=
  effectiveContext (currentTarget db assetId) (overrideOf db assetId)

def shownSources (db : Database) (assetId : Id) : ContextField → ContextSource :=
  contextSources (currentTarget db assetId) (overrideOf db assetId)

theorem shownContext_of_override {db : Database} {assetId : Id} {field : ContextField}
    (h : shownSources db assetId field = .assetOverride) :
    shownContext db assetId field ≠ none := by
  unfold shownSources contextSources at h
  split_ifs at h with hoverride
  obtain ⟨value, hvalue⟩ := Option.isSome_iff_exists.mp hoverride
  unfold shownContext effectiveContext
  rw [hvalue]
  exact Option.some_ne_none value

/-- A field that was changed is what the form says, an override that was cleared gives way to the
target, and every other field is what it has become. -/
def afterSaving (initialValue : Context) (sources : ContextField → ContextSource)
    (values : AssetContextFormValues) (target current : Context) : Context := fun field =>
  let value := formValue field (values field)
  if value = initialValue field then current field
  else
    match value with
    | some value => some value
    | none => if sources field = .assetOverride then target field else current field

theorem afterSaving_eq (initialValue : Context) (sources : ContextField → ContextSource)
    (values : AssetContextFormValues) (target current : Context) (field : ContextField) :
    afterSaving initialValue sources values target current field =
      match fieldPatch initialValue sources values field with
      | none => current field
      | some none => target field
      | some (some value) => some value := by
  unfold afterSaving fieldPatch
  dsimp only
  generalize formValue field (values field) = value
  by_cases hsame : value = initialValue field
  · rw [if_pos hsame, if_neg (not_not.mpr hsame.symm), ite_self]
  · rw [if_neg hsame, if_pos (Ne.symm hsame)]
    cases value with
    | some value =>
        have hsent : ¬ (some value = none ∧ sources field ≠ .assetOverride) :=
          fun h => Option.some_ne_none value h.1
        rw [if_neg hsent]
    | none =>
        by_cases hsource : sources field = .assetOverride
        · have hsent : ¬ ((none : Option field.Value) = none ∧ sources field ≠ .assetOverride) :=
            fun h => h.2 hsource
          rw [if_neg hsent]
          exact if_pos hsource
        · have hsent : (none : Option field.Value) = none ∧ sources field ≠ .assetOverride :=
            ⟨rfl, hsource⟩
          rw [if_pos hsent]
          exact if_neg hsource

theorem patchAssetContext_eq_some {db : Database} {assetId : Id} {asset : Asset}
    (hasset : db.assets.find? assetId = some asset) (patch : AssetContextPatch) (now : Time) :
    ∃ db', patchAssetContext db assetId patch now = some db' := by
  unfold patchAssetContext
  rw [hasset]
  exact ⟨_, rfl⟩

/-- The request of a form, on the context as it has become. -/
theorem shownContext_of_form {loaded : Context} {sources : ContextField → ContextSource}
    {values : AssetContextFormValues} {db db' : Database} {assetId : Id} {overrides : Context}
    {now : Time} (hstands : Stands (overrideOf db assetId) overrides)
    (hsaved : patchAssetContext db assetId (fieldPatch loaded sources values) now = some db')
    (field : ContextField) :
    shownContext db' assetId field = afterSaving loaded sources values
      (targetContext (currentTarget db assetId)) (shownContext db assetId) field := by
  have heffect := patched_patchAssetContext hstands hsaved
  rw [afterSaving_eq]
  unfold shownContext
  rw [heffect.target]
  exact heffect.effective field

theorem buildAssetContextPatch_eq_ok {initialValue : Context} {values : AssetContextFormValues}
    {sources : ContextField → ContextSource} {patch : AssetContextPatch}
    (h : buildAssetContextPatch initialValue values sources = .ok patch) :
    patch = fieldPatch initialValue sources values := by
  unfold buildAssetContextPatch at h
  split at h
  · cases h
  · exact (Except.ok.inj h).symm

theorem stands_of_requests [PyText] {floatRepr : PyFloat → List Char} {db : Database}
    {as : List (Operation × Time)} (hrun : Run (operationStep floatRepr) anyStep {} as db)
    (assetId : Id) : ∃ overrides, Stands (overrideOf db assetId) overrides := by
  have hempty : Stands (overrideOf ({} : Database) assetId) emptyContext := rfl
  exact ⟨_, stands_of_run hrun hempty⟩

/-- **A saved form does what the operator sees**, whatever happens between its loading and its
saving: what was changed is as the form says, and what was left alone is neither sent nor pinned. -/
theorem saved_form_applies [PyText] {floatRepr : PyFloat → List Char} {loaded db : Database}
    {before meanwhile : List (Operation × Time)} {assetId : Id} {asset : Asset}
    {values : AssetContextFormValues} {patch : AssetContextPatch}
    (hbefore : Run (operationStep floatRepr) anyStep {} before loaded)
    (hmeanwhile : Run (operationStep floatRepr) anyStep loaded meanwhile db)
    (hasset : db.assets.find? assetId = some asset)
    (hbuilt : buildAssetContextPatch (shownContext loaded assetId) values
      (shownSources loaded assetId) = .ok patch) (now : Time) :
    ∃ db', patchAssetContext db assetId patch now = some db' ∧
      (∀ field, shownContext db' assetId field =
        afterSaving (shownContext loaded assetId) (shownSources loaded assetId) values
          (targetContext (currentTarget db assetId)) (shownContext db assetId) field) ∧
      ∀ field, Shown field (shownContext loaded assetId field) →
        values field = assetContextToFormValues (shownContext loaded assetId) field →
        patch field = none ∧ shownContext db' assetId field = shownContext db assetId field ∧
          shownSources db' assetId field = shownSources db assetId field := by
  obtain ⟨overrides, hstands⟩ := stands_of_requests (hbefore.append hmeanwhile) assetId
  obtain ⟨db', hsaved⟩ := patchAssetContext_eq_some hasset patch now
  have heffect := patched_patchAssetContext hstands hsaved
  have hpatch := buildAssetContextPatch_eq_ok hbuilt
  apply Exists.intro db'
  apply And.intro hsaved
  apply And.intro
  · rw [hpatch] at hsaved
    exact shownContext_of_form hstands hsaved
  · intro field hshown hvalues
    have hnone : patch field = none := by
      rw [hpatch]
      exact fieldPatch_unedited hshown hvalues
    have heffective := heffect.effective field
    have hsources := heffect.sources field
    rw [hnone] at heffective hsources
    unfold shownContext shownSources
    rw [heffect.target]
    exact ⟨hnone, heffective, hsources⟩

def criticalForm : AssetContextFormValues
  | .criticality => "critical".toList
  | _ => []

/-- Meanwhile another request has set the sensitivity. -/
theorem criticalForm_applies : letI := asciiText
    ∃ loaded db patch db', Run (operationStep fun _ => []) anyStep loaded lifespanHistory db ∧
      buildAssetContextPatch (shownContext loaded 0) criticalForm (shownSources loaded 0) =
        .ok patch ∧
      patchAssetContext db 0 patch 8 = some db' ∧
      ∀ field, shownContext db' 0 field = afterSaving (shownContext loaded 0)
        (shownSources loaded 0) criticalForm (targetContext (currentTarget db 0))
        (shownContext db 0) field := by
  let := asciiText
  have hfirst : (runAll (operationStep fun _ => []) {} firstScan).isSome := by decide +kernel
  obtain ⟨loaded, hloaded⟩ := Option.isSome_iff_exists.mp hfirst
  have hlast : ((runAll (operationStep fun _ => []) {} firstScan).bind fun loaded =>
      (runAll (operationStep fun _ => []) loaded lifespanHistory).bind fun db =>
        db.assets.find? 0).isSome := by decide +kernel
  rw [hloaded, Option.bind_some] at hlast
  obtain ⟨asset, hasset⟩ := Option.isSome_iff_exists.mp hlast
  obtain ⟨db, hdb, hasset⟩ := Option.bind_eq_some_iff.mp hasset
  have hbuilt : buildAssetContextPatch (shownContext loaded 0) criticalForm (shownSources loaded 0) =
      .ok (fieldPatch (shownContext loaded 0) (shownSources loaded 0) criticalForm) := rfl
  obtain ⟨db', hsaved, hshown, -⟩ := saved_form_applies (Run.of_runAll hloaded)
    (Run.of_runAll hdb) hasset hbuilt 8
  exact ⟨loaded, db, _, db', Run.of_runAll hdb, hbuilt, hsaved, hshown⟩

end CryptoScanner.Frontend
