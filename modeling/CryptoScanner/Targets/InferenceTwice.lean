import Mathlib.Data.List.Perm.Subperm
import CryptoScanner.Targets.Services

/-!
# Applying an inference twice

A second application finds no field to fill.  It records that it has filled none, over the record of
the first one.
-/

namespace CryptoScanner.Targets

open Library Python RiskEngine

/-! ## 1. Dictionaries that compare equal -/

/-- A Python value with each key once, if it is a dictionary. -/
def DistinctKeys (value : Json) : Prop :=
  ∀ entries, value = .dict entries → (entries.map Prod.fst).Nodup

theorem lookup_of_pySubDict {entries other : List (String × Json)} {key : String} {value : Json}
    (h : Json.pySubDict entries other = true) (hmem : (key, value) ∈ entries) :
    ∃ found, other.lookup key = some found ∧ Json.sameItem value found = true := by
  induction entries with
  | nil => cases hmem
  | cons entry entries ih =>
      obtain ⟨k, x⟩ := entry
      rw [Json.pySubDict, Bool.and_eq_true] at h
      rcases List.mem_cons.mp hmem with heq | hrest
      · obtain ⟨rfl, rfl⟩ := Prod.mk.inj heq
        cases hlookup : other.lookup key with
        | none =>
            rw [hlookup] at h
            cases h.1
        | some found =>
            rw [hlookup] at h
            exact ⟨found, rfl, h.1⟩
      · exact ih h.2 hrest

/-- Every key of the second dictionary is one of the first. -/
theorem exists_of_pyEq {entries other : List (String × Json)} {key : String} {value : Json}
    (h : (Json.dict entries).pyEq (.dict other) = true) (hnodup : (entries.map Prod.fst).Nodup)
    (hlookup : other.lookup key = some value) :
    ∃ found, (key, found) ∈ entries ∧ Json.sameItem found value = true := by
  rw [Json.pyEq, Bool.and_eq_true] at h
  have hlength : entries.length = other.length := eq_of_beq h.1
  have hsub : entries.map Prod.fst ⊆ other.map Prod.fst := by
    intro k hk
    obtain ⟨⟨k', x⟩, hmem, rfl⟩ := List.mem_map.mp hk
    obtain ⟨found, hfound, -⟩ := lookup_of_pySubDict h.2 hmem
    by_contra hno
    rw [Dict.lookup_eq_none_iff_keys.mpr hno] at hfound
    cases hfound
  have hperm : (entries.map Prod.fst).Perm (other.map Prod.fst) :=
    (List.subperm_of_subset hnodup hsub).perm_of_length_le (by rw [List.length_map, List.length_map, hlength])
  have hkey : key ∈ entries.map Prod.fst := by
    refine hperm.mem_iff.mpr ?_
    by_contra hno
    rw [Dict.lookup_eq_none_iff_keys.mpr hno] at hlookup
    cases hlookup
  obtain ⟨⟨k, found⟩, hmem, rfl⟩ := List.mem_map.mp hkey
  obtain ⟨same, hsame, hitem⟩ := lookup_of_pySubDict h.2 hmem
  cases hlookup.symm.trans hsame
  exact ⟨found, hmem, hitem⟩

theorem eq_dict_of_pyEq {value : Json} {other : List (String × Json)}
    (h : value.pyEq (.dict other) = true) : ∃ entries, value = .dict entries := by
  cases value with
  | dict entries => exact ⟨entries, rfl⟩
  | _ => simp [Json.pyEq, Json.number?] at h

theorem eq_list_of_sameItem {value : Json} {items : List Json}
    (h : Json.sameItem value (.list items) = true) :
    ∃ values, value = .list values ∧ (values = [] ↔ items = []) := by
  rw [Json.sameItem, Bool.or_eq_true, decide_eq_true_eq] at h
  rcases h with rfl | h
  · exact ⟨items, rfl, Iff.rfl⟩
  · cases value with
    | list values =>
        refine ⟨values, rfl, ?_⟩
        cases values <;> cases items <;> simp [Json.pyEq, Json.pyEqList] at h ⊢
    | _ => simp [Json.pyEq, Json.number?] at h

/-! ## 2. The first application -/

variable {loaded : TargetContext} {inference : HomepageInference}

def recordOf (fields : List ContextField) (evidence : List (String × Json)) : Json :=
  .dict (Dict.set "applied_fields"
    (.list (fields.map fun field => .str (ContextField.name field))) evidence)

theorem newEvidence_eq {evidence : List (String × Json)} (h : inference.evidence = some evidence) :
    newEvidence loaded inference =
      if (loaded.homepageInference.getD .null).pyEq
          (recordOf (appliedFields loaded inference) evidence) then none
      else some (recordOf (appliedFields loaded inference) evidence) := by
  rw [newEvidence, h]
  rfl

theorem newEvidence_none (h : inference.evidence = none) : newEvidence loaded inference = none := by
  rw [newEvidence, h]

theorem appliedFields_inferredContext (loaded : TargetContext) (inference : HomepageInference) :
    appliedFields (inferredContext loaded inference) inference = [] := by
  refine List.filter_eq_nil_iff.mpr fun field _ => ?_
  cases hfield : inference.field field with
  | none => simp
  | some value =>
      cases hloaded : loaded.field field with
      | none => simp [inferredContext, hloaded, hfield]
      | some other => simp [inferredContext, hloaded]

theorem field_inferredContext (h : appliedFields loaded inference = []) :
    (inferredContext loaded inference).field = loaded.field := by
  funext field
  cases hloaded : loaded.field field with
  | some value => simp [inferredContext, hloaded]
  | none =>
      have hno := List.filter_eq_nil_iff.mp h field (mem_contextFields field)
      cases hfield : inference.field field with
      | none => simp [inferredContext, hloaded, hfield]
      | some value => simp [hloaded, hfield] at hno

theorem context_ext {context other : TargetContext} (hfield : context.field = other.field)
    (hevidence : context.homepageInference = other.homepageInference) : context = other := by
  cases context
  cases other
  rw [TargetContext.mk.injEq]
  exact ⟨hfield, hevidence⟩

theorem inferredContext_of_not_infers (h : infers loaded inference = false) :
    inferredContext loaded inference = loaded := by
  rw [infers, Bool.or_eq_false_iff, Bool.not_eq_false', List.isEmpty_iff,
    Option.isSome_eq_false_iff, Option.isNone_iff_eq_none] at h
  refine context_ext (field_inferredContext h.1) ?_
  rw [inferredContext, h.2, Option.none_or]

/-- The scan goes on with the inferred context, whether or not it writes it. -/
theorem context_applyHomepageContextInference (targets : Table Target) (targetId : Id) :
    (applyHomepageContextInference targets targetId loaded (some inference)).2 =
      inferredContext loaded inference := by
  rw [applyHomepageContextInference]
  split
  · rfl
  next hno => exact (inferredContext_of_not_infers (Bool.eq_false_iff.mpr hno)).symm

/-! ## 3. The second application -/

/-- The evidence of a context, after the second application. -/
theorem homepageInference_twice :
    (inferredContext (inferredContext loaded inference) inference).homepageInference =
      (newEvidence (inferredContext loaded inference) inference).or
        (inferredContext loaded inference).homepageInference := rfl

/-- If the first one fills no field, both record the same. -/
theorem inferredContext_twice
    (h : inference.evidence = none ∨ appliedFields loaded inference = []) :
    inferredContext (inferredContext loaded inference) inference =
      inferredContext loaded inference := by
  refine context_ext (field_inferredContext (appliedFields_inferredContext loaded inference)) ?_
  rw [homepageInference_twice]
  cases hevidence : inference.evidence with
  | none => rw [newEvidence_none hevidence, Option.none_or]
  | some evidence =>
      have hfields := h.resolve_left (by rw [hevidence]; exact Option.some_ne_none evidence)
      have hsecond := @newEvidence_eq (inferredContext loaded inference) inference evidence hevidence
      have hfirst := @newEvidence_eq loaded inference evidence hevidence
      rw [appliedFields_inferredContext] at hsecond
      rw [hfields] at hfirst
      by_cases hsame : (loaded.homepageInference.getD .null).pyEq (recordOf [] evidence) = true
      · -- the stored record stays, both times
        have hstays : (inferredContext loaded inference).homepageInference =
            loaded.homepageInference := by
          rw [inferredContext, hfirst, if_pos hsame, Option.none_or]
        rw [hsecond, hstays, if_pos hsame, Option.none_or]
      · have hrecord : (inferredContext loaded inference).homepageInference =
            some (recordOf [] evidence) := by
          rw [inferredContext, hfirst, if_neg hsame, Option.some_or]
        rw [hsecond, hrecord]
        split
        · exact Option.none_or
        · exact Option.some_or

def Records (value : Json) (fields : List ContextField) : Prop :=
  ∃ entries, value = .dict entries ∧ (entries.map Prod.fst).Nodup ∧
    ∃ found, ("applied_fields", found) ∈ entries ∧
      Json.sameItem found (.list (fields.map fun field => .str (ContextField.name field))) = true

theorem records_recordOf {evidence : List (String × Json)}
    (h : (evidence.map Prod.fst).Nodup) (fields : List ContextField) :
    Records (recordOf fields evidence) fields := by
  have hnodup : ((Dict.set "applied_fields"
      (.list (fields.map fun field => .str (ContextField.name field)) : Json)
      evidence).map Prod.fst).Nodup := Dict.nodup_keys_set h
  refine ⟨_, rfl, hnodup, _, (Dict.mem_iff_lookup hnodup _ _).mpr ?_, Json.sameItem_self _⟩
  rw [Dict.lookup_set, if_pos rfl]

theorem records_of_pyEq {value : Json} {evidence : List (String × Json)}
    {fields : List ContextField} (hvalue : DistinctKeys value)
    (h : value.pyEq (recordOf fields evidence) = true) : Records value fields := by
  obtain ⟨entries, rfl⟩ := eq_dict_of_pyEq h
  have hnodup := hvalue entries rfl
  obtain ⟨found, hmem, hitem⟩ := exists_of_pyEq h hnodup (by rw [Dict.lookup_set, if_pos rfl])
  exact ⟨entries, rfl, hnodup, found, hmem, hitem⟩

theorem fields_eq_nil_of_records {value : Json} {fields : List ContextField}
    (hnone : Records value []) (h : Records value fields) : fields = [] := by
  obtain ⟨entries, rfl, hnodup, found, hmem, hitem⟩ := hnone
  obtain ⟨entries', heq, -, found', hmem', hitem'⟩ := h
  cases heq
  have hlookup := (Dict.mem_iff_lookup hnodup _ _).mp hmem
  have hlookup' := (Dict.mem_iff_lookup hnodup _ _).mp hmem'
  cases hlookup.symm.trans hlookup'
  obtain ⟨values, rfl, hvalues⟩ := eq_list_of_sameItem hitem
  obtain ⟨values', heq, hvalues'⟩ := eq_list_of_sameItem hitem'
  cases heq
  exact List.map_eq_nil_iff.mp (hvalues'.mp (hvalues.mpr rfl))

theorem inferredContext_twice_ne {evidence : List (String × Json)}
    (hevidence : inference.evidence = some evidence)
    (hfields : appliedFields loaded inference ≠ [])
    (hstored : ∀ value, loaded.homepageInference = some value → DistinctKeys value)
    (hdistinct : (evidence.map Prod.fst).Nodup) :
    inferredContext (inferredContext loaded inference) inference ≠
      inferredContext loaded inference := by
  intro htwice
  have hsecond := @newEvidence_eq (inferredContext loaded inference) inference evidence hevidence
  have hfirst := @newEvidence_eq loaded inference evidence hevidence
  rw [appliedFields_inferredContext] at hsecond
  -- the first application leaves a record of its fields
  obtain ⟨value, hvalue, hkeys, hrecords⟩ : ∃ value,
      (inferredContext loaded inference).homepageInference = some value ∧ DistinctKeys value ∧
        Records value (appliedFields loaded inference) := by
    by_cases hsame : (loaded.homepageInference.getD .null).pyEq
        (recordOf (appliedFields loaded inference) evidence) = true
    · cases hloaded : loaded.homepageInference with
      | none =>
          rw [hloaded] at hsame
          obtain ⟨entries, hentries⟩ := eq_dict_of_pyEq hsame
          cases hentries
      | some value =>
          rw [hloaded] at hsame
          refine ⟨value, ?_, hstored value hloaded, records_of_pyEq (hstored value hloaded) hsame⟩
          rw [inferredContext, hfirst, hloaded, if_pos hsame, Option.none_or]
    · refine ⟨recordOf (appliedFields loaded inference) evidence, ?_, ?_,
        records_recordOf hdistinct _⟩
      · rw [inferredContext, hfirst, if_neg hsame, Option.some_or]
      · rintro entries heq
        cases heq
        exact Dict.nodup_keys_set hdistinct
  -- the second one finds or leaves a record of none
  have hnone : Records value [] := by
    have hhomepage := congrArg TargetContext.homepageInference htwice
    rw [homepageInference_twice, hsecond, hvalue, Option.getD_some] at hhomepage
    by_cases hsame : value.pyEq (recordOf [] evidence) = true
    · exact records_of_pyEq hkeys hsame
    · rw [if_neg hsame, Option.some_or] at hhomepage
      rw [← Option.some.inj hhomepage]
      exact records_recordOf hdistinct []
  exact hfields (fields_eq_nil_of_records hnone hrecords)

/-- A second application changes nothing exactly if the inference has no evidence to record or the
first one fills no field. -/
theorem applyTwice_iff (targets : Table Target) (targetId : Id) (loaded : TargetContext)
    (inference : Option HomepageInference)
    (hstored : ∀ value, loaded.homepageInference = some value → DistinctKeys value)
    (hdistinct : ∀ found ∈ inference, ∀ evidence ∈ found.evidence, (evidence.map Prod.fst).Nodup) :
    applyHomepageContextInference
        (applyHomepageContextInference targets targetId loaded inference).1 targetId
        (applyHomepageContextInference targets targetId loaded inference).2 inference =
      applyHomepageContextInference targets targetId loaded inference ↔
      ∀ found ∈ inference, found.evidence = none ∨ appliedFields loaded found = [] := by
  cases inference with
  | none => exact iff_of_true rfl nofun
  | some found =>
      have hforall : (∀ other ∈ some found, other.evidence = none ∨
          appliedFields loaded other = []) ↔
          found.evidence = none ∨ appliedFields loaded found = [] := by
        constructor
        · exact fun h => h found rfl
        · rintro h _ ⟨⟩
          exact h
      rw [hforall]
      constructor
      · intro h
        by_contra hno
        obtain ⟨hevidence, hfields⟩ := not_or.mp hno
        obtain ⟨evidence, hevidence⟩ := Option.ne_none_iff_exists'.mp hevidence
        have hcontext := congrArg Prod.snd h
        rw [context_applyHomepageContextInference, context_applyHomepageContextInference] at hcontext
        exact inferredContext_twice_ne hevidence hfields hstored
          (hdistinct found rfl evidence hevidence) hcontext
      · intro h
        have htwice := inferredContext_twice h
        rw [applyHomepageContextInference.eq_2 targets]
        split
        · rw [applyHomepageContextInference]
          dsimp only
          rw [htwice]
          split
          · rw [Table.modify_modify]
            rfl
          · rfl
        next hidle =>
          rw [applyHomepageContextInference]
          exact if_neg hidle

def homepage : HomepageInference where
  field
    | .sensitivity => some "internal".toList
    | .lifespanYears => some (3 : Nat)
    | .criticality => some "medium".toList
    | .exposure => some "dmz".toList
    | .serviceRole => some "web".toList
  evidence := some [("source", .str "homepage"), ("confidence", .float (.finite (4 / 5)))]

def fullContext : TargetContext where
  field := homepage.field

theorem fullContext_applyTwice :
    applyHomepageContextInference
        (applyHomepageContextInference ⟨[]⟩ 0 fullContext (some homepage)).1 0
        (applyHomepageContextInference ⟨[]⟩ 0 fullContext (some homepage)).2 (some homepage) =
      applyHomepageContextInference ⟨[]⟩ 0 fullContext (some homepage) :=
  (applyTwice_iff ⟨[]⟩ 0 fullContext (some homepage) nofun (by decide)).mpr (by decide)

/-- The lifespan is filled, recorded, and recorded no more. -/
theorem emptyContext_not_applyTwice :
    applyHomepageContextInference
        (applyHomepageContextInference ⟨[]⟩ 0 { field := emptyContext } (some homepage)).1 0
        (applyHomepageContextInference ⟨[]⟩ 0 { field := emptyContext } (some homepage)).2
        (some homepage) ≠
      applyHomepageContextInference ⟨[]⟩ 0 { field := emptyContext } (some homepage) := by
  intro h
  have hcontext := congrArg Prod.snd h
  rw [context_applyHomepageContextInference, context_applyHomepageContextInference] at hcontext
  have hstored : ∀ value, ({ field := emptyContext } : TargetContext).homepageInference = some value →
      DistinctKeys value := nofun
  exact inferredContext_twice_ne rfl (by decide) hstored (by decide) hcontext

end CryptoScanner.Targets
