import CryptoScanner.Llm.Output

/-!
# The context suggestion

`_parse_context_suggestion_response`.  Every field that is not as expected falls back to the value
that the heuristics gave.
-/

namespace CryptoScanner.Llm

open Library Python

structure RecommendedContext where
  sensitivity : Option (List Char)
  lifespanYears : Option Int
  criticality : Option (List Char)
  exposure : Option (List Char)
  serviceRole : Option (List Char)
  deriving DecidableEq, Repr

structure ContextSuggestion where
  recommendedContext : RecommendedContext
  confidence : ℚ
  rationale : List Char
  evidence : List (List Char)
  deriving DecidableEq, Repr

def contextLevelValues : List String := ["low", "medium", "high", "critical"]

def contextExposureValues : List String := ["public_internet", "dmz", "internal_network", "air_gapped"]

section

variable [PyText] (floatRepr : PyFloat → List Char) (limits : Limits)

/-! ## 1. Fields -/

def allowedOrFallback (value : Json) (allowed : List String) (fallback : Option (List Char)) :
    Option (List Char) :=
  if value = .null then fallback
  else
    let normalized := lower (itemText floatRepr value)
    if normalized ∈ allowed.map String.toList then some normalized else fallback

def nonNegativeIntOrFallback (value : Json) (fallback : Option Int) :
    Except PyException (Option Int) :=
  if value = .null ∨ value = .str "" then .ok fallback
  else
    match pyInt limits value with
    | .ok parsed => .ok (if 0 ≤ parsed then some parsed else fallback)
    | .error .value | .error .type => .ok fallback
    | .error e => .error e

def serviceRoleOrFallback (value : Json) (fallback : Option (List Char)) : Option (List Char) :=
  if value = .null then fallback
  else
    let normalized := ((lower (itemText floatRepr value)).map fun c =>
      if c = ' ' then '-' else c).take 80
    if normalized = [] then fallback else some normalized

def confidenceOrFallback (value : Json) (fallback : ℚ) : Except PyException ℚ :=
  match pyFloat value with
  | .ok x => .ok (unitConfidence x)
  | .error .value | .error .type => .ok fallback
  | .error e => .error e

def rationaleOrFallback (value : Json) (fallback : List Char) : List Char :=
  match value with
  | .str text => if strip text.toList = [] then fallback else text.toList
  | _ => fallback

def stringListOrFallback (value : Json) (fallback : List (List Char)) : List (List Char) :=
  match value with
  | .list items =>
      if (itemTexts floatRepr items).take 8 = [] then fallback
      else (itemTexts floatRepr items).take 8
  | _ => fallback

/-! ## 2. The suggestion -/

/-- `a or b` on JSON values. -/
def jsonOr (a b : Json) : Json := if a.truthy then a else b

def suggestedValues (data : JsonObject) : JsonObject :=
  match jsonOr (data.get "recommended_context") (jsonOr (data.get "context") (.dict data)) with
  | .dict values => values
  | _ => []

/-- What `_parse_context_suggestion_response` makes of an object. -/
def readSuggestion (fallback : ContextSuggestion) (data : JsonObject) :
    Except PyException ContextSuggestion := do
  let values := suggestedValues data
  let former := fallback.recommendedContext
  let lifespanYears ←
    nonNegativeIntOrFallback limits (values.get "lifespan_years") former.lifespanYears
  let confidence ← confidenceOrFallback (data.get "confidence") fallback.confidence
  return {
    recommendedContext :=
      { sensitivity := allowedOrFallback floatRepr (values.get "sensitivity") contextLevelValues
          former.sensitivity
        lifespanYears
        criticality := allowedOrFallback floatRepr (values.get "criticality") contextLevelValues
          former.criticality
        exposure := allowedOrFallback floatRepr (values.get "exposure") contextExposureValues
          former.exposure
        serviceRole := serviceRoleOrFallback floatRepr (values.get "service_role")
          former.serviceRole }
    confidence
    rationale := rationaleOrFallback (data.get "rationale") fallback.rationale
    evidence := stringListOrFallback floatRepr (data.get "evidence") fallback.evidence }

def parseContextSuggestionResponse (text : List Char) (fallback : ContextSuggestion) :
    Except PyException ContextSuggestion :=
  match extractJsonObject .value limits text with
  | .ok data => readSuggestion floatRepr limits fallback data
  | .error .jsonDecode | .error .value | .error (.responseParse _) => .ok fallback
  | .error e => .error e

/-! ## 3. What a suggestion declares -/

/-- Every value is of the declared range or the value of the fallback. -/
structure SuggestionDeclared (fallback suggestion : ContextSuggestion) : Prop where
  sensitivity : suggestion.recommendedContext.sensitivity = fallback.recommendedContext.sensitivity ∨
    ∃ word ∈ contextLevelValues.map String.toList,
      suggestion.recommendedContext.sensitivity = some word
  lifespanYears :
    suggestion.recommendedContext.lifespanYears = fallback.recommendedContext.lifespanYears ∨
      ∃ years, 0 ≤ years ∧ suggestion.recommendedContext.lifespanYears = some years
  criticality : suggestion.recommendedContext.criticality = fallback.recommendedContext.criticality ∨
    ∃ word ∈ contextLevelValues.map String.toList,
      suggestion.recommendedContext.criticality = some word
  exposure : suggestion.recommendedContext.exposure = fallback.recommendedContext.exposure ∨
    ∃ word ∈ contextExposureValues.map String.toList,
      suggestion.recommendedContext.exposure = some word
  serviceRole : suggestion.recommendedContext.serviceRole = fallback.recommendedContext.serviceRole ∨
    ∃ role, role ≠ [] ∧ role.length ≤ 80 ∧ suggestion.recommendedContext.serviceRole = some role
  confidence : suggestion.confidence = fallback.confidence ∨
    0 ≤ suggestion.confidence ∧ suggestion.confidence ≤ 1
  rationale : suggestion.rationale = fallback.rationale ∨ strip suggestion.rationale ≠ []
  evidence : suggestion.evidence = fallback.evidence ∨
    suggestion.evidence ≠ [] ∧ suggestion.evidence.length ≤ 8

omit [PyText] in
theorem SuggestionDeclared.self [PyText] (fallback : ContextSuggestion) :
    SuggestionDeclared fallback fallback :=
  ⟨.inl rfl, .inl rfl, .inl rfl, .inl rfl, .inl rfl, .inl rfl, .inl rfl, .inl rfl⟩

theorem allowedOrFallback_cases (value : Json) (allowed : List String)
    (fallback : Option (List Char)) :
    allowedOrFallback floatRepr value allowed fallback = fallback ∨
      ∃ word ∈ allowed.map String.toList,
        allowedOrFallback floatRepr value allowed fallback = some word := by
  unfold allowedOrFallback
  dsimp only
  split_ifs with hnull hmem
  · exact .inl rfl
  · exact .inr ⟨_, hmem, rfl⟩
  · exact .inl rfl

theorem serviceRoleOrFallback_cases (value : Json) (fallback : Option (List Char)) :
    serviceRoleOrFallback floatRepr value fallback = fallback ∨
      ∃ role, role ≠ [] ∧ role.length ≤ 80 ∧
        serviceRoleOrFallback floatRepr value fallback = some role := by
  unfold serviceRoleOrFallback
  dsimp only
  split_ifs with hnull hnil
  · exact .inl rfl
  · exact .inl rfl
  · exact .inr ⟨_, hnil, List.length_take_le _ _, rfl⟩

theorem rationaleOrFallback_cases (value : Json) (fallback : List Char) :
    rationaleOrFallback value fallback = fallback ∨
      strip (rationaleOrFallback value fallback) ≠ [] := by
  unfold rationaleOrFallback
  split
  · split_ifs with hnil
    · exact .inl rfl
    · exact .inr hnil
  · exact .inl rfl

theorem stringListOrFallback_cases (value : Json) (fallback : List (List Char)) :
    stringListOrFallback floatRepr value fallback = fallback ∨
      stringListOrFallback floatRepr value fallback ≠ [] ∧
        (stringListOrFallback floatRepr value fallback).length ≤ 8 := by
  unfold stringListOrFallback
  split
  · split_ifs with hnil
    · exact .inl rfl
    · exact .inr ⟨hnil, List.length_take_le _ _⟩
  · exact .inl rfl

/-- The confidence is read unless it is an integer too large for a double. -/
theorem confidenceOrFallback_cases (value : Json) (fallback : ℚ) :
    (∃ q, confidenceOrFallback value fallback = .ok q ∧ (q = fallback ∨ 0 ≤ q ∧ q ≤ 1)) ∧
      (∀ n, value = .int n → ¬ Oversized n) ∨
    confidenceOrFallback value fallback = .error .overflow ∧ ∃ n, value = .int n ∧ Oversized n := by
  unfold confidenceOrFallback
  rcases pyFloat_cases value with ⟨⟨x, hx⟩, hsmall⟩ | ⟨hraise, hnone⟩ | ⟨hraise, hlarge⟩
  · rw [hx]
    exact .inl ⟨⟨_, rfl, .inr (unitConfidence_mem x)⟩, hsmall⟩
  · rcases hraise with hraise | hraise <;> rw [hraise] <;>
      exact .inl ⟨⟨_, rfl, .inl rfl⟩, fun n hn => absurd hn (hnone n)⟩
  · rw [hraise]
    exact .inr ⟨rfl, hlarge⟩

/-- A value that `int` cannot convert: an infinity. -/
def Infinite (value : Json) : Prop := value = .float .inf ∨ value = .float .negInf

instance (value : Json) : Decidable (Infinite value) := inferInstanceAs (Decidable (_ ∨ _))

theorem nonNegativeIntOrFallback_cases (value : Json) (fallback : Option Int) :
    (∃ years, nonNegativeIntOrFallback limits value fallback = .ok years ∧
      (years = fallback ∨ ∃ n, 0 ≤ n ∧ years = some n)) ∧ ¬ Infinite value ∨
    nonNegativeIntOrFallback limits value fallback = .error .overflow ∧ Infinite value := by
  have hnumber : ∀ n : Int, ∃ years, (.ok (if 0 ≤ n then some n else fallback) :
      Except PyException (Option Int)) = .ok years ∧
        (years = fallback ∨ ∃ n, 0 ≤ n ∧ years = some n) := by
    intro n
    refine ⟨_, rfl, ?_⟩
    by_cases hn : 0 ≤ n
    · rw [if_pos hn]
      exact .inr ⟨n, hn, rfl⟩
    · rw [if_neg hn]
      exact .inl rfl
  have hfallback : ∃ years, (.ok fallback : Except PyException (Option Int)) = .ok years ∧
      (years = fallback ∨ ∃ n, 0 ≤ n ∧ years = some n) := ⟨fallback, rfl, .inl rfl⟩
  unfold nonNegativeIntOrFallback
  by_cases hempty : value = .null ∨ value = .str ""
  · rw [if_pos hempty]
    refine .inl ⟨hfallback, ?_⟩
    rcases hempty with rfl | rfl <;> decide
  · rw [if_neg hempty]
    -- of all values only the infinities raise what the caller does not catch
    cases value with
    | null => exact absurd (.inl rfl) hempty
    | bool b => exact .inl ⟨hnumber _, by rintro (h | h) <;> cases h⟩
    | int n => exact .inl ⟨hnumber n, by rintro (h | h) <;> cases h⟩
    | float x =>
        cases x with
        | finite q => exact .inl ⟨hnumber _, by rintro (h | h) <;> cases h⟩
        | inf => exact .inr ⟨rfl, .inl rfl⟩
        | negInf => exact .inr ⟨rfl, .inr rfl⟩
        | nan => exact .inl ⟨hfallback, by decide⟩
    | str text =>
        refine .inl ⟨?_, by rintro (h | h) <;> cases h⟩
        cases hread : intOfText limits text.toList with
        | none =>
            have hraise : pyInt limits (.str text) = .error .value := by rw [pyInt, hread]
            rw [hraise]
            exact hfallback
        | some n =>
            have hok : pyInt limits (.str text) = .ok n := by rw [pyInt, hread]
            rw [hok]
            exact hnumber n
    | list items => exact .inl ⟨hfallback, by rintro (h | h) <;> cases h⟩
    | dict entries => exact .inl ⟨hfallback, by rintro (h | h) <;> cases h⟩

/-! ## 4. The parser -/

def SuggestionSafe (fallback : ContextSuggestion) (result : Except PyException ContextSuggestion) :
    Prop :=
  ∃ suggestion, result = .ok suggestion ∧ SuggestionDeclared fallback suggestion

/-- The nesting stays within the recursion limit, the lifespan is no infinity and the confidence no
integer that is too large for a double. -/
def SuggestionTame (text : List Char) : Prop :=
  match firstOutcome limits text with
  | some (.ok data) =>
      ¬ Infinite ((suggestedValues data).get "lifespan_years") ∧
        ∀ n, data.get "confidence" = .int n → ¬ Oversized n
  | some (.error e) => e ≠ .recursion
  | none => True

theorem parseContextSuggestionResponse_safe_iff (text : List Char) (fallback : ContextSuggestion) :
    SuggestionSafe fallback (parseContextSuggestionResponse floatRepr limits text fallback) ↔
      SuggestionTame limits text := by
  have hself : SuggestionSafe fallback (.ok fallback) :=
    ⟨fallback, rfl, SuggestionDeclared.self fallback⟩
  have hraise : ∀ e, ¬ SuggestionSafe fallback (.error e) := by
    rintro e ⟨suggestion, h, -⟩
    cases h
  unfold parseContextSuggestionResponse SuggestionTame
  rw [extractJsonObject_eq]
  cases firstOutcome limits text with
  | none => exact iff_of_true hself trivial
  | some outcome =>
      cases outcome with
      | error e =>
          -- malformed JSON is caught and too many digits as well, too deep a nesting is not
          cases e with
          | malformed => exact iff_of_true hself (by decide)
          | digits => exact iff_of_true hself (by decide)
          | recursion => exact iff_of_false (hraise _) (not_not.mpr rfl)
      | ok data =>
          show SuggestionSafe fallback (readSuggestion floatRepr limits fallback data) ↔ _
          unfold readSuggestion
          dsimp only
          rcases nonNegativeIntOrFallback_cases limits
            ((suggestedValues data).get "lifespan_years") fallback.recommendedContext.lifespanYears
            with ⟨⟨years, hyears, hdeclared⟩, hfinite⟩ | ⟨hoverflow, hinfinite⟩
          · rw [hyears]
            rcases confidenceOrFallback_cases (data.get "confidence") fallback.confidence with
              ⟨⟨q, hq, hrange⟩, hsmall⟩ | ⟨hoverflow, n, hn, hlarge⟩
            · rw [hq]
              refine iff_of_true ⟨_, rfl, ?_⟩ ⟨hfinite, hsmall⟩
              exact ⟨allowedOrFallback_cases floatRepr _ _ _, hdeclared,
                allowedOrFallback_cases floatRepr _ _ _, allowedOrFallback_cases floatRepr _ _ _,
                serviceRoleOrFallback_cases floatRepr _ _, hrange, rationaleOrFallback_cases _ _,
                stringListOrFallback_cases floatRepr _ _⟩
            · rw [hoverflow]
              exact iff_of_false (hraise _) fun h => h.2 n hn hlarge
          · rw [hoverflow]
            exact iff_of_false (hraise _) fun h => h.1 hinfinite

end

end CryptoScanner.Llm
