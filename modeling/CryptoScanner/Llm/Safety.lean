import CryptoScanner.Llm.ContextSuggestion
import CryptoScanner.Llm.MigrationSuggestion
import CryptoScanner.Llm.ResponseVerdict

/-!
# Which outputs of a model are read without a crash

The three readers of model output convert numbers with `int` and `float` and expect a `TypeError` or
a `ValueError`.  An `OverflowError` passes them, and so does a `RecursionError` of the decoder.
-/

namespace CryptoScanner.Llm

open Library Python MigrationEngine

section

variable [PyText] (floatRepr : PyFloat → List Char) (limits : Limits)

/-! ## 1. The migration suggestion -/

def SelectionSafe (result : Except PyException ParsedSuggestion) : Prop :=
  ∃ parsed, result = .ok parsed ∧
    (∀ confidence, parsed.confidence = some confidence → 0 ≤ confidence ∧ confidence ≤ 1) ∧
    parsed.evidence.length ≤ 8

/-- The nesting stays within the recursion limit, and the confidence is no integer that is too large
for a double. -/
def SelectionTame (text : List Char) : Prop :=
  match firstOutcome limits text with
  | some (.ok data) => ∀ n, data.get "confidence" = .int n → ¬ Oversized n
  | some (.error e) => e ≠ .recursion
  | none => True

theorem confidenceOrNone_cases (value : Json) :
    (∃ confidence, confidenceOrNone value = .ok confidence ∧
      ∀ q, confidence = some q → 0 ≤ q ∧ q ≤ 1) ∧ (∀ n, value = .int n → ¬ Oversized n) ∨
    confidenceOrNone value = .error .overflow ∧ ∃ n, value = .int n ∧ Oversized n := by
  unfold confidenceOrNone
  rcases pyFloat_cases value with ⟨⟨x, hx⟩, hsmall⟩ | ⟨hraise, hnone⟩ | ⟨hraise, hlarge⟩
  · rw [hx]
    refine .inl ⟨⟨_, rfl, fun q hq => ?_⟩, hsmall⟩
    cases hq
    exact unitConfidence_mem x
  · have hsmall : ∀ n, value = .int n → ¬ Oversized n := fun n hn => absurd hn (hnone n)
    rcases hraise with hraise | hraise
    · rw [hraise]
      exact .inl ⟨⟨none, rfl, fun q hq => nomatch hq⟩, hsmall⟩
    · rw [hraise]
      exact .inl ⟨⟨none, rfl, fun q hq => nomatch hq⟩, hsmall⟩
  · rw [hraise]
    exact .inr ⟨rfl, hlarge⟩

theorem length_evidenceTexts (value : Json) : (evidenceTexts floatRepr value).length ≤ 8 := by
  unfold evidenceTexts
  split
  · exact List.length_take_le _ _
  · exact Nat.zero_le 8

theorem readSelection_safe_iff (first : MigrationOption) (others : List MigrationOption)
    (data : JsonObject) (fallback : Option FallbackReason) :
    SelectionSafe (readSelection floatRepr first others data fallback) ↔
      ∀ n, data.get "confidence" = .int n → ¬ Oversized n := by
  unfold readSelection
  dsimp only
  rcases confidenceOrNone_cases (data.get "confidence") with
    ⟨⟨confidence, hconfidence, hrange⟩, hsmall⟩ | ⟨hoverflow, n, hn, hlarge⟩
  · rw [hconfidence]
    exact iff_of_true ⟨_, rfl, hrange, length_evidenceTexts floatRepr _⟩ hsmall
  · rw [hoverflow]
    refine iff_of_false ?_ fun h => h n hn hlarge
    rintro ⟨parsed, h, -⟩
    cases h

theorem parseMigrationSuggestionResponse_safe_iff (text : List Char) (first : MigrationOption)
    (others : List MigrationOption) :
    SelectionSafe (parseMigrationSuggestionResponse floatRepr limits text first others) ↔
      SelectionTame limits text := by
  have hempty : SelectionSafe (readSelection floatRepr first others [] (some .invalidJson)) :=
    (readSelection_safe_iff floatRepr first others [] _).mpr fun n hn => nomatch hn
  unfold parseMigrationSuggestionResponse SelectionTame
  rw [extractJsonObject_eq]
  cases firstOutcome limits text with
  | none => exact iff_of_true hempty trivial
  | some outcome =>
      cases outcome with
      | ok data => exact readSelection_safe_iff floatRepr first others data none
      | error e =>
          cases e with
          | malformed => exact iff_of_true hempty (by decide)
          | digits => exact iff_of_true hempty (by decide)
          | recursion =>
              refine iff_of_false ?_ (not_not.mpr rfl)
              rintro ⟨parsed, h, -⟩
              cases h

/-! ## 2. The three readers -/

/-- Every reader returns what it declares or takes its declared way out. -/
def OutputSafe (text : List Char) (fallback : ContextSuggestion) (first : MigrationOption)
    (others : List MigrationOption) : Prop :=
  ResponseSafe (parseQualitativeRiskResponse floatRepr limits text) ∧
    SuggestionSafe fallback (parseContextSuggestionResponse floatRepr limits text fallback) ∧
    SelectionSafe (parseMigrationSuggestionResponse floatRepr limits text first others)

/-- An output is read without a crash exactly if it is tame for all three readers. -/
theorem output_safe_iff (text : List Char) (fallback : ContextSuggestion) (first : MigrationOption)
    (others : List MigrationOption) :
    OutputSafe floatRepr limits text fallback first others ↔
      ResponseTame floatRepr limits text ∧ SuggestionTame limits text ∧
        SelectionTame limits text :=
  Iff.and (parseQualitativeRiskResponse_safe_iff floatRepr limits text)
    (Iff.and (parseContextSuggestionResponse_safe_iff floatRepr limits text fallback)
      (parseMigrationSuggestionResponse_safe_iff floatRepr limits text first others))

end

/-- A suggestion with `"lifespan_years": Infinity`. -/
def infiniteLifespan : List Char := "\x7b\"lifespan_years\": Infinity\x7d".toList

def noSuggestion : ContextSuggestion where
  recommendedContext := ⟨none, none, none, none, none⟩
  confidence := 1 / 2
  rationale := "Recommended from current asset metadata.".toList
  evidence := []

/-- The reader of context suggestions raises `OverflowError`. -/
theorem infiniteLifespan_crashes : letI := asciiText
    ¬ OutputSafe (fun _ => []) { recursion := 1000 } infiniteLifespan noSuggestion
      (policyDefault rsaItem.recommendation) [] := by
  let := asciiText
  rintro ⟨-, ⟨suggestion, h, -⟩, -⟩
  have hraise : (parseContextSuggestionResponse (fun _ => []) { recursion := 1000 } infiniteLifespan
      noSuggestion).toBool = false := by
    decide +kernel
  rw [h] at hraise
  cases hraise

end CryptoScanner.Llm
