import CryptoScanner.Llm.Output
import CryptoScanner.MigrationEngine.Engine

/-!
# The migration suggestion

`migration_plan.py` from the allowed options to the item with the selected one.  The model selects
an option, and gives a rationale and a confidence; nothing else of its text reaches the
recommendation.
-/

namespace CryptoScanner.Llm

open Library Python MigrationEngine

/-! ## 1. Options -/

structure MigrationOption where
  candidateId : List Char
  label : List Char
  recommendation : Recommendation
  deriving DecidableEq, Repr

def strategyText : Strategy → List Char
  | .noChange => "no_change".toList
  | .hybrid => "hybrid".toList
  | .replace => "replace".toList

def splitPlus : List Char → List (List Char)
  | [] => [[]]
  | c :: text =>
      if c = '+' then [] :: splitPlus text
      else
        match splitPlus text with
        | [] => [[c]]
        | part :: parts => (c :: part) :: parts

section

variable [PyText]

def splitAlgorithmSet (value : List Char) : List (List Char) :=
  ((splitPlus value).map strip).filter (· ≠ [])

def alternativeOption (recommendation : Recommendation) (index : Nat) (alternative : Alternative) :
    MigrationOption :=
  let targetAlgorithm := orElse alternative.targetAlgorithm recommendation.targetAlgorithm
  let targetSet := splitAlgorithmSet targetAlgorithm
  { candidateId := "alternative_".toList ++ (toString index).toList
    label := orElse alternative.tradeOff "Policy alternative".toList
    recommendation :=
      { recommendation with
        strategy := alternative.strategy
        targetAlgorithm := targetAlgorithm
        targetAlgorithmSet := targetSet
        finalAlgorithmSet := targetSet
        phase := if alternative.strategy = .replace then .replaceNow else recommendation.phase
        rationale := orElse alternative.tradeOff recommendation.rationale
        confidence := min
          (if recommendation.confidence = 0 then 82 / 100 else recommendation.confidence)
          (76 / 100) } }

def policyDefault (recommendation : Recommendation) : MigrationOption where
  candidateId := "policy_default".toList
  label := "Policy default PQC target".toList
  recommendation := recommendation

def alternativeOptions (recommendation : Recommendation) : Nat → List Alternative →
    List MigrationOption
  | _, [] => []
  | index, alternative :: alternatives =>
      alternativeOption recommendation index alternative ::
        alternativeOptions recommendation (index + 1) alternatives

def allowedMigrationOptions (baseItem : MigrationItem) : List MigrationOption :=
  policyDefault baseItem.recommendation ::
    alternativeOptions baseItem.recommendation 1 baseItem.alternatives

/-! ## 2. Parsing -/

inductive FallbackReason where
  | invalidJson
  | candidateNotAllowed
  deriving DecidableEq, Repr

/-- The parts of a response that are used; `fallback` is `none` if none was. -/
structure ParsedSuggestion where
  option : MigrationOption
  confidence : Option ℚ
  rationale : Option (List Char)
  evidence : List (List Char)
  fallback : Option FallbackReason
  parsedResponse : JsonObject

variable (floatRepr : PyFloat → List Char) (limits : Limits)

def fieldText (data : JsonObject) (key : String) : List Char :=
  if (data.get key).truthy then itemText floatRepr (data.get key) else []

def findOptionByStrategyOrTarget (data : JsonObject) (options : List MigrationOption) :
    Option MigrationOption :=
  let target := fieldText floatRepr data "target_algorithm"
  let strategy := fieldText floatRepr data "strategy"
  options.find? fun option =>
    target ≠ [] ∧ option.recommendation.targetAlgorithm = target ∧
      (strategy = [] ∨ strategyText option.recommendation.strategy = strategy)

def confidenceOrNone (value : Json) : Except PyException (Option ℚ) :=
  match pyFloat value with
  | .ok x => .ok (some (unitConfidence x))
  | .error .value | .error .type => .ok none
  | .error e => .error e

def stringOrNone (value : Json) : Option (List Char) :=
  match value with
  | .str text => if strip text.toList = [] then none else some (strip text.toList)
  | _ => none

def evidenceTexts (value : Json) : List (List Char) :=
  match value with
  | .list items => (itemTexts floatRepr items).take 8
  | _ => []

def selectedId (data : JsonObject) : List Char :=
  if (data.get "selected_candidate_id").truthy then
    itemText floatRepr (data.get "selected_candidate_id")
  else fieldText floatRepr data "candidate_id"

def selectedOption (data : JsonObject) (options : List MigrationOption) : Option MigrationOption :=
  -- the dictionary has the last option of an id
  (options.reverse.find? fun option => option.candidateId = selectedId floatRepr data).or
    (findOptionByStrategyOrTarget floatRepr data options)

/-- What `_parse_migration_suggestion_response` makes of an object, which is empty if the text had
none. -/
def readSelection (first : MigrationOption) (others : List MigrationOption) (data : JsonObject)
    (fallback : Option FallbackReason) : Except PyException ParsedSuggestion := do
  let selected := selectedOption floatRepr data (first :: others)
  let confidence ← confidenceOrNone (data.get "confidence")
  return {
    option := selected.getD first
    confidence
    rationale := stringOrNone (data.get "rationale")
    evidence := evidenceTexts floatRepr (data.get "evidence")
    fallback := if selected.isSome then fallback else some (fallback.getD .candidateNotAllowed)
    parsedResponse := data }

/-- `_parse_migration_suggestion_response`; there is at least one option. -/
def parseMigrationSuggestionResponse (text : List Char) (first : MigrationOption)
    (others : List MigrationOption) : Except PyException ParsedSuggestion :=
  match extractJsonObject .value limits text with
  | .ok data => readSelection floatRepr first others data none
  | .error .jsonDecode | .error .value | .error (.responseParse _) =>
      readSelection floatRepr first others [] (some .invalidJson)
  | .error e => .error e

/-! ## 3. The item -/

structure AiRecommendation where
  selectedCandidateId : List Char
  evidence : List (List Char)
  fallback : Option FallbackReason
  deriving DecidableEq, Repr

omit [PyText] in
def applyAiMigrationSelection (baseItem : MigrationItem) (parsed : ParsedSuggestion) :
    MigrationItem × AiRecommendation :=
  let recommendation := parsed.option.recommendation
  ({ baseItem with
      recommendation :=
        { recommendation with
          rationale := parsed.rationale.getD recommendation.rationale
          confidence := parsed.confidence.getD recommendation.confidence } },
    { selectedCandidateId := parsed.option.candidateId
      evidence := parsed.evidence
      fallback := parsed.fallback })

/-- What `suggest_migration_for_risk_score` makes of a completion. -/
def suggestMigration (baseItem : MigrationItem) (text : List Char) :
    Except PyException (MigrationItem × AiRecommendation) := do
  let parsed ← parseMigrationSuggestionResponse floatRepr limits text
    (policyDefault baseItem.recommendation)
    (alternativeOptions baseItem.recommendation 1 baseItem.alternatives)
  return applyAiMigrationSelection baseItem parsed

/-! ## 4. Guardrail -/

theorem selectedOption_mem {data : JsonObject} {options : List MigrationOption}
    {option : MigrationOption} (h : selectedOption floatRepr data options = some option) :
    option ∈ options := by
  rw [selectedOption, Option.or_eq_some_iff] at h
  rcases h with h | ⟨-, h⟩
  · exact List.mem_reverse.mp (List.mem_of_find?_eq_some h)
  · exact List.mem_of_find?_eq_some h

theorem readSelection_option {first : MigrationOption} {others : List MigrationOption}
    {data : JsonObject} {fallback : Option FallbackReason} {parsed : ParsedSuggestion}
    (h : readSelection floatRepr first others data fallback = .ok parsed) :
    parsed.option ∈ first :: others := by
  unfold readSelection at h
  cases hconfidence : confidenceOrNone (data.get "confidence") with
  | error e =>
      rw [hconfidence] at h
      cases h
  | ok confidence =>
      rw [hconfidence] at h
      cases h
      dsimp only
      cases hselected : selectedOption floatRepr data (first :: others) with
      | none => exact List.mem_cons_self
      | some option => exact selectedOption_mem floatRepr hselected

theorem parseMigrationSuggestionResponse_option {text : List Char} {first : MigrationOption}
    {others : List MigrationOption} {parsed : ParsedSuggestion}
    (h : parseMigrationSuggestionResponse floatRepr limits text first others = .ok parsed) :
    parsed.option ∈ first :: others := by
  unfold parseMigrationSuggestionResponse at h
  split at h
  · exact readSelection_option floatRepr h
  · exact readSelection_option floatRepr h
  · exact readSelection_option floatRepr h
  · exact readSelection_option floatRepr h
  · cases h

/-- Whatever the model answers, the item is the rule-based item with an allowed option for its
recommendation, and at most the rationale and the confidence are the model's. -/
theorem suggestMigration_guarded (baseItem : MigrationItem) (text : List Char)
    (item : MigrationItem × AiRecommendation)
    (h : suggestMigration floatRepr limits baseItem text = .ok item) :
    ∃ option ∈ allowedMigrationOptions baseItem, ∃ rationale confidence,
      item.1 = { baseItem with
        recommendation := { option.recommendation with rationale, confidence } } ∧
      item.2.selectedCandidateId = option.candidateId := by
  unfold suggestMigration at h
  cases hparsed : parseMigrationSuggestionResponse floatRepr limits text
      (policyDefault baseItem.recommendation)
      (alternativeOptions baseItem.recommendation 1 baseItem.alternatives) with
  | error e =>
      rw [hparsed] at h
      cases h
  | ok parsed =>
      rw [hparsed] at h
      cases h
      exact ⟨parsed.option, parseMigrationSuggestionResponse_option floatRepr limits hparsed, _, _,
        rfl, rfl⟩

end

def rsaItem : MigrationItem :=
  letI := asciiText
  recommendMigration 1 "www".toList "certificate".toList "RSA-2048".toList "RSA".toList 84 .critical
    { field := RiskEngine.emptyContext } fun _ => false

def inventedTarget : List Char :=
  "\x7b\"target_algorithm\": \"MadeUp-PQC-999\", \"confidence\": 0.99\x7d".toList

theorem inventedTarget_guarded : letI := asciiText
    ∃ item, suggestMigration (fun _ => []) { recursion := 1000 } rsaItem inventedTarget = .ok item ∧
      ∃ option ∈ allowedMigrationOptions rsaItem, ∃ rationale confidence,
        item.1 = { rsaItem with
          recommendation := { option.recommendation with rationale, confidence } } ∧
        item.2.selectedCandidateId = option.candidateId := by
  let := asciiText
  have hok : (suggestMigration (fun _ => []) { recursion := 1000 } rsaItem
      inventedTarget).toBool = true := by
    decide +kernel
  cases hrun : suggestMigration (fun _ => []) { recursion := 1000 } rsaItem inventedTarget with
  | error e =>
      rw [hrun] at hok
      cases hok
  | ok item => exact ⟨item, rfl, suggestMigration_guarded _ _ rsaItem inventedTarget item hrun⟩

end CryptoScanner.Llm
