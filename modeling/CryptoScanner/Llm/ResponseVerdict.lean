import CryptoScanner.Llm.QualitativeRisk

/-!
# When the qualitative response is read without a crash

Every field is valid, invalid (the declared error) or a number that no conversion can hold.  The
parser reads the fields in order and stops at the first one that is not valid, so it crashes exactly
if that one is a number too large.
-/

namespace CryptoScanner.Llm

open Library Python

/-! ## 1. Verdicts in reading order -/

inductive Verdict where
  | valid
  | invalid
  | tooLarge
  deriving DecidableEq, Repr

/-- The verdict on what is read first, or else on what is read next. -/
def Verdict.then (first next : Verdict) : Verdict :=
  match first with
  | valid => next
  | other => other

def Verdict.all (verdicts : List Verdict) : Verdict := verdicts.foldr Verdict.then .valid

/-- A reading goes as the verdict says, and what it returns is as declared. -/
def Reads {α : Type} (verdict : Verdict) (declared : α → Prop) (result : Except PyException α) :
    Prop :=
  match verdict with
  | .valid => ∃ value, result = .ok value ∧ declared value
  | .invalid => ∃ message, result = .error (.responseParse message)
  | .tooLarge => result = .error .overflow

namespace Reads

variable {α β : Type}

theorem pure {declared : α → Prop} {value : α} (h : declared value) :
    Reads .valid declared (.ok value) := ⟨value, rfl, h⟩

theorem bind {first next : Verdict} {declared : α → Prop} {declared' : β → Prop}
    {result : Except PyException α} {continue' : α → Except PyException β}
    (h : Reads first declared result)
    (hnext : ∀ value, declared value → Reads next declared' (continue' value)) :
    Reads (first.then next) declared' (result >>= continue') := by
  cases first with
  | valid =>
      obtain ⟨value, rfl, hdeclared⟩ := h
      exact hnext value hdeclared
  | invalid =>
      obtain ⟨message, rfl⟩ := h
      exact ⟨message, rfl⟩
  | tooLarge =>
      have herror : result = .error .overflow := h
      rw [herror]
      rfl

theorem then_valid (verdict : Verdict) : verdict.then .valid = verdict := by
  cases verdict <;> rfl

theorem map {verdict : Verdict} {declared : α → Prop} {declared' : β → Prop}
    {result : Except PyException α} {make : α → β} (h : Reads verdict declared result)
    (hmake : ∀ value, declared value → declared' (make value)) :
    Reads verdict declared' (result >>= fun value => Pure.pure (make value)) := by
  rw [← then_valid verdict]
  exact h.bind fun value hvalue => Reads.pure (hmake value hvalue)

theorem mapM {verdict : α → Verdict} {declared : α → β → Prop} {read : α → Except PyException β}
    (items : List α) (h : ∀ item, Reads (verdict item) (declared item) (read item)) :
    Reads (Verdict.all (items.map verdict)) (List.Forall₂ declared items) (items.mapM read) := by
  induction items with
  | nil => exact Reads.pure List.Forall₂.nil
  | cons item items ih =>
      rw [List.mapM_cons]
      apply (h item).bind
      intro value hvalue
      exact ih.map fun values hvalues => List.Forall₂.cons hvalue hvalues

end Reads

/-! ## 2. The verdict on a response -/

section

variable [PyText] (floatRepr : PyFloat → List Char) (limits : Limits)

def stringVerdict : Json → Verdict
  | .str text => if strip text.toList = [] then .invalid else .valid
  | _ => .invalid

def choiceVerdict (allowed : List String) : Json → Verdict
  | .str text =>
      if strip text.toList = [] then .invalid
      else if lower (strip text.toList) ∈ allowed.map String.toList then .valid
      else .invalid
  | _ => .invalid

def listVerdict : Json → Verdict
  | .str text => if itemTexts floatRepr [.str text] = [] then .invalid else .valid
  | .list items => if itemTexts floatRepr items = [] then .invalid else .valid
  | _ => .invalid

/-- The verdict on a score: an integer may be too large for a double. -/
def scoreVerdict : Json → Verdict
  | .bool _ | .float _ => .valid
  | .int n => if Oversized n then .tooLarge else .valid
  | .str text => if floatOfText text.toList = none then .invalid else .valid
  | .null | .list _ | .dict _ => .invalid

/-- The verdict on a lifespan: an infinity has no integer. -/
def lifespanVerdict : Json → Verdict
  | .null | .bool _ => .valid
  | .int n => if n < 0 then .invalid else .valid
  | .float (.finite q) => if truncate q < 0 then .invalid else .valid
  | .float .inf | .float .negInf => .tooLarge
  | .float .nan | .list _ | .dict _ => .invalid
  | .str text =>
      match intOfText limits text.toList with
      | some n => if n < 0 then .invalid else .valid
      | none => .invalid

def criterionVerdict (spec : CriterionSpec) : Json → Verdict
  | .dict data =>
      (choiceVerdict ratings (JsonObject.get data "rating")).then <|
      (Verdict.all (spec.choices.map fun choice =>
        choiceVerdict choice.2 (JsonObject.get data choice.1))).then <|
      (scoreVerdict (JsonObject.get data "score")).then <|
      (if spec.hasLifespan then lifespanVerdict limits (JsonObject.get data "lifespan_years")
        else .valid).then <|
      (Verdict.all (spec.lists.map fun key => listVerdict floatRepr (JsonObject.get data key))).then <|
      (stringVerdict (JsonObject.get data "rationale")).then <|
      listVerdict floatRepr (JsonObject.get data "signals")
  | _ => .invalid

/-- The verdict on `dhs_criteria`, its criteria in reading order. -/
def criteriaVerdict : Json → Verdict
  | .dict data =>
      (criterionVerdict floatRepr limits assetValueSpec (JsonObject.get data "asset_value")).then <|
      (criterionVerdict floatRepr limits protectedInformationSpec
        (JsonObject.get data "protected_information")).then <|
      (criterionVerdict floatRepr limits communicationScopeSpec
        (JsonObject.get data "communication_scope")).then <|
      (criterionVerdict floatRepr limits sharingLevelSpec
        (JsonObject.get data "sharing_level")).then <|
      (criterionVerdict floatRepr limits criticalInfrastructureSpec
        (JsonObject.get data "critical_infrastructure")).then <|
      criterionVerdict floatRepr limits protectionDurationSpec
        (JsonObject.get data "protection_duration")
  | _ => .invalid

/-- The verdict on the object of a response, its fields in reading order. -/
def responseVerdict (data : JsonObject) : Verdict :=
  (stringVerdict (data.get "summary")).then <|
  (listVerdict floatRepr (data.get "threat_scenarios")).then <|
  (stringVerdict (data.get "migration_recommendation")).then <|
  (criteriaVerdict floatRepr limits (data.get "dhs_criteria")).then <|
  scoreVerdict (data.get "confidence")

/-! ## 3. What a response declares -/

structure CriterionDeclared (spec : CriterionSpec) (criterion : Criterion) : Prop where
  rating : criterion.rating ∈ ratings.map String.toList
  score : 0 ≤ criterion.score ∧ criterion.score ≤ 1
  choices : List.Forall₂ (fun choice value =>
    value.1 = choice.1 ∧ value.2 ∈ choice.2.map String.toList) spec.choices criterion.choices
  lifespanYears : ∀ years, criterion.lifespanYears = some years → 0 ≤ years
  lists : List.Forall₂ (fun key texts => texts.1 = key ∧ texts.2 ≠ []) spec.lists criterion.lists
  rationale : criterion.rationale ≠ []
  signals : criterion.signals ≠ []

/-! ## 4. The fields go as their verdicts say -/

theorem reads_requiredString (data : JsonObject) (key : String) :
    Reads (stringVerdict (data.get key)) (· ≠ []) (requiredString data key) := by
  unfold requiredString stringVerdict
  cases data.get key with
  | str text =>
      dsimp only
      by_cases h : strip text.toList = []
      · rw [if_pos h, if_pos h]
        exact ⟨_, rfl⟩
      · rw [if_neg h, if_neg h]
        exact Reads.pure h
  | null => exact ⟨_, rfl⟩
  | bool b => exact ⟨_, rfl⟩
  | int n => exact ⟨_, rfl⟩
  | float x => exact ⟨_, rfl⟩
  | list xs => exact ⟨_, rfl⟩
  | dict kvs => exact ⟨_, rfl⟩

theorem reads_requiredChoice (data : JsonObject) (key : String) (allowed : List String)
    (path : String) :
    Reads (choiceVerdict allowed (data.get key)) (· ∈ allowed.map String.toList)
      (requiredChoice data key allowed path) := by
  unfold requiredChoice requiredString choiceVerdict
  cases data.get key with
  | str text =>
      dsimp only
      by_cases h : strip text.toList = []
      · rw [if_pos h, if_pos h]
        exact ⟨_, rfl⟩
      · rw [if_neg h, if_neg h]
        by_cases hmem : lower (strip text.toList) ∈ allowed.map String.toList
        · rw [if_pos hmem]
          exact ⟨_, if_pos hmem, hmem⟩
        · rw [if_neg hmem]
          exact ⟨_, if_neg hmem⟩
  | null => exact ⟨_, rfl⟩
  | bool b => exact ⟨_, rfl⟩
  | int n => exact ⟨_, rfl⟩
  | float x => exact ⟨_, rfl⟩
  | list xs => exact ⟨_, rfl⟩
  | dict kvs => exact ⟨_, rfl⟩

theorem reads_stringList (value : Json) :
    Reads (listVerdict floatRepr value) (· ≠ []) (stringList floatRepr value) := by
  have hitems : ∀ items : List Json,
      Reads (if itemTexts floatRepr items = [] then .invalid else .valid) (· ≠ [])
        (if itemTexts floatRepr items = [] then
          (.error (.responseParse "LLM response field 'threat_scenarios' must not be empty") :
            Except PyException (List (List Char)))
        else .ok (itemTexts floatRepr items)) := by
    intro items
    by_cases h : itemTexts floatRepr items = []
    · rw [if_pos h, if_pos h]
      exact ⟨_, rfl⟩
    · rw [if_neg h, if_neg h]
      exact Reads.pure h
  cases value with
  | str text => exact hitems [.str text]
  | list items => exact hitems items
  | null => exact ⟨_, rfl⟩
  | bool b => exact ⟨_, rfl⟩
  | int n => exact ⟨_, rfl⟩
  | float x => exact ⟨_, rfl⟩
  | dict kvs => exact ⟨_, rfl⟩

theorem reads_confidence (value : Json) :
    Reads (scoreVerdict value) (fun q => 0 ≤ q ∧ q ≤ 1) (confidence value) := by
  have hnumber : ∀ x, pyFloat value = .ok x →
      ∃ q, confidence value = .ok q ∧ 0 ≤ q ∧ q ≤ 1 := by
    intro x hx
    unfold confidence
    rw [hx]
    cases x with
    | finite q => exact ⟨_, rfl, unitConfidence_mem _⟩
    | inf => exact ⟨_, rfl, unitConfidence_mem _⟩
    | negInf => exact ⟨_, rfl, unitConfidence_mem _⟩
    | nan => exact ⟨_, rfl, unitConfidence_mem _⟩
  cases value with
  | null => exact ⟨_, rfl⟩
  | bool b => exact hnumber _ rfl
  | int n =>
      show Reads (if Oversized n then .tooLarge else .valid) _ _
      by_cases h : Oversized n
      · rw [if_pos h]
        have hraise : pyFloat (.int n) = .error .overflow := if_pos h
        show confidence (.int n) = .error .overflow
        rw [confidence, hraise]
      · rw [if_neg h]
        exact hnumber _ (if_neg h)
  | float x => exact hnumber _ rfl
  | str text =>
      show Reads (if floatOfText text.toList = none then .invalid else .valid) _ _
      cases hread : floatOfText text.toList with
      | none =>
          have hraise : pyFloat (.str text) = .error .value := by rw [pyFloat, hread]
          rw [if_pos rfl]
          exact ⟨_, by rw [confidence, hraise]⟩
      | some x =>
          rw [if_neg (Option.some_ne_none x)]
          exact hnumber x (by rw [pyFloat, hread])
  | list xs => exact ⟨_, rfl⟩
  | dict kvs => exact ⟨_, rfl⟩

theorem reads_optionalNonNegativeInt (value : Json) :
    Reads (lifespanVerdict limits value) (fun years => ∀ n, years = some n → 0 ≤ n)
      (optionalNonNegativeInt limits value) := by
  have hnumber : ∀ n, value ≠ .null → pyInt limits value = .ok n →
      Reads (if n < 0 then .invalid else .valid) (fun years => ∀ n, years = some n → 0 ≤ n)
        (optionalNonNegativeInt limits value) := by
    intro n hne hn
    rw [optionalNonNegativeInt, if_neg hne, hn]
    dsimp only
    by_cases hneg : n < 0
    · rw [if_pos hneg, if_pos hneg]
      exact ⟨_, rfl⟩
    · rw [if_neg hneg, if_neg hneg]
      apply Reads.pure
      intro m hm
      cases hm
      exact not_lt.mp hneg
  cases value with
  | null => exact Reads.pure (fun n h => nomatch h)
  | bool b =>
      have hint := hnumber (if b then 1 else 0) (fun h => nomatch h) rfl
      rw [if_neg (by cases b <;> decide)] at hint
      exact hint
  | int n => exact hnumber n (fun h => nomatch h) rfl
  | float x =>
      cases x with
      | finite q => exact hnumber (truncate q) (fun h => nomatch h) rfl
      | inf => exact rfl
      | negInf => exact rfl
      | nan => exact ⟨_, rfl⟩
  | str text =>
      have hne : Json.str text ≠ .null := fun h => nomatch h
      show Reads (match intOfText limits text.toList with
        | some n => if n < 0 then .invalid else .valid
        | none => .invalid) _ _
      cases hread : intOfText limits text.toList with
      | none =>
          have hraise : pyInt limits (.str text) = .error .value := by rw [pyInt, hread]
          exact ⟨_, by rw [optionalNonNegativeInt, if_neg hne, hraise]⟩
      | some n => exact hnumber n hne (by rw [pyInt, hread])
  | list xs => exact ⟨_, rfl⟩
  | dict kvs => exact ⟨_, rfl⟩

theorem reads_dhsCriterion (spec : CriterionSpec) (value : Json) :
    Reads (criterionVerdict floatRepr limits spec value) (CriterionDeclared spec)
      (dhsCriterion floatRepr limits spec value) := by
  cases value with
  | dict data =>
      have hchoice : ∀ choice : String × List String,
          Reads (choiceVerdict choice.2 (JsonObject.get data choice.1))
            (fun value => value.1 = choice.1 ∧ value.2 ∈ choice.2.map String.toList)
            (do
              let word ← requiredChoice data choice.1 choice.2 (spec.path ++ "." ++ choice.1)
              return (choice.1, word)) :=
        fun choice => (reads_requiredChoice data choice.1 choice.2 _).map fun word h => ⟨rfl, h⟩
      have hlist : ∀ key : String, Reads (listVerdict floatRepr (JsonObject.get data key))
          (fun texts => texts.1 = key ∧ texts.2 ≠ [])
          (do
            let texts ← stringList floatRepr (JsonObject.get data key)
            return (key, texts)) :=
        fun key => (reads_stringList floatRepr _).map fun texts h => ⟨rfl, h⟩
      have hlifespan : Reads
          (if spec.hasLifespan then lifespanVerdict limits (JsonObject.get data "lifespan_years")
            else .valid) (fun years => ∀ n, years = some n → 0 ≤ n)
          (lifespanOf limits spec data) := by
        unfold lifespanOf
        split
        · exact reads_optionalNonNegativeInt limits _
        · exact Reads.pure (fun n h => nomatch h)
      apply (reads_requiredChoice data "rating" ratings _).bind
      intro rating hrating
      apply (Reads.mapM spec.choices hchoice).bind
      intro choices hchoices
      apply (reads_confidence _).bind
      intro score hscore
      apply hlifespan.bind
      intro lifespanYears hyears
      apply (Reads.mapM spec.lists hlist).bind
      intro lists hlists
      apply (reads_requiredString data "rationale").bind
      intro rationale hrationale
      apply (reads_stringList floatRepr _).map
      intro signals hsignals
      exact ⟨hrating, hscore, hchoices, hyears, hlists, hrationale, hsignals⟩
  | null => exact ⟨_, rfl⟩
  | bool b => exact ⟨_, rfl⟩
  | int n => exact ⟨_, rfl⟩
  | float x => exact ⟨_, rfl⟩
  | str s => exact ⟨_, rfl⟩
  | list xs => exact ⟨_, rfl⟩

structure CriteriaDeclared (criteria : DhsCriteria) : Prop where
  assetValue : CriterionDeclared assetValueSpec criteria.assetValue
  protectedInformation : CriterionDeclared protectedInformationSpec criteria.protectedInformation
  communicationScope : CriterionDeclared communicationScopeSpec criteria.communicationScope
  sharingLevel : CriterionDeclared sharingLevelSpec criteria.sharingLevel
  criticalInfrastructure :
    CriterionDeclared criticalInfrastructureSpec criteria.criticalInfrastructure
  protectionDuration : CriterionDeclared protectionDurationSpec criteria.protectionDuration

theorem reads_dhsCriteria (value : Json) :
    Reads (criteriaVerdict floatRepr limits value) CriteriaDeclared
      (dhsCriteria floatRepr limits value) := by
  cases value with
  | dict data =>
      apply (reads_dhsCriterion floatRepr limits assetValueSpec _).bind
      intro assetValue hassetValue
      apply (reads_dhsCriterion floatRepr limits protectedInformationSpec _).bind
      intro protectedInformation hprotectedInformation
      apply (reads_dhsCriterion floatRepr limits communicationScopeSpec _).bind
      intro communicationScope hcommunicationScope
      apply (reads_dhsCriterion floatRepr limits sharingLevelSpec _).bind
      intro sharingLevel hsharingLevel
      apply (reads_dhsCriterion floatRepr limits criticalInfrastructureSpec _).bind
      intro criticalInfrastructure hcriticalInfrastructure
      apply (reads_dhsCriterion floatRepr limits protectionDurationSpec _).map
      intro protectionDuration hprotectionDuration
      exact ⟨hassetValue, hprotectedInformation, hcommunicationScope, hsharingLevel,
        hcriticalInfrastructure, hprotectionDuration⟩
  | null => exact ⟨_, rfl⟩
  | bool b => exact ⟨_, rfl⟩
  | int n => exact ⟨_, rfl⟩
  | float x => exact ⟨_, rfl⟩
  | str s => exact ⟨_, rfl⟩
  | list xs => exact ⟨_, rfl⟩

structure ResponseDeclared (response : QualitativeResponse) : Prop where
  summary : response.summary ≠ []
  threatScenarios : response.threatScenarios ≠ []
  migrationRecommendation : response.migrationRecommendation ≠ []
  dhsCriteria : CriteriaDeclared response.dhsCriteria
  confidence : 0 ≤ response.confidence ∧ response.confidence ≤ 1

def readResponse (data : JsonObject) : Except PyException QualitativeResponse := do
  return {
    summary := ← requiredString data "summary"
    threatScenarios := ← stringList floatRepr (data.get "threat_scenarios")
    migrationRecommendation := ← requiredString data "migration_recommendation"
    dhsCriteria := ← dhsCriteria floatRepr limits (data.get "dhs_criteria")
    confidence := ← confidence (data.get "confidence") }

theorem reads_readResponse (data : JsonObject) :
    Reads (responseVerdict floatRepr limits data) ResponseDeclared
      (readResponse floatRepr limits data) := by
  apply (reads_requiredString data "summary").bind
  intro summary hsummary
  apply (reads_stringList floatRepr _).bind
  intro threatScenarios hthreatScenarios
  apply (reads_requiredString data "migration_recommendation").bind
  intro migrationRecommendation hrecommendation
  apply (reads_dhsCriteria floatRepr limits _).bind
  intro dhsCriteria hcriteria
  apply (reads_confidence _).map
  intro confidence hconfidence
  exact ⟨hsummary, hthreatScenarios, hrecommendation, hcriteria, hconfidence⟩

/-! ## 5. The parser -/

/-- A response as declared, or the declared error. -/
def ResponseSafe (result : Except PyException QualitativeResponse) : Prop :=
  (∃ response, result = .ok response ∧ ResponseDeclared response) ∨
    ∃ message, result = .error (.responseParse message)

/-- No brace stops the decoder with another exception than `JSONDecodeError`, and the first field of
the object that is not valid, if there is one, is not a number too large. -/
def ResponseTame (text : List Char) : Prop :=
  match firstOutcome limits text with
  | some (.ok data) => responseVerdict floatRepr limits data ≠ .tooLarge
  | some (.error _) => False
  | none => True

theorem parseQualitativeRiskResponse_safe_iff (text : List Char) :
    ResponseSafe (parseQualitativeRiskResponse floatRepr limits text) ↔
      ResponseTame floatRepr limits text := by
  have hparse : parseQualitativeRiskResponse floatRepr limits text =
      (extractJsonObject (.responseParse "LLM response does not contain a JSON object") limits
        text >>= readResponse floatRepr limits) := rfl
  rw [hparse, extractJsonObject_eq, ResponseTame]
  cases firstOutcome limits text with
  | none => exact iff_of_true (.inr ⟨_, rfl⟩) trivial
  | some outcome =>
      cases outcome with
      | error e =>
          refine iff_of_false ?_ id
          rintro (⟨response, h, -⟩ | ⟨message, h⟩)
          · cases h
          · cases e <;> cases h
      | ok data =>
          have hreads := reads_readResponse floatRepr limits data
          show ResponseSafe (readResponse floatRepr limits data) ↔ _
          dsimp only
          cases hverdict : responseVerdict floatRepr limits data with
          | valid =>
              rw [hverdict] at hreads
              exact iff_of_true (.inl hreads) (by decide)
          | invalid =>
              rw [hverdict] at hreads
              exact iff_of_true (.inr hreads) (by decide)
          | tooLarge =>
              rw [hverdict] at hreads
              have hraise : readResponse floatRepr limits data = .error .overflow := hreads
              rw [hraise]
              refine iff_of_false ?_ (not_not.mpr rfl)
              rintro (⟨response, h, -⟩ | ⟨message, h⟩)
              · cases h
              · cases h

end

end CryptoScanner.Llm
