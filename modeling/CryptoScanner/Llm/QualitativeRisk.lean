import CryptoScanner.Llm.Output

/-!
# The qualitative risk response

`parse_qualitative_risk_response` and its helpers.  The six functions `_dhs_*` read a rating, the
words of a fixed set, a score, lists and texts; they differ in the fields and in the texts of their
errors.
-/

namespace CryptoScanner.Llm

open Library Python

/-! ## 1. Data -/

/-- A member of `dhs_criteria`. -/
structure Criterion where
  question : List Char
  rating : List Char
  score : ℚ
  choices : List (String × List Char)
  lifespanYears : Option Int
  lists : List (String × List (List Char))
  rationale : List Char
  signals : List (List Char)
  deriving DecidableEq, Repr

structure DhsCriteria where
  assetValue : Criterion
  protectedInformation : Criterion
  communicationScope : Criterion
  sharingLevel : Criterion
  criticalInfrastructure : Criterion
  protectionDuration : Criterion
  deriving DecidableEq, Repr

structure QualitativeResponse where
  summary : List Char
  threatScenarios : List (List Char)
  migrationRecommendation : List Char
  dhsCriteria : DhsCriteria
  confidence : ℚ
  deriving DecidableEq, Repr

/-- What a function `_dhs_*` reads besides the rating, the score, the rationale and the signals. -/
structure CriterionSpec where
  path : String
  question : String
  choices : List (String × List String) := []
  lists : List String := []
  hasLifespan : Bool := false

def ratings : List String := ["low", "medium", "high", "critical"]

section

variable [PyText] (floatRepr : PyFloat → List Char) (limits : Limits)

/-! ## 2. Fields -/

def requiredString (data : JsonObject) (key : String) : Except PyException (List Char) :=
  match data.get key with
  | .str text =>
      if strip text.toList = [] then
        .error (.responseParse ("LLM response field '" ++ key ++ "' must be a non-empty string"))
      else .ok (strip text.toList)
  | _ => .error (.responseParse ("LLM response field '" ++ key ++ "' must be a non-empty string"))

/-- A required string in lower case, which has to be one of the given words. -/
def requiredChoice (data : JsonObject) (key : String) (allowed : List String) (path : String) :
    Except PyException (List Char) := do
  let text ← requiredString data key
  if lower text ∈ allowed.map String.toList then .ok (lower text)
  else .error (.responseParse ("LLM response field '" ++ path ++ "' has an invalid value"))

def stringList (value : Json) : Except PyException (List (List Char)) := do
  let items ←
    match value with
    | .str text => .ok [Json.str text]
    | .list items => .ok items
    | _ => .error (.responseParse "LLM response field 'threat_scenarios' must be a string list")
  if itemTexts floatRepr items = [] then
    .error (.responseParse "LLM response field 'threat_scenarios' must not be empty")
  else .ok (itemTexts floatRepr items)

def confidence (value : Json) : Except PyException ℚ :=
  match pyFloat value with
  | .ok (.finite q) =>
      .ok (unitConfidence (if 1 < q ∧ q ≤ 100 then .ofRat (q / 100) else .finite q))
  | .ok x => .ok (unitConfidence x)
  | .error .value | .error .type =>
      .error (.responseParse "LLM response field 'confidence' must be numeric")
  | .error e => .error e

def optionalNonNegativeInt (value : Json) : Except PyException (Option Int) :=
  if value = .null then .ok none
  else
    match pyInt limits value with
    | .ok parsed =>
        if parsed < 0 then
          .error (.responseParse ("LLM response field " ++
            "'dhs_criteria.protection_duration.lifespan_years' must not be negative"))
        else .ok (some parsed)
    | .error .value | .error .type =>
        .error (.responseParse ("LLM response field " ++
          "'dhs_criteria.protection_duration.lifespan_years' must be numeric or null"))
    | .error e => .error e

/-! ## 3. Criteria -/

/-- `lifespan_years`, in the one criterion that has it. -/
def lifespanOf (spec : CriterionSpec) (data : JsonObject) : Except PyException (Option Int) :=
  if spec.hasLifespan then optionalNonNegativeInt limits (data.get "lifespan_years") else .ok none

/-- The body of the functions `_dhs_*`. -/
def dhsCriterion (spec : CriterionSpec) (value : Json) : Except PyException Criterion :=
  match value with
  | .dict data => do
      let rating ← requiredChoice data "rating" ratings (spec.path ++ ".rating")
      let choices ← spec.choices.mapM fun choice => do
        let word ← requiredChoice data choice.1 choice.2 (spec.path ++ "." ++ choice.1)
        return (choice.1, word)
      let score ← confidence (JsonObject.get data "score")
      let lifespanYears ← lifespanOf limits spec data
      let lists ← spec.lists.mapM fun key => do
        let texts ← stringList floatRepr (JsonObject.get data key)
        return (key, texts)
      let rationale ← requiredString data "rationale"
      let signals ← stringList floatRepr (JsonObject.get data "signals")
      let question := JsonObject.get data "question"
      return {
        question := if question.truthy then question.pyStr floatRepr else spec.question.toList
        rating, score, choices, lifespanYears, lists, rationale, signals }
  | _ => .error (.responseParse ("LLM response field '" ++ spec.path ++ "' must be an object"))

def assetValueSpec : CriterionSpec where
  path := "dhs_criteria.asset_value"
  question := "Q1: asset value based on external exposure and business importance."

def protectedInformationSpec : CriterionSpec where
  path := "dhs_criteria.protected_information"
  question :=
    "Q2: protected information based on data classification and confidentiality needs."
  choices := [("data_classification", ["low", "medium", "high", "critical", "unknown"])]

def communicationScopeSpec : CriterionSpec where
  path := "dhs_criteria.communication_scope"
  question :=
    "Q3: communication scope based on internal-only versus external bidirectional exposure."
  choices :=
    [("exposure", ["air_gapped", "internal_network", "dmz", "public_internet", "unknown"]),
      ("direction",
        ["none", "internal_only", "external_inbound", "external_bidirectional", "unknown"])]

def sharingLevelSpec : CriterionSpec where
  path := "dhs_criteria.sharing_level"
  question := "Q4: sharing level based on third-party or partner integration."
  choices :=
    [("sharing_scope", ["none", "internal_only", "partner", "third_party", "public", "unknown"])]
  lists := ["external_parties"]

def criticalInfrastructureSpec : CriterionSpec where
  path := "dhs_criteria.critical_infrastructure"
  question :=
    "Q5: critical infrastructure dependency based on DB, identity, payment, KMS, or gateway role."
  choices := [("dependency_level", ["none", "supporting", "core", "critical", "unknown"])]
  lists := ["infrastructure_roles"]

def protectionDurationSpec : CriterionSpec where
  path := "dhs_criteria.protection_duration"
  question := "Q6: protection duration based on retention period and HNDL exposure."
  choices := [("hndl_exposure", ["low", "medium", "high", "critical", "unknown"])]
  hasLifespan := true

def dhsAssetValue : Json → Except PyException Criterion :=
  dhsCriterion floatRepr limits assetValueSpec

def dhsProtectedInformation : Json → Except PyException Criterion :=
  dhsCriterion floatRepr limits protectedInformationSpec

def dhsCommunicationScope : Json → Except PyException Criterion :=
  dhsCriterion floatRepr limits communicationScopeSpec

def dhsSharingLevel : Json → Except PyException Criterion :=
  dhsCriterion floatRepr limits sharingLevelSpec

def dhsCriticalInfrastructure : Json → Except PyException Criterion :=
  dhsCriterion floatRepr limits criticalInfrastructureSpec

def dhsProtectionDuration : Json → Except PyException Criterion :=
  dhsCriterion floatRepr limits protectionDurationSpec

def dhsCriteria (value : Json) : Except PyException DhsCriteria :=
  match value with
  | .dict data => do
      return {
        assetValue := ← dhsAssetValue floatRepr limits (JsonObject.get data "asset_value")
        protectedInformation :=
          ← dhsProtectedInformation floatRepr limits (JsonObject.get data "protected_information")
        communicationScope :=
          ← dhsCommunicationScope floatRepr limits (JsonObject.get data "communication_scope")
        sharingLevel := ← dhsSharingLevel floatRepr limits (JsonObject.get data "sharing_level")
        criticalInfrastructure := ←
          dhsCriticalInfrastructure floatRepr limits (JsonObject.get data "critical_infrastructure")
        protectionDuration :=
          ← dhsProtectionDuration floatRepr limits (JsonObject.get data "protection_duration") }
  | _ => .error (.responseParse "LLM response field 'dhs_criteria' must be an object")

def parseQualitativeRiskResponse (text : List Char) : Except PyException QualitativeResponse := do
  let data ← extractJsonObject
    (.responseParse "LLM response does not contain a JSON object") limits text
  return {
    summary := ← requiredString data "summary"
    threatScenarios := ← stringList floatRepr (data.get "threat_scenarios")
    migrationRecommendation := ← requiredString data "migration_recommendation"
    dhsCriteria := ← dhsCriteria floatRepr limits (data.get "dhs_criteria")
    confidence := ← confidence (data.get "confidence") }

end

end CryptoScanner.Llm
