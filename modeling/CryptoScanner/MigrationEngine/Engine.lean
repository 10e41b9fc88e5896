import CryptoScanner.MigrationEngine.Rules
import CryptoScanner.RiskEngine.Engine

/-!
# The migration engine

`recommend_migration` and the functions it calls.  The rounding of a confidence to two places is the
identity on the exact rationals that occur.
-/

namespace CryptoScanner.MigrationEngine

open Library Python RiskEngine

/-! ## 1. Data -/

/-- What the engine reads of a context: the five context fields, and three entries that only a
direct caller can give. -/
structure MigrationContext where
  field : Context
  longTermSignature : Bool := false
  signatureProfile : List Char := []
  purpose : List Char := []
  deriving DecidableEq

/-- `candidate_for_algorithm`'s result. -/
structure Candidate where
  kind : Kind
  purpose : Purpose
  hybridSet : List (List Char)
  replaceSet : List (List Char)
  classicallyWeak : Bool
  longTermHybridSet : Option (List (List Char)) := none
  longTermReplaceSet : Option (List (List Char)) := none
  deriving DecidableEq, Repr

inductive Strategy
  | noChange
  | hybrid
  | replace
  deriving DecidableEq, Repr

inductive Phase
  | hybridFirst
  | replaceNow
  | monitor
  deriving DecidableEq, Repr

/-- The capabilities that a function of the engine asks for; any other text in the set changes no
result. -/
inductive Capability
  | configPolicy
  | automatedRotation
  | rollbackSupported
  | rescanValidation
  | ownerKnown
  | canarySupported
  | inventoryFresh
  | runtimePqcSupported
  deriving DecidableEq, Repr

inductive Blocker
  | runtimeCapabilityUnknown
  | configPolicyMissing
  | validationProbeMissing
  | rollbackUndefined
  | algorithmClassificationUnknown
  deriving DecidableEq, Repr

def Blocker.text : Blocker → List Char
  | .runtimeCapabilityUnknown => "runtime_capability_unknown".toList
  | .configPolicyMissing => "config_policy_missing".toList
  | .validationProbeMissing => "validation_probe_missing".toList
  | .rollbackUndefined => "rollback_undefined".toList
  | .algorithmClassificationUnknown => "algorithm_classification_unknown".toList

/-- An entry of `validation`. -/
inductive Check
  | periodicRescan
  | rescanCryptoInventory
  | verifyClientCompatibility
  | validateCertificateChain
  | verifyNegotiatedAlgorithm
  deriving DecidableEq, Repr

def Check.text : Check → List Char
  | .periodicRescan => "periodic_rescan".toList
  | .rescanCryptoInventory => "rescan_crypto_inventory".toList
  | .verifyClientCompatibility => "verify_client_compatibility".toList
  | .validateCertificateChain => "validate_certificate_chain".toList
  | .verifyNegotiatedAlgorithm => "verify_negotiated_algorithm".toList

structure Recommendation where
  strategy : Strategy
  targetAlgorithm : List Char
  targetAlgorithmSet : List (List Char)
  finalAlgorithmSet : List (List Char)
  phase : Phase
  blockers : List Blocker
  rollback : List Char
  validation : List Check
  rationale : List Char
  confidence : ℚ
  deriving DecidableEq, Repr

structure Alternative where
  strategy : Strategy
  targetAlgorithm : List Char
  tradeOff : List Char
  deriving DecidableEq, Repr

inductive AgilityLevel
  | high
  | medium
  | low
  deriving DecidableEq, Repr

structure Agility where
  score : Nat
  level : AgilityLevel
  blockers : List Blocker
  enablers : List Capability
  deriving DecidableEq, Repr

inductive StepKind
  | monitor
  | removeBlockers
  | preparePqcTransition
  | completePqcTransition
  | replaceAlgorithm
  deriving DecidableEq, Repr

structure PlaybookStep where
  order : Nat
  kind : StepKind
  title : List Char
  action : List Char
  validation : List Char
  deriving DecidableEq, Repr

structure CurrentAlgorithm where
  algorithm : List Char
  keySizeBits : Option Nat
  quantumVulnerable : Bool
  deriving DecidableEq, Repr

/-- `recommend_migration`'s result. -/
structure MigrationItem where
  assetId : Nat
  assetName : List Char
  assetType : List Char
  assetPurpose : Purpose
  current : CurrentAlgorithm
  recommendation : Recommendation
  alternatives : List Alternative
  riskScore : Int
  tier : Tier
  agility : Agility
  playbook : List PlaybookStep
  deriving DecidableEq, Repr

/-- `a or b` on lists. -/
def orElse {α : Type} (a b : List α) : List α := if a.isEmpty then b else a

def joinTexts (sep : String) (texts : List (List Char)) : List Char :=
  List.intercalate sep.toList texts

section

variable [PyText]

/-! ## 2. The candidate -/

def SetEntry.render (current : List Char) : SetEntry → List Char
  | .name text => text.toList
  | .algorithm => current

def renderAlgorithmSet (values : List SetEntry) (current : List Char) : List (List Char) :=
  values.map (SetEntry.render current)

def inferPurpose (kind : Kind) (combined : List Char) : Purpose :=
  if Has "SLH-DSA" combined then .longTermSignature
  else if Has "ML-DSA" combined ∨ Has "FALCON" combined ∨ Has "FN-DSA" combined then
    .digitalSignature
  else if Has "ML-KEM" combined then .keyExchange
  else
    match kind with
    | .signature => .digitalSignature
    | .kem => .keyExchange
    | .hash => .hashIntegrity
    | .symmetric => .symmetricEncryption
    | .safeClassical =>
        if Has "AES" combined ∨ Has "CHACHA" combined then .symmetricEncryption
        else if Has "SHA" combined ∨ Has "HMAC" combined then .hashIntegrity
        else .unknown
    -- a post-quantum name has been found above; the other kinds have no purpose of their own
    | _ => .unknown

def candidateFromRule (rule : Rule) (algorithm combined : List Char) : Candidate where
  kind := rule.kind
  purpose := rule.purpose.getD (inferPurpose rule.kind combined)
  -- a rule that keeps the algorithm recommends it as it is written
  hybridSet :=
    if rule.preserveCurrent then [algorithm] else renderAlgorithmSet rule.hybridSet algorithm
  replaceSet :=
    if rule.preserveCurrent then [algorithm] else renderAlgorithmSet rule.replaceSet algorithm
  classicallyWeak :=
    rule.classicallyWeak || rule.classicallyWeakIfContains.any fun marker => Has marker combined
  longTermHybridSet := rule.longTermHybridSet.map fun set => renderAlgorithmSet set algorithm
  longTermReplaceSet := rule.longTermReplaceSet.map fun set => renderAlgorithmSet set algorithm

def candidateForAlgorithm (algorithm algorithmFamily assetType : List Char) : Candidate :=
  let combined := strip (combinedText algorithmFamily algorithm)
  match mappingRules.find? fun rule => ruleMatches rule combined assetType with
  | some rule => candidateFromRule rule algorithm combined
  | none =>
      { kind := .unknown
        purpose := .unknown
        hybridSet := [algorithm]
        replaceSet := [algorithm]
        classicallyWeak := false }

def longTermSignatureMarkers : List String :=
  ["archive", "audit", "backup", "code_signing", "codesign", "legal", "notary", "package",
    "records", "timestamp", "tsa"]

def normalizeWord (value : List Char) : List Char :=
  (normalize value).map fun c => if c = '-' then '_' else c

/-- The text of `context.get("service_role")`. -/
def serviceRoleText (context : MigrationContext) : List Char :=
  let role : Option (List Char) := context.field .serviceRole
  role.getD []

def isLongTermSignatureContext (candidate : Candidate) (context : MigrationContext) : Bool :=
  -- only a rule with a set of its own for long-term signatures can be specialised
  if candidate.kind ≠ .signature then false
  else if candidate.longTermReplaceSet.getD [] = [] then false
  else if context.longTermSignature then true
  else if normalizeWord context.signatureProfile ∈
      ["LONG_TERM", "LONG_TERM_SIGNATURE", "ARCHIVE", "ARCHIVAL"].map String.toList then true
  else
    let combined :=
      normalizeWord (serviceRoleText context) ++ ' ' :: normalizeWord context.purpose
    longTermSignatureMarkers.any fun marker => (upper marker.toList) <:+: combined

def specializeCandidateForContext (candidate : Candidate) (context : MigrationContext) :
    Candidate :=
  if isLongTermSignatureContext candidate context then
    { candidate with
      purpose := .longTermSignature
      hybridSet := orElse (candidate.longTermHybridSet.getD []) candidate.hybridSet
      replaceSet := orElse (candidate.longTermReplaceSet.getD []) candidate.replaceSet }
  else candidate

/-! ## 3. The recommendation -/

omit [PyText] in
/-- `choose_strategy`; the tests of the context all lead to the same strategy. -/
def chooseStrategy (candidate : Candidate) (context : MigrationContext) : Strategy :=
  let lifespanYears : Option Nat := context.field .lifespanYears
  let exposure : Option (List Char) := context.field .exposure
  let criticality : Option (List Char) := context.field .criticality
  if candidate.kind = .pqc ∨ candidate.kind = .safeClassical then .noChange
  else if candidate.kind = .hash ∨ candidate.kind = .symmetric ∨ candidate.classicallyWeak then
    .replace
  else if candidate.kind = .unknown then .hybrid
  else if 10 ≤ lifespanYears.getD 0 then .hybrid
  else if exposure = some "public_internet".toList ∧
      (criticality = some "high".toList ∨ criticality = some "critical".toList) then .hybrid
  else if serviceRoleText context ∈ ["pki", "auth", "kms", "payment"].map String.toList then .hybrid
  else .hybrid

def buildBlockers (strategy : Strategy) (capabilities : Capability → Bool) (candidate : Candidate) :
    List Blocker :=
  (if strategy ≠ .noChange ∧ ¬ capabilities .runtimePqcSupported then
    [Blocker.runtimeCapabilityUnknown] else []) ++
  (if strategy ≠ .noChange ∧ ¬ capabilities .configPolicy then [.configPolicyMissing] else []) ++
  (if strategy ≠ .noChange ∧ ¬ capabilities .rescanValidation then
    [.validationProbeMissing] else []) ++
  (if strategy ≠ .noChange ∧ ¬ capabilities .rollbackSupported then
    [.rollbackUndefined] else []) ++
  (if candidate.kind = .unknown then [.algorithmClassificationUnknown] else [])

def rollbackFor (strategy : Strategy) (algorithm : List Char) : List Char :=
  match strategy with
  | .noChange => "No rollout is required; preserve the current configuration.".toList
  | .hybrid =>
      "Keep an approved rollback path available until service compatibility is verified.".toList
  | .replace =>
      "Keep a signed and deployable copy of the previous ".toList ++ algorithm ++
        " configuration for rollback.".toList

def validationFor (strategy : Strategy) (assetType : List Char) : List Check :=
  match strategy with
  | .noChange => [.periodicRescan]
  | _ =>
      [.rescanCryptoInventory, .verifyClientCompatibility] ++
      (if assetType = "certificate".toList then [.validateCertificateChain] else []) ++
      (if assetType = "protocol".toList ∨ assetType = "key".toList then
        [.verifyNegotiatedAlgorithm] else [])

def rationaleDetails (context : MigrationContext) : List (List Char) :=
  let lifespanYears : Option Nat := context.field .lifespanYears
  let criticality : Option (List Char) := context.field .criticality
  let exposure : Option (List Char) := context.field .exposure
  -- the source tests the years for `None`, so zero years are written, and the texts for emptiness
  (match lifespanYears with
    | some years => ["lifespan=".toList ++ (toString years).toList ++ "y".toList]
    | none => []) ++
  (if criticality.getD [] = [] then [] else ["criticality=".toList ++ criticality.getD []]) ++
  (if exposure.getD [] = [] then [] else ["exposure=".toList ++ exposure.getD []])

def rationaleFor (strategy : Strategy) (algorithm targetAlgorithm : List Char)
    (context : MigrationContext) (candidate : Candidate) : List Char :=
  match strategy with
  | .noChange =>
      algorithm ++ (" is already PQC-safe or does not require immediate migration under the " ++
        "current policy.").toList
  | .replace =>
      "The current primitive should be replaced with ".toList ++ targetAlgorithm ++
        " because a direct safer successor is available.".toList
  | .hybrid =>
      if candidate.purpose = .longTermSignature then
        "Long-term signature use requires a PQC target; prioritize ".toList ++ targetAlgorithm ++
          " for durable signature protection.".toList
      else
        let details := rationaleDetails context
        let suffix :=
          if details = [] then []
          else " (".toList ++ joinTexts ", " details ++ ")".toList
        "The current public-key primitive is quantum-vulnerable; prioritize ".toList ++
          targetAlgorithm ++ " as the PQC target".toList ++ suffix ++ ".".toList

def confidenceFor (strategy : Strategy) (blockers : List Blocker) : ℚ :=
  let base : ℚ := if strategy = .noChange then 9 / 10 else 82 / 100
  max (45 / 100) (base - blockers.length * (5 / 100))

def buildRecommendation (algorithm assetType : List Char) (context : MigrationContext)
    (capabilities : Capability → Bool) (candidate : Candidate) : Recommendation :=
  let strategy := chooseStrategy candidate context
  let finalSet := orElse candidate.replaceSet candidate.hybridSet
  -- a hybrid phase aims at the final set as well
  let targetSet := if strategy = .hybrid then finalSet else candidate.replaceSet
  let blockers := buildBlockers strategy capabilities candidate
  let phase :=
    match strategy with
    | .hybrid => Phase.hybridFirst
    | .replace => .replaceNow
    | .noChange => .monitor
  let targetAlgorithm := if targetSet.isEmpty then algorithm else joinTexts " + " targetSet
  { strategy
    targetAlgorithm
    targetAlgorithmSet := orElse targetSet [algorithm]
    finalAlgorithmSet := orElse (orElse finalSet targetSet) [algorithm]
    phase
    blockers
    rollback := rollbackFor strategy algorithm
    validation := validationFor strategy assetType
    rationale := rationaleFor strategy algorithm targetAlgorithm context candidate
    confidence := confidenceFor strategy blockers }

def buildAlternatives (recommendation : Recommendation) : List Alternative :=
  if recommendation.strategy ≠ .hybrid then []
  else
    let finalAlgorithm := joinTexts " + " recommendation.finalAlgorithmSet
    -- no alternative where both sets are written alike
    if finalAlgorithm = recommendation.targetAlgorithm then []
    else
      [{ strategy := .replace
         targetAlgorithm := finalAlgorithm
         tradeOff := ("Removes the classical dependency earlier but requires stronger " ++
          "compatibility validation.").toList }]

/-! ## 4. Agility and playbook -/

/-- `AGILITY_CAPABILITIES`, in the order of the capabilities' names. -/
def agilityCapabilities : List (Capability × Nat) :=
  [(.automatedRotation, 20), (.canarySupported, 10), (.configPolicy, 20), (.inventoryFresh, 5),
    (.ownerKnown, 10), (.rescanValidation, 15), (.rollbackSupported, 20)]

def buildAgility (capabilities : Capability → Bool) (blockers : List Blocker) : Agility :=
  let enabled := agilityCapabilities.filter fun entry => capabilities entry.1
  let score := min 100 (enabled.map Prod.snd).sum - min (blockers.length * 8) 40
  { score
    level := if 75 ≤ score then .high else if 45 ≤ score then .medium else .low
    blockers
    enablers := enabled.map Prod.fst }

def buildPlaybook (recommendation : Recommendation) (agility : Agility) : List PlaybookStep :=
  let checks := joinTexts "; " (recommendation.validation.map Check.text)
  if recommendation.strategy = .noChange then
    [{ order := 1
       kind := .monitor
       title := "Monitor cryptographic posture".toList
       action := "Keep the current algorithm and rescan after runtime or policy changes.".toList
       validation :=
        "Confirm the asset remains present with the same PQC-safe algorithm.".toList }]
  else
    let blocked := ¬ agility.blockers = []
    let order := if blocked then 2 else 1
    (if blocked then
      [{ order := 1
         kind := .removeBlockers
         title := "Resolve agility blockers".toList
         action := "Address blockers before rollout: ".toList ++
          joinTexts ", " (agility.blockers.map Blocker.text) ++ ".".toList
         validation := "Repeat discovery and confirm capabilities are known.".toList }]
      else []) ++
    (if recommendation.strategy = .hybrid then
      [{ order := order
         kind := .preparePqcTransition
         title := "Prepare PQC transition".toList
         action := "Introduce ".toList ++ recommendation.targetAlgorithm ++
          " and validate service compatibility.".toList
         validation := checks },
       { order := order + 1
         kind := .completePqcTransition
         title := "Complete PQC transition".toList
         action := "After compatibility is proven, converge on ".toList ++
          joinTexts ", " recommendation.finalAlgorithmSet ++ ".".toList
         validation := "Rescan and verify the PQC target is active.".toList }]
      else
      [{ order := order
         kind := .replaceAlgorithm
         title := "Replace algorithm".toList
         action := "Replace the current algorithm with ".toList ++ recommendation.targetAlgorithm ++
          ".".toList
         validation := checks }])

/-! ## 5. The migration item -/

def currentAlgorithm (algorithm algorithmFamily : List Char) : List Char :=
  orElse (orElse algorithm algorithmFamily) "Unknown".toList

def inferKeySize (algorithm : List Char) : Option Nat :=
  [1024, 2048, 3072, 4096, 256, 384, 521, 768].find? fun size => Has (toString size) algorithm

def recommendMigration (assetId : Nat) (assetName assetType algorithm algorithmFamily : List Char)
    (riskScore : Int) (tier : Tier) (context : MigrationContext)
    (capabilities : Capability → Bool) : MigrationItem :=
  let current := currentAlgorithm algorithm algorithmFamily
  let candidate :=
    specializeCandidateForContext (candidateForAlgorithm current algorithmFamily assetType) context
  let recommendation := buildRecommendation current assetType context capabilities candidate
  let agility := buildAgility capabilities recommendation.blockers
  { assetId
    assetName
    assetType
    assetPurpose := candidate.purpose
    current :=
      { algorithm := current
        keySizeBits := inferKeySize current
        quantumVulnerable := isQuantumVulnerable current algorithmFamily }
    recommendation
    alternatives := buildAlternatives recommendation
    riskScore
    tier
    agility
    playbook := buildPlaybook recommendation agility }

end

end CryptoScanner.MigrationEngine
