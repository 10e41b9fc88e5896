import CryptoScanner.Assets.Context
import CryptoScanner.Library.Distinct
import CryptoScanner.Llm.QualitativeRisk
import CryptoScanner.Python.JsonEncoder

/-!
# The heuristic qualitative assessment

What `_heuristic_qualitative_response` says of an asset: six criteria with a score in floating
point, a rating, and texts that are put together from the asset, its target and its context.
-/

namespace CryptoScanner.Qualitative

open Library Python RiskEngine Llm

/-! ## 1. Assets and contexts -/

/-- An asset with its relations loaded.  Every writer stores a dict as the metadata. -/
structure Subject where
  id : Id
  asset : Asset
  /-- `asset.target`; `asset.target_id` is set where there is one. -/
  target : Option Target
  metadata : JsonObject
  /-- The edges of the asset, in both directions. -/
  dependencies : Nat
  metadata_eq : asset.metadata = .dict metadata
  target_isSome : target.isSome = asset.target.isSome

/-- The columns of a `RiskScore` that are read. -/
structure ScoreRow where
  score : ℚ
  tier : Tier
  factors : JsonObject

def textOr (value : Option (List Char)) (other : List Char) : List Char :=
  if value.getD [] = [] then other else value.getD []

def orUnknown (value : Option (List Char)) : List Char := textOr value "unknown".toList

def sensitivity (context : Context) : Option (List Char) := context .sensitivity

def criticality (context : Context) : Option (List Char) := context .criticality

def exposure (context : Context) : Option (List Char) := context .exposure

def serviceRole (context : Context) : Option (List Char) := context .serviceRole

def lifespanYears (context : Context) : Option Nat := context .lifespanYears

def contextLevel (value : Option (List Char)) : Nat :=
  if value = some "medium".toList then 1
  else if value = some "high".toList then 2
  else if value = some "critical".toList then 3
  else 0

def exposureLevel (value : Option (List Char)) : Nat :=
  if value = some "internal_network".toList then 1
  else if value = some "dmz".toList then 2
  else if value = some "public_internet".toList then 3
  else 0

def isHigh (value : Option (List Char)) : Bool :=
  value = some "high".toList || value = some "critical".toList

/-- `lifespan if lifespan is not None else 'unknown'` -/
def lifespanText (context : Context) : List Char :=
  match lifespanYears context with
  | some years => decimalText years
  | none => "unknown".toList

def targetLabel (s : Subject) : Option (List Char) :=
  s.target.map fun target => target.host.toList ++ ':' :: decimalText target.port

def assetName (s : Subject) : List Char :=
  textOr (some s.asset.name)
    (textOr (some s.asset.bomRef) ("asset ".toList ++ decimalText (s.id + 1)))

/-- `context.get("service_role") or asset.asset_type or "unknown"` -/
def roleOf (s : Subject) (context : Context) : List Char :=
  textOr (serviceRole context) (orUnknown (some s.asset.assetType))

/-- `f"target:{target_label(asset)}" if asset.target_id else "target:unmapped"` -/
def targetSignal (s : Subject) : List Char :=
  "target:".toList ++ (targetLabel s).getD "unmapped".toList

def dedupeValues (values : List (List Char)) : List (List Char) :=
  distinct (fun _ => False) (fun a b => decide (a = b)) values

def hasAny (tokens : List String) (value : List Char) : Bool :=
  tokens.any fun token => decide (Has token value)

/-! ## 2. Floating point -/

def plus (a b : ℚ) : ℚ := nearestDouble (a + b)

def times (n : Nat) (a : ℚ) : ℚ := nearestDouble (n * a)

def plusIf (condition : Bool) (more value : ℚ) : ℚ := if condition then plus value more else value

/-- `round(max(0.0, min(1.0, value)), 2)` -/
def unitScore (value : ℚ) : ℚ := roundTwo (max 0 (min 1 value))

def qualitativeRating (score : ℚ) : List Char :=
  if cents 85 ≤ score then "critical".toList
  else if cents 65 ≤ score then "high".toList
  else if cents 35 ≤ score then "medium".toList
  else "low".toList

section

variable [PyText]

/-! ## 3. The summary -/

def familyKey (s : Subject) : List Char := upper s.asset.algorithmFamily

def isQuantumVulnerable (s : Subject) : Bool :=
  familyKey s ∈ ["RSA", "DSA", "ECDSA", "ECDH", "DH"].map String.toList

def heuristicQualitativeScore (s : Subject) (context : Context) : Int :=
  let base : Nat := if isQuantumVulnerable s then 55 else 15
  let type : Nat :=
    if s.asset.assetType = "certificate".toList then 5
    else if s.asset.assetType = "key".toList then 8
    else if s.asset.assetType = "ssh_host_key".toList then 10
    else if s.asset.assetType = "ssh_user_key".toList then 10
    else 0
  let lifespan : Nat :=
    match lifespanYears context with
    | some years => if 10 ≤ years then 10 else if 5 ≤ years then 6 else if 0 < years then 2 else 0
    | none => 0
  let score := base + type + contextLevel (sensitivity context) * 4 +
    contextLevel (criticality context) * 5 + exposureLevel (exposure context) * 5 + lifespan
  max 0 (min 100 score)

def qualitativeSummary (s : Subject) (context : Context) (score : ℚ) : List Char :=
  let algorithm := textOr (some s.asset.algorithm)
    (textOr (some s.asset.algorithmFamily) "unknown algorithm".toList)
  let target := textOr (targetLabel s) "unmapped target".toList
  let exposure := textOr (exposure context) "unknown exposure".toList
  let role := textOr (serviceRole context)
    (textOr (some s.asset.assetType) "unknown role".toList)
  let posture :=
    if 80 ≤ score then "near-term PQC migration planning is recommended."
    else if 60 ≤ score then
      "migration planning should be scheduled before the protected data or identity lifetime " ++
        "grows."
    else if isQuantumVulnerable s then
      "quantum exposure exists, but the current context lowers the immediate operational " ++
        "priority."
    else "no immediate quantum-driven replacement is indicated from the current context."
  assetName s ++ " uses ".toList ++ algorithm ++ " on ".toList ++ target ++ ". For ".toList ++
    role ++ " with ".toList ++ exposure ++ ", ".toList ++ posture.toList

def qualitativeThreatScenarios (s : Subject) (context : Context) : List (List Char) :=
  let scenarios :=
    (if isQuantumVulnerable s then ["harvest_now_decrypt_later"] else []) ++
    (if (lifespanYears context).any (5 ≤ ·) then ["long_lived_data_exposure"] else []) ++
    (if exposure context = some "public_internet".toList ∨ exposure context = some "dmz".toList then
      ["network_exposed_cryptographic_service"] else []) ++
    (if s.asset.assetType ∈
        ["certificate", "key", "ssh_host_key", "ssh_user_key"].map String.toList then
      ["service_identity_compromise"] else [])
  (if scenarios = [] then ["cryptographic_inventory_drift"] else scenarios).map String.toList

def qualitativeMigrationRecommendation (s : Subject) (score : ℚ) : List Char :=
  let family := familyKey s
  let priority := if 80 ≤ score then "Prioritize".toList else "Plan".toList
  if family = "RSA".toList then
    priority ++ (" a hybrid RSA/PQC transition and validate peer compatibility before " ++
      "replacing this asset.").toList
  else if family ∈ ["ECDSA", "DSA"].map String.toList then
    priority ++ (" replacement with ML-DSA or a hybrid certificate path where clients require " ++
      "classical trust.").toList
  else if family ∈ ["ECDH", "DH"].map String.toList then
    priority ++ (" migration to ML-KEM or a hybrid key-establishment mode for supported " ++
      "protocols.").toList
  else if "ML-".toList <+: family ∨ family ∈ ["SLH-DSA", "FN-DSA"].map String.toList then
    ("Maintain the current PQC posture and monitor interoperability, lifecycle, and policy " ++
      "requirements.").toList
  else
    priority ++ (" owner review and select a PQC or hybrid alternative if this asset protects " ++
      "long-lived data.").toList

/-! ## 4. The first three criteria -/

def baseline (score : ℚ) : List Char :=
  "; baseline migration score is ".toList ++ (toString (roundHalfEven score)).toList ++ ['.']

def serviceRoleIsBusinessCritical (role : List Char) : Bool :=
  hasAny ["auth", "customer", "payment", "db", "database", "api", "gateway", "vpn"] (lower role)

def assetValueCriterion (s : Subject) (context : Context) (score : ℚ) : Criterion :=
  let exposure := exposure context
  let criticality := criticality context
  let role := roleOf s context
  let value := plus (cents 20) (times (exposureLevel exposure) (cents 16))
  let value := plus value (times (contextLevel criticality) (cents 14))
  let value := plusIf s.target.isSome (cents 8) value
  let value := plusIf (serviceRoleIsBusinessCritical role) (cents 10) value
  { question := "Q1: asset value based on external exposure and business importance.".toList
    rating := qualitativeRating (unitScore value)
    score := unitScore value
    choices := []
    lifespanYears := none
    lists := []
    rationale :=
      assetName s ++ " is valued by exposure=".toList ++ orUnknown exposure ++
        ", criticality=".toList ++ orUnknown criticality ++ ", service_role=".toList ++
        orUnknown (some role) ++ ", and target=".toList ++
        textOr (targetLabel s) "no mapped network target".toList ++ baseline score
    signals := dedupeValues
      ["exposure:".toList ++ orUnknown exposure, "criticality:".toList ++ orUnknown criticality,
        "service_role:".toList ++ role, targetSignal s] }

def serviceRoleProtectsSensitiveInformation (role : List Char) : Bool :=
  hasAny ["auth", "backup", "customer", "database", "db", "health", "identity", "kms", "logging",
    "medical", "payment", "vault"] (lower role)

def protectedInformationCriterion (s : Subject) (context : Context) (score : ℚ) : Criterion :=
  let sensitivity := sensitivity context
  let role := roleOf s context
  let value := plus (cents 18) (times (contextLevel sensitivity) (cents 20))
  let value :=
    match lifespanYears context with
    | some years =>
        if 10 ≤ years then plus value (cents 12)
        else if 5 ≤ years then plus value (cents 8)
        else if 0 < years then plus value (cents 3)
        else value
    | none => value
  let value := plusIf (serviceRoleProtectsSensitiveInformation role) (cents 10) value
  let value := plusIf (isQuantumVulnerable s) (cents 5) value
  { question := ("Q2: protected information based on data classification and " ++
      "confidentiality needs.").toList
    rating := qualitativeRating (unitScore value)
    score := unitScore value
    choices := [("data_classification", orUnknown sensitivity)]
    lifespanYears := none
    lists := []
    rationale :=
      assetName s ++ " protects ".toList ++ orUnknown sensitivity ++
        " classified information for service_role=".toList ++ orUnknown (some role) ++
        " with lifespan_years=".toList ++ lifespanText context ++ baseline score
    signals := dedupeValues
      ["sensitivity:".toList ++ orUnknown sensitivity,
        "lifespan_years:".toList ++ lifespanText context, "service_role:".toList ++ role,
        "algorithm_family:".toList ++ orUnknown (some s.asset.algorithmFamily)] }

def communicationDirection (exposure : Option (List Char)) : List Char :=
  if exposure = some "air_gapped".toList then "none".toList
  else if exposure = some "internal_network".toList then "internal_only".toList
  else if exposure = some "dmz".toList then "external_inbound".toList
  else if exposure = some "public_internet".toList then "external_bidirectional".toList
  else "unknown".toList

def transportOf : Transport → List Char
  | .tcp => "TCP".toList
  | .udp => "UDP".toList

def communicationScopeCriterion (s : Subject) (context : Context) (score : ℚ) : Criterion :=
  let exposure := exposure context
  let direction := communicationDirection exposure
  let protocol := s.target.map (·.protocolHint.text)
  let transport := s.target.map fun target => transportOf target.transport
  let value := plus (cents 12) (times (exposureLevel exposure) (cents 22))
  let value :=
    if direction = "external_bidirectional".toList then plus value (cents 10)
    else if direction = "external_inbound".toList then plus value (cents 5)
    else value
  let value := plusIf s.target.isSome (cents 5) value
  let value := plusIf (protocol.getD [] ≠ []) (cents 3) value
  { question := ("Q3: communication scope based on internal-only versus external " ++
      "bidirectional exposure.").toList
    rating := qualitativeRating (unitScore value)
    score := unitScore value
    choices := [("exposure", orUnknown exposure), ("direction", direction)]
    lifespanYears := none
    lists := []
    rationale :=
      assetName s ++ " has exposure=".toList ++ orUnknown exposure ++ ", direction=".toList ++
        direction ++ ", protocol=".toList ++ orUnknown protocol ++ ", and target=".toList ++
        textOr (targetLabel s) "no mapped network target".toList ++ baseline score
    signals := dedupeValues
      ["exposure:".toList ++ orUnknown exposure, "direction:".toList ++ direction, targetSignal s,
        "transport:".toList ++ orUnknown transport, "protocol:".toList ++ orUnknown protocol] }

/-! ## 5. The last three criteria -/

def metadataList : Json → List Json
  | .null => []
  | .list items => items
  | value => [value]

variable (floatRepr : PyFloat → List Char)

/-- `json.dumps(metadata or {}, sort_keys=True)` -/
def metadataText (s : Subject) : List Char := dumpsSorted floatRepr (.dict s.metadata)

def sharingScope (s : Subject) (context : Context) : List Char :=
  let role := lower (roleOf s context)
  let combined := role ++ ' ' :: lower (metadataText floatRepr s)
  let exposure := exposure context
  if hasAny ["third-party", "third_party", "vendor", "external"] combined then
    "third_party".toList
  else if hasAny ["partner", "saml", "oidc", "oauth", "federation", "sso"] combined then
    "partner".toList
  else if exposure = some "public_internet".toList ∨
      hasAny ["customer", "mobile", "public"] role then "public".toList
  else if exposure = some "dmz".toList ∨ hasAny ["api", "gateway", "mail"] role then
    "third_party".toList
  else if exposure = some "air_gapped".toList then "none".toList
  else if exposure = some "internal_network".toList then "internal_only".toList
  else "unknown".toList

def externalParties (scope role : List Char) : List (List Char) :=
  if scope = "none".toList then ["none_detected".toList]
  else if scope = "internal_only".toList then ["internal_consumers".toList]
  else if scope = "partner".toList then ["partner_systems".toList]
  else if scope = "third_party".toList then ["third_party_integrations".toList]
  else if scope = "public".toList then
    if Has "customer" (lower role) then ["public_clients".toList, "customer_clients".toList]
    else ["public_clients".toList]
  else ["unknown".toList]

def sharingMetadataSignals (s : Subject) : List (List Char) :=
  (["referenced_by", "source_scanners", "source_paths", "scanner"].flatMap fun key =>
    (metadataList (s.metadata.get key)).filterMap fun value =>
      match value with
      | .str text => if text = "" then none else some (key.toList ++ ':' :: text.toList)
      | _ => none).take 4

def sharingBase (scope : List Char) : ℚ :=
  if scope = "none".toList then cents 10
  else if scope = "internal_only".toList then cents 22
  else if scope = "partner".toList then cents 58
  else if scope = "third_party".toList then cents 68
  else if scope = "public".toList then cents 82
  else cents 32

def sharingLevelCriterion (s : Subject) (context : Context) (score : ℚ) : Criterion :=
  let exposure := exposure context
  let role := roleOf s context
  let scope := sharingScope floatRepr s context
  let value := plusIf (isHigh (sensitivity context) &&
    scope ∈ ["partner", "third_party", "public"].map String.toList) (cents 8) (sharingBase scope)
  let value := plusIf (s.target.isSome && scope ≠ "none".toList) (cents 3) value
  { question := "Q4: sharing level based on third-party or partner integration.".toList
    rating := qualitativeRating (unitScore value)
    score := unitScore value
    choices := [("sharing_scope", scope)]
    lifespanYears := none
    lists := [("external_parties", externalParties scope role)]
    rationale :=
      assetName s ++ " has sharing_scope=".toList ++ scope ++ " from service_role=".toList ++
        orUnknown (some role) ++ " and exposure=".toList ++ orUnknown exposure ++ baseline score
    signals := dedupeValues
      (["sharing_scope:".toList ++ scope, "service_role:".toList ++ role,
        "exposure:".toList ++ orUnknown exposure, targetSignal s] ++
        (sharingMetadataSignals s).map fun item => "metadata:".toList ++ item) }

def roleChecks : List (String × List String) :=
  [("identity_auth", ["auth", "identity", "oidc", "oauth", "saml", "sso", "token"]),
    ("data_store", ["db", "database", "postgres", "mysql", "redis", "kafka", "storage"]),
    ("payment", ["payment", "billing", "settlement", "pci"]),
    ("key_management", ["kms", "vault", "pki", "ca", "signing", "certificate", "secret"]),
    ("backup_recovery", ["backup", "archive", "recovery"]),
    ("service_gateway", ["gateway", "api", "proxy", "ingress", "mesh"]),
    ("operations_monitoring", ["monitoring", "logging", "ci runner", "admin"])]

def infrastructureRoles (s : Subject) (context : Context) : List String :=
  let assetText := lower (s.asset.name ++ ' ' :: s.asset.assetType ++
    ' ' :: s.asset.algorithmFamily ++ ' ' :: metadataText floatRepr s)
  let combined := lower (textOr (serviceRole context) []) ++ ' ' :: assetText
  let roles := (roleChecks.filter fun check => hasAny check.2 combined).map Prod.fst
  if roles ≠ [] then roles
  else if s.target.isSome then ["network_service"]
  else ["none_detected"]

def dependencyLevel (roles : List String) (context : Context) : List Char :=
  if "none_detected" ∈ roles then "none".toList
  else if roles.any (· ∈ ["identity_auth", "data_store", "payment", "key_management",
      "backup_recovery"]) then "critical".toList
  else if roles.any (· ∈ ["service_gateway", "network_service"]) ∨
      criticality context = some "critical".toList then "core".toList
  else if "operations_monitoring" ∈ roles then "supporting".toList
  else "unknown".toList

def dependencyBase (level : List Char) : ℚ :=
  if level = "none".toList then cents 8
  else if level = "supporting".toList then cents 32
  else if level = "core".toList then cents 62
  else if level = "critical".toList then cents 82
  else cents 24

def criticalInfrastructureCriterion (s : Subject) (context : Context) (score : ℚ) : Criterion :=
  let role := roleOf s context
  let roles := infrastructureRoles floatRepr s context
  let level := dependencyLevel roles context
  let value := plusIf (isHigh (criticality context)) (cents 8) (dependencyBase level)
  let value := plusIf (isHigh (sensitivity context) &&
    level ∈ ["core", "critical"].map String.toList) (cents 5) value
  let value := plusIf (s.dependencies ≠ 0) (min (times s.dependencies (cents 3)) (cents 9)) value
  { question := ("Q5: critical infrastructure dependency based on DB, identity, payment, KMS, " ++
      "or gateway role.").toList
    rating := qualitativeRating (unitScore value)
    score := unitScore value
    choices := [("dependency_level", level)]
    lifespanYears := none
    lists := [("infrastructure_roles", roles.map String.toList)]
    rationale :=
      assetName s ++ " maps to dependency_level=".toList ++ level ++ " through roles=".toList ++
        [','].intercalate (roles.map String.toList) ++ " from service_role=".toList ++
        orUnknown (some role) ++ baseline score
    signals := dedupeValues
      (["dependency_level:".toList ++ level, "service_role:".toList ++ role,
        "criticality:".toList ++ orUnknown (criticality context),
        "dependency_count:".toList ++ decimalText s.dependencies,
        "algorithm_family:".toList ++ orUnknown (some s.asset.algorithmFamily)] ++
        roles.map fun role => "infrastructure_role:".toList ++ role.toList) }

/-- `str(flag).lower()` -/
def flagText (flag : Bool) : List Char := if flag then "true".toList else "false".toList

def protectionDurationCriterion (s : Subject) (context : Context) (score : ℚ) : Criterion :=
  let sensitivity := sensitivity context
  let criticality := criticality context
  let vulnerable := isQuantumVulnerable s
  let value :=
    match lifespanYears context with
    | none => plus (cents 14) (cents 10)
    | some years =>
        if 15 ≤ years then plus (cents 14) (cents 56)
        else if 10 ≤ years then plus (cents 14) (cents 46)
        else if 5 ≤ years then plus (cents 14) (cents 30)
        else if 0 < years then plus (cents 14) (cents 12)
        else cents 14
  let value := plusIf vulnerable (cents 16) value
  let value := plusIf (isHigh sensitivity) (cents 7) value
  let value := plusIf (isHigh criticality) (cents 5) value
  { question := "Q6: protection duration based on retention period and HNDL exposure.".toList
    rating := qualitativeRating (unitScore value)
    score := unitScore value
    choices := [("hndl_exposure", qualitativeRating (unitScore value))]
    lifespanYears := (lifespanYears context).map Int.ofNat
    lists := []
    rationale :=
      assetName s ++ " has lifespan_years=".toList ++ lifespanText context ++
        ", quantum_vulnerable=".toList ++ flagText vulnerable ++ ", sensitivity=".toList ++
        orUnknown sensitivity ++ ", and criticality=".toList ++ orUnknown criticality ++
        baseline score
    signals := dedupeValues
      ["lifespan_years:".toList ++ lifespanText context,
        "quantum_vulnerable:".toList ++ flagText vulnerable,
        "algorithm_family:".toList ++ orUnknown (some s.asset.algorithmFamily),
        "sensitivity:".toList ++ orUnknown sensitivity,
        "criticality:".toList ++ orUnknown criticality] }

/-! ## 6. The response -/

def qualitativeConfidence (s : Subject) (context : Context) (riskScore : Option ScoreRow)
    (score : ℚ) : ℚ :=
  let populated := (contextFields.filter fun field => (context field).isSome).length
  let value := plus (cents 42) (if riskScore.isSome then cents 18 else cents 4)
  let value := plus value (nearestDouble (min score 100 / 1000))
  let value := plus value (min (times populated (nearestDouble (25 / 1000))) (cents 12))
  let value := plus value (if s.asset.algorithmFamily ≠ [] then cents 5 else 0)
  let value := plus value (if s.asset.algorithm ≠ [] then cents 3 else 0)
  let value := plus value (if s.target.isSome then cents 3 else 0)
  let value := plusIf (isQuantumVulnerable s) (cents 3) value
  roundTwo (max (cents 35) (min (cents 95) value))

def qualitativeDhsCriteria (s : Subject) (context : Context) (score : ℚ) : DhsCriteria where
  assetValue := assetValueCriterion s context score
  protectedInformation := protectedInformationCriterion s context score
  communicationScope := communicationScopeCriterion s context score
  sharingLevel := sharingLevelCriterion floatRepr s context score
  criticalInfrastructure := criticalInfrastructureCriterion floatRepr s context score
  protectionDuration := protectionDurationCriterion s context score

def heuristicQualitativeResponse (s : Subject) (context : Context) (riskScore : Option ScoreRow)
    (score : ℚ) : QualitativeResponse where
  summary := qualitativeSummary s context score
  threatScenarios := qualitativeThreatScenarios s context
  migrationRecommendation := qualitativeMigrationRecommendation s score
  dhsCriteria := qualitativeDhsCriteria floatRepr s context score
  confidence := qualitativeConfidence s context riskScore score

end

end CryptoScanner.Qualitative
