import CryptoScanner.Assets.Qualitative
import CryptoScanner.Llm.ResponseRoundTrip
import CryptoScanner.Scan.Candidates
import CryptoScanner.Snapshots.Redaction

/-!
# The stored qualitative assessment

`generate_qualitative_assessment` with its prompt, the call of the provider, the fallback and the
cache, and `refresh_qualitative_assessment`, which keeps one assessment for an asset.
-/

namespace CryptoScanner.Qualitative

open Library Python RiskEngine Llm
open Snapshots (contextItems sourceItems sourceText textJson tierText transportText)
open Scan (Sha256 encodeUtf8)

/-! ## 1. The prompt -/

def idPayload : Option Id → Json
  | none => .null
  | some id => .int (id + 1)

def textPayload : Option (List Char) → Json
  | none => .null
  | some text => textJson text

def qualitativeAssetPayload (s : Subject) : JsonObject :=
  [("id", idPayload (some s.id)), ("snapshot_id", idPayload s.asset.snapshot),
    ("bom_ref", textJson s.asset.bomRef), ("name", textJson s.asset.name),
    ("asset_class", textJson s.asset.assetClass), ("asset_type", textJson s.asset.assetType),
    ("algorithm", textJson s.asset.algorithm),
    ("algorithm_family", textJson s.asset.algorithmFamily),
    ("target_label", textPayload (targetLabel s)), ("metadata", .dict s.metadata)]

def qualitativeRiskPayload (riskScore : Option ScoreRow) (fallbackScore : ℚ) : JsonObject :=
  match riskScore with
  | some row =>
      [("score", .int (roundHalfEven row.score)), ("tier", textJson (tierText row.tier)),
        ("factors", .dict row.factors), ("source", .str "risk_score")]
  | none =>
      [("score", .int (roundHalfEven fallbackScore)), ("tier", .null), ("factors", .dict []),
        ("source", .str "heuristic")]

def metadataPaths (metadata : JsonObject) : List (List Char) :=
  dedupeValues <|
    (["path", "source_paths", "certificate_paths", "private_key_paths", "referenced_by"].flatMap
      fun key => metadataList (metadata.get key)).filterMap fun value =>
        match value with
        | .str text => if "/".toList <+: text.toList then some text.toList else none
        | _ => none

section

variable (ipText : IpAddress → List Char)

/-- The target of an asset, whose address is the text that the database returns. -/
def connectedService (s : Subject) : Json :=
  match s.target with
  | none => .null
  | some target =>
      .dict [("label", textPayload (targetLabel s)),
        ("display_name", textPayload (target.displayName.map String.toList)),
        ("host", .str target.host), ("ip", textPayload (target.ip.map ipText)),
        ("port", .int target.port), ("transport", .str (transportText target.transport)),
        ("protocol_hint", textJson target.protocolHint.text),
        ("sni", textPayload (target.sni.map String.toList))]

def qualitativeOperationalContext (s : Subject) (context : Context)
    (sources : ContextField → ContextSource) : JsonObject :=
  let scanners := s.metadata.get "source_scanners"
  let role := textOr (serviceRole context)
    (textOr (s.target.map (·.protocolHint.text)) s.asset.assetType)
  let source := fun field => Json.str (sourceText (sources field))
  [("connected_service", connectedService ipText s),
    ("file_paths", textsJson (metadataPaths s.metadata)),
    ("source_scanners",
      .list (metadataList (if scanners.truthy then scanners else s.metadata.get "scanner"))),
    ("data_classification", .dict
      [("level", textJson (orUnknown (sensitivity context))), ("source", source .sensitivity)]),
    ("communication_scope", .dict
      [("exposure", textJson (orUnknown (exposure context))), ("source", source .exposure)]),
    ("service_role", .dict [("value", textJson role), ("source", source .serviceRole)])]

end

structure QualitativePrompt where
  version : String
  payload : JsonObject

def buildQualitativeRiskPrompt (version : String)
    (asset context contextSources operationalContext risk : JsonObject) : QualitativePrompt where
  version := version
  payload :=
    [("asset", .dict asset), ("context", .dict context), ("context_sources", .dict contextSources),
      ("operational_context", .dict operationalContext), ("risk", .dict risk)]

/-! ## 2. The provider -/

def qualitativeProvider : String := "mock-rulebook"

def qualitativeFallbackProvider : String := "mock-rulebook-fallback"

def openaiCompatibleProviders : List String := ["openai", "openai-compatible", "openai_compatible"]

def codexCliProviders : List String := ["codex", "codex-cli", "codex_cli"]

def disabledProviders : List String :=
  ["", "disabled", "off", "none", "mock", "mock-rulebook", "heuristic"]

structure LlmConfig where
  provider : String
  model : String
  apiKey : String
  baseUrl : String
  cliCommand : String
  cliExtraArgs : List String
  deriving DecidableEq

inductive LlmException
  | unavailable
  | provider
  | timeout
  | other
  deriving DecidableEq

/-- `LlmCompletion`, but for the provider and the model, which it has from the configuration. -/
structure LlmCompletion where
  content : List Char
  usage : JsonObject

/-- `config.model or None` -/
def modelJson (model : String) : Json := if model = "" then .null else .str model

/-- `_qualitative_provider_cache_identity`; there is no configuration where `load_llm_config` raises
`LlmProviderUnavailable`. -/
def providerCacheIdentity : Option LlmConfig → JsonObject
  | none =>
      [("provider", .str qualitativeProvider), ("model", .null),
        ("config_error", .str "LlmProviderUnavailable")]
  | some config =>
      if config.provider ∈ disabledProviders then
        [("provider", .str qualitativeProvider), ("model", .null)]
      else if config.provider ∈ codexCliProviders then
        [("provider", .str config.provider), ("model", modelJson config.model),
          ("cli_command", .str config.cliCommand),
          ("cli_extra_args", .list (config.cliExtraArgs.map Json.str))]
      else
        [("provider", .str config.provider), ("model", modelJson config.model),
          ("base_url", .str config.baseUrl)]

/-- `llm_provider` in a stored payload. -/
structure ProviderMetadata where
  provider : String
  model : Json
  usage : JsonObject

def ProviderMetadata.json (m : ProviderMetadata) : Json :=
  .dict [("provider", .str m.provider), ("model", m.model), ("usage", .dict m.usage)]

def mockMetadata : ProviderMetadata := ⟨qualitativeProvider, .null, []⟩

/-- `call_qualitative_risk_llm`; `answer` is what the request to the service or the run of the
command comes to, if there is one. -/
def callQualitativeRiskLlm (config : Option LlmConfig)
    (answer : Except LlmException LlmCompletion) :
    Except LlmException (LlmCompletion × ProviderMetadata) :=
  match config with
  | none => .error .unavailable
  | some config =>
      let completed := answer.map fun completion =>
        (completion, ⟨config.provider, .str config.model, completion.usage⟩)
      if config.provider ∈ disabledProviders then .error .unavailable
      else if config.provider ∈ codexCliProviders then completed
      else if config.provider ∉ openaiCompatibleProviders then .error .unavailable
      else if config.model = "" then .error .unavailable
      else if config.apiKey = "" then .error .unavailable
      else completed

section

variable (floatRepr : PyFloat → List Char)

def mockQualitativeLlmResponse (payload : JsonObject) : List Char :=
  "Mock qualitative assessment:\n```json\n".toList ++
    (dumpsSorted floatRepr (.dict payload) ++ "\n```".toList)

def qualitativeLlmResponse (config : Option LlmConfig)
    (answer : Except LlmException LlmCompletion) (fallbackResponse : QualitativeResponse) :
    Except LlmException (List Char × ProviderMetadata) :=
  match callQualitativeRiskLlm config answer with
  | .ok (completion, metadata) => .ok (completion.content, metadata)
  | .error .unavailable =>
      .ok (mockQualitativeLlmResponse floatRepr fallbackResponse.members, mockMetadata)
  | .error e => .error e

/-! ## 3. The cache -/

/-- A stored `QualitativeAssessment`. -/
structure QualitativeAssessment where
  provider : String
  promptVersion : String
  promptPayload : JsonObject
  response : QualitativeResponse

def qualitativePromptMetadataKeys : List String := ["llm_cache", "llm_fallback", "llm_provider"]

/-- `value or {}`, where every writer stores a dict or nothing. -/
def dictOrEmpty : Json → JsonObject
  | .dict kvs => kvs
  | _ => []

variable [Sha256]

def qualitativePromptCacheKey (payload : JsonObject) : List Char :=
  Sha256.hexdigest (encodeUtf8 (dumpsCompact floatRepr (.dict payload)))

omit [Sha256] in
def qualitativeCacheHit (assessment : Option QualitativeAssessment) (prompt : QualitativePrompt)
    (cacheKey : List Char) (providerIdentity : JsonObject) : Bool :=
  match assessment with
  | none => false
  | some assessment =>
      if assessment.promptVersion ≠ prompt.version then false
      else
        let metadata := dictOrEmpty (assessment.promptPayload.get "llm_cache")
        if ¬ Json.pyEq (metadata.get "provider") (.dict providerIdentity) then false
        else if Json.pyEq (metadata.get "key") (textJson cacheKey) then true
        else
          Json.pyEq (.dict (assessment.promptPayload.filter fun entry =>
            entry.1 ∉ qualitativePromptMetadataKeys)) (.dict prompt.payload)

/-! ## 4. A refresh -/

variable [PyText] (limits : Limits) (ipText : IpAddress → List Char)

/-- What a refresh reads, and what the provider answers if it is asked.  The version is the
`QUALITATIVE_RISK_PROMPT_VERSION` of the release that runs. -/
structure Refresh where
  subject : Subject
  override : Option AssetContextOverride
  riskScore : Option ScoreRow
  promptVersion : String
  config : Option LlmConfig
  answer : Except LlmException LlmCompletion

def Refresh.context (r : Refresh) : Context := effectiveContext r.subject.target r.override

omit [Sha256] in
/-- `risk_score.score if risk_score else _heuristic_qualitative_score(asset, context)` -/
def Refresh.score (r : Refresh) : ℚ :=
  match r.riskScore with
  | some row => row.score
  | none => heuristicQualitativeScore r.subject r.context

omit [Sha256] in
def Refresh.prompt (r : Refresh) : QualitativePrompt :=
  let sources := contextSources r.subject.target r.override
  buildQualitativeRiskPrompt r.promptVersion (qualitativeAssetPayload r.subject)
    (contextItems r.context) (sourceItems sources)
    (qualitativeOperationalContext ipText r.subject r.context sources)
    (qualitativeRiskPayload r.riskScore r.score)

def Refresh.providerIdentity (r : Refresh) : JsonObject := providerCacheIdentity r.config

def Refresh.cacheKey (r : Refresh) : List Char :=
  qualitativePromptCacheKey floatRepr
    [("prompt", .dict (r.prompt ipText).payload), ("llm_provider", .dict r.providerIdentity)]

omit [Sha256] in
def Refresh.fallbackResponse (r : Refresh) : QualitativeResponse :=
  heuristicQualitativeResponse floatRepr r.subject r.context r.riskScore r.score

def Refresh.assessment (r : Refresh) (provider : String) (fallback : Option String)
    (metadata : ProviderMetadata) (response : QualitativeResponse) : QualitativeAssessment where
  provider := provider
  promptVersion := r.promptVersion
  promptPayload := (r.prompt ipText).payload ++
    [("llm_cache", .dict [("key", textJson (r.cacheKey floatRepr ipText)),
        ("provider", .dict r.providerIdentity)]),
      ("llm_fallback", .dict [("used", .bool fallback.isSome),
        ("reason", (fallback.map Json.str).getD .null)]),
      ("llm_provider", metadata.json)]
  response := response

inductive Generated
  /-- `None`: the stored assessment is used. -/
  | cached
  | assessment (row : QualitativeAssessment)
  /-- An exception that is not caught. -/
  | raised

def generateQualitativeAssessment (r : Refresh)
    (cachedAssessment : Option QualitativeAssessment) : Generated :=
  if qualitativeCacheHit cachedAssessment (r.prompt ipText) (r.cacheKey floatRepr ipText)
      r.providerIdentity then
    .cached
  else
    let fallback := fun reason metadata =>
      Generated.assessment (r.assessment floatRepr ipText qualitativeFallbackProvider (some reason)
        metadata (r.fallbackResponse floatRepr))
    match qualitativeLlmResponse floatRepr r.config r.answer (r.fallbackResponse floatRepr) with
    | .ok (text, metadata) =>
        match parseQualitativeRiskResponse floatRepr limits text with
        | .ok response =>
            .assessment (r.assessment floatRepr ipText metadata.provider none metadata response)
        | .error (.responseParse _) => fallback "QualitativeRiskResponseParseError" metadata
        | .error _ => .raised
    | .error .provider => fallback "LlmProviderError" mockMetadata
    | .error .timeout => fallback "TimeoutError" mockMetadata
    | .error .unavailable | .error .other => .raised

/-- `refresh_qualitative_assessment`: the row there is afterwards. -/
def refreshQualitativeAssessment (existing : Option QualitativeAssessment) (r : Refresh) :
    Option QualitativeAssessment :=
  match generateQualitativeAssessment floatRepr limits ipText r existing with
  | .cached | .raised => existing
  | .assessment row => some row

end

end CryptoScanner.Qualitative
