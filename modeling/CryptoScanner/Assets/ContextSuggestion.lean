import CryptoScanner.Assets.QualitativeCache
import CryptoScanner.Frontend.AssetContextForm
import CryptoScanner.Python.IpFormat

/-!
# A suggestion for the context of an asset

What `_heuristic_context_suggestion` recommends is what the parser of the model's answer falls back
to.  The form is filled with the result, and the operator saves it.
-/

namespace CryptoScanner.Qualitative

open Library Python RiskEngine Llm Assets Frontend Risk

/-! ## 1. The heuristics -/

section

variable [PyText]

def suggestedServiceRole (s : Subject) : List Char :=
  let pathText := lower ([' '].intercalate (metadataPaths s.metadata))
  let nameText := lower (s.asset.name ++ ' ' :: s.asset.bomRef ++ ' ' :: pathText)
  if hasAny ["auth", "login", "idp", "oauth"] nameText then "auth".toList
  else if hasAny ["db", "database", "postgres", "mysql"] nameText then "database".toList
  else if hasAny ["mail", "smtp", "imap"] nameText then "mail".toList
  else
    match s.target with
    | some target =>
        let protocol := lower target.protocolHint.text
        if protocol ∈ ["tls", "http", "https"].map String.toList then "web".toList else protocol
    | none => s.asset.assetType

def suggestedExposure (target : Option Target) : Option (List Char) :=
  target.map fun target =>
    let host := lower target.host.toList
    let ip := (target.ip.map (addressText none)).getD []
    if (["10.", "172.", "192.168."].any fun start => start.toList.isPrefixOf ip) ∨
        ([".local", ".internal"].any fun suffix => suffix.toList.isSuffixOf host) then
      "internal_network".toList
    else if target.port ∈ [80, 443, 8443] then "public_internet".toList
    else "dmz".toList

omit [PyText] in
def suggestedCriticality (role : List Char) (asset : Asset) : List Char :=
  if role ∈ ["auth", "database", "kms", "payment", "pki"].map String.toList then "critical".toList
  else if role ∈ ["web", "api", "mail"].map String.toList then "high".toList
  else if asset.assetClass = "crypto".toList then "medium".toList
  else "low".toList

def suggestedSensitivity (role : List Char) (s : Subject) : List Char :=
  if role ∈ ["auth", "database", "payment", "pki"].map String.toList then "high".toList
  else if isQuantumVulnerable s then "medium".toList
  else "low".toList

def suggestedLifespanYears (s : Subject) (sensitivity role : List Char) : Nat :=
  if role ∈ ["pki", "archive", "backup"].map String.toList then 15
  else if sensitivity ∈ ["high", "critical"].map String.toList ∧ isQuantumVulnerable s then 10
  else if s.asset.assetType ∈ ["key", "certificate"].map String.toList then 5
  else 3

def suggestionEvidence (s : Subject) (context : Context) : List (List Char) :=
  dedupeValues (["asset_type:".toList ++ s.asset.assetType,
    "algorithm_family:".toList ++ textOr (some s.asset.algorithmFamily) "unknown".toList,
    "target:".toList ++ (targetLabel s).getD "none".toList] ++
    ((metadataPaths s.metadata).take 3).map ("path:".toList ++ ·) ++
    if contextFields.any fun field => (context field).isSome then
      ["existing_context:present".toList] else [])

/-- `_heuristic_context_suggestion`; the sources are never empty. -/
def heuristicContextSuggestion (s : Subject) (context : Context) : ContextSuggestion :=
  let role := textOr (serviceRole context) (suggestedServiceRole s)
  let sensitivity := textOr (sensitivity context) (suggestedSensitivity role s)
  { recommendedContext :=
      { sensitivity := some sensitivity
        lifespanYears := some ((lifespanYears context).getD
          (suggestedLifespanYears s sensitivity role) : Nat)
        criticality := some (textOr (criticality context) (suggestedCriticality role s.asset))
        exposure :=
          if (exposure context).getD [] = [] then suggestedExposure s.target else exposure context
        serviceRole := some role }
    confidence := cents 62
    rationale := ("Recommended from current asset metadata, target protocol, and existing context " ++
      "signals.").toList
    evidence := suggestionEvidence s context }

/-! ## 2. What is recommended is valid -/

omit [PyText] in
/-- A word of a list, or nothing. -/
def OneOf (words : List String) (value : Option (List Char)) : Prop :=
  ∀ word, value = some word → word ∈ words.map String.toList

omit [PyText] in
def Takes : (field : ContextField) → Option field.Value → Prop
  | .sensitivity, word => OneOf contextLevelValues word
  | .criticality, word => OneOf contextLevelValues word
  | .exposure, word => OneOf contextExposureValues word
  | .lifespanYears, _ => True
  | .serviceRole, _ => True

omit [PyText] in
def recommendedValues (recommended : RecommendedContext) : Context
  | .sensitivity => recommended.sensitivity
  | .lifespanYears => recommended.lifespanYears.map Int.toNat
  | .criticality => recommended.criticality
  | .exposure => recommended.exposure
  | .serviceRole => recommended.serviceRole

omit [PyText] in
theorem oneOf_textOr {words : List String} {value : Option (List Char)} {other : List Char}
    (h : OneOf words value) (hother : other ∈ words.map String.toList) :
    OneOf words (some (textOr value other)) := by
  intro word hword
  rw [← Option.some.inj hword]
  unfold textOr
  split
  · exact hother
  · rename_i hne
    cases value with
    | none => exact absurd rfl hne
    | some text => exact h text rfl

omit [PyText] in
theorem textOr_ne_nil {value : Option (List Char)} {other : List Char} (h : other ≠ []) :
    textOr value other ≠ [] := by
  unfold textOr
  split
  · exact h
  · rename_i hne
    exact hne

omit [PyText] in
theorem suggestedCriticality_mem (role : List Char) (asset : Asset) :
    suggestedCriticality role asset ∈ contextLevelValues.map String.toList := by
  unfold suggestedCriticality
  split_ifs <;> decide

theorem suggestedSensitivity_mem (role : List Char) (s : Subject) :
    suggestedSensitivity role s ∈ contextLevelValues.map String.toList := by
  unfold suggestedSensitivity
  split_ifs <;> decide

theorem oneOf_suggestedExposure (target : Option Target) :
    OneOf contextExposureValues (suggestedExposure target) := by
  intro word hword
  cases target with
  | none => cases hword
  | some target =>
      rw [← Option.some.inj hword]
      dsimp only
      split_ifs <;> decide

theorem suggestedServiceRole_ne_nil {s : Subject} (h : s.asset.assetType ≠ []) :
    suggestedServiceRole s ≠ [] := by
  have hprotocol : ∀ hint : ProtocolHint, lower hint.text ≠ [] := by
    intro hint
    have hascii : ∀ c ∈ hint.text, isAscii c = true := by cases hint <;> decide
    rw [lower, PyText.lowerText_ascii _ hascii]
    cases hint <;> decide
  unfold suggestedServiceRole
  dsimp only
  split_ifs
  · decide
  · decide
  · decide
  · cases s.target with
    | none => exact h
    | some target =>
        dsimp only
        split_ifs
        · decide
        · exact hprotocol target.protocolHint

/-! ## 3. From the answer of a model to the row of an asset -/

variable (floatRepr : PyFloat → List Char) (limits : Limits)

theorem declared_of_parse {text : List Char} {fallback suggestion : ContextSuggestion}
    (h : parseContextSuggestionResponse floatRepr limits text fallback = .ok suggestion) :
    SuggestionDeclared fallback suggestion := by
  have hself := SuggestionDeclared.self fallback
  unfold parseContextSuggestionResponse at h
  cases hdata : extractJsonObject .value limits text with
  | error e =>
      rw [hdata] at h
      cases e <;> cases h <;> exact hself
  | ok data =>
      rw [hdata] at h
      simp only [readSuggestion, bind_eq_ok] at h
      obtain ⟨years, hyears, confidence, hconfidence, h⟩ := h
      cases h
      constructor
      · exact allowedOrFallback_cases floatRepr _ _ _
      · rcases nonNegativeIntOrFallback_cases limits
          ((suggestedValues data).get "lifespan_years") fallback.recommendedContext.lifespanYears
          with ⟨⟨years', hread, hdeclared⟩, -⟩ | ⟨hraise, -⟩
        · rw [hread] at hyears
          rw [← Except.ok.inj hyears]
          exact hdeclared
        · rw [hraise] at hyears
          cases hyears
      · exact allowedOrFallback_cases floatRepr _ _ _
      · exact allowedOrFallback_cases floatRepr _ _ _
      · exact serviceRoleOrFallback_cases floatRepr _ _
      · rcases confidenceOrFallback_cases (data.get "confidence") fallback.confidence with
          ⟨⟨q, hread, hrange⟩, -⟩ | ⟨hraise, -⟩
        · rw [hread] at hconfidence
          rw [← Except.ok.inj hconfidence]
          exact hrange
        · rw [hraise] at hconfidence
          cases hconfidence
      · exact rationaleOrFallback_cases _ _
      · exact stringListOrFallback_cases floatRepr _ _

omit [PyText] in
theorem oneOf_of_declared {words : List String} {value fallback : Option (List Char)}
    (hfallback : OneOf words fallback)
    (h : value = fallback ∨ ∃ word ∈ words.map String.toList, value = some word) :
    OneOf words value := by
  rcases h with rfl | ⟨word, hword, rfl⟩
  · exact hfallback
  · intro other heq
    rw [← Option.some.inj heq]
    exact hword

/-- What is recommended to an asset whose context is valid can be sent and shown. -/
theorem recommended_valid {s : Subject} {context : Context} {text : List Char}
    {suggestion : ContextSuggestion} (hvalid : ∀ field, Takes field (context field))
    (hparse : parseContextSuggestionResponse floatRepr limits text
      (heuristicContextSuggestion s context) = .ok suggestion) (field : ContextField) :
    Takes field (recommendedValues suggestion.recommendedContext field) := by
  have hdeclared := declared_of_parse floatRepr limits hparse
  cases field with
  | sensitivity =>
      apply oneOf_of_declared _ hdeclared.sensitivity
      exact oneOf_textOr (hvalid .sensitivity) (suggestedSensitivity_mem _ s)
  | criticality =>
      apply oneOf_of_declared _ hdeclared.criticality
      exact oneOf_textOr (hvalid .criticality) (suggestedCriticality_mem _ s.asset)
  | exposure =>
      apply oneOf_of_declared _ hdeclared.exposure
      show OneOf _ (if (exposure context).getD [] = [] then _ else exposure context)
      split
      · exact oneOf_suggestedExposure s.target
      · exact hvalid .exposure
  | lifespanYears => trivial
  | serviceRole => trivial

theorem recommended_shown {s : Subject} {context : Context} {text : List Char}
    {suggestion : ContextSuggestion} (htype : s.asset.assetType ≠ [])
    (hvalid : ∀ field, Takes field (context field))
    (hparse : parseContextSuggestionResponse floatRepr limits text
      (heuristicContextSuggestion s context) = .ok suggestion)
    (hyears : ∀ years, suggestion.recommendedContext.lifespanYears = some years →
      years ≤ JavaScript.maxSafeInteger) (field : ContextField) :
    Shown field (recommendedValues suggestion.recommendedContext field) := by
  have hdeclared := declared_of_parse floatRepr limits hparse
  have htakes := recommended_valid floatRepr limits hvalid hparse
  have hword : ∀ {words : List String} {value : Option (List Char)}, [] ∉ words.map String.toList →
      OneOf words value → value ≠ some [] := by
    intro words value hnil hone heq
    exact hnil (hone [] heq)
  cases field with
  | sensitivity => exact hword (by decide) (htakes .sensitivity)
  | criticality => exact hword (by decide) (htakes .criticality)
  | exposure => exact hword (by decide) (htakes .exposure)
  | lifespanYears =>
      intro n hn
      obtain ⟨years, hsome, hnat⟩ := Option.map_eq_some_iff.mp hn
      have hbound := hyears years hsome
      have hcast : years.toNat = n := hnat
      rw [← hcast]
      omega
  | serviceRole =>
      intro heq
      rcases hdeclared.serviceRole with hsame | ⟨role, hne, -, hrole⟩
      · have hfallback : textOr (serviceRole context) (suggestedServiceRole s) ≠ [] :=
          textOr_ne_nil (suggestedServiceRole_ne_nil htype)
        exact hfallback (Option.some.inj (hsame.symm.trans heq))
      · exact hne (Option.some.inj (hrole.symm.trans heq))

end

def webCertificate : Subject where
  id := 0
  asset :=
    { snapshot := some 0
      target := some 0
      name := "web.testbed.local certificate_file /etc/ssl/web.crt".toList
      assetClass := "crypto".toList
      assetType := "certificate".toList
      bomRef := "agent.app_cert_files:000000000000000000000000".toList
      algorithm := "RSA-2048".toList
      algorithmFamily := "RSA".toList
      metadata := .dict [("scanner", .str "agent.app_cert_files"),
        ("type", .str "certificate_file"), ("path", .str "/etc/ssl/web.crt"),
        ("fingerprint_sha256", .str "ab")] }
  target := some Scan.agentHost
  metadata := [("scanner", .str "agent.app_cert_files"), ("type", .str "certificate_file"),
    ("path", .str "/etc/ssl/web.crt"), ("fingerprint_sha256", .str "ab")]
  dependencies := 0
  metadata_eq := rfl
  target_isSome := rfl

def dmzAnswer : List Char :=
  ("I suggest \x7b\"recommended_context\": " ++
    "\x7b\"exposure\": \" DMZ\", \"lifespan_years\": \"7\"\x7d\x7d").toList

end CryptoScanner.Qualitative
