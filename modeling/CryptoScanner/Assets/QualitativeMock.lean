import CryptoScanner.Assets.QualitativeCache
import CryptoScanner.Llm.ContextSuggestion

/-!
# The mock provider

The heuristic assessment of an asset whose context passed its validation keeps to the schema of the
response, so that what the mock provider writes of it is read back.
-/

namespace CryptoScanner.Qualitative

open Library Python RiskEngine Llm
open Scan (Sha256 constantDigest)

/-! ## 1. Contexts -/

/-- What the validation of a context leaves of the fields that the schema has words for, and a
lifespan that is not too long to be written. -/
structure ValidContext (limits : Limits) (context : Context) : Prop where
  sensitivity : ∀ level ∈ sensitivity context, level ∈ contextLevelValues.map String.toList
  exposure : ∀ level ∈ exposure context, level ∈ contextExposureValues.map String.toList
  lifespanYears : ∀ years ∈ lifespanYears context, (decimalText years).length ≤ limits.intDigits

section

variable [PyText] {limits : Limits} {s : Subject} {context : Context} {score : ℚ}

/-! ## 2. Texts -/

theorem nonblank_label {label : String}
    (h : ∃ c ∈ label.toList, isAscii c = true ∧ isAsciiSpace c = false) (rest : List Char) :
    Nonblank (label.toList ++ rest) :=
  (Nonblank.of_ascii h).append_right rest

theorem nonblank_baseline (text : List Char) : Nonblank (text ++ baseline score) := by
  have hbaseline : Nonblank (baseline score) :=
    ((Nonblank.of_ascii (by decide)).append_right _).append_right _
  exact hbaseline.append_left text

omit [PyText] in
theorem dedupeValues_ne_nil {values : List (List Char)} (h : values ≠ []) :
    dedupeValues values ≠ [] := by
  obtain ⟨value, hvalue⟩ := List.exists_mem_of_ne_nil values h
  intro hnil
  exact (distinct_eq_nil_iff _ _).mp hnil value hvalue

theorem nonblank_dedupeValues {values : List (List Char)} (h : ∀ text ∈ values, Nonblank text) :
    ∀ text ∈ dedupeValues values, Nonblank text :=
  fun text htext => h text (mem_of_mem_distinct _ _ htext).1

theorem nonblank_targetSignal (s : Subject) : Nonblank (targetSignal s) := by
  unfold targetSignal
  exact nonblank_label (by decide) _

theorem nonblank_words {words : List String}
    (h : ∀ word ∈ words, ∃ c ∈ word.toList, isAscii c = true ∧ isAsciiSpace c = false) :
    ∀ text ∈ words.map String.toList, Nonblank text :=
  List.forall_mem_map.mpr fun word hword => Nonblank.of_ascii (h word hword)

/-! ## 3. Words and scores -/

omit [PyText] in
theorem qualitativeRating_mem (score : ℚ) :
    qualitativeRating score ∈ ratings.map String.toList := by
  unfold qualitativeRating
  split_ifs <;> decide

omit [PyText] in
theorem unitScore_twoPlaces (value : ℚ) : TwoPlaces (unitScore value) :=
  twoPlaces_roundTwo (le_max_left _ _) (max_le zero_le_one (min_le_left _ _))

omit [PyText] in
theorem orUnknown_mem {value : Option (List Char)} {words allowed : List String}
    (h : ∀ word ∈ value, word ∈ words.map String.toList) (hsub : ∀ word ∈ words, word ∈ allowed)
    (hunknown : "unknown" ∈ allowed) : orUnknown value ∈ allowed.map String.toList := by
  unfold orUnknown textOr
  split_ifs with hempty
  · exact List.mem_map_of_mem hunknown
  · cases value with
    | none => exact absurd rfl hempty
    | some word =>
        obtain ⟨w, hw, rfl⟩ := List.mem_map.mp (h word rfl)
        exact List.mem_map_of_mem (hsub w hw)

omit [PyText] in
theorem communicationDirection_mem (exposure : Option (List Char)) :
    communicationDirection exposure ∈
      ["none", "internal_only", "external_inbound", "external_bidirectional", "unknown"].map
        String.toList := by
  unfold communicationDirection
  split_ifs <;> decide

omit [PyText] in
theorem dependencyLevel_mem (roles : List String) (context : Context) :
    dependencyLevel roles context ∈
      ["none", "supporting", "core", "critical", "unknown"].map String.toList := by
  unfold dependencyLevel
  split_ifs <;> decide

variable {floatRepr : PyFloat → List Char}

theorem sharingScope_mem (s : Subject) (context : Context) :
    sharingScope floatRepr s context ∈
      ["none", "internal_only", "partner", "third_party", "public", "unknown"].map
        String.toList := by
  unfold sharingScope
  dsimp only
  split_ifs <;> decide

theorem externalParties_valid (scope role : List Char) :
    externalParties scope role ≠ [] ∧ ∀ party ∈ externalParties scope role, Nonblank party := by
  have hwords : ∃ words : List String, externalParties scope role = words.map String.toList ∧
      words ≠ [] ∧ ∀ word ∈ words, ∃ c ∈ word.toList,
        isAscii c = true ∧ isAsciiSpace c = false := by
    unfold externalParties
    split_ifs
    · exact ⟨["none_detected"], rfl, by decide, by decide⟩
    · exact ⟨["internal_consumers"], rfl, by decide, by decide⟩
    · exact ⟨["partner_systems"], rfl, by decide, by decide⟩
    · exact ⟨["third_party_integrations"], rfl, by decide, by decide⟩
    · exact ⟨["public_clients", "customer_clients"], rfl, by decide, by decide⟩
    · exact ⟨["public_clients"], rfl, by decide, by decide⟩
    · exact ⟨["unknown"], rfl, by decide, by decide⟩
  obtain ⟨words, heq, hne, hnonblank⟩ := hwords
  rw [heq]
  exact ⟨by simpa using hne, nonblank_words hnonblank⟩

theorem infrastructureRoles_mem (s : Subject) (context : Context) :
    infrastructureRoles floatRepr s context ≠ [] ∧
      ∀ role ∈ infrastructureRoles floatRepr s context,
        role ∈ roleChecks.map Prod.fst ++ ["network_service", "none_detected"] := by
  unfold infrastructureRoles
  dsimp only
  split_ifs with hroles
  · refine ⟨hroles, fun role hrole => List.mem_append_left _ ?_⟩
    obtain ⟨check, hcheck, rfl⟩ := List.mem_map.mp hrole
    exact List.mem_map_of_mem (List.mem_of_mem_filter hcheck)
  · exact ⟨by decide, by decide⟩
  · exact ⟨by decide, by decide⟩

theorem infrastructureRoles_nonblank (s : Subject) (context : Context) :
    ∀ role ∈ (infrastructureRoles floatRepr s context).map String.toList, Nonblank role := by
  have hwords : ∀ role ∈ roleChecks.map Prod.fst ++ ["network_service", "none_detected"],
      ∃ c ∈ role.toList, isAscii c = true ∧ isAsciiSpace c = false := by
    decide
  exact nonblank_words fun role hrole => hwords role ((infrastructureRoles_mem s context).2 role hrole)

/-! ## 4. Criteria -/

theorem assetValueCriterion_valid :
    (assetValueCriterion s context score).Valid assetValueSpec limits where
  question := by
    show String.toList _ = String.toList _
    rfl
  rating := qualitativeRating_mem _
  score := unitScore_twoPlaces _
  choices := .nil
  lifespan h := absurd rfl h
  lifespan_nonneg _ h := by cases h
  lists := .nil
  rationale := nonblank_baseline _
  signals_ne := dedupeValues_ne_nil (List.cons_ne_nil _ _)
  signals := by
    apply nonblank_dedupeValues
    simp only [List.forall_mem_cons, List.not_mem_nil, false_imp_iff, implies_true, and_true]
    exact ⟨nonblank_label (by decide) _, nonblank_label (by decide) _,
      nonblank_label (by decide) _, nonblank_targetSignal s⟩

theorem protectedInformationCriterion_valid (h : ValidContext limits context) :
    (protectedInformationCriterion s context score).Valid protectedInformationSpec limits where
  question := by
    show String.toList _ = String.toList _
    rfl
  rating := qualitativeRating_mem _
  score := unitScore_twoPlaces _
  choices := .cons ⟨rfl, orUnknown_mem h.sensitivity (by decide) (by decide)⟩ .nil
  lifespan h := absurd rfl h
  lifespan_nonneg _ h := by cases h
  lists := .nil
  rationale := nonblank_baseline _
  signals_ne := dedupeValues_ne_nil (List.cons_ne_nil _ _)
  signals := by
    apply nonblank_dedupeValues
    simp only [List.forall_mem_cons, List.not_mem_nil, false_imp_iff, implies_true, and_true]
    exact ⟨nonblank_label (by decide) _, nonblank_label (by decide) _,
      nonblank_label (by decide) _, nonblank_label (by decide) _⟩

theorem communicationScopeCriterion_valid (h : ValidContext limits context) :
    (communicationScopeCriterion s context score).Valid communicationScopeSpec limits where
  question := by
    show String.toList _ = String.toList _
    rfl
  rating := qualitativeRating_mem _
  score := unitScore_twoPlaces _
  choices := .cons ⟨rfl, orUnknown_mem h.exposure (by decide) (by decide)⟩
    (.cons ⟨rfl, communicationDirection_mem _⟩ .nil)
  lifespan h := absurd rfl h
  lifespan_nonneg _ h := by cases h
  lists := .nil
  rationale := nonblank_baseline _
  signals_ne := dedupeValues_ne_nil (List.cons_ne_nil _ _)
  signals := by
    apply nonblank_dedupeValues
    simp only [List.forall_mem_cons, List.not_mem_nil, false_imp_iff, implies_true, and_true]
    exact ⟨nonblank_label (by decide) _, nonblank_label (by decide) _, nonblank_targetSignal s,
      nonblank_label (by decide) _, nonblank_label (by decide) _⟩

theorem sharingLevelCriterion_valid :
    (sharingLevelCriterion floatRepr s context score).Valid sharingLevelSpec limits where
  question := by
    show String.toList _ = String.toList _
    rfl
  rating := qualitativeRating_mem _
  score := unitScore_twoPlaces _
  choices := .cons ⟨rfl, sharingScope_mem s context⟩ .nil
  lifespan h := absurd rfl h
  lifespan_nonneg _ h := by cases h
  lists := .cons ⟨rfl, externalParties_valid _ _⟩ .nil
  rationale := nonblank_baseline _
  signals_ne := by
    unfold sharingLevelCriterion
    dsimp only
    exact dedupeValues_ne_nil (List.append_ne_nil_of_left_ne_nil (List.cons_ne_nil _ _) _)
  signals := by
    apply nonblank_dedupeValues
    rw [List.forall_mem_append, List.forall_mem_map]
    refine ⟨?_, fun item _ => nonblank_label (by decide) _⟩
    simp only [List.forall_mem_cons, List.not_mem_nil, false_imp_iff, implies_true, and_true]
    exact ⟨nonblank_label (by decide) _, nonblank_label (by decide) _,
      nonblank_label (by decide) _, nonblank_targetSignal s⟩

theorem criticalInfrastructureCriterion_valid :
    (criticalInfrastructureCriterion floatRepr s context score).Valid criticalInfrastructureSpec
      limits where
  question := by
    show String.toList _ = String.toList _
    rfl
  rating := qualitativeRating_mem _
  score := unitScore_twoPlaces _
  choices := .cons ⟨rfl, dependencyLevel_mem (infrastructureRoles floatRepr s context) context⟩ .nil
  lifespan h := absurd rfl h
  lifespan_nonneg _ h := by cases h
  lists :=
    .cons ⟨rfl, mt List.map_eq_nil_iff.mp (infrastructureRoles_mem s context).1,
      infrastructureRoles_nonblank s context⟩ .nil
  rationale := nonblank_baseline _
  signals_ne := by
    unfold criticalInfrastructureCriterion
    dsimp only
    exact dedupeValues_ne_nil (List.append_ne_nil_of_left_ne_nil (List.cons_ne_nil _ _) _)
  signals := by
    unfold criticalInfrastructureCriterion
    dsimp only
    apply nonblank_dedupeValues
    rw [List.forall_mem_append, List.forall_mem_map]
    refine ⟨?_, fun role _ => nonblank_label (by decide) _⟩
    simp only [List.forall_mem_cons, List.not_mem_nil, false_imp_iff, implies_true, and_true]
    exact ⟨nonblank_label (by decide) _, nonblank_label (by decide) _,
      nonblank_label (by decide) _, nonblank_label (by decide) _, nonblank_label (by decide) _⟩

theorem protectionDurationCriterion_valid (h : ValidContext limits context) :
    (protectionDurationCriterion s context score).Valid protectionDurationSpec limits where
  question := by
    show String.toList _ = String.toList _
    rfl
  rating := qualitativeRating_mem _
  score := unitScore_twoPlaces _
  choices := .cons ⟨rfl, by
    have hsub : ∀ rating ∈ ratings.map String.toList,
        rating ∈ ["low", "medium", "high", "critical", "unknown"].map String.toList := by
      decide
    exact hsub _ (qualitativeRating_mem _)⟩ .nil
  lifespan _ := rfl
  lifespan_nonneg years hyears := by
    obtain ⟨n, hn, rfl⟩ := Option.map_eq_some_iff.mp hyears
    exact ⟨Int.natCast_nonneg n, h.lifespanYears n hn⟩
  lists := .nil
  rationale := nonblank_baseline _
  signals_ne := dedupeValues_ne_nil (List.cons_ne_nil _ _)
  signals := by
    apply nonblank_dedupeValues
    simp only [List.forall_mem_cons, List.not_mem_nil, false_imp_iff, implies_true, and_true]
    exact ⟨nonblank_label (by decide) _, nonblank_label (by decide) _,
      nonblank_label (by decide) _, nonblank_label (by decide) _, nonblank_label (by decide) _⟩

theorem qualitativeDhsCriteria_valid (h : ValidContext limits context) :
    (qualitativeDhsCriteria floatRepr s context score).Valid limits where
  assetValue := assetValueCriterion_valid
  protectedInformation := protectedInformationCriterion_valid h
  communicationScope := communicationScopeCriterion_valid h
  sharingLevel := sharingLevelCriterion_valid
  criticalInfrastructure := criticalInfrastructureCriterion_valid
  protectionDuration := protectionDurationCriterion_valid h

/-! ## 5. The response -/

theorem qualitativeSummary_nonblank : Nonblank (qualitativeSummary s context score) := by
  unfold qualitativeSummary
  have huses : Nonblank " uses ".toList := Nonblank.of_ascii (by decide)
  have hname := huses.append_left (assetName s)
  iterate 9 apply Nonblank.append_right
  exact hname

theorem qualitativeThreatScenarios_valid :
    qualitativeThreatScenarios s context ≠ [] ∧
      ∀ scenario ∈ qualitativeThreatScenarios s context, Nonblank scenario := by
  unfold qualitativeThreatScenarios
  dsimp only
  split_ifs
  -- the list after the branches that add nothing is the one that is replaced
  all_goals first
    | exact ⟨by decide, nonblank_words (by decide)⟩
    | exact absurd rfl ‹_›

theorem qualitativeMigrationRecommendation_nonblank :
    Nonblank (qualitativeMigrationRecommendation s score) := by
  unfold qualitativeMigrationRecommendation
  dsimp only
  have hpriority : Nonblank (if 80 ≤ score then "Prioritize".toList else "Plan".toList) := by
    split_ifs
    · exact Nonblank.of_ascii (by decide)
    · exact Nonblank.of_ascii (by decide)
  split_ifs
  all_goals first
    | exact Nonblank.append_right (Nonblank.of_ascii (by decide)) _
    | exact Nonblank.of_ascii (by decide)

omit [PyText] in
theorem cents_mem {n : Nat} (h : n ≤ 100) : 0 ≤ cents n ∧ cents n ≤ 1 := by
  have hcents : ∀ n : Nat, n ≤ 100 → 0 ≤ cents n ∧ cents n ≤ 1 := by decide +kernel
  exact hcents n h

theorem qualitativeConfidence_twoPlaces (riskScore : Option ScoreRow) :
    TwoPlaces (qualitativeConfidence s context riskScore score) := by
  unfold qualitativeConfidence
  apply twoPlaces_roundTwo
  · exact le_max_of_le_left (cents_mem (by decide)).1
  · exact max_le (cents_mem (by decide)).2 (min_le_of_left_le (cents_mem (by decide)).2)

theorem heuristicQualitativeResponse_valid (h : ValidContext limits context)
    (riskScore : Option ScoreRow) :
    (heuristicQualitativeResponse floatRepr s context riskScore score).Valid limits where
  summary := qualitativeSummary_nonblank
  threatScenarios_ne := qualitativeThreatScenarios_valid.1
  threatScenarios := qualitativeThreatScenarios_valid.2
  migrationRecommendation := qualitativeMigrationRecommendation_nonblank
  dhsCriteria := qualitativeDhsCriteria_valid h
  confidence := qualitativeConfidence_twoPlaces riskScore

/-- What the mock provider writes of a heuristic assessment is read back. -/
theorem parse_mockQualitativeLlmResponse (hrepr : WritesCents floatRepr)
    (hdepth : 4 ≤ limits.recursion) (h : ValidContext limits context)
    (riskScore : Option ScoreRow) :
    parseQualitativeRiskResponse floatRepr limits (mockQualitativeLlmResponse floatRepr
        (heuristicQualitativeResponse floatRepr s context riskScore score).members) =
      .ok (heuristicQualitativeResponse floatRepr s context riskScore score).trimmed := by
  have hbefore : '\x7b' ∉ "Mock qualitative assessment:\n```json\n".toList := by decide
  have hafter : Ends "\n```".toList := ends_cons (by decide) _
  exact parseQualitativeRiskResponse_dumps hrepr hdepth
    (heuristicQualitativeResponse_valid h riskScore) hbefore hafter

variable [Sha256] {ipText : IpAddress → List Char}

/-- Where no provider is asked, a refresh keeps the stored assessment or stores the heuristic one,
and nothing falls back; where none is stored, it stores the heuristic one. -/
theorem Refresh.mock_lossless (hrepr : WritesCents floatRepr) (hdepth : 4 ≤ limits.recursion)
    {r : Refresh} (h : ValidContext limits r.context) :
    let response := r.fallbackResponse floatRepr
    parseQualitativeRiskResponse floatRepr limits
        (mockQualitativeLlmResponse floatRepr response.members) = .ok response.trimmed ∧
      (callQualitativeRiskLlm r.config r.answer = .error .unavailable →
        let heuristic := Generated.assessment (r.assessment floatRepr ipText qualitativeProvider none
          mockMetadata response.trimmed)
        generateQualitativeAssessment floatRepr limits ipText r none = heuristic ∧
          ∀ cached, generateQualitativeAssessment floatRepr limits ipText r cached = .cached ∨
            generateQualitativeAssessment floatRepr limits ipText r cached = heuristic) := by
  intro response
  have hparse : parseQualitativeRiskResponse floatRepr limits
      (mockQualitativeLlmResponse floatRepr response.members) = .ok response.trimmed :=
    parse_mockQualitativeLlmResponse hrepr hdepth h r.riskScore
  refine ⟨hparse, fun hcall => ?_⟩
  have hmiss : ∀ cached, qualitativeCacheHit cached (r.prompt ipText) (r.cacheKey floatRepr ipText)
      r.providerIdentity = false → generateQualitativeAssessment floatRepr limits ipText r cached =
        .assessment (r.assessment floatRepr ipText qualitativeProvider none mockMetadata
          response.trimmed) := by
    intro cached hcached
    unfold generateQualitativeAssessment qualitativeLlmResponse
    rw [hcall, hcached, if_neg Bool.false_ne_true]
    dsimp only
    rw [hparse]
    rfl
  refine ⟨hmiss none rfl, fun cached => ?_⟩
  cases hcached : qualitativeCacheHit cached (r.prompt ipText) (r.cacheKey floatRepr ipText)
      r.providerIdentity with
  | true => exact .inl (if_pos hcached)
  | false => exact .inr (hmiss cached hcached)

end

/-- `repr` on the numbers with two places. -/
def centsRepr : PyFloat → List Char
  | .finite q => centsText (roundHalfEven (q * 100)).toNat
  | _ => []

def gatewayCertificate : Subject where
  id := 6
  asset :=
    { snapshot := some 0
      target := some 3
      name := " gateway certificate ".toList
      assetClass := "crypto".toList
      assetType := "certificate".toList
      bomRef := "gateway:rsa".toList
      algorithm := "RSA-2048".toList
      algorithmFamily := "RSA".toList
      metadata := .dict [("scanner", .str "tls")] }
  target := some
    { host := "gateway.local"
      displayName := none
      ip := none
      port := 443
      protocolHint := .tls
      sni := none
      transport := .tcp
      agentEnabled := false
      agentUrl := none
      context :=
        { field := fun field =>
            match field with
            | .sensitivity => some "high".toList
            | .exposure => some "public_internet".toList
            | .lifespanYears => some (12 : Nat)
            | .criticality | .serviceRole => none } }
  metadata := [("scanner", .str "tls")]
  dependencies := 2
  metadata_eq := rfl
  target_isSome := rfl

def gatewayRefresh : Refresh where
  subject := gatewayCertificate
  override := none
  riskScore := none
  promptVersion := "qualitative-risk-v7"
  config := some
    { provider := "mock-rulebook", model := "", apiKey := "", baseUrl := "https://api.openai.com/v1"
      cliCommand := "codex", cliExtraArgs := [] }
  answer := .error .unavailable

theorem gatewayRefresh_lossless : letI := asciiText
    letI := constantDigest
    let limits : Limits := { recursion := 1000 }
    let response := gatewayRefresh.fallbackResponse centsRepr
    parseQualitativeRiskResponse centsRepr limits
        (mockQualitativeLlmResponse centsRepr response.members) = .ok response.trimmed ∧
      generateQualitativeAssessment centsRepr limits (fun _ => []) gatewayRefresh none =
        .assessment (gatewayRefresh.assessment centsRepr (fun _ => []) qualitativeProvider none
          mockMetadata response.trimmed) := by
  let := asciiText
  let := constantDigest
  intro limits response
  have hrepr : WritesCents centsRepr := by
    have hround : ∀ n : Nat, n ≤ 100 → (roundHalfEven (cents n * 100)).toNat = n := by
      decide +kernel
    intro n hn
    rw [centsRepr, hround n hn]
  have hcontext : ValidContext limits gatewayRefresh.context :=
    { sensitivity := by decide
      exposure := by decide
      lifespanYears := by decide }
  have hcall : callQualitativeRiskLlm gatewayRefresh.config gatewayRefresh.answer =
      .error .unavailable := by
    simp [callQualitativeRiskLlm, gatewayRefresh, disabledProviders]
  obtain ⟨hparse, hgenerate⟩ := Refresh.mock_lossless hrepr (by decide) hcontext
  exact ⟨hparse, (hgenerate hcall).1⟩

end CryptoScanner.Qualitative
