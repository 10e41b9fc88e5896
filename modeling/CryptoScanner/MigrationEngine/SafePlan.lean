import CryptoScanner.MigrationEngine.FirstMatch

/-!
# When a quantum-vulnerable asset gets a quantum-safe plan

A plan is safe unless the first rule that matches preserves the current algorithm, no rule matches,
or the successor that the rule names is the current algorithm already.
-/

namespace CryptoScanner.MigrationEngine

open Library Python RiskEngine

/-! ## 1. Successors -/

def postQuantumNames : List String :=
  ["ML-KEM-768", "ML-KEM-1024", "ML-DSA-65", "ML-DSA-87", "SLH-DSA-SHA2-128s", "SLH-DSA-SHA2-192s"]

/-- The rules that map a public-key algorithm name post-quantum algorithms only. -/
theorem publicKey_successors : ∀ rule ∈ mappingRules, rule.kind = .kem ∨ rule.kind = .signature →
    rule.preserveCurrent = false ∧ rule.replaceSet ≠ [] ∧
      ∀ entry ∈ rule.replaceSet ++ rule.longTermReplaceSet.getD [],
        entry ∈ postQuantumNames.map SetEntry.name := by
  decide +kernel

section

variable [PyText]

theorem normalize_postQuantumName : ∀ name ∈ postQuantumNames,
    ∃ marker ∈ pqcMarkers, Has marker (normalize name.toList) := by
  have hupper : ∀ name ∈ postQuantumNames, (∀ c ∈ name.toList, isAscii c = true) ∧
      (∀ c ∈ name.toList.map Char.toUpper, isAscii c = true ∧ isAsciiSpace c = false) ∧
      ∃ marker ∈ pqcMarkers, Has marker (name.toList.map Char.toUpper) := by
    decide
  intro name hname
  obtain ⟨hascii, hspace, hmarker⟩ := hupper name hname
  rw [normalize, strip_upper_ascii hascii hspace]
  exact hmarker

theorem mentions_postQuantumName {name : String} (h : name ∈ postQuantumNames)
    (algorithmFamily : List Char) : Mentions pqcMarkers name.toList algorithmFamily := by
  obtain ⟨marker, hmem, hhas⟩ := normalize_postQuantumName name h
  exact ⟨marker, hmem, .inr hhas⟩

/-- Neither successor of a weak classical primitive is quantum-vulnerable. -/
theorem classicalSuccessor_safe : ∀ name ∈ ["SHA-256+", "AES-256"],
    isQuantumVulnerable name.toList [] = false := by
  have hupper : ∀ name ∈ ["SHA-256+", "AES-256"], (∀ c ∈ name.toList, isAscii c = true) ∧
      (∀ c ∈ name.toList.map Char.toUpper, isAscii c = true ∧ isAsciiSpace c = false) ∧
      ∀ marker ∈ quantumVulnerableMarkers, ¬ Has marker [] ∧
        ¬ Has marker (name.toList.map Char.toUpper) := by
    decide
  intro name hname
  obtain ⟨hascii, hspace, hmarker⟩ := hupper name hname
  rw [Bool.eq_false_iff, ne_eq, isQuantumVulnerable_iff, not_and]
  rintro - ⟨marker, hmem, hfamily | halgorithm⟩
  · exact (hmarker marker hmem).1 hfamily
  · rw [normalize, strip_upper_ascii hascii hspace] at halgorithm
    exact (hmarker marker hmem).2 halgorithm

/-! ## 2. The plan of a candidate -/

/-- The plan changes something, and every algorithm it names is quantum-safe and another one than
the current one. -/
def SafePlan (item : MigrationItem) : Prop :=
  item.recommendation.strategy ≠ .noChange ∧
    ∀ name ∈ item.recommendation.targetAlgorithmSet ++ item.recommendation.finalAlgorithmSet ++
        item.alternatives.map Alternative.targetAlgorithm,
      isQuantumVulnerable name [] = false ∧ name ≠ item.current.algorithm

instance (item : MigrationItem) : Decidable (SafePlan item) :=
  inferInstanceAs (Decidable (_ ∧ ∀ name ∈ _, _))

omit [PyText] in
theorem chooseStrategy_eq_noChange {candidate : Candidate} {context : MigrationContext} :
    chooseStrategy candidate context = .noChange ↔
      candidate.kind = .pqc ∨ candidate.kind = .safeClassical := by
  unfold chooseStrategy
  by_cases h : candidate.kind = .pqc ∨ candidate.kind = .safeClassical
  · simp only [h, if_true]
  · simp only [h, if_false, iff_false]
    split
    · decide
    · simp only [ite_self]
      decide

variable {algorithm assetType : List Char} {context : MigrationContext}
  {capabilities : Capability → Bool} {candidate : Candidate}

omit [PyText] in
theorem buildRecommendation_strategy :
    (buildRecommendation algorithm assetType context capabilities candidate).strategy =
      chooseStrategy candidate context := by
  simp only [buildRecommendation]

omit [PyText] in
/-- A candidate with a replacement set is recommended with that set, as target and as final set. -/
theorem buildRecommendation_sets (algorithm assetType : List Char) (context : MigrationContext)
    (capabilities : Capability → Bool) (h : candidate.replaceSet ≠ []) :
    let recommendation :=
      buildRecommendation algorithm assetType context capabilities candidate
    recommendation.targetAlgorithmSet = candidate.replaceSet ∧
      recommendation.finalAlgorithmSet = candidate.replaceSet ∧
      recommendation.targetAlgorithm = joinTexts " + " candidate.replaceSet := by
  have hset : ∀ other, orElse candidate.replaceSet other = candidate.replaceSet := by
    intro other
    cases hreplace : candidate.replaceSet with
    | nil => exact absurd hreplace h
    | cons name names => rfl
  have hempty : candidate.replaceSet.isEmpty = false := by
    cases hreplace : candidate.replaceSet with
    | nil => exact absurd hreplace h
    | cons name names => rfl
  simp only [buildRecommendation, hset, ite_self, hempty, Bool.false_eq_true, if_false, and_self]

omit [PyText] in
theorem buildAlternatives_eq_nil (h : candidate.replaceSet ≠ []) :
    buildAlternatives (buildRecommendation algorithm assetType context capabilities candidate) =
      [] := by
  obtain ⟨-, hfinal, htarget⟩ :=
    buildRecommendation_sets algorithm assetType context capabilities h
  unfold buildAlternatives
  rw [hfinal, htarget]
  simp only [if_true, ite_self]

/-- Specializing a candidate keeps its kind and a replacement set. -/
theorem specialize_kind (candidate : Candidate) (context : MigrationContext) :
    (specializeCandidateForContext candidate context).kind = candidate.kind := by
  unfold specializeCandidateForContext
  split <;> rfl

theorem specialize_replaceSet :
    (specializeCandidateForContext candidate context).replaceSet = candidate.replaceSet ∨
      (candidate.kind = .signature ∧ candidate.longTermReplaceSet.getD [] ≠ [] ∧
        (specializeCandidateForContext candidate context).replaceSet =
          candidate.longTermReplaceSet.getD []) := by
  unfold specializeCandidateForContext
  by_cases hlong : isLongTermSignatureContext candidate context
  · have hkind : candidate.kind = .signature := by
      by_contra hkind
      unfold isLongTermSignatureContext at hlong
      rw [if_pos hkind] at hlong
      cases hlong
    have hset : candidate.longTermReplaceSet.getD [] ≠ [] := by
      intro hset
      unfold isLongTermSignatureContext at hlong
      rw [if_neg (not_not.mpr hkind), if_pos hset] at hlong
      cases hlong
    rw [if_pos hlong]
    refine .inr ⟨hkind, hset, ?_⟩
    cases hreplace : candidate.longTermReplaceSet.getD [] with
    | nil => exact absurd hreplace hset
    | cons name names => simp [orElse]
  · rw [if_neg hlong]
    exact .inl rfl

/-! ## 3. The plan of an asset -/

variable {assetId : Nat} {assetName algorithmFamily : List Char} {riskScore : Int} {tier : Tier}

/-- The candidate that `recommend_migration` starts from. -/
def assetCandidate (algorithm algorithmFamily assetType : List Char) : Candidate :=
  candidateForAlgorithm (currentAlgorithm algorithm algorithmFamily) algorithmFamily assetType

def plannedSet (algorithm algorithmFamily assetType : List Char) (context : MigrationContext) :
    List (List Char) :=
  (specializeCandidateForContext (assetCandidate algorithm algorithmFamily assetType)
    context).replaceSet

theorem recommendMigration_recommendation :
    (recommendMigration assetId assetName assetType algorithm algorithmFamily riskScore tier context
      capabilities).recommendation =
    buildRecommendation (currentAlgorithm algorithm algorithmFamily) assetType context capabilities
      (specializeCandidateForContext (assetCandidate algorithm algorithmFamily assetType)
        context) := by
  simp only [recommendMigration, assetCandidate]

theorem recommendMigration_alternatives :
    (recommendMigration assetId assetName assetType algorithm algorithmFamily riskScore tier context
      capabilities).alternatives =
    buildAlternatives (recommendMigration assetId assetName assetType algorithm algorithmFamily
      riskScore tier context capabilities).recommendation := by
  simp only [recommendMigration]

theorem recommendMigration_current :
    (recommendMigration assetId assetName assetType algorithm algorithmFamily riskScore tier context
      capabilities).current.algorithm = currentAlgorithm algorithm algorithmFamily := by
  simp only [recommendMigration]

theorem safePlan_iff_candidate (h : plannedSet algorithm algorithmFamily assetType context ≠ []) :
    SafePlan (recommendMigration assetId assetName assetType algorithm algorithmFamily riskScore
      tier context capabilities) ↔
    ¬ ((assetCandidate algorithm algorithmFamily assetType).kind = .pqc ∨
        (assetCandidate algorithm algorithmFamily assetType).kind = .safeClassical) ∧
      ∀ name ∈ plannedSet algorithm algorithmFamily assetType context,
        isQuantumVulnerable name [] = false ∧ name ≠ currentAlgorithm algorithm algorithmFamily := by
  obtain ⟨htarget, hfinal, -⟩ := buildRecommendation_sets
    (currentAlgorithm algorithm algorithmFamily) assetType context capabilities h
  have hstrategy : (buildRecommendation (currentAlgorithm algorithm algorithmFamily) assetType
      context capabilities (specializeCandidateForContext
        (assetCandidate algorithm algorithmFamily assetType) context)).strategy = .noChange ↔
      (assetCandidate algorithm algorithmFamily assetType).kind = .pqc ∨
        (assetCandidate algorithm algorithmFamily assetType).kind = .safeClassical := by
    rw [← specialize_kind _ context, buildRecommendation_strategy]
    exact chooseStrategy_eq_noChange
  unfold SafePlan
  rw [recommendMigration_alternatives, recommendMigration_recommendation,
    recommendMigration_current, buildAlternatives_eq_nil h, htarget, hfinal, List.map_nil,
    List.append_nil, ne_eq, hstrategy]
  simp only [List.mem_append, or_self]
  rfl

def planText (algorithm algorithmFamily : List Char) : List Char :=
  strip (combinedText algorithmFamily (currentAlgorithm algorithm algorithmFamily))

theorem candidate_of_firstRule {rule : Rule}
    (h : firstRule (planText algorithm algorithmFamily) assetType = some rule) :
    assetCandidate algorithm algorithmFamily assetType =
      candidateFromRule rule (currentAlgorithm algorithm algorithmFamily)
        (planText algorithm algorithmFamily) := by
  have hfind : (mappingRules.find? fun rule => ruleMatches rule
      (strip (combinedText algorithmFamily (currentAlgorithm algorithm algorithmFamily)))
      assetType) = some rule := h
  rw [assetCandidate, candidateForAlgorithm, hfind]
  rfl

/-- A quantum-vulnerable asset whose first rule is one for public-key algorithms has a safe plan. -/
theorem safePlan_of_publicKey {rule : Rule}
    (hrule : firstRule (planText algorithm algorithmFamily) assetType = some rule)
    (hkind : rule.kind = .kem ∨ rule.kind = .signature)
    (hvulnerable : isQuantumVulnerable algorithm algorithmFamily = true) :
    SafePlan (recommendMigration assetId assetName assetType algorithm algorithmFamily riskScore
      tier context capabilities) := by
  have hmem : rule ∈ mappingRules := List.mem_of_find?_eq_some hrule
  obtain ⟨hpreserve, hreplace, hentries⟩ := publicKey_successors rule hmem hkind
  have hcandidate := candidate_of_firstRule hrule
  have hsubset : ∀ entries : List SetEntry,
      entries ⊆ rule.replaceSet ++ rule.longTermReplaceSet.getD [] →
      ∀ name ∈ renderAlgorithmSet entries (currentAlgorithm algorithm algorithmFamily),
        ∃ known ∈ postQuantumNames, known.toList = name := by
    intro entries hsub name hname
    obtain ⟨entry, hentry, hrender⟩ := List.mem_map.mp hname
    obtain ⟨known, hknown, heq⟩ := List.mem_map.mp (hentries entry (hsub hentry))
    exact ⟨known, hknown, by rw [← hrender, ← heq]; rfl⟩
  have hreplaceSet : (candidateFromRule rule (currentAlgorithm algorithm algorithmFamily)
      (planText algorithm algorithmFamily)).replaceSet =
      renderAlgorithmSet rule.replaceSet (currentAlgorithm algorithm algorithmFamily) := by
    simp only [candidateFromRule, hpreserve, Bool.false_eq_true, if_false]
  have hlongTerm : (candidateFromRule rule (currentAlgorithm algorithm algorithmFamily)
      (planText algorithm algorithmFamily)).longTermReplaceSet.getD [] =
      renderAlgorithmSet (rule.longTermReplaceSet.getD [])
        (currentAlgorithm algorithm algorithmFamily) := by
    show (rule.longTermReplaceSet.map _).getD [] = _
    cases rule.longTermReplaceSet <;> rfl
  -- the set is the rule's, or for a long-term signature the rule's long-term set
  have hset : plannedSet algorithm algorithmFamily assetType context ≠ [] ∧
      ∀ name ∈ plannedSet algorithm algorithmFamily assetType context,
        ∃ known ∈ postQuantumNames, known.toList = name := by
    rw [plannedSet, hcandidate]
    rcases specialize_replaceSet with heq | ⟨-, hne, heq⟩
    · rw [heq, hreplaceSet]
      refine ⟨?_, hsubset _ (List.subset_append_left _ _)⟩
      simpa [renderAlgorithmSet] using hreplace
    · rw [heq]
      refine ⟨hne, ?_⟩
      rw [hlongTerm]
      exact hsubset _ (List.subset_append_right _ _)
  rw [safePlan_iff_candidate hset.1]
  constructor
  · rw [hcandidate]
    show ¬ (rule.kind = .pqc ∨ rule.kind = .safeClassical)
    rcases hkind with h | h <;> simp [h]
  · intro name hname
    obtain ⟨known, hknown, rfl⟩ := hset.2 name hname
    have hsafe : isQuantumVulnerable known.toList [] = false := by
      rw [Bool.eq_false_iff, ne_eq, isQuantumVulnerable_iff, not_and]
      exact fun h => absurd (mentions_postQuantumName hknown []) h
    refine ⟨hsafe, ?_⟩
    intro heq
    rw [← isQuantumVulnerable_currentAlgorithm, isQuantumVulnerable_iff, ← heq] at hvulnerable
    exact hvulnerable.1 (mentions_postQuantumName hknown algorithmFamily)

/-- The plan for a weak classical primitive is safe unless its successor is in place already. -/
theorem safePlan_iff_of_classical {rule : Rule} {name : String}
    (hrule : firstRule (planText algorithm algorithmFamily) assetType = some rule)
    (hkind : rule.kind = .hash ∨ rule.kind = .symmetric) (hpreserve : rule.preserveCurrent = false)
    (hreplace : rule.replaceSet = [.name name]) (hname : name ∈ ["SHA-256+", "AES-256"]) :
    SafePlan (recommendMigration assetId assetName assetType algorithm algorithmFamily riskScore
      tier context capabilities) ↔ currentAlgorithm algorithm algorithmFamily ≠ name.toList := by
  have hcandidate := candidate_of_firstRule hrule
  have hset : plannedSet algorithm algorithmFamily assetType context = [name.toList] := by
    rw [plannedSet, hcandidate]
    rcases specialize_replaceSet with heq | ⟨hsignature, -, -⟩
    · rw [heq]
      simp only [candidateFromRule, hpreserve, hreplace, Bool.false_eq_true, if_false]
      rfl
    · have hrule : rule.kind = .signature := hsignature
      rw [hrule] at hkind
      simp at hkind
  have hne : plannedSet algorithm algorithmFamily assetType context ≠ [] := by
    rw [hset]
    exact List.cons_ne_nil _ _
  rw [safePlan_iff_candidate hne, hset, hcandidate]
  show ¬ (rule.kind = .pqc ∨ rule.kind = .safeClassical) ∧ _ ↔ _
  have hkind' : ¬ (rule.kind = .pqc ∨ rule.kind = .safeClassical) := by
    rcases hkind with h | h <;> simp [h]
  simp only [hkind', not_false_eq_true, true_and, List.mem_singleton, forall_eq,
    classicalSuccessor_safe name hname]
  exact ne_comm

/-- A plan that names the current algorithm as the replacement is not safe. -/
theorem not_safePlan_of_current
    (h : (assetCandidate algorithm algorithmFamily assetType).replaceSet =
      [currentAlgorithm algorithm algorithmFamily])
    (hkind : (assetCandidate algorithm algorithmFamily assetType).kind ≠ .signature) :
    ¬ SafePlan (recommendMigration assetId assetName assetType algorithm algorithmFamily riskScore
      tier context capabilities) := by
  have hset : plannedSet algorithm algorithmFamily assetType context =
      [currentAlgorithm algorithm algorithmFamily] := by
    rw [plannedSet]
    rcases specialize_replaceSet with heq | ⟨hsignature, -, -⟩
    · rw [heq, h]
    · exact absurd hsignature hkind
  have hne : plannedSet algorithm algorithmFamily assetType context ≠ [] := by
    rw [hset]
    exact List.cons_ne_nil _ _
  rw [safePlan_iff_candidate hne, hset]
  rintro ⟨-, hnames⟩
  exact (hnames _ List.mem_cons_self).2 rfl

theorem not_safePlan_of_preserve {rule : Rule}
    (hrule : firstRule (planText algorithm algorithmFamily) assetType = some rule)
    (hpreserve : rule.preserveCurrent = true) (hkind : rule.kind ≠ .signature) :
    ¬ SafePlan (recommendMigration assetId assetName assetType algorithm algorithmFamily riskScore
      tier context capabilities) := by
  have hcandidate := candidate_of_firstRule hrule
  apply not_safePlan_of_current
  · rw [hcandidate]
    simp only [candidateFromRule, hpreserve, if_true]
  · rw [hcandidate]
    exact hkind

theorem not_safePlan_of_none
    (hrule : firstRule (planText algorithm algorithmFamily) assetType = none) :
    ¬ SafePlan (recommendMigration assetId assetName assetType algorithm algorithmFamily riskScore
      tier context capabilities) := by
  have hfind : (mappingRules.find? fun rule => ruleMatches rule
      (strip (combinedText algorithmFamily (currentAlgorithm algorithm algorithmFamily)))
      assetType) = none := hrule
  apply not_safePlan_of_current
  · rw [assetCandidate, candidateForAlgorithm, hfind]
  · rw [assetCandidate, candidateForAlgorithm, hfind]
    exact Kind.noConfusion

/-! ## 4. The exact condition -/

def NamesPublicKey (text assetType : List Char) : Prop :=
  Has "ECDSA" text ∨ NamesP256 text assetType ∨
  (Has "ED25519" text ∨ Has "ED448" text ∨ Has "EDDSA" text) ∨
  NamesEcdh text ∨ NamesKeyExchange text ∨ Has "RSA" text

instance (text assetType : List Char) : Decidable (NamesPublicKey text assetType) :=
  inferInstanceAs (Decidable (_ ∨ _))

/-- What decides the plan of a quantum-vulnerable asset: a key exchange of the asset types that
carry one comes first; else SHA-1 or AES-128 is replaced unless the algorithm is its successor
already; else no other hash or cipher may be named, and a public-key algorithm must be. -/
def PlanCovered (algorithm algorithmFamily assetType : List Char) : Prop :=
  let text := planText algorithm algorithmFamily
  let current := currentAlgorithm algorithm algorithmFamily
  (assetType ∈ ["protocol", "key_agreement"].map String.toList ∧ NamesKeyExchange text) ∨
  (NamesSha1 text ∧ current ≠ "SHA-256+".toList) ∨
  (¬ NamesSha1 text ∧ Has "AES-128" text ∧ current ≠ "AES-256".toList) ∨
  (¬ NamesSha1 text ∧ ¬ Has "AES-128" text ∧ ¬ NamesSafeClassical text ∧
    NamesPublicKey text assetType)

instance (algorithm algorithmFamily assetType : List Char) :
    Decidable (PlanCovered algorithm algorithmFamily assetType) :=
  inferInstanceAs (Decidable (_ ∨ _))

def publicKeyRules : List Rule := ecdsaRules ++ ([eddsaDefault] ++ (kemRules ++ [rsaSignature]))

theorem found_publicKeyRules {text : List Char} :
    Found publicKeyRules text assetType ↔ NamesPublicKey text assetType := by
  rw [publicKeyRules, found_append, found_append, found_append, found_ecdsaRules,
    found_eddsaDefault, found_kemRules, found_rsaSignature, NamesPublicKey]
  grind

/-- No rule for post-quantum names matches a quantum-vulnerable asset. -/
theorem not_found_pqcReady (assetType : List Char)
    (hvulnerable : isQuantumVulnerable algorithm algorithmFamily = true) :
    ¬ Found [pqcReady] (planText algorithm algorithmFamily) assetType := by
  rw [found_pqcReady]
  rintro ⟨marker, hmem, hhas⟩
  rw [← isQuantumVulnerable_currentAlgorithm, isQuantumVulnerable_iff] at hvulnerable
  have hform := markers_wellFormed marker (List.mem_append_left _ hmem)
  have hcombined : Has marker
      (combinedText algorithmFamily (currentAlgorithm algorithm algorithmFamily)) :=
    List.IsInfix.trans hhas (strip_isInfix _)
  exact hvulnerable.1 ⟨marker, hmem, (has_combinedText hform.1 hform.2).mp hcombined⟩

/-- The rules for safe hashes and ciphers keep what they find. -/
theorem not_safePlan_of_safeClassical
    (hbefore : ¬ Found ([pqcReady] ++ kexRules ++ [sha1Signing] ++ [aes128])
      (planText algorithm algorithmFamily) assetType)
    (hsafe : Found safeClassicalRules (planText algorithm algorithmFamily) assetType) :
    ¬ SafePlan (recommendMigration assetId assetName assetType algorithm algorithmFamily riskScore
      tier context capabilities) := by
  obtain ⟨rule, hmem, hrule⟩ := firstRule_mem rfl hbefore hsafe
  have hform : ∀ rule ∈ safeClassicalRules,
      rule.preserveCurrent = true ∧ rule.kind ≠ .signature := by
    decide
  exact not_safePlan_of_preserve hrule (hform rule hmem).1 (hform rule hmem).2

/-- A quantum-vulnerable asset gets a quantum-safe plan exactly if its texts are covered. -/
theorem safePlan_iff_covered (assetId : Nat)
    (assetName assetType algorithm algorithmFamily : List Char) (riskScore : Int) (tier : Tier)
    (context : MigrationContext) (capabilities : Capability → Bool)
    (hvulnerable : isQuantumVulnerable algorithm algorithmFamily = true) :
    SafePlan (recommendMigration assetId assetName assetType algorithm algorithmFamily riskScore
      tier context capabilities) ↔ PlanCovered algorithm algorithmFamily assetType := by
  have hpqc := not_found_pqcReady assetType hvulnerable
  unfold PlanCovered
  simp only
  rw [← found_kexRules, ← @found_sha1Signing _ _ assetType,
    ← @found_aes128 _ _ assetType, ← @found_safeClassicalRules _ _ assetType,
    ← found_publicKeyRules]
  -- the groups in the order of the file: the first one that finds something has the rule
  by_cases hkex : Found kexRules (planText algorithm algorithmFamily) assetType
  · obtain ⟨rule, hmem, hrule⟩ := firstRule_mem rfl hpqc hkex
    have hkind : ∀ rule ∈ kexRules, rule.kind = .kem := by decide
    exact iff_of_true (safePlan_of_publicKey hrule (.inl (hkind rule hmem)) hvulnerable)
      (.inl hkex)
  have hkex' := not_found_append hpqc hkex
  by_cases hsha : Found [sha1Signing] (planText algorithm algorithmFamily) assetType
  · obtain ⟨rule, hmem, hrule⟩ := firstRule_mem rfl hkex' hsha
    rw [List.mem_singleton] at hmem
    subst hmem
    rw [safePlan_iff_of_classical hrule (.inl rfl) rfl rfl (by decide)]
    grind
  have hsha' := not_found_append hkex' hsha
  by_cases haes : Found [aes128] (planText algorithm algorithmFamily) assetType
  · obtain ⟨rule, hmem, hrule⟩ := firstRule_mem rfl hsha' haes
    rw [List.mem_singleton] at hmem
    subst hmem
    rw [safePlan_iff_of_classical hrule (.inr rfl) rfl rfl (by decide)]
    grind
  have haes' := not_found_append hsha' haes
  by_cases hsafe : Found safeClassicalRules (planText algorithm algorithmFamily) assetType
  · apply iff_of_false (not_safePlan_of_safeClassical haes' hsafe)
    grind
  have hsafe' := not_found_append haes' hsafe
  by_cases hkey : Found publicKeyRules (planText algorithm algorithmFamily) assetType
  · obtain ⟨rule, hmem, hrule⟩ := firstRule_mem rfl hsafe' hkey
    have hkind : ∀ rule ∈ publicKeyRules, rule.kind = .kem ∨ rule.kind = .signature := by decide
    apply iff_of_true (safePlan_of_publicKey hrule (hkind rule hmem) hvulnerable)
    grind
  · have hnone := not_found_append hsafe' hkey
    apply iff_of_false (not_safePlan_of_none (firstRule_eq_none hnone))
    grind

end

def noCapability : Capability → Bool := fun _ => false

def exampleItem [PyText] (algorithm algorithmFamily assetType : String) : MigrationItem :=
  recommendMigration 0 [] assetType.toList algorithm.toList algorithmFamily.toList 45 .medium
    { field := emptyContext } noCapability

theorem rsaCertificate_safePlan :
    @SafePlan asciiText (@exampleItem asciiText "RSA-2048" "RSA" "certificate") := by
  let := asciiText
  have hvulnerable : isQuantumVulnerable "RSA-2048".toList "RSA".toList = true := by decide +kernel
  have hcovered : PlanCovered "RSA-2048".toList "RSA".toList "certificate".toList := by
    decide +kernel
  unfold exampleItem
  exact (safePlan_iff_covered 0 [] "certificate".toList "RSA-2048".toList "RSA".toList 45 .medium
    { field := emptyContext } noCapability hvulnerable).mpr hcovered

/-- The cipher at the end of the suite's name takes the plan of a safe classical primitive. -/
theorem cipherSuite_unsafePlan :
    @isQuantumVulnerable asciiText "ECDHE-RSA-CHACHA20-POLY1305".toList "RSA".toList = true ∧
      ¬ @SafePlan asciiText
        (@exampleItem asciiText "ECDHE-RSA-CHACHA20-POLY1305" "RSA" "protocol") := by
  let := asciiText
  have hvulnerable : isQuantumVulnerable "ECDHE-RSA-CHACHA20-POLY1305".toList "RSA".toList =
      true := by
    decide +kernel
  let text := planText "ECDHE-RSA-CHACHA20-POLY1305".toList "RSA".toList
  have htext : text = "RSA ECDHE-RSA-CHACHA20-POLY1305".toList := by decide +kernel
  have hbefore : ¬ Found ([pqcReady] ++ kexRules ++ [sha1Signing] ++ [aes128]) text
      "protocol".toList := by
    rw [found_append, found_append, found_append, found_kexRules, found_sha1Signing, found_aes128]
    have hwords : ¬ (("protocol".toList ∈ ["protocol", "key_agreement"].map String.toList ∧
        NamesKeyExchange text) ∨ NamesSha1 text ∨ Has "AES-128" text) := by
      rw [htext]
      decide +kernel
    rintro (((hpqc | hkex) | hsha1) | haes)
    · exact not_found_pqcReady "protocol".toList hvulnerable hpqc
    · exact hwords (Or.inl hkex)
    · exact hwords (Or.inr (Or.inl hsha1))
    · exact hwords (Or.inr (Or.inr haes))
  have hsafe : Found safeClassicalRules text "protocol".toList := by
    rw [found_safeClassicalRules, htext]
    decide +kernel
  refine ⟨hvulnerable, ?_⟩
  unfold exampleItem
  exact not_safePlan_of_safeClassical hbefore hsafe

end CryptoScanner.MigrationEngine
