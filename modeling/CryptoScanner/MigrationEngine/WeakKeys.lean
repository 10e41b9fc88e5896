import CryptoScanner.Python.Digits
import CryptoScanner.MigrationEngine.SafePlan

/-!
# Weak and adequate key sizes

The rules for RSA and Diffie-Hellman take a key for weak if the digits `1024` are anywhere in the
text; a rule of another algorithm that matches first looks at no size.
-/

namespace CryptoScanner.MigrationEngine

open Library Python RiskEngine

/-! ## 1. The strategy of a rule -/

theorem chooseStrategy_eq (candidate : Candidate) (context : MigrationContext) :
    chooseStrategy candidate context =
      if candidate.kind = .pqc ∨ candidate.kind = .safeClassical then .noChange
      else if candidate.kind = .hash ∨ candidate.kind = .symmetric ∨ candidate.classicallyWeak then
        .replace
      else .hybrid := by
  unfold chooseStrategy
  simp only [ite_self]

/-- The rules that look for a size, the rules for elliptic curves, the rules for a weak primitive
and the rules that keep what they find. -/
def sizeRules : List Rule := [dhDefault, rsaKemLike, rsaSignature]

def curveRules : List Rule := ecdsaRules ++ ([eddsaDefault] ++ ecdhRules)

def weakPrimitiveRules : List Rule := [sha1Signing, aes128]

section

variable [PyText] {assetId : Nat} {assetName assetType algorithm algorithmFamily : List Char}
  {riskScore : Int} {tier : Tier} {context : MigrationContext}
  {capabilities : Capability → Bool}

theorem specialize_classicallyWeak (candidate : Candidate) (context : MigrationContext) :
    (specializeCandidateForContext candidate context).classicallyWeak =
      candidate.classicallyWeak := by
  unfold specializeCandidateForContext
  split <;> rfl

theorem strategy_of_firstRule {rule : Rule}
    (h : firstRule (planText algorithm algorithmFamily) assetType = some rule) :
    (recommendMigration assetId assetName assetType algorithm algorithmFamily riskScore tier context
      capabilities).recommendation.strategy =
      if rule.kind = .pqc ∨ rule.kind = .safeClassical then .noChange
      else if rule.kind = .hash ∨ rule.kind = .symmetric ∨ (rule.classicallyWeak ||
          rule.classicallyWeakIfContains.any fun marker =>
            Has marker (planText algorithm algorithmFamily)) then
        .replace
      else .hybrid := by
  rw [recommendMigration_recommendation, buildRecommendation_strategy, chooseStrategy_eq,
    specialize_kind, specialize_classicallyWeak, candidate_of_firstRule h]
  rfl

end

/-! ## 2. How the text is read -/

inductive SizeReading
  /-- The current algorithm is kept. -/
  | kept
  /-- A weak primitive is replaced. -/
  | replaced
  /-- A curve is migrated through a hybrid. -/
  | curve
  /-- The key is weak with the digits `1024` in the text. -/
  | marked
  deriving DecidableEq, Repr

section

variable [PyText]

/-- The text names RSA or Diffie-Hellman over a prime field. -/
def NamesSizedKey (text : List Char) : Prop := Has "RSA" text ∨ NamesDh text ∨ Has "MODP" text

instance (text : List Char) : Decidable (NamesSizedKey text) :=
  inferInstanceAs (Decidable (_ ∨ _ ∨ _))

/-- The words of a rule for elliptic curves. -/
def NamesCurve (text assetType : List Char) : Prop :=
  (Has "ECDSA" text ∨ NamesP256 text assetType) ∨
    (Has "ED25519" text ∨ Has "ED448" text ∨ Has "EDDSA" text) ∨
    NamesEcdh text ∨ NamesCurveExchange text

instance (text assetType : List Char) : Decidable (NamesCurve text assetType) :=
  inferInstanceAs (Decidable ((_ ∨ _) ∨ (_ ∨ _ ∨ _) ∨ _ ∨ _))

def sizeReading (text assetType : List Char) : SizeReading :=
  let keyExchange := assetType ∈ ["protocol", "key_agreement"].map String.toList
  if ∃ marker ∈ pqcMarkers, Has marker text then .kept
  else if keyExchange ∧ NamesCurveExchange text then .curve
  else if keyExchange ∧ NamesDhAlias text then .marked
  else if NamesSha1 text ∨ Has "AES-128" text then .replaced
  else if NamesSafeClassical text then .kept
  else if NamesCurve text assetType then .curve
  else .marked

variable {text assetType : List Char}

theorem found_weakPrimitiveRules :
    Found weakPrimitiveRules text assetType ↔ NamesSha1 text ∨ Has "AES-128" text := by
  have hsplit : weakPrimitiveRules = [sha1Signing] ++ [aes128] := rfl
  rw [hsplit, found_append, found_sha1Signing, found_aes128]

theorem found_curveRules : Found curveRules text assetType ↔ NamesCurve text assetType := by
  rw [curveRules, found_append, found_append, found_ecdsaRules, found_eddsaDefault,
    found_ecdhRules, NamesCurve]

/-- An RSA or Diffie-Hellman name always has a rule. -/
theorem found_sizeRules (h : NamesSizedKey text) : Found sizeRules text assetType := by
  have hsplit : sizeRules = [dhDefault] ++ ([rsaKemLike] ++ [rsaSignature]) := rfl
  rw [hsplit, found_append, found_append, found_dhDefault, found_rsaSignature]
  rcases h with hrsa | hdh | hmodp
  · exact .inr (.inr hrsa)
  · exact .inl (.inl hdh)
  · exact .inl (.inr ⟨"MODP", by decide, hmodp⟩)

def SizeReading.strategy (text : List Char) : SizeReading → Strategy
  | .kept => .noChange
  | .replaced => .replace
  | .curve => .hybrid
  | .marked => if Has "1024" text then .replace else .hybrid

def Rule.ReadsAs (rule : Rule) (reading : SizeReading) : Prop :=
  match reading with
  | .kept => rule.kind = .pqc ∨ rule.kind = .safeClassical
  | .replaced => rule.kind = .hash ∨ rule.kind = .symmetric
  | .curve => (rule.kind = .kem ∨ rule.kind = .signature) ∧ rule.classicallyWeak = false ∧
      rule.classicallyWeakIfContains = []
  | .marked => (rule.kind = .kem ∨ rule.kind = .signature) ∧ rule.classicallyWeak = false ∧
      rule.classicallyWeakIfContains = ["1024"]

instance (rule : Rule) : (reading : SizeReading) → Decidable (rule.ReadsAs reading)
  | .kept => inferInstanceAs (Decidable (_ ∨ _))
  | .replaced => inferInstanceAs (Decidable (_ ∨ _))
  | .curve => inferInstanceAs (Decidable (_ ∧ _))
  | .marked => inferInstanceAs (Decidable (_ ∧ _))

variable {assetId : Nat} {assetName algorithm algorithmFamily : List Char} {riskScore : Int}
  {tier : Tier} {context : MigrationContext} {capabilities : Capability → Bool}

theorem strategy_of_readsAs {rule : Rule} {reading : SizeReading}
    (hrule : firstRule (planText algorithm algorithmFamily) assetType = some rule)
    (hreading : rule.ReadsAs reading) :
    (recommendMigration assetId assetName assetType algorithm algorithmFamily riskScore tier context
      capabilities).recommendation.strategy =
      reading.strategy (planText algorithm algorithmFamily) := by
  rw [strategy_of_firstRule hrule]
  cases reading with
  | kept => exact if_pos hreading
  | replaced =>
      have hkept : ¬ (rule.kind = .pqc ∨ rule.kind = .safeClassical) := by
        rcases hreading with h | h <;> rw [h] <;> decide
      rw [if_neg hkept, if_pos (by rcases hreading with h | h <;> simp only [h, true_or, or_true])]
      rfl
  -- a rule without markers finds nothing weak
  | curve =>
      obtain ⟨hkind, hweak, hmarkers⟩ := hreading
      rw [hweak, hmarkers]
      rcases hkind with h | h <;> rw [h] <;> rfl
  | marked =>
      obtain ⟨hkind, hweak, hmarkers⟩ := hreading
      rw [hweak, hmarkers]
      -- what is left of the two tests is the one for the marker
      rcases hkind with h | h <;> rw [h] <;> simp [SizeReading.strategy]

/-- The first rule is in the first group that finds something. -/
theorem firstRule_readsAs_of_group {before group after : List Rule} {reading : SizeReading}
    (hsplit : mappingRules = before ++ (group ++ after)) (hbefore : ¬ Found before text assetType)
    (hgroup : Found group text assetType) (hreading : ∀ rule ∈ group, rule.ReadsAs reading) :
    ∃ rule, firstRule text assetType = some rule ∧ rule.ReadsAs reading := by
  obtain ⟨rule, hmem, hrule⟩ := firstRule_mem hsplit hbefore hgroup
  exact ⟨rule, hrule, hreading rule hmem⟩

/-- The reading of the text is that of the first rule that matches. -/
theorem firstRule_readsAs (h : NamesSizedKey text) (assetType : List Char) :
    ∃ rule, firstRule text assetType = some rule ∧ rule.ReadsAs (sizeReading text assetType) := by
  unfold sizeReading
  simp only
  -- the groups in the order of the file, each with nothing found in those before it
  have hnil : ¬ Found [] text assetType := by
    rintro ⟨rule, hrule, -⟩
    cases hrule
  by_cases hpqc : Found [pqcReady] text assetType
  · rw [if_pos (found_pqcReady.mp hpqc)]
    exact firstRule_readsAs_of_group rfl hnil hpqc (by decide)
  rw [if_neg (mt found_pqcReady.mpr hpqc)]
  by_cases hcurveKex : Found [ecdhX25519P256Kex] text assetType
  · rw [if_pos (found_ecdhX25519P256Kex.mp hcurveKex)]
    exact firstRule_readsAs_of_group rfl hpqc hcurveKex (by decide)
  have hbefore := not_found_append hpqc hcurveKex
  rw [if_neg (mt found_ecdhX25519P256Kex.mpr hcurveKex)]
  by_cases hdhKex : Found [dhKexAliases] text assetType
  · rw [if_pos (found_dhKexAliases.mp hdhKex)]
    exact firstRule_readsAs_of_group rfl hbefore hdhKex (by decide)
  have hbefore := not_found_append hbefore hdhKex
  rw [if_neg (mt found_dhKexAliases.mpr hdhKex)]
  by_cases hweak : Found weakPrimitiveRules text assetType
  · rw [if_pos (found_weakPrimitiveRules.mp hweak)]
    exact firstRule_readsAs_of_group rfl hbefore hweak (by decide)
  have hbefore := not_found_append hbefore hweak
  rw [if_neg (mt found_weakPrimitiveRules.mpr hweak)]
  by_cases hsafe : Found safeClassicalRules text assetType
  · rw [if_pos (found_safeClassicalRules.mp hsafe)]
    exact firstRule_readsAs_of_group rfl hbefore hsafe (by decide)
  have hbefore := not_found_append hbefore hsafe
  rw [if_neg (mt found_safeClassicalRules.mpr hsafe)]
  by_cases hcurve : Found curveRules text assetType
  · rw [if_pos (found_curveRules.mp hcurve)]
    exact firstRule_readsAs_of_group rfl hbefore hcurve (by decide)
  have hbefore := not_found_append hbefore hcurve
  rw [if_neg (mt found_curveRules.mpr hcurve)]
  exact @firstRule_readsAs_of_group _ _ _ _ _ [] _ rfl hbefore (found_sizeRules h) (by decide)

/-! ## 3. The size in the name -/

/-- The size is one of the decimal numbers in the algorithm's name. -/
def CarriesSize (algorithm : List Char) (size : Nat) : Prop :=
  ∃ before after, algorithm = before ++ decimalText size ++ after ∧
    (∀ c ∈ before.getLast?, c.isDigit = false) ∧ ∀ c ∈ after.head?, c.isDigit = false

theorem has_planText_of_carriesSize (h : CarriesSize algorithm 1024) :
    Has "1024" (planText algorithm algorithmFamily) := by
  obtain ⟨before, after, rfl, -, -⟩ := h
  have hform : "1024".toList ≠ [] ∧ ' ' ∉ "1024".toList ∧ decimalText 1024 = "1024".toList := by
    decide
  have hspace : ∀ c ∈ "1024".toList, PyText.isSpace c = false := by
    rw [← hform.2.2]
    exact fun _ hc => isSpace_of_mem_decimalText hc
  have hcurrent : currentAlgorithm (before ++ decimalText 1024 ++ after) algorithmFamily =
      before ++ decimalText 1024 ++ after := by
    have hne : before ++ decimalText 1024 ++ after ≠ [] := by
      intro hnil
      exact decimalText_ne_nil 1024
        (List.append_eq_nil_iff.mp (List.append_eq_nil_iff.mp hnil).1).2
    have hempty : (before ++ decimalText 1024 ++ after).isEmpty = false :=
      List.isEmpty_eq_false_iff.mpr hne
    simp only [currentAlgorithm, orElse, hempty, Bool.false_eq_true, if_false]
  rw [planText, has_strip hform.1 hspace, has_combinedText hform.2.1 hform.1, hcurrent]
  apply Or.inr
  rw [normalize, has_strip hform.1 hspace, upper_append, upper_append, upper_decimalText,
    hform.2.2]
  exact ⟨upper before, upper after, rfl⟩

/-- A weak key is replaced, and an adequate one is migrated through a hybrid. -/
structure StrategyFits (size : Nat) (strategy : Strategy) : Prop where
  weak : size ≤ 1024 → strategy = .replace
  adequate : 2048 ≤ size → strategy = .hybrid

omit [PyText] in
theorem strategyFits_iff {size : Nat} {strategy : Strategy} : StrategyFits size strategy ↔
    (size ≤ 1024 → strategy = .replace) ∧ (2048 ≤ size → strategy = .hybrid) :=
  ⟨fun h => ⟨h.weak, h.adequate⟩, fun h => ⟨h.1, h.2⟩⟩

/-- Whether the reading of the text suits the size. -/
def SizePlanned (size : Nat) (text assetType : List Char) : Prop :=
  match sizeReading text assetType with
  | .kept => 1024 < size ∧ size < 2048
  | .replaced => size < 2048
  | .curve => 1024 < size
  | .marked => (size < 1024 → Has "1024" text) ∧ (2048 ≤ size → ¬ Has "1024" text)

/-- **When a key size decides the strategy.**  An asset whose texts name RSA or Diffie-Hellman and
whose name carries a size is replaced up to 1024 bits and migrated through a hybrid from 2048 bits
on exactly if the reading of its text suits the size. -/
theorem strategy_fits_size_iff (assetId : Nat) (assetName assetType algorithm algorithmFamily :
    List Char) (riskScore : Int) (tier : Tier) (context : MigrationContext)
    (capabilities : Capability → Bool) (size : Nat)
    (hname : NamesSizedKey (planText algorithm algorithmFamily))
    (hsize : CarriesSize algorithm size) :
    StrategyFits size (recommendMigration assetId assetName assetType algorithm algorithmFamily
        riskScore tier context capabilities).recommendation.strategy ↔
      SizePlanned size (planText algorithm algorithmFamily) assetType := by
  obtain ⟨rule, hrule, hreading⟩ := firstRule_readsAs hname assetType
  rw [strategy_of_readsAs hrule hreading, strategyFits_iff, SizePlanned]
  cases sizeReading (planText algorithm algorithmFamily) assetType with
  | kept =>
      show (_ → Strategy.noChange = .replace) ∧ (_ → Strategy.noChange = .hybrid) ↔ _
      simp only [reduceCtorEq, imp_false, not_le]
  | replaced =>
      show (_ → Strategy.replace = .replace) ∧ (_ → Strategy.replace = .hybrid) ↔ _
      simp only [reduceCtorEq, imp_false, not_le, implies_true, true_and]
  | curve =>
      show (_ → Strategy.hybrid = .replace) ∧ (_ → Strategy.hybrid = .hybrid) ↔ _
      simp only [reduceCtorEq, imp_false, not_le, implies_true, and_true]
  | marked =>
      -- at 1024 itself the digits are there
      have hmarker : size = 1024 → Has "1024" (planText algorithm algorithmFamily) := by
        rintro rfl
        exact has_planText_of_carriesSize hsize
      show (_ → (if _ then Strategy.replace else .hybrid) = .replace) ∧
        (_ → (if _ then Strategy.replace else .hybrid) = .hybrid) ↔ _
      by_cases hmarked : Has "1024" (planText algorithm algorithmFamily)
      · simp only [hmarked, if_true, implies_true, reduceCtorEq, not_true_eq_false, true_and]
      · have hne : size ≠ 1024 := mt hmarker hmarked
        simp only [hmarked, if_false, reduceCtorEq, imp_false, not_le, implies_true, and_true,
          not_lt, not_false_eq_true]
        omega

end

/-- RSA with 2048 bits is migrated through a hybrid. -/
theorem rsa2048_hybrid :
    (@exampleItem asciiText "RSA-2048" "RSA" "certificate").recommendation.strategy = .hybrid := by
  let := asciiText
  have hname : NamesSizedKey (planText "RSA-2048".toList "RSA".toList) := .inl (by decide +kernel)
  have hsize : CarriesSize "RSA-2048".toList 2048 :=
    ⟨"RSA-".toList, [], by decide, by decide, by decide⟩
  have hreading : sizeReading (planText "RSA-2048".toList "RSA".toList) "certificate".toList =
      .marked := by
    decide +kernel
  have hfits := (strategy_fits_size_iff 0 [] "certificate".toList "RSA-2048".toList "RSA".toList 45
    .medium { field := emptyContext } noCapability 2048 hname hsize).mpr <| by
      rw [SizePlanned, hreading]
      exact ⟨fun h => absurd h (by decide), fun _ => by decide +kernel⟩
  unfold exampleItem
  exact hfits.adequate (by decide)

/-- RSA with 512 bits is kept in a hybrid. -/
theorem rsa512_hybrid : letI := asciiText
    ¬ ∀ (assetId : Nat) (assetName assetType algorithm algorithmFamily : List Char)
      (riskScore : Int) (tier : Tier) (context : MigrationContext)
      (capabilities : Capability → Bool) (size : Nat),
      NamesSizedKey (planText algorithm algorithmFamily) → CarriesSize algorithm size →
      StrategyFits size (recommendMigration assetId assetName assetType algorithm algorithmFamily
        riskScore tier context capabilities).recommendation.strategy := by
  let := asciiText
  intro h
  have hname : NamesSizedKey (planText "RSA-512".toList "RSA".toList) := .inl (by decide +kernel)
  have hsize : CarriesSize "RSA-512".toList 512 :=
    ⟨"RSA-".toList, [], by decide, by decide, by decide⟩
  have hplan : (recommendMigration 0 [] "certificate".toList "RSA-512".toList "RSA".toList 45
      .medium { field := emptyContext } noCapability).recommendation.strategy = .replace :=
    (h 0 [] "certificate".toList "RSA-512".toList "RSA".toList 45 .medium
      { field := emptyContext } noCapability 512 hname hsize).weak (by decide)
  have hreading : sizeReading (planText "RSA-512".toList "RSA".toList) "certificate".toList =
      .marked := by
    decide +kernel
  have hfirst : ∃ rule, firstRule (planText "RSA-512".toList "RSA".toList) "certificate".toList =
      some rule ∧ rule.ReadsAs .marked := by
    rw [← hreading]
    exact firstRule_readsAs hname "certificate".toList
  obtain ⟨rule, hrule, hreads⟩ := hfirst
  rw [strategy_of_readsAs hrule hreads] at hplan
  exact absurd hplan (by decide +kernel)

end CryptoScanner.MigrationEngine
