import CryptoScanner.Python.Number
import CryptoScanner.RiskEngine.Engine

/-!
# The risk score is bounded and monotone

A weight stretches a factor around one half, and factors of 0 and 1 stay where they are.  The score
is the product of the weighted algorithm factor and the mean of the four others, rounded.
-/

namespace CryptoScanner.RiskEngine

open Python

/-! ## 1. The score as a function -/

def weightedFactors (weights : Weights) (factors : Factors) : Factors where
  a := applyFactorWeight factors.a weights.wA
  d := applyFactorWeight factors.d weights.wD
  e := applyFactorWeight factors.e weights.wE
  l := applyFactorWeight factors.l weights.wL
  c := applyFactorWeight factors.c weights.wC

/-- `max(0, min(100, round(weighted_raw * 100)))` -/
def riskScore (weights : Weights) (factors : Factors) : Int :=
  let weighted := weightedFactors weights factors
  max 0 (min 100 (roundHalfEven (weighted.a * averageContextFactor weighted * 100)))

def InUnit (q : ℚ) : Prop := 0 ≤ q ∧ q ≤ 1

structure FactorsInUnit (factors : Factors) : Prop where
  a : InUnit factors.a
  d : InUnit factors.d
  e : InUnit factors.e
  l : InUnit factors.l
  c : InUnit factors.c

def WeightInRange (weight : ℚ) : Prop := 1 / 2 ≤ weight ∧ weight ≤ 2

structure WeightsInRange (weights : Weights) : Prop where
  wA : WeightInRange weights.wA
  wD : WeightInRange weights.wD
  wE : WeightInRange weights.wE
  wL : WeightInRange weights.wL
  wC : WeightInRange weights.wC

structure FactorsLe (factors factors' : Factors) : Prop where
  a : factors.a ≤ factors'.a
  d : factors.d ≤ factors'.d
  e : factors.e ≤ factors'.e
  l : factors.l ≤ factors'.l
  c : factors.c ≤ factors'.c

/-- The weight of a factor of at least one half is not lowered, and that of a factor of at most one
half is not raised. -/
def Outward (factor weight weight' : ℚ) : Prop :=
  1 / 2 ≤ factor ∧ weight ≤ weight' ∨ factor ≤ 1 / 2 ∧ weight' ≤ weight

structure WeightsOutward (factors : Factors) (weights weights' : Weights) : Prop where
  a : Outward factors.a weights.wA weights'.wA
  d : Outward factors.d weights.wD weights'.wD
  e : Outward factors.e weights.wE weights'.wE
  l : Outward factors.l weights.wL weights'.wL
  c : Outward factors.c weights.wC weights'.wC

def Tier.rank : Tier → Nat
  | .low => 0
  | .medium => 1
  | .high => 2
  | .critical => 3

/-! ## 2. One weighted factor -/

section

variable {value value' weight weight' : ℚ}

theorem applyFactorWeight_mem (value weight : ℚ) : InUnit (applyFactorWeight value weight) := by
  unfold applyFactorWeight
  split_ifs
  · exact ⟨le_rfl, zero_le_one⟩
  · exact ⟨zero_le_one, le_rfl⟩
  · exact ⟨le_max_left _ _, max_le zero_le_one (min_le_left _ _)⟩

@[simp] theorem applyFactorWeight_zero (weight : ℚ) : applyFactorWeight 0 weight = 0 :=
  if_pos le_rfl

/-- Between the ends, the order of two weighted factors is that of the stretched values. -/
theorem applyFactorWeight_le (hends : value ≤ 0 ∨ 1 ≤ value' ∨ 0 < value' ∧ value < 1 ∧
    (value - 1 / 2) * weight ≤ (value' - 1 / 2) * weight') :
    applyFactorWeight value weight ≤ applyFactorWeight value' weight' := by
  rcases hends with hlow | hhigh | ⟨hpos, hlt, hle⟩
  -- a factor at an end is not stretched: the smaller one is 0 or the larger one is 1
  · rw [applyFactorWeight, if_pos hlow]
    exact (applyFactorWeight_mem value' weight').1
  · have hone : applyFactorWeight value' weight' = 1 := by
      rw [applyFactorWeight, if_neg (by linarith), if_pos hhigh]
    rw [hone]
    exact (applyFactorWeight_mem value weight).2
  · by_cases hlow : value ≤ 0
    · rw [applyFactorWeight, if_pos hlow]
      exact (applyFactorWeight_mem value' weight').1
    · by_cases hhigh : 1 ≤ value'
      · have hone : applyFactorWeight value' weight' = 1 := by
          rw [applyFactorWeight, if_neg (by linarith), if_pos hhigh]
        rw [hone]
        exact (applyFactorWeight_mem value weight).2
      · rw [applyFactorWeight, if_neg hlow, if_neg (by linarith), applyFactorWeight,
          if_neg (by linarith), if_neg hhigh]
        gcongr

theorem applyFactorWeight_mono (hweight : 0 ≤ weight) (h : value ≤ value') :
    applyFactorWeight value weight ≤ applyFactorWeight value' weight := by
  apply applyFactorWeight_le
  by_cases hlow : value ≤ 0
  · exact .inl hlow
  by_cases hhigh : 1 ≤ value'
  · exact .inr (.inl hhigh)
  · refine .inr (.inr ⟨by linarith, by linarith, ?_⟩)
    exact mul_le_mul_of_nonneg_right (by linarith) hweight

/-- Stretching a factor moves it away from one half. -/
theorem applyFactorWeight_outward (h : Outward value weight weight') :
    applyFactorWeight value weight ≤ applyFactorWeight value weight' := by
  apply applyFactorWeight_le
  by_cases hlow : value ≤ 0
  · exact .inl hlow
  by_cases hhigh : 1 ≤ value
  · exact .inr (.inl hhigh)
  · refine .inr (.inr ⟨by linarith, by linarith, ?_⟩)
    -- the sign of the distance from one half turns the order of the weights
    rcases h with ⟨hhalf, hweights⟩ | ⟨hhalf, hweights⟩
    · exact mul_le_mul_of_nonneg_left hweights (by linarith)
    · exact mul_le_mul_of_nonpos_left hweights (by linarith)

end

/-! ## 3. The score -/

section

variable {weights weights' : Weights} {factors factors' : Factors}

theorem weightedFactors_mem (weights : Weights) (factors : Factors) :
    FactorsInUnit (weightedFactors weights factors) where
  a := applyFactorWeight_mem _ _
  d := applyFactorWeight_mem _ _
  e := applyFactorWeight_mem _ _
  l := applyFactorWeight_mem _ _
  c := applyFactorWeight_mem _ _

theorem riskScore_le_of_weighted
    (h : FactorsLe (weightedFactors weights factors) (weightedFactors weights' factors')) :
    riskScore weights factors ≤ riskScore weights' factors' := by
  have hlow := weightedFactors_mem weights factors
  have hhigh := weightedFactors_mem weights' factors'
  have haverage : averageContextFactor (weightedFactors weights factors) ≤
      averageContextFactor (weightedFactors weights' factors') := by
    unfold averageContextFactor
    linarith [h.d, h.e, h.l, h.c]
  have hnonneg : 0 ≤ averageContextFactor (weightedFactors weights factors) := by
    unfold averageContextFactor
    linarith [hlow.d.1, hlow.e.1, hlow.l.1, hlow.c.1]
  have hraw : (weightedFactors weights factors).a *
        averageContextFactor (weightedFactors weights factors) * 100 ≤
      (weightedFactors weights' factors').a *
        averageContextFactor (weightedFactors weights' factors') * 100 := by
    -- both factors of the product grow and neither is negative
    have hproduct := mul_le_mul h.a haverage hnonneg hhigh.a.1
    linarith
  have hround := roundHalfEven_mono hraw
  unfold riskScore
  dsimp only
  omega

theorem riskScore_mem (weights : Weights) (factors : Factors) :
    0 ≤ riskScore weights factors ∧ riskScore weights factors ≤ 100 := by
  unfold riskScore
  dsimp only
  omega

theorem riskScore_mono (hweights : WeightsInRange weights) (h : FactorsLe factors factors') :
    riskScore weights factors ≤ riskScore weights factors' := by
  have hpos : ∀ {weight : ℚ}, WeightInRange weight → 0 ≤ weight := by
    intro weight hweight
    linarith [hweight.1]
  exact riskScore_le_of_weighted
    ⟨applyFactorWeight_mono (hpos hweights.wA) h.a, applyFactorWeight_mono (hpos hweights.wD) h.d,
      applyFactorWeight_mono (hpos hweights.wE) h.e, applyFactorWeight_mono (hpos hweights.wL) h.l,
      applyFactorWeight_mono (hpos hweights.wC) h.c⟩

theorem riskScore_outward (h : WeightsOutward factors weights weights') :
    riskScore weights factors ≤ riskScore weights' factors :=
  riskScore_le_of_weighted
    ⟨applyFactorWeight_outward h.a, applyFactorWeight_outward h.d, applyFactorWeight_outward h.e,
      applyFactorWeight_outward h.l, applyFactorWeight_outward h.c⟩

theorem riskScore_of_zero (weights : Weights) (h : factors.a = 0) :
    riskScore weights factors = 0 := by
  have hzero : (weightedFactors weights factors).a = 0 := by
    show applyFactorWeight factors.a weights.wA = 0
    rw [h, applyFactorWeight_zero]
  unfold riskScore
  dsimp only
  rw [hzero, zero_mul, zero_mul]
  decide +kernel

theorem tierForScore_mono {score score' : Int} (h : score ≤ score') :
    (tierForScore score).rank ≤ (tierForScore score').rank := by
  unfold tierForScore
  split_ifs <;> first | decide | omega

end

/-! ## 4. The factors that the engine computes -/

instance (q : ℚ) : Decidable (InUnit q) := inferInstanceAs (Decidable (_ ∧ _))

theorem inUnit_half : InUnit (1 / 2) := by
  decide +kernel

theorem inUnit_ite {p : Prop} [Decidable p] {q r : ℚ} (hq : InUnit q) (hr : InUnit r) :
    InUnit (if p then q else r) := by
  split_ifs
  · exact hq
  · exact hr

theorem tableFactor_mem {table : List (String × ℚ)} (htable : ∀ entry ∈ table, InUnit entry.2)
    {key : List Char} {factor : ℚ} (h : tableFactor table key = some factor) : InUnit factor := by
  obtain ⟨entry, hentry, rfl⟩ := Option.map_eq_some_iff.mp h
  exact htable entry (List.mem_of_find?_eq_some hentry)

theorem tableFactor_getD_mem {table : List (String × ℚ)} (htable : ∀ entry ∈ table, InUnit entry.2)
    (key : List Char) : InUnit ((tableFactor table key).getD (1 / 2)) := by
  cases hfactor : tableFactor table key with
  | none => exact inUnit_half
  | some factor => exact tableFactor_mem htable hfactor

theorem sizedFactor_mem (name : List Char) :
    InUnit (sizedFactor name (19 / 20) classicalThresholds) := by
  have hall : ∀ threshold ∈ classicalThresholds, InUnit threshold.2 := by decide +kernel
  unfold sizedFactor
  split
  · rename_i threshold hfind
    exact hall threshold (List.mem_of_find?_eq_some hfind)
  · decide +kernel

section

variable [PyText] (context : Context)

theorem algorithmFactor_mem (algorithm algorithmFamily assetType : List Char) :
    InUnit (algorithmFactor algorithm algorithmFamily assetType) := by
  have hsized := sizedFactor_mem (normalizeAlgorithmText algorithm)
  -- the values in the order of the source, whatever the tests say
  exact inUnit_ite inUnit_half <|
    inUnit_ite (inUnit_ite (by decide +kernel) (by decide +kernel)) <|
    inUnit_ite (by decide +kernel) <|
    inUnit_ite hsized <|
    inUnit_ite hsized <|
    inUnit_ite (inUnit_ite (by decide +kernel) (inUnit_ite (by decide +kernel)
      (inUnit_ite (by decide +kernel) (by decide +kernel)))) <|
    inUnit_ite (by decide +kernel) <|
    inUnit_ite hsized <|
    inUnit_ite (inUnit_ite (by decide +kernel) inUnit_half) <|
    inUnit_ite (by decide +kernel) <|
    inUnit_ite (by decide +kernel) <|
    inUnit_ite (by decide +kernel) <|
    inUnit_ite (by decide +kernel) inUnit_half

theorem dataFactor_mem (protocolHint : Option (List Char)) :
    InUnit (dataFactor context protocolHint) := by
  have hexplicit : ∀ entry ∈ sensitivityFactors, InUnit entry.2 := by decide +kernel
  have hrole : ∀ entry ∈ roleSensitivityFactors, InUnit entry.2 := by decide +kernel
  have hprotocol : ∀ entry ∈ protocolSensitivityFactors, InUnit entry.2 := by decide +kernel
  unfold dataFactor
  split
  · rename_i factor hfactor
    exact tableFactor_mem hexplicit hfactor
  · split
    · rename_i factor hfactor
      exact tableFactor_mem hrole hfactor
    · exact tableFactor_getD_mem hprotocol _

theorem exposureFactor_mem (targetIp : Option IpAddress) :
    InUnit (exposureFactor context targetIp) := by
  have htable : ∀ entry ∈ exposureFactors, InUnit entry.2 := by decide +kernel
  unfold exposureFactor
  split
  · rename_i factor hfactor
    exact tableFactor_mem htable hfactor
  · split
    · split_ifs <;> decide +kernel
    · exact inUnit_half

omit [PyText] in
theorem lifespanFactor_mem : InUnit (lifespanFactor context) := by
  unfold lifespanFactor
  dsimp only
  split
  · exact inUnit_half
  · split_ifs <;> decide +kernel

theorem criticalityFactor_mem : InUnit (criticalityFactor context) := by
  have hexplicit : ∀ entry ∈ criticalityFactors, InUnit entry.2 := by decide +kernel
  have hrole : ∀ entry ∈ roleCriticalityFactors, InUnit entry.2 := by decide +kernel
  unfold criticalityFactor
  split
  · rename_i factor hfactor
    exact tableFactor_mem hexplicit hfactor
  · exact tableFactor_getD_mem hrole _

end

theorem checkWeight_ok {key : WeightError} {value : ℚ} {done : Unit}
    (h : checkWeight key value = .ok done) : WeightInRange value := by
  unfold checkWeight at h
  by_cases hout : value < 1 / 2 ∨ 2 < value
  · rw [if_pos hout] at h
    cases h
  · rw [not_or, not_lt, not_lt] at hout
    exact hout

theorem normalizeWeights_ok {weights resolved : Weights}
    (h : normalizeWeights weights = .ok resolved) :
    resolved = weights ∧ WeightsInRange weights := by
  unfold normalizeWeights at h
  cases hA : checkWeight .wA weights.wA with
  | error e => simp only [hA] at h; cases h
  | ok _ =>
  cases hD : checkWeight .wD weights.wD with
  | error e => simp only [hA, hD] at h; cases h
  | ok _ =>
  cases hE : checkWeight .wE weights.wE with
  | error e => simp only [hA, hD, hE] at h; cases h
  | ok _ =>
  cases hL : checkWeight .wL weights.wL with
  | error e => simp only [hA, hD, hE, hL] at h; cases h
  | ok _ =>
  cases hC : checkWeight .wC weights.wC with
  | error e => simp only [hA, hD, hE, hL, hC] at h; cases h
  | ok _ =>
  simp only [hA, hD, hE, hL, hC] at h
  cases h
  exact ⟨rfl, checkWeight_ok hA, checkWeight_ok hD, checkWeight_ok hE, checkWeight_ok hL,
    checkWeight_ok hC⟩

theorem checkWeight_of_inRange {key : WeightError} {value : ℚ} (h : WeightInRange value) :
    checkWeight key value = .ok () := by
  have hin : ¬ (value < 1 / 2 ∨ 2 < value) := by
    rw [not_or, not_lt, not_lt]
    exact h
  exact if_neg hin

theorem normalizeWeights_of_inRange {weights : Weights} (h : WeightsInRange weights) :
    normalizeWeights weights = .ok weights := by
  unfold normalizeWeights
  rw [checkWeight_of_inRange h.wA, checkWeight_of_inRange h.wD, checkWeight_of_inRange h.wE,
    checkWeight_of_inRange h.wL, checkWeight_of_inRange h.wC]
  rfl

/-- What `compute_risk` returns is the score of its factors. -/
theorem computeRisk_eq_riskScore [PyText] {algorithm algorithmFamily assetType : List Char}
    {context : Context} {contextSources : ContextField → ContextSource}
    {targetIp : Option IpAddress} {protocolHint : Option (List Char)} {weights : Weights}
    {result : RiskResult} (h : computeRisk algorithm algorithmFamily assetType context
      contextSources targetIp protocolHint weights = .ok result) :
    WeightsInRange weights ∧ FactorsInUnit result.factors ∧
      result.score = riskScore weights result.factors ∧
      result.tier = tierForScore result.score := by
  unfold computeRisk at h
  cases hweights : normalizeWeights weights with
  | error e =>
      rw [hweights] at h
      cases h
  | ok resolved =>
      obtain ⟨rfl, hrange⟩ := normalizeWeights_ok hweights
      rw [hweights] at h
      cases h
      exact ⟨hrange, ⟨algorithmFactor_mem _ _ _, dataFactor_mem _ _, exposureFactor_mem _ _,
        lifespanFactor_mem _, criticalityFactor_mem _⟩, rfl, rfl⟩

theorem computeRisk_of_inRange [PyText] {algorithm algorithmFamily assetType : List Char}
    {context : Context} {contextSources : ContextField → ContextSource}
    {targetIp : Option IpAddress} {protocolHint : Option (List Char)} {weights : Weights}
    (h : WeightsInRange weights) : ∃ result, computeRisk algorithm algorithmFamily assetType context
      contextSources targetIp protocolHint weights = .ok result := by
  unfold computeRisk
  rw [normalizeWeights_of_inRange h]
  exact ⟨_, rfl⟩

/-- **The risk score is bounded and monotone.**  `compute_risk` returns where the weights are in
range, and what it returns is the `riskScore` of factors between 0 and 1.  That is between 0 and 100,
follows every factor, is 0 where the algorithm factor is, and moves with a weight as its factor lies
to one half. -/
theorem computeRisk_bounded_monotone [PyText] :
    (∀ algorithm algorithmFamily assetType context contextSources targetIp protocolHint weights
      result, computeRisk algorithm algorithmFamily assetType context contextSources targetIp
        protocolHint weights = .ok result →
          WeightsInRange weights ∧ FactorsInUnit result.factors ∧
            result.score = riskScore weights result.factors ∧
            result.tier = tierForScore result.score) ∧
      (∀ algorithm algorithmFamily assetType context contextSources targetIp protocolHint weights,
        WeightsInRange weights → ∃ result, computeRisk algorithm algorithmFamily assetType context
          contextSources targetIp protocolHint weights = .ok result) ∧
      (∀ weights factors, 0 ≤ riskScore weights factors ∧ riskScore weights factors ≤ 100) ∧
      (∀ weights factors factors', WeightsInRange weights → FactorsLe factors factors' →
        riskScore weights factors ≤ riskScore weights factors') ∧
      (∀ score score', score ≤ score' →
        (tierForScore score).rank ≤ (tierForScore score').rank) ∧
      (∀ weights factors, factors.a = 0 → riskScore weights factors = 0) ∧
      ∀ weights weights' factors, WeightsOutward factors weights weights' →
        riskScore weights factors ≤ riskScore weights' factors :=
  ⟨fun _ _ _ _ _ _ _ _ _ h => computeRisk_eq_riskScore h,
    fun _ _ _ _ _ _ _ _ h => computeRisk_of_inRange h, riskScore_mem,
    fun _ _ _ hweights h => riskScore_mono hweights h, fun _ _ h => tierForScore_mono h,
    fun weights _ h => riskScore_of_zero weights h, fun _ _ _ h => riskScore_outward h⟩

/-- A critical asset in the internet, with a weight at each end of the range. -/
def exposedContext : Context
  | .sensitivity => some "high".toList
  | .criticality => some "critical".toList
  | .exposure => some "public_internet".toList
  | _ => none

def steepWeights : Weights := { wA := 2, wD := 1, wE := 1, wL := 1 / 2, wC := 1 }

theorem exposedRsa_scored : letI := asciiText
    ∃ result, computeRisk "RSA-2048".toList "RSA".toList "certificate".toList exposedContext
        (fun _ => .assetOverride) none none steepWeights = .ok result ∧
      result.score = riskScore steepWeights result.factors ∧
      0 ≤ result.score ∧ result.score ≤ 100 := by
  have hweights : WeightsInRange steepWeights := by
    constructor <;> norm_num [WeightInRange, steepWeights]
  have hall := @computeRisk_bounded_monotone asciiText
  obtain ⟨result, hresult⟩ := hall.2.1 "RSA-2048".toList "RSA".toList "certificate".toList
    exposedContext (fun _ => .assetOverride) none none steepWeights hweights
  obtain ⟨_, _, hscore, _⟩ := hall.1 _ _ _ _ _ _ _ _ result hresult
  have hbounds := hall.2.2.1 steepWeights result.factors
  rw [← hscore] at hbounds
  exact ⟨result, hresult, hscore, hbounds⟩

end CryptoScanner.RiskEngine
