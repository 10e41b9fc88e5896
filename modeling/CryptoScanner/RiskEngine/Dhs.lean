import CryptoScanner.Python.Number

/-!
# The DHS risk score

`compute_dhs_risk` rates six criteria between 0 and 1, weights them and rounds at every stage.  Its
arithmetic is that of exact rationals.
-/

namespace CryptoScanner.RiskEngine

open Python

/-! ## 1. The code -/

def dhsRiskEngineVersion : String := "dhs-risk-v1"

def dhsCriterionWeights : List (String × ℚ) :=
  [("asset_value", 1), ("protected_information", 11 / 10), ("communication_scope", 1),
    ("sharing_level", 4 / 5), ("critical_infrastructure", 6 / 5), ("protection_duration", 8 / 5)]

def ratingScores : List (String × ℚ) :=
  [("low", 1 / 5), ("medium", 1 / 2), ("high", 3 / 4), ("critical", 1)]

inductive DhsPriority where
  | p1
  | p2
  | p3
  deriving DecidableEq, Repr

structure CriterionScore where
  score : ℚ
  weight : ℚ
  weightedScore : ℚ
  deriving DecidableEq, Repr

structure DhsRiskResult where
  score10 : ℚ
  priority : DhsPriority
  weightedRaw : ℚ
  weights : List (String × ℚ)
  criteria : List (String × CriterionScore)
  missingCriteria : List String
  engineVersion : String
  deriving DecidableEq, Repr

def priorityForDhsScore (score10 : ℚ) : DhsPriority :=
  if 8 ≤ score10 then .p1
  else if 5 ≤ score10 then .p2
  else .p3

/-- `max(0.0, min(1.0, parsed))`, where neither takes a `nan`. -/
def clampUnit : PyFloat → ℚ
  | .finite q => max 0 (min 1 q)
  | .inf | .nan => 1
  | .negInf => 0

section

variable [PyText] (floatRepr : PyFloat → List Char)

/-- The score of a rating, which counts where no score can be read. -/
def ratingScore (value : List (String × Json)) : ℚ :=
  let rating := (value.lookup "rating").getD .null
  let text := if rating.truthy then rating.pyStr floatRepr else []
  ((ratingScores.find? fun entry => entry.1.toList = lower (strip text)).map Prod.snd).getD 0

def readPercent : PyFloat → PyFloat
  | .finite q => if 1 < q ∧ q ≤ 100 then .finite (q / 100) else .finite q
  | x => x

def criterionScore (value : List (String × Json)) : Except PyException ℚ :=
  let explicitScore := (value.lookup "score").getD .null
  if explicitScore = .null then .ok (ratingScore floatRepr value)
  else
    match pyFloat explicitScore with
    | .ok parsed => .ok (roundDigits 4 (clampUnit (readPercent parsed)))
    | .error .type | .error .value => .ok (ratingScore floatRepr value)
    | .error e => .error e

structure DhsTotals where
  weightedTotal : ℚ := 0
  criteria : List (String × CriterionScore) := []
  missing : List String := []

def addCriterion (source : List (String × Json)) (totals : DhsTotals) (criterion : String × ℚ) :
    Except PyException DhsTotals :=
  match source.lookup criterion.1 with
  | some (.dict value) => do
      let score ← criterionScore floatRepr value
      let weightedScore := roundDigits 4 (score * criterion.2)
      return {
        weightedTotal := totals.weightedTotal + weightedScore
        criteria := totals.criteria ++ [(criterion.1, ⟨score, criterion.2, weightedScore⟩)]
        missing := totals.missing }
  | _ => .ok {
      weightedTotal := totals.weightedTotal
      criteria := totals.criteria ++ [(criterion.1, ⟨0, criterion.2, 0⟩)]
      missing := totals.missing ++ [criterion.1] }

def computeDhsRisk (source : List (String × Json)) : Except PyException DhsRiskResult := do
  let denominator := (dhsCriterionWeights.map Prod.snd).sum
  let totals ← dhsCriterionWeights.foldlM (addCriterion floatRepr source) {}
  let weightedRaw :=
    if denominator ≠ 0 then roundDigits 4 (totals.weightedTotal / denominator) else 0
  let score10 := roundDigits 1 (weightedRaw * 10)
  return {
    score10
    priority := priorityForDhsScore score10
    weightedRaw
    weights := dhsCriterionWeights
    criteria := totals.criteria
    missingCriteria := totals.missing
    engineVersion := dhsRiskEngineVersion }

/-! ## 2. The score as a function of the criteria -/

/-- The score of a criterion in the total, which is 0 for a missing one. -/
def criterionValue (source : List (String × Json)) (name : String) : Except PyException ℚ :=
  match source.lookup name with
  | some (.dict value) => criterionScore floatRepr value
  | _ => .ok 0

def weightedTotal (values : String → ℚ) : List (String × ℚ) → ℚ
  | [] => 0
  | criterion :: criteria =>
      roundDigits 4 (values criterion.1 * criterion.2) + weightedTotal values criteria

def score10 (values : String → ℚ) : ℚ :=
  roundDigits 1 (roundDigits 4
    (weightedTotal values dhsCriterionWeights / (dhsCriterionWeights.map Prod.snd).sum) * 10)

variable {floatRepr}

omit [PyText] in
theorem roundDigits_zero (digits : Nat) : roundDigits digits 0 = 0 := by
  have hzero := roundDigits_decimal digits 0
  rwa [Int.cast_zero, zero_div] at hzero

theorem addCriterion_total {source : List (String × Json)} {criterion : String × ℚ} {value : ℚ}
    (hvalue : criterionValue floatRepr source criterion.1 = .ok value) (totals : DhsTotals) :
    ∃ totals', addCriterion floatRepr source totals criterion = .ok totals' ∧
      totals'.weightedTotal = totals.weightedTotal + roundDigits 4 (value * criterion.2) := by
  unfold criterionValue at hvalue
  unfold addCriterion
  split at hvalue
  · rw [hvalue]
    exact ⟨_, rfl, rfl⟩
  · cases hvalue
    refine ⟨_, rfl, ?_⟩
    rw [zero_mul, roundDigits_zero, add_zero]

theorem criterionValue_of_addCriterion {source : List (String × Json)} {criterion : String × ℚ}
    {totals totals' : DhsTotals} (h : addCriterion floatRepr source totals criterion = .ok totals') :
    ∃ value, criterionValue floatRepr source criterion.1 = .ok value := by
  unfold addCriterion at h
  unfold criterionValue
  split at h
  · rename_i entry hlookup
    cases hscore : criterionScore floatRepr entry with
    | error e =>
        rw [hscore] at h
        cases h
    | ok value => exact ⟨value, rfl⟩
  · exact ⟨0, rfl⟩

theorem foldlM_addCriterion {source : List (String × Json)} {values : String → ℚ}
    {criteria : List (String × ℚ)}
    (h : ∀ criterion ∈ criteria,
      criterionValue floatRepr source criterion.1 = .ok (values criterion.1)) (totals : DhsTotals) :
    ∃ totals', criteria.foldlM (addCriterion floatRepr source) totals = .ok totals' ∧
      totals'.weightedTotal = totals.weightedTotal + weightedTotal values criteria := by
  induction criteria generalizing totals with
  | nil => exact ⟨totals, rfl, (add_zero _).symm⟩
  | cons criterion criteria ih =>
      obtain ⟨middle, hstep, hmiddle⟩ := addCriterion_total (h criterion List.mem_cons_self) totals
      obtain ⟨last, hrun, hlast⟩ :=
        ih (fun other hother => h other (List.mem_cons_of_mem criterion hother)) middle
      refine ⟨last, ?_, ?_⟩
      · rw [List.foldlM_cons, hstep]
        exact hrun
      · rw [hlast, hmiddle, weightedTotal, add_assoc]

theorem criterionValue_of_foldlM {source : List (String × Json)} {criteria : List (String × ℚ)}
    {totals totals' : DhsTotals}
    (h : criteria.foldlM (addCriterion floatRepr source) totals = .ok totals') :
    ∀ criterion ∈ criteria, ∃ value, criterionValue floatRepr source criterion.1 = .ok value := by
  induction criteria generalizing totals with
  | nil => exact fun _ hmem => absurd hmem List.not_mem_nil
  | cons criterion criteria ih =>
      rw [List.foldlM_cons] at h
      cases hstep : addCriterion floatRepr source totals criterion with
      | error e =>
          rw [hstep] at h
          cases h
      | ok middle =>
          rw [hstep] at h
          intro other hother
          cases hother with
          | head => exact criterionValue_of_addCriterion hstep
          | tail _ hother => exact ih h other hother

/-- What `compute_dhs_risk` returns is the score of the values of its criteria. -/
theorem computeDhsRisk_ok {source : List (String × Json)} {result : DhsRiskResult}
    (h : computeDhsRisk floatRepr source = .ok result) :
    ∃ values, (∀ criterion ∈ dhsCriterionWeights,
        criterionValue floatRepr source criterion.1 = .ok (values criterion.1)) ∧
      result.score10 = score10 values ∧
      result.priority = priorityForDhsScore result.score10 := by
  have hweights : (dhsCriterionWeights.map Prod.snd).sum ≠ 0 := by decide +kernel
  unfold computeDhsRisk at h
  cases hrun : dhsCriterionWeights.foldlM (addCriterion floatRepr source) {} with
  | error e =>
      rw [hrun] at h
      cases h
  | ok totals =>
      let values := fun name => ((criterionValue floatRepr source name).toOption).getD 0
      have hvalues : ∀ criterion ∈ dhsCriterionWeights,
          criterionValue floatRepr source criterion.1 = .ok (values criterion.1) := by
        intro criterion hmem
        obtain ⟨value, hvalue⟩ := criterionValue_of_foldlM hrun criterion hmem
        simp only [values, hvalue, Except.toOption, Option.getD_some]
      obtain ⟨totals', hrun', htotal⟩ := foldlM_addCriterion hvalues {}
      rw [hrun] at h hrun'
      cases hrun'
      cases h
      refine ⟨values, hvalues, ?_, rfl⟩
      dsimp only
      rw [if_pos hweights, htotal, zero_add, score10]

theorem computeDhsRisk_returns {source : List (String × Json)} (values : String → ℚ)
    (h : ∀ criterion ∈ dhsCriterionWeights,
      criterionValue floatRepr source criterion.1 = .ok (values criterion.1)) :
    ∃ result, computeDhsRisk floatRepr source = .ok result := by
  obtain ⟨totals, hrun, -⟩ := foldlM_addCriterion h {}
  unfold computeDhsRisk
  rw [hrun]
  exact ⟨_, rfl⟩

end

/-! ## 3. Bounds and monotonicity -/

theorem clampUnit_mem (parsed : PyFloat) : 0 ≤ clampUnit parsed ∧ clampUnit parsed ≤ 1 := by
  cases parsed with
  | finite q => exact ⟨le_max_left _ _, max_le zero_le_one (min_le_left _ _)⟩
  | inf => exact ⟨zero_le_one, le_rfl⟩
  | negInf => exact ⟨le_rfl, zero_le_one⟩
  | nan => exact ⟨zero_le_one, le_rfl⟩

theorem roundDigits_mem {digits : Nat} {q : ℚ} (hlow : 0 ≤ q) (hhigh : q ≤ 1) :
    0 ≤ roundDigits digits q ∧ roundDigits digits q ≤ 1 := by
  have hone : roundDigits digits 1 = 1 := by
    have hpow : (10 : ℚ) ^ digits ≠ 0 := by positivity
    have hdecimal := roundDigits_decimal digits (10 ^ digits)
    rwa [Int.cast_pow, Int.cast_ofNat, div_self hpow] at hdecimal
  exact ⟨(roundDigits_zero digits).symm.le.trans (roundDigits_mono digits hlow),
    (roundDigits_mono digits hhigh).trans hone.le⟩

theorem ratingScore_mem [PyText] (floatRepr : PyFloat → List Char)
    (value : List (String × Json)) : 0 ≤ ratingScore floatRepr value ∧
      ratingScore floatRepr value ≤ 1 := by
  have hall : ∀ entry ∈ ratingScores, (0 : ℚ) ≤ entry.2 ∧ entry.2 ≤ 1 := by decide +kernel
  unfold ratingScore
  dsimp only
  generalize (fun entry : String × ℚ => decide (entry.1.toList = lower (strip _))) = p
  cases hfind : ratingScores.find? p with
  | none => exact ⟨le_rfl, zero_le_one⟩
  | some entry => exact hall entry (List.mem_of_find?_eq_some hfind)

theorem criterionValue_mem [PyText] {floatRepr : PyFloat → List Char}
    {source : List (String × Json)} {name : String} {value : ℚ}
    (h : criterionValue floatRepr source name = .ok value) : 0 ≤ value ∧ value ≤ 1 := by
  unfold criterionValue at h
  split at h
  · rename_i entry hlookup
    unfold criterionScore at h
    dsimp only at h
    split at h
    · cases h
      exact ratingScore_mem floatRepr entry
    · split at h
      · rename_i parsed hparsed
        cases h
        have hclamp := clampUnit_mem (readPercent parsed)
        exact roundDigits_mem hclamp.1 hclamp.2
      · cases h
        exact ratingScore_mem floatRepr entry
      · cases h
        exact ratingScore_mem floatRepr entry
      · cases h
  · cases h
    exact ⟨le_rfl, zero_le_one⟩

theorem weightedTotal_mono {values values' : String → ℚ} {criteria : List (String × ℚ)}
    (hweights : ∀ criterion ∈ criteria, 0 ≤ criterion.2)
    (h : ∀ criterion ∈ criteria, values criterion.1 ≤ values' criterion.1) :
    weightedTotal values criteria ≤ weightedTotal values' criteria := by
  induction criteria with
  | nil => exact le_rfl
  | cons criterion criteria ih =>
      have hhead : values criterion.1 * criterion.2 ≤ values' criterion.1 * criterion.2 :=
        mul_le_mul_of_nonneg_right (h criterion List.mem_cons_self)
          (hweights criterion List.mem_cons_self)
      have htail := ih (fun other hother => hweights other (List.mem_cons_of_mem criterion hother))
        fun other hother => h other (List.mem_cons_of_mem criterion hother)
      exact add_le_add (roundDigits_mono 4 hhead) htail

theorem score10_mono {values values' : String → ℚ}
    (h : ∀ criterion ∈ dhsCriterionWeights, values criterion.1 ≤ values' criterion.1) :
    score10 values ≤ score10 values' := by
  have hweights : ∀ criterion ∈ dhsCriterionWeights, 0 ≤ criterion.2 := by decide +kernel
  have hsum : 0 ≤ (dhsCriterionWeights.map Prod.snd).sum := by decide +kernel
  have hraw := div_le_div_of_nonneg_right (weightedTotal_mono hweights h) hsum
  have hten := mul_le_mul_of_nonneg_right (roundDigits_mono 4 hraw) (by norm_num : (0 : ℚ) ≤ 10)
  exact roundDigits_mono 1 hten

theorem score10_mem {values : String → ℚ} (h : ∀ criterion ∈ dhsCriterionWeights,
    0 ≤ values criterion.1 ∧ values criterion.1 ≤ 1) : 0 ≤ score10 values ∧ score10 values ≤ 10 := by
  have hlow : score10 (fun _ => 0) = 0 := by decide +kernel
  have hhigh : score10 (fun _ => 1) = 10 := by decide +kernel
  constructor
  · rw [← hlow]
    exact score10_mono fun criterion hmem => (h criterion hmem).1
  · rw [← hhigh]
    exact score10_mono fun criterion hmem => (h criterion hmem).2

/-! ## 4. Scores between 0 and 1 -/

def DhsPriority.urgency : DhsPriority → Nat
  | .p1 => 2
  | .p2 => 1
  | .p3 => 0

theorem priorityForDhsScore_mono {score score' : ℚ} (h : score ≤ score') :
    (priorityForDhsScore score).urgency ≤ (priorityForDhsScore score').urgency := by
  unfold priorityForDhsScore
  split_ifs <;> first | exact Nat.le_refl _ | exact Nat.zero_le _ | exact Nat.le_succ _ | linarith

/-- Every criterion has a score between 0 and 1, or is missing. -/
def Scored [PyText] (source : List (String × Json)) (scores : String → Option ℚ) : Prop :=
  ∀ criterion ∈ dhsCriterionWeights,
    match scores criterion.1 with
    | some q => 0 ≤ q ∧ q ≤ 1 ∧ ∃ entry, source.lookup criterion.1 = some (.dict entry) ∧
        pyFloat ((entry.lookup "score").getD .null) = .ok (.finite q)
    | none => ∀ entry, source.lookup criterion.1 ≠ some (.dict entry)

theorem Scored.value [PyText] {floatRepr : PyFloat → List Char} {source : List (String × Json)}
    {scores : String → Option ℚ} (h : Scored source scores) {criterion : String × ℚ}
    (hmem : criterion ∈ dhsCriterionWeights) :
    criterionValue floatRepr source criterion.1 =
      .ok (roundDigits 4 ((scores criterion.1).getD 0)) := by
  have hscored := h criterion hmem
  unfold criterionValue
  cases hscore : scores criterion.1 with
  | none =>
      rw [hscore] at hscored
      split
      · rename_i entry hlookup
        exact absurd hlookup (hscored entry)
      · rw [Option.getD_none, roundDigits_zero]
  | some q =>
      rw [hscore] at hscored
      obtain ⟨hlow, hhigh, entry, hlookup, hparsed⟩ := hscored
      have hpresent : (entry.lookup "score").getD .null ≠ .null := by
        intro hnull
        rw [hnull] at hparsed
        cases hparsed
      have hclamp : clampUnit (readPercent (.finite q)) = q := by
        rw [readPercent, if_neg (by rintro ⟨hone, -⟩; linarith), clampUnit, min_eq_right hhigh,
          max_eq_right hlow]
      rw [hlookup]
      dsimp only
      rw [criterionScore, if_neg hpresent, hparsed]
      dsimp only
      rw [hclamp, Option.getD_some]

/-- **The DHS risk score is bounded and monotone.**  It is between 0 and 10 whatever the criteria
are.  On criteria with scores between 0 and 1 `compute_dhs_risk` returns, a missing criterion counts
as the lowest score, and with higher scores neither the score nor the urgency drops. -/
theorem computeDhsRisk_bounded_monotone [PyText] (floatRepr : PyFloat → List Char) :
    (∀ source result, computeDhsRisk floatRepr source = .ok result →
      0 ≤ result.score10 ∧ result.score10 ≤ 10 ∧
        result.priority = priorityForDhsScore result.score10) ∧
    (∀ source scores, Scored source scores →
      ∃ result, computeDhsRisk floatRepr source = .ok result) ∧
    (∀ source source' scores scores' result result', Scored source scores → Scored source' scores' →
      computeDhsRisk floatRepr source = .ok result →
      computeDhsRisk floatRepr source' = .ok result' →
      ((∀ name, (scores name).getD 0 ≤ (scores' name).getD 0) →
        result.score10 ≤ result'.score10 ∧ result.priority.urgency ≤ result'.priority.urgency) ∧
      ((∀ name, scores' name = scores name ∨ scores name = none ∧ scores' name = some 0) →
        result.score10 = result'.score10 ∧ result.priority = result'.priority)) := by
  -- the score is the weighted sum of the scores rounded to four digits
  have hvalues : ∀ {source scores result}, Scored source scores →
      computeDhsRisk floatRepr source = .ok result →
      result.score10 = score10 (fun name => roundDigits 4 ((scores name).getD 0)) := by
    intro source scores result hscored hresult
    obtain ⟨values, hok, hscore, -⟩ := computeDhsRisk_ok hresult
    have hsame : ∀ criterion ∈ dhsCriterionWeights,
        values criterion.1 = roundDigits 4 ((scores criterion.1).getD 0) := by
      intro criterion hmem
      exact Except.ok.inj ((hok criterion hmem).symm.trans (hscored.value hmem))
    rw [hscore]
    exact le_antisymm (score10_mono fun criterion hmem => (hsame criterion hmem).le)
      (score10_mono fun criterion hmem => (hsame criterion hmem).ge)
  have hpriority : ∀ {source result}, computeDhsRisk floatRepr source = .ok result →
      result.priority = priorityForDhsScore result.score10 := by
    intro source result hresult
    obtain ⟨-, -, -, h⟩ := computeDhsRisk_ok hresult
    exact h
  refine ⟨?_, ?_, ?_⟩
  · intro source result hresult
    obtain ⟨values, hok, hscore, -⟩ := computeDhsRisk_ok hresult
    have hbounds := score10_mem fun criterion hmem => criterionValue_mem (hok criterion hmem)
    rw [← hscore] at hbounds
    exact ⟨hbounds.1, hbounds.2, hpriority hresult⟩
  · intro source scores hscored
    exact computeDhsRisk_returns (fun name => roundDigits 4 ((scores name).getD 0))
      fun criterion hmem => hscored.value hmem
  · intro source source' scores scores' result result' hscored hscored' hresult hresult'
    have hscore := hvalues hscored hresult
    have hscore' := hvalues hscored' hresult'
    constructor
    · intro hle
      have hmono : result.score10 ≤ result'.score10 := by
        rw [hscore, hscore']
        exact score10_mono fun criterion _ => roundDigits_mono 4 (hle criterion.1)
      rw [hpriority hresult, hpriority hresult']
      exact ⟨hmono, priorityForDhsScore_mono hmono⟩
    -- a criterion that is missing weighs as one with the lowest score
    · intro hlowest
      have hsame : ∀ name, (scores name).getD 0 = (scores' name).getD 0 := by
        intro name
        rcases hlowest name with heq | ⟨hnone, hzero⟩
        · rw [heq]
        · rw [hnone, hzero]
          rfl
      have hequal : result.score10 = result'.score10 := by
        rw [hscore, hscore']
        simp only [hsame]
      exact ⟨hequal, by rw [hpriority hresult, hpriority hresult', hequal]⟩

def ratedCriteria (protection : ℚ) : List (String × Json) :=
  [("asset_value", .dict [("score", .float (.finite (1 / 2)))]),
    ("protection_duration", .dict [("score", .float (.finite protection))])]

def ratedScores (protection : ℚ) : String → Option ℚ
  | "asset_value" => some (1 / 2)
  | "protection_duration" => some protection
  | _ => none

theorem ratedCriteria_scored [PyText] {protection : ℚ} (hlow : 0 ≤ protection)
    (hhigh : protection ≤ 1) : Scored (ratedCriteria protection) (ratedScores protection) := by
  intro criterion hmem
  simp only [dhsCriterionWeights, List.mem_cons, List.not_mem_nil, or_false] at hmem
  rcases hmem with rfl | rfl | rfl | rfl | rfl | rfl
  · show _ ∧ _ ∧ ∃ entry, _ ∧ _
    exact ⟨by norm_num, by norm_num, _, rfl, rfl⟩
  · exact nofun
  · exact nofun
  · exact nofun
  · exact nofun
  · show _ ∧ _ ∧ ∃ entry, _ ∧ _
    exact ⟨hlow, hhigh, _, rfl, rfl⟩

/-- A higher protection duration does not lower the risk. -/
theorem ratedCriteria_monotone : letI := asciiText
    ∃ result result', computeDhsRisk (fun _ => []) (ratedCriteria (1 / 4)) = .ok result ∧
      computeDhsRisk (fun _ => []) (ratedCriteria (3 / 4)) = .ok result' ∧
      result.score10 ≤ result'.score10 ∧ result.priority.urgency ≤ result'.priority.urgency := by
  have hall := @computeDhsRisk_bounded_monotone asciiText fun _ => []
  have hlow := @ratedCriteria_scored asciiText (1 / 4) (by norm_num) (by norm_num)
  have hhigh := @ratedCriteria_scored asciiText (3 / 4) (by norm_num) (by norm_num)
  obtain ⟨result, hresult⟩ := hall.2.1 _ _ hlow
  obtain ⟨result', hresult'⟩ := hall.2.1 _ _ hhigh
  refine ⟨result, result', hresult, hresult',
    (hall.2.2 _ _ _ _ result result' hlow hhigh hresult hresult').1 ?_⟩
  intro name
  unfold ratedScores
  split
  · exact le_rfl
  · norm_num
  · exact le_rfl

end CryptoScanner.RiskEngine
