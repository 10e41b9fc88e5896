import CryptoScanner.Python.Digits
import CryptoScanner.RiskEngine.AlgorithmWords

/-!
# Key sizes in the algorithm factor

`sized_factor` looks for the digits of four sizes in the name.  A size that only contains them
counts as one of the four, and a size that contains none of them counts as 2048.
-/

namespace CryptoScanner.RiskEngine

open Library Python

/-! ## 1. A name written with a size -/

def sizedName (before : List Char) (size : Nat) (after : List Char) : List Char :=
  before ++ decimalText size ++ after

def sizelessWords : List String :=
  pqcWords ++ ["+", "HYBRID", "RSA", "DSA", "ECDSA", "ECDH", "DH", "MODP"]

theorem sizelessWords_wellFormed : ∀ word ∈ sizelessWords, word.toList ≠ [] ∧
    ∀ c ∈ word.toList, c.isDigit = false := by
  decide

section

variable [PyText] {before after algorithmFamily : List Char}

theorem normalizeAlgorithmText_sizedName (before : List Char) (size : Nat) (after : List Char) :
    normalizeAlgorithmText (sizedName before size after) =
      upper (lstrip before) ++ decimalText size ++ upper (rstrip after) := by
  have hspace : ∀ c ∈ decimalText size, PyText.isSpace c = false :=
    fun _ hc => isSpace_of_mem_decimalText hc
  rw [normalizeAlgorithmText, sizedName, strip_append_middle (decimalText_ne_nil size) hspace,
    upper_append, upper_append, upper_decimalText]

/-- A word without a digit is in the name whatever its size. -/
theorem names_sizedName {word : String} (hword : word ∈ sizelessWords) (size size' : Nat) :
    Names (sizedName before size after) algorithmFamily word ↔
      Names (sizedName before size' after) algorithmFamily word := by
  have hform := sizelessWords_wellFormed word hword
  have haround : ∀ size, Has word (normalizeAlgorithmText (sizedName before size after)) ↔
      Has word (upper (lstrip before)) ∨ Has word (upper (rstrip after)) := by
    intro size
    rw [normalizeAlgorithmText_sizedName]
    -- the digits of the size separate what stands before it from what stands after it
    refine infix_append_seps ?_ (decimalText_ne_nil size) hform.1
    intro c hc hmem
    have hdigit := isDigit_of_mem_decimalText hc
    rw [hform.2 c hmem] at hdigit
    cases hdigit
  rw [Names, Names, haround, haround]

theorem namesAny_sizedName {list : List String} (hlist : list ⊆ sizelessWords)
    (size size' : Nat) :
    NamesAny (sizedName before size after) algorithmFamily list ↔
      NamesAny (sizedName before size' after) algorithmFamily list :=
  exists_congr fun _ => and_congr_right fun hword => names_sizedName (hlist hword) size size'

end

/-! ## 2. The size that the factor reads -/

/-- Of 1024, 2048, 3072 and 4096, in this order, the first whose digits are in the larger name comes
no earlier than the first in the smaller one; a name with none of them counts as one with 2048. -/
def MarkersKeepOrder (smaller larger : List Char) : Prop :=
  Has "1024" smaller ∨
    ¬ Has "1024" larger ∧
      (Has "2048" smaller ∨ ¬ HasAny ["3072", "4096"] smaller ∨
        ¬ Has "2048" larger ∧ HasAny ["3072", "4096"] larger ∧
          (Has "3072" smaller ∨ ¬ Has "3072" larger))

instance (smaller larger : List Char) : Decidable (MarkersKeepOrder smaller larger) :=
  inferInstanceAs (Decidable (_ ∨ ¬ _ ∧ (_ ∨ ¬ _ ∨ ¬ _ ∧ _ ∧ (_ ∨ ¬ _))))

theorem sizedFactor_eq (name : List Char) : sizedFactor name (19 / 20) classicalThresholds =
    if Has "1024" name then 1
    else if Has "2048" name then 19 / 20
    else if Has "3072" name then 9 / 10
    else if Has "4096" name then 17 / 20
    else 19 / 20 := by
  have htext : toString 1024 = "1024" ∧ toString 2048 = "2048" ∧ toString 3072 = "3072" ∧
      toString 4096 = "4096" := by
    decide
  unfold sizedFactor classicalThresholds
  simp only [List.find?_cons, List.find?_nil, htext]
  by_cases h1024 : Has "1024" name
  · simp only [h1024, decide_true, if_true]
  by_cases h2048 : Has "2048" name
  · simp only [h1024, h2048, decide_true, decide_false, if_true, if_false]
  by_cases h3072 : Has "3072" name
  · simp only [h1024, h2048, h3072, decide_true, decide_false, if_true, if_false]
  by_cases h4096 : Has "4096" name
  · simp only [h1024, h2048, h3072, h4096, decide_true, decide_false, if_true, if_false]
  · simp only [h1024, h2048, h3072, h4096, decide_false, if_false]

theorem sizedFactor_le_iff {smaller larger : List Char} :
    sizedFactor larger (19 / 20) classicalThresholds ≤
      sizedFactor smaller (19 / 20) classicalThresholds ↔ MarkersKeepOrder smaller larger := by
  rw [sizedFactor_eq, sizedFactor_eq]
  simp only [MarkersKeepOrder, hasAny_cons, not_hasAny_nil, or_false]
  -- either name is read as one of the four sizes or as none
  split_ifs <;> norm_num <;> grind

/-! ## 3. Two sizes in one spelling -/

section

variable [PyText] {before after algorithmFamily assetType : List Char} {size size' : Nat}

/-- A post-quantum or hybrid word decides the factor alone. -/
theorem algorithmFactor_of_transition
    (h : NamesAny (sizedName before size after) algorithmFamily transitionWords) :
    algorithmFactor (sizedName before size after) algorithmFamily assetType =
      algorithmFactor (sizedName before size' after) algorithmFamily assetType := by
  have hpqc : NamesAny (sizedName before size after) algorithmFamily pqcWords ↔
      NamesAny (sizedName before size' after) algorithmFamily pqcWords :=
    namesAny_sizedName (by decide) size size'
  have hplus : NamesAny (sizedName before size after) algorithmFamily ["+", "HYBRID"] ↔
      NamesAny (sizedName before size' after) algorithmFamily ["+", "HYBRID"] :=
    namesAny_sizedName (by decide) size size'
  have hhybrid : Names (sizedName before size after) algorithmFamily "HYBRID" ↔
      Names (sizedName before size' after) algorithmFamily "HYBRID" :=
    names_sizedName (by decide) size size'
  rw [namesAny_transitionWords] at h
  rw [algorithmFactor_eq, algorithmFactor_eq]
  by_cases hnamed : NamesAny (sizedName before size after) algorithmFamily pqcWords
  · rw [if_pos hnamed, if_pos (hpqc.mp hnamed)]
    exact if_congr hplus rfl rfl
  -- then the hybrid word is there, and it gives one factor for all sizes
  · have hword := h.resolve_left hnamed
    rw [if_neg hnamed, if_neg (mt hpqc.mpr hnamed), if_pos hword, if_pos (hhybrid.mp hword)]

theorem algorithmFactor_of_size {algorithm : List Char}
    (htransition : ¬ NamesAny algorithm algorithmFamily transitionWords)
    (hsize : ScoredBySize algorithm algorithmFamily) :
    algorithmFactor algorithm algorithmFamily assetType =
      sizedFactor (normalizeAlgorithmText algorithm) (19 / 20) classicalThresholds := by
  rw [namesAny_transitionWords, not_or] at htransition
  rw [algorithmFactor_eq, if_neg htransition.1, if_neg htransition.2, if_pos hsize]

/-- **When a bigger key is not riskier.**  An RSA, DSA or Diffie-Hellman name keeps its factor from
one size to another if a post-quantum or hybrid word decides it, and else the factor is no higher
exactly if the digits of the two names keep the order of the sizes that the factor looks for. -/
theorem biggerKey_le_iff (hsize : ScoredBySize (sizedName before size after) algorithmFamily)
    (hsize' : ScoredBySize (sizedName before size' after) algorithmFamily) :
    algorithmFactor (sizedName before size' after) algorithmFamily assetType ≤
        algorithmFactor (sizedName before size after) algorithmFamily assetType ↔
      NamesAny (sizedName before size after) algorithmFamily transitionWords ∨
        MarkersKeepOrder (normalizeAlgorithmText (sizedName before size after))
          (normalizeAlgorithmText (sizedName before size' after)) := by
  by_cases htransition : NamesAny (sizedName before size after) algorithmFamily transitionWords
  · have heq := @algorithmFactor_of_transition _ before after algorithmFamily assetType size size'
      htransition
    exact iff_of_true heq.ge (.inl htransition)
  · have htransition' :
        ¬ NamesAny (sizedName before size' after) algorithmFamily transitionWords := by
      rwa [namesAny_sizedName (by decide) size' size]
    rw [algorithmFactor_of_size htransition hsize, algorithmFactor_of_size htransition' hsize',
      sizedFactor_le_iff, or_iff_right htransition]

end

/-- RSA with 2048 bits is no riskier than RSA with 1024. -/
theorem rsa2048_le_rsa1024 : letI := asciiText
    algorithmFactor (sizedName "RSA-".toList 2048 []) [] [] ≤
      algorithmFactor (sizedName "RSA-".toList 1024 []) [] [] :=
  let := asciiText
  (biggerKey_le_iff (.inl (by decide)) (.inl (by decide))).mpr (.inr (.inl (by decide +kernel)))

/-- RSA with 8192 bits counts as riskier than RSA with 4096. -/
theorem rsa8192_riskier : letI := asciiText
    ¬ ∀ (before after algorithmFamily assetType : List Char) (size size' : Nat), size ≤ size' →
      ScoredBySize (sizedName before size after) algorithmFamily →
      ScoredBySize (sizedName before size' after) algorithmFamily →
      algorithmFactor (sizedName before size' after) algorithmFamily assetType ≤
        algorithmFactor (sizedName before size after) algorithmFamily assetType := by
  let := asciiText
  intro h
  have hle := h "RSA-".toList [] [] [] 4096 8192 (by decide) (.inl (by decide)) (.inl (by decide))
  have hno : ¬ algorithmFactor (sizedName "RSA-".toList 8192 []) [] [] ≤
      algorithmFactor (sizedName "RSA-".toList 4096 []) [] [] := by
    decide +kernel
  exact hno hle

end CryptoScanner.RiskEngine
