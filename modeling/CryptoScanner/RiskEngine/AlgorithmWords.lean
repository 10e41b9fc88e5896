import CryptoScanner.RiskEngine.Engine
import CryptoScanner.MigrationEngine.Vulnerability

/-!
# The words that decide the algorithm factor

`algorithm_factor` searches the normalized family and name as one text.  No word of its tests has a
blank, so each test asks for the word in the family or in the name, and the ordered tests sort the
texts into bands.
-/

namespace CryptoScanner.RiskEngine

open Library Python MigrationEngine

/-! ## 1. The words -/

/-- The words after which the factor is at most that of a hybrid. -/
def transitionWords : List String := ["ML-KEM", "ML-DSA", "SLH-DSA", "FALCON", "FN-DSA", "HYBRID"]

def pqcWords : List String := ["ML-KEM", "ML-DSA", "SLH-DSA", "FALCON", "FN-DSA"]

/-- The words of the algorithms over elliptic curves, which keep a name with `DH` from its size. -/
def curveWords : List String := ["ECDSA", "ECDH", "X25519", "X448", "ED25519", "ED448"]

def curveSizeWords : List String :=
  ["P-256", "SECP256", "P-384", "SECP384", "P-521", "SECP521"]

def classicalWords : List String :=
  ["RSA", "DSA", "ECDSA", "ECDH", "X25519", "X448", "ED25519", "ED448", "DH", "MODP"]

def sha1Words : List String := ["SHA-1", "SHA1"]

/-- The words of the hashes and ciphers that count as quantum-safe. -/
def symmetricWords : List String :=
  ["SHA-256", "SHA-384", "SHA-512", "SHA2", "AES-128", "AES-192", "AES-256", "CHACHA20", "HMAC"]

def factorWords : List String := transitionWords ++ classicalWords ++ sha1Words ++ symmetricWords

theorem factorWords_wellFormed : ∀ word ∈ "+" :: "SIGN" :: factorWords, word.toList ≠ [] ∧
    ∀ c ∈ word.toList, isAscii c = true ∧ isAsciiSpace c = false := by
  decide

theorem curveSizeWords_wellFormed : ∀ word ∈ curveSizeWords, word.toList ≠ [] ∧
    ∀ c ∈ word.toList, isAscii c = true ∧ isAsciiSpace c = false := by
  decide

def HasAny (list : List String) (text : List Char) : Prop := ∃ word ∈ list, Has word text

instance (list : List String) (text : List Char) : Decidable (HasAny list text) :=
  inferInstanceAs (Decidable (∃ word ∈ list, _))

theorem hasAny_cons {word : String} {list : List String} {text : List Char} :
    HasAny (word :: list) text ↔ Has word text ∨ HasAny list text :=
  List.exists_mem_cons_iff ..

theorem not_hasAny_nil {text : List Char} : ¬ HasAny [] text := by
  rintro ⟨word, hword, -⟩
  cases hword

/-! ## 2. The factor by bands -/

variable [PyText]

/-- An ASCII text without white space only changes its case. -/
theorem normalizeAlgorithmText_ascii {text : List Char}
    (h : ∀ c ∈ text, isAscii c = true ∧ isAsciiSpace c = false) :
    normalizeAlgorithmText text = text.map Char.toUpper := by
  have hstrip : strip text = text := by
    apply strip_eq_self
    intro c hc
    rw [PyText.isSpace_ascii c (h c hc).1, (h c hc).2]
  rw [normalizeAlgorithmText, hstrip]
  exact upper_ascii fun c hc => (h c hc).1

/-- Stripping before or after the case mapping, the words are those of the text. -/
theorem normalizeAlgorithmText_isInfix (text : List Char) :
    normalizeAlgorithmText text <:+: upper text := by
  obtain ⟨before, after, heq⟩ := strip_isInfix text
  refine ⟨upper before, upper after, ?_⟩
  rw [normalizeAlgorithmText, ← upper_append, ← upper_append, heq]

def Names (algorithm algorithmFamily : List Char) (word : String) : Prop :=
  Has word (normalizeAlgorithmText algorithmFamily) ∨ Has word (normalizeAlgorithmText algorithm)

instance (algorithm algorithmFamily : List Char) (word : String) :
    Decidable (Names algorithm algorithmFamily word) :=
  inferInstanceAs (Decidable (_ ∨ _))

def NamesAny (algorithm algorithmFamily : List Char) (list : List String) : Prop :=
  ∃ word ∈ list, Names algorithm algorithmFamily word

instance (algorithm algorithmFamily : List Char) (list : List String) :
    Decidable (NamesAny algorithm algorithmFamily list) :=
  inferInstanceAs (Decidable (∃ word ∈ list, _))

/-- SHA-1 counts as broken in a signature only. -/
def SignsText (algorithm algorithmFamily assetType : List Char) : Prop :=
  Names algorithm algorithmFamily "SIGN" ∨ assetType = "certificate".toList ∨
    assetType = "signature".toList

instance (algorithm algorithmFamily assetType : List Char) :
    Decidable (SignsText algorithm algorithmFamily assetType) :=
  inferInstanceAs (Decidable (_ ∨ _))

theorem has_combined_of_wellFormed {word : String} (hform : word.toList ≠ [] ∧
      ∀ c ∈ word.toList, isAscii c = true ∧ isAsciiSpace c = false)
    {algorithm algorithmFamily : List Char} :
    Has word (strip (normalizeAlgorithmText algorithmFamily ++
        ' ' :: normalizeAlgorithmText algorithm)) ↔ Names algorithm algorithmFamily word := by
  -- a word without a blank does not cross from the family into the name
  have hblank : ' ' ∉ word.toList := fun hc => absurd (hform.2 ' ' hc).2 (by decide)
  have hspace : ∀ c ∈ word.toList, PyText.isSpace c = false := by
    intro c hc
    rw [PyText.isSpace_ascii c (hform.2 c hc).1, (hform.2 c hc).2]
  rw [has_strip hform.1 hspace]
  exact infix_append_sep hblank hform.1

theorem has_combined {word : String} (hword : word ∈ "+" :: "SIGN" :: factorWords)
    {algorithm algorithmFamily : List Char} :
    Has word (strip (normalizeAlgorithmText algorithmFamily ++
        ' ' :: normalizeAlgorithmText algorithm)) ↔ Names algorithm algorithmFamily word :=
  has_combined_of_wellFormed (factorWords_wellFormed word hword)

theorem namesAny_iff {algorithm algorithmFamily : List Char} {list : List String} :
    NamesAny algorithm algorithmFamily list ↔
      HasAny list (normalizeAlgorithmText algorithmFamily) ∨
        HasAny list (normalizeAlgorithmText algorithm) := by
  simp only [NamesAny, Names, HasAny, and_or_left, exists_or]

omit [PyText] in
theorem sizedFactor_bounds (name : List Char) :
    17 / 20 ≤ sizedFactor name (19 / 20) classicalThresholds := by
  unfold sizedFactor
  have hall : ∀ threshold ∈ classicalThresholds, (17 / 20 : ℚ) ≤ threshold.2 := by
    decide +kernel
  cases hfind : classicalThresholds.find? fun threshold => Has (toString threshold.1) name with
  | none =>
      show (17 / 20 : ℚ) ≤ 19 / 20
      norm_num
  | some threshold => exact hall threshold (List.mem_of_find?_eq_some hfind)

section

variable {algorithm algorithmFamily : List Char}

theorem namesAny_cons {word : String} {list : List String} :
    NamesAny algorithm algorithmFamily (word :: list) ↔
      Names algorithm algorithmFamily word ∨ NamesAny algorithm algorithmFamily list :=
  List.exists_mem_cons_iff ..

theorem not_namesAny_nil : ¬ NamesAny algorithm algorithmFamily [] := by
  rintro ⟨word, hword, -⟩
  cases hword

theorem namesAny_append {list list' : List String} :
    NamesAny algorithm algorithmFamily (list ++ list') ↔
      NamesAny algorithm algorithmFamily list ∨ NamesAny algorithm algorithmFamily list' := by
  simp only [NamesAny, List.mem_append, or_and_right, exists_or]

theorem namesAny_transitionWords : NamesAny algorithm algorithmFamily transitionWords ↔
    NamesAny algorithm algorithmFamily pqcWords ∨ Names algorithm algorithmFamily "HYBRID" := by
  have hsplit : transitionWords = pqcWords ++ ["HYBRID"] := rfl
  rw [hsplit, namesAny_append, namesAny_cons, or_iff_left not_namesAny_nil]

theorem namesAny_factorWords : NamesAny algorithm algorithmFamily factorWords ↔
    ((NamesAny algorithm algorithmFamily transitionWords ∨
      NamesAny algorithm algorithmFamily classicalWords) ∨
      NamesAny algorithm algorithmFamily sha1Words) ∨
      NamesAny algorithm algorithmFamily symmetricWords := by
  rw [factorWords, namesAny_append, namesAny_append, namesAny_append]

end

/-- RSA, DSA and Diffie-Hellman over a prime field are scored by the size in the name. -/
def ScoredBySize (algorithm algorithmFamily : List Char) : Prop :=
  Names algorithm algorithmFamily "RSA" ∨
    Names algorithm algorithmFamily "DSA" ∧ ¬ Names algorithm algorithmFamily "ECDSA" ∨
    ¬ NamesAny algorithm algorithmFamily curveWords ∧
      NamesAny algorithm algorithmFamily ["DH", "MODP"]

instance (algorithm algorithmFamily : List Char) :
    Decidable (ScoredBySize algorithm algorithmFamily) :=
  inferInstanceAs (Decidable (_ ∨ _ ∧ ¬ _ ∨ ¬ _ ∧ _))

theorem scoredBySize_iff {algorithm algorithmFamily : List Char} :
    ScoredBySize algorithm algorithmFamily ↔
      Names algorithm algorithmFamily "RSA" ∨
        Names algorithm algorithmFamily "DSA" ∧ ¬ Names algorithm algorithmFamily "ECDSA" ∨
        ¬ (Names algorithm algorithmFamily "ECDSA" ∨ Names algorithm algorithmFamily "ECDH" ∨
          Names algorithm algorithmFamily "X25519" ∨ Names algorithm algorithmFamily "X448" ∨
          Names algorithm algorithmFamily "ED25519" ∨ Names algorithm algorithmFamily "ED448") ∧
        (Names algorithm algorithmFamily "DH" ∨ Names algorithm algorithmFamily "MODP") := by
  simp only [ScoredBySize, curveWords, namesAny_cons, not_namesAny_nil, or_false]

theorem namesAny_classicalWords {algorithm algorithmFamily : List Char} :
    NamesAny algorithm algorithmFamily classicalWords ↔
      ScoredBySize algorithm algorithmFamily ∨ NamesAny algorithm algorithmFamily curveWords := by
  simp only [scoredBySize_iff, classicalWords, curveWords, namesAny_cons, not_namesAny_nil,
    or_false]
  grind

/-- The ordered tests as questions about words, those that read a size taken together. -/
theorem algorithmFactor_eq (algorithm algorithmFamily assetType : List Char) :
    algorithmFactor algorithm algorithmFamily assetType =
      if NamesAny algorithm algorithmFamily pqcWords then
        if NamesAny algorithm algorithmFamily ["+", "HYBRID"] then 1 / 10 else 0
      else if Names algorithm algorithmFamily "HYBRID" then 1 / 10
      else if ScoredBySize algorithm algorithmFamily then
        sizedFactor (normalizeAlgorithmText algorithm) (19 / 20) classicalThresholds
      else if NamesAny algorithm algorithmFamily ["ECDSA", "ECDH"] then
        if NamesAny algorithm algorithmFamily ["P-256", "SECP256"] then 19 / 20
        else if NamesAny algorithm algorithmFamily ["P-384", "SECP384"] then 9 / 10
        else if NamesAny algorithm algorithmFamily ["P-521", "SECP521"] then 17 / 20
        else 9 / 10
      else if NamesAny algorithm algorithmFamily curveWords then 9 / 10
      else if NamesAny algorithm algorithmFamily sha1Words then
        if SignsText algorithm algorithmFamily assetType then 1 else 1 / 2
      else if NamesAny algorithm algorithmFamily ["SHA-256", "SHA-384", "SHA-512", "SHA2"] then
        1 / 20
      else if Names algorithm algorithmFamily "AES-128" then 1 / 10
      else if NamesAny algorithm algorithmFamily ["AES-192", "AES-256", "CHACHA20", "HMAC"] then
        1 / 20
      else 1 / 2 := by
  have hcombined : ∀ word ∈ "+" :: "SIGN" :: factorWords,
      (Has word (strip (normalizeAlgorithmText algorithmFamily ++
        ' ' :: normalizeAlgorithmText algorithm)) ↔ Names algorithm algorithmFamily word) :=
    fun word hword => has_combined hword
  have hcurve : ∀ word ∈ curveSizeWords,
      (Has word (strip (normalizeAlgorithmText algorithmFamily ++
        ' ' :: normalizeAlgorithmText algorithm)) ↔ Names algorithm algorithmFamily word) :=
    fun word hword => has_combined_of_wellFormed (curveSizeWords_wellFormed word hword)
  -- the early return for an empty text is that of a text without any of the words
  have hempty : strip (normalizeAlgorithmText algorithmFamily ++
      ' ' :: normalizeAlgorithmText algorithm) = [] →
      ∀ word ∈ factorWords, ¬ Names algorithm algorithmFamily word := by
    intro hnil word hword hnames
    have hmem := List.mem_cons_of_mem "+" (List.mem_cons_of_mem "SIGN" hword)
    rw [← hcombined word hmem, hnil] at hnames
    exact (factorWords_wellFormed word hmem).1 (List.infix_nil.mp hnames)
  unfold algorithmFactor
  dsimp only
  generalize strip (normalizeAlgorithmText algorithmFamily ++
    ' ' :: normalizeAlgorithmText algorithm) = combined at hcombined hcurve hempty ⊢
  simp only [factorWords, transitionWords, classicalWords, sha1Words, symmetricWords,
    curveSizeWords, List.cons_append, List.nil_append, List.forall_mem_cons] at hcombined hcurve
  simp only [hcombined, hcurve]
  by_cases hnil : combined = []
  · have hno := hempty hnil
    simp only [factorWords, transitionWords, classicalWords, sha1Words, symmetricWords,
      List.cons_append, List.nil_append, List.forall_mem_cons] at hno
    rw [if_pos hnil]
    simp only [ScoredBySize, pqcWords, curveWords, sha1Words, namesAny_cons, not_namesAny_nil, hno,
      or_self, if_false, false_and, and_false]
  rw [if_neg hnil]
  clear hcombined hcurve hempty
  have hsize := @scoredBySize_iff _ algorithm algorithmFamily
  simp only [SignsText, pqcWords, curveWords, sha1Words, namesAny_cons, not_namesAny_nil, or_false]
  generalize sizedFactor _ _ _ = sized
  apply if_congr Iff.rfl rfl
  apply if_congr Iff.rfl rfl
  by_cases hrsa : Names algorithm algorithmFamily "RSA"
  · rw [if_pos hrsa, if_pos (hsize.mpr (.inl hrsa))]
  rw [if_neg hrsa]
  by_cases hdsa : Names algorithm algorithmFamily "DSA" ∧ ¬ Names algorithm algorithmFamily "ECDSA"
  · rw [if_pos hdsa, if_pos (hsize.mpr (.inr (.inl hdsa)))]
  rw [if_neg hdsa]
  -- a name with `DH` is scored by its size once no word of a curve is in it
  by_cases hecdsa : Names algorithm algorithmFamily "ECDSA" ∨ Names algorithm algorithmFamily "ECDH"
  · have hother : ¬ ScoredBySize algorithm algorithmFamily := by
      grind
    rw [if_pos hecdsa, if_neg hother, if_pos hecdsa]
  rw [if_neg hecdsa]
  by_cases hedwards : Names algorithm algorithmFamily "X25519" ∨
      Names algorithm algorithmFamily "X448" ∨ Names algorithm algorithmFamily "ED25519" ∨
      Names algorithm algorithmFamily "ED448"
  · have hother : ¬ ScoredBySize algorithm algorithmFamily := by
      grind
    rw [if_pos hedwards, if_neg hother, if_neg hecdsa, if_pos (by grind)]
  rw [if_neg hedwards]
  by_cases hdh : Names algorithm algorithmFamily "DH" ∨ Names algorithm algorithmFamily "MODP"
  · rw [if_pos hdh, if_pos (hsize.mpr (by grind))]
  have hother : ¬ ScoredBySize algorithm algorithmFamily := by
    grind
  have hcurve : ¬ (Names algorithm algorithmFamily "ECDSA" ∨
      Names algorithm algorithmFamily "ECDH" ∨ Names algorithm algorithmFamily "X25519" ∨
      Names algorithm algorithmFamily "X448" ∨ Names algorithm algorithmFamily "ED25519" ∨
      Names algorithm algorithmFamily "ED448") := by
    grind
  rw [if_neg hdh, if_neg hother, if_neg hecdsa, if_neg hcurve]
  apply if_congr Iff.rfl rfl
  apply if_congr Iff.rfl rfl
  apply if_congr Iff.rfl rfl
  by_cases haes : Names algorithm algorithmFamily "AES-192" ∨
      Names algorithm algorithmFamily "AES-256"
  · rw [if_pos haes, if_pos (by grind)]
  · rw [if_neg haes]
    exact if_congr (by grind) rfl rfl

inductive FactorBand (algorithm algorithmFamily assetType : List Char) : ℚ → Prop
  | transition {factor : ℚ} (h : NamesAny algorithm algorithmFamily transitionWords)
      (hfactor : factor ≤ 1 / 10) : FactorBand algorithm algorithmFamily assetType factor
  | classical {factor : ℚ} (htransition : ¬ NamesAny algorithm algorithmFamily transitionWords)
      (h : NamesAny algorithm algorithmFamily classicalWords) (hfactor : 17 / 20 ≤ factor) :
      FactorBand algorithm algorithmFamily assetType factor
  | sha1 (htransition : ¬ NamesAny algorithm algorithmFamily transitionWords)
      (hclassical : ¬ NamesAny algorithm algorithmFamily classicalWords)
      (h : NamesAny algorithm algorithmFamily sha1Words) :
      FactorBand algorithm algorithmFamily assetType
        (if SignsText algorithm algorithmFamily assetType then 1 else 1 / 2)
  | symmetric {factor : ℚ} (htransition : ¬ NamesAny algorithm algorithmFamily transitionWords)
      (hclassical : ¬ NamesAny algorithm algorithmFamily classicalWords)
      (hsha1 : ¬ NamesAny algorithm algorithmFamily sha1Words)
      (h : NamesAny algorithm algorithmFamily symmetricWords) (hfactor : factor ≤ 1 / 10) :
      FactorBand algorithm algorithmFamily assetType factor
  | unknown (h : ¬ NamesAny algorithm algorithmFamily factorWords) :
      FactorBand algorithm algorithmFamily assetType (1 / 2)

theorem algorithmFactor_band (algorithm algorithmFamily assetType : List Char) :
    FactorBand algorithm algorithmFamily assetType
      (algorithmFactor algorithm algorithmFamily assetType) := by
  have hsized := sizedFactor_bounds (normalizeAlgorithmText algorithm)
  have hsub : ∀ {list list' : List String}, list ⊆ list' →
      NamesAny algorithm algorithmFamily list → NamesAny algorithm algorithmFamily list' := by
    intro list list' hsub h
    obtain ⟨word, hword, hnames⟩ := h
    exact ⟨word, hsub hword, hnames⟩
  rw [algorithmFactor_eq]
  by_cases hpqc : NamesAny algorithm algorithmFamily pqcWords
  -- 0.1 for a combination with a classical algorithm, else 0
  · rw [if_pos hpqc]
    apply FactorBand.transition (hsub (by decide) hpqc)
    split <;> norm_num
  rw [if_neg hpqc]
  by_cases hhybrid : Names algorithm algorithmFamily "HYBRID"
  · rw [if_pos hhybrid]
    exact .transition ⟨"HYBRID", by decide, hhybrid⟩ le_rfl
  rw [if_neg hhybrid]
  have htransition : ¬ NamesAny algorithm algorithmFamily transitionWords := by
    rw [namesAny_transitionWords]
    exact not_or.mpr ⟨hpqc, hhybrid⟩
  -- Every branch of a classical word gives a factor of the same band.
  by_cases hsize : ScoredBySize algorithm algorithmFamily
  · rw [if_pos hsize]
    apply FactorBand.classical htransition _ hsized
    rcases hsize with hrsa | ⟨hdsa, -⟩ | ⟨-, hdh⟩
    · exact ⟨"RSA", by decide, hrsa⟩
    · exact ⟨"DSA", by decide, hdsa⟩
    · exact hsub (by decide) hdh
  rw [if_neg hsize]
  by_cases hecdsa : NamesAny algorithm algorithmFamily ["ECDSA", "ECDH"]
  · rw [if_pos hecdsa]
    apply FactorBand.classical htransition (hsub (by decide) hecdsa)
    split_ifs <;> norm_num
  rw [if_neg hecdsa]
  by_cases hcurve : NamesAny algorithm algorithmFamily curveWords
  · rw [if_pos hcurve]
    apply FactorBand.classical htransition (hsub (by decide) hcurve)
    norm_num
  rw [if_neg hcurve]
  have hclassical : ¬ NamesAny algorithm algorithmFamily classicalWords := by
    rw [namesAny_classicalWords]
    exact not_or.mpr ⟨hsize, hcurve⟩
  by_cases hsha1 : NamesAny algorithm algorithmFamily sha1Words
  · rw [if_pos hsha1]
    exact .sha1 htransition hclassical hsha1
  rw [if_neg hsha1]
  -- what is left are ciphers and hashes, each at most 0.10
  by_cases hsymmetric : NamesAny algorithm algorithmFamily symmetricWords
  · apply FactorBand.symmetric htransition hclassical hsha1 hsymmetric
    simp only [symmetricWords, namesAny_cons, not_namesAny_nil, or_false] at hsymmetric ⊢
    split_ifs <;> grind
  · have hunknown : ¬ NamesAny algorithm algorithmFamily factorWords := by
      rw [namesAny_factorWords]
      grind
    simp only [symmetricWords, namesAny_cons, not_namesAny_nil, or_false, not_or] at hsymmetric
    simp only [namesAny_cons, not_namesAny_nil, hsymmetric, or_self, if_false]
    exact .unknown hunknown

theorem le_algorithmFactor_iff {algorithm algorithmFamily assetType : List Char} :
    17 / 20 ≤ algorithmFactor algorithm algorithmFamily assetType ↔
      ¬ NamesAny algorithm algorithmFamily transitionWords ∧
        (NamesAny algorithm algorithmFamily classicalWords ∨
          NamesAny algorithm algorithmFamily sha1Words ∧
            SignsText algorithm algorithmFamily assetType) := by
  have hband := algorithmFactor_band algorithm algorithmFamily assetType
  generalize algorithmFactor algorithm algorithmFamily assetType = factor at hband ⊢
  cases hband with
  | transition h hfactor =>
      have hlow : ¬ 17 / 20 ≤ factor := by linarith
      simp only [hlow, h, not_true_eq_false, false_and]
  | classical htransition h hfactor =>
      simp only [hfactor, htransition, h, not_false_eq_true, true_or, and_self]
  | sha1 htransition hclassical h =>
      simp only [htransition, hclassical, h, not_false_eq_true, false_or, true_and]
      split
      · norm_num
        assumption
      · norm_num
        assumption
  | symmetric htransition hclassical hsha1 h hfactor =>
      have hlow : ¬ 17 / 20 ≤ factor := by linarith
      simp only [hlow, hclassical, hsha1, false_and, or_self, and_false]
  | unknown h =>
      rw [namesAny_factorWords] at h
      norm_num
      grind

theorem algorithmFactor_le_iff {algorithm algorithmFamily assetType : List Char} :
    algorithmFactor algorithm algorithmFamily assetType ≤ 1 / 10 ↔
      NamesAny algorithm algorithmFamily transitionWords ∨
        ¬ NamesAny algorithm algorithmFamily classicalWords ∧
          ¬ NamesAny algorithm algorithmFamily sha1Words ∧
            NamesAny algorithm algorithmFamily symmetricWords := by
  have hband := algorithmFactor_band algorithm algorithmFamily assetType
  generalize algorithmFactor algorithm algorithmFamily assetType = factor at hband ⊢
  cases hband with
  | transition h hfactor => simp only [hfactor, h, true_or]
  | classical htransition h hfactor =>
      have hhigh : ¬ factor ≤ 1 / 10 := by linarith
      simp only [hhigh, htransition, h, not_true_eq_false, false_and, or_self]
  | sha1 htransition hclassical h =>
      simp only [htransition, h, not_true_eq_false, false_and, and_false, or_self, iff_false]
      split <;> norm_num
  | symmetric htransition hclassical hsha1 h hfactor =>
      simp only [hfactor, hclassical, hsha1, h, not_false_eq_true, and_self, or_true]
  | unknown h =>
      rw [namesAny_factorWords] at h
      norm_num
      grind

end CryptoScanner.RiskEngine
