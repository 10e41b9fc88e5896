import CryptoScanner.RiskEngine.AlgorithmWords

/-!
# Where the migration engine and the risk engine disagree

Both engines search the family and the name for words of their own.  The migration engine knows
curves and groups that the algorithm factor has no word for, and the factor takes any hybrid for
safe.
-/

namespace CryptoScanner.RiskEngine

open Library Python MigrationEngine

section

variable [PyText] {algorithm algorithmFamily : List Char}

/-- A word that the risk engine finds is one that the migration engine finds. -/
theorem NamesAny.mentions {list : List String} (hlist : list ⊆ pqcMarkers)
    (h : NamesAny algorithm algorithmFamily list) : Mentions list algorithm algorithmFamily := by
  obtain ⟨marker, hmarker, hnames⟩ := h
  have hwords : ∀ marker ∈ pqcMarkers, marker ∈ "+" :: "SIGN" :: factorWords := by decide
  have hform := factorWords_wellFormed marker (hwords marker (hlist hmarker))
  have hspace : ∀ c ∈ marker.toList, PyText.isSpace c = false := by
    intro c hc
    rw [PyText.isSpace_ascii c (hform.2 c hc).1, (hform.2 c hc).2]
  have hnormal : ∀ text, Has marker (normalizeAlgorithmText text) →
      Has marker (MigrationEngine.normalize text) := by
    intro text hhas
    rw [MigrationEngine.normalize, has_strip hform.1 hspace]
    exact hhas.trans (normalizeAlgorithmText_isInfix text)
  refine ⟨marker, hmarker, ?_⟩
  cases hnames with
  | inl hfamily => exact .inl (hnormal algorithmFamily hfamily)
  | inr hname => exact .inr (hnormal algorithm hname)

/-- What the migration engine lists is scored as vulnerable exactly if the risk engine has a word
for it and no word of a hybrid hides it. -/
theorem vulnerable_scored_iff (algorithm algorithmFamily assetType : List Char) :
    (isQuantumVulnerable algorithm algorithmFamily = true →
      17 / 20 ≤ algorithmFactor algorithm algorithmFamily assetType) ↔
    Mentions pqcMarkers algorithm algorithmFamily ∨
      ¬ Mentions quantumVulnerableMarkers algorithm algorithmFamily ∨
      ¬ Names algorithm algorithmFamily "HYBRID" ∧
        (NamesAny algorithm algorithmFamily classicalWords ∨
          NamesAny algorithm algorithmFamily sha1Words ∧
            SignsText algorithm algorithmFamily assetType) := by
  rw [isQuantumVulnerable_iff, le_algorithmFactor_iff, namesAny_transitionWords]
  have hpqc : NamesAny algorithm algorithmFamily pqcWords →
      Mentions pqcMarkers algorithm algorithmFamily := NamesAny.mentions (List.Subset.refl _)
  by_cases hmentions : Mentions pqcMarkers algorithm algorithmFamily
  · simp only [hmentions, not_true_eq_false, false_and, false_implies, true_or]
  -- no word of a post-quantum algorithm: only `HYBRID` can hide a classical one
  · simp only [hmentions, mt hpqc hmentions, not_false_eq_true, true_and, false_or]
    exact imp_iff_not_or

end

/-- The curve that OpenSSL calls `prime256v1` is listed for migration and scored as unknown. -/
theorem prime256v1_unknown : letI := asciiText
    ¬ ∀ algorithm algorithmFamily : List Char,
      isQuantumVulnerable algorithm algorithmFamily = true →
        17 / 20 ≤ algorithmFactor algorithm algorithmFamily [] := by
  let := asciiText
  intro h
  have hvulnerable : isQuantumVulnerable "prime256v1".toList [] = true := by decide +kernel
  have hfactor : ¬ 17 / 20 ≤ algorithmFactor "prime256v1".toList [] [] := by
    rw [le_algorithmFactor_iff]
    decide +kernel
  exact hfactor (h "prime256v1".toList [] hvulnerable)

end CryptoScanner.RiskEngine
