import CryptoScanner.MigrationEngine.Engine

/-!
# What makes a text quantum-vulnerable

No marker contains a blank, so a marker is in `f"{family} {algorithm}"` exactly if it is in the
normalized family or in the normalized algorithm.
-/

namespace CryptoScanner.MigrationEngine

open Library Python

variable [PyText]

/-- A marker of the list is in the normalized family or the normalized algorithm. -/
def Mentions (markers : List String) (algorithm algorithmFamily : List Char) : Prop :=
  ∃ marker ∈ markers, Has marker (normalize algorithmFamily) ∨ Has marker (normalize algorithm)

instance (markers : List String) (algorithm algorithmFamily : List Char) :
    Decidable (Mentions markers algorithm algorithmFamily) :=
  inferInstanceAs (Decidable (∃ marker ∈ markers, _))

omit [PyText] in
theorem markers_wellFormed : ∀ marker ∈ pqcMarkers ++ quantumVulnerableMarkers,
    ' ' ∉ marker.toList ∧ marker.toList ≠ [] := by
  decide

theorem has_combinedText {w : String} {algorithm algorithmFamily : List Char}
    (hblank : ' ' ∉ w.toList) (hw : w.toList ≠ []) :
    Has w (combinedText algorithmFamily algorithm) ↔
      Has w (normalize algorithmFamily) ∨ Has w (normalize algorithm) :=
  infix_append_sep hblank hw

theorem isQuantumVulnerable_iff {algorithm algorithmFamily : List Char} :
    isQuantumVulnerable algorithm algorithmFamily = true ↔
      ¬ Mentions pqcMarkers algorithm algorithmFamily ∧
        Mentions quantumVulnerableMarkers algorithm algorithmFamily := by
  have hmentions : ∀ markers : List String, markers ⊆ pqcMarkers ++ quantumVulnerableMarkers →
      ((markers.any fun marker => Has marker (combinedText algorithmFamily algorithm)) = true ↔
        Mentions markers algorithm algorithmFamily) := by
    intro markers hsub
    rw [List.any_eq_true]
    apply exists_congr
    intro marker
    apply and_congr_right
    intro hmem
    have hform := markers_wellFormed marker (hsub hmem)
    rw [decide_eq_true_eq, has_combinedText hform.1 hform.2]
  have hpqc := hmentions pqcMarkers (List.subset_append_left _ _)
  have hvulnerable := hmentions quantumVulnerableMarkers (List.subset_append_right _ _)
  unfold isQuantumVulnerable
  by_cases h : Mentions pqcMarkers algorithm algorithmFamily
  · simp only [hpqc.mpr h, h, if_true, not_true_eq_false, false_and, Bool.false_eq_true]
  · have hfalse := mt hpqc.mp h
    simp only [hfalse, h, not_false_eq_true, true_and]
    exact hvulnerable

theorem normalize_unknown : normalize "Unknown".toList = "UNKNOWN".toList :=
  strip_upper_ascii (by decide) (by decide)

/-- The default for an absent algorithm mentions nothing that the family does not. -/
theorem mentions_currentAlgorithm {markers : List String} {algorithm algorithmFamily : List Char}
    (hsub : markers ⊆ pqcMarkers ++ quantumVulnerableMarkers) :
    Mentions markers (currentAlgorithm algorithm algorithmFamily) algorithmFamily ↔
      Mentions markers algorithm algorithmFamily := by
  apply exists_congr
  intro marker
  apply and_congr_right
  intro hmem
  have hform := markers_wellFormed marker (hsub hmem)
  cases algorithm with
  | cons c algorithm => rfl
  | nil =>
      have hempty : ¬ Has marker [] := fun h => hform.2 (List.infix_nil.mp h)
      cases algorithmFamily with
      | cons c algorithmFamily =>
          show _ ∨ Has marker (normalize (c :: algorithmFamily)) ↔ _ ∨ Has marker []
          rw [or_self, or_iff_left hempty]
      | nil =>
          have hunknown : ∀ marker ∈ pqcMarkers ++ quantumVulnerableMarkers,
              ¬ Has marker "UNKNOWN".toList := by
            decide
          show _ ∨ Has marker (normalize "Unknown".toList) ↔ _ ∨ Has marker []
          rw [normalize_unknown, or_iff_left (hunknown marker (hsub hmem)), or_iff_left hempty]

theorem isQuantumVulnerable_currentAlgorithm {algorithm algorithmFamily : List Char} :
    isQuantumVulnerable (currentAlgorithm algorithm algorithmFamily) algorithmFamily =
      isQuantumVulnerable algorithm algorithmFamily := by
  rw [Bool.eq_iff_iff, isQuantumVulnerable_iff, isQuantumVulnerable_iff,
    mentions_currentAlgorithm (List.subset_append_left _ _),
    mentions_currentAlgorithm (List.subset_append_right _ _)]

end CryptoScanner.MigrationEngine
