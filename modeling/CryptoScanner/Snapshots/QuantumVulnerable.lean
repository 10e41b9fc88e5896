import CryptoScanner.MigrationEngine.Vulnerability
import CryptoScanner.Models

/-!
# Which assets count as quantum-vulnerable

The CycloneDX export, the snapshot's asset list, the dashboard and the migration plan each decide
whether an asset is quantum-vulnerable.  The first three look at the family alone, the export in a
larger set than the two others; the fourth searches family and algorithm for markers.
-/

namespace CryptoScanner.Snapshots

open Library Python RiskEngine MigrationEngine

/-! ## 1. The three family tests -/

/-- The set in `_is_quantum_vulnerable` of the export. -/
def exportedFamilies : List (List Char) :=
  ["RSA", "DSA", "ECDSA", "ECDH", "DH"].map String.toList

/-- `VULNERABLE_ALGORITHM_FAMILIES`, and the set in `_is_quantum_vulnerable` of the asset list. -/
def vulnerableFamilies : List (List Char) := ["RSA", "ECDSA", "ECDH", "DH"].map String.toList

/-- The value of `internal:quantum_vulnerable` in `build_cbom_component`. -/
def quantumVulnerableProperty (asset : Asset) : List Char :=
  if asset.algorithmFamily ∈ exportedFamilies then "true".toList else "false".toList

/-- The `quantum_vulnerable` filter of `list_snapshot_assets`. -/
def filterQuantumVulnerable (quantumVulnerable : Option Bool) (assets : List Asset) : List Asset :=
  match quantumVulnerable with
  | none => assets
  | some flag =>
      assets.filter fun asset => decide (asset.algorithmFamily ∈ vulnerableFamilies) == flag

structure VulnerableRatio where
  vulnerable : Nat
  safe : Nat
  unknown : Nat
  deriving DecidableEq, Repr

/-- The loop of `get_dashboard_summary` that counts the vulnerable assets. -/
def vulnerableCount (assets : List Asset) : Nat :=
  assets.foldl
    (fun count asset => if asset.algorithmFamily ∈ vulnerableFamilies then count + 1 else count) 0

def vulnerableRatio (assets : List Asset) : VulnerableRatio :=
  let vulnerable := vulnerableCount assets
  let known := (assets.filter fun asset => asset.algorithmFamily ≠ []).length
  { vulnerable
    safe := known - vulnerable
    unknown := assets.length - known }

theorem vulnerableCount_append (assets : List Asset) (asset : Asset) :
    vulnerableCount (assets ++ [asset]) =
      vulnerableCount assets + if asset.algorithmFamily ∈ vulnerableFamilies then 1 else 0 := by
  unfold vulnerableCount
  rw [List.foldl_append, List.foldl_cons, List.foldl_nil]
  split <;> rfl

/-! ## 2. The migration item of an asset -/

section

variable [PyText]

def migrationCapabilities (asset : Asset) (target : Option Target) : Capability → Bool
  | .inventoryFresh => true
  | .ownerKnown => target.isSome
  | .configPolicy => target.any Target.agentEnabled
  | .rescanValidation => target.any Target.agentEnabled
  | .canarySupported => target.any fun row =>
      let role : Option (List Char) := row.context.field .serviceRole
      role.getD [] ≠ []
  | .rollbackSupported => asset.assetType ∈ ["certificate", "key"].map String.toList
  | _ => false

def recommendForRiskScore (score : RiskScore) (asset : Asset) (target : Option Target) :
    MigrationItem :=
  recommendMigration score.asset asset.name asset.assetType asset.algorithm asset.algorithmFamily
    score.result.score score.result.tier { field := score.context }
    (migrationCapabilities asset target)

/-! ## 3. When the four agree -/

/-- The export, the list of the snapshot's assets and the dashboard say of the asset what the
migration plan says. -/
def ClassifiersAgree (score : RiskScore) (asset : Asset) (target : Option Target)
    (assets : List Asset) : Prop :=
  let planned := (recommendForRiskScore score asset target).current.quantumVulnerable
  (quantumVulnerableProperty asset = "true".toList ↔ planned = true) ∧
  (asset ∈ filterQuantumVulnerable (some true) assets ↔ planned = true) ∧
  (vulnerableCount (assets ++ [asset]) = vulnerableCount assets + 1 ↔ planned = true)

instance (score : RiskScore) (asset : Asset) (target : Option Target) (assets : List Asset) :
    Decidable (ClassifiersAgree score asset target assets) :=
  inferInstanceAs (Decidable (_ ∧ _ ∧ _))

/-- A vulnerable family's own name is among the markers, whatever the algorithm. -/
theorem mentions_of_mem_vulnerableFamilies (algorithm : List Char) {algorithmFamily : List Char}
    (h : algorithmFamily ∈ vulnerableFamilies) :
    Mentions quantumVulnerableMarkers algorithm algorithmFamily := by
  have hascii : ∀ family ∈ vulnerableFamilies, (∀ c ∈ family, isAscii c = true) ∧
      (∀ c ∈ family.map Char.toUpper, isAscii c = true ∧ isAsciiSpace c = false) ∧
      ∃ marker ∈ quantumVulnerableMarkers, Has marker (family.map Char.toUpper) := by
    decide
  obtain ⟨hfamily, hupper, marker, hmem, hhas⟩ := hascii algorithmFamily h
  rw [← strip_upper_ascii hfamily hupper] at hhas
  exact ⟨marker, hmem, .inl hhas⟩

theorem recommendForRiskScore_quantumVulnerable (score : RiskScore) (asset : Asset)
    (target : Option Target) :
    (recommendForRiskScore score asset target).current.quantumVulnerable = true ↔
      ¬ Mentions pqcMarkers asset.algorithm asset.algorithmFamily ∧
        Mentions quantumVulnerableMarkers asset.algorithm asset.algorithmFamily := by
  rw [← isQuantumVulnerable_iff, ← isQuantumVulnerable_currentAlgorithm]
  rfl

/-- The four classifiers agree exactly on the assets of the families RSA, ECDSA, ECDH and DH without
a post-quantum marker, and on the assets of a family outside the export's set that have such a
marker or no marker of a vulnerable algorithm. -/
theorem classifiersAgree_iff (score : RiskScore) (asset : Asset) (target : Option Target)
    (assets : List Asset) (hasset : asset ∈ assets) :
    ClassifiersAgree score asset target assets ↔
      (asset.algorithmFamily ∈ vulnerableFamilies ∧
        ¬ Mentions pqcMarkers asset.algorithm asset.algorithmFamily) ∨
      (asset.algorithmFamily ∉ exportedFamilies ∧
        (Mentions pqcMarkers asset.algorithm asset.algorithmFamily ∨
          ¬ Mentions quantumVulnerableMarkers asset.algorithm asset.algorithmFamily)) := by
  have hexported : quantumVulnerableProperty asset = "true".toList ↔
      asset.algorithmFamily ∈ exportedFamilies := by
    unfold quantumVulnerableProperty
    by_cases h : asset.algorithmFamily ∈ exportedFamilies
    · rw [if_pos h]
      exact iff_of_true rfl h
    · rw [if_neg h]
      exact iff_of_false (by decide) h
  have hlisted : asset ∈ filterQuantumVulnerable (some true) assets ↔
      asset.algorithmFamily ∈ vulnerableFamilies := by
    unfold filterQuantumVulnerable
    rw [List.mem_filter, and_iff_right hasset, beq_iff_eq, decide_eq_true_eq]
  have hcounted : vulnerableCount (assets ++ [asset]) = vulnerableCount assets + 1 ↔
      asset.algorithmFamily ∈ vulnerableFamilies := by
    rw [vulnerableCount_append]
    by_cases h : asset.algorithmFamily ∈ vulnerableFamilies <;> simp [h]
  have hsub : vulnerableFamilies ⊆ exportedFamilies := by decide
  unfold ClassifiersAgree
  simp only [hexported, hlisted, hcounted, recommendForRiskScore_quantumVulnerable]
  by_cases hfamily : asset.algorithmFamily ∈ vulnerableFamilies
  · have hmarker := mentions_of_mem_vulnerableFamilies asset.algorithm hfamily
    simp only [hfamily, hsub hfamily, hmarker, true_iff, and_true, and_self, true_and,
      not_true_eq_false, false_and, or_false]
  · by_cases hexp : asset.algorithmFamily ∈ exportedFamilies
    · -- the family is DSA: the export calls it vulnerable and the list does not
      simp only [hfamily, hexp, true_iff, false_iff, false_and, not_true_eq_false, or_self,
        iff_false]
      tauto
    · simp only [hfamily, hexp, false_iff, and_self, false_and, false_or, not_false_eq_true,
        true_and]
      tauto

end

/-- An asset of a snapshot with one asset, scored for an unset context. -/
def exampleAsset (name assetType algorithm algorithmFamily : String) : Asset where
  snapshot := some 0
  target := none
  name := name.toList
  assetClass := "crypto".toList
  assetType := assetType.toList
  bomRef := name.toList
  algorithm := algorithm.toList
  algorithmFamily := algorithmFamily.toList
  metadata := .dict []

def exampleScore : RiskScore where
  snapshot := some 0
  asset := 0
  result :=
    { score := 45
      tier := .medium
      factors := ⟨9 / 10, 1 / 2, 1 / 2, 1 / 2, 1 / 2⟩
      weightedFactors := ⟨9 / 10, 1 / 2, 1 / 2, 1 / 2, 1 / 2⟩
      sources := ⟨.heuristic, .heuristic, .heuristic, .heuristic⟩
      raw := 9 / 20
      weightedRaw := 9 / 20
      weights := defaultWeights }
  context := emptyContext

def rsaCertificate : Asset := exampleAsset "www" "certificate" "RSA-2048" "RSA"

theorem rsaCertificate_agrees :
    @ClassifiersAgree asciiText exampleScore rsaCertificate none [rsaCertificate] :=
  letI := asciiText
  (classifiersAgree_iff exampleScore rsaCertificate none [rsaCertificate]
    List.mem_cons_self).mpr (.inl ⟨by decide, by decide⟩)

/-- An Ed25519 key is vulnerable for the migration plan and for no other classifier. -/
theorem ed25519Key_disagrees :
    ¬ @ClassifiersAgree asciiText exampleScore (exampleAsset "id" "ssh_user_key" "Ed25519" "EdDSA")
      none [exampleAsset "id" "ssh_user_key" "Ed25519" "EdDSA"] := by
  decide +kernel

end CryptoScanner.Snapshots
