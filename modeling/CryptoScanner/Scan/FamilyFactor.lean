import CryptoScanner.RiskEngine.AlgorithmWords
import CryptoScanner.Scan.KeyAgreementMapping
import CryptoScanner.Scan.NetworkCandidates

/-!
# How the families of the scanner are scored

`family_from_algorithm` and `algorithm_factor` are two ordered chains of searches.  The factor sees
the family that the scanner derived and the words of the name, so the two agree up to the words of
the name that a later test of the scanner would have seen.
-/

namespace CryptoScanner.Scan

open Library Python RiskEngine

/-! ## 1. The families in classes -/

def pqcFamilies : List String := ["ML-KEM", "ML-DSA", "SLH-DSA"]

def classicalFamilies : List String := ["RSA", "ECDSA", "EdDSA", "ECDH", "DH"]

def symmetricFamilies : List String := ["AES", "ChaCha20", "HMAC"]

/-- The tests for the quantum-vulnerable families; the search for a MAC stands before those for a
key exchange. -/
def SaysClassical (value : List Char) : Prop :=
  SaysEcdsa value ∨ SaysEddsa value ∨ Has "RSA" value ∨
    ¬ Has "HMAC" value ∧ (SaysDh value ∨ SaysEcdh value)

def SaysCipher (value : List Char) : Prop := Has "AES" value ∨ Has "CHACHA" value

instance (value : List Char) : Decidable (SaysPqc value) := inferInstanceAs (Decidable (_ ∨ _ ∨ _))

instance (value : List Char) : Decidable (SaysClassical value) :=
  inferInstanceAs (Decidable ((_ ∨ _ ∨ _ ∨ _ ∨ _) ∨ (_ ∨ _) ∨ _ ∨ _ ∧ ((_ ∨ _ ∨ _ ∨ _) ∨
    (_ ∨ _ ∨ _ ∨ _ ∨ _ ∨ _))))

instance (value : List Char) : Decidable (SaysCipher value) := inferInstanceAs (Decidable (_ ∨ _))

/-- The derived family, by the test that gave it. -/
inductive FamilyClass (value : List Char) : List Char → Prop
  | pqc (family : String) (hfamily : family ∈ pqcFamilies) (h : SaysPqc value) :
      FamilyClass value family.toList
  | classical (family : String) (hfamily : family ∈ classicalFamilies) (hpqc : ¬ SaysPqc value)
      (h : SaysClassical value) : FamilyClass value family.toList
  | hmac (hpqc : ¬ SaysPqc value) (hclassical : ¬ SaysClassical value) (h : Has "HMAC" value) :
      FamilyClass value "HMAC".toList
  | aes (hpqc : ¬ SaysPqc value) (hclassical : ¬ SaysClassical value) (hhmac : ¬ Has "HMAC" value)
      (h : Has "AES" value) : FamilyClass value "AES".toList
  | chacha (hpqc : ¬ SaysPqc value) (hclassical : ¬ SaysClassical value)
      (hhmac : ¬ Has "HMAC" value) (haes : ¬ Has "AES" value) (h : Has "CHACHA" value) :
      FamilyClass value "ChaCha20".toList
  | unrecognised (hpqc : ¬ SaysPqc value) (hclassical : ¬ SaysClassical value)
      (hhmac : ¬ Has "HMAC" value) (h : ¬ SaysCipher value) : FamilyClass value []

theorem familyFromAlgorithm_class [PyText] (algorithm : List Char) :
    FamilyClass (upper algorithm) (familyFromAlgorithm algorithm) := by
  unfold familyFromAlgorithm
  simp only
  generalize upper algorithm = value
  by_cases h₁ : Has "ML-KEM" value ∨ Has "MLKEM" value
  · rw [if_pos h₁]
    exact .pqc "ML-KEM" (by decide) (.inl h₁)
  by_cases h₂ : Has "ML-DSA" value ∨ Has "MLDSA" value
  · rw [if_neg h₁, if_pos h₂]
    exact .pqc "ML-DSA" (by decide) (.inr (.inl h₂))
  by_cases h₃ : Has "SLH-DSA" value
  · rw [if_neg h₁, if_neg h₂, if_pos h₃]
    exact .pqc "SLH-DSA" (by decide) (.inr (.inr h₃))
  have hpqc : ¬ SaysPqc value := not_or.mpr ⟨h₁, not_or.mpr ⟨h₂, h₃⟩⟩
  rw [if_neg h₁, if_neg h₂, if_neg h₃]
  by_cases h₄ : Has "ECDSA" value ∨ Has "P-256" value ∨ Has "P-384" value ∨ Has "P-521" value ∨
      Has "SECP" value
  · rw [if_pos h₄]
    exact .classical "ECDSA" (by decide) hpqc (.inl h₄)
  by_cases h₅ : Has "ED25519" value ∨ Has "ED448" value
  · rw [if_neg h₄, if_pos h₅]
    exact .classical "EdDSA" (by decide) hpqc (.inr (.inl h₅))
  by_cases h₆ : Has "RSA" value
  · rw [if_neg h₄, if_neg h₅, if_pos h₆]
    exact .classical "RSA" (by decide) hpqc (.inr (.inr (.inl h₆)))
  rw [if_neg h₄, if_neg h₅, if_neg h₆]
  by_cases h₇ : Has "HMAC" value
  · have hclassical : ¬ SaysClassical value := by
      rintro (h | h | h | h)
      · exact h₄ h
      · exact h₅ h
      · exact h₆ h
      · exact h.1 h₇
    -- found before the key exchanges are looked for
    rw [if_pos h₇]
    exact .hmac hpqc hclassical h₇
  by_cases h₈ : Has "MODP" value ∨ Has "GROUP14" value ∨ Has "DIFFIE-HELLMAN" value ∨
      value = "DH".toList
  · rw [if_neg h₇, if_pos h₈]
    exact .classical "DH" (by decide) hpqc (.inr (.inr (.inr ⟨h₇, .inl h₈⟩)))
  by_cases h₉ : Has "ECDH" value ∨ Has "X25519" value ∨ Has "X448" value ∨
      Has "CURVE25519" value ∨ Has "CURVE448" value ∨ Has "ECP-" value
  · rw [if_neg h₇, if_neg h₈, if_pos h₉]
    exact .classical "ECDH" (by decide) hpqc (.inr (.inr (.inr ⟨h₇, .inr h₉⟩)))
  rw [if_neg h₇, if_neg h₈, if_neg h₉]
  have hclassical : ¬ SaysClassical value := by
    rintro (h | h | h | h)
    · exact h₄ h
    · exact h₅ h
    · exact h₆ h
    · exact h.2.elim h₈ h₉
  by_cases haes : Has "AES" value
  · rw [if_pos haes]
    exact .aes hpqc hclassical h₇ haes
  by_cases hchacha : Has "CHACHA" value
  · rw [if_neg haes, if_pos hchacha]
    exact .chacha hpqc hclassical h₇ haes hchacha
  · rw [if_neg haes, if_neg hchacha]
    exact .unrecognised hpqc hclassical h₇ (not_or.mpr ⟨haes, hchacha⟩)

/-! ## 2. What the factor sees of a derived family -/

theorem pqcFamilies_words : ∀ family ∈ pqcFamilies,
    HasAny transitionWords (family.toList.map Char.toUpper) := by
  decide +kernel

theorem classicalFamilies_words : ∀ family ∈ classicalFamilies,
    ¬ HasAny transitionWords (family.toList.map Char.toUpper) ∧
      HasAny classicalWords (family.toList.map Char.toUpper) := by
  decide +kernel

/-- The name of the AES family says nothing to the factor, those of the others say enough. -/
theorem symmetricFamilies_words : ∀ family ∈ symmetricFamilies,
    ¬ HasAny transitionWords (family.toList.map Char.toUpper) ∧
      ¬ HasAny classicalWords (family.toList.map Char.toUpper) ∧
      ¬ HasAny sha1Words (family.toList.map Char.toUpper) ∧
      (HasAny symmetricWords (family.toList.map Char.toUpper) ↔ family ≠ "AES") := by
  decide +kernel

section

variable [PyText]

theorem namesAny_family {family : String}
    (hfamily : family ∈ pqcFamilies ++ classicalFamilies ++ symmetricFamilies)
    {algorithm : List Char} {list : List String} :
    NamesAny algorithm family.toList list ↔ HasAny list (family.toList.map Char.toUpper) ∨
      HasAny list (normalizeAlgorithmText algorithm) := by
  have hascii : ∀ family ∈ pqcFamilies ++ classicalFamilies ++ symmetricFamilies,
      ∀ c ∈ family.toList, isAscii c = true ∧ isAsciiSpace c = false := by
    decide
  rw [namesAny_iff, normalizeAlgorithmText_ascii (hascii family hfamily)]

section

variable {algorithm : List Char}

theorem pqcFamily_le {family : String} (hfamily : family ∈ pqcFamilies) (assetType : List Char) :
    algorithmFactor algorithm family.toList assetType ≤ 1 / 10 := by
  have hmem : family ∈ pqcFamilies ++ classicalFamilies ++ symmetricFamilies :=
    List.mem_append_left _ (List.mem_append_left _ hfamily)
  rw [algorithmFactor_le_iff, namesAny_family hmem]
  exact .inl (.inl (pqcFamilies_words family hfamily))

theorem le_classicalFamily_iff {family : String} (hfamily : family ∈ classicalFamilies)
    (assetType : List Char) :
    17 / 20 ≤ algorithmFactor algorithm family.toList assetType ↔
      ¬ HasAny transitionWords (normalizeAlgorithmText algorithm) := by
  have hmem : family ∈ pqcFamilies ++ classicalFamilies ++ symmetricFamilies :=
    List.mem_append_left _ (List.mem_append_right _ hfamily)
  have hwords := classicalFamilies_words family hfamily
  rw [le_algorithmFactor_iff, namesAny_family hmem, namesAny_family hmem, or_iff_right hwords.1]
  exact and_iff_left (.inl (.inl hwords.2))

theorem symmetricFamily_le_iff {family : String} (hfamily : family ∈ symmetricFamilies)
    (assetType : List Char) :
    algorithmFactor algorithm family.toList assetType ≤ 1 / 10 ↔
      HasAny transitionWords (normalizeAlgorithmText algorithm) ∨
        ¬ HasAny classicalWords (normalizeAlgorithmText algorithm) ∧
          ¬ HasAny sha1Words (normalizeAlgorithmText algorithm) ∧
            (family = "AES" → HasAny symmetricWords (normalizeAlgorithmText algorithm)) := by
  have hmem : family ∈ pqcFamilies ++ classicalFamilies ++ symmetricFamilies :=
    List.mem_append_right _ hfamily
  obtain ⟨htransition, hclassical, hsha1, hsymmetric⟩ := symmetricFamilies_words family hfamily
  rw [algorithmFactor_le_iff, namesAny_family hmem, namesAny_family hmem, namesAny_family hmem,
    namesAny_family hmem, or_iff_right htransition, or_iff_right hclassical, or_iff_right hsha1,
    hsymmetric, ← imp_iff_not_or]

end

/-! ## 3. Which names are scored as their family -/

/-- The factor of a name with its family is that of the family's class. -/
structure ScoredAs (algorithm algorithmFamily assetType : List Char) : Prop where
  safe : algorithmFamily ∈ (symmetricFamilies ++ pqcFamilies).map String.toList →
    algorithmFactor algorithm algorithmFamily assetType ≤ 1 / 10
  vulnerable : algorithmFamily ∈ classicalFamilies.map String.toList →
    17 / 20 ≤ algorithmFactor algorithm algorithmFamily assetType
  recognised : algorithmFamily ≠ [] → algorithmFactor algorithm algorithmFamily assetType ≠ 1 / 2

section

variable {algorithm assetType : List Char} {family : String}

theorem scoredAs_safe (hfamily : family ∈ symmetricFamilies ++ pqcFamilies) :
    ScoredAs algorithm family.toList assetType ↔
      algorithmFactor algorithm family.toList assetType ≤ 1 / 10 := by
  have hclassical : ∀ family ∈ symmetricFamilies ++ pqcFamilies,
      family.toList ∉ classicalFamilies.map String.toList := by
    decide
  constructor
  · intro h
    exact h.safe (List.mem_map_of_mem hfamily)
  · intro h
    exact
      { safe := fun _ => h
        vulnerable := fun hmem => absurd hmem (hclassical family hfamily)
        recognised := fun _ heq => by
          rw [heq] at h
          norm_num at h }

theorem scoredAs_vulnerable (hfamily : family ∈ classicalFamilies) :
    ScoredAs algorithm family.toList assetType ↔
      17 / 20 ≤ algorithmFactor algorithm family.toList assetType := by
  have hsafe : ∀ family ∈ classicalFamilies,
      family.toList ∉ (symmetricFamilies ++ pqcFamilies).map String.toList := by
    decide
  constructor
  · intro h
    exact h.vulnerable (List.mem_map_of_mem hfamily)
  · intro h
    exact
      { safe := fun hmem => absurd hmem (hsafe family hfamily)
        vulnerable := fun _ => h
        recognised := fun _ heq => by
          rw [heq] at h
          norm_num at h }

theorem scoredAs_symmetric (hfamily : family ∈ symmetricFamilies) :
    ScoredAs algorithm family.toList assetType ↔
      HasAny transitionWords (normalizeAlgorithmText algorithm) ∨
        ¬ HasAny classicalWords (normalizeAlgorithmText algorithm) ∧
          ¬ HasAny sha1Words (normalizeAlgorithmText algorithm) ∧
            (family = "AES" → HasAny symmetricWords (normalizeAlgorithmText algorithm)) := by
  rw [scoredAs_safe (List.mem_append_left _ hfamily), symmetricFamily_le_iff hfamily]

end

/-- No word of the name stands against its family: no hybrid or post-quantum word in a classical
name, and in a symmetric one no classical word, no SHA-1, and for AES a word that the factor reads. -/
def NamedAsFamily (algorithm : List Char) : Prop :=
  let value := upper algorithm
  let name := normalizeAlgorithmText algorithm
  ¬ SaysPqc value →
    (SaysClassical value → ¬ HasAny transitionWords name) ∧
    (¬ SaysClassical value → Has "HMAC" value ∨ SaysCipher value →
      HasAny transitionWords name ∨ ¬ HasAny classicalWords name ∧ ¬ HasAny sha1Words name ∧
        (Has "AES" value → ¬ Has "HMAC" value → HasAny symmetricWords name))

theorem scoredAs_familyFromAlgorithm_iff (algorithm assetType : List Char) :
    ScoredAs algorithm (familyFromAlgorithm algorithm) assetType ↔ NamedAsFamily algorithm := by
  have hclass := familyFromAlgorithm_class algorithm
  unfold NamedAsFamily
  simp only
  generalize familyFromAlgorithm algorithm = algorithmFamily at hclass ⊢
  cases hclass with
  -- the family alone settles it
  | pqc family hfamily h =>
      have hle : algorithmFactor algorithm family.toList assetType ≤ 1 / 10 :=
        pqcFamily_le hfamily assetType
      rw [scoredAs_safe (List.mem_append_right _ hfamily)]
      exact iff_of_true hle fun hpqc => absurd h hpqc
  -- the family has a classical word, so only a word of a hybrid in the name stands against it
  | classical family hfamily hpqc h =>
      rw [scoredAs_vulnerable hfamily, le_classicalFamily_iff hfamily]
      simp only [hpqc, h, not_false_eq_true, forall_const, not_true_eq_false, false_implies,
        and_true]
  | hmac hpqc hclassical h =>
      have hne : "HMAC" ≠ "AES" := by decide
      rw [scoredAs_symmetric (by decide)]
      simp only [hpqc, hclassical, h, hne, not_false_eq_true, forall_const, not_true_eq_false,
        false_implies, true_or, and_true, true_and, implies_true]
  -- `AES` is no word of the factor, which asks for a key length
  | aes hpqc hclassical hhmac h =>
      have hcipher : SaysCipher (upper algorithm) := .inl h
      rw [scoredAs_symmetric (by decide)]
      simp only [hpqc, hclassical, hhmac, h, hcipher, not_false_eq_true, forall_const,
        false_implies, or_true, true_and]
  | chacha hpqc hclassical hhmac haes h =>
      have hcipher : SaysCipher (upper algorithm) := .inr h
      have hne : "ChaCha20" ≠ "AES" := by decide
      rw [scoredAs_symmetric (by decide)]
      simp only [hpqc, hclassical, hhmac, haes, hcipher, hne, not_false_eq_true, forall_const,
        false_implies, or_true, true_and, and_true]
  | unrecognised hpqc hclassical hhmac h =>
      have hscored : ScoredAs algorithm [] assetType :=
        { safe := fun hmem => absurd hmem (by decide)
          vulnerable := fun hmem => absurd hmem (by decide)
          recognised := fun hne => absurd rfl hne }
      have hneither : ¬ (Has "HMAC" (upper algorithm) ∨ SaysCipher (upper algorithm)) :=
        not_or.mpr ⟨hhmac, h⟩
      simp only [hscored, hclassical, hneither, false_implies, implies_true, and_self]

end

def tls13Handshake : TlsProbeResult where
  sni := some "web.testbed.local"
  tlsVersion := some "TLSv1.3"
  cipherSuite := some "TLS_AES_256_GCM_SHA384"
  supportedCipherSuites := ["TLS_AES_256_GCM_SHA384"]

/-- AES with 256 bits is an AES cipher of unknown strength when its suite writes no hyphen. -/
theorem aes256_suite_unknown : letI := asciiText
    letI := constantDigest
    ¬ ∀ (target : Target) (cipherSuite : String),
      ScoredAs (tlsCipherCandidate 1 target tls13Handshake cipherSuite).algorithm
        (tlsCipherCandidate 1 target tls13Handshake cipherSuite).algorithmFamily [] := by
  let := asciiText
  let := constantDigest
  intro h
  let webServer := { ikeGateway with host := "web.testbed.local", port := 443, transport := .tcp }
  have hcandidate : ∀ cipherSuite : String,
      ScoredAs cipherSuite.toList (familyFromAlgorithm cipherSuite.toList) [] :=
    h { webServer with protocolHint := .tls }
  have hscored := hcandidate "TLS_AES_256_GCM_SHA384"
  have hfamily : familyFromAlgorithm "TLS_AES_256_GCM_SHA384".toList = "AES".toList := by
    decide +kernel
  rw [hfamily, scoredAs_symmetric (by decide)] at hscored
  exact absurd hscored (by decide +kernel)

end CryptoScanner.Scan
