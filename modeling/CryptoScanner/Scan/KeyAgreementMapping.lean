import CryptoScanner.Scan.KeyAgreement

/-!
# Which key agreements are mapped to key encapsulation

The rules search the derived family and the name as one text.  Every pattern is a word without a
blank, so the search splits into one of the family and one of the name, and the family only repeats
what the name says.
-/

namespace CryptoScanner.Scan

open Library Python MigrationEngine

/-! ## 1. Words in family and name -/

/-- The families of `family_from_algorithm`, normalized. -/
def families : List String :=
  ["ML-KEM", "ML-DSA", "SLH-DSA", "ECDSA", "EDDSA", "RSA", "HMAC", "DH", "ECDH", "AES", "CHACHA20",
    ""]

/-- The words of the patterns and of `family_from_algorithm`. -/
def words : List String :=
  pqcMarkers ++ keyExchangeWords ++ ["MLKEM", "MLDSA", "SHA-1", "SHA1", "AES-128", "SHA-256",
    "SHA-384", "SHA-512", "SHA2", "AES-192", "AES-256", "CHACHA20", "HMAC", "ECDSA", "P-256",
    "P-384", "P-521", "SECP", "ED25519", "ED448", "EDDSA", "ECDH", "X448", "CURVE448", "SECP256R1",
    "ECP-", "RSA", "GROUP14", "AES", "CHACHA"]

theorem words_wellFormed : ∀ word ∈ words, word.toList ≠ [] ∧
    ∀ c ∈ word.toList, isAscii c = true ∧ isAsciiSpace c = false := by
  decide +kernel

section

variable [PyText]

theorem isSpace_word {word : String} (h : word ∈ words) :
    ∀ c ∈ word.toList, PyText.isSpace c = false := by
  intro c hc
  have hascii := (words_wellFormed word h).2 c hc
  rw [PyText.isSpace_ascii c hascii.1, hascii.2]

/-- A word is in the text of the rules exactly if it is in the family or in the name. -/
theorem has_ruleText {word : String} (h : word ∈ words) {algorithm algorithmFamily : List Char} :
    Has word (strip (combinedText algorithmFamily algorithm)) ↔
      Has word (normalize algorithmFamily) ∨ Has word (normalize algorithm) := by
  have hform := words_wellFormed word h
  have hblank : ' ' ∉ word.toList := fun hc => absurd (hform.2 ' ' hc).2 (by decide)
  rw [has_strip hform.1 (isSpace_word h), has_combinedText hblank hform.1]

/-- `family_from_algorithm` sees the words of the normalized name. -/
theorem has_upper {word : String} (h : word ∈ words) {algorithm : List Char} :
    Has word (upper algorithm) ↔ Has word (normalize algorithm) :=
  (has_strip (words_wellFormed word h).1 (isSpace_word h)).symm

/-- `DH` is a whole word of the text of the rules exactly if it is one of the family or the name. -/
theorem namesDh_ruleText {algorithm algorithmFamily : List Char} :
    NamesDh (strip (combinedText algorithmFamily algorithm)) ↔
      NamesDh (normalize algorithmFamily) ∨ NamesDh (normalize algorithm) := by
  have hword : ∀ c ∈ "DH".toList, textClasses.isWord c = true := by
    have hascii : ∀ c ∈ "DH".toList, isAscii c = true ∧ isAsciiWord c = true := by decide
    intro c hc
    exact (PyText.isWord_ascii c (hascii c hc).1).trans (hascii c hc).2
  have hne : "DH".toList ≠ [] := by decide
  have hspace : ∀ c, PyText.isSpace c = true → textClasses.isWord c = false :=
    PyText.isWord_of_isSpace
  have hblank : textClasses.isWord ' ' = false := PyText.isWord_ascii ' ' rfl
  unfold NamesDh strip rstrip lstrip
  rw [Regex.search_whole_rdropWhile hword hne hspace, Regex.search_whole_dropWhile hword hne hspace]
  exact Regex.search_whole_append_sep hword hne hblank

def asciiClasses : CharClasses Char := ⟨isAsciiWord, fun c => c == '\n'⟩

theorem namesDh_family : ∀ family ∈ families, NamesDh family.toList ↔ family = "DH" := by
  have hdecide : ∀ family ∈ families, (∀ c ∈ family.toList, isAscii c = true) ∧
      ((Regex.whole (.text "DH".toList)).Search asciiClasses family.toList ↔ family = "DH") := by
    decide +kernel
  intro family hfamily
  rw [← (hdecide family hfamily).2]
  apply Regex.search_congr
  intro c hc
  exact ⟨PyText.isWord_ascii c ((hdecide family hfamily).1 c hc), rfl⟩

/-! ## 2. What the derived family says of the name -/

section

omit [PyText]

/-- The tests of `family_from_algorithm` for the post-quantum families. -/
def SaysPqc (value : List Char) : Prop :=
  (Has "ML-KEM" value ∨ Has "MLKEM" value) ∨ (Has "ML-DSA" value ∨ Has "MLDSA" value) ∨
    Has "SLH-DSA" value

def SaysEcdsa (value : List Char) : Prop :=
  Has "ECDSA" value ∨ Has "P-256" value ∨ Has "P-384" value ∨ Has "P-521" value ∨ Has "SECP" value

def SaysEddsa (value : List Char) : Prop := Has "ED25519" value ∨ Has "ED448" value

def SaysDh (value : List Char) : Prop :=
  Has "MODP" value ∨ Has "GROUP14" value ∨ Has "DIFFIE-HELLMAN" value ∨ value = "DH".toList

def SaysEcdh (value : List Char) : Prop :=
  Has "ECDH" value ∨ Has "X25519" value ∨ Has "X448" value ∨ Has "CURVE25519" value ∨
    Has "CURVE448" value ∨ Has "ECP-" value

/-- What a derived family tells about the name, as far as the rules do not see it in the name. -/
structure Derived (value : List Char) (family : String) : Prop where
  pqc : family ∈ ["ML-KEM", "ML-DSA", "SLH-DSA"] ↔ SaysPqc value
  ecdsa : family = "ECDSA" ↔ ¬ SaysPqc value ∧ SaysEcdsa value
  eddsa : family = "EDDSA" → SaysEddsa value
  rsa : family = "RSA" → Has "RSA" value
  hmac : family = "HMAC" → Has "HMAC" value
  dh : family = "DH" → SaysDh value
  ecdh : family = "ECDH" → SaysEcdh value
  other : family ∈ ["AES", "CHACHA20", ""] → ¬ Has "RSA" value ∧ ¬ SaysEcdh value

variable {value : List Char}

theorem derived_pqc (h : SaysPqc value) :
    ∀ family ∈ ["ML-KEM", "ML-DSA", "SLH-DSA"], Derived value family := by
  intro family hfamily
  have hother : family ∉ ["ECDSA", "EDDSA", "RSA", "HMAC", "DH", "ECDH", "AES", "CHACHA20", ""] := by
    revert family
    decide
  constructor <;> simp_all

theorem derived_ecdsa (hpqc : ¬ SaysPqc value) (h : SaysEcdsa value) : Derived value "ECDSA" := by
  constructor <;> simp_all

theorem derived_later (hpqc : ¬ SaysPqc value) (hecdsa : ¬ SaysEcdsa value) :
    (SaysEddsa value → Derived value "EDDSA") ∧ (Has "RSA" value → Derived value "RSA") ∧
    (Has "HMAC" value → Derived value "HMAC") ∧ (SaysDh value → Derived value "DH") ∧
    (SaysEcdh value → Derived value "ECDH") := by
  refine ⟨fun h => ?_, fun h => ?_, fun h => ?_, fun h => ?_, fun h => ?_⟩
  all_goals constructor <;> simp_all

theorem derived_other (hpqc : ¬ SaysPqc value) (hecdsa : ¬ SaysEcdsa value)
    (hrsa : ¬ Has "RSA" value) (hecdh : ¬ SaysEcdh value) :
    ∀ family ∈ ["AES", "CHACHA20", ""], Derived value family := by
  intro family hfamily
  have hother : family ∉ ["ML-KEM", "ML-DSA", "SLH-DSA", "ECDSA", "EDDSA", "RSA", "HMAC", "DH",
      "ECDH"] := by
    revert family
    decide
  constructor <;> simp_all

end

/-- The tests in their order, with what a later case knows of the earlier tests. -/
theorem familyFromAlgorithm_cases {algorithm : List Char} {p : List Char → Prop}
    (pqc : SaysPqc (upper algorithm) →
      ∀ family ∈ ["ML-KEM", "ML-DSA", "SLH-DSA"], p family.toList)
    (ecdsa : ¬ SaysPqc (upper algorithm) → SaysEcdsa (upper algorithm) → p "ECDSA".toList)
    (later : ¬ SaysPqc (upper algorithm) → ¬ SaysEcdsa (upper algorithm) →
      (SaysEddsa (upper algorithm) → p "EdDSA".toList) ∧
      (Has "RSA" (upper algorithm) → p "RSA".toList) ∧
      (Has "HMAC" (upper algorithm) → p "HMAC".toList) ∧
      (SaysDh (upper algorithm) → p "DH".toList) ∧
      (SaysEcdh (upper algorithm) → p "ECDH".toList) ∧
      (¬ Has "RSA" (upper algorithm) → ¬ SaysEcdh (upper algorithm) →
        p "AES".toList ∧ p "ChaCha20".toList ∧ p [])) :
    p (familyFromAlgorithm algorithm) := by
  unfold familyFromAlgorithm
  simp only
  generalize upper algorithm = value at *
  by_cases h₁ : Has "ML-KEM" value ∨ Has "MLKEM" value
  · rw [if_pos h₁]
    exact pqc (.inl h₁) "ML-KEM" (by decide)
  by_cases h₂ : Has "ML-DSA" value ∨ Has "MLDSA" value
  · rw [if_neg h₁, if_pos h₂]
    exact pqc (.inr (.inl h₂)) "ML-DSA" (by decide)
  by_cases h₃ : Has "SLH-DSA" value
  · rw [if_neg h₁, if_neg h₂, if_pos h₃]
    exact pqc (.inr (.inr h₃)) "SLH-DSA" (by decide)
  have hpqc : ¬ SaysPqc value := not_or.mpr ⟨h₁, not_or.mpr ⟨h₂, h₃⟩⟩
  rw [if_neg h₁, if_neg h₂, if_neg h₃]
  by_cases h₄ : Has "ECDSA" value ∨ Has "P-256" value ∨ Has "P-384" value ∨ Has "P-521" value ∨
      Has "SECP" value
  · rw [if_pos h₄]
    exact ecdsa hpqc h₄
  -- of the tests below only the last case needs to know that others failed
  obtain ⟨eddsa, rsa, hmac, dh, ecdh, other⟩ := later hpqc h₄
  rw [if_neg h₄]
  by_cases h₅ : Has "ED25519" value ∨ Has "ED448" value
  · rw [if_pos h₅]
    exact eddsa h₅
  by_cases h₆ : Has "RSA" value
  · rw [if_neg h₅, if_pos h₆]
    exact rsa h₆
  by_cases h₇ : Has "HMAC" value
  · rw [if_neg h₅, if_neg h₆, if_pos h₇]
    exact hmac h₇
  rw [if_neg h₅, if_neg h₆, if_neg h₇]
  by_cases h₈ : Has "MODP" value ∨ Has "GROUP14" value ∨ Has "DIFFIE-HELLMAN" value ∨
      value = "DH".toList
  · rw [if_pos h₈]
    exact dh h₈
  by_cases h₉ : Has "ECDH" value ∨ Has "X25519" value ∨ Has "X448" value ∨
      Has "CURVE25519" value ∨ Has "CURVE448" value ∨ Has "ECP-" value
  · rw [if_neg h₈, if_pos h₉]
    exact ecdh h₉
  obtain ⟨aes, chacha, none⟩ := other h₆ h₉
  rw [if_neg h₈, if_neg h₉]
  by_cases h₁₀ : Has "AES" value
  · rw [if_pos h₁₀]
    exact aes
  by_cases h₁₁ : Has "CHACHA" value
  · rw [if_neg h₁₀, if_pos h₁₁]
    exact chacha
  · rw [if_neg h₁₀, if_neg h₁₁]
    exact none

/-- A family as `family_from_algorithm` writes it, and normalized. -/
def familyNames : List (String × String) :=
  [("ML-KEM", "ML-KEM"), ("ML-DSA", "ML-DSA"), ("SLH-DSA", "SLH-DSA"), ("ECDSA", "ECDSA"),
    ("EdDSA", "EDDSA"), ("RSA", "RSA"), ("HMAC", "HMAC"), ("DH", "DH"), ("ECDH", "ECDH"),
    ("AES", "AES"), ("ChaCha20", "CHACHA20"), ("", "")]

theorem normalize_familyName : ∀ pair ∈ familyNames,
    normalize pair.1.toList = pair.2.toList ∧ pair.2 ∈ families := by
  have hascii : ∀ pair ∈ familyNames, (∀ c ∈ pair.1.toList, isAscii c = true) ∧
      (∀ c ∈ pair.1.toList.map Char.toUpper, isAscii c = true ∧ isAsciiSpace c = false) ∧
      pair.1.toList.map Char.toUpper = pair.2.toList ∧ pair.2 ∈ families := by
    decide +kernel
  intro pair hpair
  obtain ⟨htext, hupper, heq, hmem⟩ := hascii pair hpair
  exact ⟨(strip_upper_ascii htext hupper).trans heq, hmem⟩

/-- The derived family, normalized, and what it tells about the name. -/
theorem familyFromAlgorithm_derived (algorithm : List Char) : ∃ family ∈ families,
    normalize (familyFromAlgorithm algorithm) = family.toList ∧
      Derived (upper algorithm) family := by
  have hnamed : ∀ text family : String, (text, family) ∈ familyNames →
      Derived (upper algorithm) family → ∃ family ∈ families,
        normalize text.toList = family.toList ∧ Derived (upper algorithm) family := by
    intro text family hpair hderived
    have hname := normalize_familyName (text, family) hpair
    exact ⟨family, hname.2, hname.1, hderived⟩
  apply familyFromAlgorithm_cases (p := fun text => ∃ family ∈ families,
    normalize text = family.toList ∧ Derived (upper algorithm) family)
  · intro hpqc family hfamily
    have hpair : (family, family) ∈ familyNames := by
      revert family
      decide
    exact hnamed family family hpair (derived_pqc hpqc family hfamily)
  · intro hpqc hecdsa
    exact hnamed "ECDSA" "ECDSA" (by decide) (derived_ecdsa hpqc hecdsa)
  · intro hpqc hecdsa
    obtain ⟨eddsa, rsa, hmac, dh, ecdh⟩ := derived_later hpqc hecdsa
    refine ⟨fun h => hnamed "EdDSA" "EDDSA" (by decide) (eddsa h),
      fun h => hnamed "RSA" "RSA" (by decide) (rsa h),
      fun h => hnamed "HMAC" "HMAC" (by decide) (hmac h),
      fun h => hnamed "DH" "DH" (by decide) (dh h),
      fun h => hnamed "ECDH" "ECDH" (by decide) (ecdh h), fun hrsa hecdh => ?_⟩
    have hother := derived_other hpqc hecdsa hrsa hecdh
    exact ⟨hnamed "AES" "AES" (by decide) (hother "AES" (by decide)),
      hnamed "ChaCha20" "CHACHA20" (by decide) (hother "CHACHA20" (by decide)),
      hnamed "" "" (by decide) (hother "" (by decide))⟩

/-! ## 3. What the rules find in family and name -/

structure FamilyWords (family : String) : Prop where
  pqc : (∃ marker ∈ pqcMarkers, Has marker family.toList) ↔
    family ∈ ["ML-KEM", "ML-DSA", "SLH-DSA"]
  keyExchange : ¬ ∃ word ∈ keyExchangeWords, Has word family.toList
  sha1 : ¬ NamesSha1 family.toList
  aes128 : ¬ Has "AES-128" family.toList
  safeClassical : NamesSafeClassical family.toList ↔ family = "HMAC" ∨ family = "CHACHA20"
  ecdsa : Has "ECDSA" family.toList ↔ family = "ECDSA"
  eddsa : Has "ED25519" family.toList ∨ Has "ED448" family.toList ∨ Has "EDDSA" family.toList ↔
    family = "EDDSA"
  ecdh : NamesEcdh family.toList ↔ family = "ECDH"
  rsa : Has "RSA" family.toList ↔ family = "RSA"

omit [PyText] in
theorem familyWords : ∀ family ∈ families, FamilyWords family := by
  intro family hfamily
  constructor
  all_goals
    revert family
    decide +kernel

/-- The text that the rules search for a name with its derived family. -/
def ruleText (algorithm : List Char) : List Char :=
  strip (combinedText (familyFromAlgorithm algorithm) algorithm)

section

variable {algorithm : List Char} {family : String} (hfamily : family ∈ families)
  (hnormal : normalize (familyFromAlgorithm algorithm) = family.toList)

include hnormal in
theorem has_ruleText_family {word : String} (hword : word ∈ words) :
    Has word (ruleText algorithm) ↔ Has word family.toList ∨ Has word (normalize algorithm) := by
  rw [ruleText, has_ruleText hword, hnormal]

include hnormal in
theorem exists_has_ruleText {list : List String} (hlist : list ⊆ words) :
    (∃ word ∈ list, Has word (ruleText algorithm)) ↔
      (∃ word ∈ list, Has word family.toList) ∨ ∃ word ∈ list, Has word (normalize algorithm) := by
  rw [← exists_or]
  apply exists_congr
  intro word
  rw [← and_or_left]
  exact and_congr_right fun hword => has_ruleText_family hnormal (hlist hword)

include hfamily hnormal

theorem pqc_ruleText : (∃ marker ∈ pqcMarkers, Has marker (ruleText algorithm)) ↔
    family ∈ ["ML-KEM", "ML-DSA", "SLH-DSA"] ∨
      ∃ marker ∈ pqcMarkers, Has marker (normalize algorithm) := by
  rw [exists_has_ruleText hnormal (by decide), (familyWords family hfamily).pqc]

theorem namesKeyExchange_ruleText : NamesKeyExchange (ruleText algorithm) ↔
    family = "DH" ∨ NamesKeyExchange (normalize algorithm) := by
  unfold NamesKeyExchange
  rw [exists_has_ruleText hnormal (by decide),
    or_iff_right (familyWords family hfamily).keyExchange, ruleText, namesDh_ruleText, hnormal,
    namesDh_family family hfamily, or_assoc]

theorem namesSha1_ruleText : NamesSha1 (ruleText algorithm) ↔ NamesSha1 (normalize algorithm) := by
  have hsha1 := (familyWords family hfamily).sha1
  unfold NamesSha1 at hsha1 ⊢
  rw [has_ruleText_family hnormal (by decide), has_ruleText_family hnormal (by decide)]
  grind

theorem aes128_ruleText :
    Has "AES-128" (ruleText algorithm) ↔ Has "AES-128" (normalize algorithm) := by
  rw [has_ruleText_family hnormal (by decide), or_iff_right (familyWords family hfamily).aes128]

theorem namesSafeClassical_ruleText : NamesSafeClassical (ruleText algorithm) ↔
    (family = "HMAC" ∨ family = "CHACHA20") ∨ NamesSafeClassical (normalize algorithm) := by
  rw [← (familyWords family hfamily).safeClassical]
  exact exists_has_ruleText hnormal (by decide)

theorem ecdsa_ruleText : Has "ECDSA" (ruleText algorithm) ↔
    family = "ECDSA" ∨ Has "ECDSA" (normalize algorithm) := by
  rw [has_ruleText_family hnormal (by decide), (familyWords family hfamily).ecdsa]

theorem eddsa_ruleText :
    (Has "ED25519" (ruleText algorithm) ∨ Has "ED448" (ruleText algorithm) ∨
      Has "EDDSA" (ruleText algorithm)) ↔
    family = "EDDSA" ∨ Has "ED25519" (normalize algorithm) ∨ Has "ED448" (normalize algorithm) ∨
      Has "EDDSA" (normalize algorithm) := by
  rw [← (familyWords family hfamily).eddsa, has_ruleText_family hnormal (by decide),
    has_ruleText_family hnormal (by decide), has_ruleText_family hnormal (by decide)]
  grind

theorem namesEcdh_ruleText :
    NamesEcdh (ruleText algorithm) ↔ family = "ECDH" ∨ NamesEcdh (normalize algorithm) := by
  rw [← (familyWords family hfamily).ecdh]
  exact exists_has_ruleText hnormal (by decide)

theorem rsa_ruleText :
    Has "RSA" (ruleText algorithm) ↔ family = "RSA" ∨ Has "RSA" (normalize algorithm) := by
  rw [has_ruleText_family hnormal (by decide), (familyWords family hfamily).rsa]

end

/-! ## 4. The mapping of a key agreement -/

section

omit [PyText]

/-- The candidate is post-quantum already, or a key encapsulation that ML-KEM replaces. -/
def MappedToKem (candidate : Candidate) : Prop :=
  (candidate.kind = .kem ∨ candidate.kind = .pqc) ∧
    (candidate.kind = .kem → candidate.replaceSet ≠ [] ∧
      ∀ name ∈ candidate.replaceSet, "ML-KEM-".toList <+: name)

instance (candidate : Candidate) : Decidable (MappedToKem candidate) :=
  inferInstanceAs (Decidable (_ ∧ _))

/-- Every rule of kind `kem` replaces by an ML-KEM algorithm. -/
theorem kem_replaceSet : ∀ rule ∈ mappingRules, rule.kind = .kem → rule.preserveCurrent = false ∧
    (rule.replaceSet = [.name "ML-KEM-768"] ∨ rule.replaceSet = [.name "ML-KEM-1024"]) := by
  decide

/-- The rule maps to a key encapsulation or finds a post-quantum name. -/
def mapsToKem (rule : Rule) : Bool := rule.kind = .kem ∨ rule.kind = .pqc

end

theorem mappedToKem_iff_firstRule {algorithm algorithmFamily assetType : List Char} :
    MappedToKem (candidateForAlgorithm algorithm algorithmFamily assetType) ↔
      (firstRule (strip (combinedText algorithmFamily algorithm)) assetType).any mapsToKem =
        true := by
  unfold candidateForAlgorithm firstRule
  simp only
  cases hfind : mappingRules.find? fun rule =>
      ruleMatches rule (strip (combinedText algorithmFamily algorithm)) assetType with
  | none => simp [MappedToKem]
  | some rule =>
      have hmem : rule ∈ mappingRules := List.mem_of_find?_eq_some hfind
      have hkem : rule.kind = .kem → (candidateFromRule rule algorithm
          (strip (combinedText algorithmFamily algorithm))).replaceSet ≠ [] ∧
          ∀ name ∈ (candidateFromRule rule algorithm
            (strip (combinedText algorithmFamily algorithm))).replaceSet,
            "ML-KEM-".toList <+: name := by
        intro hkind
        obtain ⟨hpreserve, hset⟩ := kem_replaceSet rule hmem hkind
        simp only [candidateFromRule, hpreserve, Bool.false_eq_true, if_false, renderAlgorithmSet]
        rcases hset with hset | hset
        · rw [hset]
          show ["ML-KEM-768".toList] ≠ [] ∧
            ∀ name ∈ ["ML-KEM-768".toList], "ML-KEM-".toList <+: name
          decide
        · rw [hset]
          show ["ML-KEM-1024".toList] ≠ [] ∧
            ∀ name ∈ ["ML-KEM-1024".toList], "ML-KEM-".toList <+: name
          decide
      simp only [MappedToKem, Option.any_some, mapsToKem, decide_eq_true_eq]
      exact and_iff_left hkem

/-- What decides the mapping of a key agreement: its name is post-quantum, or names a key exchange,
or names a curve or RSA key establishment and neither a hash or cipher nor a signature. -/
def NamesKeyEstablishment (name : List Char) : Prop :=
  (∃ word ∈ ["ML-KEM", "MLKEM", "ML-DSA", "MLDSA", "SLH-DSA", "FALCON", "FN-DSA"], Has word name) ∨
  NamesKeyExchange name ∨
  (¬ NamesSha1 name ∧ ¬ Has "AES-128" name ∧ ¬ NamesSafeClassical name ∧
    (¬ ∃ word ∈ ["ECDSA", "P-256", "P-384", "P-521", "SECP"], Has word name) ∧
    (¬ ∃ word ∈ ["ED25519", "ED448", "EDDSA"], Has word name) ∧
    ∃ word ∈ ["ECDH", "X448", "CURVE448", "ECP-", "RSA"], Has word name)

instance (name : List Char) : Decidable (NamesKeyEstablishment name) :=
  inferInstanceAs (Decidable (_ ∨ _))

/-- The first rule of a key agreement, group by group. -/
theorem firstRule_keyAgreement {text : List Char} :
    (firstRule text "key_agreement".toList).any mapsToKem = true ↔
      (∃ marker ∈ pqcMarkers, Has marker text) ∨ NamesKeyExchange text ∨
      (¬ NamesSha1 text ∧ ¬ Has "AES-128" text ∧ ¬ NamesSafeClassical text ∧
        ¬ Has "ECDSA" text ∧ ¬ (Has "ED25519" text ∨ Has "ED448" text ∨ Has "EDDSA" text) ∧
        (NamesEcdh text ∨ NamesKeyExchange text ∨ Has "RSA" text)) := by
  have hsplit : mappingRules = [pqcReady] ++ (kexRules ++ ([sha1Signing] ++ ([aes128] ++
      (safeClassicalRules ++ (ecdsaRules ++ ([eddsaDefault] ++ (kemRules ++ [rsaSignature]))))))) :=
    rfl
  have hkexType : "key_agreement".toList ∈ ["protocol", "key_agreement"].map String.toList := by
    decide
  have hcurveType : ¬ NamesP256 text "key_agreement".toList := fun h => absurd h.1 (by decide)
  have hrsaType : "key_agreement".toList ∈ rsaKemLike.assetTypes.map String.toList := by decide
  have hlast : (([rsaSignature] : List Rule).find? fun rule =>
      ruleMatches rule text "key_agreement".toList).any mapsToKem = false := by
    rw [List.find?_singleton]
    split <;> rfl
  unfold firstRule
  rw [hsplit, any_find?_append (by decide), any_find?_append (by decide),
    any_find?_append_of_not (by decide), any_find?_append_of_not (by decide),
    any_find?_append_of_not (by decide), any_find?_append_of_not (by decide),
    any_find?_append_of_not (by decide), any_find?_append (by decide), hlast]
  show Found _ _ _ ∨ Found _ _ _ ∨ ¬ Found _ _ _ ∧ ¬ Found _ _ _ ∧ ¬ Found _ _ _ ∧
    ¬ Found _ _ _ ∧ ¬ Found _ _ _ ∧ (Found _ _ _ ∨ _) ↔ _
  rw [found_pqcReady, found_kexRules, found_sha1Signing, found_aes128, found_safeClassicalRules,
    found_ecdsaRules, found_eddsaDefault, found_kemRules, and_iff_right hkexType,
    and_iff_right hrsaType, or_iff_left hcurveType, or_iff_left Bool.false_ne_true]

theorem derived_normalize {algorithm : List Char} {family : String}
    (h : Derived (upper algorithm) family) : Derived (normalize algorithm) family := by
  -- no word of the rules begins or ends with white space, so stripping keeps them
  have hword : ∀ word ∈ words, (Has word (upper algorithm) ↔ Has word (normalize algorithm)) :=
    fun word hmem => has_upper hmem
  have hpqc : SaysPqc (upper algorithm) ↔ SaysPqc (normalize algorithm) := by
    simp only [SaysPqc, hword "ML-KEM" (by decide), hword "MLKEM" (by decide),
      hword "ML-DSA" (by decide), hword "MLDSA" (by decide), hword "SLH-DSA" (by decide)]
  have hecdsa : SaysEcdsa (upper algorithm) ↔ SaysEcdsa (normalize algorithm) := by
    simp only [SaysEcdsa, hword "ECDSA" (by decide), hword "P-256" (by decide),
      hword "P-384" (by decide), hword "P-521" (by decide), hword "SECP" (by decide)]
  have heddsa : SaysEddsa (upper algorithm) ↔ SaysEddsa (normalize algorithm) := by
    simp only [SaysEddsa, hword "ED25519" (by decide), hword "ED448" (by decide)]
  have hecdh : SaysEcdh (upper algorithm) ↔ SaysEcdh (normalize algorithm) := by
    simp only [SaysEcdh, hword "ECDH" (by decide), hword "X25519" (by decide),
      hword "X448" (by decide), hword "CURVE25519" (by decide), hword "CURVE448" (by decide),
      hword "ECP-" (by decide)]
  have hdh : SaysDh (upper algorithm) → SaysDh (normalize algorithm) := by
    rintro (h | h | h | h)
    · exact .inl ((hword "MODP" (by decide)).mp h)
    · exact .inr (.inl ((hword "GROUP14" (by decide)).mp h))
    · exact .inr (.inr (.inl ((hword "DIFFIE-HELLMAN" (by decide)).mp h)))
    · refine .inr (.inr (.inr ?_))
      rw [MigrationEngine.normalize, h]
      apply strip_eq_self
      have hascii : ∀ c ∈ "DH".toList, isAscii c = true ∧ isAsciiSpace c = false := by decide
      intro c hc
      rw [PyText.isSpace_ascii c (hascii c hc).1, (hascii c hc).2]
  have hrsa := hword "RSA" (by decide)
  have hhmac := hword "HMAC" (by decide)
  exact
    { pqc := h.pqc.trans hpqc
      ecdsa := by rw [h.ecdsa, hpqc, hecdsa]
      eddsa := fun hf => heddsa.mp (h.eddsa hf)
      rsa := fun hf => hrsa.mp (h.rsa hf)
      hmac := fun hf => hhmac.mp (h.hmac hf)
      dh := fun hf => hdh (h.dh hf)
      ecdh := fun hf => hecdh.mp (h.ecdh hf)
      other := fun hf => by
        rw [← hrsa, ← hecdh]
        exact h.other hf }

/-- What the name says to `family_from_algorithm`, in the words of the rules. -/
theorem saysDh_keyExchange {name : List Char} (h : SaysDh name) : NamesKeyExchange name := by
  rcases h with h | h | h | h
  · exact .inr ⟨"MODP", by decide, h⟩
  · exact .inr ⟨"GROUP", by decide, List.IsInfix.trans (by decide) h⟩
  · exact .inr ⟨"DIFFIE-HELLMAN", by decide, h⟩
  · rw [h]
    exact .inl ((namesDh_family "DH" (by decide)).mpr rfl)

theorem saysEcdh_names {name : List Char} (h : SaysEcdh name) : NamesKeyExchange name ∨
    ∃ word ∈ ["ECDH", "X448", "CURVE448", "ECP-", "RSA"], Has word name := by
  rcases h with h | h | h | h | h | h
  · exact .inr ⟨"ECDH", by decide, h⟩
  · exact .inl (.inr ⟨"X25519", by decide, h⟩)
  · exact .inr ⟨"X448", by decide, h⟩
  · exact .inl (.inr ⟨"CURVE25519", by decide, h⟩)
  · exact .inr ⟨"CURVE448", by decide, h⟩
  · exact .inr ⟨"ECP-", by decide, h⟩

omit [PyText] in
theorem saysEcdh_or_rsa {name : List Char}
    (h : ∃ word ∈ ["ECDH", "X448", "CURVE448", "ECP-", "RSA"], Has word name) :
    SaysEcdh name ∨ Has "RSA" name := by
  simp only [List.mem_cons, List.not_mem_nil, or_false, exists_eq_or_imp, exists_eq_left] at h
  unfold SaysEcdh
  grind

omit [PyText] in
theorem namesEcdh_names {name : List Char} (h : NamesEcdh name) : SaysEcdsa name ∨
    ∃ word ∈ ["ECDH", "X448", "CURVE448", "ECP-", "RSA"], Has word name := by
  obtain ⟨word, hword, hhas⟩ := h
  by_cases hsecp : word = "SECP256R1"
  · subst hsecp
    exact .inl (.inr (.inr (.inr (.inr (List.IsInfix.trans (by decide) hhas)))))
  · refine .inr ⟨word, ?_, hhas⟩
    simp only [List.mem_cons, List.not_mem_nil, or_false] at hword ⊢
    grind

/-- A name with its derived family is mapped to key encapsulation exactly if it names a key
establishment. -/
theorem mappedToKem_iff_names (algorithm : List Char) :
    MappedToKem (candidateForAlgorithm algorithm (familyFromAlgorithm algorithm)
      "key_agreement".toList) ↔ NamesKeyEstablishment (normalize algorithm) := by
  obtain ⟨family, hfamily, hnormal, hderived⟩ := familyFromAlgorithm_derived algorithm
  rw [mappedToKem_iff_firstRule]
  show (firstRule (ruleText algorithm) _).any mapsToKem = true ↔ _
  -- the text the rules read is the name and its family; each test splits into the two
  rw [firstRule_keyAgreement, pqc_ruleText hfamily hnormal,
    namesKeyExchange_ruleText hfamily hnormal, namesSha1_ruleText hfamily hnormal,
    aes128_ruleText hfamily hnormal, namesSafeClassical_ruleText hfamily hnormal,
    ecdsa_ruleText hfamily hnormal, eddsa_ruleText hfamily hnormal,
    namesEcdh_ruleText hfamily hnormal, rsa_ruleText hfamily hnormal]
  have hname := derived_normalize hderived
  generalize normalize algorithm = name at hname ⊢
  have hpqc : (∃ word ∈ ["ML-KEM", "MLKEM", "ML-DSA", "MLDSA", "SLH-DSA", "FALCON", "FN-DSA"],
      Has word name) ↔ SaysPqc name ∨ ∃ marker ∈ pqcMarkers, Has marker name := by
    simp only [SaysPqc, pqcMarkers, List.mem_cons, List.not_mem_nil, or_false, exists_eq_or_imp,
      exists_eq_left]
    grind
  have hecdsa : (∃ word ∈ ["ECDSA", "P-256", "P-384", "P-521", "SECP"], Has word name) ↔
      SaysEcdsa name := by
    simp only [SaysEcdsa, List.mem_cons, List.not_mem_nil, or_false, exists_eq_or_imp,
      exists_eq_left]
  have hecdsa' : Has "ECDSA" name → SaysEcdsa name := .inl
  have heddsa : (∃ word ∈ ["ED25519", "ED448", "EDDSA"], Has word name) ↔
      Has "ED25519" name ∨ Has "ED448" name ∨ Has "EDDSA" name := by
    simp only [List.mem_cons, List.not_mem_nil, or_false, exists_eq_or_imp, exists_eq_left]
  have heddsa' : SaysEddsa name → Has "ED25519" name ∨ Has "ED448" name ∨ Has "EDDSA" name := by
    rintro (h | h)
    · exact .inl h
    · exact .inr (.inl h)
  have hhmac : Has "HMAC" name → NamesSafeClassical name := fun h => ⟨"HMAC", by decide, h⟩
  have hdh : SaysDh name → NamesKeyExchange name := saysDh_keyExchange
  have hcurve := @saysEcdh_names _ name
  have hcurve' := @saysEcdh_or_rsa name
  have hecdh := @namesEcdh_names name
  have hrsa : Has "RSA" name →
      ∃ word ∈ ["ECDH", "X448", "CURVE448", "ECP-", "RSA"], Has word name :=
    fun h => ⟨"RSA", by decide, h⟩
  unfold NamesKeyEstablishment
  rw [hpqc, hecdsa, heddsa, hname.pqc]
  generalize (∃ word ∈ ["ECDH", "X448", "CURVE448", "ECP-", "RSA"], Has word name) = curve at *
  have hkinds : family ∈ ["ML-KEM", "ML-DSA", "SLH-DSA"] ∨ family = "ECDSA" ∨ family = "EDDSA" ∨
      family = "RSA" ∨ family = "HMAC" ∨ family = "DH" ∨ family = "ECDH" ∨
      family ∈ ["AES", "CHACHA20", ""] := by
    clear hname hnormal hderived
    revert family
    decide
  have hchacha : family = "CHACHA20" → family ∈ ["AES", "CHACHA20", ""] := by
    rintro rfl
    decide
  have hpqcFamily := hname.pqc
  have hecdsaFamily := hname.ecdsa
  have heddsaFamily := hname.eddsa
  have hrsaFamily := hname.rsa
  have hhmacFamily := hname.hmac
  have hdhFamily := hname.dh
  have hecdhFamily := hname.ecdh
  have hother := hname.other
  -- what is left is propositional: which words the name has and which family it got
  clear hname hderived hnormal hfamily hpqc hecdsa heddsa
  generalize (∃ marker ∈ pqcMarkers, Has marker name) = marker at *
  generalize (family ∈ ["ML-KEM", "ML-DSA", "SLH-DSA"]) = pqcFamily at *
  generalize (family ∈ ["AES", "CHACHA20", ""]) = otherFamily at *
  generalize (Has "ED25519" name ∨ Has "ED448" name ∨ Has "EDDSA" name) = eddsa at *
  grind

/-! ## 5. The key agreements that the scanner reports -/

section

variable [Sha256]

/-- The scanner's key agreements carry the derived family. -/
theorem KeyAgreement.derived {floatRepr : PyFloat → List Char} {candidate : AssetCandidate}
    (h : KeyAgreement floatRepr candidate) :
    candidate.assetType = "key_agreement".toList ∧
      candidate.algorithmFamily = familyFromAlgorithm candidate.algorithm := by
  cases h with
  | ike => exact ⟨rfl, rfl⟩
  | readiness targetId target sni metadata candidate hmem htype =>
      refine ⟨htype, ?_⟩
      obtain ⟨role, assetType, refKind, title, pqcRole, algorithm, source, heq, -, -⟩ :=
        readiness_cases hmem
      rw [heq]
      rfl

theorem keyAgreement_mapped_iff (floatRepr : PyFloat → List Char) (candidate : AssetCandidate)
    (hcandidate : KeyAgreement floatRepr candidate) :
    MappedToKem (candidateForAlgorithm candidate.algorithm candidate.algorithmFamily
      candidate.assetType) ↔ NamesKeyEstablishment (normalize candidate.algorithm) := by
  obtain ⟨htype, hfamily⟩ := hcandidate.derived
  rw [htype, hfamily]
  exact mappedToKem_iff_names candidate.algorithm

end

end

def ikeGateway : Target where
  host := "ipsec.testbed.local"
  displayName := none
  ip := none
  port := 500
  protocolHint := .ike
  sni := none
  transport := .udp
  agentEnabled := false
  agentUrl := none
  context := { field := RiskEngine.emptyContext }

/-- The first transform of the gateway's first proposal, for a Diffie-Hellman group. -/
def gatewayGroup (transformId : Nat) : AssetCandidate :=
  letI := asciiText
  letI := constantDigest
  ikeTransformCandidate 0 ikeGateway 1 1 4 transformId
    (ikeName ikeDhGroups "DH-GROUP" transformId)

theorem modp2048_mapped : letI := asciiText
    MappedToKem (candidateForAlgorithm (gatewayGroup 14).algorithm (gatewayGroup 14).algorithmFamily
      (gatewayGroup 14).assetType) :=
  letI := asciiText
  letI := constantDigest
  (keyAgreement_mapped_iff (fun _ => []) (gatewayGroup 14)
    (.ike 0 ikeGateway 1 1 14 [] _ rfl)).mpr (by decide +kernel)

/-- The group over the curve P-384 takes the rule for signatures. -/
theorem ecp384_not_mapped : letI := asciiText
    letI := constantDigest
    KeyAgreement (fun _ => []) (gatewayGroup 20) ∧
      ¬ MappedToKem (candidateForAlgorithm (gatewayGroup 20).algorithm
        (gatewayGroup 20).algorithmFamily (gatewayGroup 20).assetType) :=
  letI := asciiText
  letI := constantDigest
  ⟨.ike 0 ikeGateway 1 1 20 [] _ rfl, by decide +kernel⟩

end CryptoScanner.Scan
