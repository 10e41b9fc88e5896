import CryptoScanner.MigrationEngine.Vulnerability

/-!
# The first rule that matches

The rules of the file fall into groups whose order decides every outcome: post-quantum names, key
exchanges of the two asset types that carry them, weak and safe classical primitives, signatures,
key encapsulation, and what is left of RSA.
-/

namespace CryptoScanner.MigrationEngine

open Library Python

/-! ## 1. Groups of rules -/

def kexRules : List Rule := [ecdhX25519P256Kex, dhKexAliases]

def safeClassicalRules : List Rule := [safeClassicalHash, safeClassicalSymmetric]

def ecdsaRules : List Rule := [ecdsaP384P521, ecdsaP256Aliases, ecdsaDefault]

def ecdhRules : List Rule := [ecdhHighSecurity, ecdhDefault]

def kemRules : List Rule := [ecdhHighSecurity, ecdhDefault, dhDefault, rsaKemLike]

/-- A property that holds of all entries of a group holds of the first match if the group has one,
and else if it holds of the first match behind the group. -/
theorem any_find?_append {α : Type} {m q : α → Bool} {group rest : List α}
    (hq : ∀ x ∈ group, q x = true) :
    ((group ++ rest).find? m).any q = true ↔
      (∃ x ∈ group, m x = true) ∨ (rest.find? m).any q = true := by
  rw [List.find?_append, ← List.find?_isSome]
  cases hfind : group.find? m with
  | none => simp
  | some x => simpa using hq x (List.mem_of_find?_eq_some hfind)

/-- A property that fails on all entries of a group holds of the first match only behind it. -/
theorem any_find?_append_of_not {α : Type} {m q : α → Bool} {group rest : List α}
    (hq : ∀ x ∈ group, q x = false) :
    ((group ++ rest).find? m).any q = true ↔
      ¬ (∃ x ∈ group, m x = true) ∧ (rest.find? m).any q = true := by
  rw [List.find?_append, ← List.find?_isSome]
  cases hfind : group.find? m with
  | none => simp
  | some x => simpa using hq x (List.mem_of_find?_eq_some hfind)

variable [PyText]

/-- The rule that `candidate_for_algorithm` takes. -/
def firstRule (text assetType : List Char) : Option Rule :=
  mappingRules.find? fun rule => ruleMatches rule text assetType

/-- A rule of the group matches. -/
def Found (rules : List Rule) (text assetType : List Char) : Prop :=
  ∃ rule ∈ rules, ruleMatches rule text assetType = true

theorem ruleMatches_iff {rule : Rule} {text assetType : List Char} :
    ruleMatches rule text assetType = true ↔
      (rule.assetTypes = [] ∨ assetType ∈ rule.assetTypes.map String.toList) ∧
        rule.matchRegex.Search textClasses text := by
  unfold ruleMatches
  by_cases hnil : rule.assetTypes = []
  · simp [hnil]
  · by_cases hmem : assetType ∈ rule.assetTypes.map String.toList
    · simp only [hnil, hmem, ne_eq, not_false_eq_true, not_true_eq_false, and_false, if_false,
        decide_eq_true_eq, or_true, true_and]
    · simp only [hnil, hmem, ne_eq, not_false_eq_true, and_self, if_true, or_self, false_and,
        Bool.false_eq_true]

/-- A rule for every asset type matches wherever its pattern is found. -/
theorem ruleMatches_any {rule : Rule} {text assetType : List Char} (h : rule.assetTypes = []) :
    ruleMatches rule text assetType = true ↔ rule.matchRegex.Search textClasses text := by
  rw [ruleMatches_iff, h]
  simp only [true_or, true_and]

theorem found_append {before after : List Rule} {text assetType : List Char} :
    Found (before ++ after) text assetType ↔
      Found before text assetType ∨ Found after text assetType := by
  simp only [Found, List.mem_append, or_and_right, exists_or]

theorem not_found_append {before group : List Rule} {text assetType : List Char}
    (hbefore : ¬ Found before text assetType) (hgroup : ¬ Found group text assetType) :
    ¬ Found (before ++ group) text assetType := by
  rw [found_append]
  exact not_or.mpr ⟨hbefore, hgroup⟩

/-- The first rule lies in a group that finds something, if the groups before it find nothing. -/
theorem firstRule_mem {before group after : List Rule} {text assetType : List Char}
    (hsplit : mappingRules = before ++ (group ++ after)) (hbefore : ¬ Found before text assetType)
    (hgroup : Found group text assetType) :
    ∃ rule ∈ group, firstRule text assetType = some rule := by
  have hnone : (before.find? fun rule => ruleMatches rule text assetType) = none := by
    apply List.find?_eq_none.mpr
    intro rule hrule hmatch
    exact hbefore ⟨rule, hrule, hmatch⟩
  have hsome : (group.find? fun rule => ruleMatches rule text assetType).isSome = true :=
    List.find?_isSome.mpr hgroup
  obtain ⟨rule, hrule⟩ := Option.isSome_iff_exists.mp hsome
  refine ⟨rule, List.mem_of_find?_eq_some hrule, ?_⟩
  rw [firstRule, hsplit, List.find?_append, List.find?_append, hnone, hrule]
  rfl

theorem firstRule_eq_none {text assetType : List Char} (h : ¬ Found mappingRules text assetType) :
    firstRule text assetType = none := by
  apply List.find?_eq_none.mpr
  intro rule hrule hmatch
  exact h ⟨rule, hrule, hmatch⟩

/-! ## 2. What a text names -/

/-- The words, apart from `DH`, that name a key exchange in the patterns. -/
def keyExchangeWords : List String :=
  ["X25519", "CURVE25519", "NISTP256", "ECP256", "ECP-256", "MODP", "DIFFIE-HELLMAN", "GROUP"]

/-- `\bDH\b` is found. -/
def NamesDh (text : List Char) : Prop := (Regex.whole (.text "DH".toList)).Search textClasses text

def NamesKeyExchange (text : List Char) : Prop :=
  NamesDh text ∨ ∃ word ∈ keyExchangeWords, Has word text

omit [PyText] in
/-- The words of the key exchange over X25519 and P-256. -/
def NamesCurveExchange (text : List Char) : Prop :=
  ∃ word ∈ ["X25519", "CURVE25519", "NISTP256", "ECP256", "ECP-256"], Has word text

/-- What the rules for Diffie-Hellman look for. -/
def NamesDhAlias (text : List Char) : Prop :=
  NamesDh text ∨ ∃ word ∈ ["MODP", "DIFFIE-HELLMAN", "GROUP"], Has word text

theorem namesKeyExchange_iff {text : List Char} :
    NamesKeyExchange text ↔ NamesCurveExchange text ∨ NamesDhAlias text := by
  simp only [NamesKeyExchange, NamesCurveExchange, NamesDhAlias, keyExchangeWords, List.mem_cons,
    List.not_mem_nil, or_false, exists_eq_or_imp, exists_eq_left]
  grind

omit [PyText] in
def NamesSha1 (text : List Char) : Prop := Has "SHA-1" text ∨ Has "SHA1" text

omit [PyText] in
def NamesSafeClassical (text : List Char) : Prop :=
  ∃ word ∈ ["SHA-256", "SHA-384", "SHA-512", "SHA2", "AES-192", "AES-256", "CHACHA20", "HMAC"],
    Has word text

/-- A curve of the rule for P-256 is a whole word, and the asset type is one of that rule's. -/
def NamesP256 (text assetType : List Char) : Prop :=
  assetType ∈ ecdsaP256Aliases.assetTypes.map String.toList ∧
    ecdsaP256Aliases.matchRegex.Search textClasses text

omit [PyText] in
/-- The words that the rules for key encapsulation find beside those of a key exchange. -/
def NamesEcdh (text : List Char) : Prop :=
  ∃ word ∈ ["ECDH", "X448", "CURVE448", "SECP256R1"], Has word text

instance (text : List Char) : Decidable (NamesDh text) :=
  inferInstanceAs (Decidable (Regex.Search ..))

instance (text : List Char) : Decidable (NamesKeyExchange text) :=
  inferInstanceAs (Decidable (_ ∨ _))

omit [PyText] in
instance (text : List Char) : Decidable (NamesCurveExchange text) :=
  inferInstanceAs (Decidable (∃ word ∈ _, _))

instance (text : List Char) : Decidable (NamesDhAlias text) :=
  inferInstanceAs (Decidable (_ ∨ ∃ word ∈ _, _))

omit [PyText] in
instance (text : List Char) : Decidable (NamesSha1 text) := inferInstanceAs (Decidable (_ ∨ _))

omit [PyText] in
instance (text : List Char) : Decidable (NamesSafeClassical text) :=
  inferInstanceAs (Decidable (∃ word ∈ _, _))

instance (text assetType : List Char) : Decidable (NamesP256 text assetType) :=
  inferInstanceAs (Decidable (_ ∧ _))

omit [PyText] in
instance (text : List Char) : Decidable (NamesEcdh text) :=
  inferInstanceAs (Decidable (∃ word ∈ _, _))

/-! ## 3. What each group finds -/

variable {text assetType : List Char}

theorem found_pqcReady :
    Found [pqcReady] text assetType ↔ ∃ marker ∈ pqcMarkers, Has marker text := by
  simp only [Found, List.mem_singleton, exists_eq_left]
  rw [ruleMatches_any rfl]
  exact search_anyOf

theorem found_ecdhX25519P256Kex : Found [ecdhX25519P256Kex] text assetType ↔
    assetType ∈ ["protocol", "key_agreement"].map String.toList ∧ NamesCurveExchange text := by
  have hlong : Has "ECDH-SHA2-NISTP256" text → Has "NISTP256" text := fun h =>
    List.IsInfix.trans (by decide) h
  have hne : ecdhX25519P256Kex.assetTypes ≠ [] := by decide
  simp only [Found, List.mem_singleton, exists_eq_left]
  rw [ruleMatches_iff, or_iff_right hne]
  apply and_congr_right
  intro _
  show (Regex.alt (.alt (anyOf _ _) ecp256) (.text _)).Search textClasses text ↔ _
  rw [Regex.search_alt, Regex.search_alt, search_anyOf, search_ecp256, Regex.search_text]
  simp only [NamesCurveExchange, List.mem_cons, List.not_mem_nil, or_false, exists_eq_or_imp,
    exists_eq_left]
  show (((_ ∨ _ ∨ _) ∨ _ ∨ _) ∨ Has "NISTP256" text) ↔ _
  grind

theorem search_dhAliases_iff : dhAliases.Search textClasses text ↔ NamesDhAlias text := by
  rw [search_dhAliases]
  simp only [NamesDhAlias, NamesDh, List.mem_cons, List.not_mem_nil, or_false, exists_eq_or_imp,
    exists_eq_left]

theorem found_dhKexAliases : Found [dhKexAliases] text assetType ↔
    assetType ∈ ["protocol", "key_agreement"].map String.toList ∧ NamesDhAlias text := by
  have hne : dhKexAliases.assetTypes ≠ [] := by decide
  simp only [Found, List.mem_singleton, exists_eq_left]
  rw [ruleMatches_iff, or_iff_right hne]
  exact and_congr_right fun _ => search_dhAliases_iff

theorem found_kexRules : Found kexRules text assetType ↔
    assetType ∈ ["protocol", "key_agreement"].map String.toList ∧ NamesKeyExchange text := by
  have hsplit : kexRules = [ecdhX25519P256Kex] ++ [dhKexAliases] := rfl
  rw [hsplit, found_append, found_ecdhX25519P256Kex, found_dhKexAliases, namesKeyExchange_iff,
    and_or_left]

theorem found_sha1Signing : Found [sha1Signing] text assetType ↔ NamesSha1 text := by
  simp only [Found, List.mem_singleton, exists_eq_left]
  rw [ruleMatches_any rfl]
  show (anyOf _ _).Search textClasses text ↔ _
  rw [search_anyOf]
  simp only [NamesSha1, List.mem_cons, List.not_mem_nil, or_false, exists_eq_or_imp,
    exists_eq_left]

theorem found_aes128 : Found [aes128] text assetType ↔ Has "AES-128" text := by
  simp only [Found, List.mem_singleton, exists_eq_left]
  rw [ruleMatches_any rfl]
  exact Regex.search_text

theorem found_safeClassicalRules :
    Found safeClassicalRules text assetType ↔ NamesSafeClassical text := by
  simp only [Found, safeClassicalRules, List.mem_cons, List.not_mem_nil, or_false,
    exists_eq_or_imp, exists_eq_left]
  rw [ruleMatches_any rfl, ruleMatches_any rfl]
  show (anyOf _ _).Search textClasses text ∨ (anyOf _ _).Search textClasses text ↔ _
  rw [search_anyOf, search_anyOf]
  simp only [NamesSafeClassical, List.mem_cons, List.not_mem_nil, or_false, exists_eq_or_imp,
    exists_eq_left]
  grind

theorem found_ecdsaRules :
    Found ecdsaRules text assetType ↔ Has "ECDSA" text ∨ NamesP256 text assetType := by
  simp only [Found, ecdsaRules, List.mem_cons, List.not_mem_nil, or_false, exists_eq_or_imp,
    exists_eq_left]
  rw [(ruleMatches_any rfl : ruleMatches ecdsaP384P521 text assetType = true ↔ _),
    (ruleMatches_any rfl : ruleMatches ecdsaDefault text assetType = true ↔ _), ruleMatches_iff]
  have hne : ecdsaP256Aliases.assetTypes ≠ [] := by decide
  have hlong : ecdsaP384P521.matchRegex.Search textClasses text → Has "ECDSA" text := fun h =>
    Regex.search_text.mp (Regex.search_of_search_seq h)
  have hdefault : ecdsaDefault.matchRegex.Search textClasses text ↔ Has "ECDSA" text :=
    Regex.search_text
  rw [or_iff_right hne, hdefault, NamesP256]
  grind

theorem found_eddsaDefault : Found [eddsaDefault] text assetType ↔
    Has "ED25519" text ∨ Has "ED448" text ∨ Has "EDDSA" text := by
  simp only [Found, List.mem_singleton, exists_eq_left]
  rw [ruleMatches_any rfl]
  show (anyOf _ _).Search textClasses text ↔ _
  rw [search_anyOf]
  simp only [List.mem_cons, List.not_mem_nil, or_false, exists_eq_or_imp, exists_eq_left]

theorem found_ecdhRules :
    Found ecdhRules text assetType ↔ NamesEcdh text ∨ NamesCurveExchange text := by
  simp only [Found, ecdhRules, List.mem_cons, List.not_mem_nil, or_false, exists_eq_or_imp,
    exists_eq_left]
  rw [(ruleMatches_any rfl : ruleMatches ecdhHighSecurity text assetType = true ↔ _),
    (ruleMatches_any rfl : ruleMatches ecdhDefault text assetType = true ↔ _)]
  have hhigh : ecdhHighSecurity.matchRegex.Search textClasses text →
      Has "ECDH" text ∨ Has "X448" text ∨ Has "CURVE448" text := by
    intro h
    rcases Regex.search_alt.mp h with h | h
    · rcases Regex.search_alt.mp h with h | h
      · exact .inl (Regex.search_text.mp (Regex.search_of_search_seq h))
      · exact .inr (.inl (Regex.search_text.mp h))
    · exact .inr (.inr (Regex.search_text.mp h))
  have hhigh' : Has "X448" text ∨ Has "CURVE448" text →
      ecdhHighSecurity.matchRegex.Search textClasses text := by
    rintro (h | h)
    · exact Regex.search_alt.mpr (.inl (Regex.search_alt.mpr (.inr (Regex.search_text.mpr h))))
    · exact Regex.search_alt.mpr (.inr (Regex.search_text.mpr h))
  have hdefault : ecdhDefault.matchRegex.Search textClasses text ↔
      Has "ECDH" text ∨ Has "X25519" text ∨ Has "CURVE25519" text ∨ Has "ECP256" text ∨
        Has "ECP-256" text ∨ Has "NISTP256" text ∨ Has "SECP256R1" text := by
    show (Regex.alt (.alt (anyOf _ _) ecp256) (anyOf _ _)).Search textClasses text ↔ _
    rw [Regex.search_alt, Regex.search_alt, search_anyOf, search_ecp256, search_anyOf]
    simp only [List.mem_cons, List.not_mem_nil, or_false, exists_eq_or_imp, exists_eq_left]
    grind
  rw [hdefault, NamesEcdh, NamesCurveExchange]
  simp only [List.mem_cons, List.not_mem_nil, or_false, exists_eq_or_imp, exists_eq_left]
  grind

theorem found_dhDefault : Found [dhDefault] text assetType ↔ NamesDhAlias text := by
  simp only [Found, List.mem_singleton, exists_eq_left]
  rw [ruleMatches_any rfl]
  exact search_dhAliases_iff

theorem found_rsaKemLike : Found [rsaKemLike] text assetType ↔
    assetType ∈ rsaKemLike.assetTypes.map String.toList ∧ Has "RSA" text := by
  have hne : rsaKemLike.assetTypes ≠ [] := by decide
  simp only [Found, List.mem_singleton, exists_eq_left]
  rw [ruleMatches_iff, or_iff_right hne]
  exact and_congr_right fun _ => Regex.search_text

theorem found_kemRules : Found kemRules text assetType ↔
    NamesEcdh text ∨ NamesKeyExchange text ∨
      (assetType ∈ rsaKemLike.assetTypes.map String.toList ∧ Has "RSA" text) := by
  have hsplit : kemRules = ecdhRules ++ ([dhDefault] ++ [rsaKemLike]) := rfl
  rw [hsplit, found_append, found_append, found_ecdhRules, found_dhDefault, found_rsaKemLike,
    namesKeyExchange_iff]
  grind

theorem found_rsaSignature : Found [rsaSignature] text assetType ↔ Has "RSA" text := by
  simp only [Found, List.mem_singleton, exists_eq_left]
  rw [ruleMatches_any rfl]
  exact Regex.search_text

end CryptoScanner.MigrationEngine
