import CryptoScanner.RiskEngine.Spelling
import CryptoScanner.Scan.FamilyFactor

/-!
# The factor with and without the derived family

The letters of the family that the scanner derives take part in the ordered tests of the factor.  A
name keeps its factor if the first test that it passes stands before those that its family passes, or
if the size or curve that the family's test reads gives the same factor.
-/

namespace CryptoScanner.Scan

open Library Python RiskEngine

/-! ## 1. The words of the families -/

def familyFactorWords : List (String × List String) :=
  [("ML-KEM", ["ML-KEM"]), ("ML-DSA", ["ML-DSA", "DSA"]), ("SLH-DSA", ["SLH-DSA", "DSA"]),
    ("ECDSA", ["ECDSA", "DSA"]), ("EdDSA", ["DSA"]), ("RSA", ["RSA"]), ("HMAC", ["HMAC"]),
    ("DH", ["DH"]), ("ECDH", ["ECDH", "DH"]), ("AES", []), ("ChaCha20", ["CHACHA20"]), ("", [])]

def allFactorWords : List String := "+" :: "SIGN" :: factorWords ++ curveSizeWords

theorem allFactorWords_wellFormed : ∀ word ∈ allFactorWords, word.toList ≠ [] ∧
    ∀ c ∈ word.toList, isAscii c = true ∧ isAsciiSpace c = false := by
  decide +kernel

theorem familyFactorWords_own : ∀ pair ∈ familyFactorWords,
    (∀ c ∈ pair.1.toList, isAscii c = true ∧ isAsciiSpace c = false) ∧
      ∀ word ∈ allFactorWords, Has word (pair.1.toList.map Char.toUpper) ↔ word ∈ pair.2 := by
  decide +kernel

section

variable [PyText] {algorithm : List Char} {family : String} {own : List String}

theorem names_own (hown : (family, own) ∈ familyFactorWords) {word : String}
    (hword : word ∈ allFactorWords) : Names algorithm family.toList word ↔
      word ∈ own ∨ Has word (normalizeAlgorithmText algorithm) := by
  obtain ⟨hascii, hwords⟩ := familyFactorWords_own (family, own) hown
  rw [Names, normalizeAlgorithmText_ascii hascii, hwords word hword]

/-- The factor sees the same words in the name as the scanner. -/
theorem has_name_iff [PyBlanks] {word : String} (hword : word ∈ allFactorWords) :
    Has word (normalizeAlgorithmText algorithm) ↔ Has word (upper algorithm) := by
  obtain ⟨hne, hform⟩ := allFactorWords_wellFormed word hword
  have hblank : ∀ {c : Char}, PyText.isSpace c = true → c ∉ word.toList := by
    intro c hc hmem
    rw [PyText.isSpace_ascii c (hform c hmem).1, (hform c hmem).2] at hc
    cases hc
  have hout : ∀ {blanks : List Char}, (∀ c ∈ blanks, PyText.isSpace c = true) →
      ¬ word.toList <:+: blanks := by
    intro blanks hblanks hpart
    obtain ⟨c, hc⟩ := List.exists_mem_of_ne_nil _ hne
    exact hblank (hblanks c (hpart.subset hc)) hc
  obtain ⟨before, after, heq, hbefore, hafter⟩ := exists_strip_append algorithm
  have hupper : upper algorithm = before ++ normalizeAlgorithmText algorithm ++ after := by
    conv_lhs => rw [heq, upper_append, upper_append, upper_blanks hbefore, upper_blanks hafter]
    rfl
  -- no word crosses from the white space into the name
  have hlast : ∀ c ∈ before.getLast?, c ∉ word.toList :=
    fun c hc => hblank (hbefore c (List.mem_of_getLast? hc))
  have hfirst : ∀ c ∈ after.head?, c ∉ word.toList :=
    fun c hc => hblank (hafter c (List.mem_of_head? hc))
  rw [hupper, Has, Has, infix_append_of_border (.inr hfirst) hne,
    infix_append_of_border (.inl hlast) hne, or_iff_left (hout hafter), or_iff_right (hout hbefore)]

theorem namesAny_own (hown : (family, own) ∈ familyFactorWords) {list : List String}
    (hlist : list ⊆ allFactorWords) : NamesAny algorithm family.toList list ↔
      (∃ word ∈ list, word ∈ own) ∨ HasAny list (normalizeAlgorithmText algorithm) := by
  simp only [NamesAny, HasAny, ← exists_or, ← and_or_left]
  constructor
  · rintro ⟨word, hword, h⟩
    exact ⟨word, hword, (names_own hown (hlist hword)).mp h⟩
  · rintro ⟨word, hword, h⟩
    exact ⟨word, hword, (names_own hown (hlist hword)).mpr h⟩

end

/-! ## 2. Sizes and curves -/

def sizeClass (name : List Char) : FactorClass :=
  if Has "1024" name then .broken
  else if Has "2048" name then .standard
  else if Has "3072" name then .medium
  else if Has "4096" name then .large
  else .standard

def curveClass (name : List Char) : FactorClass :=
  if HasAny ["P-256", "SECP256"] name then .standard
  else if HasAny ["P-384", "SECP384"] name then .medium
  else if HasAny ["P-521", "SECP521"] name then .large
  else .medium

theorem sizedFactor_class (name : List Char) :
    sizedFactor name (19 / 20) classicalThresholds = (sizeClass name).value := by
  rw [sizedFactor_eq, sizeClass]
  split_ifs <;> rfl

theorem sizeClass_bounds (name : List Char) : 17 / 20 ≤ (sizeClass name).value := by
  rw [← sizedFactor_class]
  exact sizedFactor_bounds name

section

variable [PyText] {algorithm assetType : List Char} {family : String} {own : List String}

/-- One of the words is in the name or comes with the family. -/
def Says (own : List String) (name : List Char) (list : List String) : Prop :=
  (∃ word ∈ list, word ∈ own) ∨ HasAny list name

instance (own : List String) (name : List Char) (list : List String) :
    Decidable (Says own name list) :=
  inferInstanceAs (Decidable (_ ∨ _))

/-- The ordered tests on a name and the words that come with its family. -/
def factorBy (own : List String) (name : List Char) (signs : Prop) [Decidable signs] : ℚ :=
  if Says own name pqcWords then
    if Says own name ["+", "HYBRID"] then 1 / 10 else 0
  else if Says own name ["HYBRID"] then 1 / 10
  else if Says own name ["RSA"] ∨ Says own name ["DSA"] ∧ ¬ Says own name ["ECDSA"] ∨
      ¬ Says own name curveWords ∧ Says own name ["DH", "MODP"] then (sizeClass name).value
  else if Says own name ["ECDSA", "ECDH"] then (curveClass name).value
  else if Says own name curveWords then 9 / 10
  else if Says own name sha1Words then
    if signs then 1 else 1 / 2
  else if Says own name ["SHA-256", "SHA-384", "SHA-512", "SHA2"] then 1 / 20
  else if Says own name ["AES-128"] then 1 / 10
  else if Says own name ["AES-192", "AES-256", "CHACHA20", "HMAC"] then 1 / 20
  else 1 / 2

theorem algorithmFactor_own (hown : (family, own) ∈ familyFactorWords) :
    algorithmFactor algorithm family.toList assetType =
      factorBy own (normalizeAlgorithmText algorithm) (SignsText algorithm [] assetType) := by
  have hlist : ∀ list : List String, list ⊆ allFactorWords →
      (NamesAny algorithm family.toList list ↔ Says own (normalizeAlgorithmText algorithm) list) :=
    fun list h => namesAny_own hown h
  have hone : ∀ word : String, word ∈ allFactorWords → (Names algorithm family.toList word ↔
      Says own (normalizeAlgorithmText algorithm) [word]) := by
    intro word hword
    have hsingle : [word] ⊆ allFactorWords := List.cons_subset.mpr ⟨hword, List.nil_subset _⟩
    rw [← hlist [word] hsingle, namesAny_cons, or_iff_left not_namesAny_nil]
  have hsigns : SignsText algorithm family.toList assetType ↔ SignsText algorithm [] assetType := by
    have hfamily : Names algorithm family.toList "SIGN" ↔ Names algorithm [] "SIGN" := by
      have hsign : ∀ pair ∈ familyFactorWords, "SIGN" ∉ pair.2 := by decide
      have hnone : ("", []) ∈ familyFactorWords := by decide
      have hplain : Names algorithm "".toList "SIGN" ↔
          "SIGN" ∈ [] ∨ Has "SIGN" (normalizeAlgorithmText algorithm) :=
        names_own hnone (by decide)
      rw [names_own hown (by decide), or_iff_right (hsign _ hown)]
      exact (hplain.trans (or_iff_right (List.not_mem_nil))).symm
    rw [SignsText, SignsText, hfamily]
  -- no family has a word that tells the curves apart
  have hcurve : ∀ list : List String, list ⊆ curveSizeWords →
      (NamesAny algorithm family.toList list ↔ HasAny list (normalizeAlgorithmText algorithm)) := by
    intro list hsizes
    have hno : ∀ pair ∈ familyFactorWords, ∀ word ∈ curveSizeWords, word ∉ pair.2 := by decide
    have hsub : curveSizeWords ⊆ allFactorWords := by decide
    rw [namesAny_own hown (fun word hword => hsub (hsizes hword)), or_iff_right]
    rintro ⟨word, hword, hmem⟩
    exact hno _ hown word (hsizes hword) hmem
  have hcurveValue : (if NamesAny algorithm family.toList ["P-256", "SECP256"] then (19 / 20 : ℚ)
      else if NamesAny algorithm family.toList ["P-384", "SECP384"] then 9 / 10
      else if NamesAny algorithm family.toList ["P-521", "SECP521"] then 17 / 20
      else 9 / 10) = (curveClass (normalizeAlgorithmText algorithm)).value := by
    simp only [hcurve ["P-256", "SECP256"] (by decide),
      hcurve ["P-384", "SECP384"] (by decide),
      hcurve ["P-521", "SECP521"] (by decide), curveClass]
    split_ifs <;> rfl
  have hsize : ScoredBySize algorithm family.toList ↔
      Says own (normalizeAlgorithmText algorithm) ["RSA"] ∨
        Says own (normalizeAlgorithmText algorithm) ["DSA"] ∧
          ¬ Says own (normalizeAlgorithmText algorithm) ["ECDSA"] ∨
        ¬ Says own (normalizeAlgorithmText algorithm) curveWords ∧
          Says own (normalizeAlgorithmText algorithm) ["DH", "MODP"] := by
    rw [ScoredBySize, hone "RSA" (by decide), hone "DSA" (by decide), hone "ECDSA" (by decide),
      hlist curveWords (by decide), hlist ["DH", "MODP"] (by decide)]
  rw [algorithmFactor_eq, sizedFactor_class, hcurveValue]
  simp only [factorBy, hsize, hsigns, hone "HYBRID" (by decide),
    hone "AES-128" (by decide), hlist pqcWords (by decide),
    hlist ["+", "HYBRID"] (by decide), hlist curveWords (by decide),
    hlist ["ECDSA", "ECDH"] (by decide), hlist sha1Words (by decide),
    hlist ["SHA-256", "SHA-384", "SHA-512", "SHA2"] (by decide),
    hlist ["AES-192", "AES-256", "CHACHA20", "HMAC"] (by decide)]

end

/-! ## 3. The words of one family among the tests -/

theorem says_own {own list : List String} {name : List Char} (h : ∃ word ∈ list, word ∈ own) :
    Says own name list ↔ True :=
  iff_true_intro (.inl h)

theorem says_name {own list : List String} {name : List Char} (h : ¬ ∃ word ∈ list, word ∈ own) :
    Says own name list ↔ HasAny list name :=
  or_iff_right h

section

variable {name : List Char} {signs : Prop} [Decidable signs]

theorem factorBy_of_transition {own : List String} (hown : "+" ∉ own ∧ "HYBRID" ∉ own)
    (h : HasAny transitionWords name) : factorBy own name signs = factorBy [] name signs := by
  have hplus : ∀ own : List String, "+" ∉ own ∧ "HYBRID" ∉ own →
      (Says own name ["+", "HYBRID"] ↔ HasAny ["+", "HYBRID"] name) ∧
        (Says own name ["HYBRID"] ↔ HasAny ["HYBRID"] name) := by
    intro own hown
    simp only [Says, List.mem_cons, List.not_mem_nil, or_false, exists_eq_or_imp, exists_eq_left,
      hown, false_or, or_self, and_self]
  have hsplit : HasAny pqcWords name ∨ HasAny ["HYBRID"] name := by
    obtain ⟨word, hword, hhas⟩ := h
    rcases List.mem_append.mp (show word ∈ pqcWords ++ ["HYBRID"] from hword) with hword | hword
    · exact .inl ⟨word, hword, hhas⟩
    · exact .inr ⟨word, hword, hhas⟩
  have hnone := hplus [] ⟨List.not_mem_nil, List.not_mem_nil⟩
  unfold factorBy
  simp only [(hplus own hown).1, (hplus own hown).2, hnone.1, hnone.2]
  rcases hsplit with hpqc | hhybrid
  · have hboth : ∀ own, Says own name pqcWords := fun own => .inr hpqc
    rw [if_pos (hboth own), if_pos (hboth [])]
  -- a hybrid word gives the same factor with and without a post-quantum one
  · have hboth : HasAny ["+", "HYBRID"] name := hasAny_cons.mpr (.inr hhybrid)
    simp only [hboth, hhybrid, if_true, ite_self]

theorem not_transition (h : ¬ HasAny transitionWords name) :
    ¬ HasAny pqcWords name ∧ ¬ HasAny ["HYBRID"] name := by
  have hsub : ∀ {list : List String}, list ⊆ transitionWords → ¬ HasAny list name := by
    rintro list hlist ⟨word, hword, hhas⟩
    exact h ⟨word, hlist hword, hhas⟩
  exact ⟨hsub (by decide), hsub (by decide)⟩

theorem factorBy_ecdsa (h : ¬ HasAny transitionWords name) :
    factorBy ["ECDSA", "DSA"] name signs =
      if HasAny ["RSA"] name then (sizeClass name).value else (curveClass name).value := by
  obtain ⟨hpqc, hhybrid⟩ := not_transition h
  simp (disch := decide) only [factorBy, says_own, says_name, hpqc, hhybrid, if_true, if_false,
    not_true_eq_false, false_and, and_false, or_false]

theorem factorBy_eddsa (h : ¬ HasAny transitionWords name) (hecdsa : ¬ HasAny ["ECDSA"] name) :
    factorBy ["DSA"] name signs = (sizeClass name).value := by
  obtain ⟨hpqc, hhybrid⟩ := not_transition h
  simp (disch := decide) only [factorBy, says_own, says_name, hpqc, hhybrid, hecdsa, if_true,
    if_false, not_false_eq_true, true_and, true_or, or_true]

theorem factorBy_plain (h : ¬ HasAny transitionWords name) :
    factorBy [] name signs =
      if HasAny ["RSA"] name ∨ HasAny ["DSA"] name ∧ ¬ HasAny ["ECDSA"] name ∨
          ¬ HasAny curveWords name ∧ HasAny ["DH", "MODP"] name then (sizeClass name).value
      else if HasAny ["ECDSA", "ECDH"] name then (curveClass name).value
      else if HasAny curveWords name then 9 / 10
      else if HasAny sha1Words name then if signs then 1 else 1 / 2
      else if HasAny ["SHA-256", "SHA-384", "SHA-512", "SHA2"] name then 1 / 20
      else if HasAny ["AES-128"] name then 1 / 10
      else if HasAny ["AES-192", "AES-256", "CHACHA20", "HMAC"] name then 1 / 20
      else 1 / 2 := by
  obtain ⟨hpqc, hhybrid⟩ := not_transition h
  simp (disch := decide) only [factorBy, says_name, hpqc, hhybrid, if_false]

theorem factorBy_ecdh (h : ¬ HasAny transitionWords name) :
    factorBy ["ECDH", "DH"] name signs =
      if HasAny ["RSA"] name ∨ HasAny ["DSA"] name ∧ ¬ HasAny ["ECDSA"] name then
        (sizeClass name).value
      else (curveClass name).value := by
  obtain ⟨hpqc, hhybrid⟩ := not_transition h
  simp (disch := decide) only [factorBy, says_own, says_name, hpqc, hhybrid, if_true, if_false,
    not_true_eq_false, false_and, or_false]

theorem factorBy_dh (h : ¬ HasAny transitionWords name) :
    factorBy ["DH"] name signs =
      if HasAny ["RSA"] name ∨ HasAny ["DSA"] name ∧ ¬ HasAny ["ECDSA"] name ∨
          ¬ HasAny curveWords name then (sizeClass name).value
      else if HasAny ["ECDSA", "ECDH"] name then (curveClass name).value
      else 9 / 10 := by
  obtain ⟨hpqc, hhybrid⟩ := not_transition h
  simp (disch := decide) only [factorBy, says_own, says_name, hpqc, hhybrid, if_false, and_true]
  split_ifs <;> first | rfl | grind

theorem factorBy_rsa (h : ¬ HasAny transitionWords name) :
    factorBy ["RSA"] name signs = (sizeClass name).value := by
  obtain ⟨hpqc, hhybrid⟩ := not_transition h
  simp (disch := decide) only [factorBy, says_own, says_name, hpqc, hhybrid, if_true, if_false,
    true_or]

/-- The families of the symmetric algorithms stand last among the tests. -/
theorem factorBy_symmetric {word : String} (hword : word ∈ ["CHACHA20", "HMAC"])
    (h : ¬ HasAny transitionWords name) (hne : factorBy [] name signs ≠ 1 / 2) :
    factorBy [word] name signs = factorBy [] name signs := by
  obtain ⟨hpqc, hhybrid⟩ := not_transition h
  have heq : factorBy [word] name signs =
      if HasAny ["RSA"] name ∨ HasAny ["DSA"] name ∧ ¬ HasAny ["ECDSA"] name ∨
          ¬ HasAny curveWords name ∧ HasAny ["DH", "MODP"] name then (sizeClass name).value
      else if HasAny ["ECDSA", "ECDH"] name then (curveClass name).value
      else if HasAny curveWords name then 9 / 10
      else if HasAny sha1Words name then if signs then 1 else 1 / 2
      else if HasAny ["SHA-256", "SHA-384", "SHA-512", "SHA2"] name then 1 / 20
      else if HasAny ["AES-128"] name then 1 / 10
      else 1 / 20 := by
    simp only [List.mem_cons, List.not_mem_nil, or_false] at hword
    rcases hword with rfl | rfl
    · simp (disch := decide) only [factorBy, says_own, says_name, hpqc, hhybrid, if_true, if_false]
    · simp (disch := decide) only [factorBy, says_own, says_name, hpqc, hhybrid, if_true, if_false]
  rw [factorBy_plain h] at hne ⊢
  rw [heq]
  -- the two differ only where the name alone says nothing
  split_ifs at hne ⊢ <;> first | rfl | exact absurd rfl hne

theorem factorBy_pqc {own : List String}
    (hown : own ∈ [["ML-KEM"], ["ML-DSA", "DSA"], ["SLH-DSA", "DSA"]])
    (h : ¬ HasAny transitionWords name) :
    factorBy own name signs = if Has "+" name then 1 / 10 else 0 := by
  obtain ⟨hpqc, hhybrid⟩ := not_transition h
  have hplus : HasAny ["+", "HYBRID"] name ↔ Has "+" name := by
    rw [hasAny_cons, or_iff_left hhybrid]
  simp only [List.mem_cons, List.not_mem_nil, or_false] at hown
  rcases hown with rfl | rfl | rfl
  all_goals simp (disch := decide) only [factorBy, says_own, says_name, hplus, if_true]

end

/-! ## 4. When the factor stays -/

/-- A name without a post-quantum or hybrid word passes the test of its family, or one before it, or
what the two tests read in the name is of one class. -/
def ReadsAlike (algorithmFamily name : List Char) (signs : Prop) : Prop :=
  if algorithmFamily ∈ pqcFamilies.map String.toList then
    Has "+" name ∧ Has "AES-128" name ∧ ¬ HasAny classicalWords name ∧ ¬ HasAny sha1Words name ∧
      ¬ HasAny ["SHA-256", "SHA-384", "SHA-512", "SHA2"] name
  else if algorithmFamily = "ECDSA".toList then
    HasAny ["RSA", "ECDSA"] name ∨ ¬ Has "DSA" name ∧ Has "ECDH" name ∨
      ¬ Has "DSA" name ∧ HasAny curveWords name ∧ curveClass name = .medium ∨
      (Has "DSA" name ∨ ¬ HasAny curveWords name ∧ HasAny ["DH", "MODP"] name) ∧
        sizeClass name = curveClass name
  else if algorithmFamily = "EdDSA".toList then
    HasAny ["RSA", "DSA"] name ∨ sizeClass name = .medium
  else if algorithmFamily = "DH".toList then
    HasAny classicalWords name ∨ HasAny sha1Words name ∧ signs ∧ sizeClass name = .broken
  else if algorithmFamily = "ECDH".toList then
    Has "DSA" name ∨ HasAny curveWords name ∨
      HasAny ["DH", "MODP"] name ∧ sizeClass name = .medium
  else True

def KeepsFactor (algorithmFamily name : List Char) (signs : Prop) : Prop :=
  HasAny transitionWords name ∨ ReadsAlike algorithmFamily name signs

section

variable {name : List Char} {signs : Prop} [Decidable signs]

theorem value_eq_iff {cls cls' : FactorClass} : cls.value = cls'.value ↔ cls = cls' :=
  ⟨FactorClass.value_injective, congrArg _⟩

theorem curveClass_cases (name : List Char) : curveClass name = .standard ∨
    curveClass name = .medium ∨ curveClass name = .large := by
  unfold curveClass
  split_ifs <;> simp

theorem hasAny_classicalWords : HasAny classicalWords name ↔
    HasAny ["RSA"] name ∨ HasAny ["DSA"] name ∨ HasAny curveWords name ∨
      HasAny ["DH", "MODP"] name := by
  simp only [classicalWords, curveWords, hasAny_cons, not_hasAny_nil, or_false]
  grind

theorem curveClass_apart (name : List Char) : (curveClass name).value ≠ 1 ∧
    (curveClass name).value ≠ 1 / 2 ∧ (curveClass name).value ≠ 1 / 20 ∧
    (curveClass name).value ≠ 1 / 10 := by
  rcases curveClass_cases name with h | h | h <;>
    · rw [h]
      norm_num [FactorClass.value]

/-- Of the factors of the later tests, a size has only that of a broken algorithm. -/
theorem sizeClass_apart (name : List Char) : (sizeClass name).value ≠ 1 / 2 ∧
    (sizeClass name).value ≠ 1 / 20 ∧ (sizeClass name).value ≠ 1 / 10 := by
  have hbound := sizeClass_bounds name
  refine ⟨?_, ?_, ?_⟩ <;>
    · intro h
      rw [h] at hbound
      norm_num at hbound

theorem hasAny_curveWords : HasAny curveWords name ↔ Has "ECDSA" name ∨ Has "ECDH" name ∨
    HasAny ["X25519", "X448", "ED25519", "ED448"] name := by
  simp only [curveWords, hasAny_cons, not_hasAny_nil, or_false]

theorem factorBy_ecdsa_iff (h : ¬ HasAny transitionWords name) :
    factorBy ["ECDSA", "DSA"] name signs = factorBy [] name signs ↔
      HasAny ["RSA", "ECDSA"] name ∨ ¬ Has "DSA" name ∧ Has "ECDH" name ∨
      ¬ Has "DSA" name ∧ HasAny curveWords name ∧ curveClass name = .medium ∨
      (Has "DSA" name ∨ ¬ HasAny curveWords name ∧ HasAny ["DH", "MODP"] name) ∧
        sizeClass name = curveClass name := by
  have hsize : (curveClass name).value = (sizeClass name).value ↔
      sizeClass name = curveClass name := value_eq_iff.trans eq_comm
  have hmedium : (curveClass name).value = 9 / 10 ↔ curveClass name = .medium :=
    @value_eq_iff (curveClass name) .medium
  have hapart := curveClass_apart name
  rw [factorBy_ecdsa h, factorBy_plain h]
  simp only [@hasAny_cons "RSA", @hasAny_cons "DSA", @hasAny_cons "ECDSA",
    @hasAny_cons "ECDH", not_hasAny_nil, or_false, hasAny_curveWords]
  split_ifs <;> grind

theorem factorBy_eddsa_iff (h : ¬ HasAny transitionWords name) (hecdsa : ¬ Has "ECDSA" name)
    (heddsa : HasAny ["X25519", "X448", "ED25519", "ED448"] name)
    (hcurve : curveClass name = .medium) :
    factorBy ["DSA"] name signs = factorBy [] name signs ↔
      HasAny ["RSA", "DSA"] name ∨ sizeClass name = .medium := by
  have hmedium : (sizeClass name).value = 9 / 10 ↔ sizeClass name = .medium :=
    @value_eq_iff (sizeClass name) .medium
  have hvalue : (curveClass name).value = 9 / 10 := by
    rw [hcurve]
    rfl
  have hnone : ¬ HasAny ["ECDSA"] name := by
    rwa [hasAny_cons, or_iff_left not_hasAny_nil]
  rw [factorBy_eddsa h hnone, factorBy_plain h, hvalue]
  simp only [@hasAny_cons "RSA", @hasAny_cons "DSA", @hasAny_cons "ECDSA",
    @hasAny_cons "ECDH", not_hasAny_nil, or_false, hasAny_curveWords]
  split_ifs <;> grind

theorem factorBy_dh_iff (h : ¬ HasAny transitionWords name) :
    factorBy ["DH"] name signs = factorBy [] name signs ↔ HasAny classicalWords name ∨
      HasAny sha1Words name ∧ signs ∧ sizeClass name = .broken := by
  have hbroken : (sizeClass name).value = 1 ↔ sizeClass name = .broken :=
    @value_eq_iff (sizeClass name) .broken
  have hapart := sizeClass_apart name
  rw [factorBy_dh h, factorBy_plain h, hasAny_classicalWords]
  simp only [@hasAny_cons "RSA", @hasAny_cons "DSA", @hasAny_cons "ECDSA",
    @hasAny_cons "ECDH", not_hasAny_nil, or_false, hasAny_curveWords]
  split_ifs <;> grind

theorem factorBy_ecdh_iff (h : ¬ HasAny transitionWords name) (hrsa : ¬ Has "RSA" name)
    (hecdsa : ¬ Has "ECDSA" name) (hcurve : curveClass name = .medium) :
    factorBy ["ECDH", "DH"] name signs = factorBy [] name signs ↔
      Has "DSA" name ∨ HasAny curveWords name ∨
        HasAny ["DH", "MODP"] name ∧ sizeClass name = .medium := by
  have hmedium : (sizeClass name).value = 9 / 10 ↔ sizeClass name = .medium :=
    @value_eq_iff (sizeClass name) .medium
  have hvalue : (curveClass name).value = 9 / 10 := by
    rw [hcurve]
    rfl
  rw [factorBy_ecdh h, factorBy_plain h, hvalue]
  simp only [@hasAny_cons "RSA", @hasAny_cons "DSA", @hasAny_cons "ECDSA",
    @hasAny_cons "ECDH", not_hasAny_nil, or_false, hasAny_curveWords]
  split_ifs <;> grind

theorem factorBy_pqc_iff {own : List String}
    (hown : own ∈ [["ML-KEM"], ["ML-DSA", "DSA"], ["SLH-DSA", "DSA"]])
    (h : ¬ HasAny transitionWords name) :
    factorBy own name signs = factorBy [] name signs ↔
      Has "+" name ∧ Has "AES-128" name ∧ ¬ HasAny classicalWords name ∧ ¬ HasAny sha1Words name ∧
        ¬ HasAny ["SHA-256", "SHA-384", "SHA-512", "SHA2"] name := by
  have hcurve := (curveClass_apart name).2.2.2
  have hsize := (sizeClass_apart name).2.2
  have hcurve0 : (curveClass name).value ≠ 0 := by
    rcases curveClass_cases name with h | h | h <;>
      · rw [h]
        norm_num [FactorClass.value]
  have hsize0 : (sizeClass name).value ≠ 0 := by
    have hbound := sizeClass_bounds name
    intro h
    rw [h] at hbound
    norm_num at hbound
  rw [factorBy_pqc hown h, factorBy_plain h, hasAny_classicalWords]
  simp only [@hasAny_cons "RSA", @hasAny_cons "DSA", @hasAny_cons "ECDSA",
    @hasAny_cons "ECDH", @hasAny_cons "AES-128", not_hasAny_nil, or_false,
    hasAny_curveWords]
  split_ifs <;> grind

end

/-! ## 5. The derived family -/

section

variable [PyText] [PyBlanks] {algorithm : List Char}

/-- A name from which no curve of ECDSA is derived is scored by the default of the curves. -/
theorem curveClass_of_not_ecdsa (h : ¬ SaysEcdsa (upper algorithm)) :
    curveClass (normalizeAlgorithmText algorithm) = .medium := by
  have hname : ∀ {long short : String}, long ∈ allFactorWords → short.toList <:+: long.toList →
      ¬ Has short (upper algorithm) → ¬ Has long (normalizeAlgorithmText algorithm) := by
    intro long short hlong hshort hno hhas
    exact hno (hshort.trans ((has_name_iff hlong).mp hhas))
  simp only [SaysEcdsa, not_or] at h
  have hp256 : ¬ HasAny ["P-256", "SECP256"] (normalizeAlgorithmText algorithm) := by
    simp only [hasAny_cons, not_hasAny_nil, or_false, not_or]
    exact ⟨hname (by decide) List.infix_rfl h.2.1, hname (by decide) (by decide) h.2.2.2.2⟩
  have hp521 : ¬ HasAny ["P-521", "SECP521"] (normalizeAlgorithmText algorithm) := by
    simp only [hasAny_cons, not_hasAny_nil, or_false, not_or]
    exact ⟨hname (by decide) List.infix_rfl h.2.2.2.1, hname (by decide) (by decide) h.2.2.2.2⟩
  rw [curveClass, if_neg hp256, if_neg hp521]
  exact ite_self _

omit [PyBlanks] in
/-- What is left to show for a name and its family, in the words of the name. -/
theorem keepsFactor_of_own (family : String) (own : List String)
    (hown : (family, own) ∈ familyFactorWords) {assetType : List Char}
    (h : ¬ HasAny transitionWords (normalizeAlgorithmText algorithm) →
      (factorBy own (normalizeAlgorithmText algorithm) (SignsText algorithm [] assetType) =
          factorBy [] (normalizeAlgorithmText algorithm) (SignsText algorithm [] assetType) ↔
        ReadsAlike family.toList (normalizeAlgorithmText algorithm)
          (SignsText algorithm [] assetType))) :
    algorithmFactor algorithm family.toList assetType = algorithmFactor algorithm [] assetType ↔
      KeepsFactor family.toList (normalizeAlgorithmText algorithm)
        (SignsText algorithm [] assetType) := by
  have hnone : ("", []) ∈ familyFactorWords := by decide
  have hplain : algorithmFactor algorithm "".toList assetType = _ := algorithmFactor_own hnone
  have hno : ∀ pair ∈ familyFactorWords, "+" ∉ pair.2 ∧ "HYBRID" ∉ pair.2 := by decide
  change algorithmFactor algorithm [] assetType = _ at hplain
  rw [algorithmFactor_own hown, hplain, KeepsFactor]
  by_cases htransition : HasAny transitionWords (normalizeAlgorithmText algorithm)
  · exact iff_of_true (factorBy_of_transition (hno _ hown) htransition) (.inl htransition)
  · rw [h htransition, or_iff_right htransition]

omit [PyBlanks] in
theorem keepsFactor_pqc {family : String} (hfamily : family ∈ pqcFamilies) {assetType : List Char} :
    algorithmFactor algorithm family.toList assetType = algorithmFactor algorithm [] assetType ↔
      KeepsFactor family.toList (normalizeAlgorithmText algorithm)
        (SignsText algorithm [] assetType) := by
  have hwords : ∀ family ∈ pqcFamilies, ∃ own ∈ [["ML-KEM"], ["ML-DSA", "DSA"], ["SLH-DSA", "DSA"]],
      (family, own) ∈ familyFactorWords := by
    decide
  obtain ⟨own, hown, hmem⟩ := hwords family hfamily
  apply keepsFactor_of_own family own hmem
  intro htransition
  rw [ReadsAlike, if_pos (List.mem_map_of_mem hfamily)]
  exact factorBy_pqc_iff hown htransition

omit [PyBlanks] in
/-- The families that no test of the factor reads, or that it reads last. -/
theorem keepsFactor_last (family : String) (own : List String)
    (hown : (family, own) ∈ familyFactorWords)
    (hfamily : family ∈ ["RSA", "HMAC", "AES", "ChaCha20", ""]) {assetType : List Char}
    (heq : ¬ HasAny transitionWords (normalizeAlgorithmText algorithm) →
      factorBy own (normalizeAlgorithmText algorithm) (SignsText algorithm [] assetType) =
        factorBy [] (normalizeAlgorithmText algorithm) (SignsText algorithm [] assetType)) :
    algorithmFactor algorithm family.toList assetType = algorithmFactor algorithm [] assetType ↔
      KeepsFactor family.toList (normalizeAlgorithmText algorithm)
        (SignsText algorithm [] assetType) := by
  have hother : ∀ family ∈ ["RSA", "HMAC", "AES", "ChaCha20", ""],
      family.toList ∉ pqcFamilies.map String.toList ∧ family.toList ≠ "ECDSA".toList ∧
        family.toList ≠ "EdDSA".toList ∧ family.toList ≠ "DH".toList ∧
        family.toList ≠ "ECDH".toList := by
    decide
  obtain ⟨hpqc, hecdsa, heddsa, hdh, hecdh⟩ := hother family hfamily
  apply keepsFactor_of_own family own hown
  intro htransition
  rw [ReadsAlike, if_neg hpqc, if_neg hecdsa, if_neg heddsa, if_neg hdh, if_neg hecdh]
  exact iff_of_true (heq htransition) trivial

/-- **When the derived family keeps the factor of a recognised name.** -/
theorem derivedFamily_keeps_iff (algorithm assetType : List Char)
    (h : algorithmFactor algorithm [] assetType ≠ 1 / 2) :
    algorithmFactor algorithm (familyFromAlgorithm algorithm) assetType =
        algorithmFactor algorithm [] assetType ↔
      KeepsFactor (familyFromAlgorithm algorithm) (normalizeAlgorithmText algorithm)
        (SignsText algorithm [] assetType) := by
  have hnone : ("", []) ∈ familyFactorWords := by decide
  have hplain : algorithmFactor algorithm "".toList assetType = _ := algorithmFactor_own hnone
  change algorithmFactor algorithm [] assetType = _ at hplain
  have hunknown := h
  rw [hplain] at hunknown
  have hname : ∀ {word : String}, word ∈ allFactorWords → ¬ Has word (upper algorithm) →
      ¬ Has word (normalizeAlgorithmText algorithm) :=
    fun hword hno hhas => hno ((has_name_iff hword).mp hhas)
  unfold familyFromAlgorithm
  simp only
  -- the tests follow `family_from_algorithm`, each under the failure of those before it
  by_cases h₁ : Has "ML-KEM" (upper algorithm) ∨ Has "MLKEM" (upper algorithm)
  · rw [if_pos h₁]
    exact keepsFactor_pqc (by decide)
  by_cases h₂ : Has "ML-DSA" (upper algorithm) ∨ Has "MLDSA" (upper algorithm)
  · rw [if_neg h₁, if_pos h₂]
    exact keepsFactor_pqc (by decide)
  by_cases h₃ : Has "SLH-DSA" (upper algorithm)
  · rw [if_neg h₁, if_neg h₂, if_pos h₃]
    exact keepsFactor_pqc (by decide)
  rw [if_neg h₁, if_neg h₂, if_neg h₃]
  by_cases h₄ : Has "ECDSA" (upper algorithm) ∨ Has "P-256" (upper algorithm) ∨
      Has "P-384" (upper algorithm) ∨ Has "P-521" (upper algorithm) ∨ Has "SECP" (upper algorithm)
  · rw [if_pos h₄]
    apply keepsFactor_of_own "ECDSA" ["ECDSA", "DSA"] (by decide)
    intro htransition
    rw [ReadsAlike, if_neg (by decide), if_pos rfl]
    exact factorBy_ecdsa_iff htransition
  -- from here on no curve of the ECDSA test is in the name
  have hcurve := curveClass_of_not_ecdsa h₄
  have hecdsa : ¬ Has "ECDSA" (normalizeAlgorithmText algorithm) :=
    hname (by decide) fun hhas => h₄ (.inl hhas)
  rw [if_neg h₄]
  by_cases h₅ : Has "ED25519" (upper algorithm) ∨ Has "ED448" (upper algorithm)
  · rw [if_pos h₅]
    have hwords : HasAny ["X25519", "X448", "ED25519", "ED448"]
        (normalizeAlgorithmText algorithm) := by
      rcases h₅ with h₅ | h₅
      · exact ⟨"ED25519", by decide, (has_name_iff (by decide)).mpr h₅⟩
      · exact ⟨"ED448", by decide, (has_name_iff (by decide)).mpr h₅⟩
    apply keepsFactor_of_own "EdDSA" ["DSA"] (by decide)
    intro htransition
    rw [ReadsAlike, if_neg (by decide), if_neg (by decide), if_pos rfl]
    exact factorBy_eddsa_iff htransition hecdsa hwords hcurve
  rw [if_neg h₅]
  by_cases h₆ : Has "RSA" (upper algorithm)
  · rw [if_pos h₆]
    apply keepsFactor_last "RSA" ["RSA"] (by decide) (by decide)
    intro htransition
    have hrsa : HasAny ["RSA"] (normalizeAlgorithmText algorithm) :=
      ⟨"RSA", by decide, (has_name_iff (by decide)).mpr h₆⟩
    rw [factorBy_rsa htransition, factorBy_plain htransition, if_pos (.inl hrsa)]
  rw [if_neg h₆]
  by_cases h₇ : Has "HMAC" (upper algorithm)
  · rw [if_pos h₇]
    exact keepsFactor_last "HMAC" ["HMAC"] (by decide) (by decide)
      fun htransition => factorBy_symmetric (by decide) htransition hunknown
  rw [if_neg h₇]
  by_cases h₈ : Has "MODP" (upper algorithm) ∨ Has "GROUP14" (upper algorithm) ∨
      Has "DIFFIE-HELLMAN" (upper algorithm) ∨ upper algorithm = "DH".toList
  · rw [if_pos h₈]
    apply keepsFactor_of_own "DH" ["DH"] (by decide)
    intro htransition
    rw [ReadsAlike, if_neg (by decide), if_neg (by decide), if_neg (by decide), if_pos rfl]
    exact factorBy_dh_iff htransition
  rw [if_neg h₈]
  by_cases h₉ : Has "ECDH" (upper algorithm) ∨ Has "X25519" (upper algorithm) ∨
      Has "X448" (upper algorithm) ∨ Has "CURVE25519" (upper algorithm) ∨
      Has "CURVE448" (upper algorithm) ∨ Has "ECP-" (upper algorithm)
  · rw [if_pos h₉]
    apply keepsFactor_of_own "ECDH" ["ECDH", "DH"] (by decide)
    intro htransition
    rw [ReadsAlike, if_neg (by decide), if_neg (by decide), if_neg (by decide), if_neg (by decide),
      if_pos rfl]
    exact factorBy_ecdh_iff htransition (hname (by decide) h₆) hecdsa hcurve
  rw [if_neg h₉]
  -- the symmetric families at the end bring no word that the factor asks for earlier
  by_cases haes : Has "AES" (upper algorithm)
  · rw [if_pos haes]
    exact keepsFactor_last "AES" [] (by decide) (by decide) fun _ => rfl
  rw [if_neg haes]
  by_cases hchacha : Has "CHACHA" (upper algorithm)
  · rw [if_pos hchacha]
    exact keepsFactor_last "ChaCha20" ["CHACHA20"] (by decide) (by decide)
      fun htransition => factorBy_symmetric (by decide) htransition hunknown
  · rw [if_neg hchacha]
    exact keepsFactor_last "" [] (by decide) (by decide) fun _ => rfl

end

/-- RSA with 2048 bits keeps its factor next to the family RSA. -/
theorem rsa2048_keeps : letI := asciiText
    algorithmFactor "RSA-2048".toList [] [] ≠ 1 / 2 ∧
      algorithmFactor "RSA-2048".toList (familyFromAlgorithm "RSA-2048".toList) [] =
        algorithmFactor "RSA-2048".toList [] [] := by
  let := asciiText
  have := asciiBlanks
  have hknown : algorithmFactor "RSA-2048".toList [] [] ≠ 1 / 2 := by decide +kernel
  have hkeeps : KeepsFactor (familyFromAlgorithm "RSA-2048".toList)
      (normalizeAlgorithmText "RSA-2048".toList) (SignsText "RSA-2048".toList [] []) := by
    have hfamily : familyFromAlgorithm "RSA-2048".toList = "RSA".toList := by decide +kernel
    rw [hfamily]
    refine .inr ?_
    rw [ReadsAlike, if_neg (by decide), if_neg (by decide), if_neg (by decide), if_neg (by decide),
      if_neg (by decide)]
    trivial
  exact ⟨hknown, (derivedFamily_keeps_iff "RSA-2048".toList [] hknown).mpr hkeeps⟩

/-- Next to its family `EdDSA`, `Ed25519` is scored as DSA without a size. -/
theorem ed25519_rescored : letI := asciiText
    ¬ ∀ algorithm assetType : List Char, algorithmFactor algorithm [] assetType ≠ 1 / 2 →
      algorithmFactor algorithm (familyFromAlgorithm algorithm) assetType =
        algorithmFactor algorithm [] assetType := by
  let := asciiText
  intro h
  have hknown : algorithmFactor "Ed25519".toList [] [] ≠ 1 / 2 := by decide +kernel
  have hno : algorithmFactor "Ed25519".toList (familyFromAlgorithm "Ed25519".toList) [] ≠
      algorithmFactor "Ed25519".toList [] [] := by
    decide +kernel
  exact hno (h "Ed25519".toList [] hknown)

end CryptoScanner.Scan
