import CryptoScanner.RiskEngine.KeySizes

/-!
# Spellings of an algorithm name

A respelling changes the case of letters and the separators between the tokens of a name, which are
its runs of letters, of digits and of other marks.  The factor asks for words of several tokens in
one spelling each, so a respelling can lose such a word or gain one.
-/

namespace CryptoScanner.RiskEngine

open Library Python

/-! ## 1. Respelling -/

inductive CharKind
  | separator
  | letter
  | digit
  | mark
  deriving DecidableEq, Repr

def isSeparator (c : Char) : Bool := c == '-' || c == '_' || c == ' '

section

variable [PyText]

def kindOf (c : Char) : CharKind :=
  if isSeparator c then .separator
  else if (PyText.decimal c).isSome then .digit
  else if PyText.isWord c then .letter
  else .mark

/-- The two differ in their case at most. -/
def SameLetter (c d : Char) : Prop :=
  c = d ∨ PyText.isSpace c = false ∧ PyText.isSpace d = false ∧
    PyText.upperChar c = PyText.upperChar d

/-- The second text has the tokens of the first one, in any case and with any separators between
them.  The kind is that of the token just before, if no separator of the first text has come since:
a token ends where the kind changes. -/
inductive Respelled : Option CharKind → List Char → List Char → Prop
  | nil (before : Option CharKind) : Respelled before [] []
  | token {before : Option CharKind} {kind : CharKind} {token token' text text' : List Char}
      (hne : token ≠ []) (hkind : ∀ c ∈ token, kindOf c = kind) (hseparator : kind ≠ .separator)
      (hbefore : before ≠ some kind) (hcase : List.Forall₂ SameLetter token token')
      (hrest : Respelled (some kind) text text') :
      Respelled before (token ++ text) (token' ++ text')
  | gap {before : Option CharKind} {gap gap' text text' : List Char}
      (hgap : ∀ c ∈ gap, isSeparator c = true) (hgap' : ∀ c ∈ gap', isSeparator c = true)
      (hrest : Respelled (if gap = [] then before else none) text text') :
      Respelled before (gap ++ text) (gap' ++ text')

theorem Respelled.same {before : Option CharKind} {kind : CharKind} {token text text' : List Char}
    (hne : token ≠ []) (hkind : ∀ c ∈ token, kindOf c = kind) (hseparator : kind ≠ .separator)
    (hbefore : before ≠ some kind) (hrest : Respelled (some kind) text text') :
    Respelled before (token ++ text) (token ++ text') :=
  .token hne hkind hseparator hbefore (List.forall₂_same.mpr fun _ _ => .inl rfl) hrest

end

def tokenWords : List String :=
  ["FALCON", "HYBRID", "RSA", "DSA", "ECDSA", "ECDH", "DH", "MODP", "SIGN", "HMAC", "+", "1024",
    "2048", "3072", "4096"]

/-- `kindOf` on ASCII. -/
def asciiKind (c : Char) : CharKind :=
  if isSeparator c then .separator
  else if c.isDigit then .digit
  else if isAsciiWord c then .letter
  else .mark

theorem tokenWords_kind : ∀ word ∈ tokenWords, word.toList ≠ [] ∧
    ∃ kind ∈ [CharKind.letter, .digit, .mark], ∀ c ∈ word.toList, asciiKind c = kind := by
  decide

section

variable [PyText]

theorem kindOf_ascii {c : Char} (h : isAscii c = true) : kindOf c = asciiKind c := by
  have hdecimal : (PyText.decimal c).isSome = c.isDigit := by
    rw [PyText.decimal_ascii c h]
    cases c.isDigit <;> rfl
  rw [kindOf, asciiKind, hdecimal, PyText.isWord_ascii c h]

end

theorem asciiKind_toUpper {c : Char} (h : isAscii c = true) :
    asciiKind c.toUpper = asciiKind c := by
  have hall : ∀ n < 128, asciiKind (Char.ofNat n).toUpper = asciiKind (Char.ofNat n) := by
    decide +kernel
  have hlt : c.toNat < 128 := by
    simpa only [isAscii, decide_eq_true_eq] using h
  have hc := hall c.toNat hlt
  rwa [Char.ofNat_toNat] at hc

theorem asciiKind_of_isSeparator {c : Char} (h : isSeparator c = true) :
    isAscii c = true ∧ asciiKind c = .separator := by
  have hc : c = '-' ∨ c = '_' ∨ c = ' ' := by
    simpa only [isSeparator, Bool.or_eq_true, beq_iff_eq, or_assoc] using h
  rcases hc with rfl | rfl | rfl <;> decide

section

variable [PyText] {before : Option CharKind} {kind : CharKind} {text text' : List Char}

theorem kind_of_mem_upper (hascii : ∀ c ∈ text, isAscii c = true)
    (hkind : ∀ c ∈ text, kindOf c = kind) {d : Char} (hd : d ∈ upper text) :
    asciiKind d = kind := by
  rw [upper_ascii hascii, List.mem_map] at hd
  obtain ⟨c, hc, rfl⟩ := hd
  rw [asciiKind_toUpper (hascii c hc), ← kindOf_ascii (hascii c hc), hkind c hc]

/-- Behind a token the next character is of another kind. -/
theorem Respelled.head_kind (h : Respelled (some kind) text text') (hkind : kind ≠ .separator) :
    ∀ c ∈ text.head?, kindOf c ≠ kind := by
  generalize hbefore : some kind = before at h
  induction h with
  | nil => exact fun c hc => nomatch hc
  | @token before kind' token token' text text' hne hkind' hseparator hother hcase hrest ih =>
      intro c hc
      have hmem : c ∈ token := by
        cases token with
        | nil => exact absurd rfl hne
        | cons d token =>
            cases hc
            exact List.mem_cons_self
      rw [hkind' c hmem]
      rintro rfl
      exact hother hbefore.symm
  | @gap before gap gap' text text' hgap hgap' hrest ih =>
      cases gap with
      | nil => exact ih hbefore
      | cons d gap =>
          intro c hc
          cases hc
          have hseparator := asciiKind_of_isSeparator (hgap d List.mem_cons_self)
          rw [kindOf_ascii hseparator.1, hseparator.2]
          exact hkind.symm

theorem upper_of_sameLetters {token token' : List Char}
    (h : List.Forall₂ SameLetter token token') : upper token = upper token' := by
  induction h with
  | nil => rfl
  | @cons c d token token' hsame _ ih =>
      have hc : PyText.upperChar c = PyText.upperChar d := by
        rcases hsame with rfl | ⟨-, -, h⟩
        · rfl
        · exact h
      show PyText.upperChar c ++ upper token = PyText.upperChar d ++ upper token'
      rw [hc, ih]

/-- **A respelling keeps the words of one kind.** -/
theorem Respelled.has_of_kind (h : Respelled before text text') {word : String}
    (hword : word.toList ≠ []) (hwordKind : ∀ c ∈ word.toList, asciiKind c = kind)
    (hkind : kind ≠ .separator) (hascii : ∀ c ∈ text, isAscii c = true)
    (hhas : Has word (upper text)) : Has word (upper text') := by
  induction h with
  | nil => exact hhas
  | @token before tokenKind token token' text text' hne htoken hseparator hother hcase hrest ih =>
      have hleft : ∀ c ∈ token, isAscii c = true := fun c hc => hascii c (List.mem_append_left _ hc)
      have hright : ∀ c ∈ text, isAscii c = true :=
        fun c hc => hascii c (List.mem_append_right _ hc)
      -- the word ends where the token ends, if it begins in it
      have hborder : (∀ c ∈ (upper token).getLast?, c ∉ word.toList) ∨
          ∀ c ∈ (upper text).head?, c ∉ word.toList := by
        by_cases hsame : tokenKind = kind
        · apply Or.inr
          intro c hc hmem
          rw [upper_ascii hright, List.head?_map] at hc
          obtain ⟨d, hd, rfl⟩ := Option.map_eq_some_iff.mp hc
          have hdKind := hrest.head_kind hseparator d hd
          have hdAscii := hright d (List.mem_of_mem_head? hd)
          rw [kindOf_ascii hdAscii, ← asciiKind_toUpper hdAscii, hwordKind _ hmem] at hdKind
          exact hdKind hsame.symm
        · apply Or.inl
          intro c hc hmem
          have hcKind := kind_of_mem_upper hleft htoken (List.mem_of_mem_getLast? hc)
          rw [hwordKind c hmem] at hcKind
          exact hsame hcKind.symm
      rw [upper_append, Has, infix_append_of_border hborder hword] at hhas
      rw [upper_append, ← upper_of_sameLetters hcase]
      rcases hhas with h | h
      · exact h.trans (List.prefix_append _ _).isInfix
      · exact (ih hright h).trans (List.suffix_append _ _).isInfix
  | @gap before gap gap' text text' hgap hgap' hrest ih =>
      have hright : ∀ c ∈ text, isAscii c = true :=
        fun c hc => hascii c (List.mem_append_right _ hc)
      -- the word has no separator, so it lies behind the gap
      have hnot : ∀ c ∈ upper gap, c ∉ word.toList := by
        intro c hc hmem
        have hgapAscii : ∀ d ∈ gap, isAscii d = true ∧ kindOf d = .separator := by
          intro d hd
          have hseparator := asciiKind_of_isSeparator (hgap d hd)
          rw [kindOf_ascii hseparator.1]
          exact hseparator
        have hcKind := kind_of_mem_upper (fun d hd => (hgapAscii d hd).1)
          (fun d hd => (hgapAscii d hd).2) hc
        rw [hwordKind c hmem] at hcKind
        exact hkind hcKind
      rw [upper_append, Has, infix_append_of_border
        (.inl fun c hc => hnot c (List.mem_of_mem_getLast? hc)) hword] at hhas
      rw [upper_append]
      rcases hhas with h | h
      · obtain ⟨c, hc⟩ := List.exists_mem_of_ne_nil _ hword
        exact absurd hc (hnot c (h.subset hc))
      · exact (ih hright h).trans (List.suffix_append _ _).isInfix

end

/-! ## 2. The names of a factor -/

section

variable [PyText]

inductive FactorClass
  | postQuantum
  | symmetric
  | hybrid
  | unknown
  | large
  | medium
  | standard
  | broken
  deriving DecidableEq, Repr

def FactorClass.value : FactorClass → ℚ
  | .postQuantum => 0
  | .symmetric => 1 / 20
  | .hybrid => 1 / 10
  | .unknown => 1 / 2
  | .large => 17 / 20
  | .medium => 9 / 10
  | .standard => 19 / 20
  | .broken => 1

omit [PyText] in
theorem FactorClass.value_injective {cls cls' : FactorClass} (h : cls.value = cls'.value) :
    cls = cls' := by
  cases cls <;> cases cls' <;> first | rfl | exact absurd h (by decide +kernel)

/-- Neither a post-quantum or hybrid word nor one of a public-key algorithm. -/
def NamesNoPublicKey (algorithm algorithmFamily : List Char) : Prop :=
  ¬ NamesAny algorithm algorithmFamily transitionWords ∧
    ¬ NamesAny algorithm algorithmFamily classicalWords

/-- The words that put a name into a class. -/
def InClass (algorithm algorithmFamily assetType : List Char) : FactorClass → Prop
  | .postQuantum => NamesAny algorithm algorithmFamily pqcWords ∧
      ¬ NamesAny algorithm algorithmFamily ["+", "HYBRID"]
  | .hybrid => NamesAny algorithm algorithmFamily pqcWords ∧
        NamesAny algorithm algorithmFamily ["+", "HYBRID"] ∨
      Names algorithm algorithmFamily "HYBRID" ∨
      NamesNoPublicKey algorithm algorithmFamily ∧
        ¬ NamesAny algorithm algorithmFamily sha1Words ∧
        ¬ NamesAny algorithm algorithmFamily ["SHA-256", "SHA-384", "SHA-512", "SHA2"] ∧
        Names algorithm algorithmFamily "AES-128"
  | .symmetric => NamesNoPublicKey algorithm algorithmFamily ∧
      ¬ NamesAny algorithm algorithmFamily sha1Words ∧
      (NamesAny algorithm algorithmFamily ["SHA-256", "SHA-384", "SHA-512", "SHA2"] ∨
        ¬ Names algorithm algorithmFamily "AES-128" ∧
          NamesAny algorithm algorithmFamily ["AES-192", "AES-256", "CHACHA20", "HMAC"])
  | .unknown => NamesNoPublicKey algorithm algorithmFamily ∧
      (NamesAny algorithm algorithmFamily sha1Words ∧
          ¬ SignsText algorithm algorithmFamily assetType ∨
        ¬ NamesAny algorithm algorithmFamily sha1Words ∧
          ¬ NamesAny algorithm algorithmFamily symmetricWords)
  | .broken => ¬ NamesAny algorithm algorithmFamily transitionWords ∧
      (ScoredBySize algorithm algorithmFamily ∧ Has "1024" (normalizeAlgorithmText algorithm) ∨
        ¬ NamesAny algorithm algorithmFamily classicalWords ∧
          NamesAny algorithm algorithmFamily sha1Words ∧
          SignsText algorithm algorithmFamily assetType)
  | .standard => ¬ NamesAny algorithm algorithmFamily transitionWords ∧
      (ScoredBySize algorithm algorithmFamily ∧ ¬ Has "1024" (normalizeAlgorithmText algorithm) ∧
          (Has "2048" (normalizeAlgorithmText algorithm) ∨
            ¬ HasAny ["3072", "4096"] (normalizeAlgorithmText algorithm)) ∨
        ¬ ScoredBySize algorithm algorithmFamily ∧
          NamesAny algorithm algorithmFamily ["ECDSA", "ECDH"] ∧
          NamesAny algorithm algorithmFamily ["P-256", "SECP256"])
  | .medium => ¬ NamesAny algorithm algorithmFamily transitionWords ∧
      (ScoredBySize algorithm algorithmFamily ∧
          ¬ HasAny ["1024", "2048"] (normalizeAlgorithmText algorithm) ∧
          Has "3072" (normalizeAlgorithmText algorithm) ∨
        ¬ ScoredBySize algorithm algorithmFamily ∧
          NamesAny algorithm algorithmFamily ["ECDSA", "ECDH"] ∧
          ¬ NamesAny algorithm algorithmFamily ["P-256", "SECP256"] ∧
          (NamesAny algorithm algorithmFamily ["P-384", "SECP384"] ∨
            ¬ NamesAny algorithm algorithmFamily ["P-521", "SECP521"]) ∨
        ¬ ScoredBySize algorithm algorithmFamily ∧
          ¬ NamesAny algorithm algorithmFamily ["ECDSA", "ECDH"] ∧
          NamesAny algorithm algorithmFamily curveWords)
  | .large => ¬ NamesAny algorithm algorithmFamily transitionWords ∧
      (ScoredBySize algorithm algorithmFamily ∧
          ¬ HasAny ["1024", "2048", "3072"] (normalizeAlgorithmText algorithm) ∧
          Has "4096" (normalizeAlgorithmText algorithm) ∨
        ¬ ScoredBySize algorithm algorithmFamily ∧
          NamesAny algorithm algorithmFamily ["ECDSA", "ECDH"] ∧
          ¬ NamesAny algorithm algorithmFamily ["P-256", "SECP256", "P-384", "SECP384"] ∧
          NamesAny algorithm algorithmFamily ["P-521", "SECP521"])

instance (algorithm algorithmFamily assetType : List Char) :
    (cls : FactorClass) → Decidable (InClass algorithm algorithmFamily assetType cls)
  | .postQuantum => inferInstanceAs (Decidable (_ ∧ ¬ _))
  | .hybrid => inferInstanceAs (Decidable (_ ∧ _ ∨ _ ∨ (¬ _ ∧ ¬ _) ∧ ¬ _ ∧ ¬ _ ∧ _))
  | .symmetric => inferInstanceAs (Decidable ((¬ _ ∧ ¬ _) ∧ ¬ _ ∧ (_ ∨ ¬ _ ∧ _)))
  | .unknown => inferInstanceAs (Decidable ((¬ _ ∧ ¬ _) ∧ (_ ∧ ¬ _ ∨ ¬ _ ∧ ¬ _)))
  | .broken => inferInstanceAs (Decidable (¬ _ ∧ (_ ∧ _ ∨ ¬ _ ∧ _ ∧ _)))
  | .standard => inferInstanceAs (Decidable (¬ _ ∧ (_ ∧ ¬ _ ∧ (_ ∨ ¬ _) ∨ ¬ _ ∧ _ ∧ _)))
  | .medium => inferInstanceAs
      (Decidable (¬ _ ∧ (_ ∧ ¬ _ ∧ _ ∨ ¬ _ ∧ _ ∧ ¬ _ ∧ (_ ∨ ¬ _) ∨ ¬ _ ∧ ¬ _ ∧ _)))
  | .large => inferInstanceAs (Decidable (¬ _ ∧ (_ ∧ ¬ _ ∧ _ ∨ ¬ _ ∧ _ ∧ ¬ _ ∧ _)))

section

variable {algorithm algorithmFamily assetType : List Char}

theorem namesAny_curveWords (h : NamesAny algorithm algorithmFamily ["ECDSA", "ECDH"]) :
    NamesAny algorithm algorithmFamily curveWords := by
  simp only [curveWords, namesAny_cons, not_namesAny_nil, or_false] at h ⊢
  grind

theorem algorithmFactor_of_curve
    (htransition : ¬ NamesAny algorithm algorithmFamily transitionWords)
    (hsize : ¬ ScoredBySize algorithm algorithmFamily)
    (h : NamesAny algorithm algorithmFamily ["ECDSA", "ECDH"]) :
    algorithmFactor algorithm algorithmFamily assetType =
      if NamesAny algorithm algorithmFamily ["P-256", "SECP256"] then 19 / 20
      else if NamesAny algorithm algorithmFamily ["P-384", "SECP384"] then 9 / 10
      else if NamesAny algorithm algorithmFamily ["P-521", "SECP521"] then 17 / 20
      else 9 / 10 := by
  rw [namesAny_transitionWords, not_or] at htransition
  rw [algorithmFactor_eq, if_neg htransition.1, if_neg htransition.2, if_neg hsize, if_pos h]

theorem algorithmFactor_of_noPublicKey (h : NamesNoPublicKey algorithm algorithmFamily) :
    algorithmFactor algorithm algorithmFamily assetType =
      if NamesAny algorithm algorithmFamily sha1Words then
        if SignsText algorithm algorithmFamily assetType then 1 else 1 / 2
      else if NamesAny algorithm algorithmFamily ["SHA-256", "SHA-384", "SHA-512", "SHA2"] then
        1 / 20
      else if Names algorithm algorithmFamily "AES-128" then 1 / 10
      else if NamesAny algorithm algorithmFamily ["AES-192", "AES-256", "CHACHA20", "HMAC"] then
        1 / 20
      else 1 / 2 := by
  obtain ⟨htransition, hclassical⟩ := h
  rw [namesAny_transitionWords, not_or] at htransition
  -- the tests before that for SHA-1 ask for words that the name does not have
  rw [namesAny_classicalWords, not_or] at hclassical
  rw [algorithmFactor_eq, if_neg htransition.1, if_neg htransition.2, if_neg hclassical.1,
    if_neg (mt namesAny_curveWords hclassical.2), if_neg hclassical.2]

theorem namesAny_symmetricWords_iff : NamesAny algorithm algorithmFamily symmetricWords ↔
    NamesAny algorithm algorithmFamily ["SHA-256", "SHA-384", "SHA-512", "SHA2"] ∨
      Names algorithm algorithmFamily "AES-128" ∨
      NamesAny algorithm algorithmFamily ["AES-192", "AES-256", "CHACHA20", "HMAC"] := by
  simp only [symmetricWords, namesAny_cons, not_namesAny_nil, or_false, or_assoc]

theorem algorithmFactor_of_inClass {cls : FactorClass}
    (h : InClass algorithm algorithmFamily assetType cls) :
    algorithmFactor algorithm algorithmFamily assetType = cls.value := by
  -- a class lists the tests of the code that fail before the one that gives its value
  cases cls with
  | postQuantum =>
      rw [algorithmFactor_eq, if_pos h.1, if_neg h.2]
      rfl
  | hybrid =>
      rcases h with ⟨hpqc, hplus⟩ | hhybrid | ⟨hnone, hsha1, hhash, haes⟩
      · rw [algorithmFactor_eq, if_pos hpqc, if_pos hplus]
        rfl
      · have hplus : NamesAny algorithm algorithmFamily ["+", "HYBRID"] :=
          ⟨"HYBRID", by decide, hhybrid⟩
        rw [algorithmFactor_eq, if_pos hplus, if_pos hhybrid]
        exact ite_self _
      · rw [algorithmFactor_of_noPublicKey hnone, if_neg hsha1, if_neg hhash, if_pos haes]
        rfl
  | symmetric =>
      obtain ⟨hnone, hsha1, hwords⟩ := h
      rw [algorithmFactor_of_noPublicKey hnone, if_neg hsha1]
      rcases hwords with hhash | ⟨haes, hcipher⟩
      · rw [if_pos hhash]
        rfl
      · rw [if_neg haes, if_pos hcipher]
        exact ite_self _
  | unknown =>
      obtain ⟨hnone, hwords⟩ := h
      rw [algorithmFactor_of_noPublicKey hnone]
      rcases hwords with ⟨hsha1, hsigns⟩ | ⟨hsha1, hsymmetric⟩
      · rw [if_pos hsha1, if_neg hsigns]
        rfl
      · rw [namesAny_symmetricWords_iff, not_or, not_or] at hsymmetric
        rw [if_neg hsha1, if_neg hsymmetric.1, if_neg hsymmetric.2.1, if_neg hsymmetric.2.2]
        rfl
  | broken =>
      obtain ⟨htransition, ⟨hsize, h1024⟩ | ⟨hclassical, hsha1, hsigns⟩⟩ := h
      · rw [algorithmFactor_of_size htransition hsize, sizedFactor_eq, if_pos h1024]
        rfl
      · rw [algorithmFactor_of_noPublicKey ⟨htransition, hclassical⟩, if_pos hsha1, if_pos hsigns]
        rfl
  | standard =>
      obtain ⟨htransition, ⟨hsize, h1024, hother⟩ | ⟨hsize, hcurve, hp256⟩⟩ := h
      · rw [algorithmFactor_of_size htransition hsize, sizedFactor_eq, if_neg h1024]
        simp only [hasAny_cons, not_hasAny_nil, or_false, not_or] at hother
        rcases hother with h2048 | ⟨h3072, h4096⟩
        · rw [if_pos h2048]
          rfl
        · rw [if_neg h3072, if_neg h4096]
          -- no size that is known and 2048 bits give one factor
          exact ite_self _
      · rw [algorithmFactor_of_curve htransition hsize hcurve, if_pos hp256]
        rfl
  | medium =>
      obtain ⟨htransition, ⟨hsize, hsmaller, h3072⟩ | ⟨hsize, hcurve, hp256, hother⟩ |
        ⟨hsize, hcurve, hother⟩⟩ := h
      · simp only [hasAny_cons, not_hasAny_nil, or_false, not_or] at hsmaller
        rw [algorithmFactor_of_size htransition hsize, sizedFactor_eq, if_neg hsmaller.1,
          if_neg hsmaller.2, if_pos h3072]
        rfl
      · rw [algorithmFactor_of_curve htransition hsize hcurve, if_neg hp256]
        rcases hother with hp384 | hp521
        · rw [if_pos hp384]
          rfl
        · rw [if_neg hp521]
          exact ite_self _
      · rw [namesAny_transitionWords, not_or] at htransition
        rw [algorithmFactor_eq, if_neg htransition.1, if_neg htransition.2, if_neg hsize,
          if_neg hcurve, if_pos hother]
        rfl
  | large =>
      obtain ⟨htransition, ⟨hsize, hsmaller, h4096⟩ | ⟨hsize, hcurve, hsmaller, hp521⟩⟩ := h
      · simp only [hasAny_cons, not_hasAny_nil, or_false, not_or] at hsmaller
        rw [algorithmFactor_of_size htransition hsize, sizedFactor_eq, if_neg hsmaller.1,
          if_neg hsmaller.2.1, if_neg hsmaller.2.2, if_pos h4096]
        rfl
      · have hsplit : ["P-256", "SECP256", "P-384", "SECP384"] =
            ["P-256", "SECP256"] ++ ["P-384", "SECP384"] := rfl
        rw [hsplit, namesAny_append, not_or] at hsmaller
        rw [algorithmFactor_of_curve htransition hsize hcurve, if_neg hsmaller.1,
          if_neg hsmaller.2, if_pos hp521]
        rfl

theorem inClass_of_size (htransition : ¬ NamesAny algorithm algorithmFamily transitionWords)
    (hsize : ScoredBySize algorithm algorithmFamily) :
    ∃ cls, InClass algorithm algorithmFamily assetType cls := by
  by_cases h1024 : Has "1024" (normalizeAlgorithmText algorithm)
  · exact ⟨.broken, htransition, .inl ⟨hsize, h1024⟩⟩
  by_cases h2048 : Has "2048" (normalizeAlgorithmText algorithm)
  · exact ⟨.standard, htransition, .inl ⟨hsize, h1024, .inl h2048⟩⟩
  by_cases h3072 : Has "3072" (normalizeAlgorithmText algorithm)
  · have hsmaller : ¬ HasAny ["1024", "2048"] (normalizeAlgorithmText algorithm) := by
      simp only [hasAny_cons, not_hasAny_nil, h1024, h2048, or_self, not_false_eq_true]
    exact ⟨.medium, htransition, .inl ⟨hsize, hsmaller, h3072⟩⟩
  by_cases h4096 : Has "4096" (normalizeAlgorithmText algorithm)
  · have hsmaller : ¬ HasAny ["1024", "2048", "3072"] (normalizeAlgorithmText algorithm) := by
      simp only [hasAny_cons, not_hasAny_nil, h1024, h2048, h3072, or_self, not_false_eq_true]
    exact ⟨.large, htransition, .inl ⟨hsize, hsmaller, h4096⟩⟩
  · have hnone : ¬ HasAny ["3072", "4096"] (normalizeAlgorithmText algorithm) := by
      simp only [hasAny_cons, not_hasAny_nil, h3072, h4096, or_self, not_false_eq_true]
    exact ⟨.standard, htransition, .inl ⟨hsize, h1024, .inr hnone⟩⟩

theorem inClass_of_curve (htransition : ¬ NamesAny algorithm algorithmFamily transitionWords)
    (hsize : ¬ ScoredBySize algorithm algorithmFamily)
    (hcurve : NamesAny algorithm algorithmFamily ["ECDSA", "ECDH"]) :
    ∃ cls, InClass algorithm algorithmFamily assetType cls := by
  by_cases hp256 : NamesAny algorithm algorithmFamily ["P-256", "SECP256"]
  · exact ⟨.standard, htransition, .inr ⟨hsize, hcurve, hp256⟩⟩
  by_cases hp384 : NamesAny algorithm algorithmFamily ["P-384", "SECP384"]
  · exact ⟨.medium, htransition, .inr (.inl ⟨hsize, hcurve, hp256, .inl hp384⟩)⟩
  by_cases hp521 : NamesAny algorithm algorithmFamily ["P-521", "SECP521"]
  · have hsplit : ["P-256", "SECP256", "P-384", "SECP384"] =
        ["P-256", "SECP256"] ++ ["P-384", "SECP384"] := rfl
    have hsmaller : ¬ NamesAny algorithm algorithmFamily
        ["P-256", "SECP256", "P-384", "SECP384"] := by
      rw [hsplit, namesAny_append]
      exact not_or.mpr ⟨hp256, hp384⟩
    exact ⟨.large, htransition, .inr ⟨hsize, hcurve, hsmaller, hp521⟩⟩
  · exact ⟨.medium, htransition, .inr (.inl ⟨hsize, hcurve, hp256, .inr hp521⟩)⟩

theorem exists_inClass (algorithm algorithmFamily assetType : List Char) :
    ∃ cls, InClass algorithm algorithmFamily assetType cls := by
  by_cases hpqc : NamesAny algorithm algorithmFamily pqcWords
  · by_cases hplus : NamesAny algorithm algorithmFamily ["+", "HYBRID"]
    · exact ⟨.hybrid, .inl ⟨hpqc, hplus⟩⟩
    · exact ⟨.postQuantum, hpqc, hplus⟩
  by_cases hhybrid : Names algorithm algorithmFamily "HYBRID"
  · exact ⟨.hybrid, .inr (.inl hhybrid)⟩
  have htransition : ¬ NamesAny algorithm algorithmFamily transitionWords := by
    rw [namesAny_transitionWords]
    exact not_or.mpr ⟨hpqc, hhybrid⟩
  by_cases hsize : ScoredBySize algorithm algorithmFamily
  · exact inClass_of_size htransition hsize
  by_cases hcurve : NamesAny algorithm algorithmFamily ["ECDSA", "ECDH"]
  · exact inClass_of_curve htransition hsize hcurve
  by_cases hother : NamesAny algorithm algorithmFamily curveWords
  · exact ⟨.medium, htransition, .inr (.inr ⟨hsize, hcurve, hother⟩)⟩
  have hclassical : ¬ NamesAny algorithm algorithmFamily classicalWords := by
    rw [namesAny_classicalWords]
    exact not_or.mpr ⟨hsize, hother⟩
  have hnone : NamesNoPublicKey algorithm algorithmFamily := ⟨htransition, hclassical⟩
  -- what is left are hashes and ciphers
  by_cases hsha1 : NamesAny algorithm algorithmFamily sha1Words
  · by_cases hsigns : SignsText algorithm algorithmFamily assetType
    · exact ⟨.broken, htransition, .inr ⟨hclassical, hsha1, hsigns⟩⟩
    · exact ⟨.unknown, hnone, .inl ⟨hsha1, hsigns⟩⟩
  by_cases hhash : NamesAny algorithm algorithmFamily ["SHA-256", "SHA-384", "SHA-512", "SHA2"]
  · exact ⟨.symmetric, hnone, hsha1, .inl hhash⟩
  by_cases haes : Names algorithm algorithmFamily "AES-128"
  · exact ⟨.hybrid, .inr (.inr ⟨hnone, hsha1, hhash, haes⟩)⟩
  by_cases hcipher : NamesAny algorithm algorithmFamily ["AES-192", "AES-256", "CHACHA20", "HMAC"]
  · exact ⟨.symmetric, hnone, hsha1, .inr ⟨haes, hcipher⟩⟩
  · have hsymmetric : ¬ NamesAny algorithm algorithmFamily symmetricWords := by
      rw [namesAny_symmetricWords_iff]
      exact not_or.mpr ⟨hhash, not_or.mpr ⟨haes, hcipher⟩⟩
    exact ⟨.unknown, hnone, .inr ⟨hsha1, hsymmetric⟩⟩

/-- Two names have one factor exactly if they are in one class. -/
theorem algorithmFactor_eq_iff_inClass {algorithm' : List Char} :
    algorithmFactor algorithm' algorithmFamily assetType =
        algorithmFactor algorithm algorithmFamily assetType ↔
      ∃ cls, InClass algorithm algorithmFamily assetType cls ∧
        InClass algorithm' algorithmFamily assetType cls := by
  constructor
  · intro heq
    obtain ⟨cls, hcls⟩ := exists_inClass algorithm algorithmFamily assetType
    obtain ⟨cls', hcls'⟩ := exists_inClass algorithm' algorithmFamily assetType
    rw [algorithmFactor_of_inClass hcls, algorithmFactor_of_inClass hcls'] at heq
    exact ⟨cls, hcls, FactorClass.value_injective heq ▸ hcls'⟩
  · rintro ⟨cls, hcls, hcls'⟩
    rw [algorithmFactor_of_inClass hcls, algorithmFactor_of_inClass hcls']

end

/-! ## 3. The factor of a respelling -/

/-- **When a respelling keeps the factor.**  A respelling of an ASCII name keeps the words of one
token, and the factor of any name is kept exactly if the words of the two spellings put them into
one class.  White space at the ends is cut off before. -/
theorem respelled_sameFactor_iff {name name' : List Char} (algorithmFamily assetType : List Char)
    (h : Respelled none (strip name) (strip name')) :
    ((∀ c ∈ strip name, isAscii c = true) → ∀ word ∈ tokenWords,
        Names name algorithmFamily word → Names name' algorithmFamily word) ∧
      (algorithmFactor name' algorithmFamily assetType =
          algorithmFactor name algorithmFamily assetType ↔
        ∃ cls, InClass name algorithmFamily assetType cls ∧
          InClass name' algorithmFamily assetType cls) := by
  refine ⟨?_, algorithmFactor_eq_iff_inClass⟩
  intro hascii word hword hnames
  obtain ⟨hne, kind, hkind, hwordKind⟩ := tokenWords_kind word hword
  have hseparator : kind ≠ .separator := by
    rintro rfl
    exact absurd hkind (by decide)
  exact hnames.imp id fun hhas => h.has_of_kind hne hwordKind hseparator hascii hhas

end

/-- RSA with 2048 bits is scored alike with a hyphen and with an underscore. -/
theorem rsa2048_respelled : letI := asciiText
    algorithmFactor "RSA_2048".toList [] [] = algorithmFactor "RSA-2048".toList [] [] := by
  let := asciiText
  have hsize : Respelled none ("2048".toList ++ []) ("2048".toList ++ []) :=
    @Respelled.same _ _ .digit _ _ _ (by decide) (by decide) (by decide) (by decide) (.nil _)
  have hgap : Respelled (some .letter) ("-".toList ++ ("2048".toList ++ []))
      ("_".toList ++ ("2048".toList ++ [])) :=
    .gap (by decide) (by decide) hsize
  have hname : Respelled none ("RSA".toList ++ ("-".toList ++ ("2048".toList ++ [])))
      ("RSA".toList ++ ("_".toList ++ ("2048".toList ++ []))) :=
    .same (by decide) (by decide) (by decide) (by decide) hgap
  have hrespelled : Respelled none (strip "RSA-2048".toList) (strip "RSA_2048".toList) := hname
  exact (respelled_sameFactor_iff [] [] hrespelled).2.mpr
    ⟨.standard, by decide +kernel, by decide +kernel⟩

/-- The scanners write a curve with and without a hyphen before its size, and the factor of ECDSA
over P-256 differs. -/
theorem ecdsaP256_respelled : letI := asciiText
    ¬ ∀ name name' algorithmFamily assetType : List Char,
      Respelled none (strip name) (strip name') →
        algorithmFactor name' algorithmFamily assetType =
          algorithmFactor name algorithmFamily assetType := by
  let := asciiText
  intro h
  have hsize : Respelled (some .letter) ([] ++ ("256".toList ++ []))
      ("-".toList ++ ("256".toList ++ [])) :=
    .gap (by decide) (by decide) <|
      @Respelled.same _ _ .digit _ _ _ (by decide) (by decide) (by decide) (by decide) (.nil _)
  have hcurve : Respelled (some .letter)
      ("-".toList ++ ("P".toList ++ ([] ++ ("256".toList ++ []))))
      ("-".toList ++ ("P".toList ++ ("-".toList ++ ("256".toList ++ [])))) :=
    .gap (by decide) (by decide) <| .same (by decide) (by decide) (by decide) (by decide) hsize
  have hname : Respelled none
      ("ECDSA".toList ++ ("-".toList ++ ("P".toList ++ ([] ++ ("256".toList ++ [])))))
      ("ECDSA".toList ++ ("-".toList ++ ("P".toList ++ ("-".toList ++ ("256".toList ++ []))))) :=
    .same (by decide) (by decide) (by decide) (by decide) hcurve
  have hfactor := h "ECDSA-P256".toList "ECDSA-P-256".toList [] [] hname
  exact absurd hfactor (by decide +kernel)

end CryptoScanner.RiskEngine
