import Mathlib.Data.List.Infix
import CryptoScanner.Library.Trim

/-!
# Python text operations

A Python string is a list of code points.  What the interpreter takes from the Unicode database
(case mappings, white space, word characters, printability) is the class `PyText`; its laws fix the
ASCII part, which the documentation of `str` fixes, and leave the rest to the interpreter's tables.
-/

namespace CryptoScanner.Python

-- A statement about the characters of a text is decided along the text, not over all characters.
instance (priority := 2000) decidableAll (p : Char → Prop) [DecidablePred p] (text : List Char) :
    Decidable (∀ c ∈ text, p c) :=
  List.decidableBAll p text

instance (priority := 2000) decidableAny (p : Char → Prop) [DecidablePred p] (text : List Char) :
    Decidable (∃ c ∈ text, p c) :=
  List.decidableBEx p text

instance (priority := 2000) decidableAllOption (p : Char → Prop) [DecidablePred p] :
    (c? : Option Char) → Decidable (∀ c ∈ c?, p c)
  | none => isTrue fun _ h => nomatch h
  | some c => decidable_of_iff (p c) (by simp)

instance lawfulBEqText : LawfulBEq (List Char) := List.instLawfulBEq

/-- `c` is one of the first 128 code points. -/
def isAscii (c : Char) : Bool := c.toNat < 128

/-- ASCII white space in the sense of `str.isspace`: the blank, the controls from tab to carriage
return and the four separators from file to unit separator. -/
def isAsciiSpace (c : Char) : Bool :=
  c == ' ' || (9 ≤ c.toNat && c.toNat ≤ 13) || (28 ≤ c.toNat && c.toNat ≤ 31)

/-- `\w` on ASCII. -/
def isAsciiWord (c : Char) : Bool := c.isAlphanum || c == '_'

class PyText where
  /-- The full upper-case mapping of one code point, which may be longer than one. -/
  upperChar : Char → List Char
  /-- `str.lower`, on whole strings because of the final sigma. -/
  lowerText : List Char → List Char
  /-- The full case folding of one code point. -/
  casefoldChar : Char → List Char
  /-- The value of a decimal digit of any script. -/
  decimal : Char → Option Nat
  isSpace : Char → Bool
  isWord : Char → Bool
  isPrintable : Char → Bool
  upperChar_ascii : ∀ c, isAscii c = true → upperChar c = [c.toUpper]
  lowerText_ascii : ∀ s, (∀ c ∈ s, isAscii c = true) → lowerText s = s.map Char.toLower
  casefoldChar_ascii : ∀ c, isAscii c = true → casefoldChar c = [c.toLower]
  decimal_ascii : ∀ c, isAscii c = true →
    decimal c = if c.isDigit then some (c.toNat - '0'.toNat) else none
  decimal_lt : ∀ c d, decimal c = some d → d < 10
  isSpace_ascii : ∀ c, isAscii c = true → isSpace c = isAsciiSpace c
  isWord_ascii : ∀ c, isAscii c = true → isWord c = isAsciiWord c
  isWord_of_isSpace : ∀ c, isSpace c = true → isWord c = false
  isPrintable_ascii : ∀ c, isAscii c = true → isPrintable c = (32 ≤ c.toNat && c.toNat < 127)

theorem toNat_of_isAlphanum {c : Char} (h : c.isAlphanum = true) :
    (65 ≤ c.toNat ∧ c.toNat ≤ 90 ∨ 97 ≤ c.toNat ∧ c.toNat ≤ 122) ∨
      48 ≤ c.toNat ∧ c.toNat ≤ 57 := by
  delta Char.isAlphanum Char.isAlpha Char.isUpper Char.isLower Char.isDigit at h
  simp only [Bool.or_eq_true, Bool.and_eq_true, decide_eq_true_eq, UInt32.le_iff_toNat_le,
    ge_iff_le] at h
  exact h

theorem lt_toNat_of_isAsciiWord {c : Char} (h : isAsciiWord c = true) : 32 < c.toNat := by
  rw [isAsciiWord, Bool.or_eq_true, beq_iff_eq] at h
  rcases h with h | rfl
  · have hbounds := toNat_of_isAlphanum h
    omega
  · decide

theorem toNat_le_of_isAsciiSpace {c : Char} (h : isAsciiSpace c = true) : c.toNat ≤ 32 := by
  simp only [isAsciiSpace, Bool.or_eq_true, beq_iff_eq, Bool.and_eq_true, decide_eq_true_eq] at h
  rcases h with (rfl | h) | h
  · decide
  · omega
  · omega

theorem toUpper_toUpper (c : Char) : c.toUpper.toUpper = c.toUpper := by
  have hletters : ∀ n < 26,
      (Char.ofNat (97 + n)).toUpper.toUpper = (Char.ofNat (97 + n)).toUpper := by
    decide
  by_cases hlower : 97 ≤ c.toNat ∧ c.toNat ≤ 122
  · have hc : c = Char.ofNat (97 + (c.toNat - 97)) := by
      rw [Nat.add_sub_cancel' hlower.1, Char.ofNat_toNat]
    rw [hc]
    exact hletters (c.toNat - 97) (by omega)
  · -- beyond the small letters nothing changes
    have hsame : c.toUpper = c := by
      unfold Char.toUpper
      apply dif_neg
      rw [UInt32.le_iff_toNat_le, UInt32.le_iff_toNat_le]
      exact hlower
    rw [hsame, hsame]

theorem toUpper_of_lt {c : Char} (h : c.toNat < 97) : c.toUpper = c := by
  have hlower : ¬ ('a'.val ≤ c.val ∧ c.val ≤ 'z'.val) := by
    rw [UInt32.le_iff_toNat_le]
    show ¬ (97 ≤ c.toNat ∧ _)
    omega
  unfold Char.toUpper
  exact dif_neg hlower

theorem isAsciiWord_of_isAsciiSpace {c : Char} (h : isAsciiSpace c = true) :
    isAsciiWord c = false := by
  cases hw : isAsciiWord c with
  | false => rfl
  | true =>
      have hlow := toNat_le_of_isAsciiSpace h
      have hhigh := lt_toNat_of_isAsciiWord hw
      omega

/-- The tables of an interpreter that knows no character beyond ASCII. -/
@[reducible] def asciiText : PyText where
  upperChar c := [c.toUpper]
  lowerText s := s.map Char.toLower
  casefoldChar c := [c.toLower]
  decimal c := if c.isDigit then some (c.toNat - '0'.toNat) else none
  isSpace := isAsciiSpace
  isWord := isAsciiWord
  isPrintable c := if isAscii c then 32 ≤ c.toNat && c.toNat < 127 else true
  upperChar_ascii _ _ := rfl
  lowerText_ascii _ _ := rfl
  casefoldChar_ascii _ _ := rfl
  decimal_ascii _ _ := rfl
  decimal_lt c d h := by
    split at h
    · rename_i hdigit
      have hbounds : 48 ≤ c.toNat ∧ c.toNat ≤ 57 := by
        simpa [Char.isDigit, UInt32.le_iff_toNat_le] using hdigit
      have hd := Option.some.inj h
      change c.toNat - 48 = d at hd
      omega
    · cases h
  isSpace_ascii _ _ := rfl
  isWord_ascii _ _ := rfl
  isWord_of_isSpace _ h := isAsciiWord_of_isAsciiSpace h
  isPrintable_ascii c h := by rw [if_pos h]

variable [PyText]

def upper (s : List Char) : List Char := s.flatMap PyText.upperChar

def lower (s : List Char) : List Char := PyText.lowerText s

def casefold (s : List Char) : List Char := s.flatMap PyText.casefoldChar

def lstrip (s : List Char) : List Char := s.dropWhile PyText.isSpace

def rstrip (s : List Char) : List Char := s.rdropWhile PyText.isSpace

def strip (s : List Char) : List Char := rstrip (lstrip s)

omit [PyText] in
def Has (w : String) (s : List Char) : Prop := w.toList <:+: s

instance (w : String) (s : List Char) : Decidable (Has w s) :=
  inferInstanceAs (Decidable (_ <:+: _))

theorem upper_append (s t : List Char) : upper (s ++ t) = upper s ++ upper t :=
  List.flatMap_append

/-- On ASCII text the upper-case mapping is the one-to-one ASCII mapping. -/
theorem upper_ascii {s : List Char} (h : ∀ c ∈ s, isAscii c = true) :
    upper s = s.map Char.toUpper := by
  induction s with
  | nil => rfl
  | cons c s ih =>
      have hc : PyText.upperChar c = [c.toUpper] :=
        PyText.upperChar_ascii c (h c List.mem_cons_self)
      have hs := ih fun d hd => h d (List.mem_cons_of_mem c hd)
      show PyText.upperChar c ++ upper s = _
      rw [hc, hs]
      rfl

theorem strip_isInfix (s : List Char) : strip s <:+: s :=
  (List.rdropWhile_prefix PyText.isSpace _).isInfix.trans (List.dropWhile_suffix _).isInfix

theorem strip_eq_self {s : List Char} (h : ∀ c ∈ s, PyText.isSpace c = false) : strip s = s := by
  have hleft : lstrip s = s := by
    cases s with
    | nil => rfl
    | cons c s =>
        have hc : PyText.isSpace c = false := h c List.mem_cons_self
        exact List.dropWhile_cons_of_neg (by rw [hc]; decide)
  rw [strip, hleft]
  apply List.rdropWhile_eq_self_iff.mpr
  intro hne
  rw [h _ (List.getLast_mem hne)]
  decide

theorem strip_strip (s : List Char) : strip (strip s) = strip s :=
  Library.trim_trim PyText.isSpace s

/-- White space is cut off before and after a middle that has none. -/
theorem strip_append_middle {s middle t : List Char} (hne : middle ≠ [])
    (h : ∀ c ∈ middle, PyText.isSpace c = false) :
    strip (s ++ middle ++ t) = lstrip s ++ middle ++ rstrip t := by
  -- on either side the middle stops the cut at its first character
  have hleft : ∀ {u v w : List Char}, v ≠ [] → (∀ c ∈ v, PyText.isSpace c = false) →
      (u ++ (v ++ w)).dropWhile PyText.isSpace = u.dropWhile PyText.isSpace ++ (v ++ w) := by
    intro u v w hne h
    rw [List.dropWhile_append]
    split
    · rename_i hempty
      rw [List.isEmpty_iff.mp hempty, List.nil_append]
      cases v with
      | nil => exact absurd rfl hne
      | cons c v =>
          have hc : PyText.isSpace c = false := h c List.mem_cons_self
          exact List.dropWhile_cons_of_neg (by rw [hc]; decide)
    · rfl
  have hreverse : ∀ c ∈ middle.reverse, PyText.isSpace c = false := by
    intro c hc
    exact h c (List.mem_reverse.mp hc)
  rw [strip, lstrip, List.append_assoc, hleft hne h, rstrip, List.rdropWhile, List.reverse_append,
    List.reverse_append, List.append_assoc, hleft (List.reverse_ne_nil_iff.mpr hne) hreverse]
  simp only [List.reverse_append, List.reverse_reverse, List.append_assoc]
  rfl

/-- White space has no case. -/
class PyBlanks : Prop where
  upperChar_isSpace : ∀ c, PyText.isSpace c = true → PyText.upperChar c = [c]

omit [PyText] in
theorem asciiBlanks : letI := asciiText
    PyBlanks := by
  let := asciiText
  refine { upperChar_isSpace := fun c h => ?_ }
  have hlow := toNat_le_of_isAsciiSpace h
  exact congrArg (fun c => [c]) (toUpper_of_lt (by omega))

theorem upper_blanks [PyBlanks] {s : List Char} (h : ∀ c ∈ s, PyText.isSpace c = true) :
    upper s = s := by
  induction s with
  | nil => rfl
  | cons c s ih =>
      have hc := PyBlanks.upperChar_isSpace c (h c List.mem_cons_self)
      have hs := ih fun d hd => h d (List.mem_cons_of_mem c hd)
      show PyText.upperChar c ++ upper s = _
      rw [hc, hs]
      rfl

/-- The capital form of a character stays as it is. -/
class PyCapitals : Prop where
  upper_upperChar : ∀ c, upper (PyText.upperChar c) = PyText.upperChar c

omit [PyText] in
theorem asciiCapitals : letI := asciiText
    PyCapitals := by
  let := asciiText
  exact ⟨fun c => congrArg (fun c => [c]) (toUpper_toUpper c)⟩

theorem upper_upper [PyCapitals] (s : List Char) : upper (upper s) = upper s := by
  induction s with
  | nil => rfl
  | cons c s ih =>
      show upper (PyText.upperChar c ++ upper s) = PyText.upperChar c ++ upper s
      rw [upper_append, PyCapitals.upper_upperChar, ih]

/-- What `strip` cuts off is white space. -/
theorem exists_strip_append (s : List Char) : ∃ before after,
    s = before ++ strip s ++ after ∧ (∀ c ∈ before, PyText.isSpace c = true) ∧
      ∀ c ∈ after, PyText.isSpace c = true := by
  refine ⟨s.takeWhile PyText.isSpace, (lstrip s).rtakeWhile PyText.isSpace, ?_,
    fun c hc => List.mem_takeWhile_imp hc, fun c hc => List.mem_rtakeWhile_imp hc⟩
  rw [List.append_assoc, strip, rstrip, List.rdropWhile_append_rtakeWhile, lstrip,
    List.takeWhile_append_dropWhile]

/-- An ASCII text without white space only changes its case. -/
theorem strip_upper_ascii {s : List Char} (h : ∀ c ∈ s, isAscii c = true)
    (hupper : ∀ c ∈ s.map Char.toUpper, isAscii c = true ∧ isAsciiSpace c = false) :
    strip (upper s) = s.map Char.toUpper := by
  rw [upper_ascii h]
  apply strip_eq_self
  intro c hc
  have hascii := hupper c hc
  rw [PyText.isSpace_ascii c hascii.1, hascii.2]

end CryptoScanner.Python
