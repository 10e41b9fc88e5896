import CryptoScanner.Discoveries.Scope
import CryptoScanner.Python.Float
import CryptoScanner.Python.JsonEncoder

/-!
# JavaScript numbers

`Number(text)` and `String(number)`.  A number is a double; the two zeros are one value here.
-/

namespace CryptoScanner.JavaScript

open Library Python

/-! ## 1. Reading a number -/

/-- The base of a literal with the prefix `0x`, `0o` or `0b`. -/
def radixOf (c : Char) : Option Nat :=
  if c = 'x' ∨ c = 'X' then some 16
  else if c = 'o' ∨ c = 'O' then some 8
  else if c = 'b' ∨ c = 'B' then some 2
  else none

def digitValue (c : Char) : Nat :=
  if c.isDigit then c.toNat - '0'.toNat
  else if c.isAlpha then c.toLower.toNat - 'a'.toNat + 10
  else 36

def radixNumber (radix : Nat) (digits : List Char) : PyFloat :=
  if digits ≠ [] ∧ digits.all fun c => digitValue c < radix then
    .ofRat ((digits.foldl (fun n c => radix * n + digitValue c) 0 : Nat) : ℚ)
  else .nan

def decimalNumber (text : List Char) : PyFloat :=
  let sign := splitSign text
  if sign.2 = "Infinity".toList then if sign.1 then .negInf else .inf
  else
    let whole := sign.2.takeWhile Char.isDigit
    let rest := sign.2.dropWhile Char.isDigit
    let fraction := (splitFraction rest).getD
      ([], if whole ≠ [] ∧ rest.head? = some '.' then rest.tail else rest)
    let exponent := (splitExponent fraction.2).getD (0, fraction.2)
    if whole ++ fraction.1 = [] ∨ exponent.2 ≠ [] then .nan
    else .ofRat (decimalValue sign.1 whole fraction.1 exponent.1)

/-- `Number(text)`; a blank text is zero. -/
def jsNumber (text : List Char) : PyFloat :=
  match trim Discoveries.isJsSpace text with
  | [] => .finite 0
  | '0' :: c :: digits =>
      match radixOf c with
      | some radix => radixNumber radix digits
      | none => decimalNumber ('0' :: c :: digits)
  | text => decimalNumber text

/-- `Number.isInteger(value) && value >= 0`, with the integer. -/
def naturalOf (value : PyFloat) : Option Nat :=
  match value with
  | .finite q => if q.den = 1 ∧ 0 ≤ q then some q.num.toNat else none
  | _ => none

/-! ## 2. Integers that are doubles -/

def maxSafeInteger : Nat := 2 ^ 53 - 1

theorem nearestDouble_natCast {n : Nat} (h : n ≤ maxSafeInteger) : nearestDouble (n : ℚ) = n := by
  by_cases hzero : n = 0
  · rw [hzero, Nat.cast_zero, nearestDouble_zero]
  · have hne : (n : ℚ) ≠ 0 := Nat.cast_ne_zero.mpr hzero
    have hlog : Int.log 2 |(n : ℚ)| ≤ 52 := by
      rw [abs_of_nonneg n.cast_nonneg, Int.log_natCast]
      have hlt : Nat.log 2 n < 53 := Nat.log_lt_of_lt_pow hzero (by unfold maxSafeInteger at h; omega)
      omega
    have hexponent : exponent (n : ℚ) ≤ 52 := max_le hlog (by decide)
    -- with no more than 53 bits the last place is no more than one
    obtain ⟨k, hk⟩ : ∃ k : Nat, exponent (n : ℚ) - 52 = -(k : Int) :=
      ⟨(52 - exponent (n : ℚ)).toNat, by omega⟩
    have hplace : lastPlace (n : ℚ) = (2 ^ k)⁻¹ := by
      rw [lastPlace, hk, zpow_neg, zpow_natCast]
    apply @nearestDouble_mul_lastPlace _ ((n * 2 ^ k : Nat) : Int) hne
    rw [hplace]
    push_cast
    rw [mul_assoc, mul_inv_cancel₀ (pow_ne_zero _ two_ne_zero), mul_one]

theorem ofRat_natCast {n : Nat} (h : n ≤ maxSafeInteger) : PyFloat.ofRat (n : ℚ) = .finite n := by
  have hlt : (n : ℚ) < 2 ^ 53 := by
    have hnat : n < 2 ^ 53 := lt_of_le_of_lt h (by decide)
    exact_mod_cast hnat
  have hsmall : (n : ℚ) < 2 ^ 1024 := hlt.trans_le (pow_le_pow_right₀ one_le_two (by decide))
  have hlow : ¬ (n : ℚ) ≤ -2 ^ 1024 := by
    have hpow : (0 : ℚ) < 2 ^ 1024 := by positivity
    exact not_le.mpr ((neg_neg_of_pos hpow).trans_le n.cast_nonneg)
  unfold PyFloat.ofRat
  dsimp only
  rw [nearestDouble_natCast h, if_neg (not_le.mpr hsmall), if_neg hlow]

theorem naturalOf_natCast (n : Nat) : naturalOf (.finite (n : ℚ)) = some n := by
  have hcast : (n : ℚ).den = 1 ∧ (0 : ℚ) ≤ n := ⟨Rat.den_natCast n, n.cast_nonneg⟩
  show (if (n : ℚ).den = 1 ∧ (0 : ℚ) ≤ n then some (n : ℚ).num.toNat else none) = _
  rw [if_pos hcast, Rat.num_natCast, Int.toNat_natCast]

/-! ## 3. Reading back a text -/

theorem isJsSpace_of_isDigit {c : Char} (h : c.isDigit = true) : Discoveries.isJsSpace c = false := by
  have hbounds : 48 ≤ c.toNat ∧ c.toNat ≤ 57 := by
    simpa [Char.isDigit, UInt32.le_iff_toNat_le] using h
  simp only [Discoveries.isJsSpace, Bool.or_eq_false_iff, Bool.and_eq_false_iff,
    decide_eq_false_iff_not, beq_eq_false_iff_ne, ne_eq]
  omega

theorem radixOf_of_isDigit {c : Char} (h : c.isDigit = true) : radixOf c = none := by
  have hne : ∀ letter : Char, letter.isDigit = false → c ≠ letter := by
    intro letter hletter heq
    rw [heq, hletter] at h
    exact Bool.false_ne_true h
  unfold radixOf
  rw [if_neg (not_or.mpr ⟨hne _ (by decide), hne _ (by decide)⟩),
    if_neg (not_or.mpr ⟨hne _ (by decide), hne _ (by decide)⟩),
    if_neg (not_or.mpr ⟨hne _ (by decide), hne _ (by decide)⟩)]

theorem splitSign_of_isDigit {c : Char} (h : c.isDigit = true) (text : List Char) :
    splitSign (c :: text) = (false, c :: text) := by
  have hminus : c ≠ '-' := by
    intro heq
    rw [heq] at h
    exact absurd h (by decide)
  have hplus : c ≠ '+' := by
    intro heq
    rw [heq] at h
    exact absurd h (by decide)
  rw [splitSign]
  · exact fun rest heq => hminus (List.cons.inj heq).1
  · exact fun rest heq => hplus (List.cons.inj heq).1

theorem decimalNumber_digits {digits : List Char} (hne : digits ≠ [])
    (h : ∀ c ∈ digits, c.isDigit = true) :
    decimalNumber digits = .ofRat (natOfDigits digits : ℚ) := by
  have hsign : splitSign digits = (false, digits) := by
    cases digits with
    | nil => exact absurd rfl hne
    | cons c rest => exact splitSign_of_isDigit (h c List.mem_cons_self) rest
  have hword : digits ≠ "Infinity".toList := by
    intro heq
    rw [heq] at h
    exact absurd (h 'I' (by decide)) (by decide)
  have htake : digits.takeWhile Char.isDigit = digits := List.takeWhile_eq_self_iff.mpr h
  have hdrop : digits.dropWhile Char.isDigit = [] := List.dropWhile_eq_nil_iff.mpr h
  unfold decimalNumber
  dsimp only
  rw [hsign, if_neg hword]
  dsimp only
  have hfraction : splitFraction [] = none := rfl
  rw [htake, hdrop, hfraction, Option.getD_none, List.tail_nil, ite_self]
  show (if digits ++ [] = [] ∨ [] ≠ [] then PyFloat.nan
    else PyFloat.ofRat (decimalValue false digits [] 0)) = _
  rw [List.append_nil, if_neg (not_or.mpr ⟨hne, not_not.mpr rfl⟩)]
  congr 1
  simp [decimalValue]

/-- `Number(String(n))` is `n`. -/
theorem jsNumber_decimalText {n : Nat} (h : n ≤ maxSafeInteger) :
    jsNumber (decimalText n) = .finite n := by
  have hdigits : ∀ c ∈ decimalText n, c.isDigit = true := fun c => isDigit_of_mem_decimalText
  have htrim : trim Discoveries.isJsSpace (decimalText n) = decimalText n := by
    apply trim_eq_self
    · exact fun c hc => isJsSpace_of_isDigit (hdigits c (List.mem_of_mem_head? hc))
    · exact fun c hc => isJsSpace_of_isDigit (hdigits c (List.mem_of_mem_getLast? hc))
  have hread : decimalNumber (decimalText n) = .finite n := by
    rw [decimalNumber_digits (decimalText_ne_nil n) hdigits, natOfDigits_decimalText,
      ofRat_natCast h]
  unfold jsNumber
  rw [htrim]
  split
  · rename_i hnil
    exact absurd hnil (decimalText_ne_nil n)
  · rename_i c digits heq
    rw [heq] at hdigits hread
    rw [radixOf_of_isDigit (hdigits c (by simp))]
    exact hread
  · exact hread

end CryptoScanner.JavaScript
