import Mathlib.Data.Int.Log
import Mathlib.Data.Rat.Floor
import CryptoScanner.Python.Json

/-!
# Numbers

Rounding, doubles, and the conversions `int(value)` and `float(value)`.  A double is the rational
that it stands for, or one of the three special values.
-/

namespace CryptoScanner.Python

/-! ## 1. Rounding -/

/-- `round` on an exact rational. -/
def roundHalfEven (q : ℚ) : Int :=
  let low := q.floor
  let rest := q - low
  if rest < 1 / 2 then low
  else if 1 / 2 < rest then low + 1
  else if low % 2 = 0 then low
  else low + 1

/-- The rational nearest to `q` with 53 significant bits, or fewer near zero. -/
def nearestDouble (q : ℚ) : ℚ :=
  if q = 0 then 0
  else
    let unit : ℚ := 2 ^ (max (Int.log 2 |q|) (-1022) - 52)
    roundHalfEven (q / unit) * unit

def PyFloat.ofRat (q : ℚ) : PyFloat :=
  let value := nearestDouble q
  if 2 ^ 1024 ≤ value then .inf
  else if value ≤ -2 ^ 1024 then .negInf
  else .finite value

/-- `round(x, 2)` for a finite `x` -/
def roundTwo (q : ℚ) : ℚ := nearestDouble (roundHalfEven (q * 100) / 100)

theorem le_roundHalfEven {q : ℚ} {n : Int} (h : n ≤ q) : n ≤ roundHalfEven q := by
  have hfloor : n ≤ q.floor := Rat.le_floor_iff.mpr h
  unfold roundHalfEven
  dsimp only
  split_ifs <;> omega

theorem roundHalfEven_le {q : ℚ} {n : Int} (h : q ≤ n) : roundHalfEven q ≤ n := by
  have hfloor : q.floor ≤ n := by
    have hmono := Rat.floor_monotone h
    rwa [Rat.floor_intCast] at hmono
  by_cases heq : q.floor = n
  · -- the fraction is zero, which rounds down
    have hlow : (n : ℚ) ≤ q := heq ▸ Rat.floor_le q
    have hfraction : q - q.floor < 1 / 2 := by
      rw [heq, le_antisymm h hlow, sub_self]
      norm_num
    unfold roundHalfEven
    dsimp only
    rw [if_pos hfraction]
    exact hfloor
  · unfold roundHalfEven
    dsimp only
    split_ifs <;> omega

theorem roundHalfEven_mono {q r : ℚ} (h : q ≤ r) : roundHalfEven q ≤ roundHalfEven r := by
  have hfloor : q.floor ≤ r.floor := Rat.floor_monotone h
  by_cases heq : q.floor = r.floor
  · -- above one integer, the larger fraction rounds up if the smaller one does
    have hrest : q - q.floor ≤ r - r.floor := by
      rw [heq]
      linarith
    unfold roundHalfEven
    dsimp only
    rw [← heq] at hrest ⊢
    split_ifs <;> first | omega | linarith
  · have hbelow : roundHalfEven q ≤ q.floor + 1 := by
      apply roundHalfEven_le
      exact (Rat.lt_floor_add_one q).le
    have habove : r.floor ≤ roundHalfEven r := le_roundHalfEven (Rat.floor_le r)
    omega

/-- `round(x, digits)` on an exact rational. -/
def roundDigits (digits : Nat) (q : ℚ) : ℚ := roundHalfEven (q * 10 ^ digits) / 10 ^ digits

theorem roundDigits_mono (digits : Nat) {q r : ℚ} (h : q ≤ r) :
    roundDigits digits q ≤ roundDigits digits r := by
  have hpow : (0 : ℚ) < 10 ^ digits := by positivity
  have hround := roundHalfEven_mono (mul_le_mul_of_nonneg_right h hpow.le)
  unfold roundDigits
  gcongr

theorem roundDigits_decimal (digits : Nat) (n : Int) :
    roundDigits digits (n / 10 ^ digits) = n / 10 ^ digits := by
  have hpow : (10 : ℚ) ^ digits ≠ 0 := by positivity
  rw [roundDigits, div_mul_cancel₀ _ hpow]
  congr 2
  exact le_antisymm (roundHalfEven_le le_rfl) (le_roundHalfEven le_rfl)

/-- Two decimal places of a number between 0 and 1 stay between 0 and 1. -/
theorem roundTwo_mem {q : ℚ} (hlow : 0 ≤ q) (hhigh : q ≤ 1) : 0 ≤ roundTwo q ∧ roundTwo q ≤ 1 := by
  have hcents : ∀ n : Nat, n ≤ 100 → 0 ≤ nearestDouble ((n : Int) / 100) ∧
      nearestDouble ((n : Int) / 100) ≤ 1 := by
    decide +kernel
  have hnonneg : 0 ≤ roundHalfEven (q * 100) := by
    apply le_roundHalfEven
    rw [Int.cast_zero]
    linarith
  have hle : roundHalfEven (q * 100) ≤ 100 := by
    apply roundHalfEven_le
    rw [Int.cast_ofNat]
    linarith
  obtain ⟨n, hn⟩ := Int.eq_ofNat_of_zero_le hnonneg
  have hn' : n ≤ 100 := by omega
  rw [roundTwo, hn]
  exact hcents n hn'

/-! ## 2. Numerals -/

/-- The limits of an interpreter: how deep it recurses, and how long a numeral it reads. -/
structure Limits where
  recursion : Nat
  intDigits : Nat := 4300

inductive PyException where
  | jsonDecode
  | value
  | type
  | overflow
  | recursion
  | responseParse (message : String)
  deriving DecidableEq, Repr

def natOfDigits (digits : List Char) : Nat :=
  digits.foldl (fun n c => 10 * n + (c.toNat - '0'.toNat)) 0

def splitSign : List Char → Bool × List Char
  | '-' :: text => (true, text)
  | '+' :: text => (false, text)
  | text => (false, text)

def decimalValue (negative : Bool) (whole fraction : List Char) (exponent : Int) : ℚ :=
  (if negative then -1 else 1) * natOfDigits (whole ++ fraction) *
    10 ^ (exponent - fraction.length)

/-- The fraction of a numeral, a point and at least one digit, and the text after it. -/
def splitFraction : List Char → Option (List Char × List Char)
  | '.' :: text =>
      if text.takeWhile Char.isDigit = [] then none
      else some (text.takeWhile Char.isDigit, text.dropWhile Char.isDigit)
  | _ => none

def splitExponent : List Char → Option (Int × List Char)
  | [] => none
  | c :: text =>
      let sign := splitSign text
      let digits := sign.2.takeWhile Char.isDigit
      if c.toLower ≠ 'e' ∨ digits = [] then none
      else some (if sign.1 then -natOfDigits digits else natOfDigits digits,
        sign.2.dropWhile Char.isDigit)

section

variable [PyText]

/-- A numeral without its underscores, which stand between two digits. -/
def dropUnderscores (afterDigit : Bool) : List Char → Option (List Char)
  | [] => some []
  | c :: text =>
      if c = '_' then
        if afterDigit ∧ text.head?.any Char.isDigit then dropUnderscores false text else none
      else (dropUnderscores c.isDigit text).map (c :: ·)

/-- The text of a numeral with ASCII digits, as `int` and `float` read it. -/
def numeralText (text : List Char) : Option (List Char) :=
  dropUnderscores false ((strip text).map fun c =>
    match PyText.decimal c with
    | some digit => Char.ofNat ('0'.toNat + digit)
    | none => c)

/-- `int(text)`; `none` is a `ValueError`. -/
def intOfText (limits : Limits) (text : List Char) : Option Int :=
  (numeralText text).bind fun numeral =>
    let sign := splitSign numeral
    if sign.2 = [] ∨ ¬ sign.2.all Char.isDigit ∨ limits.intDigits < sign.2.length then none
    else some (if sign.1 then -natOfDigits sign.2 else natOfDigits sign.2)

/-- `float(text)`; `none` is a `ValueError`. -/
def floatOfText (text : List Char) : Option PyFloat :=
  (numeralText text).bind fun numeral =>
    let sign := splitSign numeral
    let word := sign.2.map Char.toLower
    if word = "nan".toList then some .nan
    else if word = "inf".toList ∨ word = "infinity".toList then
      some (if sign.1 then .negInf else .inf)
    else
      let whole := sign.2.takeWhile Char.isDigit
      let text := sign.2.dropWhile Char.isDigit
      let fraction := (splitFraction text).getD ([], if whole ≠ [] ∧ text.head? = some '.'
        then text.tail else text)
      let exponent := (splitExponent fraction.2).getD (0, fraction.2)
      if whole ++ fraction.1 = [] ∨ exponent.2 ≠ [] then none
      else some (.ofRat (decimalValue sign.1 whole fraction.1 exponent.1))

/-! ## 3. Conversions -/

def truncate (q : ℚ) : Int := if q < 0 then -(-q).floor else q.floor

def pyInt (limits : Limits) : Json → Except PyException Int
  | .bool b => .ok (if b then 1 else 0)
  | .int n => .ok n
  | .float (.finite q) => .ok (truncate q)
  | .float .inf | .float .negInf => .error .overflow
  | .float .nan => .error .value
  | .str text =>
      match intOfText limits text.toList with
      | some n => .ok n
      | none => .error .value
  | .null | .list _ | .dict _ => .error .type

/-- An integer that is too large for a double. -/
def Oversized (n : Int) : Prop :=
  PyFloat.ofRat n = .inf ∨ PyFloat.ofRat n = .negInf

instance (n : Int) : Decidable (Oversized n) := inferInstanceAs (Decidable (_ ∨ _))

def pyFloat : Json → Except PyException PyFloat
  | .bool b => .ok (.finite (if b then 1 else 0))
  | .int n => if Oversized n then .error .overflow else .ok (.ofRat n)
  | .float x => .ok x
  | .str text =>
      match floatOfText text.toList with
      | some x => .ok x
      | none => .error .value
  | .null | .list _ | .dict _ => .error .type

end

end CryptoScanner.Python
