import Mathlib.Tactic.FieldSimp
import CryptoScanner.Python.Number

/-!
# Arithmetic on doubles

A double is the integer multiple of a power of two that is nearest to an exact value.  Rounding to
doubles keeps the order and leaves doubles as they are, so the operations built from it keep the order.
-/

namespace CryptoScanner.Python

/-! ## 1. The nearest double -/

def exponent (q : ℚ) : Int := max (Int.log 2 |q|) (-1022)

/-- The last place of the doubles near `q`. -/
def lastPlace (q : ℚ) : ℚ := 2 ^ (exponent q - 52)

theorem nearestDouble_eq {q : ℚ} (h : q ≠ 0) :
    nearestDouble q = roundHalfEven (q / lastPlace q) * lastPlace q := if_neg h

theorem lastPlace_pos (q : ℚ) : 0 < lastPlace q := zpow_pos (by norm_num) _

theorem exponent_mono {q r : ℚ} (hq : q ≠ 0) (h : |q| ≤ |r|) : exponent q ≤ exponent r := by
  have hlog := Int.log_mono_right (b := 2) (abs_pos.mpr hq) h
  unfold exponent
  omega

theorem abs_lt_exponent (q : ℚ) : |q| < 2 ^ (exponent q + 1) := by
  have hlog := Int.lt_zpow_succ_log_self (b := 2) (by decide) |q|
  have hle : Int.log 2 |q| + 1 ≤ exponent q + 1 := by
    unfold exponent
    omega
  calc |q| < (2 : ℕ) ^ (Int.log 2 |q| + 1) := hlog
    _ = 2 ^ (Int.log 2 |q| + 1) := by rw [Nat.cast_ofNat]
    _ ≤ 2 ^ (exponent q + 1) := zpow_le_zpow_right₀ (by norm_num) hle

theorem exponent_le_abs {q : ℚ} (hq : q ≠ 0) (h : -1022 < exponent q) :
    2 ^ exponent q ≤ |q| := by
  have hlog := Int.zpow_log_le_self (b := 2) (by decide) (abs_pos.mpr hq)
  have heq : exponent q = Int.log 2 |q| := by
    unfold exponent at h ⊢
    omega
  rw [heq]
  rwa [Nat.cast_ofNat] at hlog

/-- A multiple of the last place below `q` stays below its double. -/
theorem le_nearestDouble {q : ℚ} {n : Int} (hq : q ≠ 0) (h : n * lastPlace q ≤ q) :
    n * lastPlace q ≤ nearestDouble q := by
  have hpos := lastPlace_pos q
  have hn : (n : ℚ) ≤ q / lastPlace q := (le_div_iff₀ hpos).mpr h
  have hround : (n : ℚ) ≤ roundHalfEven (q / lastPlace q) := by
    exact_mod_cast le_roundHalfEven hn
  rw [nearestDouble_eq hq]
  exact mul_le_mul_of_nonneg_right hround hpos.le

theorem nearestDouble_le {q : ℚ} {n : Int} (hq : q ≠ 0) (h : q ≤ n * lastPlace q) :
    nearestDouble q ≤ n * lastPlace q := by
  have hpos := lastPlace_pos q
  have hn : q / lastPlace q ≤ n := (div_le_iff₀ hpos).mpr h
  have hround : (roundHalfEven (q / lastPlace q) : ℚ) ≤ n := by
    exact_mod_cast roundHalfEven_le hn
  rw [nearestDouble_eq hq]
  exact mul_le_mul_of_nonneg_right hround hpos.le

/-- A power of two above the last place is a multiple of it. -/
theorem zpow_eq_mul_lastPlace (q : ℚ) (n : Nat) :
    (2 : ℚ) ^ (exponent q - 52 + n) = ((2 ^ n : Nat) : Int) * lastPlace q := by
  rw [lastPlace, zpow_add₀ (by norm_num), zpow_natCast, mul_comm]
  push_cast
  rfl

theorem nearestDouble_zero : nearestDouble 0 = 0 := if_pos rfl

theorem nearestDouble_nonneg {q : ℚ} (h : 0 ≤ q) : 0 ≤ nearestDouble q := by
  by_cases hq : q = 0
  · rw [hq, nearestDouble_zero]
  · simpa using le_nearestDouble (n := 0) hq (by simpa using h)

theorem nearestDouble_nonpos {q : ℚ} (h : q ≤ 0) : nearestDouble q ≤ 0 := by
  by_cases hq : q = 0
  · rw [hq, nearestDouble_zero]
  · simpa using nearestDouble_le (n := 0) hq (by simpa using h)

/-- A double is at most the power of two above the exact value. -/
theorem abs_nearestDouble_le {q : ℚ} (hq : q ≠ 0) :
    -2 ^ (exponent q + 1) ≤ nearestDouble q ∧ nearestDouble q ≤ 2 ^ (exponent q + 1) := by
  have habs := abs_lt.mp (abs_lt_exponent q)
  have hpow : (2 : ℚ) ^ (exponent q + 1) = ((2 ^ 53 : Nat) : Int) * lastPlace q := by
    rw [← zpow_eq_mul_lastPlace]
    congr 1
    omega
  have hneg : -(2 : ℚ) ^ (exponent q + 1) = ((-(2 ^ 53 : Nat) : Int) : ℚ) * lastPlace q := by
    rw [hpow]
    push_cast
    ring
  rw [hneg] at habs ⊢
  rw [hpow] at habs ⊢
  exact ⟨le_nearestDouble hq habs.1.le, nearestDouble_le hq habs.2.le⟩

/-- Above the least exponent a double is at least the power of two below the exact value. -/
theorem exponent_le_nearestDouble {q : ℚ} (h : -1022 < exponent q) :
    (0 < q → 2 ^ exponent q ≤ nearestDouble q) ∧
      (q < 0 → nearestDouble q ≤ -2 ^ exponent q) := by
  have hpow : (2 : ℚ) ^ exponent q = ((2 ^ 52 : Nat) : Int) * lastPlace q := by
    rw [← zpow_eq_mul_lastPlace]
    congr 1
    omega
  constructor
  · intro hq
    have hle := exponent_le_abs hq.ne' h
    rw [abs_of_pos hq, hpow] at hle
    rw [hpow]
    exact le_nearestDouble hq.ne' hle
  · intro hq
    have hle := exponent_le_abs hq.ne h
    have hneg : -(2 : ℚ) ^ exponent q = ((-(2 ^ 52 : Nat) : Int) : ℚ) * lastPlace q := by
      rw [hpow]
      push_cast
      ring
    rw [abs_of_neg hq] at hle
    rw [hneg]
    apply nearestDouble_le hq.ne
    rw [← hneg]
    linarith

/-- Among values of one exponent the doubles are equally far apart. -/
theorem nearestDouble_mono_of_exponent {q r : ℚ} (hq : q ≠ 0) (hr : r ≠ 0) (h : q ≤ r)
    (heq : exponent q = exponent r) : nearestDouble q ≤ nearestDouble r := by
  have hplace : lastPlace q = lastPlace r := by rw [lastPlace, lastPlace, heq]
  have hpos := lastPlace_pos r
  have hdiv : q / lastPlace r ≤ r / lastPlace r := div_le_div_of_nonneg_right h hpos.le
  have hround : (roundHalfEven (q / lastPlace r) : ℚ) ≤ roundHalfEven (r / lastPlace r) := by
    exact_mod_cast roundHalfEven_mono hdiv
  rw [nearestDouble_eq hq, nearestDouble_eq hr, hplace]
  exact mul_le_mul_of_nonneg_right hround hpos.le

theorem nearestDouble_mono {q r : ℚ} (h : q ≤ r) : nearestDouble q ≤ nearestDouble r := by
  rcases le_or_gt q 0 with hq | hq
  · rcases le_or_gt 0 r with hr | hr
    · exact (nearestDouble_nonpos hq).trans (nearestDouble_nonneg hr)
    · -- both are negative, and the smaller one has the larger exponent
      have hq' : q < 0 := lt_of_le_of_lt h hr
      have hle : exponent r ≤ exponent q := by
        apply exponent_mono hr.ne
        rw [abs_of_neg hr, abs_of_neg hq']
        linarith
      rcases hle.eq_or_lt with heq | hlt
      · exact nearestDouble_mono_of_exponent hq'.ne hr.ne h heq.symm
      · have hleast : -1022 ≤ exponent r := le_max_right _ _
        have hlow := (exponent_le_nearestDouble (by omega : -1022 < exponent q)).2 hq'
        have hhigh := (abs_nearestDouble_le hr.ne).1
        have hpow : (2 : ℚ) ^ (exponent r + 1) ≤ 2 ^ exponent q :=
          zpow_le_zpow_right₀ (by norm_num) hlt
        linarith
  · have hr : 0 < r := lt_of_lt_of_le hq h
    have hle : exponent q ≤ exponent r := by
      apply exponent_mono hq.ne'
      rw [abs_of_pos hq, abs_of_pos hr]
      exact h
    rcases hle.eq_or_lt with heq | hlt
    · exact nearestDouble_mono_of_exponent hq.ne' hr.ne' h heq
    · have hleast : -1022 ≤ exponent q := le_max_right _ _
      have hlow := (exponent_le_nearestDouble (by omega : -1022 < exponent r)).1 hr
      have hhigh := (abs_nearestDouble_le hq.ne').2
      have hpow : (2 : ℚ) ^ (exponent q + 1) ≤ 2 ^ exponent r :=
        zpow_le_zpow_right₀ (by norm_num) hlt
      linarith

theorem nearestDouble_mul_lastPlace {q : ℚ} {n : Int} (hq : q ≠ 0) (h : q = n * lastPlace q) :
    nearestDouble q = q :=
  le_antisymm ((nearestDouble_le hq h.le).trans h.ge) (h.le.trans (le_nearestDouble hq h.ge))

theorem nearestDouble_nearestDouble (q : ℚ) :
    nearestDouble (nearestDouble q) = nearestDouble q := by
  by_cases hq : q = 0
  · rw [hq, nearestDouble_zero, nearestDouble_zero]
  by_cases hr : nearestDouble q = 0
  · rw [hr, nearestDouble_zero]
  have hbounds := abs_nearestDouble_le hq
  have hround := nearestDouble_eq hq
  generalize nearestDouble q = r at hr hbounds hround ⊢
  have habs : |r| ≤ 2 ^ (exponent q + 1) := abs_le.mpr hbounds
  rcases Int.lt_or_le (exponent q) (exponent r) with hlt | hle
  · -- rounded up to the next power of two
    have hleast : -1022 ≤ exponent q := le_max_right _ _
    have hlow := exponent_le_abs hr (by omega : -1022 < exponent r)
    have hpow : (2 : ℚ) ^ (exponent q + 1) ≤ 2 ^ exponent r :=
      zpow_le_zpow_right₀ (by norm_num) hlt
    have heq : |r| = ((2 ^ 52 : Nat) : Int) * lastPlace r := by
      rw [← zpow_eq_mul_lastPlace]
      have hexp : exponent r - 52 + (52 : Nat) = exponent r := by omega
      rw [hexp]
      linarith
    rcases abs_choice r with hpos | hneg
    · rw [hpos] at heq
      exact nearestDouble_mul_lastPlace hr heq
    · rw [hneg] at heq
      apply nearestDouble_mul_lastPlace (n := -(2 ^ 52 : Nat)) hr
      push_cast at heq ⊢
      linarith
  · -- the last place of the result divides that of the exact value
    obtain ⟨n, hn⟩ := Int.eq_ofNat_of_zero_le (by omega : 0 ≤ exponent q - exponent r)
    have hplace : lastPlace q = ((2 ^ n : Nat) : Int) * lastPlace r := by
      rw [← zpow_eq_mul_lastPlace, lastPlace]
      congr 1
      omega
    apply nearestDouble_mul_lastPlace
      (n := roundHalfEven (q / lastPlace q) * ((2 ^ n : Nat) : Int)) hr
    rw [Int.cast_mul, mul_assoc, ← hplace]
    exact hround

/-! ## 2. Doubles -/

namespace PyFloat

/-- A rational that a double stands for, or a special value. -/
def IsDouble (x : PyFloat) : Prop :=
  match x with
  | .finite q => ofRat q = .finite q
  | _ => True

instance : DecidablePred IsDouble := fun x => by
  unfold IsDouble
  cases x <;> infer_instance

theorem ofRat_nearestDouble (q : ℚ) : ofRat (nearestDouble q) = ofRat q := by
  unfold ofRat
  rw [nearestDouble_nearestDouble]

theorem ofRat_cases (q : ℚ) :
    ofRat q = .inf ∨ ofRat q = .negInf ∨ ofRat q = .finite (nearestDouble q) := by
  unfold ofRat
  dsimp only
  by_cases hhigh : 2 ^ 1024 ≤ nearestDouble q
  · exact .inl (if_pos hhigh)
  · rw [if_neg hhigh]
    by_cases hlow : nearestDouble q ≤ -2 ^ 1024
    · exact .inr (.inl (if_pos hlow))
    · exact .inr (.inr (if_neg hlow))

theorem isDouble_ofRat (q : ℚ) : (ofRat q).IsDouble := by
  rcases ofRat_cases q with h | h | h
  · rw [h]
    trivial
  · rw [h]
    trivial
  · rw [h]
    show ofRat (nearestDouble q) = _
    rw [ofRat_nearestDouble, h]

def neg : PyFloat → PyFloat
  | .finite q => .finite (-q)
  | .inf => .negInf
  | .negInf => .inf
  | .nan => .nan

def add : PyFloat → PyFloat → PyFloat
  | .finite a, .finite b => ofRat (a + b)
  | .nan, _ | _, .nan => .nan
  | .inf, .negInf | .negInf, .inf => .nan
  | .inf, _ | _, .inf => .inf
  | .negInf, _ | _, .negInf => .negInf

def sub (x y : PyFloat) : PyFloat := x.add y.neg

/-- `x / y` for a `y` that is not zero. -/
def div : PyFloat → PyFloat → PyFloat
  | .finite a, .finite b => ofRat (a / b)
  | .finite _, .inf | .finite _, .negInf => .finite 0
  | .inf, .finite b => if 0 < b then .inf else .negInf
  | .negInf, .finite b => if 0 < b then .negInf else .inf
  | _, _ => .nan

/-- `x * b` for a positive integer `b`. -/
def scale (b : Nat) : PyFloat → PyFloat
  | .finite a => ofRat (a * b)
  | x => x

/-- `x < y` -/
def lt : PyFloat → PyFloat → Bool
  | .finite a, .finite b => a < b
  | .negInf, .finite _ | .negInf, .inf | .finite _, .inf => true
  | _, _ => false

def le (x y : PyFloat) : Bool := x != .nan && (x == y || x.lt y)

def round (digits : Nat) : PyFloat → PyFloat
  | .finite q => ofRat (roundDigits digits q)
  | x => x

theorem isDouble_add (x y : PyFloat) : (x.add y).IsDouble := by
  cases x <;> cases y <;> first | trivial | exact isDouble_ofRat _

/-! ## 3. The order of doubles -/

/-- `x <= y`, or both are one value, which may be `nan`. -/
def AtMost (x y : PyFloat) : Prop := x = y ∨ x.lt y = true

/-- The first exceeds no bound that the second does not exceed. -/
def NotAbove (x y : PyFloat) : Prop := x = .nan ∨ x = .negInf ∨ x.AtMost y

theorem le_finite (a b : ℚ) : (finite a).le (finite b) = decide (a ≤ b) := by
  have heq : ((finite a) == (finite b)) = decide (a = b) := by
    rw [Bool.eq_iff_iff, beq_iff_eq, decide_eq_true_eq, finite.injEq]
  have hlt : (finite a).lt (finite b) = decide (a < b) := rfl
  have hne : ((finite a) != nan) = true := rfl
  rw [le, heq, hlt, hne, Bool.true_and, Bool.eq_iff_iff, Bool.or_eq_true, decide_eq_true_eq,
    decide_eq_true_eq, decide_eq_true_eq, le_iff_eq_or_lt]

theorem atMost_of_le {q r : ℚ} (h : q ≤ r) : (finite q).AtMost (finite r) := by
  rcases h.eq_or_lt with rfl | hlt
  · exact .inl rfl
  · exact .inr (decide_eq_true hlt)

theorem negInf_atMost {x : PyFloat} (h : x ≠ .nan) : negInf.AtMost x := by
  cases x with
  | finite | inf => exact .inr rfl
  | negInf => exact .inl rfl
  | nan => exact absurd rfl h

theorem atMost_inf {x : PyFloat} (h : x ≠ .nan) : x.AtMost inf := by
  cases x with
  | finite | negInf => exact .inr rfl
  | inf => exact .inl rfl
  | nan => exact absurd rfl h

theorem AtMost.cases {x y : PyFloat} (h : x.AtMost y) :
    x = y ∨ (∃ q r, x = finite q ∧ y = finite r ∧ q ≤ r) ∨ (x = negInf ∧ y ≠ nan) ∨
      (x ≠ nan ∧ y = inf) := by
  rcases h with rfl | hlt
  · exact .inl rfl
  · right
    cases x with
    | finite q =>
        cases y with
        | finite r => exact .inl ⟨q, r, rfl, rfl, (of_decide_eq_true hlt).le⟩
        | inf => exact .inr (.inr ⟨by simp, rfl⟩)
        | negInf | nan => cases hlt
    | negInf =>
        right
        left
        refine ⟨rfl, ?_⟩
        intro hnan
        rw [hnan] at hlt
        cases hlt
    | inf | nan => cases y <;> cases hlt

theorem ofRat_ne_nan (q : ℚ) : ofRat q ≠ nan := by
  rcases ofRat_cases q with h | h | h <;> rw [h] <;> simp

theorem ofRat_mono {q r : ℚ} (h : q ≤ r) : (ofRat q).AtMost (ofRat r) := by
  have hround := nearestDouble_mono h
  unfold ofRat
  dsimp only
  generalize (2 : ℚ) ^ 1024 = bound
  by_cases hhigh : bound ≤ nearestDouble q
  · rw [if_pos hhigh, if_pos (hhigh.trans hround)]
    exact .inl rfl
  · rw [if_neg hhigh]
    by_cases hlow : nearestDouble q ≤ -bound
    · rw [if_pos hlow]
      apply negInf_atMost
      split_ifs <;> simp
    · rw [if_neg hlow]
      by_cases hhigh' : bound ≤ nearestDouble r
      · rw [if_pos hhigh']
        exact .inr rfl
      · have hlow' : ¬ nearestDouble r ≤ -bound := fun hle => hlow (hround.trans hle)
        rw [if_neg hhigh', if_neg hlow']
        exact atMost_of_le hround

/-! ## 4. Operations that keep the order -/

theorem AtMost.above {x y bound : PyFloat} (h : x.AtMost y) (hx : bound.lt x = true) :
    bound.lt y = true := by
  rcases h.cases with rfl | ⟨q, r, rfl, rfl, hle⟩ | ⟨rfl, -⟩ | ⟨-, rfl⟩
  · exact hx
  · cases bound with
    | finite b => exact decide_eq_true ((of_decide_eq_true hx).trans_le hle)
    | negInf => rfl
    | inf | nan => cases hx
  · cases bound <;> cases hx
  · cases bound with
    | finite | negInf => rfl
    | inf | nan => cases x <;> cases hx

theorem AtMost.under {x y bound : PyFloat} (h : x.AtMost y) (hy : y.lt bound = true) :
    x.lt bound = true := by
  rcases h.cases with rfl | ⟨q, r, rfl, rfl, hle⟩ | ⟨rfl, hne⟩ | ⟨-, rfl⟩
  · exact hy
  · cases bound with
    | finite b => exact decide_eq_true (hle.trans_lt (of_decide_eq_true hy))
    | inf => rfl
    | negInf | nan => cases hy
  · cases bound with
    | finite | inf => rfl
    | negInf | nan => cases y <;> cases hy
  · cases bound <;> cases hy

theorem NotAbove.above {x y bound : PyFloat} (h : x.NotAbove y) (hx : bound.lt x = true) :
    bound.lt y = true := by
  rcases h with rfl | rfl | h
  · cases bound <;> cases hx
  · cases bound <;> cases hx
  · exact h.above hx

/-- A function that keeps the order on rationals and leaves the special values. -/
structure Keeps (f : PyFloat → PyFloat) : Prop where
  ne_nan : ∀ q, f (finite q) ≠ nan
  mono : ∀ q r, q ≤ r → (f (finite q)).AtMost (f (finite r))
  inf : f inf = inf
  negInf : f negInf = negInf
  nan : f nan = nan

theorem Keeps.atMost {f : PyFloat → PyFloat} (hf : Keeps f) {x y : PyFloat} (h : x.AtMost y) :
    (f x).AtMost (f y) := by
  have hne : ∀ x, x ≠ PyFloat.nan → f x ≠ PyFloat.nan := by
    intro x hx
    cases x with
    | finite q => exact hf.ne_nan q
    | inf =>
        rw [hf.inf]
        simp
    | negInf =>
        rw [hf.negInf]
        simp
    | nan => exact absurd rfl hx
  rcases h.cases with rfl | ⟨q, r, rfl, rfl, hle⟩ | ⟨rfl, hy⟩ | ⟨hx, rfl⟩
  · exact .inl rfl
  · exact hf.mono q r hle
  · rw [hf.negInf]
    exact negInf_atMost (hne y hy)
  · rw [hf.inf]
    exact atMost_inf (hne x hx)

theorem Keeps.notAbove {f : PyFloat → PyFloat} (hf : Keeps f) {x y : PyFloat}
    (h : x.NotAbove y) : (f x).NotAbove (f y) := by
  rcases h with rfl | rfl | h
  · exact .inl hf.nan
  · exact .inr (.inl hf.negInf)
  · exact .inr (.inr (hf.atMost h))

theorem keeps_sub (b : ℚ) : Keeps fun x => x.sub (finite b) where
  ne_nan _ := ofRat_ne_nan _
  mono _ _ h := ofRat_mono (by linarith)
  inf := rfl
  negInf := rfl
  nan := rfl

theorem keeps_div {b : ℚ} (hb : 0 < b) : Keeps fun x => x.div (finite b) where
  ne_nan _ := ofRat_ne_nan _
  mono _ _ h := ofRat_mono (div_le_div_of_nonneg_right h hb.le)
  inf := if_pos hb
  negInf := if_pos hb
  nan := rfl

theorem keeps_scale (b : Nat) : Keeps (scale b) where
  ne_nan _ := ofRat_ne_nan _
  mono _ _ h := ofRat_mono (mul_le_mul_of_nonneg_right h b.cast_nonneg)
  inf := rfl
  negInf := rfl
  nan := rfl

theorem keeps_round (digits : Nat) : Keeps (round digits) where
  ne_nan _ := ofRat_ne_nan _
  mono _ _ h := ofRat_mono (roundDigits_mono digits h)
  inf := rfl
  negInf := rfl
  nan := rfl

theorem AtMost.sub_left {x y : PyFloat} (h : x.AtMost y) (a : ℚ) :
    ((finite a).sub y).AtMost ((finite a).sub x) := by
  rcases h.cases with rfl | ⟨q, r, rfl, rfl, hle⟩ | ⟨rfl, hy⟩ | ⟨hx, rfl⟩
  · exact .inl rfl
  · exact ofRat_mono (by linarith)
  · apply atMost_inf
    cases y with
    | finite => exact ofRat_ne_nan _
    | inf | negInf => simp [sub, neg, add]
    | nan => exact absurd rfl hy
  · apply negInf_atMost
    cases x with
    | finite => exact ofRat_ne_nan _
    | inf | negInf => simp [sub, neg, add]
    | nan => exact absurd rfl hx

theorem finite_atMost {q : ℚ} {y : PyFloat} (h : (finite q).AtMost y) :
    y = inf ∨ ∃ r, y = finite r ∧ q ≤ r := by
  rcases h.cases with rfl | ⟨q', r, hq, rfl, hle⟩ | ⟨hneg, -⟩ | ⟨-, rfl⟩
  · exact .inr ⟨q, rfl, le_rfl⟩
  · cases hq
    exact .inr ⟨r, rfl, hle⟩
  · cases hneg
  · exact .inl rfl

theorem inf_atMost {y : PyFloat} (h : inf.AtMost y) : y = inf := by
  rcases h with rfl | hlt
  · rfl
  · cases y <;> cases hlt

/-- Larger summands exceed at least as much, where the sum exceeds anything. -/
theorem AtMost.add {x x' y y' : PyFloat} (hx : x.AtMost x') (hy : y.AtMost y') :
    (x.add y).NotAbove (x'.add y') := by
  -- an infinite or undefined summand decides the sum; two finite ones may round to an infinity
  cases x with
  | nan => exact .inl (by cases y <;> rfl)
  | negInf =>
      cases y with
      | finite | negInf => exact .inr (.inl rfl)
      | inf | nan => exact .inl rfl
  | inf =>
      rw [inf_atMost hx]
      cases y with
      | nan | negInf => exact .inl rfl
      | inf =>
          rw [inf_atMost hy]
          exact .inr (.inr (.inl rfl))
      | finite s =>
          rcases finite_atMost hy with rfl | ⟨t, rfl, -⟩
          · exact .inr (.inr (.inl rfl))
          · exact .inr (.inr (.inl rfl))
  | finite q =>
      cases y with
      | nan => exact .inl rfl
      | negInf => exact .inr (.inl rfl)
      | inf =>
          rw [inf_atMost hy]
          rcases finite_atMost hx with rfl | ⟨r, rfl, -⟩
          · exact .inr (.inr (.inl rfl))
          · exact .inr (.inr (.inl rfl))
      | finite s =>
          right
          right
          have hne : PyFloat.add (finite q) (finite s) ≠ nan := ofRat_ne_nan _
          rcases finite_atMost hx with rfl | ⟨r, rfl, hle⟩
          · rcases finite_atMost hy with rfl | ⟨t, rfl, -⟩
            · exact atMost_inf hne
            · exact atMost_inf hne
          · rcases finite_atMost hy with rfl | ⟨t, rfl, hle'⟩
            · exact atMost_inf hne
            · exact ofRat_mono (add_le_add hle hle')

end PyFloat

end CryptoScanner.Python
