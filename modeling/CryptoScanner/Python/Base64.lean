import Mathlib.Data.List.GetD
import CryptoScanner.Python.Struct

/-!
# Base64

The encoder of `base64.b64encode`, and the strict decoder of `binascii.a2b_base64` as the scan over
characters that it is.  The decoder reads back what the encoder writes.
-/

namespace CryptoScanner.Python

/-! ## 1. The alphabet -/

def base64Alphabet : List Char :=
  "ABCDEFGHIJKLMNOPQRSTUVWXYZabcdefghijklmnopqrstuvwxyz0123456789+/".toList

def base64Char (n : Nat) : Char := base64Alphabet.getD n 'A'

/-- `table_a2b_base64` -/
def base64Value (c : Char) : Option Nat := base64Alphabet.idxOf? c

theorem base64Value_base64Char {n : Nat} (h : n < 64) : base64Value (base64Char n) = some n := by
  have hall : ∀ n < 64, base64Value (base64Char n) = some n := by decide +kernel
  exact hall n h

theorem base64Char_mem (n : Nat) : base64Char n ∈ base64Alphabet := by
  unfold base64Char
  by_cases h : n < base64Alphabet.length
  · rw [List.getD_eq_getElem _ _ h]
    exact List.getElem_mem h
  · rw [List.getD_eq_default _ _ (Nat.le_of_not_lt h)]
    decide

theorem base64Char_ne_pad (n : Nat) : base64Char n ≠ '=' := by
  have hpad : '=' ∉ base64Alphabet := by decide
  intro heq
  exact hpad (heq ▸ base64Char_mem n)

/-! ## 2. The encoder -/

/-- `base64.b64encode(data).decode("ascii")` -/
def b64encode : Bytes → List Char
  | a :: b :: c :: rest =>
      base64Char (a.toNat / 4) :: base64Char (a.toNat % 4 * 16 + b.toNat / 16) ::
        base64Char (b.toNat % 16 * 4 + c.toNat / 64) :: base64Char (c.toNat % 64) :: b64encode rest
  | [a, b] =>
      [base64Char (a.toNat / 4), base64Char (a.toNat % 4 * 16 + b.toNat / 16),
        base64Char (b.toNat % 16 * 4), '=']
  | [a] => [base64Char (a.toNat / 4), base64Char (a.toNat % 4 * 16), '=', '=']
  | [] => []

/-! ## 3. The decoder -/

/-- What `a2b_base64` keeps between two characters. -/
structure Base64Scan where
  quadPos : Nat := 0
  leftChar : Nat := 0
  paddingStarted : Bool := false
  pads : Nat := 0
  out : Bytes := []
  deriving DecidableEq, Repr

def Base64Scan.push (s : Base64Scan) (value : Nat) : Base64Scan :=
  match s.quadPos with
  | 0 => { s with quadPos := 1, leftChar := value, pads := 0 }
  | 1 =>
      { s with
        quadPos := 2
        leftChar := value % 16
        pads := 0
        out := s.out ++ [UInt8.ofNat (s.leftChar * 4 + value / 16)] }
  | 2 =>
      { s with
        quadPos := 3
        leftChar := value % 4
        pads := 0
        out := s.out ++ [UInt8.ofNat (s.leftChar * 16 + value / 4)] }
  | _ =>
      { s with
        quadPos := 0
        leftChar := 0
        pads := 0
        out := s.out ++ [UInt8.ofNat (s.leftChar * 64 + value)] }

/-- The loop of `a2b_base64` in strict mode; `none` is `binascii.Error`. -/
def a2bBase64 (s : Base64Scan) : List Char → Option Bytes
  | [] => if s.quadPos = 0 then some s.out else none
  | c :: text =>
      if c = '=' then
        -- `quad_pos >= 2 && quad_pos + ++pads >= 4`: the pads are not counted before
        if 2 ≤ s.quadPos then
          if 4 ≤ s.quadPos + (s.pads + 1) then
            if text = [] then some s.out else none
          else a2bBase64 { s with paddingStarted := true, pads := s.pads + 1 } text
        else a2bBase64 { s with paddingStarted := true } text
      else
        match base64Value c with
        | none => none
        | some value => if s.paddingStarted then none else a2bBase64 (s.push value) text

def b64decode (text : List Char) : Option Bytes :=
  if text.head? = some '=' then none else a2bBase64 {} text

/-! ## 4. Reading back -/

theorem a2bBase64_char {s : Base64Scan} {n : Nat} (text : List Char) (hn : n < 64)
    (hpadding : s.paddingStarted = false) :
    a2bBase64 s (base64Char n :: text) = a2bBase64 (s.push n) text := by
  rw [a2bBase64, if_neg (base64Char_ne_pad n), base64Value_base64Char hn]
  exact if_neg (by rw [hpadding]; exact Bool.false_ne_true)

theorem ofNat_eq_of_toNat {n : Nat} {byte : UInt8} (h : n = byte.toNat) : UInt8.ofNat n = byte := by
  rw [h, UInt8.ofNat_toNat]

/-- Six and two bits of the first byte, four and four of the second, two and six of the third. -/
theorem a2bBase64_b64encode (data out : Bytes) :
    a2bBase64 { out } (b64encode data) = some (out ++ data) := by
  induction data using b64encode.induct generalizing out with
  | case1 a b c rest ih =>
      have ha := a.toNat_lt
      have hb := b.toNat_lt
      have hc := c.toNat_lt
      have hfirst : UInt8.ofNat (a.toNat / 4 * 4 + (a.toNat % 4 * 16 + b.toNat / 16) / 16) = a :=
        ofNat_eq_of_toNat (by omega)
      have hsecond : UInt8.ofNat ((a.toNat % 4 * 16 + b.toNat / 16) % 16 * 16 +
          (b.toNat % 16 * 4 + c.toNat / 64) / 4) = b := ofNat_eq_of_toNat (by omega)
      have hthird : UInt8.ofNat ((b.toNat % 16 * 4 + c.toNat / 64) % 4 * 64 + c.toNat % 64) = c :=
        ofNat_eq_of_toNat (by omega)
      rw [b64encode, a2bBase64_char _ (by omega) rfl, a2bBase64_char _ (by omega) rfl,
        a2bBase64_char _ (by omega) rfl, a2bBase64_char _ (by omega) rfl]
      simp only [Base64Scan.push, hfirst, hsecond, hthird]
      rw [ih]
      simp only [List.append_assoc, List.cons_append, List.nil_append]
  | case2 a b =>
      have ha := a.toNat_lt
      have hb := b.toNat_lt
      have hfirst : UInt8.ofNat (a.toNat / 4 * 4 + (a.toNat % 4 * 16 + b.toNat / 16) / 16) = a :=
        ofNat_eq_of_toNat (by omega)
      have hsecond : UInt8.ofNat ((a.toNat % 4 * 16 + b.toNat / 16) % 16 * 16 +
          b.toNat % 16 * 4 / 4) = b := ofNat_eq_of_toNat (by omega)
      rw [b64encode, a2bBase64_char _ (by omega) rfl, a2bBase64_char _ (by omega) rfl,
        a2bBase64_char _ (by omega) rfl]
      simp only [Base64Scan.push, hfirst, hsecond]
      simp [a2bBase64]
  | case3 a =>
      have ha := a.toNat_lt
      have hfirst : UInt8.ofNat (a.toNat / 4 * 4 + a.toNat % 4 * 16 / 16) = a :=
        ofNat_eq_of_toNat (by omega)
      rw [b64encode, a2bBase64_char _ (by omega) rfl, a2bBase64_char _ (by omega) rfl]
      simp only [Base64Scan.push, hfirst]
      simp [a2bBase64]
  | case4 => exact congrArg some (List.append_nil out).symm

theorem head?_b64encode_ne (data : Bytes) : (b64encode data).head? ≠ some '=' := by
  fun_cases b64encode data with
  | case4 => nofun
  | _ => exact fun h => base64Char_ne_pad _ (Option.some.inj h)

theorem b64decode_b64encode (data : Bytes) : b64decode (b64encode data) = some data := by
  rw [b64decode, if_neg (head?_b64encode_ne data), a2bBase64_b64encode, List.nil_append]

/-- What the encoder writes is of the alphabet, up to the padding. -/
theorem mem_b64encode {data : Bytes} {c : Char} (h : c ∈ b64encode data) :
    c ∈ base64Alphabet ∨ c = '=' := by
  induction data using b64encode.induct with
  | case1 a b d rest ih =>
      simp only [b64encode, List.mem_cons] at h
      rcases h with rfl | rfl | rfl | rfl | hrest
      · exact .inl (base64Char_mem _)
      · exact .inl (base64Char_mem _)
      · exact .inl (base64Char_mem _)
      · exact .inl (base64Char_mem _)
      · exact ih hrest
  | case2 a b =>
      simp only [b64encode, List.mem_cons, List.not_mem_nil, or_false] at h
      rcases h with rfl | rfl | rfl | rfl
      · exact .inl (base64Char_mem _)
      · exact .inl (base64Char_mem _)
      · exact .inl (base64Char_mem _)
      · exact .inr rfl
  | case3 a =>
      simp only [b64encode, List.mem_cons, List.not_mem_nil, or_false] at h
      rcases h with rfl | rfl | rfl | rfl
      · exact .inl (base64Char_mem _)
      · exact .inl (base64Char_mem _)
      · exact .inr rfl
      · exact .inr rfl
  | case4 => cases h

/-- A character outside of the alphabet is an error, wherever it stands. -/
theorem a2bBase64_foreign {text : List Char} {c : Char} (hmem : c ∈ text) (hpad : c ≠ '=')
    (hvalue : base64Value c = none) (s : Base64Scan) : a2bBase64 s text = none := by
  induction text generalizing s with
  | nil => cases hmem
  | cons first text ih =>
      rw [a2bBase64]
      rcases List.mem_cons.mp hmem with rfl | hrest
      · rw [if_neg hpad, hvalue]
      · rw [if_neg (List.ne_nil_of_mem hrest)]
        split
        · split
          · split
            · rfl
            · exact ih hrest _
          · exact ih hrest _
        · split
          · rfl
          · split
            · rfl
            · exact ih hrest _

theorem b64decode_foreign {text : List Char} {c : Char} (hmem : c ∈ text) (hpad : c ≠ '=')
    (hvalue : base64Value c = none) : b64decode text = none := by
  unfold b64decode
  split
  · rfl
  · exact a2bBase64_foreign hmem hpad hvalue {}

/-- Pads after a complete quad are passed over. -/
example : b64decode "QUJD==".toList = some [65, 66, 67] := by decide

end CryptoScanner.Python
