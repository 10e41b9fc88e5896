import CryptoScanner.Python.Number

/-!
# Digits in a text

`str.isdigit` also accepts digits that `int` does not read, such as superscripts; `\d` is a decimal
digit of any script.
-/

namespace CryptoScanner.Python

/-- The digits of `str.isdigit`. -/
class PyDigits [PyText] where
  isDigit : Char → Bool
  isDigit_of_decimal : ∀ c d, PyText.decimal c = some d → isDigit c = true
  isDigit_ascii : ∀ c, isAscii c = true → isDigit c = c.isDigit

/-- The digits of an interpreter that knows no character beyond ASCII. -/
@[reducible] def asciiDigits : letI := asciiText
    PyDigits :=
  letI := asciiText
  { isDigit := Char.isDigit
    isDigit_of_decimal := by
      intro c d h
      by_contra hno
      rw [show PyText.decimal c = none from if_neg hno] at h
      cases h
    isDigit_ascii := fun _ _ => rfl }

/-- The longest runs of elements that `p` selects, in order. -/
def runs {α : Type*} (p : α → Bool) : List α → List (List α)
  | [] => []
  | c :: s =>
      if p c then
        match s.head?.any p, runs p s with
        | true, run :: rest => (c :: run) :: rest
        | _, rest => [c] :: rest
      else runs p s

def decimalText (n : Nat) : List Char := Nat.toDigits 10 n

theorem decimalText_ne_nil (n : Nat) : decimalText n ≠ [] := Nat.toDigits_ne_nil

theorem isDigit_of_mem_decimalText {n : Nat} {c : Char} (h : c ∈ decimalText n) :
    c.isDigit = true :=
  Nat.isDigit_of_mem_toDigits (by decide) (by decide) h

/-- A decimal digit is an ASCII character, not white space and without case. -/
theorem ascii_of_isDigit {c : Char} (h : c.isDigit = true) :
    isAscii c = true ∧ isAsciiSpace c = false ∧ c.toUpper = c := by
  have hbounds : 48 ≤ c.toNat ∧ c.toNat ≤ 57 := by
    simpa [Char.isDigit, UInt32.le_iff_toNat_le] using h
  have hascii : isAscii c = true := by
    simp only [isAscii, decide_eq_true_eq]
    omega
  have hspace : isAsciiSpace c = false := by
    by_contra hno
    have hlow := toNat_le_of_isAsciiSpace (Bool.eq_true_of_not_eq_false hno)
    omega
  have hupper : c.toUpper = c := toUpper_of_lt (by omega)
  exact ⟨hascii, hspace, hupper⟩

variable [PyText]

theorem isSpace_of_mem_decimalText {n : Nat} {c : Char} (h : c ∈ decimalText n) :
    PyText.isSpace c = false := by
  have hdigit := ascii_of_isDigit (isDigit_of_mem_decimalText h)
  rw [PyText.isSpace_ascii c hdigit.1, hdigit.2.1]

theorem upper_decimalText (n : Nat) : upper (decimalText n) = decimalText n := by
  have hsame : (decimalText n).map Char.toUpper = (decimalText n).map id := by
    apply List.map_congr_left
    intro c hc
    exact (ascii_of_isDigit (isDigit_of_mem_decimalText hc)).2.2
  rw [upper_ascii fun c hc => (ascii_of_isDigit (isDigit_of_mem_decimalText hc)).1, hsame,
    List.map_id]

def isDigitText [PyDigits] (text : List Char) : Bool := text != [] && text.all PyDigits.isDigit

/-- `re.findall(r"\d+", text)` -/
def digitRuns (text : List Char) : List (List Char) :=
  runs (fun c => (PyText.decimal c).isSome) text

end CryptoScanner.Python
