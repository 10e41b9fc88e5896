import CryptoScanner.Python.JsonDecoder

/-!
# Reading the output of a model

The three functions `_extract_json_object`, which differ in the exception for a text without an
object, and what the field coercions of their callers share.
-/

namespace CryptoScanner.Llm

open Library Python

abbrev JsonObject := List (String × Json)

def JsonObject.get (data : JsonObject) (key : String) : Json := (data.lookup key).getD .null

def extractJsonObject (missing : PyException) (limits : Limits) :
    List Char → Except PyException JsonObject
  | [] => .error missing
  | c :: text =>
      if c ≠ '\x7b' then extractJsonObject missing limits text
      else
        match rawDecode limits (c :: text) with
        | .ok (.dict data, _) => .ok data
        | .ok _ => extractJsonObject missing limits text
        | .error .malformed => extractJsonObject missing limits text
        | .error e => .error e.exception

/-- What the decoder makes of a text that starts with a brace: an object, an exception other than
`JSONDecodeError`, or nothing that ends the search. -/
def outcomeAt (limits : Limits) (text : List Char) : Option (Except DecodeError JsonObject) :=
  if text.head? = some '\x7b' then
    match rawDecode limits text with
    | .ok (.dict data, _) => some (.ok data)
    | .ok _ => none
    | .error .malformed => none
    | .error e => some (.error e)
  else none

def firstOutcome (limits : Limits) (text : List Char) : Option (Except DecodeError JsonObject) :=
  text.tails.findSome? (outcomeAt limits)

theorem extractJsonObject_eq (missing : PyException) (limits : Limits) (text : List Char) :
    extractJsonObject missing limits text =
      match firstOutcome limits text with
      | some (.ok data) => .ok data
      | some (.error e) => .error e.exception
      | none => .error missing := by
  induction text with
  | nil => rfl
  | cons c text ih =>
      have hfirst : firstOutcome limits (c :: text) =
          (outcomeAt limits (c :: text)).or (firstOutcome limits text) := by
        rw [firstOutcome, List.tails_cons, List.findSome?_cons]
        cases outcomeAt limits (c :: text) <;> rfl
      rw [extractJsonObject, hfirst, outcomeAt, List.head?_cons]
      by_cases hc : c = '\x7b'
      · rw [if_neg (not_not.mpr hc), if_pos (congrArg some hc)]
        cases hdecode : rawDecode limits (c :: text) with
        | error e =>
            cases e with
            | malformed => exact ih
            | digits => rfl
            | recursion => rfl
        | ok scanned =>
            obtain ⟨value, rest⟩ := scanned
            cases value with
            | dict data => rfl
            | null => exact ih
            | bool b => exact ih
            | int n => exact ih
            | float x => exact ih
            | str s => exact ih
            | list xs => exact ih
      · rw [if_pos hc, if_neg (fun h => hc (Option.some.inj h))]
        exact ih

/-! ## Numbers between 0 and 1 -/

/-- `max(0, min(1, x))` -/
def clampUnit : PyFloat → ℚ
  | .finite q => max 0 (min 1 q)
  | .inf => 1
  | .negInf => 0
  | .nan => 1

/-- `round(max(0, min(1, x)), 2)` -/
def unitConfidence (x : PyFloat) : ℚ := roundTwo (clampUnit x)

theorem unitConfidence_mem (x : PyFloat) : 0 ≤ unitConfidence x ∧ unitConfidence x ≤ 1 := by
  apply roundTwo_mem
  · cases x with
    | finite q => exact le_max_left _ _
    | inf => exact zero_le_one
    | negInf => exact le_refl _
    | nan => exact zero_le_one
  · cases x with
    | finite q => exact max_le zero_le_one (min_le_left _ _)
    | inf => exact le_refl _
    | negInf => exact zero_le_one
    | nan => exact le_refl _

section

variable [PyText] (floatRepr : PyFloat → List Char)

/-- `str(item).strip()` -/
def itemText (item : Json) : List Char := strip (item.pyStr floatRepr)

def itemTexts (items : List Json) : List (List Char) :=
  (items.map (itemText floatRepr)).filter (· ≠ [])

/-- `float(value)` raises `OverflowError` exactly on the integers that are too large. -/
theorem pyFloat_cases (value : Json) :
    (∃ x, pyFloat value = .ok x) ∧ (∀ n, value = .int n → ¬ Oversized n) ∨
    ((pyFloat value = .error .value ∨ pyFloat value = .error .type) ∧ ∀ n, value ≠ .int n) ∨
    pyFloat value = .error .overflow ∧ ∃ n, value = .int n ∧ Oversized n := by
  cases value with
  | null => exact .inr (.inl ⟨.inr rfl, fun _ h => nomatch h⟩)
  | bool b => exact .inl ⟨⟨_, rfl⟩, fun _ h => nomatch h⟩
  | int n =>
      by_cases h : Oversized n
      · exact .inr (.inr ⟨if_pos h, n, rfl, h⟩)
      · refine .inl ⟨⟨_, if_neg h⟩, fun m hm => ?_⟩
        cases hm
        exact h
  | float x => exact .inl ⟨⟨x, rfl⟩, fun _ h => nomatch h⟩
  | str text =>
      cases hread : floatOfText text.toList with
      | none => exact .inr (.inl ⟨.inl (by rw [pyFloat, hread]), fun _ h => nomatch h⟩)
      | some x => exact .inl ⟨⟨x, by rw [pyFloat, hread]⟩, fun _ h => nomatch h⟩
  | list items => exact .inr (.inl ⟨.inr rfl, fun _ h => nomatch h⟩)
  | dict entries => exact .inr (.inl ⟨.inr rfl, fun _ h => nomatch h⟩)

end

end CryptoScanner.Llm
