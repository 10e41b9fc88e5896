import CryptoScanner.Library.Dict
import CryptoScanner.Python.Number

/-!
# The JSON decoder

`json.JSONDecoder().raw_decode`, which also reads `NaN` and `Infinity`.  A surrogate without its
partner, which is no character here, is read as the replacement character.
-/

namespace CryptoScanner.Python

open Library

/-! ## 1. Strings and numbers -/

/-- The text is not JSON (`JSONDecodeError`), an integer has too many digits (`ValueError`), or the
values are nested too deep (`RecursionError`). -/
inductive DecodeError where
  | malformed
  | digits
  | recursion
  deriving DecidableEq, Repr

def DecodeError.exception : DecodeError → PyException
  | malformed => .jsonDecode
  | digits => .value
  | recursion => .recursion

abbrev Scan (α : Type) := Except DecodeError (α × List Char)

def hexDigit? (c : Char) : Option Nat :=
  if c.isDigit then some (c.toNat - '0'.toNat)
  else if 'a' ≤ c ∧ c ≤ 'f' then some (c.toNat - 'a'.toNat + 10)
  else if 'A' ≤ c ∧ c ≤ 'F' then some (c.toNat - 'A'.toNat + 10)
  else none

def hexUnit? (a b c d : Char) : Option Nat := do
  return 4096 * (← hexDigit? a) + 256 * (← hexDigit? b) + 16 * (← hexDigit? c) + (← hexDigit? d)

def escapes : List (Char × Char) :=
  [('"', '"'), ('\\', '\\'), ('/', '/'), ('b', '\x08'), ('f', '\x0c'), ('n', '\n'), ('r', '\r'),
    ('t', '\t')]

def scanUnits : List Char → Scan (List Nat)
  | [] => .error .malformed
  | '"' :: text => .ok ([], text)
  | '\\' :: 'u' :: a :: b :: c :: d :: text =>
      match hexUnit? a b c d with
      | some unit => (scanUnits text).map fun scanned => (unit :: scanned.1, scanned.2)
      | none => .error .malformed
  | '\\' :: c :: text =>
      match escapes.lookup c with
      | some char => (scanUnits text).map fun scanned => (char.toNat :: scanned.1, scanned.2)
      | none => .error .malformed
  | c :: text =>
      if c.toNat < 0x20 ∨ c = '\\' then .error .malformed
      else (scanUnits text).map fun scanned => (c.toNat :: scanned.1, scanned.2)

def isHighSurrogate (unit : Nat) : Bool := 0xD800 ≤ unit && unit < 0xDC00

def isLowSurrogate (unit : Nat) : Bool := 0xDC00 ≤ unit && unit < 0xE000

def joinSurrogates : List Nat → List Char
  | [] => []
  | [unit] => [if isHighSurrogate unit || isLowSurrogate unit then '\uFFFD' else Char.ofNat unit]
  | high :: low :: units =>
      if isHighSurrogate high && isLowSurrogate low then
        Char.ofNat (0x10000 + (high - 0xD800) * 0x400 + (low - 0xDC00)) :: joinSurrogates units
      else
        (if isHighSurrogate high || isLowSurrogate high then '\uFFFD' else Char.ofNat high) ::
          joinSurrogates (low :: units)

def scanString (text : List Char) : Scan String :=
  (scanUnits text).map fun scanned => (String.ofList (joinSurrogates scanned.1), scanned.2)

def wholeDigits (text : List Char) : List Char :=
  if text.head? = some '0' then ['0'] else text.takeWhile Char.isDigit

def scanNumberTail (limits : Limits) (negative : Bool) (whole text : List Char) : Scan Json :=
  let fraction := (splitFraction text).getD ([], text)
  match splitExponent fraction.2 with
  | some exponent =>
      .ok (.float (.ofRat (decimalValue negative whole fraction.1 exponent.1)), exponent.2)
  | none =>
      if fraction.1 ≠ [] then
        .ok (.float (.ofRat (decimalValue negative whole fraction.1 0)), fraction.2)
      else if limits.intDigits < whole.length then .error .digits
      else .ok (.int (if negative then -natOfDigits whole else natOfDigits whole), fraction.2)

def scanNumber (limits : Limits) (text : List Char) : Scan Json :=
  let negative := text.head? = some '-'
  let body := if negative then text.tail else text
  if wholeDigits body = [] then .error .malformed
  else scanNumberTail limits negative (wholeDigits body) (body.drop (wholeDigits body).length)

/-! ## 2. Values -/

def isJsonSpace (c : Char) : Bool := c == ' ' || c == '\t' || c == '\n' || c == '\r'

def skipSpace (text : List Char) : List Char := text.dropWhile isJsonSpace

def jsonWords : List (String × Json) :=
  [("null", .null), ("true", .bool true), ("false", .bool false), ("NaN", .float .nan),
    ("Infinity", .float .inf), ("-Infinity", .float .negInf)]

def scanScalar (limits : Limits) (text : List Char) : Scan Json :=
  match jsonWords.find? fun word => word.1.toList.isPrefixOf text with
  | some word => .ok (word.2, text.drop word.1.length)
  | none => scanNumber limits text

mutual

/-- `scan_once`, with what is left of the recursion limit.  The first argument bounds the calls, and
running out of it is no outcome of the decoder (`isSome_scanOnce`). -/
def scanOnce (limits : Limits) : (calls depth : Nat) → List Char → Option (Scan Json)
  | 0, _, _ => none
  | calls + 1, depth, text =>
      match text with
      | '"' :: text => some ((scanString text).map fun scanned => (.str scanned.1, scanned.2))
      | '\x7b' :: text =>
          match depth with
          | 0 => some (.error .recursion)
          | depth + 1 =>
              match skipSpace text with
              | '\x7d' :: text => some (.ok (.dict [], text))
              | text => scanMembers limits calls depth [] text
      | '[' :: text =>
          match depth with
          | 0 => some (.error .recursion)
          | depth + 1 =>
              match skipSpace text with
              | ']' :: text => some (.ok (.list [], text))
              | text => scanItems limits calls depth [] text
      | text => some (scanScalar limits text)

def scanMembers (limits : Limits) : (calls depth : Nat) → List (String × Json) → List Char →
    Option (Scan Json)
  | 0, _, _, _ => none
  | calls + 1, depth, members, text =>
      match text with
      | '"' :: text =>
          match scanString text with
          | .error e => some (.error e)
          | .ok (key, text) =>
              match skipSpace text with
              | ':' :: text =>
                  (scanOnce limits calls depth (skipSpace text)).bind fun scanned =>
                    match scanned with
                    | .error e => some (.error e)
                    | .ok (value, text) =>
                        match skipSpace text with
                        | '\x7d' :: text => some (.ok (.dict (Dict.set key value members), text))
                        | ',' :: text =>
                            scanMembers limits calls depth (Dict.set key value members)
                              (skipSpace text)
                        | _ => some (.error .malformed)
              | _ => some (.error .malformed)
      | _ => some (.error .malformed)

def scanItems (limits : Limits) : (calls depth : Nat) → List Json → List Char → Option (Scan Json)
  | 0, _, _, _ => none
  | calls + 1, depth, items, text =>
      (scanOnce limits calls depth text).bind fun scanned =>
        match scanned with
        | .error e => some (.error e)
        | .ok (value, text) =>
            match skipSpace text with
            | ']' :: text => some (.ok (.list (items ++ [value]), text))
            | ',' :: text => scanItems limits calls depth (items ++ [value]) (skipSpace text)
            | _ => some (.error .malformed)

end

/-! ## 3. The decoder always has an outcome -/

theorem scan_of_map {α β : Type} {f : α → β} {scan : Scan α} {value : β} {rest : List Char}
    (h : scan.map (fun scanned => (f scanned.1, scanned.2)) = .ok (value, rest)) :
    ∃ read, scan = .ok (read, rest) := by
  cases scan with
  | error e => cases h
  | ok scanned =>
      cases h
      exact ⟨scanned.1, rfl⟩

theorem scanUnits_shortens {text : List Char} {units : List Nat} {rest : List Char}
    (h : scanUnits text = .ok (units, rest)) : rest.length < text.length := by
  fun_induction scanUnits text generalizing units with
  | case1 => cases h
  | case2 text =>
      cases h
      exact Nat.lt_succ_self _
  | case3 a b c d text unit hunit ih =>
      obtain ⟨units', htail⟩ := scan_of_map h
      have hlt := ih htail
      simp only [List.length_cons]
      omega
  | case4 => cases h
  | case5 c text char hchar hescape ih =>
      obtain ⟨units', htail⟩ := scan_of_map h
      have hlt := ih htail
      simp only [List.length_cons]
      omega
  | case6 => cases h
  | case7 => cases h
  | case8 c text hquote hhex hbackslash hchar ih =>
      obtain ⟨units', htail⟩ := scan_of_map h
      have hlt := ih htail
      rw [List.length_cons]
      omega

theorem scanString_shortens {text : List Char} {value : String} {rest : List Char}
    (h : scanString text = .ok (value, rest)) : rest.length < text.length := by
  obtain ⟨units, hunits⟩ := scan_of_map (f := fun units => String.ofList (joinSurrogates units)) h
  exact scanUnits_shortens hunits

theorem splitFraction_length {text fraction rest : List Char}
    (h : splitFraction text = some (fraction, rest)) : rest.length ≤ text.length := by
  unfold splitFraction at h
  split at h
  · rename_i text
    split_ifs at h
    cases h
    have hdrop := (List.dropWhile_suffix (p := Char.isDigit) (l := text)).length_le
    rw [List.length_cons]
    omega
  · cases h

theorem splitExponent_length {text rest : List Char} {exponent : Int}
    (h : splitExponent text = some (exponent, rest)) : rest.length ≤ text.length := by
  cases text with
  | nil => cases h
  | cons c text =>
      unfold splitExponent at h
      dsimp only at h
      by_cases hnone : c.toLower ≠ 'e' ∨ (splitSign text).2.takeWhile Char.isDigit = []
      · rw [if_pos hnone] at h
        cases h
      · rw [if_neg hnone] at h
        have hrest := congrArg Prod.snd (Option.some.inj h)
        change (splitSign text).2.dropWhile Char.isDigit = rest at hrest
        have hdrop :=
          (List.dropWhile_suffix (p := Char.isDigit) (l := (splitSign text).2)).length_le
        have hsign : (splitSign text).2.length ≤ text.length := by
          unfold splitSign
          split <;> simp
        rw [← hrest, List.length_cons]
        exact (hdrop.trans hsign).trans (Nat.le_succ _)

theorem scanNumberTail_length {limits : Limits} {negative : Bool} {whole text : List Char}
    {value : Json} {rest : List Char}
    (h : scanNumberTail limits negative whole text = .ok (value, rest)) :
    rest.length ≤ text.length := by
  have hfraction : ((splitFraction text).getD ([], text)).2.length ≤ text.length := by
    cases hsplit : splitFraction text with
    | none => exact le_refl _
    | some fraction => exact splitFraction_length hsplit
  unfold scanNumberTail at h
  dsimp only at h
  cases hexponent : splitExponent ((splitFraction text).getD ([], text)).2 with
  | some exponent =>
      rw [hexponent] at h
      cases h
      exact (splitExponent_length hexponent).trans hfraction
  | none =>
      rw [hexponent] at h
      dsimp only at h
      split_ifs at h <;>
        · cases h
          exact hfraction

theorem scanNumber_shortens {limits : Limits} {text : List Char} {value : Json} {rest : List Char}
    (h : scanNumber limits text = .ok (value, rest)) : rest.length < text.length := by
  unfold scanNumber at h
  dsimp only at h
  generalize hbody : (if text.head? = some '-' then text.tail else text) = body at h
  have hbodyLength : body.length ≤ text.length := by
    rw [← hbody]
    split
    · rw [List.length_tail]
      omega
    · exact le_refl _
  by_cases hnil : wholeDigits body = []
  · rw [if_pos hnil] at h
    cases h
  · rw [if_neg hnil] at h
    have htail := scanNumberTail_length h
    have hwhole : 0 < (wholeDigits body).length := List.length_pos_iff.mpr hnil
    have hpos : 0 < body.length := by
      rw [List.length_pos_iff]
      rintro rfl
      exact hnil rfl
    rw [List.length_drop] at htail
    omega

theorem scanScalar_shortens {limits : Limits} {text : List Char} {value : Json} {rest : List Char}
    (h : scanScalar limits text = .ok (value, rest)) : rest.length < text.length := by
  unfold scanScalar at h
  split at h
  · rename_i word hword
    have hprefix : word.1.toList <+: text := by
      have hfound := List.find?_some hword
      exact List.isPrefixOf_iff_prefix.mp hfound
    have hpos : ∀ word ∈ jsonWords, 0 < word.1.length := by decide
    have hlength := hpos word (List.mem_of_find?_eq_some hword)
    have hle := hprefix.length_le
    rw [String.length_toList] at hle
    cases h
    rw [List.length_drop]
    omega
  · exact scanNumber_shortens h

theorem length_skipSpace (text : List Char) : (skipSpace text).length ≤ text.length :=
  (List.dropWhile_suffix (p := isJsonSpace)).length_le

/-- There is an outcome, and what is read of the text is not empty. -/
def Shortens (text : List Char) (outcome : Option (Scan Json)) : Prop :=
  ∃ scanned, outcome = some scanned ∧
    ∀ value rest, scanned = .ok (value, rest) → rest.length < text.length

theorem Shortens.error (text : List Char) (e : DecodeError) :
    Shortens text (some (.error e)) :=
  ⟨.error e, rfl, fun _ _ h => nomatch h⟩

theorem Shortens.ok {text rest : List Char} (value : Json) (h : rest.length < text.length) :
    Shortens text (some (.ok (value, rest))) := by
  refine ⟨.ok (value, rest), rfl, ?_⟩
  intro value' rest' heq
  cases heq
  exact h

theorem Shortens.mono {text more : List Char} {outcome : Option (Scan Json)}
    (h : Shortens text outcome) (hle : text.length ≤ more.length) : Shortens more outcome := by
  obtain ⟨scanned, houtcome, hlt⟩ := h
  exact ⟨scanned, houtcome, fun value rest heq => (hlt value rest heq).trans_le hle⟩

def EnoughForMembers (limits : Limits) (calls : Nat) : Prop :=
  ∀ depth members text, 2 * text.length + 2 ≤ calls →
    Shortens text (scanMembers limits calls depth members text)

def EnoughForItems (limits : Limits) (calls : Nat) : Prop :=
  ∀ depth items text, 2 * text.length + 2 ≤ calls →
    Shortens text (scanItems limits calls depth items text)

def EnoughForValue (limits : Limits) (calls : Nat) : Prop :=
  ∀ depth text, 2 * text.length + 1 ≤ calls → Shortens text (scanOnce limits calls depth text)

section

variable {limits : Limits} {calls : Nat}

theorem enoughForValue_succ (hmembers : EnoughForMembers limits calls)
    (hitems : EnoughForItems limits calls) : EnoughForValue limits (calls + 1) := by
  intro depth text hcalls
  unfold scanOnce
  split
  · rename_i text
    cases hstring : scanString text with
    | error e => exact Shortens.error _ e
    | ok scanned =>
        have hlt := scanString_shortens hstring
        apply Shortens.ok
        rw [List.length_cons]
        omega
  · rename_i text
    rw [List.length_cons] at hcalls
    have hskip := length_skipSpace text
    -- the recursion limit raises; below it the brace itself has shortened the text
    cases depth with
    | zero => exact Shortens.error _ _
    | succ depth =>
        dsimp only
        split
        · rename_i rest hrest
          rw [hrest, List.length_cons] at hskip
          apply Shortens.ok
          rw [List.length_cons]
          omega
        · apply (hmembers depth [] (skipSpace text) (by omega)).mono
          rw [List.length_cons]
          omega
  · rename_i text
    rw [List.length_cons] at hcalls
    have hskip := length_skipSpace text
    cases depth with
    | zero => exact Shortens.error _ _
    | succ depth =>
        dsimp only
        split
        · rename_i rest hrest
          rw [hrest, List.length_cons] at hskip
          apply Shortens.ok
          rw [List.length_cons]
          omega
        · apply (hitems depth [] (skipSpace text) (by omega)).mono
          rw [List.length_cons]
          omega
  · exact ⟨_, rfl, fun value rest heq => scanScalar_shortens heq⟩

/-- The key and its colon pay for the call that reads the value. -/
theorem enoughForMembers_succ (hvalue : EnoughForValue limits calls)
    (hmembers : EnoughForMembers limits calls) : EnoughForMembers limits (calls + 1) := by
  intro depth members text hcalls
  unfold scanMembers
  split
  · rename_i text
    rw [List.length_cons] at hcalls
    cases hstring : scanString text with
    | error e => exact Shortens.error _ e
    | ok scanned =>
        obtain ⟨key, rest⟩ := scanned
        have hkey := scanString_shortens hstring
        have hskip := length_skipSpace rest
        dsimp only
        split
        · rename_i afterColon heq
          rw [heq, List.length_cons] at hskip
          have hskip' := length_skipSpace afterColon
          obtain ⟨scanned, houtcome, hlt⟩ := hvalue depth (skipSpace afterColon) (by omega)
          rw [houtcome, Option.bind_some]
          cases scanned with
          | error e => exact Shortens.error _ e
          | ok scanned =>
              obtain ⟨value, rest'⟩ := scanned
              have hrest := hlt value rest' rfl
              have hskip'' := length_skipSpace rest'
              dsimp only
              split
              · rename_i rest'' hclose
                rw [hclose, List.length_cons] at hskip''
                exact Shortens.ok _ (by rw [List.length_cons]; omega)
              · rename_i rest'' hcomma
                rw [hcomma, List.length_cons] at hskip''
                have hlast := length_skipSpace rest''
                exact (hmembers depth _ _ (by omega)).mono (by rw [List.length_cons]; omega)
              · exact Shortens.error _ _
        · exact Shortens.error _ _
  · exact Shortens.error _ _

/-- An item is read first, so the next call starts on a shorter text. -/
theorem enoughForItems_succ (hvalue : EnoughForValue limits calls)
    (hitems : EnoughForItems limits calls) : EnoughForItems limits (calls + 1) := by
  intro depth items text hcalls
  unfold scanItems
  obtain ⟨scanned, houtcome, hlt⟩ := hvalue depth text (by omega)
  rw [houtcome, Option.bind_some]
  cases scanned with
  | error e => exact Shortens.error _ e
  | ok scanned =>
      obtain ⟨value, rest⟩ := scanned
      have hrest := hlt value rest rfl
      have hskip := length_skipSpace rest
      dsimp only
      split
      · rename_i rest' heq
        rw [heq, List.length_cons] at hskip
        exact Shortens.ok _ (by omega)
      · rename_i rest' heq
        rw [heq, List.length_cons] at hskip
        have hskip' := length_skipSpace rest'
        exact (hitems depth _ _ (by omega)).mono (by omega)
      · exact Shortens.error _ _

end

/-- The three at once: the scanner reads members and items, and these call the scanner. -/
theorem scan_shortens (limits : Limits) (calls : Nat) :
    EnoughForValue limits calls ∧ EnoughForMembers limits calls ∧ EnoughForItems limits calls := by
  induction calls with
  | zero =>
      refine ⟨fun depth text h => ?_, fun depth members text h => ?_, fun depth items text h => ?_⟩
      · omega
      · omega
      · omega
  | succ calls ih =>
      obtain ⟨ihValue, ihMembers, ihItems⟩ := ih
      exact ⟨enoughForValue_succ ihMembers ihItems, enoughForMembers_succ ihValue ihMembers,
        enoughForItems_succ ihValue ihItems⟩

theorem isSome_scanOnce (limits : Limits) (text : List Char) :
    (scanOnce limits (2 * text.length + 1) limits.recursion text).isSome = true := by
  obtain ⟨scanned, houtcome, -⟩ :=
    (scan_shortens limits (2 * text.length + 1)).1 limits.recursion text (le_refl _)
  rw [houtcome, Option.isSome_some]

def rawDecode (limits : Limits) (text : List Char) : Scan Json :=
  (scanOnce limits (2 * text.length + 1) limits.recursion text).get (isSome_scanOnce limits text)

theorem rawDecode_of_scanOnce {limits : Limits} {text : List Char} {scanned : Scan Json}
    (h : scanOnce limits (2 * text.length + 1) limits.recursion text = some scanned) :
    rawDecode limits text = scanned := by
  unfold rawDecode
  simp only [h, Option.get_some]

end CryptoScanner.Python
