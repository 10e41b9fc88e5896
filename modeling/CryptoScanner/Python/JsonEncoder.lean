import CryptoScanner.Python.Digits
import CryptoScanner.Python.JsonDecoder

/-!
# The JSON encoder

`json.dumps(value, sort_keys=True)`, which writes ASCII, and what the decoder makes of its output.
-/

namespace CryptoScanner.Python

open Library

/-! ## 1. Strings -/

def hexDigit (n : Nat) : Char := if n < 10 then Char.ofNat (48 + n) else Char.ofNat (87 + n)

/-- `'\\u{0:04x}'.format(unit)` -/
def escapeUnit (unit : Nat) : List Char :=
  ['\\', 'u', hexDigit (unit / 4096 % 16), hexDigit (unit / 256 % 16), hexDigit (unit / 16 % 16),
    hexDigit (unit % 16)]

def letterEscapes : List (Char × Char) :=
  [('"', '"'), ('\\', '\\'), ('\n', 'n'), ('\r', 'r'), ('\t', 't'), ('\x0c', 'f'), ('\x08', 'b')]

def codeUnits (c : Char) : List Nat :=
  if c.toNat < 0x10000 then [c.toNat]
  else [0xD800 + (c.toNat - 0x10000) / 0x400, 0xDC00 + (c.toNat - 0x10000) % 0x400]

/-- A character inside the quotes of `py_encode_basestring_ascii`. -/
def escapeChar (c : Char) : List Char :=
  match letterEscapes.lookup c with
  | some letter => ['\\', letter]
  | none =>
      if 0x20 ≤ c.toNat ∧ c.toNat ≤ 0x7e then [c] else (codeUnits c).flatMap escapeUnit

def encodeString (s : String) : List Char := '"' :: s.toList.flatMap escapeChar ++ ['"']

theorem hexDigit?_hexDigit : ∀ n, n < 16 → hexDigit? (hexDigit n) = some n := by decide

theorem scanUnits_escapeUnit {unit : Nat} (h : unit < 0x10000) (text : List Char) :
    scanUnits (escapeUnit unit ++ text) =
      (scanUnits text).map fun scanned => (unit :: scanned.1, scanned.2) := by
  have hunit : hexUnit? (hexDigit (unit / 4096 % 16)) (hexDigit (unit / 256 % 16))
      (hexDigit (unit / 16 % 16)) (hexDigit (unit % 16)) = some unit := by
    simp only [hexUnit?, hexDigit?_hexDigit _ (Nat.mod_lt _ (by decide)), bind, Option.bind, pure]
    congr 1
    omega
  simp only [escapeUnit, List.cons_append, List.nil_append, scanUnits, hunit]

theorem scanUnits_letter {c letter : Char} (hmem : (c, letter) ∈ letterEscapes)
    (text : List Char) :
    scanUnits ('\\' :: letter :: text) =
      (scanUnits text).map fun scanned => (c.toNat :: scanned.1, scanned.2) := by
  have hentries : ∀ entry ∈ letterEscapes,
      entry.2 ≠ 'u' ∧ escapes.lookup entry.2 = some entry.1 := by decide
  obtain ⟨hletter, hlookup⟩ := hentries _ hmem
  rw [scanUnits, hlookup]
  intro a b c' d text' heq
  exact absurd heq hletter

theorem scanUnits_plain {c : Char} (hquote : c ≠ '"') (hbackslash : c ≠ '\\')
    (hcontrol : 0x20 ≤ c.toNat) (text : List Char) :
    scanUnits (c :: text) =
      (scanUnits text).map fun scanned => (c.toNat :: scanned.1, scanned.2) := by
  rw [scanUnits.eq_def]
  split
  all_goals simp_all

theorem codeUnits_lt {c : Char} {unit : Nat} (h : unit ∈ codeUnits c) : unit < 0x10000 := by
  have hvalid : c.toNat < 0xD800 ∨ 0xDFFF < c.toNat ∧ c.toNat < 0x110000 := c.valid
  unfold codeUnits at h
  by_cases hbasic : c.toNat < 0x10000
  · rw [if_pos hbasic, List.mem_singleton] at h
    omega
  · rw [if_neg hbasic] at h
    simp only [List.mem_cons, List.not_mem_nil, or_false] at h
    omega

theorem scanUnits_escapeUnits {units : List Nat} (h : ∀ unit ∈ units, unit < 0x10000)
    (text : List Char) :
    scanUnits (units.flatMap escapeUnit ++ text) =
      (scanUnits text).map fun scanned => (units ++ scanned.1, scanned.2) := by
  induction units with
  | nil =>
      rw [List.flatMap_nil, List.nil_append]
      cases scanUnits text <;> rfl
  | cons unit units ih =>
      rw [List.flatMap_cons, List.append_assoc, scanUnits_escapeUnit (h _ List.mem_cons_self),
        ih fun other hother => h other (List.mem_cons_of_mem _ hother)]
      cases scanUnits text <;> rfl

/-- The decoder reads the code units of every character that the encoder writes. -/
theorem scanUnits_escapeChar (c : Char) (text : List Char) :
    scanUnits (escapeChar c ++ text) =
      (scanUnits text).map fun scanned => (codeUnits c ++ scanned.1, scanned.2) := by
  unfold escapeChar
  cases hletter : letterEscapes.lookup c with
  | some letter =>
      obtain ⟨before, after, heq, -⟩ := List.lookup_eq_some_iff.mp hletter
      have hmem : (c, letter) ∈ letterEscapes := by
        rw [heq]
        exact List.mem_append_right _ List.mem_cons_self
      have hunits : ∀ entry ∈ letterEscapes, codeUnits entry.1 = [entry.1.toNat] := by decide
      rw [show codeUnits c = [c.toNat] from hunits _ hmem]
      exact scanUnits_letter hmem text
  | none =>
      dsimp only
      by_cases hplain : 0x20 ≤ c.toNat ∧ c.toNat ≤ 0x7e
      · have hquote : c ≠ '"' := by
          rintro rfl
          cases hletter
        have hbackslash : c ≠ '\\' := by
          rintro rfl
          cases hletter
        rw [if_pos hplain, codeUnits, if_pos (by omega)]
        exact scanUnits_plain hquote hbackslash hplain.1 text
      · rw [if_neg hplain, scanUnits_escapeUnits fun unit => codeUnits_lt]

theorem joinSurrogates_single {unit : Nat} (hhigh : isHighSurrogate unit = false)
    (hlow : isLowSurrogate unit = false) (units : List Nat) :
    joinSurrogates (unit :: units) = Char.ofNat unit :: joinSurrogates units := by
  cases units with
  | nil => simp [joinSurrogates, hhigh, hlow]
  | cons next units => simp [joinSurrogates, hhigh, hlow]

theorem joinSurrogates_codeUnits (c : Char) (units : List Nat) :
    joinSurrogates (codeUnits c ++ units) = c :: joinSurrogates units := by
  have hvalid : c.toNat < 0xD800 ∨ 0xDFFF < c.toNat ∧ c.toNat < 0x110000 := c.valid
  unfold codeUnits
  by_cases hbasic : c.toNat < 0x10000
  · have hhigh : isHighSurrogate c.toNat = false := by
      simp only [isHighSurrogate, Bool.and_eq_false_iff, decide_eq_false_iff_not]
      omega
    have hlow : isLowSurrogate c.toNat = false := by
      simp only [isLowSurrogate, Bool.and_eq_false_iff, decide_eq_false_iff_not]
      omega
    rw [if_pos hbasic]
    exact (joinSurrogates_single hhigh hlow units).trans (by rw [Char.ofNat_toNat])
  · have hhigh : isHighSurrogate (0xD800 + (c.toNat - 0x10000) / 0x400) = true := by
      simp only [isHighSurrogate, Bool.and_eq_true, decide_eq_true_eq]
      omega
    have hlow : isLowSurrogate (0xDC00 + (c.toNat - 0x10000) % 0x400) = true := by
      simp only [isLowSurrogate, Bool.and_eq_true, decide_eq_true_eq]
      omega
    have hjoined : 0x10000 + (0xD800 + (c.toNat - 0x10000) / 0x400 - 0xD800) * 0x400 +
        (0xDC00 + (c.toNat - 0x10000) % 0x400 - 0xDC00) = c.toNat := by
      omega
    rw [if_neg hbasic, List.cons_append, List.cons_append, List.nil_append, joinSurrogates, hhigh,
      hlow, Bool.and_true, if_pos rfl, hjoined, Char.ofNat_toNat]

theorem scanUnits_escaped (s rest : List Char) :
    scanUnits (s.flatMap escapeChar ++ '"' :: rest) = .ok (s.flatMap codeUnits, rest) := by
  induction s with
  | nil => rw [List.flatMap_nil, List.nil_append, scanUnits]; rfl
  | cons c s ih =>
      rw [List.flatMap_cons, List.append_assoc, scanUnits_escapeChar, ih]
      rfl

theorem joinSurrogates_units (s : List Char) : joinSurrogates (s.flatMap codeUnits) = s := by
  induction s with
  | nil => rfl
  | cons c s ih => rw [List.flatMap_cons, joinSurrogates_codeUnits, ih]

/-- A string is read back, whatever its characters are. -/
theorem scanString_escaped (s : String) (rest : List Char) :
    scanString (s.toList.flatMap escapeChar ++ '"' :: rest) = .ok (s, rest) := by
  rw [scanString, scanUnits_escaped]
  simp only [Except.map, joinSurrogates_units, String.ofList_toList]

/-! ## 2. Numbers -/

def encodeInt (n : Int) : List Char :=
  if n < 0 then '-' :: decimalText n.natAbs else decimalText n.natAbs

/-- `floatstr`, given the shortest decimal form of a finite float. -/
def encodeFloat (floatRepr : PyFloat → List Char) : PyFloat → List Char
  | .nan => "NaN".toList
  | .inf => "Infinity".toList
  | .negInf => "-Infinity".toList
  | .finite q => floatRepr (.finite q)

/-- Digits without a superfluous zero in front. -/
structure WholePart (digits : List Char) : Prop where
  ne_nil : digits ≠ []
  isDigit : ∀ c ∈ digits, c.isDigit = true
  zero : digits.head? = some '0' → digits = ['0']

/-- A numeral ends here: the text does not go on with a digit, a fraction or an exponent. -/
def Ends (rest : List Char) : Prop :=
  ∀ c ∈ rest.head?, c.isDigit = false ∧ c ≠ '.' ∧ c.toLower ≠ 'e'

def signText (negative : Bool) : List Char := if negative then ['-'] else []

/-- A numeral with a point and no exponent, which is read as the double. -/
def DecimalText (text : List Char) (q : ℚ) : Prop :=
  ∃ negative whole fraction, text = signText negative ++ (whole ++ '.' :: fraction) ∧
    WholePart whole ∧ fraction ≠ [] ∧ (∀ c ∈ fraction, c.isDigit = true) ∧
    PyFloat.ofRat (decimalValue negative whole fraction 0) = .finite q

theorem natOfDigits_decimalText (n : Nat) : natOfDigits (decimalText n) = n :=
  Nat.ofDigitChars_eq_foldl.symm.trans Nat.ofDigitChars_ten_toDigits

theorem encodeInt_injective : Function.Injective encodeInt := by
  have hsign : ∀ n : Nat, '-' ∉ decimalText n := by
    intro n hmem
    exact absurd (isDigit_of_mem_decimalText hmem) (by decide)
  have hdigits : Function.Injective decimalText := by
    intro m n h
    rw [← natOfDigits_decimalText m, h, natOfDigits_decimalText]
  intro m n h
  unfold encodeInt at h
  -- the sign is no digit, so the two numerals have it both or not at all
  split at h <;> split at h
  · have habs := hdigits (List.cons.inj h).2
    omega
  · exact absurd (h ▸ List.mem_cons_self) (hsign n.natAbs)
  · exact absurd (h.symm ▸ List.mem_cons_self) (hsign m.natAbs)
  · have habs := hdigits h
    omega

theorem wholePart_decimalText (n : Nat) : WholePart (decimalText n) where
  ne_nil := decimalText_ne_nil n
  isDigit _ := isDigit_of_mem_decimalText
  zero := by
    induction n using Nat.strong_induction_on with
    | _ n ih =>
        intro hzero
        unfold decimalText at hzero ih ⊢
        by_cases hsmall : n < 10
        · rw [Nat.toDigits_of_lt_base hsmall] at hzero ⊢
          rw [Option.some.inj hzero]
        · -- the first digit is the first one of the quotient, which is no zero
          rw [Nat.toDigits_of_base_le (by decide) (by omega), List.head?_append] at hzero
          have hquotient := ih (n / 10) (by omega)
          obtain ⟨d, ds, hdigits⟩ := List.exists_cons_of_ne_nil (Nat.toDigits_ne_nil (n := n / 10)
            (b := 10))
          rw [hdigits] at hquotient hzero
          have hone := hquotient hzero
          have hvalue := natOfDigits_decimalText (n / 10)
          rw [decimalText, hdigits, hone] at hvalue
          change 0 = n / 10 at hvalue
          omega

theorem takeWhile_digits {digits rest : List Char} (h : ∀ c ∈ digits, c.isDigit = true)
    (hrest : ∀ c ∈ rest.head?, c.isDigit = false) :
    (digits ++ rest).takeWhile Char.isDigit = digits ∧
      (digits ++ rest).dropWhile Char.isDigit = rest := by
  induction digits with
  | nil =>
      cases rest with
      | nil => exact ⟨rfl, rfl⟩
      | cons c rest =>
          have hc : c.isDigit = false := hrest c rfl
          exact ⟨List.takeWhile_cons_of_neg (by rw [hc]; decide),
            List.dropWhile_cons_of_neg (by rw [hc]; decide)⟩
  | cons c digits ih =>
      have hc : c.isDigit = true := h c List.mem_cons_self
      obtain ⟨htake, hdrop⟩ := ih fun d hd => h d (List.mem_cons_of_mem c hd)
      rw [List.cons_append, List.takeWhile_cons_of_pos hc, List.dropWhile_cons_of_pos hc, htake,
        hdrop]
      exact ⟨rfl, rfl⟩

theorem wholeDigits_append {whole rest : List Char} (hwhole : WholePart whole)
    (hrest : ∀ c ∈ rest.head?, c.isDigit = false) : wholeDigits (whole ++ rest) = whole := by
  obtain ⟨d, ds, rfl⟩ := List.exists_cons_of_ne_nil hwhole.ne_nil
  unfold wholeDigits
  by_cases hzero : (d :: ds ++ rest).head? = some '0'
  · rw [if_pos hzero]
    exact (hwhole.zero hzero).symm
  · rw [if_neg hzero]
    exact (takeWhile_digits hwhole.isDigit hrest).1

theorem find?_jsonWords {negative : Bool} {d : Char} (hd : d.isDigit = true) (text : List Char) :
    (jsonWords.find? fun word => word.1.toList.isPrefixOf (signText negative ++ d :: text)) =
      none := by
  rw [List.find?_eq_none]
  have hletter : ∀ c ∈ ['n', 't', 'f', 'N', 'I', '-'], c ≠ d := by
    have hnone : ∀ c ∈ ['n', 't', 'f', 'N', 'I', '-'], c.isDigit = false := by decide
    rintro c hc rfl
    rw [hnone c hc] at hd
    cases hd
  simp only [List.forall_mem_cons] at hletter
  cases negative <;> simp [jsonWords, signText, hletter]

theorem scanScalar_number {negative : Bool} {whole tail : List Char} (limits : Limits)
    (hwhole : WholePart whole) (htail : ∀ c ∈ tail.head?, c.isDigit = false) :
    scanScalar limits (signText negative ++ (whole ++ tail)) =
      scanNumberTail limits negative whole tail := by
  have hdigits := wholeDigits_append hwhole htail
  obtain ⟨d, ds, rfl⟩ := List.exists_cons_of_ne_nil hwhole.ne_nil
  have hd := hwhole.isDigit d List.mem_cons_self
  have hminus : d ≠ '-' := by
    rintro rfl
    cases hd
  have hscan : ∀ text : List Char, (text.head? = some '-') = (negative = true) →
      (if negative = true then text.tail else text) = d :: ds ++ tail →
      scanNumber limits text = scanNumberTail limits negative (d :: ds) tail := by
    intro text hsign hbody
    unfold scanNumber
    simp only [hsign, Bool.decide_eq_true, hbody, hdigits, List.drop_left]
    exact if_neg (List.cons_ne_nil d ds)
  unfold scanScalar
  rw [List.cons_append, find?_jsonWords hd]
  cases negative with
  | true => exact hscan _ (by simp [signText]) rfl
  | false => exact hscan _ (by simp [signText, hminus]) rfl

theorem splitFraction_of_ends {rest : List Char} (h : Ends rest) : splitFraction rest = none := by
  cases rest with
  | nil => rfl
  | cons c rest =>
      have hpoint : c ≠ '.' := (h c rfl).2.1
      unfold splitFraction
      split
      next heq => exact absurd (List.cons.inj heq).1 hpoint
      next => rfl

theorem splitExponent_of_ends {rest : List Char} (h : Ends rest) : splitExponent rest = none := by
  cases rest with
  | nil => rfl
  | cons c rest => exact if_pos (.inl (h c rfl).2.2)

theorem encodeInt_eq (n : Int) :
    encodeInt n = signText (decide (n < 0)) ++ decimalText n.natAbs := by
  unfold encodeInt signText
  by_cases hn : n < 0
  · rw [if_pos hn, decide_eq_true hn, if_pos rfl]
    rfl
  · rw [if_neg hn, decide_eq_false hn, if_neg Bool.false_ne_true]
    rfl

theorem scanScalar_int {limits : Limits} {n : Int}
    (hdigits : (decimalText n.natAbs).length ≤ limits.intDigits) {rest : List Char}
    (hrest : Ends rest) : scanScalar limits (encodeInt n ++ rest) = .ok (.int n, rest) := by
  rw [encodeInt_eq, List.append_assoc,
    scanScalar_number limits (wholePart_decimalText _) fun c hc => (hrest c hc).1]
  unfold scanNumberTail
  rw [splitFraction_of_ends hrest]
  simp only [Option.getD_none, splitExponent_of_ends hrest, ne_eq, not_true_eq_false, if_false,
    natOfDigits_decimalText]
  rw [if_neg (by omega)]
  by_cases hn : n < 0
  · rw [decide_eq_true hn, if_pos rfl]
    congr
    omega
  · rw [decide_eq_false hn, if_neg Bool.false_ne_true]
    congr
    omega

theorem scanScalar_decimal (limits : Limits) {text : List Char} {q : ℚ} (h : DecimalText text q)
    {rest : List Char} (hrest : Ends rest) :
    scanScalar limits (text ++ rest) = .ok (.float (.finite q), rest) := by
  obtain ⟨negative, whole, fraction, rfl, hwhole, hfraction, hdigits, hvalue⟩ := h
  rw [List.append_assoc, List.append_assoc, List.cons_append,
    scanScalar_number limits hwhole (by rintro c ⟨⟩; rfl)]
  obtain ⟨htake, hdrop⟩ := takeWhile_digits hdigits fun c hc => (hrest c hc).1
  have hsplit : splitFraction ('.' :: (fraction ++ rest)) = some (fraction, rest) := by
    rw [splitFraction, htake, hdrop, if_neg hfraction]
  unfold scanNumberTail
  rw [hsplit]
  simp only [Option.getD_some, splitExponent_of_ends hrest]
  rw [if_pos hfraction, hvalue]

/-! ## 3. Numbers with two places -/

def cents (n : Nat) : ℚ := nearestDouble ((n : Int) / 100)

/-- What `round(value, 2)` gives between 0 and 1. -/
def TwoPlaces (q : ℚ) : Prop := ∃ n ≤ 100, q = cents n

def centsFraction (n : Nat) : List Char :=
  if n % 10 = 0 then decimalText (n / 10 % 10)
  else decimalText (n / 10 % 10) ++ decimalText (n % 10)

def centsText (n : Nat) : List Char := decimalText (n / 100) ++ '.' :: centsFraction n

theorem twoPlaces_roundTwo {q : ℚ} (hlow : 0 ≤ q) (hhigh : q ≤ 1) : TwoPlaces (roundTwo q) := by
  have hnonneg : 0 ≤ roundHalfEven (q * 100) := by
    apply le_roundHalfEven
    rw [Int.cast_zero]
    linarith
  have hle : roundHalfEven (q * 100) ≤ 100 := by
    apply roundHalfEven_le
    rw [Int.cast_ofNat]
    linarith
  obtain ⟨n, hn⟩ := Int.eq_ofNat_of_zero_le hnonneg
  exact ⟨n, by omega, by rw [roundTwo, hn, cents]⟩

theorem decimalText_cents {n : Nat} (h : n ≤ 100) : DecimalText (centsText n) (cents n) := by
  have hfraction : ∀ n : Nat, n ≤ 100 → centsFraction n ≠ [] ∧
      (∀ c ∈ centsFraction n, c.isDigit = true) ∧
      PyFloat.ofRat (decimalValue false (decimalText (n / 100)) (centsFraction n) 0) =
        .finite (cents n) := by
    decide +kernel
  obtain ⟨hne, hdigits, hvalue⟩ := hfraction n h
  exact ⟨false, _, _, rfl, wholePart_decimalText _, hne, hdigits, hvalue⟩

/-! ## 4. Values -/

section

variable (gap : List Char) (floatRepr : PyFloat → List Char)

mutual

/-- `json.dumps(value)`, with a gap after every comma and colon. -/
def encodeJson : Json → List Char
  | .null => "null".toList
  | .bool true => "true".toList
  | .bool false => "false".toList
  | .int n => encodeInt n
  | .float x => encodeFloat floatRepr x
  | .str s => encodeString s
  | .list xs => '[' :: encodeItems xs ++ [']']
  | .dict kvs => '\x7b' :: encodeMembers kvs ++ ['\x7d']

def encodeItems : List Json → List Char
  | [] => []
  | [x] => encodeJson x
  | x :: y :: xs => encodeJson x ++ ',' :: (gap ++ encodeItems (y :: xs))

def encodeMembers : List (String × Json) → List Char
  | [] => []
  | [(k, x)] => encodeString k ++ ':' :: (gap ++ encodeJson x)
  | (k, x) :: kv :: kvs =>
      encodeString k ++ ':' :: (gap ++ (encodeJson x ++ ',' :: (gap ++ encodeMembers (kv :: kvs))))

end

def insertMember (entry : String × Json) : List (String × Json) → List (String × Json)
  | [] => [entry]
  | other :: kvs =>
      if entry.1 ≤ other.1 then entry :: other :: kvs else other :: insertMember entry kvs

mutual

/-- `sorted(dct.items())`, in every dict of the value. -/
def sortKeys : Json → Json
  | .list xs => .list (sortItems xs)
  | .dict kvs => .dict (sortMembers kvs)
  | v => v

def sortItems : List Json → List Json
  | [] => []
  | x :: xs => sortKeys x :: sortItems xs

def sortMembers : List (String × Json) → List (String × Json)
  | [] => []
  | (k, x) :: kvs => insertMember (k, sortKeys x) (sortMembers kvs)

end

def dumpsSorted (v : Json) : List Char := encodeJson [' '] floatRepr (sortKeys v)

/-- `json.dumps(value, sort_keys=True, separators=(",", ":"))` -/
def dumpsCompact (v : Json) : List Char := encodeJson [] floatRepr (sortKeys v)

variable (limits : Limits)

mutual

/-- What the decoder reads back: keys that differ, integers and nesting within the limits, and
floats whose text has a point. -/
def Readable : (depth : Nat) → Json → Prop
  | _, .null | _, .bool _ | _, .str _ => True
  | _, .int n => (decimalText n.natAbs).length ≤ limits.intDigits
  | _, .float (.finite q) => DecimalText (floatRepr (.finite q)) q
  | _, .float _ => True
  | 0, .list _ | 0, .dict _ => False
  | depth + 1, .list xs => ReadableItems depth xs
  | depth + 1, .dict kvs => (kvs.map Prod.fst).Nodup ∧ ReadableMembers depth kvs

def ReadableItems (depth : Nat) : List Json → Prop
  | [] => True
  | x :: xs => Readable depth x ∧ ReadableItems depth xs

def ReadableMembers (depth : Nat) : List (String × Json) → Prop
  | [] => True
  | (_, x) :: kvs => Readable depth x ∧ ReadableMembers depth kvs

end

variable {gap floatRepr limits}

/-- A value begins here, and no white space or closing bracket. -/
def Starts (text : List Char) : Prop :=
  ∃ c rest, text = c :: rest ∧ isJsonSpace c = false ∧ c ≠ ']' ∧ c ≠ '\x7d'

theorem Starts.append {text : List Char} (h : Starts text) (rest : List Char) :
    Starts (text ++ rest) := by
  obtain ⟨c, tail, rfl, hc⟩ := h
  exact ⟨c, tail ++ rest, rfl, hc⟩

theorem skipSpace_of_starts {text : List Char} (h : Starts text) : skipSpace text = text := by
  obtain ⟨c, rest, rfl, hspace, -⟩ := h
  exact List.dropWhile_cons_of_neg (by rw [hspace]; decide)

theorem skipSpace_gap {text : List Char} (hgap : ∀ c ∈ gap, isJsonSpace c = true)
    (h : Starts text) : skipSpace (gap ++ text) = text := by
  induction gap with
  | nil => exact skipSpace_of_starts h
  | cons c gap ih =>
      rw [List.cons_append, skipSpace, List.dropWhile_cons_of_pos (hgap c List.mem_cons_self)]
      exact ih fun d hd => hgap d (List.mem_cons_of_mem c hd)

theorem starts_of_isDigit {c : Char} (h : c.isDigit = true) (rest : List Char) :
    Starts (c :: rest) := by
  have hother : ∀ d ∈ [' ', '\t', '\n', '\r', ']', '\x7d'], c ≠ d := by
    have hnone : ∀ d ∈ [' ', '\t', '\n', '\r', ']', '\x7d'], d.isDigit = false := by decide
    rintro d hd rfl
    rw [hnone c hd] at h
    cases h
  simp only [List.forall_mem_cons] at hother
  obtain ⟨hblank, htab, hnewline, hreturn, hbracket, hbrace, -⟩ := hother
  exact ⟨c, rest, rfl, by simp [isJsonSpace, hblank, htab, hnewline, hreturn], hbracket, hbrace⟩

theorem starts_number {negative : Bool} {whole : List Char} (hwhole : WholePart whole)
    (tail : List Char) : Starts (signText negative ++ (whole ++ tail)) := by
  cases negative with
  | true => exact ⟨'-', whole ++ tail, rfl, by decide, by decide, by decide⟩
  | false =>
      obtain ⟨d, ds, rfl⟩ := List.exists_cons_of_ne_nil hwhole.ne_nil
      exact starts_of_isDigit (hwhole.isDigit d List.mem_cons_self) _

theorem starts_decimal {text : List Char} {q : ℚ} (h : DecimalText text q) : Starts text := by
  obtain ⟨negative, whole, fraction, rfl, hwhole, -⟩ := h
  exact starts_number hwhole _

theorem readable_finite {depth : Nat} {q : ℚ}
    (h : Readable floatRepr limits depth (.float (.finite q))) :
    DecimalText (floatRepr (.finite q)) q := by
  rw [Readable] at h
  exact h

theorem encodeJson_starts (gap : List Char) {depth : Nat} {v : Json} (h : Readable floatRepr limits depth v) :
    Starts (encodeJson gap floatRepr v) := by
  cases v with
  | null => exact ⟨'n', _, rfl, by decide, by decide, by decide⟩
  | bool b =>
      cases b with
      | true => exact ⟨'t', _, rfl, by decide, by decide, by decide⟩
      | false => exact ⟨'f', _, rfl, by decide, by decide, by decide⟩
  | int n =>
      rw [encodeJson, encodeInt_eq, ← List.append_nil (decimalText n.natAbs)]
      exact starts_number (wholePart_decimalText _) []
  | float x =>
      cases x with
      | finite q =>
          have htext := starts_decimal (readable_finite h)
          rw [encodeJson]
          exact htext
      | nan => exact ⟨'N', _, rfl, by decide, by decide, by decide⟩
      | inf => exact ⟨'I', _, rfl, by decide, by decide, by decide⟩
      | negInf => exact ⟨'-', _, rfl, by decide, by decide, by decide⟩
  | str s =>
      rw [encodeJson]
      exact ⟨'"', _, rfl, by decide, by decide, by decide⟩
  | list xs =>
      rw [encodeJson]
      exact ⟨'[', _, rfl, by decide, by decide, by decide⟩
  | dict kvs =>
      rw [encodeJson]
      exact ⟨'\x7b', _, rfl, by decide, by decide, by decide⟩

theorem ends_cons {c : Char} (h : c ∈ [',', ']', '\x7d', '\n']) (rest : List Char) :
    Ends (c :: rest) := by
  have hends : ∀ c ∈ [',', ']', '\x7d', '\n'],
      c.isDigit = false ∧ c ≠ '.' ∧ c.toLower ≠ 'e' := by decide
  rintro d ⟨⟩
  exact hends c h

theorem scanOnce_scalar {c : Char} (hc : c ∉ ['"', '[', '\x7b']) (calls depth : Nat)
    (text : List Char) :
    scanOnce limits (calls + 1) depth (c :: text) = some (scanScalar limits (c :: text)) := by
  simp only [List.mem_cons, List.not_mem_nil, or_false, not_or] at hc
  obtain ⟨hquote, hbracket, hbrace⟩ := hc
  rw [scanOnce]
  · exact fun _ heq => hquote (List.cons.inj heq).1
  · exact fun _ heq => hbrace (List.cons.inj heq).1
  · exact fun _ heq => hbracket (List.cons.inj heq).1

theorem scanOnce_word (word : String × Json) (hword : word ∈ jsonWords) (calls depth : Nat)
    (rest : List Char) :
    scanOnce limits (calls + 1) depth (word.1.toList ++ rest) = some (.ok (word.2, rest)) := by
  simp only [jsonWords, List.mem_cons, List.not_mem_nil, or_false] at hword
  rcases hword with rfl | rfl | rfl | rfl | rfl | rfl
  all_goals
    refine (scanOnce_scalar (by decide) calls depth _).trans ?_
    rfl

theorem scanOnce_text (s : String) (calls depth : Nat) (rest : List Char) :
    scanOnce limits (calls + 1) depth (encodeString s ++ rest) = some (.ok (.str s, rest)) := by
  rw [encodeString, List.cons_append, List.cons_append, List.append_assoc, scanOnce]
  change some ((scanString (s.toList.flatMap escapeChar ++ '"' :: rest)).map _) = _
  rw [scanString_escaped]
  rfl

/-- A number is read by its first character, which is a sign or a digit. -/
theorem scanOnce_number {negative : Bool} {whole tail : List Char} (hwhole : WholePart whole)
    (calls depth : Nat) :
    scanOnce limits (calls + 1) depth (signText negative ++ (whole ++ tail)) =
      some (scanScalar limits (signText negative ++ (whole ++ tail))) := by
  cases negative with
  | true => exact scanOnce_scalar (by decide) calls depth _
  | false =>
      obtain ⟨d, ds, rfl⟩ := List.exists_cons_of_ne_nil hwhole.ne_nil
      refine scanOnce_scalar ?_ calls depth _
      have hnone : ∀ c ∈ ['"', '[', '\x7b'], c.isDigit = false := by decide
      intro hmem
      have hdigit := hwhole.isDigit d List.mem_cons_self
      rw [hnone d hmem] at hdigit
      cases hdigit

/-- One member of an object, up to the comma or the brace after its value. -/
theorem scanMembers_member {key : String} {value : Json} {calls depth : Nat}
    {text rest : List Char} {members : List (String × Json)}
    (hgap : ∀ c ∈ gap, isJsonSpace c = true) (hstarts : Starts text)
    (hvalue : scanOnce limits calls depth text = some (.ok (value, rest))) :
    scanMembers limits (calls + 1) depth members (encodeString key ++ ':' :: (gap ++ text)) =
      match skipSpace rest with
      | '\x7d' :: text => some (.ok (.dict (Dict.set key value members), text))
      | ',' :: text =>
          scanMembers limits calls depth (Dict.set key value members) (skipSpace text)
      | _ => some (.error .malformed) := by
  rw [encodeString, List.cons_append, List.cons_append, List.append_assoc, scanMembers,
    List.singleton_append, scanString_escaped]
  change (scanOnce limits calls depth (skipSpace (gap ++ text))).bind _ = _
  rw [skipSpace_gap hgap hstarts, hvalue]
  rfl

/-- One item of an array, up to the comma or the bracket after it. -/
theorem scanItems_item {value : Json} {calls depth : Nat} {text rest : List Char}
    {items : List Json} (hvalue : scanOnce limits calls depth text = some (.ok (value, rest))) :
    scanItems limits (calls + 1) depth items text =
      match skipSpace rest with
      | ']' :: text => some (.ok (.list (items ++ [value]), text))
      | ',' :: text => scanItems limits calls depth (items ++ [value]) (skipSpace text)
      | _ => some (.error .malformed) := by
  rw [scanItems, hvalue]
  rfl

theorem scanOnce_list {calls depth : Nat} {text : List Char} (h : Starts text) :
    scanOnce limits (calls + 1) (depth + 1) ('[' :: text) =
      scanItems limits calls depth [] text := by
  obtain ⟨c, rest, rfl, hspace, hbracket, -⟩ := h
  have hskip : skipSpace (c :: rest) = c :: rest :=
    List.dropWhile_cons_of_neg (by rw [hspace]; decide)
  rw [scanOnce, hskip]
  split
  next heq => exact absurd (List.cons.inj heq).1 hbracket
  next => rfl

theorem scanOnce_dict {calls depth : Nat} {text : List Char} (h : Starts text) :
    scanOnce limits (calls + 1) (depth + 1) ('\x7b' :: text) =
      scanMembers limits calls depth [] text := by
  obtain ⟨c, rest, rfl, hspace, -, hbrace⟩ := h
  have hskip : skipSpace (c :: rest) = c :: rest :=
    List.dropWhile_cons_of_neg (by rw [hspace]; decide)
  rw [scanOnce, hskip]
  split
  next heq => exact absurd (List.cons.inj heq).1 hbrace
  next => rfl

theorem starts_encodeItems (gap : List Char) {depth : Nat} {x : Json} (xs : List Json)
    (h : Readable floatRepr limits depth x) : Starts (encodeItems gap floatRepr (x :: xs)) := by
  cases xs with
  | nil =>
      rw [encodeItems]
      exact encodeJson_starts gap h
  | cons y ys =>
      rw [encodeItems]
      exact (encodeJson_starts gap h).append _

theorem starts_encodeMembers (gap : List Char) (floatRepr : PyFloat → List Char) (k : String)
    (x : Json) (kvs : List (String × Json)) :
    Starts (encodeMembers gap floatRepr ((k, x) :: kvs)) := by
  cases kvs with
  | nil =>
      rw [encodeMembers]
      exact ⟨'"', _, rfl, by decide, by decide, by decide⟩
  | cons kv kvs =>
      rw [encodeMembers]
      exact ⟨'"', _, rfl, by decide, by decide, by decide⟩

theorem set_member {members kvs : List (String × Json)} {k : String} {x : Json}
    (h : ((members ++ (k, x) :: kvs).map Prod.fst).Nodup) :
    Dict.set k x members = members ++ [(k, x)] := by
  rw [List.map_append, List.map_cons, List.nodup_append] at h
  have hnew : k ∉ members.map Prod.fst := fun hk => h.2.2 k hk k List.mem_cons_self rfl
  exact Dict.set_of_lookup_eq_none x (Dict.lookup_eq_none_iff_keys.mpr hnew)

mutual

/-- What the encoder writes of a readable value is read back. -/
theorem scanOnce_encodeJson (hgap : ∀ c ∈ gap, isJsonSpace c = true) :
    ∀ (v : Json) (depth calls : Nat) (rest : List Char), Readable floatRepr limits depth v →
    Ends rest → 2 * (encodeJson gap floatRepr v ++ rest).length + 1 ≤ calls →
    scanOnce limits calls depth (encodeJson gap floatRepr v ++ rest) = some (.ok (v, rest))
  | v, depth, 0, rest, _, _, hcalls => absurd hcalls (by omega)
  | .null, depth, calls + 1, rest, _, _, _ => by
      rw [encodeJson]
      exact scanOnce_word ("null", .null) (by decide) calls depth rest
  | .bool true, depth, calls + 1, rest, _, _, _ => by
      rw [encodeJson]
      exact scanOnce_word ("true", .bool true) (by decide) calls depth rest
  | .bool false, depth, calls + 1, rest, _, _, _ => by
      rw [encodeJson]
      exact scanOnce_word ("false", .bool false) (by decide) calls depth rest
  | .int n, depth, calls + 1, rest, h, hrest, _ => by
      rw [Readable] at h
      have hscan := scanScalar_int h hrest
      rw [encodeJson]
      rw [encodeInt_eq, List.append_assoc] at hscan ⊢
      rw [scanOnce_number (wholePart_decimalText _), hscan]
  | .float x, depth, calls + 1, rest, h, hrest, _ => by
      cases x with
      | finite q =>
          have htext := readable_finite h
          have hscan := scanScalar_decimal limits htext hrest
          rw [encodeJson]
          change scanOnce limits (calls + 1) depth (floatRepr (.finite q) ++ rest) = _
          obtain ⟨negative, whole, fraction, heq, hwhole, -⟩ := htext
          rw [heq, List.append_assoc, List.append_assoc] at hscan ⊢
          rw [scanOnce_number hwhole, hscan]
      | nan =>
          rw [encodeJson]
          exact scanOnce_word ("NaN", .float .nan) (by decide) calls depth rest
      | inf =>
          rw [encodeJson]
          exact scanOnce_word ("Infinity", .float .inf) (by decide) calls depth rest
      | negInf =>
          rw [encodeJson]
          exact scanOnce_word ("-Infinity", .float .negInf) (by decide) calls depth rest
  | .str s, depth, calls + 1, rest, _, _, _ => by
      rw [encodeJson]
      exact scanOnce_text s calls depth rest
  | .list xs, 0, calls + 1, rest, h, _, _ => by
      rw [Readable] at h
      exact h.elim
  | .dict kvs, 0, calls + 1, rest, h, _, _ => by
      rw [Readable] at h
      exact h.elim
  | .list [], depth + 1, calls + 1, rest, _, _, _ => by
      rw [encodeJson, encodeItems]
      rfl
  | .list (x :: xs), depth + 1, calls + 1, rest, h, hrest, hcalls => by
      rw [Readable] at h
      have hstarts := starts_encodeItems gap xs h.1
      rw [encodeJson, List.cons_append, List.cons_append, List.append_assoc, List.singleton_append]
        at hcalls ⊢
      rw [scanOnce_list (hstarts.append _)]
      rw [List.length_cons] at hcalls
      exact scanItems_encodeItems hgap x xs depth calls [] rest h (by omega)
  | .dict [], depth + 1, calls + 1, rest, _, _, _ => by
      rw [encodeJson, encodeMembers]
      rfl
  | .dict ((k, x) :: kvs), depth + 1, calls + 1, rest, h, hrest, hcalls => by
      rw [Readable] at h
      have hstarts := starts_encodeMembers gap floatRepr k x kvs
      rw [encodeJson, List.cons_append, List.cons_append, List.append_assoc, List.singleton_append]
        at hcalls ⊢
      rw [scanOnce_dict (hstarts.append _)]
      rw [List.length_cons] at hcalls
      exact scanMembers_encodeMembers hgap k x kvs depth calls [] rest h.2 h.1 (by omega)

theorem scanItems_encodeItems (hgap : ∀ c ∈ gap, isJsonSpace c = true) :
    ∀ (x : Json) (xs : List Json) (depth calls : Nat) (items : List Json) (rest : List Char),
    ReadableItems floatRepr limits depth (x :: xs) →
    2 * (encodeItems gap floatRepr (x :: xs) ++ ']' :: rest).length + 2 ≤ calls →
    scanItems limits calls depth items (encodeItems gap floatRepr (x :: xs) ++ ']' :: rest) =
      some (.ok (.list (items ++ x :: xs), rest))
  | x, xs, depth, 0, items, rest, _, hcalls => absurd hcalls (by omega)
  | x, [], depth, calls + 1, items, rest, h, hcalls => by
      rw [encodeItems] at hcalls ⊢
      have hvalue := scanOnce_encodeJson hgap x depth calls (']' :: rest) h.1
        (ends_cons (by decide) _) (by omega)
      rw [scanItems_item hvalue]
      rfl
  | x, y :: xs, depth, calls + 1, items, rest, h, hcalls => by
      rw [encodeItems, List.append_assoc, List.cons_append, List.append_assoc] at hcalls ⊢
      have hvalue := scanOnce_encodeJson hgap x depth calls
        (',' :: (gap ++ (encodeItems gap floatRepr (y :: xs) ++ ']' :: rest))) h.1
        (ends_cons (by decide) _) (by omega)
      have hstarts := (starts_encodeItems gap xs h.2.1).append (']' :: rest)
      rw [List.length_append, List.length_cons, List.length_append] at hcalls
      have hitems := scanItems_encodeItems hgap y xs depth calls (items ++ [x]) rest h.2 (by omega)
      rw [scanItems_item hvalue]
      change scanItems limits calls depth (items ++ [x])
        (skipSpace (gap ++ (encodeItems gap floatRepr (y :: xs) ++ ']' :: rest))) = _
      rw [skipSpace_gap hgap hstarts, hitems, List.append_assoc, List.singleton_append]

theorem scanMembers_encodeMembers (hgap : ∀ c ∈ gap, isJsonSpace c = true) :
    ∀ (k : String) (x : Json) (kvs : List (String × Json)) (depth calls : Nat) (members : List (String × Json)) (rest : List Char),
    ReadableMembers floatRepr limits depth ((k, x) :: kvs) →
    ((members ++ (k, x) :: kvs).map Prod.fst).Nodup →
    2 * (encodeMembers gap floatRepr ((k, x) :: kvs) ++ '\x7d' :: rest).length + 2 ≤ calls →
    scanMembers limits calls depth members
      (encodeMembers gap floatRepr ((k, x) :: kvs) ++ '\x7d' :: rest) =
        some (.ok (.dict (members ++ (k, x) :: kvs), rest))
  | k, x, kvs, depth, 0, members, rest, _, _, hcalls => absurd hcalls (by omega)
  | k, x, [], depth, calls + 1, members, rest, h, hnodup, hcalls => by
      rw [encodeMembers, List.append_assoc, List.cons_append, List.append_assoc] at hcalls ⊢
      rw [List.length_append, List.length_cons, List.length_append] at hcalls
      have hstarts := (encodeJson_starts gap h.1).append ('\x7d' :: rest)
      have hvalue := scanOnce_encodeJson hgap x depth calls ('\x7d' :: rest) h.1
        (ends_cons (by decide) _) (by omega)
      rw [scanMembers_member hgap hstarts hvalue]
      change some (Except.ok (Json.dict (Dict.set k x members), rest)) = _
      rw [set_member hnodup]
  | k, x, (k', y) :: kvs, depth, calls + 1, members, rest, h, hnodup, hcalls => by
      rw [encodeMembers, List.append_assoc, List.cons_append, List.append_assoc, List.append_assoc,
        List.cons_append, List.append_assoc] at hcalls ⊢
      rw [List.length_append, List.length_cons, List.length_append] at hcalls
      have hstarts := (encodeJson_starts gap h.1).append
        (',' :: (gap ++ (encodeMembers gap floatRepr ((k', y) :: kvs) ++ '\x7d' :: rest)))
      have hvalue := scanOnce_encodeJson hgap x depth calls
        (',' :: (gap ++ (encodeMembers gap floatRepr ((k', y) :: kvs) ++ '\x7d' :: rest))) h.1
        (ends_cons (by decide) _) (by omega)
      have hnext := (starts_encodeMembers gap floatRepr k' y kvs).append ('\x7d' :: rest)
      rw [List.length_append, List.length_cons, List.length_append] at hcalls
      have hmembers := scanMembers_encodeMembers hgap k' y kvs depth calls (members ++ [(k, x)])
        rest h.2 (by rwa [List.append_assoc]) (by omega)
      rw [scanMembers_member hgap hstarts hvalue]
      change scanMembers limits calls depth (Dict.set k x members)
        (skipSpace (gap ++ (encodeMembers gap floatRepr ((k', y) :: kvs) ++ '\x7d' :: rest))) = _
      rw [set_member hnodup, skipSpace_gap hgap hnext, hmembers, List.append_assoc,
        List.singleton_append]

end

/-! ## 5. Sorted keys -/

theorem perm_insertMember (entry : String × Json) (kvs : List (String × Json)) :
    (insertMember entry kvs).Perm (entry :: kvs) := by
  induction kvs with
  | nil => exact List.Perm.refl _
  | cons other kvs ih =>
      rw [insertMember]
      split
      · exact List.Perm.refl _
      · exact (ih.cons other).trans (List.Perm.swap entry other kvs)

/-- Sorting moves the entries and sorts their values. -/
theorem perm_sortMembers (kvs : List (String × Json)) :
    (sortMembers kvs).Perm (kvs.map fun entry => (entry.1, sortKeys entry.2)) := by
  induction kvs with
  | nil => exact List.Perm.refl _
  | cons entry kvs ih =>
      rw [sortMembers, List.map_cons]
      exact (perm_insertMember _ _).trans (ih.cons _)

theorem nodup_keys_sortMembers {kvs : List (String × Json)} (h : (kvs.map Prod.fst).Nodup) :
    ((sortMembers kvs).map Prod.fst).Nodup := by
  refine ((perm_sortMembers kvs).map Prod.fst).nodup_iff.mpr ?_
  rw [List.map_map]
  exact h

theorem readableMembers_iff {depth : Nat} {kvs : List (String × Json)} :
    ReadableMembers floatRepr limits depth kvs ↔
      ∀ entry ∈ kvs, Readable floatRepr limits depth entry.2 := by
  induction kvs with
  | nil => simp [ReadableMembers]
  | cons entry kvs ih =>
      rw [ReadableMembers, ih, List.forall_mem_cons]

mutual

theorem readable_sortKeys : ∀ (v : Json) {depth : Nat}, Readable floatRepr limits depth v →
    Readable floatRepr limits depth (sortKeys v)
  | .null, _, h | .bool _, _, h | .int _, _, h | .float _, _, h | .str _, _, h => by
      rw [sortKeys]
      · exact h
      · exact fun _ => Json.noConfusion
      · exact fun _ => Json.noConfusion
  | .list xs, 0, h | .dict xs, 0, h => by
      rw [Readable] at h
      exact h.elim
  | .list xs, depth + 1, h => by
      rw [Readable] at h
      rw [sortKeys, Readable]
      exact readableItems_sortItems xs h
  | .dict kvs, depth + 1, h => by
      rw [Readable] at h
      rw [sortKeys, Readable]
      exact ⟨nodup_keys_sortMembers h.1, readableMembers_sortMembers kvs h.2⟩

theorem readableItems_sortItems : ∀ (xs : List Json) {depth : Nat},
    ReadableItems floatRepr limits depth xs → ReadableItems floatRepr limits depth (sortItems xs)
  | [], _, h => h
  | x :: xs, _, h => ⟨readable_sortKeys x h.1, readableItems_sortItems xs h.2⟩

theorem readableMembers_sortMembers : ∀ (kvs : List (String × Json)) {depth : Nat},
    ReadableMembers floatRepr limits depth kvs →
    ReadableMembers floatRepr limits depth (sortMembers kvs)
  | [], _, h => h
  | (k, x) :: kvs, depth, h => by
      have hvalues := readableMembers_iff.mp (readableMembers_sortMembers kvs h.2)
      have hvalue := readable_sortKeys x h.1
      rw [sortMembers, readableMembers_iff]
      intro entry hentry
      rcases List.mem_cons.mp ((perm_insertMember _ _).mem_iff.mp hentry) with rfl | hmem
      · exact hvalue
      · exact hvalues entry hmem

end

/-- `json.loads(json.dumps(value, sort_keys=True))`, with any text after it. -/
theorem rawDecode_dumpsSorted {v : Json} (h : Readable floatRepr limits limits.recursion v)
    {rest : List Char} (hrest : Ends rest) :
    rawDecode limits (dumpsSorted floatRepr v ++ rest) = .ok (sortKeys v, rest) := by
  apply rawDecode_of_scanOnce
  exact scanOnce_encodeJson (by decide) (sortKeys v) _ _ rest (readable_sortKeys v h) hrest
    (Nat.le_refl _)

/-- Looking up a key does not depend on the order of the entries. -/
theorem lookup_sortMembers {kvs : List (String × Json)} (h : (kvs.map Prod.fst).Nodup)
    (key : String) : (sortMembers kvs).lookup key = (kvs.lookup key).map sortKeys := by
  have hsorted := nodup_keys_sortMembers h
  ext value
  rw [← Dict.mem_iff_lookup hsorted, (perm_sortMembers kvs).mem_iff, List.mem_map,
    Option.map_eq_some_iff]
  constructor
  · rintro ⟨⟨k, x⟩, hmem, heq⟩
    cases heq
    exact ⟨x, (Dict.mem_iff_lookup h k x).mp hmem, rfl⟩
  · rintro ⟨x, hlookup, rfl⟩
    exact ⟨(key, x), (Dict.mem_iff_lookup h key x).mpr hlookup, rfl⟩

end

end CryptoScanner.Python
