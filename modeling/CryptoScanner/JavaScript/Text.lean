import CryptoScanner.Library.Dict
import CryptoScanner.Python.JsonEncoder

/-!
# JavaScript strings

A string is any sequence of UTF-16 code units, surrogates on their own included.  The patterns of
`replace` see code units as well, unless they have the flag `u`.
-/

namespace CryptoScanner.JavaScript

open Library Python

abbrev JsString := List UInt16

instance lawfulBEqJsString : LawfulBEq JsString := List.instLawfulBEq

-- A statement about the units of a text is decided along the text, not over all units.
instance (priority := 2000) decidableAllUnits (p : UInt16 → Prop) [DecidablePred p]
    (text : JsString) : Decidable (∀ c ∈ text, p c) :=
  List.decidableBAll p text

instance (priority := 2000) decidableAnyUnit (p : UInt16 → Prop) [DecidablePred p]
    (text : JsString) : Decidable (∃ c ∈ text, p c) :=
  List.decidableBEx p text

def js (s : String) : JsString := s.toList.flatMap fun c => (codeUnits c).map UInt16.ofNat

def newMap {κ α : Type} [DecidableEq κ] (entries : List (κ × α)) : List (κ × α) :=
  Dict.update [] entries

def truthy (value : Option JsString) : Option JsString := value.filter (· ≠ [])

def numberText (n : Int) : JsString := (encodeInt n).map fun c => UInt16.ofNat c.toNat

def replaceUnit (c : UInt16) (text value : JsString) : JsString :=
  value.flatMap fun d => if d = c then text else [d]

/-- `[a-zA-Z0-9]` -/
def isLetterOrDigit (c : UInt16) : Bool :=
  (0x61 ≤ c && c ≤ 0x7a) || (0x41 ≤ c && c ≤ 0x5a) || (0x30 ≤ c && c ≤ 0x39)

/-- `\d` -/
def isDigit (c : UInt16) : Bool := 0x30 ≤ c && c ≤ 0x39

/-- `\s` -/
def isSpace (c : UInt16) : Bool :=
  (0x9 ≤ c && c ≤ 0xd) || c == 0x20 || c == 0xa0 || c == 0x1680 || (0x2000 ≤ c && c ≤ 0x200a) ||
    c == 0x2028 || c == 0x2029 || c == 0x202f || c == 0x205f || c == 0x3000 || c == 0xfeff

def colon : UInt16 := 0x3a

/-! ## Components of URLs -/

/-- ``[A-Za-z0-9\-_.!~*'()]`` -/
def isUriUnit (c : UInt16) : Bool := isLetterOrDigit c || c ∈ js "-_.!~*'()"

def hexUnit (n : Nat) : UInt16 := UInt16.ofNat (if n < 10 then 0x30 + n else 0x37 + n)

/-- A byte as `%XX`. -/
def percentByte (byte : Nat) : JsString := [0x25, hexUnit (byte / 16 % 16), hexUnit (byte % 16)]

def utf8Bytes (point : Nat) : List Nat :=
  if point < 0x80 then [point]
  else if point < 0x800 then [0xc0 + point / 0x40, 0x80 + point % 0x40]
  else if point < 0x10000 then
    [0xe0 + point / 0x1000, 0x80 + point / 0x40 % 0x40, 0x80 + point % 0x40]
  else
    [0xf0 + point / 0x40000, 0x80 + point / 0x1000 % 0x40, 0x80 + point / 0x40 % 0x40,
      0x80 + point % 0x40]

/-- A surrogate without its partner raises a `URIError`. -/
def encodeURIComponent : JsString → Option JsString
  | [] => some []
  | [c] =>
      if isUriUnit c then some [c]
      else if isHighSurrogate c.toNat || isLowSurrogate c.toNat then none
      else some ((utf8Bytes c.toNat).flatMap percentByte)
  | c :: d :: text =>
      if isUriUnit c then (encodeURIComponent (d :: text)).map (c :: ·)
      else if isHighSurrogate c.toNat then
        if isLowSurrogate d.toNat then
          let point := 0x10000 + (c.toNat - 0xd800) * 0x400 + (d.toNat - 0xdc00)
          (encodeURIComponent text).map ((utf8Bytes point).flatMap percentByte ++ ·)
        else none
      else if isLowSurrogate c.toNat then none
      else (encodeURIComponent (d :: text)).map ((utf8Bytes c.toNat).flatMap percentByte ++ ·)

example : encodeURIComponent (js "endpoint:é") = some (js "endpoint%3A%C3%A9") := by decide

/-! ## Maps -/

/-- What a map holds under a key is an entry of the list that it was made of. -/
theorem mem_of_get?_newMap {κ α : Type} [DecidableEq κ] {entries : List (κ × α)} {key : κ}
    {value : α} (h : Dict.get? (newMap entries) key = some value) : (key, value) ∈ entries := by
  induction entries using List.reverseRecOn with
  | nil => cases h
  | append_singleton entries entry ih =>
      have hset : newMap (entries ++ [entry]) = Dict.set entry.1 entry.2 (newMap entries) := by
        unfold newMap Dict.update
        rw [List.foldl_append]
        rfl
      rw [hset, Dict.get?, Dict.lookup_set] at h
      rw [List.mem_append, List.mem_singleton]
      split at h
      · rename_i hkey
        rw [hkey, ← Option.some.inj h]
        exact .inr rfl
      · exact .inl (ih h)

/-! ## Numbers -/

theorem mem_encodeInt {n : Int} {c : Char} (h : c ∈ encodeInt n) : c = '-' ∨ c.isDigit = true := by
  unfold encodeInt at h
  split at h
  · rcases List.mem_cons.mp h with rfl | h
    · exact .inl rfl
    · exact .inr (isDigit_of_mem_decimalText h)
  · exact .inr (isDigit_of_mem_decimalText h)

theorem toNat_of_mem_encodeInt {n : Int} {c : Char} (h : c ∈ encodeInt n) :
    c.toNat = 45 ∨ 48 ≤ c.toNat ∧ c.toNat ≤ 57 := by
  rcases mem_encodeInt h with rfl | h
  · exact .inl rfl
  · right
    simpa [Char.isDigit, UInt32.le_iff_toNat_le] using h

theorem toNat_ofNat_encodeInt {n : Int} {c : Char} (h : c ∈ encodeInt n) :
    (UInt16.ofNat c.toNat).toNat = c.toNat := by
  have hchar := toNat_of_mem_encodeInt h
  apply UInt16.toNat_ofNat_of_lt'
  show c.toNat < 65536
  omega

theorem numberText_injective : Function.Injective numberText := by
  -- the characters of a numeral are read back from their code units
  have hread : ∀ n, (numberText n).map (fun d => Char.ofNat d.toNat) = encodeInt n := by
    intro n
    unfold numberText
    rw [List.map_map]
    refine (List.map_congr_left ?_).trans (List.map_id _)
    intro c hc
    show Char.ofNat (UInt16.ofNat c.toNat).toNat = c
    rw [toNat_ofNat_encodeInt hc, Char.ofNat_toNat]
  intro m n h
  apply encodeInt_injective
  rw [← hread m, h, hread n]

theorem colon_not_mem_numberText (n : Int) : colon ∉ numberText n := by
  unfold numberText
  rw [List.mem_map]
  rintro ⟨c, hc, heq⟩
  have hnat : c.toNat = 58 := by
    rw [← toNat_ofNat_encodeInt hc, heq]
    rfl
  have hchar := toNat_of_mem_encodeInt hc
  omega

end CryptoScanner.JavaScript
