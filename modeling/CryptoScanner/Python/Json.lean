import Mathlib.Data.Rat.Defs
import CryptoScanner.Python.Text

/-!
# JSON values as the Python objects `json.loads` builds

Integers are unbounded; a float is a rational or one of the three special values that Python's
decoder also accepts.  A `dict` keeps its insertion order.
-/

namespace CryptoScanner.Python

inductive PyFloat where
  | finite (q : ℚ)
  | inf
  | negInf
  | nan
  deriving DecidableEq, Repr

def PyFloat.isFinite : PyFloat → Bool
  | .finite _ => true
  | .inf | .negInf | .nan => false

inductive Json where
  | null
  | bool (b : Bool)
  | int (n : Int)
  | float (x : PyFloat)
  | str (s : String)
  | list (xs : List Json)
  | dict (kvs : List (String × Json))
  deriving Repr

namespace Json

mutual

def decEq : (a b : Json) → Decidable (a = b)
  | .null, .null => isTrue rfl
  | .bool a, .bool b => decidable_of_iff (a = b) (by simp)
  | .int a, .int b => decidable_of_iff (a = b) (by simp)
  | .float a, .float b => decidable_of_iff (a = b) (by simp)
  | .str a, .str b => decidable_of_iff (a = b) (by simp)
  | .list a, .list b => @decidable_of_iff _ (a = b) (by simp) (decEqList a b)
  | .dict a, .dict b => @decidable_of_iff _ (a = b) (by simp) (decEqDict a b)
  | .null, .bool _ | .null, .int _ | .null, .float _ | .null, .str _ | .null, .list _
  | .null, .dict _ | .bool _, .null | .bool _, .int _ | .bool _, .float _ | .bool _, .str _
  | .bool _, .list _ | .bool _, .dict _ | .int _, .null | .int _, .bool _ | .int _, .float _
  | .int _, .str _ | .int _, .list _ | .int _, .dict _ | .float _, .null | .float _, .bool _
  | .float _, .int _ | .float _, .str _ | .float _, .list _ | .float _, .dict _ | .str _, .null
  | .str _, .bool _ | .str _, .int _ | .str _, .float _ | .str _, .list _ | .str _, .dict _
  | .list _, .null | .list _, .bool _ | .list _, .int _ | .list _, .float _ | .list _, .str _
  | .list _, .dict _ | .dict _, .null | .dict _, .bool _ | .dict _, .int _ | .dict _, .float _
  | .dict _, .str _ | .dict _, .list _ => isFalse (by simp)

def decEqList : (a b : List Json) → Decidable (a = b)
  | [], [] => isTrue rfl
  | [], _ :: _ => isFalse (by simp)
  | _ :: _, [] => isFalse (by simp)
  | x :: xs, y :: ys =>
      @decidable_of_iff _ (x = y ∧ xs = ys) (by simp)
        (@instDecidableAnd _ _ (decEq x y) (decEqList xs ys))

def decEqDict : (a b : List (String × Json)) → Decidable (a = b)
  | [], [] => isTrue rfl
  | [], _ :: _ => isFalse (by simp)
  | _ :: _, [] => isFalse (by simp)
  | (k, x) :: xs, (l, y) :: ys =>
      @decidable_of_iff _ (k = l ∧ x = y ∧ xs = ys) (by simp [and_assoc])
        (@instDecidableAnd _ _ (instDecidableEqString k l)
          (@instDecidableAnd _ _ (decEq x y) (decEqDict xs ys)))

end

instance : DecidableEq Json := decEq

/-- The numeric value of a number or a boolean, as `==` compares them. -/
def number? : Json → Option PyFloat
  | .bool b => some (.finite (if b then 1 else 0))
  | .int n => some (.finite n)
  | .float x => some x
  | _ => none

mutual

/-- Python's `==`: numbers and booleans by value, `nan` equal to nothing, lists entry by entry,
dicts as mappings. -/
def pyEq : Json → Json → Bool
  | .null, .null => true
  | .str a, .str b => a == b
  | .list a, .list b => pyEqList a b
  | .dict a, .dict b => a.length == b.length && pySubDict a b
  | a, b =>
      match number? a, number? b with
      | some x, some y => x == y && x != .nan
      | _, _ => false

def pyEqList : List Json → List Json → Bool
  | [], [] => true
  | x :: xs, y :: ys => (x = y || pyEq x y) && pyEqList xs ys
  | _, _ => false

/-- Every entry of the first dict is an entry of the second up to `==`. -/
def pySubDict : List (String × Json) → List (String × Json) → Bool
  | [], _ => true
  | (k, x) :: xs, b =>
      (match b.lookup k with
        | some y => x = y || pyEq x y
        | none => false) && pySubDict xs b

end

/-- How a container compares its items, `x is y or x == y`; the decoder has one object for `NaN`. -/
def sameItem (a b : Json) : Bool := a = b || pyEq a b

theorem sameItem_self (a : Json) : sameItem a a = true := by
  rw [sameItem, decide_eq_true rfl, Bool.true_or]

def truthy : Json → Bool
  | .null => false
  | .bool b => b
  | .int n => n != 0
  | .float x => x != .finite 0
  | .str s => s != ""
  | .list xs => xs != []
  | .dict kvs => kvs != []

section Text

variable [PyText]

/-- One character inside the quotes of `repr(s)`. -/
def reprChar (quote c : Char) : List Char :=
  if c = quote ∨ c = '\\' then ['\\', c]
  else if c = '\n' then ['\\', 'n']
  else if c = '\r' then ['\\', 'r']
  else if c = '\t' then ['\\', 't']
  else if PyText.isPrintable c then [c]
  else
    let hex := fun width : Nat =>
      let digits := Nat.toDigits 16 c.toNat
      List.replicate (width - digits.length) '0' ++ digits
    if c.toNat < 0x100 then ['\\', 'x'] ++ hex 2
    else if c.toNat < 0x10000 then ['\\', 'u'] ++ hex 4
    else ['\\', 'U'] ++ hex 8

/-- `repr(s)`: double quotes exactly when the text has a single quote and no double quote. -/
def reprText (s : List Char) : List Char :=
  let quote := if '\'' ∈ s ∧ '"' ∉ s then '"' else '\''
  quote :: s.flatMap (reprChar quote) ++ [quote]

mutual

/-- `repr(value)`, given the shortest decimal form `floatRepr` of a float. -/
def reprJson (floatRepr : PyFloat → List Char) : Json → List Char
  | .null => "None".toList
  | .bool true => "True".toList
  | .bool false => "False".toList
  | .int n => (toString n).toList
  | .float x => floatRepr x
  | .str s => reprText s.toList
  | .list xs => '[' :: reprList floatRepr xs ++ [']']
  | .dict kvs => '\x7b' :: reprDict floatRepr kvs ++ ['\x7d']

def reprList (floatRepr : PyFloat → List Char) : List Json → List Char
  | [] => []
  | [x] => reprJson floatRepr x
  | x :: y :: xs => reprJson floatRepr x ++ [',', ' '] ++ reprList floatRepr (y :: xs)

def reprDict (floatRepr : PyFloat → List Char) : List (String × Json) → List Char
  | [] => []
  | [(k, x)] => reprText k.toList ++ [':', ' '] ++ reprJson floatRepr x
  | (k, x) :: kv :: kvs =>
      reprText k.toList ++ [':', ' '] ++ reprJson floatRepr x ++ [',', ' '] ++
        reprDict floatRepr (kv :: kvs)

end

/-- `str(value)`: the text itself for a string, `repr` for everything else. -/
def pyStr (floatRepr : PyFloat → List Char) : Json → List Char
  | .str s => s.toList
  | v => reprJson floatRepr v

end Text

end Json

end CryptoScanner.Python
