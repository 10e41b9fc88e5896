import Mathlib.Algebra.Group.Nat.Defs
import Mathlib.Data.List.Basic

/-!
# Reading bytes

Indexing, slicing and `struct` on byte strings, in network order.  A slice that reaches beyond the
end of the bytes is an error here, where Python would return fewer bytes.
-/

namespace CryptoScanner.Python

inductive ReadError
  | index
  | slice
  | unpack
  deriving DecidableEq, Repr

abbrev Bytes := List UInt8

/-! ## 1. Reading -/

def readByte (data : Bytes) (index : Nat) : Except ReadError Nat :=
  match data[index]? with
  | some byte => .ok byte.toNat
  | none => .error .index

def slice (data : Bytes) (start stop : Nat) : Except ReadError Bytes :=
  if start ≤ stop ∧ stop ≤ data.length then .ok ((data.drop start).take (stop - start))
  else .error .slice

def halfWord (high low : UInt8) : Nat := high.toNat * 256 + low.toNat

def unpackH : Bytes → Except ReadError Nat
  | [high, low] => .ok (halfWord high low)
  | _ => .error .unpack

def unpackHH : Bytes → Except ReadError (Nat × Nat)
  | [h₁, l₁, h₂, l₂] => .ok (halfWord h₁ l₁, halfWord h₂ l₂)
  | _ => .error .unpack

def unpackBBH : Bytes → Except ReadError (Nat × Nat × Nat)
  | [b₁, b₂, high, low] => .ok (b₁.toNat, b₂.toNat, halfWord high low)
  | _ => .error .unpack

def unpackBBBB : Bytes → Except ReadError (Nat × Nat × Nat × Nat)
  | [b₁, b₂, b₃, b₄] => .ok (b₁.toNat, b₂.toNat, b₃.toNat, b₄.toNat)
  | _ => .error .unpack

def unpackI : Bytes → Except ReadError Nat
  | [b₁, b₂, b₃, b₄] => .ok (halfWord b₁ b₂ * 65536 + halfWord b₃ b₄)
  | _ => .error .unpack

def intFromBytes (data : Bytes) : Nat := data.foldl (fun n byte => n * 256 + byte.toNat) 0

/-! ## 2. Packing -/

/-- `struct.pack("!B", n)`, for `n < 256` -/
def packB (n : Nat) : UInt8 := UInt8.ofNat n

/-- `struct.pack("!H", n)`, for `n < 65536` -/
def packH (n : Nat) : Bytes := [packB (n / 256), packB (n % 256)]

/-- `struct.pack("!I", n)`, for `n < 2 ** 32` -/
def packI (n : Nat) : Bytes := packH (n / 65536) ++ packH (n % 65536)

theorem toNat_packB {n : Nat} (h : n < 256) : (packB n).toNat = n :=
  UInt8.toNat_ofNat_of_lt' h

theorem halfWord_packH {n : Nat} (h : n < 65536) :
    halfWord (packB (n / 256)) (packB (n % 256)) = n := by
  rw [halfWord, toNat_packB (by omega), toNat_packB (by omega)]
  omega

theorem unpackI_packI {n : Nat} (h : n < 2 ^ 32) : unpackI (packI n) = .ok n := by
  have hhigh := halfWord_packH (by omega : n / 65536 < 65536)
  have hlow := halfWord_packH (Nat.mod_lt n (by decide) : n % 65536 < 65536)
  change Except.ok (halfWord (packB (n / 65536 / 256)) (packB (n / 65536 % 256)) * 65536 +
    halfWord (packB (n % 65536 / 256)) (packB (n % 65536 % 256))) = _
  rw [hhigh, hlow, Nat.div_add_mod' n 65536]

theorem byte_eq_zero {byte : UInt8} : byte.toNat = 0 ↔ byte = 0 :=
  UInt8.toNat_inj (b := 0)

/-! ## 3. What is read at a cursor -/

variable {data : Bytes}

theorem slice_ok {start stop : Nat} (h : start ≤ stop) (hstop : stop ≤ data.length) :
    slice data start stop = .ok ((data.drop start).take (stop - start)) :=
  if_pos ⟨h, hstop⟩

theorem slice_cursor {cursor n : Nat} (h : cursor + n ≤ data.length) :
    slice data cursor (cursor + n) = .ok ((data.drop cursor).take n) := by
  rw [slice_ok (Nat.le_add_right cursor n) h, Nat.add_sub_cancel_left]

theorem readByte_ok {index : Nat} (h : index < data.length) :
    readByte data index = .ok data[index].toNat := by
  rw [readByte, List.getElem?_eq_getElem h]

theorem exists_four {cursor : Nat} (h : cursor + 4 ≤ data.length) :
    ∃ b₁ b₂ b₃ b₄ rest, data.drop cursor = b₁ :: b₂ :: b₃ :: b₄ :: rest := by
  have hlength : 4 ≤ (data.drop cursor).length := by
    rw [List.length_drop]
    omega
  match hdrop : data.drop cursor with
  | b₁ :: b₂ :: b₃ :: b₄ :: rest => exact ⟨b₁, b₂, b₃, b₄, rest, rfl⟩
  | [] | [_] | [_, _] | [_, _, _] =>
      rw [hdrop] at hlength
      simp at hlength

theorem exists_eight {cursor : Nat} (h : cursor + 8 ≤ data.length) :
    ∃ b₁ b₂ b₃ b₄ b₅ b₆ b₇ b₈ rest,
      data.drop cursor = b₁ :: b₂ :: b₃ :: b₄ :: b₅ :: b₆ :: b₇ :: b₈ :: rest := by
  obtain ⟨b₁, b₂, b₃, b₄, tail, htail⟩ := exists_four (by omega : cursor + 4 ≤ data.length)
  obtain ⟨b₅, b₆, b₇, b₈, rest, hrest⟩ := exists_four (by omega : cursor + 4 + 4 ≤ data.length)
  rw [← List.drop_drop, htail] at hrest
  change tail = _ at hrest
  exact ⟨b₁, b₂, b₃, b₄, b₅, b₆, b₇, b₈, rest, by rw [htail, hrest]⟩

theorem take_eight {b₁ b₂ b₃ b₄ b₅ b₆ b₇ b₈ : UInt8} {n : Nat} (h : 8 ≤ n) :
    (b₁ :: b₂ :: b₃ :: b₄ :: b₅ :: b₆ :: b₇ :: b₈ :: data).take n =
      b₁ :: b₂ :: b₃ :: b₄ :: b₅ :: b₆ :: b₇ :: b₈ :: data.take (n - 8) := by
  obtain ⟨k, rfl⟩ := Nat.exists_eq_add_of_le' h
  rw [Nat.add_sub_cancel]
  rfl

theorem drop_eight {b₁ b₂ b₃ b₄ b₅ b₆ b₇ b₈ : UInt8} {n : Nat} (h : 8 ≤ n) :
    (b₁ :: b₂ :: b₃ :: b₄ :: b₅ :: b₆ :: b₇ :: b₈ :: data).drop n = data.drop (n - 8) := by
  obtain ⟨k, rfl⟩ := Nat.exists_eq_add_of_le' h
  rw [Nat.add_sub_cancel]
  rfl

end CryptoScanner.Python
