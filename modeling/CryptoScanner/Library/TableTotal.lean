import Mathlib.Algebra.BigOperators.Group.Finset.Basic
import Mathlib.Algebra.Order.BigOperators.Group.Finset
import CryptoScanner.Library.Table

/-!
# Totals over the rows of a table

The sum of a natural number that each row contributes, and what an insertion and an update of one row
make of it.
-/

namespace CryptoScanner.Library.Table

variable {α : Type*}

/-- The sum of `load` over the rows. -/
def total (t : Table α) (load : α → Nat) : Nat :=
  ∑ id ∈ Finset.range t.nextId, ((t.find? id).map load).getD 0

theorem total_insert (t : Table α) (a : α) (load : α → Nat) :
    (t.insert a).total load = t.total load + load a := by
  unfold total
  rw [nextId_insert, Finset.sum_range_succ, find?_insert_self, Option.map_some, Option.getD_some]
  congr 1
  apply Finset.sum_congr rfl
  intro id hid
  rw [find?_insert, if_neg (Nat.ne_of_lt (Finset.mem_range.mp hid))]

theorem total_modify {t : Table α} {id : Nat} {a : α} (h : t.find? id = some a) (f : α → α)
    (load : α → Nat) : (t.modify id f).total load + load a = t.total load + load (f a) := by
  have hmem : id ∈ Finset.range t.nextId := Finset.mem_range.mpr (lt_nextId h)
  have hrest : ∑ k ∈ (Finset.range t.nextId).erase id,
      (((t.modify id f).find? k).map load).getD 0 =
      ∑ k ∈ (Finset.range t.nextId).erase id, ((t.find? k).map load).getD 0 := by
    apply Finset.sum_congr rfl
    intro k hk
    rw [find?_modify_ne t f (Finset.ne_of_mem_erase hk)]
  unfold total
  rw [nextId_modify, ← Finset.add_sum_erase _ _ hmem, ← Finset.add_sum_erase _ _ hmem, hrest,
    find?_modify_self, h]
  simp only [Option.map_some, Option.getD_some]
  omega

theorem le_total {t : Table α} {id : Nat} {a : α} (h : t.find? id = some a) (load : α → Nat) :
    load a ≤ t.total load := by
  have hmem : id ∈ Finset.range t.nextId := Finset.mem_range.mpr (lt_nextId h)
  have hterm : ((t.find? id).map load).getD 0 = load a := by
    rw [h]
    rfl
  rw [← hterm]
  exact Finset.single_le_sum (f := fun k => ((t.find? k).map load).getD 0)
    (fun _ _ => Nat.zero_le _) hmem

end CryptoScanner.Library.Table
