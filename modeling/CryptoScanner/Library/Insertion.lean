import Mathlib.Data.List.Basic

/-!
# Inserting elements into a list

Elements are inserted at any places of a list, any number of them at each place.
-/

namespace CryptoScanner.Library

variable {α β : Type*}

/-- `whole` is `base` with the elements of `added`, in their order, inserted. -/
inductive Inserted : (base added whole : List α) → Prop
  | nil : Inserted [] [] []
  | keep {base added whole : List α} (a : α) (h : Inserted base added whole) :
      Inserted (a :: base) added (a :: whole)
  | add {base added whole : List α} (a : α) (h : Inserted base added whole) :
      Inserted base (a :: added) (a :: whole)

namespace Inserted

variable {base added whole : List α}

theorem refl (items : List α) : Inserted items [] items := by
  induction items with
  | nil => exact nil
  | cons a items ih => exact keep a ih

theorem middle (front back : List α) (a : α) : Inserted (front ++ back) [a] (front ++ a :: back) := by
  induction front with
  | nil => exact add a (refl back)
  | cons b front ih => exact keep b ih

theorem mem_iff (h : Inserted base added whole) (a : α) : a ∈ whole ↔ a ∈ base ∨ a ∈ added := by
  induction h with
  | nil => simp
  | keep b h ih => rw [List.mem_cons, List.mem_cons, ih, or_assoc]
  | add b h ih => rw [List.mem_cons, List.mem_cons, ih, or_left_comm]

theorem mem_flatMap_iff (h : Inserted base added whole) (f : α → List β) (b : β) :
    b ∈ whole.flatMap f ↔ b ∈ base.flatMap f ∨ b ∈ added.flatMap f := by
  simp only [List.mem_flatMap, h.mem_iff, or_and_right, exists_or]

/-- What is computed of the elements one by one does not see those that it drops. -/
theorem filterMap_eq (h : Inserted base added whole) {f : α → Option β}
    (hadded : ∀ a ∈ added, f a = none) : whole.filterMap f = base.filterMap f := by
  induction h with
  | nil => rfl
  | keep b h ih => rw [List.filterMap_cons, List.filterMap_cons, ih hadded]
  | add b h ih =>
      rw [List.filterMap_cons_none (hadded b List.mem_cons_self)]
      exact ih fun a ha => hadded a (List.mem_cons_of_mem b ha)

end Inserted

end CryptoScanner.Library
