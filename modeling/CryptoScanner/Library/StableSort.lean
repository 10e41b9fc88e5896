import Mathlib.Data.List.Sort

/-!
# Stable sorting of reordered lists

A stable sort by a preorder forgets the order of a list but for its ties.  So two orders of one list
sort alike exactly if every two tied items stand in the same order in both.
-/

namespace CryptoScanner.Library

variable {α : Type*}

/-- In a list without duplicates one of two items comes first. -/
theorem pair_sublist_of_mem {l : List α} {a b : α} (ha : a ∈ l) (hb : b ∈ l) (hne : a ≠ b) :
    [a, b].Sublist l ∨ [b, a].Sublist l := by
  induction l with
  | nil => cases ha
  | cons c l ih =>
      rcases List.mem_cons.mp ha with rfl | ha'
      · rcases List.mem_cons.mp hb with rfl | hb'
        · exact absurd rfl hne
        · exact .inl ((List.singleton_sublist.mpr hb').cons_cons a)
      · rcases List.mem_cons.mp hb with rfl | hb'
        · exact .inr ((List.singleton_sublist.mpr ha').cons_cons b)
        · exact (ih ha' hb').imp (List.Sublist.cons c) (List.Sublist.cons c)

theorem not_pair_sublist_swap {l : List α} (hnodup : l.Nodup) {a b : α} (h : [a, b].Sublist l) :
    ¬[b, a].Sublist l := by
  induction l with
  | nil => cases h
  | cons c l ih =>
      rw [List.nodup_cons] at hnodup
      intro hswap
      have hmem : ∀ {x y : α}, [x, y].Sublist l → y ∈ l := by
        intro x y hpair
        exact hpair.subset (List.mem_cons_of_mem x List.mem_cons_self)
      cases h with
      | cons _ h =>
          cases hswap with
          | cons _ hswap => exact ih hnodup.2 h hswap
          | cons_cons _ hswap => exact hnodup.1 (hmem h)
      | cons_cons _ h =>
          cases hswap with
          | cons _ hswap => exact hnodup.1 (hmem hswap)
          | cons_cons _ hswap => exact hnodup.1 (List.singleton_sublist.mp h)

theorem mem_of_pair_sublist {l : List α} {a b : α} (h : [a, b].Sublist l) : a ∈ l ∧ b ∈ l :=
  ⟨h.subset List.mem_cons_self, h.subset (List.mem_cons_of_mem a List.mem_cons_self)⟩

def either {κ : Type*} [DecidableEq κ] (p q k : κ) : Bool := decide (k = p ∨ k = q)

/-- Of two items with keys of their own, the one whose key is found first comes first. -/
theorem pair_sublist_iff_find? {κ : Type*} [DecidableEq κ] {key : α → κ} {l : List α}
    (hnodup : (l.map key).Nodup) {a b : α} (ha : a ∈ l) (hb : b ∈ l) (hne : a ≠ b) :
    [a, b].Sublist l ↔
      (l.map key).find? (either (key a) (key b)) = some (key a) := by
  have hkeys : key a ≠ key b := fun heq => hne (List.inj_on_of_nodup_map hnodup ha hb heq)
  induction l with
  | nil => cases ha
  | cons c l ih =>
      have hcons := hnodup
      rw [List.map_cons, List.nodup_cons] at hcons
      have hnot : ∀ {x : α}, x ∈ l → key c ≠ key x := by
        intro x hx heq
        exact hcons.1 (heq ▸ List.mem_map_of_mem hx)
      rw [List.map_cons]
      -- the head is `a`, or `b`, or neither, and then it is skipped by both sides
      rcases List.mem_cons.mp ha with rfl | ha'
      · have hb' : b ∈ l := (List.mem_cons.mp hb).resolve_left hne.symm
        have hfirst : either (key a) (key b) (key a) = true := decide_eq_true (.inl rfl)
        rw [List.find?_cons_of_pos hfirst]
        exact ⟨fun _ => rfl, fun _ => (List.singleton_sublist.mpr hb').cons_cons a⟩
      · rcases List.mem_cons.mp hb with rfl | hb'
        · have hfirst : either (key a) (key b) (key b) = true := decide_eq_true (.inr rfl)
          rw [List.find?_cons_of_pos hfirst]
          constructor
          · intro hpair
            have hswap := (List.singleton_sublist.mpr ha').cons_cons b
            exact absurd hpair (not_pair_sublist_swap hnodup.of_map hswap)
          · intro hfind
            exact absurd (Option.some.inj hfind).symm hkeys
        · have hskip : ¬either (key a) (key b) (key c) = true := by
            rw [either, decide_eq_true_eq, not_or]
            exact ⟨hnot ha', hnot hb'⟩
          have htail := ih hcons.2 ha' hb'
          rw [List.find?_cons_of_neg hskip]
          constructor
          · intro hpair
            cases hpair with
            | cons _ hpair => exact htail.mp hpair
            | cons_cons _ hpair => exact absurd rfl (hnot ha')
          · intro hfind
            exact (htail.mpr hfind).cons c

variable (r : α → α → Prop) [DecidableRel r]

theorem pair_sublist_of_insertionSort {l : List α} (hnodup : l.Nodup) {a b : α} (hba : r b a)
    (h : [a, b].Sublist (l.insertionSort r)) : [a, b].Sublist l := by
  have hsort := List.perm_insertionSort r l
  have hsorted := hsort.nodup_iff.mpr hnodup
  have hne : a ≠ b := by
    rintro rfl
    exact not_pair_sublist_swap hsorted h h
  obtain ⟨ha, hb⟩ := mem_of_pair_sublist h
  rcases pair_sublist_of_mem (hsort.subset ha) (hsort.subset hb) hne with hpair | hpair
  · exact hpair
  · exact absurd (List.pair_sublist_insertionSort hba hpair) (not_pair_sublist_swap hsorted h)

variable [Std.Total r] [IsTrans α r]

/-- Two orders of one list sort alike exactly if their ties stand in the same order. -/
theorem insertionSort_eq_iff {l l' : List α} (hperm : l.Perm l') (hnodup : l.Nodup) :
    l.insertionSort r = l'.insertionSort r ↔
      ∀ a b, a ≠ b → r a b → r b a → [a, b].Sublist l → [a, b].Sublist l' := by
  have hnodup' : l'.Nodup := hperm.nodup_iff.mp hnodup
  constructor
  · intro heq a b _ hab hba hpair
    have hsorted := List.pair_sublist_insertionSort hab hpair
    rw [heq] at hsorted
    exact pair_sublist_of_insertionSort r hnodup' hba hsorted
  · intro hties
    -- sorting leaves both lists ordered by `r`, and within ties by their place in the second
    apply @List.Perm.eq_of_pairwise α fun a b => r a b ∧ (r b a → [a, b].Sublist l')
    · rintro a b _ _ ⟨hab, hfirst⟩ ⟨hba, hsecond⟩
      exact absurd (hsecond hab) (not_pair_sublist_swap hnodup' (hfirst hba))
    · rw [List.pairwise_iff_forall_sublist]
      intro a b hpair
      have hab := List.pairwise_iff_forall_sublist.mp (List.pairwise_insertionSort r l) hpair
      refine ⟨hab, fun hba => ?_⟩
      have hl := pair_sublist_of_insertionSort r hnodup hba hpair
      have hne : a ≠ b := by
        rintro rfl
        exact not_pair_sublist_swap hnodup hl hl
      exact hties a b hne hab hba hl
    · rw [List.pairwise_iff_forall_sublist]
      intro a b hpair
      have hab := List.pairwise_iff_forall_sublist.mp (List.pairwise_insertionSort r l') hpair
      exact ⟨hab, fun hba => pair_sublist_of_insertionSort r hnodup' hba hpair⟩
    · exact (List.perm_insertionSort r l).trans
        (hperm.trans (List.perm_insertionSort r l').symm)

theorem insertionSort_eq_of_perm [Std.Antisymm r] {l l' : List α} (hperm : l.Perm l') :
    l.insertionSort r = l'.insertionSort r :=
  ((List.perm_insertionSort r l).trans (hperm.trans (List.perm_insertionSort r l').symm))
    |>.eq_of_pairwise' (List.pairwise_insertionSort r l) (List.pairwise_insertionSort r l')

end CryptoScanner.Library
