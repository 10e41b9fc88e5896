import Mathlib.Data.List.Induction
import Mathlib.Data.List.Nodup
import Mathlib.Data.List.Pairwise

/-!
# Distinct values of a list

Values are collected in order.  A value is dropped if it is of no interest, or if a value that was
kept before is the same.  Sameness is a test, with no law assumed of it.
-/

namespace CryptoScanner.Library

variable {α : Type*} (drop : α → Prop) [DecidablePred drop] (same : α → α → Bool)

def distinctStep (kept : List α) (item : α) : List α :=
  if drop item ∨ kept.any (fun other => same other item) then kept else kept ++ [item]

def distinct (items : List α) : List α := items.foldl (distinctStep drop same) []

/-- A value that is kept, or that a kept value stands for. -/
def Covered (kept : List α) (item : α) : Prop := ∃ other ∈ kept, other = item ∨ same other item

theorem distinct_concat (items : List α) (item : α) :
    distinct drop same (items ++ [item]) =
      distinctStep drop same (distinct drop same items) item := by
  rw [distinct, List.foldl_append]
  rfl

theorem prefix_foldl_distinctStep (kept items : List α) :
    kept <+: items.foldl (distinctStep drop same) kept := by
  induction items generalizing kept with
  | nil => exact List.prefix_refl kept
  | cons item items ih =>
      have hstep : kept <+: distinctStep drop same kept item := by
        unfold distinctStep
        split
        · exact List.prefix_refl kept
        · exact List.prefix_append kept [item]
      exact hstep.trans (ih _)

theorem prefix_distinct_append (items more : List α) :
    distinct drop same items <+: distinct drop same (items ++ more) := by
  rw [distinct, distinct, List.foldl_append]
  exact prefix_foldl_distinctStep drop same _ more

theorem mem_of_mem_distinct {items : List α} {item : α} (h : item ∈ distinct drop same items) :
    item ∈ items ∧ ¬ drop item := by
  induction items using List.reverseRecOn with
  | nil => cases h
  | append_singleton items other ih =>
      rw [distinct_concat, distinctStep] at h
      by_cases hdrop : drop other ∨ (distinct drop same items).any (fun kept => same kept other)
      · rw [if_pos hdrop] at h
        have hmem := ih h
        exact ⟨List.mem_append_left _ hmem.1, hmem.2⟩
      · rw [if_neg hdrop] at h
        rcases List.mem_append.mp h with hkept | hother
        · have hmem := ih hkept
          exact ⟨List.mem_append_left _ hmem.1, hmem.2⟩
        · have heq := List.mem_singleton.mp hother
          rw [not_or] at hdrop
          exact ⟨List.mem_append_right _ hother, heq ▸ hdrop.1⟩

theorem Covered.mono {kept more : List α} {item : α} (h : Covered same kept item)
    (hsub : kept ⊆ more) : Covered same more item := by
  obtain ⟨other, hother, hsame⟩ := h
  exact ⟨other, hsub hother, hsame⟩

theorem covered_distinct {items : List α} {item : α} (hitem : item ∈ items) (hkeep : ¬ drop item) :
    Covered same (distinct drop same items) item := by
  induction items using List.reverseRecOn with
  | nil => cases hitem
  | append_singleton items other ih =>
      have hprefix := (prefix_distinct_append drop same items [other]).subset
      rcases List.mem_append.mp hitem with hmem | hother
      · exact (ih hmem).mono same hprefix
      · rw [← List.mem_singleton.mp hother, distinct_concat, distinctStep]
        by_cases hany : (distinct drop same items).any fun kept => same kept item
        · rw [if_pos (.inr hany)]
          obtain ⟨kept, hkept, hsame⟩ := List.any_eq_true.mp hany
          exact ⟨kept, hkept, .inr hsame⟩
        · rw [if_neg (not_or.mpr ⟨hkeep, hany⟩)]
          exact ⟨item, List.mem_append_right _ List.mem_cons_self, .inl rfl⟩

theorem distinct_distinct (items : List α) :
    distinct drop same (distinct drop same items) = distinct drop same items := by
  induction items using List.reverseRecOn with
  | nil => rfl
  | append_singleton items item ih =>
      rw [distinct_concat, distinctStep]
      split
      · exact ih
      · rename_i hkeep
        rw [distinct_concat, ih, distinctStep, if_neg hkeep]

theorem distinct_distinct_append (items more : List α) :
    distinct drop same (distinct drop same items ++ more) =
      distinct drop same (items ++ more) := by
  rw [distinct, List.foldl_append, ← distinct, distinct_distinct, distinct, distinct,
    List.foldl_append]

theorem distinct_append_of_subset {items more : List α} (h : more ⊆ items)
    (hrefl : ∀ item, same item item = true) :
    distinct drop same (items ++ more) = distinct drop same items := by
  rw [distinct, List.foldl_append, ← distinct]
  induction more with
  | nil => rfl
  | cons item more ih =>
      obtain ⟨hitem, hmore⟩ := List.cons_subset.mp h
      have hstep : distinctStep drop same (distinct drop same items) item =
          distinct drop same items := by
        unfold distinctStep
        apply if_pos
        by_cases hdrop : drop item
        · exact .inl hdrop
        · obtain ⟨other, hother, hsame⟩ := covered_distinct drop same hitem hdrop
          refine .inr (List.any_eq_true.mpr ⟨other, hother, ?_⟩)
          rcases hsame with heq | hsame
          · rw [heq]
            exact hrefl item
          · exact hsame
      rw [List.foldl_cons, hstep]
      exact ih hmore

theorem distinct_eq_nil_iff {items : List α} :
    distinct drop same items = [] ↔ ∀ item ∈ items, drop item := by
  constructor
  · intro h item hitem
    by_contra hkeep
    obtain ⟨other, hother, -⟩ := covered_distinct drop same hitem hkeep
    rw [h] at hother
    cases hother
  · intro h
    apply List.eq_nil_iff_forall_not_mem.mpr
    intro item hitem
    obtain ⟨hmem, hkeep⟩ := mem_of_mem_distinct drop same hitem
    exact hkeep (h item hmem)

/-- Values of no interest may be dropped beforehand. -/
theorem distinct_filter (items : List α) :
    distinct drop same (items.filter fun item => ¬ drop item) = distinct drop same items := by
  induction items using List.reverseRecOn with
  | nil => rfl
  | append_singleton items item ih =>
      rw [List.filter_append, distinct_concat]
      by_cases hdrop : drop item
      · rw [List.filter_cons_of_neg (by simpa using hdrop), List.filter_nil, List.append_nil, ih,
          distinctStep, if_pos (.inl hdrop)]
      · rw [List.filter_cons_of_pos (by simpa using hdrop), List.filter_nil, distinct_concat, ih]

/-! ## First occurrences -/

section

variable [BEq α] [LawfulBEq α]

/-- The same values, and their first occurrences come in the same order. -/
structure SameFirsts (items more : List α) : Prop where
  mem_iff : ∀ a, a ∈ items ↔ a ∈ more
  idxOf_lt_iff : ∀ a ∈ items, ∀ b ∈ items,
    (items.idxOf a < items.idxOf b ↔ more.idxOf a < more.idxOf b)

instance (items more : List α) : Decidable (SameFirsts items more) :=
  decidable_of_iff ((∀ a ∈ items, a ∈ more) ∧ (∀ a ∈ more, a ∈ items) ∧
      ∀ a ∈ items, ∀ b ∈ items, (items.idxOf a < items.idxOf b ↔ more.idxOf a < more.idxOf b))
    ⟨fun ⟨hsub, hsup, horder⟩ => ⟨fun a => ⟨hsub a, hsup a⟩, horder⟩,
      fun h => ⟨fun a => (h.mem_iff a).mp, fun a => (h.mem_iff a).mpr, h.idxOf_lt_iff⟩⟩

variable {drop} {items more : List α}

theorem mem_distinct_iff (h : ∀ item ∈ items, ¬ drop item) (a : α) :
    a ∈ distinct drop (· == ·) items ↔ a ∈ items := by
  constructor
  · exact fun hmem => (mem_of_mem_distinct drop _ hmem).1
  · intro hmem
    obtain ⟨other, hother, heq⟩ := covered_distinct drop (· == ·) hmem (h a hmem)
    have hsame : other = a := heq.elim id fun hbeq => eq_of_beq hbeq
    exact hsame ▸ hother

/-- Values are kept in the order of their first occurrences. -/
theorem pairwise_distinct (h : ∀ item ∈ items, ¬ drop item) :
    (distinct drop (· == ·) items).Pairwise fun a b => items.idxOf a < items.idxOf b := by
  induction items using List.reverseRecOn with
  | nil => exact List.Pairwise.nil
  | append_singleton items item ih =>
      have hitems : ∀ other ∈ items, ¬ drop other := fun other hother =>
        h other (List.mem_append_left _ hother)
      have hold : (distinct drop (· == ·) items).Pairwise fun a b =>
          (items ++ [item]).idxOf a < (items ++ [item]).idxOf b := by
        refine (ih hitems).imp_of_mem fun {a b} ha hb hlt => ?_
        rw [List.idxOf_append, if_pos ((mem_distinct_iff hitems a).mp ha), List.idxOf_append,
          if_pos ((mem_distinct_iff hitems b).mp hb)]
        exact hlt
      rw [distinct_concat, distinctStep]
      split
      · exact hold
      next hnew =>
        have hitem : item ∉ items := by
          intro hmem
          refine hnew (.inr (List.any_eq_true.mpr ⟨item, ?_, beq_self_eq_true item⟩))
          exact (mem_distinct_iff hitems item).mpr hmem
        refine List.pairwise_append.mpr ⟨hold, List.pairwise_singleton _ _, fun a ha b hb => ?_⟩
        have hmem := (mem_distinct_iff hitems a).mp ha
        rw [List.mem_singleton.mp hb, List.idxOf_append, if_pos hmem, List.idxOf_append,
          if_neg hitem]
        exact Nat.lt_of_lt_of_le (List.idxOf_lt_length_of_mem hmem) (Nat.le_add_left _ _)

theorem nodup_distinct (h : ∀ item ∈ items, ¬ drop item) :
    (distinct drop (· == ·) items).Nodup :=
  (pairwise_distinct h).imp fun hlt heq => Nat.ne_of_lt hlt (congrArg items.idxOf heq)

/-- Two lists leave the same distinct values exactly if their first occurrences are the same. -/
theorem distinct_eq_iff (hitems : ∀ item ∈ items, ¬ drop item) (hmore : ∀ item ∈ more, ¬ drop item) :
    distinct drop (· == ·) items = distinct drop (· == ·) more ↔ SameFirsts items more := by
  have hleft := pairwise_distinct hitems
  have hright := pairwise_distinct hmore
  constructor
  · intro heq
    have hmem : ∀ a, a ∈ items ↔ a ∈ more := by
      intro a
      rw [← mem_distinct_iff hitems, heq, mem_distinct_iff hmore]
    refine ⟨hmem, fun a ha b hb => ?_⟩
    by_cases hab : a = b
    · rw [hab]
      exact iff_of_false (Nat.lt_irrefl _) (Nat.lt_irrefl _)
    -- two kept values stand in one of the two orders, and this is the order in both lists
    rw [heq] at hleft
    let Agree (a b : α) : Prop :=
      (items.idxOf a < items.idxOf b ↔ more.idxOf a < more.idxOf b) ∧
        (items.idxOf b < items.idxOf a ↔ more.idxOf b < more.idxOf a)
    have : Std.Symm Agree := ⟨fun a b h => h.symm⟩
    have hboth : (distinct drop (· == ·) more).Pairwise Agree :=
      (hleft.and hright).imp fun {a b} hlt =>
        ⟨iff_of_true hlt.1 hlt.2, iff_of_false (Nat.lt_asymm hlt.1) (Nat.lt_asymm hlt.2)⟩
    have ha' := (mem_distinct_iff hmore a).mpr ((hmem a).mp ha)
    have hb' := (mem_distinct_iff hmore b).mpr ((hmem b).mp hb)
    exact (hboth.forall ha' hb' hab).1
  · intro h
    have hperm : (distinct drop (· == ·) items).Perm (distinct drop (· == ·) more) := by
      refine (List.perm_ext_iff_of_nodup (nodup_distinct hitems) (nodup_distinct hmore)).mpr ?_
      intro a
      rw [mem_distinct_iff hitems, mem_distinct_iff hmore]
      exact h.mem_iff a
    have hright' : (distinct drop (· == ·) more).Pairwise fun a b =>
        items.idxOf a < items.idxOf b := by
      refine hright.imp_of_mem fun {a b} ha hb hlt => ?_
      have ha' := (h.mem_iff a).mpr ((mem_distinct_iff hmore a).mp ha)
      have hb' := (h.mem_iff b).mpr ((mem_distinct_iff hmore b).mp hb)
      exact (h.idxOf_lt_iff a ha' b hb').mpr hlt
    exact hperm.eq_of_pairwise (fun a b _ _ hlt hgt => absurd hlt (Nat.lt_asymm hgt)) hleft hright'

end

/-- Of distinct values, a filter that only one of them passes keeps this one. -/
theorem filter_eq_singleton {items : List α} {p : α → Bool} {item : α} (hnodup : items.Nodup)
    (hmem : item ∈ items) (hp : p item = true)
    (hunique : ∀ other ∈ items, p other = true → other = item) : items.filter p = [item] := by
  rw [← List.perm_singleton,
    List.perm_ext_iff_of_nodup (hnodup.filter p) (List.nodup_singleton item)]
  intro other
  rw [List.mem_filter, List.mem_singleton]
  constructor
  · exact fun h => hunique other h.1 h.2
  · rintro rfl
    exact ⟨hmem, hp⟩

end CryptoScanner.Library
