import Mathlib.Data.List.Basic

/-!
# Joining with a separator

`[sep].intercalate parts`, as `sep.join(parts)`, over an arbitrary type of characters.
-/

namespace CryptoScanner.Library

variable {α : Type*}

/-- The elements of a joined list are those of its parts, and the separator. -/
theorem mem_intercalate {sep c : α} {parts : List (List α)} :
    (c ∈ [sep].intercalate parts → c = sep ∨ ∃ part ∈ parts, c ∈ part) ∧
      ∀ part ∈ parts, c ∈ part → c ∈ [sep].intercalate parts := by
  induction parts with
  | nil =>
      constructor
      · intro h
        cases h
      · intro part hpart
        cases hpart
  | cons first parts ih =>
      cases parts with
      | nil =>
          rw [List.intercalate_singleton]
          constructor
          · exact fun h => .inr ⟨first, List.mem_cons_self, h⟩
          · intro part hpart hc
            rw [List.mem_singleton] at hpart
            rwa [← hpart]
      | cons second parts =>
          rw [List.intercalate_cons_cons]
          constructor
          · intro h
            rw [List.mem_append, List.mem_append, List.mem_singleton] at h
            rcases h with (h | h) | h
            · exact .inr ⟨first, List.mem_cons_self, h⟩
            · exact .inl h
            · rcases ih.1 h with h | ⟨part, hpart, hc⟩
              · exact .inl h
              · exact .inr ⟨part, List.mem_cons_of_mem first hpart, hc⟩
          · intro part hpart hc
            rw [List.mem_append, List.mem_append]
            rcases List.mem_cons.mp hpart with rfl | hpart
            · exact .inl (.inl hc)
            · exact .inr (ih.2 part hpart hc)

/-- The separator is in no part of a list that is split at it. -/
theorem not_mem_of_mem_splitOn [BEq α] [LawfulBEq α] {sep : α} {s part : List α}
    (h : part ∈ s.splitOn sep) : sep ∉ part := by
  induction s generalizing part with
  | nil =>
      rw [List.splitOn_nil, List.mem_singleton] at h
      rw [h]
      exact List.not_mem_nil
  | cons c s ih =>
      rw [List.splitOn_cons_eq_if_modifyHead] at h
      split at h
      · rcases List.mem_cons.mp h with rfl | hmem
        · exact List.not_mem_nil
        · exact ih hmem
      · rename_i hc
        obtain ⟨first, rest, hsplit⟩ := List.exists_cons_of_ne_nil (List.splitOn_ne_nil sep s)
        rw [hsplit, List.modifyHead_cons] at h
        rcases List.mem_cons.mp h with rfl | hmem
        · have hfirst := ih (hsplit ▸ List.mem_cons_self)
          rw [List.mem_cons, not_or]
          exact ⟨fun heq => hc (beq_iff_eq.mpr heq.symm), hfirst⟩
        · exact ih (hsplit ▸ List.mem_cons_of_mem first hmem)

/-- A joined list is cut at the separators between its parts and at those in them. -/
theorem splitOn_intercalate_eq [BEq α] [LawfulBEq α] (sep : α) {parts : List (List α)}
    (hne : parts ≠ []) : ([sep].intercalate parts).splitOn sep = parts.flatMap (·.splitOn sep) := by
  induction parts with
  | nil => exact absurd rfl hne
  | cons part parts ih =>
      cases parts with
      | nil =>
          rw [List.intercalate_singleton, List.flatMap_singleton]
      | cons second parts =>
          rw [List.intercalate_cons_cons, List.append_assoc, List.singleton_append,
            List.splitOn_append_cons_self, ih (List.cons_ne_nil second parts)]
          exact List.flatMap_cons.symm

/-- A text without the separator in front of the first separator is determined. -/
theorem append_sep_inj {sep : α} {a b x y : List α} (ha : sep ∉ a) (hb : sep ∉ b)
    (h : a ++ sep :: x = b ++ sep :: y) : a = b ∧ x = y := by
  induction a generalizing b with
  | nil =>
      cases b with
      | nil => exact ⟨rfl, (List.cons.inj h).2⟩
      | cons c b =>
          have hc : sep = c := (List.cons.inj h).1
          exact absurd (hc ▸ List.mem_cons_self) hb
  | cons c a ih =>
      cases b with
      | nil =>
          have hc : c = sep := (List.cons.inj h).1
          exact absurd (hc ▸ List.mem_cons_self) ha
      | cons d b =>
          obtain ⟨hhead, htail⟩ := List.cons.inj h
          have hrest := ih (fun hmem => ha (List.mem_cons_of_mem c hmem))
            (fun hmem => hb (List.mem_cons_of_mem d hmem)) htail
          exact ⟨by rw [hhead, hrest.1], hrest.2⟩

/-- A text without the separator behind the last separator is determined. -/
theorem append_sep_inj_last {sep : α} {a b x y : List α} (hx : sep ∉ x) (hy : sep ∉ y)
    (h : a ++ sep :: x = b ++ sep :: y) : a = b ∧ x = y := by
  have hreverse := congrArg List.reverse h
  simp only [List.reverse_append, List.reverse_cons, List.append_assoc, List.singleton_append]
    at hreverse
  have hparts := append_sep_inj (by rwa [List.mem_reverse]) (by rwa [List.mem_reverse]) hreverse
  exact ⟨List.reverse_injective hparts.2, List.reverse_injective hparts.1⟩

theorem splitOn_injective [BEq α] [LawfulBEq α] (sep : α) :
    Function.Injective fun s : List α => s.splitOn sep := by
  intro s t h
  have hjoin := congrArg ([sep].intercalate ·) h
  simpa only [List.intercalate_splitOn] using hjoin

end CryptoScanner.Library
