import Mathlib.Data.List.DropRight

/-!
# Trimming both ends of a list

Two notions of white space trim a list to the same rest as soon as what is left by each begins and ends
with an element that the other one keeps.
-/

namespace CryptoScanner.Library

variable {α : Type*}

/-- The list without the elements at both ends that `p` selects. -/
def trim (p : α → Bool) (s : List α) : List α := (s.dropWhile p).rdropWhile p

theorem not_of_mem_head?_dropWhile {p : α → Bool} {s : List α} {a : α}
    (h : a ∈ (s.dropWhile p).head?) : p a = false := by
  have hhead := List.head?_dropWhile_not p s
  rw [Option.mem_def] at h
  rw [h] at hhead
  exact hhead

theorem dropWhile_eq_dropWhile {p q : α → Bool} {s : List α}
    (hp : ∀ a ∈ (s.dropWhile p).head?, q a = false)
    (hq : ∀ a ∈ (s.dropWhile q).head?, p a = false) : s.dropWhile p = s.dropWhile q := by
  induction s with
  | nil => rfl
  | cons a s ih =>
      cases hpa : p a with
      | true =>
          cases hqa : q a with
          | true =>
              rw [List.dropWhile_cons_of_pos hpa] at hp ⊢
              rw [List.dropWhile_cons_of_pos hqa] at hq ⊢
              exact ih hp hq
          | false =>
              rw [List.dropWhile_cons_of_neg (by rw [hqa]; decide)] at hq
              rw [hq a rfl] at hpa
              cases hpa
      | false =>
          cases hqa : q a with
          | true =>
              rw [List.dropWhile_cons_of_neg (by rw [hpa]; decide)] at hp
              rw [hp a rfl] at hqa
              cases hqa
          | false =>
              rw [List.dropWhile_cons_of_neg (by rw [hpa]; decide),
                List.dropWhile_cons_of_neg (by rw [hqa]; decide)]

theorem rdropWhile_eq_rdropWhile {p q : α → Bool} {s : List α}
    (hp : ∀ a ∈ (s.rdropWhile p).getLast?, q a = false)
    (hq : ∀ a ∈ (s.rdropWhile q).getLast?, p a = false) : s.rdropWhile p = s.rdropWhile q := by
  unfold List.rdropWhile at hp hq ⊢
  rw [List.getLast?_reverse] at hp hq
  rw [dropWhile_eq_dropWhile hp hq]

theorem head?_rdropWhile {p : α → Bool} {s : List α} {a : α} (hhead : s.head? = some a)
    (ha : p a = false) : (s.rdropWhile p).head? = some a := by
  obtain ⟨rest, hrest⟩ := List.rdropWhile_prefix p s
  cases hleft : s.rdropWhile p with
  | nil =>
      have hall := List.rdropWhile_eq_nil_iff.mp hleft a (List.mem_of_mem_head? hhead)
      rw [ha] at hall
      cases hall
  | cons b left =>
      rw [← hrest, hleft] at hhead
      exact hhead

/-- What is left begins as the list without its front does. -/
theorem head?_trim {p : α → Bool} {s : List α} (hne : trim p s ≠ []) :
    (s.dropWhile p).head? = (trim p s).head? := by
  obtain ⟨rest, hrest⟩ := List.rdropWhile_prefix p (s.dropWhile p)
  cases htrim : trim p s with
  | nil => exact absurd htrim hne
  | cons a left =>
      rw [← hrest]
      show (trim p s ++ rest).head? = _
      rw [htrim, List.cons_append, List.head?_cons, List.head?_cons]

theorem not_of_mem_head?_trim {p : α → Bool} {s : List α} {a : α} (h : a ∈ (trim p s).head?) :
    p a = false := by
  have hne : trim p s ≠ [] := by
    intro hnil
    rw [hnil] at h
    cases h
  rw [← head?_trim hne] at h
  exact not_of_mem_head?_dropWhile h

theorem not_of_mem_getLast?_trim {p : α → Bool} {s : List α} {a : α}
    (h : a ∈ (trim p s).getLast?) : p a = false := by
  unfold trim List.rdropWhile at h
  rw [List.getLast?_reverse] at h
  exact not_of_mem_head?_dropWhile h

/-- Two trims agree where each leaves ends that the other keeps. -/
theorem trim_eq_trim {p q : α → Bool} {s : List α} (hpne : trim p s ≠ []) (hqne : trim q s ≠ [])
    (hp : ∀ a ∈ trim p s, q a = false) (hq : ∀ a ∈ (trim q s).head?, p a = false)
    (hqlast : ∀ a ∈ (trim q s).getLast?, p a = false) : trim p s = trim q s := by
  have hfront : s.dropWhile p = s.dropWhile q := by
    apply dropWhile_eq_dropWhile
    · intro a ha
      rw [head?_trim hpne] at ha
      exact hp a (List.mem_of_mem_head? ha)
    · intro a ha
      rw [head?_trim hqne] at ha
      exact hq a ha
  unfold trim at hp hqlast ⊢
  rw [hfront] at hp ⊢
  apply rdropWhile_eq_rdropWhile
  · intro a ha
    exact hp a (List.mem_of_mem_getLast? ha)
  · exact hqlast

theorem trim_eq_self {p : α → Bool} {s : List α} (hhead : ∀ a ∈ s.head?, p a = false)
    (hlast : ∀ a ∈ s.getLast?, p a = false) : trim p s = s := by
  have hfront : s.dropWhile p = s := by
    cases s with
    | nil => rfl
    | cons a s => exact List.dropWhile_cons_of_neg (by rw [hhead a rfl]; decide)
  rw [trim, hfront, List.rdropWhile_eq_self_iff]
  intro hne
  rw [hlast _ (List.getLast_mem_getLast? hne)]
  decide

theorem trim_trim (p : α → Bool) (s : List α) : trim p (trim p s) = trim p s :=
  trim_eq_self (fun _ ha => not_of_mem_head?_trim ha) fun _ ha => not_of_mem_getLast?_trim ha

theorem rdropWhile_map {β : Type*} {p : β → Bool} {q : α → Bool} {f : α → β}
    (h : ∀ a, p (f a) = q a) (s : List α) :
    (s.map f).rdropWhile p = (s.rdropWhile q).map f := by
  have hcomp : p ∘ f = q := funext h
  unfold List.rdropWhile
  rw [← List.map_reverse, List.dropWhile_map, hcomp, List.map_reverse]

/-- A map that keeps the separator keeps the parts. -/
theorem splitOn_map [BEq α] {a : α} {f : α → α} (h : ∀ b, (f b == a) = (b == a)) (s : List α) :
    (s.map f).splitOn a = (s.splitOn a).map (List.map f) := by
  unfold List.splitOn
  induction s with
  | nil => rfl
  | cons b s ih =>
      rw [List.map_cons, List.splitOnP_cons_eq_if_modifyHead, List.splitOnP_cons_eq_if_modifyHead,
        h b, ih]
      cases hb : b == a with
      | true => rfl
      | false =>
          cases hparts : s.splitOnP (· == a) with
          | nil => exact absurd hparts (List.splitOnP_ne_nil _ s)
          | cons part parts => rfl

end CryptoScanner.Library
