import CryptoScanner.Python.Digits

/-!
# The words of a text

`str.split` without arguments: the longest runs of characters that are not white space.
-/

namespace CryptoScanner.Python

section

variable {α : Type*} {p : α → Bool}

theorem runs_cons_not {c : α} (s : List α) (h : p c = false) : runs p (c :: s) = runs p s := by
  rw [runs, if_neg (by rw [h]; exact Bool.false_ne_true)]

theorem runs_skip {gap : List α} (t : List α) (h : ∀ c ∈ gap, p c = false) :
    runs p (gap ++ t) = runs p t := by
  induction gap with
  | nil => rfl
  | cons c gap ih =>
      rw [List.cons_append, runs_cons_not _ (h c List.mem_cons_self)]
      exact ih fun d hd => h d (List.mem_cons_of_mem c hd)

theorem runs_cons_cons {c d : α} (s : List α) (hc : p c = true) (hd : p d = true) :
    ∃ run rest, runs p (d :: s) = run :: rest ∧ runs p (c :: d :: s) = (c :: run) :: rest := by
  obtain ⟨run, rest, hruns⟩ : ∃ run rest, runs p (d :: s) = run :: rest := by
    rw [runs, if_pos hd]
    split
    · exact ⟨_, _, rfl⟩
    · exact ⟨_, _, rfl⟩
  refine ⟨run, rest, hruns, ?_⟩
  rw [runs, if_pos hc, hruns, List.head?_cons, Option.any_some, hd]

theorem runs_cons_end {c : α} {s : List α} (hc : p c = true) (hs : s.head?.any p = false) :
    runs p (c :: s) = [c] :: runs p s := by
  rw [runs, if_pos hc, hs]

theorem runs_append_gap {gap : List α} (s t : List α) (hne : gap ≠ [])
    (h : ∀ c ∈ gap, p c = false) : runs p (s ++ (gap ++ t)) = runs p s ++ runs p t := by
  induction s with
  | nil => exact runs_skip t h
  | cons c s ih =>
      cases hc : p c with
      | false => rw [List.cons_append, runs_cons_not _ hc, runs_cons_not _ hc, ih]
      | true =>
          cases s with
          | nil =>
              have hhead : (gap ++ t).head?.any p = false := by
                cases gap with
                | nil => exact absurd rfl hne
                | cons d gap => exact h d List.mem_cons_self
              have hsingle : runs p [c] = [[c]] := runs_cons_end hc rfl
              rw [List.cons_append, List.nil_append, runs_cons_end hc hhead, runs_skip t h, hsingle]
              rfl
          | cons d s =>
              cases hd : p d with
              | false =>
                  have hhead : ∀ u, (d :: u).head?.any p = false := fun _ => hd
                  rw [List.cons_append, List.cons_append, runs_cons_end hc (hhead _),
                    ← List.cons_append, ih, runs_cons_end hc (hhead s)]
                  rfl
              | true =>
                  obtain ⟨run, rest, hruns, hlong⟩ := runs_cons_cons s hc hd
                  obtain ⟨run', rest', hruns', hlong'⟩ := runs_cons_cons (s ++ (gap ++ t)) hc hd
                  rw [List.cons_append, hruns', hruns, List.cons_append] at ih
                  obtain ⟨rfl, rfl⟩ := List.cons.inj ih
                  rw [List.cons_append, List.cons_append, hlong', hlong]
                  rfl

theorem runs_all {s : List α} (hne : s ≠ []) (h : ∀ c ∈ s, p c = true) : runs p s = [s] := by
  induction s with
  | nil => exact absurd rfl hne
  | cons c s ih =>
      have hc := h c List.mem_cons_self
      cases s with
      | nil => exact runs_cons_end hc rfl
      | cons d s =>
          have hrest := ih (List.cons_ne_nil d s) fun e he => h e (List.mem_cons_of_mem c he)
          obtain ⟨run, rest, hruns, hlong⟩ := runs_cons_cons s hc (h d (by simp))
          rw [hrest] at hruns
          obtain ⟨rfl, rfl⟩ := List.cons.inj hruns
          exact hlong

end

variable [PyText]

def words (text : List Char) : List (List Char) := runs (fun c => !PyText.isSpace c) text

theorem words_skip {blanks : List Char} (t : List Char)
    (h : ∀ c ∈ blanks, PyText.isSpace c = true) : words (blanks ++ t) = words t :=
  runs_skip t fun c hc => by rw [h c hc]; rfl

theorem words_append_gap {gap : List Char} (s t : List Char) (hne : gap ≠ [])
    (h : ∀ c ∈ gap, PyText.isSpace c = true) : words (s ++ (gap ++ t)) = words s ++ words t :=
  runs_append_gap s t hne fun c hc => by rw [h c hc]; rfl

theorem words_single {s : List Char} (hne : s ≠ []) (h : ∀ c ∈ s, PyText.isSpace c = false) :
    words s = [s] :=
  runs_all hne fun c hc => by rw [h c hc]; rfl

theorem words_cons_ne_nil {c : Char} (s : List Char) (h : PyText.isSpace c = false) :
    words (c :: s) ≠ [] := by
  rw [words, runs, if_pos (by rw [h]; rfl)]
  split
  · exact List.cons_ne_nil _ _
  · exact List.cons_ne_nil _ _

theorem words_strip (s : List Char) : words (strip s) = words s := by
  obtain ⟨before, after, hs, hbefore, hafter⟩ := exists_strip_append s
  have hend : words (strip s ++ after) = words (strip s) := by
    cases after with
    | nil => rw [List.append_nil]
    | cons c after =>
        have happend := words_append_gap (strip s) [] (List.cons_ne_nil c after) hafter
        rw [List.append_nil] at happend
        rw [happend]
        exact List.append_nil _
  conv_rhs => rw [hs]
  rw [List.append_assoc, words_skip _ hbefore, hend]

end CryptoScanner.Python
