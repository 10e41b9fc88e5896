import Mathlib.Data.List.Basic

/-!
# Guarded runs of a partial step function

A system is a step function `step : σ → α → Option σ` over an arbitrary state and label type;
`none` means the label is not enabled.  A run records the labels it took.  The guard `ok` names the
steps a statement is about: with the trivial guard a run is any interleaving of the steps, with a
real one it is an interleaving all of whose steps meet the guard in the state they start from.
-/

namespace CryptoScanner.Library

variable {σ α : Type*}

/-- A finite run from one state to another through enabled steps that all meet `ok`. -/
inductive Run (step : σ → α → Option σ) (ok : σ → α → Prop) : σ → List α → σ → Prop
  | nil (s : σ) : Run step ok s [] s
  | cons {s t u : σ} {a : α} {as : List α} :
      ok s a → step s a = some t → Run step ok t as u → Run step ok s (a :: as) u

/-- The guard every step meets. -/
def anyStep (_ : σ) (_ : α) : Prop := True

variable {step : σ → α → Option σ} {ok : σ → α → Prop}

theorem Run.single {s t : σ} {a : α} (hok : ok s a) (h : step s a = some t) :
    Run step ok s [a] t :=
  .cons hok h (.nil t)

theorem Run.append {s t u : σ} {as bs : List α} (h : Run step ok s as t)
    (h' : Run step ok t bs u) : Run step ok s (as ++ bs) u := by
  induction h with
  | nil => exact h'
  | cons hok hs _ ih => exact .cons hok hs (ih h')

def runAll (step : σ → α → Option σ) : σ → List α → Option σ
  | s, [] => some s
  | s, a :: as => (step s a).bind fun t => runAll step t as

theorem Run.of_runAll {s t : σ} {as : List α} (h : runAll step s as = some t) :
    Run step anyStep s as t := by
  induction as generalizing s with
  | nil =>
      cases h
      exact .nil _
  | cons a as ih =>
      rw [runAll, Option.bind_eq_some_iff] at h
      obtain ⟨u, hu, hrest⟩ := h
      exact .cons trivial hu (ih hrest)

theorem Run.of_runAll_of_forall {s t : σ} {as : List α} (h : runAll step s as = some t)
    (hok : ∀ a ∈ as, ∀ s, ok s a) : Run step ok s as t := by
  induction as generalizing s with
  | nil =>
      cases h
      exact .nil _
  | cons a as ih =>
      rw [runAll, Option.bind_eq_some_iff] at h
      obtain ⟨u, hu, hrest⟩ := h
      exact .cons (hok a List.mem_cons_self s) hu
        (ih hrest fun b hb => hok b (List.mem_cons_of_mem a hb))

/-- Take the labels in order, where each is enabled and meets the guard. -/
def runWhere (step : σ → α → Option σ) (ok : σ → α → Prop) [∀ s a, Decidable (ok s a)] :
    σ → List α → Option σ
  | s, [] => some s
  | s, a :: as => if ok s a then (step s a).bind fun t => runWhere step ok t as else none

theorem Run.of_runWhere [∀ s a, Decidable (ok s a)] {s t : σ} {as : List α}
    (h : runWhere step ok s as = some t) : Run step ok s as t := by
  induction as generalizing s with
  | nil =>
      cases h
      exact .nil _
  | cons a as ih =>
      rw [runWhere] at h
      by_cases hok : ok s a
      · rw [if_pos hok, Option.bind_eq_some_iff] at h
        obtain ⟨u, hu, hrest⟩ := h
        exact .cons hok hu (ih hrest)
      · rw [if_neg hok] at h
        cases h

theorem Run.weaken {ok' : σ → α → Prop} (himp : ∀ s a, ok s a → ok' s a) {s t : σ} {as : List α}
    (h : Run step ok s as t) : Run step ok' s as t := by
  induction h with
  | nil s => exact .nil s
  | cons hok hs _ ih => exact .cons (himp _ _ hok) hs ih

/-- What holds at the start and is kept by every guarded step holds at the end of every run. -/
theorem Run.invariant {I : σ → Prop}
    (hstep : ∀ s a t, I s → ok s a → step s a = some t → I t) {s t : σ} {as : List α}
    (h : Run step ok s as t) (hs : I s) : I t := by
  induction h with
  | nil => exact hs
  | cons hok hs' _ ih => exact ih (hstep _ _ _ hs hok hs')

/-- Every step of the run along the labels is as `P` says; the run ends where a label is not
enabled. -/
def everyStep (step : σ → α → Option σ) (P : σ → α → σ → Prop) : σ → List α → Prop
  | _, [] => True
  | s, a :: as => ∀ t, step s a = some t → P s a t ∧ everyStep step P t as

instance decidableEveryStep {P : σ → α → σ → Prop} [∀ s a t, Decidable (P s a t)] :
    (s : σ) → (as : List α) → Decidable (everyStep step P s as)
  | _, [] => isTrue trivial
  | s, a :: as =>
      match h : step s a with
      | none => isTrue fun _ ht => nomatch h.symm.trans ht
      | some t =>
          have := decidableEveryStep (P := P) t as
          decidable_of_iff (P s a t ∧ everyStep step P t as)
            ⟨fun hP _ ht => Option.some.inj (h.symm.trans ht) ▸ hP, fun hP => hP t h⟩

/-- Two readings of the steps agree on every run from where they agree under an invariant, if the
second reading keeps the invariant. -/
theorem everyStep_iff {P Q : σ → α → σ → Prop} {I : σ → Prop}
    (hinv : ∀ s a t, I s → Q s a t → step s a = some t → I t)
    (hiff : ∀ s a t, I s → step s a = some t → (P s a t ↔ Q s a t)) {s : σ} (hs : I s)
    (as : List α) : everyStep step P s as ↔ everyStep step Q s as := by
  induction as generalizing s with
  | nil => exact Iff.rfl
  | cons a as ih =>
      apply forall_congr'
      intro t
      apply imp_congr_right
      intro hstep
      rw [hiff s a t hs hstep]
      apply and_congr_right
      intro hQ
      exact ih (hinv s a t hs hQ hstep)

end CryptoScanner.Library
