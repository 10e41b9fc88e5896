import Mathlib.Data.List.Basic

/-!
# Sequences of statements that may raise

Each statement is a transaction of its own: it commits, or it raises and leaves the state alone.  A
statement that raises ends the sequence unless the program catches the exception.  Which statements
raise from outside is a parameter; a statement may also raise by itself.
-/

namespace CryptoScanner.Library

variable {σ β : Type*} (commit : σ → β → Option β) (caught : σ → Bool) (raises : Nat → Bool)

/-- The state after the statements, the first of which has the index `i`, and the statement that ended
the sequence, if one did. -/
def runStatements : Nat → List σ → β → β × Option σ
  | _, [], b => (b, none)
  | i, x :: xs, b =>
      match if raises i then none else commit x b with
      | some b' => runStatements (i + 1) xs b'
      | none => if caught x then runStatements (i + 1) xs b else (b, some x)

def commitAll : List σ → β → Option β
  | [], b => some b
  | x :: xs, b => (commit x b).bind (commitAll xs)

variable {commit caught raises}

/-- The three ways in which a first statement ends. -/
theorem runStatements_cons (i : Nat) (x : σ) (xs : List σ) (b : β) :
    (∃ b', commit x b = some b' ∧ runStatements commit caught raises i (x :: xs) b =
      runStatements commit caught raises (i + 1) xs b') ∨
    (caught x = true ∧ runStatements commit caught raises i (x :: xs) b =
      runStatements commit caught raises (i + 1) xs b) ∨
    (caught x = false ∧ runStatements commit caught raises i (x :: xs) b = (b, some x)) := by
  rw [runStatements]
  split
  · rename_i b' hcommit
    left
    split at hcommit
    · cases hcommit
    · exact ⟨b', hcommit, rfl⟩
  · right
    cases hcaught : caught x with
    | true => exact .inl ⟨rfl, rfl⟩
    | false => exact .inr ⟨rfl, rfl⟩

/-- In a sequence that reaches its end a first statement that is not caught has committed. -/
theorem runStatements_cons_completed {i : Nat} {x : σ} {xs : List σ} {b : β} (hx : caught x = false)
    (h : (runStatements commit caught raises i (x :: xs) b).2 = none) :
    ∃ b', commit x b = some b' ∧ (runStatements commit caught raises (i + 1) xs b').2 = none := by
  rcases runStatements_cons i x xs b with ⟨b', hcommit, heq⟩ | ⟨hcaught, -⟩ | ⟨-, heq⟩
  · rw [heq] at h
    exact ⟨b', hcommit, h⟩
  · rw [hx] at hcaught
    cases hcaught
  · rw [heq] at h
    cases h

theorem runStatements_append (i : Nat) (xs ys : List σ) (b : β) :
    runStatements commit caught raises i (xs ++ ys) b =
      match runStatements commit caught raises i xs b with
      | (b', none) => runStatements commit caught raises (i + xs.length) ys b'
      | (b', some x) => (b', some x) := by
  induction xs generalizing i b with
  | nil => rfl
  | cons x xs ih =>
      have hindex : i + (x :: xs).length = i + 1 + xs.length := by
        rw [List.length_cons]
        omega
      rw [hindex, List.cons_append, runStatements, runStatements]
      split
      · exact ih _ _
      · split
        · exact ih _ _
        · rfl

/-- A reflexive and transitive relation that every statement respects relates the state before the
sequence to the one after it, wherever it ends. -/
theorem runStatements_related {R : β → β → Prop} (hrefl : ∀ b, R b b)
    (htrans : ∀ b c d, R b c → R c d → R b d) {xs : List σ}
    (hstep : ∀ x ∈ xs, ∀ b b', commit x b = some b' → R b b') (i : Nat) (b : β) :
    R b (runStatements commit caught raises i xs b).1 := by
  induction xs generalizing i b with
  | nil => exact hrefl b
  | cons x xs ih =>
      have hrest := ih fun y hy => hstep y (List.mem_cons_of_mem x hy)
      rcases runStatements_cons i x xs b with ⟨b', hcommit, heq⟩ | ⟨-, heq⟩ | ⟨-, heq⟩
      · rw [heq]
        exact htrans _ _ _ (hstep x List.mem_cons_self b b' hcommit) (hrest (i + 1) b')
      · rw [heq]
        exact hrest (i + 1) b
      · rw [heq]
        exact hrefl b

/-- The statement that ends a sequence is one of it that is not caught. -/
theorem runStatements_mem {xs : List σ} {i : Nat} {b : β} {x : σ}
    (h : (runStatements commit caught raises i xs b).2 = some x) : x ∈ xs ∧ caught x = false := by
  induction xs generalizing i b with
  | nil => cases h
  | cons y xs ih =>
      rcases runStatements_cons i y xs b with ⟨b', -, heq⟩ | ⟨-, heq⟩ | ⟨hcaught, heq⟩
      · rw [heq] at h
        exact ⟨List.mem_cons_of_mem y (ih h).1, (ih h).2⟩
      · rw [heq] at h
        exact ⟨List.mem_cons_of_mem y (ih h).1, (ih h).2⟩
      · rw [heq] at h
        cases h
        exact ⟨List.mem_cons_self, hcaught⟩

/-- A sequence in which nothing is caught has committed the statements before the one that ended
it, and all of them if none did. -/
theorem runStatements_committed {xs : List σ} (hcaught : ∀ x ∈ xs, caught x = false) (i : Nat) (b : β) :
    ∃ done rest, xs = done ++ rest ∧ rest.head? = (runStatements commit caught raises i xs b).2 ∧
      commitAll commit done b = some (runStatements commit caught raises i xs b).1 := by
  induction xs generalizing i b with
  | nil => exact ⟨[], [], rfl, rfl, rfl⟩
  | cons x xs ih =>
      rcases runStatements_cons i x xs b with ⟨b', hcommit, heq⟩ | ⟨hx, -⟩ | ⟨-, heq⟩
      · obtain ⟨done, rest, hxs, hhead, hdone⟩ :=
          ih (fun y hy => hcaught y (List.mem_cons_of_mem x hy)) (i + 1) b'
        refine ⟨x :: done, rest, by rw [hxs, List.cons_append], ?_, ?_⟩
        · rw [heq]
          exact hhead
        · rw [heq, commitAll, hcommit]
          exact hdone
      · rw [hcaught x List.mem_cons_self] at hx
        cases hx
      · rw [heq]
        exact ⟨[], x :: xs, rfl, rfl, rfl⟩

/-! ## Recording a run -/

variable {ω : Type*} (commit) (record : σ → List ω)

/-- A statement that also writes into the record of the run when it commits. -/
def recording (x : σ) (s : β × List ω) : Option (β × List ω) :=
  (commit x s.1).map fun b => (b, s.2 ++ record x)

variable {commit record}

theorem runStatements_recording (xs : List σ) (i : Nat) (s : β × List ω) :
    runStatements commit caught raises i xs s.1 =
      ((runStatements (recording commit record) caught raises i xs s).1.1,
        (runStatements (recording commit record) caught raises i xs s).2) := by
  induction xs generalizing i s with
  | nil => rfl
  | cons x xs ih =>
      rw [runStatements, runStatements]
      cases hraises : raises i with
      | true =>
          rw [if_pos rfl, if_pos rfl]
          cases hcaught : caught x with
          | true => exact ih (i + 1) s
          | false => rfl
      | false =>
          rw [if_neg Bool.false_ne_true, if_neg Bool.false_ne_true, recording]
          cases commit x s.1 with
          | none =>
              cases hcaught : caught x with
              | true => exact ih (i + 1) s
              | false => rfl
          | some b => exact ih (i + 1) (b, s.2 ++ record x)

/-- A run that reaches its end has the record of all its statements, where a statement whose exception
is caught records nothing. -/
theorem runStatements_recorded {xs : List σ}
    (hcaught : ∀ x ∈ xs, caught x = true → record x = []) {i : Nat} {s : β × List ω}
    (h : (runStatements (recording commit record) caught raises i xs s).2 = none) :
    (runStatements (recording commit record) caught raises i xs s).1.2 =
      s.2 ++ xs.flatMap record := by
  induction xs generalizing i s with
  | nil => exact (List.append_nil _).symm
  | cons x xs ih =>
      have hrest := fun j t => ih (fun y hy => hcaught y (List.mem_cons_of_mem x hy)) (i := j) (s := t)
      have hcases := @runStatements_cons _ _ (recording commit record) caught raises i x xs s
      rcases hcases with ⟨s', hcommit, heq⟩ | ⟨hx, heq⟩ | ⟨-, heq⟩
      · obtain ⟨b, -, rfl⟩ := Option.map_eq_some_iff.mp hcommit
        rw [heq] at h ⊢
        rw [hrest _ _ h, List.flatMap_cons, List.append_assoc]
      · rw [heq] at h ⊢
        rw [hrest _ _ h, List.flatMap_cons, hcaught x List.mem_cons_self hx, List.nil_append]
      · rw [heq] at h
        cases h

end CryptoScanner.Library
