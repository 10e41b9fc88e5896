import Mathlib.Data.List.Basic

/-!
# Loops over calls that may raise

A call takes the state to a next one and may raise; what it has committed before it raises stays.  A
loop without a handler ends at the first call that raises, a loop that isolates its calls goes on.
-/

namespace CryptoScanner.Library

variable {α σ ε : Type*} (call : α → σ → σ × Option ε)

def runUnguarded : List α → σ → σ × Option ε
  | [], s => (s, none)
  | a :: as, s =>
      match call a s with
      | (s', none) => runUnguarded as s'
      | (s', some e) => (s', some e)

/-- The state after every call has been made, whichever of them raised. -/
def runIsolated : List α → σ → σ
  | [], s => s
  | a :: as, s => runIsolated as (call a s).1

/-- Every call, in the state in which the isolating loop makes it. -/
def callsOf : List α → σ → List (α × σ)
  | [], _ => []
  | a :: as, s => (a, s) :: callsOf as (call a s).1

variable {call}

theorem runUnguarded_append (as bs : List α) (s : σ) :
    runUnguarded call (as ++ bs) s =
      match runUnguarded call as s with
      | (s', none) => runUnguarded call bs s'
      | (s', some e) => (s', some e) := by
  induction as generalizing s with
  | nil => rfl
  | cons a as ih =>
      rw [List.cons_append, runUnguarded, runUnguarded]
      split
      · exact ih _
      · rfl

/-- The two loops agree and the first reaches its end exactly where no call raises. -/
theorem runUnguarded_eq_isolated_iff (as : List α) (s : σ) :
    runUnguarded call as s = (runIsolated call as s, none) ↔
      ∀ c ∈ callsOf call as s, (call c.1 c.2).2 = none := by
  induction as generalizing s with
  | nil =>
      show (s, none) = (s, none) ↔ ∀ c ∈ ([] : List (α × σ)), _
      exact ⟨fun _ c hc => absurd hc List.not_mem_nil, fun _ => rfl⟩
  | cons a as ih =>
      rw [runUnguarded, runIsolated, callsOf, List.forall_mem_cons]
      cases hcall : call a s with
      | mk s' raised =>
          cases raised with
          | none =>
              show runUnguarded call as s' = (runIsolated call as s', none) ↔ _
              rw [ih s']
              exact ⟨fun h => ⟨rfl, h⟩, fun h => h.2⟩
          | some e =>
              apply iff_of_false
              · intro h
                cases congrArg Prod.snd h
              · intro h
                cases h.1

/-- The first call that raises is the last one that is made. -/
theorem runUnguarded_raised (as bs : List α) (a : α) {s : σ} {e : ε}
    (hbefore : ∀ c ∈ callsOf call as s, (call c.1 c.2).2 = none)
    (hraise : (call a (runIsolated call as s)).2 = some e) :
    runUnguarded call (as ++ a :: bs) s = ((call a (runIsolated call as s)).1, some e) := by
  rw [runUnguarded_append, (runUnguarded_eq_isolated_iff as s).mpr hbefore]
  show runUnguarded call (a :: bs) (runIsolated call as s) = _
  rw [runUnguarded]
  cases hcall : call a (runIsolated call as s) with
  | mk s' raised =>
      rw [hcall] at hraise
      cases hraise
      rfl

end CryptoScanner.Library
