import Mathlib.Logic.Relation
import Mathlib.Order.RelClasses

/-!
# While loops

A loop is given by what one turn of it does with its state: it goes on with another state, it stops
and leaves a last state, or it raises an exception.  A run has fuel and gives nothing where the fuel
ends, and so does a turn that runs a loop of its own.
-/

namespace CryptoScanner.Library

/-- A value or an exception; `none` where the fuel ends. -/
abbrev Outcome (ε α : Type*) := Option (Except ε α)

def Outcome.andThen {ε α β : Type*} (x : Outcome ε α) (f : α → Outcome ε β) : Outcome ε β :=
  match x with
  | none => none
  | some (.error error) => some (.error error)
  | some (.ok a) => f a

@[simp] theorem Outcome.andThen_ok {ε α β : Type*} (a : α) (f : α → Outcome ε β) :
    Outcome.andThen (some (.ok a)) f = f a := rfl

namespace While

variable {ε σ : Type*}

def run (turn : σ → Outcome ε (ForInStep σ)) : Nat → σ → Outcome ε σ
  | 0, _ => none
  | fuel + 1, s =>
      match turn s with
      | none => none
      | some (.error error) => some (.error error)
      | some (.ok (.done last)) => some (.ok last)
      | some (.ok (.yield next)) => run turn fuel next

def Goes (turn : σ → Outcome ε (ForInStep σ)) (s next : σ) : Prop :=
  turn s = some (.ok (.yield next))

def Stops (turn : σ → Outcome ε (ForInStep σ)) (s last : σ) : Prop :=
  turn s = some (.ok (.done last))

def Raises (turn : σ → Outcome ε (ForInStep σ)) (s : σ) (error : ε) : Prop :=
  turn s = some (.error error)

abbrev Reaches (turn : σ → Outcome ε (ForInStep σ)) : σ → σ → Prop :=
  Relation.ReflTransGen (Goes turn)

/-- With some fuel the loop comes to its end. -/
def Ends (turn : σ → Outcome ε (ForInStep σ)) (s : σ) : Prop :=
  ∃ fuel result, run turn fuel s = some result

variable {turn : σ → Outcome ε (ForInStep σ)} {s t : σ} {error : ε}

theorem run_of_goes (h : Goes turn s t) (fuel : Nat) :
    run turn (fuel + 1) s = run turn fuel t := by
  rw [run, h]

theorem run_of_stops (h : Stops turn s t) (fuel : Nat) :
    run turn (fuel + 1) s = some (.ok t) := by
  rw [run, h]

theorem run_of_raises (h : Raises turn s error) (fuel : Nat) :
    run turn (fuel + 1) s = some (.error error) := by
  rw [run, h]

theorem run_cases {fuel : Nat} {result : Except ε σ} (h : run turn (fuel + 1) s = some result) :
    (∃ next, Goes turn s next ∧ run turn fuel next = some result) ∨
      (∃ last, Stops turn s last ∧ result = .ok last) ∨
      ∃ error, Raises turn s error ∧ result = .error error := by
  rw [run] at h
  match hturn : turn s with
  | none =>
      rw [hturn] at h
      cases h
  | some (.error error) =>
      rw [hturn] at h
      exact .inr (.inr ⟨error, hturn, (Option.some.inj h).symm⟩)
  | some (.ok (.done last)) =>
      rw [hturn] at h
      exact .inr (.inl ⟨last, hturn, (Option.some.inj h).symm⟩)
  | some (.ok (.yield next)) =>
      rw [hturn] at h
      exact .inl ⟨next, hturn, h⟩

theorem run_mono {fuel more : Nat} {result : Except ε σ} (h : run turn fuel s = some result)
    (hle : fuel ≤ more) : run turn more s = some result := by
  induction fuel generalizing s more with
  | zero => cases h
  | succ fuel ih =>
      obtain ⟨more, rfl⟩ := Nat.exists_eq_succ_of_ne_zero (by omega : more ≠ 0)
      rcases run_cases h with ⟨next, hgoes, hrun⟩ | ⟨last, hstops, rfl⟩ | ⟨error, hraises, rfl⟩
      · rw [Nat.succ_eq_add_one, run_of_goes hgoes]
        exact ih hrun (by omega)
      · exact run_of_stops hstops more
      · exact run_of_raises hraises more

theorem run_unique {fuel other : Nat} {result result' : Except ε σ}
    (h : run turn fuel s = some result) (h' : run turn other s = some result') :
    result = result' := by
  have hmax := run_mono h (Nat.le_max_left fuel other)
  rw [run_mono h' (Nat.le_max_right fuel other)] at hmax
  exact (Option.some.inj hmax).symm

theorem exists_run_of_reaches (h : Reaches turn s t) {fuel : Nat} {result : Except ε σ}
    (hrun : run turn fuel t = some result) : ∃ more, run turn more s = some result := by
  induction h using Relation.ReflTransGen.head_induction_on with
  | refl => exact ⟨fuel, hrun⟩
  | head hgoes _ ih =>
      obtain ⟨more, hmore⟩ := ih
      exact ⟨more + 1, (run_of_goes hgoes more).trans hmore⟩

/-- The end of a run: the loop stops in a state that it has reached, or raises there. -/
theorem run_end {fuel : Nat} {result : Except ε σ} (h : run turn fuel s = some result) :
    ∃ before, Reaches turn s before ∧
      ((∃ last, Stops turn before last ∧ result = .ok last) ∨
        ∃ error, Raises turn before error ∧ result = .error error) := by
  induction fuel generalizing s with
  | zero => cases h
  | succ fuel ih =>
      rcases run_cases h with ⟨next, hgoes, hrun⟩ | hstops | hraises
      · obtain ⟨before, hreaches, hbefore⟩ := ih hrun
        exact ⟨before, .head hgoes hreaches, hbefore⟩
      · exact ⟨s, .refl, .inl hstops⟩
      · exact ⟨s, .refl, .inr hraises⟩

theorem exists_run_ok_iff :
    (∃ fuel, run turn fuel s = some (.ok t)) ↔
      ∃ before, Reaches turn s before ∧ Stops turn before t := by
  constructor
  · rintro ⟨fuel, h⟩
    obtain ⟨before, hreaches, ⟨last, hstops, heq⟩ | ⟨error, -, heq⟩⟩ := run_end h
    · cases heq
      exact ⟨before, hreaches, hstops⟩
    · cases heq
  · rintro ⟨before, hreaches, hstops⟩
    exact exists_run_of_reaches hreaches (run_of_stops hstops 0)

/-- What every turn keeps holds in every state of the loop. -/
theorem Reaches.invariant {I : σ → Prop} (hstep : ∀ s next, I s → Goes turn s next → I next)
    (h : Reaches turn s t) (hs : I s) : I t := by
  induction h with
  | refl => exact hs
  | tail _ hgoes ih => exact hstep _ _ ih hgoes

/-- A loop whose turns all have an outcome ends, if they go down in a well-founded relation. -/
theorem ends_of_wellFounded {r : σ → σ → Prop} (hr : WellFounded r) {I : σ → Prop}
    (hstep : ∀ s next, I s → Goes turn s next → I next ∧ r next s)
    (hturn : ∀ s, I s → ∃ outcome, turn s = some outcome) (hs : I s) : Ends turn s := by
  induction s using hr.induction with
  | _ s ih =>
      obtain ⟨outcome, houtcome⟩ := hturn s hs
      match outcome, houtcome with
      | .error error, hraises => exact ⟨1, _, run_of_raises hraises 0⟩
      | .ok (.done last), hstops => exact ⟨1, _, run_of_stops hstops 0⟩
      | .ok (.yield next), hgoes =>
          obtain ⟨hnext, hdown⟩ := hstep s next hs hgoes
          obtain ⟨fuel, result, hrun⟩ := ih next hdown hnext
          exact ⟨fuel + 1, result, (run_of_goes hgoes fuel).trans hrun⟩

/-- A turn that does not bring the first measure down brings down the second one. -/
theorem ends_of_measures (first second : σ → ℕ) {I : σ → Prop}
    (hstep : ∀ s next, I s → Goes turn s next →
      I next ∧ (first next < first s ∨ first next = first s ∧ second next < second s))
    (hturn : ∀ s, I s → ∃ outcome, turn s = some outcome) (hs : I s) : Ends turn s := by
  have hwf := InvImage.wf (fun s => (first s, second s))
    (WellFounded.prod_lex Nat.lt_wfRel.wf Nat.lt_wfRel.wf)
  refine ends_of_wellFounded hwf (fun s next hI hgoes => ?_) hturn hs
  obtain ⟨hnext, hfirst | ⟨hfirst, hsecond⟩⟩ := hstep s next hI hgoes
  · exact ⟨hnext, Prod.Lex.left _ _ hfirst⟩
  · refine ⟨hnext, ?_⟩
    simp only [InvImage, hfirst]
    exact Prod.Lex.right _ hsecond

/-! ## Loops with a cursor -/

/-- Every turn comes to its end without an exception, and moves the cursor on if the loop goes on. -/
def Advances (turn : σ → Outcome ε (ForInStep σ)) (cursor : σ → ℕ) : Prop :=
  ∀ s, (∃ step, turn s = some (.ok step)) ∧ ∀ next, Goes turn s next → cursor s < cursor next

/-- The loop moves a cursor on through `length` items, and each turn keeps what it is to give. -/
def Scans {ρ : Type*} (turn : σ → Outcome ε (ForInStep σ)) (cursor : σ → ℕ) (length : ℕ)
    (value expected : σ → ρ) : Prop :=
  ∀ s, (∃ next, Goes turn s next ∧ (cursor s < length ∧ cursor s < cursor next) ∧
      expected next = expected s) ∨
    ∃ last, Stops turn s last ∧ value last = expected s

namespace Scans

variable {ρ : Type*} {cursor : σ → ℕ} {length : ℕ} {value expected : σ → ρ}

theorem exists_run (h : Scans turn cursor length value expected) {fuel : ℕ}
    (hfuel : length - cursor s < fuel) :
    ∃ last, run turn fuel s = some (.ok last) ∧ value last = expected s := by
  induction fuel generalizing s with
  | zero => omega
  | succ fuel ih =>
      rcases h s with ⟨next, hgoes, hcursor, hexpected⟩ | ⟨last, hstops, hlast⟩
      · obtain ⟨last, hrun, hlast⟩ := ih (by omega : length - cursor next < fuel)
        exact ⟨last, (run_of_goes hgoes fuel).trans hrun, hlast.trans hexpected⟩
      · exact ⟨last, run_of_stops hstops fuel, hlast⟩

theorem advances (h : Scans turn cursor length value expected) : Advances turn cursor := by
  intro s
  rcases h s with ⟨next, hgoes, hcursor, -⟩ | ⟨last, hstops, -⟩
  · refine ⟨⟨_, hgoes⟩, fun t hnext => ?_⟩
    cases hgoes.symm.trans hnext
    exact hcursor.2
  · refine ⟨⟨_, hstops⟩, fun t hnext => ?_⟩
    cases hstops.symm.trans hnext

end Scans

end While

end CryptoScanner.Library
