import Mathlib.Data.List.Nodup
import Mathlib.Logic.Function.Basic
import Mathlib.Logic.Relation

/-!
# A queue of items claimed by workers

Items of any type are submitted, claimed by an idle worker, and end done, failed or withdrawn.  A
withdrawal reaches an item that waits, and an executing one if the item is revocable; the worker
that executes a withdrawn item goes on until it lets go of it.  The parameter `mayFail` says from
which items a worker may report a failure.
-/

namespace CryptoScanner.Library

inductive Phase
  | waiting
  | executing
  | done
  | failed
  | withdrawn
  deriving DecidableEq, Repr

/-- The phases an item is meant to stay in. -/
def Phase.Settled (p : Phase) : Prop := p = .done ∨ p = .failed ∨ p = .withdrawn

instance (p : Phase) : Decidable p.Settled :=
  inferInstanceAs (Decidable (_ ∨ _))

structure Item where
  phase : Phase
  attempts : Nat
  revocable : Bool
  deriving DecidableEq, Repr

structure WorkQueue (ι ω : Type*) where
  item : ι → Option Item
  executing : ω → Option ι
  /-- Every start of an item so far, the latest one first. -/
  started : List (ω × ι)

namespace WorkQueue

variable {ι ω : Type*} [DecidableEq ι] [DecidableEq ω]

/-! ## 1. Steps -/

inductive Step (mayFail : Item → Prop) : WorkQueue ι ω → WorkQueue ι ω → Prop
  | submit {q : WorkQueue ι ω} {i : ι} (revocable : Bool) :
      q.item i = none →
      Step mayFail q { q with item := Function.update q.item i (some ⟨.waiting, 0, revocable⟩) }
  | claim {q : WorkQueue ι ω} {w : ω} {i : ι} {it : Item} :
      q.executing w = none → q.item i = some it → it.phase = .waiting →
      Step mayFail q
        { item := Function.update q.item i
            (some { it with phase := .executing, attempts := it.attempts + 1 })
          executing := Function.update q.executing w (some i)
          started := (w, i) :: q.started }
  | finish {q : WorkQueue ι ω} {w : ω} {i : ι} {it : Item} :
      q.executing w = some i → q.item i = some it → it.phase = .executing →
      Step mayFail q
        { q with
          item := Function.update q.item i (some { it with phase := .done })
          executing := Function.update q.executing w none }
  | fail {q : WorkQueue ι ω} {w : ω} {i : ι} {it : Item} :
      q.executing w = some i → q.item i = some it → mayFail it →
      Step mayFail q
        { q with
          item := Function.update q.item i (some { it with phase := .failed })
          executing := Function.update q.executing w none }
  | release {q : WorkQueue ι ω} (w : ω) :
      Step mayFail q { q with executing := Function.update q.executing w none }
  | withdraw {q : WorkQueue ι ω} {i : ι} {it : Item} :
      q.item i = some it →
      (it.phase = .waiting ∨ it.phase = .executing ∧ it.revocable = true) →
      Step mayFail q
        { q with item := Function.update q.item i (some { it with phase := .withdrawn }) }

variable {mayFail : Item → Prop} {q q' : WorkQueue ι ω}

/-! ## 2. The invariant behind at-most-once execution -/

structure Valid (q : WorkQueue ι ω) : Prop where
  attempts_waiting : ∀ i it, q.item i = some it → it.phase = .waiting → it.attempts = 0
  attempts_le_one : ∀ i it, q.item i = some it → it.attempts ≤ 1
  submitted : ∀ w i, (w, i) ∈ q.started → ∃ it, q.item i = some it ∧ it.phase ≠ .waiting
  started_nodup : (q.started.map Prod.snd).Nodup
  executing_started : ∀ w i, q.executing w = some i → (w, i) ∈ q.started
  executing_phase : ∀ w i, q.executing w = some i → ∃ it, q.item i = some it ∧
    (it.phase = .executing ∨ it.phase = .withdrawn ∧ it.revocable = true)

omit [DecidableEq ι] [DecidableEq ω] in
theorem Valid.worker_unique (h : q.Valid) {w w' : ω} {i : ι} (hw : q.executing w = some i)
    (hw' : q.executing w' = some i) : w = w' := by
  have hmem := h.executing_started w i hw
  have hmem' := h.executing_started w' i hw'
  have heq : (w, i) = (w', i) := List.inj_on_of_nodup_map h.started_nodup hmem hmem' rfl
  exact congrArg Prod.fst heq

omit [DecidableEq ι] [DecidableEq ω] in
theorem Valid.not_started_of_waiting (h : q.Valid) {w : ω} {i : ι} {it : Item}
    (hi : q.item i = some it) (hp : it.phase = .waiting) : (w, i) ∉ q.started := by
  intro hmem
  obtain ⟨it', hi', hp'⟩ := h.submitted w i hmem
  rw [hi] at hi'
  cases hi'
  exact hp' hp

omit [DecidableEq ω] in
/-- A step that only rewrites one submitted item keeps the invariant, when the new value has the
phase its executing worker allows. -/
theorem Valid.setItem (h : q.Valid) {i : ι} {it : Item} (it' : Item) (hi : q.item i = some it)
    (hwait : it'.phase ≠ .waiting) (hle : it'.attempts ≤ 1)
    (hexec : ∀ w, q.executing w = some i →
      it'.phase = .executing ∨ it'.phase = .withdrawn ∧ it'.revocable = true) :
    Valid { q with item := Function.update q.item i (some it') } where
  attempts_waiting := by
    intro k x hk hp
    by_cases hki : k = i
    · subst hki
      simp only [Function.update_self, Option.some.injEq] at hk
      subst hk
      exact absurd hp hwait
    · simp only [Function.update_of_ne hki] at hk
      exact h.attempts_waiting k x hk hp
  attempts_le_one := by
    intro k x hk
    by_cases hki : k = i
    · subst hki
      simp only [Function.update_self, Option.some.injEq] at hk
      subst hk
      exact hle
    · simp only [Function.update_of_ne hki] at hk
      exact h.attempts_le_one k x hk
  submitted := by
    intro w k hmem
    by_cases hki : k = i
    · subst hki
      exact ⟨it', Function.update_self .., hwait⟩
    · obtain ⟨x, hx, hp⟩ := h.submitted w k hmem
      exact ⟨x, by simp only [Function.update_of_ne hki, hx], hp⟩
  started_nodup := h.started_nodup
  executing_started := h.executing_started
  executing_phase := by
    intro w k hw
    by_cases hki : k = i
    · subst hki
      exact ⟨it', Function.update_self .., hexec w hw⟩
    · obtain ⟨x, hx, hp⟩ := h.executing_phase w k hw
      exact ⟨x, by simp only [Function.update_of_ne hki, hx], hp⟩

omit [DecidableEq ι] in
theorem Valid.release (h : q.Valid) (w : ω) :
    Valid { q with executing := Function.update q.executing w none } where
  attempts_waiting := h.attempts_waiting
  attempts_le_one := h.attempts_le_one
  submitted := h.submitted
  started_nodup := h.started_nodup
  executing_started := by
    intro v i hv
    by_cases hvw : v = w
    · subst hvw
      simp only [Function.update_self, reduceCtorEq] at hv
    · simp only [Function.update_of_ne hvw] at hv
      exact h.executing_started v i hv
  executing_phase := by
    intro v i hv
    by_cases hvw : v = w
    · subst hvw
      simp only [Function.update_self, reduceCtorEq] at hv
    · simp only [Function.update_of_ne hvw] at hv
      exact h.executing_phase v i hv

/-- An item its only worker has just let go of may take any settled phase. -/
theorem Valid.settle (h : q.Valid) {w : ω} {i : ι} {it : Item} (hw : q.executing w = some i)
    (hi : q.item i = some it) {p : Phase} (hp : p ≠ .waiting) :
    Valid
      { q with
        item := Function.update q.item i (some { it with phase := p })
        executing := Function.update q.executing w none } := by
  apply (h.release w).setItem { it with phase := p } hi hp (h.attempts_le_one i it hi)
  intro v hv
  exfalso
  by_cases hvw : v = w
  · subst hvw
    simp only [Function.update_self, reduceCtorEq] at hv
  · simp only [Function.update_of_ne hvw] at hv
    exact hvw (h.worker_unique hv hw)

omit [DecidableEq ω] in
theorem Valid.submit (h : q.Valid) {i : ι} (revocable : Bool) (hi : q.item i = none) :
    Valid { q with item := Function.update q.item i (some ⟨.waiting, 0, revocable⟩) } where
  attempts_waiting := by
    intro k x hk hp
    by_cases hki : k = i
    · subst hki
      simp only [Function.update_self, Option.some.injEq] at hk
      subst hk
      rfl
    · simp only [Function.update_of_ne hki] at hk
      exact h.attempts_waiting k x hk hp
  attempts_le_one := by
    intro k x hk
    by_cases hki : k = i
    · subst hki
      simp only [Function.update_self, Option.some.injEq] at hk
      subst hk
      exact Nat.zero_le 1
    · simp only [Function.update_of_ne hki] at hk
      exact h.attempts_le_one k x hk
  submitted := by
    intro w k hmem
    obtain ⟨x, hx, hp⟩ := h.submitted w k hmem
    have hki : k ≠ i := by
      intro hki
      rw [hki, hi] at hx
      cases hx
    exact ⟨x, by simp only [Function.update_of_ne hki, hx], hp⟩
  started_nodup := h.started_nodup
  executing_started := h.executing_started
  executing_phase := by
    intro w k hw
    obtain ⟨x, hx, hp⟩ := h.executing_phase w k hw
    have hki : k ≠ i := by
      intro hki
      rw [hki, hi] at hx
      cases hx
    exact ⟨x, by simp only [Function.update_of_ne hki, hx], hp⟩

theorem Valid.claim (h : q.Valid) {w : ω} {i : ι} {it : Item} (hi : q.item i = some it)
    (hp : it.phase = .waiting) :
    Valid
      { item := Function.update q.item i
          (some { it with phase := .executing, attempts := it.attempts + 1 })
        executing := Function.update q.executing w (some i)
        started := (w, i) :: q.started } := by
  have hzero := h.attempts_waiting i it hi hp
  have hset := h.setItem { it with phase := .executing, attempts := it.attempts + 1 } hi
    (by simp) (by simp only [hzero]; decide) (fun _ _ => .inl rfl)
  refine ⟨hset.attempts_waiting, hset.attempts_le_one, ?_, ?_, ?_, ?_⟩
  · intro v k hmem
    rcases List.mem_cons.mp hmem with heq | hmem
    · cases heq
      exact ⟨_, Function.update_self .., by simp⟩
    · exact hset.submitted v k hmem
  · rw [List.map_cons, List.nodup_cons]
    refine ⟨?_, h.started_nodup⟩
    intro hmem
    obtain ⟨⟨v, k⟩, hvk, rfl⟩ := List.mem_map.mp hmem
    exact h.not_started_of_waiting hi hp hvk
  · intro v k hv
    by_cases hvw : v = w
    · subst hvw
      simp only [Function.update_self, Option.some.injEq] at hv
      subst hv
      exact List.mem_cons_self
    · simp only [Function.update_of_ne hvw] at hv
      exact List.mem_cons_of_mem _ (h.executing_started v k hv)
  · intro v k hv
    by_cases hvw : v = w
    · subst hvw
      simp only [Function.update_self, Option.some.injEq] at hv
      subst hv
      exact ⟨_, Function.update_self .., .inl rfl⟩
    · simp only [Function.update_of_ne hvw] at hv
      exact hset.executing_phase v k hv

theorem Step.valid (hs : Step mayFail q q') (h : q.Valid) : q'.Valid := by
  cases hs with
  | submit revocable hi => exact h.submit revocable hi
  | claim _ hi hp => exact h.claim hi hp
  | finish hw hi _ => exact h.settle hw hi (by simp)
  | fail hw hi _ => exact h.settle hw hi (by simp)
  | release w => exact h.release w
  | @withdraw _ it hi hp =>
      apply h.setItem { it with phase := .withdrawn } hi (by simp)
        (h.attempts_le_one _ it hi)
      intro w hw
      obtain ⟨x, hx, hphase⟩ := h.executing_phase w _ hw
      rw [hi] at hx
      cases hx
      -- a waiting item has no worker, so the withdrawal met an executing one
      rcases hp with hp | ⟨_, hrev⟩
      · rcases hphase with hphase | ⟨hphase, hrev⟩
        · rw [hp] at hphase
          cases hphase
        · exact .inr ⟨rfl, hrev⟩
      · exact .inr ⟨rfl, hrev⟩

/-! ## 3. Settled items -/

/-- Where failures are reported only for executing items, a settled item keeps its phase. -/
theorem Step.settled (hmay : ∀ it, mayFail it → it.phase = .executing) (hs : Step mayFail q q')
    {i : ι} {it : Item} (hi : q.item i = some it) (hp : it.phase.Settled) :
    ∃ it', q'.item i = some it' ∧ it'.phase = it.phase := by
  have hkeep : ∀ {k : ι} {x y : Item}, q.item k = some x → ¬ x.phase.Settled →
      Function.update q.item k (some y) i = some it := by
    intro k x y hx hns
    have hik : i ≠ k := by
      intro hik
      rw [← hik, hi] at hx
      cases hx
      exact hns hp
    rw [Function.update_of_ne hik, hi]
  cases hs with
  | @submit i' revocable hnone =>
      have hne : i ≠ i' := by
        intro hne
        rw [← hne, hi] at hnone
        cases hnone
      exact ⟨it, by simp only [Function.update_of_ne hne, hi], rfl⟩
  | claim _ hk hphase => exact ⟨it, hkeep hk (by rw [hphase]; decide), rfl⟩
  | finish _ hk hphase => exact ⟨it, hkeep hk (by rw [hphase]; decide), rfl⟩
  | fail _ hk hf => exact ⟨it, hkeep hk (by rw [hmay _ hf]; decide), rfl⟩
  | release w => exact ⟨it, hi, rfl⟩
  | withdraw hk hphase =>
      rcases hphase with hphase | ⟨hphase, _⟩
      · exact ⟨it, hkeep hk (by rw [hphase]; decide), rfl⟩
      · exact ⟨it, hkeep hk (by rw [hphase]; decide), rfl⟩

/-- An item that no longer waits is not started again. -/
theorem Step.not_restarted (hs : Step mayFail q q') {i : ι} {it : Item} (hi : q.item i = some it)
    (hp : it.phase ≠ .waiting) :
    (∃ it', q'.item i = some it' ∧ it'.phase ≠ .waiting) ∧
      ∀ w, (w, i) ∈ q'.started → (w, i) ∈ q.started := by
  have hset : ∀ (k : ι) (y : Item), y.phase ≠ .waiting →
      ∃ it', Function.update q.item k (some y) i = some it' ∧ it'.phase ≠ .waiting := by
    intro k y hy
    by_cases hik : i = k
    · subst hik
      exact ⟨y, Function.update_self .., hy⟩
    · exact ⟨it, by rw [Function.update_of_ne hik, hi], hp⟩
  cases hs with
  | @submit i' revocable hnone =>
      have hne : i ≠ i' := by
        intro hne
        rw [← hne, hi] at hnone
        cases hnone
      exact ⟨⟨it, by simp only [Function.update_of_ne hne, hi], hp⟩, fun _ h => h⟩
  | @claim w k x _ hk hphase =>
      refine ⟨hset k _ (by simp), ?_⟩
      intro v hmem
      rcases List.mem_cons.mp hmem with heq | hmem
      · cases heq
        rw [hi] at hk
        cases hk
        exact absurd hphase hp
      · exact hmem
  | finish _ _ _ => exact ⟨hset _ _ (by simp), fun _ h => h⟩
  | fail _ _ _ => exact ⟨hset _ _ (by simp), fun _ h => h⟩
  | release w => exact ⟨⟨it, hi, hp⟩, fun _ h => h⟩
  | withdraw _ _ => exact ⟨hset _ _ (by simp), fun _ h => h⟩

/-! ## 4. Runs -/

abbrev Steps (mayFail : Item → Prop) : WorkQueue ι ω → WorkQueue ι ω → Prop :=
  Relation.ReflTransGen (Step mayFail)

theorem Steps.valid (h : Steps mayFail q q') (hv : q.Valid) : q'.Valid := by
  induction h with
  | refl => exact hv
  | tail _ hs ih => exact hs.valid ih

theorem Steps.settled (hmay : ∀ it, mayFail it → it.phase = .executing)
    (h : Steps mayFail q q') {i : ι} {it : Item} (hi : q.item i = some it)
    (hp : it.phase.Settled) : ∃ it', q'.item i = some it' ∧ it'.phase = it.phase := by
  induction h with
  | refl => exact ⟨it, hi, rfl⟩
  | tail _ hs ih =>
      obtain ⟨x, hx, hxp⟩ := ih
      obtain ⟨y, hy, hyp⟩ := hs.settled hmay hx (hxp ▸ hp)
      exact ⟨y, hy, hyp.trans hxp⟩

theorem Steps.not_restarted (h : Steps mayFail q q') {i : ι} {it : Item}
    (hi : q.item i = some it) (hp : it.phase ≠ .waiting) :
    (∃ it', q'.item i = some it' ∧ it'.phase ≠ .waiting) ∧
      ∀ w, (w, i) ∈ q'.started → (w, i) ∈ q.started := by
  induction h with
  | refl => exact ⟨⟨it, hi, hp⟩, fun _ hmem => hmem⟩
  | tail _ hs ih =>
      obtain ⟨⟨x, hx, hxp⟩, hback⟩ := ih
      obtain ⟨hy, hback'⟩ := hs.not_restarted hx hxp
      exact ⟨hy, fun w hmem => hback w (hback' w hmem)⟩

end WorkQueue

end CryptoScanner.Library
