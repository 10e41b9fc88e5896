import CryptoScanner.Assets.Context
import CryptoScanner.Library.Transition

/-!
# Two concurrent `PATCH /assets/{id}/context` requests

A request reads the row in one statement and saves every column of it in another.  Where no row
exists, `get_or_create` inserts one, and a second insert waits on the unique key of the asset until
the first request has committed.
-/

namespace CryptoScanner.Assets

open Library RiskEngine

/-! ## 1. The two requests -/

inductive Request
  | first
  | second
  deriving DecidableEq, Repr

def Request.other : Request → Request
  | .first => .second
  | .second => .first

inductive Phase
  | waiting
  /-- The copy of the row that the request has read. -/
  | loaded (copy : AssetContextOverride)
  | finished
  deriving DecidableEq

structure PatchState where
  row : Option AssetContextOverride
  phase : Request → Phase

inductive PatchAction
  | read (request : Request)
  | save (request : Request)
  deriving DecidableEq, Repr

section

variable (asset : Id) (patches : Request → AssetContextPatch)

def patchStep (s : PatchState) : PatchAction → Option PatchState
  | .read request =>
      match s.phase request, s.row, s.phase request.other with
      | .waiting, some row, _ =>
          some { s with phase := Function.update s.phase request (.loaded row) }
      -- the other request has inserted the row and not committed it yet
      | .waiting, none, .loaded _ => none
      | .waiting, none, _ =>
          some { s with phase := Function.update s.phase request (.loaded (.blank asset)) }
      | _, _, _ => none
  | .save request =>
      match s.phase request with
      | .loaded copy =>
          some {
            row := some (applyPatch (patches request) copy)
            phase := Function.update s.phase request .finished }
      | _ => none

def startPatches (row : Option AssetContextOverride) : PatchState :=
  { row, phase := fun _ => .waiting }

/-- The column of a field; an asset without a row overrides nothing. -/
def columns (row : Option AssetContextOverride) : Context :=
  match row with
  | none => emptyContext
  | some row => row.value

/-- Every field has the value of the request that set it, and the other fields are unchanged. -/
def NoLostUpdate (before after : Option AssetContextOverride) : Prop :=
  ∀ field, (∀ request value, patches request field = some value → columns after field = value) ∧
    ((∀ request, patches request field = none) → columns after field = columns before field)

def serial (request : Request) : List PatchAction :=
  [.read request, .save request, .read request.other, .save request.other]

/-- Both requests read before `request` saves, and it saves before the other one. -/
def Overlapped (request : Request) (as : List PatchAction) : Prop :=
  as = [.read request, .read request.other, .save request, .save request.other] ∨
    as = [.read request.other, .read request, .save request, .save request.other]

/-- The row has every value that the request sets already. -/
def Redundant (row : Option AssetContextOverride) (request : Request) : Prop :=
  ∀ field value, patches request field = some value → columns row field = value

end

/-! ## 2. The runs in which both succeed -/

theorem Request.other_ne (request : Request) : request.other ≠ request := by
  cases request <;> decide

@[simp] theorem Request.other_other (request : Request) : request.other.other = request := by
  cases request <;> rfl

theorem Request.eq_or_other (request r : Request) : r = request ∨ r = request.other := by
  cases request <;> cases r <;> decide

section Runs

variable {asset : Id} {patches : Request → AssetContextPatch} {s t : PatchState}

theorem read_cases {q : Request} (h : patchStep asset patches s (.read q) = some t) :
    s.phase q = .waiting ∧ t.row = s.row ∧ t.phase q.other = s.phase q.other ∧
      ((∃ row, s.row = some row ∧ t.phase q = .loaded row) ∨
        (s.row = none ∧ (∀ copy, s.phase q.other ≠ .loaded copy) ∧
          t.phase q = .loaded (.blank asset))) := by
  simp only [patchStep] at h
  split at h
  · rename_i row hphase hrow
    cases h
    exact ⟨hphase, rfl, Function.update_of_ne q.other_ne _ _,
      .inl ⟨row, hrow, Function.update_self _ _ _⟩⟩
  · cases h
  · rename_i hphase hrow hother
    cases h
    exact ⟨hphase, rfl, Function.update_of_ne q.other_ne _ _,
      .inr ⟨hrow, hother, Function.update_self _ _ _⟩⟩
  · cases h

theorem save_cases {q : Request} (h : patchStep asset patches s (.save q) = some t) :
    ∃ copy, s.phase q = .loaded copy ∧ t.row = some (applyPatch (patches q) copy) ∧
      t.phase q = .finished ∧ t.phase q.other = s.phase q.other := by
  simp only [patchStep] at h
  split at h
  · rename_i copy hphase
    cases h
    exact ⟨copy, hphase, rfl, Function.update_self _ _ _,
      Function.update_of_ne q.other_ne _ _⟩
  · cases h

/-- Both requests have succeeded. -/
def Succeeded (s : PatchState) : Prop := ∀ request, s.phase request = .finished

theorem run_finished {as : List PatchAction} {q : Request}
    (hrun : Run (patchStep asset patches) anyStep s as t) (hq : s.phase q = .finished)
    (hother : s.phase q.other = .finished) : as = [] ∧ t = s := by
  have hfinished : ∀ r, s.phase r = .finished := by
    intro r
    rcases Request.eq_or_other q r with rfl | rfl
    · exact hq
    · exact hother
  cases hrun with
  | nil => exact ⟨rfl, rfl⟩
  | @cons _ u _ a _ _ hstep _ =>
      cases a with
      | read r =>
          have hphase := (read_cases hstep).1
          rw [hfinished r] at hphase
          cases hphase
      | save r =>
          obtain ⟨copy, hphase, -⟩ := save_cases hstep
          rw [hfinished r] at hphase
          cases hphase

/-- One request is done and the other holds a copy. -/
theorem run_last_save {as : List PatchAction} {q : Request} {copy : AssetContextOverride}
    (hrun : Run (patchStep asset patches) anyStep s as t) (ht : Succeeded t)
    (hq : s.phase q = .finished) (hother : s.phase q.other = .loaded copy) :
    as = [.save q.other] ∧ t.row = some (applyPatch (patches q.other) copy) := by
  cases hrun with
  | nil =>
      have hphase := ht q.other
      rw [hother] at hphase
      cases hphase
  | @cons _ u _ a _ _ hstep hrest =>
      cases a with
      | read r =>
          have hphase := (read_cases hstep).1
          rcases Request.eq_or_other q r with rfl | rfl
          · rw [hq] at hphase
            cases hphase
          · rw [hother] at hphase
            cases hphase
      | save r =>
          obtain ⟨copy', hphase, hrow, hdone, hkept⟩ := save_cases hstep
          rcases Request.eq_or_other q r with rfl | rfl
          · rw [hq] at hphase
            cases hphase
          · rw [hother] at hphase
            cases hphase
            rw [Request.other_other, hq] at hkept
            obtain ⟨rfl, rfl⟩ := run_finished hrest hkept hdone
            exact ⟨rfl, hrow⟩

/-- One request is done and the other has not begun. -/
theorem run_last_request {as : List PatchAction} {q : Request} {row : AssetContextOverride}
    (hrun : Run (patchStep asset patches) anyStep s as t) (ht : Succeeded t)
    (hrow : s.row = some row) (hq : s.phase q = .finished) (hother : s.phase q.other = .waiting) :
    as = [.read q.other, .save q.other] ∧
      t.row = some (applyPatch (patches q.other) row) := by
  cases hrun with
  | nil =>
      have hphase := ht q.other
      rw [hother] at hphase
      cases hphase
  | @cons _ u _ a _ _ hstep hrest =>
      cases a with
      | save r =>
          obtain ⟨copy', hphase, -⟩ := save_cases hstep
          rcases Request.eq_or_other q r with rfl | rfl
          · rw [hq] at hphase
            cases hphase
          · rw [hother] at hphase
            cases hphase
      | read r =>
          obtain ⟨hphase, -, hkept, hcopy⟩ := read_cases hstep
          rcases Request.eq_or_other q r with rfl | rfl
          · rw [hq] at hphase
            cases hphase
          · rw [Request.other_other, hq] at hkept
            rcases hcopy with ⟨row', hrow', hloaded⟩ | ⟨hnone, -⟩
            · rw [hrow] at hrow'
              cases hrow'
              obtain ⟨rfl, hlast⟩ := run_last_save hrest ht hkept hloaded
              exact ⟨rfl, hlast⟩
            · rw [hrow] at hnone
              cases hnone

theorem run_both_loaded {as : List PatchAction} {q : Request} {row : AssetContextOverride}
    (hrun : Run (patchStep asset patches) anyStep s as t) (ht : Succeeded t)
    (hq : s.phase q = .loaded row) (hother : s.phase q.other = .loaded row) :
    ∃ r : Request, as = [.save r, .save r.other] ∧
      t.row = some (applyPatch (patches r.other) row) := by
  have hloaded : ∀ r, s.phase r = .loaded row := by
    intro r
    rcases Request.eq_or_other q r with rfl | rfl
    · exact hq
    · exact hother
  cases hrun with
  | nil =>
      have hphase := ht q
      rw [hq] at hphase
      cases hphase
  | @cons _ u _ a _ _ hstep hrest =>
      cases a with
      | read r =>
          have hphase := (read_cases hstep).1
          rw [hloaded r] at hphase
          cases hphase
      | save r =>
          obtain ⟨copy, -, -, hdone, hkept⟩ := save_cases hstep
          rw [hloaded r.other] at hkept
          obtain ⟨rfl, hlast⟩ := run_last_save hrest ht hdone hkept
          exact ⟨r, rfl, hlast⟩

def firstCopy (asset : Id) (row : Option AssetContextOverride) : AssetContextOverride :=
  row.getD (.blank asset)

/-- **The six interleavings.**  The second save is applied to what the first one left, or, where the
reads come first, to what was there before. -/
theorem run_succeeded {row : Option AssetContextOverride} {as : List PatchAction}
    (hrun : Run (patchStep asset patches) anyStep (startPatches row) as t) (ht : Succeeded t) :
    ∃ q : Request,
      (as = serial q ∧ t.row = some (applyPatch (patches q.other)
        (applyPatch (patches q) (firstCopy asset row)))) ∨
      (Overlapped q as ∧ ∃ found, row = some found ∧
        t.row = some (applyPatch (patches q.other) found)) := by
  cases hrun with
  | nil =>
      have hphase := ht .first
      cases hphase
  | @cons _ u _ a as' _ hstep hrest =>
      cases a with
      | save q =>
          obtain ⟨copy, hphase, -⟩ := save_cases hstep
          cases hphase
      | read q =>
          obtain ⟨-, hrow, hwaiting, hcopy⟩ := read_cases hstep
          have hloaded : u.phase q = .loaded (firstCopy asset row) := by
            rcases hcopy with ⟨found, hfound, hloaded⟩ | ⟨hnone, -, hloaded⟩
            · change row = some found at hfound
              rw [hloaded, hfound]
              rfl
            · change row = none at hnone
              rw [hloaded, hnone]
              rfl
          change u.row = row at hrow
          change u.phase q.other = .waiting at hwaiting
          cases hrest with
          | nil =>
              have hphase := ht q
              rw [hloaded] at hphase
              cases hphase
          | @cons _ v _ b _ _ hstep' hrest' =>
              cases b with
              | save r =>
                  obtain ⟨copy, hphase, hrow', hdone, hkept⟩ := save_cases hstep'
                  rcases Request.eq_or_other q r with rfl | rfl
                  · rw [hloaded] at hphase
                    cases hphase
                    rw [hwaiting] at hkept
                    obtain ⟨rfl, hlast⟩ := run_last_request hrest' ht hrow' hdone hkept
                    exact ⟨r, .inl ⟨rfl, hlast⟩⟩
                  · rw [hwaiting] at hphase
                    cases hphase
              | read r =>
                  obtain ⟨hphase, hrow', hkept, hcopy'⟩ := read_cases hstep'
                  rcases Request.eq_or_other q r with rfl | rfl
                  · rw [hloaded] at hphase
                    cases hphase
                  · rw [Request.other_other, hloaded] at hkept
                    rcases hcopy' with ⟨found, hfound, hloaded'⟩ | ⟨-, hfree, -⟩
                    · rw [hrow] at hfound
                      have hsame : firstCopy asset row = found := by
                        rw [hfound]
                        rfl
                      rw [hsame] at hkept
                      obtain ⟨r, rfl, hlast⟩ := run_both_loaded hrest' ht hkept hloaded'
                      refine ⟨r, .inr ⟨?_, found, hfound, hlast⟩⟩
                      rcases Request.eq_or_other q r with rfl | rfl
                      · exact .inl rfl
                      · rw [Request.other_other]
                        exact .inr (by rw [Request.other_other])
                    -- the first request holds the row that it has inserted
                    · rw [Request.other_other] at hfree
                      exact absurd hloaded (hfree _)

end Runs

/-! ## 3. When no update is lost -/

section

variable {asset : Id} {patches : Request → AssetContextPatch}

/-- The two requests set no field in common. -/
def DisjointPatches (patches : Request → AssetContextPatch) : Prop :=
  ∀ field, patches .first field = none ∨ patches .second field = none

theorem DisjointPatches.other_none (h : DisjointPatches patches) {q : Request}
    {field : ContextField} {value : Option field.Value} (hset : patches q field = some value) :
    patches q.other field = none := by
  cases q with
  | first =>
      rcases h field with hnone | hnone
      · rw [hset] at hnone
        cases hnone
      · exact hnone
  | second =>
      rcases h field with hnone | hnone
      · exact hnone
      · rw [hset] at hnone
        cases hnone

theorem columns_firstCopy (asset : Id) (row : Option AssetContextOverride) :
    (firstCopy asset row).value = columns row := by
  cases row with
  | none =>
      rw [firstCopy, Option.getD_none, AssetContextOverride.blank, save_value]
      rfl
  | some row => rfl

theorem serial_noLostUpdate (hdisjoint : DisjointPatches patches)
    (row : Option AssetContextOverride) (q : Request) :
    NoLostUpdate patches row (some (applyPatch (patches q.other)
      (applyPatch (patches q) (firstCopy asset row)))) := by
  intro field
  have hcolumn : columns (some (applyPatch (patches q.other)
      (applyPatch (patches q) (firstCopy asset row)))) field =
        (patches q.other field).getD ((patches q field).getD (columns row field)) := by
    rw [columns, applyPatch_value, applyPatch_value, columns_firstCopy]
  rw [hcolumn]
  constructor
  · intro r value hset
    have hnone := hdisjoint.other_none hset
    rcases Request.eq_or_other q r with rfl | rfl
    · rw [hnone, hset]
      rfl
    · rw [hset]
      rfl
  · intro hunset
    rw [hunset q, hunset q.other]
    rfl

theorem overlapped_noLostUpdate_iff (hdisjoint : DisjointPatches patches)
    (found : AssetContextOverride) (q : Request) :
    NoLostUpdate patches (some found) (some (applyPatch (patches q.other) found)) ↔
      Redundant patches (some found) q := by
  have hcolumn : ∀ field, columns (some (applyPatch (patches q.other) found)) field =
      (patches q.other field).getD (columns (some found) field) :=
    fun field => applyPatch_value _ _ field
  constructor
  · intro h field value hset
    have hkept := (h field).1 q value hset
    rw [hcolumn, hdisjoint.other_none hset] at hkept
    exact hkept
  · intro h field
    rw [hcolumn]
    constructor
    · intro r value hset
      rcases Request.eq_or_other q r with rfl | rfl
      · rw [hdisjoint.other_none hset]
        exact h field value hset
      · rw [hset]
        rfl
    · intro hunset
      rw [hunset q.other]
      rfl

theorem serial_not_overlapped (q r : Request) : ¬ Overlapped r (serial q) := by
  cases q <;> cases r <;> simp [Overlapped, serial, Request.other]

theorem Overlapped.eq {q r : Request} {as : List PatchAction} (hq : Overlapped q as)
    (hr : Overlapped r as) : q = r := by
  cases q <;> cases r <;> first | rfl | skip
  all_goals
    rcases hq with rfl | rfl <;> rcases hr with h | h <;> cases h

/-- **Two requests on one asset.**  After both have succeeded, no update is lost exactly when one
request reads after the other has saved, or the one that saves first sets no value that the row did
not have. -/
theorem noLostUpdate_iff (hdisjoint : DisjointPatches patches)
    {row : Option AssetContextOverride} {as : List PatchAction} {t : PatchState}
    (hrun : Run (patchStep asset patches) anyStep (startPatches row) as t) (ht : Succeeded t) :
    NoLostUpdate patches row t.row ↔
      ∃ q : Request, as = serial q ∨ (Overlapped q as ∧ Redundant patches row q) := by
  obtain ⟨q, ⟨hserial, hrow⟩ | ⟨hoverlap, found, rfl, hrow⟩⟩ := run_succeeded hrun ht
  · rw [hrow]
    exact ⟨fun _ => ⟨q, .inl hserial⟩, fun _ => serial_noLostUpdate hdisjoint row q⟩
  · rw [hrow, overlapped_noLostUpdate_iff hdisjoint found q]
    constructor
    · intro h
      exact ⟨q, .inr ⟨hoverlap, h⟩⟩
    · rintro ⟨r, hserial | ⟨hoverlap', h⟩⟩
      · rw [hserial] at hoverlap
        exact absurd hoverlap (serial_not_overlapped r q)
      · rw [hoverlap.eq hoverlap']
        exact h

end

/-- One request sets the sensitivity, the other one the lifespan. -/
def sensitivityAndLifespan : Request → AssetContextPatch
  | .first, .sensitivity => some (some "high".toList)
  | .second, .lifespanYears => some (some (10 : Nat))
  | _, _ => none

theorem sensitivityAndLifespan_disjoint : DisjointPatches sensitivityAndLifespan := by
  intro field
  cases field
  · exact .inr rfl
  all_goals exact .inl rfl

theorem sensitivityAndLifespan_serial : ∃ t,
    Run (patchStep 0 sensitivityAndLifespan) anyStep (startPatches none) (serial .first) t ∧
      (NoLostUpdate sensitivityAndLifespan none t.row ↔
        ∃ q : Request, serial .first = serial q ∨
          (Overlapped q (serial .first) ∧ Redundant sensitivityAndLifespan none q)) := by
  obtain ⟨t, hrun, ht⟩ : ∃ t,
      Run (patchStep 0 sensitivityAndLifespan) anyStep (startPatches none) (serial .first) t ∧
        Succeeded t := by
    refine ⟨_, .cons trivial rfl (.cons trivial rfl (.cons trivial rfl (.cons trivial rfl
      (.nil _)))), ?_⟩
    intro request
    cases request <;> rfl
  exact ⟨t, hrun, noLostUpdate_iff sensitivityAndLifespan_disjoint hrun ht⟩

/-- Both requests read an empty row; the sensitivity is gone after the second save. -/
theorem overlapping_patches_lose_sensitivity : ¬ ∀ (asset : Id)
    (patches : Request → AssetContextPatch) (row : Option AssetContextOverride)
    (as : List PatchAction) (t : PatchState), DisjointPatches patches →
      Run (patchStep asset patches) anyStep (startPatches row) as t → Succeeded t →
        NoLostUpdate patches row t.row := by
  intro h
  obtain ⟨t, hrun, ht, hrow⟩ : ∃ t,
      Run (patchStep 0 sensitivityAndLifespan) anyStep (startPatches (some (.blank 0)))
        [.read .first, .read .second, .save .first, .save .second] t ∧ Succeeded t ∧
        columns t.row .sensitivity = none := by
    refine ⟨_, .cons trivial rfl (.cons trivial rfl (.cons trivial rfl (.cons trivial rfl
      (.nil _)))), ?_, rfl⟩
    intro request
    cases request <;> rfl
  have hkept := (h 0 sensitivityAndLifespan _ _ t sensitivityAndLifespan_disjoint hrun ht
    .sensitivity).1 .first _ rfl
  rw [hrow] at hkept
  cases hkept

end CryptoScanner.Assets
