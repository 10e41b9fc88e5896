import CryptoScanner.Library.Transition
import CryptoScanner.Targets.Services

/-!
# What an operator has entered for a target

A scan reads its targets when it starts and writes what it infers from their homepages later, while
operators change the same rows.  A request reads its row in one statement and saves every column of
it in another.
-/

namespace CryptoScanner.Targets

open Library RiskEngine

/-! ## 1. The system -/

abbrev ScanId := Nat

/-- A `PATCH /targets/{target_id}` that has read its row. -/
structure PatchRequest where
  targetId : Id
  read : Target
  patch : TargetPatch

structure ContextSystem where
  db : Database
  /-- The targets of the running scans, as the scans have them in memory. -/
  loaded : ScanId → Id → Option TargetContext
  requests : List PatchRequest
  /-- The last value that a request has given to each field. -/
  operator : Id → Context
  /-- The fields that were set in the row when an inference changed them. -/
  overwritten : List (Id × ContextField)

inductive ContextAction
  | loadTargets (scan : ScanId) (targetIds : List Id)
  | infer (scan : ScanId) (targetId : Id) (inference : Option HomepageInference)
  | readTarget (targetId : Id) (patch : TargetPatch)
  | savePatch (index : Nat)

def rowContext (db : Database) (targetId : Id) : Context :=
  match db.targets.find? targetId with
  | none => emptyContext
  | some target => target.context.field

def changedFields (db db' : Database) (targetId : Id) : List ContextField :=
  contextFields.filter fun field =>
    (rowContext db targetId field).isSome &&
      decide (rowContext db' targetId field ≠ rowContext db targetId field)

def enteredBy (patch : TargetPatch) (entered : Context) : Context :=
  match patch.context with
  | none => entered
  | some context => fun field => (context field).getD (entered field)

/-- One step at the time `now`; `none` where the step is not enabled. -/
def contextStep (s : ContextSystem) : ContextAction × Time → Option ContextSystem
  | (.loadTargets scan targetIds, _) =>
      if targetIds.all fun id => (s.db.targets.find? id).isSome then
        some { s with
          loaded := Function.update s.loaded scan fun id =>
            if id ∈ targetIds then (s.db.targets.find? id).map (·.context) else none }
      else none
  | (.infer scan targetId inference, _) =>
      match s.loaded scan targetId with
      | none => none
      | some loaded =>
          let written := applyHomepageContextInference s.db.targets targetId loaded inference
          let db := { s.db with targets := written.1 }
          some { s with
            db
            loaded := Function.update s.loaded scan
              (Function.update (s.loaded scan) targetId (some written.2))
            overwritten := s.overwritten ++
              (changedFields s.db db targetId).map fun field => (targetId, field) }
  | (.readTarget targetId patch, _) =>
      match s.db.targets.find? targetId with
      | none => none
      | some read => some { s with requests := s.requests ++ [{ targetId, read, patch }] }
  | (.savePatch index, now) =>
      match s.requests[index]? with
      | none => none
      | some request =>
          let requests := s.requests.eraseIdx index
          match savePatch s.db request.targetId request.read request.patch now with
          | none => some { s with requests }
          | some db =>
              some { s with
                db
                requests
                operator := Function.update s.operator request.targetId
                  (enteredBy request.patch (s.operator request.targetId)) }

/-! ## 2. The property and the condition -/

/-- The rows hold what the operator has entered, and no inference has changed a set field. -/
structure OperatorKept (s : ContextSystem) : Prop where
  entered : ∀ targetId field value, s.operator targetId field = some value →
    rowContext s.db targetId field = some value
  overwritten : s.overwritten = []

/-- The inference gives every field that is set in the row the value it has there. -/
def SameAsRow (row : Context) (loaded : TargetContext) (inference : HomepageInference) : Prop :=
  ∀ field, (row field).isSome = true →
    loaded.field field = row field ∨
      (loaded.field field = none ∧ inference.field field = row field)

/-- The request saves what other requests have entered, or finds what it sends in the row. -/
def SavesEntered (row entered : Context) (request : PatchRequest) : Prop :=
  if request.patch.sendsColumns ∨ request.patch.changesContext request.read then
    ∀ field value, entered field = some value →
      request.read.context.field field = some value ∨
        ∃ context, request.patch.context = some context ∧ (context field).isSome = true
  else
    ∀ context field value, request.patch.context = some context →
      context field = some (some value) → row field = some value

/-- An inference that writes was made on a copy that agrees with the row, and a request that commits
has read what the requests before it had entered. -/
def OnCurrentRow (s : ContextSystem) : ContextAction × Time → Prop
  | (.infer scan targetId inference, _) =>
      ∀ loaded inferred, s.loaded scan targetId = some loaded → inference = some inferred →
        infers loaded inferred = true → SameAsRow (rowContext s.db targetId) loaded inferred
  | (.savePatch index, now) =>
      ∀ request db, s.requests[index]? = some request →
        savePatch s.db request.targetId request.read request.patch now = some db →
        SavesEntered (rowContext s.db request.targetId) (s.operator request.targetId) request
  | _ => True

/-! ## 3. Rows -/

theorem rowContext_of_find {db : Database} {targetId : Id} {target : Target}
    (h : db.targets.find? targetId = some target) : rowContext db targetId = target.context.field := by
  rw [rowContext, h]

theorem rowContext_congr {db db' : Database} {targetId : Id}
    (h : db'.targets.find? targetId = db.targets.find? targetId) :
    rowContext db' targetId = rowContext db targetId := by
  rw [rowContext, rowContext, h]

theorem mem_changedFields {db db' : Database} {targetId : Id} {field : ContextField} :
    field ∈ changedFields db db' targetId ↔ (rowContext db targetId field).isSome = true ∧
      rowContext db' targetId field ≠ rowContext db targetId field := by
  rw [changedFields, List.mem_filter]
  simp [mem_contextFields]

theorem changedFields_eq_nil {db db' : Database} {targetId : Id} :
    changedFields db db' targetId = [] ↔ ∀ field, (rowContext db targetId field).isSome = true →
      rowContext db' targetId field = rowContext db targetId field := by
  rw [List.eq_nil_iff_forall_not_mem]
  constructor
  · intro h field hset
    by_contra hne
    exact h field (mem_changedFields.mpr ⟨hset, hne⟩)
  · intro h field hmem
    obtain ⟨hset, hne⟩ := mem_changedFields.mp hmem
    exact hne (h field hset)

theorem inferredContext_field_eq {loaded : TargetContext} {inference : HomepageInference}
    {field : ContextField} {value : Option field.Value} (hset : value.isSome = true) :
    (inferredContext loaded inference).field field = value ↔
      loaded.field field = value ∨ (loaded.field field = none ∧ inference.field field = value) := by
  have hfield : (inferredContext loaded inference).field field =
      (loaded.field field).or (inference.field field) := by
    unfold inferredContext
    dsimp only
    cases loaded.field field with
    | some old => rfl
    | none => rfl
  rw [hfield]
  cases hloaded : loaded.field field with
  | some old => simp
  | none =>
      have hne : none ≠ value := by
        intro heq
        rw [← heq] at hset
        cases hset
      simp [hne]

def inferredDatabase (db : Database) (targetId : Id) (loaded : TargetContext)
    (inference : Option HomepageInference) : Database :=
  { db with targets := (applyHomepageContextInference db.targets targetId loaded inference).1 }

theorem rowContext_inferred_ne {db : Database} {targetId id : Id} (loaded : TargetContext)
    (inference : Option HomepageInference) (hne : id ≠ targetId) :
    rowContext (inferredDatabase db targetId loaded inference) id = rowContext db id := by
  apply rowContext_congr
  unfold inferredDatabase applyHomepageContextInference
  cases inference with
  | none => rfl
  | some inference =>
      dsimp only
      split
      · exact Table.find?_modify_ne _ _ hne
      · rfl

/-- An inference that writes replaces the context of the row. -/
theorem rowContext_inferred {db : Database} {targetId : Id} {target : Target}
    (hfound : db.targets.find? targetId = some target) {loaded : TargetContext}
    {inference : HomepageInference} (hinfers : infers loaded inference = true) :
    rowContext (inferredDatabase db targetId loaded (some inference)) targetId =
      (inferredContext loaded inference).field := by
  have hrow : (inferredDatabase db targetId loaded (some inference)).targets.find? targetId =
      some { target with context := inferredContext loaded inference } := by
    unfold inferredDatabase applyHomepageContextInference
    dsimp only
    rw [if_pos hinfers, Table.find?_modify_self, hfound]
    rfl
  rw [rowContext_of_find hrow]

theorem rowContext_inferred_of_not {db : Database} {targetId : Id} {loaded : TargetContext}
    {inference : Option HomepageInference}
    (h : ∀ inferred, inference = some inferred → infers loaded inferred = false) :
    rowContext (inferredDatabase db targetId loaded inference) targetId =
      rowContext db targetId := by
  apply rowContext_congr
  unfold inferredDatabase applyHomepageContextInference
  cases inference with
  | none => rfl
  | some inference =>
      dsimp only
      rw [if_neg (by rw [h inference rfl]; decide)]

/-- An inference changes no set field exactly if what it writes agrees with the row. -/
theorem inferred_keeps_iff (db : Database) (targetId : Id) (loaded : TargetContext)
    (inference : Option HomepageInference) :
    changedFields db (inferredDatabase db targetId loaded inference) targetId = [] ↔
      ∀ inferred, inference = some inferred → infers loaded inferred = true →
        SameAsRow (rowContext db targetId) loaded inferred := by
  rw [changedFields_eq_nil]
  by_cases hwrites : ∃ inferred, inference = some inferred ∧ infers loaded inferred = true
  · obtain ⟨inferred, rfl, hinfers⟩ := hwrites
    cases hfound : db.targets.find? targetId with
    | none =>
        have hunset : ∀ field, rowContext db targetId field = none := by
          intro field
          rw [rowContext, hfound]
          rfl
        simp [SameAsRow, hunset]
    | some target =>
        rw [rowContext_inferred hfound hinfers]
        constructor
        · intro h inferred' heq _ field hset
          cases heq
          exact (inferredContext_field_eq hset).mp (h field hset)
        · intro h field hset
          exact (inferredContext_field_eq hset).mpr (h inferred rfl hinfers field hset)
  · have hnot : ∀ inferred, inference = some inferred → infers loaded inferred = false := by
      intro inferred heq
      by_contra hinfers
      exact hwrites ⟨inferred, heq, by simpa using hinfers⟩
    rw [rowContext_inferred_of_not hnot]
    constructor
    · intro _ inferred heq hinfers
      rw [hnot inferred heq] at hinfers
      cases hinfers
    · exact fun _ _ _ => rfl

theorem apply_context {patch : TargetPatch} {read target : Target}
    (h : patch.apply read = some target) : target.context = patch.nextContext read := by
  simp only [TargetPatch.apply, Option.bind_eq_bind, Option.bind_eq_some_iff] at h
  obtain ⟨host, -, port, -, hint, -, transport, -, agentEnabled, -, h⟩ := h
  cases h
  rfl

/-- What a request that commits leaves in the table. -/
theorem savePatch_targets {db db' : Database} {targetId : Id} {read : Target} {patch : TargetPatch}
    {now : Time} (h : savePatch db targetId read patch now = some db') :
    ((¬ patch.sendsColumns = true ∧ ¬ patch.changesContext read = true) ∧ db' = db) ∨
      ((patch.sendsColumns = true ∨ patch.changesContext read = true) ∧ ∃ target,
        patch.apply read = some target ∧
        db'.targets = db.targets.modify targetId fun _ => target) := by
  rcases savePatch_cases h with hidle | ⟨hbusy, target, happly, rfl⟩
  · exact .inl hidle
  · refine .inr ⟨hbusy, target, happly, ?_⟩
    split <;> rfl

/-! ## 4. Steps -/

/-- The property, and that the rows that requests have read are there. -/
structure ContextSound (s : ContextSystem) : Prop where
  kept : OperatorKept s
  rows : ∀ request ∈ s.requests, ∃ target, s.db.targets.find? request.targetId = some target

/-- A change that deletes no target. -/
def TargetsStay (db db' : Database) : Prop :=
  ∀ id target, db.targets.find? id = some target → ∃ target', db'.targets.find? id = some target'

theorem targetsStay_modify {db db' : Database} {targetId : Id} {f : Target → Target}
    (h : db'.targets = db.targets.modify targetId f) : TargetsStay db db' := by
  intro id target hfound
  rw [h, Table.find?_modify, hfound]
  split <;> exact ⟨_, rfl⟩

theorem targetsStay_of_eq {db db' : Database} (h : db'.targets = db.targets) :
    TargetsStay db db' :=
  fun _ target hfound => ⟨target, h ▸ hfound⟩

section

variable {s s' : ContextSystem} {a : ContextAction × Time}

/-- An inference keeps the property exactly if it meets the condition. -/
theorem infer_kept_iff {scan : ScanId} {targetId : Id} {inference : Option HomepageInference}
    {now : Time} (hs : OperatorKept s)
    (h : contextStep s (.infer scan targetId inference, now) = some s') :
    OperatorKept s' ↔ OnCurrentRow s (.infer scan targetId inference, now) := by
  simp only [contextStep] at h
  split at h
  · cases h
  · rename_i loaded hloaded
    cases h
    have hiff := inferred_keeps_iff s.db targetId loaded inference
    constructor
    · intro hkept loaded' inferred hloaded' heq
      rw [hloaded] at hloaded'
      cases hloaded'
      have happend := hkept.overwritten
      rw [List.append_eq_nil_iff, List.map_eq_nil_iff] at happend
      exact hiff.mp happend.2 inferred heq
    · intro hguard
      have hnone := hiff.mpr fun inferred => hguard loaded inferred hloaded
      refine ⟨?_, ?_⟩
      · intro id field value hentered
        have hrow := hs.entered id field value hentered
        show rowContext (inferredDatabase s.db targetId loaded inference) id field = some value
        by_cases hid : id = targetId
        · subst hid
          rw [← hrow]
          exact changedFields_eq_nil.mp hnone field (by rw [hrow]; rfl)
        · rw [rowContext_inferred_ne loaded inference hid, hrow]
      · show s.overwritten ++ (changedFields s.db
          (inferredDatabase s.db targetId loaded inference) targetId).map _ = []
        rw [hs.overwritten, hnone]
        rfl

/-- What is entered for a target after a request: what the request sends, and what was entered
before where it sends nothing. -/
theorem enteredBy_cases {patch : TargetPatch} {entered : Context} {field : ContextField}
    {value : field.Value} (h : enteredBy patch entered field = some value) :
    (∃ context, patch.context = some context ∧ context field = some (some value)) ∨
      ((∀ context, patch.context = some context → context field = none) ∧
        entered field = some value) := by
  unfold enteredBy at h
  cases hcontext : patch.context with
  | none =>
      rw [hcontext] at h
      exact .inr ⟨fun _ hsent => (Option.some_ne_none _ hsent.symm).elim, h⟩
  | some context =>
      simp only [hcontext] at h
      cases hfield : context field with
      | none =>
          rw [hfield] at h
          refine .inr ⟨?_, h⟩
          intro context' hsent
          cases hsent
          exact hfield
      | some sent =>
          rw [hfield] at h
          exact .inl ⟨context, rfl, congrArg some h ▸ hfield⟩

theorem nextContext_sent {patch : TargetPatch} {read : Target} {context : TargetContextPatch}
    (h : patch.context = some context) (field : ContextField) :
    (patch.nextContext read).field field = (context field).getD (read.context.field field) := by
  simp only [TargetPatch.nextContext, h, mergeContext]

theorem nextContext_kept {patch : TargetPatch} {read : Target} {field : ContextField}
    (h : ∀ context, patch.context = some context → context field = none) :
    (patch.nextContext read).field field = read.context.field field := by
  unfold TargetPatch.nextContext
  cases hcontext : patch.context with
  | none => rfl
  | some context =>
      show (context field).getD _ = _
      rw [h context hcontext]
      rfl

/-- A request that commits leaves what is entered for its target in the row. -/
theorem savePatch_entered {db db' : Database} {request : PatchRequest} {now : Time}
    {entered : Context}
    (hrow : ∃ target, db.targets.find? request.targetId = some target)
    (hentered : ∀ field value, entered field = some value →
      rowContext db request.targetId field = some value)
    (hguard : SavesEntered (rowContext db request.targetId) entered request)
    (h : savePatch db request.targetId request.read request.patch now = some db')
    {field : ContextField} {value : field.Value}
    (hvalue : enteredBy request.patch entered field = some value) :
    rowContext db' request.targetId field = some value := by
  unfold SavesEntered at hguard
  rcases savePatch_targets h with ⟨hidle, rfl⟩ | ⟨hbusy, target, happly, htargets⟩
  · rw [if_neg (by tauto)] at hguard
    rcases enteredBy_cases hvalue with ⟨context, hcontext, hsent⟩ | ⟨-, hold⟩
    · exact hguard context field value hcontext hsent
    · exact hentered field value hold
  · rw [if_pos hbusy] at hguard
    obtain ⟨old, hold⟩ := hrow
    have hfound : db'.targets.find? request.targetId = some target := by
      rw [htargets, Table.find?_modify_self, hold]
      rfl
    rw [rowContext_of_find hfound, apply_context happly]
    rcases enteredBy_cases hvalue with ⟨context, hcontext, hsent⟩ | ⟨hunsent, hold⟩
    · rw [nextContext_sent hcontext, hsent]
      rfl
    · rw [nextContext_kept hunsent]
      rcases hguard field value hold with hread | ⟨context, hcontext, hsent⟩
      · exact hread
      · rw [hunsent context hcontext] at hsent
        cases hsent

theorem savePatch_kept {index : Nat} {now : Time} (hs : ContextSound s)
    (hguard : OnCurrentRow s (.savePatch index, now))
    (h : contextStep s (.savePatch index, now) = some s') : OperatorKept s' := by
  simp only [contextStep] at h
  split at h
  · cases h
  · rename_i request hrequest
    split at h
    · cases h
      exact ⟨hs.kept.entered, hs.kept.overwritten⟩
    · rename_i db hsave
      cases h
      refine ⟨?_, hs.kept.overwritten⟩
      intro id field value hvalue
      dsimp only at hvalue ⊢
      by_cases hid : id = request.targetId
      · subst hid
        rw [Function.update_self] at hvalue
        exact savePatch_entered (hs.rows request (List.mem_of_getElem? hrequest))
          (hs.kept.entered _) (hguard request db hrequest hsave) hsave hvalue
      · rw [Function.update_of_ne hid] at hvalue
        have hsame : rowContext db id = rowContext s.db id := by
          apply rowContext_congr
          rcases savePatch_targets hsave with ⟨-, rfl⟩ | ⟨-, target, -, htargets⟩
          · rfl
          · rw [htargets, Table.find?_modify_ne _ _ hid]
        rw [hsame]
        exact hs.kept.entered id field value hvalue

theorem contextStep_stays (h : contextStep s a = some s') : TargetsStay s.db s'.db := by
  obtain ⟨action, now⟩ := a
  -- rows are only rewritten, by the inference and by the patch, never deleted
  cases action with
  | loadTargets scan targetIds =>
      simp only [contextStep] at h
      split at h <;> cases h
      exact targetsStay_of_eq rfl
  | infer scan targetId inference =>
      simp only [contextStep] at h
      split at h
      · cases h
      · rename_i loaded hloaded
        cases h
        unfold applyHomepageContextInference
        split
        · exact targetsStay_of_eq rfl
        · dsimp only
          split
          · exact targetsStay_modify rfl
          · exact targetsStay_of_eq rfl
  | readTarget targetId patch =>
      simp only [contextStep] at h
      split at h <;> cases h
      exact targetsStay_of_eq rfl
  | savePatch index =>
      simp only [contextStep] at h
      split at h
      · cases h
      · split at h
        · cases h
          exact targetsStay_of_eq rfl
        · rename_i db hsave
          cases h
          rcases savePatch_targets hsave with ⟨-, rfl⟩ | ⟨-, target, -, htargets⟩
          · exact targetsStay_of_eq rfl
          · exact targetsStay_modify htargets

theorem contextStep_requests (h : contextStep s a = some s') :
    ∀ request ∈ s'.requests, request ∈ s.requests ∨
      ∃ target, s'.db.targets.find? request.targetId = some target := by
  obtain ⟨action, now⟩ := a
  cases action with
  | loadTargets scan targetIds =>
      simp only [contextStep] at h
      split at h <;> cases h
      exact fun _ hmem => .inl hmem
  | infer scan targetId inference =>
      simp only [contextStep] at h
      split at h <;> cases h
      exact fun _ hmem => .inl hmem
  | readTarget targetId patch =>
      simp only [contextStep] at h
      split at h
      · cases h
      · rename_i read hread
        cases h
        intro request hmem
        rcases List.mem_append.mp hmem with hold | hnew
        · exact .inl hold
        · rw [List.mem_singleton.mp hnew]
          exact .inr ⟨read, hread⟩
  | savePatch index =>
      simp only [contextStep] at h
      split at h
      · cases h
      · split at h <;> cases h <;> exact fun _ hmem => .inl (List.mem_of_mem_eraseIdx hmem)

theorem contextStep_sound (hs : ContextSound s) (hguard : OnCurrentRow s a)
    (h : contextStep s a = some s') : ContextSound s' := by
  refine ⟨?_, ?_⟩
  · obtain ⟨action, now⟩ := a
    cases action with
    | loadTargets scan targetIds =>
        simp only [contextStep] at h
        split at h <;> cases h
        exact ⟨hs.kept.entered, hs.kept.overwritten⟩
    | infer scan targetId inference => exact (infer_kept_iff hs.kept h).mpr hguard
    | readTarget targetId patch =>
        simp only [contextStep] at h
        split at h <;> cases h
        exact ⟨hs.kept.entered, hs.kept.overwritten⟩
    | savePatch index => exact savePatch_kept hs hguard h
  · intro request hmem
    rcases contextStep_requests h request hmem with hold | hnew
    · obtain ⟨target, htarget⟩ := hs.rows request hold
      exact contextStep_stays h _ target htarget
    · exact hnew

end

/-! ## 5. Runs -/

/-- No scan and no request has begun, and the rows hold what the operator has entered. -/
def ContextSystem.Start (s : ContextSystem) : Prop :=
  OperatorKept s ∧ s.requests = []

/-- **What an operator enters stays**, in every run in which each inference that writes was made on a
copy that agrees with the row. -/
theorem operator_context_kept {s₀ s : ContextSystem} {as : List (ContextAction × Time)}
    (h₀ : s₀.Start) (hrun : Run contextStep OnCurrentRow s₀ as s) : OperatorKept s := by
  obtain ⟨hkept, hrequests⟩ := h₀
  have hstart : ContextSound s₀ := by
    refine ⟨hkept, ?_⟩
    rw [hrequests]
    exact fun _ hmem => absurd hmem List.not_mem_nil
  have hsound : ContextSound s :=
    hrun.invariant (I := ContextSound) (fun _ _ _ hs hguard hstep =>
      contextStep_sound hs hguard hstep) hstart
  exact hsound.kept

def portal : Target where
  host := "portal.testbed.local"
  displayName := none
  ip := none
  port := 443
  protocolHint := .tls
  sni := none
  transport := .tcp
  agentEnabled := false
  agentUrl := none
  context := { field := emptyContext }

/-- The portal is registered, and nothing has been entered for it. -/
def portalSystem : ContextSystem where
  db := { targets := Table.empty.insert portal }
  loaded := fun _ _ => none
  requests := []
  operator := fun _ => emptyContext
  overwritten := []

def highSensitivity : TargetPatch :=
  { context := some fun
      | .sensitivity => some (some "high".toList)
      | _ => none }

def mediumSensitivity : HomepageInference where
  field
    | .sensitivity => some "medium".toList
    | _ => none
  evidence := some [("title", .str "Welcome")]

theorem portalSystem_start : portalSystem.Start :=
  ⟨⟨fun _ _ _ h => (Option.some_ne_none _ h.symm).elim, rfl⟩, rfl⟩

/-- The operator enters the sensitivity before the scan reads the target. -/
theorem patch_before_scan_kept : ∃ s,
    Run contextStep OnCurrentRow portalSystem [(.readTarget 0 highSensitivity, 1),
      (.savePatch 0, 2), (.loadTargets 1 [0], 3), (.infer 1 0 (some mediumSensitivity), 4)] s ∧
      OperatorKept s := by
  obtain ⟨s, hrun⟩ : ∃ s,
      Run contextStep OnCurrentRow portalSystem [(.readTarget 0 highSensitivity, 1),
        (.savePatch 0, 2), (.loadTargets 1 [0], 3), (.infer 1 0 (some mediumSensitivity), 4)] s := by
    refine ⟨_, .cons trivial rfl (.cons ?_ rfl (.cons trivial rfl (.cons ?_ rfl (.nil _))))⟩
    · intro request db hrequest _
      cases hrequest
      exact fun field value hentered => by cases hentered
    · intro loaded inferred hloaded hinferred _ field _
      cases hloaded
      exact .inl rfl
  exact ⟨s, hrun, operator_context_kept portalSystem_start hrun⟩

/-- The operator enters it while the scan is running. -/
theorem patch_during_scan_lost : ¬ ∀ as s, Run contextStep anyStep portalSystem as s →
    OperatorKept s := by
  intro h
  have hrun : ∃ s, Run contextStep anyStep portalSystem [(.loadTargets 1 [0], 1),
      (.readTarget 0 highSensitivity, 2), (.savePatch 0, 3),
      (.infer 1 0 (some mediumSensitivity), 4)] s ∧
      s.operator 0 .sensitivity = some "high".toList ∧
      rowContext s.db 0 .sensitivity = some "medium".toList :=
    ⟨_, .cons trivial rfl (.cons trivial rfl (.cons trivial rfl (.cons trivial rfl (.nil _)))),
      rfl, rfl⟩
  obtain ⟨s, hrun, hentered, hrow⟩ := hrun
  have hkept := (h _ s hrun).entered 0 .sensitivity "high".toList hentered
  rw [hrow] at hkept
  have hne : "medium".toList ≠ "high".toList := by decide
  exact hne (Option.some.inj hkept)

end CryptoScanner.Targets
