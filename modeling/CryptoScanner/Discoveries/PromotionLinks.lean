import CryptoScanner.Discoveries.PromotionAnswers

/-!
# What promoting leaves

In every interleaving the targets stay unique and an endpoint's target exists, and every promotion of
a request is answered once, as the rows it has read say.  An endpoint with a target is promoted, as
long as the targets are not all deleted while a discovery is between reading an endpoint and linking
it.
-/

namespace CryptoScanner.Discoveries

open Library Python

/-! ## 1. The rows -/

/-- What holds of the rows; the last part only where the deletions of all targets are `calm`. -/
structure LinksSound (calm : Prop) (store : EndpointStore) : Prop where
  unique : TargetsUnique store
  resolves : ∀ id row targetId, store.endpoints.find? id = some row → row.target = some targetId →
    ∃ target, store.targets.find? targetId = some target
  promoted : calm → ∀ id row targetId, store.endpoints.find? id = some row →
    row.target = some targetId → row.promoted = true

/-- An endpoint that an object holds: promoted where the object says so. -/
def ObjectKept (endpoints : Table EndpointRow) (id : Id) (endpoint : EndpointRow) : Prop :=
  id < endpoints.nextId ∧ ∀ row, endpoints.find? id = some row → endpoint.promoted = true →
    row.promoted = true

def StayPromoted (endpoints endpoints' : Table EndpointRow) : Prop :=
  endpoints.nextId ≤ endpoints'.nextId ∧
    ∀ id row', id < endpoints.nextId → endpoints'.find? id = some row' →
      ∃ row, endpoints.find? id = some row ∧ (row.promoted = true → row'.promoted = true)

section Rows

variable {calm : Prop} {store : EndpointStore} {endpoints endpoints' : Table EndpointRow} {id : Id}
  {endpoint : EndpointRow}

theorem StayPromoted.refl (endpoints : Table EndpointRow) : StayPromoted endpoints endpoints :=
  ⟨Nat.le_refl _, fun _ row' _ hrow' => ⟨row', hrow', fun h => h⟩⟩

theorem ObjectKept.later (h : ObjectKept endpoints id endpoint)
    (hstay : StayPromoted endpoints endpoints') : ObjectKept endpoints' id endpoint := by
  refine ⟨Nat.lt_of_lt_of_le h.1 hstay.1, ?_⟩
  intro row' hrow' hpromoted
  obtain ⟨row, hrow, hkept⟩ := hstay.2 id row' h.1 hrow'
  exact hkept (h.2 row hrow hpromoted)

theorem StayPromoted.modify {f : EndpointRow → EndpointRow}
    (hf : ∀ row, row.promoted = true → (f row).promoted = true) :
    StayPromoted endpoints (endpoints.modify id f) := by
  refine ⟨by rw [Table.nextId_modify], ?_⟩
  intro k row' _ hrow'
  rw [Table.find?_modify] at hrow'
  split at hrow'
  · rw [Option.map_eq_some_iff] at hrow'
    obtain ⟨row, hrow, rfl⟩ := hrow'
    exact ⟨row, hrow, hf row⟩
  · exact ⟨row', hrow', fun h => h⟩

theorem StayPromoted.insert (row : EndpointRow) : StayPromoted endpoints (endpoints.insert row) := by
  refine ⟨by rw [Table.nextId_insert]; omega, ?_⟩
  intro k row' hk hrow'
  rw [Table.find?_insert, if_neg (Nat.ne_of_lt hk)] at hrow'
  exact ⟨row', hrow', fun h => h⟩

theorem nextId_deleteEndpoints (ids : List Id) :
    (deleteEndpoints endpoints ids).nextId = endpoints.nextId := by
  unfold deleteEndpoints
  induction ids generalizing endpoints with
  | nil => rfl
  | cons k ids ih => rw [List.foldl_cons, ih, Table.nextId_delete]

theorem find?_of_deleteEndpoints {ids : List Id} {k : Id} {row : EndpointRow}
    (h : (deleteEndpoints endpoints ids).find? k = some row) : endpoints.find? k = some row := by
  unfold deleteEndpoints at h
  rw [Table.find?_foldl_delete] at h
  split at h
  · cases h
  · exact h

theorem StayPromoted.deleted (ids : List Id) :
    StayPromoted endpoints (deleteEndpoints endpoints ids) := by
  refine ⟨by rw [nextId_deleteEndpoints], ?_⟩
  intro k row' _ hrow'
  exact ⟨row', find?_of_deleteEndpoints hrow', fun h => h⟩

theorem find?_unlink {targetId k : Id} {row' : EndpointRow}
    (h : (unlink endpoints targetId).find? k = some row') :
    ∃ row, endpoints.find? k = some row ∧ row'.promoted = row.promoted ∧
      (row'.target = none ∨ row'.target = row.target ∧ row.target ≠ some targetId) := by
  unfold unlink at h
  rw [Table.find?_updateWhere, Option.map_eq_some_iff] at h
  obtain ⟨row, hrow, rfl⟩ := h
  refine ⟨row, hrow, ?_⟩
  by_cases hlinked : row.target = some targetId
  · rw [if_pos (beq_iff_eq.mpr hlinked)]
    exact ⟨rfl, .inl rfl⟩
  · rw [if_neg (by rwa [beq_iff_eq])]
    exact ⟨rfl, .inr ⟨rfl, hlinked⟩⟩

theorem StayPromoted.unlinked (targetId : Id) :
    StayPromoted endpoints (unlink endpoints targetId) := by
  constructor
  · unfold unlink
    rw [Table.nextId_updateWhere]
  · intro k row' _ hrow'
    obtain ⟨row, hrow, hsame, _⟩ := find?_unlink hrow'
    exact ⟨row, hrow, fun h => by rw [hsame, h]⟩

/-- Endpoints that are written: each has no target, is an old one, or is linked to a row. -/
theorem LinksSound.ofEndpoints (h : LinksSound calm store)
    (hrows : ∀ id row', endpoints'.find? id = some row' → row'.target = none ∨
      (∃ row, store.endpoints.find? id = some row ∧ row'.target = row.target ∧
        (row.promoted = true → row'.promoted = true)) ∨
      row'.promoted = true ∧ ∃ targetId target, row'.target = some targetId ∧
        store.targets.find? targetId = some target) :
    LinksSound calm { store with endpoints := endpoints' } where
  unique := h.unique
  resolves := by
    intro id row' targetId hrow' hlinked
    rcases hrows id row' hrow' with hnone | ⟨row, hrow, hsame, _⟩ | ⟨_, other, target, hother, hfound⟩
    · rw [hnone] at hlinked
      cases hlinked
    · exact h.resolves id row targetId hrow (hsame.symm.trans hlinked)
    · rw [hlinked] at hother
      cases hother
      exact ⟨target, hfound⟩
  promoted := by
    intro hcalm id row' targetId hrow' hlinked
    rcases hrows id row' hrow' with hnone | ⟨row, hrow, hsame, hkept⟩ | ⟨hpromoted, _⟩
    · rw [hnone] at hlinked
      cases hlinked
    · exact hkept (h.promoted hcalm id row targetId hrow (hsame.symm.trans hlinked))
    · exact hpromoted

theorem LinksSound.create (h : LinksSound calm store) {row : EndpointRow}
    (hrow : row.target = none) :
    LinksSound calm { store with endpoints := store.endpoints.insert row } := by
  apply h.ofEndpoints
  intro k row' hrow'
  rw [Table.find?_insert] at hrow'
  split at hrow'
  · cases hrow'
    exact .inl hrow
  · exact .inr (.inl ⟨row', hrow', rfl, fun h => h⟩)

theorem LinksSound.update (h : LinksSound calm store) (id : Id) (record : EndpointRecord) :
    LinksSound calm { store with endpoints := store.endpoints.modify id record.update } := by
  apply h.ofEndpoints
  intro k row' hrow'
  rw [Table.find?_modify] at hrow'
  split at hrow'
  · rw [Option.map_eq_some_iff] at hrow'
    obtain ⟨old, hold, rfl⟩ := hrow'
    exact .inr (.inl ⟨old, hold, rfl, fun h => h⟩)
  · exact .inr (.inl ⟨row', hrow', rfl, fun h => h⟩)

theorem LinksSound.deleteEndpoints (h : LinksSound calm store) (ids : List Id) :
    LinksSound calm { store with
      endpoints := Discoveries.deleteEndpoints store.endpoints ids } := by
  apply h.ofEndpoints
  intro k row' hrow'
  exact .inr (.inl ⟨row', find?_of_deleteEndpoints hrow', rfl, fun h => h⟩)

theorem LinksSound.ofTargets (h : LinksSound calm store) {targets : Table Target}
    (hunique : TargetsUnique { store with targets })
    (hkept : ∀ id target, store.targets.find? id = some target →
      ∃ target', targets.find? id = some target') :
    LinksSound calm { store with targets } where
  unique := hunique
  resolves := by
    intro id row targetId hrow hlinked
    obtain ⟨target, hfound⟩ := h.resolves id row targetId hrow hlinked
    exact hkept targetId target hfound
  promoted := h.promoted

theorem targetsUnique_insert (h : TargetsUnique store) {target : Target}
    (hnone : store.targetIds (targetTriple target) = []) :
    TargetsUnique { store with targets := store.targets.insert target } := by
  -- no row of the triple is there, so only the new row has it
  have hne : ∀ id other, store.targets.find? id = some other →
      targetTriple other ≠ targetTriple target := by
    intro id other hother heq
    have hmem := mem_targetIds.mpr ⟨other, hother, heq⟩
    rw [hnone] at hmem
    cases hmem
  intro id id' other other' hother hother' heq
  change (store.targets.insert target).find? id = some other at hother
  change (store.targets.insert target).find? id' = some other' at hother'
  rw [Table.find?_insert] at hother hother'
  by_cases hnew : id = store.targets.nextId
  · rw [if_pos hnew] at hother
    cases hother
    by_cases hnew' : id' = store.targets.nextId
    · rw [hnew, hnew']
    · rw [if_neg hnew'] at hother'
      exact absurd heq.symm (hne id' other' hother')
  · rw [if_neg hnew] at hother
    by_cases hnew' : id' = store.targets.nextId
    · rw [if_pos hnew'] at hother'
      cases hother'
      exact absurd heq (hne id other hother)
    · rw [if_neg hnew'] at hother'
      exact h id id' other other' hother hother' heq

theorem targetsUnique_put (h : TargetsUnique store) {targetId : Id} {target : Target}
    (hused : targetId < store.targets.nextId)
    (hfree : (store.targetIds (targetTriple target)).any (· ≠ targetId) = false) :
    TargetsUnique { store with targets := store.targets.put targetId target } := by
  -- the constraint refuses the triple of another row
  have hne : ∀ id other, id ≠ targetId → store.targets.find? id = some other →
      targetTriple other ≠ targetTriple target := by
    intro id other hid hother heq
    rw [List.any_eq_false] at hfree
    apply hfree id (mem_targetIds.mpr ⟨other, hother, heq⟩)
    rw [decide_eq_true_eq]
    exact hid
  intro id id' other other' hother hother' heq
  change (store.targets.put targetId target).find? id = some other at hother
  change (store.targets.put targetId target).find? id' = some other' at hother'
  rw [Table.find?_put target hused] at hother hother'
  by_cases hid : id = targetId
  · by_cases hid' : id' = targetId
    · rw [hid, hid']
    · rw [if_pos hid] at hother
      rw [if_neg hid'] at hother'
      cases hother
      exact absurd heq.symm (hne id' other' hid' hother')
  · rw [if_neg hid] at hother
    by_cases hid' : id' = targetId
    · rw [if_pos hid'] at hother'
      cases hother'
      exact absurd heq (hne id other hid hother)
    · rw [if_neg hid'] at hother'
      exact h id id' other other' hother hother' heq

theorem LinksSound.getOrCreate (h : LinksSound calm store) {target : Target} {targetId : Id}
    {store' : EndpointStore} (hget : store.getOrCreate target = some (targetId, store')) :
    LinksSound calm store' ∧ store'.endpoints = store.endpoints := by
  unfold EndpointStore.getOrCreate at hget
  cases hids : store.targetIds (targetTriple target) with
  | nil =>
      simp only [hids] at hget
      cases hget
      refine ⟨h.ofTargets (targetsUnique_insert h.unique hids) ?_, rfl⟩
      intro id other hother
      exact ⟨other, Table.find?_insert_of_find? target hother⟩
  | cons first rest =>
      -- a second row of the triple is `MultipleObjectsReturned`
      cases rest with
      | nil =>
          simp only [hids] at hget
          cases hget
          exact ⟨h, rfl⟩
      | cons second rest =>
          simp only [hids] at hget
          cases hget

theorem LinksSound.deleteTarget (h : LinksSound calm store) (targetId : Id) :
    LinksSound calm
      { endpoints := unlink store.endpoints targetId, targets := store.targets.delete targetId } where
  unique := by
    intro id id' target target' htarget htarget' heq
    change (store.targets.delete targetId).find? id = some target at htarget
    change (store.targets.delete targetId).find? id' = some target' at htarget'
    rw [Table.find?_delete] at htarget htarget'
    split at htarget
    · cases htarget
    · split at htarget'
      · cases htarget'
      · exact h.unique id id' target target' htarget htarget' heq
  resolves := by
    intro id row' other hrow' hlinked
    obtain ⟨row, hrow, _, htarget⟩ := find?_unlink hrow'
    rcases htarget with hnone | ⟨hsame, hne⟩
    · rw [hnone] at hlinked
      cases hlinked
    · rw [hsame] at hlinked
      obtain ⟨target, hfound⟩ := h.resolves id row other hrow hlinked
      refine ⟨target, ?_⟩
      show (store.targets.delete targetId).find? other = some target
      rw [Table.find?_delete, if_neg, hfound]
      intro heq
      rw [hlinked, heq] at hne
      exact hne rfl
  promoted := by
    intro hcalm id row' other hrow' hlinked
    obtain ⟨row, hrow, hpromoted, htarget⟩ := find?_unlink hrow'
    rcases htarget with hnone | ⟨hsame, _⟩
    · rw [hnone] at hlinked
      cases hlinked
    · rw [hsame] at hlinked
      rw [hpromoted]
      exact h.promoted hcalm id row other hrow hlinked

/-- After all targets are deleted no endpoint has one, and none is promoted. -/
theorem find?_deleteScanTargets {row : EndpointRow}
    (h : (deleteScanTargets store).endpoints.find? id = some row) :
    row.target = none ∧ row.promoted = false := by
  change ((store.endpoints.updateWhere _ _).updateWhere _ _).find? id = some row at h
  rw [Table.find?_updateWhere, Table.find?_updateWhere, Option.map_map, Option.map_eq_some_iff] at h
  obtain ⟨old, _, rfl⟩ := h
  cases hpromoted : old.promoted <;> simp [hpromoted]

theorem linksSound_deleteScanTargets (store : EndpointStore) :
    LinksSound calm (deleteScanTargets store) where
  unique := by
    intro id id' target target' htarget
    change (((store.targets.ids fun _ => true).foldl Table.delete store.targets).find? id) =
      some target at htarget
    rw [Table.find?_foldl_delete] at htarget
    split at htarget
    · cases htarget
    · rename_i hnot
      -- every row that is there is among the deleted ones
      exact absurd (Table.mem_ids.mpr ⟨target, htarget, rfl⟩) hnot
  resolves := by
    intro id row targetId hrow hlinked
    rw [(find?_deleteScanTargets hrow).1] at hlinked
    cases hlinked
  promoted := by
    intro _ id row targetId hrow hlinked
    rw [(find?_deleteScanTargets hrow).1] at hlinked
    cases hlinked

end Rows

/-! ## 2. The runs -/

/-- The targets are not all deleted while a pass holds an endpoint that it has read as promoted. -/
def CalmDeletion (s : LinkSystem) : LinkAction → Prop
  | .deleteScanTargets => ∀ passId pass id endpoint, s.passes.find? passId = some pass →
      pass.stage.endpoint = some (id, endpoint) → endpoint.promoted = false
  | _ => True

structure LinkSystem.Sound (calm : Prop) (s : LinkSystem) : Prop where
  links : LinksSound calm s.store
  passes : calm → ∀ passId pass id endpoint, s.passes.find? passId = some pass →
    pass.stage.endpoint = some (id, endpoint) → ObjectKept s.store.endpoints id endpoint
  requests : ∀ request ∈ s.requests, request.Sound

section Runs

variable {calm : Prop} {s s' : LinkSystem} {a : LinkAction}

/-- A step on the rows that keeps what is promoted. -/
theorem LinkSystem.Sound.store (h : s.Sound calm) {store : EndpointStore}
    (hlinks : LinksSound calm store) (hstay : StayPromoted s.store.endpoints store.endpoints) :
    LinkSystem.Sound calm { s with store } where
  links := hlinks
  passes := by
    intro hcalm passId pass id endpoint hpass hendpoint
    exact (h.passes hcalm passId pass id endpoint hpass hendpoint).later hstay
  requests := h.requests

theorem LinkSystem.Sound.setRequest (h : s.Sound calm) {index : Nat} {request : PromoteRequest}
    (hsound : request.Sound) :
    LinkSystem.Sound calm { s with requests := s.requests.set index request } where
  links := h.links
  passes := h.passes
  requests := by
    intro other hother
    rcases List.mem_or_eq_of_mem_set hother with hold | hnew
    · exact h.requests other hold
    · rw [hnew]
      exact hsound

theorem LinkSystem.Sound.setStage (h : s.Sound calm) {passId : Id} {stage : Pass → PassStage}
    (hkept : calm → ∀ pass id endpoint, s.passes.find? passId = some pass →
      (stage pass).endpoint = some (id, endpoint) → ObjectKept s.store.endpoints id endpoint) :
    LinkSystem.Sound calm
      { s with passes := s.passes.modify passId fun pass => { pass with stage := stage pass } } where
  links := h.links
  passes := by
    intro hcalm k pass id endpoint hpass hendpoint
    change (s.passes.modify passId _).find? k = some pass at hpass
    -- the pass whose stage is set, and every other pass
    rw [Table.find?_modify] at hpass
    split at hpass
    · rw [Option.map_eq_some_iff] at hpass
      obtain ⟨old, hold, rfl⟩ := hpass
      rename_i hk
      exact hkept hcalm old id endpoint (hk ▸ hold) hendpoint
    · exact h.passes hcalm k pass id endpoint hpass hendpoint
  requests := h.requests

theorem LinkSystem.Sound.deletePass (h : s.Sound calm) (passId : Id) :
    LinkSystem.Sound calm { s with passes := s.passes.delete passId } where
  links := h.links
  passes := by
    intro hcalm k pass id endpoint hpass hendpoint
    change (s.passes.delete passId).find? k = some pass at hpass
    rw [Table.find?_delete] at hpass
    split at hpass
    · cases hpass
    · exact h.passes hcalm k pass id endpoint hpass hendpoint
  requests := h.requests

theorem LinksSound.link {store : EndpointStore} (h : LinksSound calm store) {id targetId : Id}
    {f : EndpointRow → EndpointRow} {target : Target}
    (hfound : store.targets.find? targetId = some target)
    (htarget : ∀ row, store.endpoints.find? id = some row →
      (f row).target = row.target ∧ (row.promoted = true → (f row).promoted = true) ∨
      (f row).target = some targetId ∧ (calm → (f row).promoted = true)) :
    LinksSound calm { store with endpoints := store.endpoints.modify id f } where
  unique := h.unique
  resolves := by
    intro k row' other hrow' hlinked
    change (store.endpoints.modify id f).find? k = some row' at hrow'
    rw [Table.find?_modify] at hrow'
    split at hrow'
    · rename_i hk
      subst hk
      rw [Option.map_eq_some_iff] at hrow'
      obtain ⟨row, hrow, rfl⟩ := hrow'
      rcases htarget row hrow with ⟨hsame, _⟩ | ⟨hnew, _⟩
      · exact h.resolves k row other hrow (hsame.symm.trans hlinked)
      · rw [hnew] at hlinked
        cases hlinked
        exact ⟨target, hfound⟩
    · exact h.resolves k row' other hrow' hlinked
  promoted := by
    intro hcalm k row' other hrow' hlinked
    change (store.endpoints.modify id f).find? k = some row' at hrow'
    rw [Table.find?_modify] at hrow'
    split at hrow'
    · rename_i hk
      subst hk
      rw [Option.map_eq_some_iff] at hrow'
      obtain ⟨row, hrow, rfl⟩ := hrow'
      rcases htarget row hrow with ⟨hsame, hkept⟩ | ⟨_, hpromoted⟩
      · exact hkept (h.promoted hcalm k row other hrow (hsame.symm.trans hlinked))
      · exact hpromoted hcalm
    · exact h.promoted hcalm k row' other hrow' hlinked

theorem saveLink_stays {endpoint : EndpointRow} {targetId : Id} {row : EndpointRow}
    (h : row.promoted = true) : (saveLink endpoint targetId row).promoted = true := by
  show (if endpoint.promoted then row.promoted else true) = true
  rw [h, ite_self]

/-- The object says promoted only where the row still is. -/
theorem LinksSound.saveLink {store : EndpointStore} (h : LinksSound calm store) {id targetId : Id}
    {endpoint : EndpointRow} {target : Target}
    (hkept : calm → ObjectKept store.endpoints id endpoint)
    (hfound : store.targets.find? targetId = some target) :
    LinksSound calm { store with
      endpoints := store.endpoints.modify id (Discoveries.saveLink endpoint targetId) } := by
  apply h.link hfound
  intro row hrow
  -- an endpoint that is linked to the target already is saved with the flag alone
  by_cases hsame : endpoint.target = some targetId
  · exact .inl ⟨if_pos hsame, saveLink_stays⟩
  · refine .inr ⟨if_neg hsame, ?_⟩
    intro hcalm
    show (if endpoint.promoted then row.promoted else true) = true
    split
    · rename_i hpromoted
      exact (hkept hcalm).2 row hrow hpromoted
    · rfl

variable [PyText] {backend : Backend}

theorem LinkSystem.Sound.promote (h : s.Sound calm) {discovery : Id} {status : Option JobStatus}
    {payload : List DiscoveryPromotionPayload}
    (hstep : linkStep backend s (.promote discovery status payload) = some s') : s'.Sound calm := by
  cases status with
  | none => cases hstep
  | some status =>
      simp only [linkStep] at hstep
      split at hstep
      · cases hstep
      · cases hstep
        refine ⟨h.links, h.passes, ?_⟩
        intro request hrequest
        rcases List.mem_append.mp hrequest with hold | hnew
        · exact h.requests request hold
        · rw [List.mem_singleton.mp hnew]
          exact .start payload _

theorem LinkSystem.Sound.skip (h : s.Sound calm) {index : Nat}
    (hstep : linkStep backend s (.skip index) = some s') : s'.Sound calm := by
  simp only [linkStep, Option.bind_eq_bind, Option.bind_eq_some_iff] at hstep
  obtain ⟨request, hrequest, promotion, hcurrent, hstep⟩ := hstep
  have hsound := h.requests request (List.mem_of_getElem? hrequest)
  cases hendpoint : request.endpoints promotion.endpointId with
  | none =>
      rw [hendpoint] at hstep
      cases hstep
      exact h.setRequest (hsound.skipMissing hcurrent hendpoint)
  | some endpoint =>
      rw [hendpoint] at hstep
      dsimp only at hstep
      split at hstep
      · rename_i hpromoted
        cases hstep
        exact h.setRequest (hsound.skipPromoted hcurrent hendpoint hpromoted)
      · cases hstep

theorem LinkSystem.Sound.getTarget (h : s.Sound calm) {index : Nat}
    (hstep : linkStep backend s (.getTarget index) = some s') : s'.Sound calm := by
  simp only [linkStep, Option.bind_eq_bind, Option.bind_eq_some_iff] at hstep
  obtain ⟨request, hrequest, promotion, hcurrent, endpoint, hendpoint, hstep⟩ := hstep
  have hsound := h.requests request (List.mem_of_getElem? hrequest)
  split at hstep
  · cases hstep
  · rename_i hopen
    rw [not_or, Bool.not_eq_true] at hopen
    rw [Option.bind_eq_some_iff] at hstep
    obtain ⟨⟨targetId, store⟩, hget, hstep⟩ := hstep
    cases hstep
    obtain ⟨hlinks, hsame⟩ := h.links.getOrCreate hget
    -- `get_or_create` writes no endpoint
    have hstay : StayPromoted s.store.endpoints store.endpoints := hsame ▸ .refl _
    refine (h.store hlinks hstay).setRequest ⟨⟨hsound.next_le, hsound.promoted, hsound.notFound,
      hsound.already⟩, hsound.missing, hsound.objects, ?_⟩
    intro _
    exact ⟨promotion, endpoint, hcurrent, hendpoint, hopen.1⟩

theorem LinkSystem.Sound.savePromoted (h : s.Sound calm) {index : Nat}
    (hstep : linkStep backend s (.savePromoted index) = some s') : s'.Sound calm := by
  simp only [linkStep, Option.bind_eq_bind, Option.bind_eq_some_iff] at hstep
  obtain ⟨request, hrequest, promotion, hcurrent, targetId, htarget, row, _, target, hfound,
    hstep⟩ := hstep
  have hsound := h.requests request (List.mem_of_getElem? hrequest)
  cases hstep
  have hlinks : LinksSound calm { s.store with
      endpoints := s.store.endpoints.modify promotion.endpointId fun row =>
        { row with target := some targetId, promoted := true } } :=
    h.links.link hfound fun _ _ => .inr ⟨rfl, fun _ => rfl⟩
  exact (h.store hlinks (.modify fun _ _ => rfl)).setRequest (hsound.finish hcurrent htarget)

theorem LinkSystem.Sound.read (h : s.Sound calm) {discovery : Id} {record : EndpointRecord}
    (hstep : linkStep backend s (.read discovery record) = some s') : s'.Sound calm := by
  cases hstep
  refine ⟨h.links, ?_, h.requests⟩
  intro hcalm passId pass id endpoint hpass hendpoint
  change (s.passes.insert _).find? passId = some pass at hpass
  rw [Table.find?_insert] at hpass
  split at hpass
  · cases hpass
    change ((s.store.endpointIds discovery record.triple).head?.bind fun id =>
      (s.store.endpoints.find? id).map fun row => (id, row)) = some (id, endpoint) at hendpoint
    rw [Option.bind_eq_some_iff] at hendpoint
    obtain ⟨first, _, hendpoint⟩ := hendpoint
    rw [Option.map_eq_some_iff] at hendpoint
    obtain ⟨row, hrow, hpair⟩ := hendpoint
    cases hpair
    -- the object is as new as the row it was read from
    refine ⟨Table.lt_nextId hrow, ?_⟩
    intro row' hrow' hpromoted
    rw [hrow] at hrow'
    cases hrow'
    exact hpromoted
  · exact h.passes hcalm passId pass id endpoint hpass hendpoint

theorem LinkSystem.Sound.saveRow (h : s.Sound calm) {passId : Id}
    (hstep : linkStep backend s (.saveRow passId) = some s') : s'.Sound calm := by
  simp only [linkStep, Option.bind_eq_bind, Option.bind_eq_some_iff] at hstep
  obtain ⟨⟨discovery, record, stage⟩, hpass, hstep⟩ := hstep
  cases stage with
  | read existing =>
      cases existing with
      | none =>
          cases hstep
          refine (h.store (h.links.create rfl) (.insert _)).setStage ?_
          intro _ pass id endpoint _ hendpoint
          cases hendpoint
          refine ⟨?_, fun _ _ hpromoted => nomatch hpromoted⟩
          show s.store.endpoints.nextId < (s.store.endpoints.insert _).nextId
          rw [Table.nextId_insert]
          omega
      | some existing =>
          obtain ⟨id, endpoint⟩ := existing
          simp only [Option.bind_eq_some_iff] at hstep
          obtain ⟨row, _, hstep⟩ := hstep
          cases hstep
          have hstay : StayPromoted s.store.endpoints
              (s.store.endpoints.modify id record.update) := .modify fun _ hrow => hrow
          refine (h.store (h.links.update id record) hstay).setStage ?_
          intro hcalm pass k object hfound hobject
          cases hobject
          have hkept := h.passes hcalm passId _ id endpoint hpass rfl
          exact ObjectKept.later ⟨hkept.1, hkept.2⟩ hstay
  | columnsSaved id endpoint => cases hstep
  | rowSaved id endpoint => cases hstep
  | targetGot id endpoint targetId => cases hstep

theorem LinkSystem.Sound.deleteOthers (h : s.Sound calm) {passId : Id}
    (hstep : linkStep backend s (.deleteOthers passId) = some s') : s'.Sound calm := by
  simp only [linkStep, Option.bind_eq_bind, Option.bind_eq_some_iff] at hstep
  obtain ⟨⟨discovery, record, stage⟩, hpass, hstep⟩ := hstep
  cases stage with
  | read existing => cases hstep
  | columnsSaved id endpoint =>
      cases hstep
      refine (h.store (h.links.deleteEndpoints _) (.deleted _)).setStage ?_
      intro hcalm pass k object _ hobject
      cases hobject
      exact (h.passes hcalm passId _ id endpoint hpass rfl).later (.deleted _)
  | rowSaved id endpoint => cases hstep
  | targetGot id endpoint targetId => cases hstep

theorem LinkSystem.Sound.getPassTarget (h : s.Sound calm) {passId : Id}
    (hstep : linkStep backend s (.getPassTarget passId) = some s') : s'.Sound calm := by
  simp only [linkStep, Option.bind_eq_bind, Option.bind_eq_some_iff] at hstep
  obtain ⟨⟨discovery, record, stage⟩, hpass, hstep⟩ := hstep
  cases stage with
  | read existing => cases hstep
  | columnsSaved id endpoint => cases hstep
  | rowSaved id endpoint =>
      dsimp only at hstep
      cases hget : getOrCreateTarget backend record s.store with
      | error error =>
          rw [hget] at hstep
          cases hstep
      | ok found =>
          obtain ⟨targetId, store⟩ := found
          rw [hget] at hstep
          cases hstep
          have hgot := getOrCreateTarget_got h.links.unique hget
          obtain ⟨endpoints, targets⟩ := store
          obtain rfl : endpoints = s.store.endpoints := hgot.endpoints
          have hlinks : LinksSound calm { s.store with targets } :=
            h.links.ofTargets hgot.unique fun k target htarget =>
              ⟨target, hgot.kept k target htarget⟩
          have hstay : StayPromoted s.store.endpoints s.store.endpoints := .refl _
          refine (h.store hlinks hstay).setStage ?_
          intro hcalm pass k object _ hobject
          cases hobject
          exact (h.passes hcalm passId _ id endpoint hpass rfl).later hstay
  | targetGot id endpoint targetId => cases hstep

theorem LinkSystem.Sound.linkSaved (h : s.Sound calm) {passId : Id}
    (hstep : linkStep backend s (.saveLink passId) = some s') : s'.Sound calm := by
  simp only [linkStep, Option.bind_eq_bind, Option.bind_eq_some_iff] at hstep
  obtain ⟨⟨discovery, record, stage⟩, hpass, hstep⟩ := hstep
  cases stage with
  | read existing => cases hstep
  | columnsSaved id endpoint => cases hstep
  | rowSaved id endpoint => cases hstep
  | targetGot id endpoint targetId =>
      dsimp only at hstep
      split at hstep
      · cases hstep
        exact h.deletePass passId
      · simp only [Option.bind_eq_some_iff] at hstep
        obtain ⟨row, hrow, target, hfound, hstep⟩ := hstep
        cases hstep
        have hlinks := h.links.saveLink
          (fun hcalm => h.passes hcalm passId _ id endpoint hpass rfl) hfound
        exact (h.store hlinks (.modify fun _ => saveLink_stays)).deletePass passId

theorem LinkSystem.Sound.createTarget (h : s.Sound calm) {target : Target}
    (hstep : linkStep backend s (.createTarget target) = some s') : s'.Sound calm := by
  simp only [linkStep] at hstep
  split at hstep
  · rename_i hnone
    cases hstep
    refine h.store (h.links.ofTargets (targetsUnique_insert h.links.unique hnone) ?_) (.refl _)
    exact fun k other hother => ⟨other, Table.find?_insert_of_find? target hother⟩
  · cases hstep

theorem LinkSystem.Sound.saveTarget (h : s.Sound calm) {targetId : Id} {target : Target}
    (hstep : linkStep backend s (.saveTarget targetId target) = some s') : s'.Sound calm := by
  simp only [linkStep] at hstep
  split at hstep
  · cases hstep
  · rename_i hused
    split at hstep
    · cases hstep
    · rename_i hfree
      cases hstep
      rw [Nat.not_le] at hused
      rw [Bool.not_eq_true] at hfree
      have hunique := targetsUnique_put h.links.unique hused hfree
      refine h.store (h.links.ofTargets hunique fun k other hother => ?_) (.refl _)
      rw [Table.find?_put target hused]
      split
      · exact ⟨target, rfl⟩
      · exact ⟨other, hother⟩

omit [PyText] in
theorem LinkSystem.Sound.deleteScanTargets (h : s.Sound calm)
    (hguard : calm → CalmDeletion s .deleteScanTargets) :
    LinkSystem.Sound calm { s with store := Discoveries.deleteScanTargets s.store } := by
  refine ⟨linksSound_deleteScanTargets s.store, ?_, h.requests⟩
  intro hcalm passId pass id endpoint hpass hendpoint
  have hkept := h.passes hcalm passId pass id endpoint hpass hendpoint
  constructor
  · show id < ((s.store.endpoints.updateWhere _ _).updateWhere _ _).nextId
    rw [Table.nextId_updateWhere, Table.nextId_updateWhere]
    exact hkept.1
  · intro row _ hpromoted
    rw [hguard hcalm passId pass id endpoint hpass hendpoint] at hpromoted
    cases hpromoted

theorem linkStep_sound (h : s.Sound calm) (hguard : calm → CalmDeletion s a)
    (hstep : linkStep backend s a = some s') : s'.Sound calm := by
  cases a with
  | promote discovery status payload => exact h.promote hstep
  | skip index => exact h.skip hstep
  | getTarget index => exact h.getTarget hstep
  | savePromoted index => exact h.savePromoted hstep
  | read discovery record => exact h.read hstep
  | saveRow passId => exact h.saveRow hstep
  | deleteOthers passId => exact h.deleteOthers hstep
  | getPassTarget passId => exact h.getPassTarget hstep
  | saveLink passId => exact h.linkSaved hstep
  | raise passId =>
      cases hstep
      exact h.deletePass passId
  | createTarget target => exact h.createTarget hstep
  | saveTarget targetId target => exact h.saveTarget hstep
  | deleteTarget targetId =>
      simp only [linkStep, Option.bind_eq_bind, Option.bind_eq_some_iff] at hstep
      obtain ⟨old, _, hstep⟩ := hstep
      cases hstep
      exact h.store (h.links.deleteTarget targetId) (.unlinked targetId)
  | deleteScanTargets =>
      cases hstep
      exact h.deleteScanTargets hguard

/-- No request and no pass yet. -/
structure LinkSystem.Start (s : LinkSystem) : Prop where
  links : LinksSound True s.store
  requests : s.requests = []
  passes : ∀ passId, s.passes.find? passId = none

omit [PyText] in
theorem LinkSystem.Start.sound (h : s.Start) : s.Sound calm where
  links := ⟨h.links.unique, h.links.resolves, fun _ => h.links.promoted trivial⟩
  passes := by
    intro _ passId pass id endpoint hpass
    rw [h.passes passId] at hpass
    cases hpass
  requests := by
    rw [h.requests]
    exact nofun

/-- **Promotions.**  In every interleaving of requests and discoveries the targets are unique, the
target of an endpoint exists, and every promotion that a request is through with is answered once:
an endpoint that was open is promoted the first time and skipped from then on, one that was promoted is
skipped, and so is one that is none of the discovery's.  While the deletions of all targets are calm,
an endpoint with a target is promoted. -/
theorem promotion_links {s₀ : LinkSystem} (hstart : s₀.Start) :
    (∀ as s, Run (linkStep backend) anyStep s₀ as s →
      TargetsUnique s.store ∧
      (∀ id row targetId, s.store.endpoints.find? id = some row → row.target = some targetId →
        ∃ target, s.store.targets.find? targetId = some target) ∧
      ∀ request ∈ s.requests, request.Answered) ∧
    ∀ as s, Run (linkStep backend) CalmDeletion s₀ as s →
      ∀ id row targetId, s.store.endpoints.find? id = some row → row.target = some targetId →
        row.promoted = true := by
  constructor
  · intro as s hrun
    have hsound : s.Sound False :=
      hrun.invariant (fun _ _ _ h _ hstep => linkStep_sound h nofun hstep) hstart.sound
    exact ⟨hsound.links.unique, hsound.links.resolves,
      fun request hrequest => (hsound.requests request hrequest).toAnswered⟩
  · intro as s hrun
    have hsound : s.Sound True :=
      hrun.invariant (fun _ _ _ h hguard hstep => linkStep_sound h (fun _ => hguard) hstep)
        hstart.sound
    exact hsound.links.promoted trivial

end Runs

def webTriple : Triple := ⟨"10.0.0.5".toList, 443, .tcp⟩

def linkedStore : EndpointStore where
  endpoints := ⟨[
    some ⟨⟨1, some 0, true⟩, webTriple, [], [], []⟩,
    some ⟨⟨1, none, false⟩, ⟨"10.0.0.6".toList, 22, .tcp⟩, [], [], []⟩]⟩
  targets := ⟨[some
    { host := "10.0.0.5"
      displayName := none
      ip := none
      port := 443
      protocolHint := .tls
      sni := none
      transport := .tcp
      agentEnabled := false
      agentUrl := none
      context := { field := RiskEngine.emptyContext } }]⟩

theorem linkedStore_start : LinkSystem.Start { store := linkedStore } where
  links := by
    refine ⟨?_, ?_, ?_⟩
    · intro id id' target target' htarget htarget' _
      have hone := Table.lt_nextId htarget
      have hone' := Table.lt_nextId htarget'
      change id < 1 at hone
      change id' < 1 at hone'
      omega
    · intro id row targetId hrow hlinked
      have htwo := Table.lt_nextId hrow
      change id < 2 at htwo
      obtain rfl | rfl : id = 0 ∨ id = 1 := by omega
      · cases hrow
        cases hlinked
        exact ⟨_, rfl⟩
      · cases hrow
        cases hlinked
    · intro _ id row targetId hrow hlinked
      have htwo := Table.lt_nextId hrow
      change id < 2 at htwo
      obtain rfl | rfl : id = 0 ∨ id = 1 := by omega
      · cases hrow
        rfl
      · cases hrow
        cases hlinked
  requests := rfl
  passes _ := rfl

/-- The discovery finds the first endpoint again, and all targets are deleted in between. -/
def deletedDuringPass : List LinkAction :=
  [.read 1 ⟨webTriple, [], [], []⟩, .saveRow 0, .deleteOthers 0, .deleteScanTargets,
    .getPassTarget 0, .saveLink 0]

/-- Promoting the open endpoint twice, the other one and one that is missing. -/
def promotedTwice : List LinkAction :=
  [.promote 1 (some .completed)
      [⟨1, "10.0.0.6".toList, .ssh, none, false⟩, ⟨1, "ssh".toList, .ssh, none, false⟩,
        ⟨0, "web".toList, .tls, none, false⟩, ⟨9, "web".toList, .tls, none, false⟩],
    .getTarget 0, .savePromoted 0, .skip 0, .skip 0, .skip 0]

theorem linkedStore_promotions : letI := asciiText
    (∃ s, Run (linkStep takesAll) CalmDeletion { store := linkedStore } promotedTwice s ∧
      (∃ request ∈ s.requests, request.Answered ∧ request.promoted = [(1, 1)] ∧
        request.skipped = [(1, .alreadyPromoted), (0, .alreadyPromoted), (9, .endpointNotFound)]) ∧
      ∀ id row targetId, s.store.endpoints.find? id = some row → row.target = some targetId →
        row.promoted = true) ∧
    ∃ s row, Run (linkStep takesAll) anyStep { store := linkedStore } deletedDuringPass s ∧
      s.store.endpoints.find? 0 = some row ∧ row.target = some 1 ∧ row.promoted = false := by
  let := asciiText
  have hcalm : ∀ a ∈ promotedTwice, ∀ s, CalmDeletion s a := by
    simp [promotedTwice, CalmDeletion]
  have hrun : Run (linkStep takesAll) CalmDeletion { store := linkedStore } promotedTwice _ :=
    Run.of_runAll_of_forall rfl hcalm
  have hany : Run (linkStep takesAll) anyStep { store := linkedStore } promotedTwice _ :=
    Run.of_runAll rfl
  refine ⟨⟨_, hrun, ?_, (promotion_links linkedStore_start).2 _ _ hrun⟩, ?_⟩
  · exact ⟨_, List.mem_cons_self, ((promotion_links linkedStore_start).1 _ _ hany).2.2 _
      List.mem_cons_self, rfl, rfl⟩
  · exact ⟨_, _, Run.of_runAll rfl, rfl, rfl, rfl⟩

end CryptoScanner.Discoveries
