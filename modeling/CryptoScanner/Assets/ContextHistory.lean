import CryptoScanner.Risk.FreshScores

/-!
# The context of an asset and the history of its patches

What `override_to_dict`, `effective_context` and `context_sources` return is read off nullable columns
and a list of keys.  The history says the same in its own terms: the last patch that sends a field
decides whether and how the asset overrides it.
-/

namespace CryptoScanner.Assets

open Library Python RiskEngine Risk

/-! ## 1. The history of an asset -/

def patchesOf (assetId : Id) (as : List (Operation × Time)) : List AssetContextPatch :=
  as.filterMap fun a =>
    match a.1 with
    | .patchContext id patch => if id = assetId then some patch else none
    | _ => none

/-- The value of the last patch that sends the field; there is none after a null. -/
def lastOverride (patches : List AssetContextPatch) : Context := fun field =>
  (patches.filterMap fun patch => patch field).getLast?.join

def patchOverrides (patch : AssetContextPatch) (overrides : Context) : Context := fun field =>
  (patch field).getD (overrides field)

/-- `override_keys`; an asset without a row has none. -/
def overrideKeys (override : Option AssetContextOverride) : List ContextField :=
  (override.map AssetContextOverride.overrideKeys).getD []

/-- Field by field, the last patch that sends it decides. -/
theorem foldl_patchOverrides (patches : List AssetContextPatch) (overrides : Context)
    (field : ContextField) :
    patches.foldl (fun overrides patch => patchOverrides patch overrides) overrides field =
      ((patches.filterMap fun patch => patch field).getLast?).getD (overrides field) := by
  induction patches generalizing overrides with
  | nil => rfl
  | cons patch patches ih =>
      rw [List.foldl_cons, ih, List.filterMap_cons]
      unfold patchOverrides
      cases patch field with
      | none => rfl
      | some value =>
          cases hrest : (patches.filterMap fun patch => patch field).getLast? with
          | none =>
              rw [List.getLast?_eq_none_iff] at hrest
              simp only [hrest, List.getLast?_singleton, Option.getD_some, Option.getD_none]
          | some last => simp only [List.getLast?_cons, hrest, Option.getD_some]

theorem foldl_patchOverrides_empty (patches : List AssetContextPatch) :
    patches.foldl (fun overrides patch => patchOverrides patch overrides) emptyContext =
      lastOverride patches := by
  funext field
  rw [foldl_patchOverrides, lastOverride]
  cases (patches.filterMap fun patch => patch field).getLast? <;> rfl

/-! ## 2. The row of an asset -/

/-- The row says that the asset overrides exactly the values of `overrides`. -/
def Stands (override : Option AssetContextOverride) (overrides : Context) : Prop :=
  match override with
  | none => overrides = emptyContext
  | some row => row.Listed ∧ row.value = overrides

theorem Stands.overrideToDict {override : Option AssetContextOverride} {overrides : Context}
    (h : Stands override overrides) : overrideToDict override = overrides := by
  cases override with
  | none => exact h.symm
  | some row => rw [overrideToDict_of_listed h.1, h.2]

theorem Stands.mem_overrideKeys {override : Option AssetContextOverride} {overrides : Context}
    (h : Stands override overrides) (field : ContextField) :
    field ∈ overrideKeys override ↔ (overrides field).isSome = true := by
  cases override with
  | none =>
      rw [show overrides = emptyContext from h]
      simp [overrideKeys, emptyContext]
  | some row =>
      show field ∈ row.overrideKeys ↔ _
      rw [h.1 field, h.2]

theorem overrideOf_saveOverride_self (db : Database) (assetId : Id) (patch : AssetContextPatch) :
    overrideOf (saveOverride db assetId patch) assetId =
      some (applyPatch patch ((overrideOf db assetId).getD (.blank assetId))) := by
  unfold overrideOf saveOverride
  cases hfound : db.overrides.first? (fun row => row.asset == assetId) with
  | none =>
      have hpatched : ((applyPatch patch (.blank assetId)).asset == assetId) = true := by
        rw [applyPatch_asset]
        exact beq_iff_eq.mpr (save_asset _)
      have hnone : db.overrides.ids (fun row => row.asset == assetId) = [] :=
        List.head?_eq_none_iff.mp hfound
      have hids := Table.ids_insert db.overrides (applyPatch patch (.blank assetId))
        fun row => row.asset == assetId
      rw [hpatched, if_pos rfl, hnone, List.nil_append] at hids
      show ((Table.first? _ _).bind _) = _
      rw [Table.first?, hids, List.head?_cons, Option.bind_some, Table.find?_insert_self]
      rfl
  | some found =>
      obtain ⟨row, hrow, _⟩ := Table.first?_eq_some hfound
      have hids := Table.ids_modify db.overrides found (applyPatch patch)
        (fun row => row.asset == assetId) fun row' _ => by rw [applyPatch_asset]
      show ((Table.first? _ _).bind _) = _
      rw [Table.first?, hids, ← Table.first?, hfound, Option.bind_some, Option.bind_some,
        Table.find?_modify_self, hrow]
      rfl

theorem stands_applyPatch {override : Option AssetContextOverride} {overrides : Context}
    (h : Stands override overrides) (assetId : Id) (patch : AssetContextPatch) :
    Stands (some (applyPatch patch (override.getD (.blank assetId))))
      (patchOverrides patch overrides) := by
  have hrow : (override.getD (.blank assetId)).Listed ∧
      (override.getD (.blank assetId)).value = overrides := by
    cases override with
    | none =>
        refine ⟨blank_listed assetId, ?_⟩
        rw [show overrides = emptyContext from h]
        show (AssetContextOverride.blank assetId).value = emptyContext
        rw [AssetContextOverride.blank, save_value]
    | some row => exact h
  refine ⟨applyPatch_listed patch hrow.1, ?_⟩
  funext field
  rw [applyPatch_value, hrow.2]
  rfl

/-! ## 3. The operations -/

section

variable [PyText] {floatRepr : PyFloat → List Char} {db db' : Database}

omit [PyText] in
theorem overrides_patchTarget {targetId : Id} {patch : Targets.TargetPatch} {now : Time}
    (h : Targets.patchTarget db targetId patch now = some db') : db'.overrides = db.overrides := by
  unfold Targets.patchTarget at h
  rw [Option.bind_eq_bind, Option.bind_eq_some_iff] at h
  obtain ⟨target, _, h⟩ := h
  rcases Targets.savePatch_cases h with ⟨_, rfl⟩ | ⟨_, next, _, rfl⟩
  · rfl
  · split <;> rfl

/-- A scan writes no override, and its own task waits for the end. -/
theorem storeScan_keeps {scanJobId : Id} {candidates : List Scan.AssetCandidate}
    (h : storeScan floatRepr db scanJobId candidates = some db') :
    db'.overrides = db.overrides ∧ db'.tasks = db.tasks := by
  have hbody := recomputeSnapshotRisks_rescored (storeScan_eq_some h).2
  exact ⟨hbody.rows.overrides, hbody.tasks⟩

/-- Only the patches of an asset change its override. -/
theorem overrideOf_operationStep {a : Operation × Time}
    (h : operationStep floatRepr db a = some db') (assetId : Id) :
    overrideOf db' assetId =
      match patchesOf assetId [a] with
      | patch :: _ => some (applyPatch patch ((overrideOf db assetId).getD (.blank assetId)))
      | [] => overrideOf db assetId := by
  obtain ⟨operation, now⟩ := a
  cases operation with
  | createTarget payload =>
      apply overrideOf_congr
      simp only [operationStep, Targets.createTarget] at h
      split at h
      · cases h
      · cases h
        rfl
  | patchTarget targetId patch => exact overrideOf_congr (overrides_patchTarget h) assetId
  | deleteTarget targetId =>
      apply overrideOf_congr
      simp only [operationStep, Targets.deleteTarget, Option.bind_eq_bind,
        Option.bind_eq_some_iff] at h
      obtain ⟨target, _, h⟩ := h
      cases h
      rfl
  | patchContext id patch =>
      simp only [operationStep, patchAssetContext] at h
      split at h
      · cases h
      · cases h
        -- the job that the patch enqueues writes no override
        have hjob := (createRecomputeJob_apart (saveOverride db id patch) (assetRecompute id)
          now).1.rows.overrides
        rw [overrideOf_congr hjob]
        by_cases heq : id = assetId
        · have hpatches : patchesOf assetId [(.patchContext id patch, now)] = [patch] := by
            simp [patchesOf, heq]
          rw [hpatches, heq]
          exact overrideOf_saveOverride_self db assetId patch
        · have hpatches : patchesOf assetId [(.patchContext id patch, now)] = [] := by
            simp [patchesOf, heq]
          rw [hpatches]
          exact overrideOf_saveOverride (Ne.symm heq)
  | createRecomputeJob request =>
      cases h
      exact overrideOf_congr (createRecomputeJob_apart db request now).1.rows.overrides assetId
  | createScanJob targetIds scanners =>
      cases h
      exact overrideOf_congr (createScanJob_apart db targetIds scanners now).rows.overrides assetId
  | startScan taskId => exact overrideOf_congr (startScan_apart h).rows.overrides assetId
  | infer targetId loaded inference =>
      cases h
      rfl
  | finishScan taskId candidates result =>
      simp only [operationStep, Option.bind_eq_bind, Option.bind_eq_some_iff] at h
      obtain ⟨task, hfound, h⟩ := h
      split at h
      · rename_i hpayload _
        rw [Option.bind_eq_some_iff] at h
        obtain ⟨stored, hstored, h⟩ := h
        -- storing the results touches neither overrides nor tasks, so the task is found as it was
        obtain ⟨hoverrides, htasks⟩ := storeScan_keeps hstored
        rw [← htasks] at hfound
        have hdone := completeScanJobTask_apart hfound hpayload (toOption_eq_some.mp h)
        apply overrideOf_congr
        rw [hdone.rows.overrides, hoverrides]
      · cases h
  | startRecompute taskId => exact overrideOf_congr (startRecompute_apart h).rows.overrides assetId
  | finishRecompute taskId result =>
      simp only [operationStep, Option.bind_eq_bind, Option.bind_eq_some_iff] at h
      obtain ⟨task, hfound, h⟩ := h
      split at h
      · rename_i hpayload _
        rw [Option.bind_eq_some_iff] at h
        obtain ⟨scored, hscored, h⟩ := h
        apply overrideOf_congr
        rw [(completeRecomputeTask_rows (toOption_eq_some.mp h)).1.overrides,
          (runRecomputePayload_rescored (toOption_eq_some.mp hscored)).rows.overrides]
      · cases h

/-! ## 4. Runs -/

omit [PyText] in
theorem patchesOf_cons (assetId : Id) (a : Operation × Time) (as : List (Operation × Time)) :
    patchesOf assetId (a :: as) = patchesOf assetId [a] ++ patchesOf assetId as := by
  rw [← List.singleton_append, patchesOf, List.filterMap_append]
  rfl

/-- The override of an asset after a run is what its patches made of the one before. -/
theorem stands_of_run {as : List (Operation × Time)} {assetId : Id} {overrides : Context}
    (hrun : Run (operationStep floatRepr) anyStep db as db')
    (h : Stands (overrideOf db assetId) overrides) :
    Stands (overrideOf db' assetId) ((patchesOf assetId as).foldl
      (fun overrides patch => patchOverrides patch overrides) overrides) := by
  induction hrun generalizing overrides with
  | nil => exact h
  | @cons s t u a as _ hstep _ ih =>
      have hoverride := overrideOf_operationStep hstep assetId
      rw [patchesOf_cons, List.foldl_append]
      apply ih
      cases hpatches : patchesOf assetId [a] with
      | nil =>
          rw [hpatches] at hoverride
          rw [hoverride]
          exact h
      | cons patch rest =>
          rw [hpatches] at hoverride
          have hrest : rest = [] := by
            have hlength : (patchesOf assetId [a]).length ≤ 1 := List.length_filterMap_le _ _
            rw [hpatches, List.length_cons] at hlength
            exact List.length_eq_zero_iff.mp (by omega)
          rw [hoverride, hrest]
          exact stands_applyPatch h assetId patch

end

/-- What the API says of the context of an asset, in terms of its patches and its target. -/
structure FollowsHistory (db : Database) (assetId : Id) (patches : List AssetContextPatch)
    (target : Option Target) : Prop where
  effective : ∀ field, effectiveContext target (overrideOf db assetId) field =
    (lastOverride patches field).or (targetContext target field)
  sources : ∀ field, contextSources target (overrideOf db assetId) field =
    if (lastOverride patches field).isSome then .assetOverride
    else if (targetContext target field).isSome then .target else .heuristic
  keys : ∀ field, field ∈ overrideKeys (overrideOf db assetId) ↔
    (lastOverride patches field).isSome = true

def currentTarget (db : Database) (assetId : Id) : Option Target :=
  (db.assets.find? assetId).bind (targetOf db)

/-- **The context of an asset is what its history says**, after any run of requests and scans from
where the asset has no override. -/
theorem followsHistory_of_run [PyText] {floatRepr : PyFloat → List Char} {db db' : Database}
    {as : List (Operation × Time)} {assetId : Id} (hstart : overrideOf db assetId = none)
    (hrun : Run (operationStep floatRepr) anyStep db as db') :
    FollowsHistory db' assetId (patchesOf assetId as) (currentTarget db' assetId) := by
  have hempty : Stands (overrideOf db assetId) emptyContext := by
    rw [hstart]
    rfl
  have hstands := stands_of_run hrun hempty
  rw [foldl_patchOverrides_empty] at hstands
  refine ⟨?_, ?_, fun field => hstands.mem_overrideKeys field⟩
  · intro field
    rw [effectiveContext, hstands.overrideToDict]
    cases lastOverride (patchesOf assetId as) field <;> rfl
  · intro field
    rw [contextSources, hstands.overrideToDict]

/-- An operator overrides the lifespan with 0, changes the target and gives the lifespan back. -/
def lifespanHistory : List (Operation × Time) :=
  [(.patchContext 0 fun
      | .lifespanYears => some (some (0 : Nat))
      | _ => none, 5),
    (.patchTarget 0 { context := some fun
      | .lifespanYears => some (some (7 : Nat))
      | .serviceRole => some (some [])
      | _ => none }, 6),
    (.patchContext 0 fun
      | .lifespanYears => some none
      | .sensitivity => some (some "high".toList)
      | _ => none, 7)]

theorem lifespanHistory_follows : letI := asciiText
    ∃ db, Run (operationStep fun _ => []) anyStep {} (firstScan ++ lifespanHistory) db ∧
      FollowsHistory db 0 (patchesOf 0 (firstScan ++ lifespanHistory)) (currentTarget db 0) := by
  let := asciiText
  have hsome : (runAll (operationStep fun _ => []) {} (firstScan ++ lifespanHistory)).isSome := by
    decide +kernel
  obtain ⟨db, hdb⟩ := Option.isSome_iff_exists.mp hsome
  have hrun := Run.of_runAll hdb
  exact ⟨db, hrun, followsHistory_of_run rfl hrun⟩

end CryptoScanner.Assets
