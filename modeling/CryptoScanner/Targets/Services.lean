import CryptoScanner.Jobs.Services
import CryptoScanner.Library.Dict

/-!
# Targets

`apps/targets/api.py`, and what homepage inference makes of the context of a target.
-/

namespace CryptoScanner.Targets

open Library Python RiskEngine

/-! ## 1. `PATCH /targets/{target_id}` -/

/-- The context of a payload dumped with `exclude_unset`; a field that is sent may be null. -/
abbrev TargetContextPatch := (field : ContextField) → Option (Option field.Value)

/-- A `TargetPatchPayload` dumped with `exclude_unset`, with `display_name` stripped.  A null `context`
is as good as none. -/
structure TargetPatch where
  host : Option (Option String) := none
  displayName : Option (Option String) := none
  ip : Option (Option IpAddress) := none
  port : Option (Option Nat) := none
  protocolHint : Option (Option ProtocolHint) := none
  sni : Option (Option String) := none
  transport : Option (Option Transport) := none
  agentEnabled : Option (Option Bool) := none
  agentUrl : Option (Option String) := none
  context : Option TargetContextPatch := none

def TargetPatch.sendsColumns (patch : TargetPatch) : Bool :=
  patch.host.isSome || patch.displayName.isSome || patch.ip.isSome || patch.port.isSome ||
    patch.protocolHint.isSome || patch.sni.isSome || patch.transport.isSome ||
    patch.agentEnabled.isSome || patch.agentUrl.isSome

def mergeContext (patch : TargetContextPatch) (previous : TargetContext) : TargetContext :=
  { previous with field := fun field => (patch field).getD (previous.field field) }

/-- The context that the request gives to the target it has read. -/
def TargetPatch.nextContext (patch : TargetPatch) (target : Target) : TargetContext :=
  match patch.context with
  | none => target.context
  | some context => mergeContext context target.context

def TargetPatch.changesContext (patch : TargetPatch) (target : Target) : Bool :=
  decide (patch.nextContext target ≠ target.context)

/-- The row that `target.save()` writes; `none` where a column that is not nullable was set to null. -/
def TargetPatch.apply (patch : TargetPatch) (target : Target) : Option Target := do
  let host ← patch.host.getD (some target.host)
  let port ← patch.port.getD (some target.port)
  let protocolHint ← patch.protocolHint.getD (some target.protocolHint)
  let transport ← patch.transport.getD (some target.transport)
  let agentEnabled ← patch.agentEnabled.getD (some target.agentEnabled)
  return {
    host
    displayName := patch.displayName.getD target.displayName
    ip := patch.ip.getD target.ip
    port
    protocolHint
    sni := patch.sni.getD target.sni
    transport
    agentEnabled
    agentUrl := patch.agentUrl.getD target.agentUrl
    context := patch.nextContext target }

/-- `uniq_target_host_port_transport` -/
def sameEndpoint (target other : Target) : Bool :=
  target.host == other.host && target.port == other.port && target.transport == other.transport

def targetRecompute (targetId : Id) : RecomputeRequest :=
  { assetId := none
    targetId := some targetId
    snapshotId := none
    weights := none
    persistWeightsAsDefault := false }

/-- `patch_target` from the point where it has read the row; `none` is an exception, which rolls the
transaction back. -/
def savePatch (db : Database) (targetId : Id) (read : Target) (patch : TargetPatch) (now : Time) :
    Option Database :=
  if ¬ patch.sendsColumns ∧ ¬ patch.changesContext read then some db
  else do
    let target ← patch.apply read
    if (db.targets.ids (sameEndpoint target)).any (· != targetId) then none
    else
      let saved := { db with targets := db.targets.modify targetId fun _ => target }
      if patch.changesContext read then
        some (Jobs.createRecomputeJob saved (targetRecompute targetId) now)
      else some saved

theorem savePatch_cases {db db' : Database} {targetId : Id} {read : Target} {patch : TargetPatch}
    {now : Time} (h : savePatch db targetId read patch now = some db') :
    ((¬ patch.sendsColumns = true ∧ ¬ patch.changesContext read = true) ∧ db' = db) ∨
      ((patch.sendsColumns = true ∨ patch.changesContext read = true) ∧ ∃ target,
        patch.apply read = some target ∧
        db' = if patch.changesContext read then
            Jobs.createRecomputeJob { db with targets := db.targets.modify targetId fun _ => target }
              (targetRecompute targetId) now
          else { db with targets := db.targets.modify targetId fun _ => target }) := by
  unfold savePatch at h
  split at h
  · rename_i hidle
    cases h
    exact .inl ⟨hidle, rfl⟩
  · rename_i hbusy
    rw [Option.bind_eq_bind, Option.bind_eq_some_iff] at h
    obtain ⟨target, htarget, h⟩ := h
    right
    refine ⟨by tauto, target, htarget, ?_⟩
    split at h
    · cases h
    · split at h <;> cases h <;> simp_all

def patchTarget (db : Database) (targetId : Id) (patch : TargetPatch) (now : Time) :
    Option Database := do
  let target ← db.targets.find? targetId
  savePatch db targetId target patch now

/-! ## 2. `POST /targets` and `DELETE /targets/{target_id}` -/

/-- `create_target`; `none` is the conflict with a row of the same endpoint. -/
def createTarget (db : Database) (payload : Target) : Option Database :=
  if (db.targets.first? (sameEndpoint payload)).isSome then none
  else some { db with targets := db.targets.insert { payload with
    context := { field := payload.context.field } } }

/-- `delete_target`; the foreign keys to the row are set to null. -/
def deleteTarget (db : Database) (targetId : Id) : Option Database := do
  let _ ← db.targets.find? targetId
  return { db with
    targets := db.targets.delete targetId
    assets := db.assets.updateWhere (fun _ asset => asset.target == some targetId)
      fun asset => { asset with target := none }
    endpoints := db.endpoints.updateWhere (fun _ endpoint => endpoint.target == some targetId)
      fun endpoint => { endpoint with target := none } }

/-! ## 3. Homepage inference -/

/-- What `infer_homepage_context` returns. -/
structure HomepageInference where
  field : Context
  evidence : Option (List (String × Json))

def ContextField.name : ContextField → String
  | .sensitivity => "sensitivity"
  | .lifespanYears => "lifespan_years"
  | .criticality => "criticality"
  | .exposure => "exposure"
  | .serviceRole => "service_role"

def appliedFields (current : TargetContext) (inference : HomepageInference) : List ContextField :=
  contextFields.filter fun field =>
    (inference.field field).isSome && (current.field field).isNone

/-- `{**evidence, "applied_fields": applied_fields}`, where it is not the evidence stored already. -/
def newEvidence (current : TargetContext) (inference : HomepageInference) : Option Json :=
  match inference.evidence with
  | none => none
  | some evidence =>
      let next : Json := .dict (Dict.set "applied_fields"
        (.list ((appliedFields current inference).map fun field => .str (ContextField.name field)))
        evidence)
      if (current.homepageInference.getD .null).pyEq next then none else some next

/-- The context that the inference makes of `current`. -/
def inferredContext (current : TargetContext) (inference : HomepageInference) : TargetContext where
  field field :=
    match current.field field with
    | some value => some value
    | none => inference.field field
  homepageInference := (newEvidence current inference).or current.homepageInference

/-- `changed` -/
def infers (current : TargetContext) (inference : HomepageInference) : Bool :=
  !(appliedFields current inference).isEmpty || (newEvidence current inference).isSome

/-- `_apply_homepage_context_inference` on a target whose context was `loaded` when the scan read it:
the table of targets, and the context the scan goes on with. -/
def applyHomepageContextInference (targets : Table Target) (targetId : Id) (loaded : TargetContext)
    (inference : Option HomepageInference) : Table Target × TargetContext :=
  match inference with
  | none => (targets, loaded)
  | some inference =>
      let current := inferredContext loaded inference
      if infers loaded inference then
        (targets.modify targetId fun target => { target with context := current }, current)
      else (targets, loaded)

end CryptoScanner.Targets
