import CryptoScanner.Discoveries.Endpoints
import CryptoScanner.Library.Transition

/-!
# Promoting endpoints

`promote_discovery_endpoints` works on rows that it has read once, without a transaction; meanwhile a
discovery stores and promotes its endpoints, and targets are created, saved and deleted.  Every
statement on the database is a step of its own here, and a request or a pass of the discovery that
raises takes no further step.
-/

namespace CryptoScanner.Discoveries

open Library Python RiskEngine

/-! ## 1. The request -/

/-- `DiscoveryPromotionPayload`; a context is dumped with all of its fields. -/
structure DiscoveryPromotionPayload where
  endpointId : Id
  host : List Char
  protocolHint : ProtocolHint
  context : Option Context
  agentEnabled : Bool

inductive SkipReason
  | endpointNotFound
  | alreadyPromoted
  deriving DecidableEq, Repr

structure PromoteRequest where
  payload : List DiscoveryPromotionPayload
  /-- The rows as they were read. -/
  loaded : Id → Option EndpointRow
  /-- The objects that the loop changes. -/
  endpoints : Id → Option EndpointRow
  next : Nat := 0
  /-- The target of the promotion that is not saved yet. -/
  target : Option Id := none
  promoted : List (Id × Id) := []
  skipped : List (Id × SkipReason) := []

def PromoteRequest.done (request : PromoteRequest) : List Id :=
  (request.payload.take request.next).map (·.endpointId)

def loadEndpoints (store : EndpointStore) (discovery : Id)
    (payload : List DiscoveryPromotionPayload) (id : Id) : Option EndpointRow :=
  if id ∈ payload.map (·.endpointId) then
    (store.endpoints.find? id).filter (·.discovery == discovery)
  else none

/-- The defaults of `get_or_create`, with those of the columns it leaves out. -/
def promotionTarget (promotion : DiscoveryPromotionPayload) (endpoint : EndpointRow) : Target where
  host := String.ofList promotion.host
  displayName := none
  ip := none
  port := endpoint.triple.port
  protocolHint := promotion.protocolHint
  sni := none
  transport := endpoint.triple.transport
  agentEnabled := promotion.agentEnabled
  agentUrl := none
  context := { field := promotion.context.getD emptyContext }

/-- `Target.objects.get_or_create`; `none` is more than one row. -/
def EndpointStore.getOrCreate (store : EndpointStore) (target : Target) :
    Option (Id × EndpointStore) :=
  match store.targetIds (targetTriple target) with
  | [targetId] => some (targetId, store)
  | [] => some (store.targets.nextId, { store with targets := store.targets.insert target })
  | _ => none

/-- `continue` with a reason. -/
def PromoteRequest.skip (request : PromoteRequest) (id : Id) (reason : SkipReason) :
    PromoteRequest :=
  { request with next := request.next + 1, skipped := request.skipped ++ [(id, reason)] }

def PromoteRequest.finish (request : PromoteRequest) (id targetId : Id) : PromoteRequest :=
  { request with
    endpoints := Function.update request.endpoints id ((request.endpoints id).map fun row =>
      { row with target := some targetId, promoted := true })
    next := request.next + 1
    target := none
    promoted := request.promoted ++ [(id, targetId)] }

/-! ## 2. A pass of `upsert_discovered_endpoints` -/

/-- How far the body of the loop is, with the endpoint object where there is one. -/
inductive PassStage
  | read (existing : Option (Id × EndpointRow))
  | columnsSaved (id : Id) (endpoint : EndpointRow)
  | rowSaved (id : Id) (endpoint : EndpointRow)
  | targetGot (id : Id) (endpoint : EndpointRow) (targetId : Id)

def PassStage.endpoint : PassStage → Option (Id × EndpointRow)
  | .read existing => existing
  | .columnsSaved id endpoint => some (id, endpoint)
  | .rowSaved id endpoint => some (id, endpoint)
  | .targetGot id endpoint _ => some (id, endpoint)

structure Pass where
  discovery : Id
  record : EndpointRecord
  stage : PassStage

/-- `endpoint.save(update_fields=..)` of `_auto_promote_endpoint`: a field that the object has already
is not saved. -/
def saveLink (endpoint : EndpointRow) (targetId : Id) (row : EndpointRow) : EndpointRow :=
  { row with
    target := if endpoint.target = some targetId then row.target else some targetId
    promoted := if endpoint.promoted then row.promoted else true }

/-! ## 3. The system -/

structure LinkSystem where
  store : EndpointStore
  requests : List PromoteRequest := []
  passes : Table Pass := .empty

inductive LinkAction
  /-- A request to promote, with the status that it reads. -/
  | promote (discovery : Id) (status : Option JobStatus) (payload : List DiscoveryPromotionPayload)
  | skip (request : Nat)
  | getTarget (request : Nat)
  | savePromoted (request : Nat)
  | read (discovery : Id) (record : EndpointRecord)
  | saveRow (pass : Id)
  | deleteOthers (pass : Id)
  | getPassTarget (pass : Id)
  | saveLink (pass : Id)
  /-- The pass raises. -/
  | raise (pass : Id)
  | createTarget (target : Target)
  /-- `target.save()` of a request, with what it has read before. -/
  | saveTarget (targetId : Id) (target : Target)
  | deleteTarget (targetId : Id)
  | deleteScanTargets

/-- `on_delete=SET_NULL` -/
def unlink (endpoints : Table EndpointRow) (targetId : Id) : Table EndpointRow :=
  endpoints.updateWhere (fun _ row => row.target == some targetId) fun row =>
    { row with target := none }

/-- The transaction of `delete_scan_targets`: no endpoint has a target after the first statement. -/
def deleteScanTargets (store : EndpointStore) : EndpointStore where
  targets := (store.targets.ids fun _ => true).foldl Table.delete store.targets
  endpoints := (store.endpoints.updateWhere (fun _ _ => true) fun row =>
    { row with target := none }).updateWhere (fun _ row => row.target.isNone && row.promoted)
      fun row => { row with promoted := false }

section Step

variable [PyText] (backend : Backend)

/-- One statement; `none` where it is not enabled or raises. -/
def linkStep (s : LinkSystem) : LinkAction → Option LinkSystem
  | .promote discovery status payload =>
      match status with
      | none => none
      | some status =>
          if status = .cancelled ∨ payload = [] then none
          else
            let endpoints := loadEndpoints s.store discovery payload
            some { s with requests := s.requests ++ [{ payload, loaded := endpoints, endpoints }] }
  | .skip index => do
      let request ← s.requests[index]?
      let promotion ← request.payload[request.next]?
      match request.endpoints promotion.endpointId with
      | none =>
          return { s with
            requests := s.requests.set index (request.skip promotion.endpointId .endpointNotFound) }
      | some endpoint =>
          if endpoint.promoted then
            return { s with
              requests := s.requests.set index (request.skip promotion.endpointId .alreadyPromoted) }
          else none
  | .getTarget index => do
      let request ← s.requests[index]?
      let promotion ← request.payload[request.next]?
      let endpoint ← request.endpoints promotion.endpointId
      if endpoint.promoted ∨ request.target.isSome then none
      else
        let (targetId, store) ← s.store.getOrCreate (promotionTarget promotion endpoint)
        return { s with
          store
          requests := s.requests.set index { request with target := some targetId } }
  | .savePromoted index => do
      let request ← s.requests[index]?
      let promotion ← request.payload[request.next]?
      let targetId ← request.target
      let _ ← s.store.endpoints.find? promotion.endpointId
      let _ ← s.store.targets.find? targetId
      return { s with
        store := { s.store with
          endpoints := s.store.endpoints.modify promotion.endpointId fun row =>
            { row with target := some targetId, promoted := true } }
        requests := s.requests.set index (request.finish promotion.endpointId targetId) }
  | .read discovery record =>
      let existing := (s.store.endpointIds discovery record.triple).head?.bind fun id =>
        (s.store.endpoints.find? id).map fun row => (id, row)
      some { s with passes := s.passes.insert { discovery, record, stage := .read existing } }
  | .saveRow passId => do
      let pass ← s.passes.find? passId
      match pass.stage with
      | .read (some (id, endpoint)) =>
          let _ ← s.store.endpoints.find? id
          return { s with
            store := { s.store with endpoints := s.store.endpoints.modify id pass.record.update }
            passes := s.passes.modify passId fun pass =>
              { pass with stage := .columnsSaved id (pass.record.update endpoint) } }
      | .read none =>
          let endpoint := pass.record.create pass.discovery
          return { s with
            store := { s.store with endpoints := s.store.endpoints.insert endpoint }
            passes := s.passes.modify passId fun pass =>
              { pass with stage := .rowSaved s.store.endpoints.nextId endpoint } }
      | _ => none
  | .deleteOthers passId => do
      let pass ← s.passes.find? passId
      match pass.stage with
      | .columnsSaved id endpoint =>
          let others := (s.store.endpointIds pass.discovery pass.record.triple).filter (· ≠ id)
          return { s with
            store := { s.store with endpoints := deleteEndpoints s.store.endpoints others }
            passes := s.passes.modify passId fun pass =>
              { pass with stage := .rowSaved id endpoint } }
      | _ => none
  | .getPassTarget passId => do
      let pass ← s.passes.find? passId
      match pass.stage with
      | .rowSaved id endpoint =>
          match getOrCreateTarget backend pass.record s.store with
          | .error _ => none
          | .ok (targetId, store) =>
              return { s with
                store
                passes := s.passes.modify passId fun pass =>
                  { pass with stage := .targetGot id endpoint targetId } }
      | _ => none
  | .saveLink passId => do
      let pass ← s.passes.find? passId
      match pass.stage with
      | .targetGot id endpoint targetId =>
          if endpoint.target = some targetId ∧ endpoint.promoted then
            return { s with passes := s.passes.delete passId }
          else
            let _ ← s.store.endpoints.find? id
            let _ ← s.store.targets.find? targetId
            return { s with
              store := { s.store with
                endpoints := s.store.endpoints.modify id (Discoveries.saveLink endpoint targetId) }
              passes := s.passes.delete passId }
      | _ => none
  | .raise passId => some { s with passes := s.passes.delete passId }
  | .createTarget target =>
      if s.store.targetIds (targetTriple target) = [] then
        some { s with store := { s.store with targets := s.store.targets.insert target } }
      else none
  | .saveTarget targetId target =>
      if s.store.targets.nextId ≤ targetId then none
      else if (s.store.targetIds (targetTriple target)).any (· ≠ targetId) then none
      else
        -- a row that was deleted after the request has read it is inserted again
        some { s with
          store := { s.store with targets := s.store.targets.put targetId target } }
  | .deleteTarget targetId => do
      let _ ← s.store.targets.find? targetId
      return { s with
        store :=
          { endpoints := unlink s.store.endpoints targetId
            targets := s.store.targets.delete targetId } }
  | .deleteScanTargets => some { s with store := deleteScanTargets s.store }

end Step

end CryptoScanner.Discoveries
