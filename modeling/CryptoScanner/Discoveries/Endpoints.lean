import CryptoScanner.Models
import CryptoScanner.Python.IpText

/-!
# Storing discovered endpoints

`upsert_discovered_endpoints` goes through the records that an agent or a probe has returned.  Each
valid one becomes one row of the discovery, and its row is promoted to a target.  There is no
transaction around the loop, so an exception leaves what the records before it have written.
-/

namespace CryptoScanner.Discoveries

open Library Python RiskEngine

/-! ## 1. The rows -/

structure Triple where
  host : List Char
  port : Nat
  transport : Transport
  deriving DecidableEq, Repr

structure EndpointRow extends DiscoveredEndpoint where
  triple : Triple
  detectedProtocol : List Char
  suggestedProtocolHint : List Char
  availabilityMetrics : List (String × Json)
  deriving DecidableEq, Repr

def targetTriple (target : Target) : Triple :=
  ⟨target.host.toList, target.port, target.transport⟩

structure EndpointStore where
  endpoints : Table EndpointRow := .empty
  targets : Table Target := .empty

structure EndpointRecord where
  triple : Triple
  detectedProtocol : List Char
  suggestedProtocolHint : List Char
  availabilityMetrics : List (String × Json)
  deriving DecidableEq, Repr

inductive UpsertError
  /-- `.get` on a record that is no object. -/
  | attributeError
  | python (error : PyException)
  /-- The database refuses a value. -/
  | database
  | multipleObjects
  deriving DecidableEq, Repr

/-- Which values the database takes: PostgreSQL and SQLite differ in lengths, NUL characters, special
floats and scope ids. -/
structure Backend where
  /-- The host of a new endpoint. -/
  takesHost : List Char → Bool
  /-- The columns of an endpoint that a later record writes again. -/
  takesColumns : EndpointRecord → Bool
  /-- The host of a new target, with the address that it stands for. -/
  takesTarget : List Char → Bool

/-! ## 2. Reading a record -/

def pyOr (a b : Json) : Json := if a.truthy then a else b

def Transport.ofText (text : List Char) : Option Transport :=
  if text = "TCP".toList then some .tcp
  else if text = "UDP".toList then some .udp
  else none

def protocolHintForPort (port : Nat) (transport : Transport) : String :=
  if transport = .udp ∧ (port = 500 ∨ port = 4500) then "IKE"
  else if port = 22 ∨ port = 2222 then "SSH"
  else if port = 25 ∨ port = 465 ∨ port = 587 then "SMTP"
  else if port = 993 then "IMAP"
  else if port = 995 then "POP3"
  else if port ∈ [443, 8443, 8883, 9093, 9443, 15017, 3306, 5000, 5432, 6380, 8200, 9090, 9200] then
    "TLS"
  else "UNKNOWN"

def endpointAvailabilityMetrics (get : String → Json) : List (String × Json) :=
  match pyOr (get "availability_metrics")
      (pyOr (get "performance_metrics") (pyOr (get "performance") (.dict []))) with
  | .dict metrics => metrics
  | _ => []

section Reading

variable [PyText] (floatRepr : PyFloat → List Char) (limits : Limits)

def normalizedProtocolHint (value : List Char) : ProtocolHint :=
  let normalized := upper (if value = [] then "UNKNOWN".toList else value)
  ([.tls, .ssh, .ike, .smtp, .imap, .pop3] : List ProtocolHint).find?
    (fun hint => hint.text = normalized) |>.getD .unknown

/-- The first lines of the loop on the entries of a record: `none` is `continue`. -/
def readEntries (get : String → Json) : Except PyException (Option EndpointRecord) := do
  let host := strip ((pyOr (get "host") (pyOr (get "ip") (.str ""))).pyStr floatRepr)
  let port ← pyInt limits (pyOr (get "port") (.int 0))
  match Transport.ofText (upper ((pyOr (get "transport") (.str "TCP")).pyStr floatRepr)) with
  | none => return none
  | some transport =>
      if host = [] ∨ port < 1 ∨ 65535 < port then return none
      else
        let triple := ⟨host, port.toNat, transport⟩
        return some
          { triple
            detectedProtocol :=
              ((pyOr (get "detected_protocol") (.str "UNKNOWN")).pyStr floatRepr).take 32
            suggestedProtocolHint :=
              ((pyOr (get "suggested_protocol_hint")
                (.str (protocolHintForPort triple.port transport))).pyStr floatRepr).take 16
            availabilityMetrics := endpointAvailabilityMetrics get }

def readRecord : Json → Except UpsertError (Option EndpointRecord)
  | .dict record =>
      (readEntries floatRepr limits fun key => (record.lookup key).getD .null).mapError .python
  | _ => throw .attributeError

def validRecord (record : Json) : Option EndpointRecord :=
  match readRecord floatRepr limits record with
  | .ok found => found
  | .error _ => none

def validRecords (records : List Json) : List EndpointRecord :=
  records.filterMap (validRecord floatRepr limits)

end Reading

/-! ## 3. Writing a row -/

def EndpointStore.endpointIds (store : EndpointStore) (discovery : Id) (triple : Triple) : List Id :=
  store.endpoints.ids fun row => row.discovery = discovery ∧ row.triple = triple

def EndpointStore.targetIds (store : EndpointStore) (triple : Triple) : List Id :=
  store.targets.ids fun target => targetTriple target = triple

def deleteEndpoints (endpoints : Table EndpointRow) (ids : List Id) : Table EndpointRow :=
  ids.foldl Table.delete endpoints

/-- `existing.save(update_fields=[..])` -/
def EndpointRecord.update (record : EndpointRecord) (row : EndpointRow) : EndpointRow :=
  { row with
    detectedProtocol := record.detectedProtocol
    suggestedProtocolHint := record.suggestedProtocolHint
    availabilityMetrics := record.availabilityMetrics }

def EndpointRecord.create (record : EndpointRecord) (discovery : Id) : EndpointRow where
  discovery
  target := none
  promoted := false
  triple := record.triple
  detectedProtocol := record.detectedProtocol
  suggestedProtocolHint := record.suggestedProtocolHint
  availabilityMetrics := record.availabilityMetrics

/-- The row for the record and its id: the first one that exists, without its duplicates, or a new
one.  `none` is a value that the database refuses. -/
def saveEndpoint (backend : Backend) (discovery : Id) (record : EndpointRecord)
    (store : EndpointStore) : Option (Id × EndpointStore) :=
  match store.endpointIds discovery record.triple with
  | id :: duplicates =>
      if backend.takesColumns record then
        some (id, { store with
          endpoints := deleteEndpoints (store.endpoints.modify id record.update) duplicates })
      else none
  | [] =>
      if backend.takesHost record.triple.host ∧ backend.takesColumns record then
        some (store.endpoints.nextId,
          { store with endpoints := store.endpoints.insert (record.create discovery) })
      else none

section Promotion

variable [PyText]

/-- The defaults of `get_or_create`, with those of the columns it leaves out. -/
def promotedTarget (record : EndpointRecord) : Target where
  host := String.ofList record.triple.host
  displayName := none
  ip := ipAddress? record.triple.host
  port := record.triple.port
  protocolHint := normalizedProtocolHint record.suggestedProtocolHint
  sni := none
  transport := record.triple.transport
  agentEnabled := false
  agentUrl := none
  context := { field := emptyContext }

def getOrCreateTarget (backend : Backend) (record : EndpointRecord) (store : EndpointStore) :
    Except UpsertError (Id × EndpointStore) :=
  match store.targetIds record.triple with
  | [targetId] => return (targetId, store)
  | [] =>
      if backend.takesTarget record.triple.host then
        return (store.targets.nextId,
          { store with targets := store.targets.insert (promotedTarget record) })
      else throw .database
  | _ => throw .multipleObjects

/-- `_auto_promote_endpoint`; an exception leaves the store as it was. -/
def autoPromoteEndpoint (backend : Backend) (record : EndpointRecord) (id : Id)
    (store : EndpointStore) : EndpointStore × Option UpsertError :=
  match getOrCreateTarget backend record store with
  | .error error => (store, some error)
  | .ok (targetId, store) =>
      -- a field that is set already is not saved again, which leaves the same row
      ({ store with endpoints := store.endpoints.modify id fun row =>
        { row with target := some targetId, promoted := true } }, none)

def storeRecord (backend : Backend) (discovery : Id) (record : EndpointRecord)
    (store : EndpointStore) : EndpointStore × Option UpsertError :=
  match saveEndpoint backend discovery record store with
  | none => (store, some .database)
  | some (id, store) => autoPromoteEndpoint backend record id store

variable (floatRepr : PyFloat → List Char) (limits : Limits) (backend : Backend) (discovery : Id)

/-- `upsert_discovered_endpoints` from where `saved` records are stored: the store that is reached,
and the number returned or the exception raised. -/
def upsertDiscoveredEndpoints (saved : Nat) :
    List Json → EndpointStore → EndpointStore × Except UpsertError Nat
  | [], store => (store, .ok saved)
  | record :: records, store =>
      match readRecord floatRepr limits record with
      | .error error => (store, .error error)
      | .ok none => upsertDiscoveredEndpoints saved records store
      | .ok (some found) =>
          match storeRecord backend discovery found store with
          | (store, some error) => (store, .error error)
          | (store, none) => upsertDiscoveredEndpoints (saved + 1) records store

end Promotion

/-! ## 4. What a call leaves -/

def TargetsUnique (store : EndpointStore) : Prop :=
  ∀ id id' target target', store.targets.find? id = some target →
    store.targets.find? id' = some target' → targetTriple target = targetTriple target' → id = id'

def RowFor (discovery : Id) (triple : Triple) (row : EndpointRow) : Prop :=
  row.discovery = discovery ∧ row.triple = triple

structure EndpointFor (discovery : Id) (record : EndpointRecord) (store : EndpointStore) (id : Id)
    (row : EndpointRow) (targetId : Id) (target : Target) : Prop where
  found : store.endpoints.find? id = some row
  isFor : RowFor discovery record.triple row
  columns : record.update row = row
  promoted : row.promoted = true
  linked : row.target = some targetId
  targetFound : store.targets.find? targetId = some target
  sameTriple : targetTriple target = record.triple
  only : ∀ id' row', store.endpoints.find? id' = some row' → RowFor discovery record.triple row' →
    id' = id

def HasEndpoint (discovery : Id) (record : EndpointRecord) (store : EndpointStore) : Prop :=
  ∃ id row targetId target, EndpointFor discovery record store id row targetId target

def LastOf (record : EndpointRecord) (records : List EndpointRecord) : Prop :=
  ∃ before after, records = before ++ record :: after ∧
    ∀ other ∈ after, other.triple ≠ record.triple

structure Upserted (discovery : Id) (records : List EndpointRecord) (store store' : EndpointStore) :
    Prop where
  /-- Every triple has one row, with the columns of its last record. -/
  stored : ∀ record ∈ records, ∃ last, LastOf last records ∧ last.triple = record.triple ∧
    HasEndpoint discovery last store'
  unique : TargetsUnique store'
  endpoints : ∀ id row, (∀ record ∈ records, ¬ RowFor discovery record.triple row) →
    (store'.endpoints.find? id = some row ↔ store.endpoints.find? id = some row)
  targets : ∀ id target, (∀ record ∈ records, targetTriple target ≠ record.triple) →
    (store'.targets.find? id = some target ↔ store.targets.find? id = some target)
  kept : ∀ id target, store.targets.find? id = some target →
    store'.targets.find? id = some target

/-! ## 5. One record -/

section Record

variable {discovery : Id} {record : EndpointRecord} {backend : Backend} {id : Id}
  {store store' : EndpointStore}

theorem mem_endpointIds {triple : Triple} : id ∈ store.endpointIds discovery triple ↔
    ∃ row, store.endpoints.find? id = some row ∧ RowFor discovery triple row := by
  rw [EndpointStore.endpointIds, Table.mem_ids]
  simp only [decide_eq_true_eq, RowFor]

theorem mem_targetIds {triple : Triple} : id ∈ store.targetIds triple ↔
    ∃ target, store.targets.find? id = some target ∧ targetTriple target = triple := by
  rw [EndpointStore.targetIds, Table.mem_ids]
  simp only [decide_eq_true_eq]

/-- The row that a record is saved to, and the rows that it leaves alone. -/
structure EndpointSaved (discovery : Id) (record : EndpointRecord) (store : EndpointStore) (id : Id)
    (store' : EndpointStore) : Prop where
  targets : store'.targets = store.targets
  row : ∃ row, store'.endpoints.find? id = some row ∧ RowFor discovery record.triple row ∧
    record.update row = row
  only : ∀ id' row', store'.endpoints.find? id' = some row' → RowFor discovery record.triple row' →
    id' = id
  others : ∀ id' row', ¬ RowFor discovery record.triple row' →
    (store'.endpoints.find? id' = some row' ↔ store.endpoints.find? id' = some row')

/-- Saving to the first of the rows that exist, and deleting the others. -/
theorem endpointSaved_update {duplicates : List Id}
    (hids : store.endpointIds discovery record.triple = id :: duplicates) :
    EndpointSaved discovery record store id { store with
      endpoints := deleteEndpoints (store.endpoints.modify id record.update) duplicates } := by
  have hnodup : (id :: duplicates).Nodup := hids ▸ Table.nodup_ids _ _
  have hnot : id ∉ duplicates := (List.nodup_cons.mp hnodup).1
  have hfind : ∀ k, (deleteEndpoints (store.endpoints.modify id record.update) duplicates).find? k =
      if k ∈ duplicates then none
      else if k = id then (store.endpoints.find? k).map record.update
      else store.endpoints.find? k := by
    intro k
    rw [deleteEndpoints, Table.find?_foldl_delete, Table.find?_modify]
  have hmine : ∀ k, k = id ∨ k ∈ duplicates ↔
      ∃ row, store.endpoints.find? k = some row ∧ RowFor discovery record.triple row := by
    intro k
    rw [← mem_endpointIds, hids, List.mem_cons]
  refine ⟨rfl, ?_, ?_, ?_⟩
  · obtain ⟨row, hrow, hfor⟩ := (hmine id).mp (.inl rfl)
    refine ⟨record.update row, ?_, hfor, rfl⟩
    show (deleteEndpoints _ _).find? id = _
    rw [hfind, if_neg hnot, if_pos rfl, hrow, Option.map_some]
  · intro k row' hrow' hfor
    have hrow : (deleteEndpoints _ _).find? k = some row' := hrow'
    rw [hfind] at hrow
    by_contra hne
    by_cases hdup : k ∈ duplicates
    · rw [if_pos hdup] at hrow
      cases hrow
    · rw [if_neg hdup, if_neg hne] at hrow
      rcases (hmine k).mpr ⟨row', hrow, hfor⟩ with h | h
      · exact hne h
      · exact hdup h
  · intro k row' hnotfor
    show (deleteEndpoints _ _).find? k = some row' ↔ _
    rw [hfind]
    by_cases hrows : k = id ∨ k ∈ duplicates
    · -- the row at `k` was one of the triple before, and still is where it is not deleted
      obtain ⟨row, hrow, hfor⟩ := (hmine k).mp hrows
      constructor
      · intro h
        by_cases hdup : k ∈ duplicates
        · rw [if_pos hdup] at h
          cases h
        · rw [if_neg hdup, if_pos (hrows.resolve_right hdup), hrow] at h
          cases h
          exact absurd hfor hnotfor
      · intro h
        rw [hrow] at h
        cases h
        exact absurd hfor hnotfor
    · rw [not_or] at hrows
      rw [if_neg hrows.2, if_neg hrows.1]

theorem endpointSaved_insert (hids : store.endpointIds discovery record.triple = []) :
    EndpointSaved discovery record store store.endpoints.nextId
      { store with endpoints := store.endpoints.insert (record.create discovery) } := by
  have hnone : ∀ k row, store.endpoints.find? k = some row →
      ¬ RowFor discovery record.triple row := by
    intro k row hrow hfor
    have hmem := mem_endpointIds.mpr ⟨row, hrow, hfor⟩
    rw [hids] at hmem
    cases hmem
  refine ⟨rfl, ⟨record.create discovery, Table.find?_insert_self _ _, ⟨rfl, rfl⟩, rfl⟩, ?_, ?_⟩
  · intro k row' hrow' hfor
    have hrow : (store.endpoints.insert (record.create discovery)).find? k = some row' := hrow'
    rw [Table.find?_insert] at hrow
    by_contra hne
    rw [if_neg hne] at hrow
    exact hnone k row' hrow hfor
  · intro k row' hnotfor
    show (store.endpoints.insert (record.create discovery)).find? k = some row' ↔ _
    rw [Table.find?_insert]
    by_cases heq : k = store.endpoints.nextId
    · rw [if_pos heq, heq, Table.find?_nextId]
      constructor
      · intro h
        cases h
        exact absurd ⟨rfl, rfl⟩ hnotfor
      · exact fun h => nomatch h
    · rw [if_neg heq]

theorem saveEndpoint_saved
    (h : saveEndpoint backend discovery record store = some (id, store')) :
    EndpointSaved discovery record store id store' := by
  unfold saveEndpoint at h
  cases hids : store.endpointIds discovery record.triple with
  | nil =>
      simp only [hids] at h
      split at h
      · cases h
        exact endpointSaved_insert hids
      · cases h
  | cons first duplicates =>
      simp only [hids] at h
      split at h
      · cases h
        exact endpointSaved_update hids
      · cases h

variable [PyText]

/-- The target of the triple, and the targets that are left alone. -/
structure TargetGot (record : EndpointRecord) (store : EndpointStore) (targetId : Id)
    (store' : EndpointStore) : Prop where
  endpoints : store'.endpoints = store.endpoints
  target : ∃ target, store'.targets.find? targetId = some target ∧
    targetTriple target = record.triple
  unique : TargetsUnique store'
  others : ∀ id target, targetTriple target ≠ record.triple →
    (store'.targets.find? id = some target ↔ store.targets.find? id = some target)
  kept : ∀ id target, store.targets.find? id = some target →
    store'.targets.find? id = some target

theorem targetTriple_promotedTarget (record : EndpointRecord) :
    targetTriple (promotedTarget record) = record.triple := by
  show (⟨(String.ofList record.triple.host).toList, _, _⟩ : Triple) = record.triple
  rw [String.toList_ofList]
  rfl

theorem targetGot_insert (hunique : TargetsUnique store)
    (hids : store.targetIds record.triple = []) :
    TargetGot record store store.targets.nextId
      { store with targets := store.targets.insert (promotedTarget record) } := by
  have hnone : ∀ k target, store.targets.find? k = some target →
      targetTriple target ≠ record.triple := by
    intro k target htarget heq
    have hmem := mem_targetIds.mpr ⟨target, htarget, heq⟩
    rw [hids] at hmem
    cases hmem
  have hfind : ∀ k, (store.targets.insert (promotedTarget record)).find? k =
      if k = store.targets.nextId then some (promotedTarget record) else store.targets.find? k :=
    Table.find?_insert _ _
  refine ⟨rfl, ⟨promotedTarget record, Table.find?_insert_self _ _,
    targetTriple_promotedTarget record⟩, ?_, ?_, ?_⟩
  · intro k k' target target' htarget htarget' heq
    have hk : (store.targets.insert (promotedTarget record)).find? k = some target := htarget
    have hk' : (store.targets.insert (promotedTarget record)).find? k' = some target' := htarget'
    rw [hfind] at hk hk'
    -- two rows of one triple: both new, both old, or one of each, which `hnone` excludes
    by_cases hnew : k = store.targets.nextId
    · by_cases hnew' : k' = store.targets.nextId
      · rw [hnew, hnew']
      · rw [if_neg hnew'] at hk'
        rw [if_pos hnew] at hk
        cases hk
        rw [targetTriple_promotedTarget] at heq
        exact absurd heq.symm (hnone k' target' hk')
    · rw [if_neg hnew] at hk
      by_cases hnew' : k' = store.targets.nextId
      · rw [if_pos hnew'] at hk'
        cases hk'
        rw [targetTriple_promotedTarget] at heq
        exact absurd heq (hnone k target hk)
      · rw [if_neg hnew'] at hk'
        exact hunique k k' target target' hk hk' heq
  · intro k target hne
    show (store.targets.insert (promotedTarget record)).find? k = some target ↔ _
    rw [hfind]
    by_cases hnew : k = store.targets.nextId
    · rw [if_pos hnew, hnew, Table.find?_nextId]
      constructor
      · intro h
        cases h
        exact absurd (targetTriple_promotedTarget record) hne
      · exact fun h => nomatch h
    · rw [if_neg hnew]
  · intro k target htarget
    exact Table.find?_insert_of_find? _ htarget

theorem getOrCreateTarget_got (hunique : TargetsUnique store) {targetId : Id}
    (h : getOrCreateTarget backend record store = .ok (targetId, store')) :
    TargetGot record store targetId store' := by
  unfold getOrCreateTarget at h
  cases hids : store.targetIds record.triple with
  | nil =>
      simp only [hids] at h
      split at h
      · cases h
        exact targetGot_insert hunique hids
      · cases h
  | cons first rest =>
      cases rest with
      | nil =>
          simp only [hids] at h
          have hmem : first ∈ store.targetIds record.triple := by
            rw [hids]
            exact List.mem_singleton_self first
          obtain ⟨target, htarget, htriple⟩ := mem_targetIds.mp hmem
          cases h
          exact ⟨rfl, ⟨target, htarget, htriple⟩, hunique, fun _ _ _ => Iff.rfl, fun _ _ h => h⟩
      | cons second rest =>
          simp only [hids] at h
          cases h

structure RecordStored (discovery : Id) (record : EndpointRecord) (store store' : EndpointStore) :
    Prop where
  has : HasEndpoint discovery record store'
  unique : TargetsUnique store'
  endpoints : ∀ id row, ¬ RowFor discovery record.triple row →
    (store'.endpoints.find? id = some row ↔ store.endpoints.find? id = some row)
  targets : ∀ id target, targetTriple target ≠ record.triple →
    (store'.targets.find? id = some target ↔ store.targets.find? id = some target)
  kept : ∀ id target, store.targets.find? id = some target →
    store'.targets.find? id = some target

theorem storeRecord_stored (hunique : TargetsUnique store)
    (h : storeRecord backend discovery record store = (store', none)) :
    RecordStored discovery record store store' := by
  unfold storeRecord at h
  cases hsave : saveEndpoint backend discovery record store with
  | none =>
      simp only [hsave] at h
      cases h
  | some saved =>
      obtain ⟨id, middle⟩ := saved
      simp only [hsave, autoPromoteEndpoint] at h
      have hsaved := saveEndpoint_saved hsave
      have hmiddle : TargetsUnique middle := by
        unfold TargetsUnique
        rw [hsaved.targets]
        exact hunique
      cases htarget : getOrCreateTarget backend record middle with
      | error error =>
          simp only [htarget] at h
          cases h
      | ok got =>
          obtain ⟨targetId, last⟩ := got
          simp only [htarget] at h
          have hgot := getOrCreateTarget_got hmiddle htarget
          cases h
          obtain ⟨row, hrow, hfor, hcolumns⟩ := hsaved.row
          obtain ⟨target, hfound, htriple⟩ := hgot.target
          -- the endpoint saved first is written once more, with the target it was promoted to
          have hfind : ∀ k, (last.endpoints.modify id fun row =>
              { row with target := some targetId, promoted := true }).find? k =
              if k = id then (middle.endpoints.find? k).map fun row =>
                { row with target := some targetId, promoted := true }
              else middle.endpoints.find? k := by
            intro k
            rw [hgot.endpoints, Table.find?_modify]
          refine ⟨⟨id, { row with target := some targetId, promoted := true }, targetId, target,
            ?_, hfor, ?_, rfl, rfl, hfound, htriple, ?_⟩, hgot.unique, ?_, ?_, ?_⟩
          · show (last.endpoints.modify id _).find? id = _
            rw [hfind, if_pos rfl, hrow]
            rfl
          · show { record.update row with target := some targetId, promoted := true } = _
            rw [hcolumns]
          · intro k row' hrow' hfor'
            -- every other row is as it was saved, and of these none is of the triple
            by_contra hne
            have hk : (last.endpoints.modify id _).find? k = some row' := hrow'
            rw [hfind, if_neg hne] at hk
            exact hne (hsaved.only k row' hk hfor')
          · intro k row' hnotfor
            show (last.endpoints.modify id _).find? k = some row' ↔ _
            rw [hfind, ← hsaved.others k row' hnotfor]
            by_cases heq : k = id
            · rw [if_pos heq, heq, hrow, Option.map_some]
              constructor
              · intro h
                cases h
                exact absurd hfor hnotfor
              · intro h
                cases h
                exact absurd hfor hnotfor
            · rw [if_neg heq]
          · intro k target' hne
            show last.targets.find? k = some target' ↔ _
            rw [hgot.others k target' hne, hsaved.targets]
          · intro k target' htarget'
            apply hgot.kept k target'
            rw [hsaved.targets]
            exact htarget'

end Record

/-! ## 6. The loop -/

section Loop

variable {discovery : Id} {record last : EndpointRecord} {records : List EndpointRecord}
  {start store store' : EndpointStore}

theorem lastOf_concat (record : EndpointRecord) (records : List EndpointRecord) :
    LastOf record (records ++ [record]) :=
  ⟨records, [], rfl, nofun⟩

theorem LastOf.concat (h : LastOf last records) (hne : record.triple ≠ last.triple) :
    LastOf last (records ++ [record]) := by
  obtain ⟨before, after, rfl, hafter⟩ := h
  refine ⟨before, after ++ [record], by simp, ?_⟩
  intro other hother
  rcases List.mem_append.mp hother with h | h
  · exact hafter other h
  · rw [List.mem_singleton.mp h]
    exact hne

/-- Storing a record of another triple leaves the row of this one. -/
theorem HasEndpoint.of_stored (h : HasEndpoint discovery last store)
    (hstored : RecordStored discovery record store store') (hne : last.triple ≠ record.triple) :
    HasEndpoint discovery last store' := by
  obtain ⟨id, row, targetId, target, hrow⟩ := h
  have hother : ∀ row', RowFor discovery last.triple row' →
      ¬ RowFor discovery record.triple row' :=
    fun row' hfor hfor' => hne (hfor.2.symm.trans hfor'.2)
  refine ⟨id, row, targetId, target, ?_, hrow.isFor, hrow.columns, hrow.promoted, hrow.linked,
    hstored.kept targetId target hrow.targetFound, hrow.sameTriple, ?_⟩
  · exact (hstored.endpoints id row (hother row hrow.isFor)).mpr hrow.found
  · intro id' row' hrow' hfor
    exact hrow.only id' row' ((hstored.endpoints id' row' (hother row' hfor)).mp hrow') hfor

theorem upserted_nil (hunique : TargetsUnique start) : Upserted discovery [] start start where
  stored := nofun
  unique := hunique
  endpoints _ _ _ := Iff.rfl
  targets _ _ _ := Iff.rfl
  kept _ _ h := h

/-- The invariant of the loop: one more record. -/
theorem Upserted.concat (h : Upserted discovery records start store)
    (hstored : RecordStored discovery record store store') :
    Upserted discovery (records ++ [record]) start store' where
  stored := by
    intro other hother
    by_cases heq : other.triple = record.triple
    · exact ⟨record, lastOf_concat record records, heq.symm, hstored.has⟩
    · have hmem : other ∈ records := by
        rcases List.mem_append.mp hother with hmem | hmem
        · exact hmem
        · exact absurd (congrArg EndpointRecord.triple (List.mem_singleton.mp hmem)) heq
      obtain ⟨last, hlast, htriple, hhas⟩ := h.stored other hmem
      have hne : last.triple ≠ record.triple := fun h => heq (htriple.symm.trans h)
      exact ⟨last, hlast.concat (Ne.symm hne), htriple, hhas.of_stored hstored hne⟩
  unique := hstored.unique
  endpoints := by
    intro id row hnot
    rw [hstored.endpoints id row (hnot record (by simp)), h.endpoints id row]
    exact fun other hother => hnot other (List.mem_append_left _ hother)
  targets := by
    intro id target hnot
    rw [hstored.targets id target (hnot record (by simp)), h.targets id target]
    exact fun other hother => hnot other (List.mem_append_left _ hother)
  kept id target htarget := hstored.kept id target (h.kept id target htarget)

variable [PyText] {floatRepr : PyFloat → List Char} {limits : Limits} {backend : Backend}

/-- The loop from a state that it has reached after storing `done`. -/
theorem Upserted.of_loop {values : List Json} {saved total : Nat}
    (h : Upserted discovery records start store)
    (hloop : upsertDiscoveredEndpoints floatRepr limits backend discovery saved values store =
      (store', .ok total)) :
    Upserted discovery (records ++ validRecords floatRepr limits values) start store' ∧
      total = saved + (validRecords floatRepr limits values).length := by
  induction values generalizing store records saved with
  | nil =>
      cases hloop
      rw [validRecords, List.filterMap_nil, List.append_nil]
      exact ⟨h, rfl⟩
  | cons value values ih =>
      rw [upsertDiscoveredEndpoints] at hloop
      rw [validRecords, List.filterMap_cons, validRecord]
      cases hread : readRecord floatRepr limits value with
      | error error =>
          simp only [hread] at hloop
          cases hloop
      | ok found =>
          cases found with
          | none =>
              simp only [hread] at hloop
              exact ih h hloop
          | some record =>
              simp only [hread] at hloop
              cases hstore : storeRecord backend discovery record store with
              | mk next raised =>
                  cases raised with
                  | some error =>
                      simp only [hstore] at hloop
                      cases hloop
                  | none =>
                      simp only [hstore] at hloop
                      have hnext := h.concat (storeRecord_stored h.unique hstore)
                      obtain ⟨hall, htotal⟩ := ih hnext hloop
                      rw [validRecords, List.append_assoc, List.singleton_append] at hall
                      refine ⟨hall, ?_⟩
                      rw [htotal, validRecords, List.length_cons]
                      omega

/-- **Endpoints are upserted**: a call that returns leaves one promoted row for each valid triple,
linked to the one target of the triple, and every other row as it was. -/
theorem upsertDiscoveredEndpoints_upserted {values : List Json} {saved : Nat}
    (hunique : TargetsUnique store)
    (h : upsertDiscoveredEndpoints floatRepr limits backend discovery 0 values store =
      (store', .ok saved)) :
    Upserted discovery (validRecords floatRepr limits values) store store' := by
  have hloop := (upserted_nil hunique).of_loop h
  exact hloop.1

end Loop

def duplicatedRows : EndpointStore where
  endpoints := ⟨[some (EndpointRecord.create ⟨⟨"10.0.0.5".toList, 443, .tcp⟩, [], [], []⟩ 1),
    some (EndpointRecord.create ⟨⟨"10.0.0.5".toList, 443, .tcp⟩, [], [], []⟩ 1)]⟩

def takesAll : Backend where
  takesHost _ := true
  takesColumns _ := true
  takesTarget _ := true

/-- A record for the duplicated rows, one that is skipped and a new triple given twice. -/
def agentRecords : List Json :=
  [.dict [("host", .str " 10.0.0.5 "), ("port", .str "443"), ("transport", .str "tcp")],
    .dict [("host", .str "10.0.0.6"), ("port", .int 70000)],
    .dict [("ip", .str "10.0.0.7"), ("port", .int 22)],
    .dict [("host", .str "10.0.0.7"), ("port", .int 22), ("detected_protocol", .str "SSH")]]

theorem agentRecords_upserted : letI := asciiText
    ∃ store', Upserted 1 (validRecords (fun _ => []) ⟨1000, 4300⟩ agentRecords) duplicatedRows
      store' ∧ upsertDiscoveredEndpoints (fun _ => []) ⟨1000, 4300⟩ takesAll 1 0 agentRecords
        duplicatedRows = (store', .ok 3) := by
  let := asciiText
  have hunique : TargetsUnique duplicatedRows := fun _ _ _ _ h => nomatch h
  have hsaved : (upsertDiscoveredEndpoints (fun _ => []) ⟨1000, 4300⟩ takesAll 1 0 agentRecords
      duplicatedRows).2 = .ok 3 := by decide +kernel
  cases hcall : upsertDiscoveredEndpoints (fun _ => []) ⟨1000, 4300⟩ takesAll 1 0 agentRecords
      duplicatedRows with
  | mk store' result =>
      rw [hcall] at hsaved
      have hresult : result = .ok 3 := hsaved
      subst hresult
      exact ⟨store', upsertDiscoveredEndpoints_upserted hunique hcall, rfl⟩

end CryptoScanner.Discoveries
