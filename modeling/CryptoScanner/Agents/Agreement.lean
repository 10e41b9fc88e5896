import CryptoScanner.Agents.Registry
import CryptoScanner.Library.Transition

/-!
# What the backend and an agent agree on

Registrations may be lost, repeated and overtake each other, agents restart and are deactivated.  In
every interleaving a row accepts the token of the registration that wrote it last and no other, and an
agent accepts the backend's calls exactly where the backend would accept its heartbeats, were it
active.
-/

namespace CryptoScanner.Agents

open Library Python

/-! ## 1. Rows that keep their identity -/

def Agent.key (agent : Agent) : List Char × AgentRole := (agent.hostname, agent.agentRole)

def AgentRegisterPayload.key (payload : AgentRegisterPayload) : List Char × AgentRole :=
  (payload.hostname, payload.agentRole)

def Agent.secrets (agent : Agent) : List Char × Option (List Char) :=
  (agent.agentTokenHash, agent.agentRuntimeToken)

def HasRow (agents : Table Agent) (agentId : Id) (key : List Char × AgentRole) : Prop :=
  ∃ agent, agents.find? agentId = some agent ∧ agent.key = key

/-- The same rows, up to what `view` does not show. -/
def SameRows {β : Type} (view : Agent → β) (agents agents' : Table Agent) : Prop :=
  ∀ id, (agents'.find? id).map view = (agents.find? id).map view

theorem SameRows.modify {β : Type} {view : Agent → β} (agents : Table Agent) (id : Id)
    {f : Agent → Agent} (h : ∀ agent, agents.find? id = some agent → view (f agent) = view agent) :
    SameRows view agents (agents.modify id f) := by
  intro k
  rw [Table.find?_modify]
  by_cases hk : k = id
  · subst hk
    rw [if_pos rfl]
    cases hrow : agents.find? k with
    | none => rfl
    | some agent =>
        show some (view (f agent)) = some (view agent)
        rw [h agent hrow]
  · rw [if_neg hk]

theorem SameRows.old {β : Type} {view : Agent → β} {agents agents' : Table Agent}
    (h : SameRows view agents agents') {id : Id} {agent : Agent}
    (hrow : agents.find? id = some agent) :
    ∃ agent', agents'.find? id = some agent' ∧ view agent' = view agent := by
  have hid := h id
  rw [hrow, Option.map_some, Option.map_eq_some_iff] at hid
  exact hid

theorem SameRows.new {β : Type} {view : Agent → β} {agents agents' : Table Agent}
    (h : SameRows view agents agents') {id : Id} {agent' : Agent}
    (hrow : agents'.find? id = some agent') :
    ∃ agent, agents.find? id = some agent ∧ view agent = view agent' := by
  have hid := (h id).symm
  rw [hrow, Option.map_some, Option.map_eq_some_iff] at hid
  exact hid

theorem SameRows.hasRow {agents agents' : Table Agent} (h : SameRows Agent.key agents agents')
    {id : Id} {key : List Char × AgentRole} (hrow : HasRow agents id key) :
    HasRow agents' id key := by
  obtain ⟨agent, hfound, hkey⟩ := hrow
  obtain ⟨agent', hfound', hsame⟩ := h.old hfound
  exact ⟨agent', hfound', hsame.trans hkey⟩

/-- `agent_hostname_role_uniq` -/
def UniqueKeys (agents : Table Agent) : Prop :=
  ∀ id id' agent agent', agents.find? id = some agent → agents.find? id' = some agent' →
    agent.key = agent'.key → id = id'

theorem SameRows.unique {agents agents' : Table Agent} (h : SameRows Agent.key agents agents')
    (hunique : UniqueKeys agents) : UniqueKeys agents' := by
  intro id id' agent agent' hfound hfound' hsame
  obtain ⟨old, hold, hkey⟩ := h.new hfound
  obtain ⟨old', hold', hkey'⟩ := h.new hfound'
  exact hunique id id' old old' hold hold' (by rw [hkey, hkey', hsame])

/-! ## 2. The invariant -/

section Invariant

variable (hashers : Hashers) (source : TokenSource)
  (payloads : ProcessId → AgentRegisterPayload)

/-- The row holds the token of the registration, in the two forms the backend uses. -/
structure WrittenBy (registrations : List Registration) (index : Nat) (agent : Agent) : Prop where
  registration : ∃ registration, registrations[index]? = some registration ∧
    (payloads registration.process).key = agent.key
  secrets : agent.secrets =
    (hashers.makePassword index (source.token index), some (source.token index))

/-- The row that a registration has found, or was answered with, is that of its process. -/
def Placed (agents : Table Agent) (registration : Registration) : Prop :=
  match registration.stage with
  | .sent => True
  | .found id _ => HasRow agents id (payloads registration.process).key
  | .answered id => HasRow agents id (payloads registration.process).key

def WaitsForOwn (registrations : List Registration) (processId : ProcessId) (process : Process) :
    Prop :=
  ∀ index, process.waiting = some index →
    ∃ registration, registrations[index]? = some registration ∧ registration.process = processId

def HoldsOwn (registrations : List Registration) (processId : ProcessId) (process : Process) :
    Prop :=
  ∀ token, process.agentToken = some token → ∃ id index registration, process.agentId = some id ∧
    token = source.token index ∧ registrations[index]? = some registration ∧
    registration.process = processId ∧ registration.stage = .answered id

structure Consistent (s : System) : Prop where
  payload : ∀ processId, (s.processes processId).payload = payloads processId
  rows : ∀ id agent, s.agents.find? id = some agent → ∃ index, lastWrite s.writes id = some index ∧
    WrittenBy hashers source payloads s.registrations index agent
  unique : UniqueKeys s.agents
  stages : ∀ (index : Nat) registration, s.registrations[index]? = some registration →
    Placed payloads s.agents registration
  waiting : ∀ processId, WaitsForOwn s.registrations processId (s.processes processId)
  credentials : ∀ processId, HoldsOwn source s.registrations processId (s.processes processId)

variable {hashers source payloads}

/-- Later registrations: old ones keep their process. -/
def Later (registrations registrations' : List Registration) : Prop :=
  ∀ (index : Nat) registration, registrations[index]? = some registration →
    ∃ registration', registrations'[index]? = some registration' ∧
      registration'.process = registration.process

theorem Later.refl (registrations : List Registration) : Later registrations registrations :=
  fun _ registration h => ⟨registration, h, rfl⟩

theorem Later.append (registrations : List Registration) (registration : Registration) :
    Later registrations (registrations ++ [registration]) := by
  intro index old hold
  refine ⟨old, ?_, rfl⟩
  rw [List.getElem?_append_left (List.getElem?_eq_some_iff.mp hold).1, hold]

theorem getElem?_setStage (registrations : List Registration) (index : Nat) (stage : Stage)
    (k : Nat) : (setStage registrations index stage)[k]? =
      (registrations[k]?).map fun registration =>
        if index = k then { registration with stage } else registration := by
  unfold setStage
  rw [List.getElem?_modify]
  by_cases h : index = k <;> simp [h]

theorem Later.setStage (registrations : List Registration) (index : Nat) (stage : Stage) :
    Later registrations (setStage registrations index stage) := by
  intro k old hold
  rw [getElem?_setStage, hold]
  refine ⟨_, rfl, ?_⟩
  show (if index = k then { old with stage } else old).process = old.process
  split <;> rfl

theorem WrittenBy.later {registrations registrations' : List Registration} {index : Nat}
    {agent agent' : Agent} (h : WrittenBy hashers source payloads registrations index agent)
    (hlater : Later registrations registrations') (hkey : agent'.key = agent.key)
    (hsecrets : agent'.secrets = agent.secrets) :
    WrittenBy hashers source payloads registrations' index agent' := by
  obtain ⟨⟨registration, hfound, hsame⟩, hwritten⟩ := h
  obtain ⟨registration', hfound', hprocess⟩ := hlater index registration hfound
  refine ⟨⟨registration', hfound', ?_⟩, hsecrets.trans hwritten⟩
  rw [hprocess, hsame, hkey]

theorem lastWrite_cons (id index : Nat) (writes : List (Id × Nat)) (k : Id) :
    lastWrite ((id, index) :: writes) k = if id = k then some index else lastWrite writes k := by
  unfold lastWrite
  rw [List.find?_cons]
  by_cases h : id = k
  · simp [h]
  · rw [if_neg h, beq_eq_false_iff_ne.mpr h]

theorem Placed.mono {agents agents' : Table Agent} {registration : Registration}
    (h : Placed payloads agents registration)
    (hkeep : ∀ {id key}, HasRow agents id key → HasRow agents' id key) :
    Placed payloads agents' registration := by
  unfold Placed at h ⊢
  cases hstage : registration.stage with
  | sent => trivial
  | found id now =>
      rw [hstage] at h
      exact hkeep h
  | answered id =>
      rw [hstage] at h
      exact hkeep h

theorem WaitsForOwn.later {registrations registrations' : List Registration}
    {processId : ProcessId} {process : Process} (h : WaitsForOwn registrations processId process)
    (hlater : Later registrations registrations') :
    WaitsForOwn registrations' processId process := by
  intro index hwaiting
  obtain ⟨registration, hfound, hprocess⟩ := h index hwaiting
  obtain ⟨registration', hfound', hsame⟩ := hlater index registration hfound
  exact ⟨registration', hfound', hsame.trans hprocess⟩

/-- A step that touches neither the keys nor the secrets of the rows. -/
theorem Consistent.rowsKept {s : System} (h : Consistent hashers source payloads s)
    {agents : Table Agent} (hkeys : SameRows Agent.key s.agents agents)
    (hsecrets : SameRows Agent.secrets s.agents agents) (beats : List Id) :
    Consistent hashers source payloads { s with agents, beats } where
  payload := h.payload
  rows := by
    intro id agent' hfound'
    obtain ⟨agent, hfound, hkey⟩ := hkeys.new hfound'
    obtain ⟨agent₂, hfound₂, hsecret⟩ := hsecrets.new hfound'
    rw [hfound] at hfound₂
    cases hfound₂
    obtain ⟨index, hlast, hwritten⟩ := h.rows id agent hfound
    exact ⟨index, hlast, hwritten.later (.refl _) hkey.symm hsecret.symm⟩
  unique := hkeys.unique h.unique
  stages index registration hfound := (h.stages index registration hfound).mono hkeys.hasRow
  waiting := h.waiting
  credentials := h.credentials

theorem Consistent.process {s : System} (h : Consistent hashers source payloads s)
    (processId : ProcessId) {process : Process}
    (hpayload : process.payload = (s.processes processId).payload)
    (hwaiting : WaitsForOwn s.registrations processId process)
    (hcredentials : HoldsOwn source s.registrations processId process) :
    Consistent hashers source payloads { s with
      processes := Function.update s.processes processId process } where
  payload := by
    intro other
    show (Function.update s.processes processId process other).payload = payloads other
    by_cases heq : other = processId
    · rw [heq, Function.update_self, hpayload, h.payload]
    · rw [Function.update_of_ne heq, h.payload]
  rows := h.rows
  unique := h.unique
  stages := h.stages
  waiting := by
    intro other
    show WaitsForOwn s.registrations other (Function.update s.processes processId process other)
    by_cases heq : other = processId
    · rw [heq, Function.update_self]
      exact hwaiting
    · rw [Function.update_of_ne heq]
      exact h.waiting other
  credentials := by
    intro other
    show HoldsOwn source s.registrations other (Function.update s.processes processId process other)
    by_cases heq : other = processId
    · rw [heq, Function.update_self]
      exact hcredentials
    · rw [Function.update_of_ne heq]
      exact h.credentials other

/-- A stage that is set on a registration without an answer leaves what the processes hold. -/
theorem Consistent.held {s : System} (h : Consistent hashers source payloads s) {index : Nat}
    (stage : Stage) {registration : Registration}
    (hfound : s.registrations[index]? = some registration)
    (hopen : ∀ id, registration.stage ≠ .answered id) (processId : ProcessId) :
    HoldsOwn source (setStage s.registrations index stage) processId (s.processes processId) := by
  intro token htoken
  obtain ⟨id, k, own, hid, heq, hown, hprocess, hanswered⟩ := h.credentials processId token htoken
  have hne : index ≠ k := by
    intro heq
    rw [← heq, hfound] at hown
    cases hown
    exact hopen id hanswered
  refine ⟨id, k, own, hid, heq, ?_, hprocess, hanswered⟩
  rw [getElem?_setStage, hown, Option.map_some, if_neg hne]

/-- The stages after one is set, where the rows it and the others speak of are there. -/
theorem stages_setStage {registrations : List Registration} {agents : Table Agent} {index : Nat}
    {stage : Stage}
    (hold : ∀ (k : Nat) registration, registrations[k]? = some registration →
      Placed payloads agents registration)
    (hnew : ∀ registration, registrations[index]? = some registration →
      Placed payloads agents { registration with stage }) :
    ∀ (k : Nat) registration, (setStage registrations index stage)[k]? = some registration →
      Placed payloads agents registration := by
  intro k registration hfound
  rw [getElem?_setStage, Option.map_eq_some_iff] at hfound
  obtain ⟨old, hold', rfl⟩ := hfound
  by_cases hk : index = k
  · subst hk
    rw [if_pos rfl]
    exact hnew old hold'
  · rw [if_neg hk]
    exact hold k old hold'

/-- The row a registration finds is the one of its host name and role. -/
theorem getOrCreate_found {agents agents' : Table Agent} {payload : AgentRegisterPayload}
    {token : List Char} {salt : Nat} {now : Time} {id : Id}
    (h : getOrCreate hashers agents payload token salt now = (agents', id, false)) :
    agents' = agents ∧ HasRow agents id payload.key := by
  unfold getOrCreate at h
  dsimp only at h
  split at h
  · rename_i found hfirst
    cases h
    obtain ⟨agent, hrow, hsame⟩ := Table.first?_eq_some hfirst
    rw [Bool.and_eq_true, beq_iff_eq, beq_iff_eq] at hsame
    exact ⟨rfl, agent, hrow, Prod.ext hsame.1 hsame.2⟩
  · cases h

theorem getOrCreate_created {agents agents' : Table Agent} {payload : AgentRegisterPayload}
    {token : List Char} {salt : Nat} {now : Time} {id : Id}
    (h : getOrCreate hashers agents payload token salt now = (agents', id, true)) :
    id = agents.nextId ∧ agents' = agents.insert (registeredAgent hashers payload token salt now) ∧
      ∀ id' agent, agents.find? id' = some agent → agent.key ≠ payload.key := by
  unfold getOrCreate at h
  dsimp only at h
  split at h
  · cases h
  · rename_i hnone
    cases h
    refine ⟨rfl, rfl, ?_⟩
    intro id' agent hfound hkey
    have hfalse := Table.first?_eq_none hnone hfound
    rw [Bool.and_eq_false_iff, beq_eq_false_iff_ne, beq_eq_false_iff_ne] at hfalse
    rcases hfalse with hne | hne
    · exact hne (congrArg Prod.fst hkey)
    · exact hne (congrArg Prod.snd hkey)

theorem Consistent.created {s : System} (h : Consistent hashers source payloads s) {index : Nat}
    {registration : Registration} (hfound : s.registrations[index]? = some registration)
    (hsent : registration.stage = .sent) {agents : Table Agent} {id : Id} {now : Time}
    (hcreate : getOrCreate hashers s.agents (payloads registration.process) (source.token index)
      index now = (agents, id, true)) :
    Consistent hashers source payloads { s with
      agents
      registrations := setStage s.registrations index (.answered id)
      writes := (id, index) :: s.writes } := by
  obtain ⟨hid, hagents, hnone⟩ := getOrCreate_created hcreate
  subst hid hagents
  -- an insertion leaves the rows that are there, and gives the new one a fresh id
  have hkeep : ∀ {id key}, HasRow s.agents id key → HasRow (s.agents.insert
      (registeredAgent hashers (payloads registration.process) (source.token index) index now))
      id key := by
    intro id key hrow
    obtain ⟨agent, hagent, hkey⟩ := hrow
    exact ⟨agent, Table.find?_insert_of_find? _ hagent, hkey⟩
  constructor
  · exact h.payload
  · intro id agent hagent
    change (s.agents.insert _).find? id = some agent at hagent
    rw [Table.find?_insert] at hagent
    show ∃ k, lastWrite ((s.agents.nextId, index) :: s.writes) id = some k ∧ _
    rw [lastWrite_cons]
    by_cases hid : id = s.agents.nextId
    · rw [if_pos hid] at hagent
      cases hagent
      rw [if_pos hid.symm]
      refine ⟨index, rfl, ⟨?_, rfl⟩⟩
      refine ⟨{ registration with stage := .answered s.agents.nextId }, ?_, rfl⟩
      rw [getElem?_setStage, hfound, Option.map_some, if_pos rfl]
    · rw [if_neg hid] at hagent
      rw [if_neg (Ne.symm hid)]
      obtain ⟨k, hlast, hwritten⟩ := h.rows id agent hagent
      exact ⟨k, hlast, hwritten.later (.setStage _ _ _) rfl rfl⟩
  · intro id id' agent agent' hagent hagent' hsame
    change (s.agents.insert _).find? id = some agent at hagent
    change (s.agents.insert _).find? id' = some agent' at hagent'
    rw [Table.find?_insert] at hagent hagent'
    by_cases hid : id = s.agents.nextId
    · by_cases hid' : id' = s.agents.nextId
      · rw [hid, hid']
      · rw [if_pos hid] at hagent
        rw [if_neg hid'] at hagent'
        cases hagent
        exact absurd hsame.symm (hnone id' agent' hagent')
    · rw [if_neg hid] at hagent
      by_cases hid' : id' = s.agents.nextId
      · rw [if_pos hid'] at hagent'
        cases hagent'
        exact absurd hsame (hnone id agent hagent)
      · rw [if_neg hid'] at hagent'
        exact h.unique id id' agent agent' hagent hagent' hsame
  · apply stages_setStage fun k other hother => (h.stages k other hother).mono hkeep
    intro other hother
    rw [hfound] at hother
    cases hother
    exact ⟨_, Table.find?_insert_self _ _, rfl⟩
  · exact fun processId => (h.waiting processId).later (.setStage _ _ _)
  · exact h.held _ hfound fun id hanswered => by rw [hsent] at hanswered; cases hanswered

theorem Consistent.saved {s : System} (h : Consistent hashers source payloads s) {index : Nat}
    {registration : Registration} (hfound : s.registrations[index]? = some registration) {id : Id}
    {now : Time} (hstage : registration.stage = .found id now) :
    Consistent hashers source payloads { s with
      agents := saveRegistration hashers s.agents id (payloads registration.process)
        (source.token index) index now
      registrations := setStage s.registrations index (.answered id)
      writes := (id, index) :: s.writes } := by
  -- the row was found under the key of the payload, and a save keeps the key
  have hrow : HasRow s.agents id (payloads registration.process).key := by
    have hrows := h.stages index registration hfound
    rw [Placed, hstage] at hrows
    exact hrows
  obtain ⟨found, hagent, hkey⟩ := hrow
  have hkeys : SameRows Agent.key s.agents (saveRegistration hashers s.agents id
      (payloads registration.process) (source.token index) index now) := by
    apply SameRows.modify
    intro agent hsame
    rw [hagent] at hsame
    cases hsame
    exact Prod.ext rfl (congrArg Prod.snd hkey).symm
  constructor
  · exact h.payload
  · intro id' agent hagent'
    show ∃ k, lastWrite ((id, index) :: s.writes) id' = some k ∧ _
    rw [lastWrite_cons]
    change (s.agents.modify id _).find? id' = some agent at hagent'
    by_cases hid : id' = id
    · subst hid
      rw [if_pos rfl]
      rw [Table.find?_modify_self, hagent] at hagent'
      cases hagent'
      refine ⟨index, rfl, ⟨?_, rfl⟩⟩
      refine ⟨{ registration with stage := .answered id' }, ?_, ?_⟩
      · rw [getElem?_setStage, hfound, Option.map_some, if_pos rfl]
      · exact Prod.ext (congrArg Prod.fst hkey).symm rfl
    · rw [if_neg (Ne.symm hid)]
      rw [Table.find?_modify_ne _ _ hid] at hagent'
      obtain ⟨k, hlast, hwritten⟩ := h.rows id' agent hagent'
      exact ⟨k, hlast, hwritten.later (.setStage _ _ _) rfl rfl⟩
  · exact hkeys.unique h.unique
  · apply stages_setStage fun k other hother => (h.stages k other hother).mono hkeys.hasRow
    intro other hother
    rw [hfound] at hother
    cases hother
    exact hkeys.hasRow ⟨found, hagent, hkey⟩
  · exact fun processId => (h.waiting processId).later (.setStage _ _ _)
  · exact h.held _ hfound fun id hanswered => by rw [hstage] at hanswered; cases hanswered

theorem fresh_consistent : Consistent hashers source payloads (fresh payloads) where
  payload _ := rfl
  rows id agent hfound := by cases hfound
  unique id id' agent agent' hfound := by cases hfound
  stages index registration hfound := by cases hfound
  waiting processId index hwaiting := by cases hwaiting
  credentials processId token htoken := by cases htoken

/-- `register_loop` sends a request only while the process has no token. -/
theorem Consistent.send {s : System} (h : Consistent hashers source payloads s)
    {processId : ProcessId} (htoken : (s.processes processId).agentToken = none) :
    Consistent hashers source payloads { s with
      registrations := s.registrations ++ [⟨processId, .sent⟩]
      processes := Function.update s.processes processId
        { s.processes processId with waiting := some s.registrations.length } } := by
  have hlater := Later.append s.registrations ⟨processId, .sent⟩
  have hsent : Consistent hashers source payloads
      { s with registrations := s.registrations ++ [⟨processId, .sent⟩] } := by
    constructor
    · exact h.payload
    · intro id agent hfound
      obtain ⟨index, hlast, hwritten⟩ := h.rows id agent hfound
      exact ⟨index, hlast, hwritten.later hlater rfl rfl⟩
    · exact h.unique
    · intro index registration hfound
      rw [List.getElem?_append] at hfound
      split at hfound
      · exact h.stages index registration hfound
      · rw [List.getElem?_singleton] at hfound
        split at hfound
        · cases hfound
          trivial
        · cases hfound
    · exact fun other => (h.waiting other).later hlater
    · intro other token hother
      obtain ⟨id, index, registration, hid, hindex, hfound, hrest⟩ := h.credentials other token hother
      refine ⟨id, index, registration, hid, hindex, ?_, hrest⟩
      rw [List.getElem?_append_left (List.getElem?_eq_some_iff.mp hfound).1, hfound]
  refine hsent.process processId ?_ ?_ ?_
  · rfl
  · intro index hwaiting
    cases hwaiting
    refine ⟨⟨processId, .sent⟩, ?_, rfl⟩
    show (s.registrations ++ [_])[s.registrations.length]? = _
    rw [List.getElem?_append_right (Nat.le_refl _), Nat.sub_self]
    rfl
  · intro token hnew
    change (s.processes processId).agentToken = some token at hnew
    rw [htoken] at hnew
    cases hnew

/-- A registration finds the row of its host name and role. -/
theorem Consistent.found {s : System} (h : Consistent hashers source payloads s) {index : Nat}
    {registration : Registration} (hfound : s.registrations[index]? = some registration)
    (hsent : registration.stage = .sent) {id : Id} (now : Time)
    (hrow : HasRow s.agents id (payloads registration.process).key) :
    Consistent hashers source payloads { s with
      registrations := setStage s.registrations index (.found id now) } where
  payload := h.payload
  rows := by
    intro id agent hagent
    obtain ⟨k, hlast, hwritten⟩ := h.rows id agent hagent
    exact ⟨k, hlast, hwritten.later (.setStage _ _ _) rfl rfl⟩
  unique := h.unique
  stages := by
    apply stages_setStage h.stages
    intro other hother
    rw [hfound] at hother
    cases hother
    exact hrow
  waiting := fun processId => (h.waiting processId).later (.setStage _ _ _)
  credentials := h.held _ hfound fun id hanswered => by rw [hsent] at hanswered; cases hanswered

variable [PyText]

theorem Consistent.lookup {s s' : System} (h : Consistent hashers source payloads s) {index : Nat}
    {now : Time} (hstep : step hashers source s (.lookup index, now) = some s') :
    Consistent hashers source payloads s' := by
  simp only [step, Option.bind_eq_bind, Option.bind_eq_some_iff] at hstep
  obtain ⟨registration, hfound, hstep⟩ := hstep
  by_cases hsent : registration.stage = .sent
  · rw [if_neg (not_not_intro hsent), h.payload] at hstep
    generalize hrow : getOrCreate hashers s.agents (payloads registration.process)
      (source.token index) index now = outcome at hstep
    obtain ⟨agents, id, created⟩ := outcome
    cases created with
    | true =>
        cases hstep
        exact h.created hfound hsent hrow
    | false =>
        cases hstep
        exact h.found hfound hsent now (getOrCreate_found hrow).2
  · rw [if_pos hsent] at hstep
    cases hstep

theorem Consistent.save {s s' : System} (h : Consistent hashers source payloads s) {index : Nat}
    {now : Time} (hstep : step hashers source s (.save index, now) = some s') :
    Consistent hashers source payloads s' := by
  simp only [step, Option.bind_eq_bind, Option.bind_eq_some_iff] at hstep
  obtain ⟨registration, hfound, hstep⟩ := hstep
  rw [h.payload] at hstep
  cases hstage : registration.stage with
  | sent | answered =>
      rw [hstage] at hstep
      cases hstep
  | found id at' =>
      rw [hstage] at hstep
      cases hstep
      exact h.saved hfound hstage

/-- A process takes the answer to the registration that it waits for. -/
theorem Consistent.receive {s s' : System} (h : Consistent hashers source payloads s) {index : Nat}
    {now : Time} (hstep : step hashers source s (.receive index, now) = some s') :
    Consistent hashers source payloads s' := by
  simp only [step, Option.bind_eq_bind, Option.bind_eq_some_iff] at hstep
  obtain ⟨registration, hfound, hstep⟩ := hstep
  cases hstage : registration.stage with
  | sent | found =>
      rw [hstage] at hstep
      cases hstep
  | answered id =>
      rw [hstage] at hstep
      dsimp only at hstep
      split at hstep
      · cases hstep
        refine h.process registration.process ?_ ?_ ?_
        · rfl
        · intro k hwaiting
          cases hwaiting
        · intro token htoken
          cases htoken
          exact ⟨id, index, registration, rfl, rfl, hfound, rfl, hstage⟩
      · cases hstep

theorem step_consistent {s s' : System} {a : Action × Time}
    (h : Consistent hashers source payloads s) (hstep : step hashers source s a = some s') :
    Consistent hashers source payloads s' := by
  obtain ⟨action, now⟩ := a
  cases action with
  | send processId =>
      simp only [step] at hstep
      split at hstep
      · cases hstep
      · rename_i hidle
        cases hstep
        rw [not_or, Bool.not_eq_true, Option.isSome_eq_false_iff, Option.isNone_iff_eq_none] at hidle
        exact h.send hidle.1
  -- a process that gives up or restarts forgets the request it waits for, not its rows
  | giveUp processId =>
      cases hstep
      refine h.process processId ?_ ?_ ?_
      · rfl
      · intro index hwaiting
        cases hwaiting
      · exact h.credentials processId
  | restart processId =>
      cases hstep
      refine h.process processId ?_ ?_ ?_
      · rfl
      · intro index hwaiting
        cases hwaiting
      · intro token htoken
        cases htoken
  | lookup index => exact h.lookup hstep
  | save index => exact h.save hstep
  | receive index => exact h.receive hstep
  | beat processId =>
      simp only [step, Option.bind_eq_bind, Option.bind_eq_some_iff] at hstep
      obtain ⟨id, _, token, _, hstep⟩ := hstep
      split at hstep
      · cases hstep
        exact h.rowsKept (fun _ => rfl) (fun _ => rfl) (id :: s.beats)
      · cases hstep
        exact h
  -- a heartbeat and a deactivation change neither the key nor the secrets of a row
  | saveBeat index =>
      simp only [step, Option.bind_eq_bind, Option.bind_eq_some_iff] at hstep
      obtain ⟨id, _, hstep⟩ := hstep
      cases hstep
      apply h.rowsKept
      · exact SameRows.modify _ _ fun _ _ => rfl
      · exact SameRows.modify _ _ fun _ _ => rfl
  | delete id =>
      cases hstep
      apply h.rowsKept
      · exact SameRows.modify _ _ fun _ _ => rfl
      · exact SameRows.modify _ _ fun _ _ => rfl

/-! ## 3. Both sides of a token -/

omit [PyText] in
/-- A row accepts one token, and none while it is inactive. -/
theorem WrittenBy.validate {registrations : List Registration} {index : Nat} {agent : Agent}
    (h : WrittenBy hashers source payloads registrations index agent) (token : List Char) :
    validateAgentToken hashers agent (some token) = true ↔
      agent.active = true ∧ token = source.token index := by
  have hhash : agent.agentTokenHash = hashers.makePassword index (source.token index) :=
    congrArg Prod.fst h.secrets
  unfold validateAgentToken
  dsimp only
  rw [hhash]
  by_cases hrefused : token = [] ∨ agent.active = false
  · rw [if_pos hrefused]
    apply iff_of_false Bool.false_ne_true
    intro hboth
    rcases hrefused with hempty | hinactive
    · rw [hempty] at hboth
      exact source.token_ne_nil index hboth.2.symm
    · rw [hinactive] at hboth
      exact Bool.false_ne_true hboth.1
  · rw [if_neg hrefused, hashers.check_make]
    rw [not_or, Bool.not_eq_false] at hrefused
    exact (and_iff_right hrefused.2).symm

theorem isSpace_of_urlSafe {c : Char} (h : c.isAlphanum = true ∨ c = '-' ∨ c = '_') :
    PyText.isSpace c = false := by
  have hbounds : 32 < c.toNat ∧ c.toNat < 128 := by
    rcases h with halnum | hdash | hunderscore
    · have hranges := toNat_of_isAlphanum halnum
      omega
    · rw [hdash]
      decide
    · rw [hunderscore]
      decide
  have hascii : isAscii c = true := by
    unfold isAscii
    rw [decide_eq_true_eq]
    exact hbounds.2
  rw [PyText.isSpace_ascii c hascii]
  by_contra hspace
  rw [Bool.not_eq_false] at hspace
  have hle := toNat_le_of_isAsciiSpace hspace
  omega

/-- The token that an agent sends in the header is the one the backend reads. -/
theorem extractBearerToken_bearer (index : Nat) :
    extractBearerToken (bearer (source.token index)) = some (source.token index) := by
  unfold extractBearerToken bearer
  rw [if_pos, List.drop_left]
  · rw [strip_eq_self]
    intro c hc
    exact isSpace_of_urlSafe (source.urlSafe index c hc)
  · rw [List.isPrefixOf_iff_prefix]
    exact List.prefix_append _ _

omit [PyText] in
theorem bearer_inj {token token' : List Char} : bearer token = bearer token' ↔ token = token' := by
  unfold bearer
  rw [List.append_cancel_left_eq]

end Invariant

/-! ## 4. A registration that comes too late -/

def plainHashers : Hashers where
  makePassword salt token := List.replicate salt 's' ++ '$' :: token
  checkPassword token encoded := (encoded.dropWhile (· == 's')).tail == token
  check_make := by
    intro salt token other
    have hdrop : (List.replicate salt 's' ++ '$' :: token).dropWhile (· == 's') = '$' :: token := by
      induction salt with
      | zero => rfl
      | succ salt ih =>
          rw [List.replicate_succ, List.cons_append, List.dropWhile_cons_of_pos (by decide), ih]
    rw [hdrop, List.tail_cons, beq_iff_eq]
    exact eq_comm

def unaryTokens : TokenSource where
  token i := List.replicate (i + 1) 'a'
  token_inj := by
    intro i j h
    have hlength := congrArg List.length h
    rw [List.length_replicate, List.length_replicate] at hlength
    omega
  token_ne_nil i := by simp
  urlSafe := by
    intro i c hc
    rw [List.eq_of_mem_replicate hc]
    decide

/-- The first request times out and is saved after the second one was answered. -/
def lateRegistration : List (Action × Time) :=
  [(.send 0, 1), (.giveUp 0, 2), (.send 0, 3), (.lookup 1, 4), (.lookup 0, 5), (.receive 1, 6),
    (.save 0, 7)]

def webAgent (_ : ProcessId) : AgentRegisterPayload :=
  { hostname := "web".toList
    agentRole := .host
    agentUrl := some "http://web:9100/".toList
    capabilities := ["tls".toList]
    osDistribution := none }

end CryptoScanner.Agents
