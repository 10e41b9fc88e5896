import CryptoScanner.Library.Table
import CryptoScanner.Models
import CryptoScanner.Python.Text

/-!
# The agent registry

The rows of the agents, the requests that register an agent, take its heartbeat and deactivate it, and
the two sides of the bearer token: the backend checks an agent's heartbeat against the hash it keeps,
and an agent checks the backend's calls against the token it was given.  Hashing and the generation of
tokens are libraries of the source, and come with what the source relies on.
-/

namespace CryptoScanner.Agents

open Library Python

/-! ## 1. Rows and libraries -/

inductive AgentRole
  | host
  | discovery
  deriving DecidableEq, Repr

structure Agent where
  hostname : List Char
  agentRole : AgentRole
  agentUrl : Option (List Char)
  capabilities : List (List Char)
  osDistribution : Option (List Char)
  agentTokenHash : List Char
  agentRuntimeToken : Option (List Char)
  active : Bool
  lastSeen : Option Time
  tokenRotatedAt : Option Time
  deriving DecidableEq, Repr

structure AgentRegisterPayload where
  hostname : List Char
  agentRole : AgentRole
  agentUrl : Option (List Char)
  capabilities : List (List Char)
  osDistribution : Option (List Char)
  deriving DecidableEq, Repr

/-- `make_password`, with the salt it draws, and `check_password`. -/
structure Hashers where
  makePassword : Nat → List Char → List Char
  checkPassword : List Char → List Char → Bool
  check_make : ∀ salt token other,
    checkPassword other (makePassword salt token) = true ↔ other = token

/-- `secrets.token_urlsafe(32)`: the tokens it returns one after the other. -/
structure TokenSource where
  token : Nat → List Char
  token_inj : ∀ i j, token i = token j → i = j
  token_ne_nil : ∀ i, token i ≠ []
  urlSafe : ∀ i, ∀ c ∈ token i, c.isAlphanum = true ∨ c = '-' ∨ c = '_'

/-! ## 2. The requests -/

section Requests

variable (hashers : Hashers)

/-- What `register_agent` writes on a row, created or found. -/
def registeredAgent (payload : AgentRegisterPayload) (token : List Char) (salt : Nat) (now : Time) :
    Agent :=
  { hostname := payload.hostname
    agentRole := payload.agentRole
    agentUrl := payload.agentUrl
    capabilities := payload.capabilities
    osDistribution := payload.osDistribution
    agentTokenHash := hashers.makePassword salt token
    agentRuntimeToken := some token
    active := true
    lastSeen := some now
    tokenRotatedAt := some now }

/-- `Agent.objects.get_or_create(..)`: the row, and whether it was created. -/
def getOrCreate (agents : Table Agent) (payload : AgentRegisterPayload) (token : List Char)
    (salt : Nat) (now : Time) : Table Agent × Id × Bool :=
  let found := agents.first? fun agent =>
    agent.hostname == payload.hostname && agent.agentRole == payload.agentRole
  match found with
  | some agentId => (agents, agentId, false)
  | none => (agents.insert (registeredAgent hashers payload token salt now), agents.nextId, true)

/-- `agent.save()` on a row that was found; its host name is the one it was found by. -/
def saveRegistration (agents : Table Agent) (agentId : Id) (payload : AgentRegisterPayload)
    (token : List Char) (salt : Nat) (now : Time) : Table Agent :=
  agents.modify agentId fun agent =>
    { registeredAgent hashers payload token salt now with hostname := agent.hostname }

def validateAgentToken (agent : Agent) (token : Option (List Char)) : Bool :=
  match token with
  | none => false
  | some token =>
      if token = [] ∨ agent.active = false then false
      else hashers.checkPassword token agent.agentTokenHash

/-- `_extract_bearer_token` on the value of the header. -/
def extractBearerToken [PyText] (authorization : List Char) : Option (List Char) :=
  if "Bearer ".toList.isPrefixOf authorization then
    some (strip (authorization.drop "Bearer ".toList.length))
  else none

def heartbeatAccepted [PyText] (agents : Table Agent) (agentId : Id) (authorization : List Char) :
    Bool :=
  match agents.find? agentId with
  | none => false
  | some agent => validateAgentToken hashers agent (extractBearerToken authorization)

end Requests

def bearer (token : List Char) : List Char := "Bearer ".toList ++ token

/-- `agent.last_seen = timezone.now()` of an accepted heartbeat. -/
def saveHeartbeat (agents : Table Agent) (agentId : Id) (now : Time) : Table Agent :=
  agents.modify agentId fun agent => { agent with lastSeen := some now }

def deleteAgent (agents : Table Agent) (agentId : Id) : Table Agent :=
  agents.modify agentId fun agent => { agent with active := false }

/-! ## 3. The agent's side -/

/-- `State` of an agent process, and the request that `register_loop` waits for. -/
structure Process where
  payload : AgentRegisterPayload
  agentId : Option Id := none
  agentToken : Option (List Char) := none
  waiting : Option Nat := none

/-- `Handler._authorized` on the value of the header. -/
def authorized (process : Process) (authorization : List Char) : Bool :=
  -- before the registration is answered no call is let in
  match process.agentToken with
  | none => false
  | some token => if token = [] then false else authorization == bearer token

/-- The header that `post_scan` and `post_discover` send, where they send a request at all. -/
def callHeader (agent : Agent) : Option (List Char) :=
  match agent.agentUrl, agent.agentRuntimeToken with
  | some url, some token => if url = [] ∨ token = [] then none else some (bearer token)
  | _, _ => none

/-! ## 4. The protocol -/

abbrev ProcessId := Nat

inductive Stage
  | sent
  | found (agentId : Id) (now : Time)
  | answered (agentId : Id)
  deriving DecidableEq, Repr

structure Registration where
  process : ProcessId
  stage : Stage
  deriving DecidableEq, Repr

structure System where
  agents : Table Agent
  /-- Every registration request that was sent, the earliest one first. -/
  registrations : List Registration
  processes : ProcessId → Process
  /-- The heartbeats that were accepted and are not saved yet. -/
  beats : List Id
  /-- Which registration wrote which row, the latest write first. -/
  writes : List (Id × Nat)

inductive Action
  /-- `register_loop` sends a request. -/
  | send (process : ProcessId)
  /-- The request of a process times out; the backend may still get to it. -/
  | giveUp (process : ProcessId)
  | restart (process : ProcessId)
  | lookup (registration : Nat)
  | save (registration : Nat)
  | receive (registration : Nat)
  | beat (process : ProcessId)
  | saveBeat (index : Nat)
  | delete (agentId : Id)

section Protocol

variable [PyText] (hashers : Hashers) (source : TokenSource)

def setStage (registrations : List Registration) (index : Nat) (stage : Stage) :
    List Registration :=
  registrations.modify index fun registration => { registration with stage }

/-- One step at the time `now`; `none` where it is not enabled.  The token and the salt of a
registration are those of its number. -/
def step (s : System) : Action × Time → Option System
  | (.send processId, _) =>
      let process := s.processes processId
      if process.agentToken.isSome ∨ process.waiting.isSome then none
      else some { s with
        registrations := s.registrations ++ [⟨processId, .sent⟩]
        processes := Function.update s.processes processId
          { process with waiting := some s.registrations.length } }
  | (.giveUp processId, _) =>
      some { s with
        processes := Function.update s.processes processId
          { s.processes processId with waiting := none } }
  | (.restart processId, _) =>
      some { s with
        processes := Function.update s.processes processId
          { payload := (s.processes processId).payload } }
  -- `get_or_create` commits on its own: a created row is complete, a found one is saved later
  | (.lookup index, now) => do
      let registration ← s.registrations[index]?
      let payload := (s.processes registration.process).payload
      if registration.stage ≠ .sent then none
      else
        match getOrCreate hashers s.agents payload (source.token index) index now with
        | (agents, agentId, true) =>
            some { s with
              agents
              registrations := setStage s.registrations index (.answered agentId)
              writes := (agentId, index) :: s.writes }
        | (_, agentId, false) =>
            some { s with
              registrations := setStage s.registrations index (.found agentId now) }
  -- the save writes what was read at the look-up, whatever was written in between
  | (.save index, _) => do
      let registration ← s.registrations[index]?
      let payload := (s.processes registration.process).payload
      match registration.stage with
      | .found agentId now =>
          some { s with
            agents := saveRegistration hashers s.agents agentId payload (source.token index) index now
            registrations := setStage s.registrations index (.answered agentId)
            writes := (agentId, index) :: s.writes }
      | _ => none
  -- a process takes the answer to the request it waits for, and no other
  | (.receive index, _) => do
      let registration ← s.registrations[index]?
      let process := s.processes registration.process
      match registration.stage with
      | .answered agentId =>
          if process.waiting = some index then
            some { s with
              processes := Function.update s.processes registration.process
                { process with
                  agentId := some agentId
                  agentToken := some (source.token index)
                  waiting := none } }
          else none
      | _ => none
  | (.beat processId, _) => do
      let agentId ← (s.processes processId).agentId
      let token ← (s.processes processId).agentToken
      if heartbeatAccepted hashers s.agents agentId (bearer token) then
        some { s with beats := agentId :: s.beats }
      else some s
  -- the row is checked in one statement and saved in a later one
  | (.saveBeat index, now) => do
      let agentId ← s.beats[index]?
      return { s with
        agents := saveHeartbeat s.agents agentId now
        beats := s.beats.eraseIdx index }
  | (.delete agentId, _) => some { s with agents := deleteAgent s.agents agentId }

/-- No agent yet; every process is about to register. -/
def fresh (payloads : ProcessId → AgentRegisterPayload) : System :=
  { agents := .empty
    registrations := []
    processes := fun processId => { payload := payloads processId }
    beats := []
    writes := [] }

end Protocol

def lastWrite (writes : List (Id × Nat)) (agentId : Id) : Option Nat :=
  (writes.find? fun write => write.1 == agentId).map Prod.snd

end CryptoScanner.Agents
