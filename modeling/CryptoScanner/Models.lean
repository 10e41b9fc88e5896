import CryptoScanner.Library.Table
import CryptoScanner.Python.Json
import CryptoScanner.RiskEngine.Engine

/-!
# The database

The rows of the Django models, with the fields that the modelled functions read or write, and the
database as one table for each model.  Primary keys count from 0 here and from 1 in the database, so
a key is present where the source tests it for truth.  A JSON payload or result that one function
writes and others read is a type of its own.
-/

namespace CryptoScanner

open Library Python RiskEngine

abbrev Id := Nat

abbrev Time := Nat

/-! ## 1. Jobs -/

inductive JobKind
  | scanJob
  | discovery
  | recompute
  deriving DecidableEq, Repr

/-- `AsyncJob.status`, which `Discovery.status` copies. -/
inductive JobStatus
  | pending
  | running
  | completed
  | failed
  | cancelled
  deriving DecidableEq, Repr

inductive TaskStatus
  | queued
  | running
  | completed
  | failed
  | cancelled
  deriving DecidableEq, Repr

inductive Scanner
  | network
  | agentCertStore
  | agentPkgKeyring
  | agentSshUserkey
  | agentSshConfig
  | agentKeystore
  | agentAppCertFiles
  | agentPrivateKeyFiles
  | agentAppConfig
  deriving DecidableEq, Repr

/-- The `origin` of a scan that a discovery enqueued. -/
structure Origin where
  discoveryId : Id
  jobId : Id
  deriving DecidableEq, Repr

inductive ScopeType
  | cidr
  | ip
  | domain
  deriving DecidableEq, Repr

inductive ExecutorType
  | central
  | agent
  deriving DecidableEq, Repr

/-- A validated `DiscoveryCreate`; `cidr` repeats `scopeValue`. -/
structure DiscoveryCreate where
  scopeType : ScopeType
  scopeValue : String
  executorType : ExecutorType
  agentId : Option Id
  ports : List Nat
  includeDefaultPorts : Bool
  autoScan : Bool
  autoAvailabilityCheck : Bool
  deriving DecidableEq, Repr

/-- What a recompute is asked to cover; its `reason` text is not read by any function. -/
structure RecomputeRequest where
  assetId : Option Id
  targetId : Option Id
  snapshotId : Option Id
  weights : Option Weights
  persistWeightsAsDefault : Bool
  deriving DecidableEq, Repr

inductive RequestPayload
  | scanJob (targetIds : List Id) (scanners : List Scanner) (origin : Option Origin)
      (autoAvailabilityCheck : Option Bool)
  | discovery (request : DiscoveryCreate)
  | recompute (request : RecomputeRequest)
  deriving DecidableEq, Repr

def RequestPayload.autoAvailabilityCheck : RequestPayload → Option Bool
  | .scanJob _ _ _ flag => flag
  | .discovery request => some request.autoAvailabilityCheck
  | .recompute _ => none

def RequestPayload.autoScan : RequestPayload → Bool
  | .discovery request => request.autoScan
  | _ => true

/-- `AsyncJob.progress`, as the scan pipeline and as the two others write it. -/
inductive Progress
  | scan (completed total : Nat) (currentTarget : Option String) (currentScanner : Option Scanner)
  | count (current : Nat) (total : Option Nat) (percent : Nat)
  deriving DecidableEq, Repr

/-- `progress.get("total", 0)`; a count starts with the total `None`. -/
def Progress.total : Progress → Option Nat
  | .scan _ total _ _ => some total
  | .count _ total _ => total

/-- The entries `_enqueue_availability_check_if_requested` adds to a result. -/
structure Availability where
  runId : Id
  snapshotId : Id
  deriving DecidableEq, Repr

/-- What `run_scan_job_payload` returns. -/
structure ScanResult where
  scanJobId : Id
  snapshotId : Id
  assetsCount : Nat
  riskScoresCount : Nat
  availability : Option Availability
  deriving DecidableEq, Repr

/-- The `follow_up` entry of a discovery result. -/
structure FollowUp where
  targetCount : Nat
  autoAvailabilityCheck : Bool
  scanJobId : Option Id
  scanAsyncJobId : Option Id
  deriving DecidableEq, Repr

/-- What `run_discovery_payload` returns, without the availability report. -/
structure DiscoveryResult where
  discoveryId : Id
  executorType : ExecutorType
  endpointsCount : Nat
  followUp : Option FollowUp
  deriving DecidableEq, Repr

/-- What `run_recompute_payload` returns. -/
structure RecomputeResult where
  assetId : Option Id
  targetId : Option Id
  snapshotIds : List Id
  updatedScoresCount : Nat
  deriving DecidableEq, Repr

inductive JobResult
  | scan (result : ScanResult)
  | discovery (result : DiscoveryResult)
  | recompute (result : RecomputeResult)
  deriving DecidableEq, Repr

structure AsyncJob where
  kind : JobKind
  resourceId : Option Id := none
  status : JobStatus := .pending
  requestPayload : RequestPayload
  progress : Option Progress := none
  cancelRequestedAt : Option Time := none
  startedAt : Option Time := none
  finishedAt : Option Time := none
  result : Option JobResult := none
  error : Option String := none
  deriving DecidableEq, Repr

structure ScanJob where
  asyncJob : Id
  targetIds : List Id
  scannerSelection : List Scanner
  deriving DecidableEq, Repr

/-- `QueuedTask.payload`; which of the five pipelines a task belongs to is its `task_name`. -/
inductive TaskPayload
  | scanJob (scanJobId : Id) (targetIds : List Id) (scanners : List Scanner)
  | discovery (discoveryId : Id)
  | recompute (request : RecomputeRequest)
  | qualitativeAssessment (assetId : Id)
  | performanceRun (runId snapshotId : Id)
  deriving DecidableEq, Repr

structure QueuedTask where
  asyncJob : Option Id
  payload : TaskPayload
  status : TaskStatus := .queued
  attempts : Nat := 0
  availableAt : Option Time := none
  lockedAt : Option Time := none
  lastError : Option String := none
  deriving DecidableEq, Repr

/-! ## 2. Discoveries -/

structure Discovery where
  asyncJob : Id
  scopeType : ScopeType
  scopeValue : String
  cidr : String
  executorType : ExecutorType
  discoveryAgent : Option Id
  ports : List Nat
  includeDefaultPorts : Bool
  status : JobStatus
  startedAt : Option Time := none
  finishedAt : Option Time := none
  error : Option String := none
  deriving DecidableEq, Repr

structure DiscoveredEndpoint where
  discovery : Id
  target : Option Id
  promoted : Bool
  deriving DecidableEq, Repr

/-! ## 3. Targets, snapshots and assets -/

inductive ProtocolHint
  | tls
  | ssh
  | ike
  | smtp
  | imap
  | pop3
  | unknown
  deriving DecidableEq, Repr

def ProtocolHint.text : ProtocolHint → List Char
  | .tls => "TLS".toList
  | .ssh => "SSH".toList
  | .ike => "IKE".toList
  | .smtp => "SMTP".toList
  | .imap => "IMAP".toList
  | .pop3 => "POP3".toList
  | .unknown => "UNKNOWN".toList

inductive Transport
  | tcp
  | udp
  deriving DecidableEq, Repr

/-- `Target.context`: the five fields and the evidence that homepage inference stores. -/
structure TargetContext where
  field : Context
  homepageInference : Option Json := none
  deriving DecidableEq

structure Target where
  host : String
  displayName : Option String
  ip : Option IpAddress
  port : Nat
  protocolHint : ProtocolHint
  sni : Option String
  transport : Transport
  agentEnabled : Bool
  agentUrl : Option String
  context : TargetContext
  deriving DecidableEq

structure SnapshotSummary where
  assetCount : Nat
  targetCount : Nat
  byType : List (List Char × Nat)
  byAlgorithmFamily : List (List Char × Nat)
  byScanner : List (List Char × Nat)
  deriving DecidableEq, Repr

structure CbomSnapshot where
  scanJob : Id
  summary : SnapshotSummary
  deriving DecidableEq, Repr

structure Asset where
  snapshot : Option Id
  target : Option Id
  name : List Char
  assetClass : List Char
  assetType : List Char
  bomRef : List Char
  algorithm : List Char
  algorithmFamily : List Char
  metadata : Json
  deriving DecidableEq, Repr

/-- `AssetContextOverride`: the values, and which of them are in `override_keys`. -/
structure AssetContextOverride where
  asset : Id
  value : Context
  overrideKeys : List ContextField
  deriving DecidableEq

/-! ## 4. Risk and performance -/

/-- `RiskScore`; `result` and `context` are its score, tier and factors. -/
structure RiskScore where
  snapshot : Option Id
  asset : Id
  result : RiskResult
  context : Context
  deriving DecidableEq

inductive RunStatus
  | pending
  | running
  | completed
  | failed
  deriving DecidableEq, Repr

inductive RunTrigger
  | manual
  | postMigration
  | scheduled
  | canary
  | discovery
  deriving DecidableEq, Repr

inductive RunProfile
  | smoke
  | baseline
  | canary
  | stress
  deriving DecidableEq, Repr

/-- The `runner` entry of a run's summary. -/
inductive RunnerState
  | queued
  | running
  | completed
  | failed (error : String)
  deriving DecidableEq, Repr

structure PerformanceEvaluationRun where
  snapshot : Id
  trigger : RunTrigger
  profile : RunProfile
  status : RunStatus
  runner : Option RunnerState := none
  startedAt : Option Time := none
  completedAt : Option Time := none
  deriving DecidableEq, Repr

/-! ## 5. The tables -/

structure Database where
  jobs : Table AsyncJob := .empty
  scanJobs : Table ScanJob := .empty
  tasks : Table QueuedTask := .empty
  discoveries : Table Discovery := .empty
  endpoints : Table DiscoveredEndpoint := .empty
  targets : Table Target := .empty
  snapshots : Table CbomSnapshot := .empty
  assets : Table Asset := .empty
  overrides : Table AssetContextOverride := .empty
  scores : Table RiskScore := .empty
  weights : Table Weights := .empty
  runs : Table PerformanceEvaluationRun := .empty

inductive DbError
  | doesNotExist
  | notQueued (taskId : Id)
  | typeError
  deriving DecidableEq, Repr

namespace Database

def get {α : Type} (t : Table α) (id : Id) : Except DbError α :=
  match t.find? id with
  | some row => .ok row
  | none => .error .doesNotExist

theorem get_eq_ok {α : Type} {t : Table α} {id : Id} {row : α} :
    get t id = .ok row ↔ t.find? id = some row := by
  unfold get
  cases t.find? id <;> simp

def saveTask (db : Database) (id : Id) (f : QueuedTask → QueuedTask) : Database :=
  { db with tasks := db.tasks.modify id f }

def saveJob (db : Database) (id : Id) (f : AsyncJob → AsyncJob) : Database :=
  { db with jobs := db.jobs.modify id f }

def saveDiscovery (db : Database) (id : Id) (f : Discovery → Discovery) : Database :=
  { db with discoveries := db.discoveries.modify id f }

def saveRun (db : Database) (id : Id)
    (f : PerformanceEvaluationRun → PerformanceEvaluationRun) : Database :=
  { db with runs := db.runs.modify id f }

variable (db : Database) (id : Id)

@[simp] theorem saveTask_tasks (f : QueuedTask → QueuedTask) :
    (db.saveTask id f).tasks = db.tasks.modify id f := rfl

@[simp] theorem saveJob_jobs (f : AsyncJob → AsyncJob) :
    (db.saveJob id f).jobs = db.jobs.modify id f := rfl

@[simp] theorem saveDiscovery_discoveries (f : Discovery → Discovery) :
    (db.saveDiscovery id f).discoveries = db.discoveries.modify id f := rfl

@[simp] theorem saveRun_jobs (f : PerformanceEvaluationRun → PerformanceEvaluationRun) :
    (db.saveRun id f).jobs = db.jobs := rfl

@[simp] theorem saveRun_tasks (f : PerformanceEvaluationRun → PerformanceEvaluationRun) :
    (db.saveRun id f).tasks = db.tasks := rfl

@[simp] theorem saveRun_discoveries (f : PerformanceEvaluationRun → PerformanceEvaluationRun) :
    (db.saveRun id f).discoveries = db.discoveries := rfl

end Database

end CryptoScanner
