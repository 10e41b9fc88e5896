import Mathlib.Data.List.Sort
import CryptoScanner.Models

/-!
# Enqueueing and cancelling jobs

The transactions of the API that put work on the queue and take it back.  The rows a request
inserts, and the second save that fills in `resource_id`, belong to one transaction, so a job is
inserted with its resource id.
-/

namespace CryptoScanner.Jobs

open Library Database

/-! ## 1. Enqueueing -/

def enqueueTask (db : Database) (payload : TaskPayload) (asyncJob : Option Id) (now : Time) :
    Database :=
  { db with tasks := db.tasks.insert { asyncJob, payload, availableAt := some now } }

def enqueueScanJob (db : Database) (scanJobId : Id) (scanJob : ScanJob) (now : Time) : Database :=
  enqueueTask db (.scanJob scanJobId scanJob.targetIds scanJob.scannerSelection)
    (some scanJob.asyncJob) now

def openScanJob (db : Database) (targetIds : List Id) (scanners : List Scanner)
    (origin : Option Origin) (autoAvailabilityCheck : Option Bool) (now : Time) : Database :=
  let scanJob : ScanJob :=
    { asyncJob := db.jobs.nextId, targetIds, scannerSelection := scanners }
  let scanJobId := db.scanJobs.nextId
  let asyncJob : AsyncJob :=
    { kind := .scanJob
      resourceId := some scanJobId
      requestPayload := .scanJob targetIds scanners origin autoAvailabilityCheck }
  enqueueScanJob
    { db with jobs := db.jobs.insert asyncJob, scanJobs := db.scanJobs.insert scanJob }
    scanJobId scanJob now

def createScanJob (db : Database) (targetIds : List Id) (scanners : List Scanner) (now : Time) :
    Database :=
  openScanJob db targetIds scanners none none now

/-- The recompute job that a recompute request, a change of a target's context and a change of an
asset's context each open. -/
def createRecomputeJob (db : Database) (request : RecomputeRequest) (now : Time) : Database :=
  let asyncJob : AsyncJob :=
    { kind := .recompute
      resourceId := some db.jobs.nextId
      requestPayload := .recompute request }
  enqueueTask { db with jobs := db.jobs.insert asyncJob } (.recompute request)
    (some db.jobs.nextId) now

def enqueueQualitativeAssessment (db : Database) (assetId : Id) (now : Time) : Database :=
  enqueueTask db (.qualitativeAssessment assetId) none now

/-- `create_run` for a trigger that needs no baseline snapshot; its id is `db.runs.nextId`. -/
def createRun (db : Database) (snapshotId : Id) (trigger : RunTrigger) (profile : RunProfile) :
    Database :=
  { db with
    runs := db.runs.insert { snapshot := snapshotId, trigger, profile, status := .pending } }

def enqueueRun (db : Database) (runId snapshotId : Id) (now : Time) : Database :=
  enqueueTask db (.performanceRun runId snapshotId) none now

/-! ## 2. `POST /discoveries` -/

def matchesScope (request : DiscoveryCreate) (discovery : Discovery) : Bool :=
  discovery.scopeType == request.scopeType && discovery.scopeValue == request.scopeValue &&
    discovery.executorType == request.executorType &&
    discovery.discoveryAgent == request.agentId

def enqueueDiscovery (db : Database) (discoveryId asyncJob : Id) (now : Time) : Database :=
  enqueueTask db (.discovery discoveryId) (some asyncJob) now

def discoveryJob (request : DiscoveryCreate) (discoveryId : Id) : AsyncJob :=
  { kind := .discovery
    resourceId := some discoveryId
    requestPayload := .discovery request }

def reattach (request : DiscoveryCreate) (asyncJob : Id) (discovery : Discovery) : Discovery :=
  { discovery with
    asyncJob
    cidr := request.scopeValue
    ports := request.ports
    includeDefaultPorts := request.includeDefaultPorts
    status := .pending
    startedAt := none
    finishedAt := none
    error := none }

/-- `create_discovery` from the point where the lookup has locked the row `discoveryId`. -/
def rerunDiscovery (db : Database) (request : DiscoveryCreate) (discoveryId : Id) (now : Time) :
    Database :=
  let asyncJob := db.jobs.nextId
  enqueueDiscovery
    ({ db with jobs := db.jobs.insert (discoveryJob request discoveryId) }.saveDiscovery
      discoveryId (reattach request asyncJob))
    discoveryId asyncJob now

/-- `create_discovery` from the point where the lookup has found no row. -/
def insertDiscovery (db : Database) (request : DiscoveryCreate) (now : Time) : Database :=
  let asyncJob := db.jobs.nextId
  let discoveryId := db.discoveries.nextId
  let discovery : Discovery :=
    { asyncJob
      scopeType := request.scopeType
      scopeValue := request.scopeValue
      cidr := request.scopeValue
      executorType := request.executorType
      discoveryAgent := request.agentId
      ports := request.ports
      includeDefaultPorts := request.includeDefaultPorts
      status := .pending }
  enqueueDiscovery
    { db with
      jobs := db.jobs.insert (discoveryJob request discoveryId)
      discoveries := db.discoveries.insert discovery }
    discoveryId asyncJob now

/-! ## 3. Cancelling -/

def cancelQueuedTasks (db : Database) (jobId : Id) : Database :=
  { db with
    tasks := db.tasks.updateWhere
      (fun _ task => task.asyncJob == some jobId &&
        (task.status == .queued || task.status == .running))
      fun task => { task with status := .cancelled, lastError := some "cancel_requested" } }

/-- `_sync_cancelled_resource`; a job that no discovery references any more has no resource. -/
def syncCancelledResource (db : Database) (jobId : Id) (kind : JobKind) (finishedAt : Time) :
    Database :=
  if kind ≠ .discovery then db
  else
    match db.discoveries.first? (·.asyncJob == jobId) with
    | none => db
    | some discoveryId =>
        db.saveDiscovery discoveryId fun discovery =>
          { discovery with
            status := .cancelled
            finishedAt := some (discovery.finishedAt.getD finishedAt)
            error :=
              if discovery.error.getD "" = "" then some "cancel_requested" else discovery.error }

/-- `request_cancel` on the locked row; `none` is a refusal. -/
def requestCancel (db : Database) (jobId : Id) (asyncJob : AsyncJob) (now : Time) :
    Option Database :=
  if asyncJob.status = .cancelled then
    let finishedAt := asyncJob.finishedAt.getD now
    let db := db.saveJob jobId fun job =>
      { job with
        cancelRequestedAt := some (job.cancelRequestedAt.getD now)
        finishedAt := some finishedAt }
    some (syncCancelledResource (cancelQueuedTasks db jobId) jobId asyncJob.kind finishedAt)
  else if asyncJob.status = .completed ∨ asyncJob.status = .failed then none
  else if asyncJob.kind = .recompute ∧ asyncJob.status = .running then none
  else
    let db := db.saveJob jobId fun job =>
      { job with
        status := .cancelled
        cancelRequestedAt := some (job.cancelRequestedAt.getD now)
        finishedAt := some (job.finishedAt.getD now) }
    some (syncCancelledResource (cancelQueuedTasks db jobId) jobId asyncJob.kind now)

inductive CancelResponse
  | accepted
  | notCancellable
  | notFound
  deriving DecidableEq, Repr

def cancelJob (db : Database) (jobId : Id) (now : Time) : Database × CancelResponse :=
  match db.jobs.find? jobId with
  | none => (db, .notFound)
  | some asyncJob =>
      match requestCancel db jobId asyncJob now with
      | none => (db, .notCancellable)
      | some db => (db, .accepted)

end CryptoScanner.Jobs
