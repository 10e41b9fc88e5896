import Mathlib.Logic.Function.Basic
import CryptoScanner.Jobs.Pipelines
import CryptoScanner.Library.Transition

/-!
# The queue with its workers

The system is the database with any number of worker processes and of API requests.  Each
transaction is one step.  A worker that has claimed a task holds it until its completing or failing
transaction; in between its body may write, and every other step may fall there.
-/

namespace CryptoScanner.Jobs

open Library Database

abbrev WorkerId := Nat

structure System where
  db : Database
  /-- The task whose body the worker is in. -/
  busy : WorkerId → Option Id
  /-- Every start of a body so far, the latest one first. -/
  started : List (WorkerId × Id)
  /-- The `POST /discoveries` requests whose lookup has found no row and that have yet to insert. -/
  posting : List DiscoveryCreate

inductive BodyWrite
  | updateProgress (completed total : Nat) (target : String) (scanner : Scanner)
  | saveSnapshot (snapshot : CbomSnapshot)
  | saveEndpoint (endpoint : DiscoveredEndpoint)
  | updateRun (status : RunStatus) (runner : RunnerState)

inductive Action
  | createScanJob (targetIds : List Id) (scanners : List Scanner)
  | createDiscovery (request : DiscoveryCreate)
  | insertDiscovery (index : Nat)
  | createRecomputeJob (request : RecomputeRequest)
  | enqueueQualitativeAssessment (assetId : Id)
  | createRun (snapshotId : Id) (trigger : RunTrigger) (profile : RunProfile) (autoStart : Bool)
  | cancel (jobId : Id)
  | claim (worker : WorkerId) (taskId : Id)
  | write (worker : WorkerId) (write : BodyWrite)
  | finish (worker : WorkerId) (result : BodyResult)
  | raise (worker : WorkerId) (error : String)

def bodyWrite (db : Database) (task : QueuedTask) (now : Time) : BodyWrite → Database
  | .updateProgress completed total target scanner =>
      match task.asyncJob with
      | none => db
      | some jobId => db.saveJob jobId fun job =>
          { job with progress := some (.scan completed total (some target) (some scanner)) }
  | .saveSnapshot snapshot => { db with snapshots := db.snapshots.insert snapshot }
  | .saveEndpoint endpoint => { db with endpoints := db.endpoints.insert endpoint }
  | .updateRun status runner =>
      match task.payload with
      | .performanceRun runId _ => db.saveRun runId (updateRunStatus status runner now)
      | _ => db

namespace System

def release (s : System) (worker : WorkerId) : System :=
  { s with busy := Function.update s.busy worker none }

/-- The end of a body: its last transaction commits, or is rolled back when it raises. -/
def endBody (s : System) (worker : WorkerId) (outcome : Except DbError Database) : System :=
  match outcome with
  | .ok db => { s with db }.release worker
  | .error _ => s.release worker

end System

/-- One step at the time `now`; `none` where the step is not enabled. -/
def step (s : System) : Action × Time → Option System
  | (.createScanJob targetIds scanners, now) =>
      some { s with db := Jobs.createScanJob s.db targetIds scanners now }
  | (.createDiscovery request, now) =>
      match s.db.discoveries.last? (matchesScope request) with
      | none => some { s with posting := request :: s.posting }
      | some discoveryId => do
          let discovery ← s.db.discoveries.find? discoveryId
          if discovery.status = .pending ∨ discovery.status = .running then
            return s
          return { s with db := rerunDiscovery s.db request discoveryId now }
  | (.insertDiscovery index, now) => do
      let request ← s.posting[index]?
      return { s with
        db := Jobs.insertDiscovery s.db request now
        posting := s.posting.eraseIdx index }
  | (.createRecomputeJob request, now) =>
      some { s with db := Jobs.createRecomputeJob s.db request now }
  | (.enqueueQualitativeAssessment assetId, now) =>
      some { s with db := Jobs.enqueueQualitativeAssessment s.db assetId now }
  | (.createRun snapshotId trigger profile autoStart, now) =>
      let created := Jobs.createRun s.db snapshotId trigger profile
      some { s with
        db := if autoStart then enqueueRun created s.db.runs.nextId snapshotId now else created }
  | (.cancel jobId, now) => some { s with db := (cancelJob s.db jobId now).1 }
  | (.claim worker taskId, now) =>
      match s.busy worker with
      | some _ => none
      | none =>
          match Jobs.claim s.db taskId now with
          | .error _ => some s
          | .ok (.skipped db) => some { s with db }
          | .ok (.started db) =>
              some { s with
                db
                busy := Function.update s.busy worker (some taskId)
                started := (worker, taskId) :: s.started }
  | (.write worker write, now) => do
      let taskId ← s.busy worker
      let task ← s.db.tasks.find? taskId
      return { s with db := bodyWrite s.db task now write }
  | (.finish worker result, now) => do
      let taskId ← s.busy worker
      return s.endBody worker (complete s.db taskId result now)
  | (.raise worker error, now) => do
      let taskId ← s.busy worker
      return s.endBody worker (fail s.db taskId error now)

end CryptoScanner.Jobs
