import CryptoScanner.Jobs.Services

/-!
# The five worker pipelines

Each pipeline handles a task in three pieces: the transaction that claims it, the body, and the
transaction that completes or fails it.  A transaction that raises is rolled back.  This module holds
the transactions; what a body returns or raises is theirs to take.
-/

namespace CryptoScanner.Jobs

open Library Database

/-! ## 1. What the transactions save on a row -/

section RowUpdates

def takeTask (now : Time) (task : QueuedTask) : QueuedTask :=
  { task with status := .running, attempts := task.attempts + 1, lockedAt := some now }

def dropTask (task : QueuedTask) : QueuedTask := { task with status := .cancelled }

def completeTask (task : QueuedTask) : QueuedTask :=
  { task with status := .completed, lastError := none }

def failTask (error : String) (task : QueuedTask) : QueuedTask :=
  { task with status := .failed, lastError := some error }

def beginJob (progress : Progress) (now : Time) (job : AsyncJob) : AsyncJob :=
  { job with
    status := .running
    startedAt := some (job.startedAt.getD now)
    progress := some progress }

def completeJob (progress : Progress) (result : JobResult) (now : Time) (job : AsyncJob) :
    AsyncJob :=
  { job with
    status := .completed
    progress := some progress
    result := some result
    error := none
    finishedAt := some now }

def failJob (error : String) (now : Time) (job : AsyncJob) : AsyncJob :=
  { job with status := .failed, error := some error, finishedAt := some now }

def beginDiscovery (now : Time) (discovery : Discovery) : Discovery :=
  { discovery with
    status := .running
    startedAt := some (discovery.startedAt.getD now)
    error := none }

def completeDiscovery (now : Time) (discovery : Discovery) : Discovery :=
  { discovery with status := .completed, finishedAt := some now, error := none }

def truncateError (error : String) : String := String.ofList (error.toList.take 255)

def failDiscovery (error : String) (now : Time) (discovery : Discovery) : Discovery :=
  { discovery with
    status := .failed
    error := some (truncateError error)
    finishedAt := some now }

def updateRunStatus (status : RunStatus) (runner : RunnerState) (now : Time)
    (run : PerformanceEvaluationRun) : PerformanceEvaluationRun :=
  { run with
    status
    runner := some runner
    startedAt := if status = .running then some (run.startedAt.getD now) else run.startedAt
    completedAt :=
      if status = .completed ∨ status = .failed then some (run.completedAt.getD now)
      else run.completedAt }

end RowUpdates

/-! ## 2. Claiming -/

/-- How a claim that commits ends: with nothing to do, or with the body left to run. -/
inductive Claim
  | skipped (db : Database)
  | started (db : Database)

def Claim.db : Claim → Database
  | .skipped db => db
  | .started db => db

/-- What a pipeline reads before it takes a task: the job it moves to RUNNING with the progress it
gives it, and what it saves on the task's resource. -/
structure Prepared where
  job : Option (Id × Progress)
  saveResource : Database → Database

def claimTask (prepare : Database → QueuedTask → Except DbError Prepared) (db : Database)
    (taskId : Id) (now : Time) : Except DbError Claim := do
  let task ← get db.tasks taskId
  if task.status = .cancelled then
    return .skipped db
  if task.status ≠ .queued then
    throw (.notQueued taskId)
  let prepared ← prepare db task
  let taken := db.saveTask taskId (takeTask now)
  match prepared.job with
  | none => return .started (prepared.saveResource taken)
  | some (jobId, progress) =>
      let job ← get db.jobs jobId
      if job.status = .cancelled then
        return .skipped (taken.saveTask taskId dropTask)
      return .started (prepared.saveResource (taken.saveJob jobId (beginJob progress now)))

/-- The row that `async_job.scan_job` reaches. -/
def scanJobOf (db : Database) (jobId : Id) : Except DbError ScanJob :=
  match db.scanJobs.first? (·.asyncJob == jobId) with
  | none => throw .doesNotExist
  | some scanJobId => get db.scanJobs scanJobId

/-- The first transaction of `process_scan_job_task`. -/
def claimScanJobTask : Database → Id → Time → Except DbError Claim :=
  claimTask fun db task =>
    match task.asyncJob with
    | none => throw .doesNotExist
    | some jobId => do
        let scanJob ← scanJobOf db jobId
        let total := scanJob.targetIds.length * scanJob.scannerSelection.length
        return { job := some (jobId, .scan 0 total none none), saveResource := id }

/-- The first transaction of `process_discovery_task`. -/
def claimDiscoveryTask (discoveryId : Id) (db : Database) (taskId : Id) (now : Time) :
    Except DbError Claim :=
  claimTask (fun db task => do
      let _ ← get db.discoveries discoveryId
      return {
        job := task.asyncJob.map fun jobId => (jobId, .count 0 none 0)
        saveResource := fun db => db.saveDiscovery discoveryId (beginDiscovery now) })
    db taskId now

/-- The first transaction of `process_recompute_task`. -/
def claimRecomputeTask : Database → Id → Time → Except DbError Claim :=
  claimTask fun _ task => return {
    job := task.asyncJob.map fun jobId => (jobId, .count 0 none 0)
    saveResource := id }

/-- The first transaction of `process_qualitative_assessment_task`, which looks at no job. -/
def claimQualitativeAssessmentTask : Database → Id → Time → Except DbError Claim :=
  claimTask fun _ _ => return { job := none, saveResource := id }

/-- The first transaction of `process_performance_run_task`, which looks at no job. -/
def claimPerformanceRunTask (runId : Id) (db : Database) (taskId : Id) (now : Time) :
    Except DbError Claim :=
  claimTask (fun db _ => do
      let run ← get db.runs runId
      return {
        job := none
        saveResource := fun db =>
          if run.status = .pending then
            db.saveRun runId fun run =>
              { run with
                status := .running
                startedAt := some (run.startedAt.getD now)
                runner := some .queued }
          else db })
    db taskId now

def claim (db : Database) (taskId : Id) (now : Time) : Except DbError Claim := do
  let task ← get db.tasks taskId
  match task.payload with
  | .scanJob _ _ _ => claimScanJobTask db taskId now
  | .discovery discoveryId => claimDiscoveryTask discoveryId db taskId now
  | .recompute _ => claimRecomputeTask db taskId now
  | .qualitativeAssessment _ => claimQualitativeAssessmentTask db taskId now
  | .performanceRun runId _ => claimPerformanceRunTask runId db taskId now

/-! ## 3. Completing -/

def enqueueAvailabilityCheckIfRequested (db : Database) (asyncJob : AsyncJob) (result : ScanResult)
    (now : Time) : Except DbError (ScanResult × Database) := do
  if asyncJob.requestPayload.autoAvailabilityCheck ≠ some true then
    return (result, db)
  let _ ← get db.snapshots result.snapshotId
  let runId := db.runs.nextId
  let db := createRun db result.snapshotId .discovery .smoke
  return ({ result with availability := some { runId, snapshotId := result.snapshotId } },
    enqueueRun db runId result.snapshotId now)

def completeScanJobTask (db : Database) (taskId : Id) (result : ScanResult) (now : Time) :
    Except DbError Database := do
  let task ← get db.tasks taskId
  match task.asyncJob with
  | none => throw .doesNotExist
  | some jobId =>
      let asyncJob ← get db.jobs jobId
      if asyncJob.status = .cancelled then
        return db.saveTask taskId dropTask
      let (result, db) ←
        enqueueAvailabilityCheckIfRequested (db.saveTask taskId completeTask) asyncJob result now
      let total := (asyncJob.progress.bind Progress.total).getD 0
      return db.saveJob jobId (completeJob (.scan total total none none) (.scan result) now)

/-- The targets of a discovery's promoted endpoints, in ascending order and each once. -/
def promotedTargetIds (db : Database) (discoveryId : Id) : List Id :=
  let promoted := db.endpoints.ids fun endpoint =>
    endpoint.discovery == discoveryId && endpoint.promoted
  (promoted.filterMap fun id => (db.endpoints.find? id).bind (·.target)).dedup.insertionSort
    (· ≤ ·)

def enqueueFollowUpScan (db : Database) (discoveryId jobId : Id) (asyncJob : AsyncJob)
    (result : DiscoveryResult) (now : Time) : DiscoveryResult × Database :=
  if asyncJob.requestPayload.autoScan = false then (result, db)
  else
    let targetIds := promotedTargetIds db discoveryId
    let autoAvailabilityCheck := asyncJob.requestPayload.autoAvailabilityCheck.getD true
    let followUp : FollowUp :=
      { targetCount := targetIds.length
        autoAvailabilityCheck
        scanJobId := none
        scanAsyncJobId := none }
    if targetIds = [] then ({ result with followUp := some followUp }, db)
    else
      ({ result with
          followUp := some { followUp with
            scanJobId := some db.scanJobs.nextId
            scanAsyncJobId := some db.jobs.nextId } },
        openScanJob db targetIds [.network] (some { discoveryId, jobId })
          (some autoAvailabilityCheck) now)

/-- `_complete_discovery_task`; a save on a discovery that is gone changes nothing. -/
def completeDiscoveryTask (db : Database) (taskId discoveryId : Id) (result : DiscoveryResult)
    (now : Time) : Except DbError Database := do
  let task ← get db.tasks taskId
  let settled :=
    (db.saveTask taskId completeTask).saveDiscovery discoveryId (completeDiscovery now)
  match task.asyncJob with
  | none => return settled
  | some jobId =>
      let asyncJob ← get db.jobs jobId
      if asyncJob.status = .cancelled then
        return db.saveTask taskId dropTask
      let (result, db) :=
        if (db.discoveries.find? discoveryId).isSome then
          enqueueFollowUpScan settled discoveryId jobId asyncJob result now
        else (result, settled)
      let count := result.endpointsCount
      return db.saveJob jobId
        (completeJob (.count count (some count) 100) (.discovery result) now)

/-- `_complete_recompute_task`, which does not look at the job's status. -/
def completeRecomputeTask (db : Database) (taskId : Id) (result : RecomputeResult) (now : Time) :
    Except DbError Database := do
  let task ← get db.tasks taskId
  let db := db.saveTask taskId completeTask
  match task.asyncJob with
  | none => return db
  | some jobId =>
      let count := result.updatedScoresCount
      return db.saveJob jobId
        (completeJob (.count count (some count) 100) (.recompute result) now)

/-- `_complete_qualitative_assessment_task` and `_complete_performance_run_task` -/
def completeJoblessTask (db : Database) (taskId : Id) : Except DbError Database := do
  let _ ← get db.tasks taskId
  return db.saveTask taskId completeTask

inductive BodyResult
  | scanJob (result : ScanResult)
  | discovery (result : DiscoveryResult)
  | recompute (result : RecomputeResult)
  | qualitativeAssessment
  | performanceRun

/-- The completing transaction of the pipeline that the task belongs to.  A body returns a result of
its own pipeline only. -/
def complete (db : Database) (taskId : Id) (result : BodyResult) (now : Time) :
    Except DbError Database := do
  let task ← get db.tasks taskId
  match task.payload, result with
  | .scanJob _ _ _, .scanJob result => completeScanJobTask db taskId result now
  | .discovery discoveryId, .discovery result =>
      completeDiscoveryTask db taskId discoveryId result now
  | .recompute _, .recompute result => completeRecomputeTask db taskId result now
  | .qualitativeAssessment _, .qualitativeAssessment => completeJoblessTask db taskId
  | .performanceRun _ _, .performanceRun => completeJoblessTask db taskId
  | _, _ => throw .typeError

/-! ## 4. Failing -/

def failScanJobTask (db : Database) (taskId : Id) (error : String) (now : Time) :
    Except DbError Database := do
  let task ← get db.tasks taskId
  match task.asyncJob with
  | none => throw .doesNotExist
  | some jobId => return (db.saveTask taskId (failTask error)).saveJob jobId (failJob error now)

def failRecomputeTask (db : Database) (taskId : Id) (error : String) (now : Time) :
    Except DbError Database := do
  let task ← get db.tasks taskId
  let db := db.saveTask taskId (failTask error)
  match task.asyncJob with
  | none => return db
  | some jobId => return db.saveJob jobId (failJob error now)

/-- `_fail_discovery_task`; a save on a discovery that is gone changes nothing. -/
def failDiscoveryTask (db : Database) (taskId discoveryId : Id) (error : String) (now : Time) :
    Except DbError Database := do
  let task ← get db.tasks taskId
  let db := (db.saveTask taskId (failTask error)).saveDiscovery discoveryId
    (failDiscovery error now)
  match task.asyncJob with
  | none => return db
  | some jobId => return db.saveJob jobId (failJob error now)

def failQualitativeAssessmentTask (db : Database) (taskId : Id) (error : String) :
    Except DbError Database := do
  let _ ← get db.tasks taskId
  return db.saveTask taskId (failTask error)

/-- `_fail_performance_run_task`; a save on a run that is gone changes nothing. -/
def failPerformanceRunTask (db : Database) (taskId runId : Id) (error : String) (now : Time) :
    Except DbError Database := do
  let _ ← get db.tasks taskId
  return (db.saveTask taskId (failTask error)).saveRun runId
    (updateRunStatus .failed (.failed (truncateError error)) now)

/-- The failing transaction of the pipeline that the task belongs to. -/
def fail (db : Database) (taskId : Id) (error : String) (now : Time) : Except DbError Database := do
  let task ← get db.tasks taskId
  match task.payload with
  | .scanJob _ _ _ => failScanJobTask db taskId error now
  | .discovery discoveryId => failDiscoveryTask db taskId discoveryId error now
  | .recompute _ => failRecomputeTask db taskId error now
  | .qualitativeAssessment _ => failQualitativeAssessmentTask db taskId error
  | .performanceRun runId _ => failPerformanceRunTask db taskId runId error now

end CryptoScanner.Jobs
