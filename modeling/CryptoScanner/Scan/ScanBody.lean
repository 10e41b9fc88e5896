import CryptoScanner.Jobs.Pipelines
import CryptoScanner.Library.Statements
import CryptoScanner.Risk.Services
import CryptoScanner.Scan.Persist
import CryptoScanner.Targets.Services

/-!
# The body of a scan

`run_scan_job_payload` as the statements it executes.  The body opens no transaction, so each of them
commits by itself.
-/

namespace CryptoScanner.Scan

open Library Python RiskEngine Risk Targets

/-! ## 1. Statements -/

def scannerText : Scanner → List Char
  | .network => "network".toList
  | .agentCertStore => "agent.cert_store".toList
  | .agentPkgKeyring => "agent.pkg_keyring".toList
  | .agentSshUserkey => "agent.ssh_userkey".toList
  | .agentSshConfig => "agent.ssh_config".toList
  | .agentKeystore => "agent.keystore".toList
  | .agentAppCertFiles => "agent.app_cert_files".toList
  | .agentPrivateKeyFiles => "agent.private_key_files".toList
  | .agentAppConfig => "agent.app_config".toList

inductive LogStatus
  | success
  | error
  | skipped
  deriving DecidableEq, Repr

structure ScanRunLog where
  target : Id
  scannerKind : Scanner
  status : LogStatus
  findingsCount : Nat
  error : Option String
  deriving DecidableEq, Repr

inductive Statement
  | loadScanJob
  | loadTargets
  | findAgent
  | inferContext (targetId : Id) (inference : Option HomepageInference)
  | log (entry : ScanRunLog)
  | progress (completed total : Nat) (targetId : Id) (scanner : Scanner)
  | insertSnapshot (unique : List AssetCandidate)
  | insertAsset (candidate : AssetCandidate)
  | resolveWeights
  | scoreAsset (weights : Weights) (assetId : Id)
  | countAssets

/-- The database, and the targets as the body has them in memory. -/
structure BodyState where
  db : Database
  targets : Id → Option Target

structure ScanTask where
  asyncJob : Id
  scanJobId : Id
  targetIds : List Id
  scanners : List Scanner

section

variable [PyText] (floatRepr : PyFloat → List Char)

/-- What a statement commits; `none` where it raises by itself.  The logs have no table here. -/
def Statement.commit (task : ScanTask) (snapshotId : Id) (s : BodyState) :
    Statement → Option BodyState
  | .loadScanJob => (s.db.scanJobs.find? task.scanJobId).map fun _ => s
  | .loadTargets =>
      if task.targetIds.all fun id => (s.db.targets.find? id).isSome then
        some { s with targets := fun id => if id ∈ task.targetIds then s.db.targets.find? id else none }
      else none
  | .findAgent => some s
  | .inferContext targetId inference => do
      let target ← s.targets targetId
      let written := applyHomepageContextInference s.db.targets targetId target.context inference
      return {
        db := { s.db with targets := written.1 }
        targets := Function.update s.targets targetId (some { target with context := written.2 }) }
  | .log _ => some s
  | .progress completed total targetId scanner => do
      let target ← s.targets targetId
      let current := target.host ++ ":" ++ toString target.port
      return { s with db := s.db.saveJob task.asyncJob fun job =>
        { job with progress := some (.scan completed total (some current) (some scanner)) } }
  | .insertSnapshot unique =>
      some { s with db := Scan.insertSnapshot s.db task.scanJobId unique }
  -- the foreign key is checked, and the constraint on the references
  | .insertAsset candidate => do
      let _ ← s.db.targets.find? candidate.targetId
      let db ← Scan.insertAsset snapshotId s.db candidate
      return { s with db }
  | .resolveWeights => (resolvedWeights s.db none).toOption.map fun _ => s
  | .scoreAsset weights assetId => do
      let asset ← s.db.assets.find? assetId
      let db ← (upsertAssetRisk s.db assetId asset weights).toOption
      return { s with db }
  | .countAssets => some s

/-- `except Exception: pass` stands around the inference only. -/
def Statement.caught : Statement → Bool
  | .inferContext _ _ => true
  | _ => false

/-! ## 2. Collecting -/

/-- What the scanners find on one target; the texts of exceptions are cut to 128 characters. -/
structure TargetFindings where
  network : Except String (List AssetCandidate)
  inference : Option HomepageInference
  /-- `_supported_agent_scanners` -/
  skipped : List (Scanner × String)
  supported : List Scanner
  agent : Except String (List AssetCandidate)

def runNetworkScanner (targetId : Id) (findings : TargetFindings) :
    List Statement × List AssetCandidate :=
  match findings.network with
  | .error error => ([.log ⟨targetId, .network, .error, 0, some error⟩], [])
  | .ok candidates =>
      ([.inferContext targetId findings.inference,
        .log ⟨targetId, .network, .success, candidates.length, none⟩], candidates)

def logScanners (completed total : Nat) (entries : List ScanRunLog) : List Statement :=
  entries.zipIdx.flatMap fun (entry, index) =>
    [.log entry, .progress (completed + index + 1) total entry.target entry.scannerKind]

/-- The statements of `_run_agent_scanners` after the skipped scanners are logged. -/
def runSupportedScanners (completed total : Nat) (targetId : Id) (findings : TargetFindings) :
    List Statement × List AssetCandidate :=
  match findings.agent with
  | .error error =>
      (.findAgent :: logScanners completed total (findings.supported.map fun scanner =>
        ⟨targetId, scanner, .error, 0, some error⟩), [])
  | .ok candidates =>
      let count := fun scanner => candidates.countP (·.scannerKind == scannerText scanner)
      (.findAgent :: logScanners completed total (findings.supported.map fun scanner =>
        ⟨targetId, scanner, .success, count scanner, none⟩), candidates)

def runAgentScanners (completed total : Nat) (targetId : Id) (findings : TargetFindings) :
    List Statement × List AssetCandidate :=
  let skipped := .findAgent :: logScanners completed total
    (findings.skipped.map fun (scanner, error) => ⟨targetId, scanner, .skipped, 0, some error⟩)
  if findings.supported = [] then (skipped, [])
  else
    let found := runSupportedScanners (completed + findings.skipped.length) total targetId findings
    (skipped ++ found.1, found.2)

def networkPart (scanners : List Scanner) (completed total : Nat) (targetId : Id)
    (findings : TargetFindings) : List Statement × List AssetCandidate :=
  if .network ∈ scanners then
    let found := runNetworkScanner targetId findings
    (found.1 ++ [.progress (completed + 1) total targetId .network], found.2)
  else ([], [])

def agentPart (scanners : List Scanner) (completed total : Nat) (targetId : Id)
    (findings : TargetFindings) : List Statement × List AssetCandidate :=
  if scanners.all (· == .network) then ([], [])
  else runAgentScanners completed total targetId findings

def collectTargets (scanners : List Scanner) (total : Nat) :
    Nat → List (Id × TargetFindings) → List Statement × List AssetCandidate
  | _, [] => ([], [])
  | completed, (targetId, findings) :: rest =>
      let network := networkPart scanners completed total targetId findings
      let completed := if .network ∈ scanners then completed + 1 else completed
      let agent := agentPart scanners completed total targetId findings
      let completed :=
        if scanners.all (· == .network) then completed
        else completed + findings.skipped.length + findings.supported.length
      let later := collectTargets scanners total completed rest
      (network.1 ++ agent.1 ++ later.1, network.2 ++ agent.2 ++ later.2)

/-! ## 3. The body -/

/-- The statements from the start of the body to the last asset, where the `findings` are those of the
targets in order. -/
def persistStatements (task : ScanTask) (findings : List TargetFindings) : List Statement :=
  let total := task.targetIds.length * task.scanners.length
  let collected := collectTargets task.scanners total 0 (task.targetIds.zip findings)
  let unique := dedupeCandidates floatRepr collected.2
  .loadScanJob :: .loadTargets :: collected.1 ++
    .insertSnapshot unique :: unique.map Statement.insertAsset

/-- `recompute_snapshot_risks`, and the count of the assets. -/
def scoreStatements (db : Database) (snapshotId : Id) : List Statement :=
  match resolvedWeights db none with
  | .error _ => [.resolveWeights]
  | .ok weights =>
      .resolveWeights :: (snapshotAssets db snapshotId).map (Statement.scoreAsset weights) ++
        [.countAssets]

/-- `run_scan_job_payload`: what it commits, and the statement that raises, if one does. -/
def runScanJobPayload (task : ScanTask) (findings : List TargetFindings) (raises : Nat → Bool)
    (db : Database) : Database × Option Statement :=
  let snapshotId := db.snapshots.nextId
  let persist := persistStatements floatRepr task findings
  let run := runStatements (fun x s => Statement.commit task snapshotId s x) Statement.caught raises
  match run 0 persist { db, targets := fun _ => none } with
  | (s, some x) => (s.db, some x)
  | (s, none) =>
      let scored := run persist.length (scoreStatements s.db snapshotId) s
      (scored.1.db, scored.2)

end

end CryptoScanner.Scan
