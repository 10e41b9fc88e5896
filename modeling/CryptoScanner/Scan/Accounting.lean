import Mathlib.Algebra.Order.BigOperators.Group.List
import Mathlib.Data.List.Perm.Basic
import CryptoScanner.Library.Dict
import CryptoScanner.Scan.ScanBody

/-!
# What a scan logs

Every scanner that is asked for on a target is to leave one log and one step of the progress counter.
The network scanner is run once for a target however often it is asked for, and the scanners that the
target's agent does not support are collected in a dictionary before they are logged.
-/

namespace CryptoScanner.Scan

open Library Python RiskEngine Risk Targets

/-! ## 1. Which scanners a target's agent supports -/

structure Agent where
  hostname : String
  isHost : Bool
  active : Bool
  agentUrl : Option String
  agentRuntimeToken : Option String
  capabilities : List (List Char)
  lastSeen : Option Time
  deriving DecidableEq, Repr

/-- `STALE_AFTER`, five minutes in seconds -/
def staleAfter : Time := 300

def isStale (agent : Agent) (now : Time) : Bool :=
  match agent.lastSeen with
  | none => true
  | some lastSeen => lastSeen + staleAfter < now

/-- The active host agent of a host; host names and roles are unique together. -/
def hostAgent (agents : List Agent) (host : String) : Option Agent :=
  agents.find? fun agent => agent.hostname == host && agent.isHost && agent.active

def filled (text : Option String) : Bool := text.any (· ≠ "")

def skipAll (scannerKinds : List Scanner) (error : String) : List (Scanner × String) :=
  Dict.update [] (scannerKinds.map fun scanner => (scanner, error))

def supportedAgentScanners (target : Target) (agents : List Agent) (now : Time)
    (scannerKinds : List Scanner) : List Scanner × List (Scanner × String) :=
  if target.agentEnabled = false then ([], skipAll scannerKinds "agent_disabled")
  else
    match hostAgent agents target.host with
    | none => ([], skipAll scannerKinds "agent_unavailable")
    | some agent =>
        if isStale agent now then ([], skipAll scannerKinds "agent_stale")
        else if ¬ (filled agent.agentUrl ∧ filled agent.agentRuntimeToken) then
          ([], skipAll scannerKinds "agent_unavailable")
        else
          (scannerKinds.filter fun scanner => scannerText scanner ∈ agent.capabilities,
            skipAll (scannerKinds.filter fun scanner => scannerText scanner ∉ agent.capabilities)
              "capability_unsupported")

/-- The target has agent scanning on, and an active agent that was seen lately, can be reached and has
the capability. -/
def supports (target : Target) (agents : List Agent) (now : Time) (scanner : Scanner) : Bool :=
  target.agentEnabled && (hostAgent agents target.host).any fun agent =>
    !isStale agent now && filled agent.agentUrl && filled agent.agentRuntimeToken &&
      decide (scannerText scanner ∈ agent.capabilities)

theorem supportedAgentScanners_eq (target : Target) (agents : List Agent) (now : Time)
    (scannerKinds : List Scanner) :
    ∃ error, supportedAgentScanners target agents now scannerKinds =
      (scannerKinds.filter fun scanner => supports target agents now scanner,
        skipAll (scannerKinds.filter fun scanner => ! supports target agents now scanner) error) := by
  have hnone : ∀ error, (∀ scanner, supports target agents now scanner = false) →
      ([], skipAll scannerKinds error) =
        (scannerKinds.filter fun scanner => supports target agents now scanner,
          skipAll (scannerKinds.filter fun scanner => ! supports target agents now scanner)
            error) := by
    intro error h
    have hempty : (scannerKinds.filter fun scanner => supports target agents now scanner) = [] :=
      List.filter_eq_nil_iff.mpr fun scanner _ => by rw [h scanner]; exact Bool.false_ne_true
    have hall : (scannerKinds.filter fun scanner => ! supports target agents now scanner) =
        scannerKinds :=
      List.filter_eq_self.mpr fun scanner _ => by rw [h scanner]; rfl
    rw [hempty, hall]
  -- the gates in their order: each that fails skips every scanner
  unfold supportedAgentScanners
  by_cases henabled : target.agentEnabled = false
  · rw [if_pos henabled]
    exact ⟨_, hnone _ fun scanner => by rw [supports, henabled, Bool.false_and]⟩
  · rw [if_neg henabled]
    cases hagent : hostAgent agents target.host with
    | none => exact ⟨_, hnone _ fun scanner => by rw [supports, hagent, Option.any_none, Bool.and_false]⟩
    | some agent =>
        dsimp only
        by_cases hstale : isStale agent now
        · rw [if_pos hstale]
          refine ⟨_, hnone _ fun scanner => ?_⟩
          rw [supports, hagent, Option.any_some, hstale]
          simp only [Bool.not_true, Bool.false_and, Bool.and_false]
        · rw [if_neg hstale]
          by_cases hreach : filled agent.agentUrl ∧ filled agent.agentRuntimeToken
          · rw [if_neg (not_not_intro hreach)]
            -- behind the gates only the capability decides
            have hsupports : ∀ scanner, supports target agents now scanner =
                decide (scannerText scanner ∈ agent.capabilities) := by
              intro scanner
              rw [supports, hagent, Option.any_some, Bool.eq_true_of_not_eq_false henabled,
                Bool.eq_false_of_not_eq_true hstale, hreach.1, hreach.2]
              rfl
            refine ⟨"capability_unsupported", ?_⟩
            simp only [hsupports, decide_not]
          · rw [if_pos hreach]
            refine ⟨_, hnone _ fun scanner => ?_⟩
            rw [supports, hagent, Option.any_some]
            by_cases hurl : filled agent.agentUrl
            · have htoken : filled agent.agentRuntimeToken = false :=
                Bool.eq_false_of_not_eq_true fun h => hreach ⟨hurl, h⟩
              simp only [htoken, Bool.and_false, Bool.false_and]
            · simp only [Bool.eq_false_of_not_eq_true hurl, Bool.and_false, Bool.false_and]

theorem nodup_skipAll (scannerKinds : List Scanner) (error : String) :
    ((skipAll scannerKinds error).map Prod.fst).Nodup :=
  Dict.nodup_keys_update _ List.nodup_nil

theorem mem_skipAll {scannerKinds : List Scanner} {error : String} {scanner : Scanner} :
    scanner ∈ (skipAll scannerKinds error).map Prod.fst ↔ scanner ∈ scannerKinds := by
  have hkeys : (scannerKinds.map fun scanner => (scanner, error)).map Prod.fst = scannerKinds := by
    rw [List.map_map]
    exact List.map_id _
  rw [skipAll, Dict.mem_keys_update, hkeys]
  simp only [List.map_nil, List.not_mem_nil, false_or]

/-- The dictionary keeps one entry of each skipped scanner. -/
theorem count_skipAll (scannerKinds : List Scanner) (error : String) (scanner : Scanner) :
    ((skipAll scannerKinds error).map Prod.fst).count scanner =
      min 1 (scannerKinds.count scanner) := by
  rw [(nodup_skipAll scannerKinds error).count]
  by_cases hmem : scanner ∈ scannerKinds
  · have hpos : 0 < scannerKinds.count scanner := List.count_pos_iff.mpr hmem
    rw [if_pos (mem_skipAll.mpr hmem)]
    omega
  · rw [if_neg (fun h => hmem (mem_skipAll.mp h)), List.count_eq_zero_of_not_mem hmem]
    omega

/-! ## 2. What a run reports -/

inductive Report
  | log (entry : ScanRunLog)
  | progress (completed total : Nat)
  deriving DecidableEq, Repr

def Statement.reports : Statement → List Report
  | .log entry => [.log entry]
  | .progress completed total _ _ => [.progress completed total]
  | _ => []

def logged (reports : List Report) : List (Id × Scanner) :=
  reports.filterMap fun
    | .log entry => some (entry.target, entry.scannerKind)
    | .progress _ _ => none

/-- The counters passed to `_update_progress`, in order. -/
def counters (reports : List Report) : List Nat :=
  reports.filterMap fun
    | .log _ => none
    | .progress completed _ => some completed

theorem logged_append (xs ys : List Report) : logged (xs ++ ys) = logged xs ++ logged ys :=
  List.filterMap_append

theorem counters_append (xs ys : List Report) : counters (xs ++ ys) = counters xs ++ counters ys :=
  List.filterMap_append

/-- What the agents and the scanners answer when a target is visited. -/
structure Visit where
  agents : List Agent
  now : Time
  network : Except String (List AssetCandidate)
  inference : Option HomepageInference
  response : Except String (List AssetCandidate)

def findingsOf (scanners : List Scanner) (target : Target) (visit : Visit) : TargetFindings :=
  let agentScanners := scanners.filter (· ≠ .network)
  let dispatched := supportedAgentScanners target visit.agents visit.now agentScanners
  { network := visit.network
    inference := visit.inference
    skipped := dispatched.2
    supported := dispatched.1
    agent := visit.response }

/-- The findings on the targets in order; a target that is not there ends the body before them. -/
def scanFindings (db : Database) (task : ScanTask) (visits : Nat → Visit) : List TargetFindings :=
  task.targetIds.zipIdx.filterMap fun (id, position) =>
    (db.targets.find? id).map fun target => findingsOf task.scanners target (visits position)

section

variable [PyText] (floatRepr : PyFloat → List Char)

/-- `run_scan_job_payload` with the record of its logs and counters. -/
def runScanJobReported (task : ScanTask) (findings : List TargetFindings) (raises : Nat → Bool)
    (db : Database) : (Database × List Report) × Option Statement :=
  let snapshotId := db.snapshots.nextId
  let persist := persistStatements floatRepr task findings
  let run := runStatements
    (recording (fun x s => Statement.commit task snapshotId s x) Statement.reports)
    Statement.caught raises
  match run 0 persist ({ db, targets := fun _ => none }, []) with
  | (s, some x) => ((s.1.db, s.2), some x)
  | (s, none) =>
      let scored := run persist.length (scoreStatements s.1.db snapshotId) s
      ((scored.1.1.db, scored.1.2), scored.2)

theorem runScanJobReported_run (task : ScanTask) (findings : List TargetFindings)
    (raises : Nat → Bool) (db : Database) :
    runScanJobPayload floatRepr task findings raises db =
      ((runScanJobReported floatRepr task findings raises db).1.1,
        (runScanJobReported floatRepr task findings raises db).2) := by
  unfold runScanJobPayload runScanJobReported
  dsimp only
  have hpersist := @runStatements_recording _ _
    (fun x s => Statement.commit task db.snapshots.nextId s x) Statement.caught raises _
    Statement.reports (persistStatements floatRepr task findings) 0
    ({ db, targets := fun _ => none }, [])
  rw [hpersist]
  cases runStatements (recording (fun x s => Statement.commit task db.snapshots.nextId s x)
      Statement.reports) Statement.caught raises 0 (persistStatements floatRepr task findings)
      ({ db, targets := fun _ => none }, []) with
  | mk s ended =>
      cases ended with
      | some x => rfl
      | none =>
          dsimp only
          rw [@runStatements_recording _ _
            (fun x s => Statement.commit task db.snapshots.nextId s x) Statement.caught raises _
            Statement.reports]

omit [PyText] in
theorem scoreStatements_reports (db : Database) (snapshotId : Id) :
    (scoreStatements db snapshotId).flatMap Statement.reports = [] := by
  rw [List.flatMap_eq_nil_iff]
  intro x hx
  unfold scoreStatements at hx
  split at hx
  · rw [List.mem_singleton] at hx
    rw [hx]
    rfl
  · simp only [List.cons_append, List.mem_cons, List.mem_append, List.mem_map, List.not_mem_nil,
      or_false] at hx
    rcases hx with rfl | ⟨_, -, rfl⟩ | rfl <;> rfl

omit [PyText] in
theorem caught_reports {x : Statement} (h : x.caught = true) : x.reports = [] := by
  cases x with
  | inferContext => rfl
  | _ => cases h

/-- A body that runs to completion has reported what its statements report. -/
theorem runScanJobReported_completed {task : ScanTask} {findings : List TargetFindings}
    {raises : Nat → Bool} {db : Database}
    (h : (runScanJobReported floatRepr task findings raises db).2 = none) :
    (runScanJobReported floatRepr task findings raises db).1.2 =
      (persistStatements floatRepr task findings).flatMap Statement.reports := by
  unfold runScanJobReported at h ⊢
  dsimp only at h ⊢
  have hpersist := @runStatements_recorded _ _
    (fun x s => Statement.commit task db.snapshots.nextId s x) Statement.caught raises _
    Statement.reports (persistStatements floatRepr task findings)
    (fun _ _ hcaught => caught_reports hcaught) 0 ({ db, targets := fun _ => none }, [])
  cases hrun : runStatements (recording (fun x s => Statement.commit task db.snapshots.nextId s x)
      Statement.reports) Statement.caught raises 0 (persistStatements floatRepr task findings)
      ({ db, targets := fun _ => none }, []) with
  | mk s ended =>
      rw [hrun] at h hpersist
      cases ended with
      | some x => cases h
      | none =>
          dsimp only at h ⊢
          rw [@runStatements_recorded _ _
            (fun x s => Statement.commit task db.snapshots.nextId s x) Statement.caught raises _
            Statement.reports _ (fun _ _ hcaught => caught_reports hcaught) _ _ h,
            scoreStatements_reports, List.append_nil]
          exact (hpersist rfl).trans (List.nil_append _)

end

/-! ## 3. What collecting reports -/

/-- The scanners that are logged on a target, in the order of their logs. -/
def loggedScanners (scanners : List Scanner) (findings : TargetFindings) : List Scanner :=
  (if .network ∈ scanners then [.network] else []) ++
    if scanners.all (· == .network) then []
    else findings.skipped.map Prod.fst ++ findings.supported

/-- The statements log the scanners on the target, and the counter goes up by one for each. -/
structure Reports (statements : List Statement) (completed : Nat) (pairs : List (Id × Scanner)) :
    Prop where
  logs : logged (statements.flatMap Statement.reports) = pairs
  counts : counters (statements.flatMap Statement.reports) =
    List.range' (completed + 1) pairs.length

theorem Reports.nil (completed : Nat) : Reports [] completed [] := ⟨rfl, rfl⟩

theorem Reports.append {xs ys : List Statement} {completed : Nat} {pairs more : List (Id × Scanner)}
    (h : Reports xs completed pairs) (h' : Reports ys (completed + pairs.length) more) :
    Reports (xs ++ ys) completed (pairs ++ more) where
  logs := by rw [List.flatMap_append, logged_append, h.logs, h'.logs]
  counts := by
    rw [List.flatMap_append, counters_append, h.counts, h'.counts, List.length_append,
      ← List.range'_append_1]
    congr 2
    omega

theorem Reports.cons {x : Statement} {xs : List Statement} {completed : Nat}
    {pairs : List (Id × Scanner)} (hx : x.reports = []) (h : Reports xs completed pairs) :
    Reports (x :: xs) completed pairs where
  logs := by rw [List.flatMap_cons, hx, List.nil_append, h.logs]
  counts := by rw [List.flatMap_cons, hx, List.nil_append, h.counts]

theorem Reports.silent {xs : List Statement} (completed : Nat) (h : ∀ x ∈ xs, x.reports = []) :
    Reports xs completed [] where
  logs := by rw [List.flatMap_eq_nil_iff.mpr h]; rfl
  counts := by rw [List.flatMap_eq_nil_iff.mpr h]; rfl

theorem logScanners_reports (completed total : Nat) (entries : List ScanRunLog) :
    Reports (logScanners completed total entries) completed
      (entries.map fun entry => (entry.target, entry.scannerKind)) := by
  unfold logScanners
  -- the index of an entry is its place in the whole list, so the induction is over any start
  have hfrom : ∀ start, Reports
      ((entries.zipIdx start).flatMap fun pair =>
        [Statement.log pair.1,
          Statement.progress (completed + pair.2 + 1) total pair.1.target pair.1.scannerKind])
      (completed + start) (entries.map fun entry => (entry.target, entry.scannerKind)) := by
    induction entries with
    | nil => exact fun start => Reports.nil _
    | cons entry entries ih =>
        intro start
        rw [List.zipIdx_cons, List.flatMap_cons, List.map_cons, ← List.singleton_append]
        refine Reports.append ⟨rfl, rfl⟩ ?_
        exact ih (start + 1)
  exact hfrom 0

theorem networkPart_reports (scanners : List Scanner) (completed total : Nat) (targetId : Id)
    (findings : TargetFindings) :
    Reports (networkPart scanners completed total targetId findings).1 completed
      ((if .network ∈ scanners then [Scanner.network] else []).map (targetId, ·)) := by
  unfold networkPart runNetworkScanner
  by_cases hnetwork : .network ∈ scanners
  · rw [if_pos hnetwork, if_pos hnetwork]
    cases findings.network with
    | error error => exact ⟨rfl, rfl⟩
    | ok candidates => exact ⟨rfl, rfl⟩
  · rw [if_neg hnetwork, if_neg hnetwork]
    exact Reports.nil completed

theorem runSupportedScanners_reports (completed total : Nat) (targetId : Id)
    (findings : TargetFindings) :
    Reports (runSupportedScanners completed total targetId findings).1 completed
      (findings.supported.map (targetId, ·)) := by
  unfold runSupportedScanners
  cases findings.agent with
  | error error =>
      have hlogs := logScanners_reports completed total
        (findings.supported.map fun scanner => ⟨targetId, scanner, .error, 0, some error⟩)
      rw [List.map_map] at hlogs
      exact Reports.cons rfl hlogs
  | ok candidates =>
      have hlogs := logScanners_reports completed total
        (findings.supported.map fun scanner => ⟨targetId, scanner, .success,
          candidates.countP (·.scannerKind == scannerText scanner), none⟩)
      rw [List.map_map] at hlogs
      exact Reports.cons rfl hlogs

theorem runAgentScanners_reports (completed total : Nat) (targetId : Id)
    (findings : TargetFindings) :
    Reports (runAgentScanners completed total targetId findings).1 completed
      ((findings.skipped.map Prod.fst ++ findings.supported).map (targetId, ·)) := by
  have hskipped : Reports (.findAgent :: logScanners completed total
      (findings.skipped.map fun skip => ⟨targetId, skip.1, .skipped, 0, some skip.2⟩))
      completed ((findings.skipped.map Prod.fst).map (targetId, ·)) := by
    have hlogs := logScanners_reports completed total
      (findings.skipped.map fun skip => ⟨targetId, skip.1, .skipped, 0, some skip.2⟩)
    rw [List.map_map] at hlogs ⊢
    exact Reports.cons rfl hlogs
  unfold runAgentScanners
  dsimp only
  by_cases hnone : findings.supported = []
  · rw [if_pos hnone, hnone, List.append_nil]
    exact hskipped
  · rw [if_neg hnone, List.map_append]
    apply hskipped.append
    rw [List.length_map, List.length_map]
    exact runSupportedScanners_reports _ total targetId findings

theorem agentPart_reports (scanners : List Scanner) (completed total : Nat) (targetId : Id)
    (findings : TargetFindings) :
    Reports (agentPart scanners completed total targetId findings).1 completed
      ((if scanners.all (· == .network) then []
        else findings.skipped.map Prod.fst ++ findings.supported).map (targetId, ·)) := by
  unfold agentPart
  by_cases hall : scanners.all (· == .network)
  · rw [if_pos hall, if_pos hall]
    exact Reports.nil completed
  · rw [if_neg hall, if_neg hall]
    exact runAgentScanners_reports completed total targetId findings

/-- The loop logs the scanners of each target in turn. -/
theorem collectTargets_reports (scanners : List Scanner) (total completed : Nat)
    (found : List (Id × TargetFindings)) :
    Reports (collectTargets scanners total completed found).1 completed
      (found.flatMap fun (targetId, findings) =>
        (loggedScanners scanners findings).map (targetId, ·)) := by
  induction found generalizing completed with
  | nil => exact Reports.nil completed
  | cons entry rest ih =>
      obtain ⟨targetId, findings⟩ := entry
      rw [collectTargets, List.flatMap_cons]
      dsimp only
      apply Reports.append
      · rw [loggedScanners, List.map_append]
        apply (networkPart_reports scanners completed total targetId findings).append
        have hcounter : (if .network ∈ scanners then completed + 1 else completed) = completed +
            ((if .network ∈ scanners then [Scanner.network] else []).map (targetId, ·)).length := by
          by_cases hnetwork : .network ∈ scanners
          · simp only [if_pos hnetwork, List.map_cons, List.map_nil, List.length_singleton]
          · simp only [if_neg hnetwork, List.map_nil, List.length_nil, Nat.add_zero]
        rw [hcounter]
        exact agentPart_reports scanners _ total targetId findings
      · have hcounter : (if scanners.all (· == .network) then
            (if .network ∈ scanners then completed + 1 else completed)
            else (if .network ∈ scanners then completed + 1 else completed) +
              findings.skipped.length + findings.supported.length) =
            completed + ((loggedScanners scanners findings).map (targetId, ·)).length := by
          rw [List.length_map, loggedScanners, List.length_append]
          split <;> split <;>
            simp only [List.length_append, List.length_map, List.length_singleton, List.length_nil]
              <;> omega
        rw [hcounter]
        exact ih _

/-! ## 4. How often a scanner is logged -/

theorem loggedScanners_findingsOf (scanners : List Scanner) (target : Target) (visit : Visit) :
    loggedScanners scanners (findingsOf scanners target visit) =
      (if .network ∈ scanners then [.network] else []) ++
        ((findingsOf scanners target visit).skipped.map Prod.fst ++
          (findingsOf scanners target visit).supported) := by
  unfold loggedScanners
  by_cases hall : scanners.all (· == .network)
  · have hnone : scanners.filter (· ≠ .network) = [] := by
      rw [List.filter_eq_nil_iff]
      intro scanner hmem
      have hnetwork := List.all_eq_true.mp hall scanner hmem
      rw [beq_iff_eq] at hnetwork
      rw [decide_eq_true_eq]
      exact not_not_intro hnetwork
    -- no agent scanner is asked for, so nothing is dispatched and the shortcut changes no log
    obtain ⟨error, hdispatch⟩ := supportedAgentScanners_eq target visit.agents visit.now []
    rw [if_pos hall, findingsOf, hnone, hdispatch]
    rfl
  · rw [if_neg hall]

theorem count_filter_ite (p : Scanner → Bool) (scanners : List Scanner) (scanner : Scanner) :
    (scanners.filter p).count scanner = if p scanner then scanners.count scanner else 0 := by
  by_cases hp : p scanner
  · rw [if_pos hp, List.count_filter hp]
  · rw [if_neg hp]
    apply List.count_eq_zero_of_not_mem
    intro hmem
    exact hp (List.mem_filter.mp hmem).2

/-- A supported agent scanner is logged as often as it is asked for, every other one at most once. -/
theorem count_loggedScanners (scanners : List Scanner) (target : Target) (visit : Visit)
    (scanner : Scanner) :
    (loggedScanners scanners (findingsOf scanners target visit)).count scanner =
      if scanner ≠ .network ∧ supports target visit.agents visit.now scanner then
        scanners.count scanner
      else min 1 (scanners.count scanner) := by
  obtain ⟨error, hdispatch⟩ := supportedAgentScanners_eq target visit.agents visit.now
    (scanners.filter (· ≠ .network))
  -- the three parts of the log: the network scanner, the skipped and the supported ones
  have hasked := count_filter_ite (fun scanner => decide (scanner ≠ .network)) scanners scanner
  rw [loggedScanners_findingsOf, findingsOf, hdispatch, List.count_append, List.count_append,
    count_skipAll, count_filter_ite (fun scanner => ! supports target visit.agents visit.now scanner),
    count_filter_ite (supports target visit.agents visit.now), hasked]
  by_cases hnetwork : scanner = .network
  · have hkept : ¬ (scanner ≠ .network ∧ supports target visit.agents visit.now scanner) :=
      fun h => h.1 hnetwork
    have hother : ¬ decide (scanner ≠ .network) = true := by
      rw [decide_eq_true_eq]
      exact not_not_intro hnetwork
    rw [if_neg hkept, if_neg hother, ite_self, ite_self, Nat.min_zero, hnetwork]
    by_cases hmem : .network ∈ scanners
    · have hpos : 0 < scanners.count .network := List.count_pos_iff.mpr hmem
      rw [if_pos hmem, List.count_singleton_self]
      omega
    · rw [if_neg hmem, List.count_nil, List.count_eq_zero_of_not_mem hmem]
      omega
  · have hfirst : (if .network ∈ scanners then [Scanner.network] else []).count scanner = 0 := by
      split
      · exact List.count_eq_zero_of_not_mem fun h => hnetwork (List.mem_singleton.mp h)
      · rfl
    rw [hfirst, if_pos (decide_eq_true hnetwork)]
    by_cases hsupports : supports target visit.agents visit.now scanner = true
    · have hskipped : ¬ (! supports target visit.agents visit.now scanner) = true := by
        rw [hsupports]
        exact Bool.false_ne_true
      rw [if_pos hsupports, if_neg hskipped, if_pos ⟨hnetwork, hsupports⟩]
      omega
    · have hskipped : (! supports target visit.agents visit.now scanner) = true := by
        rw [Bool.eq_false_of_not_eq_true hsupports]
        rfl
      rw [if_neg hsupports, if_pos hskipped, if_neg (fun h => hsupports h.2)]
      omega

/-- Every scanner is logged on the target as often as it is asked for. -/
theorem loggedScanners_perm_iff (scanners : List Scanner) (target : Target) (visit : Visit) :
    (loggedScanners scanners (findingsOf scanners target visit)).Perm scanners ↔
      scanners.count .network ≤ 1 ∧ ∀ scanner ∈ scanners, scanner ≠ .network →
        supports target visit.agents visit.now scanner = false → scanners.count scanner ≤ 1 := by
  rw [List.perm_iff_count]
  constructor
  · intro h
    refine ⟨?_, ?_⟩
    · have hcount := h .network
      rw [count_loggedScanners, if_neg (fun h => h.1 rfl)] at hcount
      omega
    · intro scanner _ hnetwork hsupports
      have hcount := h scanner
      rw [count_loggedScanners, if_neg (fun h => by rw [hsupports] at h; cases h.2)] at hcount
      omega
  · intro ⟨hone, hskipped⟩ scanner
    rw [count_loggedScanners]
    by_cases hkept : scanner ≠ .network ∧ supports target visit.agents visit.now scanner
    · rw [if_pos hkept]
    · rw [if_neg hkept]
      by_cases hmem : scanner ∈ scanners
      · have hle : scanners.count scanner ≤ 1 := by
          by_cases hnetwork : scanner = .network
          · rw [hnetwork]
            exact hone
          · apply hskipped scanner hmem hnetwork
            exact Bool.eq_false_of_not_eq_true fun h => hkept ⟨hnetwork, h⟩
        have hpos : 0 < scanners.count scanner := List.count_pos_iff.mpr hmem
        omega
      · have hzero : scanners.count scanner = 0 := List.count_eq_zero_of_not_mem hmem
        omega

theorem loggedScanners_subperm (scanners : List Scanner) (target : Target) (visit : Visit) :
    (loggedScanners scanners (findingsOf scanners target visit)).Subperm scanners := by
  rw [List.subperm_ext_iff]
  intro scanner _
  rw [count_loggedScanners]
  split
  · exact le_refl _
  · omega

/-! ## 5. The accounts of a whole scan -/

/-- What a run has to report: a log for each pair of a position in the target list
and a position in the scanner list, and a counter that ends at their number. -/
structure Accounted (task : ScanTask) (reports : List Report) : Prop where
  logs : (logged reports).Perm
    (task.targetIds.flatMap fun targetId => task.scanners.map (targetId, ·))
  bounded : ∀ completed ∈ counters reports, completed ≤ task.targetIds.length * task.scanners.length
  finished : (counters reports).getLast? = some (task.targetIds.length * task.scanners.length)

/-- The network scanner is asked for at most once, and so is every agent scanner that the agent of one
of the targets does not support when that target is visited. -/
def AskedOnce (db : Database) (task : ScanTask) (visits : Nat → Visit) : Prop :=
  task.scanners.count .network ≤ 1 ∧
    ∀ targetId position target, (targetId, position) ∈ task.targetIds.zipIdx →
      db.targets.find? targetId = some target → ∀ scanner ∈ task.scanners, scanner ≠ .network →
        supports target (visits position).agents (visits position).now scanner = false →
          task.scanners.count scanner ≤ 1

/-- The targets with what is found on them, as the loop goes through them. -/
def visited (db : Database) (task : ScanTask) (visits : Nat → Visit) : List (Id × TargetFindings) :=
  task.targetIds.zipIdx.filterMap fun (id, position) =>
    (db.targets.find? id).map fun target => (id, findingsOf task.scanners target (visits position))

theorem zip_scanFindings {db : Database} {task : ScanTask} (visits : Nat → Visit)
    (hfound : ∀ id ∈ task.targetIds, ∃ target, db.targets.find? id = some target) :
    task.targetIds.zip (scanFindings db task visits) = visited db task visits ∧
      (visited db task visits).map Prod.fst = task.targetIds := by
  unfold scanFindings visited
  have hfrom : ∀ ids start, (∀ id ∈ ids, ∃ target, db.targets.find? id = some target) →
      List.zip ids ((ids.zipIdx start).filterMap fun entry =>
          (db.targets.find? entry.1).map fun target =>
            findingsOf task.scanners target (visits entry.2)) =
        ((ids.zipIdx start).filterMap fun entry =>
          (db.targets.find? entry.1).map fun target =>
            (entry.1, findingsOf task.scanners target (visits entry.2))) ∧
      ((ids.zipIdx start).filterMap fun entry =>
        (db.targets.find? entry.1).map fun target =>
          (entry.1, findingsOf task.scanners target (visits entry.2))).map Prod.fst = ids := by
    intro ids
    induction ids with
    | nil => exact fun start _ => ⟨rfl, rfl⟩
    | cons id ids ih =>
        intro start hall
        obtain ⟨target, htarget⟩ := hall id List.mem_cons_self
        obtain ⟨hzip, hids⟩ := ih (start + 1) fun other hother =>
          hall other (List.mem_cons_of_mem id hother)
        simp only [List.zipIdx_cons, List.filterMap_cons, htarget, Option.map_some,
          List.zip_cons_cons, List.map_cons]
        exact ⟨by rw [hzip], by rw [hids]⟩
  exact hfrom task.targetIds 0 hfound

theorem mem_visited {db : Database} {task : ScanTask} {visits : Nat → Visit}
    {entry : Id × TargetFindings} :
    entry ∈ visited db task visits ↔
      ∃ targetId position target, (targetId, position) ∈ task.targetIds.zipIdx ∧
        db.targets.find? targetId = some target ∧
        entry = (targetId, findingsOf task.scanners target (visits position)) := by
  unfold visited
  rw [List.mem_filterMap]
  constructor
  · intro ⟨⟨targetId, position⟩, hmem, h⟩
    obtain ⟨target, htarget, heq⟩ := Option.map_eq_some_iff.mp h
    exact ⟨targetId, position, target, hmem, htarget, heq.symm⟩
  · intro ⟨targetId, position, target, hmem, htarget, heq⟩
    refine ⟨(targetId, position), hmem, ?_⟩
    dsimp only
    rw [heq, htarget, Option.map_some]

theorem sum_le_mul {α : Type} {xs : List α} {f : α → Nat} {bound : Nat}
    (h : ∀ x ∈ xs, f x ≤ bound) : (xs.map f).sum ≤ xs.length * bound := by
  have hbound : ∀ n ∈ xs.map f, n ≤ bound := by
    intro n hn
    obtain ⟨x, hx, rfl⟩ := List.mem_map.mp hn
    exact h x hx
  have hsum := List.sum_le_card_nsmul (xs.map f) bound hbound
  rw [List.length_map] at hsum
  exact hsum

/-- A sum of terms with a common bound reaches the bound's multiple only where every term does. -/
theorem sum_eq_mul_iff {α : Type} {xs : List α} {f : α → Nat} {bound : Nat}
    (h : ∀ x ∈ xs, f x ≤ bound) :
    (xs.map f).sum = xs.length * bound ↔ ∀ x ∈ xs, f x = bound := by
  induction xs with
  | nil => simp
  | cons x xs ih =>
      have hx := h x List.mem_cons_self
      have htail : ∀ y ∈ xs, f y ≤ bound := fun y hy => h y (List.mem_cons_of_mem x hy)
      have hrest := sum_le_mul htail
      rw [List.map_cons, List.sum_cons, List.length_cons, Nat.add_one_mul, List.forall_mem_cons,
        ← ih htail]
      omega

theorem length_pairs (found : List (Id × TargetFindings)) (scanners : List Scanner) :
    (found.flatMap fun (targetId, findings) =>
      (loggedScanners scanners findings).map (targetId, ·)).length =
      (found.map fun entry => (loggedScanners scanners entry.2).length).sum := by
  rw [List.length_flatMap]
  congr 1
  apply List.map_congr_left
  intro entry _
  exact List.length_map _

/-- The accounts are right where every target logs every scanner as often as it is asked for. -/
theorem accounted_of_reports {task : ScanTask} {reports : List Report}
    {found : List (Id × TargetFindings)} (htargets : task.targetIds ≠ [])
    (hscanners : task.scanners ≠ []) (hids : found.map Prod.fst = task.targetIds)
    (hfound : ∀ entry ∈ found, ∃ target visit, entry.2 = findingsOf task.scanners target visit)
    (hlogs : logged reports = found.flatMap fun (targetId, findings) =>
      (loggedScanners task.scanners findings).map (targetId, ·))
    (hcounts : counters reports = List.range' 1 (logged reports).length) :
    Accounted task reports ↔
      ∀ entry ∈ found, (loggedScanners task.scanners entry.2).Perm task.scanners := by
  have htotal : 0 < task.targetIds.length * task.scanners.length :=
    Nat.mul_pos (List.length_pos_iff.mpr htargets) (List.length_pos_iff.mpr hscanners)
  -- no target logs a scanner more often than asked, so equal totals leave no gap on any of them
  have hsub : ∀ entry ∈ found, (loggedScanners task.scanners entry.2).Subperm task.scanners := by
    intro entry hentry
    obtain ⟨target, visit, heq⟩ := hfound entry hentry
    rw [heq]
    exact loggedScanners_subperm task.scanners target visit
  have hlength : found.length = task.targetIds.length := by rw [← hids, List.length_map]
  have hsum : (logged reports).length = task.targetIds.length * task.scanners.length ↔
      ∀ entry ∈ found, (loggedScanners task.scanners entry.2).length = task.scanners.length := by
    rw [hlogs, length_pairs, ← hlength]
    exact sum_eq_mul_iff fun entry hentry => (hsub entry hentry).length_le
  constructor
  · intro h entry hentry
    have hcount : (logged reports).length = task.targetIds.length * task.scanners.length := by
      -- the last counter is the number of logs
      have hlast := h.finished
      rw [hcounts, List.getLast?_range'] at hlast
      split at hlast
      · cases hlast
      · have heq := Option.some.inj hlast
        omega
    have hfull := hsum.mp hcount entry hentry
    exact (hsub entry hentry).perm_of_length_le hfull.ge
  · intro h
    have hcount := hsum.mpr fun entry hentry => (h entry hentry).length_eq
    refine ⟨?_, ?_, ?_⟩
    · rw [hlogs, ← hids, List.flatMap_map]
      apply List.Perm.flatMap_left
      intro entry hentry
      exact (h entry hentry).map _
    · intro completed hmem
      rw [hcounts, List.mem_range'_1] at hmem
      omega
    · rw [hcounts, List.getLast?_range', if_neg (by omega), hcount]
      congr 1
      omega

section

variable [PyText] (floatRepr : PyFloat → List Char)

/-- A body that runs to completion has found all its targets. -/
theorem targets_found_of_completed {task : ScanTask} {findings : List TargetFindings}
    {raises : Nat → Bool} {db : Database}
    (h : (runScanJobPayload floatRepr task findings raises db).2 = none) :
    ∀ id ∈ task.targetIds, ∃ target, db.targets.find? id = some target := by
  unfold runScanJobPayload at h
  dsimp only at h
  have hpersist : (runStatements (fun x s => Statement.commit task db.snapshots.nextId s x)
      Statement.caught raises 0 (persistStatements floatRepr task findings)
      { db, targets := fun _ => none }).2 = none := by
    cases hrun : runStatements (fun x s => Statement.commit task db.snapshots.nextId s x)
        Statement.caught raises 0 (persistStatements floatRepr task findings)
        { db, targets := fun _ => none } with
    | mk s ended =>
        rw [hrun] at h
        cases ended with
        | some x => cases h
        | none => rfl
  unfold persistStatements at hpersist
  dsimp only at hpersist
  rw [List.cons_append, List.cons_append] at hpersist
  -- the first statement reads the job, the second the targets
  obtain ⟨s, hjob, hpersist⟩ := runStatements_cons_completed rfl hpersist
  obtain ⟨-, rfl⟩ : (∃ scanJob, db.scanJobs.find? task.scanJobId = some scanJob) ∧
      { db, targets := fun _ => none } = s := by
    obtain ⟨scanJob, hfound, heq⟩ := Option.map_eq_some_iff.mp hjob
    exact ⟨⟨scanJob, hfound⟩, heq⟩
  obtain ⟨s, htargets, -⟩ := runStatements_cons_completed rfl hpersist
  simp only [Statement.commit] at htargets
  by_cases hall : (task.targetIds.all fun id => (db.targets.find? id).isSome) = true
  · intro id hid
    exact Option.isSome_iff_exists.mp (List.all_eq_true.mp hall id hid)
  · rw [if_neg hall] at htargets
    cases htargets

omit [PyText] in
theorem askedOnce_iff {db : Database} {task : ScanTask} {visits : Nat → Visit}
    (htargets : task.targetIds ≠ [])
    (hids : (visited db task visits).map Prod.fst = task.targetIds) :
    (∀ entry ∈ visited db task visits,
      (loggedScanners task.scanners entry.2).Perm task.scanners) ↔ AskedOnce db task visits := by
  constructor
  · intro h
    refine ⟨?_, ?_⟩
    · have hsome : visited db task visits ≠ [] := by
        intro hnil
        rw [hnil] at hids
        exact htargets hids.symm
      obtain ⟨entry, hentry⟩ := List.exists_mem_of_ne_nil _ hsome
      obtain ⟨targetId, position, target, -, -, heq⟩ := mem_visited.mp hentry
      have hperm := h entry hentry
      rw [heq] at hperm
      exact ((loggedScanners_perm_iff _ target (visits position)).mp hperm).1
    · intro targetId position target hmem htarget
      have hperm := h (targetId, findingsOf task.scanners target (visits position))
        (mem_visited.mpr ⟨targetId, position, target, hmem, htarget, rfl⟩)
      exact ((loggedScanners_perm_iff _ target (visits position)).mp hperm).2
  · intro ⟨hnetwork, hagents⟩ entry hentry
    obtain ⟨targetId, position, target, hmem, htarget, heq⟩ := mem_visited.mp hentry
    rw [heq, loggedScanners_perm_iff]
    exact ⟨hnetwork, hagents targetId position target hmem htarget⟩

/-- What a scan that runs to completion logs and counts is right exactly where no scanner is asked for
twice whose logs collapse. -/
theorem accounted_iff {task : ScanTask} {visits : Nat → Visit} {raises : Nat → Bool} {db : Database}
    (htargets : task.targetIds ≠ []) (hscanners : task.scanners ≠ [])
    (hcompleted : (runScanJobReported floatRepr task (scanFindings db task visits) raises db).2 =
      none) :
    Accounted task (runScanJobReported floatRepr task (scanFindings db task visits) raises db).1.2 ↔
      AskedOnce db task visits := by
  have hrun := runScanJobReported_run floatRepr task (scanFindings db task visits) raises db
  have hfound : ∀ id ∈ task.targetIds, ∃ target, db.targets.find? id = some target := by
    have hended : (runScanJobPayload floatRepr task (scanFindings db task visits) raises db).2 =
        none := by
      rw [hrun]
      exact hcompleted
    exact targets_found_of_completed floatRepr hended
  obtain ⟨hzip, hids⟩ := zip_scanFindings visits hfound
  have hreports := runScanJobReported_completed floatRepr hcompleted
  have hcollected : Reports (persistStatements floatRepr task (scanFindings db task visits)) 0
      ((visited db task visits).flatMap fun (targetId, findings) =>
        (loggedScanners task.scanners findings).map (targetId, ·)) := by
    unfold persistStatements
    dsimp only
    rw [hzip, List.cons_append, List.cons_append]
    apply Reports.cons rfl
    apply Reports.cons rfl
    -- what persists the snapshot reports nothing
    have hrest : ∀ unique : List AssetCandidate, ∀ x ∈
        Statement.insertSnapshot unique :: unique.map Statement.insertAsset, x.reports = [] := by
      intro unique x hx
      rw [List.mem_cons, List.mem_map] at hx
      rcases hx with rfl | ⟨_, -, rfl⟩
      · rfl
      · rfl
    have happend := (collectTargets_reports task.scanners
      (task.targetIds.length * task.scanners.length) 0 (visited db task visits)).append
        (Reports.silent _ (hrest (dedupeCandidates floatRepr (collectTargets task.scanners
          (task.targetIds.length * task.scanners.length) 0 (visited db task visits)).2)))
    rw [List.append_nil] at happend
    exact happend
  have hlogs := hcollected.logs
  rw [← hreports] at hlogs
  have hcounts := hcollected.counts
  rw [← hreports, Nat.zero_add, ← hlogs] at hcounts
  have hfindings : ∀ entry ∈ visited db task visits, ∃ target visit,
      entry.2 = findingsOf task.scanners target visit := by
    intro entry hentry
    obtain ⟨targetId, position, target, -, -, heq⟩ := mem_visited.mp hentry
    exact ⟨target, visits position, by rw [heq]⟩
  rw [accounted_of_reports htargets hscanners hids hfindings hlogs hcounts]
  exact askedOnce_iff htargets hids

end

/-! ## 6. A scan of one host without an agent -/

def agentlessHost : Target where
  host := "db.internal"
  displayName := none
  ip := none
  port := 5432
  protocolHint := .unknown
  sni := none
  transport := .tcp
  agentEnabled := false
  agentUrl := none
  context := { field := fun _ => none }

def refusedVisit : Visit where
  agents := []
  now := 0
  network := .error "connection refused"
  inference := none
  response := .ok []

def refusedScan [PyText] (task : ScanTask) : (Database × List Report) × Option Statement :=
  let db := Jobs.createScanJob { targets := Table.empty.insert agentlessHost } task.targetIds
    task.scanners 0
  runScanJobReported (fun _ => []) task (scanFindings db task fun _ => refusedVisit)
    (fun _ => false) db

/-- A target that is listed twice is accounted for twice. -/
theorem twice_listed_accounted : letI := asciiText
    (refusedScan ⟨0, 0, [0, 0], [.network, .agentSshConfig]⟩).2 = none ∧
      Accounted ⟨0, 0, [0, 0], [.network, .agentSshConfig]⟩
        (refusedScan ⟨0, 0, [0, 0], [.network, .agentSshConfig]⟩).1.2 := by
  let := asciiText
  have hcompleted : (refusedScan ⟨0, 0, [0, 0], [.network, .agentSshConfig]⟩).2 = none := by
    have hnone : (refusedScan ⟨0, 0, [0, 0], [.network, .agentSshConfig]⟩).2.isNone = true := by
      decide +kernel
    exact Option.isNone_iff_eq_none.mp hnone
  have honce : ∀ scanner, [Scanner.network, .agentSshConfig].count scanner ≤ 1 :=
    List.nodup_iff_count_le_one.mp (by decide)
  refine ⟨hcompleted, (accounted_iff (fun _ => []) (by decide) (by decide) hcompleted).mpr ?_⟩
  exact ⟨honce .network, fun _ _ _ _ _ scanner _ _ _ => honce scanner⟩

/-- A network scanner that is listed twice is run and logged once, and so is a repeated scanner that is
skipped: the counter stops at one of two. -/
theorem twice_asked_not_accounted : letI := asciiText
    ((refusedScan ⟨0, 0, [0], [.network, .network]⟩).2 = none ∧
        ¬ Accounted ⟨0, 0, [0], [.network, .network]⟩
          (refusedScan ⟨0, 0, [0], [.network, .network]⟩).1.2) ∧
      (refusedScan ⟨0, 0, [0], [.agentSshConfig, .agentSshConfig]⟩).2 = none ∧
        ¬ Accounted ⟨0, 0, [0], [.agentSshConfig, .agentSshConfig]⟩
          (refusedScan ⟨0, 0, [0], [.agentSshConfig, .agentSshConfig]⟩).1.2 := by
  let := asciiText
  have hnetwork : (refusedScan ⟨0, 0, [0], [.network, .network]⟩).2.isNone = true ∧
      (counters (refusedScan ⟨0, 0, [0], [.network, .network]⟩).1.2).getLast? = some 1 := by
    decide +kernel
  have hskipped : (refusedScan ⟨0, 0, [0], [.agentSshConfig, .agentSshConfig]⟩).2.isNone = true ∧
      (counters (refusedScan ⟨0, 0, [0], [.agentSshConfig, .agentSshConfig]⟩).1.2).getLast? =
        some 1 := by
    decide +kernel
  refine ⟨⟨Option.isNone_iff_eq_none.mp hnetwork.1, ?_⟩, Option.isNone_iff_eq_none.mp hskipped.1, ?_⟩
  · intro h
    have hlast := h.finished
    rw [hnetwork.2] at hlast
    cases hlast
  · intro h
    have hlast := h.finished
    rw [hskipped.2] at hlast
    cases hlast

end CryptoScanner.Scan
