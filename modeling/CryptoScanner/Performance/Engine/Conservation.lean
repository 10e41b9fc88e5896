import CryptoScanner.Performance.Engine.Summary

/-!
# The summary conserves counts

Every loop counts each item in its total and in one group, so the groups sum to the total after any
number of turns.
-/

namespace CryptoScanner.Performance.Engine

open Library Python

/-! ## 1. Counts by status -/

def countedAs (status : ResultStatus) (counted : Option ResultStatus) : Nat :=
  if counted = some status then 1 else 0

namespace StatusCounts

@[simp] theorem get_statusCounts (status : ResultStatus) : statusCounts.get status = 0 := by
  cases status <;> rfl

theorem get_increment (counts : StatusCounts) (status other : ResultStatus) :
    (counts.increment status).get other = counts.get other + countedAs other (some status) := by
  cases status <;> cases other <;> rfl

theorem get_count (counts : StatusCounts) (counted : Option ResultStatus) (status : ResultStatus) :
    (counts.count counted).get status = counts.get status + countedAs status counted := by
  cases counted with
  | none => rfl
  | some other => exact get_increment counts other status

theorem total_increment (counts : StatusCounts) (status : ResultStatus) :
    (counts.increment status).total = counts.total + 1 := by
  cases status <;> simp only [increment, total] <;> omega

theorem get_foldl_count (statuses : List (Option ResultStatus)) (counts : StatusCounts)
    (status : ResultStatus) :
    (statuses.foldl count counts).get status =
      counts.get status + (statuses.map (countedAs status)).sum := by
  induction statuses generalizing counts with
  | nil => rfl
  | cons counted statuses ih =>
      rw [List.foldl_cons, ih, get_count, List.map_cons, List.sum_cons]
      omega

theorem total_foldl_count {statuses : List (Option ResultStatus)}
    (hcounted : ∀ counted ∈ statuses, counted.isSome) (counts : StatusCounts) :
    (statuses.foldl count counts).total = counts.total + statuses.length := by
  induction statuses generalizing counts with
  | nil => rfl
  | cons counted statuses ih =>
      obtain ⟨status, rfl⟩ := Option.isSome_iff_exists.mp (hcounted counted List.mem_cons_self)
      rw [List.foldl_cons, ih fun other hother => hcounted other (List.mem_cons_of_mem _ hother),
        List.length_cons]
      show (counts.increment status).total + statuses.length = _
      rw [total_increment]
      omega

end StatusCounts

/-- The overall status is the worst one with a count, if there is one. -/
theorem overallStatus_worst (counts : StatusCounts) :
    ((∀ status, counts.get status = 0) ∧ overallStatus counts = "PENDING") ∨
      ∃ worst : ResultStatus, overallStatus counts = worst.text ∧ counts.get worst ≠ 0 ∧
        ∀ status, counts.get status ≠ 0 → statusRank status ≤ statusRank worst := by
  unfold overallStatus
  -- the tests go from the worst status down
  by_cases herror : counts.error = 0
  · rw [if_neg (not_not_intro herror)]
    by_cases hfail : counts.fail = 0
    · rw [if_neg (not_not_intro hfail)]
      by_cases hwarn : counts.warn = 0
      · rw [if_neg (not_not_intro hwarn)]
        by_cases hpass : counts.pass = 0
        · rw [if_neg (not_not_intro hpass)]
          refine .inl ⟨?_, rfl⟩
          intro status
          cases status <;> assumption
        · rw [if_pos hpass]
          refine .inr ⟨.pass, rfl, hpass, ?_⟩
          intro status hstatus
          cases status <;> first | decide | exact absurd ‹_› hstatus
      · rw [if_pos hwarn]
        refine .inr ⟨.warn, rfl, hwarn, ?_⟩
        intro status hstatus
        cases status <;> first | decide | exact absurd ‹_› hstatus
    · rw [if_pos hfail]
      refine .inr ⟨.fail, rfl, hfail, ?_⟩
      intro status hstatus
      cases status <;> first | decide | exact absurd ‹_› hstatus
  · rw [if_pos herror]
    refine .inr ⟨.error, rfl, herror, ?_⟩
    intro status hstatus
    cases status <;> decide

/-! ## 2. Statuses of the results -/

def HasStatus (result : Dict) (status : ResultStatus) : Prop :=
  result.get "status" = .str status.text

theorem countedStatus_of_hasStatus {result : Dict} {status : ResultStatus}
    (h : HasStatus result status) : countedStatus result = .ok (some status) := by
  rw [countedStatus, h]
  cases status <;> rfl

theorem hasStatus_of_countedStatus {result : Dict} {status : ResultStatus}
    (h : countedStatus result = .ok (some status)) : HasStatus result status := by
  unfold countedStatus at h
  split at h
  · rename_i text hget
    have hfind := List.find?_some (Except.ok.inj h)
    rw [decide_eq_true_eq] at hfind
    rw [HasStatus, hget, hfind]
  · cases h
  · cases h
  · cases h

/-- The worst status that a result has, or `PENDING` without results. -/
def WorstPresent (results : List Dict) (overall : String) : Prop :=
  (results = [] ∧ overall = "PENDING") ∨
    ∃ worst : ResultStatus, overall = worst.text ∧ (∃ result ∈ results, HasStatus result worst) ∧
      ∀ result ∈ results, ∀ status, HasStatus result status → statusRank status ≤ statusRank worst

theorem countedAs_eq_zero {status : ResultStatus} {counted : Option ResultStatus} :
    countedAs status counted = 0 ↔ counted ≠ some status := by
  unfold countedAs
  split <;> simp_all

theorem get_counts_ne_zero {results : List Dict} {statuses : List (Option ResultStatus)}
    (h : results.mapM countedStatus = .ok statuses) (status : ResultStatus) :
    (statuses.foldl StatusCounts.count statusCounts).get status ≠ 0 ↔
      ∃ result ∈ results, HasStatus result status := by
  rw [StatusCounts.get_foldl_count, StatusCounts.get_statusCounts, Nat.zero_add, ne_eq,
    List.sum_eq_zero_iff_forall_eq_nat]
  constructor
  · intro hne
    -- some counted status is this one, and the result that it is of has it
    simp only [not_forall] at hne
    obtain ⟨added, hadded, hne⟩ := hne
    obtain ⟨counted, hcounted, rfl⟩ := List.mem_map.mp hadded
    obtain ⟨result, hresult, hok⟩ := (mem_mapM h).1 counted hcounted
    have hsome := not_not.mp (mt countedAs_eq_zero.mpr hne)
    exact ⟨result, hresult, hasStatus_of_countedStatus (hsome ▸ hok)⟩
  · rintro ⟨result, hresult, hstatus⟩ hall
    obtain ⟨counted, hcounted, hok⟩ := (mem_mapM h).2 result hresult
    rw [countedStatus_of_hasStatus hstatus] at hok
    cases hok
    exact countedAs_eq_zero.mp (hall _ (List.mem_map_of_mem hcounted)) rfl

theorem worstPresent_counts {results : List Dict} {statuses : List (Option ResultStatus)}
    (hvalid : ∀ result ∈ results, ∃ status, HasStatus result status)
    (h : results.mapM countedStatus = .ok statuses) :
    WorstPresent results (overallStatus (statuses.foldl StatusCounts.count statusCounts)) := by
  rcases overallStatus_worst (statuses.foldl StatusCounts.count statusCounts) with
    ⟨hzero, hpending⟩ | ⟨worst, hworst, hpresent, hle⟩
  · left
    refine ⟨?_, hpending⟩
    rw [List.eq_nil_iff_forall_not_mem]
    intro result hresult
    obtain ⟨status, hstatus⟩ := hvalid result hresult
    exact (get_counts_ne_zero h status).mpr ⟨result, hresult, hstatus⟩ (hzero status)
  · right
    refine ⟨worst, hworst, (get_counts_ne_zero h worst).mp hpresent, ?_⟩
    intro result hresult status hstatus
    exact hle status ((get_counts_ne_zero h status).mpr ⟨result, hresult, hstatus⟩)

theorem total_counts {results : List Dict} {statuses : List (Option ResultStatus)}
    (hvalid : ∀ result ∈ results, ∃ status, HasStatus result status)
    (h : results.mapM countedStatus = .ok statuses) :
    (statuses.foldl StatusCounts.count statusCounts).total = results.length := by
  have hcounted : ∀ counted ∈ statuses, counted.isSome := by
    intro counted hmem
    obtain ⟨result, hresult, hok⟩ := (mem_mapM h).1 counted hmem
    obtain ⟨status, hstatus⟩ := hvalid result hresult
    rw [countedStatus_of_hasStatus hstatus] at hok
    cases hok
    rfl
  rw [StatusCounts.total_foldl_count hcounted, length_mapM h]
  exact Nat.zero_add _

theorem countedStatus_rows (entries : List ResultEntry) :
    (entries.map rowOf).mapM countedStatus = .ok (entries.map fun entry => some entry.status) := by
  induction entries with
  | nil => rfl
  | cons entry entries ih =>
      exact mapM_cons_eq_ok.mpr ⟨some entry.status, countedStatus_of_hasStatus rfl, _, ih, rfl⟩

/-- The rows of a run are counted as the run's results are. -/
theorem get_counts_rows (entries : List ResultEntry) (status : ResultStatus) :
    ((entries.map fun entry => some entry.status).foldl StatusCounts.count statusCounts).get status =
      countOf entries status := by
  rw [StatusCounts.get_foldl_count, StatusCounts.get_statusCounts, Nat.zero_add, List.map_map]
  induction entries with
  | nil => rfl
  | cons entry entries ih =>
      rw [List.map_cons, List.sum_cons, ih, countOf, countOf, List.countP_cons, Nat.add_comm]
      by_cases h : entry.status = status
      · simp [countedAs, h]
      · simp [countedAs, h]

theorem overallStatus_rows (entries : List ResultEntry) :
    overallStatus ((entries.map fun entry => some entry.status).foldl StatusCounts.count
      statusCounts) = Performance.overallStatus entries := by
  unfold overallStatus Performance.overallStatus
  simp only [← get_counts_rows]
  rfl

/-! ## 3. Groups -/

section

variable [PyText] (floatRepr : PyFloat → List Char)

/-- The protocols count every result once under its status. -/
theorem sum_collectProtocols (rows : List (Option ResultStatus × Dict)) (status : ResultStatus) :
    ((collectProtocols floatRepr rows).map fun entry => entry.2.byStatus.get status).sum =
      (rows.map fun row => countedAs status row.1).sum := by
  apply Dict.sum_accumulate _ _ _ fun entry : ProtocolEntry => entry.byStatus.get status
  · intro _
    exact StatusCounts.get_statusCounts status
  · intro entry row
    exact StatusCounts.get_count entry.byStatus row.1 status

omit [PyText] in
theorem byStatus_summary {average : Nat → List Json → Except EngineError PyFloat}
    {entry : ProtocolEntry} {summary : ProtocolSummary} (h : entry.summary average = .ok summary) :
    summary.byStatus = entry.byStatus := by
  obtain ⟨averages, _, h⟩ := bind_eq_ok.mp h
  cases h
  rfl

theorem sum_summarizeByProtocol {average : Nat → List Json → Except EngineError PyFloat}
    {results : List Dict} {statuses : List (Option ResultStatus)}
    {protocols : List (List Char × ProtocolSummary)}
    (hstatuses : results.mapM countedStatus = .ok statuses)
    (h : summarizeByProtocol floatRepr average results = .ok protocols) (status : ResultStatus) :
    (protocols.map fun entry => entry.2.byStatus.get status).sum =
      (statuses.map (countedAs status)).sum := by
  obtain ⟨rows, hrows, h⟩ := bind_eq_ok.mp h
  have hkeeps : ∀ (entry : List Char × ProtocolEntry) (summary : List Char × ProtocolSummary),
      (do return (entry.1, ← entry.2.summary average)) = Except.ok summary →
        summary.2.byStatus.get status = entry.2.byStatus.get status := by
    intro entry summary hsummary
    obtain ⟨summary, hentry, hsummary⟩ := bind_eq_ok.mp hsummary
    cases hsummary
    rw [byStatus_summary hentry]
  -- the rows have the statuses that are counted in total
  have hrow : ∀ result row counted, protocolRow result = .ok row →
      countedStatus result = .ok counted → countedAs status row.1 = countedAs status counted := by
    intro result row counted hrow hcounted
    simp only [protocolRow, bind_eq_ok] at hrow
    obtain ⟨metrics, _, other, hother, hrow⟩ := hrow
    rw [hcounted] at hother
    cases hother
    cases hrow
    rfl
  rw [map_mapM hkeeps h, sum_collectProtocols, map_mapM_same hrow hrows hstatuses]

/-- The loop over the checks keeps a total, counts by status and profiles. -/
theorem foldl_countCheck (checks : List Dict) (summary : ClientSummary) :
    checks.foldl (countCheck floatRepr) summary =
      ⟨summary.totalChecks + checks.length,
        (checks.map fun check => some (statusOfCheck floatRepr check)).foldl StatusCounts.count
          summary.byStatus,
        checks.foldl (Dict.accumulateStep (profileOf floatRepr) (fun _ => newProfile)
          (countProfileCheck floatRepr)) summary.byProfile,
        summary.overallStatus⟩ := by
  induction checks generalizing summary with
  | nil => rfl
  | cons check checks ih =>
      rw [List.foldl_cons, ih, List.length_cons, Nat.add_comm checks.length 1, ← Nat.add_assoc]
      rfl

/-- The profiles count every check once, in their totals and under its status. -/
theorem sum_profiles (checks : List Dict) :
    let profiles := Dict.accumulate (profileOf floatRepr) (fun _ => newProfile)
      (countProfileCheck floatRepr) checks
    (profiles.map fun entry => entry.2.totalChecks).sum = checks.length ∧
      ∀ status, (profiles.map fun entry => entry.2.byStatus.get status).sum =
        ((checks.map fun check => some (statusOfCheck floatRepr check)).map
          (countedAs status)).sum := by
  constructor
  · rw [Dict.sum_accumulate _ _ _ ProfileSummary.totalChecks (fun _ => 1) (fun _ => rfl)
      fun _ _ => rfl]
    simp
  · intro status
    rw [List.map_map]
    apply Dict.sum_accumulate _ _ _ fun profile : ProfileSummary => profile.byStatus.get status
    · intro _
      exact StatusCounts.get_statusCounts status
    · intro profile check
      dsimp only [Function.comp_apply, countProfileCheck]
      exact StatusCounts.get_increment profile.byStatus (statusOfCheck floatRepr check) status

theorem sum_summarizeClientCompatibility {results : List Dict} {summary : ClientSummary}
    (h : summarizeClientCompatibility floatRepr results = .ok summary) :
    (summary.byProfile.map fun entry => entry.2.totalChecks).sum = summary.totalChecks ∧
      ∀ status, (summary.byProfile.map fun entry => entry.2.byStatus.get status).sum =
        summary.byStatus.get status := by
  obtain ⟨checks, _, h⟩ := bind_eq_ok.mp h
  cases h
  obtain ⟨htotal, hstatus⟩ := sum_profiles floatRepr checks.flatten
  rw [foldl_countCheck]
  dsimp only
  change _ ∧ ∀ status, (List.map _ (List.map _ (Dict.accumulate (profileOf floatRepr)
    (fun _ => newProfile) (countProfileCheck floatRepr) checks.flatten))).sum = _
  constructor
  · rw [List.map_map, Nat.zero_add]
    exact htotal
  · intro status
    rw [List.map_map, StatusCounts.get_foldl_count, StatusCounts.get_statusCounts, Nat.zero_add,
      ← hstatus status]
    rfl

/-! ## 4. The summary -/

def Summary.toDict (summary : Summary) : Dict :=
  [("total_results", .int summary.totalResults), ("by_status", summary.byStatus.toJson),
    ("average_deltas", floatsJson summary.averageDeltas),
    ("average_metrics", floatsJson summary.averageMetrics),
    ("latency_comparison", comparisonsJson "p95" summary.latencyComparison),
    ("throughput_comparison", comparisonsJson "value" summary.throughputComparison),
    ("client_compatibility", summary.clientCompatibility.toJson),
    ("failure_paths", .list (summary.failurePaths.map FailurePath.toJson)),
    ("by_protocol", protocolsJson summary.byProtocol),
    ("overall_status", .str summary.overallStatus)]

/-- The summary of a run is the JSON of what the engine returns for its results. -/
theorem summarizeResults_engine (average : Nat → List Json → Except EngineError PyFloat)
    (entries : List ResultEntry) :
    @Performance.summarizeResults (engineFunctions floatRepr average) entries =
      (summarizeResults floatRepr average (entries.map rowOf)).toOption.map Summary.toDict := by
  have hcounts := get_counts_rows entries
  have hbyStatus : byStatus entries = resultStatuses.map fun status => (status.text,
      Json.int (((entries.map fun entry => some entry.status).foldl StatusCounts.count
        statusCounts).get status)) := by
    simp only [hcounts]
    rfl
  have htotal : (resultStatuses.map (countOf entries)).sum =
      ((entries.map fun entry => some entry.status).foldl StatusCounts.count
        statusCounts).total := by
    simp only [resultStatuses, List.map_cons, List.map_nil, List.sum_cons, List.sum_nil, ← hcounts,
      StatusCounts.get, StatusCounts.total]
    omega
  unfold Performance.summarizeResults summarizeResults
  rw [countedStatus_rows, hbyStatus, htotal, ← overallStatus_rows]
  simp only [PerformanceEngine.averageDeltas, PerformanceEngine.averageMetrics,
    PerformanceEngine.latencyComparison, PerformanceEngine.throughputComparison,
    PerformanceEngine.clientCompatibility, PerformanceEngine.failurePaths,
    PerformanceEngine.byProtocol, toOption_bind, Option.bind_eq_bind, Option.map_bind,
    Option.bind_map, Function.comp_def]
  rfl

/-- **The summary conserves counts.** -/
theorem summarizeResults_conserves {average : Nat → List Json → Except EngineError PyFloat}
    {results : List Dict} {summary : Summary}
    (hvalid : ∀ result ∈ results, ∃ status, HasStatus result status)
    (h : summarizeResults floatRepr average results = .ok summary) :
    summary.totalResults = results.length ∧
      summary.byStatus.total = summary.totalResults ∧
      (∀ status, (summary.byProtocol.map fun entry => entry.2.byStatus.get status).sum =
        summary.byStatus.get status) ∧
      ((summary.clientCompatibility.byProfile.map fun entry => entry.2.totalChecks).sum =
        summary.clientCompatibility.totalChecks) ∧
      (∀ status, (summary.clientCompatibility.byProfile.map fun entry =>
        entry.2.byStatus.get status).sum = summary.clientCompatibility.byStatus.get status) ∧
      WorstPresent results summary.overallStatus := by
  simp only [summarizeResults, bind_eq_ok] at h
  obtain ⟨statuses, hstatuses, _, _, _, _, _, _, _, _, clients, hclients, _, _, protocols,
    hprotocols, h⟩ := h
  cases h
  obtain ⟨htotal, hbyStatus⟩ := sum_summarizeClientCompatibility floatRepr hclients
  refine ⟨total_counts hvalid hstatuses, rfl, ?_, htotal, hbyStatus,
    worstPresent_counts hvalid hstatuses⟩
  intro status
  rw [sum_summarizeByProtocol floatRepr hstatuses hprotocols, StatusCounts.get_foldl_count,
    StatusCounts.get_statusCounts, Nat.zero_add]

omit [PyText] in
/-- A passing result with a client check and a failing one. -/
theorem twoResults_conserved : letI := asciiText
    let results : List Dict :=
      [[("status", .str "PASS"), ("bom_ref", .str "a"),
          ("metrics", .dict [("protocol", .str "TLS"), ("availability_success_rate", .int 1),
            ("client_compatibility",
              .list [.dict [("profile", .str "curl"), ("status", .str "PASS")]])])],
        [("status", .str "FAIL"), ("bom_ref", .str "b"),
          ("metrics", .dict [("protocol", .str "SSH"), ("failure_reason", .str "timeout")])]]
    ∃ summary, summarizeResults (fun _ => []) (fun _ _ => .ok one) results = .ok summary ∧
      summary.totalResults = 2 ∧ summary.byStatus.total = summary.totalResults ∧
        WorstPresent results summary.overallStatus := by
  let _ := asciiText
  intro results
  let counts (pass fail : Nat) : StatusCounts := ⟨pass, 0, fail, 0⟩
  let averages := [("availability_success_rate", one)]
  let summary : Summary :=
    { totalResults := 2
      byStatus := counts 1 1
      averageDeltas := []
      averageMetrics := averages
      latencyComparison := []
      throughputComparison := []
      clientCompatibility :=
        ⟨1, counts 1 0, [("curl".toList, ⟨1, counts 1 0, [], [], "PASS"⟩)], "PASS"⟩
      failurePaths := [⟨⟨"SSH".toList, [], [], "timeout".toList⟩, 1, ["b".toList], .fail⟩]
      byProtocol :=
        [("TLS".toList, ⟨1, counts 1 0, averages, [], []⟩),
          ("SSH".toList, ⟨1, counts 0 1, [], [], [("timeout".toList, 1)]⟩)]
      overallStatus := "FAIL" }
  have hsummary : summarizeResults (fun _ => []) (fun _ _ => .ok one) results = .ok summary := by
    decide +kernel
  have hvalid : ∀ result ∈ results, ∃ status, HasStatus result status := by
    intro result hresult
    simp only [results, List.mem_cons, List.not_mem_nil, or_false] at hresult
    rcases hresult with rfl | rfl
    · exact ⟨.pass, rfl⟩
    · exact ⟨.fail, rfl⟩
  obtain ⟨htotal, hbyStatus, -, -, -, hworst⟩ :=
    summarizeResults_conserves (fun _ => []) hvalid hsummary
  exact ⟨summary, hsummary, htotal, hbyStatus, hworst⟩

end

end CryptoScanner.Performance.Engine
