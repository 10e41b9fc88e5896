import CryptoScanner.Library.StableSort
import CryptoScanner.Performance.Engine.Conservation
import Mathlib.Algebra.BigOperators.Group.List.Basic
import Mathlib.Data.List.Dedup
import Mathlib.Data.String.Basic

/-!
# The summary and the order of the rows

With exact averages every part of the summary but the failure paths is the same for every order of
the results.  The failure paths are sorted by a part of what tells them apart, so the order of the
results shows where two of them tie.
-/

namespace CryptoScanner.Performance.Engine

open Library Python

/-! ## 1. Exact averages -/

def finitePart : PyFloat → ℚ
  | .finite q => q
  | _ => 0

def exactSum (values : List PyFloat) : PyFloat :=
  if .nan ∈ values ∨ .inf ∈ values ∧ .negInf ∈ values then .nan
  else if .inf ∈ values then .inf
  else if .negInf ∈ values then .negInf
  else .finite (values.map finitePart).sum

def dividedBy (count : Nat) : PyFloat → PyFloat
  | .finite q => .finite (q / count)
  | sum => sum

/-- `round(sum(values) / len(values), digits)`, of which only the last step rounds. -/
def exactAverage (digits : Nat) (values : List Json) : Except EngineError PyFloat :=
  .ok ((dividedBy values.length (exactSum (values.filterMap Json.number?))).round digits)

theorem exactAverage_perm (digits : Nat) {values values' : List Json} (h : values.Perm values') :
    exactAverage digits values = exactAverage digits values' := by
  have hnumbers := h.filterMap Json.number?
  have hsum := (hnumbers.map finitePart).sum_eq
  simp only [exactAverage, exactSum, h.length_eq, hnumbers.mem_iff, hsum]

/-! ## 2. Summaries that differ in the order of their entries -/

def SameEntries {α : Type} (d d' : List (List Char × α)) : Prop :=
  ∀ key, Dict.get? d' key = Dict.get? d key

structure ProfileSummary.Same (profile profile' : ProfileSummary) : Prop where
  totalChecks : profile'.totalChecks = profile.totalChecks
  byStatus : profile'.byStatus = profile.byStatus
  responseCodes : SameEntries profile.responseCodes profile'.responseCodes
  failureReasons : SameEntries profile.failureReasons profile'.failureReasons
  overallStatus : profile'.overallStatus = profile.overallStatus

structure ClientSummary.Same (summary summary' : ClientSummary) : Prop where
  totalChecks : summary'.totalChecks = summary.totalChecks
  byStatus : summary'.byStatus = summary.byStatus
  byProfile : ∀ profile, Option.Rel ProfileSummary.Same (Dict.get? summary.byProfile profile)
    (Dict.get? summary'.byProfile profile)
  overallStatus : summary'.overallStatus = summary.overallStatus

structure ProtocolSummary.Same (protocol protocol' : ProtocolSummary) : Prop where
  totalResults : protocol'.totalResults = protocol.totalResults
  byStatus : protocol'.byStatus = protocol.byStatus
  averageMetrics : protocol'.averageMetrics = protocol.averageMetrics
  responseCodes : SameEntries protocol.responseCodes protocol'.responseCodes
  failureReasons : SameEntries protocol.failureReasons protocol'.failureReasons

/-- The summaries are equal; dictionaries are equal in any order, and lists in theirs. -/
structure Summary.Same (summary summary' : Summary) : Prop where
  totalResults : summary'.totalResults = summary.totalResults
  byStatus : summary'.byStatus = summary.byStatus
  averageDeltas : summary'.averageDeltas = summary.averageDeltas
  averageMetrics : summary'.averageMetrics = summary.averageMetrics
  latencyComparison : summary'.latencyComparison = summary.latencyComparison
  throughputComparison : summary'.throughputComparison = summary.throughputComparison
  clientCompatibility : summary.clientCompatibility.Same summary'.clientCompatibility
  failurePaths : summary'.failurePaths = summary.failurePaths
  byProtocol : ∀ protocol, Option.Rel ProtocolSummary.Same (Dict.get? summary.byProtocol protocol)
    (Dict.get? summary'.byProtocol protocol)
  overallStatus : summary'.overallStatus = summary.overallStatus

abbrev SameValues : List (String × List Json) → List (String × List Json) → Prop :=
  List.Forall₂ fun values values' => values'.1 = values.1 ∧ values.2.Perm values'.2

/-- What is collected of the results of a protocol, up to the order of the values. -/
structure ProtocolEntry.Same (entry entry' : ProtocolEntry) : Prop where
  totalResults : entry'.totalResults = entry.totalResults
  byStatus : entry'.byStatus = entry.byStatus
  metrics : SameValues entry.metrics entry'.metrics
  responseCodes : SameEntries entry.responseCodes entry'.responseCodes
  failureReasons : SameEntries entry.failureReasons entry'.failureReasons

/-- A path before its references are sorted. -/
structure FailurePath.Same (path path' : FailurePath) : Prop where
  key : path'.key = path.key
  count : path'.count = path.count
  assetRefs : path.assetRefs.Perm path'.assetRefs
  status : path'.status = path.status

theorem SameEntries.refl {α : Type} (d : List (List Char × α)) : SameEntries d d := fun _ => rfl

theorem SameEntries.trans {α : Type} {a b c : List (List Char × α)} (h : SameEntries a b)
    (h' : SameEntries b c) : SameEntries a c := fun key => (h' key).trans (h key)

theorem SameValues.refl (values : List (String × List Json)) : SameValues values values :=
  List.forall₂_same.mpr fun entry _ => ⟨rfl, .refl entry.2⟩

theorem SameValues.trans {xs ys zs : List (String × List Json)} (h : SameValues xs ys)
    (h' : SameValues ys zs) : SameValues xs zs := by
  induction h generalizing zs with
  | nil => exact h'
  | cons hhead _ ih =>
      cases h' with
      | cons hhead' htail' =>
          exact .cons ⟨hhead'.1.trans hhead.1, hhead.2.trans hhead'.2⟩ (ih htail')

instance : Std.Refl ProfileSummary.Same where
  refl _ := ⟨rfl, rfl, .refl _, .refl _, rfl⟩

instance : IsTrans ProfileSummary ProfileSummary.Same where
  trans _ _ _ h h' :=
    ⟨h'.totalChecks.trans h.totalChecks, h'.byStatus.trans h.byStatus,
      h.responseCodes.trans h'.responseCodes, h.failureReasons.trans h'.failureReasons,
      h'.overallStatus.trans h.overallStatus⟩

instance : Std.Refl ProtocolEntry.Same where
  refl _ := ⟨rfl, rfl, .refl _, .refl _, .refl _⟩

instance : IsTrans ProtocolEntry ProtocolEntry.Same where
  trans _ _ _ h h' :=
    ⟨h'.totalResults.trans h.totalResults, h'.byStatus.trans h.byStatus, h.metrics.trans h'.metrics,
      h.responseCodes.trans h'.responseCodes, h.failureReasons.trans h'.failureReasons⟩

instance : Std.Refl FailurePath.Same where
  refl _ := ⟨rfl, rfl, .refl _, rfl⟩

instance : IsTrans FailurePath FailurePath.Same where
  trans _ _ _ h h' :=
    ⟨h'.key.trans h.key, h'.count.trans h.count, h.assetRefs.trans h'.assetRefs,
      h'.status.trans h.status⟩

/-! ## 3. One turn of each loop -/

namespace StatusCounts

theorem increment_comm (counts : StatusCounts) (status other : ResultStatus) :
    (counts.increment status).increment other = (counts.increment other).increment status := by
  cases status <;> cases other <;> rfl

theorem count_comm (counts : StatusCounts) (counted other : Option ResultStatus) :
    (counts.count counted).count other = (counts.count other).count counted := by
  cases counted with
  | none => rfl
  | some status =>
      cases other with
      | none => rfl
      | some other => exact increment_comm counts status other

end StatusCounts

section

variable [PyText] (floatRepr : PyFloat → List Char)

theorem get_incrementCount (counts : List (List Char × Nat)) (value : Json) (key : List Char) :
    Dict.get? (incrementCount floatRepr counts value) key =
      if key = textOrEmpty floatRepr value ∧ key ≠ [] then some ((Dict.get? counts key).getD 0 + 1)
      else Dict.get? counts key := by
  unfold incrementCount Dict.get?
  by_cases hempty : textOrEmpty floatRepr value = []
  · have hnot : ¬(key = textOrEmpty floatRepr value ∧ key ≠ []) := by
      rintro ⟨heq, hne⟩
      exact hne (heq.trans hempty)
    rw [if_pos hempty, if_neg hnot]
  · rw [if_neg hempty, Dict.lookup_set]
    by_cases heq : key = textOrEmpty floatRepr value
    · rw [if_pos heq, if_pos ⟨heq, heq ▸ hempty⟩, heq]
    · rw [if_neg heq, if_neg fun h => heq h.1]

theorem incrementCount_same {counts counts' : List (List Char × Nat)} (value : Json)
    (h : SameEntries counts counts') :
    SameEntries (incrementCount floatRepr counts value)
      (incrementCount floatRepr counts' value) := by
  intro key
  rw [get_incrementCount, get_incrementCount, h key]

theorem incrementCount_comm (counts : List (List Char × Nat)) (value other : Json) :
    SameEntries (incrementCount floatRepr (incrementCount floatRepr counts value) other)
      (incrementCount floatRepr (incrementCount floatRepr counts other) value) := by
  intro key
  simp only [get_incrementCount]
  by_cases hvalue : key = textOrEmpty floatRepr value ∧ key ≠ []
  · rw [if_pos hvalue, if_pos hvalue]
    by_cases hother : key = textOrEmpty floatRepr other ∧ key ≠ []
    · rw [if_pos hother, if_pos hother, Option.getD_some]
    · rw [if_neg hother, if_neg hother]
  · rw [if_neg hvalue, if_neg hvalue]

theorem countProfileCheck_same (profile profile' : ProfileSummary) (check : Dict)
    (h : profile.Same profile') :
    (countProfileCheck floatRepr profile check).Same
      (countProfileCheck floatRepr profile' check) where
  totalChecks := congrArg (· + 1) h.totalChecks
  byStatus := congrArg (fun counts => counts.increment (statusOfCheck floatRepr check)) h.byStatus
  responseCodes := incrementCount_same floatRepr _ h.responseCodes
  failureReasons := incrementCount_same floatRepr _ h.failureReasons
  overallStatus := h.overallStatus

theorem countProfileCheck_comm (profile : ProfileSummary) (check other : Dict) :
    (countProfileCheck floatRepr (countProfileCheck floatRepr profile check) other).Same
      (countProfileCheck floatRepr (countProfileCheck floatRepr profile other) check) where
  totalChecks := rfl
  byStatus := StatusCounts.increment_comm _ _ _
  responseCodes := incrementCount_comm floatRepr _ _ _
  failureReasons := incrementCount_comm floatRepr _ _ _
  overallStatus := rfl

omit [PyText] in
theorem addValues_same {values values' : List (String × List Json)} (metrics : Dict)
    (h : SameValues values values') :
    SameValues (addValues values metrics) (addValues values' metrics) := by
  rw [addValues, addValues, SameValues, List.forall₂_map_left_iff, List.forall₂_map_right_iff]
  apply List.Forall₂.imp _ h
  rintro ⟨key, values⟩ ⟨key', values'⟩ ⟨rfl, hperm⟩
  refine ⟨rfl, ?_⟩
  by_cases hnumber : isProperNumber (metrics.get key')
  · simpa [hnumber] using hperm.append_right _
  · simpa [hnumber] using hperm

omit [PyText] in
theorem addValues_comm (values : List (String × List Json)) (metrics other : Dict) :
    SameValues (addValues (addValues values metrics) other)
      (addValues (addValues values other) metrics) := by
  simp only [addValues, SameValues, List.map_map, List.forall₂_map_left_iff,
    List.forall₂_map_right_iff]
  apply List.forall₂_same.mpr
  rintro ⟨key, values⟩ _
  refine ⟨rfl, ?_⟩
  by_cases hnumber : isProperNumber (metrics.get key) <;>
    by_cases hother : isProperNumber (other.get key) <;> simp [hnumber, hother]
  exact (List.Perm.swap _ _ []).append_left values

theorem countResult_same (entry entry' : ProtocolEntry) (row : Option ResultStatus × Dict)
    (h : entry.Same entry') :
    (countResult floatRepr entry row).Same (countResult floatRepr entry' row) where
  totalResults := congrArg (· + 1) h.totalResults
  byStatus := congrArg (fun counts => counts.count row.1) h.byStatus
  metrics := addValues_same _ h.metrics
  responseCodes := incrementCount_same floatRepr _ h.responseCodes
  failureReasons := incrementCount_same floatRepr _ h.failureReasons

theorem countResult_comm (entry : ProtocolEntry) (row other : Option ResultStatus × Dict) :
    (countResult floatRepr (countResult floatRepr entry row) other).Same
      (countResult floatRepr (countResult floatRepr entry other) row) where
  totalResults := rfl
  byStatus := StatusCounts.count_comm _ _ _
  metrics := addValues_comm _ _ _
  responseCodes := incrementCount_comm floatRepr _ _ _
  failureReasons := incrementCount_comm floatRepr _ _ _

end

/-! ## 4. Averages and comparisons -/

theorem averageEntry_perm (digits : Nat) (key : String) {values values' : List Json}
    (h : values.Perm values') :
    averageEntry exactAverage digits key values = averageEntry exactAverage digits key values' := by
  have hnil : values = [] ↔ values' = [] := by
    rw [← List.length_eq_zero_iff, ← List.length_eq_zero_iff, h.length_eq]
  unfold averageEntry
  simp only [hnil, exactAverage_perm digits h]

theorem deltaKeys_perm {deltas deltas' : List Dict} (h : deltas.Perm deltas') :
    deltaKeys deltas = deltaKeys deltas' :=
  insertionSort_eq_of_perm _ (h.flatMap_right _).dedup

/-- The averages under keys that do not depend on the order of what is read. -/
theorem averages_perm {read : Dict → Except EngineError Dict} {keys : List Dict → List String}
    (digits : Nat) (hkeys : ∀ {rows rows' : List Dict}, rows.Perm rows' → keys rows = keys rows')
    {results results' : List Dict} (hperm : results.Perm results')
    {averages : List (String × PyFloat)}
    (h : (do
      let rows ← results.mapM read
      let entries ← (keys rows).mapM fun key => averageEntry exactAverage digits key
        ((rows.map fun fields : Dict => fields.get key).filter isNumber)
      return entries.flatten) = .ok averages) :
    (do
      let rows ← results'.mapM read
      let entries ← (keys rows).mapM fun key => averageEntry exactAverage digits key
        ((rows.map fun fields : Dict => fields.get key).filter isNumber)
      return entries.flatten) = Except.ok averages := by
  obtain ⟨rows, hrows, h⟩ := bind_eq_ok.mp h
  obtain ⟨entries, hentries, h⟩ := bind_eq_ok.mp h
  obtain ⟨rows', hrows', hperm⟩ := mapM_perm hperm hrows
  refine bind_eq_ok.mpr ⟨rows', hrows', bind_eq_ok.mpr ⟨entries, ?_, h⟩⟩
  rw [← hkeys hperm]
  apply mapM_eq_ok_of _ hentries
  intro key _ entry hentry
  rw [← averageEntry_perm digits key ((hperm.map fun fields : Dict => fields.get key).filter isNumber)]
  exact hentry

theorem averageDeltas_perm {results results' : List Dict} (hperm : results.Perm results')
    {averages : List (String × PyFloat)} (h : averageDeltas exactAverage results = .ok averages) :
    averageDeltas exactAverage results' = .ok averages :=
  averages_perm 2 deltaKeys_perm hperm h

theorem averageMetrics_perm {results results' : List Dict} (hperm : results.Perm results')
    {averages : List (String × PyFloat)} (h : averageMetrics exactAverage results = .ok averages) :
    averageMetrics exactAverage results' = .ok averages :=
  @averages_perm _ (fun _ => averagedKeys) 4 (fun _ => rfl) _ _ hperm _ h

theorem compareSeries_perm {read : Dict → Except EngineError (Option PyFloat)}
    {results results' : List Dict} (hperm : results.Perm results') {comparison : Option Comparison}
    (h : compareSeries exactAverage read results = .ok comparison) :
    compareSeries exactAverage read results' = .ok comparison := by
  unfold compareSeries at h ⊢
  obtain ⟨pairs, hpairs, h⟩ := bind_eq_ok.mp h
  obtain ⟨pairs', hpairs', hperm⟩ := mapM_perm hperm hpairs
  refine bind_eq_ok.mpr ⟨pairs', hpairs', ?_⟩
  -- both averages are over the same values in another order
  have hvalues := hperm.filterMap bothNumbers
  have hnil : pairs.filterMap bothNumbers = [] ↔ pairs'.filterMap bothNumbers = [] := by
    rw [← List.length_eq_zero_iff, ← List.length_eq_zero_iff, hvalues.length_eq]
  have hcandidate := exactAverage_perm 2 (hvalues.map fun value => Json.float value.1)
  have hbaseline := exactAverage_perm 2 (hvalues.map fun value => Json.float value.2)
  simp only [hnil, hcandidate, hbaseline] at h
  exact h

theorem compareAll_perm {read : String → Dict → Except EngineError (Option PyFloat)}
    {names : List String} {results results' : List Dict} (hperm : results.Perm results')
    {comparisons : List (String × Comparison)}
    (h : compareAll exactAverage read names results = .ok comparisons) :
    compareAll exactAverage read names results' = .ok comparisons := by
  unfold compareAll at h ⊢
  obtain ⟨entries, hentries, h⟩ := bind_eq_ok.mp h
  refine bind_eq_ok.mpr ⟨entries, ?_, h⟩
  apply mapM_eq_ok_of _ hentries
  intro series _ entry hentry
  obtain ⟨comparison, hcomparison, hentry⟩ := bind_eq_ok.mp hentry
  exact bind_eq_ok.mpr ⟨comparison, compareSeries_perm hperm hcomparison, hentry⟩

/-! ## 5. Groups -/

section

variable [PyText] (floatRepr : PyFloat → List Char)

omit [PyText] in
theorem get_settle {profiles profiles' : List (List Char × ProfileSummary)}
    (h : ∀ profile, Option.Rel ProfileSummary.Same (Dict.get? profiles profile)
      (Dict.get? profiles' profile)) (profile : List Char) :
    Option.Rel ProfileSummary.Same
      (Dict.get? (profiles.map fun (profile, counts) => (profile, counts.settle)) profile)
      (Dict.get? (profiles'.map fun (profile, counts) => (profile, counts.settle)) profile) := by
  have hsettle : ∀ profiles, Dict.get? (profiles.map fun (profile, counts) =>
      (profile, ProfileSummary.settle counts)) profile =
        (Dict.get? profiles profile).map ProfileSummary.settle :=
    Dict.lookup_map_values _ profile
  have hprofile := h profile
  rw [hsettle, hsettle]
  generalize Dict.get? profiles profile = first at hprofile ⊢
  generalize Dict.get? profiles' profile = second at hprofile ⊢
  cases hprofile with
  | none => exact .none
  | some hsame =>
      exact .some ⟨hsame.totalChecks, hsame.byStatus, hsame.responseCodes, hsame.failureReasons,
        congrArg overallStatus hsame.byStatus⟩

theorem summarizeClientCompatibility_perm {results results' : List Dict}
    (hperm : results.Perm results') {summary : ClientSummary}
    (h : summarizeClientCompatibility floatRepr results = .ok summary) :
    ∃ summary', summarizeClientCompatibility floatRepr results' = .ok summary' ∧
      summary.Same summary' := by
  obtain ⟨checks, hchecks, h⟩ := bind_eq_ok.mp h
  obtain ⟨checks', hchecks', hperm⟩ := mapM_perm hperm hchecks
  refine ⟨_, bind_eq_ok.mpr ⟨checks', hchecks', rfl⟩, ?_⟩
  cases h
  rw [foldl_countCheck, foldl_countCheck]
  have hflat := hperm.flatten
  have hstatuses := hflat.map fun check => some (statusOfCheck floatRepr check)
  have hcounts := hstatuses.foldl_eq' (fun a _ b _ counts => StatusCounts.count_comm counts a b)
    statusCounts
  exact {
    totalChecks := congrArg (0 + ·) hflat.length_eq.symm
    byStatus := hcounts.symm
    byProfile := get_settle fun profile =>
      Dict.lookup_accumulate_perm _ _ _ (fun _ _ _ => countProfileCheck_same floatRepr _ _ _)
        (countProfileCheck_comm floatRepr) (fun _ _ _ => refl_of ProfileSummary.Same newProfile)
        hflat profile
    overallStatus := congrArg overallStatus hcounts.symm }

omit [PyText] in
theorem summary_same {entry entry' : ProtocolEntry} (hsame : entry.Same entry')
    {summary : ProtocolSummary} (h : entry.summary exactAverage = .ok summary) :
    ∃ summary', entry'.summary exactAverage = .ok summary' ∧ summary.Same summary' := by
  obtain ⟨averages, haverages, h⟩ := bind_eq_ok.mp h
  cases h
  have hagain : (entry'.metrics.mapM fun pair => averageEntry exactAverage 4 pair.1 pair.2) =
      .ok averages := by
    apply mapM_eq_ok_of_forall₂ _ haverages
    apply hsame.metrics.imp
    rintro ⟨key, values⟩ ⟨key', values'⟩ ⟨rfl, hperm⟩ average haverage
    exact (averageEntry_perm 4 key' hperm).symm.trans haverage
  refine ⟨_, bind_eq_ok.mpr ⟨averages, hagain, rfl⟩, ?_⟩
  exact ⟨hsame.totalResults, hsame.byStatus, rfl, hsame.responseCodes, hsame.failureReasons⟩

theorem summarizeByProtocol_perm {results results' : List Dict} (hperm : results.Perm results')
    {protocols : List (List Char × ProtocolSummary)}
    (h : summarizeByProtocol floatRepr exactAverage results = .ok protocols) :
    ∃ protocols', summarizeByProtocol floatRepr exactAverage results' = .ok protocols' ∧
      ∀ protocol, Option.Rel ProtocolSummary.Same (Dict.get? protocols protocol)
        (Dict.get? protocols' protocol) := by
  obtain ⟨rows, hrows, h⟩ := bind_eq_ok.mp h
  obtain ⟨rows', hrows', hperm⟩ := mapM_perm hperm hrows
  -- the entries agree protocol by protocol, since counting a row commutes
  have hentries : ∀ protocol, Option.Rel ProtocolEntry.Same
      (Dict.get? (collectProtocols floatRepr rows) protocol)
      (Dict.get? (collectProtocols floatRepr rows') protocol) := fun protocol =>
    Dict.lookup_accumulate_perm _ _ _ (fun _ _ _ => countResult_same floatRepr _ _ _)
      (countResult_comm floatRepr) (fun _ _ _ => refl_of ProtocolEntry.Same newProtocol) hperm
      protocol
  have hsummaries : ∀ protocol, Option.Rel (fun entry summary =>
      ProtocolEntry.summary exactAverage entry = .ok summary)
      (Dict.get? (collectProtocols floatRepr rows) protocol) (Dict.get? protocols protocol) :=
    lookup_mapM h
  -- so the summaries of the second list exist: each entry has a twin that was summarized
  have hall : ∀ entry ∈ collectProtocols floatRepr rows', ∃ summary,
      (do return (entry.1, ← entry.2.summary exactAverage)) = Except.ok summary := by
    rintro ⟨protocol, entry⟩ hmem
    have hlookup : Dict.get? (collectProtocols floatRepr rows') protocol = some entry :=
      (Dict.mem_iff_lookup (Dict.nodup_keys_accumulate _ _ _ rows') protocol entry).mp hmem
    have hentry := hentries protocol
    have hsummary := hsummaries protocol
    rw [hlookup] at hentry
    generalize Dict.get? (collectProtocols floatRepr rows) protocol = first at hentry hsummary
    cases hentry with
    | some hsame =>
        generalize Dict.get? protocols protocol = summary at hsummary
        cases hsummary with
        | some hsummary =>
            obtain ⟨summary', hsummary', _⟩ := summary_same hsame hsummary
            exact ⟨(protocol, summary'), bind_eq_ok.mpr ⟨summary', hsummary', rfl⟩⟩
  obtain ⟨protocols', hprotocols'⟩ := exists_mapM_eq_ok hall
  refine ⟨protocols', bind_eq_ok.mpr ⟨rows', hrows', hprotocols'⟩, ?_⟩
  intro protocol
  have hentry := hentries protocol
  have hsummary := hsummaries protocol
  have hsummary' : Option.Rel (fun entry summary =>
      ProtocolEntry.summary exactAverage entry = .ok summary)
      (Dict.get? (collectProtocols floatRepr rows') protocol) (Dict.get? protocols' protocol) :=
    lookup_mapM hprotocols' protocol
  generalize Dict.get? (collectProtocols floatRepr rows) protocol = first at hentry hsummary
  generalize Dict.get? (collectProtocols floatRepr rows') protocol = second at hentry hsummary'
  generalize Dict.get? protocols protocol = summary at hsummary ⊢
  generalize Dict.get? protocols' protocol = summary' at hsummary' ⊢
  cases hentry with
  | none =>
      cases hsummary
      cases hsummary'
      exact .none
  | some hsame =>
      cases hsummary with
      | some hsummary =>
          cases hsummary' with
          | some hsummary' =>
              obtain ⟨other, hother, hsame'⟩ := summary_same hsame hsummary
              rw [hsummary'] at hother
              cases hother
              exact .some hsame'

end

/-! ## 6. Failure paths -/

theorem countFailure_same (path path' : FailurePath) (failure : Failure) (h : path.Same path') :
    (countFailure path failure).Same (countFailure path' failure) where
  key := h.key
  count := congrArg (· + 1) h.count
  assetRefs := by
    unfold countFailure
    by_cases hmem : failure.assetRef ∈ path.assetRefs
    · rw [if_pos hmem, if_pos (h.assetRefs.mem_iff.mp hmem)]
      exact h.assetRefs
    · rw [if_neg hmem, if_neg fun hmem' => hmem (h.assetRefs.mem_iff.mpr hmem')]
      exact h.assetRefs.append_right [failure.assetRef]
  status := by
    unfold countFailure
    rw [h.status]

theorem countFailure_comm (path : FailurePath) (failure other : Failure) :
    (countFailure (countFailure path failure) other).Same
      (countFailure (countFailure path other) failure) where
  key := rfl
  count := rfl
  assetRefs := by
    unfold countFailure
    dsimp only
    by_cases hfirst : failure.assetRef ∈ path.assetRefs
    · rw [if_pos hfirst]
      by_cases hsecond : other.assetRef ∈ path.assetRefs
      · rw [if_pos hsecond, if_pos hfirst]
      · rw [if_neg hsecond, if_pos (List.mem_append_left _ hfirst)]
    · rw [if_neg hfirst]
      by_cases hsecond : other.assetRef ∈ path.assetRefs
      · rw [if_pos hsecond, if_neg hfirst, if_pos (List.mem_append_left _ hsecond)]
      · rw [if_neg hsecond]
        -- two new references, which may be one
        by_cases heq : other.assetRef = failure.assetRef
        · simp [heq]
        · rw [if_neg (by simp [hsecond, heq]), if_neg (by simp [hfirst, Ne.symm heq])]
          rw [List.append_assoc, List.append_assoc]
          exact (List.Perm.swap _ _ []).append_left path.assetRefs
  status := by
    unfold countFailure
    dsimp only
    cases path.status <;> cases failure.status <;> cases other.status <;> rfl

def emptyPath (failure : Failure) : FailurePath := ⟨failure.key, 0, [], .pass⟩

/-- The first failure of a path sets its status, whatever it starts as. -/
theorem collectPaths_eq (failures : List Failure) :
    collectPaths failures = Dict.accumulate Failure.key emptyPath countFailure failures := by
  have hfirst : ∀ failure, countFailure (newPath failure) failure =
      countFailure (emptyPath failure) failure := by
    rintro ⟨key, status, assetRef⟩
    cases status <;> rfl
  have hstep : Dict.accumulateStep Failure.key newPath countFailure =
      Dict.accumulateStep Failure.key emptyPath countFailure := by
    funext d failure
    unfold Dict.accumulateStep
    cases d.lookup failure.key with
    | none => exact congrArg (fun path => Dict.set failure.key path d) (hfirst failure)
    | some path => rfl
  rw [collectPaths, Dict.accumulate, hstep]
  rfl

def failuresOf (failures : List Failure) (key : PathKey) : List Failure :=
  failures.filter fun failure => decide (failure.key = key)

def worstRank (failures : List Failure) : Nat :=
  (failures.map fun failure => statusRank failure.status).foldr max 0

theorem foldl_countFailure (failures : List Failure) (path : FailurePath) :
    (failures.foldl countFailure path).key = path.key ∧
      (failures.foldl countFailure path).count = path.count + failures.length ∧
        statusRank (failures.foldl countFailure path).status =
          max (statusRank path.status) (worstRank failures) := by
  induction failures generalizing path with
  | nil => exact ⟨rfl, rfl, (Nat.max_eq_left (Nat.zero_le _)).symm⟩
  | cons failure failures ih =>
      obtain ⟨hkey, hcount, hstatus⟩ := ih (countFailure path failure)
      have hrank : statusRank (countFailure path failure).status =
          max (statusRank path.status) (statusRank failure.status) := by
        unfold countFailure
        dsimp only
        cases path.status <;> cases failure.status <;> rfl
      refine ⟨hkey, ?_, ?_⟩
      · rw [List.foldl_cons, hcount, List.length_cons]
        show path.count + 1 + failures.length = _
        omega
      · rw [List.foldl_cons, hstatus, hrank, max_assoc]
        rfl

/-- What is collected for a path is about its failures. -/
theorem collectPaths_spec {failures : List Failure} {entry : PathKey × FailurePath}
    (h : entry ∈ collectPaths failures) :
    entry.2.key = entry.1 ∧ entry.2.count = (failuresOf failures entry.1).length ∧
      statusRank entry.2.status = worstRank (failuresOf failures entry.1) := by
  obtain ⟨key, path⟩ := entry
  rw [collectPaths_eq] at h
  have hlookup :=
    (Dict.mem_iff_lookup (Dict.nodup_keys_accumulate _ _ _ failures) key path).mp h
  rw [Dict.lookup_accumulate] at hlookup
  change Dict.entryOf emptyPath countFailure (failuresOf failures key) = some path at hlookup
  dsimp only
  cases hgroup : failuresOf failures key with
  | nil =>
      rw [hgroup] at hlookup
      cases hlookup
  | cons first rest =>
      rw [hgroup] at hlookup
      obtain ⟨hkey, hcount, hstatus⟩ := foldl_countFailure (first :: rest) (emptyPath first)
      have hfirst : first ∈ failuresOf failures key := hgroup ▸ List.mem_cons_self
      have hfirstKey : first.key = key := of_decide_eq_true (List.mem_filter.mp hfirst).2
      cases hlookup
      refine ⟨hkey.trans hfirstKey, ?_, ?_⟩
      · rw [hcount]
        exact Nat.zero_add _
      · rw [hstatus]
        exact Nat.max_eq_right (Nat.zero_le _)

theorem keys_normalizedPaths (failures : List Failure) :
    (normalizedPaths failures).map FailurePath.key = (collectPaths failures).map Prod.fst := by
  rw [normalizedPaths, List.map_map]
  apply List.map_congr_left
  intro entry hentry
  exact (collectPaths_spec hentry).1

theorem nodup_keys_normalizedPaths (failures : List Failure) :
    ((normalizedPaths failures).map FailurePath.key).Nodup := by
  rw [keys_normalizedPaths]
  exact Dict.nodup_keys_accumulate _ _ _ failures

/-- The first of some paths is that of the first failure of one of them. -/
theorem find?_keys_normalizedPaths (p : PathKey → Bool) (failures : List Failure) :
    ((normalizedPaths failures).map FailurePath.key).find? p =
      (failures.map Failure.key).find? p := by
  rw [keys_normalizedPaths]
  exact Dict.find?_keys_accumulate _ _ _ p failures

theorem normalizedPaths_spec {failures : List Failure} {path : FailurePath}
    (h : path ∈ normalizedPaths failures) :
    path.count = (failuresOf failures path.key).length ∧
      statusRank path.status = worstRank (failuresOf failures path.key) := by
  obtain ⟨entry, hentry, rfl⟩ := List.mem_map.mp h
  obtain ⟨hkey, hcount, hstatus⟩ := collectPaths_spec hentry
  show entry.2.count = (failuresOf failures entry.2.key).length ∧
    statusRank entry.2.status = worstRank (failuresOf failures entry.2.key)
  rw [hkey]
  exact ⟨hcount, hstatus⟩

theorem mem_normalizedPaths {failures : List Failure} {failure : Failure} (h : failure ∈ failures) :
    ∃ path ∈ normalizedPaths failures, path.key = failure.key := by
  have hmem : failure.key ∈ (normalizedPaths failures).map FailurePath.key := by
    rw [keys_normalizedPaths]
    exact (Dict.mem_keys_accumulate _ _ _).mpr ⟨failure, h, rfl⟩
  exact List.mem_map.mp hmem

theorem normalizedPaths_perm {failures failures' : List Failure} (hperm : failures.Perm failures') :
    (normalizedPaths failures).Perm (normalizedPaths failures') := by
  have hlookup : ∀ key,
      ((collectPaths failures).map fun entry => (entry.1, FailurePath.settle entry.2)).lookup key =
        ((collectPaths failures').map fun entry =>
          (entry.1, FailurePath.settle entry.2)).lookup key := by
    intro key
    have hvalues : ∀ failures, ((collectPaths failures).map fun entry =>
        (entry.1, FailurePath.settle entry.2)).lookup key =
          ((collectPaths failures).lookup key).map FailurePath.settle :=
      fun failures => Dict.lookup_map_values FailurePath.settle key (collectPaths failures)
    rw [hvalues, hvalues, collectPaths_eq, collectPaths_eq]
    have hnew : ∀ a b : Failure, a.key = b.key → (emptyPath a).Same (emptyPath b) :=
      fun _ _ heq => ⟨heq.symm, rfl, .refl _, rfl⟩
    have hrel := Dict.lookup_accumulate_perm Failure.key emptyPath countFailure countFailure_same
      countFailure_comm hnew hperm key
    generalize (Dict.accumulate Failure.key emptyPath countFailure failures).lookup key = first
      at hrel ⊢
    generalize (Dict.accumulate Failure.key emptyPath countFailure failures').lookup key = second
      at hrel ⊢
    cases hrel with
    | none => rfl
    | @some path path' hsame =>
        have hrefs := insertionSort_eq_of_perm (· ≤ ·) hsame.assetRefs
        have hsettle : path.settle = path'.settle := by
          unfold FailurePath.settle
          rw [hsame.key, hsame.count, hsame.status, hrefs]
        exact congrArg some hsettle
  have hnodup : ∀ failures, (((collectPaths failures).map fun entry =>
      (entry.1, FailurePath.settle entry.2)).map Prod.fst).Nodup := by
    intro failures
    rw [List.map_map]
    exact Dict.nodup_keys_accumulate _ _ _ failures
  have hentries := Dict.perm_of_lookup (hnodup failures) (hnodup failures') hlookup
  have hpaths := hentries.map Prod.snd
  rw [List.map_map, List.map_map] at hpaths
  exact hpaths

/-! ## 7. Ties -/

/-- Two paths that the sort does not tell apart. -/
structure Tied (failures : List Failure) (p q : PathKey) : Prop where
  distinct : p ≠ q
  status : worstRank (failuresOf failures q) = worstRank (failuresOf failures p)
  count : (failuresOf failures q).length = (failuresOf failures p).length
  protocol : q.protocol = p.protocol
  clientProfile : q.clientProfile = p.clientProfile

/-- Which of two paths a result lists first, if it lists one of them. -/
def leads (p q : PathKey) (row : List Failure) : Option PathKey :=
  (row.map Failure.key).find? (either p q)

/-- Of two tied paths, the one that some result lists first no result lists second. -/
def TiesLed (rows : List (List Failure)) : Prop :=
  ∀ p q, Tied rows.flatten p q → (∃ row ∈ rows, leads p q row = some p) →
    ∀ row ∈ rows, leads p q row ≠ some q

theorem sortKey_eq_iff {path other : FailurePath} :
    sortKey path = sortKey other ↔ statusRank path.status = statusRank other.status ∧
      path.count = other.count ∧ path.key.protocol = other.key.protocol ∧
        path.key.clientProfile = other.key.clientProfile := by
  simp only [sortKey, EmbeddingLike.apply_eq_iff_eq, Prod.mk.injEq, neg_inj, Nat.cast_inj]

theorem tied_iff {failures : List Failure} {path other : FailurePath}
    (hpath : path ∈ normalizedPaths failures) (hother : other ∈ normalizedPaths failures) :
    (path ≠ other ∧ sortKey path ≤ sortKey other ∧ sortKey other ≤ sortKey path) ↔
      Tied failures path.key other.key := by
  obtain ⟨hcount, hstatus⟩ := normalizedPaths_spec hpath
  obtain ⟨hcount', hstatus'⟩ := normalizedPaths_spec hother
  constructor
  · rintro ⟨hne, hle, hge⟩
    obtain ⟨heqStatus, heqCount, heqProtocol, heqProfile⟩ := sortKey_eq_iff.mp (le_antisymm hle hge)
    refine ⟨?_, ?_, ?_, heqProtocol.symm, heqProfile.symm⟩
    · exact fun heq =>
        hne (List.inj_on_of_nodup_map (nodup_keys_normalizedPaths failures) hpath hother heq)
    · rw [← hstatus, ← hstatus', heqStatus]
    · rw [← hcount, ← hcount', heqCount]
  · intro htied
    have heq : sortKey path = sortKey other := by
      rw [sortKey_eq_iff]
      refine ⟨?_, ?_, htied.protocol.symm, htied.clientProfile.symm⟩
      · rw [hstatus, hstatus', htied.status]
      · rw [hcount, hcount', htied.count]
    exact ⟨fun h => htied.distinct (congrArg FailurePath.key h), heq.le, heq.ge⟩

/-- The first result that lists one of the paths decides. -/
theorem leads_flatten (p q : PathKey) (rows : List (List Failure)) :
    leads p q rows.flatten = rows.findSome? (leads p q) := by
  induction rows with
  | nil => rfl
  | cons row rows ih =>
      rw [List.flatten_cons, leads, List.map_append, List.find?_append, List.findSome?_cons]
      change (leads p q row).or (leads p q rows.flatten) = _
      rw [ih]
      cases leads p q row <;> rfl

theorem leads_mem {p q key : PathKey} {failures : List Failure}
    (h : leads p q failures = some key) :
    (key = p ∨ key = q) ∧ ∃ failure ∈ failures, failure.key = key := by
  unfold leads at h
  have hkey := List.find?_some h
  rw [either, decide_eq_true_eq] at hkey
  exact ⟨hkey, List.mem_map.mp (List.mem_of_find?_eq_some h)⟩

/-- Of two tied paths, one has failures if the other has. -/
theorem Tied.exists_failure {failures : List Failure} {p q : PathKey} (h : Tied failures p q)
    (hp : ∃ failure ∈ failures, failure.key = p) : ∃ failure ∈ failures, failure.key = q := by
  obtain ⟨failure, hfailure, hkey⟩ := hp
  have hmem : failure ∈ failuresOf failures p :=
    List.mem_filter.mpr ⟨hfailure, decide_eq_true hkey⟩
  have hpos := List.length_pos_of_mem hmem
  rw [← h.count] at hpos
  obtain ⟨other, hother⟩ := List.exists_mem_of_length_pos hpos
  exact ⟨other, (List.mem_filter.mp hother).1, of_decide_eq_true (List.mem_filter.mp hother).2⟩

theorem Tied.perm {failures failures' : List Failure} {p q : PathKey} (h : Tied failures p q)
    (hperm : failures.Perm failures') : Tied failures' p q := by
  have hgroup : ∀ key, (failuresOf failures key).Perm (failuresOf failures' key) := fun key =>
    hperm.filter _
  have hrank : ∀ key, worstRank (failuresOf failures' key) = worstRank (failuresOf failures key) :=
    fun key => ((hgroup key).map _).symm.foldr_eq 0
  refine ⟨h.distinct, ?_, ?_, h.protocol, h.clientProfile⟩
  · rw [hrank, hrank, h.status]
  · rw [← (hgroup p).length_eq, ← (hgroup q).length_eq, h.count]

instance : Std.Total fun path other : FailurePath => sortKey path ≤ sortKey other :=
  ⟨fun path other => le_total (sortKey path) (sortKey other)⟩

instance : IsTrans FailurePath fun path other => sortKey path ≤ sortKey other :=
  ⟨fun _ _ _ hle hle' => hle.trans hle'⟩

theorem pair_sublist_normalizedPaths {failures : List Failure} {path other : FailurePath}
    (hpath : path ∈ normalizedPaths failures) (hother : other ∈ normalizedPaths failures)
    (hne : path ≠ other) : [path, other].Sublist (normalizedPaths failures) ↔
      leads path.key other.key failures = some path.key := by
  rw [pair_sublist_iff_find? (nodup_keys_normalizedPaths failures) hpath hother hne,
    find?_keys_normalizedPaths]
  rfl

/-- Reordered failures are listed alike exactly if the same one of every two tied paths leads. -/
theorem sortedPaths_eq_iff {failures failures' : List Failure} (hperm : failures.Perm failures') :
    sortedPaths failures = sortedPaths failures' ↔
      ∀ p q, Tied failures p q → leads p q failures = some p → leads p q failures' = some p := by
  have hpaths := normalizedPaths_perm hperm
  rw [sortedPaths, sortedPaths,
    insertionSort_eq_iff _ hpaths (nodup_keys_normalizedPaths failures).of_map]
  constructor
  · intro hties p q htied hlead
    -- the two paths have entries, whose order is that of their first failures
    obtain ⟨failure, hfailure, hkey⟩ := (leads_mem hlead).2
    obtain ⟨failure', hfailure', hkey'⟩ := htied.exists_failure ⟨failure, hfailure, hkey⟩
    obtain ⟨path, hpath, rfl⟩ := hkey ▸ mem_normalizedPaths hfailure
    obtain ⟨other, hother, rfl⟩ := hkey' ▸ mem_normalizedPaths hfailure'
    obtain ⟨hne, hle, hge⟩ := (tied_iff hpath hother).mpr htied
    have hpair := (pair_sublist_normalizedPaths hpath hother hne).mpr hlead
    exact (pair_sublist_normalizedPaths (hpaths.subset hpath) (hpaths.subset hother) hne).mp
      (hties path other hne hle hge hpair)
  · intro hties path other hne hle hge hpair
    obtain ⟨hpath, hother⟩ := mem_of_pair_sublist hpair
    have htied := (tied_iff hpath hother).mp ⟨hne, hle, hge⟩
    have hlead := (pair_sublist_normalizedPaths hpath hother hne).mp hpair
    exact (pair_sublist_normalizedPaths (hpaths.subset hpath) (hpaths.subset hother) hne).mpr
      (hties _ _ htied hlead)

/-- The failure paths are the same for every order of the rows exactly if no two rows list tied
paths in different orders. -/
theorem sortedPaths_perm_iff (rows : List (List Failure)) :
    (∀ rows', rows.Perm rows' → sortedPaths rows'.flatten = sortedPaths rows.flatten) ↔
      TiesLed rows := by
  constructor
  · intro hsame p q htied ⟨first, hfirst, hleadFirst⟩ second hsecond hleadSecond
    -- put the one row or the other at the front
    obtain ⟨before, after, rfl⟩ := List.append_of_mem hfirst
    have hperm : (before ++ first :: after).Perm (first :: (before ++ after)) := List.perm_middle
    obtain ⟨before', after', heq⟩ := List.append_of_mem hsecond
    have hperm' : (before ++ first :: after).Perm (second :: (before' ++ after')) :=
      heq ▸ List.perm_middle
    have hsorted := (hsame _ hperm).trans (hsame _ hperm').symm
    have hflat := (hperm.symm.trans hperm').flatten
    have hlead := (sortedPaths_eq_iff hflat).mp hsorted p q (htied.perm hperm.flatten)
    rw [leads_flatten, leads_flatten, List.findSome?_cons, List.findSome?_cons, hleadFirst,
      hleadSecond] at hlead
    exact htied.distinct (Option.some.inj (hlead rfl)).symm
  · intro hled rows' hperm
    refine ((sortedPaths_eq_iff hperm.flatten).mpr ?_).symm
    intro p q htied hlead
    rw [leads_flatten] at hlead
    obtain ⟨row, hrow, hleadRow⟩ := List.exists_of_findSome?_eq_some hlead
    cases hlead' : leads p q rows'.flatten with
    | none =>
        -- the path has a failure in every order of the rows
        obtain ⟨failure, hfailure, hkey⟩ := (leads_mem hleadRow).2
        have hmem : failure ∈ rows'.flatten :=
          hperm.flatten.subset (List.mem_flatten.mpr ⟨row, hrow, hfailure⟩)
        have hnone := List.find?_eq_none.mp hlead' failure.key (List.mem_map_of_mem hmem)
        exact absurd (decide_eq_true (.inl hkey)) hnone
    | some key =>
        rcases (leads_mem hlead').1 with rfl | rfl
        · rfl
        · rw [leads_flatten] at hlead'
          obtain ⟨row', hrow', hleadRow'⟩ := List.exists_of_findSome?_eq_some hlead'
          exact absurd hleadRow' (hled p key htied ⟨row, hrow, hleadRow⟩ row'
            (hperm.symm.subset hrow'))

/-! ## 8. The summary -/

section

variable [PyText] (floatRepr : PyFloat → List Char)

omit [PyText] in
theorem counts_perm {statuses statuses' : List (Option ResultStatus)}
    (h : statuses.Perm statuses') :
    statuses'.foldl StatusCounts.count statusCounts =
      statuses.foldl StatusCounts.count statusCounts :=
  h.symm.foldl_eq' (fun a _ b _ counts => StatusCounts.count_comm counts a b) statusCounts

/-- With the failure paths in place, the summary of the results in another order is the same. -/
theorem summarizeResults_same {results results' : List Dict} (hperm : results.Perm results')
    {summary : Summary} (h : summarizeResults floatRepr exactAverage results = .ok summary)
    (hpaths : summarizeFailurePaths floatRepr results' = .ok summary.failurePaths) :
    ∃ summary', summarizeResults floatRepr exactAverage results' = .ok summary' ∧
      summary.Same summary' := by
  simp only [summarizeResults, bind_eq_ok] at h
  obtain ⟨statuses, hstatuses, deltas, hdeltas, metrics, hmetrics, latency, hlatency, throughput,
    hthroughput, clients, hclients, paths, _, protocols, hprotocols, h⟩ := h
  cases h
  obtain ⟨statuses', hstatuses', hcounted⟩ := mapM_perm hperm hstatuses
  obtain ⟨clients', hclients', hsameClients⟩ :=
    summarizeClientCompatibility_perm floatRepr hperm hclients
  obtain ⟨protocols', hprotocols', hsameProtocols⟩ :=
    summarizeByProtocol_perm floatRepr hperm hprotocols
  have hcounts := counts_perm hcounted
  let counts := statuses'.foldl StatusCounts.count statusCounts
  have hsummary' : summarizeResults floatRepr exactAverage results' =
      .ok ⟨counts.total, counts, deltas, metrics, latency, throughput, clients', paths, protocols',
        overallStatus counts⟩ := by
    simp only [summarizeResults, bind_eq_ok]
    exact ⟨statuses', hstatuses', deltas, averageDeltas_perm hperm hdeltas, metrics,
      averageMetrics_perm hperm hmetrics, latency, compareAll_perm hperm hlatency, throughput,
      compareAll_perm hperm hthroughput, clients', hclients', paths, hpaths, protocols',
      hprotocols', rfl⟩
  exact ⟨_, hsummary',
    { totalResults := congrArg StatusCounts.total hcounts
      byStatus := hcounts
      averageDeltas := rfl
      averageMetrics := rfl
      latencyComparison := rfl
      throughputComparison := rfl
      clientCompatibility := hsameClients
      failurePaths := rfl
      byProtocol := hsameProtocols
      overallStatus := congrArg overallStatus hcounts }⟩

theorem summarizeFailurePaths_of_summary {results : List Dict} {summary : Summary}
    (h : summarizeResults floatRepr exactAverage results = .ok summary) :
    summarizeFailurePaths floatRepr results = .ok summary.failurePaths := by
  simp only [summarizeResults, bind_eq_ok] at h
  obtain ⟨_, _, _, _, _, _, _, _, _, _, _, _, paths, hpaths, _, _, h⟩ := h
  cases h
  exact hpaths

/-- **The order of the rows shows in tied failure paths only.** -/
theorem summarizeResults_perm_iff {results : List Dict} {summary : Summary}
    (h : summarizeResults floatRepr exactAverage results = .ok summary) :
    (∀ results', results.Perm results' →
      ∃ summary', summarizeResults floatRepr exactAverage results' = .ok summary' ∧
        summary.Same summary') ↔
      ∀ rows, results.mapM (resultFailures floatRepr) = .ok rows → TiesLed rows := by
  have hpaths := summarizeFailurePaths_of_summary floatRepr h
  obtain ⟨rows, hrows, hsorted⟩ := bind_eq_ok.mp hpaths
  have hsorted := (Except.ok.inj hsorted).symm
  constructor
  · intro hsame other hother
    rw [hrows] at hother
    cases hother
    apply (sortedPaths_perm_iff rows).mp
    intro rows' hperm
    -- every order of the rows is that of some order of the results
    obtain ⟨results', hperm, hrows'⟩ := mapM_perm_of_results hperm hrows
    obtain ⟨summary', hsummary', hsame⟩ := hsame results' hperm
    have hpaths' := summarizeFailurePaths_of_summary floatRepr hsummary'
    rw [summarizeFailurePaths, hrows', hsame.failurePaths] at hpaths'
    exact (Except.ok.inj hpaths').trans hsorted
  · intro hled results' hperm
    apply summarizeResults_same floatRepr hperm h
    obtain ⟨rows', hrows', hperm⟩ := mapM_perm hperm hrows
    rw [summarizeFailurePaths, hrows', hsorted]
    exact congrArg Except.ok ((sortedPaths_perm_iff rows).mpr (hled rows hrows) rows' hperm)

def failingResult (asset reason : String) : Dict :=
  [("status", .str "FAIL"), ("bom_ref", .str asset),
    ("metrics", .dict [("protocol", .str "TLS"), ("failure_reason", .str reason)])]

def failingSummary (paths : List FailurePath) (reasons : List (List Char × Nat)) : Summary where
  totalResults := 2
  byStatus := ⟨0, 0, 2, 0⟩
  averageDeltas := []
  averageMetrics := []
  latencyComparison := []
  throughputComparison := []
  clientCompatibility := ⟨0, statusCounts, [], "PENDING"⟩
  failurePaths := paths
  byProtocol := [("TLS".toList, ⟨2, ⟨0, 0, 2, 0⟩, [], [], reasons⟩)]
  overallStatus := "FAIL"

omit [PyText] in
/-- Two assets that fail for one reason are summarised alike in both orders. -/
theorem oneReason_order : letI := asciiText
    ∃ summary summary', summarizeResults (fun _ => []) exactAverage
        [failingResult "a" "timeout", failingResult "b" "timeout"] = .ok summary ∧
      summarizeResults (fun _ => []) exactAverage
        [failingResult "b" "timeout", failingResult "a" "timeout"] = .ok summary' ∧
      summary.Same summary' := by
  let _ := asciiText
  let key : PathKey := ⟨"TLS".toList, [], [], "timeout".toList⟩
  let summary := failingSummary [⟨key, 2, ["a".toList, "b".toList], .fail⟩]
    [("timeout".toList, 2)]
  have hsummary : summarizeResults (fun _ => []) exactAverage
      [failingResult "a" "timeout", failingResult "b" "timeout"] = .ok summary := by
    decide +kernel
  have hrows : [failingResult "a" "timeout", failingResult "b" "timeout"].mapM
      (resultFailures fun _ => []) =
        .ok [[⟨key, .fail, "a".toList⟩], [⟨key, .fail, "b".toList⟩]] := by
    decide +kernel
  have hled : ∀ rows, [failingResult "a" "timeout", failingResult "b" "timeout"].mapM
      (resultFailures fun _ => []) = .ok rows → TiesLed rows := by
    intro rows h
    rw [hrows] at h
    cases h
    intro p q htied ⟨first, hfirst, hlead⟩ second hsecond hlead'
    -- there is one path only
    have hone : ∀ row ∈ [[Failure.mk key .fail "a".toList], [⟨key, .fail, "b".toList⟩]],
        ∀ found, leads p q row = some found → found = key := by
      intro row hrow found hfound
      obtain ⟨failure, hfailure, hkey⟩ := (leads_mem hfound).2
      simp only [List.mem_cons, List.not_mem_nil, or_false] at hrow
      rcases hrow with rfl | rfl <;> rw [List.mem_singleton] at hfailure <;>
        exact hkey.symm.trans (congrArg Failure.key hfailure)
    exact htied.distinct ((hone first hfirst p hlead).trans (hone second hsecond q hlead').symm)
  obtain ⟨summary', hsummary', hsame⟩ :=
    (summarizeResults_perm_iff (fun _ => []) hsummary).mpr hled _ (List.Perm.swap _ _ [])
  exact ⟨summary, summary', hsummary, hsummary', hsame⟩

omit [PyText] in
/-- Two assets that fail for two reasons are listed in the order of their rows. -/
theorem twoReasons_order : letI := asciiText
    ∃ summary summary', summarizeResults (fun _ => []) exactAverage
        [failingResult "a" "timeout", failingResult "b" "refused"] = .ok summary ∧
      summarizeResults (fun _ => []) exactAverage
        [failingResult "b" "refused", failingResult "a" "timeout"] = .ok summary' ∧
      ¬summary.Same summary' := by
  let _ := asciiText
  let path (asset reason : String) : FailurePath :=
    ⟨⟨"TLS".toList, [], [], reason.toList⟩, 1, [asset.toList], .fail⟩
  refine ⟨failingSummary [path "a" "timeout", path "b" "refused"]
      [("timeout".toList, 1), ("refused".toList, 1)],
    failingSummary [path "b" "refused", path "a" "timeout"]
      [("refused".toList, 1), ("timeout".toList, 1)], by decide +kernel, by decide +kernel, ?_⟩
  intro hsame
  exact absurd hsame.failurePaths (by decide +kernel)

end

end CryptoScanner.Performance.Engine
