import Mathlib.Data.Finset.Card
import CryptoScanner.Discoveries.MalformedRecords
import CryptoScanner.Jobs.Changes

/-!
# The number of endpoints of a discovery

`upsert_discovered_endpoints` counts the records that it saves, and a job reports the count as the
number of endpoints.  A record for an endpoint that an earlier record has given updates its row and
is counted again.
-/

namespace CryptoScanner.Discoveries

open Library Python Jobs Database

/-! ## 1. The count of a job -/

/-- The job shows the count as its progress, and its result has it too. -/
def JobShows (count : Nat) (job : AsyncJob) : Prop :=
  job.progress = some (.count count (some count) 100) ∧
    ∃ result, job.result = some (.discovery result) ∧ result.endpointsCount = count

/-- Completing a discovery task whose job is not cancelled leaves the job with the count. -/
def CompletionShows (saved count : Nat) : Prop :=
  ∀ (db : Database) (taskId discoveryId jobId : Id) (task : QueuedTask) (job : AsyncJob)
    (executorType : ExecutorType) (now : Time),
    db.tasks.find? taskId = some task → task.asyncJob = some jobId →
    db.jobs.find? jobId = some job → job.status ≠ .cancelled →
    ∃ db' job', completeDiscoveryTask db taskId discoveryId
        { discoveryId, executorType, endpointsCount := saved, followUp := none } now = .ok db' ∧
      db'.jobs.find? jobId = some job' ∧ JobShows count job'

section

variable {db : Database} {discoveryId jobId : Id} {job : AsyncJob} {result : DiscoveryResult}
  {now : Time}

theorem enqueueFollowUpScan_count (db : Database) (discoveryId jobId : Id) (job : AsyncJob)
    (result : DiscoveryResult) (now : Time) :
    (enqueueFollowUpScan db discoveryId jobId job result now).1.endpointsCount =
      result.endpointsCount := by
  unfold enqueueFollowUpScan
  split
  · rfl
  · dsimp only
    split
    · rfl
    · rfl

/-- The job of the scan that follows is another one. -/
theorem find?_enqueueFollowUpScan {other : AsyncJob} (h : db.jobs.find? jobId = some job) :
    (enqueueFollowUpScan db discoveryId jobId other result now).2.jobs.find? jobId = some job := by
  rcases enqueueFollowUpScan_cases db discoveryId jobId other result now with hsame | hopen
  · rw [hsame, h]
  · obtain ⟨targetIds, flag, hopen⟩ := hopen
    rw [hopen]
    exact Table.find?_insert_of_find? _ h

theorem completionShows_self (saved : Nat) : CompletionShows saved saved := by
  intro db taskId discoveryId jobId task job executorType now htask hjobId hjob halive
  -- what is saved of the job does not depend on the scan that follows
  have hsaved : ∀ (db₁ : Database) (result : DiscoveryResult),
      db₁.jobs.find? jobId = some job → result.endpointsCount = saved →
      ∃ job', (db₁.saveJob jobId (completeJob (.count result.endpointsCount
        (some result.endpointsCount) 100) (.discovery result) now)).jobs.find? jobId = some job' ∧
          JobShows saved job' := by
    intro db₁ result hfound hcount
    refine ⟨_, by rw [saveJob_jobs, Table.find?_modify_self, hfound, Option.map_some], ?_⟩
    exact ⟨by rw [← hcount]; rfl, result, rfl, hcount⟩
  unfold completeDiscoveryTask
  rw [get_eq_ok.mpr htask]
  simp only [bind, Except.bind, hjobId]
  rw [get_eq_ok.mpr hjob]
  simp only [if_neg halive]
  by_cases hdiscovery : (db.discoveries.find? discoveryId).isSome
  · simp only [hdiscovery, if_true]
    let settled :=
      (db.saveTask taskId completeTask).saveDiscovery discoveryId (completeDiscovery now)
    let found : DiscoveryResult :=
      { discoveryId, executorType, endpointsCount := saved, followUp := none }
    have hkept : (enqueueFollowUpScan settled discoveryId jobId job found now).2.jobs.find? jobId =
        some job := find?_enqueueFollowUpScan hjob
    obtain ⟨job', hjob', hshows⟩ := hsaved _ _ hkept
      (enqueueFollowUpScan_count settled discoveryId jobId job found now)
    exact ⟨_, job', rfl, hjob', hshows⟩
  · simp only [hdiscovery]
    obtain ⟨job', hjob', hshows⟩ := hsaved
      ((db.saveTask taskId completeTask).saveDiscovery discoveryId (completeDiscovery now))
      { discoveryId, executorType, endpointsCount := saved, followUp := none } hjob rfl
    exact ⟨_, job', rfl, hjob', hshows⟩

end

/-! ## 2. The count of a call -/

section

variable [PyText] (floatRepr : PyFloat → List Char) (limits : Limits) (backend : Backend)
  (discovery : Id)

def validTriples (values : List Json) : List Triple :=
  (validRecords floatRepr limits values).map EndpointRecord.triple

/-- The call returns, the count is that of the distinct valid triples, and the job shows it. -/
def CountsEndpoints (values : List Json) (store : EndpointStore) : Prop :=
  ∃ store' saved, upsertDiscoveredEndpoints floatRepr limits backend discovery 0 values store =
      (store', .ok saved) ∧
    saved = (validTriples floatRepr limits values).toFinset.card ∧
    CompletionShows saved (validTriples floatRepr limits values).toFinset.card

/-- Each record is an object with a port that `int` reads, and the database takes the valid ones. -/
def WellTyped (values : List Json) (store : EndpointStore) : Prop :=
  (∀ value ∈ values, Readable limits value) ∧
    ∀ record ∈ validRecords floatRepr limits values, Taken backend discovery store record

end

theorem returns_length [PyText] {floatRepr : PyFloat → List Char} {limits : Limits}
    {backend : Backend} {discovery : Id} {store : EndpointStore} (hunique : TargetsUnique store)
    {values : List Json} (htyped : WellTyped floatRepr limits backend discovery values store) :
    ∃ store', upsertDiscoveredEndpoints floatRepr limits backend discovery 0 values store =
      (store', .ok (validRecords floatRepr limits values).length) := by
  have hreturns : ∃ store' total, upsertDiscoveredEndpoints floatRepr limits backend discovery 0
      values store = (store', .ok total) := (returns_iff hunique).mpr htyped
  obtain ⟨store', total, hcall⟩ := hreturns
  obtain ⟨-, htotal⟩ := (upserted_nil hunique).of_loop hcall
  rw [Nat.zero_add] at htotal
  exact ⟨store', htotal ▸ hcall⟩

/-- **The count is that of the endpoints** exactly if no two valid records are for one endpoint. -/
theorem countsEndpoints_iff [PyText] {floatRepr : PyFloat → List Char} {limits : Limits}
    {backend : Backend} {discovery : Id} {store : EndpointStore} (hunique : TargetsUnique store)
    {values : List Json} (htyped : WellTyped floatRepr limits backend discovery values store) :
    CountsEndpoints floatRepr limits backend discovery values store ↔
      (validTriples floatRepr limits values).Nodup := by
  obtain ⟨store', hcall⟩ := returns_length hunique htyped
  rw [← Multiset.coe_nodup, ← Multiset.toFinset_card_eq_card_iff_nodup]
  have hlength : (validTriples floatRepr limits values).length =
      (validRecords floatRepr limits values).length := List.length_map _
  constructor
  · rintro ⟨_, saved, hcall', hcount, -⟩
    rw [hcall] at hcall'
    cases hcall'
    exact (hlength.trans hcount).symm
  · intro hcount
    have hcount : (validTriples floatRepr limits values).toFinset.card = _ := hcount.trans hlength
    refine ⟨store', _, hcall, hcount.symm, ?_⟩
    rw [hcount]
    exact completionShows_self _

theorem targetsUnique_empty : TargetsUnique {} := by
  intro _ _ _ _ hfound
  cases hfound

def distinctRecords : List Json :=
  [.dict [("host", .str "10.0.0.5"), ("port", .int 443)],
    .dict [("host", .str "10.0.0.6"), ("port", .int 70000)],
    .dict [("host", .str "10.0.0.5"), ("port", .int 22)],
    .dict [("ip", .str "10.0.0.7"), ("port", .int 22)]]

theorem distinctRecords_counted : letI := asciiText
    CountsEndpoints (fun _ => []) ⟨1000, 4300⟩ takesAll 1 distinctRecords {} := by
  let := asciiText
  refine (countsEndpoints_iff targetsUnique_empty ⟨?_, ?_⟩).mpr (by decide +kernel)
  · intro value hvalue
    simp only [distinctRecords, List.mem_cons, List.not_mem_nil, or_false] at hvalue
    rcases hvalue with rfl | rfl | rfl | rfl
    · exact ⟨_, rfl, 443, by decide +kernel⟩
    · exact ⟨_, rfl, 70000, by decide +kernel⟩
    · exact ⟨_, rfl, 22, by decide +kernel⟩
    · exact ⟨_, rfl, 22, by decide +kernel⟩
  · exact fun record _ => ⟨rfl, fun _ => rfl, fun _ => rfl⟩

/-- One endpoint that two probes have found is counted twice. -/
theorem repeatedRecord_countedTwice : letI := asciiText
    ¬ ∀ (values : List Json) (store : EndpointStore), TargetsUnique store →
      WellTyped (fun _ => []) ⟨1000, 4300⟩ takesAll 1 values store →
        CountsEndpoints (fun _ => []) ⟨1000, 4300⟩ takesAll 1 values store := by
  let := asciiText
  intro h
  let record : Json := .dict [("host", .str "10.0.0.7"), ("port", .int 22)]
  have htyped : WellTyped (fun _ => []) ⟨1000, 4300⟩ takesAll 1 [record, record] {} := by
    refine ⟨?_, fun record _ => ⟨rfl, fun _ => rfl, fun _ => rfl⟩⟩
    intro value hvalue
    simp only [List.mem_cons, List.not_mem_nil, or_false, or_self] at hvalue
    exact ⟨_, hvalue, 22, by decide +kernel⟩
  obtain ⟨_, saved, hcall, hcount, -⟩ := h [record, record] {} targetsUnique_empty htyped
  obtain ⟨store', hreturned⟩ := returns_length targetsUnique_empty htyped
  rw [hcall] at hreturned
  rw [Except.ok.inj (congrArg Prod.snd hreturned)] at hcount
  exact absurd hcount (by decide +kernel)

end CryptoScanner.Discoveries
