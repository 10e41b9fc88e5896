import Mathlib.Logic.Function.Basic
import CryptoScanner.Library.Transition
import CryptoScanner.Performance.Engine.Summary
import CryptoScanner.Performance.Services

/-!
# The links of post-migration runs

A `post_migration` call of `create_run` reads the snapshot, inserts a run, edits the summary that it
has read and writes the whole column back.  Any number of calls on one snapshot interleave their
statements.
-/

namespace CryptoScanner.Performance

open Library Python

/-! ## 1. The edit of the summary -/

def RunProfile.text : RunProfile → String
  | .smoke => "smoke"
  | .baseline => "baseline"
  | .canary => "canary"
  | .stress => "stress"

/-- `dict(value or {})`.  The column never has a list of pairs here. -/
def dictOf : Json → Option Dict
  | .dict d => some d
  | value => if value.truthy then none else some []

/-- The items of a value that a comprehension runs over: a string and a dict give only strings. -/
def listed : Json → Option (List Json)
  | .list items => some items
  | .str _ | .dict _ => some []
  | _ => none

/-- `isinstance(item, dict) and item.get("run_id") == run_id` -/
def names (runId : Id) : Json → Bool
  | .dict item => (Dict.get item "run_id").pyEq (.int runId)
  | _ => false

def isDict : Json → Bool
  | .dict _ => true
  | _ => false

def idOrNull (id : Option Id) : Json := (id.map fun id => Json.int id).getD .null

/-- The item of a run in `post_migration_runs`. -/
def linkEntry (runId : Id) (run : PerformanceRun) : Json :=
  .dict
    [("run_id", .int runId), ("profile", .str (RunProfile.text run.profile)),
      ("baseline_snapshot_id", idOrNull run.baselineSnapshot),
      ("post_migration_snapshot_id", .int run.snapshot)]

/-- What `migration.update(..)` is given. -/
def linkFields (runId : Id) (run : PerformanceRun) (postMigrationRuns : List Json) : Dict :=
  [("phase", .str "post_migration"),
    ("pre_migration_snapshot_id", idOrNull run.baselineSnapshot),
    ("post_migration_snapshot_id", .int run.snapshot),
    ("latest_performance_run_id", .int runId),
    ("latest_profile", .str (RunProfile.text run.profile)),
    ("post_migration_runs", .list postMigrationRuns)]

/-- `_link_post_migration_snapshot`, on the summary of the loaded snapshot. -/
def linkPostMigrationSnapshot (runId : Id) (run : PerformanceRun) (summary : Dict) :
    Option Dict := do
  let migration ← dictOf (Dict.get summary "migration")
  let items ← listed ((migration.lookup "post_migration_runs").getD (.list []))
  let kept := items.filter fun item => isDict item && !names runId item
  return Library.Dict.set "migration"
    (.dict (Library.Dict.update migration (linkFields runId run (kept ++ [linkEntry runId run]))))
    summary

/-- `summary["migration"]`, empty where there is none. -/
def migrationOf (summary : Dict) : Dict := (dictOf (Dict.get summary "migration")).getD []

def postMigrationRuns (summary : Dict) : List Json :=
  (listed (Dict.get (migrationOf summary) "post_migration_runs")).getD []

def latestRun (summary : Dict) : Json := Dict.get (migrationOf summary) "latest_performance_run_id"

/-! ## 2. The calls -/

inductive LinkPhase
  | waiting
  /-- The request has the snapshot; `copy` is its summary. -/
  | loaded (copy : Dict)
  /-- The run is inserted, and `run.snapshot` is still the object that was loaded. -/
  | created (runId : Id) (run : PerformanceRun) (copy : Dict)
  | returned (runId : Id)
  | refused
  deriving DecidableEq

variable {ι : Type*} [DecidableEq ι]

/-- The database and where each call is; `summary` is the column of the snapshot. -/
structure LinkState (ι : Type*) where
  store : Store
  summary : Dict
  phase : ι → LinkPhase

def LinkState.setPhase (s : LinkState ι) (i : ι) (phase : LinkPhase) : LinkState ι :=
  { s with phase := Function.update s.phase i phase }

inductive LinkAction (ι : Type*)
  | load (i : ι)
  | create (i : ι) (now : Time)
  | link (i : ι)
  deriving DecidableEq

section Calls

variable [PerformanceEngine] (snapshotId : Id) (payload : ι → RunCreate)

/-- The second statement of a call: `create_run` up to the link. -/
def insertRun (s : LinkState ι) (i : ι) (copy : Dict) (now : Time) : Option (LinkState ι) :=
  match createRun s.store snapshotId (payload i) now with
  | .error _ => some (s.setPhase i .refused)
  | .ok store =>
      (store.runs.find? s.store.runs.nextId).map fun run =>
        { s with store }.setPhase i
          (if (payload i).trigger = RunTrigger.postMigration then
            .created s.store.runs.nextId run copy
          else .returned s.store.runs.nextId)

/-- The last statement: `run.snapshot.save(update_fields=["summary", "updated_at"])`. -/
def saveLink (s : LinkState ι) (i : ι) (runId : Id) (run : PerformanceRun) (copy : Dict) :
    LinkState ι :=
  match linkPostMigrationSnapshot runId run copy with
  | some summary => { s with summary }.setPhase i (.returned runId)
  | none => s.setPhase i .refused

def linkStep (s : LinkState ι) : LinkAction ι → Option (LinkState ι)
  | .load i =>
      match s.phase i, s.store.snapshots.find? snapshotId with
      | .waiting, some _ => some (s.setPhase i (.loaded s.summary))
      | .waiting, none => some (s.setPhase i .refused)
      | _, _ => none
  | .create i now =>
      match s.phase i with
      | .loaded copy => insertRun snapshotId payload s i copy now
      | _ => none
  | .link i =>
      match s.phase i with
      | .created runId run copy => some (saveLink s i runId run copy)
      | _ => none

def startLinks (store : Store) (summary : Dict) : LinkState ι :=
  { store, summary, phase := fun _ => .waiting }

/-- The summary that a call writes back was read after the last write of the column. -/
def CurrentCopy (s : LinkState ι) : LinkAction ι → Prop
  | .link i => ∀ runId run copy, s.phase i = .created runId run copy → copy = s.summary
  | _ => True

instance (s : LinkState ι) : (a : LinkAction ι) → Decidable (CurrentCopy s a)
  | .load _ | .create _ _ => isTrue trivial
  | .link i =>
      match hphase : s.phase i with
      | .created runId run copy => decidable_of_iff (copy = s.summary)
          ⟨fun heq _ _ _ h => by cases hphase.symm.trans h; exact heq,
            fun hall => hall runId run copy hphase⟩
      | .waiting | .loaded _ | .returned _ | .refused =>
          isTrue fun _ _ _ h => nomatch hphase.symm.trans h

/-- A post-migration call that has returned the run. -/
def LinkState.Linked (s : LinkState ι) (i : ι) (runId : Id) : Prop :=
  (payload i).trigger = .postMigration ∧ s.phase i = .returned runId

/-- No link is lost, and the links change nothing else of the summary. -/
structure NoLostLink (initial : Dict) (s : LinkState ι) : Prop where
  listed : ∀ i runId, s.Linked payload i runId →
    (postMigrationRuns s.summary).countP (names runId) = 1
  latest : (∃ i runId, s.Linked payload i runId) →
    ∃ i runId, s.Linked payload i runId ∧ latestRun s.summary = .int runId
  rest : ∀ key, key ≠ "migration" → s.summary.lookup key = initial.lookup key

end Calls

/-! ## 3. What the edit leaves -/

section Edit

variable {runId : Id} {run : PerformanceRun} {summary summary' : Dict}

theorem eq_of_names {item : Json} {other : Id} (h : names runId item) (h' : names other item) :
    runId = other := by
  cases item with
  | dict item =>
      simp only [names] at h h'
      cases hid : Dict.get item "run_id" with
      | bool _ | int _ | float _ =>
          simp only [hid, Json.pyEq, Json.number?, Bool.and_eq_true, beq_iff_eq] at h h'
          have heq := h.1.symm.trans h'.1
          simpa using heq
      | null | str _ | list _ | dict _ =>
          simp only [hid, Json.pyEq, Json.number?, Bool.false_eq_true] at h
  | null | bool _ | int _ | float _ | str _ | list _ => cases h

theorem names_linkEntry : names runId (linkEntry runId run) = true := by
  simp [names, linkEntry, Dict.get, Json.pyEq, Json.number?]

/-- The items kept for a new link list every other run as often as before, and this run never. -/
theorem countP_names_kept (items : List Json) (other : Id) :
    (items.filter fun item => isDict item && !names runId item).countP (names other) =
      if other = runId then 0 else items.countP (names other) := by
  induction items with
  | nil => simp
  | cons item items ih =>
      rw [List.filter_cons, List.countP_cons]
      by_cases hother : names other item
      · have hdict : isDict item = true := by
          cases item with
          | dict _ => rfl
          | null | bool _ | int _ | float _ | str _ | list _ => cases hother
        by_cases hself : names runId item
        · have heq := eq_of_names hother hself
          simp only [hself, Bool.not_true, Bool.and_false, Bool.false_eq_true, if_false, ih,
            if_pos heq]
        · have hne : other ≠ runId := fun heq => hself (heq ▸ hother)
          simp only [hdict, hself, Bool.not_false, Bool.and_self, if_true, List.countP_cons, ih,
            if_neg hne, hother]
      · have htail : (if (isDict item && !names runId item) = true then
            item :: items.filter fun item => isDict item && !names runId item
            else items.filter fun item => isDict item && !names runId item).countP (names other) =
            (items.filter fun item => isDict item && !names runId item).countP (names other) := by
          split
          · rw [List.countP_cons, if_neg hother, Nat.add_zero]
          · rfl
        rw [htail, ih, if_neg hother, Nat.add_zero]

theorem nodup_keys_linkFields (items : List Json) :
    ((linkFields runId run items).map Prod.fst).Nodup := by
  show ["phase", "pre_migration_snapshot_id", "post_migration_snapshot_id",
    "latest_performance_run_id", "latest_profile", "post_migration_runs"].Nodup
  decide

theorem linkPostMigrationSnapshot_eq
    (h : linkPostMigrationSnapshot runId run summary = some summary') :
    postMigrationRuns summary' = ((postMigrationRuns summary).filter fun item =>
        isDict item && !names runId item) ++ [linkEntry runId run] ∧
      latestRun summary' = .int runId ∧
      ∀ key, key ≠ "migration" → summary'.lookup key = summary.lookup key := by
  unfold linkPostMigrationSnapshot at h
  cases hmigration : dictOf (Dict.get summary "migration") with
  | none =>
      rw [hmigration] at h
      cases h
  | some migration =>
      cases hitems : listed ((migration.lookup "post_migration_runs").getD (.list [])) with
      | none =>
          simp only [hmigration, hitems, Option.bind_eq_bind, Option.bind_some, Option.bind_none]
            at h
          cases h
      | some items =>
          simp only [hmigration, hitems, Option.bind_eq_bind, Option.bind_some] at h
          cases h
          -- a `migration` without the list counts as one with an empty list
          have hruns : postMigrationRuns summary = items := by
            unfold postMigrationRuns migrationOf Dict.get at *
            rw [hmigration, Option.getD_some]
            cases hlookup : migration.lookup "post_migration_runs" with
            | none =>
                rw [hlookup] at hitems
                cases hitems
                rfl
            | some value =>
                rw [hlookup] at hitems
                rw [Option.getD_some] at hitems ⊢
                rw [hitems, Option.getD_some]
          rw [hruns]
          refine ⟨?_, ?_, ?_⟩
          · unfold postMigrationRuns migrationOf Dict.get
            rw [Library.Dict.lookup_set, if_pos rfl, Option.getD_some, dictOf, Option.getD_some,
              Library.Dict.lookup_update (nodup_keys_linkFields ..)]
            rfl
          · unfold latestRun migrationOf Dict.get
            rw [Library.Dict.lookup_set, if_pos rfl, Option.getD_some, dictOf, Option.getD_some,
              Library.Dict.lookup_update (nodup_keys_linkFields ..)]
            rfl
          · intro key hkey
            rw [Library.Dict.lookup_set, if_neg hkey]

/-- A link lists its run once and every other run as often as before. -/
theorem countP_names_link (h : linkPostMigrationSnapshot runId run summary = some summary')
    (other : Id) :
    (postMigrationRuns summary').countP (names other) =
      if other = runId then 1 else (postMigrationRuns summary).countP (names other) := by
  rw [(linkPostMigrationSnapshot_eq h).1, List.countP_append, countP_names_kept,
    List.countP_singleton]
  by_cases heq : other = runId
  · rw [if_pos heq, if_pos heq, heq, names_linkEntry]
    rfl
  · have hentry : ¬ names other (linkEntry runId run) = true := fun hnames =>
      heq (eq_of_names hnames names_linkEntry)
    rw [if_neg heq, if_neg heq, if_neg hentry, Nat.add_zero]

end Edit

/-! ## 4. One statement -/

def LinkPhase.runId? : LinkPhase → Option Id
  | .created runId _ _ | .returned runId => some runId
  | .waiting | .loaded _ | .refused => none

section Step

variable {snapshotId : Id} {payload : ι → RunCreate} {s t : LinkState ι}

theorem setPhase_phase (s : LinkState ι) (i : ι) (phase : LinkPhase) (j : ι) :
    (s.setPhase i phase).phase j = if j = i then phase else s.phase j :=
  Function.update_apply s.phase i phase j

@[simp] theorem setPhase_summary (s : LinkState ι) (i : ι) (phase : LinkPhase) :
    (s.setPhase i phase).summary = s.summary := rfl

@[simp] theorem setPhase_store (s : LinkState ι) (i : ι) (phase : LinkPhase) :
    (s.setPhase i phase).store = s.store := rfl

/-- Each run belongs to one call, and only post-migration calls go on to the link. -/
structure Owned (payload : ι → RunCreate) (s : LinkState ι) : Prop where
  used : ∀ i runId, (s.phase i).runId? = some runId → runId < s.store.runs.nextId
  apart : ∀ i j runId, (s.phase i).runId? = some runId → (s.phase j).runId? = some runId → i = j
  migrating : ∀ i runId run copy, s.phase i = .created runId run copy →
    (payload i).trigger = .postMigration

def LinkAction.call : LinkAction ι → ι
  | .load i | .create i _ | .link i => i

inductive LinkEffect (payload : ι → RunCreate) (s : LinkState ι) : LinkAction ι → LinkState ι → Prop
  /-- The snapshot is read, or the call fails: no run, no write of the summary. -/
  | moved (a : LinkAction ι) (phase : LinkPhase) :
      (∀ runId, s.phase a.call ≠ .returned runId) → phase.runId? = none →
      LinkEffect payload s a (s.setPhase a.call phase)
  | inserted (i : ι) (now : Time) (store : Store) (phase : LinkPhase) :
      (s.phase i).runId? = none → store.runs.nextId = s.store.runs.nextId + 1 →
      phase.runId? = some s.store.runs.nextId →
      (phase = .returned s.store.runs.nextId → (payload i).trigger ≠ .postMigration) →
      ((∃ run copy, phase = .created s.store.runs.nextId run copy) →
        (payload i).trigger = .postMigration) →
      LinkEffect payload s (.create i now) ({ s with store }.setPhase i phase)
  | linked (i : ι) (runId : Id) (run : PerformanceRun) (copy summary : Dict) :
      s.phase i = .created runId run copy →
      linkPostMigrationSnapshot runId run copy = some summary →
      LinkEffect payload s (.link i) ({ s with summary }.setPhase i (.returned runId))

theorem createRun_nextId [PerformanceEngine] {store store' : Store} {create : RunCreate}
    {now : Time} (h : createRun store snapshotId create now = .ok store') :
    store'.runs.nextId = store.runs.nextId + 1 := by
  obtain ⟨baselineSnapshot, summary, -, -, rfl⟩ := createRun_eq_ok h
  exact Table.nextId_insert _ _

theorem insertRun_effect [PerformanceEngine] {i : ι} {copy : Dict} {now : Time}
    (hphase : s.phase i = .loaded copy)
    (h : insertRun snapshotId payload s i copy now = some t) :
    LinkEffect payload s (.create i now) t := by
  unfold insertRun at h
  cases hcreate : createRun s.store snapshotId (payload i) now with
  | error e =>
      rw [hcreate] at h
      cases h
      have hnot : ∀ runId, s.phase i ≠ .returned runId := by
        intro runId
        rw [hphase]
        nofun
      exact .moved (.create i now) .refused hnot rfl
  | ok store =>
      simp only [hcreate, Option.map_eq_some_iff] at h
      obtain ⟨run, _, rfl⟩ := h
      have hnone : (s.phase i).runId? = none := by
        rw [hphase]
        rfl
      by_cases htrigger : (payload i).trigger = .postMigration
      · rw [if_pos htrigger]
        exact .inserted i now store _ hnone (createRun_nextId hcreate) rfl nofun fun _ => htrigger
      · rw [if_neg htrigger]
        exact .inserted i now store _ hnone (createRun_nextId hcreate) rfl (fun _ => htrigger)
          fun ⟨_, _, h⟩ => nomatch h

theorem linkStep_effect [PerformanceEngine] {a : LinkAction ι}
    (h : linkStep snapshotId payload s a = some t) :
    LinkEffect payload s a t := by
  -- each action is enabled in one phase only
  cases a with
  | load i =>
      cases hphase : s.phase i with
      | waiting =>
          have hnot : ∀ runId, s.phase i ≠ .returned runId := by
            intro runId
            rw [hphase]
            nofun
          cases hrow : s.store.snapshots.find? snapshotId with
          | none =>
              simp only [linkStep, hphase, hrow] at h
              cases h
              exact .moved (.load i) .refused hnot rfl
          | some row =>
              simp only [linkStep, hphase, hrow] at h
              cases h
              exact .moved (.load i) (.loaded s.summary) hnot rfl
      | loaded _ | created _ _ _ | returned _ | refused =>
          simp only [linkStep, hphase] at h
          cases h
  | create i now =>
      cases hphase : s.phase i with
      | loaded copy =>
          simp only [linkStep, hphase] at h
          exact insertRun_effect hphase h
      | waiting | created _ _ _ | returned _ | refused =>
          simp only [linkStep, hphase] at h
          cases h
  | link i =>
      cases hphase : s.phase i with
      | created runId run copy =>
          simp only [linkStep, hphase] at h
          cases h
          unfold saveLink
          cases hlink : linkPostMigrationSnapshot runId run copy with
          | some summary => exact .linked i runId run copy summary hphase hlink
          | none =>
              have hnot : ∀ runId, s.phase i ≠ .returned runId := by
                intro runId
                rw [hphase]
                nofun
              exact .moved (.link i) .refused hnot rfl
      | waiting | loaded _ | returned _ | refused =>
          simp only [linkStep, hphase] at h
          cases h

omit [DecidableEq ι] in
theorem owned_startLinks (store : Store) (summary : Dict) :
    Owned payload (startLinks store summary) where
  used _ _ h := nomatch h
  apart _ _ _ h := nomatch h
  migrating _ _ _ _ h := nomatch h

theorem Owned.of_effect {a : LinkAction ι} (hs : Owned payload s) (h : LinkEffect payload s a t) :
    Owned payload t := by
  cases h with
  | moved _ phase hnot hnone =>
      have hold : ∀ j runId, ((s.setPhase a.call phase).phase j).runId? = some runId →
          (s.phase j).runId? = some runId := by
        intro j runId hj
        rw [setPhase_phase] at hj
        by_cases heq : j = a.call
        · rw [if_pos heq, hnone] at hj
          cases hj
        · rwa [if_neg heq] at hj
      refine ⟨fun j runId hj => hs.used j runId (hold j runId hj),
        fun i j runId hi hj => hs.apart i j runId (hold i runId hi) (hold j runId hj), ?_⟩
      intro j runId run copy hj
      rw [setPhase_phase] at hj
      by_cases heq : j = a.call
      · rw [if_pos heq] at hj
        rw [hj] at hnone
        cases hnone
      · rw [if_neg heq] at hj
        exact hs.migrating j runId run copy hj
  | inserted i now store phase hnone hnext hsome hreturned hcreated =>
      -- the new run has the next id, which no other call has
      have hcase : ∀ j runId, (({ s with store }.setPhase i phase).phase j).runId? = some runId →
          (j = i ∧ runId = s.store.runs.nextId) ∨
            (j ≠ i ∧ (s.phase j).runId? = some runId ∧ runId < s.store.runs.nextId) := by
        intro j runId hj
        rw [setPhase_phase] at hj
        by_cases heq : j = i
        · rw [if_pos heq, hsome] at hj
          exact .inl ⟨heq, (Option.some.inj hj).symm⟩
        · rw [if_neg heq] at hj
          exact .inr ⟨heq, hj, hs.used j runId hj⟩
      refine ⟨?_, ?_, ?_⟩
      · intro j runId hj
        rw [setPhase_store]
        show runId < store.runs.nextId
        rw [hnext]
        rcases hcase j runId hj with ⟨_, heq⟩ | ⟨_, _, hlt⟩
        · rw [heq]
          exact Nat.lt_succ_self _
        · exact Nat.lt_succ_of_lt hlt
      · intro j k runId hj hk
        rcases hcase j runId hj with ⟨hji, hj⟩ | ⟨hji, hj, hjlt⟩
        · rcases hcase k runId hk with ⟨hki, _⟩ | ⟨_, _, hklt⟩
          · rw [hji, hki]
          · omega
        · rcases hcase k runId hk with ⟨_, hk⟩ | ⟨_, hk, _⟩
          · omega
          · exact hs.apart j k runId hj hk
      · intro j runId run copy hj
        rw [setPhase_phase] at hj
        by_cases heq : j = i
        · rw [if_pos heq] at hj
          rw [hj] at hsome hcreated
          cases hsome
          rw [heq]
          exact hcreated ⟨run, copy, rfl⟩
        · rw [if_neg heq] at hj
          exact hs.migrating j runId run copy hj
  | linked i runId run copy summary hphase hlink =>
      have hold : ∀ j other, (({ s with summary }.setPhase i (.returned runId)).phase j).runId? =
          some other → (s.phase j).runId? = some other := by
        intro j other hj
        rw [setPhase_phase] at hj
        by_cases heq : j = i
        · rw [if_pos heq] at hj
          rw [heq, hphase]
          exact hj
        · rwa [if_neg heq] at hj
      refine ⟨fun j other hj => hs.used j other (hold j other hj),
        fun i j other hi hj => hs.apart i j other (hold i other hi) (hold j other hj), ?_⟩
      intro j other run' copy' hj
      rw [setPhase_phase] at hj
      by_cases heq : j = i
      · rw [if_pos heq] at hj
        cases hj
      · rw [if_neg heq] at hj
        exact hs.migrating j other run' copy' hj

omit [DecidableEq ι] in
/-- A statement that links no run and writes no summary loses nothing. -/
theorem NoLostLink.congr {initial : Dict} (hs : NoLostLink payload initial s)
    (hsummary : t.summary = s.summary)
    (hlinked : ∀ i runId, t.Linked payload i runId ↔ s.Linked payload i runId) :
    NoLostLink payload initial t where
  listed i runId h := by
    rw [hsummary]
    exact hs.listed i runId ((hlinked i runId).mp h)
  latest := by
    rintro ⟨i, runId, h⟩
    obtain ⟨j, other, hother, hlatest⟩ := hs.latest ⟨i, runId, (hlinked i runId).mp h⟩
    exact ⟨j, other, (hlinked j other).mpr hother, by rw [hsummary]; exact hlatest⟩
  rest key hkey := by
    rw [hsummary]
    exact hs.rest key hkey

theorem NoLostLink.of_effect {initial : Dict} {a : LinkAction ι} (howned : Owned payload s)
    (hs : NoLostLink payload initial s) (hcurrent : CurrentCopy s a)
    (h : LinkEffect payload s a t) : NoLostLink payload initial t := by
  cases h with
  | moved _ phase hnot hnone =>
      refine hs.congr (setPhase_summary s a.call phase) ?_
      intro j runId
      unfold LinkState.Linked
      rw [setPhase_phase]
      by_cases heq : j = a.call
      · rw [if_pos heq, heq]
        have hphase : phase ≠ .returned runId := by
          rintro rfl
          cases hnone
        simp only [hphase, hnot runId, and_false]
      · rw [if_neg heq]
  | inserted i now store phase hnone hnext hsome hreturned hcreated =>
      refine hs.congr (setPhase_summary { s with store } i phase) ?_
      intro j runId
      unfold LinkState.Linked
      rw [setPhase_phase]
      by_cases heq : j = i
      · have hold : s.phase i ≠ .returned runId := by
          intro hphase
          rw [hphase] at hnone
          cases hnone
        rw [if_pos heq, heq]
        constructor
        · rintro ⟨htrigger, hphase⟩
          have hid : s.store.runs.nextId = runId := by
            rw [hphase] at hsome
            exact (Option.some.inj hsome).symm
          exact absurd htrigger (hreturned (hid ▸ hphase))
        · rintro ⟨_, hphase⟩
          exact absurd hphase hold
      · rw [if_neg heq]
  | linked i runId run copy summary hphase hlink =>
      have hcopy : copy = s.summary := hcurrent runId run copy hphase
      rw [hcopy] at hlink
      have htrigger := howned.migrating i runId run copy hphase
      have hself : LinkState.Linked payload ({ s with summary }.setPhase i (.returned runId)) i
          runId := by
        refine ⟨htrigger, ?_⟩
        rw [setPhase_phase, if_pos rfl]
      refine ⟨?_, ?_, ?_⟩
      · rintro j other ⟨htrigger', hj⟩
        rw [setPhase_summary]
        show (postMigrationRuns summary).countP (names other) = 1
        rw [countP_names_link hlink]
        rw [setPhase_phase] at hj
        by_cases heq : j = i
        · rw [if_pos heq] at hj
          cases hj
          rw [if_pos rfl]
        · rw [if_neg heq] at hj
          -- the runs of two calls have different ids
          have hne : other ≠ runId := by
            rintro rfl
            refine heq (howned.apart j i other ?_ ?_)
            · rw [hj]
              rfl
            · rw [hphase]
              rfl
          rw [if_neg hne]
          exact hs.listed j other ⟨htrigger', hj⟩
      · intro _
        exact ⟨i, runId, hself, (linkPostMigrationSnapshot_eq hlink).2.1⟩
      · intro key hkey
        rw [setPhase_summary]
        show summary.lookup key = initial.lookup key
        rw [(linkPostMigrationSnapshot_eq hlink).2.2 key hkey, hs.rest key hkey]

omit [DecidableEq ι] in
theorem noLostLink_startLinks (store : Store) (summary : Dict) :
    NoLostLink payload summary (startLinks store summary) where
  listed _ _ h := nomatch h.2
  latest h := by
    obtain ⟨_, _, _, hphase⟩ := h
    cases hphase
  rest _ _ := rfl

end Step

/-! ## 5. The runs -/

/-- **No link is lost** in a run whose links all write back a summary that is still the column's:
every call that has returned is listed once, and the latest run is one of theirs. -/
theorem noLostLink_of_run [PerformanceEngine] (snapshotId : Id) (payload : ι → RunCreate)
    {store : Store} {summary : Dict} {as : List (LinkAction ι)} {t : LinkState ι}
    (h : Run (linkStep snapshotId payload) CurrentCopy (startLinks store summary) as t) :
    NoLostLink payload summary t := by
  have hinv : Owned payload t ∧ NoLostLink payload summary t := by
    refine h.invariant (I := fun s => Owned payload s ∧ NoLostLink payload summary s) ?_
      ⟨owned_startLinks store summary, noLostLink_startLinks store summary⟩
    rintro s a t ⟨howned, hs⟩ hcurrent hstep
    have heffect := linkStep_effect hstep
    exact ⟨howned.of_effect heffect, hs.of_effect howned hcurrent heffect⟩
  exact hinv.2

def scanSummary : SnapshotSummary where
  assetCount := 3
  targetCount := 1
  byType := []
  byAlgorithmFamily := []
  byScanner := []

def migratedStore : Store where
  snapshots := ⟨[some { scanJob := 0, summary := scanSummary },
    some { scanJob := 1, summary := scanSummary }]⟩

def migratedSummary : Dict := [("asset_count", .int 3)]

def postMigrationCalls (_ : Bool) : RunCreate where
  baselineSnapshotId := none
  trigger := .postMigration
  profile := .smoke
  thresholds := []

/-- The second call reads the snapshot after the first one has written its link. -/
def serialCalls : List (LinkAction Bool) :=
  [.load true, .create true 1, .link true, .load false, .create false 2, .link false]

def overlappedCalls : List (LinkAction Bool) :=
  [.load true, .load false, .create true 1, .create false 2, .link true, .link false]

theorem serialCalls_keep : letI := Engine.numberlessEngine
    ∃ t, Run (linkStep 1 postMigrationCalls) CurrentCopy
      (startLinks migratedStore migratedSummary) serialCalls t ∧
      NoLostLink postMigrationCalls migratedSummary t := by
  let := Engine.numberlessEngine
  have hsome : (runWhere (linkStep 1 postMigrationCalls) CurrentCopy
      (startLinks migratedStore migratedSummary) serialCalls).isSome := by decide +kernel
  obtain ⟨t, ht⟩ := Option.isSome_iff_exists.mp hsome
  have hrun := Run.of_runWhere ht
  exact ⟨t, hrun, noLostLink_of_run 1 postMigrationCalls hrun⟩

/-- Both calls succeed, and the link of the first one is gone. -/
theorem overlappedCalls_lose : letI := Engine.numberlessEngine
    ∃ t, Run (linkStep 1 postMigrationCalls) anyStep (startLinks migratedStore migratedSummary)
      overlappedCalls t ∧ (∀ i, ∃ runId, t.Linked postMigrationCalls i runId) ∧
      ¬ NoLostLink postMigrationCalls migratedSummary t := by
  let := Engine.numberlessEngine
  have hend : (runAll (linkStep 1 postMigrationCalls) (startLinks migratedStore migratedSummary)
      overlappedCalls).map (fun t =>
        (t.phase true, t.phase false, (postMigrationRuns t.summary).countP (names 0))) =
      some (.returned 0, .returned 1, 0) := by
    decide +kernel
  obtain ⟨t, ht, hfacts⟩ := Option.map_eq_some_iff.mp hend
  rw [Prod.mk.injEq, Prod.mk.injEq] at hfacts
  obtain ⟨hfirst, hsecond, hcount⟩ := hfacts
  refine ⟨t, Run.of_runAll ht, ?_, ?_⟩
  · intro i
    cases i with
    | true => exact ⟨0, rfl, hfirst⟩
    | false => exact ⟨1, rfl, hsecond⟩
  · intro hkept
    have hone := hkept.listed true 0 ⟨rfl, hfirst⟩
    omega

end CryptoScanner.Performance
