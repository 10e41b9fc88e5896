import CryptoScanner.Library.Pagination
import CryptoScanner.Snapshots.QuantumVulnerable

/-!
# The pages of a snapshot's scores

`GET /snapshots/{snapshot_id}/risks` and `GET /snapshots/{snapshot_id}/migration-plan` filter the score
rows of a snapshot, order them by one column and return a slice.  Neither orders rows further that are
equal in that column.
-/

namespace CryptoScanner.Snapshots

open Library Python RiskEngine

/-! ## 1. The rows -/

structure ScoreRow where
  id : Id
  score : RiskScore
  computedAt : Time
  asset : Asset
  deriving DecidableEq

/-- `RiskScore.objects.filter(snapshot_id=..).select_related("asset", "asset__target")` -/
def scoreRows (db : Database) (computedAt : Id → Time) (snapshotId : Id) : List ScoreRow :=
  (db.scores.ids fun score => score.snapshot == some snapshotId).filterMap fun id => do
    let score ← db.scores.find? id
    let asset ← db.assets.find? score.asset
    return { id, score, computedAt := computedAt id, asset }

theorem scoreRows_nodup (db : Database) (computedAt : Id → Time) (snapshotId : Id) :
    (scoreRows db computedAt snapshotId).Nodup := by
  apply (Table.nodup_ids _ _).filterMap
  intro id id' row h h'
  have hid : ∀ i, row ∈ (do
      let score ← db.scores.find? i
      let asset ← db.assets.find? score.asset
      return { id := i, score, computedAt := computedAt i, asset } : Option ScoreRow) →
      row.id = i := by
    intro i hi
    simp only [Option.bind_eq_bind, Option.mem_def, Option.bind_eq_some_iff] at hi
    obtain ⟨score, -, asset, -, hrow⟩ := hi
    cases hrow
    rfl
  exact (hid id h).symm.trans (hid id' h')

/-! ## 2. The two queries -/

/-- `RiskScore.tier` as it is stored. -/
def tierText : Tier → List Char
  | .critical => "CRITICAL".toList
  | .high => "HIGH".toList
  | .medium => "MEDIUM".toList
  | .low => "LOW".toList

inductive RiskSort
  | score
  | scoreDescending
  | computedAt
  | computedAtDescending
  deriving DecidableEq, Repr

/-- The parameters of `list_snapshot_risks` that select and order rows. -/
structure RiskQuery where
  tier : Option (List Char)
  minScore : Option Nat
  maxScore : Option Nat
  sort : Option RiskSort
  deriving DecidableEq, Repr

def RiskQuery.selectedTiers (query : RiskQuery) : List (List Char) :=
  match query.tier with
  | none => []
  | some text => if text = [] then [] else text.splitOn ','

def atLeast (bound : Option Nat) (score : Int) : Bool := bound.all fun n => decide ((n : Int) ≤ score)

def atMost (bound : Option Nat) (score : Int) : Bool := bound.all fun n => decide (score ≤ (n : Int))

/-- A filter `__in` that is left out where nothing is selected. -/
def among (selected : List (List Char)) (text : List Char) : Bool :=
  selected.isEmpty || selected.contains text

def RiskQuery.selects (query : RiskQuery) (row : ScoreRow) : Bool :=
  among query.selectedTiers (tierText row.score.result.tier) &&
    atLeast query.minScore row.score.result.score && atMost query.maxScore row.score.result.score

/-- The one column of `order_by`; a descending column is ordered by its negative. -/
def RiskQuery.sortKey (query : RiskQuery) (row : ScoreRow) : Int :=
  match query.sort with
  | some .score => row.score.result.score
  | some .computedAt => row.computedAt
  | some .computedAtDescending => - (row.computedAt : Int)
  | some .scoreDescending | none => - row.score.result.score

section

variable [PyText]

def parseCsv (value : Option (List Char)) : List (List Char) :=
  (((value.getD []).splitOn ',').map strip).filter (· ≠ [])

end

/-- The parameters of `get_migration_plan` that select rows; `asset_ids` after its integers are read,
and absent where the text is empty. -/
structure MigrationPlanQuery where
  minScore : Option Nat
  tier : Option (List Char)
  assetType : Option (List Char)
  targetId : Option Int
  assetIds : Option (List Int)
  deriving DecidableEq, Repr

def MigrationPlanQuery.selects [PyText] (query : MigrationPlanQuery) (row : ScoreRow) : Bool :=
  atLeast query.minScore row.score.result.score &&
    among (parseCsv query.tier) (tierText row.score.result.tier) &&
    (query.assetType.all fun text =>
      text.isEmpty || (parseCsv (some text)).contains row.asset.assetType) &&
    (query.targetId.all fun id => row.asset.target.any fun target => decide ((target : Int) = id)) &&
    query.assetIds.all fun ids => ids.contains (row.score.asset : Int)

def planKey (row : ScoreRow) : Int := - row.score.result.score

/-! ## 3. The responses -/

/-- `page_envelope`; an item is made from one row and stands here for it. -/
structure PageEnvelope where
  items : List ScoreRow
  total : Nat
  offset : Nat
  limit : Nat

/-- The end of both endpoints: the count of the rows and a slice of what the query answers. -/
def pageEnvelope (rows answer : List ScoreRow) (offset limit : Nat) : PageEnvelope :=
  { items := Pagination.page answer offset limit, total := rows.length, offset, limit }

/-- The responses to consecutive requests, each of which queries the database anew. -/
def responses (rows : List ScoreRow) (answers : Nat → List ScoreRow) :
    Nat → Nat → List Nat → List PageEnvelope
  | _, _, [] => []
  | i, offset, limit :: limits =>
      pageEnvelope rows (answers i) offset limit ::
        responses rows answers (i + 1) (offset + limit) limits

theorem flatMap_items_responses (rows : List ScoreRow) (answers : Nat → List ScoreRow)
    (i offset : Nat) (limits : List Nat) :
    (responses rows answers i offset limits).flatMap PageEnvelope.items =
      (Pagination.pages answers i offset limits).flatten := by
  induction limits generalizing i offset with
  | nil => rfl
  | cons limit limits ih =>
      rw [responses, List.flatMap_cons, ih, Pagination.pages, List.flatten_cons]
      rfl

/-- The matching rows, each once, are the items of the responses, whatever each of the queries does
with rows that are equal in the ordered column. -/
def EachRowOnce (sortKey : ScoreRow → Int) (rows : List ScoreRow) (limits : List Nat) : Prop :=
  ∀ answers : Nat → List ScoreRow, (∀ i, Pagination.Answers sortKey rows (answers i)) →
    ((responses rows answers 0 0 limits).flatMap PageEnvelope.items).Perm rows

/-- Some page ends between two rows that are equal in the ordered column: more rows than those before
their class, and not all of it, are on this page and the ones before it. -/
def CutsTies (sortKey : ScoreRow → Int) (rows : List ScoreRow) (limits : List Nat) : Prop :=
  ∃ offset ∈ Pagination.boundaries 0 limits, Pagination.Straddles sortKey rows offset

instance (sortKey : ScoreRow → Int) (rows : List ScoreRow) (limits : List Nat) :
    Decidable (CutsTies sortKey rows limits) :=
  inferInstanceAs (Decidable (∃ offset ∈ Pagination.boundaries 0 limits,
    Pagination.Straddles sortKey rows offset))

theorem eachRowOnce_iff {sortKey : ScoreRow → Int} {rows : List ScoreRow} {limits : List Nat}
    (hnodup : rows.Nodup) (hpos : ∀ limit ∈ limits, 0 < limit) (hall : rows.length ≤ limits.sum) :
    EachRowOnce sortKey rows limits ↔ ¬ CutsTies sortKey rows limits := by
  unfold EachRowOnce CutsTies
  simp only [flatMap_items_responses, not_exists, not_and]
  exact Pagination.partitions_iff hnodup hpos hall

def matchingRisks (db : Database) (computedAt : Id → Time) (snapshotId : Id) (query : RiskQuery) :
    List ScoreRow :=
  (scoreRows db computedAt snapshotId).filter query.selects

def matchingPlan [PyText] (db : Database) (computedAt : Id → Time) (snapshotId : Id)
    (query : MigrationPlanQuery) : List ScoreRow :=
  (scoreRows db computedAt snapshotId).filter query.selects

/-- Both lists are complete and without repetition exactly where no page ends between ties. -/
theorem pages_partition_iff [PyText] (db : Database) (computedAt : Id → Time) (snapshotId : Id)
    (risks : RiskQuery) (plan : MigrationPlanQuery) (limits : List Nat)
    (hlimits : ∀ limit ∈ limits, 1 ≤ limit ∧ limit ≤ 100) :
    ((matchingRisks db computedAt snapshotId risks).length ≤ limits.sum →
      (EachRowOnce risks.sortKey (matchingRisks db computedAt snapshotId risks) limits ↔
        ¬ CutsTies risks.sortKey (matchingRisks db computedAt snapshotId risks) limits)) ∧
    ((matchingPlan db computedAt snapshotId plan).length ≤ limits.sum →
      (EachRowOnce planKey (matchingPlan db computedAt snapshotId plan) limits ↔
        ¬ CutsTies planKey (matchingPlan db computedAt snapshotId plan) limits)) := by
  have hnodup := scoreRows_nodup db computedAt snapshotId
  have hpos : ∀ limit ∈ limits, 0 < limit := fun limit hmem => (hlimits limit hmem).1
  constructor
  · exact fun hall => eachRowOnce_iff (hnodup.filter _) hpos hall
  · exact fun hall => eachRowOnce_iff (hnodup.filter _) hpos hall

/-! ## 4. Two rows on two pages -/

def twoScores (first second : Int) : Database :=
  let scored := fun (asset : Id) (score : Int) =>
    { exampleScore with asset, result := { exampleScore.result with score } }
  { assets := (Table.empty.insert (exampleAsset "a.crt" "certificate" "RSA-2048" "RSA")).insert
      (exampleAsset "b.crt" "certificate" "RSA-2048" "RSA")
    scores := (Table.empty.insert (scored 0 first)).insert (scored 1 second) }

def allRisks : RiskQuery := ⟨none, none, none, none⟩

def wholePlan : MigrationPlanQuery := ⟨none, none, none, none, none⟩

/-- Rows with different scores are listed once each. -/
theorem different_scores_listed : letI := asciiText
    EachRowOnce allRisks.sortKey (matchingRisks (twoScores 80 70) (fun _ => 0) 0 allRisks) [1, 1] ∧
      EachRowOnce planKey (matchingPlan (twoScores 80 70) (fun _ => 0) 0 wholePlan) [1, 1] := by
  let := asciiText
  obtain ⟨hrisks, hplan⟩ := pages_partition_iff (twoScores 80 70) (fun _ => 0) 0 allRisks wholePlan
    [1, 1] (by decide)
  exact ⟨(hrisks (by decide +kernel)).mpr (by decide +kernel),
    (hplan (by decide +kernel)).mpr (by decide +kernel)⟩

/-- Rows with equal scores may be listed twice or not at all. -/
theorem equal_scores_mislisted : letI := asciiText
    ¬ EachRowOnce allRisks.sortKey (matchingRisks (twoScores 80 80) (fun _ => 0) 0 allRisks) [1, 1] ∧
      ¬ EachRowOnce planKey (matchingPlan (twoScores 80 80) (fun _ => 0) 0 wholePlan) [1, 1] := by
  let := asciiText
  have hnodup := scoreRows_nodup (twoScores 80 80) (fun _ => 0) 0
  refine ⟨?_, ?_⟩
  · intro h
    have hclean := (eachRowOnce_iff (hnodup.filter _) (by decide) (by decide +kernel)).mp h
    exact hclean (by decide +kernel)
  · intro h
    have hclean := (eachRowOnce_iff (hnodup.filter _) (by decide) (by decide +kernel)).mp h
    exact hclean (by decide +kernel)

end CryptoScanner.Snapshots
