import Mathlib.Algebra.GroupWithZero.Nat
import Mathlib.Data.List.Sort

/-!
# Pages of sorted queries

Each page is a query of its own.  A query with `ORDER BY key` returns the matching rows in some order
that is sorted by the key, and rows with equal keys may change places from one query to the next.
-/

namespace CryptoScanner.Library.Pagination

variable {α κ : Type*} [LinearOrder κ] (key : α → κ)

/-- What a query for the rows may return. -/
structure Answers (rows answer : List α) : Prop where
  perm : answer.Perm rows
  sorted : answer.Pairwise fun a b => key a ≤ key b

def page (answer : List α) (offset limit : Nat) : List α := (answer.drop offset).take limit

/-- Consecutive pages with the given limits, the first of which is the query number `i`. -/
def pages (answers : Nat → List α) : Nat → Nat → List Nat → List (List α)
  | _, _, [] => []
  | i, offset, limit :: limits =>
      page (answers i) offset limit :: pages answers (i + 1) (offset + limit) limits

def boundaries : Nat → List Nat → List Nat
  | _, [] => []
  | offset, limit :: limits => (offset + limit) :: boundaries (offset + limit) limits

/-- However each query breaks its ties, the pages together have every row exactly once. -/
def Partitions (rows : List α) (limits : List Nat) : Prop :=
  ∀ answers : Nat → List α, (∀ i, Answers key rows (answers i)) →
    (pages answers 0 0 limits).flatten.Perm rows

/-- Rows with one key lie on both sides of the offset. -/
def Straddles (rows : List α) (offset : Nat) : Prop :=
  ∃ k, rows.countP (fun a => key a < k) < offset ∧ offset < rows.countP (fun a => key a ≤ k)

variable {key}

/-! ## 1. Sorted rows below a key -/

/-- In a sorted list the rows that a downward closed condition selects come first. -/
theorem filter_append_filter_not {answer : List α} {p : α → Bool}
    (hsorted : answer.Pairwise fun a b => key a ≤ key b)
    (hdown : ∀ a b, key a ≤ key b → p b = true → p a = true) :
    answer.filter p ++ answer.filter (fun a => ! p a) = answer := by
  induction answer with
  | nil => rfl
  | cons a answer ih =>
      rw [List.pairwise_cons] at hsorted
      by_cases ha : p a = true
      · have hnot : ¬ (! p a) = true := by
          rw [ha]
          exact Bool.false_ne_true
        simp only [List.filter_cons, if_pos ha, if_neg hnot, List.cons_append, ih hsorted.2]
      · have hnone : answer.filter p = [] := by
          apply List.filter_eq_nil_iff.mpr
          intro b hb hpb
          exact ha (hdown a b (hsorted.1 b hb) hpb)
        have hall : answer.filter (fun a => ! p a) = answer := by
          apply List.filter_eq_self.mpr
          intro b hb
          rw [Bool.not_eq_true']
          exact Bool.eq_false_of_not_eq_true fun hpb => ha (hdown a b (hsorted.1 b hb) hpb)
        have hnot : (! p a) = true := by
          rw [Bool.eq_false_of_not_eq_true ha]
          rfl
        rw [List.filter_cons, List.filter_cons, if_neg ha, if_pos hnot, hnone, List.nil_append, hall]

theorem take_countP {answer : List α} {p : α → Bool}
    (hsorted : answer.Pairwise fun a b => key a ≤ key b)
    (hdown : ∀ a b, key a ≤ key b → p b = true → p a = true) :
    answer.take (answer.countP p) = answer.filter p := by
  have hsplit := filter_append_filter_not hsorted hdown
  rw [List.countP_eq_length_filter]
  calc answer.take (answer.filter p).length
      = (answer.filter p ++ answer.filter fun a => ! p a).take (answer.filter p).length := by
        rw [hsplit]
    _ = answer.filter p := List.take_left' rfl

theorem getElem_le_of_le {answer : List α} (hsorted : answer.Pairwise fun a b => key a ≤ key b)
    {i j : Nat} (hij : i ≤ j) (hj : j < answer.length) : key answer[i] ≤ key answer[j] := by
  rcases Nat.eq_or_lt_of_le hij with rfl | hlt
  · exact le_refl _
  · exact List.pairwise_iff_getElem.mp hsorted i j (by omega) hj hlt

/-- A downward closed condition holds at exactly the positions before the number of rows it selects. -/
theorem getElem_iff_lt_countP {answer : List α} {p : α → Bool}
    (hsorted : answer.Pairwise fun a b => key a ≤ key b)
    (hdown : ∀ a b, key a ≤ key b → p b = true → p a = true) {i : Nat} (hi : i < answer.length) :
    p answer[i] = true ↔ i < answer.countP p := by
  constructor
  · intro hp
    have hall : (answer.take (i + 1)).countP p = (answer.take (i + 1)).length := by
      rw [List.countP_eq_length]
      intro a ha
      obtain ⟨j, hj, rfl⟩ := List.mem_take_iff_getElem.mp ha
      exact hdown _ _ (getElem_le_of_le hsorted (by omega) hi) hp
    have hsub : (answer.take (i + 1)).countP p ≤ answer.countP p :=
      (List.take_sublist (i + 1) answer).countP_le
    rw [hall, List.length_take] at hsub
    omega
  · intro hlt
    by_contra hp
    have hrest : (answer.drop i).countP p = 0 := by
      rw [List.countP_eq_zero]
      intro a ha
      obtain ⟨j, hj, rfl⟩ := List.mem_drop_iff_getElem.mp ha
      have hle : key answer[i] ≤ key answer[i + j] :=
        getElem_le_of_le hsorted (Nat.le_add_right i j) (by omega)
      exact fun h => hp (hdown _ _ hle h)
    have hsplit : answer.countP p = (answer.take i).countP p := by
      conv_lhs => rw [← List.take_append_drop i answer]
      rw [List.countP_append, hrest, Nat.add_zero]
    have hle : (answer.take i).countP p ≤ (answer.take i).length := List.countP_le_length
    rw [List.length_take] at hle
    omega

theorem le_down (k : κ) (a b : α) (hab : key a ≤ key b) (hb : decide (key b ≤ k) = true) :
    decide (key a ≤ k) = true :=
  decide_eq_true (hab.trans (of_decide_eq_true hb))

theorem lt_down (k : κ) (a b : α) (hab : key a ≤ key b) (hb : decide (key b < k) = true) :
    decide (key a < k) = true :=
  decide_eq_true (hab.trans_lt (of_decide_eq_true hb))

/-! ## 2. Offsets between ties -/

/-- Only the keys of the rows themselves can straddle. -/
theorem straddles_iff_mem {rows : List α} {offset : Nat} :
    Straddles key rows offset ↔ ∃ a ∈ rows, rows.countP (fun b => key b < key a) < offset ∧
      offset < rows.countP (fun b => key b ≤ key a) := by
  constructor
  · intro ⟨k, hbelow, habove⟩
    by_contra hnone
    have hmono : rows.countP (fun b => key b ≤ k) ≤ rows.countP fun b => key b < k := by
      apply List.countP_mono_left
      intro a ha hle
      apply decide_eq_true
      apply lt_of_le_of_ne (of_decide_eq_true hle)
      intro heq
      subst heq
      exact hnone ⟨a, ha, hbelow, habove⟩
    omega
  · intro ⟨a, _, h⟩
    exact ⟨key a, h⟩

instance (rows : List α) (offset : Nat) : Decidable (Straddles key rows offset) :=
  decidable_of_iff _ straddles_iff_mem.symm

/-- In every answer the offset separates two rows with one key exactly where ties straddle it. -/
theorem straddles_iff {rows answer : List α} {last : Nat} (h : Answers key rows answer)
    (hlast : last + 1 < answer.length) :
    Straddles key rows (last + 1) ↔ key answer[last] = key answer[last + 1] := by
  have hle := fun k i (hi : i < answer.length) => getElem_iff_lt_countP h.sorted (le_down k) hi
  have hlt := fun k i (hi : i < answer.length) => getElem_iff_lt_countP h.sorted (lt_down k) hi
  simp only [decide_eq_true_eq, h.perm.countP_eq] at hle hlt
  constructor
  · intro ⟨k, hbelow, habove⟩
    have hfirst : ¬ key answer[last] < k := by
      rw [hlt k last (by omega)]
      omega
    have hsecond : key answer[last + 1] ≤ k := (hle k (last + 1) hlast).mpr habove
    have hsorted := getElem_le_of_le h.sorted (Nat.le_succ last) hlast
    exact le_antisymm hsorted (hsecond.trans (not_lt.mp hfirst))
  · intro heq
    refine ⟨key answer[last], ?_, ?_⟩
    · have hnot : ¬ last < rows.countP fun a => key a < key answer[last] := by
        rw [← hlt _ last (by omega)]
        exact lt_irrefl _
      omega
    · exact (hle _ (last + 1) hlast).mp heq.ge

/-- At an offset that no ties straddle, the rows before it are the same in every answer. -/
theorem take_perm {rows left right : List α} {offset : Nat} (hleft : Answers key rows left)
    (hright : Answers key rows right) (hclean : ¬ Straddles key rows offset) :
    (left.take offset).Perm (right.take offset) := by
  have hlength : left.length = right.length := (hleft.perm.trans hright.perm.symm).length_eq
  by_cases hall : left.length ≤ offset
  · rw [List.take_of_length_le hall, List.take_of_length_le (hlength ▸ hall)]
    exact hleft.perm.trans hright.perm.symm
  · cases offset with
    | zero => exact List.Perm.refl _
    | succ last =>
        -- the key of the last row before the offset closes its class there
        let k := key left[last]
        have hcount : rows.countP (fun a => key a ≤ k) = last + 1 := by
          have hin := (getElem_iff_lt_countP hleft.sorted (le_down k) (i := last) (by omega)).mp
            (decide_eq_true (le_refl k))
          have hout := (getElem_iff_lt_countP hleft.sorted (lt_down k) (i := last) (by omega)).not.mp
            (by rw [decide_eq_true_eq]; exact lt_irrefl k)
          rw [hleft.perm.countP_eq] at hin hout
          have hnot : ¬ last + 1 < rows.countP fun a => key a ≤ k := by
            intro hgt
            exact hclean ⟨k, by omega, hgt⟩
          omega
        have htake : ∀ answer, Answers key rows answer →
            answer.take (last + 1) = answer.filter fun a => key a ≤ k := by
          intro answer h
          rw [← hcount, ← h.perm.countP_eq]
          exact take_countP h.sorted (le_down k)
        rw [htake left hleft, htake right hright]
        exact (hleft.perm.trans hright.perm.symm).filter _

theorem page_perm {rows left right : List α} {offset limit : Nat} (hleft : Answers key rows left)
    (hright : Answers key rows right) (hstart : ¬ Straddles key rows offset)
    (hend : ¬ Straddles key rows (offset + limit)) :
    (page left offset limit).Perm (page right offset limit) := by
  have hbefore := take_perm hleft hright hstart
  have hupto := take_perm hleft hright hend
  rw [List.take_add, List.take_add] at hupto
  exact (List.perm_append_left_iff _).mp (hupto.trans (hbefore.symm.append_right _))

/-! ## 3. Consecutive pages -/

theorem not_straddles_zero (rows : List α) : ¬ Straddles key rows 0 := by
  intro ⟨k, hbelow, _⟩
  exact Nat.not_lt_zero _ hbelow

theorem not_straddles_of_length_le {rows : List α} {offset : Nat} (h : rows.length ≤ offset) :
    ¬ Straddles key rows offset := by
  intro ⟨k, _, habove⟩
  have hle : rows.countP (fun a => key a ≤ k) ≤ rows.length := List.countP_le_length
  omega

theorem page_append_page (answer : List α) (offset limit more : Nat) :
    page answer offset limit ++ page answer (offset + limit) more =
      page answer offset (limit + more) := by
  unfold page
  rw [List.take_add, List.drop_drop]

/-- Pages that end at offsets between ties are together one page of any answer. -/
theorem flatten_pages_perm {rows base : List α} {answers : Nat → List α}
    (hbase : Answers key rows base) (hanswers : ∀ i, Answers key rows (answers i))
    (limits : List Nat) (i offset : Nat) (hstart : ¬ Straddles key rows offset)
    (hclean : ∀ o ∈ boundaries offset limits, ¬ Straddles key rows o) :
    (pages answers i offset limits).flatten.Perm (page base offset limits.sum) := by
  induction limits generalizing i offset with
  | nil => exact List.Perm.refl _
  | cons limit limits ih =>
      rw [boundaries, List.forall_mem_cons] at hclean
      rw [pages, List.flatten_cons, List.sum_cons, ← page_append_page]
      exact (page_perm (hanswers i) hbase hstart hclean.1).append
        (ih (i + 1) (offset + limit) hclean.1 hclean.2)

theorem partitions_of_clean {rows : List α} {limits : List Nat} (hall : rows.length ≤ limits.sum)
    (hclean : ∀ offset ∈ boundaries 0 limits, ¬ Straddles key rows offset) :
    Partitions key rows limits := by
  intro answers hanswers
  have hperm := flatten_pages_perm (hanswers 0) hanswers limits 0 0 (not_straddles_zero rows) hclean
  have hfull : page (answers 0) 0 limits.sum = answers 0 := by
    unfold page
    rw [List.drop_zero]
    apply List.take_of_length_le
    rwa [(hanswers 0).perm.length_eq]
  rw [hfull] at hperm
  exact hperm.trans (hanswers 0).perm

theorem mem_boundaries {offset o : Nat} {limits : List Nat} (h : o ∈ boundaries offset limits) :
    ∃ before limit after, limits = before ++ limit :: after ∧ o = offset + before.sum + limit := by
  induction limits generalizing offset with
  | nil => cases h
  | cons limit limits ih =>
      rw [boundaries, List.mem_cons] at h
      cases h with
      | inl heq => exact ⟨[], limit, limits, rfl, heq⟩
      | inr hmem =>
          obtain ⟨before, last, after, heq, ho⟩ := ih hmem
          refine ⟨limit :: before, last, after, by rw [heq, List.cons_append], ?_⟩
          rw [ho, List.sum_cons]
          omega

theorem pages_append (answers : Nat → List α) (before after : List Nat) (i offset : Nat) :
    pages answers i offset (before ++ after) =
      pages answers i offset before ++
        pages answers (i + before.length) (offset + before.sum) after := by
  induction before generalizing i offset with
  | nil => rfl
  | cons limit before ih =>
      have hindex : i + (limit :: before).length = i + 1 + before.length := by
        rw [List.length_cons]
        omega
      have hoffset : offset + (limit :: before).sum = offset + limit + before.sum := by
        rw [List.sum_cons]
        omega
      rw [List.cons_append, pages, pages, ih, hindex, hoffset, List.cons_append]

/-- Pages of one and the same answer are together one page of it. -/
theorem flatten_pages_of_eq {answers : Nat → List α} {answer : List α} {limits : List Nat}
    {i offset : Nat} (h : ∀ j < i + limits.length, answers j = answer) :
    (pages answers i offset limits).flatten = page answer offset limits.sum := by
  induction limits generalizing i offset with
  | nil => rfl
  | cons limit limits ih =>
      rw [List.length_cons] at h
      have hfirst : answers i = answer := h i (by omega)
      have hrest := @ih (i + 1) (offset + limit) fun j hj => h j (by omega)
      rw [pages, List.flatten_cons, hrest, hfirst, page_append_page, List.sum_cons]

theorem exists_answer (rows : List α) : ∃ answer, Answers key rows answer := by
  let r := fun a b => key a ≤ key b
  have : Std.Total r := ⟨fun a b => le_total (key a) (key b)⟩
  have : IsTrans α r := ⟨fun a b c hab hbc => le_trans hab hbc⟩
  exact ⟨rows.insertionSort r, List.perm_insertionSort r rows, List.pairwise_insertionSort r rows⟩

theorem Answers.swap {rows front rest : List α} {a b : α}
    (h : Answers key rows (front ++ a :: b :: rest)) (heq : key a = key b) :
    Answers key rows (front ++ b :: a :: rest) where
  perm := ((List.Perm.swap a b rest).append_left front).trans h.perm
  sorted := by
    have hsorted := h.sorted
    simp only [List.pairwise_append, List.pairwise_cons, List.forall_mem_cons] at hsorted ⊢
    obtain ⟨hfront, ⟨⟨_, ha⟩, hb, hrest⟩, hcross⟩ := hsorted
    refine ⟨hfront, ⟨⟨heq.ge, hb⟩, ha, hrest⟩, ?_⟩
    intro c hc
    exact ⟨(hcross c hc).2.1, (hcross c hc).1, (hcross c hc).2.2⟩

/-- Where ties straddle the end of a page, its last row may come first on the next page. -/
theorem not_partitions_of_straddles {rows : List α} {limits : List Nat} {offset : Nat}
    (hnodup : rows.Nodup) (hpos : ∀ limit ∈ limits, 0 < limit) (hall : rows.length ≤ limits.sum)
    (hmem : offset ∈ boundaries 0 limits) (hstraddles : Straddles key rows offset) :
    ¬ Partitions key rows limits := by
  obtain ⟨before, limit, after, rfl, ho⟩ := mem_boundaries hmem
  have hlimit : 0 < limit := hpos limit (List.mem_append_right _ List.mem_cons_self)
  have hinside : offset < rows.length := by
    by_contra hge
    exact not_straddles_of_length_le (not_lt.mp hge) hstraddles
  rw [List.sum_append, List.sum_cons] at hall
  cases after with
  | nil =>
      rw [List.sum_nil] at hall
      omega
  | cons next after =>
      have hnext : 0 < next := hpos next (by simp)
      obtain ⟨last, rfl⟩ : ∃ last, offset = last + 1 := ⟨offset - 1, by omega⟩
      obtain ⟨answer, hanswer⟩ : ∃ answer, Answers key rows answer := exists_answer rows
      have hlength : answer.length = rows.length := hanswer.perm.length_eq
      have hkeys := (straddles_iff hanswer (by omega)).mp hstraddles
      let front := answer.take last
      let a := answer[last]
      let b := answer[last + 1]
      let rest := answer.drop (last + 2)
      have hfront : front.length = last := by
        rw [List.length_take]
        omega
      have hsplit : answer = front ++ a :: b :: rest := by
        rw [List.getElem_cons_drop, List.getElem_cons_drop, List.take_append_drop]
      have hswapped : Answers key rows (front ++ b :: a :: rest) := by
        rw [hsplit] at hanswer
        exact hanswer.swap hkeys
      -- the queries up to the page that ends at the offset see `a` before `b`, the later ones after
      let answers := fun j => if j ≤ before.length then answer else front ++ b :: a :: rest
      have hanswers : ∀ j, Answers key rows (answers j) := by
        intro j
        show Answers key rows (if j ≤ before.length then answer else front ++ b :: a :: rest)
        split
        · exact hanswer
        · exact hswapped
      intro hpartitions
      have hperm := hpartitions answers hanswers
      have hearly : (pages answers 0 0 (before ++ [limit])).flatten = page answer 0 (last + 1) := by
        have hsum : (before ++ [limit]).sum = last + 1 := by
          rw [List.sum_append, List.sum_singleton]
          omega
        rw [← hsum]
        apply flatten_pages_of_eq
        intro j hj
        rw [List.length_append, List.length_singleton] at hj
        exact if_pos (by omega)
      have hlate : a ∈ page (answers (0 + (before ++ [limit]).length))
          (0 + (before ++ [limit]).sum) next := by
        have hoffset : 0 + (before ++ [limit]).sum = front.length + 1 := by
          rw [List.sum_append, List.sum_singleton, hfront]
          omega
        have hanswer' : answers (0 + (before ++ [limit]).length) = front ++ b :: a :: rest := by
          apply if_neg
          rw [List.length_append, List.length_singleton]
          omega
        obtain ⟨more, rfl⟩ : ∃ more, next = more + 1 := ⟨next - 1, by omega⟩
        rw [hoffset, hanswer', page, ← List.drop_drop, List.drop_left, List.drop_one, List.tail_cons,
          List.take_succ_cons]
        exact List.mem_cons_self
      have hfirst : a ∈ page answer 0 (last + 1) := by
        rw [page, List.drop_zero]
        exact List.mem_take_iff_getElem.mpr ⟨last, by omega, rfl⟩
      have hconcat : before ++ limit :: next :: after = (before ++ [limit]) ++ next :: after := by
        rw [List.append_assoc, List.singleton_append]
      rw [hconcat, pages_append, pages, List.flatten_append, List.flatten_cons, hearly] at hperm
      have hdisjoint := List.disjoint_of_nodup_append (hperm.nodup_iff.mpr hnodup)
      exact hdisjoint hfirst (List.mem_append_left _ hlate)

/-- The pages have every row exactly once whatever the queries do with ties, if and only if no page
ends between ties. -/
theorem partitions_iff {rows : List α} {limits : List Nat} (hnodup : rows.Nodup)
    (hpos : ∀ limit ∈ limits, 0 < limit) (hall : rows.length ≤ limits.sum) :
    Partitions key rows limits ↔ ∀ offset ∈ boundaries 0 limits, ¬ Straddles key rows offset := by
  constructor
  · intro h offset hmem hstraddles
    exact not_partitions_of_straddles hnodup hpos hall hmem hstraddles h
  · exact partitions_of_clean hall

end CryptoScanner.Library.Pagination
