import CryptoScanner.Library.Dict
import Mathlib.Algebra.GroupWithZero.Nat
import Mathlib.Data.List.Induction
import Mathlib.Data.List.Nodup

/-!
# Accumulating items by key

Every item updates the entry of its key, which the first item with that key puts into the
dictionary.  What the entry ends as depends on the items with its key only, and where it stands on the
first of them.
-/

namespace CryptoScanner.Library.Dict

variable {κ α σ : Type*} [DecidableEq κ] (key : α → κ) (new : α → σ) (step : σ → α → σ)

/-- `d.setdefault(key, new)`, and the update of the entry. -/
def accumulateStep (d : List (κ × σ)) (item : α) : List (κ × σ) :=
  set (key item) (step ((d.lookup (key item)).getD (new item)) item) d

def accumulate (items : List α) : List (κ × σ) := items.foldl (accumulateStep key new step) []

def entryOf : List α → Option σ
  | [] => none
  | first :: items => some ((first :: items).foldl step (new first))

theorem accumulate_concat (items : List α) (item : α) :
    accumulate key new step (items ++ [item]) =
      accumulateStep key new step (accumulate key new step items) item := by
  rw [accumulate, List.foldl_append]
  rfl

theorem entryOf_concat (items : List α) (item : α) :
    entryOf new step (items ++ [item]) =
      some (step ((entryOf new step items).getD (new item)) item) := by
  cases items with
  | nil => rfl
  | cons first items =>
      rw [List.cons_append, entryOf, ← List.cons_append, List.foldl_append]
      rfl

theorem lookup_accumulate (items : List α) (k : κ) :
    (accumulate key new step items).lookup k =
      entryOf new step (items.filter fun item => decide (key item = k)) := by
  induction items using List.reverseRecOn with
  | nil => rfl
  | append_singleton items item ih =>
      rw [accumulate_concat, accumulateStep, lookup_set, List.filter_append, List.filter_cons,
        List.filter_nil]
      by_cases h : k = key item
      · rw [if_pos h, if_pos (decide_eq_true h.symm), entryOf_concat, ← ih, h]
      · rw [if_neg h, if_neg (by simpa using Ne.symm h), List.append_nil, ih]

theorem nodup_keys_accumulate (items : List α) :
    ((accumulate key new step items).map Prod.fst).Nodup := by
  induction items using List.reverseRecOn with
  | nil => exact List.nodup_nil
  | append_singleton items item ih =>
      rw [accumulate_concat]
      exact nodup_keys_set ih

theorem mem_keys_accumulate {items : List α} {k : κ} :
    k ∈ (accumulate key new step items).map Prod.fst ↔ ∃ item ∈ items, key item = k := by
  induction items using List.reverseRecOn with
  | nil =>
      constructor
      · exact nofun
      · rintro ⟨item, hitem, _⟩
        cases hitem
  | append_singleton items item ih =>
      rw [accumulate_concat, accumulateStep, mem_keys_set, ih]
      constructor
      · rintro (rfl | ⟨other, hother, rfl⟩)
        · exact ⟨item, List.mem_append_right items (List.mem_singleton_self item), rfl⟩
        · exact ⟨other, List.mem_append_left _ hother, rfl⟩
      · rintro ⟨other, hother, rfl⟩
        rcases List.mem_append.mp hother with hother | hother
        · exact .inr ⟨other, hother, rfl⟩
        · rw [List.mem_singleton.mp hother]
          exact .inl rfl

theorem entryOf_of_mem {items : List α} {k : κ} {value : σ}
    (h : (k, value) ∈ accumulate key new step items) :
    entryOf new step (items.filter fun item => decide (key item = k)) = some value := by
  rw [← lookup_accumulate]
  exact (mem_iff_lookup (nodup_keys_accumulate key new step items) k value).mp h

theorem filter_set (p : κ → Bool) (k : κ) (value : σ) (d : List (κ × σ)) :
    (set k value d).filter (fun entry => p entry.1) =
      if p k then set k value (d.filter fun entry => p entry.1)
      else d.filter fun entry => p entry.1 := by
  induction d with
  | nil =>
      rw [set, List.filter_cons, List.filter_nil]
      rfl
  | cons entry d ih =>
      by_cases heq : entry.1 = k
      · rw [set, if_pos heq, List.filter_cons, List.filter_cons, heq]
        by_cases hp : p k = true
        · rw [if_pos hp, if_pos hp, if_pos hp, set, if_pos heq]
        · rw [if_neg hp, if_neg hp, if_neg hp]
      · rw [set, if_neg heq, List.filter_cons, List.filter_cons, ih]
        by_cases hk : p k = true
        · rw [if_pos hk, if_pos hk]
          split
          · rw [set, if_neg heq]
          · rfl
        · rw [if_neg hk, if_neg hk]

theorem lookup_filter {p : κ → Bool} {k : κ} (hp : p k = true) (d : List (κ × σ)) :
    (d.filter fun entry => p entry.1).lookup k = d.lookup k := by
  induction d with
  | nil => rfl
  | cons entry d ih =>
      rw [List.filter_cons, List.lookup_cons]
      by_cases heq : k = entry.1
      · rw [if_pos (by rw [← heq]; exact hp), List.lookup_cons, heq, beq_self_eq_true]
      · rw [beq_false_of_ne heq]
        split
        · rw [List.lookup_cons, beq_false_of_ne heq, ih]
        · exact ih

/-- The entries of selected keys are those of the items with such keys. -/
theorem accumulate_filter (p : κ → Bool) (items : List α) :
    (accumulate key new step items).filter (fun entry => p entry.1) =
      accumulate key new step (items.filter fun item => p (key item)) := by
  induction items using List.reverseRecOn with
  | nil => rfl
  | append_singleton items item ih =>
      rw [accumulate_concat, accumulateStep, filter_set, List.filter_append, List.filter_cons,
        List.filter_nil]
      by_cases hp : p (key item) = true
      · rw [if_pos hp, if_pos hp, accumulate_concat, accumulateStep, ← ih, lookup_filter hp]
      · rw [if_neg hp, if_neg hp, List.append_nil, ih]

/-! ## Sums over the entries -/

/-- Setting a key exchanges the weight of its entry. -/
theorem sum_set (weight : σ → Nat) (k : κ) (value : σ) (d : List (κ × σ)) :
    ((set k value d).map fun entry => weight entry.2).sum + ((d.lookup k).map weight).getD 0 =
      (d.map fun entry => weight entry.2).sum + weight value := by
  induction d with
  | nil => exact Nat.add_comm _ _
  | cons entry d ih =>
      by_cases heq : entry.1 = k
      · rw [set, if_pos heq, List.lookup_cons, heq, beq_self_eq_true]
        show weight value + (d.map fun entry => weight entry.2).sum + weight entry.2 =
          weight entry.2 + (d.map fun entry => weight entry.2).sum + weight value
        omega
      · rw [set, if_neg heq, List.lookup_cons, beq_false_of_ne (Ne.symm heq), List.map_cons,
          List.map_cons, List.sum_cons, List.sum_cons]
        dsimp only
        omega

/-- Where every item adds its own weight to its entry, the entries weigh what the items weigh. -/
theorem sum_accumulate (weight : σ → Nat) (added : α → Nat) (hnew : ∀ item, weight (new item) = 0)
    (hstep : ∀ entry item, weight (step entry item) = weight entry + added item)
    (items : List α) :
    ((accumulate key new step items).map fun entry => weight entry.2).sum =
      (items.map added).sum := by
  induction items using List.reverseRecOn with
  | nil => rfl
  | append_singleton items item ih =>
      rw [accumulate_concat, accumulateStep, List.map_append, List.sum_append, List.map_singleton,
        List.sum_singleton, ← ih]
      set d := accumulate key new step items
      have hset := sum_set weight (key item) (step ((d.lookup (key item)).getD (new item)) item) d
      rw [hstep] at hset
      cases hlookup : d.lookup (key item) with
      | none =>
          rw [hlookup, Option.map_none, Option.getD_none, Option.getD_none, hnew] at hset
          rw [Option.getD_none]
          omega
      | some entry =>
          rw [hlookup, Option.map_some, Option.getD_some, Option.getD_some] at hset
          rw [Option.getD_some]
          omega

/-! ## The order of the entries -/

theorem keys_set (k : κ) (value : σ) (d : List (κ × σ)) :
    (set k value d).map Prod.fst =
      if k ∈ d.map Prod.fst then d.map Prod.fst else d.map Prod.fst ++ [k] := by
  cases hlookup : d.lookup k with
  | none =>
      rw [if_neg (lookup_eq_none_iff_keys.mp hlookup), set_of_lookup_eq_none value hlookup,
        List.map_append]
      rfl
  | some old =>
      have hmem : k ∈ d.map Prod.fst := by
        by_contra hmem
        rw [lookup_eq_none_iff_keys.mpr hmem] at hlookup
        cases hlookup
      rw [if_pos hmem]
      have hkeys := congrArg (List.map Prod.fst)
        (@map_set_of_lookup _ _ _ _ k d old value (fun _ => ()) hlookup rfl)
      rwa [List.map_map, List.map_map] at hkeys

/-- Of any keys, the first to have an entry is that of the first item. -/
theorem find?_keys_accumulate (p : κ → Bool) (items : List α) :
    ((accumulate key new step items).map Prod.fst).find? p = (items.map key).find? p := by
  induction items using List.reverseRecOn with
  | nil => rfl
  | append_singleton items item ih =>
      rw [accumulate_concat, accumulateStep, keys_set, List.map_append, List.find?_append, ← ih]
      by_cases hmem : key item ∈ (accumulate key new step items).map Prod.fst
      · rw [if_pos hmem]
        cases hfind : ((accumulate key new step items).map Prod.fst).find? p with
        | some first => rfl
        | none =>
            have hp := List.find?_eq_none.mp hfind (key item) hmem
            rw [List.map_singleton, List.find?_cons_of_neg hp]
            rfl
      · rw [if_neg hmem, List.find?_append]
        rfl

/-! ## Reordered items -/

section

variable {R : σ → σ → Prop} [Std.Refl R] [IsTrans σ R]

/-- Steps that commute leave related states, whatever their order. -/
theorem foldl_perm (hstep : ∀ s s' a, R s s' → R (step s a) (step s' a))
    (hcomm : ∀ s a b, R (step (step s a) b) (step (step s b) a)) {items items' : List α}
    (hperm : items.Perm items') {s s' : σ} (h : R s s') :
    R (items.foldl step s) (items'.foldl step s') := by
  have hfold : ∀ (items : List α) {s s' : σ}, R s s' →
      R (items.foldl step s) (items.foldl step s') := by
    intro items
    induction items with
    | nil => exact id
    | cons a items ih => exact fun h => ih (hstep _ _ a h)
  induction hperm generalizing s s' with
  | nil => exact h
  | cons a _ ih => exact ih (hstep s s' a h)
  | swap a b items => exact hfold items (trans_of R (hcomm s b a) (hstep _ _ b (hstep s s' a h)))
  | trans _ _ ihfirst ihsecond => exact trans_of R (ihfirst h) (ihsecond (refl_of R s'))

/-- The entries of reordered items are related where the steps commute and every item with one key
starts its entry alike. -/
theorem lookup_accumulate_perm (hstep : ∀ s s' a, R s s' → R (step s a) (step s' a))
    (hcomm : ∀ s a b, R (step (step s a) b) (step (step s b) a)) {items items' : List α}
    (hnew : ∀ a b, key a = key b → R (new a) (new b)) (hperm : items.Perm items') (k : κ) :
    Option.Rel R ((accumulate key new step items).lookup k)
      ((accumulate key new step items').lookup k) := by
  rw [lookup_accumulate, lookup_accumulate]
  have hgroup := hperm.filter fun item => decide (key item = k)
  cases hfirst : items.filter fun item => decide (key item = k) with
  | nil =>
      rw [hfirst] at hgroup
      rw [← hgroup.nil_eq]
      exact .none
  | cons first rest =>
      cases hsecond : items'.filter fun item => decide (key item = k) with
      | nil =>
          rw [hfirst, hsecond] at hgroup
          exact absurd hgroup.eq_nil (List.cons_ne_nil first rest)
      | cons first' rest' =>
          have hkey : ∀ {l : List α} {a : α} {l' : List α},
              (l.filter fun item => decide (key item = k)) = a :: l' → key a = k := by
            intro l a l' heq
            have hmem : a ∈ l.filter fun item => decide (key item = k) :=
              heq ▸ List.mem_cons_self
            exact of_decide_eq_true (List.mem_filter.mp hmem).2
          rw [hfirst, hsecond] at hgroup
          exact .some (foldl_perm step hstep hcomm hgroup
            (hnew first first' ((hkey hfirst).trans (hkey hsecond).symm)))

end

/-- Dictionaries with the same entries differ in their order only. -/
theorem perm_of_lookup {d d' : List (κ × σ)} (hnodup : (d.map Prod.fst).Nodup)
    (hnodup' : (d'.map Prod.fst).Nodup) (h : ∀ k, d.lookup k = d'.lookup k) : d.Perm d' := by
  rw [List.perm_ext_iff_of_nodup (List.Nodup.of_map _ hnodup) (List.Nodup.of_map _ hnodup')]
  rintro ⟨k, value⟩
  rw [mem_iff_lookup hnodup, mem_iff_lookup hnodup', h]

end CryptoScanner.Library.Dict
