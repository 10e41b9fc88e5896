import CryptoScanner.Library.Accumulate
import Mathlib.Algebra.BigOperators.Group.List.Lemmas
import Mathlib.Data.List.Dedup

/-!
# Counting occurrences

`counts[item] = counts.get(item, 0) + 1` for every item: each item has its number of occurrences, and
the numbers sum up to the number of items.
-/

namespace CryptoScanner.Library

variable {κ : Type*} [DecidableEq κ]

def tally (items : List κ) : List (κ × Nat) :=
  Dict.accumulate id (fun _ => 0) (fun count _ => count + 1) items

omit [DecidableEq κ] in
theorem foldl_succ (items : List κ) (start : Nat) :
    items.foldl (fun count _ => count + 1) start = start + items.length := by
  induction items generalizing start with
  | nil => rfl
  | cons item items ih =>
      rw [List.foldl_cons, ih, List.length_cons]
      omega

theorem lookup_tally (items : List κ) (item : κ) :
    (tally items).lookup item = if item ∈ items then some (items.count item) else none := by
  unfold tally
  rw [Dict.lookup_accumulate]
  have hlength : (items.filter fun other => decide (id other = item)).length = items.count item := by
    rw [List.count, List.countP_eq_length_filter]
    congr 1
  by_cases hmem : item ∈ items
  · rw [if_pos hmem, ← hlength]
    have hne : (items.filter fun other => decide (id other = item)) ≠ [] :=
      List.ne_nil_of_mem (List.mem_filter.mpr ⟨hmem, decide_eq_true rfl⟩)
    cases hfilter : items.filter fun other => decide (id other = item) with
    | nil => exact absurd hfilter hne
    | cons first rest =>
        rw [Dict.entryOf, foldl_succ, Nat.zero_add]
  · have hnil : (items.filter fun other => decide (id other = item)) = [] := by
      rw [List.filter_eq_nil_iff]
      intro other hother heq
      exact hmem ((of_decide_eq_true heq : other = item) ▸ hother)
    rw [if_neg hmem, hnil]
    rfl

theorem getD_lookup_tally (items : List κ) (item : κ) :
    ((tally items).lookup item).getD 0 = items.count item := by
  rw [lookup_tally]
  by_cases hmem : item ∈ items
  · rw [if_pos hmem, Option.getD_some]
  · rw [if_neg hmem, Option.getD_none, List.count_eq_zero_of_not_mem hmem]

theorem getD_lookup_tally_map {α : Type*} (key : α → κ) (items : List α) (k : κ) :
    ((tally (items.map key)).lookup k).getD 0 = items.countP fun item => decide (key item = k) := by
  rw [getD_lookup_tally, List.count, List.countP_map]
  rfl

theorem nodup_keys_tally (items : List κ) : ((tally items).map Prod.fst).Nodup :=
  Dict.nodup_keys_accumulate _ _ _ items

theorem sum_tally (items : List κ) : ((tally items).map Prod.snd).sum = items.length := by
  have hkeys : ((tally items).map Prod.fst).Perm items.dedup := by
    apply (List.perm_ext_iff_of_nodup (nodup_keys_tally items) (List.nodup_dedup items)).mpr
    intro item
    rw [List.mem_dedup]
    constructor
    · intro hmem
      by_contra hnot
      have hnone := lookup_tally items item
      rw [if_neg hnot] at hnone
      exact (Dict.lookup_eq_none_iff_keys.mp hnone) hmem
    · intro hmem
      by_contra hnot
      have hnone := Dict.lookup_eq_none_iff_keys.mpr hnot
      rw [lookup_tally, if_pos hmem] at hnone
      cases hnone
  have hcounts : (tally items).map Prod.snd = ((tally items).map Prod.fst).map items.count := by
    rw [List.map_map]
    apply List.map_congr_left
    intro entry hentry
    have hlookup := (Dict.mem_iff_lookup (nodup_keys_tally items) entry.1 entry.2).mp hentry
    rw [Function.comp_apply, ← getD_lookup_tally, hlookup, Option.getD_some]
  rw [hcounts, (hkeys.map _).sum_eq, List.sum_map_count_dedup_eq_length]

end CryptoScanner.Library
