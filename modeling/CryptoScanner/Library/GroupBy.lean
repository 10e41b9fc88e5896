import Mathlib.Data.List.SplitBy
import Mathlib.Order.Lattice

/-!
# Consecutive groups

`groupby` cuts a list where the key changes.  On a list that is sorted by the key, every key has one
group, which holds all items with it.
-/

namespace CryptoScanner.Library

variable {α κ : Type*} [DecidableEq κ]

/-- `itertools.groupby(items, key)`, without the keys. -/
def groupby (key : α → κ) (items : List α) : List (List α) :=
  items.splitBy fun a b => key a = key b

variable {key : α → κ} {items : List α}

theorem flatten_groupby (key : α → κ) (items : List α) : (groupby key items).flatten = items :=
  List.flatten_splitBy _ _

theorem ne_nil_of_mem_groupby {group : List α} (h : group ∈ groupby key items) : group ≠ [] :=
  List.ne_nil_of_mem_splitBy h

theorem key_eq_of_mem_groupby {group : List α} (h : group ∈ groupby key items) {a b : α}
    (ha : a ∈ group) (hb : b ∈ group) : key a = key b := by
  have hchain : group.IsChain fun a b => key a = key b := by
    have hsplit := List.isChain_of_mem_splitBy h
    simpa only [decide_eq_true_eq] using hsplit
  have htrans : IsTrans α fun a b => key a = key b := ⟨fun _ _ _ => Eq.trans⟩
  have hsymm : Std.Symm fun a b : α => key a = key b := ⟨fun _ _ => Eq.symm⟩
  have hpairwise := List.isChain_iff_pairwise.mp hchain
  exact List.Pairwise.forall_of_forall (R := fun a b => key a = key b) (fun _ _ => rfl) hpairwise ha
    hb

/-- The keys of the groups of a sorted list increase. -/
theorem pairwise_groupby [LinearOrder κ] (h : items.Pairwise fun a b => key a ≤ key b) :
    (groupby key items).Pairwise fun group group' => ∀ a ∈ group, ∀ b ∈ group', key a < key b := by
  have hle : (groupby key items).Pairwise fun group group' =>
      ∀ a ∈ group, ∀ b ∈ group', key a ≤ key b := by
    rw [← flatten_groupby key items, List.pairwise_flatten] at h
    exact h.2
  have hcut : (groupby key items).IsChain fun group group' => ∃ ha hb,
      decide (key (group.getLast ha) = key (group'.head hb)) = false :=
    List.isChain_getLast_head_splitBy (fun a b => decide (key a = key b)) items
  -- Adjacent groups differ in their key; being nonempty, they pass the order on.
  have hchain : (groupby key items).IsChain fun group group' =>
      group ≠ [] ∧ group' ≠ [] ∧ ∀ a ∈ group, ∀ b ∈ group', key a < key b := by
    rw [List.isChain_iff_getElem] at hcut ⊢
    intro i hi
    obtain ⟨hleft, hright, hne⟩ := hcut i hi
    have hmem : (groupby key items)[i] ∈ groupby key items := List.getElem_mem _
    have hmem' : (groupby key items)[i + 1] ∈ groupby key items := List.getElem_mem _
    refine ⟨hleft, hright, ?_⟩
    intro a ha b hb
    have hlast := key_eq_of_mem_groupby hmem ha (List.getLast_mem hleft)
    have hhead := key_eq_of_mem_groupby hmem' hb (List.head_mem hright)
    have hab := List.pairwise_iff_getElem.mp hle i (i + 1) (by omega) hi (by omega) a ha b hb
    apply lt_of_le_of_ne hab
    rw [hlast, hhead]
    exact of_decide_eq_false hne
  have htrans : IsTrans (List α) fun group group' =>
      group ≠ [] ∧ group' ≠ [] ∧ ∀ a ∈ group, ∀ b ∈ group', key a < key b := by
    constructor
    intro group₁ group₂ group₃ h₁₂ h₂₃
    obtain ⟨b, hb⟩ := List.exists_mem_of_ne_nil group₂ h₁₂.2.1
    refine ⟨h₁₂.1, h₂₃.2.1, ?_⟩
    intro a ha c hc
    exact (h₁₂.2.2 a ha b hb).trans (h₂₃.2.2 b hb c hc)
  exact (List.isChain_iff_pairwise.mp hchain).imp fun h => h.2.2

def groupKeys (key : α → κ) (groups : List (List α)) : List κ :=
  groups.filterMap fun group => group.head?.map key

omit [DecidableEq κ] in
theorem groupKeys_cons {group : List α} {a : α} (h : group.head? = some a)
    (groups : List (List α)) : groupKeys key (group :: groups) = key a :: groupKeys key groups := by
  rw [groupKeys, List.filterMap_cons, h]
  rfl

theorem mem_groupKeys_groupby {k : κ} :
    k ∈ groupKeys key (groupby key items) ↔ ∃ a ∈ items, key a = k := by
  unfold groupKeys
  rw [List.mem_filterMap]
  constructor
  · rintro ⟨group, hgroup, hk⟩
    obtain ⟨a, hhead, rfl⟩ := Option.map_eq_some_iff.mp hk
    refine ⟨a, ?_, rfl⟩
    rw [← flatten_groupby key items]
    exact List.mem_flatten.mpr ⟨group, hgroup, List.mem_of_mem_head? hhead⟩
  · rintro ⟨a, ha, rfl⟩
    rw [← flatten_groupby key items] at ha
    obtain ⟨group, hgroup, hmem⟩ := List.mem_flatten.mp ha
    have hhead := List.head?_eq_some_head (ne_nil_of_mem_groupby hgroup)
    refine ⟨group, hgroup, ?_⟩
    rw [hhead, Option.map_some,
      key_eq_of_mem_groupby hgroup (List.mem_of_mem_head? hhead) hmem]

theorem nodup_groupKeys_groupby [LinearOrder κ] (h : items.Pairwise fun a b => key a ≤ key b) :
    (groupKeys key (groupby key items)).Nodup := by
  have hlt : (groupKeys key (groupby key items)).Pairwise fun k l => k < l := by
    unfold groupKeys
    rw [List.pairwise_filterMap]
    refine (pairwise_groupby h).imp ?_
    intro group group' hgroups k hk l hl
    obtain ⟨a, ha, rfl⟩ := Option.map_eq_some_iff.mp hk
    obtain ⟨b, hb, rfl⟩ := Option.map_eq_some_iff.mp hl
    exact hgroups a (List.mem_of_mem_head? ha) b (List.mem_of_mem_head? hb)
  exact hlt.imp fun h => ne_of_lt h

end CryptoScanner.Library
