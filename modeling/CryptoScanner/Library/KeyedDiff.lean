import Mathlib.Data.Finset.Basic
import Mathlib.Data.Finset.Card
import Mathlib.Data.List.Sort

/-!
# Comparing two keyed collections

The keys that only the second collection has, those that only the first one has, and the shared
keys, split by whether the two values differ.
-/

namespace CryptoScanner.Library.KeyedDiff

variable {κ α : Type*} [DecidableEq κ]

/-! ## 1. The parts -/

def keys (d : List (κ × α)) : List κ := d.map Prod.fst

/-- `set(b) - set(a)` -/
def addedKeys (a b : List (κ × α)) : List κ := (keys b).filter (· ∉ keys a)

/-- `set(a) & set(b)` -/
def sharedKeys (a b : List (κ × α)) : List κ := (keys a).filter (· ∈ keys b)

def pairAt (a b : List (κ × α)) (key : κ) : Option (α × α) :=
  (a.lookup key).bind fun x => (b.lookup key).map fun y => (x, y)

def modifiedKeys (changed : α → α → Bool) (a b : List (κ × α)) : List κ :=
  (sharedKeys a b).filter fun key => (pairAt a b key).any fun p => changed p.1 p.2

def unchangedKeys (changed : α → α → Bool) (a b : List (κ × α)) : List κ :=
  (sharedKeys a b).filter (· ∉ modifiedKeys changed a b)

variable {changed : α → α → Bool} {a b : List (κ × α)} {key : κ}

theorem mem_addedKeys : key ∈ addedKeys a b ↔ key ∈ keys b ∧ key ∉ keys a := by
  rw [addedKeys, List.mem_filter, decide_eq_true_iff]

theorem mem_sharedKeys : key ∈ sharedKeys a b ↔ key ∈ keys a ∧ key ∈ keys b := by
  rw [sharedKeys, List.mem_filter, decide_eq_true_iff]

theorem exists_lookup_of_mem_keys (h : key ∈ keys a) : ∃ x, a.lookup key = some x := by
  cases hlookup : a.lookup key with
  | some x => exact ⟨x, rfl⟩
  | none =>
      rw [keys, List.mem_map] at h
      obtain ⟨entry, hentry, rfl⟩ := h
      have hne := List.lookup_eq_none_iff.mp hlookup entry hentry
      simp at hne

theorem mem_keys_of_lookup {x : α} (h : a.lookup key = some x) : key ∈ keys a := by
  by_contra hno
  have hnone : a.lookup key = none := by
    rw [List.lookup_eq_none_iff]
    intro entry hentry
    rw [bne_iff_ne]
    rintro rfl
    exact hno (List.mem_map_of_mem hentry)
  rw [hnone] at h
  cases h

theorem pairAt_eq_some {x y : α} :
    pairAt a b key = some (x, y) ↔ a.lookup key = some x ∧ b.lookup key = some y := by
  unfold pairAt
  cases a.lookup key <;> cases b.lookup key <;> simp

theorem mem_sharedKeys_of_pairAt {p : α × α} (h : pairAt a b key = some p) :
    key ∈ sharedKeys a b := by
  have hboth := pairAt_eq_some.mp h
  exact mem_sharedKeys.mpr ⟨mem_keys_of_lookup hboth.1, mem_keys_of_lookup hboth.2⟩

theorem mem_modifiedKeys :
    key ∈ modifiedKeys changed a b ↔ ∃ x y, pairAt a b key = some (x, y) ∧ changed x y = true := by
  rw [modifiedKeys, List.mem_filter, Option.any_eq_true]
  constructor
  · rintro ⟨_, ⟨x, y⟩, hpair, hchanged⟩
    exact ⟨x, y, hpair, hchanged⟩
  · rintro ⟨x, y, hpair, hchanged⟩
    exact ⟨mem_sharedKeys_of_pairAt hpair, (x, y), hpair, hchanged⟩

theorem mem_unchangedKeys :
    key ∈ unchangedKeys changed a b ↔ key ∈ sharedKeys a b ∧ key ∉ modifiedKeys changed a b := by
  rw [unchangedKeys, List.mem_filter, decide_eq_true_iff]

theorem mem_sharedKeys_of_mem_modifiedKeys (h : key ∈ modifiedKeys changed a b) :
    key ∈ sharedKeys a b :=
  List.mem_of_mem_filter h

theorem nodup_addedKeys (hb : (keys b).Nodup) : (addedKeys a b).Nodup := hb.filter _

theorem nodup_modifiedKeys (ha : (keys a).Nodup) : (modifiedKeys changed a b).Nodup :=
  (ha.filter _).filter _

theorem nodup_unchangedKeys (ha : (keys a).Nodup) : (unchangedKeys changed a b).Nodup :=
  (ha.filter _).filter _

/-! ## 2. The partition -/

section Partition

variable (ha : (keys a).Nodup) (hb : (keys b).Nodup)

include ha hb

theorem nodup_parts : (addedKeys a b ++ addedKeys b a ++ modifiedKeys changed a b ++
    unchangedKeys changed a b).Nodup := by
  have hadded : (addedKeys a b ++ addedKeys b a).Nodup := by
    apply List.Nodup.append (nodup_addedKeys hb) (nodup_addedKeys ha)
    intro key hkey hkey'
    exact (mem_addedKeys.mp hkey).2 (mem_addedKeys.mp hkey').1
  have hmodified : (addedKeys a b ++ addedKeys b a ++ modifiedKeys changed a b).Nodup := by
    apply List.Nodup.append hadded (nodup_modifiedKeys ha)
    intro key hkey hmod
    have hboth := mem_sharedKeys.mp (mem_sharedKeys_of_mem_modifiedKeys hmod)
    rcases List.mem_append.mp hkey with h | h
    · exact (mem_addedKeys.mp h).2 hboth.1
    · exact (mem_addedKeys.mp h).2 hboth.2
  apply List.Nodup.append hmodified (nodup_unchangedKeys ha)
  intro key hkey hunchanged
  obtain ⟨hin, hnot⟩ := mem_unchangedKeys.mp hunchanged
  have hboth := mem_sharedKeys.mp hin
  rcases List.mem_append.mp hkey with h | h
  · rcases List.mem_append.mp h with h | h
    · exact (mem_addedKeys.mp h).2 hboth.1
    · exact (mem_addedKeys.mp h).2 hboth.2
  · exact hnot h

omit ha hb in
theorem mem_parts : key ∈ addedKeys a b ++ addedKeys b a ++ modifiedKeys changed a b ++
    unchangedKeys changed a b ↔ key ∈ keys a ∨ key ∈ keys b := by
  simp only [List.mem_append, mem_addedKeys, mem_unchangedKeys]
  constructor
  · rintro (((h | h) | h) | h)
    · exact .inr h.1
    · exact .inl h.1
    · exact .inl (mem_sharedKeys.mp (mem_sharedKeys_of_mem_modifiedKeys h)).1
    · exact .inl (mem_sharedKeys.mp h.1).1
  · intro h
    by_cases hin : key ∈ sharedKeys a b
    · by_cases hmod : key ∈ modifiedKeys changed a b
      · exact .inl (.inr hmod)
      · exact .inr ⟨hin, hmod⟩
    · rw [mem_sharedKeys] at hin
      tauto

/-- The sizes of the parts add up to the number of keys. -/
theorem length_parts : (addedKeys a b).length + (addedKeys b a).length +
    (modifiedKeys changed a b).length + (unchangedKeys changed a b).length =
      ((keys a).toFinset ∪ (keys b).toFinset).card := by
  have hparts : (keys a).toFinset ∪ (keys b).toFinset = (addedKeys a b ++ addedKeys b a ++
      modifiedKeys changed a b ++ unchangedKeys changed a b).toFinset := by
    ext key
    rw [Finset.mem_union, List.mem_toFinset, List.mem_toFinset, List.mem_toFinset, mem_parts]
  rw [hparts, List.toFinset_card_of_nodup (nodup_parts ha hb), List.length_append,
    List.length_append, List.length_append]

end Partition

/-! ## 3. The other way round -/

theorem pairAt_swap : pairAt b a key = (pairAt a b key).map Prod.swap := by
  unfold pairAt
  cases a.lookup key <;> cases b.lookup key <;> rfl

theorem mem_modifiedKeys_swap (hsymm : ∀ x y, changed x y = changed y x) :
    key ∈ modifiedKeys changed b a ↔ key ∈ modifiedKeys changed a b := by
  have hone : ∀ {a b : List (κ × α)}, key ∈ modifiedKeys changed a b →
      key ∈ modifiedKeys changed b a := by
    intro a b h
    obtain ⟨x, y, hpair, hchanged⟩ := mem_modifiedKeys.mp h
    refine mem_modifiedKeys.mpr ⟨y, x, ?_, by rw [hsymm]; exact hchanged⟩
    rw [pairAt_swap, hpair]
    rfl
  exact ⟨hone, hone⟩

theorem mem_unchangedKeys_swap (hsymm : ∀ x y, changed x y = changed y x) :
    key ∈ unchangedKeys changed b a ↔ key ∈ unchangedKeys changed a b := by
  rw [mem_unchangedKeys, mem_unchangedKeys, mem_modifiedKeys_swap hsymm, mem_sharedKeys,
    mem_sharedKeys, and_comm (a := key ∈ keys b)]

/-- As many keys are unchanged the other way round. -/
theorem length_unchangedKeys_swap (ha : (keys a).Nodup) (hb : (keys b).Nodup)
    (hsymm : ∀ x y, changed x y = changed y x) :
    (unchangedKeys changed b a).length = (unchangedKeys changed a b).length := by
  apply List.Perm.length_eq
  rw [List.perm_ext_iff_of_nodup (nodup_unchangedKeys hb) (nodup_unchangedKeys ha)]
  exact fun _ => mem_unchangedKeys_swap hsymm

/-! ## 4. Sorted keys -/

section Sorted

variable (r : κ → κ → Prop) [DecidableRel r] [IsTrans κ r] [Std.Antisymm r] [Std.Total r]

omit [DecidableEq κ] in
theorem sorted_congr {l l' : List κ} (hl : l.Nodup) (hl' : l'.Nodup)
    (h : ∀ key, key ∈ l ↔ key ∈ l') : l.insertionSort r = l'.insertionSort r := by
  have hperm : (l.insertionSort r).Perm (l'.insertionSort r) :=
    (List.perm_insertionSort r l).trans (((List.perm_ext_iff_of_nodup hl hl').mpr h).trans
      (List.perm_insertionSort r l').symm)
  exact hperm.eq_of_pairwise' (List.pairwise_insertionSort r l) (List.pairwise_insertionSort r l')

end Sorted

end CryptoScanner.Library.KeyedDiff
