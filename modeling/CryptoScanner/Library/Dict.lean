import Mathlib.Data.List.Basic
import Mathlib.Data.List.Induction

/-!
# Dictionaries in insertion order

A dictionary is the list of its entries.  Setting a key that is there keeps its position, and a new
key goes to the end.  Collecting the items of a list by key merges every later item into the first
one with its key.
-/

namespace CryptoScanner.Library.Dict

variable {κ α β : Type*} [DecidableEq κ]

def set (key : κ) (value : α) : List (κ × α) → List (κ × α)
  | [] => [(key, value)]
  | entry :: d => if entry.1 = key then (key, value) :: d else entry :: set key value d

/-- `d.update(entries)`, and `{**d, **entries}` -/
def update (d entries : List (κ × α)) : List (κ × α) :=
  entries.foldl (fun d entry => set entry.1 entry.2 d) d

abbrev get? (d : List (κ × α)) (key : κ) : Option α := d.lookup key

def pop (key : κ) (d : List (κ × α)) : List (κ × α) := d.filter fun entry => entry.1 ≠ key

def setdefault (key : κ) (value : α) (d : List (κ × α)) : List (κ × α) :=
  if (d.lookup key).isSome then d else set key value d

theorem lookup_pop (key other : κ) (d : List (κ × α)) :
    (pop key d).lookup other = if other = key then none else d.lookup other := by
  unfold pop
  induction d with
  | nil => exact (ite_self _).symm
  | cons entry d ih =>
      by_cases heq : entry.1 = key
      · rw [List.filter_cons_of_neg (by simpa using heq), ih, List.lookup_cons, heq]
        by_cases h : other = key
        · rw [if_pos h, if_pos h]
        · rw [if_neg h, if_neg h, beq_false_of_ne h]
      · rw [List.filter_cons_of_pos (by simpa using heq), List.lookup_cons, List.lookup_cons, ih]
        by_cases h : other = key
        · rw [beq_false_of_ne (fun hentry => heq (hentry.symm.trans h)), if_pos h]
        · rw [if_neg h, if_neg h]

theorem pop_eq_self {key : κ} {d : List (κ × α)} (h : d.lookup key = none) : pop key d = d := by
  unfold pop
  rw [List.filter_eq_self]
  intro entry hentry
  rw [List.lookup_eq_none_iff] at h
  have hne := h entry hentry
  rw [bne_iff_ne] at hne
  exact decide_eq_true hne.symm

/-- Setting a key to the value that it has changes nothing. -/
theorem set_eq_self {key : κ} {value : α} {d : List (κ × α)} (h : d.lookup key = some value) :
    set key value d = d := by
  induction d with
  | nil => cases h
  | cons entry d ih =>
      rw [List.lookup_cons] at h
      by_cases heq : entry.1 = key
      · rw [heq, beq_self_eq_true] at h
        cases h
        rw [set, if_pos heq, ← heq]
      · rw [beq_false_of_ne (fun hkey => heq hkey.symm)] at h
        rw [set, if_neg heq, ih h]

theorem set_of_lookup_eq_none {key : κ} {d : List (κ × α)} (value : α) (h : d.lookup key = none) :
    set key value d = d ++ [(key, value)] := by
  induction d with
  | nil => rfl
  | cons entry d ih =>
      have hne : key ≠ entry.1 := by
        intro heq
        rw [List.lookup_cons, heq, beq_self_eq_true] at h
        cases h
      have htail : d.lookup key = none := by
        rw [List.lookup_cons, beq_false_of_ne hne] at h
        exact h
      rw [set, if_neg hne.symm, ih htail]
      rfl

theorem lookup_set (key other : κ) (value : α) (d : List (κ × α)) :
    (set key value d).lookup other = if other = key then some value else d.lookup other := by
  induction d with
  | nil =>
      by_cases h : other = key
      · rw [set, List.lookup_cons, h, beq_self_eq_true, if_pos rfl]
      · rw [set, List.lookup_cons, beq_false_of_ne h, if_neg h]
  | cons entry d ih =>
      by_cases heq : entry.1 = key
      · rw [set, if_pos heq, List.lookup_cons, List.lookup_cons, heq]
        by_cases h : other = key
        · rw [h, beq_self_eq_true, if_pos rfl]
        · rw [beq_false_of_ne h, if_neg h]
      · rw [set, if_neg heq, List.lookup_cons, List.lookup_cons, ih]
        by_cases h : other = key
        · have hne : other ≠ entry.1 := fun hentry => heq (hentry.symm.trans h)
          rw [beq_false_of_ne hne]
        · rw [if_neg h, if_neg h]

theorem lookup_setdefault (key other : κ) (value : α) (d : List (κ × α)) :
    (setdefault key value d).lookup other =
      if other = key then some ((d.lookup key).getD value) else d.lookup other := by
  unfold setdefault
  cases hkey : d.lookup key with
  | some old =>
      rw [Option.isSome_some, if_pos rfl]
      by_cases h : other = key
      · rw [if_pos h, h, hkey]
        rfl
      · rw [if_neg h]
  | none =>
      rw [Option.isSome_none, if_neg (by decide), lookup_set]
      rfl

theorem setdefault_of_lookup {key : κ} {old : α} (value : α) {d : List (κ × α)}
    (h : d.lookup key = some old) : setdefault key value d = d := by
  rw [setdefault, h, Option.isSome_some, if_pos rfl]

theorem mem_keys_set {key other : κ} {value : α} {d : List (κ × α)} :
    other ∈ (set key value d).map Prod.fst ↔ other = key ∨ other ∈ d.map Prod.fst := by
  induction d with
  | nil => simp [set]
  | cons entry d ih =>
      by_cases heq : entry.1 = key
      · rw [set, if_pos heq, List.map_cons, List.map_cons, List.mem_cons, List.mem_cons, heq]
        tauto
      · rw [set, if_neg heq, List.map_cons, List.mem_cons, ih, List.map_cons, List.mem_cons]
        tauto

theorem nodup_keys_set {key : κ} {value : α} {d : List (κ × α)} (h : (d.map Prod.fst).Nodup) :
    ((set key value d).map Prod.fst).Nodup := by
  induction d with
  | nil => exact List.nodup_cons.mpr ⟨List.not_mem_nil, List.nodup_nil⟩
  | cons entry d ih =>
      rw [List.map_cons, List.nodup_cons] at h
      by_cases heq : entry.1 = key
      · rw [set, if_pos heq, List.map_cons, List.nodup_cons, ← heq]
        exact h
      · rw [set, if_neg heq, List.map_cons, List.nodup_cons]
        refine ⟨?_, ih h.2⟩
        rw [mem_keys_set, not_or]
        exact ⟨heq, h.1⟩

theorem nodup_keys_update {d : List (κ × α)} (entries : List (κ × α))
    (h : (d.map Prod.fst).Nodup) : ((update d entries).map Prod.fst).Nodup := by
  unfold update
  induction entries generalizing d with
  | nil => exact h
  | cons entry entries ih => exact ih (nodup_keys_set h)

theorem mem_keys_update {key : κ} {d entries : List (κ × α)} :
    key ∈ (update d entries).map Prod.fst ↔
      key ∈ d.map Prod.fst ∨ key ∈ entries.map Prod.fst := by
  unfold update
  induction entries generalizing d with
  | nil => simp
  | cons entry entries ih =>
      rw [List.foldl_cons, ih, mem_keys_set, List.map_cons, List.mem_cons]
      tauto

theorem lookup_update {entries : List (κ × α)} (hentries : (entries.map Prod.fst).Nodup)
    (d : List (κ × α)) (key : κ) :
    (update d entries).lookup key = (entries.lookup key).or (d.lookup key) := by
  unfold update
  induction entries generalizing d with
  | nil => rfl
  | cons entry entries ih =>
      rw [List.map_cons, List.nodup_cons] at hentries
      rw [List.foldl_cons, ih hentries.2, lookup_set, List.lookup_cons]
      by_cases h : key = entry.1
      · have hnone : entries.lookup key = none := by
          rw [List.lookup_eq_none_iff]
          intro other hother
          rw [bne_iff_ne]
          rintro heq
          exact hentries.1 (List.mem_map.mpr ⟨other, hother, heq.symm.trans h⟩)
        rw [hnone, if_pos h, h, beq_self_eq_true]
        rfl
      · rw [if_neg h, beq_false_of_ne h]

theorem set_set (key : κ) (value other : α) (d : List (κ × α)) :
    set key value (set key other d) = set key value d := by
  induction d with
  | nil => simp only [set, if_true]
  | cons entry d ih =>
      by_cases heq : entry.1 = key
      · rw [set, if_pos heq, set, if_pos rfl, set, if_pos heq]
      · rw [set, if_neg heq, set, if_neg heq, ih, set, if_neg heq]

/-- A key that is there is set before or after any other key. -/
theorem set_comm {key other : κ} (hne : other ≠ key) (value w : α) {d : List (κ × α)}
    (hmem : key ∈ d.map Prod.fst) :
    set other w (set key value d) = set key value (set other w d) := by
  induction d with
  | nil => cases hmem
  | cons entry d ih =>
      by_cases hkey : entry.1 = key
      · have hother : entry.1 ≠ other := fun h => hne (h.symm.trans hkey)
        rw [set, if_pos hkey, set, if_neg (Ne.symm hne), set, if_neg hother, set, if_pos hkey]
      · rw [set, if_neg hkey]
        by_cases hother : entry.1 = other
        · rw [set, if_pos hother, set, if_pos hother, set, if_neg hne]
        · have htail : key ∈ d.map Prod.fst := by
            rcases List.mem_cons.mp hmem with h | h
            · exact absurd h.symm hkey
            · exact h
          rw [set, if_neg hother, ih htail, set, if_neg hother, set, if_neg hkey]

/-- The value of a key that the entries set again does not matter. -/
theorem update_set_of_mem {key : κ} (value : α) {d entries : List (κ × α)}
    (hd : key ∈ d.map Prod.fst) (hentries : key ∈ entries.map Prod.fst) :
    update (set key value d) entries = update d entries := by
  unfold update
  induction entries generalizing d with
  | nil => cases hentries
  | cons entry entries ih =>
      rw [List.foldl_cons, List.foldl_cons]
      by_cases heq : entry.1 = key
      · rw [heq, set_set]
      · rw [set_comm heq value entry.2 hd]
        apply ih (mem_keys_set.mpr (.inr hd))
        rcases List.mem_cons.mp hentries with h | h
        · exact absurd h.symm heq
        · exact h

/-- An entry that is not set again keeps its value. -/
theorem lookup_update_of_not_mem {key : κ} (d : List (κ × α)) {entries : List (κ × α)}
    (h : key ∉ entries.map Prod.fst) : (update d entries).lookup key = d.lookup key := by
  unfold update
  induction entries generalizing d with
  | nil => rfl
  | cons entry entries ih =>
      rw [List.map_cons, List.mem_cons, not_or] at h
      rw [List.foldl_cons, ih _ h.2, lookup_set, if_neg h.1]

/-- Two values of one key make a difference until the key is set again. -/
theorem update_set_eq_iff (key : κ) (value other : α) (d entries : List (κ × α)) :
    update (set key value d) entries = update (set key other d) entries ↔
      value = other ∨ key ∈ entries.map Prod.fst := by
  constructor
  · intro h
    by_contra hcon
    rw [not_or] at hcon
    have hlookup := congrArg (List.lookup key) h
    rw [lookup_update_of_not_mem _ hcon.2, lookup_update_of_not_mem _ hcon.2, lookup_set,
      lookup_set, if_pos rfl, if_pos rfl] at hlookup
    exact hcon.1 (Option.some.inj hlookup)
  · rintro (rfl | hmem)
    · rfl
    · have hkey : key ∈ (set key other d).map Prod.fst := mem_keys_set.mpr (.inl rfl)
      rw [← update_set_of_mem value hkey hmem, set_set]

/-- Setting a key that is there changes its value alone. -/
theorem map_set_of_lookup {key : κ} {d : List (κ × α)} {old new : α} (p : α → β)
    (h : d.lookup key = some old) (hp : p new = p old) :
    (set key new d).map (fun entry => (entry.1, p entry.2)) =
      d.map fun entry => (entry.1, p entry.2) := by
  induction d with
  | nil => cases h
  | cons entry d ih =>
      by_cases heq : entry.1 = key
      · have hold : entry.2 = old := by
          rw [List.lookup_cons, heq, beq_self_eq_true] at h
          exact Option.some.inj h
        rw [set, if_pos heq, List.map_cons, List.map_cons, hp, ← hold, ← heq]
      · have htail : d.lookup key = some old := by
          rw [List.lookup_cons, beq_false_of_ne (Ne.symm heq)] at h
          exact h
        rw [set, if_neg heq, List.map_cons, List.map_cons, ih htail]

theorem lookup_map_values (f : α → β) (key : κ) (d : List (κ × α)) :
    (d.map fun (key, value) => (key, f value)).lookup key = (d.lookup key).map f := by
  induction d with
  | nil => rfl
  | cons entry d ih =>
      rw [List.map_cons, List.lookup_cons, List.lookup_cons]
      cases key == entry.1 with
      | true => rfl
      | false => exact ih

theorem lookup_eq_none_iff_keys {key : κ} {d : List (κ × α)} :
    d.lookup key = none ↔ key ∉ d.map Prod.fst := by
  rw [List.lookup_eq_none_iff, List.mem_map]
  constructor
  · rintro h ⟨entry, hentry, rfl⟩
    simpa using h entry hentry
  · intro h entry hentry
    rw [bne_iff_ne]
    rintro rfl
    exact h ⟨entry, hentry, rfl⟩

/-! ## Lists under keys -/

def push (key : κ) (item : α) (d : List (κ × List α)) : List (κ × List α) :=
  set key ((d.lookup key).getD [] ++ [item]) d

def gather (entries : List (κ × α)) : List (κ × List α) :=
  entries.foldl (fun d entry => push entry.1 entry.2 d) []

/-- Under a key are the items that were pushed there, in order. -/
theorem lookup_gather (entries : List (κ × α)) (key : κ) :
    ((gather entries).lookup key).getD [] =
      (entries.filter fun entry => entry.1 = key).map Prod.snd := by
  unfold gather
  induction entries using List.reverseRecOn with
  | nil => rfl
  | append_singleton entries entry ih =>
      rw [List.foldl_append, List.foldl_cons, List.foldl_nil, push, lookup_set, List.filter_append,
        List.map_append]
      by_cases hkey : key = entry.1
      · rw [if_pos hkey, Option.getD_some, ← hkey, ih,
          List.filter_cons_of_pos (by simpa using hkey.symm), List.filter_nil]
        rfl
      · rw [if_neg hkey, ih, List.filter_cons_of_neg (by simpa using fun h => hkey h.symm),
          List.filter_nil, List.map_nil, List.append_nil]

/-! ## Collecting items by key -/

variable (key : α → κ) (merge : α → α → α)

def collectStep (d : List (κ × α)) (item : α) : List (κ × α) :=
  match d.lookup (key item) with
  | some first => set (key item) (merge first item) d
  | none => set (key item) item d

def collect (items : List α) : List (κ × α) := items.foldl (collectStep key merge) []

def mergeInto : Option α → α → Option α
  | none, item => some item
  | some first, item => some (merge first item)

def mergeAll (items : List α) : Option α := items.foldl (mergeInto merge) none

theorem foldl_mergeInto_some (first : α) (items : List α) :
    items.foldl (mergeInto merge) (some first) = some (items.foldl merge first) := by
  induction items generalizing first with
  | nil => rfl
  | cons item items ih => exact ih (merge first item)

theorem mergeAll_cons (item : α) (items : List α) :
    mergeAll merge (item :: items) = some (items.foldl merge item) :=
  foldl_mergeInto_some merge item items

theorem mergeAll_concat {items : List α} {first : α} (h : mergeAll merge items = some first)
    (item : α) : mergeAll merge (items ++ [item]) = some (merge first item) := by
  unfold mergeAll at h ⊢
  rw [List.foldl_append, h]
  rfl

theorem mergeAll_eq_none_iff {items : List α} : mergeAll merge items = none ↔ items = [] := by
  cases items with
  | nil => exact ⟨fun _ => rfl, fun _ => rfl⟩
  | cons item items =>
      rw [mergeAll_cons]
      constructor <;> intro h <;> cases h

theorem lookup_collectStep (d : List (κ × α)) (item : α) (k : κ) :
    (collectStep key merge d item).lookup k =
      if key item = k then mergeInto merge (d.lookup k) item else d.lookup k := by
  rw [collectStep]
  by_cases h : key item = k
  · rw [if_pos h, h]
    cases hlookup : d.lookup k with
    | none =>
        show (set k item d).lookup k = _
        rw [lookup_set, if_pos rfl]
        rfl
    | some first =>
        show (set k (merge first item) d).lookup k = _
        rw [lookup_set, if_pos rfl]
        rfl
  · rw [if_neg h]
    cases d.lookup (key item) with
    | none =>
        show (set (key item) item d).lookup k = _
        rw [lookup_set, if_neg (Ne.symm h)]
    | some first =>
        show (set (key item) (merge first item) d).lookup k = _
        rw [lookup_set, if_neg (Ne.symm h)]

/-- What is collected under a key is what the items with this key merge to. -/
theorem lookup_collect (items : List α) (k : κ) :
    (collect key merge items).lookup k =
      mergeAll merge (items.filter fun item => decide (key item = k)) := by
  have hfold : ∀ d : List (κ × α), (items.foldl (collectStep key merge) d).lookup k =
      (items.filter fun item => decide (key item = k)).foldl (mergeInto merge) (d.lookup k) := by
    induction items with
    | nil => exact fun _ => rfl
    | cons item items ih =>
        intro d
        rw [List.foldl_cons, ih, lookup_collectStep]
        by_cases h : key item = k
        · rw [if_pos h, List.filter_cons, if_pos (decide_eq_true h), List.foldl_cons]
        · rw [if_neg h, List.filter_cons, if_neg (by simpa using h)]
  exact hfold []

theorem nodup_keys_collect (items : List α) :
    ((collect key merge items).map Prod.fst).Nodup := by
  have hfold : ∀ d : List (κ × α), (d.map Prod.fst).Nodup →
      ((items.foldl (collectStep key merge) d).map Prod.fst).Nodup := by
    induction items with
    | nil => exact fun _ h => h
    | cons item items ih =>
        intro d h
        apply ih
        rw [collectStep]
        cases d.lookup (key item) with
        | none => exact nodup_keys_set h
        | some first => exact nodup_keys_set h
  exact hfold [] List.nodup_nil

theorem mem_iff_lookup {d : List (κ × α)} (h : (d.map Prod.fst).Nodup) (k : κ) (value : α) :
    (k, value) ∈ d ↔ d.lookup k = some value := by
  induction d with
  | nil => constructor <;> intro h <;> cases h
  | cons entry d ih =>
      rw [List.map_cons, List.nodup_cons] at h
      rw [List.mem_cons, List.lookup_cons]
      by_cases heq : k = entry.1
      · rw [heq, beq_self_eq_true]
        constructor
        · rintro (hentry | hmem)
          · rw [← hentry]
          · exact absurd (List.mem_map_of_mem (f := Prod.fst) hmem) h.1
        · intro hvalue
          exact .inl (Prod.ext rfl (Option.some.inj hvalue).symm)
      · rw [beq_false_of_ne heq, ← ih h.2]
        constructor
        · rintro (hentry | hmem)
          · exact absurd (congrArg Prod.fst hentry) heq
          · exact hmem
        · exact .inr

def firsts (seen : List κ) : List α → List α
  | [] => []
  | item :: items =>
      if key item ∈ seen then firsts seen items
      else item :: firsts (key item :: seen) items

theorem firsts_congr {seen seen' : List κ} (items : List α) (h : ∀ k, k ∈ seen ↔ k ∈ seen') :
    firsts key seen items = firsts key seen' items := by
  induction items generalizing seen seen' with
  | nil => rfl
  | cons item items ih =>
      rw [firsts, firsts]
      by_cases hmem : key item ∈ seen
      · rw [if_pos hmem, if_pos ((h _).mp hmem), ih h]
      · have hcons : ∀ k, k ∈ key item :: seen ↔ k ∈ key item :: seen' := by
          intro k
          rw [List.mem_cons, List.mem_cons, h]
        rw [if_neg hmem, if_neg (mt (h _).mpr hmem), ih hcons]

/-- A property that merging keeps is collected from the first item of each key, in order. -/
theorem foldl_collectStep {p : α → β} (hp : ∀ a b, p (merge a b) = p a) (items : List α)
    (d : List (κ × α)) :
    (items.foldl (collectStep key merge) d).map (fun entry => (entry.1, p entry.2)) =
      d.map (fun entry => (entry.1, p entry.2)) ++
        (firsts key (d.map Prod.fst) items).map fun item => (key item, p item) := by
  induction items generalizing d with
  | nil => exact (List.append_nil _).symm
  | cons item items ih =>
      rw [List.foldl_cons, ih, firsts]
      have hkeys : ∀ d' : List (κ × α), (d'.map fun entry => (entry.1, p entry.2)).map Prod.fst =
          d'.map Prod.fst := by
        intro d'
        rw [List.map_map]
        rfl
      cases hlookup : d.lookup (key item) with
      | some first =>
          have hmem : key item ∈ d.map Prod.fst := by
            by_contra hnone
            rw [lookup_eq_none_iff_keys.mpr hnone] at hlookup
            cases hlookup
          have hset := map_set_of_lookup p hlookup (hp first item)
          have hfst : (set (key item) (merge first item) d).map Prod.fst = d.map Prod.fst := by
            rw [← hkeys, hset, hkeys]
          rw [collectStep, hlookup, if_pos hmem, hset, hfst]
      | none =>
          have hmem : key item ∉ d.map Prod.fst := lookup_eq_none_iff_keys.mp hlookup
          have hseen : ∀ k, k ∈ (d ++ [(key item, item)]).map Prod.fst ↔
              k ∈ key item :: d.map Prod.fst := by
            intro k
            rw [List.map_append, List.mem_append, List.mem_cons, or_comm]
            simp
          rw [collectStep, hlookup, if_neg hmem]
          show ((set (key item) item d).map _) ++ (firsts key ((set (key item) item d).map _)
            items).map _ = _
          rw [set_of_lookup_eq_none item hlookup, firsts_congr key items hseen, List.map_append,
            List.append_assoc]
          rfl

theorem collect_map {p : α → β} (hp : ∀ a b, p (merge a b) = p a) (items : List α) :
    (collect key merge items).map (fun entry => (entry.1, p entry.2)) =
      (firsts key [] items).map fun item => (key item, p item) :=
  foldl_collectStep key merge hp items []

/-- The first items have pairwise different keys, none of them seen before. -/
theorem firsts_pairwise (items : List α) (seen : List κ) :
    (∀ item ∈ firsts key seen items, key item ∉ seen) ∧
      (firsts key seen items).Pairwise fun a b => key a ≠ key b := by
  induction items generalizing seen with
  | nil => exact ⟨fun _ h => (List.not_mem_nil h).elim, List.Pairwise.nil⟩
  | cons item items ih =>
      rw [firsts]
      by_cases hmem : key item ∈ seen
      · rw [if_pos hmem]
        exact ih seen
      · obtain ⟨hseen, hpair⟩ := ih (key item :: seen)
        rw [if_neg hmem]
        constructor
        · intro other hother
          rcases List.mem_cons.mp hother with rfl | hother
          · exact hmem
          · exact fun h => hseen other hother (List.mem_cons_of_mem _ h)
        · apply List.Pairwise.cons _ hpair
          intro other hother heq
          exact hseen other hother (heq ▸ List.mem_cons_self)

theorem mem_of_mem_firsts {items : List α} {seen : List κ} {item : α}
    (h : item ∈ firsts key seen items) : item ∈ items := by
  induction items generalizing seen with
  | nil => cases h
  | cons other items ih =>
      rw [firsts] at h
      by_cases hmem : key other ∈ seen
      · rw [if_pos hmem] at h
        exact List.mem_cons_of_mem _ (ih h)
      · rw [if_neg hmem] at h
        rcases List.mem_cons.mp h with rfl | h
        · exact List.mem_cons_self
        · exact List.mem_cons_of_mem _ (ih h)

/-- The keys that are collected, in the order of their first items. -/
theorem keys_collect (items : List α) :
    (collect key merge items).map Prod.fst = (firsts key [] items).map key := by
  have hmap := congrArg (List.map Prod.fst)
    (collect_map key merge (p := fun _ => ()) (fun _ _ => rfl) items)
  rw [List.map_map, List.map_map] at hmap
  exact hmap

theorem mem_keys_firsts {items : List α} {seen : List κ} {k : κ} :
    k ∈ (firsts key seen items).map key ↔ k ∈ items.map key ∧ k ∉ seen := by
  induction items generalizing seen with
  | nil => simp [firsts]
  | cons item items ih =>
      rw [firsts, List.map_cons, List.mem_cons]
      by_cases hmem : key item ∈ seen
      · rw [if_pos hmem, ih]
        constructor
        · exact fun h => ⟨.inr h.1, h.2⟩
        · rintro ⟨rfl | h, hseen⟩
          · exact absurd hmem hseen
          · exact ⟨h, hseen⟩
      · rw [if_neg hmem, List.map_cons, List.mem_cons, ih, List.mem_cons, not_or]
        by_cases hk : k = key item
        · rw [hk]
          exact ⟨fun _ => ⟨.inl rfl, hmem⟩, fun _ => .inl rfl⟩
        · simp only [hk, false_or, not_false_eq_true, true_and]

/-- The first items stand in the order in which their keys occur first. -/
theorem firsts_idxOf [BEq κ] [LawfulBEq κ] (items : List α) (seen : List κ) :
    ((firsts key seen items).map key).Pairwise fun a b =>
      (items.map key).idxOf a < (items.map key).idxOf b := by
  induction items generalizing seen with
  | nil => exact List.Pairwise.nil
  | cons item items ih =>
      -- behind the first item every position grows by one
      have hshift : ∀ seen : List κ, key item ∈ seen →
          ((firsts key seen items).map key).Pairwise fun a b =>
            ((item :: items).map key).idxOf a < ((item :: items).map key).idxOf b := by
        intro seen hmem
        apply List.Pairwise.imp_of_mem _ (ih seen)
        intro a b ha hb hlt
        have hane : key item ≠ a := fun h => ((mem_keys_firsts key).mp ha).2 (h ▸ hmem)
        have hbne : key item ≠ b := fun h => ((mem_keys_firsts key).mp hb).2 (h ▸ hmem)
        rw [List.map_cons, List.idxOf_cons_ne _ hane, List.idxOf_cons_ne _ hbne]
        exact Nat.succ_lt_succ hlt
      rw [firsts]
      by_cases hmem : key item ∈ seen
      · rw [if_pos hmem]
        exact hshift seen hmem
      · rw [if_neg hmem, List.map_cons]
        apply List.Pairwise.cons _ (hshift (key item :: seen) List.mem_cons_self)
        intro k hk
        have hne : key item ≠ k := fun h =>
          ((mem_keys_firsts key).mp hk).2 (h ▸ List.mem_cons_self)
        rw [List.map_cons, List.idxOf_cons_self, List.idxOf_cons_ne _ hne]
        exact Nat.succ_pos _

/-- Items with different keys are collected as they are. -/
theorem collect_of_nodup {items : List α} (h : (items.map key).Nodup) :
    collect key merge items = items.map fun item => (key item, item) := by
  have hfold : ∀ d : List (κ × α), (∀ item ∈ items, key item ∉ d.map Prod.fst) →
      items.foldl (collectStep key merge) d = d ++ items.map fun item => (key item, item) := by
    induction items with
    | nil => exact fun d _ => (List.append_nil d).symm
    | cons item items ih =>
        intro d hnew
        rw [List.map_cons, List.nodup_cons] at h
        have hnone := lookup_eq_none_iff_keys.mpr (hnew item List.mem_cons_self)
        have hstep : collectStep key merge d item = d ++ [(key item, item)] := by
          rw [collectStep, hnone]
          exact set_of_lookup_eq_none item hnone
        rw [List.foldl_cons, hstep, ih h.2, List.append_assoc]
        · rfl
        · intro other hother
          rw [List.map_append, List.mem_append, not_or]
          refine ⟨hnew other (List.mem_cons_of_mem _ hother), fun hkey => ?_⟩
          have heq : key other = key item := List.mem_singleton.mp hkey
          exact h.1 (heq ▸ List.mem_map_of_mem hother)
  exact hfold [] fun _ _ => List.not_mem_nil

/-! ## Merging that keeps the key

`Keeps first item` says that merging the item into the first one keeps the key, and what a merge
has kept it keeps with the later items. -/

section

variable {Keeps : α → α → Prop}
  (hkey : ∀ first item, key first = key item → Keeps first item →
    key (merge first item) = key first)
  (hkeeps : ∀ first item next, Keeps first item → Keeps first next → Keeps (merge first item) next)

include hkey hkeeps

omit [DecidableEq κ] in
theorem foldl_merge_keeps {first : α} {items : List α}
    (hitems : ∀ item ∈ items, key item = key first ∧ Keeps first item) :
    key (items.foldl merge first) = key first ∧
      ∀ next, Keeps first next → Keeps (items.foldl merge first) next := by
  induction items generalizing first with
  | nil => exact ⟨rfl, fun _ h => h⟩
  | cons item items ih =>
      obtain ⟨hsame, hitem⟩ := hitems item List.mem_cons_self
      have hmerge := hkey first item hsame.symm hitem
      have hrest : ∀ other ∈ items, key other = key (merge first item) ∧
          Keeps (merge first item) other := by
        intro other hother
        obtain ⟨hother, hkept⟩ := hitems other (List.mem_cons_of_mem _ hother)
        exact ⟨hother.trans hmerge.symm, hkeeps first item other hitem hkept⟩
      obtain ⟨hfold, hnext⟩ := ih hrest
      exact ⟨hfold.trans hmerge, fun next h => hnext next (hkeeps first item next hitem h)⟩

/-- What is collected under a key has this key, and merging a further item keeps it. -/
theorem collect_keeps {items : List α}
    (hitems : items.Pairwise fun a b => key a = key b → Keeps a b) {k : κ} {first : α}
    (hfirst : (collect key merge items).lookup k = some first) :
    key first = k ∧ ∀ next, key next = k →
      (∀ item ∈ items, key item = k → Keeps item next) → Keeps first next := by
  rw [lookup_collect] at hfirst
  have hgroup := hitems.filter fun item => decide (key item = k)
  have hmem : ∀ item ∈ items.filter (fun item => decide (key item = k)),
      item ∈ items ∧ key item = k := by
    intro item h
    rw [List.mem_filter, decide_eq_true_eq] at h
    exact h
  generalize items.filter (fun item => decide (key item = k)) = group at hfirst hgroup hmem
  cases group with
  | nil => cases hfirst
  | cons head group =>
      rw [mergeAll_cons, Option.some.injEq] at hfirst
      obtain ⟨hhead, hheadKey⟩ := hmem head List.mem_cons_self
      rw [List.pairwise_cons] at hgroup
      have hrest : ∀ item ∈ group, key item = key head ∧ Keeps head item := by
        intro item hitem
        have hitemKey := (hmem item (List.mem_cons_of_mem _ hitem)).2.trans hheadKey.symm
        exact ⟨hitemKey, hgroup.1 item hitem hitemKey.symm⟩
      obtain ⟨hfold, hnext⟩ := foldl_merge_keeps key merge hkey hkeeps hrest
      rw [← hfirst]
      exact ⟨hfold.trans hheadKey, fun next _ h => hnext next (h head hhead hheadKey)⟩

/-- The collected items have the keys they are collected under. -/
theorem map_key_collect {items : List α}
    (hitems : items.Pairwise fun a b => key a = key b → Keeps a b) :
    ((collect key merge items).map Prod.snd).map key = (collect key merge items).map Prod.fst := by
  rw [List.map_map]
  apply List.map_congr_left
  intro entry hentry
  have hlookup := (mem_iff_lookup (nodup_keys_collect key merge items) entry.1 entry.2).mp hentry
  exact (collect_keeps key merge hkey hkeeps hitems hlookup).1

/-- Every merge of the loop keeps the key of the item it merges into. -/
theorem key_merge_of_collect {before after : List α} {item first : α}
    (hitems : (before ++ item :: after).Pairwise fun a b => key a = key b → Keeps a b)
    (hfirst : (collect key merge before).lookup (key item) = some first) :
    key (merge first item) = key first := by
  rw [List.pairwise_append] at hitems
  obtain ⟨hbefore, -, hcross⟩ := hitems
  obtain ⟨hsame, hnext⟩ := collect_keeps key merge hkey hkeeps hbefore hfirst
  apply hkey first item hsame
  exact hnext item rfl fun other hother hkey => hcross other hother item List.mem_cons_self hkey

end

end CryptoScanner.Library.Dict
