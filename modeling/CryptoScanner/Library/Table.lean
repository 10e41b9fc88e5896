import Mathlib.Data.List.MinMax

/-!
# Database tables with stable row ids

A table hands out ids in order and never uses one twice, as an auto-increment primary key does: the
row with id `i` sits at position `i`, and a deleted row leaves its position empty.
-/

namespace CryptoScanner.Library

variable {α : Type*}

structure Table (α : Type*) where
  rows : List (Option α)
  deriving Repr, DecidableEq

namespace Table

def empty : Table α := ⟨[]⟩

def nextId (t : Table α) : Nat := t.rows.length

def find? (t : Table α) (id : Nat) : Option α := (t.rows[id]?).join

def insert (t : Table α) (a : α) : Table α := ⟨t.rows ++ [some a]⟩

/-- Update the rows that `p` selects by id and content. -/
def updateWhere (t : Table α) (p : Nat → α → Bool) (f : α → α) : Table α :=
  ⟨t.rows.mapIdx fun id row => row.map fun a => if p id a then f a else a⟩

/-- Update one row; an absent id changes nothing. -/
def modify (t : Table α) (id : Nat) (f : α → α) : Table α :=
  t.updateWhere (fun k _ => k == id) f

def delete (t : Table α) (id : Nat) : Table α :=
  ⟨t.rows.mapIdx fun k row => if k = id then none else row⟩

/-- Save a row under an id that has been used, also where it was deleted. -/
def put (t : Table α) (id : Nat) (a : α) : Table α := ⟨t.rows.set id (some a)⟩

/-- The ids of the rows that `p` selects, in ascending order. -/
def ids (t : Table α) (p : α → Bool) : List Nat :=
  (List.range t.nextId).filter fun id => (t.find? id).any p

theorem lt_nextId {t : Table α} {id : Nat} {a : α} (h : t.find? id = some a) : id < t.nextId := by
  unfold find? at h
  by_contra hge
  rw [List.getElem?_eq_none (Nat.le_of_not_lt hge)] at h
  cases h

@[simp] theorem find?_nextId (t : Table α) : t.find? t.nextId = none := by
  cases h : t.find? t.nextId with
  | none => rfl
  | some a => exact absurd (lt_nextId h) (Nat.lt_irrefl _)

@[simp] theorem nextId_insert (t : Table α) (a : α) : (t.insert a).nextId = t.nextId + 1 := by
  simp [nextId, insert]

theorem find?_insert (t : Table α) (a : α) (id : Nat) :
    (t.insert a).find? id = if id = t.nextId then some a else t.find? id := by
  unfold find? insert
  by_cases hlt : id < t.rows.length
  · rw [List.getElem?_append_left hlt, if_neg (by unfold nextId; omega)]
  · by_cases heq : id = t.nextId
    · subst heq
      simp [nextId]
    · rw [List.getElem?_append_right (by omega), if_neg heq]
      have hpos : 0 < id - t.rows.length := by unfold nextId at heq; omega
      rw [List.getElem?_eq_none (by simp only [List.length_singleton]; omega),
        List.getElem?_eq_none (by omega)]

@[simp] theorem find?_insert_self (t : Table α) (a : α) : (t.insert a).find? t.nextId = some a := by
  rw [find?_insert, if_pos rfl]

/-- Rows that were there before an insertion stay as they were. -/
theorem find?_insert_of_find? {t : Table α} {id : Nat} {a : α} (b : α) (h : t.find? id = some a) :
    (t.insert b).find? id = some a := by
  rw [find?_insert, if_neg (Nat.ne_of_lt (lt_nextId h)), h]

@[simp] theorem nextId_updateWhere (t : Table α) (p : Nat → α → Bool) (f : α → α) :
    (t.updateWhere p f).nextId = t.nextId := by
  simp [nextId, updateWhere]

theorem find?_updateWhere (t : Table α) (p : Nat → α → Bool) (f : α → α) (id : Nat) :
    (t.updateWhere p f).find? id = (t.find? id).map fun a => if p id a then f a else a := by
  unfold find? updateWhere
  rw [List.getElem?_mapIdx]
  cases t.rows[id]? <;> rfl

@[simp] theorem nextId_modify (t : Table α) (id : Nat) (f : α → α) :
    (t.modify id f).nextId = t.nextId :=
  nextId_updateWhere t _ f

theorem find?_modify (t : Table α) (id : Nat) (f : α → α) (k : Nat) :
    (t.modify id f).find? k = if k = id then (t.find? k).map f else t.find? k := by
  rw [modify, find?_updateWhere]
  by_cases h : k = id
  · simp [h]
  · simp [h]

@[simp] theorem find?_modify_self (t : Table α) (id : Nat) (f : α → α) :
    (t.modify id f).find? id = (t.find? id).map f := by
  rw [find?_modify, if_pos rfl]

theorem find?_modify_ne (t : Table α) {id k : Nat} (f : α → α) (h : k ≠ id) :
    (t.modify id f).find? k = t.find? k := by
  rw [find?_modify, if_neg h]

theorem modify_modify (t : Table α) (id : Nat) (f g : α → α) :
    (t.modify id f).modify id g = t.modify id (g ∘ f) := by
  unfold modify updateWhere
  congr 1
  apply List.ext_getElem?
  intro k
  rw [List.getElem?_mapIdx, List.getElem?_mapIdx, List.getElem?_mapIdx]
  cases t.rows[k]? with
  | none => rfl
  | some row =>
      cases row with
      | none => rfl
      | some a =>
          by_cases h : (k == id) = true
          · simp only [Option.map_some, h, if_true, Function.comp_apply]
          · simp only [Option.map_some, h, Bool.false_eq_true, if_false]

/-- Updating an old row and inserting a new one commute. -/
theorem insert_modify (t : Table α) {id : Nat} (f : α → α) (a : α) (h : id ≠ t.nextId) :
    (t.insert a).modify id f = (t.modify id f).insert a := by
  unfold modify updateWhere insert
  congr 1
  rw [List.mapIdx_append]
  have hne : t.rows.length ≠ id := fun heq => h heq.symm
  simp [hne]

@[simp] theorem nextId_delete (t : Table α) (id : Nat) : (t.delete id).nextId = t.nextId := by
  simp [nextId, delete]

theorem find?_delete (t : Table α) (id k : Nat) :
    (t.delete id).find? k = if k = id then none else t.find? k := by
  unfold find? delete
  rw [List.getElem?_mapIdx]
  by_cases h : k = id
  · rw [if_pos h]
    cases t.rows[k]? <;> simp [h]
  · rw [if_neg h]
    cases t.rows[k]? <;> simp [h]

theorem find?_put {t : Table α} {id : Nat} (a : α) (h : id < t.nextId) (k : Nat) :
    (t.put id a).find? k = if k = id then some a else t.find? k := by
  unfold find? put
  by_cases hk : k = id
  · rw [if_pos hk, hk, List.getElem?_set_self h]
    rfl
  · rw [if_neg hk, List.getElem?_set_ne (Ne.symm hk)]

theorem mem_ids {t : Table α} {p : α → Bool} {id : Nat} :
    id ∈ t.ids p ↔ ∃ a, t.find? id = some a ∧ p a = true := by
  unfold ids
  rw [List.mem_filter, List.mem_range, Option.any_eq_true]
  constructor
  · rintro ⟨_, h⟩
    exact h
  · rintro ⟨a, h, hp⟩
    exact ⟨lt_nextId h, a, h, hp⟩

theorem ids_insert (t : Table α) (a : α) (p : α → Bool) :
    (t.insert a).ids p = t.ids p ++ if p a then [t.nextId] else [] := by
  unfold ids
  rw [nextId_insert, List.range_succ, List.filter_append]
  congr 1
  · apply List.filter_congr
    intro id hid
    rw [find?_insert, if_neg (Nat.ne_of_lt (List.mem_range.mp hid))]
  · rw [List.filter_singleton, find?_insert_self, Option.any_some]
    cases p a <;> rfl

/-- Counting among the rows that `p` selects is selecting by both conditions. -/
theorem countP_ids {β : Type*} (t : Table α) (p : α → Bool) (f : α → β) (q : β → Bool) :
    ((t.ids p).filterMap fun id => (t.find? id).map f).countP q =
      (t.ids fun a => p a && q (f a)).length := by
  unfold ids
  induction List.range t.nextId with
  | nil => rfl
  | cons id tail ih =>
      rw [List.filter_cons, List.filter_cons]
      cases hrow : t.find? id with
      | none => simpa only [Option.any_none, Bool.false_eq_true, if_false] using ih
      | some a =>
          cases hp : p a with
          | false => simpa only [Option.any_some, hp, Bool.false_and, Bool.false_eq_true, if_false]
              using ih
          | true =>
              rw [Option.any_some, Option.any_some, hp, if_pos rfl, Bool.true_and,
                List.filterMap_cons, hrow, Option.map_some, List.countP_cons, ih]
              cases q (f a) with
              | false => simp only [Bool.false_eq_true, if_false, Nat.add_zero]
              | true => simp only [if_true, List.length_cons]

theorem length_filterMap_ids {β : Type*} (t : Table α) (p : α → Bool) (f : α → β) :
    ((t.ids p).filterMap fun id => (t.find? id).map f).length = (t.ids p).length := by
  have hcount := countP_ids t p f fun _ => true
  simpa only [List.countP_true, Bool.and_true] using hcount

theorem nodup_ids (t : Table α) (p : α → Bool) : (t.ids p).Nodup := List.nodup_range.filter _

theorem sorted_ids (t : Table α) (p : α → Bool) : (t.ids p).Pairwise (· < ·) :=
  List.pairwise_lt_range.filter _

/-- An update that does not change what `p` says of a row selects the same rows. -/
theorem ids_modify (t : Table α) (id : Nat) (f : α → α) (p : α → Bool)
    (hf : ∀ a, t.find? id = some a → p (f a) = p a) : (t.modify id f).ids p = t.ids p := by
  unfold ids
  rw [nextId_modify]
  apply List.filter_congr
  intro k _
  rw [find?_modify]
  split
  · rename_i hk
    subst hk
    cases hrow : t.find? k with
    | none => rfl
    | some a => exact hf a hrow
  · rfl

theorem find?_foldl_delete (t : Table α) (ids : List Nat) (id : Nat) :
    (ids.foldl delete t).find? id = if id ∈ ids then none else t.find? id := by
  induction ids generalizing t with
  | nil => rfl
  | cons other ids ih =>
      rw [List.foldl_cons, ih, find?_delete]
      by_cases hmem : id ∈ ids
      · rw [if_pos hmem, if_pos (List.mem_cons_of_mem other hmem)]
      · rw [if_neg hmem]
        by_cases heq : id = other
        · rw [if_pos heq, if_pos (heq ▸ List.mem_cons_self)]
        · rw [if_neg heq, if_neg (fun h => hmem (List.mem_of_ne_of_mem heq h))]

/-- The row that `order_by("id").first()` returns for the filter `p`. -/
def first? (t : Table α) (p : α → Bool) : Option Nat := (t.ids p).head?

/-- The row that `order_by("-id").first()` returns for the filter `p`. -/
def last? (t : Table α) (p : α → Bool) : Option Nat := (t.ids p).getLast?

theorem last?_singleton (a : α) (p : α → Bool) :
    (empty.insert a).last? p = if p a then some 0 else none := by
  have hids : (empty.insert a).ids p = [0].filter fun _ => p a := rfl
  rw [last?, hids]
  cases p a <;> rfl

theorem first?_eq_some {t : Table α} {p : α → Bool} {id : Nat} (h : t.first? p = some id) :
    ∃ a, t.find? id = some a ∧ p a = true :=
  mem_ids.mp (List.mem_of_mem_head? h)

theorem first?_eq_none {t : Table α} {p : α → Bool} (h : t.first? p = none) {id : Nat} {a : α}
    (ha : t.find? id = some a) : p a = false := by
  cases hp : p a with
  | false => rfl
  | true =>
      have hmem : id ∈ t.ids p := mem_ids.mpr ⟨a, ha, hp⟩
      rw [first?, List.head?_eq_none_iff] at h
      simp [h] at hmem

end Table

theorem argmax_congr {β : Type*} [LinearOrder β] {l : List α} {f g : α → β}
    (h : ∀ a ∈ l, f a = g a) : l.argmax f = l.argmax g := by
  induction l using List.reverseRecOn with
  | nil => rfl
  | append_singleton l a ih =>
      have hinit : l.argmax f = l.argmax g :=
        ih fun b hb => h b (List.mem_append_left _ hb)
      rw [List.argmax_concat, List.argmax_concat, hinit]
      cases hmax : l.argmax g with
      | none => rfl
      | some b =>
          have hb := h b (List.mem_append_left _ (List.argmax_mem hmax))
          have ha := h a (List.mem_append_right _ (List.mem_singleton_self a))
          show (if f b < f a then _ else _) = if g b < g a then _ else _
          rw [ha, hb]

/-- In a sorted list the first of the greatest values is the one of the smallest number. -/
theorem argmax_eq_some_iff_of_sorted {β : Type*} [LinearOrder β] {l : List Nat}
    (hl : l.Pairwise (· < ·)) {f : Nat → β} {m : Nat} :
    l.argmax f = some m ↔ m ∈ l ∧ ∀ k ∈ l, f k < f m ∨ f k = f m ∧ m ≤ k := by
  -- positions in a sorted list are in the order of its numbers
  have hidx : ∀ a ∈ l, ∀ b ∈ l, l.idxOf a ≤ l.idxOf b ↔ a ≤ b := by
    intro a ha b hb
    have hlt := List.pairwise_iff_getElem.mp hl
    have ha' := List.idxOf_lt_length_iff.mpr ha
    have hb' := List.idxOf_lt_length_iff.mpr hb
    have hga : l[l.idxOf a] = a := List.getElem_idxOf ha'
    have hgb : l[l.idxOf b] = b := List.getElem_idxOf hb'
    rcases Nat.lt_trichotomy (l.idxOf a) (l.idxOf b) with h | h | h
    · have := hlt _ _ ha' hb' h
      rw [hga, hgb] at this
      omega
    · have hab : a = b := by rw [← hga, ← hgb]; simp only [h]
      omega
    · have := hlt _ _ hb' ha' h
      rw [hga, hgb] at this
      omega
  rw [List.argmax_eq_some_iff]
  constructor
  · rintro ⟨hm, hmax, hfirst⟩
    refine ⟨hm, fun k hk => ?_⟩
    rcases (hmax k hk).lt_or_eq with h | h
    · exact .inl h
    · exact .inr ⟨h, (hidx m hm k hk).mp (hfirst k hk h.ge)⟩
  · rintro ⟨hm, hall⟩
    refine ⟨hm, fun k hk => ?_, fun k hk hle => ?_⟩
    · exact (hall k hk).elim le_of_lt fun h => h.1.le
    · rcases hall k hk with h | h
      · exact absurd hle (not_le.mpr h)
      · exact (hidx m hm k hk).mpr h.2

end CryptoScanner.Library
