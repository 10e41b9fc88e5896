import Mathlib.Data.List.Forall2

/-!
# Computations that may raise

What a computation in `Except` that has returned has gone through.
-/

namespace CryptoScanner.Library

theorem ok_bind {ε α β : Type} (a : α) (f : α → Except ε β) : (Except.ok a >>= f) = f a := rfl

theorem mapError_ok {ε ε' α : Type} (a : α) (f : ε → ε') :
    (Except.ok a).mapError f = .ok a := rfl

theorem bind_eq_ok {ε α β : Type} {x : Except ε α} {f : α → Except ε β} {b : β} :
    (x >>= f) = .ok b ↔ ∃ a, x = .ok a ∧ f a = .ok b := by
  cases x with
  | error e =>
      constructor
      · intro h
        cases h
      · rintro ⟨a, h, _⟩
        cases h
  | ok a =>
      constructor
      · intro h
        exact ⟨a, rfl, h⟩
      · rintro ⟨a', h, h'⟩
        cases h
        exact h'

theorem toOption_bind {ε α β : Type} (x : Except ε α) (f : α → Except ε β) :
    (x >>= f).toOption = x.toOption.bind fun a => (f a).toOption := by
  cases x <;> rfl

theorem toOption_eq_some {ε α : Type} {x : Except ε α} {a : α} :
    x.toOption = some a ↔ x = .ok a := by
  cases x with
  | error e => exact ⟨nofun, nofun⟩
  | ok b =>
      show some b = some a ↔ _
      rw [Option.some.injEq, Except.ok.injEq]

section

variable {ε α α' β γ : Type}

theorem mapM_cons_eq_ok {f : α → Except ε β} {a : α} {items : List α} {bs : List β} :
    (a :: items).mapM f = .ok bs ↔
      ∃ b, f a = .ok b ∧ ∃ rest, items.mapM f = .ok rest ∧ bs = b :: rest := by
  rw [List.mapM_cons, bind_eq_ok]
  constructor
  · rintro ⟨b, hb, h⟩
    obtain ⟨rest, hrest, h⟩ := bind_eq_ok.mp h
    cases h
    exact ⟨b, hb, rest, hrest, rfl⟩
  · rintro ⟨b, hb, rest, hrest, rfl⟩
    exact ⟨b, hb, bind_eq_ok.mpr ⟨rest, hrest, rfl⟩⟩

theorem mapM_eq_ok_cons {f : α → Except ε β} {items : List α} {b : β} {rest : List β} :
    items.mapM f = .ok (b :: rest) ↔
      ∃ a tail, f a = .ok b ∧ tail.mapM f = .ok rest ∧ items = a :: tail := by
  constructor
  · intro h
    cases items with
    | nil => cases h
    | cons a tail =>
        obtain ⟨_, hb, _, hrest, heq⟩ := mapM_cons_eq_ok.mp h
        cases heq
        exact ⟨a, tail, hb, hrest, rfl⟩
  · rintro ⟨a, tail, hb, hrest, rfl⟩
    exact mapM_cons_eq_ok.mpr ⟨b, hb, rest, hrest, rfl⟩

theorem mapM_forall₂ {S : α → α' → Prop} {R : β → γ → Prop} {f : α → Except ε β}
    {g : α' → Except ε γ} (hstep : ∀ a a' b c, S a a' → f a = .ok b → g a' = .ok c → R b c)
    {items : List α} {items' : List α'} (hitems : List.Forall₂ S items items') {bs : List β}
    {cs : List γ} (hf : items.mapM f = .ok bs) (hg : items'.mapM g = .ok cs) :
    List.Forall₂ R bs cs := by
  induction hitems generalizing bs cs with
  | nil =>
      cases hf
      cases hg
      exact .nil
  | cons hS _ ih =>
      obtain ⟨b, hb, bs, hbs, rfl⟩ := mapM_cons_eq_ok.mp hf
      obtain ⟨c, hc, cs, hcs, rfl⟩ := mapM_cons_eq_ok.mp hg
      exact .cons (hstep _ _ b c hS hb hc) (ih hbs hcs)

theorem mapM_forall₂_same {R : β → γ → Prop} {f : α → Except ε β} {g : α → Except ε γ}
    {items : List α} (hstep : ∀ a ∈ items, ∀ b c, f a = .ok b → g a = .ok c → R b c)
    {bs : List β} {cs : List γ} (hf : items.mapM f = .ok bs) (hg : items.mapM g = .ok cs) :
    List.Forall₂ R bs cs := by
  have hitems : List.Forall₂ (fun a a' => a' = a ∧ a ∈ items) items items :=
    List.forall₂_same.mpr fun a ha => ⟨rfl, ha⟩
  apply mapM_forall₂ _ hitems hf hg
  rintro a a' b c ⟨heq, ha⟩ hb hc
  rw [heq] at hc
  exact hstep a ha b c hb hc

/-- What each result keeps of its item, all results keep. -/
theorem map_mapM {f : α → Except ε β} {p : α → γ} {q : β → γ}
    (hstep : ∀ a b, f a = .ok b → q b = p a) {items : List α} {bs : List β}
    (h : items.mapM f = .ok bs) : bs.map q = items.map p := by
  induction items generalizing bs with
  | nil =>
      cases h
      rfl
  | cons a items ih =>
      obtain ⟨b, hb, rest, hrest, rfl⟩ := mapM_cons_eq_ok.mp h
      rw [List.map_cons, List.map_cons, hstep a b hb, ih hrest]

/-- What the results of two computations agree on, item by item. -/
theorem map_mapM_same {δ : Type} {f : α → Except ε β} {g : α → Except ε γ} {p : β → δ} {q : γ → δ}
    (hstep : ∀ a b c, f a = .ok b → g a = .ok c → p b = q c) {items : List α} {bs : List β}
    {cs : List γ} (hf : items.mapM f = .ok bs) (hg : items.mapM g = .ok cs) :
    bs.map p = cs.map q := by
  induction items generalizing bs cs with
  | nil =>
      cases hf
      cases hg
      rfl
  | cons a items ih =>
      obtain ⟨b, hb, bs, hbs, rfl⟩ := mapM_cons_eq_ok.mp hf
      obtain ⟨c, hc, cs, hcs, rfl⟩ := mapM_cons_eq_ok.mp hg
      rw [List.map_cons, List.map_cons, hstep a b c hb hc, ih hbs hcs]

theorem length_mapM {f : α → Except ε β} {items : List α} {bs : List β}
    (h : items.mapM f = .ok bs) : bs.length = items.length := by
  have hmap := map_mapM (p := fun _ => ()) (q := fun _ => ()) (fun _ _ _ => rfl) h
  simpa using congrArg List.length hmap

/-- A computation that does on related items what another one does has its results. -/
theorem mapM_eq_ok_of_forall₂ {f : α → Except ε β} {g : α' → Except ε β} {items : List α}
    {items' : List α'}
    (h : List.Forall₂ (fun a a' => ∀ b, f a = .ok b → g a' = .ok b) items items') {bs : List β}
    (hf : items.mapM f = .ok bs) : items'.mapM g = .ok bs := by
  induction h generalizing bs with
  | nil =>
      cases hf
      rfl
  | cons hstep _ ih =>
      obtain ⟨b, hb, rest, hrest, rfl⟩ := mapM_cons_eq_ok.mp hf
      exact mapM_cons_eq_ok.mpr ⟨b, hstep b hb, rest, ih hrest, rfl⟩

theorem mapM_eq_ok_of {f g : α → Except ε β} {items : List α}
    (hstep : ∀ a ∈ items, ∀ b, f a = .ok b → g a = .ok b) {bs : List β}
    (h : items.mapM f = .ok bs) : items.mapM g = .ok bs :=
  mapM_eq_ok_of_forall₂ (List.forall₂_same.mpr hstep) h

theorem exists_mapM_eq_ok {f : α → Except ε β} {items : List α}
    (h : ∀ a ∈ items, ∃ b, f a = .ok b) : ∃ bs, items.mapM f = .ok bs := by
  induction items with
  | nil => exact ⟨[], rfl⟩
  | cons a items ih =>
      obtain ⟨b, hb⟩ := h a List.mem_cons_self
      obtain ⟨bs, hbs⟩ := ih fun other hother => h other (List.mem_cons_of_mem a hother)
      exact ⟨b :: bs, mapM_cons_eq_ok.mpr ⟨b, hb, bs, hbs, rfl⟩⟩

/-- The values of a dictionary, computed under their keys. -/
theorem lookup_mapM {κ : Type} [DecidableEq κ] {f : α → Except ε β} {d : List (κ × α)}
    {d' : List (κ × β)} (h : (d.mapM fun (k, a) => do return (k, ← f a)) = .ok d') (k : κ) :
    Option.Rel (fun a b => f a = .ok b) (d.lookup k) (d'.lookup k) := by
  induction d generalizing d' with
  | nil =>
      cases h
      exact .none
  | cons entry d ih =>
      obtain ⟨_, hentry, rest, hrest, rfl⟩ := mapM_cons_eq_ok.mp h
      obtain ⟨b, hb, hentry⟩ := bind_eq_ok.mp hentry
      cases hentry
      rw [List.lookup_cons, List.lookup_cons]
      cases k == entry.1 with
      | true => exact .some hb
      | false => exact ih hrest

/-- Items in another order have their results in another order. -/
theorem mapM_perm {f : α → Except ε β} {items items' : List α} (hperm : items.Perm items')
    {bs : List β} (h : items.mapM f = .ok bs) :
    ∃ bs', items'.mapM f = .ok bs' ∧ bs.Perm bs' := by
  induction hperm generalizing bs with
  | nil => exact ⟨bs, h, .refl bs⟩
  | cons a _ ih =>
      obtain ⟨b, hb, rest, hrest, rfl⟩ := mapM_cons_eq_ok.mp h
      obtain ⟨rest', hrest', hperm⟩ := ih hrest
      exact ⟨b :: rest', mapM_cons_eq_ok.mpr ⟨b, hb, rest', hrest', rfl⟩, hperm.cons b⟩
  | swap a a' items =>
      obtain ⟨b', hb', _, htail, rfl⟩ := mapM_cons_eq_ok.mp h
      obtain ⟨b, hb, rest, hrest, rfl⟩ := mapM_cons_eq_ok.mp htail
      have htail := mapM_cons_eq_ok.mpr ⟨b', hb', rest, hrest, rfl⟩
      exact ⟨b :: b' :: rest, mapM_cons_eq_ok.mpr ⟨b, hb, _, htail, rfl⟩, .swap b b' rest⟩
  | trans _ _ ihfirst ihsecond =>
      obtain ⟨middle, hmiddle, hperm⟩ := ihfirst h
      obtain ⟨bs', hbs', hperm'⟩ := ihsecond hmiddle
      exact ⟨bs', hbs', hperm.trans hperm'⟩

/-- Results in another order are those of the items in another order. -/
theorem mapM_perm_of_results {f : α → Except ε β} {items : List α} {bs bs' : List β}
    (hperm : bs.Perm bs') (h : items.mapM f = .ok bs) :
    ∃ items', items.Perm items' ∧ items'.mapM f = .ok bs' := by
  induction hperm generalizing items with
  | nil => exact ⟨items, .refl items, h⟩
  | cons b _ ih =>
      obtain ⟨a, tail, hb, htail, rfl⟩ := mapM_eq_ok_cons.mp h
      obtain ⟨tail', hperm, htail'⟩ := ih htail
      exact ⟨a :: tail', hperm.cons a, mapM_eq_ok_cons.mpr ⟨a, tail', hb, htail', rfl⟩⟩
  | swap b b' rest =>
      obtain ⟨a', _, hb', hrest, rfl⟩ := mapM_eq_ok_cons.mp h
      obtain ⟨a, tail, hb, htail, rfl⟩ := mapM_eq_ok_cons.mp hrest
      have hswapped := mapM_eq_ok_cons.mpr ⟨a', tail, hb', htail, rfl⟩
      exact ⟨a :: a' :: tail, .swap a a' tail, mapM_eq_ok_cons.mpr ⟨a, _, hb, hswapped, rfl⟩⟩
  | trans _ _ ihfirst ihsecond =>
      obtain ⟨middle, hperm, hmiddle⟩ := ihfirst h
      obtain ⟨items', hperm', hitems'⟩ := ihsecond hmiddle
      exact ⟨items', hperm.trans hperm', hitems'⟩

theorem mem_mapM {f : α → Except ε β} {items : List α} {bs : List β}
    (h : items.mapM f = .ok bs) :
    (∀ b ∈ bs, ∃ a ∈ items, f a = .ok b) ∧ ∀ a ∈ items, ∃ b ∈ bs, f a = .ok b := by
  induction items generalizing bs with
  | nil =>
      cases h
      exact ⟨nofun, nofun⟩
  | cons a items ih =>
      obtain ⟨b, hb, bs, hbs, rfl⟩ := mapM_cons_eq_ok.mp h
      obtain ⟨hresults, hitems⟩ := ih hbs
      constructor
      · intro other hother
        rcases List.mem_cons.mp hother with rfl | hother
        · exact ⟨a, List.mem_cons_self, hb⟩
        · obtain ⟨item, hitem, heq⟩ := hresults other hother
          exact ⟨item, List.mem_cons_of_mem a hitem, heq⟩
      · intro item hitem
        rcases List.mem_cons.mp hitem with rfl | hitem
        · exact ⟨b, List.mem_cons_self, hb⟩
        · obtain ⟨other, hother, heq⟩ := hitems item hitem
          exact ⟨other, List.mem_cons_of_mem b hother, heq⟩

end

end CryptoScanner.Library
