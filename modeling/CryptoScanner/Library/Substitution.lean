import Mathlib.Data.List.Infix

/-!
# Replacing the whole words that match a pattern

`re.search` and `re.sub` for a pattern between two `\b`.  A pattern lists its matches in the order
in which a backtracking engine tries them, since the first one is what a substitution replaces.
-/

namespace CryptoScanner.Library

variable {κ α : Type*}

/-! ## 1. Patterns -/

/-- A pattern over the classes `κ` of characters. -/
inductive Pattern (κ : Type*)
  | empty
  | one (k : κ)
  /-- `k+` -/
  | many (k : κ)
  | alt (r s : Pattern κ)
  | seq (r s : Pattern κ)
  deriving DecidableEq, Repr

/-- The members of the classes, and of `\w`. -/
structure ClassTable (κ α : Type*) where
  holds : κ → α → Bool
  isWord : α → Bool

/-- The non-empty prefixes of a text whose characters satisfy `p`, with what follows them; the
longest comes first. -/
def runs (p : α → Bool) : List α → List (List α × List α)
  | [] => []
  | c :: text =>
      -- greedy: a longer run is tried before a shorter one
      if p c then ((runs p text).map fun cut => (c :: cut.1, cut.2)) ++ [([c], text)] else []

theorem mem_runs {p : α → Bool} {mid after text : List α} :
    (mid, after) ∈ runs p text ↔ mid ++ after = text ∧ mid ≠ [] ∧ ∀ c ∈ mid, p c = true := by
  induction text generalizing mid with
  | nil =>
      rw [runs]
      constructor
      · intro h
        cases h
      · rintro ⟨htext, hmid, -⟩
        exact absurd (List.append_eq_nil_iff.mp htext).1 hmid
  | cons c text ih =>
      rw [runs]
      constructor
      · intro h
        split at h
        · rename_i hc
          rcases List.mem_append.mp h with h | h
          · obtain ⟨⟨mid', after'⟩, hcut, heq⟩ := List.mem_map.mp h
            cases heq
            have hrest := ih.mp hcut
            refine ⟨by rw [← hrest.1]; rfl, List.cons_ne_nil c mid', ?_⟩
            intro d hd
            rcases List.mem_cons.mp hd with rfl | hd
            · exact hc
            · exact hrest.2.2 d hd
          · cases List.mem_singleton.mp h
            exact ⟨rfl, List.cons_ne_nil c [], fun d hd => List.mem_singleton.mp hd ▸ hc⟩
        · cases h
      · rintro ⟨htext, hmid, hall⟩
        cases mid with
        | nil => exact absurd rfl hmid
        | cons d mid =>
            obtain ⟨rfl, hrest⟩ := List.cons_eq_cons.mp htext
            have hd : p d = true := hall d List.mem_cons_self
            rw [if_pos hd, List.mem_append]
            -- the shortest run comes last, the others are those of the tail with `c` in front
            by_cases hnil : mid = []
            · subst hnil
              right
              rw [← hrest]
              exact List.mem_singleton.mpr rfl
            · left
              have htail := ih.mpr ⟨hrest, hnil, fun e he => hall e (List.mem_cons_of_mem d he)⟩
              exact List.mem_map.mpr ⟨(mid, after), htail, rfl⟩

theorem getLast?_cons_or {c : α} {done : List α} {before : Option α} :
    (c :: done).getLast?.or before = done.getLast?.or (some c) := by
  rw [List.getLast?_cons]
  cases done.getLast? <;> rfl

namespace Pattern

def opt (r : Pattern κ) : Pattern κ := .alt r .empty

def literal (w : List κ) : Pattern κ := w.foldr (fun k r => .seq (.one k) r) .empty

def oneOf (r : Pattern κ) (rs : List (Pattern κ)) : Pattern κ := rs.foldl .alt r

variable (table : ClassTable κ α)

def Matches : Pattern κ → List α → Prop
  | .empty, mid => mid = []
  | .one k, mid => ∃ c, mid = [c] ∧ table.holds k c = true
  | .many k, mid => mid ≠ [] ∧ ∀ c ∈ mid, table.holds k c = true
  | .alt r s, mid => r.Matches mid ∨ s.Matches mid
  | .seq r s, mid => ∃ m₁ m₂, m₁ ++ m₂ = mid ∧ r.Matches m₁ ∧ s.Matches m₂

/-- The prefixes of a text that match, with what follows them, in the order of the engine. -/
def tries : Pattern κ → List α → List (List α × List α)
  | .empty, text => [([], text)]
  | .one _, [] => []
  | .one k, c :: text => if table.holds k c then [([c], text)] else []
  | .many k, text => runs (table.holds k) text
  | .alt r s, text => r.tries text ++ s.tries text
  | .seq r s, text =>
      (r.tries text).flatMap fun cut => (s.tries cut.2).map fun next => (cut.1 ++ next.1, next.2)

/-- `\b` between two characters; a text has none before its start and after its end. -/
def atEdge (before after : Option α) : Bool := before.any table.isWord != after.any table.isWord

/-- The match of `\br\b` that the engine takes at a position, with the character before it. -/
def wholeAt (r : Pattern κ) (before : Option α) (text : List α) : Option (List α) :=
  if atEdge table before text.head? then
    ((r.tries table text).find? fun cut =>
      atEdge table (cut.1.getLast?.or before) cut.2.head?).map Prod.fst
  else none

def searchFrom (r : Pattern κ) : (before : Option α) → List α → Bool
  | before, [] => (r.wholeAt table before []).isSome
  | before, c :: text => (r.wholeAt table before (c :: text)).isSome || searchFrom r (some c) text

/-- `re.search` for `\br\b` -/
def search (r : Pattern κ) (text : List α) : Bool := r.searchFrom table none text

/-- The first `skip` characters belong to a match, which is never empty. -/
def subFrom (r : Pattern κ) (word : List α) : (skip : Nat) → (before : Option α) → List α → List α
  | _, _, [] => []
  | skip + 1, _, c :: text => subFrom r word skip (some c) text
  | 0, before, c :: text =>
      match r.wholeAt table before (c :: text) with
      -- the search goes on behind the match, whose last character decides the next `\b`
      | some mid => word ++ subFrom r word (mid.length - 1) (some c) text
      | none => c :: subFrom r word 0 (some c) text

/-- `re.sub` for `\br\b` -/
def sub (r : Pattern κ) (word text : List α) : List α := r.subFrom table word 0 none text

/-! ## 2. Matches -/

variable {table}

theorem mem_tries {r : Pattern κ} {mid after text : List α} :
    (mid, after) ∈ r.tries table text ↔ mid ++ after = text ∧ r.Matches table mid := by
  induction r generalizing mid after text with
  | empty =>
      rw [tries]
      constructor
      · intro h
        cases List.mem_singleton.mp h
        exact ⟨rfl, rfl⟩
      · rintro ⟨htext, rfl⟩
        rw [← htext]
        exact List.mem_singleton.mpr rfl
  | one k =>
      cases text with
      | nil =>
          rw [tries]
          constructor
          · intro h
            cases h
          · rintro ⟨htext, c, rfl, -⟩
            cases htext
      | cons d text =>
          rw [tries]
          constructor
          · intro h
            split at h
            · rename_i hd
              cases List.mem_singleton.mp h
              exact ⟨rfl, d, rfl, hd⟩
            · cases h
          · rintro ⟨htext, c, rfl, hc⟩
            obtain ⟨rfl, rfl⟩ := List.cons_eq_cons.mp htext
            rw [if_pos hc]
            exact List.mem_singleton.mpr rfl
  | many k =>
      rw [tries]
      exact mem_runs
  | alt r s ihr ihs =>
      rw [tries, List.mem_append, ihr, ihs]
      exact and_or_left.symm
  | seq r s ihr ihs =>
      rw [tries, List.mem_flatMap]
      constructor
      · rintro ⟨⟨m₁, rest⟩, hfirst, hsecond⟩
        obtain ⟨⟨m₂, after'⟩, hnext, heq⟩ := List.mem_map.mp hsecond
        cases heq
        -- `s` is tried on what the match of `r` leaves
        have h₁ := ihr.mp hfirst
        have h₂ := ihs.mp hnext
        refine ⟨?_, m₁, m₂, rfl, h₁.2, h₂.2⟩
        rw [List.append_assoc, h₂.1]
        exact h₁.1
      · rintro ⟨htext, m₁, m₂, rfl, hr, hs⟩
        have h₁ : (m₁, m₂ ++ after) ∈ r.tries table text :=
          ihr.mpr ⟨by rw [← htext, List.append_assoc], hr⟩
        have h₂ : (m₂, after) ∈ s.tries table (m₂ ++ after) := ihs.mpr ⟨rfl, hs⟩
        exact ⟨(m₁, m₂ ++ after), h₁, List.mem_map.mpr ⟨(m₂, after), h₂, rfl⟩⟩

/-- A match with `before` in front of it and `after` behind it. -/
structure WholeMatch (table : ClassTable κ α) (r : Pattern κ) (before : Option α)
    (mid after : List α) : Prop where
  matches_mid : r.Matches table mid
  opens : atEdge table before (mid ++ after).head? = true
  closes : atEdge table (mid.getLast?.or before) after.head? = true

theorem wholeAt_eq_some {r : Pattern κ} {before : Option α} {mid text : List α}
    (h : r.wholeAt table before text = some mid) :
    ∃ after, mid ++ after = text ∧ WholeMatch table r before mid after := by
  unfold wholeAt at h
  split at h
  · rename_i hopen
    obtain ⟨⟨mid', after⟩, hfind, heq⟩ := Option.map_eq_some_iff.mp h
    cases heq
    have htry := mem_tries.mp (List.mem_of_find?_eq_some hfind)
    rw [← htry.1] at hopen
    have hclose := @List.find?_some _ _ _ _ hfind
    exact ⟨after, htry.1, htry.2, hopen, hclose⟩
  · cases h

theorem wholeAt_eq_none {r : Pattern κ} {before : Option α} {text : List α} :
    r.wholeAt table before text = none ↔
      ∀ mid after, mid ++ after = text → ¬ WholeMatch table r before mid after := by
  constructor
  · intro h mid after htext hmatch
    have hopen := hmatch.opens
    rw [htext] at hopen
    rw [wholeAt, if_pos hopen, Option.map_eq_none_iff, List.find?_eq_none] at h
    exact h (mid, after) (mem_tries.mpr ⟨htext, hmatch.matches_mid⟩) hmatch.closes
  · intro h
    cases hat : r.wholeAt table before text with
    | none => rfl
    | some mid =>
        obtain ⟨after, htext, hmatch⟩ := wholeAt_eq_some hat
        exact absurd hmatch (h mid after htext)

theorem searchFrom_eq_false {r : Pattern κ} {before : Option α} {text : List α} :
    r.searchFrom table before text = false ↔ ∀ done rest, done ++ rest = text →
      r.wholeAt table (done.getLast?.or before) rest = none := by
  induction text generalizing before with
  | nil =>
      rw [searchFrom, Option.isSome_eq_false_iff, Option.isNone_iff_eq_none]
      constructor
      · intro h done rest htext
        obtain ⟨rfl, rfl⟩ := List.append_eq_nil_iff.mp htext
        exact h
      · intro h
        exact h [] [] rfl
  | cons c text ih =>
      rw [searchFrom, Bool.or_eq_false_iff, Option.isSome_eq_false_iff, Option.isNone_iff_eq_none,
        ih]
      constructor
      · rintro ⟨hhere, hlater⟩ done rest htext
        -- a match at the start of the text, or one of the rest with `c` before it
        cases done with
        | nil =>
            rw [List.nil_append] at htext
            rw [htext]
            exact hhere
        | cons d done =>
            obtain ⟨rfl, hrest⟩ := List.cons_eq_cons.mp htext
            rw [getLast?_cons_or]
            exact hlater done rest hrest
      · intro h
        refine ⟨h [] (c :: text) rfl, fun done rest htext => ?_⟩
        rw [← @getLast?_cons_or _ c done before]
        exact h (c :: done) rest (by rw [List.cons_append, htext])

theorem matches_congr {table' : ClassTable κ α} {r : Pattern κ} {mid : List α}
    (hholds : ∀ c ∈ mid, ∀ k, table.holds k c = table'.holds k c) :
    r.Matches table mid ↔ r.Matches table' mid := by
  induction r generalizing mid with
  | empty => rfl
  | one k =>
      refine exists_congr fun c => and_congr_right fun hmid => ?_
      subst hmid
      rw [hholds c List.mem_cons_self]
  | many k =>
      refine and_congr_right fun _ => forall₂_congr fun c hc => ?_
      rw [hholds c hc]
  | alt r s ihr ihs => exact or_congr (ihr hholds) (ihs hholds)
  | seq r s ihr ihs =>
      refine exists_congr fun m₁ => exists_congr fun m₂ => and_congr_right fun hmid => ?_
      subst hmid
      have hr := @ihr m₁ fun c hc => hholds c (List.mem_append_left m₂ hc)
      have hs := @ihs m₂ fun c hc => hholds c (List.mem_append_right m₁ hc)
      exact and_congr hr hs

/-- A search looks up the characters of its text only. -/
theorem search_congr {table' : ClassTable κ α} {r : Pattern κ} {text : List α}
    (hholds : ∀ c ∈ text, ∀ k, table.holds k c = table'.holds k c)
    (hword : ∀ c ∈ text, table.isWord c = table'.isWord c) :
    r.search table text = r.search table' text := by
  have hedge : ∀ before after : Option α, (∀ c ∈ before, c ∈ text) → (∀ c ∈ after, c ∈ text) →
      atEdge table before after = atEdge table' before after := by
    intro before after hbefore hafter
    have hany : ∀ c? : Option α, (∀ c ∈ c?, c ∈ text) →
        c?.any table.isWord = c?.any table'.isWord := by
      intro c? hc
      cases c? with
      | none => rfl
      | some c => exact hword c (hc c rfl)
    rw [atEdge, hany before hbefore, hany after hafter]
    rfl
  -- both searches fail at the same places, for the same reason
  have hfalse : r.search table text = false ↔ r.search table' text = false := by
    rw [search, search, searchFrom_eq_false, searchFrom_eq_false]
    refine forall_congr' fun done => forall_congr' fun rest => forall_congr' fun htext => ?_
    rw [wholeAt_eq_none, wholeAt_eq_none]
    refine forall_congr' fun mid => forall_congr' fun after => forall_congr' fun hrest => ?_
    have hdone : ∀ c ∈ done, c ∈ text := fun c hc => htext ▸ List.mem_append_left rest hc
    have hsub : ∀ c ∈ mid ++ after, c ∈ text := fun c hc =>
      htext ▸ List.mem_append_right done (hrest ▸ hc)
    have hmid : ∀ c ∈ mid, c ∈ text := fun c hc => hsub c (List.mem_append_left after hc)
    have hbefore : ∀ c ∈ done.getLast?.or none, c ∈ text := by
      rw [Option.or_none]
      exact fun c hc => hdone c (List.mem_of_getLast? hc)
    have hopen := hedge _ (mid ++ after).head? hbefore fun c hc => hsub c (List.mem_of_mem_head? hc)
    have hclose := hedge (mid.getLast?.or (done.getLast?.or none)) after.head? (by
      intro c hc
      cases hlast : mid.getLast? with
      | none =>
          rw [hlast] at hc
          exact hbefore c hc
      | some d =>
          rw [hlast] at hc
          cases hc
          exact hmid c (List.mem_of_getLast? hlast)) fun c hc =>
        hsub c (List.mem_append_right mid (List.mem_of_mem_head? hc))
    have hmatches := @matches_congr _ _ table table' r mid fun c hc => hholds c (hmid c hc)
    apply not_congr
    constructor
    · intro h
      exact ⟨hmatches.mp h.matches_mid, hopen ▸ h.opens, hclose ▸ h.closes⟩
    · intro h
      exact ⟨hmatches.mpr h.matches_mid, hopen ▸ h.opens, hclose ▸ h.closes⟩
  rw [Bool.eq_iff_iff, ← not_iff_not, Bool.not_eq_true, Bool.not_eq_true]
  exact hfalse

/-! ## 3. The letters of a match -/

variable (table)

def nullable : Pattern κ → Bool
  | .empty => true
  | .one _ => false
  | .many _ => false
  | .alt r s => r.nullable || s.nullable
  | .seq r s => r.nullable && s.nullable

def first (c : α) : Pattern κ → Bool
  | .empty => false
  | .one k => table.holds k c
  | .many k => table.holds k c
  | .alt r s => r.first c || s.first c
  | .seq r s => r.first c || r.nullable && s.first c

def last (c : α) : Pattern κ → Bool
  | .empty => false
  | .one k => table.holds k c
  | .many k => table.holds k c
  | .alt r s => r.last c || s.last c
  | .seq r s => s.last c || s.nullable && r.last c

def pair (c d : α) : Pattern κ → Bool
  | .empty => false
  | .one _ => false
  | .many k => table.holds k c && table.holds k d
  | .alt r s => r.pair c d || s.pair c d
  | .seq r s => r.pair c d || s.pair c d || r.last table c && s.first table d

variable {table}

theorem nullable_of_matches {r : Pattern κ} (h : r.Matches table ([] : List α)) :
    r.nullable = true := by
  induction r with
  | empty => rfl
  | one k =>
      obtain ⟨c, hc, -⟩ := h
      cases hc
  | many k => exact absurd rfl h.1
  | alt r s ihr ihs =>
      rw [nullable, Bool.or_eq_true]
      exact h.imp ihr ihs
  | seq r s ihr ihs =>
      obtain ⟨m₁, m₂, hmid, hr, hs⟩ := h
      obtain ⟨rfl, rfl⟩ := List.append_eq_nil_iff.mp hmid
      rw [nullable, ihr hr, ihs hs]
      rfl

theorem first_of_matches {r : Pattern κ} {c : α} {mid : List α}
    (h : r.Matches table (c :: mid)) : r.first table c = true := by
  induction r generalizing mid with
  | empty => cases h
  | one k =>
      obtain ⟨d, hmid, hd⟩ := h
      cases hmid
      exact hd
  | many k => exact h.2 c List.mem_cons_self
  | alt r s ihr ihs =>
      rw [first, Bool.or_eq_true]
      exact h.imp ihr ihs
  | seq r s ihr ihs =>
      obtain ⟨m₁, m₂, hmid, hr, hs⟩ := h
      rw [first, Bool.or_eq_true, Bool.and_eq_true]
      -- the first character is of `r`, or of `s` where `r` matched nothing
      cases m₁ with
      | nil =>
          rw [List.nil_append] at hmid
          rw [hmid] at hs
          exact .inr ⟨nullable_of_matches hr, ihs hs⟩
      | cons d m₁ =>
          obtain ⟨rfl, -⟩ := List.cons_eq_cons.mp hmid
          exact .inl (ihr hr)

theorem first_literal_cons {k : κ} {w : List κ} {c : α} :
    (literal (k :: w)).first table c = table.holds k c := by
  rw [literal, List.foldr_cons, first, first, nullable, Bool.false_and, Bool.or_false]

theorem first_literal_seq {k : κ} {w : List κ} {r : Pattern κ} {c : α} :
    (seq (literal (k :: w)) r).first table c = table.holds k c := by
  rw [first, first_literal_cons]
  exact Bool.or_false _

theorem first_oneOf {r : Pattern κ} {rs : List (Pattern κ)} {c : α} :
    (oneOf r rs).first table c = (r :: rs).any fun s => s.first table c := by
  unfold oneOf
  induction rs generalizing r with
  | nil => exact (Bool.or_false _).symm
  | cons s rs ih =>
      rw [List.foldl_cons, ih]
      simp only [List.any_cons, first, Bool.or_assoc]

theorem last_of_matches {r : Pattern κ} {c : α} {mid : List α}
    (h : r.Matches table (mid ++ [c])) : r.last table c = true := by
  induction r generalizing mid with
  | empty => exact absurd (List.append_eq_nil_iff.mp h).2 (List.cons_ne_nil c [])
  | one k =>
      obtain ⟨d, hmid, hd⟩ := h
      have hc : c = d := by
        have hmem : c ∈ mid ++ [c] := List.mem_append_right mid (List.mem_singleton.mpr rfl)
        rw [hmid] at hmem
        exact List.mem_singleton.mp hmem
      rw [hc]
      exact hd
  | many k => exact h.2 c (List.mem_append_right mid (List.mem_singleton.mpr rfl))
  | alt r s ihr ihs =>
      rw [last, Bool.or_eq_true]
      exact h.imp ihr ihs
  | seq r s ihr ihs =>
      obtain ⟨m₁, m₂, hmid, hr, hs⟩ := h
      rw [last, Bool.or_eq_true, Bool.and_eq_true]
      -- the last character is of `s`, or of `r` where `s` matched nothing
      rcases List.eq_nil_or_concat' m₂ with rfl | ⟨m₃, d, rfl⟩
      · rw [List.append_nil] at hmid
        rw [hmid] at hr
        exact .inr ⟨nullable_of_matches hs, ihr hr⟩
      · rw [← List.append_assoc] at hmid
        have hd : d = c := List.singleton_inj.mp (List.append_inj_right' hmid rfl)
        rw [hd] at hs
        exact .inl (ihs hs)

theorem pair_of_matches {r : Pattern κ} {c d : α} {m n : List α}
    (h : r.Matches table (m ++ c :: d :: n)) : r.pair table c d = true := by
  induction r generalizing m n with
  | empty => exact absurd (List.append_eq_nil_iff.mp h).2 (List.cons_ne_nil c (d :: n))
  | one k =>
      obtain ⟨e, hmid, -⟩ := h
      have hlength := congrArg List.length hmid
      simp only [List.length_append, List.length_cons, List.length_nil] at hlength
      omega
  | many k =>
      have hc := h.2 c (List.mem_append_right m List.mem_cons_self)
      have hd := h.2 d (List.mem_append_right m (List.mem_cons_of_mem c List.mem_cons_self))
      rw [pair, hc, hd]
      rfl
  | alt r s ihr ihs =>
      rw [pair, Bool.or_eq_true]
      exact h.imp ihr ihs
  | seq r s ihr ihs =>
      obtain ⟨m₁, m₂, hmid, hr, hs⟩ := h
      rw [pair, Bool.or_eq_true, Bool.or_eq_true, Bool.and_eq_true]
      -- where the cut falls: behind both characters, before them, or between them
      rcases List.append_eq_append_iff.mp hmid with ⟨u, hu, hrest⟩ | ⟨u, hu, hrest⟩
      · rw [hrest] at hs
        exact .inl (.inr (ihs hs))
      · cases u with
        | nil =>
            rw [List.nil_append] at hrest
            rw [← hrest] at hs
            exact .inl (.inr (@ihs [] n hs))
        | cons e u =>
            obtain ⟨rfl, htail⟩ := List.cons_eq_cons.mp hrest
            cases u with
            | nil =>
                have hnext : d :: n = m₂ := htail
                rw [hu] at hr
                rw [← hnext] at hs
                exact .inr ⟨last_of_matches hr, first_of_matches hs⟩
            | cons f u =>
                obtain ⟨rfl, -⟩ := List.cons_eq_cons.mp htail
                rw [hu] at hr
                exact .inl (.inl (ihr hr))

/-! ## 4. After a substitution -/

/-- A match starts with a word character, and no match can hold a character of the word, wherever
the word is put. -/
structure Inert (table : ClassTable κ α) (r : Pattern κ) (word : List α) : Prop where
  not_nullable : r.nullable = false
  first_isWord : ∀ c, r.first table c = true → table.isWord c = true
  -- a match that comes from the left would end with the first character or go on with the second
  entry : ∃ a b rest, word = a :: b :: rest ∧ table.isWord a = true ∧ r.last table a = false ∧
    r.pair table a b = false
  inside : ∀ u c v, u ++ c :: v = word → r.first table c = true → u.getLast?.any table.isWord = true
  exit_isWord : word.getLast?.any table.isWord = true

namespace Inert

variable {r : Pattern κ} {word : List α}

theorem mid_eq_cons (hinert : Inert table r word) {before : Option α} {mid after : List α}
    (h : WholeMatch table r before mid after) : ∃ c m, mid = c :: m ∧ r.first table c = true := by
  cases mid with
  | nil =>
      have hnull := nullable_of_matches h.matches_mid
      rw [hinert.not_nullable] at hnull
      cases hnull
  | cons c m => exact ⟨c, m, rfl, first_of_matches h.matches_mid⟩

/-- A match does not start behind a word character. -/
theorem not_wholeMatch_of_isWord (hinert : Inert table r word) {before : Option α}
    (hbefore : before.any table.isWord = true) (mid after : List α) :
    ¬ WholeMatch table r before mid after := by
  intro h
  obtain ⟨c, m, rfl, hfirst⟩ := hinert.mid_eq_cons h
  have hopen := h.opens
  rw [atEdge, hbefore, List.cons_append, List.head?_cons, Option.any_some,
    hinert.first_isWord c hfirst] at hopen
  exact absurd hopen (by decide)

theorem wholeAt_nil (hinert : Inert table r word) (before : Option α) :
    r.wholeAt table before [] = none := by
  rw [wholeAt_eq_none]
  intro mid after htext h
  obtain ⟨c, m, rfl, -⟩ := hinert.mid_eq_cons h
  cases htext

theorem searchFrom_append (hinert : Inert table r word) {shown : Option α} {out : List α}
    (hout : r.searchFrom table word.getLast? out = false) :
    r.searchFrom table shown (word ++ out) = false := by
  obtain ⟨a, b, rest, hword, -⟩ := hinert.entry
  rw [searchFrom_eq_false] at hout ⊢
  intro done tail htext
  -- the place is in the word or right behind it, or it is in `out`
  rcases List.append_eq_append_iff.mp htext with ⟨v, hv, htail⟩ | ⟨w, hdone, hrest⟩
  · cases v with
    | nil =>
        -- right behind the word
        rw [List.append_nil] at hv
        have hlast : done.getLast?.or shown = word.getLast?.or none := by
          rw [← hv, hword, List.getLast?_cons]
          rfl
        rw [List.nil_append] at htail
        rw [htail, hlast, Option.or_none]
        exact hout [] out rfl
    | cons c v =>
        rw [wholeAt_eq_none]
        intro mid after hmid h
        have hfirst : r.first table c = true := by
          obtain ⟨d, m, rfl, hd⟩ := hinert.mid_eq_cons h
          rw [htail] at hmid
          obtain ⟨rfl, -⟩ := List.cons_eq_cons.mp hmid
          exact hd
        -- a match that starts in the word has a word character before it, so `\b` fails
        have hinside := hinert.inside done c v hv.symm hfirst
        have hshown : (done.getLast?.or shown).any table.isWord = true := by
          cases hlast : done.getLast? with
          | none =>
              rw [hlast] at hinside
              cases hinside
          | some d =>
              rw [hlast] at hinside
              exact hinside
        exact hinert.not_wholeMatch_of_isWord hshown mid after h
  · have hlater := hout w tail hrest.symm
    have hlast : done.getLast?.or shown = w.getLast?.or word.getLast? := by
      rw [hdone, List.getLast?_append, Option.or_assoc, hword, List.getLast?_cons]
      rfl
    rw [hlast]
    exact hlater

/-- What a substitution leaves in front of the first match, and the word after it. -/
theorem subFrom_split (hinert : Inert table r word) (before : Option α) (text : List α) :
    r.subFrom table word 0 before text = text ∨ ∃ gap c rest out, text = gap ++ c :: rest ∧
      r.first table c = true ∧ r.subFrom table word 0 before text = gap ++ (word ++ out) := by
  induction text generalizing before with
  | nil => exact .inl rfl
  | cons c text ih =>
      rw [subFrom]
      cases hat : r.wholeAt table before (c :: text) with
      | some mid =>
          obtain ⟨after, htext, hmatch⟩ := wholeAt_eq_some hat
          obtain ⟨d, m, rfl, hfirst⟩ := hinert.mid_eq_cons hmatch
          obtain ⟨rfl, -⟩ := List.cons_eq_cons.mp htext
          -- the first match is here, with nothing copied before it
          exact .inr ⟨[], d, text, _, rfl, hfirst, rfl⟩
      | none =>
          dsimp only
          rcases ih (some c) with hsame | ⟨gap, d, rest, out, htext, hfirst, hout⟩
          · rw [hsame]
            exact .inl rfl
          · rw [hout]
            exact .inr ⟨c :: gap, d, rest, out, by rw [htext]; rfl, hfirst, rfl⟩

/-- A match at a place that the substitution copied was one before. -/
theorem wholeAt_copied (hinert : Inert table r word) {before shown : Option α} {c : α}
    {text : List α} (hshown : shown.any table.isWord = before.any table.isWord)
    (hat : r.wholeAt table before (c :: text) = none) :
    r.wholeAt table shown (c :: r.subFrom table word 0 (some c) text) = none := by
  rw [wholeAt_eq_none] at hat ⊢
  intro mid after hmid h
  obtain ⟨d, m, rfl, hfirst⟩ := hinert.mid_eq_cons h
  obtain ⟨rfl, hrest⟩ := List.cons_eq_cons.mp hmid
  -- the same match in the text, once what follows it there is known
  have hsame : ∀ after', m ++ after' = text →
      after'.head?.any table.isWord = after.head?.any table.isWord → False := by
    intro after' htext hnext
    have hopen := h.opens
    have hclose := h.closes
    rw [atEdge, List.cons_append, List.head?_cons] at hopen
    rw [atEdge, getLast?_cons_or] at hclose
    refine hat (d :: m) after' (by rw [← htext]; rfl) ⟨h.matches_mid, ?_, ?_⟩
    · rw [atEdge, ← hshown]
      exact hopen
    · rw [atEdge, getLast?_cons_or, hnext]
      exact hclose
  obtain ⟨a, b, tail, hword, ha, hlast, hpair⟩ := hinert.entry
  -- what follows is copied as a whole, or up to the first replacement
  rcases hinert.subFrom_split (some d) text with hout | ⟨gap, e, rest, out, htext, hfirst', hout⟩
  · rw [hout] at hrest
    exact hsame after hrest rfl
  · rw [hout] at hrest
    rcases List.append_eq_append_iff.mp hrest with ⟨w, hgap, hafter⟩ | ⟨w, hm, hcross⟩
    · -- the match ends before the word
      refine hsame (w ++ e :: rest) (by rw [htext, hgap, List.append_assoc]) ?_
      rw [hafter]
      cases w with
      | nil =>
          rw [hword]
          show table.isWord e = table.isWord a
          rw [ha, hinert.first_isWord e hfirst']
      | cons f w => rfl
    · -- the match holds the start of the word
      rw [hword] at hcross
      cases w with
      | nil =>
          refine hsame (e :: rest) (by rw [htext, hm, List.append_nil]) ?_
          rw [List.nil_append] at hcross
          rw [← hcross]
          show table.isWord e = table.isWord a
          rw [ha, hinert.first_isWord e hfirst']
      | cons f w =>
          obtain ⟨rfl, hnext⟩ := List.cons_eq_cons.mp hcross
          have hmatch := h.matches_mid
          cases w with
          | nil =>
              rw [hm] at hmatch
              -- it ends with the first character of the word
              have htrue := @last_of_matches _ _ table r a (d :: gap) hmatch
              rw [hlast] at htrue
              cases htrue
          | cons g w =>
              obtain ⟨rfl, -⟩ := List.cons_eq_cons.mp hnext
              rw [hm] at hmatch
              -- it goes on with the second one
              have htrue := @pair_of_matches _ _ table r a b (d :: gap) w hmatch
              rw [hpair] at htrue
              cases htrue

/-- No match is left behind the character `shown`, which stands where `before` stood. -/
theorem searchFrom_subFrom (hinert : Inert table r word) (text : List α) (skip : Nat)
    (before shown : Option α)
    (hshown : shown.any table.isWord = true ∨
      skip = 0 ∧ shown.any table.isWord = before.any table.isWord) :
    r.searchFrom table shown (r.subFrom table word skip before text) = false := by
  -- `shown` is the last character put out: the word's inside a match, else the one just copied
  induction text generalizing skip before shown with
  | nil =>
      rw [subFrom, searchFrom, hinert.wholeAt_nil]
      rfl
  | cons c text ih =>
      cases skip with
      | succ skip =>
          have hword : shown.any table.isWord = true := by
            rcases hshown with h | ⟨h, -⟩
            · exact h
            · cases h
          exact ih skip (some c) shown (.inl hword)
      | zero =>
          rw [subFrom]
          cases hat : r.wholeAt table before (c :: text) with
          | some mid =>
              -- the word is put out, and the rest of the match is skipped
              apply hinert.searchFrom_append
              exact ih (mid.length - 1) (some c) word.getLast? (.inl hinert.exit_isWord)
          | none =>
              have hlater := ih 0 (some c) (some c) (.inr ⟨rfl, rfl⟩)
              have hhere : r.wholeAt table shown
                  (c :: r.subFrom table word 0 (some c) text) = none := by
                rcases hshown with hword | ⟨-, hsame⟩
                · rw [wholeAt_eq_none]
                  exact fun mid after _ => hinert.not_wholeMatch_of_isWord hword mid after
                · exact hinert.wholeAt_copied hsame hat
              show r.searchFrom table shown (c :: r.subFrom table word 0 (some c) text) = false
              rw [searchFrom, hhere, hlater]
              rfl

/-- A substitution by an inert word leaves no match. -/
theorem search_sub (hinert : Inert table r word) (text : List α) :
    r.search table (r.sub table word text) = false :=
  hinert.searchFrom_subFrom text 0 none none (.inr ⟨rfl, rfl⟩)

end Inert

end Pattern

end CryptoScanner.Library
