import Mathlib.Data.List.DropRight
import Mathlib.Data.List.Infix

/-!
# Searching a text for a regular expression

The fragment with literals, alternatives, sequences, optional parts, `.*` and `\b`.  A match sees
the text before and after it, because a word boundary looks at both sides of its position.
-/

namespace CryptoScanner.Library

variable {α : Type*}

/-! ## 1. Tokens in a text -/

theorem prefix_of_prefix_append_sep {sep : α} {w s t : List α} (hsep : sep ∉ w)
    (h : w <+: s ++ sep :: t) : w <+: s := by
  induction w generalizing s with
  | nil => exact List.nil_prefix
  | cons c w ih =>
      cases s with
      | nil =>
          have hc : c = sep := (List.cons_prefix_cons.mp h).1
          exact absurd (hc ▸ List.mem_cons_self) hsep
      | cons d s =>
          have hcons := List.cons_prefix_cons.mp h
          have htail : w <+: s := ih (fun hmem => hsep (List.mem_cons_of_mem c hmem)) hcons.2
          exact List.cons_prefix_cons.mpr ⟨hcons.1, htail⟩

/-- A token without the separator lies on one side of it. -/
theorem infix_append_sep {sep : α} {w s t : List α} (hsep : sep ∉ w) (hw : w ≠ []) :
    w <:+: s ++ sep :: t ↔ w <:+: s ∨ w <:+: t := by
  induction s with
  | nil =>
      rw [List.nil_append, List.infix_cons_iff, List.infix_nil]
      have hno : ¬ w <+: sep :: t := fun h =>
        hw (List.prefix_nil.mp (prefix_of_prefix_append_sep (s := []) hsep h))
      simp only [hno, hw, false_or]
  | cons c s ih =>
      have hhead : w <+: c :: (s ++ sep :: t) ↔ w <+: c :: s := by
        constructor
        · exact prefix_of_prefix_append_sep (s := c :: s) hsep
        · exact fun h => h.trans (List.prefix_append (c :: s) (sep :: t))
      rw [List.cons_append, List.infix_cons_iff, ih, hhead, List.infix_cons_iff, or_assoc]

/-- A token without any of a run of separators lies on one side of the run. -/
theorem infix_append_seps {seps w s t : List α} (hseps : ∀ c ∈ seps, c ∉ w) (hne : seps ≠ [])
    (hw : w ≠ []) : w <:+: s ++ seps ++ t ↔ w <:+: s ∨ w <:+: t := by
  induction seps generalizing s with
  | nil => exact absurd rfl hne
  | cons sep seps ih =>
      have hsep : sep ∉ w := hseps sep List.mem_cons_self
      have hrest : ∀ c ∈ seps, c ∉ w := fun c hc => hseps c (List.mem_cons_of_mem sep hc)
      rw [List.append_assoc, List.cons_append, infix_append_sep hsep hw]
      by_cases hlast : seps = []
      · rw [hlast, List.nil_append]
      · have hinner := @ih [] hrest hlast
        rw [List.nil_append, List.infix_nil, or_iff_right hw] at hinner
        rw [hinner]

/-- A token does not cross a border next to an element that it does not have. -/
theorem infix_append_of_border {w s t : List α}
    (hborder : (∀ c ∈ s.getLast?, c ∉ w) ∨ ∀ c ∈ t.head?, c ∉ w) (hw : w ≠ []) :
    w <:+: s ++ t ↔ w <:+: s ∨ w <:+: t := by
  constructor
  · intro h
    rcases hborder with hlast | hhead
    · rcases List.eq_nil_or_concat' s with rfl | ⟨s, c, rfl⟩
      · exact .inr h
      · have hc : c ∉ w := hlast c (by simp)
        rw [List.append_assoc, List.cons_append, List.nil_append,
          infix_append_sep hc hw] at h
        exact h.imp (fun h => h.trans (List.prefix_append _ _).isInfix) id
    · cases t with
      | nil => exact .inl (List.append_nil s ▸ h)
      | cons c t =>
          have hc : c ∉ w := hhead c rfl
          rw [infix_append_sep hc hw] at h
          exact h.imp id fun h => h.trans (List.suffix_cons c t).isInfix
  · rintro (h | h)
    · exact h.trans (List.prefix_append s t).isInfix
    · exact h.trans (List.suffix_append s t).isInfix

/-- Cutting elements off the front of a text keeps every token without such an element. -/
theorem infix_dropWhile {p : α → Bool} {w s : List α} (hp : ∀ c ∈ w, p c = false) (hw : w ≠ []) :
    w <:+: s.dropWhile p ↔ w <:+: s := by
  induction s with
  | nil => rfl
  | cons c s ih =>
      cases hc : p c with
      | false => rw [List.dropWhile_cons_of_neg (by simp [hc])]
      | true =>
          rw [List.dropWhile_cons_of_pos hc, ih, List.infix_cons_iff]
          have hno : ¬ w <+: c :: s := by
            intro h
            cases w with
            | nil => exact hw rfl
            | cons d w =>
                have hd : d = c := (List.cons_prefix_cons.mp h).1
                have hfalse := hp d List.mem_cons_self
                rw [hd, hc] at hfalse
                cases hfalse
          simp only [hno, false_or]

/-! ## 2. Syntax and meaning -/

inductive Regex (α : Type*)
  | text (w : List α)
  | alt (r s : Regex α)
  | seq (r s : Regex α)
  | opt (r : Regex α)
  /-- `.*` -/
  | dots
  /-- `\b` -/
  | edge
  deriving DecidableEq, Repr

/-- The two classes of characters that a search asks for: `\w`, and the line breaks that a dot does
not match. -/
structure CharClasses (α : Type*) where
  isWord : α → Bool
  isBreak : α → Bool

def cuts : List α → List (List α × List α)
  | [] => [([], [])]
  | c :: s => ([], c :: s) :: (cuts s).map fun p => (c :: p.1, p.2)

theorem mem_cuts {s a b : List α} : (a, b) ∈ cuts s ↔ a ++ b = s := by
  induction s generalizing a with
  | nil => simp [cuts]
  | cons c s ih =>
      rw [cuts, List.mem_cons, List.mem_map]
      constructor
      · rintro (h | ⟨p, hp, h⟩)
        · cases h
          rfl
        · cases h
          rw [List.cons_append, ih.mp hp]
      · intro h
        cases a with
        | nil => exact .inl (by rw [← h]; rfl)
        | cons d a =>
            injection h with hd hs
            subst hd
            exact .inr ⟨(a, b), ih.mpr hs, rfl⟩

namespace Regex

variable (cls : CharClasses α)

/-- The part `mid` of the text `before ++ mid ++ after` matches. -/
def Matches : Regex α → (before mid after : List α) → Prop
  | .text w, _, mid, _ => mid = w
  | .alt r s, before, mid, after => r.Matches before mid after ∨ s.Matches before mid after
  | .seq r s, before, mid, after =>
      ∃ p ∈ cuts mid, r.Matches before p.1 (p.2 ++ after) ∧ s.Matches (before ++ p.1) p.2 after
  | .opt r, before, mid, after => mid = [] ∨ r.Matches before mid after
  | .dots, _, mid, _ => ∀ c ∈ mid, cls.isBreak c = false
  | .edge, before, mid, after =>
      mid = [] ∧ before.getLast?.any cls.isWord ≠ after.head?.any cls.isWord

def Search (r : Regex α) (s : List α) : Prop :=
  ∃ p ∈ cuts s, ∃ q ∈ cuts p.2, r.Matches cls p.1 q.1 q.2

instance decidableMatches [DecidableEq α] :
    ∀ (r : Regex α) (before mid after : List α), Decidable (r.Matches cls before mid after)
  | .text w, _, mid, _ => inferInstanceAs (Decidable (mid = w))
  | .alt r s, before, mid, after =>
      haveI := decidableMatches r before mid after
      haveI := decidableMatches s before mid after
      inferInstanceAs (Decidable (_ ∨ _))
  | .seq r s, before, mid, after =>
      haveI : ∀ p : List α × List α, Decidable
          (r.Matches cls before p.1 (p.2 ++ after) ∧ s.Matches cls (before ++ p.1) p.2 after) :=
        fun p =>
          haveI := decidableMatches r before p.1 (p.2 ++ after)
          haveI := decidableMatches s (before ++ p.1) p.2 after
          inferInstanceAs (Decidable (_ ∧ _))
      inferInstanceAs (Decidable (∃ p ∈ cuts mid, _))
  | .opt r, before, mid, after =>
      haveI := decidableMatches r before mid after
      inferInstanceAs (Decidable (_ ∨ _))
  | .dots, _, mid, _ => inferInstanceAs (Decidable (∀ c ∈ mid, _))
  | .edge, _, _, _ => inferInstanceAs (Decidable (_ ∧ _))

instance [DecidableEq α] (r : Regex α) (s : List α) : Decidable (r.Search cls s) :=
  inferInstanceAs (Decidable (∃ p ∈ cuts s, ∃ q ∈ cuts p.2, _))

def oneOf (w : List α) (ws : List (List α)) : Regex α :=
  ws.foldl (fun r v => .alt r (.text v)) (.text w)

/-- `\br\b` -/
def whole (r : Regex α) : Regex α := .seq .edge (.seq r .edge)

/-! ## 3. Searching -/

variable {cls}

theorem search_iff {r : Regex α} {s : List α} :
    r.Search cls s ↔ ∃ before mid after, before ++ mid ++ after = s ∧
      r.Matches cls before mid after := by
  constructor
  · rintro ⟨⟨before, rest⟩, hrest, ⟨mid, after⟩, hmid, h⟩
    have htext : before ++ mid ++ after = s := by
      rw [List.append_assoc, mem_cuts.mp hmid]
      exact mem_cuts.mp hrest
    exact ⟨before, mid, after, htext, h⟩
  · rintro ⟨before, mid, after, htext, h⟩
    have hrest : (before, mid ++ after) ∈ cuts s := mem_cuts.mpr (by rw [← htext, List.append_assoc])
    exact ⟨(before, mid ++ after), hrest, (mid, after), mem_cuts.mpr rfl, h⟩

theorem matches_seq {r s : Regex α} {before mid after : List α} :
    (seq r s).Matches cls before mid after ↔ ∃ m₁ m₂, m₁ ++ m₂ = mid ∧
      r.Matches cls before m₁ (m₂ ++ after) ∧ s.Matches cls (before ++ m₁) m₂ after := by
  constructor
  · rintro ⟨⟨m₁, m₂⟩, hcut, h⟩
    exact ⟨m₁, m₂, mem_cuts.mp hcut, h⟩
  · rintro ⟨m₁, m₂, hcut, h⟩
    exact ⟨(m₁, m₂), mem_cuts.mpr hcut, h⟩

@[simp] theorem search_text {w s : List α} : (text w).Search cls s ↔ w <:+: s := by
  rw [search_iff]
  constructor
  · rintro ⟨before, mid, after, htext, rfl⟩
    exact ⟨before, after, htext⟩
  · rintro ⟨before, after, htext⟩
    exact ⟨before, w, after, htext, rfl⟩

@[simp] theorem search_alt {r s : Regex α} {t : List α} :
    (alt r s).Search cls t ↔ r.Search cls t ∨ s.Search cls t := by
  simp only [search_iff]
  constructor
  · rintro ⟨before, mid, after, htext, h | h⟩
    · exact .inl ⟨before, mid, after, htext, h⟩
    · exact .inr ⟨before, mid, after, htext, h⟩
  · rintro (⟨before, mid, after, htext, h⟩ | ⟨before, mid, after, htext, h⟩)
    · exact ⟨before, mid, after, htext, .inl h⟩
    · exact ⟨before, mid, after, htext, .inr h⟩

/-- The first part of a sequence is found wherever the sequence is. -/
theorem search_of_search_seq {r s : Regex α} {t : List α} (h : (seq r s).Search cls t) :
    r.Search cls t := by
  obtain ⟨before, mid, after, htext, hseq⟩ := search_iff.mp h
  obtain ⟨m₁, m₂, hmid, hr, -⟩ := matches_seq.mp hseq
  have hcut : before ++ m₁ ++ (m₂ ++ after) = t := by
    rw [← htext, ← hmid]
    simp only [List.append_assoc]
  exact search_iff.mpr ⟨before, m₁, m₂ ++ after, hcut, hr⟩

/-- A literal with one optional element in it is one of two literals. -/
theorem search_opt_text {u v w s : List α} :
    (seq (text u) (seq (opt (text v)) (text w))).Search cls s ↔
      u ++ w <:+: s ∨ u ++ v ++ w <:+: s := by
  rw [search_iff]
  constructor
  · rintro ⟨before, mid, after, htext, h⟩
    obtain ⟨m₁, m₂, hmid, hu, hrest⟩ := matches_seq.mp h
    obtain ⟨m₃, m₄, hmid₂, hv, hw⟩ := matches_seq.mp hrest
    have hm₁ : m₁ = u := hu
    have hm₄ : m₄ = w := hw
    subst hm₁ hm₄ hmid₂ hmid
    rcases hv with hnil | hsome
    · have hm₃ : m₃ = [] := hnil
      subst hm₃
      exact .inl ⟨before, after, by simpa using htext⟩
    · have hm₃ : m₃ = v := hsome
      subst hm₃
      exact .inr ⟨before, after, by simpa using htext⟩
  · have hfound : ∀ m : List α, (opt (text v)).Matches cls [] m [] → ∀ before after,
        before ++ (u ++ m ++ w) ++ after = s →
        ∃ before mid after, before ++ mid ++ after = s ∧
          (seq (text u) (seq (opt (text v)) (text w))).Matches cls before mid after := by
      intro m hm before after htext
      refine ⟨before, u ++ (m ++ w), after, by simpa using htext, matches_seq.mpr
        ⟨u, m ++ w, rfl, rfl, matches_seq.mpr ⟨m, w, rfl, hm, rfl⟩⟩⟩
    rintro (⟨before, after, htext⟩ | ⟨before, after, htext⟩)
    · exact hfound [] (.inl rfl) before after (by simpa using htext)
    · exact hfound v (.inr rfl) before after (by simpa using htext)

theorem search_oneOf {w : List α} {ws : List (List α)} {s : List α} :
    (oneOf w ws).Search cls s ↔ ∃ v ∈ w :: ws, v <:+: s := by
  unfold oneOf
  have hfold : ∀ (r : Regex α), (ws.foldl (fun r v => .alt r (.text v)) r).Search cls s ↔
      r.Search cls s ∨ ∃ v ∈ ws, v <:+: s := by
    induction ws with
    | nil => simp
    | cons v ws ih =>
        intro r
        rw [List.foldl_cons, ih, search_alt, search_text, or_assoc]
        simp only [List.mem_cons, exists_eq_or_imp]
  rw [hfold, search_text]
  simp only [List.mem_cons, exists_eq_or_imp]

/-- A match depends only on the classes of the characters in the text. -/
theorem matches_congr {cls' : CharClasses α} {r : Regex α} {before mid after : List α}
    (hcls : ∀ c ∈ before ++ mid ++ after,
      cls.isWord c = cls'.isWord c ∧ cls.isBreak c = cls'.isBreak c) :
    r.Matches cls before mid after ↔ r.Matches cls' before mid after := by
  induction r generalizing before mid after with
  | text w => rfl
  | alt r s ihr ihs => exact or_congr (ihr hcls) (ihs hcls)
  | seq r s ihr ihs =>
      rw [matches_seq, matches_seq]
      refine exists_congr fun m₁ => exists_congr fun m₂ => and_congr_right fun hmid => ?_
      have hr := @ihr before m₁ (m₂ ++ after) (by
        rw [← List.append_assoc, List.append_assoc before, hmid]
        exact hcls)
      have hs := @ihs (before ++ m₁) m₂ after (by
        rw [List.append_assoc before, hmid]
        exact hcls)
      exact and_congr hr hs
  | opt r ih => exact or_congr_right (ih hcls)
  | dots =>
      have hmid : ∀ c ∈ mid, cls.isBreak c = cls'.isBreak c := fun c hc =>
        (hcls c (List.mem_append_left after (List.mem_append_right before hc))).2
      exact forall₂_congr fun c hc => by rw [hmid c hc]
  | edge =>
      have hbefore : before.getLast?.any cls.isWord = before.getLast?.any cls'.isWord := by
        cases h : before.getLast? with
        | none => rfl
        | some c =>
            have hc : c ∈ before := List.mem_of_getLast? h
            exact (hcls c (List.mem_append_left after (List.mem_append_left mid hc))).1
      have hafter : after.head?.any cls.isWord = after.head?.any cls'.isWord := by
        cases h : after.head? with
        | none => rfl
        | some c =>
            have hc : c ∈ after := List.mem_of_mem_head? h
            exact (hcls c (List.mem_append_right _ hc)).1
      show _ ∧ _ ↔ _ ∧ _
      rw [hbefore, hafter]

theorem search_congr {cls' : CharClasses α} {r : Regex α} {s : List α}
    (hcls : ∀ c ∈ s, cls.isWord c = cls'.isWord c ∧ cls.isBreak c = cls'.isBreak c) :
    r.Search cls s ↔ r.Search cls' s := by
  simp only [search_iff]
  refine exists_congr fun before => exists_congr fun mid => exists_congr fun after =>
    and_congr_right fun htext => ?_
  exact matches_congr (by rw [htext]; exact hcls)

/-! ## 4. Whole words -/

/-- A word is at a position, and a word boundary before it and after it. -/
theorem search_whole_text_iff {w s : List α} : (whole (text w)).Search cls s ↔
    ∃ p ∈ cuts s, w <+: p.2 ∧ p.1.getLast?.any cls.isWord ≠ p.2.head?.any cls.isWord ∧
      (p.1 ++ w).getLast?.any cls.isWord ≠ (p.2.drop w.length).head?.any cls.isWord := by
  rw [search_iff]
  constructor
  · rintro ⟨before, mid, after, htext, h⟩
    obtain ⟨m₁, m₂, hmid, hopen, hrest⟩ := matches_seq.mp h
    obtain ⟨m₃, m₄, hmid₂, hmatch, hclose⟩ := matches_seq.mp hrest
    obtain ⟨rfl, hbefore⟩ := hopen
    obtain ⟨rfl, hafter⟩ := hclose
    have hm₃ : m₃ = w := hmatch
    subst hm₃ hmid₂ hmid
    simp only [List.append_nil, List.nil_append] at htext hbefore hafter
    refine ⟨(before, m₃ ++ after), mem_cuts.mpr ?_, List.prefix_append m₃ after, hbefore, ?_⟩
    · rw [← htext, List.append_assoc]
    · rw [List.drop_left]
      exact hafter
  · rintro ⟨⟨before, rest⟩, hcut, ⟨after, rfl⟩, hbefore, hafter⟩
    rw [List.drop_left] at hafter
    have htext : before ++ w ++ after = s := by
      rw [List.append_assoc]
      exact mem_cuts.mp hcut
    have hopen : edge.Matches cls before [] (w ++ [] ++ after) :=
      ⟨rfl, by rw [List.append_nil]; exact hbefore⟩
    have hclose : edge.Matches cls (before ++ [] ++ w) [] after :=
      ⟨rfl, by rw [List.append_nil]; exact hafter⟩
    exact ⟨before, w, after, htext, matches_seq.mpr ⟨[], w, rfl, by simpa using hopen,
      matches_seq.mpr ⟨w, [], List.append_nil w, rfl, hclose⟩⟩⟩

-- Every position is looked at once, where the general search tries all parts of the text.
instance [DecidableEq α] (w s : List α) : Decidable ((whole (text w)).Search cls s) :=
  decidable_of_iff _ search_whole_text_iff.symm

theorem search_whole_text {w s : List α} (hword : ∀ c ∈ w, cls.isWord c = true) (hw : w ≠ []) :
    (whole (text w)).Search cls s ↔ ∃ before after, before ++ w ++ after = s ∧
      before.getLast?.any cls.isWord = false ∧ after.head?.any cls.isWord = false := by
  have hfirst : ∀ after, (w ++ after).head?.any cls.isWord = true := by
    intro after
    cases w with
    | nil => exact absurd rfl hw
    | cons c w => exact hword c List.mem_cons_self
  have hlast : ∀ before, (before ++ w).getLast?.any cls.isWord = true := by
    intro before
    rw [List.getLast?_append_of_ne_nil before hw, List.getLast?_eq_some_getLast hw]
    exact hword _ (List.getLast_mem hw)
  rw [search_whole_text_iff]
  constructor
  · rintro ⟨⟨before, rest⟩, hcut, ⟨after, rfl⟩, hbefore, hafter⟩
    rw [hfirst] at hbefore
    rw [List.drop_left, hlast] at hafter
    have htext : before ++ w ++ after = s := by
      rw [List.append_assoc]
      exact mem_cuts.mp hcut
    exact ⟨before, after, htext, Bool.eq_false_iff.mpr hbefore, Bool.eq_false_iff.mpr hafter.symm⟩
  · rintro ⟨before, after, htext, hbefore, hafter⟩
    refine ⟨(before, w ++ after), mem_cuts.mpr ?_, List.prefix_append w after, ?_, ?_⟩
    · rw [← htext, List.append_assoc]
    · rw [hbefore, hfirst]
      decide
    · rw [List.drop_left, hlast, hafter]
      decide

theorem search_whole_append_sep {sep : α} {w s t : List α} (hword : ∀ c ∈ w, cls.isWord c = true)
    (hw : w ≠ []) (hsep : cls.isWord sep = false) :
    (whole (text w)).Search cls (s ++ sep :: t) ↔
      (whole (text w)).Search cls s ∨ (whole (text w)).Search cls t := by
  have hmem : sep ∉ w := by
    intro h
    have htrue := hword sep h
    rw [hsep] at htrue
    cases htrue
  simp only [search_whole_text hword hw]
  constructor
  · rintro ⟨before, after, htext, hbefore, hafter⟩
    rw [List.append_assoc] at htext
    -- the word begins before the separator, or at it, or after it
    rcases List.append_eq_append_iff.mp htext with ⟨rest, hs, hrest⟩ | ⟨rest, hb, hrest⟩
    · rcases List.append_eq_append_iff.mp hrest with ⟨gap, hgap, hafter'⟩ | ⟨gap, hgap, hafter'⟩
      · refine .inl ⟨before, gap, by rw [hs, hgap, List.append_assoc], hbefore, ?_⟩
        cases gap with
        | nil => rfl
        | cons c gap =>
            rw [hafter'] at hafter
            exact hafter
      · -- it ends with `s`, or would run over the separator, which is no word character
        cases gap with
        | nil =>
            rw [List.append_nil] at hgap
            exact .inl ⟨before, [], by rw [hs, hgap, List.append_nil], hbefore, rfl⟩
        | cons c gap =>
            injection hafter' with hc
            have : sep ∈ w := by rw [hgap, hc]; simp
            exact absurd this hmem
    · -- it would begin with the separator, or begins behind it
      cases rest with
      | nil =>
          cases w with
          | nil => exact absurd rfl hw
          | cons c w =>
              injection hrest with hc
              exact absurd (hc ▸ List.mem_cons_self) hmem
      | cons c rest =>
          injection hrest with hc ht
          refine .inr ⟨rest, after, by rw [ht, List.append_assoc]; rfl, ?_, hafter⟩
          cases hrest' : rest.getLast? with
          | none => rfl
          | some d =>
              have hne : rest ≠ [] := by
                intro hnil
                rw [hnil] at hrest'
                cases hrest'
              rw [hb, List.getLast?_append_of_ne_nil s (List.cons_ne_nil c rest),
                List.getLast?_cons, hrest'] at hbefore
              exact hbefore
  · rintro (⟨before, after, htext, hbefore, hafter⟩ | ⟨before, after, htext, hbefore, hafter⟩)
    · refine ⟨before, after ++ sep :: t, by rw [← htext]; simp, hbefore, ?_⟩
      cases after with
      | nil => exact hsep
      | cons c after => exact hafter
    · refine ⟨s ++ sep :: before, after, by rw [← htext]; simp, ?_, hafter⟩
      rw [List.getLast?_append_of_ne_nil s (List.cons_ne_nil sep before), List.getLast?_cons]
      cases h : before.getLast? with
      | none => exact hsep
      | some d =>
          rw [h] at hbefore
          exact hbefore

theorem search_whole_nil {w : List α} (hword : ∀ c ∈ w, cls.isWord c = true) (hw : w ≠ []) :
    ¬ (whole (text w)).Search cls [] := by
  rw [search_whole_text hword hw]
  rintro ⟨before, after, htext, -⟩
  have hnil := (List.append_eq_nil_iff.mp (List.append_eq_nil_iff.mp htext).1).2
  exact hw hnil

/-- Cutting characters that are no word characters off the front keeps every whole word. -/
theorem search_whole_dropWhile {p : α → Bool} {w s : List α} (hword : ∀ c ∈ w, cls.isWord c = true)
    (hw : w ≠ []) (hp : ∀ c, p c = true → cls.isWord c = false) :
    (whole (text w)).Search cls (s.dropWhile p) ↔ (whole (text w)).Search cls s := by
  induction s with
  | nil => rfl
  | cons c s ih =>
      cases hc : p c with
      | false => rw [List.dropWhile_cons_of_neg (by simp [hc])]
      | true =>
          rw [List.dropWhile_cons_of_pos hc, ih]
          have hsplit := search_whole_append_sep (s := []) (t := s) hword hw (hp c hc)
          rw [List.nil_append] at hsplit
          rw [hsplit, or_iff_right (search_whole_nil hword hw)]

theorem search_whole_rdropWhile {p : α → Bool} {w s : List α}
    (hword : ∀ c ∈ w, cls.isWord c = true) (hw : w ≠ [])
    (hp : ∀ c, p c = true → cls.isWord c = false) :
    (whole (text w)).Search cls (s.rdropWhile p) ↔ (whole (text w)).Search cls s := by
  induction s using List.reverseRecOn with
  | nil => rfl
  | append_singleton s c ih =>
      cases hc : p c with
      | false => rw [List.rdropWhile_concat_neg _ _ _ (by simp [hc])]
      | true =>
          rw [List.rdropWhile_concat_pos _ _ _ hc, ih,
            search_whole_append_sep hword hw (hp c hc), or_iff_left (search_whole_nil hword hw)]

end Regex

end CryptoScanner.Library
