import CryptoScanner.Discoveries.Scope

/-!
# The grammar of domain names

`is_valid_domain` against the grammar of host names.  The dollar sign of `DOMAIN_LABEL_RE` also
matches before a line feed, and `rstrip` takes away every dot at the end.
-/

namespace CryptoScanner.Discoveries

open Library Python

/-! ## 1. The grammar -/

/-- A label of 1 to 63 letters, digits and hyphens with no hyphen at its ends. -/
structure IsHostLabel (label : List Char) : Prop where
  nonempty : 1 ≤ label.length
  short : label.length ≤ 63
  chars : ∀ c ∈ label, c.isAlphanum = true ∨ c = '-'
  first : label.head? ≠ some '-'
  last : label.getLast? ≠ some '-'

/-- Labels with dots between them, at most 253 characters, and at most one dot at the end. -/
def InGrammar (value : List Char) : Prop :=
  ∃ labels, labels ≠ [] ∧ (∀ label ∈ labels, IsHostLabel label) ∧
    (['.'].intercalate labels).length ≤ 253 ∧
    (value = ['.'].intercalate labels ∨ value = ['.'].intercalate labels ++ ['.'])

/-- A label as it is spelled, with a line feed after it or without. -/
def spelled (label : List Char × Bool) : List Char := label.1 ++ if label.2 then ['\n'] else []

/-- A domain name with line feeds after some of its labels and any number of dots at its end. -/
structure Spelling where
  labels : List (List Char × Bool)
  dots : Nat
  nonempty : labels ≠ []
  isHostLabel : ∀ label ∈ labels, IsHostLabel label.1
  short : (['.'].intercalate (labels.map spelled)).length ≤ 253

namespace Spelling

def name (s : Spelling) : List Char := ['.'].intercalate (s.labels.map spelled)

def text (s : Spelling) : List Char := s.name ++ List.replicate s.dots '.'

/-- A label has a line feed after it, or there are two dots at the end. -/
def Loose (s : Spelling) : Prop := 2 ≤ s.dots ∨ ∃ label ∈ s.labels, label.2 = true

end Spelling

/-- A domain name that is spelled with a line feed after a label or with two dots at its end. -/
def SlipsThrough (value : List Char) : Prop := ∃ s : Spelling, s.Loose ∧ value = s.text

/-! ## 2. Labels -/

theorem isDomainLabel_iff (label : List Char) : isDomainLabel label = true ↔ IsHostLabel label := by
  have hhyphen : Char.isAlphanum '-' = false := by decide
  constructor
  · intro h
    cases label with
    | nil => cases h
    | cons first rest =>
        simp only [isDomainLabel, Bool.and_eq_true, Bool.or_eq_true, beq_iff_eq, decide_eq_true_eq,
          List.all_eq_true] at h
        obtain ⟨hfirst, hrest⟩ := h
        have hhead : (first :: rest).head? ≠ some '-' := by
          intro heq
          rw [Option.some.inj heq, hhyphen] at hfirst
          cases hfirst
        -- a label of one character, or a first and a last one with at most 61 between them
        rcases hrest with rfl | ⟨⟨hlength, hinit⟩, hlast⟩
        · refine ⟨by simp, by simp, ?_, hhead, hhead⟩
          intro c hc
          rw [List.mem_singleton.mp hc]
          exact .inl hfirst
        · cases rest using List.reverseRecOn with
          | nil => cases hlast
          | append_singleton init last =>
              rw [List.getLast?_concat, Option.any_some] at hlast
              rw [List.dropLast_concat] at hinit
              refine ⟨by simp, by rw [List.length_cons]; omega, ?_, hhead, ?_⟩
              · intro c hc
                rw [List.mem_cons, List.mem_append, List.mem_singleton] at hc
                rcases hc with rfl | hc | rfl
                · exact .inl hfirst
                · exact hinit c hc
                · exact .inl hlast
              · intro heq
                rw [← List.cons_append, List.getLast?_concat] at heq
                rw [Option.some.inj heq, hhyphen] at hlast
                cases hlast
  · intro h
    cases label with
    | nil => exact absurd h.nonempty (by decide)
    | cons first rest =>
        have hfirst : first.isAlphanum = true := by
          rcases h.chars first List.mem_cons_self with halnum | rfl
          · exact halnum
          · exact absurd rfl h.first
        have hshort := h.short
        rw [List.length_cons] at hshort
        simp only [isDomainLabel, hfirst, Bool.true_and, Bool.or_eq_true, Bool.and_eq_true,
          beq_iff_eq, decide_eq_true_eq, List.all_eq_true]
        cases rest using List.reverseRecOn with
        | nil => exact .inl rfl
        | append_singleton init last =>
            refine .inr ⟨⟨by omega, ?_⟩, ?_⟩
            · intro c hc
              rw [List.dropLast_concat] at hc
              exact h.chars c (by simp [hc])
            · rw [List.getLast?_concat, Option.any_some]
              rcases h.chars last (by simp) with halnum | rfl
              · exact halnum
              · exact absurd (by rw [← List.cons_append, List.getLast?_concat]) h.last

instance (label : List Char) : Decidable (IsHostLabel label) :=
  decidable_of_iff _ (isDomainLabel_iff label)

theorem IsHostLabel.isNameChar {label : List Char} (h : IsHostLabel label) :
    ∀ c ∈ label, isNameChar c = true :=
  isNameChar_of_mem_isDomainLabel ((isDomainLabel_iff label).mpr h)

theorem IsHostLabel.dot_not_mem {label : List Char} (h : IsHostLabel label) : '.' ∉ label := by
  intro hmem
  rcases h.chars '.' hmem with halnum | heq
  · exact absurd halnum (by decide)
  · exact absurd heq (by decide)

/-- A label of the pattern is a host label that a line feed may follow. -/
theorem matchesDomainLabel_iff (label : List Char) : matchesDomainLabel label = true ↔
    ∃ entry : List Char × Bool, IsHostLabel entry.1 ∧ label = spelled entry := by
  unfold matchesDomainLabel
  rw [Bool.or_eq_true, Bool.and_eq_true, beq_iff_eq, isDomainLabel_iff, isDomainLabel_iff]
  constructor
  · -- the dollar sign matches at the end, or before a line feed that ends the label
    rintro (h | ⟨hlast, h⟩)
    · exact ⟨(label, false), h, (List.append_nil label).symm⟩
    · obtain ⟨init, rfl⟩ := List.getLast?_eq_some_iff.mp hlast
      rw [List.dropLast_concat] at h
      exact ⟨(init, true), h, rfl⟩
  · rintro ⟨⟨host, feed⟩, h, rfl⟩
    cases feed with
    | false =>
        left
        show IsHostLabel (host ++ [])
        rw [List.append_nil]
        exact h
    | true =>
        right
        show (host ++ ['\n']).getLast? = _ ∧ IsHostLabel (host ++ ['\n']).dropLast
        rw [List.getLast?_concat, List.dropLast_concat]
        exact ⟨rfl, h⟩

theorem exists_spelled {labels : List (List Char)}
    (h : ∀ label ∈ labels, matchesDomainLabel label = true) :
    ∃ entries : List (List Char × Bool), labels = entries.map spelled ∧
      ∀ entry ∈ entries, IsHostLabel entry.1 := by
  induction labels with
  | nil => exact ⟨[], rfl, fun _ hentry => nomatch hentry⟩
  | cons label labels ih =>
      obtain ⟨entries, hmap, hhosts⟩ := ih fun other hother =>
        h other (List.mem_cons_of_mem label hother)
      obtain ⟨entry, hhost, hspelled⟩ :=
        (matchesDomainLabel_iff label).mp (h label List.mem_cons_self)
      refine ⟨entry :: entries, ?_, List.forall_mem_cons.mpr ⟨hhost, hhosts⟩⟩
      rw [List.map_cons, hmap, hspelled]

theorem isNameChar_of_mem_spelled {entry : List Char × Bool} (h : IsHostLabel entry.1) :
    ∀ c ∈ spelled entry, isNameChar c = true ∨ c = '\n' := by
  intro c hc
  unfold spelled at hc
  rw [List.mem_append] at hc
  rcases hc with hc | hc
  · exact .inl (h.isNameChar c hc)
  · split at hc
    · exact .inr (List.mem_singleton.mp hc)
    · cases hc

theorem dot_not_mem_spelled {entry : List Char × Bool} (h : IsHostLabel entry.1) :
    '.' ∉ spelled entry := by
  unfold spelled
  rw [List.mem_append, not_or]
  refine ⟨h.dot_not_mem, ?_⟩
  split <;> decide

/-! ## 3. What is accepted -/

namespace Spelling

variable (s : Spelling)

theorem splitOn_name : s.name.splitOn '.' = s.labels.map spelled := by
  apply List.splitOn_intercalate
  · intro label hlabel
    obtain ⟨entry, hentry, rfl⟩ := List.mem_map.mp hlabel
    exact dot_not_mem_spelled (s.isHostLabel entry hentry)
  · intro hnil
    exact s.nonempty (List.map_eq_nil_iff.mp hnil)

theorem nil_not_mem : [] ∉ s.name.splitOn '.' := by
  rw [splitOn_name]
  intro hmem
  obtain ⟨entry, hentry, hempty⟩ := List.mem_map.mp hmem
  have hlength := (s.isHostLabel entry hentry).nonempty
  rw [(List.append_eq_nil_iff.mp hempty).1] at hlength
  exact absurd hlength (by decide)

theorem last_name : s.name.getLast? ≠ some '.' := fun hlast =>
  s.nil_not_mem (nil_mem_splitOn_of_last_dot hlast)

theorem name_ne_nil : s.name ≠ [] := by
  intro hnil
  apply s.nil_not_mem
  rw [hnil]
  exact List.mem_cons_self

/-- The dots at the end are taken away, and no other character. -/
theorem rdropWhile_text : s.text.rdropWhile (· == '.') = s.name := by
  unfold text
  -- one dot is taken away after another, until the last character of the name
  induction s.dots with
  | zero =>
      rw [List.replicate_zero, List.append_nil]
      exact rdropWhile_dot_eq s.last_name
  | succ dots ih =>
      rw [List.replicate_succ', ← List.append_assoc, List.rdropWhile_concat_pos _ _ _ (by decide)]
      exact ih

theorem isNameChar_of_mem_name : ∀ c ∈ s.name, isNameChar c = true ∨ c = '\n' := by
  intro c hc
  rcases mem_splitOn_dot hc with rfl | ⟨label, hlabel, hmem⟩
  · exact .inl (by decide)
  · rw [splitOn_name] at hlabel
    obtain ⟨entry, hentry, rfl⟩ := List.mem_map.mp hlabel
    exact isNameChar_of_mem_spelled (s.isHostLabel entry hentry) c hmem

theorem not_mem_name {c : Char} (hname : isNameChar c = false) (hfeed : c ≠ '\n') : c ∉ s.name := by
  intro hmem
  rcases s.isNameChar_of_mem_name c hmem with h | h
  · rw [hname] at h
    cases h
  · exact hfeed h

end Spelling

/-- The check accepts the spellings, strict ones and loose ones. -/
theorem isValidDomain_iff (value : List Char) :
    isValidDomain value = true ↔ ∃ s : Spelling, value = s.text := by
  constructor
  · intro h
    simp only [isValidDomain, Bool.and_eq_true, decide_eq_true_eq, List.all_eq_true] at h
    obtain ⟨⟨⟨⟨hne, hshort⟩, -⟩, -⟩, hlabels⟩ := h
    obtain ⟨entries, hsplit, hhosts⟩ := exists_spelled hlabels
    -- what is left without the dots at the end are the labels, with dots between them
    have hname : ['.'].intercalate (entries.map spelled) = value.rdropWhile (· == '.') := by
      rw [← hsplit, List.intercalate_splitOn]
    have hnonempty : entries ≠ [] := by
      rintro rfl
      exact List.splitOn_ne_nil _ _ hsplit
    have hdots : value.rtakeWhile (· == '.') =
        List.replicate (value.rtakeWhile (· == '.')).length '.' := by
      apply List.eq_replicate_of_mem
      intro c hc
      have hdot := List.mem_rtakeWhile_imp (p := fun d : Char => d == '.') hc
      exact beq_iff_eq.mp hdot
    have htext : value = ['.'].intercalate (entries.map spelled) ++
        List.replicate (value.rtakeWhile (· == '.')).length '.' := by
      rw [hname, ← hdots, List.rdropWhile_append_rtakeWhile]
    exact ⟨⟨entries, _, hnonempty, hhosts, by rw [hname]; exact hshort⟩, htext⟩
  · rintro ⟨s, rfl⟩
    -- the checks for a slash and a colon refuse nothing that the labels admit
    have hslash := s.not_mem_name (c := '/') (by decide) (by decide)
    have hcolon := s.not_mem_name (c := ':') (by decide) (by decide)
    have hshort : s.name.length ≤ 253 := s.short
    simp only [isValidDomain, s.rdropWhile_text, Bool.and_eq_true, decide_eq_true_eq,
      List.all_eq_true]
    refine ⟨⟨⟨⟨s.name_ne_nil, hshort⟩, by simpa using hslash⟩, by simpa using hcolon⟩, ?_⟩
    intro label hlabel
    rw [s.splitOn_name] at hlabel
    obtain ⟨entry, hentry, rfl⟩ := List.mem_map.mp hlabel
    exact (matchesDomainLabel_iff _).mpr ⟨entry, s.isHostLabel entry hentry, rfl⟩

/-! ## 4. What is accepted beyond the grammar -/

theorem spelled_strict {label : List Char} : spelled (label, false) = label := List.append_nil label

theorem inGrammar_iff (value : List Char) :
    InGrammar value ↔ ∃ s : Spelling, ¬ s.Loose ∧ value = s.text := by
  constructor
  · rintro ⟨labels, hne, hhosts, hshort, hvalue⟩
    have hmap : (labels.map fun label => (label, false)).map spelled = labels := by
      rw [List.map_map]
      exact List.map_id'' (fun label => spelled_strict) labels
    -- labels without line feeds, and no dot or one at the end
    have hspelling : ∀ dots < 2, value = ['.'].intercalate labels ++ List.replicate dots '.' →
        ∃ s : Spelling, ¬ s.Loose ∧ value = s.text := by
      intro dots hdots htext
      rw [← hmap] at htext hshort
      refine ⟨⟨labels.map fun label => (label, false), dots, by simpa using hne, ?_, hshort⟩, ?_,
        htext⟩
      · intro entry hentry
        obtain ⟨label, hlabel, rfl⟩ := List.mem_map.mp hentry
        exact hhosts label hlabel
      · rintro (htwo | ⟨entry, hentry, hfeed⟩)
        · exact absurd hdots (Nat.not_lt.mpr htwo)
        · obtain ⟨label, -, rfl⟩ := List.mem_map.mp hentry
          cases hfeed
    rcases hvalue with hvalue | hvalue
    · exact hspelling 0 (by decide) (by rw [hvalue, List.replicate_zero, List.append_nil])
    · exact hspelling 1 (by decide) hvalue
  · rintro ⟨s, hstrict, rfl⟩
    unfold Spelling.Loose at hstrict
    rw [not_or] at hstrict
    obtain ⟨hdots, hfeeds⟩ := hstrict
    have hmap : s.labels.map spelled = s.labels.map Prod.fst := by
      apply List.map_congr_left
      rintro ⟨label, feed⟩ hentry
      have hfeed : feed = false := Bool.eq_false_iff.mpr fun hfeed => hfeeds ⟨_, hentry, hfeed⟩
      rw [hfeed]
      exact spelled_strict
    refine ⟨s.labels.map spelled, ?_, ?_, s.short, ?_⟩
    · simpa using s.nonempty
    · rw [hmap]
      intro label hlabel
      obtain ⟨entry, hentry, rfl⟩ := List.mem_map.mp hlabel
      exact s.isHostLabel entry hentry
    · unfold Spelling.text Spelling.name
      have hcases : s.dots = 0 ∨ s.dots = 1 := by omega
      rcases hcases with hzero | hone
      · rw [hzero]
        exact .inl (List.append_nil _)
      · rw [hone]
        exact .inr rfl

/-- A strict spelling has no line feed and not two dots at its end, so it is no loose one. -/
theorem not_inGrammar_of_slipsThrough {value : List Char} (h : SlipsThrough value) :
    ¬ InGrammar value := by
  rw [inGrammar_iff]
  rintro ⟨t, hstrict, htext⟩
  obtain ⟨s, hloose, rfl⟩ := h
  -- two spellings of one text have the same dots and the same spelled labels
  have hname : s.name = t.name := by
    rw [← s.rdropWhile_text, htext, t.rdropWhile_text]
  have hdots : s.dots = t.dots := by
    have hlength := congrArg List.length htext
    simp only [Spelling.text, List.length_append, List.length_replicate, hname] at hlength
    omega
  have hlabels : s.labels.map spelled = t.labels.map spelled := by
    rw [← s.splitOn_name, hname, t.splitOn_name]
  apply hstrict
  rcases hloose with htwo | ⟨entry, hentry, hfeed⟩
  · exact .inl (hdots ▸ htwo)
  · -- the label with the line feed is a label of the other spelling, with a line feed there too
    have hmem := List.mem_map_of_mem (f := spelled) hentry
    rw [hlabels] at hmem
    obtain ⟨other, hother, hsame⟩ := List.mem_map.mp hmem
    refine .inr ⟨other, hother, ?_⟩
    by_contra hnone
    have hend : '\n' ∈ spelled entry := by
      rw [spelled, hfeed]
      simp
    rw [← hsame, spelled, if_neg hnone, List.append_nil] at hend
    exact absurd ((t.isHostLabel other hother).isNameChar '\n' hend) (by decide)

theorem isValidDomain_eq_or (value : List Char) :
    isValidDomain value = true ↔ InGrammar value ∨ SlipsThrough value := by
  rw [isValidDomain_iff, inGrammar_iff]
  constructor
  · rintro ⟨s, hvalue⟩
    by_cases hloose : s.Loose
    · exact .inr ⟨s, hloose, hvalue⟩
    · exact .inl ⟨s, hloose, hvalue⟩
  · rintro (⟨s, -, hvalue⟩ | ⟨s, -, hvalue⟩)
    · exact ⟨s, hvalue⟩
    · exact ⟨s, hvalue⟩

theorem InGrammar.isNameChar {value : List Char} (h : InGrammar value) :
    ∀ c ∈ value, isNameChar c = true := by
  obtain ⟨labels, -, hhosts, -, hvalue⟩ := h
  have hjoined : ∀ c ∈ ['.'].intercalate labels, CryptoScanner.Discoveries.isNameChar c = true := by
    intro c hc
    rcases mem_intercalate.1 hc with rfl | ⟨label, hlabel, hmem⟩
    · decide
    · exact (hhosts label hlabel).isNameChar c hmem
  intro c hc
  rcases hvalue with rfl | rfl
  · exact hjoined c hc
  · rcases List.mem_append.mp hc with hc | hc
    · exact hjoined c hc
    · rw [List.mem_singleton.mp hc]
      decide

/-- Neither white space nor a control character. -/
def IsVisible [PyText] (c : Char) : Prop :=
  PyText.isSpace c = false ∧ 32 ≤ c.toNat ∧ c.toNat ≠ 127

/-- The check accepts the value exactly if it is in the grammar, and only visible characters. -/
def FollowsGrammar [PyText] (value : List Char) (accepted : Prop) : Prop :=
  (accepted ↔ InGrammar value) ∧ (accepted → ∀ c ∈ value, IsVisible c)

theorem followsGrammar_iff [PyText] (value : List Char) :
    FollowsGrammar value (isValidDomain value = true) ↔ ¬ SlipsThrough value := by
  unfold FollowsGrammar
  rw [isValidDomain_eq_or]
  constructor
  · intro h hslips
    exact not_inGrammar_of_slipsThrough hslips (h.1.mp (.inr hslips))
  · intro h
    have hstrict : InGrammar value ∨ SlipsThrough value ↔ InGrammar value := or_iff_left h
    rw [hstrict]
    refine ⟨Iff.rfl, fun hgrammar c hc => ?_⟩
    have hbounds := isNameChar_bounds (hgrammar.isNameChar c hc)
    exact ⟨not_isSpace_of_bounds (by omega), by omega, by omega⟩

/-- **Domain validation follows the grammar** exactly on the values that are no domain names with a
line feed after a label or with two dots at the end, and so does the check of a scope. -/
theorem domainCheck_iff [PyText] (value : List Char) :
    (FollowsGrammar value (isValidDomain value = true) ↔ ¬ SlipsThrough value) ∧
    (FollowsGrammar (strip value) (∃ v, validateScope .domain value = .ok v) ↔
      ¬ SlipsThrough (strip value)) := by
  have hscope : (∃ v, validateScope .domain value = .ok v) ↔
      isValidDomain (strip value) = true := by
    rw [validateScope_domain]
    constructor
    · exact And.right
    · intro hvalid
      refine ⟨?_, hvalid⟩
      intro hnil
      rw [hnil] at hvalid
      exact absurd hvalid (by decide)
  rw [hscope]
  exact ⟨followsGrammar_iff value, followsGrammar_iff (strip value)⟩

/-- `example.com..` -/
def twoDots : Spelling where
  labels := [("example".toList, false), ("com".toList, false)]
  dots := 2
  nonempty := List.cons_ne_nil _ _
  isHostLabel := by decide +kernel
  short := by decide +kernel

/-- A name with a line feed in it is accepted, and so is one that ends with two dots. -/
theorem lineFeed_accepted : letI := asciiText
    ¬ FollowsGrammar "example\n.com".toList (isValidDomain "example\n.com".toList = true) ∧
      ¬ FollowsGrammar "example.com..".toList (isValidDomain "example.com..".toList = true) := by
  let := asciiText
  constructor
  · intro h
    have hvisible := h.2 (by decide +kernel) '\n' (by decide +kernel)
    exact absurd hvisible.2.1 (by decide)
  · intro h
    have hgrammar := h.1.mp (by decide +kernel)
    have htext : "example.com..".toList = twoDots.text := by decide +kernel
    exact not_inGrammar_of_slipsThrough ⟨twoDots, .inl (by decide), htext⟩ hgrammar

end CryptoScanner.Discoveries
