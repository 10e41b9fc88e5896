import CryptoScanner.HostScanners.TlsPolicy
import CryptoScanner.Library.Insertion

/-!
# References in comments

The loop over the lines skips comments, the pattern of key file paths searches them as well.
-/

namespace CryptoScanner.HostScanners

open Python Library

variable [PyText]

/-- The first character of the line that is not blank is `#`. -/
def IsComment (line : List Char) : Prop := (lstrip line).head? = some '#'

instance (line : List Char) : Decidable (IsComment line) := inferInstanceAs (Decidable (_ = _))

structure CommentsInserted (text text' : List Char) where
  comments : List (List Char)
  inserted : Inserted (splitLines text) comments (splitLines text')
  isComment : ∀ comment ∈ comments, IsComment comment

/-- A comment on a line of its own, in front of a line of the text or at its end. -/
def CommentsInserted.atLine (before comment after : List Char)
    (hbefore : ∀ b ∈ before.getLast?, isLineBreak b = true)
    (hline : ∀ c ∈ comment, isLineBreak c = false) (hcomment : IsComment comment)
    (hpair : before.getLast? = some '\r' → after.head? ≠ some '\n') :
    CommentsInserted (before ++ after) (before ++ (comment ++ '\n' :: after)) where
  comments := [comment]
  inserted := by
    have hne : comment ≠ [] := by
      rintro rfl
      cases hcomment
    have hbreak : ∀ b ∈ ('\n' :: after).head?, isLineBreak b = true := by
      intro b hb
      rw [← Option.some.inj hb]
      decide
    rw [splitLines_around hne hbefore hbreak hline, splitLines_append after hbefore hpair]
    exact Inserted.middle _ _ comment
  isComment := by
    intro other hother
    rw [List.mem_singleton.mp hother]
    exact hcomment

/-- The references of a text in the order in which they are found, repetitions included. -/
def references (text : List Char) : List (List Char) :=
  (findKeyFilePaths 0 text ++ (splitLines text).filterMap keyReference).filter (¬ · = [])

def OnlyKnownPaths (text : List Char) (comments : List (List Char)) : Prop :=
  ∀ comment ∈ comments, ∀ path ∈ findKeyFilePaths 0 comment, path ∈ references text

instance (text : List Char) (comments : List (List Char)) :
    Decidable (OnlyKnownPaths text comments) :=
  inferInstanceAs (Decidable (∀ comment ∈ comments, ∀ path ∈ findKeyFilePaths 0 comment,
    path ∈ references text))

/-- No two references of the text change places when it becomes the other one. -/
def KeepsOrder (text text' : List Char) : Prop :=
  ∀ a ∈ references text, ∀ b ∈ references text,
    ((references text).idxOf a < (references text).idxOf b ↔
      (references text').idxOf a < (references text').idxOf b)

instance (text text' : List Char) : Decidable (KeepsOrder text text') :=
  inferInstanceAs (Decidable (∀ a ∈ references text, ∀ b ∈ references text,
    ((references text).idxOf a < (references text).idxOf b ↔
      (references text').idxOf a < (references text').idxOf b)))

/-! ## 1. The two sources of references -/

theorem keyReference_comment {line : List Char} (h : IsComment line) : keyReference line = none := by
  -- neither the white space nor the semicolons at the end reach the first character
  have hspace : PyText.isSpace '#' = false := PyText.isSpace_ascii '#' (by decide)
  have hstrip : (strip line).head? = some '#' := head?_rdropWhile h hspace
  have hhead : (rstripChars [';'] (strip line)).head? = some '#' :=
    head?_rdropWhile hstrip (by decide)
  have hfirst : firstWord line = none := by
    unfold firstWord
    simp only
    rw [if_pos (.inr hhead)]
  rw [keyReference, hfirst]

theorem references_ne_nil {text path : List Char} (h : path ∈ references text) : ¬ path = [] := by
  simpa using (List.mem_filter.mp h).2

theorem extractKeyReferences_eq (text : List Char) :
    extractKeyReferencesFromConfig text = distinct (· = []) (· == ·) (references text) := by
  have hsame : (fun value other : List Char => decide (value = other)) = (· == ·) := by
    funext value other
    rw [Bool.eq_iff_iff, decide_eq_true_iff, beq_iff_eq]
  unfold extractKeyReferencesFromConfig dedupe references
  rw [distinct_filter, hsame]

namespace CommentsInserted

variable {text text' : List Char} (change : CommentsInserted text text')

/-- Only the pattern of key file paths sees the comments. -/
theorem mem_references_iff (path : List Char) : path ∈ references text' ↔
    path ∈ references text ∨ ∃ comment ∈ change.comments, path ∈ findKeyFilePaths 0 comment := by
  -- the loop over the lines skips a comment, the pattern searches it like any other line
  have hlines := change.inserted.filterMap_eq fun comment hcomment =>
    keyReference_comment (change.isComment comment hcomment)
  have hpaths := change.inserted.mem_flatMap_iff (findKeyFilePaths 0) path
  rw [← findKeyFilePaths_splitLines, ← findKeyFilePaths_splitLines, List.mem_flatMap] at hpaths
  unfold references
  rw [List.mem_filter, List.mem_filter, List.mem_append, List.mem_append, hlines, hpaths]
  constructor
  · rintro ⟨(hold | hcomment) | hline, hne⟩
    · exact .inl ⟨.inl hold, hne⟩
    · exact .inr hcomment
    · exact .inl ⟨.inr hline, hne⟩
  · rintro (⟨hold | hline, hne⟩ | ⟨comment, hcomment, hpath⟩)
    · exact ⟨.inl (.inl hold), hne⟩
    · exact ⟨.inr hline, hne⟩
    · have hne := findKeyFilePaths_ne_nil hpath
      exact ⟨.inl (.inr ⟨comment, hcomment, hpath⟩), by simpa using hne⟩

theorem sameReferences_iff :
    (∀ path, path ∈ references text' ↔ path ∈ references text) ↔
      OnlyKnownPaths text change.comments := by
  constructor
  · intro h comment hcomment path hpath
    exact (h path).mp ((change.mem_references_iff path).mpr (.inr ⟨comment, hcomment, hpath⟩))
  · intro h path
    rw [change.mem_references_iff]
    constructor
    · rintro (hold | ⟨comment, hcomment, hpath⟩)
      · exact hold
      · exact h comment hcomment path hpath
    · exact .inl

/-- **Comments do not count as use** exactly if every path in a comment is a reference of the text
itself; the list of references is the same if, besides, they keep their order. -/
theorem extractKeyReferences_iff :
    (extractKeyReferencesFromConfig text' = extractKeyReferencesFromConfig text ↔
      OnlyKnownPaths text change.comments ∧ KeepsOrder text text') ∧
    ((∀ path, path ∈ extractKeyReferencesFromConfig text' ↔
        path ∈ extractKeyReferencesFromConfig text) ↔ OnlyKnownPaths text change.comments) := by
  have hkept : ∀ path ∈ references text, ¬ path = [] := fun _ => references_ne_nil
  have hkept' : ∀ path ∈ references text', ¬ path = [] := fun _ => references_ne_nil
  rw [extractKeyReferences_eq, extractKeyReferences_eq]
  constructor
  · -- two lists without repetitions are equal if they have the same elements in the same order
    rw [eq_comm, distinct_eq_iff hkept hkept', ← change.sameReferences_iff]
    constructor
    · intro h
      exact ⟨fun path => (h.mem_iff path).symm, h.idxOf_lt_iff⟩
    · intro h
      exact ⟨fun path => (h.1 path).symm, h.2⟩
  · rw [← change.sameReferences_iff]
    simp only [mem_distinct_iff hkept, mem_distinct_iff hkept']

end CommentsInserted

omit [PyText]

/-- A directive that is switched off names a key that nothing uses. -/
theorem commentedKey_referenced : letI := asciiText
    ¬ ∀ text text', CommentsInserted text text' →
      extractKeyReferencesFromConfig text' = extractKeyReferencesFromConfig text := by
  let := asciiText
  intro h
  have hsame := h _ _ (CommentsInserted.atLine "listen 443 ssl;\n".toList
    "# ssl_certificate_key /etc/ssl/private/old.key;".toList
    "ssl_certificate_key /etc/ssl/private/web.key;\n".toList (by decide +kernel)
    (by decide +kernel) (by decide +kernel) (by decide +kernel))
  revert hsame
  decide +kernel

end CryptoScanner.HostScanners
