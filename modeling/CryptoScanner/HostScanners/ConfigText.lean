import CryptoScanner.Python.Text

/-!
# Configuration files as text

The lines of a file, the directive on a line, and the paths of key files anywhere in the text.
-/

namespace CryptoScanner.HostScanners

open Python

/-! ## 1. Lines -/

/-- A character that ends a line for `str.splitlines`. -/
def isLineBreak (c : Char) : Bool :=
  c ∈ ['\n', '\r', '\x0b', '\x0c', '\x1c', '\x1d', '\x1e', '\u0085', '\u2028', '\u2029']

/-- `text.splitlines()` -/
def splitLines : List Char → List (List Char)
  | [] => []
  | '\r' :: '\n' :: text => [] :: splitLines text
  | c :: text =>
      if isLineBreak c then [] :: splitLines text
      else
        match splitLines text with
        | [] => [[c]]
        | line :: lines => (c :: line) :: lines

theorem splitLines_cons_break {c : Char} {text : List Char} (hbreak : isLineBreak c = true)
    (hpair : c = '\r' → text.head? ≠ some '\n') : splitLines (c :: text) = [] :: splitLines text := by
  rw [splitLines]
  · rw [if_pos hbreak]
  · rintro text' rfl rfl
    exact hpair rfl rfl

theorem splitLines_cons_char {c : Char} (text : List Char) (hchar : isLineBreak c = false) :
    splitLines (c :: text) =
      match splitLines text with
      | [] => [[c]]
      | line :: lines => (c :: line) :: lines := by
  have hne : c ≠ '\r' := by
    rintro rfl
    cases hchar
  rw [splitLines]
  · rw [if_neg (by simp [hchar])]
  · intro text' hc
    exact absurd hc hne

theorem splitLines_ne_nil {text : List Char} (h : text ≠ []) : splitLines text ≠ [] := by
  fun_cases splitLines text with
  | case1 => exact absurd rfl h
  | _ => simp_all

/-- Complete lines are split apart from the text that follows them. -/
theorem splitLines_append {front : List Char} (back : List Char)
    (hend : ∀ b ∈ front.getLast?, isLineBreak b = true)
    (hpair : front.getLast? = some '\r' → back.head? ≠ some '\n') :
    splitLines (front ++ back) = splitLines front ++ splitLines back := by
  fun_induction splitLines front with
  | case1 => rfl
  | case2 text ih =>
      show [] :: splitLines (text ++ back) = ([] :: splitLines text) ++ splitLines back
      cases text with
      | nil => rfl
      | cons c text =>
          rw [ih hend hpair, List.cons_append]
  | case3 c text hnot hbreak ih =>
      have hnext : c = '\r' → (text ++ back).head? ≠ some '\n' := by
        rintro rfl
        cases text with
        | nil => exact hpair rfl
        | cons d text =>
            intro hd
            exact hnot text rfl (congrArg (· :: text) (Option.some.inj hd))
      rw [List.cons_append, splitLines_cons_break hbreak hnext]
      cases text with
      | nil => rfl
      | cons d text => rw [ih hend hpair, List.cons_append]
  | case4 c text hnot hchar hnil ih =>
      cases text with
      | nil => exact absurd (hend c rfl) hchar
      | cons d text => exact absurd hnil (splitLines_ne_nil (List.cons_ne_nil d text))
  | case5 c text hnot hchar line lines hlines ih =>
      cases text with
      | nil => cases hlines
      | cons d text =>
          have htail := ih hend hpair
          rw [hlines] at htail
          rw [List.cons_append, splitLines_cons_char _ (by simpa using hchar), htail]
          rfl

def afterBreak : List Char → List Char
  | [] => []
  | '\r' :: '\n' :: text => text
  | _ :: text => text

/-- A text without breaks is one line, up to the break that follows it. -/
theorem splitLines_line {line : List Char} (back : List Char) (hne : line ≠ [])
    (hline : ∀ c ∈ line, isLineBreak c = false) (hback : ∀ b ∈ back.head?, isLineBreak b = true) :
    splitLines (line ++ back) = line :: splitLines (afterBreak back) := by
  induction line with
  | nil => exact absurd rfl hne
  | cons c line ih =>
      have hc := hline c List.mem_cons_self
      rw [List.cons_append, splitLines_cons_char _ hc]
      cases line with
      | nil =>
          fun_cases afterBreak back with
          | case1 => rfl
          | case2 text => rfl
          | case3 b text hpair =>
              have hnext : b = '\r' → text.head? ≠ some '\n' := by
                rintro rfl hd
                cases text with
                | nil => cases hd
                | cons d text => exact hpair text rfl (congrArg (· :: text) (Option.some.inj hd))
              rw [List.nil_append, splitLines_cons_break (hback b rfl) hnext]
      | cons d line =>
          rw [ih (List.cons_ne_nil d line) fun e he => hline e (List.mem_cons_of_mem c he)]

theorem splitLines_afterBreak {back : List Char} (hback : ∀ b ∈ back.head?, isLineBreak b = true)
    (hne : back ≠ []) : splitLines back = [] :: splitLines (afterBreak back) := by
  fun_cases afterBreak back with
  | case1 => exact absurd rfl hne
  | case2 text => rfl
  | case3 b text hpair =>
      apply splitLines_cons_break (hback b rfl)
      rintro rfl hd
      cases text with
      | nil => cases hd
      | cons d text => exact hpair text rfl (congrArg (· :: text) (Option.some.inj hd))

theorem splitLines_around {before line after : List Char} (hne : line ≠ [])
    (hbefore : ∀ b ∈ before.getLast?, isLineBreak b = true)
    (hafter : ∀ b ∈ after.head?, isLineBreak b = true)
    (hline : ∀ c ∈ line, isLineBreak c = false) :
    splitLines (before ++ (line ++ after)) =
      splitLines before ++ line :: splitLines (afterBreak after) := by
  have hpair : (line ++ after).head? ≠ some '\n' := by
    cases line with
    | nil => exact absurd rfl hne
    | cons c line =>
        intro h
        have hc := hline c List.mem_cons_self
        rw [Option.some.inj h] at hc
        cases hc
  rw [splitLines_append _ hbefore fun _ => hpair, splitLines_line after hne hline hafter]

/-! ## 2. The paths of key files

`/[A-Za-z0-9_./@:+-]+\.(?:key|pem|pkcs8)` -/

def isPathChar (c : Char) : Bool := c.isAlphanum || c ∈ ['_', '.', '/', '@', ':', '+', '-']

def keyFileSuffixes : List (List Char) :=
  [['.', 'k', 'e', 'y'], ['.', 'p', 'e', 'm'], ['.', 'p', 'k', 'c', 's', '8']]

def suffixLength (text : List Char) : Option Nat :=
  (keyFileSuffixes.find? fun suffix => suffix.isPrefixOf text).map List.length

/-- As many path characters as possible, and a suffix after them. -/
def keyFileTail : List Char → Option Nat
  | [] => none
  | c :: text =>
      if isPathChar c then
        match keyFileTail text with
        | some n => some (n + 1)
        | none => suffixLength (c :: text)
      else suffixLength (c :: text)

def keyFilePath : List Char → Option Nat
  | '/' :: c :: text => if isPathChar c then (keyFileTail text).map (· + 2) else none
  | _ => none

/-- `re.finditer`: the search goes on where the last match ended. -/
def findKeyFilePaths : (skip : Nat) → List Char → List (List Char)
  | _, [] => []
  | skip + 1, _ :: text => findKeyFilePaths skip text
  | 0, c :: text =>
      match keyFilePath (c :: text) with
      | some n => (c :: text).take n :: findKeyFilePaths (n - 1) text
      | none => findKeyFilePaths 0 text

theorem isPathChar_of_isLineBreak {c : Char} (h : isLineBreak c = true) : isPathChar c = false := by
  simp only [isLineBreak, List.mem_cons, List.not_mem_nil, or_false, decide_eq_true_eq] at h
  rcases h with rfl | rfl | rfl | rfl | rfl | rfl | rfl | rfl | rfl | rfl <;> decide

/-- A word of path characters does not reach past a character of another kind. -/
theorem isPrefixOf_append {word : List Char} (hword : ∀ c ∈ word, isPathChar c = true)
    (front : List Char) {back : List Char} (hback : ∀ b ∈ back.head?, isPathChar b = false) :
    word.isPrefixOf (front ++ back) = word.isPrefixOf front := by
  induction word generalizing front with
  | nil => rw [List.isPrefixOf_nil_left, List.isPrefixOf_nil_left]
  | cons w word ih =>
      cases front with
      | nil =>
          cases back with
          | nil => rfl
          | cons b back =>
              have hne : w ≠ b := by
                rintro rfl
                have hpath := hword w List.mem_cons_self
                rw [hback w rfl] at hpath
                cases hpath
              show (w == b && word.isPrefixOf back) = false
              rw [beq_false_of_ne hne, Bool.false_and]
      | cons c front =>
          rw [List.cons_append, List.isPrefixOf, List.isPrefixOf,
            ih (fun d hd => hword d (List.mem_cons_of_mem w hd))]

theorem suffixLength_append (front : List Char) {back : List Char}
    (hback : ∀ b ∈ back.head?, isPathChar b = false) :
    suffixLength (front ++ back) = suffixLength front := by
  have hsuffix : ∀ suffix ∈ keyFileSuffixes, ∀ c ∈ suffix, isPathChar c = true := by decide
  have hfind : ∀ suffixes ⊆ keyFileSuffixes,
      (suffixes.find? fun suffix => suffix.isPrefixOf (front ++ back)) =
        suffixes.find? fun suffix => suffix.isPrefixOf front := by
    intro suffixes hsub
    induction suffixes with
    | nil => rfl
    | cons suffix suffixes ih =>
        have hword := hsuffix suffix (hsub List.mem_cons_self)
        rw [List.find?_cons, List.find?_cons, isPrefixOf_append hword front hback,
          ih fun other hother => hsub (List.mem_cons_of_mem suffix hother)]
  rw [suffixLength, suffixLength, hfind _ (List.Subset.refl _)]

theorem keyFileTail_append (front : List Char) {back : List Char}
    (hback : ∀ b ∈ back.head?, isPathChar b = false) :
    keyFileTail (front ++ back) = keyFileTail front := by
  induction front with
  | nil =>
      cases back with
      | nil => rfl
      | cons b back =>
          have hempty := suffixLength_append [] hback
          have hb := hback b rfl
          show (if isPathChar b then _ else suffixLength (b :: back)) = none
          rw [if_neg (Bool.eq_false_iff.mp hb)]
          exact hempty
  | cons c front ih =>
      have hsuffix := suffixLength_append (c :: front) hback
      rw [List.cons_append] at hsuffix ⊢
      rw [keyFileTail, keyFileTail, ih, hsuffix]

theorem suffixLength_le {text : List Char} {n : Nat} (h : suffixLength text = some n) :
    n ≤ text.length := by
  rw [suffixLength, Option.map_eq_some_iff] at h
  obtain ⟨suffix, hfind, rfl⟩ := h
  have hprefix := List.find?_some hfind
  exact (List.isPrefixOf_iff_prefix.mp hprefix).length_le

theorem keyFileTail_le {text : List Char} {n : Nat} (h : keyFileTail text = some n) :
    n ≤ text.length := by
  induction text generalizing n with
  | nil => cases h
  | cons c text ih =>
      rw [keyFileTail] at h
      split at h
      · cases htail : keyFileTail text with
        | none =>
            rw [htail] at h
            exact suffixLength_le h
        | some m =>
            rw [htail] at h
            have hm := ih htail
            have hn := Option.some.inj h
            rw [List.length_cons]
            omega
      · exact suffixLength_le h

theorem keyFilePath_le {text : List Char} {n : Nat} (h : keyFilePath text = some n) :
    n ≤ text.length := by
  fun_cases keyFilePath text with
  | case1 c text hpath =>
      rw [keyFilePath, if_pos hpath, Option.map_eq_some_iff] at h
      obtain ⟨m, htail, rfl⟩ := h
      have hm := keyFileTail_le htail
      rw [List.length_cons, List.length_cons]
      omega
  | case2 c text hpath =>
      rw [keyFilePath, if_neg hpath] at h
      cases h
  | case3 text hother =>
      rw [keyFilePath] at h
      · cases h
      · exact hother

theorem keyFilePath_append {front : List Char} (hne : front ≠ []) {back : List Char}
    (hback : ∀ b ∈ back.head?, isPathChar b = false) :
    keyFilePath (front ++ back) = keyFilePath front := by
  cases front with
  | nil => exact absurd rfl hne
  | cons c front =>
      by_cases hslash : c = '/'
      · subst hslash
        cases front with
        | nil =>
            cases back with
            | nil => rfl
            | cons b back =>
                show (if isPathChar b then _ else none) = none
                rw [if_neg (by simp [hback b rfl])]
        | cons d front =>
            rw [List.cons_append, List.cons_append, keyFilePath, keyFilePath,
              keyFileTail_append front hback]
      · rw [List.cons_append, keyFilePath, keyFilePath]
        · intro d text hc
          exact absurd (List.cons.inj hc).1 hslash
        · intro d text hc
          exact absurd (List.cons.inj hc).1 hslash

theorem keyFilePath_cons {c : Char} (text : List Char) (hc : isPathChar c = false) :
    keyFilePath (c :: text) = none := by
  rw [keyFilePath]
  intro d rest h
  rw [(List.cons.inj h).1] at hc
  cases hc

/-- No path crosses a character that is not a path character. -/
theorem findKeyFilePaths_append {skip : Nat} {front : List Char} (hskip : skip ≤ front.length)
    {back : List Char} (hback : ∀ b ∈ back.head?, isPathChar b = false) :
    findKeyFilePaths skip (front ++ back) =
      findKeyFilePaths skip front ++ findKeyFilePaths 0 back := by
  induction front generalizing skip with
  | nil =>
      have hzero := Nat.le_zero.mp hskip
      rw [hzero]
      rfl
  | cons c front ih =>
      cases skip with
      | succ skip => exact ih (Nat.le_of_succ_le_succ hskip)
      | zero =>
          have hpath := keyFilePath_append (List.cons_ne_nil c front) hback
          rw [List.cons_append] at hpath ⊢
          rw [findKeyFilePaths, findKeyFilePaths, hpath]
          cases hfound : keyFilePath (c :: front) with
          | none => exact ih (Nat.zero_le _)
          | some n =>
              have hn := keyFilePath_le hfound
              rw [List.length_cons] at hn
              have htake : (c :: (front ++ back)).take n = (c :: front).take n := by
                rw [← List.cons_append, List.take_append_of_le_length]
                rw [List.length_cons]
                exact hn
              have htail : findKeyFilePaths (n - 1) (front ++ back) = _ := ih (by omega)
              show _ :: _ = (_ :: _) ++ _
              rw [htake, htail, List.cons_append]

theorem findKeyFilePaths_cons {c : Char} (text : List Char) (hc : isPathChar c = false) :
    findKeyFilePaths 0 (c :: text) = findKeyFilePaths 0 text := by
  rw [findKeyFilePaths, keyFilePath_cons text hc]

theorem findKeyFilePaths_around {before line after : List Char}
    (hbefore : ∀ b ∈ before.getLast?, isLineBreak b = true)
    (hafter : ∀ b ∈ after.head?, isLineBreak b = true) :
    findKeyFilePaths 0 (before ++ (line ++ after)) =
      findKeyFilePaths 0 before ++ (findKeyFilePaths 0 line ++ findKeyFilePaths 0 after) := by
  have hline : findKeyFilePaths 0 (line ++ after) = _ :=
    findKeyFilePaths_append (Nat.zero_le _) fun b hb => isPathChar_of_isLineBreak (hafter b hb)
  cases hlast : before.getLast? with
  | none =>
      rw [List.getLast?_eq_none_iff.mp hlast, List.nil_append, hline]
      rfl
  | some b =>
      obtain ⟨front, rfl⟩ := List.getLast?_eq_some_iff.mp hlast
      have hb := isPathChar_of_isLineBreak (hbefore b hlast)
      have hend : ∀ rest : List Char, findKeyFilePaths 0 (front ++ b :: rest) =
          findKeyFilePaths 0 front ++ findKeyFilePaths 0 rest := by
        intro rest
        rw [findKeyFilePaths_append (Nat.zero_le _), findKeyFilePaths_cons rest hb]
        rintro c hc
        exact Option.some.inj hc ▸ hb
      rw [List.append_assoc, List.singleton_append, hend, hend, hline]
      show _ = (_ ++ findKeyFilePaths 0 []) ++ _
      rw [findKeyFilePaths, List.append_nil]

theorem keyFilePath_pos {text : List Char} {n : Nat} (h : keyFilePath text = some n) : 0 < n := by
  fun_cases keyFilePath text with
  | case1 c text hpath =>
      rw [keyFilePath, if_pos hpath, Option.map_eq_some_iff] at h
      obtain ⟨m, -, rfl⟩ := h
      omega
  | case2 c text hpath =>
      rw [keyFilePath, if_neg hpath] at h
      cases h
  | case3 text hother =>
      rw [keyFilePath] at h
      · cases h
      · exact hother

theorem findKeyFilePaths_ne_nil {skip : Nat} {text path : List Char}
    (h : path ∈ findKeyFilePaths skip text) : ¬ path = [] := by
  fun_induction findKeyFilePaths skip text with
  | case1 => cases h
  | case2 skip c text ih => exact ih h
  | case3 c text n hfound ih =>
      rcases List.mem_cons.mp h with rfl | htail
      · have hpos := keyFilePath_pos hfound
        rw [List.take_eq_nil_iff, not_or]
        exact ⟨Nat.ne_of_gt hpos, List.cons_ne_nil c text⟩
      · exact ih htail
  | case4 c text hfound ih => exact ih h

theorem findKeyFilePaths_afterBreak {back : List Char}
    (hback : ∀ b ∈ back.head?, isLineBreak b = true) :
    findKeyFilePaths 0 back = findKeyFilePaths 0 (afterBreak back) := by
  fun_cases afterBreak back with
  | case1 => rfl
  | case2 text => rw [findKeyFilePaths_cons _ (by decide), findKeyFilePaths_cons _ (by decide)]
  | case3 b text hpair => exact findKeyFilePaths_cons text (isPathChar_of_isLineBreak (hback b rfl))

theorem length_afterBreak_lt {back : List Char} (hne : back ≠ []) :
    (afterBreak back).length < back.length := by
  fun_cases afterBreak back with
  | case1 => exact absurd rfl hne
  | case2 text => simp only [List.length_cons]; omega
  | case3 b text hpair => simp

theorem findKeyFilePaths_splitLines (text : List Char) :
    findKeyFilePaths 0 text = (splitLines text).flatMap (findKeyFilePaths 0) := by
  -- The induction goes from the text to what follows its first line break.
  induction hlength : text.length using Nat.strongRecOn generalizing text with
  | ind n ih =>
      subst hlength
      let line := text.takeWhile (!isLineBreak ·)
      let back := text.dropWhile (!isLineBreak ·)
      have htext : text = line ++ back := List.takeWhile_append_dropWhile.symm
      have hline : ∀ c ∈ line, isLineBreak c = false := by
        intro c hc
        simpa using List.mem_takeWhile_imp hc
      have hback : ∀ b ∈ back.head?, isLineBreak b = true := by
        intro b hb
        simpa using Library.not_of_mem_head?_dropWhile hb
      have hpaths : findKeyFilePaths 0 text =
          findKeyFilePaths 0 line ++ findKeyFilePaths 0 (afterBreak back) := by
        rw [htext, findKeyFilePaths_append (Nat.zero_le _) fun b hb =>
          isPathChar_of_isLineBreak (hback b hb), findKeyFilePaths_afterBreak hback]
      by_cases hempty : text = []
      · rw [hempty]
        rfl
      have hlines : splitLines text = line :: splitLines (afterBreak back) := by
        by_cases hnil : line = []
        · rw [hnil, List.nil_append] at htext
          rw [hnil, htext]
          exact splitLines_afterBreak hback (htext ▸ hempty)
        · rw [htext]
          exact splitLines_line back hnil hline hback
      have hshort : (afterBreak back).length < text.length := by
        by_cases hnil : back = []
        · rw [hnil]
          exact List.length_pos_iff.mpr hempty
        · have hlt := length_afterBreak_lt hnil
          have hsum := congrArg List.length htext
          rw [List.length_append] at hsum
          omega
      rw [hpaths, hlines, List.flatMap_cons, ih _ hshort _ rfl]

/-! ## 3. Directives -/

variable [PyText]

/-- `s.strip(chars)` and `s.rstrip(chars)` -/
def rstripChars (chars : List Char) (s : List Char) : List Char := s.rdropWhile (· ∈ chars)

def stripChars (chars : List Char) (s : List Char) : List Char :=
  rstripChars chars (s.dropWhile (· ∈ chars))

def quotes : List Char := ['\'', '"']

def beforeHash (s : List Char) : List Char := s.takeWhile (· ≠ '#')

/-- `s.split(separator, 1)` for a separator that is there. -/
def splitAtFirst (separator : Char) (s : List Char) : List Char × List Char :=
  (s.takeWhile (· ≠ separator), (s.dropWhile (· ≠ separator)).tail)

/-- `re.split(r"\s+", s, maxsplit=1)`, if it gives two parts. -/
def splitAtSpace (s : List Char) : Option (List Char × List Char) :=
  if s.any PyText.isSpace then
    some (s.takeWhile (!PyText.isSpace ·),
      (s.dropWhile (!PyText.isSpace ·)).dropWhile PyText.isSpace)
  else none

def isDirectiveKeyChar (c : Char) : Bool := c.isAlphanum || c ∈ ['_', '.', '-']

/-- `^[A-Za-z0-9_.-]+\s*:` -/
def startsWithColonKey (s : List Char) : Bool :=
  s.takeWhile isDirectiveKeyChar ≠ [] &&
    ((s.dropWhile isDirectiveKeyChar).dropWhile PyText.isSpace).head? = some ':'

def parseConfigDirective (line : List Char) : Option (List Char × List Char) :=
  let stripped := strip line
  if stripped = [] ∨ stripped.head? = some '#' then none
  else
    let stripped := if '#' ∈ stripped then strip (beforeHash stripped) else stripped
    let stripped := strip (rstripChars [';'] stripped)
    if stripped = [] then none
    else
      let parts :=
        if '=' ∈ stripped then some (splitAtFirst '=' stripped)
        else if ':' ∈ stripped ∧ startsWithColonKey stripped then some (splitAtFirst ':' stripped)
        else splitAtSpace stripped
      parts.map fun (key, value) => (strip key, stripChars quotes (strip value))

end CryptoScanner.HostScanners
