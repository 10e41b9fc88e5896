import CryptoScanner.Frontend.ExposureDot
import Mathlib.Data.Set.Function

/-!
# Texts in DOT

The scanner of DOT reads a quoted string up to the first quote that is not escaped, and leaves most
escape sequences to the readers of labels.
-/

namespace CryptoScanner.Frontend

open JavaScript

/-! ## 1. Reading DOT -/

/-- What the scanner reads behind an opening quote, and the text that follows the closing one.  An
escaped quote stands for the quote, an escaped line feed for nothing; two backslashes are kept. -/
def scanQuoted : JsString → Option (JsString × JsString)
  | [] => none
  | [c] => if c = quote then some ([], []) else none
  | c :: d :: text =>
      if c = quote then some ([], d :: text)
      else if c = backslash then
        if d = quote then (scanQuoted text).map fun (value, rest) => (quote :: value, rest)
        else if d = backslash then
          (scanQuoted text).map fun (value, rest) => (backslash :: backslash :: value, rest)
        else if d = lineFeed then scanQuoted text
        else (scanQuoted (d :: text)).map fun (value, rest) => (backslash :: value, rest)
      else (scanQuoted (d :: text)).map fun (value, rest) => (c :: value, rest)

def scanString : JsString → Option (JsString × JsString)
  | [] => none
  | c :: text => if c = quote then scanQuoted text else none

/-- The text of a label: two backslashes stand for one, `\n` for a line feed.  The other escape
sequences, for the names of the graph's parts and for alignment, stand for no fixed text. -/
def escString : JsString → Option JsString
  | [] => some []
  | [c] => if c = backslash then none else some [c]
  | c :: d :: value =>
      if c = backslash then
        if d = backslash then (escString value).map (backslash :: ·)
        else if d = letterN then (escString value).map (lineFeed :: ·)
        else none
      else (escString (d :: value)).map (c :: ·)

example : scanString (quoteId (js "say \"hi\\n\"\r\n") ++ js " -> x") =
    some (js "say \"hi\\\\n\"\\n", js " -> x") := by decide

/-! ## 2. The replacements as one -/

def escapeUnit (c : UInt16) : JsString :=
  if c = backslash then [backslash, backslash]
  else if c = quote then [backslash, quote]
  else if c = lineFeed then [backslash, letterN]
  else if c = carriageReturn then []
  else [c]

theorem replaceUnit_append (c : UInt16) (text value value' : JsString) :
    replaceUnit c text (value ++ value') =
      replaceUnit c text value ++ replaceUnit c text value' :=
  List.flatMap_append

theorem dotEscape_append (value value' : JsString) :
    dotEscape (value ++ value') = dotEscape value ++ dotEscape value' := by
  unfold dotEscape
  rw [replaceUnit_append, replaceUnit_append, replaceUnit_append, replaceUnit_append]

theorem replaceUnit_singleton {c d : UInt16} (text : JsString) (h : d ≠ c) :
    replaceUnit c text [d] = [d] := by
  unfold replaceUnit
  rw [List.flatMap_singleton, if_neg h]

theorem dotEscape_singleton (c : UInt16) : dotEscape [c] = escapeUnit c := by
  unfold escapeUnit
  split
  · rename_i h
    rw [h]
    decide
  split
  · rename_i h
    rw [h]
    decide
  split
  · rename_i h
    rw [h]
    decide
  split
  · rename_i h
    rw [h]
    decide
  · rename_i hbackslash hquote hline hreturn
    unfold dotEscape
    rw [replaceUnit_singleton _ hbackslash, replaceUnit_singleton _ hquote,
      replaceUnit_singleton _ hline, replaceUnit_singleton _ hreturn]

/-- No replacement sees what another one has put in. -/
theorem dotEscape_cons (c : UInt16) (value : JsString) :
    dotEscape (c :: value) = escapeUnit c ++ dotEscape value := by
  rw [← List.singleton_append, dotEscape_append, dotEscape_singleton]

/-! ## 3. What the scanner reads -/

theorem scanQuoted_cons {c : UInt16} (hquote : c ≠ quote) (hbackslash : c ≠ backslash)
    (text : JsString) :
    scanQuoted (c :: text) = (scanQuoted text).map fun (value, rest) => (c :: value, rest) := by
  cases text with
  | nil =>
      show (if c = quote then some ([], []) else none) = none
      rw [if_neg hquote]
  | cons d text => rw [scanQuoted, if_neg hquote, if_neg hbackslash]

theorem scanQuoted_backslash {d : UInt16} (hquote : d ≠ quote) (hbackslash : d ≠ backslash)
    (hline : d ≠ lineFeed) (text : JsString) : scanQuoted (backslash :: d :: text) =
      (scanQuoted text).map fun (value, rest) => (backslash :: d :: value, rest) := by
  rw [scanQuoted, if_neg (by decide), if_pos rfl, if_neg hquote, if_neg hbackslash, if_neg hline,
    scanQuoted_cons hquote hbackslash, Option.map_map]
  rfl

def scannedUnit (c : UInt16) : JsString := if c = quote then [quote] else escapeUnit c

theorem scanQuoted_escapeUnit (c : UInt16) (text : JsString) :
    scanQuoted (escapeUnit c ++ text) =
      (scanQuoted text).map fun (value, rest) => (scannedUnit c ++ value, rest) := by
  by_cases hquote : c = quote
  · rw [hquote]
    rfl
  unfold scannedUnit escapeUnit
  rw [if_neg hquote, if_neg hquote]
  by_cases hbackslash : c = backslash
  · rw [if_pos hbackslash]
    rfl
  rw [if_neg hbackslash]
  by_cases hline : c = lineFeed
  · rw [if_pos hline]
    exact scanQuoted_backslash (by decide) (by decide) (by decide) text
  rw [if_neg hline]
  by_cases hreturn : c = carriageReturn
  · rw [if_pos hreturn]
    exact Option.map_id'.symm
  · rw [if_neg hreturn]
    exact scanQuoted_cons hquote hbackslash text

def scannedText (text : JsString) : JsString := text.flatMap scannedUnit

/-- The string ends at the quote behind the escaped text, whatever follows. -/
theorem scanQuoted_dotEscape (text rest : JsString) :
    scanQuoted (dotEscape text ++ quote :: rest) = some (scannedText text, rest) := by
  induction text with
  | nil => cases rest <;> rfl
  | cons c text ih =>
      rw [dotEscape_cons, List.append_assoc, scanQuoted_escapeUnit, ih, Option.map_some]
      rfl

theorem scanString_quoteId (text rest : JsString) :
    scanString (quoteId text ++ rest) = some (scannedText text, rest) := by
  unfold quoteId
  rw [List.append_assoc, List.append_assoc, List.singleton_append, List.singleton_append,
    scanString, if_pos rfl, scanQuoted_dotEscape]

/-! ## 4. What a label shows -/

theorem escString_cons {c : UInt16} (h : c ≠ backslash) (value : JsString) :
    escString (c :: value) = (escString value).map (c :: ·) := by
  cases value with
  | nil =>
      show (if c = backslash then none else some [c]) = some [c]
      rw [if_neg h]
  | cons d value => rw [escString, if_neg h]

theorem escString_scannedUnit (c : UInt16) (value : JsString) :
    escString (scannedUnit c ++ value) =
      (escString value).map ([c].filter (· ≠ carriageReturn) ++ ·) := by
  by_cases hquote : c = quote
  · rw [hquote]
    exact escString_cons (by decide) value
  unfold scannedUnit escapeUnit
  rw [if_neg hquote, if_neg hquote]
  by_cases hbackslash : c = backslash
  · rw [if_pos hbackslash, hbackslash]
    rfl
  rw [if_neg hbackslash]
  by_cases hline : c = lineFeed
  · rw [if_pos hline, hline]
    rfl
  rw [if_neg hline]
  by_cases hreturn : c = carriageReturn
  · rw [if_pos hreturn, hreturn]
    exact Option.map_id'.symm
  · have hkeep : [c].filter (· ≠ carriageReturn) = [c] := by simp [hreturn]
    rw [if_neg hreturn, hkeep]
    exact escString_cons hbackslash value

theorem escString_scannedText (text : JsString) :
    escString (scannedText text) = some (text.filter (· ≠ carriageReturn)) := by
  induction text with
  | nil => rfl
  | cons c text ih =>
      have hcons : scannedText (c :: text) = scannedUnit c ++ scannedText text := List.flatMap_cons
      rw [hcons, escString_scannedUnit, ih, Option.map_some, ← List.filter_append,
        List.singleton_append]

/-! ## 5. Quoting -/

theorem not_mem_escapeUnit (c : UInt16) :
    lineFeed ∉ escapeUnit c ∧ carriageReturn ∉ escapeUnit c := by
  unfold escapeUnit
  split
  · decide
  split
  · decide
  split
  · decide
  split
  · decide
  · rename_i hline hreturn
    rw [List.mem_singleton, List.mem_singleton]
    exact ⟨Ne.symm hline, Ne.symm hreturn⟩

theorem not_mem_quoteId (text : JsString) :
    lineFeed ∉ quoteId text ∧ carriageReturn ∉ quoteId text := by
  have hescape : lineFeed ∉ dotEscape text ∧ carriageReturn ∉ dotEscape text := by
    induction text with
    | nil => decide
    | cons c text ih =>
        rw [dotEscape_cons, List.mem_append, List.mem_append, not_or, not_or]
        obtain ⟨hline, hreturn⟩ := not_mem_escapeUnit c
        exact ⟨⟨hline, ih.1⟩, hreturn, ih.2⟩
  unfold quoteId
  simp only [List.mem_append, not_or]
  exact ⟨⟨⟨by decide, hescape.1⟩, by decide⟩, ⟨by decide, hescape.2⟩, by decide⟩

/-- Two texts without carriage returns are two names to the scanner. -/
theorem scannedText_injOn : Set.InjOn scannedText {text | carriageReturn ∉ text} := by
  have hkeep : ∀ {text : JsString}, carriageReturn ∉ text →
      text.filter (· ≠ carriageReturn) = text := by
    intro text h
    rw [List.filter_eq_self]
    intro c hc
    exact decide_eq_true fun heq => h (heq ▸ hc)
  intro text htext other hother h
  have hshown := congrArg escString h
  rw [escString_scannedText, escString_scannedText, hkeep htext, hkeep hother] at hshown
  exact Option.some.inj hshown

theorem quoteId_injOn : Set.InjOn quoteId {text | carriageReturn ∉ text} := by
  intro text htext other hother h
  have hscan := congrArg (fun quoted => scanString (quoted ++ [])) h
  rw [scanString_quoteId, scanString_quoteId] at hscan
  exact scannedText_injOn htext hother (congrArg Prod.fst (Option.some.inj hscan))

/-! ## 6. Documents -/

def isPlain (c : UInt16) : Bool := c ∉ [quote, 0x23, 0x2f, 0x3c]

inductive DotToken
  | unit (c : UInt16)
  | string (value : JsString)
  deriving DecidableEq, Repr

/-- What stands outside the strings, each of which leaves a mark. -/
def DotToken.outside : DotToken → Option UInt16
  | unit c => some c
  | string _ => none

/-- The strings of a document and the units between them.  The fuel bounds the number of tokens. -/
def scanTokens : Nat → JsString → Option (List DotToken)
  | 0, _ => none
  | _ + 1, [] => some []
  | fuel + 1, c :: text =>
      if c = quote then
        (scanQuoted text).bind fun (value, rest) => (scanTokens fuel rest).map (.string value :: ·)
      else if isPlain c then (scanTokens fuel text).map (.unit c :: ·)
      else none

def scanDocument (document : JsString) : Option (List DotToken) :=
  scanTokens (document.length + 1) document

/-- The documents differ in the texts of their strings only. -/
inductive Alike : JsString → JsString → Prop
  | nil : Alike [] []
  | plain {c : UInt16} (h : isPlain c = true) {document document' : JsString} :
      Alike document document' → Alike (c :: document) (c :: document')
  | quoted (text text' : JsString) {document document' : JsString} :
      Alike document document' → Alike (quoteId text ++ document) (quoteId text' ++ document')

theorem scanTokens_quoteId (fuel : Nat) (text document : JsString) :
    scanTokens (fuel + 1) (quoteId text ++ document) =
      (scanTokens fuel document).map (.string (scannedText text) :: ·) := by
  have hquoted : quoteId text ++ document = quote :: (dotEscape text ++ quote :: document) := by
    simp [quoteId]
  rw [hquoted, scanTokens, if_pos rfl, scanQuoted_dotEscape]
  rfl

/-- Texts in quotes do not change what stands outside of them. -/
theorem Alike.scan {document document' : JsString} (h : Alike document document') :
    ∃ tokens tokens', scanDocument document = some tokens ∧ scanDocument document' = some tokens' ∧
      tokens.map DotToken.outside = tokens'.map DotToken.outside := by
  -- the scanner takes what is left of the text as fuel, so any larger bound gives the same
  have hscan : ∃ tokens tokens',
      (∀ fuel, document.length < fuel → scanTokens fuel document = some tokens) ∧
      (∀ fuel, document'.length < fuel → scanTokens fuel document' = some tokens') ∧
      tokens.map DotToken.outside = tokens'.map DotToken.outside := by
    induction h with
    | nil =>
        have hempty : ∀ fuel, 0 < fuel → scanTokens fuel [] = some [] := by
          intro fuel hfuel
          cases fuel with
          | zero => omega
          | succ fuel => rfl
        exact ⟨[], [], hempty, hempty, rfl⟩
    | @plain c hplain document document' _ ih =>
        obtain ⟨tokens, tokens', htokens, htokens', houtside⟩ := ih
        have hquote : c ≠ quote := by
          intro heq
          rw [heq] at hplain
          cases hplain
        have hcons : ∀ {document tokens},
            (∀ fuel, document.length < fuel → scanTokens fuel document = some tokens) →
            ∀ fuel, (c :: document).length < fuel →
              scanTokens fuel (c :: document) = some (.unit c :: tokens) := by
          intro document tokens hdocument fuel hfuel
          rw [List.length_cons] at hfuel
          cases fuel with
          | zero => omega
          | succ fuel =>
              rw [scanTokens, if_neg hquote, if_pos hplain, hdocument fuel (by omega)]
              rfl
        exact ⟨_, _, hcons htokens, hcons htokens',
          congrArg (DotToken.outside (.unit c) :: ·) houtside⟩
    | quoted text text' _ ih =>
        obtain ⟨tokens, tokens', htokens, htokens', houtside⟩ := ih
        have hstring : ∀ {document tokens} (text : JsString),
            (∀ fuel, document.length < fuel → scanTokens fuel document = some tokens) →
            ∀ fuel, (quoteId text ++ document).length < fuel →
              scanTokens fuel (quoteId text ++ document) =
                some (.string (scannedText text) :: tokens) := by
          intro document tokens text hdocument fuel hfuel
          have hlength : 2 ≤ (quoteId text).length := by
            simp [quoteId]
          rw [List.length_append] at hfuel
          cases fuel with
          | zero => omega
          | succ fuel =>
              rw [scanTokens_quoteId, hdocument fuel (by omega)]
              rfl
        exact ⟨_, _, hstring text htokens, hstring text' htokens',
          congrArg (none :: ·) houtside⟩
  obtain ⟨tokens, tokens', htokens, htokens', houtside⟩ := hscan
  exact ⟨tokens, tokens', htokens _ (Nat.lt_succ_self _), htokens' _ (Nat.lt_succ_self _), houtside⟩

namespace Alike

variable {text text' document document' : JsString}

theorem append (h : Alike text text') (hdocument : Alike document document') :
    Alike (text ++ document) (text' ++ document') := by
  induction h with
  | nil => exact hdocument
  | plain hplain _ ih => exact .plain hplain ih
  | quoted text text' _ ih =>
      rw [List.append_assoc, List.append_assoc]
      exact .quoted text text' ih

theorem string (text text' : JsString) : Alike (quoteId text) (quoteId text') := by
  have hquoted := Alike.quoted text text' .nil
  rw [List.append_nil, List.append_nil] at hquoted
  exact hquoted

theorem lines {lines lines' : List JsString} (h : List.Forall₂ Alike lines lines') :
    Alike (joinLines lines) (joinLines lines') := by
  induction h with
  | nil => exact .nil
  | cons hline hlines ih =>
      cases hlines with
      | nil => exact hline
      | cons hnext hlines => exact hline.append (.plain (by decide) ih)

end Alike

/-! ## 7. Fixed texts -/

/-- Escaping changes nothing. -/
def IsClean (text : JsString) : Prop :=
  ∀ c ∈ text, c ∉ [backslash, quote, lineFeed, carriageReturn]

instance (text : JsString) : Decidable (IsClean text) :=
  inferInstanceAs (Decidable (∀ c ∈ text, _))

theorem IsClean.dotEscape_eq {text : JsString} (h : IsClean text) : dotEscape text = text := by
  induction text with
  | nil => rfl
  | cons c text ih =>
      have hc := h c List.mem_cons_self
      simp only [List.mem_cons, List.not_mem_nil, or_false, not_or] at hc
      rw [dotEscape_cons, ih fun d hd => h d (List.mem_cons_of_mem c hd), escapeUnit,
        if_neg hc.1, if_neg hc.2.1, if_neg hc.2.2.1, if_neg hc.2.2.2]
      rfl

theorem IsClean.inQuotes_eq {text : JsString} (h : IsClean text) :
    inQuotes text = quoteId text := by
  rw [inQuotes, quoteId, h.dotEscape_eq]

/-- A text of the program, of plain units and of clean strings.  The flag tells whether a string is
open. -/
def isLiteral : Bool → JsString → Bool
  | opened, [] => !opened
  | opened, c :: text =>
      if c = quote then isLiteral (!opened) text
      else (if opened then decide (IsClean [c]) else isPlain c) && isLiteral opened text

theorem Alike.literal {text : JsString} (h : isLiteral false text = true) : Alike text text := by
  -- an open string has a clean rest, its quote, and a literal behind it
  have hliteral : (isLiteral false text = true → Alike text text) ∧
      (isLiteral true text = true → ∃ value rest, text = value ++ quote :: rest ∧ IsClean value ∧
        Alike rest rest) := by
    clear h
    induction text with
    | nil => exact ⟨fun _ => .nil, fun h => nomatch h⟩
    | cons c text ih =>
        refine ⟨fun h => ?_, fun h => ?_⟩
        · by_cases hquote : c = quote
          · rw [isLiteral, if_pos hquote] at h
            obtain ⟨value, rest, htext, hclean, hrest⟩ := ih.2 h
            have hquoted : c :: text = quoteId value ++ rest := by
              rw [hquote, htext, ← hclean.inQuotes_eq]
              simp [inQuotes]
            rw [hquoted]
            exact .quoted value value hrest
          · rw [isLiteral, if_neg hquote, Bool.and_eq_true] at h
            exact .plain h.1 (ih.1 h.2)
        · by_cases hquote : c = quote
          · rw [isLiteral, if_pos hquote] at h
            exact ⟨[], text, by rw [hquote]; rfl, nofun, ih.1 h⟩
          · rw [isLiteral, if_neg hquote, Bool.and_eq_true] at h
            obtain ⟨value, rest, htext, hclean, hrest⟩ := ih.2 h.2
            have hc : IsClean [c] := of_decide_eq_true h.1
            refine ⟨c :: value, rest, by rw [htext]; rfl, ?_, hrest⟩
            intro d hd
            rcases List.mem_cons.mp hd with rfl | hd
            · exact hc d List.mem_cons_self
            · exact hclean d hd
  exact hliteral.1 h

theorem Alike.around {before after value value' : JsString} (hbefore : isLiteral false before = true)
    (hvalue : Alike value value') (hafter : isLiteral false after = true) :
    Alike (before ++ value ++ after) (before ++ value' ++ after) :=
  ((literal hbefore).append hvalue).append (literal hafter)

theorem Alike.clean {value value' : JsString} (h : IsClean value) (h' : IsClean value') :
    Alike (inQuotes value) (inQuotes value') := by
  rw [h.inQuotes_eq, h'.inQuotes_eq]
  exact string value value'

/-! ## 8. Indented statements -/

theorem joinLines_append (front line : JsString) (lines : List JsString) :
    joinLines ((front ++ line) :: lines) = front ++ joinLines (line :: lines) := by
  cases lines with
  | nil => rfl
  | cons next lines => simp [joinLines]

def reindent (blanks value : JsString) : JsString := replaceUnit lineFeed (lineFeed :: blanks) value

theorem reindent_cons (blanks : JsString) (c : UInt16) (value : JsString) :
    reindent blanks (c :: value) =
      (if c = lineFeed then lineFeed :: blanks else [c]) ++ reindent blanks value := by
  rw [reindent, replaceUnit, List.flatMap_cons]
  rfl

/-- A string has no line feed, so it stays as it is. -/
theorem reindent_quoteId (blanks value : JsString) :
    reindent blanks (quoteId value) = quoteId value := by
  have hline := (not_mem_quoteId value).1
  have hunits : ∀ c ∈ quoteId value, (if c = lineFeed then lineFeed :: blanks else [c]) = [c] := by
    intro c hc
    rw [if_neg]
    rintro rfl
    exact hline hc
  rw [reindent, replaceUnit, List.flatMap_congr hunits]
  exact List.flatMap_singleton' _

theorem indent_eq (value : JsString) (spaces : Nat) :
    indent value spaces =
      List.replicate spaces space ++ reindent (List.replicate spaces space) value := by
  have hlines : ∀ blanks : JsString, ∃ line lines, value.splitOn lineFeed = line :: lines ∧
      joinLines (line :: lines.map (blanks ++ ·)) = reindent blanks value := by
    intro blanks
    induction value with
    | nil => exact ⟨[], [], rfl, rfl⟩
    | cons c value ih =>
        obtain ⟨line, lines, hsplit, hjoin⟩ := ih
        rw [List.splitOn_cons_eq_if_modifyHead, hsplit, reindent_cons]
        by_cases hline : c = lineFeed
        · refine ⟨[], line :: lines, if_pos (beq_iff_eq.mpr hline), ?_⟩
          rw [if_pos hline, ← hjoin, List.cons_append, ← joinLines_append]
          rfl
        · refine ⟨c :: line, lines, if_neg (by simp [hline]), ?_⟩
          rw [if_neg hline, ← hjoin, ← joinLines_append]
          rfl
  obtain ⟨line, lines, hsplit, hjoin⟩ := hlines (List.replicate spaces space)
  rw [indent, hsplit, List.map_cons, joinLines_append, hjoin]

theorem Alike.indented {text text' : JsString} (h : Alike text text') (spaces : Nat) :
    Alike (indent text spaces) (indent text' spaces) := by
  have hblanks : Alike (List.replicate spaces space) (List.replicate spaces space) := by
    induction spaces with
    | zero => exact .nil
    | succ spaces ih => exact .plain (by decide) ih
  rw [indent_eq, indent_eq]
  refine hblanks.append ?_
  induction h with
  | nil => exact .nil
  | @plain c hplain document document' _ ih =>
      rw [reindent_cons, reindent_cons]
      refine Alike.append ?_ ih
      split
      · exact .plain (by decide) hblanks
      · exact .plain hplain .nil
  | quoted value value' _ ih =>
      have happend : ∀ value document : JsString,
          reindent (List.replicate spaces space) (quoteId value ++ document) =
            quoteId value ++ reindent (List.replicate spaces space) document := by
        intro value document
        rw [reindent, replaceUnit_append]
        exact congrArg (· ++ _) (reindent_quoteId _ value)
      rw [happend, happend]
      exact .quoted value value' ih

/-! ## 9. The document -/

theorem isClean_percentByte (byte : Nat) : IsClean (percentByte byte) := by
  have hdigit : ∀ n < 16, IsClean [hexUnit n] := by decide
  have hhigh := hdigit (byte / 16 % 16) (Nat.mod_lt _ (by decide))
  have hlow := hdigit (byte % 16) (Nat.mod_lt _ (by decide))
  have hpercent : IsClean [0x25] := by decide
  intro c hc
  rcases List.mem_cons.mp hc with rfl | hc
  · exact hpercent _ List.mem_cons_self
  · rcases List.mem_cons.mp hc with rfl | hc
    · exact hhigh _ List.mem_cons_self
    · exact hlow _ hc

theorem IsClean.append {text text' : JsString} (h : IsClean text) (h' : IsClean text') :
    IsClean (text ++ text') := by
  intro c hc
  exact (List.mem_append.mp hc).elim (h c) (h' c)

theorem isClean_utf8 (bytes : List Nat) : IsClean (bytes.flatMap percentByte) := by
  intro c hc
  obtain ⟨byte, -, hc⟩ := List.mem_flatMap.mp hc
  exact isClean_percentByte byte c hc

theorem isClean_uriUnit {c : UInt16} (h : isUriUnit c = true) : IsClean [c] := by
  intro d hd hspecial
  rw [List.mem_singleton.mp hd] at hspecial
  have hnot : ∀ special ∈ [backslash, quote, lineFeed, carriageReturn],
      isUriUnit special = false := by decide
  rw [hnot c hspecial] at h
  cases h

theorem isClean_encodeURIComponent {text encoded : JsString}
    (h : encodeURIComponent text = some encoded) : IsClean encoded := by
  induction text using encodeURIComponent.induct generalizing encoded with
  | case1 =>
      cases h
      exact nofun
  | case2 c huri =>
      rw [encodeURIComponent, if_pos huri] at h
      cases h
      exact isClean_uriUnit huri
  | case3 c huri hsurrogate =>
      rw [encodeURIComponent, if_neg huri, if_pos hsurrogate] at h
      cases h
  | case4 c huri hsurrogate =>
      rw [encodeURIComponent, if_neg huri, if_neg hsurrogate] at h
      cases h
      exact isClean_utf8 _
  | case5 c d text huri ih =>
      rw [encodeURIComponent, if_pos huri] at h
      obtain ⟨rest, hrest, rfl⟩ := Option.map_eq_some_iff.mp h
      exact (isClean_uriUnit huri).append (ih hrest)
  | case6 c d text huri hhigh hlow ih =>
      rw [encodeURIComponent, if_neg huri, if_pos hhigh, if_pos hlow] at h
      obtain ⟨rest, hrest, rfl⟩ := Option.map_eq_some_iff.mp h
      exact (isClean_utf8 _).append (ih hrest)
  | case7 c d text huri hhigh hlow =>
      rw [encodeURIComponent, if_neg huri, if_pos hhigh, if_neg hlow] at h
      cases h
  | case8 c d text huri hhigh hlow =>
      rw [encodeURIComponent, if_neg huri, if_neg hhigh, if_pos hlow] at h
      cases h
  | case9 c d text huri hhigh hlow ih =>
      rw [encodeURIComponent, if_neg huri, if_neg hhigh, if_neg hlow] at h
      obtain ⟨rest, hrest, rfl⟩ := Option.map_eq_some_iff.mp h
      exact (isClean_utf8 _).append (ih hrest)

theorem isClean_graphNodeAppUrl {id url : JsString} (h : graphNodeAppUrl id = some url) :
    IsClean url := by
  obtain ⟨encoded, hencoded, rfl⟩ := Option.map_eq_some_iff.mp h
  have hprefix : IsClean (js "#graph-node:") := by decide
  exact hprefix.append (isClean_encodeURIComponent hencoded)

theorem isClean_riskStyles (tier : Option RiskEngine.Tier) :
    IsClean (riskStyles tier).border ∧ IsClean (riskStyles tier).fill ∧
      IsClean (riskStyles tier).text := by
  cases tier with
  | none => decide
  | some tier => cases tier <;> decide

theorem isClean_edgeStyles (kind : LinkKind) :
    IsClean (edgeStyles kind).color ∧ IsClean (edgeStyles kind).style := by
  cases kind <;> decide

def NetworkExposureNode.blank (node : NetworkExposureNode) : NetworkExposureNode :=
  { node with id := [], label := [], subtitle := none }

def NetworkExposureLink.blank (link : NetworkExposureLink) : NetworkExposureLink :=
  { link with id := [], source := [], target := [], label := [] }

def GraphCluster.blank (cluster : GraphCluster) : GraphCluster where
  id := []
  group := cluster.group.blank
  memberIds := []
  members := cluster.members.map NetworkExposureNode.blank

def dotOutline (graph : NetworkExposureGraph) : Option JsString :=
  dotDocument ((buildGroupClusters graph).map GraphCluster.blank)
    ((standaloneNodes graph).map NetworkExposureNode.blank)
    ((visibleLinks graph).map NetworkExposureLink.blank)

theorem nodeText_alike (node : NetworkExposureNode) (compact : Bool) {url url' : JsString}
    (hurl : IsClean url) (hurl' : IsClean url') :
    Alike (nodeText node compact url) (nodeText node.blank compact url') := by
  obtain ⟨hborder, hfill, htext⟩ := isClean_riskStyles node.riskTier
  have hshape : isLiteral false
      (if compact ∧ node.kind = .target then js "box" else kindShapes node.kind) = true := by
    cases node.kind <;> cases compact <;> decide
  apply Alike.lines
  refine .cons (.around (by decide +kernel) (.string _ _) (by decide +kernel)) ?_
  refine .cons (.around (by decide +kernel) (.string _ _) (by decide +kernel)) ?_
  refine .cons (.around (by decide +kernel) (.literal hshape) (by decide +kernel)) ?_
  refine .cons (.literal (by decide +kernel)) ?_
  refine .cons (.around (by decide +kernel) (.clean hborder hborder) (by decide +kernel)) ?_
  refine .cons (.around (by decide +kernel) (.clean hfill hfill) (by decide +kernel)) ?_
  refine .cons (.around (by decide +kernel) (.clean htext htext) (by decide +kernel)) ?_
  refine .cons (.literal (by cases compact <;> decide)) ?_
  refine .cons (.literal (by cases compact <;> decide)) ?_
  refine .cons (.literal (by cases compact <;> decide)) ?_
  refine .cons (.around (by decide +kernel) (.string _ _) (by decide +kernel)) ?_
  refine .cons (.around (by decide +kernel) (.clean hurl hurl') (by decide +kernel)) ?_
  exact .cons (.literal (by decide +kernel)) (.cons (.literal (by decide +kernel)) .nil)

theorem nodeStatement_alike {node : NetworkExposureNode} {compact : Bool} {statement : JsString}
    (h : nodeStatement node compact = some statement) :
    ∃ blank, nodeStatement node.blank compact = some blank ∧ Alike statement blank := by
  obtain ⟨url, hurl, rfl⟩ := Option.map_eq_some_iff.mp h
  exact ⟨nodeText node.blank compact (js "#graph-node:"), rfl,
    nodeText_alike node compact (isClean_graphNodeAppUrl hurl) (by decide)⟩

theorem edgeStatement_alike (link : NetworkExposureLink) :
    Alike (edgeStatement link) (edgeStatement link.blank) := by
  obtain ⟨hcolor, hstyle⟩ := isClean_edgeStyles link.kind
  have hends : ∀ source source' target target' : JsString,
      Alike (js "  " ++ quoteId source ++ js " -> " ++ quoteId target ++ js " [")
        (js "  " ++ quoteId source' ++ js " -> " ++ quoteId target' ++ js " [") := by
    intro source source' target target'
    have hsource : Alike (js "  " ++ quoteId source ++ js " -> ")
        (js "  " ++ quoteId source' ++ js " -> ") :=
      .around (by decide +kernel) (.string _ _) (by decide)
    exact (hsource.append (.string _ _)).append (.literal (by decide +kernel))
  apply Alike.lines
  refine .cons (hends _ _ _ _) ?_
  refine .cons (.around (by decide +kernel) (.string _ _) (by decide +kernel)) ?_
  refine .cons (.around (by decide +kernel) (.clean hcolor hcolor) (by decide +kernel)) ?_
  refine .cons (.around (by decide +kernel) (.clean hcolor hcolor) (by decide +kernel)) ?_
  refine .cons (.around (by decide +kernel) (.clean hstyle hstyle) (by decide +kernel)) ?_
  refine .cons (.literal (by decide +kernel)) ?_
  refine .cons (.append (.literal (by decide +kernel)) (.string _ _)) ?_
  exact .cons (.literal (by decide +kernel)) .nil

/-- A statement for each item has one for each item without its texts. -/
theorem mapM_alike {α : Type} (statement : α → Option JsString) (blank : α → α)
    (h : ∀ item text, statement item = some text →
      ∃ text', statement (blank item) = some text' ∧ Alike text text')
    {items : List α} {texts : List JsString} (htexts : items.mapM statement = some texts) :
    ∃ texts', (items.map blank).mapM statement = some texts' ∧
      List.Forall₂ Alike texts texts' := by
  induction items generalizing texts with
  | nil =>
      cases htexts
      exact ⟨[], rfl, .nil⟩
  | cons item items ih =>
      rw [List.mapM_cons] at htexts
      obtain ⟨text, htext, hrest⟩ := Option.bind_eq_some_iff.mp htexts
      obtain ⟨more, hmore, hcons⟩ := Option.bind_eq_some_iff.mp hrest
      obtain ⟨text', htext', halike⟩ := h item text htext
      obtain ⟨more', hmore', hothers⟩ := ih hmore
      refine ⟨text' :: more', ?_, ?_⟩
      · rw [List.map_cons, List.mapM_cons, htext', hmore']
        rfl
      · cases hcons
        exact .cons halike hothers

theorem clusterText_alike (cluster : GraphCluster) {url url' : JsString} (hurl : IsClean url)
    (hurl' : IsClean url') {members members' : List JsString}
    (h : List.Forall₂ Alike members members') :
    Alike (clusterText cluster url members) (clusterText cluster.blank url' members') := by
  obtain ⟨hborder, hfill, htext⟩ := isClean_riskStyles cluster.group.riskTier
  apply Alike.lines
  refine List.rel_append (List.rel_append ?_ h) (.cons (.literal (by decide +kernel)) .nil)
  refine .cons (.around (by decide +kernel) (.string _ _) (by decide +kernel)) ?_
  refine .cons (.around (by decide +kernel) (.string _ _) (by decide +kernel)) ?_
  refine .cons (.around (by decide +kernel) (.string _ _) (by decide +kernel)) ?_
  refine .cons (.around (by decide +kernel) (.clean hurl hurl') (by decide +kernel)) ?_
  refine .cons (.literal (by decide +kernel)) (.cons (.literal (by decide +kernel)) ?_)
  refine .cons (.literal (by decide +kernel)) (.cons (.literal (by decide +kernel)) ?_)
  refine .cons (.around (by decide +kernel) (.clean hborder hborder) (by decide +kernel)) ?_
  refine .cons (.around (by decide +kernel) (.clean hfill hfill) (by decide +kernel)) ?_
  refine .cons (.around (by decide +kernel) (.clean htext htext) (by decide +kernel)) ?_
  refine .cons (.literal (by decide +kernel)) (.cons (.literal (by decide +kernel)) ?_)
  exact .cons (.literal (by decide +kernel)) .nil

theorem clusterStatement_alike {cluster : GraphCluster} {statement : JsString}
    (h : clusterStatement cluster = some statement) :
    ∃ blank, clusterStatement cluster.blank = some blank ∧ Alike statement blank := by
  obtain ⟨url, hurl, hrest⟩ := Option.bind_eq_some_iff.mp h
  obtain ⟨members, hmembers, rfl⟩ := Option.map_eq_some_iff.mp hrest
  have hmember : ∀ node text, (nodeStatement node true).map (indent · 4) = some text →
      ∃ text', (nodeStatement node.blank true).map (indent · 4) = some text' ∧
        Alike text text' := by
    intro node text htext
    obtain ⟨statement, hstatement, rfl⟩ := Option.map_eq_some_iff.mp htext
    obtain ⟨blank, hnode, halike⟩ := nodeStatement_alike hstatement
    exact ⟨_, by rw [hnode]; rfl, halike.indented 4⟩
  obtain ⟨members', hmembers', halike⟩ := mapM_alike _ _ hmember hmembers
  refine ⟨clusterText cluster.blank (js "#graph-node:") members', ?_,
    clusterText_alike cluster (isClean_graphNodeAppUrl hurl) (by decide) halike⟩
  have hblank : graphNodeAppUrl cluster.blank.group.id = some (js "#graph-node:") := rfl
  have hnodes : cluster.blank.members = cluster.members.map NetworkExposureNode.blank := rfl
  rw [clusterStatement, hblank, Option.bind_some, hnodes, hmembers', Option.map_some]

theorem isLiteral_dotHead : dotHead.all (isLiteral false) = true := by decide +kernel

theorem buildNetworkExposureDot_alike {graph : NetworkExposureGraph} {document : JsString}
    (h : buildNetworkExposureDot graph = some document) :
    ∃ outline, dotOutline graph = some outline ∧ Alike document outline := by
  obtain ⟨clusters, hclusters, hrest⟩ := Option.bind_eq_some_iff.mp h
  obtain ⟨nodes, hnodes, rfl⟩ := Option.map_eq_some_iff.mp hrest
  have hcluster : ∀ cluster text, clusterStatement cluster = some text →
      ∃ text', clusterStatement cluster.blank = some text' ∧ Alike text text' :=
    fun _ _ => clusterStatement_alike
  have hnode : ∀ node text, nodeStatement node false = some text →
      ∃ text', nodeStatement node.blank false = some text' ∧ Alike text text' :=
    fun _ _ => nodeStatement_alike
  obtain ⟨clusters', hclusters', hclustersAlike⟩ := mapM_alike _ _ hcluster hclusters
  obtain ⟨nodes', hnodes', hnodesAlike⟩ := mapM_alike _ _ hnode hnodes
  have hliteral : ∀ line ∈ dotHead, isLiteral false line = true :=
    List.all_eq_true.mp isLiteral_dotHead
  have hhead : List.Forall₂ Alike dotHead dotHead :=
    List.forall₂_same.mpr fun line hline => .literal (hliteral line hline)
  have hlinks : List.Forall₂ Alike ((visibleLinks graph).map edgeStatement)
      (((visibleLinks graph).map NetworkExposureLink.blank).map edgeStatement) := by
    induction visibleLinks graph with
    | nil => exact .nil
    | cons link links ih => exact .cons (edgeStatement_alike link) ih
  have hlast : List.Forall₂ Alike [js "\x7d"] [js "\x7d"] :=
    .cons (.literal (by decide +kernel)) .nil
  have houtline : dotOutline graph = some (joinLines (dotHead ++ clusters' ++ nodes' ++
      ((visibleLinks graph).map NetworkExposureLink.blank).map edgeStatement ++ [js "\x7d"])) := by
    rw [dotOutline, dotDocument, hclusters', Option.bind_some, hnodes', Option.map_some]
  refine ⟨_, houtline, ?_⟩
  apply Alike.lines
  exact List.rel_append (List.rel_append (List.rel_append
    (List.rel_append hhead hclustersAlike) hnodesAlike) hlinks) hlast

/-- A quoted text is one string of DOT in one line, whatever follows it.  A label shows the text
without its carriage returns; an identifier is the text with its backslashes doubled and its line
feeds spelled out.  Both keep texts without carriage returns apart, and the document of a graph is,
outside its strings, the one that it would be without any text. -/
theorem quoteId_roundTrip :
    (∀ text : JsString, lineFeed ∉ quoteId text ∧ carriageReturn ∉ quoteId text ∧
        (∀ rest, scanString (quoteId text ++ rest) = some (scannedText text, rest)) ∧
        escString (scannedText text) = some (text.filter (· ≠ carriageReturn))) ∧
      Set.InjOn quoteId {text | carriageReturn ∉ text} ∧
      Set.InjOn scannedText {text | carriageReturn ∉ text} ∧
      ∀ (graph : NetworkExposureGraph) (document : JsString),
        buildNetworkExposureDot graph = some document →
          ∃ outline tokens tokens', dotOutline graph = some outline ∧
            scanDocument document = some tokens ∧ scanDocument outline = some tokens' ∧
            tokens.map DotToken.outside = tokens'.map DotToken.outside := by
  refine ⟨?_, quoteId_injOn, scannedText_injOn, ?_⟩
  · intro text
    obtain ⟨hline, hreturn⟩ := not_mem_quoteId text
    exact ⟨hline, hreturn, scanString_quoteId text, escString_scannedText text⟩
  · intro graph document hdocument
    obtain ⟨outline, houtline, halike⟩ := buildNetworkExposureDot_alike hdocument
    obtain ⟨tokens, tokens', htokens, htokens', houtside⟩ := halike.scan
    exact ⟨outline, tokens, tokens', houtline, htokens, htokens', houtside⟩

/-- A target whose texts have quotes, backslashes and line breaks. -/
def quotedTarget : NetworkExposureGraph where
  nodes :=
    [{ id := js "target:\"quoted\"\\node"
       kind := .target
       label := js "Target \"quoted\" \\ slash\n<script>"
       subtitle := some (js "line\rbreak")
       color := nodeColors .target
       riskTier := none
       refId := some 20
       assetCount := 1 }]
  links := []
  stats :=
    { groups := 0, targets := 1, endpoints := 0, assets := 0, findings := 0, highestRiskTier := none }

theorem quotedTarget_scanned :
    ∃ document outline tokens tokens', buildNetworkExposureDot quotedTarget = some document ∧
      dotOutline quotedTarget = some outline ∧
      scanDocument document = some tokens ∧ scanDocument outline = some tokens' ∧
      tokens.map DotToken.outside = tokens'.map DotToken.outside := by
  have hsome : (buildNetworkExposureDot quotedTarget).isSome = true := by decide +kernel
  obtain ⟨document, hdocument⟩ := Option.isSome_iff_exists.mp hsome
  obtain ⟨outline, tokens, tokens', hscan⟩ :=
    quoteId_roundTrip.2.2.2 quotedTarget document hdocument
  exact ⟨document, outline, tokens, tokens', hdocument, hscan⟩

/-- An identifier with a backslash is read with two. -/
theorem backslash_not_decoded :
    ¬ ∀ text : JsString,
      scanString (quoteId text) = some (text.filter (· ≠ carriageReturn), []) :=
  fun h => absurd (h (js "endpoint:a\\b")) (by decide)

end CryptoScanner.Frontend
