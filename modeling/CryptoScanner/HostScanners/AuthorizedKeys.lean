import CryptoScanner.HostScanners.ConfigText
import CryptoScanner.Library.Distinct
import CryptoScanner.Python.Words
import CryptoScanner.Scan.SshKeys

/-!
# The keys of an `authorized_keys` file

The scanner takes the first two words of a line for the type and the key.  On a line that begins
with options they are the options and the type, or two pieces of a quoted value.
-/

namespace CryptoScanner.HostScanners

open Library Python Scan

variable [PyText]

/-! ## 1. The scanner -/

/-- The line is blank or a comment. -/
def Skipped (line : List Char) : Prop := strip line = [] ∨ ['#'] <+: strip line

instance (line : List Char) : Decidable (Skipped line) := inferInstanceAs (Decidable (_ ∨ _))

/-- One turn of the loop of `algorithms_from_ssh_authorized_keys`. -/
def collectAlgorithm (algorithms : List (List Char)) (line : List Char) :
    Except SshError (List (List Char)) :=
  if Skipped line then .ok algorithms
  else
    match words (strip line) with
    | keyType :: b64Blob :: _ => do
        let algorithm ← algorithmFromSshKey keyType b64Blob
        match algorithm with
        | some algorithm => return distinctStep (· = []) (· == ·) algorithms algorithm
        | none => return algorithms
    | _ => .ok algorithms

/-- `algorithms_from_ssh_authorized_keys`, on the text of a file. -/
def algorithmsFromSshAuthorizedKeys (text : List Char) : Except SshError (List (List Char)) :=
  (splitLines text).foldlM collectAlgorithm []

omit [PyText] in
/-- `algorithm_from_ssh_key`, which never raises. -/
def keyAlgorithm (keyType b64Blob : List Char) : Option (List Char) :=
  match algorithmFromSshKey keyType b64Blob with
  | .ok algorithm => algorithm
  | .error _ => none

def lineAlgorithm (line : List Char) : Option (List Char) :=
  if Skipped line then none
  else
    match words (strip line) with
    | keyType :: b64Blob :: _ => keyAlgorithm keyType b64Blob
    | _ => none

omit [PyText] in
theorem algorithmFromSshKey_eq (keyType b64Blob : List Char) :
    algorithmFromSshKey keyType b64Blob = .ok (keyAlgorithm keyType b64Blob) := by
  obtain ⟨algorithm, halgorithm⟩ := exists_algorithm keyType b64Blob
  rw [keyAlgorithm, halgorithm]

omit [PyText] in
theorem keyAlgorithm_ne_nil {keyType b64Blob algorithm : List Char}
    (h : keyAlgorithm keyType b64Blob = some algorithm) : algorithm ≠ [] :=
  algorithm_ne_nil ((algorithmFromSshKey_eq keyType b64Blob).trans (congrArg Except.ok h))

theorem lineAlgorithm_ne_nil {line algorithm : List Char}
    (h : lineAlgorithm line = some algorithm) : algorithm ≠ [] := by
  unfold lineAlgorithm at h
  split at h
  · cases h
  · split at h
    · exact keyAlgorithm_ne_nil h
    · cases h

theorem collectAlgorithm_eq (algorithms : List (List Char)) (line : List Char) :
    collectAlgorithm algorithms line =
      .ok ((lineAlgorithm line).toList.foldl (distinctStep (· = []) (· == ·)) algorithms) := by
  unfold collectAlgorithm lineAlgorithm
  split
  · rfl
  · split
    next keyType b64Blob rest hwords =>
      rw [algorithmFromSshKey_eq]
      cases keyAlgorithm keyType b64Blob with
      | none => rfl
      | some algorithm => rfl
    next => rfl

/-- The loop keeps the distinct algorithms of its lines. -/
theorem algorithmsFromSshAuthorizedKeys_eq (text : List Char) :
    algorithmsFromSshAuthorizedKeys text =
      .ok (distinct (· = []) (· == ·) ((splitLines text).filterMap lineAlgorithm)) := by
  have hrun : ∀ (lines : List (List Char)) (algorithms : List (List Char)),
      lines.foldlM collectAlgorithm algorithms =
        .ok ((lines.filterMap lineAlgorithm).foldl (distinctStep (· = []) (· == ·)) algorithms) := by
    intro lines
    induction lines with
    | nil => exact fun algorithms => rfl
    | cons line lines ih =>
        intro algorithms
        rw [List.foldlM_cons, collectAlgorithm_eq]
        refine (ih _).trans ?_
        cases hline : lineAlgorithm line with
        | none => rw [List.filterMap_cons_none hline]; rfl
        | some algorithm => rw [List.filterMap_cons_some hline]; rfl
  exact hrun _ []

/-! ## 2. The lines of a file -/

section

omit [PyText]

/-- Spaces and tabs. -/
def IsBlank (chars : List Char) : Prop := ∀ c ∈ chars, c = ' ' ∨ c = '\t'

structure Gap where
  chars : List Char
  ne_nil : chars ≠ []
  blank : IsBlank chars

/-- A visible ASCII character. -/
def IsGraphic (c : Char) : Prop := 33 ≤ c.toNat ∧ c.toNat ≤ 126

instance (c : Char) : Decidable (IsGraphic c) := inferInstanceAs (Decidable (_ ∧ _))

/-- A character between quotes; a quote is written with a backslash. -/
inductive QuotedChar
  | char (c : Char) (ne_quote : c ≠ '"')
  | quote

def QuotedChar.text : QuotedChar → List Char
  | char c _ => [c]
  | quote => ['\\', '"']

/-- `no-pty`, or `command="..."`. -/
structure KeyOption where
  first : Char
  name : List Char
  value : Option (List QuotedChar)
  first_alphanum : first.isAlphanum = true
  name_chars : ∀ c ∈ name, c.isAlphanum = true ∨ c = '-'

def KeyOption.text (option : KeyOption) : List Char :=
  option.first :: option.name ++
    match option.value with
    | none => []
    | some value => '=' :: '"' :: value.flatMap QuotedChar.text ++ ['"']

structure KeyOptions where
  first : KeyOption
  others : List KeyOption
  gap : Gap

def KeyOptions.text (options : KeyOptions) : List Char :=
  options.first.text ++ options.others.flatMap fun option => ',' :: option.text

/-- The name of another key type, such as `ssh-dss` or `sk-ssh-ed25519@openssh.com`: a registered
name has a hyphen, a private one an `@`. -/
structure OtherType (name : List Char) : Prop where
  onWire : OnWire (asciiBytes name)
  graphic : ∀ c ∈ name, IsGraphic c
  start : name.head? ≠ some '#'
  foreign : '-' ∈ name ∨ '@' ∈ name
  ne_rsa : name ≠ "ssh-rsa".toList
  ne_ed25519 : name ≠ "ssh-ed25519".toList
  not_rsa : ¬ "rsa-".toList <+: name
  not_ecdsa : ¬ "ecdsa-sha2-".toList <+: name

inductive ListedKey
  | known (key : SshPublicKey) (graphic : ∀ c ∈ key.name, IsGraphic c)
  | other (name : List Char) (fields : Bytes) (h : OtherType name)

namespace ListedKey

def name : ListedKey → List Char
  | known key _ => key.name
  | other name _ _ => name

def blob : ListedKey → Bytes
  | known key _ => key.blob
  | other name fields _ => sshString (asciiBytes name) ++ fields

/-- The name and size of a known key; another key is called by its type. -/
def algorithm : ListedKey → List Char
  | known key _ => key.info.algorithm
  | other name _ _ => name

end ListedKey

/-- `[options] keytype base64-key [comment]` -/
structure AuthorizedKey where
  indent : List Char
  options : Option KeyOptions
  key : ListedKey
  gap : Gap
  comment : Option (Gap × List Char)
  indent_blank : IsBlank indent

namespace AuthorizedKey

def front (key : AuthorizedKey) : List Char :=
  match key.options with
  | none => []
  | some options => options.text ++ options.gap.chars

def back (key : AuthorizedKey) : List Char :=
  match key.comment with
  | none => []
  | some (gap, comment) => gap.chars ++ comment

def text (entry : AuthorizedKey) : List Char :=
  entry.indent ++ (entry.front ++ entry.key.name ++
    (entry.gap.chars ++ (b64encode entry.key.blob ++ entry.back)))

end AuthorizedKey

end

def KeyOptions.quotedAlgorithm (options : KeyOptions) : Option (List Char) :=
  match words options.text with
  | first :: second :: _ => keyAlgorithm first second
  | _ => none

/-- The algorithm that stands where the scanner looks: of a known key without options, and behind
options of the first two pieces of quoted values. -/
def AuthorizedKey.seen (entry : AuthorizedKey) : Option (List Char) :=
  match entry.options, entry.key with
  | none, .known key _ => some key.info.algorithm
  | none, .other .. => none
  | some options, _ => options.quotedAlgorithm

inductive AuthorizedLine
  | blank (chars : List Char) (h : ∀ c ∈ chars, PyText.isSpace c = true)
  | comment (indent chars : List Char) (h : IsBlank indent)
  | key (entry : AuthorizedKey)

namespace AuthorizedLine

def text : AuthorizedLine → List Char
  | blank chars _ => chars
  | comment indent chars _ => indent ++ '#' :: chars
  | key entry => entry.text

def algorithm : AuthorizedLine → Option (List Char)
  | key entry => some entry.key.algorithm
  | _ => none

def seen : AuthorizedLine → Option (List Char)
  | key entry => entry.seen
  | _ => none

end AuthorizedLine

/-! ## 3. What the scanner sees -/

theorem isSpace_of_isBlank {chars : List Char} (h : IsBlank chars) :
    ∀ c ∈ chars, PyText.isSpace c = true := by
  intro c hc
  rcases h c hc with rfl | rfl
  · rw [PyText.isSpace_ascii _ (by decide)]
    decide
  · rw [PyText.isSpace_ascii _ (by decide)]
    decide

theorem isSpace_of_isGraphic {c : Char} (h : IsGraphic c) : PyText.isSpace c = false := by
  have hascii : isAscii c = true := decide_eq_true (Nat.lt_of_le_of_lt h.2 (by decide))
  rw [PyText.isSpace_ascii c hascii]
  by_contra hspace
  have hle := toNat_le_of_isAsciiSpace (Bool.eq_true_of_not_eq_false hspace)
  have hge := h.1
  omega

omit [PyText] in
theorem isGraphic_of_isAlphanum {c : Char} (h : c.isAlphanum = true) : IsGraphic c := by
  have hbounds := toNat_of_isAlphanum h
  rw [IsGraphic]
  omega

omit [PyText] in
theorem isGraphic_b64encode {data : Bytes} : ∀ c ∈ b64encode data, IsGraphic c := by
  have halphabet : ∀ c ∈ base64Alphabet, 33 ≤ c.toNat ∧ c.toNat ≤ 126 := by decide
  intro c hc
  rcases mem_b64encode hc with hmem | rfl
  · exact halphabet c hmem
  · exact ⟨by decide, by decide⟩

/-- White space is cut off around a line that begins with a visible character. -/
theorem strip_visible {indent : List Char} {c : Char} (rest : List Char) (hindent : IsBlank indent)
    (hc : PyText.isSpace c = false) : strip (indent ++ c :: rest) = c :: rstrip rest := by
  have hmiddle := strip_append_middle (s := indent) (t := rest) (List.cons_ne_nil c [])
    fun d hd => (List.mem_singleton.mp hd).symm ▸ hc
  have hblank : lstrip indent = [] :=
    List.dropWhile_eq_nil_iff.mpr (isSpace_of_isBlank hindent)
  rw [List.append_assoc, hblank] at hmiddle
  exact hmiddle

theorem lineAlgorithm_blank {chars : List Char} (h : ∀ c ∈ chars, PyText.isSpace c = true) :
    lineAlgorithm chars = none := by
  have hstrip : strip chars = [] := by
    rw [strip, lstrip, List.dropWhile_eq_nil_iff.mpr h]
    rfl
  exact if_pos (.inl hstrip)

theorem lineAlgorithm_comment {indent : List Char} (chars : List Char) (h : IsBlank indent) :
    lineAlgorithm (indent ++ '#' :: chars) = none := by
  refine if_pos (.inr ?_)
  rw [strip_visible chars h (by rw [PyText.isSpace_ascii _ (by decide)]; decide)]
  exact List.prefix_append ['#'] _

omit [PyText] in
theorem name_initial (key : SshPublicKey) :
    ∃ c tail, key.name = c :: tail ∧ c ≠ 'r' ∧ c ≠ '#' := by
  cases key with
  | rsa exponent modulus hexponent hmodulus => exact ⟨'s', _, rfl, by decide, by decide⟩
  | ecdsa curve point hascii hname => exact ⟨'e', _, rfl, by decide, by decide⟩
  | ed25519 data hlength => exact ⟨'s', _, rfl, by decide, by decide⟩

omit [PyText] in
theorem announced_name (key : SshPublicKey) : key.Announced key.name := by
  have hprefix : ¬ "rsa-".toList <+: key.name := by
    obtain ⟨c, tail, hname, hr, -⟩ := name_initial key
    rw [hname]
    exact fun h => hr (List.cons_prefix_cons.mp h).1.symm
  cases key with
  | rsa exponent modulus hexponent hmodulus => exact True.intro
  | ecdsa curve point hascii hname => exact hprefix
  | ed25519 data hlength => exact hprefix

omit [PyText] in
theorem hyphen_mem_name (key : SshPublicKey) : '-' ∈ key.name := by
  cases key with
  | rsa exponent modulus hexponent hmodulus =>
      have hmem : '-' ∈ "ssh-rsa".toList := by decide
      exact hmem
  | ecdsa curve point hascii hname =>
      have hmem : '-' ∈ "ecdsa-sha2-".toList := by decide
      exact List.mem_append_left _ hmem
  | ed25519 data hlength =>
      have hmem : '-' ∈ "ssh-ed25519".toList := by decide
      exact hmem

namespace ListedKey

variable (key : ListedKey)

omit [PyText] in
theorem name_graphic : ∀ c ∈ key.name, IsGraphic c := by
  cases key with
  | known key hgraphic => exact hgraphic
  | other name fields h => exact h.graphic

omit [PyText] in
theorem name_start : key.name.head? ≠ some '#' := by
  cases key with
  | known key hgraphic =>
      obtain ⟨c, tail, hname, -, hhash⟩ := name_initial key
      show key.name.head? ≠ some '#'
      rw [hname]
      exact fun h => hhash (Option.some.inj h)
  | other name fields h => exact h.start

omit [PyText] in
theorem b64decode_name : b64decode key.name = none := by
  have hhyphen : '-' ∈ key.name ∨ '@' ∈ key.name := by
    cases key with
    | known key hgraphic => exact .inl (hyphen_mem_name key)
    | other name fields h => exact h.foreign
  rcases hhyphen with hmem | hmem
  · exact b64decode_foreign hmem (by decide) (by decide)
  · exact b64decode_foreign hmem (by decide) (by decide)

omit [PyText] in
theorem name_ne : key.name ≠ [] := by
  intro hnil
  have hdecode := key.b64decode_name
  rw [hnil] at hdecode
  cases hdecode

omit [PyText] in
theorem blob_ne : key.blob ≠ [] := by
  have hstring : ∀ data : Bytes, sshString data ≠ [] := by
    intro data hnil
    have hlength := sshString_length data
    rw [hnil, List.length_nil] at hlength
    omega
  cases key with
  | known key hgraphic => exact List.append_ne_nil_of_left_ne_nil (hstring _) _
  | other name fields h => exact List.append_ne_nil_of_left_ne_nil (hstring _) _

omit [PyText] in
theorem algorithm_ne : key.algorithm ≠ [] := by
  cases key with
  | known key hgraphic => cases key <;> exact List.cons_ne_nil _ _
  | other name fields h => exact name_ne (.other name fields h)

omit [PyText] in
/-- The reader knows the name of a known key and of no other. -/
theorem keyAlgorithm_key : keyAlgorithm key.name (b64encode key.blob) =
    match key with
    | known key _ => some key.info.algorithm
    | other .. => none := by
  cases key with
  | known key hgraphic =>
      have hkey : algorithmFromSshKey key.name (b64encode key.blob) =
          .ok (some key.info.algorithm) := by
        rw [algorithmFromSshKey_b64encode, SshPublicKey.parse_blob (announced_name key)]
        rfl
      show keyAlgorithm key.name (b64encode key.blob) = some key.info.algorithm
      rw [keyAlgorithm, hkey]
  | other name fields h =>
      have hascii : ∀ c ∈ name, isAscii c = true :=
        fun c hc => decide_eq_true (Nat.lt_of_le_of_lt (h.graphic c hc).2 (by decide))
      have hread := readSshString_sshString h.onWire [] fields
      rw [List.nil_append, List.length_nil] at hread
      have hinfo : sshPublicKeyInfo name (sshString (asciiBytes name) ++ fields) = .ok none := by
        rw [sshPublicKeyInfo, hread]
        simp only [bind, Except.bind, decodeAscii_asciiBytes hascii]
        rw [if_neg (not_or.mpr ⟨h.ne_rsa, h.not_rsa⟩), if_neg h.not_ecdsa, if_neg h.ne_ed25519]
        rfl
      have hkey : algorithmFromSshKey name (b64encode (sshString (asciiBytes name) ++ fields)) =
          .ok none := by
        rw [algorithmFromSshKey_b64encode, parseSshPublicKeyBlob, hinfo]
        rfl
      show keyAlgorithm name (b64encode (sshString (asciiBytes name) ++ fields)) = none
      rw [keyAlgorithm, hkey]

theorem words_name : words key.name = [key.name] :=
  words_single key.name_ne fun c hc => isSpace_of_isGraphic (key.name_graphic c hc)

end ListedKey

namespace AuthorizedKey

variable (entry : AuthorizedKey)

omit [PyText] in
/-- The line begins with the first option or with the type of the key. -/
theorem exists_visible (rest : List Char) :
    ∃ c tail, entry.front ++ entry.key.name ++ rest = c :: tail ∧ IsGraphic c ∧ c ≠ '#' := by
  cases hoptions : entry.options with
  | none =>
      obtain ⟨c, tail, htype⟩ := List.exists_cons_of_ne_nil entry.key.name_ne
      have hstart := entry.key.name_start
      refine ⟨c, tail ++ rest, ?_,
        entry.key.name_graphic c (by rw [htype]; exact List.mem_cons_self),
        fun heq => hstart (by rw [htype, heq]; rfl)⟩
      rw [front, hoptions, htype]
      rfl
  | some options =>
      obtain ⟨tail, htail⟩ : ∃ tail, options.text = options.first.first :: tail := ⟨_, rfl⟩
      refine ⟨options.first.first, tail ++ options.gap.chars ++ entry.key.name ++ rest, ?_,
        isGraphic_of_isAlphanum options.first.first_alphanum, ?_⟩
      · rw [front, hoptions]
        dsimp only
        rw [htail]
        rfl
      · intro heq
        have halphanum := options.first.first_alphanum
        rw [heq] at halphanum
        cases halphanum

theorem words_text :
    ∃ more, words entry.text =
      words (entry.front ++ entry.key.name) ++ b64encode entry.key.blob :: more := by
  have hblob : words (b64encode entry.key.blob) = [b64encode entry.key.blob] := by
    refine words_single ?_ fun c hc => isSpace_of_isGraphic (isGraphic_b64encode c hc)
    intro hnil
    have hdecode := b64decode_b64encode entry.key.blob
    rw [hnil] at hdecode
    exact entry.key.blob_ne (Option.some.inj hdecode).symm
  obtain ⟨more, hmore⟩ : ∃ more, words (b64encode entry.key.blob ++ entry.back) =
      b64encode entry.key.blob :: more := by
    unfold back
    split
    · exact ⟨[], by rw [List.append_nil, hblob]⟩
    next gap comment hcomment =>
      refine ⟨words comment, ?_⟩
      rw [words_append_gap _ _ gap.ne_nil (isSpace_of_isBlank gap.blank), hblob]
      rfl
  refine ⟨more, ?_⟩
  rw [text, words_skip _ (isSpace_of_isBlank entry.indent_blank),
    words_append_gap _ _ entry.gap.ne_nil (isSpace_of_isBlank entry.gap.blank), hmore]

theorem words_front {options : KeyOptions} (h : entry.options = some options) :
    words (entry.front ++ entry.key.name) = words options.text ++ [entry.key.name] := by
  rw [front, h]
  dsimp only
  rw [List.append_assoc, words_append_gap _ _ options.gap.ne_nil
    (isSpace_of_isBlank options.gap.blank), entry.key.words_name]

theorem lineAlgorithm_text : lineAlgorithm entry.text = entry.seen := by
  obtain ⟨c, tail, hline, hgraphic, hhash⟩ :=
    entry.exists_visible (entry.gap.chars ++ (b64encode entry.key.blob ++ entry.back))
  have hstrip : strip entry.text = c :: rstrip tail := by
    rw [text, hline]
    exact strip_visible tail entry.indent_blank (isSpace_of_isGraphic hgraphic)
  have hkept : ¬ Skipped entry.text := by
    rw [Skipped, hstrip]
    rintro (hnil | hcomment)
    · cases hnil
    · exact hhash (List.cons_prefix_cons.mp hcomment).1.symm
  obtain ⟨more, hmore⟩ := entry.words_text
  rw [lineAlgorithm, if_neg hkept, words_strip, hmore, seen]
  cases hoptions : entry.options with
  | none =>
      rw [front, hoptions]
      dsimp only
      rw [List.nil_append, entry.key.words_name]
      refine (entry.key.keyAlgorithm_key).trans ?_
      cases entry.key with
      | known key hgraphic => rfl
      | other name fields h => rfl
  | some options =>
      rw [entry.words_front hoptions]
      dsimp only
      rw [KeyOptions.quotedAlgorithm]
      -- the options begin with a visible character, so there is a word before the type
      cases hfirst : words options.text with
      | nil =>
          have hspace := isSpace_of_isGraphic
            (isGraphic_of_isAlphanum options.first.first_alphanum)
          exact absurd hfirst (words_cons_ne_nil _ hspace)
      | cons first others =>
          cases others with
          | nil =>
              -- options without spaces leave the type for the key
              show keyAlgorithm first entry.key.name = none
              rw [keyAlgorithm, algorithmFromSshKey, entry.key.b64decode_name, ite_self]
          | cons second others => rfl

end AuthorizedKey

theorem lineAlgorithm_line (line : AuthorizedLine) : lineAlgorithm line.text = line.seen := by
  cases line with
  | blank chars h => exact lineAlgorithm_blank h
  | comment indent chars h => exact lineAlgorithm_comment chars h
  | key entry => exact entry.lineAlgorithm_text

/-! ## 4. Found keys -/

/-- The distinct algorithms of the keys, in the order of their first occurrences. -/
def expectedAlgorithms (lines : List AuthorizedLine) : List (List Char) :=
  distinct (· = []) (· == ·) (lines.filterMap AuthorizedLine.algorithm)

variable {lines : List AuthorizedLine} {text : List Char}

theorem filterMap_lineAlgorithm (hlines : splitLines text = lines.map AuthorizedLine.text) :
    (splitLines text).filterMap lineAlgorithm = lines.filterMap AuthorizedLine.seen := by
  rw [hlines, List.filterMap_map]
  exact congrArg (fun f => lines.filterMap f) (funext lineAlgorithm_line)

/-- Exactly the keys are found if the known keys without options, with what quoted values spell
out, have the same algorithms as all keys, in the same order. -/
theorem authorizedKeys_found_iff (lines : List AuthorizedLine) (text : List Char)
    (hlines : splitLines text = lines.map AuthorizedLine.text) :
    algorithmsFromSshAuthorizedKeys text = .ok (expectedAlgorithms lines) ↔
      SameFirsts (lines.filterMap AuthorizedLine.seen)
        (lines.filterMap AuthorizedLine.algorithm) := by
  have hseen := filterMap_lineAlgorithm hlines
  have hnames : ∀ name ∈ lines.filterMap AuthorizedLine.seen, ¬ name = [] := by
    intro name hname
    rw [← hseen] at hname
    obtain ⟨line, -, hline⟩ := List.mem_filterMap.mp hname
    exact lineAlgorithm_ne_nil hline
  have hkeys : ∀ name ∈ lines.filterMap AuthorizedLine.algorithm, ¬ name = [] := by
    intro name hname
    obtain ⟨line, -, hline⟩ := List.mem_filterMap.mp hname
    cases line with
    | key entry =>
        cases hline
        exact entry.key.algorithm_ne
    | blank chars h => cases hline
    | comment indent chars h => cases hline
  rw [algorithmsFromSshAuthorizedKeys_eq, hseen, ← distinct_eq_iff hnames hkeys,
    expectedAlgorithms]
  exact ⟨Except.ok.inj, fun h => congrArg Except.ok h⟩

omit [PyText] in
theorem length_zeroKey : (List.replicate 32 (0 : UInt8)).length = 32 := List.length_replicate

def zeroKey : SshPublicKey := .ed25519 (List.replicate 32 0) length_zeroKey

def zeroKeyLine (options : Option KeyOptions) : AuthorizedLine :=
  .key
    { indent := []
      options
      key := .known zeroKey (by decide)
      gap := ⟨[' '], by decide, by simp [IsBlank]⟩
      comment := some (⟨[' '], by decide, by simp [IsBlank]⟩, "backup@host".toList)
      indent_blank := nofun }

def noPty : KeyOptions where
  first := ⟨'n', "o-pty".toList, none, by decide, by decide⟩
  others := []
  gap := ⟨[' '], by decide, by simp [IsBlank]⟩

omit [PyText] in
/-- A comment and a key. -/
theorem zeroKey_found : letI := asciiText
    algorithmsFromSshAuthorizedKeys
        ("# backup".toList ++ '\n' :: (zeroKeyLine none).text) =
      .ok (expectedAlgorithms
        [.comment [] " backup".toList nofun, zeroKeyLine none]) :=
  letI := asciiText
  (authorizedKeys_found_iff [.comment [] " backup".toList nofun, zeroKeyLine none]
    ("# backup".toList ++ '\n' :: (zeroKeyLine none).text) (by decide +kernel)).mpr
    (by decide +kernel)

omit [PyText] in
/-- `no-pty ssh-ed25519 AAAA..` -/
theorem noPty_not_found : letI := asciiText
    splitLines (zeroKeyLine (some noPty)).text =
        [zeroKeyLine (some noPty)].map AuthorizedLine.text ∧
      algorithmsFromSshAuthorizedKeys (zeroKeyLine (some noPty)).text ≠
        .ok (expectedAlgorithms [zeroKeyLine (some noPty)]) := by
  let _ := asciiText
  refine ⟨by decide +kernel, ?_⟩
  rw [algorithmsFromSshAuthorizedKeys_eq]
  exact fun h => absurd (Except.ok.inj h) (by decide +kernel)

end CryptoScanner.HostScanners
