import CryptoScanner.HostScanners.TlsPolicy
import CryptoScanner.Scan.BomRefs

/-!
# Disabled algorithms

The tokens of a cipher list and of `KexAlgorithms` keep their markers, and the backend makes an
asset of every token.
-/

namespace CryptoScanner.HostScanners

open Python Library

/-! ## 1. Disabled algorithms -/

/-- The token is marked as disabled. -/
def IsNegated (token : List Char) : Prop := token.head? = some '!' ∨ token.head? = some '-'

instance (token : List Char) : Decidable (IsNegated token) := inferInstanceAs (Decidable (_ ∨ _))

def bareName (token : List Char) : List Char := token.dropWhile (· ∈ ['!', '+', '-'])

/-- The algorithm occurs among the tokens, and every time it is disabled. -/
def OnlyNegated (tokens : List (List Char)) (name : List Char) : Prop :=
  name ≠ [] ∧ (∃ token ∈ tokens, bareName token = name) ∧
    ∀ token ∈ tokens, bareName token = name → IsNegated token

/-- Every algorithm that is disabled once is enabled at another place. -/
def NegatesNoneAlone (tokens : List (List Char)) : Prop :=
  ∀ token ∈ tokens, IsNegated token → bareName token ≠ [] →
    ∃ other ∈ tokens, ¬ IsNegated other ∧ bareName other = bareName token

instance (tokens : List (List Char)) : Decidable (NegatesNoneAlone tokens) :=
  inferInstanceAs (Decidable (∀ token ∈ tokens, IsNegated token → bareName token ≠ [] →
    ∃ other ∈ tokens, ¬ IsNegated other ∧ bareName other = bareName token))

theorem not_onlyNegated_iff {tokens : List (List Char)} :
    (∀ name, ¬ OnlyNegated tokens name) ↔ NegatesNoneAlone tokens := by
  constructor
  · intro h token htoken _ hname
    by_contra hnone
    apply h (bareName token)
    refine ⟨hname, ⟨token, htoken, rfl⟩, ?_⟩
    intro other hother hsame
    by_contra henabled
    exact hnone ⟨other, hother, henabled, hsame⟩
  · rintro h name ⟨hname, ⟨token, htoken, rfl⟩, hall⟩
    obtain ⟨other, hother, henabled, hsame⟩ := h token htoken (hall token htoken rfl) hname
    exact henabled (hall other hother hsame)

/-! ## 2. The algorithms of `sshd_config` -/

def sshPolicyKeys : List String :=
  ["KexAlgorithms", "Ciphers", "MACs", "HostKeyAlgorithms", "PubkeyAcceptedAlgorithms"]

section

variable [PyText]

def commaItems (value : List Char) : List (List Char) :=
  ((value.splitOn ',').map strip).filter (· ≠ [])

/-- The key and the value of a line, if it is one of the lists of algorithms. -/
def sshDirective (line : List Char) : Option (String × List Char) :=
  let stripped := strip line
  if stripped = [] ∨ stripped.head? = some '#' then none
  else
    ((splitAtSpace stripped).map fun (key, value) => (String.ofList key, value)).filter
      fun directive => directive.1 ∈ sshPolicyKeys

def sshDirectives (text : List Char) : List (String × List Char) :=
  (splitLines text).filterMap sshDirective

def parseSshConfigAlgorithms (text : List Char) : List (String × List (List Char)) :=
  (sshDirectives text).foldl (fun policy directive =>
    Dict.set directive.1 (commaItems directive.2) policy) []

/-- The finding of `_scan_ssh_config` for one file. -/
def sshConfigFinding (path text : List Char) : Option Scan.Finding :=
  let policy := parseSshConfigAlgorithms text
  if policy = [] then none
  else
    let finding : Scan.Finding :=
      [("type", .str "ssh_config"), ("path", .str (String.ofList path)),
        ("policy", .dict (policy.map fun entry => (entry.1, textList entry.2)))]
    match policy.lookup "KexAlgorithms" with
    | some (item :: items) => some (Dict.set "kex_algorithms" (textList (item :: items)) finding)
    | _ => some finding

/-- The value of the last `KexAlgorithms` line. -/
def kexValue (text : List Char) : Option (List Char) :=
  (((sshDirectives text).filter fun directive => directive.1 = "KexAlgorithms").getLast?).map
    Prod.snd

theorem lookup_parseSshConfigAlgorithms (text : List Char) :
    (parseSshConfigAlgorithms text).lookup "KexAlgorithms" = (kexValue text).map commaItems := by
  unfold parseSshConfigAlgorithms kexValue
  induction sshDirectives text using List.reverseRecOn with
  | nil => rfl
  | append_singleton items directive ih =>
      rw [List.foldl_append, List.foldl_cons, List.foldl_nil, Dict.lookup_set, ih,
        List.filter_append]
      by_cases hkey : "KexAlgorithms" = directive.1
      · rw [if_pos hkey, List.filter_cons_of_pos (by simpa using hkey.symm), List.filter_nil,
          List.getLast?_concat]
        rfl
      · rw [if_neg hkey, List.filter_cons_of_neg (by simpa using fun h => hkey h.symm),
          List.filter_nil, List.append_nil]

/-! ## 3. What the assets may name -/

def cipherTokens (text : List Char) : List (List Char) :=
  (directives text).flatMap fun directive =>
    if directiveKind (lower directive.1) = some .cipherSuites then splitCipherSuites directive.2
    else []

/-- A value that begins with a minus sign removes all of its algorithms. -/
def Removed (value name : List Char) : Prop :=
  name ≠ [] ∧ value.head? = some '-' ∧ ∃ item ∈ commaItems value, bareName item = name

/-- The asset has the algorithm, with or without a marker. -/
def NamedBy (assets : List Scan.AssetCandidate) (name : List Char) : Prop :=
  ∃ asset ∈ assets, bareName asset.algorithm = name

/-- No algorithm that the cipher directives of the file only disable is named by an asset. -/
def CiphersRespected (path : PosixPath) (text : List Char) (assets : List Scan.AssetCandidate) :
    Prop :=
  DirectiveFile path → ∀ name, OnlyNegated (cipherTokens text) name → ¬ NamedBy assets name

/-- No algorithm that `KexAlgorithms` removes is named by an asset. -/
def KexRespected (text : List Char) (assets : List Scan.AssetCandidate) : Prop :=
  ∀ value ∈ kexValue text, ∀ name, Removed value name → ¬ NamedBy assets name

/-- The value of `KexAlgorithms` removes no algorithm. -/
def RemovesNone (text : List Char) : Prop :=
  ∀ value ∈ kexValue text, value.head? = some '-' →
    ∀ item ∈ commaItems value, bareName item = []

instance (text : List Char) : Decidable (RemovesNone text) :=
  inferInstanceAs (Decidable (∀ value ∈ kexValue text, value.head? = some '-' →
    ∀ item ∈ commaItems value, bareName item = []))

theorem not_removed_iff {text : List Char} :
    (∀ value ∈ kexValue text, ∀ name, ¬ Removed value name) ↔ RemovesNone text := by
  constructor
  · intro h value hvalue hminus item hitem
    by_contra hname
    exact h value hvalue (bareName item) ⟨hname, hminus, item, hitem, rfl⟩
  · rintro h value hvalue name ⟨hname, hminus, item, hitem, rfl⟩
    exact hname (h value hvalue hminus item hitem)

/-! ## 4. The assets of a finding -/

variable (floatRepr : PyFloat → List Char)

theorem texts_of_lookup {finding : Scan.Finding} {key : String} {values : List (List Char)}
    (h : finding.lookup key = some (textList values)) :
    finding.texts floatRepr key = values := by
  unfold Scan.Finding.texts Scan.Finding.get
  rw [h]
  show (values.map _).map (Json.pyStr floatRepr) = values
  rw [List.map_map]
  exact List.map_id'' (fun value => String.toList_ofList) values

/-- The assets of one finding whose type names its scanner. -/
theorem mapAgentFindings_single [Scan.Sha256] (targetId : Id) (target : Target)
    {finding : Scan.Finding} (selected : List String) {findingType scanner : String}
    (htype : finding.lookup "type" = some (.str findingType)) (hne : findingType ≠ "")
    (hscanner : Scan.typeScannerKind.lookup findingType = some scanner) :
    Scan.mapAgentFindings floatRepr targetId target [finding] selected =
      if scanner ∈ selected then
        (Scan.algorithmsForFinding floatRepr finding).map
          (Scan.candidateForFinding floatRepr targetId target finding scanner)
      else [] := by
  have htext : String.ofList (finding.text floatRepr "type" []) = findingType := by
    unfold Scan.Finding.text Scan.Finding.get
    rw [htype, Option.getD_some, if_pos (by simpa [Json.truthy] using hne)]
    exact String.ofList_toList
  unfold Scan.mapAgentFindings
  rw [List.flatMap_singleton]
  simp only [htext, hscanner]

/-- A text of the two lists becomes the algorithm of an asset. -/
theorem namedBy_of_mem_texts [Scan.Sha256] (targetId : Id) (target : Target)
    {finding : Scan.Finding} {selected : List String} {findingType scanner key : String}
    (htype : finding.lookup "type" = some (.str findingType)) (hne : findingType ≠ "")
    (hscanner : Scan.typeScannerKind.lookup findingType = some scanner)
    (hselected : scanner ∈ selected) (hkey : key = "kex_algorithms" ∨ key = "cipher_suites")
    {token : List Char} (htoken : token ∈ finding.texts floatRepr key) :
    NamedBy (Scan.mapAgentFindings floatRepr targetId target [finding] selected)
      (bareName token) := by
  have hcollected : token ∈ Scan.algorithmsForFinding floatRepr finding := by
    have hmem : token ∈ finding.texts floatRepr "algorithms" ++
        finding.texts floatRepr "kex_algorithms" ++ finding.texts floatRepr "tls_versions" ++
          finding.texts floatRepr "cipher_suites" := by
      simp only [List.mem_append]
      rcases hkey with rfl | rfl
      · exact .inl (.inl (.inr htoken))
      · exact .inr htoken
    unfold Scan.algorithmsForFinding
    simp only
    rw [if_pos (List.ne_nil_of_mem hmem), List.mem_eraseDups]
    exact hmem
  rw [mapAgentFindings_single floatRepr targetId target selected htype hne hscanner,
    if_pos hselected]
  exact ⟨_, List.mem_map_of_mem hcollected, rfl⟩

/-! ## 5. The two lists of a finding -/

theorem cipherSuites_record (state : TlsPolicy) (directive : List Char × List Char) :
    (state.record directive).cipherSuites = state.cipherSuites ++
      if directiveKind (lower directive.1) = some .cipherSuites then
        splitCipherSuites directive.2
      else [] := by
  unfold TlsPolicy.record
  simp only
  cases directiveKind (lower directive.1) with
  | none => simp
  | some kind => cases kind <;> simp

theorem cipherSuites_collectPolicy (text : List Char) :
    (collectPolicy text).cipherSuites = cipherTokens text :=
  collectPolicy_flatMap rfl cipherSuites_record text

theorem nil_not_mem_cipherTokens (text : List Char) : [] ∉ cipherTokens text := by
  intro hmem
  obtain ⟨directive, -, hmem⟩ := List.mem_flatMap.mp hmem
  split at hmem
  · unfold splitCipherSuites at hmem
    simp at hmem
  · cases hmem

theorem lookup_parse_ciphers {text : List Char} (h : cipherTokens text ≠ []) :
    (parseTlsConfigPolicy text).lookup "cipher_suites" =
      some (textList (dedupe (cipherTokens text))) := by
  rw [← cipherSuites_collectPolicy] at h ⊢
  unfold parseTlsConfigPolicy TlsPolicy.result
  simp [List.lookup_append, lookup_entryFor, h]

theorem lookup_parse_type (text : List Char) :
    (parseTlsConfigPolicy text).lookup "type" = none := by
  unfold parseTlsConfigPolicy TlsPolicy.result
  simp [List.lookup_append, lookup_entryFor]

/-- The finding of a file with a `KexAlgorithms` line lists the items of the last one. -/
theorem sshConfigFinding_kex (path : List Char) {text value : List Char}
    (hvalue : kexValue text = some value) (hitems : commaItems value ≠ []) :
    ∃ finding, sshConfigFinding path text = some finding ∧
      finding.lookup "kex_algorithms" = some (textList (commaItems value)) := by
  have hlookup : (parseSshConfigAlgorithms text).lookup "KexAlgorithms" =
      some (commaItems value) := by
    rw [lookup_parseSshConfigAlgorithms, hvalue, Option.map_some]
  have hpolicy : parseSshConfigAlgorithms text ≠ [] := by
    intro hempty
    rw [hempty] at hlookup
    cases hlookup
  obtain ⟨item, items, hcons⟩ := List.exists_cons_of_ne_nil hitems
  rw [hcons] at hlookup
  unfold sshConfigFinding
  simp only
  rw [if_neg hpolicy, hlookup]
  refine ⟨_, rfl, ?_⟩
  rw [Dict.lookup_set, if_pos rfl, hcons]

theorem directiveFinding_type {path : List Char} {findingType : String}
    {algorithm : Option (List Char)} {text : List Char} {finding : Scan.Finding}
    (h : directiveFinding path findingType algorithm text = some finding) :
    finding.lookup "type" = some (.str findingType) := by
  obtain ⟨references, hlookup⟩ := @lookup_directiveFinding _ _ _ _ _ _ h "type"
    (by decide) (by decide)
  rw [hlookup, lookup_parse_type]
  rfl

theorem sshConfigFinding_type {path text : List Char} {finding : Scan.Finding}
    (h : sshConfigFinding path text = some finding) :
    finding.lookup "type" = some (.str "ssh_config") := by
  unfold sshConfigFinding at h
  simp only at h
  split at h
  · cases h
  · split at h
    · cases h
      rw [Dict.lookup_set, if_neg (by decide)]
      rfl
    · cases h
      rfl

/-! ## 6. When disabled algorithms stay out -/

variable [Scan.Sha256]

theorem directiveFinding_respected_iff (targetId : Id) (target : Target) (selected : List String)
    {findingType : String} (htype : findingType ∈ ["tls_config", "postgres_tls_config"])
    (path : List Char) (algorithm : Option (List Char)) (text : List Char) :
    (∀ finding, directiveFinding path findingType algorithm text = some finding →
      ∀ name, OnlyNegated (cipherTokens text) name → ¬ NamedBy
        (Scan.mapAgentFindings floatRepr targetId target [finding] selected) name) ↔
      ("agent.app_config" ∈ selected → NegatesNoneAlone (cipherTokens text)) := by
  have hscanner : Scan.typeScannerKind.lookup findingType = some "agent.app_config" ∧
      findingType ≠ "" := by
    simp only [List.mem_cons, List.not_mem_nil, or_false] at htype
    rcases htype with rfl | rfl <;> decide
  rw [← not_onlyNegated_iff]
  constructor
  · intro h hselected name honly
    obtain ⟨token, htoken, hbare⟩ := honly.2.1
    obtain ⟨finding, hfinding, hlist⟩ := directiveFinding_lookup path findingType algorithm
      (lookup_parse_ciphers (List.ne_nil_of_mem htoken)) (by decide) (by decide)
    -- The token keeps its marker on its way into the finding, and an asset is made of it.
    have hmem : token ∈ finding.texts floatRepr "cipher_suites" := by
      rw [texts_of_lookup floatRepr hlist]
      exact (mem_dedupe (nil_not_mem_cipherTokens text)).mpr htoken
    have hnamed := namedBy_of_mem_texts floatRepr targetId target (directiveFinding_type hfinding)
      hscanner.2 hscanner.1 hselected (.inr rfl) hmem
    rw [hbare] at hnamed
    exact h finding hfinding name honly hnamed
  · intro h finding hfinding name honly hnamed
    by_cases hselected : "agent.app_config" ∈ selected
    · exact h hselected name honly
    · rw [mapAgentFindings_single floatRepr targetId target selected
        (directiveFinding_type hfinding) hscanner.2 hscanner.1, if_neg hselected] at hnamed
      obtain ⟨asset, hasset, -⟩ := hnamed
      cases hasset

theorem ciphersRespected_iff (limits : Limits) (targetId : Id) (target : Target)
    (selected : List String) (serverAlgorithm : Option (List Char)) (path : PosixPath)
    (text : List Char) :
    (∀ finding, appConfigFinding floatRepr limits serverAlgorithm path text = .ok (some finding) →
      CiphersRespected path text
        (Scan.mapAgentFindings floatRepr targetId target [finding] selected)) ↔
      (DirectiveFile path → "agent.app_config" ∈ selected →
        NegatesNoneAlone (cipherTokens text)) := by
  by_cases hpath : DirectiveFile path
  · obtain ⟨findingType, htype, algorithm, heq⟩ :=
      @appConfigFinding_directives _ floatRepr limits serverAlgorithm path hpath
    have hiff := directiveFinding_respected_iff floatRepr targetId target selected htype path.str
      algorithm text
    rw [heq]
    constructor
    · intro h _
      exact hiff.mp fun finding hfinding => h finding (congrArg Except.ok hfinding) hpath
    · intro h finding hfinding _
      exact hiff.mpr (h hpath) finding (Except.ok.inj hfinding)
  · exact ⟨fun _ h => absurd h hpath, fun _ _ _ h => absurd h hpath⟩

theorem kexRespected_iff (targetId : Id) (target : Target) (selected : List String)
    (path text : List Char) :
    (∀ finding, sshConfigFinding path text = some finding →
      KexRespected text
        (Scan.mapAgentFindings floatRepr targetId target [finding] selected)) ↔
      ("agent.ssh_config" ∈ selected → RemovesNone text) := by
  have hscanner : Scan.typeScannerKind.lookup "ssh_config" = some "agent.ssh_config" := by decide
  rw [← not_removed_iff]
  constructor
  · intro h hselected value hvalue name hremoved
    obtain ⟨item, hitem, hbare⟩ := hremoved.2.2
    obtain ⟨finding, hfinding, hlist⟩ := sshConfigFinding_kex path
      (Option.mem_def.mp hvalue) (List.ne_nil_of_mem hitem)
    have hmem : item ∈ finding.texts floatRepr "kex_algorithms" := by
      rw [texts_of_lookup floatRepr hlist]
      exact hitem
    have hnamed := namedBy_of_mem_texts floatRepr targetId target (sshConfigFinding_type hfinding)
      (by decide) hscanner hselected (.inl rfl) hmem
    rw [hbare] at hnamed
    exact h finding hfinding value hvalue name hremoved hnamed
  · intro h finding hfinding value hvalue name hremoved hnamed
    by_cases hselected : "agent.ssh_config" ∈ selected
    · exact h hselected value hvalue name hremoved
    · rw [mapAgentFindings_single floatRepr targetId target selected
        (sshConfigFinding_type hfinding) (by decide) hscanner, if_neg hselected] at hnamed
      obtain ⟨asset, hasset, -⟩ := hnamed
      cases hasset

/-- **Disabled algorithms stay out of the assets** exactly if nothing is disabled: every negated
cipher of a file that is read for its directives is enabled at another place, and `KexAlgorithms`
removes nothing. -/
theorem disabled_stayOut_iff (limits : Limits) (targetId : Id) (target : Target)
    (selected : List String) (serverAlgorithm : Option (List Char)) (path : PosixPath)
    (text sshPath sshText : List Char) :
    ((∀ finding,
        appConfigFinding floatRepr limits serverAlgorithm path text = .ok (some finding) →
        CiphersRespected path text
          (Scan.mapAgentFindings floatRepr targetId target [finding] selected)) ↔
      (DirectiveFile path → "agent.app_config" ∈ selected →
        NegatesNoneAlone (cipherTokens text))) ∧
    ((∀ finding, sshConfigFinding sshPath sshText = some finding →
        KexRespected sshText
          (Scan.mapAgentFindings floatRepr targetId target [finding] selected)) ↔
      ("agent.ssh_config" ∈ selected → RemovesNone sshText)) := by
  have hciphers :=
    ciphersRespected_iff floatRepr limits targetId target selected serverAlgorithm path text
  have hkex := kexRespected_iff floatRepr targetId target selected sshPath sshText
  exact ⟨hciphers, hkex⟩

end

/-- Two negated ciphers become assets, and so do two removed key exchange algorithms. -/
theorem disabled_named : letI := asciiText
    letI := Scan.constantDigest
    (¬ ∀ path text finding,
      appConfigFinding (fun _ => []) ⟨1000, 4300⟩ none path text = .ok (some finding) →
        CiphersRespected path text (Scan.mapAgentFindings (fun _ => []) 1 Scan.agentHost [finding]
          ["agent.app_config"])) ∧
    (¬ ∀ path text finding, sshConfigFinding path text = some finding →
      KexRespected text (Scan.mapAgentFindings (fun _ => []) 1 Scan.agentHost [finding]
        ["agent.ssh_config"])) := by
  let := asciiText
  let := Scan.constantDigest
  constructor
  · intro h
    have hciphers := (ciphersRespected_iff (fun _ => []) ⟨1000, 4300⟩ 1 Scan.agentHost
      ["agent.app_config"] none (.parse "/etc/apache2/apache2.conf".toList)
      "SSLCipherSuite HIGH:!aNULL:!MD5".toList).mp (h _ _) (by decide +kernel) (by decide)
    exact absurd hciphers (by decide +kernel)
  · intro h
    have hkex := (kexRespected_iff (fun _ => []) 1 Scan.agentHost ["agent.ssh_config"]
      "/etc/ssh/sshd_config".toList
      "KexAlgorithms -diffie-hellman-group1-sha1,diffie-hellman-group14-sha1".toList).mp
      (h _ _) (by decide)
    exact absurd hkex (by decide +kernel)

end CryptoScanner.HostScanners
