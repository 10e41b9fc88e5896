import CryptoScanner.HostScanners.TlsPolicy

/-!
# The minimum version of a TLS configuration

A finding names the first protocol that the directives enable as the minimum version, in whatever
order a file lists them.
-/

namespace CryptoScanner.HostScanners

open Python Library

/-- The order of the protocol versions; `TLSv1` is another name of `TLSv1.0`. -/
def versionRank (version : List Char) : Nat :=
  ([("SSLv2", 0), ("SSLv3", 1), ("TLSv1", 2), ("TLSv1.0", 2), ("TLSv1.1", 3), ("TLSv1.2", 4),
    ("TLSv1.3", 5)].lookup (String.ofList version)).getD 6

/-- Where a finding lists versions, its minimum version is a lowest one of them. -/
def ReportsMinimum (finding : Scan.Finding) : Prop :=
  ∀ versions, finding.lookup "tls_versions" = some (textList versions) →
    ∃ version ∈ versions,
      finding.lookup "minimum_tls_version" = some (.str (String.ofList version)) ∧
        ∀ other ∈ versions, versionRank version ≤ versionRank other

def FirstIsLowest (versions : List (List Char)) : Prop :=
  ∀ version ∈ versions.head?, ∀ other ∈ versions, versionRank version ≤ versionRank other

instance (versions : List (List Char)) : Decidable (FirstIsLowest versions) :=
  inferInstanceAs (Decidable (∀ version ∈ versions.head?, ∀ other ∈ versions,
    versionRank version ≤ versionRank other))

section

variable [PyText]

/-- The versions that the protocol directives of a file enable, in order. -/
def enabledVersions (text : List Char) : List (List Char) :=
  (directives text).flatMap fun directive =>
    if directiveKind (lower directive.1) = some .protocols then (extractTlsProtocols directive.2).1
    else []

/-! ## 1. The versions of a file -/

theorem tlsVersions_record (state : TlsPolicy) (directive : List Char × List Char) :
    (state.record directive).tlsVersions = state.tlsVersions ++
      if directiveKind (lower directive.1) = some .protocols then
        (extractTlsProtocols directive.2).1
      else [] := by
  unfold TlsPolicy.record
  simp only
  -- a directive of another kind leaves the versions as they are
  cases directiveKind (lower directive.1) with
  | none => simp
  | some kind => cases kind <;> simp

theorem tlsVersions_collectPolicy (text : List Char) :
    (collectPolicy text).tlsVersions = enabledVersions text :=
  collectPolicy_flatMap rfl tlsVersions_record text

theorem normalizeTlsProtocol_ne_empty {value : List Char} {protocol : String}
    (h : normalizeTlsProtocol value = some protocol) : protocol.toList ≠ [] := by
  unfold normalizeTlsProtocol at h
  simp only at h
  split at h
  · cases h
  · obtain ⟨before, after, hsplit, -⟩ := List.lookup_eq_some_iff.mp h
    have hmem : (String.ofList ((upper (strip value)).map fun c => if c = '_' then '.' else c),
        protocol) ∈ [("SSLV2", "SSLv2"), ("SSLV3", "SSLv3"), ("TLSV1", "TLSv1"),
          ("TLSV1.0", "TLSv1.0"), ("TLSV1.1", "TLSv1.1"), ("TLSV1.2", "TLSv1.2"),
          ("TLSV1.3", "TLSv1.3")] := by
      rw [hsplit]
      simp
    have hnames : ∀ entry ∈ [("SSLV2", "SSLv2"), ("SSLV3", "SSLv3"), ("TLSV1", "TLSv1"),
        ("TLSV1.0", "TLSv1.0"), ("TLSV1.1", "TLSv1.1"), ("TLSV1.2", "TLSv1.2"),
        ("TLSV1.3", "TLSv1.3")], entry.2.toList ≠ [] := by decide +kernel
    exact hnames _ hmem

theorem nil_not_mem_enabledVersions (text : List Char) : [] ∉ enabledVersions text := by
  intro hmem
  obtain ⟨directive, -, hmem⟩ := List.mem_flatMap.mp hmem
  split at hmem
  · obtain ⟨entry, hentry, hempty⟩ := List.mem_map.mp hmem
    obtain ⟨token, -, htoken⟩ := List.mem_filterMap.mp (List.mem_filter.mp hentry).1
    -- every token that is taken for a protocol has one of the seven names
    unfold tlsProtocol at htoken
    simp only at htoken
    split at htoken
    · cases htoken
    · obtain ⟨protocol, hprotocol, rfl⟩ := Option.map_eq_some_iff.mp htoken
      exact normalizeTlsProtocol_ne_empty hprotocol hempty
  · cases hmem

/-! ## 2. The finding -/

omit [PyText] in
theorem lookup_result_versions (state : TlsPolicy) : state.result.lookup "tls_versions" =
    if state.tlsVersions = [] then none else some (textList (dedupe state.tlsVersions)) := by
  unfold TlsPolicy.result
  simp only [List.lookup_append, lookup_entryFor]
  by_cases hversions : state.tlsVersions = []
  · simp [hversions]
  · simp [hversions]

theorem lookup_parse_versions (text : List Char) :
    (parseTlsConfigPolicy text).lookup "tls_versions" = if enabledVersions text = [] then none
      else some (textList (dedupe (enabledVersions text))) := by
  have hlookup := lookup_result_versions (collectPolicy text)
  rw [tlsVersions_collectPolicy] at hlookup
  exact hlookup

/-- The first version is the minimum version of a finding. -/
theorem lookup_minimum {path : List Char} {findingType : String} {algorithm : Option (List Char)}
    {text version : List Char} {finding : Scan.Finding}
    (h : directiveFinding path findingType algorithm text = some finding)
    (hfirst : (enabledVersions text).head? = some version) :
    finding.lookup "minimum_tls_version" = some (.str (String.ofList version)) := by
  unfold directiveFinding at h
  obtain ⟨found, hfound, rfl⟩ := Option.map_eq_some_iff.mp h
  have htls : found.lookup "minimum_tls_version" = some (.str (String.ofList version)) := by
    unfold tlsConfigFinding at hfound
    simp only [tlsVersions_collectPolicy, head?_dedupe (nil_not_mem_enabledVersions text),
      hfirst] at hfound
    split at hfound
    · cases hfound
    · cases hfound
      rw [Dict.lookup_set, if_pos rfl]
  cases algorithm with
  | none => exact htls
  | some algorithm => rw [Dict.lookup_set, if_neg (by decide), htls]

theorem lookup_versions {path : List Char} {findingType : String} {algorithm : Option (List Char)}
    {text : List Char} {finding : Scan.Finding}
    (h : directiveFinding path findingType algorithm text = some finding) :
    finding.lookup "tls_versions" = if enabledVersions text = [] then none
      else some (textList (dedupe (enabledVersions text))) := by
  obtain ⟨references, hlookup⟩ := @lookup_directiveFinding _ _ _ _ _ _ h "tls_versions"
    (by decide) (by decide)
  rw [hlookup, lookup_parse_versions]
  exact Option.or_none

/-- Where a version is enabled, there is a finding. -/
theorem exists_finding_of_versions (path : List Char) (findingType : String)
    (algorithm : Option (List Char)) {text : List Char} (h : enabledVersions text ≠ []) :
    ∃ finding, directiveFinding path findingType algorithm text = some finding := by
  have hlookup := lookup_parse_versions text
  rw [if_neg h] at hlookup
  obtain ⟨finding, hfinding, -⟩ := directiveFinding_lookup path findingType algorithm hlookup
    (by decide) (by decide)
  exact ⟨finding, hfinding⟩

/-- The version that a finding reports as the lowest is the first one. -/
theorem first_le_of_reportsMinimum {path : List Char} {findingType : String}
    {algorithm : Option (List Char)} {text version : List Char} {finding : Scan.Finding}
    (h : directiveFinding path findingType algorithm text = some finding)
    (hreports : ReportsMinimum finding) (hfirst : (enabledVersions text).head? = some version) :
    ∀ other ∈ enabledVersions text, versionRank version ≤ versionRank other := by
  intro other hother
  have hlist := lookup_versions h
  rw [if_neg (List.ne_nil_of_mem hother)] at hlist
  obtain ⟨lowest, -, hlowest, hle⟩ := hreports _ hlist
  -- a finding has one minimum version, so the lowest one is the first that the file enables
  have hsame := (lookup_minimum h hfirst).symm.trans hlowest
  rw [String.ofList_injective (Json.str.inj (Option.some.inj hsame))]
  exact hle other ((mem_dedupe (nil_not_mem_enabledVersions text)).mpr hother)

theorem directiveFinding_reportsMinimum_iff (path : List Char) (findingType : String)
    (algorithm : Option (List Char)) (text : List Char) :
    (∀ finding, directiveFinding path findingType algorithm text = some finding →
        ReportsMinimum finding) ↔ FirstIsLowest (enabledVersions text) := by
  have hnil := nil_not_mem_enabledVersions text
  constructor
  · intro h version hfirst
    obtain ⟨finding, hfinding⟩ := exists_finding_of_versions path findingType algorithm
      (List.ne_nil_of_mem (List.mem_of_mem_head? hfirst))
    exact first_le_of_reportsMinimum hfinding (h finding hfinding) hfirst
  · intro h finding hfinding versions hlookup
    rw [lookup_versions hfinding] at hlookup
    split at hlookup
    · cases hlookup
    · obtain rfl := textList_injective (Option.some.inj hlookup)
      cases hfirst : (enabledVersions text).head? with
      | none => exact absurd (List.head?_eq_none_iff.mp hfirst) ‹_›
      | some version =>
          refine ⟨version, (mem_dedupe hnil).mpr (List.mem_of_mem_head? hfirst),
            lookup_minimum hfinding hfirst, ?_⟩
          intro other hother
          exact h version hfirst other ((mem_dedupe hnil).mp hother)

/-- **The minimum version is the lowest** exactly if the file enables no version lower than the
first; a file that is not read for its directives has no versions. -/
theorem reportsMinimum_iff (floatRepr : PyFloat → List Char) (limits : Limits)
    (serverAlgorithm : Option (List Char)) (path : PosixPath) (text : List Char) :
    (∀ finding, appConfigFinding floatRepr limits serverAlgorithm path text = .ok (some finding) →
        ReportsMinimum finding) ↔
      (DirectiveFile path → FirstIsLowest (enabledVersions text)) := by
  by_cases hpath : DirectiveFile path
  · obtain ⟨findingType, -, algorithm, heq⟩ :=
      @appConfigFinding_directives _ floatRepr limits serverAlgorithm path hpath
    have hiff := directiveFinding_reportsMinimum_iff path.str findingType algorithm text
    rw [heq]
    constructor
    · intro h _
      exact hiff.mp fun finding hfinding => h finding (congrArg Except.ok hfinding)
    · intro h finding hfinding
      exact hiff.mpr (h hpath) finding (Except.ok.inj hfinding)
  · constructor
    · exact fun _ h => absurd h hpath
    · intro _ finding hfinding versions hversions
      obtain ⟨findingType, algorithms, hkeys⟩ := appConfigFinding_other hpath hfinding
      rw [lookup_keySetFinding hkeys (by decide)] at hversions
      cases hversions

end

/-- The directive lists the newest version first. -/
theorem newestFirst_reported : letI := asciiText
    ¬ ∀ floatRepr limits serverAlgorithm path text finding,
      appConfigFinding floatRepr limits serverAlgorithm path text = .ok (some finding) →
        ReportsMinimum finding := by
  let := asciiText
  intro h
  let path := PosixPath.parse "/etc/nginx/nginx.conf".toList
  let text := "ssl_protocols TLSv1.3 TLSv1.2;".toList
  have hpath : DirectiveFile path := by decide +kernel
  have hfirst : (enabledVersions text).head? = some "TLSv1.3".toList := by decide +kernel
  have hversions : enabledVersions text ≠ [] := by decide +kernel
  obtain ⟨findingType, -, algorithm, heq⟩ :=
    @appConfigFinding_directives _ (fun _ => []) ⟨1000, 4300⟩ none path hpath
  obtain ⟨finding, hfinding⟩ := exists_finding_of_versions path.str findingType algorithm hversions
  have hreported := h _ _ _ path text finding ((heq text).trans (congrArg Except.ok hfinding))
  have hle := first_le_of_reportsMinimum hfinding hreported hfirst
    "TLSv1.2".toList (by decide +kernel)
  exact absurd hle (by decide +kernel)

end CryptoScanner.HostScanners
