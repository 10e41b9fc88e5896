import CryptoScanner.HostScanners.TlsPolicy

/-!
# What the value of an unrecognised directive reaches

Two files that differ in the value of one directive which is no TLS directive.
-/

namespace CryptoScanner.HostScanners

open Python Library

/-- Two files with one line changed.  The line is a directive that is not recognised, in the
reading of the policy and in that of the key references, and names no key file. -/
structure DirectiveChange [PyText] where
  before : List Char
  line : List Char
  line' : List Char
  after : List Char
  key : List Char
  value : List Char
  value' : List Char
  before_complete : ∀ b ∈ before.getLast?, isLineBreak b = true
  after_complete : ∀ b ∈ after.head?, isLineBreak b = true
  one_line : ∀ c ∈ line, isLineBreak c = false
  one_line' : ∀ c ∈ line', isLineBreak c = false
  reads : parseConfigDirective line = some (key, value)
  reads' : parseConfigDirective line' = some (key, value')
  unrecognised : directiveKind (lower key) = none
  no_reference : keyReference line = none
  no_reference' : keyReference line' = none
  no_path : findKeyFilePaths 0 line = []
  no_path' : findKeyFilePaths 0 line' = []

variable [PyText]

theorem directives_afterBreak {back : List Char} (hback : ∀ b ∈ back.head?, isLineBreak b = true) :
    directives (afterBreak back) = directives back := by
  by_cases hne : back = []
  · rw [hne]
    rfl
  · rw [directives, directives, splitLines_afterBreak hback hne]
    rfl

namespace DirectiveChange

variable (change : DirectiveChange)

def file : List Char := change.before ++ (change.line ++ change.after)

def file' : List Char := change.before ++ (change.line' ++ change.after)

/-- A later line has the same key. -/
def Overridden : Prop := ∃ later ∈ directives change.after, lower later.1 = lower change.key

def swap : DirectiveChange where
  before := change.before
  line := change.line'
  line' := change.line
  after := change.after
  key := change.key
  value := change.value'
  value' := change.value
  before_complete := change.before_complete
  after_complete := change.after_complete
  one_line := change.one_line'
  one_line' := change.one_line
  reads := change.reads'
  reads' := change.reads
  unrecognised := change.unrecognised
  no_reference := change.no_reference'
  no_reference' := change.no_reference
  no_path := change.no_path'
  no_path' := change.no_path

theorem line_ne_nil : change.line ≠ [] := by
  intro h
  have hreads := change.reads
  rw [h] at hreads
  cases hreads

theorem splitLines_file : splitLines change.file =
    splitLines change.before ++ change.line :: splitLines (afterBreak change.after) :=
  splitLines_around change.line_ne_nil change.before_complete change.after_complete change.one_line

theorem directives_file : directives change.file =
    directives change.before ++ (change.key, change.value) :: directives change.after := by
  rw [directives, splitLines_file, List.filterMap_append, List.filterMap_cons, change.reads,
    ← directives_afterBreak change.after_complete]
  rfl

theorem references_file : extractKeyReferencesFromConfig change.file =
    dedupe (findKeyFilePaths 0 change.before ++ findKeyFilePaths 0 change.after ++
      ((splitLines change.before).filterMap keyReference ++
        (splitLines (afterBreak change.after)).filterMap keyReference)) := by
  rw [extractKeyReferencesFromConfig, splitLines_file, List.filterMap_append, List.filterMap_cons,
    change.no_reference, file,
    findKeyFilePaths_around change.before_complete change.after_complete, change.no_path]
  rfl

theorem references_eq :
    extractKeyReferencesFromConfig change.file = extractKeyReferencesFromConfig change.file' := by
  have h := change.swap.references_file
  rw [references_file]
  exact h.symm

/-- The state before the changed line, with the value set under the key. -/
theorem collectPolicy_file :
    collectPolicy change.file =
      { (directives change.after).foldl TlsPolicy.record
          ((directives change.before).foldl TlsPolicy.record {}) with
        policy := Dict.update
          (Dict.set (lower change.key) change.value
            ((directives change.before).foldl TlsPolicy.record {}).policy)
          ((directives change.after).map fun item => (lower item.1, item.2)) } := by
  rw [collectPolicy, directives_file, List.foldl_append, List.foldl_cons,
    record_unrecognised _ change.unrecognised, foldl_record_withPolicy]

/-- Apart from the policy, the two files give the same state. -/
theorem collectPolicy_file' :
    collectPolicy change.file' =
      { collectPolicy change.file with policy := (collectPolicy change.file').policy } := by
  have h : collectPolicy change.file' = _ := change.swap.collectPolicy_file
  rw [h, collectPolicy_file]
  rfl

theorem policy_eq_iff :
    (collectPolicy change.file).policy = (collectPolicy change.file').policy ↔
      change.value = change.value' ∨ change.Overridden := by
  have h' : collectPolicy change.file' = _ := change.swap.collectPolicy_file
  have hlater : lower change.key ∈
      ((directives change.after).map fun item => (lower item.1, item.2)).map Prod.fst ↔
        change.Overridden := by
    rw [List.map_map, List.mem_map]
    rfl
  rw [collectPolicy_file, h']
  exact (Dict.update_set_eq_iff _ _ _ _ _).trans (or_congr_right hlater)

theorem policy_ne_nil : (collectPolicy change.file).policy ≠ [] := by
  intro hnil
  have hkeys : lower change.key ∈ (collectPolicy change.file).policy.map Prod.fst := by
    rw [collectPolicy_file]
    apply Dict.mem_keys_update.mpr
    exact .inl (Dict.mem_keys_set.mpr (.inl rfl))
  rw [hnil] at hkeys
  cases hkeys

variable (path : List Char) (findingType : String) (algorithm : Option (List Char))

theorem finding_eq_of_policy_eq
    (h : (collectPolicy change.file).policy = (collectPolicy change.file').policy) :
    directiveFinding path findingType algorithm change.file =
      directiveFinding path findingType algorithm change.file' := by
  have hstate : collectPolicy change.file = collectPolicy change.file' := by
    rw [collectPolicy_file', ← h]
  rw [directiveFinding, directiveFinding, tlsConfigFinding, tlsConfigFinding,
    parseTlsConfigPolicy, parseTlsConfigPolicy, hstate, references_eq]

variable (floatRepr : PyFloat → List Char) (sourceScanner : String) (storedPath : List Char)

/-- What the backend keeps of the policy determines it. -/
theorem policy_eq_of_metadata_eq
    (h : (directiveFinding path findingType algorithm change.file).map
        (Scan.metadataForFinding floatRepr · sourceScanner storedPath) =
      (directiveFinding path findingType algorithm change.file').map
        (Scan.metadataForFinding floatRepr · sourceScanner storedPath)) :
    (collectPolicy change.file).policy = (collectPolicy change.file').policy := by
  obtain ⟨finding, hfinding, hpolicy⟩ :=
    directiveFinding_policy path findingType algorithm change.policy_ne_nil
  obtain ⟨finding', hfinding', hpolicy'⟩ :=
    directiveFinding_policy path findingType algorithm change.swap.policy_ne_nil
  change directiveFinding path findingType algorithm change.file' = _ at hfinding'
  rw [hfinding, hfinding'] at h
  have hlookup := congrArg (List.lookup "policy") (Option.some.inj h)
  have hkept : ∀ {finding : Scan.Finding} {policy : List (List Char × List Char)},
      finding.lookup "policy" = some (policyJson policy) →
        (Scan.metadataForFinding floatRepr finding sourceScanner storedPath).lookup "policy" =
          some (policyJson policy) := by
    intro finding policy hpolicy
    apply Scan.lookup_metadataForFinding floatRepr _ _ (by decide) (by decide) hpolicy
    intro hnull
    cases hnull
  rw [hkept hpolicy, hkept hpolicy'] at hlookup
  exact policyJson_injective (Option.some.inj hlookup)

/-- The value of an unrecognised directive reaches the finding and the stored metadata, unless a
later line sets its key again. -/
theorem leak_iff :
    (directiveFinding path findingType algorithm change.file =
        directiveFinding path findingType algorithm change.file' ∧
      (directiveFinding path findingType algorithm change.file).map
          (Scan.metadataForFinding floatRepr · sourceScanner storedPath) =
        (directiveFinding path findingType algorithm change.file').map
          (Scan.metadataForFinding floatRepr · sourceScanner storedPath)) ↔
      change.value = change.value' ∨ change.Overridden := by
  rw [← policy_eq_iff]
  constructor
  · intro h
    exact change.policy_eq_of_metadata_eq _ _ _ _ _ _ h.2
  · intro h
    have hfinding := change.finding_eq_of_policy_eq path findingType algorithm h
    exact ⟨hfinding, congrArg _ hfinding⟩

end DirectiveChange

omit [PyText]

def passwordChange : @DirectiveChange asciiText :=
  @DirectiveChange.mk asciiText "tls_versions=TLSv1.2\n".toList "db.password=hunter2".toList
    "db.password=swordfish".toList "\n".toList "db.password".toList "hunter2".toList
    "swordfish".toList (by decide +kernel) (by decide +kernel) (by decide +kernel)
    (by decide +kernel) (by decide +kernel) (by decide +kernel) (by decide +kernel)
    (by decide +kernel) (by decide +kernel) (by decide +kernel) (by decide +kernel)

theorem password_leaks :
    letI := asciiText
    ¬ ∀ (change : DirectiveChange) (path : PosixPath) (serverAlgorithm : Option (List Char))
        (limits : Limits) (floatRepr : PyFloat → List Char) (sourceScanner : String)
        (storedPath : List Char),
      appConfigFinding floatRepr limits serverAlgorithm path change.file =
          appConfigFinding floatRepr limits serverAlgorithm path change.file' ∧
        (appConfigFinding floatRepr limits serverAlgorithm path change.file).map
            (Option.map (Scan.metadataForFinding floatRepr · sourceScanner storedPath)) =
          (appConfigFinding floatRepr limits serverAlgorithm path change.file').map
            (Option.map (Scan.metadataForFinding floatRepr · sourceScanner storedPath)) := by
  intro h
  have hfinding := (h passwordChange (.parse "/opt/legacy-java/conf/tls.properties".toList) none
    ⟨1000, 4300⟩ (fun _ => []) "agent.app_config"
    "/opt/legacy-java/conf/tls.properties".toList).1
  revert hfinding
  decide +kernel

end CryptoScanner.HostScanners
