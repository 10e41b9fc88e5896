import CryptoScanner.HostScanners.TlsPolicy
import CryptoScanner.Python.PosixPath

/-!
# Dormant private keys

`_scan_private_key_files` of `registry.py`.  A reference is registered under its text and under its
base name, and a key file is looked up under both.
-/

namespace CryptoScanner.HostScanners

open Python Library

/-- What `parse_private_key_metadata` reads. -/
structure KeyMetadata where
  algorithm : List Char
  keySizeBits : Option Int
  fingerprintSha256 : Option (List Char)
  deriving DecidableEq

/-- What the two scanners see of a host: the files under the configured paths, in the order in
which they are found, and what can be read of a file. -/
structure HostFiles where
  keyCandidates : List PosixPath
  configCandidates : List PosixPath
  /-- `AGENT_REFERENCED_KEY_PATHS` -/
  referencedKeyPaths : List Char
  readText : PosixPath → Option (List Char)
  /-- `int(key_size_bits)` of a file that says its size in words raises, and then the scan has no
  findings; that it may raise is not modelled. -/
  privateKeyMetadata : PosixPath → Option KeyMetadata

def isDefaultSshHostKey (path : PosixPath) : Bool :=
  path.parent = PosixPath.parse "/etc/ssh".toList ∧ "ssh_host_".toList.isPrefixOf path.name ∧
    "_key".toList.isSuffixOf path.name

def privateKeySuffixes : List String := [".key", ".pem", ".pkcs8"]

def configSuffixes : List String := ["sshd_config", ".conf", "main.cf"]

section

variable [PyText]

def iterFiles (candidates : List PosixPath) (suffixes : List String) (maxFiles : Nat) :
    List PosixPath :=
  ((candidates.filter fun path => String.ofList (lower path.suffix) ∈ suffixes ∨
    String.ofList (lower path.name) ∈ suffixes).eraseDups).take maxFiles

namespace HostFiles

variable (host : HostFiles)

/-- The items of `AGENT_REFERENCED_KEY_PATHS`. -/
def explicitReferences : List (List Char) :=
  ((host.referencedKeyPaths.splitOn ':').map strip).filter (· ≠ [])

def configFiles : List PosixPath := iterFiles host.configCandidates configSuffixes 100

def configReferences (config : PosixPath) : List (List Char) :=
  match host.readText config with
  | some text => extractKeyReferencesFromConfig text
  | none => []

/-- The references, each with its source, in the order in which they are registered. -/
def references : List (List Char × List Char) :=
  host.explicitReferences.map (fun value => (value, "AGENT_REFERENCED_KEY_PATHS".toList)) ++
    host.configFiles.flatMap fun config =>
      (host.configReferences config).map fun value => (value, config.str)

def referencedPrivateKeyPaths : List (List Char × List (List Char)) :=
  Dict.gather (host.references.flatMap fun reference =>
    [(reference.1, reference.2), ((PosixPath.parse reference.1).name, reference.2)])

def referencedBy (path : PosixPath) : List (List Char) :=
  let byText := (Dict.get? host.referencedPrivateKeyPaths path.str).getD []
  if byText = [] then (Dict.get? host.referencedPrivateKeyPaths path.name).getD [] else byText

def inUse (path : PosixPath) : Bool := host.referencedBy path ≠ [] || isDefaultSshHostKey path

def optionJson {α : Type} (toJson : α → Json) (value : Option α) : Json :=
  (value.map toJson).getD .null

def keyFinding (path : PosixPath) (metadata : KeyMetadata) : Scan.Finding :=
  [("type", .str (if host.inUse path then "private_key_file" else "dormant_private_key")),
    ("path", .str (String.ofList path.str)),
    ("algorithm", .str (String.ofList metadata.algorithm)),
    ("key_size_bits", optionJson Json.int metadata.keySizeBits),
    ("fingerprint_sha256", optionJson (fun text => .str (String.ofList text))
      metadata.fingerprintSha256),
    ("in_use", .bool (host.inUse path)), ("dormant", .bool (!host.inUse path)),
    ("referenced_by", textList (host.referencedBy path))]

def parseError (path : PosixPath) : List (String × Json) :=
  [("capability", .str "agent.private_key_files"), ("path", .str (String.ofList path.str)),
    ("error", .str "private_key_parse_failed")]

def scanPrivateKeyFiles (maxFiles : Nat) : List Scan.Finding × List (List (String × Json)) :=
  (iterFiles host.keyCandidates privateKeySuffixes maxFiles).foldl (fun (findings, errors) path =>
    match host.privateKeyMetadata path with
    | none => (findings, errors ++ [parseError path])
    | some metadata => (findings ++ [host.keyFinding path metadata], errors)) ([], [])

/-! ## The findings -/

def keyFiles (maxFiles : Nat) : List PosixPath :=
  (iterFiles host.keyCandidates privateKeySuffixes maxFiles).filter fun path =>
    (host.privateKeyMetadata path).isSome

def referencedPaths : List (List Char) := host.references.map Prod.fst

/-- A finding reports the key file as used, or as dormant. -/
def Reported (maxFiles : Nat) (path : PosixPath) (used : Bool) : Prop :=
  ∃ finding ∈ (host.scanPrivateKeyFiles maxFiles).1,
    finding.lookup "path" = some (.str (String.ofList path.str)) ∧
      finding.lookup "type" =
        some (.str (if used then "private_key_file" else "dormant_private_key")) ∧
      finding.lookup "in_use" = some (.bool used) ∧ finding.lookup "dormant" = some (.bool (!used))

theorem scanPrivateKeyFiles_findings (maxFiles : Nat) : (host.scanPrivateKeyFiles maxFiles).1 =
    (iterFiles host.keyCandidates privateKeySuffixes maxFiles).filterMap fun path =>
      (host.privateKeyMetadata path).map (host.keyFinding path) := by
  unfold scanPrivateKeyFiles
  -- the loop appends at the end, so the paths are taken from the end as well
  induction iterFiles host.keyCandidates privateKeySuffixes maxFiles using List.reverseRecOn with
  | nil => rfl
  | append_singleton paths path ih =>
      rw [List.foldl_append, List.foldl_cons, List.foldl_nil, List.filterMap_append, ← ih]
      cases hmetadata : host.privateKeyMetadata path with
      | none => simp [hmetadata]
      | some metadata => simp [hmetadata]

theorem reported_iff_inUse (maxFiles : Nat) (path : PosixPath) (used : Bool) :
    host.Reported maxFiles path used ↔ path ∈ host.keyFiles maxFiles ∧ host.inUse path = used := by
  unfold Reported keyFiles
  rw [scanPrivateKeyFiles_findings]
  constructor
  · rintro ⟨finding, hfinding, hpath, -, hused, -⟩
    obtain ⟨other, hother, hmap⟩ := List.mem_filterMap.mp hfinding
    obtain ⟨metadata, hmetadata, rfl⟩ := Option.map_eq_some_iff.mp hmap
    -- Two paths with the same text are the same path.
    have hsame : other = path := by
      apply PosixPath.str_injective
      exact String.ofList_injective (Json.str.inj (Option.some.inj hpath))
    subst hsame
    have hvalue : host.inUse other = used := Json.bool.inj (Option.some.inj hused)
    exact ⟨List.mem_filter.mpr ⟨hother, by rw [hmetadata]; rfl⟩, hvalue⟩
  · rintro ⟨hpath, rfl⟩
    obtain ⟨hmem, hparsed⟩ := List.mem_filter.mp hpath
    obtain ⟨metadata, hmetadata⟩ := Option.isSome_iff_exists.mp hparsed
    refine ⟨host.keyFinding path metadata, ?_, rfl, rfl, rfl, rfl⟩
    apply List.mem_filterMap.mpr
    exact ⟨path, hmem, by rw [hmetadata]; rfl⟩

/-! ## What is referenced -/

theorem get?_ne_nil_iff (key : List Char) :
    (Dict.get? host.referencedPrivateKeyPaths key).getD [] ≠ [] ↔
      ∃ value ∈ host.referencedPaths, value = key ∨ (PosixPath.parse value).name = key := by
  unfold referencedPrivateKeyPaths referencedPaths
  rw [Dict.lookup_gather, ne_eq, List.map_eq_nil_iff, List.filter_eq_nil_iff]
  simp only [List.mem_flatMap, List.mem_cons, List.not_mem_nil, or_false, not_forall,
    decide_eq_true_eq, not_not, exists_prop, List.mem_map]
  constructor
  · -- every reference is registered twice, under its text and under its base name
    rintro ⟨entry, ⟨reference, hreference, rfl | rfl⟩, hkey⟩
    · exact ⟨reference.1, ⟨reference, hreference, rfl⟩, .inl hkey⟩
    · exact ⟨reference.1, ⟨reference, hreference, rfl⟩, .inr hkey⟩
  · rintro ⟨_, ⟨reference, hreference, rfl⟩, hkey | hkey⟩
    · exact ⟨(reference.1, reference.2), ⟨reference, hreference, .inl rfl⟩, hkey⟩
    · exact ⟨_, ⟨reference, hreference, .inr rfl⟩, hkey⟩

/-- A key file has references exactly if a referenced path has its base name. -/
theorem referencedBy_ne_nil_iff (path : PosixPath) : host.referencedBy path ≠ [] ↔
    ∃ value ∈ host.referencedPaths, (PosixPath.parse value).name = path.name := by
  have hlookup : host.referencedBy path ≠ [] ↔
      (Dict.get? host.referencedPrivateKeyPaths path.str).getD [] ≠ [] ∨
        (Dict.get? host.referencedPrivateKeyPaths path.name).getD [] ≠ [] := by
    unfold referencedBy
    simp only
    split
    · rename_i hempty
      simp [hempty]
    · rename_i hfound
      simp [hfound]
  -- Each of the four ways to find a path under a key makes the base names equal.
  have hname : ∀ {value key : List Char}, (PosixPath.parse key).name = path.name →
      (value = key ∨ (PosixPath.parse value).name = key) →
        (PosixPath.parse value).name = path.name := by
    rintro value key hkey (rfl | rfl)
    · exact hkey
    · rw [← hkey, PosixPath.name_parse_name]
  rw [hlookup, get?_ne_nil_iff, get?_ne_nil_iff]
  constructor
  · rintro (⟨value, hvalue, hkey⟩ | ⟨value, hvalue, hkey⟩)
    · exact ⟨value, hvalue, hname path.name_parse_str hkey⟩
    · exact ⟨value, hvalue, hname path.name_parse_name hkey⟩
  · rintro ⟨value, hvalue, hsame⟩
    exact .inr ⟨value, hvalue, .inr hsame⟩

/-- **Dormancy is decided by base names**: a key file is in use exactly if its own path or a path
with the same base name is referenced, or if it is a default host key, and dormant otherwise. -/
theorem dormancy_iff (maxFiles : Nat) (path : PosixPath) :
    (host.Reported maxFiles path true ↔ path ∈ host.keyFiles maxFiles ∧
      (path.str ∈ host.referencedPaths ∨
        (∃ value ∈ host.referencedPaths, (PosixPath.parse value).name = path.name) ∨
        isDefaultSshHostKey path = true)) ∧
    (host.Reported maxFiles path false ↔ path ∈ host.keyFiles maxFiles ∧
      ¬ (path.str ∈ host.referencedPaths ∨
        (∃ value ∈ host.referencedPaths, (PosixPath.parse value).name = path.name) ∨
        isDefaultSshHostKey path = true)) := by
  -- a reference to the own path is one to its base name
  have hown : path.str ∈ host.referencedPaths →
      ∃ value ∈ host.referencedPaths, (PosixPath.parse value).name = path.name := fun hmem =>
    ⟨path.str, hmem, path.name_parse_str⟩
  have hused : host.inUse path = true ↔ (path.str ∈ host.referencedPaths ∨
      (∃ value ∈ host.referencedPaths, (PosixPath.parse value).name = path.name) ∨
      isDefaultSshHostKey path = true) := by
    unfold inUse
    rw [Bool.or_eq_true, decide_eq_true_eq, referencedBy_ne_nil_iff]
    constructor
    · exact .inr
    · rintro (hmem | hother)
      · exact .inl (hown hmem)
      · exact hother
  rw [reported_iff_inUse, reported_iff_inUse, ← hused, Bool.not_eq_true]
  exact ⟨Iff.rfl, Iff.rfl⟩

end HostFiles

end

/-- The configuration names the key of the web server, and a backup has a key of the same name. -/
def backupHost : HostFiles where
  keyCandidates := [PosixPath.parse "/etc/nginx/ssl/server.key".toList,
    PosixPath.parse "/etc/backup/server.key".toList]
  configCandidates := [PosixPath.parse "/etc/nginx/nginx.conf".toList]
  referencedKeyPaths := []
  readText _ := some "ssl_certificate_key /etc/nginx/ssl/server.key;\n".toList
  privateKeyMetadata _ := some ⟨"RSA-2048".toList, some 2048, none⟩

theorem backupKey_inUse : letI := asciiText
    ¬ ∀ (host : HostFiles) (maxFiles : Nat) (path : PosixPath),
      (∀ value ∈ host.referencedPaths, value.head? = some '/') →
        path ∈ host.keyFiles maxFiles →
        (host.Reported maxFiles path true ↔
          path.str ∈ host.referencedPaths ∨ isDefaultSshHostKey path = true) := by
  let := asciiText
  intro h
  have hbackup := h backupHost 200 (PosixPath.parse "/etc/backup/server.key".toList)
    (by decide +kernel) (by decide +kernel)
  have hused : backupHost.Reported 200 (PosixPath.parse "/etc/backup/server.key".toList) true := by
    apply (backupHost.reported_iff_inUse _ _ _).mpr
    decide +kernel
  have hown := hbackup.mp hused
  revert hown
  decide +kernel

end CryptoScanner.HostScanners
