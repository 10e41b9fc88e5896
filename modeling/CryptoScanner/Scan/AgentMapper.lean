import CryptoScanner.Scan.Candidates

/-!
# The candidates of the host agents

`agent_asset_mapper.py`.  A finding is the JSON object that an agent sent.
-/

namespace CryptoScanner.Scan

open Python

def typeScannerKind : List (String × String) :=
  [("certificate_file", "agent.app_cert_files"), ("private_key_file", "agent.private_key_files"),
    ("dormant_private_key", "agent.private_key_files"), ("system_ca", "agent.cert_store"),
    ("postgres_tls_config", "agent.app_config"), ("keystore", "agent.keystore"),
    ("java_keystore", "agent.keystore"), ("ssh_authorized_key", "agent.ssh_userkey"),
    ("ssh_config", "agent.ssh_config"), ("jwt_signing_key", "agent.app_config"),
    ("mtls_trust_bundle", "agent.cert_store"), ("oidc_jwks", "agent.app_config"),
    ("saml_signing_certificate", "agent.app_cert_files"),
    ("saml_encryption_certificate", "agent.app_cert_files"),
    ("container_image_signing_key", "agent.pkg_keyring"),
    ("package_signing_key", "agent.pkg_keyring"), ("kms_key_reference", "agent.keystore"),
    ("backup_encryption_key", "agent.keystore"), ("tls_config", "agent.app_config")]

def typeAssetType : List (String × String) :=
  [("certificate_file", "certificate"), ("private_key_file", "key"), ("dormant_private_key", "key"),
    ("system_ca", "certificate"), ("postgres_tls_config", "protocol"), ("keystore", "keystore"),
    ("java_keystore", "keystore"), ("ssh_authorized_key", "ssh_user_key"),
    ("ssh_config", "protocol"), ("jwt_signing_key", "key"), ("mtls_trust_bundle", "certificate"),
    ("oidc_jwks", "key"), ("saml_signing_certificate", "certificate"),
    ("saml_encryption_certificate", "certificate"), ("container_image_signing_key", "key"),
    ("package_signing_key", "key"), ("kms_key_reference", "key"), ("backup_encryption_key", "key"),
    ("tls_config", "protocol")]

def findingMetadataKeys : List String :=
  ["fingerprint_sha256", "key_size_bits", "in_use", "dormant", "referenced_by", "source_scanners",
    "source_paths", "source_bom_refs", "format", "minimum_tls_version", "tls_versions",
    "disabled_protocols", "cipher_suites", "certificate_paths", "private_key_paths", "policy"]

abbrev Finding := List (String × Json)

def Finding.get (finding : Finding) (key : String) : Json := (finding.lookup key).getD .null

section

variable [PyText] (floatRepr : PyFloat → List Char)

def Finding.text (finding : Finding) (key : String) (default : List Char) : List Char :=
  if (finding.get key).truthy then (finding.get key).pyStr floatRepr else default

/-- The texts of a list of a finding; any other value has none. -/
def Finding.texts (finding : Finding) (key : String) : List (List Char) :=
  match finding.get key with
  | .list items => items.map (Json.pyStr floatRepr)
  | _ => []

def algorithmsForFinding (finding : Finding) : List (List Char) :=
  let collected := finding.texts floatRepr "algorithms" ++ finding.texts floatRepr "kex_algorithms" ++
    finding.texts floatRepr "tls_versions" ++ finding.texts floatRepr "cipher_suites"
  if collected ≠ [] then collected.eraseDups
  else if (finding.get "algorithm").truthy then [(finding.get "algorithm").pyStr floatRepr]
  else if (finding.get "minimum_tls_version").truthy then
    [(finding.get "minimum_tls_version").pyStr floatRepr]
  else ["unknown".toList]

def metadataForFinding (finding : Finding) (sourceScanner : String) (path : List Char) :
    List (String × Json) :=
  [("scanner", .str sourceScanner),
    ("type", .str (String.ofList (finding.text floatRepr "type" "agent_finding".toList))),
    ("path", .str (String.ofList path))] ++
  findingMetadataKeys.filterMap fun key =>
    if finding.get key = .null then none else some (key, finding.get key)

omit [PyText] in
theorem lookup_filterMap_keys (f : String → Json) {key : String} {keys : List String}
    (hkey : key ∈ keys) (hne : f key ≠ .null) :
    (keys.filterMap fun key => if f key = .null then none else some (key, f key)).lookup key =
      some (f key) := by
  induction keys with
  | nil => cases hkey
  | cons other keys ih =>
      by_cases heq : key = other
      · rw [List.filterMap_cons, ← heq, if_neg hne]
        exact List.lookup_cons_self
      · have htail := ih (List.mem_of_ne_of_mem heq hkey)
        rw [List.filterMap_cons]
        by_cases hnull : f other = .null
        · rw [if_pos hnull]
          exact htail
        · rw [if_neg hnull, List.lookup_cons, beq_false_of_ne heq]
          exact htail

/-- An entry that the metadata keeps is there as the finding has it. -/
theorem lookup_metadataForFinding (sourceScanner : String) (path : List Char) {finding : Finding}
    {key : String} {value : Json} (hkey : key ∈ findingMetadataKeys)
    (hhead : key ∉ ["scanner", "type", "path"]) (h : finding.lookup key = some value)
    (hne : value ≠ .null) :
    (metadataForFinding floatRepr finding sourceScanner path).lookup key = some value := by
  have hget : finding.get key = value := by rw [Finding.get, h, Option.getD_some]
  have hkept := lookup_filterMap_keys finding.get hkey (by rw [hget]; exact hne)
  have hskip : ∀ other ∈ ["scanner", "type", "path"], key ≠ other := by
    rintro other hother rfl
    exact hhead hother
  rw [metadataForFinding, List.cons_append, List.cons_append, List.cons_append, List.nil_append,
    List.lookup_cons, beq_false_of_ne (hskip _ (by simp)), List.lookup_cons,
    beq_false_of_ne (hskip _ (by simp)), List.lookup_cons, beq_false_of_ne (hskip _ (by simp)),
    ← hget]
  exact hkept

def candidateForFinding [Sha256] (targetId : Id) (target : Target) (finding : Finding)
    (sourceScanner : String) (algorithm : List Char) : AssetCandidate :=
  let findingType := finding.text floatRepr "type" "agent_finding".toList
  let path := finding.text floatRepr "path" findingType
  { targetId
    scannerKind := sourceScanner.toList
    name := target.host.toList ++ ' ' :: findingType ++ ' ' :: path
    assetType := ((typeAssetType.lookup (String.ofList findingType)).getD "crypto").toList
    algorithm
    algorithmFamily := familyFromAlgorithm algorithm
    bomRef := sourceScanner.toList ++ ':' ::
      stableBomRef [some target.host.toList, some findingType, some path, some algorithm]
    metadata := metadataForFinding floatRepr finding sourceScanner path }

def mapAgentFindings [Sha256] (targetId : Id) (target : Target) (findings : List Finding)
    (selectedScanners : List String) : List AssetCandidate :=
  findings.flatMap fun finding =>
    match typeScannerKind.lookup (String.ofList (finding.text floatRepr "type" [])) with
    | none => []
    | some sourceScanner =>
        if sourceScanner ∈ selectedScanners then
          (algorithmsForFinding floatRepr finding).map fun algorithm =>
            candidateForFinding floatRepr targetId target finding sourceScanner algorithm
        else []

end

end CryptoScanner.Scan
