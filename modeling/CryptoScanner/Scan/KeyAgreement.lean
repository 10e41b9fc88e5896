import CryptoScanner.MigrationEngine.FirstMatch
import CryptoScanner.Scan.Candidates

/-!
# Key agreements from the scanner to the migration engine

The network scanner reports a key agreement for an IKE transform of type 4 and for the group of a
TLS server's readiness document.  The family that `family_from_algorithm` gives such a name, and the
rules' patterns, then decide what the engine takes the asset for.
-/

namespace CryptoScanner.Scan

open Library Python MigrationEngine

/-! ## 1. The two sources -/

def ikeEncryption : List (Nat × String) :=
  [(12, "AES-CBC"), (13, "AES-CTR"), (18, "AES-GCM-8"), (19, "AES-GCM-12"), (20, "AES-GCM-16"),
    (28, "ChaCha20-Poly1305")]

def ikePrf : List (Nat × String) :=
  [(2, "HMAC-SHA1"), (5, "HMAC-SHA2-256"), (6, "HMAC-SHA2-384"), (7, "HMAC-SHA2-512")]

def ikeIntegrity : List (Nat × String) :=
  [(2, "HMAC-SHA1-96"), (12, "HMAC-SHA2-256-128"), (13, "HMAC-SHA2-384-192"),
    (14, "HMAC-SHA2-512-256")]

def ikeDhGroups : List (Nat × String) :=
  [(14, "MODP-2048"), (15, "MODP-3072"), (16, "MODP-4096"), (19, "ECP-256"), (20, "ECP-384"),
    (21, "ECP-521"), (31, "Curve25519"), (32, "Curve448")]

def ikeName (table : List (Nat × String)) (label : String) (id : Nat) : List Char :=
  match table.lookup id with
  | some name => name.toList
  | none => label.toList ++ '-' :: (toString id).toList

/-- `struct.unpack("!H", ..)` -/
def unpackHalf (high low : UInt8) : Nat := high.toNat * 256 + low.toNat

/-- `_ike_key_length`; an attribute of another type is skipped with its value. -/
def ikeKeyLength : List UInt8 → Option Nat
  | t₁ :: t₀ :: v₁ :: v₀ :: rest =>
      let typeOrFormat := unpackHalf t₁ t₀
      let value := unpackHalf v₁ v₀
      let fixed := 0x8000 ≤ typeOrFormat
      if typeOrFormat % 0x8000 = 14 ∧ fixed then some value
      else if fixed then ikeKeyLength rest
      else ikeKeyLength (rest.drop value)
  | _ => none
termination_by attrs => attrs.length
decreasing_by
  · simp only [List.length_cons]; omega
  · simp only [List.length_cons, List.length_drop]; omega

def ikeAlgorithm (transformType transformId : Nat) (attrs : List UInt8) : Option (List Char) :=
  match transformType with
  | 1 =>
      let algorithm := ikeName ikeEncryption "ENCR" transformId
      let keyLength := (ikeKeyLength attrs).getD 0
      if keyLength ≠ 0 ∧ algorithm ∈ ["AES-CBC", "AES-CTR"].map String.toList then
        some (algorithm ++ '-' :: (toString keyLength).toList)
      else some algorithm
  | 2 => some (ikeName ikePrf "PRF" transformId)
  | 3 => some (ikeName ikeIntegrity "INTEG" transformId)
  | 4 => some (ikeName ikeDhGroups "DH-GROUP" transformId)
  | _ => none

def ikeTransformType : List (Nat × String) :=
  [(1, "encryption"), (2, "prf"), (3, "integrity"), (4, "dh_group")]

section

variable [PyText] [Sha256]

/-- `f"{target.host}:{target.port}"` -/
def targetLabel (target : Target) : List Char :=
  target.host.toList ++ ':' :: (toString target.port).toList

def ikeTransformCandidate (targetId : Id) (target : Target)
    (proposalIndex transformIndex transformType transformId : Nat) (algorithm : List Char) :
    AssetCandidate where
  targetId
  scannerKind := "network".toList
  name := targetLabel target ++ " IKE ".toList ++
    ((ikeTransformType.lookup transformType).getD "transform").toList ++ ' ' :: algorithm
  assetType := if transformType = 4 then "key_agreement".toList else "protocol".toList
  algorithm
  algorithmFamily := familyFromAlgorithm algorithm
  bomRef := "network:ike:".toList ++ stableBomRef
    [some target.host.toList, some (toString target.port).toList,
      some (toString proposalIndex).toList, some (toString transformIndex).toList,
      some (toString transformType).toList, some (toString transformId).toList, some algorithm]

def sniLabel (sni : Option String) (target : Target) : List Char :=
  if sni.getD "" ≠ "" then (sni.getD "").toList
  else if target.sni.getD "" ≠ "" then (target.sni.getD "").toList
  else target.host.toList

def getOr (metadata : List (String × Json)) (key : String) (other : Json) : Json :=
  let value := (metadata.lookup key).getD .null
  if value.truthy then value else other

/-- A candidate of `_pqc_readiness_candidates`. -/
def readinessCandidate (targetId : Id) (target : Target) (label : List Char) (role assetType : String)
    (refKind title pqcRole : String) (algorithm : List Char)
    (sourceMetadata : List (String × Json)) : AssetCandidate where
  targetId
  scannerKind := "network".toList
  name := targetLabel target ++ ' ' :: label ++ ' ' :: role.toList ++ title.toList
  assetType := assetType.toList
  algorithm
  algorithmFamily := familyFromAlgorithm algorithm
  bomRef := refKind.toList ++ stableBomRef
    [some target.host.toList, some (toString target.port).toList, some label, some algorithm]
  metadata := sourceMetadata ++ [("pqc_role", .str pqcRole)]

/-- `_pqc_readiness_candidates`, given the readiness document of a probe and the text of a float. -/
def pqcReadinessCandidates (floatRepr : PyFloat → List Char) (targetId : Id) (target : Target)
    (sni : Option String) (metadata : List (String × Json)) : List AssetCandidate :=
  if metadata.lookup "pqc_enabled" ≠ some (.bool true) then []
  else
    let label := sniLabel sni target
    let signatureAlgorithm :=
      strip ((getOr metadata "signature_algorithm" (.str "")).pyStr floatRepr)
    let kemGroup := strip ((getOr metadata "kem_group"
      (getOr metadata "key_exchange_group" (.str ""))).pyStr floatRepr)
    let hybridGroup := strip ((getOr metadata "hybrid_group" (.str "")).pyStr floatRepr)
    let sourceMetadata : List (String × Json) :=
      [("scanner", .str "network"), ("type", .str "pqc_readiness"),
        ("source", .str "tls-pqc-readiness"), ("sni", .str (String.ofList label)),
        ("evidence_path",
          getOr metadata "evidence_path" (.str "/.well-known/pqc-readiness.json")),
        ("hybrid_group", .str (String.ofList hybridGroup)),
        ("standard", (metadata.lookup "standard").getD .null),
        ("implementation", (metadata.lookup "implementation").getD .null)]
    (if signatureAlgorithm = [] then []
      else [readinessCandidate targetId target label "PQC " "certificate"
        "network:pqc-readiness:signature:" "signature" "signature" signatureAlgorithm
        sourceMetadata]) ++
    (if kemGroup = [] then []
      else [readinessCandidate targetId target label "PQC " "key_agreement"
        "network:pqc-readiness:kem:" "key agreement" "kem" kemGroup sourceMetadata]) ++
    (if hybridGroup = [] then []
      else [readinessCandidate targetId target label "hybrid " "protocol"
        "network:pqc-readiness:hybrid-group:" "TLS group" "hybrid_group" hybridGroup
        sourceMetadata])

/-- What the candidates of a readiness document have in common. -/
theorem readiness_cases {floatRepr : PyFloat → List Char} {targetId : Id} {target : Target}
    {sni : Option String} {metadata : List (String × Json)} {candidate : AssetCandidate}
    (h : candidate ∈ pqcReadinessCandidates floatRepr targetId target sni metadata) :
    ∃ role assetType refKind title pqcRole algorithm sourceMetadata,
      candidate = readinessCandidate targetId target (sniLabel sni target) role assetType refKind
        title pqcRole algorithm sourceMetadata ∧
      refKind ∈ ["network:pqc-readiness:signature:", "network:pqc-readiness:kem:",
        "network:pqc-readiness:hybrid-group:"] ∧
      sourceMetadata.lookup "fingerprint_sha256" = none := by
  have hsingle : ∀ {c : Prop} [Decidable c] {other : AssetCandidate},
      candidate ∈ (if c then [] else [other]) → candidate = other := by
    intro c _ other hother
    by_cases hc : c
    · rw [if_pos hc] at hother
      cases hother
    · rw [if_neg hc] at hother
      exact List.mem_singleton.mp hother
  unfold pqcReadinessCandidates at h
  by_cases henabled : metadata.lookup "pqc_enabled" ≠ some (.bool true)
  · rw [if_pos henabled] at h
    cases h
  rw [if_neg henabled] at h
  simp only [List.mem_append] at h
  rcases h with (h | h) | h
  all_goals exact ⟨_, _, _, _, _, _, _, hsingle h, by decide, rfl⟩

inductive KeyAgreement (floatRepr : PyFloat → List Char) : AssetCandidate → Prop
  | ike (targetId : Id) (target : Target) (proposalIndex transformIndex transformId : Nat)
      (attrs : List UInt8) (algorithm : List Char)
      (halgorithm : ikeAlgorithm 4 transformId attrs = some algorithm) :
      KeyAgreement floatRepr
        (ikeTransformCandidate targetId target proposalIndex transformIndex 4 transformId algorithm)
  | readiness (targetId : Id) (target : Target) (sni : Option String)
      (metadata : List (String × Json)) (candidate : AssetCandidate)
      (hmem : candidate ∈ pqcReadinessCandidates floatRepr targetId target sni metadata)
      (htype : candidate.assetType = "key_agreement".toList) :
      KeyAgreement floatRepr candidate

end

end CryptoScanner.Scan
