import CryptoScanner.Scan.KeyAgreement

/-!
# The candidates of the network scanner

The functions of `network_scanner.py` that build a candidate from a probe.  What `openssl` prints
about a certificate and what is read from an SSH key are arguments.
-/

namespace CryptoScanner.Scan

open Python

/-- What a TLS handshake returned, without the certificates and the readiness document. -/
structure TlsProbeResult where
  sni : Option String
  tlsVersion : Option String
  cipherSuite : Option String
  supportedCipherSuites : List String
  deriving DecidableEq, Repr

/-- `_parse_certificate_der`'s result; an absent text is empty. -/
structure ParsedCertificate where
  algorithm : List Char
  algorithmFamily : List Char
  notAfter : String
  expiresAt : String
  deriving DecidableEq, Repr

/-- The `source` of a certificate. -/
inductive TlsSource
  | tls
  | smtpStarttls
  | postgresqlTls
  deriving DecidableEq, Repr

def TlsSource.text : TlsSource → String
  | .tls => "tls"
  | .smtpStarttls => "smtp-starttls"
  | .postgresqlTls => "postgresql-tls"

/-- The protocols of `_protocol_policy_candidate`. -/
inductive PolicyProtocol
  | smtp
  | postgresql
  | ike
  deriving DecidableEq, Repr

def PolicyProtocol.text : PolicyProtocol → String
  | .smtp => "SMTP"
  | .postgresql => "PostgreSQL"
  | .ike => "IKE"

def PolicyProtocol.casefold : PolicyProtocol → String
  | .smtp => "smtp"
  | .postgresql => "postgresql"
  | .ike => "ike"

def transportText : Transport → String
  | .tcp => "TCP"
  | .udp => "UDP"

def certificateValidityMetadata (parsed : ParsedCertificate) : List (String × Json) :=
  (if parsed.notAfter = "" then [] else [("not_after", .str parsed.notAfter)]) ++
  (if parsed.expiresAt = "" then [] else [("expires_at", .str parsed.expiresAt)])

section

variable [PyText] [Sha256]

/-- `f"network:{source}:cert:{sni_label}:{chain_index}:{fingerprint}"` -/
def certificateRef (source : TlsSource) (label : List Char) (chainIndex : Nat)
    (fingerprint : List Char) : List Char :=
  "network:".toList ++ source.text.toList ++ ":cert:".toList ++ label ++ ':' ::
    (toString chainIndex).toList ++ ':' :: fingerprint

def certificateCandidate (targetId : Id) (target : Target) (der : List UInt8)
    (parsed : ParsedCertificate) (source : TlsSource) (sni : Option String) (chainIndex : Nat) :
    AssetCandidate :=
  let fingerprint := Sha256.hexdigest der
  let algorithm :=
    if parsed.algorithm = [] then "X.509 certificate".toList else parsed.algorithm
  let family :=
    if parsed.algorithmFamily = [] then familyFromAlgorithm algorithm else parsed.algorithmFamily
  let role :=
    if chainIndex = 0 then "leaf".toList else "chain-".toList ++ (toString chainIndex).toList
  let label := sniLabel sni target
  { targetId
    scannerKind := "network".toList
    name := targetLabel target ++ ' ' :: label ++ " certificate ".toList ++ role
    assetType := "certificate".toList
    algorithm
    algorithmFamily := family
    bomRef := certificateRef source label chainIndex fingerprint
    metadata :=
      [("scanner", .str "network"), ("type", .str "certificate"),
        ("fingerprint_sha256", .str (String.ofList fingerprint)),
        ("sni", .str (String.ofList label)), ("chain_index", .int chainIndex),
        ("source", .str source.text)] ++ certificateValidityMetadata parsed }

def tlsVersionCandidate (targetId : Id) (target : Target) (result : TlsProbeResult) :
    AssetCandidate :=
  let label := sniLabel result.sni target
  { targetId
    scannerKind := "network".toList
    name := targetLabel target ++ ' ' :: label ++ " TLS version policy".toList
    assetType := "protocol".toList
    algorithm :=
      if result.tlsVersion.getD "" = "" then "TLS".toList else (result.tlsVersion.getD "").toList
    algorithmFamily := familyFromAlgorithm (result.tlsVersion.getD "").toList
    bomRef := "network:tls-version:".toList ++ stableBomRef
      [some target.host.toList, some (toString target.port).toList, some label,
        result.tlsVersion.map String.toList] }

def tlsCipherCandidate (targetId : Id) (target : Target) (result : TlsProbeResult)
    (cipherSuite : String) : AssetCandidate :=
  let label := sniLabel result.sni target
  { targetId
    scannerKind := "network".toList
    name := targetLabel target ++ ' ' :: label ++ " TLS cipher suite".toList
    assetType := "protocol".toList
    algorithm := cipherSuite.toList
    algorithmFamily := familyFromAlgorithm cipherSuite.toList
    bomRef := "network:tls-cipher:".toList ++ stableBomRef
      [some target.host.toList, some (toString target.port).toList, some label,
        some cipherSuite.toList]
    metadata :=
      [("scanner", .str "network"), ("type", .str "tls_cipher_suite"),
        ("sni", .str (String.ofList label)),
        ("observation",
          .str (if result.cipherSuite = some cipherSuite then "negotiated" else "enumerated")),
        ("supported_cipher_suites", .list (result.supportedCipherSuites.map Json.str))] }

def applicationProtocolCandidate (targetId : Id) (target : Target) (protocol algorithm : List Char)
    (sni : Option String) : AssetCandidate where
  targetId
  scannerKind := "network".toList
  name := targetLabel target ++ ' ' :: protocol ++ " application protocol".toList
  assetType := "protocol".toList
  algorithm
  algorithmFamily := familyFromAlgorithm algorithm
  bomRef := "network:application-protocol:".toList ++ stableBomRef
    [some target.host.toList, some (toString target.port).toList, some (sniLabel sni target),
      some protocol, some algorithm]

def protocolPolicyCandidate (targetId : Id) (target : Target) (protocol : PolicyProtocol)
    (algorithm : List Char) : AssetCandidate where
  targetId
  scannerKind := "network".toList
  name := targetLabel target ++ ' ' :: protocol.text.toList ++ " policy".toList
  assetType := "protocol".toList
  algorithm
  algorithmFamily := familyFromAlgorithm algorithm
  bomRef := "network:".toList ++ protocol.casefold.toList ++ "-policy:".toList ++ stableBomRef
    [some target.host.toList, some (toString target.port).toList, some algorithm]

def tcpFallbackCandidate (targetId : Id) (target : Target) : AssetCandidate where
  targetId
  scannerKind := "network".toList
  name := targetLabel target ++ " open TCP service".toList
  assetType := "protocol".toList
  algorithm := "TCP open service".toList
  algorithmFamily := []
  bomRef := "network:tcp-fallback:".toList ++ stableBomRef
    [some target.host.toList, some (toString target.port).toList,
      some (transportText target.transport).toList]

def sshPolicyCandidate (targetId : Id) (target : Target) : AssetCandidate where
  targetId
  scannerKind := "network".toList
  name := targetLabel target ++ " SSH protocol policy".toList
  assetType := "protocol".toList
  algorithm := "SSH key exchange policy".toList
  algorithmFamily := "DH".toList
  bomRef := "network:ssh-policy:".toList ++ stableBomRef
    [some target.host.toList, some (toString target.port).toList]

/-- `_ssh_host_key_candidate`, for a key that parses. -/
def sshHostKeyCandidate (targetId : Id) (target : Target) (blob : List UInt8)
    (algorithm algorithmFamily : List Char) : AssetCandidate :=
  let fingerprint := "SHA256:".toList ++ Sha256.base64digest blob
  { targetId
    scannerKind := "network".toList
    name := targetLabel target ++ " SSH host key ".toList ++ algorithm
    assetType := "ssh_host_key".toList
    algorithm
    algorithmFamily
    bomRef := "network:ssh-host-key:".toList ++ fingerprint
    metadata :=
      [("scanner", .str "network"), ("type", .str "ssh_host_key"),
        ("ssh_fingerprint", .str (String.ofList fingerprint))] }

omit [PyText] [Sha256] in
/-- Candidates whose references begin apart differ. -/
theorem ne_of_heads {candidate other : AssetCandidate} {head tail head' tail' : List Char}
    (hcandidate : candidate.bomRef = head ++ tail) (hother : other.bomRef = head' ++ tail')
    (hapart : ¬ (head <+: head' ∨ head' <+: head)) : candidate ≠ other := by
  intro heq
  have hrefs := hcandidate.symm.trans ((congrArg AssetCandidate.bomRef heq).trans hother)
  exact hapart (List.prefix_or_prefix_of_prefix (List.prefix_append head tail)
    (hrefs ▸ List.prefix_append head' tail'))

/-- A candidate that `scan_network_target` can return. -/
inductive NetworkCandidate (floatRepr : PyFloat → List Char) : AssetCandidate → Prop
  | certificate (targetId : Id) (target : Target) (der : List UInt8) (parsed : ParsedCertificate)
      (source : TlsSource) (sni : Option String) (chainIndex : Nat) :
      NetworkCandidate floatRepr
        (certificateCandidate targetId target der parsed source sni chainIndex)
  | tlsVersion (targetId : Id) (target : Target) (result : TlsProbeResult) :
      NetworkCandidate floatRepr (tlsVersionCandidate targetId target result)
  | tlsCipher (targetId : Id) (target : Target) (result : TlsProbeResult) (cipherSuite : String) :
      NetworkCandidate floatRepr (tlsCipherCandidate targetId target result cipherSuite)
  | readiness (targetId : Id) (target : Target) (sni : Option String)
      (metadata : List (String × Json)) (candidate : AssetCandidate)
      (hmem : candidate ∈ pqcReadinessCandidates floatRepr targetId target sni metadata) :
      NetworkCandidate floatRepr candidate
  | applicationProtocol (targetId : Id) (target : Target) (protocol algorithm : List Char)
      (sni : Option String) :
      NetworkCandidate floatRepr
        (applicationProtocolCandidate targetId target protocol algorithm sni)
  | protocolPolicy (targetId : Id) (target : Target) (protocol : PolicyProtocol)
      (algorithm : List Char) :
      NetworkCandidate floatRepr (protocolPolicyCandidate targetId target protocol algorithm)
  | tcpFallback (targetId : Id) (target : Target) :
      NetworkCandidate floatRepr (tcpFallbackCandidate targetId target)
  | sshPolicy (targetId : Id) (target : Target) :
      NetworkCandidate floatRepr (sshPolicyCandidate targetId target)
  | sshHostKey (targetId : Id) (target : Target) (blob : List UInt8)
      (algorithm algorithmFamily : List Char) :
      NetworkCandidate floatRepr
        (sshHostKeyCandidate targetId target blob algorithm algorithmFamily)
  | ikeTransform (targetId : Id) (target : Target)
      (proposalIndex transformIndex transformType transformId : Nat) (algorithm : List Char) :
      NetworkCandidate floatRepr (ikeTransformCandidate targetId target proposalIndex transformIndex
        transformType transformId algorithm)

end

end CryptoScanner.Scan
