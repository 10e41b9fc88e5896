import CryptoScanner.Library.While
import CryptoScanner.Python.IpText
import CryptoScanner.Scan.NetworkCandidates

/-!
# The TLS scan of a target

`_scan_tls` probes a target under every name it hears of: the target's own, those of other targets
at its address, and those in the certificates that the probes return.
-/

namespace CryptoScanner.Scan

open Library Python

/-! ## 1. A probe and its names -/

/-- What `_tls_probe` returns. -/
structure TlsProbe extends TlsProbeResult where
  derChain : List (List UInt8)
  alpn : Option String
  /-- `result.pqc_readiness or {}` -/
  pqcReadiness : List (String × Json)
  deriving DecidableEq

/-- What `openssl x509` prints about a certificate, and the values read from it. -/
structure CertificateText where
  printed : List UInt8 → List Char
  parsed : List UInt8 → ParsedCertificate

def isHostname (value : List Char) : Bool := value ≠ [] && !isIpAddress value

section

variable [PyText]

/-- `re.findall(r"DNS:([^,\s]+)", text)`, with the number of characters the last match still takes. -/
def findDnsNames : Nat → List Char → List (List Char)
  | _, [] => []
  | taken + 1, _ :: text => findDnsNames taken text
  | 0, c :: text =>
      let name := (text.drop 3).takeWhile fun c => c ≠ ',' && !PyText.isSpace c
      if "DNS:".toList <+: c :: text ∧ name ≠ [] then
        name :: findDnsNames (3 + name.length) text
      else findDnsNames 0 text

def parseSubjectAltNames (text : List Char) : List (List Char) :=
  (findDnsNames 0 text).foldl
    (fun names name =>
      let normalized := lower (name.rdropWhile (· = '.'))
      if normalized ≠ [] ∧ normalized ∉ names then names ++ [normalized] else names) []

def subjectAltNamesFromChain (certificates : CertificateText) (derChain : List (List UInt8)) :
    List String :=
  match derChain with
  | [] => []
  | der :: _ =>
      let names := if der = [] then [] else parseSubjectAltNames (certificates.printed der)
      (names.filter isHostname).map String.ofList

end

def dedupeNames (values : List (Option String)) : List String :=
  values.foldl
    (fun result value =>
      if value.getD "" = "" ∨ value.getD "" ∈ result then result else result ++ [value.getD ""]) []

section

variable [PyText] [Sha256] (floatRepr : PyFloat → List Char)

def tlsCandidatesFromResult (certificates : CertificateText) (targetId : Id) (target : Target)
    (result : TlsProbe) (source : TlsSource) : List AssetCandidate :=
  (result.derChain.zipIdx.map fun (der, index) =>
    certificateCandidate targetId target der (certificates.parsed der) source result.sni index) ++
  (if result.tlsVersion.getD "" = "" then []
    else [tlsVersionCandidate targetId target result.toTlsProbeResult]) ++
  ((dedupeNames (result.cipherSuite :: result.supportedCipherSuites.map some)).map
    fun cipherSuite => tlsCipherCandidate targetId target result.toTlsProbeResult cipherSuite) ++
  pqcReadinessCandidates floatRepr targetId target result.sni result.pqcReadiness ++
  (match result.alpn with
    | none => []
    | some alpn =>
        if alpn = "" then []
        else [applicationProtocolCandidate targetId target (upper alpn.toList)
          ("ALPN ".toList ++ alpn.toList) result.sni]) ++
  (if target.port = 8883 ∨ result.alpn = some "mqtt" then
      [applicationProtocolCandidate targetId target "MQTT".toList "MQTT over TLS".toList result.sni]
    else [])

end

/-! ## 2. The names to begin with -/

/-- `_known_sni_aliases`, given all targets and the address that each of them resolves to. -/
def knownSniAliases (address : Target → Option String) (targets : List (Id × Target))
    (targetId : Id) (target : Target) : List String :=
  if (address target).getD "" = "" then []
  else
    (targets.filter fun (id, other) =>
      other.port = target.port ∧ other.transport = target.transport ∧ id ≠ targetId).foldl
      (fun aliases (_, other) =>
        let known := if other.sni.getD "" ≠ "" then other.sni.getD "" else other.host
        if isHostname known.toList ∧ address other = address target ∧ known ∉ aliases then
          aliases ++ [known]
        else aliases) []

def initialSniNames (target : Target) (knownAliases : List String) : List (Option String) :=
  let primary :=
    if target.sni.getD "" ≠ "" then target.sni
    else if isHostname target.host.toList then some target.host else none
  knownAliases.foldl
    (fun names known => if some known ∈ names then names else names ++ [some known]) [primary]

/-! ## 3. The loop -/

/-- The variables of `_scan_tls`, and the probes that have returned. -/
structure TlsScan where
  candidates : List AssetCandidate := []
  seenSni : List String := []
  pendingSni : List (Option String)
  probes : List (Option String × TlsProbe) := []

def sniKey (sni : Option String) : String := sni.getD ""

def appendPending (seenSni : List String) (pendingSni : List (Option String)) (names : List String) :
    List (Option String) :=
  names.foldl
    (fun pendingSni name =>
      if name ∉ seenSni ∧ some name ∉ pendingSni then pendingSni ++ [some name] else pendingSni)
    pendingSni

/-- The target of a scan and its surroundings.  The aliases are host names, so none is empty. -/
structure TlsEnvironment where
  floatRepr : PyFloat → List Char
  certificates : CertificateText
  targetId : Id
  target : Target
  /-- What `_known_sni_aliases` returns during the scan. -/
  knownAliases : List String
  knownAliases_ne_empty : "" ∉ knownAliases

namespace TlsEnvironment

variable [PyText] (env : TlsEnvironment)

/-- `_subject_alt_names_from_chain(result.der_chain)` -/
def sans (result : TlsProbe) : List String :=
  subjectAltNamesFromChain env.certificates result.derChain

variable [Sha256]

def candidatesOf (result : TlsProbe) : List AssetCandidate :=
  tlsCandidatesFromResult env.floatRepr env.certificates env.targetId env.target result .tls

def answered (s : TlsScan) (sni : Option String) (pendingSni : List (Option String))
    (result : TlsProbe) : TlsScan :=
  let seenSni := sniKey sni :: s.seenSni
  { candidates := s.candidates ++ env.candidatesOf result
    seenSni
    pendingSni := appendPending seenSni (appendPending seenSni pendingSni (env.sans result))
      env.knownAliases
    probes := s.probes ++ [(sni, result)] }

variable (tlsProbe : Nat → Option String → Except String TlsProbe)

/-- One turn of the loop; `tlsProbe n sni` is what the probe under the name does when `n` probes
have returned before it. -/
def scanTlsTurn (s : TlsScan) : Outcome String (ForInStep TlsScan) :=
  match s.pendingSni with
  | [] => some (.ok (.done s))
  | sni :: pendingSni =>
      if sniKey sni ∈ s.seenSni then some (.ok (.yield { s with pendingSni }))
      else
        match tlsProbe s.probes.length sni with
        | .error error => some (.error error)
        | .ok result => some (.ok (.yield (env.answered s sni pendingSni result)))

def scanTlsFrom (fuel : Nat) (names : List (Option String)) : Outcome String TlsScan :=
  While.run (env.scanTlsTurn tlsProbe) fuel { pendingSni := names }

def scanTls (fuel : Nat) : Outcome String (List AssetCandidate) :=
  (env.scanTlsFrom tlsProbe fuel (initialSniNames env.target env.knownAliases)).map
    fun result => result.map TlsScan.candidates

end TlsEnvironment

/-! ## 4. The scan of a target -/

section

variable [PyText] [Sha256]

/-- `_scan_ssh`, given the keys that parse. -/
def scanSsh (targetId : Id) (target : Target)
    (hostKeys : List (List UInt8 × List Char × List Char)) : List AssetCandidate :=
  if hostKeys = [] then [sshPolicyCandidate targetId target]
  else hostKeys.map fun (blob, algorithm, algorithmFamily) =>
    sshHostKeyCandidate targetId target blob algorithm algorithmFamily

/-- What the scanners of the protocols return or raise for a target. -/
structure ProtocolScans where
  tls : Except String (List AssetCandidate)
  ssh : Except String (List AssetCandidate)
  ike : Except String (List AssetCandidate)
  smtp : Except String (List AssetCandidate)
  postgresql : Except String (List AssetCandidate)

def scanUnknown (targetId : Id) (target : Target) (scans : ProtocolScans) : List AssetCandidate :=
  (([scans.tls, scans.ssh].filterMap Except.toOption).find? (· ≠ [])).getD
    [tcpFallbackCandidate targetId target]

def tlsDirectPorts : List Nat :=
  [443, 465, 993, 995, 3306, 5000, 6380, 8200, 8443, 8883, 9090, 9093, 9200, 9443, 15017]

/-- The scanner that `scan_network_target` chooses. -/
inductive Route
  | ike
  | ssh
  | smtp
  | postgresql
  | tls
  | unknown
  | fallback
  deriving DecidableEq, Repr

/-- The tests of `scan_network_target`, in order. -/
def route (target : Target) : Route :=
  if target.transport = .udp ∧ target.protocolHint = .ike then .ike
  else if target.protocolHint = .ssh ∨ target.port ∈ [22, 2222] then .ssh
  else if target.protocolHint = .smtp ∧ target.port ∈ [25, 587] then .smtp
  else if target.port = 5432 then .postgresql
  else if target.protocolHint ∈ [.tls, .smtp, .imap, .pop3] ∨ target.port ∈ tlsDirectPorts then .tls
  else if target.protocolHint = .unknown then .unknown
  else .fallback

def scanNetworkTarget (targetId : Id) (target : Target) (scans : ProtocolScans) :
    Except String (List AssetCandidate) :=
  match route target with
  | .ike => scans.ike
  | .ssh => scans.ssh
  | .smtp => scans.smtp
  | .postgresql => scans.postgresql
  | .tls => scans.tls
  | .unknown => .ok (scanUnknown targetId target scans)
  | .fallback => .ok [tcpFallbackCandidate targetId target]

end

end CryptoScanner.Scan
