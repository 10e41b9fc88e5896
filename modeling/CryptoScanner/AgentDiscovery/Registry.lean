import CryptoScanner.AgentDiscovery.Runner
import CryptoScanner.Discoveries.Endpoints

/-!
# The probes of an agent

`build_default_registry`: one probe for each protocol, each for its ports, and a fallback that only
connects.  What the network answers is given.
-/

namespace CryptoScanner.AgentDiscovery

open Library Python

/-! ## 1. The network -/

/-- What a probe receives from a host and port; bytes are characters up to 255, and `none` is an
`OSError` after the connection. -/
structure Network where
  /-- `socket.create_connection` succeeds. -/
  isOpen : List Char → Nat → Bool
  banner : List Char → Nat → Option (List Char)
  ehloReply : List Char → Nat → Option (List Char)
  sslReply : List Char → Nat → Option (List Char)
  /-- The metrics of a TLS handshake, where there is one. -/
  handshake : List Char → Nat → Option (List (String × Json))
  /-- The response to an `IKE_SA_INIT` is for its SPI. -/
  answersIke : List Char → Nat → Bool

structure Detected where
  protocol : List Char
  hint : List Char
  metrics : List (String × Json) := []

def Detected.endpoint (detected : Detected) (host : List Char) (port : Nat) (transport : Transport) :
    DiscoveryEndpoint where
  host
  port
  transport
  detectedProtocol := detected.protocol
  suggestedProtocolHint := detected.hint
  availabilityMetrics := detected.metrics

def tcpProbe (name : String) (ports : Option (List Nat)) (fallback : Bool)
    (isOpen : List Char → Nat → Bool) (detect : List Char → Nat → Option Detected) : ProbeSpec where
  name
  transport := .tcp
  ports
  fallback
  run host port :=
    if isOpen host port then (detect host port).map fun detected => detected.endpoint host port .tcp
    else none
  answer := by
    intro host port endpoint h
    split at h
    · obtain ⟨detected, _, rfl⟩ := Option.map_eq_some_iff.mp h
      exact ⟨rfl, rfl, rfl⟩
    · cases h

/-! ## 2. The probes -/

def sshPorts : List Nat := [22, 2222]

def smtpStarttlsPorts : List Nat := [25, 587]

def imapStarttlsPorts : List Nat := [143]

def pop3StarttlsPorts : List Nat := [110]

def postgresqlPorts : List Nat := [5432]

def tlsPorts : List Nat :=
  [443, 465, 993, 995, 3306, 5000, 6380, 8200, 8443, 8883, 9090, 9093, 9200, 9443, 15017]

def ikePorts : List Nat := [500, 4500]

def upperBytes (bytes : List Char) : List Char := bytes.map Char.toUpper

def protocolForTlsPort (port : Nat) : String × String :=
  if port = 465 then ("SMTPS", "SMTP")
  else if port = 993 then ("IMAPS", "IMAP")
  else if port = 995 then ("POP3S", "POP3")
  else if port = 8883 then ("MQTT_TLS", "TLS")
  else ("TLS", "TLS")

section Probes

variable (network : Network)

def probeSsh (host : List Char) (port : Nat) : Option Detected := do
  let banner ← network.banner host port
  if "SSH-".toList.isPrefixOf banner then
    return { protocol := "SSH".toList, hint := "SSH".toList }
  else none

def probeSmtpStarttls (host : List Char) (port : Nat) : Option Detected := do
  let banner ← network.banner host port
  if "220".toList.isPrefixOf banner then
    let response ← network.ehloReply host port
    let detected := if Has "STARTTLS" (upperBytes response) then "SMTP_STARTTLS" else "SMTP"
    return { protocol := detected.toList, hint := "SMTP".toList }
  else none

def probeImapStarttls (host : List Char) (port : Nat) : Option Detected := do
  let banner ← network.banner host port
  if Has "IMAP" (upperBytes banner) then
    return { protocol := "IMAP".toList, hint := "IMAP".toList }
  else none

def probePop3Starttls (host : List Char) (port : Nat) : Option Detected := do
  let banner ← network.banner host port
  if "+OK".toList.isPrefixOf banner then
    return { protocol := "POP3".toList, hint := "POP3".toList }
  else none

def probePostgresqlTls (host : List Char) (port : Nat) : Option Detected := do
  let response ← network.sslReply host port
  if response = "S".toList then
    let _ ← network.handshake host port
    return { protocol := "POSTGRES_TLS".toList, hint := "TLS".toList }
  else if response = "N".toList then
    return { protocol := "POSTGRES".toList, hint := "TLS".toList }
  else none

def probeTls (host : List Char) (port : Nat) : Option Detected := do
  let metrics ← network.handshake host port
  let (detected, hint) := protocolForTlsPort port
  return { protocol := detected.toList, hint := hint.toList, metrics }

/-- `probe_tcp`; its table of hints is the one of the backend. -/
def probeTcp (_host : List Char) (port : Nat) : Option Detected :=
  some { protocol := "TCP".toList, hint := (Discoveries.protocolHintForPort port .tcp).toList }

def ikeProbe : ProbeSpec where
  name := "ike"
  transport := .udp
  ports := some ikePorts
  run host port :=
    if network.answersIke host port then
      some (Detected.endpoint { protocol := "IKE".toList, hint := "IKE".toList } host port .udp)
    else none
  answer := by
    intro host port endpoint h
    split at h
    · cases h
      exact ⟨rfl, rfl, rfl⟩
    · cases h

def buildDefaultRegistry : ProbeRegistry :=
  [tcpProbe "ssh" (some sshPorts) false network.isOpen (probeSsh network),
    tcpProbe "smtp-starttls" (some smtpStarttlsPorts) false network.isOpen (probeSmtpStarttls network),
    tcpProbe "imap-starttls" (some imapStarttlsPorts) false network.isOpen (probeImapStarttls network),
    tcpProbe "pop3-starttls" (some pop3StarttlsPorts) false network.isOpen (probePop3Starttls network),
    tcpProbe "postgresql-tls" (some postgresqlPorts) false network.isOpen (probePostgresqlTls network),
    tcpProbe "tls" (some tlsPorts) false network.isOpen (probeTls network),
    ikeProbe network,
    tcpProbe "tcp-fallback" none true network.isOpen probeTcp]

end Probes

/-! ## 3. Where they answer -/

theorem isOpen_of_tcpProbe {name : String} {ports : Option (List Nat)} {fallback : Bool}
    {isOpen : List Char → Nat → Bool} {detect : List Char → Nat → Option Detected}
    {host : List Char} {port : Nat}
    (h : ((tcpProbe name ports fallback isOpen detect).run host port).isSome = true) :
    isOpen host port = true := by
  by_contra hclosed
  change (if isOpen host port then _ else none : Option DiscoveryEndpoint).isSome = true at h
  rw [if_neg hclosed] at h
  cases h

/-- **Every open TCP port is found, and no other.** -/
theorem answered_buildDefaultRegistry (network : Network) (host : List Char) {port : Nat}
    (hport : port ∉ [500, 4500]) :
    Answered (buildDefaultRegistry network) host port ↔ network.isOpen host port = true := by
  have htransport : transportForPort port = .tcp := if_neg hport
  constructor
  · intro h
    obtain ⟨probe, hmem, hmatches, hrun⟩ := h
    rw [htransport] at hmatches
    simp only [buildDefaultRegistry, List.mem_cons, List.not_mem_nil, or_false] at hmem
    rcases hmem with rfl | rfl | rfl | rfl | rfl | rfl | rfl | rfl
    -- the seventh probe is for UDP
    case inr.inr.inr.inr.inr.inr.inl => cases hmatches
    all_goals exact isOpen_of_tcpProbe hrun
  · intro hopen
    refine ⟨tcpProbe "tcp-fallback" none true network.isOpen probeTcp, ?_, ?_, ?_⟩
    · simp [buildDefaultRegistry]
    · rw [htransport]
      rfl
    · show (if network.isOpen host port then _ else none : Option DiscoveryEndpoint).isSome = true
      rw [if_pos hopen]
      rfl

end CryptoScanner.AgentDiscovery
