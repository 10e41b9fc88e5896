import CryptoScanner.HostScanners.ConfigText
import CryptoScanner.Python.Words
import CryptoScanner.Scan.SshKeys
import CryptoScanner.Scan.TlsTermination

/-!
# What is called SSH

The SSH scan of a server that does not identify itself returns the policy candidate instead of
raising.  `_scan_unknown` takes the first scan that returns something, so the candidate for an open
TCP service is out of its reach.
-/

namespace CryptoScanner.Scan

open Library Python HostScanners

/-! ## 1. The SSH scan -/

section

variable [PyText]

/-- `_ssh_keyscan_lines`, from what `ssh-keyscan` prints if it can be run. -/
def sshKeyscanLines (stdout : Option (List Char)) : List (List Char) :=
  ((splitLines (stdout.getD [])).filter fun line =>
    strip line ≠ [] && !(['#'].isPrefixOf line)).map strip

/-- `_ssh_host_key_candidate`, without the candidate that is built from the key. -/
def sshHostKey (line : List Char) : Except SshError (Option (Bytes × SshKeyInfo)) :=
  match Python.words line with
  | _ :: keyType :: b64Blob :: _ =>
      match if ∀ c ∈ b64Blob, isAscii c then b64decode b64Blob else none with
      | none => .ok none
      | some blob => do
          let info ← parseSshPublicKeyBlob keyType blob
          return info.map (blob, ·)
  | _ => .ok none

/-- The keys that `_scan_ssh` makes candidates of. -/
def sshHostKeys (stdout : Option (List Char)) :
    Except SshError (List (Bytes × List Char × List Char)) := do
  let keys ← (sshKeyscanLines stdout).mapM sshHostKey
  return keys.reduceOption.map fun (blob, info) => (blob, info.algorithm, info.algorithmFamily)

end

/-! ## 2. A service and its scan -/

structure Service [PyText] where
  tlsProbe : Nat → Option String → Except String TlsProbe
  /-- It sends an SSH identification. -/
  identifies : Bool
  /-- What `ssh-keyscan` prints, if it can be run. -/
  keyscan : Option (List Char)
  /-- `ssh-keyscan` prints no key of a server that does not identify itself. -/
  keyscan_silent : identifies = false → sshKeyscanLines keyscan = []

section

variable [PyText] [Sha256]

/-- `_scan_ssh` for a service; no text of an exception is read. -/
def Service.scanSsh (service : Service) (targetId : Id) (target : Target) :
    Except String (List AssetCandidate) :=
  ((sshHostKeys service.keyscan).map (Scan.scanSsh targetId target)).mapError fun _ => ""

/-- `scan_network_target`, when the TLS scan has come to its end. -/
def scanService (env : TlsEnvironment) (service : Service) (others : ProtocolScans)
    (tls : Except String (List AssetCandidate)) : Except String (List AssetCandidate) :=
  scanNetworkTarget env.targetId env.target
    { others with tls, ssh := service.scanSsh env.targetId env.target }

/-- Nothing is called SSH that does not answer as SSH. -/
structure CalledRightly (env : TlsEnvironment) (service : Service)
    (result : Except String (List AssetCandidate)) : Prop where
  fallback : route env.target = .unknown →
    (∀ n sni, ∃ error, service.tlsProbe n sni = .error error) → service.identifies = false →
      result = .ok [tcpFallbackCandidate env.targetId env.target]
  policy : route env.target = .unknown ∨ route env.target = .ssh →
    ∀ candidates, result = .ok candidates →
      sshPolicyCandidate env.targetId env.target ∈ candidates → service.identifies = true

/-- The SSH scan is made. -/
def ReachesSsh (target : Target) (tls : Except String (List AssetCandidate)) : Prop :=
  route target = .ssh ∨
    route target = .unknown ∧ ∀ candidates, tls = .ok candidates → candidates = []

/-! ## 3. The TLS scan before it -/

variable {env : TlsEnvironment} {service : Service} {fuel : Nat}
  {tls : Except String (List AssetCandidate)}

/-- Without a handshake the TLS scan ends in its first turn, with an exception. -/
theorem scanTls_ends_of_silent (env : TlsEnvironment)
    (hsilent : ∀ n sni, ∃ error, service.tlsProbe n sni = .error error) :
    ∃ error, env.scanTls service.tlsProbe 1 = some (.error error) := by
  obtain ⟨sni, names, hnames⟩ := List.exists_cons_of_ne_nil env.firstNames_ne_nil
  obtain ⟨error, herror⟩ := hsilent 0 sni
  have hraises : While.Raises (env.scanTlsTurn service.tlsProbe) { pendingSni := env.firstNames }
      error := by
    rw [hnames]
    unfold While.Raises TlsEnvironment.scanTlsTurn
    dsimp only
    rw [if_neg (List.not_mem_nil), List.length_nil, herror]
  refine ⟨error, TlsEnvironment.scanTls_eq_some_iff.mpr ⟨.error error, ?_, rfl⟩⟩
  exact While.run_of_raises hraises 0

theorem scanTls_silent (hrun : env.scanTls service.tlsProbe fuel = some tls)
    (hsilent : ∀ n sni, ∃ error, service.tlsProbe n sni = .error error) :
    ∃ error, tls = .error error := by
  obtain ⟨error, hone⟩ := scanTls_ends_of_silent env hsilent
  obtain ⟨scan, hscan, rfl⟩ := TlsEnvironment.scanTls_eq_some_iff.mp hrun
  obtain ⟨other, hother, hresult⟩ := TlsEnvironment.scanTls_eq_some_iff.mp hone
  cases While.run_unique hscan hother
  exact ⟨error, hresult⟩

theorem sshPolicyCandidate_not_mem_candidatesOf (result : TlsProbe) :
    sshPolicyCandidate env.targetId env.target ∉ env.candidatesOf result := by
  have hcertificate : ∀ der parsed sni index, sshPolicyCandidate env.targetId env.target ≠
      certificateCandidate env.targetId env.target der parsed .tls sni index := by
    intro der parsed sni index
    have hassoc : ∀ kind source cert label chain fingerprint : List Char,
        kind ++ source ++ cert ++ label ++ chain ++ fingerprint =
          (kind ++ source) ++ (cert ++ label ++ chain ++ fingerprint) := by
      intro kind source cert label chain fingerprint
      simp only [List.append_assoc]
    refine ne_of_heads rfl (hassoc _ _ _ _ _ _) ?_
    decide
  have happlication : ∀ protocol algorithm sni, sshPolicyCandidate env.targetId env.target ≠
      applicationProtocolCandidate env.targetId env.target protocol algorithm sni :=
    fun protocol algorithm sni => ne_of_heads rfl rfl (by decide)
  have hreadiness : ∀ sni metadata, sshPolicyCandidate env.targetId env.target ∉
      pqcReadinessCandidates env.floatRepr env.targetId env.target sni metadata := by
    intro sni metadata hmem
    obtain ⟨role, assetType, refKind, title, pqcRole, algorithm, source, heq, hkind, -⟩ :=
      readiness_cases hmem
    have hapart : ∀ kind ∈ ["network:pqc-readiness:signature:", "network:pqc-readiness:kem:",
        "network:pqc-readiness:hybrid-group:"], ¬ ("network:ssh-policy:".toList <+: kind.toList ∨
          kind.toList <+: "network:ssh-policy:".toList) := by decide
    exact ne_of_heads rfl rfl (hapart refKind hkind) heq
  intro hmem
  simp only [TlsEnvironment.candidatesOf, tlsCandidatesFromResult, List.mem_append] at hmem
  rcases hmem with ((((hmem | hmem) | hmem) | hmem) | hmem) | hmem
  · obtain ⟨⟨der, index⟩, -, heq⟩ := List.mem_map.mp hmem
    exact hcertificate der _ _ index heq.symm
  · split at hmem
    · cases hmem
    · exact ne_of_heads rfl rfl (by decide) (List.mem_singleton.mp hmem)
  · obtain ⟨suite, -, heq⟩ := List.mem_map.mp hmem
    exact ne_of_heads rfl rfl (by decide) heq.symm
  · exact hreadiness _ _ hmem
  · split at hmem
    · cases hmem
    · split at hmem
      · cases hmem
      · exact happlication _ _ _ (List.mem_singleton.mp hmem)
  · split at hmem
    · exact happlication _ _ _ (List.mem_singleton.mp hmem)
    · cases hmem

theorem sshPolicyCandidate_not_mem_tls {candidates : List AssetCandidate}
    (hrun : env.scanTls service.tlsProbe fuel = some (.ok candidates)) :
    sshPolicyCandidate env.targetId env.target ∉ candidates := by
  obtain ⟨scan, hscan, hcandidates⟩ := TlsEnvironment.scanTls_eq_some_iff.mp hrun
  cases scan with
  | error error => cases hcandidates
  | ok last =>
      obtain ⟨before, hreaches, hstops⟩ := While.exists_run_ok_iff.mp ⟨fuel, hscan⟩
      obtain ⟨-, rfl⟩ := TlsEnvironment.pendingSni_of_stops hstops
      have hlast := TlsEnvironment.Explores.of_reaches env.firstNames_named hreaches
      rw [← Except.ok.inj hcandidates, hlast.candidates]
      intro hmem
      obtain ⟨result, -, hresult⟩ := List.mem_flatMap.mp hmem
      exact sshPolicyCandidate_not_mem_candidatesOf result hresult

/-! ## 4. The policy candidate -/

/-- A scan that is made of a server without an identification returns the policy candidate. -/
theorem scanService_of_reaches (others : ProtocolScans) (h : ReachesSsh env.target tls)
    (hsilent : service.identifies = false) :
    scanService env service others tls =
      .ok [sshPolicyCandidate env.targetId env.target] := by
  have hssh : service.scanSsh env.targetId env.target =
      .ok [sshPolicyCandidate env.targetId env.target] := by
    have hkeys : sshHostKeys service.keyscan = .ok [] := by
      rw [sshHostKeys, service.keyscan_silent hsilent]
      rfl
    rw [Service.scanSsh, hkeys]
    rfl
  rcases h with hroute | ⟨hroute, htls⟩
  · rw [scanService, scanNetworkTarget, hroute]
    exact hssh
  · rw [scanService, scanNetworkTarget, hroute]
    dsimp only
    rw [scanUnknown, hssh]
    cases tls with
    | error error => rfl
    | ok candidates =>
        rw [htls candidates rfl]
        rfl

theorem scanService_of_found {others : ProtocolScans} {candidates : List AssetCandidate}
    (hroute : route env.target = .unknown) (hfound : candidates ≠ []) :
    scanService env service others (.ok candidates) = .ok candidates := by
  rw [scanService, scanNetworkTarget, hroute]
  simp [scanUnknown, Except.toOption, hfound]

/-- The scan calls a service rightly if the SSH scan has an answer or is not made. -/
theorem calledRightly_iff (env : TlsEnvironment) (service : Service) (others : ProtocolScans)
    (fuel : Nat) (tls : Except String (List AssetCandidate))
    (hrun : env.scanTls service.tlsProbe fuel = some tls) :
    CalledRightly env service (scanService env service others tls) ↔
      service.identifies = true ∨ ¬ ReachesSsh env.target tls := by
  constructor
  · intro h
    by_contra hno
    obtain ⟨hsilent, hreaches⟩ := not_or.mp hno
    have hreaches := not_not.mp hreaches
    have hresult := scanService_of_reaches others hreaches
      (Bool.eq_false_iff.mpr hsilent)
    have hroute : route env.target = .unknown ∨ route env.target = .ssh :=
      hreaches.symm.imp_left And.left
    exact hsilent (h.policy hroute _ hresult List.mem_cons_self)
  · rintro (hidentifies | hnot)
    · refine ⟨fun _ _ hsilent => ?_, fun _ _ _ _ => hidentifies⟩
      cases hidentifies.symm.trans hsilent
    · refine ⟨fun hroute hprobes _ => ?_, fun hroute candidates hresult hmem => ?_⟩
      · obtain ⟨error, rfl⟩ := scanTls_silent hrun hprobes
        exact absurd (.inr ⟨hroute, nofun⟩) hnot
      · have hunknown : route env.target = .unknown :=
          hroute.resolve_right fun hssh => hnot (.inl hssh)
        obtain ⟨found, rfl, hfound⟩ : ∃ found, tls = .ok found ∧ found ≠ [] := by
          by_contra hno
          refine hnot (.inr ⟨hunknown, fun candidates htls => ?_⟩)
          by_contra hne
          exact hno ⟨candidates, htls, hne⟩
        rw [scanService_of_found hunknown hfound] at hresult
        rw [← Except.ok.inj hresult] at hmem
        exact absurd hmem (sshPolicyCandidate_not_mem_tls hrun)

end

/-! ## 5. An open port -/

def openPort : TlsEnvironment where
  floatRepr _ := []
  certificates := unaryCertificates
  targetId := 0
  target :=
    { host := "unknown.testbed.local"
      displayName := none
      ip := none
      port := 12345
      protocolHint := .unknown
      sni := none
      transport := .tcp
      agentEnabled := false
      agentUrl := none
      context := { field := RiskEngine.emptyContext } }
  knownAliases := []
  knownAliases_ne_empty := nofun

/-- A service without a handshake, for which `ssh-keyscan` prints nothing. -/
def silentService (identifies : Bool) : letI := asciiText
    Service :=
  letI := asciiText
  { tlsProbe := fun _ _ => .error "no tls"
    identifies
    keyscan := some []
    keyscan_silent := fun _ => rfl }

def noScans : ProtocolScans := ⟨.ok [], .ok [], .ok [], .ok [], .ok []⟩

theorem sshService_calledRightly : letI := asciiText; letI := constantDigest
    CalledRightly openPort (silentService true)
      (scanService openPort (silentService true) noScans (.error "no tls")) :=
  letI := asciiText
  letI := constantDigest
  (calledRightly_iff openPort (silentService true) noScans 1 (.error "no tls") rfl).mpr (.inl rfl)

/-- Nothing answers, and the result is the policy of an SSH server. -/
theorem silentService_not_calledRightly : letI := asciiText; letI := constantDigest
    openPort.scanTls (silentService false).tlsProbe 1 = some (.error "no tls") ∧
      ¬ CalledRightly openPort (silentService false)
        (scanService openPort (silentService false) noScans (.error "no tls")) := by
  let _ := asciiText
  let _ := constantDigest
  refine ⟨rfl, fun h => ?_⟩
  have hresult := scanService_of_reaches noScans
    (.inr ⟨by decide, nofun⟩ : ReachesSsh openPort.target (.error "no tls")) (rfl :
      (silentService false).identifies = false)
  exact Bool.false_ne_true (h.policy (.inl (by decide)) _ hresult List.mem_cons_self)

end CryptoScanner.Scan
