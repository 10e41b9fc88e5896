import CryptoScanner.Scan.ScanBody
import CryptoScanner.Scan.TlsTermination

/-!
# A TLS scan with a failing probe

An exception of a probe leaves `_scan_tls`, whatever the earlier probes have found.
`_run_network_scanner` logs it as an error and returns no candidates, and for a target of unknown
protocol `_scan_unknown` goes on as if there were no TLS.
-/

namespace CryptoScanner.Scan

open Library Python

namespace TlsEnvironment

variable [PyText] [Sha256] {env : TlsEnvironment}

/-! ## 1. What the loop has found -/

section

variable {tlsProbe : Nat → Option String → Except String TlsProbe} {names : List (Option String)}
  {s t : TlsScan}

theorem results_prefix_of_reaches (h : While.Reaches (env.scanTlsTurn tlsProbe) s t) :
    s.results <+: t.results := by
  refine While.Reaches.invariant (I := fun t => s.results <+: t.results)
    (fun t next ht hgoes => ?_) h (List.prefix_refl _)
  obtain ⟨sni, pendingSni, -, ⟨-, rfl⟩ | ⟨-, result, -, rfl⟩⟩ := goes_scanTlsTurn hgoes
  · exact ht
  · rw [results_answered]
    exact ht.trans (List.prefix_append _ _)

/-- The answers of every state of the loop are among those at its end. -/
theorem results_prefix_of_stops {start last : TlsScan}
    (hlast : While.Reaches (env.scanTlsTurn tlsProbe) start last)
    (hstops : While.Stops (env.scanTlsTurn tlsProbe) last last)
    (hs : While.Reaches (env.scanTlsTurn tlsProbe) start s) : s.results <+: last.results := by
  have hunique : Relator.RightUnique (While.Goes (env.scanTlsTurn tlsProbe)) := by
    intro s next next' h h'
    cases h.symm.trans h'
    rfl
  rcases Relation.ReflTransGen.total_of_right_unique hunique hs hlast with h | h
  · exact results_prefix_of_reaches h
  · rcases Relation.ReflTransGen.cases_head h with rfl | ⟨next, hgoes, -⟩
    · exact List.prefix_refl _
    · cases hgoes.symm.trans hstops

/-- A name that waits for its probe is one more than those that have been probed. -/
theorem Explores.lt_card_of_pending (h : Explores env tlsProbe names s) {sni : Option String}
    (hpending : sni ∈ s.pendingSni) (hseen : sniKey sni ∉ s.seenSni) :
    s.probes.length < (env.offeredNames names s.results).toFinset.card := by
  have hnew : sni ∉ s.probedNames :=
    mt (h.mem_probedNames (h.named sni (.inl hpending))).mpr hseen
  have hsub : sni :: s.probedNames ⊆ env.offeredNames names s.results := by
    intro other hother
    rcases List.mem_cons.mp hother with rfl | hother
    · exact h.offered other hpending
    · obtain ⟨n, hn, heq⟩ := List.mem_iff_getElem.mp hother
      have hheard := h.heard n other (List.getElem?_eq_some_iff.mpr ⟨hn, heq⟩)
      exact offeredNames_mono (List.take_subset _ _) hheard
  calc s.probes.length < (sni :: s.probedNames).length := by
        rw [List.length_cons, length_probedNames]
        exact Nat.lt_succ_self _
    _ = (sni :: s.probedNames).toFinset.card :=
        (List.toFinset_card_of_nodup (List.nodup_cons.mpr ⟨hnew, h.nodup⟩)).symm
    _ ≤ _ := Finset.card_le_card (toFinset_subset hsub)

end

section

variable {outcomes : Nat → Except String TlsProbe} {s : TlsScan}

/-- A first probe that returns is a state of the loop. -/
theorem exists_reaches_of_first {result : TlsProbe} (h : outcomes 0 = .ok result) :
    ∃ s, While.Reaches (env.scanTlsTurn fun n _ => outcomes n)
      { pendingSni := env.firstNames } s ∧ result ∈ s.results := by
  obtain ⟨first, rest, hnames⟩ := List.exists_cons_of_ne_nil env.firstNames_ne_nil
  refine ⟨env.answered { pendingSni := env.firstNames } first rest result, .single ?_, ?_⟩
  · unfold While.Goes scanTlsTurn
    simp only [hnames, List.not_mem_nil, if_false, List.length_nil, h]
  · rw [results_answered]
    exact List.mem_append_right _ List.mem_cons_self

/-- A loop in which a probe has returned begins with a probe that returns. -/
theorem first_of_reaches (hs : While.Reaches (env.scanTlsTurn fun n _ => outcomes n)
    { pendingSni := env.firstNames } s) (hne : s.probes ≠ []) :
    ∃ result, outcomes 0 = .ok result := by
  have hexplores := Explores.of_reaches env.firstNames_named hs
  obtain ⟨probe, rest, hprobes⟩ := List.exists_cons_of_ne_nil hne
  exact ⟨probe.2, hexplores.answered 0 probe.1 probe.2 (by rw [hprobes]; rfl)⟩

/-- The loop returns what all its probes have found exactly if the names run out before a probe
fails. -/
theorem exists_scanTlsFrom_ok_iff :
    (∃ fuel scan, env.scanTlsFrom (fun n _ => outcomes n) fuel env.firstNames = some (.ok scan)) ↔
      ∃ n, (∀ m < n, ∃ result, outcomes m = .ok result) ∧
        env.Exhausted env.firstNames outcomes n := by
  constructor
  · rintro ⟨fuel, last, hrun⟩
    obtain ⟨before, hreaches, hstops⟩ := While.exists_run_ok_iff.mp ⟨fuel, hrun⟩
    obtain ⟨hpending, rfl⟩ := pendingSni_of_stops hstops
    have hlast := Explores.of_reaches env.firstNames_named hreaches
    refine ⟨last.probes.length, fun m hm => ?_, ?_⟩
    · exact ⟨_, hlast.answered m _ _ (List.getElem?_eq_getElem hm)⟩
    · rw [Exhausted, ← hlast.results_eq]
      exact hlast.card_le env.firstNames_ne_nil hpending
  · rintro ⟨n, hok, hexhausted⟩
    have hbound : ∀ s, While.Reaches (env.scanTlsTurn fun n _ => outcomes n)
        { pendingSni := env.firstNames } s → s.probes.length ≤ n :=
      fun s hs => (Explores.of_reaches env.firstNames_named hs).length_le (.inr hexhausted)
    obtain ⟨fuel, result, hrun⟩ := ends_of_bound hbound
    obtain ⟨last, hreaches, ⟨final, -, rfl⟩ | ⟨error, hraises, -⟩⟩ := While.run_end hrun
    · exact ⟨fuel, final, hrun⟩
    · -- a probe that fails comes after the first `n`, and there are no names for it
      exfalso
      have hlast := Explores.of_reaches env.firstNames_named hreaches
      obtain ⟨sni, hpending, hseen, herror⟩ := probe_of_raises hraises
      have hlength : last.probes.length = n := by
        apply Nat.le_antisymm (hbound last hreaches)
        by_contra hlt
        obtain ⟨result, hresult⟩ := hok last.probes.length (Nat.not_le.mp hlt)
        cases herror.symm.trans hresult
      have hcard := hlast.lt_card_of_pending hpending hseen
      rw [hlast.results_eq, hlength] at hcard
      exact absurd hexhausted (Nat.not_le.mpr hcard)

end

/-! ## 2. What the scan of the target keeps -/

/-- `_run_network_scanner` for the target, when the loop of `_scan_tls` ends with some result. -/
def runTlsScanner (env : TlsEnvironment) (scans : ProtocolScans) (findings : TargetFindings)
    (tls : Except String (List AssetCandidate)) : List Statement × List AssetCandidate :=
  let network := (scanNetworkTarget env.targetId env.target { scans with tls }).mapError
    fun error => String.ofList (error.toList.take 128)
  runNetworkScanner env.targetId { findings with network }

variable (env) (scans : ProtocolScans) (findings : TargetFindings)
  (outcomes : Nat → Except String TlsProbe)

/-- If a probe succeeds, the scan returns, logs no error, and has the candidates of all probes that
succeed. -/
def KeepsFound : Prop :=
  (∃ s, While.Reaches (env.scanTlsTurn fun n _ => outcomes n) { pendingSni := env.firstNames } s ∧
    s.probes ≠ []) →
  ∃ fuel tls, env.scanTls (fun n _ => outcomes n) fuel = some tls ∧
    (∀ entry, Statement.log entry ∈ (env.runTlsScanner scans findings tls).1 →
      entry.status ≠ .error) ∧
    ∀ s, While.Reaches (env.scanTlsTurn fun n _ => outcomes n) { pendingSni := env.firstNames } s →
      ∀ result ∈ s.results, env.candidatesOf result ⊆ (env.runTlsScanner scans findings tls).2

variable {env scans findings outcomes}

theorem tlsVersionCandidate_mem {result : TlsProbe} (h : result.tlsVersion.getD "" ≠ "") :
    tlsVersionCandidate env.targetId env.target result.toTlsProbeResult ∈
      env.candidatesOf result := by
  simp only [candidatesOf, tlsCandidatesFromResult, if_neg h, List.mem_append, List.mem_singleton,
    true_or, or_true]

/-- A failed TLS scan of an unknown protocol leaves no trace of TLS. -/
theorem tlsVersionCandidate_not_mem {error : String} {result : TlsProbeResult}
    {hostKeys : Except String (List (List UInt8 × List Char × List Char))}
    (hssh : scans.ssh = hostKeys.map (scanSsh env.targetId env.target)) :
    tlsVersionCandidate env.targetId env.target result ∉
      scanUnknown env.targetId env.target { scans with tls := .error error } := by
  -- the references of the other scanners begin with other words
  have hfallback : tlsVersionCandidate env.targetId env.target result ≠
      tcpFallbackCandidate env.targetId env.target := ne_of_heads rfl rfl (by decide)
  have hpolicy : tlsVersionCandidate env.targetId env.target result ≠
      sshPolicyCandidate env.targetId env.target := ne_of_heads rfl rfl (by decide)
  have hkey : ∀ blob algorithm algorithmFamily, tlsVersionCandidate env.targetId env.target result ≠
      sshHostKeyCandidate env.targetId env.target blob algorithm algorithmFamily :=
    fun blob algorithm algorithmFamily => ne_of_heads rfl rfl (by decide)
  have hscan : ∀ keys, tlsVersionCandidate env.targetId env.target result ∉
      scanSsh env.targetId env.target keys := by
    intro keys hmem
    unfold scanSsh at hmem
    split at hmem
    · exact hpolicy (List.mem_singleton.mp hmem)
    · obtain ⟨⟨blob, algorithm, algorithmFamily⟩, -, heq⟩ := List.mem_map.mp hmem
      exact hkey blob algorithm algorithmFamily heq.symm
  intro hmem
  simp only [scanUnknown, hssh] at hmem
  cases hostKeys with
  | error other => exact hfallback (List.mem_singleton.mp hmem)
  | ok keys =>
      by_cases hnil : scanSsh env.targetId env.target keys = []
      · have hfind : ([Except.error error, (Except.ok keys).map
            (scanSsh env.targetId env.target)].filterMap Except.toOption).find? (· ≠ []) = none := by
          simp [Except.map, Except.toOption, hnil]
        rw [hfind] at hmem
        exact hfallback (List.mem_singleton.mp hmem)
      · have hfind : ([Except.error error, (Except.ok keys).map
            (scanSsh env.targetId env.target)].filterMap Except.toOption).find? (· ≠ []) =
              some (scanSsh env.targetId env.target keys) := by
          simp [Except.map, Except.toOption, hnil]
        rw [hfind] at hmem
        exact hscan keys hmem

omit [PyText] in
/-- A TLS scan that has found something is the scan of the target. -/
theorem runTlsScanner_ok (hroute : route env.target = .tls ∨ route env.target = .unknown)
    {found : List AssetCandidate} (hfound : found ≠ []) :
    env.runTlsScanner scans findings (.ok found) =
      ([.inferContext env.targetId findings.inference,
        .log ⟨env.targetId, .network, .success, found.length, none⟩], found) := by
  have hscan : scanNetworkTarget env.targetId env.target { scans with tls := .ok found } =
      .ok found := by
    rcases hroute with hroute | hroute
    · rw [scanNetworkTarget, hroute]
    · rw [scanNetworkTarget, hroute]
      simp [scanUnknown, Except.toOption, hfound]
  rw [runTlsScanner, hscan]
  rfl

end TlsEnvironment

def aliasedHost : TlsEnvironment where
  floatRepr _ := []
  certificates := unaryCertificates
  targetId := 0
  target := agentHost
  knownAliases := ["api.testbed.local"]
  knownAliases_ne_empty := by decide

def bareProbe : TlsProbe where
  sni := none
  tlsVersion := some "TLSv1.3"
  cipherSuite := none
  supportedCipherSuites := []
  derChain := []
  alpn := none
  pqcReadiness := []

def otherScans : ProtocolScans :=
  letI := asciiText
  letI := constantDigest
  { tls := .ok []
    ssh := (Except.ok []).map (scanSsh 0 agentHost)
    ike := .ok []
    smtp := .ok []
    postgresql := .ok [] }

def noFindings : TargetFindings where
  network := .ok []
  inference := none
  skipped := []
  supported := []
  agent := .ok []

def secondFails (n : Nat) : Except String TlsProbe :=
  if n = 0 then .ok bareProbe else .error "handshake failure"

end CryptoScanner.Scan
