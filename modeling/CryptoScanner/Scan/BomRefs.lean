import CryptoScanner.Scan.AgentMapper
import CryptoScanner.Scan.NetworkCandidates
import CryptoScanner.Scan.Persist

/-!
# References of the assets of a snapshot

Candidates are deduplicated by fingerprint or reference, and the database wants the first 255
characters of the references to be different.  A candidate that opens its dedupe key gives the
merged asset its reference, so the constraint is about these candidates alone.
-/

namespace CryptoScanner.Scan

open Library Python

section

variable [PyText] (floatRepr : PyFloat → List Char)

/-! ## 1. Which references are stored -/

def openers (candidates : List AssetCandidate) : List AssetCandidate :=
  Dict.firsts (dedupeKey floatRepr) [] candidates

/-- The values `bom_ref[:255]` of the assets that a list of candidates gives. -/
def storedRefs (candidates : List AssetCandidate) : List (List Char) :=
  (dedupeCandidates floatRepr candidates).map fun candidate => candidate.bomRef.take 255

omit [PyText] in
theorem mergeCandidates_bomRef (existing incoming : AssetCandidate) :
    (mergeCandidates existing incoming).bomRef = existing.bomRef := rfl

theorem storedRefs_eq (candidates : List AssetCandidate) :
    storedRefs floatRepr candidates =
      (openers floatRepr candidates).map fun candidate => candidate.bomRef.take 255 := by
  have hcollect := Dict.collect_map (dedupeKey floatRepr) mergeCandidates
    (p := fun candidate => candidate.bomRef.take 255)
    (fun existing incoming => by rw [mergeCandidates_bomRef]) candidates
  have hsnd := congrArg (List.map Prod.snd) hcollect
  rw [List.map_map, List.map_map] at hsnd
  rw [storedRefs, dedupeCandidates, List.map_map]
  exact hsnd

theorem storedRefs_nodup_iff (candidates : List AssetCandidate) :
    (storedRefs floatRepr candidates).Nodup ↔
      (openers floatRepr candidates).Pairwise fun c d => c.bomRef.take 255 ≠ d.bomRef.take 255 := by
  rw [storedRefs_eq, List.Nodup, List.pairwise_map]

/-! ## 2. The references of the scanners -/

def Fingerprinted (candidate : AssetCandidate) : Prop := (fingerprint candidate).truthy = true

omit [PyText] in
instance (candidate : AssetCandidate) : Decidable (Fingerprinted candidate) :=
  inferInstanceAs (Decidable (_ = true))

def digestHeads : List String :=
  ["network:pqc-readiness:signature:", "network:pqc-readiness:kem:",
    "network:pqc-readiness:hybrid-group:", "network:ssh-host-key:", "network:ssh-policy:",
    "network:ike:", "network:tls-version:", "network:tls-cipher:", "network:application-protocol:",
    "network:smtp-policy:", "network:postgresql-policy:", "network:ike-policy:",
    "network:tcp-fallback:"]

/-- How the reference of a scanner's candidate is built. -/
inductive RefShape : AssetCandidate → Prop
  | digest (candidate : AssetCandidate) (head : String) (tail : List Char)
      (hhead : head ∈ digestHeads)
      (href : candidate.bomRef = head.toList ++ tail) (htail : tail.length ≤ 64)
      (hfingerprint : ¬ Fingerprinted candidate) (hkind : candidate.scannerKind = "network".toList) :
      RefShape candidate
  | certificate (candidate : AssetCandidate) (source : TlsSource) (label : List Char)
      (chainIndex : Nat) (digest : List Char)
      (hdigest : digest.length = 64)
      (hmetadata : fingerprint candidate = .str (String.ofList digest))
      (htype : candidate.assetType = "certificate".toList)
      (href : candidate.bomRef = certificateRef source label chainIndex digest)
      (hkind : candidate.scannerKind = "network".toList) : RefShape candidate
  | agent (candidate : AssetCandidate) (scanner : String) (tail : List Char)
      (hscanner : scanner ∈ typeScannerKind.map Prod.snd)
      (hkind : candidate.scannerKind = scanner.toList)
      (href : candidate.bomRef = scanner.toList ++ ':' :: tail) (htail : tail.length = 24) :
      RefShape candidate

variable [Sha256]

inductive ScannerCandidate : AssetCandidate → Prop
  | network (candidate : AssetCandidate) (h : NetworkCandidate floatRepr candidate) :
      ScannerCandidate candidate
  | agent (candidate : AssetCandidate) (targetId : Id) (target : Target) (findings : List Finding)
      (selectedScanners : List String)
      (h : candidate ∈ mapAgentFindings floatRepr targetId target findings selectedScanners) :
      ScannerCandidate candidate

theorem NetworkCandidate.refShape {candidate : AssetCandidate}
    (h : NetworkCandidate floatRepr candidate) : RefShape candidate := by
  have hlength : ∀ parts, (stableBomRef parts).length ≤ 64 := by
    intro parts
    rw [length_stableBomRef]
    decide
  have hbare : ∀ {other : AssetCandidate}, other.metadata.lookup "fingerprint_sha256" = none →
      ¬ Fingerprinted other := by
    intro other hnone htrue
    unfold Fingerprinted fingerprint metadataGet at htrue
    rw [hnone] at htrue
    cases htrue
  -- only a certificate has a fingerprint; what the others are named by is digested
  cases h with
  | certificate targetId target der parsed source sni chainIndex =>
      exact .certificate _ source (sniLabel sni target) chainIndex (Sha256.hexdigest der)
        (Sha256.length_hexdigest der) rfl rfl rfl rfl
  | tlsVersion targetId target result =>
      exact .digest _ "network:tls-version:" _ (by decide) rfl (hlength _) (hbare rfl) rfl
  | tlsCipher targetId target result cipherSuite =>
      exact .digest _ "network:tls-cipher:" _ (by decide) rfl (hlength _) (hbare rfl) rfl
  | readiness targetId target sni metadata candidate hmem =>
      obtain ⟨role, assetType, refKind, title, pqcRole, algorithm, source, heq, hkind, hnone⟩ :=
        readiness_cases hmem
      have hheads : ["network:pqc-readiness:signature:", "network:pqc-readiness:kem:",
          "network:pqc-readiness:hybrid-group:"] ⊆ digestHeads := by decide
      have hlookup : candidate.metadata.lookup "fingerprint_sha256" = none := by
        rw [heq]
        show (source ++ [("pqc_role", Json.str pqcRole)]).lookup "fingerprint_sha256" = none
        rw [List.lookup_append, hnone]
        rfl
      exact .digest _ refKind _ (hheads hkind) (by rw [heq]; rfl) (hlength _) (hbare hlookup)
        (by rw [heq]; rfl)
  | applicationProtocol targetId target protocol algorithm sni =>
      exact .digest _ "network:application-protocol:" _ (by decide) rfl (hlength _) (hbare rfl) rfl
  | protocolPolicy targetId target protocol algorithm =>
      cases protocol with
      | smtp => exact .digest _ "network:smtp-policy:" _ (by decide) rfl (hlength _) (hbare rfl) rfl
      | postgresql =>
          exact .digest _ "network:postgresql-policy:" _ (by decide) rfl (hlength _) (hbare rfl) rfl
      | ike => exact .digest _ "network:ike-policy:" _ (by decide) rfl (hlength _) (hbare rfl) rfl
  | tcpFallback targetId target =>
      exact .digest _ "network:tcp-fallback:" _ (by decide) rfl (hlength _) (hbare rfl) rfl
  | sshPolicy targetId target =>
      exact .digest _ "network:ssh-policy:" _ (by decide) rfl (hlength _) (hbare rfl) rfl
  | sshHostKey targetId target blob algorithm algorithmFamily =>
      have htail : ("SHA256:".toList ++ Sha256.base64digest blob).length ≤ 64 := by
        rw [List.length_append, Sha256.length_base64digest]
        decide
      exact .digest _ "network:ssh-host-key:" _ (by decide) rfl htail (hbare rfl) rfl
  | ikeTransform targetId target proposalIndex transformIndex transformType transformId algorithm =>
      exact .digest _ "network:ike:" _ (by decide) rfl (hlength _) (hbare rfl) rfl

theorem mem_mapAgentFindings {targetId : Id} {target : Target} {findings : List Finding}
    {selectedScanners : List String} {candidate : AssetCandidate}
    (h : candidate ∈ mapAgentFindings floatRepr targetId target findings selectedScanners) :
    ∃ finding scanner algorithm, scanner ∈ typeScannerKind.map Prod.snd ∧
      candidate = candidateForFinding floatRepr targetId target finding scanner algorithm := by
  obtain ⟨finding, -, h⟩ := List.mem_flatMap.mp h
  cases hlookup : typeScannerKind.lookup
      (String.ofList (finding.text floatRepr "type" [])) with
  | none =>
      rw [hlookup] at h
      cases h
  | some scanner =>
      rw [hlookup] at h
      by_cases hselected : scanner ∈ selectedScanners
      · simp only [if_pos hselected] at h
        obtain ⟨algorithm, -, rfl⟩ := List.mem_map.mp h
        obtain ⟨before, after, hsplit, -⟩ := List.lookup_eq_some_iff.mp hlookup
        have hscanner : scanner ∈ typeScannerKind.map Prod.snd := by
          rw [hsplit]
          exact List.mem_map.mpr ⟨_, List.mem_append_right before List.mem_cons_self, rfl⟩
        exact ⟨finding, scanner, algorithm, hscanner, rfl⟩
      · simp only [if_neg hselected] at h
        cases h

theorem mapAgentFindings_refShape {targetId : Id} {target : Target} {findings : List Finding}
    {selectedScanners : List String} {candidate : AssetCandidate}
    (h : candidate ∈ mapAgentFindings floatRepr targetId target findings selectedScanners) :
    RefShape candidate := by
  obtain ⟨finding, scanner, algorithm, hscanner, rfl⟩ := mem_mapAgentFindings floatRepr h
  exact .agent _ scanner _ hscanner rfl rfl (length_stableBomRef _)

theorem ScannerCandidate.refShape {candidate : AssetCandidate}
    (h : ScannerCandidate floatRepr candidate) : RefShape candidate := by
  cases h with
  | network h => exact h.refShape
  | agent targetId target findings selectedScanners h => exact mapAgentFindings_refShape _ h

/-! ## 3. When two references collide -/

section

omit [PyText] [Sha256]

/-- Two findings of an agent with one reference, at least one of them with a fingerprint. -/
def AgentConflict (c d : AssetCandidate) : Prop :=
  c.scannerKind ≠ "network".toList ∧ c.bomRef = d.bomRef ∧ (Fingerprinted c ∨ Fingerprinted d)

/-- Two certificates whose references are cut at 255 characters before they differ. -/
def CertificateConflict (c d : AssetCandidate) : Prop :=
  c.scannerKind = "network".toList ∧ d.scannerKind = "network".toList ∧
    Fingerprinted c ∧ Fingerprinted d ∧ (255 < c.bomRef.length ∨ 255 < d.bomRef.length) ∧
    c.bomRef.take 255 = d.bomRef.take 255

instance (c d : AssetCandidate) : Decidable (AgentConflict c d) :=
  inferInstanceAs (Decidable (_ ∧ _))

instance (c d : AssetCandidate) : Decidable (CertificateConflict c d) :=
  inferInstanceAs (Decidable (_ ∧ _))

/-- Texts that agree on their first `n` characters have compatible heads. -/
theorem prefix_or_prefix_of_take {n : Nat} {head head' tail tail' : List Char}
    (hhead : head.length ≤ n) (hhead' : head'.length ≤ n)
    (h : (head ++ tail).take n = (head' ++ tail').take n) : head <+: head' ∨ head' <+: head := by
  have hleft : head <+: (head ++ tail).take n :=
    List.prefix_take_iff.mpr ⟨List.prefix_append head tail, hhead⟩
  have hright : head' <+: (head ++ tail).take n := by
    rw [h]
    exact List.prefix_take_iff.mpr ⟨List.prefix_append head' tail', hhead'⟩
  exact List.prefix_or_prefix_of_prefix hleft hright

def certificateHead (source : TlsSource) : List Char :=
  "network:".toList ++ source.text.toList ++ ":cert:".toList

theorem heads_incompatible : ∀ head ∈ digestHeads,
    (∀ source ∈ [TlsSource.tls, .smtpStarttls, .postgresqlTls],
      ¬ (head.toList <+: certificateHead source ∨ certificateHead source <+: head.toList)) ∧
    (∀ scanner ∈ typeScannerKind.map Prod.snd,
      ¬ (head.toList <+: scanner.toList ∨ scanner.toList <+: head.toList)) := by
  decide +kernel

theorem certificateHead_incompatible : ∀ source ∈ [TlsSource.tls, .smtpStarttls, .postgresqlTls],
    ∀ scanner ∈ typeScannerKind.map Prod.snd,
      ¬ (certificateHead source <+: scanner.toList ∨ scanner.toList <+: certificateHead source) := by
  decide +kernel

theorem heads_short : (∀ head ∈ digestHeads, head.toList.length ≤ 64) ∧
    (∀ source ∈ [TlsSource.tls, .smtpStarttls, .postgresqlTls],
      (certificateHead source).length ≤ 64) ∧
    (∀ scanner ∈ typeScannerKind.map Prod.snd, scanner.toList.length ≤ 64) := by
  decide +kernel

theorem TlsSource.mem_all (source : TlsSource) :
    source ∈ [TlsSource.tls, .smtpStarttls, .postgresqlTls] := by
  cases source <;> decide

/-- References of at most 255 characters are stored as they are. -/
theorem eq_of_take_eq {c d : List Char} (hc : c.length ≤ 255) (hd : d.length ≤ 255)
    (h : c.take 255 = d.take 255) : c = d := by
  rwa [List.take_of_length_le hc, List.take_of_length_le hd] at h

end

omit [Sha256]

theorem dedupeKey_of_not_fingerprinted {candidate : AssetCandidate}
    (h : ¬ Fingerprinted candidate) :
    dedupeKey floatRepr candidate = "bom_ref:".toList ++ candidate.bomRef := if_neg h

theorem dedupeKey_of_fingerprinted {candidate : AssetCandidate} (h : Fingerprinted candidate) :
    dedupeKey floatRepr candidate = candidate.assetType ++ ":fingerprint:".toList ++
      lower ((fingerprint candidate).pyStr floatRepr) := if_pos h

omit [PyText] in
theorem certificateRef_eq (source : TlsSource) (label : List Char) (chainIndex : Nat)
    (digest : List Char) : certificateRef source label chainIndex digest =
      certificateHead source ++ (label ++ ':' :: (toString chainIndex).toList ++ [':']) ++
        digest := by
  show certificateHead source ++ label ++ ':' :: (toString chainIndex).toList ++ ':' :: digest = _
  rw [List.append_cons _ ':' digest, List.append_assoc (certificateHead source),
    List.append_assoc (certificateHead source)]

omit [PyText] in
/-- Equal references of certificates carry the same digest. -/
theorem digest_eq_of_ref_eq {source source' : TlsSource} {label label' digest digest' : List Char}
    {chainIndex chainIndex' : Nat} (hlength : digest.length = digest'.length)
    (h : certificateRef source label chainIndex digest =
      certificateRef source' label' chainIndex' digest') : digest = digest' := by
  rw [certificateRef_eq, certificateRef_eq] at h
  exact (List.append_inj' h hlength).2

section

omit [PyText]

/-- A digest reference and the reference of a certificate differ early. -/
theorem digest_ne_certificate {head : String} {source : TlsSource} {tail tail' : List Char}
    (hhead : head ∈ digestHeads) :
    (head.toList ++ tail).take 255 ≠ (certificateHead source ++ tail').take 255 := by
  intro h
  have hshort := heads_short.1 head hhead
  have hshort' := heads_short.2.1 source source.mem_all
  exact (heads_incompatible head hhead).1 source source.mem_all
    (prefix_or_prefix_of_take (by omega) (by omega) h)

theorem digest_ne_agent {head scanner : String} {tail tail' : List Char}
    (hhead : head ∈ digestHeads) (hscanner : scanner ∈ typeScannerKind.map Prod.snd) :
    (head.toList ++ tail).take 255 ≠ (scanner.toList ++ tail').take 255 := by
  intro h
  have hshort := heads_short.1 head hhead
  have hshort' := heads_short.2.2 scanner hscanner
  exact (heads_incompatible head hhead).2 scanner hscanner
    (prefix_or_prefix_of_take (by omega) (by omega) h)

theorem certificate_ne_agent {source : TlsSource} {scanner : String} {tail tail' : List Char}
    (hscanner : scanner ∈ typeScannerKind.map Prod.snd) :
    (certificateHead source ++ tail).take 255 ≠ (scanner.toList ++ tail').take 255 := by
  intro h
  have hshort := heads_short.2.1 source source.mem_all
  have hshort' := heads_short.2.2 scanner hscanner
  exact certificateHead_incompatible source source.mem_all scanner hscanner
    (prefix_or_prefix_of_take (by omega) (by omega) h)

theorem fingerprinted_of_digest {candidate : AssetCandidate} {digest : List Char}
    (hdigest : digest.length = 64)
    (h : fingerprint candidate = .str (String.ofList digest)) : Fingerprinted candidate := by
  have hne : String.ofList digest ≠ "" := by
    intro hempty
    have htoList := congrArg String.toList hempty
    rw [String.toList_ofList] at htoList
    rw [htoList] at hdigest
    cases hdigest
  rw [Fingerprinted, h]
  simpa [Json.truthy] using hne

/-- The references with a head and a short tail are stored as they are. -/
theorem length_headed {head tail : List Char} (hhead : head.length ≤ 64) (htail : tail.length ≤ 65) :
    (head ++ tail).length ≤ 255 := by
  rw [List.length_append]
  omega

end

/-- Two scanners' candidates with different keys share a stored reference only in a conflict. -/
theorem conflict_of_take_eq {c d : AssetCandidate} (hc : RefShape c) (hd : RefShape d)
    (hkey : dedupeKey floatRepr c ≠ dedupeKey floatRepr d)
    (h : c.bomRef.take 255 = d.bomRef.take 255) : AgentConflict c d ∨ CertificateConflict c d := by
  -- equal references without fingerprints would be equal keys
  have hbare : c.bomRef = d.bomRef → Fingerprinted c ∨ Fingerprinted d := by
    intro heq
    by_contra hnone
    rw [not_or] at hnone
    apply hkey
    rw [dedupeKey_of_not_fingerprinted floatRepr hnone.1,
      dedupeKey_of_not_fingerprinted floatRepr hnone.2, heq]
  cases hc with
  | digest head tail hhead href htail hplain hkind =>
      cases hd with
      | digest head' tail' hhead' href' htail' hplain' hkind' =>
          have hlength := length_headed (heads_short.1 head hhead) (by omega : tail.length ≤ 65)
          have hlength' := length_headed (heads_short.1 head' hhead') (by omega : tail'.length ≤ 65)
          have heq := eq_of_take_eq (href ▸ hlength) (href' ▸ hlength') h
          exact absurd (hbare heq) (not_or.mpr ⟨hplain, hplain'⟩)
      | certificate source label chainIndex digest hdigest hmetadata htype href' hkind' =>
          rw [href, href', certificateRef_eq, List.append_assoc] at h
          exact absurd h (digest_ne_certificate hhead)
      | agent scanner tail' hscanner hkind' href' htail' =>
          rw [href, href'] at h
          exact absurd h (digest_ne_agent hhead hscanner)
  | certificate source label chainIndex digest hdigest hmetadata htype href hkind =>
      cases hd with
      | digest head tail hhead href' htail hplain hkind' =>
          rw [href, href', certificateRef_eq, List.append_assoc] at h
          exact absurd h.symm (digest_ne_certificate hhead)
      | certificate source' label' chainIndex' digest' hdigest' hmetadata' htype' href' hkind' =>
          have hfingerprint := fingerprinted_of_digest hdigest hmetadata
          have hfingerprint' := fingerprinted_of_digest hdigest' hmetadata'
          refine .inr ⟨hkind, hkind', hfingerprint, hfingerprint', ?_, h⟩
          by_contra hshort
          have heq := eq_of_take_eq (by omega) (by omega) h
          rw [href, href'] at heq
          have hsame := digest_eq_of_ref_eq (hdigest.trans hdigest'.symm) heq
          apply hkey
          rw [dedupeKey_of_fingerprinted floatRepr hfingerprint,
            dedupeKey_of_fingerprinted floatRepr hfingerprint', hmetadata, hmetadata', hsame, htype,
            htype']
      | agent scanner tail' hscanner hkind' href' htail' =>
          rw [href, href', certificateRef_eq, List.append_assoc] at h
          exact absurd h (certificate_ne_agent hscanner)
  | agent scanner tail hscanner hkind href htail =>
      cases hd with
      | digest head tail' hhead href' htail' hplain hkind' =>
          rw [href, href'] at h
          exact absurd h.symm (digest_ne_agent hhead hscanner)
      | certificate source label chainIndex digest hdigest hmetadata htype href' hkind' =>
          rw [href, href', certificateRef_eq, List.append_assoc] at h
          exact absurd h.symm (certificate_ne_agent hscanner)
      | agent scanner' tail' hscanner' hkind' href' htail' =>
          have hlength := @length_headed _ (':' :: tail) (heads_short.2.2 scanner hscanner)
            (by rw [List.length_cons]; omega)
          have hlength' := @length_headed _ (':' :: tail') (heads_short.2.2 scanner' hscanner')
            (by rw [List.length_cons]; omega)
          have heq := eq_of_take_eq (href ▸ hlength) (href' ▸ hlength') h
          have hnetwork : ∀ scanner ∈ typeScannerKind.map Prod.snd,
              scanner.toList ≠ "network".toList := by decide
          exact .inl ⟨hkind ▸ hnetwork scanner hscanner, heq, hbare heq⟩

omit [PyText] in
theorem take_eq_of_conflict {c d : AssetCandidate} (h : AgentConflict c d ∨ CertificateConflict c d) :
    c.bomRef.take 255 = d.bomRef.take 255 := by
  rcases h with ⟨-, heq, -⟩ | ⟨-, -, -, -, -, heq⟩
  · rw [heq]
  · exact heq

variable [Sha256]

/-- The stored references of a job's candidates are pairwise different exactly if no two candidates
that open their keys are in conflict. -/
theorem storedRefs_nodup_iff_noConflict (candidates : List AssetCandidate)
    (hcandidates : ∀ candidate ∈ candidates, ScannerCandidate floatRepr candidate) :
    (storedRefs floatRepr candidates).Nodup ↔
      (openers floatRepr candidates).Pairwise fun c d =>
        ¬ (AgentConflict c d ∨ CertificateConflict c d) := by
  have hkeys : (openers floatRepr candidates).Pairwise fun c d =>
      dedupeKey floatRepr c ≠ dedupeKey floatRepr d :=
    (Dict.firsts_pairwise (dedupeKey floatRepr) candidates []).2
  have hshape : ∀ candidate ∈ openers floatRepr candidates, RefShape candidate := fun candidate h =>
    (hcandidates candidate (Dict.mem_of_mem_firsts (dedupeKey floatRepr) h)).refShape
  rw [storedRefs_nodup_iff]
  constructor
  · intro h
    exact h.imp fun hne hconflict => hne (take_eq_of_conflict hconflict)
  · intro h
    apply List.Pairwise.imp_of_mem _ (h.and hkeys)
    intro c d hc hd hpair heq
    exact hpair.1 (conflict_of_take_eq floatRepr (hshape c hc) (hshape d hd) hpair.2 heq)

end

/-! ## 4. A renewed certificate -/

def agentHost : Target where
  host := "web.testbed.local"
  displayName := none
  ip := none
  port := 443
  protocolHint := .tls
  sni := none
  transport := .tcp
  agentEnabled := true
  agentUrl := none
  context := { field := RiskEngine.emptyContext }

def certificateFinding (fingerprint : String) : Finding :=
  [("type", .str "certificate_file"), ("path", .str "/etc/ssl/web.crt"),
    ("algorithm", .str "RSA-2048"), ("fingerprint_sha256", .str fingerprint)]

def hostCandidates (targetId : Id) (fingerprint : String) : List AssetCandidate :=
  letI := asciiText
  letI := constantDigest
  mapAgentFindings (fun _ => []) targetId agentHost [certificateFinding fingerprint]
    ["agent.app_cert_files"]

theorem sameCertificate_stored : letI := asciiText
    (storedRefs (fun _ => []) (hostCandidates 0 "ab" ++ hostCandidates 1 "ab")).Nodup :=
  letI := asciiText
  letI := constantDigest
  (storedRefs_nodup_iff_noConflict (fun _ => []) (hostCandidates 0 "ab" ++ hostCandidates 1 "ab")
    (fun candidate h => (List.mem_append.mp h).elim
      (.agent candidate 0 agentHost [certificateFinding "ab"] ["agent.app_cert_files"])
      (.agent candidate 1 agentHost [certificateFinding "ab"]
        ["agent.app_cert_files"]))).mpr (by decide +kernel)

/-- The file's certificate is renewed between the scans of two targets of the host. -/
theorem renewedCertificate_collides : letI := asciiText
    letI := constantDigest
    (∀ candidate ∈ hostCandidates 0 "ab" ++ hostCandidates 1 "cd",
      ScannerCandidate (fun _ => []) candidate) ∧
      ¬ (storedRefs (fun _ => []) (hostCandidates 0 "ab" ++ hostCandidates 1 "cd")).Nodup :=
  letI := asciiText
  letI := constantDigest
  ⟨fun candidate h => (List.mem_append.mp h).elim
    (.agent candidate 0 agentHost [certificateFinding "ab"] ["agent.app_cert_files"])
    (.agent candidate 1 agentHost [certificateFinding "cd"] ["agent.app_cert_files"]),
    by decide +kernel⟩

end CryptoScanner.Scan
