import Mathlib.Data.Set.Finite.Lattice
import Mathlib.Data.Set.Finite.List
import CryptoScanner.Scan.BomRefs
import CryptoScanner.Scan.TlsNames

/-!
# When a TLS scan comes to its end

The server feeds the loop of `_scan_tls`.  A name is probed once, and only so many names fit into the
certificates that TLS can carry, so every server is probed finitely often.
-/

namespace CryptoScanner.Scan

open Library Python

/-! ## 1. The answers of a server -/

def answersBefore (outcomes : Nat → Except String TlsProbe) (n : Nat) : List TlsProbe :=
  (List.range n).filterMap fun m => (outcomes m).toOption

theorem answersBefore_succ {outcomes : Nat → Except String TlsProbe} {n : Nat} {result : TlsProbe}
    (h : outcomes n = .ok result) :
    answersBefore outcomes (n + 1) = answersBefore outcomes n ++ [result] := by
  rw [answersBefore, List.range_succ, List.filterMap_append, answersBefore,
    List.filterMap_cons_some (by rw [h]; rfl)]
  rfl

namespace TlsEnvironment

variable [PyText] [Sha256] {env : TlsEnvironment} {outcomes : Nat → Except String TlsProbe}
  {names : List (Option String)} {s : TlsScan}

/-- The answers that the loop has received are those that the sequence gives. -/
theorem Explores.results_take (h : Explores env (fun n _ => outcomes n) names s) {n : Nat}
    (hn : n ≤ s.probes.length) : s.results.take n = answersBefore outcomes n := by
  induction n with
  | zero => rfl
  | succ n ih =>
      have hlt : n < s.probes.length := hn
      have hanswer := h.answered n _ _ (List.getElem?_eq_getElem hlt)
      rw [answersBefore_succ hanswer, ← ih (Nat.le_of_lt hlt), TlsScan.results,
        List.take_succ_eq_append_getElem (by rwa [List.length_map]), List.getElem_map]
      rfl

theorem Explores.results_eq (h : Explores env (fun n _ => outcomes n) names s) :
    s.results = answersBefore outcomes s.probes.length := by
  have hlength : s.results.length = s.probes.length := List.length_map _
  rw [← h.results_take (Nat.le_refl _), List.take_of_length_le (Nat.le_of_eq hlength)]

/-- After `n` answers no further name has been offered. -/
def Exhausted (env : TlsEnvironment) (names : List (Option String))
    (outcomes : Nat → Except String TlsProbe) (n : Nat) : Prop :=
  (env.offeredNames names (answersBefore outcomes n)).toFinset.card ≤ n

instance (env : TlsEnvironment) (names : List (Option String))
    (outcomes : Nat → Except String TlsProbe) (n : Nat) :
    Decidable (env.Exhausted names outcomes n) :=
  inferInstanceAs (Decidable (_ ≤ _))

/-- No probe is made after names have run out, or after a failure. -/
theorem Explores.length_le (h : Explores env (fun n _ => outcomes n) names s) {n : Nat}
    (hn : (∃ m < n, ∃ error, outcomes m = .error error) ∨ env.Exhausted names outcomes n) :
    s.probes.length ≤ n := by
  by_contra hlt
  rw [Nat.not_le] at hlt
  rcases hn with ⟨m, hm, error, herror⟩ | hexhausted
  · have hanswer := h.answered m _ _ (List.getElem?_eq_getElem (hm.trans hlt))
    simp only [herror, reduceCtorEq] at hanswer
  · have hcard := h.lt_card hlt
    rw [h.results_take (Nat.le_of_lt hlt)] at hcard
    exact absurd hexhausted (Nat.not_le.mpr hcard)

/-- The names that `_scan_tls` starts with. -/
def firstNames (env : TlsEnvironment) : List (Option String) :=
  initialSniNames env.target env.knownAliases

omit [PyText] [Sha256] in
theorem firstNames_named (env : TlsEnvironment) : ∀ sni ∈ env.firstNames, Named sni :=
  initialSniNames_named env.knownAliases_ne_empty

omit [PyText] [Sha256] in
theorem firstNames_ne_nil (env : TlsEnvironment) : env.firstNames ≠ [] :=
  initialSniNames_ne_nil env.target env.knownAliases

theorem scanTls_eq_some_iff {tlsProbe : Nat → Option String → Except String TlsProbe} {fuel : Nat}
    {result : Except String (List AssetCandidate)} :
    env.scanTls tlsProbe fuel = some result ↔
      ∃ scan, env.scanTlsFrom tlsProbe fuel env.firstNames = some scan ∧
        scan.map TlsScan.candidates = result :=
  Option.map_eq_some_iff

end TlsEnvironment

/-! ## 2. The names in certificates -/

/-- A certificate comes in a TLS message, which gives its length in three bytes. -/
def FromTls (tlsProbe : Nat → Option String → Except String TlsProbe) : Prop :=
  ∀ n sni result, tlsProbe n sni = .ok result → ∀ der ∈ result.derChain, der.length < 2 ^ 24

namespace TlsEnvironment

variable [PyText] (env : TlsEnvironment)

def possibleNames : Set (Option String) :=
  {sni | sni ∈ env.firstNames ++ env.knownAliases.map some} ∪
    ⋃ der ∈ {der : List UInt8 | der.length < 2 ^ 24},
      {sni | sni ∈ (subjectAltNamesFromChain env.certificates [der]).map some}

/-- There are finitely many certificates, each with finitely many names. -/
theorem finite_possibleNames : env.possibleNames.Finite := by
  have hbytes : Finite UInt8 := Finite.of_injective UInt8.toFin fun _ _ => UInt8.toFin_inj.mp
  have hcertificates : {der : List UInt8 | der.length < 2 ^ 24}.Finite := List.finite_length_lt _ _
  apply Set.Finite.union (List.finite_toSet _)
  apply hcertificates.biUnion
  intro der _
  exact List.finite_toSet _

variable {env} {tlsProbe : Nat → Option String → Except String TlsProbe}

theorem sans_possible (h : FromTls tlsProbe) {n : Nat} {sni : Option String} {result : TlsProbe}
    (hresult : tlsProbe n sni = .ok result) {san : String} (hsan : san ∈ env.sans result) :
    some san ∈ env.possibleNames := by
  unfold sans at hsan
  cases hchain : result.derChain with
  | nil =>
      rw [hchain] at hsan
      cases hsan
  | cons der derChain =>
      rw [hchain] at hsan
      have hshort : der.length < 2 ^ 24 := h n sni result hresult der (hchain ▸ List.mem_cons_self)
      -- the names of a chain are those of its first certificate
      have hfirst : san ∈ subjectAltNamesFromChain env.certificates [der] := hsan
      exact .inr (Set.mem_biUnion hshort (List.mem_map_of_mem hfirst))

variable [Sha256] {s : TlsScan}

theorem Explores.possible (h : Explores env tlsProbe env.firstNames s) (hfrom : FromTls tlsProbe) :
    ∀ sni ∈ s.probedNames, sni ∈ env.possibleNames := by
  intro sni hsni
  obtain ⟨n, hn, heq⟩ := List.mem_iff_getElem.mp hsni
  have hheard := h.heard n sni (List.getElem?_eq_some_iff.mpr ⟨hn, heq⟩)
  rcases mem_offeredNames.mp hheard with hfirst | halias | ⟨result, hresult, san, hsan, rfl⟩
  · exact .inl (List.mem_append_left _ hfirst)
  · exact .inl (List.mem_append_right _ halias)
  · obtain ⟨probe, hprobe, rfl⟩ := List.mem_map.mp (List.mem_of_mem_take hresult)
    obtain ⟨m, hm, heq⟩ := List.mem_iff_getElem.mp hprobe
    have hanswer := h.answered m probe.1 probe.2 (List.getElem?_eq_some_iff.mpr ⟨hm, heq⟩)
    exact sans_possible hfrom hanswer hsan

/-- A name is probed once, so there are no more probes than names. -/
theorem Explores.length_le_card (h : Explores env tlsProbe env.firstNames s)
    (hfrom : FromTls tlsProbe) : s.probes.length ≤ env.finite_possibleNames.toFinset.card := by
  rw [← length_probedNames, ← List.toFinset_card_of_nodup h.nodup]
  apply Finset.card_le_card
  intro sni hsni
  exact env.finite_possibleNames.mem_toFinset.mpr (h.possible hfrom sni (List.mem_toFinset.mp hsni))

/-- One bound holds for the probes of every server, and every scan returns. -/
theorem scanTls_terminates (env : TlsEnvironment) : ∃ bound, ∀ tlsProbe, FromTls tlsProbe →
    (∀ s, While.Reaches (env.scanTlsTurn tlsProbe) { pendingSni := env.firstNames } s →
      s.probes.length ≤ bound) ∧
      ∃ fuel result, env.scanTls tlsProbe fuel = some result := by
  refine ⟨env.finite_possibleNames.toFinset.card, fun tlsProbe hfrom => ?_⟩
  have hbound : ∀ s, While.Reaches (env.scanTlsTurn tlsProbe) { pendingSni := env.firstNames } s →
      s.probes.length ≤ env.finite_possibleNames.toFinset.card :=
    fun s hs => (Explores.of_reaches env.firstNames_named hs).length_le_card hfrom
  refine ⟨hbound, ?_⟩
  obtain ⟨fuel, scan, hscan⟩ := ends_of_bound hbound
  exact ⟨fuel, _, scanTls_eq_some_iff.mpr ⟨scan, hscan, rfl⟩⟩

end TlsEnvironment

/-! ## 3. A server with ever new names -/

/-- The reader of certificates in which every byte stands for one letter of a name. -/
def unaryCertificates : CertificateText where
  printed der := "DNS:".toList ++ List.replicate der.length 'a'
  parsed _ := ⟨[], [], "", ""⟩

def freshNames : TlsEnvironment where
  floatRepr _ := []
  certificates := unaryCertificates
  targetId := 0
  target := agentHost
  knownAliases := []
  knownAliases_ne_empty := List.not_mem_nil

/-- A server that answers each handshake with a longer name.  The library takes no name of more than
63 letters, so the probe after that raises. -/
def freshProbe (n : Nat) (_ : Option String) : Except String TlsProbe :=
  if n ≤ 63 then
    .ok
      { sni := none
        tlsVersion := some "TLSv1.3"
        cipherSuite := none
        supportedCipherSuites := []
        derChain := [List.replicate (n + 1) 0]
        alpn := none
        pqcReadiness := [] }
  else .error "label too long"

theorem freshNames_terminates : letI := asciiText
    letI := constantDigest
    (∃ bound, ∀ s, While.Reaches (freshNames.scanTlsTurn freshProbe)
        { pendingSni := freshNames.firstNames } s → s.probes.length ≤ bound) ∧
      ∃ fuel result, freshNames.scanTls freshProbe fuel = some result := by
  let := asciiText
  let := constantDigest
  obtain ⟨bound, hbound⟩ := TlsEnvironment.scanTls_terminates freshNames
  have hfrom : FromTls freshProbe := by
    intro n sni result hresult der hder
    unfold freshProbe at hresult
    split_ifs at hresult with hn
    cases hresult
    rw [List.mem_singleton.mp hder, List.length_replicate]
    omega
  have hends := hbound freshProbe hfrom
  exact ⟨⟨bound, hends.1⟩, hends.2⟩

end CryptoScanner.Scan
