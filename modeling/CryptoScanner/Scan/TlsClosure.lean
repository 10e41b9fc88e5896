import Mathlib.Data.Set.Finite.Basic
import Mathlib.Order.Bounds.Basic
import CryptoScanner.Scan.BomRefs
import CryptoScanner.Scan.TlsNames

/-!
# The names that a TLS scan explores

With a server that always returns the same certificate for a name, the loop of `_scan_tls` probes the
least set of names that is closed under the names in certificates.  The names in certificates are
lowered and the others are not, so one name can be probed in two spellings.
-/

namespace CryptoScanner.Scan

open Library Python

/-! ## 1. The least closed set of names -/

def dnsFold (name : String) : List Char := name.toList.map Char.toLower

namespace TlsEnvironment

variable [PyText] (env : TlsEnvironment) (names : List (Option String))
  (answer : Option String → TlsProbe)

/-- The sets of names that contain the first names and the aliases and, with a name, those in the
certificate that is returned for it. -/
def closedSets : Set (Set (Option String)) :=
  { set | (∀ sni ∈ names, sni ∈ set) ∧ (∀ name ∈ env.knownAliases, some name ∈ set) ∧
    ∀ sni ∈ set, ∀ san ∈ env.sans (answer sni), some san ∈ set }

/-- The names that certificates lead to. -/
inductive Reachable : Option String → Prop
  | first {sni : Option String} (h : sni ∈ names) : Reachable sni
  | known {name : String} (h : name ∈ env.knownAliases) : Reachable (some name)
  | san {sni : Option String} (hsni : Reachable sni) {name : String}
      (h : name ∈ env.sans (answer sni)) : Reachable (some name)

variable {env names answer}

theorem Reachable.mem_of_mem_closedSets {sni : Option String}
    (h : Reachable env names answer sni) {set : Set (Option String)}
    (hset : set ∈ env.closedSets names answer) : sni ∈ set := by
  induction h with
  | first h => exact hset.1 _ h
  | known h => exact hset.2.1 _ h
  | san _ h ih => exact hset.2.2 _ ih _ h

variable [Sha256] {s : TlsScan}

theorem reachable_of_reaches
    (h : While.Reaches (env.scanTlsTurn fun _ sni => .ok (answer sni)) { pendingSni := names } s)
    {sni : Option String} (hsni : sni ∈ s.pendingSni ∨ sni ∈ s.probedNames) :
    Reachable env names answer sni := by
  have hinv : ∀ other, other ∈ s.pendingSni ∨ other ∈ s.probedNames →
      Reachable env names answer other := by
    refine While.Reaches.invariant
      (I := fun s => ∀ other, other ∈ s.pendingSni ∨ other ∈ s.probedNames →
        Reachable env names answer other) (fun s next hs hgoes => ?_) h
      fun other hother => hother.elim .first fun hmem => (List.not_mem_nil hmem).elim
    obtain ⟨first, pendingSni, hpending, ⟨-, rfl⟩ | ⟨-, result, hresult, rfl⟩⟩ :=
      goes_scanTlsTurn hgoes
    · intro other hother
      apply hs other
      rw [hpending]
      exact hother.imp_left (List.mem_cons_of_mem first)
    · cases hresult
      have hfirst := hs first (.inl (hpending ▸ List.mem_cons_self))
      rintro other (hother | hother)
      · rcases mem_pendingSni_answered.mp hother with hother | ⟨name, hsan | hknown, -, rfl⟩
        · exact hs other (.inl (hpending ▸ List.mem_cons_of_mem first hother))
        · exact .san hfirst hsan
        · exact .known hknown
      · rw [probedNames_answered] at hother
        rcases List.mem_append.mp hother with hother | hother
        · exact hs other (.inr hother)
        · exact List.mem_singleton.mp hother ▸ hfirst
  exact hinv sni hsni

/-- At the end of the loop the probed names are closed. -/
theorem Explores.probedNames_mem_closedSets
    (h : Explores env (fun _ sni => .ok (answer sni)) names s) (hnames : names ≠ [])
    (hpending : s.pendingSni = []) : { sni | sni ∈ s.probedNames } ∈ env.closedSets names answer := by
  have hprobed : ∀ sni, sni ∈ s.pendingSni ∨ sni ∈ s.probedNames → sni ∈ s.probedNames := by
    rintro sni (hsni | hsni)
    · rw [hpending] at hsni
      cases hsni
    · exact hsni
  obtain ⟨first, hfirst⟩ := List.exists_mem_of_ne_nil names hnames
  have hne : s.probes ≠ [] := by
    intro hnil
    have hmem := hprobed first (h.start first hfirst)
    rw [TlsScan.probedNames, hnil] at hmem
    cases hmem
  have hcomplete := fun sni hsni => hprobed sni (h.complete hne sni hsni)
  refine ⟨fun sni hsni => hprobed sni (h.start sni hsni), fun name hname => ?_,
    fun sni hsni san hsan => ?_⟩
  · exact hcomplete _ (mem_offeredNames.mpr (.inr (.inl (List.mem_map_of_mem hname))))
  · obtain ⟨⟨other, result⟩, hprobe, rfl⟩ := List.mem_map.mp hsni
    obtain ⟨n, hn, hget⟩ := List.mem_iff_getElem.mp hprobe
    have hanswer := h.answered n other result (List.getElem?_eq_some_iff.mpr ⟨hn, hget⟩)
    cases hanswer
    exact hcomplete _ (mem_offeredNames.mpr (.inr (.inr
      ⟨_, List.mem_map_of_mem hprobe, san, hsan, rfl⟩)))

variable (env names answer)

/-- The loop comes to its end, has probed no name twice, and has probed the least closed set. -/
def ExploresClosure : Prop :=
  ∃ fuel s, env.scanTlsFrom (fun _ sni => .ok (answer sni)) fuel names = some (.ok s) ∧
    (s.probedNames.map (Option.map dnsFold)).Nodup ∧
    IsLeast (env.closedSets names answer) { sni | sni ∈ s.probedNames }

variable {env names answer}

theorem scanTlsFrom_end (hnamed : ∀ sni ∈ names, Named sni) (hnames : names ≠ []) {fuel : Nat}
    (h : env.scanTlsFrom (fun _ sni => .ok (answer sni)) fuel names = some (.ok s)) :
    IsLeast (env.closedSets names answer) { sni | sni ∈ s.probedNames } ∧
      (∀ sni, sni ∈ s.probedNames ↔ Reachable env names answer sni) ∧ s.probedNames.Nodup := by
  obtain ⟨last, hreaches, hstops⟩ := While.exists_run_ok_iff.mp ⟨fuel, h⟩
  obtain ⟨hpending, rfl⟩ := pendingSni_of_stops hstops
  have hexplores := Explores.of_reaches hnamed hreaches
  have hclosed := hexplores.probedNames_mem_closedSets hnames hpending
  have hsound : ∀ sni ∈ s.probedNames, Reachable env names answer sni :=
    fun sni hsni => reachable_of_reaches hreaches (.inr hsni)
  refine ⟨⟨hclosed, fun set hset sni hsni => (hsound sni hsni).mem_of_mem_closedSets hset⟩,
    fun sni => ⟨hsound sni, fun hsni => hsni.mem_of_mem_closedSets hclosed⟩, hexplores.nodup⟩

/-- Over finitely many names the loop comes to its end. -/
theorem exists_scanTlsFrom_of_finite (hnamed : ∀ sni ∈ names, Named sni)
    (hfinite : { sni | Reachable env names answer sni }.Finite) :
    ∃ fuel s, env.scanTlsFrom (fun _ sni => .ok (answer sni)) fuel names = some (.ok s) := by
  have hbound : ∀ t, While.Reaches (env.scanTlsTurn fun _ sni => .ok (answer sni))
      { pendingSni := names } t → t.probes.length ≤ hfinite.toFinset.card := by
    intro t ht
    have hnodup := (Explores.of_reaches hnamed ht).nodup
    rw [← length_probedNames, ← List.toFinset_card_of_nodup hnodup]
    apply Finset.card_le_card
    intro sni hsni
    rw [Set.Finite.mem_toFinset]
    exact reachable_of_reaches ht (.inr (List.mem_toFinset.mp hsni))
  obtain ⟨fuel, result, hrun⟩ := ends_of_bound hbound
  obtain ⟨before, -, ⟨last, -, rfl⟩ | ⟨error, hraises, -⟩⟩ := While.run_end hrun
  · exact ⟨fuel, last, hrun⟩
  · obtain ⟨sni, -, -, herror⟩ := probe_of_raises hraises
    cases herror

/-- The loop probes the least closed set, and no name twice exactly if no two different names of
this set are the same to DNS. -/
theorem exploresClosure_iff (hnamed : ∀ sni ∈ names, Named sni) (hnames : names ≠ [])
    (hfinite : { sni | Reachable env names answer sni }.Finite) :
    ExploresClosure env names answer ↔
      ∀ sni other, Reachable env names answer sni → Reachable env names answer other →
        sni.map dnsFold = other.map dnsFold → sni = other := by
  constructor
  · rintro ⟨fuel, s, hrun, hfold, -⟩ sni other hsni hother heq
    obtain ⟨-, hmem, hnodup⟩ := scanTlsFrom_end hnamed hnames hrun
    rw [List.nodup_map_iff_inj_on hnodup] at hfold
    exact hfold sni ((hmem sni).mpr hsni) other ((hmem other).mpr hother) heq
  · intro h
    obtain ⟨fuel, s, hrun⟩ := exists_scanTlsFrom_of_finite hnamed hfinite
    obtain ⟨hleast, hmem, hnodup⟩ := scanTlsFrom_end hnamed hnames hrun
    refine ⟨fuel, s, hrun, ?_, hleast⟩
    rw [List.nodup_map_iff_inj_on hnodup]
    intro sni hsni other hother
    exact h sni other ((hmem sni).mp hsni) ((hmem other).mp hother)

end TlsEnvironment

/-! ## 2. A name in two spellings -/

/-- The reader of certificates whose bytes are the characters of what is printed. -/
def textCertificates : CertificateText where
  printed der := der.map fun byte => Char.ofNat byte.toNat
  parsed _ := ⟨[], [], "", ""⟩

def namedTarget (sni : String) : TlsEnvironment where
  floatRepr _ := []
  certificates := textCertificates
  targetId := 0
  target := { agentHost with sni := some sni }
  knownAliases := []
  knownAliases_ne_empty := List.not_mem_nil

def oneCertificate (_ : Option String) : TlsProbe where
  sni := none
  tlsVersion := some "TLSv1.3"
  cipherSuite := none
  supportedCipherSuites := []
  derChain := ["DNS:Web.testbed.local".toList.map fun c => UInt8.ofNat c.toNat]
  alpn := none
  pqcReadiness := []

theorem namedTarget_lower_explores : letI := asciiText
    letI := constantDigest
    TlsEnvironment.ExploresClosure (namedTarget "web.testbed.local") [some "web.testbed.local"]
      oneCertificate := by
  let := asciiText
  let := constantDigest
  have hsans : ∀ sni, (namedTarget "web.testbed.local").sans (oneCertificate sni) =
      ["web.testbed.local"] := by
    have hnone : (namedTarget "web.testbed.local").sans (oneCertificate none) =
      ["web.testbed.local"] := by decide +kernel
    exact fun _ => hnone
  have hone : ∀ sni, TlsEnvironment.Reachable (namedTarget "web.testbed.local")
      [some "web.testbed.local"] oneCertificate sni → sni = some "web.testbed.local" := by
    intro sni h
    cases h with
    | first h => exact List.mem_singleton.mp h
    | known h => cases h
    | san _ h =>
        rw [hsans] at h
        rw [List.mem_singleton.mp h]
  refine (TlsEnvironment.exploresClosure_iff (by decide) (by decide) ?_).mpr ?_
  · exact (Set.finite_singleton (some "web.testbed.local")).subset hone
  · intro sni other hsni hother _
    rw [hone sni hsni, hone other hother]

/-- The target's own name has a capital letter, and the same name in the certificate has none. -/
theorem namedTarget_capital_repeats : letI := asciiText
    letI := constantDigest
    (∃ fuel s, (namedTarget "Web.testbed.local").scanTlsFrom
        (fun _ sni => .ok (oneCertificate sni)) fuel [some "Web.testbed.local"] = some (.ok s)) ∧
      ¬ TlsEnvironment.ExploresClosure (namedTarget "Web.testbed.local")
        [some "Web.testbed.local"] oneCertificate := by
  let := asciiText
  let := constantDigest
  have hnames : ((namedTarget "Web.testbed.local").scanTlsFrom
      (fun _ sni => .ok (oneCertificate sni)) 3 [some "Web.testbed.local"]).map
        (Except.map TlsScan.probedNames) =
      some (.ok [some "Web.testbed.local", some "web.testbed.local"]) := by decide +kernel
  obtain ⟨result, hrun, hresult⟩ := Option.map_eq_some_iff.mp hnames
  cases result with
  | error error => cases hresult
  | ok scan =>
      refine ⟨⟨3, scan, hrun⟩, ?_⟩
      rintro ⟨fuel, s, hother, hfold, -⟩
      cases While.run_unique hrun hother
      have hprobed : scan.probedNames = [some "Web.testbed.local", some "web.testbed.local"] :=
        Except.ok.inj hresult
      rw [hprobed] at hfold
      exact absurd hfold (by decide +kernel)

end CryptoScanner.Scan
