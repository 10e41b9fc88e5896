import Mathlib.Data.Finset.Card
import CryptoScanner.Scan.TlsScan

/-!
# The names that a TLS scan probes

The loop of `_scan_tls` is fed by the server.  What it has probed and what it still has to probe
are together all the names that it has heard of, each once.
-/

namespace CryptoScanner.Scan

open Library Python

/-! ## 1. Names -/

theorem mem_appendPending {seenSni : List String} {pendingSni : List (Option String)}
    {names : List String} {sni : Option String} :
    sni ∈ appendPending seenSni pendingSni names ↔
      sni ∈ pendingSni ∨ ∃ name ∈ names, name ∉ seenSni ∧ sni = some name := by
  unfold appendPending
  induction names generalizing pendingSni with
  | nil => simp
  | cons name names ih =>
      rw [List.foldl_cons, ih]
      by_cases hnew : name ∉ seenSni ∧ some name ∉ pendingSni
      · rw [if_pos hnew, List.mem_append, List.mem_singleton, List.exists_mem_cons_iff, or_assoc]
        simp only [hnew.1, not_false_eq_true, true_and]
      · rw [if_neg hnew, List.exists_mem_cons_iff]
        constructor
        · rintro (hmem | hmem)
          · exact .inl hmem
          · exact .inr (.inr hmem)
        · rintro (hmem | ⟨hseen, rfl⟩ | hmem)
          · exact .inl hmem
          · exact .inl (not_not.mp fun hpending => hnew ⟨hseen, hpending⟩)
          · exact .inr hmem

/-- The names that `_tls_probe` is called with are `None` or have a character. -/
def Named (sni : Option String) : Prop := sni ≠ some ""

instance (sni : Option String) : Decidable (Named sni) := inferInstanceAs (Decidable (_ ≠ _))

theorem sniKey_injective {sni other : Option String} (h : Named sni) (hother : Named other)
    (heq : sniKey sni = sniKey other) : sni = other := by
  cases sni with
  | none =>
      cases other with
      | none => rfl
      | some name => exact absurd (congrArg some heq).symm hother
  | some name =>
      cases other with
      | none => exact absurd (congrArg some heq) h
      | some name' => exact congrArg some heq

theorem ne_empty_of_isHostname {name : List Char} (h : isHostname name = true) : name ≠ [] := by
  simp only [isHostname, Bool.and_eq_true, decide_eq_true_eq] at h
  exact h.1

theorem ofList_ne_empty {name : List Char} (h : name ≠ []) : String.ofList name ≠ "" := by
  intro heq
  have htoList := congrArg String.toList heq
  rw [String.toList_ofList] at htoList
  exact h htoList

theorem subjectAltNamesFromChain_ne_empty [PyText] (certificates : CertificateText)
    (derChain : List (List UInt8)) : "" ∉ subjectAltNamesFromChain certificates derChain := by
  cases derChain with
  | nil => exact List.not_mem_nil
  | cons der derChain =>
      intro hmem
      obtain ⟨name, hname, heq⟩ := List.mem_map.mp hmem
      exact ofList_ne_empty (ne_empty_of_isHostname (List.mem_filter.mp hname).2) heq

theorem knownSniAliases_ne_empty (address : Target → Option String) (targets : List (Id × Target))
    (targetId : Id) (target : Target) : "" ∉ knownSniAliases address targets targetId target := by
  unfold knownSniAliases
  by_cases haddress : (address target).getD "" = ""
  · rw [if_pos haddress]
    exact List.not_mem_nil
  · rw [if_neg haddress]
    have hfold : ∀ (name : Id × Target → String) (same : Id × Target → Prop) [DecidablePred same]
        (others : List (Id × Target)) (known : List String), "" ∉ known → "" ∉ others.foldl
          (fun known other =>
            if isHostname (name other).toList ∧ same other ∧ name other ∉ known then
              known ++ [name other]
            else known) known := by
      intro name same _ others
      induction others with
      | nil => exact fun _ h => h
      | cons other others ih =>
          intro known hknown
          apply ih
          beta_reduce
          by_cases hadd : isHostname (name other).toList ∧ same other ∧ name other ∉ known
          · rw [if_pos hadd, List.mem_append, List.mem_singleton, not_or]
            exact ⟨hknown, fun heq => ne_empty_of_isHostname hadd.1 (by rw [← heq]; rfl)⟩
          · rw [if_neg hadd]
            exact hknown
    exact hfold (fun other => if other.2.sni.getD "" ≠ "" then other.2.sni.getD "" else other.2.host)
      (fun other => address other.2 = address target) _ [] List.not_mem_nil

/-- The first names of a target are the primary one and the aliases. -/
theorem mem_initialSniNames {target : Target} {knownAliases : List String} {sni : Option String} :
    sni ∈ initialSniNames target knownAliases ↔
      sni = (if target.sni.getD "" ≠ "" then target.sni
        else if isHostname target.host.toList then some target.host else none) ∨
      sni ∈ knownAliases.map some := by
  unfold initialSniNames
  simp only
  generalize (if target.sni.getD "" ≠ "" then target.sni
    else if isHostname target.host.toList then some target.host else none) = primary
  have hfold : ∀ names : List (Option String), sni ∈ knownAliases.foldl
      (fun names known => if some known ∈ names then names else names ++ [some known]) names ↔
        sni ∈ names ∨ sni ∈ knownAliases.map some := by
    induction knownAliases with
    | nil => simp
    | cons known knownAliases ih =>
        intro names
        rw [List.foldl_cons, ih, List.map_cons, List.mem_cons]
        by_cases hmem : some known ∈ names
        · rw [if_pos hmem]
          constructor
          · rintro (h | h)
            · exact .inl h
            · exact .inr (.inr h)
          · rintro (h | rfl | h)
            · exact .inl h
            · exact .inl hmem
            · exact .inr h
        · rw [if_neg hmem, List.mem_append, List.mem_singleton, or_assoc]
  rw [hfold, List.mem_singleton]

theorem initialSniNames_ne_nil (target : Target) (knownAliases : List String) :
    initialSniNames target knownAliases ≠ [] :=
  List.ne_nil_of_mem (mem_initialSniNames.mpr (.inl rfl))

theorem initialSniNames_named {target : Target} {knownAliases : List String}
    (haliases : "" ∉ knownAliases) : ∀ sni ∈ initialSniNames target knownAliases, Named sni := by
  intro sni hmem heq
  rcases mem_initialSniNames.mp hmem with hprimary | hknown
  · split_ifs at hprimary with hsni hhost
    · rw [← hprimary, heq] at hsni
      exact hsni rfl
    · rw [heq] at hprimary
      cases hhost' : target.host.toList with
      | nil =>
          rw [hhost'] at hhost
          exact ne_empty_of_isHostname hhost rfl
      | cons c rest =>
          rw [← Option.some.inj hprimary] at hhost'
          cases hhost'
    · rw [heq] at hprimary
      cases hprimary
  · obtain ⟨known, hmem', rfl⟩ := List.mem_map.mp hknown
    exact haliases (Option.some.inj heq ▸ hmem')

/-! ## 2. What every turn keeps -/

def TlsScan.probedNames (s : TlsScan) : List (Option String) := s.probes.map Prod.fst

def TlsScan.results (s : TlsScan) : List TlsProbe := s.probes.map Prod.snd

namespace TlsEnvironment

section

variable [PyText] (env : TlsEnvironment)

/-- The names of a target, its aliases and the certificates of some probes. -/
def offeredNames (names : List (Option String)) (results : List TlsProbe) :
    List (Option String) :=
  names ++ (env.knownAliases ++ results.flatMap env.sans).map some

variable [Sha256] (tlsProbe : Nat → Option String → Except String TlsProbe)

/-- The invariant of the loop that starts with the given names. -/
structure Explores (names : List (Option String)) (s : TlsScan) : Prop where
  seen : ∀ key, key ∈ s.seenSni ↔ key ∈ s.probedNames.map sniKey
  nodup : s.probedNames.Nodup
  named : ∀ sni, sni ∈ s.pendingSni ∨ sni ∈ s.probedNames → Named sni
  offered : ∀ sni ∈ s.pendingSni, sni ∈ env.offeredNames names s.results
  /-- A probed name was offered before its probe. -/
  heard : ∀ n sni, s.probedNames[n]? = some sni → sni ∈ env.offeredNames names (s.results.take n)
  start : ∀ sni ∈ names, sni ∈ s.pendingSni ∨ sni ∈ s.probedNames
  complete : s.probes ≠ [] → ∀ sni ∈ env.offeredNames names s.results,
    sni ∈ s.pendingSni ∨ sni ∈ s.probedNames
  answered : ∀ n sni result, s.probes[n]? = some (sni, result) → tlsProbe n sni = .ok result
  candidates : s.candidates = s.results.flatMap env.candidatesOf

variable {env tlsProbe} {names : List (Option String)} {s t : TlsScan}

theorem scanTlsTurn_cases (env : TlsEnvironment)
    (tlsProbe : Nat → Option String → Except String TlsProbe) (s : TlsScan) :
    s.pendingSni = [] ∧ While.Stops (env.scanTlsTurn tlsProbe) s s ∨
      ∃ sni pendingSni, s.pendingSni = sni :: pendingSni ∧
        (sniKey sni ∈ s.seenSni ∧ While.Goes (env.scanTlsTurn tlsProbe) s { s with pendingSni } ∨
          sniKey sni ∉ s.seenSni ∧
            ((∃ error, tlsProbe s.probes.length sni = .error error ∧
                While.Raises (env.scanTlsTurn tlsProbe) s error) ∨
              ∃ result, tlsProbe s.probes.length sni = .ok result ∧
                While.Goes (env.scanTlsTurn tlsProbe) s
                  (env.answered s sni pendingSni result))) := by
  unfold While.Stops While.Goes While.Raises scanTlsTurn
  cases s.pendingSni with
  | nil => exact .inl ⟨rfl, rfl⟩
  | cons sni pendingSni =>
      refine .inr ⟨sni, pendingSni, rfl, ?_⟩
      simp only
      by_cases hseen : sniKey sni ∈ s.seenSni
      · exact .inl ⟨hseen, if_pos hseen⟩
      · rw [if_neg hseen]
        refine .inr ⟨hseen, ?_⟩
        cases tlsProbe s.probes.length sni with
        | error error => exact .inl ⟨error, rfl, rfl⟩
        | ok result => exact .inr ⟨result, rfl, rfl⟩

theorem goes_scanTlsTurn (h : While.Goes (env.scanTlsTurn tlsProbe) s t) :
    ∃ sni pendingSni, s.pendingSni = sni :: pendingSni ∧
      (sniKey sni ∈ s.seenSni ∧ t = { s with pendingSni } ∨
        sniKey sni ∉ s.seenSni ∧ ∃ result, tlsProbe s.probes.length sni = .ok result ∧
          t = env.answered s sni pendingSni result) := by
  rcases scanTlsTurn_cases env tlsProbe s with ⟨-, hstops⟩ | ⟨sni, pendingSni, hpending, hcase⟩
  · cases h.symm.trans hstops
  · refine ⟨sni, pendingSni, hpending, ?_⟩
    rcases hcase with ⟨hseen, hgoes⟩ | ⟨hseen, ⟨error, -, hraises⟩ | ⟨result, hresult, hgoes⟩⟩
    · cases h.symm.trans hgoes
      exact .inl ⟨hseen, rfl⟩
    · cases h.symm.trans hraises
    · cases h.symm.trans hgoes
      exact .inr ⟨hseen, result, hresult, rfl⟩

theorem pendingSni_of_stops (h : While.Stops (env.scanTlsTurn tlsProbe) s t) :
    s.pendingSni = [] ∧ t = s := by
  rcases scanTlsTurn_cases env tlsProbe s with
    ⟨hpending, hstops⟩ | ⟨sni, pendingSni, -, ⟨-, hgoes⟩ | ⟨-, ⟨error, -, hraises⟩ | ⟨result, -, hgoes⟩⟩⟩
  · cases h.symm.trans hstops
    exact ⟨hpending, rfl⟩
  · cases h.symm.trans hgoes
  · cases h.symm.trans hraises
  · cases h.symm.trans hgoes

theorem probe_of_raises {error : String} (h : While.Raises (env.scanTlsTurn tlsProbe) s error) :
    ∃ sni ∈ s.pendingSni, sniKey sni ∉ s.seenSni ∧ tlsProbe s.probes.length sni = .error error := by
  rcases scanTlsTurn_cases env tlsProbe s with
    ⟨-, hstops⟩ | ⟨sni, pendingSni, hpending, ⟨-, hgoes⟩ | ⟨hseen, ⟨other, hprobe, hraises⟩ |
      ⟨result, -, hgoes⟩⟩⟩
  · cases h.symm.trans hstops
  · cases h.symm.trans hgoes
  · cases h.symm.trans hraises
    exact ⟨sni, hpending ▸ List.mem_cons_self, hseen, hprobe⟩
  · cases h.symm.trans hgoes

theorem exists_scanTlsTurn (env : TlsEnvironment)
    (tlsProbe : Nat → Option String → Except String TlsProbe) (s : TlsScan) :
    ∃ outcome, env.scanTlsTurn tlsProbe s = some outcome := by
  rcases scanTlsTurn_cases env tlsProbe s with
    ⟨-, hstops⟩ | ⟨sni, pendingSni, -, ⟨-, hgoes⟩ | ⟨-, ⟨error, -, hraises⟩ | ⟨result, -, hgoes⟩⟩⟩
  · exact ⟨_, hstops⟩
  · exact ⟨_, hgoes⟩
  · exact ⟨_, hraises⟩
  · exact ⟨_, hgoes⟩

/-! ## 3. The invariant -/

omit [Sha256] in
theorem mem_offeredNames {results : List TlsProbe} {sni : Option String} :
    sni ∈ env.offeredNames names results ↔ sni ∈ names ∨ sni ∈ env.knownAliases.map some ∨
      ∃ result ∈ results, ∃ san ∈ env.sans result, sni = some san := by
  rw [offeredNames, List.mem_append, List.map_append, List.mem_append]
  apply or_congr_right
  apply or_congr_right
  rw [List.mem_map]
  constructor
  · rintro ⟨san, hsan, rfl⟩
    obtain ⟨result, hresult, hsan⟩ := List.mem_flatMap.mp hsan
    exact ⟨result, hresult, san, hsan, rfl⟩
  · rintro ⟨result, hresult, san, hsan, rfl⟩
    exact ⟨san, List.mem_flatMap.mpr ⟨result, hresult, hsan⟩, rfl⟩

omit [Sha256] in
theorem offeredNames_mono {results more : List TlsProbe} (h : results ⊆ more)
    {sni : Option String} (hmem : sni ∈ env.offeredNames names results) :
    sni ∈ env.offeredNames names more := by
  rw [mem_offeredNames] at hmem ⊢
  rcases hmem with hmem | hmem | ⟨result, hresult, hmem⟩
  · exact .inl hmem
  · exact .inr (.inl hmem)
  · exact .inr (.inr ⟨result, h hresult, hmem⟩)

omit [PyText] [Sha256] in
theorem getElem?_concat {α : Type} {xs : List α} {x y : α} {n : Nat}
    (h : (xs ++ [x])[n]? = some y) : n < xs.length ∧ xs[n]? = some y ∨ n = xs.length ∧ x = y := by
  rw [List.getElem?_append] at h
  by_cases hn : n < xs.length
  · rw [if_pos hn] at h
    exact .inl ⟨hn, h⟩
  · rw [if_neg hn, List.getElem?_singleton] at h
    by_cases hzero : n - xs.length = 0
    · rw [if_pos hzero, Option.some.injEq] at h
      exact .inr ⟨by omega, h⟩
    · rw [if_neg hzero] at h
      cases h

/-- What is pending after a probe: what was, and the new names that have not been probed. -/
theorem mem_pendingSni_answered {sni other : Option String} {pendingSni : List (Option String)}
    {result : TlsProbe} :
    other ∈ (env.answered s sni pendingSni result).pendingSni ↔ other ∈ pendingSni ∨
      ∃ name, (name ∈ env.sans result ∨ name ∈ env.knownAliases) ∧
        name ∉ sniKey sni :: s.seenSni ∧ other = some name := by
  simp only [answered, mem_appendPending]
  constructor
  · rintro ((h | ⟨name, hname, h⟩) | ⟨name, hname, h⟩)
    · exact .inl h
    · exact .inr ⟨name, .inl hname, h⟩
    · exact .inr ⟨name, .inr hname, h⟩
  · rintro (h | ⟨name, hname | hname, h⟩)
    · exact .inl (.inl h)
    · exact .inl (.inr ⟨name, hname, h⟩)
    · exact .inr ⟨name, hname, h⟩

theorem probedNames_answered (env : TlsEnvironment) (s : TlsScan) (sni : Option String)
    (pendingSni : List (Option String)) (result : TlsProbe) :
    (env.answered s sni pendingSni result).probedNames = s.probedNames ++ [sni] :=
  List.map_append

theorem results_answered (env : TlsEnvironment) (s : TlsScan) (sni : Option String)
    (pendingSni : List (Option String)) (result : TlsProbe) :
    (env.answered s sni pendingSni result).results = s.results ++ [result] :=
  List.map_append

theorem Explores.mem_probedNames (h : Explores env tlsProbe names s) {sni : Option String}
    (hnamed : Named sni) : sniKey sni ∈ s.seenSni ↔ sni ∈ s.probedNames := by
  rw [h.seen, List.mem_map]
  constructor
  · rintro ⟨other, hother, heq⟩
    rwa [sniKey_injective (h.named other (.inr hother)) hnamed heq] at hother
  · exact fun hmem => ⟨sni, hmem, rfl⟩

theorem Explores.init (names : List (Option String)) (hnames : ∀ sni ∈ names, Named sni) :
    Explores env tlsProbe names { pendingSni := names } where
  seen key := iff_of_false List.not_mem_nil List.not_mem_nil
  nodup := List.nodup_nil
  named sni h := h.elim (hnames sni) fun hmem => (List.not_mem_nil hmem).elim
  offered sni h := mem_offeredNames.mpr (.inl h)
  heard n sni h := by cases h
  start sni h := .inl h
  complete h := absurd rfl h
  answered n sni result h := by cases h
  candidates := rfl

theorem Explores.skip (h : Explores env tlsProbe names s) {sni : Option String}
    {pendingSni : List (Option String)} (hpending : s.pendingSni = sni :: pendingSni)
    (hseen : sniKey sni ∈ s.seenSni) : Explores env tlsProbe names { s with pendingSni } := by
  have hsni : sni ∈ s.pendingSni := hpending ▸ List.mem_cons_self
  have htail : ∀ other ∈ pendingSni, other ∈ s.pendingSni :=
    fun other hother => hpending ▸ List.mem_cons_of_mem sni hother
  have hprobed := (h.mem_probedNames (h.named sni (.inl hsni))).mp hseen
  have hkept : ∀ other, other ∈ s.pendingSni ∨ other ∈ s.probedNames →
      other ∈ pendingSni ∨ other ∈ s.probedNames := by
    rintro other (hother | hother)
    · rw [hpending] at hother
      rcases List.mem_cons.mp hother with rfl | hother
      · exact .inr hprobed
      · exact .inl hother
    · exact .inr hother
  exact
    { seen := h.seen
      nodup := h.nodup
      named := fun other hother => h.named other (hother.imp_left (htail other))
      offered := fun other hother => h.offered other (htail other hother)
      heard := h.heard
      start := fun other hother => hkept other (h.start other hother)
      complete := fun hne other hother => hkept other (h.complete hne other hother)
      answered := h.answered
      candidates := h.candidates }

omit [Sha256] in
theorem ne_empty_of_offered {result : TlsProbe} {name : String}
    (h : name ∈ env.sans result ∨ name ∈ env.knownAliases) : name ≠ "" := by
  rintro rfl
  rcases h with hmem | hmem
  · exact subjectAltNamesFromChain_ne_empty env.certificates result.derChain hmem
  · exact env.knownAliases_ne_empty hmem

section Answer

variable {sni : Option String} {pendingSni : List (Option String)} {result : TlsProbe}
  (h : Explores env tlsProbe names s) (hpending : s.pendingSni = sni :: pendingSni)

include h hpending

omit hpending in
theorem Explores.seen_answered (key : String) :
    key ∈ (env.answered s sni pendingSni result).seenSni ↔
      key ∈ (env.answered s sni pendingSni result).probedNames.map sniKey := by
  rw [probedNames_answered, List.map_append, List.mem_append, ← h.seen, List.map_singleton,
    List.mem_singleton, or_comm]
  exact List.mem_cons

theorem Explores.named_answered (other : Option String)
    (hother : other ∈ (env.answered s sni pendingSni result).pendingSni ∨
      other ∈ (env.answered s sni pendingSni result).probedNames) : Named other := by
  rw [probedNames_answered] at hother
  rcases hother with hother | hother
  · rcases mem_pendingSni_answered.mp hother with hother | ⟨name, hmem, -, rfl⟩
    · exact h.named other (.inl (hpending ▸ List.mem_cons_of_mem sni hother))
    · exact fun heq => ne_empty_of_offered hmem (Option.some.inj heq)
  · rcases List.mem_append.mp hother with hother | hother
    · exact h.named other (.inr hother)
    · rw [List.mem_singleton.mp hother]
      exact h.named sni (.inl (hpending ▸ List.mem_cons_self))

omit h in
theorem kept_answered (other : Option String)
    (hother : other ∈ s.pendingSni ∨ other ∈ s.probedNames) :
    other ∈ (env.answered s sni pendingSni result).pendingSni ∨
      other ∈ (env.answered s sni pendingSni result).probedNames := by
  rw [probedNames_answered, List.mem_append, List.mem_singleton]
  rcases hother with hother | hother
  · rw [hpending] at hother
    rcases List.mem_cons.mp hother with rfl | hother
    · exact .inr (.inr rfl)
    · exact .inl (mem_pendingSni_answered.mpr (.inl hother))
  · exact .inr (.inl hother)

/-- What the answer offers is pending or has been probed. -/
theorem Explores.offer_answered {name : String}
    (hmem : name ∈ env.sans result ∨ name ∈ env.knownAliases) :
    some name ∈ (env.answered s sni pendingSni result).pendingSni ∨
      some name ∈ (env.answered s sni pendingSni result).probedNames := by
  by_cases hprobed : name ∈ sniKey sni :: s.seenSni
  · right
    obtain ⟨other, hother, heq⟩ := List.mem_map.mp ((h.seen_answered name).mp hprobed)
    have hnamed : Named (some name) := fun heq => ne_empty_of_offered hmem (Option.some.inj heq)
    have hkey : sniKey other = sniKey (some name) := heq
    rwa [sniKey_injective (h.named_answered hpending other (.inr hother)) hnamed hkey] at hother
  · exact .inl (mem_pendingSni_answered.mpr (.inr ⟨name, hmem, hprobed, rfl⟩))

theorem Explores.offered_answered (other : Option String)
    (hother : other ∈ (env.answered s sni pendingSni result).pendingSni) :
    other ∈ env.offeredNames names (env.answered s sni pendingSni result).results := by
  rw [results_answered]
  rcases mem_pendingSni_answered.mp hother with hother | ⟨name, hsan | halias, -, rfl⟩
  · exact offeredNames_mono (List.subset_append_left _ _)
      (h.offered other (hpending ▸ List.mem_cons_of_mem sni hother))
  · exact mem_offeredNames.mpr (.inr (.inr
      ⟨result, List.mem_append_right _ List.mem_cons_self, name, hsan, rfl⟩))
  · exact mem_offeredNames.mpr (.inr (.inl (List.mem_map_of_mem halias)))

theorem Explores.heard_answered (n : Nat) (other : Option String)
    (hother : (env.answered s sni pendingSni result).probedNames[n]? = some other) :
    other ∈ env.offeredNames names
      ((env.answered s sni pendingSni result).results.take n) := by
  have hlength : s.results.length = s.probedNames.length := by
    rw [TlsScan.results, TlsScan.probedNames, List.length_map, List.length_map]
  rw [probedNames_answered] at hother
  rw [results_answered]
  rcases getElem?_concat hother with ⟨hn, hold⟩ | ⟨hn, hlast⟩
  · rw [List.take_append_of_le_length (by omega)]
    exact h.heard n other hold
  · rw [List.take_append_of_le_length (by omega), List.take_of_length_le (by omega), ← hlast]
    exact h.offered sni (hpending ▸ List.mem_cons_self)

theorem Explores.complete_answered (other : Option String)
    (hother : other ∈ env.offeredNames names (env.answered s sni pendingSni result).results) :
    other ∈ (env.answered s sni pendingSni result).pendingSni ∨
      other ∈ (env.answered s sni pendingSni result).probedNames := by
  rw [results_answered, mem_offeredNames] at hother
  rcases hother with hother | halias | ⟨answer, hanswer, san, hsan, rfl⟩
  · exact kept_answered hpending other (h.start other hother)
  · obtain ⟨name, hname, rfl⟩ := List.mem_map.mp halias
    exact h.offer_answered hpending (.inr hname)
  · rcases List.mem_append.mp hanswer with hanswer | hanswer
    · have hne : s.probes ≠ [] := by
        intro hnil
        rw [TlsScan.results, hnil] at hanswer
        cases hanswer
      exact kept_answered hpending _ (h.complete hne _ (mem_offeredNames.mpr (.inr (.inr
        ⟨answer, hanswer, san, hsan, rfl⟩))))
    · exact h.offer_answered hpending (.inl (List.mem_singleton.mp hanswer ▸ hsan))

/-- A name that has not been probed is probed, and its answer brings names. -/
theorem Explores.answer (hseen : sniKey sni ∉ s.seenSni)
    (hresult : tlsProbe s.probes.length sni = .ok result) :
    Explores env tlsProbe names (env.answered s sni pendingSni result) where
  seen := h.seen_answered
  nodup := by
    have hnew : sni ∉ s.probedNames :=
      mt (h.mem_probedNames (h.named sni (.inl (hpending ▸ List.mem_cons_self)))).mpr hseen
    rw [probedNames_answered, List.nodup_append]
    refine ⟨h.nodup, List.nodup_singleton sni, ?_⟩
    intro other hother other' hother' heq
    rw [heq, List.mem_singleton.mp hother'] at hother
    exact hnew hother
  named := h.named_answered hpending
  offered := h.offered_answered hpending
  heard := h.heard_answered hpending
  start := fun other hother => kept_answered hpending other (h.start other hother)
  complete := fun _ => h.complete_answered hpending
  answered := by
    intro n other answer hprobe
    rcases getElem?_concat hprobe with ⟨-, hold⟩ | ⟨hn, hlast⟩
    · exact h.answered n other answer hold
    · cases hlast
      rw [hn]
      exact hresult
  candidates := by
    rw [results_answered, List.flatMap_append, ← h.candidates, List.flatMap_singleton]
    rfl

end Answer

/-- The invariant holds in every state of the loop. -/
theorem Explores.of_reaches (hnames : ∀ sni ∈ names, Named sni)
    (h : While.Reaches (env.scanTlsTurn tlsProbe) { pendingSni := names } s) :
    Explores env tlsProbe names s := by
  refine While.Reaches.invariant (fun s next hs hgoes => ?_) h (.init names hnames)
  obtain ⟨sni, pendingSni, hpending, ⟨hseen, rfl⟩ | ⟨hseen, result, hresult, rfl⟩⟩ :=
    goes_scanTlsTurn hgoes
  · exact hs.skip hpending hseen
  · exact hs.answer hpending hseen hresult

/-- With a bound on its probes the loop ends: a turn without a probe shortens the queue. -/
theorem ends_of_bound {bound : Nat}
    (h : ∀ t, While.Reaches (env.scanTlsTurn tlsProbe) s t → t.probes.length ≤ bound) :
    While.Ends (env.scanTlsTurn tlsProbe) s := by
  refine While.ends_of_measures (fun t => bound - t.probes.length) (fun t => t.pendingSni.length)
    (fun t next ht hgoes => ⟨ht.tail hgoes, ?_⟩) (fun t _ => exists_scanTlsTurn env tlsProbe t)
    (Relation.ReflTransGen.refl : While.Reaches (env.scanTlsTurn tlsProbe) s s)
  have hnext := h next (ht.tail hgoes)
  obtain ⟨sni, pendingSni, hpending, ⟨-, rfl⟩ | ⟨-, result, -, rfl⟩⟩ := goes_scanTlsTurn hgoes
  · refine .inr ⟨rfl, ?_⟩
    rw [hpending]
    exact Nat.lt_succ_self _
  · have hlength : (env.answered t sni pendingSni result).probes.length = t.probes.length + 1 :=
      List.length_append
    left
    omega

omit [PyText] [Sha256] in
theorem length_probedNames (s : TlsScan) : s.probedNames.length = s.probes.length :=
  List.length_map _

omit [PyText] [Sha256] in
theorem toFinset_subset {names more : List (Option String)} (h : names ⊆ more) :
    names.toFinset ⊆ more.toFinset :=
  fun _ hmem => List.mem_toFinset.mpr (h (List.mem_toFinset.mp hmem))

/-- A probe needs more names than answers: the names probed before it and its own. -/
theorem Explores.lt_card (h : Explores env tlsProbe names s) {n : Nat} (hn : n < s.probes.length) :
    n < (env.offeredNames names (s.results.take n)).toFinset.card := by
  rw [← length_probedNames] at hn
  have hsub : s.probedNames.take (n + 1) ⊆ env.offeredNames names (s.results.take n) := by
    intro sni hsni
    obtain ⟨m, hm, heq⟩ := List.mem_iff_getElem.mp hsni
    rw [List.length_take] at hm
    rw [List.getElem_take] at heq
    have hheard := h.heard m sni (List.getElem?_eq_some_iff.mpr ⟨by omega, heq⟩)
    exact offeredNames_mono (List.take_subset_take_left _ (by omega)) hheard
  have hnodup : (s.probedNames.take (n + 1)).Nodup := h.nodup.sublist (List.take_sublist _ _)
  calc n < (s.probedNames.take (n + 1)).length := by rw [List.length_take]; omega
    _ = (s.probedNames.take (n + 1)).toFinset.card := (List.toFinset_card_of_nodup hnodup).symm
    _ ≤ _ := Finset.card_le_card (toFinset_subset hsub)

/-- Where nothing is pending, every name has been probed. -/
theorem Explores.card_le (h : Explores env tlsProbe names s) (hnames : names ≠ [])
    (hpending : s.pendingSni = []) :
    (env.offeredNames names s.results).toFinset.card ≤ s.probes.length := by
  have hprobed : ∀ sni, sni ∈ s.pendingSni ∨ sni ∈ s.probedNames → sni ∈ s.probedNames := by
    rintro sni (hsni | hsni)
    · rw [hpending] at hsni
      cases hsni
    · exact hsni
  obtain ⟨first, hfirst⟩ := List.exists_mem_of_ne_nil names hnames
  have hne : s.probes ≠ [] := by
    intro hnil
    have hmem := hprobed first (h.start first hfirst)
    rw [TlsScan.probedNames, hnil] at hmem
    cases hmem
  have hsub : env.offeredNames names s.results ⊆ s.probedNames :=
    fun sni hsni => hprobed sni (h.complete hne sni hsni)
  rw [← length_probedNames, ← List.toFinset_card_of_nodup h.nodup]
  exact Finset.card_le_card (toFinset_subset hsub)

end

end TlsEnvironment

end CryptoScanner.Scan
