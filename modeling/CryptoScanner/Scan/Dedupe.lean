import CryptoScanner.Scan.BomRefs
import CryptoScanner.Scan.Provenance

/-!
# What deduplication keeps

The dedupe key of a candidate is read from its metadata, and a merge rewrites the metadata of the
asset it merges into.  The fingerprint of this asset wins, so its key stays, unless it has none and
the candidate has one.  Both kinds of keys are texts, and one can be spelled like the other.
-/

namespace CryptoScanner.Scan

open Library Python

/-! ## 1. The key of a merge -/

/-- A merge changes no entry of the first candidate but the mark and the three lists. -/
theorem metadataGet_merge_of_not_mem {existing : AssetCandidate} (hexisting : WellFormed existing)
    (incoming : AssetCandidate) {key : String}
    (hkey : key ∉ ["merged", "scanner", "source_paths", "source_bom_refs", "source_scanners"]) :
    metadataGet (mergeCandidates existing incoming).metadata key =
      if existing.metadata.lookup key = none then metadataGet incoming.metadata key
      else metadataGet existing.metadata key := by
  simp only [List.mem_cons, List.not_mem_nil, or_false, not_or] at hkey
  obtain ⟨hmerged, hscanner, hpaths, hbomRefs, hscanners⟩ := hkey
  rw [metadataGet_merge]
  simp only [hmerged, hscanner, hpaths, hbomRefs, hscanners, false_and, if_false]
  exact lookup_update_metadata hexisting incoming key

theorem fingerprint_merge {existing : AssetCandidate} (hexisting : WellFormed existing)
    (incoming : AssetCandidate) :
    fingerprint (mergeCandidates existing incoming) =
      if existing.metadata.lookup "fingerprint_sha256" = none then fingerprint incoming
      else fingerprint existing :=
  metadataGet_merge_of_not_mem hexisting incoming (by decide)

theorem fingerprint_merge_of_fingerprinted {existing : AssetCandidate}
    (hexisting : WellFormed existing) (incoming : AssetCandidate)
    (h : Fingerprinted existing) :
    fingerprint (mergeCandidates existing incoming) = fingerprint existing := by
  have hsome : existing.metadata.lookup "fingerprint_sha256" ≠ none := by
    intro hnone
    rw [Fingerprinted, fingerprint, metadataGet, hnone] at h
    cases h
  rw [fingerprint_merge hexisting, if_neg hsome]

/-- A merge gives a fingerprint to an asset without one only if the candidate has one. -/
theorem fingerprinted_merge {existing : AssetCandidate} (hexisting : WellFormed existing)
    {incoming : AssetCandidate} (h : Fingerprinted (mergeCandidates existing incoming)) :
    Fingerprinted existing ∨ Fingerprinted incoming := by
  rw [Fingerprinted, fingerprint_merge hexisting] at h
  by_cases hnone : existing.metadata.lookup "fingerprint_sha256" = none
  · rw [if_pos hnone] at h
    exact .inr h
  · rw [if_neg hnone] at h
    exact .inl h

structure KeepsKey (existing incoming : AssetCandidate) : Prop where
  wellFormed : WellFormed existing
  incoming_wellFormed : WellFormed incoming
  fingerprinted : Fingerprinted incoming → Fingerprinted existing

section

variable [PyText] (floatRepr : PyFloat → List Char)

theorem KeepsKey.dedupeKey_merge {existing incoming : AssetCandidate}
    (h : KeepsKey existing incoming) :
    dedupeKey floatRepr (mergeCandidates existing incoming) = dedupeKey floatRepr existing := by
  by_cases hfingerprinted : Fingerprinted existing
  · have hsame := fingerprint_merge_of_fingerprinted h.wellFormed incoming hfingerprinted
    have hmerged : Fingerprinted (mergeCandidates existing incoming) := by
      rw [Fingerprinted, hsame]
      exact hfingerprinted
    rw [dedupeKey_of_fingerprinted floatRepr hmerged,
      dedupeKey_of_fingerprinted floatRepr hfingerprinted, hsame]
    rfl
  · have hmerged : ¬ Fingerprinted (mergeCandidates existing incoming) := by
      intro hmerged
      rcases fingerprinted_merge h.wellFormed hmerged with hfirst | hsecond
      · exact hfingerprinted hfirst
      · exact hfingerprinted (h.fingerprinted hsecond)
    rw [dedupeKey_of_not_fingerprinted floatRepr hmerged,
      dedupeKey_of_not_fingerprinted floatRepr hfingerprinted]
    rfl

omit [PyText] in
theorem KeepsKey.merge {existing incoming next : AssetCandidate} (h : KeepsKey existing incoming)
    (hnext : KeepsKey existing next) : KeepsKey (mergeCandidates existing incoming) next where
  wellFormed := mergeCandidates_wellFormed h.incoming_wellFormed
  incoming_wellFormed := hnext.incoming_wellFormed
  fingerprinted hfingerprinted := by
    have hexisting := hnext.fingerprinted hfingerprinted
    rw [Fingerprinted, fingerprint_merge_of_fingerprinted h.wellFormed incoming hexisting]
    exact hexisting

/-! ## 2. The loop -/

/-- No candidate with a fingerprint has the key of an earlier candidate without one. -/
def KeysApart (candidates : List AssetCandidate) : Prop :=
  candidates.Pairwise fun c d =>
    dedupeKey floatRepr c = dedupeKey floatRepr d → Fingerprinted d → Fingerprinted c

instance (candidates : List AssetCandidate) : Decidable (KeysApart floatRepr candidates) :=
  inferInstanceAs (Decidable (List.Pairwise _ _))

theorem KeysApart.keepsKey {candidates : List AssetCandidate}
    (hapart : KeysApart floatRepr candidates)
    (hwellFormed : ∀ candidate ∈ candidates, WellFormed candidate) :
    candidates.Pairwise fun c d =>
      dedupeKey floatRepr c = dedupeKey floatRepr d → KeepsKey c d := by
  apply List.Pairwise.imp_of_mem _ hapart
  intro c d hc hd hpair hkey
  exact ⟨hwellFormed c hc, hwellFormed d hd, hpair hkey⟩

/-- The keys of the output are those that the loop collects under. -/
theorem map_dedupeKey_dedupeCandidates {candidates : List AssetCandidate}
    (hkeeps : candidates.Pairwise fun c d =>
      dedupeKey floatRepr c = dedupeKey floatRepr d → KeepsKey c d) :
    (dedupeCandidates floatRepr candidates).map (dedupeKey floatRepr) =
      (openers floatRepr candidates).map (dedupeKey floatRepr) := by
  rw [dedupeCandidates, Dict.map_key_collect (dedupeKey floatRepr) mergeCandidates
    (fun _ _ _ h => KeepsKey.dedupeKey_merge floatRepr h) (fun _ _ _ => KeepsKey.merge) hkeeps,
    Dict.keys_collect]
  rfl

/-- What a run of the deduplication keeps. -/
structure DedupeStructure (candidates : List AssetCandidate) : Prop where
  nodup : ((dedupeCandidates floatRepr candidates).map (dedupeKey floatRepr)).Nodup
  mem_iff : ∀ key, key ∈ (dedupeCandidates floatRepr candidates).map (dedupeKey floatRepr) ↔
    key ∈ candidates.map (dedupeKey floatRepr)
  ordered : ((dedupeCandidates floatRepr candidates).map (dedupeKey floatRepr)).Pairwise
    fun a b => (candidates.map (dedupeKey floatRepr)).idxOf a <
      (candidates.map (dedupeKey floatRepr)).idxOf b
  /-- Every merge of the loop, after any of the candidates. -/
  merge_key : ∀ before incoming after existing, candidates = before ++ incoming :: after →
    Dict.get? (Dict.collect (dedupeKey floatRepr) mergeCandidates before)
      (dedupeKey floatRepr incoming) = some existing →
    dedupeKey floatRepr (mergeCandidates existing incoming) = dedupeKey floatRepr existing
  idempotent : dedupeCandidates floatRepr (dedupeCandidates floatRepr candidates) =
    dedupeCandidates floatRepr candidates

theorem KeysApart.dedupeStructure {candidates : List AssetCandidate}
    (hapart : KeysApart floatRepr candidates)
    (hwellFormed : ∀ candidate ∈ candidates, WellFormed candidate) :
    DedupeStructure floatRepr candidates := by
  have hkeeps := hapart.keepsKey floatRepr hwellFormed
  have hkeys := map_dedupeKey_dedupeCandidates floatRepr hkeeps
  have hnodup : ((dedupeCandidates floatRepr candidates).map (dedupeKey floatRepr)).Nodup := by
    rw [hkeys, List.Nodup, List.pairwise_map]
    exact (Dict.firsts_pairwise (dedupeKey floatRepr) candidates []).2
  constructor
  case nodup => exact hnodup
  case mem_iff =>
    intro key
    rw [hkeys, openers, Dict.mem_keys_firsts]
    exact and_iff_left List.not_mem_nil
  case ordered =>
    rw [hkeys]
    exact Dict.firsts_idxOf (dedupeKey floatRepr) candidates []
  case merge_key =>
    intro before incoming after existing hsplit hexisting
    rw [hsplit] at hkeeps
    exact Dict.key_merge_of_collect (dedupeKey floatRepr) mergeCandidates
      (fun _ _ _ h => KeepsKey.dedupeKey_merge floatRepr h) (fun _ _ _ => KeepsKey.merge) hkeeps
      hexisting
  case idempotent =>
    -- the second run meets every key once
    rw [dedupeCandidates, Dict.collect_of_nodup _ _ hnodup, List.map_map]
    exact List.map_id _

theorem dedupeCandidates_structure (candidates : List AssetCandidate)
    (hwellFormed : ∀ candidate ∈ candidates, WellFormed candidate)
    (hapart : KeysApart floatRepr candidates) : DedupeStructure floatRepr candidates :=
  hapart.dedupeStructure floatRepr hwellFormed

end

/-- A candidate of a renewal, with the given entries of its metadata. -/
def renewalCandidate (assetType bomRef : String) (metadata : List (String × Json)) :
    AssetCandidate where
  targetId := 0
  scannerKind := "network".toList
  name := "web.crt".toList
  assetType := assetType.toList
  algorithm := "RSA-2048".toList
  algorithmFamily := "RSA".toList
  bomRef := bomRef.toList
  metadata := metadata

/-- A certificate spelled in two ways, around a reference without a fingerprint. -/
def spelledTwice : List AssetCandidate :=
  [renewalCandidate "certificate" "network:a" [("fingerprint_sha256", .str "AB")],
    renewalCandidate "protocol" "network:b" [("fingerprint_sha256", .str "")],
    renewalCandidate "certificate" "agent:a" [("fingerprint_sha256", .str "ab")]]

theorem spelledTwice_structure : letI := asciiText
    DedupeStructure (fun _ => []) spelledTwice :=
  letI := asciiText
  dedupeCandidates_structure (fun _ => []) spelledTwice (by decide +kernel) (by decide +kernel)

/-- A reference that is spelled like the fingerprint key of the next candidate. -/
def spelledAlike : List AssetCandidate :=
  [renewalCandidate "certificate" "fingerprint:ab" [],
    renewalCandidate "bom_ref" "network:a" [("fingerprint_sha256", .str "ab")]]

/-- The merge gives the asset a fingerprint, and with it another key. -/
theorem spelledAlike_changes_key : letI := asciiText
    (∀ candidate ∈ spelledAlike, WellFormed candidate) ∧
      ¬ DedupeStructure (fun _ => []) spelledAlike := by
  let := asciiText
  refine ⟨by decide +kernel, fun h => ?_⟩
  have hkey := (h.mem_iff "certificate:fingerprint:ab".toList).mp (by decide +kernel)
  exact absurd hkey (by decide +kernel)

/-! ## 3. The candidates of the scanners -/

section

variable [PyText] (floatRepr : PyFloat → List Char)

omit [PyText] in
theorem takeWhile_colon {head : List Char} (tail : List Char) (h : ':' ∉ head) :
    (head ++ ':' :: tail).takeWhile (· ≠ ':') = head := by
  have hhead : ∀ c ∈ head, decide (c ≠ ':') = true := by
    intro c hc
    exact decide_eq_true fun heq => h (heq ▸ hc)
  rw [List.takeWhile_append_of_pos hhead, List.takeWhile_cons_of_neg (by decide), List.append_nil]

/-- A fingerprint key of a plain asset type is no key of a reference. -/
theorem fingerprintKey_ne_bomRefKey {c d : AssetCandidate} (hcolon : ':' ∉ d.assetType)
    (htype : d.assetType ≠ "bom_ref".toList) (hc : ¬ Fingerprinted c) (hd : Fingerprinted d) :
    dedupeKey floatRepr c ≠ dedupeKey floatRepr d := by
  intro h
  rw [dedupeKey_of_not_fingerprinted floatRepr hc, dedupeKey_of_fingerprinted floatRepr hd,
    List.append_assoc] at h
  have htypes := congrArg (List.takeWhile (· ≠ ':')) h
  have hcolon' : ':' ∉ "bom_ref".toList := by decide
  have hleft : ("bom_ref:".toList ++ c.bomRef).takeWhile (· ≠ ':') = "bom_ref".toList :=
    takeWhile_colon c.bomRef hcolon'
  have hright := takeWhile_colon ("fingerprint:".toList ++
    lower ((fingerprint d).pyStr floatRepr)) hcolon
  rw [hleft] at htypes
  exact htype (htypes.trans hright).symm

theorem NetworkCandidate.scannerKind_eq [Sha256] {candidate : AssetCandidate}
    (h : NetworkCandidate floatRepr candidate) : candidate.scannerKind = "network".toList := by
  cases h with
  | readiness targetId target sni metadata candidate hmem =>
      obtain ⟨role, assetType, refKind, title, pqcRole, algorithm, source, heq, -⟩ :=
        readiness_cases hmem
      rw [heq]
      rfl
  | _ => rfl

/-- The asset types of the scanners' candidates with a fingerprint. -/
theorem ScannerCandidate.assetType_plain [Sha256] {candidate : AssetCandidate}
    (h : ScannerCandidate floatRepr candidate) (hfingerprinted : Fingerprinted candidate) :
    ':' ∉ candidate.assetType ∧ candidate.assetType ≠ "bom_ref".toList := by
  cases h with
  | network h =>
      cases h.refShape with
      | digest head tail hhead href htail hplain => exact absurd hfingerprinted hplain
      | certificate source label chainIndex digest hdigest hmetadata htype =>
          rw [htype]
          decide
      | agent scanner tail hscanner hkind =>
          have hnetwork : ∀ scanner ∈ typeScannerKind.map Prod.snd,
              scanner.toList ≠ "network".toList := by decide
          exact absurd (hkind.symm.trans h.scannerKind_eq) (hnetwork scanner hscanner)
  | agent targetId target findings selectedScanners h =>
      obtain ⟨finding, scanner, algorithm, -, rfl⟩ := mem_mapAgentFindings floatRepr h
      have hplain : ∀ row ∈ ("", "crypto") :: typeAssetType,
          ':' ∉ row.2.toList ∧ row.2.toList ≠ "bom_ref".toList := by decide
      simp only [candidateForFinding]
      generalize String.ofList (finding.text floatRepr "type" "agent_finding".toList) = findingType
      cases hlookup : typeAssetType.lookup findingType with
      | none => exact hplain ("", "crypto") List.mem_cons_self
      | some assetType =>
          obtain ⟨before, after, hsplit, -⟩ := List.lookup_eq_some_iff.mp hlookup
          apply hplain (findingType, assetType)
          rw [hsplit]
          exact List.mem_cons_of_mem _ (List.mem_append_right before List.mem_cons_self)

/-- The candidates of a job have their keys apart, in any order. -/
theorem ScannerCandidate.keysApart [Sha256] {candidates : List AssetCandidate}
    (h : ∀ candidate ∈ candidates, ScannerCandidate floatRepr candidate) :
    KeysApart floatRepr candidates := by
  apply List.Pairwise.imp_of_mem _ (List.pairwise_of_forall fun _ _ => trivial)
  intro c d hc hd _ hkey hfingerprinted
  by_contra hplain
  obtain ⟨hcolon, htype⟩ := (h d hd).assetType_plain floatRepr hfingerprinted
  exact fingerprintKey_ne_bomRefKey floatRepr hcolon htype hplain hfingerprinted hkey

/-- So the structure is that of every job, in whatever order its candidates come. -/
theorem ScannerCandidate.dedupeStructure [Sha256] {candidates permuted : List AssetCandidate}
    (h : ∀ candidate ∈ candidates, ScannerCandidate floatRepr candidate)
    (hwellFormed : ∀ candidate ∈ candidates, WellFormed candidate)
    (hperm : permuted.Perm candidates) : DedupeStructure floatRepr permuted := by
  have hapart := ScannerCandidate.keysApart floatRepr fun candidate hmem =>
    h candidate (hperm.mem_iff.mp hmem)
  exact hapart.dedupeStructure floatRepr fun candidate hmem =>
    hwellFormed candidate (hperm.mem_iff.mp hmem)

end

end CryptoScanner.Scan
