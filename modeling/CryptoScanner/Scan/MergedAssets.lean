import Mathlib.Data.List.Dedup
import CryptoScanner.Scan.BomRefs
import CryptoScanner.Scan.Provenance

/-!
# What merged assets stand for

The first candidate of a dedupe key gives the merged asset its target, and every entry of its
metadata that it has.  Targets of later candidates and their usage are lost with them.
-/

namespace CryptoScanner.Scan

open Library Python

section

variable [PyText] (floatRepr : PyFloat → List Char)

/-! ## 1. Targets -/

def storedTargets (snapshotId : Id) (candidates : List AssetCandidate) : List Id :=
  ((dedupeCandidates floatRepr candidates).map (assetRow snapshotId)).filterMap Asset.target

theorem dedupeCandidates_targetIds (candidates : List AssetCandidate) :
    (dedupeCandidates floatRepr candidates).map AssetCandidate.targetId =
      (openers floatRepr candidates).map AssetCandidate.targetId := by
  have hcollect := Dict.collect_map (dedupeKey floatRepr) mergeCandidates
    (p := AssetCandidate.targetId) (fun _ _ => rfl) candidates
  have hsnd := congrArg (List.map Prod.snd) hcollect
  rw [List.map_map, List.map_map] at hsnd
  rw [dedupeCandidates, List.map_map]
  exact hsnd

theorem storedTargets_eq (snapshotId : Id) (candidates : List AssetCandidate) :
    storedTargets floatRepr snapshotId candidates =
      (openers floatRepr candidates).map AssetCandidate.targetId := by
  rw [← dedupeCandidates_targetIds, storedTargets, List.filterMap_map]
  exact congrFun (List.filterMap_eq_map (f := AssetCandidate.targetId)) _

/-- The rows of a snapshot represent all targets of the candidates exactly if every target has a
candidate that is the first with its dedupe key. -/
theorem targets_kept_iff (snapshotId : Id) (candidates : List AssetCandidate) :
    ((∀ targetId, targetId ∈ storedTargets floatRepr snapshotId candidates ↔
        targetId ∈ candidates.map AssetCandidate.targetId) ∧
      (snapshotSummary (dedupeCandidates floatRepr candidates)).targetCount =
        (candidates.map AssetCandidate.targetId).dedup.length) ↔
      ∀ candidate ∈ candidates, ∃ opener ∈ openers floatRepr candidates,
        opener.targetId = candidate.targetId := by
  have hopeners : ∀ opener ∈ openers floatRepr candidates, opener ∈ candidates :=
    fun opener h => Dict.mem_of_mem_firsts (dedupeKey floatRepr) h
  rw [storedTargets_eq]
  constructor
  · rintro ⟨hmem, -⟩ candidate hcandidate
    have hkept := (hmem candidate.targetId).mpr (List.mem_map_of_mem hcandidate)
    exact List.mem_map.mp hkept
  · intro h
    have hmem : ∀ targetId, targetId ∈ (openers floatRepr candidates).map AssetCandidate.targetId ↔
        targetId ∈ candidates.map AssetCandidate.targetId := by
      intro targetId
      rw [List.mem_map, List.mem_map]
      constructor
      · rintro ⟨opener, hopener, htarget⟩
        exact ⟨opener, hopeners opener hopener, htarget⟩
      · rintro ⟨candidate, hcandidate, rfl⟩
        exact h candidate hcandidate
    refine ⟨hmem, ?_⟩
    have hperm : ((openers floatRepr candidates).map AssetCandidate.targetId).dedup.Perm
        (candidates.map AssetCandidate.targetId).dedup := by
      apply (List.perm_ext_iff_of_nodup (List.nodup_dedup _) (List.nodup_dedup _)).mpr
      intro targetId
      rw [List.mem_dedup, List.mem_dedup]
      exact hmem targetId
    rw [← hperm.length_eq, ← dedupeCandidates_targetIds]
    rfl

end

def clonedKeyBlob : List UInt8 :=
  [0, 0, 0, 11, 115, 115, 104, 45, 101, 100, 50, 53, 53, 49, 57, 0, 0, 0, 32,
    0xd7, 0x5a, 0x98, 0x01, 0x82, 0xb1, 0x0a, 0xb7, 0xd5, 0x4b, 0xfe, 0xd3, 0xc9, 0x64, 0x07, 0x3a,
    0x0e, 0xe1, 0x72, 0xf3, 0xda, 0xa6, 0x23, 0x25, 0xaf, 0x02, 0x1a, 0x68, 0xf7, 0x07, 0x51, 0x1a]

def sshHost (host : String) : Target :=
  { agentHost with host, port := 22, protocolHint := .ssh }

/-- A machine and its clone have one host key, which is all that a scan of them finds. -/
def sharedHostKey : List AssetCandidate :=
  letI := constantDigest
  [sshHostKeyCandidate 0 (sshHost "web.testbed.local") clonedKeyBlob "Ed25519".toList
      "EdDSA".toList,
    sshHostKeyCandidate 1 (sshHost "clone.testbed.local") clonedKeyBlob "Ed25519".toList
      "EdDSA".toList]

/-- The clone has no asset. -/
theorem sharedHostKey_loses_target : letI := asciiText
    letI := constantDigest
    (∀ candidate ∈ sharedHostKey, NetworkCandidate (fun _ => []) candidate) ∧
    ¬ ∀ targetId, targetId ∈ storedTargets (fun _ => []) 0 sharedHostKey ↔
      targetId ∈ sharedHostKey.map AssetCandidate.targetId := by
  let := asciiText
  let := constantDigest
  refine ⟨?_, fun h => absurd ((h 1).mpr (by decide)) (by decide +kernel)⟩
  intro candidate hmem
  rcases List.mem_cons.mp hmem with rfl | hmem
  · exact .sshHostKey 0 (sshHost "web.testbed.local") clonedKeyBlob _ _
  · rw [List.mem_singleton.mp hmem]
    exact .sshHostKey 1 (sshHost "clone.testbed.local") clonedKeyBlob _ _

section

variable [PyText] (floatRepr : PyFloat → List Char)

/-! ## 2. Usage -/

def metadataBool (value : Json) : Option Bool :=
  match value with
  | .bool b => some b
  | .null => none
  | value =>
      let normalized := casefold (strip (value.pyStr floatRepr))
      if normalized ∈ ["true".toList, "1".toList, "yes".toList] then some true
      else if normalized ∈ ["false".toList, "0".toList, "no".toList] then some false
      else none

def usageKeys : List String := ["in_use", "dormant"]

/-- `_metadata_bool(metadata.get(key))` -/
def usageOf (key : String) (asset : AssetCandidate) : Option Bool :=
  metadataBool floatRepr (metadataGet asset.metadata key)

/-- `dormant is True or in_use is False` -/
def Dormant (asset : AssetCandidate) : Prop :=
  usageOf floatRepr "dormant" asset = some true ∨ usageOf floatRepr "in_use" asset = some false

instance (asset : AssetCandidate) : Decidable (Dormant floatRepr asset) :=
  inferInstanceAs (Decidable (_ ∨ _))

omit [PyText] in
theorem lookup_mergeCandidates {existing incoming : AssetCandidate}
    (hexisting : WellFormed existing) {key : String} (hkey : key ∈ usageKeys) :
    (mergeCandidates existing incoming).metadata.lookup key =
      (existing.metadata.lookup key).or (incoming.metadata.lookup key) := by
  have hothers : key ≠ "merged" ∧ key ≠ "scanner" ∧ key ≠ "source_paths" ∧
      key ≠ "source_bom_refs" ∧ key ≠ "source_scanners" := by
    revert key
    decide
  obtain ⟨hmerged, hscanner, hpaths, hbomRefs, hscanners⟩ := hothers
  rw [← Dict.lookup_update hexisting]
  unfold mergeCandidates
  dsimp only
  split_ifs <;> simp only [Dict.lookup_set, if_neg hmerged, if_neg hscanner, if_neg hpaths,
    if_neg hbomRefs, if_neg hscanners]

omit [PyText] in
/-- The first candidate that has an entry gives it to the merged asset. -/
theorem lookup_mergeAll {members : List AssetCandidate}
    (hmembers : ∀ candidate ∈ members, WellFormed candidate) {asset : AssetCandidate}
    (h : Dict.mergeAll mergeCandidates members = some asset) {key : String}
    (hkey : key ∈ usageKeys) :
    asset.metadata.lookup key =
      members.findSome? fun candidate => candidate.metadata.lookup key := by
  induction members using List.reverseRecOn generalizing asset with
  | nil => cases h
  | append_singleton members incoming ih =>
      have hfront : ∀ candidate ∈ members, WellFormed candidate :=
        fun candidate hmem => hmembers candidate (List.mem_append_left _ hmem)
      rw [List.findSome?_append]
      cases hmerged : Dict.mergeAll mergeCandidates members with
      | none =>
          have hnil := (Dict.mergeAll_eq_none_iff mergeCandidates).mp hmerged
          rw [hnil] at h ⊢
          obtain rfl := Option.some.inj h
          rw [List.findSome?_singleton]
          rfl
      | some existing =>
          rw [Dict.mergeAll_concat mergeCandidates hmerged] at h
          obtain rfl := Option.some.inj h
          have hexisting := (mergedFrom_of_mergeAll hfront hmerged).wellFormed
          rw [lookup_mergeCandidates hexisting hkey, ih hfront hmerged, List.findSome?_singleton]

/-- The candidates of a key that say something about its use say the same, and all or none of the
candidates are dormant. -/
structure UsageAgrees (members : List AssetCandidate) : Prop where
  agree : ∀ key ∈ usageKeys, ∀ c ∈ members, ∀ d ∈ members, ∀ value other,
    c.metadata.lookup key = some value → d.metadata.lookup key = some other →
      metadataBool floatRepr value = metadataBool floatRepr other
  dormant : ∀ c ∈ members, Dormant floatRepr c → ∀ d ∈ members, Dormant floatRepr d

/-- The usage that a merged asset shows is that of a candidate it was merged from, or nothing is
said by any of them. -/
theorem usageOf_merged {members : List AssetCandidate}
    (hmembers : ∀ candidate ∈ members, WellFormed candidate) {asset : AssetCandidate}
    (h : Dict.mergeAll mergeCandidates members = some asset) {key : String}
    (hkey : key ∈ usageKeys) :
    (∃ c ∈ members, ∃ value, c.metadata.lookup key = some value ∧
      usageOf floatRepr key asset = metadataBool floatRepr value) ∨
    (∀ c ∈ members, c.metadata.lookup key = none) ∧ usageOf floatRepr key asset = none := by
  have hlookup := lookup_mergeAll hmembers h hkey
  cases hfound : members.findSome? fun candidate => candidate.metadata.lookup key with
  | none =>
      rw [hfound] at hlookup
      right
      constructor
      · exact List.findSome?_eq_none_iff.mp hfound
      · rw [usageOf, metadataGet, hlookup]
        rfl
  | some value =>
      rw [hfound] at hlookup
      obtain ⟨c, hc, hvalue⟩ := List.exists_of_findSome?_eq_some hfound
      left
      refine ⟨c, hc, value, hvalue, ?_⟩
      rw [usageOf, metadataGet, hlookup]
      rfl

omit [PyText] in
theorem usageOf_of_lookup [PyText] {key : String} {candidate : AssetCandidate} {value : Json}
    (h : candidate.metadata.lookup key = some value) :
    usageOf floatRepr key candidate = metadataBool floatRepr value := by
  rw [usageOf, metadataGet, h]
  rfl

/-- If the candidates agree, the merged asset shows what each of them says. -/
theorem UsageAgrees.usageOf_eq {members : List AssetCandidate} (hagrees : UsageAgrees floatRepr members)
    (hmembers : ∀ candidate ∈ members, WellFormed candidate) {asset : AssetCandidate}
    (h : Dict.mergeAll mergeCandidates members = some asset) {key : String}
    (hkey : key ∈ usageKeys) {c : AssetCandidate} (hc : c ∈ members) {value : Json}
    (hvalue : c.metadata.lookup key = some value) :
    usageOf floatRepr key asset = metadataBool floatRepr value := by
  rcases usageOf_merged floatRepr hmembers h hkey with ⟨d, hd, other, hother, heq⟩ | ⟨hnone, -⟩
  · rw [heq]
    exact hagrees.agree key hkey d hd c hc other value hother hvalue
  · rw [hnone c hc] at hvalue
    cases hvalue

theorem members_perm {candidates permuted : List AssetCandidate} (h : permuted.Perm candidates)
    (key : List Char) :
    (members floatRepr permuted key).Perm (members floatRepr candidates key) :=
  h.filter _

def usageState (asset : AssetCandidate) : Option Bool × Option Bool :=
  (usageOf floatRepr "in_use" asset, usageOf floatRepr "dormant" asset)

/-- What a candidate says is what the merged asset says when the candidate comes first. -/
theorem usageState_of_first {candidates : List AssetCandidate}
    (hcandidates : ∀ candidate ∈ candidates, WellFormed candidate) {c : AssetCandidate}
    (hc : c ∈ candidates) :
    ∃ permuted : List AssetCandidate, permuted.Perm candidates ∧
      ∃ asset, assetOf floatRepr permuted (dedupeKey floatRepr c) = some asset ∧
        ∀ key ∈ usageKeys, ∀ value, c.metadata.lookup key = some value →
          usageOf floatRepr key asset = metadataBool floatRepr value := by
  have hperm : (c :: candidates.erase c).Perm candidates := (List.perm_cons_erase hc).symm
  have hmembers : members floatRepr (c :: candidates.erase c) (dedupeKey floatRepr c) =
      c :: members floatRepr (candidates.erase c) (dedupeKey floatRepr c) := by
    rw [members, List.filter_cons, if_pos (decide_eq_true rfl)]
    rfl
  refine ⟨c :: candidates.erase c, hperm,
    (members floatRepr (candidates.erase c) (dedupeKey floatRepr c)).foldl mergeCandidates c, ?_, ?_⟩
  · rw [assetOf_eq, hmembers, Dict.mergeAll_cons]
  · intro key hkey value hvalue
    have hwellFormed : ∀ candidate ∈ c :: members floatRepr (candidates.erase c)
        (dedupeKey floatRepr c), WellFormed candidate := by
      intro candidate hmem
      rw [← hmembers] at hmem
      exact hcandidates candidate (hperm.mem_iff.mp (List.mem_of_mem_filter hmem))
    have hlookup := lookup_mergeAll hwellFormed (Dict.mergeAll_cons mergeCandidates c _) hkey
    rw [List.findSome?_cons, hvalue] at hlookup
    exact usageOf_of_lookup floatRepr hlookup

theorem lookup_of_usageOf {key : String} {candidate : AssetCandidate} {b : Bool}
    (h : usageOf floatRepr key candidate = some b) :
    ∃ value, candidate.metadata.lookup key = some value := by
  cases hlookup : candidate.metadata.lookup key with
  | some value => exact ⟨value, rfl⟩
  | none =>
      rw [usageOf, metadataGet, hlookup] at h
      cases h

/-- A candidate that says what a dormant asset shows is dormant itself. -/
theorem Dormant.of_usageOf {asset candidate : AssetCandidate} (h : Dormant floatRepr asset)
    (hsame : ∀ key ∈ usageKeys, ∀ value, asset.metadata.lookup key = some value →
      usageOf floatRepr key candidate = metadataBool floatRepr value) :
    Dormant floatRepr candidate := by
  rcases h with hdormant | hinUse
  · obtain ⟨value, hvalue⟩ := lookup_of_usageOf floatRepr hdormant
    left
    rw [hsame "dormant" (by decide) value hvalue, ← usageOf_of_lookup floatRepr hvalue, hdormant]
  · obtain ⟨value, hvalue⟩ := lookup_of_usageOf floatRepr hinUse
    right
    rw [hsame "in_use" (by decide) value hvalue, ← usageOf_of_lookup floatRepr hvalue, hinUse]

theorem Dormant.exists_member {members : List AssetCandidate}
    (hmembers : ∀ candidate ∈ members, WellFormed candidate) {asset : AssetCandidate}
    (h : Dict.mergeAll mergeCandidates members = some asset) (hdormant : Dormant floatRepr asset) :
    ∃ c ∈ members, Dormant floatRepr c := by
  have hsome : ∀ key ∈ usageKeys, ∀ b, usageOf floatRepr key asset = some b →
      ∃ c ∈ members, usageOf floatRepr key c = some b := by
    intro key hkey b hb
    rcases usageOf_merged floatRepr hmembers h hkey with ⟨c, hc, value, hvalue, heq⟩ | ⟨-, hnone⟩
    · exact ⟨c, hc, by rw [usageOf_of_lookup floatRepr hvalue, ← heq, hb]⟩
    · rw [hnone] at hb
      cases hb
  rcases hdormant with hdormant | hinUse
  · obtain ⟨c, hc, hvalue⟩ := hsome "dormant" (by decide) true hdormant
    exact ⟨c, hc, .inl hvalue⟩
  · obtain ⟨c, hc, hvalue⟩ := hsome "in_use" (by decide) false hinUse
    exact ⟨c, hc, .inr hvalue⟩

theorem UsageAgrees.subset {ms fewer : List AssetCandidate} (h : UsageAgrees floatRepr ms)
    (hsub : fewer ⊆ ms) : UsageAgrees floatRepr fewer where
  agree key hkey c hc d hd := h.agree key hkey c (hsub hc) d (hsub hd)
  dormant c hc hdormant d hd := h.dormant c (hsub hc) hdormant d (hsub hd)

/-- Candidates that agree give the same usage in every order. -/
theorem UsageAgrees.usageState_eq {ms permuted : List AssetCandidate} (h : UsageAgrees floatRepr ms)
    (hmembers : ∀ candidate ∈ ms, WellFormed candidate) (hperm : permuted.Perm ms) :
    (Dict.mergeAll mergeCandidates permuted).map (usageState floatRepr) =
      (Dict.mergeAll mergeCandidates ms).map (usageState floatRepr) := by
  have hpermuted : ∀ candidate ∈ permuted, WellFormed candidate :=
    fun candidate hmem => hmembers candidate (hperm.mem_iff.mp hmem)
  cases hasset : Dict.mergeAll mergeCandidates ms with
  | none =>
      have hnil := (Dict.mergeAll_eq_none_iff mergeCandidates).mp hasset
      rw [hnil] at hperm
      rw [hperm.eq_nil]
      rfl
  | some asset =>
      cases hother : Dict.mergeAll mergeCandidates permuted with
      | none =>
          have hnil := (Dict.mergeAll_eq_none_iff mergeCandidates).mp hother
          rw [hnil] at hperm
          rw [hperm.symm.eq_nil] at hasset
          cases hasset
      | some other =>
          have hkeys : ∀ key ∈ usageKeys,
              usageOf floatRepr key other = usageOf floatRepr key asset := by
            intro key hkey
            rcases usageOf_merged floatRepr hpermuted hother hkey with
              ⟨c, hc, value, hvalue, heq⟩ | ⟨hnone, heq⟩
            · rw [heq]
              exact (h.usageOf_eq floatRepr hmembers hasset hkey (hperm.mem_iff.mp hc) hvalue).symm
            · rw [heq]
              rcases usageOf_merged floatRepr hmembers hasset hkey with
                ⟨c, hc, value, hvalue, -⟩ | ⟨-, heq'⟩
              · rw [hnone c (hperm.mem_iff.mpr hc)] at hvalue
                cases hvalue
              · exact heq'.symm
          rw [Option.map_some, Option.map_some, usageState, usageState, hkeys "in_use" (by decide),
            hkeys "dormant" (by decide)]

/-- The usage of a merged asset does not depend on the order of the candidates, and a key that is in
use anywhere is never dormant, exactly if the candidates of every key agree on it. -/
theorem usage_stable_iff (candidates : List AssetCandidate)
    (hcandidates : ∀ candidate ∈ candidates, WellFormed candidate) :
    (∀ permuted : List AssetCandidate, permuted.Perm candidates → ∀ key,
      (assetOf floatRepr permuted key).map (usageState floatRepr) =
        (assetOf floatRepr candidates key).map (usageState floatRepr) ∧
      ∀ asset, assetOf floatRepr permuted key = some asset → Dormant floatRepr asset →
        ∀ c ∈ members floatRepr permuted key, Dormant floatRepr c) ↔
      ∀ key, UsageAgrees floatRepr (members floatRepr candidates key) := by
  have hmembers : ∀ key, ∀ candidate ∈ members floatRepr candidates key, WellFormed candidate :=
    fun key candidate hmem => hcandidates candidate (List.mem_of_mem_filter hmem)
  have hkey : ∀ {key c}, c ∈ members floatRepr candidates key →
      c ∈ candidates ∧ dedupeKey floatRepr c = key := by
    intro key c hc
    have hfilter := List.mem_filter.mp hc
    exact ⟨hfilter.1, of_decide_eq_true hfilter.2⟩
  constructor
  · intro hstable key
    have hshown : ∀ c ∈ members floatRepr candidates key, ∃ permuted : List AssetCandidate,
        permuted.Perm candidates ∧ ∃ asset, assetOf floatRepr permuted key = some asset ∧
          ∀ key ∈ usageKeys, ∀ value, c.metadata.lookup key = some value →
            usageOf floatRepr key asset = metadataBool floatRepr value := by
      intro c hc
      obtain ⟨hmem, rfl⟩ := hkey hc
      exact usageState_of_first floatRepr hcandidates hmem
    constructor
    · intro name hname c hc d hd value other hvalue hother
      obtain ⟨permuted, hperm, asset, hasset, hsame⟩ := hshown c hc
      obtain ⟨permuted', hperm', asset', hasset', hsame'⟩ := hshown d hd
      have hstates : usageState floatRepr asset = usageState floatRepr asset' := by
        have heq := ((hstable permuted hperm key).1).trans ((hstable permuted' hperm' key).1).symm
        rw [hasset, hasset'] at heq
        exact Option.some.inj heq
      have hnames : usageOf floatRepr name asset = usageOf floatRepr name asset' := by
        rcases List.mem_cons.mp hname with rfl | hname
        · exact congrArg Prod.fst hstates
        · rw [List.mem_singleton.mp hname]
          exact congrArg Prod.snd hstates
      rw [← hsame name hname value hvalue, hnames, hsame' name hname other hother]
    · intro c hc hdormant d hd
      obtain ⟨permuted, hperm, asset, hasset, hsame⟩ := hshown c hc
      have hassetDormant := hdormant.of_usageOf floatRepr hsame
      exact (hstable permuted hperm key).2 asset hasset hassetDormant d
        ((members_perm floatRepr hperm key).mem_iff.mpr hd)
  · intro h permuted hperm key
    have hperm' := members_perm floatRepr hperm key
    rw [assetOf_eq, assetOf_eq]
    refine ⟨(h key).usageState_eq floatRepr (hmembers key) hperm', ?_⟩
    intro asset hasset hdormant d hd
    obtain ⟨c, hc, hc'⟩ := hdormant.exists_member floatRepr
      (fun candidate hmem => hmembers key candidate (hperm'.mem_iff.mp hmem)) hasset
    exact ((h key).subset floatRepr hperm'.subset).dormant c hc hc' d hd

end

/-! ## 3. One key in two places -/

/-- A private key that the agent found, referenced by a configuration or not. -/
def foundKey (path : String) (inUse : Bool) : AssetCandidate :=
  letI := asciiText
  letI := constantDigest
  candidateForFinding (fun _ => []) 0 agentHost
    [("type", .str (if inUse then "private_key_file" else "dormant_private_key")),
      ("path", .str path), ("algorithm", .str "RSA-2048"), ("fingerprint_sha256", .str "ab"),
      ("in_use", .bool inUse), ("dormant", .bool !inUse)]
    "agent.private_key_files" "RSA-2048".toList

def referencedCopies : List AssetCandidate :=
  [foundKey "/etc/ssl/a.key" true, foundKey "/etc/ssl/b.key" true]

theorem referencedCopies_agree : letI := asciiText
    UsageAgrees (fun _ => []) referencedCopies := by
  have hsame : ∀ key ∈ usageKeys, ∀ c ∈ referencedCopies, ∀ d ∈ referencedCopies,
      c.metadata.lookup key = d.metadata.lookup key := by decide +kernel
  refine @UsageAgrees.mk asciiText (fun _ => []) _ ?_ ?_
  · intro key hkey c hc d hd value other hvalue hother
    rw [hsame key hkey c hc d hd, hother] at hvalue
    rw [Option.some.inj hvalue]
  · decide +kernel

theorem referencedCopies_stable : letI := asciiText
    (assetOf (fun _ => []) referencedCopies.reverse "key:fingerprint:ab".toList).map
        (usageState fun _ => []) =
      (assetOf (fun _ => []) referencedCopies "key:fingerprint:ab".toList).map
        (usageState fun _ => []) :=
  letI := asciiText
  ((usage_stable_iff (fun _ => []) referencedCopies (by decide +kernel)).mpr
    (fun _ => referencedCopies_agree.subset (fun _ => []) (List.filter_subset_self _))
    referencedCopies.reverse (List.reverse_perm _) "key:fingerprint:ab".toList).1

def unreferencedCopy : List AssetCandidate :=
  [foundKey "/backup/old.key" false, foundKey "/etc/ssl/a.key" true]

/-- The copy that nothing refers to comes first, and the key is reported dormant. -/
theorem unreferencedCopy_hides_use : letI := asciiText
    (∀ candidate ∈ unreferencedCopy, WellFormed candidate) ∧
    ¬ ∀ asset, assetOf (fun _ => []) unreferencedCopy "key:fingerprint:ab".toList = some asset →
      Dormant (fun _ => []) asset →
        ∀ c ∈ members (fun _ => []) unreferencedCopy "key:fingerprint:ab".toList,
          Dormant (fun _ => []) c := by
  let := asciiText
  refine ⟨by decide +kernel, fun h => ?_⟩
  have hall := h (mergeCandidates (foundKey "/backup/old.key" false) (foundKey "/etc/ssl/a.key" true))
    (by decide +kernel) (by decide +kernel)
  exact absurd (hall (foundKey "/etc/ssl/a.key" true) (by decide +kernel)) (by decide +kernel)

end CryptoScanner.Scan
