import CryptoScanner.Library.Distinct
import CryptoScanner.Scan.AgentMapper
import CryptoScanner.Scan.Persist

/-!
# Provenance of merged candidates

A merged asset lists the scanners, references and paths of the candidates it was merged from.  The
lists are distinct values in the sense of the library.  A merge also overwrites the `scanner` entry
with the word `multiple`, and the next merge of the same asset takes this word for a scanner.
-/

namespace CryptoScanner.Scan

open Library Python

/-! ## 1. The three lists -/

/-- A value that `_merged_values` leaves out. -/
def Unnamed (value : Json) : Prop := value = .null ∨ value = .str ""

instance (value : Json) : Decidable (Unnamed value) := inferInstanceAs (Decidable (_ ∨ _))

abbrev distinctValues (values : List Json) : List Json := distinct Unnamed Json.sameItem values

theorem distinctValues_append (values more : List Json) :
    distinctValues (distinctValues values ++ more) = distinctValues (values ++ more) :=
  distinct_distinct_append Unnamed Json.sameItem values more

theorem distinctValues_append_of_subset {values more : List Json} (h : more ⊆ values) :
    distinctValues (values ++ more) = distinctValues values :=
  distinct_append_of_subset Unnamed Json.sameItem h Json.sameItem_self

theorem distinctValues_eq_nil_iff {values : List Json} :
    distinctValues values = [] ↔ ∀ value ∈ values, Unnamed value :=
  distinct_eq_nil_iff Unnamed Json.sameItem

theorem mergedValues_eq (current value : Json) :
    mergedValues current value = distinctValues (asList current ++ asList value) := by
  have hstep : distinctStep Unnamed Json.sameItem = fun result item =>
      if item = .null ∨ item = .str "" ∨ result.any (fun other => other.sameItem item) then result
      else result ++ [item] := by
    funext result item
    simp only [distinctStep, Unnamed, or_assoc]
  unfold mergedValues distinctValues distinct
  rw [hstep]

inductive SourceList where
  | scanners
  | bomRefs
  | paths
  deriving DecidableEq, Repr

namespace SourceList

def key : SourceList → String
  | scanners => "source_scanners"
  | bomRefs => "source_bom_refs"
  | paths => "source_paths"

def own : SourceList → AssetCandidate → Json
  | scanners => sourceScanner
  | bomRefs => fun candidate => .str (String.ofList candidate.bomRef)
  | paths => fun candidate => metadataGet candidate.metadata "path"

def provided (source : SourceList) (candidate : AssetCandidate) : List Json :=
  asList (metadataGet candidate.metadata source.key) ++ asList (source.own candidate)

end SourceList

/-- The values of the list that merging two candidates builds. -/
theorem collect_eq (source : SourceList) (existing incoming : AssetCandidate) :
    mergedValues (.list (mergedValues (.list (mergedValues
      (metadataGet existing.metadata source.key) (source.own existing)))
        (metadataGet incoming.metadata source.key))) (source.own incoming) =
      distinctValues (source.provided existing ++ source.provided incoming) := by
  have hlist : ∀ (values : List Json) (value : Json),
      mergedValues (.list (distinctValues values)) value = distinctValues (values ++ asList value) := by
    intro values value
    rw [mergedValues_eq]
    exact distinctValues_append values (asList value)
  rw [mergedValues_eq (metadataGet existing.metadata source.key), hlist, hlist, SourceList.provided, SourceList.provided,
    List.append_assoc]

/-! ## 2. The metadata of a merge -/

theorem metadataGet_set (key other : String) (value : Json) (metadata : List (String × Json)) :
    metadataGet (Dict.set key value metadata) other =
      if other = key then value else metadataGet metadata other := by
  unfold metadataGet
  rw [Dict.lookup_set]
  split <;> rfl

/-- The metadata is a dictionary: it has every key once. -/
def WellFormed (candidate : AssetCandidate) : Prop := (candidate.metadata.map Prod.fst).Nodup

instance (candidate : AssetCandidate) : Decidable (WellFormed candidate) :=
  inferInstanceAs (Decidable (List.Nodup _))

theorem mergeCandidates_wellFormed {existing incoming : AssetCandidate}
    (hincoming : WellFormed incoming) : WellFormed (mergeCandidates existing incoming) := by
  have hupdate := Dict.nodup_keys_update existing.metadata hincoming
  unfold WellFormed mergeCandidates
  dsimp only
  split <;> split <;>
    first
      | exact Dict.nodup_keys_set (Dict.nodup_keys_set (Dict.nodup_keys_set (Dict.nodup_keys_set
          (Dict.nodup_keys_set hupdate))))
      | exact Dict.nodup_keys_set (Dict.nodup_keys_set (Dict.nodup_keys_set (Dict.nodup_keys_set
          hupdate)))
      | exact Dict.nodup_keys_set (Dict.nodup_keys_set (Dict.nodup_keys_set hupdate))
      | exact Dict.nodup_keys_set (Dict.nodup_keys_set hupdate)

/-- The entries of a merge: the three lists, the mark of several scanners, and else the entries of
the first candidate before those of the second. -/
theorem metadataGet_merge (existing incoming : AssetCandidate) (key : String) :
    metadataGet (mergeCandidates existing incoming).metadata key =
      let values := fun source : SourceList =>
        distinctValues (source.provided existing ++ source.provided incoming)
      let before := metadataGet (Dict.update incoming.metadata existing.metadata) key
      if key = "merged" ∧ 1 < (values .scanners).length then .bool true
      else if key = "scanner" ∧ 1 < (values .scanners).length then .str "multiple"
      else if key = "source_paths" ∧ values .paths ≠ [] then .list (values .paths)
      else if key = "source_bom_refs" then .list (values .bomRefs)
      else if key = "source_scanners" then .list (values .scanners)
      else before := by
  have hscanners := collect_eq .scanners existing incoming
  have hbomRefs := collect_eq .bomRefs existing incoming
  have hpaths := collect_eq .paths existing incoming
  simp only [SourceList.key, SourceList.own] at hscanners hbomRefs hpaths
  simp only [mergeCandidates, hscanners, hbomRefs, hpaths]
  split_ifs <;> simp_all [metadataGet_set]

theorem lookup_update_metadata {existing : AssetCandidate} (hexisting : WellFormed existing)
    (incoming : AssetCandidate) (key : String) :
    metadataGet (Dict.update incoming.metadata existing.metadata) key =
      if existing.metadata.lookup key = none then metadataGet incoming.metadata key
      else metadataGet existing.metadata key := by
  unfold metadataGet
  rw [Dict.lookup_update hexisting]
  cases existing.metadata.lookup key with
  | none => rfl
  | some value => rfl

/-! ## 3. One merge

As long as a merged asset has not been marked, it stands for the candidates it was merged from: the
next merge collects the same values as from all these candidates. -/

def Stands (source : SourceList) (asset : AssetCandidate) (values : List Json) : Prop :=
  (∀ more, distinctValues (source.provided asset ++ more) = distinctValues (values ++ more)) ∧
    asList (source.own asset) ⊆ values

theorem Stands.self (source : SourceList) (candidate : AssetCandidate) :
    Stands source candidate (source.provided candidate) :=
  ⟨fun _ => rfl, List.subset_append_right _ _⟩

def Marks (existing incoming : AssetCandidate) : Prop :=
  1 < (distinctValues (SourceList.scanners.provided existing ++
    SourceList.scanners.provided incoming)).length

theorem own_merge {source : SourceList} {existing incoming : AssetCandidate}
    (hexisting : WellFormed existing) (hmark : source = .scanners → ¬ Marks existing incoming) :
    source.own (mergeCandidates existing incoming) = source.own existing ∨
      source.own (mergeCandidates existing incoming) = source.own incoming := by
  cases source with
  | bomRefs => exact .inl rfl
  | paths =>
      have hpath := metadataGet_merge existing incoming "path"
      simp only [String.reduceEq, false_and, if_false] at hpath
      rw [lookup_update_metadata hexisting] at hpath
      simp only [SourceList.own]
      rw [hpath]
      by_cases hnone : existing.metadata.lookup "path" = none
      · rw [if_pos hnone]
        exact .inr rfl
      · rw [if_neg hnone]
        exact .inl rfl
  | scanners =>
      have hscanner := metadataGet_merge existing incoming "scanner"
      have hfew : ¬ 1 < (distinctValues (SourceList.scanners.provided existing ++
          SourceList.scanners.provided incoming)).length := hmark rfl
      simp only [String.reduceEq, false_and, if_false, hfew, and_false] at hscanner
      rw [lookup_update_metadata hexisting] at hscanner
      simp only [SourceList.own, sourceScanner, hscanner]
      by_cases hnone : existing.metadata.lookup "scanner" = none
      · have hexisting : metadataGet existing.metadata "scanner" = .null := by
          rw [metadataGet, hnone]
          rfl
        rw [if_pos hnone, hexisting]
        by_cases htruthy : (metadataGet incoming.metadata "scanner").truthy = true
        · right
          rw [if_pos htruthy, if_pos htruthy]
        · left
          rw [if_neg htruthy]
          rfl
      · rw [if_neg hnone]
        exact .inl rfl

theorem values_merge {source : SourceList} {existing incoming : AssetCandidate}
    (hexisting : WellFormed existing) :
    let values := distinctValues (source.provided existing ++ source.provided incoming)
    let merged := asList (metadataGet (mergeCandidates existing incoming).metadata source.key)
    merged = values ∨
      values = [] ∧ ∀ value ∈ merged, Unnamed value := by
  have hmerge := metadataGet_merge existing incoming source.key
  cases source with
  | scanners =>
      simp only [SourceList.key, String.reduceEq, false_and, if_false, if_true] at hmerge ⊢
      rw [hmerge]
      exact .inl rfl
  | bomRefs =>
      simp only [SourceList.key, String.reduceEq, false_and, if_false, if_true] at hmerge ⊢
      rw [hmerge]
      exact .inl rfl
  | paths =>
      simp only [SourceList.key, String.reduceEq, false_and, if_false, true_and] at hmerge ⊢
      rw [hmerge]
      by_cases hnil : distinctValues (SourceList.paths.provided existing ++
          SourceList.paths.provided incoming) = []
      · rw [if_neg (not_not.mpr hnil), lookup_update_metadata hexisting]
        refine .inr ⟨hnil, fun value hvalue => ?_⟩
        have hall := distinctValues_eq_nil_iff.mp hnil
        apply hall
        by_cases hnone : existing.metadata.lookup "source_paths" = none
        · rw [if_pos hnone] at hvalue
          exact List.mem_append_right _ (List.mem_append_left _ hvalue)
        · rw [if_neg hnone] at hvalue
          exact List.mem_append_left _ (List.mem_append_left _ hvalue)
      · rw [if_pos hnil]
        exact .inl rfl

theorem Stands.merge {source : SourceList} {existing incoming : AssetCandidate} {values : List Json}
    (h : Stands source existing values) (hexisting : WellFormed existing)
    (hmark : source = .scanners → ¬ Marks existing incoming) :
    Stands source (mergeCandidates existing incoming) (values ++ source.provided incoming) := by
  have hown : asList (source.own (mergeCandidates existing incoming)) ⊆
      values ++ source.provided incoming := by
    rcases own_merge hexisting hmark with heq | heq
    · rw [heq]
      exact List.subset_append_of_subset_left _ h.2
    · rw [heq]
      exact List.subset_append_of_subset_right _ (List.subset_append_right _ _)
  refine ⟨fun more => ?_, hown⟩
  have hvalues := h.1 (source.provided incoming)
  have hprovided : source.provided (mergeCandidates existing incoming) =
      asList (metadataGet (mergeCandidates existing incoming).metadata source.key) ++
        asList (source.own (mergeCandidates existing incoming)) := rfl
  rw [hprovided]
  rcases @values_merge source existing incoming hexisting with heq | ⟨hnil, hunnamed⟩
  · rw [heq, hvalues, List.append_assoc, distinctValues_append, ← List.append_assoc,
      ← distinctValues_append, distinctValues_append_of_subset hown, distinctValues_append]
  · -- no value has a name on either side
    rw [hvalues] at hnil
    have hleft : distinctValues (asList (metadataGet
        (mergeCandidates existing incoming).metadata source.key) ++
          asList (source.own (mergeCandidates existing incoming))) = [] := by
      apply distinctValues_eq_nil_iff.mpr
      intro value hvalue
      rcases List.mem_append.mp hvalue with hmem | hmem
      · exact hunnamed value hmem
      · exact distinctValues_eq_nil_iff.mp hnil value (hown hmem)
    rw [← distinctValues_append, hleft, ← distinctValues_append (values ++ _), hnil]

/-! ## 4. All merges of a group -/

def allProvided (source : SourceList) (members : List AssetCandidate) : List Json :=
  members.flatMap source.provided

theorem allProvided_concat (source : SourceList) (members : List AssetCandidate)
    (incoming : AssetCandidate) :
    allProvided source (members ++ [incoming]) =
      allProvided source members ++ source.provided incoming := by
  rw [allProvided, List.flatMap_append, List.flatMap_singleton]
  rfl

/-- The scanners that a marked asset lists: every scanner of the candidates, and perhaps the mark. -/
structure ListsMark (members : List AssetCandidate) (asset : AssetCandidate) : Prop where
  fixed : distinctValues (asList (metadataGet asset.metadata "source_scanners")) =
    asList (metadataGet asset.metadata "source_scanners")
  sound : ∀ value ∈ asList (metadataGet asset.metadata "source_scanners"),
    value ∈ allProvided .scanners members ∨ value = .str "multiple"
  complete : ∀ value ∈ allProvided .scanners members, ¬ Unnamed value →
    Covered Json.sameItem (asList (metadataGet asset.metadata "source_scanners")) value

/-- The scanners of a merged asset: either it stands for the candidates, or it is marked. -/
inductive ScannersOf (members : List AssetCandidate) (asset : AssetCandidate) : Prop
  | plain (hstands : Stands .scanners asset (allProvided .scanners members))
      (hfew : 2 ≤ members.length → (distinctValues (allProvided .scanners members)).length ≤ 1)
  | marked (hmark : metadataGet asset.metadata "scanner" = .str "multiple")
      (hlength : 2 ≤ members.length)
      (hmany : 1 < (distinctValues (allProvided .scanners members)).length)
      (hlong : 1 < (asList (metadataGet asset.metadata "source_scanners")).length)
      (hlists : ListsMark members asset)

theorem metadataGet_merge_scanners (existing incoming : AssetCandidate) :
    asList (metadataGet (mergeCandidates existing incoming).metadata "source_scanners") =
      distinctValues (SourceList.scanners.provided existing ++
        SourceList.scanners.provided incoming) := by
  rw [metadataGet_merge]
  rfl

theorem metadataGet_scanner_of_marks {existing incoming : AssetCandidate}
    (h : Marks existing incoming) :
    metadataGet (mergeCandidates existing incoming).metadata "scanner" = .str "multiple" := by
  have hmany : 1 < (distinctValues (SourceList.scanners.provided existing ++
      SourceList.scanners.provided incoming)).length := h
  rw [metadataGet_merge]
  simp only [String.reduceEq, false_and, if_false, true_and, hmany, if_true]

theorem provided_of_mark {asset : AssetCandidate}
    (hmark : metadataGet asset.metadata "scanner" = .str "multiple") :
    SourceList.scanners.provided asset =
      asList (metadataGet asset.metadata "source_scanners") ++ [.str "multiple"] := by
  simp only [SourceList.provided, SourceList.own, SourceList.key, sourceScanner, hmark]
  rfl

/-- A marked asset keeps its list, and the next merge adds to it. -/
theorem prefix_merge_of_mark {existing : AssetCandidate}
    (hmark : metadataGet existing.metadata "scanner" = .str "multiple")
    (hfixed : distinctValues (asList (metadataGet existing.metadata "source_scanners")) =
      asList (metadataGet existing.metadata "source_scanners")) (incoming : AssetCandidate) :
    asList (metadataGet existing.metadata "source_scanners") <+:
      asList (metadataGet (mergeCandidates existing incoming).metadata "source_scanners") := by
  have hgrow := prefix_distinct_append Unnamed Json.sameItem
    (asList (metadataGet existing.metadata "source_scanners"))
    ([.str "multiple"] ++ SourceList.scanners.provided incoming)
  change distinctValues _ <+: _ at hgrow
  rw [metadataGet_merge_scanners, provided_of_mark hmark, List.append_assoc]
  rwa [hfixed] at hgrow

theorem ListsMark.merge {members : List AssetCandidate} {existing : AssetCandidate}
    (h : ListsMark members existing)
    (hmark : metadataGet existing.metadata "scanner" = .str "multiple")
    (incoming : AssetCandidate) :
    ListsMark (members ++ [incoming]) (mergeCandidates existing incoming) := by
  have hscanners := metadataGet_merge_scanners existing incoming
  have hprefix := prefix_merge_of_mark hmark h.fixed incoming
  constructor
  · rw [hscanners]
    exact distinct_distinct Unnamed Json.sameItem _
  · intro value hvalue
    rw [hscanners] at hvalue
    have hmem := (mem_of_mem_distinct Unnamed Json.sameItem hvalue).1
    rw [provided_of_mark hmark, List.mem_append, List.mem_append, List.mem_singleton] at hmem
    rw [allProvided_concat, List.mem_append]
    rcases hmem with (hold | heq) | hnew
    · exact (h.sound value hold).imp .inl id
    · exact .inr heq
    · exact .inl (.inr hnew)
  · intro value hvalue hnamed
    rw [allProvided_concat, List.mem_append] at hvalue
    rcases hvalue with hold | hnew
    · exact (h.complete value hold hnamed).mono Json.sameItem hprefix.subset
    · rw [hscanners]
      exact covered_distinct Unnamed Json.sameItem (List.mem_append_right _ hnew) hnamed

theorem ScannersOf.merge {members : List AssetCandidate} {existing incoming : AssetCandidate}
    (h : ScannersOf members existing) (hne : members ≠ []) (hexisting : WellFormed existing) :
    ScannersOf (members ++ [incoming]) (mergeCandidates existing incoming) := by
  have hlength : 2 ≤ (members ++ [incoming]).length := by
    have hpos := List.length_pos_iff.mpr hne
    rw [List.length_append, List.length_singleton]
    omega
  have hscanners := metadataGet_merge_scanners existing incoming
  cases h with
  | plain hstands hfew =>
      have hvalues := hstands.1 (SourceList.scanners.provided incoming)
      rw [← allProvided_concat] at hvalues
      -- a second scanner name sets the mark, and from then on the list is kept
      by_cases hmarks : Marks existing incoming
      · have hmany : 1 < (distinctValues
            (allProvided .scanners (members ++ [incoming]))).length := hvalues ▸ hmarks
        rw [hvalues] at hscanners
        apply ScannersOf.marked (metadataGet_scanner_of_marks hmarks) hlength hmany
        · rw [hscanners]
          exact hmany
        · constructor
          · rw [hscanners]
            exact distinct_distinct Unnamed Json.sameItem _
          · rw [hscanners]
            exact fun value hvalue => .inl (mem_of_mem_distinct Unnamed Json.sameItem hvalue).1
          · rw [hscanners]
            exact fun value hvalue hnamed => covered_distinct Unnamed Json.sameItem hvalue hnamed
      · apply ScannersOf.plain
        · rw [allProvided_concat]
          exact hstands.merge hexisting fun _ => hmarks
        · intro _
          rw [← hvalues]
          exact not_lt.mp hmarks
  | marked hmark hlength' hmany hlong hlists =>
      -- a list that was long enough for the mark only grows
      have hlong' := hlong.trans_le (prefix_merge_of_mark hmark hlists.fixed incoming).length_le
      have hmarks : Marks existing incoming := by
        rw [hscanners] at hlong'
        exact hlong'
      apply ScannersOf.marked (metadataGet_scanner_of_marks hmarks) hlength
      · rw [allProvided_concat]
        exact hmany.trans_le (prefix_distinct_append Unnamed Json.sameItem _ _).length_le
      · exact hlong'
      · exact hlists.merge hmark incoming

structure MergedFrom (members : List AssetCandidate) (asset : AssetCandidate) : Prop where
  wellFormed : WellFormed asset
  scanners : ScannersOf members asset
  others : ∀ source, source ≠ .scanners → Stands source asset (allProvided source members)

theorem mergedFrom_of_mergeAll {members : List AssetCandidate}
    (hmembers : ∀ candidate ∈ members, WellFormed candidate) {asset : AssetCandidate}
    (h : Dict.mergeAll mergeCandidates members = some asset) : MergedFrom members asset := by
  induction members using List.reverseRecOn generalizing asset with
  | nil => cases h
  | append_singleton members incoming ih =>
      have hincoming := hmembers incoming (List.mem_append_right _ List.mem_cons_self)
      cases hmerged : Dict.mergeAll mergeCandidates members with
      | none =>
          have hnil := (Dict.mergeAll_eq_none_iff mergeCandidates).mp hmerged
          rw [hnil] at h ⊢
          obtain rfl := Option.some.inj h
          have hself : ∀ source, Stands source incoming (allProvided source ([] ++ [incoming])) := by
            intro source
            rw [allProvided_concat]
            exact Stands.self source incoming
          exact ⟨hincoming, .plain (hself _) (fun htwo => absurd htwo (Nat.lt_irrefl 1)),
            fun source _ => hself source⟩
      | some existing =>
          have hne : members ≠ [] := by
            rintro rfl
            cases hmerged
          obtain ⟨hwellFormed, hscanners, hothers⟩ :=
            ih (fun candidate hmem => hmembers candidate (List.mem_append_left _ hmem)) hmerged
          rw [Dict.mergeAll_concat mergeCandidates hmerged] at h
          obtain rfl := Option.some.inj h
          refine ⟨mergeCandidates_wellFormed hincoming, hscanners.merge hne hwellFormed, ?_⟩
          intro source hsource
          rw [allProvided_concat]
          exact (hothers source hsource).merge hwellFormed fun heq => absurd heq hsource

/-! ## 5. The merged assets of a job -/

section

variable [PyText] (floatRepr : PyFloat → List Char)

def members (candidates : List AssetCandidate) (key : List Char) : List AssetCandidate :=
  candidates.filter fun candidate => decide (dedupeKey floatRepr candidate = key)

def assetOf (candidates : List AssetCandidate) (key : List Char) : Option AssetCandidate :=
  Dict.get? (Dict.collect (dedupeKey floatRepr) mergeCandidates candidates) key

theorem assetOf_eq (candidates : List AssetCandidate) (key : List Char) :
    assetOf floatRepr candidates key =
      Dict.mergeAll mergeCandidates (members floatRepr candidates key) :=
  Dict.lookup_collect (dedupeKey floatRepr) mergeCandidates candidates key

/-- The lists of an asset name what the candidates provide, and nothing else. -/
structure ProvenanceExact (members : List AssetCandidate) (asset : AssetCandidate) : Prop where
  sound : ∀ source, ∀ value ∈ asList (metadataGet asset.metadata (SourceList.key source)),
    ¬ Unnamed value → value ∈ allProvided source members
  complete : ∀ source, ∀ value ∈ allProvided source members, ¬ Unnamed value →
    Covered Json.sameItem (asList (metadataGet asset.metadata source.key)) value

/-- Two scanners are named before the last of at least three candidates, and no candidate names a
scanner `multiple`. -/
def ReadsMark (members : List AssetCandidate) : Prop :=
  2 ≤ members.dropLast.length ∧
    1 < (distinctValues (allProvided .scanners members.dropLast)).length ∧
    .str "multiple" ∉ allProvided .scanners members

instance (members : List AssetCandidate) : Decidable (ReadsMark members) :=
  inferInstanceAs (Decidable (_ ∧ _ ∧ _))

end

theorem values_exact {source : SourceList} {existing incoming : AssetCandidate}
    {values : List Json} (hexisting : WellFormed existing)
    (hvalues : distinctValues (source.provided existing ++ source.provided incoming) =
      distinctValues values) :
    let merged := asList (metadataGet (mergeCandidates existing incoming).metadata source.key)
    (∀ value ∈ merged, ¬ Unnamed value → value ∈ values) ∧
      ∀ value ∈ values, ¬ Unnamed value → Covered Json.sameItem merged value := by
  dsimp only
  rcases @values_merge source existing incoming hexisting with heq | ⟨hnil, hunnamed⟩
  · rw [heq, hvalues]
    exact ⟨fun value hvalue _ => (mem_of_mem_distinct Unnamed Json.sameItem hvalue).1,
      fun value hvalue hnamed => covered_distinct Unnamed Json.sameItem hvalue hnamed⟩
  · rw [hvalues] at hnil
    exact ⟨fun value hvalue hnamed => absurd (hunnamed value hvalue) hnamed,
      fun value hvalue hnamed => absurd (distinctValues_eq_nil_iff.mp hnil value hvalue) hnamed⟩

theorem eq_of_sameItem_str {value : Json} {text : String}
    (h : value.sameItem (.str text) = true) : value = .str text := by
  rw [Json.sameItem, Bool.or_eq_true, decide_eq_true_eq] at h
  rcases h with heq | hpy
  · exact heq
  · cases value <;> simp_all [Json.pyEq, Json.number?]

theorem provenanceExact_iff_of_mergeAll {members : List AssetCandidate}
    (hmembers : ∀ candidate ∈ members, WellFormed candidate) {asset : AssetCandidate}
    (h : Dict.mergeAll mergeCandidates members = some asset) (htwo : 2 ≤ members.length) :
    ProvenanceExact members asset ↔ ¬ ReadsMark members := by
  induction members using List.reverseRecOn with
  | nil => cases h
  | append_singleton front incoming =>
      have hfront : front ≠ [] := by
        rintro rfl
        exact absurd htwo (Nat.lt_irrefl 1)
      -- the last merge is the one whose lists are compared, and what it reads of the front is known
      cases hmerged : Dict.mergeAll mergeCandidates front with
      | none => exact absurd ((Dict.mergeAll_eq_none_iff mergeCandidates).mp hmerged) hfront
      | some existing =>
          rw [Dict.mergeAll_concat mergeCandidates hmerged] at h
          obtain rfl := Option.some.inj h
          obtain ⟨hwellFormed, hscanners, hothers⟩ := mergedFrom_of_mergeAll
            (fun candidate hmem => hmembers candidate (List.mem_append_left _ hmem)) hmerged
          have hlists : ∀ source, Stands source existing (allProvided source front) →
              (∀ value ∈ asList (metadataGet (mergeCandidates existing incoming).metadata source.key),
                ¬ Unnamed value → value ∈ allProvided source (front ++ [incoming])) ∧
              ∀ value ∈ allProvided source (front ++ [incoming]), ¬ Unnamed value →
                Covered Json.sameItem (asList (metadataGet
                  (mergeCandidates existing incoming).metadata source.key)) value := by
            intro source hstands
            have hvalues := hstands.1 (source.provided incoming)
            rw [← allProvided_concat] at hvalues
            exact values_exact hwellFormed hvalues
          rw [ReadsMark, List.dropLast_concat]
          -- only the list of scanners can hold the mark that stands for several
          cases hscanners with
          | plain hstands hfew =>
              have hall : ∀ source, Stands source existing (allProvided source front) := by
                intro source
                by_cases heq : source = .scanners
                · exact heq ▸ hstands
                · exact hothers source heq
              constructor
              · rintro - ⟨hlength, hmany, -⟩
                exact absurd (hfew hlength) (not_le.mpr hmany)
              · intro _
                exact ⟨fun source => (hlists source (hall source)).1,
                  fun source => (hlists source (hall source)).2⟩
          | marked hmark hlength hmany hlong hmarks =>
              have hmerge := hmarks.merge hmark incoming
              constructor
              · -- the mark is in the list of the merge
                rintro hexact ⟨-, -, hnone⟩
                have hmem : .str "multiple" ∈ SourceList.scanners.provided existing ++
                    SourceList.scanners.provided incoming := by
                  rw [provided_of_mark hmark]
                  exact List.mem_append_left _ (List.mem_append_right _ List.mem_cons_self)
                obtain ⟨value, hvalue, hsame⟩ :=
                  covered_distinct Unnamed Json.sameItem hmem (by decide)
                have heq : value = .str "multiple" := hsame.elim id eq_of_sameItem_str
                apply hnone
                apply hexact.sound .scanners _ _ (by decide)
                rw [SourceList.key, metadataGet_merge_scanners, ← heq]
                exact hvalue
              · intro hnone
                -- with the mark among the members it is provided like any other name
                have hnamed : .str "multiple" ∈ allProvided .scanners (front ++ [incoming]) := by
                  by_contra hnot
                  exact hnone ⟨hlength, hmany, hnot⟩
                constructor
                · intro source value hvalue hkeep
                  by_cases heq : source = .scanners
                  · subst heq
                    rcases hmerge.sound value hvalue with hmem | rfl
                    · exact hmem
                    · exact hnamed
                  · exact (hlists source (hothers source heq)).1 value hvalue hkeep
                · intro source value hvalue hkeep
                  by_cases heq : source = .scanners
                  · subst heq
                    exact hmerge.complete value hvalue hkeep
                  · exact (hlists source (hothers source heq)).2 value hvalue hkeep

section

variable [PyText] (floatRepr : PyFloat → List Char)

/-- The merged assets of a job have exact provenance unless a merge takes the mark of an earlier one
for a scanner. -/
theorem provenance_exact_iff (candidates : List AssetCandidate)
    (hcandidates : ∀ candidate ∈ candidates, WellFormed candidate) :
    (∀ key asset, assetOf floatRepr candidates key = some asset →
      2 ≤ (members floatRepr candidates key).length →
        ProvenanceExact (members floatRepr candidates key) asset) ↔
      ∀ key, ¬ ReadsMark (members floatRepr candidates key) := by
  have hmembers : ∀ key, ∀ candidate ∈ members floatRepr candidates key, WellFormed candidate :=
    fun key candidate hmem => hcandidates candidate (List.mem_of_mem_filter hmem)
  constructor
  · intro h key hreads
    have htwo : 2 ≤ (members floatRepr candidates key).length := by
      have hlength := hreads.1
      rw [List.length_dropLast] at hlength
      omega
    cases hasset : assetOf floatRepr candidates key with
    | none =>
        rw [assetOf_eq, Dict.mergeAll_eq_none_iff] at hasset
        rw [hasset] at htwo
        exact absurd htwo (Nat.not_succ_le_zero 1)
    | some asset =>
        have hexact := h key asset hasset htwo
        rw [assetOf_eq] at hasset
        exact (provenanceExact_iff_of_mergeAll (hmembers key) hasset htwo).mp hexact hreads
  · intro h key asset hasset htwo
    rw [assetOf_eq] at hasset
    exact (provenanceExact_iff_of_mergeAll (hmembers key) hasset htwo).mpr (h key)

end

/-! ## 6. Three findings of one certificate -/

/-- A certificate that a scanner reports, at a path if the scanner reads files. -/
def seenCertificate (scanner : String) (path : Json) : AssetCandidate where
  targetId := 0
  scannerKind := scanner.toList
  name := "www".toList
  assetType := "certificate".toList
  algorithm := "RSA-2048".toList
  algorithmFamily := "RSA".toList
  bomRef := scanner.toList
  metadata := [("scanner", .str scanner), ("path", path), ("fingerprint_sha256", .str "ab")]

def threeFindings : List AssetCandidate :=
  [seenCertificate "network" .null,
    seenCertificate "agent.app_cert_files" (.str "/etc/ssl/www.crt"),
    seenCertificate "agent.app_cert_files" (.str "/etc/nginx/www.crt")]

theorem twoFindings_exact : letI := asciiText
    ProvenanceExact (members (fun _ => []) (threeFindings.take 2)
        "certificate:fingerprint:ab".toList)
      (mergeCandidates (seenCertificate "network" .null)
        (seenCertificate "agent.app_cert_files" (.str "/etc/ssl/www.crt"))) :=
  letI := asciiText
  (provenance_exact_iff (fun _ => []) (threeFindings.take 2) (by decide)).mpr
    (fun key hreads => by
      have hlength := hreads.1
      rw [List.length_dropLast] at hlength
      have hle : (members (fun _ => []) (threeFindings.take 2) key).length ≤ 2 :=
        List.length_filter_le _ _
      omega)
    "certificate:fingerprint:ab".toList _ (by decide +kernel) (by decide +kernel)

/-- The third merge lists a scanner `multiple`. -/
theorem thirdFinding_listsMark : letI := asciiText
    (∀ candidate ∈ threeFindings, WellFormed candidate) ∧
      ¬ ∀ key asset, assetOf (fun _ => []) threeFindings key = some asset →
        2 ≤ (members (fun _ => []) threeFindings key).length →
          ProvenanceExact (members (fun _ => []) threeFindings key) asset := by
  let := asciiText
  refine ⟨by decide, fun h => ?_⟩
  have hexact := h "certificate:fingerprint:ab".toList _
    (rfl : assetOf (fun _ => []) threeFindings _ = some (mergeCandidates (mergeCandidates
      (seenCertificate "network" .null)
      (seenCertificate "agent.app_cert_files" (.str "/etc/ssl/www.crt")))
      (seenCertificate "agent.app_cert_files" (.str "/etc/nginx/www.crt")))) (by decide +kernel)
  have hmem := hexact.sound .scanners (.str "multiple") (by decide +kernel) (by decide)
  exact absurd hmem (by decide +kernel)

end CryptoScanner.Scan
