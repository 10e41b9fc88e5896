import CryptoScanner.Snapshots.Regressions

/-!
# Partition and symmetry of the diff

The collections of a response partition the references of both snapshots, and the two directions of a
diff mirror each other.  A response is there as long as `_algorithm_size` raises on no asset that is
compared: its metadata is a dictionary, and what it hands to `int` is a number.
-/

namespace CryptoScanner.Snapshots

open Library Python

/-! ## 1. Sizes that can be read -/

section

variable [PyText] [PyDigits] (limits : Limits)

def sizeKeys : List String := ["key_size_bits", "key_size", "bits"]

/-- A value that `_algorithm_size` takes for a size: an integer, or a text with `isdigit`. -/
def isSize : Json → Bool
  | .bool _ | .int _ => true
  | .str text => isDigitText text.toList
  | .null | .float _ | .list _ | .dict _ => false

/-- `int` reads the value. -/
def isIntText : Json → Bool
  | .str text => (intOfText limits text.toList).isSome
  | _ => true

/-- The first size in the metadata is a number; without one, every number in the algorithm and its
family is not too long for `int`. -/
def sizeReadableIn (metadata : List (String × Json)) (asset : Asset) : Bool :=
  match (sizeKeys.map fun key => (metadata.lookup key).getD .null).find? isSize with
  | some value => isIntText limits value
  | none => (digitRuns (asset.algorithm ++ ' ' :: asset.algorithmFamily)).all fun digits =>
      (intOfText limits digits).isSome

def sizeReadable (asset : Asset) : Bool :=
  match asset.metadata with
  | .dict metadata => sizeReadableIn limits metadata asset
  | value => !value.truthy && sizeReadableIn limits [] asset

variable {limits}

omit [PyDigits] in
theorem intOrValueError_ok_iff {text : List Char} :
    (∃ n, intOrValueError limits text = .ok n) ↔ (intOfText limits text).isSome = true := by
  unfold intOrValueError
  cases intOfText limits text with
  | none => simp
  | some n => simp

theorem metadataSize_eq (metadata : List (String × Json)) (keys : List String) :
    metadataSize limits metadata keys =
      match (keys.map fun key => (metadata.lookup key).getD .null).find? isSize with
      | some value => sizeOfValue limits value
      | none => .ok none := by
  induction keys with
  | nil => rfl
  | cons key keys ih =>
      rw [metadataSize, List.map_cons]
      cases hvalue : (metadata.lookup key).getD .null with
      | bool b => rfl
      | int n => rfl
      | null | float x | list items | dict entries => exact ih
      | str text =>
          cases hdigits : isDigitText text.toList with
          | false =>
              have hskip : isSize (.str text) = false := hdigits
              rw [List.find?_cons_of_neg (by simp [hskip])]
              simp only [sizeOfValue, hdigits]
              exact ih
          | true =>
              have hsize : isSize (.str text) = true := hdigits
              rw [List.find?_cons_of_pos hsize]
              simp only [sizeOfValue, hdigits, if_true]
              cases intOrValueError limits text.toList <;> rfl

/-- A size is read as an integer, or `int` raises. -/
theorem sizeOfValue_of_isSize {value : Json} (h : isSize value = true) :
    ∃ outcome : Except DiffError Int, sizeOfValue limits value = outcome.map some ∧
      ((∃ n, outcome = .ok n) ↔ isIntText limits value = true) := by
  cases value with
  | bool b => exact ⟨.ok _, rfl, iff_of_true ⟨_, rfl⟩ rfl⟩
  | int n => exact ⟨.ok n, rfl, iff_of_true ⟨n, rfl⟩ rfl⟩
  | null | float x | list items | dict entries => cases h
  | str text =>
      have hdigits : isDigitText text.toList = true := h
      refine ⟨intOrValueError limits text.toList, ?_, intOrValueError_ok_iff⟩
      simp only [sizeOfValue, hdigits, if_true]

omit [PyDigits] in
theorem intsOf_ok_iff (texts : List (List Char)) :
    (∃ values, intsOf limits texts = .ok values) ↔
      texts.all (fun digits => (intOfText limits digits).isSome) = true := by
  induction texts with
  | nil => exact iff_of_true ⟨_, rfl⟩ rfl
  | cons text texts ih =>
      rw [List.all_cons, Bool.and_eq_true, ← intOrValueError_ok_iff, ← ih, intsOf]
      cases intOrValueError limits text with
      | error e => simp [bind, Except.bind]
      | ok n =>
          cases intsOf limits texts with
          | error e => simp [bind, Except.bind]
          | ok values => simp [bind, Except.bind, pure, Except.pure]

theorem algorithmSize_ok_iff {asset : Asset} :
    (∃ size, algorithmSize limits asset = .ok size) ↔ sizeReadable limits asset = true := by
  have hread : ∀ metadata, metadataDict asset.metadata = .ok metadata →
      ((∃ size, algorithmSize limits asset = .ok size) ↔
        sizeReadableIn limits metadata asset = true) := by
    intro metadata hmetadata
    unfold algorithmSize sizeReadableIn
    rw [hmetadata]
    simp only [bind, Except.bind]
    rw [show ["key_size_bits", "key_size", "bits"] = sizeKeys from rfl, metadataSize_eq]
    cases hfirst : (sizeKeys.map fun key => (metadata.lookup key).getD .null).find? isSize with
    | some value =>
        obtain ⟨outcome, hvalue, hreadable⟩ :=
          @sizeOfValue_of_isSize _ _ limits value (List.find?_some hfirst)
        simp only [hvalue, ← hreadable]
        cases outcome <;> simp [Except.map, pure, Except.pure]
    | none =>
        simp only [← intsOf_ok_iff]
        cases intsOf limits (digitRuns (asset.algorithm ++ ' ' :: asset.algorithmFamily)) <;>
          simp [pure, Except.pure]
  unfold sizeReadable
  cases hmetadata : asset.metadata with
  | dict metadata =>
      apply hread metadata
      rw [hmetadata]
      rfl
  | null | bool b | int n | float x | str text | list items =>
      dsimp only
      rw [← hmetadata, Bool.and_eq_true]
      cases htruthy : asset.metadata.truthy with
      | true =>
          have herror : metadataDict asset.metadata = .error .attributeError := by
            rw [hmetadata] at htruthy ⊢
            simp only [metadataDict, htruthy, if_true]
          simp [algorithmSize, herror, bind, Except.bind]
      | false =>
          have hempty : metadataDict asset.metadata = .ok [] := by
            rw [hmetadata] at htruthy ⊢
            simp only [metadataDict, htruthy, Bool.false_eq_true, if_false]
          simpa using hread [] hempty

end

/-! ## 2. Both directions of a diff -/

section

variable [PyText] [PyDigits] (limits : Limits)

/-- Both directions return; the first partitions the references and the second mirrors it. -/
def DiffsExactly (a b : SnapshotAssets) : Prop :=
  ∃ response response', diffSnapshots limits a b = .ok response ∧
    diffSnapshots limits b a = .ok response' ∧
    DiffPartition a.refs b.refs response.toCollections ∧
    DiffSwapped response.toCollections response'.toCollections

variable {limits}

/-- The strengths are compared in one of the two directions at least. -/
theorem measurable_both_iff {before after : Asset} :
    Measurable limits before after ∧ Measurable limits after before ↔
      sizeReadable limits before = true ∧ sizeReadable limits after = true := by
  rw [← algorithmSize_ok_iff, ← algorithmSize_ok_iff]
  unfold Measurable
  constructor
  · rintro ⟨⟨hkept, hgone⟩ | hsizes, hback⟩
    · -- an algorithm that is gone one way is new the other way
      rcases hback with ⟨hnew, -⟩ | hsizes
      · exact absurd hgone hnew
      · exact hsizes.symm
    · exact hsizes
  · intro hsizes
    exact ⟨.inr hsizes, .inr hsizes.symm⟩

omit [PyText] [PyDigits] in
theorem mem_modifiedPairs_swap {a b : SnapshotAssets} {before after : Asset} :
    (before, after) ∈ modifiedPairs (assetsByRef a.assets) (assetsByRef b.assets) ↔
      (after, before) ∈ modifiedPairs (assetsByRef b.assets) (assetsByRef a.assets) := by
  rw [@modifiedPairs_swap (assetsByRef a.assets) (assetsByRef b.assets) nodup_keys_assetsByRef
    nodup_keys_assetsByRef, List.mem_map]
  constructor
  · intro h
    exact ⟨(before, after), h, rfl⟩
  · rintro ⟨⟨x, y⟩, h, heq⟩
    cases heq
    exact h

variable (limits)

/-- **Partition and symmetry**: both directions of a diff return, and are what they should be, exactly
if the sizes of the assets with a changed field can be read. -/
theorem diffSnapshots_exact_iff (a b : SnapshotAssets) :
    DiffsExactly limits a b ↔ ∀ ref before after, sharedPair a b ref = some (before, after) →
      diffFieldChanges before after ≠ [] →
        sizeReadable limits before = true ∧ sizeReadable limits after = true := by
  constructor
  · rintro ⟨response, response', hforth, hback, -⟩ ref before after hpair hchanged
    have hmem := mem_modifiedPairs.mpr ⟨ref, hpair, hchanged⟩
    have hmeasurable := diffSnapshots_ok_iff.mp ⟨response, hforth⟩ _ hmem
    have hmeasurable' := diffSnapshots_ok_iff.mp ⟨response', hback⟩ _
      (mem_modifiedPairs_swap.mp hmem)
    exact measurable_both_iff.mp ⟨hmeasurable, hmeasurable'⟩
  · intro hreadable
    have hboth : ∀ before after,
        (before, after) ∈ modifiedPairs (assetsByRef a.assets) (assetsByRef b.assets) →
          Measurable limits before after ∧ Measurable limits after before := by
      intro before after hmem
      obtain ⟨ref, hpair, hchanged⟩ := mem_modifiedPairs.mp hmem
      exact measurable_both_iff.mpr (hreadable ref before after hpair hchanged)
    obtain ⟨response, hforth⟩ : ∃ response, diffSnapshots limits a b = .ok response :=
      diffSnapshots_ok_iff.mpr fun pair hmem => (hboth pair.1 pair.2 hmem).1
    obtain ⟨response', hback⟩ : ∃ response', diffSnapshots limits b a = .ok response' :=
      diffSnapshots_ok_iff.mpr fun pair hmem =>
        (hboth pair.2 pair.1 (mem_modifiedPairs_swap.mp hmem)).2
    refine ⟨response, response', hforth, hback, ?_⟩
    rw [diffSnapshots_toCollections hforth, diffSnapshots_toCollections hback]
    exact diffCollections_partition_swapped a b

end

/-- The digits of an interpreter that knows the superscript two and no other character beyond
ASCII. -/
@[reducible] def superscriptDigits : letI := asciiText
    PyDigits :=
  letI := asciiText
  { isDigit := fun c => c.isDigit || c = '²'
    isDigit_of_decimal := by
      intro c d h
      have hdigit : c.isDigit = true := asciiDigits.isDigit_of_decimal c d h
      rw [hdigit, Bool.true_or]
    isDigit_ascii := by
      intro c hc
      have hne : c ≠ '²' := by
        rintro rfl
        cases hc
      rw [decide_eq_false hne, Bool.or_false] }

def writtenKey (snapshotId : Id) (algorithm bits : String) : Asset where
  snapshot := some snapshotId
  target := none
  name := "server key".toList
  assetClass := "crypto".toList
  assetType := "private_key".toList
  bomRef := "key:server".toList
  algorithm := algorithm.toList
  algorithmFamily := "RSA".toList
  metadata := .dict [("key_size_bits", .str bits)]

def writtenKeys (snapshotId : Id) (algorithm bits : String) : SnapshotAssets where
  id := snapshotId
  assets := [writtenKey snapshotId algorithm bits]

theorem renamedKey_diffed : letI := asciiText
    letI := superscriptDigits
    DiffsExactly { recursion := 1000 } (writtenKeys 0 "RSA-2048" "2048")
      (writtenKeys 1 "RSA-3072" "3072") := by
  apply (@diffSnapshots_exact_iff asciiText superscriptDigits _ _ _).mpr
  intro ref before after hpair hchanged
  have hmem := mem_modifiedPairs.mpr ⟨ref, hpair, hchanged⟩
  have hreadable : ∀ pair ∈ modifiedPairs (assetsByRef (writtenKeys 0 "RSA-2048" "2048").assets)
      (assetsByRef (writtenKeys 1 "RSA-3072" "3072").assets),
      @sizeReadable asciiText superscriptDigits { recursion := 1000 } pair.1 = true ∧
        @sizeReadable asciiText superscriptDigits { recursion := 1000 } pair.2 = true := by
    decide +kernel
  exact hreadable (before, after) hmem

/-- `isdigit` accepts a superscript, which `int` does not read. -/
theorem superscriptSize_raises : letI := asciiText
    letI := superscriptDigits
    ¬ ∀ limits a b, DiffsExactly limits a b := by
  intro h
  have hexact := h { recursion := 1000 } (writtenKeys 0 "RSA-2048" "2048")
    (writtenKeys 1 "RSA-3072" "²")
  have hreadable := (@diffSnapshots_exact_iff asciiText superscriptDigits _ _ _).mp hexact
    "key:server".toList (writtenKey 0 "RSA-2048" "2048") (writtenKey 1 "RSA-3072" "²")
    (by decide +kernel) (by decide +kernel)
  exact absurd hreadable.2 (by decide +kernel)

end CryptoScanner.Snapshots
