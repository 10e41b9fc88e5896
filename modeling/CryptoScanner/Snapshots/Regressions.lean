import CryptoScanner.Snapshots.Diff

/-!
# Which downgrades a diff reports

The regressions are looked for among the modified assets alone, and the fields that make an asset
modified do not include the metadata, from which the strength reads the key size.
-/

namespace CryptoScanner.Snapshots

open Library Python

/-! ## 1. Downgrades -/

section

variable [PyText] [PyDigits] (limits : Limits)

/-- The strength of the later asset is known and lower than that of the earlier one, also known. -/
def WeakerAsset (before after : Asset) : Prop :=
  ∃ strength strength', algorithmStrength limits before = .ok strength ∧
    algorithmStrength limits after = .ok strength' ∧ strength.1 ≠ 0 ∧ strength'.1 ≠ 0 ∧
    Weaker strength' strength

def sharedPair (a b : SnapshotAssets) (ref : List Char) : Option (Asset × Asset) :=
  KeyedDiff.pairAt (assetsByRef a.assets) (assetsByRef b.assets) ref

def Downgraded (a b : SnapshotAssets) (ref : List Char) : Prop :=
  ∃ before after, sharedPair a b ref = some (before, after) ∧ WeakerAsset limits before after

/-- There is a response, and it reports every downgraded reference. -/
def ReportsDowngrades (a b : SnapshotAssets) : Prop :=
  ∀ ref, Downgraded limits a b ref → ∃ response, diffSnapshots limits a b = .ok response ∧
    ref ∈ response.regressions.map Regression.bomRef

/-- The four compared fields are the same, and only the key size shrinks. -/
def OnlySizeShrinks (before after : Asset) : Prop :=
  diffFieldChanges before after = [] ∧ familyRank before ≠ 0 ∧
    ∃ size size', algorithmSize limits before = .ok size ∧ algorithmSize limits after = .ok size' ∧
      size' < size

/-- Comparing the strengths raises nothing, or the algorithm is gone and they are not compared. -/
def Measurable (before after : Asset) : Prop :=
  before.algorithm ≠ [] ∧ after.algorithm = [] ∨
    (∃ size, algorithmSize limits before = .ok size) ∧ ∃ size, algorithmSize limits after = .ok size

/-! ## 2. The regressions of modified pairs -/

variable {limits} {before after : Asset} {pairs : List (Asset × Asset)}

theorem algorithmStrength_eq_ok {asset : Asset} {strength : Nat × Int} :
    algorithmStrength limits asset = .ok strength ↔
      ∃ size, algorithmSize limits asset = .ok size ∧ strength = (familyRank asset, size) := by
  unfold algorithmStrength
  cases algorithmSize limits asset with
  | error e => simp [Except.map]
  | ok size =>
      show Except.ok (familyRank asset, size) = Except.ok strength ↔ _
      simp [eq_comm]

/-- The comparison of two strengths that can both be computed. -/
theorem algorithmRegression_of_ok {strength strength' : Nat × Int}
    (hkept : ¬ (before.algorithm ≠ [] ∧ after.algorithm = []))
    (hbefore : algorithmStrength limits before = .ok strength)
    (hafter : algorithmStrength limits after = .ok strength') :
    ∃ found : Option Regression, algorithmRegression limits before after = .ok found ∧
      (∀ regression ∈ found, regression.bomRef = after.bomRef) ∧
      (found.isSome ↔ strength.1 ≠ 0 ∧ strength'.1 ≠ 0 ∧ Weaker strength' strength) := by
  unfold algorithmRegression
  rw [if_neg hkept]
  simp only [hbefore, hafter, Except.bind, bind]
  by_cases hunknown : strength.1 = 0 ∨ strength'.1 = 0
  · rw [if_pos hunknown]
    refine ⟨none, rfl, nofun, ?_⟩
    simp only [Option.isSome_none, Bool.false_eq_true, false_iff]
    tauto
  · rw [if_neg hunknown]
    by_cases hweaker : Weaker strength' strength
    · rw [if_neg (not_not.mpr hweaker)]
      refine ⟨some _, rfl, ?_, ?_⟩
      · intro regression hregression
        cases hregression
        rfl
      · simp only [Option.isSome_some, true_iff]
        tauto
    · rw [if_pos hweaker]
      refine ⟨none, rfl, nofun, ?_⟩
      simp only [Option.isSome_none, Bool.false_eq_true, false_iff]
      tauto

theorem algorithmRegression_ok_iff :
    (∃ found, algorithmRegression limits before after = .ok found) ↔
      Measurable limits before after := by
  by_cases hgone : before.algorithm ≠ [] ∧ after.algorithm = []
  · unfold algorithmRegression
    rw [if_pos hgone]
    exact ⟨fun _ => .inl hgone, fun _ => ⟨_, rfl⟩⟩
  constructor
  · rintro ⟨found, hfound⟩
    unfold algorithmRegression at hfound
    rw [if_neg hgone] at hfound
    cases hbefore : algorithmStrength limits before with
    | error e =>
        simp only [hbefore] at hfound
        cases hfound
    | ok strength =>
        cases hafter : algorithmStrength limits after with
        | error e =>
            simp only [hbefore, hafter] at hfound
            cases hfound
        | ok strength' =>
            obtain ⟨size, hsize, _⟩ := algorithmStrength_eq_ok.mp hbefore
            obtain ⟨size', hsize', _⟩ := algorithmStrength_eq_ok.mp hafter
            exact .inr ⟨⟨size, hsize⟩, size', hsize'⟩
  · rintro (h | ⟨⟨size, hsize⟩, size', hsize'⟩)
    · exact absurd h hgone
    · obtain ⟨found, hfound, _⟩ := algorithmRegression_of_ok hgone
        (algorithmStrength_eq_ok.mpr ⟨size, hsize, rfl⟩)
        (algorithmStrength_eq_ok.mpr ⟨size', hsize', rfl⟩)
      exact ⟨found, hfound⟩

/-- A regression of a pair names one of its two assets. -/
theorem bomRef_of_algorithmRegression {regression : Regression}
    (h : algorithmRegression limits before after = .ok (some regression)) :
    regression.bomRef = before.bomRef ∨ regression.bomRef = after.bomRef := by
  by_cases hgone : before.algorithm ≠ [] ∧ after.algorithm = []
  · unfold algorithmRegression at h
    rw [if_pos hgone] at h
    cases h
    exact .inl rfl
  · rcases algorithmRegression_ok_iff.mp ⟨_, h⟩ with hgone' | ⟨⟨size, hsize⟩, size', hsize'⟩
    · exact absurd hgone' hgone
    · obtain ⟨found, hfound, hname, _⟩ := algorithmRegression_of_ok hgone
        (algorithmStrength_eq_ok.mpr ⟨size, hsize, rfl⟩)
        (algorithmStrength_eq_ok.mpr ⟨size', hsize', rfl⟩)
      rw [h] at hfound
      cases hfound
      exact .inr (hname regression rfl)

/-- A weaker asset is a regression, whether or not its algorithm is gone. -/
theorem algorithmRegression_of_weaker (hweaker : WeakerAsset limits before after) :
    ∃ regression, algorithmRegression limits before after = .ok (some regression) := by
  obtain ⟨strength, strength', hbefore, hafter, hknown, hknown', hlower⟩ := hweaker
  by_cases hgone : before.algorithm ≠ [] ∧ after.algorithm = []
  · unfold algorithmRegression
    rw [if_pos hgone]
    exact ⟨_, rfl⟩
  · obtain ⟨found, hfound, _, hsome⟩ := algorithmRegression_of_ok hgone hbefore hafter
    obtain ⟨regression, rfl⟩ := Option.isSome_iff_exists.mp
      (hsome.mpr ⟨hknown, hknown', hlower⟩)
    exact ⟨regression, hfound⟩

theorem modifiedRegressions_ok_iff :
    (∃ regressions, modifiedRegressions limits pairs = .ok regressions) ↔
      ∀ pair ∈ pairs, Measurable limits pair.1 pair.2 := by
  induction pairs with
  | nil => exact ⟨fun _ => nofun, fun _ => ⟨[], rfl⟩⟩
  | cons pair pairs ih =>
      rw [List.forall_mem_cons, ← ih, ← algorithmRegression_ok_iff]
      show (∃ regressions, modifiedRegressions limits ((pair.1, pair.2) :: pairs) =
        .ok regressions) ↔ _
      rw [modifiedRegressions]
      cases hfirst : algorithmRegression limits pair.1 pair.2 with
      | error e => simp [bind, Except.bind]
      | ok found =>
          cases hrest : modifiedRegressions limits pairs with
          | error e => simp [bind, Except.bind]
          | ok rest => simp [bind, Except.bind, pure, Except.pure]

theorem mem_modifiedRegressions {regressions : List Regression} {regression : Regression}
    (h : modifiedRegressions limits pairs = .ok regressions) :
    regression ∈ regressions ↔
      ∃ pair ∈ pairs, algorithmRegression limits pair.1 pair.2 = .ok (some regression) := by
  induction pairs generalizing regressions with
  | nil =>
      cases h
      simp
  | cons pair pairs ih =>
      have hpair : modifiedRegressions limits ((pair.1, pair.2) :: pairs) = .ok regressions := h
      rw [modifiedRegressions] at hpair
      cases hfirst : algorithmRegression limits pair.1 pair.2 with
      | error e =>
          simp only [hfirst, bind, Except.bind] at hpair
          cases hpair
      | ok found =>
          cases hrest : modifiedRegressions limits pairs with
          | error e =>
              simp only [hfirst, hrest, bind, Except.bind] at hpair
              cases hpair
          | ok rest =>
              simp only [hfirst, hrest, bind, Except.bind] at hpair
              cases hpair
              rw [List.mem_append, ih hrest, List.exists_mem_cons_iff, hfirst]
              simp

/-! ## 3. Completeness -/

variable {a b : SnapshotAssets} {ref : List Char}

omit [PyText] [PyDigits] in
theorem bomRef_of_sharedPair (h : sharedPair a b ref = some (before, after)) :
    before.bomRef = ref ∧ after.bomRef = ref := by
  have hboth := KeyedDiff.pairAt_eq_some.mp h
  exact ⟨ownRefs_assetsByRef _ ref before hboth.1, ownRefs_assetsByRef _ ref after hboth.2⟩

omit [PyText] [PyDigits] in
/-- The modified pairs are the shared pairs with a changed field. -/
theorem mem_modifiedPairs {pair : Asset × Asset} :
    pair ∈ modifiedPairs (assetsByRef a.assets) (assetsByRef b.assets) ↔
      ∃ ref, sharedPair a b ref = some pair ∧ diffFieldChanges pair.1 pair.2 ≠ [] := by
  unfold modifiedPairs
  rw [List.mem_filterMap]
  constructor
  · rintro ⟨ref, href, hpair⟩
    obtain ⟨x, y, hxy, hchanged⟩ := KeyedDiff.mem_modifiedKeys.mp (mem_sortedRefs.mp href)
    rw [hxy] at hpair
    cases hpair
    refine ⟨ref, hxy, ?_⟩
    simpa [fieldsChanged] using hchanged
  · rintro ⟨ref, hpair, hchanged⟩
    have hmem : ref ∈ KeyedDiff.modifiedKeys fieldsChanged (assetsByRef a.assets)
        (assetsByRef b.assets) := by
      refine KeyedDiff.mem_modifiedKeys.mpr ⟨pair.1, pair.2, hpair, ?_⟩
      simpa [fieldsChanged] using hchanged
    exact ⟨ref, mem_sortedRefs.mpr hmem, hpair⟩

/-- The regressions of a response are the removed assets and those of the modified pairs. -/
theorem mem_regressions {response : SnapshotDiff} (h : diffSnapshots limits a b = .ok response)
    {regression : Regression} :
    regression ∈ response.regressions ↔
      (∃ asset ∈ addedAssets (assetsByRef b.assets) (assetsByRef a.assets),
        regression = assetRemoved asset) ∨
      ∃ pair ∈ modifiedPairs (assetsByRef a.assets) (assetsByRef b.assets),
        algorithmRegression limits pair.1 pair.2 = .ok (some regression) := by
  unfold diffSnapshots at h
  cases hregressions : modifiedRegressions limits
      (modifiedPairs (assetsByRef a.assets) (assetsByRef b.assets)) with
  | error e =>
      simp only [hregressions] at h
      cases h
  | ok downgrades =>
      simp only [hregressions] at h
      cases h
      show regression ∈ (addedAssets _ _).map assetRemoved ++ downgrades ↔ _
      rw [List.mem_append, List.mem_map, mem_modifiedRegressions hregressions]
      simp only [eq_comm]

/-- There is a response exactly if every modified pair can be measured. -/
theorem diffSnapshots_ok_iff : (∃ response, diffSnapshots limits a b = .ok response) ↔
    ∀ pair ∈ modifiedPairs (assetsByRef a.assets) (assetsByRef b.assets),
      Measurable limits pair.1 pair.2 := by
  rw [← modifiedRegressions_ok_iff]
  unfold diffSnapshots
  cases hregressions : modifiedRegressions limits
      (modifiedPairs (assetsByRef a.assets) (assetsByRef b.assets)) with
  | error e => simp [hregressions, bind, Except.bind]
  | ok downgrades => simp [hregressions, bind, Except.bind, pure, Except.pure]

/-- A shared reference among the regressions is that of a modified pair. -/
theorem changed_of_mem_regressions {response : SnapshotDiff}
    (h : diffSnapshots limits a b = .ok response)
    (hpair : sharedPair a b ref = some (before, after))
    (hmem : ref ∈ response.regressions.map Regression.bomRef) :
    diffFieldChanges before after ≠ [] := by
  obtain ⟨regression, hregression, hname⟩ := List.mem_map.mp hmem
  have hshared := KeyedDiff.mem_sharedKeys.mp (KeyedDiff.mem_sharedKeys_of_pairAt hpair)
  rcases (mem_regressions h).mp hregression with ⟨asset, hasset, rfl⟩ | ⟨pair, hmodified, hfound⟩
  · -- a removed asset has no partner in the later snapshot
    have href : asset.bomRef ∈ sortedRefs (KeyedDiff.addedKeys (assetsByRef b.assets)
        (assetsByRef a.assets)) := by
      rw [← map_bomRef_addedAssets (ownRefs_assetsByRef a.assets)]
      exact List.mem_map_of_mem hasset
    have hremoved := KeyedDiff.mem_addedKeys.mp (mem_sortedRefs.mp href)
    have heq : asset.bomRef = ref := hname
    rw [heq] at hremoved
    exact absurd hshared.2 hremoved.2
  · obtain ⟨other, hother, hchanged⟩ := mem_modifiedPairs.mp hmodified
    obtain ⟨hfirst, hsecond⟩ := bomRef_of_sharedPair hother
    have heq : other = ref := by
      rcases bomRef_of_algorithmRegression hfound with hbom | hbom
      · rw [← hfirst, ← hbom, hname]
      · rw [← hsecond, ← hbom, hname]
    rw [heq, hpair] at hother
    cases hother
    exact hchanged

omit [PyDigits] in
/-- Assets whose compared fields agree have the same family. -/
theorem familyRank_eq_of_unchanged (h : diffFieldChanges before after = []) :
    familyRank before = familyRank after := by
  have hfield : ∀ field ∈ diffFields, field.2 before = field.2 after := by
    intro field hmem
    by_contra hne
    have hnone := List.filterMap_eq_nil_iff.mp h field hmem
    rw [if_pos hne] at hnone
    cases hnone
  have halgorithm : before.algorithm = after.algorithm :=
    hfield ("algorithm", Asset.algorithm) (by simp [diffFields])
  have hfamily : before.algorithmFamily = after.algorithmFamily :=
    hfield ("algorithm_family", Asset.algorithmFamily) (by simp [diffFields])
  rw [familyRank, familyRank, halgorithm, hfamily]

/-- Without a changed field, only the size can make an asset weaker. -/
theorem weakerAsset_iff_of_unchanged (h : diffFieldChanges before after = []) :
    WeakerAsset limits before after ↔ OnlySizeShrinks limits before after := by
  have hrank := familyRank_eq_of_unchanged h
  constructor
  · rintro ⟨strength, strength', hbefore, hafter, hknown, _, hlower⟩
    obtain ⟨size, hsize, rfl⟩ := algorithmStrength_eq_ok.mp hbefore
    obtain ⟨size', hsize', rfl⟩ := algorithmStrength_eq_ok.mp hafter
    refine ⟨h, hknown, size, size', hsize, hsize', ?_⟩
    rcases hlower with hlower | ⟨_, hlower⟩
    · have hlt : familyRank after < familyRank before := hlower
      omega
    · exact hlower
  · rintro ⟨_, hknown, size, size', hsize, hsize', hlower⟩
    refine ⟨(familyRank before, size), (familyRank after, size'),
      algorithmStrength_eq_ok.mpr ⟨size, hsize, rfl⟩,
      algorithmStrength_eq_ok.mpr ⟨size', hsize', rfl⟩, hknown, ?_, .inr ⟨hrank.symm, hlower⟩⟩
    rw [← hrank]
    exact hknown

end

/-- **Every downgrade is reported** exactly if no asset keeps the compared fields while its key
size shrinks, and, where an asset is downgraded, no modified pair makes the comparison raise. -/
theorem reportsDowngrades_iff [PyText] [PyDigits] (limits : Limits) (a b : SnapshotAssets) :
    ReportsDowngrades limits a b ↔
      (∀ ref before after, sharedPair a b ref = some (before, after) →
        ¬ OnlySizeShrinks limits before after) ∧
      ((∃ ref, Downgraded limits a b ref) → ∀ ref before after,
        sharedPair a b ref = some (before, after) → diffFieldChanges before after ≠ [] →
          Measurable limits before after) := by
  constructor
  · intro h
    constructor
    · intro ref before after hpair hhidden
      have hweaker := (weakerAsset_iff_of_unchanged hhidden.1).mpr hhidden
      obtain ⟨response, hresponse, hmem⟩ := h ref ⟨before, after, hpair, hweaker⟩
      exact changed_of_mem_regressions hresponse hpair hmem hhidden.1
    · rintro ⟨ref, hdowngraded⟩ other before after hpair hchanged
      obtain ⟨response, hresponse, _⟩ := h ref hdowngraded
      exact diffSnapshots_ok_iff.mp ⟨response, hresponse⟩ (before, after)
        (mem_modifiedPairs.mpr ⟨other, hpair, hchanged⟩)
  · rintro ⟨hvisible, hmeasurable⟩ ref ⟨before, after, hpair, hweaker⟩
    have hchanged : diffFieldChanges before after ≠ [] := by
      intro hsame
      exact hvisible ref before after hpair ((weakerAsset_iff_of_unchanged hsame).mp hweaker)
    have hall : ∀ pair ∈ modifiedPairs (assetsByRef a.assets) (assetsByRef b.assets),
        Measurable limits pair.1 pair.2 := by
      intro pair hmodified
      obtain ⟨other, hother, hfields⟩ := mem_modifiedPairs.mp hmodified
      exact hmeasurable ⟨ref, before, after, hpair, hweaker⟩ other pair.1 pair.2 hother hfields
    obtain ⟨response, hresponse⟩ := diffSnapshots_ok_iff.mpr hall
    obtain ⟨regression, hfound⟩ := algorithmRegression_of_weaker hweaker
    have hreported : regression ∈ response.regressions :=
      (mem_regressions hresponse).mpr
        (.inr ⟨(before, after), mem_modifiedPairs.mpr ⟨ref, hpair, hchanged⟩, hfound⟩)
    have hname : regression.bomRef = ref := by
      obtain ⟨hbefore, hafter⟩ := bomRef_of_sharedPair hpair
      rcases bomRef_of_algorithmRegression hfound with hbom | hbom
      · rw [hbom, hbefore]
      · rw [hbom, hafter]
    refine ⟨response, hresponse, ?_⟩
    rw [← hname]
    exact List.mem_map_of_mem hreported

def sizedKey (snapshotId : Id) (bits : Int) : Asset where
  snapshot := some snapshotId
  target := none
  name := "server key".toList
  assetClass := "crypto".toList
  assetType := "private_key".toList
  bomRef := "key:server".toList
  algorithm := "RSA".toList
  algorithmFamily := "RSA".toList
  metadata := .dict [("key_size_bits", .int bits)]

/-- A key that shrinks from 4096 to 2048 bits counts as unchanged. -/
theorem shrunkKey_unreported : letI := asciiText
    letI := asciiDigits
    ¬ ∀ limits a b, ReportsDowngrades limits a b := by
  let := asciiText
  let := asciiDigits
  intro h
  have hreports := h { recursion := 1000 } { id := 0, assets := [sizedKey 0 4096] }
    { id := 1, assets := [sizedKey 1 2048] }
  rw [reportsDowngrades_iff] at hreports
  apply hreports.1 "key:server".toList (sizedKey 0 4096) (sizedKey 1 2048) (by decide +kernel)
  exact ⟨by decide +kernel, by decide +kernel, 4096, 2048, rfl, rfl, by decide⟩

end CryptoScanner.Snapshots
