import CryptoScanner.Snapshots.Regressions

/-!
# Regressions in both directions

Two downgrades cannot go opposite ways, since the strengths are ordered.  A lost algorithm is a
regression of another kind: the strength of an asset without an algorithm comes from its family and
its metadata, and may be the greater of the two.
-/

namespace CryptoScanner.Snapshots

open Library Python

theorem weaker_asymm {strength strength' : Nat × Int} (h : Weaker strength strength') :
    ¬ Weaker strength' strength := by
  unfold Weaker at *
  omega

theorem exists_of_isOk {ε α : Type} {x : Except ε α} (h : x.isOk = true) : ∃ a, x = .ok a := by
  cases x with
  | error e => cases h
  | ok a => exact ⟨a, rfl⟩

section

variable [PyText] [PyDigits] (limits : Limits)

/-- There is a response, and it reports an algorithm regression of the reference. -/
def AlgorithmRegressed (a b : SnapshotAssets) (ref : List Char) : Prop :=
  ∃ response, diffSnapshots limits a b = .ok response ∧ ∃ regression ∈ response.regressions,
    regression.bomRef = ref ∧
      (regression.kind = "algorithm_removed" ∨ regression.kind = "algorithm_downgrade")

def AlgorithmLost (before after : Asset) : Prop := before.algorithm ≠ [] ∧ after.algorithm = []

/-- Only one asset of the reference has an algorithm, and it is the weaker one. -/
def WeakerOneIsNamed (a b : SnapshotAssets) (ref : List Char) : Prop :=
  ∃ x y, sharedPair a b ref = some (x, y) ∧
    (AlgorithmLost x y ∧ WeakerAsset limits y x ∨ AlgorithmLost y x ∧ WeakerAsset limits x y)

variable {limits} {before after x y : Asset} {a b : SnapshotAssets} {ref : List Char}

omit [PyText] [PyDigits] in
theorem sharedPair_comm : sharedPair a b ref = some (x, y) ↔ sharedPair b a ref = some (y, x) := by
  unfold sharedPair
  rw [KeyedDiff.pairAt_eq_some, KeyedDiff.pairAt_eq_some]
  exact and_comm

theorem weakerAsset_asymm (h : WeakerAsset limits x y) : ¬ WeakerAsset limits y x := by
  rintro ⟨strength, strength', hy, hx, -, -, hlower⟩
  obtain ⟨_, _, hx', hy', -, -, hlower'⟩ := h
  -- an asset has one strength, and the strengths are ordered
  obtain rfl := Except.ok.inj (hx.symm.trans hx')
  obtain rfl := Except.ok.inj (hy.symm.trans hy')
  exact weaker_asymm hlower hlower'

/-- A pair regresses by the loss of its algorithm, or else by its strengths. -/
theorem algorithmRegression_some_iff :
    (∃ regression, algorithmRegression limits before after = .ok (some regression)) ↔
      AlgorithmLost before after ∨ WeakerAsset limits before after := by
  constructor
  · rintro ⟨regression, h⟩
    -- the loss of the algorithm is looked at first, before any strength is computed
    by_cases hlost : AlgorithmLost before after
    · exact .inl hlost
    · right
      rcases algorithmRegression_ok_iff.mp ⟨_, h⟩ with hlost' | ⟨⟨size, hsize⟩, size', hsize'⟩
      · exact absurd hlost' hlost
      · have hbefore := algorithmStrength_eq_ok.mpr ⟨size, hsize, rfl⟩
        have hafter := algorithmStrength_eq_ok.mpr ⟨size', hsize', rfl⟩
        obtain ⟨found, hfound, -, hsome⟩ := algorithmRegression_of_ok hlost hbefore hafter
        obtain rfl := Except.ok.inj (h.symm.trans hfound)
        exact ⟨_, _, hbefore, hafter, hsome.mp rfl⟩
  · rintro (⟨hnamed, hgone⟩ | hweaker)
    · unfold algorithmRegression
      rw [if_pos ⟨hnamed, hgone⟩]
      exact ⟨_, rfl⟩
    · exact algorithmRegression_of_weaker hweaker

theorem kind_of_algorithmRegression {regression : Regression}
    (h : algorithmRegression limits before after = .ok (some regression)) :
    regression.kind = "algorithm_removed" ∨ regression.kind = "algorithm_downgrade" := by
  unfold algorithmRegression at h
  by_cases hlost : before.algorithm ≠ [] ∧ after.algorithm = []
  · rw [if_pos hlost] at h
    cases h
    exact .inl rfl
  · rw [if_neg hlost] at h
    cases hbefore : algorithmStrength limits before with
    | error e =>
        simp only [hbefore] at h
        cases h
    | ok strength =>
        cases hafter : algorithmStrength limits after with
        | error e =>
            simp only [hbefore, hafter] at h
            cases h
        | ok strength' =>
            simp only [hbefore, hafter, bind, Except.bind] at h
            split at h
            · cases h
            · split at h
              · cases h
              · cases h
                exact .inr rfl

/-- The report for a shared reference, by its pair of assets. -/
theorem algorithmRegressed_iff (hpair : sharedPair a b ref = some (before, after)) :
    AlgorithmRegressed limits a b ref ↔ (∃ response, diffSnapshots limits a b = .ok response) ∧
      diffFieldChanges before after ≠ [] ∧
      (AlgorithmLost before after ∨ WeakerAsset limits before after) := by
  obtain ⟨hbefore, hafter⟩ := bomRef_of_sharedPair hpair
  rw [← algorithmRegression_some_iff]
  constructor
  · rintro ⟨response, hresponse, regression, hmem, hname, hkind⟩
    have hreported : ref ∈ response.regressions.map Regression.bomRef :=
      List.mem_map.mpr ⟨regression, hmem, hname⟩
    refine ⟨⟨response, hresponse⟩, changed_of_mem_regressions hresponse hpair hreported, ?_⟩
    rcases (mem_regressions hresponse).mp hmem with ⟨_, _, rfl⟩ | ⟨pair, hmodified, hfound⟩
    · -- a removed asset is reported under another kind
      change "asset_removed" = _ ∨ "asset_removed" = _ at hkind
      exact absurd hkind (by decide)
    · obtain ⟨other, hother, -⟩ := mem_modifiedPairs.mp hmodified
      obtain ⟨hfirst, hsecond⟩ := bomRef_of_sharedPair hother
      have heq : other = ref := by
        rcases bomRef_of_algorithmRegression hfound with hbom | hbom
        · rw [← hfirst, ← hbom, hname]
        · rw [← hsecond, ← hbom, hname]
      rw [heq, hpair] at hother
      cases hother
      exact ⟨regression, hfound⟩
  · rintro ⟨⟨response, hresponse⟩, hchanged, regression, hfound⟩
    refine ⟨response, hresponse, regression, ?_, ?_, kind_of_algorithmRegression hfound⟩
    · exact (mem_regressions hresponse).mpr
        (.inr ⟨(before, after), mem_modifiedPairs.mpr ⟨ref, hpair, hchanged⟩, hfound⟩)
    · rcases bomRef_of_algorithmRegression hfound with hbom | hbom
      · rw [hbom, hbefore]
      · rw [hbom, hafter]

omit [PyText] [PyDigits] in
theorem changed_of_algorithm_ne (h : before.algorithm ≠ after.algorithm) :
    diffFieldChanges before after ≠ [] := by
  intro hnone
  have hfield := List.filterMap_eq_nil_iff.mp hnone ("algorithm", Asset.algorithm)
    (by simp [diffFields])
  rw [if_pos h] at hfield
  cases hfield

end

/-- **The diffs in both directions** report an algorithm regression of one shared reference exactly
if both return and only the weaker of its two assets has an algorithm. -/
theorem regressedBothWays_iff [PyText] [PyDigits] (limits : Limits) (a b : SnapshotAssets)
    (ref : List Char) :
    (sharedPair a b ref ≠ none ∧
        AlgorithmRegressed limits a b ref ∧ AlgorithmRegressed limits b a ref) ↔
      (∃ response, diffSnapshots limits a b = .ok response) ∧
        (∃ response, diffSnapshots limits b a = .ok response) ∧ WeakerOneIsNamed limits a b ref := by
  constructor
  · rintro ⟨hshared, hforth, hback⟩
    obtain ⟨⟨x, y⟩, hpair⟩ := Option.ne_none_iff_exists'.mp hshared
    obtain ⟨hresponse, -, hforth⟩ := (algorithmRegressed_iff hpair).mp hforth
    obtain ⟨hresponse', -, hback⟩ := (algorithmRegressed_iff (sharedPair_comm.mp hpair)).mp hback
    refine ⟨hresponse, hresponse', x, y, hpair, ?_⟩
    rcases hforth with hlost | hweaker
    · rcases hback with hlost' | hweaker'
      · exact absurd hlost'.2 hlost.1
      · exact .inl ⟨hlost, hweaker'⟩
    · rcases hback with hlost' | hweaker'
      · exact .inr ⟨hlost', hweaker⟩
      · exact absurd hweaker' (weakerAsset_asymm hweaker)
  · rintro ⟨hresponse, hresponse', x, y, hpair, hnamed⟩
    have hback := sharedPair_comm.mp hpair
    have hshared : sharedPair a b ref ≠ none := by
      rw [hpair]
      exact Option.some_ne_none _
    rw [algorithmRegressed_iff hpair, algorithmRegressed_iff hback]
    refine ⟨hshared, ⟨hresponse, ?_⟩, hresponse', ?_⟩
    · rcases hnamed with ⟨hlost, -⟩ | ⟨hlost, hweaker⟩
      · exact ⟨changed_of_algorithm_ne (hlost.2 ▸ hlost.1), .inl hlost⟩
      · exact ⟨changed_of_algorithm_ne (hlost.2 ▸ hlost.1.symm), .inr hweaker⟩
    · rcases hnamed with ⟨hlost, hweaker⟩ | ⟨hlost, -⟩
      · exact ⟨changed_of_algorithm_ne (hlost.2 ▸ hlost.1.symm), .inr hweaker⟩
      · exact ⟨changed_of_algorithm_ne (hlost.2 ▸ hlost.1), .inl hlost⟩

/-- A key whose algorithm is known before, and only its greater size after. -/
theorem renamedKey_both : letI := asciiText
    letI := asciiDigits
    ¬ ∀ limits a b ref, sharedPair a b ref ≠ none →
      ¬ (AlgorithmRegressed limits a b ref ∧ AlgorithmRegressed limits b a ref) := by
  let := asciiText
  let := asciiDigits
  intro h
  let limits : Limits := { recursion := 1000 }
  let before := sizedKey 0 1024
  let after := { sizedKey 1 2048 with algorithm := [] }
  let a : SnapshotAssets := { id := 0, assets := [before] }
  let b : SnapshotAssets := { id := 1, assets := [after] }
  have hpair : sharedPair a b "key:server".toList = some (before, after) := by decide +kernel
  have hback : sharedPair b a "key:server".toList = some (after, before) := sharedPair_comm.mp hpair
  have hforth : (diffSnapshots limits a b).isOk = true := by decide +kernel
  have hbackOk : (diffSnapshots limits b a).isOk = true := by decide +kernel
  have hlost : AlgorithmLost before after := ⟨by decide, rfl⟩
  have hsize : algorithmSize limits before = .ok 1024 := by decide +kernel
  have hsize' : algorithmSize limits after = .ok 2048 := by decide +kernel
  have hweaker : WeakerAsset limits after before := by
    refine ⟨_, _, algorithmStrength_eq_ok.mpr ⟨2048, hsize', rfl⟩,
      algorithmStrength_eq_ok.mpr ⟨1024, hsize, rfl⟩, ?_⟩
    decide +kernel
  have hchanged := changed_of_algorithm_ne (hlost.2 ▸ hlost.1)
  apply h limits a b "key:server".toList (by rw [hpair]; exact Option.some_ne_none _)
  rw [algorithmRegressed_iff hpair, algorithmRegressed_iff hback]
  exact ⟨⟨exists_of_isOk hforth, hchanged, .inl hlost⟩,
    exists_of_isOk hbackOk, changed_of_algorithm_ne (hlost.2 ▸ hlost.1.symm), .inr hweaker⟩

end CryptoScanner.Snapshots
