import CryptoScanner.Llm.QualitativeRisk
import CryptoScanner.Python.JsonEncoder

/-!
# Reading back a response that was written

The dict of a response, as `json.dumps` gets it, and what `parse_qualitative_risk_response` makes of
its text.  A response within the schema comes back with the white space around its texts cut off.
-/

namespace CryptoScanner.Llm

open Library Python

/-! ## 1. The dict of a response -/

def textsJson (texts : List (List Char)) : Json := .list (texts.map fun text => .str (.ofList text))

def Criterion.members (spec : CriterionSpec) (c : Criterion) : JsonObject :=
  [("question", .str (.ofList c.question)), ("rating", .str (.ofList c.rating)),
    ("score", .float (.finite c.score))] ++
  (if spec.hasLifespan then
    [("lifespan_years", match c.lifespanYears with
      | some years => .int years
      | none => .null)]
  else []) ++
  (c.choices.map fun choice => (choice.1, .str (.ofList choice.2))) ++
  (c.lists.map fun entry => (entry.1, textsJson entry.2)) ++
  [("rationale", .str (.ofList c.rationale)), ("signals", textsJson c.signals)]

def DhsCriteria.members (criteria : DhsCriteria) : JsonObject :=
  [("asset_value", .dict (criteria.assetValue.members assetValueSpec)),
    ("protected_information", .dict (criteria.protectedInformation.members protectedInformationSpec)),
    ("communication_scope", .dict (criteria.communicationScope.members communicationScopeSpec)),
    ("sharing_level", .dict (criteria.sharingLevel.members sharingLevelSpec)),
    ("critical_infrastructure",
      .dict (criteria.criticalInfrastructure.members criticalInfrastructureSpec)),
    ("protection_duration", .dict (criteria.protectionDuration.members protectionDurationSpec))]

def QualitativeResponse.members (r : QualitativeResponse) : JsonObject :=
  [("summary", .str (.ofList r.summary)), ("threat_scenarios", textsJson r.threatScenarios),
    ("migration_recommendation", .str (.ofList r.migrationRecommendation)),
    ("dhs_criteria", .dict r.dhsCriteria.members), ("confidence", .float (.finite r.confidence))]

section

variable [PyText]

/-- A text that is not white space only. -/
def Nonblank (text : List Char) : Prop := ∃ c ∈ text, PyText.isSpace c = false

/-! ## 2. The schema -/

/-- A criterion as the schema wants it, with its words spelled in lower case. -/
structure Criterion.Valid (spec : CriterionSpec) (limits : Limits) (c : Criterion) : Prop where
  question : c.question = spec.question.toList
  rating : c.rating ∈ ratings.map String.toList
  score : TwoPlaces c.score
  choices : List.Forall₂ (fun choice value =>
    value.1 = choice.1 ∧ value.2 ∈ choice.2.map String.toList) spec.choices c.choices
  lifespan : c.lifespanYears ≠ none → spec.hasLifespan = true
  lifespan_nonneg : ∀ years ∈ c.lifespanYears,
    0 ≤ years ∧ (decimalText years.natAbs).length ≤ limits.intDigits
  lists : List.Forall₂ (fun key texts =>
    texts.1 = key ∧ texts.2 ≠ [] ∧ ∀ text ∈ texts.2, Nonblank text) spec.lists c.lists
  rationale : Nonblank c.rationale
  signals_ne : c.signals ≠ []
  signals : ∀ signal ∈ c.signals, Nonblank signal

structure DhsCriteria.Valid (limits : Limits) (criteria : DhsCriteria) : Prop where
  assetValue : criteria.assetValue.Valid assetValueSpec limits
  protectedInformation : criteria.protectedInformation.Valid protectedInformationSpec limits
  communicationScope : criteria.communicationScope.Valid communicationScopeSpec limits
  sharingLevel : criteria.sharingLevel.Valid sharingLevelSpec limits
  criticalInfrastructure : criteria.criticalInfrastructure.Valid criticalInfrastructureSpec limits
  protectionDuration : criteria.protectionDuration.Valid protectionDurationSpec limits

structure QualitativeResponse.Valid (limits : Limits) (r : QualitativeResponse) : Prop where
  summary : Nonblank r.summary
  threatScenarios_ne : r.threatScenarios ≠ []
  threatScenarios : ∀ scenario ∈ r.threatScenarios, Nonblank scenario
  migrationRecommendation : Nonblank r.migrationRecommendation
  dhsCriteria : r.dhsCriteria.Valid limits
  confidence : TwoPlaces r.confidence

/-- The texts of a criterion without the white space around them. -/
def Criterion.trimmed (c : Criterion) : Criterion :=
  { c with
    lists := c.lists.map fun entry => (entry.1, entry.2.map strip)
    rationale := strip c.rationale
    signals := c.signals.map strip }

def DhsCriteria.trimmed (criteria : DhsCriteria) : DhsCriteria where
  assetValue := criteria.assetValue.trimmed
  protectedInformation := criteria.protectedInformation.trimmed
  communicationScope := criteria.communicationScope.trimmed
  sharingLevel := criteria.sharingLevel.trimmed
  criticalInfrastructure := criteria.criticalInfrastructure.trimmed
  protectionDuration := criteria.protectionDuration.trimmed

def QualitativeResponse.trimmed (r : QualitativeResponse) : QualitativeResponse :=
  { r with
    summary := strip r.summary
    threatScenarios := r.threatScenarios.map strip
    migrationRecommendation := strip r.migrationRecommendation
    dhsCriteria := r.dhsCriteria.trimmed }

/-! ## 3. Texts and numbers -/

theorem strip_ne_nil {text : List Char} (h : Nonblank text) : strip text ≠ [] := by
  obtain ⟨before, after, heq, hbefore, hafter⟩ := exists_strip_append text
  obtain ⟨c, hc, hspace⟩ := h
  intro hnil
  rw [hnil, List.append_nil] at heq
  rw [heq, List.mem_append] at hc
  rcases hc with hc | hc
  · rw [hbefore c hc] at hspace
    cases hspace
  · rw [hafter c hc] at hspace
    cases hspace

theorem Nonblank.of_ascii {text : List Char}
    (h : ∃ c ∈ text, isAscii c = true ∧ isAsciiSpace c = false) : Nonblank text := by
  obtain ⟨c, hc, hascii, hspace⟩ := h
  exact ⟨c, hc, (PyText.isSpace_ascii c hascii).trans hspace⟩

theorem Nonblank.append_right {text : List Char} (h : Nonblank text) (more : List Char) :
    Nonblank (text ++ more) := by
  obtain ⟨c, hc, hspace⟩ := h
  exact ⟨c, List.mem_append_left _ hc, hspace⟩

theorem Nonblank.append_left {text : List Char} (h : Nonblank text) (more : List Char) :
    Nonblank (more ++ text) := by
  obtain ⟨c, hc, hspace⟩ := h
  exact ⟨c, List.mem_append_right _ hc, hspace⟩

/-- A word of lower-case ASCII letters and underscores, as all words of the schema are. -/
def IsWord (word : List Char) : Prop :=
  word ≠ [] ∧ ∀ c ∈ word, isAscii c = true ∧ isAsciiSpace c = false ∧ c.toLower = c

instance (word : List Char) : Decidable (IsWord word) := inferInstanceAs (Decidable (_ ∧ _))

theorem strip_word {word : List Char} (h : IsWord word) : strip word = word := by
  apply strip_eq_self
  intro c hc
  obtain ⟨hascii, hspace, -⟩ := h.2 c hc
  exact (PyText.isSpace_ascii c hascii).trans hspace

theorem lower_word {word : List Char} (h : IsWord word) : lower word = word := by
  rw [lower, PyText.lowerText_ascii word fun c hc => (h.2 c hc).1]
  exact (List.map_congr_left fun c hc => (h.2 c hc).2.2).trans (List.map_id word)

theorem confidence_twoPlaces {q : ℚ} (h : TwoPlaces q) : confidence (.float (.finite q)) = .ok q := by
  obtain ⟨n, hn, rfl⟩ := h
  have hcents : ∀ n : Nat, n ≤ 100 →
      cents n ≤ 1 ∧ unitConfidence (.finite (cents n)) = cents n := by
    decide +kernel
  obtain ⟨hle, hround⟩ := hcents n hn
  rw [confidence, pyFloat]
  dsimp only
  rw [if_neg (by rintro ⟨hlt, -⟩; exact absurd hlt (not_lt.mpr hle)), hround]

/-! ## 4. Fields -/

section

omit [PyText]

theorem get_sortMembers {kvs : JsonObject} (h : (kvs.map Prod.fst).Nodup) {key : String}
    {value : Json} (hmem : (key, value) ∈ kvs) :
    JsonObject.get (sortMembers kvs) key = sortKeys value := by
  rw [JsonObject.get, lookup_sortMembers h, (Dict.mem_iff_lookup h key value).mp hmem]
  rfl

theorem sortKeys_str (text : List Char) : sortKeys (.str (.ofList text)) = .str (.ofList text) := by
  rw [sortKeys]
  · exact fun _ => Json.noConfusion
  · exact fun _ => Json.noConfusion

theorem sortKeys_float (x : PyFloat) : sortKeys (.float x) = .float x := by
  rw [sortKeys]
  · exact fun _ => Json.noConfusion
  · exact fun _ => Json.noConfusion

theorem sortKeys_textsJson (texts : List (List Char)) :
    sortKeys (textsJson texts) = textsJson texts := by
  rw [textsJson, sortKeys]
  congr 1
  induction texts with
  | nil => rfl
  | cons text texts ih => rw [List.map_cons, sortItems, sortKeys_str, ih]

theorem mapM_ok {α β γ ε : Type} {R : α → β → Prop} {read : α → Except ε γ} {make : β → γ}
    {items : List α} {values : List β} (h : List.Forall₂ R items values)
    (hread : ∀ item ∈ items, ∀ value ∈ values, R item value → read item = .ok (make value)) :
    items.mapM read = .ok (values.map make) := by
  induction h with
  | nil => rfl
  | cons hR htail ih =>
      rw [List.mapM_cons, hread _ List.mem_cons_self _ List.mem_cons_self hR,
        ih fun item hitem value hvalue =>
          hread item (List.mem_cons_of_mem _ hitem) value (List.mem_cons_of_mem _ hvalue)]
      rfl

end

theorem requiredString_ok {data : JsonObject} {key : String} {text : List Char}
    (hget : data.get key = .str (.ofList text)) (h : Nonblank text) :
    requiredString data key = .ok (strip text) := by
  unfold requiredString
  rw [hget]
  dsimp only
  rw [String.toList_ofList, if_neg (strip_ne_nil h)]

theorem requiredChoice_ok {data : JsonObject} {key : String} {word : List Char}
    {allowed : List String} (hget : data.get key = .str (.ofList word)) (hword : IsWord word)
    (hmem : word ∈ allowed.map String.toList) (path : String) :
    requiredChoice data key allowed path = .ok word := by
  have hblank : Nonblank word := by
    obtain ⟨c, rest, rfl⟩ := List.exists_cons_of_ne_nil hword.1
    obtain ⟨hascii, hspace, -⟩ := hword.2 c List.mem_cons_self
    exact .of_ascii ⟨c, List.mem_cons_self, hascii, hspace⟩
  have hread := requiredString_ok hget hblank
  rw [strip_word hword] at hread
  rw [requiredChoice, hread]
  change (if lower word ∈ allowed.map String.toList then Except.ok (lower word) else _) = _
  rw [lower_word hword, if_pos hmem]

variable (floatRepr : PyFloat → List Char)

theorem stringList_ok {texts : List (List Char)} (hne : texts ≠ [])
    (h : ∀ text ∈ texts, Nonblank text) :
    stringList floatRepr (textsJson texts) = .ok (texts.map strip) := by
  have hitems : itemTexts floatRepr (texts.map fun text => .str (.ofList text)) =
      texts.map strip := by
    have htexts : (texts.map fun text => Json.str (.ofList text)).map (itemText floatRepr) =
        texts.map strip := by
      rw [List.map_map]
      refine List.map_congr_left fun text _ => ?_
      change strip (String.ofList text).toList = strip text
      rw [String.toList_ofList]
    rw [itemTexts, htexts, List.filter_eq_self]
    intro text htext
    obtain ⟨original, horiginal, rfl⟩ := List.mem_map.mp htext
    exact decide_eq_true (strip_ne_nil (h original horiginal))
  change (if itemTexts floatRepr (texts.map fun text => .str (.ofList text)) = [] then _
    else Except.ok (itemTexts floatRepr (texts.map fun text => .str (.ofList text)))) = _
  rw [hitems, if_neg]
  exact fun hnil => hne (List.map_eq_nil_iff.mp hnil)

/-! ## 5. Criteria -/

def CriterionSpec.keys (spec : CriterionSpec) : List String :=
  ["question", "rating", "score"] ++ (if spec.hasLifespan then ["lifespan_years"] else []) ++
    spec.choices.map Prod.fst ++ spec.lists ++ ["rationale", "signals"]

/-- No key twice, and words that the parser does not change. -/
def CriterionSpec.Distinct (spec : CriterionSpec) : Prop :=
  spec.keys.Nodup ∧ ∀ choice ∈ spec.choices, ∀ word ∈ choice.2, IsWord word.toList

instance (spec : CriterionSpec) : Decidable spec.Distinct := inferInstanceAs (Decidable (_ ∧ _))

variable {floatRepr} {limits : Limits} {spec : CriterionSpec} {c : Criterion}

theorem Criterion.Valid.keys_members (h : c.Valid spec limits) :
    (c.members spec).map Prod.fst = spec.keys := by
  have hchoices : c.choices.map Prod.fst = spec.choices.map Prod.fst := by
    have hforall := h.choices
    generalize spec.choices = items at hforall ⊢
    generalize c.choices = values at hforall ⊢
    induction hforall with
    | nil => rfl
    | cons hR _ ih => rw [List.map_cons, List.map_cons, hR.1, ih]
  have hlists : c.lists.map Prod.fst = spec.lists := by
    have hforall := h.lists
    generalize spec.lists = items at hforall ⊢
    generalize c.lists = values at hforall ⊢
    induction hforall with
    | nil => rfl
    | cons hR _ ih => rw [List.map_cons, hR.1, ih]
  have hlifespan : ((if spec.hasLifespan then
      [("lifespan_years", match c.lifespanYears with
        | some years => Json.int years
        | none => Json.null)]
      else []).map Prod.fst) = if spec.hasLifespan then ["lifespan_years"] else [] := by
    split <;> rfl
  rw [CriterionSpec.keys, ← hchoices, ← hlists, ← hlifespan, Criterion.members, List.map_append,
    List.map_append, List.map_append, List.map_append, List.map_map, List.map_map]
  rfl

/-- The lifespan of a criterion, or nothing where the schema has none. -/
theorem lifespanOf_ok (h : c.Valid spec limits) {data : JsonObject}
    (hget : spec.hasLifespan = true → data.get "lifespan_years" =
      match c.lifespanYears with
      | some years => .int years
      | none => .null) :
    lifespanOf limits spec data = .ok c.lifespanYears := by
  rw [lifespanOf]
  by_cases hspec : spec.hasLifespan = true
  · rw [if_pos hspec, hget hspec]
    cases hyears : c.lifespanYears with
    | none => rfl
    | some years =>
        have hnonneg := (h.lifespan_nonneg years (by rw [hyears]; rfl)).1
        change (if years < 0 then _ else Except.ok (some years)) = _
        rw [if_neg (not_lt.mpr hnonneg)]
  · rw [if_neg hspec]
    cases hyears : c.lifespanYears with
    | none => rfl
    | some years => exact absurd (h.lifespan (by rw [hyears]; exact Option.some_ne_none years)) hspec

theorem dhsCriterion_ok (hspec : spec.Distinct) (h : c.Valid spec limits) :
    dhsCriterion floatRepr limits spec (sortKeys (.dict (c.members spec))) = .ok c.trimmed := by
  have hnodup : ((c.members spec).map Prod.fst).Nodup := by
    rw [h.keys_members]
    exact hspec.1
  -- the keys are sorted on the way out, so every field is read by its key
  generalize hdata : sortMembers (c.members spec) = data
  have hget : ∀ key value, (key, value) ∈ c.members spec →
      JsonObject.get data key = sortKeys value := by
    rw [← hdata]
    exact fun _ _ => get_sortMembers hnodup
  have htext : ∀ key (text : List Char), (key, Json.str (.ofList text)) ∈ c.members spec →
      JsonObject.get data key = .str (.ofList text) :=
    fun key text hmem => (hget key _ hmem).trans (sortKeys_str text)
  have htexts : ∀ key texts, (key, textsJson texts) ∈ c.members spec →
      JsonObject.get data key = textsJson texts :=
    fun key texts hmem => (hget key _ hmem).trans (sortKeys_textsJson texts)
  have hratings : ∀ word ∈ ratings.map String.toList, IsWord word := by decide
  have hrating := requiredChoice_ok (htext "rating" c.rating (by simp [Criterion.members]))
    (hratings _ h.rating) h.rating (spec.path ++ ".rating")
  have hchoices : spec.choices.mapM (fun choice => do
      let word ← requiredChoice data choice.1 choice.2 (spec.path ++ "." ++ choice.1)
      return (choice.1, word)) = .ok c.choices := by
    rw [← List.map_id c.choices]
    refine mapM_ok h.choices fun choice hchoice value hvalue hR => ?_
    obtain ⟨key, word⟩ := value
    obtain ⟨rfl, hword⟩ := hR
    obtain ⟨text, htextmem, rfl⟩ := List.mem_map.mp hword
    have hmem : (choice.1, Json.str (.ofList text.toList)) ∈ c.members spec := by
      simp only [Criterion.members, List.mem_append, List.mem_map]
      exact .inl (.inl (.inr ⟨_, hvalue, rfl⟩))
    rw [requiredChoice_ok (htext _ _ hmem) (hspec.2 choice hchoice text htextmem) hword]
    rfl
  have hscore : confidence (JsonObject.get data "score") = .ok c.score := by
    rw [hget "score" (.float (.finite c.score)) (by simp [Criterion.members]), sortKeys_float,
      confidence_twoPlaces h.score]
  have hlifespan : lifespanOf limits spec data = .ok c.lifespanYears := by
    refine lifespanOf_ok h fun hlifespan => ?_
    rw [hget "lifespan_years" _ (by
      simp only [Criterion.members, if_pos hlifespan, List.mem_append, List.mem_singleton]
      exact .inl (.inl (.inl (.inr rfl))))]
    cases c.lifespanYears <;>
      · rw [sortKeys]
        · exact fun _ => Json.noConfusion
        · exact fun _ => Json.noConfusion
  have hlists : spec.lists.mapM (fun key => do
      let texts ← stringList floatRepr (JsonObject.get data key)
      return (key, texts)) = .ok (c.lists.map fun entry => (entry.1, entry.2.map strip)) := by
    refine mapM_ok h.lists fun key _ entry hentry hR => ?_
    obtain ⟨rfl, hne, hblank⟩ := hR
    rw [htexts entry.1 entry.2 (by
      simp only [Criterion.members, List.mem_append, List.mem_map]
      exact .inl (.inr ⟨_, hentry, rfl⟩)), stringList_ok floatRepr hne hblank]
    rfl
  have hrationale := requiredString_ok (htext "rationale" c.rationale
    (by simp [Criterion.members])) h.rationale
  have hsignals : stringList floatRepr (JsonObject.get data "signals") =
      .ok (c.signals.map strip) := by
    rw [htexts "signals" c.signals (by simp [Criterion.members]),
      stringList_ok floatRepr h.signals_ne h.signals]
  have hquestion := htext "question" c.question (by simp [Criterion.members])
  have hdict : sortKeys (.dict (c.members spec)) = .dict data := by
    rw [sortKeys, hdata]
  rw [hdict, dhsCriterion, hrating, hscore, hlifespan, hrationale, hsignals, hquestion]
  simp only [bind, Except.bind, pure, Except.pure] at hchoices hlists ⊢
  rw [hchoices, hlists]
  -- the question may be blank only where it is the default of the criterion
  have hkept : (if (Json.str (.ofList c.question)).truthy = true then
      Json.pyStr floatRepr (.str (.ofList c.question)) else spec.question.toList) = c.question := by
    split
    · exact String.toList_ofList
    · exact h.question.symm
  dsimp only
  rw [hkept]
  rfl

omit [PyText] in
theorem nodup_keys_criteria (criteria : DhsCriteria) :
    (criteria.members.map Prod.fst).Nodup := by
  simp [DhsCriteria.members]

theorem dhsCriteria_ok {criteria : DhsCriteria} (h : criteria.Valid limits) :
    dhsCriteria floatRepr limits (sortKeys (.dict criteria.members)) = .ok criteria.trimmed := by
  have hnodup := nodup_keys_criteria criteria
  have hdict : sortKeys (.dict criteria.members) = .dict (sortMembers criteria.members) := by
    rw [sortKeys]
  have hget : ∀ key value, (key, value) ∈ criteria.members →
      JsonObject.get (sortMembers criteria.members) key = sortKeys value :=
    fun _ _ => get_sortMembers hnodup
  rw [hdict]
  generalize sortMembers criteria.members = data at hget
  simp only [DhsCriteria.members, List.mem_cons, List.not_mem_nil, or_false] at hget
  simp only [dhsCriteria, dhsAssetValue, dhsProtectedInformation, dhsCommunicationScope,
    dhsSharingLevel, dhsCriticalInfrastructure, dhsProtectionDuration]
  rw [hget "asset_value" _ (.inl rfl), dhsCriterion_ok (by decide) h.assetValue,
    hget "protected_information" _ (.inr (.inl rfl)),
    dhsCriterion_ok (by decide) h.protectedInformation,
    hget "communication_scope" _ (.inr (.inr (.inl rfl))),
    dhsCriterion_ok (by decide) h.communicationScope,
    hget "sharing_level" _ (.inr (.inr (.inr (.inl rfl)))),
    dhsCriterion_ok (by decide) h.sharingLevel,
    hget "critical_infrastructure" _ (.inr (.inr (.inr (.inr (.inl rfl))))),
    dhsCriterion_ok (by decide) h.criticalInfrastructure,
    hget "protection_duration" _ (.inr (.inr (.inr (.inr (.inr rfl))))),
    dhsCriterion_ok (by decide) h.protectionDuration]
  rfl

/-! ## 6. The response -/

/-- The numbers that the response holds are written as the decimals that they were rounded to. -/
def WritesCents (floatRepr : PyFloat → List Char) : Prop :=
  ∀ n ≤ 100, floatRepr (.finite (cents n)) = centsText n

section

omit [PyText]

theorem readable_textsJson (texts : List (List Char)) (depth : Nat) :
    Readable floatRepr limits (depth + 1) (textsJson texts) := by
  rw [textsJson, Readable]
  induction texts with
  | nil => trivial
  | cons text texts ih => exact ⟨by rw [Readable]; trivial, ih⟩

theorem readable_twoPlaces (hrepr : WritesCents floatRepr) {q : ℚ} (h : TwoPlaces q)
    (depth : Nat) : Readable floatRepr limits depth (.float (.finite q)) := by
  obtain ⟨n, hn, rfl⟩ := h
  rw [Readable, hrepr n hn]
  exact decimalText_cents hn

end

theorem readable_criterion (hrepr : WritesCents floatRepr) (hspec : spec.Distinct)
    (h : c.Valid spec limits) (depth : Nat) :
    Readable floatRepr limits (depth + 2) (.dict (c.members spec)) := by
  rw [Readable, readableMembers_iff, h.keys_members]
  refine ⟨hspec.1, ?_⟩
  have htext : ∀ text : String, Readable floatRepr limits (depth + 1) (.str text) := by
    intro text
    rw [Readable]
    trivial
  intro entry hentry
  simp only [Criterion.members, List.mem_append, List.mem_cons, List.not_mem_nil, or_false,
    List.mem_map] at hentry
  rcases hentry with ((((rfl | rfl | rfl) | hlifespan) | ⟨choice, -, rfl⟩) | ⟨list, -, rfl⟩) |
    rfl | rfl
  · exact htext _
  · exact htext _
  · exact readable_twoPlaces hrepr h.score _
  · split at hlifespan
    · rw [List.mem_singleton] at hlifespan
      rw [hlifespan]
      cases hyears : c.lifespanYears with
      | none =>
          rw [Readable]
          trivial
      | some years =>
          rw [Readable]
          exact (h.lifespan_nonneg years (by rw [hyears]; rfl)).2
    · cases hlifespan
  · exact htext _
  · exact readable_textsJson _ _
  · exact htext _
  · exact readable_textsJson _ _

variable {r : QualitativeResponse}

theorem readable_response (hrepr : WritesCents floatRepr) (h : r.Valid limits) (depth : Nat) :
    Readable floatRepr limits (depth + 4) (.dict r.members) := by
  have hcriteria : Readable floatRepr limits (depth + 3) (.dict r.dhsCriteria.members) := by
    rw [Readable, readableMembers_iff]
    refine ⟨nodup_keys_criteria _, ?_⟩
    have hvalid := h.dhsCriteria
    simp only [DhsCriteria.members, List.forall_mem_cons, List.not_mem_nil, false_imp_iff,
      implies_true, and_true]
    exact ⟨readable_criterion hrepr (by decide) hvalid.assetValue depth,
      readable_criterion hrepr (by decide) hvalid.protectedInformation depth,
      readable_criterion hrepr (by decide) hvalid.communicationScope depth,
      readable_criterion hrepr (by decide) hvalid.sharingLevel depth,
      readable_criterion hrepr (by decide) hvalid.criticalInfrastructure depth,
      readable_criterion hrepr (by decide) hvalid.protectionDuration depth⟩
  have htext : ∀ text : String, Readable floatRepr limits (depth + 3) (.str text) := by
    intro text
    rw [Readable]
    trivial
  rw [Readable, readableMembers_iff]
  refine ⟨by simp [QualitativeResponse.members], ?_⟩
  simp only [QualitativeResponse.members, List.forall_mem_cons, List.not_mem_nil, false_imp_iff,
    implies_true, and_true]
  exact ⟨htext _, readable_textsJson _ _, htext _, hcriteria,
    readable_twoPlaces hrepr h.confidence _⟩

omit [PyText] in
/-- A text without a brace before the object is passed over. -/
theorem extractJsonObject_append (missing : PyException) {before : List Char}
    (h : '\x7b' ∉ before) (text : List Char) :
    extractJsonObject missing limits (before ++ text) = extractJsonObject missing limits text := by
  induction before with
  | nil => rfl
  | cons c before ih =>
      rw [List.mem_cons, not_or] at h
      rw [List.cons_append, extractJsonObject, if_pos (Ne.symm h.1), ih h.2]

/-- A response in the schema, written somewhere in a text, is read back but for the white space
around its texts. -/
theorem parseQualitativeRiskResponse_dumps (hrepr : WritesCents floatRepr)
    (hdepth : 4 ≤ limits.recursion) (h : r.Valid limits) {before after : List Char}
    (hbefore : '\x7b' ∉ before) (hafter : Ends after) :
    parseQualitativeRiskResponse floatRepr limits
      (before ++ (dumpsSorted floatRepr (.dict r.members) ++ after)) = .ok r.trimmed := by
  obtain ⟨depth, hlimit⟩ := Nat.exists_eq_add_of_le' hdepth
  have hdecode := rawDecode_dumpsSorted (hlimit ▸ readable_response hrepr h depth) hafter
  have hdict : sortKeys (.dict r.members) = .dict (sortMembers r.members) := by
    rw [sortKeys]
  -- the first brace of the text is the one of the object
  have hextract : ∀ missing, extractJsonObject missing limits
      (before ++ (dumpsSorted floatRepr (.dict r.members) ++ after)) =
        .ok (sortMembers r.members) := by
    intro missing
    rw [extractJsonObject_append missing hbefore]
    rw [hdict] at hdecode
    obtain ⟨rest, hrest⟩ : ∃ rest, dumpsSorted floatRepr (.dict r.members) ++ after =
        '\x7b' :: rest := by
      rw [dumpsSorted, hdict, encodeJson]
      exact ⟨_, rfl⟩
    rw [hrest] at hdecode ⊢
    rw [extractJsonObject, if_neg (not_not.mpr rfl), hdecode]
  have hget : ∀ key value, (key, value) ∈ r.members →
      JsonObject.get (sortMembers r.members) key = sortKeys value :=
    fun _ _ => get_sortMembers (by simp [QualitativeResponse.members])
  rw [parseQualitativeRiskResponse, hextract]
  -- from here on only what each key is read as matters
  generalize sortMembers r.members = data at hget
  simp only [QualitativeResponse.members, List.mem_cons, List.not_mem_nil, or_false] at hget
  have hsummary := requiredString_ok ((hget "summary" _ (.inl rfl)).trans (sortKeys_str _)) h.summary
  have hscenarios : stringList floatRepr (JsonObject.get data "threat_scenarios") =
      .ok (r.threatScenarios.map strip) := by
    rw [hget "threat_scenarios" _ (.inr (.inl rfl)), sortKeys_textsJson,
      stringList_ok floatRepr h.threatScenarios_ne h.threatScenarios]
  have hmigration := requiredString_ok
    ((hget "migration_recommendation" _ (.inr (.inr (.inl rfl)))).trans (sortKeys_str _))
    h.migrationRecommendation
  have hcriteria : dhsCriteria floatRepr limits (JsonObject.get data "dhs_criteria") =
      .ok r.dhsCriteria.trimmed := by
    rw [hget "dhs_criteria" _ (.inr (.inr (.inr (.inl rfl)))), dhsCriteria_ok h.dhsCriteria]
  have hconfidence : confidence (JsonObject.get data "confidence") = .ok r.confidence := by
    rw [hget "confidence" _ (.inr (.inr (.inr (.inr rfl)))), sortKeys_float,
      confidence_twoPlaces h.confidence]
  change (do
    return ({
      summary := ← requiredString data "summary"
      threatScenarios := ← stringList floatRepr (JsonObject.get data "threat_scenarios")
      migrationRecommendation := ← requiredString data "migration_recommendation"
      dhsCriteria := ← dhsCriteria floatRepr limits (JsonObject.get data "dhs_criteria")
      confidence := ← confidence (JsonObject.get data "confidence") } :
        QualitativeResponse)) = Except.ok r.trimmed
  rw [hsummary, hscenarios, hmigration, hcriteria, hconfidence]
  rfl

end

end CryptoScanner.Llm
