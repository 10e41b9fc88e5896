import CryptoScanner.Assets.QualitativeMock

/-!
# The cache of qualitative assessments over a run

One asset is refreshed again and again, and its provider answers or fails in any order.  A refresh
that is not answered stores what stands in for the answer, and the cache does not tell the two
apart.
-/

namespace CryptoScanner.Qualitative

open Library Python RiskEngine Llm
open Snapshots (textJson)
open Scan (Sha256 constantDigest)

/-! ## 1. Stored rows -/

def QualitativeAssessment.payload (row : QualitativeAssessment) : JsonObject :=
  row.promptPayload.filter fun entry => entry.1 ∉ qualitativePromptMetadataKeys

def QualitativeAssessment.cachedProvider (row : QualitativeAssessment) : Json :=
  (dictOrEmpty (row.promptPayload.get "llm_cache")).get "provider"

section

variable [PyText] [Sha256] (floatRepr : PyFloat → List Char) (limits : Limits)
  (ipText : IpAddress → List Char)

def WrittenBy (row : QualitativeAssessment) (origin : Refresh) : Prop :=
  ∃ provider fallback metadata response,
    row = origin.assessment floatRepr ipText provider fallback metadata response

variable {floatRepr limits ipText} {row : QualitativeAssessment} {origin r : Refresh}

theorem WrittenBy.promptVersion (h : WrittenBy floatRepr ipText row origin) :
    row.promptVersion = origin.promptVersion := by
  obtain ⟨provider, fallback, metadata, response, rfl⟩ := h
  rfl

theorem WrittenBy.payload (h : WrittenBy floatRepr ipText row origin) :
    row.payload = (origin.prompt ipText).payload := by
  obtain ⟨provider, fallback, metadata, response, rfl⟩ := h
  rfl

theorem WrittenBy.llmCache (h : WrittenBy floatRepr ipText row origin) :
    row.promptPayload.get "llm_cache" =
      .dict [("key", textJson (origin.cacheKey floatRepr ipText)),
        ("provider", .dict origin.providerIdentity)] := by
  obtain ⟨provider, fallback, metadata, response, rfl⟩ := h
  rfl

theorem WrittenBy.cachedProvider (h : WrittenBy floatRepr ipText row origin) :
    row.cachedProvider = .dict origin.providerIdentity := by
  rw [QualitativeAssessment.cachedProvider, h.llmCache]
  rfl

omit [PyText] [Sha256] in
theorem pyEq_textJson (a b : List Char) : Json.pyEq (textJson a) (textJson b) = true ↔ a = b := by
  rw [textJson, textJson, Json.pyEq, beq_iff_eq, String.ofList_inj]

variable (ipText) in
/-- Version, payload and provider are those of an earlier refresh. -/
def SamePrompt (origin r : Refresh) : Prop :=
  origin.promptVersion = r.promptVersion ∧
    Json.pyEq (.dict (origin.prompt ipText).payload) (.dict (r.prompt ipText).payload) = true ∧
    Json.pyEq (.dict origin.providerIdentity) (.dict r.providerIdentity) = true

variable (floatRepr ipText) in
/-- Two payloads with one digest. -/
def Collides (origin r : Refresh) : Prop :=
  origin.cacheKey floatRepr ipText = r.cacheKey floatRepr ipText ∧
    Json.pyEq (.dict (origin.prompt ipText).payload) (.dict (r.prompt ipText).payload) = false

/-- What the cache compares, of the refreshes themselves. -/
theorem qualitativeCacheHit_iff (h : WrittenBy floatRepr ipText row origin) :
    qualitativeCacheHit (some row) (r.prompt ipText) (r.cacheKey floatRepr ipText)
        r.providerIdentity = true ↔
      origin.promptVersion = r.promptVersion ∧
        Json.pyEq (.dict origin.providerIdentity) (.dict r.providerIdentity) = true ∧
        (origin.cacheKey floatRepr ipText = r.cacheKey floatRepr ipText ∨
          Json.pyEq (.dict (origin.prompt ipText).payload)
            (.dict (r.prompt ipText).payload) = true) := by
  have hversion := h.promptVersion
  have hpayload := h.payload
  have hcache := h.llmCache
  rw [QualitativeAssessment.payload] at hpayload
  have hkey : JsonObject.get (dictOrEmpty (row.promptPayload.get "llm_cache")) "key" =
      textJson (origin.cacheKey floatRepr ipText) := by
    rw [hcache]
    rfl
  have hprovider : JsonObject.get (dictOrEmpty (row.promptPayload.get "llm_cache")) "provider" =
      .dict origin.providerIdentity := h.cachedProvider
  have hrelease : (r.prompt ipText).version = r.promptVersion := rfl
  unfold qualitativeCacheHit
  dsimp only
  rw [hversion, hrelease, hprovider, hkey, hpayload]
  by_cases hrow : origin.promptVersion = r.promptVersion
  · rw [if_neg (not_not.mpr hrow), and_iff_right hrow]
    by_cases hidentity :
        Json.pyEq (.dict origin.providerIdentity) (.dict r.providerIdentity) = true
    · rw [if_neg (not_not.mpr hidentity), and_iff_right hidentity]
      by_cases hdigest : origin.cacheKey floatRepr ipText = r.cacheKey floatRepr ipText
      · rw [if_pos ((pyEq_textJson _ _).mpr hdigest)]
        exact iff_of_true rfl (.inl hdigest)
      · rw [if_neg (mt (pyEq_textJson _ _).mp hdigest), or_iff_right hdigest]
    · rw [if_pos hidentity]
      exact iff_of_false Bool.false_ne_true fun h => hidentity h.1
  · rw [if_pos hrow]
    exact iff_of_false Bool.false_ne_true fun h => hrow h.1

/-! ## 2. One refresh -/

theorem generate_eq_cached_iff {cached : Option QualitativeAssessment} :
    generateQualitativeAssessment floatRepr limits ipText r cached = .cached ↔
      qualitativeCacheHit cached (r.prompt ipText) (r.cacheKey floatRepr ipText)
        r.providerIdentity = true := by
  unfold generateQualitativeAssessment
  split_ifs with hhit
  · exact iff_of_true rfl hhit
  · refine iff_of_false ?_ hhit
    dsimp only
    split
    · split <;> exact Generated.noConfusion
    all_goals exact Generated.noConfusion

theorem writtenBy_of_generate {cached : Option QualitativeAssessment}
    (h : generateQualitativeAssessment floatRepr limits ipText r cached = .assessment row) :
    WrittenBy floatRepr ipText row r := by
  unfold generateQualitativeAssessment at h
  split_ifs at h
  dsimp only at h
  split at h
  · split at h
    · cases h
      exact ⟨_, _, _, _, rfl⟩
    · cases h
      exact ⟨_, _, _, _, rfl⟩
    · cases h
  · cases h
    exact ⟨_, _, _, _, rfl⟩
  · cases h
    exact ⟨_, _, _, _, rfl⟩
  all_goals cases h

variable (floatRepr limits) in
/-- The provider that the configuration names answers, and its answer is read. -/
def Refresh.Answered (r : Refresh) : Prop :=
  ∃ text metadata response,
    qualitativeLlmResponse floatRepr r.config r.answer (r.fallbackResponse floatRepr) =
        .ok (text, metadata) ∧
      JsonObject.get r.providerIdentity "provider" = .str metadata.provider ∧
      parseQualitativeRiskResponse floatRepr limits text = .ok response

/-! ## 3. Runs -/

structure CacheState where
  /-- The stored row and the refresh that stored it. -/
  stored : Option (QualitativeAssessment × Refresh)
  /-- The refresh just before, if it asked the provider. -/
  asked : Option Refresh

variable (floatRepr limits ipText)

def CacheState.step (st : CacheState) (r : Refresh) : CacheState :=
  match generateQualitativeAssessment floatRepr limits ipText r (st.stored.map Prod.fst) with
  | .cached => { st with asked := none }
  | .assessment row => { stored := some (row, r), asked := some r }
  | .raised => { st with asked := some r }

def runRefreshes (history : List Refresh) : CacheState :=
  history.foldl (CacheState.step floatRepr limits ipText) { stored := none, asked := none }

/-- The refresh uses the stored row. -/
def Served (st : CacheState) (r : Refresh) : Prop :=
  generateQualitativeAssessment floatRepr limits ipText r (st.stored.map Prod.fst) = .cached

/-- The cache serves a refresh only what a successful answer to the same prompt of the same provider
left, and nothing right after a failure. -/
def ServedLawfully (st : CacheState) (r : Refresh) : Prop :=
  Served floatRepr limits ipText st r →
    (∃ row origin, st.stored = some (row, origin) ∧ row.promptVersion = r.promptVersion ∧
      Json.pyEq (.dict row.payload) (.dict (r.prompt ipText).payload) = true ∧
      Json.pyEq row.cachedProvider (.dict r.providerIdentity) = true ∧
      origin.Answered floatRepr limits) ∧
    ∀ before ∈ st.asked, before.Answered floatRepr limits

/-- A refresh that repeats the stored prompt finds an answer, none failed just before, and no other
prompt of that release and provider has the digest of the stored one. -/
def FindsAnswer (st : CacheState) (r : Refresh) : Prop :=
  ∀ row origin, st.stored = some (row, origin) →
    (SamePrompt ipText origin r → origin.Answered floatRepr limits ∧
      ∀ before ∈ st.asked, before.Answered floatRepr limits) ∧
    (origin.promptVersion = r.promptVersion →
      Json.pyEq (.dict origin.providerIdentity) (.dict r.providerIdentity) = true →
      ¬ Collides floatRepr ipText origin r)

/-- The stored row is one of the refresh that is named with it. -/
def CacheState.Written (st : CacheState) : Prop :=
  ∀ row origin, st.stored = some (row, origin) → WrittenBy floatRepr ipText row origin

variable {floatRepr limits ipText} {st : CacheState}

theorem CacheState.Written.step (h : st.Written floatRepr ipText) (r : Refresh) :
    (st.step floatRepr limits ipText r).Written floatRepr ipText := by
  intro row origin hstored
  unfold CacheState.step at hstored
  split at hstored
  next => exact h row origin hstored
  next row' hgenerate =>
    cases hstored
    exact writtenBy_of_generate hgenerate
  next => exact h row origin hstored

theorem runRefreshes_written (history : List Refresh) :
    (runRefreshes floatRepr limits ipText history).Written floatRepr ipText := by
  unfold runRefreshes
  induction history using List.reverseRecOn with
  | nil => exact fun row origin h => by cases h
  | append_singleton history r ih =>
      rw [List.foldl_append]
      exact ih.step r

/-- The row is the one that the refreshes of the source leave. -/
theorem runRefreshes_stored (history : List Refresh) :
    (runRefreshes floatRepr limits ipText history).stored.map Prod.fst =
      history.foldl (refreshQualitativeAssessment floatRepr limits ipText) none := by
  unfold runRefreshes
  induction history using List.reverseRecOn with
  | nil => rfl
  | append_singleton history r ih =>
      rw [List.foldl_append, List.foldl_append, ← ih]
      simp only [List.foldl_cons, List.foldl_nil]
      unfold CacheState.step refreshQualitativeAssessment
      split
      next hgenerate => rw [hgenerate]
      next row hgenerate =>
        rw [hgenerate]
        rfl
      next hgenerate => rw [hgenerate]

/-- A refresh is served if and only if its prompt is the stored one, or has its digest. -/
theorem served_iff (h : st.Written floatRepr ipText) :
    Served floatRepr limits ipText st r ↔ ∃ row origin, st.stored = some (row, origin) ∧
      (SamePrompt ipText origin r ∨ origin.promptVersion = r.promptVersion ∧
        Json.pyEq (.dict origin.providerIdentity) (.dict r.providerIdentity) = true ∧
        Collides floatRepr ipText origin r) := by
  rw [Served, generate_eq_cached_iff]
  cases hstored : st.stored with
  | none =>
      refine iff_of_false Bool.false_ne_true ?_
      rintro ⟨row, origin, hsome, -⟩
      cases hsome
  | some stored =>
      obtain ⟨row, origin⟩ := stored
      rw [Option.map_some, qualitativeCacheHit_iff (h row origin hstored)]
      constructor
      · rintro ⟨hversion, hprovider, hsame⟩
        refine ⟨row, origin, rfl, ?_⟩
        by_cases hpayload : Json.pyEq (.dict (origin.prompt ipText).payload)
            (.dict (r.prompt ipText).payload) = true
        · exact .inl ⟨hversion, hpayload, hprovider⟩
        · exact .inr ⟨hversion, hprovider, hsame.resolve_right hpayload,
            Bool.eq_false_iff.mpr hpayload⟩
      · rintro ⟨row', origin', heq, hsame⟩
        cases heq
        rcases hsame with ⟨hversion, hpayload, hprovider⟩ | ⟨hversion, hprovider, hkey, -⟩
        · exact ⟨hversion, hprovider, .inr hpayload⟩
        · exact ⟨hversion, hprovider, .inl hkey⟩

theorem servedLawfully_iff (h : st.Written floatRepr ipText) :
    ServedLawfully floatRepr limits ipText st r ↔ FindsAnswer floatRepr limits ipText st r := by
  constructor
  · intro hlaw row origin hstored
    refine ⟨fun hsame => ?_, fun hversion hprovider hcollides => ?_⟩
    · obtain ⟨⟨row', origin', hstored', -, -, -, hanswered⟩, hbefore⟩ :=
        hlaw ((served_iff h).mpr ⟨row, origin, hstored, .inl hsame⟩)
      rw [hstored] at hstored'
      cases hstored'
      exact ⟨hanswered, hbefore⟩
    · obtain ⟨⟨row', origin', hstored', -, hpayload, -⟩, -⟩ :=
        hlaw ((served_iff h).mpr ⟨row, origin, hstored, .inr ⟨hversion, hprovider, hcollides⟩⟩)
      rw [hstored] at hstored'
      cases hstored'
      rw [(h row origin hstored).payload, hcollides.2] at hpayload
      cases hpayload
  · intro hfinds hserved
    obtain ⟨row, origin, hstored, hsame⟩ := (served_iff h).mp hserved
    obtain ⟨hanswer, hdigest⟩ := hfinds row origin hstored
    have hprompt : SamePrompt ipText origin r :=
      hsame.resolve_right fun hcollides => hdigest hcollides.1 hcollides.2.1 hcollides.2.2
    obtain ⟨hanswered, hbefore⟩ := hanswer hprompt
    obtain ⟨hversion, hpayload, hprovider⟩ := hprompt
    have hwritten := h row origin hstored
    refine ⟨⟨row, origin, hstored, ?_, ?_, ?_, hanswered⟩, hbefore⟩
    · rw [hwritten.promptVersion, hversion]
    · rw [hwritten.payload, hpayload]
    · rw [hwritten.cachedProvider, hprovider]

/-- A run keeps the law if and only if every one of its refreshes finds an answer where it repeats
the stored prompt. -/
theorem cache_lawful_iff (history : List Refresh) :
    (∀ before r after, history = before ++ r :: after →
      ServedLawfully floatRepr limits ipText (runRefreshes floatRepr limits ipText before) r) ↔
    ∀ before r after, history = before ++ r :: after →
      FindsAnswer floatRepr limits ipText (runRefreshes floatRepr limits ipText before) r :=
  forall₄_congr fun before _ _ _ => servedLawfully_iff (runRefreshes_written before)

end

def failingRefresh : Refresh :=
  { gatewayRefresh with
    config := some
      { provider := "openai", model := "qualitative-risk", apiKey := "token"
        baseUrl := "https://llm.example/v1", cliCommand := "codex", cliExtraArgs := [] }
    answer := .error .provider }

/-- The assessment that stands in for the answer is served to the next refresh. -/
theorem failingRefresh_pinned : letI := asciiText
    letI := constantDigest
    ¬ ∀ before r after, [failingRefresh, failingRefresh] = before ++ r :: after →
      ServedLawfully centsRepr { recursion := 1000 } (fun _ => [])
        (runRefreshes centsRepr { recursion := 1000 } (fun _ => []) before) r := by
  let := asciiText
  let := constantDigest
  intro hlaw
  have hresponse : qualitativeLlmResponse centsRepr failingRefresh.config failingRefresh.answer
      (failingRefresh.fallbackResponse centsRepr) = .error .provider := by
    simp [qualitativeLlmResponse, callQualitativeRiskLlm, failingRefresh, disabledProviders,
      codexCliProviders, openaiCompatibleProviders, Except.map]
  have hstored : (runRefreshes centsRepr { recursion := 1000 } (fun _ => [])
      [failingRefresh]).stored = some (failingRefresh.assessment centsRepr (fun _ => [])
        qualitativeFallbackProvider (some "LlmProviderError") mockMetadata
        (failingRefresh.fallbackResponse centsRepr), failingRefresh) := by
    rw [runRefreshes, List.foldl_cons, List.foldl_nil, CacheState.step,
      generateQualitativeAssessment, if_neg (by exact Bool.false_ne_true), hresponse]
  have hsame : SamePrompt (fun _ => []) failingRefresh failingRefresh :=
    ⟨rfl, by decide +kernel, by decide +kernel⟩
  have hfinds := (servedLawfully_iff (runRefreshes_written _)).mp
    (hlaw [failingRefresh] failingRefresh [] rfl)
  obtain ⟨text, metadata, response, hanswer, -⟩ := ((hfinds _ _ hstored).1 hsame).1
  rw [hresponse] at hanswer
  cases hanswer

end CryptoScanner.Qualitative
