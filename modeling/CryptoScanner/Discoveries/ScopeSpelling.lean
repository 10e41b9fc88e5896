import CryptoScanner.Discoveries.Scope
import CryptoScanner.Jobs.DiscoveryScopes

/-!
# Spellings of one discovery scope

`validate_scope` parses a network or an address and returns the text it was given, and it reads a
domain without its last dots and returns it with them.  `create_discovery` looks rows up by that text.
-/

namespace CryptoScanner.Discoveries

open Library Python

/-! ## 1. What a request stores -/

/-- A `DiscoveryCreate` as it is posted. -/
structure DiscoveryPost where
  scopeType : Option ScopeType
  scopeValue : Option (List Char)
  cidr : Option (List Char)
  executorType : ExecutorType
  agentId : Option Id
  ports : Option (List Nat)
  includeDefaultPorts : Bool
  autoScan : Bool
  autoAvailabilityCheck : Bool
  -- `Field(max_length=253)`, which `cidr` does not have
  scopeValue_length : ∀ value, scopeValue = some value → value.length ≤ 253

def DiscoveryPost.scopeText (post : DiscoveryPost) : Option (List Char) :=
  post.scopeValue <|> post.cidr

section

variable [PyText]

def normalizeScope (post : DiscoveryPost) : Except String DiscoveryCreate :=
  let scopeType := post.scopeType.getD .cidr
  match post.scopeText with
  | none => .error "scope_value is required."
  | some scopeValue => do
      let normalizedValue ← validateScope scopeType scopeValue
      if post.executorType = .central ∧ post.agentId ≠ none then
        throw "agent_id is only valid when executor_type is agent."
      if post.executorType = .agent ∧ post.agentId = none then
        throw "agent_id is required when executor_type is agent."
      return {
        scopeType
        scopeValue := String.ofList normalizedValue
        executorType := post.executorType
        agentId := post.agentId
        ports := post.ports.getD []
        includeDefaultPorts := post.includeDefaultPorts
        autoScan := post.autoScan
        autoAvailabilityCheck := post.autoAvailabilityCheck }

end

/-- On every table `create_discovery` finds the same row for both requests, or none for either. -/
def SameRow (request request' : DiscoveryCreate) : Prop :=
  ∀ discoveries : Table Discovery, discoveries.last? (Jobs.matchesScope request) =
    discoveries.last? (Jobs.matchesScope request')

/-! ## 2. Scopes and their spellings -/

section

variable [PyText]

/-- Two texts stand for one scope: for one network, for one address, or for one domain name up to
letter case and last dots, which `is_valid_domain` does not read. -/
def SameScope : ScopeType → List Char → List Char → Prop
  | .cidr, text, text' => ipNetwork? (strip text) = ipNetwork? (strip text')
  | .ip, text, text' =>
      ipAddress? (strip text) = ipAddress? (strip text') ∧
        ipScopeId (strip text) = ipScopeId (strip text')
  | .domain, text, text' =>
      lower ((strip text).rdropWhile (· == '.')) = lower ((strip text').rdropWhile (· == '.'))

/-- All accepted texts of one scope are returned as one text. -/
def Canonical (scopeType : ScopeType) : Prop :=
  ∀ text text' value value', validateScope scopeType text = .ok value →
    validateScope scopeType text' = .ok value' → SameScope scopeType text text' → value = value'

/-- Two posts ask the same executor for one scope. -/
structure SamePost (post post' : DiscoveryPost) : Prop where
  scopeType : post.scopeType.getD .cidr = post'.scopeType.getD .cidr
  executorType : post.executorType = post'.executorType
  agentId : post.agentId = post'.agentId
  scope : ∀ text text', post.scopeText = some text → post'.scopeText = some text' →
    SameScope (post.scopeType.getD .cidr) text text'

/-- Two texts of one scope differ in blanks around them alone, or, for a domain, in letter case. -/
def SameSpelling : ScopeType → List Char → List Char → Prop
  | .cidr, text, text' => strip text = strip text'
  | .ip, text, text' => strip text = strip text'
  | .domain, text, text' =>
      (strip text).rtakeWhile (· == '.') = (strip text').rtakeWhile (· == '.')

end

/-! ## 3. Letter case -/

theorem toLower_of_not_isUpper {c : Char} (h : ¬ c.isUpper = true) : c.toLower = c := by
  delta Char.isUpper at h
  rw [decide_eq_true_eq] at h
  delta Char.toLower
  rw [dif_neg h]

/-- What a capital letter turns into is a letter and no capital. -/
theorem toLower_of_isUpper {c : Char} (h : c.isUpper = true) :
    c.toLower.isAlpha = true ∧ c.toLower.isUpper = false := by
  have hletters : ∀ n < 26, (Char.ofNat (65 + n)).toLower.isAlpha = true ∧
      (Char.ofNat (65 + n)).toLower.isUpper = false := by decide
  delta Char.isUpper at h
  rw [decide_eq_true_eq, ge_iff_le, UInt32.le_iff_toNat_le, UInt32.le_iff_toNat_le] at h
  change 65 ≤ c.toNat ∧ c.toNat ≤ 90 at h
  have hc : c = Char.ofNat (65 + (c.toNat - 65)) := by
    rw [Nat.add_sub_cancel' h.1, Char.ofNat_toNat]
  rw [hc]
  exact hletters (c.toNat - 65) (by omega)

theorem isAlpha_of_isUpper {c : Char} (h : c.isUpper = true) : c.isAlpha = true := by
  delta Char.isAlpha
  rw [h, Bool.true_or]

theorem toLower_toLower (c : Char) : c.toLower.toLower = c.toLower := by
  by_cases hupper : c.isUpper = true
  · apply toLower_of_not_isUpper
    rw [(toLower_of_isUpper hupper).2]
    decide
  · rw [toLower_of_not_isUpper hupper, toLower_of_not_isUpper hupper]

theorem toLower_eq_iff {c sep : Char} (hsep : ¬ sep.isAlpha = true) :
    c.toLower = sep ↔ c = sep := by
  by_cases hupper : c.isUpper = true
  · -- a letter in either case is no separator
    constructor
    · intro h
      rw [← h] at hsep
      exact absurd (toLower_of_isUpper hupper).1 hsep
    · intro h
      rw [← h] at hsep
      exact absurd (isAlpha_of_isUpper hupper) hsep
  · rw [toLower_of_not_isUpper hupper]

theorem toLower_beq {sep : Char} (hsep : ¬ sep.isAlpha = true) (c : Char) :
    (c.toLower == sep) = (c == sep) := by
  rw [Bool.eq_iff_iff, beq_iff_eq, beq_iff_eq, toLower_eq_iff hsep]

theorem isAlphanum_toLower (c : Char) : c.toLower.isAlphanum = c.isAlphanum := by
  by_cases hupper : c.isUpper = true
  · rw [Char.isAlphanum, Char.isAlphanum, (toLower_of_isUpper hupper).1, isAlpha_of_isUpper hupper,
      Bool.true_or, Bool.true_or]
  · rw [toLower_of_not_isUpper hupper]

theorem isDomainLabel_toLower (label : List Char) :
    isDomainLabel (label.map Char.toLower) = isDomainLabel label := by
  cases label with
  | nil => rfl
  | cons c rest =>
      have hempty : (rest.map Char.toLower == []) = (rest == []) := by
        cases rest <;> rfl
      have hinner : (fun c : Char => c.isAlphanum || c == '-') ∘ Char.toLower =
          fun c => c.isAlphanum || c == '-' := by
        funext c
        show (c.toLower.isAlphanum || c.toLower == '-') = _
        rw [isAlphanum_toLower, toLower_beq (by decide)]
      have hlast : (fun c : Char => c.toLower.isAlphanum) = Char.isAlphanum :=
        funext isAlphanum_toLower
      show (c.toLower.isAlphanum && (rest.map Char.toLower == [] ||
        decide ((rest.map Char.toLower).length ≤ 62) &&
          (rest.map Char.toLower).dropLast.all (fun c => c.isAlphanum || c == '-') &&
            (rest.map Char.toLower).getLast?.any Char.isAlphanum)) = _
      rw [isAlphanum_toLower, hempty, List.length_map, ← List.map_dropLast, List.all_map, hinner,
        List.getLast?_map, Option.any_map, hlast]
      rfl

theorem matchesDomainLabel_toLower (label : List Char) :
    matchesDomainLabel (label.map Char.toLower) = matchesDomainLabel label := by
  have hlast : ((label.map Char.toLower).getLast? == some '\n') =
      (label.getLast? == some '\n') := by
    rw [List.getLast?_map]
    cases label.getLast? with
    | none => rfl
    | some c => exact toLower_beq (by decide) c
  rw [matchesDomainLabel, matchesDomainLabel, isDomainLabel_toLower, ← List.map_dropLast,
    isDomainLabel_toLower, hlast]

theorem contains_toLower {sep : Char} (hsep : ¬ sep.isAlpha = true) (s : List Char) :
    (s.map Char.toLower).contains sep = s.contains sep := by
  rw [Bool.eq_iff_iff, List.contains_iff_mem, List.contains_iff_mem, List.mem_map]
  constructor
  · rintro ⟨c, hc, heq⟩
    rwa [(toLower_eq_iff hsep).mp heq] at hc
  · intro h
    exact ⟨sep, h, (toLower_eq_iff hsep).mpr rfl⟩

/-- `is_valid_domain` does not tell letter case. -/
theorem isValidDomain_toLower (value : List Char) :
    isValidDomain (value.map Char.toLower) = isValidDomain value := by
  have hdot : ∀ c : Char, (c.toLower == '.') = (c == '.') := toLower_beq (by decide)
  have hdomain : (value.map Char.toLower).rdropWhile (· == '.') =
      (value.rdropWhile (· == '.')).map Char.toLower := rdropWhile_map hdot value
  have hlabels := splitOn_map hdot (value.rdropWhile (· == '.'))
  have hmatches : matchesDomainLabel ∘ List.map Char.toLower = matchesDomainLabel :=
    funext matchesDomainLabel_toLower
  have hslash := contains_toLower (by decide : ¬ '/'.isAlpha = true)
  have hcolon := contains_toLower (by decide : ¬ ':'.isAlpha = true)
  unfold isValidDomain
  simp only [hdomain, hlabels, List.length_map, hslash, hcolon, List.all_map, hmatches, ne_eq,
    List.map_eq_nil_iff]

theorem rtakeWhile_dot (value : List Char) :
    value.rtakeWhile (· == '.') = List.replicate (value.rtakeWhile (· == '.')).length '.' := by
  apply List.eq_replicate_of_mem
  intro c hc
  exact beq_iff_eq.mp (List.mem_rtakeWhile_imp (p := fun c : Char => c == '.') hc)

/-! ## 4. What is returned -/

section

variable [PyText]

/-- The text of an accepted scope is what is left of it, in lower case for a domain. -/
theorem validateScope_eq_ok {scopeType : ScopeType} {text value : List Char}
    (h : validateScope scopeType text = .ok value) :
    (strip text ≠ [] ∧ (scopeType = .domain → isValidDomain (strip text) = true)) ∧
      value = if scopeType = .domain then lower (strip text) else strip text := by
  unfold validateScope at h
  dsimp only at h
  have hne : strip text ≠ [] := by
    intro hnil
    rw [if_pos hnil] at h
    cases h
  rw [if_neg hne] at h
  cases scopeType with
  | cidr =>
      dsimp only at h
      split at h
      · cases h
      · split at h
        · cases h
          exact ⟨⟨hne, nofun⟩, rfl⟩
        · cases h
  | ip =>
      dsimp only at h
      split at h
      · cases h
        exact ⟨⟨hne, nofun⟩, rfl⟩
      · cases h
  | domain =>
      dsimp only at h
      split at h
      · rename_i hvalid
        cases h
        exact ⟨⟨hne, fun _ => hvalid⟩, rfl⟩
      · cases h

theorem lower_of_subset {value part : List Char} (h : isValidDomain value = true)
    (hpart : part ⊆ value) : lower part = part.map Char.toLower := by
  apply PyText.lowerText_ascii
  intro c hc
  rcases isValidDomain_chars h c (hpart hc) with hname | rfl
  · have hbounds := isNameChar_bounds hname
    exact decide_eq_true (by omega)
  · rfl

theorem lower_of_isValidDomain {value : List Char} (h : isValidDomain value = true) :
    lower value = value.map Char.toLower :=
  lower_of_subset h (List.Subset.refl value)

/-- The ends of a domain are no white space, in either case of its letters. -/
theorem not_isSpace_toLower {value : List Char} {c : Char} (hvalid : isValidDomain value = true)
    (hc : c ∈ value) (hspace : PyText.isSpace c = false) : PyText.isSpace c.toLower = false := by
  rcases isValidDomain_chars hvalid c hc with hname | rfl
  · by_cases hupper : c.isUpper = true
    · have halpha := (toLower_of_isUpper hupper).1
      have hword := isAlphanum_bounds (c := c.toLower) (by rw [Char.isAlphanum, halpha]; rfl)
      exact not_isSpace_of_bounds (by omega)
    · rwa [toLower_of_not_isUpper hupper]
  · rw [PyText.isSpace_ascii '\n' (by decide)] at hspace
    cases hspace

theorem strip_lower_of_isValidDomain {text : List Char} (h : isValidDomain (strip text) = true) :
    strip (lower (strip text)) = lower (strip text) := by
  rw [lower_of_isValidDomain h]
  apply trim_eq_self
  · intro a ha
    rw [List.head?_map, Option.mem_def, Option.map_eq_some_iff] at ha
    obtain ⟨c, hc, rfl⟩ := ha
    exact not_isSpace_toLower h (List.mem_of_mem_head? hc) (not_of_mem_head?_trim hc)
  · intro a ha
    rw [List.getLast?_map, Option.mem_def, Option.map_eq_some_iff] at ha
    obtain ⟨c, hc, rfl⟩ := ha
    exact not_isSpace_toLower h (List.mem_of_mem_getLast? hc) (not_of_mem_getLast?_trim hc)

/-- A text that has been accepted is accepted as it is. -/
theorem validateScope_idempotent {scopeType : ScopeType} {text value : List Char}
    (h : validateScope scopeType text = .ok value) : validateScope scopeType value = .ok value := by
  obtain ⟨⟨hne, hdomain⟩, hvalue⟩ := validateScope_eq_ok h
  cases scopeType with
  | cidr =>
      rw [if_neg (by decide)] at hvalue
      rw [hvalue] at h ⊢
      unfold validateScope at h ⊢
      rwa [strip_strip]
  | ip =>
      rw [if_neg (by decide)] at hvalue
      rw [hvalue] at h ⊢
      unfold validateScope at h ⊢
      rwa [strip_strip]
  | domain =>
      have hvalid := hdomain rfl
      rw [if_pos rfl] at hvalue
      have hlower := lower_of_isValidDomain hvalid
      have hvalid' : isValidDomain (lower (strip text)) = true := by
        rw [hlower, isValidDomain_toLower, hvalid]
      have hne' : lower (strip text) ≠ [] := by
        rw [hlower]
        simpa using hne
      -- lower case a second time changes nothing
      have hlower' : lower (lower (strip text)) = lower (strip text) := by
        rw [lower_of_isValidDomain hvalid', hlower, List.map_map]
        congr 1
        funext c
        exact toLower_toLower c
      unfold validateScope
      dsimp only
      rw [hvalue, strip_lower_of_isValidDomain hvalid, if_neg hne', if_pos hvalid', hlower']

/-! ## 5. One scope, one text -/

/-- Two names of one domain are stored alike where they end in as many dots. -/
theorem lower_eq_lower_iff {value value' : List Char} (hvalid : isValidDomain value = true)
    (hvalid' : isValidDomain value' = true)
    (hsame : lower (value.rdropWhile (· == '.')) = lower (value'.rdropWhile (· == '.'))) :
    lower value = lower value' ↔
      value.rtakeWhile (· == '.') = value'.rtakeWhile (· == '.') := by
  have hparts := @List.rdropWhile_append_rtakeWhile _ (fun c : Char => c == '.') value
  have hparts' := @List.rdropWhile_append_rtakeWhile _ (fun c : Char => c == '.') value'
  rw [lower_of_subset hvalid (List.rdropWhile_prefix _ value).subset,
    lower_of_subset hvalid' (List.rdropWhile_prefix _ value').subset] at hsame
  rw [lower_of_isValidDomain hvalid, lower_of_isValidDomain hvalid']
  constructor
  · intro h
    -- the names in front of the dots are of one length
    rw [← hparts, ← hparts', List.map_append, List.map_append, hsame,
      List.append_cancel_left_eq] at h
    have hlength := congrArg List.length h
    rw [List.length_map, List.length_map] at hlength
    rw [rtakeWhile_dot value, rtakeWhile_dot value', hlength]
  · intro h
    rw [← hparts, ← hparts', List.map_append, List.map_append, hsame, h]

/-- Two accepted texts of one scope are returned alike where they are spelled alike. -/
theorem validateScope_eq_iff {scopeType : ScopeType} {text text' value value' : List Char}
    (h : validateScope scopeType text = .ok value)
    (h' : validateScope scopeType text' = .ok value') (hsame : SameScope scopeType text text') :
    value = value' ↔ SameSpelling scopeType text text' := by
  obtain ⟨⟨-, hdomain⟩, rfl⟩ := validateScope_eq_ok h
  obtain ⟨⟨-, hdomain'⟩, rfl⟩ := validateScope_eq_ok h'
  cases scopeType with
  | cidr => exact Iff.rfl
  | ip => exact Iff.rfl
  | domain => exact lower_eq_lower_iff (hdomain rfl) (hdomain' rfl) hsame

/-! ## 6. The row -/

theorem normalizeScope_eq_ok {post : DiscoveryPost} {request : DiscoveryCreate}
    (h : normalizeScope post = .ok request) :
    ∃ text value, post.scopeText = some text ∧
      validateScope (post.scopeType.getD .cidr) text = .ok value ∧
      request.scope = ⟨post.scopeType.getD .cidr, String.ofList value, post.executorType,
        post.agentId⟩ := by
  unfold normalizeScope at h
  dsimp only at h
  split at h
  · cases h
  · rename_i text htext
    cases hvalue : validateScope (post.scopeType.getD .cidr) text with
    | error e =>
        rw [hvalue] at h
        cases h
    | ok value =>
        rw [hvalue] at h
        refine ⟨text, value, htext, hvalue, ?_⟩
        -- the executor's checks change nothing
        simp only [bind, Except.bind, pure, Except.pure, throw, throwThe, MonadExceptOf.throw] at h
        split at h
        · cases h
        · split at h
          · cases h
          · cases h
            rfl

end

theorem matchesScope_eq (request : DiscoveryCreate) (discovery : Discovery) :
    Jobs.matchesScope request discovery = decide (discovery.scope = request.scope) := by
  rw [Bool.eq_iff_iff, decide_eq_true_eq]
  simp only [Jobs.matchesScope, Discovery.scope, DiscoveryCreate.scope, Bool.and_eq_true,
    beq_iff_eq, DiscoveryScope.mk.injEq, and_assoc]

/-- The row that a request inserts is found by the requests with the same scope alone. -/
theorem sameRow_iff (request request' : DiscoveryCreate) :
    SameRow request request' ↔ request.scope = request'.scope := by
  constructor
  · intro h
    obtain ⟨row, hscope, -⟩ := Jobs.insertDiscovery_row Jobs.emptySystem.db request 0
    have hrow := h (Table.empty.insert row)
    -- the one row of this table is found for the first request, hence for the second one
    rw [Table.last?_singleton, Table.last?_singleton, matchesScope_eq, matchesScope_eq, hscope,
      if_pos (decide_eq_true rfl)] at hrow
    by_contra hne
    rw [if_neg (by rwa [decide_eq_true_eq])] at hrow
    cases hrow
  · intro h discoveries
    have hmatch : Jobs.matchesScope request = Jobs.matchesScope request' := by
      funext discovery
      rw [matchesScope_eq, matchesScope_eq, h]
    rw [hmatch]

section

variable [PyText]

/-- Two accepted posts for one scope work on one row where their scopes are spelled alike. -/
theorem sameRow_iff_sameSpelling {post post' : DiscoveryPost} {request request' : DiscoveryCreate}
    {text text' : List Char} (h : normalizeScope post = .ok request)
    (h' : normalizeScope post' = .ok request') (hsame : SamePost post post')
    (htext : post.scopeText = some text) (htext' : post'.scopeText = some text') :
    SameRow request request' ↔ SameSpelling (post.scopeType.getD .cidr) text text' := by
  obtain ⟨t, value, ht, hvalue, hscope⟩ := normalizeScope_eq_ok h
  obtain ⟨t', value', ht', hvalue', hscope'⟩ := normalizeScope_eq_ok h'
  rw [htext] at ht
  rw [htext'] at ht'
  cases ht
  cases ht'
  rw [← hsame.scopeType] at hvalue' hscope'
  rw [sameRow_iff, hscope, hscope', hsame.executorType, hsame.agentId,
    ← validateScope_eq_iff hvalue hvalue' (hsame.scope text text' htext htext')]
  simp only [DiscoveryScope.mk.injEq, String.ofList_inj, and_true, true_and]

/-- **One scope, one row.**  Validation is idempotent.  Two accepted texts of one scope are returned as
one text, and posting both works on one row, exactly where they are spelled alike. -/
theorem scope_canonical_iff :
    (∀ scopeType text value, validateScope scopeType text = .ok value →
      validateScope scopeType value = .ok value) ∧
    (∀ scopeType text text' value value', validateScope scopeType text = .ok value →
      validateScope scopeType text' = .ok value' → SameScope scopeType text text' →
        (value = value' ↔ SameSpelling scopeType text text')) ∧
    ∀ post post' request request' text text', normalizeScope post = .ok request →
      normalizeScope post' = .ok request' → SamePost post post' →
        post.scopeText = some text → post'.scopeText = some text' →
          (SameRow request request' ↔ SameSpelling (post.scopeType.getD .cidr) text text') := by
  refine ⟨?_, ?_, ?_⟩
  · intro scopeType text value h
    exact validateScope_idempotent h
  · intro scopeType text text' value value' h h' hsame
    exact validateScope_eq_iff h h' hsame
  · intro post post' request request' text text' h h' hsame htext htext'
    exact sameRow_iff_sameSpelling h h' hsame htext htext'

end

/-- Host bits, another spelling of an address and a last dot each make a scope of their own. -/
theorem spellings_not_canonical : letI := asciiText
    ¬ Canonical .cidr ∧ ¬ Canonical .ip ∧ ¬ Canonical .domain := by
  let _ := asciiText
  refine ⟨?_, ?_, ?_⟩
  · intro h
    have heq := h "10.0.0.1/24".toList "10.0.0.0/24".toList "10.0.0.1/24".toList
      "10.0.0.0/24".toList (by decide +kernel) (by decide +kernel)
      (by unfold SameScope; decide +kernel)
    exact absurd heq (by decide +kernel)
  · intro h
    have heq := h "2001:DB8::1".toList "2001:db8:0::1".toList "2001:DB8::1".toList
      "2001:db8:0::1".toList (by decide +kernel) (by decide +kernel)
      (by unfold SameScope; decide +kernel)
    exact absurd heq (by decide +kernel)
  · intro h
    have heq := h "Example.com.".toList "example.com".toList "example.com.".toList
      "example.com".toList (by decide +kernel) (by decide +kernel)
      (by unfold SameScope; decide +kernel)
    exact absurd heq (by decide +kernel)

end CryptoScanner.Discoveries
