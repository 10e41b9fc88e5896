import CryptoScanner.Library.Join
import CryptoScanner.Library.Trim
import CryptoScanner.Models
import CryptoScanner.Python.IpText

/-!
# Discovery scopes in the frontend and in the backend

`buildDiscoveryCreatePayload` trims what a user enters and decides from its characters whether it is a
network, an address or a domain name; `validate_scope` checks the value against the kind it is sent
with.  The frontend matches shapes, the backend parses addresses.
-/

namespace CryptoScanner.Discoveries

open Library Python

/-! ## 1. The frontend -/

/-- The white space and line terminators that `String.prototype.trim` removes. -/
def isJsSpace (c : Char) : Bool :=
  (9 ≤ c.toNat && c.toNat ≤ 13) || c.toNat == 0x20 || c.toNat == 0xA0 || c.toNat == 0x1680 ||
    (0x2000 ≤ c.toNat && c.toNat ≤ 0x200A) || c.toNat == 0x2028 || c.toNat == 0x2029 ||
    c.toNat == 0x202F || c.toNat == 0x205F || c.toNat == 0x3000 || c.toNat == 0xFEFF

/-- `value.length`, in UTF-16 code units. -/
def jsLength (value : List Char) : Nat :=
  (value.map fun c => if c.toNat < 0x10000 then 1 else 2).sum

/-- `[0-9A-Fa-f:.]` -/
def isScopeChar (c : Char) : Bool := isHexDigit c || c == ':' || c == '.'

/-- `/^[0-9A-Fa-f:.]+$/.test(value) && (value.includes(".") || value.includes(":"))` -/
def isIpLiteral (value : List Char) : Bool :=
  value ≠ [] && value.all isScopeChar && (value.contains '.' || value.contains ':')

/-- The two sides of the slash where the text matches `/^[0-9A-Fa-f:.]+\/\d{1,3}$/`. -/
def cidrForm (value : List Char) : Option (List Char × List Char) :=
  let address := value.takeWhile (· ≠ '/')
  match value.dropWhile (· ≠ '/') with
  | [] => none
  | _ :: bits =>
      -- the pattern does not ask for an address, nor for a prefix length in range
      if address ≠ [] ∧ address.all isScopeChar ∧ bits.all Char.isDigit ∧ 1 ≤ bits.length ∧
        bits.length ≤ 3 then some (address, bits)
      else none

/-- `/^[A-Za-z0-9](?:[A-Za-z0-9-]{0,61}[A-Za-z0-9])?$/` -/
def isDomainLabel : List Char → Bool
  | [] => false
  | c :: rest =>
      c.isAlphanum && (rest == [] || decide (rest.length ≤ 62) &&
        rest.dropLast.all (fun c => c.isAlphanum || c == '-') && rest.getLast?.any Char.isAlphanum)

def isDomainName (value : List Char) : Bool :=
  decide (jsLength value ≤ 253) && !value.contains '/' && !value.contains ':' &&
    (value.splitOn '.').all isDomainLabel

inductive ScopeInputType
  | cidr
  | host
  deriving DecidableEq, Repr

def isValidScopeValue (scopeType : ScopeInputType) (value : List Char) : Bool :=
  match scopeType with
  | .cidr => (cidrForm value).isSome
  | .host => isIpLiteral value || isDomainName value

def resolvePayloadScopeType (scopeType : ScopeInputType) (value : List Char) : ScopeType :=
  match scopeType with
  | .cidr => .cidr
  -- a name in hex letters with a dot is taken for an address
  | .host => if isIpLiteral value then .ip else .domain

/-- The ids and ports of `discoveryServiceOptions`. -/
def discoveryServiceOptions : List (String × List Nat) :=
  [("https-web", [443]), ("pqc-tls", [443]), ("ssh", [22, 2222]), ("mqtt", [8883]),
    ("ipsec", [500, 4500]), ("mail", [25, 465, 587, 993, 995]), ("postgresql", [5432]),
    ("api-gateway", [8443]), ("admin-console", [443]), ("mobile-api", [443]), ("auth-oidc", [443]),
    ("saml-idp", [443]), ("mysql-legacy", [3306]), ("redis-cache", [6380]),
    ("kafka-broker", [9093]), ("internal-grpc", [8443]), ("service-mesh-mtls", [15017]),
    ("gitlab-runner", [9443]), ("container-registry", [5000]), ("artifact-repo", [8443]),
    ("vault", [8200]), ("backup-service", [8443]), ("monitoring", [9090]), ("logging", [9200]),
    ("legacy-java-app", [8443])]

/-- The ports of the selected services in the order of the options, each once. -/
def portsForServices (serviceIds : List String) : List Nat :=
  ((discoveryServiceOptions.filter fun service => serviceIds.contains service.1).flatMap
    (·.2)).reverse.dedup.reverse

structure DiscoveryPayload where
  scopeType : ScopeType
  scopeValue : List Char
  executorType : ExecutorType
  agentId : Option String
  ports : List Nat
  includeDefaultPorts : Bool
  autoScan : Bool
  autoAvailabilityCheck : Bool
  deriving DecidableEq, Repr

def formErrors (scopeType : ScopeInputType) (value : List Char) (ports : List Nat)
    (executorType : ExecutorType) (agentId : Option String) : List String :=
  (if value = [] then ["탐색 대상 값이 필요합니다."]
    else if isValidScopeValue scopeType value then []
    else ["탐색 대상 형식이 올바르지 않습니다."]) ++
    (if ports = [] then ["하나 이상의 서비스를 선택하세요."] else []) ++
    if executorType = .agent ∧ agentId.getD "" = "" then ["Discovery Agent를 선택하세요."] else []

def buildDiscoveryCreatePayload (scopeType : ScopeInputType) (scopeValue : List Char)
    (serviceIds : List String) (executorType : ExecutorType) (agentId : Option String)
    (runAvailabilityPipeline : Bool) : Except (List String) DiscoveryPayload :=
  let ports := portsForServices serviceIds
  let normalizedScopeValue := trim isJsSpace scopeValue
  let errors := formErrors scopeType normalizedScopeValue ports executorType agentId
  if errors ≠ [] then .error errors
  else .ok {
    scopeType := resolvePayloadScopeType scopeType normalizedScopeValue
    scopeValue := normalizedScopeValue
    executorType
    agentId := if executorType = .agent then agentId else none
    ports
    includeDefaultPorts := false
    autoScan := runAvailabilityPipeline
    autoAvailabilityCheck := runAvailabilityPipeline }

/-! ## 2. The backend -/

/-- `DOMAIN_LABEL_RE.match(label)`; the dollar sign also matches before a last line feed. -/
def matchesDomainLabel (label : List Char) : Bool :=
  isDomainLabel label || (label.getLast? == some '\n' && isDomainLabel label.dropLast)

def isValidDomain (value : List Char) : Bool :=
  -- `rstrip(".")`: a fully qualified name is valid here
  let domain := value.rdropWhile (· == '.')
  domain ≠ [] && decide (domain.length ≤ 253) && !domain.contains '/' && !domain.contains ':' &&
    (domain.splitOn '.').all matchesDomainLabel

def validateScope [PyText] (scopeType : ScopeType) (scopeValue : List Char) :
    Except String (List Char) :=
  let value := strip scopeValue
  if value = [] then .error "scope_value is required."
  else
    match scopeType with
    | .cidr =>
        if '/' ∉ value then .error "CIDR scope must use CIDR notation."
        else if isIpNetwork value then .ok value
        else .error "scope_value must be a valid CIDR."
    | .ip =>
        if isIpAddress value then .ok value
        else .error "scope_value must be a valid IP address."
    | .domain =>
        if isValidDomain value then .ok (lower value)
        else .error "scope_value must be a valid domain name."

/-! ## 3. Agreement -/

section

variable [PyText]

/-- On one text that a user enters: what the frontend sends is accepted with the kind it is sent with,
and a domain name that the backend accepts and that is no IP address is sent as a domain. -/
structure ScopesAgree (text : List Char) : Prop where
  accepted : ∀ scopeType serviceIds executorType agentId runAvailabilityPipeline payload,
    buildDiscoveryCreatePayload scopeType text serviceIds executorType agentId
        runAvailabilityPipeline = .ok payload →
      ∃ value, validateScope payload.scopeType payload.scopeValue = .ok value
  domains : ∀ value, validateScope .domain text = .ok value → isIpAddress (strip text) = false →
    isValidScopeValue .host (trim isJsSpace text) = true ∧
      resolvePayloadScopeType .host (trim isJsSpace text) = .domain

/-- What looks like a network or like an address is one, and a domain name that is no IP address is
trimmed by both sides alike and has neither a last dot nor a line feed. -/
structure ScopeClear (text : List Char) : Prop where
  network : ∀ address bits, cidrForm (trim isJsSpace text) = some (address, bits) →
    isIpv4Text address = true ∧ natOfDigits bits ≤ 32 ∨
      isIpv6Text address = true ∧ natOfDigits bits ≤ 128
  literal : isIpLiteral (trim isJsSpace text) = true → isIpAddress (trim isJsSpace text) = true
  domain : isValidDomain (strip text) = true → isIpAddress (strip text) = false →
    trim isJsSpace text = strip text ∧ (strip text).getLast? ≠ some '.' ∧ '\n' ∉ strip text

end

/-! ## 4. What the shapes say about the characters -/

theorem cidrForm_eq_some {value address bits : List Char}
    (h : cidrForm value = some (address, bits)) :
    value = address ++ '/' :: bits ∧ (∀ c ∈ address, isScopeChar c = true) ∧
      bits.all Char.isDigit = true ∧ bits ≠ [] := by
  unfold cidrForm at h
  dsimp only at h
  have hsplit := @List.takeWhile_append_dropWhile _ (fun c : Char => decide (c ≠ '/')) value
  cases hrest : value.dropWhile (fun c => decide (c ≠ '/')) with
  | nil =>
      rw [hrest] at h
      cases h
  | cons slash rest =>
      have hslash : slash = '/' := by
        have hhead := not_of_mem_head?_dropWhile (p := fun c : Char => decide (c ≠ '/')) (s := value)
          (a := slash) (by rw [hrest]; rfl)
        simpa using hhead
      rw [hrest, hslash] at hsplit
      rw [hrest] at h
      dsimp only at h
      -- the conditions of the pattern, one after the other
      by_cases hmatch : value.takeWhile (fun c => decide (c ≠ '/')) ≠ [] ∧
          (value.takeWhile fun c => decide (c ≠ '/')).all isScopeChar ∧ rest.all Char.isDigit ∧
            1 ≤ rest.length ∧ rest.length ≤ 3
      · rw [if_pos hmatch] at h
        cases h
        refine ⟨?_, List.all_eq_true.mp hmatch.2.1, hmatch.2.2.1, ?_⟩
        · exact hsplit.symm
        · exact List.length_pos_iff.mp hmatch.2.2.2.1
      · rw [if_neg hmatch] at h
        cases h

theorem isAlphanum_bounds {c : Char} (h : c.isAlphanum = true) : 47 < c.toNat ∧ c.toNat < 123 := by
  have hbounds := toNat_of_isAlphanum h
  omega

theorem isScopeChar_bounds {c : Char} (h : isScopeChar c = true) : 45 < c.toNat ∧ c.toNat < 123 := by
  simp only [isScopeChar, isHexDigit, Char.isDigit, Bool.or_eq_true, Bool.and_eq_true,
    decide_eq_true_eq, beq_iff_eq, UInt32.le_iff_toNat_le, Char.le_def, ge_iff_le] at h
  rcases h with ((h | rfl) | rfl)
  · change ((48 ≤ c.toNat ∧ c.toNat ≤ 57 ∨ 97 ≤ c.toNat ∧ c.toNat ≤ 102) ∨
      65 ≤ c.toNat ∧ c.toNat ≤ 70) at h
    omega
  · decide
  · decide

def isNameChar (c : Char) : Bool := c.isAlphanum || c == '-' || c == '.'

theorem isNameChar_bounds {c : Char} (h : isNameChar c = true) : 44 < c.toNat ∧ c.toNat < 123 := by
  simp only [isNameChar, Bool.or_eq_true, beq_iff_eq] at h
  rcases h with (h | rfl) | rfl
  · have hbounds := isAlphanum_bounds h
    omega
  · decide
  · decide

theorem not_isSpace_of_bounds [PyText] {c : Char} (h : 32 < c.toNat ∧ c.toNat < 123) :
    PyText.isSpace c = false := by
  have hascii : isAscii c = true := decide_eq_true (by omega)
  rw [PyText.isSpace_ascii c hascii]
  by_contra hspace
  have hle := toNat_le_of_isAsciiSpace (Bool.eq_true_of_not_eq_false hspace)
  omega

theorem not_isJsSpace_of_bounds {c : Char} (h : 32 < c.toNat ∧ c.toNat < 123) :
    isJsSpace c = false := by
  simp only [isJsSpace, Bool.or_eq_false_iff, Bool.and_eq_false_iff, decide_eq_false_iff_not,
    beq_eq_false_iff_ne]
  omega

theorem isNameChar_of_mem_isDomainLabel {label : List Char} (h : isDomainLabel label = true) :
    ∀ c ∈ label, isNameChar c = true := by
  cases label with
  | nil => cases h
  | cons first rest =>
      simp only [isDomainLabel, Bool.and_eq_true, Bool.or_eq_true, beq_iff_eq, List.all_eq_true] at h
      obtain ⟨hfirst, hrest⟩ := h
      intro c hc
      rw [List.mem_cons] at hc
      rcases hc with rfl | hc
      · rw [isNameChar, hfirst]
        rfl
      · rcases hrest with rfl | ⟨⟨_, hinit⟩, hlast⟩
        · cases hc
        -- a character of the middle, or the last one, which is no hyphen
        · have hne : rest ≠ [] := List.ne_nil_of_mem hc
          rw [← List.dropLast_append_getLast hne, List.mem_append, List.mem_singleton] at hc
          rcases hc with hc | rfl
          · have hinit := hinit c hc
            simp only [isNameChar, Bool.or_eq_true, beq_iff_eq]
            exact .inl hinit
          · rw [List.getLast?_eq_some_getLast hne, Option.any_some] at hlast
            rw [isNameChar, hlast]
            rfl

theorem isNameChar_of_mem_matchesDomainLabel {label : List Char}
    (h : matchesDomainLabel label = true) : ∀ c ∈ label, isNameChar c = true ∨ c = '\n' := by
  simp only [matchesDomainLabel, Bool.or_eq_true, Bool.and_eq_true, beq_iff_eq] at h
  intro c hc
  rcases h with h | ⟨hlast, h⟩
  · exact .inl (isNameChar_of_mem_isDomainLabel h c hc)
  · have hne : label ≠ [] := List.ne_nil_of_mem hc
    rw [List.getLast?_eq_some_getLast hne] at hlast
    rw [← List.dropLast_append_getLast hne, List.mem_append, List.mem_singleton] at hc
    rcases hc with hc | rfl
    · exact .inl (isNameChar_of_mem_isDomainLabel h c hc)
    · exact .inr (Option.some.inj hlast)

/-- A label without a line feed matches in both languages or in none. -/
theorem matchesDomainLabel_eq {label : List Char} (h : '\n' ∉ label) :
    matchesDomainLabel label = isDomainLabel label := by
  have hlast : (label.getLast? == some '\n') = false := by
    rw [beq_eq_false_iff_ne]
    intro heq
    exact h (List.mem_of_getLast? heq)
  rw [matchesDomainLabel, hlast, Bool.false_and, Bool.or_false]

/-- The characters of a text are the separator and those of its parts. -/
theorem mem_splitOn_dot {value : List Char} {c : Char} (h : c ∈ value) :
    c = '.' ∨ ∃ label ∈ value.splitOn '.', c ∈ label := by
  apply mem_intercalate.1
  rwa [List.intercalate_splitOn]

theorem mem_of_mem_splitOn_dot {value label : List Char} {c : Char}
    (hlabel : label ∈ value.splitOn '.') (hc : c ∈ label) : c ∈ value := by
  have hmem := (@mem_intercalate Char '.' c _).2 label hlabel hc
  rwa [List.intercalate_splitOn] at hmem

/-- A text with a last dot has an empty last label. -/
theorem nil_mem_splitOn_of_last_dot {value : List Char} (h : value.getLast? = some '.') :
    [] ∈ value.splitOn '.' := by
  obtain ⟨init, rfl⟩ := List.getLast?_eq_some_iff.mp h
  rw [List.splitOn_append_cons_self, List.splitOn_nil]
  exact List.mem_append_right _ (List.mem_singleton.mpr rfl)

theorem jsLength_eq {value : List Char} (h : ∀ c ∈ value, c.toNat < 0x10000) :
    jsLength value = value.length := by
  unfold jsLength
  induction value with
  | nil => rfl
  | cons c value ih =>
      have hc := h c List.mem_cons_self
      rw [List.map_cons, List.sum_cons, if_pos hc, ih fun d hd => h d (List.mem_cons_of_mem c hd),
        List.length_cons, Nat.add_comm]

/-! ## 5. Domain names of the two sides -/

theorem isNameChar_of_mem_isDomainName {value : List Char} (h : isDomainName value = true) :
    ∀ c ∈ value, isNameChar c = true := by
  simp only [isDomainName, Bool.and_eq_true, List.all_eq_true] at h
  intro c hc
  rcases mem_splitOn_dot hc with rfl | ⟨label, hlabel, hmem⟩
  · rfl
  · exact isNameChar_of_mem_isDomainLabel (h.2 label hlabel) c hmem

theorem isDomainName_last {value : List Char} (h : isDomainName value = true) :
    value.getLast? ≠ some '.' := by
  simp only [isDomainName, Bool.and_eq_true, List.all_eq_true] at h
  intro hlast
  exact absurd (h.2 [] (nil_mem_splitOn_of_last_dot hlast)) Bool.false_ne_true

theorem isDomainName_ne_nil {value : List Char} (h : isDomainName value = true) : value ≠ [] := by
  intro hnil
  subst hnil
  exact absurd h (by decide)

theorem rdropWhile_dot_eq {value : List Char} (h : value.getLast? ≠ some '.') :
    value.rdropWhile (· == '.') = value := by
  rw [List.rdropWhile_eq_self_iff]
  intro hne hdot
  rw [List.getLast?_eq_some_getLast hne, beq_iff_eq.mp hdot] at h
  exact h rfl

/-- What the frontend takes for a domain name the backend accepts. -/
theorem isValidDomain_of_isDomainName {value : List Char} (h : isDomainName value = true) :
    isValidDomain value = true := by
  have hchars := isNameChar_of_mem_isDomainName h
  have hlength : jsLength value = value.length := jsLength_eq fun c hc => by
    have hbounds := isNameChar_bounds (hchars c hc)
    omega
  have hne := isDomainName_ne_nil h
  unfold isValidDomain
  rw [rdropWhile_dot_eq (isDomainName_last h)]
  simp only [isDomainName, Bool.and_eq_true, List.all_eq_true, hlength] at h
  simp only [Bool.and_eq_true, List.all_eq_true]
  refine ⟨⟨⟨⟨decide_eq_true hne, h.1.1.1⟩, h.1.1.2⟩, h.1.2⟩, ?_⟩
  intro label hlabel
  rw [matchesDomainLabel, h.2 label hlabel]
  rfl

theorem isValidDomain_chars {value : List Char} (h : isValidDomain value = true) :
    ∀ c ∈ value, isNameChar c = true ∨ c = '\n' := by
  simp only [isValidDomain, Bool.and_eq_true, List.all_eq_true] at h
  intro c hc
  by_cases hdot : c = '.'
  · rw [hdot]
    exact .inl rfl
  -- the characters that `rstrip` takes away are dots
  · have hmem : c ∈ value.rdropWhile (· == '.') := by
      rw [← List.rdropWhile_append_rtakeWhile (p := (· == '.')) (l := value), List.mem_append] at hc
      rcases hc with hc | hc
      · exact hc
      · have hlast := List.mem_rtakeWhile_imp (p := fun x : Char => x == '.') hc
        exact absurd (beq_iff_eq.mp hlast) hdot
    rcases mem_splitOn_dot hmem with hc | ⟨label, hlabel, hin⟩
    · exact absurd hc hdot
    · exact isNameChar_of_mem_matchesDomainLabel (h.2 label hlabel) c hin

/-- The other way round it is so without a last dot and without a line feed. -/
theorem isDomainName_of_isValidDomain {value : List Char} (h : isValidDomain value = true)
    (hlast : value.getLast? ≠ some '.') (hfeed : '\n' ∉ value) : isDomainName value = true := by
  have hchars := isValidDomain_chars h
  have hlength : jsLength value = value.length := jsLength_eq fun c hc => by
    rcases hchars c hc with hname | rfl
    · have hbounds := isNameChar_bounds hname
      omega
    · decide
  unfold isValidDomain at h
  rw [rdropWhile_dot_eq hlast] at h
  simp only [Bool.and_eq_true, List.all_eq_true] at h
  simp only [isDomainName, Bool.and_eq_true, List.all_eq_true, hlength]
  refine ⟨⟨⟨h.1.1.1.2, h.1.1.2⟩, h.1.2⟩, ?_⟩
  intro label hlabel
  have hnone : '\n' ∉ label := fun hmem => hfeed (mem_of_mem_splitOn_dot hlabel hmem)
  rw [← matchesDomainLabel_eq hnone]
  exact h.2 label hlabel

/-! ## 6. The payload -/

theorem build_eq_ok {scopeType : ScopeInputType} {text : List Char} {serviceIds : List String}
    {executorType : ExecutorType} {agentId : Option String} {runAvailabilityPipeline : Bool}
    {payload : DiscoveryPayload}
    (h : buildDiscoveryCreatePayload scopeType text serviceIds executorType agentId
      runAvailabilityPipeline = .ok payload) :
    isValidScopeValue scopeType (trim isJsSpace text) = true ∧
      payload.scopeType = resolvePayloadScopeType scopeType (trim isJsSpace text) ∧
      payload.scopeValue = trim isJsSpace text := by
  unfold buildDiscoveryCreatePayload at h
  dsimp only at h
  split at h
  · cases h
  · rename_i hnone
    cases h
    refine ⟨?_, rfl, rfl⟩
    -- an invalid value would have left an error
    by_contra hinvalid
    apply hnone
    unfold formErrors
    rw [if_neg hinvalid]
    split
    · exact List.cons_ne_nil _ _
    · exact List.cons_ne_nil _ _

/-- A valid value with one service selected makes a payload. -/
theorem build_of_valid (scopeType : ScopeInputType) {text : List Char}
    (hne : trim isJsSpace text ≠ [])
    (h : isValidScopeValue scopeType (trim isJsSpace text) = true) :
    ∃ payload, buildDiscoveryCreatePayload scopeType text ["https-web"] .central none true =
        .ok payload ∧ payload.scopeType = resolvePayloadScopeType scopeType (trim isJsSpace text) ∧
      payload.scopeValue = trim isJsSpace text := by
  have hnone : formErrors scopeType (trim isJsSpace text) (portsForServices ["https-web"]) .central
      none = [] := by
    unfold formErrors
    rw [if_neg hne, if_pos h]
    rfl
  unfold buildDiscoveryCreatePayload
  dsimp only
  rw [hnone]
  exact ⟨_, rfl, rfl, rfl⟩

section

variable [PyText]

theorem strip_of_scope {value : List Char} (h : ∀ c ∈ value, isScopeChar c = true ∨ c = '/') :
    strip value = value := by
  apply strip_eq_self
  intro c hc
  rcases h c hc with hscope | rfl
  · have hbounds := isScopeChar_bounds hscope
    exact not_isSpace_of_bounds (by omega)
  · exact not_isSpace_of_bounds (by decide)

theorem strip_of_name {value : List Char} (h : ∀ c ∈ value, isNameChar c = true) :
    strip value = value := by
  apply strip_eq_self
  intro c hc
  have hbounds := isNameChar_bounds (h c hc)
  exact not_isSpace_of_bounds (by omega)

theorem validateScope_cidr {value : List Char} :
    (∃ v, validateScope .cidr value = .ok v) ↔
      strip value ≠ [] ∧ '/' ∈ strip value ∧ isIpNetwork (strip value) = true := by
  unfold validateScope
  dsimp only
  split
  · rename_i hnil
    exact iff_of_false (fun ⟨v, h⟩ => by cases h) fun h => h.1 hnil
  · rename_i hne
    split
    · rename_i hslash
      exact iff_of_false (fun ⟨v, h⟩ => by cases h) fun h => hslash h.2.1
    · rename_i hslash
      split
      · rename_i hnetwork
        exact iff_of_true ⟨_, rfl⟩ ⟨hne, not_not.mp hslash, hnetwork⟩
      · rename_i hnetwork
        exact iff_of_false (fun ⟨v, h⟩ => by cases h) fun h => hnetwork h.2.2

theorem validateScope_ip {value : List Char} :
    (∃ v, validateScope .ip value = .ok v) ↔
      strip value ≠ [] ∧ isIpAddress (strip value) = true := by
  unfold validateScope
  dsimp only
  split
  · rename_i hnil
    exact iff_of_false (fun ⟨v, h⟩ => by cases h) fun h => h.1 hnil
  · rename_i hne
    split
    · rename_i haddress
      exact iff_of_true ⟨_, rfl⟩ ⟨hne, haddress⟩
    · rename_i haddress
      exact iff_of_false (fun ⟨v, h⟩ => by cases h) fun h => haddress h.2

theorem validateScope_domain {value : List Char} :
    (∃ v, validateScope .domain value = .ok v) ↔
      strip value ≠ [] ∧ isValidDomain (strip value) = true := by
  unfold validateScope
  dsimp only
  split
  · rename_i hnil
    exact iff_of_false (fun ⟨v, h⟩ => by cases h) fun h => h.1 hnil
  · rename_i hne
    split
    · rename_i hdomain
      exact iff_of_true ⟨_, rfl⟩ ⟨hne, hdomain⟩
    · rename_i hdomain
      exact iff_of_false (fun ⟨v, h⟩ => by cases h) fun h => hdomain h.2

/-! ## 7. When the two sides agree -/

/-- The payload of a text that looks like a network is accepted where it is one. -/
theorem validateScope_cidrForm {value address bits : List Char}
    (h : cidrForm value = some (address, bits)) :
    (∃ v, validateScope .cidr value = .ok v) ↔
      isIpv4Text address = true ∧ natOfDigits bits ≤ 32 ∨
        isIpv6Text address = true ∧ natOfDigits bits ≤ 128 := by
  obtain ⟨rfl, hscope, hbits, hne⟩ := cidrForm_eq_some h
  -- the slash of the form is the one that `ip_network` splits at
  have hslash : '/' ∉ address := by
    intro hmem
    exact absurd (hscope '/' hmem) (by decide)
  have hstrip : strip (address ++ '/' :: bits) = address ++ '/' :: bits := by
    apply strip_of_scope
    intro c hc
    rw [List.mem_append, List.mem_cons] at hc
    rcases hc with hc | rfl | hc
    · exact .inl (hscope c hc)
    · exact .inr rfl
    · left
      have hdigit := List.all_eq_true.mp hbits c hc
      rw [isScopeChar, isHexDigit, hdigit]
      rfl
  rw [validateScope_cidr, hstrip, isIpNetwork_slash hslash hne hbits]
  simp only [Bool.or_eq_true, Bool.and_eq_true, decide_eq_true_eq]
  constructor
  · exact fun h => h.2.2
  · intro hvalid
    exact ⟨by simp, by simp, hvalid⟩

/-- The payload of a text that looks like an address is accepted where it is one. -/
theorem validateScope_literal {value : List Char} (h : isIpLiteral value = true) :
    (∃ v, validateScope .ip value = .ok v) ↔ isIpAddress value = true := by
  simp only [isIpLiteral, Bool.and_eq_true, decide_eq_true_eq, List.all_eq_true] at h
  have hstrip : strip value = value := strip_of_scope fun c hc => .inl (h.1.2 c hc)
  rw [validateScope_ip, hstrip]
  exact ⟨fun hvalid => hvalid.2, fun hvalid => ⟨h.1.1, hvalid⟩⟩

/-- A domain name that both sides accept is trimmed alike. -/
theorem trim_eq_strip {text : List Char} (hname : isDomainName (trim isJsSpace text) = true)
    (hvalid : isValidDomain (strip text) = true) (hne : strip text ≠ []) :
    trim isJsSpace text = strip text := by
  -- beyond line feeds, no character of a domain is white space for either side
  have hend : ∀ c ∈ strip text, PyText.isSpace c = false → isJsSpace c = false := by
    intro c hc hspace
    rcases isValidDomain_chars hvalid c hc with hchar | rfl
    · have hbounds := isNameChar_bounds hchar
      exact not_isJsSpace_of_bounds (by omega)
    · have hfeed : PyText.isSpace '\n' = true := PyText.isSpace_ascii '\n' (by decide)
      rw [hfeed] at hspace
      cases hspace
  have htrim : strip text = trim PyText.isSpace text := rfl
  rw [htrim] at hend hne ⊢
  apply trim_eq_trim (isDomainName_ne_nil hname) hne
  · intro c hc
    have hbounds := isNameChar_bounds (isNameChar_of_mem_isDomainName hname c hc)
    exact not_isSpace_of_bounds (by omega)
  · intro c hc
    exact hend c (List.mem_of_mem_head? hc) (not_of_mem_head?_trim hc)
  · intro c hc
    exact hend c (List.mem_of_mem_getLast? hc) (not_of_mem_getLast?_trim hc)

/-- Frontend and backend agree on a text exactly where it is clear. -/
theorem scopesAgree_iff (text : List Char) : ScopesAgree text ↔ ScopeClear text := by
  constructor
  · intro h
    refine ⟨?_, ?_, ?_⟩
    · intro address bits hform
      have hne : trim isJsSpace text ≠ [] := by
        rw [(cidrForm_eq_some hform).1]
        simp
      obtain ⟨payload, hbuild, hkind, hvalue⟩ :=
        build_of_valid .cidr hne (by rw [isValidScopeValue, hform]; rfl)
      have hvalid := h.accepted _ _ _ _ _ _ hbuild
      rw [hkind, hvalue] at hvalid
      exact (validateScope_cidrForm hform).mp hvalid
    · intro hliteral
      have hne : trim isJsSpace text ≠ [] := by
        intro hnil
        rw [hnil] at hliteral
        cases hliteral
      obtain ⟨payload, hbuild, hkind, hvalue⟩ :=
        build_of_valid .host hne (by rw [isValidScopeValue, hliteral]; rfl)
      have hvalid := h.accepted _ _ _ _ _ _ hbuild
      have hip : payload.scopeType = .ip := by rw [hkind, resolvePayloadScopeType, if_pos hliteral]
      rw [hip, hvalue] at hvalid
      exact (validateScope_literal hliteral).mp hvalid
    · intro hvalid hnoip
      have hne : strip text ≠ [] := by
        intro hnil
        rw [hnil] at hvalid
        exact absurd hvalid (by decide)
      obtain ⟨value, haccepted⟩ := validateScope_domain.mpr ⟨hne, hvalid⟩
      obtain ⟨hhost, hdomain⟩ := h.domains value haccepted hnoip
      -- a literal would have been sent as an address
      have hliteral : ¬ isIpLiteral (trim isJsSpace text) = true := by
        intro hliteral
        rw [resolvePayloadScopeType, if_pos hliteral] at hdomain
        cases hdomain
      have hname : isDomainName (trim isJsSpace text) = true := by
        rw [isValidScopeValue, Bool.or_eq_true] at hhost
        exact hhost.resolve_left hliteral
      have htrim := trim_eq_strip hname hvalid hne
      rw [htrim] at hname
      refine ⟨htrim, isDomainName_last hname, ?_⟩
      intro hfeed
      exact absurd (isNameChar_of_mem_isDomainName hname '\n' hfeed) (by decide)
  · intro h
    refine ⟨?_, ?_⟩
    · intro scopeType serviceIds executorType agentId runAvailabilityPipeline payload hbuild
      obtain ⟨hvalid, hkind, hvalue⟩ := build_eq_ok hbuild
      rw [hkind, hvalue]
      cases scopeType with
      | cidr =>
          obtain ⟨⟨address, bits⟩, hform⟩ := Option.isSome_iff_exists.mp hvalid
          exact (validateScope_cidrForm hform).mpr (h.network address bits hform)
      | host =>
          -- sent as an address where it is a literal, else as a domain
          by_cases hliteral : isIpLiteral (trim isJsSpace text) = true
          · rw [resolvePayloadScopeType, if_pos hliteral]
            exact (validateScope_literal hliteral).mpr (h.literal hliteral)
          · rw [isValidScopeValue, Bool.or_eq_true] at hvalid
            have hname := hvalid.resolve_left hliteral
            have hstrip := strip_of_name (isNameChar_of_mem_isDomainName hname)
            rw [resolvePayloadScopeType, if_neg hliteral, validateScope_domain, hstrip]
            exact ⟨isDomainName_ne_nil hname, isValidDomain_of_isDomainName hname⟩
    · intro value haccepted hnoip
      have hvalid := (validateScope_domain.mp ⟨value, haccepted⟩).2
      obtain ⟨htrim, hlast, hfeed⟩ := h.domain hvalid hnoip
      have hname := isDomainName_of_isValidDomain hvalid hlast hfeed
      have hliteral : ¬ isIpLiteral (trim isJsSpace text) = true := by
        intro hliteral
        have haddress := h.literal hliteral
        rw [htrim, hnoip] at haddress
        cases haddress
      rw [htrim] at hliteral ⊢
      refine ⟨?_, ?_⟩
      · rw [isValidScopeValue, hname, Bool.or_true]
      · rw [resolvePayloadScopeType, if_neg hliteral]

end

/-- A name in hex letters goes out as an address, a prefix length may be too long, and a fully
qualified name is refused. -/
theorem scopes_disagree : letI := asciiText
    ¬ ScopesAgree "dead.beef".toList ∧ ¬ ScopesAgree "10.0.0.0/33".toList ∧
      ¬ ScopesAgree "example.com.".toList := by
  let := asciiText
  refine ⟨?_, ?_, ?_⟩
  · intro h
    have haccepted := h.accepted .host ["https-web"] .central none true _ rfl
    have hliteral : isIpLiteral "dead.beef".toList = true := by decide
    exact absurd ((validateScope_literal hliteral).mp haccepted) (by decide +kernel)
  · intro h
    have haccepted := h.accepted .cidr ["https-web"] .central none true _ rfl
    have hform : cidrForm "10.0.0.0/33".toList = some ("10.0.0.0".toList, "33".toList) := by decide
    exact absurd ((validateScope_cidrForm hform).mp haccepted) (by decide +kernel)
  · intro h
    have hhost := (h.domains "example.com.".toList (by decide +kernel) (by decide +kernel)).1
    exact absurd hhost (by decide +kernel)

end CryptoScanner.Discoveries
