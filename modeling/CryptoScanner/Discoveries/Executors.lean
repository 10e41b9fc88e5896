import CryptoScanner.AgentDiscovery.Runner
import CryptoScanner.Discoveries.Endpoints
import CryptoScanner.Discoveries.ScopeSpelling

/-!
# The two executors of a discovery

A discovery probes its scope from the backend or has an agent do it, and stores what was found.  The
backend connects to every host and TCP port; an agent runs its probes.  Whatever order the probes finish
in, what is stored is what answered, and for TCP both executors store the same places.
-/

namespace CryptoScanner.Discoveries

open Library Python AgentDiscovery

/-! ## 1. The backend as executor -/

def defaultDiscoveryPorts : List Nat :=
  [22, 25, 443, 465, 500, 587, 993, 995, 2222, 3306, 4500, 5000, 5432, 6380, 8200, 8443, 8883, 9090,
    9093, 9200, 9443, 15017]

def resolvedPorts (ports : List Nat) (includeDefaultPorts : Bool) : List Nat :=
  (ports ++ if includeDefaultPorts then defaultDiscoveryPorts else []).dedup.insertionSort (· ≤ ·)

/-- `_hosts_for_scope` of the backend; `none` is the `ValueError` of a value that is no address or
network. -/
def centralHosts [PyText] (scopeType : ScopeType) (scopeValue : List Char) :
    Option (List (List Char)) :=
  let value := strip scopeValue
  if value = [] then some []
  else
    match scopeType with
    | .cidr => (ipNetwork? value).map fun network => network.hosts (2 ^ 128)
    | .ip => (ipAddress? value).map fun address => [addressText (ipScopeId value) address]
    | .domain => some [value]

/-- What `central_discover` appends for an open port. -/
def centralRecord (host : List Char) (port : Nat) : Json :=
  .dict
    [("host", .str (String.ofList host)),
      ("port", .int port),
      ("transport", .str "TCP"),
      ("detected_protocol", .str (protocolHintForPort port .tcp)),
      ("suggested_protocol_hint", .str (protocolHintForPort port .tcp))]

def tcpCandidates (hosts : List (List Char)) (ports : List Nat) : List (List Char × Nat) :=
  (futures hosts ports).filter fun future => future.2 ∉ [500, 4500]

/-- `central_discover`, by what `_tcp_port_open` returns. -/
def centralDiscover (isOpen : List Char → Nat → Bool) (hosts : List (List Char)) (ports : List Nat)
    (order : CompletionOrder) : List Json :=
  ((order.asCompleted (tcpCandidates hosts ports)).filter fun future =>
    isOpen future.1 future.2).map fun future => centralRecord future.1 future.2

/-! ## 2. An agent as executor -/

def asDict (endpoint : DiscoveryEndpoint) : Json :=
  .dict
    [("host", .str (String.ofList endpoint.host)),
      ("port", .int endpoint.port),
      ("transport", .str (String.ofList (transportText endpoint.transport))),
      ("detected_protocol", .str (String.ofList endpoint.detectedProtocol)),
      ("suggested_protocol_hint", .str (String.ofList endpoint.suggestedProtocolHint)),
      ("availability_metrics", .dict endpoint.availabilityMetrics)]

def scopeTypeText : ScopeType → List Char
  | .cidr => "cidr".toList
  | .ip => "ip".toList
  | .domain => "domain".toList

/-- The request that `run_discovery_payload` makes. -/
def discoverPayload (scopeType : ScopeType) (scopeValue : List Char) (ports : List Nat) :
    DiscoverPayload where
  scopeType := some (scopeTypeText scopeType)
  scopeValue := some scopeValue
  cidr := some scopeValue
  ports := ports.map Int.ofNat

/-! ## 3. What the backend reads -/

section Reading

variable [PyText] {floatRepr : PyFloat → List Char} {limits : Limits}

def endpointRecord (endpoint : DiscoveryEndpoint) : EndpointRecord where
  triple := ⟨strip endpoint.host, endpoint.port, endpoint.transport⟩
  detectedProtocol :=
    (if endpoint.detectedProtocol = [] then "UNKNOWN".toList else endpoint.detectedProtocol).take 32
  suggestedProtocolHint :=
    (if endpoint.suggestedProtocolHint = [] then
      (protocolHintForPort endpoint.port endpoint.transport).toList
    else endpoint.suggestedProtocolHint).take 16
  availabilityMetrics := endpoint.availabilityMetrics

def centralEndpoint (host : List Char) (port : Nat) : DiscoveryEndpoint where
  host
  port
  transport := .tcp
  detectedProtocol := (protocolHintForPort port .tcp).toList
  suggestedProtocolHint := (protocolHintForPort port .tcp).toList

/-- The loop of `upsert_discovered_endpoints` does not skip the endpoint. -/
def IsStored (endpoint : DiscoveryEndpoint) : Prop :=
  strip endpoint.host ≠ [] ∧ 1 ≤ endpoint.port ∧ endpoint.port ≤ 65535

instance decidableIsStored (endpoint : DiscoveryEndpoint) : Decidable (IsStored endpoint) :=
  inferInstanceAs (Decidable (_ ∧ _))

theorem pyOr_text (floatRepr : PyFloat → List Char) (text : List Char) (default : String) :
    (pyOr (.str (String.ofList text)) (.str default)).pyStr floatRepr =
      if text = [] then default.toList else text := by
  unfold pyOr
  by_cases hempty : text = []
  · subst hempty
    rfl
  · have hne : String.ofList text ≠ "" := by
      intro heq
      apply hempty
      rw [← String.toList_ofList (l := text), heq]
      rfl
    have htruthy : (Json.str (String.ofList text)).truthy = true := by
      show (String.ofList text != "") = true
      rw [bne_iff_ne]
      exact hne
    rw [if_pos htruthy, if_neg hempty]
    show (String.ofList text).toList = text
    rw [String.toList_ofList]

theorem pyInt_pyOr (limits : Limits) (n : Nat) :
    pyInt limits (pyOr (.int n) (.int 0)) = .ok (n : Int) := by
  cases n with
  | zero => rfl
  | succ n => rfl

theorem transport_ofText (transport : Transport) :
    Transport.ofText (upper (transportText transport)) = some transport := by
  have hupper : upper (transportText transport) = transportText transport := by
    rw [upper_ascii]
    · cases transport <;> rfl
    · cases transport <;> decide
  rw [hupper]
  cases transport <;> rfl

/-- The entries of a record for an endpoint are read back. -/
theorem readEntries_endpoint {get : String → Json} (endpoint : DiscoveryEndpoint)
    (hhost : get "host" = .str (String.ofList endpoint.host)) (hip : get "ip" = .null)
    (hport : get "port" = .int endpoint.port)
    (htransport : get "transport" = .str (String.ofList (transportText endpoint.transport)))
    (hdetected : get "detected_protocol" = .str (String.ofList endpoint.detectedProtocol))
    (hhint : get "suggested_protocol_hint" = .str (String.ofList endpoint.suggestedProtocolHint))
    (hmetrics : endpointAvailabilityMetrics get = endpoint.availabilityMetrics) :
    readEntries floatRepr limits get =
      .ok (if IsStored endpoint then some (endpointRecord endpoint) else none) := by
  have hhostText : (pyOr (get "host") (pyOr (get "ip") (.str ""))).pyStr floatRepr =
      endpoint.host := by
    rw [hhost, hip]
    show (pyOr (.str (String.ofList endpoint.host)) (.str "")).pyStr floatRepr = endpoint.host
    rw [pyOr_text]
    split
    · rename_i hempty
      rw [hempty]
      rfl
    · rfl
  have htransportText : (pyOr (get "transport") (.str "TCP")).pyStr floatRepr =
      transportText endpoint.transport := by
    rw [htransport, pyOr_text, if_neg (by cases endpoint.transport <;> decide)]
  have hskip : (strip endpoint.host = [] ∨ (endpoint.port : Int) < 1 ∨ 65535 < (endpoint.port : Int)) ↔
      ¬ IsStored endpoint := by
    unfold IsStored
    by_cases hempty : strip endpoint.host = []
    · simp [hempty]
    · simp only [hempty, false_or, ne_eq, not_false_eq_true, true_and]
      omega
  unfold readEntries
  rw [hhostText, hport, htransportText, pyInt_pyOr]
  simp only [bind, Except.bind, pure, Except.pure, transport_ofText]
  rw [hdetected, hhint, pyOr_text, pyOr_text, hmetrics]
  by_cases hstored : IsStored endpoint
  · rw [if_neg (by rw [hskip]; exact not_not_intro hstored), if_pos hstored]
    rfl
  · rw [if_pos (hskip.mpr hstored), if_neg hstored]

theorem validRecord_asDict (endpoint : DiscoveryEndpoint) :
    validRecord floatRepr limits (asDict endpoint) =
      if IsStored endpoint then some (endpointRecord endpoint) else none := by
  have hmetrics : ∀ get : String → Json,
      get "availability_metrics" = .dict endpoint.availabilityMetrics →
      get "performance_metrics" = .null → get "performance" = .null →
      endpointAvailabilityMetrics get = endpoint.availabilityMetrics := by
    intro get havailability hmetrics hperformance
    unfold endpointAvailabilityMetrics
    rw [havailability, hmetrics, hperformance]
    cases endpoint.availabilityMetrics <;> rfl
  unfold validRecord readRecord asDict
  dsimp only
  rw [readEntries_endpoint endpoint rfl rfl rfl rfl rfl rfl (hmetrics _ rfl rfl rfl)]
  rfl

theorem validRecord_centralRecord (host : List Char) (port : Nat) :
    validRecord floatRepr limits (centralRecord host port) =
      if IsStored (centralEndpoint host port) then some (endpointRecord (centralEndpoint host port))
      else none := by
  have htext : protocolHintForPort port .tcp =
      String.ofList (centralEndpoint host port).suggestedProtocolHint := by
    show protocolHintForPort port .tcp = String.ofList (protocolHintForPort port .tcp).toList
    rw [String.ofList_toList]
  unfold validRecord readRecord centralRecord
  dsimp only
  rw [readEntries_endpoint (centralEndpoint host port)]
  · rfl
  · rfl
  · rfl
  · rfl
  · rfl
  · exact congrArg Json.str htext
  · exact congrArg Json.str htext
  · rfl

/-- The records of a list of endpoints are stored in its order. -/
theorem validRecords_map {toJson : DiscoveryEndpoint → Json} {endpoints : List DiscoveryEndpoint}
    (h : ∀ endpoint ∈ endpoints, validRecord floatRepr limits (toJson endpoint) =
      if IsStored endpoint then some (endpointRecord endpoint) else none) :
    validRecords floatRepr limits (endpoints.map toJson) =
      (endpoints.filter fun endpoint => IsStored endpoint).map endpointRecord := by
  unfold validRecords
  induction endpoints with
  | nil => rfl
  | cons endpoint endpoints ih =>
      have hrest := ih fun other hother => h other (List.mem_cons_of_mem endpoint hother)
      rw [List.map_cons, List.filterMap_cons, h endpoint List.mem_cons_self, hrest]
      by_cases hstored : IsStored endpoint
      · rw [if_pos hstored, List.filter_cons_of_pos (by rwa [decide_eq_true_eq]), List.map_cons]
      · rw [if_neg hstored, List.filter_cons_of_neg (by rwa [decide_eq_true_eq])]

end Reading

/-! ## 4. The hosts of a scope -/

section Hosts

variable [PyText]

theorem isSpace_of_mem_hexText {n : Nat} {c : Char} (h : c ∈ hexText n) :
    PyText.isSpace c = false := by
  have hdigit : ∀ d < 16, isAscii (Nat.digitChar d) = true ∧
      isAsciiSpace (Nat.digitChar d) = false := by decide +kernel
  have hone : ∀ d < 16, PyText.isSpace (Nat.digitChar d) = false := by
    intro d hd
    rw [PyText.isSpace_ascii _ (hdigit d hd).1, (hdigit d hd).2]
  induction n using Nat.strongRecOn with
  | ind n ih =>
      unfold hexText at *
      by_cases hsmall : n < 16
      · rw [Nat.toDigits_of_lt_base hsmall, List.mem_singleton] at h
        rw [h]
        exact hone n hsmall
      · rw [Nat.toDigits_of_base_le (by decide) (by omega), List.mem_append,
          List.mem_singleton] at h
        rcases h with h | h
        · exact ih (n / 16) (by omega) h
        · rw [h]
          exact hone (n % 16) (Nat.mod_lt n (by decide))

theorem isSpace_separator {c : Char} (h : c = '.' ∨ c = ':') : PyText.isSpace c = false := by
  have hboth : isAscii c = true ∧ isAsciiSpace c = false := by
    rcases h with rfl | rfl <;> decide
  rw [PyText.isSpace_ascii c hboth.1, hboth.2]

omit [PyText] in
theorem mem_compressHextets {parts : List (List Char)} {part : List Char}
    (h : part ∈ compressHextets parts) : part = [] ∨ part ∈ parts := by
  unfold compressHextets at h
  simp only at h
  split at h
  · simp only [List.mem_append, List.mem_cons] at h
    rcases h with (hlead | htake) | hgap | hdrop | htrail
    · split at hlead <;> simp_all
    · exact .inr (List.mem_of_mem_take htake)
    · exact .inl hgap
    · exact .inr (List.mem_of_mem_drop hdrop)
    · split at htrail <;> simp_all
  · exact .inr h

/-- The text of an address without a scope id has no white space. -/
theorem strip_addressText (address : IpAddress) :
    strip (addressText none address) = addressText none address := by
  apply strip_eq_self
  intro c hc
  cases address with
  | v4 ip =>
      change c ∈ ipv4Text ip at hc
      rcases mem_intercalate.1 hc with rfl | ⟨part, hpart, hmem⟩
      · exact isSpace_separator (.inl rfl)
      · obtain ⟨n, _, rfl⟩ := List.mem_map.mp hpart
        exact isSpace_of_mem_decimalText hmem
  | v6 ip =>
      change c ∈ ipv6Text ip ++ [] at hc
      rw [List.append_nil] at hc
      rcases mem_intercalate.1 hc with rfl | ⟨part, hpart, hmem⟩
      · exact isSpace_separator (.inr rfl)
      · -- a part is empty or the text of a hextet
        rcases mem_compressHextets hpart with rfl | hsource
        · cases hmem
        · obtain ⟨n, _, rfl⟩ := List.mem_map.mp hsource
          exact isSpace_of_mem_hexText hmem

theorem map_strip_addressRange (address : Nat → IpAddress) (limit first count : Nat) :
    (addressRange address limit first count).map strip =
      addressRange address limit first count := by
  unfold addressRange
  rw [List.map_map]
  apply List.map_congr_left
  intro ip _
  exact strip_addressText _

/-- A network has one host, or its hosts have no white space. -/
theorem map_strip_hosts (network : IpNetwork) (limit : Nat) :
    (network.hosts limit).length ≤ 1 ∨ (network.hosts limit).map strip = network.hosts limit := by
  have hone : ∀ host : List Char, ([host].take limit).length ≤ 1 := by
    intro host
    rw [List.length_take]
    exact Nat.min_le_right _ _
  unfold IpNetwork.hosts
  cases network.networkAddress with
  | v4 ip =>
      simp only
      split_ifs
      · exact .inr (map_strip_addressRange _ _ _ _)
      · exact .inl (hone _)
      · exact .inr (map_strip_addressRange _ _ _ _)
  | v6 ip =>
      simp only
      split_ifs
      · exact .inr (map_strip_addressRange _ _ _ _)
      · exact .inl (hone _)
      · exact .inr (map_strip_addressRange _ _ _ _)

theorem nodup_map_strip {hosts : List (List Char)} (hnodup : hosts.Nodup)
    (h : hosts.length ≤ 1 ∨ hosts.map strip = hosts) : (hosts.map strip).Nodup := by
  rcases h with hshort | hsame
  · match hosts, hshort with
    | [], _ => exact List.nodup_nil
    | [host], _ => exact List.nodup_singleton _
  · rw [hsame]
    exact hnodup

theorem centralHosts_strip {scopeType : ScopeType} {scopeValue : List Char}
    {hosts : List (List Char)} (h : centralHosts scopeType scopeValue = some hosts) :
    hosts.Nodup ∧ (hosts.map strip).Nodup := by
  unfold centralHosts at h
  dsimp only at h
  split at h
  · cases h
    exact ⟨List.nodup_nil, List.nodup_nil⟩
  · cases scopeType with
    | cidr =>
        obtain ⟨network, _, rfl⟩ := Option.map_eq_some_iff.mp h
        have hnodup := (nodup_hosts network (2 ^ 128)).of_map
        exact ⟨hnodup, nodup_map_strip hnodup (map_strip_hosts network _)⟩
    | ip =>
        obtain ⟨address, _, rfl⟩ := Option.map_eq_some_iff.mp h
        exact ⟨List.nodup_singleton _, List.nodup_singleton _⟩
    | domain =>
        cases h
        exact ⟨List.nodup_singleton _, List.nodup_singleton _⟩

theorem hostsForScope_strip {maxHosts : Int} {scopeType scopeValue : List Char}
    {hosts : List (List Char)} (h : hostsForScope maxHosts scopeType scopeValue = some hosts) :
    (hosts.map strip).Nodup := by
  have hnodup := (nodup_hostsForScope h).of_map
  unfold hostsForScope at h
  simp only at h
  split_ifs at h
  · cases h
    exact List.nodup_nil
  · obtain ⟨network, _, rfl⟩ := Option.map_eq_some_iff.mp h
    exact nodup_map_strip hnodup (map_strip_hosts network _)
  · obtain ⟨address, _, rfl⟩ := Option.map_eq_some_iff.mp h
    exact List.nodup_singleton _
  · cases h
    exact List.nodup_singleton _

end Hosts

/-! ## 5. A run of the executor -/

/-- Who probes: the backend, by what it can connect to, or an agent, with its probes and the most hosts
it takes of a network. -/
inductive Executor
  | central (isOpen : List Char → Nat → Bool)
  | agent (registry : ProbeRegistry) (maxHosts : Int)

def Executor.answer : Executor → List Char → Nat → Option DiscoveryEndpoint
  | .central isOpen, host, port =>
      if port ∉ [500, 4500] ∧ isOpen host port = true then some (centralEndpoint host port) else none
  | .agent registry _, host, port =>
      if 1 ≤ port ∧ port ≤ 65535 then probeHostPort registry host port else none

/-- What is found of the hosts and ports, in the order of the submissions. -/
def Executor.answers (executor : Executor) (hosts : List (List Char)) (ports : List Nat) :
    List DiscoveryEndpoint :=
  (futures hosts ports).filterMap fun future => executor.answer future.1 future.2

section Run

variable [PyText]

def Executor.hosts (scopeType : ScopeType) (scopeValue : List Char) :
    Executor → Option (List (List Char))
  | .central _ => centralHosts scopeType scopeValue
  | .agent _ maxHosts => hostsForScope maxHosts (scopeTypeText scopeType) scopeValue

/-- The `endpoints` of `run_discovery_payload`. -/
def Executor.records (order : CompletionOrder) (scopeType : ScopeType) (scopeValue : List Char)
    (ports : List Nat) : Executor → Option (List Json)
  | .central isOpen =>
      (centralHosts scopeType scopeValue).map fun hosts => centralDiscover isOpen hosts ports order
  | .agent registry maxHosts =>
      (discoverEndpoints registry maxHosts (discoverPayload scopeType scopeValue ports) order).map
        fun endpoints => endpoints.map asDict

variable (floatRepr : PyFloat → List Char) (limits : Limits) (backend : Backend)

/-- `run_discovery_payload`, as far as `endpoints_count`; `none` is the `ValueError` of a scope. -/
def runDiscoveryPayload (executor : Executor) (order : CompletionOrder) (discovery : Id)
    (scopeType : ScopeType) (scopeValue : List Char) (ports : List Nat) (includeDefaultPorts : Bool)
    (store : EndpointStore) : Option (EndpointStore × Except UpsertError Nat) :=
  (executor.records order scopeType scopeValue (resolvedPorts ports includeDefaultPorts)).map
    fun records => upsertDiscoveredEndpoints floatRepr limits backend discovery 0 records store

end Run

/-! ## 6. What is found, in whatever order -/

section Found

/-- Both executors expand a scope that has been validated. -/
theorem Executor.exists_hosts [PyText] (executor : Executor) {scopeType : ScopeType}
    {text scopeValue : List Char} (h : validateScope scopeType text = .ok scopeValue) :
    ∃ hosts, executor.hosts scopeType scopeValue = some hosts := by
  have hvalid : ∃ value, validateScope scopeType scopeValue = .ok value :=
    ⟨scopeValue, validateScope_idempotent h⟩
  cases scopeType with
  | cidr =>
      obtain ⟨hne, -, hnetwork⟩ := validateScope_cidr.mp hvalid
      rw [← ipNetwork?_isSome] at hnetwork
      obtain ⟨network, hnetwork⟩ := Option.isSome_iff_exists.mp hnetwork
      cases executor with
      | central isOpen =>
          show ∃ hosts, centralHosts .cidr scopeValue = some hosts
          rw [centralHosts, if_neg hne, hnetwork]
          exact ⟨_, rfl⟩
      | agent registry maxHosts =>
          show ∃ hosts, hostsForScope maxHosts "cidr".toList scopeValue = some hosts
          rw [hostsForScope, if_neg hne, if_pos rfl, hnetwork]
          exact ⟨_, rfl⟩
  | ip =>
      obtain ⟨hne, haddress⟩ := validateScope_ip.mp hvalid
      rw [← ipAddress?_isSome] at haddress
      obtain ⟨address, haddress⟩ := Option.isSome_iff_exists.mp haddress
      cases executor with
      | central isOpen =>
          show ∃ hosts, centralHosts .ip scopeValue = some hosts
          rw [centralHosts, if_neg hne, haddress]
          exact ⟨_, rfl⟩
      | agent registry maxHosts =>
          show ∃ hosts, hostsForScope maxHosts "ip".toList scopeValue = some hosts
          rw [hostsForScope, if_neg hne, if_neg (by decide), if_pos rfl, haddress]
          exact ⟨_, rfl⟩
  | domain =>
      obtain ⟨hne, -⟩ := validateScope_domain.mp hvalid
      cases executor with
      | central isOpen =>
          show ∃ hosts, centralHosts .domain scopeValue = some hosts
          rw [centralHosts, if_neg hne]
          exact ⟨_, rfl⟩
      | agent registry maxHosts =>
          show ∃ hosts, hostsForScope maxHosts "domain".toList scopeValue = some hosts
          rw [hostsForScope, if_neg hne, if_neg (by decide), if_neg (by decide)]
          exact ⟨_, rfl⟩

theorem nodup_resolvedPorts (ports : List Nat) (includeDefaultPorts : Bool) :
    (resolvedPorts ports includeDefaultPorts).Nodup :=
  (List.perm_insertionSort _ _).nodup_iff.mpr (List.nodup_dedup _)

theorem Executor.answer_place {executor : Executor} {host : List Char} {port : Nat}
    {endpoint : DiscoveryEndpoint} (h : executor.answer host port = some endpoint) :
    endpoint.host = host ∧ endpoint.port = port := by
  cases executor with
  | central isOpen =>
      change (if _ then some (centralEndpoint host port) else none) = some endpoint at h
      split at h
      · cases h
        exact ⟨rfl, rfl⟩
      · cases h
  | agent registry maxHosts =>
      change (if _ then probeHostPort registry host port else none) = some endpoint at h
      split at h
      · exact probeHostPort_place h
      · cases h

theorem Executor.mem_answers {executor : Executor} {hosts : List (List Char)} {ports : List Nat}
    {endpoint : DiscoveryEndpoint} : endpoint ∈ executor.answers hosts ports ↔
      endpoint.host ∈ hosts ∧ endpoint.port ∈ ports ∧
        executor.answer endpoint.host endpoint.port = some endpoint := by
  unfold Executor.answers
  rw [List.mem_filterMap]
  constructor
  · intro h
    obtain ⟨⟨host, port⟩, hmem, hanswer⟩ := h
    obtain ⟨rfl, rfl⟩ := Executor.answer_place hanswer
    exact ⟨(mem_futures.mp hmem).1, (mem_futures.mp hmem).2, hanswer⟩
  · intro h
    exact ⟨(endpoint.host, endpoint.port), mem_futures.mpr ⟨h.1, h.2.1⟩, h.2.2⟩

theorem Executor.nodup_answers {executor : Executor} {hosts : List (List Char)} {ports : List Nat}
    (hhosts : hosts.Nodup) (hports : ports.Nodup) : (executor.answers hosts ports).Nodup := by
  apply (nodup_futures hhosts hports).filterMap
  intro future other endpoint hmem hmem'
  obtain ⟨hhost, hport⟩ := Executor.answer_place hmem
  obtain ⟨hhost', hport'⟩ := Executor.answer_place hmem'
  exact Prod.ext (hhost.symm.trans hhost') (hport.symm.trans hport')

/-- The open ports, in the order in which the connections finish. -/
theorem central_perm (isOpen : List Char → Nat → Bool) (hosts : List (List Char)) (ports : List Nat)
    (order : CompletionOrder) :
    ∃ endpoints : List DiscoveryEndpoint,
      endpoints.Perm ((Executor.central isOpen).answers hosts ports) ∧
      centralDiscover isOpen hosts ports order =
        (endpoints.map fun endpoint => centralRecord endpoint.host endpoint.port) ∧
      ∀ endpoint ∈ endpoints, endpoint = centralEndpoint endpoint.host endpoint.port := by
  refine ⟨((order.asCompleted (tcpCandidates hosts ports)).filter fun future =>
    isOpen future.1 future.2).map fun future => centralEndpoint future.1 future.2, ?_, ?_, ?_⟩
  · have hperm := ((order.perm (tcpCandidates hosts ports)).filter fun future =>
      isOpen future.1 future.2).map fun future => centralEndpoint future.1 future.2
    have hanswers : ((tcpCandidates hosts ports).filter fun future => isOpen future.1 future.2).map
        (fun future => centralEndpoint future.1 future.2) =
        (Executor.central isOpen).answers hosts ports := by
      unfold tcpCandidates Executor.answers
      induction futures hosts ports with
      | nil => rfl
      | cons future rest ih =>
          have hanswer : (Executor.central isOpen).answer future.1 future.2 =
              if future.2 ∉ [500, 4500] ∧ isOpen future.1 future.2 = true then
                some (centralEndpoint future.1 future.2) else none := rfl
          rw [List.filterMap_cons, ← ih, List.filter_cons, hanswer]
          by_cases hport : future.2 ∈ [500, 4500]
          · simp [hport]
          · by_cases hopen : isOpen future.1 future.2 = true <;> simp [hport, hopen]
    rw [← hanswers]
    exact hperm
  · unfold centralDiscover
    rw [List.map_map]
    rfl
  · intro endpoint hmem
    obtain ⟨future, _, rfl⟩ := List.mem_map.mp hmem
    rfl

variable [PyText]

theorem hosts_discoverPayload (maxHosts : Int) (scopeType : ScopeType) (scopeValue : List Char)
    (ports : List Nat) : (discoverPayload scopeType scopeValue ports).hosts maxHosts =
      hostsForScope maxHosts (scopeTypeText scopeType) scopeValue := by
  unfold DiscoverPayload.hosts discoverPayload
  have hvalue : textOr (some scopeValue) (textOr (some scopeValue) []) = scopeValue := by
    cases scopeValue <;> rfl
  have htype : textOr (some (scopeTypeText scopeType)) "cidr".toList = scopeTypeText scopeType := by
    cases scopeType <;> rfl
  dsimp only
  rw [hvalue, htype]

theorem agent_perm {registry : ProbeRegistry} {maxHosts : Int} {scopeType : ScopeType}
    {scopeValue : List Char} {ports : List Nat} (hports : ports.Nodup)
    {endpoints : List DiscoveryEndpoint} {order : CompletionOrder}
    (h : discoverEndpoints registry maxHosts (discoverPayload scopeType scopeValue ports) order =
      some endpoints) :
    ∃ hosts, hostsForScope maxHosts (scopeTypeText scopeType) scopeValue = some hosts ∧
      endpoints.Perm ((Executor.agent registry maxHosts).answers hosts ports) := by
  cases hscope : (discoverPayload scopeType scopeValue ports).hosts maxHosts with
  | none =>
      unfold discoverEndpoints at h
      rw [hscope] at h
      cases h
  | some hosts =>
      rw [discoverEndpoints_eq hscope] at h
      have heq := Option.some.inj h
      subst heq
      rw [hosts_discoverPayload] at hscope
      refine ⟨hosts, hscope, (List.perm_insertionSort _ _).trans ?_⟩
      have hhosts := (nodup_hostsForScope hscope).of_map
      have hrequested := nodup_requestedPorts (discoverPayload scopeType scopeValue ports).ports
      apply (List.perm_ext_iff_of_nodup (nodup_answers (nodup_futures hhosts hrequested))
        (Executor.nodup_answers hhosts hports)).mpr
      intro endpoint
      rw [Executor.mem_answers]
      constructor
      · intro hmem
        obtain ⟨hplace, hprobe⟩ := place_of_mem_answers hmem
        obtain ⟨hhost, hport⟩ := mem_futures.mp hplace
        obtain ⟨hlow, hhigh, hsent⟩ := mem_requestedPorts.mp hport
        have hmemPort : endpoint.port ∈ ports := by
          obtain ⟨port, hmem, heq⟩ := List.mem_map.mp hsent
          have hsame : port = endpoint.port := Int.ofNat_inj.mp heq
          rw [← hsame]
          exact hmem
        refine ⟨hhost, hmemPort, ?_⟩
        show (if 1 ≤ endpoint.port ∧ endpoint.port ≤ 65535 then _ else none) = _
        rw [if_pos ⟨hlow, hhigh⟩, hprobe]
      · intro hmem
        obtain ⟨hhost, hport, hanswer⟩ := hmem
        change (if 1 ≤ endpoint.port ∧ endpoint.port ≤ 65535 then _ else none) = _ at hanswer
        split at hanswer
        · rename_i hbounds
          have hsent : Int.ofNat endpoint.port ∈ ports.map Int.ofNat := List.mem_map_of_mem hport
          have hsent := mem_requestedPorts.mpr ⟨hbounds.1, hbounds.2, hsent⟩
          exact mem_answers.mpr ⟨endpoint.host, endpoint.port, mem_futures.mpr ⟨hhost, hsent⟩,
            hanswer⟩
        · cases hanswer

end Found

/-! ## 7. What is stored -/

section Stored

variable [PyText] {floatRepr : PyFloat → List Char} {limits : Limits} {backend : Backend}
  {executor : Executor} {order : CompletionOrder} {discovery : Id} {scopeType : ScopeType}
  {scopeValue : List Char} {ports : List Nat} {includeDefaultPorts : Bool}
  {hosts : List (List Char)} {store store' : EndpointStore} {count : Nat}

/-- What an executor finds of the hosts and ports is stored, and nothing else. -/
structure StoresAnswers (executor : Executor) (discovery : Id) (hosts : List (List Char))
    (ports : List Nat) (store store' : EndpointStore) (count : Nat) : Prop where
  found : ∀ endpoint ∈ executor.answers hosts ports, IsStored endpoint →
    HasEndpoint discovery (endpointRecord endpoint) store'
  count_eq : count = ((executor.answers hosts ports).filter fun endpoint =>
    IsStored endpoint).length
  unique : TargetsUnique store'
  others : ∀ id row, (∀ endpoint ∈ executor.answers hosts ports, IsStored endpoint →
      ¬ RowFor discovery (endpointRecord endpoint).triple row) →
    (store'.endpoints.find? id = some row ↔ store.endpoints.find? id = some row)
  kept : ∀ id target, store.targets.find? id = some target → store'.targets.find? id = some target

/-- Different answers of one scope have different triples. -/
theorem eq_of_triple (hhosts : (hosts.map strip).Nodup) {endpoint other : DiscoveryEndpoint}
    (h : endpoint ∈ executor.answers hosts ports) (h' : other ∈ executor.answers hosts ports)
    (heq : (endpointRecord endpoint).triple = (endpointRecord other).triple) : endpoint = other := by
  obtain ⟨hhost, _, hanswer⟩ := Executor.mem_answers.mp h
  obtain ⟨hhost', _, hanswer'⟩ := Executor.mem_answers.mp h'
  have hstrip : strip endpoint.host = strip other.host := congrArg Triple.host heq
  have hport : endpoint.port = other.port := congrArg Triple.port heq
  have hsame : endpoint.host = other.host := List.inj_on_of_nodup_map hhosts hhost hhost' hstrip
  rw [hsame, hport, hanswer'] at hanswer
  exact (Option.some.inj hanswer).symm

theorem StoresAnswers.of_perm (hhosts : (hosts.map strip).Nodup) {endpoints : List DiscoveryEndpoint}
    (hperm : endpoints.Perm (executor.answers hosts ports)) (hunique : TargetsUnique store)
    {values : List Json} (hvalues : validRecords floatRepr limits values =
      (endpoints.filter fun endpoint => IsStored endpoint).map endpointRecord)
    (h : upsertDiscoveredEndpoints floatRepr limits backend discovery 0 values store =
      (store', .ok count)) :
    StoresAnswers executor discovery hosts ports store store' count := by
  have hloop := (upserted_nil hunique).of_loop h
  rw [List.nil_append, Nat.zero_add, hvalues] at hloop
  obtain ⟨hupserted, hcount⟩ := hloop
  have hmem : ∀ record, record ∈ (endpoints.filter fun endpoint => IsStored endpoint).map
      endpointRecord ↔ ∃ endpoint ∈ executor.answers hosts ports, IsStored endpoint ∧
        endpointRecord endpoint = record := by
    intro record
    rw [List.mem_map]
    constructor
    · intro h
      obtain ⟨endpoint, hin, heq⟩ := h
      rw [List.mem_filter, decide_eq_true_eq] at hin
      exact ⟨endpoint, hperm.subset hin.1, hin.2, heq⟩
    · intro h
      obtain ⟨endpoint, hin, hstored, heq⟩ := h
      refine ⟨endpoint, ?_, heq⟩
      rw [List.mem_filter, decide_eq_true_eq]
      exact ⟨hperm.symm.subset hin, hstored⟩
  refine ⟨?_, ?_, hupserted.unique, ?_, hupserted.kept⟩
  · intro endpoint hin hstored
    obtain ⟨last, hlast, htriple, hhas⟩ :=
      hupserted.stored (endpointRecord endpoint) ((hmem _).mpr ⟨endpoint, hin, hstored, rfl⟩)
    -- the last record of the triple is the only one
    obtain ⟨before, after, hsplit, _⟩ := hlast
    have hlastMem : last ∈ (endpoints.filter fun endpoint => IsStored endpoint).map
        endpointRecord := by
      rw [hsplit]
      exact List.mem_append_right before List.mem_cons_self
    obtain ⟨other, hother, _, rfl⟩ := (hmem last).mp hlastMem
    rw [← eq_of_triple hhosts hother hin htriple]
    exact hhas
  · rw [hcount, List.length_map]
    exact (hperm.filter _).length_eq
  · intro id row hnot
    apply hupserted.endpoints id row
    intro record hrecord
    obtain ⟨endpoint, hin, hstored, rfl⟩ := (hmem record).mp hrecord
    exact hnot endpoint hin hstored

theorem runDiscoveryPayload_found (hunique : TargetsUnique store)
    (h : runDiscoveryPayload floatRepr limits backend executor order discovery scopeType scopeValue
      ports includeDefaultPorts store = some (store', .ok count)) :
    ∃ hosts, executor.hosts scopeType scopeValue = some hosts ∧ (hosts.map strip).Nodup ∧
      StoresAnswers executor discovery hosts (resolvedPorts ports includeDefaultPorts) store store'
        count := by
  unfold runDiscoveryPayload at h
  obtain ⟨records, hrecords, hcall⟩ := Option.map_eq_some_iff.mp h
  have hports := nodup_resolvedPorts ports includeDefaultPorts
  cases executor with
  | central isOpen =>
      obtain ⟨hosts, hhosts, rfl⟩ := Option.map_eq_some_iff.mp hrecords
      obtain ⟨endpoints, hperm, hdiscover, hplace⟩ :=
        central_perm isOpen hosts (resolvedPorts ports includeDefaultPorts) order
      rw [hdiscover] at hcall
      refine ⟨hosts, hhosts, (centralHosts_strip hhosts).2, .of_perm (centralHosts_strip hhosts).2
        hperm hunique ?_ hcall⟩
      apply validRecords_map
      intro endpoint hmem
      have hsame : validRecord floatRepr limits (centralRecord endpoint.host endpoint.port) = _ :=
        validRecord_centralRecord endpoint.host endpoint.port
      rw [← hplace endpoint hmem] at hsame
      exact hsame
  | agent registry maxHosts =>
      obtain ⟨endpoints, hendpoints, rfl⟩ := Option.map_eq_some_iff.mp hrecords
      obtain ⟨hosts, hhosts, hperm⟩ := agent_perm hports hendpoints
      refine ⟨hosts, hhosts, hostsForScope_strip hhosts, .of_perm (hostsForScope_strip hhosts)
        hperm hunique ?_ hcall⟩
      exact validRecords_map fun endpoint _ => validRecord_asDict endpoint

/-- **A discovery stores what answers**: whoever probes, and in whatever order the probes finish, every
answer of the hosts and ports has its one row, promoted and linked to the one target of its place, and
is counted; all other rows stay. -/
theorem runDiscoveryPayload_stores (hunique : TargetsUnique store)
    (h : runDiscoveryPayload floatRepr limits backend executor order discovery scopeType scopeValue
      ports includeDefaultPorts store = some (store', .ok count)) :
    ∃ hosts, executor.hosts scopeType scopeValue = some hosts ∧
      StoresAnswers executor discovery hosts (resolvedPorts ports includeDefaultPorts) store store'
        count := by
  obtain ⟨hosts, hhosts, _, hstored⟩ := runDiscoveryPayload_found hunique h
  exact ⟨hosts, hhosts, hstored⟩

end Stored

def lastFirst : CompletionOrder where
  asCompleted := List.reverse
  perm := List.reverse_perm

def oneOpenHost (host : List Char) (port : Nat) : Bool :=
  host == "10.0.0.2".toList && (port == 22 || port == 443)

theorem exists_store {run : Option (EndpointStore × Except UpsertError Nat)} {count : Nat}
    (h : run.map Prod.snd = some (.ok count)) : ∃ store', run = some (store', .ok count) := by
  obtain ⟨⟨store', result⟩, hrun, hresult⟩ := Option.map_eq_some_iff.mp h
  cases hresult
  exact ⟨store', hrun⟩

theorem oneOpenHost_stored : letI := asciiText
    ∃ hosts store', (Executor.central oneOpenHost).hosts .cidr "10.0.0.1/30".toList = some hosts ∧
      StoresAnswers (.central oneOpenHost) 1 hosts (resolvedPorts [80, 443] true) duplicatedRows
        store' 2 := by
  let := asciiText
  have hunique : TargetsUnique duplicatedRows := fun _ _ _ _ h => nomatch h
  have hcount : (runDiscoveryPayload (fun _ => []) ⟨1000, 4300⟩ takesAll (.central oneOpenHost)
      lastFirst 1 .cidr "10.0.0.1/30".toList [80, 443] true duplicatedRows).map Prod.snd =
      some (.ok 2) := by decide +kernel
  obtain ⟨store', hrun⟩ := exists_store hcount
  obtain ⟨hosts, hhosts, hstored⟩ := runDiscoveryPayload_stores hunique hrun
  exact ⟨hosts, store', hhosts, hstored⟩

end CryptoScanner.Discoveries
