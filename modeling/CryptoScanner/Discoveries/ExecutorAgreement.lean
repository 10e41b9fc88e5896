import CryptoScanner.AgentDiscovery.Registry
import CryptoScanner.Discoveries.Executors

/-!
# The executors agree on TCP

The probes of an agent find the TCP ports that the backend can connect to, so both executors store the
same places, where the agent takes all hosts of the scope and a domain does not end in a dot.
-/

namespace CryptoScanner.Discoveries

open Library Python AgentDiscovery

section Hosts

theorem addressRange_take (address : Nat → IpAddress) {limit most first count : Nat}
    (h : count ≤ most) : addressRange address limit first count =
      (addressRange address most first count).take limit := by
  unfold addressRange
  rw [← List.map_take, Nat.min_eq_left h]
  by_cases hle : count ≤ limit
  · rw [Nat.min_eq_left hle, List.take_range'_of_length_le hle]
  · rw [Nat.min_eq_right (Nat.le_of_not_le hle),
      List.take_range'_of_length_ge (Nat.le_of_not_le hle)]

theorem IpNetwork.hosts_take (network : IpNetwork) (limit : Nat) :
    network.hosts limit = (network.hosts (2 ^ 128)).take limit := by
  have hone : ∀ host : List Char, [host].take limit = ([host].take (2 ^ 128)).take limit := by
    intro host
    have hlength : [host].length ≤ 2 ^ 128 := (by decide : 1 ≤ 2 ^ 128)
    rw [List.take_of_length_le hlength]
  have hsmall : ∀ bits prefixlen : Nat, bits ≤ 128 → 2 ^ (bits - prefixlen) ≤ 2 ^ 128 := by
    intro bits prefixlen hbits
    exact Nat.pow_le_pow_right (by decide) (by omega)
  unfold IpNetwork.hosts
  cases network.networkAddress with
  | v4 ip =>
      have hsize := hsmall 32 network.prefixlen (by decide)
      simp only
      split_ifs
      · exact addressRange_take _ hsize
      · exact hone _
      · exact addressRange_take _ ((Nat.sub_le _ _).trans hsize)
  | v6 ip =>
      have hsize := hsmall 128 network.prefixlen (by decide)
      simp only
      split_ifs
      · exact addressRange_take _ hsize
      · exact hone _
      · exact addressRange_take _ ((Nat.sub_le _ _).trans hsize)

theorem isAscii_toLower {c : Char} (h : isAscii c = true) : isAscii c.toLower = true := by
  by_cases hupper : c.isUpper = true
  · have halpha := (toLower_of_isUpper hupper).1
    have halnum : c.toLower.isAlphanum = true := by
      unfold Char.isAlphanum
      rw [halpha, Bool.true_or]
    have hbounds := isAlphanum_bounds halnum
    unfold isAscii
    rw [decide_eq_true_eq]
    omega
  · rw [toLower_of_not_isUpper hupper, h]

variable [PyText]

/-- Where an agent takes the hosts that the backend takes. -/
def SameHosts (maxHosts : Int) (scopeValue : List Char) : ScopeType → Prop
  | .cidr => ∀ network, ipNetwork? (strip scopeValue) = some network →
      (network.hosts (2 ^ 128)).length ≤ maxHosts.toNat
  | .ip => True
  | .domain => (strip scopeValue).getLast? ≠ some '.'

/-- A validated domain name has no capital letters. -/
theorem lower_of_validateScope {text scopeValue : List Char}
    (h : validateScope .domain text = .ok scopeValue) {value : List Char}
    (hvalue : ∀ c ∈ value, c ∈ scopeValue) : lower value = value := by
  unfold validateScope at h
  dsimp only at h
  split at h
  · cases h
  · split at h
    · rename_i hdomain
      have hascii : ∀ c ∈ strip text, isAscii c = true := by
        intro c hc
        rcases isValidDomain_chars hdomain c hc with hname | rfl
        · have hbounds := isNameChar_bounds hname
          unfold isAscii
          rw [decide_eq_true_eq]
          omega
        · decide
      have hlower : scopeValue = (strip text).map Char.toLower :=
        (Except.ok.inj h).symm.trans (PyText.lowerText_ascii _ hascii)
      have hsmall : ∀ c ∈ value, isAscii c = true ∧ c.toLower = c := by
        intro c hc
        have hmem := hvalue c hc
        rw [hlower] at hmem
        obtain ⟨d, hd, rfl⟩ := List.mem_map.mp hmem
        refine ⟨?_, toLower_toLower d⟩
        exact isAscii_toLower (hascii d hd)
      show PyText.lowerText value = value
      rw [PyText.lowerText_ascii value fun c hc => (hsmall c hc).1]
      calc value.map Char.toLower = value.map id :=
            List.map_congr_left fun c hc => (hsmall c hc).2
        _ = value := List.map_id value
    · cases h

/-- The hosts of a validated scope are the same for both executors. -/
theorem centralHosts_eq {scopeType : ScopeType} {text scopeValue : List Char} {maxHosts : Int}
    (hvalid : validateScope scopeType text = .ok scopeValue)
    (hsame : SameHosts maxHosts scopeValue scopeType) :
    centralHosts scopeType scopeValue =
      hostsForScope maxHosts (scopeTypeText scopeType) scopeValue := by
  unfold centralHosts hostsForScope
  dsimp only
  by_cases hempty : strip scopeValue = []
  · rw [if_pos hempty, if_pos hempty]
  · rw [if_neg hempty, if_neg hempty]
    cases scopeType with
    | cidr =>
        show (ipNetwork? (strip scopeValue)).map (fun network => network.hosts (2 ^ 128)) =
          (ipNetwork? (strip scopeValue)).map fun network => network.hosts maxHosts.toNat
        cases hnetwork : ipNetwork? (strip scopeValue) with
        | none => rfl
        | some network =>
            have hlength := hsame network hnetwork
            show some (network.hosts (2 ^ 128)) = some (network.hosts maxHosts.toNat)
            rw [IpNetwork.hosts_take network maxHosts.toNat, List.take_of_length_le hlength]
    | ip => rfl
    | domain =>
        have hdot : (strip scopeValue).rdropWhile (· = '.') = strip scopeValue := by
          have hbeq := rdropWhile_dot_eq hsame
          simpa only [beq_eq_decide] using hbeq
        have hlower := lower_of_validateScope hvalid fun c hc =>
          (strip_isInfix scopeValue).subset hc
        show some [strip scopeValue] = some [lower ((strip scopeValue).rdropWhile (· = '.'))]
        rw [hdot, hlower]

end Hosts

section Agreement

variable {registry : ProbeRegistry} {maxHosts : Int} {isOpen : List Char → Nat → Bool}
  {hosts : List (List Char)} {ports : List Nat}

/-- The TCP probes of an agent answer on the ports that are open. -/
def AnswersWhereOpen (registry : ProbeRegistry) (isOpen : List Char → Nat → Bool) : Prop :=
  ∀ host port, port ∉ [500, 4500] → (Answered registry host port ↔ isOpen host port = true)

theorem transport_of_probeHostPort {host : List Char} {port : Nat} {endpoint : DiscoveryEndpoint}
    (h : probeHostPort registry host port = some endpoint) :
    endpoint.transport = transportForPort port := by
  obtain ⟨_, probe, _, _, hmatches, hrun, _⟩ := probeHostPort_eq_some.mp h
  unfold ProbeSpec.matches at hmatches
  rw [Bool.and_eq_true, beq_iff_eq] at hmatches
  rw [(probe.answer host port endpoint hrun).2.2, hmatches.1]

variable [PyText]

theorem IsStored.congr {endpoint other : DiscoveryEndpoint} (hhost : endpoint.host = other.host)
    (hport : endpoint.port = other.port) : IsStored endpoint ↔ IsStored other := by
  unfold IsStored
  rw [hhost, hport]

/-- On a TCP port that is stored the executors answer together. -/
theorem answer_iff (h : AnswersWhereOpen registry isOpen) {host : List Char} {port : Nat}
    (hport : port ∉ [500, 4500]) :
    (∃ endpoint, (Executor.central isOpen).answer host port = some endpoint ∧ IsStored endpoint) ↔
      ∃ endpoint, (Executor.agent registry maxHosts).answer host port = some endpoint ∧
        IsStored endpoint := by
  have hcentral : (Executor.central isOpen).answer host port =
      if isOpen host port = true then some (centralEndpoint host port) else none := by
    show (if port ∉ [500, 4500] ∧ isOpen host port = true then _ else none) = _
    simp only [hport, not_false_eq_true, true_and]
  constructor
  · intro hfound
    obtain ⟨endpoint, hanswer, hstored⟩ := hfound
    rw [hcentral] at hanswer
    split at hanswer
    · rename_i hopen
      cases hanswer
      obtain ⟨other, hprobe⟩ := answered_iff.mp ((h host port hport).mpr hopen)
      obtain ⟨hhost, hsame⟩ := probeHostPort_place hprobe
      refine ⟨other, ?_, (IsStored.congr hhost hsame).mpr hstored⟩
      show (if 1 ≤ port ∧ port ≤ 65535 then _ else none) = _
      have hbounds : 1 ≤ port ∧ port ≤ 65535 := hstored.2
      rw [if_pos hbounds, hprobe]
    · cases hanswer
  · intro hfound
    obtain ⟨endpoint, hanswer, hstored⟩ := hfound
    obtain ⟨hhost, hsame⟩ := Executor.answer_place hanswer
    change (if 1 ≤ port ∧ port ≤ 65535 then _ else none) = _ at hanswer
    split at hanswer
    · have hopen := (h host port hport).mp (answered_iff.mpr ⟨endpoint, hanswer⟩)
      refine ⟨centralEndpoint host port, ?_, (IsStored.congr hhost hsame).mp hstored⟩
      rw [hcentral, if_pos hopen]
    · cases hanswer

omit [PyText] in
theorem Executor.mem_answers_of_answer {executor : Executor} {host : List Char} {port : Nat}
    {endpoint : DiscoveryEndpoint} (hhost : host ∈ hosts) (hport : port ∈ ports)
    (h : executor.answer host port = some endpoint) : endpoint ∈ executor.answers hosts ports := by
  obtain ⟨rfl, rfl⟩ := Executor.answer_place h
  exact Executor.mem_answers.mpr ⟨hhost, hport, h⟩

omit [PyText] in
theorem central_answer {host : List Char} {port : Nat} {endpoint : DiscoveryEndpoint}
    (h : (Executor.central isOpen).answer host port = some endpoint) :
    port ∉ [500, 4500] ∧ endpoint.transport = .tcp := by
  change (if port ∉ [500, 4500] ∧ isOpen host port = true then some (centralEndpoint host port)
    else none) = some endpoint at h
  split at h
  · rename_i hopen
    cases h
    exact ⟨hopen.1, rfl⟩
  · cases h

omit [PyText] in
theorem agent_answer {host : List Char} {port : Nat} {endpoint : DiscoveryEndpoint}
    (h : (Executor.agent registry maxHosts).answer host port = some endpoint) :
    endpoint.transport = transportForPort port := by
  change (if 1 ≤ port ∧ port ≤ 65535 then probeHostPort registry host port else none) =
    some endpoint at h
  split at h
  · exact transport_of_probeHostPort h
  · cases h

theorem triple_congr {endpoint other : DiscoveryEndpoint} (hhost : other.host = endpoint.host)
    (hport : other.port = endpoint.port) (htransport : other.transport = .tcp)
    (htcp : (endpointRecord endpoint).triple.transport = .tcp) :
    (endpointRecord other).triple = (endpointRecord endpoint).triple := by
  change endpoint.transport = .tcp at htcp
  show (⟨strip other.host, other.port, other.transport⟩ : Triple) =
    ⟨strip endpoint.host, endpoint.port, endpoint.transport⟩
  rw [hhost, hport, htransport, htcp]

theorem stored_iff (h : AnswersWhereOpen registry isOpen) {triple : Triple}
    (htcp : triple.transport = .tcp) :
    (∃ endpoint ∈ (Executor.central isOpen).answers hosts ports, IsStored endpoint ∧
        (endpointRecord endpoint).triple = triple) ↔
      ∃ endpoint ∈ (Executor.agent registry maxHosts).answers hosts ports, IsStored endpoint ∧
        (endpointRecord endpoint).triple = triple := by
  constructor
  · intro hfound
    obtain ⟨endpoint, hmem, hstored, rfl⟩ := hfound
    obtain ⟨hhost, hport, hanswer⟩ := Executor.mem_answers.mp hmem
    have hudp := (central_answer hanswer).1
    obtain ⟨other, hother, hkept⟩ := (answer_iff h hudp).mp ⟨endpoint, hanswer, hstored⟩
    obtain ⟨hsame, hsame'⟩ := Executor.answer_place hother
    have htransport := agent_answer hother
    rw [transportForPort, if_neg hudp] at htransport
    exact ⟨other, Executor.mem_answers_of_answer hhost hport hother, hkept,
      triple_congr hsame hsame' htransport htcp⟩
  · intro hfound
    obtain ⟨endpoint, hmem, hstored, rfl⟩ := hfound
    obtain ⟨hhost, hport, hanswer⟩ := Executor.mem_answers.mp hmem
    have hudp : endpoint.port ∉ [500, 4500] := by
      intro hudp
      have htransport := agent_answer hanswer
      rw [transportForPort, if_pos hudp] at htransport
      change endpoint.transport = .tcp at htcp
      rw [htransport] at htcp
      cases htcp
    obtain ⟨other, hother, hkept⟩ := (answer_iff h hudp).mpr ⟨endpoint, hanswer, hstored⟩
    obtain ⟨hsame, hsame'⟩ := Executor.answer_place hother
    exact ⟨other, Executor.mem_answers_of_answer hhost hport hother, hkept,
      triple_congr hsame hsame' (central_answer hother).2 htcp⟩

omit [PyText] in
theorem length_filter_filterMap {α β : Type} (f : α → Option β) (p : β → Bool) (l : List α) :
    ((l.filterMap f).filter p).length = (l.filter fun a => (f a).any p).length := by
  induction l with
  | nil => rfl
  | cons a l ih =>
      rw [List.filterMap_cons, List.filter_cons]
      cases hvalue : f a with
      | none => exact ih
      | some b =>
          rw [List.filter_cons]
          cases hp : p b
          · simpa [hp] using ih
          · simpa [hp] using ih

theorem length_answers (h : AnswersWhereOpen registry isOpen)
    (hports : ∀ port ∈ ports, port ∉ [500, 4500]) :
    (((Executor.central isOpen).answers hosts ports).filter fun endpoint =>
        IsStored endpoint).length =
      (((Executor.agent registry maxHosts).answers hosts ports).filter fun endpoint =>
        IsStored endpoint).length := by
  unfold Executor.answers
  rw [length_filter_filterMap, length_filter_filterMap]
  congr 1
  apply List.filter_congr
  intro future hmem
  have hport := hports future.2 (mem_futures.mp hmem).2
  rw [Bool.eq_iff_iff, Option.any_eq_true, Option.any_eq_true]
  simp only [decide_eq_true_eq]
  exact answer_iff h hport

variable {network : Network} {floatRepr : PyFloat → List Char} {limits : Limits} {backend : Backend}
  {order order' : CompletionOrder} {discovery : Id} {scopeType : ScopeType}
  {text scopeValue : List Char} {includeDefaultPorts : Bool}
  {store centralStore agentStore : EndpointStore} {centralCount agentCount : Nat}

/-- The rows of a discovery for a triple: the stored answers have one, the others what they had. -/
theorem StoresAnswers.rows_iff {executor : Executor} {store' : EndpointStore} {count : Nat}
    (h : StoresAnswers executor discovery hosts ports store store' count) (triple : Triple) :
    (∃ id row, store'.endpoints.find? id = some row ∧ RowFor discovery triple row) ↔
      (∃ endpoint ∈ executor.answers hosts ports, IsStored endpoint ∧
        (endpointRecord endpoint).triple = triple) ∨
      ∃ id row, store.endpoints.find? id = some row ∧ RowFor discovery triple row := by
  by_cases hfound : ∃ endpoint ∈ executor.answers hosts ports, IsStored endpoint ∧
      (endpointRecord endpoint).triple = triple
  · apply iff_of_true _ (.inl hfound)
    obtain ⟨endpoint, hmem, hstored, rfl⟩ := hfound
    obtain ⟨id, row, _, _, hrow⟩ := h.found endpoint hmem hstored
    exact ⟨id, row, hrow.found, hrow.isFor⟩
  · rw [or_iff_right hfound]
    apply exists_congr
    intro id
    apply exists_congr
    intro row
    apply and_congr_left
    intro hfor
    apply h.others id row
    intro endpoint hmem hstored hother
    exact hfound ⟨endpoint, hmem, hstored, hother.2.symm.trans hfor.2⟩

/-- **The executors agree**: for a validated scope whose hosts an agent takes, on one network, the
backend and the agent leave the same TCP places of the discovery, and count as many unless a UDP port
is asked for. -/
theorem executors_agree (hvalid : validateScope scopeType text = .ok scopeValue)
    (hsame : SameHosts maxHosts scopeValue scopeType) (hunique : TargetsUnique store)
    (hcentral : runDiscoveryPayload floatRepr limits backend (.central network.isOpen) order discovery
      scopeType scopeValue ports includeDefaultPorts store = some (centralStore, .ok centralCount))
    (hagent : runDiscoveryPayload floatRepr limits backend
      (.agent (buildDefaultRegistry network) maxHosts) order' discovery scopeType scopeValue ports
      includeDefaultPorts store = some (agentStore, .ok agentCount)) :
    (∀ triple, triple.transport = .tcp →
      ((∃ id row, centralStore.endpoints.find? id = some row ∧ RowFor discovery triple row) ↔
        ∃ id row, agentStore.endpoints.find? id = some row ∧ RowFor discovery triple row)) ∧
    ((∀ port ∈ resolvedPorts ports includeDefaultPorts, port ∉ [500, 4500]) →
      centralCount = agentCount) := by
  have hopen : AnswersWhereOpen (buildDefaultRegistry network) network.isOpen :=
    fun host _ hport => answered_buildDefaultRegistry network host hport
  obtain ⟨hosts, hhosts, _, hstored⟩ := runDiscoveryPayload_found hunique hcentral
  obtain ⟨hosts', hhosts', _, hstored'⟩ := runDiscoveryPayload_found hunique hagent
  have hosts_eq : hosts = hosts' := by
    change centralHosts scopeType scopeValue = some hosts at hhosts
    change hostsForScope maxHosts (scopeTypeText scopeType) scopeValue = some hosts' at hhosts'
    rw [centralHosts_eq hvalid hsame, hhosts'] at hhosts
    exact (Option.some.inj hhosts).symm
  subst hosts_eq
  constructor
  · intro triple htcp
    rw [hstored.rows_iff, hstored'.rows_iff, stored_iff hopen htcp]
  · intro hports
    rw [hstored.count_eq, hstored'.count_eq]
    exact length_answers hopen hports

end Agreement

def silentNetwork : Network where
  isOpen _ _ := true
  banner _ _ := none
  ehloReply _ _ := none
  sslReply _ _ := none
  handshake _ _ := none
  answersIke _ _ := false

/-- Both executors on a network of two hosts. -/
theorem twoHosts_agree : letI := asciiText
    ∃ centralStore agentStore,
      runDiscoveryPayload (fun _ => []) ⟨1000, 4300⟩ takesAll (.central silentNetwork.isOpen)
        lastFirst 1 .cidr "10.0.0.1/30".toList [22, 443] false {} = some (centralStore, .ok 4) ∧
      runDiscoveryPayload (fun _ => []) ⟨1000, 4300⟩ takesAll
        (.agent (buildDefaultRegistry silentNetwork) 4096) lastFirst 1 .cidr
        "10.0.0.1/30".toList [22, 443] false {} = some (agentStore, .ok 4) ∧
      ∀ triple, triple.transport = .tcp →
        ((∃ id row, centralStore.endpoints.find? id = some row ∧ RowFor 1 triple row) ↔
          ∃ id row, agentStore.endpoints.find? id = some row ∧ RowFor 1 triple row) := by
  let := asciiText
  have hvalid : validateScope .cidr "10.0.0.1/30".toList = .ok "10.0.0.1/30".toList := by
    decide +kernel
  have hsame : SameHosts 4096 "10.0.0.1/30".toList .cidr := by
    have hlength : (ipNetwork? (strip "10.0.0.1/30".toList)).all (fun network =>
        decide ((network.hosts (2 ^ 128)).length ≤ (4096 : Int).toNat)) = true := by
      decide +kernel
    intro network hnetwork
    rw [hnetwork] at hlength
    exact of_decide_eq_true hlength
  have hunique : TargetsUnique {} := fun _ _ _ _ h => nomatch h
  obtain ⟨centralStore, hcentral⟩ := exists_store (by decide +kernel :
    (runDiscoveryPayload (fun _ => []) ⟨1000, 4300⟩ takesAll (.central silentNetwork.isOpen)
      lastFirst 1 .cidr "10.0.0.1/30".toList [22, 443] false {}).map Prod.snd = some (.ok 4))
  obtain ⟨agentStore, hagent⟩ := exists_store (by decide +kernel :
    (runDiscoveryPayload (fun _ => []) ⟨1000, 4300⟩ takesAll
      (.agent (buildDefaultRegistry silentNetwork) 4096) lastFirst 1 .cidr
      "10.0.0.1/30".toList [22, 443] false {}).map Prod.snd = some (.ok 4))
  exact ⟨centralStore, agentStore, hcentral, hagent,
    (executors_agree hvalid hsame hunique hcentral hagent).1⟩

end CryptoScanner.Discoveries
