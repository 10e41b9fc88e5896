import Mathlib.Data.List.Dedup
import Mathlib.Data.List.Lex
import Mathlib.Data.Prod.Lex
import Mathlib.Data.String.Basic
import Mathlib.Data.Sum.Order
import CryptoScanner.Library.StableSort
import CryptoScanner.Models
import CryptoScanner.Python.IpFormat

/-!
# Discovery on an agent

`discover_endpoints` submits one future for each host and port of the request and takes their
results as they complete.  A future runs the probes for its port in a fixed order until one answers.
-/

namespace CryptoScanner.AgentDiscovery

open Library Python

/-! ## 1. Probes -/

structure DiscoveryEndpoint where
  host : List Char
  port : Nat
  transport : Transport
  detectedProtocol : List Char
  suggestedProtocolHint : List Char
  availabilityMetrics : List (String × Json) := []
  deriving DecidableEq, Repr

/-- A probe is a function of the host and the port; what it answers is for these and its transport. -/
structure ProbeSpec where
  name : String
  transport : Transport
  ports : Option (List Nat)
  run : List Char → Nat → Option DiscoveryEndpoint
  fallback : Bool := false
  answer : ∀ host port endpoint, run host port = some endpoint →
    endpoint.host = host ∧ endpoint.port = port ∧ endpoint.transport = transport

abbrev ProbeRegistry := List ProbeSpec

def ProbeSpec.matches (probe : ProbeSpec) (port : Nat) (transport : Transport) : Bool :=
  probe.transport == transport && probe.ports.all fun ports => decide (port ∈ ports)

def ProbeRegistry.probesFor (registry : ProbeRegistry) (port : Nat) (transport : Transport) :
    List ProbeSpec :=
  (registry.filter fun probe => probe.matches port transport && !probe.fallback) ++
    registry.filter fun probe => probe.matches port transport && probe.fallback

def transportForPort (port : Nat) : Transport := if port ∈ [500, 4500] then .udp else .tcp

def probeHostPort (registry : ProbeRegistry) (host : List Char) (port : Nat) :
    Option DiscoveryEndpoint :=
  (registry.probesFor port (transportForPort port)).findSome? fun probe => probe.run host port

/-! ## 2. The request -/

structure DiscoverPayload where
  scopeType : Option (List Char)
  scopeValue : Option (List Char)
  cidr : Option (List Char)
  ports : List Int
  deriving DecidableEq, Repr

def textOr (text : Option (List Char)) (default : List Char) : List Char :=
  match text with
  | some (c :: rest) => c :: rest
  | _ => default

def requestedPorts (ports : List Int) : List Nat :=
  ((ports.filter fun port => 1 ≤ port ∧ port ≤ 65535).map Int.toNat).dedup.insertionSort (· ≤ ·)

/-- `_hosts_for_scope`; `none` is the `ValueError` of a value that is no address or network. -/
def hostsForScope [PyText] (maxHosts : Int) (scopeType scopeValue : List Char) :
    Option (List (List Char)) :=
  let value := strip scopeValue
  if value = [] then some []
  else if scopeType = "cidr".toList then
    (ipNetwork? value).map fun network => network.hosts maxHosts.toNat
  else if scopeType = "ip".toList then
    (ipAddress? value).map fun address => [addressText (ipScopeId value) address]
  else some [lower (value.rdropWhile (· = '.'))]

def DiscoverPayload.hosts [PyText] (maxHosts : Int) (payload : DiscoverPayload) :
    Option (List (List Char)) :=
  hostsForScope maxHosts (textOr payload.scopeType "cidr".toList)
    (textOr payload.scopeValue (textOr payload.cidr []))

/-! ## 3. The results -/

/-- `_host_sort_key`: the addresses by number, then the names. -/
def hostSortKey (host : List Char) : Nat ⊕ₗ List Char :=
  match ipAddress? host with
  | some (.v4 ip) => Sum.inlₗ ip
  | some (.v6 ip) => Sum.inlₗ ip
  | none => Sum.inrₗ host

def transportText : Transport → List Char
  | .tcp => "TCP".toList
  | .udp => "UDP".toList

def sortKey (endpoint : DiscoveryEndpoint) : (Nat ⊕ₗ List Char) ×ₗ Nat ×ₗ List Char :=
  toLex (hostSortKey endpoint.host, toLex (endpoint.port, transportText endpoint.transport))

/-- The loop over the completed futures, with the endpoints that it has seen. -/
def collectEndpoints (seen : List (List Char × Nat × Transport)) :
    List (Option DiscoveryEndpoint) → List DiscoveryEndpoint
  | [] => []
  | none :: results => collectEndpoints seen results
  | some endpoint :: results =>
      let key := (endpoint.host, endpoint.port, endpoint.transport)
      if key ∈ seen then collectEndpoints seen results
      else endpoint :: collectEndpoints (key :: seen) results

structure CompletionOrder where
  asCompleted : List (List Char × Nat) → List (List Char × Nat)
  perm : ∀ futures, (asCompleted futures).Perm futures

/-- The futures of `discover_endpoints`, in the order of their submission. -/
def futures (hosts : List (List Char)) (ports : List Nat) : List (List Char × Nat) :=
  hosts.flatMap fun host => ports.map fun port => (host, port)

def discoverEndpoints [PyText] (registry : ProbeRegistry) (maxHosts : Int)
    (payload : DiscoverPayload) (order : CompletionOrder) : Option (List DiscoveryEndpoint) := do
  let ports := requestedPorts payload.ports
  let hosts ← payload.hosts maxHosts
  if ports = [] ∨ hosts = [] then return []
  else
    let results := (order.asCompleted (futures hosts ports)).map fun future =>
      probeHostPort registry future.1 future.2
    return (collectEndpoints [] results).insertionSort fun a b => sortKey a ≤ sortKey b

/-! ## 4. The hosts of a scope -/

theorem nodup_addressRange {address : Nat → IpAddress} {limit first count : Nat}
    (h : ∀ x y, first ≤ x → x < y → y < first + count →
      hostSortKey (addressText none (address x)) ≠ hostSortKey (addressText none (address y))) :
    ((addressRange address limit first count).map hostSortKey).Nodup := by
  unfold addressRange
  rw [List.map_map, List.Nodup, List.pairwise_map]
  have hlt := List.pairwise_lt_range' (s := first) (n := min count limit)
  -- the numbers of a range increase, so two of them are compared in that order
  refine hlt.imp_of_mem ?_
  intro x y hx hy hxy
  rw [List.mem_range'_1] at hx hy
  exact h x y hx.1 hxy (by omega)

theorem hostSortKey_v4 (ip : Fin (2 ^ 32)) :
    hostSortKey (addressText none (.v4 ip)) = Sum.inlₗ ip.val := by
  unfold hostSortKey addressText
  rw [ipAddress?_ipv4Text]

/-- Texts of IPv6 addresses with one key are of one address. -/
theorem hostSortKey_v6 {ip other : Fin (2 ^ 128)}
    (h : hostSortKey (addressText none (.v6 ip)) = hostSortKey (addressText none (.v6 other))) :
    ip = other := by
  have hread : ∀ ip : Fin (2 ^ 128), hostSortKey (ipv6Text ip) = Sum.inlₗ ip.val ∨
      hostSortKey (ipv6Text ip) = Sum.inrₗ (ipv6Text ip) := by
    intro ip
    unfold hostSortKey
    cases haddress : ipAddress? (ipv6Text ip) with
    | none => exact .inr rfl
    | some address =>
        rw [ipAddress?_ipv6Text ip haddress]
        exact .inl rfl
  simp only [addressText, Option.map_none, Option.getD_none, List.append_nil] at h
  -- a key made of the number tells the address; otherwise it is the text, which has the value back
  rcases hread ip with hip | hip
  · rcases hread other with hother | hother
    · rw [hip, hother] at h
      exact Fin.ext (Sum.inl_injective (toLex_inj.mp h))
    · rw [hip, hother] at h
      cases toLex_inj.mp h
  · rcases hread other with hother | hother
    · rw [hip, hother] at h
      cases toLex_inj.mp h
    · rw [hip, hother] at h
      have htext := Sum.inr_injective (toLex_inj.mp h)
      have hvalue := congrArg ipv6Value htext
      rw [ipv6Value_ipv6Text ip.isLt, ipv6Value_ipv6Text other.isLt] at hvalue
      exact Fin.ext hvalue

/-- Fewer consecutive numbers than there are addresses stand for different ones. -/
theorem ofNat_ne {size first count x y : Nat} [NeZero size] (hcount : count ≤ size)
    (hx : first ≤ x) (hxy : x < y) (hy : y < first + count) :
    Fin.ofNat size x ≠ Fin.ofNat size y := by
  intro heq
  -- equal remainders would make the size divide a smaller positive difference
  have hmod : x % size = y % size := congrArg Fin.val heq
  have hzero := Nat.sub_mod_eq_zero_of_mod_eq hmod.symm
  rw [Nat.mod_eq_of_lt (by omega)] at hzero
  omega

theorem nodup_range_v4 (limit first : Nat) {count : Nat} (hcount : count ≤ 2 ^ 32) :
    ((addressRange (fun n => .v4 (Fin.ofNat (2 ^ 32) n)) limit first count).map
      hostSortKey).Nodup := by
  apply nodup_addressRange
  intro x y hx hxy hy heq
  rw [hostSortKey_v4, hostSortKey_v4] at heq
  exact ofNat_ne hcount hx hxy hy (Fin.ext (Sum.inl_injective (toLex_inj.mp heq)))

theorem nodup_range_v6 (limit first : Nat) {count : Nat} (hcount : count ≤ 2 ^ 128) :
    ((addressRange (fun n => .v6 (Fin.ofNat (2 ^ 128) n)) limit first count).map
      hostSortKey).Nodup := by
  apply nodup_addressRange
  intro x y hx hxy hy heq
  exact ofNat_ne hcount hx hxy hy (hostSortKey_v6 heq)

theorem nodup_hosts (network : IpNetwork) (limit : Nat) :
    ((network.hosts limit).map hostSortKey).Nodup := by
  -- the network of a single address has at most one host
  have hone : ∀ host : List Char, (([host].take limit).map hostSortKey).Nodup := by
    intro host
    exact (List.nodup_singleton (hostSortKey host)).sublist ((List.take_sublist _ _).map _)
  unfold IpNetwork.hosts
  cases network.networkAddress with
  | v4 ip =>
      have hsize : 2 ^ (32 - network.prefixlen) ≤ 2 ^ 32 :=
        Nat.pow_le_pow_right (by decide) (Nat.sub_le _ _)
      simp only
      split_ifs
      · exact nodup_range_v4 _ _ hsize
      · exact hone _
      · exact nodup_range_v4 _ _ ((Nat.sub_le _ _).trans hsize)
  | v6 ip =>
      have hsize : 2 ^ (128 - network.prefixlen) ≤ 2 ^ 128 :=
        Nat.pow_le_pow_right (by decide) (Nat.sub_le _ _)
      simp only
      split_ifs
      · exact nodup_range_v6 _ _ hsize
      · exact hone _
      · exact nodup_range_v6 _ _ ((Nat.sub_le _ _).trans hsize)

/-- The hosts of a scope differ by their sort keys. -/
theorem nodup_hostsForScope [PyText] {maxHosts : Int} {scopeType scopeValue : List Char}
    {hosts : List (List Char)} (h : hostsForScope maxHosts scopeType scopeValue = some hosts) :
    (hosts.map hostSortKey).Nodup := by
  unfold hostsForScope at h
  simp only at h
  split_ifs at h
  · cases h
    exact List.nodup_nil
  · obtain ⟨network, -, rfl⟩ := Option.map_eq_some_iff.mp h
    exact nodup_hosts network _
  · obtain ⟨address, -, rfl⟩ := Option.map_eq_some_iff.mp h
    exact List.nodup_singleton _
  · cases h
    exact List.nodup_singleton _

/-! ## 5. The first answer -/

def Answered (registry : ProbeRegistry) (host : List Char) (port : Nat) : Prop :=
  ∃ probe ∈ registry, probe.matches port (transportForPort port) = true ∧
    (probe.run host port).isSome

/-- The endpoint is the answer of the first probe that answers, in the order of registration and
with every fallback probe after the others. -/
def FirstAnswer (registry : ProbeRegistry) (host : List Char) (port : Nat)
    (endpoint : DiscoveryEndpoint) : Prop :=
  ∃ before probe after, registry = before ++ probe :: after ∧
    probe.matches port (transportForPort port) = true ∧ probe.run host port = some endpoint ∧
    (∀ other ∈ before, other.matches port (transportForPort port) = true →
      other.fallback = probe.fallback → other.run host port = none) ∧
    (probe.fallback = true → ∀ other ∈ registry,
      other.matches port (transportForPort port) = true → other.fallback = false →
        other.run host port = none)

/-- The first value that `f` has on the elements that `p` selects. -/
theorem findSome?_filter_eq_some {α β : Type*} {p : α → Bool} {f : α → Option β} {l : List α}
    {b : β} : (l.filter p).findSome? f = some b ↔ ∃ before a after, l = before ++ a :: after ∧
      p a = true ∧ f a = some b ∧ ∀ other ∈ before, p other = true → f other = none := by
  constructor
  · intro h
    obtain ⟨first, a, rest, hsplit, hvalue, hnone⟩ := List.findSome?_eq_some_iff.mp h
    obtain ⟨before, after, rfl, hbefore, hafter⟩ := List.filter_eq_append_iff.mp hsplit
    obtain ⟨skipped, other, rfl, hskipped, ha, -⟩ := List.filter_eq_cons_iff.mp hafter
    refine ⟨before ++ skipped, a, other, by rw [List.append_assoc], ha, hvalue, ?_⟩
    intro x hx hp
    -- an element before was selected and has no value, or was skipped
    rcases List.mem_append.mp hx with hx | hx
    · exact hnone x (hbefore ▸ List.mem_filter.mpr ⟨hx, hp⟩)
    · exact absurd hp (hskipped x hx)
  · rintro ⟨before, a, after, rfl, ha, hvalue, hnone⟩
    have hbefore : (before.filter p).findSome? f = none := by
      rw [List.findSome?_eq_none_iff]
      intro x hx
      obtain ⟨hmem, hp⟩ := List.mem_filter.mp hx
      exact hnone x hmem hp
    rw [List.filter_append, List.filter_cons_of_pos ha, List.findSome?_append, hbefore,
      Option.none_or, List.findSome?_cons, hvalue]

theorem probeHostPort_eq_some {registry : ProbeRegistry} {host : List Char} {port : Nat}
    {endpoint : DiscoveryEndpoint} :
    probeHostPort registry host port = some endpoint ↔ FirstAnswer registry host port endpoint := by
  unfold probeHostPort ProbeRegistry.probesFor FirstAnswer
  rw [List.findSome?_append, Option.or_eq_some_iff, findSome?_filter_eq_some,
    findSome?_filter_eq_some, List.findSome?_eq_none_iff]
  simp only [Bool.and_eq_true, Bool.not_eq_true', List.mem_filter, and_imp]
  constructor
  · -- the first list holds the exact probes and the second the fallback ones, so a probe before the
    -- first answer in the registry is before it in its own list exactly if it is of the same kind
    rintro (⟨before, probe, after, hsplit, ⟨hmatches, hexact⟩, hrun, hnone⟩ |
      ⟨hnone, before, probe, after, hsplit, ⟨hmatches, hfallback⟩, hrun, hbefore⟩)
    · refine ⟨before, probe, after, hsplit, hmatches, hrun, ?_, ?_⟩
      · intro other hother hother' hsame
        exact hnone other hother hother' (hsame.trans hexact)
      · intro hfallback
        rw [hexact] at hfallback
        cases hfallback
    · refine ⟨before, probe, after, hsplit, hmatches, hrun, ?_, fun _ => hnone⟩
      intro other hother hother' hsame
      exact hbefore other hother hother' (hsame.trans hfallback)
  · rintro ⟨before, probe, after, hsplit, hmatches, hrun, hbefore, hexact⟩
    cases hfallback : probe.fallback with
    | false =>
        refine .inl ⟨before, probe, after, hsplit, ⟨hmatches, hfallback⟩, hrun, ?_⟩
        intro other hother hother' hsame
        exact hbefore other hother hother' (hsame.trans hfallback.symm)
    | true =>
        refine .inr ⟨hexact hfallback, before, probe, after, hsplit, ⟨hmatches, hfallback⟩, hrun, ?_⟩
        intro other hother hother' hsame
        exact hbefore other hother hother' (hsame.trans hfallback.symm)

/-- Some probe answers exactly if the future has an endpoint, which is for its host and port. -/
theorem answered_iff {registry : ProbeRegistry} {host : List Char} {port : Nat} :
    Answered registry host port ↔ ∃ endpoint, probeHostPort registry host port = some endpoint := by
  unfold probeHostPort ProbeRegistry.probesFor Answered
  rw [← Option.isSome_iff_exists, List.findSome?_isSome_iff]
  constructor
  · rintro ⟨probe, hmem, hmatches, hrun⟩
    refine ⟨probe, ?_, hrun⟩
    rw [List.mem_append, List.mem_filter, List.mem_filter, hmatches]
    cases probe.fallback <;> simp [hmem]
  · rintro ⟨probe, hmem, hrun⟩
    rw [List.mem_append, List.mem_filter, List.mem_filter] at hmem
    simp only [Bool.and_eq_true] at hmem
    rcases hmem with ⟨hmem, hmatches, -⟩ | ⟨hmem, hmatches, -⟩
    · exact ⟨probe, hmem, hmatches, hrun⟩
    · exact ⟨probe, hmem, hmatches, hrun⟩

theorem probeHostPort_place {registry : ProbeRegistry} {host : List Char} {port : Nat}
    {endpoint : DiscoveryEndpoint} (h : probeHostPort registry host port = some endpoint) :
    endpoint.host = host ∧ endpoint.port = port := by
  obtain ⟨probe, -, hrun⟩ := List.exists_of_findSome?_eq_some h
  obtain ⟨hhost, hport, -⟩ := probe.answer host port endpoint hrun
  exact ⟨hhost, hport⟩

/-! ## 6. Every completion order -/

section

variable {registry : ProbeRegistry} {hosts : List (List Char)} {ports : List Nat}

def answers (registry : ProbeRegistry) (done : List (List Char × Nat)) : List DiscoveryEndpoint :=
  done.filterMap fun future => probeHostPort registry future.1 future.2

theorem mem_answers {done : List (List Char × Nat)} {endpoint : DiscoveryEndpoint} :
    endpoint ∈ answers registry done ↔
      ∃ host port, (host, port) ∈ done ∧ probeHostPort registry host port = some endpoint := by
  unfold answers
  rw [List.mem_filterMap]
  simp only [Prod.exists]

/-- An answer tells the host and the port of its future. -/
theorem place_of_mem_answers {done : List (List Char × Nat)} {endpoint : DiscoveryEndpoint}
    (h : endpoint ∈ answers registry done) : (endpoint.host, endpoint.port) ∈ done ∧
      probeHostPort registry endpoint.host endpoint.port = some endpoint := by
  obtain ⟨host, port, hmem, hprobe⟩ := mem_answers.mp h
  obtain ⟨rfl, rfl⟩ := probeHostPort_place hprobe
  exact ⟨hmem, hprobe⟩

/-- Futures of different hosts or ports never meet a key that has been seen. -/
theorem collectEndpoints_eq {done : List (List Char × Nat)}
    {seen : List (List Char × Nat × Transport)} (hnodup : done.Nodup)
    (hseen : ∀ host port, (host, port) ∈ done → ∀ transport, (host, port, transport) ∉ seen) :
    collectEndpoints seen (done.map fun future => probeHostPort registry future.1 future.2) =
      answers registry done := by
  -- the keys seen so far are of futures that are not in the rest of the list
  induction done generalizing seen with
  | nil => rfl
  | cons future done ih =>
      obtain ⟨host, port⟩ := future
      obtain ⟨hnew, hnodup⟩ := List.nodup_cons.mp hnodup
      have hrest : ∀ host port, (host, port) ∈ done →
          ∀ transport, (host, port, transport) ∉ seen :=
        fun host port hmem => hseen host port (List.mem_cons_of_mem _ hmem)
      unfold answers
      rw [List.map_cons, List.filterMap_cons]
      simp only
      cases hprobe : probeHostPort registry host port with
      | none => exact ih hnodup hrest
      | some endpoint =>
          obtain ⟨hhost, hport⟩ := probeHostPort_place hprobe
          have hfresh : (endpoint.host, endpoint.port, endpoint.transport) ∉ seen := by
            rw [hhost, hport]
            exact hseen host port List.mem_cons_self _
          simp only [collectEndpoints, hfresh, if_false]
          refine congrArg (endpoint :: ·) (ih hnodup ?_)
          intro other otherPort hmem transport hold
          -- the new key would be that of a later future with the same host and port
          rcases List.mem_cons.mp hold with heq | hold
          · simp only [Prod.mk.injEq] at heq
            apply hnew
            rw [← hhost, ← hport, ← heq.1, ← heq.2.1]
            exact hmem
          · exact hrest other otherPort hmem transport hold

theorem nodup_requestedPorts (ports : List Int) : (requestedPorts ports).Nodup :=
  (List.perm_insertionSort _ _).nodup_iff.mpr (List.nodup_dedup _)

theorem mem_requestedPorts {ports : List Int} {port : Nat} :
    port ∈ requestedPorts ports ↔ 1 ≤ port ∧ port ≤ 65535 ∧ (port : Int) ∈ ports := by
  unfold requestedPorts
  rw [(List.perm_insertionSort _ _).mem_iff, List.mem_dedup, List.mem_map]
  simp only [List.mem_filter, decide_eq_true_eq]
  constructor
  · rintro ⟨n, ⟨hmem, hlow, hhigh⟩, rfl⟩
    have hn : ((n.toNat : Nat) : Int) = n := Int.toNat_of_nonneg (by omega)
    exact ⟨by omega, by omega, hn.symm ▸ hmem⟩
  · rintro ⟨hlow, hhigh, hmem⟩
    exact ⟨port, ⟨hmem, by omega, by omega⟩, rfl⟩

theorem mem_futures {host : List Char} {port : Nat} :
    (host, port) ∈ futures hosts ports ↔ host ∈ hosts ∧ port ∈ ports := by
  unfold futures
  simp [List.mem_flatMap]

theorem nodup_futures (hhosts : hosts.Nodup) (hports : ports.Nodup) :
    (futures hosts ports).Nodup := by
  unfold futures
  rw [List.nodup_flatMap]
  refine ⟨fun host _ => hports.map fun _ _ heq => (Prod.mk.inj heq).2, ?_⟩
  refine hhosts.imp ?_
  intro host other hne future hmem hmem'
  obtain ⟨port, -, rfl⟩ := List.mem_map.mp hmem
  obtain ⟨port', -, heq⟩ := List.mem_map.mp hmem'
  exact hne (Prod.mk.inj heq).1.symm

theorem nodup_answers {done : List (List Char × Nat)} (h : done.Nodup) :
    (answers registry done).Nodup := by
  apply h.filterMap
  intro future other endpoint hmem hmem'
  obtain ⟨hhost, hport⟩ := probeHostPort_place hmem
  obtain ⟨hhost', hport'⟩ := probeHostPort_place hmem'
  exact Prod.ext (hhost.symm.trans hhost') (hport.symm.trans hport')

instance : Std.Total fun a b : DiscoveryEndpoint => sortKey a ≤ sortKey b :=
  ⟨fun a b => le_total (sortKey a) (sortKey b)⟩

instance : IsTrans DiscoveryEndpoint fun a b => sortKey a ≤ sortKey b :=
  ⟨fun _ _ _ hle hle' => hle.trans hle'⟩

/-- Answers of one scope with one key are the same answer. -/
theorem eq_of_sortKey (hkeys : (hosts.map hostSortKey).Nodup) {a b : DiscoveryEndpoint}
    (ha : a ∈ answers registry (futures hosts ports))
    (hb : b ∈ answers registry (futures hosts ports)) (h : sortKey a = sortKey b) : a = b := by
  obtain ⟨hplace, hprobe⟩ := place_of_mem_answers ha
  obtain ⟨hplace', hprobe'⟩ := place_of_mem_answers hb
  have hkey := Prod.mk.inj (toLex_inj.mp h)
  -- the hosts of a scope have different keys, so one key is one host
  have hhost : a.host = b.host := List.inj_on_of_nodup_map hkeys (mem_futures.mp hplace).1
    (mem_futures.mp hplace').1 hkey.1
  have hport : a.port = b.port := (Prod.mk.inj (toLex_inj.mp hkey.2)).1
  rw [hhost, hport] at hprobe
  exact Option.some.inj (hprobe.symm.trans hprobe')

/-- The sorted answers, whatever the order in which the futures complete. -/
theorem discoverEndpoints_eq [PyText] {maxHosts : Int} {payload : DiscoverPayload}
    (hscope : payload.hosts maxHosts = some hosts) (order : CompletionOrder) :
    discoverEndpoints registry maxHosts payload order =
      some ((answers registry (futures hosts (requestedPorts payload.ports))).insertionSort
        fun a b => sortKey a ≤ sortKey b) := by
  have hkeys : (hosts.map hostSortKey).Nodup := nodup_hostsForScope hscope
  have hfutures := nodup_futures hkeys.of_map (nodup_requestedPorts payload.ports)
  have hperm := order.perm (futures hosts (requestedPorts payload.ports))
  unfold discoverEndpoints
  rw [hscope, Option.bind_eq_bind, Option.bind_some]
  by_cases hempty : requestedPorts payload.ports = [] ∨ hosts = []
  · simp only [hempty, if_true]
    have hnone : futures hosts (requestedPorts payload.ports) = [] := by
      unfold futures
      rcases hempty with hports | hhosts
      · rw [hports]
        simp
      · rw [hhosts]
        rfl
    rw [hnone]
    rfl
  · simp only [hempty, if_false]
    rw [collectEndpoints_eq (hperm.nodup_iff.mpr hfutures) (by simp)]
    refine congrArg some ?_
    have hanswers : (answers registry (order.asCompleted
        (futures hosts (requestedPorts payload.ports)))).Perm
        (answers registry (futures hosts (requestedPorts payload.ports))) := hperm.filterMap _
    -- sorted permutations differ only where two elements have one key, and here none do
    rw [insertionSort_eq_iff _ hanswers]
    · intro a b hne hab hba hpair
      obtain ⟨ha, hb⟩ := mem_of_pair_sublist hpair
      exact absurd (eq_of_sortKey hkeys (hanswers.subset ha) (hanswers.subset hb)
        (le_antisymm hab hba)) hne
    · exact hanswers.nodup_iff.mpr (nodup_answers hfutures)

def IsRequested (ports : List Int) (port : Nat) : Prop :=
  1 ≤ port ∧ port ≤ 65535 ∧ (port : Int) ∈ ports

/-- The endpoints of the hosts and requested ports that some probe answers, each by its first
answer. -/
structure Discovered (registry : ProbeRegistry) (hosts : List (List Char)) (ports : List Int)
    (endpoints : List DiscoveryEndpoint) : Prop where
  sorted : endpoints.Pairwise fun a b => sortKey a ≤ sortKey b
  once : (endpoints.map fun endpoint => (endpoint.host, endpoint.port)).Nodup
  answered : ∀ host ∈ hosts, ∀ port, IsRequested ports port →
    (Answered registry host port ↔
      ∃ endpoint ∈ endpoints, endpoint.host = host ∧ endpoint.port = port)
  first : ∀ endpoint ∈ endpoints, endpoint.host ∈ hosts ∧ IsRequested ports endpoint.port ∧
    FirstAnswer registry endpoint.host endpoint.port endpoint

theorem discovered_answers (hhosts : hosts.Nodup) (ports : List Int) :
    Discovered registry hosts ports
      ((answers registry (futures hosts (requestedPorts ports))).insertionSort
        fun a b => sortKey a ≤ sortKey b) where
  sorted := List.pairwise_insertionSort _ _
  once := by
    have hsort := List.perm_insertionSort (fun a b => sortKey a ≤ sortKey b)
      (answers registry (futures hosts (requestedPorts ports)))
    have hfutures := nodup_futures hhosts (nodup_requestedPorts ports)
    rw [(hsort.map _).nodup_iff]
    -- the place of an answer determines it
    refine (nodup_answers hfutures).map_on ?_
    intro a ha b hb hplace
    obtain ⟨-, hprobe⟩ := place_of_mem_answers ha
    obtain ⟨-, hprobe'⟩ := place_of_mem_answers hb
    rw [(Prod.mk.inj hplace).1, (Prod.mk.inj hplace).2] at hprobe
    exact Option.some.inj (hprobe.symm.trans hprobe')
  answered := by
    intro host hhost port hport
    simp only [List.mem_insertionSort]
    rw [answered_iff]
    constructor
    · rintro ⟨endpoint, hprobe⟩
      exact ⟨endpoint, mem_answers.mpr ⟨host, port, mem_futures.mpr
        ⟨hhost, mem_requestedPorts.mpr hport⟩, hprobe⟩, probeHostPort_place hprobe⟩
    · rintro ⟨endpoint, hmem, rfl, rfl⟩
      exact ⟨endpoint, (place_of_mem_answers hmem).2⟩
  first := by
    intro endpoint hmem
    rw [List.mem_insertionSort] at hmem
    obtain ⟨hplace, hprobe⟩ := place_of_mem_answers hmem
    exact ⟨(mem_futures.mp hplace).1, mem_requestedPorts.mp (mem_futures.mp hplace).2,
      probeHostPort_eq_some.mp hprobe⟩

end

/-- **Discovery does not depend on the order in which the futures complete**: a valid scope has one
sorted list of endpoints, the first answers of its hosts and requested ports. -/
theorem discoverEndpoints_discovered [PyText] (registry : ProbeRegistry) {maxHosts : Int}
    {payload : DiscoverPayload} {hosts : List (List Char)}
    (hscope : payload.hosts maxHosts = some hosts) :
    ∃ endpoints, Discovered registry hosts payload.ports endpoints ∧
      ∀ order, discoverEndpoints registry maxHosts payload order = some endpoints := by
  have hkeys : (hosts.map hostSortKey).Nodup := nodup_hostsForScope hscope
  exact ⟨_, discovered_answers hkeys.of_map payload.ports, discoverEndpoints_eq hscope⟩

/-- A TLS probe that one host answers on port 443, and a fallback that every host answers. -/
def tlsThenTcp : ProbeRegistry :=
  [{ name := "tcp"
     transport := .tcp
     ports := none
     fallback := true
     run host port := some ⟨host, port, .tcp, "TCP".toList, "UNKNOWN".toList, []⟩
     answer := by
       rintro host port endpoint ⟨⟩
       exact ⟨rfl, rfl, rfl⟩ },
    { name := "tls"
      transport := .tcp
      ports := some [443]
      run host port :=
        if host = "10.0.0.2".toList then some ⟨host, port, .tcp, "TLS".toList, "TLS".toList, []⟩
        else none
      answer := by
        intro host port endpoint hrun
        split at hrun
        · cases hrun
          exact ⟨rfl, rfl, rfl⟩
        · cases hrun }]

def smallScope : DiscoverPayload where
  scopeType := some "cidr".toList
  scopeValue := some "10.0.0.1/30".toList
  cidr := none
  ports := [443, 22, 443, 70000]

theorem smallScope_discovered : letI := asciiText
    ∃ endpoints, Discovered tlsThenTcp ["10.0.0.1".toList, "10.0.0.2".toList] [443, 22, 443, 70000]
        endpoints ∧
      ∀ order, discoverEndpoints tlsThenTcp 4096 smallScope order = some endpoints :=
  letI := asciiText
  discoverEndpoints_discovered tlsThenTcp (by decide +kernel : smallScope.hosts 4096 = some _)

end CryptoScanner.AgentDiscovery
