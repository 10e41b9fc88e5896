import CryptoScanner.Frontend.ExposureGraph
import CryptoScanner.Library.Accumulate
import CryptoScanner.Library.Join
import CryptoScanner.Library.Layers

/-!
# The invariants of the exposure graph

The two maps accumulate the nodes and the links that the assets add.  An id tells the kind of its
node, so the nodes of one kind are accumulated from the assets' own nodes of this kind alone.
-/

namespace CryptoScanner.Frontend

open Library JavaScript RiskEngine

/-! ## 1. Well-formed graphs -/

def severity : Option Tier → Nat
  | none => 0
  | some tier => riskRank tier

/-- The worst tier among the assets that are below, and none if they have none. -/
structure IsWorst (assets : List AssetListItem) (below : AssetListItem → Prop)
    (tier : Option Tier) : Prop where
  attained : tier = none ∨ ∃ asset ∈ assets, below asset ∧ asset.riskTier = tier
  bound : ∀ asset ∈ assets, below asset → severity asset.riskTier ≤ severity tier

def aggregateKinds : List NodeKind := [.group, .target, .endpoint]

/-- The graph is well formed and conserves the counts of the assets, and its tiers are the worst
ones of the assets below a node. -/
structure WellFormed (assets : List AssetListItem) (graph : NetworkExposureGraph)
    (below : NetworkExposureNode → AssetListItem → Prop) : Prop where
  nodeIds : (graph.nodes.map NetworkExposureNode.id).Nodup
  linkIds : (graph.links.map NetworkExposureLink.id).Nodup
  ends : ∀ link ∈ graph.links, (∃ node ∈ graph.nodes, node.id = link.source) ∧
    ∃ node ∈ graph.nodes, node.id = link.target
  incoming : ∀ node ∈ graph.nodes, node.kind = .asset → ∃ link,
    graph.links.filter (fun other => other.target = node.id) = [link] ∧
      ∃ endpoint ∈ graph.nodes, endpoint.kind = .endpoint ∧ endpoint.id = link.source
  counts : ∀ kind ∈ aggregateKinds, ((graph.nodes.filter fun node => node.kind = kind).map
    NetworkExposureNode.assetCount).sum = assets.length
  tiers : ∀ node ∈ graph.nodes, node.kind ∈ aggregateKinds →
    IsWorst assets (below node) node.riskTier

/-- A link leads from one node to the other. -/
def Linked (graph : NetworkExposureGraph) (source target : JsString) : Prop :=
  ∃ link ∈ graph.links, link.source = source ∧ link.target = target

def Below (graph : NetworkExposureGraph) (node : NetworkExposureNode) (asset : AssetListItem) :
    Prop :=
  Relation.TransGen (Linked graph) node.id (assetNodeId asset)

/-- The node is the asset's own of its kind, so the asset is counted there. -/
def CountedBy (targets : List Target) (node : NetworkExposureNode) (asset : AssetListItem) : Prop :=
  (nodeOf targets asset node.kind).map NewNode.id = some node.id

instance (targets : List Target) (node : NetworkExposureNode) :
    DecidablePred (CountedBy targets node) := fun _ => inferInstanceAs (Decidable (_ = _))

/-! ## 2. Ids and their kinds -/

def idWords : List (JsString × NodeKind) :=
  [(js "group", .group), (js "target", .target), (js "target-label", .target),
    (js "endpoint", .endpoint), (js "asset", .asset), (js "finding", .finding)]

def kindOf (id : JsString) : Option NodeKind := idWords.lookup (id.takeWhile (· ≠ colon))

theorem takeWhile_colon {word : JsString} (h : colon ∉ word) (rest : JsString) :
    (word ++ colon :: rest).takeWhile (· ≠ colon) = word := by
  rw [List.takeWhile_append_of_pos, List.takeWhile_cons_of_neg (by simp), List.append_nil]
  intro c hc
  simp only [decide_eq_true_eq]
  rintro rfl
  exact h hc

theorem kindOf_append {prefixed word : JsString} (hword : prefixed = word ++ [colon])
    (hcolon : colon ∉ word) (rest : JsString) :
    kindOf (prefixed ++ rest) = idWords.lookup word := by
  rw [kindOf, hword, List.append_assoc, List.singleton_append, takeWhile_colon hcolon]

theorem kindOf_group (rest : JsString) : kindOf (js "group:" ++ rest) = some .group :=
  (kindOf_append (by decide : js "group:" = js "group" ++ [colon]) (by decide) rest).trans
    (by decide)

theorem kindOf_target (rest : JsString) : kindOf (js "target:" ++ rest) = some .target :=
  (kindOf_append (by decide : js "target:" = js "target" ++ [colon]) (by decide) rest).trans
    (by decide)

theorem kindOf_targetLabel (rest : JsString) :
    kindOf (js "target-label:" ++ rest) = some .target :=
  (kindOf_append (by decide : js "target-label:" = js "target-label" ++ [colon]) (by decide)
    rest).trans (by decide)

theorem kindOf_endpoint (rest : JsString) : kindOf (js "endpoint:" ++ rest) = some .endpoint :=
  (kindOf_append (by decide : js "endpoint:" = js "endpoint" ++ [colon]) (by decide) rest).trans
    (by decide)

theorem kindOf_asset (rest : JsString) : kindOf (js "asset:" ++ rest) = some .asset :=
  (kindOf_append (by decide : js "asset:" = js "asset" ++ [colon]) (by decide) rest).trans
    (by decide)

theorem kindOf_finding (rest : JsString) : kindOf (js "finding:" ++ rest) = some .finding :=
  (kindOf_append (by decide : js "finding:" = js "finding" ++ [colon]) (by decide) rest).trans
    (by decide)

section

variable (targets : List Target) (asset : AssetListItem)

theorem kindOf_targetNodeId : kindOf (targetNodeId targets asset) = some .target := by
  unfold targetNodeId targetNodeIdFor
  split
  · exact kindOf_target _
  · split
    · exact kindOf_target _
    · exact kindOf_targetLabel _
    · decide

theorem kindOf_endpointNodeId : kindOf (endpointNodeId targets asset) = some .endpoint := by
  unfold endpointNodeId endpointNodeIdFor
  split
  · simp only [List.append_assoc]
    exact kindOf_endpoint _
  · split
    · exact kindOf_endpoint _
    · decide

/-- What an asset adds of a kind has an id of this kind, and counts the asset with its tier. -/
theorem nodeOf_spec {kind : NodeKind} {node : NewNode}
    (h : nodeOf targets asset kind = some node) : kindOf node.id = some kind ∧ node.kind = kind ∧
      node.riskTier = asset.riskTier ∧ node.assetCount = 1 := by
  cases kind with
  | group =>
      cases h
      exact ⟨kindOf_group _, rfl, rfl, rfl⟩
  | target =>
      cases h
      exact ⟨kindOf_targetNodeId targets asset, rfl, rfl, rfl⟩
  | endpoint =>
      cases h
      exact ⟨kindOf_endpointNodeId targets asset, rfl, rfl, rfl⟩
  | asset =>
      cases h
      exact ⟨kindOf_asset _, rfl, rfl, rfl⟩
  | finding =>
      obtain ⟨tier, htier, rfl⟩ := Option.map_eq_some_iff.mp h
      exact ⟨kindOf_finding _, rfl, htier.symm, rfl⟩

end

/-! ## 3. The maps -/

def fresh (node : NewNode) : NetworkExposureNode :=
  { node.created with assetCount := 0, riskTier := none }

/-- What `addNode` does to a node that exists. -/
def mergeNode (existing : NetworkExposureNode) (node : NewNode) : NetworkExposureNode :=
  { existing with
    assetCount := existing.assetCount + node.assetCount
    riskTier := mostSevereTier existing.riskTier node.riskTier }

def nodeEntries (items : List NewNode) : NodeMap :=
  Dict.accumulate NewNode.id fresh mergeNode items

def linkEntries (items : List NetworkExposureLink) : LinkMap :=
  Dict.accumulate NetworkExposureLink.id (fun link => link) (fun link _ => link) items

theorem mergeNode_fresh (node : NewNode) : mergeNode (fresh node) node = node.created := by
  unfold mergeNode fresh NewNode.created
  simp only [Nat.zero_add]
  rfl

theorem addNode_eq (nodes : NodeMap) (node : NewNode) :
    addNode nodes node = Dict.accumulateStep NewNode.id fresh mergeNode nodes node := by
  unfold addNode
  change _ = Dict.set node.id
    (mergeNode ((Dict.get? nodes node.id).getD (fresh node)) node) nodes
  cases Dict.get? nodes node.id with
  | none => rw [Option.getD_none, mergeNode_fresh]
  | some existing => rfl

theorem addLink_eq (links : LinkMap) (link : NetworkExposureLink) : addLink links link =
    Dict.accumulateStep NetworkExposureLink.id (fun link => link) (fun link _ => link) links
      link := by
  unfold addLink
  change (if (Dict.get? links link.id).isSome then links else Dict.set link.id link links) =
    Dict.set link.id ((Dict.get? links link.id).getD link) links
  cases hlookup : Dict.get? links link.id with
  | none => rfl
  | some existing =>
      rw [Option.isSome_some, if_pos rfl, Option.getD_some, Dict.set_eq_self hlookup]

/-- The maps after the loop, in terms of everything that it adds. -/
theorem foldl_addAsset (targets : List Target) (assets : List AssetListItem) :
    assets.foldl (fun graph asset => addAsset targets asset graph) ([], []) =
      (nodeEntries (assets.flatMap (assetNodes targets)),
        linkEntries (assets.flatMap (assetLinks targets))) := by
  have hnodes : addNode = Dict.accumulateStep NewNode.id fresh mergeNode := by
    funext nodes node
    exact addNode_eq nodes node
  have hlinks : addLink = Dict.accumulateStep NetworkExposureLink.id (fun link => link)
      (fun link _ => link) := by
    funext links link
    exact addLink_eq links link
  -- the loop over the assets runs through what they add, in each map on its own
  have hpair : ∀ (graph : NodeMap × LinkMap),
      assets.foldl (fun graph asset => addAsset targets asset graph) graph =
        ((assets.flatMap (assetNodes targets)).foldl addNode graph.1,
          (assets.flatMap (assetLinks targets)).foldl addLink graph.2) := by
    induction assets with
    | nil => exact fun _ => rfl
    | cons asset assets ih =>
        intro graph
        rw [List.foldl_cons, ih, List.flatMap_cons, List.flatMap_cons, List.foldl_append,
          List.foldl_append, addAsset]
  rw [hpair, hnodes, hlinks]
  rfl

section

variable (assets : List AssetListItem) (targets : List Target)

theorem nodes_eq : (buildNetworkExposureGraph assets targets).nodes =
    (nodeEntries (assets.flatMap (assetNodes targets))).map fun entry => withTierColor entry.2 := by
  unfold buildNetworkExposureGraph
  rw [foldl_addAsset]

theorem links_eq : (buildNetworkExposureGraph assets targets).links =
    (linkEntries (assets.flatMap (assetLinks targets))).map Prod.snd := by
  unfold buildNetworkExposureGraph
  rw [foldl_addAsset]

end

theorem foldl_mergeNode (items : List NewNode) (node : NetworkExposureNode) :
    (items.foldl mergeNode node).id = node.id ∧ (items.foldl mergeNode node).kind = node.kind ∧
      (items.foldl mergeNode node).assetCount =
        node.assetCount + (items.map NewNode.assetCount).sum ∧
      (items.foldl mergeNode node).riskTier =
        (items.map NewNode.riskTier).foldl mostSevereTier node.riskTier := by
  induction items generalizing node with
  | nil => exact ⟨rfl, rfl, rfl, rfl⟩
  | cons item items ih =>
      obtain ⟨hid, hkind, hcount, htier⟩ := ih (mergeNode node item)
      refine ⟨hid, hkind, ?_, htier⟩
      rw [List.foldl_cons, hcount, List.map_cons, List.sum_cons]
      exact Nat.add_assoc _ _ _

/-- An entry has the id and the kind of its first item, the sum of the counts, and the worst of the
tiers of all its items. -/
theorem nodeEntry_spec {items : List NewNode} {entry : JsString × NetworkExposureNode}
    (h : entry ∈ nodeEntries items) : entry.2.id = entry.1 ∧
      (∃ item ∈ items, item.id = entry.1 ∧ item.kind = entry.2.kind) ∧
      entry.2.assetCount = ((items.filter fun item => decide (item.id = entry.1)).map
        NewNode.assetCount).sum ∧
      entry.2.riskTier = ((items.filter fun item => decide (item.id = entry.1)).map
        NewNode.riskTier).foldl mostSevereTier none := by
  have hentry := Dict.entryOf_of_mem NewNode.id fresh mergeNode h
  cases hitems : items.filter fun item => decide (item.id = entry.1) with
  | nil =>
      rw [hitems] at hentry
      cases hentry
  | cons first rest =>
      have hfirst : first ∈ items.filter fun item => decide (item.id = entry.1) := by
        rw [hitems]
        exact List.mem_cons_self
      obtain ⟨hmem, hid⟩ := List.mem_filter.mp hfirst
      have hid : first.id = entry.1 := of_decide_eq_true hid
      rw [hitems] at hentry
      have hvalue : (first :: rest).foldl mergeNode (fresh first) = entry.2 :=
        Option.some.inj hentry
      obtain ⟨hsame, hkind, hcount, htier⟩ := foldl_mergeNode (first :: rest) (fresh first)
      rw [hvalue] at hsame hkind hcount htier
      refine ⟨hsame.trans hid, ⟨first, hmem, hid, hkind.symm⟩, ?_, htier⟩
      rw [hcount]
      exact Nat.zero_add _

/-- The links with different ids are those that were added first. -/
theorem mem_linkEntries {items : List NetworkExposureLink} {entry : JsString × NetworkExposureLink}
    (h : entry ∈ linkEntries items) : entry.2.id = entry.1 ∧ entry.2 ∈ items := by
  have hentry := Dict.entryOf_of_mem NetworkExposureLink.id (fun link => link)
    (fun link _ => link) h
  have hkeep : ∀ (rest : List NetworkExposureLink) (link : NetworkExposureLink),
      rest.foldl (fun link _ => link) link = link := by
    intro rest
    induction rest with
    | nil => exact fun _ => rfl
    | cons other rest ih => exact fun link => ih link
  cases hitems : items.filter fun item => decide (item.id = entry.1) with
  | nil =>
      rw [hitems] at hentry
      cases hentry
  | cons first rest =>
      have hfirst : first ∈ items.filter fun item => decide (item.id = entry.1) := by
        rw [hitems]
        exact List.mem_cons_self
      obtain ⟨hmem, hid⟩ := List.mem_filter.mp hfirst
      rw [hitems] at hentry
      have hvalue : first = entry.2 :=
        (hkeep (first :: rest) first).symm.trans (Option.some.inj hentry)
      rw [← hvalue]
      exact ⟨of_decide_eq_true hid, hmem⟩

/-! ## 4. The worst tier -/

theorem severity_mostSevereTier (left right : Option Tier) :
    severity (mostSevereTier left right) = max (severity left) (severity right) := by
  cases left with
  | none => exact (Nat.zero_max _).symm
  | some left =>
      cases right with
      | none => exact (Nat.max_zero _).symm
      | some right =>
          show severity (if riskRank left < riskRank right then some right else some left) =
            max (riskRank left) (riskRank right)
          by_cases hlt : riskRank left < riskRank right
          · rw [if_pos hlt]
            exact (Nat.max_eq_right hlt.le).symm
          · rw [if_neg hlt]
            exact (Nat.max_eq_left (Nat.le_of_not_lt hlt)).symm

theorem mostSevereTier_eq (left right : Option Tier) :
    mostSevereTier left right = left ∨ mostSevereTier left right = right := by
  cases left with
  | none => exact .inr rfl
  | some left =>
      cases right with
      | none => exact .inl rfl
      | some right =>
          unfold mostSevereTier
          dsimp only
          split
          · exact .inr rfl
          · exact .inl rfl

/-- Merging tiers yields one of them, and none is worse. -/
theorem foldl_mostSevereTier (tiers : List (Option Tier)) (tier : Option Tier) :
    (tiers.foldl mostSevereTier tier = tier ∨ tiers.foldl mostSevereTier tier ∈ tiers) ∧
      severity tier ≤ severity (tiers.foldl mostSevereTier tier) ∧
      ∀ other ∈ tiers, severity other ≤ severity (tiers.foldl mostSevereTier tier) := by
  induction tiers generalizing tier with
  | nil => exact ⟨.inl rfl, le_rfl, nofun⟩
  | cons first tiers ih =>
      obtain ⟨hattained, hstart, hbound⟩ := ih (mostSevereTier tier first)
      rw [severity_mostSevereTier, max_le_iff] at hstart
      rw [List.foldl_cons]
      refine ⟨?_, hstart.1, ?_⟩
      · rcases hattained with heq | hmem
        · rcases mostSevereTier_eq tier first with hleft | hright
          · exact .inl (heq.trans hleft)
          · exact .inr (List.mem_cons.mpr (.inl (heq.trans hright)))
        · exact .inr (List.mem_cons_of_mem first hmem)
      · intro other hother
        rcases List.mem_cons.mp hother with rfl | hother
        · exact hstart.2
        · exact hbound other hother

theorem isWorst_filter (assets : List AssetListItem) (below : AssetListItem → Prop)
    [DecidablePred below] : IsWorst assets below
      (((assets.filter fun asset => below asset).map AssetListItem.riskTier).foldl
        mostSevereTier none) := by
  obtain ⟨hattained, _, hbound⟩ := foldl_mostSevereTier
    ((assets.filter fun asset => below asset).map AssetListItem.riskTier) none
  constructor
  · rcases hattained with hnone | hmem
    · exact .inl hnone
    · obtain ⟨asset, hasset, htier⟩ := List.mem_map.mp hmem
      obtain ⟨hasset, hbelow⟩ := List.mem_filter.mp hasset
      exact .inr ⟨asset, hasset, of_decide_eq_true hbelow, htier⟩
  · intro asset hasset hbelow
    exact hbound _ (List.mem_map_of_mem (List.mem_filter.mpr ⟨hasset, decide_eq_true hbelow⟩))

/-! ## 5. The nodes of one kind -/

theorem mem_assetNodes {targets : List Target} {asset : AssetListItem} {node : NewNode} :
    node ∈ assetNodes targets asset ↔ ∃ kind, nodeOf targets asset kind = some node := by
  unfold assetNodes
  rw [List.mem_filterMap]
  constructor
  · rintro ⟨kind, _, hnode⟩
    exact ⟨kind, hnode⟩
  · rintro ⟨kind, hnode⟩
    exact ⟨kind, by cases kind <;> decide, hnode⟩

/-- Of the nodes that an asset adds, those with an id of a kind are its node of this kind. -/
theorem filter_assetNodes (targets : List Target) (asset : AssetListItem) (kind : NodeKind) :
    ((assetNodes targets asset).filter fun node => kindOf node.id = some kind) =
      (nodeOf targets asset kind).toList := by
  -- a node passes the filter exactly if it was added as one of this kind
  have hkeep : ∀ other, ((nodeOf targets asset other).toList.filter fun node =>
      kindOf node.id = some kind) =
        if other = kind then (nodeOf targets asset other).toList else [] := by
    intro other
    cases hnode : nodeOf targets asset other with
    | none => rw [Option.toList_none, List.filter_nil, ite_self]
    | some node =>
        have hkind := (nodeOf_spec targets asset hnode).1
        rw [Option.toList_some, List.filter_cons, List.filter_nil, hkind]
        simp only [Option.some.injEq, decide_eq_true_eq]
  unfold assetNodes
  rw [List.filterMap_eq_flatMap_toList]
  simp only [List.flatMap_cons, List.flatMap_nil, List.filter_append, List.append_nil, hkeep]
  cases kind <;> simp

theorem filter_flatMap_assetNodes (targets : List Target) (assets : List AssetListItem)
    (kind : NodeKind) : ((assets.flatMap (assetNodes targets)).filter fun node =>
      kindOf node.id = some kind) = assets.filterMap fun asset => nodeOf targets asset kind := by
  rw [List.filter_flatMap, List.filterMap_eq_flatMap_toList]
  congr 1
  funext asset
  exact filter_assetNodes targets asset kind

/-- The nodes that are added under an id are those of its kind that have it. -/
theorem filter_flatMap_id (targets : List Target) (assets : List AssetListItem) {kind : NodeKind}
    {id : JsString} (hkind : kindOf id = some kind) :
    ((assets.flatMap (assetNodes targets)).filter fun node => node.id = id) =
      (assets.filter fun asset =>
        (nodeOf targets asset kind).map NewNode.id = some id).filterMap fun asset =>
          nodeOf targets asset kind := by
  -- whoever has the id has its kind, so the other kinds may be dropped first
  have hsame : ((assets.flatMap (assetNodes targets)).filter fun node => node.id = id) =
      (assets.filterMap fun asset => nodeOf targets asset kind).filter fun node =>
        node.id = id := by
    rw [← filter_flatMap_assetNodes, List.filter_filter]
    apply List.filter_congr
    intro node _
    by_cases hid : node.id = id
    · simp [hid, hkind]
    · simp [hid]
  rw [hsame, List.filter_filterMap, List.filterMap_filter]
  congr 1
  funext asset
  cases nodeOf targets asset kind with
  | none => simp
  | some node =>
      by_cases hid : node.id = id
      · simp [hid, Option.filter]
      · simp [hid, Option.filter]

theorem filterMap_nodeOf (targets : List Target) {kind : NodeKind} {assets : List AssetListItem}
    (h : ∀ asset ∈ assets, (nodeOf targets asset kind).isSome) :
    ((assets.filterMap fun asset => nodeOf targets asset kind).map NewNode.assetCount).sum =
        assets.length ∧
      (assets.filterMap fun asset => nodeOf targets asset kind).map NewNode.riskTier =
        assets.map AssetListItem.riskTier := by
  induction assets with
  | nil => exact ⟨rfl, rfl⟩
  | cons asset assets ih =>
      obtain ⟨hcount, htier⟩ := ih fun other hother => h other (List.mem_cons_of_mem asset hother)
      obtain ⟨node, hnode⟩ := Option.isSome_iff_exists.mp (h asset List.mem_cons_self)
      obtain ⟨_, _, hnodeTier, hnodeCount⟩ := nodeOf_spec targets asset hnode
      rw [List.filterMap_cons, hnode]
      dsimp only
      constructor
      · rw [List.map_cons, List.sum_cons, hcount, hnodeCount, List.length_cons, Nat.add_comm]
      · rw [List.map_cons, htier, hnodeTier, List.map_cons]

section

variable {assets : List AssetListItem} {targets : List Target}

theorem mem_nodes {node : NetworkExposureNode} :
    node ∈ (buildNetworkExposureGraph assets targets).nodes ↔
      ∃ entry ∈ nodeEntries (assets.flatMap (assetNodes targets)), withTierColor entry.2 = node := by
  rw [nodes_eq]
  exact List.mem_map

variable (assets targets) in
theorem map_id_nodes : (buildNetworkExposureGraph assets targets).nodes.map NetworkExposureNode.id =
    (nodeEntries (assets.flatMap (assetNodes targets))).map Prod.fst := by
  rw [nodes_eq, List.map_map]
  apply List.map_congr_left
  intro entry hentry
  exact (nodeEntry_spec hentry).1

/-- Everything that is added under an id ends in one node. -/
theorem exists_node {asset : AssetListItem} (hasset : asset ∈ assets) {kind : NodeKind}
    {added : NewNode} (hadded : nodeOf targets asset kind = some added) :
    ∃ node ∈ (buildNetworkExposureGraph assets targets).nodes, node.id = added.id ∧
      node.kind = kind := by
  have hmem : added ∈ assets.flatMap (assetNodes targets) :=
    List.mem_flatMap.mpr ⟨asset, hasset, mem_assetNodes.mpr ⟨kind, hadded⟩⟩
  have hkey : added.id ∈ (nodeEntries (assets.flatMap (assetNodes targets))).map Prod.fst :=
    (Dict.mem_keys_accumulate NewNode.id fresh mergeNode).mpr ⟨added, hmem, rfl⟩
  obtain ⟨entry, hentry, hid⟩ := List.mem_map.mp hkey
  obtain ⟨hentryId, ⟨item, hitem, hitemId, hitemKind⟩, _⟩ := nodeEntry_spec hentry
  refine ⟨withTierColor entry.2, mem_nodes.mpr ⟨entry, hentry, rfl⟩, hentryId.trans hid, ?_⟩
  -- the first item under the id is of the kind that the id tells
  obtain ⟨other, _, hother⟩ := List.mem_flatMap.mp hitem
  obtain ⟨otherKind, hother⟩ := mem_assetNodes.mp hother
  obtain ⟨hotherKind, hsame, _⟩ := nodeOf_spec targets other hother
  have hkinds := hotherKind.symm.trans
    ((congrArg kindOf (hitemId.trans hid)).trans (nodeOf_spec targets asset hadded).1)
  exact hitemKind.symm.trans (hsame.trans (Option.some.inj hkinds))

/-- A node is some asset's own; it counts the assets whose node it is, and has their worst tier. -/
theorem node_spec {node : NetworkExposureNode}
    (h : node ∈ (buildNetworkExposureGraph assets targets).nodes) :
    kindOf node.id = some node.kind ∧ (∃ asset ∈ assets, CountedBy targets node asset) ∧
      node.assetCount = (assets.filter fun asset => CountedBy targets node asset).length ∧
      IsWorst assets (CountedBy targets node) node.riskTier := by
  obtain ⟨entry, hentry, rfl⟩ := mem_nodes.mp h
  obtain ⟨hid, ⟨item, hitem, hitemId, hitemKind⟩, hcount, htier⟩ := nodeEntry_spec hentry
  obtain ⟨asset, hasset, hadded⟩ := List.mem_flatMap.mp hitem
  obtain ⟨kind, hadded⟩ := mem_assetNodes.mp hadded
  obtain ⟨hkindOf, hkind, _⟩ := nodeOf_spec targets asset hadded
  -- the entry has the kind of its first item, which is the one its id tells
  have hsame : kind = entry.2.kind := hkind.symm.trans hitemKind
  subst hsame
  have hentryKind : kindOf entry.1 = some entry.2.kind := by rw [← hitemId, hkindOf]
  rw [filter_flatMap_id targets assets hentryKind] at hcount htier
  have hsome : ∀ other ∈ assets.filter fun other =>
      (nodeOf targets other entry.2.kind).map NewNode.id = some entry.1,
      (nodeOf targets other entry.2.kind).isSome := by
    intro other hother
    have hmap := of_decide_eq_true (List.mem_filter.mp hother).2
    rw [← Option.isSome_map, hmap]
    rfl
  obtain ⟨hlength, htiers⟩ := filterMap_nodeOf targets hsome
  rw [hlength] at hcount
  rw [htiers] at htier
  -- coloring the node leaves its id and its kind, which decide what it counts
  have hcounted : ∀ other, CountedBy targets (withTierColor entry.2) other ↔
      (nodeOf targets other entry.2.kind).map NewNode.id = some entry.1 := by
    intro other
    rw [← hid]
    rfl
  refine ⟨?_, ⟨asset, hasset, ?_⟩, ?_, ?_⟩
  · show kindOf entry.2.id = some entry.2.kind
    rw [hid, hentryKind]
  · rw [hcounted, hadded, Option.map_some, hitemId]
  · simp only [hcounted]
    exact hcount
  · have hworst := isWorst_filter assets (CountedBy targets (withTierColor entry.2))
    simp only [hcounted] at hworst
    rw [← htier] at hworst
    exact hworst

/-- The nodes of a kind count the assets that have a node of this kind. -/
theorem sum_assetCount (assets : List AssetListItem) (targets : List Target) {kind : NodeKind}
    (hkind : kind ∈ aggregateKinds) :
    (((buildNetworkExposureGraph assets targets).nodes.filter fun node => node.kind = kind).map
      NetworkExposureNode.assetCount).sum = assets.length := by
  -- selecting nodes by kind is selecting entries by id, and these accumulate on their own
  have hfilter : ((buildNetworkExposureGraph assets targets).nodes.filter fun node =>
      node.kind = kind) = (buildNetworkExposureGraph assets targets).nodes.filter fun node =>
        kindOf node.id = some kind := by
    apply List.filter_congr
    intro node hnode
    rw [(node_spec hnode).1]
    simp
  have hentries : ((nodeEntries (assets.flatMap (assetNodes targets))).filter fun entry =>
      kindOf (withTierColor entry.2).id = some kind) =
        nodeEntries (assets.filterMap fun asset => nodeOf targets asset kind) := by
    rw [← filter_flatMap_assetNodes]
    refine Eq.trans ?_ (Dict.accumulate_filter NewNode.id fresh mergeNode
      (fun id => decide (kindOf id = some kind)) (assets.flatMap (assetNodes targets)))
    apply List.filter_congr
    intro entry hentry
    show decide (kindOf entry.2.id = some kind) = _
    rw [(nodeEntry_spec hentry).1]
  have hsome : ∀ asset ∈ assets, (nodeOf targets asset kind).isSome := by
    intro asset _
    rcases List.mem_cons.mp hkind with rfl | hkind
    · rfl
    · rcases List.mem_cons.mp hkind with rfl | hkind
      · rfl
      · rw [List.mem_singleton.mp hkind]
        rfl
  have hmap : ((nodeEntries (assets.flatMap (assetNodes targets))).map fun entry =>
      withTierColor entry.2).filter (fun node => kindOf node.id = some kind) =
        (nodeEntries (assets.filterMap fun asset => nodeOf targets asset kind)).map fun entry =>
          withTierColor entry.2 := by
    rw [List.filter_map]
    exact congrArg _ hentries
  rw [hfilter, nodes_eq, hmap, List.map_map]
  exact (Dict.sum_accumulate NewNode.id fresh mergeNode NetworkExposureNode.assetCount
    NewNode.assetCount (fun _ => rfl) (fun _ _ => rfl) _).trans (filterMap_nodeOf targets hsome).1

end

end CryptoScanner.Frontend
