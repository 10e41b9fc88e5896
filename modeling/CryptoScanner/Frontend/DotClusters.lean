import CryptoScanner.Frontend.ExposureDot
import CryptoScanner.Library.Distinct
import Mathlib.Data.List.Forall2

/-!
# The clusters of the exposure graph

A target has one cluster, from the first link that puts it into a group.  The name of the cluster
forgets which characters of the group's id are neither letters nor digits.
-/

namespace CryptoScanner.Frontend

open Library JavaScript

/-! ## 1. Names of clusters -/

/-- From the first letter or digit on, and a word in its place if there is none. -/
def nameCore (id : JsString) : JsString :=
  let rest := id.dropWhile fun c => !isLetterOrDigit c
  if rest = [] then js "group" else rest

/-- Both units are the same, or neither is a letter or a digit. -/
def AlikeUnits (c d : UInt16) : Prop :=
  c = d ∨ isLetterOrDigit c = false ∧ isLetterOrDigit d = false

instance : DecidableRel AlikeUnits := fun _ _ => inferInstanceAs (Decidable (_ ∨ _))

/-- The ids differ at most in their leading units and in the separators that they use. -/
def AlikeIds (id id' : JsString) : Prop := List.Forall₂ AlikeUnits (nameCore id) (nameCore id')

instance : DecidableRel AlikeIds := fun _ _ => inferInstanceAs (Decidable (List.Forall₂ _ _ _))

theorem identifierUnit_eq_underscore (c : UInt16) :
    identifierUnit c = underscore ↔ isLetterOrDigit c = false := by
  unfold identifierUnit
  cases hletter : isLetterOrDigit c with
  | true =>
      rw [Bool.true_or, if_pos rfl]
      constructor
      · rintro rfl
        cases hletter
      · exact nofun
  | false =>
      rw [Bool.false_or]
      split
      · rename_i hunderscore
        exact ⟨fun _ => rfl, fun _ => of_decide_eq_true hunderscore⟩
      · exact ⟨fun _ => rfl, fun _ => rfl⟩

theorem identifierUnit_of_letterOrDigit {c : UInt16} (h : isLetterOrDigit c = true) :
    identifierUnit c = c := by
  unfold identifierUnit
  rw [h, Bool.true_or, if_pos rfl]

theorem identifierUnit_eq_iff (c d : UInt16) :
    identifierUnit c = identifierUnit d ↔ AlikeUnits c d := by
  constructor
  · intro h
    cases hc : isLetterOrDigit c with
    | false =>
        have hd := (identifierUnit_eq_underscore d).mp
          (h.symm.trans ((identifierUnit_eq_underscore c).mpr hc))
        exact .inr ⟨hc, hd⟩
    | true =>
        cases hd : isLetterOrDigit d with
        | false =>
            have hfalse := (identifierUnit_eq_underscore c).mp
              (h.trans ((identifierUnit_eq_underscore d).mpr hd))
            rw [hc] at hfalse
            cases hfalse
        | true =>
            rw [identifierUnit_of_letterOrDigit hc, identifierUnit_of_letterOrDigit hd] at h
            exact .inl h
  · rintro (rfl | ⟨hc, hd⟩)
    · rfl
    · rw [(identifierUnit_eq_underscore c).mpr hc, (identifierUnit_eq_underscore d).mpr hd]

theorem clusterIdSuffix_eq (id : JsString) :
    clusterIdSuffix id = (nameCore id).map identifierUnit := by
  -- the units that become an underscore are those dropped from the core
  have hdrop : (id.map identifierUnit).dropWhile (· = underscore) =
      (id.dropWhile fun c => !isLetterOrDigit c).map identifierUnit := by
    rw [List.dropWhile_map]
    congr 2
    funext c
    show decide (identifierUnit c = underscore) = !isLetterOrDigit c
    rw [Bool.eq_iff_iff, decide_eq_true_iff, identifierUnit_eq_underscore, Bool.not_eq_true']
  unfold clusterIdSuffix nameCore
  rw [hdrop]
  simp only [List.map_eq_nil_iff]
  split
  · decide
  · rfl

/-- Two groups have one name if and only if their ids are alike. -/
theorem clusterIdSuffix_eq_iff (id id' : JsString) :
    clusterIdSuffix id = clusterIdSuffix id' ↔ AlikeIds id id' := by
  rw [clusterIdSuffix_eq, clusterIdSuffix_eq, ← List.forall₂_eq_eq_eq, List.forall₂_map_left_iff,
    List.forall₂_map_right_iff]
  unfold AlikeIds
  simp only [identifierUnit_eq_iff]

/-! ## 2. The clusters that are emitted -/

section

variable {graph : NetworkExposureGraph}

theorem nodeOfKind_spec {kind : NodeKind} {id : JsString} {node : NetworkExposureNode}
    (h : nodeOfKind graph kind id = some node) : node ∈ graph.nodes ∧ node.id = id ∧
      node.kind = kind ∧ Dict.get? (nodesById graph) node.id = some node := by
  obtain ⟨hget, hkind⟩ := Option.filter_eq_some_iff.mp h
  obtain ⟨found, hfound, hpair⟩ := List.mem_map.mp (mem_of_get?_newMap hget)
  cases hpair
  exact ⟨hfound, rfl, of_decide_eq_true hkind, hget⟩

variable (graph) in
def containment (link : NetworkExposureLink) : Option (NetworkExposureNode × NetworkExposureNode) :=
  if link.kind = .contains then
    (nodeOfKind graph .group link.source).bind fun group =>
      (nodeOfKind graph .target link.target).map fun target => (group, target)
  else none

variable (graph) in
def containments : List (NetworkExposureNode × NetworkExposureNode) :=
  graph.links.filterMap (containment graph)

def Contains (graph : NetworkExposureGraph) (group target : NetworkExposureNode) : Prop :=
  ∃ link ∈ graph.links, link.kind = .contains ∧
    nodeOfKind graph .group link.source = some group ∧
    nodeOfKind graph .target link.target = some target

instance : DecidableRel (Contains graph) := fun _ _ => inferInstanceAs (Decidable (∃ _ ∈ _, _))

theorem mem_containments {group target : NetworkExposureNode} :
    (group, target) ∈ containments graph ↔ Contains graph group target := by
  unfold containments Contains
  rw [List.mem_filterMap]
  constructor
  · rintro ⟨link, hlink, hpair⟩
    unfold containment at hpair
    split at hpair
    · rename_i hkind
      obtain ⟨found, hgroup, hpair⟩ := Option.bind_eq_some_iff.mp hpair
      obtain ⟨found', htarget, hpair⟩ := Option.map_eq_some_iff.mp hpair
      cases hpair
      exact ⟨link, hlink, hkind, hgroup, htarget⟩
    · cases hpair
  · rintro ⟨link, hlink, hkind, hgroup, htarget⟩
    refine ⟨link, hlink, ?_⟩
    unfold containment
    rw [if_pos hkind, hgroup, htarget]
    rfl

theorem clusterLink_eq (state : List JsString × List GraphCluster) (link : NetworkExposureLink) :
    clusterLink graph state link = match containment graph link with
      | none => state
      | some (group, target) =>
          if target.id ∈ state.1 then state
          else (target.id :: state.1, state.2 ++ [newCluster graph group target]) := by
  unfold clusterLink containment
  by_cases hkind : link.kind = .contains
  · rw [if_neg (not_not_intro hkind), if_pos hkind]
    cases nodeOfKind graph .group link.source with
    | none => rfl
    | some group =>
        cases nodeOfKind graph .target link.target with
        | none => rfl
        | some target => rfl
  · rw [if_pos hkind, if_neg hkind]

/-- The first link to each target makes its cluster. -/
theorem buildGroupClusters_eq : buildGroupClusters graph =
    (Dict.firsts (fun pair => pair.2.id) [] (containments graph)).map fun pair =>
      newCluster graph pair.1 pair.2 := by
  -- the ids of the clustered targets are the keys that were seen
  have hfold : ∀ (links : List NetworkExposureLink) (state : List JsString × List GraphCluster),
      (links.foldl (clusterLink graph) state).2 = state.2 ++
        (Dict.firsts (fun pair => pair.2.id) state.1
          (links.filterMap (containment graph))).map fun pair =>
            newCluster graph pair.1 pair.2 := by
    intro links
    induction links with
    | nil => exact fun state => (List.append_nil state.2).symm
    | cons link links ih =>
        intro state
        rw [List.foldl_cons, ih, clusterLink_eq]
        cases hpair : containment graph link with
        | none => rw [List.filterMap_cons_none hpair]
        | some pair =>
            obtain ⟨group, target⟩ := pair
            rw [List.filterMap_cons_some hpair, Dict.firsts]
            dsimp only
            by_cases hmem : target.id ∈ state.1
            · rw [if_pos hmem, if_pos hmem]
            · rw [if_neg hmem, if_neg hmem, List.map_cons, List.append_assoc,
                List.singleton_append]
  exact hfold graph.links ([], [])

theorem members_newCluster {group target : NetworkExposureNode} (h : Contains graph group target) :
    (newCluster graph group target).members = [target] := by
  obtain ⟨link, _, _, _, htarget⟩ := h
  unfold newCluster
  dsimp only
  rw [List.filterMap_cons, (nodeOfKind_spec htarget).2.2.2]
  rfl

/-- A cluster is the one of a target and a group that contains it. -/
theorem cluster_of_mem {cluster : GraphCluster} (h : cluster ∈ buildGroupClusters graph) :
    ∃ group target, Contains graph group target ∧ cluster = newCluster graph group target ∧
      cluster.members = [target] := by
  rw [buildGroupClusters_eq] at h
  obtain ⟨⟨group, target⟩, hpair, rfl⟩ := List.mem_map.mp h
  have hcontains := mem_containments.mp (Dict.mem_of_mem_firsts _ hpair)
  exact ⟨group, target, hcontains, rfl, members_newCluster hcontains⟩

theorem target_eq_of_id {group group' target target' : NetworkExposureNode}
    (h : Contains graph group target) (h' : Contains graph group' target')
    (hid : target.id = target'.id) : target = target' := by
  obtain ⟨_, _, _, _, htarget⟩ := h
  obtain ⟨_, _, _, _, htarget'⟩ := h'
  have hget := (nodeOfKind_spec htarget).2.2.2
  rw [hid, (nodeOfKind_spec htarget').2.2.2] at hget
  exact (Option.some.inj hget).symm

theorem exists_cluster {group target : NetworkExposureNode} (h : Contains graph group target) :
    ∃ cluster, (buildGroupClusters graph).filter (fun cluster => target ∈ cluster.members) =
      [cluster] := by
  obtain ⟨_, hpairwise⟩ := Dict.firsts_pairwise
    (fun pair : NetworkExposureNode × NetworkExposureNode => pair.2.id) (containments graph) []
  have hkey : target.id ∈ (Dict.firsts
      (fun pair : NetworkExposureNode × NetworkExposureNode => pair.2.id) []
        (containments graph)).map fun pair => pair.2.id :=
    (Dict.mem_keys_firsts _).mpr
      ⟨List.mem_map_of_mem (mem_containments.mpr h), List.not_mem_nil⟩
  obtain ⟨⟨first, found⟩, hpair, hid⟩ := List.mem_map.mp hkey
  have hcontains := mem_containments.mp (Dict.mem_of_mem_firsts _ hpair)
  have hsame : found = target := target_eq_of_id hcontains h hid
  subst hsame
  refine ⟨newCluster graph first found, ?_⟩
  have hnodup : (buildGroupClusters graph).Nodup := by
    rw [buildGroupClusters_eq]
    apply List.Pairwise.map (R := fun pair pair' => pair.2.id ≠ pair'.2.id) _ _ hpairwise
    intro pair pair' hne heq
    exact hne (List.cons.inj (congrArg GraphCluster.memberIds heq)).1
  apply filter_eq_singleton hnodup
  · rw [buildGroupClusters_eq]
    exact List.mem_map_of_mem hpair
  · rw [members_newCluster hcontains]
    exact decide_eq_true List.mem_cons_self
  · -- the members of a cluster tell its target, and the target tells the link
    intro cluster hcluster hmem
    rw [buildGroupClusters_eq] at hcluster
    obtain ⟨⟨group', target'⟩, hpair', rfl⟩ := List.mem_map.mp hcluster
    have hcontains' := mem_containments.mp (Dict.mem_of_mem_firsts _ hpair')
    have hmem := of_decide_eq_true hmem
    rw [members_newCluster hcontains', List.mem_singleton] at hmem
    have hsame := List.inj_on_of_nodup_map (List.pairwise_map.mpr hpairwise) hpair' hpair
      (congrArg NetworkExposureNode.id hmem.symm)
    rw [hsame]

theorem exists_cluster_mem {group target : NetworkExposureNode} (h : Contains graph group target) :
    ∃ cluster ∈ buildGroupClusters graph, target ∈ cluster.members := by
  obtain ⟨cluster, hcluster⟩ := exists_cluster h
  have hmem : cluster ∈ (buildGroupClusters graph).filter fun cluster =>
      target ∈ cluster.members := by
    rw [hcluster]
    exact List.mem_cons_self
  obtain ⟨hcluster, htarget⟩ := List.mem_filter.mp hmem
  exact ⟨cluster, hcluster, of_decide_eq_true htarget⟩

end

/-! ## 3. Faithful clusters -/

/-- Each target has one containing group. -/
def OneGroup (graph : NetworkExposureGraph) : Prop :=
  ∀ target ∈ graph.nodes, target.kind = .target → ∃ group ∈ graph.nodes,
    Contains graph group target ∧ ∀ other ∈ graph.nodes, Contains graph other target → other = group

/-- Every target is drawn in one cluster, and two clusters have one name if and only if their
targets belong to one group. -/
structure FaithfulClusters (graph : NetworkExposureGraph) : Prop where
  once : ∀ target ∈ graph.nodes, target.kind = .target → ∃ cluster,
    (buildGroupClusters graph).filter (fun cluster => target ∈ cluster.members) = [cluster]
  sameName : ∀ cluster ∈ buildGroupClusters graph, ∀ cluster' ∈ buildGroupClusters graph,
    ∀ target ∈ cluster.members, ∀ target' ∈ cluster'.members,
      (cluster.id = cluster'.id ↔
        ∃ group ∈ graph.nodes, Contains graph group target ∧ Contains graph group target')

/-- No two groups that contain targets have ids that are alike. -/
def GroupsApart (graph : NetworkExposureGraph) : Prop :=
  ∀ group ∈ graph.nodes, ∀ group' ∈ graph.nodes,
    (∃ target ∈ graph.nodes, Contains graph group target) →
      (∃ target ∈ graph.nodes, Contains graph group' target) →
        AlikeIds group.id group'.id → group = group'

instance : DecidablePred OneGroup := fun _ => inferInstanceAs (Decidable (∀ _ ∈ _, _))

instance : DecidablePred GroupsApart := fun _ => inferInstanceAs (Decidable (∀ _ ∈ _, _))

section

variable {graph : NetworkExposureGraph}

theorem mem_of_contains {group target : NetworkExposureNode} (h : Contains graph group target) :
    group ∈ graph.nodes ∧ target ∈ graph.nodes ∧ target.kind = .target := by
  obtain ⟨_, _, _, hgroup, htarget⟩ := h
  obtain ⟨hmem, _, hkind, _⟩ := nodeOfKind_spec htarget
  exact ⟨(nodeOfKind_spec hgroup).1, hmem, hkind⟩

theorem OneGroup.group_eq (h : OneGroup graph) {group group' target : NetworkExposureNode}
    (hgroup : Contains graph group target) (hgroup' : Contains graph group' target) :
    group = group' := by
  obtain ⟨hmem, htarget, hkind⟩ := mem_of_contains hgroup
  obtain ⟨_, _, _, hunique⟩ := h target htarget hkind
  rw [hunique group hmem hgroup, hunique group' (mem_of_contains hgroup').1 hgroup']

/-- The cluster of a target has the name of its group. -/
theorem id_newCluster_eq_iff (group group' target target' : NetworkExposureNode) :
    (newCluster graph group target).id = (newCluster graph group' target').id ↔
      AlikeIds group.id group'.id := by
  show js "cluster_" ++ clusterIdSuffix group.id = js "cluster_" ++ clusterIdSuffix group'.id ↔ _
  rw [List.append_cancel_left_eq, clusterIdSuffix_eq_iff]

theorem sameName_of_apart (h : OneGroup graph) (hapart : GroupsApart graph)
    {cluster cluster' : GraphCluster} (hcluster : cluster ∈ buildGroupClusters graph)
    (hcluster' : cluster' ∈ buildGroupClusters graph) {target target' : NetworkExposureNode}
    (htarget : target ∈ cluster.members) (htarget' : target' ∈ cluster'.members) :
    cluster.id = cluster'.id ↔
      ∃ group ∈ graph.nodes, Contains graph group target ∧ Contains graph group target' := by
  obtain ⟨group, found, hgroup, rfl, hmembers⟩ := cluster_of_mem hcluster
  obtain ⟨group', found', hgroup', rfl, hmembers'⟩ := cluster_of_mem hcluster'
  rw [hmembers, List.mem_singleton] at htarget
  rw [hmembers', List.mem_singleton] at htarget'
  subst htarget htarget'
  obtain ⟨hmem, htarget, _⟩ := mem_of_contains hgroup
  obtain ⟨hmem', htarget', _⟩ := mem_of_contains hgroup'
  rw [id_newCluster_eq_iff]
  constructor
  · intro halike
    have hsame := hapart group hmem group' hmem' ⟨_, htarget, hgroup⟩ ⟨_, htarget', hgroup'⟩ halike
    exact ⟨group, hmem, hgroup, hsame ▸ hgroup'⟩
  · rintro ⟨other, _, hother, hother'⟩
    rw [h.group_eq hgroup hother, h.group_eq hgroup' hother']
    exact (clusterIdSuffix_eq_iff _ _).mp rfl

/-- The cluster of a target is drawn under the name of its group. -/
theorem newCluster_mem (h : OneGroup graph) {group target : NetworkExposureNode}
    (hgroup : Contains graph group target) :
    newCluster graph group target ∈ buildGroupClusters graph := by
  obtain ⟨cluster, hcluster, htarget⟩ := exists_cluster_mem hgroup
  obtain ⟨group', found, hgroup', rfl, hmembers⟩ := cluster_of_mem hcluster
  rw [hmembers, List.mem_singleton] at htarget
  subst htarget
  rw [h.group_eq hgroup hgroup']
  exact hcluster

theorem apart_of_sameName (h : OneGroup graph) (hfaithful : FaithfulClusters graph) :
    GroupsApart graph := by
  rintro group _ group' _ ⟨target, _, hgroup⟩ ⟨target', _, hgroup'⟩ halike
  have hsame := (hfaithful.sameName _ (newCluster_mem h hgroup) _ (newCluster_mem h hgroup')
    target (by rw [members_newCluster hgroup]; exact List.mem_cons_self)
    target' (by rw [members_newCluster hgroup']; exact List.mem_cons_self)).mp
      ((id_newCluster_eq_iff _ _ _ _).mpr halike)
  obtain ⟨other, _, hother, hother'⟩ := hsame
  rw [h.group_eq hgroup hother, h.group_eq hgroup' hother']

end

/-- Where each target has one group, the clusters are faithful exactly if no two groups have ids
that differ in separators and in leading units only. -/
theorem faithfulClusters_iff (graph : NetworkExposureGraph) (h : OneGroup graph) :
    FaithfulClusters graph ↔ GroupsApart graph := by
  constructor
  · exact apart_of_sameName h
  · intro hapart
    constructor
    · intro target htarget hkind
      obtain ⟨group, _, hgroup, _⟩ := h target htarget hkind
      exact exists_cluster hgroup
    · intro cluster hcluster cluster' hcluster' target htarget target' htarget'
      exact sameName_of_apart h hapart hcluster hcluster' htarget htarget'

def agentTarget (id : Int) (host : String) : Target where
  id := id
  host := js host
  port := 22
  protocolHint := .ssh
  transport := .tcp
  agentEnabled := true

def agentAsset (id : Int) : AssetListItem where
  id := id
  assetType := js "key"
  name := js "host key"
  targetId := some id
  targetLabel := none
  summary := []
  riskTier := none

def agentGraph (host host' : String) : NetworkExposureGraph :=
  buildNetworkExposureGraph [agentAsset 1, agentAsset 2] [agentTarget 1 host, agentTarget 2 host']

theorem faithfulClusters_iff_agentGraph :
    FaithfulClusters (agentGraph "app-1.local" "app-2.local") :=
  (faithfulClusters_iff (agentGraph "app-1.local" "app-2.local") (by decide +kernel)).mpr
    (by decide +kernel)

/-- The hosts `app-1.local` and `app.1.local` are drawn in clusters of one name. -/
theorem not_faithfulClusters :
    ¬ ∀ graph : NetworkExposureGraph, OneGroup graph → FaithfulClusters graph := by
  intro h
  have hfaithful := h (agentGraph "app-1.local" "app.1.local") (by decide +kernel)
  have hdiffer : ¬ ∀ cluster ∈ buildGroupClusters (agentGraph "app-1.local" "app.1.local"),
      ∀ cluster' ∈ buildGroupClusters (agentGraph "app-1.local" "app.1.local"),
        ∀ target ∈ cluster.members, ∀ target' ∈ cluster'.members, (cluster.id = cluster'.id ↔
          ∃ group ∈ (agentGraph "app-1.local" "app.1.local").nodes,
            Contains (agentGraph "app-1.local" "app.1.local") group target ∧
              Contains (agentGraph "app-1.local" "app.1.local") group target') := by
    decide +kernel
  exact hdiffer hfaithful.sameName

end CryptoScanner.Frontend
