import CryptoScanner.Frontend.GraphInvariants
import CryptoScanner.Library.Distinct

/-!
# The links of the exposure graph

Every link leads from one layer of the graph to the next: groups, targets, endpoints, assets and
findings.  The asset node tells the only link that leads to it.  Where the targets of all assets are
known, an endpoint tells its target and a target its group, so the layers form a forest.
-/

namespace CryptoScanner.Frontend

open Library JavaScript RiskEngine

/-! ## 1. The ids of links -/

theorem colon_not_mem_text (kind : LinkKind) : colon ∉ kind.text := by
  cases kind <;> decide

theorem LinkKind.text_injective : Function.Injective LinkKind.text := by
  intro kind other h
  cases kind <;> cases other <;> first | rfl | exact absurd h (by decide)

theorem newLink_id (kind : LinkKind) (source target : JsString) :
    (newLink kind source target).id = kind.text ++ colon :: (source ++ colon :: target) := by
  unfold newLink
  rw [show js ":" = [colon] by decide]
  simp only [List.append_assoc, List.cons_append, List.nil_append]

/-- The id of a link tells its kind, and its ends with a colon between them. -/
theorem newLink_id_inj {kind kind' : LinkKind} {source source' target target' : JsString}
    (h : (newLink kind source target).id = (newLink kind' source' target').id) :
    kind = kind' ∧ source ++ colon :: target = source' ++ colon :: target' := by
  rw [newLink_id, newLink_id] at h
  obtain ⟨htext, hends⟩ := append_sep_inj (colon_not_mem_text kind) (colon_not_mem_text kind') h
  exact ⟨LinkKind.text_injective htext, hends⟩

/-- Links to ids of one word and a text without a colon are told by their ids. -/
theorem newLink_inj_target {kind kind' : LinkKind} {source source' word x y : JsString}
    (hx : colon ∉ x) (hy : colon ∉ y)
    (h : (newLink kind source (word ++ colon :: x)).id =
      (newLink kind' source' (word ++ colon :: y)).id) :
    newLink kind source (word ++ colon :: x) = newLink kind' source' (word ++ colon :: y) := by
  obtain ⟨rfl, hends⟩ := newLink_id_inj h
  rw [← List.cons_append, ← List.append_assoc, ← List.cons_append, ← List.append_assoc] at hends
  obtain ⟨hsource, rfl⟩ := append_sep_inj_last hx hy hends
  rw [List.append_cancel_right hsource]

/-- Links from ids of one word and a text without a colon are told by their ids. -/
theorem newLink_inj_source {kind kind' : LinkKind} {target target' word x y : JsString}
    (hx : colon ∉ x) (hy : colon ∉ y)
    (h : (newLink kind (word ++ colon :: x) target).id =
      (newLink kind' (word ++ colon :: y) target').id) :
    newLink kind (word ++ colon :: x) target = newLink kind' (word ++ colon :: y) target' := by
  obtain ⟨rfl, hends⟩ := newLink_id_inj h
  rw [List.append_assoc, List.append_assoc, List.append_cancel_left_eq, List.cons_append,
    List.cons_append, List.cons.injEq] at hends
  obtain ⟨rfl, rfl⟩ := append_sep_inj hx hy hends.2
  rfl

theorem assetNodeId_eq (asset : AssetListItem) :
    assetNodeId asset = js "asset" ++ colon :: numberText asset.id := by
  unfold assetNodeId
  rw [show js "asset:" = js "asset" ++ [colon] by decide, List.append_assoc, List.singleton_append]

theorem assetNodeId_inj {asset other : AssetListItem} (h : assetNodeId asset = assetNodeId other) :
    asset.id = other.id :=
  numberText_injective (List.append_cancel_left h)

theorem relationForAsset_ne (assetType : JsString) : relationForAsset assetType ≠ .contains ∧
    relationForAsset assetType ≠ .exposes ∧ relationForAsset assetType ≠ .hasFinding := by
  unfold relationForAsset
  split
  · decide
  · split <;> decide

/-! ## 2. The links that are added -/

section

variable {targets : List Target} {asset : AssetListItem} {link : NetworkExposureLink}

theorem mem_assetLinks : link ∈ assetLinks targets asset ↔
    link = newLink .contains (groupNodeId targets asset) (targetNodeId targets asset) ∨
      link = newLink .exposes (targetNodeId targets asset) (endpointNodeId targets asset) ∨
      link = newLink (relationForAsset asset.assetType) (endpointNodeId targets asset)
        (assetNodeId asset) ∨
      ∃ tier, asset.riskTier = some tier ∧
        link = newLink .hasFinding (assetNodeId asset) (findingNodeId tier) := by
  unfold assetLinks
  cases asset.riskTier with
  | none => simp
  | some tier => simp

def layerOf : NodeKind → Nat
  | .group => 1
  | .target => 2
  | .endpoint => 3
  | .asset => 4
  | .finding => 5

/-- The ends of a link are nodes that the asset adds as well, in two layers next to each other. -/
theorem assetLinks_ends (h : link ∈ assetLinks targets asset) : ∃ kind kind' source target,
    nodeOf targets asset kind = some source ∧ source.id = link.source ∧
      nodeOf targets asset kind' = some target ∧ target.id = link.target ∧
      layerOf kind' = layerOf kind + 1 := by
  rcases mem_assetLinks.mp h with rfl | rfl | rfl | ⟨tier, htier, rfl⟩
  · exact ⟨.group, .target, _, _, rfl, rfl, rfl, rfl, rfl⟩
  · exact ⟨.target, .endpoint, _, _, rfl, rfl, rfl, rfl, rfl⟩
  · exact ⟨.endpoint, .asset, _, _, rfl, rfl, rfl, rfl, rfl⟩
  · refine ⟨.asset, .finding, _, findingNode tier, rfl, rfl, ?_, rfl, rfl⟩
    show asset.riskTier.map findingNode = some (findingNode tier)
    rw [htier, Option.map_some]

end

/-! ## 3. The links of the graph -/

section

variable {assets : List AssetListItem} {targets : List Target} {asset : AssetListItem}
  {link : NetworkExposureLink}

theorem mem_links (h : link ∈ (buildNetworkExposureGraph assets targets).links) :
    ∃ asset ∈ assets, link ∈ assetLinks targets asset := by
  rw [links_eq] at h
  obtain ⟨entry, hentry, rfl⟩ := List.mem_map.mp h
  exact List.mem_flatMap.mp (mem_linkEntries hentry).2

/-- A link that is added is in the graph unless another one has its id. -/
theorem mem_links_of_unique (hasset : asset ∈ assets) (hlink : link ∈ assetLinks targets asset)
    (hunique : ∀ other ∈ assets, ∀ link' ∈ assetLinks targets other, link'.id = link.id →
      link' = link) : link ∈ (buildNetworkExposureGraph assets targets).links := by
  have hkey : link.id ∈ (linkEntries (assets.flatMap (assetLinks targets))).map Prod.fst :=
    (Dict.mem_keys_accumulate NetworkExposureLink.id (fun link => link) fun link _ => link).mpr
      ⟨link, List.mem_flatMap.mpr ⟨asset, hasset, hlink⟩, rfl⟩
  obtain ⟨entry, hentry, hid⟩ := List.mem_map.mp hkey
  obtain ⟨hentryId, hmem⟩ := mem_linkEntries hentry
  obtain ⟨other, hother, hlink'⟩ := List.mem_flatMap.mp hmem
  rw [← hunique other hother entry.2 hlink' (hentryId.trans hid), links_eq]
  exact List.mem_map_of_mem hentry

variable (assets targets) in
theorem nodup_linkIds :
    ((buildNetworkExposureGraph assets targets).links.map NetworkExposureLink.id).Nodup := by
  have hids : (buildNetworkExposureGraph assets targets).links.map NetworkExposureLink.id =
      (linkEntries (assets.flatMap (assetLinks targets))).map Prod.fst := by
    rw [links_eq, List.map_map]
    apply List.map_congr_left
    intro entry hentry
    exact (mem_linkEntries hentry).1
  rw [hids]
  exact Dict.nodup_keys_accumulate NetworkExposureLink.id (fun link => link) (fun link _ => link) _

theorem links_ends (h : link ∈ (buildNetworkExposureGraph assets targets).links) :
    (∃ node ∈ (buildNetworkExposureGraph assets targets).nodes, node.id = link.source) ∧
      ∃ node ∈ (buildNetworkExposureGraph assets targets).nodes, node.id = link.target := by
  obtain ⟨asset, hasset, hlink⟩ := mem_links h
  obtain ⟨kind, kind', source, target, hsource, hsourceId, htarget, htargetId, _⟩ :=
    assetLinks_ends hlink
  obtain ⟨node, hnode, hid, _⟩ := exists_node hasset hsource
  obtain ⟨node', hnode', hid', _⟩ := exists_node hasset htarget
  exact ⟨⟨node, hnode, hid.trans hsourceId⟩, ⟨node', hnode', hid'.trans htargetId⟩⟩

/-- The link from the endpoint of an asset to its own node is in the graph. -/
theorem assetLink_mem (hasset : asset ∈ assets) :
    newLink (relationForAsset asset.assetType) (endpointNodeId targets asset) (assetNodeId asset) ∈
      (buildNetworkExposureGraph assets targets).links := by
  obtain ⟨hcontains, hexposes, hfinding⟩ := relationForAsset_ne asset.assetType
  -- the id tells the kind, and behind its last colon the asset
  apply mem_links_of_unique hasset (mem_assetLinks.mpr (.inr (.inr (.inl rfl))))
  intro other _ link' hlink' hid
  rcases mem_assetLinks.mp hlink' with rfl | rfl | rfl | ⟨tier, _, rfl⟩
  · exact absurd (newLink_id_inj hid).1.symm hcontains
  · exact absurd (newLink_id_inj hid).1.symm hexposes
  · rw [assetNodeId_eq, assetNodeId_eq] at hid ⊢
    exact newLink_inj_target (colon_not_mem_numberText _) (colon_not_mem_numberText _) hid
  · exact absurd (newLink_id_inj hid).1.symm hfinding

theorem assetLink_of_kindOf (h : link ∈ assetLinks targets asset)
    (hkind : kindOf link.target = some .asset) : link =
      newLink (relationForAsset asset.assetType) (endpointNodeId targets asset)
        (assetNodeId asset) := by
  rcases mem_assetLinks.mp h with rfl | rfl | rfl | ⟨tier, _, rfl⟩
  · cases (kindOf_targetNodeId targets asset).symm.trans hkind
  · cases (kindOf_endpointNodeId targets asset).symm.trans hkind
  · rfl
  · cases (kindOf_finding _).symm.trans hkind

/-- The only link to the node of an asset comes from its endpoint. -/
theorem link_to_asset (hids : (assets.map AssetListItem.id).Nodup) (hasset : asset ∈ assets)
    (hlink : link ∈ (buildNetworkExposureGraph assets targets).links)
    (htarget : link.target = assetNodeId asset) : link =
      newLink (relationForAsset asset.assetType) (endpointNodeId targets asset)
        (assetNodeId asset) := by
  obtain ⟨other, hother, hlink⟩ := mem_links hlink
  have hform := assetLink_of_kindOf hlink (by rw [htarget]; exact kindOf_asset _)
  have hsame : other = asset := by
    rw [hform] at htarget
    exact List.inj_on_of_nodup_map hids hother hasset (assetNodeId_inj htarget)
  rwa [hsame] at hform

theorem incoming_links (hids : (assets.map AssetListItem.id).Nodup) (hasset : asset ∈ assets) :
    (buildNetworkExposureGraph assets targets).links.filter (fun other =>
      other.target = assetNodeId asset) =
        [newLink (relationForAsset asset.assetType) (endpointNodeId targets asset)
          (assetNodeId asset)] := by
  have hnodup := List.Nodup.of_map _ (nodup_linkIds assets targets)
  apply filter_eq_singleton hnodup (assetLink_mem hasset) (decide_eq_true rfl)
  intro link hlink htarget
  exact link_to_asset hids hasset hlink (of_decide_eq_true htarget)

end

/-! ## 4. Layers -/

def idLayer (id : JsString) : Nat := ((kindOf id).map layerOf).getD 0

theorem idLayer_eq {id : JsString} {kind : NodeKind} (h : kindOf id = some kind) :
    idLayer id = layerOf kind := by
  unfold idLayer
  rw [h]
  rfl

theorem linked_layered (assets : List AssetListItem) (targets : List Target) :
    Layered idLayer (Linked (buildNetworkExposureGraph assets targets)) := by
  rintro source target ⟨link, hlink, rfl, rfl⟩
  obtain ⟨asset, _, hlink⟩ := mem_links hlink
  obtain ⟨kind, kind', source, target, hsource, hsourceId, htarget, htargetId, hlayer⟩ :=
    assetLinks_ends hlink
  rw [← hsourceId, ← htargetId, idLayer_eq (nodeOf_spec targets asset hsource).1,
    idLayer_eq (nodeOf_spec targets asset htarget).1, hlayer]

theorem idLayer_asset (asset : AssetListItem) : idLayer (assetNodeId asset) = layerOf .asset :=
  idLayer_eq (kindOf_asset _)

def TargetsLoaded (assets : List AssetListItem) (targets : List Target) : Prop :=
  ∀ asset ∈ assets, targetOf targets asset ≠ none

section

variable {targets : List Target} {asset other : AssetListItem} {target target' : Target}

theorem targetOf_id (h : targetOf targets asset = some target) :
    truthyTargetId asset = some target.id := by
  obtain ⟨id, hid, hget⟩ := Option.bind_eq_some_iff.mp h
  obtain ⟨found, _, hpair⟩ := List.mem_map.mp (mem_of_get?_newMap hget)
  rw [hid]
  cases hpair
  rfl

theorem targetOf_congr (h : targetOf targets asset = some target)
    (h' : targetOf targets other = some target') (hid : target.id = target'.id) :
    targetOf targets asset = targetOf targets other := by
  unfold targetOf
  rw [targetOf_id h, targetOf_id h', hid]

theorem targetNodeId_eq (h : targetOf targets asset = some target) :
    targetNodeId targets asset = js "target" ++ colon :: numberText target.id := by
  unfold targetNodeId
  rw [h]
  show js "target:" ++ numberText target.id = _
  rw [show js "target:" = js "target" ++ [colon] by decide, List.append_assoc,
    List.singleton_append]

theorem endpointNodeId_eq (h : targetOf targets asset = some target) :
    endpointNodeId targets asset = js "endpoint:" ++ (numberText target.id ++ colon ::
      (transportText target.transport ++ colon :: numberText target.port)) := by
  unfold endpointNodeId
  rw [h]
  show js "endpoint:" ++ numberText target.id ++ js ":" ++ transportText target.transport ++
    js ":" ++ numberText target.port = _
  rw [show js ":" = [colon] by decide]
  simp only [List.append_assoc, List.cons_append, List.nil_append]

theorem targetOf_of_targetNodeId (h : targetOf targets asset = some target)
    (h' : targetOf targets other = some target')
    (hid : targetNodeId targets asset = targetNodeId targets other) :
    targetOf targets asset = targetOf targets other := by
  rw [targetNodeId_eq h, targetNodeId_eq h', List.append_cancel_left_eq, List.cons.injEq] at hid
  exact targetOf_congr h h' (numberText_injective hid.2)

/-- The endpoint of a loaded target tells the target. -/
theorem targetOf_of_endpointNodeId (h : targetOf targets asset = some target)
    (h' : targetOf targets other = some target')
    (hid : endpointNodeId targets asset = endpointNodeId targets other) :
    targetOf targets asset = targetOf targets other := by
  rw [endpointNodeId_eq h, endpointNodeId_eq h', List.append_cancel_left_eq] at hid
  exact targetOf_congr h h' (numberText_injective (append_sep_inj (colon_not_mem_numberText _)
    (colon_not_mem_numberText _) hid).1)

theorem targetNodeId_congr (h : targetOf targets asset = some target)
    (hsame : targetOf targets asset = targetOf targets other) :
    targetNodeId targets asset = targetNodeId targets other := by
  rw [targetNodeId_eq h, targetNodeId_eq (hsame ▸ h)]

theorem groupNodeId_congr (h : targetOf targets asset = some target)
    (hsame : targetOf targets asset = targetOf targets other) :
    groupNodeId targets asset = groupNodeId targets other := by
  unfold groupNodeId
  rw [← hsame, h]
  rfl

end

/-- The id of a target's node has no colon after its first word, or it is the label's, as that of
its endpoint. -/
theorem targetNodeId_cases (targets : List Target) (asset : AssetListItem) :
    (∃ word, colon ∉ word ∧ targetNodeId targets asset = js "target" ++ colon :: word) ∨
      ∃ label, targetNodeId targets asset = js "target-label" ++ colon :: label ∧
        endpointNodeId targets asset = js "endpoint:" ++ label := by
  have hword : ∀ rest, js "target:" ++ rest = js "target" ++ colon :: rest := fun _ => rfl
  unfold targetNodeId endpointNodeId
  cases targetOf targets asset with
  | some target =>
      exact .inl ⟨_, colon_not_mem_numberText target.id, hword _⟩
  | none =>
      unfold targetNodeIdFor endpointNodeIdFor
      dsimp only
      cases truthyTargetId asset with
      | some id => exact .inl ⟨_, colon_not_mem_numberText id, hword _⟩
      | none =>
          cases truthy asset.targetLabel with
          | some label => exact .inr ⟨label, rfl, rfl⟩
          | none => exact .inl ⟨js "unmapped", by decide, rfl⟩

theorem exposes_inj {targets : List Target} {asset other : AssetListItem}
    (h : (newLink .exposes (targetNodeId targets asset) (endpointNodeId targets asset)).id =
      (newLink .exposes (targetNodeId targets other) (endpointNodeId targets other)).id) :
    newLink .exposes (targetNodeId targets asset) (endpointNodeId targets asset) =
      newLink .exposes (targetNodeId targets other) (endpointNodeId targets other) := by
  have hfirst : colon ∉ js "target" := by decide
  have hsecond : colon ∉ js "target-label" := by decide
  have hne : js "target" ≠ js "target-label" := by decide
  have hends := (newLink_id_inj h).2
  rcases targetNodeId_cases targets asset with ⟨word, hword, htarget⟩ | ⟨label, htarget, hendpoint⟩
  · rcases targetNodeId_cases targets other with ⟨word', hword', htarget'⟩ | ⟨_, htarget', _⟩
    · rw [htarget, htarget'] at h ⊢
      exact newLink_inj_source hword hword' h
    · rw [htarget, htarget', List.append_assoc, List.append_assoc] at hends
      exact absurd (append_sep_inj hfirst hsecond hends).1 hne
  · rcases targetNodeId_cases targets other with ⟨_, _, htarget'⟩ | ⟨label', htarget', hendpoint'⟩
    · rw [htarget, htarget', List.append_assoc, List.append_assoc] at hends
      exact absurd (append_sep_inj hsecond hfirst hends).1 hne.symm
    · -- both ends have the label, so the labels are of one length
      rw [htarget, htarget', hendpoint, hendpoint'] at hends ⊢
      have hlength := congrArg List.length hends
      simp only [List.length_append, List.length_cons] at hlength
      have hlabels : label.length = label'.length := by omega
      rw [List.append_assoc, List.append_assoc, List.append_cancel_left_eq] at hends
      simp only [List.cons_append, List.cons.injEq, true_and] at hends
      rw [(List.append_inj hends hlabels).1]

def containsId (targets : List Target) (asset : AssetListItem) : JsString :=
  (newLink .contains (groupNodeId targets asset) (targetNodeId targets asset)).id

/-! ## 5. What lies below a node -/

section

variable {assets : List AssetListItem} {targets : List Target} {asset : AssetListItem}

/-- The endpoint of an asset is all that its node is linked from. -/
theorem linked_asset (hids : (assets.map AssetListItem.id).Nodup) (hasset : asset ∈ assets)
    (id : JsString) : Linked (buildNetworkExposureGraph assets targets) id (assetNodeId asset) ↔
      endpointNodeId targets asset = id := by
  constructor
  · rintro ⟨link, hlink, rfl, htarget⟩
    rw [link_to_asset hids hasset hlink htarget]
    rfl
  · rintro rfl
    exact ⟨_, assetLink_mem hasset, rfl, rfl⟩

/-- An endpoint is linked from the targets of the assets that it has. -/
theorem linked_endpoint {id endpoint : JsString} (hkind : kindOf endpoint = some .endpoint)
    (h : Linked (buildNetworkExposureGraph assets targets) id endpoint) :
    ∃ other ∈ assets, targetNodeId targets other = id ∧ endpointNodeId targets other = endpoint := by
  obtain ⟨link, hlink, hsource, hend⟩ := h
  obtain ⟨other, hother, hlink⟩ := mem_links hlink
  rw [← hend] at hkind
  -- only the link of kind `exposes` leads to an endpoint
  rcases mem_assetLinks.mp hlink with rfl | rfl | rfl | ⟨tier, _, rfl⟩
  · cases (kindOf_targetNodeId targets other).symm.trans hkind
  · exact ⟨other, hother, hsource, hend⟩
  · cases (kindOf_asset _).symm.trans hkind
  · cases (kindOf_finding _).symm.trans hkind

/-- A target is linked from the groups of the assets that it has. -/
theorem linked_target {id target : JsString} (hkind : kindOf target = some .target)
    (h : Linked (buildNetworkExposureGraph assets targets) id target) :
    ∃ other ∈ assets, groupNodeId targets other = id ∧ targetNodeId targets other = target := by
  obtain ⟨link, hlink, hsource, hend⟩ := h
  obtain ⟨other, hother, hlink⟩ := mem_links hlink
  rw [← hend] at hkind
  -- only the link of kind `contains` leads to a target
  rcases mem_assetLinks.mp hlink with rfl | rfl | rfl | ⟨tier, _, rfl⟩
  · exact ⟨other, hother, hsource, hend⟩
  · cases (kindOf_endpointNodeId targets other).symm.trans hkind
  · cases (kindOf_asset _).symm.trans hkind
  · cases (kindOf_finding _).symm.trans hkind

/-- The link from the target of an asset to its endpoint is never another one's. -/
theorem exposes_mem (hasset : asset ∈ assets) : Linked (buildNetworkExposureGraph assets targets)
    (targetNodeId targets asset) (endpointNodeId targets asset) := by
  refine ⟨newLink .exposes (targetNodeId targets asset) (endpointNodeId targets asset), ?_,
    rfl, rfl⟩
  apply mem_links_of_unique hasset (mem_assetLinks.mpr (.inr (.inl rfl)))
  intro other _ link' hlink' hid
  rcases mem_assetLinks.mp hlink' with rfl | rfl | rfl | ⟨tier, _, rfl⟩
  · cases (newLink_id_inj hid).1
  · exact exposes_inj hid
  · exact absurd (newLink_id_inj hid).1 (relationForAsset_ne other.assetType).2.1
  · cases (newLink_id_inj hid).1

/-- The link from the group of an asset to its target is there where no other group's has its id. -/
theorem contains_mem (hasset : asset ∈ assets) (hunique : ∀ other ∈ assets,
    containsId targets other = containsId targets asset →
      groupNodeId targets other = groupNodeId targets asset) :
    Linked (buildNetworkExposureGraph assets targets) (groupNodeId targets asset)
      (targetNodeId targets asset) := by
  refine ⟨newLink .contains (groupNodeId targets asset) (targetNodeId targets asset), ?_, rfl, rfl⟩
  apply mem_links_of_unique hasset (mem_assetLinks.mpr (.inl rfl))
  intro other hother link' hlink' hid
  rcases mem_assetLinks.mp hlink' with rfl | rfl | rfl | ⟨tier, _, rfl⟩
  · have hgroup := hunique other hother hid
    have hends := (newLink_id_inj hid).2
    rw [hgroup, List.append_cancel_left_eq, List.cons.injEq] at hends
    rw [hgroup, hends.2]
  · cases (newLink_id_inj hid).1
  · exact absurd (newLink_id_inj hid).1 (relationForAsset_ne other.assetType).1
  · cases (newLink_id_inj hid).1

theorem transGen_endpoint (hids : (assets.map AssetListItem.id).Nodup) (hasset : asset ∈ assets)
    {id : JsString} (hlayer : idLayer id = layerOf .endpoint) :
    Relation.TransGen (Linked (buildNetworkExposureGraph assets targets)) id (assetNodeId asset) ↔
      endpointNodeId targets asset = id := by
  rw [(linked_layered assets targets).transGen_next (by rw [idLayer_asset, hlayer]; rfl),
    linked_asset hids hasset]

/-- Below a target are the assets whose endpoint is one of the target's own. -/
theorem transGen_target (hids : (assets.map AssetListItem.id).Nodup) (hasset : asset ∈ assets)
    {id : JsString} (hlayer : idLayer id = layerOf .target) :
    Relation.TransGen (Linked (buildNetworkExposureGraph assets targets)) id (assetNodeId asset) ↔
      ∃ other ∈ assets, targetNodeId targets other = id ∧
        endpointNodeId targets other = endpointNodeId targets asset := by
  rw [(linked_layered assets targets).transGen_deeper (by rw [idLayer_asset, hlayer]; decide)]
  constructor
  · rintro ⟨endpoint, hstep, hrest⟩
    -- the step ends in the layer of the endpoints, where `transGen_endpoint` takes over
    have hnext : idLayer endpoint = layerOf .endpoint := by
      rw [linked_layered assets targets _ _ hstep, hlayer]
      rfl
    have hendpoint := (transGen_endpoint hids hasset hnext).mp hrest
    rw [← hendpoint] at hstep
    exact linked_endpoint (kindOf_endpointNodeId targets asset) hstep
  · rintro ⟨other, hother, rfl, hendpoint⟩
    refine ⟨endpointNodeId targets other, exposes_mem hother, ?_⟩
    exact (transGen_endpoint hids hasset
      (idLayer_eq (kindOf_endpointNodeId targets other))).mpr hendpoint.symm

/-- What lies below a group leads over the target and over the endpoint of two assets. -/
theorem of_transGen_group (hids : (assets.map AssetListItem.id).Nodup) (hasset : asset ∈ assets)
    {id : JsString} (hlayer : idLayer id = layerOf .group)
    (h : Relation.TransGen (Linked (buildNetworkExposureGraph assets targets)) id
      (assetNodeId asset)) :
    ∃ first ∈ assets, ∃ second ∈ assets, groupNodeId targets first = id ∧
      targetNodeId targets first = targetNodeId targets second ∧
      endpointNodeId targets second = endpointNodeId targets asset := by
  rw [(linked_layered assets targets).transGen_deeper (by rw [idLayer_asset, hlayer]; decide)] at h
  obtain ⟨target, hstep, hrest⟩ := h
  have hnext : idLayer target = layerOf .target := by
    rw [linked_layered assets targets _ _ hstep, hlayer]
    rfl
  obtain ⟨second, hsecond, rfl, hendpoint⟩ := (transGen_target hids hasset hnext).mp hrest
  obtain ⟨first, hfirst, hgroup, htarget⟩ :=
    linked_target (kindOf_targetNodeId targets second) hstep
  exact ⟨first, hfirst, second, hsecond, hgroup, htarget, hendpoint⟩

/-- An asset is below its group where no other group's link has the id of the one to its target. -/
theorem transGen_own_group (hids : (assets.map AssetListItem.id).Nodup) (hasset : asset ∈ assets)
    (hunique : ∀ other ∈ assets, containsId targets other = containsId targets asset →
      groupNodeId targets other = groupNodeId targets asset) :
    Relation.TransGen (Linked (buildNetworkExposureGraph assets targets))
      (groupNodeId targets asset) (assetNodeId asset) := by
  apply Relation.TransGen.head (contains_mem hasset hunique)
  exact (transGen_target hids hasset (idLayer_eq (kindOf_targetNodeId targets asset))).mpr
    ⟨asset, hasset, rfl, rfl⟩

end

/-! ## 6. The graph is well formed -/

section

variable {assets : List AssetListItem} {targets : List Target}

/-- The node of an asset is the only one of its id. -/
theorem incoming_of_node (hids : (assets.map AssetListItem.id).Nodup) {node : NetworkExposureNode}
    (hnode : node ∈ (buildNetworkExposureGraph assets targets).nodes) (hkind : node.kind = .asset) :
    ∃ link, (buildNetworkExposureGraph assets targets).links.filter (fun other =>
        other.target = node.id) = [link] ∧
      ∃ endpoint ∈ (buildNetworkExposureGraph assets targets).nodes,
        endpoint.kind = .endpoint ∧ endpoint.id = link.source := by
  obtain ⟨_, ⟨asset, hasset, hcounted⟩, _⟩ := node_spec hnode
  have hid : assetNodeId asset = node.id := by
    unfold CountedBy at hcounted
    rw [hkind] at hcounted
    exact Option.some.inj hcounted
  have hadded : nodeOf targets asset .endpoint = some (endpointNode targets asset) := rfl
  obtain ⟨endpoint, hendpoint, hendpointId, hendpointKind⟩ := exists_node hasset hadded
  exact ⟨_, hid ▸ incoming_links hids hasset, endpoint, hendpoint, hendpointKind, hendpointId⟩

variable (assets targets) in
theorem wellFormed_countedBy (hids : (assets.map AssetListItem.id).Nodup) :
    WellFormed assets (buildNetworkExposureGraph assets targets) (CountedBy targets) where
  nodeIds := by
    rw [map_id_nodes]
    exact Dict.nodup_keys_accumulate NewNode.id fresh mergeNode _
  linkIds := nodup_linkIds assets targets
  ends := fun _ hlink => links_ends hlink
  incoming := fun _ hnode hkind => incoming_of_node hids hnode hkind
  counts := fun _ hkind => sum_assetCount assets targets hkind
  tiers := fun _ hnode _ => (node_spec hnode).2.2.2

/-- Two assets share an endpoint, or below a group a target or the id of the link to one. -/
def Shares (targets : List Target) (kind : NodeKind) (asset other : AssetListItem) : Prop :=
  endpointNodeId targets asset = endpointNodeId targets other ∨
    kind = .group ∧ (targetNodeId targets asset = targetNodeId targets other ∨
      containsId targets asset = containsId targets other)

/-- The assets that share what is below the node are counted by it together. -/
def Undivided (assets : List AssetListItem) (targets : List Target) (node : NetworkExposureNode) :
    Prop :=
  ∀ asset ∈ assets, ∀ other ∈ assets, Shares targets node.kind asset other →
    CountedBy targets node asset → CountedBy targets node other

/-- What lies below an undivided node is what it counts. -/
theorem below_iff_countedBy (hids : (assets.map AssetListItem.id).Nodup)
    {node : NetworkExposureNode} (hnode : node ∈ (buildNetworkExposureGraph assets targets).nodes)
    (hkind : node.kind ∈ aggregateKinds) (hwhole : Undivided assets targets node)
    {asset : AssetListItem} (hasset : asset ∈ assets) :
    Below (buildNetworkExposureGraph assets targets) node asset ↔
      CountedBy targets node asset := by
  have hlayer := idLayer_eq (node_spec hnode).1
  unfold Undivided CountedBy at hwhole
  unfold Below CountedBy
  rcases List.mem_cons.mp hkind with hkind | hkind
  · rw [hkind] at hlayer hwhole ⊢
    constructor
    · intro hbelow
      obtain ⟨first, hfirst, second, hsecond, hgroup, htarget, hendpoint⟩ :=
        of_transGen_group hids hasset hlayer hbelow
      apply hwhole second hsecond asset hasset (.inl hendpoint)
      exact hwhole first hfirst second hsecond (.inr ⟨rfl, .inl htarget⟩) (congrArg some hgroup)
    · intro hcounted
      have hgroup : groupNodeId targets asset = node.id := Option.some.inj hcounted
      rw [← hgroup]
      apply transGen_own_group hids hasset
      intro other hother hid
      rw [hgroup]
      exact Option.some.inj (hwhole asset hasset other hother (.inr ⟨rfl, .inr hid.symm⟩) hcounted)
  rcases List.mem_cons.mp hkind with hkind | hkind
  · rw [hkind] at hlayer hwhole ⊢
    rw [transGen_target hids hasset hlayer]
    constructor
    · intro hbelow
      obtain ⟨other, hother, htarget, hendpoint⟩ := hbelow
      exact hwhole other hother asset hasset (.inl hendpoint) (congrArg some htarget)
    · intro hcounted
      exact ⟨asset, hasset, Option.some.inj hcounted, rfl⟩
  · rw [List.mem_singleton.mp hkind] at hlayer ⊢
    rw [transGen_endpoint hids hasset hlayer]
    exact Option.some_inj.symm

theorem undivided_endpoint {node : NetworkExposureNode} (hkind : node.kind = .endpoint) :
    Undivided assets targets node := by
  intro asset _ other _ hshares hcounted
  unfold Shares CountedBy at *
  rw [hkind] at hshares hcounted ⊢
  rcases hshares with hendpoint | ⟨hgroup, _⟩
  · exact (congrArg some hendpoint).symm.trans hcounted
  · cases hgroup

/-- A loaded target is told by its endpoints and its node, and tells its group. -/
theorem undivided_of_loaded (hloaded : TargetsLoaded assets targets) {node : NetworkExposureNode}
    (hkind : node.kind ∈ aggregateKinds) : Undivided assets targets node := by
  intro asset hasset other hother hshares hcounted
  obtain ⟨target, htarget⟩ := Option.ne_none_iff_exists'.mp (hloaded asset hasset)
  obtain ⟨target', htarget'⟩ := Option.ne_none_iff_exists'.mp (hloaded other hother)
  have hsame : targetOf targets asset = targetOf targets other ∨
      node.kind = .group ∧ containsId targets asset = containsId targets other := by
    rcases hshares with hendpoint | ⟨hgroup, htargets | hlink⟩
    · exact .inl (targetOf_of_endpointNodeId htarget htarget' hendpoint)
    · exact .inl (targetOf_of_targetNodeId htarget htarget' htargets)
    · exact .inr ⟨hgroup, hlink⟩
  unfold CountedBy at hcounted ⊢
  have hlinks : node.kind = .group → containsId targets asset = containsId targets other →
      (nodeOf targets other node.kind).map NewNode.id = some node.id := by
    intro hgroup hlink
    rw [hgroup] at hcounted ⊢
    unfold containsId at hlink
    rw [targetNodeId_eq htarget, targetNodeId_eq htarget'] at hlink
    have hlinks := newLink_inj_target (colon_not_mem_numberText _) (colon_not_mem_numberText _) hlink
    have hsource : groupNodeId targets asset = groupNodeId targets other :=
      congrArg NetworkExposureLink.source hlinks
    exact (congrArg some hsource).symm.trans hcounted
  rcases hsame with hsame | ⟨hgroup, hlink⟩
  · rcases List.mem_cons.mp hkind with hkind | hkind
    · rw [hkind] at hcounted ⊢
      exact (congrArg some (groupNodeId_congr htarget hsame)).symm.trans hcounted
    rcases List.mem_cons.mp hkind with hkind | hkind
    · rw [hkind] at hcounted ⊢
      exact (congrArg some (targetNodeId_congr htarget hsame)).symm.trans hcounted
    · have hendpoint := List.mem_singleton.mp hkind
      exact undivided_endpoint hendpoint asset hasset other hother hshares hcounted
  · exact hlinks hgroup hlink

end

/-- The graph is well formed and conserves the counts.  The tier of a group, a target or an endpoint
is the worst one of the assets that it counts; they are those below it where no other asset shares an
endpoint, a target or a link with one of them: for every endpoint, and for all of them where every
asset's target is loaded. -/
theorem buildNetworkExposureGraph_wellFormed (assets : List AssetListItem) (targets : List Target)
    (hids : (assets.map AssetListItem.id).Nodup) :
    WellFormed assets (buildNetworkExposureGraph assets targets) (CountedBy targets) ∧
      (∀ node ∈ (buildNetworkExposureGraph assets targets).nodes, node.kind ∈ aggregateKinds →
        Undivided assets targets node →
          ∀ asset ∈ assets, Below (buildNetworkExposureGraph assets targets) node asset ↔
            CountedBy targets node asset) ∧
      ∀ node ∈ (buildNetworkExposureGraph assets targets).nodes,
        (node.kind = .endpoint ∨ TargetsLoaded assets targets ∧ node.kind ∈ aggregateKinds) →
          ∀ asset ∈ assets, Below (buildNetworkExposureGraph assets targets) node asset ↔
            CountedBy targets node asset := by
  have hbelow : ∀ node ∈ (buildNetworkExposureGraph assets targets).nodes,
      node.kind ∈ aggregateKinds → Undivided assets targets node →
        ∀ asset ∈ assets, Below (buildNetworkExposureGraph assets targets) node asset ↔
          CountedBy targets node asset :=
    fun _ hnode hkind hwhole _ hasset => below_iff_countedBy hids hnode hkind hwhole hasset
  refine ⟨wellFormed_countedBy assets targets hids, hbelow, ?_⟩
  intro node hnode hcase
  rcases hcase with hkind | ⟨hloaded, hkind⟩
  · exact hbelow node hnode (by rw [hkind]; decide) (undivided_endpoint hkind)
  · exact hbelow node hnode hkind (undivided_of_loaded hloaded hkind)

/-- An asset of a certificate whose target has the id and is known by its label only. -/
def gatewayAsset (id targetId : Int) (tier : Tier) : AssetListItem where
  id := id
  assetType := js "certificate"
  name := js "gateway"
  targetId := some targetId
  targetLabel := some (js "gw.testbed.local:500")
  summary := []
  riskTier := some tier

def gatewayAssets : List AssetListItem := [gatewayAsset 1 7 .low, gatewayAsset 2 8 .critical]

def gatewayTarget (id : Int) (transport : Transport) : Target where
  id := id
  host := js "gw.testbed.local"
  port := 500
  protocolHint := .ike
  transport := transport

def gatewayTargets : List Target := [gatewayTarget 7 .udp, gatewayTarget 8 .tcp]

theorem buildNetworkExposureGraph_wellFormed_gateway :
    WellFormed gatewayAssets (buildNetworkExposureGraph gatewayAssets gatewayTargets)
        (CountedBy gatewayTargets) ∧
      ∀ node ∈ (buildNetworkExposureGraph gatewayAssets gatewayTargets).nodes,
        node.kind ∈ aggregateKinds → ∀ asset ∈ gatewayAssets,
          Below (buildNetworkExposureGraph gatewayAssets gatewayTargets) node asset ↔
            CountedBy gatewayTargets node asset := by
  have hloaded : TargetsLoaded gatewayAssets gatewayTargets := by
    unfold TargetsLoaded
    decide
  obtain ⟨hformed, _, hbelow⟩ :=
    buildNetworkExposureGraph_wellFormed gatewayAssets gatewayTargets (by decide)
  exact ⟨hformed, fun node hnode hkind => hbelow node hnode (.inr ⟨hloaded, hkind⟩)⟩

/-- Two targets that are not loaded share the endpoint of one label, and the first of them keeps its
low tier with the critical asset of the other one below it. -/
theorem not_wellFormed_below : ¬ ∀ (assets : List AssetListItem) (targets : List Target),
    (assets.map AssetListItem.id).Nodup → WellFormed assets
      (buildNetworkExposureGraph assets targets)
      (Below (buildNetworkExposureGraph assets targets)) := by
  intro h
  have htiers := (h gatewayAssets [] (by decide)).tiers
  -- from the first target over the shared endpoint to the second asset
  have hfirst : gatewayAsset 1 7 .low ∈ gatewayAssets := List.mem_cons_self
  have hadded : nodeOf [] (gatewayAsset 1 7 .low) .target =
      some (targetNode [] (gatewayAsset 1 7 .low)) := rfl
  obtain ⟨node, hnode, hid, hkind⟩ := exists_node hfirst hadded
  have htier : ∀ node ∈ (buildNetworkExposureGraph gatewayAssets []).nodes,
      node.id = targetNodeId [] (gatewayAsset 1 7 .low) → node.riskTier = some .low := by
    decide +kernel
  have hexposes : Linked (buildNetworkExposureGraph gatewayAssets []) node.id
      (endpointNodeId [] (gatewayAsset 2 8 .critical)) := by
    rw [hid]
    unfold Linked
    decide +kernel
  have hpresents : Linked (buildNetworkExposureGraph gatewayAssets [])
      (endpointNodeId [] (gatewayAsset 2 8 .critical)) (assetNodeId (gatewayAsset 2 8 .critical)) := by
    unfold Linked
    decide +kernel
  have hbound := (htiers node hnode (hkind ▸ by decide)).bound (gatewayAsset 2 8 .critical)
    (by decide) (.head hexposes (.single hpresents))
  rw [htier node hnode hid] at hbound
  revert hbound
  decide

end CryptoScanner.Frontend
