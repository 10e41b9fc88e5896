import CryptoScanner.JavaScript.Text
import CryptoScanner.Models

/-!
# The network exposure graph

`buildNetworkExposureGraph` turns the assets of a snapshot into a graph of groups, targets,
endpoints, assets and risk tiers.  Nodes and links stand in maps under ids that are put together of
texts.  Their sizes on the screen, which are floating-point numbers, are left out.
-/

namespace CryptoScanner.Frontend

open Library JavaScript RiskEngine

/-! ## 1. The graph -/

inductive NodeKind
  | group
  | target
  | endpoint
  | asset
  | finding
  deriving DecidableEq, Repr

inductive LinkKind
  | contains
  | exposes
  | presents
  | supports
  | uses
  | hasFinding
  deriving DecidableEq, Repr

def LinkKind.text : LinkKind → JsString
  | .contains => js "contains"
  | .exposes => js "exposes"
  | .presents => js "presents"
  | .supports => js "supports"
  | .uses => js "uses"
  | .hasFinding => js "has_finding"

structure NetworkExposureNode where
  id : JsString
  kind : NodeKind
  label : JsString
  subtitle : Option JsString
  color : String
  riskTier : Option Tier
  refId : Option Int
  assetCount : Nat
  deriving DecidableEq, Repr

structure NetworkExposureLink where
  id : JsString
  source : JsString
  target : JsString
  kind : LinkKind
  label : JsString
  color : String
  deriving DecidableEq, Repr

structure GraphStats where
  groups : Nat
  targets : Nat
  endpoints : Nat
  assets : Nat
  findings : Nat
  highestRiskTier : Option Tier
  deriving DecidableEq, Repr

structure NetworkExposureGraph where
  nodes : List NetworkExposureNode
  links : List NetworkExposureLink
  stats : GraphStats
  deriving DecidableEq, Repr

def nodeColors : NodeKind → String
  | .group => "#3f6f78"
  | .target => "#4b8ca8"
  | .endpoint => "#6d5a9a"
  | .asset => "#4f6f52"
  | .finding => "#c4413a"

def tierColors : Tier → String
  | .critical => "#c4413a"
  | .high => "#d18a3a"
  | .medium => "#b9a23a"
  | .low => "#5d8a5a"

def linkColors : LinkKind → String
  | .contains => "#3f6f78"
  | .exposes => "#4b8ca8"
  | .presents => "#6d5a9a"
  | .supports => "#5d8a5a"
  | .uses => "#8a8a8a"
  | .hasFinding => "#c4413a"

def riskRank : Tier → Nat
  | .low => 1
  | .medium => 2
  | .high => 3
  | .critical => 4

def mostSevereTier : Option Tier → Option Tier → Option Tier
  | none, right => right
  | some left, none => some left
  | some left, some right => if riskRank left < riskRank right then some right else some left

/-! ## 2. Labels -/

def relationLabel : LinkKind → JsString
  | .contains => js "포함"
  | .exposes => js "노출"
  | .presents => js "제공"
  | .supports => js "지원"
  | .uses => js "사용"
  | .hasFinding => js "위험 발견"

def tierText : Tier → JsString
  | .critical => js "CRITICAL"
  | .high => js "HIGH"
  | .medium => js "MEDIUM"
  | .low => js "LOW"

def riskTierLabel : Tier → JsString
  | .critical => js "치명"
  | .high => js "높음"
  | .medium => js "보통"
  | .low => js "낮음"

def assetTypeLabels : List (JsString × JsString) :=
  [(js "algorithm", js "알고리즘"), (js "certificate", js "인증서"), (js "key", js "키"),
    (js "key_agreement", js "키 합의"), (js "protocol", js "프로토콜"),
    (js "keystore", js "키 저장소"), (js "device", js "장비"), (js "service", js "서비스"),
    (js "data", js "데이터")]

def assetTypeLabel (assetType : JsString) : JsString :=
  if assetType = [] then js "-" else (assetTypeLabels.lookup assetType).getD assetType

/-! ## 3. Assets and targets -/

structure GraphGroup where
  key : JsString
  label : JsString
  subtitle : Option JsString
  deriving DecidableEq, Repr

def transportText : Transport → JsString
  | .tcp => js "TCP"
  | .udp => js "UDP"

def hintText (hint : ProtocolHint) : JsString := js (String.ofList hint.text)

structure Target where
  id : Int
  host : JsString
  displayName : Option JsString := none
  ip : Option JsString := none
  port : Int
  protocolHint : ProtocolHint
  transport : Transport
  agentEnabled : Bool := false
  graphGroup : Option GraphGroup := none
  deriving DecidableEq, Repr

structure AssetListItem where
  id : Int
  assetType : JsString
  name : JsString
  targetId : Option Int
  targetLabel : Option JsString
  summary : List (JsString × Option JsString)
  /-- `asset.risk?.tier` -/
  riskTier : Option Tier
  deriving DecidableEq, Repr

/-- The range of an IPv4 address; any other text stands for itself. -/
def ipv4Range24 (ip : JsString) : JsString :=
  match ip.splitOn 0x2e with
  | [a, b, c, d] =>
      if ∀ part ∈ [a, b, c, d], 1 ≤ part.length ∧ part.length ≤ 3 ∧ part.all isDigit then
        a ++ js "." ++ b ++ js "." ++ c ++ js ".0/24"
      else ip
  | _ => ip

def groupFor (asset : AssetListItem) : Option Target → GraphGroup
  | some target =>
      match target.graphGroup with
      | some group => group
      | none =>
          if target.agentEnabled then
            { key := js "host:" ++ target.host
              label := (truthy target.displayName).getD target.host
              subtitle := some (js "Host Agent") }
          else
            match truthy target.ip with
            | some ip =>
                { key := js "target-scope:" ++ ipv4Range24 ip
                  label := ipv4Range24 ip
                  subtitle := some (js "IP 대역") }
            | none =>
                { key := js "target-scope:" ++ target.host
                  label := target.host
                  subtitle := some (js "스캔 대상 그룹") }
  | none =>
      { key := match truthy asset.targetLabel with
          | some label => js "target-label:" ++ label
          | none => js "unmapped"
        label := asset.targetLabel.getD (js "매핑되지 않은 대상")
        subtitle := some (js "대상 매핑 없음") }

/-- `asset.target_id`, unless it is falsy. -/
def truthyTargetId (asset : AssetListItem) : Option Int := asset.targetId.filter (· ≠ 0)

def targetNodeIdFor (asset : AssetListItem) : Option Target → JsString
  | some target => js "target:" ++ numberText target.id
  | none =>
      match truthyTargetId asset, truthy asset.targetLabel with
      | some id, _ => js "target:" ++ numberText id
      | none, some label => js "target-label:" ++ label
      | none, none => js "target:unmapped"

def endpointNodeIdFor (asset : AssetListItem) : Option Target → JsString
  | some target =>
      js "endpoint:" ++ numberText target.id ++ js ":" ++ transportText target.transport ++ js ":" ++
        numberText target.port
  | none =>
      match truthy asset.targetLabel with
      | some label => js "endpoint:" ++ label
      | none => js "endpoint:unmapped"

def targetLabelFor (asset : AssetListItem) : Option Target → JsString
  | some target => (truthy target.displayName).getD target.host
  | none => asset.targetLabel.getD (js "매핑되지 않은 대상")

def endpointLabelFor (asset : AssetListItem) : Option Target → JsString
  | some target =>
      target.host ++ js ":" ++ numberText target.port ++ js "/" ++ hintText target.protocolHint
  | none => asset.targetLabel.getD (js "매핑되지 않은 엔드포인트")

def summaryString (summary : List (JsString × Option JsString)) (key : JsString) :
    Option JsString :=
  truthy (summary.lookup key).join

def assetSubtitle (asset : AssetListItem) : JsString :=
  let algorithm := summaryString asset.summary (js "algorithm")
  let family := summaryString asset.summary (js "algorithm_family")
  (js " · ").intercalate
    ([some (assetTypeLabel asset.assetType), algorithm, family].filterMap truthy)

def relationForAsset (assetType : JsString) : LinkKind :=
  if assetType ∈ [js "certificate", js "ssh_host_key", js "key"] then .presents
  else if assetType ∈ [js "key_agreement", js "configuration", js "protocol", js "algorithm"] then
    .supports
  else .uses

/-! ## 4. Building the graph -/

/-- What `addNode` is given; every call counts one asset. -/
structure NewNode where
  id : JsString
  kind : NodeKind
  label : JsString
  subtitle : Option JsString
  riskTier : Option Tier
  refId : Option Int := none
  assetCount : Nat := 1
  deriving DecidableEq, Repr

def NewNode.created (node : NewNode) : NetworkExposureNode where
  id := node.id
  kind := node.kind
  label := node.label
  subtitle := node.subtitle
  color := nodeColors node.kind
  riskTier := node.riskTier
  refId := node.refId
  assetCount := node.assetCount

abbrev NodeMap := List (JsString × NetworkExposureNode)

abbrev LinkMap := List (JsString × NetworkExposureLink)

def addNode (nodes : NodeMap) (node : NewNode) : NodeMap :=
  match Dict.get? nodes node.id with
  | some existing => Dict.set node.id
      { existing with
        assetCount := existing.assetCount + node.assetCount
        riskTier := mostSevereTier existing.riskTier node.riskTier } nodes
  | none => Dict.set node.id node.created nodes

def addLink (links : LinkMap) (link : NetworkExposureLink) : LinkMap :=
  Dict.setdefault link.id link links

/-- A link; its id is made of its kind and its ends. -/
def newLink (kind : LinkKind) (source target : JsString) : NetworkExposureLink where
  id := kind.text ++ js ":" ++ source ++ js ":" ++ target
  source := source
  target := target
  kind := kind
  label := relationLabel kind
  color := linkColors kind

section

variable (targets : List Target) (asset : AssetListItem)

/-- `targetsById.get(asset.target_id)` -/
def targetOf : Option Target :=
  (truthyTargetId asset).bind
    (Dict.get? (newMap (targets.map fun target => (target.id, target))))

def groupNodeId : JsString := js "group:" ++ (groupFor asset (targetOf targets asset)).key

def targetNodeId : JsString := targetNodeIdFor asset (targetOf targets asset)

def endpointNodeId : JsString := endpointNodeIdFor asset (targetOf targets asset)

def assetNodeId : JsString := js "asset:" ++ numberText asset.id

def findingNodeId (tier : Tier) : JsString := js "finding:" ++ tierText tier

/-- `target?.id ?? asset.target_id ?? undefined` -/
def targetRef : Option Int := ((targetOf targets asset).map Target.id).or asset.targetId

def groupNode : NewNode where
  id := groupNodeId targets asset
  kind := .group
  label := (groupFor asset (targetOf targets asset)).label
  subtitle := (groupFor asset (targetOf targets asset)).subtitle
  riskTier := asset.riskTier

def targetNode : NewNode where
  id := targetNodeId targets asset
  kind := .target
  label := targetLabelFor asset (targetOf targets asset)
  subtitle := (truthy ((targetOf targets asset).bind Target.ip)).or asset.targetLabel
  riskTier := asset.riskTier
  refId := targetRef targets asset

def endpointNode : NewNode where
  id := endpointNodeId targets asset
  kind := .endpoint
  label := endpointLabelFor asset (targetOf targets asset)
  subtitle := match targetOf targets asset with
    | some target => some (transportText target.transport ++ js " · " ++ hintText target.protocolHint)
    | none => some (js "observed endpoint")
  riskTier := asset.riskTier
  refId := targetRef targets asset

def assetNode : NewNode where
  id := assetNodeId asset
  kind := .asset
  label := asset.name
  subtitle := some (assetSubtitle asset)
  riskTier := asset.riskTier
  refId := some asset.id

def findingNode (tier : Tier) : NewNode where
  id := findingNodeId tier
  kind := .finding
  label := riskTierLabel tier ++ js " 위험"
  subtitle := some (js "위험 등급")
  riskTier := some tier

def nodeOf : NodeKind → Option NewNode
  | .group => some (groupNode targets asset)
  | .target => some (targetNode targets asset)
  | .endpoint => some (endpointNode targets asset)
  | .asset => some (assetNode asset)
  | .finding => asset.riskTier.map findingNode

def assetNodes : List NewNode :=
  [.group, .target, .endpoint, .asset, .finding].filterMap (nodeOf targets asset)

def assetLinks : List NetworkExposureLink :=
  [newLink .contains (groupNodeId targets asset) (targetNodeId targets asset),
    newLink .exposes (targetNodeId targets asset) (endpointNodeId targets asset),
    newLink (relationForAsset asset.assetType) (endpointNodeId targets asset) (assetNodeId asset)] ++
  match asset.riskTier with
  | some tier => [newLink .hasFinding (assetNodeId asset) (findingNodeId tier)]
  | none => []

def addAsset (graph : NodeMap × LinkMap) : NodeMap × LinkMap :=
  ((assetNodes targets asset).foldl addNode graph.1,
    (assetLinks targets asset).foldl addLink graph.2)

end

def withTierColor (node : NetworkExposureNode) : NetworkExposureNode :=
  { node with
    color := match node.riskTier with
      | some tier => tierColors tier
      | none => nodeColors node.kind }

def buildNetworkExposureGraph (assets : List AssetListItem) (targets : List Target) :
    NetworkExposureGraph :=
  let (nodes, links) := assets.foldl (fun graph asset => addAsset targets asset graph) ([], [])
  let graphNodes := nodes.map fun entry => withTierColor entry.2
  let ofKind := fun kind => graphNodes.filter fun node => node.kind = kind
  { nodes := graphNodes
    links := links.map Prod.snd
    stats :=
      { groups := (ofKind .group).length
        targets := (ofKind .target).length
        endpoints := (ofKind .endpoint).length
        assets := assets.length
        findings := (ofKind .finding).foldl (fun sum node => sum + node.assetCount) 0
        highestRiskTier := graphNodes.foldl
          (fun highest node => mostSevereTier highest node.riskTier) none } }

end CryptoScanner.Frontend
