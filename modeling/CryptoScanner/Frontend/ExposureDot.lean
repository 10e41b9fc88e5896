import CryptoScanner.Frontend.ExposureGraph

/-!
# The exposure graph in DOT

`buildNetworkExposureDot` draws the targets of the graph inside clusters, one for each target, that
carry the name of its group: Graphviz merges the clusters of one name.
-/

namespace CryptoScanner.Frontend

open Library JavaScript RiskEngine

/-! ## 1. Escaping -/

def backslash : UInt16 := 0x5c

def quote : UInt16 := 0x22

def lineFeed : UInt16 := 0x0a

def carriageReturn : UInt16 := 0x0d

def underscore : UInt16 := 0x5f

def space : UInt16 := 0x20

def letterN : UInt16 := 0x6e

def dotEscape (value : JsString) : JsString :=
  replaceUnit carriageReturn [] <|
    replaceUnit lineFeed [backslash, letterN] <|
      replaceUnit quote [backslash, quote] <|
        replaceUnit backslash [backslash, backslash] value

def quoteId (id : JsString) : JsString := [quote] ++ dotEscape id ++ [quote]

/-! ## 2. Clusters -/

/-- `[^a-zA-Z0-9_]` is replaced by an underscore. -/
def identifierUnit (c : UInt16) : UInt16 :=
  if isLetterOrDigit c || c = underscore then c else underscore

def clusterIdSuffix (value : JsString) : JsString :=
  let suffix := (value.map identifierUnit).dropWhile (· = underscore)
  if suffix = [] then js "group" else suffix

structure GraphCluster where
  id : JsString
  group : NetworkExposureNode
  memberIds : List JsString
  members : List NetworkExposureNode
  deriving DecidableEq, Repr

section

variable (graph : NetworkExposureGraph)

def nodesById : List (JsString × NetworkExposureNode) :=
  newMap (graph.nodes.map fun node => (node.id, node))

/-- `nodesById.get(id)`, if it is of the kind. -/
def nodeOfKind (kind : NodeKind) (id : JsString) : Option NetworkExposureNode :=
  (Dict.get? (nodesById graph) id).filter fun node => node.kind = kind

/-- The cluster of a target; it is its only member, so the set of members is never empty. -/
def newCluster (group target : NetworkExposureNode) : GraphCluster :=
  let memberIds := [target.id]
  { id := js "cluster_" ++ clusterIdSuffix group.id
    group := group
    memberIds := memberIds
    members := memberIds.filterMap (Dict.get? (nodesById graph)) }

def clusterLink (state : List JsString × List GraphCluster) (link : NetworkExposureLink) :
    List JsString × List GraphCluster :=
  if link.kind ≠ .contains then state
  else
    match nodeOfKind graph .group link.source with
    | none => state
    | some group =>
        match nodeOfKind graph .target link.target with
        | none => state
        | some target =>
            if target.id ∈ state.1 then state
            else (target.id :: state.1, state.2 ++ [newCluster graph group target])

def buildGroupClusters : List GraphCluster := (graph.links.foldl (clusterLink graph) ([], [])).2

def standaloneNodes : List NetworkExposureNode :=
  let clusters := buildGroupClusters graph
  let clusteredNodeIds := clusters.flatMap fun cluster => cluster.members.map NetworkExposureNode.id
  let clusteredGroupIds := clusters.map fun cluster => cluster.group.id
  graph.nodes.filter fun node => node.id ∉ clusteredNodeIds ∧ node.id ∉ clusteredGroupIds

def visibleLinks : List NetworkExposureLink :=
  let clusteredGroupIds := (buildGroupClusters graph).map fun cluster => cluster.group.id
  graph.links.filter fun link =>
    link.kind ≠ .contains ∧ link.source ∉ clusteredGroupIds ∧ link.target ∉ clusteredGroupIds

end

/-! ## 3. Labels -/

def kindLabels : NodeKind → JsString
  | .group => js "수집 영역"
  | .target => js "스캔 대상"
  | .endpoint => js "엔드포인트"
  | .asset => js "암호 자산"
  | .finding => js "위험 발견"

def kindShapes : NodeKind → JsString
  | .group => js "folder"
  | .target => js "box3d"
  | .endpoint => js "component"
  | .asset => js "note"
  | .finding => js "octagon"

structure RiskStyle where
  border : JsString
  fill : JsString
  text : JsString

def riskStyles : Option Tier → RiskStyle
  | some .critical => ⟨js "#c4413a", js "#f9e6e4", js "#6f1f1a"⟩
  | some .high => ⟨js "#d18a3a", js "#fbefd9", js "#754713"⟩
  | some .medium => ⟨js "#b9a23a", js "#f6f0cf", js "#5d5119"⟩
  | some .low => ⟨js "#5d8a5a", js "#e6f1e4", js "#2e542c"⟩
  | none => ⟨js "#9a9a9a", js "#f4f4f4", js "#1a1a1a"⟩

structure EdgeStyle where
  color : JsString
  label : JsString
  style : JsString

def edgeStyles (kind : LinkKind) : EdgeStyle where
  color :=
    match kind with
    | .contains => js "#3f6f78"
    | .exposes => js "#4b8ca8"
    | .presents => js "#6d5a9a"
    | .supports => js "#5d8a5a"
    | .uses => js "#8a8a8a"
    | .hasFinding => js "#c4413a"
  label := relationLabel kind
  style := if kind = .hasFinding then js "dashed" else js "solid"

def truncate (value : JsString) (maxLength : Nat) : JsString :=
  if value.length ≤ maxLength then value else value.take (maxLength - 3) ++ js "..."

/-- The loop of `wrapText`: the lines, and the line that is being filled. -/
def wrapWords (lineLength maxLines : Nat) (lines : List JsString) (current : JsString) :
    List JsString → List JsString × JsString
  | [] => (lines, current)
  | word :: words =>
      let next := if current = [] then word else current ++ js " " ++ word
      if next.length ≤ lineLength then wrapWords lineLength maxLines lines next words
      else
        let lines := if current = [] then lines else lines ++ [current]
        let current := if lineLength < word.length then word.take (lineLength - 3) ++ js "..."
          else word
        if lines.length = maxLines then (lines, current)
        else wrapWords lineLength maxLines lines current words

def wrapText (value : JsString) (lineLength maxLines : Nat) : List JsString :=
  -- the words of the text with its blanks trimmed and made single
  let words := (value.splitOnP isSpace).filter (· ≠ [])
  let wrapped := wrapWords lineLength maxLines [] [] words
  let lines := if wrapped.2 ≠ [] ∧ wrapped.1.length < maxLines then wrapped.1 ++ [wrapped.2]
    else wrapped.1
  if ((js " ").intercalate lines).length < ((js " ").intercalate words).length then
    lines.modifyLast fun line => truncate line lineLength
  else lines

def joinTexts (separator : JsString) (values : List JsString) : JsString :=
  separator.intercalate (values.filter (· ≠ []))

def nodeLabel (node : NetworkExposureNode) : JsString :=
  joinTexts [lineFeed] <|
    wrapText node.label 24 2 ++ wrapText (node.subtitle.getD []) 26 1 ++
      [match node.riskTier with
        | some tier => kindLabels node.kind ++ js " · " ++ riskTierLabel tier
        | none => kindLabels node.kind,
      if node.kind = .finding ∨ 1 < node.assetCount then
        numberText node.assetCount ++ js "개 자산"
      else []]

def compactNodeLabel (node : NetworkExposureNode) : JsString := truncate node.label 18

def clusterLabel (group : NetworkExposureNode) : JsString := truncate group.label 26

def nodeTooltip (node : NetworkExposureNode) : JsString :=
  joinTexts (js " | ") [kindLabels node.kind, node.label, node.subtitle.getD []]

def graphNodeAppUrl (nodeId : JsString) : Option JsString :=
  (encodeURIComponent nodeId).map (js "#graph-node:" ++ ·)

/-! ## 4. Statements -/

def inQuotes (value : JsString) : JsString := [quote] ++ value ++ [quote]

def joinLines : List JsString → JsString
  | [] => []
  | [line] => line
  | line :: next :: lines => line ++ lineFeed :: joinLines (next :: lines)

def indent (value : JsString) (spaces : Nat) : JsString :=
  joinLines ((value.splitOn lineFeed).map (List.replicate spaces space ++ ·))

def nodeText (node : NetworkExposureNode) (compact : Bool) (url : JsString) : JsString :=
  let risk := riskStyles node.riskTier
  let label := dotEscape (if compact then compactNodeLabel node else nodeLabel node)
  let tooltip := dotEscape (nodeTooltip node)
  joinLines
    [js "  " ++ quoteId node.id ++ js " [",
      js "    label=" ++ inQuotes label ++ js ",",
      js "    shape=" ++
        (if compact ∧ node.kind = .target then js "box" else kindShapes node.kind) ++ js ",",
      js "    style=\"filled\",",
      js "    color=" ++ inQuotes risk.border ++ js ",",
      js "    fillcolor=" ++ inQuotes risk.fill ++ js ",",
      js "    fontcolor=" ++ inQuotes risk.text ++ js ",",
      if compact then js "    fontsize=9," else js "    fontsize=10,",
      if compact then js "    margin=\"0.06,0.035\"," else js "    margin=\"0.1,0.06\",",
      if compact then js "    penwidth=1.25," else js "    penwidth=1.8,",
      js "    tooltip=" ++ inQuotes tooltip ++ js ",",
      js "    URL=" ++ inQuotes url ++ js ",",
      js "    target=\"_self\"",
      js "  ];"]

def nodeStatement (node : NetworkExposureNode) (compact : Bool) : Option JsString :=
  (graphNodeAppUrl node.id).map (nodeText node compact)

def edgeStatement (link : NetworkExposureLink) : JsString :=
  let style := edgeStyles link.kind
  joinLines
    [js "  " ++ quoteId link.source ++ js " -> " ++ quoteId link.target ++ js " [",
      js "    label=" ++ inQuotes (dotEscape style.label) ++ js ",",
      js "    color=" ++ inQuotes style.color ++ js ",",
      js "    fontcolor=" ++ inQuotes style.color ++ js ",",
      js "    style=" ++ inQuotes style.style ++ js ",",
      js "    arrowhead=\"vee\",",
      js "    tooltip=" ++ inQuotes (dotEscape style.label),
      js "  ];"]

def clusterText (cluster : GraphCluster) (url : JsString) (members : List JsString) : JsString :=
  let risk := riskStyles cluster.group.riskTier
  let tooltip := joinTexts (js " | ")
    [kindLabels .group, cluster.group.label, cluster.group.subtitle.getD []]
  joinLines <|
    [js "  subgraph " ++ quoteId cluster.id ++ js " \x7b",
      js "    label=" ++ inQuotes (dotEscape (clusterLabel cluster.group)) ++ js ";",
      js "    tooltip=" ++ inQuotes (dotEscape tooltip) ++ js ";",
      js "    URL=" ++ inQuotes url ++ js ";",
      js "    target=\"_self\";",
      js "    labelloc=\"t\";",
      js "    labeljust=\"l\";",
      js "    style=\"rounded,filled\";",
      js "    color=" ++ inQuotes risk.border ++ js ";",
      js "    fillcolor=" ++ inQuotes risk.fill ++ js ";",
      js "    fontcolor=" ++ inQuotes risk.text ++ js ";",
      js "    fontsize=9;",
      js "    penwidth=1.2;",
      js "    margin=3;"] ++ members ++ [js "  \x7d"]

def clusterStatement (cluster : GraphCluster) : Option JsString :=
  (graphNodeAppUrl cluster.group.id).bind fun url =>
    (cluster.members.mapM fun node => (nodeStatement node true).map (indent · 4)).map
      (clusterText cluster url)

def dotHead : List JsString :=
  [js "digraph NetworkExposure \x7b",
    js "  graph [layout=dot, bgcolor=\"transparent\", pad=\"0.12\", rankdir=LR, compound=true, " ++
      js "newrank=true, nodesep=\"0.22\", ranksep=\"0.48\", splines=ortho, outputorder=edgesfirst];",
    js "  node [fontname=\"Inter\", fontsize=10, margin=\"0.1,0.06\"];",
    js "  edge [fontname=\"JetBrains Mono\", fontsize=8, penwidth=1.4, arrowsize=0.6];"]

def dotDocument (clusters : List GraphCluster) (nodes : List NetworkExposureNode)
    (links : List NetworkExposureLink) : Option JsString :=
  (clusters.mapM clusterStatement).bind fun clusters =>
    (nodes.mapM (nodeStatement · false)).map fun nodes =>
      joinLines (dotHead ++ clusters ++ nodes ++ links.map edgeStatement ++ [js "\x7d"])

/-- `buildNetworkExposureDot`, which raises a `URIError` if the URL of an id does. -/
def buildNetworkExposureDot (graph : NetworkExposureGraph) : Option JsString :=
  dotDocument (buildGroupClusters graph) (standaloneNodes graph) (visibleLinks graph)

end CryptoScanner.Frontend
