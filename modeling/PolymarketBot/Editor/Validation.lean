import PolymarketBot.Editor.Normalize
import PolymarketBot.Lib.Traversal

/-! What the editor refuses and warns of in a graph. The checks of a single node's configuration
are a parameter. -/

namespace PolymarketBot.Editor
open PolymarketBot.Flow Lib Relation

/-! ### Cycles, roots and what the triggers lead to -/

/-- `adjacency.get(key) || []`: the targets of a node's edges, and none for a key of no node. -/
def adjacency (nodes : List TradeFlowNode) (edges : List TradeFlowEdge) (key : String) :
    List String :=
  if nodes.any fun node => node.key = key then
    (edges.filter fun edge => edge.source = key).map fun edge => edge.target
  else []

def detectCycles (nodes : List TradeFlowNode) (edges : List TradeFlowEdge) : Bool :=
  (Traversal.visitAny (Traversal.dfs (adjacency nodes edges) (nodes.length + 1))
    (nodes.map fun node => node.key) {}).1

def collectRootNodeKeys (nodes : List TradeFlowNode) (edges : List TradeFlowEdge) : List String :=
  (nodes.filter fun node => !edges.any fun edge => edge.target = node.key).map fun node => node.key

def isTriggerNode (node : TradeFlowNode) : Bool := startsWith "trigger." node.type

def isActionNode (node : TradeFlowNode) : Bool := startsWith "action." node.type

def isDcaLivePlaceOrderNode (node : TradeFlowNode) : Bool :=
  node.type = "action.place_order" && loweredString (field "mode" node.config) = "dca_live_v1"

/-- The nodes a run can start at: the triggers, and without any the roots of a live ladder. -/
def startKeys (nodes : List TradeFlowNode) (edges : List TradeFlowEdge) : List String :=
  let triggerStarts := (nodes.filter isTriggerNode).map fun node => node.key
  let dcaLiveRootStarts := (nodes.filter fun node =>
    isDcaLivePlaceOrderNode node && node.key ∈ collectRootNodeKeys nodes edges).map
      fun node => node.key
  if 0 < triggerStarts.length then triggerStarts else dcaLiveRootStarts

def collectReachableFromTriggers (nodes : List TradeFlowNode) (edges : List TradeFlowEdge) :
    List String :=
  let queue := startKeys nodes edges
  Traversal.spread (adjacency nodes edges) (edges.length + queue.length) queue queue

/-! ### Issues -/

inductive Severity where
  | error | warning
  deriving DecidableEq

structure TradeFlowValidationIssue where
  severity : Severity
  code : String
  message : String
  nodeKey : Option String := none
  edgeKey : Option String := none

structure TradeFlowValidationResult where
  valid : Bool
  issues : List TradeFlowValidationIssue
  nodes : ℕ
  edges : ℕ
  triggers : ℕ
  actions : ℕ

def supportedNodeTypes : List String :=
  ["trigger.market_price", "trigger.sell_progress", "trigger.open_positions",
    "trigger.position_drawdown", "trigger.time_window", "logic.if", "logic.switch", "logic.delay",
    "logic.retry", "action.resolve_market", "action.place_order", "action.cancel_order",
    "action.update_order", "action.set_state", "action.notify", "action.telegram_notify"]

def contextIssues (graph : TradeFlowGraph) : List TradeFlowValidationIssue :=
  match field "autoClaimEnabled" graph.context with
  | none | some .null => []
  | value =>
    if (toBooleanish value).isNone then
      [{ severity := .error, code := "invalid_auto_claim_enabled"
         message := "Graph context autoClaimEnabled must be boolean (true/false)." }]
    else []

section NodeChecks
variable (validateNodeConfig : TradeFlowNode → TradeFlowGraph → List TradeFlowValidationIssue)

/-- The nodes in turn; one whose key came before is not looked into. -/
def nodeIssues (graph : TradeFlowGraph) :
    List TradeFlowNode → List String → List TradeFlowValidationIssue
  | [], _ => []
  | node :: nodes, nodeKeySet =>
    if node.key ∈ nodeKeySet then
      { severity := .error, code := "duplicate_node_key"
        message := s!"Node key already exists: {node.key}", nodeKey := some node.key } ::
        nodeIssues graph nodes nodeKeySet
    else
      (if node.type ∈ supportedNodeTypes then []
      else
        [{ severity := .warning, code := "unknown_node_type"
           message := s!"Unsupported/unknown node type: {node.type}", nodeKey := some node.key }]) ++
        validateNodeConfig node graph ++ nodeIssues graph nodes (node.key :: nodeKeySet)

def edgeIssues (nodeKeySet : List String) :
    List TradeFlowEdge → List String → List TradeFlowValidationIssue
  | [], _ => []
  | edge :: edges, edgeKeySet =>
    (if edge.key ∈ edgeKeySet then
      [{ severity := .error, code := "duplicate_edge_key"
         message := s!"Edge key already exists: {edge.key}", edgeKey := some edge.key }]
    else []) ++
    (if edge.source ∈ nodeKeySet then []
    else
      [{ severity := .error, code := "edge_source_missing"
         message := s!"Edge source node not found: {edge.source}", edgeKey := some edge.key }]) ++
    (if edge.target ∈ nodeKeySet then []
    else
      [{ severity := .error, code := "edge_target_missing"
         message := s!"Edge target node not found: {edge.target}", edgeKey := some edge.key }]) ++
    edgeIssues nodeKeySet edges (edge.key :: edgeKeySet)

/-- `String(config.mode ?? '').trim().toLowerCase() === 'dca_live_v1'` of an order's node. -/
def isDcaLiveMode (node : TradeFlowNode) : Bool :=
  node.type = "action.place_order" &&
    lowercase (scriptTrim (textOrEmpty (field "mode" node.config))) = "dca_live_v1"

def triggerIssues (graph : TradeFlowGraph) : List TradeFlowValidationIssue :=
  let rootNodeKeys := collectRootNodeKeys graph.nodes graph.edges
  let roots := graph.nodes.filter fun node => node.key ∈ rootNodeKeys
  if 0 < (graph.nodes.filter isTriggerNode).length then []
  else if !roots.any isDcaLiveMode then
    [{ severity := .error, code := "missing_trigger"
       message := "At least one trigger node is required." }]
  else
    let invalidRootNodes := (roots.filter fun node => !isDcaLiveMode node).map fun node => node.key
    if 0 < invalidRootNodes.length then
      [{ severity := .error, code := "missing_trigger_invalid_roots_for_dca_live"
         message := "Trigger yoksa root node'lar sadece action.place_order mode=dca_live_v1 olabilir: "
          ++ ", ".intercalate invalidRootNodes }]
    else []

def actionIssues (graph : TradeFlowGraph) : List TradeFlowValidationIssue :=
  if (graph.nodes.filter isActionNode).length = 0 then
    [{ severity := .error, code := "missing_action"
       message := "At least one action node is required." }]
  else []

def hasOutgoing (graph : TradeFlowGraph) (node : TradeFlowNode) (edgeType : String) : Bool :=
  graph.edges.any fun edge => edge.source = node.key && edge.type = edgeType

def ifIssues (graph : TradeFlowGraph) (node : TradeFlowNode) : List TradeFlowValidationIssue :=
  if node.type = "logic.if" &&
      !(hasOutgoing graph node "on_true" && hasOutgoing graph node "on_false") then
    [{ severity := .warning, code := "if_missing_branch"
       message := s!"If node should include both on_true and on_false branches: {node.key}"
       nodeKey := some node.key }]
  else []

def switchIssues (graph : TradeFlowGraph) (node : TradeFlowNode) : List TradeFlowValidationIssue :=
  if node.type = "logic.switch" && !hasOutgoing graph node "default" then
    [{ severity := .warning, code := "switch_missing_default"
       message := s!"Switch node should include default branch: {node.key}"
       nodeKey := some node.key }]
  else []

def branchIssues (graph : TradeFlowGraph) (node : TradeFlowNode) : List TradeFlowValidationIssue :=
  let defaultOutgoing := graph.edges.filter fun edge =>
    edge.source = node.key && edge.type = "default"
  if node.type = "trigger.market_price" &&
      1 < (arrayItems (field "outcomeConditions" node.config)).length &&
      1 < defaultOutgoing.length then
    (defaultOutgoing.filter fun edge => edge.condition.isNone).map fun edge =>
      { severity := .warning, code := "market_price_branch_condition_missing"
        message := "Multi-outcome trigger.market_price branch should define an edge condition to "
          ++ s!"avoid firing multiple workflow branches: {edge.key}"
        nodeKey := some node.key, edgeKey := some edge.key }
  else []

def cycleIssues (graph : TradeFlowGraph) : List TradeFlowValidationIssue :=
  if 0 < graph.nodes.length && detectCycles graph.nodes graph.edges then
    [{ severity := .error, code := "cycle_detected"
       message := "Graph contains cycle(s). In this version, cyclic flow is not allowed." }]
  else []

def unreachableIssue (node : TradeFlowNode) : TradeFlowValidationIssue :=
  { severity := .warning, code := "unreachable_node"
    message := s!"Node is unreachable from start node(s): {node.key}", nodeKey := some node.key }

def unreachableIssues (graph : TradeFlowGraph) : List TradeFlowValidationIssue :=
  let reachable := collectReachableFromTriggers graph.nodes graph.edges
  (graph.nodes.filter fun node => node.key ∉ reachable).map unreachableIssue

def graphIssues (graph : TradeFlowGraph) : List TradeFlowValidationIssue :=
  contextIssues graph ++ nodeIssues validateNodeConfig graph graph.nodes [] ++
    edgeIssues (graph.nodes.map fun node => node.key) graph.edges [] ++ triggerIssues graph ++
    actionIssues graph ++ graph.nodes.flatMap (ifIssues graph) ++
    graph.nodes.flatMap (switchIssues graph) ++ graph.nodes.flatMap (branchIssues graph) ++
    cycleIssues graph ++ unreachableIssues graph

def isError (issue : TradeFlowValidationIssue) : Bool := issue.severity = .error

def validateTradeFlowGraph (graphJson : Value) : TradeFlowValidationResult :=
  let graph := normalizeTradeFlowGraph graphJson
  let issues := graphIssues validateNodeConfig graph
  { valid := !issues.any isError
    issues := issues
    nodes := graph.nodes.length
    edges := graph.edges.length
    triggers := (graph.nodes.filter isTriggerNode).length
    actions := (graph.nodes.filter isActionNode).length }

/-- With what the user's settings add: they are read for the graph, and add issues only. -/
def validateTradeFlowGraphWithRuntimeConfig
    (settingsIssues : TradeFlowGraph → List TradeFlowValidationIssue) (graphJson : Value) :
    TradeFlowValidationResult :=
  let graph := normalizeTradeFlowGraph graphJson
  let baseValidation := validateTradeFlowGraph validateNodeConfig graph.toJson
  let issues := baseValidation.issues ++ settingsIssues graph
  { baseValidation with valid := !issues.any isError, issues := issues }

end NodeChecks

/-! ### What the searches decide -/

/-- An edge that leaves a node of the graph. -/
def EdgeOf (graph : TradeFlowGraph) (source target : String) : Prop :=
  (∃ node ∈ graph.nodes, node.key = source) ∧
    ∃ edge ∈ graph.edges, edge.source = source ∧ edge.target = target

section Searches
variable (graph : TradeFlowGraph)

theorem leads_adjacency :
    Traversal.Leads (adjacency graph.nodes graph.edges) = EdgeOf graph := by
  funext source target
  simp only [Traversal.Leads, adjacency, EdgeOf, List.any_eq_true, decide_eq_true_eq, eq_iff_iff]
  by_cases hnode : ∃ node ∈ graph.nodes, node.key = source
  · simp [hnode, and_assoc]
  · simp [hnode]

theorem detectCycles_iff :
    detectCycles graph.nodes graph.edges = true ↔ ∃ key, TransGen (EdgeOf graph) key key := by
  have hstarts : ∀ key, key ∉ graph.nodes.map (fun node => node.key) →
      adjacency graph.nodes graph.edges key = [] := by
    intro key hkey
    refine if_neg fun hany => hkey ?_
    obtain ⟨node, hnode, heq⟩ := List.any_eq_true.mp hany
    exact List.mem_map.mpr ⟨node, hnode, by simpa using heq⟩
  rw [← leads_adjacency]
  exact Traversal.visitAny_dfs_iff hstarts (by simp)

theorem mem_collectReachable_iff (key : String) :
    key ∈ collectReachableFromTriggers graph.nodes graph.edges ↔
      ∃ start ∈ startKeys graph.nodes graph.edges, ReflTransGen (EdgeOf graph) start key := by
  have htargets : ∀ source, ∀ target ∈ adjacency graph.nodes graph.edges source,
      target ∈ graph.edges.map fun edge => edge.target := by
    intro source target htarget
    unfold adjacency at htarget
    split at htarget
    · obtain ⟨edge, hedge, heq⟩ := List.mem_map.mp htarget
      exact List.mem_map.mpr ⟨edge, (List.mem_filter.mp hedge).1, heq⟩
    · cases htarget
  rw [← leads_adjacency]
  exact Traversal.mem_spread_iff htargets (by simp) key

end Searches

end PolymarketBot.Editor
