import PolymarketBot.Editor.NormalizePasses
import PolymarketBot.Flow.UpstreamTrigger

/-! How the engine reads a stored graph. -/

namespace PolymarketBot.Editor
open PolymarketBot.Flow Lib

def trimmedStr (raw : Value) (key : String) : String :=
  (((raw.get key).bind Value.asStr).map trim).getD ""

def parseTradeFlowNode (raw : Value) : Option ConfiguredNode :=
  let key := trimmedStr raw "key"
  let nodeType := trimmedStr raw "type"
  if !raw.isObject || key = "" || nodeType = "" then none
  else some { key, nodeType, config := (raw.get "config").getD (.object []) }

def parseTradeFlowEdge (raw : Value) : Option Flow.TradeFlowEdge :=
  let source := trimmedStr raw "source"
  let target := trimmedStr raw "target"
  if !raw.isObject || source = "" || target = "" then none
  else
    some
      { source, target
        edgeType := orText (trimmedStr raw "type") "default"
        condition := (raw.get "condition").filter Value.isObject }

/-- Anything but an object is an error. -/
def parseTradeFlowGraph (graphJson : Value) : Option TradeFlowGraphRuntime :=
  if graphJson.isObject then
    some
      { context := (graphJson.get "context").getD (.object [])
        nodes := (arrayItems (graphJson.get "nodes")).filterMap parseTradeFlowNode
        edges := (arrayItems (graphJson.get "edges")).filterMap parseTradeFlowEdge }
  else none

/-! ### The editor's graph as the engine has it -/

def TradeFlowNode.engine (node : TradeFlowNode) : ConfiguredNode where
  key := node.key
  nodeType := node.type
  config := .object node.config

def TradeFlowEdge.engine (edge : TradeFlowEdge) : Flow.TradeFlowEdge where
  source := edge.source
  target := edge.target
  edgeType := edge.type
  condition := edge.condition.map Value.object

def TradeFlowGraph.engine (graph : TradeFlowGraph) : TradeFlowGraphRuntime where
  context := .object graph.context
  nodes := graph.nodes.map TradeFlowNode.engine
  edges := graph.edges.map TradeFlowEdge.engine

/-- The engine's trim leaves the text as the editor's trim left it. -/
def Plain (s : String) : Prop := trim s = s

/-- No name of the graph is one that the engine would trim. -/
structure PlainNames (graph : TradeFlowGraph) : Prop where
  nodes : ∀ node ∈ graph.nodes, Plain node.key ∧ Plain node.type
  edges : ∀ edge ∈ graph.edges, Plain edge.source ∧ Plain edge.target ∧ Plain edge.type

theorem parseTradeFlowNode_toJson_iff {node : TradeFlowNode} (h : node.Named) :
    parseTradeFlowNode node.toJson = some node.engine ↔ Plain node.key ∧ Plain node.type := by
  have hkey : trimmedStr node.toJson "key" = trim node.key := rfl
  have htype : trimmedStr node.toJson "type" = trim node.type := rfl
  unfold parseTradeFlowNode Plain
  simp only [hkey, htype]
  constructor
  · intro hread
    split at hread
    · cases hread
    · have hsame := Option.some.inj hread
      exact ⟨congrArg (fun node : ConfiguredNode => node.key) hsame,
        congrArg (fun node : ConfiguredNode => node.nodeType) hsame⟩
  · intro hplain
    rw [hplain.1, hplain.2, if_neg]
    · rfl
    · have hobject : node.toJson.isObject = true := rfl
      simp [hobject, h.keyFilled, h.typeFilled]

theorem parseTradeFlowEdge_toJson_iff {edge : TradeFlowEdge} (h : edge.Named) :
    parseTradeFlowEdge edge.toJson = some edge.engine ↔
      Plain edge.source ∧ Plain edge.target ∧ Plain edge.type := by
  have hsource : trimmedStr edge.toJson "source" = trim edge.source := rfl
  have htarget : trimmedStr edge.toJson "target" = trim edge.target := rfl
  have htype : trimmedStr edge.toJson "type" = trim edge.type := rfl
  have hcondition : (edge.toJson.get "condition").filter Value.isObject =
      edge.condition.map Value.object := by
    change (some ((edge.condition.map Value.object).getD .null)).filter Value.isObject = _
    cases edge.condition <;> rfl
  have hdefault : trim "default" = "default" := by decide +kernel
  unfold parseTradeFlowEdge Plain
  simp only [hsource, htarget, htype, hcondition]
  constructor
  · intro hread
    split at hread
    · cases hread
    · have hsame := Option.some.inj hread
      refine ⟨congrArg (fun edge : Flow.TradeFlowEdge => edge.source) hsame,
        congrArg (fun edge : Flow.TradeFlowEdge => edge.target) hsame, ?_⟩
      have hkind : orText (trim edge.type) "default" = edge.type :=
        congrArg (fun edge : Flow.TradeFlowEdge => edge.edgeType) hsame
      unfold orText at hkind
      split at hkind
      · rename_i hempty
        rw [← hkind, hdefault] at hempty
        exact absurd hempty (by decide)
      · exact hkind
  · intro hplain
    obtain ⟨hplainSource, hplainTarget, hplainType⟩ := hplain
    rw [hplainSource, hplainTarget, hplainType, if_neg]
    · unfold orText
      rw [if_neg h.typeFilled]
      rfl
    · have hobject : edge.toJson.isObject = true := rfl
      simp [hobject, h.sourceFilled, h.targetFilled]

theorem filterMap_map_eq_iff {α β γ : Type} (read : β → Option γ) (write : α → β) (item : α → γ)
    (items : List α) : (items.map write).filterMap read = items.map item ↔
      ∀ a ∈ items, read (write a) = some (item a) := by
  induction items with
  | nil => simp
  | cons a items ih =>
    rw [List.map_cons, List.map_cons, List.filterMap_cons]
    cases hread : read (write a) with
    | none =>
      refine iff_of_false (fun hall => ?_) fun hall => ?_
      · have hle := List.length_filterMap_le read (items.map write)
        simp only at hall
        rw [hall] at hle
        simp at hle
      · have hfirst := hall a (List.mem_cons_self ..)
        rw [hread] at hfirst
        cases hfirst
    | some b =>
      simp only [List.cons.injEq, ih, List.forall_mem_cons, hread, Option.some_inj]

theorem parseTradeFlowGraph_toJson_iff {graph : TradeFlowGraph}
    (hnodes : ∀ node ∈ graph.nodes, node.Named) (hedges : ∀ edge ∈ graph.edges, edge.Named) :
    parseTradeFlowGraph graph.toJson = some graph.engine ↔ PlainNames graph := by
  have hparse : parseTradeFlowGraph graph.toJson = some
      { context := .object graph.context
        nodes := (graph.nodes.map TradeFlowNode.toJson).filterMap parseTradeFlowNode
        edges := (graph.edges.map TradeFlowEdge.toJson).filterMap parseTradeFlowEdge } := rfl
  have hparts : PlainNames graph ↔
      (∀ node ∈ graph.nodes, Plain node.key ∧ Plain node.type) ∧
        ∀ edge ∈ graph.edges, Plain edge.source ∧ Plain edge.target ∧ Plain edge.type :=
    ⟨fun h => ⟨h.nodes, h.edges⟩, fun h => ⟨h.1, h.2⟩⟩
  rw [hparse, hparts, Option.some_inj]
  unfold TradeFlowGraph.engine
  simp only [TradeFlowGraphRuntime.mk.injEq, true_and, filterMap_map_eq_iff]
  refine and_congr (forall₂_congr fun node hnode => ?_) (forall₂_congr fun edge hedge => ?_)
  · exact parseTradeFlowNode_toJson_iff (hnodes node hnode)
  · exact parseTradeFlowEdge_toJson_iff (hedges edge hedge)

/-! ### The trigger upstream, as both sides find it -/

section Upstream
variable {graph : TradeFlowGraph} (hkeys : (graph.nodes.map fun node => node.key).Nodup)
include hkeys

theorem flowNode_engine (key : String) :
    flowNode graph.engine key = (nodeOf graph key).map TradeFlowNode.engine := by
  unfold flowNode nodeOf TradeFlowGraph.engine
  simp only
  generalize graph.nodes = nodes at hkeys
  induction nodes with
  | nil => rfl
  | cons node nodes ih =>
    rw [List.map_cons, List.nodup_cons] at hkeys
    have hrest := ih hkeys.2
    rw [List.map_cons, List.find?_cons, List.reverse_cons, List.find?_append]
    by_cases hkey : node.key = key
    · have hnone : nodes.reverse.find? (fun node => node.key = key) = none := by
        rw [List.find?_eq_none]
        intro other hother
        simp only [List.mem_reverse, decide_eq_true_eq] at hother ⊢
        intro hsame
        exact hkeys.1 (List.mem_map.mpr ⟨other, hother, hsame.trans hkey.symm⟩)
      rw [hnone, Option.none_or]
      simp [TradeFlowNode.engine, hkey]
    · have hother : decide (node.engine.key = key) = false := decide_eq_false hkey
      rw [hother, hrest]
      simp [hkey]

omit hkeys in
theorem incomingByTarget_engine (key : String) :
    Flow.incomingByTarget graph.engine key = incomingByTarget graph key := by
  unfold Flow.incomingByTarget incomingByTarget TradeFlowGraph.engine
  simp only [List.filter_map, List.map_map]
  congr 1

theorem scanSources_engine (hfilled : ∀ node ∈ graph.nodes, node.key ≠ "")
    (sources : List String) (foundKey : Option String) (hfound : foundKey ≠ some "") :
    scanSources graph.engine foundKey sources = visitSources graph
      (fun (foundKey : Option String) sourceNode sourceKey =>
        if sourceNode.type = "trigger.market_price" then
          if foundKey.any fun key => key ≠ "" && key ≠ sourceKey then none
          else some (some sourceKey)
        else some foundKey) sources foundKey := by
  induction sources generalizing foundKey with
  | nil => rfl
  | cons sourceKey sources ih =>
    unfold scanSources visitSources
    rw [flowNode_engine hkeys]
    cases hnode : nodeOf graph sourceKey with
    | none => exact ih foundKey hfound
    | some sourceNode =>
      have hkey : sourceKey ≠ "" := by
        have hmem := List.mem_of_find?_eq_some hnode
        have hsame := List.find?_some hnode
        simp only [decide_eq_true_eq] at hsame
        rw [← hsame]
        exact hfilled sourceNode (List.mem_reverse.mp hmem)
      have hany : (foundKey.any fun key => key ≠ "" && key ≠ sourceKey) =
          foundKey.any (· != sourceKey) := by
        cases foundKey with
        | none => rfl
        | some key =>
          have hne : key ≠ "" := fun hempty => hfound (by rw [hempty])
          simp only [Option.any_some, ne_eq, hne, decide_not]
          rfl
      have htype : sourceNode.engine.nodeType = sourceNode.type := rfl
      simp only [Option.map_some, htype, hany]
      split_ifs with htrigger hsecond
      · rfl
      · simp only [ih (some sourceKey) (by simpa using hkey)]
      · simp only [ih foundKey hfound]

theorem findUniqueUpstreamMarketPriceTrigger_engine
    (hfilled : ∀ node ∈ graph.nodes, node.key ≠ "") (nodeKey : String) :
    findUpstreamMarketPriceTriggerKey nodeKey graph.engine =
      findUniqueUpstreamMarketPriceTrigger nodeKey graph := by
  have hnode : ∀ key, (flowNode graph.engine key).isSome = true → key ≠ "" := by
    intro key hsome
    rw [flowNode_engine hkeys, Option.isSome_map] at hsome
    obtain ⟨node, hnode⟩ := Option.isSome_iff_exists.mp hsome
    have hsame := List.find?_some hnode
    simp only [decide_eq_true_eq] at hsame
    rw [← hsame]
    exact hfilled node (List.mem_reverse.mp (List.mem_of_find?_eq_some hnode))
  unfold findUpstreamMarketPriceTriggerKey findUniqueUpstreamMarketPriceTrigger searchUpstream
  refine congrArg Option.join (Worklist.run_congr (I := fun found => found ≠ some "") ?_ ?_
    [nodeKey] [] none (by simp))
  · intro found current hfound
    change scanSources graph.engine found (Flow.incomingByTarget graph.engine current) = _
    rw [scanSources_engine hkeys hfilled _ found hfound, incomingByTarget_engine]
    rfl
  · intro found current pushed found' hfound hexpand hempty
    have hscan := @scanned graph.engine found (Flow.incomingByTarget graph.engine current)
    rw [show scanSources graph.engine found (Flow.incomingByTarget graph.engine current) = _
      from hexpand] at hscan
    cases Scanned.sound hscan "" hempty with
    | inl hbefore => exact hfound hbefore
    | inr htrigger => exact hnode "" (isMarketPriceTrigger_node htrigger.2) rfl

end Upstream

end PolymarketBot.Editor
