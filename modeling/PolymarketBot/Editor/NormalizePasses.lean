import PolymarketBot.Editor.NormalForm

/-! Normalizing a graph again: a second pass changes it only where the first pass left a stray
sell order, and a third pass never does. -/

namespace PolymarketBot.Editor
open PolymarketBot.Flow Lib

/-! ### Searches in the normalized graph -/

section Searches
variable (graph : TradeFlowGraph)

theorem normalizePresetPlaceOrderNode_cases (node : TradeFlowNode) :
    normalizePresetPlaceOrderNode graph node = node ∨
      node.type = "action.place_order" ∧ ∃ config,
        normalizePresetPlaceOrderNode graph node = { node with config := config } := by
  unfold normalizePresetPlaceOrderNode
  split
  · exact .inl rfl
  · rename_i htype
    exact .inr ⟨not_not.mp htype, _, rfl⟩

theorem normalizePresetPlaceOrderNode_key (node : TradeFlowNode) :
    (normalizePresetPlaceOrderNode graph node).key = node.key := by
  cases normalizePresetPlaceOrderNode_cases graph node with
  | inl hsame => rw [hsame]
  | inr horder =>
    obtain ⟨-, config, hconfig⟩ := horder
    rw [hconfig]

theorem normalizePresetPlaceOrderNode_type (node : TradeFlowNode) :
    (normalizePresetPlaceOrderNode graph node).type = node.type := by
  cases normalizePresetPlaceOrderNode_cases graph node with
  | inl hsame => rw [hsame]
  | inr horder =>
    obtain ⟨-, config, hconfig⟩ := horder
    rw [hconfig]

theorem nodeOf_presets (key : String) : nodeOf (normalizePresetPlaceOrderNodes graph) key =
    (nodeOf graph key).map (normalizePresetPlaceOrderNode graph) := by
  unfold nodeOf normalizePresetPlaceOrderNodes
  rw [← List.map_reverse, List.find?_map]
  simp only [Function.comp_def, normalizePresetPlaceOrderNode_key]

variable {σ : Type} {meet : σ → TradeFlowNode → String → Option σ}
  (hmeet : ∀ found node key, meet found (normalizePresetPlaceOrderNode graph node) key =
    meet found node key)
include hmeet

theorem visitSources_presets (sources : List String) (found : σ) :
    visitSources (normalizePresetPlaceOrderNodes graph) meet sources found =
      visitSources graph meet sources found := by
  induction sources generalizing found with
  | nil => rfl
  | cons sourceKey sources ih =>
    unfold visitSources
    rw [nodeOf_presets]
    cases nodeOf graph sourceKey with
    | none => exact ih found
    | some sourceNode =>
      simp only [Option.map_some, hmeet]
      cases meet found sourceNode sourceKey with
      | none => rfl
      | some found' => simp only [ih]

theorem searchUpstream_presets (nodeKey : String) (found : σ) :
    searchUpstream (normalizePresetPlaceOrderNodes graph) meet nodeKey found =
      searchUpstream graph meet nodeKey found := by
  have hexpansion : upstreamExpansion (normalizePresetPlaceOrderNodes graph) meet =
      upstreamExpansion graph meet := by
    unfold upstreamExpansion
    congr 1
    funext found current
    exact visitSources_presets graph hmeet (incomingByTarget graph current) found
  unfold searchUpstream
  rw [hexpansion]

end Searches

/-! ### The presets once more -/

section Presets
variable (graph : TradeFlowGraph)

theorem resolveUpstreamFixedTriggerMarket_presets (nodeKey : String) :
    resolveUpstreamFixedTriggerMarket nodeKey (normalizePresetPlaceOrderNodes graph) =
      resolveUpstreamFixedTriggerMarket nodeKey graph := by
  have hseed : ∀ node, extractFixedTriggerSeed (normalizePresetPlaceOrderNode graph node) =
      extractFixedTriggerSeed node := by
    intro node
    cases normalizePresetPlaceOrderNode_cases graph node with
    | inl hsame => rw [hsame]
    | inr horder =>
      obtain ⟨htype, config, hconfig⟩ := horder
      rw [hconfig]
      simp [extractFixedTriggerSeed, htype]
  unfold resolveUpstreamFixedTriggerMarket
  rw [searchUpstream_presets graph fun found node key => by rw [hseed]]

theorem hasUpstreamAutoScopeMarketTrigger_presets (nodeKey : String) :
    hasUpstreamAutoScopeMarketTrigger nodeKey (normalizePresetPlaceOrderNodes graph) =
      hasUpstreamAutoScopeMarketTrigger nodeKey graph := by
  have hwanted : ∀ node, isAutoScopeMarketTrigger (normalizePresetPlaceOrderNode graph node) =
      isAutoScopeMarketTrigger node := by
    intro node
    cases normalizePresetPlaceOrderNode_cases graph node with
    | inl hsame => rw [hsame]
    | inr horder =>
      obtain ⟨htype, config, hconfig⟩ := horder
      rw [hconfig]
      simp [isAutoScopeMarketTrigger, htype]
  unfold hasUpstreamAutoScopeMarketTrigger hasUpstream
  rw [searchUpstream_presets graph fun found node key => by rw [hwanted]]

theorem syncPresetMarket_presets (nodeKey : String) (config : Fields) :
    syncPresetMarket (normalizePresetPlaceOrderNodes graph) nodeKey config =
      syncPresetMarket graph nodeKey config := by
  unfold syncPresetMarket
  rw [resolveUpstreamFixedTriggerMarket_presets, hasUpstreamAutoScopeMarketTrigger_presets]

def ownReference (node : TradeFlowNode) : Fields :=
  normalizePlaceOrderPresetRefKey node.key node.config (graph.nodes.map fun node => node.key)

/-- The configuration of an order preset after a pass. -/
def presetConfig (node : TradeFlowNode) : Fields :=
  if isGenericPlaceOrderPresetConfig (ownReference graph node) then
    syncPresetMarket graph node.key (ownReference graph node)
  else ownReference graph node

theorem presetConfig_generic {node : TradeFlowNode}
    (h : isGenericPlaceOrderPresetConfig (ownReference graph node) = true) :
    presetConfig graph node = syncPresetMarket graph node.key (ownReference graph node) := if_pos h

theorem presetConfig_plain {node : TradeFlowNode}
    (h : ¬ isGenericPlaceOrderPresetConfig (ownReference graph node) = true) :
    presetConfig graph node = ownReference graph node := if_neg h

theorem normalizePresetPlaceOrderNode_order {node : TradeFlowNode}
    (htype : node.type = "action.place_order") :
    normalizePresetPlaceOrderNode graph node = { node with config := presetConfig graph node } := by
  unfold normalizePresetPlaceOrderNode presetConfig ownReference
  rw [if_neg (fun hother => hother htype)]

theorem normalizePresetPlaceOrderNode_other {node : TradeFlowNode}
    (htype : node.type ≠ "action.place_order") : normalizePresetPlaceOrderNode graph node = node := by
  unfold normalizePresetPlaceOrderNode
  rw [if_pos htype]

theorem field_presetConfig (node : TradeFlowNode) {key : String} (hkey : key ∉ marketKeys) :
    field key (presetConfig graph node) = field key (ownReference graph node) := by
  unfold presetConfig
  split
  · exact field_syncPresetMarket graph node.key hkey _
  · rfl

theorem refKey_settled_of_same {nodeKey : String} {config config' : Fields}
    {knownNodeKeys : List String}
    (hsettled : normalizePlaceOrderPresetRefKey nodeKey config knownNodeKeys = config)
    (hkind : field "presetKind" config' = field "presetKind" config)
    (href : field "refKey" config' = field "refKey" config) :
    normalizePlaceOrderPresetRefKey nodeKey config' knownNodeKeys = config' := by
  rw [refKey_settled_iff] at hsettled ⊢
  rw [takesOwnKey_congr hkind href, href]
  exact hsettled

theorem presetConfig_refKey (node : TradeFlowNode)
    (hread : normalizePlaceOrderPresetRefKey node.key node.config [] = node.config) :
    normalizePlaceOrderPresetRefKey node.key (presetConfig graph node) [] =
      presetConfig graph node := by
  have hkind := field_presetConfig graph node (by decide : "presetKind" ∉ marketKeys)
  have href := field_presetConfig graph node (by decide : "refKey" ∉ marketKeys)
  unfold ownReference at hkind href
  cases refKey_cases node.key node.config (graph.nodes.map fun node => node.key) with
  | inl hown => exact refKey_settled_iff.mpr fun _ => href.trans hown
  | inr hsame =>
    rw [hsame] at hkind href
    exact refKey_settled_of_same hread hkind href

theorem presetConfig_again (node : TradeFlowNode) :
    presetConfig (normalizePresetPlaceOrderNodes graph)
        { node with config := presetConfig graph node } = presetConfig graph node := by
  have hkeys : ((normalizePresetPlaceOrderNodes graph).nodes.map fun node => node.key) =
      graph.nodes.map fun node => node.key := by
    simp [normalizePresetPlaceOrderNodes, normalizePresetPlaceOrderNode_key]
  have hkind := field_presetConfig graph node (by decide : "presetKind" ∉ marketKeys)
  have href := field_presetConfig graph node (by decide : "refKey" ∉ marketKeys)
  have hsettled : ownReference (normalizePresetPlaceOrderNodes graph)
      { node with config := presetConfig graph node } = presetConfig graph node := by
    unfold ownReference at hkind href ⊢
    rw [hkeys]
    exact refKey_settled_of_same (refKey_again node.key node.config _) hkind href
  by_cases hpreset : isGenericPlaceOrderPresetConfig (ownReference graph node) = true
  · have hagain := hpreset
    rw [← isGenericPlaceOrderPresetConfig_congr hkind href, ← hsettled] at hagain
    rw [presetConfig_generic _ hagain, hsettled, syncPresetMarket_presets,
      presetConfig_generic graph hpreset, syncPresetMarket_again]
  · have hagain := hpreset
    rw [← isGenericPlaceOrderPresetConfig_congr hkind href, ← hsettled] at hagain
    rw [presetConfig_plain _ hagain, hsettled]

theorem normalizePresetPlaceOrderNode_again (node : TradeFlowNode) :
    normalizePresetPlaceOrderNode (normalizePresetPlaceOrderNodes graph)
        (normalizePresetPlaceOrderNode graph node) = normalizePresetPlaceOrderNode graph node := by
  by_cases htype : node.type = "action.place_order"
  · have hpreset : ({ node with config := presetConfig graph node } : TradeFlowNode).type =
        "action.place_order" := htype
    rw [normalizePresetPlaceOrderNode_order graph htype,
      normalizePresetPlaceOrderNode_order _ hpreset, presetConfig_again]
  · rw [normalizePresetPlaceOrderNode_other graph htype, normalizePresetPlaceOrderNode_other _ htype]

theorem normalizePresetPlaceOrderNodes_again :
    normalizePresetPlaceOrderNodes (normalizePresetPlaceOrderNodes graph) =
      normalizePresetPlaceOrderNodes graph := by
  have hnodes : (normalizePresetPlaceOrderNodes graph).nodes.map (normalizePresetPlaceOrderNode
      (normalizePresetPlaceOrderNodes graph)) = (normalizePresetPlaceOrderNodes graph).nodes := by
    rw [show (normalizePresetPlaceOrderNodes graph).nodes =
      graph.nodes.map (normalizePresetPlaceOrderNode graph) from rfl, List.map_map]
    exact List.map_congr_left fun node _ => normalizePresetPlaceOrderNode_again graph node
  generalize normalizePresetPlaceOrderNodes graph = normalized at hnodes ⊢
  unfold normalizePresetPlaceOrderNodes
  rw [hnodes]

end Presets

/-! ### Whole passes -/

section Passes

theorem normalizeNodeConfig_order (nodeKey : String) (config : Fields) :
    normalizeNodeConfig nodeKey "action.place_order" config =
      normalizePlaceOrderPresetRefKey nodeKey config [] := if_pos rfl

theorem normalizeNodeConfig_trigger (nodeKey : String) (config : Fields) :
    normalizeNodeConfig nodeKey "trigger.market_price" config = normalizeTriggerConfig config := by
  unfold normalizeNodeConfig
  rw [if_neg (by decide), if_neg (fun hother => hother rfl)]

theorem normalizeNodeConfig_other {nodeType : String} (horder : nodeType ≠ "action.place_order")
    (htrigger : nodeType ≠ "trigger.market_price") (nodeKey : String) (config : Fields) :
    normalizeNodeConfig nodeKey nodeType config = config := by
  unfold normalizeNodeConfig
  rw [if_neg horder, if_pos htrigger]

/-- The node is read as it stands. -/
def TradeFlowNode.Settled (node : TradeFlowNode) : Prop :=
  normalizeNodeConfig node.key node.type node.config = node.config

/-- A market price trigger with a stray sell order. -/
def strayTrigger (raw : Value) : Bool :=
  (toNode raw).any (fun node => node.type = "trigger.market_price") &&
    straySellOrder (recordOrEmpty (raw.get "config"))

theorem toNode_settled_iff {raw : Value} {node : TradeFlowNode} (h : toNode raw = some node) :
    node.Settled ↔ strayTrigger raw = false := by
  have hconfig := (toNode_some h).2
  have hstray : strayTrigger raw = (decide (node.type = "trigger.market_price") &&
      straySellOrder (recordOrEmpty (raw.get "config"))) := by
    unfold strayTrigger
    rw [h]
    rfl
  unfold TradeFlowNode.Settled
  rw [hstray, hconfig]
  by_cases htrigger : node.type = "trigger.market_price"
  · rw [htrigger, normalizeNodeConfig_trigger, normalizeNodeConfig_trigger,
      normalizeTriggerConfig_again_iff]
    simp
  · refine iff_of_true ?_ (by simp [htrigger])
    by_cases horder : node.type = "action.place_order"
    · rw [horder, normalizeNodeConfig_order, normalizeNodeConfig_order, refKey_again]
    · rw [normalizeNodeConfig_other horder htrigger, normalizeNodeConfig_other horder htrigger]

theorem normalizePresetPlaceOrderNode_settled (graph : TradeFlowGraph) {node : TradeFlowNode}
    (h : node.Settled) : (normalizePresetPlaceOrderNode graph node).Settled := by
  by_cases horder : node.type = "action.place_order"
  · unfold TradeFlowNode.Settled at h ⊢
    rw [normalizePresetPlaceOrderNode_order graph horder]
    simp only [horder, normalizeNodeConfig_order] at h ⊢
    exact presetConfig_refKey graph node h
  · rwa [normalizePresetPlaceOrderNode_other graph horder]

theorem filterMap_toNode_toJson {nodes : List TradeFlowNode}
    (h : ∀ node ∈ nodes, node.Named ∧ node.Settled) :
    (nodes.map TradeFlowNode.toJson).filterMap toNode = nodes := by
  induction nodes with
  | nil => rfl
  | cons node nodes ih =>
    obtain ⟨hnamed, hsettled⟩ := h node (List.mem_cons_self ..)
    have hread : toNode node.toJson = some node := by
      rw [toNode_toJson hnamed, hsettled]
    rw [List.map_cons, List.filterMap_cons, hread]
    exact congrArg (node :: ·) (ih fun node hnode => h node (List.mem_cons_of_mem _ hnode))

theorem filterMap_toEdge_toJson {edges : List TradeFlowEdge} (h : ∀ edge ∈ edges, edge.Named)
    (start : ℕ) : ((edges.map TradeFlowEdge.toJson).zipIdx start).filterMap
      (fun row => toEdge row.1 row.2) = edges := by
  induction edges generalizing start with
  | nil => rfl
  | cons edge edges ih =>
    rw [List.map_cons, List.zipIdx_cons, List.filterMap_cons]
    simp only [toEdge_toJson (h edge (List.mem_cons_self ..))]
    exact congrArg (edge :: ·) (ih (fun edge hedge => h edge (List.mem_cons_of_mem _ hedge)) _)

theorem readGraph_toJson {graph : TradeFlowGraph}
    (hnodes : ∀ node ∈ graph.nodes, node.Named ∧ node.Settled)
    (hedges : ∀ edge ∈ graph.edges, edge.Named) : readGraph graph.toJson = graph := by
  have hreadNodes : (arrayItems (graph.toJson.get "nodes")).filterMap toNode = graph.nodes :=
    filterMap_toNode_toJson hnodes
  have hreadEdges : ((arrayItems (graph.toJson.get "edges")).zipIdx.filterMap fun row =>
      toEdge row.1 row.2) = graph.edges := filterMap_toEdge_toJson hedges 0
  unfold readGraph
  rw [hreadNodes, hreadEdges]
  rfl

variable (graphJson : Value)

theorem normalizeTradeFlowGraph_eq :
    normalizeTradeFlowGraph graphJson = normalizePresetPlaceOrderNodes (readGraph graphJson) := by
  unfold normalizeTradeFlowGraph
  split
  · rfl
  · rename_i hobject
    have hnone := Value.get_of_not_object (Bool.not_eq_true _ ▸ hobject)
    simp [readGraph, hnone, arrayItems, recordOrEmpty, Value.fields, normalizePresetPlaceOrderNodes]

theorem mem_normalized_nodes {node : TradeFlowNode}
    (h : node ∈ (normalizeTradeFlowGraph graphJson).nodes) :
    ∃ raw ∈ arrayItems (graphJson.get "nodes"), ∃ read, toNode raw = some read ∧
      normalizePresetPlaceOrderNode (readGraph graphJson) read = node := by
  rw [normalizeTradeFlowGraph_eq] at h
  obtain ⟨read, hread, hnode⟩ := List.mem_map.mp h
  obtain ⟨raw, hraw, hsome⟩ := List.mem_filterMap.mp hread
  exact ⟨raw, hraw, read, hsome, hnode⟩

theorem mem_normalized_edges {edge : TradeFlowEdge}
    (h : edge ∈ (normalizeTradeFlowGraph graphJson).edges) : edge.Named := by
  rw [normalizeTradeFlowGraph_eq] at h
  obtain ⟨row, -, hedge⟩ := List.mem_filterMap.mp h
  exact toEdge_named hedge

theorem normalized_node_named {node : TradeFlowNode}
    (h : node ∈ (normalizeTradeFlowGraph graphJson).nodes) : node.Named := by
  obtain ⟨raw, -, read, hread, hnode⟩ := mem_normalized_nodes graphJson h
  have hnamed := (toNode_some hread).1
  rw [← hnode]
  exact ⟨by rw [normalizePresetPlaceOrderNode_key]; exact hnamed.key,
    by rw [normalizePresetPlaceOrderNode_key]; exact hnamed.keyFilled,
    by rw [normalizePresetPlaceOrderNode_type]; exact hnamed.type,
    by rw [normalizePresetPlaceOrderNode_type]; exact hnamed.typeFilled⟩

theorem normalized_trigger {node : TradeFlowNode}
    (h : node ∈ (normalizeTradeFlowGraph graphJson).nodes)
    (htype : node.type = "trigger.market_price") :
    ∃ raw ∈ arrayItems (graphJson.get "nodes"), toNode raw = some node := by
  obtain ⟨raw, hraw, read, hread, hnode⟩ := mem_normalized_nodes graphJson h
  have hread' : read.type = "trigger.market_price" := by
    rw [← normalizePresetPlaceOrderNode_type (readGraph graphJson) read, hnode, htype]
  rw [normalizePresetPlaceOrderNode_other _ (by rw [hread']; decide)] at hnode
  exact ⟨raw, hraw, hnode ▸ hread⟩

theorem strayTrigger_normalized {raw : Value}
    (h : raw ∈ arrayItems ((normalizeTradeFlowGraph graphJson).toJson.get "nodes")) :
    strayTrigger raw = false := by
  obtain ⟨node, hnode, rfl⟩ := List.mem_map.mp
    (show raw ∈ (normalizeTradeFlowGraph graphJson).nodes.map TradeFlowNode.toJson from h)
  unfold strayTrigger
  rw [toNode_toJson (normalized_node_named graphJson hnode)]
  by_cases htrigger : node.type = "trigger.market_price"
  · obtain ⟨raw, -, hraw⟩ := normalized_trigger graphJson hnode htrigger
    have hconfig := (toNode_some hraw).2
    rw [htrigger, normalizeNodeConfig_trigger] at hconfig
    have hstray : straySellOrder (recordOrEmpty (node.toJson.get "config")) = false := by
      change straySellOrder node.config = false
      rw [hconfig]
      exact straySellOrder_normalizeTriggerConfig _
    rw [hstray, Bool.and_false]
  · simp [htrigger]

theorem normalize_again_of_settled
    (h : ∀ raw ∈ arrayItems (graphJson.get "nodes"), strayTrigger raw = false) :
    normalizeTradeFlowGraph (normalizeTradeFlowGraph graphJson).toJson =
      normalizeTradeFlowGraph graphJson := by
  have hnodes : ∀ node ∈ (normalizeTradeFlowGraph graphJson).nodes, node.Named ∧ node.Settled := by
    intro node hnode
    refine ⟨normalized_node_named graphJson hnode, ?_⟩
    obtain ⟨raw, hraw, read, hread, rfl⟩ := mem_normalized_nodes graphJson hnode
    exact normalizePresetPlaceOrderNode_settled _ ((toNode_settled_iff hread).mpr (h raw hraw))
  rw [normalizeTradeFlowGraph_eq (normalizeTradeFlowGraph graphJson).toJson,
    readGraph_toJson hnodes fun edge => mem_normalized_edges graphJson,
    normalizeTradeFlowGraph_eq, normalizePresetPlaceOrderNodes_again]

theorem not_again_of_stray {raw : Value} (hraw : raw ∈ arrayItems (graphJson.get "nodes"))
    (hstray : strayTrigger raw = true) :
    normalizeTradeFlowGraph (normalizeTradeFlowGraph graphJson).toJson ≠
      normalizeTradeFlowGraph graphJson := by
  intro hagain
  cases hread : toNode raw with
  | none =>
    unfold strayTrigger at hstray
    rw [hread] at hstray
    cases hstray
  | some node =>
    have htype : node.type = "trigger.market_price" := by
      unfold strayTrigger at hstray
      rw [hread] at hstray
      simp only [Option.any_some, Bool.and_eq_true, decide_eq_true_eq] at hstray
      exact hstray.1
    have hnode : node ∈ (normalizeTradeFlowGraph graphJson).nodes := by
      rw [normalizeTradeFlowGraph_eq]
      refine List.mem_map.mpr ⟨node, List.mem_filterMap.mpr ⟨raw, hraw, hread⟩, ?_⟩
      exact normalizePresetPlaceOrderNode_other _ (by rw [htype]; decide)
    rw [← hagain] at hnode
    obtain ⟨again, hmem, hsecond⟩ := normalized_trigger _ hnode htype
    have hsettled := (toNode_settled_iff hsecond).mpr (strayTrigger_normalized graphJson hmem)
    rw [toNode_settled_iff hread, hstray] at hsettled
    cases hsettled

theorem normalize_third : normalizeTradeFlowGraph
    (normalizeTradeFlowGraph (normalizeTradeFlowGraph graphJson).toJson).toJson =
      normalizeTradeFlowGraph (normalizeTradeFlowGraph graphJson).toJson :=
  normalize_again_of_settled _ fun _ hraw => strayTrigger_normalized graphJson hraw

/-- A second pass changes a graph exactly when a trigger has a stray sell order; a third pass
changes nothing. -/
theorem normalizing_settles :
    (normalizeTradeFlowGraph (normalizeTradeFlowGraph graphJson).toJson =
        normalizeTradeFlowGraph graphJson ↔
      ∀ raw ∈ arrayItems (graphJson.get "nodes"), strayTrigger raw = false) ∧
    normalizeTradeFlowGraph
        (normalizeTradeFlowGraph (normalizeTradeFlowGraph graphJson).toJson).toJson =
      normalizeTradeFlowGraph (normalizeTradeFlowGraph graphJson).toJson := by
  refine ⟨⟨fun hagain raw hraw => ?_, normalize_again_of_settled graphJson⟩,
    normalize_third graphJson⟩
  by_contra hstray
  exact not_again_of_stray graphJson hraw (by simpa using hstray) hagain

end Passes

end PolymarketBot.Editor
