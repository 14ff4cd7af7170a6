import PolymarketBot.Editor.Publish
import PolymarketBot.Editor.Engine
import PolymarketBot.Lib.Runs

/-! What holds of every version that is ever published of a definition. -/

namespace PolymarketBot.Editor
open PolymarketBot.Flow Lib Relation

/-! ### Custom ranges that a pass keeps -/

section Ranges

def TradeFlowNode.snapshot (node : TradeFlowNode) : Option CustomRangeSnapshot :=
  if node.type = "trigger.market_price" then
    extractTriggerMarketPriceCustomRangeSnapshot node.key node.config
  else none

theorem nodeCustomRangeSnapshot_toJson {node : TradeFlowNode} (h : node.Named) :
    nodeCustomRangeSnapshot node.toJson = node.snapshot := by
  have hkey : scriptTrim (toStringValue (node.toJson.get "key")) = node.key := h.key
  have htype : scriptTrim (toStringValue (node.toJson.get "type")) = node.type := h.type
  have hobject : node.toJson.isObject = true := rfl
  have hrecord : isRecord (node.toJson.get "config") = true := rfl
  have hconfig : recordOrEmpty (node.toJson.get "config") = node.config := rfl
  unfold nodeCustomRangeSnapshot TradeFlowNode.snapshot
  simp only [hkey, htype, hobject, hrecord, hconfig]
  by_cases htrigger : node.type = "trigger.market_price"
  · simp [htrigger, h.keyFilled]
  · simp [htrigger]

theorem collectSnapshots_toJson {graph : TradeFlowGraph} (h : ∀ node ∈ graph.nodes, node.Named) :
    collectTriggerMarketPriceCustomRangeSnapshots graph.toJson =
      graph.nodes.filterMap TradeFlowNode.snapshot := by
  change (graph.nodes.map TradeFlowNode.toJson).filterMap nodeCustomRangeSnapshot = _
  rw [List.filterMap_map]
  refine List.filterMap_congr fun node hnode => ?_
  exact nodeCustomRangeSnapshot_toJson (h node hnode)

theorem extractSnapshot_absent {config : Fields} (h : field "cycleWindowMode" config = none)
    (nodeKey : String) : extractTriggerMarketPriceCustomRangeSnapshot nodeKey config = none := by
  unfold extractTriggerMarketPriceCustomRangeSnapshot
  rw [windowMode_absent h, if_pos (by decide)]

theorem extractSnapshot_again (nodeKey : String) (config : Fields) :
    extractTriggerMarketPriceCustomRangeSnapshot nodeKey
        (normalizeTriggerConfig (normalizeTriggerConfig config)) =
      extractTriggerMarketPriceCustomRangeSnapshot nodeKey (normalizeTriggerConfig config) := by
  cases hstray : straySellOrder config with
  | false => rw [(normalizeTriggerConfig_again_iff config).mpr hstray]
  | true =>
    have hmode : field "cycleWindowMode" (normalizeTriggerConfig config) = none :=
      (field_normalizeTriggerConfig (by decide) (by decide) config).trans
        (normalizeCycleWindow_stray hstray).1
    have hagain : field "cycleWindowMode" (normalizeTriggerConfig
        (normalizeTriggerConfig config)) = none := by
      rw [field_normalizeTriggerConfig (by decide) (by decide)]
      unfold normalizeTriggerMarketPriceCycleWindowConfig
      simp only [windowMode_absent hmode]
      rw [if_neg (by decide), if_neg (by decide), field_dropFields]
      rfl
    rw [extractSnapshot_absent hmode, extractSnapshot_absent hagain]

variable (graphJson : Value)

theorem readGraph_nodes {graph : TradeFlowGraph} (h : ∀ node ∈ graph.nodes, node.Named) :
    (readGraph graph.toJson).nodes = graph.nodes.map fun node =>
      { node with config := normalizeNodeConfig node.key node.type node.config } := by
  change (graph.nodes.map TradeFlowNode.toJson).filterMap toNode = _
  rw [filterMap_map_eq_iff]
  exact fun node hnode => toNode_toJson (h node hnode)

theorem collectSnapshots_again :
    collectTriggerMarketPriceCustomRangeSnapshots (normalizeTradeFlowGraph
        (normalizeTradeFlowGraph graphJson).toJson).toJson =
      collectTriggerMarketPriceCustomRangeSnapshots (normalizeTradeFlowGraph graphJson).toJson := by
  have hnamed : ∀ node ∈ (normalizeTradeFlowGraph graphJson).nodes, node.Named :=
    fun node => normalized_node_named graphJson
  rw [collectSnapshots_toJson fun node => normalized_node_named _, collectSnapshots_toJson hnamed,
    normalizeTradeFlowGraph_eq (normalizeTradeFlowGraph graphJson).toJson]
  change ((readGraph (normalizeTradeFlowGraph graphJson).toJson).nodes.map
    (normalizePresetPlaceOrderNode _)).filterMap TradeFlowNode.snapshot = _
  rw [readGraph_nodes hnamed, List.map_map, List.filterMap_map]
  refine List.filterMap_congr fun node hnode => ?_
  simp only [Function.comp_apply]
  by_cases htrigger : node.type = "trigger.market_price"
  · obtain ⟨raw, -, hraw⟩ := normalized_trigger graphJson hnode htrigger
    have hconfig := (toNode_some hraw).2
    rw [htrigger, normalizeNodeConfig_trigger] at hconfig
    rw [normalizePresetPlaceOrderNode_other _ (by simp only [htrigger]; decide)]
    unfold TradeFlowNode.snapshot
    simp only [htrigger, if_true, normalizeNodeConfig_trigger]
    rw [hconfig, extractSnapshot_again]
  · unfold TradeFlowNode.snapshot
    rw [normalizePresetPlaceOrderNode_type, if_neg htrigger, if_neg htrigger]

theorem assertIntegrity_of_same {beforeGraph : Value} {afterGraph : TradeFlowGraph}
    (h : collectTriggerMarketPriceCustomRangeSnapshots afterGraph.toJson =
      collectTriggerMarketPriceCustomRangeSnapshots beforeGraph) :
    assertCustomRangeIntegrityOrThrow beforeGraph afterGraph = .ok () := by
  unfold assertCustomRangeIntegrityOrThrow diffTriggerMarketPriceCustomRangeSnapshots
  rw [h]
  simp

end Ranges

/-! ### Requests in turn -/

/-- Normalizing the stored graph gives the graph. -/
def Normal (graph : TradeFlowGraph) : Prop := normalizeTradeFlowGraph graph.toJson = graph

/-- A graph that was published: it is the graph that was validated. -/
structure Publishable (checks : Checks) (graph : TradeFlowGraph) : Prop where
  normal : Normal graph
  accepted : Accepted graph
  nodes : ∀ node ∈ graph.nodes, FreeOfErrors (checks.validateNodeConfig node graph)
  settings : FreeOfErrors (checks.settingsIssues graph)

/-- What is stored of a definition, however it is saved and published. -/
structure TradeFlowDefinition.Kept (checks : Checks) (definition : TradeFlowDefinition) : Prop where
  draft : ∃ graph, definition.draft = some graph.toJson ∧ Normal graph
  published : ∀ version ∈ definition.published, ∃ graph, version = graph.toJson ∧
    Publishable checks graph

section Requests
variable {checks : Checks} {graph : TradeFlowGraph} {definition : TradeFlowDefinition}

theorem Normal.node_named (h : Normal graph) {node : TradeFlowNode} (hnode : node ∈ graph.nodes) :
    node.Named := by
  rw [← h] at hnode
  exact normalized_node_named _ hnode

theorem Normal.edge_named (h : Normal graph) {edge : TradeFlowEdge} (hedge : edge ∈ graph.edges) :
    edge.Named := by
  rw [← h] at hedge
  exact mem_normalized_edges _ hedge

theorem normal_twice (graphJson : Value) :
    Normal (normalizeTradeFlowGraph (normalizeTradeFlowGraph graphJson).toJson) :=
  normalize_third graphJson

theorem postDefinition_ok (graphJson : Value) :
    postDefinition graphJson = .ok
      { draft := some (normalizeTradeFlowGraph (normalizeTradeFlowGraph graphJson).toJson).toJson } := by
  unfold postDefinition createTradeFlowDefinition
  simp only [assertIntegrity_of_same (collectSnapshots_again graphJson)]
  rfl

theorem validate_normal_iff (h : Normal graph) :
    (validateTradeFlowGraphWithRuntimeConfig checks.validateNodeConfig checks.settingsIssues
      graph.toJson).valid = true ↔ Publishable checks graph := by
  have hissues : (validateTradeFlowGraphWithRuntimeConfig checks.validateNodeConfig
      checks.settingsIssues graph.toJson).valid =
      !(graphIssues checks.validateNodeConfig graph ++ checks.settingsIssues graph).any isError := by
    unfold validateTradeFlowGraphWithRuntimeConfig validateTradeFlowGraph
    simp only [show normalizeTradeFlowGraph graph.toJson = graph from h]
  have hfree : (validateTradeFlowGraphWithRuntimeConfig checks.validateNodeConfig
      checks.settingsIssues graph.toJson).valid = true ↔
      FreeOfErrors (graphIssues checks.validateNodeConfig graph ++ checks.settingsIssues graph) := by
    rw [hissues, Bool.not_eq_true']
    rfl
  rw [hfree, freeOfErrors_append, graphIssues_free_iff]
  exact ⟨fun hall => ⟨h, hall.1.1, hall.1.2, hall.2⟩,
    fun hall => ⟨⟨hall.accepted, hall.nodes⟩, hall.settings⟩⟩

theorem selectSeeds_accepted (h : Accepted graph) :
    ∃ seedNodes, selectTradeFlowSeedNodes graph = .ok seedNodes := by
  unfold selectTradeFlowSeedNodes
  simp only
  by_cases htrigger : 0 < (graph.nodes.filter isTriggerNode).length
  · exact ⟨_, if_pos htrigger⟩
  rw [if_neg htrigger]
  cases h.start with
  | inl hsome =>
    obtain ⟨node, hnode, htype⟩ := hsome
    exact absurd (List.length_pos_of_mem (List.mem_filter.mpr ⟨hnode, htype⟩)) htrigger
  | inr hroots =>
    obtain ⟨⟨node, hnode, hlive⟩, hall⟩ := hroots
    have hinvalid : ¬ 0 < (graph.nodes.filter fun node => node.key ∈ collectRootNodeKeys graph.nodes
        graph.edges && !isDcaLiveMode node).length := by
      intro hpos
      obtain ⟨other, hmem⟩ := List.exists_mem_of_length_pos hpos
      obtain ⟨hother, hboth⟩ := List.mem_filter.mp hmem
      simp only [Bool.and_eq_true, decide_eq_true_eq] at hboth
      have hroot := (mem_roots graph).mp
        (List.mem_filter.mpr ⟨hother, by simpa using hboth.1⟩)
      rw [hall other hroot] at hboth
      exact absurd hboth.2 (by decide)
    have hlives : (graph.nodes.filter fun node => isDcaLiveMode node &&
        node.key ∈ collectRootNodeKeys graph.nodes graph.edges).length ≠ 0 := by
      have hroot := (List.mem_filter.mp ((mem_roots graph).mpr hnode))
      have hmem := List.mem_filter (p := fun node => isDcaLiveMode node &&
        node.key ∈ collectRootNodeKeys graph.nodes graph.edges).mpr
          ⟨hroot.1, by rw [hlive, hroot.2, Bool.and_self]⟩
      exact Nat.ne_of_gt (List.length_pos_of_mem hmem)
    rw [if_neg hinvalid, if_neg hlives]
    exact ⟨_, rfl⟩

theorem publish_kept (hdraft : definition.draft = some graph.toJson) (h : Normal graph) :
    (Publishable checks graph ∧ publishTradeFlowDefinition checks definition =
        .ok { draft := some graph.toJson, published := graph.toJson :: definition.published }) ∨
      ¬ Publishable checks graph ∧
        ∃ messages, publishTradeFlowDefinition checks definition = .error (.invalid messages) := by
  have hread : normalizeTradeFlowGraph graph.toJson = graph := h
  unfold publishTradeFlowDefinition
  simp only [hdraft, hread, assertIntegrity_of_same rfl]
  cases hvalid : (validateTradeFlowGraphWithRuntimeConfig checks.validateNodeConfig
      checks.settingsIssues graph.toJson).valid with
  | true =>
    have hpublishable := (validate_normal_iff h).mp hvalid
    obtain ⟨seedNodes, hseeds⟩ := selectSeeds_accepted hpublishable.accepted
    refine .inl ⟨hpublishable, ?_⟩
    simp only [bind, Except.bind, Bool.not_true, Bool.false_eq_true, if_false, hseeds]
    rfl
  | false =>
    refine .inr ⟨fun hpublishable => ?_, ((validateTradeFlowGraphWithRuntimeConfig checks.validateNodeConfig
      checks.settingsIssues graph.toJson).issues.filter isError).map fun issue => issue.message, ?_⟩
    · rw [(validate_normal_iff h).mpr hpublishable] at hvalid
      cases hvalid
    · simp only [bind, Except.bind, Bool.not_false, if_true]

theorem respond_update (hdefinition : definition.Kept checks) (graphJson : Option Value) :
    ∃ graph, Normal graph ∧ respond checks definition (.update graphJson) =
      .ok { definition with draft := some graph.toJson } := by
  obtain ⟨draft, hdraft, hnormal⟩ := hdefinition.draft
  cases graphJson with
  | none =>
    refine ⟨draft, hnormal, ?_⟩
    simp only [respond, updateTradeFlowDefinitionDraft, hdraft, Option.map_none, Option.getD_some]
    rfl
  | some graphJson =>
    refine ⟨_, normal_twice graphJson, ?_⟩
    simp only [respond, updateTradeFlowDefinitionDraft, Option.map_some,
      assertIntegrity_of_same (collectSnapshots_again graphJson)]
    rfl

theorem TradeFlowDefinition.Kept.step (h : definition.Kept checks) (request : Request) :
    (definition.step checks request).Kept checks := by
  cases request with
  | update graphJson =>
    obtain ⟨graph, hnormal, hresponse⟩ := respond_update h graphJson
    unfold TradeFlowDefinition.step
    rw [hresponse]
    exact ⟨⟨graph, rfl, hnormal⟩, h.published⟩
  | publish =>
    obtain ⟨graph, hdraft, hnormal⟩ := h.draft
    unfold TradeFlowDefinition.step respond
    cases publish_kept hdraft hnormal with
    | inl hpublished =>
      obtain ⟨hpublishable, hresponse⟩ := hpublished
      rw [hresponse]
      refine ⟨⟨graph, rfl, hnormal⟩, fun version hversion => ?_⟩
      cases List.mem_cons.mp hversion with
      | inl hnew => exact ⟨graph, hnew, hpublishable⟩
      | inr hold => exact h.published version hold
    | inr hrefused =>
      obtain ⟨-, messages, hresponse⟩ := hrefused
      rw [hresponse]
      exact h
  | refusedElsewhere message => exact h

theorem kept_run {graphJson : Value} (hcreated : postDefinition graphJson = .ok definition)
    (requests : List Request) : (requests.foldl (TradeFlowDefinition.step checks) definition).Kept
      checks := by
  have hstart : definition.Kept checks := by
    rw [postDefinition_ok] at hcreated
    obtain rfl := Except.ok.inj hcreated
    exact ⟨⟨_, rfl, normal_twice graphJson⟩, fun version hversion => absurd hversion List.not_mem_nil⟩
  exact Runs.EachStep.invariant (C := fun _ _ => True)
    (fun definition request h _ => h.step request) hstart (Runs.eachStep_true definition requests)

end Requests

/-- However a definition is created, saved and published, each version that was ever published is
the graph that the validation accepted, and the engine reads it as that graph exactly when it trims
none of its names. -/
theorem published_versions_accepted (checks : Checks) (graphJson : Value) :
    ∃ definition, postDefinition graphJson = .ok definition ∧
      ∀ requests : List Request,
        ∀ version ∈ (requests.foldl (TradeFlowDefinition.step checks) definition).published,
          ∃ graph, version = graph.toJson ∧ Publishable checks graph ∧
            (parseTradeFlowGraph version = some graph.engine ↔ PlainNames graph) := by
  refine ⟨_, postDefinition_ok graphJson, fun requests version hversion => ?_⟩
  obtain ⟨graph, hgraph, hpublishable⟩ :=
    (kept_run (postDefinition_ok graphJson) requests).published version hversion
  refine ⟨graph, hgraph, hpublishable, ?_⟩
  rw [hgraph]
  exact parseTradeFlowGraph_toJson_iff (fun node => hpublishable.normal.node_named)
    fun edge => hpublishable.normal.edge_named

end PolymarketBot.Editor
