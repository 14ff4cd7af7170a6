import PolymarketBot.Editor.Validation

/-! Which graphs the validation accepts. -/

namespace PolymarketBot.Editor
open PolymarketBot.Flow Lib Relation

def FreeOfErrors (issues : List TradeFlowValidationIssue) : Prop := issues.any isError = false

@[simp] theorem freeOfErrors_nil : FreeOfErrors [] := rfl

@[simp] theorem freeOfErrors_append (a b : List TradeFlowValidationIssue) :
    FreeOfErrors (a ++ b) ↔ FreeOfErrors a ∧ FreeOfErrors b := by
  simp [FreeOfErrors]

@[simp] theorem freeOfErrors_cons (issue : TradeFlowValidationIssue)
    (issues : List TradeFlowValidationIssue) :
    FreeOfErrors (issue :: issues) ↔ issue.severity = .warning ∧ FreeOfErrors issues := by
  obtain ⟨severity, _, _, _, _⟩ := issue
  cases severity <;> simp [FreeOfErrors, isError]

@[simp] theorem freeOfErrors_ite (c : Prop) [Decidable c] (a b : List TradeFlowValidationIssue) :
    FreeOfErrors (if c then a else b) ↔ if c then FreeOfErrors a else FreeOfErrors b := by
  split <;> rfl

theorem freeOfErrors_of_warnings {issues : List TradeFlowValidationIssue}
    (h : ∀ issue ∈ issues, issue.severity = .warning) : FreeOfErrors issues := by
  induction issues with
  | nil => rfl
  | cons issue issues ih =>
    rw [freeOfErrors_cons]
    exact ⟨h issue (List.mem_cons_self ..), ih fun issue hissue => h issue (List.mem_cons_of_mem _ hissue)⟩

def IsRoot (graph : TradeFlowGraph) (node : TradeFlowNode) : Prop :=
  node ∈ graph.nodes ∧ ∀ edge ∈ graph.edges, edge.target ≠ node.key

/-- A run has a place to start: a trigger, or else roots that are live ladders, and no others. -/
def HasStart (graph : TradeFlowGraph) : Prop :=
  (∃ node ∈ graph.nodes, isTriggerNode node = true) ∨
    (∃ node, IsRoot graph node ∧ isDcaLiveMode node = true) ∧
      ∀ node, IsRoot graph node → isDcaLiveMode node = true

def AutoClaimReadable (graph : TradeFlowGraph) : Prop :=
  ∀ value, field "autoClaimEnabled" graph.context = some value → value ≠ .null →
    (toBooleanish (some value)).isSome = true

/-- What an accepted graph is like. -/
structure Accepted (graph : TradeFlowGraph) : Prop where
  autoClaim : AutoClaimReadable graph
  nodeKeys : (graph.nodes.map fun node => node.key).Nodup
  edgeKeys : (graph.edges.map fun edge => edge.key).Nodup
  sources : ∀ edge ∈ graph.edges, edge.source ∈ graph.nodes.map fun node => node.key
  targets : ∀ edge ∈ graph.edges, edge.target ∈ graph.nodes.map fun node => node.key
  start : HasStart graph
  action : ∃ node ∈ graph.nodes, isActionNode node = true
  acyclic : ∀ key, ¬ TransGen (EdgeOf graph) key key

section Parts
variable (validateNodeConfig : TradeFlowNode → TradeFlowGraph → List TradeFlowValidationIssue)
  (graph : TradeFlowGraph)

theorem contextIssues_free_iff : FreeOfErrors (contextIssues graph) ↔ AutoClaimReadable graph := by
  unfold contextIssues AutoClaimReadable
  cases field "autoClaimEnabled" graph.context with
  | none => simp
  | some value =>
    have hread : FreeOfErrors (if (toBooleanish (some value)).isNone then
        [{ severity := .error, code := "invalid_auto_claim_enabled"
           message := "Graph context autoClaimEnabled must be boolean (true/false)." }]
        else []) ↔ (toBooleanish (some value)).isSome = true := by
      cases toBooleanish (some value) <;> simp
    cases value with
    | null => simp
    | _ => simpa using hread

theorem nodeIssues_free_iff (nodes : List TradeFlowNode) (nodeKeySet : List String) :
    FreeOfErrors (nodeIssues validateNodeConfig graph nodes nodeKeySet) ↔
      (nodes.map fun node => node.key).Nodup ∧ (∀ node ∈ nodes, node.key ∉ nodeKeySet) ∧
        ∀ node ∈ nodes, FreeOfErrors (validateNodeConfig node graph) := by
  induction nodes generalizing nodeKeySet with
  | nil => simp [nodeIssues]
  | cons node nodes ih =>
    unfold nodeIssues
    by_cases hseen : node.key ∈ nodeKeySet
    · rw [if_pos hseen]
      refine iff_of_false (by simp) fun h => ?_
      exact h.2.1 node (List.mem_cons_self ..) hseen
    · rw [if_neg hseen, freeOfErrors_append, freeOfErrors_append, ih]
      simp only [List.map_cons, List.nodup_cons, List.mem_map, List.mem_cons, forall_eq_or_imp,
        freeOfErrors_ite, freeOfErrors_nil, freeOfErrors_cons, and_self, ite_self, true_and,
        not_or, hseen, not_false_eq_true, not_exists, not_and]
      constructor
      · intro h
        obtain ⟨hnode, hnodup, hfresh, hrest⟩ := h
        exact ⟨⟨fun other hother => (hfresh other hother).1, hnodup⟩,
          fun other hother => (hfresh other hother).2, hnode, hrest⟩
      · intro h
        obtain ⟨⟨hdistinct, hnodup⟩, hfresh, hnode, hrest⟩ := h
        exact ⟨hnode, hnodup, fun other hother => ⟨hdistinct other hother, hfresh other hother⟩, hrest⟩

theorem edgeIssues_free_iff (nodeKeySet : List String) (edges : List TradeFlowEdge)
    (edgeKeySet : List String) :
    FreeOfErrors (edgeIssues nodeKeySet edges edgeKeySet) ↔
      (edges.map fun edge => edge.key).Nodup ∧ (∀ edge ∈ edges, edge.key ∉ edgeKeySet) ∧
        ∀ edge ∈ edges, edge.source ∈ nodeKeySet ∧ edge.target ∈ nodeKeySet := by
  induction edges generalizing edgeKeySet with
  | nil => simp [edgeIssues]
  | cons edge edges ih =>
    unfold edgeIssues
    rw [freeOfErrors_append, freeOfErrors_append, freeOfErrors_append, ih]
    simp only [List.map_cons, List.nodup_cons, List.mem_map, List.mem_cons, forall_eq_or_imp,
      freeOfErrors_ite, freeOfErrors_nil, freeOfErrors_cons, reduceCtorEq, not_or,
      not_exists, not_and, if_true_right, if_false_right, imp_false, and_true]
    constructor
    · intro h
      obtain ⟨⟨⟨hkey, hsource⟩, htarget⟩, hnodup, hfresh, hends⟩ := h
      exact ⟨⟨fun other hother => (hfresh other hother).1, hnodup⟩,
        ⟨hkey, fun other hother => (hfresh other hother).2⟩, ⟨hsource, htarget⟩, hends⟩
    · intro h
      obtain ⟨⟨hdistinct, hnodup⟩, ⟨hkey, hfresh⟩, ⟨hsource, htarget⟩, hends⟩ := h
      exact ⟨⟨⟨hkey, hsource⟩, htarget⟩, hnodup,
        fun other hother => ⟨hdistinct other hother, hfresh other hother⟩, hends⟩

theorem mem_collectRootNodeKeys {key : String} :
    key ∈ collectRootNodeKeys graph.nodes graph.edges ↔
      (∃ node ∈ graph.nodes, node.key = key) ∧ ∀ edge ∈ graph.edges, edge.target ≠ key := by
  unfold collectRootNodeKeys
  simp only [List.mem_map, List.mem_filter, Bool.not_eq_true', List.any_eq_false, decide_eq_true_eq]
  constructor
  · intro h
    obtain ⟨node, ⟨hnode, hedges⟩, rfl⟩ := h
    exact ⟨⟨node, hnode, rfl⟩, hedges⟩
  · intro h
    obtain ⟨⟨node, hnode, rfl⟩, hedges⟩ := h
    exact ⟨node, ⟨hnode, hedges⟩, rfl⟩

theorem mem_roots {node : TradeFlowNode} :
    node ∈ (graph.nodes.filter fun node => node.key ∈ collectRootNodeKeys graph.nodes graph.edges) ↔
      IsRoot graph node := by
  rw [List.mem_filter, decide_eq_true_eq, mem_collectRootNodeKeys]
  exact ⟨fun h => ⟨h.1, h.2.2⟩, fun h => ⟨h.1, ⟨node, h.1, rfl⟩, h.2⟩⟩

theorem triggerIssues_free_iff : FreeOfErrors (triggerIssues graph) ↔ HasStart graph := by
  unfold triggerIssues HasStart
  simp only [freeOfErrors_ite, freeOfErrors_nil, freeOfErrors_cons, reduceCtorEq, false_and]
  by_cases htrigger : ∃ node ∈ graph.nodes, isTriggerNode node = true
  · have hpos : 0 < (graph.nodes.filter isTriggerNode).length := by
      obtain ⟨node, hnode, htype⟩ := htrigger
      exact List.length_pos_of_mem (List.mem_filter.mpr ⟨hnode, htype⟩)
    rw [if_pos hpos]
    exact iff_of_true trivial (.inl htrigger)
  · have hnone : ¬ 0 < (graph.nodes.filter isTriggerNode).length := by
      intro hpos
      obtain ⟨node, hmem⟩ := List.exists_mem_of_length_pos hpos
      obtain ⟨hnode, htype⟩ := List.mem_filter.mp hmem
      exact htrigger ⟨node, hnode, htype⟩
    rw [if_neg hnone, or_iff_right htrigger]
    generalize hroots : (graph.nodes.filter fun node =>
      node.key ∈ collectRootNodeKeys graph.nodes graph.edges) = roots
    have hmem : ∀ node, node ∈ roots ↔ IsRoot graph node := by
      intro node
      rw [← hroots]
      exact mem_roots graph
    have hany : roots.any isDcaLiveMode = true ↔
        ∃ node, IsRoot graph node ∧ isDcaLiveMode node = true := by
      simp only [List.any_eq_true, hmem]
    have hall : ¬ 0 < ((roots.filter fun node => !isDcaLiveMode node).map
        fun node => node.key).length ↔ ∀ node, IsRoot graph node → isDcaLiveMode node = true := by
      rw [List.length_map, List.length_pos_iff, not_not, List.filter_eq_nil_iff]
      simp only [hmem, Bool.not_eq_true', Bool.not_eq_false]
    rw [← hany, ← hall]
    cases roots.any isDcaLiveMode <;> simp

theorem actionIssues_free_iff :
    FreeOfErrors (actionIssues graph) ↔ ∃ node ∈ graph.nodes, isActionNode node = true := by
  unfold actionIssues
  simp only [freeOfErrors_ite, freeOfErrors_nil, freeOfErrors_cons, reduceCtorEq, false_and]
  simp only [List.length_eq_zero_iff, List.filter_eq_nil_iff, if_false_left, and_true]
  simp

theorem cycleIssues_free_iff :
    FreeOfErrors (cycleIssues graph) ↔ ∀ key, ¬ TransGen (EdgeOf graph) key key := by
  have hcycle := detectCycles_iff graph
  have hnodes : ¬ 0 < graph.nodes.length → ∀ key, ¬ TransGen (EdgeOf graph) key key := by
    intro hempty key hcycle
    obtain ⟨target, hedge, -⟩ := TransGen.head'_iff.mp hcycle
    obtain ⟨⟨node, hnode, -⟩, -⟩ := hedge
    exact hempty (List.length_pos_of_mem hnode)
  unfold cycleIssues
  simp only [freeOfErrors_ite, freeOfErrors_nil, freeOfErrors_cons, reduceCtorEq, false_and]
  by_cases hpos : 0 < graph.nodes.length
  · rw [← not_exists, ← hcycle]
    simp [hpos]
  · simp [hpos, hnodes hpos]

theorem warnings_free : FreeOfErrors (graph.nodes.flatMap (ifIssues graph)) ∧
    FreeOfErrors (graph.nodes.flatMap (switchIssues graph)) ∧
      FreeOfErrors (graph.nodes.flatMap (branchIssues graph)) ∧
        FreeOfErrors (unreachableIssues graph) := by
  refine ⟨?_, ?_, ?_, ?_⟩
  · refine freeOfErrors_of_warnings fun issue hissue => ?_
    obtain ⟨node, -, hmem⟩ := List.mem_flatMap.mp hissue
    unfold ifIssues at hmem
    split at hmem
    · rw [List.mem_singleton.mp hmem]
    · cases hmem
  · refine freeOfErrors_of_warnings fun issue hissue => ?_
    obtain ⟨node, -, hmem⟩ := List.mem_flatMap.mp hissue
    unfold switchIssues at hmem
    split at hmem
    · rw [List.mem_singleton.mp hmem]
    · cases hmem
  · refine freeOfErrors_of_warnings fun issue hissue => ?_
    obtain ⟨node, -, hmem⟩ := List.mem_flatMap.mp hissue
    unfold branchIssues at hmem
    simp only at hmem
    split at hmem
    · obtain ⟨edge, -, rfl⟩ := List.mem_map.mp hmem
      rfl
    · cases hmem
  · refine freeOfErrors_of_warnings fun issue hissue => ?_
    obtain ⟨node, -, rfl⟩ := List.mem_map.mp hissue
    rfl

theorem graphIssues_free_iff : FreeOfErrors (graphIssues validateNodeConfig graph) ↔
    Accepted graph ∧ ∀ node ∈ graph.nodes, FreeOfErrors (validateNodeConfig node graph) := by
  obtain ⟨hif, hswitch, hbranch, hunreachable⟩ := warnings_free graph
  unfold graphIssues
  simp only [freeOfErrors_append, hif, hswitch, hbranch, hunreachable, and_true,
    contextIssues_free_iff, nodeIssues_free_iff, edgeIssues_free_iff, triggerIssues_free_iff,
    actionIssues_free_iff, cycleIssues_free_iff, List.not_mem_nil, not_false_eq_true,
    implies_true, true_and]
  constructor
  · intro h
    obtain ⟨⟨⟨⟨⟨hclaim, hnodup, hchecks⟩, hedges, hends⟩, hstart⟩, haction⟩, hacyclic⟩ := h
    exact ⟨⟨hclaim, hnodup, hedges, fun edge hedge => (hends edge hedge).1,
      fun edge hedge => (hends edge hedge).2, hstart, haction, hacyclic⟩, hchecks⟩
  · intro h
    obtain ⟨haccepted, hchecks⟩ := h
    exact ⟨⟨⟨⟨⟨haccepted.autoClaim, haccepted.nodeKeys, hchecks⟩, haccepted.edgeKeys,
      fun edge hedge => ⟨haccepted.sources edge hedge, haccepted.targets edge hedge⟩⟩,
      haccepted.start⟩, haccepted.action⟩, haccepted.acyclic⟩

end Parts

/-- The validation accepts exactly the graphs whose keys are unique, whose edges join nodes, that
have a start, an action and no cycle, and whose nodes pass their own checks. It warns of exactly the
nodes to which no start leads. -/
theorem validateTradeFlowGraph_exact
    (validateNodeConfig : TradeFlowNode → TradeFlowGraph → List TradeFlowValidationIssue)
    (graphJson : Value) :
    ((validateTradeFlowGraph validateNodeConfig graphJson).valid = true ↔
      Accepted (normalizeTradeFlowGraph graphJson) ∧
        ∀ node ∈ (normalizeTradeFlowGraph graphJson).nodes,
          FreeOfErrors (validateNodeConfig node (normalizeTradeFlowGraph graphJson))) ∧
    ∀ node ∈ (normalizeTradeFlowGraph graphJson).nodes,
      (unreachableIssue node ∈ unreachableIssues (normalizeTradeFlowGraph graphJson) ↔
        ∀ start ∈ startKeys (normalizeTradeFlowGraph graphJson).nodes
            (normalizeTradeFlowGraph graphJson).edges,
          ¬ ReflTransGen (EdgeOf (normalizeTradeFlowGraph graphJson)) start node.key) := by
  generalize hgraph : normalizeTradeFlowGraph graphJson = graph
  constructor
  · rw [← graphIssues_free_iff]
    unfold validateTradeFlowGraph FreeOfErrors
    rw [hgraph]
    simp
  · intro node hnode
    have hreach := mem_collectReachable_iff graph node.key
    unfold unreachableIssues
    constructor
    · intro hmem start hstart hpath
      obtain ⟨other, hother, hsame⟩ := List.mem_map.mp hmem
      have hkey : other.key = node.key :=
        Option.some.inj (congrArg TradeFlowValidationIssue.nodeKey hsame)
      have hunreached := (List.mem_filter.mp hother).2
      simp only [decide_eq_true_eq, hkey] at hunreached
      exact hunreached (hreach.mpr ⟨start, hstart, hpath⟩)
    · intro hnone
      refine List.mem_map.mpr ⟨node, List.mem_filter.mpr ⟨hnode, ?_⟩, rfl⟩
      rw [decide_eq_true_eq, hreach]
      intro hreached
      obtain ⟨start, hstart, hpath⟩ := hreached
      exact hnone start hstart hpath

end PolymarketBot.Editor
