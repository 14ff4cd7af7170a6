import PolymarketBot.Editor.PublishLaws
import PolymarketBot.Flow.RetryBudget

/-! Chains of steps in the graphs that are published: without a cycle no chain comes back, and
each ends. -/

namespace PolymarketBot.Editor
open PolymarketBot.Flow Lib Relation

/-- The height of a chain: of the node of its last step, and zero once it has ended. -/
def chainHeight (height : String → ℕ) (chain : RetryChain) : ℕ :=
  (chain.step.map fun step => height step.nodeKey + 1).getD 0

section Chains
variable {graph : TradeFlowGraph} (evaluateJsonlogic : Value → Value → Value)

theorem edgeOf_of_engine {sourceKey : String} {source : ConfiguredNode} {edge : Flow.TradeFlowEdge}
    (hsource : flowNode graph.engine sourceKey = some source) (hedge : edge ∈ graph.engine.edges)
    (hfrom : edge.source = sourceKey) : EdgeOf graph sourceKey edge.target := by
  constructor
  · have hkey := List.find?_some hsource
    obtain ⟨node, hnode, hengine⟩ := List.mem_map.mp (List.mem_of_find?_eq_some hsource)
    rw [← hengine] at hkey
    exact ⟨node, hnode, of_decide_eq_true hkey⟩
  · obtain ⟨written, hwritten, rfl⟩ := List.mem_map.mp hedge
    exact ⟨written, hwritten, hfrom, rfl⟩

theorem edgeTargets_edge {sourceKey edgeType : String} {source target : ConfiguredNode}
    {context output : Value} (hsource : flowNode graph.engine sourceKey = some source)
    (htarget : target ∈ edgeTargets evaluateJsonlogic graph.engine sourceKey edgeType context
      output) : EdgeOf graph sourceKey target.key := by
  obtain ⟨key, hkey, hnode⟩ := List.mem_filterMap.mp htarget
  have hsame : target.key = key := by simpa using List.find?_some hnode
  obtain ⟨edge, hedge, rfl⟩ := List.mem_map.mp hkey
  have hcandidate := (List.mem_filter.mp hedge).1
  have hin : edge ∈ graph.engine.edges ∧ edge.source = sourceKey := by
    unfold resolveTradeFlowCandidateEdges at hcandidate
    simp only at hcandidate
    split at hcandidate
    · have hboth := List.mem_filter.mp hcandidate
      simp only [Bool.and_eq_true, decide_eq_true_eq] at hboth
      exact ⟨hboth.1, hboth.2.1⟩
    · have hboth := List.mem_filter.mp hcandidate
      simp only [Bool.and_eq_true, decide_eq_true_eq] at hboth
      exact ⟨hboth.1, hboth.2.1⟩
  rw [hsame]
  exact edgeOf_of_engine hsource hin.1 hin.2

theorem queued_edge {node : ConfiguredNode} {step child : FlowStep} {hop : Hop} {output : Value}
    {edgeType : String} (hnode : flowNode graph.engine step.nodeKey = some node)
    (hmoves : hop.repeats = false)
    (hchild : queued evaluateJsonlogic graph.engine node step hop output edgeType = some child) :
    EdgeOf graph step.nodeKey child.nodeKey ∧
      child.attempt = edgeAttempt step.nodeKey child.nodeKey output := by
  unfold queued at hchild
  rw [hmoves, Bool.false_and, if_neg Bool.false_ne_true] at hchild
  obtain ⟨target, htarget, rfl⟩ := Option.map_eq_some_iff.mp hchild
  exact ⟨edgeTargets_edge evaluateJsonlogic hnode (List.mem_of_find?_eq_some htarget), rfl⟩

variable (retryKey : String)

theorem next_edge {chain : RetryChain} {hop : Hop} (hmoves : hop.repeats = false) {child : FlowStep}
    (hchild : (chain.next evaluateJsonlogic graph.engine retryKey hop).step = some child) :
    ∃ step output, chain.step = some step ∧ EdgeOf graph step.nodeKey child.nodeKey ∧
      child.attempt = edgeAttempt step.nodeKey child.nodeKey output := by
  unfold RetryChain.next at hchild
  cases hstep : chain.step with
  | none =>
    simp only [hstep] at hchild
    cases hchild
  | some step =>
    simp only [hstep] at hchild
    cases hnode : flowNode graph.engine step.nodeKey with
    | none =>
      simp only [hnode] at hchild
      cases hchild
    | some node =>
      simp only [hnode] at hchild
      cases hemitted : emitted evaluateJsonlogic node step hop with
      | none =>
        simp only [hemitted] at hchild
        cases hchild
      | some emission =>
        simp only [hemitted] at hchild
        exact ⟨step, emission.1, rfl, queued_edge evaluateJsonlogic hnode hmoves hchild⟩

variable (hacyclic : ∀ key, ¬ TransGen (EdgeOf graph) key key)
include hacyclic

theorem next_attempt {chain : RetryChain} {hop : Hop} (hmoves : hop.repeats = false) :
    ∀ child ∈ (chain.next evaluateJsonlogic graph.engine retryKey hop).step, child.attempt = 1 := by
  intro child hchild
  obtain ⟨step, output, -, hedge, hattempt⟩ :=
    next_edge evaluateJsonlogic retryKey hmoves hchild
  rw [hattempt]
  refine edgeAttempt_other (fun hsame => ?_) output
  rw [hsame] at hedge
  exact hacyclic step.nodeKey (.single hedge)

omit hacyclic in
theorem next_height {height : String → ℕ}
    (hdown : ∀ a b, EdgeOf graph a b → height b < height a) {chain : RetryChain} {hop : Hop}
    (hmoves : hop.repeats = false) :
    chainHeight height (chain.next evaluateJsonlogic graph.engine retryKey hop) ≤
      chainHeight height chain - 1 := by
  unfold chainHeight
  cases hchild : (chain.next evaluateJsonlogic graph.engine retryKey hop).step with
  | none => exact Nat.zero_le _
  | some child =>
    obtain ⟨step, output, hstep, hedge, -⟩ := next_edge evaluateJsonlogic retryKey hmoves hchild
    have hlt := hdown step.nodeKey child.nodeKey hedge
    rw [hstep]
    simp only [Option.map_some, Option.getD_some]
    omega

theorem acyclic_chain (first : FlowStep) (hfirst : first.attempt = 1) (hops : List Hop)
    (hmoves : ∀ hop ∈ hops, hop.repeats = false) :
    Runs.Throughout (RetryChain.next evaluateJsonlogic graph.engine retryKey)
        (fun chain => ∀ step ∈ chain.step, step.attempt = 1) ⟨some first, 0⟩ hops ∧
      (graph.nodes.length < hops.length →
        (hops.foldl (RetryChain.next evaluateJsonlogic graph.engine retryKey)
          ⟨some first, 0⟩).step = none) := by
  have hleaves : ∀ a b, EdgeOf graph a b → a ∈ graph.nodes.map fun node => node.key := by
    intro a b hedge
    obtain ⟨⟨node, hnode, hkey⟩, -⟩ := hedge
    exact List.mem_map.mpr ⟨node, hnode, hkey⟩
  obtain ⟨height, hbound, hdown⟩ := Traversal.exists_height hleaves hacyclic
  have hrun : ∀ (hops : List Hop) (chain : RetryChain), (∀ hop ∈ hops, hop.repeats = false) →
      chainHeight height (hops.foldl (RetryChain.next evaluateJsonlogic graph.engine retryKey)
        chain) ≤ chainHeight height chain - hops.length := by
    intro hops
    induction hops with
    | nil => exact fun chain _ => Nat.le_refl _
    | cons hop hops ih =>
      intro chain hmoves
      have hstep : chainHeight height (chain.next evaluateJsonlogic graph.engine retryKey hop) ≤
          chainHeight height chain - 1 :=
        next_height evaluateJsonlogic retryKey hdown (hmoves hop (List.mem_cons_self ..))
      have hrest := ih (chain.next evaluateJsonlogic graph.engine retryKey hop)
        fun hop hhop => hmoves hop (List.mem_cons_of_mem _ hhop)
      simp only [List.foldl_cons, List.length_cons]
      omega
  constructor
  · have heach : Runs.EachStep (RetryChain.next evaluateJsonlogic graph.engine retryKey)
        (fun _ hop => hop.repeats = false) ⟨some first, 0⟩ hops := by
      generalize (⟨some first, 0⟩ : RetryChain) = chain
      induction hops generalizing chain with
      | nil => trivial
      | cons hop hops ih =>
        exact ⟨hmoves hop (List.mem_cons_self ..),
          ih (fun hop hhop => hmoves hop (List.mem_cons_of_mem _ hhop)) _⟩
    refine heach.throughout (I := fun chain => ∀ step ∈ chain.step, step.attempt = 1)
      (fun _ h => h) (fun chain hop _ hmoves => ?_) (by simpa using hfirst)
    exact next_attempt evaluateJsonlogic retryKey hacyclic hmoves
  · intro hlong
    have hlast := hrun hops ⟨some first, 0⟩ hmoves
    have htop := hbound first.nodeKey
    rw [List.length_map] at htop
    have hzero : chainHeight height (hops.foldl (RetryChain.next evaluateJsonlogic graph.engine
        retryKey) ⟨some first, 0⟩) = 0 := by
      have hstart : chainHeight height ⟨some first, 0⟩ = height first.nodeKey + 1 := rfl
      omega
    unfold chainHeight at hzero
    cases hstep : (hops.foldl (RetryChain.next evaluateJsonlogic graph.engine retryKey)
        ⟨some first, 0⟩).step with
    | none => rfl
    | some step =>
      rw [hstep] at hzero
      cases hzero

end Chains

/-! ### In the graphs that are published -/

section Published
variable {checks : Checks} {graphJson version : Value} {definition : TradeFlowDefinition}
  {requests : List Request}

theorem published_graph (hcreated : postDefinition graphJson = .ok definition)
    (hversion : version ∈ (requests.foldl (TradeFlowDefinition.step checks) definition).published) :
    version = (normalizeTradeFlowGraph version).toJson ∧
      Publishable checks (normalizeTradeFlowGraph version) := by
  obtain ⟨graph, rfl, hpublishable⟩ := (kept_run hcreated requests).published version hversion
  have hnormal : normalizeTradeFlowGraph graph.toJson = graph := hpublishable.normal
  rw [hnormal]
  exact ⟨rfl, hpublishable⟩

theorem published_engine (hcreated : postDefinition graphJson = .ok definition)
    (hversion : version ∈ (requests.foldl (TradeFlowDefinition.step checks) definition).published)
    (hplain : PlainNames (normalizeTradeFlowGraph version)) :
    parseTradeFlowGraph version = some (normalizeTradeFlowGraph version).engine := by
  obtain ⟨hsame, hpublishable⟩ := published_graph hcreated hversion
  have hread := (parseTradeFlowGraph_toJson_iff (fun node => hpublishable.normal.node_named)
    fun edge => hpublishable.normal.edge_named).mpr hplain
  rw [← hsame] at hread
  exact hread

end Published

instance (graph : TradeFlowGraph) : Decidable (PlainNames graph) :=
  decidable_of_iff
    ((∀ node ∈ graph.nodes, trim node.key = node.key ∧ trim node.type = node.type) ∧
      ∀ edge ∈ graph.edges, trim edge.source = edge.source ∧
        trim edge.target = edge.target ∧ trim edge.type = edge.type)
    ⟨fun h => ⟨h.1, h.2⟩, fun h => ⟨h.nodes, h.edges⟩⟩

/-- A trigger, a retry node after it, and the order that the retry node leads to. -/
def retriedOrder : Value :=
  .object
    [("nodes", .array
      [.object [("key", .string "start"), ("type", .string "trigger.market_price")],
       .object [("key", .string "again"), ("type", .string "logic.retry")],
       .object [("key", .string "order"), ("type", .string "action.place_order")]]),
     ("edges", .array
      [.object [("key", .string "e1"), ("source", .string "start"), ("target", .string "again")],
       .object [("key", .string "e2"), ("source", .string "again"), ("target", .string "order"),
         ("type", .string "on_retry")]])]

def retriedDefinition : TradeFlowDefinition where
  draft := some (normalizeTradeFlowGraph (normalizeTradeFlowGraph retriedOrder).toJson).toJson

def unchecked : Checks where
  validateNodeConfig _ _ := []
  settingsIssues _ := []

def retriedVersion : Value :=
  (retriedDefinition.step unchecked .publish).published.headD .null

def retriedRuntime : TradeFlowGraphRuntime :=
  (parseTradeFlowGraph retriedVersion).getD { context := .null, nodes := [], edges := [] }

theorem retried_published :
    (retriedDefinition.step unchecked .publish).published.isEmpty = false ∧
      (parseTradeFlowGraph retriedVersion).isSome = true ∧
        PlainNames (normalizeTradeFlowGraph retriedVersion) ∧ retriedRuntime.nodes.length < 4 := by
  decide +kernel

theorem retriedVersion_mem :
    retriedVersion ∈ ([Request.publish].foldl (TradeFlowDefinition.step unchecked)
      retriedDefinition).published := by
  have hfilled := retried_published.1
  have hhead : (retriedDefinition.step unchecked .publish).published.head? =
      some retriedVersion := by
    unfold retriedVersion
    cases hversions : (retriedDefinition.step unchecked .publish).published with
    | nil =>
      rw [hversions] at hfilled
      cases hfilled
    | cons version versions => rfl
  exact List.mem_of_head? hhead

theorem retriedRuntime_parsed : parseTradeFlowGraph retriedVersion = some retriedRuntime := by
  have hsome := retried_published.2.1
  unfold retriedRuntime
  cases hparse : parseTradeFlowGraph retriedVersion with
  | none =>
    rw [hparse] at hsome
    cases hsome
  | some graph => rfl

/-- In a graph that was published no chain of steps comes back to a node: each step that an edge
queues is a first attempt, whatever the retry nodes are configured with, and the chain has ended
once it has made more hops than the graph has nodes. -/
theorem published_chain_ends (checks : Checks) {graphJson version : Value}
    {definition : TradeFlowDefinition} {requests : List Request}
    (hcreated : postDefinition graphJson = .ok definition)
    (hversion : version ∈ (requests.foldl (TradeFlowDefinition.step checks) definition).published)
    (hplain : PlainNames (normalizeTradeFlowGraph version)) {graph : TradeFlowGraphRuntime}
    (hparse : parseTradeFlowGraph version = some graph)
    (evaluateJsonlogic : Value → Value → Value) (retryKey : String) {first : FlowStep}
    (hfirst : first.attempt = 1) {hops : List Hop} (hmoves : ∀ hop ∈ hops, hop.repeats = false) :
    Runs.Throughout (RetryChain.next evaluateJsonlogic graph retryKey)
        (fun chain => ∀ step ∈ chain.step, step.attempt = 1) ⟨some first, 0⟩ hops ∧
      (graph.nodes.length < hops.length →
        (hops.foldl (RetryChain.next evaluateJsonlogic graph retryKey) ⟨some first, 0⟩).step =
          none) := by
  rw [published_engine hcreated hversion hplain] at hparse
  obtain rfl := Option.some.inj hparse
  have hchain := acyclic_chain evaluateJsonlogic retryKey
    (published_graph hcreated hversion).2.accepted.acyclic first hfirst hops hmoves
  refine ⟨hchain.1, fun hlong => hchain.2 ?_⟩
  rw [TradeFlowGraph.engine, List.length_map] at hlong
  exact hlong

theorem published_chain_ends_retried :
    (List.foldl (RetryChain.next (fun _ value => value) retriedRuntime "again")
      ⟨some { nodeKey := "start", attempt := 1 }, 0⟩
        [{ target := "again" }, { target := "again" }, { target := "again" },
          { target := "order" }]).step = none :=
  (published_chain_ends unchecked (postDefinition_ok retriedOrder) retriedVersion_mem
    retried_published.2.2.1 retriedRuntime_parsed (fun _ value => value) "again" rfl
    (by decide)).2 retried_published.2.2.2

/-- For a graph that was published the engine and the editor agree on the trigger upstream of a
node. -/
theorem published_upstream_trigger (checks : Checks) {graphJson version : Value}
    {definition : TradeFlowDefinition} {requests : List Request}
    (hcreated : postDefinition graphJson = .ok definition)
    (hversion : version ∈ (requests.foldl (TradeFlowDefinition.step checks) definition).published)
    (hplain : PlainNames (normalizeTradeFlowGraph version)) {graph : TradeFlowGraphRuntime}
    (hparse : parseTradeFlowGraph version = some graph) (nodeKey : String) :
    findUpstreamMarketPriceTriggerKey nodeKey graph =
      findUniqueUpstreamMarketPriceTrigger nodeKey (normalizeTradeFlowGraph version) := by
  rw [published_engine hcreated hversion hplain] at hparse
  obtain rfl := Option.some.inj hparse
  have hpublishable := (published_graph hcreated hversion).2
  exact findUniqueUpstreamMarketPriceTrigger_engine hpublishable.accepted.nodeKeys
    (fun node hnode => (hpublishable.normal.node_named hnode).keyFilled) nodeKey

theorem published_upstream_trigger_retried :
    findUpstreamMarketPriceTriggerKey "order" retriedRuntime =
      findUniqueUpstreamMarketPriceTrigger "order" (normalizeTradeFlowGraph retriedVersion) :=
  published_upstream_trigger unchecked (postDefinition_ok retriedOrder) retriedVersion_mem
    retried_published.2.2.1 retriedRuntime_parsed "order"

end PolymarketBot.Editor
