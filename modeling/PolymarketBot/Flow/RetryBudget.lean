import PolymarketBot.Flow.CycleWindow
import PolymarketBot.Flow.Edges
import PolymarketBot.Lib.Runs

/-! The retry node, the chains of steps that lead through it, and how often it retries. -/

namespace PolymarketBot.Flow
open Lib.Runs

variable (evaluateJsonlogic : Value → Value → Value)

def retryBudget (node : ConfiguredNode) : ℤ := max ((nodeConfigI64 node "maxAttempts").getD 3) 1

/-- The budget as the node counts it, in 32 bits. -/
def retryMaxAttempts (node : ConfiguredNode) : ℤ := Int.bmod (retryBudget node) (2 ^ 32)

/-- The instants, in milliseconds, that the time library holds. -/
abbrev DateTime := { t : ℤ // -8334601228800000 ≤ t ∧ t ≤ 8210266876799999 }

instance : Inhabited DateTime := ⟨0, by decide⟩

/-- `now + milliseconds(delay)`, which panics outside of these instants. -/
def DateTime.plus (now : DateTime) (delayMs : ℤ) : Option DateTime :=
  if h : -8334601228800000 ≤ now.1 + delayMs ∧ now.1 + delayMs ≤ 8210266876799999 then
    some ⟨now.1 + delayMs, h⟩
  else none

structure RetryExecution where
  output : Value
  edgeType : String
  delayMs : ℤ := 0
  availableAt : DateTime

def shouldRetry (node : ConfiguredNode) (step : FlowStep) (context : Value) : Bool :=
  match node.config.get "expression" with
  | some expression =>
    valueTruthy (evaluateJsonlogic expression (.object (buildTradeFlowEvalData context)))
  | none => (step.input.bind fun input => input.get "error").isSome

def saturatingMul (a b : ℤ) : ℤ := max (-2 ^ 63) (min (2 ^ 63 - 1) (a * b))

def retryDelayMs (node : ConfiguredNode) (step : FlowStep) : ℤ :=
  let backoffMs := max ((nodeConfigI64 node "backoffMs").getD 1000) 0
  let multiplier :=
    if (nodeConfigString node.config "strategy").getD "fixed" = "exponential" then
      Int.bmod (2 ^ (step.attempt - 1).toNat) (2 ^ 64)
    else 1
  saturatingMul backoffMs multiplier

/-- Nothing, where the instant of the retry does not exist and the addition panics. -/
def executeLogicRetry (node : ConfiguredNode) (step : FlowStep) (context : Value)
    (now : DateTime) : Option RetryExecution :=
  let maxAttempts := retryMaxAttempts node
  if shouldRetry evaluateJsonlogic node step context then
    if step.attempt < maxAttempts then
      (now.plus (retryDelayMs node step)).map fun availableAt =>
        { output := .object [("node_key", .string node.key), ("should_retry", .bool true),
            ("attempt", jsonI64 step.attempt), ("next_attempt", jsonI64 (step.attempt + 1)),
            ("max_attempts", jsonI64 maxAttempts), ("delay_ms", jsonI64 (retryDelayMs node step))]
          edgeType := "on_retry"
          delayMs := retryDelayMs node step
          availableAt }
    else
      some { output := .object [("node_key", .string node.key), ("should_retry", .bool true),
               ("attempt", jsonI64 step.attempt), ("max_attempts", jsonI64 maxAttempts),
               ("attempts_exhausted", .bool true)]
             edgeType := "on_error"
             availableAt := now }
  else
    some { output := .object [("node_key", .string node.key), ("should_retry", .bool false),
             ("attempt", jsonI64 step.attempt)]
           edgeType := "on_success"
           availableAt := now }

/-! ### Chains of steps -/

/-- How a chain goes on from its last step: the context it is executed in, what a node that is
no retry node answers, and the node of the step that is followed. -/
structure Hop where
  now : DateTime := default
  context : Value := .object []
  output : Value := .object []
  edgeType : String := "default"
  target : String
  lockedInput : Option Value := none
  repeats : Bool := false

/-- A chain at its last step, and how often the node has retried since it last gave up. -/
structure RetryChain where
  step : Option FlowStep
  retries : ℕ := 0

section Chain
variable (graph : TradeFlowGraphRuntime) (retryKey : String)

/-- What the step's node emits: the retry nodes as above, the others as the hop has it. -/
def emitted (node : ConfiguredNode) (step : FlowStep) (hop : Hop) : Option (Value × String) :=
  if node.nodeType = "logic.retry" then
    (executeLogicRetry evaluateJsonlogic node step hop.context hop.now).map fun execution =>
      (execution.output, execution.edgeType)
  else some (hop.output, hop.edgeType)

/-- The step queued for the hop's target. An order step may carry a lock in its input; a step
that is repeated keeps its node and attempt. -/
def queued (node : ConfiguredNode) (step : FlowStep) (hop : Hop) (output : Value)
    (edgeType : String) : Option FlowStep :=
  if hop.repeats && node.nodeType ≠ "logic.retry" then some { step with input := hop.lockedInput }
  else
    ((edgeTargets evaluateJsonlogic graph step.nodeKey edgeType hop.context output).find? fun target =>
        target.key = hop.target).map fun target =>
      { nodeKey := target.key
        attempt := edgeAttempt step.nodeKey target.key output
        input := if target.nodeType = "action.place_order" then hop.lockedInput <|> some output
          else some output }

/-- Retries are counted until the node gives up. -/
def tally (edgeType : String) (retries : ℕ) : ℕ :=
  if edgeType = "on_retry" then retries + 1 else if edgeType = "on_error" then 0 else retries

/-- A step whose execution panics is the last of its chain. -/
def RetryChain.next (chain : RetryChain) (hop : Hop) : RetryChain :=
  match chain.step with
  | none => chain
  | some step =>
    match flowNode graph step.nodeKey with
    | none => { chain with step := none }
    | some node =>
      match emitted evaluateJsonlogic node step hop with
      | none => { chain with step := none }
      | some (output, edgeType) =>
        { step := queued evaluateJsonlogic graph node step hop output edgeType
          retries := if step.nodeKey = retryKey then tally edgeType chain.retries else chain.retries }

/-- A chain that comes back to the node after a retry comes from that retry, on the node's edge
to itself. -/
def RetryChain.ReturnsBySelfEdge (chain : RetryChain) (hop : Hop) : Prop :=
  ∀ step ∈ chain.step, ∀ child ∈ (chain.next evaluateJsonlogic graph retryKey hop).step,
    child.nodeKey = retryKey → (chain.next evaluateJsonlogic graph retryKey hop).retries ≠ 0 →
      step.nodeKey = retryKey ∧ ∀ node ∈ flowNode graph step.nodeKey,
        (emitted evaluateJsonlogic node step hop).map Prod.snd = some "on_retry"

instance (chain : RetryChain) (hop : Hop) :
    Decidable (chain.ReturnsBySelfEdge evaluateJsonlogic graph retryKey hop) :=
  inferInstanceAs (Decidable (∀ step ∈ chain.step,
    ∀ child ∈ (chain.next evaluateJsonlogic graph retryKey hop).step,
      child.nodeKey = retryKey → (chain.next evaluateJsonlogic graph retryKey hop).retries ≠ 0 →
        step.nodeKey = retryKey ∧ ∀ node ∈ flowNode graph step.nodeKey,
          (emitted evaluateJsonlogic node step hop).map Prod.snd = some "on_retry"))

def WithinBudget (node : ConfiguredNode) (chain : RetryChain) : Prop :=
  chain.retries ≤ retryBudget node - 1

/-- A step of the node has counted the retries that led to it. -/
def Counted (node : ConfiguredNode) (chain : RetryChain) : Prop :=
  WithinBudget node chain ∧
    ∀ step ∈ chain.step, step.nodeKey = node.key → (chain.retries : ℤ) + 1 ≤ step.attempt

end Chain

theorem retryMaxAttempts_le (node : ConfiguredNode) : retryMaxAttempts node ≤ retryBudget node := by
  have hpos : 1 ≤ retryBudget node := le_max_right _ _
  unfold retryMaxAttempts
  rw [Int.bmod_def]
  split <;> omega

theorem retryMaxAttempts_lt (node : ConfiguredNode) : retryMaxAttempts node < 2 ^ 31 := by
  unfold retryMaxAttempts
  rw [Int.bmod_def]
  split <;> omega

section Steps
variable (graph : TradeFlowGraphRuntime) {node : ConfiguredNode}

theorem executeLogicRetry_cases (node : ConfiguredNode) (step : FlowStep) (context : Value)
    (now : DateTime) {execution : RetryExecution}
    (h : executeLogicRetry evaluateJsonlogic node step context now = some execution) :
    (execution.edgeType = "on_retry" ∧ step.attempt < retryMaxAttempts node ∧
        execution.output.get "next_attempt" = some (jsonI64 (step.attempt + 1))) ∨
      (execution.edgeType = "on_error" ∧ execution.output.get "next_attempt" = none) ∨
      (execution.edgeType = "on_success" ∧ execution.output.get "next_attempt" = none) := by
  unfold executeLogicRetry at h
  simp only at h
  split at h
  · split at h
    · rename_i hlt
      obtain ⟨availableAt, -, rfl⟩ := Option.map_eq_some_iff.mp h
      exact .inl ⟨rfl, hlt, by simp [Value.get, field]⟩
    · obtain rfl := Option.some.inj h
      exact .inr (.inl ⟨rfl, by simp [Value.get, field]⟩)
  · obtain rfl := Option.some.inj h
    exact .inr (.inr ⟨rfl, by simp [Value.get, field]⟩)

theorem edgeAttempt_of_none {output : Value} (h : output.get "next_attempt" = none)
    (sourceKey targetKey : String) : edgeAttempt sourceKey targetKey output = 1 := by
  unfold edgeAttempt
  rw [h]
  split <;> rfl

theorem edgeAttempt_self {output : Value} {attempt : ℤ}
    (h : output.get "next_attempt" = some (jsonI64 attempt)) (hpos : 1 ≤ attempt)
    (hlt : attempt < 2 ^ 31) (key : String) : edgeAttempt key key output = attempt := by
  have hread : valueAsI64 (jsonI64 attempt) = some attempt := by
    have hrange : Value.asI64 (.number (.int attempt)) = some attempt := if_pos (by omega)
    simp [valueAsI64, jsonI64, hrange]
  unfold edgeAttempt
  rw [if_pos rfl, h, Option.bind_some, hread, Option.getD_some, max_eq_left hpos, Int.bmod_def]
  split <;> omega

theorem queued_cases {step child : FlowStep} {hop : Hop} {output : Value} {edgeType : String}
    (h : queued evaluateJsonlogic graph node step hop output edgeType = some child) :
    (node.nodeType ≠ "logic.retry" ∧ child.nodeKey = step.nodeKey ∧ child.attempt = step.attempt) ∨
      child.attempt = edgeAttempt step.nodeKey child.nodeKey output := by
  unfold queued at h
  split at h
  · rename_i hrepeats
    obtain rfl := Option.some.inj h
    exact .inl ⟨by simpa using (Bool.and_eq_true_iff.mp hrepeats).2, rfl, rfl⟩
  · obtain ⟨target, -, rfl⟩ := Option.map_eq_some_iff.mp h
    exact .inr rfl

theorem next_own (hnode : flowNode graph node.key = some node)
    (htype : node.nodeType = "logic.retry") {chain : RetryChain} {step : FlowStep}
    (hstep : chain.step = some step) (hown : step.nodeKey = node.key) {hop : Hop}
    {execution : RetryExecution}
    (hexecution : executeLogicRetry evaluateJsonlogic node step hop.context hop.now =
      some execution) :
    emitted evaluateJsonlogic node step hop = some (execution.output, execution.edgeType) ∧
      chain.next evaluateJsonlogic graph node.key hop =
        { step := queued evaluateJsonlogic graph node step hop execution.output execution.edgeType
          retries := tally execution.edgeType chain.retries } := by
  have hemitted : emitted evaluateJsonlogic node step hop =
      some (execution.output, execution.edgeType) := by
    rw [emitted, if_pos htype, hexecution, Option.map_some]
  refine ⟨hemitted, ?_⟩
  unfold RetryChain.next
  simp only [hstep, hown, hnode, hemitted, if_true]

theorem next_panicked (hnode : flowNode graph node.key = some node)
    (htype : node.nodeType = "logic.retry") {chain : RetryChain} {step : FlowStep}
    (hstep : chain.step = some step) (hown : step.nodeKey = node.key) {hop : Hop}
    (hexecution : executeLogicRetry evaluateJsonlogic node step hop.context hop.now = none) :
    chain.next evaluateJsonlogic graph node.key hop = { chain with step := none } := by
  have hemitted : emitted evaluateJsonlogic node step hop = none := by
    rw [emitted, if_pos htype, hexecution, Option.map_none]
  unfold RetryChain.next
  simp only [hstep, hown, hnode, hemitted]

theorem next_other {chain : RetryChain} {step : FlowStep} (hstep : chain.step = some step)
    (hother : step.nodeKey ≠ node.key) (hop : Hop) :
    (chain.next evaluateJsonlogic graph node.key hop).retries = chain.retries ∧
      ∀ child ∈ (chain.next evaluateJsonlogic graph node.key hop).step,
        child.nodeKey = node.key → child.attempt = 1 := by
  unfold RetryChain.next
  simp only [hstep]
  cases flowNode graph step.nodeKey with
  | none => exact ⟨rfl, by simp⟩
  | some other =>
    simp only [if_neg hother]
    cases emitted evaluateJsonlogic other step hop with
    | none => exact ⟨rfl, by simp⟩
    | some emission =>
      refine ⟨rfl, fun child hchild hkey => ?_⟩
      rcases queued_cases evaluateJsonlogic graph hchild with ⟨-, hsame, -⟩ | hattempt
      · exact absurd (hsame.symm.trans hkey) hother
      · rw [hattempt, edgeAttempt_other (by rw [hkey]; exact hother.symm)]

theorem counted_own (hnode : flowNode graph node.key = some node)
    (htype : node.nodeType = "logic.retry") {chain : RetryChain} {step : FlowStep} {hop : Hop}
    (hc : Counted node chain) (hstep : chain.step = some step) (hown : step.nodeKey = node.key)
    (hreturn : chain.ReturnsBySelfEdge evaluateJsonlogic graph node.key hop) :
    Counted node (chain.next evaluateJsonlogic graph node.key hop) := by
  obtain ⟨hbudget, hcount⟩ := hc
  have hattempt : (chain.retries : ℤ) + 1 ≤ step.attempt := hcount step hstep hown
  cases hexecution : executeLogicRetry evaluateJsonlogic node step hop.context hop.now with
  | none =>
    rw [next_panicked evaluateJsonlogic graph hnode htype hstep hown hexecution]
    exact ⟨hbudget, by simp⟩
  | some execution =>
    obtain ⟨hemitted, hnext⟩ := next_own evaluateJsonlogic graph hnode htype hstep hown hexecution
    unfold RetryChain.ReturnsBySelfEdge at hreturn
    rw [hnext] at hreturn ⊢
    have hchild : ∀ child ∈ queued evaluateJsonlogic graph node step hop execution.output
        execution.edgeType,
        child.attempt = edgeAttempt step.nodeKey child.nodeKey execution.output := by
      intro child hmem
      rcases queued_cases evaluateJsonlogic graph hmem with ⟨hne, -⟩ | hedge
      · exact absurd htype hne
      · exact hedge
    have hmax := retryMaxAttempts_le node
    rcases executeLogicRetry_cases evaluateJsonlogic node step hop.context hop.now hexecution with
      ⟨hedge, hlt, houtput⟩ | ⟨hedge, houtput⟩ | ⟨hedge, houtput⟩
    · have htally : tally execution.edgeType chain.retries = chain.retries + 1 := by
        rw [hedge]; rfl
      refine ⟨?_, fun child hmem hkey => ?_⟩
      · simp only [WithinBudget, htally]
        push_cast
        omega
      · have hself : child.attempt = step.attempt + 1 := by
          rw [hchild child hmem, hkey, hown]
          have hbound := retryMaxAttempts_lt node
          exact edgeAttempt_self houtput (by omega) (by omega) node.key
        rw [hself, htally]
        push_cast
        omega
    · have htally : tally execution.edgeType chain.retries = 0 := by rw [hedge]; rfl
      refine ⟨?_, fun child hmem _ => ?_⟩
      · have hpos : 1 ≤ retryBudget node := le_max_right _ _
        simp only [WithinBudget, htally]
        push_cast
        omega
      · rw [hchild child hmem, edgeAttempt_of_none houtput, htally]
        simp
    · have htally : tally execution.edgeType chain.retries = chain.retries := by rw [hedge]; rfl
      refine ⟨by simpa only [WithinBudget, htally] using hbudget, fun child hmem hkey => ?_⟩
      by_cases hzero : chain.retries = 0
      · rw [hchild child hmem, edgeAttempt_of_none houtput, htally, hzero]
        simp
      · obtain ⟨-, hretried⟩ := hreturn step hstep child hmem hkey (by rwa [htally])
        have hagain := hretried node (by rw [hown]; exact hnode)
        rw [hemitted, hedge] at hagain
        exact absurd (Option.some.inj hagain) (show "on_success" ≠ "on_retry" by decide)

theorem counted_next (hnode : flowNode graph node.key = some node)
    (htype : node.nodeType = "logic.retry") {chain : RetryChain} {hop : Hop}
    (hc : Counted node chain)
    (hreturn : chain.ReturnsBySelfEdge evaluateJsonlogic graph node.key hop) :
    Counted node (chain.next evaluateJsonlogic graph node.key hop) := by
  cases hstep : chain.step with
  | none => simpa [RetryChain.next, hstep] using hc
  | some step =>
    by_cases hown : step.nodeKey = node.key
    · exact counted_own evaluateJsonlogic graph hnode htype hc hstep hown hreturn
    · obtain ⟨hretries, hentry⟩ := next_other evaluateJsonlogic graph hstep hown hop
      refine ⟨by simpa only [WithinBudget, hretries] using hc.1, fun child hmem hkey => ?_⟩
      have hzero : (chain.next evaluateJsonlogic graph node.key hop).retries = 0 := by
        by_contra hne
        exact hown (hreturn step hstep child hmem hkey hne).1
      rw [hentry child hmem hkey, hzero]
      simp

end Steps

/-- In a chain that comes back to the retry node only on the node's edge to itself, the node
retries at most one time less than its budget before it gives up. -/
theorem retry_budget_kept (graph : TradeFlowGraphRuntime) (node : ConfiguredNode)
    (hnode : flowNode graph node.key = some node) (htype : node.nodeType = "logic.retry")
    (first : FlowStep) (hfirst : 1 ≤ first.attempt) (hops : List Hop)
    (hreturns : EachStep (RetryChain.next evaluateJsonlogic graph node.key)
      (RetryChain.ReturnsBySelfEdge evaluateJsonlogic graph node.key) ⟨some first, 0⟩ hops) :
    Throughout (RetryChain.next evaluateJsonlogic graph node.key) (WithinBudget node)
      ⟨some first, 0⟩ hops := by
  refine hreturns.throughout (fun chain (hc : Counted node chain) => hc.1)
    (fun chain hop hc hreturn => counted_next evaluateJsonlogic graph hnode htype hc hreturn) ⟨?_, ?_⟩
  · have hpos : 1 ≤ retryBudget node := le_max_right _ _
    simp only [WithinBudget]
    push_cast
    omega
  · intro step hstep _
    obtain rfl := Option.some.inj hstep
    simpa using hfirst

def alwaysRetrying : ConfiguredNode :=
  { key := "retry", nodeType := "logic.retry", config := .object [("expression", .bool true)] }

/-- The node retries twice on its edge to itself and gives up at its third attempt. -/
theorem self_retry_budget_kept :
    Throughout (RetryChain.next (fun expression _ => expression)
        { nodes := [alwaysRetrying], edges := [⟨"retry", "retry", "on_retry", none⟩] } "retry")
      (WithinBudget alwaysRetrying) ⟨some { nodeKey := "retry" }, 0⟩
      [{ target := "retry" }, { target := "retry" }, { target := "retry" }] := by
  refine retry_budget_kept (fun expression _ => expression) _ alwaysRetrying rfl rfl
    { nodeKey := "retry" } (by decide) _ ?_
  decide

/-! ### A loop through another node -/

/-- An action whose failures are retried: the two nodes lead to one another. -/
def usualLoop (action retry : ConfiguredNode) : TradeFlowGraphRuntime where
  nodes := [action, retry]
  edges := [⟨action.key, retry.key, "on_error", none⟩, ⟨retry.key, action.key, "on_retry", none⟩]

def usualRound (action retry : ConfiguredNode) (failure : Value) : List Hop :=
  [{ output := failure, edgeType := "on_error", target := retry.key }, { target := action.key }]

section UsualLoop
variable {action retry : ConfiguredNode}

theorem usual_loop_nodes (hkeys : action.key ≠ retry.key) :
    flowNode (usualLoop action retry) action.key = some action ∧
      flowNode (usualLoop action retry) retry.key = some retry := by
  simp [flowNode, usualLoop, hkeys]

theorem usual_loop_targets (hkeys : action.key ≠ retry.key) (context output : Value) :
    edgeTargets evaluateJsonlogic (usualLoop action retry) action.key "on_error" context output =
        [retry] ∧
      edgeTargets evaluateJsonlogic (usualLoop action retry) retry.key "on_retry" context output =
        [action] := by
  obtain ⟨haction, hretry⟩ := usual_loop_nodes hkeys
  constructor
  · have hcandidates : resolveTradeFlowCandidateEdges (usualLoop action retry) action.key "on_error" =
        [⟨action.key, retry.key, "on_error", none⟩] := by
      simp [resolveTradeFlowCandidateEdges, usualLoop, hkeys.symm]
    simp [edgeTargets, resolveTradeFlowTargets, hcandidates, tradeFlowEdgeConditionPasses, hretry]
  · have hcandidates : resolveTradeFlowCandidateEdges (usualLoop action retry) retry.key "on_retry" =
        [⟨retry.key, action.key, "on_retry", none⟩] := by
      simp [resolveTradeFlowCandidateEdges, usualLoop, hkeys]
    simp [edgeTargets, resolveTradeFlowTargets, hcandidates, tradeFlowEdgeConditionPasses, haction]

section Rounds
variable {failure : Value} (hkeys : action.key ≠ retry.key) (htype : retry.nodeType = "logic.retry")
  (haction : action.nodeType ≠ "logic.retry") (hconfig : retry.config.get "expression" = none)
  (hmax : 1 < retryMaxAttempts retry)
  (hfits : ((default : DateTime).plus
    (retryDelayMs retry { nodeKey := retry.key, input := some failure })).isSome)
  (hfailure : (failure.get "error").isSome)
include hconfig hmax hfits hfailure

theorem usual_loop_retried : ∃ execution,
    executeLogicRetry evaluateJsonlogic retry { nodeKey := retry.key, input := some failure }
      (.object []) default = some execution ∧ execution.edgeType = "on_retry" := by
  have hshould : shouldRetry evaluateJsonlogic retry
      { nodeKey := retry.key, input := some failure } (.object []) = true := by
    simpa [shouldRetry, hconfig] using hfailure
  obtain ⟨availableAt, hplus⟩ := Option.isSome_iff_exists.mp hfits
  unfold executeLogicRetry
  simp only [hshould, hmax, hplus, if_true, Option.map_some]
  exact ⟨_, rfl, rfl⟩

include hkeys htype haction

theorem usual_loop_round {chain : RetryChain} {step : FlowStep}
    (hstep : chain.step = some step) (hown : step.nodeKey = action.key) :
    let after := (usualRound action retry failure).foldl
      (RetryChain.next evaluateJsonlogic (usualLoop action retry) retry.key) chain
    after.retries = chain.retries + 1 ∧ ∃ again ∈ after.step, again.nodeKey = action.key := by
  obtain ⟨hnodeAction, hnodeRetry⟩ := usual_loop_nodes hkeys
  have hfailed : chain.next evaluateJsonlogic (usualLoop action retry) retry.key
      { output := failure, edgeType := "on_error", target := retry.key } =
      { step := some { nodeKey := retry.key, input := some failure }, retries := chain.retries } := by
    have htargets := (usual_loop_targets evaluateJsonlogic hkeys
      (.object []) failure).1
    have hemitted : emitted evaluateJsonlogic action step
        { output := failure, edgeType := "on_error", target := retry.key } =
        some (failure, "on_error") := if_neg haction
    unfold RetryChain.next
    simp only [hstep, hown, hnodeAction, hemitted, if_neg hkeys]
    simp [queued, hown, htargets, edgeAttempt_other hkeys.symm]
  obtain ⟨execution, hexecution, hretried⟩ :=
    usual_loop_retried evaluateJsonlogic hconfig hmax hfits hfailure
  have hhop : executeLogicRetry evaluateJsonlogic retry
      { nodeKey := retry.key, input := some failure } (Hop.context { target := action.key })
      (Hop.now { target := action.key }) = some execution := hexecution
  obtain ⟨-, hnext⟩ := next_own evaluateJsonlogic (usualLoop action retry) hnodeRetry htype
    (congrArg RetryChain.step hfailed) rfl hhop
  intro after
  have hafter : after = (chain.next evaluateJsonlogic (usualLoop action retry) retry.key
      { output := failure, edgeType := "on_error", target := retry.key }).next evaluateJsonlogic
      (usualLoop action retry) retry.key { target := action.key } := rfl
  rw [hafter, hnext, hfailed]
  refine ⟨by simp [hretried, tally], ?_⟩
  have htargets := (usual_loop_targets evaluateJsonlogic hkeys (.object []) execution.output).2
  simp [queued, hretried, htargets]

theorem usual_loop_rounds {chain : RetryChain} {step : FlowStep}
    (hstep : chain.step = some step) (hown : step.nodeKey = action.key) (rounds : ℕ) :
    ((List.replicate rounds (usualRound action retry failure)).flatten.foldl
      (RetryChain.next evaluateJsonlogic (usualLoop action retry) retry.key) chain).retries =
        chain.retries + rounds := by
  induction rounds generalizing chain step with
  | zero => rfl
  | succ rounds ih =>
    obtain ⟨hretries, again, hagain, hkey⟩ :=
      usual_loop_round evaluateJsonlogic hkeys htype haction hconfig hmax hfits hfailure hstep hown
    rw [List.replicate_succ, List.flatten_cons, List.foldl_append, ih hagain hkey, hretries]
    omega

end Rounds

end UsualLoop

/-- An order that fails three times is retried three times, with a budget of three attempts. -/
theorem usual_loop_exceeds_budget :
    let action : ConfiguredNode :=
      { key := "order", nodeType := "action.place_order", config := .object [] }
    let retry : ConfiguredNode :=
      { key := "retry", nodeType := "logic.retry", config := .object [("maxAttempts", jsonI64 3)] }
    ¬ Throughout (RetryChain.next (fun expression _ => expression) (usualLoop action retry) "retry")
      (WithinBudget retry) ⟨some { nodeKey := "order" }, 0⟩
      (List.replicate 3
        (usualRound action retry (.object [("error", .string "rejected")]))).flatten := by
  intro action retry hlaw
  have hkeys : action.key ≠ retry.key := by decide
  have hconfig : retry.config.get "expression" = none := rfl
  have hmax : 1 < retryMaxAttempts retry := by decide
  have hfits : ((default : DateTime).plus (retryDelayMs retry
      { nodeKey := "retry", input := some (.object [("error", .string "rejected")]) })).isSome := by
    decide
  have hfailure : ((Value.object [("error", .string "rejected")]).get "error").isSome := rfl
  have hstep : (RetryChain.mk (some { nodeKey := "order" }) 0).step =
      some { nodeKey := "order" } := rfl
  have hrounds := usual_loop_rounds (fun expression _ => expression) hkeys rfl (by decide) hconfig
    hmax hfits hfailure hstep rfl 3
  have hend := hlaw 6
  rw [List.take_of_length_le (by decide)] at hend
  simp only [WithinBudget] at hend
  rw [hrounds] at hend
  exact absurd hend (by decide)

end PolymarketBot.Flow
