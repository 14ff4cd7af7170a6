import PolymarketBot.Flow.OnceSteps

/-! The publish of a version resets the once state in the context of the version's run. The
keys under which earlier steps were queued and passed stay. -/

namespace PolymarketBot.Flow
open Lib

def flowStatePublishMarker : String := "__publish_marker"
def autoScopeMarketSlugKey : String := "auto_scope_market_slug"

def flowStateString (context : Value) (key : String) : Option String :=
  let text := match (context.get "state").bind fun v => v.get key with
    | some (.string s) => some (trim s)
    | some (.number n) => some n.text
    | _ => none
  text.filter (· ≠ "")

def nodeAutoScopeMarketSlug (context : Value) (nodeKey : String) : Option String :=
  (flowNodeStateString context nodeKey autoScopeMarketSlugKey).or
    (flowContextString context "marketSlug")

def isFixedOnceMarketPriceNode (node : ConfiguredNode) : Bool :=
  isTradeFlowMarketPriceOnceNode node && nodeMarketMode node = "fixed"

def publishResetExactKeys : List String :=
  [onceFiredKey, onceFiredAtKey, onceFiredMarketSlugKey, onceBlockLoggedKey,
    publishAutoScopeLockMarketSlugKey, autoScopeMarketSlugKey, "auto_scope_market_scope",
    "auto_scope_market_asset", "auto_scope_market_timeframe", "auto_scope_yes_token_id",
    "auto_scope_no_token_id", "auto_scope_resolved_token_id", "auto_scope_resolved_outcome_label",
    "auto_scope_selection_reason", "last_price", "last_ws_market_slug", "previous_price"]

def publishResetPrefixKeys : List String :=
  ["previous_price_", "price_samples_", "cross_pending_at_", "cross_pending_price_",
    "cross_pending_prev_", cycleWindowBoundaryMarkerPrefix, cycleWindowLastEvalPrefix]

/-- What the reset leaves of the state of a node. -/
def clearedNodeState (state : Fields) : Fields :=
  (publishResetExactKeys.foldl (fun fs key => dropField key fs) state).filter fun entry =>
    !publishResetPrefixKeys.any fun pre => startsWith pre entry.1

def clearTradeFlowMarketPricePublishResetState (nodeKey : String) (context : Value) :
    Value × Bool :=
  match context.get "nodeState" with
  | some (.object nodeState) =>
    match field nodeKey nodeState with
    | some (.object state) =>
      let kept := clearedNodeState state
      if kept.isEmpty then (setNested context "nodeState" (dropField nodeKey nodeState), true)
      else
        (setNested context "nodeState" (setField nodeKey (.object kept) nodeState),
          decide (kept.length < state.length))
    | _ => (context, false)
  | _ => (context, false)

/-- A node that fired in the market it is still on stays locked there. -/
def lockPublishedMarket (nodeKey marketSlug : String) : Draft Unit := do
  Draft.set nodeKey publishAutoScopeLockMarketSlugKey (.string marketSlug)
  Draft.remove nodeKey onceFiredKey
  Draft.remove nodeKey onceFiredAtKey
  Draft.remove nodeKey onceBlockLoggedKey
  Draft.remove nodeKey onceFiredMarketSlugKey

/-- What the publish does to one node, and whether it reports it as reset. -/
def resetOnceNodeForPublish (node : ConfiguredNode) (context : Value) : Value × Bool :=
  if !isTradeFlowMarketPriceOnceNode node then (context, false)
  else if isFixedOnceMarketPriceNode node then
    clearTradeFlowMarketPricePublishResetState node.key context
  else if nodeMarketMode node = "auto_scope" && !isTradeFlowMarketPriceOnceScopeMarket node &&
      flowNodeStateTruthy context node.key onceFiredKey then
    match trimmedSlug ((nodeAutoScopeMarketSlug context node.key).or
        (flowNodeStateString context node.key onceFiredMarketSlugKey)) with
    | some marketSlug => ((lockPublishedMarket node.key marketSlug).run context, true)
    | none => (context, false)
  else if nodeMarketMode node = "auto_scope" then (context, false)
  else
    ((clearTradeFlowMarketPriceOnceState node.key).run context,
      flowNodeStateTruthy context node.key onceFiredKey)

def resetOnceNodesForPublish : List ConfiguredNode → Value → Value × List String
  | [], context => (context, [])
  | node :: rest, context =>
    let (context, reported) := resetOnceNodeForPublish node context
    let (context, resetNodes) := resetOnceNodesForPublish rest context
    (context, if reported then node.key :: resetNodes else resetNodes)

structure PublishSync where
  context : Value
  previousMarker : Option String
  resetNodes : List String

def syncTradeFlowOnceStateForPublish (graph : TradeFlowGraphRuntime) (context : Value)
    (publishMarker : String) : PublishSync :=
  let previousMarker := flowStateString context flowStatePublishMarker
  if previousMarker = some publishMarker then ⟨context, previousMarker, []⟩
  else
    let (context, resetNodes) := resetOnceNodesForPublish graph.nodes context
    ⟨setFlowSection .state context flowStatePublishMarker (.string publishMarker), previousMarker,
      resetNodes⟩

/-- A publish brings the run's row in line, and the cache is built from the row again. -/
def OnceRun.publish (s : OnceRun) (graph : TradeFlowGraphRuntime) (publishMarker : String) :
    OnceRun × List String :=
  let sync := syncTradeFlowOnceStateForPublish graph
    (normalizeTradeFlowContext s.stored graph.context) publishMarker
  ({ s with stored := sync.context, cached := sync.context }, sync.resetNodes)

/-- The market of the step, and the context with it, if its condition and its protection
pass. -/
def passingView (node : ConfiguredNode) (input : Option Value) (reads : TriggerReads)
    (context : Value) : Option (Value × String) :=
  match prepareTriggerMarket node input reads context with
  | .error _ => none
  | .ok (context, marketSlug) =>
    if reads.entryTimingBlocked marketSlug then none
    else
      match reads.conditions context marketSlug with
      | .evaluated met hardIgnored edits =>
        let otherMarket := wsSourced input && wsMarketSlugFromStep input ≠ some marketSlug
        if met && !hardIgnored && !otherMarket && reads.protectionPasses then
          some (applyEdits edits context, marketSlug)
        else none
      | _ => none

def OnceEvent.queues {node : ConfiguredNode} : OnceEvent node → Bool
  | .tick _ _ | .enqueue _ _ => true
  | _ => false

/-! ### The reset context holds no once lock -/

/-- Nothing in the context keeps the node from firing. -/
structure Rearmed (nodeKey : String) (context : Value) : Prop where
  unfired : flowNodeState context nodeKey onceFiredKey = none
  unlocked : flowNodeState context nodeKey publishAutoScopeLockMarketSlugKey = none

/-- The edit neither marks a node fired nor locks it to a market. -/
def SetsNoLock (e : ContextEdit) : Prop :=
  e.NeverSets onceFiredKey ∧ e.NeverSets publishAutoScopeLockMarketSlugKey

theorem Rearmed.run {α : Type} {nodeKey : String} {context : Value} (h : Rearmed nodeKey context)
    {m : Draft α} (hm : m.All SetsNoLock) : Rearmed nodeKey (m.run context) where
  unfired := flowNodeState_absent (fun e he => (hm context e he).1) h.unfired
  unlocked := flowNodeState_absent (fun e he => (hm context e he).2) h.unlocked

theorem Rearmed.setFlowSection {nodeKey : String} {context : Value} (h : Rearmed nodeKey context)
    (sec : ContextSection) (key : String) (v : Value) :
    Rearmed nodeKey (setFlowSection sec context key v) where
  unfired := by rw [flowNodeState_setFlowSection, h.unfired]
  unlocked := by rw [flowNodeState_setFlowSection, h.unlocked]

theorem Rearmed.onceFired_false {nodeKey : String} {context : Value} (h : Rearmed nodeKey context)
    (onceScopeMarket : Bool) (marketSlug : Option String) :
    tradeFlowMarketPriceOnceFiredForScope context nodeKey onceScopeMarket marketSlug = false := by
  have hlock : flowNodeStateString context nodeKey publishAutoScopeLockMarketSlugKey = none := by
    simp only [flowNodeStateString, h.unlocked, Option.filter_none]
  have hfired : flowNodeStateTruthy context nodeKey onceFiredKey = false := by
    simp only [flowNodeStateTruthy, h.unfired, Option.map_none, Option.getD_none]
  unfold tradeFlowMarketPriceOnceFiredForScope
  cases trimmedSlug marketSlug with
  | none => simp [hfired]
  | some slug => simp [hlock, hfired]

theorem clearOnceState_setsNoLock (nodeKey : String) :
    (clearTradeFlowMarketPriceOnceState nodeKey).All SetsNoLock :=
  (clearOnceState_edits nodeKey).mono fun _ he => ⟨he.neverSets _, he.neverSets _⟩

theorem syncOnceScope_setsNoLock (nodeKey : String) (onceScopeMarket : Bool)
    (marketSlug : Option String) :
    (syncTradeFlowMarketPriceOnceScopeState nodeKey onceScopeMarket marketSlug).All SetsNoLock :=
  (syncOnceScope_edits nodeKey onceScopeMarket marketSlug).mono fun _ he =>
    ⟨he.neverSets _, he.neverSets _⟩

theorem field_filter (fs : Fields) (keep : String → Bool) (key : String) :
    field key (fs.filter fun entry => keep entry.1) =
      if keep key then field key fs else none := by
  induction fs with
  | nil => simp [field]
  | cons entry rest ih =>
    obtain ⟨k, w⟩ := entry
    by_cases hk : k = key
    · subst hk
      cases hkeep : keep k with
      | true => simp [hkeep, field]
      | false => simpa [hkeep, field] using ih
    · cases hkeep : keep k with
      | true => simp [hkeep, field, hk, ih]
      | false => simpa [hkeep, field, hk] using ih

theorem field_dropFields (keys : List String) (fs : Fields) (key : String) :
    field key (keys.foldl (fun fs key => dropField key fs) fs) =
      if key ∈ keys then none else field key fs := by
  induction keys generalizing fs with
  | nil => simp
  | cons first rest ih =>
    rw [List.foldl_cons, ih, field_dropField]
    by_cases hfirst : key = first <;> simp [hfirst]

theorem field_clearedNodeState {key : String} (hkey : key ∈ publishResetExactKeys)
    (state : Fields) : field key (clearedNodeState state) = none := by
  unfold clearedNodeState
  rw [field_filter _ (fun key => !publishResetPrefixKeys.any fun pre => startsWith pre key),
    field_dropFields, if_pos hkey, ite_self]

theorem field_clearedNodeState_absent {key : String} {state : Fields}
    (h : field key state = none) : field key (clearedNodeState state) = none := by
  unfold clearedNodeState
  rw [field_filter _ (fun key => !publishResetPrefixKeys.any fun pre => startsWith pre key),
    field_dropFields, h, ite_self, ite_self]

theorem clearPublishReset_absent {nodeKey stateKey : String} {context : Value} (cleared : String)
    (h : flowNodeState context nodeKey stateKey = none ∨
      nodeKey = cleared ∧ stateKey ∈ publishResetExactKeys) :
    flowNodeState (clearTradeFlowMarketPricePublishResetState cleared context).1 nodeKey stateKey =
      none := by
  -- Where the node has no state to clear, a removal would leave the context as it is too.
  have hnone : removeFlowNodeState context cleared stateKey = context →
      flowNodeState context nodeKey stateKey = none := by
    intro hsame
    have hremoved := flowNodeState_removeFlowNodeState context cleared stateKey nodeKey stateKey
    rw [hsame] at hremoved
    rcases h with h | h
    · exact h
    · rw [hremoved, if_pos ⟨h.1, rfl⟩]
  unfold clearTradeFlowMarketPricePublishResetState
  split
  next nodeState hroot =>
    have hstates : nestedFields context "nodeState" = nodeState := by simp [nestedFields, hroot]
    split
    next state hstate =>
      have hother : nodeKey ≠ cleared →
          field stateKey ((field nodeKey nodeState).getD .null).fields = none := by
        intro hne
        rcases h with h | h
        · rw [← hstates, ← flowNodeState_eq]
          exact h
        · exact absurd h.1 hne
      have hkept : nodeKey = cleared → field stateKey (clearedNodeState state) = none := by
        intro hnode
        rcases h with h | h
        · rw [flowNodeState_eq, hstates, hnode, hstate] at h
          exact field_clearedNodeState_absent h
        · exact field_clearedNodeState h.2 state
      dsimp only
      split
      · rw [flowNodeState_eq, nestedFields_setNested, field_dropField]
        by_cases hnode : nodeKey = cleared
        · rw [if_pos hnode]
          simp only [Option.getD_none, Value.fields, field]
        · rw [if_neg hnode]
          exact hother hnode
      · rw [flowNodeState_eq, nestedFields_setNested, field_setField]
        by_cases hnode : nodeKey = cleared
        · rw [if_pos hnode, Option.getD_some, Value.fields_object]
          exact hkept hnode
        · rw [if_neg hnode]
          exact hother hnode
    next hstate =>
      refine hnone ?_
      unfold removeFlowNodeState
      rw [hroot]
      dsimp only
      split
      next state hobject => exact absurd hobject (hstate state)
      next => rfl
  next hroot =>
    refine hnone ?_
    unfold removeFlowNodeState
    split
    next nodeState hobject => exact absurd hobject (hroot nodeState)
    next => rfl

theorem lockPublishedMarket_other (cleared marketSlug : String) (context : Value)
    {nodeKey : String} (hne : nodeKey ≠ cleared) (stateKey : String) :
    flowNodeState ((lockPublishedMarket cleared marketSlug).run context) nodeKey stateKey =
      flowNodeState context nodeKey stateKey := by
  have hedits : (lockPublishedMarket cleared marketSlug context).2 =
      [.setNodeState cleared publishAutoScopeLockMarketSlugKey (.string marketSlug),
        .removeNodeState cleared onceFiredKey, .removeNodeState cleared onceFiredAtKey,
        .removeNodeState cleared onceBlockLoggedKey,
        .removeNodeState cleared onceFiredMarketSlugKey] := rfl
  unfold Draft.run
  rw [hedits]
  simp only [applyEdits, List.foldl_cons, List.foldl_nil, ContextEdit.apply,
    flowNodeState_removeFlowNodeState, flowNodeState_setFlowNodeState, hne, false_and, if_false]

theorem Rearmed.resetNode {nodeKey : String} {context : Value} (h : Rearmed nodeKey context)
    (node : ConfiguredNode) : Rearmed nodeKey (resetOnceNodeForPublish node context).1 := by
  unfold resetOnceNodeForPublish
  split
  · exact h
  split
  · exact ⟨clearPublishReset_absent _ (.inl h.unfired), clearPublishReset_absent _ (.inl h.unlocked)⟩
  split
  next hlocks =>
    have hne : nodeKey ≠ node.key := by
      intro hsame
      have hfired : flowNodeStateTruthy context node.key onceFiredKey = false := by
        rw [← hsame]
        simp only [flowNodeStateTruthy, h.unfired, Option.map_none, Option.getD_none]
      rw [hfired, Bool.and_false] at hlocks
      cases hlocks
    split
    · exact ⟨(lockPublishedMarket_other _ _ _ hne _).trans h.unfired,
        (lockPublishedMarket_other _ _ _ hne _).trans h.unlocked⟩
    · exact h
  next =>
    split
    · exact h
    · exact h.run (clearOnceState_setsNoLock node.key)

theorem resetNode_rearms {node : ConfiguredNode} (hfixed : isFixedOnceMarketPriceNode node = true)
    (context : Value) : Rearmed node.key (resetOnceNodeForPublish node context).1 := by
  have honce : isTradeFlowMarketPriceOnceNode node = true := by
    unfold isFixedOnceMarketPriceNode at hfixed
    exact (Bool.and_eq_true_iff.mp hfixed).1
  unfold resetOnceNodeForPublish
  simp only [honce, hfixed, Bool.not_true, Bool.false_eq_true, if_false, if_true]
  exact ⟨clearPublishReset_absent _ (.inr ⟨rfl, by decide⟩),
    clearPublishReset_absent _ (.inr ⟨rfl, by decide⟩)⟩

theorem Rearmed.resetNodes {nodeKey : String} {context : Value} (h : Rearmed nodeKey context)
    (nodes : List ConfiguredNode) :
    Rearmed nodeKey (resetOnceNodesForPublish nodes context).1 := by
  induction nodes generalizing context with
  | nil => exact h
  | cons node rest ih => exact ih (h.resetNode node)

theorem resetNodes_rearms {nodes : List ConfiguredNode} {node : ConfiguredNode}
    (hnode : node ∈ nodes) (hfixed : isFixedOnceMarketPriceNode node = true) (context : Value) :
    Rearmed node.key (resetOnceNodesForPublish nodes context).1 := by
  induction nodes generalizing context with
  | nil => cases hnode
  | cons first rest ih =>
    rcases List.mem_cons.mp hnode with hfirst | hrest
    · have hcleared := resetNode_rearms hfixed context
      rw [hfirst] at hcleared ⊢
      exact hcleared.resetNodes rest
    · exact ih hrest (resetOnceNodeForPublish first context).1

theorem publish_rearms (s : OnceRun) (graph : TradeFlowGraphRuntime) (publishMarker : String)
    {node : ConfiguredNode} (hnode : node ∈ graph.nodes)
    (hfixed : isFixedOnceMarketPriceNode node = true)
    (hreset : (s.publish graph publishMarker).2 ≠ []) :
    Rearmed node.key (s.publish graph publishMarker).1.stored := by
  unfold OnceRun.publish syncTradeFlowOnceStateForPublish at hreset ⊢
  dsimp only at hreset ⊢
  split at hreset
  · exact absurd rfl hreset
  next hmarker =>
    rw [if_neg hmarker]
    have hrearmed := resetNodes_rearms hnode hfixed
      (normalizeTradeFlowContext s.stored graph.context)
    dsimp only
    exact hrearmed.setFlowSection .state _ _

/-! ### From the publish to the next step -/

theorem spares_setsNoLock {α : Type} {m : Draft α}
    (h : ∀ stateKey, isWsTargetKey stateKey = false → m.All (·.Spares stateKey)) :
    m.All SetsNoLock := by
  have hfired := h onceFiredKey (by decide)
  have hlocked := h publishAutoScopeLockMarketSlugKey (by decide)
  intro context e he
  exact ⟨(hfired context e he).neverSets, (hlocked context e he).neverSets⟩

theorem logOnceBlocked_setsNoLock (spec : WsOpenPositionPriceNodeSpec) :
    (logOnceBlocked spec).All SetsNoLock := by
  unfold logOnceBlocked
  refine .bind .read fun context => ?_
  have hfired : onceBlockLoggedKey ≠ onceFiredKey := by decide
  have hlocked : onceBlockLoggedKey ≠ publishAutoScopeLockMarketSlugKey := by decide
  have hlog : (Draft.set spec.nodeKey onceBlockLoggedKey (.bool true)).All SetsNoLock :=
    .edit ⟨hfired, hlocked⟩
  split
  · exact .pure false
  · exact .bind hlog fun _ => .pure true

theorem evaluateWsTarget_setsNoLock (chrono : Chrono) (runId : ℤ)
    (spec : WsOpenPositionPriceNodeSpec) (quote : WsQuote) (changed : Bool) :
    (evaluateWsTarget chrono runId spec quote changed).All SetsNoLock := by
  have hrecord : (recordPrice spec quote.price).All SetsNoLock :=
    spares_setsNoLock fun _ h => recordPrice_spares spec h quote.price
  have hdecision : ∀ previous crossed mode,
      (wsDecision chrono spec quote previous crossed mode).All SetsNoLock := fun previous _ _ =>
    spares_setsNoLock fun _ h => wsDecision_spares spec h chrono quote previous _ _
  unfold evaluateWsTarget
  refine .bind .read fun context => ?_
  extract_lets previous
  split
  · exact .pure _
  · refine .bind hrecord fun _ => .bind (hdecision _ _ _) fun decision => ?_
    split
    split
    · exact .pure _
    · exact .bind .read fun context => .pure _

theorem processWsTarget_setsNoLock (chrono : Chrono) (runId : ℤ)
    (spec : WsOpenPositionPriceNodeSpec) (quote : WsQuote) :
    (processWsTarget chrono runId spec quote).All SetsNoLock := by
  have hlast : (syncLastWsMarketSlug spec).All SetsNoLock :=
    spares_setsNoLock fun _ h => syncLastWsMarketSlug_spares spec h
  unfold processWsTarget
  split
  · exact .pure _
  split
  · exact .pure _
  split
  · exact .pure _
  refine .bind (syncOnceScope_setsNoLock _ _ _) fun _ => .bind hlast fun changed => ?_
  refine .bind .read fun context => ?_
  split
  · exact .bind (logOnceBlocked_setsNoLock spec) fun _ => .pure _
  · exact evaluateWsTarget_setsNoLock chrono runId spec quote changed

/-- Between the publish and a step the row and the key table stay as they were, and the cache
keeps the node armed. -/
structure QueuedSince (nodeKey : String) (published s : OnceRun) : Prop where
  stored : s.stored = published.stored
  idempotencyKeys : s.idempotencyKeys = published.idempotencyKeys
  cached : Rearmed nodeKey s.cached

theorem QueuedSince.step (chrono : Chrono) (runId : ℤ) {node : ConfiguredNode}
    {published s : OnceRun} (h : QueuedSince node.key published s) {event : OnceEvent node}
    (hqueues : event.queues = true) :
    QueuedSince node.key published (onceStep chrono runId s event) := by
  cases event with
  | tick spec quote =>
    have hcached := h.cached.run (processWsTarget_setsNoLock chrono runId
      spec.toWsOpenPositionPriceNodeSpec quote)
    exact ⟨h.stored, h.idempotencyKeys, hcached⟩
  | enqueue idempotencyKey input => exact ⟨h.stored, h.idempotencyKeys, h.cached⟩
  | start step reads => cases hqueues
  | finish step reply firedAt => cases hqueues
  | writeContext context => cases hqueues
  | writeCache context => cases hqueues
  | recordKey key => cases hqueues

theorem QueuedSince.run (chrono : Chrono) (runId : ℤ) {node : ConfiguredNode}
    {published s : OnceRun} (h : QueuedSince node.key published s) (waiting : List (OnceEvent node))
    (hqueues : ∀ event ∈ waiting, event.queues = true) :
    QueuedSince node.key published (waiting.foldl (onceStep chrono runId) s) := by
  induction waiting generalizing s with
  | nil => exact h
  | cons event rest ih =>
    have hfirst := h.step chrono runId (hqueues event (List.mem_cons_self ..))
    exact ih hfirst fun e he => hqueues e (List.mem_cons_of_mem _ he)

section Next
variable {node : ConfiguredNode} {input : Option Value} {reads : TriggerReads}

theorem Rearmed.setMarket {context : Value} (h : Rearmed node.key context) (marketSlug : String) :
    Rearmed node.key (syncOnceScope node marketSlug
      (setFlowContextMarketSlug node marketSlug context)) := by
  have hmarket : Rearmed node.key (setFlowContextMarketSlug node marketSlug context) := by
    unfold setFlowContextMarketSlug
    split
    · exact h
    · exact h.setFlowSection .flowContext _ _
  exact hmarket.run (syncOnceScope_setsNoLock _ _ _)

theorem Rearmed.prepared (hfixed : isFixedOnceMarketPriceNode node = true) {context : Value}
    (h : Rearmed node.key context) {after : Value} {marketSlug : String}
    (hprepared : prepareTriggerMarket node input reads context = .ok (after, marketSlug)) :
    Rearmed node.key after := by
  have hmode : nodeAutoScopeMode node = false := by
    simp only [isFixedOnceMarketPriceNode, Bool.and_eq_true, decide_eq_true_eq] at hfixed
    simp [nodeAutoScopeMode, hfixed.2]
  have hresolved : resolveTriggerMarketSlug node input reads context =
      .ok (context, fixedMarketSlug node context) := by
    simp only [resolveTriggerMarketSlug, hmode, Bool.false_eq_true, if_false]
  unfold prepareTriggerMarket at hprepared
  rw [hresolved] at hprepared
  simp only [bind, Except.bind] at hprepared
  split at hprepared
  · cases hprepared
  split at hprepared
  · split at hprepared
    · cases hprepared
      exact (h.setMarket _).setMarket _
    · cases hprepared
      exact h.setMarket _
  · cases hprepared
    exact h.setMarket _

theorem execute_passing (hfixed : isFixedOnceMarketPriceNode node = true) {context : Value}
    (h : Rearmed node.key context) {view : Value} {marketSlug : String}
    (hpassing : passingView node input reads context = some (view, marketSlug)) :
    executeTriggerMarketPrice node input reads context = .passing view marketSlug := by
  unfold passingView at hpassing
  unfold executeTriggerMarketPrice
  cases hprepared : prepareTriggerMarket node input reads context with
  | error progress =>
    rw [hprepared] at hpassing
    cases hpassing
  | ok prepared =>
    obtain ⟨after, slug⟩ := prepared
    have hopen : onceFiredForScope node after slug = false :=
      (h.prepared hfixed hprepared).onceFired_false _ _
    rw [hprepared] at hpassing
    dsimp only at hpassing ⊢
    unfold evaluateTrigger
    simp only [hopen, Bool.and_false, Bool.false_eq_true, if_false]
    split at hpassing
    · cases hpassing
    next htiming =>
      rw [if_neg htiming]
      split at hpassing
      next met hardIgnored edits hconditions =>
        rw [hconditions]
        dsimp only
        split at hpassing
        next hmet =>
          rw [if_pos hmet]
          cases hpassing
          rfl
        next => cases hpassing
      next => cases hpassing

/-- A step is taken up, and the key table answers it. -/
def runOfStep (node : ConfiguredNode) (step : ℕ) (reads : TriggerReads) (reply : RecordReply)
    (firedAt : String) : List (OnceEvent node) :=
  [.start step reads, .finish step reply firedAt]

/-- The run has one more execution, and it passed with its routes. -/
def FiredWithRoutes (before after : OnceRun) : Prop :=
  ∃ scope execution, after.executions = before.executions ++ [(some scope, execution)] ∧
    execution.pass = true ∧ execution.routes = ["default"]

theorem pass_fires_iff (runId : ℤ) (honce : nodeOnceMode node = true) (s : OnceRun) (step : ℕ)
    (view : Value) (marketSlug firedAt : String) (reply : RecordReply) :
    FiredWithRoutes s (s.pass runId node step input view marketSlug firedAt reply) ↔
      tradeFlowDeferOnceUntilOrderAccepted node = true ∨
        reply = .answered ∧ onceFireKey node runId view marketSlug ∉ s.idempotencyKeys := by
  unfold OnceRun.pass finishTriggerMarketPrice
  cases hdefer : tradeFlowDeferOnceUntilOrderAccepted node with
  | true =>
    have hfires : firesOnceAtPass node = false := by simp [firesOnceAtPass, hdefer]
    simp only [hfires, Bool.not_false, if_true, true_or, iff_true]
    exact ⟨_, _, rfl, rfl, rfl⟩
  | false =>
    have hfires : firesOnceAtPass node = true := by simp [firesOnceAtPass, hdefer, honce]
    simp only [hfires, Bool.not_true, Bool.false_eq_true, if_false, false_or]
    cases reply with
    | lost applied =>
      have hsame : ∀ keys, ¬ FiredWithRoutes s
          { s.setStatus step .ended with idempotencyKeys := keys } := by
        intro keys hfired
        obtain ⟨scope, execution, hadded, -⟩ := hfired
        simp [OnceRun.setStatus] at hadded
      simp only [hsame, reduceCtorEq, false_and]
    | answered =>
      unfold tryRecordIdempotencyKey
      by_cases hkey : onceFireKey node runId view marketSlug ∈ s.idempotencyKeys
      · simp only [hkey, not_true_eq_false, and_false, iff_false]
        intro hfired
        obtain ⟨scope, execution, hadded, hpass, -⟩ := hfired
        have hsame := List.append_cancel_left hadded
        simp only [List.cons.injEq, Prod.mk.injEq] at hsame
        rw [← hsame.1.2] at hpass
        cases hpass
      · simp only [hkey, not_false_eq_true, and_self, iff_true]
        exact ⟨_, _, rfl, rfl, rfl⟩

theorem runOfStep_passing (chrono : Chrono) (runId : ℤ) {s : OnceRun} {step : ℕ}
    {stepKey : Option String} (hqueued : s.steps[step]? = some ⟨stepKey, input, .queued⟩)
    {view : Value} {marketSlug : String}
    (hpassing : executeTriggerMarketPrice node input reads s.stored = .passing view marketSlug)
    (reply : RecordReply) (firedAt : String) :
    (runOfStep node step reads reply firedAt).foldl (onceStep chrono runId) s =
      (s.setStatus step (.passing view marketSlug)).pass runId node step input view marketSlug
        firedAt reply := by
  have hstart : onceStep chrono runId s (.start step reads : OnceEvent node) =
      s.setStatus step (.passing view marketSlug) := by
    simp only [onceStep, hqueued, hpassing, OnceRun.begin]
  have hrow : (s.setStatus step (.passing view marketSlug)).steps[step]? =
      some ⟨stepKey, input, .passing view marketSlug⟩ := by
    simp [OnceRun.setStatus, hqueued]
  simp only [runOfStep, List.foldl_cons, List.foldl_nil, hstart]
  simp only [onceStep, hrow]

end Next

/-- After a publish that reports a fixed once node, the next step whose condition and protection
pass fires exactly when its key was not used before the publish, and a tick that meets the
condition queues a step exactly when none was ever queued under its key. -/
theorem publish_rearms_iff (chrono : Chrono) (runId : ℤ) (graph : TradeFlowGraphRuntime)
    (node : ConfiguredNode) (hnode : node ∈ graph.nodes)
    (hfixed : isFixedOnceMarketPriceNode node = true) (stored cached : Value)
    (idempotencyKeys : List String) (events waiting : List (OnceEvent node))
    (publishMarker : String) :
    let s := events.foldl (onceStep chrono runId) ⟨stored, cached, [], idempotencyKeys, []⟩
    let published := s.publish graph publishMarker
    let later := waiting.foldl (onceStep chrono runId) published.1
    node.key ∈ published.2 → (∀ event ∈ waiting, event.queues = true) →
      (∀ step stepKey input reads view marketSlug reply firedAt,
        later.steps[step]? = some ⟨stepKey, input, .queued⟩ →
        passingView node input reads later.stored = some (view, marketSlug) →
        (FiredWithRoutes later
            ((runOfStep node step reads reply firedAt).foldl (onceStep chrono runId) later) ↔
          tradeFlowDeferOnceUntilOrderAccepted node = true ∨
            reply = .answered ∧ onceFireKey node runId view marketSlug ∉ s.idempotencyKeys)) ∧
      ∀ (spec : TriggerSpec node) (quote : WsQuote),
        TickSatisfies chrono spec.toWsOpenPositionPriceNodeSpec quote later.cached →
        let key := wsOnceKey runId spec.toWsOpenPositionPriceNodeSpec
          (flowNodeReentryGeneration later.cached node.key)
        ((∃ input, (onceStep chrono runId later (.tick spec quote)).steps =
            later.steps ++ [⟨some key, some input, .queued⟩]) ↔
          ∀ row ∈ later.steps, row.idempotencyKey ≠ some key) := by
  intro s published later hreported hqueues
  have honce : isTradeFlowMarketPriceOnceNode node = true := by
    unfold isFixedOnceMarketPriceNode at hfixed
    exact (Bool.and_eq_true_iff.mp hfixed).1
  have hrearmed : Rearmed node.key published.1.stored :=
    publish_rearms s graph publishMarker hnode hfixed (List.ne_nil_of_mem hreported)
  have hlater : QueuedSince node.key published.1 later :=
    QueuedSince.run chrono runId ⟨rfl, rfl, hrearmed⟩ waiting hqueues
  have hkeys : later.idempotencyKeys = s.idempotencyKeys := hlater.idempotencyKeys
  constructor
  · intro step stepKey input reads view marketSlug reply firedAt hqueued hview
    have harmed : Rearmed node.key later.stored := by
      rw [hlater.stored]
      exact hrearmed
    have hpassing := execute_passing hfixed harmed hview
    have hmode : nodeOnceMode node = true := by
      simp only [isTradeFlowMarketPriceOnceNode, Bool.and_eq_true, decide_eq_true_eq] at honce
      simp [nodeOnceMode, honce.2]
    rw [runOfStep_passing chrono runId hqueued hpassing, ← hkeys]
    exact pass_fires_iff runId hmode (later.setStatus step (.passing view marketSlug)) step view
      marketSlug firedAt reply
  · intro spec quote hsatisfies key
    have hview : Rearmed node.key (tickView spec.toWsOpenPositionPriceNodeSpec later.cached) := by
      have hlast : (syncLastWsMarketSlug spec.toWsOpenPositionPriceNodeSpec).All SetsNoLock :=
        spares_setsNoLock fun _ h => syncLastWsMarketSlug_spares _ h
      exact (hlater.cached.run (syncOnceScope_setsNoLock _ _ _)).run hlast
    have hunfired : NotMarkedFired spec.toWsOpenPositionPriceNodeSpec later.cached := by
      unfold NotMarkedFired
      rw [spec.nodeKey_eq]
      exact hview.onceFired_false _ _
    obtain ⟨input, hsteps⟩ := onceStep_tick chrono runId honce later spec quote hunfired hsatisfies
    rw [hsteps]
    exact enqueueOnceStep_adds_iff later.steps key input

def oneTriggerGraph : TradeFlowGraphRuntime := { nodes := [fixedOnceTrigger] }

/-- A context of the version as it was published first, with a price under the trigger. -/
def publishedContext : Value :=
  .object [("state", .object [("__publish_marker", .string "101:1000")]),
    ("nodeState", .object [("trigger", .object [("last_price", jsonF64 (2 / 5))])])]

/-- A step that waits at the publish of a trigger that has not fired. -/
theorem publish_rearms_unfired :
    let events : List (OnceEvent fixedOnceTrigger) := [.enqueue none none]
    let s := events.foldl (onceStep idleChrono 42) ⟨publishedContext, .object [], [], [], []⟩
    let published := s.publish oneTriggerGraph "101:2000"
    published.2 = ["trigger"] ∧
      FiredWithRoutes published.1 ((runOfStep fixedOnceTrigger 0 readsMet .answered "t0").foldl
        (onceStep idleChrono 42) published.1) ∧
      ∃ input, (onceStep idleChrono 42 published.1 (.tick levelSpec aboveLevel)).steps =
        published.1.steps ++ [⟨some "ws-once:42:trigger", some input, .queued⟩] := by
  intro events s published
  have hreported : published.2 = ["trigger"] := by decide +kernel
  have hrearmed := publish_rearms_iff idleChrono 42 oneTriggerGraph fixedOnceTrigger
    (List.mem_singleton.mpr rfl) (by decide +kernel) publishedContext (.object []) [] events []
    "101:2000" (hreported ▸ List.mem_singleton.mpr rfl) (by simp)
  have hqueued : published.1.steps = [⟨none, none, .queued⟩] := rfl
  have hkeys : s.idempotencyKeys = [] := rfl
  have hsatisfies : TickSatisfies idleChrono levelSpec.toWsOpenPositionPriceNodeSpec aboveLevel
      published.1.cached :=
    ⟨by decide +kernel, by decide +kernel, by decide +kernel, by decide +kernel⟩
  have hfires : FiredWithRoutes published.1 ((runOfStep fixedOnceTrigger 0 readsMet .answered
      "t0").foldl (onceStep idleChrono 42) published.1) := by
    have hpasses : (passingView fixedOnceTrigger none readsMet published.1.stored).isSome = true :=
      by decide +kernel
    obtain ⟨⟨view, marketSlug⟩, hview⟩ := Option.isSome_iff_exists.mp hpasses
    have hrow : published.1.steps[0]? = some ⟨none, none, .queued⟩ := by
      rw [hqueued]
      rfl
    have hstep := hrearmed.1 0 none none readsMet view marketSlug .answered "t0" hrow hview
    exact hstep.mpr (.inr ⟨rfl, by rw [hkeys]; exact List.not_mem_nil⟩)
  have hkey : wsOnceKey 42 levelSpec.toWsOpenPositionPriceNodeSpec
      (flowNodeReentryGeneration published.1.cached "trigger") = "ws-once:42:trigger" := by
    decide +kernel
  have hfree : ∀ row ∈ published.1.steps, row.idempotencyKey ≠ some (wsOnceKey 42
      levelSpec.toWsOpenPositionPriceNodeSpec
      (flowNodeReentryGeneration published.1.cached "trigger")) := by
    simp [hqueued]
  have htick := (hrearmed.2 levelSpec aboveLevel hsatisfies).mpr hfree
  rw [← hkey]
  exact ⟨hreported, hfires, htick⟩

/-- The trigger fires from a websocket step and the version is published again. The publish
reports the trigger as reset, but its next step is refused at the once check though its
condition and its protection pass, and a tick that meets the condition queues nothing. -/
theorem published_trigger_refused :
    let events : List (OnceEvent fixedOnceTrigger) := [.tick levelSpec aboveLevel,
      .start 0 readsMet, .finish 0 .answered "t0", .enqueue none none]
    let s := events.foldl (onceStep idleChrono 42) ⟨publishedContext, .object [], [], [], []⟩
    let published := s.publish oneTriggerGraph "101:2000"
    let after := (runOfStep fixedOnceTrigger 1 readsMet .answered "t1").foldl
      (onceStep idleChrono 42) published.1
    published.2 = ["trigger"] ∧
      (passingView fixedOnceTrigger none readsMet published.1.stored).isSome = true ∧
      after.executions.map (fun e => e.2.pass) = [true, false] ∧
      TickSatisfies idleChrono levelSpec.toWsOpenPositionPriceNodeSpec aboveLevel
        published.1.cached ∧
      (onceStep idleChrono 42 published.1 (.tick levelSpec aboveLevel)).steps.length =
        published.1.steps.length := by
  intro events s published after
  exact ⟨by decide +kernel, by decide +kernel, by decide +kernel,
    ⟨by decide +kernel, by decide +kernel, by decide +kernel, by decide +kernel⟩,
    by decide +kernel⟩

end PolymarketBot.Flow
