import PolymarketBot.Flow.ContextWriters
import PolymarketBot.Flow.OnceNode
import PolymarketBot.Lib.Runs

/-! The re-entry after a stop loss: a fill of a stop-loss child counts one attempt for the
market of its parent and queues a step of the trigger that entered the market. -/

namespace PolymarketBot.Flow
open Lib.Overwrite Lib.Runs

structure StagedChild where
  id : ℤ
  isStaged : Bool
  isTerminal : Bool

/-- What the session of a pair-locked parent answers. -/
inductive PairLockReading
  | notPairLock
  | sessionMissing
  | session (isLocked surfaceActive : Bool) (flowNodeKey : Option String)

structure StopLossParent where
  reenterOnSlHit : Bool
  stagedSlReentryOnlyAfterAllStages : Bool
  originFlowRunId : Option ℤ
  originFlowNodeKey : Option String
  reentryTriggerNodeKey : Option String
  reentryMaxAttempts : ℤ
  maxAttempts_lt : reentryMaxAttempts < 2 ^ 31
  marketSlug : String

inductive GraphReading
  | versionMissing
  | unreadable
  | nodes (nodes : List ConfiguredNode)

/-- A filled stop-loss child of a parent and what the scheduler meets outside the run: the
other children, the pair session, the published graph, and the two writes that can fail. -/
structure StopLossFill where
  parent : StopLossParent
  child : StagedChild
  siblings : List StagedChild
  pairLock : PairLockReading
  graph : GraphReading
  now : Instant
  contextFails : Bool
  enqueueFails : Bool

inductive ReentryOutcome
  | ignored
  | event (eventType : String) (reason : Option String)
  | failed
  deriving DecidableEq

def skipped (reason : String) : ReentryOutcome := .event "reentry_skipped" (some reason)

def shouldDeferReentryUntilAllStagedSlComplete (fill : StopLossFill) : Bool :=
  fill.parent.stagedSlReentryOnlyAfterAllStages && fill.child.isStaged &&
    fill.siblings.any fun sibling =>
      sibling.id ≠ fill.child.id && sibling.isStaged && !sibling.isTerminal

/-- The node key of the pair session, when the pair lock lets the fill pass at all. -/
def pairLockNodeKey : PairLockReading → Except ReentryOutcome (Option String)
  | .notPairLock => pure none
  | .sessionMissing => throw .ignored
  | .session isLocked surfaceActive flowNodeKey =>
    if isLocked then throw (skipped "pair_lock_locked_leg_stop_loss")
    else if !surfaceActive then throw (skipped "pair_lock_stop_loss_inactive")
    else pure flowNodeKey

def refuseIf (refuse : Bool) (outcome : ReentryOutcome) : Except ReentryOutcome Unit :=
  if refuse then throw outcome else pure ()

def orSkip {α : Type} (found : Option α) (reason : String) : Except ReentryOutcome α :=
  match found with
  | some a => pure a
  | none => throw (skipped reason)

def graphNodes : GraphReading → Except ReentryOutcome (List ConfiguredNode)
  | .versionMissing => throw (skipped "flow_version_missing")
  | .unreadable => throw .failed
  | .nodes nodes => pure nodes

/-- Everything the scheduler checks before it looks at the attempts of the run. -/
def resolveStopLossReentry (run : TradeFlowRun) (fill : StopLossFill) :
    Except ReentryOutcome (ReentryInput × ConfiguredNode) := do
  refuseIf (!fill.parent.reenterOnSlHit) .ignored
  refuseIf (shouldDeferReentryUntilAllStagedSlComplete fill)
    (.event "reentry_deferred_pending_staged_sl" none)
  let runId ← orSkip fill.parent.originFlowRunId "missing_origin_flow_run"
  let sessionNodeKey ← pairLockNodeKey fill.pairLock
  let actionNodeKey ← orSkip ((sessionNodeKey.bind nonBlank).or
    (fill.parent.originFlowNodeKey.bind nonBlank)) "missing_origin_flow_node_key"
  let triggerNodeKey ← orSkip (fill.parent.reentryTriggerNodeKey.bind nonBlank)
    "missing_reentry_trigger_node_key"
  -- the parent of another run acts on that run's row
  refuseIf (runId ≠ run.id) .ignored
  refuseIf (run.status ≠ .running) (skipped "flow_run_not_running")
  let nodes ← graphNodes fill.graph
  let actionNode ← orSkip (nodes.find? fun node => node.key = actionNodeKey) "action_node_missing"
  return (⟨actionNodeKey, triggerNodeKey, fill.parent.marketSlug,
    fill.parent.reentryMaxAttempts⟩, actionNode)

def reentryAvailableAt (actionNode : ConfiguredNode) (marketSlug : String) (now : Instant) :
    Instant :=
  let availableAt := now + 1000000000 * max 0 ((nodeConfigI64 actionNode "reentryCooldownSec").getD 0)
  if (nodeConfigBool actionNode.config "reentrySkipCurrentWindow").getD false then
    match findUpdownScopeBySlug marketSlug, marketStartTime marketSlug with
    | some scope, some windowStart =>
      max availableAt (windowStart + 1000000000 * (updownScopeWindowSeconds scope + 1))
    | _, _ => availableAt
  else availableAt

structure ScheduledStep where
  nodeKey : String
  nodeType : String
  idempotencyKey : Option String
  availableAt : Instant
  deriving DecidableEq

/-- `enqueue_trade_flow_step` on the run's rows; none when the key is there already. -/
def enqueueScheduledStep (steps : List ScheduledStep) (step : ScheduledStep) :
    Option (List ScheduledStep) :=
  if step.idempotencyKey.isSome && steps.any fun s => s.idempotencyKey = step.idempotencyKey then
    none
  else some (steps ++ [step])

def reentryStepKey (runId : ℤ) (triggerNodeKey : String) (generation : ℤ) : String :=
  s!"reentry:{runId}:{triggerNodeKey}:gen{generation}"

/-- A fill that came as far as the attempts of its market. -/
structure HandledFill where
  actionNodeKey : String
  triggerNodeKey : String
  marketSlug : String
  maxAttempts : ℤ
  attemptsUsed : ℤ
  counted : Bool
  newSteps : ℕ

/-- A run's row and its steps; `handled` records the fills so far and takes no part in any
step. -/
structure ReentryRun where
  run : TradeFlowRun
  steps : List ScheduledStep
  handled : List HandledFill

def nextReentryStep (runId : ℤ) (context : Value) (input : ReentryInput) (node : ConfiguredNode)
    (now : Instant) : ScheduledStep where
  nodeKey := input.triggerNodeKey
  nodeType := "trigger.market_price"
  idempotencyKey := some (reentryStepKey runId input.triggerNodeKey
    (resolveTradeFlowReentryAttemptsForMarket context input.actionNodeKey input.marketSlug + 1))
  availableAt := reentryAvailableAt node input.marketSlug now

/-- The step of a re-entry is queued once its context is written. -/
def queueReentryStep (scheduled : TradeFlowRun) (steps : List ScheduledStep) (step : ScheduledStep)
    (enqueueFails : Bool) : TradeFlowRun × List ScheduledStep × ReentryOutcome :=
  if enqueueFails then (scheduled, steps, .failed)
  else
    match enqueueScheduledStep steps step with
    | some steps => (scheduled, steps, .event "reentry_scheduled" none)
    | none => (scheduled, steps, .event "reentry_duplicate_ignored" none)

def maybeScheduleTradeBuilderStopLossReentry (run : TradeFlowRun) (steps : List ScheduledStep)
    (fill : StopLossFill) : TradeFlowRun × List ScheduledStep × ReentryOutcome :=
  match resolveStopLossReentry run fill with
  | .error outcome => (run, steps, outcome)
  | .ok (input, node) =>
    if !reentryAllowed run.contextJson input then
      (run, steps, .event "reentry_limit_reached" none)
    else if fill.contextFails then (run, steps, .failed)
    else
      queueReentryStep
        { run with contextJson := (scheduleTradeBuilderStopLossReentry input).run run.contextJson }
        steps (nextReentryStep run.id run.contextJson input node fill.now) fill.enqueueFails

theorem queueReentryStep_run (scheduled : TradeFlowRun) (steps : List ScheduledStep)
    (step : ScheduledStep) (enqueueFails : Bool) :
    (queueReentryStep scheduled steps step enqueueFails).1 = scheduled := by
  unfold queueReentryStep
  split
  · rfl
  · split <;> rfl

/-- Edits by the rest of the engine. Only the scheduler writes the attempts of an action and
the market they are counted for. -/
structure OtherEdits where
  edits : List ContextEdit
  spare_attempts : ∀ nodeKey, (nodeKey, reentryAttemptsUsedKey) ∉ keys (entryEdits edits)
  spare_market : ∀ nodeKey, (nodeKey, reentryMarketSlugKey) ∉ keys (entryEdits edits)

inductive ReentryEvent
  | fill (fill : StopLossFill)
  | others (work : OtherEdits)
  | enqueue (step : ScheduledStep)
  | setStatus (status : FlowRunStatus)

def handledFill (s : ReentryRun) (fill : StopLossFill) : Option HandledFill :=
  match resolveStopLossReentry s.run fill with
  | .error _ => none
  | .ok (input, _) =>
    let after := maybeScheduleTradeBuilderStopLossReentry s.run s.steps fill
    some {
      actionNodeKey := input.actionNodeKey
      triggerNodeKey := input.triggerNodeKey
      marketSlug := input.marketSlug
      maxAttempts := max 0 input.maxAttempts
      attemptsUsed := resolveTradeFlowReentryAttemptsForMarket s.run.contextJson
        input.actionNodeKey input.marketSlug
      counted := reentryAllowed s.run.contextJson input && !fill.contextFails
      newSteps := after.2.1.length - s.steps.length }

def reentryStep (s : ReentryRun) : ReentryEvent → ReentryRun
  | .fill fill =>
    let after := maybeScheduleTradeBuilderStopLossReentry s.run s.steps fill
    ⟨after.1, after.2.1, s.handled ++ (handledFill s fill).toList⟩
  | .others work =>
    { s with run.contextJson := applyEdits work.edits s.run.contextJson }
  | .enqueue step => { s with steps := (enqueueScheduledStep s.steps step).getD s.steps }
  | .setStatus status => { s with run.status := status }

/-- How many steps the fills of an action in a market have queued. -/
def scheduledFor (handled : List HandledFill) (actionNodeKey marketSlug : String) : ℕ :=
  ((handled.filter fun r => r.actionNodeKey = actionNodeKey && trim r.marketSlug = marketSlug).map
    HandledFill.newSteps).sum

/-- Each fill that has attempts left queues one step, none is counted without a step, and the
steps of a market stay within the attempts of its fills. -/
def ReentriesKept (s : ReentryRun) : Prop :=
  (∀ r ∈ s.handled, r.attemptsUsed < r.maxAttempts → r.newSteps = 1) ∧
  (∀ r ∈ s.handled, r.counted = true → r.newSteps = 1) ∧
  ∀ actionNodeKey marketSlug (bound : ℕ),
    (∀ r ∈ s.handled, r.actionNodeKey = actionNodeKey → trim r.marketSlug = marketSlug →
      r.maxAttempts ≤ bound) →
    scheduledFor s.handled actionNodeKey marketSlug ≤ bound

/-- The attempts the fill finds are those of its own market, and the step of its generation
has not been queued yet. -/
def FreshAttempt (s : ReentryRun) (fill : StopLossFill) (input : ReentryInput)
    (node : ConfiguredNode) : Prop :=
  reentryAllowed s.run.contextJson input = true →
    fill.contextFails = false ∧ fill.enqueueFails = false ∧
    (∀ step ∈ s.steps, step.idempotencyKey ≠
      (nextReentryStep s.run.id s.run.contextJson input node fill.now).idempotencyKey) ∧
    (flowNodeReentryMarketSlug s.run.contextJson input.actionNodeKey = some input.marketSlug ∨
      scheduledFor s.handled input.actionNodeKey (trim input.marketSlug) = 0)

instance (s : ReentryRun) (fill : StopLossFill) (input : ReentryInput) (node : ConfiguredNode) :
    Decidable (FreshAttempt s fill input node) := by
  unfold FreshAttempt
  infer_instance

def FreshGeneration (s : ReentryRun) : ReentryEvent → Prop
  | .fill fill =>
    ∀ resolved ∈ (resolveStopLossReentry s.run fill).toOption,
      FreshAttempt s fill resolved.1 resolved.2
  | _ => True

instance (s : ReentryRun) : (event : ReentryEvent) → Decidable (FreshGeneration s event)
  | .fill fill => inferInstanceAs (Decidable (∀ resolved ∈
      (resolveStopLossReentry s.run fill).toOption, FreshAttempt s fill resolved.1 resolved.2))
  | .others _ | .enqueue _ | .setStatus _ => inferInstanceAs (Decidable True)

theorem flowNodeState_reentry (context : Value) (input : ReentryInput) (nodeKey stateKey : String)
    (hkey : stateKey ∈ [reentryAttemptsUsedKey, reentryMarketSlugKey, reentryGenerationKey]) :
    let used := resolveTradeFlowReentryAttemptsForMarket context input.actionNodeKey
      input.marketSlug
    flowNodeState ((scheduleTradeBuilderStopLossReentry input).run context) nodeKey stateKey =
      if nodeKey = input.triggerNodeKey ∧ stateKey = reentryGenerationKey then
        some (jsonI64 (used + 1))
      else if nodeKey = input.actionNodeKey ∧ stateKey = reentryMarketSlugKey then
        some (.string input.marketSlug)
      else if nodeKey = input.actionNodeKey ∧ stateKey = reentryAttemptsUsedKey then
        some (jsonI64 (used + 1))
      else flowNodeState context nodeKey stateKey := by
  intro used
  have hspared : ∀ key ∈ [reentryAttemptsUsedKey, reentryMarketSlugKey, reentryGenerationKey],
      key ∉ onceStateKeys ∧ key ∉ ["last_price", "previous_price"] ∧ isWsRuntimeKey key = false := by
    decide
  obtain ⟨honce, hplain, hprefixed⟩ := hspared stateKey hkey
  have hclearOnce : ∀ context, flowNodeState
      ((clearTradeFlowMarketPriceOnceState input.triggerNodeKey).run context) nodeKey stateKey =
        flowNodeState context nodeKey stateKey := fun context =>
    flowNodeState_spared (fun e he => (clearOnceState_edits _ context e he).spares honce) context _
  have hclearWs : ∀ context, flowNodeState
      ((clearTradeFlowMarketPriceWsRuntimeState input.triggerNodeKey).run context) nodeKey
        stateKey = flowNodeState context nodeKey stateKey := fun context =>
    flowNodeState_spared
      (fun e he => (clearWsRuntimeState_edits _ context e he).spares hplain hprefixed) context _
  unfold scheduleTradeBuilderStopLossReentry
  simp only [Draft.bind_run, Draft.read_fst, Draft.read_run, Draft.set_run, hclearWs, hclearOnce,
    flowNodeState_setFlowNodeState, used]

section Scheduled
variable (context : Value) (input : ReentryInput) (nodeKey : String)

theorem attemptsUsed_reentry
    (hused : 0 ≤ resolveTradeFlowReentryAttemptsForMarket context input.actionNodeKey
      input.marketSlug)
    (hlt : resolveTradeFlowReentryAttemptsForMarket context input.actionNodeKey
      input.marketSlug < 2 ^ 31) :
    flowNodeReentryAttemptsUsed ((scheduleTradeBuilderStopLossReentry input).run context) nodeKey =
      if nodeKey = input.actionNodeKey then
        resolveTradeFlowReentryAttemptsForMarket context input.actionNodeKey input.marketSlug + 1
      else flowNodeReentryAttemptsUsed context nodeKey := by
  generalize hu : resolveTradeFlowReentryAttemptsForMarket context input.actionNodeKey
    input.marketSlug = used at *
  have hentry := flowNodeState_reentry context input nodeKey reentryAttemptsUsedKey (by decide)
  have hgeneration : ¬ (nodeKey = input.triggerNodeKey ∧
      reentryAttemptsUsedKey = reentryGenerationKey) := fun h => absurd h.2 (by decide)
  have hmarket : ¬ (nodeKey = input.actionNodeKey ∧
      reentryAttemptsUsedKey = reentryMarketSlugKey) := fun h => absurd h.2 (by decide)
  simp only [hu, if_neg hgeneration, if_neg hmarket, and_true] at hentry
  unfold flowNodeReentryAttemptsUsed flowNodeStateI64
  rw [hentry]
  by_cases hn : nodeKey = input.actionNodeKey
  · have hread : (jsonI64 (used + 1)).asI64 = some (used + 1) := if_pos (by omega)
    simp [hn, hread]
  · rw [if_neg hn, if_neg hn]

theorem marketSlug_reentry :
    flowNodeReentryMarketSlug ((scheduleTradeBuilderStopLossReentry input).run context) nodeKey =
      if nodeKey = input.actionNodeKey then trimmedSlug (some input.marketSlug)
      else flowNodeReentryMarketSlug context nodeKey := by
  have hentry := flowNodeState_reentry context input nodeKey reentryMarketSlugKey (by decide)
  have hgeneration : ¬ (nodeKey = input.triggerNodeKey ∧
      reentryMarketSlugKey = reentryGenerationKey) := fun h => absurd h.2 (by decide)
  have hattempts : ¬ (nodeKey = input.actionNodeKey ∧
      reentryMarketSlugKey = reentryAttemptsUsedKey) := fun h => absurd h.2 (by decide)
  simp only [if_neg hgeneration, if_neg hattempts, and_true] at hentry
  unfold flowNodeReentryMarketSlug flowNodeStateString
  rw [hentry]
  by_cases hn : nodeKey = input.actionNodeKey
  · by_cases hblank : trim input.marketSlug = ""
    · simp [hn, trimmedSlug, hblank, Option.filter_some]
    · simp [hn, trimmedSlug, hblank, trim_trim, Option.filter_some]
  · rw [if_neg hn, if_neg hn]

end Scheduled

theorem scheduledFor_append (handled : List HandledFill) (r : HandledFill)
    (actionNodeKey marketSlug : String) :
    scheduledFor (handled ++ [r]) actionNodeKey marketSlug =
      scheduledFor handled actionNodeKey marketSlug +
        if r.actionNodeKey = actionNodeKey ∧ trim r.marketSlug = marketSlug then r.newSteps
        else 0 := by
  unfold scheduledFor
  rw [List.filter_append, List.map_append, List.sum_append]
  by_cases h : r.actionNodeKey = actionNodeKey ∧ trim r.marketSlug = marketSlug <;> simp [h]

section Fill
variable {s : ReentryRun} {fill : StopLossFill}

theorem reentryStep_unresolved {outcome : ReentryOutcome}
    (hresolve : resolveStopLossReentry s.run fill = .error outcome) :
    reentryStep s (.fill fill) = s := by
  simp [reentryStep, maybeScheduleTradeBuilderStopLossReentry, handledFill, hresolve]

variable {input : ReentryInput} {node : ConfiguredNode}

theorem reentryStep_limit (hresolve : resolveStopLossReentry s.run fill = .ok (input, node))
    (hlimit : reentryAllowed s.run.contextJson input = false) :
    reentryStep s (.fill fill) = { s with
      handled := s.handled ++ [⟨input.actionNodeKey, input.triggerNodeKey, input.marketSlug,
        max 0 input.maxAttempts, resolveTradeFlowReentryAttemptsForMarket s.run.contextJson
          input.actionNodeKey input.marketSlug, false, 0⟩] } := by
  simp [reentryStep, maybeScheduleTradeBuilderStopLossReentry, handledFill, hresolve, hlimit]

theorem reentryStep_scheduled (hresolve : resolveStopLossReentry s.run fill = .ok (input, node))
    (hallowed : reentryAllowed s.run.contextJson input = true)
    (hfresh : FreshAttempt s fill input node) :
    reentryStep s (.fill fill) =
      ⟨{ s.run with
          contextJson := (scheduleTradeBuilderStopLossReentry input).run s.run.contextJson },
        s.steps ++ [nextReentryStep s.run.id s.run.contextJson input node fill.now],
        s.handled ++ [⟨input.actionNodeKey, input.triggerNodeKey, input.marketSlug,
          max 0 input.maxAttempts, resolveTradeFlowReentryAttemptsForMarket s.run.contextJson
            input.actionNodeKey input.marketSlug, true, 1⟩]⟩ := by
  obtain ⟨hcontext, henqueue, hkey, -⟩ := hfresh hallowed
  have hqueued : enqueueScheduledStep s.steps
      (nextReentryStep s.run.id s.run.contextJson input node fill.now) =
      some (s.steps ++ [nextReentryStep s.run.id s.run.contextJson input node fill.now]) := by
    unfold enqueueScheduledStep
    rw [if_neg]
    simpa using fun _ => hkey
  simp [reentryStep, maybeScheduleTradeBuilderStopLossReentry, queueReentryStep, handledFill,
    hresolve, hallowed, hcontext, henqueue, hqueued]

end Fill

theorem except_bind_eq_ok {ε α β : Type} {x : Except ε α} {f : α → Except ε β} {b : β} :
    (x >>= f) = .ok b ↔ ∃ a, x = .ok a ∧ f a = .ok b := by
  cases x with
  | error e => simp [bind, Except.bind]
  | ok a => simp [bind, Except.bind]

theorem orSkip_eq_ok {α : Type} {found : Option α} {reason : String} {a : α}
    (h : orSkip found reason = .ok a) : found = some a := by
  cases found with
  | none => cases h
  | some b =>
    cases h
    rfl

theorem resolved_parent {run : TradeFlowRun} {fill : StopLossFill} {input : ReentryInput}
    {node : ConfiguredNode} (h : resolveStopLossReentry run fill = .ok (input, node)) :
    fill.parent.reentryTriggerNodeKey.bind nonBlank = some input.triggerNodeKey ∧
      input.maxAttempts = fill.parent.reentryMaxAttempts := by
  obtain ⟨_, _, h⟩ := except_bind_eq_ok.mp h
  obtain ⟨_, _, h⟩ := except_bind_eq_ok.mp h
  obtain ⟨runId, _, h⟩ := except_bind_eq_ok.mp h
  obtain ⟨sessionNodeKey, _, h⟩ := except_bind_eq_ok.mp h
  obtain ⟨actionNodeKey, _, h⟩ := except_bind_eq_ok.mp h
  obtain ⟨triggerNodeKey, htrigger, h⟩ := except_bind_eq_ok.mp h
  obtain ⟨_, _, h⟩ := except_bind_eq_ok.mp h
  obtain ⟨_, _, h⟩ := except_bind_eq_ok.mp h
  obtain ⟨nodes, _, h⟩ := except_bind_eq_ok.mp h
  obtain ⟨actionNode, _, h⟩ := except_bind_eq_ok.mp h
  cases h
  exact ⟨orSkip_eq_ok htrigger, rfl⟩

/-- The attempts stored for a market cover the steps its fills have queued. -/
structure AttemptsCover (s : ReentryRun) : Prop where
  nonneg : ∀ nodeKey, 0 ≤ flowNodeReentryAttemptsUsed s.run.contextJson nodeKey
  covers : ∀ nodeKey marketSlug,
    flowNodeReentryMarketSlug s.run.contextJson nodeKey = some marketSlug →
      (scheduledFor s.handled nodeKey marketSlug : ℤ) ≤
        flowNodeReentryAttemptsUsed s.run.contextJson nodeKey
  kept : ReentriesKept s

theorem attemptsUsed_forMarket {s : ReentryRun} (h : AttemptsCover s) (nodeKey marketSlug : String) :
    0 ≤ resolveTradeFlowReentryAttemptsForMarket s.run.contextJson nodeKey marketSlug := by
  unfold resolveTradeFlowReentryAttemptsForMarket
  split
  · exact h.nonneg nodeKey
  · rfl

theorem flowNodeReentryMarketSlug_trimmed {context : Value} {nodeKey marketSlug : String}
    (h : flowNodeReentryMarketSlug context nodeKey = some marketSlug) :
    trim marketSlug = marketSlug := by
  obtain ⟨htrim, -⟩ := Option.filter_eq_some_iff.mp h
  obtain ⟨slug, -, rfl⟩ := Option.map_eq_some_iff.mp htrim
  exact trim_trim slug

theorem scheduledFor_le_used {s : ReentryRun} (h : AttemptsCover s)
    {nodeKey marketSlug : String}
    (hown : flowNodeReentryMarketSlug s.run.contextJson nodeKey = some marketSlug ∨
      scheduledFor s.handled nodeKey (trim marketSlug) = 0) :
    (scheduledFor s.handled nodeKey (trim marketSlug) : ℤ) ≤
      resolveTradeFlowReentryAttemptsForMarket s.run.contextJson nodeKey marketSlug := by
  rcases hown with hslug | hnone
  · have hcover := h.covers nodeKey marketSlug hslug
    rw [flowNodeReentryMarketSlug_trimmed hslug]
    rwa [resolveTradeFlowReentryAttemptsForMarket, if_pos hslug]
  · rw [hnone]
    exact attemptsUsed_forMarket h nodeKey marketSlug

theorem reentriesKept_append {s : ReentryRun} (h : ReentriesKept s) (r : HandledFill)
    (hstep : r.attemptsUsed < r.maxAttempts → r.newSteps = 1)
    (hcounted : r.counted = true → r.newSteps = 1)
    (hbound : r.newSteps ≠ 0 →
      (scheduledFor s.handled r.actionNodeKey (trim r.marketSlug) : ℤ) + r.newSteps ≤ r.maxAttempts)
    (run : TradeFlowRun) (steps : List ScheduledStep) :
    ReentriesKept ⟨run, steps, s.handled ++ [r]⟩ := by
  obtain ⟨hsteps, hcounts, hbounds⟩ := h
  refine ⟨?_, ?_, ?_⟩
  · intro r' hr'
    rcases List.mem_append.mp hr' with hr' | hr'
    · exact hsteps r' hr'
    · rw [List.mem_singleton.mp hr']
      exact hstep
  · intro r' hr'
    rcases List.mem_append.mp hr' with hr' | hr'
    · exact hcounts r' hr'
    · rw [List.mem_singleton.mp hr']
      exact hcounted
  · intro actionNodeKey marketSlug bound hmax
    have hbefore : scheduledFor s.handled actionNodeKey marketSlug ≤ bound :=
      hbounds actionNodeKey marketSlug bound fun r' hr' =>
        hmax r' (List.mem_append_left _ hr')
    rw [scheduledFor_append]
    split
    next hr =>
      obtain ⟨rfl, rfl⟩ := hr
      have hlast := hmax r (List.mem_append_right _ (List.mem_singleton_self r)) rfl rfl
      by_cases hzero : r.newSteps = 0
      · omega
      · have := hbound hzero
        omega
    next => omega

theorem trimmedSlug_eq_some {slug marketSlug : String}
    (h : trimmedSlug (some slug) = some marketSlug) : trim slug = marketSlug := by
  obtain ⟨htrim, -⟩ := Option.filter_eq_some_iff.mp h
  exact Option.some.inj htrim

theorem attemptsCover_scheduled {s : ReentryRun} (h : AttemptsCover s) {fill : StopLossFill}
    {input : ReentryInput} {node : ConfiguredNode}
    (hresolve : resolveStopLossReentry s.run fill = .ok (input, node))
    (hallowed : reentryAllowed s.run.contextJson input = true)
    (hfresh : FreshAttempt s fill input node) : AttemptsCover (reentryStep s (.fill fill)) := by
  have hused := attemptsUsed_forMarket h input.actionNodeKey input.marketSlug
  have hbelow : resolveTradeFlowReentryAttemptsForMarket s.run.contextJson
      input.actionNodeKey input.marketSlug < max 0 input.maxAttempts := of_decide_eq_true hallowed
  have hlt : resolveTradeFlowReentryAttemptsForMarket s.run.contextJson
      input.actionNodeKey input.marketSlug < 2 ^ 31 := by
    have hmax := fill.parent.maxAttempts_lt
    rw [← (resolved_parent hresolve).2] at hmax
    omega
  have hfew := scheduledFor_le_used h (hfresh hallowed).2.2.2
  rw [reentryStep_scheduled hresolve hallowed hfresh]
  refine ⟨fun nodeKey => ?_, fun nodeKey marketSlug hslug => ?_, ?_⟩
  · dsimp only
    rw [attemptsUsed_reentry _ _ _ hused hlt]
    split
    · omega
    · exact h.nonneg nodeKey
  · dsimp only at hslug ⊢
    rw [marketSlug_reentry] at hslug
    rw [attemptsUsed_reentry _ _ _ hused hlt, scheduledFor_append]
    by_cases hnode : nodeKey = input.actionNodeKey
    · rw [if_pos hnode] at hslug
      have hmarket : trim input.marketSlug = marketSlug := trimmedSlug_eq_some hslug
      rw [if_pos ⟨hnode.symm, hmarket⟩, if_pos hnode, hnode, ← hmarket]
      push_cast
      omega
    · rw [if_neg hnode] at hslug
      rw [if_neg fun hr => hnode hr.1.symm, if_neg hnode]
      exact h.covers nodeKey marketSlug hslug
  · have hbound : (scheduledFor s.handled input.actionNodeKey (trim input.marketSlug) : ℤ) + 1 ≤
        max 0 input.maxAttempts := by omega
    exact reentriesKept_append h.kept _ (fun _ => rfl) (fun _ => rfl)
      (fun _ => by exact_mod_cast hbound) _ _

theorem attemptsCover_fill {s : ReentryRun} (h : AttemptsCover s) (fill : StopLossFill)
    (hfresh : FreshGeneration s (.fill fill)) : AttemptsCover (reentryStep s (.fill fill)) := by
  cases hresolve : resolveStopLossReentry s.run fill with
  | error outcome =>
    rw [reentryStep_unresolved hresolve]
    exact h
  | ok resolved =>
    obtain ⟨input, node⟩ := resolved
    cases hallowed : reentryAllowed s.run.contextJson input with
    | false =>
      rw [reentryStep_limit hresolve hallowed]
      refine ⟨h.nonneg, fun nodeKey marketSlug hslug => ?_, ?_⟩
      · have hcover := h.covers nodeKey marketSlug hslug
        rw [scheduledFor_append]
        simpa using hcover
      · refine reentriesKept_append h.kept _ ?_ (by simp) (by simp) _ _
        intro hleft
        simp only [reentryAllowed, decide_eq_false_iff_not] at hallowed
        exact absurd hleft hallowed
    | true =>
      have hattempt : FreshAttempt s fill input node := hfresh (input, node) (by rw [hresolve]; rfl)
      exact attemptsCover_scheduled h hresolve hallowed hattempt

theorem attemptsCover_others {s : ReentryRun} (h : AttemptsCover s) (work : OtherEdits) :
    AttemptsCover (reentryStep s (.others work)) := by
  have hattempts : ∀ nodeKey,
      flowNodeReentryAttemptsUsed (applyEdits work.edits s.run.contextJson) nodeKey =
        flowNodeReentryAttemptsUsed s.run.contextJson nodeKey := fun nodeKey => by
    rw [flowNodeReentryAttemptsUsed, flowNodeStateI64,
      flowNodeState_of_spared (work.spare_attempts nodeKey)]
    rfl
  have hmarket : ∀ nodeKey,
      flowNodeReentryMarketSlug (applyEdits work.edits s.run.contextJson) nodeKey =
        flowNodeReentryMarketSlug s.run.contextJson nodeKey := fun nodeKey => by
    rw [flowNodeReentryMarketSlug, flowNodeStateString,
      flowNodeState_of_spared (work.spare_market nodeKey)]
    rfl
  refine ⟨fun nodeKey => ?_, fun nodeKey marketSlug hslug => ?_, h.kept⟩
  · have hnonneg := h.nonneg nodeKey
    rwa [← hattempts nodeKey] at hnonneg
  · have hcover := h.covers nodeKey marketSlug ((hmarket nodeKey).symm.trans hslug)
    rwa [← hattempts nodeKey] at hcover

theorem reentryStep_cover {s : ReentryRun} (h : AttemptsCover s) (event : ReentryEvent)
    (hfresh : FreshGeneration s event) : AttemptsCover (reentryStep s event) := by
  cases event with
  | fill fill => exact attemptsCover_fill h fill hfresh
  | others work => exact attemptsCover_others h work
  | enqueue step => exact ⟨h.nonneg, h.covers, h.kept⟩
  | setStatus status => exact ⟨h.nonneg, h.covers, h.kept⟩

/-- In a run whose fills all meet a fresh generation, each fill with an attempt left queues
its step, no attempt is counted without one, and each market keeps to its attempts. -/
theorem reentries_kept (run : TradeFlowRun) (steps : List ScheduledStep)
    (hstart : ∀ nodeKey, 0 ≤ flowNodeReentryAttemptsUsed run.contextJson nodeKey)
    (events : List ReentryEvent)
    (h : EachStep reentryStep FreshGeneration ⟨run, steps, []⟩ events) :
    Throughout reentryStep ReentriesKept ⟨run, steps, []⟩ events := by
  have hinit : AttemptsCover ⟨run, steps, []⟩ := by
    refine ⟨hstart, fun nodeKey marketSlug _ => ?_, ?_⟩
    · simpa [scheduledFor] using hstart nodeKey
    · simp [ReentriesKept, scheduledFor]
  exact h.throughout (I := AttemptsCover) (fun s hs => hs.kept)
    (fun s event hs hevent => reentryStep_cover hs event hevent) hinit

def reentryRun (contextJson : Value) : TradeFlowRun := ⟨42, .running, contextJson⟩

def stoppedOut (marketSlug : String) : StopLossFill where
  parent := {
    reenterOnSlHit := true
    stagedSlReentryOnlyAfterAllStages := false
    originFlowRunId := some 42
    originFlowNodeKey := some "order"
    reentryTriggerNodeKey := some "trigger"
    reentryMaxAttempts := 2
    maxAttempts_lt := by decide
    marketSlug }
  child := ⟨7, false, true⟩
  siblings := []
  pairLock := .notPairLock
  graph := .nodes [⟨⟨"order", "action.place_order"⟩, .object []⟩]
  now := 0
  contextFails := false
  enqueueFails := false

theorem reentries_kept_two_attempts :
    Throughout reentryStep ReentriesKept ⟨reentryRun (.object []), [], []⟩
      [.fill (stoppedOut "btc-updown-5m-1"), .fill (stoppedOut "btc-updown-5m-1")] :=
  reentries_kept (reentryRun (.object [])) [] (fun nodeKey => by rfl) _ (by decide +kernel)

/-- The run moves on to a second market: its first stop loss there is counted, but the step
of generation one was queued for the first market. -/
theorem second_market_attempt_without_step :
    let events := [.fill (stoppedOut "btc-updown-5m-1"), .fill (stoppedOut "btc-updown-5m-2")]
    let after := events.foldl reentryStep ⟨reentryRun (.object []), [], []⟩
    after.steps.map (·.idempotencyKey) = [some "reentry:42:trigger:gen1"] ∧
      after.handled.map (fun r => (r.marketSlug, r.attemptsUsed, r.counted, r.newSteps)) =
        [("btc-updown-5m-1", 0, true, 1), ("btc-updown-5m-2", 0, true, 0)] ∧
      ¬ Throughout reentryStep ReentriesKept ⟨reentryRun (.object []), [], []⟩ events := by
  intro events after
  refine ⟨by decide +kernel, by decide +kernel, ?_⟩
  intro h
  have hkept : ReentriesKept after := h 2
  have hlost : ∃ r ∈ after.handled, r.counted = true ∧ r.newSteps ≠ 1 := by decide +kernel
  obtain ⟨r, hr, hcounted, hnone⟩ := hlost
  exact hnone (hkept.2.1 r hr hcounted)

end PolymarketBot.Flow
