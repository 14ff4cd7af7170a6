import PolymarketBot.Builder.Submit

/-! One processing pass over a builder order: the checks at its head, the reconcile of an
active exchange order, the trigger, the submit, and the error handler of the main loop. -/

namespace PolymarketBot.Builder
open Lib

def tradeBuilderExitTpSlack : ℚ := 5 / 100

def tradeBuilderInventoryPendingTpTriggerPrice (order : TradeBuilderOrder) : Option ℚ :=
  order.triggerPrice.map fun triggerPrice =>
    if order.status = .inventoryPending ∧ order.side = .sell ∧ order.parentOrderId.isSome ∧
        order.triggerCondition = some .crossAbove then
      clampProbability (roundTradeBuilderShareQty (triggerPrice - tradeBuilderExitTpSlack))
    else triggerPrice

def crossedAboveStrict (previousPrice : Option ℚ) (currentPrice triggerPrice : ℚ) : Bool :=
  previousPrice.any fun previous => previous < triggerPrice && triggerPrice ≤ currentPrice

def crossedBelowStrict (previousPrice : Option ℚ) (currentPrice triggerPrice : ℚ) : Bool :=
  previousPrice.any fun previous => triggerPrice < previous && currentPrice ≤ triggerPrice

/-- The statuses in which an immediate order triggers; waiting for inventory is not one. -/
def immediateTriggerStatus : OrderStatus → Bool
  | .pending | .armed | .triggered | .blocked | .guardBlocked => true
  | _ => false

def heldTriggerStatus : OrderStatus → Bool
  | .triggered | .blocked | .guardBlocked | .inventoryPending => true
  | _ => false

def TriggerCondition.met (condition : TriggerCondition) (currentPrice triggerPrice : ℚ) : Bool :=
  match condition with
  | crossAbove | levelAbove => triggerPrice ≤ currentPrice
  | crossBelow | levelBelow => currentPrice ≤ triggerPrice

def TriggerCondition.isLevel : TriggerCondition → Bool
  | levelAbove | levelBelow => true
  | crossAbove | crossBelow => false

/-- A child exit and a held order trigger on the level, any other order on a crossing. -/
def conditionalShouldTrigger (order : TradeBuilderOrder) (condition : TriggerCondition)
    (previousPrice : Option ℚ) (currentPrice triggerPrice : ℚ) : Bool :=
  if tradeBuilderIsChildExitSell order || heldTriggerStatus order.status then
    condition.met currentPrice triggerPrice
  else
    match condition with
    | .levelAbove | .levelBelow => condition.met currentPrice triggerPrice
    | .crossAbove => crossedAboveStrict previousPrice currentPrice triggerPrice
    | .crossBelow => crossedBelowStrict previousPrice currentPrice triggerPrice

def evaluateTradeBuilderOrderTrigger (order : TradeBuilderOrder) (previousPrice : Option ℚ)
    (currentPrice : ℚ) : TriggerEvaluation :=
  match order.kind with
  | .immediate => { shouldTrigger := immediateTriggerStatus order.status }
  | .conditional =>
    if tradeBuilderStopLossLatched order then { shouldTrigger := true }
    else
      match tradeBuilderInventoryPendingTpTriggerPrice order, order.triggerCondition with
      | some triggerPrice, some condition =>
        let shouldTrigger :=
          conditionalShouldTrigger order condition previousPrice currentPrice triggerPrice
        { shouldTrigger
          firstTickThresholdUsed := shouldTrigger && previousPrice.isNone &&
            (tradeBuilderIsChildExitSell order || condition.isLevel) }
      | _, _ => { shouldTrigger := false }

inductive EligibilityWindow | wait | expire | allow
  deriving DecidableEq

def classifyTradeBuilderOrderEligibilityWindow (order : TradeBuilderOrder) (now : ℤ) :
    EligibilityWindow :=
  if order.activeExchangeOrderId.isSome then .allow
  else if order.eligibleAfterAt.any (now < ·) then .wait
  else if order.eligibleBeforeAt.any (· ≤ now) then .expire
  else .allow

/-- A stage of the head of the pass: it ends the pass or hands the order on. -/
inductive Stage (α : Type)
  | ends
  | goes (a : α)

def maybeHandleEligibilityWindow (order : TradeBuilderOrder) (now : ℤ) : Job Bool := do
  match classifyTradeBuilderOrderEligibilityWindow order now with
  | .wait => pure true
  | .allow => pure false
  | .expire =>
    Job.update (.setStatus .expired (some (text "outside_cycle_window")))
    Job.event "expired"
    Job.statement .abortPairSession
    pure true

def maybeExpireTradeBuilderStaleOrder (order : TradeBuilderOrder) : Job Bool := do
  if order.activeExchangeOrderId.isSome then
    pure false
  else if ← Job.check .staleMarket then
    Job.update (.setStatus .expired (some (text "stale_market_cycle")))
    Job.event "expired"
    Job.when order.parentOrderId.isSome (Job.statement .siblingUpdates)
    Job.statement .abortPairSession
    pure true
  else
    pure false

def pairLockCounterHasStartedSubmitLifecycle (order : TradeBuilderOrder) : Bool :=
  order.activeExchangeOrderId.isSome || order.submittedDynamicQty.isSome ||
    order.submittedDynamicPrice.isSome

/-- An unwind asks every candidate of the session to cancel, this order among them. -/
def unwindSelf : Job Unit := do
  let row ← Job.run .childRow
  Job.when (¬ tradeBuilderIsTerminalStatus row.status ∧ row.filledQty ≤ 0) do
    Job.update (.setStatus (cancelStatus row) (some (text "pair_session_unwind")))
    Job.event "pair_lock_candidate_canceled"
  Job.statement .scheduleUnwind

def capPrice (order : TradeBuilderOrder) (cap : ℚ) : TradeBuilderOrder :=
  { order with maxPrice := some (order.maxPrice.elim cap (min · cap)) }

def applyPairLockAction (order : TradeBuilderOrder) : PairLockAction → Job (Stage TradeBuilderOrder)
  | .proceed cap => pure (.goes (cap.elim order (capPrice order)))
  | .sessionClosed =>
    if isTradeBuilderOrderProcessableStatus order.status then do
      Job.update (.setStatus .canceled (some (text "pair_session_closed")))
      pure .ends
    else
      pure (.goes order)
  | .cancel reason => do
    Job.update (.setStatus .canceled (some (text reason)))
    Job.statement .closePairSession
    Job.event "pair_lock_counter_canceled"
    pure .ends
  | .hold => do
    Job.when (¬ (order.status = .inventoryPending ∧
        order.lastError = some (text "pair_counter_waiting_primary_fill"))) do
      Job.update (.setStatus .inventoryPending (some (text "pair_counter_waiting_primary_fill")))
      Job.event "pair_lock_counter_waiting_primary_fill"
    pure .ends
  | .wait => pure .ends
  | .unwind => do
    unwindSelf
    pure .ends
  | .rebase sizeBasis sizeUsdc targetQty remainingSize remainingQty eligibleBeforeAt =>
    if pairLockCounterHasStartedSubmitLifecycle order then
      pure (.goes order)
    else do
      Job.update (.updateSizingAndState sizeBasis sizeUsdc targetQty remainingSize remainingQty
        .pending none order.eligibleAfterAt eligibleBeforeAt)
      Job.event "pair_lock_counter_remaining_budget_rebased"
      pure .ends

def maybeApplyTradeBuilderPairLockRuntime (order : TradeBuilderOrder) :
    Job (Stage TradeBuilderOrder) := do
  if ¬ tradeBuilderOrderUsesPairLock order ∨ ¬ tradeBuilderPairLockIsCandidateOrder order ∨
      order.side ≠ .buy then
    pure (.goes order)
  else
    applyPairLockAction order (← Job.run .pairLockRuntime)

/-- A take profit gives way to a ready stop loss: the live order is asked to cancel. -/
def maybePreemptTradeBuilderTakeProfit (order : TradeBuilderOrder) :
    Job (TradeBuilderOrder × Bool) := do
  if ¬ tradeBuilderIsTakeProfitChild order then
    pure (order, false)
  else
    match ← Job.run .takeProfitPreemption with
    | .none => pure (order, false)
    | .deferred =>
      Job.event "tp_deferred_by_staged_sl"
      pure (order, true)
    | .preempted =>
      Job.statement .siblingUpdates
      let lastError := some (text "sl_priority_preempted")
      Job.update (.setStatus (cancelStatus order) lastError)
      Job.event "sl_preempted"
      pure ({ order with status := cancelStatus order, lastError }, true)

/-- A waiting or held conditional order whose trigger is not met goes back to "armed". -/
def releaseUntriggered (order : TradeBuilderOrder) (lastSeenPrice : ℚ) : Job Unit := do
  Job.when (order.kind = .conditional ∧
      order.lastError = some (text "composite_bid_confirmation_waiting")) do
    Job.update (.setLastError none)
    Job.event "composite_bid_confirmation_released"
  if order.kind = .conditional ∧ order.status = .inventoryPending then
    Job.update (.setStatus .armed none)
    Job.event "inventory_pending_released"
  else if order.kind = .conditional ∧ order.status = .guardBlocked then
    Job.update (.setStatus .armed none)
    Job.event "guard_waiting_released"
  else
    Job.when (order.kind = .conditional ∧ order.status = .pending) do
      Job.update (.setStatus .armed none)
      Job.event "trigger_not_met"
    Job.update (.setLastSeenPrice lastSeenPrice)

def maybeLatchTradeBuilderStopLoss (order : TradeBuilderOrder) : Job TradeBuilderOrder := do
  if ¬ tradeBuilderIsStopLossChild order ∨ tradeBuilderStopLossLatched order then
    pure order
  else
    Job.update (.setTriggerLatched true (some "stop_loss"))
    Job.event "sl_latched"
    Job.statement .siblingUpdates
    pure { order with triggerLatched := true, triggerLatchedReason := some "stop_loss" }

/-- The notional of the next trigger; a plan without a size left completes the order. -/
def submitTriggered (order : TradeBuilderOrder) (price : RuntimePrice) : Job Unit := do
  let order ← maybeLatchTradeBuilderStopLoss order
  Job.statement .parallelExitBatch
  Job.statement .feeRate
  if order.sizeBasis = .shares then
    submitTradeBuilderTriggerOrder order price.price price.bestAsk order.sizeUsdc
  else if ← Job.check .triggerSizesExhausted then
    Job.update (.setStatus .completed none)
    Job.event "trigger_size_exhausted"
  else
    let resolved := (← Job.run .nextTriggerSize).getD order.sizeUsdc
    submitTradeBuilderTriggerOrder order price.price price.bestAsk resolved

/-- A triggered stop loss may have to wait for the composite bid to confirm it. -/
def confirmAndSubmit (order : TradeBuilderOrder) (price : RuntimePrice) : Job Unit := do
  let waiting ← Job.whenOr (tradeBuilderIsStopLossChild order) false
    (Job.orElse (.check .compositeBidWaiting) false)
  if waiting then
    Job.when (order.lastError ≠ some (text "composite_bid_confirmation_waiting")) do
      Job.update (.setLastError (some (text "composite_bid_confirmation_waiting")))
      Job.event "composite_bid_confirmation_waiting"
  else if order.lastError = some (text "composite_bid_confirmation_waiting") then
    Job.update (.setLastError none)
    Job.event "composite_bid_confirmation_confirmed"
    submitTriggered { order with lastError := none } price
  else
    submitTriggered order price

/-- A stop loss with a trigger source of its own is judged by that source. -/
def evaluateTrigger (order : TradeBuilderOrder) (price : RuntimePrice) :
    Job TriggerEvaluation := do
  let special ← Job.whenOr (tradeBuilderIsStopLossChild order) none (Job.run .specialTrigger)
  pure (special.getD (evaluateTradeBuilderOrderTrigger order order.lastSeenPrice price.price))

def evaluateAndSubmit (order : TradeBuilderOrder) (price : RuntimePrice) : Job Unit := do
  let sourceMissing ← Job.whenOr (tradeBuilderIsStopLossChild order) false
    (Job.orElse (.check .stopLossSourceMissing) false)
  if sourceMissing then
    Job.event "selected_trigger_source_missing"
    Job.update (.setLastSeenPrice price.price)
  else
    let evaluation ← evaluateTrigger order price
    if evaluation.shouldTrigger then
      Job.when evaluation.firstTickThresholdUsed (Job.event "trigger_first_tick_threshold_used")
      Job.update (.setLastSeenPrice price.price)
      confirmAndSubmit order price
    else
      releaseUntriggered order price.price

def processPreempted (order : TradeBuilderOrder) (preempted : Bool) (price : RuntimePrice) :
    Job Unit := do
  if preempted ∧ order.activeExchangeOrderId.isNone then
    Job.update (.setLastSeenPrice price.price)
  else
    match order.activeExchangeOrderId with
    | some exchangeOrderId =>
      reconcileTradeBuilderOpenOrder order exchangeOrderId price.price price.bestAsk
      Job.update (.setLastSeenPrice price.price)
    | none =>
      if order.status = .canceledRequested then
        Job.update (.setStatus .canceled none)
        Job.event "canceled_without_open_order"
      else
        evaluateAndSubmit order price

def processPriced (order : TradeBuilderOrder) (price : RuntimePrice) : Job Unit := do
  Job.statement .setPtbReferencePrice
  let (order, preempted) ← maybePreemptTradeBuilderTakeProfit order
  processPreempted order preempted price

def processLive (order : TradeBuilderOrder) (now : ℤ) : Job Unit := do
  if ← maybeHandleEligibilityWindow order now then
    pure ()
  else if ← maybeExpireTradeBuilderStaleOrder order then
    pure ()
  else
    match ← maybeApplyTradeBuilderPairLockRuntime order with
    | .ends => pure ()
    | .goes order =>
      match ← Job.run .runtimePrice with
      | none => Job.event "price_unavailable_retry"
      | some price => processPriced order price

/-- Expiry by TTL clears the row without asking the exchange. -/
def expireByTtl (order : TradeBuilderOrder) : Job Unit := do
  if order.status ≠ .expired ∧ order.status ≠ .completed then
    Job.update (.clearActiveExchangeOrder .expired)
    Job.event "expired"
    Job.statement .abortPairSession

def orderExpired (order : TradeBuilderOrder) (now : ℤ) : Bool := order.expiresAt.any (· ≤ now)

def isProcessable (order : TradeBuilderOrder) : Bool :=
  isTradeBuilderOrderProcessableStatus order.status ||
    (order.status == .error && tradeBuilderShouldRetryAfterProcessingError order)

def completeByTriggerCount : Job Unit := do
  Job.update (.setStatus .completed none)
  Job.event "max_trigger_reached"
  Job.ignore (Job.statement .unblockNextOrder)

def processOrder (order : TradeBuilderOrder) (now : ℤ) : Job Unit := do
  if ¬ isProcessable order then
    pure ()
  else if order.maxTriggers ≤ order.triggersFired ∧ order.status ≠ .completed then
    completeByTriggerCount
  else if orderExpired order now then
    expireByTtl order
  else
    processLive order now

/-- The pass reads the row itself: an older row it was started with is not used. -/
def processTradeBuilderOrder (now : ℤ) : Job Unit := do
  processOrder (← Job.run .getOrder) now

/-- The main loop's handler: a retryable order goes back to "triggered", any other becomes an
error; its own statements may fail as well. -/
def handleProcessingError (e : ErrorText) : Job Unit := do
  let latest ← Job.tryRun .latestOrder
  match latest with
  | .ok row =>
    if tradeBuilderShouldRetryAfterProcessingError row then
      Job.ignore (Job.update (.setStatus .triggered (some e)))
      Job.ignore (Job.event "processing_retry_scheduled")
    else
      Job.ignore (Job.update (.setStatus .error (some e)))
      Job.ignore (Job.event "processing_error")
  | .error _ =>
    Job.ignore (Job.update (.setStatus .error (some e)))
    Job.ignore (Job.event "processing_error")

def housekeepingPass (now : ℤ) : Job Unit := do
  match ← Prog.attempt (do Job.statement .loadUser; processTradeBuilderOrder now) with
  | .ok _ => pure ()
  | .error e => handleProcessingError e

/-- A pass of the websocket-armed or immediate path, or one made for a preempted take profit:
its error is only logged. -/
def directPass (now : ℤ) : Job Unit := Job.ignore (processTradeBuilderOrder now)

end PolymarketBot.Builder
