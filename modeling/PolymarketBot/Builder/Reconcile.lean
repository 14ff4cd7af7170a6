import PolymarketBot.Builder.Finalize

/-! One reconcile pass over an order with an active exchange order: read its status, then
finalize, map a terminal status, keep it working, cancel it at a guard, or replace it. -/

namespace PolymarketBot.Builder
open Lib

def text (reason : String) : ErrorText := { reason }

/-- The quantity to finalize with: canonical entry, its source, and the resolved fill. -/
structure FinalizeQuantities where
  canonicalEntryQty : ℚ
  source : EntryQtySource
  actualFillQty : Option ℚ
  deriving DecidableEq

def resolveTradeBuilderTerminalFillQty (exchangeOrderId : ℕ) (orderInfo : OrderInfo) :
    Job (ℚ × TerminalFillQtySource) := do
  let stored ← Job.run (.orderSize exchangeOrderId)
  match selectTradeBuilderTerminalFillQty orderInfo stored with
  | some resolution =>
    Job.event "filled_qty_resolved"
    pure resolution
  | none =>
    -- the synced fills are only written into the event
    let _ ← Job.run (.aggregateFillQty exchangeOrderId)
    Job.event "filled_qty_unresolved"
    Prog.fail errorOther

def resolveTradeBuilderParentBuyActualFillQty (order : TradeBuilderOrder) (exchangeOrderId : ℕ)
    (orderInfo : OrderInfo) : Job (Option ℚ) := do
  match ← Prog.attempt (resolveTradeBuilderTerminalFillQty exchangeOrderId orderInfo) with
  | .ok (qty, source) =>
    if source ≠ .storedOrderSize then
      pure (some qty)
    else if (tradeBuilderSubmittedDynamicQty order).isSome then
      Job.event "actual_fill_qty_unresolved"
      pure none
    else
      pure (some qty)
  | .error e =>
    if (tradeBuilderSubmittedDynamicQty order).isSome then
      Job.event "actual_fill_qty_unresolved"
      pure none
    else
      Prog.fail e

def requireEntryQty : Option (ℚ × EntryQtySource) → Job (ℚ × EntryQtySource)
  | some entry => pure entry
  | none => Prog.fail errorOther

def resolveActualFillQty (order : TradeBuilderOrder) (exchangeOrderId : ℕ)
    (orderInfo : OrderInfo) : Job (Option ℚ) :=
  if tradeBuilderShouldTrackBuyInventoryObservation order then
    resolveTradeBuilderParentBuyActualFillQty order exchangeOrderId orderInfo
  else do
    let resolution ← resolveTradeBuilderTerminalFillQty exchangeOrderId orderInfo
    pure (some resolution.1)

def resolveTradeBuilderFinalizeQuantities (order : TradeBuilderOrder) (exchangeOrderId : ℕ)
    (orderInfo : OrderInfo) : Job FinalizeQuantities := do
  let actualFillQty ← resolveActualFillQty order exchangeOrderId orderInfo
  let entry ← requireEntryQty (tradeBuilderCanonicalEntryQty order actualFillQty)
  pure ⟨entry.1, entry.2, actualFillQty⟩

/-- The quantity of a terminal order whose stop loss is latched: reported, stored or synced. -/
def tradeBuilderTerminalFillQtyOrZero (order : TradeBuilderOrder) (exchangeOrderId : ℕ)
    (orderInfo : OrderInfo) : Job ℚ := do
  match normalizeTradeBuilderTerminalFillQtyCandidate orderInfo.filledSize with
  | some filled => pure filled
  | none =>
    match normalizeTradeBuilderTerminalFillQtyCandidate (some order.filledQty) with
    | some filled => pure filled
    | none =>
      let synced ← Job.orElse (.aggregateFillQty exchangeOrderId) 0
      pure ((normalizeTradeBuilderTerminalFillQtyCandidate (some synced)).getD 0)

def maybeHandleLatchedStopLossTerminalStatus (order : TradeBuilderOrder) (exchangeOrderId : ℕ)
    (orderInfo : OrderInfo) : Job Bool := do
  if ¬ tradeBuilderStopLossLatched order then
    pure false
  else
    let fillQty ← tradeBuilderTerminalFillQtyOrZero order exchangeOrderId orderInfo
    if tradeBuilderExitQtyTolerance < fillQty then
      pure false
    else if ← Job.orElse (.check .marketCycleClosed) false then
      Job.update (.setRetryState .expired
        (some (text "sl_submitted_but_unfilled_before_market_close"))
        order.remainingSize order.remainingQty)
      Job.event "sl_terminal_unfilled_before_close"
      pure true
    else
      Job.update (.setRetryState .triggered (some (text "sl_terminal_unfilled_retrying"))
        order.remainingSize order.remainingQty)
      Job.event "sl_terminal_unfilled_retrying"
      pure true

def suppressTradeBuilderBuyIocReprice : Job Unit := do
  Job.update (.clearActiveExchangeOrder .completed)
  Job.event "buy_ioc_reprice_suppressed_pending_resolution"

def tradeBuilderDetectedVisibleInventoryFillQty (baseline actual : Option ℚ) : Option ℚ := do
  let baseline ← normalizeTradeBuilderVisibleInventoryQty baseline
  let actual ← normalizeTradeBuilderVisibleInventoryQty actual
  let delta := roundTradeBuilderShareQty (max (actual - baseline) 0)
  if tradeBuilderExitQtyTolerance < delta then some delta else none

/-- A fill after a cancel is looked for in the exchange's answer, the fills table and the
visible inventory, in this order. -/
def tradeBuilderDetectedCancelFill (apiFilledSize : Option ℚ) (dbFillQty : ℚ)
    (visibleInventoryFillQty : Option ℚ) : Option ℚ :=
  (normalizeTradeBuilderTerminalFillQtyCandidate apiFilledSize).or <|
    (normalizeTradeBuilderTerminalFillQtyCandidate (some dbFillQty)).or visibleInventoryFillQty

def tradeBuilderCancelFillIsFull (effectiveStatus : ExchangeStatus) (orderSize : Option ℚ)
    (fillQty : ℚ) : Bool :=
  effectiveStatus == .filled ||
    orderSize.any fun size => |fillQty - roundTradeBuilderShareQty size| < 2 / 100

def tradeBuilderCancelFillCanonicalEntryQty (order : TradeBuilderOrder) (fillQty : ℚ) :
    Option (ℚ × EntryQtySource) :=
  ((tradeBuilderCumulativeFillQty order (some fillQty)).map (·, .cumulativeFillQty)).or
    ((normalizeTradeBuilderTerminalFillQtyCandidate (some fillQty)).map (·, .actualFillQty))

inductive PostCancelBuyOutcome | noFill | finalized
  deriving DecidableEq

def visibleInventoryFill : Job (Option ℚ) := do
  match ← Job.tryRun .inventoryBaseline with
  | .ok baseline =>
    match ← Job.tryRun .availableTokenQty with
    | .ok quantity =>
      pure (tradeBuilderDetectedVisibleInventoryFillQty baseline
        (normalizeTradeBuilderVisibleInventoryRead quantity))
    | .error _ =>
      Job.event "post_cancel_visible_inventory_check_failed"
      pure none
  | .error _ =>
    Job.event "post_cancel_visible_inventory_baseline_failed"
    pure none

/-- The exchange is asked again after the cancel; an error counts as canceled, unfilled. -/
def postCancelStatus (exchangeOrderId : ℕ) : Job (Option ℚ × ExchangeStatus) := do
  match ← Job.tryRun (.status exchangeOrderId) with
  | .ok info => pure (info.filledSize, info.status)
  | .error _ => pure (none, .canceled)

/-- A partial fill found after a cancel is stored on the row before it is finalized. -/
def finalizePostCancelFill (order : TradeBuilderOrder) (fillQty : ℚ) (isFull : Bool) :
    Job Unit := do
  if isFull then
    let entry ← requireEntryQty (tradeBuilderCancelFillCanonicalEntryQty order fillQty)
    Job.statement .markOrderStatus
    Job.event "reprice_cancel_full_fill_detected"
    finalizeBuilderFill order entry.1 entry.2 (some fillQty) false
  else
    Job.statement .markOrderStatus
    Job.update (.setFilledQty
      ((tradeBuilderCumulativeFillQty order (some fillQty)).getD fillQty))
    Job.event "reprice_partial_fill_detected"
    let entry ← requireEntryQty (tradeBuilderCancelFillCanonicalEntryQty order fillQty)
    finalizeBuilderFill order entry.1 entry.2 (some fillQty) false

def reconcileTradeBuilderPostCancelBuyFill (order : TradeBuilderOrder) (exchangeOrderId : ℕ)
    (orderInfo : OrderInfo) : Job PostCancelBuyOutcome := do
  let (apiFilledSize, effectiveStatus) ← postCancelStatus exchangeOrderId
  let dbFillQty ← Job.orElse (.aggregateFillQty exchangeOrderId) 0
  let visible ← visibleInventoryFill
  match tradeBuilderDetectedCancelFill apiFilledSize dbFillQty visible with
  | none => pure .noFill
  | some fillQty =>
    finalizePostCancelFill order fillQty
      (tradeBuilderCancelFillIsFull effectiveStatus orderInfo.size fillQty)
    pure .finalized

def transitionTradeBuilderOrderToGuardWaiting (order : TradeBuilderOrder) (reason : String)
    (remainingSize remainingQty : Option ℚ) : Job Unit := do
  Job.update (.setGuardBlockedState (text reason) remainingSize remainingQty)
  if ¬ (order.status = .guardBlocked ∧ order.lastError = some (text reason)) then
    Job.event "guard_waiting"
    Job.statement .guardNotification

def markTradeBuilderInventoryPending (order : TradeBuilderOrder) (reason : String) :
    Job Unit := do
  Job.update (if order.activeExchangeOrderId.isSome
    then .clearActiveExchangeOrderPreserveSizing .inventoryPending
    else .setStatus .inventoryPending (some (text reason)))
  Job.update (.setStatus .inventoryPending (some (text reason)))
  Job.event "exit_inventory_pending"

/-- The row goes back to "triggered" without an exchange order, maybe with a lower quantity. -/
def scheduleTradeBuilderExitSellRetry (order : TradeBuilderOrder) (error : ErrorText)
    (desiredPrice : ℚ) (attemptedQty nextRemainingQtyOverride : Option ℚ)
    (attemptStage nextStage : Option ExitSubmitStage) : Job Unit := do
  let preserveVisible := nextRemainingQtyOverride.isNone && nextStage == some .visibleInventory &&
    attemptStage != some .visibleInventory
  let nextRemainingQty := nextRemainingQtyOverride.or <|
    (if preserveVisible then attemptedQty else none).or <|
      (attemptedQty.bind tradeBuilderNextRetryShareQty).or order.remainingQty
  Job.update (.setRetryState .triggered (some { error with stage := nextStage })
    (nextRemainingQty.map fun qty => max (qty * desiredPrice) 0) nextRemainingQty)
  let shaved := (attemptedQty.bind fun previous => nextRemainingQty.map fun next =>
    tradeBuilderRetryQtyIsLower previous next).getD false
  Job.when (nextRemainingQtyOverride.isNone ∧ ¬ preserveVisible ∧ shaved)
    (Job.event "local_inventory_retry_shaved")
  Job.event "retry_scheduled"

def tradeBuilderNextMinSizeRetryStage : Option ExitSubmitStage → Option ExitSubmitStage
  | some .dynamicGross | some .estimatedVisible => some .visibleInventory
  | other => other

def tradeBuilderShouldAllowStopLossBelowMarketMin (order : TradeBuilderOrder) : Bool :=
  tradeBuilderStopLossLatched order || tradeBuilderOrderIsRevengeFlipStopLossSell order

/-- A share sell below the market's minimum is retried or blocked, a latched stop loss goes
on; the answer says whether the pass ends here. -/
def maybeHandleTradeBuilderShareSubmitBelowMarketMin (order : TradeBuilderOrder)
    (desiredPrice : ℚ) (requestedQty : Option ℚ) (submitQty : ℚ)
    (attemptStage : Option ExitSubmitStage) : Job Bool := do
  if order.side ≠ .sell ∨ order.sizeBasis ≠ .shares then
    pure false
  else
    let requested := (normalizeTradeBuilderVisibleInventoryQty
      (requestedQty.or (order.remainingQty.or order.targetQty))).or
        (normalizeTradeBuilderVisibleInventoryQty (some submitQty))
    if ← Job.orElse (.check .belowMarketMinRetry) false then
      scheduleTradeBuilderExitSellRetry order (text "below market minimum") desiredPrice
        (some submitQty) requested attemptStage (tradeBuilderNextMinSizeRetryStage attemptStage)
      pure true
    else if ← Job.orElse (.check .belowMarketMinBlock) false then
      if tradeBuilderShouldAllowStopLossBelowMarketMin order then
        Job.event "sl_below_market_min_retry"
        pure false
      else
        Job.update (.setRetryState .blocked (some (text "below market minimum"))
          (requested.map fun qty => max (qty * desiredPrice) 0) requested)
        Job.event "submit_deferred_below_market_min"
        pure true
    else
      pure false

/-- After the exchange said the order is already matched: finalize with what is known. -/
def finalizeTerminalMatch (order : TradeBuilderOrder) (exchangeOrderId : ℕ)
    (orderInfo : OrderInfo) (event : String) (forceTerminal : Bool) : Job Unit := do
  let quantities ← resolveTradeBuilderFinalizeQuantities order exchangeOrderId orderInfo
  Job.statement .markOrderStatus
  Job.event event
  finalizeBuilderFill order quantities.canonicalEntryQty quantities.source
    quantities.actualFillQty forceTerminal

/-- What a guard that cancels the open order does afterwards when nothing was filled. -/
inductive GuardCancel | triggerPrice | maxPrice
  deriving DecidableEq

def GuardCancel.reason : GuardCancel → String
  | triggerPrice => "below_trigger_price_guard"
  | maxPrice => "above_max_price"

def GuardCancel.event : GuardCancel → String
  | triggerPrice => "trigger_price_canceled"
  | maxPrice => "max_price_canceled"

def GuardCancel.waits (guard : GuardCancel) (order : TradeBuilderOrder) : Job Bool := do
  match guard with
  | triggerPrice => pure order.retryOnTriggerGuardBlock
  | maxPrice =>
    if order.retryOnMaxPriceBlock then pure true
    else if order.pairLegRole = some .counterCandidate ∧ order.pairSessionId.isSome then
      Job.check .pairCounterForcesWaiting
    else pure false

/-- Without a fill the order waits for the guard or is canceled; only the max price guard
clears the row before it waits, and only it ends a pair session. -/
def GuardCancel.withoutFill (guard : GuardCancel) (order : TradeBuilderOrder)
    (remainingSize remainingQty : Option ℚ) : Job Unit := do
  if ← guard.waits order then
    Job.when (guard = maxPrice) (Job.update (.clearActiveExchangeOrder .canceled))
    transitionTradeBuilderOrderToGuardWaiting order guard.reason remainingSize remainingQty
  else
    Job.update (.clearActiveExchangeOrder .canceled)
    Job.update (.setStatus .canceled (some (text guard.reason)))
    Job.statement .guardNotification
    Job.when (guard = maxPrice) (Job.statement .abortPairSession)

def cancelOpenOrderAtGuard (guard : GuardCancel) (order : TradeBuilderOrder)
    (exchangeOrderId : ℕ) (orderInfo : OrderInfo) (remainingSize remainingQty : Option ℚ) :
    Job Unit := do
  -- the fill is the one reported before the cancel
  let filledSize := normalizeTradeBuilderTerminalFillQtyCandidate orderInfo.filledSize
  match ← Job.tryRun (.cancel exchangeOrderId) with
  | .error e =>
    if e.kind = .terminalMatch then
      finalizeTerminalMatch order exchangeOrderId orderInfo guard.event true
    else
      Prog.fail e
  | .ok _ =>
    Job.statement .markOrderStatus
    Job.event guard.event
    match filledSize with
    | some filled =>
      let entry ← requireEntryQty (tradeBuilderCanonicalEntryQty order (some filled))
      finalizeBuilderFill order entry.1 entry.2 (some filled) true
    | none => guard.withoutFill order remainingSize remainingQty

/-- The size a share sell can submit with the inventory it sees. -/
structure InventorySubmit where
  size : ℚ
  availableQty : Option ℚ := none
  partialVisible : Bool := false

/-- Only exit children have an estimate of the quantity left after the fee. -/
def tradeBuilderEstimatedVisibleExitQty (order : TradeBuilderOrder) (requestedQty : ℚ) :
    Job (Option ℚ) := do
  if tradeBuilderIsChildExitSell order ∧ order.sizeBasis = .shares then
    let estimated ← Job.orElse .estimatedVisibleQty none
    pure ((estimated.map fun qty =>
      roundTradeBuilderShareQty (min (roundTradeBuilderShareQty qty) requestedQty)).filter (0 < ·))
  else
    pure none

def InventorySubmit.ofVisible (size submitQty : ℚ) (available : Option ℚ) : InventorySubmit :=
  ⟨submitQty, available, submitQty + tradeBuilderExitQtyTolerance < size⟩

/-- The visible inventory, unless a submit has read it ahead. -/
def availableQtyOr (prefetched : Option ℚ) : Job (Option ℚ) :=
  Job.whenOr prefetched.isNone prefetched (Job.orElse .availableTokenQty none)

@[simp] theorem availableQtyOr_none :
    availableQtyOr none = Job.orElse .availableTokenQty none := rfl

/-- A sell that is not optimistic needs visible inventory; only a latched stop loss may fall
back on an estimate of it. -/
def resolveInventoryOrWait (order : TradeBuilderOrder) (size : ℚ) (prefetched : Option ℚ) :
    Job (Option InventorySubmit) := do
  let available ← availableQtyOr prefetched
  let fallback ← Job.whenOr (tradeBuilderStopLossLatched order) none
    (tradeBuilderEstimatedVisibleExitQty order size)
  match (clampTradeBuilderVisibleShareQty size available).or fallback with
  | none =>
    markTradeBuilderInventoryPending order "exit inventory not yet available"
    pure none
  | some submitQty =>
    Job.when ((available.bind fun a => fallback.map fun f => |a - f|).any (2 / 100 ≤ ·))
      (Job.event "inventory_source_mismatch")
    Job.when (fallback.isSome ∧ available.getD 0 ≤ 0) (Job.event "local_inventory_fallback_used")
    pure (some (.ofVisible size submitQty available))

/-- The first stage of an optimistic sell submits what is left after the fee. -/
def resolveDynamicGross (order : TradeBuilderOrder) (size : ℚ) (prefetched : Option ℚ) :
    Job (Option InventorySubmit) := do
  let submitQty := (← tradeBuilderEstimatedVisibleExitQty order size).getD size
  Job.when (submitQty < size) (Job.event "dynamic_gross_fee_adjusted")
  pure (some ⟨min submitQty size, prefetched, false⟩)

/-- The last stage of an optimistic sell submits what it sees, or retries later. -/
def resolveInventoryOrRetry (order : TradeBuilderOrder) (desiredPrice size : ℚ)
    (prefetched : Option ℚ) : Job (Option InventorySubmit) := do
  let available ← availableQtyOr prefetched
  match clampTradeBuilderVisibleShareQty size available with
  | none =>
    scheduleTradeBuilderExitSellRetry order (text "exit inventory not yet available")
      desiredPrice (some size) none (some .visibleInventory) (some .visibleInventory)
    pure none
  | some submitQty => pure (some (.ofVisible size submitQty available))

/-- The inventory step of a share sell: it may shrink the size, or end the pass (no answer)
with the row sent to wait for inventory or to retry. -/
def resolveShareInventory (order : TradeBuilderOrder) (desiredPrice size : ℚ)
    (prefetched : Option ℚ) : Job (Option InventorySubmit) :=
  if ¬ tradeBuilderShouldUseOptimisticExitSubmit order then
    resolveInventoryOrWait order size prefetched
  else
    match tradeBuilderCurrentExitSubmitStage order with
    | .dynamicGross => resolveDynamicGross order size prefetched
    | .estimatedVisible => pure (some ⟨size, prefetched, false⟩)
    | .visibleInventory => resolveInventoryOrRetry order desiredPrice size prefetched

def InventorySubmit.clamp (s : InventorySubmit) : InventorySubmit :=
  match clampTradeBuilderVisibleShareQty s.size s.availableQty with
  | some clamped =>
    if clamped < s.size then { s with size := clamped, partialVisible := true } else s
  | none => s

/-- A share sell refused for its balance waits if its inventory is seen after all; any other
share sell is retried, unless its last error was fatal. -/
def retryRefusedPlacement (order : TradeBuilderOrder) (e : ErrorText) (desiredPrice size : ℚ)
    (waitReason : String) : Job Unit := do
  let rechecked ← Job.whenOr
    (order.side = .sell ∧ order.sizeBasis = .shares ∧ e.kind = .balanceOrAllowance) none
    (Job.orElse .availableTokenQty none)
  if (rechecked.bind fun qty => clampTradeBuilderVisibleShareQty size (some qty)).isSome then
    markTradeBuilderInventoryPending order waitReason
  else if tradeBuilderShouldRetryExitSell order then
    scheduleTradeBuilderExitSellRetry order e desiredPrice (some size) none none none
  else
    Prog.fail e

/-- What a refused placement does to the row: a fatal rejection is an error, a share sell
goes to retry or waits for its inventory, anything else is passed on. -/
def handlePlaceError (order : TradeBuilderOrder) (e : ErrorText) (desiredPrice size : ℚ)
    (waitReason : String) : Job Unit := do
  let shareBalance :=
    order.side = .sell ∧ order.sizeBasis = .shares ∧ e.kind = .balanceOrAllowance
  if e.kind = .fatalExchangeRejection then
    Job.update (.setStatus .error (some e))
    Job.event "fatal_exchange_rejection"
  else if shareBalance ∧ tradeBuilderShouldUseOptimisticExitSubmit order then
    Job.event "optimistic_exit_balance_rejected"
    scheduleTradeBuilderExitSellRetry order e desiredPrice (some size) none
      (some (tradeBuilderCurrentExitSubmitStage order)) (some .visibleInventory)
  else if shareBalance ∧ tradeBuilderStopLossLatched order then
    scheduleTradeBuilderExitSellRetry order e desiredPrice (some size) none none none
  else
    retryRefusedPlacement order e desiredPrice size waitReason

def desiredPriceOf (order : TradeBuilderOrder) (currentPrice : ℚ) (bestAsk : Option ℚ) :
    Job ℚ := do
  match order.side with
  | .sell => Job.orElse .sellSubmitPrice currentPrice
  | .buy =>
    pure ((tradeBuilderMarketBuyExecutionPrice order currentPrice bestAsk).getD
      (aggressivePriceForSide .buy currentPrice order.minPriceDistanceCent))

def shouldReprice (order : TradeBuilderOrder) (desiredPrice : ℚ) : Bool :=
  match order.workingPrice with
  | none => true
  | some workingPrice =>
    minPriceDistanceToProbability order.minPriceDistanceCent ≤ |workingPrice - desiredPrice|

/-- A replacement that was filled at once is finalized with the size it was placed with. -/
def finalizeReplacement (order : TradeBuilderOrder) (size : ℚ) : Job Unit := do
  if tradeBuilderShouldTrackBuyInventoryObservation order then
    let entry ← requireEntryQty (tradeBuilderCanonicalEntryQty order (some size))
    finalizeBuilderFill order entry.1 entry.2
      (if 0 < order.filledQty then some size else none) false
  else
    finalizeBuilderFill order size .actualFillQty (some size) false

/-- The replacement: place it, store its id, and finalize when it is filled at once. -/
def placeReplacement (order : TradeBuilderOrder) (desiredPrice size : ℚ)
    (remainingUsdc remainingQty : Option ℚ) (partialVisible : Bool) : Job Unit := do
  match ← Job.tryRun (.place ⟨desiredPrice, size⟩) with
  | .error e =>
    handlePlaceError order e desiredPrice size
      "exchange rejected repriced sell before inventory synced"
  | .ok ack =>
    Job.run (.upsertOrder ack.exchangeOrderId size)
    let stored := if order.sizeBasis = .shares
      then (some (max (size * desiredPrice) 0), some size) else (remainingUsdc, remainingQty)
    Job.update (.setWorkingState (some ack.exchangeOrderId) (some desiredPrice) stored.1
      stored.2 ack.status.toOrderStatus)
    Job.when partialVisible (Job.event "partial_visible_inventory_submit")
    Job.event "reprice"
    Job.when (ack.status = .filled) (finalizeReplacement order size)

/-- After the cancel of a reprice is acknowledged. A tracked buy never gets here with an
unlooked-for fill, and is not bought again; every other order is replaced. -/
def replaceCanceled (order : TradeBuilderOrder) (desiredPrice size : ℚ)
    (requestedQty remainingUsdc remainingQty : Option ℚ) (partialVisible : Bool)
    (stage : Option ExitSubmitStage) : Job Unit := do
  Job.statement .markOrderStatus
  if tradeBuilderShouldSuppressBuyIocReprice order then
    suppressTradeBuilderBuyIocReprice
  else
    -- a reprice is of type IOC, so the minimum notional top-up of FAK and FOK never applies
    if ← maybeHandleTradeBuilderShareSubmitBelowMarketMin order desiredPrice requestedQty size
        stage then
      pure ()
    else
      Job.when (tradeBuilderShouldUseOptimisticExitSubmit order)
        (Job.event "optimistic_exit_submit_used")
      placeReplacement order desiredPrice size remainingUsdc remainingQty partialVisible

def cancelAndReplace (order : TradeBuilderOrder) (exchangeOrderId : ℕ) (orderInfo : OrderInfo)
    (desiredPrice size : ℚ) (requestedQty remainingUsdc remainingQty : Option ℚ)
    (partialVisible : Bool) (stage : Option ExitSubmitStage) : Job Unit := do
  match ← Job.tryRun (.cancel exchangeOrderId) with
  | .error e =>
    if e.kind = .terminalMatch then
      finalizeTerminalMatch order exchangeOrderId orderInfo "replace_cancel_terminal_match" false
    else
      Prog.fail e
  | .ok _ =>
    if tradeBuilderShouldTrackBuyInventoryObservation order then
      match ← reconcileTradeBuilderPostCancelBuyFill order exchangeOrderId orderInfo with
      | .finalized => pure ()
      | .noFill =>
        replaceCanceled order desiredPrice size requestedQty remainingUsdc remainingQty
          partialVisible stage
    else
      replaceCanceled order desiredPrice size requestedQty remainingUsdc remainingQty
        partialVisible stage

def replaceSize (order : TradeBuilderOrder) (remaining : Option ℚ × Option ℚ)
    (desiredPrice : ℚ) : ℚ :=
  if order.sizeBasis = .shares then remaining.2.getD 0
  else calcLevelSize (remaining.1.getD 0) desiredPrice

def repriceOpenOrder (order : TradeBuilderOrder) (exchangeOrderId : ℕ) (orderInfo : OrderInfo)
    (currentPrice : ℚ) (bestAsk : Option ℚ) (desiredPrice : ℚ)
    (remaining : Option ℚ × Option ℚ) : Job Unit := do
  let size := replaceSize order remaining desiredPrice
  let requestedQty := if order.sizeBasis = .shares then remaining.2 else none
  if size ≤ 0 then
    Job.update (.clearActiveExchangeOrder .completed)
  else if tradeBuilderPriceBelowGuardTrigger order
      (tradeBuilderResolveTriggerGuardReferencePrice order currentPrice bestAsk) then
    cancelOpenOrderAtGuard .triggerPrice order exchangeOrderId orderInfo remaining.1 remaining.2
  else if tradeBuilderPriceExceedsMaxPrice order desiredPrice then
    cancelOpenOrderAtGuard .maxPrice order exchangeOrderId orderInfo remaining.1 remaining.2
  else if order.side = .sell ∧ order.sizeBasis = .shares then
    match ← resolveShareInventory order desiredPrice size none with
    | none => pure ()
    | some submit =>
      let clamped := submit.clamp
      let remaining := if clamped.size < submit.size
        then (some (max (clamped.size * desiredPrice) 0), some clamped.size) else remaining
      cancelAndReplace order exchangeOrderId orderInfo desiredPrice clamped.size requestedQty
        remaining.1 remaining.2 clamped.partialVisible (if tradeBuilderShouldUseOptimisticExitSubmit order
          then some (tradeBuilderCurrentExitSubmitStage order) else none)
  else
    cancelAndReplace order exchangeOrderId orderInfo desiredPrice size requestedQty remaining.1
      remaining.2 false none

/-- An exit child is first synced with its siblings; the pass goes on with the row it read. -/
def syncWithParent : Job Unit := do
  let parent ← Job.run .getParentOrder
  Job.when parent.isSome (Job.ignore tradeBuilderSyncParentExitChildren)

def reportPriceCap : Job Unit := do
  let capped ← Job.orElse (.check .priceCapped) false
  Job.when capped (Job.event "exit_price_capped")

def reconcileOpen (order : TradeBuilderOrder) (exchangeOrderId : ℕ) (orderInfo : OrderInfo)
    (currentPrice : ℚ) (bestAsk : Option ℚ) : Job Unit := do
  let remaining := estimateRemainingTradeBuilderSizing order orderInfo currentPrice
  Job.when (tradeBuilderIsChildExitSell order) syncWithParent
  let desiredPrice ← desiredPriceOf order currentPrice bestAsk
  Job.when (order.side = .sell) reportPriceCap
  Job.statement .feeRate
  if shouldReprice order desiredPrice then
    repriceOpenOrder order exchangeOrderId orderInfo currentPrice bestAsk desiredPrice remaining
  else
    Job.update (.setWorkingState (some exchangeOrderId) order.workingPrice remaining.1
      remaining.2 orderInfo.status.toOrderStatus)

/-- A conditional order with triggers left is armed again and keeps its sizing. -/
def closeTerminal (order : TradeBuilderOrder) : Job Unit := do
  if order.kind = .conditional ∧ order.triggersFired < order.maxTriggers then
    Job.update (.clearActiveExchangeOrderPreserveSizing .armed)
  else
    Job.update (.clearActiveExchangeOrder .completed)
  Job.event "terminal_exchange_status"

def reconcileTerminal (order : TradeBuilderOrder) (exchangeOrderId : ℕ)
    (orderInfo : OrderInfo) : Job Unit := do
  if ← maybeHandleLatchedStopLossTerminalStatus order exchangeOrderId orderInfo then
    pure ()
  else if tradeBuilderShouldTrackBuyInventoryObservation order then
    match ← reconcileTradeBuilderPostCancelBuyFill order exchangeOrderId orderInfo with
    | .finalized => pure ()
    | .noFill =>
      if tradeBuilderShouldSuppressBuyIocReprice order then
        suppressTradeBuilderBuyIocReprice
      else
        closeTerminal order
  else
    closeTerminal order

/-- A requested cancel: the exchange order is canceled and the row closed; what it filled is
not read. -/
def reconcileCancelRequested (exchangeOrderId : ℕ) : Job Unit := do
  Job.run (.cancel exchangeOrderId)
  Job.statement .markOrderStatus
  Job.update (.clearActiveExchangeOrder .canceled)
  Job.event "cancel_requested"

def reconcileFilled (order : TradeBuilderOrder) (exchangeOrderId : ℕ) (orderInfo : OrderInfo) :
    Job Unit := do
  let quantities ← resolveTradeBuilderFinalizeQuantities order exchangeOrderId orderInfo
  finalizeBuilderFill order quantities.canonicalEntryQty quantities.source
    quantities.actualFillQty false

def reconcileTradeBuilderOpenOrder (order : TradeBuilderOrder) (exchangeOrderId : ℕ)
    (currentPrice : ℚ) (bestAsk : Option ℚ) : Job Unit := do
  if order.status = .canceledRequested then
    reconcileCancelRequested exchangeOrderId
  else
    let orderInfo ← Job.run (.status exchangeOrderId)
    Job.statement .markOrderStatus
    match orderInfo.status with
    | .filled => reconcileFilled order exchangeOrderId orderInfo
    | .canceled | .rejected | .expired => reconcileTerminal order exchangeOrderId orderInfo
    | .opened | .partiallyFilled =>
      reconcileOpen order exchangeOrderId orderInfo currentPrice bestAsk

end PolymarketBot.Builder
