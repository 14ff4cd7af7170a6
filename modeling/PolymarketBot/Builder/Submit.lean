import PolymarketBot.Builder.Reconcile

/-! The submit step of a triggered order without an active exchange order. -/

namespace PolymarketBot.Builder
open Lib

def tradeBuilderIsFastStopLossSell (order : TradeBuilderOrder) : Bool :=
  tradeBuilderStopLossLatched order &&
    (tradeBuilderIsStopLossChild order || tradeBuilderOrderIsRevengeFlipStopLossSell order)

def tradeBuilderFastSlRetryMaxAttempts : ℕ := 5

/-- Places again at fresh prices while the exchange finds no order to match; the answer is
the placement that went through, or the last error. -/
def fastStopLossRetry (size : ℚ) : ℕ → ErrorText → Job (Except ErrorText (PlaceAck × ℚ))
  | 0, lastError => pure (.error lastError)
  | attempts + 1, lastError => do
    match ← Job.tryRun .sellSubmitPrice with
    | .error _ => pure (.error lastError)
    | .ok price =>
      match ← Job.tryRun (.place ⟨price, size⟩) with
      | .ok ack => pure (.ok (ack, price))
      | .error e =>
        if e.kind = .fakNoMatch then fastStopLossRetry size attempts e
        else pure (.error e)

structure SubmitSizing where
  size : ℚ
  remainingUsdc : Option ℚ
  remainingQty : Option ℚ
  /-- The inventory read ahead, while the book is. -/
  availableQty : Option ℚ := none
  partialVisible : Bool := false

/-- The sizing a submit starts from; without a positive size it fails. -/
def submitSizing (order : TradeBuilderOrder) (desiredPrice resolvedSizeUsdc : ℚ) :
    Option SubmitSizing :=
  let sizing : Option SubmitSizing :=
    if order.sizeBasis = .shares then
      (tradeBuilderShareRequestQty order).map fun qty =>
        { size := qty, remainingUsdc := some (max (qty * desiredPrice) 0)
          remainingQty := some qty }
    else
      let remainingUsdc := order.remainingSize.getD resolvedSizeUsdc
      some { size := calcLevelSize remainingUsdc desiredPrice
             remainingUsdc := some remainingUsdc, remainingQty := none }
  sizing.filter (0 < ·.size)

/-- The guards stop a submit (answer `true`) after the row waits or is canceled. -/
def applySubmitGuards (order : TradeBuilderOrder) (sizing : SubmitSizing) : Job Bool := do
  if order.side = .sell then
    pure false
  else
    match ← Job.run .submitGuards with
    | .passes => pure false
    | .waits reason =>
      Job.event "guard_evaluated"
      transitionTradeBuilderOrderToGuardWaiting order reason sizing.remainingUsdc
        sizing.remainingQty
      pure true
    | .cancels reason =>
      Job.event "guard_evaluated"
      Job.update (.setStatus .canceled (some (text reason)))
      Job.event "guard_blocked"
      Job.statement .guardNotification
      Job.statement .abortPairSession
      pure true

def tradeBuilderPreSubmitNotionalSize (sizeBasis : SizeBasis) (desiredPrice : ℚ)
    (sizing : SubmitSizing) : SubmitSizing :=
  match sizeBasis with
  | .shares =>
    { sizing with remainingUsdc := (sizing.remainingQty.map fun qty =>
        max (qty * desiredPrice) 0).or sizing.remainingUsdc }
  | .notionalUsdc =>
    { sizing with size := calcLevelSize (sizing.remainingUsdc.getD 0) desiredPrice
                  remainingUsdc := some (sizing.remainingUsdc.getD 0), remainingQty := none }

/-- A buy of an eligible order type looks at the book once more: a fresh price and size, or
(no answer) the row waits for the guard that now blocks. -/
def preSubmitBookRecheck (order : TradeBuilderOrder) (currentPrice desiredPrice : ℚ)
    (sizing : SubmitSizing) : Job (Option (ℚ × SubmitSizing)) := do
  let eligible ← Job.whenOr (order.side = .buy) false
    (Job.orElse (.check .bookRecheckEligible) false)
  if eligible then
    let freshAsk ← Job.orElse .freshBestAsk none
    let price := (tradeBuilderMarketBuyExecutionPrice order currentPrice freshAsk).getD
      (aggressivePriceForSide .buy currentPrice order.minPriceDistanceCent)
    let fresh := tradeBuilderPreSubmitNotionalSize order.sizeBasis price sizing
    match ← Job.run .submitGuards with
    | .passes => pure (some (price, fresh))
    | .waits reason | .cancels reason =>
      Job.event "guard_evaluated"
      Job.event "pre_submit_book_recheck"
      transitionTradeBuilderOrderToGuardWaiting order reason fresh.remainingUsdc
        fresh.remainingQty
      pure none
  else
    pure (some (desiredPrice, sizing))

/-- Resizes a small share buy of a killing order type to the minimum notional; the answer is
`none` when the cap forbids it. -/
def marketableBuyMinNotionalTopUp (order : TradeBuilderOrder) (desiredPrice : ℚ)
    (sizing : SubmitSizing) : Job (Option SubmitSizing) := do
  if order.side = .buy ∧ order.sizeBasis = .shares ∧ 0 < desiredPrice ∧ 0 < sizing.size ∧
      sizing.size * desiredPrice + 1 / 1000000 < 1 then
    if ← Job.orElse (.check .orderTypeIsFakOrFok) false then
      let qty := roundTradeBuilderShareQty (⌈1 / desiredPrice * 100⌉ / 100)
      let cap := max (max order.sizeUsdc (sizing.remainingUsdc.getD 0))
        (max (sizing.size * desiredPrice) 0)
      if cap + 1 / 100 < qty * desiredPrice then
        Job.update (.setStatus .error (some (text "marketable_buy_min_notional_exceeds_cap")))
        Job.event "marketable_buy_min_notional_exceeds_cap"
        pure none
      else
        pure (some { sizing with size := qty, remainingQty := some qty
                                 remainingUsdc := some (qty * desiredPrice) })
    else
      pure (some sizing)
  else
    pure (some sizing)

/-- The share inventory of a submit; unlike a reprice, it also rewrites the remaining size. -/
def submitInventory (order : TradeBuilderOrder) (desiredPrice : ℚ) (sizing : SubmitSizing) :
    Job (Option SubmitSizing) := do
  if order.side = .sell ∧ order.sizeBasis = .shares then
    match ← resolveShareInventory order desiredPrice sizing.size sizing.availableQty with
    | none =>
      Job.event "guard_evaluated"
      pure none
    | some submit =>
      let submit := submit.clamp
      pure (some { size := submit.size, remainingQty := some submit.size
                   remainingUsdc := some (max (submit.size * desiredPrice) 0)
                   partialVisible := submit.partialVisible })
  else
    pure (some sizing)

def resolveTradeBuilderImmediateFillQuantities (order : TradeBuilderOrder) (submitSize : ℚ)
    (backfill : Option ℚ) : Job FinalizeQuantities := do
  match normalizeTradeBuilderTerminalFillQtyCandidate backfill with
  | some qty => pure ⟨qty, .actualFillQty, some qty⟩
  | none =>
    if tradeBuilderShouldTrackBuyInventoryObservation order then
      let entry ← requireEntryQty (tradeBuilderCanonicalEntryQty order (some submitSize))
      pure ⟨entry.1, entry.2, none⟩
    else
      pure ⟨submitSize, .actualFillQty, some submitSize⟩

/-- A tracked buy keeps what it submitted; a failure to store it is ignored. -/
def maybePersistTradeBuilderSubmittedDynamic (order : TradeBuilderOrder) (size price : ℚ) :
    Job TradeBuilderOrder := do
  if tradeBuilderShouldTrackBuyInventoryObservation order then
    match normalizeTradeBuilderTerminalFillQtyCandidate (some size) with
    | none => pure order
    | some qty =>
      let price := normalizeTradeBuilderReferencePrice (some price)
      match ← Job.tryRun (.update (.setSubmittedDynamic (some qty) price)) with
      | .ok _ =>
        pure { order with submittedDynamicQty := some qty, submittedDynamicPrice := price }
      | .error _ => pure order
  else
    pure order

/-- An order that was filled at once is finalized with its synced fills, or what it asked for. -/
def finalizeSubmitted (order : TradeBuilderOrder) (exchangeOrderId : ℕ) (submitSize : ℚ) :
    Job Unit := do
  let backfill ← Job.orElse (.aggregateFillQty exchangeOrderId) 0
  let quantities ← resolveTradeBuilderImmediateFillQuantities order submitSize (some backfill)
  finalizeBuilderFill order quantities.canonicalEntryQty quantities.source
    quantities.actualFillQty false

/-- What follows an accepted placement. The events deferred so far, the flow payload and the
exchange order row are written before the row learns the id of the accepted order. -/
def afterPlaced (order : TradeBuilderOrder) (ack : PlaceAck) (desiredPrice : ℚ)
    (sizing : SubmitSizing) : Job Unit := do
  Job.event "guard_evaluated"
  Job.statement .flowPayload
  Job.run (.upsertOrder ack.exchangeOrderId sizing.size)
  Job.update (.setWorkingState (some ack.exchangeOrderId) (some desiredPrice)
    sizing.remainingUsdc sizing.remainingQty ack.status.toOrderStatus)
  let order ← maybePersistTradeBuilderSubmittedDynamic order sizing.size desiredPrice
  Job.when sizing.partialVisible (Job.event "partial_visible_inventory_submit")
  Job.event "submitted"
  Job.statement .submittedNotification
  Job.when (ack.status = .filled) (finalizeSubmitted order ack.exchangeOrderId sizing.size)

def placeSubmit (order : TradeBuilderOrder) (desiredPrice : ℚ) (sizing : SubmitSizing) :
    Job Unit := do
  match ← Job.tryRun (.place ⟨desiredPrice, sizing.size⟩) with
  | .ok ack => afterPlaced order ack desiredPrice sizing
  | .error e =>
    let retryable := tradeBuilderIsFastStopLossSell order ∧ order.side = .sell ∧
      order.sizeBasis = .shares ∧ e.kind = .fakNoMatch
    let fakOrIoc ← Job.whenOr retryable false (Job.orElse (.check .orderTypeIsFakOrIoc) false)
    let outcome ← Job.whenOr fakOrIoc (.error e)
      (fastStopLossRetry sizing.size tradeBuilderFastSlRetryMaxAttempts e)
    Job.event "guard_evaluated"
    match outcome with
    | .ok (ack, price) =>
      Job.event "fast_sl_retry_attempt"
      afterPlaced order ack price { sizing with
        remainingUsdc := sizing.remainingQty.elim sizing.remainingUsdc
          fun qty => some (max (qty * price) 0) }
    | .error e =>
      handlePlaceError order e desiredPrice sizing.size
        "exchange rejected sell before inventory synced"

def submitRechecked (order : TradeBuilderOrder) (desiredPrice : ℚ) (requestedQty : Option ℚ)
    (sizing : SubmitSizing) : Job Unit := do
  match ← marketableBuyMinNotionalTopUp order desiredPrice sizing with
  | none => pure ()
  | some sizing =>
    let stage := if tradeBuilderShouldUseOptimisticExitSubmit order
      then some (tradeBuilderCurrentExitSubmitStage order) else none
    if ← maybeHandleTradeBuilderShareSubmitBelowMarketMin order desiredPrice requestedQty
        sizing.size stage then
      Job.event "guard_evaluated"
    else
      placeSubmit order desiredPrice sizing

def submitGuarded (order : TradeBuilderOrder) (currentPrice desiredPrice : ℚ)
    (sizing : SubmitSizing) : Job Unit := do
  let requestedQty := if order.sizeBasis = .shares then some sizing.size else none
  if ← Job.check .riskBlocks then
    Job.event "guard_evaluated"
    Job.update (.setStatus .blocked (some (text "risk_block")))
    Job.event "blocked_by_risk"
  else
    match ← submitInventory order desiredPrice sizing with
    | none => pure ()
    | some sizing =>
      Job.statement .orderType
      match ← preSubmitBookRecheck order currentPrice desiredPrice sizing with
      | none => pure ()
      | some (price, sizing) =>
        submitRechecked order (tradeBuilderClampBuyLimitPrice order price) requestedQty sizing

def submitSized (order : TradeBuilderOrder) (currentPrice desiredPrice : ℚ)
    (sizing : SubmitSizing) : Job Unit := do
  Job.when (order.pairLegRole = some .counterCandidate ∧ order.pairSessionId.isSome)
    (Job.discard (Job.check .pairCounterForcesWaiting))
  if ← applySubmitGuards order sizing then
    pure ()
  else
    submitGuarded order currentPrice desiredPrice sizing

def submitTradeBuilderTriggerOrder (order : TradeBuilderOrder) (currentPrice : ℚ)
    (bestAsk : Option ℚ) (resolvedSizeUsdc : ℚ) : Job Unit := do
  let price ← desiredPriceOf order currentPrice bestAsk
  let availableQty ← Job.whenOr (order.side = .sell ∧ order.sizeBasis = .shares) none
    (Job.orElse .availableTokenQty none)
  let quoteMissing ← Job.whenOr (tradeBuilderIsFastStopLossSell order ∧ order.side = .sell ∧
    order.sizeBasis = .shares) false (Job.orElse (.check .fastStopLossQuoteMissing) false)
  if quoteMissing then
    Job.event "sl_initial_quote_unavailable"
    scheduleTradeBuilderExitSellRetry order (text "sl_initial_quote_unavailable") currentPrice
      none none none none
  else
    let desiredPrice := tradeBuilderClampBuyLimitPrice order price
    Job.when (order.side = .sell) reportPriceCap
    match submitSizing order desiredPrice resolvedSizeUsdc with
    | none => Prog.fail errorOther
    | some sizing => submitSized order currentPrice desiredPrice { sizing with availableQty }

end PolymarketBot.Builder
