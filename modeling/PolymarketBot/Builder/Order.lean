import Mathlib.Algebra.Order.Floor.Ring
import Mathlib.Data.List.Nodup
import Mathlib.Data.Rat.Floor
import Mathlib.Tactic.Linarith

/-! The builder order row, the predicates the processing loops read off it, and the update
statements that write it. Quantities and prices are exact rationals. -/

namespace PolymarketBot.Builder

inductive OrderStatus
  | pending | armed | triggered | blocked | guardBlocked | inventoryPending
  | opened | partiallyFilled | filled | rejected
  | canceledRequested | canceled | completed | expired | error
  deriving DecidableEq, Repr

inductive OrderKind | immediate | conditional
  deriving DecidableEq, Repr

inductive Side | buy | sell
  deriving DecidableEq, Repr

inductive SizeBasis | notionalUsdc | shares
  deriving DecidableEq, Repr

inductive TriggerCondition | crossAbove | crossBelow | levelAbove | levelBelow
  deriving DecidableEq, Repr

inductive ExitSubmitStage | dynamicGross | estimatedVisible | visibleInventory
  deriving DecidableEq, Repr

inductive PairLegRole | leadCandidate | counterCandidate | orphanUnwindSell
  deriving DecidableEq, Repr

/-- What the error classifiers of the bot see in an error text. -/
inductive ErrorKind
  | fatalExchangeRejection | balanceOrAllowance | midpointNotFound | fakNoMatch
  | terminalMatch | other
  deriving DecidableEq, Repr

structure ErrorText where
  reason : String := ""
  kind : ErrorKind := .other
  stage : Option ExitSubmitStage := none
  deriving DecidableEq, Repr

structure PriceExitRule where
  price : ℚ
  sizePct : ℚ
  deriving DecidableEq, Repr

structure PtbStopLossRule where
  gapUsd : ℚ
  sizePct : ℚ
  deriving DecidableEq, Repr

structure TimeExitRule where
  elapsedMinutes : ℤ
  remainingPct : ℚ
  deriving DecidableEq, Repr

structure TradeBuilderOrder where
  id : ℤ := 1
  kind : OrderKind := .immediate
  status : OrderStatus := .pending
  side : Side := .buy
  triggerCondition : Option TriggerCondition := none
  triggerPrice : Option ℚ := none
  maxPrice : Option ℚ := none
  sizeBasis : SizeBasis := .notionalUsdc
  sizeUsdc : ℚ := 0
  targetQty : Option ℚ := none
  minPriceDistanceCent : ℚ := 1
  expiresAt : Option ℤ := none
  eligibleAfterAt : Option ℤ := none
  eligibleBeforeAt : Option ℤ := none
  maxTriggers : ℤ := 1
  triggersFired : ℤ := 0
  activeExchangeOrderId : Option ℕ := none
  remainingSize : Option ℚ := none
  remainingQty : Option ℚ := none
  workingPrice : Option ℚ := none
  lastSeenPrice : Option ℚ := none
  lastError : Option ErrorText := none
  parentOrderId : Option ℤ := none
  originFlowRunId : Option ℤ := none
  pairSessionId : Option ℤ := none
  pairLegRole : Option PairLegRole := none
  tpEnabled : Bool := false
  tpPrice : Option ℚ := none
  tpRules : List PriceExitRule := []
  slEnabled : Bool := false
  slPrice : Option ℚ := none
  slRules : List PriceExitRule := []
  filledQty : ℚ := 0
  triggerLatched : Bool := false
  triggerLatchedReason : Option String := none
  submittedDynamicQty : Option ℚ := none
  submittedDynamicPrice : Option ℚ := none
  guardTriggerPrice : Option ℚ := none
  retryOnTriggerGuardBlock : Bool := false
  retryOnExecutionFloorGuardBlock : Bool := false
  retryOnMaxPriceBlock : Bool := false
  ptbStopLossGapUsd : Option ℚ := none
  ptbStopLossRules : List PtbStopLossRule := []
  timeExitRules : List TimeExitRule := []
  exitLadderKind : Option String := none
  revengeFlipIntent : Option String := none
  deriving DecidableEq, Repr

def isTradeBuilderOrderProcessableStatus : OrderStatus → Bool
  | .pending | .armed | .triggered | .opened | .partiallyFilled | .canceledRequested
  | .guardBlocked | .inventoryPending => true
  | _ => false

/-- The statuses the active-order queries list. -/
def isActiveOrderStatus : OrderStatus → Bool
  | .pending | .armed | .triggered | .opened | .partiallyFilled => true
  | _ => false

def tradeBuilderIsTerminalStatus : OrderStatus → Bool
  | .completed | .canceled | .expired | .filled | .canceledRequested => true
  | _ => false

def tradeBuilderStopLossLatched (order : TradeBuilderOrder) : Bool :=
  order.triggerLatched && order.triggerLatchedReason == some "stop_loss"

def tradeBuilderIsChildExitSell (order : TradeBuilderOrder) : Bool :=
  order.parentOrderId.isSome && order.side == .sell && order.kind == .conditional

def tradeBuilderIsTakeProfitChild (order : TradeBuilderOrder) : Bool :=
  tradeBuilderIsChildExitSell order && order.triggerCondition == some .crossAbove

def tradeBuilderIsStopLossChild (order : TradeBuilderOrder) : Bool :=
  tradeBuilderIsChildExitSell order && order.triggerCondition == some .crossBelow

def tradeBuilderOrderUsesWsFastPath (order : TradeBuilderOrder) : Bool :=
  order.parentOrderId.isSome && order.side == .sell && order.kind == .conditional &&
    (order.status == .armed || order.status == .triggered) &&
    order.triggerCondition.isSome && order.triggerPrice.isSome

def ErrorText.isFatal (e : ErrorText) : Bool := e.kind == .fatalExchangeRejection

def tradeBuilderShouldRetryExitSell (order : TradeBuilderOrder) : Bool :=
  order.side == .sell && order.sizeBasis == .shares && !order.lastError.any ErrorText.isFatal

def tradeBuilderOrderIsRevengeFlipStopLossSell (order : TradeBuilderOrder) : Bool :=
  order.side == .sell && order.kind == .immediate &&
    order.revengeFlipIntent == some "stop_loss_sell"

def tradeBuilderShouldRetryAfterProcessingError (order : TradeBuilderOrder) : Bool :=
  !order.lastError.any ErrorText.isFatal && tradeBuilderShouldRetryExitSell order &&
    (tradeBuilderStopLossLatched order || tradeBuilderOrderIsRevengeFlipStopLossSell order ||
      order.lastError.any fun e => e.kind == .midpointNotFound)

def tradeBuilderShouldTrackBuyInventoryObservation (order : TradeBuilderOrder) : Bool :=
  order.side == .buy && order.parentOrderId.isNone && order.sizeBasis == .notionalUsdc &&
    (order.tpEnabled || order.slEnabled)

/-- Every execution mode normalises to "market", whose order type is always IOC. -/
def tradeBuilderShouldSuppressBuyIocReprice (order : TradeBuilderOrder) : Bool :=
  tradeBuilderShouldTrackBuyInventoryObservation order

def tradeBuilderShouldUseOptimisticExitSubmit (order : TradeBuilderOrder) : Bool :=
  order.sizeBasis == .shares &&
    (tradeBuilderIsChildExitSell order ||
      (order.side == .sell && order.kind == .immediate && order.originFlowRunId.isSome))

def tradeBuilderCurrentExitSubmitStage (order : TradeBuilderOrder) : ExitSubmitStage :=
  if tradeBuilderShouldUseOptimisticExitSubmit order then
    (order.lastError.bind ErrorText.stage).getD .dynamicGross
  else
    .dynamicGross

def shouldRequestTradeBuilderOcoCancel (order : TradeBuilderOrder) : Bool :=
  tradeBuilderIsChildExitSell order && order.exitLadderKind.isNone

def tradeBuilderPairLockIsCandidateOrder (order : TradeBuilderOrder) : Bool :=
  order.pairLegRole == some .leadCandidate || order.pairLegRole == some .counterCandidate

def tradeBuilderOrderUsesPairLock (order : TradeBuilderOrder) : Bool :=
  order.pairSessionId.isSome && order.pairLegRole.isSome

structure TriggerEvaluation where
  shouldTrigger : Bool
  firstTickThresholdUsed : Bool := false
  deriving DecidableEq, Repr

/-- The update statements of the order row; each writes its columns whatever the row holds. -/
inductive OrderUpdate
  | setStatus (status : OrderStatus) (lastError : Option ErrorText)
  | setLastError (lastError : Option ErrorText)
  | setFilledQty (filledQty : ℚ)
  | setSubmittedDynamic (qty price : Option ℚ)
  | setTriggerLatched (latched : Bool) (reason : Option String)
  | setLastSeenPrice (price : ℚ)
  | setWorkingState (activeExchangeOrderId : Option ℕ) (workingPrice remainingSize
      remainingQty : Option ℚ) (status : OrderStatus)
  | updateSizingAndState (sizeBasis : SizeBasis) (sizeUsdc : ℚ) (targetQty remainingSize
      remainingQty : Option ℚ) (status : OrderStatus) (lastError : Option ErrorText)
      (eligibleAfterAt eligibleBeforeAt : Option ℤ)
  | setRetryState (status : OrderStatus) (lastError : Option ErrorText) (remainingSize
      remainingQty : Option ℚ)
  | setGuardBlockedState (reason : ErrorText) (remainingSize remainingQty : Option ℚ)
  | incrementTriggerCount
  | clearActiveExchangeOrder (status : OrderStatus)
  | clearActiveExchangeOrderPreserveSizing (status : OrderStatus)
  deriving DecidableEq, Repr

def OrderUpdate.apply : OrderUpdate → TradeBuilderOrder → TradeBuilderOrder
  | setStatus status lastError, row => { row with status, lastError }
  | setLastError lastError, row => { row with lastError }
  | setFilledQty filledQty, row => { row with filledQty }
  | setSubmittedDynamic qty price, row =>
    { row with submittedDynamicQty := qty, submittedDynamicPrice := price }
  | setTriggerLatched latched reason, row =>
    { row with triggerLatched := latched, triggerLatchedReason := reason }
  | setLastSeenPrice price, row => { row with lastSeenPrice := some price }
  | setWorkingState activeExchangeOrderId workingPrice remainingSize remainingQty status, row =>
    { row with activeExchangeOrderId, workingPrice, remainingSize, remainingQty, status
               lastError := none }
  | updateSizingAndState sizeBasis sizeUsdc targetQty remainingSize remainingQty status
      lastError eligibleAfterAt eligibleBeforeAt, row =>
    { row with sizeBasis, sizeUsdc, targetQty, remainingSize, remainingQty, status, lastError
               eligibleAfterAt, eligibleBeforeAt
               activeExchangeOrderId := none, workingPrice := none }
  | setRetryState status lastError remainingSize remainingQty, row =>
    { row with activeExchangeOrderId := none, workingPrice := none
               remainingSize, remainingQty, status, lastError }
  | setGuardBlockedState reason remainingSize remainingQty, row =>
    { row with activeExchangeOrderId := none, workingPrice := none
               remainingSize, remainingQty, status := .guardBlocked, lastError := some reason }
  | incrementTriggerCount, row => { row with triggersFired := row.triggersFired + 1 }
  | clearActiveExchangeOrder status, row =>
    { row with activeExchangeOrderId := none, remainingSize := none, remainingQty := none
               workingPrice := none, status }
  | clearActiveExchangeOrderPreserveSizing status, row =>
    { row with activeExchangeOrderId := none, workingPrice := none, status }

/-- The active exchange order id a statement leaves, when it writes that column. -/
def OrderUpdate.activeId : OrderUpdate → Option (Option ℕ)
  | setWorkingState id .. => some id
  | updateSizingAndState .. | setRetryState .. | setGuardBlockedState ..
  | clearActiveExchangeOrder .. | clearActiveExchangeOrderPreserveSizing .. => some none
  | _ => none

/-- The status a statement leaves, when it writes that column. -/
def OrderUpdate.status? : OrderUpdate → Option OrderStatus
  | setStatus status _ => some status
  | setWorkingState _ _ _ _ status => some status
  | updateSizingAndState _ _ _ _ _ status .. => some status
  | setRetryState status .. => some status
  | setGuardBlockedState .. => some .guardBlocked
  | clearActiveExchangeOrder status => some status
  | clearActiveExchangeOrderPreserveSizing status => some status
  | _ => none

theorem OrderUpdate.apply_activeExchangeOrderId (u : OrderUpdate) (row : TradeBuilderOrder) :
    (u.apply row).activeExchangeOrderId = u.activeId.getD row.activeExchangeOrderId := by
  cases u <;> rfl

theorem OrderUpdate.apply_status (u : OrderUpdate) (row : TradeBuilderOrder) :
    (u.apply row).status = u.status?.getD row.status := by
  cases u <;> rfl

end PolymarketBot.Builder
