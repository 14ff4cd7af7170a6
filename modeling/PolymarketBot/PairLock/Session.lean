import PolymarketBot.Builder.Sizing

/-! The session that binds the two legs of a pair lock, the statements that write it, and the
price cap and budget of the counter leg that are read off it. -/

namespace PolymarketBot.PairLock
open Builder

inductive PairStatus | working | locked | unwinding | completed | expired | error
  deriving DecidableEq, Repr

def PairStatus.isClosed : PairStatus → Bool
  | completed | expired | error => true
  | working | locked | unwinding => false

/-- The fill of one leg as the session records it. -/
structure LegFill where
  fillQty : ℚ
  feeQty : ℚ
  netQty : ℚ
  avgFillPrice : ℚ
  deriving DecidableEq, Repr

structure TradeBuilderPairSession where
  status : PairStatus := .working
  pairTargetTotalCent : ℚ
  orphanGraceMs : ℤ := 0
  ignoreStopLossAfterLocked : Bool := false
  primaryOrderId : Option ℤ := none
  counterOrderId : Option ℤ := none
  leadOrderId : Option ℤ := none
  leadFilledAt : Option ℤ := none
  primary : Option LegFill := none
  counter : Option LegFill := none
  lockedQty : Option ℚ := none
  projectedNetProfitUsdc : Option ℚ := none
  lastError : Option String := none
  deriving DecidableEq, Repr

inductive SizingMode | manual | autoRemainingBudget
  deriving DecidableEq, Repr

structure PairLockConfig where
  orphanGraceMs : ℤ := 0
  protectiveUnwindEnabled : Bool := true
  sizingMode : SizingMode := .manual
  totalBudgetUsdc : Option ℚ := none
  deriving DecidableEq, Repr

namespace TradeBuilderPairSession
variable (s : TradeBuilderPairSession)

def attachOrders (primaryOrderId counterOrderId : ℤ) : TradeBuilderPairSession :=
  { s with primaryOrderId := some primaryOrderId, counterOrderId := some counterOrderId }

/-- The first fill of either leg makes it the lead; every fill overwrites its leg's record. -/
def recordFill (role : PairLegRole) (orderId : ℤ) (fill : LegFill) (filledAt : ℤ) :
    TradeBuilderPairSession :=
  let s := { s with leadOrderId := some (s.leadOrderId.getD orderId)
                    leadFilledAt := some (s.leadFilledAt.getD filledAt) }
  if role = .leadCandidate then { s with primary := some fill }
  else { s with counter := some fill }

def updateState (status : PairStatus) (lockedQty projectedNetProfitUsdc : Option ℚ)
    (lastError : Option String) : TradeBuilderPairSession :=
  { s with status, lockedQty := lockedQty.or s.lockedQty
           projectedNetProfitUsdc := projectedNetProfitUsdc.or s.projectedNetProfitUsdc
           lastError }

/-- The price of the leg that leads. -/
def leadPrice : Option ℚ :=
  if s.leadOrderId = s.primaryOrderId then s.primary.map LegFill.avgFillPrice
  else if s.leadOrderId = s.counterOrderId then s.counter.map LegFill.avgFillPrice
  else none

def effectiveCounterCap : Option ℚ := do
  let leadPrice ← s.leadPrice
  let cap := s.pairTargetTotalCent / 100 - leadPrice
  if 0 < cap then some (clampProbability cap) else none

def actualPrimarySpend : Option ℚ :=
  (s.primary.map fun fill => fill.fillQty * fill.avgFillPrice).filter (0 < ·)

def remainingBudgetUsdc (totalBudgetUsdc : ℚ) : Option ℚ :=
  (s.actualPrimarySpend.map (totalBudgetUsdc - ·)).filter (0 < ·)

end TradeBuilderPairSession

/-- The counter of an auto-sized session without a grace period waits for the market's end. -/
def PairLockConfig.counterWaitsUntilMarketEnd (config : PairLockConfig)
    (marketEnd : Option ℤ) : Bool :=
  config.sizingMode == .autoRemainingBudget && config.orphanGraceMs == 0 && marketEnd.isSome

structure AutoCounterRebalance where
  sizeBasis : SizeBasis
  sizeUsdc : ℚ
  remainingSize : Option ℚ
  targetQty : Option ℚ
  remainingQty : Option ℚ
  effectiveMaxPrice : Option ℚ
  deriving DecidableEq, Repr

/-- Without a lead quantity or a cap the whole remaining budget goes in. -/
def fullBudgetNotional (remainingBudgetUsdc : ℚ) (effectiveMaxPrice : Option ℚ) :
    AutoCounterRebalance where
  sizeBasis := .notionalUsdc
  sizeUsdc := remainingBudgetUsdc
  remainingSize := some remainingBudgetUsdc
  targetQty := none
  remainingQty := none
  effectiveMaxPrice

def resolveAutoCounterRebalance (s : TradeBuilderPairSession) (remainingBudgetUsdc : ℚ) :
    AutoCounterRebalance :=
  let effectiveMaxPrice := s.effectiveCounterCap
  match (s.primary.map LegFill.netQty).filter (0 < ·), effectiveMaxPrice.filter (0 < ·) with
  | some leadNetQty, some counterCap =>
    let requiredNotionalUsdc := leadNetQty * counterCap
    if requiredNotionalUsdc ≤ remainingBudgetUsdc then
      { sizeBasis := .shares, sizeUsdc := requiredNotionalUsdc
        remainingSize := some requiredNotionalUsdc, targetQty := some leadNetQty
        remainingQty := some leadNetQty, effectiveMaxPrice := some counterCap }
    else
      let affordableQty := roundTradeBuilderShareQty (remainingBudgetUsdc / counterCap)
      { sizeBasis := .shares, sizeUsdc := remainingBudgetUsdc
        remainingSize := some remainingBudgetUsdc, targetQty := some affordableQty
        remainingQty := some affordableQty, effectiveMaxPrice := some counterCap }
  | _, _ => fullBudgetNotional remainingBudgetUsdc effectiveMaxPrice

/-- Sizes that differ by less than a millionth count as equal. -/
def sizeDiffers (lhs rhs : ℚ) : Bool := 1 / 1000000 ≤ |lhs - rhs|

def optionalSizeDiffers : Option ℚ → Option ℚ → Bool
  | some lhs, some rhs => sizeDiffers lhs rhs
  | none, none => false
  | _, _ => true

def autoCounterRebalanceChanged (order : TradeBuilderOrder) (rebalance : AutoCounterRebalance)
    (counterEligibleBeforeAt : Option ℤ) : Bool :=
  let common := order.sizeBasis != rebalance.sizeBasis ||
    counterEligibleBeforeAt != order.eligibleBeforeAt ||
    sizeDiffers order.sizeUsdc rebalance.sizeUsdc ||
    optionalSizeDiffers order.remainingSize rebalance.remainingSize
  match rebalance.sizeBasis with
  | .shares => common || optionalSizeDiffers order.targetQty rebalance.targetQty ||
      optionalSizeDiffers order.remainingQty rebalance.remainingQty
  | .notionalUsdc => common

def autoCounterHasStartedSubmitLifecycle (order : TradeBuilderOrder) : Bool :=
  order.activeExchangeOrderId.isSome || order.submittedDynamicQty.isSome ||
    order.submittedDynamicPrice.isSome

def autoCounterCanRebase (order : TradeBuilderOrder) : Bool :=
  (match order.status with
    | .pending | .armed | .triggered | .guardBlocked | .inventoryPending => true
    | _ => false) && !autoCounterHasStartedSubmitLifecycle order

def autoCounterNeedsRebase (order : TradeBuilderOrder) (rebalance : AutoCounterRebalance)
    (counterEligibleBeforeAt : Option ℤ) : Bool :=
  autoCounterCanRebase order &&
    autoCounterRebalanceChanged order rebalance counterEligibleBeforeAt

end PolymarketBot.PairLock
