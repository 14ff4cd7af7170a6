import PolymarketBot.ConfidenceLadder.State

/-! How much of the opposite side a hedge buys. -/

namespace PolymarketBot.ConfidenceLadder
open Builder (roundTradeBuilderShareQty)

structure LossCapPlan where
  quantity : ℚ
  reason : String

def ceilShareQty (value : ℚ) : ℚ := ⌈max value 0 * 100⌉ / 100

variable (config : ConfidenceLadderConfig) (state : ConfidenceLadderState)
  (heldSide oppositeSide : LadderSide) (allInCost targetPnl : ℚ)

def unmatchedQty : ℚ := max (stateQty state heldSide - stateQty state oppositeSide) 0

def maxOppositeQty : ℚ :=
  let unmatched := unmatchedQty state heldSide oppositeSide
  let budgetQty :=
    if 0 < allInCost then (config.maxTotalCostPerMarketUsdc - state.totalCostUsdc) / allInCost
    else unmatched
  let heldWinQty :=
    if 0 < allInCost then
      (stateQty state heldSide - state.totalCostUsdc + config.maxLossPerMarketUsdc) / allInCost
    else unmatched
  roundTradeBuilderShareQty (max (min (min unmatched budgetQty) heldWinQty) 0)

def quantityForWorstCaseTarget : Option ℚ :=
  if allInCost ≤ 0 ∨ allInCost ≥ 1 then none
  else
    let needed := (targetPnl + state.totalCostUsdc - stateQty state oppositeSide) / (1 - allInCost)
    let quantity := ceilShareQty (max needed 0)
    if quantity ≤ 0 ∨ quantity > maxOppositeQty config state heldSide oppositeSide allInCost then
      none
    else if projectedWorstCasePnl state oppositeSide quantity allInCost + 1 / 1000000 ≥ targetPnl then
      some quantity
    else none

def strongProfitLockQuantity : Option ℚ :=
  let targetQty := stateQty state heldSide * max 0 (min 1 config.targetHedgeRatioMax)
  let missingQty := max (targetQty - stateQty state oppositeSide) 0
  let maxQty := maxOppositeQty config state heldSide oppositeSide allInCost
  let quantity := roundTradeBuilderShareQty (min missingQty maxQty)
  if 0 < quantity then some quantity else none

def lossCapQuantity : Option LossCapPlan :=
  (quantityForWorstCaseTarget config state heldSide oppositeSide allInCost targetPnl).map
    fun quantity => ⟨quantity, "max_loss_cap"⟩

def profitLockQuantity : Option LossCapPlan :=
  match quantityForWorstCaseTarget config state heldSide oppositeSide allInCost 0 with
  | some quantity => some ⟨quantity, "breakeven_lock"⟩
  | none =>
    let ratioFloor := stateQty state heldSide * max 0 (min 1 config.targetHedgeRatioMin)
    let floorQty := ceilShareQty (max (ratioFloor - stateQty state oppositeSide) 0)
    (lossCapQuantity config state heldSide oppositeSide allInCost
        (-config.maxLossPerMarketUsdc)).map
      fun lossCap => ⟨max lossCap.quantity floorQty, lossCap.reason⟩

end PolymarketBot.ConfidenceLadder
