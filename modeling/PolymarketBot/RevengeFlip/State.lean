import Mathlib.Tactic.Linarith
import Mathlib.Tactic.NormNum
import PolymarketBot.Builder.Sizing
import PolymarketBot.Lib.Doubles

/-! The position state of one revenge-flip node and market, and the fold of a fill into it, in exact
numbers or in doubles. -/

namespace PolymarketBot.RevengeFlip
open Builder Lib
open Lib.Arithmetic (nearest)

inductive RevengeSide | up | down
  deriving DecidableEq, Repr

def revengeFlipOppositeSide : RevengeSide → RevengeSide
  | .up => .down
  | .down => .up

/-- What the fill's order was made for, as its payload has it. -/
inductive RevengeIntent | initialBuy | flipBuy | stopLossSell | unknown
  deriving DecidableEq, Repr

def revengeFlipPositionEpsilon [Arithmetic] : ℚ := nearest (1 / 10000)

def revengeFlipDustCloseQty [Arithmetic] : ℚ := nearest (1 / 5)

structure TradeBuilderRevengeFlipState where
  currentSide : Option RevengeSide := none
  nextEntrySide : Option RevengeSide := none
  positionQty : ℚ := 0
  positionAvgCost : ℚ := 0
  positionEntryPrice : ℚ := 0
  positionStopLossEnabled : Bool := true
  positionStopLossPct : ℚ := 1 / 5
  positionSourceTradeId : Option ℤ := none
  positionBuilderOrderId : Option ℤ := none
  flipCount : ℤ := 0
  totalLossUsdc : ℚ := 0
  realizedPnlUsdc : ℚ := 0
  totalBuyCost : ℚ := 0
  totalSellRevenue : ℚ := 0
  ptbBumpCount : ℤ := 0
  ptbBumpTotalUsdc : ℚ := 0
  lastIntent : Option RevengeIntent := none
  lastBuilderOrderId : Option ℤ := none
  deriving DecidableEq, Repr

structure TradeBuilderRevengeFlipFillInput where
  revengeSide : RevengeSide
  intent : RevengeIntent
  orderSide : Side
  builderOrderId : ℤ := 0
  sourceTradeId : Option ℤ := none
  quantity : ℚ
  executionPrice : ℚ
  notionalUsdc : ℚ
  stopLossEnabled : Option Bool := none
  stopLossPct : Option ℚ := none
  deriving DecidableEq, Repr

namespace TradeBuilderRevengeFlipFillInput
variable (input : TradeBuilderRevengeFlipFillInput)

def qty : ℚ := max input.quantity 0

def notional [Arithmetic] : ℚ :=
  max (max input.notionalUsdc (nearest (input.qty * input.executionPrice))) 0

theorem qty_nonneg : 0 ≤ input.qty := le_max_right _ _

theorem notional_nonneg [Arithmetic] : 0 ≤ input.notional := le_max_right _ _

end TradeBuilderRevengeFlipFillInput

namespace TradeBuilderRevengeFlipState
variable (state : TradeBuilderRevengeFlipState) (input : TradeBuilderRevengeFlipFillInput)

/-- The state a fill starts from: no negative position, and the fill noted as the last action. -/
def noted : TradeBuilderRevengeFlipState :=
  { state with
    positionQty := max state.positionQty 0
    positionAvgCost := max state.positionAvgCost 0
    positionEntryPrice := max state.positionEntryPrice 0
    lastIntent := some input.intent
    lastBuilderOrderId := some input.builderOrderId }

/-- The average cost is re-weighted only when the position is above the epsilon. -/
def bought [Arithmetic] : TradeBuilderRevengeFlipState :=
  let existingCost := nearest (state.positionQty * state.positionAvgCost)
  let positionQty := nearest (state.positionQty + input.qty)
  let refreshed := revengeFlipPositionEpsilon < positionQty
  { state with
    positionQty
    positionAvgCost := if refreshed then nearest (nearest (existingCost + input.notional) / positionQty)
      else state.positionAvgCost
    positionEntryPrice := if refreshed then input.executionPrice else state.positionEntryPrice
    positionStopLossPct :=
      (input.stopLossPct.filter fun value => 0 < value ∧ value < 1).getD state.positionStopLossPct
    positionStopLossEnabled := input.stopLossEnabled.getD state.positionStopLossEnabled
    currentSide := some input.revengeSide
    nextEntrySide := none
    positionSourceTradeId := input.sourceTradeId
    positionBuilderOrderId := some input.builderOrderId
    totalBuyCost := nearest (state.totalBuyCost + input.notional) }

def soldQty [Arithmetic] : ℚ :=
  if revengeFlipPositionEpsilon < state.positionQty then min input.qty state.positionQty
  else input.qty

/-- What is left of the position after a sell. -/
def remainingQty [Arithmetic] : ℚ :=
  if revengeFlipPositionEpsilon < state.positionQty then
    max (nearest (state.positionQty - state.soldQty input)) 0
  else state.positionQty

def dustClose [Arithmetic] : Bool :=
  input.intent = .stopLossSell && revengeFlipPositionEpsilon < state.remainingQty input &&
    state.remainingQty input < revengeFlipDustCloseQty

/-- The cost of the dust that a close writes off. -/
def dustCostBasis [Arithmetic] : ℚ :=
  if state.dustClose input then nearest (state.remainingQty input * state.positionAvgCost) else 0

/-- The sell against the cost of what it sold. -/
def sellRealized [Arithmetic] : ℚ :=
  nearest (input.notional - nearest (state.soldQty input * state.positionAvgCost))

def closeRealized [Arithmetic] : ℚ :=
  if state.dustClose input then nearest (state.sellRealized input - state.dustCostBasis input)
  else state.sellRealized input

/-- The sell is booked first, and then the dust. -/
def realizedAfter [Arithmetic] : ℚ :=
  let realizedPnlUsdc := nearest (state.realizedPnlUsdc + state.sellRealized input)
  if state.dustClose input then nearest (realizedPnlUsdc - state.dustCostBasis input)
  else realizedPnlUsdc

def closes [Arithmetic] : Bool :=
  state.remainingQty input ≤ revengeFlipPositionEpsilon || state.dustClose input

/-- A closed position is reset; a loss of the closing fill goes into the loss ledger. -/
def closed [Arithmetic] : TradeBuilderRevengeFlipState :=
  let loss := max (-state.closeRealized input) 0
  { state with
    currentSide := none
    nextEntrySide := some (revengeFlipOppositeSide (state.currentSide.getD input.revengeSide))
    positionQty := 0
    positionAvgCost := 0
    positionEntryPrice := 0
    positionStopLossEnabled := true
    positionStopLossPct := nearest (1 / 5)
    positionSourceTradeId := none
    positionBuilderOrderId := none
    flipCount := state.flipCount + 1
    totalLossUsdc := if 0 < loss then nearest (state.totalLossUsdc + loss) else state.totalLossUsdc
    ptbBumpCount := if 0 < loss then state.ptbBumpCount + 1 else state.ptbBumpCount
    ptbBumpTotalUsdc :=
      if 0 < loss then nearest (state.ptbBumpTotalUsdc + loss) else state.ptbBumpTotalUsdc
    realizedPnlUsdc := state.realizedAfter input
    totalSellRevenue := nearest (state.totalSellRevenue + input.notional) }

def reduced [Arithmetic] : TradeBuilderRevengeFlipState :=
  { state with
    positionQty := state.remainingQty input
    realizedPnlUsdc := state.realizedAfter input
    totalSellRevenue := nearest (state.totalSellRevenue + input.notional) }

def sold [Arithmetic] : TradeBuilderRevengeFlipState :=
  if state.closes input then state.closed input else state.reduced input

end TradeBuilderRevengeFlipState

def revengeFlipApplyFillToState [Arithmetic] (state : TradeBuilderRevengeFlipState)
    (input : TradeBuilderRevengeFlipFillInput) : TradeBuilderRevengeFlipState :=
  match input.orderSide with
  | .buy => (state.noted input).bought input
  | .sell => (state.noted input).sold input

/-- The position is not negative, nor is what it cost. -/
structure TradeBuilderRevengeFlipState.Nonneg (state : TradeBuilderRevengeFlipState) : Prop where
  qty : 0 ≤ state.positionQty
  avgCost : 0 ≤ state.positionAvgCost

section Fold
variable {state : TradeBuilderRevengeFlipState} {input : TradeBuilderRevengeFlipFillInput}
open TradeBuilderRevengeFlipState

theorem epsilon_pos [a : Arithmetic] : 0 < revengeFlipPositionEpsilon := by
  cases a <;> decide +kernel

theorem epsilon_lt_dust [a : Arithmetic] : revengeFlipPositionEpsilon < revengeFlipDustCloseQty := by
  cases a <;> decide +kernel

@[simp] theorem noted_qty (h : state.Nonneg) (input : TradeBuilderRevengeFlipFillInput) :
    (state.noted input).positionQty = state.positionQty := max_eq_left h.qty

@[simp] theorem noted_avgCost (h : state.Nonneg) (input : TradeBuilderRevengeFlipFillInput) :
    (state.noted input).positionAvgCost = state.positionAvgCost := max_eq_left h.avgCost

theorem noted_nonneg (state : TradeBuilderRevengeFlipState)
    (input : TradeBuilderRevengeFlipFillInput) : (state.noted input).Nonneg :=
  ⟨le_max_right _ _, le_max_right _ _⟩

section Rounded
variable [Arithmetic]

theorem applyFill_buy (h : input.orderSide = .buy) :
    revengeFlipApplyFillToState state input = (state.noted input).bought input := by
  rw [revengeFlipApplyFillToState, h]

theorem applyFill_sell (h : input.orderSide = .sell) :
    revengeFlipApplyFillToState state input = (state.noted input).sold input := by
  rw [revengeFlipApplyFillToState, h]

theorem bought_nonneg (h : state.Nonneg) : (state.bought input).Nonneg := by
  have hqty : 0 ≤ nearest (state.positionQty + input.qty) :=
    Arithmetic.nearest_nonneg (add_nonneg h.qty input.qty_nonneg)
  refine ⟨hqty, ?_⟩
  simp only [bought]
  split
  · have hcost : 0 ≤ nearest (state.positionQty * state.positionAvgCost) :=
      Arithmetic.nearest_nonneg (mul_nonneg h.qty h.avgCost)
    have hpaid : 0 ≤ nearest (nearest (state.positionQty * state.positionAvgCost) + input.notional) :=
      Arithmetic.nearest_nonneg (add_nonneg hcost input.notional_nonneg)
    exact Arithmetic.nearest_nonneg (div_nonneg hpaid hqty)
  · exact h.avgCost

theorem remainingQty_nonneg (h : state.Nonneg) : 0 ≤ state.remainingQty input := by
  unfold remainingQty
  split
  · exact le_max_right _ _
  · exact h.qty

theorem sold_nonneg (h : state.Nonneg) : (state.sold input).Nonneg := by
  unfold sold
  split
  · exact ⟨le_refl 0, le_refl 0⟩
  · exact ⟨remainingQty_nonneg h, h.avgCost⟩

theorem applyFill_nonneg (state : TradeBuilderRevengeFlipState)
    (input : TradeBuilderRevengeFlipFillInput) :
    (revengeFlipApplyFillToState state input).Nonneg := by
  have h := noted_nonneg state input
  unfold revengeFlipApplyFillToState
  split
  · exact bought_nonneg h
  · exact sold_nonneg h

end Rounded

/-! In exact numbers the books add up. -/

theorem bought_qty_exact (state : TradeBuilderRevengeFlipState)
    (input : TradeBuilderRevengeFlipFillInput) :
    (state.bought input).positionQty = state.positionQty + input.qty := rfl

theorem bought_avgCost_exact (state : TradeBuilderRevengeFlipState)
    (input : TradeBuilderRevengeFlipFillInput) :
    (state.bought input).positionAvgCost =
      if revengeFlipPositionEpsilon < state.positionQty + input.qty then
        (state.positionQty * state.positionAvgCost + input.notional) /
          (state.positionQty + input.qty)
      else state.positionAvgCost := rfl

theorem dustCostBasis_exact (state : TradeBuilderRevengeFlipState)
    (input : TradeBuilderRevengeFlipFillInput) :
    state.dustCostBasis input =
      if state.dustClose input then state.remainingQty input * state.positionAvgCost else 0 := rfl

theorem remainingQty_exact (state : TradeBuilderRevengeFlipState)
    (input : TradeBuilderRevengeFlipFillInput) :
    state.remainingQty input = if revengeFlipPositionEpsilon < state.positionQty then
      max (state.positionQty - state.soldQty input) 0 else state.positionQty := rfl

theorem closeRealized_exact (state : TradeBuilderRevengeFlipState)
    (input : TradeBuilderRevengeFlipFillInput) :
    state.closeRealized input = input.notional - state.soldQty input * state.positionAvgCost -
      state.dustCostBasis input := by
  unfold closeRealized dustCostBasis
  split
  · rfl
  · exact (sub_zero _).symm

theorem realizedAfter_exact (state : TradeBuilderRevengeFlipState)
    (input : TradeBuilderRevengeFlipFillInput) :
    state.realizedAfter input = state.realizedPnlUsdc + state.closeRealized input := by
  unfold realizedAfter closeRealized
  split
  · exact add_sub_assoc _ _ _
  · rfl

theorem remainingQty_le (h : state.Nonneg) (input : TradeBuilderRevengeFlipFillInput) :
    state.remainingQty input ≤ state.positionQty := by
  have hsold : 0 ≤ min input.qty state.positionQty := le_min input.qty_nonneg h.qty
  rw [remainingQty_exact]
  unfold soldQty
  split
  · exact max_le (by linarith) h.qty
  · exact le_refl _

end Fold

/-- The fill row that the finalizer records; its price is clamped, its notional is not. -/
def revengeFlipFillInput [Arithmetic] (revengeSide : RevengeSide) (intent : RevengeIntent) (orderSide : Side)
    (builderOrderId : ℤ) (sourceTradeId : Option ℤ) (fillQty executionPrice : ℚ)
    (stopLossEnabled : Option Bool) (stopLossPct : Option ℚ) : TradeBuilderRevengeFlipFillInput where
  revengeSide
  intent
  orderSide
  builderOrderId
  sourceTradeId := sourceTradeId.filter (0 < ·)
  quantity := max fillQty 0
  executionPrice := nearest (clampProbability (max executionPrice 0))
  notionalUsdc := max (nearest (max fillQty 0 * max executionPrice 0)) 0
  stopLossEnabled
  stopLossPct := stopLossPct.filter fun value => 0 < value ∧ value < 1

end PolymarketBot.RevengeFlip
