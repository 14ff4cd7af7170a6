import PolymarketBot.Builder.Sizing

/-! The confidence ladder's configuration, its fills table, and the state the fills fold to. -/

namespace PolymarketBot.ConfidenceLadder
open Builder (clampProbability)

inductive LadderSide where
  | up | down
deriving DecidableEq

structure ConfidenceLadderBand where
  priceMin : ℚ
  priceMax : ℚ
  addShares : ℚ
  minModelEdge : ℚ

/-- The bands no node can change. -/
def defaultLadder : List ConfidenceLadderBand :=
  [⟨9 / 20, 11 / 20, 2, 1 / 50⟩,
    ⟨11 / 20, 13 / 20, 3, 1 / 50⟩,
    ⟨13 / 20, 3 / 4, 5, 1 / 40⟩,
    ⟨3 / 4, 17 / 20, 5, 3 / 100⟩,
    ⟨17 / 20, 23 / 25, 2, 1 / 25⟩]

/-- A parsed configuration with its defaults, and the checks it has passed. -/
structure ConfidenceLadderConfig where
  baseProbeShares : ℚ := 2
  maxLossPerMarketUsdc : ℚ := 3
  maxTotalCostPerMarketUsdc : ℚ := 25
  entryWindowStartSec : ℤ := 3
  entryWindowEndSec : ℤ := 285
  noNewDominantBuyLastSec : ℤ := 15
  probePriceMin : ℚ := 9 / 20
  probePriceMax : ℚ := 11 / 20
  maxSpread : ℚ := 3 / 100
  dominanceGap : ℚ := 3 / 25
  chopProbabilityMax : ℚ := 9 / 20
  hardNoChaseAbove : ℚ := 93 / 100
  takerFeeRate : ℚ := 7 / 100
  slippageBuffer : ℚ := 1 / 200
  preferPostOnly : Bool := true
  takerAllowedOnlyIfEdgeAbove : ℚ := 1 / 20
  hedgeMinReversalEdge : ℚ := 3 / 100
  profitLockPairCostMax : ℚ := 97 / 100
  strongProfitLockPairCost : ℚ := 47 / 50
  damageControlPriceMin : ℚ := 7 / 20
  damageControlPriceMax : ℚ := 3 / 5
  targetHedgeRatioMin : ℚ := 7 / 20
  targetHedgeRatioMax : ℚ := 1
  maxDirectionFlips : ℤ := 2
  ladder : List ConfidenceLadderBand := defaultLadder
  probeShares_ok : 0 < baseProbeShares := by norm_num
  maxLoss_ok : 0 < maxLossPerMarketUsdc := by norm_num
  maxTotalCost_ok : 0 < maxTotalCostPerMarketUsdc := by norm_num
  entryWindow_ok : 0 ≤ entryWindowStartSec ∧ entryWindowStartSec < entryWindowEndSec := by norm_num
  probePrice_ok : 0 < probePriceMin ∧ probePriceMin < probePriceMax := by norm_num
  maxSpread_ok : 0 < maxSpread ∧ maxSpread < 1 := by norm_num
  damageControl_ok : 0 < damageControlPriceMin ∧ damageControlPriceMin < damageControlPriceMax ∧
    damageControlPriceMax < 1 := by norm_num

def defaultConfig : ConfidenceLadderConfig := {}

structure ConfidenceLadderState where
  upQty : ℚ
  downQty : ℚ
  totalCostUsdc : ℚ
  upCostUsdc : ℚ
  downCostUsdc : ℚ
  upAvgCost : Option ℚ
  downAvgCost : Option ℚ
  ifUpWinsPnl : ℚ
  ifDownWinsPnl : ℚ
  worstCasePnl : ℚ
  buyCount : ℤ
  sideSwitchCount : ℤ
  lastBuySide : Option LadderSide

/-- A row of the fills table, in the order of its creation. -/
structure Fill where
  ladderSide : LadderSide
  quantity : ℚ
  executionPrice : ℚ
  notionalUsdc : ℚ

/-- `maybe_record_confidence_ladder_fill`: the row of a filled order. -/
def recordFill (ladderSide : LadderSide) (fillQty executionPrice : ℚ) : Fill where
  ladderSide
  quantity := max fillQty 0
  executionPrice := clampProbability (max executionPrice 0)
  notionalUsdc := max (max fillQty 0 * max executionPrice 0) 0

/-! ### The fold -/

section Fold
variable (side : LadderSide) (fills : List Fill)

def sideQty : ℚ := ((fills.filter (·.ladderSide = side)).map (·.quantity)).sum

def sideCost : ℚ := ((fills.filter (·.ladderSide = side)).map (·.notionalUsdc)).sum

def totalCost : ℚ := (fills.map (·.notionalUsdc)).sum

def avgCost : Option ℚ :=
  if 0 < sideQty side fills then some (sideCost side fills / sideQty side fills) else none

def winsPnl : ℚ := sideQty side fills - totalCost fills

def worstPnl : ℚ := min (winsPnl .up fills) (winsPnl .down fills)

/-- How often a fill is on another side than the one before it. -/
def sideSwitches : List Fill → ℤ
  | first :: second :: rest =>
    (if first.ladderSide = second.ladderSide then 0 else 1) + sideSwitches (second :: rest)
  | _ => 0

end Fold

/-- `load_trade_builder_confidence_ladder_state` over the fills of a node and market. -/
def loadState (fills : List Fill) : ConfidenceLadderState where
  upQty := sideQty .up fills
  downQty := sideQty .down fills
  totalCostUsdc := totalCost fills
  upCostUsdc := sideCost .up fills
  downCostUsdc := sideCost .down fills
  upAvgCost := avgCost .up fills
  downAvgCost := avgCost .down fills
  ifUpWinsPnl := winsPnl .up fills
  ifDownWinsPnl := winsPnl .down fills
  worstCasePnl := worstPnl fills
  buyCount := fills.length
  sideSwitchCount := sideSwitches fills
  lastBuySide := fills.getLast?.map (·.ladderSide)

theorem sideQty_append (side : LadderSide) (fills : List Fill) (fill : Fill) :
    sideQty side (fills ++ [fill]) =
      sideQty side fills + if fill.ladderSide = side then fill.quantity else 0 := by
  unfold sideQty
  rw [List.filter_append, List.map_append, List.sum_append]
  by_cases h : fill.ladderSide = side <;> simp [h]

theorem totalCost_append (fills : List Fill) (fill : Fill) :
    totalCost (fills ++ [fill]) = totalCost fills + fill.notionalUsdc := by
  simp [totalCost]

/-! ### Readings of a state -/

section State
variable (state : ConfidenceLadderState) (side : LadderSide)

def heldSide : Option LadderSide :=
  if state.upQty ≤ 0 ∧ state.downQty ≤ 0 then none
  else if state.upQty ≥ state.downQty then some .up
  else some .down

def stateQty : ℚ :=
  match side with
  | .down => state.downQty
  | .up => state.upQty

def stateAvgCost : Option ℚ :=
  match side with
  | .down => state.downAvgCost
  | .up => state.upAvgCost

def oppositeSide : LadderSide :=
  match side with
  | .down => .up
  | .up => .down

def sideFlipDisabled (config : ConfidenceLadderConfig) : Bool :=
  config.maxDirectionFlips ≤ state.sideSwitchCount

def projectedWorstCasePnl (quantity allInCost : ℚ) : ℚ :=
  let projectedUpQty := state.upQty + if side = .up then quantity else 0
  let projectedDownQty := state.downQty + if side = .down then quantity else 0
  let projectedCost := state.totalCostUsdc + quantity * allInCost
  min (projectedUpQty - projectedCost) (projectedDownQty - projectedCost)

def projectedTotalCost (quantity allInCost : ℚ) : ℚ := state.totalCostUsdc + quantity * allInCost

def riskAllowsBuy (config : ConfidenceLadderConfig) (quantity allInCost : ℚ) : Bool :=
  projectedTotalCost state quantity allInCost ≤ config.maxTotalCostPerMarketUsdc ∧
    -config.maxLossPerMarketUsdc ≤ projectedWorstCasePnl state side quantity allInCost

end State

theorem worstCasePnl_append (fills : List Fill) (side : LadderSide) {quantity cost : ℚ}
    (hquantity : 0 ≤ quantity) (hcost : 0 ≤ cost) :
    (loadState (fills ++ [recordFill side quantity cost])).worstCasePnl =
      projectedWorstCasePnl (loadState fills) side quantity cost := by
  have hnotional : (recordFill side quantity cost).notionalUsdc = quantity * cost := by
    unfold recordFill
    rw [max_eq_left hquantity, max_eq_left hcost, max_eq_left (mul_nonneg hquantity hcost)]
  have hqty : (recordFill side quantity cost).quantity = quantity := max_eq_left hquantity
  unfold projectedWorstCasePnl
  change worstPnl _ = _
  unfold worstPnl winsPnl
  rw [sideQty_append, sideQty_append, totalCost_append, hnotional, hqty]
  rfl

end PolymarketBot.ConfidenceLadder
