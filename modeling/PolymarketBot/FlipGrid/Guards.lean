import PolymarketBot.FlipGrid.Depth
import PolymarketBot.Positions.FlipGrid
import PolymarketBot.RevengeFlip.Engine

/-! The buy candidate of the flip grid for one side of the market: the price gate, the three
rounds of sizing against the book, and the partial recovery. -/

namespace PolymarketBot.FlipGrid
open Builder (floorTradeBuilderShareQty)
open Positions (GridSide)
open RevengeFlip (positiveQuantityFlipGridRoundUpCent positiveQuantityFlipGridRoundUpShareQty)

inductive QuantitySizingMode where
  | profitTarget | inventoryBalance | fixedUsdc
deriving DecidableEq

structure NoBuyRange where
  minCent : ℚ
  maxCent : ℚ

/-- What the guards read of a parsed configuration, with the checks it has passed. -/
structure GridConfig where
  baseBuyUsdc : ℚ
  minMarketableBuyUsdc : ℚ
  entryBandMinCent : ℚ
  entryBandMaxCent : ℚ
  preferredTriggerCent : ℚ
  triggerToleranceCent : ℚ
  exitPriceForSizing : ℚ
  sizingPriceBufferCent : ℚ
  partialRecoveryEnabled : Bool
  partialRecoveryMinLossReductionUsdc : ℚ
  partialRecoveryBalanceReserveUsdc : ℚ
  partialRecoveryMaxBuyUsdc : Option ℚ
  partialRecoveryIgnoreMarketBudget : Bool
  quantitySizingMode : QuantitySizingMode
  inventoryBalanceLeadQty : ℚ
  minPositiveProfitUsdc : ℚ
  maxSingleBuyUsdc : Option ℚ
  maxTotalSpentPerMarketUsdc : Option ℚ
  hardMaxPriceCent : ℚ
  worstPriceCent : ℚ
  rescueBuyEnabled : Bool
  rescueBuyMinPriceCent : ℚ
  rescueBuyMaxPriceCent : ℚ
  blockConsecutiveSameSideBuys : Bool
  noBuyRanges : List NoBuyRange
  pairlockCompressionEnabled : Bool
  executionFloorGuardEnabled : Bool
  executionFloorPriceCent : Option ℚ
  depthGuardEnabled : Bool
  baseBuy_ok : 0 < baseBuyUsdc
  minMarketable_ok : 1 ≤ minMarketableBuyUsdc ∧ minMarketableBuyUsdc ≤ 100
  entryBand_ok : 0 < entryBandMinCent ∧ entryBandMinCent < entryBandMaxCent ∧
    entryBandMaxCent ≤ 100
  hardMax_ok : hardMaxPriceCent ≤ entryBandMaxCent ∧ hardMaxPriceCent ≤ 100
  worstPrice_ok : hardMaxPriceCent ≤ worstPriceCent ∧ worstPriceCent ≤ 100
  rescue_ok : rescueBuyEnabled → entryBandMaxCent ≤ rescueBuyMinPriceCent ∧
    rescueBuyMinPriceCent < rescueBuyMaxPriceCent ∧
      rescueBuyMaxPriceCent < exitPriceForSizing * 100
  exitPrice_ok : entryBandMaxCent / 100 < exitPriceForSizing ∧ exitPriceForSizing ≤ 1
  minProfit_ok : 0 < minPositiveProfitUsdc
  buffer_ok : 0 ≤ sizingPriceBufferCent ∧ sizingPriceBufferCent ≤ 5
  lossReduction_ok : 0 ≤ partialRecoveryMinLossReductionUsdc
  reserve_ok : 0 ≤ partialRecoveryBalanceReserveUsdc
  recoveryMax_ok : ∀ maxBuy ∈ partialRecoveryMaxBuyUsdc, 0 < maxBuy
  leadQty_ok : 0 ≤ inventoryBalanceLeadQty ∧ inventoryBalanceLeadQty ≤ 1000
  singleBuy_ok : ∀ cap ∈ maxSingleBuyUsdc, baseBuyUsdc ≤ cap
  totalSpent_ok : ∀ cap ∈ maxTotalSpentPerMarketUsdc, baseBuyUsdc ≤ cap
  noBuyRanges_ok : ∀ range ∈ noBuyRanges, 0 < range.minCent ∧ range.minCent < range.maxCent ∧
    range.maxCent ≤ 100
  executionFloor_ok : executionFloorGuardEnabled →
    0 < executionFloorPriceCent.getD entryBandMinCent ∧
      executionFloorPriceCent.getD entryBandMinCent ≤ hardMaxPriceCent

/-- The state of a node and market, with the sides of its last buy and of its last failure for
want of balance. -/
structure GridState extends Positions.PositiveQuantityFlipGridState where
  lastBuyGridSide : Option GridSide
  lastBalanceFailureGridSide : Option GridSide

structure GridQuote where
  gridSide : GridSide
  bestBid : Option ℚ
  bestAsk : Option ℚ

/-- The guard that blocked a candidate and its reason. -/
structure Blocked where
  blockedBy : String
  guardReason : String

variable (config : GridConfig) (state : GridState) (quote : GridQuote)

/-! ### The price gate -/

def sideQty (side : GridSide) : ℚ :=
  match side with
  | .down => state.downQty
  | .up => state.upQty

def oppositeSideQty (side : GridSide) : ℚ :=
  match side with
  | .down => state.upQty
  | .up => state.downQty

def pnlAtExit (qty exitPrice netCost : ℚ) : ℚ := qty * exitPrice - netCost

def neededSide : Option GridSide :=
  if state.upQty + slack < state.downQty then some .up
  else if state.downQty + slack < state.upQty then some .down
  else none

def overweightSide : Option GridSide :=
  match neededSide state with
  | some .up => some .down
  | some .down => some .up
  | none => none

/-- What the side is worth at the exit price before any further buy. -/
def prePnlAtExit (side : GridSide) : ℚ :=
  pnlAtExit (sideQty state side) config.exitPriceForSizing state.netCost

def rescueBuyEligible (side : GridSide) (askPrice : ℚ) : Bool :=
  if !config.rescueBuyEnabled ∨ state.buyCount = 0 then false
  else if askPrice * 100 ≤ config.rescueBuyMinPriceCent + slack ∨
      askPrice * 100 > config.rescueBuyMaxPriceCent + slack then false
  else prePnlAtExit config state side + slack < config.minPositiveProfitUsdc

def matchingNoBuyRange (askCent : ℚ) : Option NoBuyRange :=
  config.noBuyRanges.find? fun range =>
    range.minCent ≤ askCent + slack ∧ askCent ≤ range.maxCent + slack

def executionFloorPriceCent : ℚ := config.executionFloorPriceCent.getD config.entryBandMinCent

structure PriceGate where
  askPrice : ℚ
  askCent : ℚ
  currentSideQty : ℚ
  prePnlAtExit : ℚ
  maxBuyPriceCent : ℚ
  rescueBuy : Bool

def PriceGate.worstPrice (gate : PriceGate) : ℚ := gate.maxBuyPriceCent / 100

/-- The other side may not be bought while the needed one fails for want of balance. -/
def balanceFailureBlocks : Bool :=
  match neededSide state, overweightSide state, state.lastBalanceFailureGridSide with
  | some needed, some overweight, some failed => failed = needed ∧ quote.gridSide = overweight
  | _, _, _ => false

/-- Why a price above the entry band is refused. -/
def aboveEntryBand (askCent : ℚ) : Blocked :=
  if config.rescueBuyEnabled then
    if askCent > config.rescueBuyMaxPriceCent + slack then ⟨"max_price", "above_rescue_max_price"⟩
    else if askCent ≤ config.rescueBuyMinPriceCent + slack then ⟨"rescue", "below_rescue_range"⟩
    else if !(prePnlAtExit config state quote.gridSide + slack < config.minPositiveProfitUsdc) then
      ⟨"rescue", "rescue_side_already_positive"⟩
    else if state.buyCount = 0 then ⟨"rescue", "rescue_requires_existing_buy"⟩
    else ⟨"entry_band", "above_entry_band"⟩
  else ⟨"entry_band", "above_entry_band"⟩

/-- Why a price above the hard maximum is refused. -/
def aboveHardMax (askCent : ℚ) : Blocked :=
  if config.rescueBuyEnabled then
    if askCent > config.rescueBuyMaxPriceCent + slack then ⟨"max_price", "above_rescue_max_price"⟩
    else if askCent ≤ config.rescueBuyMinPriceCent + slack then ⟨"max_price", "below_rescue_range"⟩
    else if state.buyCount = 0 then ⟨"max_price", "rescue_requires_existing_buy"⟩
    else ⟨"max_price", "rescue_side_already_positive"⟩
  else ⟨"max_price", "above_hard_max_price"⟩

def priceGateAt (askPrice : ℚ) : Except Blocked PriceGate :=
  let askCent := askPrice * 100
  let rescueBuy := rescueBuyEligible config state quote.gridSide askPrice
  if config.blockConsecutiveSameSideBuys ∧ state.lastBuyGridSide = some quote.gridSide then
    .error ⟨"same_side_rebuy", "consecutive_same_side_buy"⟩
  else if balanceFailureBlocks state quote then
    .error ⟨"balance_fail_imbalance", "balance_blocked_counter_completion"⟩
  else if askCent < config.entryBandMinCent then .error ⟨"entry_band", "below_entry_band"⟩
  else if askCent > config.entryBandMaxCent ∧ !rescueBuy then
    .error (aboveEntryBand config state quote askCent)
  else if askCent > config.hardMaxPriceCent ∧ !rescueBuy then
    .error (aboveHardMax config state askCent)
  else if askCent > config.worstPriceCent ∧ !rescueBuy then
    .error ⟨"max_price", "above_worst_price"⟩
  else if (matchingNoBuyRange config askCent).isSome then
    .error ⟨"no_buy_range", "inside_no_buy_range"⟩
  else if config.executionFloorGuardEnabled ∧ askCent + slack < executionFloorPriceCent config then
    .error ⟨"execution_floor", "below_execution_floor"⟩
  else
    .ok
      { askPrice
        askCent
        currentSideQty := sideQty state quote.gridSide
        prePnlAtExit := prePnlAtExit config state quote.gridSide
        maxBuyPriceCent := if rescueBuy then config.rescueBuyMaxPriceCent else config.worstPriceCent
        rescueBuy }

def priceGate : Except Blocked PriceGate :=
  match quote.bestAsk with
  | none => .error ⟨"quote", "best_ask_unavailable"⟩
  | some askPrice => priceGateAt config state quote askPrice

/-! ### Sizing -/

structure Sizing where
  requiredBuyUsdc : ℚ
  requestedBuyUsdc : ℚ
  formulaTargetQty : ℚ
  targetQty : ℚ

def requiredBuyUsdc (netCost minProfit exitPrice currentSideQty askPrice : ℚ) : Option ℚ :=
  let denominator := exitPrice / askPrice - 1
  if denominator ≤ 0 then none
  else some (max ((netCost + minProfit - exitPrice * currentSideQty) / denominator) 0)

def remainingMarketBudgetUsdc : Option ℚ :=
  config.maxTotalSpentPerMarketUsdc.map fun cap => max (cap - state.totalBuyCost) 0

def maxCandidateBuyUsdc : Option ℚ :=
  match config.maxSingleBuyUsdc, remainingMarketBudgetUsdc config state with
  | some cap, some remaining => some (min cap remaining)
  | some cap, none => some cap
  | none, remaining => remaining

def pairlockFirstBuy : Bool := config.pairlockCompressionEnabled ∧ state.buyCount = 0

variable (gate : PriceGate)

def minMarketableTargetQty : ℚ :=
  positiveQuantityFlipGridRoundUpShareQty (config.minMarketableBuyUsdc / gate.askPrice)

/-- The shares a sum buys at a price, and no fewer than can be marketed. -/
def sizedByUsdc (requiredBuyUsdc requestedBuyUsdc sizingAskPrice : ℚ) : Sizing :=
  let formulaTargetQty :=
    positiveQuantityFlipGridRoundUpShareQty (requestedBuyUsdc / sizingAskPrice)
  { requiredBuyUsdc
    requestedBuyUsdc
    formulaTargetQty
    targetQty := max formulaTargetQty (minMarketableTargetQty config gate) }

def sizeProfitTarget (sizingAskPrice : ℚ) : Except Blocked Sizing :=
  if pairlockFirstBuy config state then
    .ok (sizedByUsdc config gate 0 (positiveQuantityFlipGridRoundUpCent config.baseBuyUsdc)
      sizingAskPrice)
  else
    match requiredBuyUsdc state.netCost config.minPositiveProfitUsdc config.exitPriceForSizing
        gate.currentSideQty sizingAskPrice with
    | none => .error ⟨"sizing", "required_buy_unavailable"⟩
    | some required =>
      .ok (sizedByUsdc config gate required
        (positiveQuantityFlipGridRoundUpCent
          (max (max config.baseBuyUsdc config.minMarketableBuyUsdc) required)) sizingAskPrice)

def sizeInventoryBalance (sizingAskPrice : ℚ) : Except Blocked Sizing :=
  let minMarketable := minMarketableTargetQty config gate
  let desiredSideQty := oppositeSideQty state quote.gridSide + config.inventoryBalanceLeadQty
  let inventoryGapQty := max (desiredSideQty - gate.currentSideQty) 0
  let initialInventoryBuy := state.buyCount = 0 ∧ state.upQty ≤ slack ∧ state.downQty ≤ slack
  let affordableTargetQty := (maxCandidateBuyUsdc config state).map fun maxBuy =>
    floorTradeBuilderShareQty (maxBuy / sizingAskPrice)
  let uncappedTargetQty :=
    max
      (if initialInventoryBuy then
        let baseQty := positiveQuantityFlipGridRoundUpShareQty (config.baseBuyUsdc / sizingAskPrice)
        if pairlockFirstBuy config state then max baseQty minMarketable
        else
          max (positiveQuantityFlipGridRoundUpShareQty
            (max config.baseBuyUsdc config.minMarketableBuyUsdc / sizingAskPrice)) minMarketable
      else positiveQuantityFlipGridRoundUpShareQty inventoryGapQty)
      minMarketable
  let targetQty := affordableTargetQty.elim uncappedTargetQty (min uncappedTargetQty)
  if ¬ initialInventoryBuy ∧ inventoryGapQty ≤ slack then
    .error ⟨"sizing", "inventory_side_already_balanced"⟩
  else if affordableTargetQty.any fun affordable => affordable + slack < minMarketable then
    .error ⟨"risk", "inventory_budget_below_min_marketable"⟩
  else
    .ok
      { requiredBuyUsdc := inventoryGapQty * sizingAskPrice
        requestedBuyUsdc := positiveQuantityFlipGridRoundUpCent (targetQty * sizingAskPrice)
        formulaTargetQty := uncappedTargetQty
        targetQty }

def sizeFixedUsdc (sizingAskPrice : ℚ) : Sizing :=
  sizedByUsdc config gate 0
    (positiveQuantityFlipGridRoundUpCent (max config.baseBuyUsdc config.minMarketableBuyUsdc))
    sizingAskPrice

def sizing (sizingAskPrice : ℚ) : Except Blocked Sizing :=
  match config.quantitySizingMode with
  | .profitTarget => sizeProfitTarget config state gate sizingAskPrice
  | .inventoryBalance => sizeInventoryBalance config state quote gate sizingAskPrice
  | .fixedUsdc => .ok (sizeFixedUsdc config gate sizingAskPrice)

/-! ### The rounds -/

variable (orderBook : Option OrderBookSnapshot)

/-- The depth for a quantity and the average price it shows, within the worst price. -/
def depthPrice (targetQty effectiveAskPrice : ℚ) : Except Blocked (DepthCheck × ℚ) :=
  let depth := evaluateDepth config.depthGuardEnabled orderBook gate.askPrice targetQty
    gate.worstPrice
  let depthEffectivePrice := depth.estimatedAvgFill.getD effectiveAskPrice
  if depth.blocked then .error ⟨"depth", depth.payload.reason.getD "depth_guard_blocked"⟩
  else if depthEffectivePrice > gate.worstPrice + slack then
    .error ⟨"max_price", "effective_fill_above_worst_price"⟩
  else .ok (depth, depthEffectivePrice)

/-- A quantity with the prices it is budgeted at. -/
structure Purchase where
  targetQty : ℚ
  effectiveAskPrice : ℚ
  sizingAskPrice : ℚ
  depth : DepthCheck

def Purchase.actualBuyUsdc (purchase : Purchase) : ℚ :=
  max (purchase.targetQty * purchase.effectiveAskPrice)
    (purchase.targetQty * purchase.sizingAskPrice)

inductive RiskReason where
  | maxSingleBuyUsdc | maxTotalSpentPerMarketUsdc
deriving DecidableEq

def RiskReason.text : RiskReason → String
  | .maxSingleBuyUsdc => "max_single_buy_usdc"
  | .maxTotalSpentPerMarketUsdc => "max_total_spent_per_market_usdc"

/-- A full-size purchase that a cap refuses. -/
structure RiskStop where
  reason : RiskReason
  requestedBuyUsdc : ℚ
  purchase : Purchase

/-- How the rounds end early. -/
inductive Stop where
  | blocked (report : Blocked)
  | risk (stop : RiskStop)

structure SizingRound where
  sizing : Sizing
  purchase : Purchase
  converged : Bool

def refusingCap (actualBuyUsdc : ℚ) : Option RiskReason :=
  if config.maxSingleBuyUsdc.any (actualBuyUsdc > · + slack) then some .maxSingleBuyUsdc
  else if config.maxTotalSpentPerMarketUsdc.any (state.totalBuyCost + actualBuyUsdc > · + slack) then
    some .maxTotalSpentPerMarketUsdc
  else none

def sizingAskPrice (effectiveAskPrice : ℚ) : ℚ :=
  min (effectiveAskPrice + config.sizingPriceBufferCent / 100) gate.worstPrice

def sizingRound (effectiveAskPrice : ℚ) : Except Stop SizingRound :=
  let sizingAsk := sizingAskPrice config gate effectiveAskPrice
  match sizing config state quote gate sizingAsk with
  | .error report => .error (.blocked report)
  | .ok sized =>
    if sized.targetQty ≤ 0 then .error (.blocked ⟨"sizing", "target_qty_invalid"⟩)
    else
      match depthPrice config gate orderBook sized.targetQty effectiveAskPrice with
      | .error report => .error (.blocked report)
      | .ok (depth, depthEffectivePrice) =>
        let purchase : Purchase :=
          ⟨sized.targetQty, depthEffectivePrice, sizingAsk, depth⟩
        match refusingCap config state purchase.actualBuyUsdc with
        | some reason => .error (.risk ⟨reason, sized.requestedBuyUsdc, purchase⟩)
        | none => .ok ⟨sized, purchase, |depthEffectivePrice - effectiveAskPrice| ≤ slack⟩

/-- The rounds: each starts at the price of the one before, and what the last one left counts. -/
def sizingRounds : ℕ → ℚ → Option SizingRound → Except Stop (Option SizingRound)
  | 0, _, final => .ok final
  | rounds + 1, effectiveAskPrice, _ =>
    match sizingRound config state quote gate orderBook effectiveAskPrice with
    | .error stop => .error stop
    | .ok round =>
      if round.converged then .ok (some round)
      else sizingRounds rounds round.purchase.effectiveAskPrice (some round)

/-! ### Candidates -/

structure BuyCandidate where
  quote : GridQuote
  askPrice : ℚ
  effectiveAskPrice : ℚ
  sizingAskPrice : ℚ
  worstPrice : ℚ
  requiredBuyUsdc : ℚ
  actualBuyUsdc : ℚ
  targetQty : ℚ
  projectedSideQty : ℚ
  projectedNetCost : ℚ
  projectedPnlAtExit : ℚ
  prePnlAtExit : ℚ
  preferredBandRank : ℕ
  depthResult : DepthPayload
  rescueBuy : Bool
  partialRecovery : Bool

def preferredBandRank (askCent : ℚ) : ℕ :=
  if config.preferredTriggerCent - config.triggerToleranceCent ≤ askCent ∧
      askCent ≤ config.preferredTriggerCent + config.triggerToleranceCent then 0
  else 1

def candidateOf (purchase : Purchase) (requiredBuyUsdc : ℚ) (partialRecovery : Bool) :
    BuyCandidate where
  quote := quote
  askPrice := gate.askPrice
  effectiveAskPrice := purchase.effectiveAskPrice
  sizingAskPrice := purchase.sizingAskPrice
  worstPrice := gate.worstPrice
  requiredBuyUsdc := requiredBuyUsdc
  actualBuyUsdc := purchase.actualBuyUsdc
  targetQty := purchase.targetQty
  projectedSideQty := gate.currentSideQty + purchase.targetQty
  projectedNetCost := state.netCost + purchase.actualBuyUsdc
  projectedPnlAtExit := pnlAtExit (gate.currentSideQty + purchase.targetQty)
    config.exitPriceForSizing (state.netCost + purchase.actualBuyUsdc)
  prePnlAtExit := gate.prePnlAtExit
  preferredBandRank := preferredBandRank config gate.askCent
  depthResult := purchase.depth.payload
  rescueBuy := gate.rescueBuy
  partialRecovery := partialRecovery

/-! ### Partial recovery -/

def spendableBalanceUsdc (availableBalanceUsdc : ℚ) : ℚ :=
  max (availableBalanceUsdc - config.partialRecoveryBalanceReserveUsdc) 0

def partialBuyUsdc (availableBalanceUsdc fullActualBuyUsdc : ℚ) : ℚ :=
  let partialBuy := min (spendableBalanceUsdc config availableBalanceUsdc) fullActualBuyUsdc
  config.partialRecoveryMaxBuyUsdc.elim partialBuy (min partialBuy)

/-- The shares a sum buys at a unit price, if they can be marketed. -/
def partialQty (partialBuy unitPrice : ℚ) (belowMin : String) : Except Blocked ℚ :=
  let targetQty := floorTradeBuilderShareQty (partialBuy / unitPrice)
  if targetQty + slack < minMarketableTargetQty config gate then
    .error ⟨"partial_recovery", belowMin⟩
  else .ok targetQty

def partialSized (stop : RiskStop) (partialBuy unitPrice : ℚ) (belowMin : String) :
    Except Blocked Purchase :=
  match partialQty config gate partialBuy unitPrice belowMin with
  | .error report => .error report
  | .ok targetQty =>
    match depthPrice config gate orderBook targetQty stop.purchase.effectiveAskPrice with
    | .error report => .error report
    | .ok (depth, depthEffectivePrice) =>
      .ok ⟨targetQty, depthEffectivePrice, stop.purchase.sizingAskPrice, depth⟩

/-- The purchase for a sum; where the book makes it dearer, it is sized once more. -/
def partialPurchase (stop : RiskStop) (partialBuy : ℚ) : Except Blocked Purchase :=
  match partialSized config gate orderBook stop partialBuy stop.purchase.sizingAskPrice
      "partial_recovery_below_min_marketable" with
  | .error report => .error report
  | .ok first =>
    if first.actualBuyUsdc > partialBuy + slack then
      match partialSized config gate orderBook stop partialBuy
          (max first.effectiveAskPrice stop.purchase.sizingAskPrice)
          "partial_recovery_below_min_marketable_after_depth" with
      | .error report => .error report
      | .ok second =>
        if second.actualBuyUsdc > partialBuy + slack then
          .error ⟨"partial_recovery", "partial_recovery_depth_exceeds_budget"⟩
        else .ok second
    else .ok first

def partialRecovery (availableCollateralUsdc : Option ℚ) (stop : RiskStop) :
    Except Blocked BuyCandidate :=
  if gate.prePnlAtExit + slack ≥ config.minPositiveProfitUsdc then
    .error ⟨"timing", "completion_only_side_already_positive"⟩
  else
    match availableCollateralUsdc.filter (0 ≤ ·) with
    | none => .error ⟨"partial_recovery", "partial_recovery_balance_unavailable"⟩
    | some availableBalance =>
      let partialBuy := partialBuyUsdc config availableBalance stop.purchase.actualBuyUsdc
      if partialBuy ≤ slack then
        .error ⟨"partial_recovery", "partial_recovery_budget_unavailable"⟩
      else
        match partialPurchase config gate orderBook stop partialBuy with
        | .error report => .error report
        | .ok purchase =>
          let candidate := candidateOf config state quote gate purchase stop.requestedBuyUsdc true
          if candidate.projectedPnlAtExit - gate.prePnlAtExit + slack <
              config.partialRecoveryMinLossReductionUsdc then
            .error ⟨"partial_recovery", "partial_recovery_loss_reduction_below_min"⟩
          else .ok candidate

variable (availableCollateralUsdc : Option ℚ) (completionOnly : Bool)

def tryPartialRecovery (stop : RiskStop) : Option (Except Blocked BuyCandidate) :=
  if !config.partialRecoveryEnabled ∨ !completionOnly ∨
      config.quantitySizingMode ≠ .profitTarget ∨
      (stop.reason = .maxTotalSpentPerMarketUsdc ∧ !config.partialRecoveryIgnoreMarketBudget) then
    none
  else some (partialRecovery config state quote gate orderBook availableCollateralUsdc stop)

/-- What the rounds left, once its projected result is checked. -/
def finalCandidate (round : SizingRound) : Except Blocked BuyCandidate :=
  let candidate :=
    candidateOf config state quote gate round.purchase round.sizing.requiredBuyUsdc false
  if config.quantitySizingMode = .profitTarget ∧
      candidate.projectedPnlAtExit + slack < config.minPositiveProfitUsdc then
    .error ⟨"sizing", "projected_profit_below_min"⟩
  else if completionOnly ∧ gate.prePnlAtExit + slack ≥ config.minPositiveProfitUsdc then
    .error ⟨"timing", "completion_only_side_already_positive"⟩
  else .ok candidate

/-- `positive_quantity_flip_grid_evaluate_buy_candidate_with_balance` -/
def evaluateBuyCandidate : Except Blocked BuyCandidate :=
  match priceGate config state quote with
  | .error report => .error report
  | .ok gate =>
    match sizingRounds config state quote gate orderBook 3 gate.askPrice none with
    | .error (.blocked report) => .error report
    | .error (.risk stop) =>
      (tryPartialRecovery config state quote gate orderBook availableCollateralUsdc completionOnly
        stop).getD (.error ⟨"risk", stop.reason.text⟩)
    | .ok none => .error ⟨"depth", "depth_not_evaluated"⟩
    | .ok (some round) => finalCandidate config state quote gate completionOnly round

end PolymarketBot.FlipGrid
