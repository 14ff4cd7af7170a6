import PolymarketBot.ConfidenceLadder.LossCap

/-! One look of the confidence ladder at its market: the model of the two sides, the dominant
buy, the hedge, and the one it selects. -/

namespace PolymarketBot.ConfidenceLadder
open Builder (clampProbability)

structure ConfidenceLadderQuote where
  bestBid : Option ℚ
  bestAsk : Option ℚ
  bestBidSize : Option ℚ
  bestAskSize : Option ℚ
  lastTradePrice : Option ℚ
  currentPrice : ℚ

structure ConfidenceLadderModel where
  pUp : ℚ
  pDown : ℚ
  chop : ℚ
  scoreUp : ℚ
  scoreDown : ℚ
  dominantSide : Option LadderSide

inductive Intent where
  | probe
  | ladderAdd
  | profitLockStrong
  | hedgeLock
  | damageControlHedge
deriving DecidableEq

/-- `confidence_ladder_execution_shape`: mode, order type and post-only together. -/
inductive ExecutionShape where
  | marketFak | limitGtcPostOnly
deriving DecidableEq

structure ConfidenceLadderDecision where
  ladderSide : LadderSide
  intent : Intent
  quantity : ℚ
  price : ℚ
  allInCost : ℚ
  modelProbability : ℚ
  edge : ℚ
  minEdge : ℚ
  shape : ExecutionShape

/-- What one execution reads: the quotes, the seconds left in the cycle, and the signal of the
underlying. -/
structure Look where
  up : ConfidenceLadderQuote
  down : ConfidenceLadderQuote
  remainingSec : Option ℤ
  btcGap : Option ℚ

def clamp (lower upper value : ℚ) : ℚ := max lower (min upper value)

variable (config : ConfidenceLadderConfig) (state : ConfidenceLadderState) (look : Look)

/-! ### The clock -/

def elapsedSec : Option ℤ := look.remainingSec.map fun remaining => max 0 (min 300 (300 - remaining))

def inEntryWindow : Bool :=
  ((elapsedSec look).map fun elapsed =>
    decide (config.entryWindowStartSec ≤ elapsed ∧ elapsed ≤ config.entryWindowEndSec)).getD true

def isLateForDominantBuy : Bool :=
  (look.remainingSec.map fun remaining =>
    decide (remaining ≤ config.noNewDominantBuyLastSec)).getD false

/-! ### Quotes -/

section Quote
variable (quote : ConfidenceLadderQuote)

def quotePrice : Option ℚ :=
  ((quote.bestAsk.or (some quote.currentPrice)).map clampProbability).filter
    fun value => 0 < value ∧ value < 1

def quoteMid : ℚ :=
  match quote.bestBid, quote.bestAsk with
  | some bid, some ask => clampProbability ((bid + ask) / 2)
  | some bid, none => clampProbability bid
  | none, some ask => clampProbability ask
  | none, none => clampProbability quote.currentPrice

def spread : Option ℚ :=
  match quote.bestBid, quote.bestAsk with
  | some bid, some ask => if bid ≤ ask then some (ask - bid) else none
  | _, _ => none

def bookPressure : ℚ :=
  let bid := max (quote.bestBidSize.getD 0) 0
  let ask := max (quote.bestAskSize.getD 0) 0
  if bid + ask ≤ 0 then 0 else clamp (-1) 1 ((bid - ask) / (bid + ask))

end Quote

def sideQuote (side : LadderSide) : ConfidenceLadderQuote :=
  match side with
  | .down => look.down
  | .up => look.up

/-! ### The model of the two sides -/

def chopOf : ℚ :=
  let upMid := quoteMid look.up
  let downMid := quoteMid look.down
  let maxSpread :=
    max ((spread look.up).getD config.maxSpread) ((spread look.down).getD config.maxSpread)
  let balancePenalty := if |upMid - downMid| < 2 / 25 then 3 / 25 else 0
  let flipPenalty := min (state.sideSwitchCount * (9 / 50)) (9 / 20)
  let spreadPenalty := min (maxSpread / config.maxSpread) 2 * (1 / 10)
  clamp 0 (19 / 20) (2 / 25 + balancePenalty + flipPenalty + spreadPenalty)

def directionalOf : ℚ :=
  let upMid := quoteMid look.up
  let downMid := quoteMid look.down
  let polyMomentum := clamp (-1) 1 ((upMid - downMid) / (1 / 2))
  let bookPressure := (bookPressure look.up - bookPressure look.down) / 2
  let upTrade := look.up.lastTradePrice.getD upMid
  let downTrade := look.down.lastTradePrice.getD downMid
  let tradeFlow := clamp (-1) 1 (((upTrade - upMid) - (downTrade - downMid)) / (1 / 10))
  let btcGap := clamp (-1) 1 (look.btcGap.getD 0)
  clamp (-1) 1 (7 / 20 * btcGap + 1 / 4 * polyMomentum + 1 / 5 * bookPressure + 1 / 10 * tradeFlow)

def heuristicModel : ConfidenceLadderModel :=
  let chop := chopOf config state look
  let directional := directionalOf look
  let confidenceScale := clamp (1 / 4) 1 (1 - chop * (1 / 2))
  let scoreUp := clampProbability (1 / 2 + directional * (1 / 2) * confidenceScale)
  let scoreDown := clampProbability (1 - scoreUp)
  let pUp := clampProbability (1 / 2 + directional * (8 / 25) * confidenceScale - chop * (3 / 100))
  { pUp
    pDown := clampProbability (1 - pUp)
    chop
    scoreUp
    scoreDown
    dominantSide :=
      if scoreUp > scoreDown + config.dominanceGap then some .up
      else if scoreDown > scoreUp + config.dominanceGap then some .down
      else none }

def sideProbability (model : ConfidenceLadderModel) (side : LadderSide) : ℚ :=
  match side with
  | .down => model.pDown
  | .up => model.pUp

/-! ### Costs -/

def fee (price feeRate : ℚ) : ℚ := max feeRate 0 * max price 0 * (1 - clamp 0 1 price)

def allInCost (price : ℚ) (includeSlippage : Bool) : ℚ :=
  price + fee price config.takerFeeRate +
    if includeSlippage then max config.slippageBuffer 0 else 0

def bandForPrice (price : ℚ) : Option ConfidenceLadderBand :=
  if config.hardNoChaseAbove ≤ price then none
  else config.ladder.find? fun band => band.priceMin ≤ price ∧ price < band.priceMax

def executionShape (edge : ℚ) : ExecutionShape :=
  if !config.preferPostOnly ∧ config.takerAllowedOnlyIfEdgeAbove ≤ edge then .marketFak
  else .limitGtcPostOnly

/-! ### The two decisions -/

/-- Intent, quantity and least edge of a dominant buy at a price. -/
def dominantPlan (price : ℚ) : Option (Intent × ℚ × ℚ) :=
  if state.buyCount ≤ 0 then
    if price < config.probePriceMin ∨ price > config.probePriceMax then none
    else some (.probe, config.baseProbeShares, 1 / 50)
  else
    (bandForPrice config price).map fun band => (.ladderAdd, band.addShares, band.minModelEdge)

/-- The order of a side at a price, where the risk filter lets it through. -/
def guardedBuy (model : ConfidenceLadderModel) (side : LadderSide) (price minEdge : ℚ)
    (intent : Intent) (quantity : ℚ) : Option ConfidenceLadderDecision :=
  let allIn := allInCost config price true
  let probability := sideProbability model side
  if !riskAllowsBuy state side config quantity allIn then none
  else
    some
      { ladderSide := side
        intent
        quantity
        price
        allInCost := allIn
        modelProbability := probability
        edge := probability - allIn
        minEdge
        shape := executionShape config (probability - allIn) }

def dominantBuyDecision (model : ConfidenceLadderModel) : Option ConfidenceLadderDecision :=
  if !inEntryWindow config look ∨ isLateForDominantBuy config look ∨
      model.chop > config.chopProbabilityMax ∨ sideFlipDisabled state config then none
  else
    model.dominantSide.bind fun side =>
      (quotePrice (sideQuote look side)).bind fun price =>
        (spread (sideQuote look side)).bind fun width =>
          if width > config.maxSpread then none
          else
            (dominantPlan config state price).bind fun (intent, quantity, minEdge) =>
              if sideProbability model side - allInCost config price true + 1 / 1000000 < minEdge then
                none
              else guardedBuy config state model side price minEdge intent quantity

/-- Intent and quantity of a hedge on the side opposite to the one held. -/
def hedgePlan (heldSide : LadderSide) (heldAvgCost price : ℚ) : Option (Intent × ℚ) :=
  let oppositeSide := oppositeSide heldSide
  let oppositeAllIn := allInCost config price true
  let pairCost := heldAvgCost + oppositeAllIn
  if pairCost ≤ config.strongProfitLockPairCost then
    (strongProfitLockQuantity config state heldSide oppositeSide oppositeAllIn).map
      fun quantity => (.profitLockStrong, quantity)
  else if pairCost ≤ config.profitLockPairCostMax then
    (profitLockQuantity config state heldSide oppositeSide oppositeAllIn).map
      fun plan => (.hedgeLock, plan.quantity)
  else if config.damageControlPriceMin ≤ price ∧
      state.worstCasePnl < -config.maxLossPerMarketUsdc then
    (lossCapQuantity config state heldSide oppositeSide oppositeAllIn
        (-config.maxLossPerMarketUsdc)).map
      fun plan => (.damageControlHedge, plan.quantity)
  else none

def hedgeDecision (model : ConfidenceLadderModel) : Option ConfidenceLadderDecision :=
  (heldSide state).bind fun held =>
    (stateAvgCost state held).bind fun heldAvgCost =>
      (quotePrice (sideQuote look (oppositeSide held))).bind fun price =>
        (spread (sideQuote look (oppositeSide held))).bind fun width =>
          if price > config.damageControlPriceMax ∨ width > config.maxSpread then none
          else
            (hedgePlan config state held heldAvgCost price).bind fun (intent, quantity) =>
              if quantity ≤ 0 then none
              else
                guardedBuy config state model (oppositeSide held) price
                  config.hedgeMinReversalEdge intent quantity

/-- The buy that `execute_action_place_order_confidence_ladder` submits. -/
def selectDecision : Option ConfidenceLadderDecision :=
  let model := heuristicModel config state look
  let hedge := hedgeDecision config state look model
  let stopAdding := model.dominantSide.isNone ∨ model.chop > config.chopProbabilityMax ∨
    sideFlipDisabled state config ∨ isLateForDominantBuy config look
  if stopAdding then hedge
  else (dominantBuyDecision config state look model).or hedge

end PolymarketBot.ConfidenceLadder
