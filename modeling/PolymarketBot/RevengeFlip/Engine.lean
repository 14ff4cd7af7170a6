import Mathlib.Data.List.MinMax
import PolymarketBot.PriceToBeat.StopLoss
import PolymarketBot.RevengeFlip.State

/-! What the revenge-flip engine does at one look at its market: it closes a position that is
open, and otherwise enters the side of the candidate it selects. -/

namespace PolymarketBot.RevengeFlip
open Builder Lib
open PriceToBeat (PriceToBeatCurrentPriceSource PtbStopLossEvaluation)
open Lib.Arithmetic (nearest)

def revengeFlipPositionIsDust [Arithmetic] (positionQty : ℚ) : Bool :=
  revengeFlipPositionEpsilon < positionQty && positionQty < revengeFlipDustCloseQty

def revengeFlipPositionIsOpen [Arithmetic] (positionQty : ℚ) : Bool :=
  revengeFlipDustCloseQty < positionQty

def revengeFlipPositionBlocksReentry [Arithmetic] (state : TradeBuilderRevengeFlipState) : Bool :=
  revengeFlipPositionIsOpen state.positionQty

inductive PtbUnit | usd | cent
  deriving DecidableEq, Repr

inductive PtbTimeDecayMode | tighten | relax | none
  deriving DecidableEq, Repr

inductive ReentrySideMode | opposite | ruleMatch
  deriving DecidableEq, Repr

inductive EntrySideMode | any | same | opposite | up | down
  deriving DecidableEq, Repr

structure RevengeFlipTriggerPriceConfig where
  enabled : Bool := false
  minCent : ℚ := 0
  maxCent : ℚ := 100

structure RevengeFlipPostStopLossMidChopGuardConfig where
  enabled : Bool := false
  chopMidLow : ℚ := 45 / 100
  chopMidHigh : ℚ := 56 / 100
  failClosed : Bool := true

structure RevengeFlipPostStopLossStrongTrendFlipConfig where
  enabled : Bool := false
  strongTrendMid : ℚ := 68 / 100
  maxPriceCent : ℚ := 85

structure RevengeFlipTimeRule where
  minRemainingSec : ℤ
  maxRemainingSec : ℤ
  priceToBeatMaxDiff : Option ℚ
  priceToBeatUnit : Option PtbUnit

structure RevengeFlipStopLossRule where
  minFlip : ℤ
  maxFlip : Option ℤ
  stopLossPct : ℚ

structure RevengeFlipEntryPtbRule where
  minFlip : ℤ
  maxFlip : Option ℤ
  minRemainingSec : Option ℤ
  maxRemainingSec : Option ℤ
  sideMode : EntrySideMode
  priceToBeatMaxDiff : ℚ
  priceToBeatUnit : Option PtbUnit
  maxPriceCent : Option ℚ

structure RevengeFlipPtbConfig where
  enabled : Bool := true
  maxDiff : ℚ := 1 / 100
  unit : PtbUnit := .usd
  currentPriceSource : PriceToBeatCurrentPriceSource := .chainlink
  stopLossBumpEnabled : Bool := false
  stopLossBumpAmount : ℚ := 0
  stopLossBumpUnit : PtbUnit := .usd
  stopLossBumpMax : Option ℚ := none
  stopLossBumpMaxUnit : PtbUnit := .usd

structure RevengeFlipPtbStopLossConfig where
  enabled : Bool := false
  gapUsd : Option ℚ := none
  currentPriceSource : PriceToBeatCurrentPriceSource := .chainlink
  timeDecayMode : PtbTimeDecayMode := .tighten

structure RevengeFlipConfig where
  initialOrderUsdc : ℚ := 5
  profitTargetUsdc : ℚ := 1 / 4
  classicStopLossEnabled : Bool := true
  stopLossPct : ℚ := 1 / 5
  tokenStopLossEnabled : Bool := false
  tokenStopLossPct : ℚ := 15 / 100
  stopLossRules : List RevengeFlipStopLossRule := []
  entryPtbRules : List RevengeFlipEntryPtbRule := []
  reentrySideMode : ReentrySideMode := .opposite
  maxFlip : ℤ := 0
  minReentryShares : ℚ := 0
  postStopLossMidChopGuard : RevengeFlipPostStopLossMidChopGuardConfig := {}
  postStopLossStrongTrendFlip : RevengeFlipPostStopLossStrongTrendFlipConfig := {}
  lotLimitPct : ℚ := 98 / 100
  closeOnlySec : ℤ := 12
  triggerPrice : RevengeFlipTriggerPriceConfig := {}
  timeRules : List RevengeFlipTimeRule := []
  ptb : RevengeFlipPtbConfig := {}
  ptbStopLoss : RevengeFlipPtbStopLossConfig := {}

structure RevengeFlipSideQuote where
  revengeSide : RevengeSide
  bestBid : Option ℚ
  bestAsk : Option ℚ

/-- What the engine reads before it decides, the prices of the feeds among it. -/
structure RevengeFlipLook where
  config : RevengeFlipConfig := {}
  clientAvailable : Bool := true
  hasActiveOrder : Bool := false
  remainingSec : Option ℤ := none
  quotes : List RevengeFlipSideQuote
  evaluatePtbStopLossInputs : RevengeSide → ℚ → PriceToBeatCurrentPriceSource →
    PtbTimeDecayMode → PtbStopLossEvaluation := fun _ _ _ _ => {}
  availableCollateralUsdc : Option ℚ := none

def revengeFlipFindQuote (quotes : List RevengeFlipSideQuote) (side : RevengeSide) :
    Option RevengeFlipSideQuote :=
  quotes.find? fun quote => quote.revengeSide = side

theorem findQuote_side {quotes : List RevengeFlipSideQuote} {side : RevengeSide}
    {quote : RevengeFlipSideQuote} (h : revengeFlipFindQuote quotes side = some quote) :
    quote.revengeSide = side := by
  simpa using List.find?_some h

def revengeFlipValueToUsd [Arithmetic] (value : ℚ) : PtbUnit → ℚ
  | .usd => value
  | .cent => nearest (value / 100)

def revengeFlipUsdToUnit [Arithmetic] (value : ℚ) : PtbUnit → ℚ
  | .usd => value
  | .cent => nearest (value * 100)

/-! ### Stop losses -/

def revengeFlipPositionStopLossPct [Arithmetic] (state : TradeBuilderRevengeFlipState) : ℚ :=
  if 0 < state.positionStopLossPct ∧ state.positionStopLossPct < 1 then state.positionStopLossPct
  else nearest (1 / 5)

def revengeFlipStopLossTriggered [Arithmetic] (state : TradeBuilderRevengeFlipState)
    (bestBid : ℚ) : Bool :=
  state.positionStopLossEnabled && bestBid ≤
    nearest (state.positionAvgCost * nearest (1 - revengeFlipPositionStopLossPct state))

def revengeFlipStopLossPctForEntry (config : RevengeFlipConfig) (entryFlipIndex : ℤ) : ℚ :=
  ((config.stopLossRules.find? fun rule =>
    rule.minFlip ≤ entryFlipIndex ∧ ∀ maxFlip ∈ rule.maxFlip, entryFlipIndex ≤ maxFlip).map
      fun rule => rule.stopLossPct).getD config.stopLossPct

inductive StopLossTriggerSource | token | both | price | ptb
  deriving DecidableEq, Repr

def revengeFlipStopLossTriggerSource (priceHit ptbHit tokenHit : Bool) :
    Option StopLossTriggerSource :=
  if tokenHit then some .token
  else match priceHit, ptbHit with
    | true, true => some .both
    | true, false => some .price
    | false, true => some .ptb
    | false, false => none

def revengeFlipEvaluatePtbStopLoss (look : RevengeFlipLook) (quote : RevengeFlipSideQuote) :
    Option PtbStopLossEvaluation :=
  let ptbStopLoss := look.config.ptbStopLoss
  if !ptbStopLoss.enabled then none
  else ptbStopLoss.gapUsd.map fun gapUsd =>
    look.evaluatePtbStopLossInputs quote.revengeSide gapUsd ptbStopLoss.currentPriceSource
      ptbStopLoss.timeDecayMode

/-! ### What becomes of a look -/

inductive RevengeFlipSkip
  | clientUnavailable | activeOrderExists | positionQuoteUnavailable | stopLossBestBidUnavailable
  | missingPositionSourceTradeId | closeOnlyWindow | maxFlipReached | entryRuleMatchUnavailable
  | entryBestAskUnavailable | midChopQuoteUnavailable | blockedMidChop | triggerPriceRangeBlocked
  | flipSizingUnavailable | initialSizingUnavailable | targetPnlAlreadySatisfied
  | reentryMinSharesExceedsLotLimit
  deriving DecidableEq, Repr

/-- A child order as the engine hands it over: a buy has a notional, a sell a quantity. -/
structure RevengeFlipOrder where
  revengeSide : RevengeSide
  intent : RevengeIntent
  orderSide : Side
  targetQty : Option ℚ := none
  targetNotionalUsdc : Option ℚ := none
  stopLossEnabled : Option Bool := none
  stopLossPct : Option ℚ := none
  minPriceCent : Option ℚ := none
  maxPriceCent : Option ℚ := none
  deriving DecidableEq, Repr

inductive RevengeFlipDecision
  | skipped (reason : RevengeFlipSkip)
  | holdPosition
  | submit (order : RevengeFlipOrder)
  deriving DecidableEq, Repr

/-- `round_trade_builder_share_qty` in the arithmetic at hand. -/
def roundShareQty [Arithmetic] (value : ℚ) : ℚ :=
  nearest (⌊nearest (max value 0 * 100) + 1 / 2⌋ / 100)

/-- A position without a source trade, or whose rounded quantity is dust, has no sell. -/
def revengeFlipStopLossSellNode [Arithmetic] (quote : RevengeFlipSideQuote)
    (state : TradeBuilderRevengeFlipState) : Option RevengeFlipOrder :=
  match state.positionSourceTradeId with
  | none => none
  | some _ =>
    let positionQty := roundShareQty state.positionQty
    if positionQty ≤ 0 ∨ revengeFlipPositionIsDust positionQty then none
    else some
      { revengeSide := quote.revengeSide
        intent := .stopLossSell
        orderSide := .sell
        targetQty := some positionQty
        minPriceCent := quote.bestBid.map fun bestBid => max (nearest (bestBid * 100)) 1 }

def revengeFlipStopLossDecision [Arithmetic] (look : RevengeFlipLook) (state : TradeBuilderRevengeFlipState)
    (currentSide : RevengeSide) : RevengeFlipDecision :=
  match revengeFlipFindQuote look.quotes currentSide with
  | none => .skipped .positionQuoteUnavailable
  | some quote =>
    let bestBid := quote.bestBid.filter (0 < ·)
    let ptbStopLossEvaluation := revengeFlipEvaluatePtbStopLoss look quote
    if bestBid.isNone && ptbStopLossEvaluation.isNone then .skipped .stopLossBestBidUnavailable
    else
      let priceStopLossHit := state.positionStopLossEnabled &&
        bestBid.any (revengeFlipStopLossTriggered state)
      let tokenStopLossHit := look.config.tokenStopLossEnabled && bestBid.any fun bid =>
        bid ≤ nearest (state.positionAvgCost * nearest (1 - look.config.tokenStopLossPct))
      let ptbStopLossHit := ptbStopLossEvaluation.any fun evaluation => evaluation.shouldTrigger
      match revengeFlipStopLossTriggerSource priceStopLossHit ptbStopLossHit tokenStopLossHit with
      | none => .holdPosition
      | some _ =>
        match revengeFlipStopLossSellNode quote state with
        | none => .skipped .missingPositionSourceTradeId
        | some order => .submit order

/-! ### Entries -/

def revengeFlipMaxFlipAllows (config : RevengeFlipConfig) (state : TradeBuilderRevengeFlipState) :
    Bool :=
  config.maxFlip = 0 || state.flipCount < config.maxFlip

def revengeFlipEntryFlipIndex (state : TradeBuilderRevengeFlipState) : ℤ := max state.flipCount 0

def revengeFlipLastStoppedSide [Arithmetic] (state : TradeBuilderRevengeFlipState) :
    Option RevengeSide :=
  if revengeFlipPositionBlocksReentry state then none
  else match state.nextEntrySide with
    | some nextEntrySide => some (revengeFlipOppositeSide nextEntrySide)
    | none => state.currentSide

structure RevengeFlipPostStopLossMidEvaluation where
  quoteAvailable : Bool
  inChopZone : Bool
  strongTrend : Bool

def revengeFlipSideQuoteMid [Arithmetic] (quote : RevengeFlipSideQuote) : Option ℚ :=
  match quote.bestBid, quote.bestAsk with
  | some bestBid, some bestAsk => some (nearest (nearest (bestBid + bestAsk) / 2))
  | _, _ => none

def revengeFlipPostStopLossMidEvaluation [Arithmetic] (config : RevengeFlipConfig)
    (quotes : List RevengeFlipSideQuote) : RevengeFlipPostStopLossMidEvaluation :=
  let upMid := (revengeFlipFindQuote quotes .up).bind revengeFlipSideQuoteMid
  let downMid := (revengeFlipFindQuote quotes .down).bind revengeFlipSideQuoteMid
  match upMid, downMid with
  | some up, some down =>
    { quoteAvailable := true
      inChopZone := config.postStopLossMidChopGuard.chopMidLow ≤ min up down &&
        max up down ≤ config.postStopLossMidChopGuard.chopMidHigh
      strongTrend := config.postStopLossStrongTrendFlip.strongTrendMid ≤ max up down }
  | _, _ => { quoteAvailable := false, inChopZone := false, strongTrend := false }

def revengeFlipPostStopLossMidChopSkipReason (config : RevengeFlipConfig) (isFlip : Bool)
    (evaluation : RevengeFlipPostStopLossMidEvaluation) : Option RevengeFlipSkip :=
  if !isFlip || !config.postStopLossMidChopGuard.enabled then none
  else if !evaluation.quoteAvailable then
    if config.postStopLossMidChopGuard.failClosed then some .midChopQuoteUnavailable else none
  else if evaluation.inChopZone then some .blockedMidChop
  else none

def revengeFlipPostStopLossStrongTrendMaxPriceOverride (config : RevengeFlipConfig) (isFlip : Bool)
    (evaluation : RevengeFlipPostStopLossMidEvaluation) : Option ℚ :=
  if isFlip && config.postStopLossStrongTrendFlip.enabled && evaluation.strongTrend then
    some config.postStopLossStrongTrendFlip.maxPriceCent
  else none

def revengeFlipEntrySideModeMatches (sideMode : EntrySideMode) (entrySide : RevengeSide)
    (lastStoppedSide : Option RevengeSide) : Bool :=
  match sideMode with
  | .any => true
  | .up => entrySide = .up
  | .down => entrySide = .down
  | .same => lastStoppedSide = some entrySide
  | .opposite => lastStoppedSide.map revengeFlipOppositeSide = some entrySide

def revengeFlipEntryPtbRuleMatches (rule : RevengeFlipEntryPtbRule) (entryFlipIndex : ℤ)
    (remainingSec : Option ℤ) (entrySide : RevengeSide) (lastStoppedSide : Option RevengeSide) :
    Bool :=
  if entryFlipIndex < rule.minFlip || rule.maxFlip.any (· < entryFlipIndex) then false
  else if rule.minRemainingSec.isNone && rule.maxRemainingSec.isNone then
    revengeFlipEntrySideModeMatches rule.sideMode entrySide lastStoppedSide
  else match remainingSec with
    | none => false
    | some remainingSec =>
      if remainingSec < rule.minRemainingSec.getD 0 ||
          rule.maxRemainingSec.any (· < remainingSec) then false
      else revengeFlipEntrySideModeMatches rule.sideMode entrySide lastStoppedSide

def revengeFlipMatchingEntryPtbRule (config : RevengeFlipConfig) (entryFlipIndex : ℤ)
    (remainingSec : Option ℤ) (entrySide : RevengeSide) (lastStoppedSide : Option RevengeSide) :
    Option RevengeFlipEntryPtbRule :=
  config.entryPtbRules.find? fun rule =>
    revengeFlipEntryPtbRuleMatches rule entryFlipIndex remainingSec entrySide lastStoppedSide

def revengeFlipMatchingTimeRule (config : RevengeFlipConfig) (remainingSec : Option ℤ) :
    Option RevengeFlipTimeRule :=
  remainingSec.bind fun remainingSec => config.timeRules.find? fun rule =>
    rule.minRemainingSec ≤ remainingSec && remainingSec ≤ rule.maxRemainingSec

structure RevengeFlipEffectivePtb where
  enabled : Bool
  maxDiff : ℚ
  unit : PtbUnit
  currentPriceSource : PriceToBeatCurrentPriceSource

def revengeFlipPtbBumpUsd [Arithmetic] (config : RevengeFlipConfig)
    (state : TradeBuilderRevengeFlipState) : ℚ :=
  if config.ptb.stopLossBumpEnabled && 0 < config.ptb.stopLossBumpAmount then
    let raw := revengeFlipValueToUsd
      (nearest (config.ptb.stopLossBumpAmount * nearest (max state.ptbBumpCount 0 : ℤ)))
      config.ptb.stopLossBumpUnit
    match config.ptb.stopLossBumpMax with
    | some bumpMax => min raw (revengeFlipValueToUsd bumpMax config.ptb.stopLossBumpMaxUnit)
    | none => raw
  else 0

/-- The threshold `base`, in its unit, with the bump of the losses so far. -/
def revengeFlipEffectivePtbOf [Arithmetic] (config : RevengeFlipConfig) (state : TradeBuilderRevengeFlipState)
    (base : ℚ) (unit : PtbUnit) : RevengeFlipEffectivePtb where
  enabled := config.ptb.enabled
  maxDiff := revengeFlipUsdToUnit
    (nearest (revengeFlipValueToUsd base unit + revengeFlipPtbBumpUsd config state)) unit
  unit
  currentPriceSource := config.ptb.currentPriceSource

def revengeFlipEffectivePtbFromEntryRule [Arithmetic] (config : RevengeFlipConfig)
    (state : TradeBuilderRevengeFlipState) (rule : RevengeFlipEntryPtbRule) :
    RevengeFlipEffectivePtb :=
  revengeFlipEffectivePtbOf config state rule.priceToBeatMaxDiff
    (rule.priceToBeatUnit.getD config.ptb.unit)

/-- A time rule counts only where no entry rule matches. -/
def revengeFlipEffectivePtb [Arithmetic] (config : RevengeFlipConfig)
    (state : TradeBuilderRevengeFlipState) (entryFlipIndex : ℤ) (remainingSec : Option ℤ) (entrySide : RevengeSide)
    (lastStoppedSide : Option RevengeSide) : RevengeFlipEffectivePtb :=
  match revengeFlipMatchingEntryPtbRule config entryFlipIndex remainingSec entrySide
      lastStoppedSide with
  | some rule => revengeFlipEffectivePtbFromEntryRule config state rule
  | none =>
    let timeRule := revengeFlipMatchingTimeRule config remainingSec
    revengeFlipEffectivePtbOf config state
      ((timeRule.bind fun rule => rule.priceToBeatMaxDiff).getD config.ptb.maxDiff)
      ((timeRule.bind fun rule => rule.priceToBeatUnit).getD config.ptb.unit)

/-- The highest price in cents that an entry may pay. -/
def revengeFlipEffectiveEntryPriceFromEntryRule (config : RevengeFlipConfig)
    (rule : RevengeFlipEntryPtbRule) : Option ℚ :=
  rule.maxPriceCent <|>
    if config.triggerPrice.enabled then some config.triggerPrice.maxCent else none

def revengeFlipEffectiveEntryPrice (config : RevengeFlipConfig) (entryFlipIndex : ℤ)
    (remainingSec : Option ℤ) (entrySide : RevengeSide) (lastStoppedSide : Option RevengeSide) :
    Option ℚ :=
  ((revengeFlipMatchingEntryPtbRule config entryFlipIndex remainingSec entrySide
      lastStoppedSide).bind fun rule => rule.maxPriceCent) <|>
    if config.triggerPrice.enabled then some config.triggerPrice.maxCent else none

def revengeFlipEntryPricePasses [Arithmetic] (config : RevengeFlipConfig) (maxCent : Option ℚ)
    (askPrice : ℚ) : Bool :=
  let askCent := nearest (askPrice * 100)
  (!config.triggerPrice.enabled || config.triggerPrice.minCent ≤ askCent) && maxCent.all (askCent ≤ ·)

def revengeFlipEntryPtbGuardPassed [Arithmetic] (look : RevengeFlipLook) (quote : RevengeFlipSideQuote)
    (effectivePtb : RevengeFlipEffectivePtb) : Bool :=
  let thresholdUsd := revengeFlipValueToUsd effectivePtb.maxDiff effectivePtb.unit
  !effectivePtb.enabled ||
    (look.evaluatePtbStopLossInputs quote.revengeSide thresholdUsd effectivePtb.currentPriceSource
      .none).directionalGap.any (thresholdUsd ≤ ·)

def revengeFlipValidBestAsk (quote : RevengeFlipSideQuote) : Option ℚ :=
  quote.bestAsk.filter fun ask => 0 < ask ∧ ask < 1

structure RevengeFlipEntryCandidate where
  quote : RevengeFlipSideQuote
  bestAsk : ℚ
  effectivePtb : RevengeFlipEffectivePtb
  maxCent : Option ℚ

/-- After a stop the side to enter is fixed; before, it is the side with the lower ask. -/
def revengeFlipSelectEntryQuote (state : TradeBuilderRevengeFlipState)
    (quotes : List RevengeFlipSideQuote) : Option RevengeFlipSideQuote :=
  match state.nextEntrySide with
  | some nextSide => revengeFlipFindQuote quotes nextSide
  | none => (quotes.filter fun quote => (revengeFlipValidBestAsk quote).isSome).argmin
      fun quote => quote.bestAsk.getD 1

def revengeFlipFixedCandidate [Arithmetic] (look : RevengeFlipLook) (state : TradeBuilderRevengeFlipState)
    (maxPriceOverride : Option ℚ) : Option RevengeFlipEntryCandidate := do
  let entryFlipIndex := revengeFlipEntryFlipIndex state
  let lastStoppedSide := revengeFlipLastStoppedSide state
  let quote ← revengeFlipSelectEntryQuote state look.quotes
  let bestAsk ← revengeFlipValidBestAsk quote
  let effectivePtb := revengeFlipEffectivePtb look.config state entryFlipIndex look.remainingSec
    quote.revengeSide lastStoppedSide
  guard (revengeFlipEntryPtbGuardPassed look quote effectivePtb)
  let maxCent := maxPriceOverride <|> revengeFlipEffectiveEntryPrice look.config entryFlipIndex
    look.remainingSec quote.revengeSide lastStoppedSide
  some { quote, bestAsk, effectivePtb, maxCent }

def revengeFlipRuleMatchCandidate [Arithmetic] (look : RevengeFlipLook) (state : TradeBuilderRevengeFlipState)
    (maxPriceOverride : Option ℚ) (quote : RevengeFlipSideQuote) :
    Option RevengeFlipEntryCandidate := do
  let entryFlipIndex := revengeFlipEntryFlipIndex state
  let lastStoppedSide := revengeFlipLastStoppedSide state
  let bestAsk ← revengeFlipValidBestAsk quote
  let _ ← revengeFlipMatchingEntryPtbRule look.config entryFlipIndex look.remainingSec
    quote.revengeSide lastStoppedSide
  let maxCent := maxPriceOverride <|> revengeFlipEffectiveEntryPrice look.config entryFlipIndex
    look.remainingSec quote.revengeSide lastStoppedSide
  guard (revengeFlipEntryPricePasses look.config maxCent bestAsk)
  let effectivePtb := revengeFlipEffectivePtb look.config state entryFlipIndex look.remainingSec
    quote.revengeSide lastStoppedSide
  guard (revengeFlipEntryPtbGuardPassed look quote effectivePtb)
  some { quote, bestAsk, effectivePtb, maxCent }

def revengeFlipInitialRuleOrderSides : EntrySideMode → List RevengeSide
  | .up => [.up]
  | .down => [.down]
  | .any => [.up, .down]
  | .same => []
  | .opposite => []

/-- The first rule, and of its sides the first, that lets the entry pass. -/
def revengeFlipInitialRuleOrderCandidate [Arithmetic] (look : RevengeFlipLook)
    (state : TradeBuilderRevengeFlipState) : Option RevengeFlipEntryCandidate :=
  look.config.entryPtbRules.findSome? fun rule =>
    (revengeFlipInitialRuleOrderSides rule.sideMode).findSome? fun side => do
      guard (revengeFlipEntryPtbRuleMatches rule (revengeFlipEntryFlipIndex state)
        look.remainingSec side (revengeFlipLastStoppedSide state))
      let quote ← revengeFlipFindQuote look.quotes side
      let bestAsk ← revengeFlipValidBestAsk quote
      let maxCent := revengeFlipEffectiveEntryPriceFromEntryRule look.config rule
      guard (revengeFlipEntryPricePasses look.config maxCent bestAsk)
      let effectivePtb := revengeFlipEffectivePtbFromEntryRule look.config state rule
      guard (revengeFlipEntryPtbGuardPassed look quote effectivePtb)
      some { quote, bestAsk, effectivePtb, maxCent }

def revengeFlipSelectEntryCandidateWithMaxPriceOverride [Arithmetic] (look : RevengeFlipLook)
    (state : TradeBuilderRevengeFlipState) (maxPriceOverride : Option ℚ) :
    Option RevengeFlipEntryCandidate :=
  match look.config.reentrySideMode with
  | .opposite => revengeFlipFixedCandidate look state maxPriceOverride
  | .ruleMatch =>
    if revengeFlipEntryFlipIndex state = 0 then revengeFlipInitialRuleOrderCandidate look state
    else (look.quotes.filterMap (revengeFlipRuleMatchCandidate look state maxPriceOverride)).argmin
      fun candidate => candidate.bestAsk

/-! ### The size of an entry -/

def positiveQuantityFlipGridRoundUpCent [Arithmetic] (value : ℚ) : ℚ :=
  if value ≤ 0 then 0 else nearest (⌈nearest (value * 100)⌉ / 100)

def positiveQuantityFlipGridRoundUpShareQty [Arithmetic] (value : ℚ) : ℚ :=
  if value ≤ 0 then 0 else roundShareQty (nearest (⌈nearest (value * 100)⌉ / 100))

def revengeFlipLossTolerance [Arithmetic] : ℚ := nearest (1 / 1000000)

inductive RevengeFlipEntrySizingDecision
  | ready (notionalUsdc : ℚ)
  | unavailable
  | targetPnlAlreadySatisfied
  | reentryMinSharesExceedsLotLimit

/-- The first entry has a fixed size; a later one is sized to win the losses back. -/
def revengeFlipEntryNotional [Arithmetic] (config : RevengeFlipConfig) (state : TradeBuilderRevengeFlipState)
    (quote : RevengeFlipSideQuote) (availableCollateralUsdc : Option ℚ) :
    RevengeFlipEntrySizingDecision :=
  match revengeFlipValidBestAsk quote with
  | none => .unavailable
  | some bestAsk =>
    if state.flipCount = 0 ∧ state.totalLossUsdc ≤ revengeFlipLossTolerance ∧
        state.nextEntrySide.isNone then
      .ready (positiveQuantityFlipGridRoundUpCent config.initialOrderUsdc)
    else if nearest (1 - bestAsk) ≤ 0 then .unavailable
    else
      let requiredRecoveryUsdc := nearest (state.totalLossUsdc + config.profitTargetUsdc)
      if requiredRecoveryUsdc ≤ 0 then .targetPnlAlreadySatisfied
      else
        let formulaTargetShares :=
          positiveQuantityFlipGridRoundUpShareQty
            (nearest (requiredRecoveryUsdc / nearest (1 - bestAsk)))
        let minReentryShares := positiveQuantityFlipGridRoundUpShareQty config.minReentryShares
        let targetShares := max formulaTargetShares minReentryShares
        match availableCollateralUsdc with
        | none => .unavailable
        | some availableCollateralUsdc =>
          let maxNotional := positiveQuantityFlipGridRoundUpCent
            (max (nearest (availableCollateralUsdc * config.lotLimitPct)) 0)
          if maxNotional ≤ 0 then .unavailable
          else if 0 < minReentryShares ∧ nearest (maxNotional + revengeFlipLossTolerance) <
              positiveQuantityFlipGridRoundUpCent (nearest (minReentryShares * bestAsk)) then
            .reentryMinSharesExceedsLotLimit
          else
            let notional := min
              (positiveQuantityFlipGridRoundUpCent (nearest (targetShares * bestAsk))) maxNotional
            if notional ≤ 0 then .unavailable else .ready notional

def revengeFlipBuyNode [Arithmetic] (config : RevengeFlipConfig) (maxCent : Option ℚ)
    (quote : RevengeFlipSideQuote) (notionalUsdc stopLossPct : ℚ) (intent : RevengeIntent) :
    RevengeFlipOrder where
  revengeSide := quote.revengeSide
  intent
  orderSide := .buy
  targetNotionalUsdc := some notionalUsdc
  stopLossEnabled := some config.classicStopLossEnabled
  stopLossPct := some stopLossPct
  maxPriceCent := maxCent <|> quote.bestAsk.map fun bestAsk => min (nearest (bestAsk * 100)) 99

def revengeFlipIsFlip [Arithmetic] (state : TradeBuilderRevengeFlipState) : Bool :=
  0 < state.flipCount || revengeFlipLossTolerance < state.totalLossUsdc ||
    state.nextEntrySide.isSome

def revengeFlipEntryOrder [Arithmetic] (look : RevengeFlipLook) (state : TradeBuilderRevengeFlipState) :
    Except RevengeFlipSkip RevengeFlipOrder := do
  let config := look.config
  if look.remainingSec.any (· ≤ config.closeOnlySec) then throw .closeOnlyWindow
  if !revengeFlipMaxFlipAllows config state then throw .maxFlipReached
  let isFlip := revengeFlipIsFlip state
  let midEvaluation := revengeFlipPostStopLossMidEvaluation config look.quotes
  let maxPriceOverride :=
    revengeFlipPostStopLossStrongTrendMaxPriceOverride config isFlip midEvaluation
  let some entryCandidate :=
      revengeFlipSelectEntryCandidateWithMaxPriceOverride look state maxPriceOverride
    | throw (if config.reentrySideMode = .ruleMatch then .entryRuleMatchUnavailable
        else .entryBestAskUnavailable)
  if let some reason := revengeFlipPostStopLossMidChopSkipReason config isFlip midEvaluation then
    throw reason
  if !revengeFlipEntryPricePasses config entryCandidate.maxCent entryCandidate.bestAsk then
    throw .triggerPriceRangeBlocked
  let sizingUnavailable : RevengeFlipSkip :=
    if isFlip then .flipSizingUnavailable else .initialSizingUnavailable
  let availableCollateralUsdc := if isFlip then look.availableCollateralUsdc else none
  match revengeFlipEntryNotional config state entryCandidate.quote availableCollateralUsdc with
  | .unavailable => throw sizingUnavailable
  | .targetPnlAlreadySatisfied => throw .targetPnlAlreadySatisfied
  | .reentryMinSharesExceedsLotLimit => throw .reentryMinSharesExceedsLotLimit
  | .ready notionalUsdc =>
    if notionalUsdc ≤ 0 then throw sizingUnavailable
    return revengeFlipBuyNode config entryCandidate.maxCent entryCandidate.quote notionalUsdc
      (revengeFlipStopLossPctForEntry config (revengeFlipEntryFlipIndex state))
      (if isFlip then .flipBuy else .initialBuy)

def revengeFlipEntryDecision [Arithmetic] (look : RevengeFlipLook) (state : TradeBuilderRevengeFlipState) :
    RevengeFlipDecision :=
  match revengeFlipEntryOrder look state with
  | .error reason => .skipped reason
  | .ok order => .submit order

def executeActionPlaceOrderRevengeFlip [Arithmetic] (look : RevengeFlipLook)
    (state : TradeBuilderRevengeFlipState) : RevengeFlipDecision :=
  if !look.clientAvailable then .skipped .clientUnavailable
  else if look.hasActiveOrder then .skipped .activeOrderExists
  else match state.currentSide.filter fun _ => revengeFlipPositionIsOpen state.positionQty with
    | some currentSide => revengeFlipStopLossDecision look state currentSide
    | none => revengeFlipEntryDecision look state

section Orders
variable [Arithmetic] {look : RevengeFlipLook} {state : TradeBuilderRevengeFlipState}
  {currentSide : RevengeSide} {order : RevengeFlipOrder}

theorem stopLossSellNode_order {quote : RevengeFlipSideQuote}
    (h : revengeFlipStopLossSellNode quote state = some order) :
    order.revengeSide = quote.revengeSide ∧ order.orderSide = .sell ∧
      order.intent = .stopLossSell := by
  unfold revengeFlipStopLossSellNode at h
  cases htrade : state.positionSourceTradeId with
  | none => simp [htrade] at h
  | some _ =>
    simp only [htrade, Option.ite_none_left_eq_some, Option.some.injEq] at h
    obtain ⟨-, rfl⟩ := h
    exact ⟨rfl, rfl, rfl⟩

theorem stopLossDecision_order
    (h : revengeFlipStopLossDecision look state currentSide = .submit order) :
    order.revengeSide = currentSide ∧ order.orderSide = .sell ∧ order.intent = .stopLossSell := by
  unfold revengeFlipStopLossDecision at h
  cases hquote : revengeFlipFindQuote look.quotes currentSide with
  | none => simp only [hquote, reduceCtorEq] at h
  | some quote =>
    simp only [hquote] at h
    split at h
    · cases h
    split at h
    · cases h
    split at h
    · cases h
    · rename_i sell hsell
      obtain rfl : sell = order := by simpa using h
      obtain ⟨hside, hsold, hintent⟩ := stopLossSellNode_order hsell
      exact ⟨hside.trans (findQuote_side hquote), hsold, hintent⟩

theorem entryOrder_buy (h : revengeFlipEntryOrder look state = .ok order) :
    order.orderSide = .buy := by
  unfold revengeFlipEntryOrder at h
  simp only [bind, Except.bind, pure, Except.pure, throw, throwThe, MonadExceptOf.throw] at h
  -- every branch but the last one throws
  repeat' split at h
  all_goals cases h
  all_goals rfl

theorem submit_cases (h : executeActionPlaceOrderRevengeFlip look state = .submit order) :
    (state.currentSide = some order.revengeSide ∧
        revengeFlipPositionIsOpen state.positionQty ∧ order.orderSide = .sell ∧
        order.intent = .stopLossSell) ∨
      ((state.currentSide = none ∨ ¬ revengeFlipPositionIsOpen state.positionQty) ∧
        order.orderSide = .buy) := by
  unfold executeActionPlaceOrderRevengeFlip at h
  split at h
  · cases h
  split at h
  · cases h
  split at h
  · rename_i currentSide hheld
    obtain ⟨hcurrent, hopen⟩ := Option.filter_eq_some_iff.mp hheld
    obtain ⟨hside, hsell, hintent⟩ := stopLossDecision_order h
    exact .inl ⟨hcurrent.trans (congrArg some hside.symm), hopen, hsell, hintent⟩
  · rename_i hnone
    have hflat : state.currentSide = none ∨ ¬ revengeFlipPositionIsOpen state.positionQty := by
      cases hcurrent : state.currentSide with
      | none => exact .inl rfl
      | some currentSide => exact .inr (by simpa [hcurrent] using hnone)
    unfold revengeFlipEntryDecision at h
    split at h
    · cases h
    · rename_i hbuy
      obtain rfl := RevengeFlipDecision.submit.inj h
      exact .inr ⟨hflat, entryOrder_buy hbuy⟩

end Orders

end PolymarketBot.RevengeFlip
