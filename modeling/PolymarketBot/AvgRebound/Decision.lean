import Mathlib.Data.List.Sort
import Mathlib.Data.Rat.Floor
import PolymarketBot.Lib.Grid

/-! The average-rebound engine: its configuration, its state, and the next order it chooses from
two order books. Decimals are exact. -/

namespace PolymarketBot.AvgRebound
open Lib

structure PrimaryTierConfig where
  id : String
  priceCap : ℚ
  qty : ℚ

structure ProfitLegConfig where
  id : String
  oppositeVwapCap : ℚ
  qty : ℚ

structure GivebackGuardConfig where
  trigger : ℚ
  maxExecutionVwap : ℚ

structure StageConfig where
  id : String
  requiredPrimaryTierIds : List String
  profitLegs : List ProfitLegConfig
  givebackGuard : GivebackGuardConfig

structure RescueConfig where
  enabledOnlyAfterFullLadder : Bool
  normalVwapCap : ℚ
  emergencyVwapCap : ℚ
  hardMaxVwapCap : ℚ
  lastChanceVwapCap : Option ℚ

/-- A resolved configuration, with the checks it has passed. -/
structure AvgReboundConfig where
  sessionBudgetUsdc : ℚ
  reservedBudgetBufferUsdc : ℚ
  extraVwapSafetyBuffer : ℚ
  targetProfitUsdc : Option ℚ
  allowPrimaryAfterPartialProfit : Bool
  preFullGivebackGuardEnabled : Bool
  fullGivebackGuardEnabled : Bool
  primaryLadder : List PrimaryTierConfig
  stages : List StageConfig
  rescue : RescueConfig
  tier_ok : ∀ tier ∈ primaryLadder, 0 < tier.priceCap ∧ tier.priceCap < 1 ∧ 0 < tier.qty
  leg_ok : ∀ stage ∈ stages, ∀ leg ∈ stage.profitLegs,
    0 < leg.oppositeVwapCap ∧ leg.oppositeVwapCap < 1 ∧ 0 < leg.qty
  stage_ok : ∀ stage ∈ stages, stage.requiredPrimaryTierIds ≠ []
  target_ok : ∀ target ∈ targetProfitUsdc, 0 ≤ target
  budget_ok : 0 < sessionBudgetUsdc
  reserve_ok : 0 ≤ reservedBudgetBufferUsdc ∧ reservedBudgetBufferUsdc < sessionBudgetUsdc
  ladder_ok : primaryLadder ≠ []
  stages_ok : stages ≠ []

structure AvgReboundState where
  sessionId : Option ℤ := none
  primaryTotalQty : ℚ := 0
  primaryTotalCost : ℚ := 0
  avgPrimaryCost : Option ℚ := none
  oppositeFilledQty : ℚ := 0
  oppositeTotalCost : ℚ := 0
  openPrimaryQty : ℚ := 0
  lockedPnl : ℚ := 0
  profitStarted : Bool := false
  primaryTierIds : List String := []
  oppositeLegIds : List String := []

namespace AvgReboundState
variable (state : AvgReboundState) (config : AvgReboundConfig)

def hasPrimaryTier (tierId : String) : Bool := state.primaryTierIds.any (· = tierId)

def hasOppositeLeg (legId : String) : Bool := state.oppositeLegIds.any (· = legId)

def stageIsReady (stage : StageConfig) : Bool :=
  stage.requiredPrimaryTierIds.all state.hasPrimaryTier

end AvgReboundState

/-- `Iterator::max_by_key`: the last of the largest. -/
def maxByKey {α : Type} (key : α → ℕ) (l : List α) : Option α :=
  l.foldl (fun best a =>
    match best with
    | none => some a
    | some b => if key b ≤ key a then some a else some b) none

variable (config : AvgReboundConfig) (state : AvgReboundState)

def currentStage : Option StageConfig :=
  maxByKey (·.requiredPrimaryTierIds.length) (config.stages.filter state.stageIsReady)

def fullLadderFilled : Bool := config.primaryLadder.all fun tier => state.hasPrimaryTier tier.id

def nextPrimaryTier : Option PrimaryTierConfig :=
  config.primaryLadder.find? fun tier => !state.hasPrimaryTier tier.id

def budgetLimit : ℚ := config.sessionBudgetUsdc - config.reservedBudgetBufferUsdc

def totalCost : ℚ := state.primaryTotalCost + state.oppositeTotalCost

def projectedSpendAllowed (additionalNotional : ℚ) : Bool :=
  totalCost state + additionalNotional ≤ budgetLimit config

def qtyMin (left right : ℚ) : ℚ := if left ≤ right then left else right

/-! ### Books -/

/-- `avg_rebound_decimal_from_f64`: twelve decimals. -/
def decimalFromF64 (value : ℚ) : ℚ := roundHalfEven (value * 10 ^ 12) / 10 ^ 12

/-- A level of the ask side; levels that are not finite are left out. -/
structure BookLevel where
  price : ℚ
  size : ℚ

structure VwapQuote where
  requestedQty : ℚ
  limitPrice : ℚ
  executableQty : ℚ
  vwap : ℚ
  notional : ℚ
  bestAsk : Option ℚ
  levels : List BookLevel

structure VwapRejection where
  reason : String
  requestedQty : ℚ
  limitPrice : ℚ
  executableQty : ℚ
  bestAsk : Option ℚ

def orderBookBestAsk (asks : List BookLevel) : Option ℚ :=
  ((asks.filter (0 < ·.price)).map fun level => decimalFromF64 level.price).min?

/-- The levels of a book from the cheapest on. -/
def askLevels (asks : List BookLevel) : List BookLevel :=
  ((asks.filter fun level => 0 < level.price ∧ 0 < level.size).map fun level =>
    ⟨decimalFromF64 level.price, decimalFromF64 level.size⟩).insertionSort (·.price ≤ ·.price)

/-- What a walk through the book has taken so far. -/
structure BookWalk where
  remaining : ℚ
  executableQty : ℚ := 0
  notional : ℚ := 0
  usedLevels : List BookLevel := []

def BookWalk.take (limitPrice : ℚ) (walk : BookWalk) (level : BookLevel) : BookWalk :=
  if level.price > limitPrice ∨ walk.remaining ≤ 0 then walk
  else
    let take := qtyMin level.size walk.remaining
    if take ≤ 0 then walk
    else
      { remaining := walk.remaining - take
        executableQty := walk.executableQty + take
        notional := walk.notional + take * level.price
        usedLevels := walk.usedLevels ++ [⟨level.price, take⟩] }

def vwapForFokLimit (asks : List BookLevel) (requestedQty configuredCap safetyBuffer : ℚ) :
    Except VwapRejection VwapQuote :=
  let limitPrice := configuredCap - safetyBuffer
  let bestAsk := orderBookBestAsk asks
  let reject (reason : String) (executableQty : ℚ) : Except VwapRejection VwapQuote :=
    .error { reason, requestedQty, limitPrice, executableQty, bestAsk }
  if requestedQty ≤ 0 then reject "invalid_requested_qty" 0
  else if limitPrice ≤ 0 then reject "non_positive_limit_price" 0
  else
    let walk := (askLevels asks).foldl (BookWalk.take limitPrice) { remaining := requestedQty }
    if walk.executableQty < requestedQty then
      reject "insufficient_depth_at_or_below_limit" walk.executableQty
    else if walk.notional / requestedQty > limitPrice then
      reject "vwap_above_limit" walk.executableQty
    else
      .ok
        { requestedQty
          limitPrice
          executableQty := walk.executableQty
          vwap := walk.notional / requestedQty
          notional := walk.notional
          bestAsk
          levels := walk.usedLevels }

/-! ### Decisions -/

inductive LegRole where
  | primary | opposite
deriving DecidableEq

inductive Intent where
  | primaryLadder
  | profitPairlock
  | givebackGuard
  | normalRescue
  | emergencyRescue
  | hardRescue
  | lastChanceRescue
deriving DecidableEq

inductive SessionStatus where
  | buildingPrimary | profitLocking | guardExit | rescueExit
deriving DecidableEq

structure AvgReboundDecision where
  sessionId : ℤ
  legRole : LegRole
  intent : Intent
  sessionStatus : SessionStatus
  stageId : Option String
  tierOrLegId : String
  qty : ℚ
  limitPrice : ℚ
  vwap : ℚ
  notional : ℚ
  vwapQuote : VwapQuote

inductive Rejection where
  | missingSessionId
  | vwapRejected (details : VwapRejection)
  | belowMinNotional (notional : ℚ)
  | budgetBufferExceeded (projectedSpend : ℚ)

def marketMinNotionalUsdc : ℚ := 1

/-- What a decision buys, for which role and reason. -/
structure Purchase where
  legRole : LegRole
  intent : Intent
  sessionStatus : SessionStatus
  stageId : Option String
  tierOrLegId : String
  qty : ℚ
  cap : ℚ

def Purchase.safetyBuffer (purchase : Purchase) : ℚ :=
  if purchase.legRole = .opposite then config.extraVwapSafetyBuffer else 0

def buildDecision (purchase : Purchase) (asks : List BookLevel) :
    Except Rejection AvgReboundDecision :=
  match state.sessionId with
  | none => .error .missingSessionId
  | some sessionId =>
    match vwapForFokLimit asks purchase.qty purchase.cap (purchase.safetyBuffer config) with
    | .error rejection => .error (.vwapRejected rejection)
    | .ok quote =>
      if quote.notional < marketMinNotionalUsdc then .error (.belowMinNotional quote.notional)
      else if !projectedSpendAllowed config state quote.notional then
        .error (.budgetBufferExceeded (totalCost state + quote.notional))
      else
        .ok
          { sessionId
            legRole := purchase.legRole
            intent := purchase.intent
            sessionStatus := purchase.sessionStatus
            stageId := purchase.stageId
            tierOrLegId := purchase.tierOrLegId
            qty := purchase.qty
            limitPrice := quote.limitPrice
            vwap := quote.vwap
            notional := quote.notional
            vwapQuote := quote }

def nextProfitLeg (stage : StageConfig) : Option ProfitLegConfig :=
  stage.profitLegs.find? fun leg => !state.hasOppositeLeg leg.id

/-- What a new opposite fill may cost, with the target left over. -/
def maxNewOppositeNotional (target qty : ℚ) : ℚ :=
  qtyMin state.primaryTotalQty (state.oppositeFilledQty + qty) - totalCost state - target

/-- The raw and the effective cap that keep the target profit. -/
def dynamicProfitCap (qty : ℚ) : Option (ℚ × ℚ) :=
  config.targetProfitUsdc.bind fun target =>
    if qty ≤ 0 ∨ state.primaryTotalQty ≤ 0 then none
    else if maxNewOppositeNotional state target qty ≤ 0 then none
    else
      let effectiveCap := maxNewOppositeNotional state target qty / qty
      let rawCap := effectiveCap + config.extraVwapSafetyBuffer
      let maxRawCap := 999999 / 1000000
      if effectiveCap ≤ 0 then none
      else
        some (if rawCap ≥ 1 then maxRawCap else rawCap,
          if effectiveCap ≥ 1 then maxRawCap else effectiveCap)

def profitPurchase (stage : StageConfig) (leg : ProfitLegConfig) : Purchase :=
  let qty := qtyMin leg.qty state.openPrimaryQty
  { legRole := .opposite
    intent := .profitPairlock
    sessionStatus := .profitLocking
    stageId := some stage.id
    tierOrLegId := leg.id
    qty
    cap := ((dynamicProfitCap config state qty).map Prod.fst).getD leg.oppositeVwapCap }

def profitDecision (oppositeAsks : List BookLevel) :
    Option (Except Rejection AvgReboundDecision) :=
  (currentStage config state).bind fun stage =>
    (nextProfitLeg state stage).bind fun leg =>
      if state.openPrimaryQty ≤ 0 then none
      else some (buildDecision config state (profitPurchase config state stage leg) oppositeAsks)

def guardDecision (oppositePrice : ℚ) (oppositeAsks : List BookLevel) :
    Option (Except Rejection AvgReboundDecision) :=
  (currentStage config state).bind fun stage =>
    let full := fullLadderFilled config state
    if !state.profitStarted ∨ state.openPrimaryQty ≤ 0 then none
    else if (!full ∧ !config.preFullGivebackGuardEnabled) ∨
        (full ∧ !config.fullGivebackGuardEnabled) then none
    else if decimalFromF64 oppositePrice < stage.givebackGuard.trigger then none
    else
      some (buildDecision config state
        { legRole := .opposite
          intent := .givebackGuard
          sessionStatus := .guardExit
          stageId := some stage.id
          tierOrLegId := "giveback_guard"
          qty := state.openPrimaryQty
          cap := stage.givebackGuard.maxExecutionVwap } oppositeAsks)

def rescueSteps : List (Intent × ℚ × String) :=
  [(.normalRescue, config.rescue.normalVwapCap, "normal_rescue"),
    (.emergencyRescue, config.rescue.emergencyVwapCap, "emergency_rescue"),
    (.hardRescue, config.rescue.hardMaxVwapCap, "hard_rescue")] ++
  (config.rescue.lastChanceVwapCap.map fun cap =>
    (Intent.lastChanceRescue, cap, "last_chance_rescue")).toList

/-- The first rescue step that can be built. -/
def rescueDecision (oppositeAsks : List BookLevel) :
    Option (Except Rejection AvgReboundDecision) :=
  if config.rescue.enabledOnlyAfterFullLadder ∧ !fullLadderFilled config state then none
  else if state.openPrimaryQty ≤ 0 then none
  else
    ((rescueSteps config).map fun (intent, cap, legId) =>
      buildDecision config state
        { legRole := .opposite
          intent
          sessionStatus := .rescueExit
          stageId := (currentStage config state).map (·.id)
          tierOrLegId := legId
          qty := state.openPrimaryQty
          cap } oppositeAsks).find? fun decision => decision.isOk

def primaryDecision (primaryAsks : List BookLevel) :
    Option (Except Rejection AvgReboundDecision) :=
  if state.profitStarted ∧
      (!config.allowPrimaryAfterPartialProfit ∨ state.openPrimaryQty ≤ 1 / 10000) then none
  else
    (nextPrimaryTier config state).map fun tier =>
      buildDecision config state
        { legRole := .primary
          intent := .primaryLadder
          sessionStatus := .buildingPrimary
          stageId := none
          tierOrLegId := tier.id
          qty := tier.qty
          cap := tier.priceCap } primaryAsks

/-- The books and the quote a decision is taken from. -/
structure MarketView where
  primaryAsks : List BookLevel
  oppositeAsks : List BookLevel
  oppositePrice : ℚ

/-- The candidates in the order they are tried. -/
def candidates (market : MarketView) : List (Except Rejection AvgReboundDecision) :=
  (profitDecision config state market.oppositeAsks).toList ++
  (if fullLadderFilled config state then
    (guardDecision config state market.oppositePrice market.oppositeAsks).toList ++
      (rescueDecision config state market.oppositeAsks).toList
  else []) ++
  (primaryDecision config state market.primaryAsks).toList

/-- The first candidate that can be built, and the rejections of those before it. -/
def firstDecision : List (Except Rejection AvgReboundDecision) →
    Option AvgReboundDecision × List Rejection
  | [] => (none, [])
  | .ok decision :: _ => (some decision, [])
  | .error rejection :: rest =>
    let (decision, rejections) := firstDecision rest
    (decision, rejection :: rejections)

def selectDecision (market : MarketView) : Option AvgReboundDecision × List Rejection :=
  firstDecision (candidates config state market)

end PolymarketBot.AvgRebound
