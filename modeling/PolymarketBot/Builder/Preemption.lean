import PolymarketBot.Builder.LadderSync
import PolymarketBot.Builder.Process
import PolymarketBot.Lib.Text
import PolymarketBot.PriceToBeat.StopLoss

/-! A take profit that gives way to the stop losses of its parent: which of them are triggered,
what the parent's quantity leaves each, and which are submitted at once. -/

namespace PolymarketBot.ExitLadders
open Lib Builder
open PriceToBeat (PtbStopLossEvaluation)

inductive SlTriggerPriceMode
  | bestBid | lastTrade | compositeFast | composite | compositeSafe
  deriving DecidableEq, Repr

/-- What a preemption looks at besides the rows: the prices, the mode column of the orders, and
what the price-to-beat inputs say of an order with a gap. -/
structure MarketView where
  runtimePrice : RuntimePrice
  slTriggerPriceMode : ℤ → Option SlTriggerPriceMode := fun _ => none
  ptbInputs : TradeBuilderOrder → PtbStopLossEvaluation := fun _ => {}

/-! ### The triggers -/

/-- `SL_COMPOSITE_DIVERGENCE_KEEP_RATIO` -/
def slCompositeDivergenceKeepRatio : ℚ := 70 / 100

def fastTriggerEvalPrice (runtimePrice : RuntimePrice)
    (triggerCondition : Option TriggerCondition) : ℚ :=
  match runtimePrice.bestBid, runtimePrice.lastTradePrice, triggerCondition with
  | some bestBid, some lastTradePrice, some .crossAbove =>
    clampProbability (max bestBid lastTradePrice)
  | some bestBid, some lastTradePrice, some .crossBelow =>
    clampProbability
      (if 0 < bestBid ∧ lastTradePrice < bestBid * slCompositeDivergenceKeepRatio then bestBid
        else min bestBid lastTradePrice)
  | some bestBid, none, _ => clampProbability bestBid
  | none, some lastTradePrice, _ => clampProbability lastTradePrice
  | _, _, _ => runtimePrice.price

def slTriggerEvalPriceForMode (mode : SlTriggerPriceMode) (runtimePrice : RuntimePrice) :
    Option ℚ :=
  match mode with
  | .bestBid => runtimePrice.bestBid.map clampProbability
  | .lastTrade => runtimePrice.lastTradePrice.map clampProbability
  | .compositeFast =>
    some (match runtimePrice.bestBid, runtimePrice.lastTradePrice with
      | some bestBid, some lastTradePrice => clampProbability (min bestBid lastTradePrice)
      | some bestBid, none => clampProbability bestBid
      | none, some lastTradePrice => clampProbability lastTradePrice
      | none, none => runtimePrice.price)
  | .composite | .compositeSafe => some (fastTriggerEvalPrice runtimePrice (some .crossBelow))

def tradeBuilderIsFastEntryBuy (order : TradeBuilderOrder) : Bool :=
  order.parentOrderId.isNone && order.kind == .conditional && order.side == .buy

def tradeBuilderUsesFastRuntimePricing (order : TradeBuilderOrder) : Bool :=
  tradeBuilderIsChildExitSell order || tradeBuilderIsFastEntryBuy order

/-- The column `sl_trigger_price_mode` of an order. -/
def MarketView.mode (view : MarketView) (order : TradeBuilderOrder) : Option SlTriggerPriceMode :=
  view.slTriggerPriceMode order.id

def tradeBuilderTriggerEvalPriceForOrder (order : TradeBuilderOrder) (view : MarketView) : ℚ :=
  if tradeBuilderUsesFastRuntimePricing order then
    match (view.mode order).filter fun _ => tradeBuilderIsStopLossChild order with
    | some mode =>
      (slTriggerEvalPriceForMode mode view.runtimePrice).getD view.runtimePrice.price
    | none => fastTriggerEvalPrice view.runtimePrice order.triggerCondition
  else view.runtimePrice.price

def tradeBuilderEvaluatePtbStopLoss (order : TradeBuilderOrder) (view : MarketView) :
    Option PtbStopLossEvaluation :=
  if order.ptbStopLossGapUsd.isSome ∧ tradeBuilderIsStopLossChild order then
    some (view.ptbInputs order)
  else none

def shouldSkipTradeBuilderCompositeSlBidConfirmation (order : TradeBuilderOrder)
    (view : MarketView) : Bool :=
  if tradeBuilderIsStopLossChild order ∧
      (view.mode order = some .composite ∨ view.mode order = some .compositeSafe) then
    order.triggerPrice.any fun triggerPrice =>
      view.runtimePrice.bestBid.all (triggerPrice < ·)
  else false

structure StopLossPreemptionDecision where
  currentPrice : ℚ
  readyForInlineSubmit : Bool

/-- The selected price source of an order has no price. -/
def triggerSourceMissing (order : TradeBuilderOrder) (view : MarketView) : Bool :=
  (view.mode order).any fun mode => (slTriggerEvalPriceForMode mode view.runtimePrice).isNone

def preemptedTrigger (sibling : TradeBuilderOrder) (view : MarketView) : Bool :=
  match tradeBuilderEvaluatePtbStopLoss sibling view with
  | some evaluation => evaluation.shouldTrigger
  | none => (evaluateTradeBuilderOrderTrigger sibling sibling.lastSeenPrice
      (tradeBuilderTriggerEvalPriceForOrder sibling view)).shouldTrigger

def evaluateTradeBuilderPreemptedStopLoss (sibling : TradeBuilderOrder) (view : MarketView) :
    Option StopLossPreemptionDecision :=
  if !tradeBuilderIsStopLossChild sibling || tradeBuilderIsTerminalStatus sibling.status ||
      triggerSourceMissing sibling view || !preemptedTrigger sibling view ||
      shouldSkipTradeBuilderCompositeSlBidConfirmation sibling view then
    none
  else
    some
      { currentPrice :=
          ((tradeBuilderEvaluatePtbStopLoss sibling view).bind (·.currentPrice)).getD
            (tradeBuilderTriggerEvalPriceForOrder sibling view)
        readyForInlineSubmit :=
          sibling.activeExchangeOrderId.isNone && sibling.status ≠ .canceledRequested }

/-! ### What the parent's quantity leaves each stop loss -/

def tradeBuilderExitLadderKind (order : TradeBuilderOrder) : Option String :=
  order.exitLadderKind.filter fun kind => kind.toList.any fun c => !Lib.Text.isWhiteSpace c

def tradeBuilderIsHardExitChild (order : TradeBuilderOrder) : Bool :=
  tradeBuilderIsChildExitSell order && (tradeBuilderExitLadderKind order).isNone

def hardStopLosses (siblings : List LadderChild) : List LadderChild :=
  siblings.filter fun sibling =>
    tradeBuilderIsStopLossChild sibling.toTradeBuilderOrder &&
      tradeBuilderIsHardExitChild sibling.toTradeBuilderOrder &&
        !tradeBuilderIsTerminalStatus sibling.status

def stagedStopLosses (siblings : List LadderChild) : List LadderChild :=
  siblings.filter fun sibling =>
    tradeBuilderIsStopLossChild sibling.toTradeBuilderOrder &&
      !tradeBuilderIsHardExitChild sibling.toTradeBuilderOrder &&
        !tradeBuilderIsTerminalStatus sibling.status

structure StopLossPreemptionInventoryPlan where
  currentParentQty : Option ℚ := none
  siblingRemainingQtys : List (ℤ × ℚ) := []

def StopLossPreemptionInventoryPlan.remainingQtyFor (plan : StopLossPreemptionInventoryPlan)
    (orderId : ℤ) : Option ℚ :=
  (plan.siblingRemainingQtys.find? (·.1 = orderId)).map Prod.snd

def planTradeBuilderPreemptedStopLossInventory (siblings : List LadderChild)
    (currentParentQty orderMinSize : Option ℚ) : StopLossPreemptionInventoryPlan :=
  match currentParentQty.filter (tradeBuilderExitQtyTolerance < ·) with
  | none => {}
  | some currentParentQty =>
    { currentParentQty := some currentParentQty
      siblingRemainingQtys :=
        ((hardStopLosses siblings).map (fun sibling =>
            (sibling.id, roundTradeBuilderShareQty currentParentQty)) ++
          (tradeBuilderLadderFamilyTargetPlan (stagedStopLosses siblings) currentParentQty
            orderMinSize).targets).insertionSort fun a b => a.1 ≤ b.1 }

def tradeBuilderShareRemainingQty (order : TradeBuilderOrder) : Option ℚ :=
  if order.sizeBasis = .shares then
    (order.remainingQty.or order.targetQty).map roundTradeBuilderShareQty
  else none

def syncHardExit (currentParentQty : ℚ) (s : FamilySync) (child : LadderChild) : FamilySync :=
  let desiredQty := roundTradeBuilderShareQty currentParentQty
  if child.activeExchangeOrderId.isSome ∨ desiredQty ≤ 0 ∨
      |(tradeBuilderShareRemainingQty child.toTradeBuilderOrder).getD 0 - desiredQty| <
        tradeBuilderExitQtyTolerance then
    s
  else
    { rows := updateRow child.id (resizeChild child.toTradeBuilderOrder desiredQty) s.rows
      events := s.events ++ [(child.id, "hard_exit_resized")]
      updatedOrderIds := s.updatedOrderIds ++ [child.id] }

def tradeBuilderSyncHardExitRemainingQty (hardChildren : List LadderChild)
    (currentParentQty : ℚ) (rows : List LadderChild) : FamilySync :=
  hardChildren.foldl (syncHardExit currentParentQty) { rows }

/-! ### The preemption -/

/-- The order table, the events, and what the loop over the stop losses has found. -/
structure PreemptionState where
  rows : List LadderChild
  events : List (ℤ × String) := []
  stopLossSiblingIds : List ℤ := []
  stopLossCurrentPrice : Option ℚ := none
  readySlOrderIds : List ℤ := []
  tpPreempted : Bool := false
  inventoryPlan : StopLossPreemptionInventoryPlan := {}

namespace PreemptionState

def event (s : PreemptionState) (id : ℤ) (eventType : String) : PreemptionState :=
  { s with events := s.events ++ [(id, eventType)] }

def update (s : PreemptionState) (id : ℤ) (u : OrderUpdate) : PreemptionState :=
  { s with rows := updateRow id u s.rows }

def addSync (s : PreemptionState) (sync : FamilySync) : PreemptionState :=
  { s with rows := sync.rows, events := s.events ++ sync.events }

end PreemptionState

/-- Latches a stop loss that is triggered, and marks it ready when it can be submitted. -/
def latchPreempting (view : MarketView) (s : PreemptionState) (sibling : LadderChild) :
    PreemptionState :=
  match evaluateTradeBuilderPreemptedStopLoss sibling.toTradeBuilderOrder view with
  | none =>
    if triggerSourceMissing sibling.toTradeBuilderOrder view then
      s.event sibling.id "selected_trigger_source_missing"
    else s
  | some decision =>
    let s := { s with
      stopLossSiblingIds := s.stopLossSiblingIds ++ [sibling.id]
      stopLossCurrentPrice := s.stopLossCurrentPrice.or (some decision.currentPrice)
      readySlOrderIds :=
        if decision.readyForInlineSubmit then s.readySlOrderIds ++ [sibling.id]
        else s.readySlOrderIds }
    if tradeBuilderStopLossLatched sibling.toTradeBuilderOrder then s
    else (s.update sibling.id (.setTriggerLatched true (some "stop_loss"))).event sibling.id
      "sl_latched"

/-- `sync_trade_builder_preempted_stop_loss_inventory`; `parentQty` is what the parent's row
resolves to, if there is one. -/
def syncTradeBuilderPreemptedStopLossInventory (siblings : List LadderChild)
    (parentQty orderMinSize : Option ℚ) (s : PreemptionState) : PreemptionState :=
  let plan := planTradeBuilderPreemptedStopLossInventory siblings parentQty orderMinSize
  let s := { s with inventoryPlan := plan }
  match plan.currentParentQty with
  | none => s
  | some currentParentQty =>
    let s := s.addSync (tradeBuilderSyncHardExitRemainingQty (hardStopLosses siblings)
      currentParentQty s.rows)
    s.addSync (tradeBuilderSyncLadderFamilyRemainingQty (stagedStopLosses siblings)
      currentParentQty orderMinSize s.rows)

def reportTriggered (s : PreemptionState) (sibling : LadderChild) : PreemptionState :=
  let s := if s.inventoryPlan.currentParentQty.isNone then
      s.event sibling.id "sl_inventory_sync_skipped" else s
  s.event sibling.id (if tradeBuilderIsHardExitChild sibling.toTradeBuilderOrder then
    "sl_became_sole_exit" else "sl_staged_exit_ready")

/-- A take profit that a hard stop loss replaces. -/
def preemptTakeProfit (s : PreemptionState) (takeProfit : LadderChild) : PreemptionState :=
  (s.update takeProfit.id (.setStatus (cancelStatus takeProfit.toTradeBuilderOrder)
    (some { reason := "sl_priority_preempted" }))).event takeProfit.id
      (if takeProfit.activeExchangeOrderId.isSome then "sl_preempted_live_tp"
        else "tp_blocked_by_sl_priority")

def isTriggered (s : PreemptionState) (sibling : LadderChild) : Bool :=
  sibling.id ∈ s.stopLossSiblingIds

/-- `maybe_preempt_trade_builder_take_profit_for_stop_loss`, when no call to the store fails. -/
def maybePreemptTradeBuilderTakeProfitForStopLoss (order : LadderChild) (rows : List LadderChild)
    (parentQty orderMinSize : Option ℚ) (view : MarketView) : PreemptionState :=
  if tradeBuilderIsTakeProfitChild order.toTradeBuilderOrder then
    let siblings := rows.filter (·.id ≠ order.id)
    let latched := (siblings.filter fun sibling =>
        tradeBuilderIsStopLossChild sibling.toTradeBuilderOrder).foldl
      (latchPreempting view) { rows }
    if latched.stopLossSiblingIds.isEmpty then latched
    else
      let planned := syncTradeBuilderPreemptedStopLossInventory siblings parentQty orderMinSize
        latched
      let triggered := siblings.filter (isTriggered planned)
      let reported := triggered.foldl reportTriggered planned
      if triggered.all fun sibling =>
          !tradeBuilderIsHardExitChild sibling.toTradeBuilderOrder then
        { reported.event order.id "tp_deferred_by_staged_sl" with tpPreempted := true }
      else
        let preempted := (siblings.filter fun sibling =>
            tradeBuilderIsTakeProfitChild sibling.toTradeBuilderOrder &&
              !tradeBuilderIsTerminalStatus sibling.status).foldl preemptTakeProfit reported
        { preemptTakeProfit preempted order with tpPreempted := true }
  else { rows }

/-- What the ready stop losses are left, together. -/
def readyQty (s : PreemptionState) : ℚ :=
  (s.readySlOrderIds.map fun orderId => (s.inventoryPlan.remainingQtyFor orderId).getD 0).sum

end PolymarketBot.ExitLadders
