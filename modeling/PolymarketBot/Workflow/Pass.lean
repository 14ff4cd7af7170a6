import PolymarketBot.Lib.Threads
import PolymarketBot.Workflow.Rows

/-! One pass over a workflow, as the calls it makes one after another. -/

namespace PolymarketBot.Workflow
open Lib Prog Builder Flow

inductive RiskDecision
  | allow | block | halt
  deriving DecidableEq, Repr

/-- What happens outside the passes: trading, the processing of the child orders, the tables
that the fills are looked up in, and a user who changes the workflow's status. -/
inductive MarketStep
  | trade (child : ℕ) (trade : Trade)
  | orderStatus (child : ℕ) (status : OrderStatus)
  | orderEvent (event : OrderEvent)
  | internalOrder (order : InternalOrder)
  | fill (child index : ℕ)
  | workflowStatus (status : WorkflowStatus)

inductive WorkflowCall
  | listForProcessing
  | loadUserClient
  | now
  | setWorkflowStatus (status : WorkflowStatus) (lastError : Option String)
  | appendEvent (event : WorkflowEvent)
  | loadLegs
  | getOrder (id : ℕ)
  | createOrder (leg : LegType) (order : ChildOrder)
  | setLegBuilderOrder (leg : LegType) (builderOrderId : Option ℕ) (status : LegStatus)
  | aggregateLegFills (leg : LegType)
  | setLegFilledMetrics (leg : LegType) (filledNotionalUsdc filledQty : ℚ)
  | setLegStatus (leg : LegType) (status : LegStatus)
  | setLegLastSeenPrice (leg : LegType) (price : ℚ)
  | fetchPrice (tokenId : String)
  | riskGate (notionalUsdc : ℚ)
  | market (step : MarketStep)

abbrev WorkflowAnswer : WorkflowCall → Type
  | .listForProcessing => Option TradeBuilderWorkflow
  | .now => Instant
  | .loadLegs => List TradeBuilderWorkflowLeg
  | .getOrder _ => Option Child
  | .createOrder _ _ => ℕ
  | .aggregateLegFills _ => ℚ × ℚ
  | .fetchPrice _ => ℚ
  | .riskGate _ => RiskDecision
  | _ => Unit

abbrev Job (α : Type) := Prog WorkflowCall WorkflowAnswer String α

namespace Job

def run (c : WorkflowCall) : Job (WorkflowAnswer c) := perform c

def whenever (condition : Bool) (job : Job Unit) : Job Unit := if condition then job else pure ()

def require {α : Type} (message : String) : Option α → Job α
  | some a => pure a
  | none => .fail message

end Job

open Job

/-! ### The pass -/

/-- `WORKFLOW_MIN_BUY_INCREMENT_USDC` -/
def workflowMinBuyIncrementUsdc : ℚ := 1

def clampPct (pct : ℚ) : ℚ := max 0 (min 100 pct)

def workflowLegProgressPct (leg : TradeBuilderWorkflowLeg) : ℚ :=
  if leg.targetNotionalUsdc ≤ 0 then 0
  else clampPct (max leg.filledNotionalUsdc 0 / leg.targetNotionalUsdc * 100)

def workflowShouldActivateBuy (workflow : TradeBuilderWorkflow) (thresholdOk priceOk : Bool) :
    Bool :=
  match workflow.buyTriggerMode with
  | .sellProgressOnly => thresholdOk
  | .priceOnly => priceOk
  | .sellProgressAndPrice => thresholdOk && priceOk

def refreshWorkflowLegFillMetrics (leg : TradeBuilderWorkflowLeg) :
    Job TradeBuilderWorkflowLeg := do
  let (filledNotionalUsdc, filledQty) ← run (.aggregateLegFills leg.legType)
  whenever (1 / 10000 < |leg.filledNotionalUsdc - filledNotionalUsdc| ||
      1 / 1000000 < |leg.filledQty - filledQty|)
    (run (.setLegFilledMetrics leg.legType filledNotionalUsdc filledQty))
  pure { leg with filledNotionalUsdc, filledQty }

def sellLegOrder (workflow : TradeBuilderWorkflow) (sellLeg : TradeBuilderWorkflowLeg) :
    ChildOrder where
  sourceTradeId := workflow.sourceTradeId
  kind :=
    if sellLeg.triggerCondition.isSome ∧ sellLeg.triggerPrice.isSome then .conditional
    else .immediate
  status := .pending
  marketSlug := sellLeg.marketSlug
  tokenId := sellLeg.tokenId
  outcomeLabel := sellLeg.outcomeLabel
  side := sellLeg.side
  triggerCondition := sellLeg.triggerCondition
  triggerPrice := sellLeg.triggerPrice
  sizeBasis := .notionalUsdc
  sizeUsdc := sellLeg.targetNotionalUsdc
  minPriceDistanceCent := sellLeg.minPriceDistanceCent
  expiresAt := workflow.expiresAt

/-- The part of `ensure_sell_leg_order` that creates the order. -/
def createSellLegOrder (workflow : TradeBuilderWorkflow) (sellLeg : TradeBuilderWorkflowLeg) :
    Job Unit := do
  whenever (sellLeg.targetNotionalUsdc ≤ 0) (.fail "sell leg target_notional_usdc must be > 0")
  let sellOrderId ← run (.createOrder .sell (sellLegOrder workflow sellLeg))
  run (.setLegBuilderOrder sellLeg.legType (some sellOrderId) .opened)
  run (.appendEvent { leg := some sellLeg.legType, eventType := .sellChildCreated
                      builderOrderId := some sellOrderId })
  let _ ← run (.getOrder sellOrderId)
  pure ()

def ensureSellLegOrder (workflow : TradeBuilderWorkflow) (sellLeg : TradeBuilderWorkflowLeg) :
    Job Unit :=
  match sellLeg.builderOrderId with
  | none => createSellLegOrder workflow sellLeg
  | some builderOrderId => do
    match ← run (.getOrder builderOrderId) with
    | some _ => pure ()
    | none => do
      run (.setLegBuilderOrder sellLeg.legType none .pending)
      createSellLegOrder workflow sellLeg

/-- The event on which a finished child leaves the buy leg. -/
def finishedEvent (status : OrderStatus) : Option WorkflowEventType :=
  match status with
  | .completed => some .buyChildCompleted
  | .canceled | .expired | .blocked | .error => some .buyChildTerminal
  | _ => none

/-- Takes a finished child off the buy leg, and tells whether it did. -/
def settleBuyChild (buyLeg : TradeBuilderWorkflowLeg) : Job (TradeBuilderWorkflowLeg × Bool) :=
  match buyLeg.builderOrderId with
  | none => pure (buyLeg, false)
  | some activeBuyOrderId => do
    match ← run (.getOrder activeBuyOrderId) with
    | none =>
      run (.setLegBuilderOrder buyLeg.legType none .armed)
      pure ({ buyLeg with builderOrderId := none }, true)
    | some activeBuyOrder =>
      match finishedEvent activeBuyOrder.order.status with
      | none => pure (buyLeg, false)
      | some eventType =>
        run (.setLegBuilderOrder buyLeg.legType none .armed)
        run (.appendEvent { leg := some buyLeg.legType, eventType
                            builderOrderId := some activeBuyOrder.id })
        pure ({ buyLeg with builderOrderId := none }, true)

def priceConditionMet (condition : TriggerCondition) (previousPrice : Option ℚ)
    (currentPrice triggerPrice : ℚ) : Bool :=
  match condition with
  | .crossAbove => crossedAboveStrict previousPrice currentPrice triggerPrice
  | .crossBelow => crossedBelowStrict previousPrice currentPrice triggerPrice
  | _ => true

/-- The prices it answers besides the verdict are only logged. -/
def evaluateWorkflowBuyPriceCondition (buyLeg : TradeBuilderWorkflowLeg) : Job Bool :=
  match buyLeg.triggerPrice, buyLeg.triggerCondition with
  | some triggerPrice, some triggerCondition => do
    let price ← run (.fetchPrice buyLeg.tokenId)
    let currentPrice := clampProbability price
    run (.setLegLastSeenPrice buyLeg.legType currentPrice)
    pure (priceConditionMet triggerCondition buyLeg.lastSeenPrice currentPrice triggerPrice)
  | _, _ => pure true

def desiredBuyNotional (buyLeg : TradeBuilderWorkflowLeg) (sellProgressPct : ℚ) : ℚ :=
  max 0 (min (max buyLeg.targetNotionalUsdc 0)
    (buyLeg.targetNotionalUsdc * (sellProgressPct / 100)))

def notBuyReason (thresholdOk priceOk : Bool) : String :=
  if !thresholdOk && !priceOk then "workflow_condition_not_met"
  else if !thresholdOk then "workflow_waiting_sell_progress"
  else "workflow_waiting_price_condition"

def buyLegOrder (workflow : TradeBuilderWorkflow) (buyLeg : TradeBuilderWorkflowLeg)
    (deltaNotional : ℚ) : ChildOrder where
  sourceTradeId := workflow.sourceTradeId
  kind := .immediate
  status := .pending
  marketSlug := buyLeg.marketSlug
  tokenId := buyLeg.tokenId
  outcomeLabel := buyLeg.outcomeLabel
  side := buyLeg.side
  triggerCondition := none
  triggerPrice := none
  sizeBasis := .notionalUsdc
  sizeUsdc := deltaNotional
  minPriceDistanceCent := buyLeg.minPriceDistanceCent
  expiresAt := workflow.expiresAt

def placeBuyChild (workflow : TradeBuilderWorkflow) (buyLeg : TradeBuilderWorkflowLeg)
    (deltaNotional : ℚ) : Job Unit := do
  match ← run (.riskGate deltaNotional) with
  | .allow =>
    let buyOrderId ← run (.createOrder .buy (buyLegOrder workflow buyLeg deltaNotional))
    run (.setLegBuilderOrder buyLeg.legType (some buyOrderId) .opened)
    run (.setWorkflowStatus .running none)
    run (.appendEvent { leg := some buyLeg.legType, eventType := .buyChildCreated
                        builderOrderId := some buyOrderId })
  | _ =>
    run (.setLegStatus buyLeg.legType .blocked)
    run (.appendEvent { leg := some buyLeg.legType, eventType := .buyBlockedByRisk
                        reasonCode := some "risk_blocked" })

def completeWorkflow (sellLeg buyLeg : TradeBuilderWorkflowLeg) : Job Unit := do
  run (.setWorkflowStatus .completed none)
  run (.setLegStatus sellLeg.legType .completed)
  run (.setLegStatus buyLeg.legType .completed)
  run (.appendEvent { leg := none, eventType := .completed })

/-- The pass once the buy leg's last child is settled and its fills are read again. -/
def sizeBuyChild (workflow : TradeBuilderWorkflow) (sellLeg buyLeg : TradeBuilderWorkflowLeg)
    (sellProgressPct : ℚ) : Job Unit := do
  let priceOk ← evaluateWorkflowBuyPriceCondition buyLeg
  let thresholdOk : Bool := workflow.buyStartAfterSellProgressPct ≤ sellProgressPct
  let shouldBuy := workflowShouldActivateBuy workflow thresholdOk priceOk
  let deltaNotional :=
    max (desiredBuyNotional buyLeg sellProgressPct - buyLeg.filledNotionalUsdc) 0
  whenever (!shouldBuy) do
    run (.setLegStatus buyLeg.legType .waitingSellProgress)
    run (.appendEvent { leg := some buyLeg.legType, eventType := .notBuyDecision
                        reasonCode := some (notBuyReason thresholdOk priceOk) })
  whenever (shouldBuy && buyLeg.builderOrderId.isNone &&
      workflowMinBuyIncrementUsdc ≤ deltaNotional &&
      buyLeg.filledNotionalUsdc < buyLeg.targetNotionalUsdc)
    (placeBuyChild workflow buyLeg deltaNotional)
  whenever (99999 / 1000 ≤ sellProgressPct && buyLeg.builderOrderId.isNone &&
      buyLeg.targetNotionalUsdc ≤ buyLeg.filledNotionalUsdc + 1 / 10000)
    (completeWorkflow sellLeg buyLeg)

/-- The pass over the legs of a workflow that has not expired. -/
def processLegs (workflow : TradeBuilderWorkflow) (sellLeg buyLeg : TradeBuilderWorkflowLeg) :
    Job Unit := do
  ensureSellLegOrder workflow sellLeg
  let sellLeg ← refreshWorkflowLegFillMetrics sellLeg
  let buyLeg ← refreshWorkflowLegFillMetrics buyLeg
  let sellProgressPct := workflowLegProgressPct sellLeg
  whenever (workflow.status = .armed && 0 < sellProgressPct)
    (run (.setWorkflowStatus .running none))
  let (buyLeg, buyChildTransitioned) ← settleBuyChild buyLeg
  let buyLeg ← refreshWorkflowLegFillMetrics buyLeg
  whenever (!buyChildTransitioned) (sizeBuyChild workflow sellLeg buyLeg sellProgressPct)

def expireWorkflow (workflow : TradeBuilderWorkflow) : Job Unit :=
  whenever (workflow.status ≠ .expired) do
    run (.setWorkflowStatus .expired none)
    run (.appendEvent { leg := none, eventType := .expired })

def processTradeBuilderWorkflow (workflow : TradeBuilderWorkflow) : Job Unit := do
  let now ← run .now
  if workflow.expiresAt.any (· ≤ now) then expireWorkflow workflow
  else
    let legs ← run .loadLegs
    let sellLeg ← require "workflow missing sell leg" (legOfType legs .sell)
    let buyLeg ← require "workflow missing buy leg" (legOfType legs .buy)
    processLegs workflow sellLeg buyLeg

/-- What the loop over the workflows does when one fails. -/
def markProcessingError (err : String) : Job Unit := do
  let _ ← attempt (run (.setWorkflowStatus .error (some err)))
  let _ ← attempt (run (.appendEvent { leg := none, eventType := .processingError }))
  pure ()

/-- `process_trade_builder_workflows`, for one workflow. -/
def processTradeBuilderWorkflows : Job Unit := do
  match ← run .listForProcessing with
  | none => pure ()
  | some workflow =>
    match ← attempt (do run .loadUserClient; processTradeBuilderWorkflow workflow) with
    | .ok _ => pure ()
    | .error err => markProcessingError err

/-- The passes over the workflow; one that fails is followed by the next. -/
def workflowPasses : ℕ → Job Unit
  | 0 => pure ()
  | passes + 1 => do
    let _ ← attempt processTradeBuilderWorkflows
    workflowPasses passes

def marketSteps : List MarketStep → Job Unit
  | [] => pure ()
  | step :: steps => do
    run (.market step)
    marketSteps steps

end PolymarketBot.Workflow
