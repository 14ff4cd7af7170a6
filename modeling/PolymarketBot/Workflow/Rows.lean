import PolymarketBot.Builder.Process
import PolymarketBot.Flow.CycleWindow

/-! A sell-then-buy workflow: its rows, its child orders with what they really traded, and the
sum of the visible fills of one leg. -/

namespace PolymarketBot.Workflow
open Builder Flow

inductive WorkflowStatus
  | draft | armed | running | completed | canceled | expired | error
  deriving DecidableEq, Repr

inductive BuyTriggerMode
  | sellProgressOnly | priceOnly | sellProgressAndPrice
  deriving DecidableEq, Repr

structure TradeBuilderWorkflow where
  sourceTradeId : ℤ
  status : WorkflowStatus
  buyStartAfterSellProgressPct : ℚ
  buyTriggerMode : BuyTriggerMode
  expiresAt : Option Instant

/-- A workflow has at most one leg of each type, so the type stands for the leg's id. -/
inductive LegType
  | sell | buy
  deriving DecidableEq, Repr

inductive LegStatus
  | pending | armed | waitingSellProgress | opened | partiallyFilled
  | completed | blocked | canceled | expired | error
  deriving DecidableEq, Repr

/-- A row of `trade_builder_workflow_legs`, whose target the table checks. -/
structure TradeBuilderWorkflowLeg where
  legType : LegType
  marketSlug : String
  tokenId : String
  outcomeLabel : String
  side : Side
  triggerCondition : Option TriggerCondition
  triggerPrice : Option ℚ
  minPriceDistanceCent : ℚ
  status : LegStatus
  builderOrderId : Option ℕ
  targetNotionalUsdc : ℚ
  filledNotionalUsdc : ℚ
  filledQty : ℚ
  lastSeenPrice : Option ℚ
  target_nonneg : 0 ≤ targetNotionalUsdc

/-- What `create_trade_builder_order` is given for a leg. -/
structure ChildOrder where
  sourceTradeId : ℤ
  kind : OrderKind
  status : OrderStatus
  marketSlug : String
  tokenId : String
  outcomeLabel : String
  side : Side
  triggerCondition : Option TriggerCondition
  triggerPrice : Option ℚ
  sizeBasis : SizeBasis
  sizeUsdc : ℚ
  minPriceDistanceCent : ℚ
  expiresAt : Option Instant

def legOfType (legs : List TradeBuilderWorkflowLeg) (legType : LegType) :
    Option TradeBuilderWorkflowLeg :=
  legs.find? (·.legType = legType)

structure Trade where
  fillId : String
  exchangeOrderId : String
  price : ℚ
  size : ℚ
  price_nonneg : 0 ≤ price
  size_nonneg : 0 ≤ size

def Trade.notional (trade : Trade) : ℚ := trade.price * trade.size

theorem Trade.notional_nonneg (trade : Trade) : 0 ≤ trade.notional :=
  mul_nonneg trade.price_nonneg trade.size_nonneg

structure Child where
  id : ℕ
  leg : LegType
  order : ChildOrder
  trades : List Trade := []

def isFinal : OrderStatus → Bool
  | .completed | .canceled | .expired | .blocked | .error => true
  | _ => false

namespace Child

def traded (child : Child) : ℚ := (child.trades.map Trade.notional).sum

def isLive (child : Child) : Bool := !isFinal child.order.status

def exposure (child : Child) : ℚ := if child.isLive then child.order.sizeUsdc else child.traded

/-- A live child trades; one that buys spends its size at most. -/
def canTrade (child : Child) (trade : Trade) : Bool :=
  child.isLive && (child.leg = .sell || child.traded + trade.notional ≤ child.order.sizeUsdc)

def addTrade (trade : Trade) (child : Child) : Child :=
  if child.canTrade trade then { child with trades := child.trades ++ [trade] } else child

def setStatus (status : OrderStatus) (child : Child) : Child :=
  if child.isLive then { child with order := { child.order with status } } else child

end Child

inductive WorkflowEventType
  | expired | sellChildCreated | buyChildCompleted | buyChildTerminal | notBuyDecision
  | buyChildCreated | buyBlockedByRisk | completed | processingError
  deriving DecidableEq, Repr

/-- A row of `trade_builder_workflow_events`, with what its payload names. -/
structure WorkflowEvent where
  leg : Option LegType
  eventType : WorkflowEventType
  builderOrderId : Option ℕ := none
  reasonCode : Option String := none

/-- A row of `trade_builder_order_events`, with the exchange ids its payload names. -/
structure OrderEvent where
  builderOrderId : ℕ
  exchangeOrderId : Option String := none
  newExchangeOrderId : Option String := none
  prevExchangeOrderId : Option String := none

def OrderEvent.exchangeIds (event : OrderEvent) : List String :=
  [event.exchangeOrderId, event.newExchangeOrderId, event.prevExchangeOrderId].filterMap id

structure InternalOrder where
  id : ℕ
  exchangeOrderId : Option String

structure Fill where
  orderId : ℕ
  trade : Trade

/-- The tables of one workflow. -/
structure Tables where
  workflow : TradeBuilderWorkflow
  legs : List TradeBuilderWorkflowLeg
  children : List Child := []
  events : List WorkflowEvent := []
  orderEvents : List OrderEvent := []
  internalOrders : List InternalOrder := []
  fills : List Fill := []

namespace Tables

def childOrders (w : Tables) (leg : LegType) : List ℕ :=
  (w.events.filter (·.leg = some leg)).filterMap (·.builderOrderId)

def exchangeIds (w : Tables) (leg : LegType) : List String :=
  ((w.orderEvents.filter (·.builderOrderId ∈ w.childOrders leg)).flatMap OrderEvent.exchangeIds).filter
    (· ≠ "")

def isInternalOrder (w : Tables) (leg : LegType) (orderId : ℕ) : Bool :=
  w.internalOrders.any fun order =>
    order.id = orderId && order.exchangeOrderId.any (· ∈ w.exchangeIds leg)

def visibleFills (w : Tables) (leg : LegType) : List Fill :=
  w.fills.filter fun fill => w.isInternalOrder leg fill.orderId

def aggregateLegFills (w : Tables) (leg : LegType) : ℚ × ℚ :=
  (((w.visibleFills leg).map (·.trade.notional)).sum,
    ((w.visibleFills leg).map (·.trade.size)).sum)

end Tables

end PolymarketBot.Workflow
