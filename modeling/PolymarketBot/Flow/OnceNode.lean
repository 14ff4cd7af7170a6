import PolymarketBot.Flow.BuyFillLock
import PolymarketBot.Flow.WindowEndSell

/-! How a market price trigger is configured to fire once, and the key under which its firing
is recorded. -/

namespace PolymarketBot.Flow

structure ConfiguredNode extends TradeFlowNode where
  config : Value

structure TradeFlowEdge where
  source : String
  target : String
  edgeType : String
  condition : Option Value := none

structure TradeFlowGraphRuntime where
  context : Value := .object []
  nodes : List ConfiguredNode
  edges : List TradeFlowEdge := []

def lowercase (s : String) : String := String.ofList (s.toList.map Char.toLower)

def nodeConfigI64 (node : ConfiguredNode) (key : String) : Option ℤ :=
  (node.config.get key).bind valueAsI64

def nodeRepeatMode (node : ConfiguredNode) : String :=
  ((node.config.get "repeatMode").bind Value.asStr).getD "loop"

def nodeMarketMode (node : ConfiguredNode) : String :=
  match ((node.config.get "marketMode").bind Value.asStr).map fun v => lowercase (trim v) with
  | some "auto_scope" => "auto_scope"
  | _ => "fixed"

def triggerMarketOnceScopeVersionCurrent : ℤ := 2

def nodeTriggerMarketOnceScopeVersion (node : ConfiguredNode) : ℤ :=
  ((node.config.get "onceScopeVersion").bind valueAsI64).getD 0

def isTradeFlowMarketPriceOnceNode (node : ConfiguredNode) : Bool :=
  node.nodeType = "trigger.market_price" && nodeRepeatMode node = "once"

def nodeUsesLegacyAutoScopeOnceScope (node : ConfiguredNode) : Bool :=
  isTradeFlowMarketPriceOnceNode node && nodeMarketMode node = "auto_scope" &&
    nodeTriggerMarketOnceScopeVersion node < triggerMarketOnceScopeVersionCurrent

def nodeOnceScope (node : ConfiguredNode) : String :=
  if nodeUsesLegacyAutoScopeOnceScope node then "market"
  else
    match ((node.config.get "onceScope").bind Value.asStr).map fun v => lowercase (trim v) with
    | some "market" => "market"
    | _ => "run"

def isTradeFlowMarketPriceOnceScopeMarket (node : ConfiguredNode) : Bool :=
  isTradeFlowMarketPriceOnceNode node && nodeOnceScope node = "market"

def tradeFlowDeferOnceUntilOrderAccepted (node : ConfiguredNode) : Bool :=
  isTradeFlowMarketPriceOnceNode node &&
    (nodeConfigBool node.config "deferOnceUntilOrderAccepted").getD false

/-- What a trigger fires once for: the market, if it fires once for each market, and the
re-entry generation. -/
structure OnceScope where
  market : Option String
  generation : ℤ
  deriving DecidableEq, Repr

def onceScope (node : ConfiguredNode) (context : Value) (marketSlug : String) : OnceScope where
  market := if isTradeFlowMarketPriceOnceScopeMarket node then some (trim marketSlug) else none
  generation := flowNodeReentryGeneration context node.key

/-- The tail both once keys share: the market of a market scope, then the generation. -/
def onceScopeKey (base : String) (onceScopeMarket : Bool) (marketSlug : Option String)
    (generation : ℤ) : String :=
  let base := base ++
    if onceScopeMarket then ":" ++ (trimmedSlug marketSlug).getD "unknown-market" else ""
  if generation > 0 then base ++ s!":gen{generation}" else base

def tradeFlowMarketPriceOnceIdempotencyKey (runId : ℤ) (nodeKey : String)
    (onceScopeMarket : Bool) (marketSlug : Option String) (generation : ℤ) : String :=
  onceScopeKey s!"flow-once-fired:{runId}:{nodeKey}" onceScopeMarket marketSlug generation

theorem wsPriceTriggerStepIdempotencyKey_once (runId : ℤ) (nodeKey condition : String) (price : ℚ)
    (dedupeTs : ℤ) (onceScopeMarket : Bool) (marketSlug : Option String) (generation : ℤ) :
    wsPriceTriggerStepIdempotencyKey runId nodeKey condition price dedupeTs true onceScopeMarket
        marketSlug generation =
      onceScopeKey s!"ws-once:{runId}:{nodeKey}" onceScopeMarket marketSlug generation := rfl

end PolymarketBot.Flow
