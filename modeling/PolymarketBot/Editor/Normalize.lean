import PolymarketBot.Editor.Graph

/-! How a graph is brought into normal form each time it is saved, read and published. -/

namespace PolymarketBot.Editor
open PolymarketBot.Flow Lib

def hasField (key : String) (config : Fields) : Bool := (field key config).isSome

/-! ### Order presets -/

def isQuickPresetBuySellPlaceOrderConfig (config : Fields) : Bool :=
  let presetKindRaw := loweredString (field "presetKind" config)
  let refKeyRaw := loweredString (field "refKey" config)
  presetKindRaw = "sell_current_position" || presetKindRaw = "buy_current_position" ||
    refKeyRaw = "preset_sell_current_position" || refKeyRaw = "preset_buy_current_position"

@[irreducible] def isGenericPlaceOrderPresetConfig (config : Fields) : Bool :=
  if isQuickPresetBuySellPlaceOrderConfig config then false
  else
    loweredString (field "presetKind" config) = "place_order" ||
      loweredString (field "refKey" config) = "preset_place_order"

/-- A generic preset refers to itself: it is given its own key when it has none, the preset's, or
that of another node. -/
@[irreducible] def normalizePlaceOrderPresetRefKey (nodeKey : String) (config : Fields)
    (knownNodeKeys : List String) : Fields :=
  let refKeyRaw := toTrimmedString (field "refKey" config)
  if isQuickPresetBuySellPlaceOrderConfig config then config
  else if !isGenericPlaceOrderPresetConfig config then config
  else if refKeyRaw = "" ∨ lowercase refKeyRaw = "preset_place_order" then
    setField "refKey" (.string nodeKey) config
  else if refKeyRaw ≠ nodeKey ∧ refKeyRaw ∈ knownNodeKeys then
    setField "refKey" (.string nodeKey) config
  else config

def syncMarketSlug (marketSlug : String) (config : Fields) : Fields :=
  if toTrimmedString (field "marketSlug" config) ≠ marketSlug then
    setField "marketSlug" (.string marketSlug) config
  else config

def singleMarket (resolution : FixedTriggerMarketResolution) : Option String :=
  match resolution.kind with
  | .single => filled resolution.marketSlug
  | _ => none

def singleOutcome (resolution : FixedTriggerMarketResolution) : Option (String × String) :=
  match resolution.outcomeKind, resolution.tokenId, resolution.outcomeLabel with
  | .single, some tokenId, some outcomeLabel => some (tokenId, outcomeLabel)
  | _, _, _ => none

/-- A single outcome is taken over; otherwise the preset names none. -/
def syncOutcome (resolution : FixedTriggerMarketResolution) (config : Fields) : Fields :=
  match singleOutcome resolution with
  | some (tokenId, outcomeLabel) =>
    if toTrimmedString (field "tokenId" config) ≠ tokenId ∨
        toTrimmedString (field "outcomeLabel" config) ≠ outcomeLabel then
      setField "outcomeLabel" (.string outcomeLabel) (setField "tokenId" (.string tokenId) config)
    else config
  | none =>
    if hasField "tokenId" config || hasField "outcomeLabel" config then
      dropField "outcomeLabel" (dropField "tokenId" config)
    else config

/-- Below a trigger that finds its market itself, a generic preset names no market. -/
def syncAutoScope (config : Fields) : Fields :=
  if hasField "marketSlug" config || hasField "tokenId" config || hasField "outcomeLabel" config then
    dropField "outcomeLabel" (dropField "tokenId" (dropField "marketSlug" config))
  else config

@[irreducible] def syncPresetMarket (graph : TradeFlowGraph) (nodeKey : String) (config : Fields) : Fields :=
  let resolution := resolveUpstreamFixedTriggerMarket nodeKey graph
  match singleMarket resolution with
  | some marketSlug => syncOutcome resolution (syncMarketSlug marketSlug config)
  | none =>
    if hasUpstreamAutoScopeMarketTrigger nodeKey graph then syncAutoScope config else config

def normalizePresetPlaceOrderNode (graph : TradeFlowGraph) (node : TradeFlowNode) : TradeFlowNode :=
  if node.type ≠ "action.place_order" then node
  else
    let config := normalizePlaceOrderPresetRefKey node.key node.config
      (graph.nodes.map fun node => node.key)
    { node with
      config :=
        if isGenericPlaceOrderPresetConfig config then syncPresetMarket graph node.key config
        else config }

def normalizePresetPlaceOrderNodes (graph : TradeFlowGraph) : TradeFlowGraph :=
  { graph with nodes := graph.nodes.map (normalizePresetPlaceOrderNode graph) }

/-! ### Triggers -/

def toStringValue : Option Value → String
  | some (.string s) => s
  | some (.number n) => numberText n
  | some (.bool b) => toString b
  | _ => ""

/-- `Number(toStringValue(value).trim())` where it is whole; a number's text stands for the
number, and a missing value for zero. -/
def toInteger (value : Option Value) : Option ℤ :=
  let raw := match value with
    | some (.number n) => some n.asF64
    | value => toNumber (scriptTrim (toStringValue value))
  (raw.filter fun q => q.den = 1).map fun q => q.num

def dropFields (keys : List String) (config : Fields) : Fields :=
  keys.foldl (fun config key => dropField key config) config

def isTrue : Option Value → Bool
  | some (.bool b) => b
  | _ => false

/-- The seconds of a window at the start or the end of a cycle. -/
def edgeSecs (config : Fields) : Option ℤ :=
  (toInteger (field "cycleWindowSecs" config)).filter fun secs => 0 < secs

def customRange (config : Fields) : Option (ℤ × ℤ) :=
  match toInteger (field "cycleWindowStartSec" config),
      toInteger (field "cycleWindowEndSec" config) with
  | some startSec, some endSec =>
    if 0 ≤ startSec ∧ startSec < endSec then some (startSec, endSec) else none
  | _, _ => none

def normalizeEdgeWindow (mode : String) (config : Fields) : Fields :=
  dropFields ["cycleWindowStartSec", "cycleWindowEndSec", "autoSellOnWindowEnd"]
    (match edgeSecs config with
    | some cycleWindowSecs =>
      setField "cycleWindowSecs" (jsonI64 cycleWindowSecs)
        (setField "cycleWindowMode" (.string mode) config)
    | none => dropFields ["cycleWindowMode", "cycleWindowSecs"] config)

def normalizeRangeWindow (config : Fields) : Fields :=
  let config := dropField "cycleWindowSecs"
    (match customRange config with
    | some (startSec, endSec) =>
      setField "cycleWindowEndSec" (jsonI64 endSec)
        (setField "cycleWindowStartSec" (jsonI64 startSec)
          (setField "cycleWindowMode" (.string "custom_range") config))
    | none =>
      dropFields ["cycleWindowMode", "cycleWindowStartSec", "cycleWindowEndSec"] config)
  if isTrue (field "autoSellOnWindowEnd" config) then config
  else dropField "autoSellOnWindowEnd" config

def windowMode (config : Fields) : String :=
  lowercase (scriptTrim (toStringValue (field "cycleWindowMode" config)))

def normalizeTriggerMarketPriceCycleWindowConfig (config : Fields) : Fields :=
  let cycleWindowModeRaw := windowMode config
  if cycleWindowModeRaw = "first" ∨ cycleWindowModeRaw = "last" then
    normalizeEdgeWindow cycleWindowModeRaw config
  else if cycleWindowModeRaw = "custom_range" then normalizeRangeWindow config
  else
    dropFields ["cycleWindowMode", "cycleWindowSecs", "cycleWindowStartSec", "cycleWindowEndSec",
      "autoSellOnWindowEnd"] config

def validPriceModes : List String :=
  ["composite", "midpoint", "raw", "last_trade", "site_display", "best_bid", "best_ask"]

def bindingModes : List String :=
  ["pair_lock_only", "dca_live_only", "positive_quantity_flip_grid_only", "revenge_flip_only",
    "confidence_ladder_only", "avg_rebound_pairlock_rescue_only"]

def oneOf (modes : List String) (fallback mode : String) : String :=
  if mode ∈ modes then mode else fallback

def normalizeTriggerConfig (config : Fields) : Fields :=
  setField "bindingMode" (.string (oneOf bindingModes "standard"
      (loweredString (field "bindingMode" config))))
    (setField "priceMode" (.string (oneOf validPriceModes "composite"
        (loweredString (field "priceMode" config))))
      (normalizeTriggerMarketPriceCycleWindowConfig config))

def normalizeNodeConfig (nodeKey nodeType : String) (config : Fields) : Fields :=
  if nodeType = "action.place_order" then normalizePlaceOrderPresetRefKey nodeKey config []
  else if nodeType ≠ "trigger.market_price" then config
  else normalizeTriggerConfig config

/-! ### The graph -/

def toNode (raw : Value) : Option TradeFlowNode :=
  let keyRaw := scriptTrim (textOrEmpty (raw.get "key"))
  let typeRaw := scriptTrim (textOrEmpty (raw.get "type"))
  if !raw.isObject || keyRaw = "" || typeRaw = "" then none
  else
    some
      { key := keyRaw
        type := typeRaw
        config := normalizeNodeConfig keyRaw typeRaw (recordOrEmpty (raw.get "config")) }

def orText (s fallback : String) : String := if s = "" then fallback else s

def textOr (fallback : String) (v : Option Value) : String :=
  match v with
  | none | some .null => fallback
  | v => textOrEmpty v

def toEdge (raw : Value) (idx : ℕ) : Option TradeFlowEdge :=
  let sourceRaw := scriptTrim (textOrEmpty (raw.get "source"))
  let targetRaw := scriptTrim (textOrEmpty (raw.get "target"))
  if !raw.isObject || sourceRaw = "" || targetRaw = "" then none
  else
    some
      { key := orText (scriptTrim (textOrEmpty (raw.get "key"))) s!"edge_{idx + 1}"
        source := sourceRaw
        target := targetRaw
        type := orText (scriptTrim (textOr "default" (raw.get "type"))) "default"
        condition := (raw.get "condition").bind fun condition =>
          if condition.isObject then some condition.fields else none }

/-- The graph as its nodes and edges are read one by one. -/
def readGraph (graphJson : Value) : TradeFlowGraph where
  context := recordOrEmpty (graphJson.get "context")
  nodes := (arrayItems (graphJson.get "nodes")).filterMap toNode
  edges := (arrayItems (graphJson.get "edges")).zipIdx.filterMap fun row => toEdge row.1 row.2

def normalizeTradeFlowGraph (graphJson : Value) : TradeFlowGraph :=
  if graphJson.isObject then normalizePresetPlaceOrderNodes (readGraph graphJson) else {}

/-! ### The graph as JSON -/

def TradeFlowNode.toJson (node : TradeFlowNode) : Value :=
  .object [("key", .string node.key), ("type", .string node.type), ("config", .object node.config)]

def TradeFlowEdge.toJson (edge : TradeFlowEdge) : Value :=
  .object [("key", .string edge.key), ("source", .string edge.source),
    ("target", .string edge.target), ("type", .string edge.type),
    ("condition", (edge.condition.map Value.object).getD .null)]

def TradeFlowGraph.toJson (graph : TradeFlowGraph) : Value :=
  .object [("context", .object graph.context),
    ("nodes", .array (graph.nodes.map TradeFlowNode.toJson)),
    ("edges", .array (graph.edges.map TradeFlowEdge.toJson))]

end PolymarketBot.Editor
