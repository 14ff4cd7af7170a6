import PolymarketBot.Exchange.TradePage

/-! What a message of the market channel says of a token, and the snapshot that the cache keeps
of it. -/

namespace PolymarketBot.MarketFeed
open PolymarketBot.Flow Exchange

structure MarketDataSnapshot where
  bestBid : Option ℚ := none
  bestAsk : Option ℚ := none
  bestBidSize : Option ℚ := none
  bestAskSize : Option ℚ := none
  lastTradePrice : Option ℚ := none
  updatedAtMs : ℤ := 0
  lastSource : String := ""
  deriving DecidableEq, Inhabited

structure MarketSnapshotUpdate where
  tokenId : String
  bestBid : Option ℚ
  bestAsk : Option ℚ
  bestBidSize : Option ℚ
  bestAskSize : Option ℚ
  lastTradePrice : Option ℚ
  updatedAtMs : ℤ
  source : String
  deriving DecidableEq

structure MarketTradeTick where
  tokenId : String
  market : Option String
  price : ℚ
  size : ℚ
  side : Option String
  timestampMs : ℤ
  sourceId : Option String

inductive MarketSnapshotWsState where
  | seeded | stale | subscribedUnseeded | notSubscribed
  deriving DecidableEq, Repr

structure MarketSnapshotIntrospection where
  state : MarketSnapshotWsState
  desired : Bool
  snapshot : Option MarketDataSnapshot

/-! ### Messages -/

def parseNumber (value : Option Value) : Option ℚ := value.bind parseF64Value

def parseI64Member : Option Value → Option ℤ
  | some (.number (.int z)) => if -2 ^ 63 ≤ z ∧ z < 2 ^ 63 then some z else none
  | some (.string s) => parseI64 s
  | _ => none

/-- The price and the size of the best level of one side of a book. -/
def parseBookTopLevel (value : Option Value) : Option ℚ × Option ℚ :=
  match (asArray value).head? with
  | some (.array items) => (parseNumber items[0]?, parseNumber items[1]?)
  | some (.object fields) =>
    (parseNumber (valueOf (.object fields) ["price", "p"]),
      parseNumber (valueOf (.object fields) ["size", "s", "quantity"]))
  | _ => (none, none)

def payloadEventName (payload : Value) : String :=
  ((valueOf payload ["event_type", "type"]).bind Value.asStr).getD "unknown"

def payloadTimestamp (payload : Value) (fallbackTs : ℤ) : ℤ :=
  (parseI64Member (valueOf payload ["timestamp", "ts"])).getD fallbackTs

/-- An asset id; what begins with `0x` is a condition. -/
def payloadTokenId (payload : Value) (keys : List String) : Option String :=
  (((valueOf payload keys).bind Value.asStr).map trim).filter fun id =>
    id ≠ "" ∧ ¬ startsWith "0x" id

def extractSnapshotUpdate (payload : Value) (fallbackTs : ℤ) (defaultSource : String) :
    Option MarketSnapshotUpdate :=
  (payloadTokenId payload ["asset_id", "assetId", "market"]).bind fun tokenId =>
    let bookBid := parseBookTopLevel (payload.get "bids")
    let bookAsk := parseBookTopLevel (payload.get "asks")
    let bestBid := (parseNumber (valueOf payload ["best_bid", "bestBid", "bid"])).or bookBid.1
    let bestAsk := (parseNumber (valueOf payload ["best_ask", "bestAsk", "ask"])).or bookAsk.1
    let bestBidSize :=
      (parseNumber (valueOf payload ["best_bid_size", "bestBidSize", "bid_size", "bidSize"])).or
        bookBid.2
    let bestAskSize :=
      (parseNumber (valueOf payload ["best_ask_size", "bestAskSize", "ask_size", "askSize"])).or
        bookAsk.2
    let eventName := payloadEventName payload
    let lastTradePrice :=
      if eventName ∈ ["last_trade_price", "trade", "fill", "price_changes"] then
        parseNumber (payload.get "price")
      else none
    if bestBid.isNone ∧ bestAsk.isNone ∧ bestBidSize.isNone ∧ bestAskSize.isNone ∧
        lastTradePrice.isNone then none
    else some
      { tokenId, bestBid, bestAsk, bestBidSize, bestAskSize, lastTradePrice
        updatedAtMs := payloadTimestamp payload fallbackTs
        source := if eventName = "unknown" then defaultSource else eventName }

def extractMarketTradeTick (payload : Value) (fallbackTs : ℤ) : Option MarketTradeTick := do
  if payloadEventName payload ∉ ["last_trade_price", "trade", "fill"] then none
  let tokenId ← payloadTokenId payload ["asset_id", "assetId"]
  let price ← parseNumber (payload.get "price")
  let size ← parseNumber (payload.get "size")
  if price ≤ 0 ∨ size ≤ 0 then none
  some
    { tokenId, price, size
      market := (valueOf payload ["market", "condition_id", "conditionId"]).bind Value.asStr
      side := (payload.get "side").bind Value.asStr
      timestampMs := payloadTimestamp payload fallbackTs
      sourceId := (valueOf payload
        ["id", "trade_id", "tradeId", "transaction_hash", "transactionHash", "hash"]).bind
          Value.asStr }

/-- The updates of a message that arrives at `now`: its own, then those of its `price_changes`. -/
def payloadUpdates (now : ℤ) (payload : Value) : List MarketSnapshotUpdate :=
  let fallbackTs := payloadTimestamp payload now
  (extractSnapshotUpdate payload fallbackTs (payloadEventName payload)).toList ++
    (asArray (payload.get "price_changes")).filterMap fun change =>
      extractSnapshotUpdate change fallbackTs "price_changes"

def payloadTradeTicks (now : ℤ) (payload : Value) : List MarketTradeTick :=
  let fallbackTs := payloadTimestamp payload now
  (extractMarketTradeTick payload fallbackTs).toList ++
    (asArray (payload.get "price_changes")).filterMap fun change =>
      extractMarketTradeTick change fallbackTs

/-! ### The cache -/

abbrev MarketCache := String → Option MarketDataSnapshot

/-- A field that the update leaves open keeps its value; the time and the source never do. -/
def MarketDataSnapshot.apply (entry : MarketDataSnapshot) (update : MarketSnapshotUpdate) :
    MarketDataSnapshot where
  bestBid := update.bestBid.or entry.bestBid
  bestAsk := update.bestAsk.or entry.bestAsk
  bestBidSize := update.bestBidSize.or entry.bestBidSize
  bestAskSize := update.bestAskSize.or entry.bestAskSize
  lastTradePrice := update.lastTradePrice.or entry.lastTradePrice
  updatedAtMs := update.updatedAtMs
  lastSource := update.source

def writeUpdates (cache : MarketCache) (updates : List MarketSnapshotUpdate) : MarketCache :=
  updates.foldl (fun cache update => Function.update cache update.tokenId
    (some (((cache update.tokenId).getD default).apply update))) cache

/-- `inspect_market_snapshot` for a snapshot and whether the token is desired. -/
def inspectMarketSnapshot (now staleAfterMs : ℤ) (desired : Bool)
    (snapshot : Option MarketDataSnapshot) : MarketSnapshotIntrospection where
  state := match snapshot with
    | some snapshot =>
      if now - snapshot.updatedAtMs ≤ staleAfterMs then .seeded else .stale
    | none => if desired then .subscribedUnseeded else .notSubscribed
  desired := desired
  snapshot := snapshot

end PolymarketBot.MarketFeed
