import PolymarketBot.PriceToBeat.StopLoss

/-! The prices of the Chainlink stream: what is kept of each symbol, and what is read of it at an
instant and over a window. Prices are exact rationals, instants are milliseconds. -/

namespace PolymarketBot.Chainlink
open PriceToBeat

def maxPriceAgeSecs : ℤ := 30
def staleReconnectRequestCooldownSecs : ℤ := 10
def maxTickHistoryAgeSecs : ℤ := 4 * 60 * 60
def maxTickHistorySamplesPerSymbol : ℕ := 20000
def ptbStartTickMaxPastToleranceMs : ℤ := 2000
def ptbStartTickMaxFutureToleranceMs : ℤ := 2000

structure CachedPrice where
  value : ℚ
  timestampMs : ℤ
  receivedAtMs : ℤ
  deriving DecidableEq

structure SymbolPriceState where
  latest : Option CachedPrice := none
  ticks : List CachedPrice := []
  lastReceivedAtMs : Option ℤ := none

structure ChainlinkPriceService where
  state : String → Option SymbolPriceState := fun _ => none
  lastError : Option String := none
  dirtyAssets : List String := []
  reconnectRequested : Bool := false
  lastReconnectRequestAtMs : ℤ := 0
  lastSuccessfulTickAtMs : ℤ := 0

def diffMs (laterMs earlierMs : ℤ) : ℤ := max (laterMs - earlierMs) 0

/-! ### Symbols -/

def supportedRtdsSymbols : List String :=
  ["btc/usd", "eth/usd", "sol/usd", "xrp/usd", "doge/usd", "bnb/usd", "hype/usd"]

def assetToSymbol (asset : String) : Option String :=
  match normalizedText asset with
  | "btc" => some "btc/usd"
  | "eth" => some "eth/usd"
  | "sol" => some "sol/usd"
  | "xrp" => some "xrp/usd"
  | "doge" | "dogecoin" => some "doge/usd"
  | "bnb" => some "bnb/usd"
  | "hype" | "hyperliquid" => some "hype/usd"
  | _ => none

def symbolToAsset (symbol : String) : Option String :=
  match normalizedText symbol with
  | "btc/usd" => some "btc"
  | "eth/usd" => some "eth"
  | "sol/usd" => some "sol"
  | "xrp/usd" => some "xrp"
  | "doge/usd" => some "doge"
  | "bnb/usd" => some "bnb"
  | "hype/usd" => some "hype"
  | _ => none

/-- The symbols are matched without regard to case, but kept as they were given. -/
def isSupportedSymbol (symbol : String) : Bool :=
  supportedRtdsSymbols.any fun candidate =>
    candidate.toList.map Char.toLower = symbol.toList.map Char.toLower

/-! ### What the stream gives -/

/-- The last tick is replaced by one of its time; an older tick is left out. -/
def pushTick (ticks : List CachedPrice) (tick : CachedPrice) : List CachedPrice :=
  match ticks.getLast? with
  | none => [tick]
  | some lastTick =>
    if lastTick.timestampMs = tick.timestampMs then ticks.dropLast ++ [tick]
    else if lastTick.timestampMs < tick.timestampMs then ticks ++ [tick]
    else ticks

def newestSamples (ticks : List CachedPrice) : List CachedPrice :=
  ticks.drop (ticks.length - maxTickHistorySamplesPerSymbol)

def SymbolPriceState.updatePrice (entry : SymbolPriceState) (tick : CachedPrice) :
    SymbolPriceState :=
  let cutoffMs := tick.timestampMs - maxTickHistoryAgeSecs * 1000
  { latest :=
      if entry.latest.all fun latest => latest.timestampMs ≤ tick.timestampMs then some tick
      else entry.latest
    ticks := newestSamples ((pushTick entry.ticks tick).dropWhile fun sample =>
      sample.timestampMs < cutoffMs)
    lastReceivedAtMs := some tick.receivedAtMs }

/-- `by_timestamp.insert` of the map that is sorted by time. -/
def insertByTimestamp (tick : CachedPrice) : List CachedPrice → List CachedPrice
  | [] => [tick]
  | other :: rest =>
    if tick.timestampMs < other.timestampMs then tick :: other :: rest
    else if other.timestampMs = tick.timestampMs then tick :: rest
    else other :: insertByTimestamp tick rest

def mergeHistoryTicks (entry : SymbolPriceState) (ticks : List CachedPrice) : List CachedPrice :=
  let sourcesMs := ((entry.latest.map CachedPrice.timestampMs).toList ++
    (ticks.getLast?.map CachedPrice.timestampMs).toList)
  let cutoffMs := (sourcesMs.max?.getD 0) - maxTickHistoryAgeSecs * 1000
  newestSamples (((entry.ticks ++ ticks).filter fun tick => cutoffMs ≤ tick.timestampMs).foldl
    (fun byTimestamp tick => insertByTimestamp tick byTimestamp) [])

def shouldReplaceLatest : Option CachedPrice → Option CachedPrice → Bool
  | _, none => false
  | none, some _ => true
  | some existing, some candidate => existing.timestampMs ≤ candidate.timestampMs

def SymbolPriceState.updatePriceHistory (entry : SymbolPriceState) (ticks : List CachedPrice)
    (receivedAtMs : ℤ) : SymbolPriceState where
  latest := if shouldReplaceLatest entry.latest ticks.getLast? then ticks.getLast? else entry.latest
  ticks := mergeHistoryTicks entry ticks
  lastReceivedAtMs := some receivedAtMs

namespace ChainlinkPriceService
variable (service : ChainlinkPriceService)

def entryOf (symbol : String) : SymbolPriceState := (service.state symbol).getD {}

/-- What an update of a symbol leaves behind besides its prices. -/
def updated (symbol : String) (entry : SymbolPriceState) (receivedAtMs : ℤ) :
    ChainlinkPriceService :=
  { service with
    state := Function.update service.state symbol (some entry)
    lastError := none
    dirtyAssets := (symbolToAsset symbol).toList ∪ service.dirtyAssets
    lastSuccessfulTickAtMs := receivedAtMs }

/-- The flag tells whether the price was taken in. -/
def ingestChainlinkLiveDataPrice (symbol : String) (value : ℚ) (timestampMs receivedAtMs : ℤ) :
    Bool × ChainlinkPriceService :=
  if isSupportedSymbol symbol && 0 < value then
    (true, service.updated symbol
      ((service.entryOf symbol).updatePrice { value, timestampMs, receivedAtMs }) receivedAtMs)
  else (false, service)

/-- The samples of a batch that are taken in, in the order of their times. -/
def historyTicks (samples : List (ℚ × ℤ)) (receivedAtMs : ℤ) : List CachedPrice :=
  ((samples.filter fun sample => 0 < sample.1).map fun sample =>
    ({ value := sample.1, timestampMs := sample.2, receivedAtMs } : CachedPrice)).mergeSort
      fun a b => a.timestampMs ≤ b.timestampMs

/-- The number tells how many samples were taken in. -/
def ingestChainlinkLiveDataPriceHistory (symbol : String) (samples : List (ℚ × ℤ))
    (receivedAtMs : ℤ) : ℕ × ChainlinkPriceService :=
  let ticks := historyTicks samples receivedAtMs
  if isSupportedSymbol symbol && !ticks.isEmpty then
    (ticks.length, service.updated symbol
      ((service.entryOf symbol).updatePriceHistory ticks receivedAtMs) receivedAtMs)
  else (0, service)

def requestReconnectIfCooldownElapsed (nowMs : ℤ) : Bool × ChainlinkPriceService :=
  if 0 < service.lastReconnectRequestAtMs ∧
      diffMs nowMs service.lastReconnectRequestAtMs < staleReconnectRequestCooldownSecs * 1000 then
    (false, service)
  else (true, { service with lastReconnectRequestAtMs := nowMs, reconnectRequested := true })

end ChainlinkPriceService

/-! ### Refusals and their texts -/

structure ChainlinkStalePriceDetails where
  providerAgeMs : ℤ
  receiveAgeMs : ℤ
  providerTimestampMs : ℤ
  receivedAtMs : ℤ
  deriving DecidableEq

structure ChainlinkNearTimestampRejectionDetails where
  gapMs : ℤ
  providerAgeMs : ℤ
  candidateTimestampMs : ℤ
  candidateReceivedAtMs : ℤ
  deriving DecidableEq

inductive ChainlinkError where
  | unsupportedAsset (asset : String)
  | noCachedPrice (symbol : String) (lastError : Option String)
  | stalePrice (symbol : String) (details : ChainlinkStalePriceDetails) (lastError : Option String)
  | pastTooOld (symbol : String) (details : ChainlinkNearTimestampRejectionDetails)
  | noneNearTimestamp (symbol : String) (targetMs : ℤ)
  | futureTooFar (symbol : String) (diffMs : ℤ)
  | invalidWindow (startMs endMs : ℤ)
  | windowOpen (source : ChainlinkError)
  | windowClose (source : ChainlinkError)
  | invalidSampleRange (startMs endMs : ℤ)
  | noCachedSamples (symbol : String)
  deriving DecidableEq

def withLastError (base : String) : Option String → String
  | none => base
  | some lastError => s!"{base}; last ws error: {lastError}"

def stalePriceText (symbol : String) (details : ChainlinkStalePriceDetails) : String :=
  s!"stale price for {symbol}: {details.providerAgeMs / 1000}s old " ++
    s!"(provider_age_ms={details.providerAgeMs}, receive_age_ms={details.receiveAgeMs}, " ++
    s!"provider_timestamp_ms={details.providerTimestampMs}, received_at_ms={details.receivedAtMs})"

def pastTooOldText (symbol : String) (details : ChainlinkNearTimestampRejectionDetails) : String :=
  s!"no cached price near timestamp for {symbol}: closest past tick is {details.gapMs}ms away " ++
    s!"(gap_ms={details.gapMs}, provider_age_ms={details.providerAgeMs}, " ++
    s!"candidate_timestamp_ms={details.candidateTimestampMs}, " ++
    s!"candidate_received_at_ms={details.candidateReceivedAtMs})"

def ChainlinkError.message : ChainlinkError → String
  | unsupportedAsset asset => s!"unsupported asset: {asset}"
  | noCachedPrice symbol lastError => withLastError s!"no cached price for {symbol}" lastError
  | stalePrice symbol details lastError => withLastError (stalePriceText symbol details) lastError
  | pastTooOld symbol details => pastTooOldText symbol details
  | noneNearTimestamp symbol targetMs =>
    s!"no cached price near timestamp for {symbol}: target_ms={targetMs}"
  | futureTooFar symbol diffMs =>
    s!"no cached price near timestamp for {symbol}: first future tick is {diffMs}ms away"
  | invalidWindow startMs endMs =>
    s!"invalid chainlink window stats range: start_ms={startMs}, end_ms={endMs}"
  | windowOpen _ => "resolving chainlink window open tick"
  | windowClose _ => "resolving chainlink window close tick"
  | invalidSampleRange startMs endMs =>
    s!"invalid chainlink sample range: start_ms={startMs}, end_ms={endMs}"
  | noCachedSamples symbol => s!"no cached chainlink samples for {symbol}"

/-! ### Readings -/

/-- The best sample up to the target and the best after it, once one more is seen. -/
def pickNearest (targetMs : ℤ) (best : Option CachedPrice × Option CachedPrice)
    (sample : CachedPrice) : Option CachedPrice × Option CachedPrice :=
  if sample.timestampMs ≤ targetMs then
    if best.1.all fun current => current.timestampMs < sample.timestampMs then
      (some sample, best.2)
    else best
  else if best.2.all fun current => sample.timestampMs < current.timestampMs then
    (best.1, some sample)
  else best

/-- The newest sample that is not later than the target, and the first one that is. -/
def nearestTicks (targetMs : ℤ) (samples : List CachedPrice) :
    Option CachedPrice × Option CachedPrice :=
  samples.foldl (pickNearest targetMs) (none, none)

def SymbolPriceState.latestTracked (entry : SymbolPriceState) (latest : CachedPrice) : Bool :=
  entry.ticks.getLast?.any fun tick => tick.timestampMs = latest.timestampMs

/-- The ticks, and the latest price where it is not the last of them. -/
def SymbolPriceState.readTicks (entry : SymbolPriceState) : List CachedPrice :=
  entry.ticks ++ entry.latest.toList.filter fun latest => !entry.latestTracked latest

structure ChainlinkPriceWindowStats where
  openPrice : ℚ
  highPrice : ℚ
  lowPrice : ℚ
  closePrice : ℚ
  sampleCount : ℕ
  deriving DecidableEq

def pushSample (samples : List CachedPrice) (sample : CachedPrice) : List CachedPrice :=
  if samples.any fun seen => seen.timestampMs = sample.timestampMs then samples
  else samples ++ [sample]

namespace ChainlinkPriceService
variable (service : ChainlinkPriceService)

/-- A price that is too old asks for a new connection. -/
def getPrice (asset : String) (nowMs : ℤ) : Except ChainlinkError ℚ × ChainlinkPriceService :=
  match assetToSymbol asset with
  | none => (.error (.unsupportedAsset asset), service)
  | some symbol =>
    match (service.state symbol).bind fun entry => entry.latest.map fun cached => (entry, cached) with
    | none => (.error (.noCachedPrice symbol service.lastError), service)
    | some (entry, cached) =>
      let providerAgeMs := diffMs nowMs cached.timestampMs
      let receivedAtMs := entry.lastReceivedAtMs.getD cached.receivedAtMs
      if maxPriceAgeSecs < providerAgeMs / 1000 then
        (.error (.stalePrice symbol
            { providerAgeMs, receiveAgeMs := diffMs nowMs receivedAtMs
              providerTimestampMs := cached.timestampMs, receivedAtMs } service.lastError),
          (service.requestReconnectIfCooldownElapsed nowMs).2)
      else (.ok cached.value, service)

def getPriceNearTimestampWithTolerance (asset : String)
    (targetMs maxPastToleranceMs maxFutureToleranceMs nowMs : ℤ) :
    Except ChainlinkError CachedPrice :=
  match assetToSymbol asset with
  | none => .error (.unsupportedAsset asset)
  | some symbol =>
    match service.state symbol with
    | none => .error (.noCachedPrice symbol service.lastError)
    | some entry =>
      match nearestTicks targetMs entry.readTicks with
      | (some sample, _) =>
        if maxPastToleranceMs < targetMs - sample.timestampMs then
          .error (.pastTooOld symbol
            { gapMs := targetMs - sample.timestampMs
              providerAgeMs := diffMs nowMs sample.timestampMs
              candidateTimestampMs := sample.timestampMs
              candidateReceivedAtMs := sample.receivedAtMs })
        else .ok sample
      | (none, none) => .error (.noneNearTimestamp symbol targetMs)
      | (none, some sample) =>
        if maxFutureToleranceMs < sample.timestampMs - targetMs then
          .error (.futureTooFar symbol (sample.timestampMs - targetMs))
        else .ok sample

end ChainlinkPriceService

/-- The samples of a window between its open and its close. -/
def windowSamples (entry : SymbolPriceState) (openTick closeTick : CachedPrice) (endMs : ℤ) :
    List CachedPrice :=
  let within (sample : CachedPrice) : Bool :=
    openTick.timestampMs ≤ sample.timestampMs && sample.timestampMs ≤ endMs
  ([openTick] ++ entry.ticks.filter within ++ entry.latest.toList.filter within ++ [closeTick]).foldl
    pushSample []

/-- The open is among the samples, so that the extremes start from it. -/
def windowStats (samples : List CachedPrice) (openTick closeTick : CachedPrice) :
    ChainlinkPriceWindowStats where
  openPrice := openTick.value
  highPrice := (samples.map CachedPrice.value).foldl max openTick.value
  lowPrice := (samples.map CachedPrice.value).foldl min openTick.value
  closePrice := closeTick.value
  sampleCount := samples.length

/-- The open, the close and the samples are read one after another, and updates may come between. -/
def getWindowStats (openService closeService service : ChainlinkPriceService) (asset : String)
    (startMs endMs nowMs : ℤ) : Except ChainlinkError ChainlinkPriceWindowStats := do
  if endMs ≤ startMs then .error (.invalidWindow startMs endMs)
  let openTick ← (openService.getPriceNearTimestampWithTolerance asset startMs
    ptbStartTickMaxPastToleranceMs ptbStartTickMaxFutureToleranceMs nowMs).mapError .windowOpen
  let closeTick ← (closeService.getPriceNearTimestampWithTolerance asset endMs
    (maxPriceAgeSecs * 1000) 0 nowMs).mapError .windowClose
  let some symbol := assetToSymbol asset | .error (.unsupportedAsset asset)
  let some entry := service.state symbol | .error (.noCachedPrice symbol service.lastError)
  return windowStats (windowSamples entry openTick closeTick endMs) openTick closeTick

/-! ### What is given over time -/

inductive FeedEvent where
  | price (symbol : String) (value : ℚ) (timestampMs receivedAtMs : ℤ)
  | history (symbol : String) (samples : List (ℚ × ℤ)) (receivedAtMs : ℤ)
  | error (text : String)

def ChainlinkPriceService.step (service : ChainlinkPriceService) : FeedEvent → ChainlinkPriceService
  | .price symbol value timestampMs receivedAtMs =>
    (service.ingestChainlinkLiveDataPrice symbol value timestampMs receivedAtMs).2
  | .history symbol samples receivedAtMs =>
    (service.ingestChainlinkLiveDataPriceHistory symbol samples receivedAtMs).2
  | .error text => { service with lastError := some text }

end PolymarketBot.Chainlink
