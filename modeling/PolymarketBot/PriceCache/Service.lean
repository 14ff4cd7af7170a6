import PolymarketBot.Chainlink.Prices
import PolymarketBot.Flow.CycleWindow
import PolymarketBot.Lib.Threads

/-! The service that caches the price to beat of each market: what seeds it, what looks it up, and the
fetch that verifies it behind them. -/

namespace PolymarketBot.PriceCache
open PolymarketBot.Flow Lib Prog

inductive PriceToBeatSource where
  | polymarket
  | chainlinkRtdsPreviousClose
  | chainlinkRtdsStartTick
  deriving DecidableEq

structure PriceToBeatQuerySpec where
  marketSlug : String
  asset : String
  timeframe : String
  queryTimeframe : String
  startAt : ℤ
  endAt : ℤ
  deriving DecidableEq

structure PolymarketPriceToBeatSnapshot where
  asset : String
  timeframe : String
  priceToBeat : ℚ
  source : PriceToBeatSource
  verified : Bool
  sourceLatencyMs : Option ℤ
  deriving DecidableEq

namespace PolymarketPriceToBeatSnapshot
variable (snapshot : PolymarketPriceToBeatSnapshot)

def isVerifiedPolymarket : Bool := snapshot.source = .polymarket && snapshot.verified

def isLookupReady : Bool :=
  match snapshot.source with
  | .polymarket | .chainlinkRtdsPreviousClose | .chainlinkRtdsStartTick => true

end PolymarketPriceToBeatSnapshot

inductive PriceToBeatLookup where
  | ready (snapshot : PolymarketPriceToBeatSnapshot)
  | pending
  | unavailable (detail : String)

structure CryptoPriceApiResponse where
  openPrice : Option ℚ
  closePrice : Option ℚ
  completed : Bool

def CryptoPriceApiResponse.sanitizedClosePrice (response : CryptoPriceApiResponse) : Option ℚ :=
  response.closePrice.filter fun price => 0 < price

def CryptoPriceApiResponse.verifiedClosePrice (response : CryptoPriceApiResponse) : Option ℚ :=
  if response.completed then response.sanitizedClosePrice else none

/-! ### Markets -/

inductive PriceToBeatError where
  | unsupportedSlug (marketSlug : String)
  | noCycleStart (marketSlug : String)
  | unsupportedPrevious (asset timeframe : String)
  | verificationPending (detail : String)
  | rateLimited (cooldownMs : ℤ) (marketSlug : String)
  | apiFailed (detail : String)
  | noStartTick (detail : String)
  | repository (detail : String)

namespace PriceToBeatError

def message : PriceToBeatError → String
  | unsupportedSlug marketSlug => s!"unsupported updown market slug: {marketSlug}"
  | noCycleStart marketSlug => s!"failed to parse cycle start from market slug: {marketSlug}"
  | unsupportedPrevious asset timeframe =>
    s!"unsupported asset/timeframe for previous price to beat query: {asset}/{timeframe}"
  | verificationPending detail => s!"price to beat awaiting previous window close for {detail}"
  | rateLimited cooldownMs marketSlug =>
    s!"price to beat rate limited for {cooldownMs}ms on {marketSlug}"
  | apiFailed detail | noStartTick detail | repository detail => detail

/-- `is_price_to_beat_rate_limited_error`, which goes by the text's beginning. -/
def isRateLimited : PriceToBeatError → Bool
  | rateLimited _ _ => true
  | _ => false

/-- `is_price_to_beat_query_pending`, which goes by the text's beginning. -/
def isQueryPending : PriceToBeatError → Bool
  | verificationPending _ | rateLimited _ _ => true
  | _ => false

end PriceToBeatError

def toAsciiUppercase (text : String) : String := String.ofList (text.toList.map Char.toUpper)

def toAsciiLowercase (text : String) : String := String.ofList (text.toList.map Char.toLower)

def buildPriceToBeatQuerySpec (marketSlug : String) : Except PriceToBeatError PriceToBeatQuerySpec :=
  match findUpdownScopeBySlug marketSlug with
  | none => .error (.unsupportedSlug marketSlug)
  | some scope =>
    match marketStartTime marketSlug with
    | none => .error (.noCycleStart marketSlug)
    | some start =>
      let startAt := timestampMillis start
      .ok { marketSlug, asset := toAsciiUppercase (scopeAsset scope), timeframe := scope.timeframe
            queryTimeframe := if scope.timeframe = "15m" then "fifteen" else "fiveminute"
            startAt, endAt := startAt + 1000 * updownScopeWindowSeconds scope }

def findUpdownScopeByAssetTimeframe (asset timeframe : String) : Option UpdownScopeDef :=
  supportedUpdownScopeDefs.find? fun scope =>
    scopeAsset scope = toAsciiLowercase (trim asset) &&
      scope.timeframe = toAsciiLowercase (trim timeframe)

def buildPreviousPriceToBeatQuerySpec (spec : PriceToBeatQuerySpec) :
    Except PriceToBeatError PriceToBeatQuerySpec :=
  match findUpdownScopeByAssetTimeframe spec.asset spec.timeframe with
  | none => .error (.unsupportedPrevious spec.asset spec.timeframe)
  | some scope =>
    let startAt := spec.startAt - (spec.endAt - spec.startAt)
    .ok { spec with marketSlug := scope.slugPrefix ++ toString (startAt / 1000), startAt
                    endAt := spec.startAt }

def buildPolymarketSnapshot (spec : PriceToBeatQuerySpec) (priceToBeat : ℚ) (verified : Bool) :
    PolymarketPriceToBeatSnapshot where
  asset := toAsciiLowercase spec.asset
  timeframe := spec.timeframe
  priceToBeat := priceToBeat
  source := .polymarket
  verified := verified
  sourceLatencyMs := none

/-! ### The service and its calls -/

/-- A request for a window is known by its address, which these make up. -/
structure RequestUrl where
  asset : String
  queryTimeframe : String
  startAt : ℤ
  endAt : ℤ
  deriving DecidableEq

def buildCryptoPriceApiUrl (spec : PriceToBeatQuerySpec) : RequestUrl :=
  ⟨spec.asset, spec.queryTimeframe, spec.startAt, spec.endAt⟩

/-- What is in flight stands there with the thread that began it, though only whether there is one is
ever asked. -/
structure PolymarketPriceToBeatService (ι : Type) where
  cache : String → Option PolymarketPriceToBeatSnapshot := fun _ => none
  previousCloseCache : String → Option ℚ := fun _ => none
  fetchInflight : String → Option ι := fun _ => none
  windowFetchInflight : RequestUrl → Option ι := fun _ => none
  terminalFailures : String → Option String := fun _ => none
  rateLimitUntilMs : ℤ := 0
  dirtyMarketSlugs : List String := []

/-- What the crypto-price api answers. -/
inductive CryptoPriceReply where
  | response (response : CryptoPriceApiResponse)
  | tooManyRequests (retryAfterMs : ℤ)
  | failed (detail : String)

/-- What of a stored boundary is read. -/
structure BoundarySnapshot where
  closePrice : Option ℚ
  closeTs : Option ℤ

/-- Each lock is held for one call. -/
inductive PtbCall where
  | currentSnapshot (marketSlug : String)
  | seedSnapshot (marketSlug : String) (snapshot : PolymarketPriceToBeatSnapshot)
  | markDirtyMarketSlug (marketSlug : String)
  | takeTerminalFailure (marketSlug : String)
  | recordTerminalFailure (marketSlug detail : String)
  | beginBackgroundFetch (marketSlug : String)
  | finishBackgroundFetch (marketSlug : String)
  | cachedPreviousClose (marketSlug : String)
  | storePreviousClose (marketSlug : String) (closePrice : ℚ)
  | storeVerifiedSnapshot (marketSlug : String) (snapshot : PolymarketPriceToBeatSnapshot)
  | httpFallbackEnabled
  | rateLimitCooldownRemainingMs
  | armRateLimitCooldown (cooldownMs : ℤ)
  | acquireWindow (url : RequestUrl)
  | releaseWindow (url : RequestUrl)
  | requestCryptoPrice (url : RequestUrl)
  | chainlinkPriceStartTick (asset : String) (targetMs : ℤ)
  | chainlinkPriceWindowStats (asset : String) (startMs endMs : ℤ)
  | boundarySnapshot (marketSlug : String)
  | upsertBoundarySnapshot (marketSlug : String) (stats : Chainlink.ChainlinkPriceWindowStats)

abbrev PtbAnswer : PtbCall → Type
  | .currentSnapshot _ => Option PolymarketPriceToBeatSnapshot
  | .seedSnapshot _ _ => Bool
  | .takeTerminalFailure _ => Option String
  | .beginBackgroundFetch _ => Bool
  | .cachedPreviousClose _ => Option ℚ
  | .httpFallbackEnabled => Bool
  | .rateLimitCooldownRemainingMs => Option ℤ
  | .acquireWindow _ => Bool
  | .requestCryptoPrice _ => CryptoPriceReply
  | .chainlinkPriceStartTick _ _ => Except String (ℚ × ℤ)
  | .chainlinkPriceWindowStats _ _ _ => Option Chainlink.ChainlinkPriceWindowStats
  | .boundarySnapshot _ => Option BoundarySnapshot
  | _ => Unit

abbrev Ptb (α : Type) := Prog PtbCall PtbAnswer PriceToBeatError α

abbrev ask (c : PtbCall) : Ptb (PtbAnswer c) := perform c

def ofExcept {α : Type} : Except PriceToBeatError α → Ptb α
  | .ok a => pure a
  | .error e => .fail e

/-! ### Fetching -/

/-- The guard of the window is dropped at every way out. -/
def fetchCryptoPriceWindowFromApi (spec : PriceToBeatQuerySpec) : Ptb CryptoPriceApiResponse := do
  let url := buildCryptoPriceApiUrl spec
  if ← ask (.acquireWindow url) then
    match ← ask (.requestCryptoPrice url) with
    | .response response =>
      ask (.releaseWindow url)
      pure response
    | .tooManyRequests retryAfterMs =>
      ask (.armRateLimitCooldown retryAfterMs)
      ask (.releaseWindow url)
      .fail (.rateLimited retryAfterMs spec.marketSlug)
    | .failed detail =>
      ask (.releaseWindow url)
      .fail (.apiFailed detail)
  else .fail (.verificationPending s!"{spec.marketSlug} window in-flight")

def storeVerifiedPolymarketSnapshot (marketSlug : String)
    (snapshot : PolymarketPriceToBeatSnapshot) : Ptb Unit := do
  ask (.storeVerifiedSnapshot marketSlug snapshot)
  ask (.markDirtyMarketSlug marketSlug)

/-- `fetch_snapshot_once` of a fetch that only verifies, which every fetch behind a lookup is. -/
def fetchSnapshotOnce (marketSlug : String) : Ptb PolymarketPriceToBeatSnapshot := do
  match (← ask (.currentSnapshot marketSlug)).filter fun snapshot =>
      snapshot.verified && snapshot.isLookupReady with
  | some snapshot => pure snapshot
  | none =>
    let spec ← ofExcept (buildPriceToBeatQuerySpec marketSlug)
    let previousSpec ← ofExcept (buildPreviousPriceToBeatQuerySpec spec)
    match ← ask (.cachedPreviousClose previousSpec.marketSlug) with
    | some priceToBeat =>
      let snapshot := buildPolymarketSnapshot spec priceToBeat true
      storeVerifiedPolymarketSnapshot marketSlug snapshot
      pure snapshot
    | none =>
      if ← ask .httpFallbackEnabled then
        match ← ask .rateLimitCooldownRemainingMs with
        | some cooldownMs => .fail (.rateLimited cooldownMs marketSlug)
        | none =>
          let previousApi ← attempt (fetchCryptoPriceWindowFromApi previousSpec)
          match previousApi with
          | .ok response =>
            match response.verifiedClosePrice with
            | some priceToBeat =>
              let snapshot := buildPolymarketSnapshot spec priceToBeat true
              ask (.storePreviousClose previousSpec.marketSlug priceToBeat)
              storeVerifiedPolymarketSnapshot marketSlug snapshot
              pure snapshot
            | none => .fail (.verificationPending marketSlug)
          | .error err =>
            if err.isRateLimited then .fail err else .fail (.verificationPending marketSlug)
      else .fail (.verificationPending s!"{marketSlug} http fallback disabled")

def bgFetchRetryAttempts : ℕ := 2

/-- The attempts of a fetch, with those that are left; the detail of a failure that ends it. -/
def fetchAttempts (marketSlug : String) : ℕ → Ptb (Option String)
  | 0 => pure none
  | left + 1 => do
    match ← attempt (fetchSnapshotOnce marketSlug) with
    | .ok snapshot =>
      if snapshot.isVerifiedPolymarket then pure none else fetchAttempts marketSlug left
    | .error err =>
      if err.isQueryPending then fetchAttempts marketSlug left else pure (some err.message)

def backgroundFetch (marketSlug : String) : Ptb Unit := do
  match ← fetchAttempts marketSlug (bgFetchRetryAttempts + 1) with
  | some detail => ask (.recordTerminalFailure marketSlug detail)
  | none => pure ()
  ask (.finishBackgroundFetch marketSlug)

/-- The fetch that is spawned goes on in the thread that asked for it, which has nothing more to do. -/
def ensureBackgroundFetch (marketSlug : String) : Ptb Unit := do
  match (← ask (.currentSnapshot marketSlug)).filter fun snapshot =>
      snapshot.verified && snapshot.isLookupReady with
  | some _ => pure ()
  | none =>
    if ← ask .httpFallbackEnabled then
      if ← ask (.beginBackgroundFetch marketSlug) then backgroundFetch marketSlug
      else pure ()
    else pure ()

/-! ### Seeding and looking up -/

def seedSnapshotWithSource (marketSlug asset timeframe : String) (price : ℚ)
    (source : PriceToBeatSource) (sourceLatencyMs : Option ℤ) : Ptb Bool := do
  let seeded ← ask (.seedSnapshot marketSlug
    { asset := toAsciiLowercase asset, timeframe, priceToBeat := price, source, verified := true
      sourceLatencyMs })
  if seeded then ask (.markDirtyMarketSlug marketSlug)
  pure seeded

def trySeedSnapshotFromChainlink (marketSlug : String) :
    Ptb (Option PolymarketPriceToBeatSnapshot) := do
  match (← ask (.currentSnapshot marketSlug)).filter (·.isLookupReady) with
  | some snapshot => pure (some snapshot)
  | none =>
    let spec ← ofExcept (buildPriceToBeatQuerySpec marketSlug)
    match ← ask (.chainlinkPriceStartTick spec.asset spec.startAt) with
    | .error detail => .fail (.noStartTick detail)
    | .ok tick =>
      let _ ← seedSnapshotWithSource marketSlug spec.asset spec.timeframe tick.1
        .chainlinkRtdsStartTick (some |tick.2 - spec.startAt|)
      pure ((← ask (.currentSnapshot marketSlug)).filter (·.isLookupReady))

/-- A snapshot from the market's own page that is not verified would be verified behind the lookup. -/
def readySnapshot (marketSlug : String) (snapshot : PolymarketPriceToBeatSnapshot) :
    Ptb PriceToBeatLookup := do
  if snapshot.source = .polymarket ∧ snapshot.verified = false then
    if ← ask .httpFallbackEnabled then ensureBackgroundFetch marketSlug
  pure (.ready snapshot)

/-- The second look, where nothing could be seeded. -/
def lookAgain (marketSlug : String) : Ptb PriceToBeatLookup := do
  match ← ask (.currentSnapshot marketSlug) with
  | some snapshot =>
    if snapshot.isLookupReady then readySnapshot marketSlug snapshot
    else
      ensureBackgroundFetch marketSlug
      pure .pending
  | none =>
    match ← ask (.takeTerminalFailure marketSlug) with
    | some detail => pure (.unavailable detail)
    | none =>
      ensureBackgroundFetch marketSlug
      pure .pending

def tryCachedOrSpawn (marketSlug : String) : Ptb PriceToBeatLookup := do
  match (← ask (.currentSnapshot marketSlug)).filter (·.isLookupReady) with
  | some snapshot => readySnapshot marketSlug snapshot
  | none =>
    match ← attempt (trySeedSnapshotFromChainlink marketSlug) with
    | .ok (some snapshot) => readySnapshot marketSlug snapshot
    | _ => lookAgain marketSlug

def validPrice (value : Option ℚ) : Option ℚ := value.filter fun price => 0 < price

def ensureCompletedBoundaryFromChainlink (spec : PriceToBeatQuerySpec) : Ptb Unit := do
  let stored ← ask (.boundarySnapshot spec.marketSlug)
  if (stored.bind fun snapshot => validPrice snapshot.closePrice).isSome then pure ()
  else match ← ask (.chainlinkPriceWindowStats spec.asset spec.startAt spec.endAt) with
    | none => pure ()
    | some stats => ask (.upsertBoundarySnapshot spec.marketSlug stats)

def seedFromRtdsPreviousClose (marketSlug : String) :
    Ptb (Option PolymarketPriceToBeatSnapshot) := do
  match (← ask (.currentSnapshot marketSlug)).filter (·.isLookupReady) with
  | some snapshot => pure (some snapshot)
  | none =>
    let spec ← ofExcept (buildPriceToBeatQuerySpec marketSlug)
    let previousSpec ← ofExcept (buildPreviousPriceToBeatQuerySpec spec)
    ensureCompletedBoundaryFromChainlink previousSpec
    match ← ask (.boundarySnapshot previousSpec.marketSlug) with
    | none => pure none
    | some previous =>
      match validPrice previous.closePrice with
      | none => pure none
      | some closePrice =>
        let _ ← seedSnapshotWithSource spec.marketSlug spec.asset spec.timeframe closePrice
          .chainlinkRtdsPreviousClose
          (previous.closeTs.map fun closeTs => |closeTs - previousSpec.endAt|)
        pure ((← ask (.currentSnapshot spec.marketSlug)).filter (·.isLookupReady))

def hasAuthoritativeSnapshot (marketSlug : String) : Ptb Bool := do
  pure ((← ask (.currentSnapshot marketSlug)).any fun snapshot =>
    snapshot.verified && snapshot.isLookupReady)

def warmPriceToBeatCacheBg (marketSlug : String) : Ptb Unit := do
  if ← hasAuthoritativeSnapshot marketSlug then pure ()
  else ensureBackgroundFetch marketSlug

/-! ### Threads -/

/-- What the environment decides about a call. -/
structure PtbReply where
  enabled : Bool := false
  nowMs : ℤ := 0
  api : CryptoPriceReply := .failed ""
  tick : Except String (ℚ × ℤ) := .error ""
  stats : Option Chainlink.ChainlinkPriceWindowStats := none
  boundary : Option BoundarySnapshot := none
  repositoryError : Option String := none

section Act
variable {ι : Type} (i : ι)

def fromRepository {α : Type} (a : α) (reply : PtbReply) : Except PriceToBeatError α :=
  match reply.repositoryError with
  | none => .ok a
  | some detail => .error (.repository detail)

def act : (c : PtbCall) → PolymarketPriceToBeatService ι → PtbReply →
    Except PriceToBeatError (PtbAnswer c) × PolymarketPriceToBeatService ι
  | .currentSnapshot marketSlug, w, _ => (.ok (w.cache marketSlug), w)
  | .seedSnapshot marketSlug snapshot, w, _ =>
    if (w.cache marketSlug).any (·.isLookupReady) then (.ok false, w)
    else (.ok true, { w with cache := Function.update w.cache marketSlug (some snapshot) })
  | .markDirtyMarketSlug marketSlug, w, _ =>
    (.ok (), { w with dirtyMarketSlugs :=
      w.dirtyMarketSlugs.insert (toAsciiLowercase (trim marketSlug)) })
  | .takeTerminalFailure marketSlug, w, _ =>
    (.ok (w.terminalFailures marketSlug),
      { w with terminalFailures := Function.update w.terminalFailures marketSlug none })
  | .recordTerminalFailure marketSlug detail, w, _ =>
    (.ok (), { w with
      terminalFailures := Function.update w.terminalFailures marketSlug (some detail) })
  | .beginBackgroundFetch marketSlug, w, _ =>
    if (w.fetchInflight marketSlug).isSome then (.ok false, w)
    else (.ok true,
      { w with fetchInflight := Function.update w.fetchInflight marketSlug (some i) })
  | .finishBackgroundFetch marketSlug, w, _ =>
    (.ok (), { w with fetchInflight := Function.update w.fetchInflight marketSlug none })
  | .cachedPreviousClose marketSlug, w, _ => (.ok (w.previousCloseCache marketSlug), w)
  | .storePreviousClose marketSlug closePrice, w, _ =>
    (.ok (), { w with
      previousCloseCache := Function.update w.previousCloseCache marketSlug
        ((w.previousCloseCache marketSlug).or (some closePrice)) })
  | .storeVerifiedSnapshot marketSlug snapshot, w, _ =>
    (.ok (), { w with cache := Function.update w.cache marketSlug (some snapshot) })
  | .httpFallbackEnabled, w, r => (.ok r.enabled, w)
  | .rateLimitCooldownRemainingMs, w, r =>
    (.ok (if r.nowMs < w.rateLimitUntilMs then some (w.rateLimitUntilMs - r.nowMs) else none), w)
  | .armRateLimitCooldown cooldownMs, w, r =>
    (.ok (), { w with rateLimitUntilMs := max w.rateLimitUntilMs (r.nowMs + cooldownMs) })
  | .acquireWindow url, w, _ =>
    if (w.windowFetchInflight url).isSome then (.ok false, w)
    else (.ok true,
      { w with windowFetchInflight := Function.update w.windowFetchInflight url (some i) })
  | .releaseWindow url, w, _ =>
    (.ok (), { w with windowFetchInflight := Function.update w.windowFetchInflight url none })
  | .requestCryptoPrice _, w, r => (.ok r.api, w)
  | .chainlinkPriceStartTick _ _, w, r => (.ok r.tick, w)
  | .chainlinkPriceWindowStats _ _ _, w, r => (.ok r.stats, w)
  | .boundarySnapshot _, w, r => (fromRepository r.boundary r, w)
  | .upsertBoundarySnapshot _ _, w, r => (fromRepository () r, w)

end Act

/-- What a thread is started for. -/
inductive PtbTask where
  | lookUp (marketSlug : String)
  | seedFromChainlink (marketSlug asset timeframe : String) (price : ℚ) (sourceLatencyMs : Option ℤ)
  | seedFromPreviousClose (marketSlug : String)
  | warm (marketSlug : String)

def PtbTask.program : PtbTask → Ptb Unit
  | .lookUp marketSlug => do
    let _ ← tryCachedOrSpawn marketSlug
  | .seedFromChainlink marketSlug asset timeframe price sourceLatencyMs => do
    let _ ← seedSnapshotWithSource marketSlug asset timeframe price .chainlinkRtdsStartTick
      sourceLatencyMs
  | .seedFromPreviousClose marketSlug => do
    let _ ← seedFromRtdsPreviousClose marketSlug
  | .warm marketSlug => warmPriceToBeatCacheBg marketSlug

abbrev PtbPool (ι : Type) :=
  Pool ι PtbCall PtbAnswer PriceToBeatError (PolymarketPriceToBeatService ι)

/-- A service that is new, with the threads that will use it. -/
def startPool {ι : Type} (task : ι → PtbTask) : PtbPool ι where
  world := {}
  thread := fun i => (task i).program

end PolymarketBot.PriceCache
