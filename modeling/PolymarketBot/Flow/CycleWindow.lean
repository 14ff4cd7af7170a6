import PolymarketBot.Flow.OnceState

/-! Websocket price node specs and the market windows they are gated by.
Instants are nanoseconds since the epoch. -/

namespace PolymarketBot.Flow

abbrev Instant := ℤ

def timestamp (instant : Instant) : ℤ := instant / 1000000000

def timestampMillis (instant : Instant) : ℤ := instant / 1000000

/-- Of a duration, what is left of a millisecond is dropped. -/
def numMilliseconds (duration : ℤ) : ℤ := duration.tdiv 1000000

/-- The formatting and parsing of instants that the engine takes from its time library. -/
structure Chrono where
  toRfc3339 : Instant → String
  parseFromRfc3339 : String → Option Instant

/-- Enough for a run that neither formats nor parses an instant. -/
def idleChrono : Chrono := ⟨fun _ => "", fun _ => none⟩

inductive WsPriceMode where
  | composite
  | midpoint
  | raw
  | lastTrade
  | siteDisplay
  | bestBid
  | bestAsk
  deriving DecidableEq

structure WsOpenPositionPriceNodeSpec where
  nodeKey : String
  nodeType : String
  onceMode : Bool
  onceScopeMarket : Bool
  pairLockOnlyMonitor : Bool
  autoScope : Bool
  priceMode : WsPriceMode
  marketSlug : Option String
  tokenId : String
  outcomeLabel : String
  triggerCondition : String
  triggerPrice : ℚ
  maxPrice : Option ℚ
  priceToBeatTriggerEnabled : Bool
  confirmationMs : Option ℤ
  cycleWindowMode : Option String
  cycleWindowSecs : Option ℤ
  cycleWindowStartSec : Option ℤ
  cycleWindowEndSec : Option ℤ
  autoSellOnWindowEnd : Bool

structure UpdownScopeDef where
  timeframe : String
  slugPrefix : String

def supportedUpdownScopeDefs : List UpdownScopeDef :=
  [⟨"5m", "btc-updown-5m-"⟩, ⟨"15m", "btc-updown-15m-"⟩, ⟨"5m", "eth-updown-5m-"⟩,
    ⟨"15m", "eth-updown-15m-"⟩, ⟨"5m", "sol-updown-5m-"⟩, ⟨"15m", "sol-updown-15m-"⟩,
    ⟨"5m", "xrp-updown-5m-"⟩, ⟨"15m", "xrp-updown-15m-"⟩, ⟨"5m", "doge-updown-5m-"⟩,
    ⟨"5m", "bnb-updown-5m-"⟩, ⟨"5m", "hype-updown-5m-"⟩]

def findUpdownScopeBySlug (slug : String) : Option UpdownScopeDef :=
  let normalized := String.ofList ((trim slug).toList.map Char.toLower)
  supportedUpdownScopeDefs.find? fun d => startsWith d.slugPrefix normalized

/-- Each scope's prefix begins with its asset. -/
def scopeAsset (scope : UpdownScopeDef) : String :=
  String.ofList (scope.slugPrefix.toList.takeWhile (· ≠ '-'))

def updownScopeWindowSeconds (d : UpdownScopeDef) : ℤ := if d.timeframe = "15m" then 900 else 300

/-- Seconds the time library accepts as a timestamp. -/
def timestampInRange (ts : ℤ) : Bool := -8334601228800 ≤ ts && ts ≤ 8210266876799

def parseUnixStart (slug : String) : Option ℤ := parseI64 (lastSegment slug)

def marketStartTime (slug : String) : Option Instant := do
  let ts ← parseUnixStart slug
  if timestampInRange ts then some (1000000000 * ts) else none

def clampSecs (secs duration : ℤ) : ℤ := max 1 (min secs duration)

def cycleWindowBounds (spec : WsOpenPositionPriceNodeSpec) : Option (Instant × Instant) := do
  if spec.nodeType ≠ "trigger.market_price" then none
  let marketSlug ← spec.marketSlug
  let mode ← spec.cycleWindowMode
  let startAt ← marketStartTime marketSlug
  let d ← findUpdownScopeBySlug marketSlug
  let duration := updownScopeWindowSeconds d
  let endAt := startAt + 1000000000 * duration
  match mode with
  | "first" => do
    let secs ← spec.cycleWindowSecs
    some (startAt, startAt + 1000000000 * clampSecs secs duration)
  | "last" => do
    let secs ← spec.cycleWindowSecs
    some (endAt - 1000000000 * clampSecs secs duration, endAt)
  | "custom_range" => do
    let s ← spec.cycleWindowStartSec
    let e ← spec.cycleWindowEndSec
    if s ≥ e || e > duration then none else some (startAt + 1000000000 * s, startAt + 1000000000 * e)
  | _ => none

theorem cycleWindowBounds_otherType {spec : WsOpenPositionPriceNodeSpec}
    (h : spec.nodeType ≠ "trigger.market_price") : cycleWindowBounds spec = none := by
  unfold cycleWindowBounds
  rw [if_pos h]
  rfl

theorem cycleWindowBounds_parts {spec : WsOpenPositionPriceNodeSpec} {bounds : Instant × Instant}
    (h : cycleWindowBounds spec = some bounds) : spec.nodeType = "trigger.market_price" ∧
      (∃ mode ∈ ["first", "last", "custom_range"], spec.cycleWindowMode = some mode) ∧
      ∃ slug ∈ spec.marketSlug, (marketStartTime slug).isSome := by
  have htype : spec.nodeType = "trigger.market_price" := by
    by_contra hother
    rw [cycleWindowBounds_otherType hother] at h
    cases h
  unfold cycleWindowBounds at h
  rw [if_neg (not_not.mpr htype)] at h
  simp only [Option.bind_eq_bind, Option.bind_eq_some_iff] at h
  obtain ⟨slug, hslug, mode, hmode, startAt, hstart, scope, -, h⟩ := h
  refine ⟨htype, ⟨mode, ?_, hmode⟩, slug, hslug, by rw [hstart]; rfl⟩
  split at h
  · decide
  · decide
  · decide
  · cases h

def resolveUpdownMarketCycleBounds (slug : String) : Option (Instant × Instant × ℤ) := do
  let ts ← parseI64 (lastSegment slug)
  let duration ← if contains "-5m-" slug then some 300
    else if contains "-15m-" slug then some 900 else none
  if timestampInRange ts then some (1000000000 * ts, 1000000000 * (ts + duration), duration) else none

def resolveCycleWindowAbsoluteBounds (slug mode : String) (windowSecs : ℤ)
    (startSec endSec : Option ℤ) : Option (Instant × Instant) := do
  let (startAt, endAt, duration) ← resolveUpdownMarketCycleBounds slug
  match mode with
  | "first" => some (startAt, startAt + 1000000000 * clampSecs windowSecs duration)
  | "last" => some (endAt - 1000000000 * clampSecs windowSecs duration, endAt)
  | "custom_range" => do
    let s ← startSec
    let e ← endSec
    if s ≥ e || e > duration then none else some (startAt + 1000000000 * s, startAt + 1000000000 * e)
  | _ => none

def isOutsideCycleWindowFocus (now : Instant) (slug mode : String) (windowSecs : ℤ)
    (startSec endSec : Option ℤ) : Bool :=
  match resolveUpdownMarketCycleBounds slug with
  | none => false
  | some (cycleStart, cycleEnd, duration) =>
    if now < cycleStart || now ≥ cycleEnd then true
    else if mode ≠ "custom_range" && windowSecs ≥ duration then false
    else match resolveCycleWindowAbsoluteBounds slug mode windowSecs startSec endSec with
      | none => false
      | some (windowOpen, windowEnd) => now < windowOpen || now ≥ windowEnd

def shouldSkipForCycleWindow (now : Instant) (spec : WsOpenPositionPriceNodeSpec) : Bool :=
  match spec.cycleWindowMode, spec.marketSlug with
  | none, _ => false
  | some _, none => true
  | some "custom_range", some slug =>
    if spec.cycleWindowStartSec.isSome && spec.cycleWindowEndSec.isSome then
      isOutsideCycleWindowFocus now slug "custom_range" 0 spec.cycleWindowStartSec
        spec.cycleWindowEndSec
    else true
  | some mode, some slug =>
    match spec.cycleWindowSecs with
    | some secs => isOutsideCycleWindowFocus now slug mode secs none none
    | none => true

def isAutoScopeMarketExpired (now : Instant) (slug : String) (bufferSecs : ℤ) : Bool :=
  match parseI64 (lastSegment slug) with
  | none => false
  | some ts =>
    let expired (duration : ℤ) : Bool := timestamp now ≥ ts + duration + bufferSecs
    if contains "-5m-" slug then expired 300
    else if contains "-15m-" slug then expired 900
    else false

end PolymarketBot.Flow
