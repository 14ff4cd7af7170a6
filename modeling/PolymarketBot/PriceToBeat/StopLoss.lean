import Mathlib.Data.List.MinMax
import Mathlib.Data.List.Sort
import Mathlib.Order.WithBot
import PolymarketBot.Flow.CycleWindow

/-! The price-to-beat stop loss: the prices its sources read, the evaluation of each source and
the decision over them. Prices are exact rationals, instants are nanoseconds. -/

namespace PolymarketBot.PriceToBeat
open Flow

inductive CexVenue | binance | coinbase | hyperliquid | bybit | okx | gateio
  deriving DecidableEq, Repr

inductive PriceToBeatCurrentPriceSource
  | chainlink | binance | coinbase | hyperliquid | bybit | binanceHyperliquid | cexConsensus
  | chainlinkCexConsensus | chainlinkCexConsensusConfirmed | cexMedianFast
  deriving DecidableEq, Repr

inductive Direction | up | down
  deriving DecidableEq, Repr

@[irreducible] def normalizedText (raw : String) : String :=
  String.ofList ((trim raw).toList.map Char.toLower)

namespace PriceToBeatCurrentPriceSource

def currentPriceSourceLabel : PriceToBeatCurrentPriceSource → String
  | chainlink => "chainlink_live_data_ws"
  | binance => "binance_cex_ws_mid"
  | coinbase => "coinbase_cex_ws_mid"
  | hyperliquid => "hyperliquid_l2book_mid"
  | bybit => "bybit_orderbook_mid"
  | binanceHyperliquid => "binance_hyperliquid_ptb_stop"
  | cexConsensus => "cex_consensus_bybit_plus_one"
  | chainlinkCexConsensus => "chainlink_cex_consensus_or_hybrid"
  | chainlinkCexConsensusConfirmed => "chainlink_cex_consensus_confirmed"
  | cexMedianFast => "cex_median_fast_delta"

def normalizeForAsset (source : PriceToBeatCurrentPriceSource) (asset : String) :
    PriceToBeatCurrentPriceSource :=
  if normalizedText asset = "hype" ∧ (source = .binance ∨ source = .binanceHyperliquid) then
    .hyperliquid
  else source

def cexVenue : PriceToBeatCurrentPriceSource → Option CexVenue
  | binance => some .binance
  | coinbase => some .coinbase
  | hyperliquid => some .hyperliquid
  | bybit => some .bybit
  | chainlink | binanceHyperliquid | cexConsensus | chainlinkCexConsensus
  | chainlinkCexConsensusConfirmed | cexMedianFast => none

end PriceToBeatCurrentPriceSource

/-! ### Prices -/

structure VenueBook where
  mid : ℚ
  stalenessMs : ℤ

/-- What is known of a market's asset at an instant: the Chainlink price, the latest book of
each venue, its mid at the opening of the market's window, and the cached reference price. A
price that is missing, or too old for its feed, is `none`. -/
structure PtbPrices where
  chainlink : Option ℚ
  latestBook : CexVenue → Option VenueBook
  openMid : CexVenue → Option ℚ
  cachedReference : Option ℚ

structure CexVenueDelta where
  deltaUsd : ℚ
  bookStalenessMs : ℤ

section Prices
variable (prices : PtbPrices)

def freshBook (venue : CexVenue) (maxBookStaleMs : ℤ) : Option VenueBook :=
  (prices.latestBook venue).filter (·.stalenessMs ≤ maxBookStaleMs)

/-- How far a venue has moved since the window opened. -/
def venueDeltaSnapshot (venue : CexVenue) (maxBookStaleMs : ℤ) : Option CexVenueDelta := do
  let current ← freshBook prices venue maxBookStaleMs
  let openMid ← prices.openMid venue
  some ⟨current.mid - openMid, current.stalenessMs⟩

def cexMedianFastMaxStaleMs : ℤ := 750

/-- The freshness the CEX microstructure asks of a book by default. -/
def defaultMaxBookStaleMs : ℤ := 750

/-- The freshness the consensus stop loss asks of a book. -/
def consensusMaxBookStaleMs : ℤ := 2500

/-- A composite source has no price of its own. -/
def resolvePriceToBeatCurrentPriceSnapshot (source : PriceToBeatCurrentPriceSource)
    (asset : String) : Option ℚ :=
  let source := source.normalizeForAsset asset
  match source.cexVenue with
  | some venue => (freshBook prices venue defaultMaxBookStaleMs).map VenueBook.mid
  | none => if source = .chainlink then prices.chainlink else none

end Prices

def activeAnchorVenueForAsset (asset : String) : CexVenue :=
  match normalizedText asset with
  | "sol" => .gateio
  | "hype" | "hyperliquid" => .coinbase
  | _ => .okx

def activeSpotVenuesForAsset (asset : String) : List CexVenue :=
  [.binance, activeAnchorVenueForAsset asset, .coinbase]

/-! ### Thresholds and gaps -/

def tradeBuilderPtbDirection (outcomeLabel : String) : Option Direction :=
  match normalizedText outcomeLabel with
  | "yes" | "up" | "long" | "bull" => some .up
  | "no" | "down" | "short" | "bear" => some .down
  | _ => none

def tradeBuilderPtbDirectionalGap : Direction → ℚ → ℚ → ℚ
  | .up, ptbReferencePrice, currentPrice => currentPrice - ptbReferencePrice
  | .down, ptbReferencePrice, currentPrice => ptbReferencePrice - currentPrice

def elapsedRatio (now windowStart windowSeconds : ℤ) : ℚ :=
  max 0 (min 1 ((max (numMilliseconds (now - windowStart)) 0 : ℤ) / (windowSeconds * 1000 : ℤ)))

/-- A threshold that waits for an overshoot does not decay. -/
def tradeBuilderPtbStopLossEffectiveGapUsdForMarket (now : Instant) (marketSlug : String)
    (thresholdGapUsd : ℚ) (timeDecayMode : Option String) : ℚ :=
  let mode := timeDecayMode.getD "tighten"
  if mode = "none" ∨ thresholdGapUsd < 0 then thresholdGapUsd
  else
    match findUpdownScopeBySlug marketSlug, marketStartTime marketSlug with
    | some scope, some windowStart =>
      let ratio := elapsedRatio now windowStart (max (updownScopeWindowSeconds scope) 1)
      match mode with
      | "tighten" => max (thresholdGapUsd * (1 - ratio)) 0
      | "relax" => thresholdGapUsd * (1 + ratio)
      | _ => thresholdGapUsd
    | _, _ => thresholdGapUsd

/-! ### One source -/

/-- The evaluation of a source; error details and metadata are only written into events. -/
structure SourceEvaluation where
  configSource : PriceToBeatCurrentPriceSource
  currentPrice : Option ℚ
  directionalGap : Option ℚ
  reasonCode : String
  shouldTrigger : Bool
  errorCode : Option String
  deriving DecidableEq

def sourceReasonCode (source : PriceToBeatCurrentPriceSource) (shouldTrigger : Bool) : String :=
  if !shouldTrigger then "threshold_not_met"
  else match source with
    | .chainlink => "chainlink_threshold_hit"
    | .cexConsensus => "cex_consensus_threshold_hit"
    | _ => "source_threshold_hit"

def unavailableSource (source : PriceToBeatCurrentPriceSource) (errorCode : String) :
    SourceEvaluation :=
  ⟨source, none, none, "threshold_not_met", false, some errorCode⟩

section Sources
variable (prices : PtbPrices) (direction : Direction) (thresholdGapUsd ptbReferencePrice : ℚ)

/-- A source with a price triggers at or below the threshold. -/
def pricedSource (source : PriceToBeatCurrentPriceSource) (currentPrice : ℚ) :
    SourceEvaluation :=
  let directionalGap := tradeBuilderPtbDirectionalGap direction ptbReferencePrice currentPrice
  let shouldTrigger := decide (directionalGap ≤ thresholdGapUsd)
  ⟨source, some currentPrice, some directionalGap, sourceReasonCode source shouldTrigger,
    shouldTrigger, none⟩

def tradeBuilderPtbStopLossSourceEvaluation (source : PriceToBeatCurrentPriceSource)
    (asset : String) : SourceEvaluation :=
  match resolvePriceToBeatCurrentPriceSnapshot prices source asset with
  | some currentPrice =>
    pricedSource direction thresholdGapUsd ptbReferencePrice source currentPrice
  | none => unavailableSource source "current_price_unavailable"

def loadCexMedianFastLeg (venue : CexVenue) : Option CexVenueDelta :=
  (venueDeltaSnapshot prices venue cexMedianFastMaxStaleMs).filter
    (·.bookStalenessMs < cexMedianFastMaxStaleMs)

/-- The median of three legs, the adverse one of two that agree, or why there is none. -/
def selectCexMedianFastDelta (direction : Direction) (sanityBandUsd : ℚ) :
    List ℚ → Except String ℚ
  | [left, right] =>
    if sanityBandUsd < |left - right| then .error "cex_median_fast_sanity_band_exceeded"
    else .ok (match direction with | .up => min left right | .down => max left right)
  | [a, b, c] =>
    match [a, b, c].insertionSort (· ≤ ·) with
    | [_, median, _] => .ok median
    | _ => .error "cex_median_fast_insufficient_venues"
  | _ => .error "cex_median_fast_insufficient_venues"

def cexMedianFastLegs (asset : String) : List ℚ :=
  (activeSpotVenuesForAsset asset).filterMap fun venue =>
    (loadCexMedianFastLeg prices venue).map CexVenueDelta.deltaUsd

def evaluateCexMedianFastPtbStopLoss (marketSlug : String) (baseThresholdGapUsd : ℚ) :
    SourceEvaluation :=
  match findUpdownScopeBySlug marketSlug with
  | none => unavailableSource .cexMedianFast "cex_median_fast_unsupported_market"
  | some scope =>
    if (marketStartTime marketSlug).isNone then
      unavailableSource .cexMedianFast "cex_median_fast_missing_window_start"
    else
      match selectCexMedianFastDelta direction (3 * |baseThresholdGapUsd|)
          (cexMedianFastLegs prices (scopeAsset scope)) with
      | .error errorCode => unavailableSource .cexMedianFast errorCode
      | .ok selectedDeltaUsd =>
        pricedSource direction thresholdGapUsd ptbReferencePrice .cexMedianFast
          (ptbReferencePrice + selectedDeltaUsd)

/-- A venue's move since the opening, as seen from the held outcome. -/
def consensusGap (venue : CexVenue) : Option ℚ :=
  (venueDeltaSnapshot prices venue consensusMaxBookStaleMs).map fun snapshot =>
    match direction with
    | .up => snapshot.deltaUsd
    | .down => -snapshot.deltaUsd

def consensusHit (venue : CexVenue) : Bool :=
  (consensusGap prices direction venue).any (· ≤ thresholdGapUsd)

def confirmingVenues (anchorVenue : CexVenue) : List CexVenue :=
  [.binance, .coinbase].filter fun venue =>
    venue ≠ anchorVenue && consensusHit prices direction thresholdGapUsd venue

def cexConsensusError (anchorVenue : CexVenue) : Option String :=
  if (venueDeltaSnapshot prices anchorVenue consensusMaxBookStaleMs).isNone then
    some (match anchorVenue with
      | .gateio => "cex_consensus_gateio_unavailable"
      | .okx => "cex_consensus_okx_unavailable"
      | _ => "cex_consensus_anchor_unavailable")
  else if consensusHit prices direction thresholdGapUsd anchorVenue &&
      (confirmingVenues prices direction thresholdGapUsd anchorVenue).isEmpty then
    some "cex_consensus_unconfirmed"
  else none

/-- The anchor venue and one more have to reach the threshold. -/
def evaluateCexConsensusPtbStopLoss (marketSlug : String) : SourceEvaluation :=
  match findUpdownScopeBySlug marketSlug with
  | none => unavailableSource .cexConsensus "cex_consensus_unsupported_market"
  | some scope =>
    if (marketStartTime marketSlug).isNone then
      unavailableSource .cexConsensus "cex_consensus_missing_window_start"
    else
      let anchorVenue := activeAnchorVenueForAsset (scopeAsset scope)
      let shouldTrigger := consensusHit prices direction thresholdGapUsd anchorVenue &&
        !(confirmingVenues prices direction thresholdGapUsd anchorVenue).isEmpty
      { configSource := .cexConsensus
        currentPrice := (venueDeltaSnapshot prices anchorVenue consensusMaxBookStaleMs).map
          fun snapshot => ptbReferencePrice + snapshot.deltaUsd
        directionalGap := consensusGap prices direction anchorVenue
        reasonCode := sourceReasonCode .cexConsensus shouldTrigger
        shouldTrigger
        errorCode := cexConsensusError prices direction thresholdGapUsd anchorVenue }

def tradeBuilderPtbStopLossSourceEvaluations (source : PriceToBeatCurrentPriceSource)
    (marketSlug asset : String) (baseThresholdGapUsd : ℚ) : List SourceEvaluation :=
  let single := fun source => tradeBuilderPtbStopLossSourceEvaluation prices direction
    thresholdGapUsd ptbReferencePrice source asset
  let consensus := evaluateCexConsensusPtbStopLoss prices direction thresholdGapUsd
    ptbReferencePrice marketSlug
  match source.normalizeForAsset asset with
  | .cexMedianFast =>
    [evaluateCexMedianFastPtbStopLoss prices direction thresholdGapUsd ptbReferencePrice
      marketSlug baseThresholdGapUsd, single .chainlink, consensus]
  | .cexConsensus | .chainlinkCexConsensus | .chainlinkCexConsensusConfirmed =>
    [single .chainlink, consensus]
  | .binanceHyperliquid => [single .binance, single .hyperliquid]
  | source => [single source]

end Sources

/-! ### The decision -/

def SourceEvaluation.priced (evaluation : SourceEvaluation) : Bool :=
  evaluation.currentPrice.isSome

/-- A source that has a price and has reached the threshold. -/
def SourceEvaluation.hit (evaluation : SourceEvaluation) : Bool :=
  evaluation.priced && evaluation.shouldTrigger

def SourceEvaluation.gapOrInfinity (evaluation : SourceEvaluation) : WithTop ℚ :=
  match evaluation.directionalGap with
  | some gap => gap
  | none => ⊤

/-- The CEX median, then Chainlink, then the lowest gap, of the sources that trigger if any. -/
def tradeBuilderPtbStopLossSelectSource (evaluations : List SourceEvaluation) :
    Option SourceEvaluation :=
  (evaluations.find? fun e => e.configSource = .cexMedianFast && e.hit).or <|
    (evaluations.find? fun e => e.configSource = .chainlink && e.hit).or <|
      ((evaluations.filter SourceEvaluation.priced).filter fun e =>
        !(evaluations.any SourceEvaluation.hit) || e.shouldTrigger).argmin
          SourceEvaluation.gapOrInfinity

def confirmedCexFallbackOvershot (directionalGap thresholdGapUsd : ℚ) : Bool :=
  if thresholdGapUsd < 0 then directionalGap ≤ thresholdGapUsd * (5 / 4)
  else directionalGap ≤ thresholdGapUsd

/-- Chainlink decides where it has a price; the consensus has to overshoot without it. -/
def confirmedCexBackstopShouldTrigger (evaluations : List SourceEvaluation)
    (thresholdGapUsd : ℚ) : Bool :=
  let chainlink := evaluations.find? (·.configSource = .chainlink)
  if chainlink.any SourceEvaluation.hit then true
  else if chainlink.any SourceEvaluation.priced then false
  else (evaluations.find? (·.configSource = .cexConsensus)).any fun e =>
    e.hit && e.directionalGap.any (confirmedCexFallbackOvershot · thresholdGapUsd)

def tradeBuilderPtbStopLossFinalShouldTrigger (source : PriceToBeatCurrentPriceSource)
    (selected : SourceEvaluation) (evaluations : List SourceEvaluation)
    (thresholdGapUsd : ℚ) : Bool :=
  match source with
  | .cexMedianFast =>
    (evaluations.any fun e => e.configSource = .cexMedianFast && e.hit) ||
      confirmedCexBackstopShouldTrigger evaluations thresholdGapUsd
  | .chainlinkCexConsensusConfirmed =>
    confirmedCexBackstopShouldTrigger evaluations thresholdGapUsd
  | _ => selected.shouldTrigger

def tradeBuilderPtbStopLossFinalReasonCode (source : PriceToBeatCurrentPriceSource)
    (evaluations : List SourceEvaluation) (shouldTrigger : Bool) : String :=
  let chainlinkGap := (evaluations.find? (·.configSource = .chainlink)).bind
    SourceEvaluation.directionalGap
  let cexTriggered := evaluations.any fun e => e.configSource = .cexConsensus && e.hit
  if shouldTrigger then "ptb_gap_threshold_hit"
  else if (source = .chainlinkCexConsensusConfirmed ∨ source = .cexMedianFast) ∧
      cexTriggered = true then
    if chainlinkGap.any (0 < ·) then "cex_trigger_chainlink_conflict"
    else "cex_trigger_chainlink_unconfirmed"
  else "ptb_gap_threshold_not_met"

structure PtbStopLossEvaluation where
  asset : Option String := none
  direction : Option Direction := none
  thresholdGapUsd : ℚ := 0
  ptbReferencePrice : Option ℚ := none
  currentPrice : Option ℚ := none
  currentPriceSource : String := ""
  currentChainlinkPrice : Option ℚ := none
  directionalGap : Option ℚ := none
  reasonCode : String := ""
  shouldTrigger : Bool := false
  sourceEvaluations : List SourceEvaluation := []

/-- The order's reference price, else the cached one. -/
def resolvedReference (prices : PtbPrices) (ptbReferencePrice : Option ℚ) : Option ℚ :=
  (ptbReferencePrice.filter (0 < ·)).or (prices.cachedReference.filter (0 < ·))

/-- An evaluation that ends before a source decides. -/
def undecided (asset : Option String) (direction : Option Direction) (thresholdGapUsd : ℚ)
    (ptbReferencePrice : Option ℚ) (source : PriceToBeatCurrentPriceSource) (reasonCode : String)
    (sourceEvaluations : List SourceEvaluation) : PtbStopLossEvaluation :=
  { asset, direction, thresholdGapUsd, ptbReferencePrice, reasonCode, sourceEvaluations
    currentPrice := none
    currentPriceSource := source.currentPriceSourceLabel
    currentChainlinkPrice := none
    directionalGap := none
    shouldTrigger := false }

def tradeBuilderEvaluatePtbStopLossInputs (now : Instant) (prices : PtbPrices)
    (marketSlug outcomeLabel : String) (thresholdGapUsd : ℚ) (ptbReferencePrice : Option ℚ)
    (source : PriceToBeatCurrentPriceSource) (timeDecayMode : Option String) :
    PtbStopLossEvaluation :=
  let baseThresholdGapUsd := thresholdGapUsd
  let thresholdGapUsd := tradeBuilderPtbStopLossEffectiveGapUsdForMarket now marketSlug
    thresholdGapUsd timeDecayMode
  match findUpdownScopeBySlug marketSlug with
  | none => undecided none none thresholdGapUsd ptbReferencePrice source "unsupported_market" []
  | some scope =>
    let asset := scopeAsset scope
    let source := source.normalizeForAsset asset
    if ¬ (scope.timeframe = "5m" ∨ scope.timeframe = "15m") then
      undecided (some asset) none thresholdGapUsd ptbReferencePrice source "unsupported_market" []
    else
      match tradeBuilderPtbDirection outcomeLabel with
      | none => undecided (some asset) none thresholdGapUsd ptbReferencePrice source
          "unsupported_outcome_label" []
      | some direction =>
        match resolvedReference prices ptbReferencePrice with
        | none => undecided (some asset) (some direction) thresholdGapUsd none source
            "ptb_reference_pending" []
        | some reference =>
          let evaluations := tradeBuilderPtbStopLossSourceEvaluations prices direction
            thresholdGapUsd reference source marketSlug asset baseThresholdGapUsd
          match tradeBuilderPtbStopLossSelectSource evaluations with
          | none => undecided (some asset) (some direction) thresholdGapUsd (some reference)
              source "ptb_current_price_unavailable" evaluations
          | some selected =>
            let shouldTrigger := tradeBuilderPtbStopLossFinalShouldTrigger source selected
              evaluations thresholdGapUsd
            { asset := some asset
              direction := some direction
              thresholdGapUsd
              ptbReferencePrice := some reference
              currentPrice := some (selected.currentPrice.getD 0)
              currentPriceSource := selected.configSource.currentPriceSourceLabel
              currentChainlinkPrice := (evaluations.find? (·.configSource = .chainlink)).bind
                SourceEvaluation.currentPrice
              directionalGap := selected.directionalGap
              reasonCode := tradeBuilderPtbStopLossFinalReasonCode source evaluations
                shouldTrigger
              shouldTrigger
              sourceEvaluations := evaluations }

end PolymarketBot.PriceToBeat
