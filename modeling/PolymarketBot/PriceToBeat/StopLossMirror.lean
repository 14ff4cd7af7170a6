import Mathlib.Tactic.Ring
import PolymarketBot.PriceToBeat.StopLossMoves

/-! Mirrored prices, and what each source says of them for the other outcome. -/

namespace PolymarketBot.PriceToBeat
open Flow Lib

def Direction.opposite : Direction → Direction
  | up => down
  | down => up

/-- Every price of the market on the other side of the reference, as far from it. -/
def PtbPrices.mirror (reference : ℚ) (prices : PtbPrices) : PtbPrices :=
  { prices with
    chainlink := prices.chainlink.map (2 * reference - ·)
    latestBook := fun venue => (prices.latestBook venue).map fun book =>
      { book with mid := 2 * reference - book.mid }
    openMid := fun venue => (prices.openMid venue).map (2 * reference - ·) }

def SourceEvaluation.mirror (reference : ℚ) (e : SourceEvaluation) : SourceEvaluation :=
  { e with currentPrice := e.currentPrice.map (2 * reference - ·) }

section Mirror
variable {prices : PtbPrices} {direction : Direction} {t reference : ℚ}

theorem mirror_latestBook (venue : CexVenue) : (prices.mirror reference).latestBook venue =
    (prices.latestBook venue).map fun book => { book with mid := 2 * reference - book.mid } := rfl

theorem mirror_openMid (venue : CexVenue) : (prices.mirror reference).openMid venue =
    (prices.openMid venue).map (2 * reference - ·) := rfl

theorem freshBook_mirror (venue : CexVenue) (maxStaleMs : ℤ) :
    freshBook (prices.mirror reference) venue maxStaleMs =
      (freshBook prices venue maxStaleMs).map fun book =>
        { book with mid := 2 * reference - book.mid } := by
  rw [freshBook, mirror_latestBook, freshBook]
  cases prices.latestBook venue with
  | none => rfl
  | some book =>
    simp only [Option.map_some, Option.filter_some]
    split_ifs <;> rfl

theorem venueDelta_mirror (venue : CexVenue) (maxStaleMs : ℤ) :
    venueDeltaSnapshot (prices.mirror reference) venue maxStaleMs =
      (venueDeltaSnapshot prices venue maxStaleMs).map fun δ =>
        { δ with deltaUsd := -δ.deltaUsd } := by
  rw [venueDeltaSnapshot, freshBook_mirror, mirror_openMid, venueDeltaSnapshot]
  cases freshBook prices venue maxStaleMs with
  | none => rfl
  | some book =>
    cases prices.openMid venue with
    | none => rfl
    | some openMid =>
      have hdelta : 2 * reference - book.mid - (2 * reference - openMid) =
          -(book.mid - openMid) := by ring
      simp [hdelta]

theorem resolved_mirror (source : PriceToBeatCurrentPriceSource) (asset : String) :
    resolvePriceToBeatCurrentPriceSnapshot (prices.mirror reference) source asset =
      (resolvePriceToBeatCurrentPriceSnapshot prices source asset).map (2 * reference - ·) := by
  unfold resolvePriceToBeatCurrentPriceSnapshot
  dsimp only
  cases (source.normalizeForAsset asset).cexVenue with
  | some venue =>
    simp only [freshBook_mirror, Option.map_map, Function.comp_def]
  | none =>
    dsimp only
    split_ifs <;> rfl

theorem gap_mirror (price : ℚ) :
    tradeBuilderPtbDirectionalGap direction.opposite reference (2 * reference - price) =
      tradeBuilderPtbDirectionalGap direction reference price := by
  cases direction <;> simp only [Direction.opposite, tradeBuilderPtbDirectionalGap] <;> ring

theorem priced_mirror (source : PriceToBeatCurrentPriceSource) (price : ℚ) :
    pricedSource direction.opposite t reference source (2 * reference - price) =
      (pricedSource direction t reference source price).mirror reference := by
  simp only [pricedSource, gap_mirror, SourceEvaluation.mirror, Option.map_some]

theorem single_mirror (source : PriceToBeatCurrentPriceSource) (asset : String) :
    tradeBuilderPtbStopLossSourceEvaluation (prices.mirror reference) direction.opposite t
        reference source asset =
      (tradeBuilderPtbStopLossSourceEvaluation prices direction t reference source
        asset).mirror reference := by
  unfold tradeBuilderPtbStopLossSourceEvaluation
  rw [resolved_mirror]
  cases resolvePriceToBeatCurrentPriceSnapshot prices source asset with
  | none => rfl
  | some price => exact priced_mirror source price

theorem consensusGap_mirror (venue : CexVenue) :
    consensusGap (prices.mirror reference) direction.opposite venue =
      consensusGap prices direction venue := by
  unfold consensusGap
  rw [venueDelta_mirror, Option.map_map]
  cases direction <;> simp [Direction.opposite, Function.comp_def]

theorem consensus_mirror (marketSlug : String) :
    evaluateCexConsensusPtbStopLoss (prices.mirror reference) direction.opposite t reference
        marketSlug =
      (evaluateCexConsensusPtbStopLoss prices direction t reference
        marketSlug).mirror reference := by
  have hhit (venue : CexVenue) : consensusHit (prices.mirror reference) direction.opposite t
      venue = consensusHit prices direction t venue := by
    rw [consensusHit, consensusGap_mirror, consensusHit]
  have hconfirming (venue : CexVenue) : confirmingVenues (prices.mirror reference)
      direction.opposite t venue = confirmingVenues prices direction t venue := by
    simp only [confirmingVenues, hhit]
  unfold evaluateCexConsensusPtbStopLoss
  cases findUpdownScopeBySlug marketSlug with
  | none => rfl
  | some scope =>
    by_cases hstart : (marketStartTime marketSlug).isNone = true
    · simp only [hstart, if_true]
      rfl
    have hprice (δ : CexVenueDelta) :
        reference + -δ.deltaUsd = 2 * reference - (reference + δ.deltaUsd) := by ring
    simp only [hstart, Bool.false_eq_true, if_false, hhit, hconfirming, cexConsensusError,
      venueDelta_mirror, Option.isNone_map, consensusGap_mirror, SourceEvaluation.mirror,
      Option.map_map, Function.comp_def, hprice]

theorem legs_mirror (asset : String) : cexMedianFastLegs (prices.mirror reference) asset =
    (cexMedianFastLegs prices asset).map (-·) := by
  have hleg (venue : CexVenue) :
      (loadCexMedianFastLeg (prices.mirror reference) venue).map CexVenueDelta.deltaUsd =
        ((loadCexMedianFastLeg prices venue).map CexVenueDelta.deltaUsd).map (-·) := by
    rw [loadCexMedianFastLeg, venueDelta_mirror, loadCexMedianFastLeg]
    cases venueDeltaSnapshot prices venue cexMedianFastMaxStaleMs with
    | none => rfl
    | some δ =>
      simp only [Option.map_some, Option.filter_some]
      split_ifs <;> rfl
  rw [cexMedianFastLegs, cexMedianFastLegs, List.map_filterMap]
  simp only [hleg]

theorem select_mirror (band : ℚ) (legs : List ℚ) :
    selectCexMedianFastDelta direction.opposite band (legs.map (-·)) =
      (selectCexMedianFastDelta direction band legs).map (-·) := by
  match legs with
  | [] | [_] | _ :: _ :: _ :: _ :: _ => rfl
  | [a, b, c] =>
    simp only [List.map_cons, List.map_nil, select_three, median3_neg, Except.map]
  | [left, right] =>
    have hdiff : |-left - -right| = |left - right| := by
      rw [neg_sub_neg, abs_sub_comm]
    simp only [List.map_cons, List.map_nil, selectCexMedianFastDelta, hdiff]
    split_ifs with hband
    · rfl
    · cases direction with
      | up => exact congrArg Except.ok (max_neg_neg left right)
      | down => exact congrArg Except.ok (min_neg_neg left right)

theorem median_mirror (marketSlug : String) (base : ℚ) :
    evaluateCexMedianFastPtbStopLoss (prices.mirror reference) direction.opposite t reference
        marketSlug base =
      (evaluateCexMedianFastPtbStopLoss prices direction t reference marketSlug
        base).mirror reference := by
  unfold evaluateCexMedianFastPtbStopLoss
  cases findUpdownScopeBySlug marketSlug with
  | none => rfl
  | some scope =>
    by_cases hstart : (marketStartTime marketSlug).isNone = true
    · simp only [hstart, if_true]
      rfl
    simp only [hstart, Bool.false_eq_true, if_false, legs_mirror, select_mirror]
    cases selectCexMedianFastDelta direction (3 * |base|)
      (cexMedianFastLegs prices (scopeAsset scope)) with
    | error code => rfl
    | ok δ =>
      have hprice : reference + -δ = 2 * reference - (reference + δ) := by ring
      simp only [Except.map, hprice]
      exact priced_mirror _ _

theorem evaluations_mirror (source : PriceToBeatCurrentPriceSource) (marketSlug asset : String)
    (base : ℚ) :
    tradeBuilderPtbStopLossSourceEvaluations (prices.mirror reference) direction.opposite t
        reference source marketSlug asset base =
      (tradeBuilderPtbStopLossSourceEvaluations prices direction t reference source marketSlug
        asset base).map (SourceEvaluation.mirror reference) := by
  unfold tradeBuilderPtbStopLossSourceEvaluations
  cases source.normalizeForAsset asset <;>
    simp only [single_mirror, consensus_mirror, median_mirror, List.map_cons, List.map_nil]

theorem reached_mirror {source : PriceToBeatCurrentPriceSource}
    (evaluations : List SourceEvaluation) :
    Reached source (evaluations.map (SourceEvaluation.mirror reference)) t ↔
      Reached source evaluations t := by
  have hhit (e : SourceEvaluation) : (e.mirror reference).hit = e.hit := by
    simp only [SourceEvaluation.hit, SourceEvaluation.priced, SourceEvaluation.mirror,
      Option.isSome_map]
  have hpriced (e : SourceEvaluation) : (e.mirror reference).priced = e.priced := by
    simp only [SourceEvaluation.priced, SourceEvaluation.mirror, Option.isSome_map]
  have hkind (e : SourceEvaluation) : (e.mirror reference).configSource = e.configSource := rfl
  have hgap (e : SourceEvaluation) : (e.mirror reference).directionalGap = e.directionalGap := rfl
  have hbackstop : confirmedCexBackstopShouldTrigger
      (evaluations.map (SourceEvaluation.mirror reference)) t =
        confirmedCexBackstopShouldTrigger evaluations t := by
    simp only [confirmedCexBackstopShouldTrigger, List.find?_map, Option.any_map,
      Function.comp_def, hkind, hhit, hpriced, hgap]
  have hany : (∃ e ∈ evaluations.map (SourceEvaluation.mirror reference), e.hit = true) ↔
      ∃ e ∈ evaluations, e.hit = true := by simp [hhit]
  cases source <;> simp only [Reached, hbackstop, hany]
  simp [hkind, hhit]

end Mirror

end PolymarketBot.PriceToBeat
