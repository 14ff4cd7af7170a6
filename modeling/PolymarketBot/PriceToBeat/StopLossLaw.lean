import PolymarketBot.PriceToBeat.StopLossMirror

/-! When the price-to-beat stop loss stays triggered as prices move on or the threshold is
wider, and its answer for the other outcome. -/

namespace PolymarketBot.PriceToBeat
open Flow PriceToBeatCurrentPriceSource

/-- What holds of a stop loss at an instant. Where it is triggered, it stays so when current
prices move on against the held outcome and for every wider threshold, but for a CEX median of
two legs that only then are further apart than the band of the threshold; such a median leaves
the answer to the confirmed consensus. The other outcome gets the same answer of the mirrored
prices. -/
structure StopLossLaw (now : Instant) (prices : PtbPrices) (marketSlug : String)
    (ptbReferencePrice : Option ℚ) (source : PriceToBeatCurrentPriceSource)
    (timeDecayMode : Option String) : Prop where
  moved : ∀ outcomeLabel direction prices' t,
    tradeBuilderPtbDirection outcomeLabel = some direction → MovedAgainst direction prices prices' →
    triggered now prices marketSlug outcomeLabel ptbReferencePrice source timeDecayMode t = true →
    triggered now prices' marketSlug outcomeLabel ptbReferencePrice source timeDecayMode t = true ∨
      source = .cexMedianFast ∧ ¬ MedianSplit prices marketSlug t ∧ MedianSplit prices' marketSlug t
  wider : ∀ outcomeLabel t t', t ≤ t' →
    triggered now prices marketSlug outcomeLabel ptbReferencePrice source timeDecayMode t = true →
    triggered now prices marketSlug outcomeLabel ptbReferencePrice source timeDecayMode t' = true ∨
      source = .cexMedianFast ∧ ¬ MedianSplit prices marketSlug t ∧ MedianSplit prices marketSlug t'
  split : ∀ outcomeLabel t, MedianSplit prices marketSlug t →
    triggered now prices marketSlug outcomeLabel ptbReferencePrice .cexMedianFast timeDecayMode t =
      triggered now prices marketSlug outcomeLabel ptbReferencePrice
        .chainlinkCexConsensusConfirmed timeDecayMode t
  mirrored : ∀ outcomeLabel otherLabel direction reference t,
    tradeBuilderPtbDirection outcomeLabel = some direction →
    tradeBuilderPtbDirection otherLabel = some direction.opposite →
    resolvedReference prices ptbReferencePrice = some reference →
    triggered now (prices.mirror reference) marketSlug otherLabel ptbReferencePrice source
        timeDecayMode t =
      triggered now prices marketSlug outcomeLabel ptbReferencePrice source timeDecayMode t

section Law
variable {now : Instant} {prices prices' : PtbPrices} {marketSlug outcomeLabel : String}
  {ptbReferencePrice : Option ℚ} {source : PriceToBeatCurrentPriceSource}
  {timeDecayMode : Option String} {scope : UpdownScopeDef} {direction : Direction}
  {reference t t' : ℚ}

theorem Held.moved (h : Held prices marketSlug outcomeLabel ptbReferencePrice scope direction
    reference) (hmoved : MovedAgainst direction prices prices') :
    Held prices' marketSlug outcomeLabel ptbReferencePrice scope direction reference := by
  refine ⟨h.found, h.timeframe, h.faces, ?_⟩
  rw [resolvedReference, hmoved.cachedReference]
  exact h.refers

theorem source_of_normalized {asset : String}
    (h : source.normalizeForAsset asset = .cexMedianFast) : source = .cexMedianFast := by
  unfold normalizeForAsset at h
  split_ifs at h
  exact h

theorem triggered_moved
    (hheld : Held prices marketSlug outcomeLabel ptbReferencePrice scope direction reference)
    (hmoved : MovedAgainst direction prices prices') (ht : t ≤ t')
    (h : triggered now prices marketSlug outcomeLabel ptbReferencePrice source timeDecayMode t =
      true) :
    triggered now prices' marketSlug outcomeLabel ptbReferencePrice source timeDecayMode t' =
        true ∨ source = .cexMedianFast ∧ ¬ MedianSplit prices marketSlug t ∧
      MedianSplit prices' marketSlug t' := by
  rw [triggered_eq hheld, decides_iff] at h
  have hreached := reached_moved hmoved (effectiveGap_mono now marketSlug timeDecayMode ht) t t'
    (normalize_normalize source (scopeAsset scope)) h
  rcases hreached with hreached | ⟨hmedian, hsplit⟩
  · refine .inl ?_
    rw [triggered_eq (hheld.moved hmoved), decides_iff]
    exact hreached
  · exact .inr ⟨source_of_normalized hmedian, hsplit⟩

theorem not_held_triggered (h : ¬ ∃ scope direction reference, Held prices marketSlug
    outcomeLabel ptbReferencePrice scope direction reference) :
    triggered now prices marketSlug outcomeLabel ptbReferencePrice source timeDecayMode t =
      false :=
  Bool.eq_false_iff.mpr fun htriggered => h (held_of_triggered htriggered)

theorem triggered_of_split (hsplit : MedianSplit prices marketSlug t) :
    triggered now prices marketSlug outcomeLabel ptbReferencePrice .cexMedianFast timeDecayMode t =
      triggered now prices marketSlug outcomeLabel ptbReferencePrice
        .chainlinkCexConsensusConfirmed timeDecayMode t := by
  by_cases hheld : ∃ scope direction reference,
      Held prices marketSlug outcomeLabel ptbReferencePrice scope direction reference
  · obtain ⟨scope, direction, reference, hheld⟩ := hheld
    rw [triggered_eq hheld, triggered_eq hheld, Bool.eq_iff_iff, decides_iff, decides_iff]
    unfold heldEvaluations
    rw [normalize_of_ne (by decide) (by decide), normalize_of_ne (by decide) (by decide)]
    exact reached_of_split hsplit
  · rw [not_held_triggered hheld, not_held_triggered hheld]

theorem triggered_mirror {otherLabel : String}
    (hface : tradeBuilderPtbDirection outcomeLabel = some direction)
    (hother : tradeBuilderPtbDirection otherLabel = some direction.opposite)
    (hreference : resolvedReference prices ptbReferencePrice = some reference) :
    triggered now (prices.mirror reference) marketSlug otherLabel ptbReferencePrice source
        timeDecayMode t =
      triggered now prices marketSlug outcomeLabel ptbReferencePrice source timeDecayMode t := by
  by_cases hscope : ∃ scope, findUpdownScopeBySlug marketSlug = some scope ∧
      (scope.timeframe = "5m" ∨ scope.timeframe = "15m")
  · obtain ⟨scope, hfound, htimeframe⟩ := hscope
    have hheld : Held prices marketSlug outcomeLabel ptbReferencePrice scope direction reference :=
      ⟨hfound, htimeframe, hface, hreference⟩
    have hmirror : Held (prices.mirror reference) marketSlug otherLabel ptbReferencePrice scope
        direction.opposite reference := ⟨hfound, htimeframe, hother, hreference⟩
    rw [triggered_eq hheld, triggered_eq hmirror, Bool.eq_iff_iff, decides_iff, decides_iff]
    unfold heldEvaluations
    rw [evaluations_mirror]
    exact reached_mirror _
  · have hnot (prices : PtbPrices) (label : String) : ¬ ∃ scope direction reference,
        Held prices marketSlug label ptbReferencePrice scope direction reference := by
      rintro ⟨scope, direction, reference, hheld⟩
      exact hscope ⟨scope, hheld.found, hheld.timeframe⟩
    rw [not_held_triggered (hnot _ _), not_held_triggered (hnot _ _)]

/-- For every market, instant, source, mode, reference and set of prices. -/
theorem ptbStopLoss_law (now : Instant) (prices : PtbPrices) (marketSlug : String)
    (ptbReferencePrice : Option ℚ) (source : PriceToBeatCurrentPriceSource)
    (timeDecayMode : Option String) :
    StopLossLaw now prices marketSlug ptbReferencePrice source timeDecayMode := by
  refine ⟨fun outcomeLabel direction prices' t hface hmoved h => ?_,
    fun outcomeLabel t t' ht h => ?_, fun outcomeLabel t hsplit => ?_,
    fun outcomeLabel otherLabel direction reference t hface hother hreference => ?_⟩
  · obtain ⟨scope, direction', reference, hheld⟩ := held_of_triggered h
    obtain rfl := Option.some.inj (hface.symm.trans hheld.faces)
    exact triggered_moved hheld hmoved le_rfl h
  · obtain ⟨scope, direction, reference, hheld⟩ := held_of_triggered h
    exact triggered_moved hheld (MovedAgainst.refl direction prices) ht h
  · exact triggered_of_split hsplit
  · exact triggered_mirror hface hother hreference

end Law

/-! ### Two legs that split -/

/-- A market whose window opened at 100 everywhere, of which Chainlink and two venues are
known. -/
def twoLegs (chainlink binance okx : ℚ) : PtbPrices where
  chainlink := some chainlink
  latestBook
    | .binance => some ⟨binance, 0⟩
    | .okx => some ⟨okx, 0⟩
    | _ => none
  openMid _ := some 100
  cachedReference := some 100

/-- One leg falls on, from 94 to 50, and the stop loss is off; so it is for a threshold of -1
where one of -5 triggers. -/
theorem split_legs_untrigger :
    (¬ ∀ now prices prices' marketSlug outcomeLabel direction reference source mode t,
      tradeBuilderPtbDirection outcomeLabel = some direction →
      MovedAgainst direction prices prices' →
      triggered now prices marketSlug outcomeLabel reference source mode t = true →
      triggered now prices' marketSlug outcomeLabel reference source mode t = true) ∧
    ¬ ∀ now prices marketSlug outcomeLabel reference source mode t t', t ≤ t' →
      triggered now prices marketSlug outcomeLabel reference source mode t = true →
      triggered now prices marketSlug outcomeLabel reference source mode t' = true := by
  constructor
  · intro h
    have hmoved : MovedAgainst .up (twoLegs 120 94 94) (twoLegs 120 50 94) := by
      refine ⟨.some (le_refl _), fun venue => ?_, rfl, rfl⟩
      cases venue
      case binance => exact .some ⟨rfl, show (50 : ℚ) ≤ 94 by norm_num⟩
      case okx => exact .some ⟨rfl, le_refl _⟩
      all_goals exact .none
    have hoff := h 0 _ _ "btc-updown-5m-300" "Up" .up none .cexMedianFast none (-5)
      (by decide +kernel) hmoved (by decide +kernel)
    revert hoff
    decide +kernel
  · intro h
    have hoff := h 0 (twoLegs 120 94 84) "btc-updown-5m-300" "Up" none .cexMedianFast none (-5)
      (-1) (by norm_num) (by decide +kernel)
    revert hoff
    decide +kernel

end PolymarketBot.PriceToBeat
