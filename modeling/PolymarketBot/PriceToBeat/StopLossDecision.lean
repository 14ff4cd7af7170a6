import PolymarketBot.PriceToBeat.StopLoss

/-! Which sources decide a price-to-beat stop loss, and for which orders any do. -/

namespace PolymarketBot.PriceToBeat
open Flow PriceToBeatCurrentPriceSource

def decides (source : PriceToBeatCurrentPriceSource) (evaluations : List SourceEvaluation)
    (thresholdGapUsd : ℚ) : Bool :=
  (tradeBuilderPtbStopLossSelectSource evaluations).any fun selected =>
    tradeBuilderPtbStopLossFinalShouldTrigger source selected evaluations thresholdGapUsd

section Decision
variable {evaluations : List SourceEvaluation} {source : PriceToBeatCurrentPriceSource} {t : ℚ}

theorem hit_iff {e : SourceEvaluation} :
    e.hit = true ↔ e.priced = true ∧ e.shouldTrigger = true := Bool.and_eq_true_iff

theorem select_some {e : SourceEvaluation}
    (h : tradeBuilderPtbStopLossSelectSource evaluations = some e) :
    e.priced = true ∧ ((∃ e ∈ evaluations, e.hit = true) → e.shouldTrigger = true) ∧
      e ∈ evaluations := by
  have hfound (kind : PriceToBeatCurrentPriceSource)
      (hfind : (evaluations.find? fun e => e.configSource = kind && e.hit) = some e) :
      e.priced = true ∧ ((∃ e ∈ evaluations, e.hit = true) → e.shouldTrigger = true) ∧
        e ∈ evaluations := by
    have hchosen := List.find?_some hfind
    simp only [Bool.and_eq_true, hit_iff] at hchosen
    obtain ⟨-, hpriced, htrigger⟩ := hchosen
    exact ⟨hpriced, fun _ => htrigger, List.mem_of_find?_eq_some hfind⟩
  rcases Option.or_eq_some_iff.mp h with hmedian | ⟨-, hrest⟩
  · exact hfound _ hmedian
  rcases Option.or_eq_some_iff.mp hrest with hchainlink | ⟨-, hlowest⟩
  · exact hfound _ hchainlink
  · obtain ⟨hmem, hkept⟩ := List.mem_filter.mp (List.argmin_mem hlowest)
    obtain ⟨hmem, hpriced⟩ := List.mem_filter.mp hmem
    refine ⟨hpriced, fun hhit => ?_, hmem⟩
    have hany : evaluations.any SourceEvaluation.hit = true := List.any_eq_true.mpr hhit
    simpa [hany] using hkept

theorem select_none (h : tradeBuilderPtbStopLossSelectSource evaluations = none)
    {e : SourceEvaluation} (hmem : e ∈ evaluations) : e.priced = false := by
  have hlowest := List.argmin_eq_none.mp (Option.or_eq_none_iff.mp (Option.or_eq_none_iff.mp h).2).2
  by_contra hpriced
  have hpriced : e.priced = true := Bool.eq_true_of_not_eq_false hpriced
  have hkept (k : SourceEvaluation) (hk : k ∈ evaluations) (hp : k.priced = true)
      (hok : (!(evaluations.any SourceEvaluation.hit) || k.shouldTrigger) = true) : False := by
    have hin : k ∈ (evaluations.filter SourceEvaluation.priced).filter fun e =>
        !(evaluations.any SourceEvaluation.hit) || e.shouldTrigger :=
      List.mem_filter.mpr ⟨List.mem_filter.mpr ⟨hk, hp⟩, hok⟩
    rw [hlowest] at hin
    exact List.not_mem_nil hin
  cases hany : evaluations.any SourceEvaluation.hit with
  | false => exact hkept e hmem hpriced (by simp [hany])
  | true =>
    obtain ⟨k, hk, hhit⟩ := List.any_eq_true.mp hany
    obtain ⟨hp, htrigger⟩ := hit_iff.mp hhit
    exact hkept k hk hp (by simp [htrigger])

/-- Whether the sources that decide have reached the threshold. -/
def Reached (source : PriceToBeatCurrentPriceSource) (evaluations : List SourceEvaluation)
    (t : ℚ) : Prop :=
  match source with
  | .cexMedianFast => (∃ e ∈ evaluations, e.configSource = .cexMedianFast ∧ e.hit = true) ∨
      confirmedCexBackstopShouldTrigger evaluations t = true
  | .chainlinkCexConsensusConfirmed => confirmedCexBackstopShouldTrigger evaluations t = true
  | _ => ∃ e ∈ evaluations, e.hit = true

theorem backstop_hit (h : confirmedCexBackstopShouldTrigger evaluations t = true) :
    ∃ e ∈ evaluations, e.hit = true := by
  have hof {p : SourceEvaluation → Bool} {kind : PriceToBeatCurrentPriceSource}
      (hp : ∀ e, p e = true → e.hit = true)
      (hany : (evaluations.find? (·.configSource = kind)).any p = true) :
      ∃ e ∈ evaluations, e.hit = true := by
    obtain ⟨e, hfind, he⟩ := (Option.any_eq_true _ _).mp hany
    exact ⟨e, List.mem_of_find?_eq_some hfind, hp e he⟩
  unfold confirmedCexBackstopShouldTrigger at h
  dsimp only at h
  split_ifs at h with hchainlink
  · exact hof (fun _ he => he) hchainlink
  · exact hof (fun _ he => (Bool.and_eq_true_iff.mp he).1) h

theorem decides_iff : decides source evaluations t = true ↔ Reached source evaluations t := by
  have hnone (h : tradeBuilderPtbStopLossSelectSource evaluations = none) :
      ¬ ∃ e ∈ evaluations, e.hit = true := by
    rintro ⟨e, hmem, hhit⟩
    rw [SourceEvaluation.hit, select_none h hmem, Bool.false_and] at hhit
    cases hhit
  unfold decides
  cases hselect : tradeBuilderPtbStopLossSelectSource evaluations with
  | none =>
    simp only [Option.any_none, Bool.false_eq_true, false_iff]
    intro hreached
    refine hnone hselect ?_
    cases source
    case cexMedianFast =>
      rcases hreached with ⟨e, hmem, -, hhit⟩ | hbackstop
      · exact ⟨e, hmem, hhit⟩
      · exact backstop_hit hbackstop
    case chainlinkCexConsensusConfirmed => exact backstop_hit hreached
    all_goals exact hreached
  | some selected =>
    obtain ⟨hpriced, htriggers, hmem⟩ := select_some hselect
    have hplain : selected.shouldTrigger = true ↔ ∃ e ∈ evaluations, e.hit = true :=
      ⟨fun h => ⟨selected, hmem, hit_iff.mpr ⟨hpriced, h⟩⟩, htriggers⟩
    cases source
    case cexMedianFast => simp [tradeBuilderPtbStopLossFinalShouldTrigger, Reached]
    case chainlinkCexConsensusConfirmed => exact Iff.rfl
    all_goals exact hplain

def effectiveGap (now : Instant) (marketSlug : String) (timeDecayMode : Option String)
    (thresholdGapUsd : ℚ) : ℚ :=
  tradeBuilderPtbStopLossEffectiveGapUsdForMarket now marketSlug thresholdGapUsd timeDecayMode

def triggered (now : Instant) (prices : PtbPrices) (marketSlug outcomeLabel : String)
    (ptbReferencePrice : Option ℚ) (source : PriceToBeatCurrentPriceSource)
    (timeDecayMode : Option String) (thresholdGapUsd : ℚ) : Bool :=
  (tradeBuilderEvaluatePtbStopLossInputs now prices marketSlug outcomeLabel thresholdGapUsd
    ptbReferencePrice source timeDecayMode).shouldTrigger

variable {now : Instant} {prices : PtbPrices} {marketSlug outcomeLabel : String}
  {ptbReferencePrice : Option ℚ} {timeDecayMode : Option String}

/-- A market that is supported, for an outcome with a direction and a known reference. -/
structure Held (prices : PtbPrices) (marketSlug outcomeLabel : String)
    (ptbReferencePrice : Option ℚ) (scope : UpdownScopeDef) (direction : Direction)
    (reference : ℚ) : Prop where
  found : findUpdownScopeBySlug marketSlug = some scope
  timeframe : scope.timeframe = "5m" ∨ scope.timeframe = "15m"
  faces : tradeBuilderPtbDirection outcomeLabel = some direction
  refers : resolvedReference prices ptbReferencePrice = some reference

def heldEvaluations (now : Instant) (prices : PtbPrices) (marketSlug : String)
    (source : PriceToBeatCurrentPriceSource) (timeDecayMode : Option String)
    (scope : UpdownScopeDef) (direction : Direction) (reference t : ℚ) : List SourceEvaluation :=
  tradeBuilderPtbStopLossSourceEvaluations prices direction
    (effectiveGap now marketSlug timeDecayMode t) reference
    (source.normalizeForAsset (scopeAsset scope)) marketSlug (scopeAsset scope) t

theorem triggered_eq {scope : UpdownScopeDef} {direction : Direction} {reference : ℚ}
    (h : Held prices marketSlug outcomeLabel ptbReferencePrice scope direction reference) :
    triggered now prices marketSlug outcomeLabel ptbReferencePrice source timeDecayMode t =
      decides (source.normalizeForAsset (scopeAsset scope))
        (heldEvaluations now prices marketSlug source timeDecayMode scope direction reference t)
        (effectiveGap now marketSlug timeDecayMode t) := by
  have htimeframe : ¬ ¬ (scope.timeframe = "5m" ∨ scope.timeframe = "15m") :=
    not_not.mpr h.timeframe
  unfold triggered tradeBuilderEvaluatePtbStopLossInputs decides heldEvaluations effectiveGap
  simp only [h.found, if_neg htimeframe, h.faces, h.refers]
  generalize tradeBuilderPtbStopLossSourceEvaluations prices direction _ reference _ marketSlug _ t
    = evaluations
  cases tradeBuilderPtbStopLossSelectSource evaluations with
  | none => simp only [undecided, Option.any_none]
  | some selected => simp only [Option.any_some]

theorem held_of_triggered (h : triggered now prices marketSlug outcomeLabel ptbReferencePrice
    source timeDecayMode t = true) : ∃ scope direction reference,
      Held prices marketSlug outcomeLabel ptbReferencePrice scope direction reference := by
  unfold triggered tradeBuilderEvaluatePtbStopLossInputs at h
  cases hscope : findUpdownScopeBySlug marketSlug with
  | none => simp [hscope, undecided] at h
  | some scope =>
    by_cases htimeframe : scope.timeframe = "5m" ∨ scope.timeframe = "15m"
    swap
    · simp [hscope, htimeframe, undecided] at h
    cases hdirection : tradeBuilderPtbDirection outcomeLabel with
    | none => simp [hscope, htimeframe, hdirection, undecided] at h
    | some direction =>
      cases hreference : resolvedReference prices ptbReferencePrice with
      | none => simp [hscope, htimeframe, hdirection, hreference, undecided] at h
      | some reference => exact ⟨scope, direction, reference, hscope, htimeframe, hdirection,
          hreference⟩

end Decision

end PolymarketBot.PriceToBeat
