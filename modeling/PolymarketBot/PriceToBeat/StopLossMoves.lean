import Mathlib.Tactic.Linarith
import PolymarketBot.Lib.Median
import PolymarketBot.PriceToBeat.StopLossDecision

/-! What prices that move on against the held outcome, and wider thresholds, do to each source
of a price-to-beat stop loss. -/

namespace PolymarketBot.PriceToBeat
open Flow Lib PriceToBeatCurrentPriceSource

/-- A price, or a move, that is no better for the held outcome. -/
def NoBetter : Direction → ℚ → ℚ → Prop
  | .up, price, price' => price' ≤ price
  | .down, price, price' => price ≤ price'

/-- The book of a venue with a mid that is no better, and as fresh. -/
def BookNoBetter (direction : Direction) (book book' : VenueBook) : Prop :=
  book'.stalenessMs = book.stalenessMs ∧ NoBetter direction book.mid book'.mid

/-- Some current prices have moved on against the held outcome; all else is as it was. -/
structure MovedAgainst (direction : Direction) (prices prices' : PtbPrices) : Prop where
  chainlink : Option.Rel (NoBetter direction) prices.chainlink prices'.chainlink
  books : ∀ venue, Option.Rel (BookNoBetter direction) (prices.latestBook venue)
    (prices'.latestBook venue)
  openMid : prices'.openMid = prices.openMid
  cachedReference : prices'.cachedReference = prices.cachedReference

section Moved
variable {direction : Direction} {prices prices' : PtbPrices} {t t' reference : ℚ}

theorem rel_isSome {α β : Type} {R : α → β → Prop} {x : Option α} {y : Option β}
    (h : Option.Rel R x y) : y.isSome = x.isSome := by
  cases h <;> rfl

theorem rel_mem {α β : Type} {R : α → β → Prop} {x : Option α} {y : Option β}
    (h : Option.Rel R x y) {a : α} (ha : a ∈ x) : ∃ b ∈ y, R a b := by
  cases h with
  | none => cases ha
  | @some a' b hR => exact ⟨b, rfl, Option.some.inj ha ▸ hR⟩

theorem gap_of_noBetter (reference : ℚ) {price price' : ℚ} (h : NoBetter direction price price') :
    tradeBuilderPtbDirectionalGap direction reference price' ≤
      tradeBuilderPtbDirectionalGap direction reference price := by
  cases direction <;> simp only [NoBetter, tradeBuilderPtbDirectionalGap] at h ⊢ <;> linarith

theorem NoBetter.shift {a a' : ℚ} (h : NoBetter direction a a') (b : ℚ) :
    NoBetter direction (b + a) (b + a') := by
  cases direction <;> simp only [NoBetter] at h ⊢ <;> linarith

theorem MovedAgainst.refl (direction : Direction) (prices : PtbPrices) :
    MovedAgainst direction prices prices := by
  have hsame (price : ℚ) : NoBetter direction price price := by
    cases direction <;> exact le_refl price
  constructor
  · cases prices.chainlink with
    | none => exact .none
    | some price => exact .some (hsame price)
  · intro venue
    cases prices.latestBook venue with
    | none => exact .none
    | some book => exact .some ⟨rfl, hsame book.mid⟩
  · rfl
  · rfl

theorem rel_freshBook (h : MovedAgainst direction prices prices') (venue : CexVenue)
    (maxStaleMs : ℤ) : Option.Rel (BookNoBetter direction) (freshBook prices venue maxStaleMs)
      (freshBook prices' venue maxStaleMs) := by
  have hbook := h.books venue
  unfold freshBook
  generalize prices.latestBook venue = book at hbook ⊢
  generalize prices'.latestBook venue = book' at hbook ⊢
  cases hbook with
  | none => exact .none
  | @some b b' hrel =>
    simp only [Option.filter_some, hrel.1]
    split_ifs
    · exact .some hrel
    · exact .none

theorem rel_freshMid (h : MovedAgainst direction prices prices') (venue : CexVenue)
    (maxStaleMs : ℤ) : Option.Rel (NoBetter direction)
      ((freshBook prices venue maxStaleMs).map VenueBook.mid)
      ((freshBook prices' venue maxStaleMs).map VenueBook.mid) := by
  have hbook := rel_freshBook h venue maxStaleMs
  generalize freshBook prices venue maxStaleMs = book at hbook ⊢
  generalize freshBook prices' venue maxStaleMs = book' at hbook ⊢
  cases hbook with
  | none => exact .none
  | some hrel => exact .some hrel.2

theorem rel_venueDelta (h : MovedAgainst direction prices prices') (venue : CexVenue)
    (maxStaleMs : ℤ) : Option.Rel (fun δ δ' : CexVenueDelta =>
      δ'.bookStalenessMs = δ.bookStalenessMs ∧ NoBetter direction δ.deltaUsd δ'.deltaUsd)
      (venueDeltaSnapshot prices venue maxStaleMs)
      (venueDeltaSnapshot prices' venue maxStaleMs) := by
  have hbook := rel_freshBook h venue maxStaleMs
  unfold venueDeltaSnapshot
  rw [h.openMid]
  generalize freshBook prices venue maxStaleMs = book at hbook ⊢
  generalize freshBook prices' venue maxStaleMs = book' at hbook ⊢
  cases hbook with
  | none => exact .none
  | @some b b' hrel =>
    cases prices.openMid venue with
    | none => exact .none
    | some openMid =>
      refine .some ⟨hrel.1, ?_⟩
      simpa only [sub_eq_neg_add] using hrel.2.shift (-openMid)

theorem rel_resolved (h : MovedAgainst direction prices prices')
    (source : PriceToBeatCurrentPriceSource) (asset : String) :
    Option.Rel (NoBetter direction) (resolvePriceToBeatCurrentPriceSnapshot prices source asset)
      (resolvePriceToBeatCurrentPriceSnapshot prices' source asset) := by
  unfold resolvePriceToBeatCurrentPriceSnapshot
  dsimp only
  cases (source.normalizeForAsset asset).cexVenue with
  | some venue => exact rel_freshMid h venue defaultMaxBookStaleMs
  | none =>
    dsimp only
    split_ifs
    · exact h.chainlink
    · exact .none

/-- An evaluation that is no better for the held outcome. -/
structure Adverse (e e' : SourceEvaluation) : Prop where
  source : e'.configSource = e.configSource
  priced : e'.priced = e.priced
  trigger : e.shouldTrigger = true → e'.shouldTrigger = true
  gap : ∀ g ∈ e.directionalGap, ∃ g' ∈ e'.directionalGap, g' ≤ g

theorem Adverse.hit {e e' : SourceEvaluation} (h : Adverse e e') (hhit : e.hit = true) :
    e'.hit = true := by
  obtain ⟨hpriced, htrigger⟩ := hit_iff.mp hhit
  exact hit_iff.mpr ⟨h.priced.trans hpriced, h.trigger htrigger⟩

theorem adverse_unavailable (source : PriceToBeatCurrentPriceSource) (code code' : String) :
    Adverse (unavailableSource source code) (unavailableSource source code') :=
  ⟨rfl, rfl, fun h => h, fun _ hg => nomatch hg⟩

theorem pricedSource_triggers {source : PriceToBeatCurrentPriceSource} {price : ℚ} :
    (pricedSource direction t reference source price).shouldTrigger = true ↔
      tradeBuilderPtbDirectionalGap direction reference price ≤ t := by
  simp only [pricedSource, decide_eq_true_eq]

theorem pricedSource_gap {source : PriceToBeatCurrentPriceSource} {price : ℚ} :
    (pricedSource direction t reference source price).directionalGap =
      some (tradeBuilderPtbDirectionalGap direction reference price) := rfl

theorem adverse_priced {price price' : ℚ} (h : NoBetter direction price price') (ht : t ≤ t')
    (source : PriceToBeatCurrentPriceSource) :
    Adverse (pricedSource direction t reference source price)
      (pricedSource direction t' reference source price') := by
  have hgap := gap_of_noBetter reference h
  constructor
  · rfl
  · rfl
  · intro htrigger
    rw [pricedSource_triggers] at htrigger ⊢
    exact (hgap.trans htrigger).trans ht
  · intro g hg
    rw [pricedSource_gap] at hg ⊢
    exact ⟨_, rfl, Option.some.inj hg ▸ hgap⟩

theorem adverse_single (reference : ℚ) (h : MovedAgainst direction prices prices') (ht : t ≤ t')
    (source : PriceToBeatCurrentPriceSource) (asset : String) :
    Adverse (tradeBuilderPtbStopLossSourceEvaluation prices direction t reference source asset)
      (tradeBuilderPtbStopLossSourceEvaluation prices' direction t' reference source asset) := by
  have hprice := rel_resolved h source asset
  unfold tradeBuilderPtbStopLossSourceEvaluation
  generalize resolvePriceToBeatCurrentPriceSnapshot prices source asset = price at hprice ⊢
  generalize resolvePriceToBeatCurrentPriceSnapshot prices' source asset = price' at hprice ⊢
  cases hprice with
  | none => exact adverse_unavailable ..
  | some hrel => exact adverse_priced hrel ht source

theorem consensusGap_moved (h : MovedAgainst direction prices prices') (venue : CexVenue) :
    Option.Rel (fun g g' => g' ≤ g) (consensusGap prices direction venue)
      (consensusGap prices' direction venue) := by
  have hdelta := rel_venueDelta h venue consensusMaxBookStaleMs
  unfold consensusGap
  generalize venueDeltaSnapshot prices venue consensusMaxBookStaleMs = snapshot at hdelta ⊢
  generalize venueDeltaSnapshot prices' venue consensusMaxBookStaleMs = snapshot' at hdelta ⊢
  cases hdelta with
  | none => exact .none
  | some hrel =>
    refine .some ?_
    cases direction with
    | up => exact hrel.2
    | down => exact neg_le_neg hrel.2

theorem consensusHit_moved (h : MovedAgainst direction prices prices') (ht : t ≤ t')
    {venue : CexVenue} (hhit : consensusHit prices direction t venue = true) :
    consensusHit prices' direction t' venue = true := by
  obtain ⟨gap, hgap, hle⟩ := (Option.any_eq_true _ _).mp hhit
  obtain ⟨gap', hgap', hmoved⟩ := rel_mem (consensusGap_moved h venue) hgap
  refine (Option.any_eq_true _ _).mpr ⟨gap', hgap', decide_eq_true ?_⟩
  exact (hmoved.trans (of_decide_eq_true hle)).trans ht

theorem confirmed_moved (h : MovedAgainst direction prices prices') (ht : t ≤ t')
    {anchorVenue : CexVenue} (hconfirmed :
      (!(confirmingVenues prices direction t anchorVenue).isEmpty) = true) :
    (!(confirmingVenues prices' direction t' anchorVenue).isEmpty) = true := by
  have hmem (prices : PtbPrices) (t : ℚ) :
      (!(confirmingVenues prices direction t anchorVenue).isEmpty) = true ↔
        ∃ venue, venue ∈ confirmingVenues prices direction t anchorVenue := by
    rw [Bool.not_eq_true', List.isEmpty_eq_false_iff_exists_mem]
  obtain ⟨venue, hvenue⟩ := (hmem prices t).mp hconfirmed
  refine (hmem prices' t').mpr ⟨venue, ?_⟩
  obtain ⟨hlisted, hhit⟩ := List.mem_filter.mp hvenue
  obtain ⟨hother, hhit⟩ := Bool.and_eq_true_iff.mp hhit
  exact List.mem_filter.mpr ⟨hlisted, Bool.and_eq_true_iff.mpr
    ⟨hother, consensusHit_moved h ht hhit⟩⟩

theorem adverse_consensus (reference : ℚ) (h : MovedAgainst direction prices prices') (ht : t ≤ t')
    (marketSlug : String) :
    Adverse (evaluateCexConsensusPtbStopLoss prices direction t reference marketSlug)
      (evaluateCexConsensusPtbStopLoss prices' direction t' reference marketSlug) := by
  unfold evaluateCexConsensusPtbStopLoss
  cases findUpdownScopeBySlug marketSlug with
  | none => exact adverse_unavailable ..
  | some scope =>
    by_cases hstart : (marketStartTime marketSlug).isNone = true
    · simp only [hstart, if_true]
      exact adverse_unavailable ..
    simp only [hstart, Bool.false_eq_true, if_false]
    constructor
    · rfl
    · have hdelta := rel_venueDelta h (activeAnchorVenueForAsset (scopeAsset scope))
        consensusMaxBookStaleMs
      simp only [SourceEvaluation.priced, Option.isSome_map]
      exact rel_isSome hdelta
    · intro htrigger
      obtain ⟨hanchor, hconfirmed⟩ := Bool.and_eq_true_iff.mp htrigger
      exact Bool.and_eq_true_iff.mpr ⟨consensusHit_moved h ht hanchor,
        confirmed_moved h ht hconfirmed⟩
    · exact fun gap hgap => rel_mem (consensusGap_moved h _) hgap

/-! ### The CEX median -/

/-- Two legs that are further apart than the sanity band. -/
def Split (band : ℚ) (legs : List ℚ) : Prop := ∃ left right, legs = [left, right] ∧
  band < |left - right|

theorem legs_moved (h : MovedAgainst direction prices prices') (asset : String) :
    List.Forall₂ (NoBetter direction) (cexMedianFastLegs prices asset)
      (cexMedianFastLegs prices' asset) := by
  have hleg (venue : CexVenue) : Option.Rel (NoBetter direction)
      ((loadCexMedianFastLeg prices venue).map CexVenueDelta.deltaUsd)
      ((loadCexMedianFastLeg prices' venue).map CexVenueDelta.deltaUsd) := by
    have hdelta := rel_venueDelta h venue cexMedianFastMaxStaleMs
    unfold loadCexMedianFastLeg
    generalize venueDeltaSnapshot prices venue cexMedianFastMaxStaleMs = leg at hdelta ⊢
    generalize venueDeltaSnapshot prices' venue cexMedianFastMaxStaleMs = leg' at hdelta ⊢
    cases hdelta with
    | none => exact .none
    | @some a b hrel =>
      simp only [Option.filter_some, hrel.1]
      split_ifs
      · exact .some hrel.2
      · exact .none
  have hsame : List.Forall₂ Eq (activeSpotVenuesForAsset asset) (activeSpotVenuesForAsset asset) :=
    List.forall₂_same.mpr fun _ _ => rfl
  exact List.rel_filterMap (fun venue venue' heq => heq ▸ hleg venue) hsame

theorem noBetter_median3 {a b c a' b' c' : ℚ} (ha : NoBetter direction a a')
    (hb : NoBetter direction b b') (hc : NoBetter direction c c') :
    NoBetter direction (median3 a b c) (median3 a' b' c') := by
  cases direction with
  | up => exact median3_mono ha hb hc
  | down => exact median3_mono ha hb hc

theorem select_three (band : ℚ) (a b c : ℚ) :
    selectCexMedianFastDelta direction band [a, b, c] = .ok (median3 a b c) := by
  obtain ⟨low, high, hsort⟩ := insertionSort_three a b c
  simp only [selectCexMedianFastDelta, hsort]

theorem select_moved {legs legs' : List ℚ} (h : List.Forall₂ (NoBetter direction) legs legs')
    {band δ : ℚ} (band' : ℚ)
    (hδ : selectCexMedianFastDelta direction band legs = .ok δ) :
    (∃ δ', selectCexMedianFastDelta direction band' legs' = .ok δ' ∧ NoBetter direction δ δ') ∨
      ¬ Split band legs ∧ Split band' legs' := by
  rcases h with _ | ⟨ha, _ | ⟨hb, _ | ⟨hc, _ | ⟨hd, htail⟩⟩⟩⟩
  case nil => cases hδ
  case cons.nil => cases hδ
  case cons.cons.cons.cons => cases hδ
  case cons.cons.cons.nil a a' b b' c c' =>
    rw [select_three] at hδ
    refine .inl ⟨_, select_three .., ?_⟩
    exact Except.ok.inj hδ ▸ noBetter_median3 ha hb hc
  case cons.cons.nil left left' right right' =>
    simp only [selectCexMedianFastDelta] at hδ
    split_ifs at hδ with hband
    by_cases hband' : band' < |left' - right'|
    · refine .inr ⟨?_, left', right', rfl, hband'⟩
      rintro ⟨x, y, hxy, hsplit⟩
      cases hxy
      exact hband hsplit
    · refine .inl ⟨_, if_neg hband', ?_⟩
      rw [← Except.ok.inj hδ]
      cases direction with
      | up => exact min_le_min ha hb
      | down => exact max_le_max ha hb

/-- The CEX median of this market has two legs that are further apart than the band of this
threshold. -/
def MedianSplit (prices : PtbPrices) (marketSlug : String) (thresholdGapUsd : ℚ) : Prop :=
  ∃ scope, findUpdownScopeBySlug marketSlug = some scope ∧
    Split (3 * |thresholdGapUsd|) (cexMedianFastLegs prices (scopeAsset scope))

theorem median_moved (h : MovedAgainst direction prices prices') (ht : t ≤ t')
    {marketSlug : String} {base base' : ℚ}
    (hhit : (evaluateCexMedianFastPtbStopLoss prices direction t reference marketSlug base).hit =
      true) :
    (evaluateCexMedianFastPtbStopLoss prices' direction t' reference marketSlug base').hit = true ∨
      ¬ MedianSplit prices marketSlug base ∧ MedianSplit prices' marketSlug base' := by
  have hunavailable (source : PriceToBeatCurrentPriceSource) (code : String) :
      (unavailableSource source code).hit = false := rfl
  unfold evaluateCexMedianFastPtbStopLoss at hhit ⊢
  cases hscope : findUpdownScopeBySlug marketSlug with
  | none => simp [hscope, hunavailable] at hhit
  | some scope =>
    by_cases hstart : (marketStartTime marketSlug).isNone = true
    · simp [hscope, hstart, hunavailable] at hhit
    simp only [hscope, hstart, Bool.false_eq_true, if_false] at hhit ⊢
    cases hδ : selectCexMedianFastDelta direction (3 * |base|)
        (cexMedianFastLegs prices (scopeAsset scope)) with
    | error code => simp [hδ, hunavailable] at hhit
    | ok δ =>
      simp only [hδ] at hhit
      rcases select_moved (legs_moved h (scopeAsset scope)) (3 * |base'|) hδ with
        ⟨δ', hδ', hmoved⟩ | ⟨hbefore, hafter⟩
      · refine .inl ?_
        simp only [hδ']
        exact (adverse_priced (hmoved.shift reference) ht .cexMedianFast).hit hhit
      · refine .inr ⟨?_, scope, hscope, hafter⟩
        rintro ⟨other, hother, hsplit⟩
        cases hscope.symm.trans hother
        exact hbefore hsplit

/-! ### The backstop -/

theorem single_source (source : PriceToBeatCurrentPriceSource) (asset : String) :
    (tradeBuilderPtbStopLossSourceEvaluation prices direction t reference source
      asset).configSource = source := by
  unfold tradeBuilderPtbStopLossSourceEvaluation
  cases resolvePriceToBeatCurrentPriceSnapshot prices source asset <;> rfl

theorem consensus_source (marketSlug : String) :
    (evaluateCexConsensusPtbStopLoss prices direction t reference marketSlug).configSource =
      .cexConsensus := by
  unfold evaluateCexConsensusPtbStopLoss
  cases findUpdownScopeBySlug marketSlug with
  | none => rfl
  | some scope =>
    simp only
    split_ifs <;> rfl

theorem median_source (marketSlug : String) (base : ℚ) :
    (evaluateCexMedianFastPtbStopLoss prices direction t reference marketSlug base).configSource =
      .cexMedianFast := by
  unfold evaluateCexMedianFastPtbStopLoss
  cases findUpdownScopeBySlug marketSlug with
  | none => rfl
  | some scope =>
    simp only
    split_ifs
    · rfl
    · cases selectCexMedianFastDelta direction (3 * |base|)
        (cexMedianFastLegs prices (scopeAsset scope)) <;> rfl

section Backstop
variable {m c k c' k' : SourceEvaluation}

theorem backstop_pair (hc : c.configSource = .chainlink) (hk : k.configSource = .cexConsensus) :
    confirmedCexBackstopShouldTrigger [c, k] t = true ↔ c.hit = true ∨ c.priced = false ∧
      k.hit = true ∧ k.directionalGap.any (confirmedCexFallbackOvershot · t) = true := by
  have hfirst : ([c, k].find? (·.configSource = .chainlink)) = some c := by simp [hc]
  have hsecond : ([c, k].find? (·.configSource = .cexConsensus)) = some k := by simp [hc, hk]
  simp only [confirmedCexBackstopShouldTrigger, hfirst, hsecond, Option.any_some]
  cases hhit : c.hit <;> cases hpriced : c.priced <;> simp

theorem backstop_triple (hm : m.configSource = .cexMedianFast) :
    confirmedCexBackstopShouldTrigger [m, c, k] t =
      confirmedCexBackstopShouldTrigger [c, k] t := by
  have hskip (kind : PriceToBeatCurrentPriceSource) (hkind : kind ≠ .cexMedianFast) :
      ([m, c, k].find? (·.configSource = kind)) = [c, k].find? (·.configSource = kind) :=
    List.find?_cons_of_neg (by simpa [hm] using hkind.symm)
  simp only [confirmedCexBackstopShouldTrigger, hskip .chainlink (by decide),
    hskip .cexConsensus (by decide)]

theorem reached_median (hm : m.configSource = .cexMedianFast) (hc : c.configSource = .chainlink)
    (hk : k.configSource = .cexConsensus) : Reached .cexMedianFast [m, c, k] t ↔
      m.hit = true ∨ confirmedCexBackstopShouldTrigger [c, k] t = true := by
  have hmedian : (∃ e ∈ [m, c, k], e.configSource = .cexMedianFast ∧ e.hit = true) ↔
      m.hit = true := by simp [hm, hc, hk]
  rw [Reached, hmedian, backstop_triple hm]

theorem overshot_moved {gap gap' : ℚ} (hgap : gap' ≤ gap) (ht : t ≤ t')
    (h : confirmedCexFallbackOvershot gap t = true) :
    confirmedCexFallbackOvershot gap' t' = true := by
  unfold confirmedCexFallbackOvershot at h ⊢
  split_ifs at h ⊢ <;> simp only [decide_eq_true_eq] at h ⊢ <;> linarith

theorem backstop_moved (hc : Adverse c c') (hk : Adverse k k') (ht : t ≤ t')
    (hchainlink : c.configSource = .chainlink) (hconsensus : k.configSource = .cexConsensus)
    (h : confirmedCexBackstopShouldTrigger [c, k] t = true) :
    confirmedCexBackstopShouldTrigger [c', k'] t' = true := by
  rw [backstop_pair (hc.source.trans hchainlink) (hk.source.trans hconsensus)]
  rcases (backstop_pair hchainlink hconsensus).mp h with hhit | ⟨hpriced, hhit, hover⟩
  · exact .inl (hc.hit hhit)
  · refine .inr ⟨hc.priced.trans hpriced, hk.hit hhit, ?_⟩
    obtain ⟨gap, hgap, hover⟩ := (Option.any_eq_true _ _).mp hover
    obtain ⟨gap', hgap', hle⟩ := hk.gap gap hgap
    exact (Option.any_eq_true _ _).mpr ⟨gap', hgap', overshot_moved hle ht hover⟩

end Backstop

theorem normalize_normalize (source : PriceToBeatCurrentPriceSource) (asset : String) :
    (source.normalizeForAsset asset).normalizeForAsset asset = source.normalizeForAsset asset := by
  unfold normalizeForAsset
  split_ifs <;> simp_all

theorem exists_hit_moved {evaluations evaluations' : List SourceEvaluation}
    (h : List.Forall₂ Adverse evaluations evaluations') (hhit : ∃ e ∈ evaluations, e.hit = true) :
    ∃ e ∈ evaluations', e.hit = true := by
  induction h with
  | nil => exact hhit
  | @cons e e' rest rest' hhead htail ih =>
    obtain ⟨x, hx, hhit⟩ := hhit
    rcases List.mem_cons.mp hx with rfl | hrest
    · exact ⟨e', List.mem_cons_self .., hhead.hit hhit⟩
    · obtain ⟨y, hy, hyhit⟩ := ih ⟨x, hrest, hhit⟩
      exact ⟨y, List.mem_cons_of_mem _ hy, hyhit⟩

theorem reached_moved (h : MovedAgainst direction prices prices') (ht : t ≤ t')
    {source : PriceToBeatCurrentPriceSource} {marketSlug asset : String} (base base' : ℚ)
    (hsource : source.normalizeForAsset asset = source)
    (hreached : Reached source (tradeBuilderPtbStopLossSourceEvaluations prices direction t
      reference source marketSlug asset base) t) :
    Reached source (tradeBuilderPtbStopLossSourceEvaluations prices' direction t' reference
      source marketSlug asset base') t' ∨ source = .cexMedianFast ∧
        ¬ MedianSplit prices marketSlug base ∧ MedianSplit prices' marketSlug base' := by
  have hsingle (kind : PriceToBeatCurrentPriceSource) := adverse_single
    reference h ht kind asset
  have hconsensus := adverse_consensus reference h ht marketSlug
  have hbackstop := backstop_moved (hsingle .chainlink) hconsensus ht (single_source ..)
    (consensus_source ..)
  unfold tradeBuilderPtbStopLossSourceEvaluations at hreached ⊢
  simp only [hsource] at hreached ⊢
  cases source
  case cexMedianFast =>
    rw [reached_median (median_source ..) (single_source ..) (consensus_source ..)] at hreached ⊢
    rcases hreached with hhit | hreached
    · exact (median_moved h ht hhit).imp .inl fun hsplit => ⟨rfl, hsplit⟩
    · exact .inl (.inr (hbackstop hreached))
  case chainlinkCexConsensusConfirmed => exact .inl (hbackstop hreached)
  case cexConsensus | chainlinkCexConsensus =>
    exact .inl (exists_hit_moved (.cons (hsingle _) (.cons hconsensus .nil)) hreached)
  case binanceHyperliquid =>
    exact .inl (exists_hit_moved (.cons (hsingle _) (.cons (hsingle _) .nil)) hreached)
  all_goals exact .inl (exists_hit_moved (.cons (hsingle _) .nil) hreached)

theorem hit_of_split {marketSlug : String} {base : ℚ} (h : MedianSplit prices marketSlug base) :
    (evaluateCexMedianFastPtbStopLoss prices direction t reference marketSlug base).hit =
      false := by
  obtain ⟨scope, hscope, left, right, hlegs, hband⟩ := h
  have hselect : selectCexMedianFastDelta direction (3 * |base|)
      (cexMedianFastLegs prices (scopeAsset scope)) =
        .error "cex_median_fast_sanity_band_exceeded" := by
    rw [hlegs]
    exact if_pos hband
  unfold evaluateCexMedianFastPtbStopLoss
  simp only [hscope, hselect]
  split_ifs <;> rfl

theorem normalize_of_ne {source : PriceToBeatCurrentPriceSource} (hbinance : source ≠ .binance)
    (hboth : source ≠ .binanceHyperliquid) (asset : String) :
    source.normalizeForAsset asset = source := by simp [normalizeForAsset, *]

theorem reached_of_split {marketSlug asset : String} {base : ℚ}
    (h : MedianSplit prices marketSlug base) :
    Reached .cexMedianFast (tradeBuilderPtbStopLossSourceEvaluations prices direction t reference
        .cexMedianFast marketSlug asset base) t ↔
      Reached .chainlinkCexConsensusConfirmed (tradeBuilderPtbStopLossSourceEvaluations prices
        direction t reference .chainlinkCexConsensusConfirmed marketSlug asset base) t := by
  unfold tradeBuilderPtbStopLossSourceEvaluations
  simp only [normalize_of_ne (by decide : cexMedianFast ≠ .binance) (by decide),
    normalize_of_ne (by decide : chainlinkCexConsensusConfirmed ≠ .binance) (by decide)]
  rw [reached_median (median_source ..) (single_source ..) (consensus_source ..),
    hit_of_split h]
  simp [Reached]

theorem elapsedRatio_bounds (now windowStart windowSeconds : ℤ) :
    0 ≤ elapsedRatio now windowStart windowSeconds ∧
      elapsedRatio now windowStart windowSeconds ≤ 1 :=
  ⟨le_max_left _ _, max_le zero_le_one (min_le_left _ _)⟩

theorem effectiveGap_decays (now : Instant) (marketSlug : String) (timeDecayMode : Option String)
    (h0 : 0 ≤ t) (ht : t ≤ t') : 0 ≤ effectiveGap now marketSlug timeDecayMode t ∧
      effectiveGap now marketSlug timeDecayMode t ≤
        effectiveGap now marketSlug timeDecayMode t' := by
  have h0' : 0 ≤ t' := h0.trans ht
  unfold effectiveGap tradeBuilderPtbStopLossEffectiveGapUsdForMarket
  simp only [not_lt.mpr h0, not_lt.mpr h0', or_false]
  split_ifs
  · exact ⟨h0, ht⟩
  · split
    · rename_i scope start _ _
      obtain ⟨hlow, hhigh⟩ := elapsedRatio_bounds now start (max (updownScopeWindowSeconds scope) 1)
      have hleft := sub_nonneg.mpr hhigh
      split
      · exact ⟨le_max_right _ _, max_le_max (mul_le_mul_of_nonneg_right ht hleft) le_rfl⟩
      · have hgrow : 0 ≤ 1 + elapsedRatio now start (max (updownScopeWindowSeconds scope) 1) := by
          linarith
        exact ⟨mul_nonneg h0 hgrow, mul_le_mul_of_nonneg_right ht hgrow⟩
      · exact ⟨h0, ht⟩
    · exact ⟨h0, ht⟩

theorem effectiveGap_of_neg (now : Instant) (marketSlug : String) (timeDecayMode : Option String)
    (h : t < 0) : effectiveGap now marketSlug timeDecayMode t = t := if_pos (.inr h)

theorem effectiveGap_mono (now : Instant) (marketSlug : String) (timeDecayMode : Option String)
    (ht : t ≤ t') : effectiveGap now marketSlug timeDecayMode t ≤
      effectiveGap now marketSlug timeDecayMode t' := by
  rcases lt_or_ge t 0 with hneg | h0
  · rw [effectiveGap_of_neg now marketSlug timeDecayMode hneg]
    rcases lt_or_ge t' 0 with hneg' | h0'
    · rwa [effectiveGap_of_neg now marketSlug timeDecayMode hneg']
    · exact hneg.le.trans (effectiveGap_decays now marketSlug timeDecayMode h0' le_rfl).1
  · exact (effectiveGap_decays now marketSlug timeDecayMode h0 ht).2

end Moved

end PolymarketBot.PriceToBeat
