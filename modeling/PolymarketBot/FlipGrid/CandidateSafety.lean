import PolymarketBot.FlipGrid.Guards

/-! What holds of every full-size candidate, in whichever round the sizing ends. -/

namespace PolymarketBot.FlipGrid
open Builder (floorTradeBuilderShareQty)
variable {config : GridConfig} {state : GridState} {quote : GridQuote} {gate : PriceGate}
  {orderBook : Option OrderBookSnapshot}

/-! ### The parts -/

/-- What an open gate has read. -/
structure Gated (config : GridConfig) (state : GridState) (quote : GridQuote) (gate : PriceGate) :
    Prop where
  ask : quote.bestAsk = some gate.askPrice
  side : gate.currentSideQty = sideQty state quote.gridSide
  pre : gate.prePnlAtExit = prePnlAtExit config state quote.gridSide
  worst : gate.maxBuyPriceCent =
    if gate.rescueBuy then config.rescueBuyMaxPriceCent else config.worstPriceCent

theorem priceGate_ok (h : priceGate config state quote = .ok gate) :
    Gated config state quote gate := by
  unfold priceGate at h
  cases hask : quote.bestAsk with
  | none => rw [hask] at h; cases h
  | some askPrice =>
    rw [hask] at h
    dsimp only at h
    unfold priceGateAt at h
    dsimp only at h
    generalize hmax : (if rescueBuyEligible config state quote.gridSide askPrice then
      config.rescueBuyMaxPriceCent else config.worstPriceCent) = maxBuyPriceCent at h
    split_ifs at h
    obtain rfl := Except.ok.inj h
    exact ⟨hask, rfl, rfl, hmax.symm⟩

theorem depthPrice_ok {targetQty price avgFill : ℚ} {depth : DepthCheck}
    (h : depthPrice config gate orderBook targetQty price = .ok (depth, avgFill)) :
    depth = evaluateDepth config.depthGuardEnabled orderBook gate.askPrice targetQty
        gate.worstPrice ∧
      depth.estimatedAvgFill = some avgFill ∧ avgFill ≤ gate.worstPrice + slack := by
  unfold depthPrice at h
  dsimp only at h
  split_ifs at h with hblocked hworst
  obtain ⟨rfl, rfl⟩ := Prod.mk.inj (Except.ok.inj h)
  obtain ⟨avg, havg⟩ :=
    Option.isSome_iff_exists.mp (evaluateDepth_pass (Bool.eq_false_iff.mpr hblocked))
  refine ⟨rfl, ?_, not_lt.mp hworst⟩
  rw [havg, Option.getD_some]

theorem sizedByUsdc_marketable (required requested price : ℚ) :
    minMarketableTargetQty config gate ≤
      (sizedByUsdc config gate required requested price).targetQty :=
  le_max_right _ _

theorem sizing_marketable {price : ℚ} {sized : Sizing}
    (h : sizing config state quote gate price = .ok sized) :
    minMarketableTargetQty config gate ≤ sized.targetQty + slack := by
  have hslack := slack_pos
  unfold sizing at h
  cases hmode : config.quantitySizingMode with
  | profitTarget =>
    rw [hmode] at h
    dsimp only at h
    unfold sizeProfitTarget at h
    split_ifs at h
    · obtain rfl := Except.ok.inj h
      exact (sizedByUsdc_marketable _ _ _).trans (le_add_of_nonneg_right hslack.le)
    · split at h
      · cases h
      · obtain rfl := Except.ok.inj h
        exact (sizedByUsdc_marketable _ _ _).trans (le_add_of_nonneg_right hslack.le)
  | inventoryBalance =>
    rw [hmode] at h
    dsimp only at h
    unfold sizeInventoryBalance at h
    dsimp only at h
    generalize (maxCandidateBuyUsdc config state).map _ = affordable at h
    split_ifs at h with hbalanced hbudget
    all_goals obtain rfl := Except.ok.inj h
    all_goals dsimp only
    all_goals
      cases affordable with
      | none => exact (le_max_right _ _).trans (le_add_of_nonneg_right hslack.le)
      | some affordable =>
        rw [Option.elim_some]
        rw [Option.any_some, decide_eq_true_eq, not_lt] at hbudget
        rw [← sub_le_iff_le_add]
        exact le_min ((sub_le_self _ hslack.le).trans (le_max_right _ _))
          (sub_le_iff_le_add.mpr hbudget)
  | fixedUsdc =>
    rw [hmode] at h
    obtain rfl := Except.ok.inj h
    exact (sizedByUsdc_marketable _ _ _).trans (le_add_of_nonneg_right hslack.le)

/-- Neither cap refuses the sum. -/
structure WithinCaps (config : GridConfig) (state : GridState) (actualBuyUsdc : ℚ) : Prop where
  single : ∀ cap ∈ config.maxSingleBuyUsdc, actualBuyUsdc ≤ cap + slack
  market : ∀ cap ∈ config.maxTotalSpentPerMarketUsdc, state.totalBuyCost + actualBuyUsdc ≤ cap + slack

theorem refusingCap_none {actualBuyUsdc : ℚ} (h : refusingCap config state actualBuyUsdc = none) :
    WithinCaps config state actualBuyUsdc := by
  unfold refusingCap at h
  split_ifs at h with hsingle hmarket
  constructor
  · intro cap hcap
    rw [Option.mem_def] at hcap
    simpa [hcap] using hsingle
  · intro cap hcap
    rw [Option.mem_def] at hcap
    simpa [hcap] using hmarket

/-! ### The rounds -/

/-- What a round that passes leaves. -/
structure RoundSafe (config : GridConfig) (state : GridState) (gate : PriceGate)
    (orderBook : Option OrderBookSnapshot) (round : SizingRound) : Prop where
  caps : WithinCaps config state round.purchase.actualBuyUsdc
  marketable : minMarketableTargetQty config gate ≤ round.purchase.targetQty + slack
  avg : (evaluateDepth config.depthGuardEnabled orderBook gate.askPrice round.purchase.targetQty
    gate.worstPrice).estimatedAvgFill = some round.purchase.effectiveAskPrice
  worst : round.purchase.effectiveAskPrice ≤ gate.worstPrice + slack

theorem sizingRound_ok {price : ℚ} {round : SizingRound}
    (h : sizingRound config state quote gate orderBook price = .ok round) :
    RoundSafe config state gate orderBook round := by
  unfold sizingRound at h
  dsimp only at h
  split at h
  · cases h
  next sized hsized =>
    split_ifs at h with hqty
    split at h
    · cases h
    next depth avgFill hdepth =>
      split at h
      · cases h
      next hcaps =>
        obtain rfl := Except.ok.inj h
        obtain ⟨rfl, havg, hworst⟩ := depthPrice_ok hdepth
        exact ⟨refusingCap_none hcaps, sizing_marketable hsized, havg, hworst⟩

theorem sizingRounds_final {rounds : ℕ} {price : ℚ} {start : Option SizingRound}
    {round : SizingRound}
    (h : sizingRounds config state quote gate orderBook rounds price start = .ok (some round)) :
    start = some round ∨
      ∃ price, sizingRound config state quote gate orderBook price = .ok round := by
  induction rounds generalizing price start with
  | zero => exact .inl (Except.ok.inj h)
  | succ rounds ih =>
    unfold sizingRounds at h
    split at h
    · cases h
    next first hfirst =>
      split_ifs at h
      · obtain rfl := Option.some.inj (Except.ok.inj h)
        exact .inr ⟨price, hfirst⟩
      · rcases ih h with hsame | hlater
        · obtain rfl := Option.some.inj hsame
          exact .inr ⟨price, hfirst⟩
        · exact .inr hlater

/-! ### Candidates -/

/-- What is promised of a candidate that buys the full size. -/
structure CandidateSafe (config : GridConfig) (state : GridState) (quote : GridQuote)
    (orderBook : Option OrderBookSnapshot) (completionOnly : Bool) (candidate : BuyCandidate) :
    Prop where
  caps : WithinCaps config state candidate.actualBuyUsdc
  ask : quote.bestAsk = some candidate.askPrice
  avg : (evaluateDepth config.depthGuardEnabled orderBook candidate.askPrice candidate.targetQty
    candidate.worstPrice).estimatedAvgFill = some candidate.effectiveAskPrice
  cost : candidate.targetQty * candidate.effectiveAskPrice ≤ candidate.actualBuyUsdc
  worst : candidate.effectiveAskPrice ≤ candidate.worstPrice + slack
  worstPrice : candidate.worstPrice =
    (if candidate.rescueBuy then config.rescueBuyMaxPriceCent else config.worstPriceCent) / 100
  marketable :
    RevengeFlip.positiveQuantityFlipGridRoundUpShareQty
      (config.minMarketableBuyUsdc / candidate.askPrice) ≤ candidate.targetQty + slack
  projected : candidate.projectedPnlAtExit =
    (sideQty state quote.gridSide + candidate.targetQty) * config.exitPriceForSizing -
      (state.netCost + candidate.actualBuyUsdc)
  profit : config.quantitySizingMode = .profitTarget →
    config.minPositiveProfitUsdc ≤ candidate.projectedPnlAtExit + slack
  pre : candidate.prePnlAtExit =
    sideQty state quote.gridSide * config.exitPriceForSizing - state.netCost
  completion : completionOnly = true →
    candidate.prePnlAtExit + slack < config.minPositiveProfitUsdc

theorem finalCandidate_safe {completionOnly : Bool} {round : SizingRound}
    {candidate : BuyCandidate} (hgate : Gated config state quote gate)
    (hround : RoundSafe config state gate orderBook round)
    (h : finalCandidate config state quote gate completionOnly round = .ok candidate) :
    CandidateSafe config state quote orderBook completionOnly candidate := by
  unfold finalCandidate at h
  dsimp only at h
  split_ifs at h with hprofit hcompletion
  obtain rfl := Except.ok.inj h
  exact
    { caps := hround.caps
      ask := hgate.ask
      avg := hround.avg
      cost := le_max_left _ _
      worst := hround.worst
      worstPrice := congrArg (· / 100) hgate.worst
      marketable := hround.marketable
      projected := by
        rw [← hgate.side]
        rfl
      profit := fun hmode => not_lt.mp fun hless => hprofit ⟨hmode, hless⟩
      pre := hgate.pre
      completion := fun honly => not_le.mp fun hge => hcompletion ⟨honly, hge⟩ }

theorem partialRecovery_marked {availableCollateralUsdc : Option ℚ} {stop : RiskStop}
    {candidate : BuyCandidate}
    (h : partialRecovery config state quote gate orderBook availableCollateralUsdc stop =
      .ok candidate) : candidate.partialRecovery = true := by
  unfold partialRecovery at h
  split_ifs at h
  split at h
  · cases h
  · dsimp only at h
    split_ifs at h
    split at h
    · cases h
    · split_ifs at h
      obtain rfl := Except.ok.inj h
      rfl

theorem evaluateBuyCandidate_ok {availableCollateralUsdc : Option ℚ} {completionOnly : Bool}
    {candidate : BuyCandidate}
    (h : evaluateBuyCandidate config state quote orderBook availableCollateralUsdc completionOnly =
      .ok candidate) :
    ∃ gate, priceGate config state quote = .ok gate ∧
      ((∃ round, RoundSafe config state gate orderBook round ∧
          finalCandidate config state quote gate completionOnly round = .ok candidate) ∨
        ∃ stop, sizingRounds config state quote gate orderBook 3 gate.askPrice none =
            .error (.risk stop) ∧
          tryPartialRecovery config state quote gate orderBook availableCollateralUsdc
            completionOnly stop = some (.ok candidate)) := by
  unfold evaluateBuyCandidate at h
  split at h
  · cases h
  next gate hgate =>
    refine ⟨gate, hgate, ?_⟩
    split at h
    · cases h
    next stop hstop =>
      refine .inr ⟨stop, hstop, ?_⟩
      cases hfallback : tryPartialRecovery config state quote gate orderBook
          availableCollateralUsdc completionOnly stop with
      | none =>
        rw [hfallback] at h
        cases h
      | some evaluation =>
        rw [hfallback] at h
        exact congrArg some h
    · cases h
    next round hround =>
      rcases sizingRounds_final hround with hnone | ⟨price, hpassed⟩
      · cases hnone
      · exact .inl ⟨round, sizingRound_ok hpassed, h⟩

/-- Every candidate of full size is safe, whichever round the sizing ended in. -/
theorem full_candidate_safe (config : GridConfig) (state : GridState) (quote : GridQuote)
    (orderBook : Option OrderBookSnapshot) (availableCollateralUsdc : Option ℚ)
    (completionOnly : Bool) (candidate : BuyCandidate)
    (h : evaluateBuyCandidate config state quote orderBook availableCollateralUsdc completionOnly =
      .ok candidate) (hfull : candidate.partialRecovery = false) :
    CandidateSafe config state quote orderBook completionOnly candidate := by
  obtain ⟨gate, hgate, ⟨round, hround, hfinal⟩ | ⟨stop, -, hfallback⟩⟩ := evaluateBuyCandidate_ok h
  · exact finalCandidate_safe (priceGate_ok hgate) hround hfinal
  · unfold tryPartialRecovery at hfallback
    split_ifs at hfallback
    have hmarked := partialRecovery_marked (Option.some.inj hfallback)
    rw [hfull] at hmarked
    cases hmarked

/-! ### A buy whose rounds do not converge -/

def sampleConfig : GridConfig where
  baseBuyUsdc := 5
  minMarketableBuyUsdc := 1
  entryBandMinCent := 30
  entryBandMaxCent := 70
  preferredTriggerCent := 50
  triggerToleranceCent := 5
  exitPriceForSizing := 99 / 100
  sizingPriceBufferCent := 1
  partialRecoveryEnabled := true
  partialRecoveryMinLossReductionUsdc := 0
  partialRecoveryBalanceReserveUsdc := 1
  partialRecoveryMaxBuyUsdc := none
  partialRecoveryIgnoreMarketBudget := false
  quantitySizingMode := .profitTarget
  inventoryBalanceLeadQty := 0
  minPositiveProfitUsdc := 1
  maxSingleBuyUsdc := some 20
  maxTotalSpentPerMarketUsdc := some 60
  hardMaxPriceCent := 70
  worstPriceCent := 72
  rescueBuyEnabled := false
  rescueBuyMinPriceCent := 0
  rescueBuyMaxPriceCent := 0
  blockConsecutiveSameSideBuys := true
  noBuyRanges := []
  pairlockCompressionEnabled := false
  executionFloorGuardEnabled := false
  executionFloorPriceCent := none
  depthGuardEnabled := true
  baseBuy_ok := by norm_num
  minMarketable_ok := by norm_num
  entryBand_ok := by norm_num
  hardMax_ok := by norm_num
  worstPrice_ok := by norm_num
  rescue_ok := by simp
  exitPrice_ok := by norm_num
  minProfit_ok := by norm_num
  buffer_ok := by norm_num
  lossReduction_ok := by norm_num
  reserve_ok := by norm_num
  recoveryMax_ok := by simp
  leadQty_ok := by norm_num
  singleBuy_ok := by norm_num
  totalSpent_ok := by norm_num
  noBuyRanges_ok := by simp
  executionFloor_ok := by simp

def sampleState : GridState where
  upQty := 10
  downQty := 0
  totalBuyCost := 4
  totalSellRevenue := 0
  totalMergeReturn := 0
  netCost := 4
  buyCount := 1
  lastBuyGridSide := some .up
  lastBalanceFailureGridSide := none

def sampleQuote : GridQuote := ⟨.down, none, some (3 / 5)⟩

def sampleBook : OrderBookSnapshot :=
  ⟨[], [⟨7 / 10, 15⟩, ⟨3 / 5, 5⟩, ⟨13 / 20, 7⟩]⟩

def sampleEvaluation : Except Blocked BuyCandidate :=
  evaluateBuyCandidate sampleConfig sampleState sampleQuote (some sampleBook) none false

theorem sampleEvaluation_full : sampleEvaluation.toOption.map (·.partialRecovery) = some false := by
  decide +kernel

/-- The third round still moves the price; its candidate is safe. -/
theorem sample_candidate_safe :
    ∃ candidate, sampleEvaluation = .ok candidate ∧
      CandidateSafe sampleConfig sampleState sampleQuote (some sampleBook) false candidate := by
  have hmarked := sampleEvaluation_full
  cases h : sampleEvaluation with
  | error report =>
    rw [h] at hmarked
    cases hmarked
  | ok candidate =>
    rw [h] at hmarked
    have hfull : candidate.partialRecovery = false := Option.some.inj hmarked
    exact ⟨candidate, rfl, full_candidate_safe sampleConfig sampleState sampleQuote (some sampleBook)
      none false candidate h hfull⟩

end PolymarketBot.FlipGrid
