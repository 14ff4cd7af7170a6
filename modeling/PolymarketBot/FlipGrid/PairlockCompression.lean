import Mathlib.Data.List.MinMax
import PolymarketBot.FlipGrid.Guards
import PolymarketBot.Positions.ExitRetry
import PolymarketBot.Positions.FlipGridLedgers
import PolymarketBot.RevengeFlip.RecoverySizing

/-! Pairlock compression: a buy that completes an open lot to a pair below a dollar, and the merge
of two such lots. -/

namespace PolymarketBot.FlipGrid
open Lib Positions
open Builder (floorTradeBuilderShareQty round_of_onGrid)
open RevengeFlip (positiveQuantityFlipGridRoundUpShareQty)

structure PairlockConfig extends PositiveQuantityFlipGridConfig where
  maxSingleBuyUsdc : Option ℚ
  maxTotalSpentPerMarketUsdc : Option ℚ
  exitPriceForSizing : ℚ

def positiveFlipPairlockMinMarketableBuyUsdc : ℚ := 1

def positiveFlipPairlockSideQuote (quotes : List GridQuote) (gridSide : GridSide) :
    Option GridQuote :=
  quotes.find? fun quote => quote.gridSide = gridSide

def positiveFlipPairlockOppositeSide : GridSide → GridSide
  | .down => .up
  | .up => .down

def positiveFlipPairlockMinMarketableShareQty (askPrice : ℚ) : ℚ :=
  if askPrice ≤ 0 then 0
  else positiveQuantityFlipGridRoundUpShareQty (positiveFlipPairlockMinMarketableBuyUsdc / askPrice)

/-- The depth result of a candidate that is not walked through the book. -/
structure PairlockDepth where
  result : String := "pass"
  reason : String := "pairlock_compression"
  depthGuardEnabled : Bool := false
  minMarketableBuyUsdc : ℚ
  baseTargetQty : ℚ
  baseBuyUsdc : ℚ
  targetQtyAfterMinNotional : ℚ
  minNotionalTopUpApplied : Bool

structure PairlockBuyCandidate where
  quote : GridQuote
  askPrice : ℚ
  effectiveAskPrice : ℚ
  sizingAskPrice : ℚ
  worstPrice : ℚ
  requiredBuyUsdc : ℚ
  actualBuyUsdc : ℚ
  targetQty : ℚ
  projectedSideQty : ℚ
  projectedNetCost : ℚ
  projectedPnlAtExit : ℚ
  prePnlAtExit : ℚ
  preferredBandRank : ℕ := 0
  depthResult : PairlockDepth
  rescueBuy : Bool := false
  partialRecovery : Bool := false

structure PositiveFlipPairlockBuyOpportunity where
  matchedLot : GridLot
  candidate : PairlockBuyCandidate
  pairCost : ℚ
  lockedProfitPerShare : ℚ
  minMarketableBuyUsdc : ℚ
  baseTargetQty : ℚ
  baseBuyUsdc : ℚ
  targetQtyAfterMinNotional : ℚ
  minNotionalTopUpApplied : Bool

structure PairlockDiagnostic where
  reason : String := "pairlock_min_notional_exceeds_cap"
  gridSide : GridSide
  matchedParentBuilderOrderId : ℤ
  matchedLotQty : ℚ
  matchedLotPrice : ℚ
  askPrice : ℚ
  minMarketableBuyUsdc : ℚ
  baseTargetQty : ℚ
  baseBuyUsdc : ℚ
  targetQtyAfterMinNotional : ℚ
  maxSingleQty : Option ℚ
  remainingBudgetQty : Option ℚ
  maxUnmergedQty : ℚ
  hardCapQty : ℚ

structure PositiveFlipPairlockBuyOpportunityScan where
  opportunity : Option PositiveFlipPairlockBuyOpportunity := none
  diagnostics : List PairlockDiagnostic := []

section Scan
variable (config : PairlockConfig) (state : PositiveQuantityFlipGridState)
  (quotes : List GridQuote)

def pairlockRemainingBudget : Option ℚ :=
  config.maxTotalSpentPerMarketUsdc.map fun cap => max (cap - state.totalBuyCost) 0

/-- A bound that is not set leaves the quantity as it is. -/
def boundedBy (bound : Option ℚ) (qty : ℚ) : ℚ := bound.elim qty (min · qty)

def pairlockHardCapQty (ask : ℚ) : ℚ :=
  boundedBy (config.maxSingleBuyUsdc.map (· / ask))
    (boundedBy ((pairlockRemainingBudget config state).map (· / ask))
      (config.maxUnmergedExposureUsdc / ask))

def pairlockBaseTargetQty (lot : GridLot) (ask : ℚ) : ℚ :=
  floorTradeBuilderShareQty (min lot.quantity (pairlockHardCapQty config state ask))

/-- What the capped quantity costs is too little for the market. -/
def pairlockTopUpApplied (lot : GridLot) (ask : ℚ) : Bool :=
  pairlockBaseTargetQty config state lot ask * ask + slack <
    positiveFlipPairlockMinMarketableBuyUsdc

def pairlockTargetQty (lot : GridLot) (ask : ℚ) : ℚ :=
  if pairlockTopUpApplied config state lot ask then positiveFlipPairlockMinMarketableShareQty ask
  else pairlockBaseTargetQty config state lot ask

def pairlockDiagnostic (lot : GridLot) (ask : ℚ) : PairlockDiagnostic where
  gridSide := positiveFlipPairlockOppositeSide lot.gridSide
  matchedParentBuilderOrderId := lot.parentBuilderOrderId
  matchedLotQty := lot.quantity
  matchedLotPrice := lot.executionPrice
  askPrice := ask
  minMarketableBuyUsdc := positiveFlipPairlockMinMarketableBuyUsdc
  baseTargetQty := pairlockBaseTargetQty config state lot ask
  baseBuyUsdc := pairlockBaseTargetQty config state lot ask * ask
  targetQtyAfterMinNotional := pairlockTargetQty config state lot ask
  maxSingleQty := config.maxSingleBuyUsdc.map (· / ask)
  remainingBudgetQty := (pairlockRemainingBudget config state).map (· / ask)
  maxUnmergedQty := config.maxUnmergedExposureUsdc / ask
  hardCapQty := pairlockHardCapQty config state ask

def pairlockCandidate (lot : GridLot) (quote : GridQuote) (ask : ℚ) : PairlockBuyCandidate :=
  let sideQty := state.sideQty (positiveFlipPairlockOppositeSide lot.gridSide)
  let targetQty := pairlockTargetQty config state lot ask
  let actualBuyUsdc := targetQty * ask
  { quote
    askPrice := ask
    effectiveAskPrice := ask
    sizingAskPrice := ask
    worstPrice := ask
    requiredBuyUsdc := actualBuyUsdc
    actualBuyUsdc, targetQty
    projectedSideQty := sideQty + targetQty
    projectedNetCost := state.netCost + actualBuyUsdc
    projectedPnlAtExit :=
      pnlAtExit (sideQty + targetQty) config.exitPriceForSizing (state.netCost + actualBuyUsdc)
    prePnlAtExit := pnlAtExit sideQty config.exitPriceForSizing state.netCost
    depthResult :=
      { minMarketableBuyUsdc := positiveFlipPairlockMinMarketableBuyUsdc
        baseTargetQty := pairlockBaseTargetQty config state lot ask
        baseBuyUsdc := pairlockBaseTargetQty config state lot ask * ask
        targetQtyAfterMinNotional := targetQty
        minNotionalTopUpApplied := pairlockTopUpApplied config state lot ask } }

def pairlockOpportunity (lot : GridLot) (quote : GridQuote) (ask pairCost lockedProfit : ℚ) :
    PositiveFlipPairlockBuyOpportunity where
  matchedLot := lot
  candidate := pairlockCandidate config state lot quote ask
  pairCost := pairCost
  lockedProfitPerShare := lockedProfit
  minMarketableBuyUsdc := positiveFlipPairlockMinMarketableBuyUsdc
  baseTargetQty := pairlockBaseTargetQty config state lot ask
  baseBuyUsdc := pairlockBaseTargetQty config state lot ask * ask
  targetQtyAfterMinNotional := pairlockTargetQty config state lot ask
  minNotionalTopUpApplied := pairlockTopUpApplied config state lot ask

inductive PairlockOutcome
  | skipped
  | overCap (diagnostic : PairlockDiagnostic)
  | offered (candidate : PositiveFlipPairlockBuyOpportunity)

def PairlockOutcome.offer : PairlockOutcome → Option PositiveFlipPairlockBuyOpportunity
  | offered candidate => some candidate
  | _ => none

/-- A lot at an ask of its other side. -/
def pairlockOutcomeAt (lot : GridLot) (quote : GridQuote) (ask : ℚ) : PairlockOutcome :=
  if ask ≤ 0 ∨ 1 ≤ ask then .skipped
  else
    match positiveFlipPairlockPairIsProfitable lot.executionPrice ask
        config.toPositiveQuantityFlipGridConfig with
    | none => .skipped
    | some (pairCost, lockedProfit) =>
      if pairlockBaseTargetQty config state lot ask ≤ slack then .skipped
      else if pairlockTargetQty config state lot ask ≤ slack then .skipped
      else if pairlockHardCapQty config state ask + slack <
          pairlockTargetQty config state lot ask then
        .overCap (pairlockDiagnostic config state lot ask)
      else .offered (pairlockOpportunity config state lot quote ask pairCost lockedProfit)

def pairlockOutcome (lot : GridLot) : PairlockOutcome :=
  match positiveFlipPairlockSideQuote quotes (positiveFlipPairlockOppositeSide lot.gridSide) with
  | none => .skipped
  | some quote =>
    match quote.bestAsk with
    | none => .skipped
    | some ask => pairlockOutcomeAt config state lot quote ask

def scanPairlockLot (scan : PositiveFlipPairlockBuyOpportunityScan) (lot : GridLot) :
    PositiveFlipPairlockBuyOpportunityScan :=
  match pairlockOutcome config state quotes lot with
  | .skipped => scan
  | .overCap diagnostic => { scan with diagnostics := scan.diagnostics ++ [diagnostic] }
  | .offered candidate =>
    match scan.opportunity with
    | some best =>
      if best.lockedProfitPerShare < candidate.lockedProfitPerShare then
        { scan with opportunity := some candidate }
      else scan
    | none => { scan with opportunity := some candidate }

def positiveFlipPairlockScanBuyOpportunity (lots : List GridLot) :
    PositiveFlipPairlockBuyOpportunityScan :=
  if config.pairlockCompressionEnabled = false then {}
  else if (pairlockRemainingBudget config state).any (· ≤ slack) ∨
      config.maxUnmergedExposureUsdc ≤ 0 then {}
  else lots.foldl (scanPairlockLot config state quotes) {}

/-- A lot that may be locked by a buy at an ask of its other side. -/
structure Lockable (lot : GridLot) (ask : ℚ) : Prop where
  enabled : config.pairlockCompressionEnabled = true
  budget : ∀ budget ∈ pairlockRemainingBudget config state, slack < budget
  exposure : 0 < config.maxUnmergedExposureUsdc
  quoted : (positiveFlipPairlockSideQuote quotes
    (positiveFlipPairlockOppositeSide lot.gridSide)).bind (·.bestAsk) = some ask
  price : 0 < ask ∧ ask < 1
  profit : config.targetPairlockProfit ≤
    1 - (lot.executionPrice + ask) - config.feeBuffer + slack
  pairCost : lot.executionPrice + ask ≤ config.maxPairCost + slack
  quantity : 1 / 100 ≤ lot.quantity ∧ 1 / 100 ≤ pairlockHardCapQty config state ask
  marketable : 1 ≤ pairlockBaseTargetQty config state lot ask * ask + slack ∨
    positiveQuantityFlipGridRoundUpShareQty (1 / ask) ≤ pairlockHardCapQty config state ask + slack

/-- A buy within each cap that locks its lot, with the slack of a topped up quantity. -/
structure LocksLot (opportunity : PositiveFlipPairlockBuyOpportunity) : Prop where
  lockable :
    Lockable config state quotes opportunity.matchedLot opportunity.candidate.askPrice
  pairCost : opportunity.pairCost =
    opportunity.matchedLot.executionPrice + opportunity.candidate.askPrice
  profit : opportunity.lockedProfitPerShare = 1 - opportunity.pairCost - config.feeBuffer
  cost : opportunity.candidate.actualBuyUsdc =
    opportunity.candidate.targetQty * opportunity.candidate.askPrice
  marketable : 1 ≤ opportunity.candidate.actualBuyUsdc + slack
  capped : ∀ cap, config.maxSingleBuyUsdc = some cap ∨
    pairlockRemainingBudget config state = some cap ∨ config.maxUnmergedExposureUsdc = cap →
      opportunity.candidate.actualBuyUsdc ≤ cap + slack * opportunity.candidate.askPrice ∧
        (opportunity.minNotionalTopUpApplied = false → opportunity.candidate.actualBuyUsdc ≤ cap)
  withinLot : opportunity.minNotionalTopUpApplied = false →
    opportunity.candidate.targetQty ≤ opportunity.matchedLot.quantity
  toppedUp : opportunity.minNotionalTopUpApplied = true →
    1 ≤ opportunity.candidate.actualBuyUsdc ∧ ∀ qty, OnGrid 100 qty →
      1 ≤ qty * opportunity.candidate.askPrice → opportunity.candidate.targetQty ≤ qty

/-- What a scan over the open lots answers, and what a merge of them takes. -/
structure CompressionLaw (lots : List GridLot) : Prop where
  none_iff : (positiveFlipPairlockScanBuyOpportunity config state quotes lots).opportunity = none ↔
    ∀ lot ∈ lots, ∀ ask, ¬ Lockable config state quotes lot ask
  locks : ∀ opportunity ∈
    (positiveFlipPairlockScanBuyOpportunity config state quotes lots).opportunity,
      opportunity.matchedLot ∈ lots ∧ LocksLot config state quotes opportunity
  best : ∀ opportunity ∈
    (positiveFlipPairlockScanBuyOpportunity config state quotes lots).opportunity,
      ∀ lot ∈ lots, ∀ ask, Lockable config state quotes lot ask →
        1 - (lot.executionPrice + ask) - config.feeBuffer ≤ opportunity.lockedProfitPerShare
  merged : ∀ plan ∈
    positiveFlipPairlockFindMergePlan lots config.toPositiveQuantityFlipGridConfig,
      (plan.upLeg ∈ lots ∧ plan.upLeg.gridSide = .up) ∧
      (plan.downLeg ∈ lots ∧ plan.downLeg.gridSide = .down) ∧
        plan.quantity ≤ plan.upLeg.quantity ∧ plan.quantity ≤ plan.downLeg.quantity

/-! ### The quantity -/

theorem le_boundedBy_iff {bound : Option ℚ} {qty x : ℚ} :
    x ≤ boundedBy bound qty ↔ (∀ cap ∈ bound, x ≤ cap) ∧ x ≤ qty := by
  cases bound <;> simp [boundedBy]

theorem cost_le_of_le_hardCap {qty ask extra : ℚ} (hask : 0 < ask)
    (h : qty ≤ pairlockHardCapQty config state ask + extra) {cap : ℚ}
    (hcap : config.maxSingleBuyUsdc = some cap ∨
      pairlockRemainingBudget config state = some cap ∨ config.maxUnmergedExposureUsdc = cap) :
    qty * ask ≤ cap + extra * ask := by
  have hle := sub_le_iff_le_add.mpr h
  unfold pairlockHardCapQty at hle
  simp only [le_boundedBy_iff, Option.mem_map, forall_exists_index, and_imp,
    forall_apply_eq_imp_iff₂] at hle
  obtain ⟨hsingle, hbudget, hexposure⟩ := hle
  have hqty : qty - extra ≤ cap / ask := by
    obtain hcap | hcap | rfl := hcap
    · exact hsingle cap hcap
    · exact hbudget cap hcap
    · exact hexposure
  have hcost := (le_div_iff₀ hask).mp hqty
  linarith

theorem pairlockBaseTargetQty_pos_iff {lot : GridLot} {ask : ℚ} :
    slack < pairlockBaseTargetQty config state lot ask ↔
      1 / 100 ≤ lot.quantity ∧ 1 / 100 ≤ pairlockHardCapQty config state ask := by
  rw [← le_min_iff, ← floorTradeBuilderShareQty_pos_iff]
  constructor
  · exact slack_pos.trans
  · intro hpos
    have hstep := (floorTradeBuilderShareQty_onGrid _).step_le (by norm_num) hpos
    exact lt_of_lt_of_le (by norm_num [slack]) hstep

theorem pairlockBaseTargetQty_le {lot : GridLot} {ask : ℚ}
    (h : slack < pairlockBaseTargetQty config state lot ask) :
    pairlockBaseTargetQty config state lot ask ≤
      min lot.quantity (pairlockHardCapQty config state ask) :=
  floorTradeBuilderShareQty_le (slack_pos.trans h)

section MinMarketable
variable {ask : ℚ} (hask : 0 < ask)
include hask

theorem minMarketableShareQty_eq : positiveFlipPairlockMinMarketableShareQty ask =
    positiveQuantityFlipGridRoundUpShareQty (1 / ask) := by
  rw [positiveFlipPairlockMinMarketableShareQty, if_neg hask.not_ge]
  rfl

theorem minMarketableShareQty_eq_gridCeil :
    positiveFlipPairlockMinMarketableShareQty ask = gridCeil 100 (1 / ask) := by
  have hpos : 0 < 1 / ask := one_div_pos.mpr hask
  have hceil : 1 / ask ≤ gridCeil 100 (1 / ask) := le_gridCeil (by norm_num)
  rw [minMarketableShareQty_eq hask, positiveQuantityFlipGridRoundUpShareQty,
    if_neg hpos.not_ge]
  exact round_of_onGrid gridCeil_onGrid (hpos.le.trans hceil)

theorem one_le_minMarketable_cost : 1 ≤ positiveFlipPairlockMinMarketableShareQty ask * ask := by
  rw [minMarketableShareQty_eq_gridCeil hask, ← div_le_iff₀ hask]
  exact le_gridCeil (by norm_num)

theorem minMarketable_le_iff {qty : ℚ} (hqty : OnGrid 100 qty) :
    positiveFlipPairlockMinMarketableShareQty ask ≤ qty ↔ 1 ≤ qty * ask := by
  rw [minMarketableShareQty_eq_gridCeil hask, hqty.gridCeil_le_iff (by norm_num),
    div_le_iff₀ hask]

end MinMarketable

/-! ### The offer of a lot -/

theorem pairIsProfitable_eq_some_iff {matchedPrice newPrice pairCost lockedProfit : ℚ} :
    positiveFlipPairlockPairIsProfitable matchedPrice newPrice
        config.toPositiveQuantityFlipGridConfig = some (pairCost, lockedProfit) ↔
      (config.targetPairlockProfit ≤ 1 - (matchedPrice + newPrice) - config.feeBuffer + slack ∧
        matchedPrice + newPrice ≤ config.maxPairCost + slack) ∧
      pairCost = matchedPrice + newPrice ∧ lockedProfit = 1 - pairCost - config.feeBuffer := by
  unfold positiveFlipPairlockPairIsProfitable
  simp only [slack, Option.ite_none_right_eq_some, Option.some.injEq, Prod.mk.injEq]
  refine and_congr_right fun _ => ⟨?_, ?_⟩
  · rintro ⟨rfl, rfl⟩
    exact ⟨rfl, rfl⟩
  · rintro ⟨rfl, rfl⟩
    exact ⟨rfl, rfl⟩

/-- The scan looks at its lots. -/
structure PairlockOpen : Prop where
  enabled : config.pairlockCompressionEnabled = true
  budget : ∀ budget ∈ pairlockRemainingBudget config state, slack < budget
  exposure : 0 < config.maxUnmergedExposureUsdc

def pairlockOfferAt (lot : GridLot) (quote : GridQuote) (ask : ℚ) :
    PositiveFlipPairlockBuyOpportunity :=
  pairlockOpportunity config state lot quote ask (lot.executionPrice + ask)
    (1 - (lot.executionPrice + ask) - config.feeBuffer)

variable {config state quotes}

theorem marketable_iff {lot : GridLot} {ask : ℚ} (hask : 0 < ask)
    (hbase : slack < pairlockBaseTargetQty config state lot ask) :
    (slack < pairlockTargetQty config state lot ask ∧
        pairlockTargetQty config state lot ask ≤ pairlockHardCapQty config state ask + slack) ↔
      (1 ≤ pairlockBaseTargetQty config state lot ask * ask + slack ∨
        positiveQuantityFlipGridRoundUpShareQty (1 / ask) ≤
          pairlockHardCapQty config state ask + slack) := by
  have hcap := (pairlockBaseTargetQty_le config state hbase).trans (min_le_right _ _)
  unfold pairlockTargetQty pairlockTopUpApplied positiveFlipPairlockMinMarketableBuyUsdc
  by_cases htopUp : pairlockBaseTargetQty config state lot ask * ask + slack < 1
  · have hmarketable := one_le_minMarketable_cost hask
    have hmore : pairlockBaseTargetQty config state lot ask <
        positiveFlipPairlockMinMarketableShareQty ask := by
      refine lt_of_mul_lt_mul_right ?_ hask.le
      linarith [slack_pos]
    rw [if_pos (decide_eq_true htopUp), ← minMarketableShareQty_eq hask,
      or_iff_right (not_le.mpr htopUp)]
    exact and_iff_right (hbase.trans hmore)
  · rw [if_neg (by simpa using htopUp)]
    simp only [hbase, true_and, not_lt.mp htopUp, true_or, iff_true]
    linarith [slack_pos]

theorem lockable_of_offer (hopen : PairlockOpen config state) {lot : GridLot} {quote : GridQuote}
    {ask : ℚ} (hquoted : (positiveFlipPairlockSideQuote quotes
      (positiveFlipPairlockOppositeSide lot.gridSide)).bind (·.bestAsk) = some ask)
    {opportunity : PositiveFlipPairlockBuyOpportunity}
    (h : (pairlockOutcomeAt config state lot quote ask).offer = some opportunity) :
    Lockable config state quotes lot ask ∧
      opportunity = pairlockOfferAt config state lot quote ask := by
  unfold pairlockOutcomeAt at h
  have hprice : ¬ (ask ≤ 0 ∨ 1 ≤ ask) := by
    intro hprice
    rw [if_pos hprice] at h
    cases h
  rw [if_neg hprice] at h
  rw [not_or, not_le, not_le] at hprice
  cases hpair : positiveFlipPairlockPairIsProfitable lot.executionPrice ask
      config.toPositiveQuantityFlipGridConfig with
  | none =>
    rw [hpair] at h
    cases h
  | some pair =>
    obtain ⟨⟨hprofit, hcost⟩, hpairCost, hlocked⟩ := (pairIsProfitable_eq_some_iff config).mp hpair
    rw [hpair] at h
    dsimp only at h
    split_ifs at h with hbase htarget hcap
    · cases h
    · cases h
    · cases h
    obtain rfl := Option.some.inj h
    have hbase := not_le.mp hbase
    refine ⟨⟨hopen.enabled, hopen.budget, hopen.exposure, hquoted, hprice, hprofit, hcost,
      (pairlockBaseTargetQty_pos_iff config state).mp hbase,
      (marketable_iff hprice.1 hbase).mp ⟨not_le.mp htarget, not_lt.mp hcap⟩⟩, ?_⟩
    rw [pairlockOfferAt, hlocked, hpairCost]

theorem offer_of_lockable {lot : GridLot} {quote : GridQuote} {ask : ℚ}
    (h : Lockable config state quotes lot ask) :
    (pairlockOutcomeAt config state lot quote ask).offer =
      some (pairlockOfferAt config state lot quote ask) := by
  have hbase := (pairlockBaseTargetQty_pos_iff config state).mpr h.quantity
  obtain ⟨htarget, hcap⟩ := (marketable_iff h.price.1 hbase).mpr h.marketable
  have hpair := (pairIsProfitable_eq_some_iff config).mpr ⟨⟨h.profit, h.pairCost⟩, rfl, rfl⟩
  have hprice : ¬ (ask ≤ 0 ∨ 1 ≤ ask) := not_or.mpr ⟨h.price.1.not_ge, h.price.2.not_ge⟩
  rw [pairlockOutcomeAt, if_neg hprice, hpair]
  dsimp only
  rw [if_neg hbase.not_ge, if_neg htarget.not_ge, if_neg hcap.not_gt]
  rfl

theorem outcomeAt_offer_iff (hopen : PairlockOpen config state) {lot : GridLot}
    {quote : GridQuote} {ask : ℚ}
    (hquote : positiveFlipPairlockSideQuote quotes
      (positiveFlipPairlockOppositeSide lot.gridSide) = some quote)
    (hbest : quote.bestAsk = some ask) (opportunity : PositiveFlipPairlockBuyOpportunity) :
    (pairlockOutcomeAt config state lot quote ask).offer = some opportunity ↔
      Lockable config state quotes lot ask ∧
        opportunity = pairlockOfferAt config state lot quote ask := by
  have hquoted : (positiveFlipPairlockSideQuote quotes
      (positiveFlipPairlockOppositeSide lot.gridSide)).bind (·.bestAsk) = some ask := by
    rw [hquote, Option.bind_some, hbest]
  constructor
  · exact lockable_of_offer hopen hquoted
  · rintro ⟨hlock, rfl⟩
    exact offer_of_lockable hlock

theorem outcome_offer_iff (hopen : PairlockOpen config state) {lot : GridLot}
    (opportunity : PositiveFlipPairlockBuyOpportunity) :
    (pairlockOutcome config state quotes lot).offer = some opportunity ↔
      ∃ quote ask, Lockable config state quotes lot ask ∧
        opportunity = pairlockOfferAt config state lot quote ask ∧
          positiveFlipPairlockSideQuote quotes
            (positiveFlipPairlockOppositeSide lot.gridSide) = some quote := by
  unfold pairlockOutcome
  cases hquote : positiveFlipPairlockSideQuote quotes
      (positiveFlipPairlockOppositeSide lot.gridSide) with
  | none =>
    refine ⟨nofun, ?_⟩
    rintro ⟨quote, ask, -, -, h⟩
    cases h
  | some quote =>
    cases hbest : quote.bestAsk with
    | none =>
      simp only [PairlockOutcome.offer, hbest, reduceCtorEq, false_iff]
      rintro ⟨quote', ask, hlock, -, h⟩
      have hquoted := hlock.quoted
      rw [hquote, Option.bind_some, hbest] at hquoted
      cases hquoted
    | some ask =>
      simp only [hbest]
      rw [outcomeAt_offer_iff hopen hquote hbest]
      constructor
      · rintro ⟨hlock, rfl⟩
        exact ⟨quote, ask, hlock, rfl, rfl⟩
      · rintro ⟨quote', ask', hlock, rfl, hsame⟩
        have hquoted := hlock.quoted
        rw [hquote, Option.bind_some, hbest] at hquoted
        obtain rfl := Option.some.inj hsame
        obtain rfl := Option.some.inj hquoted
        exact ⟨hlock, rfl⟩

/-! ### The scan -/

variable (config state quotes) in
theorem scanPairlockLot_opportunity (scan : PositiveFlipPairlockBuyOpportunityScan)
    (lot : GridLot) :
    (scanPairlockLot config state quotes scan lot).opportunity =
      ((pairlockOutcome config state quotes lot).offer.toList).foldl
        (List.argAux fun b c => c.lockedProfitPerShare < b.lockedProfitPerShare)
        scan.opportunity := by
  unfold scanPairlockLot
  cases pairlockOutcome config state quotes lot with
  | skipped => rfl
  | overCap diagnostic => rfl
  | offered candidate =>
    cases hbest : scan.opportunity with
    | none => rfl
    | some best =>
      simp only [PairlockOutcome.offer, Option.toList_some, List.foldl_cons, List.foldl_nil,
        List.argAux]
      split_ifs
      · rfl
      · exact hbest

theorem scan_opportunity (lots : List GridLot) (scan : PositiveFlipPairlockBuyOpportunityScan) :
    (lots.foldl (scanPairlockLot config state quotes) scan).opportunity =
      (lots.flatMap fun lot => (pairlockOutcome config state quotes lot).offer.toList).foldl
        (List.argAux fun b c => c.lockedProfitPerShare < b.lockedProfitPerShare)
        scan.opportunity := by
  induction lots generalizing scan with
  | nil => rfl
  | cons lot lots ih =>
    rw [List.foldl_cons, ih, scanPairlockLot_opportunity, List.flatMap_cons, List.foldl_append]

variable (config state quotes) in
theorem positiveFlipPairlockScanBuyOpportunity_eq (hopen : PairlockOpen config state)
    (lots : List GridLot) :
    (positiveFlipPairlockScanBuyOpportunity config state quotes lots).opportunity =
      (lots.flatMap fun lot => (pairlockOutcome config state quotes lot).offer.toList).argmax
        (·.lockedProfitPerShare) := by
  have hbudget : ¬ ((pairlockRemainingBudget config state).any (· ≤ slack) = true ∨
      config.maxUnmergedExposureUsdc ≤ 0) := by
    rw [not_or, not_le]
    refine ⟨?_, hopen.exposure⟩
    rw [Option.any_eq_true]
    rintro ⟨budget, hbudget, hle⟩
    exact (hopen.budget budget hbudget).not_ge (of_decide_eq_true hle)
  rw [positiveFlipPairlockScanBuyOpportunity, if_neg (by simp [hopen.enabled]), if_neg hbudget,
    scan_opportunity]
  rfl

variable (quotes) in
theorem scan_of_not_open (h : ¬ PairlockOpen config state) (lots : List GridLot) :
    (positiveFlipPairlockScanBuyOpportunity config state quotes lots).opportunity = none := by
  unfold positiveFlipPairlockScanBuyOpportunity
  split_ifs with henabled hbudget
  · rfl
  · rfl
  · refine absurd ⟨by simpa using henabled, fun budget hmem => ?_, ?_⟩ h
    · by_contra hle
      refine hbudget (.inl ((Option.any_eq_true _ _).mpr ⟨budget, hmem, ?_⟩))
      exact decide_eq_true (not_lt.mp hle)
    · exact not_le.mp fun hle => hbudget (.inr hle)

theorem mem_offers_iff (hopen : PairlockOpen config state) {lots : List GridLot}
    {opportunity : PositiveFlipPairlockBuyOpportunity} :
    opportunity ∈ (lots.flatMap fun lot =>
        (pairlockOutcome config state quotes lot).offer.toList) ↔
      ∃ lot ∈ lots, ∃ quote ask, Lockable config state quotes lot ask ∧
        opportunity = pairlockOfferAt config state lot quote ask ∧
          positiveFlipPairlockSideQuote quotes
            (positiveFlipPairlockOppositeSide lot.gridSide) = some quote := by
  simp only [List.mem_flatMap, Option.mem_toList, outcome_offer_iff hopen]

theorem Lockable.quote {lot : GridLot} {ask : ℚ} (h : Lockable config state quotes lot ask) :
    ∃ quote, positiveFlipPairlockSideQuote quotes
      (positiveFlipPairlockOppositeSide lot.gridSide) = some quote := by
  obtain ⟨quote, hquote, -⟩ := Option.bind_eq_some_iff.mp h.quoted
  exact ⟨quote, hquote⟩

theorem Lockable.isOpen {lot : GridLot} {ask : ℚ} (h : Lockable config state quotes lot ask) :
    PairlockOpen config state := ⟨h.enabled, h.budget, h.exposure⟩

/-! ### The law of the compression -/

theorem Lockable.locksLot {lot : GridLot} {ask : ℚ} (h : Lockable config state quotes lot ask)
    (quote : GridQuote) :
    LocksLot config state quotes (pairlockOfferAt config state lot quote ask) := by
  have hask := h.price.1
  have hbase := (pairlockBaseTargetQty_pos_iff config state).mpr h.quantity
  obtain ⟨hlot, hcap⟩ := le_min_iff.mp (pairlockBaseTargetQty_le config state hbase)
  obtain ⟨-, htarget⟩ := (marketable_iff hask hbase).mpr h.marketable
  have htopUp : (pairlockOfferAt config state lot quote ask).minNotionalTopUpApplied =
    pairlockTopUpApplied config state lot ask := rfl
  have hkept (hno : pairlockTopUpApplied config state lot ask = false) :
      (pairlockOfferAt config state lot quote ask).candidate.targetQty =
        pairlockBaseTargetQty config state lot ask := by
    change pairlockTargetQty config state lot ask = _
    rw [pairlockTargetQty, hno]
    rfl
  have htopped (hyes : pairlockTopUpApplied config state lot ask = true) :
      (pairlockOfferAt config state lot quote ask).candidate.targetQty =
        positiveFlipPairlockMinMarketableShareQty ask := by
    change pairlockTargetQty config state lot ask = _
    rw [pairlockTargetQty, if_pos hyes]
  have hcost : (pairlockOfferAt config state lot quote ask).candidate.actualBuyUsdc =
    (pairlockOfferAt config state lot quote ask).candidate.targetQty * ask := rfl
  refine ⟨h, rfl, rfl, rfl, ?_, fun cap hcaps => ⟨?_, fun hno => ?_⟩, fun hno => ?_,
    fun hyes => ⟨?_, fun qty hqty hmarketable => ?_⟩⟩
  · cases hyes : pairlockTopUpApplied config state lot ask with
    | true =>
      rw [hcost, htopped hyes]
      exact (one_le_minMarketable_cost hask).trans (le_add_of_nonneg_right slack_pos.le)
    | false =>
      rw [hcost, hkept hyes]
      exact not_lt.mp (of_decide_eq_false hyes)
  · exact cost_le_of_le_hardCap config state hask htarget hcaps
  · have hwithin := hcap.trans_eq (add_zero (pairlockHardCapQty config state ask)).symm
    have hle := cost_le_of_le_hardCap config state hask hwithin hcaps
    rwa [zero_mul, add_zero, ← hkept (htopUp ▸ hno)] at hle
  · rw [hkept (htopUp ▸ hno)]
    exact hlot
  · rw [hcost, htopped (htopUp ▸ hyes)]
    exact one_le_minMarketable_cost hask
  · rw [htopped (htopUp ▸ hyes)]
    exact (minMarketable_le_iff hask hqty).mpr hmarketable

variable (config quotes) in
theorem mergePlan_le {lots : List GridLot} {plan : PositiveFlipPairlockMergePlan}
    (h : plan ∈ positiveFlipPairlockFindMergePlan lots config.toPositiveQuantityFlipGridConfig) :
    (plan.upLeg ∈ lots ∧ plan.upLeg.gridSide = .up) ∧
      (plan.downLeg ∈ lots ∧ plan.downLeg.gridSide = .down) ∧
        plan.quantity ≤ plan.upLeg.quantity ∧ plan.quantity ≤ plan.downLeg.quantity := by
  obtain ⟨hup, hdown, hpos, hquantity⟩ := mem_findMergePlan h
  rw [floorTradeBuilderShareQty_max] at hquantity
  rw [hquantity] at hpos ⊢
  obtain ⟨hlots, -⟩ := le_min_iff.mp (floorTradeBuilderShareQty_le (slack_pos.trans hpos))
  exact ⟨hup, hdown, le_min_iff.mp hlots⟩

variable (config state quotes) in
/-- The scan answers the best of the buys that lock an open lot within the caps, and a merge takes
no more than either of its lots holds. -/
theorem pairlock_compression_law (lots : List GridLot) :
    CompressionLaw config state quotes lots := by
  by_cases hopen : PairlockOpen config state
  · have hscan := positiveFlipPairlockScanBuyOpportunity_eq config state quotes hopen lots
    refine ⟨?_, fun opportunity hmem => ?_, fun opportunity hmem lot hlot ask hlock => ?_,
      fun plan hplan => mergePlan_le config hplan⟩
    · rw [hscan, List.argmax_eq_none, List.eq_nil_iff_forall_not_mem]
      constructor
      · intro hnone lot hlot ask hlock
        obtain ⟨quote, hquote⟩ := hlock.quote
        exact hnone _ ((mem_offers_iff hopen).mpr ⟨lot, hlot, quote, ask, hlock, rfl, hquote⟩)
      · intro hnone opportunity hmem
        obtain ⟨lot, hlot, quote, ask, hlock, -⟩ := (mem_offers_iff hopen).mp hmem
        exact hnone lot hlot ask hlock
    · rw [hscan] at hmem
      obtain ⟨lot, hlot, quote, ask, hlock, rfl, -⟩ :=
        (mem_offers_iff hopen).mp (List.argmax_mem hmem)
      exact ⟨hlot, hlock.locksLot quote⟩
    · rw [hscan] at hmem
      obtain ⟨quote, hquote⟩ := hlock.quote
      exact List.le_of_mem_argmax
        ((mem_offers_iff hopen).mpr ⟨lot, hlot, quote, ask, hlock, rfl, hquote⟩) hmem
  · have hscan := scan_of_not_open quotes hopen lots
    have hno (opportunity : PositiveFlipPairlockBuyOpportunity) : opportunity ∉
        (positiveFlipPairlockScanBuyOpportunity config state quotes lots).opportunity := by
      rw [hscan]
      exact nofun
    refine ⟨iff_of_true hscan fun lot _ ask hlock => hopen hlock.isOpen,
      fun opportunity hmem => absurd hmem (hno opportunity),
      fun opportunity hmem => absurd hmem (hno opportunity),
      fun plan hplan => mergePlan_le config hplan⟩

end Scan

/-! ### A topped up lot -/

/-- The law without slack, and with the lot as one more bound. -/
structure CompressionAsStated (config : PairlockConfig) (state : PositiveQuantityFlipGridState)
    (quotes : List GridQuote) (lots : List GridLot) : Prop
    extends CompressionLaw config state quotes lots where
  marketable : ∀ opportunity ∈
    (positiveFlipPairlockScanBuyOpportunity config state quotes lots).opportunity,
      1 ≤ opportunity.candidate.actualBuyUsdc
  capped : ∀ opportunity ∈
    (positiveFlipPairlockScanBuyOpportunity config state quotes lots).opportunity,
      ∀ cap, config.maxSingleBuyUsdc = some cap ∨
        pairlockRemainingBudget config state = some cap ∨ config.maxUnmergedExposureUsdc = cap →
          opportunity.candidate.actualBuyUsdc ≤ cap
  withinLot : ∀ opportunity ∈
    (positiveFlipPairlockScanBuyOpportunity config state quotes lots).opportunity,
      opportunity.candidate.targetQty ≤ opportunity.matchedLot.quantity

def compressionConfig : PairlockConfig where
  pairlockCompressionEnabled := true
  feeBuffer := 1 / 100
  targetPairlockProfit := 5 / 100
  maxPairCost := 94 / 100
  maxUnmergedExposureUsdc := 5
  maxSingleBuyUsdc := none
  maxTotalSpentPerMarketUsdc := some 5
  exitPriceForSizing := 1

def compressionLot : GridLot := ⟨18136, .down, "flip_positive", 233 / 100, 53 / 100, 12349 / 10000⟩

/-- At thirty-four cents a dollar buys more shares than the lot has. -/
theorem topped_up_above_lot : ¬ CompressionAsStated compressionConfig
    ⟨0, 233 / 100, 12349 / 10000, 0, 0, 12349 / 10000, 2⟩ [⟨.up, none, some (34 / 100)⟩]
    [compressionLot] := by
  intro hlaw
  have hmore : ((positiveFlipPairlockScanBuyOpportunity compressionConfig
      ⟨0, 233 / 100, 12349 / 10000, 0, 0, 12349 / 10000, 2⟩ [⟨.up, none, some (34 / 100)⟩]
      [compressionLot]).opportunity.any fun opportunity =>
        decide (opportunity.matchedLot.quantity < opportunity.candidate.targetQty)) = true := by
    decide +kernel
  obtain ⟨opportunity, hmem, hlt⟩ := (Option.any_eq_true _ _).mp hmore
  exact (hlaw.withinLot opportunity hmem).not_gt (of_decide_eq_true hlt)

end PolymarketBot.FlipGrid
