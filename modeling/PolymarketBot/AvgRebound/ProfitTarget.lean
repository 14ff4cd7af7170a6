import PolymarketBot.AvgRebound.Decision
import Mathlib.Tactic.FieldSimp
import Mathlib.Tactic.Linarith

/-! When a profit decision keeps the target profit at every price up to its limit. -/

namespace PolymarketBot.AvgRebound
variable {config : AvgReboundConfig} {state : AvgReboundState}

/-! ### What a decision is made of -/

theorem vwapForFokLimit_ok {asks : List BookLevel} {qty cap buffer : ℚ} {quote : VwapQuote}
    (h : vwapForFokLimit asks qty cap buffer = .ok quote) :
    0 < qty ∧ quote.limitPrice = cap - buffer ∧ 0 < quote.limitPrice := by
  unfold vwapForFokLimit at h
  dsimp only at h
  split_ifs at h with hqty hlimit
  obtain rfl := Except.ok.inj h
  exact ⟨not_le.mp hqty, rfl, not_le.mp hlimit⟩

/-- A built decision buys what was asked for, within the limit and the budget. -/
structure Builds (config : AvgReboundConfig) (state : AvgReboundState) (purchase : Purchase)
    (decision : AvgReboundDecision) : Prop where
  role : decision.legRole = purchase.legRole
  intent : decision.intent = purchase.intent
  id : decision.tierOrLegId = purchase.tierOrLegId
  qty : decision.qty = purchase.qty
  qty_pos : 0 < decision.qty
  limit : decision.limitPrice = purchase.cap - purchase.safetyBuffer config
  limit_pos : 0 < decision.limitPrice
  spend : totalCost state + decision.notional ≤ budgetLimit config

theorem buildDecision_ok {purchase : Purchase} {asks : List BookLevel}
    {decision : AvgReboundDecision}
    (h : buildDecision config state purchase asks = .ok decision) :
    Builds config state purchase decision := by
  unfold buildDecision at h
  split at h
  · cases h
  split at h
  · cases h
  next quote hquote =>
    obtain ⟨hqty, hlimit, hpos⟩ := vwapForFokLimit_ok hquote
    split_ifs at h with hmin hspend
    obtain rfl := Except.ok.inj h
    refine ⟨rfl, rfl, rfl, rfl, hqty, hlimit, hpos, ?_⟩
    simpa [projectedSpendAllowed] using hspend

theorem firstDecision_mem {l : List (Except Rejection AvgReboundDecision)}
    {decision : AvgReboundDecision} (h : (firstDecision l).1 = some decision) :
    .ok decision ∈ l := by
  induction l with
  | nil => cases h
  | cons head l ih =>
    cases head with
    | ok first =>
      obtain rfl : first = decision := Option.some.inj h
      exact List.mem_cons_self
    | error rejection => exact List.mem_cons_of_mem _ (ih h)

theorem profitDecision_eq {asks : List BookLevel} {x : Except Rejection AvgReboundDecision}
    (h : profitDecision config state asks = some x) :
    ∃ stage leg, currentStage config state = some stage ∧ nextProfitLeg state stage = some leg ∧
      x = buildDecision config state (profitPurchase config state stage leg) asks := by
  unfold profitDecision at h
  obtain ⟨stage, hstage, h⟩ := Option.bind_eq_some_iff.mp h
  obtain ⟨leg, hleg, h⟩ := Option.bind_eq_some_iff.mp h
  split_ifs at h
  exact ⟨stage, leg, hstage, hleg, (Option.some.inj h).symm⟩

/-- The candidates other than the profit decision. -/
def BuiltOtherwise (config : AvgReboundConfig) (state : AvgReboundState)
    (x : Except Rejection AvgReboundDecision) : Prop :=
  ∃ purchase asks, purchase.intent ≠ .profitPairlock ∧
    x = buildDecision config state purchase asks

theorem guardDecision_built {price : ℚ} {asks : List BookLevel}
    {x : Except Rejection AvgReboundDecision}
    (h : guardDecision config state price asks = some x) : BuiltOtherwise config state x := by
  unfold guardDecision at h
  obtain ⟨stage, -, h⟩ := Option.bind_eq_some_iff.mp h
  dsimp only at h
  split_ifs at h
  exact ⟨_, _, fun hintent => Intent.noConfusion hintent, (Option.some.inj h).symm⟩

theorem rescueSteps_intent {step : Intent × ℚ × String} (h : step ∈ rescueSteps config) :
    step.1 ≠ .profitPairlock := by
  unfold rescueSteps at h
  rcases List.mem_append.mp h with hstep | hlast
  · simp only [List.mem_cons, List.not_mem_nil, or_false] at hstep
    rcases hstep with rfl | rfl | rfl <;> simp
  · obtain ⟨cap, -, rfl⟩ := Option.map_eq_some_iff.mp (Option.mem_toList.mp hlast)
    simp

theorem rescueDecision_built {asks : List BookLevel} {x : Except Rejection AvgReboundDecision}
    (h : rescueDecision config state asks = some x) : BuiltOtherwise config state x := by
  unfold rescueDecision at h
  split_ifs at h
  obtain ⟨step, hstep, rfl⟩ := List.mem_map.mp (List.mem_of_find?_eq_some h)
  exact ⟨_, _, rescueSteps_intent hstep, rfl⟩

theorem primaryDecision_built {asks : List BookLevel} {x : Except Rejection AvgReboundDecision}
    (h : primaryDecision config state asks = some x) : BuiltOtherwise config state x := by
  unfold primaryDecision at h
  split_ifs at h
  obtain ⟨tier, -, rfl⟩ := Option.map_eq_some_iff.mp h
  exact ⟨_, _, fun hintent => Intent.noConfusion hintent, rfl⟩

theorem candidate_cases {market : MarketView} {x : Except Rejection AvgReboundDecision}
    (h : x ∈ candidates config state market) :
    profitDecision config state market.oppositeAsks = some x ∨ BuiltOtherwise config state x := by
  unfold candidates at h
  simp only [List.mem_append, Option.mem_toList] at h
  rcases h with (hprofit | hfull) | hprimary
  · exact .inl hprofit
  · split_ifs at hfull
    · rcases List.mem_append.mp hfull with hguard | hrescue
      · exact .inr (guardDecision_built (Option.mem_toList.mp hguard))
      · exact .inr (rescueDecision_built (Option.mem_toList.mp hrescue))
    · cases hfull
  · exact .inr (primaryDecision_built hprimary)

theorem selectDecision_builds {market : MarketView} {decision : AvgReboundDecision}
    (h : (selectDecision config state market).1 = some decision) :
    ∃ purchase, Builds config state purchase decision := by
  rcases candidate_cases (firstDecision_mem h) with hprofit | ⟨purchase, asks, -, hbuild⟩
  · obtain ⟨stage, leg, -, -, hbuild⟩ := profitDecision_eq hprofit
    exact ⟨_, buildDecision_ok hbuild.symm⟩
  · exact ⟨purchase, buildDecision_ok hbuild.symm⟩

theorem selectDecision_profit {market : MarketView} {decision : AvgReboundDecision}
    (h : (selectDecision config state market).1 = some decision)
    (hintent : decision.intent = .profitPairlock) :
    ∃ stage leg, currentStage config state = some stage ∧ nextProfitLeg state stage = some leg ∧
      Builds config state (profitPurchase config state stage leg) decision := by
  rcases candidate_cases (firstDecision_mem h) with hprofit | ⟨purchase, asks, hother, hbuild⟩
  · obtain ⟨stage, leg, hstage, hleg, hbuild⟩ := profitDecision_eq hprofit
    exact ⟨stage, leg, hstage, hleg, buildDecision_ok hbuild.symm⟩
  · exact absurd ((buildDecision_ok hbuild.symm).intent.symm.trans hintent) hother

/-! ### The target profit -/

def nextProfitQty (config : AvgReboundConfig) (state : AvgReboundState) : Option ℚ := do
  let stage ← currentStage config state
  let leg ← nextProfitLeg state stage
  some (qtyMin leg.qty state.openPrimaryQty)

/-- What is locked once a quantity of the opposite side is bought at an average price. -/
def lockedResult (state : AvgReboundState) (qty average : ℚ) : ℚ :=
  qtyMin state.primaryTotalQty (state.oppositeFilledQty + qty) -
    (totalCost state + qty * average)

theorem target_le_lockedResult_iff (target qty average : ℚ) :
    target ≤ lockedResult state qty average ↔
      qty * average ≤ maxNewOppositeNotional state target qty := by
  unfold lockedResult maxNewOppositeNotional
  constructor <;> intro h <;> linarith

theorem dynamicProfitCap_room {target qty : ℚ} (htarget : config.targetProfitUsdc = some target)
    (hqty : 0 < qty) (hprimary : 0 < state.primaryTotalQty)
    (hroom : 0 < maxNewOppositeNotional state target qty) :
    ∃ caps, dynamicProfitCap config state qty = some caps ∧
      qty * (caps.1 - config.extraVwapSafetyBuffer) ≤ maxNewOppositeNotional state target qty := by
  have heffective : 0 < maxNewOppositeNotional state target qty / qty := div_pos hroom hqty
  have hspend : qty * (maxNewOppositeNotional state target qty / qty) =
      maxNewOppositeNotional state target qty := by
    field_simp
  unfold dynamicProfitCap
  rw [htarget, Option.bind_some, if_neg (not_or.mpr ⟨not_le.mpr hqty, not_le.mpr hprimary⟩),
    if_neg (not_le.mpr hroom)]
  dsimp only
  rw [if_neg (not_le.mpr heffective)]
  refine ⟨_, rfl, ?_⟩
  dsimp only
  rw [← hspend]
  refine mul_le_mul_of_nonneg_left ?_ hqty.le
  rw [hspend]
  split_ifs with hraw
  · linarith
  · linarith

/-- Whatever the average price up to the limit, the target is locked. -/
def KeepsTarget (state : AvgReboundState) (target : ℚ) (decision : AvgReboundDecision) : Prop :=
  ∀ average, 0 ≤ average → average ≤ decision.limitPrice →
    target ≤ lockedResult state decision.qty average

/-- A profit decision keeps the target at every average price up to its limit exactly when the
legs locked so far leave something to spend on it. -/
theorem profit_decision_keeps_target_iff (config : AvgReboundConfig) (state : AvgReboundState)
    (market : MarketView) (decision : AvgReboundDecision) (target : ℚ)
    (htarget : config.targetProfitUsdc = some target) (hprimary : 0 < state.primaryTotalQty)
    (hselect : (selectDecision config state market).1 = some decision)
    (hintent : decision.intent = .profitPairlock) :
    KeepsTarget state target decision ↔
      ∀ qty ∈ nextProfitQty config state, 0 < maxNewOppositeNotional state target qty := by
  obtain ⟨stage, leg, hstage, hleg, hbuilds⟩ := selectDecision_profit hselect hintent
  have hnext : nextProfitQty config state = some decision.qty := by
    unfold nextProfitQty
    rw [hstage, hbuilds.qty]
    change (nextProfitLeg state stage).bind _ = _
    rw [hleg]
    rfl
  have hcap : decision.limitPrice =
      ((dynamicProfitCap config state decision.qty).map Prod.fst).getD leg.oppositeVwapCap -
        config.extraVwapSafetyBuffer := by
    rw [hbuilds.limit, hbuilds.qty]
    rfl
  have hqty := hbuilds.qty_pos
  have hlimit := hbuilds.limit_pos
  unfold KeepsTarget
  simp only [target_le_lockedResult_iff, hnext, Option.mem_some_iff, forall_eq']
  constructor
  · intro hkeeps
    have hspent := hkeeps decision.limitPrice hlimit.le (le_refl _)
    exact lt_of_lt_of_le (mul_pos hqty hlimit) hspent
  · intro hroom average haverage hle
    obtain ⟨caps, hcaps, hspend⟩ := dynamicProfitCap_room htarget hqty hprimary hroom
    rw [hcaps, Option.map_some, Option.getD_some] at hcap
    rw [← hcap] at hspend
    exact (mul_le_mul_of_nonneg_left hle hqty.le).trans hspend

/-! ### A first leg -/

/-- One tier of eight shares, and a first profit leg of four. -/
def sampleConfig : AvgReboundConfig where
  sessionBudgetUsdc := 50
  reservedBudgetBufferUsdc := 3 / 4
  extraVwapSafetyBuffer := 1 / 200
  targetProfitUsdc := some (1 / 10)
  allowPrimaryAfterPartialProfit := true
  preFullGivebackGuardEnabled := false
  fullGivebackGuardEnabled := true
  primaryLadder := [⟨"p50", 1 / 2, 8⟩]
  stages := [⟨"stage_50", ["p50"], [⟨"s50_profit_45", 9 / 20, 4⟩], ⟨47 / 100, 47 / 100⟩⟩]
  rescue := ⟨true, 39 / 50, 81 / 100, 81 / 100, none⟩
  tier_ok := by norm_num
  leg_ok := by norm_num
  stage_ok := by simp
  target_ok := by norm_num
  budget_ok := by norm_num
  reserve_ok := by norm_num
  ladder_ok := by simp
  stages_ok := by simp

def boughtFor (cost : ℚ) : AvgReboundState :=
  { sessionId := some 1
    primaryTotalQty := 8
    primaryTotalCost := cost
    avgPrimaryCost := some (cost / 8)
    openPrimaryQty := 8
    primaryTierIds := ["p50"] }

def sampleMarket : MarketView := ⟨[], [⟨3 / 10, 10⟩], 3 / 10⟩

def firstLeg (cost : ℚ) : Option AvgReboundDecision :=
  (selectDecision sampleConfig (boughtFor cost) sampleMarket).1

theorem firstLeg_cheap : (firstLeg (12 / 5)).isSome := by decide +kernel

theorem firstLeg_dear : (firstLeg 4).isSome := by decide +kernel

/-- A cheap tier leaves something for the first leg, whose limit keeps the target. -/
theorem cheap_leg_keeps_target :
    ∃ decision ∈ firstLeg (12 / 5), KeepsTarget (boughtFor (12 / 5)) (1 / 10) decision := by
  have hselect := (Option.some_get firstLeg_cheap).symm
  have hintent : ((firstLeg (12 / 5)).get firstLeg_cheap).intent = .profitPairlock := by
    decide +kernel
  refine ⟨_, hselect, ?_⟩
  refine (profit_decision_keeps_target_iff sampleConfig (boughtFor (12 / 5)) sampleMarket _ (1 / 10)
    rfl (by decide +kernel) hselect hintent).mpr ?_
  decide +kernel

/-- A tier at its cap leaves nothing, and the leg is bought at its configured cap. -/
theorem dear_leg_misses_target :
    ∃ decision ∈ firstLeg 4, decision.intent = .profitPairlock ∧
      ¬ KeepsTarget (boughtFor 4) (1 / 10) decision := by
  refine ⟨(firstLeg 4).get firstLeg_dear, (Option.some_get firstLeg_dear).symm,
    by decide +kernel, fun hkeeps => ?_⟩
  have hmiss := hkeeps (3 / 10) (by decide +kernel) (by decide +kernel)
  have hless : ¬ 1 / 10 ≤ lockedResult (boughtFor 4) ((firstLeg 4).get firstLeg_dear).qty (3 / 10) := by
    decide +kernel
  exact hless hmiss

end PolymarketBot.AvgRebound
