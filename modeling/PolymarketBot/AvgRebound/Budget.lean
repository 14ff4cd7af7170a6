import PolymarketBot.AvgRebound.ProfitTarget
import PolymarketBot.Builder.Sizing
import PolymarketBot.Lib.Runs

/-! The fills of a session, the state they fold to, and what a run of decisions spends. -/

namespace PolymarketBot.AvgRebound
open Lib Lib.Runs
open Builder (clampProbability)

structure Fill where
  sessionId : ℤ
  legRole : LegRole
  intent : Intent
  stageId : Option String
  tierOrLegId : String
  quantity : ℚ
  executionPrice : ℚ
  notionalUsdc : ℚ

/-- `maybe_record_avg_rebound_pairlock_rescue_fill`: the row of a decision's order. -/
def recordFill (decision : AvgReboundDecision) (fillQty executionPrice : ℚ) : Fill where
  sessionId := decision.sessionId
  legRole := decision.legRole
  intent := decision.intent
  stageId := decision.stageId
  tierOrLegId := decision.tierOrLegId
  quantity := max fillQty 0
  executionPrice := clampProbability (max executionPrice 0)
  notionalUsdc := max (max fillQty 0 * max executionPrice 0) 0

/-! ### The fold of the fills -/

section Fold
variable (legRole : LegRole) (fills : List Fill)

def fillsOf : List Fill := fills.filter (·.legRole = legRole)

def qtyOf : ℚ := ((fillsOf legRole fills).map (·.quantity)).sum

def costOf : ℚ := ((fillsOf legRole fills).map (·.notionalUsdc)).sum

def tierOrLegIdsOf : List String := ((fillsOf legRole fills).map (·.tierOrLegId)).dedup

def profitStarted : Bool :=
  fills.any fun fill => fill.legRole = .opposite ∧ fill.intent = .profitPairlock

def avgPrimaryCost : Option ℚ :=
  if 0 < qtyOf .primary fills then some (costOf .primary fills / qtyOf .primary fills) else none

def spent : ℚ := costOf .primary fills + costOf .opposite fills

end Fold

/-- `load_trade_builder_avg_rebound_pairlock_rescue_state` and `avg_rebound_state_from_db`. -/
def loadState (sessionId : ℤ) (fills : List Fill) : AvgReboundState where
  sessionId := some sessionId
  primaryTotalQty := decimalFromF64 (qtyOf .primary fills)
  primaryTotalCost := decimalFromF64 (costOf .primary fills)
  avgPrimaryCost := (avgPrimaryCost fills).map decimalFromF64
  oppositeFilledQty := decimalFromF64 (qtyOf .opposite fills)
  oppositeTotalCost := decimalFromF64 (costOf .opposite fills)
  openPrimaryQty := decimalFromF64 (max (qtyOf .primary fills - qtyOf .opposite fills) 0)
  lockedPnl := decimalFromF64 (qtyOf .opposite fills -
    (avgPrimaryCost fills).getD 0 * qtyOf .opposite fills - costOf .opposite fills)
  profitStarted := profitStarted fills
  primaryTierIds := tierOrLegIdsOf .primary fills
  oppositeLegIds := tierOrLegIdsOf .opposite fills

theorem costOf_append (legRole : LegRole) (fills : List Fill) (fill : Fill) :
    costOf legRole (fills ++ [fill]) =
      costOf legRole fills + if fill.legRole = legRole then fill.notionalUsdc else 0 := by
  unfold costOf fillsOf
  rw [List.filter_append, List.map_append, List.sum_append]
  by_cases h : fill.legRole = legRole <;> simp [h]

theorem spent_append (fills : List Fill) (fill : Fill) :
    spent (fills ++ [fill]) = spent fills + fill.notionalUsdc := by
  unfold spent
  rw [costOf_append, costOf_append]
  cases fill.legRole
  · simp only [reduceCtorEq, if_true, if_false]
    ring
  · simp only [reduceCtorEq, if_true, if_false]
    ring

theorem abs_decimalFromF64_sub_le (value : ℚ) :
    |decimalFromF64 value - value| ≤ 1 / 2 / 10 ^ 12 := by
  have hround := abs_roundHalfEven_sub_le (x := value * 10 ^ 12)
  have hscale : decimalFromF64 value - value =
      (roundHalfEven (value * 10 ^ 12) - value * 10 ^ 12) / 10 ^ 12 := by
    unfold decimalFromF64
    field_simp
  rw [hscale, abs_div, abs_of_pos (show (0 : ℚ) < 10 ^ 12 by norm_num)]
  exact div_le_div_of_nonneg_right hround (by norm_num)

/-- How far the loaded state is from what was spent. -/
def statePrecision : ℚ := 1 / 10 ^ 12

theorem spent_le_totalCost (sessionId : ℤ) (fills : List Fill) :
    spent fills ≤ totalCost (loadState sessionId fills) + statePrecision := by
  have hprimary := abs_le.mp (abs_decimalFromF64_sub_le (costOf .primary fills))
  have hopposite := abs_le.mp (abs_decimalFromF64_sub_le (costOf .opposite fills))
  unfold spent totalCost loadState statePrecision
  norm_num at hprimary hopposite ⊢
  linarith [hprimary.1, hopposite.1]

/-! ### Runs of a session -/

/-- The market a decision is taken in, and the average price its order is filled at. -/
structure Filled where
  market : MarketView
  average : ℚ

variable (config : AvgReboundConfig) (sessionId : ℤ)

def nextDecision (fills : List Fill) (market : MarketView) : Option AvgReboundDecision :=
  (selectDecision config (loadState sessionId fills) market).1

def sessionStep (fills : List Fill) (filled : Filled) : List Fill :=
  match nextDecision config sessionId fills filled.market with
  | none => fills
  | some decision => fills ++ [recordFill decision decision.qty filled.average]

def FilledWithinLimit (fills : List Fill) (filled : Filled) : Prop :=
  ∀ decision ∈ nextDecision config sessionId fills filled.market,
    0 ≤ filled.average ∧ filled.average ≤ decision.limitPrice

/-- The reserve covers what the fill costs above its quote, or the order fits into the budget
even at its limit. -/
def FillCovered (fills : List Fill) (filled : Filled) : Prop :=
  ∀ decision ∈ nextDecision config sessionId fills filled.market,
    decision.qty * filled.average + statePrecision ≤
        decision.notional + config.reservedBudgetBufferUsdc ∨
      spent fills + decision.qty * decision.limitPrice ≤ config.sessionBudgetUsdc

instance (fills : List Fill) (filled : Filled) :
    Decidable (FilledWithinLimit config sessionId fills filled) :=
  inferInstanceAs (Decidable (∀ decision ∈ nextDecision config sessionId fills filled.market,
    0 ≤ filled.average ∧ filled.average ≤ decision.limitPrice))

instance (fills : List Fill) (filled : Filled) :
    Decidable (FillCovered config sessionId fills filled) :=
  inferInstanceAs (Decidable (∀ decision ∈ nextDecision config sessionId fills filled.market,
    decision.qty * filled.average + statePrecision ≤
        decision.notional + config.reservedBudgetBufferUsdc ∨
      spent fills + decision.qty * decision.limitPrice ≤ config.sessionBudgetUsdc))

variable {config sessionId}

theorem recordFill_notional {decision : AvgReboundDecision} {qty average : ℚ}
    (hqty : 0 ≤ qty) (haverage : 0 ≤ average) :
    (recordFill decision qty average).notionalUsdc = qty * average := by
  unfold recordFill
  rw [max_eq_left hqty, max_eq_left haverage, max_eq_left (mul_nonneg hqty haverage)]

theorem sessionStep_within_budget {fills : List Fill} {filled : Filled}
    (hbudget : spent fills ≤ config.sessionBudgetUsdc)
    (hlimit : FilledWithinLimit config sessionId fills filled)
    (hcovered : FillCovered config sessionId fills filled) :
    spent (sessionStep config sessionId fills filled) ≤ config.sessionBudgetUsdc := by
  unfold sessionStep
  cases hnext : nextDecision config sessionId fills filled.market with
  | none => exact hbudget
  | some decision =>
    obtain ⟨purchase, hbuilds⟩ := selectDecision_builds hnext
    obtain ⟨haverage, hle⟩ := hlimit decision hnext
    have hqty := hbuilds.qty_pos
    change spent (fills ++ [recordFill decision decision.qty filled.average]) ≤ _
    rw [spent_append, recordFill_notional hqty.le haverage]
    rcases hcovered decision hnext with hquote | hworst
    · have hloaded := spent_le_totalCost sessionId fills
      have hspend := hbuilds.spend
      unfold budgetLimit at hspend
      linarith
    · have hcost : decision.qty * filled.average ≤ decision.qty * decision.limitPrice :=
        mul_le_mul_of_nonneg_left hle hqty.le
      linarith

/-- A session whose fills are covered never spends more than its budget. -/
theorem session_budget_kept (config : AvgReboundConfig) (sessionId : ℤ) (run : List Filled)
    (hlimit : EachStep (sessionStep config sessionId) (FilledWithinLimit config sessionId) [] run)
    (hcovered : EachStep (sessionStep config sessionId) (FillCovered config sessionId) [] run) :
    Throughout (sessionStep config sessionId) (fun fills => spent fills ≤ config.sessionBudgetUsdc)
      [] run := by
  have hstart : spent [] ≤ config.sessionBudgetUsdc := by
    simpa [spent, costOf, fillsOf] using config.budget_ok.le
  refine EachStep.throughout (I := fun fills => spent fills ≤ config.sessionBudgetUsdc)
    (fun _ h => h) ?_ hstart (hlimit.and hcovered)
  intro fills filled hbudget ⟨hwithin, hcover⟩
  exact sessionStep_within_budget hbudget hwithin hcover

/-! ### Two sessions -/

/-- The tier and then its first profit leg, filled above their quotes. -/
def coveredRun : List Filled :=
  [⟨⟨[⟨3 / 10, 10⟩], [], 7 / 10⟩, 31 / 100⟩, ⟨⟨[], [⟨3 / 10, 10⟩], 3 / 10⟩, 7 / 20⟩]

theorem covered_run_within_budget :
    (coveredRun.foldl (sessionStep sampleConfig 1) []).length = 2 ∧
      Throughout (sessionStep sampleConfig 1) (fun fills => spent fills ≤ 50) [] coveredRun :=
  ⟨by decide +kernel,
    session_budget_kept sampleConfig 1 coveredRun (by decide +kernel) (by decide +kernel)⟩

def wideConfig : AvgReboundConfig :=
  { sampleConfig with
    primaryLadder := [⟨"p50", 1 / 2, 120⟩]
    tier_ok := by norm_num
    ladder_ok := by simp }

/-- Quoted at 48, the tier fills at its cap for 60. -/
def dearRun : List Filled := [⟨⟨[⟨2 / 5, 200⟩], [], 3 / 5⟩, 1 / 2⟩]

theorem dear_run_exceeds_budget :
    EachStep (sessionStep wideConfig 1) (FilledWithinLimit wideConfig 1) [] dearRun ∧
      ¬ Throughout (sessionStep wideConfig 1) (fun fills => spent fills ≤ wideConfig.sessionBudgetUsdc)
        [] dearRun := by
  refine ⟨by decide +kernel, fun hkept => ?_⟩
  have hover : ¬ spent ((dearRun.take 1).foldl (sessionStep wideConfig 1) []) ≤
      wideConfig.sessionBudgetUsdc := by
    decide +kernel
  exact hover (hkept 1)

end PolymarketBot.AvgRebound
