import PolymarketBot.ConfidenceLadder.Decision
import PolymarketBot.Lib.Runs

/-! The risk envelope: what every selected buy leaves, filled in part or in full. -/

namespace PolymarketBot.ConfidenceLadder
open Lib.Runs
variable {config : ConfidenceLadderConfig} {state : ConfidenceLadderState} {look : Look}
  {model : ConfidenceLadderModel}

/-! ### The risk filter -/

def PassesRisk (config : ConfidenceLadderConfig) (state : ConfidenceLadderState)
    (decision : ConfidenceLadderDecision) : Prop :=
  riskAllowsBuy state decision.ladderSide config decision.quantity decision.allInCost

theorem guardedBuy_passes {side : LadderSide} {price minEdge quantity : ℚ} {intent : Intent}
    {decision : ConfidenceLadderDecision}
    (h : guardedBuy config state model side price minEdge intent quantity = some decision) :
    PassesRisk config state decision := by
  unfold guardedBuy at h
  dsimp only at h
  split_ifs at h with hrisk
  obtain rfl := Option.some.inj h
  simpa [PassesRisk] using hrisk

theorem dominantBuyDecision_passes {decision : ConfidenceLadderDecision}
    (h : dominantBuyDecision config state look model = some decision) :
    PassesRisk config state decision := by
  unfold dominantBuyDecision at h
  split_ifs at h
  obtain ⟨side, -, h⟩ := Option.bind_eq_some_iff.mp h
  obtain ⟨price, -, h⟩ := Option.bind_eq_some_iff.mp h
  obtain ⟨width, -, h⟩ := Option.bind_eq_some_iff.mp h
  split_ifs at h
  obtain ⟨⟨intent, quantity, minEdge⟩, -, h⟩ := Option.bind_eq_some_iff.mp h
  dsimp only at h
  split_ifs at h
  exact guardedBuy_passes h

theorem hedgeDecision_passes {decision : ConfidenceLadderDecision}
    (h : hedgeDecision config state look model = some decision) :
    PassesRisk config state decision := by
  unfold hedgeDecision at h
  obtain ⟨held, -, h⟩ := Option.bind_eq_some_iff.mp h
  obtain ⟨heldAvgCost, -, h⟩ := Option.bind_eq_some_iff.mp h
  obtain ⟨price, -, h⟩ := Option.bind_eq_some_iff.mp h
  obtain ⟨width, -, h⟩ := Option.bind_eq_some_iff.mp h
  split_ifs at h
  obtain ⟨⟨intent, quantity⟩, -, h⟩ := Option.bind_eq_some_iff.mp h
  dsimp only at h
  split_ifs at h
  exact guardedBuy_passes h

theorem selectDecision_passes {decision : ConfidenceLadderDecision}
    (h : selectDecision config state look = some decision) : PassesRisk config state decision := by
  unfold selectDecision at h
  dsimp only at h
  split_ifs at h
  · exact hedgeDecision_passes h
  · rcases Option.or_eq_some_iff.mp h with hdominant | ⟨-, hhedge⟩
    · exact dominantBuyDecision_passes hdominant
    · exact hedgeDecision_passes hhedge

theorem PassesRisk.total {decision : ConfidenceLadderDecision}
    (h : PassesRisk config state decision) :
    projectedTotalCost state decision.quantity decision.allInCost ≤
      config.maxTotalCostPerMarketUsdc := by
  unfold PassesRisk riskAllowsBuy at h
  exact (of_decide_eq_true h).1

theorem PassesRisk.worst {decision : ConfidenceLadderDecision}
    (h : PassesRisk config state decision) :
    -config.maxLossPerMarketUsdc ≤
      projectedWorstCasePnl state decision.ladderSide decision.quantity decision.allInCost := by
  unfold PassesRisk riskAllowsBuy at h
  exact (of_decide_eq_true h).2

/-! ### Partial fills -/

theorem le_line_between {m a b x y : ℚ} (hx : 0 ≤ x) (hxy : x ≤ y) (hstart : m ≤ a)
    (hend : m ≤ a + y * b) : m ≤ a + x * b := by
  rcases le_total 0 b with hb | hb
  · have hnonneg : 0 ≤ x * b := mul_nonneg hx hb
    linarith
  · have hless : y * b ≤ x * b := mul_le_mul_of_nonpos_right hxy hb
    linarith

/-- What a share of one side adds to the result of an outcome. -/
def gainPerShare (side outcome : LadderSide) (cost : ℚ) : ℚ :=
  (if side = outcome then 1 else 0) - cost

theorem projectedWorstCasePnl_eq (side : LadderSide) (quantity cost : ℚ) :
    projectedWorstCasePnl state side quantity cost =
      min (state.upQty - state.totalCostUsdc + quantity * gainPerShare side .up cost)
        (state.downQty - state.totalCostUsdc + quantity * gainPerShare side .down cost) := by
  unfold projectedWorstCasePnl gainPerShare
  cases side with
  | up =>
    simp only [reduceCtorEq, if_true, if_false]
    congr 1 <;> ring
  | down =>
    simp only [reduceCtorEq, if_true, if_false]
    congr 1 <;> ring

theorem projectedWorstCasePnl_antitone_cost (side : LadderSide) {quantity cost allIn : ℚ}
    (hquantity : 0 ≤ quantity) (hcost : cost ≤ allIn) :
    projectedWorstCasePnl state side quantity allIn ≤
      projectedWorstCasePnl state side quantity cost := by
  have hgain : ∀ outcome, quantity * gainPerShare side outcome allIn ≤
      quantity * gainPerShare side outcome cost :=
    fun outcome => mul_le_mul_of_nonneg_left (sub_le_sub_left hcost _) hquantity
  rw [projectedWorstCasePnl_eq, projectedWorstCasePnl_eq]
  exact min_le_min (add_le_add_right (hgain .up) _) (add_le_add_right (hgain .down) _)

theorem le_projectedWorstCasePnl {m : ℚ} (side : LadderSide) {quantity whole cost : ℚ}
    (hquantity : 0 ≤ quantity) (hwhole : quantity ≤ whole)
    (hnone : m ≤ projectedWorstCasePnl state side 0 cost)
    (hall : m ≤ projectedWorstCasePnl state side whole cost) :
    m ≤ projectedWorstCasePnl state side quantity cost := by
  rw [projectedWorstCasePnl_eq] at hnone hall ⊢
  simp only [zero_mul, add_zero] at hnone
  obtain ⟨hnoneUp, hnoneDown⟩ := le_min_iff.mp hnone
  obtain ⟨hallUp, hallDown⟩ := le_min_iff.mp hall
  exact le_min (le_line_between hquantity hwhole hnoneUp hallUp)
    (le_line_between hquantity hwhole hnoneDown hallDown)

theorem projectedWorstCasePnl_zero (fills : List Fill) (side : LadderSide) (cost : ℚ) :
    projectedWorstCasePnl (loadState fills) side 0 cost = (loadState fills).worstCasePnl := by
  simp [projectedWorstCasePnl, loadState, worstPnl, winsPnl]

/-! ### Runs -/

/-- A look at the market, and the fill of the buy it selects. -/
structure Filled where
  look : Look
  quantity : ℚ
  cost : ℚ

/-- A fill of some of the quantity at no more than the quoted cost. -/
def FillOf (decision : ConfidenceLadderDecision) (quantity cost : ℚ) : Prop :=
  (0 ≤ quantity ∧ quantity ≤ decision.quantity) ∧ 0 ≤ cost ∧ cost ≤ decision.allInCost

def FilledWithinQuote (config : ConfidenceLadderConfig) (fills : List Fill) (filled : Filled) :
    Prop :=
  ∀ decision ∈ selectDecision config (loadState fills) filled.look,
    FillOf decision filled.quantity filled.cost

instance (decision : ConfidenceLadderDecision) (quantity cost : ℚ) :
    Decidable (FillOf decision quantity cost) :=
  inferInstanceAs (Decidable (_ ∧ _))

instance (config : ConfidenceLadderConfig) (fills : List Fill) (filled : Filled) :
    Decidable (FilledWithinQuote config fills filled) :=
  inferInstanceAs (Decidable (∀ decision ∈ selectDecision config (loadState fills) filled.look,
    FillOf decision filled.quantity filled.cost))

def ladderStep (config : ConfidenceLadderConfig) (fills : List Fill) (filled : Filled) :
    List Fill :=
  match selectDecision config (loadState fills) filled.look with
  | none => fills
  | some decision => fills ++ [recordFill decision.ladderSide filled.quantity filled.cost]

theorem le_worstCasePnl_fill {m : ℚ} {fills : List Fill} {decision : ConfidenceLadderDecision}
    {quantity cost : ℚ} (hfill : FillOf decision quantity cost)
    (hbefore : m ≤ (loadState fills).worstCasePnl)
    (hprojected : m ≤ projectedWorstCasePnl (loadState fills) decision.ladderSide decision.quantity
      decision.allInCost) :
    m ≤ (loadState (fills ++ [recordFill decision.ladderSide quantity cost])).worstCasePnl := by
  obtain ⟨⟨hquantity, hwhole⟩, hcost, hallIn⟩ := hfill
  rw [worstCasePnl_append fills decision.ladderSide hquantity hcost]
  have hquoted : m ≤ projectedWorstCasePnl (loadState fills) decision.ladderSide quantity
      decision.allInCost := by
    refine le_projectedWorstCasePnl decision.ladderSide hquantity hwhole ?_ hprojected
    rwa [projectedWorstCasePnl_zero]
  exact hquoted.trans (projectedWorstCasePnl_antitone_cost decision.ladderSide hquantity hallIn)

theorem ladderStep_keeps_envelope {fills : List Fill} {filled : Filled}
    (hbefore : -config.maxLossPerMarketUsdc ≤ (loadState fills).worstCasePnl)
    (hfilled : FilledWithinQuote config fills filled) :
    -config.maxLossPerMarketUsdc ≤ (loadState (ladderStep config fills filled)).worstCasePnl := by
  unfold ladderStep
  cases hselect : selectDecision config (loadState fills) filled.look with
  | none => exact hbefore
  | some decision =>
    exact le_worstCasePnl_fill (hfilled decision hselect) hbefore
      (selectDecision_passes hselect).worst

/-- Every selected buy stays within the total cost; a fill of it leaves the worst case no worse
than the allowed loss or what it was, filled in full no worse than the allowed loss; and over
runs of fills the allowed loss is an invariant. -/
theorem risk_envelope_kept (config : ConfidenceLadderConfig) :
    (∀ fills look decision, selectDecision config (loadState fills) look = some decision →
      projectedTotalCost (loadState fills) decision.quantity decision.allInCost ≤
          config.maxTotalCostPerMarketUsdc ∧
        ∀ quantity cost, FillOf decision quantity cost →
          min (-config.maxLossPerMarketUsdc) (loadState fills).worstCasePnl ≤
              (loadState (fills ++ [recordFill decision.ladderSide quantity cost])).worstCasePnl ∧
            (quantity = decision.quantity → -config.maxLossPerMarketUsdc ≤
              (loadState (fills ++ [recordFill decision.ladderSide quantity cost])).worstCasePnl)) ∧
    ∀ fills run, -config.maxLossPerMarketUsdc ≤ (loadState fills).worstCasePnl →
      EachStep (ladderStep config) (FilledWithinQuote config) fills run →
        Throughout (ladderStep config)
          (fun fills => -config.maxLossPerMarketUsdc ≤ (loadState fills).worstCasePnl) fills run := by
  constructor
  · intro fills look decision hselect
    have hpasses := selectDecision_passes hselect
    refine ⟨hpasses.total, fun quantity cost hfill => ⟨?_, ?_⟩⟩
    · exact le_worstCasePnl_fill hfill (min_le_right _ _) ((min_le_left _ _).trans hpasses.worst)
    · rintro rfl
      obtain ⟨⟨hquantity, -⟩, hcost, hallIn⟩ := hfill
      rw [worstCasePnl_append fills decision.ladderSide hquantity hcost]
      exact hpasses.worst.trans
        (projectedWorstCasePnl_antitone_cost decision.ladderSide hquantity hallIn)
  · intro fills run hbefore hrun
    refine EachStep.throughout
      (I := fun fills => -config.maxLossPerMarketUsdc ≤ (loadState fills).worstCasePnl)
      (fun _ h => h) ?_ hbefore hrun
    intro fills filled hkept hfilled
    exact ladderStep_keeps_envelope hkept hfilled

/-! ### A probe, an add and a damage-control hedge -/

def quoteAt (bid ask : ℚ) : ConfidenceLadderQuote where
  bestBid := some bid
  bestAsk := some ask
  bestBidSize := none
  bestAskSize := none
  lastTradePrice := none
  currentPrice := ask

/-- Half a probe, and then an add filled in full. -/
def sampleRun : List Filled :=
  [⟨⟨quoteAt (49 / 100) (1 / 2), quoteAt (1 / 2) (51 / 100), some 200, some 1⟩, 1, 1 / 2⟩,
    ⟨⟨quoteAt (29 / 50) (59 / 100), quoteAt (1 / 5) (21 / 100), some 150, some 1⟩, 3, 3 / 5⟩]

theorem sample_run_keeps_envelope :
    (sampleRun.foldl (ladderStep defaultConfig) []).length = 2 ∧
      Throughout (ladderStep defaultConfig)
        (fun fills => -defaultConfig.maxLossPerMarketUsdc ≤ (loadState fills).worstCasePnl)
        [] sampleRun :=
  ⟨by decide +kernel,
    (risk_envelope_kept defaultConfig).2 [] sampleRun (by decide +kernel) (by decide +kernel)⟩

/-- Twelve shares of one side, bought before the allowed loss was lowered. -/
def deepFills : List Fill := [recordFill .up 12 (69 / 100)]

def deepLook : Look := ⟨quoteAt (12 / 25) (49 / 100), quoteAt (49 / 100) (1 / 2), some 200, none⟩

theorem deepHedge_isSome : (selectDecision defaultConfig (loadState deepFills) deepLook).isSome := by
  decide +kernel

/-- One share of the damage-control hedge leaves the worst case below the allowed loss. -/
theorem partial_hedge_below_envelope :
    ∃ decision ∈ selectDecision defaultConfig (loadState deepFills) deepLook,
      FillOf decision 1 (1 / 2) ∧
        ¬ -defaultConfig.maxLossPerMarketUsdc ≤
          (loadState (deepFills ++ [recordFill decision.ladderSide 1 (1 / 2)])).worstCasePnl := by
  refine ⟨_, (Option.some_get deepHedge_isSome).symm, ?_⟩
  decide +kernel

end PolymarketBot.ConfidenceLadder
