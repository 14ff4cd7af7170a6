import PolymarketBot.ConfidenceLadder.LossCap

/-! What a hedge's quantity keeps within, and where the rounding of its bounds lets it pass. -/

namespace PolymarketBot.ConfidenceLadder
open Lib
open Builder (roundTradeBuilderShareQty)

theorem ceilShareQty_eq (value : ℚ) : ceilShareQty value = gridCeil 100 (max value 0) := rfl

variable (config : ConfidenceLadderConfig) (state : ConfidenceLadderState)
  (heldSide oppositeSide : LadderSide) (allInCost targetPnl quantity : ℚ)

/-- No more than is unmatched, and no more than the rest of the budget pays for. -/
def WithinCaps : Prop :=
  quantity ≤ unmatchedQty state heldSide oppositeSide ∧
    quantity * allInCost ≤ config.maxTotalCostPerMarketUsdc - state.totalCostUsdc

/-- The whole multiples of 0.01 whose purchase brings the worst case to the target. -/
def ReachingQty : Set ℚ :=
  {quantity | OnGrid 100 quantity ∧
    targetPnl ≤ projectedWorstCasePnl state oppositeSide quantity allInCost}

structure HedgeSizingLaw : Prop where
  lossCap : ∀ plan, lossCapQuantity config state heldSide oppositeSide allInCost targetPnl =
    some plan → WithinCaps config state heldSide oppositeSide allInCost plan.quantity
  lossCap_least : ∀ plan, lossCapQuantity config state heldSide oppositeSide allInCost targetPnl =
    some plan → IsLeast (ReachingQty state oppositeSide allInCost targetPnl) plan.quantity
  profitLock : ∀ plan, profitLockQuantity config state heldSide oppositeSide allInCost =
    some plan → WithinCaps config state heldSide oppositeSide allInCost plan.quantity

/-! ### The conditions on the position and the price -/

/-- The least multiple of 0.01 at which the opposite outcome nets the target. -/
def sufficientQty : ℚ :=
  ceilShareQty (max ((targetPnl + state.totalCostUsdc - stateQty state oppositeSide) /
    (1 - allInCost)) 0)

/-- No bound is passed by more than the half of 0.01 shares that its rounding adds. -/
def WithinHalfStep : Prop :=
  quantity ≤ unmatchedQty state heldSide oppositeSide + 1 / 200 ∧
    quantity ≤ (config.maxTotalCostPerMarketUsdc - state.totalCostUsdc) / allInCost + 1 / 200 ∧
    quantity ≤ (stateQty state heldSide - state.totalCostUsdc + config.maxLossPerMarketUsdc) /
      allInCost + 1 / 200

/-- The sufficient quantity is one that a hedge to this target may buy. -/
def Sizable : Prop :=
  (0 < allInCost ∧ allInCost < 1) ∧
    0 < sufficientQty state oppositeSide allInCost targetPnl ∧
    WithinHalfStep config state heldSide oppositeSide allInCost
      (sufficientQty state oppositeSide allInCost targetPnl) ∧
    targetPnl ≤ projectedWorstCasePnl state oppositeSide
      (sufficientQty state oppositeSide allInCost targetPnl) allInCost + 1 / 1000000

/-- The sufficient quantity is not in the half step by which a rounded bound passes the bound. -/
def OutsideRoundingGap : Prop :=
  Sizable config state heldSide oppositeSide allInCost targetPnl →
    WithinCaps config state heldSide oppositeSide allInCost
      (sufficientQty state oppositeSide allInCost targetPnl)

/-- What the least hedge ratio asks for beyond the opposite side. -/
def hedgeFloorQty : ℚ :=
  ceilShareQty (max (stateQty state heldSide * max 0 (min 1 config.targetHedgeRatioMin) -
    stateQty state oppositeSide) 0)

structure SizesWithinCaps : Prop where
  target : OutsideRoundingGap config state heldSide oppositeSide allInCost targetPnl
  breakeven : OutsideRoundingGap config state heldSide oppositeSide allInCost 0
  maxLoss : ¬Sizable config state heldSide oppositeSide allInCost 0 →
    OutsideRoundingGap config state heldSide oppositeSide allInCost (-config.maxLossPerMarketUsdc)
  floor : ¬Sizable config state heldSide oppositeSide allInCost 0 →
    Sizable config state heldSide oppositeSide allInCost (-config.maxLossPerMarketUsdc) →
      WithinCaps config state heldSide oppositeSide allInCost
        (hedgeFloorQty config state heldSide oppositeSide)

/-! ### The rounded bounds -/

section Bounds
variable {config : ConfidenceLadderConfig} {state : ConfidenceLadderState}
  {heldSide oppositeSide : LadderSide} {allInCost targetPnl quantity : ℚ}

theorem le_round_iff {bound : ℚ} (hgrid : OnGrid 100 quantity) (hpos : 0 < quantity) :
    quantity ≤ roundTradeBuilderShareQty (max bound 0) ↔ quantity ≤ bound + 1 / 200 := by
  have hstep : 1 / 100 ≤ quantity := hgrid.step_le (by norm_num) hpos
  have hround : roundTradeBuilderShareQty (max bound 0) = gridFloor 100 (1 / 2) (max bound 0) := by
    rw [Builder.roundTradeBuilderShareQty_max]
    rfl
  rw [hround, hgrid.le_gridFloor_iff (by norm_num)]
  rcases le_total bound 0 with hbound | hbound
  · rw [max_eq_right hbound]
    constructor <;> intro h <;> linarith
  · rw [max_eq_left hbound]
    norm_num

theorem le_maxOppositeQty_iff (hcost : 0 < allInCost) (hgrid : OnGrid 100 quantity)
    (hpos : 0 < quantity) :
    quantity ≤ maxOppositeQty config state heldSide oppositeSide allInCost ↔
      WithinHalfStep config state heldSide oppositeSide allInCost quantity := by
  unfold maxOppositeQty WithinHalfStep
  simp only [hcost, if_true]
  rw [le_round_iff hgrid hpos, ← sub_le_iff_le_add, le_min_iff, le_min_iff, sub_le_iff_le_add,
    sub_le_iff_le_add, sub_le_iff_le_add, and_assoc]

/-! ### The sufficient quantity -/

theorem sufficientQty_onGrid : OnGrid 100 (sufficientQty state oppositeSide allInCost targetPnl) :=
  gridCeil_onGrid

theorem sufficientQty_le_iff (hcost : allInCost < 1) (hgrid : OnGrid 100 quantity)
    (hpos : 0 ≤ quantity) :
    sufficientQty state oppositeSide allInCost targetPnl ≤ quantity ↔
      targetPnl ≤ stateQty state oppositeSide + quantity -
        (state.totalCostUsdc + quantity * allInCost) := by
  unfold sufficientQty
  rw [ceilShareQty_eq, hgrid.gridCeil_le_iff (by norm_num), max_eq_left (le_max_right _ _),
    max_le_iff, and_iff_left hpos, div_le_iff₀ (sub_pos.mpr hcost)]
  constructor <;> intro h <;> linarith

theorem worst_le_opposite :
    projectedWorstCasePnl state oppositeSide quantity allInCost ≤
      stateQty state oppositeSide + quantity - (state.totalCostUsdc + quantity * allInCost) := by
  unfold projectedWorstCasePnl stateQty
  cases oppositeSide with
  | up => simp
  | down => simp

theorem worst_of_unmatched (hpos : 0 < quantity)
    (hle : quantity ≤ unmatchedQty state heldSide oppositeSide) :
    projectedWorstCasePnl state oppositeSide quantity allInCost =
      stateQty state oppositeSide + quantity - (state.totalCostUsdc + quantity * allInCost) := by
  have hheld : quantity ≤ stateQty state heldSide - stateQty state oppositeSide := by
    rcases le_max_iff.mp hle with h | h
    · exact h
    · linarith
  unfold projectedWorstCasePnl
  cases heldSide <;> cases oppositeSide <;> simp [stateQty] at hheld ⊢ <;> linarith

theorem sufficientQty_isLeast (hcost : allInCost < 1)
    (hpos : 0 < sufficientQty state oppositeSide allInCost targetPnl)
    (hle : sufficientQty state oppositeSide allInCost targetPnl ≤
      unmatchedQty state heldSide oppositeSide) :
    IsLeast (ReachingQty state oppositeSide allInCost targetPnl)
      (sufficientQty state oppositeSide allInCost targetPnl) := by
  constructor
  · refine ⟨sufficientQty_onGrid, ?_⟩
    rw [worst_of_unmatched hpos hle]
    exact (sufficientQty_le_iff hcost sufficientQty_onGrid hpos.le).mp le_rfl
  · intro less ⟨hgrid, hreaches⟩
    have hopposite := hreaches.trans worst_le_opposite
    by_cases hless : 0 ≤ less
    · exact (sufficientQty_le_iff hcost hgrid hless).mpr hopposite
    · have hzero : sufficientQty state oppositeSide allInCost targetPnl ≤ 0 := by
        refine (sufficientQty_le_iff hcost OnGrid.zero le_rfl).mpr ?_
        nlinarith
      exact absurd hpos hzero.not_gt

end Bounds

/-! ### What is returned -/

section Returned
variable {config : ConfidenceLadderConfig} {state : ConfidenceLadderState}
  {heldSide oppositeSide : LadderSide} {allInCost targetPnl quantity : ℚ}

theorem quantityForWorstCaseTarget_eq_some :
    quantityForWorstCaseTarget config state heldSide oppositeSide allInCost targetPnl =
        some quantity ↔
      Sizable config state heldSide oppositeSide allInCost targetPnl ∧
        sufficientQty state oppositeSide allInCost targetPnl = quantity := by
  by_cases hcost : 0 < allInCost ∧ allInCost < 1
  · have hpriced : ¬(allInCost ≤ 0 ∨ allInCost ≥ 1) := by
      rintro (h | h)
      · exact absurd hcost.1 h.not_gt
      · exact absurd hcost.2 h.not_gt
    have hmax : ¬sufficientQty state oppositeSide allInCost targetPnl ≤ 0 →
        (sufficientQty state oppositeSide allInCost targetPnl ≤
            maxOppositeQty config state heldSide oppositeSide allInCost ↔
          WithinHalfStep config state heldSide oppositeSide allInCost
            (sufficientQty state oppositeSide allInCost targetPnl)) :=
      fun h => le_maxOppositeQty_iff hcost.1 sufficientQty_onGrid (not_le.mp h)
    unfold quantityForWorstCaseTarget Sizable
    rw [if_neg hpriced]
    change (if sufficientQty state oppositeSide allInCost targetPnl ≤ 0 ∨
      sufficientQty state oppositeSide allInCost targetPnl > _ then none
      else if _ ≥ targetPnl then some _ else none) = some quantity ↔ _
    split_ifs with hnone hreach
    · simp only [false_iff]
      rintro ⟨⟨-, hpos, hhalf, -⟩, -⟩
      rcases hnone with h | h
      · exact absurd hpos h.not_gt
      · exact absurd ((hmax hpos.not_ge).mpr hhalf) h.not_ge
    · obtain ⟨hpos, hle⟩ := not_or.mp hnone
      have hsizable := (hmax hpos).mp (not_lt.mp hle)
      simp only [Option.some.injEq]
      exact ⟨fun h => ⟨⟨hcost, not_le.mp hpos, hsizable, hreach⟩, h⟩, fun h => h.2⟩
    · simp only [false_iff]
      rintro ⟨⟨-, -, -, h⟩, -⟩
      exact hreach h
  · have hunpriced : allInCost ≤ 0 ∨ allInCost ≥ 1 := by
      by_contra h
      exact hcost ⟨not_le.mp fun hle => h (Or.inl hle), not_le.mp fun hle => h (Or.inr hle)⟩
    unfold quantityForWorstCaseTarget
    rw [if_pos hunpriced]
    simp only [reduceCtorEq, false_iff]
    exact fun h => hcost h.1.1

theorem lossCapQuantity_eq_some {plan : LossCapPlan} :
    lossCapQuantity config state heldSide oppositeSide allInCost targetPnl = some plan ↔
      Sizable config state heldSide oppositeSide allInCost targetPnl ∧
        plan = ⟨sufficientQty state oppositeSide allInCost targetPnl, "max_loss_cap"⟩ := by
  unfold lossCapQuantity
  constructor
  · intro h
    obtain ⟨quantity, hquantity, rfl⟩ := Option.map_eq_some_iff.mp h
    obtain ⟨hsizable, rfl⟩ := quantityForWorstCaseTarget_eq_some.mp hquantity
    exact ⟨hsizable, rfl⟩
  · rintro ⟨hsizable, rfl⟩
    rw [quantityForWorstCaseTarget_eq_some.mpr ⟨hsizable, rfl⟩]
    rfl

theorem profitLockQuantity_of_sizable
    (h : Sizable config state heldSide oppositeSide allInCost 0) :
    profitLockQuantity config state heldSide oppositeSide allInCost =
      some ⟨sufficientQty state oppositeSide allInCost 0, "breakeven_lock"⟩ := by
  unfold profitLockQuantity
  rw [quantityForWorstCaseTarget_eq_some.mpr ⟨h, rfl⟩]

theorem profitLockQuantity_of_not_sizable
    (h : ¬Sizable config state heldSide oppositeSide allInCost 0) :
    profitLockQuantity config state heldSide oppositeSide allInCost =
      (lossCapQuantity config state heldSide oppositeSide allInCost
        (-config.maxLossPerMarketUsdc)).map fun lossCap =>
          ⟨max lossCap.quantity (hedgeFloorQty config state heldSide oppositeSide),
            lossCap.reason⟩ := by
  have hnone : quantityForWorstCaseTarget config state heldSide oppositeSide allInCost 0 = none := by
    refine Option.eq_none_iff_forall_ne_some.mpr fun quantity hquantity => ?_
    exact h (quantityForWorstCaseTarget_eq_some.mp hquantity).1
  unfold profitLockQuantity
  rw [hnone]
  rfl

theorem withinCaps_max {first second : ℚ} (hcost : 0 < allInCost) :
    WithinCaps config state heldSide oppositeSide allInCost (max first second) ↔
      WithinCaps config state heldSide oppositeSide allInCost first ∧
        WithinCaps config state heldSide oppositeSide allInCost second := by
  unfold WithinCaps
  rw [max_mul_of_nonneg _ _ hcost.le, max_le_iff, max_le_iff]
  exact and_and_and_comm

theorem lossCap_within_iff :
    (∀ plan, lossCapQuantity config state heldSide oppositeSide allInCost targetPnl = some plan →
        WithinCaps config state heldSide oppositeSide allInCost plan.quantity) ↔
      OutsideRoundingGap config state heldSide oppositeSide allInCost targetPnl := by
  constructor
  · intro h hsizable
    exact h _ (lossCapQuantity_eq_some.mpr ⟨hsizable, rfl⟩)
  · rintro h plan hplan
    obtain ⟨hsizable, rfl⟩ := lossCapQuantity_eq_some.mp hplan
    exact h hsizable

end Returned

/-- The hedge's quantities keep within the unmatched quantity and the budget, and the loss cap's
is the least that reaches the target, exactly where no sufficient quantity lies in the half step
that a rounded bound adds and the least hedge ratio asks for no more than the bounds. -/
theorem hedge_sizing_iff (config : ConfidenceLadderConfig) (state : ConfidenceLadderState)
    (heldSide oppositeSide : LadderSide) (allInCost targetPnl : ℚ) :
    HedgeSizingLaw config state heldSide oppositeSide allInCost targetPnl ↔
      SizesWithinCaps config state heldSide oppositeSide allInCost targetPnl := by
  constructor
  · intro law
    refine ⟨lossCap_within_iff.mp law.lossCap, ?_, ?_, ?_⟩
    · intro hsizable
      exact law.profitLock _ (profitLockQuantity_of_sizable hsizable)
    all_goals
      intro hbreakeven hsizable
      have hlossCap := lossCapQuantity_eq_some.mpr ⟨hsizable, rfl⟩
      have hplan := profitLockQuantity_of_not_sizable hbreakeven
      rw [hlossCap] at hplan
      have hwithin := (withinCaps_max hsizable.1.1).mp (law.profitLock _ hplan)
    · exact hwithin.1
    · exact hwithin.2
  · intro ok
    refine ⟨lossCap_within_iff.mpr ok.target, ?_, ?_⟩
    · intro plan hplan
      obtain ⟨hsizable, rfl⟩ := lossCapQuantity_eq_some.mp hplan
      exact sufficientQty_isLeast hsizable.1.2 hsizable.2.1 (ok.target hsizable).1
    · intro plan hplan
      by_cases hbreakeven : Sizable config state heldSide oppositeSide allInCost 0
      · rw [profitLockQuantity_of_sizable hbreakeven] at hplan
        obtain rfl := Option.some.inj hplan
        exact ok.breakeven hbreakeven
      · rw [profitLockQuantity_of_not_sizable hbreakeven] at hplan
        obtain ⟨lossCap, hlossCap, rfl⟩ := Option.map_eq_some_iff.mp hplan
        obtain ⟨hsizable, rfl⟩ := lossCapQuantity_eq_some.mp hlossCap
        exact (withinCaps_max hsizable.1.1).mpr
          ⟨ok.maxLoss hbreakeven hsizable, ok.floor hbreakeven hsizable⟩

/-! ### A least hedge beyond the budget, and a loss cap beyond the held side -/

instance (config : ConfidenceLadderConfig) (state : ConfidenceLadderState)
    (heldSide oppositeSide : LadderSide) (allInCost quantity : ℚ) :
    Decidable (WithinCaps config state heldSide oppositeSide allInCost quantity) :=
  inferInstanceAs (Decidable (_ ∧ _))

def freshConfig : ConfidenceLadderConfig := defaultConfig

/-- Less than one dollar of the budget is left. -/
def spentFills : List Fill := [recordFill .up 64 (9 / 25), recordFill .down (409 / 20) (1 / 20)]

def unevenFills : List Fill := [recordFill .up (5003 / 500) (39979 / 50000)]

theorem spentLock_isSome :
    (profitLockQuantity freshConfig (loadState spentFills) .up .down (3 / 5)).isSome := by
  decide +kernel

theorem unevenLossCap_isSome :
    (lossCapQuantity freshConfig (loadState unevenFills) .up .down (1 / 2) (-3)).isSome := by
  decide +kernel

theorem hedge_beyond_caps :
    ¬HedgeSizingLaw freshConfig (loadState spentFills) .up .down (3 / 5) (-3) ∧
      ¬HedgeSizingLaw freshConfig (loadState unevenFills) .up .down (1 / 2) (-3) := by
  constructor
  · intro law
    refine absurd (law.profitLock _ (Option.some_get spentLock_isSome).symm) ?_
    decide +kernel
  · intro law
    refine absurd (law.lossCap _ (Option.some_get unevenLossCap_isSome).symm) ?_
    decide +kernel

end PolymarketBot.ConfidenceLadder
