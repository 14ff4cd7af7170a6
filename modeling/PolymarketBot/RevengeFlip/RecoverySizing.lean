import PolymarketBot.RevengeFlip.Engine

/-! The size of an entry after a stop: it wins the losses back, up to the lot limit. -/

namespace PolymarketBot.RevengeFlip
open Builder Lib

structure RevengeFlipEntrySizing where
  notionalUsdc : ℚ
  targetShares : ℚ
  formulaTargetShares : ℚ
  minReentryShares : ℚ
  minReentrySharesApplied : Bool
  maxNotionalUsdc : Option ℚ

/-- A sizing decision with all that it carries. -/
inductive RevengeFlipEntrySizingResult
  | ready (sizing : RevengeFlipEntrySizing)
  | unavailable
  | targetPnlAlreadySatisfied (totalLossUsdc targetPnlUsdc requiredRecoveryUsdc : ℚ)
  | reentryMinSharesExceedsLotLimit (formulaTargetShares minReentryShares
      minReentryNotionalUsdc maxNotionalUsdc : ℚ)

def RevengeFlipEntrySizingResult.decision :
    RevengeFlipEntrySizingResult → RevengeFlipEntrySizingDecision
  | ready sizing => .ready sizing.notionalUsdc
  | unavailable => .unavailable
  | targetPnlAlreadySatisfied .. => .targetPnlAlreadySatisfied
  | reentryMinSharesExceedsLotLimit .. => .reentryMinSharesExceedsLotLimit

def revengeFlipFirstEntry (state : TradeBuilderRevengeFlipState) : Prop :=
  state.flipCount = 0 ∧ state.totalLossUsdc ≤ revengeFlipLossTolerance ∧ state.nextEntrySide.isNone

instance (state : TradeBuilderRevengeFlipState) : Decidable (revengeFlipFirstEntry state) :=
  inferInstanceAs (Decidable (_ ∧ _))

section Amounts
variable (config : RevengeFlipConfig) (state : TradeBuilderRevengeFlipState) (bestAsk : ℚ)

def requiredRecoveryUsdc : ℚ := state.totalLossUsdc + config.profitTargetUsdc

def formulaTargetShares : ℚ :=
  positiveQuantityFlipGridRoundUpShareQty (requiredRecoveryUsdc config state / (1 - bestAsk))

def minReentryShares : ℚ := positiveQuantityFlipGridRoundUpShareQty config.minReentryShares

def targetShares : ℚ := max (formulaTargetShares config state bestAsk) (minReentryShares config)

def targetNotional : ℚ := positiveQuantityFlipGridRoundUpCent
  (targetShares config state bestAsk * bestAsk)

def minReentryNotional : ℚ := positiveQuantityFlipGridRoundUpCent (minReentryShares config * bestAsk)

def maxNotional (availableCollateralUsdc : ℚ) : ℚ := positiveQuantityFlipGridRoundUpCent
  (max (availableCollateralUsdc * config.lotLimitPct) 0)

/-- The least re-entry costs more than the rounded lot limit. -/
def MinSharesExceedLot (availableCollateralUsdc : ℚ) : Prop :=
  0 < minReentryShares config ∧
    maxNotional config availableCollateralUsdc + revengeFlipLossTolerance <
      minReentryNotional config bestAsk

instance (availableCollateralUsdc : ℚ) :
    Decidable (MinSharesExceedLot config bestAsk availableCollateralUsdc) :=
  inferInstanceAs (Decidable (_ ∧ _))

/-- A re-entry buys the target, but no more than the limit. -/
def reentrySizing (availableCollateralUsdc : ℚ) : RevengeFlipEntrySizing where
  notionalUsdc :=
    min (targetNotional config state bestAsk) (maxNotional config availableCollateralUsdc)
  targetShares := targetShares config state bestAsk
  formulaTargetShares := formulaTargetShares config state bestAsk
  minReentryShares := minReentryShares config
  minReentrySharesApplied := formulaTargetShares config state bestAsk < minReentryShares config
  maxNotionalUsdc := some (maxNotional config availableCollateralUsdc)

end Amounts

/-- `revenge_flip_entry_notional`, its decision in full. -/
def revengeFlipEntrySizing (config : RevengeFlipConfig) (state : TradeBuilderRevengeFlipState)
    (quote : RevengeFlipSideQuote) (availableCollateralUsdc : Option ℚ) :
    RevengeFlipEntrySizingResult :=
  match revengeFlipValidBestAsk quote with
  | none => .unavailable
  | some bestAsk =>
    if revengeFlipFirstEntry state then
      .ready
        { notionalUsdc := positiveQuantityFlipGridRoundUpCent config.initialOrderUsdc
          targetShares := 0
          formulaTargetShares := 0
          minReentryShares := 0
          minReentrySharesApplied := false
          maxNotionalUsdc := none }
    else if 1 - bestAsk ≤ 0 then .unavailable
    else if requiredRecoveryUsdc config state ≤ 0 then
      .targetPnlAlreadySatisfied state.totalLossUsdc config.profitTargetUsdc
        (requiredRecoveryUsdc config state)
    else
      match availableCollateralUsdc with
      | none => .unavailable
      | some collateral =>
        if maxNotional config collateral ≤ 0 then .unavailable
        else if MinSharesExceedLot config bestAsk collateral then
          .reentryMinSharesExceedsLotLimit (formulaTargetShares config state bestAsk)
            (minReentryShares config) (minReentryNotional config bestAsk)
            (maxNotional config collateral)
        else if (reentrySizing config state bestAsk collateral).notionalUsdc ≤ 0 then .unavailable
        else .ready (reentrySizing config state bestAsk collateral)

theorem entrySizing_decision (config : RevengeFlipConfig) (state : TradeBuilderRevengeFlipState)
    (quote : RevengeFlipSideQuote) (availableCollateralUsdc : Option ℚ) :
    (revengeFlipEntrySizing config state quote availableCollateralUsdc).decision =
      revengeFlipEntryNotional config state quote availableCollateralUsdc := by
  unfold revengeFlipEntrySizing revengeFlipEntryNotional
  cases revengeFlipValidBestAsk quote with
  | none => rfl
  | some bestAsk =>
    change _ = if revengeFlipFirstEntry state then _ else if 1 - bestAsk ≤ 0 then _
      else if requiredRecoveryUsdc config state ≤ 0 then _ else _
    cases availableCollateralUsdc with
    | none =>
      dsimp only
      split_ifs <;> rfl
    | some collateral =>
      change _ = if _ then _ else if _ then _ else if _ then _ else
        if maxNotional config collateral ≤ 0 then _
        else if MinSharesExceedLot config bestAsk collateral then _
        else if (reentrySizing config state bestAsk collateral).notionalUsdc ≤ 0 then _ else _
      dsimp only
      split_ifs <;> rfl

/-! ### Rounding up -/

section Rounding
variable {value : ℚ}

theorem roundUpCent_of_pos (h : 0 < value) :
    positiveQuantityFlipGridRoundUpCent value = gridCeil 100 value := if_neg h.not_ge

theorem le_roundUpCent : value ≤ positiveQuantityFlipGridRoundUpCent value := by
  rcases le_or_gt value 0 with h | h
  · rwa [positiveQuantityFlipGridRoundUpCent, if_pos h]
  · rw [roundUpCent_of_pos h]
    exact le_gridCeil (by norm_num)

theorem roundUpCent_pos_iff : 0 < positiveQuantityFlipGridRoundUpCent value ↔ 0 < value := by
  refine ⟨fun h => ?_, fun h => h.trans_le le_roundUpCent⟩
  by_contra hvalue
  rw [positiveQuantityFlipGridRoundUpCent, if_pos (not_lt.mp hvalue)] at h
  exact lt_irrefl _ h

theorem roundUpCent_le_iff (h : 0 < value) :
    positiveQuantityFlipGridRoundUpCent value ≤ value ↔ OnGrid 100 value := by
  rw [roundUpCent_of_pos h]
  constructor
  · intro hle
    rw [← le_antisymm hle (le_gridCeil (by norm_num))]
    exact gridCeil_onGrid
  · intro hgrid
    exact (hgrid.gridCeil_le_iff (by norm_num)).mpr le_rfl

theorem le_roundUpShareQty : value ≤ positiveQuantityFlipGridRoundUpShareQty value := by
  rcases le_or_gt value 0 with h | h
  · rwa [positiveQuantityFlipGridRoundUpShareQty, if_pos h]
  · have hceil : value ≤ gridCeil 100 value := le_gridCeil (by norm_num)
    rw [positiveQuantityFlipGridRoundUpShareQty, if_neg h.not_ge]
    exact hceil.trans_eq (round_of_onGrid gridCeil_onGrid (h.le.trans hceil)).symm

end Rounding

/-! ### The law of a re-entry -/

section Law
variable {config : RevengeFlipConfig} {state : TradeBuilderRevengeFlipState}
  {quote : RevengeFlipSideQuote} {bestAsk collateral : ℚ}

/-- A fill below the limit wins the losses and the target back, and no fill passes the limit. -/
structure RecoversWithinLot (config : RevengeFlipConfig) (state : TradeBuilderRevengeFlipState)
    (bestAsk collateral : ℚ) (sizing : RevengeFlipEntrySizing) : Prop where
  recovers : ∀ maxNotionalUsdc ∈ sizing.maxNotionalUsdc, sizing.notionalUsdc < maxNotionalUsdc →
    state.totalLossUsdc + config.profitTargetUsdc ≤
      sizing.notionalUsdc / bestAsk - sizing.notionalUsdc
  withinLot : sizing.notionalUsdc ≤ collateral * config.lotLimitPct

/-- The entry gets a size. -/
def EntrySized (config : RevengeFlipConfig) (state : TradeBuilderRevengeFlipState)
    (bestAsk collateral : ℚ) : Prop :=
  0 < requiredRecoveryUsdc config state ∧ 0 < collateral * config.lotLimitPct ∧
    ¬MinSharesExceedLot config bestAsk collateral

/-- The lot limit is in whole cents, or the target does not reach it. -/
def LotLimitKept (config : RevengeFlipConfig) (state : TradeBuilderRevengeFlipState)
    (bestAsk collateral : ℚ) : Prop :=
  OnGrid 100 (collateral * config.lotLimitPct) ∨
    targetNotional config state bestAsk ≤ collateral * config.lotLimitPct

theorem validBestAsk_range (h : revengeFlipValidBestAsk quote = some bestAsk) :
    0 < bestAsk ∧ bestAsk < 1 := by
  simpa using (Option.filter_eq_some_iff.mp h).2

theorem maxNotional_pos_iff :
    0 < maxNotional config collateral ↔ 0 < collateral * config.lotLimitPct := by
  unfold maxNotional
  rw [roundUpCent_pos_iff, lt_max_iff, or_iff_left (lt_irrefl _)]

theorem maxNotional_eq (h : 0 < collateral * config.lotLimitPct) :
    maxNotional config collateral =
      positiveQuantityFlipGridRoundUpCent (collateral * config.lotLimitPct) := by
  rw [maxNotional, max_eq_left h.le]

theorem required_le_target (hask : 0 < bestAsk) (hbelow : bestAsk < 1) :
    requiredRecoveryUsdc config state ≤
      targetNotional config state bestAsk / bestAsk - targetNotional config state bestAsk := by
  have hshares : requiredRecoveryUsdc config state / (1 - bestAsk) ≤
      targetShares config state bestAsk := le_roundUpShareQty.trans (le_max_left _ _)
  have hnotional : targetShares config state bestAsk * bestAsk ≤
      targetNotional config state bestAsk := le_roundUpCent
  have hmargin : 0 < 1 - bestAsk := sub_pos.mpr hbelow
  have hrequired := (div_le_iff₀ hmargin).mp hshares
  have hbought : targetShares config state bestAsk ≤
      targetNotional config state bestAsk / bestAsk := (le_div_iff₀ hask).mpr hnotional
  calc requiredRecoveryUsdc config state
      ≤ targetShares config state bestAsk * (1 - bestAsk) := hrequired
    _ ≤ targetNotional config state bestAsk / bestAsk * (1 - bestAsk) :=
        mul_le_mul_of_nonneg_right hbought hmargin.le
    _ = targetNotional config state bestAsk / bestAsk - targetNotional config state bestAsk := by
        field_simp

theorem targetNotional_pos (hask : 0 < bestAsk) (hbelow : bestAsk < 1)
    (hrequired : 0 < requiredRecoveryUsdc config state) :
    0 < targetNotional config state bestAsk := by
  have hshares : 0 < requiredRecoveryUsdc config state / (1 - bestAsk) :=
    div_pos hrequired (sub_pos.mpr hbelow)
  refine roundUpCent_pos_iff.mpr (mul_pos ?_ hask)
  exact hshares.trans_le (le_roundUpShareQty.trans (le_max_left _ _))

theorem entrySizing_ready_iff (hask : revengeFlipValidBestAsk quote = some bestAsk)
    (hreentry : ¬revengeFlipFirstEntry state) {sizing : RevengeFlipEntrySizing} :
    revengeFlipEntrySizing config state quote (some collateral) = .ready sizing ↔
      EntrySized config state bestAsk collateral ∧
        reentrySizing config state bestAsk collateral = sizing := by
  obtain ⟨hpos, hbelow⟩ := validBestAsk_range hask
  unfold revengeFlipEntrySizing EntrySized
  rw [hask]
  dsimp only
  rw [if_neg hreentry, if_neg (sub_pos.mpr hbelow).not_ge, ← maxNotional_pos_iff]
  split_ifs with hrequired hmax hmin hnotional
  · simp [hrequired.not_gt]
  · simp [hmax.not_gt]
  · simp [hmin]
  · -- both the target and the limit are positive, so there is always something to buy
    have htarget := targetNotional_pos hpos hbelow (not_le.mp hrequired)
    exact absurd (lt_min htarget (not_le.mp hmax)) hnotional.not_gt
  · simp [not_le.mp hrequired, not_le.mp hmax, hmin]

theorem reentrySizing_within_iff (hpos : 0 < bestAsk) (hbelow : bestAsk < 1)
    (hsized : EntrySized config state bestAsk collateral) :
    RecoversWithinLot config state bestAsk collateral
        (reentrySizing config state bestAsk collateral) ↔
      LotLimitKept config state bestAsk collateral := by
  obtain ⟨-, hlimit, -⟩ := hsized
  have hcapped : (reentrySizing config state bestAsk collateral).notionalUsdc ≤
      collateral * config.lotLimitPct ↔ LotLimitKept config state bestAsk collateral := by
    change min _ _ ≤ _ ↔ _
    rw [min_le_iff, maxNotional_eq hlimit, roundUpCent_le_iff hlimit]
    exact or_comm
  refine ⟨fun h => hcapped.mp h.withinLot, fun h => ⟨?_, hcapped.mpr h⟩⟩
  intro maxNotionalUsdc hmax hless
  obtain rfl := Option.some.inj hmax
  have htarget : (reentrySizing config state bestAsk collateral).notionalUsdc =
      targetNotional config state bestAsk := by
    rcases min_choice (targetNotional config state bestAsk) (maxNotional config collateral) with h | h
    · exact h
    · exact absurd h hless.ne
  rw [htarget]
  exact required_le_target hpos hbelow

/-- After a stop every entry that is sized below the limit recovers what is required, and keeps
within the limit exactly where the limit is in whole cents or the target does not reach it. -/
theorem recovery_sizing_iff (config : RevengeFlipConfig) (collateral : ℚ)
    (hask : revengeFlipValidBestAsk quote = some bestAsk)
    (hreentry : ¬revengeFlipFirstEntry state) :
    (∀ sizing, revengeFlipEntrySizing config state quote (some collateral) = .ready sizing →
        RecoversWithinLot config state bestAsk collateral sizing) ↔
      (EntrySized config state bestAsk collateral →
        LotLimitKept config state bestAsk collateral) := by
  obtain ⟨hpos, hbelow⟩ := validBestAsk_range hask
  constructor
  · intro law hsized
    exact (reentrySizing_within_iff hpos hbelow hsized).mp
      (law _ ((entrySizing_ready_iff hask hreentry).mpr ⟨hsized, rfl⟩))
  · intro kept sizing hready
    obtain ⟨hsized, rfl⟩ := (entrySizing_ready_iff hask hreentry).mp hready
    exact (reentrySizing_within_iff hpos hbelow hsized).mpr (kept hsized)

end Law

/-! ### A limit in whole cents, and one that is not -/

/-- Ten dollars were lost on the other side. -/
def stoppedState : TradeBuilderRevengeFlipState :=
  { totalLossUsdc := 10, flipCount := 1, nextEntrySide := some .down }

def wholeConfig : RevengeFlipConfig := { lotLimitPct := 1 }

def halfQuote : RevengeFlipSideQuote := ⟨.down, some (49 / 100), some (1 / 2)⟩

theorem wholeLimit_kept :
    ∃ sizing, revengeFlipEntrySizing wholeConfig stoppedState halfQuote (some 10) =
      .ready sizing ∧ RecoversWithinLot wholeConfig stoppedState (1 / 2) 10 sizing := by
  have hsized : EntrySized wholeConfig stoppedState (1 / 2) 10 :=
    ⟨by decide +kernel, by decide +kernel, by decide +kernel⟩
  have hready : revengeFlipEntrySizing wholeConfig stoppedState halfQuote (some 10) =
      .ready (reentrySizing wholeConfig stoppedState (1 / 2) 10) :=
    (entrySizing_ready_iff (by decide +kernel) (by decide +kernel)).mpr ⟨hsized, rfl⟩
  refine ⟨_, hready, ?_⟩
  exact (recovery_sizing_iff wholeConfig 10 (by decide +kernel) (by decide +kernel)).mpr
    (fun _ => Or.inl ⟨1000, by norm_num [wholeConfig]⟩) _ hready

theorem halfCent_exceeds_lot :
    ∃ sizing, revengeFlipEntrySizing wholeConfig stoppedState halfQuote (some (2001 / 200)) =
      .ready sizing ∧ ¬RecoversWithinLot wholeConfig stoppedState (1 / 2) (2001 / 200) sizing := by
  have hsized : EntrySized wholeConfig stoppedState (1 / 2) (2001 / 200) :=
    ⟨by decide +kernel, by decide +kernel, by decide +kernel⟩
  refine ⟨reentrySizing wholeConfig stoppedState (1 / 2) (2001 / 200), ?_, fun h => ?_⟩
  · exact (entrySizing_ready_iff (by decide +kernel) (by decide +kernel)).mpr ⟨hsized, rfl⟩
  · exact absurd h.withinLot (by decide +kernel)

end PolymarketBot.RevengeFlip
