import Mathlib.Algebra.Order.Floor.Ring
import Mathlib.Tactic.FieldSimp
import PolymarketBot.PairLock.CounterRuntime

/-! The shares an auto-sized counter is rebased to: whether they stay within the lead's quantity
and the total budget of the pair, and that the rebase comes to rest. -/

namespace PolymarketBot.PairLock
open Lib Builder

namespace TradeBuilderPairSession
variable (s : TradeBuilderPairSession)

/-- Rebased to `counterQty` shares, the counter is within the lead and the budget. -/
def CounterWithin (totalBudgetUsdc counterQty : ℚ) : Prop :=
  ∀ leadNetQty counterCap spend, s.primary.map LegFill.netQty = some leadNetQty →
    s.effectiveCounterCap = some counterCap → s.actualPrimarySpend = some spend →
      counterQty ≤ leadNetQty ∧ spend + counterQty * counterCap ≤ totalBudgetUsdc

/-- The budget pays for a part of the lead only, and what it pays for is rounded up. -/
def RoundsAboveBudget (totalBudgetUsdc : ℚ) : Prop :=
  ∃ remainingBudgetUsdc leadNetQty counterCap,
    s.remainingBudgetUsdc totalBudgetUsdc = some remainingBudgetUsdc ∧
      s.primary.map LegFill.netQty = some leadNetQty ∧ s.effectiveCounterCap = some counterCap ∧
        remainingBudgetUsdc < leadNetQty * counterCap ∧
          1 / 2 ≤ Int.fract (remainingBudgetUsdc / counterCap * 100)

end TradeBuilderPairSession

def LegPass.rebased (p : LegPass) (rebalance : AutoCounterRebalance)
    (eligibleBeforeAt : Option ℤ) : LegPass :=
  { p with
    order := (OrderUpdate.updateSizingAndState rebalance.sizeBasis rebalance.sizeUsdc
      rebalance.targetQty rebalance.remainingSize rebalance.remainingQty .pending none
      p.order.eligibleAfterAt eligibleBeforeAt).apply p.order }

/-- An auto-sized counter stays within the budget of its pair, and its next pass leaves it be. -/
structure CounterBudgetLaw (s : TradeBuilderPairSession) (totalBudgetUsdc : ℚ) : Prop where
  within : ∀ remainingBudgetUsdc counterQty,
    s.remainingBudgetUsdc totalBudgetUsdc = some remainingBudgetUsdc →
      (resolveAutoCounterRebalance s remainingBudgetUsdc).targetQty = some counterQty →
        s.CounterWithin totalBudgetUsdc counterQty
  rests : ∀ (p : LegPass) (config : PairLockConfig) rebalance eligibleBeforeAt, p.session = s →
    p.prepareAutoCounter config = some (.rebases rebalance eligibleBeforeAt) →
      (p.rebased rebalance eligibleBeforeAt).prepareAutoCounter config = none

/-! ### The budget -/

section Budget
variable {s : TradeBuilderPairSession} {totalBudgetUsdc remainingBudgetUsdc : ℚ}

theorem remainingBudget_eq (h : s.remainingBudgetUsdc totalBudgetUsdc = some remainingBudgetUsdc) :
    0 < remainingBudgetUsdc ∧ ∃ spend, s.actualPrimarySpend = some spend ∧
      spend + remainingBudgetUsdc = totalBudgetUsdc := by
  obtain ⟨hmap, hpos⟩ := Option.filter_eq_some_iff.mp h
  obtain ⟨spend, hspend, rfl⟩ := Option.map_eq_some_iff.mp hmap
  exact ⟨of_decide_eq_true hpos, spend, hspend, add_sub_cancel _ _⟩

theorem effectiveCounterCap_pos {counterCap : ℚ} (h : s.effectiveCounterCap = some counterCap) :
    0 < counterCap := by
  obtain ⟨leadPrice, -, h⟩ := Option.bind_eq_some_iff.mp h
  dsimp only at h
  split_ifs at h
  obtain rfl := Option.some.inj h
  exact lt_of_lt_of_le (by norm_num) (le_max_left (1 / 100) _)

theorem targetQty_eq_some_iff {counterQty : ℚ} :
    (resolveAutoCounterRebalance s remainingBudgetUsdc).targetQty = some counterQty ↔
      ∃ leadNetQty counterCap, s.primary.map LegFill.netQty = some leadNetQty ∧ 0 < leadNetQty ∧
        s.effectiveCounterCap = some counterCap ∧
          counterQty = if leadNetQty * counterCap ≤ remainingBudgetUsdc then leadNetQty
            else roundTradeBuilderShareQty (remainingBudgetUsdc / counterCap) := by
  unfold resolveAutoCounterRebalance
  dsimp only
  constructor
  · intro h
    split at h
    · rename_i leadNetQty counterCap hlead hcap
      obtain ⟨hlead, hpos⟩ := Option.filter_eq_some_iff.mp hlead
      obtain ⟨hcap, -⟩ := Option.filter_eq_some_iff.mp hcap
      refine ⟨leadNetQty, counterCap, hlead, of_decide_eq_true hpos, hcap, ?_⟩
      split_ifs at h ⊢
      · exact (Option.some.inj h).symm
      · exact (Option.some.inj h).symm
    · cases h
  · rintro ⟨leadNetQty, counterCap, hlead, hpos, hcap, rfl⟩
    rw [hlead, hcap]
    simp only [Option.filter_some, hpos, effectiveCounterCap_pos hcap, decide_true, if_true]
    split_ifs
    · rfl
    · rfl

theorem partialHedge_within_iff {counterCap : ℚ} (hcap : 0 < counterCap)
    (hremaining : 0 < remainingBudgetUsdc) :
    roundTradeBuilderShareQty (remainingBudgetUsdc / counterCap) * counterCap ≤
        remainingBudgetUsdc ↔
      Int.fract (remainingBudgetUsdc / counterCap * 100) < 1 / 2 := by
  rw [← le_div_iff₀ hcap, roundTradeBuilderShareQty_le_iff (div_pos hremaining hcap).le]

theorem roundsAboveBudget_iff {leadNetQty counterCap : ℚ}
    (h : s.remainingBudgetUsdc totalBudgetUsdc = some remainingBudgetUsdc)
    (hlead : s.primary.map LegFill.netQty = some leadNetQty)
    (hcap : s.effectiveCounterCap = some counterCap) :
    s.RoundsAboveBudget totalBudgetUsdc ↔
      remainingBudgetUsdc < leadNetQty * counterCap ∧
        1 / 2 ≤ Int.fract (remainingBudgetUsdc / counterCap * 100) := by
  constructor
  · rintro ⟨remaining', lead', cap', hremaining', hlead', hcap', hless, hround⟩
    rw [Option.some.inj (h.symm.trans hremaining'), Option.some.inj (hlead.symm.trans hlead'),
      Option.some.inj (hcap.symm.trans hcap')]
    exact ⟨hless, hround⟩
  · exact fun hround => ⟨remainingBudgetUsdc, leadNetQty, counterCap, h, hlead, hcap, hround⟩

theorem counterWithin_remaining {leadNetQty counterCap spend : ℚ}
    (hlead : s.primary.map LegFill.netQty = some leadNetQty)
    (hcap : s.effectiveCounterCap = some counterCap) (hspend : s.actualPrimarySpend = some spend)
    (hsum : spend + remainingBudgetUsdc = totalBudgetUsdc) (qty : ℚ) :
    s.CounterWithin totalBudgetUsdc qty ↔
      qty ≤ leadNetQty ∧ qty * counterCap ≤ remainingBudgetUsdc := by
  rw [← hsum]
  constructor
  · intro hwithin
    obtain ⟨hle, hcost⟩ := hwithin leadNetQty counterCap spend hlead hcap hspend
    exact ⟨hle, by linarith⟩
  · rintro ⟨hle, hcost⟩ lead' cap' spend' hlead' hcap' hspend'
    rw [← Option.some.inj (hlead.symm.trans hlead'), ← Option.some.inj (hcap.symm.trans hcap'),
      ← Option.some.inj (hspend.symm.trans hspend')]
    exact ⟨hle, by linarith⟩

theorem counterWithin_iff (h : s.remainingBudgetUsdc totalBudgetUsdc = some remainingBudgetUsdc)
    {counterQty : ℚ}
    (htarget : (resolveAutoCounterRebalance s remainingBudgetUsdc).targetQty = some counterQty) :
    s.CounterWithin totalBudgetUsdc counterQty ↔ ¬ s.RoundsAboveBudget totalBudgetUsdc := by
  obtain ⟨hremaining, spend, hspend, hsum⟩ := remainingBudget_eq h
  obtain ⟨leadNetQty, counterCap, hlead, hleadPos, hcap, rfl⟩ := targetQty_eq_some_iff.mp htarget
  have hcapPos := effectiveCounterCap_pos hcap
  rw [roundsAboveBudget_iff h hlead hcap, counterWithin_remaining hlead hcap hspend hsum]
  split_ifs with hmatch
  · simp [hmatch, hmatch.not_gt]
  · rw [partialHedge_within_iff hcapPos hremaining, not_and, not_le]
    have hless := not_le.mp hmatch
    refine ⟨fun hfits _ => hfits.2, fun hfract => ?_⟩
    have hcost := (partialHedge_within_iff hcapPos hremaining).mpr (hfract hless)
    refine ⟨?_, hfract hless⟩
    exact le_of_mul_le_mul_right (hcost.trans hless.le) hcapPos

end Budget

/-! ### The rebase comes to rest -/

theorem sizeDiffers_self (qty : ℚ) : sizeDiffers qty qty = false := by
  norm_num [sizeDiffers]

theorem optionalSizeDiffers_self (qty : Option ℚ) : optionalSizeDiffers qty qty = false := by
  cases qty with
  | none => rfl
  | some qty => exact sizeDiffers_self qty

theorem rebased_unchanged (p : LegPass) (rebalance : AutoCounterRebalance)
    (eligibleBeforeAt : Option ℤ) :
    autoCounterRebalanceChanged (p.rebased rebalance eligibleBeforeAt).order rebalance
      eligibleBeforeAt = false := by
  unfold autoCounterRebalanceChanged LegPass.rebased
  cases hbasis : rebalance.sizeBasis <;>
    simp [OrderUpdate.apply, sizeDiffers_self, optionalSizeDiffers_self]

theorem rebased_eligibleBeforeAt (p : LegPass) (config : PairLockConfig)
    (rebalance : AutoCounterRebalance) :
    (p.rebased rebalance (p.counterEligibleBeforeAt config)).counterEligibleBeforeAt config =
      p.counterEligibleBeforeAt config := by
  change (if config.counterWaitsUntilMarketEnd p.marketEnd then p.marketEnd
    else p.counterEligibleBeforeAt config) = p.counterEligibleBeforeAt config
  unfold LegPass.counterEligibleBeforeAt
  split_ifs with hwaits
  · rfl
  · rfl

theorem prepareAutoCounter_rests {p : LegPass} {config : PairLockConfig}
    {rebalance : AutoCounterRebalance} {eligibleBeforeAt : Option ℤ}
    (h : p.prepareAutoCounter config = some (.rebases rebalance eligibleBeforeAt)) :
    (p.rebased rebalance eligibleBeforeAt).prepareAutoCounter config = none := by
  unfold LegPass.prepareAutoCounter at h
  split_ifs at h with hcounter hmode hlead
  · cases h
  cases hbudget : config.totalBudgetUsdc with
  | none => rw [hbudget] at h; cases h
  | some totalBudgetUsdc =>
    cases hremaining : p.session.remainingBudgetUsdc totalBudgetUsdc with
    | none =>
      simp only [hbudget, hremaining, LegPass.budgetExhausted] at h
      split_ifs at h <;> cases h
    | some remainingBudgetUsdc =>
      simp only [hbudget, hremaining] at h
      split_ifs at h with hneeds
      obtain ⟨rfl, rfl⟩ := CounterDecision.rebases.inj (Option.some.inj h)
      have hsettled : autoCounterNeedsRebase
          (p.rebased (resolveAutoCounterRebalance p.session remainingBudgetUsdc)
            (p.counterEligibleBeforeAt config)).order
          (resolveAutoCounterRebalance p.session remainingBudgetUsdc)
          ((p.rebased (resolveAutoCounterRebalance p.session remainingBudgetUsdc)
            (p.counterEligibleBeforeAt config)).counterEligibleBeforeAt config) = false := by
        rw [rebased_eligibleBeforeAt, autoCounterNeedsRebase, rebased_unchanged, Bool.and_false]
      unfold LegPass.prepareAutoCounter
      rw [if_neg (by exact hcounter), if_neg hmode, if_neg (by exact hlead), hbudget]
      have hsession : (p.rebased (resolveAutoCounterRebalance p.session remainingBudgetUsdc)
          (p.counterEligibleBeforeAt config)).session = p.session := rfl
      simp only [hsession, hremaining]
      exact if_neg (Bool.eq_false_iff.mp hsettled)

/-- The counter is rebased within the budget of its pair unless a partial hedge is rounded up; the
rebase always comes to rest. -/
theorem counter_budget_iff (s : TradeBuilderPairSession) (totalBudgetUsdc : ℚ) :
    CounterBudgetLaw s totalBudgetUsdc ↔ ¬ s.RoundsAboveBudget totalBudgetUsdc := by
  constructor
  · intro hlaw hrounds
    have hpartial := hrounds
    obtain ⟨remainingBudgetUsdc, leadNetQty, counterCap, hremaining, hlead, hcap, hless, -⟩ :=
      hpartial
    have hpos : 0 < leadNetQty := by
      have hprod := (remainingBudget_eq hremaining).1.trans hless
      exact pos_of_mul_pos_left hprod (effectiveCounterCap_pos hcap).le
    obtain ⟨counterQty, htarget⟩ : ∃ counterQty,
        (resolveAutoCounterRebalance s remainingBudgetUsdc).targetQty = some counterQty :=
      ⟨_, targetQty_eq_some_iff.mpr ⟨leadNetQty, counterCap, hlead, hpos, hcap, rfl⟩⟩
    exact (counterWithin_iff hremaining htarget).mp (hlaw.within _ _ hremaining htarget) hrounds
  · intro h
    refine ⟨fun remainingBudgetUsdc counterQty hremaining htarget =>
      (counterWithin_iff hremaining htarget).mpr h, ?_⟩
    rintro p config rebalance eligibleBeforeAt - hprepare
    exact prepareAutoCounter_rests hprepare

/-- Twenty-five shares at twenty cents, of a pair at fifty-five. -/
def thinBudgetSession : TradeBuilderPairSession where
  pairTargetTotalCent := 55
  primaryOrderId := some 1
  counterOrderId := some 2
  leadOrderId := some 1
  primary := some ⟨25, 0, 25, 1 / 5⟩

/-- Five dollars are left, and 14.29 shares at thirty-five cents cost more. -/
theorem partial_hedge_over_budget : ¬ CounterBudgetLaw thinBudgetSession 10 := by
  intro hlaw
  have hwithin := hlaw.within 5 (1429 / 100) (by decide +kernel) (by decide +kernel) 25 (35 / 100)
    5 (by decide +kernel) (by decide +kernel) (by decide +kernel)
  norm_num at hwithin

end PolymarketBot.PairLock
