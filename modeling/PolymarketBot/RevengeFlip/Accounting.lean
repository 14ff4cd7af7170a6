import PolymarketBot.Lib.CostBook
import PolymarketBot.Lib.Runs
import PolymarketBot.RevengeFlip.State

/-! The books of a revenge-flip node: what its realized result is made of, and which part of a
losing cycle its loss ledger takes in. -/

namespace PolymarketBot.RevengeFlip
open Builder Lib Lib.Runs TradeBuilderRevengeFlipState

/-- The position of a state, carried at its average cost. -/
def book (state : TradeBuilderRevengeFlipState) : CostBook ℚ where
  cost := state.positionQty * state.positionAvgCost
  realized := state.realizedPnlUsdc
  spent := state.totalBuyCost
  received := state.totalSellRevenue

def fillEntries (state : TradeBuilderRevengeFlipState) (input : TradeBuilderRevengeFlipFillInput) :
    List (CostBook.Entry ℚ) :=
  match input.orderSide with
  | .buy => [.buy input.notional]
  | .sell =>
    [.sell input.notional (state.soldQty input * state.positionAvgCost),
      .writeOff (state.dustCostBasis input)]

def FlatOrHeld (qty : ℚ) : Prop := qty = 0 ∨ revengeFlipPositionEpsilon < qty

instance (qty : ℚ) : Decidable (FlatOrHeld qty) := inferInstanceAs (Decidable (_ ∨ _))

/-- A fill that pays for what it moves, sells no more than is held, and moves the position to
nothing or to one that counts. -/
def TidyFill (state : TradeBuilderRevengeFlipState) (input : TradeBuilderRevengeFlipFillInput) :
    Prop :=
  (input.orderSide = .buy → (input.qty = 0 → input.notional = 0) ∧
      FlatOrHeld (state.positionQty + input.qty)) ∧
    (input.orderSide = .sell → input.qty ≤ state.positionQty ∧
      FlatOrHeld (state.positionQty - input.qty))

instance (state : TradeBuilderRevengeFlipState) (input : TradeBuilderRevengeFlipFillInput) :
    Decidable (TidyFill state input) := inferInstanceAs (Decidable (_ ∧ _))

section Entries
variable {state : TradeBuilderRevengeFlipState} {input : TradeBuilderRevengeFlipFillInput}

theorem bought_book (h : state.Nonneg) (hpaid : input.qty = 0 → input.notional = 0)
    (hqty : FlatOrHeld (state.positionQty + input.qty)) :
    book (state.bought input) = (book state).post (.buy input.notional) := by
  have hcost : (state.positionQty + input.qty) * (state.bought input).positionAvgCost =
      state.positionQty * state.positionAvgCost + input.notional := by
    rcases hqty with hzero | hheld
    · have hnone : state.positionQty = 0 := by linarith [h.qty, input.qty_nonneg]
      have hqty : input.qty = 0 := by linarith
      rw [hzero, hnone, hpaid hqty]
      ring
    · have hpos : state.positionQty + input.qty ≠ 0 := by linarith [epsilon_pos]
      rw [bought_avgCost_exact, if_pos hheld]
      exact mul_div_cancel₀ _ hpos
  simp only [book, CostBook.post, CostBook.mk.injEq]
  exact ⟨hcost, rfl, rfl, rfl⟩

theorem remainingQty_eq (hheld : FlatOrHeld state.positionQty)
    (hsell : input.qty ≤ state.positionQty) :
    state.soldQty input = input.qty ∧ state.remainingQty input = state.positionQty - input.qty := by
  rw [remainingQty_exact]
  unfold soldQty
  rcases hheld with hzero | hpos
  · have hqty : input.qty = 0 := le_antisymm (hzero ▸ hsell) input.qty_nonneg
    have hsmall : ¬ revengeFlipPositionEpsilon < state.positionQty := by
      rw [hzero]
      exact not_lt.mpr epsilon_pos.le
    simp [if_neg hsmall, hqty]
  · simp only [if_pos hpos, min_eq_left hsell, true_and]
    exact max_eq_left (by linarith)

theorem sold_book (hheld : FlatOrHeld state.positionQty)
    (hsell : input.qty ≤ state.positionQty)
    (hleft : FlatOrHeld (state.positionQty - input.qty)) :
    book (state.sold input) =
      ((book state).post (.sell input.notional (state.soldQty input * state.positionAvgCost))).post
        (.writeOff (state.dustCostBasis input)) := by
  obtain ⟨hsold, hremaining⟩ := remainingQty_eq hheld hsell
  have hcost : (state.sold input).positionQty * (state.sold input).positionAvgCost =
      state.positionQty * state.positionAvgCost - state.soldQty input * state.positionAvgCost -
        state.dustCostBasis input := by
    unfold sold
    rw [dustCostBasis_exact, hsold, hremaining]
    by_cases hdust : state.dustClose input
    · simp only [closes, hdust, Bool.or_true, if_true, closed]
      ring
    · by_cases hsmall : state.remainingQty input ≤ revengeFlipPositionEpsilon
      · have hzero : state.positionQty - input.qty = 0 := by
          rw [hremaining] at hsmall
          exact hleft.resolve_right (not_lt.mpr hsmall)
        simp only [closes, hdust, hsmall, decide_true, Bool.or_false, if_true, closed]
        have hall : state.positionQty = input.qty := by linarith
        rw [hall]
        simp
      · simp only [closes, hdust, hsmall, decide_false, Bool.or_false, if_false, reduced,
          Bool.false_eq_true]
        rw [hremaining]
        ring
  have hrealized : (state.sold input).realizedPnlUsdc =
      state.realizedPnlUsdc + (input.notional - state.soldQty input * state.positionAvgCost) -
        state.dustCostBasis input := by
    have hclose : (state.sold input).realizedPnlUsdc = state.realizedAfter input := by
      unfold sold
      split <;> rfl
    rw [hclose, realizedAfter_exact, closeRealized_exact]
    ring
  have hrest : (state.sold input).totalBuyCost = state.totalBuyCost ∧
      (state.sold input).totalSellRevenue = state.totalSellRevenue + input.notional := by
    unfold sold
    split <;> exact ⟨rfl, rfl⟩
  simp only [book, CostBook.post, CostBook.mk.injEq]
  exact ⟨hcost, hrealized, hrest.1, hrest.2⟩

theorem noted_book (h : state.Nonneg) (input : TradeBuilderRevengeFlipFillInput) :
    book (state.noted input) = book state := by
  simp only [book, noted_qty h, noted_avgCost h]
  rfl

theorem applyFill_book (h : state.Nonneg) (hheld : FlatOrHeld state.positionQty)
    (htidy : TidyFill state input) :
    book (revengeFlipApplyFillToState state input) =
      (fillEntries (state.noted input) input).foldl CostBook.post (book state) := by
  have hnoted := noted_nonneg state input
  rw [← noted_book h input]
  unfold TidyFill at htidy
  rw [← noted_qty h input] at hheld htidy
  cases hside : input.orderSide with
  | buy =>
    obtain ⟨hpaid, hqty⟩ := htidy.1 hside
    rw [applyFill_buy hside, fillEntries, hside]
    exact bought_book hnoted hpaid hqty
  | sell =>
    obtain ⟨hsell, hleft⟩ := htidy.2 hside
    rw [applyFill_sell hside, fillEntries, hside]
    exact sold_book hheld hsell hleft

theorem applyFill_flatOrHeld (h : state.Nonneg) (hheld : FlatOrHeld state.positionQty)
    (htidy : TidyFill state input) :
    FlatOrHeld (revengeFlipApplyFillToState state input).positionQty := by
  unfold TidyFill at htidy
  rw [← noted_qty h input] at hheld htidy
  cases hside : input.orderSide with
  | buy =>
    rw [applyFill_buy hside, bought_qty_exact]
    exact (htidy.1 hside).2
  | sell =>
    obtain ⟨hsell, hleft⟩ := htidy.2 hside
    rw [applyFill_sell hside, sold]
    split
    · exact .inl rfl
    · rw [reduced, (remainingQty_eq hheld hsell).2]
      exact hleft

end Entries

/-- A dust close ends the position and realizes the whole of its cost, dust included. -/
def DustWrittenOff (state : TradeBuilderRevengeFlipState)
    (input : TradeBuilderRevengeFlipFillInput) : Prop :=
  input.orderSide = .sell → (state.noted input).dustClose input →
    (revengeFlipApplyFillToState state input).positionQty = 0 ∧
      (revengeFlipApplyFillToState state input).realizedPnlUsdc =
        state.realizedPnlUsdc + input.notional - state.positionQty * state.positionAvgCost

/-- The state of a run of tidy fills: no negative position, and one that counts or none. -/
def Booked (state : TradeBuilderRevengeFlipState) : Prop :=
  (state.Nonneg ∧ FlatOrHeld state.positionQty) ∧ (book state).Balanced

theorem booked_step (state : TradeBuilderRevengeFlipState)
    (input : TradeBuilderRevengeFlipFillInput) (h : Booked state) (htidy : TidyFill state input) :
    Booked (revengeFlipApplyFillToState state input) := by
  obtain ⟨⟨hnonneg, hheld⟩, hbalanced⟩ := h
  refine ⟨⟨applyFill_nonneg state input, applyFill_flatOrHeld hnonneg hheld htidy⟩, ?_⟩
  rw [applyFill_book hnonneg hheld htidy]
  exact hbalanced.posts _

theorem dustWrittenOff_of_tidy (state : TradeBuilderRevengeFlipState)
    (input : TradeBuilderRevengeFlipFillInput) (h : Booked state) (htidy : TidyFill state input) :
    DustWrittenOff state input := by
  obtain ⟨⟨hnonneg, hheld⟩, -⟩ := h
  intro hside hdust
  rw [TidyFill, ← noted_qty hnonneg input] at htidy
  rw [← noted_qty hnonneg input] at hheld
  obtain ⟨hsold, hremaining⟩ := remainingQty_eq hheld (htidy.2 hside).1
  rw [applyFill_sell hside, sold, closes, hdust, Bool.or_true, if_pos rfl,
    ← noted_qty hnonneg input, ← noted_avgCost hnonneg input]
  refine ⟨rfl, ?_⟩
  simp only [closed, realizedAfter_exact, closeRealized_exact, dustCostBasis_exact, hdust, if_true,
    hsold, hremaining]
  simp only [noted]
  ring

theorem start_booked : Booked {} :=
  ⟨⟨⟨le_refl 0, le_refl 0⟩, .inl rfl⟩, by norm_num [CostBook.Balanced, book]⟩

/-- In every run of tidy fills, what was realized is the revenue less the cost of what was
bought, plus the position at cost; a dust close keeps to it by writing the dust off. -/
theorem realized_pnl_identity (fills : List TradeBuilderRevengeFlipFillInput)
    (h : EachStep revengeFlipApplyFillToState TidyFill {} fills) :
    Throughout revengeFlipApplyFillToState (fun state => state.realizedPnlUsdc =
      state.totalSellRevenue - state.totalBuyCost + state.positionQty * state.positionAvgCost)
      {} fills ∧
      EachStep revengeFlipApplyFillToState DustWrittenOff {} fills :=
  ⟨h.throughout (I := Booked) (fun _ hs => hs.2) booked_step start_booked,
    h.imp dustWrittenOff_of_tidy booked_step start_booked⟩

/-- Buys ten shares at 60 cents, sells four at 50 and, on the stop, all but a tenth at 40. -/
def stoppedCycle : List TradeBuilderRevengeFlipFillInput :=
  [⟨.up, .initialBuy, .buy, 1, none, 10, 6 / 10, 6, none, none⟩,
    ⟨.up, .stopLossSell, .sell, 2, none, 4, 5 / 10, 2, none, none⟩,
    ⟨.up, .stopLossSell, .sell, 3, none, 59 / 10, 4 / 10, 236 / 100, none, none⟩]

theorem realized_pnl_identity_stopped :
    Throughout revengeFlipApplyFillToState (fun state => state.realizedPnlUsdc =
      state.totalSellRevenue - state.totalBuyCost + state.positionQty * state.positionAvgCost)
      {} stoppedCycle ∧
      EachStep revengeFlipApplyFillToState DustWrittenOff {} stoppedCycle :=
  realized_pnl_identity stoppedCycle (by decide +kernel)

/-! ### The loss ledger -/

/-- A state with the books of its cycles: what the sells of the open cycle have realized so
far, and the losses of the losing cycles that are over. -/
structure CycleLedger where
  state : TradeBuilderRevengeFlipState := {}
  cycleRealized : ℚ := 0
  cycleLosses : ℚ := 0

/-- What a fill realizes: nothing when it buys. -/
def fillRealized (state : TradeBuilderRevengeFlipState)
    (input : TradeBuilderRevengeFlipFillInput) : ℚ :=
  (revengeFlipApplyFillToState state input).realizedPnlUsdc - state.realizedPnlUsdc

/-- The fill takes the position back to nothing. -/
def ClosesCycle (state : TradeBuilderRevengeFlipState)
    (input : TradeBuilderRevengeFlipFillInput) : Prop :=
  0 < state.positionQty ∧ (revengeFlipApplyFillToState state input).positionQty = 0

instance (state : TradeBuilderRevengeFlipState) (input : TradeBuilderRevengeFlipFillInput) :
    Decidable (ClosesCycle state input) := inferInstanceAs (Decidable (_ ∧ _))

namespace CycleLedger
variable (ledger : CycleLedger) (input : TradeBuilderRevengeFlipFillInput)

def cycleResult : ℚ := ledger.cycleRealized + fillRealized ledger.state input

def step : CycleLedger where
  state := revengeFlipApplyFillToState ledger.state input
  cycleRealized :=
    if (revengeFlipApplyFillToState ledger.state input).positionQty = 0 then 0
    else ledger.cycleResult input
  cycleLosses :=
    if ClosesCycle ledger.state input then ledger.cycleLosses + max (-ledger.cycleResult input) 0
    else ledger.cycleLosses

/-- Loss ledger and price-to-beat bump are the losses of the losing cycles. -/
def LossesRecorded : Prop :=
  ledger.state.totalLossUsdc = ledger.cycleLosses ∧
    ledger.state.ptbBumpTotalUsdc = ledger.cycleLosses

/-- A closing fill finds nothing realized in its cycle so far, or neither it nor the whole
cycle makes a loss. -/
def ClosesWhole : Prop :=
  ClosesCycle ledger.state input → ledger.cycleRealized = 0 ∨
    0 ≤ fillRealized ledger.state input ∧ 0 ≤ ledger.cycleResult input

end CycleLedger

section Losses
variable {state : TradeBuilderRevengeFlipState} {input : TradeBuilderRevengeFlipFillInput}
variable {ledger : CycleLedger}

/-- A position below the epsilon carries no cost. -/
def CostsWhenHeld (state : TradeBuilderRevengeFlipState) : Prop :=
  state.positionQty ≤ revengeFlipPositionEpsilon → state.positionAvgCost = 0

theorem bought_costsWhenHeld (h : CostsWhenHeld state) :
    CostsWhenHeld (state.bought input) := by
  intro hsmall
  change state.positionQty + input.qty ≤ revengeFlipPositionEpsilon at hsmall
  have hqty := input.qty_nonneg
  rw [bought_avgCost_exact, if_neg (not_lt.mpr hsmall)]
  exact h (by linarith)

theorem closes_or_held (state : TradeBuilderRevengeFlipState)
    (input : TradeBuilderRevengeFlipFillInput) (h : state.closes input = false) :
    revengeFlipPositionEpsilon < state.remainingQty input := by
  simp only [closes, Bool.or_eq_false_iff, decide_eq_false_iff_not, not_le] at h
  exact h.1

theorem sold_costsWhenHeld : CostsWhenHeld (state.sold input) := by
  unfold sold
  cases hclose : state.closes input with
  | true => exact fun _ => rfl
  | false => exact fun hsmall => absurd hsmall (not_le.mpr (closes_or_held state input hclose))

theorem closed_totalLoss (state : TradeBuilderRevengeFlipState)
    (input : TradeBuilderRevengeFlipFillInput) :
    (state.closed input).totalLossUsdc =
        state.totalLossUsdc + max (-state.closeRealized input) 0 ∧
      (state.closed input).ptbBumpTotalUsdc =
        state.ptbBumpTotalUsdc + max (-state.closeRealized input) 0 := by
  have hloss : 0 ≤ max (-state.closeRealized input) 0 := le_max_right _ _
  simp only [closed, Arithmetic.nearest_exact]
  split
  · exact ⟨rfl, rfl⟩
  · rename_i hnone
    have hzero := le_antisymm (not_lt.mp hnone) hloss
    simp [hzero]

theorem loss_eq_iff (earlier closing : ℚ) :
    max (-closing) 0 = max (-(earlier + closing)) 0 ↔
      earlier = 0 ∨ 0 ≤ closing ∧ 0 ≤ earlier + closing := by
  constructor
  · intro h
    rcases le_or_gt 0 closing with hgain | hloss
    · refine .inr ⟨hgain, ?_⟩
      rw [max_eq_right (by linarith)] at h
      have hle := le_max_left (-(earlier + closing)) 0
      linarith
    · left
      rw [max_eq_left (by linarith)] at h
      rcases le_or_gt 0 (earlier + closing) with hsum | hsum
      · rw [max_eq_right (by linarith)] at h
        linarith
      · rw [max_eq_left (by linarith)] at h
        linarith
  · rintro (rfl | ⟨hgain, hsum⟩)
    · rw [zero_add]
    · rw [max_eq_right (by linarith), max_eq_right (by linarith)]

theorem sold_realized (state : TradeBuilderRevengeFlipState)
    (input : TradeBuilderRevengeFlipFillInput) :
    (state.sold input).realizedPnlUsdc = state.realizedPnlUsdc + state.closeRealized input := by
  rw [← realizedAfter_exact]
  unfold sold
  split <;> rfl

theorem closeRealized_flat (hqty : state.positionQty = 0) (hcost : CostsWhenHeld state) :
    0 ≤ state.closeRealized input := by
  have havg : state.positionAvgCost = 0 := hcost (by rw [hqty]; exact epsilon_pos.le)
  have hdust : state.dustCostBasis input = 0 := by
    rw [dustCostBasis_exact]
    split <;> simp [havg]
  rw [closeRealized_exact, havg, hdust]
  simpa using input.notional_nonneg

theorem losses_step (hnonneg : ledger.state.Nonneg) (hcost : CostsWhenHeld ledger.state)
    (hlosses : ledger.LossesRecorded) :
    (ledger.step input).LossesRecorded ↔ ledger.ClosesWhole input := by
  obtain ⟨htotal, hbump⟩ := hlosses
  have hnoted : (ledger.state.noted input).Nonneg := noted_nonneg _ _
  have hqty := noted_qty hnonneg input
  cases hside : input.orderSide with
  | buy =>
    have hopen : ¬ ClosesCycle ledger.state input := by
      rintro ⟨hpos, hzero⟩
      rw [applyFill_buy hside] at hzero
      change (ledger.state.noted input).positionQty + input.qty = 0 at hzero
      linarith [input.qty_nonneg]
    simp only [CycleLedger.LossesRecorded, CycleLedger.step, CycleLedger.ClosesWhole, hopen,
      if_false, false_imp_iff, iff_true]
    rw [applyFill_buy hside]
    exact ⟨htotal, hbump⟩
  | sell =>
    have hrealized : fillRealized ledger.state input =
        (ledger.state.noted input).closeRealized input := by
      rw [fillRealized, applyFill_sell hside, sold_realized]
      simp only [noted]
      ring
    cases hclose : (ledger.state.noted input).closes input with
    | false =>
      have hheld := closes_or_held _ _ hclose
      have hstate : revengeFlipApplyFillToState ledger.state input =
          (ledger.state.noted input).reduced input := by
        rw [applyFill_sell hside, sold, hclose, if_neg Bool.false_ne_true]
      have hopen : ¬ ClosesCycle ledger.state input := by
        rintro ⟨-, hzero⟩
        rw [hstate] at hzero
        change (ledger.state.noted input).remainingQty input = 0 at hzero
        linarith [epsilon_pos]
      simp only [CycleLedger.LossesRecorded, CycleLedger.step, CycleLedger.ClosesWhole, hopen,
        if_false, false_imp_iff, iff_true]
      rw [hstate]
      exact ⟨htotal, hbump⟩
    | true =>
      have hstate : revengeFlipApplyFillToState ledger.state input =
          (ledger.state.noted input).closed input := by
        rw [applyFill_sell hside, sold, hclose, if_pos rfl]
      obtain ⟨hloss, hbumped⟩ := closed_totalLoss (ledger.state.noted input) input
      rw [← hrealized] at hloss hbumped
      rcases hnonneg.qty.eq_or_lt with hflat | hpos
      · have hopen : ¬ ClosesCycle ledger.state input := fun h => h.1.ne hflat
        have hcost' : CostsWhenHeld (ledger.state.noted input) := by
          rw [CostsWhenHeld, hqty, noted_avgCost hnonneg]
          exact hcost
        have hgain : 0 ≤ fillRealized ledger.state input :=
          hrealized ▸ closeRealized_flat (hqty.trans hflat.symm) hcost'
        rw [max_eq_right (by linarith), add_zero] at hloss hbumped
        simp only [CycleLedger.LossesRecorded, CycleLedger.step, CycleLedger.ClosesWhole, hopen,
          if_false, false_imp_iff, iff_true]
        rw [hstate]
        exact ⟨hloss.trans htotal, hbumped.trans hbump⟩
      · have hcloses : ClosesCycle ledger.state input := ⟨hpos, by rw [hstate]; rfl⟩
        simp only [CycleLedger.LossesRecorded, CycleLedger.step, CycleLedger.ClosesWhole, hcloses,
          if_true, true_imp_iff]
        rw [hstate, hloss, hbumped]
        change ledger.state.totalLossUsdc + _ = _ ∧ ledger.state.ptbBumpTotalUsdc + _ = _ ↔ _
        rw [htotal, hbump, and_self, add_right_inj]
        exact loss_eq_iff _ _

/-- In every run of fills, the loss ledger and the bump are the sum of the losses of the losing
cycles exactly when each fill that closes a cycle finds nothing realized in it before, or
neither that fill nor the whole cycle makes a loss. -/
theorem loss_ledger_iff (fills : List TradeBuilderRevengeFlipFillInput) :
    Throughout CycleLedger.step CycleLedger.LossesRecorded {} fills ↔
      EachStep CycleLedger.step CycleLedger.ClosesWhole {} fills := by
  refine throughout_iff_eachStep
    (I := fun ledger => ledger.state.Nonneg ∧ CostsWhenHeld ledger.state)
    (fun ledger input hi hl => losses_step hi.1 hi.2 hl) (fun ledger input hi _ _ => ?_)
    ⟨⟨le_refl 0, le_refl 0⟩, fun _ => rfl⟩ ⟨rfl, rfl⟩ fills
  refine ⟨applyFill_nonneg _ _, ?_⟩
  change CostsWhenHeld (revengeFlipApplyFillToState ledger.state input)
  unfold revengeFlipApplyFillToState
  split
  · refine bought_costsWhenHeld fun hsmall => ?_
    rw [noted_avgCost hi.1]
    exact hi.2 (noted_qty hi.1 input ▸ hsmall)
  · exact sold_costsWhenHeld

/-- Ten shares bought at 60 cents are sold in two halves at 40: the ledger takes in the second
half's loss only. -/
theorem partial_sell_loss_missed :
    let fills := [⟨.up, .initialBuy, .buy, 1, none, 10, 6 / 10, 6, none, none⟩,
      ⟨.up, .stopLossSell, .sell, 2, none, 5, 4 / 10, 2, none, none⟩,
      ⟨.up, .stopLossSell, .sell, 3, none, 5, 4 / 10, 2, none, none⟩]
    (fills.foldl CycleLedger.step {}).cycleLosses = 2 ∧
      (fills.foldl CycleLedger.step {}).state.totalLossUsdc = 1 ∧
      ¬ Throughout CycleLedger.step CycleLedger.LossesRecorded {} fills := by
  refine ⟨by decide +kernel, by decide +kernel, fun h => ?_⟩
  have hend := (h 3).1
  revert hend
  decide +kernel

end Losses

end PolymarketBot.RevengeFlip
