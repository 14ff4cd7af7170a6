import PolymarketBot.Lib.Runs
import PolymarketBot.RevengeFlip.Engine

/-! Runs of the engine together with the fills of its orders, and when it keeps to one side: in
exact numbers and in doubles alike. -/

namespace PolymarketBot.RevengeFlip
open Builder Lib Lib.Runs TradeBuilderRevengeFlipState
open Lib.Arithmetic (nearest)

/-- A fill, as the exchange and the finalizer report it of the order handed over: its quantity is a
number of the arithmetic. -/
structure RevengeFlipFill [Arithmetic] where
  fillQty : ℚ
  executionPrice : ℚ
  builderOrderId : ℤ := 1
  sourceTradeId : Option ℤ := some 1
  representable : nearest fillQty = fillQty

/-- One look at the market, and the fill of what comes of it, if any. -/
structure RevengeFlipTurn [Arithmetic] where
  look : RevengeFlipLook
  fill : Option RevengeFlipFill := none

namespace RevengeFlipOrder
variable [Arithmetic] (order : RevengeFlipOrder) (fill : RevengeFlipFill)

def fillInput : TradeBuilderRevengeFlipFillInput :=
  revengeFlipFillInput order.revengeSide order.intent order.orderSide fill.builderOrderId
    fill.sourceTradeId fill.fillQty fill.executionPrice order.stopLossEnabled order.stopLossPct

/-- A buy spends no more than its notional, and a sell moves no more than the position. -/
def canFill (state : TradeBuilderRevengeFlipState) : Bool :=
  match order.orderSide with
  | .buy => order.targetNotionalUsdc.all (fill.fillQty * fill.executionPrice ≤ ·)
  | .sell => fill.fillQty ≤ state.positionQty

end RevengeFlipOrder

/-- The state of a run, and whether a buy was ever handed over against a position. -/
structure RevengeFlipRun where
  state : TradeBuilderRevengeFlipState := {}
  boughtAgainst : Bool := false

namespace RevengeFlipRun

def buysAgainst (run : RevengeFlipRun) (order : RevengeFlipOrder) : Bool :=
  order.orderSide = .buy && 0 < run.state.positionQty &&
    run.state.currentSide = some (revengeFlipOppositeSide order.revengeSide)

/-- A state without a side holds nothing. -/
structure Sound (run : RevengeFlipRun) : Prop where
  nonneg : run.state.Nonneg
  sided : run.state.currentSide = none → run.state.positionQty = 0

variable [Arithmetic] (run : RevengeFlipRun) (turn : RevengeFlipTurn)

/-- The row of the state starts with its column's default. -/
def start : RevengeFlipRun := { state := { positionStopLossPct := nearest (1 / 5) } }

def step : RevengeFlipRun :=
  match executeActionPlaceOrderRevengeFlip turn.look run.state with
  | .skipped _ => run
  | .holdPosition => run
  | .submit order =>
    { state := match turn.fill with
        | none => run.state
        | some fill => revengeFlipApplyFillToState run.state (order.fillInput fill)
      boughtAgainst := run.boughtAgainst || run.buysAgainst order }

/-- Only an order that was handed over is filled, for any quantity up to its size. -/
def fillsWithin : Bool :=
  match executeActionPlaceOrderRevengeFlip turn.look run.state with
  | .skipped _ => turn.fill.isNone
  | .holdPosition => turn.fill.isNone
  | .submit order => turn.fill.all fun fill =>
      0 ≤ fill.fillQty && order.canFill fill run.state

/-- The stop-loss branch looks after every position, and no buy was made against one. -/
def OneSided : Prop :=
  run.boughtAgainst = false ∧
    (revengeFlipPositionIsOpen run.state.positionQty ∨ run.state.positionQty = 0)

/-- A fill of an open position leaves something else than the dust bound; any other fill moves
nothing, or more than that bound. -/
def FillsClear : Prop :=
  ∀ fill ∈ turn.fill,
    if revengeFlipPositionIsOpen run.state.positionQty then
      nearest (run.state.positionQty - fill.fillQty) ≠ revengeFlipDustCloseQty
    else fill.fillQty = 0 ∨ revengeFlipDustCloseQty < fill.fillQty

instance : Decidable run.OneSided := inferInstanceAs (Decidable (_ ∧ _))

end RevengeFlipRun

section Fills
variable [Arithmetic] {state : TradeBuilderRevengeFlipState} {input : TradeBuilderRevengeFlipFillInput}
  {order : RevengeFlipOrder} {fill : RevengeFlipFill}

theorem order_fillInput_qty (h : 0 ≤ fill.fillQty) : (order.fillInput fill).qty = fill.fillQty := by
  simp [TradeBuilderRevengeFlipFillInput.qty, RevengeFlipOrder.fillInput, revengeFlipFillInput, h]

theorem open_iff {qty : ℚ} : revengeFlipPositionIsOpen qty ↔ revengeFlipDustCloseQty < qty :=
  decide_eq_true_iff

theorem not_open_zero : revengeFlipPositionIsOpen 0 = false :=
  decide_eq_false (not_lt.mpr (epsilon_pos.trans epsilon_lt_dust).le)

theorem stopLossSell_closes (hintent : input.intent = .stopLossSell) :
    state.closes input ↔ state.remainingQty input < revengeFlipDustCloseQty := by
  have hbound := epsilon_lt_dust
  simp only [closes, dustClose, hintent, Bool.or_eq_true, Bool.and_eq_true, decide_eq_true_eq,
    true_and]
  constructor
  · rintro (hle | hdust)
    · exact lt_of_le_of_lt hle hbound
    · exact hdust.2
  · intro hlt
    rcases le_or_gt (state.remainingQty input) revengeFlipPositionEpsilon with hle | hgt
    · exact .inl hle
    · exact .inr ⟨hgt, hlt⟩

theorem remainingQty_of_open (hopen : revengeFlipPositionIsOpen state.positionQty)
    (hsell : input.qty ≤ state.positionQty) :
    state.remainingQty input = nearest (state.positionQty - input.qty) := by
  have heps : revengeFlipPositionEpsilon < state.positionQty :=
    lt_trans epsilon_lt_dust (open_iff.mp hopen)
  rw [remainingQty, soldQty, if_pos heps, if_pos heps, min_eq_left hsell]
  exact max_eq_left (Arithmetic.nearest_nonneg (sub_nonneg.mpr hsell))

theorem stopLossSell_clear (hopen : revengeFlipPositionIsOpen state.positionQty)
    (hsell : input.qty ≤ state.positionQty) (hintent : input.intent = .stopLossSell) :
    (revengeFlipPositionIsOpen (state.sold input).positionQty ∨
        (state.sold input).positionQty = 0) ↔
      nearest (state.positionQty - input.qty) ≠ revengeFlipDustCloseQty := by
  have hpos : 0 < revengeFlipDustCloseQty := lt_trans epsilon_pos epsilon_lt_dust
  have hleft : state.remainingQty input = nearest (state.positionQty - input.qty) :=
    remainingQty_of_open hopen hsell
  have hcloses : state.closes input ↔ state.remainingQty input < revengeFlipDustCloseQty :=
    stopLossSell_closes hintent
  rw [hleft] at hcloses
  unfold sold
  split
  · rename_i hclose
    exact iff_of_true (.inr rfl) (hcloses.mp hclose).ne
  · rename_i hclose
    have hge : revengeFlipDustCloseQty ≤ nearest (state.positionQty - input.qty) :=
      not_lt.mp fun hlt => hclose (hcloses.mpr hlt)
    have hqty : (state.reduced input).positionQty = nearest (state.positionQty - input.qty) := hleft
    rw [hqty, open_iff, or_iff_left (lt_of_lt_of_le hpos hge).ne']
    exact lt_iff_le_and_ne.trans ⟨fun h => h.2.symm, fun h => ⟨hge, h.symm⟩⟩

end Fills

section Steps
variable [Arithmetic] {run : RevengeFlipRun} {turn : RevengeFlipTurn} {order : RevengeFlipOrder}

theorem sold_unsided {state : TradeBuilderRevengeFlipState}
    {input : TradeBuilderRevengeFlipFillInput}
    (hs : state.currentSide = none → state.positionQty = 0) :
    (state.sold input).currentSide = none → (state.sold input).positionQty = 0 := by
  unfold sold
  split
  · exact fun _ => rfl
  · intro hnone
    have hzero : state.positionQty = 0 := hs hnone
    change state.remainingQty input = 0
    rw [remainingQty, hzero, if_neg epsilon_pos.not_gt]

theorem sound_applyFill (hs : run.Sound) (boughtAgainst : Bool)
    (input : TradeBuilderRevengeFlipFillInput) :
    RevengeFlipRun.Sound ⟨revengeFlipApplyFillToState run.state input, boughtAgainst⟩ := by
  refine ⟨applyFill_nonneg _ _, ?_⟩
  change (revengeFlipApplyFillToState run.state input).currentSide = none →
    (revengeFlipApplyFillToState run.state input).positionQty = 0
  unfold revengeFlipApplyFillToState
  split
  · intro hnone
    cases hnone
  · refine sold_unsided fun hnone => ?_
    rw [noted_qty hs.nonneg]
    exact hs.sided hnone

theorem sound_step (hs : run.Sound) (turn : RevengeFlipTurn) : (run.step turn).Sound := by
  unfold RevengeFlipRun.step
  split
  · exact hs
  · exact hs
  · cases turn.fill with
    | none => exact ⟨hs.nonneg, hs.sided⟩
    | some fill => exact sound_applyFill hs _ _

theorem flat_of_buy (hs : run.Sound) (hone : run.OneSided)
    (hflat : run.state.currentSide = none ∨ ¬ revengeFlipPositionIsOpen run.state.positionQty) :
    run.state.positionQty = 0 := by
  rcases hflat with hnone | hclosed
  · exact hs.sided hnone
  · exact hone.2.resolve_left hclosed

theorem oneSided_buy (hs : run.Sound) (hzero : run.state.positionQty = 0)
    (hbuy : order.orderSide = .buy) {fill : RevengeFlipFill} (hfill : 0 ≤ fill.fillQty) :
    RevengeFlipRun.OneSided
        ⟨revengeFlipApplyFillToState run.state (order.fillInput fill), false⟩ ↔
      fill.fillQty = 0 ∨ revengeFlipDustCloseQty < fill.fillQty := by
  have hqty : (revengeFlipApplyFillToState run.state (order.fillInput fill)).positionQty =
      fill.fillQty := by
    rw [applyFill_buy hbuy, bought, noted_qty hs.nonneg, hzero, zero_add, order_fillInput_qty hfill]
    exact fill.representable
  rw [RevengeFlipRun.OneSided, hqty, open_iff, or_comm]
  exact and_iff_right rfl

theorem oneSided_sell (hs : run.Sound) (hopen : revengeFlipPositionIsOpen run.state.positionQty)
    (hsell : order.orderSide = .sell) (hintent : order.intent = .stopLossSell)
    {fill : RevengeFlipFill} (hfill : 0 ≤ fill.fillQty)
    (hwithin : fill.fillQty ≤ run.state.positionQty) :
    RevengeFlipRun.OneSided
        ⟨revengeFlipApplyFillToState run.state (order.fillInput fill), false⟩ ↔
      nearest (run.state.positionQty - fill.fillQty) ≠ revengeFlipDustCloseQty := by
  have hnoted := noted_qty hs.nonneg (order.fillInput fill)
  have hnotedOpen : revengeFlipPositionIsOpen (run.state.noted (order.fillInput fill)).positionQty := by
    rwa [hnoted]
  have hsellInput : (order.fillInput fill).intent = .stopLossSell := hintent
  have hclear := stopLossSell_clear hnotedOpen
    (by rwa [hnoted, order_fillInput_qty hfill]) hsellInput
  rw [hnoted, order_fillInput_qty hfill] at hclear
  rw [RevengeFlipRun.OneSided, applyFill_sell hsell]
  exact (and_iff_right rfl).trans hclear

theorem buysAgainst_false (hs : run.Sound) (hone : run.OneSided)
    (hdecision : executeActionPlaceOrderRevengeFlip turn.look run.state = .submit order) :
    run.buysAgainst order = false := by
  unfold RevengeFlipRun.buysAgainst
  rcases submit_cases hdecision with ⟨-, -, hsell, -⟩ | ⟨hflat, -⟩
  · simp [hsell]
  · simp [flat_of_buy hs hone hflat]

theorem fillsClear_none (hturn : turn.fill = none) : run.FillsClear turn := by
  simp [RevengeFlipRun.FillsClear, hturn]

theorem fillsClear_some {fill : RevengeFlipFill} (hturn : turn.fill = some fill) :
    run.FillsClear turn ↔
      if revengeFlipPositionIsOpen run.state.positionQty then
        nearest (run.state.positionQty - fill.fillQty) ≠ revengeFlipDustCloseQty
      else fill.fillQty = 0 ∨ revengeFlipDustCloseQty < fill.fillQty := by
  rw [RevengeFlipRun.FillsClear, hturn]
  simp only [Option.mem_some_iff, forall_eq']

theorem oneSided_step (hs : run.Sound) (hone : run.OneSided) (hfill : run.fillsWithin turn) :
    (run.step turn).OneSided ↔ run.FillsClear turn := by
  unfold RevengeFlipRun.step
  unfold RevengeFlipRun.fillsWithin at hfill
  cases hdecision : executeActionPlaceOrderRevengeFlip turn.look run.state with
  | skipped reason => exact iff_of_true hone (fillsClear_none (by simpa [hdecision] using hfill))
  | holdPosition => exact iff_of_true hone (fillsClear_none (by simpa [hdecision] using hfill))
  | submit order =>
    simp only [hdecision] at hfill ⊢
    rw [hone.1, buysAgainst_false hs hone hdecision, Bool.or_false]
    cases hturn : turn.fill with
    | none => exact iff_of_true ⟨rfl, hone.2⟩ (fillsClear_none hturn)
    | some fill =>
      simp only [hturn, Option.all_some, Bool.and_eq_true, decide_eq_true_eq] at hfill
      obtain ⟨hqty, hcan⟩ := hfill
      rw [fillsClear_some hturn]
      rcases submit_cases hdecision with ⟨-, hopen, hsell, hintent⟩ | ⟨hflat, hbuy⟩
      · rw [if_pos hopen]
        rw [RevengeFlipOrder.canFill, hsell] at hcan
        exact oneSided_sell hs hopen hsell hintent hqty (decide_eq_true_iff.mp hcan)
      · have hzero := flat_of_buy hs hone hflat
        rw [if_neg (by simp [hzero, not_open_zero])]
        exact oneSided_buy hs hzero hbuy hqty

end Steps

/-- A run whose orders are filled within their sizes holds one side at a time, every position
under its stop loss, exactly when no fill leaves a position at or under the dust bound. -/
theorem one_sided_iff [Arithmetic] (turns : List RevengeFlipTurn)
    (hfills : EachStep RevengeFlipRun.step (fun run turn => run.fillsWithin turn) .start turns) :
    Throughout RevengeFlipRun.step RevengeFlipRun.OneSided .start turns ↔
      EachStep RevengeFlipRun.step RevengeFlipRun.FillsClear .start turns := by
  refine throughout_iff_eachStep_within (I := RevengeFlipRun.Sound)
    (fun run turn hs hone hfill => oneSided_step hs hone hfill)
    (fun run turn hs _ _ _ => sound_step hs turn) ⟨⟨le_refl 0, le_refl 0⟩, fun _ => rfl⟩
    ⟨rfl, .inr rfl⟩ turns hfills

/-- A look at asks of the two sides, each with a bid a cent below it, the price-to-beat guard
off. -/
def lookAt [Arithmetic] (up down : ℚ) : RevengeFlipLook where
  config := { stopLossPct := nearest (1 / 5), ptb := { enabled := false } }
  quotes := [⟨.up, some (nearest (up - 1 / 100)), some (nearest up)⟩,
    ⟨.down, some (nearest (down - 1 / 100)), some (nearest down)⟩]

section SmallFill
local instance inDoubles : Arithmetic := .doubles

/-- The first buy is filled for a tenth of a share; the other side then has the lower ask. -/
def smallFillTurns : List RevengeFlipTurn :=
  [⟨lookAt (40 / 100) (60 / 100), some
      { fillQty := nearest (1 / 10)
        executionPrice := nearest (40 / 100)
        representable := by decide +kernel }⟩,
    ⟨lookAt (62 / 100) (38 / 100), none⟩]

theorem one_sided_small_fill :
    Throughout RevengeFlipRun.step RevengeFlipRun.OneSided .start smallFillTurns ↔
      EachStep RevengeFlipRun.step RevengeFlipRun.FillsClear .start smallFillTurns :=
  one_sided_iff smallFillTurns (by decide +kernel)

/-- After a buy filled for a tenth of a share the engine buys the other side. -/
theorem small_fill_buys_other_side :
    let run := smallFillTurns.foldl RevengeFlipRun.step .start
    EachStep RevengeFlipRun.step (fun run turn => run.fillsWithin turn) .start smallFillTurns ∧
      run.state.currentSide = some .up ∧ run.state.positionQty = nearest (1 / 10) ∧
      run.boughtAgainst = true ∧
      ¬ Throughout RevengeFlipRun.step RevengeFlipRun.OneSided .start smallFillTurns := by
  refine ⟨by decide +kernel, by decide +kernel, by decide +kernel, by decide +kernel, fun h => ?_⟩
  have hend : (smallFillTurns.foldl RevengeFlipRun.step .start).boughtAgainst = false := (h 2).1
  revert hend
  decide +kernel

/-- In doubles 9.8 of ten shares leave less than the bound, 0.2 of 0.4 just the bound. -/
example : nearest (10 - nearest (98 / 10)) < revengeFlipDustCloseQty ∧
    nearest (nearest (4 / 10) - nearest (2 / 10)) = revengeFlipDustCloseQty := by decide +kernel

end SmallFill

end PolymarketBot.RevengeFlip
