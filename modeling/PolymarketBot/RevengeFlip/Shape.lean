import PolymarketBot.Lib.Runs
import PolymarketBot.RevengeFlip.State

/-! The three shapes of a revenge-flip state, and which fills keep to them. -/

namespace PolymarketBot.RevengeFlip
open Builder Lib.Runs TradeBuilderRevengeFlipState

/-- A state with its history: the side it held last, and how often it went from holding to
flat. -/
structure FlipHistory where
  state : TradeBuilderRevengeFlipState := {}
  lastHeld : Option RevengeSide := none
  stops : ℕ := 0

namespace FlipHistory

def step (h : FlipHistory) (input : TradeBuilderRevengeFlipFillInput) : FlipHistory :=
  let state := revengeFlipApplyFillToState h.state input
  { state
    lastHeld := if 0 < state.positionQty then state.currentSide else h.lastHeld
    stops := if 0 < h.state.positionQty ∧ state.positionQty = 0 then h.stops + 1 else h.stops }

variable (h : FlipHistory)

def NeverEntered : Prop :=
  h.state.currentSide = none ∧ h.state.nextEntrySide = none ∧ h.state.positionQty = 0 ∧
    h.state.flipCount = 0

def Holding : Prop :=
  h.state.currentSide.isSome ∧ h.state.nextEntrySide = none ∧ 0 < h.state.positionQty

def FlatAfterStop : Prop :=
  h.state.currentSide = none ∧
    (∃ side, h.lastHeld = some side ∧
      h.state.nextEntrySide = some (revengeFlipOppositeSide side)) ∧
    h.state.positionQty = 0 ∧ 1 ≤ h.state.flipCount

/-- One of the shapes, and the flips counted are the stops. -/
def WellShaped : Prop :=
  (h.NeverEntered ∨ h.Holding ∨ h.FlatAfterStop) ∧ h.state.flipCount = h.stops

/-- Exactly one of the shapes, and the flips counted are the stops. -/
def ExactShape : Prop :=
  h.WellShaped ∧ ¬ (h.NeverEntered ∧ h.Holding) ∧ ¬ (h.NeverEntered ∧ h.FlatAfterStop) ∧
    ¬ (h.Holding ∧ h.FlatAfterStop)

theorem exactShape_iff : h.ExactShape ↔ h.WellShaped := by
  refine and_iff_left ⟨?_, ?_, ?_⟩
  · rintro ⟨⟨-, -, hzero, -⟩, -, -, hpos⟩
    exact hpos.ne' hzero
  · rintro ⟨⟨-, -, -, hzero⟩, -, -, -, hone⟩
    omega
  · rintro ⟨⟨-, -, hpos⟩, -, -, hzero, -⟩
    exact hpos.ne' hzero

/-- A buy that moves something or tops up a position, or a sell that finds a position. -/
def FindsShape (input : TradeBuilderRevengeFlipFillInput) : Prop :=
  (input.orderSide = .buy → 0 < input.qty ∨ 0 < h.state.positionQty) ∧
    (input.orderSide = .sell → 0 < h.state.positionQty)

instance (input : TradeBuilderRevengeFlipFillInput) : Decidable (h.FindsShape input) :=
  inferInstanceAs (Decidable (_ ∧ _))

/-- What the run keeps besides its shape: the side held last is that of the position. -/
structure Sound : Prop where
  nonneg : h.state.Nonneg
  held : 0 < h.state.positionQty → h.state.currentSide = h.lastHeld

end FlipHistory

section Steps
variable {h : FlipHistory} {input : TradeBuilderRevengeFlipFillInput}

theorem sold_qty_cases (state : TradeBuilderRevengeFlipState)
    (input : TradeBuilderRevengeFlipFillInput) :
    state.sold input = state.closed input ∨
      state.sold input = state.reduced input ∧ 0 < (state.reduced input).positionQty := by
  unfold sold
  cases hclose : state.closes input with
  | true => exact .inl rfl
  | false =>
    simp only [closes, Bool.or_eq_false_iff, decide_eq_false_iff_not, not_le] at hclose
    exact .inr ⟨rfl, lt_trans epsilon_pos hclose.1⟩

theorem history_step_sound (h : FlipHistory) (input : TradeBuilderRevengeFlipFillInput) :
    (h.step input).Sound := by
  refine ⟨applyFill_nonneg _ _, fun hpos => ?_⟩
  change 0 < (revengeFlipApplyFillToState h.state input).positionQty at hpos
  simp only [FlipHistory.step, if_pos hpos]

theorem holding_of_pos (hw : h.WellShaped) (hpos : 0 < h.state.positionQty) : h.Holding := by
  rcases hw.1 with ⟨-, -, hzero, -⟩ | hholding | ⟨-, -, hzero, -⟩
  · exact absurd hzero hpos.ne'
  · exact hholding
  · exact absurd hzero hpos.ne'

theorem buy_wellShaped (hs : h.Sound) (hw : h.WellShaped) (hside : input.orderSide = .buy) :
    (h.step input).WellShaped ↔ 0 < input.qty ∨ 0 < h.state.positionQty := by
  have hstate : (h.step input).state = (h.state.noted input).bought input := applyFill_buy hside
  have hqty : (h.step input).state.positionQty = h.state.positionQty + input.qty := by
    rw [hstate, bought_qty_exact, noted_qty hs.nonneg]
  have hold := hs.nonneg.qty
  have hmoved := input.qty_nonneg
  have hstops : (h.step input).stops = h.stops := by
    refine if_neg ?_
    rintro ⟨hpos, hzero⟩
    change (h.step input).state.positionQty = 0 at hzero
    linarith
  constructor
  · intro hnext
    by_contra hnone
    rw [not_or, not_lt, not_lt] at hnone
    have hzero : (h.step input).state.positionQty = 0 := by linarith
    rcases hnext.1 with ⟨hcurrent, -⟩ | ⟨-, -, hpos⟩ | ⟨hcurrent, -⟩
    · rw [hstate] at hcurrent
      cases hcurrent
    · exact hpos.ne' hzero
    · rw [hstate] at hcurrent
      cases hcurrent
  · intro hpos
    have hnext : 0 < (h.step input).state.positionQty := by
      rw [hqty]
      rcases hpos with hpos | hpos <;> linarith
    refine ⟨.inr (.inl ⟨?_, ?_, hnext⟩), ?_⟩
    · rw [hstate]
      rfl
    · rw [hstate]
      rfl
    · rw [hstops, ← hw.2, hstate]
      rfl

theorem sell_wellShaped (hs : h.Sound) (hw : h.WellShaped) (hside : input.orderSide = .sell) :
    (h.step input).WellShaped ↔ 0 < h.state.positionQty := by
  have hstate : (h.step input).state = (h.state.noted input).sold input := applyFill_sell hside
  rcases sold_qty_cases (h.state.noted input) input with hclosed | ⟨hreduced, hleft⟩
  · rw [hclosed] at hstate
    have hzero : (h.step input).state.positionQty = 0 := by rw [hstate]; rfl
    have hflips : (h.step input).state.flipCount = h.state.flipCount + 1 := by rw [hstate]; rfl
    constructor
    · intro hnext
      by_contra hnone
      have hstops : (h.step input).stops = h.stops := if_neg fun hstop => hnone hstop.1
      have hcount := hnext.2
      rw [hflips, hstops, hw.2] at hcount
      omega
    · intro hpos
      have hstops : (h.step input).stops = h.stops + 1 := if_pos ⟨hpos, hzero⟩
      have hlast : (h.step input).lastHeld = h.lastHeld := if_neg hzero.not_gt
      obtain ⟨hcurrent, -, -⟩ := holding_of_pos hw hpos
      obtain ⟨side, hheld⟩ := Option.isSome_iff_exists.mp hcurrent
      refine ⟨.inr (.inr ⟨?_, ⟨side, ?_, ?_⟩, hzero, ?_⟩), ?_⟩
      · rw [hstate]
        rfl
      · rw [hlast, ← hs.held hpos, hheld]
      · rw [hstate]
        simp [closed, noted, hheld]
      · rw [hflips, hw.2]
        omega
      · rw [hflips, hstops, hw.2]
        rfl
  · rw [hreduced] at hstate
    have hqty : (h.step input).state.positionQty = (h.state.noted input).remainingQty input := by
      rw [hstate]
      rfl
    have hnext : 0 < (h.step input).state.positionQty := by
      rw [hstate]
      exact hleft
    have hpos : 0 < h.state.positionQty := by
      have hle := remainingQty_le (noted_nonneg h.state input) input
      rw [noted_qty hs.nonneg] at hle
      rw [hqty] at hnext
      exact lt_of_lt_of_le hnext hle
    have hstops : (h.step input).stops = h.stops := if_neg fun hstop => hnext.ne' hstop.2
    obtain ⟨hcurrent, hside', -⟩ := holding_of_pos hw hpos
    refine iff_of_true ⟨.inr (.inl ⟨?_, ?_, hnext⟩), ?_⟩ hpos
    · rw [hstate]
      exact hcurrent
    · rw [hstate]
      exact hside'
    · rw [hstops, ← hw.2, hstate]
      rfl

theorem wellShaped_step (hs : h.Sound) (hw : h.WellShaped) :
    (h.step input).WellShaped ↔ h.FindsShape input := by
  cases hside : input.orderSide with
  | buy => simpa [FlipHistory.FindsShape, hside] using buy_wellShaped hs hw hside
  | sell => simpa [FlipHistory.FindsShape, hside] using sell_wellShaped hs hw hside

end Steps

/-- Every state of a run has exactly one of the shapes, and counts its stops, exactly when each
buy moves something or tops up a position and each sell finds a position. -/
theorem state_shape_iff (fills : List TradeBuilderRevengeFlipFillInput) :
    Throughout FlipHistory.step FlipHistory.ExactShape {} fills ↔
      EachStep FlipHistory.step FlipHistory.FindsShape {} fills := by
  rw [show FlipHistory.ExactShape = FlipHistory.WellShaped from
    funext fun h => propext h.exactShape_iff]
  refine throughout_iff_eachStep (I := FlipHistory.Sound) (fun h input hs hw => wellShaped_step hs hw)
    (fun h input _ _ _ => history_step_sound h input) ⟨⟨le_refl 0, le_refl 0⟩, fun hpos => ?_⟩
    ⟨.inl ⟨rfl, rfl, rfl, rfl⟩, rfl⟩ fills
  exact absurd hpos (lt_irrefl 0)

/-- A sell that arrives when the position is flat counts a flip and names a side to enter. -/
theorem late_sell_counts_flip :
    let late := revengeFlipFillInput .up .stopLossSell .sell 3 none 2 (4 / 10) none none
    let fills := [revengeFlipFillInput .up .initialBuy .buy 1 none 10 (6 / 10) none none,
      revengeFlipFillInput .up .stopLossSell .sell 2 none 10 (4 / 10) none none, late]
    (fills.foldl FlipHistory.step {}).stops = 1 ∧
      (fills.foldl FlipHistory.step {}).state.flipCount = 2 ∧
      (revengeFlipApplyFillToState {} late).nextEntrySide = some .down ∧
      ¬ Throughout FlipHistory.step FlipHistory.ExactShape {} fills := by
  refine ⟨by decide +kernel, by decide +kernel, by decide +kernel, fun h => ?_⟩
  have hend := (h 3).1.2
  revert hend
  decide +kernel

end PolymarketBot.RevengeFlip
