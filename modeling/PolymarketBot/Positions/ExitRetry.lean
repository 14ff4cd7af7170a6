import Mathlib.Algebra.Order.Archimedean.Basic
import PolymarketBot.Builder.Reconcile
import PolymarketBot.Positions.FirstVisible

/-! The quantity of an exit sell: clamped to the visible inventory, estimated when none is
visible, and lowered step by step by its retries. -/

namespace PolymarketBot.Positions
open Lib Builder

/-- An exit order with the fee rate of its purchase. -/
structure ExitSell extends TradeBuilderOrder where
  feeRateBps : ℤ := 0
  deriving DecidableEq, Repr

structure LocalInventoryFallback where
  submitQty : ℚ
  estimatedFeeQty : ℚ
  executionPrice : ℚ
  feeRateBps : ℤ
  deriving DecidableEq, Repr

/-- What of the purchase should be visible after its fee and the buffer. -/
def estimatedVisibleQty (grossQty executionPrice : ℚ) (feeRateBps : ℤ) : ℚ :=
  let estimatedFeeQty := estimateTradeBuilderBuyFeeShares executionPrice grossQty feeRateBps
  roundTradeBuilderShareQty
    (max (grossQty - estimatedFeeQty - tradeBuilderExitQtyBuffer grossQty) 0)

def tradeBuilderEstimatedVisibleExitQty (order : ExitSell) (requestedQty : ℚ) :
    Option LocalInventoryFallback :=
  if !tradeBuilderIsChildExitSell order.toTradeBuilderOrder || order.sizeBasis ≠ .shares then none
  else
    (order.targetQty.filter (0 < ·)).bind fun grossQty =>
      let executionPrice := max 0 (min 1 (order.sizeUsdc / grossQty))
      if executionPrice ≤ 0 then none
      else
        let feeRateBps := tradeBuilderFeeRateBpsOrDefault order.feeRateBps
        let estimated := estimatedVisibleQty grossQty executionPrice feeRateBps
        let submitQty := roundTradeBuilderShareQty (min estimated requestedQty)
        if 0 < submitQty then
          some
            { submitQty
              estimatedFeeQty := estimateTradeBuilderBuyFeeShares executionPrice grossQty feeRateBps
              executionPrice, feeRateBps }
        else none

theorem estimatedVisibleQty_round (grossQty executionPrice : ℚ) (feeRateBps : ℤ) :
    roundTradeBuilderShareQty (estimatedVisibleQty grossQty executionPrice feeRateBps) =
      estimatedVisibleQty grossQty executionPrice feeRateBps :=
  roundTradeBuilderShareQty_round _

/-- The answer that a pass over the order gets to its call for the estimate. -/
def visibleEstimate (order : ExitSell) : Option ℚ :=
  (order.targetQty.filter (0 < ·)).bind fun grossQty =>
    let executionPrice := max 0 (min 1 (order.sizeUsdc / grossQty))
    if executionPrice ≤ 0 then none
    else some (estimatedVisibleQty grossQty executionPrice
      (tradeBuilderFeeRateBpsOrDefault order.feeRateBps))

theorem estimatedVisibleExitQty_pass (order : ExitSell) (requestedQty : ℚ) (w : Builder.World)
    (r : Builder.Reply) (hbefore : r.before = []) (hfails : r.fails = none)
    (hqty : r.qty = visibleEstimate order) :
    Prog.exec Builder.act
        (Builder.tradeBuilderEstimatedVisibleExitQty order.toTradeBuilderOrder requestedQty)
        [r] w =
      (.ok ((tradeBuilderEstimatedVisibleExitQty order requestedQty).map (·.submitQty)), w) := by
  have hact : Builder.act .estimatedVisibleQty w r = (.ok (visibleEstimate order), w) := by
    simp [Builder.act, hfails, Builder.answer, Builder.Reply.arrive, hbefore, hqty]
  unfold Builder.tradeBuilderEstimatedVisibleExitQty tradeBuilderEstimatedVisibleExitQty
  by_cases hchild : tradeBuilderIsChildExitSell order.toTradeBuilderOrder = true ∧
      order.sizeBasis = .shares
  · rw [if_pos hchild, if_neg (by simp [hchild])]
    simp only [Builder.Job.orElse, Builder.Job.tryRun, Prog.perform, Prog.attempt, Bind.bind,
      Prog.bind, Prog.exec, List.headD_cons, hact]
    refine Prod.ext (congrArg Except.ok ?_) rfl
    unfold visibleEstimate
    cases order.targetQty.filter (0 < ·) with
    | none => rfl
    | some grossQty =>
      simp only [Option.bind_some]
      by_cases hprice : max 0 (min 1 (order.sizeUsdc / grossQty)) ≤ 0
      · rw [if_pos hprice, if_pos hprice]
        rfl
      · rw [if_neg hprice, if_neg hprice, Option.map_some, estimatedVisibleQty_round,
          Option.filter_some]
        simp only [decide_eq_true_eq]
        split <;> rfl
  · rw [if_neg hchild, if_pos (by simpa [Decidable.imp_iff_not_or] using hchild)]
    rfl

def tradeBuilderLocalInventoryFallback (order : ExitSell) (requestedQty : ℚ) :
    Option LocalInventoryFallback :=
  if tradeBuilderStopLossLatched order.toTradeBuilderOrder then
    tradeBuilderEstimatedVisibleExitQty order requestedQty
  else none

structure ExitInventoryResolution where
  submitQty : ℚ
  submitPartialVisibleInventory : Bool
  visibleQty : Option ℚ
  localFallback : Option LocalInventoryFallback
  deriving DecidableEq, Repr

def resolveTradeBuilderExitInventory (order : ExitSell) (requestedQty : ℚ)
    (visibleQty : Option ℚ) : Option ExitInventoryResolution :=
  let localFallback := tradeBuilderLocalInventoryFallback order requestedQty
  ((clampTradeBuilderVisibleShareQty requestedQty visibleQty).or
      (localFallback.map (·.submitQty))).map fun submitQty =>
    { submitQty
      submitPartialVisibleInventory :=
        decide (submitQty + tradeBuilderExitQtyTolerance < requestedQty)
      visibleQty, localFallback }

/-- The quantity after so many retries, as long as there is a next one. -/
def retryAfter : ℕ → ℚ → Option ℚ
  | 0, qty => some qty
  | n + 1, qty => (tradeBuilderNextRetryShareQty qty).bind (retryAfter n)

/-- The retries of a quantity lower it by the decrement at least, come to an end, and go on as
long as a share quantity is left. -/
structure RetryChainLaw (qty : ℚ) : Prop where
  decreases : ∀ n previous next, retryAfter n qty = some previous →
    tradeBuilderNextRetryShareQty previous = some next →
      next ≤ previous - tradeBuilderExitRetryMinDecrement
  ends : ∃ n, retryAfter n qty = none
  complete : ∀ n last, retryAfter n qty = some last → tradeBuilderNextRetryShareQty last = none →
    ∀ left, OnGrid 100 left → 0 < left → ¬ left ≤ last - tradeBuilderExitRetryMinDecrement

/-- No more than is requested and visible is taken, and the retries do as they should. -/
structure ExitQtyLaw (order : ExitSell) (requestedQty : ℚ) (visibleQty : Option ℚ) : Prop where
  clamped : ∀ qty, clampTradeBuilderVisibleShareQty requestedQty visibleQty = some qty →
    qty ≤ requestedQty ∧ ∀ visible ∈ visibleQty, qty ≤ visible
  resolved : ∀ resolution,
    resolveTradeBuilderExitInventory order requestedQty visibleQty = some resolution →
      resolution.submitQty ≤ requestedQty
  retries : RetryChainLaw requestedQty

/-- The fallback of a latched stop loss is used, and it rounds a requested quantity up. -/
def FallbackRoundsUp (order : ExitSell) (requestedQty : ℚ) (visibleQty : Option ℚ) : Prop :=
  (visibleQty.map (min requestedQty)).getD requestedQty < 1 / 100 ∧
    tradeBuilderStopLossLatched order.toTradeBuilderOrder = true ∧
    tradeBuilderIsChildExitSell order.toTradeBuilderOrder = true ∧ order.sizeBasis = .shares ∧
    0 < requestedQty ∧ requestedQty < roundTradeBuilderShareQty requestedQty ∧
    ∃ grossQty ∈ order.targetQty, 0 < grossQty ∧ 0 < order.sizeUsdc ∧
      requestedQty < estimatedVisibleQty grossQty (min 1 (order.sizeUsdc / grossQty))
        (tradeBuilderFeeRateBpsOrDefault order.feeRateBps)

/-! ### Rounding down -/

theorem floorTradeBuilderShareQty_eq (value : ℚ) :
    floorTradeBuilderShareQty value = gridFloor 100 0 (max value 0) := by
  rw [floorTradeBuilderShareQty, gridFloor, add_zero]

theorem floorTradeBuilderShareQty_max (value : ℚ) :
    floorTradeBuilderShareQty (max value 0) = floorTradeBuilderShareQty value := by
  rw [floorTradeBuilderShareQty, max_assoc, max_self, floorTradeBuilderShareQty]

theorem floorTradeBuilderShareQty_onGrid (value : ℚ) :
    OnGrid 100 (floorTradeBuilderShareQty value) := ⟨_, rfl⟩

theorem le_floorTradeBuilderShareQty_iff {qty : ℚ} (hqty : OnGrid 100 qty) (value : ℚ) :
    qty ≤ floorTradeBuilderShareQty value ↔ qty ≤ max value 0 := by
  rw [floorTradeBuilderShareQty_eq, hqty.le_gridFloor_iff (by norm_num), zero_div, add_zero]

theorem onGrid_cent : OnGrid 100 (1 / 100 : ℚ) := ⟨1, by norm_num⟩

theorem floorTradeBuilderShareQty_pos_iff (value : ℚ) :
    0 < floorTradeBuilderShareQty value ↔ 1 / 100 ≤ value := by
  have hcent : 1 / 100 ≤ floorTradeBuilderShareQty value ↔ 1 / 100 ≤ value := by
    rw [le_floorTradeBuilderShareQty_iff onGrid_cent, le_max_iff]
    exact or_iff_left (by norm_num)
  rw [← hcent]
  constructor
  · exact (floorTradeBuilderShareQty_onGrid value).step_le (by norm_num)
  · exact fun h => lt_of_lt_of_le (by norm_num) h

theorem floorTradeBuilderShareQty_le {value : ℚ} (h : 0 < floorTradeBuilderShareQty value) :
    floorTradeBuilderShareQty value ≤ value := by
  have hle := (le_floorTradeBuilderShareQty_iff (floorTradeBuilderShareQty_onGrid value) value).mp
    le_rfl
  have hvalue := (floorTradeBuilderShareQty_pos_iff value).mp h
  rwa [max_eq_left (by linarith)] at hle

/-! ### Retries -/

theorem cent_le_round {difference : ℚ} (h : 1 / 100 ≤ difference) :
    1 / 100 ≤ roundTradeBuilderShareQty difference := by
  have hfloor : 1 ≤ ⌊max difference 0 * 100 + 1 / 2⌋ := by
    rw [Int.le_floor, max_eq_left (by linarith)]
    push_cast
    linarith
  unfold roundTradeBuilderShareQty
  have hcast : (1 : ℚ) ≤ ⌊max difference 0 * 100 + 1 / 2⌋ := by exact_mod_cast hfloor
  linarith

theorem tradeBuilderNextRetryShareQty_eq (qty : ℚ) :
    tradeBuilderNextRetryShareQty qty = if 2 / 100 ≤ qty then
      some (floorTradeBuilderShareQty (qty - tradeBuilderExitRetryMinDecrement)) else none := by
  have hpos := floorTradeBuilderShareQty_pos_iff (qty - tradeBuilderExitRetryMinDecrement)
  have hdecrement : tradeBuilderExitRetryMinDecrement = 1 / 100 := rfl
  rw [tradeBuilderNextRetryShareQty, floorTradeBuilderShareQty_max]
  unfold tradeBuilderRetryQtyIsLower
  split_ifs with hlower henough henough
  · rfl
  · simp only [Bool.and_eq_true, decide_eq_true_eq] at hlower
    have hcent := hpos.mp hlower.1.1
    linarith
  · have hshaved := hpos.mpr (by linarith)
    have hle := floorTradeBuilderShareQty_le hshaved
    have hround := cent_le_round (show 1 / 100 ≤
      qty - floorTradeBuilderShareQty (qty - tradeBuilderExitRetryMinDecrement) by linarith)
    refine absurd ?_ hlower
    simp only [Bool.and_eq_true, decide_eq_true_eq]
    exact ⟨⟨hshaved, by linarith⟩, hround⟩
  · rfl

theorem next_le {previous next : ℚ} (h : tradeBuilderNextRetryShareQty previous = some next) :
    next ≤ previous - tradeBuilderExitRetryMinDecrement := by
  rw [tradeBuilderNextRetryShareQty_eq] at h
  split_ifs at h with henough
  obtain rfl := Option.some.inj h
  refine floorTradeBuilderShareQty_le ((floorTradeBuilderShareQty_pos_iff _).mpr ?_)
  have hdecrement : tradeBuilderExitRetryMinDecrement = 1 / 100 := rfl
  linarith

theorem retryAfter_eq_none {n : ℕ} {qty : ℚ} (h : qty < (n + 2) / 100) :
    retryAfter (n + 1) qty = none := by
  induction n generalizing qty with
  | zero =>
    rw [retryAfter, tradeBuilderNextRetryShareQty_eq, if_neg, Option.bind_none]
    push_cast at h
    linarith
  | succ n ih =>
    rw [retryAfter]
    cases hnext : tradeBuilderNextRetryShareQty qty with
    | none => rfl
    | some next =>
      have hle := next_le hnext
      have hdecrement : tradeBuilderExitRetryMinDecrement = 1 / 100 := rfl
      refine ih ?_
      push_cast at h
      linarith

theorem retryChainLaw (qty : ℚ) : RetryChainLaw qty where
  decreases _ _ _ _ hnext := next_le hnext
  ends := by
    obtain ⟨n, hn⟩ := exists_nat_gt (qty * 100)
    refine ⟨n + 1, retryAfter_eq_none ?_⟩
    rw [lt_div_iff₀ (by norm_num)]
    linarith
  complete := by
    intro n last _ hlast left hleft hpos hle
    have hcent : 1 / 100 ≤ left := hleft.step_le (by norm_num) hpos
    have hdecrement : tradeBuilderExitRetryMinDecrement = 1 / 100 := rfl
    rw [tradeBuilderNextRetryShareQty_eq, if_pos (by linarith)] at hlast
    cases hlast

/-! ### Submitted quantities -/

theorem clamp_eq_none_iff (requestedQty : ℚ) (visibleQty : Option ℚ) :
    clampTradeBuilderVisibleShareQty requestedQty visibleQty = none ↔
      (visibleQty.map (min requestedQty)).getD requestedQty < 1 / 100 := by
  rw [← not_le, ← floorTradeBuilderShareQty_pos_iff]
  cases visibleQty <;> simp [clampTradeBuilderVisibleShareQty]

theorem clamp_le {requestedQty qty : ℚ} {visibleQty : Option ℚ}
    (h : clampTradeBuilderVisibleShareQty requestedQty visibleQty = some qty) :
    qty ≤ requestedQty ∧ ∀ visible ∈ visibleQty, qty ≤ visible := by
  unfold clampTradeBuilderVisibleShareQty at h
  dsimp only at h
  split_ifs at h with hpos
  obtain rfl := Option.some.inj h
  have hle := floorTradeBuilderShareQty_le hpos
  cases visibleQty with
  | none => exact ⟨hle, nofun⟩
  | some quantity =>
    refine ⟨hle.trans (min_le_left _ _), ?_⟩
    rintro visible ⟨rfl⟩
    exact hle.trans (min_le_right _ _)

theorem executionPrice_pos_iff {sizeUsdc grossQty : ℚ} (hgross : 0 < grossQty) :
    ¬ max 0 (min 1 (sizeUsdc / grossQty)) ≤ 0 ↔ 0 < sizeUsdc := by
  rw [not_le, lt_max_iff, lt_min_iff, div_pos_iff_of_pos_right hgross]
  simp

theorem executionPrice_eq {sizeUsdc grossQty : ℚ} (hgross : 0 < grossQty) (hsize : 0 < sizeUsdc) :
    max 0 (min 1 (sizeUsdc / grossQty)) = min 1 (sizeUsdc / grossQty) :=
  max_eq_right (le_min zero_le_one (div_pos hsize hgross).le)

theorem fallback_eq_some_iff (order : ExitSell) (requestedQty submitQty : ℚ) :
    (∃ fallback, tradeBuilderLocalInventoryFallback order requestedQty = some fallback ∧
        fallback.submitQty = submitQty) ↔
      tradeBuilderStopLossLatched order.toTradeBuilderOrder = true ∧
        tradeBuilderIsChildExitSell order.toTradeBuilderOrder = true ∧ order.sizeBasis = .shares ∧
        0 < submitQty ∧ ∃ grossQty ∈ order.targetQty, 0 < grossQty ∧ 0 < order.sizeUsdc ∧
          submitQty = roundTradeBuilderShareQty (min
            (estimatedVisibleQty grossQty (min 1 (order.sizeUsdc / grossQty))
              (tradeBuilderFeeRateBpsOrDefault order.feeRateBps)) requestedQty) := by
  unfold tradeBuilderLocalInventoryFallback tradeBuilderEstimatedVisibleExitQty
  constructor
  · rintro ⟨fallback, h, rfl⟩
    split_ifs at h with hlatched hchild
    obtain ⟨grossQty, hgross, h⟩ := Option.bind_eq_some_iff.mp h
    obtain ⟨htarget, hpos⟩ := Option.filter_eq_some_iff.mp hgross
    rw [decide_eq_true_eq] at hpos
    dsimp only at h
    split_ifs at h with hprice hsubmit
    obtain rfl := Option.some.inj h
    have hsize := (executionPrice_pos_iff hpos).mp hprice
    simp only [Bool.or_eq_true, Bool.not_eq_true', decide_eq_true_eq, not_or, Bool.not_eq_false,
      ne_eq, not_not] at hchild
    refine ⟨hlatched, hchild.1, hchild.2, hsubmit, grossQty, htarget, hpos, hsize, ?_⟩
    rw [executionPrice_eq hpos hsize]
  · rintro ⟨hlatched, hchild, hbasis, hsubmit, grossQty, htarget, hpos, hsize, rfl⟩
    have hprice := (executionPrice_pos_iff hpos).mpr hsize
    rw [if_pos hlatched, hchild, hbasis, show order.targetQty = some grossQty from htarget]
    simp only [Bool.not_true, ne_eq, not_true_eq_false, decide_false, Bool.or_self,
      Bool.false_eq_true, if_false, Option.filter_some, hpos, decide_true, if_true,
      Option.bind_some, hprice]
    rw [executionPrice_eq hpos hsize, if_pos hsubmit]
    exact ⟨_, rfl, rfl⟩

theorem resolve_eq_some_iff (order : ExitSell) (requestedQty : ℚ) (visibleQty : Option ℚ)
    (submitQty : ℚ) :
    (∃ resolution, resolveTradeBuilderExitInventory order requestedQty visibleQty =
        some resolution ∧ resolution.submitQty = submitQty) ↔
      clampTradeBuilderVisibleShareQty requestedQty visibleQty = some submitQty ∨
        clampTradeBuilderVisibleShareQty requestedQty visibleQty = none ∧
          ∃ fallback, tradeBuilderLocalInventoryFallback order requestedQty = some fallback ∧
            fallback.submitQty = submitQty := by
  unfold resolveTradeBuilderExitInventory
  cases clampTradeBuilderVisibleShareQty requestedQty visibleQty with
  | some qty => simp
  | none => simp [Option.map_eq_some_iff]

theorem estimated_round_le {requestedQty estimated : ℚ} (hestimated : OnGrid 100 estimated)
    (hnonneg : 0 ≤ estimated)
    (h : requestedQty < estimated → ¬ requestedQty < roundTradeBuilderShareQty requestedQty) :
    roundTradeBuilderShareQty (min estimated requestedQty) ≤ requestedQty := by
  obtain hle | hlt := le_or_gt estimated requestedQty
  · rwa [min_eq_left hle, round_of_onGrid hestimated hnonneg]
  · rw [min_eq_right hlt.le]
    exact not_lt.mp (h hlt)

/-- Nothing above the request or the visible inventory is submitted, unless the estimate stands
in for inventory that is not visible and rounds the request up; the retries always do as they
should. -/
theorem exit_qty_law_iff (order : ExitSell) (requestedQty : ℚ) (visibleQty : Option ℚ) :
    ExitQtyLaw order requestedQty visibleQty ↔
      ¬ FallbackRoundsUp order requestedQty visibleQty := by
  constructor
  · rintro hlaw ⟨hclamp, hlatched, hchild, hbasis, hrequested, hround, grossQty, htarget, hgross,
      hsize, hmore⟩
    obtain ⟨resolution, hresolution, hsubmit⟩ := (resolve_eq_some_iff order requestedQty visibleQty
      (roundTradeBuilderShareQty requestedQty)).mpr (.inr ⟨(clamp_eq_none_iff _ _).mpr hclamp,
        (fallback_eq_some_iff _ _ _).mpr ⟨hlatched, hchild, hbasis, hrequested.trans hround,
          grossQty, htarget, hgross, hsize, by rw [min_eq_right hmore.le]⟩⟩)
    have hle := hlaw.resolved resolution hresolution
    rw [hsubmit] at hle
    exact hround.not_ge hle
  · intro h
    refine ⟨fun _ => clamp_le, fun resolution hresolution => ?_, retryChainLaw requestedQty⟩
    obtain hclamp | ⟨hclamp, hfallback⟩ := (resolve_eq_some_iff order requestedQty visibleQty
      resolution.submitQty).mp ⟨resolution, hresolution, rfl⟩
    · exact (clamp_le hclamp).1
    · obtain ⟨hlatched, hchild, hbasis, hsubmit, grossQty, htarget, hgross, hsize, heq⟩ :=
        (fallback_eq_some_iff _ _ _).mp hfallback
      rw [heq] at hsubmit ⊢
      refine estimated_round_le (roundTradeBuilderShareQty_onGrid _)
        (roundTradeBuilderShareQty_nonneg _) fun hmore hround => h ?_
      rw [min_eq_right hmore.le] at hsubmit
      refine ⟨(clamp_eq_none_iff _ _).mp hclamp, hlatched, hchild, hbasis, ?_, hround, grossQty,
        htarget, hgross, hsize, hmore⟩
      by_contra hnegative
      rw [← roundTradeBuilderShareQty_max, max_eq_right (not_lt.mp hnegative)] at hsubmit
      norm_num [roundTradeBuilderShareQty] at hsubmit

/-- A latched stop loss of five shares and a fraction, none of them visible. -/
def fractionalStopLoss : ExitSell where
  kind := .conditional
  side := .sell
  sizeBasis := .shares
  triggerCondition := some .crossBelow
  parentOrderId := some 9
  targetQty := some 20
  sizeUsdc := 10
  triggerLatched := true
  triggerLatchedReason := some "stop_loss"
  feeRateBps := 1000

theorem fraction_rounded_up : ¬ ExitQtyLaw fractionalStopLoss (5006 / 1000) (some 0) := by
  intro hlaw
  have hmore : (resolveTradeBuilderExitInventory fractionalStopLoss (5006 / 1000) (some 0)).any
      (fun resolution => decide (5006 / 1000 < resolution.submitQty)) = true := by
    decide +kernel
  obtain ⟨resolution, hresolution, hlt⟩ := (Option.any_eq_true _ _).mp hmore
  exact (hlaw.resolved resolution hresolution).not_gt (of_decide_eq_true hlt)

end PolymarketBot.Positions
