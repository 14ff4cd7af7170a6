import PolymarketBot.Builder.Preemption
import PolymarketBot.Flow.Json

/-! The four paths that judge an armed exit by its price: the tick of a token, the pass over the
dirty tokens, the batch of a parent's exits, and the pass of the housekeeping loop. -/

namespace PolymarketBot.ExitLadders
open Builder
open PriceToBeat (PtbStopLossEvaluation)

structure ExitOrder extends TradeBuilderOrder where
  userId : ℤ := 1
  slTriggerPriceMode : Option SlTriggerPriceMode := none
  deriving DecidableEq

structure MarketDataSnapshot where
  bestBid : Option ℚ
  bestAsk : Option ℚ
  lastTradePrice : Option ℚ

def buildTradeBuilderRuntimePriceFromMarketSnapshot (snapshot : MarketDataSnapshot) :
    Option RuntimePrice :=
  let bestBid := snapshot.bestBid.map clampProbability
  let lastTradePrice := snapshot.lastTradePrice.map clampProbability
  (bestBid.or lastTradePrice).map fun price => { price, bestBid, lastTradePrice }

/-- The market as an order sees it with its own mode. -/
def ExitOrder.view (order : ExitOrder) (runtimePrice : RuntimePrice) : MarketView where
  runtimePrice := runtimePrice
  slTriggerPriceMode _ := order.slTriggerPriceMode

section Order
variable (order : ExitOrder) (runtimePrice : RuntimePrice)

def triggerEvalPrice : ℚ :=
  tradeBuilderTriggerEvalPriceForOrder order.toTradeBuilderOrder (order.view runtimePrice)

def isStopLoss : Bool := tradeBuilderIsStopLossChild order.toTradeBuilderOrder

def sourceMissing : Bool :=
  triggerSourceMissing order.toTradeBuilderOrder (order.view runtimePrice)

def shouldTrigger : Bool :=
  (evaluateTradeBuilderOrderTrigger order.toTradeBuilderOrder order.lastSeenPrice
    (triggerEvalPrice order runtimePrice)).shouldTrigger

/-- The composite bid has not confirmed the stop loss. -/
def bidUnconfirmed : Bool :=
  shouldSkipTradeBuilderCompositeSlBidConfirmation order.toTradeBuilderOrder
    (order.view runtimePrice)

end Order

/-! ### The tick of a token -/

structure TickTrigger where
  orderId : ℤ
  userId : ℤ
  tokenId : String
  triggerPrice : ℚ
  tickPrice : ℚ
  triggerKind : String
  deriving DecidableEq

def tickTriggerKind (order : ExitOrder) : Option String :=
  match order.triggerCondition with
  | some .crossBelow => some "sl"
  | some .crossAbove => some "tp"
  | _ => none

def tickTriggerEvalPrice (order : ExitOrder) (snapshot : MarketDataSnapshot) : Option ℚ := do
  let runtimePrice ← buildTradeBuilderRuntimePriceFromMarketSnapshot snapshot
  match order.slTriggerPriceMode.filter fun _ => isStopLoss order with
  | some mode => slTriggerEvalPriceForMode mode runtimePrice
  | none => some (triggerEvalPrice order runtimePrice)

def tickTriggerOf (tokenId : String) (snapshot : MarketDataSnapshot) (order : ExitOrder) :
    Option TickTrigger := do
  if tradeBuilderIsChildExitSell order.toTradeBuilderOrder then
    let triggerKind ← tickTriggerKind order
    let triggerPrice ← order.triggerPrice
    let tickPrice ← tickTriggerEvalPrice order snapshot
    if (evaluateTradeBuilderOrderTrigger order.toTradeBuilderOrder order.lastSeenPrice
        tickPrice).shouldTrigger then
      some ⟨order.id, order.userId, tokenId, triggerPrice, tickPrice, triggerKind⟩
    else none
  else none

/-- `orders` are those the cache of the armed orders holds for the token. -/
def evaluateTickTriggersForToken (tokenId : String) (snapshot : MarketDataSnapshot)
    (orders : List ExitOrder) : List TickTrigger :=
  orders.filterMap (tickTriggerOf tokenId snapshot)

/-! ### The pass over the dirty tokens -/

/-- What a child exit keeps as its last seen price, that it would be sold at. -/
def fastExecutionPriceForSell (runtimePrice : RuntimePrice) : ℚ :=
  clampProbability ((runtimePrice.bestBid.or runtimePrice.lastTradePrice).getD runtimePrice.price)

def compositeBidConfirmationWaiting (order : ExitOrder) : Bool :=
  order.lastError == some { reason := "composite_bid_confirmation_waiting" }

structure DirtyTokenEvaluation where
  triggeredOrderIds : List ℤ := []
  lastSeenUpdates : List (ℤ × ℚ) := []
  compositeBidEntering : List ℤ := []
  compositeBidReleasing : List ℤ := []
  selectedSourceMissingCount : ℕ := 0
  evaluatedOrderCount : ℕ := 0

def evaluateArmedOrder (runtimePrice : RuntimePrice) (evaluation : DirtyTokenEvaluation)
    (order : ExitOrder) : DirtyTokenEvaluation :=
  if sourceMissing order runtimePrice then
    { evaluation with selectedSourceMissingCount := evaluation.selectedSourceMissingCount + 1 }
  else
    let evaluation :=
      { evaluation with evaluatedOrderCount := evaluation.evaluatedOrderCount + 1 }
    let seen :=
      { evaluation with
        lastSeenUpdates :=
          evaluation.lastSeenUpdates ++ [(order.id, fastExecutionPriceForSell runtimePrice)] }
    if shouldTrigger order runtimePrice then
      if bidUnconfirmed order runtimePrice then
        if compositeBidConfirmationWaiting order then seen
        else { seen with compositeBidEntering := seen.compositeBidEntering ++ [order.id] }
      else { evaluation with triggeredOrderIds := evaluation.triggeredOrderIds ++ [order.id] }
    else if compositeBidConfirmationWaiting order then
      { seen with compositeBidReleasing := seen.compositeBidReleasing ++ [order.id] }
    else seen

/-- `evaluate_armed_builder_orders_for_dirty_tokens`, for the orders of one of the tokens. -/
def evaluateArmedBuilderOrders (snapshot : MarketDataSnapshot) (orders : List ExitOrder) :
    DirtyTokenEvaluation :=
  match buildTradeBuilderRuntimePriceFromMarketSnapshot snapshot with
  | none => {}
  | some runtimePrice => orders.foldl (evaluateArmedOrder runtimePrice) {}

/-! ### The batch of a parent's exits -/

structure ParallelExitBatchSelection where
  eligibleOrderIds : List ℤ
  selectedOrderIds : List ℤ
  stopLossOrderIds : List ℤ
  takeProfitOrderIds : List ℤ
  deferredOrderIds : List ℤ

def tradeBuilderIsPriceExitLadderChild (order : ExitOrder) : Bool :=
  (order.exitLadderKind.map Flow.trim).any fun kind =>
    kind == "tp" || kind == "sl" || kind == "ptb_sl"

def tradeBuilderIsParallelExitBatchCandidate (order : ExitOrder) : Bool :=
  tradeBuilderIsPriceExitLadderChild order &&
    tradeBuilderIsChildExitSell order.toTradeBuilderOrder && order.parentOrderId.isSome &&
    order.activeExchangeOrderId.isNone && order.status != .canceledRequested &&
    !tradeBuilderIsTerminalStatus order.status && order.triggerCondition.isSome &&
    order.triggerPrice.isSome

/-- A candidate that the batch finds triggered. -/
def batchTriggered (runtimePrice : RuntimePrice) (order : ExitOrder) : Bool :=
  !sourceMissing order runtimePrice && shouldTrigger order runtimePrice &&
    !bidUnconfirmed order runtimePrice

def tradeBuilderParallelExitBatchSelection (orders : List ExitOrder)
    (runtimePrice : RuntimePrice) : ParallelExitBatchSelection :=
  let candidates := (orders.filter tradeBuilderIsParallelExitBatchCandidate).insertionSort
    fun a b => a.id ≤ b.id
  let triggered := candidates.filter (batchTriggered runtimePrice)
  let stopLossOrderIds := (triggered.filter isStopLoss).map (·.id)
  let takeProfitOrderIds := (triggered.filter fun order => !isStopLoss order &&
    tradeBuilderIsTakeProfitChild order.toTradeBuilderOrder).map (·.id)
  { eligibleOrderIds := stopLossOrderIds ++ takeProfitOrderIds
    selectedOrderIds :=
      if stopLossOrderIds.isEmpty then takeProfitOrderIds else stopLossOrderIds
    stopLossOrderIds, takeProfitOrderIds
    deferredOrderIds := if stopLossOrderIds.isEmpty then [] else takeProfitOrderIds }

/-! ### The pass of the housekeeping loop -/

/-- What else a stop loss may be judged by: the gap of a live price, the price to beat, and the
book that leads it. -/
structure StopLossInputs where
  liveGap : ExitOrder → Option Bool := fun _ => none
  ptbInputs : ExitOrder → PtbStopLossEvaluation := fun _ => {}
  ptbOracleLag : ExitOrder → Bool := fun _ => false

/-- A stop loss with a live gap or a price to beat is judged by these. -/
def specialTrigger (inputs : StopLossInputs) (order : ExitOrder) : Option Bool :=
  if isStopLoss order then
    (inputs.liveGap order).or (order.ptbStopLossGapUsd.map fun _ =>
      inputs.ptbOracleLag order || (inputs.ptbInputs order).shouldTrigger)
  else none

/-- The trigger of an order that the pass gets to judge. -/
def housekeepingTriggered (inputs : StopLossInputs) (runtimePrice : RuntimePrice)
    (order : ExitOrder) : Bool :=
  if isStopLoss order && sourceMissing order runtimePrice then false
  else
    (specialTrigger inputs order).getD (shouldTrigger order runtimePrice) &&
      !bidUnconfirmed order runtimePrice

/-! ### Where the paths agree -/

/-- The armed exits that the cache holds for a token. -/
structure ArmedExits where
  tokenId : String
  orders : List ExitOrder
  ids : (orders.map (·.id)).Nodup
  armed : ∀ order ∈ orders, tradeBuilderOrderUsesWsFastPath order.toTradeBuilderOrder = true

inductive ExitPath | tick | dirtyTokens | batch | housekeeping

def ExitPath.Judges (inputs : StopLossInputs) (order : ExitOrder) : ExitPath → Prop
  | tick | dirtyTokens => True
  | batch => tradeBuilderIsParallelExitBatchCandidate order = true
  | housekeeping => specialTrigger inputs order = none

section Paths
variable (inputs : StopLossInputs) (snapshot : MarketDataSnapshot) (exits : ArmedExits)

def ExitPath.Triggers (id : ℤ) : ExitPath → Prop
  | tick =>
    id ∈ (evaluateTickTriggersForToken exits.tokenId snapshot exits.orders).map (·.orderId)
  | dirtyTokens => id ∈ (evaluateArmedBuilderOrders snapshot exits.orders).triggeredOrderIds
  | batch => ∃ runtimePrice ∈ buildTradeBuilderRuntimePriceFromMarketSnapshot snapshot,
    id ∈ (tradeBuilderParallelExitBatchSelection exits.orders runtimePrice).eligibleOrderIds
  | housekeeping => ∃ runtimePrice ∈ buildTradeBuilderRuntimePriceFromMarketSnapshot snapshot,
    id ∈ (exits.orders.filter (housekeepingTriggered inputs runtimePrice)).map (·.id)

/-- No path triggers what another one that judges it refuses. -/
def ExitPathsAgree : Prop :=
  ∀ order ∈ exits.orders, ∀ p q : ExitPath, p.Judges inputs order → q.Judges inputs order →
    (p.Triggers inputs snapshot exits order.id ↔ q.Triggers inputs snapshot exits order.id)

def stopLossSourceMissing (order : ExitOrder) (runtimePrice : RuntimePrice) : Bool :=
  isStopLoss order && sourceMissing order runtimePrice

/-- A triggered exit that is no take profit and no stop loss, a stop loss whose bid is not
confirmed, or a take profit with the mode of a stop loss that finds no price. -/
def Diverges (order : ExitOrder) (runtimePrice : RuntimePrice) : Prop :=
  shouldTrigger order runtimePrice = true ∧ stopLossSourceMissing order runtimePrice = false ∧
    (tickTriggerKind order = none ∨ bidUnconfirmed order runtimePrice = true ∨
      isStopLoss order = false ∧ sourceMissing order runtimePrice = true)

end Paths

/-! ### One order -/

section Order
variable {order : ExitOrder} {runtimePrice : RuntimePrice}

theorem isStopLoss_of_kind (hexit : tradeBuilderIsChildExitSell order.toTradeBuilderOrder = true) :
    isStopLoss order = (order.triggerCondition == some .crossBelow) := by
  rw [isStopLoss, tradeBuilderIsStopLossChild, hexit, Bool.true_and]

theorem isTakeProfit_of_kind
    (hexit : tradeBuilderIsChildExitSell order.toTradeBuilderOrder = true) :
    tradeBuilderIsTakeProfitChild order.toTradeBuilderOrder =
      (order.triggerCondition == some .crossAbove) := by
  rw [tradeBuilderIsTakeProfitChild, hexit, Bool.true_and]

theorem childExit_of_armed
    (harmed : tradeBuilderOrderUsesWsFastPath order.toTradeBuilderOrder = true) :
    tradeBuilderIsChildExitSell order.toTradeBuilderOrder = true := by
  simp only [tradeBuilderOrderUsesWsFastPath, Bool.and_eq_true] at harmed
  rw [tradeBuilderIsChildExitSell, harmed.1.1.1.1.1, harmed.1.1.1.1.2, harmed.1.1.1.2]
  rfl

theorem triggerPrice_of_armed
    (harmed : tradeBuilderOrderUsesWsFastPath order.toTradeBuilderOrder = true) :
    ∃ triggerPrice, order.triggerPrice = some triggerPrice := by
  simp only [tradeBuilderOrderUsesWsFastPath, Bool.and_eq_true] at harmed
  exact Option.isSome_iff_exists.mp harmed.2

theorem tickTriggerKind_isSome
    (hexit : tradeBuilderIsChildExitSell order.toTradeBuilderOrder = true) :
    (tickTriggerKind order).isSome = (isStopLoss order || !isStopLoss order &&
      tradeBuilderIsTakeProfitChild order.toTradeBuilderOrder) := by
  rw [isStopLoss_of_kind hexit, isTakeProfit_of_kind hexit]
  unfold tickTriggerKind
  cases order.triggerCondition with
  | none => rfl
  | some condition => cases condition <;> rfl

theorem modePrice_eq {mode : SlTriggerPriceMode} (hsl : order.slTriggerPriceMode = some mode)
    (hstop : isStopLoss order = true)
    (hfast : tradeBuilderUsesFastRuntimePricing order.toTradeBuilderOrder = true) :
    slTriggerEvalPriceForMode mode runtimePrice =
      if stopLossSourceMissing order runtimePrice then none
      else some (triggerEvalPrice order runtimePrice) := by
  have hmissing : stopLossSourceMissing order runtimePrice =
      (slTriggerEvalPriceForMode mode runtimePrice).isNone := by
    rw [stopLossSourceMissing, hstop, Bool.true_and, sourceMissing, triggerSourceMissing]
    change order.slTriggerPriceMode.any _ = _
    rw [hsl]
    rfl
  have hmode : order.slTriggerPriceMode.filter (fun _ => isStopLoss order) = some mode :=
    Option.filter_eq_some_iff.mpr ⟨hsl, hstop⟩
  have heval : triggerEvalPrice order runtimePrice =
      (slTriggerEvalPriceForMode mode runtimePrice).getD runtimePrice.price := by
    rw [triggerEvalPrice, tradeBuilderTriggerEvalPriceForOrder, if_pos hfast]
    change (match order.slTriggerPriceMode.filter fun _ => isStopLoss order with
      | some mode => (slTriggerEvalPriceForMode mode runtimePrice).getD runtimePrice.price
      | none => _) = _
    rw [hmode]
  rw [hmissing, heval]
  cases slTriggerEvalPriceForMode mode runtimePrice <;> rfl

theorem modeless_source_present
    (hmode : order.slTriggerPriceMode.filter (fun _ => isStopLoss order) = none) :
    stopLossSourceMissing order runtimePrice = false := by
  rw [stopLossSourceMissing, sourceMissing, triggerSourceMissing]
  rw [Option.filter_eq_none_iff] at hmode
  change (isStopLoss order && order.slTriggerPriceMode.any _) = false
  cases hsl : order.slTriggerPriceMode with
  | none => simp
  | some mode => simp [hmode mode hsl]

theorem tickTriggerEvalPrice_eq {snapshot : MarketDataSnapshot}
    (hprice : buildTradeBuilderRuntimePriceFromMarketSnapshot snapshot = some runtimePrice)
    (hexit : tradeBuilderIsChildExitSell order.toTradeBuilderOrder = true) :
    tickTriggerEvalPrice order snapshot =
      if stopLossSourceMissing order runtimePrice then none
      else some (triggerEvalPrice order runtimePrice) := by
  have hfast : tradeBuilderUsesFastRuntimePricing order.toTradeBuilderOrder = true := by
    rw [tradeBuilderUsesFastRuntimePricing, hexit, Bool.true_or]
  rw [tickTriggerEvalPrice, hprice]
  dsimp only [Option.bind_eq_bind, Option.bind_some]
  cases hmode : order.slTriggerPriceMode.filter fun _ => isStopLoss order with
  | none =>
    rw [modeless_source_present hmode]
    rfl
  | some mode =>
    obtain ⟨hsl, hstop⟩ := Option.filter_eq_some_iff.mp hmode
    exact modePrice_eq hsl hstop hfast

theorem tickTriggerOf_isSome {tokenId : String} {snapshot : MarketDataSnapshot}
    (hprice : buildTradeBuilderRuntimePriceFromMarketSnapshot snapshot = some runtimePrice)
    (harmed : tradeBuilderOrderUsesWsFastPath order.toTradeBuilderOrder = true) :
    (tickTriggerOf tokenId snapshot order).isSome =
      ((tickTriggerKind order).isSome && !stopLossSourceMissing order runtimePrice &&
        shouldTrigger order runtimePrice) := by
  have hexit := childExit_of_armed harmed
  obtain ⟨triggerPrice, htrigger⟩ := triggerPrice_of_armed harmed
  rw [tickTriggerOf, if_pos hexit, htrigger, tickTriggerEvalPrice_eq hprice hexit, shouldTrigger]
  cases tickTriggerKind order with
  | none => rfl
  | some kind =>
    cases stopLossSourceMissing order runtimePrice with
    | true => rfl
    | false =>
      simp only [Option.bind_eq_bind, Option.bind_some, Bool.false_eq_true, if_false]
      split_ifs with htriggers
      · simp [htriggers]
      · simp [htriggers]

theorem tickTriggerOf_unpriced {tokenId : String} {snapshot : MarketDataSnapshot}
    (hprice : buildTradeBuilderRuntimePriceFromMarketSnapshot snapshot = none)
    (hexit : tradeBuilderIsChildExitSell order.toTradeBuilderOrder = true) :
    tickTriggerOf tokenId snapshot order = none := by
  have heval : tickTriggerEvalPrice order snapshot = none := by
    rw [tickTriggerEvalPrice, hprice]
    rfl
  rw [tickTriggerOf, if_pos hexit, heval]
  simp

def ExitPath.decides (inputs : StopLossInputs) (runtimePrice : RuntimePrice) (order : ExitOrder) :
    ExitPath → Bool
  | tick => (tickTriggerKind order).isSome && !stopLossSourceMissing order runtimePrice &&
    shouldTrigger order runtimePrice
  | dirtyTokens => batchTriggered runtimePrice order
  | batch => batchTriggered runtimePrice order && (tickTriggerKind order).isSome
  | housekeeping => housekeepingTriggered inputs runtimePrice order

theorem isStopLoss_of_bidUnconfirmed (h : bidUnconfirmed order runtimePrice = true) :
    isStopLoss order = true := by
  unfold bidUnconfirmed shouldSkipTradeBuilderCompositeSlBidConfirmation at h
  split_ifs at h with hstop
  exact hstop.1

theorem tickTriggerKind_of_isStopLoss (h : isStopLoss order = true) :
    (tickTriggerKind order).isSome = true := by
  have hexit : tradeBuilderIsChildExitSell order.toTradeBuilderOrder = true := by
    rw [isStopLoss, tradeBuilderIsStopLossChild, Bool.and_eq_true] at h
    exact h.1
  rw [tickTriggerKind_isSome hexit, h, Bool.true_or]

theorem specialTrigger_of_not_isStopLoss (inputs : StopLossInputs)
    (h : isStopLoss order = false) : specialTrigger inputs order = none := by
  rw [specialTrigger, h]
  rfl

theorem decides_of_not_diverges {inputs : StopLossInputs} {path : ExitPath}
    (h : ¬ Diverges order runtimePrice) (hjudges : path.Judges inputs order) :
    path.decides inputs runtimePrice order =
      (shouldTrigger order runtimePrice && !stopLossSourceMissing order runtimePrice) := by
  unfold Diverges at h
  cases htrigger : shouldTrigger order runtimePrice with
  | false =>
    cases path with
    | tick => simp [ExitPath.decides, htrigger]
    | dirtyTokens => simp [ExitPath.decides, batchTriggered, htrigger]
    | batch => simp [ExitPath.decides, batchTriggered, htrigger]
    | housekeeping =>
      rw [ExitPath.decides, housekeepingTriggered, show specialTrigger inputs order = none from
        hjudges]
      simp [htrigger]
  | true =>
    cases hmissing : stopLossSourceMissing order runtimePrice with
    | true =>
      have hsource := hmissing
      rw [stopLossSourceMissing, Bool.and_eq_true] at hsource
      cases path with
      | tick => simp [ExitPath.decides, hmissing]
      | dirtyTokens => simp [ExitPath.decides, batchTriggered, hsource.2]
      | batch => simp [ExitPath.decides, batchTriggered, hsource.2]
      | housekeeping => simp [ExitPath.decides, housekeepingTriggered, hsource.1, hsource.2]
    | false =>
      simp only [htrigger, hmissing, true_and, not_or, not_and, Bool.not_eq_true] at h
      obtain ⟨hkind, hconfirmed, hsource⟩ := h
      have hkind : (tickTriggerKind order).isSome = true := Option.isSome_iff_ne_none.mpr hkind
      have hsource : sourceMissing order runtimePrice = false := by
        cases hstop : isStopLoss order with
        | true => rwa [stopLossSourceMissing, hstop, Bool.true_and] at hmissing
        | false => exact hsource hstop
      cases path with
      | tick => simp [ExitPath.decides, hkind, hmissing, htrigger]
      | dirtyTokens => simp [ExitPath.decides, batchTriggered, hsource, htrigger, hconfirmed]
      | batch => simp [ExitPath.decides, batchTriggered, hsource, htrigger, hconfirmed, hkind]
      | housekeeping =>
        rw [ExitPath.decides, housekeepingTriggered, show specialTrigger inputs order = none from
          hjudges]
        simp [hsource, htrigger, hconfirmed]

/-- An order that diverges is triggered by the tick and refused over the dirty tokens, or
triggered by the housekeeping loop and refused by the tick, or both. -/
theorem decides_of_diverges {inputs : StopLossInputs} (h : Diverges order runtimePrice) :
    ∃ p q : ExitPath, p.Judges inputs order ∧ q.Judges inputs order ∧
      p.decides inputs runtimePrice order = true ∧
        q.decides inputs runtimePrice order = false := by
  obtain ⟨htrigger, hmissing, hdiverges⟩ := h
  by_cases hunconfirmed : bidUnconfirmed order runtimePrice = true
  · have hkind := tickTriggerKind_of_isStopLoss (isStopLoss_of_bidUnconfirmed hunconfirmed)
    refine ⟨.tick, .dirtyTokens, trivial, trivial, ?_, ?_⟩
    · simp [ExitPath.decides, hkind, hmissing, htrigger]
    · simp [ExitPath.decides, batchTriggered, hunconfirmed]
  · have hconfirmed := Bool.eq_false_iff.mpr hunconfirmed
    have hnoStop : isStopLoss order = false := by
      obtain hkind | hunconfirmed' | ⟨hstop, -⟩ := hdiverges
      · by_contra hstop
        have hsome := tickTriggerKind_of_isStopLoss (Bool.not_eq_false _ ▸ hstop)
        rw [hkind] at hsome
        cases hsome
      · exact absurd hunconfirmed' hunconfirmed
      · exact hstop
    have hspecial := specialTrigger_of_not_isStopLoss inputs hnoStop
    have hhousekeeping : ExitPath.housekeeping.decides inputs runtimePrice order = true := by
      rw [ExitPath.decides, housekeepingTriggered, hspecial]
      simp [hnoStop, htrigger, hconfirmed]
    obtain hkind | hunconfirmed' | ⟨-, hsource⟩ := hdiverges
    · refine ⟨.housekeeping, .tick, hspecial, trivial, hhousekeeping, ?_⟩
      simp [ExitPath.decides, hkind]
    · exact absurd hunconfirmed' hunconfirmed
    · refine ⟨.housekeeping, .dirtyTokens, hspecial, trivial, hhousekeeping, ?_⟩
      simp [ExitPath.decides, batchTriggered, hsource]

end Order

/-! ### The orders of a token -/

theorem map_orderId_filterMap (tokenId : String) (snapshot : MarketDataSnapshot)
    (orders : List ExitOrder) :
    (evaluateTickTriggersForToken tokenId snapshot orders).map (·.orderId) =
      (orders.filter fun order => (tickTriggerOf tokenId snapshot order).isSome).map (·.id) := by
  have horder {order : ExitOrder} {trigger : TickTrigger}
      (h : tickTriggerOf tokenId snapshot order = some trigger) : trigger.orderId = order.id := by
    unfold tickTriggerOf at h
    split_ifs at h
    obtain ⟨kind, -, h⟩ := Option.bind_eq_some_iff.mp h
    obtain ⟨price, -, h⟩ := Option.bind_eq_some_iff.mp h
    obtain ⟨tickPrice, -, h⟩ := Option.bind_eq_some_iff.mp h
    split_ifs at h
    obtain rfl := Option.some.inj h
    rfl
  unfold evaluateTickTriggersForToken
  induction orders with
  | nil => rfl
  | cons order orders ih =>
    cases htrigger : tickTriggerOf tokenId snapshot order with
    | none => simp [htrigger, ih]
    | some trigger => simp [htrigger, ih, horder htrigger]

theorem evaluateArmedOrder_triggered (runtimePrice : RuntimePrice)
    (evaluation : DirtyTokenEvaluation) (order : ExitOrder) :
    (evaluateArmedOrder runtimePrice evaluation order).triggeredOrderIds =
      evaluation.triggeredOrderIds ++
        ([order].filter (batchTriggered runtimePrice)).map (·.id) := by
  unfold evaluateArmedOrder
  cases hsource : sourceMissing order runtimePrice with
  | true => simp [batchTriggered, hsource]
  | false =>
    cases htrigger : shouldTrigger order runtimePrice with
    | false =>
      cases compositeBidConfirmationWaiting order <;> simp [batchTriggered, htrigger]
    | true =>
      cases hbid : bidUnconfirmed order runtimePrice with
      | false => simp [batchTriggered, hsource, htrigger, hbid]
      | true => cases compositeBidConfirmationWaiting order <;> simp [batchTriggered, hbid]

theorem evaluateArmedOrders_triggered (runtimePrice : RuntimePrice) (orders : List ExitOrder)
    (evaluation : DirtyTokenEvaluation) :
    (orders.foldl (evaluateArmedOrder runtimePrice) evaluation).triggeredOrderIds =
      evaluation.triggeredOrderIds ++ (orders.filter (batchTriggered runtimePrice)).map (·.id) := by
  induction orders generalizing evaluation with
  | nil => simp
  | cons order orders ih =>
    rw [List.foldl_cons, ih, evaluateArmedOrder_triggered, List.append_assoc, ← List.map_append,
      ← List.filter_append, List.singleton_append]

theorem mem_eligibleOrderIds {orders : List ExitOrder} {runtimePrice : RuntimePrice} {id : ℤ} :
    id ∈ (tradeBuilderParallelExitBatchSelection orders runtimePrice).eligibleOrderIds ↔
      ∃ order ∈ orders, (tradeBuilderIsParallelExitBatchCandidate order = true ∧
        batchTriggered runtimePrice order = true ∧ (isStopLoss order || !isStopLoss order &&
          tradeBuilderIsTakeProfitChild order.toTradeBuilderOrder) = true) ∧ order.id = id := by
  unfold tradeBuilderParallelExitBatchSelection
  simp only [List.mem_append, List.mem_map, List.mem_filter, List.mem_insertionSort,
    Bool.or_eq_true]
  constructor
  · rintro (⟨order, ⟨⟨⟨hmem, hcandidate⟩, htriggered⟩, hkind⟩, rfl⟩ |
      ⟨order, ⟨⟨⟨hmem, hcandidate⟩, htriggered⟩, hkind⟩, rfl⟩)
    · exact ⟨order, hmem, ⟨hcandidate, htriggered, .inl hkind⟩, rfl⟩
    · exact ⟨order, hmem, ⟨hcandidate, htriggered, .inr hkind⟩, rfl⟩
  · rintro ⟨order, hmem, ⟨hcandidate, htriggered, hkind | hkind⟩, rfl⟩
    · exact .inl ⟨order, ⟨⟨⟨hmem, hcandidate⟩, htriggered⟩, hkind⟩, rfl⟩
    · exact .inr ⟨order, ⟨⟨⟨hmem, hcandidate⟩, htriggered⟩, hkind⟩, rfl⟩

namespace ArmedExits
variable {exits : ArmedExits} {order : ExitOrder}

theorem exists_id_iff (hmem : order ∈ exits.orders) (P : ExitOrder → Prop) :
    (∃ other ∈ exits.orders, P other ∧ other.id = order.id) ↔ P order := by
  constructor
  · rintro ⟨other, hother, hP, hid⟩
    rwa [List.inj_on_of_nodup_map exits.ids hother hmem hid] at hP
  · exact fun hP => ⟨order, hmem, hP, rfl⟩

theorem mem_ids_filter_iff (hmem : order ∈ exits.orders) (p : ExitOrder → Bool) :
    order.id ∈ (exits.orders.filter p).map (·.id) ↔ p order = true := by
  rw [← exists_id_iff hmem fun order => p order = true]
  simp only [List.mem_map, List.mem_filter, and_assoc]

theorem triggers_iff (hmem : order ∈ exits.orders) {inputs : StopLossInputs}
    (snapshot : MarketDataSnapshot) {path : ExitPath} (hjudges : path.Judges inputs order) :
    path.Triggers inputs snapshot exits order.id ↔
      ∃ runtimePrice ∈ buildTradeBuilderRuntimePriceFromMarketSnapshot snapshot,
        path.decides inputs runtimePrice order = true := by
  have harmed := exits.armed order hmem
  have hexit := childExit_of_armed harmed
  cases path with
  | tick =>
    rw [ExitPath.Triggers, map_orderId_filterMap, mem_ids_filter_iff hmem]
    cases hprice : buildTradeBuilderRuntimePriceFromMarketSnapshot snapshot with
    | none => simp [tickTriggerOf_unpriced hprice hexit]
    | some runtimePrice =>
      rw [tickTriggerOf_isSome hprice harmed]
      simp [ExitPath.decides]
  | dirtyTokens =>
    rw [ExitPath.Triggers, evaluateArmedBuilderOrders]
    cases buildTradeBuilderRuntimePriceFromMarketSnapshot snapshot with
    | none => simp
    | some runtimePrice =>
      dsimp only
      rw [evaluateArmedOrders_triggered, List.nil_append, mem_ids_filter_iff hmem]
      simp [ExitPath.decides]
  | batch =>
    rw [ExitPath.Triggers]
    refine exists_congr fun runtimePrice => and_congr_right fun _ => ?_
    rw [mem_eligibleOrderIds, exists_id_iff hmem fun order =>
      tradeBuilderIsParallelExitBatchCandidate order = true ∧
        batchTriggered runtimePrice order = true ∧ (isStopLoss order || !isStopLoss order &&
          tradeBuilderIsTakeProfitChild order.toTradeBuilderOrder) = true,
      ← tickTriggerKind_isSome hexit, ExitPath.decides, Bool.and_eq_true]
    exact and_iff_right hjudges
  | housekeeping =>
    rw [ExitPath.Triggers]
    refine exists_congr fun runtimePrice => and_congr_right fun _ => ?_
    exact mem_ids_filter_iff hmem _

end ArmedExits

/-- The paths agree on a set of armed exits just where none of its orders diverges. -/
theorem exit_paths_agree_iff (inputs : StopLossInputs) (snapshot : MarketDataSnapshot)
    (exits : ArmedExits) :
    ExitPathsAgree inputs snapshot exits ↔ ∀ order ∈ exits.orders,
      ∀ runtimePrice ∈ buildTradeBuilderRuntimePriceFromMarketSnapshot snapshot,
        ¬ Diverges order runtimePrice := by
  refine forall₂_congr fun order hmem => ⟨fun hagree runtimePrice hprice hdiverges => ?_,
    fun h p q hp hq => ?_⟩
  · obtain ⟨p, q, hp, hq, htriggered, hrefused⟩ := decides_of_diverges hdiverges
    have htriggers := (ArmedExits.triggers_iff hmem snapshot hp).mpr
      ⟨runtimePrice, hprice, htriggered⟩
    obtain ⟨other, hother, hdecides⟩ := (ArmedExits.triggers_iff hmem snapshot hq).mp
      ((hagree p q hp hq).mp htriggers)
    rw [Option.mem_unique hother hprice, hrefused] at hdecides
    cases hdecides
  · rw [ArmedExits.triggers_iff hmem snapshot hp, ArmedExits.triggers_iff hmem snapshot hq]
    refine exists_congr fun runtimePrice => and_congr_right fun hprice => ?_
    rw [decides_of_not_diverges (h runtimePrice hprice) hp,
      decides_of_not_diverges (h runtimePrice hprice) hq]

/-- A composite stop loss at sixty-five cents, last traded at sixty. -/
def unconfirmedStopLoss : ExitOrder where
  kind := .conditional
  status := .armed
  side := .sell
  parentOrderId := some 9
  triggerCondition := some .crossBelow
  triggerPrice := some (65 / 100)
  slTriggerPriceMode := some .composite

def unconfirmedExits : ArmedExits where
  tokenId := "tok-up"
  orders := [unconfirmedStopLoss]
  ids := by decide
  armed := by decide

/-- At a bid of seventy cents the tick triggers what the pass over the dirty tokens keeps. -/
theorem unconfirmed_bid_triggers : ¬ ExitPathsAgree {}
    ⟨some (70 / 100), some (74 / 100), some (60 / 100)⟩ unconfirmedExits := by
  intro hagree
  have htick := (hagree unconfirmedStopLoss (List.mem_singleton.mpr rfl) .tick .dirtyTokens trivial
    trivial).mp (by
      change _ ∈ List.map _ _
      decide +kernel)
  revert htick
  change ¬ _ ∈ DirtyTokenEvaluation.triggeredOrderIds _
  decide +kernel

end PolymarketBot.ExitLadders
