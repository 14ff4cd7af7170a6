import PolymarketBot.Builder.World

/-! The finalizer of a fill: it counts the trigger, books the fill, closes the exchange
order on the row and creates the exit children, one fallible statement after another. -/

namespace PolymarketBot.Builder
open Lib

def ladderRequestedTargets (weightSum qty : ℚ) : List (ℕ × ℚ) → ℚ → List (ℕ × ℚ)
  | [], _ => []
  | (key, weight) :: rest, assigned =>
    let desired := if rest.isEmpty then roundTradeBuilderShareQty (max (qty - assigned) 0)
      else roundTradeBuilderShareQty (qty * (weight / weightSum))
    if desired ≤ 0 then ladderRequestedTargets weightSum qty rest assigned
    else (key, desired) :: ladderRequestedTargets weightSum qty rest
      (roundTradeBuilderShareQty (max (assigned + desired) 0))

def ladderKeptTargets (qty : ℚ) : List (ℕ × ℚ) → ℚ → List (ℕ × ℚ)
  | [], _ => []
  | (key, kept) :: rest, assigned =>
    let desired := if rest.isEmpty then roundTradeBuilderShareQty (max (qty - assigned) 0) else kept
    if desired ≤ 0 then ladderKeptTargets qty rest assigned
    else (key, desired) :: ladderKeptTargets qty rest
      (roundTradeBuilderShareQty (max (assigned + desired) 0))

/-- The executable targets of a ladder: rules below the market's minimum are skipped, and
when all are, the last one takes the whole quantity if that reaches the minimum. -/
def tradeBuilderPlanWeightedLadderTargets (weighted : List (ℕ × ℚ)) (parentQty : ℚ)
    (orderMinSize : Option ℚ) : List (ℕ × ℚ) :=
  let qty := roundTradeBuilderShareQty parentQty
  let weightSum := (weighted.map Prod.snd).sum
  if qty ≤ tradeBuilderExitQtyTolerance ∨ weightSum ≤ 0 then []
  else
    let requested := ladderRequestedTargets weightSum qty weighted 0
    match orderMinSize.filter (0 < ·) with
    | none => requested
    | some minSize =>
      match requested.filter fun t => minSize ≤ t.2 with
      | [] =>
        if qty < minSize then []
        else (requested.getLast?.map fun t => (t.1, qty)).toList
      | kept => ladderKeptTargets qty kept 0

def PriceExitRule.weights (rules : List PriceExitRule) : List (ℕ × ℚ) :=
  rules.zipIdx.map fun r => (r.2, r.1.sizePct)

def PtbStopLossRule.weights (rules : List PtbStopLossRule) : List (ℕ × ℚ) :=
  rules.zipIdx.map fun r => (r.2, r.1.sizePct)

def tradeBuilderHardPriceExitRule (enabled : Bool) (price : Option ℚ) : Bool :=
  enabled && price.any fun p => 0 < p && p ≤ 1

def tradeBuilderOrderHasExitLadders (order : TradeBuilderOrder) : Bool :=
  tradeBuilderHardPriceExitRule order.tpEnabled order.tpPrice ||
    tradeBuilderHardPriceExitRule order.slEnabled order.slPrice ||
    !order.tpRules.isEmpty || !order.slRules.isEmpty || !order.ptbStopLossRules.isEmpty ||
    !order.timeExitRules.isEmpty

/-- One step of the creation of exit children: an event, or a child with its follow-ups. -/
inductive ChildStep
  | note (event : String)
  | create (child : CreatedChild)
  deriving DecidableEq, Repr

def wholeChild (child : ExitChild) (qty : ℚ) : List ChildStep :=
  let qty := roundTradeBuilderShareQty qty
  if 0 < qty then [.create ⟨child, qty⟩] else []

def stagedChildren (child : ℕ → ExitChild) (rules : List (ℕ × ℚ)) (qty : ℚ)
    (orderMinSize : Option ℚ) : List ChildStep :=
  let targets := tradeBuilderPlanWeightedLadderTargets rules qty orderMinSize
  let skipped := rules.filter fun rule => !targets.any fun t => t.1 == rule.1
  if rules.isEmpty then []
  else if targets.isEmpty then [.note "no_executable_exit_child_due_to_min_size"]
  else skipped.map (fun _ => .note "staged_child_skipped_due_to_min_size") ++
    targets.map (fun t => .create ⟨child t.1, t.2⟩) ++
    if skipped.isEmpty then [] else [.note "staged_family_consolidated_due_to_min_size"]

def tpChildren (order : TradeBuilderOrder) (qty : ℚ) (orderMinSize : Option ℚ) :
    List ChildStep :=
  (if tradeBuilderHardPriceExitRule order.tpEnabled order.tpPrice then wholeChild .hardTp qty
    else []) ++
  stagedChildren .stagedTp (PriceExitRule.weights order.tpRules) qty orderMinSize

def slChildren (order : TradeBuilderOrder) (qty : ℚ) (orderMinSize : Option ℚ)
    (liveGapConfigured : Bool) : List ChildStep :=
  (if tradeBuilderHardPriceExitRule order.slEnabled order.slPrice then wholeChild .hardSl qty
    else []) ++
  (if order.ptbStopLossGapUsd.isSome then wholeChild .ptbSl qty else []) ++
  (if liveGapConfigured then wholeChild .liveGapSl qty else []) ++
  (tradeBuilderPlanWeightedLadderTargets (PtbStopLossRule.weights order.ptbStopLossRules) qty
    orderMinSize).map (fun t => .create ⟨.ptbSlRule t.1, t.2⟩) ++
  stagedChildren .stagedSl (PriceExitRule.weights order.slRules) qty orderMinSize

def exitChildren (order : TradeBuilderOrder) (qty : ℚ) (orderMinSize : Option ℚ)
    (stopLossSurfaceActive liveGapConfigured : Bool) : List ChildStep :=
  tpChildren order qty orderMinSize ++
    if stopLossSurfaceActive then slChildren order qty orderMinSize liveGapConfigured else []

/-- Each child is one insert followed by statements on the new row and an event. -/
def createChildren : List ChildStep → Job Unit
  | [] => pure ()
  | .note event :: rest => do
    Job.event event
    createChildren rest
  | .create child :: rest => do
    Job.run (.createChild child)
    Job.statement .childFollowUp
    Job.event "sell_created"
    createChildren rest

def hasExitSettings (order : TradeBuilderOrder) (liveGapConfigured : Bool) : Bool :=
  order.tpEnabled || order.slEnabled || order.ptbStopLossGapUsd.isSome ||
    !order.ptbStopLossRules.isEmpty || liveGapConfigured

/-- A position that exists is returned as it is: a second fill adds nothing to it. -/
def ensureTradeBuilderParentPositionFromParentFill (canonicalEntryQty : ℚ) : Job Unit := do
  match ← Job.run .getParentPosition with
  | some _ => pure ()
  | none =>
    let seed ← Job.run .getParentPositionSeed
    Job.run (.upsertParentPosition (tradeBuilderParentPositionSeedQty seed canonicalEntryQty))

def seedParentPosition (qty : ℚ) : Job (Option ℚ) := do
  Job.run (.upsertParentPosition qty)
  Job.event "exit_inventory_source_selected"
  pure (some qty)

def resolveLegacyInventory : Job (Option ℚ) := do
  match ((← Job.orElse .legacyPosition none).map roundTradeBuilderShareQty).filter
      (tradeBuilderExitQtyTolerance < ·) with
  | some legacyQty => seedParentPosition legacyQty
  | none =>
    Job.event "exit_inventory_source_selected"
    pure none

def resolveTradeBuilderParentExitInventory : Job (Option ℚ) := do
  match ← Job.run .getParentPosition with
  | some position =>
    Job.event "exit_inventory_source_selected"
    pure (some (roundTradeBuilderShareQty position.currentQty))
  | none =>
    match (normalizeTradeBuilderVisibleInventoryQty (← Job.run .getParentPositionSeed)).filter
        (tradeBuilderExitQtyTolerance < ·) with
    | some seedQty => seedParentPosition seedQty
    | none => resolveLegacyInventory

def applyTradeBuilderParentPositionChildFill (fillQty : Option ℚ) : Job Unit := do
  match normalizeTradeBuilderTerminalFillQtyCandidate fillQty with
  | none => pure ()
  | some fillQty =>
    let position ← Job.run .getParentPosition
    Job.when position.isNone (Job.discard resolveTradeBuilderParentExitInventory)
    Job.run (.applyParentPositionFill fillQty)

def tradeBuilderScaledSizeUsdc (order : TradeBuilderOrder) (nextQty : ℚ) : ℚ :=
  let nextQty := roundTradeBuilderShareQty nextQty
  let currentTargetQty :=
    if order.sizeBasis = .shares then (order.targetQty.map roundTradeBuilderShareQty).getD 0 else 0
  if 0 < currentTargetQty ∧ 0 < order.sizeUsdc then
    max (order.sizeUsdc / currentTargetQty * nextQty) 0
  else
    max (nextQty * ((order.workingPrice.or (order.submittedDynamicPrice.or
      order.triggerPrice)).getD 0)) 0

def resizeChild (child : TradeBuilderOrder) (qty : ℚ) : OrderUpdate :=
  .updateSizingAndState child.sizeBasis (tradeBuilderScaledSizeUsdc child qty) (some qty)
    (some (tradeBuilderScaledSizeUsdc child qty)) (some qty) child.status child.lastError
    child.eligibleAfterAt child.eligibleBeforeAt

def cancelStatus (child : TradeBuilderOrder) : OrderStatus :=
  if child.activeExchangeOrderId.isSome then .canceledRequested else .canceled

/-- What the sync of a parent's exit children does to this order, as one of them. -/
def syncExitChild (child : TradeBuilderOrder) (parentQty : ℚ) : Job Unit := do
  if tradeBuilderIsTerminalStatus child.status ∨ ¬ tradeBuilderIsChildExitSell child then
    pure ()
  else if parentQty ≤ tradeBuilderExitQtyTolerance then
    Job.update (.setStatus (cancelStatus child) (some { reason := "parent_inventory_depleted" }))
    Job.event "exit_canceled_no_inventory"
  else if child.exitLadderKind.isNone then
    let desired := roundTradeBuilderShareQty parentQty
    let current := ((child.remainingQty.or child.targetQty).map roundTradeBuilderShareQty).getD 0
    if child.activeExchangeOrderId.isSome ∨ desired ≤ 0 ∨
        |current - desired| < tradeBuilderExitQtyTolerance then
      pure ()
    else
      Job.update (resizeChild child desired)
      Job.event "hard_exit_resized"
  else
    match ← Job.orElse .ladderTarget .absent with
    | .absent => pure ()
    | .skipped =>
      Job.update (.setStatus (cancelStatus child)
        (some { reason := "staged_child_skipped_due_to_min_size" }))
      Job.event "staged_child_skipped_due_to_min_size"
    | .target qty =>
      if child.activeExchangeOrderId.isSome then
        Job.update (.setWorkingState child.activeExchangeOrderId child.workingPrice
          (some (tradeBuilderScaledSizeUsdc child qty)) (some qty) child.status)
      else
        Job.update (resizeChild child qty)
      Job.event "ladder_sibling_resized"

/-- The siblings' rows belong to their own worlds: their updates can only fail here. -/
def tradeBuilderSyncParentExitChildren : Job Unit := do
  Job.statement .listChildren
  let child ← Job.run .childRow
  let parentQty := (← resolveTradeBuilderParentExitInventory).getD 0
  Job.statement .siblingUpdates
  syncExitChild child parentQty
  Job.statement .siblingUpdates

/-- What was submitted stands in for the fill; an event says how far they are apart. -/
def reportDynamicQty (canonicalEntryQty : ℚ) (actualFillQty : Option ℚ) : Job Unit := do
  Job.event "dynamic_qty_used_for_children"
  match actualFillQty with
  | some actual =>
    Job.when (tradeBuilderExitQtyTolerance ≤ |actual - canonicalEntryQty|)
      (Job.event "dynamic_vs_actual_fill_mismatch")
  | none => Job.event "actual_fill_qty_unresolved"

/-- The bookings of a buy: events on odd quantities, the position, the pair-lock session. -/
def finalizeBuyBookings (order : TradeBuilderOrder) (canonicalEntryQty : ℚ)
    (source : EntryQtySource) (actualFillQty : Option ℚ) : Job Unit := do
  Job.when (source = .submittedDynamicQty) (reportDynamicQty canonicalEntryQty actualFillQty)
  ensureTradeBuilderParentPositionFromParentFill canonicalEntryQty
  Job.when (order.pairSessionId.isSome ∧ tradeBuilderPairLockIsCandidateOrder order)
    (Job.statement .recordPairFill)

def finalizeNextStatus (order : TradeBuilderOrder) (forceTerminal : Bool) : OrderStatus :=
  if forceTerminal ∨ order.kind = .immediate ∨ order.maxTriggers ≤ order.triggersFired + 1 then
    .completed
  else .armed

def finalizeParentSide (order : TradeBuilderOrder) (appliedFillQty : Option ℚ) : Job Unit := do
  match ← Job.whenOr order.parentOrderId.isSome none (Job.run .getParentOrder) with
  | none => pure ()
  | some parentOrder =>
    Job.when (tradeBuilderIsChildExitSell order)
      (applyTradeBuilderParentPositionChildFill appliedFillQty)
    Job.when (tradeBuilderOrderHasExitLadders parentOrder ∧
        ¬ shouldRequestTradeBuilderOcoCancel order)
      (Job.ignore tradeBuilderSyncParentExitChildren)

def finalizeBuyChildren (order : TradeBuilderOrder) (canonicalEntryQty : ℚ)
    (stopLossSurfaceActive liveGapConfigured : Bool) : Job Unit := do
  let orderMinSize ← Job.orElse .orderMinSize none
  createChildren (exitChildren order canonicalEntryQty orderMinSize stopLossSurfaceActive
    liveGapConfigured)

def persistedFillQty (canonicalEntryQty : ℚ) (source : EntryQtySource)
    (actualFillQty : Option ℚ) : Option ℚ :=
  if source = .cumulativeFillQty then some canonicalEntryQty else actualFillQty

/-- The first half of the finalizer: the trigger count, the filled quantity, the bookings. -/
def countFill (order : TradeBuilderOrder) (canonicalEntryQty : ℚ) (source : EntryQtySource)
    (actualFillQty : Option ℚ) : Job Unit := do
  let persisted := persistedFillQty canonicalEntryQty source actualFillQty
  Job.update .incrementTriggerCount
  Job.when persisted.isSome (Job.update (.setFilledQty (persisted.getD 0)))
  Job.when (order.side = .buy) (finalizeBuyBookings order canonicalEntryQty source actualFillQty)

/-- The second half: the row lets go of the exchange order, siblings and parent follow, and
the exit children of a buy are created. -/
def closeFill (order : TradeBuilderOrder) (canonicalEntryQty : ℚ) (appliedFillQty : Option ℚ)
    (forceTerminal stopLossSurfaceActive liveGapConfigured : Bool) : Job Unit := do
  Job.update (.clearActiveExchangeOrder (finalizeNextStatus order forceTerminal))
  Job.event "filled"
  Job.when (shouldRequestTradeBuilderOcoCancel order) (Job.statement .siblingUpdates)
  finalizeParentSide order appliedFillQty
  Job.when (order.pairLegRole = some .orphanUnwindSell) (Job.statement .finalizeUnwind)
  Job.when (order.side = .buy)
    (finalizeBuyChildren order canonicalEntryQty stopLossSurfaceActive liveGapConfigured)
  Job.ignore (Job.statement .unblockNextOrder)

def finalizeCounted (order : TradeBuilderOrder) (canonicalEntryQty : ℚ)
    (source : EntryQtySource) (actualFillQty : Option ℚ) (forceTerminal : Bool)
    (liveGapConfigured : Bool) : Job Unit := do
  countFill order canonicalEntryQty source actualFillQty
  let stopLossSurfaceActive ← Job.whenOr (order.side = .buy) false
    (Job.check .stopLossSurfaceActive)
  Job.statement .flowPayload
  Job.statement .submittedPayload
  closeFill order canonicalEntryQty
    ((persistedFillQty canonicalEntryQty source actualFillQty).or (some canonicalEntryQty))
    forceTerminal stopLossSurfaceActive liveGapConfigured

def finalizeBuilderFill (order : TradeBuilderOrder) (canonicalEntryQty : ℚ)
    (source : EntryQtySource) (actualFillQty : Option ℚ) (forceTerminal : Bool) : Job Unit := do
  let canonicalEntryQty := roundTradeBuilderShareQty canonicalEntryQty
  let actualFillQty := normalizeTradeBuilderTerminalFillQtyCandidate actualFillQty
  let liveGapConfigured ← Job.whenOr (order.side = .buy) false (Job.check .hasLiveGapStopLoss)
  if order.side = .buy ∧ hasExitSettings order liveGapConfigured ∧ canonicalEntryQty ≤ 0 then
    Prog.fail errorOther
  else
    finalizeCounted order canonicalEntryQty source actualFillQty forceTerminal liveGapConfigured

end PolymarketBot.Builder
