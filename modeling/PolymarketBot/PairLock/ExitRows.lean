import PolymarketBot.Builder.Finalize
import PolymarketBot.PairLock.LeadFill

/-! The sells of a pair-lock session: the unwinds requested for its legs, the exit children of
their fills, and what the fill of a sell does to the session and to the other sells. The passes
over a leg are those of `LeadFill`, with the statements of an unwind and of the finalizer written
out. -/

namespace PolymarketBot.PairLock.Exits
open Lib Prog Builder

inductive SellKind
  | unwind
  | timeExit
  | exit (child : ExitChild)
  deriving DecidableEq, Repr

def SellKind.isExitChild : SellKind → Bool
  | exit _ => true
  | _ => false

def SellKind.isStopLoss : SellKind → Bool
  | exit .hardSl | exit .ptbSl | exit .liveGapSl | exit (.ptbSlRule _) | exit (.stagedSl _) => true
  | _ => false

/-- A child outside the ladders cancels its siblings when it fills. -/
def SellKind.cancelsSiblings : SellKind → Bool
  | exit .hardTp | exit .hardSl | exit .ptbSl | exit .liveGapSl => true
  | _ => false

/-- A sell whose parent is the candidate buy of a leg; `filled` is what the exchange has sold
of it so far. -/
structure SellOrder where
  leg : Leg
  kind : SellKind
  qty : ℚ
  filled : ℚ := 0
  status : OrderStatus
  active : Bool := false
  latched : Bool := false
  deriving DecidableEq, Repr

namespace SellOrder
variable (s : SellOrder)

def remaining : ℚ := max (s.qty - s.filled) 0

def cancelStatus : OrderStatus := if s.active then .canceledRequested else .canceled

end SellOrder

structure PairOrder where
  leg : Leg
  row : TradeBuilderOrder
  feeRateBps : ℤ
  deriving DecidableEq, Repr

def PairOrder.cancelStatus (o : PairOrder) : OrderStatus :=
  if o.row.activeExchangeOrderId.isSome then .canceledRequested else .canceled

inductive SellReport
  | pending
  | moves (status : OrderStatus) (active : Bool)
  | fills (bookedQty : ℚ)
  deriving DecidableEq, Repr

inductive ExitCall
  | getPairSession
  | legFacts (leg : Leg)
  | usesBiasedHedge
  | liveGapConfigured (leg : Leg)
  | orderMinSize (leg : Leg)
  | getOrder (leg : Leg)
  | listCandidates
  | listUnwinds
  | listChildren (leg : Leg)
  | getSell (id : ℕ)
  | getParentPosition (leg : Leg)
  | exchange (leg : Leg)
  | sellReport (id : ℕ)
  | updateOrder (leg : Leg) (u : OrderUpdate)
  | detachOrder (leg : Leg)
  | setSellStatus (id : ℕ) (status : OrderStatus)
  | setSellActive (id : ℕ) (active : Bool)
  | ladderTarget (id : ℕ)
  | resizeSell (id : ℕ) (qty : ℚ)
  | createUnwindOrder (leg : Leg) (currentQty keepVisibleQty : ℚ)
  | createExitChild (leg : Leg) (child : CreatedChild)
  | createTimeExit (leg : Leg) (sizePct : ℚ)
  | ensurePosition (leg : Leg) (canonicalEntryQty : ℚ)
  | applyPositionFill (leg : Leg) (filledQty : ℚ)
  | recordPairSessionFill (role : PairLegRole) (orderId : ℤ) (fill : LegFill) (filledAt : ℤ)
  | updatePairSessionState (status : PairStatus) (lockedQty projectedNetProfit : Option ℚ)
      (lastError : Option String)

abbrev ExitAnswer : ExitCall → Type
  | .getPairSession => TradeBuilderPairSession
  | .legFacts _ => LegFacts
  | .usesBiasedHedge => Bool
  | .liveGapConfigured _ => Bool
  | .orderMinSize _ => Option ℚ
  | .getOrder _ => PairOrder
  | .listCandidates => List PairOrder
  | .listUnwinds => List (ℕ × SellOrder)
  | .listChildren _ => List (ℕ × SellOrder)
  | .getSell _ => Option SellOrder
  | .getParentPosition _ => Option ℚ
  | .exchange _ => Option BuyFill
  | .sellReport _ => SellReport
  | .ladderTarget _ => LadderTarget
  | _ => Unit

abbrev ExitJob (α : Type) := Prog ExitCall ExitAnswer String α

namespace ExitJob

def run (c : ExitCall) : ExitJob (ExitAnswer c) := perform c

def logged (job : ExitJob Unit) : ExitJob Unit := do let _ ← attempt job

def when (c : Prop) [Decidable c] (job : ExitJob Unit) : ExitJob Unit :=
  if c then job else pure ()

end ExitJob

open ExitJob (run logged)

/-- What a leg holds as far as its fill tells, before a position row exists. -/
def PairOrder.estimatedQty (o : PairOrder) : ℚ :=
  if 0 < o.row.filledQty then
    let feeQty := estimateTradeBuilderBuyFeeShares (o.row.sizeUsdc / o.row.filledQty)
      o.row.filledQty (tradeBuilderFeeRateBpsOrDefault o.feeRateBps)
    roundTradeBuilderShareQty (max (o.row.filledQty - feeQty) 0)
  else 0

def cancelUnfilledCandidate (o : PairOrder) (reason : String) : ExitJob Unit :=
  ExitJob.when (¬ tradeBuilderIsTerminalStatus o.row.status ∧ o.row.filledQty ≤ 0)
    (run (.updateOrder o.leg (.setStatus o.cancelStatus (some { reason }))))

/-- The position is read and the sell created, whatever else of the leg is for sale. -/
def unwindCandidate (keepVisibleQty : ℚ) (o : PairOrder) : ExitJob Unit := do
  let position ← run (.getParentPosition o.leg)
  run (.createUnwindOrder o.leg (position.getD o.estimatedQty) keepVisibleQty)

def scheduleTradeBuilderPairSessionUnwind (orders : List PairOrder) (nextStatus : PairStatus)
    (reason : String) (keepVisibleQty : Option ℚ) : ExitJob Unit := do
  let candidates := orders.filter fun o => tradeBuilderPairLockIsCandidateOrder o.row
  candidates.forM (cancelUnfilledCandidate · reason)
  candidates.forM (unwindCandidate (max (keepVisibleQty.getD 0) 0))
  run (.updatePairSessionState nextStatus none none (some reason))

/-! ### Fills of the legs -/

/-- The stop losses of the legs; `reason` is what their rows are left with. -/
def cancelStopLossChildren (orders : List PairOrder) : ExitJob Unit :=
  (orders.filter fun o => tradeBuilderPairLockIsCandidateOrder o.row).forM fun o => do
    let children ← run (.listChildren o.leg)
    (children.filter fun child =>
      child.2.kind.isStopLoss && !tradeBuilderIsTerminalStatus child.2.status).forM fun child =>
        run (.setSellStatus child.1 child.2.cancelStatus)

def maybeCancelStopLossAfterLocked (session : TradeBuilderPairSession)
    (orders : List PairOrder) : ExitJob Unit :=
  ExitJob.when session.ignoreStopLossAfterLocked (cancelStopLossChildren orders)

def biasedHedgeNotional (fill : Option LegFill) : ℚ :=
  max ((fill.map LegFill.fillQty).getD 0) 0 * max ((fill.map LegFill.avgFillPrice).getD 0) 0

/-- True if the session's node runs the biased hedge, which locks without unwinding anything. -/
def maybeHandleBiasedHedgePairFill : ExitJob Bool := do
  if ← run .usesBiasedHedge then
    let session ← run .getPairSession
    ExitJob.when (0 < biasedHedgeNotional session.primary ∧ 0 < biasedHedgeNotional session.counter)
      (run (.updatePairSessionState .locked session.lockedQty session.projectedNetProfitUsdc none))
    pure true
  else pure false

/-- Both legs have filled: what is not matched is unwound. -/
def lockPairSession (session : TradeBuilderPairSession) (commonQty : ℚ) : ExitJob Unit := do
  let orders ← run .listCandidates
  run (.updatePairSessionState .locked (some commonQty)
    (some (projectedNetProfit session commonQty)) none)
  scheduleTradeBuilderPairSessionUnwind orders .locked "pair_locked_residue_unwind"
    (some commonQty)
  maybeCancelStopLossAfterLocked session orders

def legStatements (leg : Leg) : LegStatements ExitCall ExitAnswer where
  updateOrder u := run (.updateOrder leg u)
  closeSession status reason := run (.updatePairSessionState status none none (some reason))
  unwind reason := do
    let orders ← run .listCandidates
    scheduleTradeBuilderPairSessionUnwind orders .unwinding reason none
  biasedHedgeFill := maybeHandleBiasedHedgePairFill
  lock := lockPairSession

def maybeHandleTradeBuilderPairLockBuyFill (o : PairOrder) (fill : BuyFill) : ExitJob Unit := do
  if o.row.pairSessionId.isNone ∨ ¬ tradeBuilderPairLockIsCandidateOrder o.row then pure ()
  else
    run (.recordPairSessionFill (o.row.pairLegRole.getD .leadCandidate) o.row.id fill.toLegFill
      fill.filledAt)
    let session ← run .getPairSession
    (legStatements o.leg).lockMatched session

def stopLossSurfaceActiveFromSession (session : TradeBuilderPairSession) (orderId : ℤ) : Bool :=
  match session.status with
  | .working => session.leadOrderId == some orderId
  | .locked => !session.ignoreStopLossAfterLocked &&
      (session.primaryOrderId == some orderId || session.counterOrderId == some orderId)
  | _ => false

def stopLossSurfaceActive (o : PairOrder) : ExitJob Bool := do
  if ¬ tradeBuilderOrderUsesPairLock o.row ∨ ¬ tradeBuilderPairLockIsCandidateOrder o.row ∨
      o.row.side ≠ .buy then pure true
  else
    let session ← run .getPairSession
    pure (stopLossSurfaceActiveFromSession session o.row.id)

def createExitChildren (leg : Leg) (steps : List ChildStep) : ExitJob Unit :=
  steps.forM fun step =>
    match step with
    | .note _ => pure ()
    | .create child => run (.createExitChild leg child)

def finalizeLegFill (o : PairOrder) (fill : BuyFill) : ExitJob Unit := do
  let qty := roundTradeBuilderShareQty fill.canonicalEntryQty
  let liveGapConfigured ← run (.liveGapConfigured o.leg)
  if hasExitSettings o.row liveGapConfigured ∧ qty ≤ 0 then
    Prog.fail "builder buy fill qty must be > 0 before creating exit children"
  else
    run (.updateOrder o.leg .incrementTriggerCount)
    run (.updateOrder o.leg (.setFilledQty qty))
    run (.ensurePosition o.leg qty)
    maybeHandleTradeBuilderPairLockBuyFill o fill
    let surfaceActive ← stopLossSurfaceActive o
    run (.updateOrder o.leg (.clearActiveExchangeOrder (finalizeNextStatus o.row fill.forceTerminal)))
    let orderMinSize ← run (.orderMinSize o.leg)
    createExitChildren o.leg (exitChildren o.row qty orderMinSize surfaceActive liveGapConfigured)

/-! ### Requests to unwind -/

/-- Without a protective unwind the session is only closed. -/
def maybeSkipProtectiveUnwind (leg : Leg) (reason : String) (statusAfter : PairStatus) :
    ExitJob Bool := do
  let facts ← run (.legFacts leg)
  if (facts.config.map PairLockConfig.protectiveUnwindEnabled).getD true then pure false
  else
    run (.updatePairSessionState statusAfter none none (some reason))
    pure true

def maybeAbortForTerminalOrder (o : PairOrder) (reason : String) : ExitJob Unit := do
  if o.row.pairSessionId.isNone ∨ ¬ tradeBuilderPairLockIsCandidateOrder o.row then pure ()
  else
    let session ← run .getPairSession
    if session.status ≠ .working ∨ session.leadOrderId.isNone then pure ()
    else if ← maybeSkipProtectiveUnwind o.leg reason .expired then pure ()
    else
      let orders ← run .listCandidates
      scheduleTradeBuilderPairSessionUnwind orders .unwinding reason none

def endCandidate (leg : Leg) (status : OrderStatus) (reason : String) : ExitJob Unit := do
  let o ← run (.getOrder leg)
  run (.updateOrder leg (.clearActiveExchangeOrder status))
  maybeAbortForTerminalOrder o reason

def pairLockRuntime (o : PairOrder) : ExitJob Bool := do
  if o.row.pairSessionId.isNone ∨ ¬ tradeBuilderPairLockIsCandidateOrder o.row ∨
      o.row.side ≠ .buy then pure false
  else
    let session ← run .getPairSession
    let facts ← run (.legFacts o.leg)
    let primary ← run (.getOrder .primary)
    let pass : LegPass := { session, order := o.row, primary := some primary.row
                            config := facts.config, biasedHedge := facts.biasedHedge
                            marketEnd := facts.marketEnd, now := facts.now }
    (legStatements o.leg).applyCounterDecision pass pass.applyRuntime

def processLeg (leg : Leg) : ExitJob Unit := do
  let o ← run (.getOrder leg)
  if ¬ isTradeBuilderOrderProcessableStatus o.row.status then pure ()
  else if ← pairLockRuntime o then pure ()
  else
    match ← run (.exchange leg) with
    | none => pure ()
    | some fill => finalizeLegFill o fill

def executeBiasedHedgePairExit (reason : String) : ExitJob Unit := do
  let session ← run .getPairSession
  if session.status = .unwinding ∨ session.status.isClosed then pure ()
  else
    let orders ← run .listCandidates
    scheduleTradeBuilderPairSessionUnwind orders .unwinding reason none

/-- The share of its baseline that a position goes down to is sold at once. -/
def executeBiasedHedgeTimeExit (leg : Leg) (baselineQty targetRemainingPct : ℚ) :
    ExitJob Unit := do
  let session ← run .getPairSession
  if session.status = .unwinding then pure ()
  else
    match ← run (.getParentPosition leg) with
    | none => pure ()
    | some currentQty =>
      let target := roundTradeBuilderShareQty
        (baselineQty * (max 0 (min 100 targetRemainingPct) / 100))
      let sellQty := max (currentQty - target) 0
      if currentQty ≤ LegPass.pairQtyTolerance ∨ baselineQty ≤ 0 ∨
          sellQty ≤ LegPass.pairQtyTolerance then pure ()
      else run (.createTimeExit leg (max (1 / 10000) (min 100 (sellQty / currentQty * 100))))

/-! ### Fills of the sells -/

def requestOcoCancelForSiblings (id : ℕ) (sell : SellOrder) : ExitJob Unit := do
  let children ← run (.listChildren sell.leg)
  (children.filter fun child => child.1 != id &&
    !tradeBuilderIsTerminalStatus child.2.status && !child.2.latched).forM fun child =>
      run (.setSellStatus child.1 .canceledRequested)

/-- An exit child follows the open quantity of its parent. -/
def syncExitChild (currentParentQty : ℚ) (child : ℕ × SellOrder) : ExitJob Unit := do
  if tradeBuilderIsTerminalStatus child.2.status ∨ ¬ child.2.kind.isExitChild then pure ()
  else if currentParentQty ≤ tradeBuilderExitQtyTolerance then
    run (.setSellStatus child.1 child.2.cancelStatus)
  else if child.2.kind.cancelsSiblings then
    let desired := roundTradeBuilderShareQty currentParentQty
    ExitJob.when (¬ child.2.active ∧ 0 < desired ∧
        tradeBuilderExitQtyTolerance ≤ |roundTradeBuilderShareQty child.2.qty - desired|)
      (run (.resizeSell child.1 desired))
  else
    match ← run (.ladderTarget child.1) with
    | .absent => pure ()
    | .skipped => run (.setSellStatus child.1 child.2.cancelStatus)
    | .target qty => run (.resizeSell child.1 qty)

def tradeBuilderSyncParentExitChildren (leg : Leg) : ExitJob Unit := do
  let children ← run (.listChildren leg)
  let position ← run (.getParentPosition leg)
  children.forM (syncExitChild ((position.map roundTradeBuilderShareQty).getD 0))

/-- A locked leg is stopped out: what was to be unwound is kept, and the other leg goes its
own way. -/
def finalizeAfterLockedLegStopLossFill (parent : PairOrder) : ExitJob Unit := do
  if parent.row.pairSessionId.isNone ∨ ¬ tradeBuilderPairLockIsCandidateOrder parent.row then
    pure ()
  else
    let session ← run .getPairSession
    if session.status ≠ .locked ∨ session.ignoreStopLossAfterLocked then pure ()
    else
      let candidates ← run .listCandidates
      let unwinds ← run .listUnwinds
      (unwinds.filter fun unwind => !tradeBuilderIsTerminalStatus unwind.2.status).forM fun unwind =>
        run (.setSellStatus unwind.1 unwind.2.cancelStatus)
      (candidates.filter fun o => tradeBuilderPairLockIsCandidateOrder o.row &&
        o.leg != parent.leg).forM fun o => run (.detachOrder o.leg)
      run (.updatePairSessionState .completed session.lockedQty session.projectedNetProfitUsdc
        (some "locked_leg_stop_loss"))

/-- The lead is stopped out: every stop loss of the session and the other candidate go. -/
def finalizeAfterLeadStopLossFill (parent : PairOrder) : ExitJob Unit := do
  if parent.row.pairSessionId.isNone ∨ ¬ tradeBuilderPairLockIsCandidateOrder parent.row then
    pure ()
  else
    let session ← run .getPairSession
    if session.status ≠ .working ∨ ¬ stopLossSurfaceActiveFromSession session parent.row.id then
      pure ()
    else
      let orders ← run .listCandidates
      cancelStopLossChildren orders
      (orders.filter fun o => o.leg != parent.leg && tradeBuilderPairLockIsCandidateOrder o.row &&
        !tradeBuilderIsTerminalStatus o.row.status).forM fun o =>
          run (.updateOrder o.leg (.setStatus o.cancelStatus (some { reason := "lead_leg_stop_loss" })))
      run (.updatePairSessionState .completed session.lockedQty session.projectedNetProfitUsdc
        (some "lead_leg_stop_loss"))

def hasLivePosition : List PairOrder → ExitJob Bool
  | [] => pure false
  | o :: rest => do
    let position ← run (.getParentPosition o.leg)
    if position.any (LegPass.pairQtyTolerance < ·) then pure true else hasLivePosition rest

def finalizeAfterUnwindFill : ExitJob Unit := do
  let session ← run .getPairSession
  if session.status ≠ .unwinding then pure ()
  else
    let orders ← run .listCandidates
    if ← hasLivePosition (orders.filter fun o => tradeBuilderPairLockIsCandidateOrder o.row) then
      pure ()
    else
      run (.updatePairSessionState .completed session.lockedQty session.projectedNetProfitUsdc
        session.lastError)

/-- The finalizer of a filled sell. Only an exit child is taken off the position of its leg. -/
def finalizeSellFill (id : ℕ) (sell : SellOrder) (bookedQty : ℚ) : ExitJob Unit := do
  run (.setSellStatus id .completed)
  ExitJob.when sell.kind.cancelsSiblings (requestOcoCancelForSiblings id sell)
  let parent ← run (.getOrder sell.leg)
  ExitJob.when sell.kind.isExitChild
    (match normalizeTradeBuilderTerminalFillQtyCandidate (some bookedQty) with
      | some filledQty => run (.applyPositionFill sell.leg filledQty)
      | none => pure ())
  ExitJob.when (tradeBuilderOrderHasExitLadders parent.row ∧ ¬ sell.kind.cancelsSiblings)
    (logged (tradeBuilderSyncParentExitChildren sell.leg))
  ExitJob.when sell.kind.isStopLoss (logged (finalizeAfterLockedLegStopLossFill parent))
  ExitJob.when sell.kind.isStopLoss (logged (finalizeAfterLeadStopLossFill parent))
  ExitJob.when (sell.kind = .unwind) finalizeAfterUnwindFill

def processSell (id : ℕ) : ExitJob Unit := do
  match ← run (.getSell id) with
  | none => pure ()
  | some sell =>
    match ← run (.sellReport id) with
    | .pending => pure ()
    | .moves status active => do
      run (.setSellStatus id status)
      run (.setSellActive id active)
    | .fills bookedQty => finalizeSellFill id sell bookedQty

/-- What runs side by side: passes over the legs and the sells, and the requests of the
biased-hedge lifecycle. -/
inductive ExitTask
  | processLeg (leg : Leg)
  | endCandidate (leg : Leg) (status : OrderStatus) (reason : String)
  | biasedHedgePairExit (reason : String)
  | biasedHedgeTimeExit (leg : Leg) (baselineQty targetRemainingPct : ℚ)
  | processSell (id : ℕ)

def ExitTask.job : ExitTask → ExitJob Unit
  | processLeg leg => Exits.processLeg leg
  | endCandidate leg status reason => Exits.endCandidate leg status reason
  | biasedHedgePairExit reason => executeBiasedHedgePairExit reason
  | biasedHedgeTimeExit leg baselineQty pct => executeBiasedHedgeTimeExit leg baselineQty pct
  | processSell id => Exits.processSell id

/-! ### The rows -/

/-- The rows of one session. `held` is what the wallet holds of a leg's shares: the exchange
moves it, and no statement reads it. -/
structure PairExits where
  session : TradeBuilderPairSession
  order : Leg → TradeBuilderOrder
  feeRateBps : Leg → ℤ
  position : Leg → Option ℚ
  sells : List SellOrder
  held : Leg → ℚ

structure ExitReply where
  fails : Option String := none
  facts : LegFacts := {}
  usesBiasedHedge : Bool := false
  liveGapConfigured : Bool := false
  orderMinSize : Option ℚ := none
  fill : Option BuyFill := none
  gained : ℚ := 0
  sellReport : SellReport := .pending
  sold : ℚ := 0
  ladderTarget : ℕ → LadderTarget := fun _ => .absent
  timeExitQty : ℚ := 0
  seedQty : Option ℚ := none
  deriving Inhabited

/-- What an unwind request sells of a leg; dust is left. -/
def unwindQty (currentQty keepVisibleQty : ℚ) : ℚ :=
  let qty := roundTradeBuilderShareQty (max (currentQty - keepVisibleQty) 0)
  if qty ≤ LegPass.pairQtyTolerance then 0 else qty

namespace PairExits
variable (w : PairExits)

def pairOrder (leg : Leg) : PairOrder := ⟨leg, w.order leg, w.feeRateBps leg⟩

def candidates : List PairOrder :=
  ([Leg.primary, .counter].map w.pairOrder).filter (·.row.pairSessionId.isSome)

def unwinds : List (ℕ × SellOrder) :=
  (w.sells.zipIdx.map Prod.swap).filter (·.2.kind = .unwind)

def children (leg : Leg) : List (ℕ × SellOrder) :=
  (w.sells.zipIdx.map Prod.swap).filter (·.2.leg = leg)

def addSell (sell : SellOrder) : PairExits := { w with sells := w.sells ++ [sell] }

def modifySell (id : ℕ) (f : SellOrder → SellOrder) : PairExits :=
  { w with sells := w.sells.modify id f }

def modifyOrder (leg : Leg) (f : TradeBuilderOrder → TradeBuilderOrder) : PairExits :=
  { w with order := Function.update w.order leg (f (w.order leg)) }

def modifyHeld (leg : Leg) (f : ℚ → ℚ) : PairExits :=
  { w with held := Function.update w.held leg (f (w.held leg)) }

/-- The exchange sells some of what is open of an order. -/
def fillSell (id : ℕ) (sold : ℚ) : PairExits :=
  match w.sells[id]? with
  | some sell =>
    let sold := max 0 (min sold sell.remaining)
    (w.modifySell id fun sell => { sell with filled := sell.filled + sold }).modifyHeld sell.leg
      (· - sold)
  | none => w

def createUnwindOrder (leg : Leg) (currentQty keepVisibleQty : ℚ) : PairExits :=
  if unwindQty currentQty keepVisibleQty = 0 then w
  else w.addSell ⟨leg, .unwind, unwindQty currentQty keepVisibleQty, 0, .triggered, false, false⟩

end PairExits

def exitAnswer (w : PairExits) (r : ExitReply) :
    (c : ExitCall) → ExitAnswer c × PairExits
  | .getPairSession => (w.session, w)
  | .legFacts _ => (r.facts, w)
  | .usesBiasedHedge => (r.usesBiasedHedge, w)
  | .liveGapConfigured _ => (r.liveGapConfigured, w)
  | .orderMinSize _ => (r.orderMinSize, w)
  | .getOrder leg => (w.pairOrder leg, w)
  | .listCandidates => (w.candidates, w)
  | .listUnwinds => (w.unwinds, w)
  | .listChildren leg => (w.children leg, w)
  | .getSell id => (w.sells[id]?, w)
  | .getParentPosition leg => (w.position leg, w)
  | .exchange leg => (r.fill, w.modifyHeld leg (· + max r.gained 0))
  | .sellReport id => (r.sellReport, w.fillSell id r.sold)
  | .updateOrder leg u => ((), w.modifyOrder leg u.apply)
  | .detachOrder leg =>
    ((), w.modifyOrder leg ({ · with pairSessionId := none, pairLegRole := none }))
  | .setSellStatus id status => ((), w.modifySell id ({ · with status }))
  | .setSellActive id active => ((), w.modifySell id ({ · with active }))
  | .ladderTarget id => (r.ladderTarget id, w)
  | .resizeSell id qty => ((), w.modifySell id fun sell => { sell with qty := sell.filled + qty })
  | .createUnwindOrder leg currentQty keepVisibleQty =>
    ((), w.createUnwindOrder leg currentQty keepVisibleQty)
  | .createExitChild leg child =>
    ((), w.addSell ⟨leg, .exit child.child, child.qty, 0, .armed, false, false⟩)
  | .createTimeExit leg _ =>
    ((), w.addSell ⟨leg, .timeExit, r.timeExitQty, 0, .triggered, false, false⟩)
  | .ensurePosition leg canonicalEntryQty =>
    let qty := (w.position leg).getD (tradeBuilderParentPositionSeedQty r.seedQty canonicalEntryQty)
    ((), { w with position := Function.update w.position leg (some qty) })
  | .applyPositionFill leg filledQty =>
    let position := (w.position leg).map fun qty => max 0 (qty - filledQty)
    ((), { w with position := Function.update w.position leg position })
  | .recordPairSessionFill role orderId fill filledAt =>
    ((), { w with session := w.session.recordFill role orderId fill filledAt })
  | .updatePairSessionState status lockedQty profit lastError =>
    ((), { w with session := w.session.updateState status lockedQty profit lastError })

def exitAct (c : ExitCall) (w : PairExits) (r : ExitReply) :
    Except String (ExitAnswer c) × PairExits :=
  match r.fails with
  | some reason => (.error reason, w)
  | none => (.ok (exitAnswer w r c).1, (exitAnswer w r c).2)

end PolymarketBot.PairLock.Exits
