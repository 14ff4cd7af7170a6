import PolymarketBot.Builder.PairLockCreate
import PolymarketBot.Lib.Threads
import PolymarketBot.PairLock.CounterRuntime

/-! The creation of a pair-lock entry beside the processing passes of its legs, statement by
statement in any order: which fills reach the session that the counter leg waits for. -/

namespace PolymarketBot.PairLock
open Lib Prog Builder

/-- What the finalizer of a buy is called with. -/
structure BuyFill where
  canonicalEntryQty : ℚ
  executionPrice : ℚ
  feeRateBps : ℤ
  filledAt : ℤ
  forceTerminal : Bool
  deriving DecidableEq, Repr

/-- What a pass of a leg looks up besides the rows of the pair. -/
structure LegFacts where
  config : Option PairLockConfig := none
  biasedHedge : Option BiasedHedgeEnd := none
  marketEnd : Option ℤ := none
  now : ℤ := 0
  deriving DecidableEq, Repr

def BuyFill.toLegFill (fill : BuyFill) : LegFill :=
  let feeQty := estimateTradeBuilderBuyFeeShares fill.executionPrice fill.canonicalEntryQty
    (tradeBuilderFeeRateBpsOrDefault fill.feeRateBps)
  { fillQty := fill.canonicalEntryQty, feeQty
    netQty := roundTradeBuilderShareQty (max (fill.canonicalEntryQty - feeQty) 0)
    avgFillPrice := fill.executionPrice }

def tradeBuilderPairLockCommonQty (s : TradeBuilderPairSession) : Option ℚ := do
  let primary ← s.primary
  let counter ← s.counter
  let commonQty := roundTradeBuilderShareQty (min primary.netQty counter.netQty)
  if LegPass.pairQtyTolerance < commonQty then some commonQty else none

def tradeBuilderPairLockCommonCost (fill : LegFill) (commonQty : ℚ) : Option ℚ :=
  if fill.netQty ≤ 0 ∨ fill.fillQty ≤ 0 ∨ fill.avgFillPrice ≤ 0 ∨ commonQty ≤ 0 then none
  else
    let netRatio := max (1 / 10000) (min 1 (fill.netQty / fill.fillQty))
    some (commonQty / netRatio * fill.avgFillPrice)

def projectedNetProfit (s : TradeBuilderPairSession) (commonQty : ℚ) : ℚ :=
  let cost (fill : Option LegFill) : ℚ :=
    (fill.bind fun fill => tradeBuilderPairLockCommonCost fill commonQty).getD 0
  commonQty - cost s.primary - cost s.counter

/-- How a cancelled counter leaves its session; the biased-hedge runtime cancels only the row. -/
def closedStatus (reason : String) : Option PairStatus :=
  if reason = "pair_budget_exhausted" then some .expired
  else if reason = "pair_primary_failed_before_fill" then some .error
  else none

/-- Of the two decisions to unwind, the exhausted budget is the first. -/
def unwindReason (pass : LegPass) : String :=
  if (pass.config.bind pass.prepareAutoCounter).isSome then "pair_budget_exhausted"
  else "pair_orphan_grace_elapsed"

/-- The statements of a pass over a leg, each made of the calls of a model. -/
structure LegStatements (Call : Type) (Answer : Call → Type) where
  updateOrder (u : OrderUpdate) : Prog Call Answer String Unit
  closeSession (status : PairStatus) (reason : String) : Prog Call Answer String Unit
  unwind (reason : String) : Prog Call Answer String Unit
  biasedHedgeFill : Prog Call Answer String Bool
  lock (session : TradeBuilderPairSession) (commonQty : ℚ) : Prog Call Answer String Unit

namespace LegStatements
variable {Call : Type} {Answer : Call → Type} (leg : LegStatements Call Answer)

/-- What the fill of a leg does to its session once it is recorded there. -/
def lockMatched (session : TradeBuilderPairSession) : Prog Call Answer String Unit := do
  if ← leg.biasedHedgeFill then pure ()
  else if session.status ≠ .working then pure ()
  else
    match tradeBuilderPairLockCommonQty session with
    | none => pure ()
    | some commonQty => leg.lock session commonQty

def closePairSession (reason : String) (status : PairStatus) : Prog Call Answer String Unit :=
  if closedStatus reason = some status then leg.closeSession status reason else pure ()

/-- What the runtime's decision does to the leg's row and to the session; true if it ends the
pass. -/
def applyCounterDecision (pass : LegPass) : CounterDecision → Prog Call Answer String Bool
  | .proceeds _ => pure false
  | .rebases r eligibleBeforeAt => do
    leg.updateOrder (.updateSizingAndState r.sizeBasis r.sizeUsdc r.targetQty r.remainingSize
      r.remainingQty .pending none pass.order.eligibleAfterAt eligibleBeforeAt)
    pure true
  | .ends action => do
    match action with
    | .sessionClosed =>
      if isTradeBuilderOrderProcessableStatus pass.order.status then
        leg.updateOrder (.setStatus .canceled (some (text "pair_session_closed")))
        pure true
      else pure false
    | .cancel reason =>
      -- an exhausted budget closes the session first, a failed primary the counter
      leg.closePairSession reason .expired
      leg.updateOrder (.setStatus .canceled (some (text reason)))
      leg.closePairSession reason .error
      pure true
    | .hold =>
      if pass.order.status = .inventoryPending ∧
          pass.order.lastError = some (text "pair_counter_waiting_primary_fill") then pure true
      else
        leg.updateOrder (.setStatus .inventoryPending
          (some (text "pair_counter_waiting_primary_fill")))
        pure true
    | .unwind =>
      leg.unwind (unwindReason pass)
      pure true
    | .rebase sizeBasis sizeUsdc targetQty remainingSize remainingQty eligibleBeforeAt =>
      leg.updateOrder (.updateSizingAndState sizeBasis sizeUsdc targetQty remainingSize
        remainingQty .pending none pass.order.eligibleAfterAt eligibleBeforeAt)
      pure true
    | .wait => pure true
    | .proceed _ => pure false

end LegStatements

/-- The calls of the entry's creation and of the passes that process its legs. -/
inductive PairLoopCall
  | creation (c : PairCall)
  | getOrder (leg : Leg)
  | getPairSession (id : ℤ)
  | legFacts (leg : Leg)
  | exchange (leg : Leg)
  | updateOrder (leg : Leg) (u : OrderUpdate)
  | recordPairSessionFill (id : ℤ) (role : PairLegRole) (orderId : ℤ) (fill : LegFill)
      (filledAt : ℤ)
  | biasedHedgeFill (id : ℤ)
  | updatePairSessionState (id : ℤ) (status : PairStatus) (lockedQty projectedNetProfit : Option ℚ)
      (lastError : Option String)
  | scheduleUnwind (id : ℤ) (nextStatus : PairStatus) (reason : String) (keepQty : ℚ)
  | cancelStopLossAfterLocked (id : ℤ)
  | finishFill (leg : Leg) (order : TradeBuilderOrder) (nextStatus : OrderStatus)

abbrev PairLoopAnswer : PairLoopCall → Type
  | .creation c => PairAnswer c
  | .getOrder _ => Option TradeBuilderOrder
  | .getPairSession _ => Option TradeBuilderPairSession
  | .legFacts _ => LegFacts
  | .exchange _ => Option BuyFill
  | .biasedHedgeFill _ => Bool
  | _ => Unit

abbrev PairLoopJob (α : Type) := Prog PairLoopCall PairLoopAnswer String α

namespace PairLoopJob

def run (c : PairLoopCall) : PairLoopJob (PairLoopAnswer c) := perform c

/-- The creation as a thread beside the passes. -/
def ofCreation {α : Type} : PairJob α → PairLoopJob α
  | .done a => .done a
  | .fail e => .fail e
  | .call c k => .call (.creation c) fun x => ofCreation (k x)

end PairLoopJob

open PairLoopJob (run)

def legStatements (leg : Leg) (id : ℤ) : LegStatements PairLoopCall PairLoopAnswer where
  updateOrder u := run (.updateOrder leg u)
  closeSession status reason := run (.updatePairSessionState id status none none (some reason))
  unwind reason := run (.scheduleUnwind id .unwinding reason 0)
  biasedHedgeFill := run (.biasedHedgeFill id)
  lock session commonQty := do
    run (.updatePairSessionState id .locked (some commonQty)
      (some (projectedNetProfit session commonQty)) none)
    run (.scheduleUnwind id .locked "pair_locked_residue_unwind" commonQty)
    run (.cancelStopLossAfterLocked id)

def maybeHandleTradeBuilderPairLockBuyFill (leg : Leg) (order : TradeBuilderOrder)
    (fill : BuyFill) : PairLoopJob Unit := do
  match order.pairSessionId with
  | none => pure ()
  | some id =>
    if ¬ tradeBuilderPairLockIsCandidateOrder order then pure ()
    else
      run (.recordPairSessionFill id (order.pairLegRole.getD .leadCandidate) order.id
        fill.toLegFill fill.filledAt)
      match ← run (.getPairSession id) with
      | none => pure ()
      | some session => (legStatements leg id).lockMatched session

/-- The finalizer of a filled leg, from the row its pass has read. -/
def finalizeLegFill (leg : Leg) (order : TradeBuilderOrder) (fill : BuyFill) :
    PairLoopJob Unit := do
  run (.updateOrder leg .incrementTriggerCount)
  run (.updateOrder leg (.setFilledQty fill.canonicalEntryQty))
  maybeHandleTradeBuilderPairLockBuyFill leg order fill
  run (.finishFill leg order (finalizeNextStatus order fill.forceTerminal))

def pairLockRuntime (leg : Leg) (order : TradeBuilderOrder) : PairLoopJob Bool := do
  match order.pairSessionId with
  | none => pure false
  | some id =>
    if ¬ tradeBuilderPairLockIsCandidateOrder order ∨ order.side ≠ .buy then pure false
    else
      match ← run (.getPairSession id) with
      | none => pure false
      | some session =>
        let facts ← run (.legFacts leg)
        let primary ← run (.getOrder .primary)
        let pass : LegPass := { session, order, primary, config := facts.config
                                biasedHedge := facts.biasedHedge, marketEnd := facts.marketEnd
                                now := facts.now }
        (legStatements leg id).applyCounterDecision pass pass.applyRuntime

/-- A pass of the processing loop over a leg: the row is read once, and what the exchange
reports filled is finalized from that row. -/
def processLeg (leg : Leg) : PairLoopJob Unit := do
  match ← run (.getOrder leg) with
  | none => pure ()
  | some order =>
    if ¬ isTradeBuilderOrderProcessableStatus order.status then pure ()
    else if ← pairLockRuntime leg order then pure ()
    else
      match ← run (.exchange leg) with
      | none => pure ()
      | some fill => finalizeLegFill leg order fill

/-- The rows of an entry. `entry` is the session its creation has inserted, and `booked` tells
of each leg whether a finalizer has run a fill of it to its end. -/
structure PairRows where
  order : Leg → Option TradeBuilderOrder
  sessions : ℤ → Option TradeBuilderPairSession
  entry : Option ℤ
  booked : Leg → Bool

/-- What is decided outside about one call. -/
structure LoopReply where
  fails : Option String := none
  admission : Admission := .creates {}
  pairSessionId : ℤ := 1
  newSession : TradeBuilderPairSession := { pairTargetTotalCent := 100 }
  facts : LegFacts := {}
  fill : Option BuyFill := none
  biasedHedge : Bool := false

namespace PairRows
variable (w : PairRows)

def setOrder (leg : Leg) (order : Option TradeBuilderOrder) : PairRows :=
  { w with order := Function.update w.order leg order }

def modifyOrder (leg : Leg) (f : TradeBuilderOrder → TradeBuilderOrder) : PairRows :=
  w.setOrder leg ((w.order leg).map f)

def modifySession (id : ℤ) (f : TradeBuilderPairSession → TradeBuilderPairSession) : PairRows :=
  { w with sessions := Function.update w.sessions id ((w.sessions id).map f) }

/-- The row names no session, or one that exists. -/
def refersTo (order : TradeBuilderOrder) : Bool :=
  order.pairSessionId.all fun id => (w.sessions id).isSome

end PairRows

/-- The statements of the creation. A new session takes a number no session has, and a row
names only sessions that exist. -/
def creationAnswer (w : PairRows) (r : LoopReply) :
    (c : PairCall) → Except String (PairAnswer c) × PairRows
  | .preflight _ => (.ok r.admission, w)
  | .createOrder leg row => (.ok (), w.setOrder leg (some { row with pairSessionId := none }))
  | .rearmOrder leg existing u =>
    if w.refersTo existing.order then (.ok (), w.setOrder leg (some (u.apply existing.order)))
    else (.error "trade_builder_orders_pair_session_id_fkey", w)
  | .cancelOrder leg reason =>
    (.ok (), w.modifyOrder leg (OrderUpdate.setStatus .canceled (some (text reason))).apply)
  | .createPairSession =>
    if (w.sessions r.pairSessionId).isSome then (.error "trade_builder_pair_sessions_pkey", w)
    else
      (.ok r.pairSessionId, { w with
        sessions := Function.update w.sessions r.pairSessionId
          (some { r.newSession with status := .working, leadOrderId := none })
        entry := some r.pairSessionId })
  | .attachPairSessionOrders =>
    (.ok (), match w.entry, w.order .primary, w.order .counter with
      | some id, some primary, some counter =>
        w.modifySession id (·.attachOrders primary.id counter.id)
      | _, _, _ => w)
  | .setPairSession leg id =>
    if (w.sessions id).isSome then
      (.ok (), w.modifyOrder leg fun row =>
        { row with pairSessionId := some id, pairLegRole := some (pairRole leg) })
    else (.error "trade_builder_orders_pair_session_id_fkey", w)
  | .holdCounter =>
    (.ok (), w.modifyOrder .counter (OrderUpdate.setStatus .inventoryPending
      (some (text "pair_counter_waiting_primary_fill"))).apply)
  | .prepare => (.ok (), w)
  | .followUp _ _ => (.ok (), w)
  | .holdEvent => (.ok (), w)
  | .sessionEvent => (.ok (), w)

def loopAnswer (w : PairRows) (r : LoopReply) :
    (c : PairLoopCall) → Except String (PairLoopAnswer c) × PairRows
  | .creation c => creationAnswer w r c
  | .getOrder leg => (.ok (w.order leg), w)
  | .getPairSession id => (.ok (w.sessions id), w)
  | .legFacts _ => (.ok r.facts, w)
  | .exchange _ => (.ok r.fill, w)
  | .updateOrder leg u => (.ok (), w.modifyOrder leg u.apply)
  | .recordPairSessionFill id role orderId fill filledAt =>
    (.ok (), w.modifySession id (·.recordFill role orderId fill filledAt))
  | .biasedHedgeFill _ => (.ok r.biasedHedge, w)
  | .updatePairSessionState id status lockedQty profit lastError =>
    (.ok (), w.modifySession id (·.updateState status lockedQty profit lastError))
  | .scheduleUnwind id nextStatus reason _ =>
    (.ok (), w.modifySession id (·.updateState nextStatus none none (some reason)))
  | .cancelStopLossAfterLocked _ => (.ok (), w)
  | .finishFill leg _ nextStatus =>
    (.ok (), { w.modifyOrder leg (OrderUpdate.clearActiveExchangeOrder nextStatus).apply with
      booked := Function.update w.booked leg true })

def loopAct {ι : Type} (_ : ι) (c : PairLoopCall) (w : PairRows) (r : LoopReply) :
    Except String (PairLoopAnswer c) × PairRows :=
  match r.fails with
  | some reason => (.error reason, w)
  | none => loopAnswer w r c

/-- The counter leg is bound to the entry's session, which is working and knows no lead. -/
def CounterWaits (w : PairRows) : Prop :=
  ∃ id session counter, w.entry = some id ∧ w.sessions id = some session ∧
    w.order .counter = some counter ∧ counter.pairSessionId = some id ∧
    session.status = .working ∧ session.leadOrderId = none

theorem counterWaits_iff (w : PairRows) : CounterWaits w ↔ (w.entry.any fun id =>
    (w.sessions id).any (fun session =>
      session.status == .working && session.leadOrderId.isNone) &&
    (w.order .counter).any fun counter => counter.pairSessionId == some id) = true := by
  constructor
  · rintro ⟨id, session, counter, hentry, hsession, hcounter, hnamed, hworking, hlead⟩
    simp [hentry, hsession, hcounter, hnamed, hworking, hlead]
  · intro h
    obtain ⟨id, hentry, h⟩ := (Option.any_eq_true _ _).mp h
    obtain ⟨hsession, hcounter⟩ := Bool.and_eq_true_iff.mp h
    obtain ⟨session, hsession, hwaits⟩ := (Option.any_eq_true _ _).mp hsession
    obtain ⟨counter, hcounter, hnamed⟩ := (Option.any_eq_true _ _).mp hcounter
    obtain ⟨hworking, hlead⟩ := Bool.and_eq_true_iff.mp hwaits
    exact ⟨id, session, counter, hentry, hsession, hcounter, by simpa using hnamed,
      by simpa using hworking, by simpa using hlead⟩

instance (w : PairRows) : Decidable (CounterWaits w) := decidable_of_iff _ (counterWaits_iff w).symm

/-- The counter never waits for a fill that has been finalized already. -/
def NoFillMissed (w : PairRows) : Prop := CounterWaits w → ∀ leg, w.booked leg = false

/-- The row that a finalizer works from is a leg of the entry's session. -/
def OfEntry (order : TradeBuilderOrder) (w : PairRows) : Prop :=
  order.pairSessionId = w.entry ∧ tradeBuilderPairLockIsCandidateOrder order = true

/-- Binding the counter makes it wait: the session of this number is the entry's, working and
without a lead. -/
def StartsWaiting (id : ℤ) (w : PairRows) : Prop :=
  w.entry = some id ∧ (w.order .counter).isSome ∧
    ∃ session, w.sessions id = some session ∧ session.status = .working ∧
      session.leadOrderId = none

/-- No leg is filled before the counter begins to wait, and a fill booked while it waits was
finalized from a row that named the session already. -/
def FillSeesSession {ι : Type} (_ : ι) (c : PairLoopCall) (w : PairRows) (r : LoopReply) : Prop :=
  match c with
  | .creation (.setPairSession .counter id) =>
    r.fails.isSome ∨ (StartsWaiting id w → ∀ leg, w.booked leg = false)
  | .finishFill _ order _ => r.fails.isSome ∨ (CounterWaits w → OfEntry order w)
  | _ => True

/-- What a thread relies on: whether the session can still be created by it, the sessions it
has seen on rows and those it has recorded a fill in. -/
structure Seen where
  created : Bool
  named : ℤ → Bool
  recorded : ℤ → Bool

def pairProtocol : Protocol PairLoopCall PairLoopAnswer String Seen where
  next s c x :=
    match c, x with
    | .creation .createPairSession, .ok _ => { s with created := true }
    | .getOrder _, .ok (some row) =>
      { s with named := fun id => s.named id || row.pairSessionId == some id }
    | .recordPairSessionFill id _ _ _ _, .ok _ =>
      { s with recorded := Function.update s.recorded id true }
    | _, _ => s
  allows s c :=
    match c with
    | .creation .createPairSession => s.created = false
    | .creation (.createOrder _ _) => s.created = false
    | .creation (.rearmOrder _ _ _) => s.created = false
    | .recordPairSessionFill id _ _ _ _ => s.named id = true
    | .updatePairSessionState _ status _ _ _ => status ≠ .working
    | .scheduleUnwind _ nextStatus _ _ => nextStatus ≠ .working
    | .finishFill _ order _ => ∀ id, order.pairSessionId = some id →
        tradeBuilderPairLockIsCandidateOrder order = true → s.recorded id = true
    | _ => True

/-- Rows name sessions that exist. -/
structure RowsOk (w : PairRows) : Prop where
  named : ∀ leg row id, w.order leg = some row → row.pairSessionId = some id →
    (w.sessions id).isSome = true
  law : NoFillMissed w

/-- Only the creation inserts the session; what a thread has seen or recorded stays true. -/
structure Knows {κ : Type} (i : Option κ) (s : Seen) (w : PairRows) : Prop where
  creator : i ≠ none → s.created = true
  fresh : s.created = false → w.entry = none
  named : ∀ id, s.named id = true → (w.sessions id).isSome = true
  recorded : ∀ id, s.recorded id = true →
    ∃ session, w.sessions id = some session ∧ session.leadOrderId.isSome = true

def SessionsKept (w w' : PairRows) : Prop :=
  ∀ id session, w.sessions id = some session → ∃ session', w'.sessions id = some session' ∧
    (session.leadOrderId.isSome = true → session'.leadOrderId.isSome = true)

/-- Nothing that the law speaks of comes up: no session opens or goes back to working, no leg
is bound and no fill is booked. -/
structure Settles (w w' : PairRows) : Prop where
  entry : w'.entry = w.entry
  booked : w'.booked = w.booked
  kept : SessionsKept w w'
  working : ∀ id session', w'.sessions id = some session' → session'.status = .working →
    ∃ session, w.sessions id = some session ∧ session.status = .working
  rows : ∀ leg row', w'.order leg = some row' →
    ∃ row, w.order leg = some row ∧ row'.pairSessionId = row.pairSessionId

section Settles
variable {w w' : PairRows}

theorem SessionsKept.refl (w : PairRows) : SessionsKept w w := by
  intro id session hs
  exact ⟨session, hs, fun hlead => hlead⟩

theorem Settles.refl (w : PairRows) : Settles w w where
  entry := rfl
  booked := rfl
  kept := .refl w
  working _ session hs hworking := ⟨session, hs, hworking⟩
  rows _ row hrow := ⟨row, hrow, rfl⟩

theorem settles_modifyOrder (w : PairRows) (leg : Leg) {f : TradeBuilderOrder → TradeBuilderOrder}
    (hf : ∀ row, (f row).pairSessionId = row.pairSessionId) : Settles w (w.modifyOrder leg f) where
  entry := rfl
  booked := rfl
  kept := .refl w
  working _ session hs hworking := ⟨session, hs, hworking⟩
  rows leg' row' hrow := by
    by_cases hleg : leg' = leg
    · subst hleg
      simp only [PairRows.modifyOrder, PairRows.setOrder, Function.update_self,
        Option.map_eq_some_iff] at hrow
      obtain ⟨row, hrow, rfl⟩ := hrow
      exact ⟨row, hrow, hf row⟩
    · simp only [PairRows.modifyOrder, PairRows.setOrder, Function.update_of_ne hleg] at hrow
      exact ⟨row', hrow, rfl⟩

theorem settles_modifySession (w : PairRows) (id : ℤ)
    {f : TradeBuilderPairSession → TradeBuilderPairSession}
    (hlead : ∀ s, s.leadOrderId.isSome = true → (f s).leadOrderId.isSome = true)
    (hworking : ∀ s, (f s).status = .working → s.status = .working) :
    Settles w (w.modifySession id f) where
  entry := rfl
  booked := rfl
  kept id' session hs := by
    by_cases hid : id' = id
    · subst hid
      exact ⟨f session, by simp [PairRows.modifySession, hs], hlead session⟩
    · exact ⟨session, by simp [PairRows.modifySession, hs, Function.update_of_ne hid], fun h => h⟩
  working id' session' hs hstatus := by
    by_cases hid : id' = id
    · subst hid
      simp only [PairRows.modifySession, Function.update_self, Option.map_eq_some_iff] at hs
      obtain ⟨session, hs, rfl⟩ := hs
      exact ⟨session, hs, hworking session hstatus⟩
    · simp only [PairRows.modifySession, Function.update_of_ne hid] at hs
      exact ⟨session', hs, hstatus⟩
  rows _ row hrow := ⟨row, hrow, rfl⟩

theorem Settles.waits (h : Settles w w') (hwait : CounterWaits w') :
    CounterWaits w := by
  obtain ⟨id, session', counter', hentry, hsession', hcounter', hnamed, hworking, hlead⟩ := hwait
  obtain ⟨counter, hcounter, hsame⟩ := h.rows .counter counter' hcounter'
  obtain ⟨session, hsession, hstatus⟩ := h.working id session' hsession' hworking
  obtain ⟨session'', hsession'', hkept⟩ := h.kept id session hsession
  have heq : session'' = session' := by
    simpa [hsession'] using hsession''.symm
  have hnone : session.leadOrderId = none := by
    by_contra hne
    have := hkept (Option.isSome_iff_ne_none.mpr hne)
    simp [heq, hlead] at this
  exact ⟨id, session, counter, by rw [← h.entry, hentry], hsession, hcounter,
    by rw [← hsame, hnamed], hstatus, hnone⟩

theorem Settles.law (h : Settles w w') (hrows : RowsOk w) : NoFillMissed w' := by
  intro hwait
  rw [h.booked]
  exact hrows.law (h.waits hwait)

theorem SessionsKept.isSome (h : SessionsKept w w') {id : ℤ}
    (hs : (w.sessions id).isSome = true) : (w'.sessions id).isSome = true := by
  obtain ⟨session, hsession⟩ := Option.isSome_iff_exists.mp hs
  obtain ⟨session', hsession', -⟩ := h id session hsession
  simp [hsession']

theorem Settles.rowsOk (h : Settles w w') (hw : RowsOk w) : RowsOk w' where
  named leg row' id hrow' hid := by
    obtain ⟨row, hrow, hsame⟩ := h.rows leg row' hrow'
    exact h.kept.isSome (hw.named leg row id hrow (by rw [← hsame, hid]))
  law := h.law hw

theorem Knows.mono {κ : Type} {i : Option κ} {s : Seen} (h : Knows i s w)
    (hentry : s.created = false → w'.entry = w.entry) (hkept : SessionsKept w w') :
    Knows i s w' where
  creator := h.creator
  fresh hf := by rw [hentry hf, h.fresh hf]
  named id hid := hkept.isSome (h.named id hid)
  recorded id hid := by
    obtain ⟨session, hsession, hlead⟩ := h.recorded id hid
    obtain ⟨session', hsession', hkeeps⟩ := hkept id session hsession
    exact ⟨session', hsession', hkeeps hlead⟩

end Settles

/-- The calls that bind, insert or book something. -/
def PairLoopCall.binds : PairLoopCall → Bool
  | .creation c =>
    match c with
    | .createOrder _ _ | .rearmOrder _ _ _ | .createPairSession | .setPairSession _ _ => true
    | _ => false
  | .finishFill _ _ _ => true
  | _ => false

theorem OrderUpdate_apply_pairSessionId (u : OrderUpdate) (row : TradeBuilderOrder) :
    (u.apply row).pairSessionId = row.pairSessionId := by
  cases u <;> rfl

section Steps
variable {κ : Type} {i : Option κ} {s : Seen} {w : PairRows} {r : LoopReply}

theorem loopAct_fails {c : PairLoopCall} {reason : String} (hf : r.fails = some reason) :
    loopAct i c w r = (.error reason, w) := by
  rw [loopAct, hf]

theorem loopAct_answers {c : PairLoopCall} (hf : r.fails = none) :
    loopAct i c w r = loopAnswer w r c := by
  rw [loopAct, hf]

theorem creationAnswer_settles {c : PairCall} (hc : (PairLoopCall.creation c).binds = false) :
    Settles w (creationAnswer w r c).2 := by
  cases c with
  | createOrder leg row => cases hc
  | rearmOrder leg existing u => cases hc
  | createPairSession => cases hc
  | setPairSession leg id => cases hc
  | cancelOrder leg reason =>
    exact settles_modifyOrder w leg (OrderUpdate_apply_pairSessionId _)
  | holdCounter => exact settles_modifyOrder w .counter (OrderUpdate_apply_pairSessionId _)
  | attachPairSessionOrders =>
    simp only [creationAnswer]
    split
    · exact settles_modifySession w _ (fun _ h => h) fun _ h => h
    · exact .refl w
  | _ => exact .refl w

theorem loopAct_settles {c : PairLoopCall} (hc : c.binds = false)
    (ha : pairProtocol.allows s c) : Settles w (loopAct i c w r).2 := by
  cases hf : r.fails with
  | some reason =>
    rw [loopAct_fails hf]
    exact .refl w
  | none =>
    rw [loopAct_answers hf]
    cases c with
    | creation c => exact creationAnswer_settles hc
    | finishFill leg order nextStatus => cases hc
    | updateOrder leg u => exact settles_modifyOrder w leg (OrderUpdate_apply_pairSessionId u)
    | recordPairSessionFill id role orderId fill filledAt =>
      refine settles_modifySession w id (fun session _ => ?_) fun session h => ?_
      · simp only [TradeBuilderPairSession.recordFill]
        split <;> rfl
      · simp only [TradeBuilderPairSession.recordFill] at h
        split at h <;> exact h
    | updatePairSessionState id status lockedQty profit lastError =>
      exact settles_modifySession w id (fun _ h => h) fun _ h => absurd h ha
    | scheduleUnwind id nextStatus reason keepQty =>
      exact settles_modifySession w id (fun _ h => h) fun _ h => absurd h ha
    | _ => exact .refl w

theorem loopAct_knows {c : PairLoopCall} (hc : c.binds = false) (hw : RowsOk w)
    (hk : Knows i s w) (ha : pairProtocol.allows s c) :
    Knows i (pairProtocol.next s c (loopAct i c w r).1) (loopAct i c w r).2 := by
  have hset : Settles w (loopAct i c w r).2 := loopAct_settles hc ha
  have hsame : Knows i s (loopAct i c w r).2 := hk.mono (fun _ => hset.entry) hset.kept
  cases hf : r.fails with
  | some reason =>
    rw [loopAct_fails hf] at hsame ⊢
    have hnext : pairProtocol.next s c (.error reason) = s := by
      cases c with
      | creation c => cases c <;> rfl
      | _ => rfl
    rw [hnext]
    exact hsame
  | none =>
    rw [loopAct_answers hf] at hsame ⊢
    cases c with
    | creation c =>
      cases c with
      | createPairSession => cases hc
      | _ => exact hsame
    | getOrder leg =>
      cases hrow : w.order leg with
      | none => simpa only [loopAnswer, hrow, pairProtocol] using hsame
      | some row =>
        simp only [loopAnswer, hrow, pairProtocol] at hsame ⊢
        refine ⟨hsame.creator, hsame.fresh, fun id hid => ?_, hsame.recorded⟩
        rcases Bool.or_eq_true_iff.mp hid with hseen | hrow'
        · exact hsame.named id hseen
        · exact hw.named leg row id hrow (by simpa using hrow')
    | recordPairSessionFill id role orderId fill filledAt =>
      simp only [loopAnswer, pairProtocol] at hsame ⊢
      refine ⟨hsame.creator, hsame.fresh, hsame.named, fun id' hid => ?_⟩
      by_cases hne : id' = id
      · subst hne
        obtain ⟨session, hsession⟩ := Option.isSome_iff_exists.mp (hk.named id' ha)
        have hlead : (session.recordFill role orderId fill filledAt).leadOrderId.isSome = true := by
          simp only [TradeBuilderPairSession.recordFill]
          split <;> rfl
        have hrow : (w.modifySession id' (·.recordFill role orderId fill filledAt)).sessions id' =
            some (session.recordFill role orderId fill filledAt) := by
          simp [PairRows.modifySession, hsession]
        exact ⟨_, hrow, hlead⟩
      · have hold : s.recorded id' = true := by
          simpa [Function.update_of_ne hne] using hid
        exact hsame.recorded id' hold
    | _ => exact hsame

/-- What a call that binds something does, and to whose knowledge. -/
structure Binds (i : Option κ) (c : PairLoopCall) (s : Seen) (w : PairRows) (r : LoopReply) :
    Prop where
  law : NoFillMissed (loopAct i c w r).2 ↔ FillSeesSession i c w r
  named : ∀ leg row id, (loopAct i c w r).2.order leg = some row → row.pairSessionId = some id →
    ((loopAct i c w r).2.sessions id).isSome = true
  own : Knows i (pairProtocol.next s c (loopAct i c w r).1) (loopAct i c w r).2
  others : ∀ j ≠ i, ∀ t, Knows j t w → Knows j t (loopAct i c w r).2

theorem binds_fails {c : PairLoopCall} (hw : RowsOk w) (hk : Knows i s w) {reason : String}
    (hf : r.fails = some reason) : Binds i c s w r := by
  have hnext : pairProtocol.next s c (.error reason) = s := by
    cases c with
    | creation c => cases c <;> rfl
    | _ => rfl
  have hok : FillSeesSession i c w r := by
    have hsome : r.fails.isSome = true := by simp [hf]
    unfold FillSeesSession
    split
    · exact .inl hsome
    · exact .inl hsome
    · trivial
  constructor
  · rw [loopAct_fails hf]
    exact iff_of_true hw.law hok
  · rw [loopAct_fails hf]
    exact hw.named
  · rw [loopAct_fails hf, hnext]
    exact hk
  · rw [loopAct_fails hf]
    exact fun _ _ _ h => h

theorem not_waits_of_entry (h : w.entry = none) : ¬ CounterWaits w := by
  rintro ⟨id, session, counter, hentry, -⟩
  rw [h] at hentry
  cases hentry

theorem binds_setOrder (hw : RowsOk w) (hk : Knows i s w) (hs : s.created = false)
    {c : PairLoopCall} (leg : Leg) {row : TradeBuilderOrder} (hrow : w.refersTo row = true)
    (hw' : (loopAct i c w r).2 = w.setOrder leg (some row))
    (hnext : pairProtocol.next s c (loopAct i c w r).1 = s)
    (hok : FillSeesSession i c w r) : Binds i c s w r := by
  have hentry : w.entry = none := hk.fresh hs
  constructor
  · rw [hw']
    refine iff_of_true (fun hwait => ?_) hok
    exact absurd hwait (not_waits_of_entry hentry)
  · rw [hw']
    intro leg' row' id hrow' hid
    by_cases hleg : leg' = leg
    · subst hleg
      simp only [PairRows.setOrder, Function.update_self, Option.some.injEq] at hrow'
      subst hrow'
      simpa [PairRows.refersTo, hid, PairRows.setOrder] using hrow
    · simp only [PairRows.setOrder, Function.update_of_ne hleg] at hrow'
      exact hw.named leg' row' id hrow' hid
  · rw [hw', hnext]
    exact ⟨hk.creator, hk.fresh, hk.named, hk.recorded⟩
  · rw [hw']
    exact fun _ _ _ h => ⟨h.creator, h.fresh, h.named, h.recorded⟩

theorem binds_createOrder (hw : RowsOk w) (hk : Knows i s w) (leg : Leg)
    (row : TradeBuilderOrder)
    (ha : pairProtocol.allows s (.creation (.createOrder leg row))) :
    Binds i (.creation (.createOrder leg row)) s w r := by
  cases hf : r.fails with
  | some reason => exact binds_fails hw hk hf
  | none =>
    have hrow : w.refersTo { row with pairSessionId := none } = true := rfl
    refine binds_setOrder hw hk ha leg hrow ?_ rfl trivial
    rw [loopAct_answers hf]
    rfl

theorem binds_rearmOrder (hw : RowsOk w) (hk : Knows i s w) (leg : Leg)
    (existing : World) (u : OrderUpdate)
    (ha : pairProtocol.allows s (.creation (.rearmOrder leg existing u))) :
    Binds i (.creation (.rearmOrder leg existing u)) s w r := by
  cases hf : r.fails with
  | some reason => exact binds_fails hw hk hf
  | none =>
    by_cases hrefers : w.refersTo existing.order = true
    · have hrow : w.refersTo (u.apply existing.order) = true := by
        simpa [PairRows.refersTo, OrderUpdate_apply_pairSessionId] using hrefers
      refine binds_setOrder hw hk ha leg hrow ?_ rfl trivial
      rw [loopAct_answers hf]
      simp [loopAnswer, creationAnswer, hrefers]
    · have hsame : (loopAct i (.creation (.rearmOrder leg existing u)) w r).2 = w := by
        rw [loopAct_answers hf]
        simp [loopAnswer, creationAnswer, hrefers]
      constructor
      · rw [hsame]
        exact iff_of_true hw.law trivial
      · rw [hsame]
        exact hw.named
      · rw [hsame]
        exact hk
      · rw [hsame]
        exact fun _ _ _ h => h

theorem binds_createPairSession (hw : RowsOk w) (hk : Knows i s w)
    (ha : pairProtocol.allows s (.creation .createPairSession)) :
    Binds i (.creation .createPairSession) s w r := by
  cases hf : r.fails with
  | some reason => exact binds_fails hw hk hf
  | none =>
    cases hnew : w.sessions r.pairSessionId with
    | some old =>
      have hact : loopAct i (.creation .createPairSession) w r =
          (.error "trade_builder_pair_sessions_pkey", w) := by
        rw [loopAct_answers hf]
        simp [loopAnswer, creationAnswer, hnew]
      constructor
      · rw [hact]
        exact iff_of_true hw.law trivial
      · rw [hact]
        exact hw.named
      · rw [hact]
        exact hk
      · rw [hact]
        exact fun _ _ _ h => h
    | none =>
      have hact : loopAct i (.creation .createPairSession) w r = (.ok r.pairSessionId, { w with
          sessions := Function.update w.sessions r.pairSessionId
            (some { r.newSession with status := .working, leadOrderId := none })
          entry := some r.pairSessionId }) := by
        rw [loopAct_answers hf]
        simp [loopAnswer, creationAnswer, hnew]
      have hkept : SessionsKept w (loopAct i (.creation .createPairSession) w r).2 := by
        rw [hact]
        intro id session hs
        have hne : id ≠ r.pairSessionId := by
          rintro rfl
          rw [hnew] at hs
          cases hs
        exact ⟨session, by simpa [Function.update_of_ne hne] using hs, fun hlead => hlead⟩
      have hcreator : i = none := by
        by_contra hne
        have := hk.creator hne
        rw [ha] at this
        cases this
      constructor
      · rw [hact]
        refine iff_of_true (fun hwait => ?_) trivial
        obtain ⟨id, session, counter, hentry, -, hcounter, hnamed, -⟩ := hwait
        have hid : id = r.pairSessionId := by
          simpa using hentry.symm
        have := hw.named .counter counter id hcounter hnamed
        rw [hid, hnew] at this
        cases this
      · intro leg row id hrow hid
        refine hkept.isSome (hw.named leg row id ?_ hid)
        rw [hact] at hrow
        exact hrow
      · have hmono : Knows i { s with created := true } (loopAct i (.creation .createPairSession)
            w r).2 :=
          Knows.mono ⟨fun _ => rfl, fun h => (by cases h), hk.named, hk.recorded⟩
            (fun h => by cases h) hkept
        rw [hact] at hmono ⊢
        exact hmono
      · intro j hj t ht
        refine ht.mono (fun hcreated => ?_) hkept
        have := ht.creator (hcreator ▸ hj)
        rw [hcreated] at this
        cases this

theorem waits_after_bind {id : ℤ} :
    CounterWaits (w.modifyOrder .counter fun row =>
      { row with pairSessionId := some id, pairLegRole := some (pairRole .counter) }) ↔
      StartsWaiting id w := by
  constructor
  · rintro ⟨id', session, counter, hentry, hsession, hcounter, hnamed, hworking, hlead⟩
    simp only [PairRows.modifyOrder, PairRows.setOrder, Function.update_self,
      Option.map_eq_some_iff] at hcounter
    obtain ⟨row, hrow, rfl⟩ := hcounter
    have hid : id = id' := by
      simpa using hnamed
    subst hid
    exact ⟨hentry, by simp [hrow], session, hsession, hworking, hlead⟩
  · rintro ⟨hentry, hcounter, session, hsession, hworking, hlead⟩
    obtain ⟨row, hrow⟩ := Option.isSome_iff_exists.mp hcounter
    have hbound : (w.modifyOrder .counter fun row =>
        { row with pairSessionId := some id, pairLegRole := some (pairRole .counter) }).order
          .counter =
        some { row with pairSessionId := some id, pairLegRole := some (pairRole .counter) } := by
      simp only [PairRows.modifyOrder, PairRows.setOrder, Function.update_self, hrow,
        Option.map_some]
    exact ⟨id, session, _, hentry, hsession, hbound, rfl, hworking, hlead⟩

theorem binds_setPairSession (hw : RowsOk w) (hk : Knows i s w) (leg : Leg) (id : ℤ) :
    Binds i (.creation (.setPairSession leg id)) s w r := by
  cases hf : r.fails with
  | some reason => exact binds_fails hw hk hf
  | none =>
    by_cases hid : (w.sessions id).isSome = true
    · have hact : (loopAct i (.creation (.setPairSession leg id)) w r).2 =
          w.modifyOrder leg fun row =>
            { row with pairSessionId := some id, pairLegRole := some (pairRole leg) } := by
        rw [loopAct_answers hf]
        simp [loopAnswer, creationAnswer, hid]
      constructor
      · rw [hact]
        cases leg with
        | primary =>
          refine iff_of_true (fun hwait => hw.law ?_) trivial
          obtain ⟨id', session, counter, hentry, hsession, hcounter, hrest⟩ := hwait
          have hcounter' : w.order .counter = some counter := by
            rw [← hcounter]
            simp [PairRows.modifyOrder, PairRows.setOrder, Function.update]
          exact ⟨id', session, counter, hentry, hsession, hcounter', hrest⟩
        | counter =>
          simp only [NoFillMissed, FillSeesSession, hf, Option.isSome_none, Bool.false_eq_true,
            false_or]
          rw [waits_after_bind]
          rfl
      · rw [hact]
        intro leg' row' id' hrow' hid'
        by_cases hleg : leg' = leg
        · subst hleg
          simp only [PairRows.modifyOrder, PairRows.setOrder, Function.update_self,
            Option.map_eq_some_iff] at hrow'
          obtain ⟨row, -, rfl⟩ := hrow'
          have : id = id' := by
            simpa using hid'
          exact this ▸ hid
        · simp only [PairRows.modifyOrder, PairRows.setOrder, Function.update_of_ne hleg] at hrow'
          exact hw.named leg' row' id' hrow' hid'
      · rw [hact]
        exact ⟨hk.creator, hk.fresh, hk.named, hk.recorded⟩
      · rw [hact]
        exact fun _ _ _ h => ⟨h.creator, h.fresh, h.named, h.recorded⟩
    · have hact : (loopAct i (.creation (.setPairSession leg id)) w r).2 = w := by
        rw [loopAct_answers hf]
        simp [loopAnswer, creationAnswer, hid]
      constructor
      · rw [hact]
        refine iff_of_true hw.law ?_
        cases leg with
        | primary => trivial
        | counter =>
          refine .inr fun hstarts => ?_
          obtain ⟨-, -, session, hsession, -⟩ := hstarts
          simp [hsession] at hid
      · rw [hact]
        exact hw.named
      · rw [hact]
        exact hk
      · rw [hact]
        exact fun _ _ _ h => h

theorem waits_modifyOrder (leg : Leg) {f : TradeBuilderOrder → TradeBuilderOrder}
    (hf : ∀ row, (f row).pairSessionId = row.pairSessionId) (h : CounterWaits w) :
    CounterWaits (w.modifyOrder leg f) := by
  obtain ⟨id, session, counter, hentry, hsession, hcounter, hnamed, hrest⟩ := h
  cases leg with
  | primary =>
    refine ⟨id, session, counter, hentry, hsession, ?_, hnamed, hrest⟩
    rw [← hcounter]
    simp [PairRows.modifyOrder, PairRows.setOrder, Function.update]
  | counter =>
    refine ⟨id, session, f counter, hentry, hsession, ?_, by rw [hf, hnamed], hrest⟩
    simp [PairRows.modifyOrder, PairRows.setOrder, hcounter]

theorem binds_finishFill (hw : RowsOk w) (hk : Knows i s w) (leg : Leg)
    (order : TradeBuilderOrder) (nextStatus : OrderStatus)
    (ha : pairProtocol.allows s (.finishFill leg order nextStatus)) :
    Binds i (.finishFill leg order nextStatus) s w r := by
  cases hf : r.fails with
  | some reason => exact binds_fails hw hk hf
  | none =>
    have hact : (loopAct i (.finishFill leg order nextStatus) w r).2 =
        { w.modifyOrder leg (OrderUpdate.clearActiveExchangeOrder nextStatus).apply with
          booked := Function.update w.booked leg true } := by
      rw [loopAct_answers hf]
      rfl
    have hset : Settles w (w.modifyOrder leg
        (OrderUpdate.clearActiveExchangeOrder nextStatus).apply) :=
      settles_modifyOrder w leg (OrderUpdate_apply_pairSessionId _)
    constructor
    · rw [hact]
      constructor
      · intro hlaw
        refine .inr fun hwait => ?_
        have hwait' := waits_modifyOrder leg
          (OrderUpdate_apply_pairSessionId (.clearActiveExchangeOrder nextStatus)) hwait
        have hbooked := hlaw hwait' leg
        simp at hbooked
      · intro hok hwait
        have hwait' : CounterWaits w := hset.waits hwait
        have hfails : ¬ r.fails.isSome = true := by simp [hf]
        obtain ⟨hnamed, hcandidate⟩ := (hok.resolve_left hfails) hwait'
        obtain ⟨id, session, counter, hentry, hsession, -, -, -, hlead⟩ := hwait'
        have hrecorded := ha id (by rw [hnamed, hentry]) hcandidate
        obtain ⟨session', hsession', hlead'⟩ := hk.recorded id hrecorded
        have heq : session' = session := by
          simpa [hsession] using hsession'.symm
        rw [heq, hlead] at hlead'
        cases hlead'
    · rw [hact]
      exact (hset.rowsOk hw).named
    · rw [hact]
      exact ⟨hk.creator, hk.fresh, hk.named, hk.recorded⟩
    · rw [hact]
      exact fun _ _ _ h => ⟨h.creator, h.fresh, h.named, h.recorded⟩

theorem binds_call (hw : RowsOk w) (hk : Knows i s w) (c : PairLoopCall)
    (ha : pairProtocol.allows s c) : Binds i c s w r := by
  cases hc : c.binds with
  | false =>
    have hset : Settles w (loopAct i c w r).2 := loopAct_settles hc ha
    constructor
    · refine iff_of_true (hset.law hw) ?_
      unfold FillSeesSession
      split
      · cases hc
      · cases hc
      · trivial
    · exact (hset.rowsOk hw).named
    · exact loopAct_knows hc hw hk ha
    · exact fun j _ t ht => ht.mono (fun _ => hset.entry) hset.kept
  | true =>
    cases c with
    | creation c =>
      cases c with
      | createOrder leg row => exact binds_createOrder hw hk leg row ha
      | rearmOrder leg existing u => exact binds_rearmOrder hw hk leg existing u ha
      | createPairSession => exact binds_createPairSession hw hk ha
      | setPairSession leg id => exact binds_setPairSession hw hk leg id
      | _ => cases hc
    | finishFill leg order nextStatus => exact binds_finishFill hw hk leg order nextStatus ha
    | _ => cases hc

end Steps

section Threads

/-- The creation of the entry, or a pass of a leg. -/
def pairThread {κ : Type} (leg : κ → Leg) : Option κ → PairLoopJob Unit
  | none => PairLoopJob.ofCreation executeActionPlaceOrderPairLock
  | some k => processLeg (leg k)

abbrev KeepsPair {α : Type} (job : PairLoopJob α) (s : Seen) : Prop :=
  job.Obeys pairProtocol (fun _ _ => True) s

theorem ofCreation_bind {α β : Type} (p : PairJob α) (f : α → PairJob β) :
    PairLoopJob.ofCreation (p >>= f) =
      PairLoopJob.ofCreation p >>= fun a => PairLoopJob.ofCreation (f a) := by
  induction p with
  | done a => rfl
  | fail e => rfl
  | call c k ih => exact congrArg (Prog.call _) (funext ih)

theorem ofCreation_obeys {α : Type} {p : PairJob α} (h : Only (· ≠ .createPairSession) p)
    {s : Seen} (hs : s.created = false) :
    (PairLoopJob.ofCreation p).Obeys pairProtocol (fun _ s' => s' = s) s := by
  induction p with
  | done a => rfl
  | fail e => rfl
  | call c k ih =>
    have hnext : ∀ x, pairProtocol.next s (.creation c) x = s := by
      intro x
      cases c with
      | createPairSession => exact absurd rfl h.1
      | _ => rfl
    refine ⟨?_, fun x => ?_⟩
    · cases c with
      | createOrder leg row => exact hs
      | rearmOrder leg existing u => exact hs
      | createPairSession => exact absurd rfl h.1
      | _ => trivial
    · rw [hnext]
      exact ih x (h.2 x)

/-- The statements that bind the session to its legs. -/
def bindsOnly : PairCall → Prop
  | .createOrder _ _ | .rearmOrder _ _ _ | .createPairSession => False
  | _ => True

theorem ofCreation_keeps {α : Type} {p : PairJob α} (h : Only bindsOnly p) (s : Seen) :
    KeepsPair (PairLoopJob.ofCreation p) s := by
  induction p generalizing s with
  | done a => trivial
  | fail e => trivial
  | call c k ih =>
    refine ⟨?_, fun x => ih x (h.2 x) _⟩
    have hc := h.1
    cases c with
    | createOrder leg row => cases hc
    | rearmOrder leg existing u => cases hc
    | createPairSession => cases hc
    | _ => trivial

theorem followUps_only (leg : Leg) (steps : List FollowUp) :
    Only (· ≠ .createPairSession) (followUps leg steps) := by
  induction steps with
  | nil => trivial
  | cons step steps ih =>
    refine Only.bind ?_ fun _ => ih
    exact (only_perform _).mpr nofun

theorem executeActionPlaceOrder_only (leg : Leg) :
    Only (· ≠ .createPairSession) (executeActionPlaceOrder leg) := by
  refine Only.bind ((only_perform _).mpr nofun) fun admission => ?_
  cases admission with
  | blocked => trivial
  | rearms existing sizeBasis sizeUsdc targetQty remainingQty eligibleAfterAt eligibleBeforeAt =>
    refine Only.bind ((only_perform _).mpr nofun) fun _ => ?_
    exact Only.bind (followUps_only leg _) fun _ => trivial
  | creates row =>
    refine Only.bind ((only_perform _).mpr nofun) fun _ => ?_
    exact Only.bind (followUps_only leg _) fun _ => trivial

theorem attachPairSession_keeps {s : Seen} (hs : s.created = false) :
    KeepsPair (PairLoopJob.ofCreation attachPairSession) s := by
  refine ⟨hs, fun x => ?_⟩
  cases x with
  | error e => trivial
  | ok id =>
    refine ofCreation_keeps (p := do
      PairJob.run .attachPairSessionOrders
      PairJob.run (.setPairSession .primary id)
      PairJob.run (.setPairSession .counter id)
      PairJob.run .holdCounter
      PairJob.run .holdEvent
      PairJob.run .sessionEvent) ?_ _
    have hrun : ∀ c, bindsOnly c → Only bindsOnly (PairJob.run c) := fun c hc =>
      (only_perform c).mpr hc
    refine Only.bind (hrun _ trivial) fun _ => ?_
    refine Only.bind (hrun _ trivial) fun _ => ?_
    refine Only.bind (hrun _ trivial) fun _ => ?_
    refine Only.bind (hrun _ trivial) fun _ => ?_
    exact Only.bind (hrun _ trivial) fun _ => hrun _ trivial

theorem keeps_then {α : Type} {p : PairJob α} {f : α → PairJob Unit} {s : Seen}
    (hp : Only (· ≠ .createPairSession) p) (hs : s.created = false)
    (hf : ∀ a, KeepsPair (PairLoopJob.ofCreation (f a)) s) :
    KeepsPair (PairLoopJob.ofCreation (p >>= f)) s := by
  rw [ofCreation_bind]
  refine obeys_bind (ofCreation_obeys hp hs) (fun a s' h => ?_) fun _ _ _ => trivial
  rw [h]
  exact hf a

theorem extract_only (execution : PlaceExecution) :
    Only (· ≠ .createPairSession) (extractBuilderOrderId execution) := by
  cases execution <;> trivial

theorem afterPrimary_keeps {s : Seen} (hs : s.created = false)
    (counter : Except String PlaceExecution) :
    KeepsPair (PairLoopJob.ofCreation (afterPrimary counter)) s := by
  cases counter with
  | error e =>
    refine keeps_then (Only.attempt ?_) hs fun _ => trivial
    exact (only_perform _).mpr nofun
  | ok execution => exact keeps_then (extract_only execution) hs fun _ => attachPairSession_keeps hs

theorem creation_keeps {s : Seen} (hs : s.created = false) :
    KeepsPair (PairLoopJob.ofCreation executeActionPlaceOrderPairLock) s := by
  refine keeps_then ((only_perform _).mpr nofun) hs fun _ => ?_
  refine keeps_then (executeActionPlaceOrder_only .primary) hs fun execution => ?_
  refine keeps_then (extract_only execution) hs fun _ => ?_
  exact keeps_then (Only.attempt (executeActionPlaceOrder_only .counter)) hs fun counter =>
    afterPrimary_keeps hs counter

/-- What a thread has seen and recorded only grows. -/
def Seen.le (s s' : Seen) : Prop :=
  (∀ id, s.named id = true → s'.named id = true) ∧
    ∀ id, s.recorded id = true → s'.recorded id = true

theorem Seen.le_refl (s : Seen) : s.le s := ⟨fun _ h => h, fun _ h => h⟩

theorem Seen.le_next (s : Seen) (c : PairLoopCall) (x : Except String (PairLoopAnswer c)) :
    s.le (pairProtocol.next s c x) := by
  simp only [pairProtocol]
  split
  · exact ⟨fun _ h => h, fun _ h => h⟩
  · exact ⟨fun id h => by simp [h], fun _ h => h⟩
  · refine ⟨fun _ h => h, fun id h => ?_⟩
    simp only [Function.update_apply]
    split
    · rfl
    · exact h
  · exact ⟨fun _ h => h, fun _ h => h⟩

theorem Seen.le_trans {s s' s'' : Seen} (h : s.le s') (h' : s'.le s'') : s.le s'' :=
  ⟨fun id hid => h'.1 id (h.1 id hid), fun id hid => h'.2 id (h.2 id hid)⟩

/-- The program keeps to the protocol and forgets nothing. -/
abbrev KeepsSeen {α : Type} (job : PairLoopJob α) (s : Seen) : Prop :=
  job.Obeys pairProtocol (fun _ s' => s.le s') s

theorem keepsSeen_bind {α β : Type} {job : PairLoopJob α} {f : α → PairLoopJob β} {s : Seen}
    (h : KeepsSeen job s) (hf : ∀ a s', s.le s' → KeepsSeen (f a) s') :
    KeepsSeen (job >>= f) s := by
  refine obeys_bind h (fun a s' hs' => ?_) fun _ _ hs' => hs'
  exact obeys_mono (hf a s' hs') fun _ _ hs'' => Seen.le_trans hs' hs''

theorem keepsSeen_run {c : PairLoopCall} {s : Seen} (h : pairProtocol.allows s c) :
    KeepsSeen (run c) s := by
  refine ⟨h, fun x => ?_⟩
  cases x <;> exact s.le_next c _

theorem keepsSeen_pure {α : Type} (a : α) (s : Seen) :
    KeepsSeen (pure a : PairLoopJob α) s := s.le_refl

theorem lockMatched_keepsSeen (leg : Leg) (id : ℤ) (session : TradeBuilderPairSession) (s : Seen) :
    KeepsSeen ((legStatements leg id).lockMatched session) s := by
  have hlocked : pairProtocol.allows s (.updatePairSessionState id .locked none none none) := by
    simp [pairProtocol]
  refine keepsSeen_bind (keepsSeen_run trivial) fun handled s' _ => ?_
  split
  · exact keepsSeen_pure () s'
  · split
    · exact keepsSeen_pure () s'
    · split
      · exact keepsSeen_pure () s'
      · refine keepsSeen_bind (keepsSeen_run hlocked) fun _ t _ => ?_
        refine keepsSeen_bind (keepsSeen_run hlocked) fun _ t _ => ?_
        exact keepsSeen_run trivial

theorem handleFill_obeys {leg : Leg} {order : TradeBuilderOrder} {fill : BuyFill} {s : Seen}
    (hnamed : ∀ id, order.pairSessionId = some id → s.named id = true) :
    (maybeHandleTradeBuilderPairLockBuyFill leg order fill).Obeys pairProtocol
      (fun x s' => x.isOk = true → ∀ id, order.pairSessionId = some id →
        tradeBuilderPairLockIsCandidateOrder order = true → s'.recorded id = true) s := by
  unfold maybeHandleTradeBuilderPairLockBuyFill
  cases hid : order.pairSessionId with
  | none => exact fun _ id h => by cases h
  | some id =>
    by_cases hcandidate : tradeBuilderPairLockIsCandidateOrder order = true
    · simp only [hcandidate, not_true, if_false]
      refine obeys_perform (hnamed id hid) (fun _ => ?_) fun _ h => by cases h
      have hrecorded : (pairProtocol.next s (.recordPairSessionFill id
          (order.pairLegRole.getD .leadCandidate) order.id fill.toLegFill fill.filledAt)
          (.ok ())).recorded id = true := by
        simp [pairProtocol]
      have hrest : KeepsSeen (do
          match ← run (.getPairSession id) with
          | none => pure ()
          | some session => (legStatements leg id).lockMatched session) (pairProtocol.next s
          (.recordPairSessionFill id (order.pairLegRole.getD .leadCandidate) order.id
            fill.toLegFill fill.filledAt) (.ok ())) := by
        refine keepsSeen_bind (keepsSeen_run trivial) fun session s' _ => ?_
        cases session with
        | none => exact keepsSeen_pure () s'
        | some session => exact lockMatched_keepsSeen leg id session s'
      refine obeys_mono hrest fun _ s' hle _ id' hid' _ => ?_
      have heq : id = id' := by
        simpa using hid'
      exact heq ▸ hle.2 id hrecorded
    · simp only [hcandidate]
      exact fun _ _ _ h => by cases h

theorem finalizeLegFill_keeps {leg : Leg} {order : TradeBuilderOrder} {fill : BuyFill} {s : Seen}
    (hnamed : ∀ id, order.pairSessionId = some id → s.named id = true) :
    KeepsPair (finalizeLegFill leg order fill) s := by
  refine obeys_bind (keepsSeen_run trivial) (fun _ s' hs' => ?_) fun _ _ _ => trivial
  refine obeys_bind (keepsSeen_run trivial) (fun _ s'' hs'' => ?_) fun _ _ _ => trivial
  have hnamed'' : ∀ id, order.pairSessionId = some id → s''.named id = true :=
    fun id hid => hs''.1 id (hs'.1 id (hnamed id hid))
  refine obeys_bind (handleFill_obeys hnamed'') (fun a t ht => ?_) fun _ _ _ => trivial
  refine obeys_mono (keepsSeen_run ?_) fun _ _ _ => trivial
  exact fun id hid hcandidate => ht rfl id hid hcandidate

theorem closePairSession_keepsSeen (leg : Leg) (id : ℤ) (reason : String) (status : PairStatus) (s : Seen) :
    KeepsSeen ((legStatements leg id).closePairSession reason status) s := by
  unfold LegStatements.closePairSession
  by_cases hstatus : closedStatus reason = some status
  · rw [if_pos hstatus]
    refine keepsSeen_run ?_
    unfold closedStatus at hstatus
    split at hstatus
    · simp [pairProtocol, ← Option.some.inj hstatus]
    split at hstatus
    · simp [pairProtocol, ← Option.some.inj hstatus]
    · cases hstatus
  · rw [if_neg hstatus]
    exact keepsSeen_pure () s

theorem applyCounterDecision_keepsSeen (leg : Leg) (id : ℤ) (pass : LegPass)
    (decision : CounterDecision) (s : Seen) :
    KeepsSeen ((legStatements leg id).applyCounterDecision pass decision) s := by
  have hupdate (u : OrderUpdate) (b : Bool) (s : Seen) : KeepsSeen (do
      run (.updateOrder leg u)
      pure b) s :=
    keepsSeen_bind (keepsSeen_run trivial) fun _ s' _ => keepsSeen_pure b s'
  cases decision with
  | proceeds cap => exact keepsSeen_pure false s
  | rebases r eligibleBeforeAt => exact hupdate _ true s
  | ends action =>
    cases action with
    | sessionClosed =>
      simp only [LegStatements.applyCounterDecision]
      split
      · exact hupdate _ true s
      · exact keepsSeen_pure false s
    | cancel reason =>
      refine keepsSeen_bind (closePairSession_keepsSeen leg id reason _ s) fun _ s' _ => ?_
      refine keepsSeen_bind (keepsSeen_run trivial) fun _ s'' _ => ?_
      refine keepsSeen_bind (closePairSession_keepsSeen leg id reason _ s'') fun _ t _ => ?_
      exact keepsSeen_pure true t
    | hold =>
      simp only [LegStatements.applyCounterDecision]
      split
      · exact keepsSeen_pure true s
      · exact hupdate _ true s
    | unwind =>
      refine keepsSeen_bind (keepsSeen_run ?_) fun _ s' _ => keepsSeen_pure true s'
      simp [pairProtocol]
    | rebase sizeBasis sizeUsdc targetQty remainingSize remainingQty eligibleBeforeAt =>
      exact hupdate _ true s
    | wait => exact keepsSeen_pure true s
    | proceed cap => exact keepsSeen_pure false s

theorem pairLockRuntime_keepsSeen (leg : Leg) (order : TradeBuilderOrder) (s : Seen) :
    KeepsSeen (pairLockRuntime leg order) s := by
  unfold pairLockRuntime
  split
  · exact keepsSeen_pure false s
  · rename_i id _
    split
    · exact keepsSeen_pure false s
    · refine keepsSeen_bind (keepsSeen_run trivial) fun session s' _ => ?_
      cases session with
      | none => exact keepsSeen_pure false s'
      | some session =>
        refine keepsSeen_bind (keepsSeen_run trivial) fun facts s'' _ => ?_
        refine keepsSeen_bind (keepsSeen_run trivial) fun primary t _ => ?_
        exact applyCounterDecision_keepsSeen leg id _ _ t

theorem processLeg_keeps (leg : Leg) (s : Seen) : KeepsPair (processLeg leg) s := by
  refine obeys_perform trivial (fun row => ?_) fun _ => trivial
  cases row with
  | none => trivial
  | some order =>
    have hnamed : ∀ id, order.pairSessionId = some id →
        (pairProtocol.next s (.getOrder leg) (.ok (some order))).named id = true := by
      intro id hid
      simp [pairProtocol, hid]
    by_cases hprocessable : isTradeBuilderOrderProcessableStatus order.status = true
    · simp only [hprocessable, not_true, if_false]
      refine obeys_bind (pairLockRuntime_keepsSeen leg order _) (fun ended s' hs' => ?_)
        fun _ _ _ => trivial
      cases ended with
      | true => trivial
      | false =>
        refine obeys_bind (keepsSeen_run trivial) (fun fill s'' hs'' => ?_) fun _ _ _ => trivial
        cases fill with
        | none => trivial
        | some fill =>
          exact finalizeLegFill_keeps fun id hid => hs''.1 id (hs'.1 id (hnamed id hid))
    · simp only [hprocessable]
      trivial

/-- The entry before its creation: no order, and only sessions of earlier entries. -/
def PairRows.start (sessions : ℤ → Option TradeBuilderPairSession) : PairRows :=
  { order := fun _ => none, sessions, entry := none, booked := fun _ => false }

def pairPool {κ : Type} (sessions : ℤ → Option TradeBuilderPairSession) (leg : κ → Leg) :
    Pool (Option κ) PairLoopCall PairLoopAnswer String PairRows :=
  { world := .start sessions, thread := pairThread leg }

theorem pairThread_keeps {κ : Type} (leg : κ → Leg) (i : Option κ) :
    KeepsPair (pairThread leg i) ⟨i.isSome, fun _ => false, fun _ => false⟩ := by
  cases i with
  | none => exact creation_keeps rfl
  | some k => exact processLeg_keeps (leg k) _

/-- Creation and passes of the legs, statement by statement in any order: the counter never
waits for a fill that has been finalized exactly when no fill is booked before the counter is
bound, and each fill booked while it waits was finalized from a row bound to the session. -/
theorem lead_fill_never_missed_iff {κ : Type} [DecidableEq κ]
    (sessions : ℤ → Option TradeBuilderPairSession) (leg : κ → Leg)
    (schedule : List (Option κ × LoopReply)) :
    Pool.Always loopAct NoFillMissed (pairPool sessions leg) schedule ↔
      Pool.Meets loopAct FillSeesSession (pairPool sessions leg) schedule := by
  have hrows : RowsOk (pairPool sessions leg).world := by
    refine ⟨fun l row id hrow => ?_, fun _ _ => rfl⟩
    simp [pairPool, PairRows.start] at hrow
  have hsound : Pool.Sound pairProtocol RowsOk Knows (pairPool sessions leg) := by
    refine ⟨hrows, fun i => ⟨_, ?_, pairThread_keeps leg i⟩⟩
    constructor
    · intro hi
      exact Option.isSome_iff_ne_none.mpr hi
    · exact fun _ => rfl
    · exact fun _ h => by cases h
    · exact fun _ h => by cases h
  exact hsound.always_iff_meets
    (fun _ _ c _ _ hw hk ha => (binds_call hw hk c ha).law)
    (fun _ _ c _ _ hw hk ha hok =>
      have hb := binds_call hw hk c ha
      ⟨⟨hb.named, hb.law.mpr hok⟩, hb.own, hb.others⟩)
    (fun _ hw => hw.law) schedule

def buyLeg : TradeBuilderOrder := { sizeUsdc := 5 }

def creationTurns (n : ℕ) : List (Option Unit × LoopReply) :=
  List.replicate n (none, { admission := .creates buyLeg })

/-- The primary is created, submitted and filled before the creation goes on. -/
def fillBeforeAttach : List (Option Unit × LoopReply) :=
  creationTurns 9 ++
    List.replicate 6 (some (), { fill := some ⟨10, 1 / 2, 0, 0, false⟩ }) ++ creationTurns 13

theorem lead_fill_before_attach_missed :
    ¬ NoFillMissed (Pool.run loopAct (pairPool (fun _ => none) fun _ => .primary)
      fillBeforeAttach).world := by
  intro h
  have hwaits : CounterWaits (Pool.run loopAct (pairPool (fun _ => none) fun _ => .primary)
      fillBeforeAttach).world := by
    decide +kernel
  have hbooked := h hwaits .primary
  revert hbooked
  decide +kernel

end Threads

end PolymarketBot.PairLock
