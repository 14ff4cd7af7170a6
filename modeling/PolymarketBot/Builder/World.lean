import PolymarketBot.Lib.Prog
import PolymarketBot.Lib.Text
import PolymarketBot.Builder.Sizing

/-! The world of one builder order: its row, the exchange orders placed for it, the stored
sizes of these, the parent position its fills are booked to and the exit children created
for it. Every database or exchange call is one atomic step that may fail without effect. -/

namespace PolymarketBot.Builder
open Lib
open Lib.Text (contains)

inductive ExchangeState | live | matched | canceled | rejected | expired
  deriving DecidableEq, Repr

/-- An order on the exchange; `trigger` is the trigger count it was placed at. -/
structure ExchangeOrder where
  id : ℕ
  size : ℚ
  price : ℚ
  trigger : ℤ := 0
  filled : ℚ := 0
  state : ExchangeState := .live
  deriving DecidableEq, Repr

structure ParentPosition where
  currentQty : ℚ
  deriving DecidableEq, Repr

/-- An exit child, by the setting it is created for; staged ones carry their rule's index. -/
inductive ExitChild
  | hardTp | stagedTp (index : ℕ) | hardSl | ptbSl | liveGapSl | ptbSlRule (index : ℕ)
  | stagedSl (index : ℕ)
  deriving DecidableEq, Repr

structure CreatedChild where
  child : ExitChild
  qty : ℚ
  deriving DecidableEq, Repr

/-- What a resize of a ladder family does with one of its children. -/
inductive LadderTarget | absent | skipped | target (qty : ℚ)
  deriving DecidableEq, Repr

structure World where
  order : TradeBuilderOrder := {}
  /-- The row as a pass read it last. -/
  rowRead : TradeBuilderOrder := {}
  exchange : List ExchangeOrder := []
  storedSize : List (ℕ × ℚ) := []
  position : Option ParentPosition := none
  parent : Option TradeBuilderOrder := none
  children : List CreatedChild := []
  /-- The visible inventory observed before the buy. -/
  baseline : Option ℚ := none
  /-- A cancel was requested while this exchange order was active, and no fill has completed
  the order since. -/
  cancelRequest : Option (Option ℕ) := none
  /-- A cancel request landed that no pass has read yet. -/
  unreadRequest : Bool := false
  /-- A fill is counted, and no status is written since. -/
  fillCounted : Bool := false
  /-- The exchange status read last. -/
  statusRead : Option (ℕ × OrderInfo) := none
  deriving DecidableEq, Repr

/-- What others do to this world while no call of its own pass runs. -/
inductive Outside
  | fill (id : ℕ) (qty : ℚ)
  | finish (id : ℕ) (state : ExchangeState)
  | requestCancel (reason : ErrorText)
  deriving DecidableEq, Repr

def ExchangeOrder.isLive (e : ExchangeOrder) : Bool := e.state == .live

/-- A live order takes a fill of at most its open size and is matched when nothing is open. -/
def ExchangeOrder.fill (e : ExchangeOrder) (qty : ℚ) : ExchangeOrder :=
  if e.isLive ∧ 0 ≤ qty ∧ e.filled + qty ≤ e.size then
    { e with filled := e.filled + qty
             state := if e.filled + qty = e.size then .matched else .live }
  else e

def ExchangeOrder.finish (e : ExchangeOrder) (state : ExchangeState) : ExchangeOrder :=
  if e.isLive then { e with state } else e

def World.updateExchange (w : World) (id : ℕ) (f : ExchangeOrder → ExchangeOrder) : World :=
  { w with exchange := w.exchange.map fun e => if e.id = id then f e else e }

def Outside.step : Outside → World → World
  | fill id qty, w => w.updateExchange id (·.fill qty)
  | finish id state, w => w.updateExchange id (·.finish state)
  | requestCancel reason, w =>
    { w with order := { w.order with status := .canceledRequested, lastError := some reason }
             cancelRequest := some w.order.activeExchangeOrderId, unreadRequest := true }

def World.exchangeOrder (w : World) (id : ℕ) : Option ExchangeOrder :=
  w.exchange.find? (·.id == id)

def World.stored (w : World) (id : ℕ) : Option ℚ := w.storedSize.lookup id

/-- Calls whose effect lies outside this world. -/
inductive Elsewhere
  | unblockNextOrder | abortPairSession | scheduleUnwind | closePairSession | siblingUpdates
  | guardNotification | submittedNotification | feeRate | recordPairFill | flowPayload
  | submittedPayload | finalizeUnwind | markOrderStatus | setPtbReferencePrice
  | parallelExitBatch | listChildren | childFollowUp | loadUser | orderType
  deriving DecidableEq, Repr

/-- Questions whose answer is decided by prices, other tables or other services. -/
inductive Check
  | staleMarket | stopLossSourceMissing | compositeBidWaiting | hasLiveGapStopLoss
  | stopLossSurfaceActive | pairCounterForcesWaiting | riskBlocks | marketCycleClosed
  | belowMarketMinRetry | belowMarketMinBlock | fastStopLossQuoteMissing | priceCapped
  | triggerSizesExhausted | orderTypeIsFakOrFok | orderTypeIsFakOrIoc
  | bookRecheckEligible
  deriving DecidableEq, Repr

/-- What the pair-lock session makes of a candidate order before it is processed. -/
inductive PairLockAction
  | proceed (counterCap : Option ℚ)
  | sessionClosed
  | cancel (reason : String)
  | hold
  | wait
  | unwind
  | rebase (sizeBasis : SizeBasis) (sizeUsdc : ℚ) (targetQty remainingSize remainingQty : Option ℚ)
      (eligibleBeforeAt : Option ℤ)
  deriving DecidableEq, Repr

/-- The price guards of a submit: they let it pass, make the order wait or cancel it. -/
inductive SubmitGuard
  | passes
  | waits (reason : String)
  | cancels (reason : String)
  deriving DecidableEq, Repr

inductive TakeProfitPreemption | none | deferred | preempted
  deriving DecidableEq, Repr

structure RuntimePrice where
  price : ℚ
  bestBid : Option ℚ := none
  bestAsk : Option ℚ := none
  lastTradePrice : Option ℚ := none
  deriving DecidableEq, Repr

structure PlaceOrderRequest where
  price : ℚ
  size : ℚ
  deriving DecidableEq, Repr

structure PlaceAck where
  exchangeOrderId : ℕ
  status : ExchangeStatus
  deriving DecidableEq, Repr

/-- The calls of a pass; `latestOrder` is the row read of the error handler. -/
inductive Call
  | getOrder
  | latestOrder
  | getParentOrder
  | update (statement : OrderUpdate)
  | appendEvent (event : String)
  | status (id : ℕ)
  | cancel (id : ℕ)
  | place (request : PlaceOrderRequest)
  | availableTokenQty
  | upsertOrder (id : ℕ) (size : ℚ)
  | orderSize (id : ℕ)
  | aggregateFillQty (id : ℕ)
  | inventoryBaseline
  | getParentPosition
  | getParentPositionSeed
  | upsertParentPosition (qty : ℚ)
  | applyParentPositionFill (qty : ℚ)
  | createChild (child : CreatedChild)
  | childRow
  | legacyPosition
  | ladderTarget
  | orderMinSize
  | elsewhere (statement : Elsewhere)
  | check (question : Check)
  | runtimePrice
  | sellSubmitPrice
  | estimatedVisibleQty
  | nextTriggerSize
  | specialTrigger
  | submitGuards
  | freshBestAsk
  | pairLockRuntime
  | takeProfitPreemption
  deriving DecidableEq, Repr

abbrev Answer : Call → Type
  | .getOrder => TradeBuilderOrder
  | .latestOrder => TradeBuilderOrder
  | .getParentOrder => Option TradeBuilderOrder
  | .status _ => OrderInfo
  | .place _ => PlaceAck
  | .availableTokenQty => Option ℚ
  | .orderSize _ => Option ℚ
  | .aggregateFillQty _ => ℚ
  | .inventoryBaseline => Option ℚ
  | .getParentPosition => Option ParentPosition
  | .getParentPositionSeed => Option ℚ
  | .check _ => Bool
  | .runtimePrice => Option RuntimePrice
  | .sellSubmitPrice => ℚ
  | .estimatedVisibleQty => Option ℚ
  | .nextTriggerSize => Option ℚ
  | .specialTrigger => Option TriggerEvaluation
  | .submitGuards => SubmitGuard
  | .freshBestAsk => Option ℚ
  | .childRow => TradeBuilderOrder
  | .legacyPosition => Option ℚ
  | .ladderTarget => LadderTarget
  | .orderMinSize => Option ℚ
  | .pairLockRuntime => PairLockAction
  | .takeProfitPreemption => TakeProfitPreemption
  | _ => Unit

/-- Error texts of failed calls; "already matched" is not one of them, the exchange gives
that answer by itself. -/
inductive CallFailure
  | fatalExchangeRejection | balanceOrAllowance | midpointNotFound | fakNoMatch | other
  deriving DecidableEq, Repr

def CallFailure.toErrorText : CallFailure → ErrorText
  | fatalExchangeRejection => { kind := .fatalExchangeRejection }
  | balanceOrAllowance => { kind := .balanceOrAllowance }
  | midpointNotFound => { kind := .midpointNotFound }
  | fakNoMatch => { kind := .fakNoMatch }
  | other => {}

/-- What the environment decides about one call: what others do just before it, whether it
fails, and the answers that this world does not determine. The exchange may report an order in
a text of its own, acknowledge it under no id but the client's, and name an order it has not
canceled in the answer to a cancel. -/
structure Reply where
  before : List Outside := []
  fails : Option CallFailure := none
  yes : Bool := false
  qty : Option ℚ := none
  price : RuntimePrice := { price := 1 / 2 }
  priceMissing : Bool := false
  reportsSize : Bool := true
  reportsFilled : Bool := true
  reportsPrice : Bool := true
  statusText : Option String := none
  clientOrderId : Option ℕ := none
  notCanceled : Bool := false
  placedState : ExchangeState := .live
  placedFilled : ℚ := 0
  pairLock : PairLockAction := .proceed none
  preemption : TakeProfitPreemption := .none
  ladder : LadderTarget := .absent
  special : Option TriggerEvaluation := none
  guards : SubmitGuard := .passes
  deriving DecidableEq, Repr, Inhabited

/-- "unmatched" contains "match"; a text that says nothing of this counts as open. -/
def normalizeExchangeStatus (status : String) : ExchangeStatus :=
  let normalized := String.ofList (status.toList.map Char.toLower)
  if contains "partial" normalized then .partiallyFilled
  else if contains "match" normalized then .filled
  else if contains "fill" normalized then .filled
  else if contains "cancel" normalized then .canceled
  else if contains "reject" normalized then .rejected
  else if contains "expir" normalized then .expired
  else .opened

def ExchangeOrder.stateText (e : ExchangeOrder) : String :=
  match e.state with
  | .live => if 0 < e.filled then "partially_filled" else "live"
  | .matched => "matched"
  | .canceled => "canceled"
  | .rejected => "rejected"
  | .expired => "expired"

def ExchangeOrder.reportedStatus (e : ExchangeOrder) (r : Reply) : ExchangeStatus :=
  normalizeExchangeStatus (r.statusText.getD e.stateText)

def ExchangeOrder.info (e : ExchangeOrder) (r : Reply) : OrderInfo where
  status := e.reportedStatus r
  size := if r.reportsSize then some e.size else none
  filledSize := if r.reportsFilled then some e.filled else none
  price := if r.reportsPrice then some e.price else none

@[simp] theorem ExchangeOrder.info_status (e : ExchangeOrder) (r : Reply) :
    (e.info r).status = e.reportedStatus r := by
  unfold info
  rfl

def errorOther : ErrorText := {}

def terminalMatchError : ErrorText := { kind := .terminalMatch }

/-- The exchange order a placement leaves; the state right after it is the exchange's. -/
def placedOrder (w : World) (request : PlaceOrderRequest) (r : Reply) : ExchangeOrder where
  id := w.exchange.length
  size := request.size
  price := request.price
  trigger := w.order.triggersFired
  filled := if r.placedState = .matched then request.size
    else min (max r.placedFilled 0) request.size
  state := r.placedState

/-- A statement writes the row; a status it writes may be a cancel request itself, or end one
by completing the order for a fill that was counted. -/
def World.update (w : World) (u : OrderUpdate) : World :=
  { w with
    order := u.apply w.order
    cancelRequest :=
      if u.status? = some .canceledRequested then
        if w.order.status = .canceledRequested ∧ w.cancelRequest.isSome then w.cancelRequest
        else some (u.apply w.order).activeExchangeOrderId
      else if u.status? = some .completed ∧ w.fillCounted then none
      else w.cancelRequest
    unreadRequest := w.unreadRequest || u.status? == some .canceledRequested
    fillCounted := u == .incrementTriggerCount || w.fillCounted && u.status?.isNone }

section
variable (w : World) (u : OrderUpdate)

@[simp] theorem World.update_order : (w.update u).order = u.apply w.order := rfl
@[simp] theorem World.update_exchange : (w.update u).exchange = w.exchange := rfl
@[simp] theorem World.update_position : (w.update u).position = w.position := rfl
@[simp] theorem World.update_children : (w.update u).children = w.children := rfl
@[simp] theorem World.update_statusRead : (w.update u).statusRead = w.statusRead := rfl
@[simp] theorem World.update_rowRead : (w.update u).rowRead = w.rowRead := rfl

end

def answer : (c : Call) → World → Reply → Except ErrorText (Answer c) × World
  | .getOrder, w, _ => (.ok w.order, { w with rowRead := w.order, unreadRequest := false })
  | .latestOrder, w, _ => (.ok w.order, w)
  | .getParentOrder, w, _ => (.ok w.parent, w)
  | .update u, w, _ => (.ok (), w.update u)
  | .appendEvent _, w, _ => (.ok (), w)
  | .status id, w, r =>
    match w.exchangeOrder id with
    | some e => (.ok (e.info r), { w with statusRead := some (id, e.info r) })
    | none => (.error errorOther, w)
  | .cancel id, w, r =>
    -- the answer's list of orders that are not canceled is not read
    if r.notCanceled then (.ok (), w)
    else
      match w.exchangeOrder id with
      | some e =>
        if e.state = .matched then (.error terminalMatchError, w)
        else (.ok (), w.updateExchange id (·.finish .canceled))
      | none => (.error errorOther, w)
  | .place request, w, r =>
    (.ok ⟨r.clientOrderId.getD w.exchange.length, (placedOrder w request r).reportedStatus r⟩,
      { w with exchange := w.exchange ++ [placedOrder w request r] })
  | .availableTokenQty, w, r => (.ok r.qty, w)
  | .upsertOrder id size, w, _ => (.ok (), { w with storedSize := (id, size) :: w.storedSize })
  | .orderSize id, w, _ => (.ok (w.stored id), w)
  | .aggregateFillQty _, w, r => (.ok (r.qty.getD 0), w)
  | .inventoryBaseline, w, _ => (.ok w.baseline, w)
  | .getParentPosition, w, _ => (.ok w.position, w)
  | .getParentPositionSeed, w, r => (.ok r.qty, w)
  | .upsertParentPosition qty, w, _ => (.ok (), { w with position := some ⟨qty⟩ })
  | .applyParentPositionFill qty, w, _ =>
    (.ok (), { w with position := w.position.map fun p => ⟨max 0 (p.currentQty - qty)⟩ })
  | .createChild child, w, _ => (.ok (), { w with children := w.children ++ [child] })
  | .elsewhere _, w, _ => (.ok (), w)
  | .check _, w, r => (.ok r.yes, w)
  | .runtimePrice, w, r =>
    (.ok (if r.priceMissing then none
      else some { r.price with price := clampProbability r.price.price }), w)
  | .sellSubmitPrice, w, r => (.ok (clampProbability r.price.price), w)
  | .estimatedVisibleQty, w, r => (.ok r.qty, w)
  | .nextTriggerSize, w, r => (.ok r.qty, w)
  | .specialTrigger, w, r => (.ok r.special, w)
  | .submitGuards, w, r => (.ok r.guards, w)
  | .freshBestAsk, w, r => (.ok r.qty, w)
  | .childRow, w, _ => (.ok w.order, w)
  | .legacyPosition, w, r => (.ok r.qty, w)
  | .ladderTarget, w, r => (.ok r.ladder, w)
  | .orderMinSize, w, r => (.ok r.qty, w)
  | .pairLockRuntime, w, r => (.ok r.pairLock, w)
  | .takeProfitPreemption, w, r => (.ok r.preemption, w)

/-- The world a call finds: what others did just before it has happened. -/
def Reply.arrive (r : Reply) (w : World) : World := r.before.foldl (fun w o => o.step w) w

def act (c : Call) (w : World) (r : Reply) : Except ErrorText (Answer c) × World :=
  match r.fails with
  | some failure => (.error failure.toErrorText, r.arrive w)
  | none => answer c (r.arrive w) r

abbrev Job (α : Type) := Prog Call Answer ErrorText α

abbrev Pass := Turn Call Answer ErrorText Reply Outside

namespace Job

def run (c : Call) : Job (Answer c) := Prog.perform c

/-- A call the source makes without passing its error on. -/
def tryRun (c : Call) : Job (Except ErrorText (Answer c)) := Prog.attempt (Prog.perform c)

def ignore (job : Job Unit) : Job Unit := do let _ ← Prog.attempt job

/-- A call whose error counts as the answer `d`. -/
def orElse (c : Call) (d : Answer c) : Job (Answer c) := do
  match ← tryRun c with
  | .ok a => pure a
  | .error _ => pure d

def when (c : Prop) [Decidable c] (job : Job Unit) : Job Unit := if c then job else pure ()

/-- The answer of a job run under a condition, or else `d`. -/
def whenOr {α : Type} (c : Prop) [Decidable c] (d : α) (job : Job α) : Job α :=
  if c then job else pure d

def discard {α : Type} (job : Job α) : Job Unit := do let _ ← job

def update (u : OrderUpdate) : Job Unit := run (.update u)

def event (name : String) : Job Unit := run (.appendEvent name)

def statement (s : Elsewhere) : Job Unit := run (.elsewhere s)

def check (question : Check) : Job Bool := run (.check question)

end Job

end PolymarketBot.Builder
