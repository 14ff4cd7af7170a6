import PolymarketBot.Builder.Submit
import PolymarketBot.Exchange.TradePage

/-! The backfill of an order that was filled at once: what it reads of the exchange in its
attempts, what it stores, and the quantity the order is booked with. -/

namespace PolymarketBot.Builder
open Lib Lib.Prog Reconcile

def tradeBuilderFillBackfillMaxRecentPages : ℕ := 5

def tradeBuilderFillBackfillRetryDelaysMs : List ℕ := [0, 250, 750, 1500]

structure TradeQuery where
  id : Option String := none
  makerAddress : Option String := none
  market : Option String := none
  assetId : Option String := none
  before : Option String := none
  after : Option String := none
  nextCursor : Option String := none

/-- What the backfill comes to; the rest of its outcome is only written into events. -/
structure TradeBuilderFillBackfillOutcome where
  aggregateFillQty : Option ℚ := none
  orderInfoFilledSize : Option ℚ := none
  deriving DecidableEq

inductive ActualFillQtySource | fillsAggregate | orderStatusSizeMatched | submittedOrderSize
  deriving DecidableEq, Repr

def TradeBuilderFillBackfillOutcome.actualFillQtyAndSource
    (outcome : TradeBuilderFillBackfillOutcome) : Option (ℚ × ActualFillQtySource) :=
  ((normalizeTradeBuilderTerminalFillQtyCandidate outcome.aggregateFillQty).map
      (·, .fillsAggregate)).or <|
    (normalizeTradeBuilderTerminalFillQtyCandidate outcome.orderInfoFilledSize).map
      (·, .orderStatusSizeMatched)

/-- The quantity an order is booked with and the fill behind it. -/
structure ImmediateFillQuantities extends FinalizeQuantities where
  actualFillQtySource : Option ActualFillQtySource
  deriving DecidableEq

/-- `none` is the error of a tracked buy without any quantity. -/
def TradeBuilderFillBackfillOutcome.immediateFillQuantities
    (outcome : TradeBuilderFillBackfillOutcome) (order : TradeBuilderOrder) (submitSize : ℚ) :
    Option ImmediateFillQuantities :=
  match outcome.actualFillQtyAndSource with
  | some (qty, source) => some ⟨⟨qty, .actualFillQty, some qty⟩, some source⟩
  | none =>
    if tradeBuilderShouldTrackBuyInventoryObservation order then
      (tradeBuilderCanonicalEntryQty order (some submitSize)).map fun entry =>
        ⟨⟨entry.1, entry.2, none⟩, none⟩
    else
      some ⟨⟨submitSize, .actualFillQty, some submitSize⟩, some .submittedOrderSize⟩

/-! ### The exchange and the tables -/

/-- What another job writes: the row of an order, or a fill for an order that has a row. -/
inductive TableWrite where
  | order (row : OrderRow)
  | fill (fill : FillInfo)

def TableWrite.apply (w : Tables) : TableWrite → Tables
  | order row => w.upsertOrderByExchangeId row
  | fill f => match w.internalOrderIdByExchangeOrderId f.orderId with
    | some id => w.upsertFillByExchangeFillId (f.row id)
    | none => w

def orderFills (w : Tables) (exchangeOrderId : String) : List FillRow :=
  w.fills.filter fun row => w.exchangeIds[row.orderId]? = some exchangeOrderId

def aggregateFillQtyByExchangeOrderId (w : Tables) (exchangeOrderId : String) : ℚ :=
  ((orderFills w exchangeOrderId).map FillRow.size).sum

/-- The tables, and what the exchange has answered so far: the filled sizes of its statuses,
the latest first, and the fills on its pages. `intact` until a lookup or a store fails. -/
structure BackfillWorld where
  tables : Tables
  statuses : List (Option ℚ) := []
  listed : List FillInfo := []
  intact : Bool := true

inductive BackfillCall where
  | aggregateFillQty (exchangeOrderId : String)
  | appendEvent (event : String)
  | status (exchangeOrderId : String)
  | listFillsPage (query : TradeQuery)
  | internalOrderId (exchangeOrderId : String)
  | upsertFill (row : FillRow)

structure StatusAnswer where
  filledSize : Option ℚ := none
  associatedTradeIds : List String := []

/-- What the environment decides about a call: what others write before the tables are read,
whether it fails, and what the exchange answers. -/
structure BackfillReply where
  others : List TableWrite := []
  fault : Option CallFault := none
  status : StatusAnswer := {}
  page : Exchange.FillPage := ⟨[], none, none, 0, []⟩

instance : Inhabited BackfillReply := ⟨{}⟩

namespace BackfillCall

@[reducible] def Answer : BackfillCall → Type
  | aggregateFillQty _ => ℚ
  | appendEvent _ => Unit
  | status _ => StatusAnswer
  | listFillsPage _ => Exchange.FillPage
  | internalOrderId _ => Option ℕ
  | upsertFill _ => Unit

def found (w : BackfillWorld) (r : BackfillReply) : BackfillCall → BackfillWorld
  | aggregateFillQty _ | internalOrderId _ | upsertFill _ =>
    { w with tables := r.others.foldl TableWrite.apply w.tables }
  | appendEvent _ | status _ | listFillsPage _ => w

def answer (w : BackfillWorld) (r : BackfillReply) : (c : BackfillCall) → c.Answer
  | aggregateFillQty exchangeOrderId => aggregateFillQtyByExchangeOrderId w.tables exchangeOrderId
  | appendEvent _ => ()
  | status _ => r.status
  | listFillsPage _ => r.page
  | internalOrderId exchangeOrderId => w.tables.internalOrderIdByExchangeOrderId exchangeOrderId
  | upsertFill _ => ()

def exec (w : BackfillWorld) (r : BackfillReply) : BackfillCall → BackfillWorld
  | status _ => { w with statuses := r.status.filledSize :: w.statuses }
  | listFillsPage _ => { w with listed := w.listed ++ r.page.fills.map (·.toFillInfo) }
  | upsertFill row => { w with tables := w.tables.upsertFillByExchangeFillId row }
  | aggregateFillQty _ | appendEvent _ | internalOrderId _ => w

/-- What a failed call leaves: a row whose reply is lost is stored. -/
def failed (w : BackfillWorld) (fault : CallFault) : BackfillCall → BackfillWorld
  | upsertFill row => match fault with
    | .refused => { w with intact := false }
    | .lost => { w with tables := w.tables.upsertFillByExchangeFillId row, intact := false }
  | internalOrderId _ => { w with intact := false }
  | aggregateFillQty _ | appendEvent _ | status _ | listFillsPage _ => w

def act (c : BackfillCall) (w : BackfillWorld) (r : BackfillReply) :
    Except String c.Answer × BackfillWorld :=
  match r.fault with
  | none => (.ok (c.answer (c.found w r) r), c.exec (c.found w r) r)
  | some fault => (.error "call failed", c.failed (c.found w r) fault)

end BackfillCall

abbrev BackfillProg (α : Type) := Prog BackfillCall BackfillCall.Answer String α

namespace BackfillProg

def run (c : BackfillCall) : BackfillProg c.Answer := perform c

def event (kind : String) : BackfillProg Unit := run (.appendEvent kind)

end BackfillProg

open BackfillProg (run event)

/-! ### One page, its successors, and the attempts -/

/-- A fill that is not skipped: it has ids, a price and a size. -/
@[irreducible] def usableFill (fill : FillInfo) : Bool :=
  Flow.trim fill.fillId ≠ "" && Flow.trim fill.orderId ≠ "" && 0 < fill.price && 0 < fill.size

def syncTradeBuilderFill (targetExchangeOrderId : Option String) (fill : FillInfo) :
    BackfillProg Unit :=
  if usableFill fill && targetExchangeOrderId.all (fill.orderId = ·) then do
    match ← run (.internalOrderId fill.orderId) with
    | some internalOrderId => run (.upsertFill (fill.row internalOrderId))
    | none => pure ()
  else pure ()

def syncTradeBuilderFillPage (fills : List FillInfo) (targetExchangeOrderId : Option String) :
    BackfillProg Unit :=
  fills.forM (syncTradeBuilderFill targetExchangeOrderId)

def tradeBuilderCursorHasNext (nextCursor : Option String) (currentCursor : String) : Bool :=
  match (nextCursor.map Flow.trim).filter (· ≠ "") with
  | none => false
  | some nextCursor =>
    !(nextCursor == "LTE=" || nextCursor == "END" || nextCursor == "end") &&
      nextCursor != currentCursor

/-- Reads this many pages at most, from this cursor on. -/
def syncTradeBuilderFillPagesFrom (baseQuery : TradeQuery) (target : Option String) :
    ℕ → Option String → BackfillProg Unit
  | 0, _ => pure ()
  | pages + 1, nextCursor => do
    let currentCursor := nextCursor.getD "MA=="
    let page ← run (.listFillsPage { baseQuery with nextCursor := some currentCursor })
    syncTradeBuilderFillPage (page.fills.map (·.toFillInfo)) target
    if tradeBuilderCursorHasNext page.nextCursor currentCursor then
      syncTradeBuilderFillPagesFrom baseQuery target pages page.nextCursor
    else pure ()

def syncTradeBuilderFillPages (baseQuery : TradeQuery) (target : Option String)
    (maxPages : ℕ) : BackfillProg Unit :=
  syncTradeBuilderFillPagesFrom baseQuery target (max maxPages 1) baseQuery.nextCursor

/-- A trade that cannot be read is passed over. -/
def syncTradeBuilderAssociatedTradeIds (exchangeOrderId : String)
    (associatedTradeIds : List String) : BackfillProg Unit :=
  associatedTradeIds.forM fun tradeId => do
    let _ ← attempt (syncTradeBuilderFillPages { id := some tradeId } (some exchangeOrderId) 1)

def aggregateTradeBuilderFillQtyOption (exchangeOrderId : String) : BackfillProg (Option ℚ) := do
  let qty ← run (.aggregateFillQty exchangeOrderId)
  pure (normalizeTradeBuilderTerminalFillQtyCandidate (some qty))

/-- The status of the order, and the trades it names; the size that is known so far stays
where the exchange reports none. -/
def backfillStatus (exchangeOrderId : String) (filledSize : Option ℚ) :
    BackfillProg (Option ℚ) := do
  match ← attempt (run (.status exchangeOrderId)) with
  | .ok orderInfo =>
    syncTradeBuilderAssociatedTradeIds exchangeOrderId orderInfo.associatedTradeIds
    pure ((normalizeTradeBuilderTerminalFillQtyCandidate orderInfo.filledSize).or filledSize)
  | .error _ =>
    event "fill_backfill_failed"
    pure filledSize

def backfillRecentTrades (exchangeOrderId : String) : BackfillProg Unit := do
  match ← attempt (syncTradeBuilderFillPages {} (some exchangeOrderId)
      tradeBuilderFillBackfillMaxRecentPages) with
  | .ok () => pure ()
  | .error _ => event "fill_backfill_failed"

def backfillAttempt (exchangeOrderId : String) (filledSize : Option ℚ) :
    BackfillProg TradeBuilderFillBackfillOutcome := do
  event "fill_backfill_attempt"
  let filledSize ← backfillStatus exchangeOrderId filledSize
  backfillRecentTrades exchangeOrderId
  let aggregate ← aggregateTradeBuilderFillQtyOption exchangeOrderId
  pure ⟨aggregate, filledSize⟩

/-- One attempt for each of these delays, until a stored sum is usable. -/
def backfillAttempts (exchangeOrderId : String) :
    List ℕ → TradeBuilderFillBackfillOutcome → BackfillProg TradeBuilderFillBackfillOutcome
  | [], outcome => do
    event "fill_backfill_zero"
    pure outcome
  | _ :: delays, outcome => do
    let outcome ← backfillAttempt exchangeOrderId outcome.orderInfoFilledSize
    if outcome.aggregateFillQty.isSome then
      event "fill_backfill_synced"
      pure outcome
    else backfillAttempts exchangeOrderId delays outcome

def backfillTradeBuilderFillsForOrder (exchangeOrderId : String) :
    BackfillProg TradeBuilderFillBackfillOutcome := do
  let aggregate ← aggregateTradeBuilderFillQtyOption exchangeOrderId
  if aggregate.isSome then pure { aggregateFillQty := aggregate }
  else backfillAttempts exchangeOrderId tradeBuilderFillBackfillRetryDelaysMs {}

/-- The quantities of an order that was filled at once; a backfill that fails counts as an
empty one. -/
def immediateFillQuantities (order : TradeBuilderOrder) (submitSize : ℚ)
    (backfill : Except String TradeBuilderFillBackfillOutcome) :
    Option ImmediateFillQuantities :=
  (backfill.toOption.getD {}).immediateFillQuantities order submitSize

end PolymarketBot.Builder
