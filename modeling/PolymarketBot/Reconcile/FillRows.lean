import Mathlib.Data.Rat.Defs
import PolymarketBot.Lib.Prog
import PolymarketBot.Lib.Rows

/-! The tables of exchange orders and fills, and the reconcile pass over the fills the exchange
lists. -/

namespace PolymarketBot.Reconcile
open Lib Lib.Prog

/-- A fill as the exchange lists it. -/
structure FillInfo where
  fillId : String
  orderId : String
  price : ℚ
  size : ℚ
  fee : Option ℚ := none
  ts : Option ℤ := none

/-- A row of `orders`; its internal id is its place in the table. -/
structure OrderRow where
  tradeId : ℤ
  exchangeOrderId : String
  clientOrderId : Option String := none
  intent : String
  side : String
  price : ℚ
  size : ℚ
  status : String
  exchangeTs : Option ℤ := none
  rejectReason : Option String := none

/-- A row of `fills`. -/
structure FillRow where
  orderId : ℕ
  fillId : String
  price : ℚ
  size : ℚ
  fee : ℚ
  exchangeTs : Option ℤ

def FillInfo.row (fill : FillInfo) (orderId : ℕ) : FillRow :=
  { orderId
    fillId := fill.fillId
    price := fill.price
    size := fill.size
    fee := fill.fee.getD 0
    exchangeTs := fill.ts }

/-- What a conflicting insert of an order overwrites. -/
def OrderRow.overwrittenBy (old row : OrderRow) : OrderRow :=
  { old with
    clientOrderId := row.clientOrderId
    status := row.status
    exchangeTs := row.exchangeTs
    rejectReason := row.rejectReason }

/-- What a conflicting insert of a fill overwrites. -/
def FillRow.overwrittenBy (old row : FillRow) : FillRow :=
  { old with
    price := row.price
    size := row.size
    fee := row.fee
    exchangeTs := row.exchangeTs }

/-- The idempotency keys and the two tables. -/
structure Tables where
  keys : List String := []
  orders : List OrderRow := []
  fills : List FillRow := []

namespace Tables
variable (w : Tables)

def tryRecordIdempotencyKey (eventKey : String) : Tables :=
  if eventKey ∈ w.keys then w else { w with keys := w.keys ++ [eventKey] }

def upsertOrderByExchangeId (row : OrderRow) : Tables :=
  { w with orders := Rows.upsert OrderRow.exchangeOrderId OrderRow.overwrittenBy row w.orders }

def upsertFillByExchangeFillId (row : FillRow) : Tables :=
  { w with fills := Rows.upsert FillRow.fillId FillRow.overwrittenBy row w.fills }

def exchangeIds : List String := w.orders.map OrderRow.exchangeOrderId

def fillIds : List String := w.fills.map FillRow.fillId

def internalOrderIdByExchangeOrderId (exchangeOrderId : String) : Option ℕ :=
  w.exchangeIds.idxOf? exchangeOrderId

theorem upsertOrder_ids_prefix (row : OrderRow) :
    w.exchangeIds <+: (w.upsertOrderByExchangeId row).exchangeIds := by
  have hkeep : ∀ old row : OrderRow,
      (old.overwrittenBy row).exchangeOrderId = old.exchangeOrderId := fun _ _ => rfl
  exact Rows.upsert_keys_prefix hkeep row w.orders

theorem upsertOrder_mem (row : OrderRow) :
    row.exchangeOrderId ∈ (w.upsertOrderByExchangeId row).exchangeIds := by
  have hkeep : ∀ old row : OrderRow,
      (old.overwrittenBy row).exchangeOrderId = old.exchangeOrderId := fun _ _ => rfl
  exact Rows.mem_upsert_keys hkeep row w.orders

variable {w}

theorem fillIds_upsertFill (row : FillRow) :
    (w.upsertFillByExchangeFillId row).fillIds =
      if row.fillId ∈ w.fillIds then w.fillIds else w.fillIds ++ [row.fillId] := by
  have hkeep : ∀ old row : FillRow, (old.overwrittenBy row).fillId = old.fillId := fun _ _ => rfl
  exact Rows.upsert_keys hkeep row w.fills

theorem order_of_lookup {id : ℕ} {orderId : String}
    (h : w.internalOrderIdByExchangeOrderId orderId = some id) :
    w.exchangeIds[id]? = some orderId := by
  obtain ⟨hid, heq, -⟩ := List.findIdx?_eq_some_iff_getElem.mp h
  rw [List.getElem?_eq_getElem hid]
  exact congrArg some (beq_iff_eq.mp heq)

end Tables

inductive FillCall where
  | tryRecordIdempotencyKey (eventKey : String)
  | internalOrderIdByExchangeOrderId (exchangeOrderId : String)
  | upsertOrderByExchangeId (row : OrderRow)
  | upsertFillByExchangeFillId (row : FillRow)

/-- A call fails before it is executed, or after. -/
inductive CallFault where
  | refused
  | lost
deriving DecidableEq

/-- What the environment decides about a call: the orders others write just before it, and
whether it fails. -/
structure FillReply where
  others : List OrderRow := []
  fault : Option CallFault := none

instance : Inhabited FillReply := ⟨{}⟩

def FillReply.found (r : FillReply) (w : Tables) : Tables :=
  r.others.foldl Tables.upsertOrderByExchangeId w

namespace FillCall

@[reducible] def Answer : FillCall → Type
  | tryRecordIdempotencyKey _ => Bool
  | internalOrderIdByExchangeOrderId _ => Option ℕ
  | upsertOrderByExchangeId _ => ℕ
  | upsertFillByExchangeFillId _ => Unit

def exec (w : Tables) : FillCall → Tables
  | tryRecordIdempotencyKey eventKey => w.tryRecordIdempotencyKey eventKey
  | internalOrderIdByExchangeOrderId _ => w
  | upsertOrderByExchangeId row => w.upsertOrderByExchangeId row
  | upsertFillByExchangeFillId row => w.upsertFillByExchangeFillId row

def answer (w : Tables) : (c : FillCall) → c.Answer
  | tryRecordIdempotencyKey eventKey => eventKey ∉ w.keys
  | internalOrderIdByExchangeOrderId exchangeOrderId =>
    w.internalOrderIdByExchangeOrderId exchangeOrderId
  | upsertOrderByExchangeId row =>
    (w.upsertOrderByExchangeId row).exchangeIds.idxOf row.exchangeOrderId
  | upsertFillByExchangeFillId _ => ()

def act (c : FillCall) (w : Tables) (r : FillReply) : Except String c.Answer × Tables :=
  match r.fault with
  | some .refused => (.error "database error", r.found w)
  | some .lost => (.error "database error", c.exec (r.found w))
  | none => (.ok (c.answer (r.found w)), c.exec (r.found w))

end FillCall

abbrev FillProg (α : Type) := Prog FillCall FillCall.Answer String α

def FillProg.run (c : FillCall) : FillProg c.Answer := perform c

open FillProg (run)

def fillKey (fillId : String) : String := "fill:" ++ fillId

/-- The order row of a fill whose order is not known. -/
def orderFromFill (tradeId : ℤ) (fill : FillInfo) : OrderRow :=
  { tradeId
    exchangeOrderId := fill.orderId
    intent := "reconcile"
    side := "unknown"
    price := fill.price
    size := fill.size
    status := "filled"
    exchangeTs := fill.ts }

inductive FillOutcome where
  | applied | duplicate | skipped
deriving DecidableEq

def internalOrderId (tradeId : ℤ) (fill : FillInfo) : FillProg ℕ := do
  match ← run (.internalOrderIdByExchangeOrderId fill.orderId) with
  | some id => pure id
  | none => run (.upsertOrderByExchangeId (orderFromFill tradeId fill))

def reconcileFill (tradeId : ℤ) (fill : FillInfo) : FillProg FillOutcome :=
  if fill.fillId.isEmpty || fill.orderId.isEmpty then pure .skipped
  else do
    if !(← run (.tryRecordIdempotencyKey (fillKey fill.fillId))) then pure .duplicate
    else
      let orderId ← internalOrderId tradeId fill
      run (.upsertFillByExchangeFillId (fill.row orderId))
      pure .applied

/-- The counts a pass returns. -/
structure FillCounts where
  applied : ℕ := 0
  duplicates : ℕ := 0
  skipped : ℕ := 0

def FillCounts.add (counts : FillCounts) : FillOutcome → FillCounts
  | .applied => { counts with applied := counts.applied + 1 }
  | .duplicate => { counts with duplicates := counts.duplicates + 1 }
  | .skipped => { counts with skipped := counts.skipped + 1 }

def applyFillReconcile (tradeId : ℤ) : List FillInfo → FillCounts → FillProg FillCounts
  | [], counts => pure counts
  | fill :: fills, counts => do
    let outcome ← reconcileFill tradeId fill
    applyFillReconcile tradeId fills (counts.add outcome)

/-- A reconcile pass: the trade, the fills listed to it and the replies of its calls. -/
structure FillPass where
  tradeId : ℤ
  fills : List FillInfo
  replies : List FillReply

def FillPass.exec (w : Tables) (pass : FillPass) : Tables :=
  (Prog.exec FillCall.act (applyFillReconcile pass.tradeId pass.fills {}) pass.replies w).2

end PolymarketBot.Reconcile
