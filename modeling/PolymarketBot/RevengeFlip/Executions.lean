import PolymarketBot.Lib.Threads
import PolymarketBot.RevengeFlip.OneSide

/-! Executions of the engine for one node and market beside the processing of their orders, call
by call in any order: the state an entry is submitted on. -/

namespace PolymarketBot.RevengeFlip
open Lib Prog Builder TradeBuilderRevengeFlipState

structure NodeOrder where
  id : ℕ
  order : RevengeFlipOrder
  status : OrderStatus

/-- The calls of an execution, and those that the processing of its orders makes. -/
inductive NodeCall
  | hasActiveOrder
  | loadState
  | resolveQuotes
  | tryAcquireExecutionLock
  | placeOrder (order : RevengeFlipOrder)
  | releaseLock
  | setStatus (id : ℕ) (status : OrderStatus)
  | recordFill (input : TradeBuilderRevengeFlipFillInput)

abbrev NodeAnswer : NodeCall → Type
  | .hasActiveOrder => Bool
  | .loadState => TradeBuilderRevengeFlipState
  | .resolveQuotes => RevengeFlipLook
  | .tryAcquireExecutionLock => Bool
  | _ => Unit

abbrev NodeJob (α : Type) := Prog NodeCall NodeAnswer String α

namespace NodeJob

def run (c : NodeCall) : NodeJob (NodeAnswer c) := perform c

end NodeJob

open NodeJob (run)

def submitChildOrder (order : RevengeFlipOrder) : NodeJob Unit := do
  if ← run .tryAcquireExecutionLock then
    let result ← attempt (run (.placeOrder order))
    run .releaseLock
    match result with
    | .ok _ => pure ()
    | .error e => .fail e
  else pure ()

def submitDecision : RevengeFlipDecision → NodeJob Unit
  | .submit order => submitChildOrder order
  | .skipped _ => pure ()
  | .holdPosition => pure ()

def execution : NodeJob Unit := do
  if ← run .hasActiveOrder then pure ()
  else
    let state ← run .loadState
    let look ← run .resolveQuotes
    submitDecision (executeActionPlaceOrderRevengeFlip
      { look with clientAvailable := true, hasActiveOrder := false } state)

/-- What the processing of orders does to their rows and to the state. -/
inductive ProcessingStep
  | setStatus (id : ℕ) (status : OrderStatus)
  | recordFill (input : TradeBuilderRevengeFlipFillInput)

def ProcessingStep.call : ProcessingStep → NodeCall
  | .setStatus id status => .setStatus id status
  | .recordFill input => .recordFill input

def processing : List ProcessingStep → NodeJob Unit
  | [] => pure ()
  | step :: steps => .call step.call fun _ => processing steps

/-- A thread is an execution, or the processing of orders. -/
def threadOf : Option (List ProcessingStep) → NodeJob Unit
  | none => execution
  | some steps => processing steps

/-! ### The rows -/

variable {ι : Type}

/-- The rows of a node and market. `changes` counts what can end a flat state, `seenAt` is the
count at a thread's last activity check, and `entriesClear` tells whether every entry so far was
placed while no order was active and no position open. -/
structure NodeRows (ι : Type) where
  state : TradeBuilderRevengeFlipState
  orders : List NodeOrder
  locked : Bool
  changes : ℕ := 0
  seenAt : ι → ℕ := fun _ => 0
  entriesClear : Bool := true

/-- What is decided outside about one call: its failure, what the market shows, and the status
the order is created with, if it is. -/
structure NodeReply where
  fails : Option String := none
  look : RevengeFlipLook := { quotes := [] }
  creates : Option OrderStatus := some .pending

namespace NodeRows

def hasActive (w : NodeRows ι) : Bool := w.orders.any fun row => isActiveOrderStatus row.status

def holdsPosition (state : TradeBuilderRevengeFlipState) : Bool :=
  (state.currentSide.filter fun _ => revengeFlipPositionIsOpen state.positionQty).isSome

/-- No order is active and no position is held. -/
def clear (w : NodeRows ι) : Bool := !w.hasActive && !holdsPosition w.state

def place (w : NodeRows ι) (order : RevengeFlipOrder) (status : OrderStatus) : NodeRows ι :=
  { w with
    orders := w.orders ++ [⟨w.orders.length, order, status⟩]
    changes := w.changes + 1
    entriesClear := w.entriesClear && (order.orderSide = .sell || w.clear) }

def setStatus (w : NodeRows ι) (id : ℕ) (status : OrderStatus) : NodeRows ι :=
  { w with
    orders := w.orders.map fun row => if row.id = id then { row with status } else row
    changes := if isActiveOrderStatus status then w.changes + 1 else w.changes }

def recordFill (w : NodeRows ι) (input : TradeBuilderRevengeFlipFillInput) : NodeRows ι :=
  { w with
    state := revengeFlipApplyFillToState w.state input
    changes := if input.orderSide = .buy then w.changes + 1 else w.changes }

end NodeRows

variable [DecidableEq ι]

def nodeAnswer (i : ι) (w : NodeRows ι) (r : NodeReply) :
    (c : NodeCall) → Except String (NodeAnswer c) × NodeRows ι
  | .hasActiveOrder =>
    (.ok w.hasActive, { w with seenAt := Function.update w.seenAt i w.changes })
  | .loadState => (.ok w.state, w)
  | .resolveQuotes => (.ok r.look, w)
  | .tryAcquireExecutionLock => (.ok !w.locked, { w with locked := true })
  | .placeOrder _ => (.ok (), w)
  | .releaseLock => (.ok (), { w with locked := false })
  | .setStatus id status => (.ok (), w.setStatus id status)
  | .recordFill input => (.ok (), w.recordFill input)

/-- Placing an order can fail before or after its row is there; the lock is always released. -/
def nodeAct (i : ι) (c : NodeCall) (w : NodeRows ι) (r : NodeReply) :
    Except String (NodeAnswer c) × NodeRows ι :=
  match c with
  | .placeOrder order =>
    (match r.fails with
      | none => .ok ()
      | some e => .error e,
      match r.creates with
      | none => w
      | some status => w.place order status)
  | .releaseLock => nodeAnswer i w r .releaseLock
  | c =>
    match r.fails with
    | none => nodeAnswer i w r c
    | some e => (.error e, w)

end PolymarketBot.RevengeFlip
