import PolymarketBot.Builder.Calls
import PolymarketBot.Lib.Runs

/-! What the passes of its siblings, of its parent and of its pair session do to an order: they
list its row, and later write it from what they listed, whatever it holds by then. -/

namespace PolymarketBot.Builder
open Lib

/-- A write of another pass, from the row it listed. -/
inductive SiblingWrite
  | cancel (listed : TradeBuilderOrder) (reason : ErrorText)
  | resize (listed : TradeBuilderOrder) (qty : ℚ)
  deriving DecidableEq, Repr

/-- A child listed with an exchange order keeps the id it was listed with, any other loses it. -/
def SiblingWrite.statement : SiblingWrite → OrderUpdate
  | cancel listed reason => .setStatus (cancelStatus listed) (some reason)
  | resize listed qty =>
    if listed.activeExchangeOrderId.isSome then
      .setWorkingState listed.activeExchangeOrderId listed.workingPrice
        (some (tradeBuilderScaledSizeUsdc listed qty)) (some qty) listed.status
    else resizeChild listed qty

/-- The rows that other passes list: exit children, and the orders of a pair session. -/
def isListedByOthers (order : TradeBuilderOrder) : Bool :=
  tradeBuilderIsChildExitSell order || tradeBuilderOrderUsesPairLock order

/-- What others do to this world, sibling passes included. -/
inductive Interference
  | outside (o : Outside)
  | sibling (write : SiblingWrite)
  deriving DecidableEq, Repr

def Interference.step : Interference → World → World
  | outside o, w => o.step w
  | sibling write, w => if isListedByOthers w.order then w.update write.statement else w

/-- A reply to a call, after what siblings and others did before it. -/
structure AmongReply where
  first : List Interference := []
  reply : Reply := {}
  deriving DecidableEq, Repr, Inhabited

def AmongReply.disturb (r : AmongReply) (w : World) : World :=
  r.first.foldl (fun w i => i.step w) w

def AmongReply.arrive (r : AmongReply) (w : World) : World := r.reply.arrive (r.disturb w)

def actAmong (c : Call) (w : World) (r : AmongReply) : Except ErrorText (Answer c) × World :=
  act c (r.disturb w) r.reply

abbrev AmongPass := Turn Call Answer ErrorText AmongReply Interference

theorem Interference.step_exchange (i : Interference) (w : World) :
    List.Forall₂ ExchangeOrder.Evolves w.exchange (i.step w).exchange := by
  cases i with
  | outside o => exact (World.Evolves.step o w).exchange
  | sibling write =>
    simp only [step]
    split
    · exact (World.Evolves.refl w).exchange
    · exact (World.Evolves.refl w).exchange

theorem actAmong_fails {c : Call} {w : World} {r : AmongReply} {failure : CallFailure}
    (hf : r.reply.fails = some failure) :
    actAmong c w r = (.error failure.toErrorText, r.arrive w) := by
  simp [actAmong, act, hf, AmongReply.arrive]

theorem actAmong_answers {c : Call} {w : World} {r : AmongReply} (hf : r.reply.fails = none) :
    actAmong c w r = answer c (r.arrive w) r.reply := by
  simp [actAmong, act, hf, AmongReply.arrive]

theorem AmongReply.disturb_keeps {I : World → Prop} (hI : ∀ w i, I w → I (Interference.step i w))
    (r : AmongReply) {w : World} (hw : I w) : I (r.disturb w) :=
  (Runs.eachStep_true w r.first).invariant (C := fun _ _ => True) (fun w i h _ => hI w i h) hw

/-- What was done before a call, each step of it under a condition. -/
def AmongReply.Disturbs (P : World → Interference → Prop) (r : AmongReply) (w : World) : Prop :=
  Runs.EachStep (fun w i => i.step w) P w r.first

theorem AmongReply.Disturbs.keeps {P : World → Interference → Prop} {I : World → Prop}
    (hI : ∀ w i, I w → P w i → I (Interference.step i w)) {r : AmongReply} {w : World}
    (h : r.Disturbs P w) (hw : I w) : I (r.disturb w) :=
  h.invariant hI hw

theorem AmongReply.disturb_exchange (r : AmongReply) (w : World) :
    List.Forall₂ ExchangeOrder.Evolves w.exchange (r.disturb w).exchange :=
  r.disturb_keeps (I := fun w' => List.Forall₂ ExchangeOrder.Evolves w.exchange w'.exchange)
    (fun w' i h => exchange_trans h (i.step_exchange w')) (World.Evolves.refl w).exchange

theorem AmongReply.arrive_exchange (r : AmongReply) (w : World) :
    List.Forall₂ ExchangeOrder.Evolves w.exchange (r.arrive w).exchange :=
  exchange_trans (r.disturb_exchange w) (World.Evolves.arrive r.reply _).exchange

theorem Stopped.arriveAmong {w : World} {id : Option ℕ} (h : Stopped w id) (r : AmongReply) :
    Stopped (r.arrive w) id :=
  h.evolves (r.arrive_exchange w)

theorem Stopped.callAmong {w : World} {id : Option ℕ} (h : Stopped w id) (c : Call)
    (r : AmongReply) : Stopped (actAmong c w r).2 id :=
  Stopped.after (w := r.disturb w) (h.arriveAmong r)

theorem stopped_of_canceledAmong {w : World} {r : AmongReply} {n : ℕ} {a : Unit}
    (hr : r.reply.notCanceled = true → Stopped (r.arrive w) (some n))
    (hx : (actAmong (.cancel n) w r).1 = .ok a) :
    Stopped (actAmong (.cancel n) w r).2 (some n) := by
  cases hn : r.reply.notCanceled with
  | false => exact stopped_of_canceled hn hx
  | true => exact Stopped.after (w := r.disturb w) (hr hn)

theorem AmongReply.disturb_rowRead (r : AmongReply) (w : World) :
    (r.disturb w).rowRead = w.rowRead := by
  refine r.disturb_keeps (I := fun w' => w'.rowRead = w.rowRead) (fun w' i h => ?_) rfl
  cases i with
  | outside o => exact (World.Evolves.step o w').rowRead.trans h
  | sibling write =>
    simp only [Interference.step]
    split
    · exact h
    · exact h

/-- What the exchange is relied on for: an order is acknowledged under its own id and reported
open exactly while it is live, and a cancel that is acknowledged has ended its order. -/
structure Honest (c : Call) (w : World) (r : Reply) : Prop where
  id : ∀ request, c = .place request → r.clientOrderId = none
  placed : ∀ request, c = .place request →
    (((placedOrder w request r).reportedStatus r = .opened ∨
      (placedOrder w request r).reportedStatus r = .partiallyFilled) ↔
        (placedOrder w request r).isLive = true)
  reported : ∀ n e, c = .status n → w.exchangeOrder n = some e →
    (((e.info r).status = .opened ∨ (e.info r).status = .partiallyFilled) ↔ e.isLive = true)
  canceled : ∀ n, c = .cancel n → r.notCanceled = true → Stopped w (some n)

theorem reportedStatus_stateText {e : ExchangeOrder} {r : Reply} (h : r.statusText = none) :
    (e.reportedStatus r = .opened ∨ e.reportedStatus r = .partiallyFilled) ↔
      e.isLive = true := by
  unfold ExchangeOrder.reportedStatus ExchangeOrder.stateText ExchangeOrder.isLive
  rw [h, Option.getD_none]
  cases e.state with
  | live =>
    by_cases hfilled : 0 < e.filled
    · simp only [hfilled, if_true]
      decide
    · simp only [hfilled, if_false]
      decide
  | _ =>
    dsimp only
    decide

theorem honest_of_plain {c : Call} {w : World} {r : Reply} (hid : r.clientOrderId = none)
    (ht : r.statusText = none) (hc : r.notCanceled = false) : Honest c w r where
  id _ _ := hid
  placed _ _ := reportedStatus_stateText ht
  reported n e _ _ := by
    rw [ExchangeOrder.info_status]
    exact reportedStatus_stateText ht
  canceled _ _ h := by simp [hc] at h

end PolymarketBot.Builder
