import PolymarketBot.Builder.Process

/-! Creation of a pair-lock entry: two orders through the ordinary place-order executor, then
the session that binds them. The processing loop may work on an order as soon as it exists. -/

namespace PolymarketBot.Builder
open Lib Prog

inductive Leg | primary | counter
  deriving DecidableEq, Repr

/-- The order of a leg, with its world; a leg may also take over an order that exists. -/
structure LegOrder where
  world : World
  created : Bool
  deriving DecidableEq, Repr

structure PairWorld where
  primary : Option LegOrder := none
  counter : Option LegOrder := none
  deriving DecidableEq, Repr

def PairWorld.order (w : PairWorld) : Leg → Option LegOrder
  | .primary => w.primary
  | .counter => w.counter

def PairWorld.setOrder (w : PairWorld) (leg : Leg) (order : Option LegOrder) : PairWorld :=
  match leg with
  | .primary => { w with primary := order }
  | .counter => { w with counter := order }

def PairWorld.modify (w : PairWorld) (leg : Leg) (f : World → World) : PairWorld :=
  w.setOrder leg ((w.order leg).map fun o => { o with world := f o.world })

/-- What the checks of the executor before its insert come to, when they do not fail: no
order (a guard or the risk policy blocks), an order taken over, or a new row. -/
inductive Admission
  | blocked
  | rearms (existing : World) (sizeBasis : SizeBasis) (sizeUsdc : ℚ)
      (targetQty remainingQty : Option ℚ) (eligibleAfterAt eligibleBeforeAt : Option ℤ)
  | creates (row : TradeBuilderOrder)

/-- What the executor still does once it has written the row; the lock configuration of a buy
is resolved only here. -/
inductive FollowUp
  | revengeFlipMark | runtimeSnapshot | liveGapMetadata | buyFillLockConfig | nodeSnapshot
  | flowCreatedEvent | guardNotificationReason | notificationFlags | guardRetryFlags
  | stagedSlBehavior | ptbStopLoss | flowRearmedEvent
  deriving DecidableEq, Repr

inductive PairCall
  | prepare
  | preflight (leg : Leg)
  | createOrder (leg : Leg) (row : TradeBuilderOrder)
  | rearmOrder (leg : Leg) (existing : World) (statement : OrderUpdate)
  | followUp (leg : Leg) (step : FollowUp)
  | cancelOrder (leg : Leg) (reason : String)
  | createPairSession
  | attachPairSessionOrders
  | setPairSession (leg : Leg) (pairSessionId : ℤ)
  | holdCounter
  | holdEvent
  | sessionEvent

abbrev PairAnswer : PairCall → Type
  | .preflight _ => Admission
  | .createPairSession => ℤ
  | _ => Unit

/-- What the environment decides about one call: what the processing loop and others do to
the orders just before it, whether it fails, and how the executor's checks end. -/
structure PairReply where
  before : List (Leg × Pass) := []
  fails : Option String := none
  admission : Admission := .creates {}
  pairSessionId : ℤ := 1

instance : Inhabited PairReply := ⟨{}⟩

def PairReply.arrive (r : PairReply) (w : PairWorld) : PairWorld :=
  r.before.foldl (fun w turn => w.modify turn.1 fun o => Turn.step act Outside.step o turn.2) w

def pairRole : Leg → PairLegRole
  | .primary => .leadCandidate
  | .counter => .counterCandidate

def pairAnswer : (c : PairCall) → PairWorld → PairReply → Except String (PairAnswer c) × PairWorld
  | .prepare, w, _ => (.ok (), w)
  | .preflight _, w, r => (.ok r.admission, w)
  | .createOrder leg row, w, _ => (.ok (), w.setOrder leg (some ⟨{ order := row }, true⟩))
  | .rearmOrder leg existing u, w, _ =>
    (.ok (), w.setOrder leg (some ⟨existing.update u, false⟩))
  | .followUp _ _, w, _ => (.ok (), w)
  | .cancelOrder leg reason, w, _ =>
    (.ok (), w.modify leg (·.update (.setStatus .canceled (some (text reason)))))
  | .createPairSession, w, r => (.ok r.pairSessionId, w)
  | .attachPairSessionOrders, w, _ => (.ok (), w)
  | .setPairSession leg id, w, _ =>
    (.ok (), w.modify leg fun o => { o with
      order := { o.order with pairSessionId := some id, pairLegRole := some (pairRole leg) } })
  | .holdCounter, w, _ =>
    (.ok (), w.modify .counter (·.update (.setStatus .inventoryPending
      (some (text "pair_counter_waiting_primary_fill")))))
  | .holdEvent, w, _ => (.ok (), w)
  | .sessionEvent, w, _ => (.ok (), w)

def pairAct (c : PairCall) (w : PairWorld) (r : PairReply) :
    Except String (PairAnswer c) × PairWorld :=
  match r.fails with
  | some reason => (.error reason, r.arrive w)
  | none => pairAnswer c (r.arrive w) r

abbrev PairJob (α : Type) := Prog PairCall PairAnswer String α

def PairJob.run (c : PairCall) : PairJob (PairAnswer c) := perform c

inductive PlaceExecution | blocked | ordered
  deriving DecidableEq, Repr

def followUps (leg : Leg) : List FollowUp → PairJob Unit
  | [] => pure ()
  | step :: steps => do
    PairJob.run (.followUp leg step)
    followUps leg steps

def executeActionPlaceOrder (leg : Leg) : PairJob PlaceExecution := do
  match ← PairJob.run (.preflight leg) with
  | .blocked => pure .blocked
  | .rearms existing sizeBasis sizeUsdc targetQty remainingQty eligibleAfterAt
      eligibleBeforeAt =>
    PairJob.run (.rearmOrder leg existing (.updateSizingAndState sizeBasis sizeUsdc targetQty
      (some sizeUsdc) remainingQty .triggered none eligibleAfterAt eligibleBeforeAt))
    followUps leg [.guardNotificationReason, .runtimeSnapshot, .liveGapMetadata,
      .notificationFlags, .guardRetryFlags, .stagedSlBehavior, .ptbStopLoss, .nodeSnapshot,
      .flowRearmedEvent]
    pure .ordered
  | .creates row =>
    PairJob.run (.createOrder leg row)
    followUps leg [.revengeFlipMark, .runtimeSnapshot, .liveGapMetadata, .buyFillLockConfig,
      .nodeSnapshot, .flowCreatedEvent]
    pure .ordered

def extractBuilderOrderId : PlaceExecution → PairJob Unit
  | .ordered => pure ()
  | .blocked => fail "pair_lock child order creation did not return builder_order_id"

/-- The session is attached after both orders exist. -/
def attachPairSession : PairJob Unit := do
  let pairSessionId ← PairJob.run .createPairSession
  PairJob.run .attachPairSessionOrders
  PairJob.run (.setPairSession .primary pairSessionId)
  PairJob.run (.setPairSession .counter pairSessionId)
  PairJob.run .holdCounter
  PairJob.run .holdEvent
  PairJob.run .sessionEvent

/-- Only an error of the counter leg's executor is answered with a cancel of the primary. -/
def afterPrimary (counter : Except String PlaceExecution) : PairJob Unit := do
  match counter with
  | .error e =>
    let _ ← attempt (PairJob.run (.cancelOrder .primary "pair_lock_counter_create_failed"))
    fail e
  | .ok execution =>
    extractBuilderOrderId execution
    attachPairSession

def executeActionPlaceOrderPairLock : PairJob Unit := do
  PairJob.run .prepare
  extractBuilderOrderId (← executeActionPlaceOrder .primary)
  afterPrimary (← attempt (executeActionPlaceOrder .counter))

/-- The order is neither processable nor live. -/
def Ended (w : World) : Prop :=
  isProcessable w.order = false ∧ ∀ e ∈ w.exchange, e.isLive = false

/-- The order of a leg is none the call created, or it has ended. -/
def LegEnded (order : Option LegOrder) : Prop :=
  ∀ o ∈ order, o.created = true → Ended o.world

def NothingLeft (w : PairWorld) : Prop := LegEnded w.primary ∧ LegEnded w.counter

/-- An error of the call leaves no order it created processable or live. -/
def AllOrNothing (x : Except String Unit) (w : PairWorld) : Prop :=
  match x with
  | .ok _ => True
  | .error _ => NothingLeft w

/-- The primary can be canceled: nothing of it is live, and the write goes through unless it
is no longer processable anyway. -/
def Cancelable (order : Option LegOrder) (r : PairReply) : Prop :=
  ∀ o ∈ order, o.created = true → (∀ e ∈ o.world.exchange, e.isLive = false) ∧
    (r.fails.isSome = true → isProcessable o.world.order = false)

/-- The condition on one call of the creation. -/
def CreateOk (c : PairCall) (w : PairWorld) (r : PairReply) : Prop :=
  match c with
  | .preflight .counter =>
    r.fails = none → r.admission = .blocked → NothingLeft (r.arrive w)
  | .followUp .primary _ | .createPairSession | .attachPairSessionOrders | .setPairSession _ _
  | .holdCounter | .holdEvent | .sessionEvent =>
    r.fails.isSome = true → NothingLeft (r.arrive w)
  | .cancelOrder _ _ => Cancelable (r.arrive w).primary r ∧ LegEnded (r.arrive w).counter
  | _ => True

section Exactly
variable {w : PairWorld}

theorem settle_run {c : PairCall} {f : PairAnswer c → PairJob Unit}
    (hc : ∀ r, CreateOk c w r ↔ (r.fails.isSome = true → NothingLeft (r.arrive w)))
    (hf : ∀ a w', Exactly pairAct CreateOk AllOrNothing True (f a) w') (ha : ∀ r, r.fails = none →
      ∃ a, (pairAct c w r).1 = .ok a) :
    Exactly pairAct CreateOk AllOrNothing True (PairJob.run c >>= f) w := by
  refine exactly_perform fun r => ?_
  cases hfail : r.fails with
  | none =>
    obtain ⟨a, ha⟩ := ha r hfail
    rw [ha]
    exact exactly_of ((hc r).mpr (by simp [hfail])) (hf a _)
  | some reason =>
    have hact : pairAct c w r = (.error reason, r.arrive w) := by simp [pairAct, hfail]
    rw [hact]
    simpa [AllOrNothing, hfail] using hc r

theorem followUps_exactly (steps : List FollowUp) {f : Unit → PairJob Unit}
    (hf : ∀ w, Exactly pairAct CreateOk AllOrNothing True (f ()) w) :
    Exactly pairAct CreateOk AllOrNothing True (followUps .primary steps >>= f) w := by
  induction steps generalizing w with
  | nil => exact hf w
  | cons step steps ih =>
    rw [followUps, Prog.bind_assoc]
    exact settle_run (c := .followUp .primary step) (fun _ => Iff.rfl) (fun _ _ => ih)
      fun r hr => ⟨(), by simp [pairAct, hr, pairAnswer]⟩

theorem counterFollowUps_exactly (steps : List FollowUp) {β : Type} {g : Unit → PairJob β}
    {f : Except String β → PairJob Unit}
    (hg : ∀ w, Exactly pairAct CreateOk AllOrNothing True (attempt (g ()) >>= f) w)
    (hf : ∀ e w, Exactly pairAct CreateOk AllOrNothing True (f (.error e)) w) :
    Exactly pairAct CreateOk AllOrNothing True (attempt (followUps .counter steps >>= g) >>= f) w := by
  induction steps generalizing w with
  | nil => exact hg w
  | cons step steps ih =>
    rw [followUps, Prog.bind_assoc]
    refine exactly_attempt fun r => ?_
    cases (pairAct (.followUp .counter step) w r).1 with
    | ok a => exact exactly_of trivial ih
    | error e => exact exactly_of trivial (hf e _)

theorem attachPairSession_exactly : Exactly pairAct CreateOk AllOrNothing True attachPairSession w := by
  refine settle_run (c := .createPairSession) (fun _ => Iff.rfl) (fun id _ => ?_)
    fun r hr => ⟨r.pairSessionId, by simp [pairAct, hr, pairAnswer]⟩
  refine settle_run (c := .attachPairSessionOrders) (fun _ => Iff.rfl) (fun _ _ => ?_)
    fun r hr => ⟨(), by simp [pairAct, hr, pairAnswer]⟩
  refine settle_run (c := .setPairSession .primary id) (fun _ => Iff.rfl) (fun _ _ => ?_)
    fun r hr => ⟨(), by simp [pairAct, hr, pairAnswer]⟩
  refine settle_run (c := .setPairSession .counter id) (fun _ => Iff.rfl) (fun _ _ => ?_)
    fun r hr => ⟨(), by simp [pairAct, hr, pairAnswer]⟩
  refine settle_run (c := .holdCounter) (fun _ => Iff.rfl) (fun _ _ => ?_)
    fun r hr => ⟨(), by simp [pairAct, hr, pairAnswer]⟩
  refine settle_run (c := .holdEvent) (fun _ => Iff.rfl) (fun _ _ => ?_)
    fun r hr => ⟨(), by simp [pairAct, hr, pairAnswer]⟩
  rw [← Prog.bind_pure (PairJob.run .sessionEvent)]
  exact settle_run (c := .sessionEvent) (fun _ => Iff.rfl) (fun _ _ => exactly_pure trivial)
    fun r hr => ⟨(), by simp [pairAct, hr, pairAnswer]⟩

theorem cancelPrimary_iff (reason : String) (r : PairReply) :
    CreateOk (.cancelOrder .primary reason) w r ↔
      NothingLeft (pairAct (.cancelOrder .primary reason) w r).2 := by
  change Cancelable (r.arrive w).primary r ∧ LegEnded (r.arrive w).counter ↔ _
  cases hfail : r.fails with
  | some failure =>
    have hact : (pairAct (.cancelOrder .primary reason) w r).2 = r.arrive w := by
      simp [pairAct, hfail]
    rw [hact, NothingLeft]
    refine and_congr_left fun _ => ?_
    refine forall₂_congr fun o _ => forall_congr' fun _ => ?_
    simp [Ended, hfail, and_comm]
  | none =>
    have hact : (pairAct (.cancelOrder .primary reason) w r).2 =
        (r.arrive w).modify .primary (·.update (.setStatus .canceled (some (text reason)))) := by
      simp [pairAct, hfail, pairAnswer]
    rw [hact, NothingLeft]
    refine and_congr_left fun _ => ?_
    cases hp : (r.arrive w).primary with
    | none => simp [Cancelable, PairWorld.modify, PairWorld.setOrder, PairWorld.order, hp, LegEnded]
    | some o =>
      simp [Cancelable, PairWorld.modify, PairWorld.setOrder, PairWorld.order, hp, LegEnded, Ended,
        hfail, OrderUpdate.apply, isProcessable, isTradeBuilderOrderProcessableStatus]

theorem counterFailed_exactly (e : String) (w : PairWorld) :
    Exactly pairAct CreateOk AllOrNothing True (afterPrimary (.error e)) w := by
  refine exactly_ignore fun r => ?_
  exact exactly_fail (cancelPrimary_iff _ r)

theorem counterOrdered_exactly (steps : List FollowUp) (w : PairWorld) :
    Exactly pairAct CreateOk AllOrNothing True (attempt (do
      followUps .counter steps
      pure .ordered) >>= afterPrimary) w :=
  counterFollowUps_exactly steps (fun _ => attachPairSession_exactly) counterFailed_exactly

theorem counterLeg_exactly (w : PairWorld) :
    Exactly pairAct CreateOk AllOrNothing True
      (attempt (executeActionPlaceOrder .counter) >>= afterPrimary) w := by
  refine exactly_attempt fun r => ?_
  cases hfail : r.fails with
  | some reason =>
    simp only [pairAct, hfail]
    exact exactly_of (by simp [CreateOk, hfail]) (counterFailed_exactly reason _)
  | none =>
    simp only [pairAct, hfail, pairAnswer]
    cases hadmission : r.admission with
    | blocked => exact exactly_fail (by simp [CreateOk, hfail, hadmission, AllOrNothing])
    | rearms existing sizeBasis sizeUsdc targetQty remainingQty after before =>
      refine exactly_of (by simp [CreateOk, hadmission]) (exactly_attempt fun r => ?_)
      cases (pairAct (.rearmOrder .counter existing _) _ r).1 with
      | error e => exact exactly_of trivial (counterFailed_exactly e _)
      | ok a => exact exactly_of trivial (counterOrdered_exactly _ _)
    | creates row =>
      refine exactly_of (by simp [CreateOk, hadmission]) (exactly_attempt fun r => ?_)
      cases (pairAct (.createOrder .counter row) _ r).1 with
      | error e => exact exactly_of trivial (counterFailed_exactly e _)
      | ok a => exact exactly_of trivial (counterOrdered_exactly _ _)

theorem primaryOrdered_exactly (steps : List FollowUp) (w : PairWorld) :
    Exactly pairAct CreateOk AllOrNothing True ((do
      followUps .primary steps
      pure PlaceExecution.ordered) >>= fun execution => do
        extractBuilderOrderId execution
        afterPrimary (← attempt (executeActionPlaceOrder .counter))) w := by
  rw [Prog.bind_assoc]
  exact followUps_exactly steps counterLeg_exactly

end Exactly

/-- No order exists yet. -/
def PairWorld.Empty (w : PairWorld) : Prop := w.primary = none ∧ w.counter = none

theorem PairWorld.Empty.arrive {w : PairWorld} (h : w.Empty) (r : PairReply) :
    (r.arrive w).Empty := by
  rw [PairReply.arrive]
  induction r.before generalizing w with
  | nil => exact h
  | cons turn turns ih =>
    refine ih ?_
    obtain ⟨hp, hc⟩ := h
    obtain ⟨leg, turn⟩ := turn
    cases leg <;>
      exact ⟨by simp [PairWorld.modify, PairWorld.setOrder, PairWorld.order, hp, hc],
        by simp [PairWorld.modify, PairWorld.setOrder, PairWorld.order, hp, hc]⟩

theorem PairWorld.Empty.nothingLeft {w : PairWorld} (h : w.Empty) : NothingLeft w := by
  simp [NothingLeft, LegEnded, h.1, h.2]

theorem empty_run {w : PairWorld} {c : PairCall} {f : PairAnswer c → PairJob Unit}
    (hw : w.Empty) (hc : ∀ r, CreateOk c w r) (hf : ∀ r, match pairAnswer c (r.arrive w) r with
      | (.ok a, w') => Exactly pairAct CreateOk AllOrNothing True (f a) w'
      | (.error _, _) => False) :
    Exactly pairAct CreateOk AllOrNothing True (PairJob.run c >>= f) w := by
  refine exactly_perform fun r => ?_
  have hf := hf r
  cases hfail : r.fails with
  | some reason =>
    simp only [pairAct, hfail]
    exact iff_of_true (hc r) (hw.arrive r).nothingLeft
  | none =>
    simp only [pairAct, hfail]
    cases hx : pairAnswer c (r.arrive w) r with
    | mk x w' =>
      rw [hx] at hf
      cases x with
      | ok a => exact exactly_of (hc r) hf
      | error e => exact hf.elim

theorem primaryLeg_exactly {w : PairWorld} (hw : w.Empty) :
    Exactly pairAct CreateOk AllOrNothing True (executeActionPlaceOrder .primary >>=
      fun execution => do
        extractBuilderOrderId execution
        afterPrimary (← attempt (executeActionPlaceOrder .counter))) w := by
  rw [executeActionPlaceOrder, Prog.bind_assoc]
  refine empty_run (c := .preflight .primary) hw (fun _ => trivial) fun r => ?_
  have hw := hw.arrive r
  simp only [pairAnswer]
  cases r.admission with
  | blocked => exact exactly_fail (iff_of_true trivial hw.nothingLeft)
  | rearms existing sizeBasis sizeUsdc targetQty remainingQty after before =>
    rw [Prog.bind_assoc]
    exact empty_run (c := .rearmOrder .primary existing _) hw (fun _ => trivial)
      fun r => primaryOrdered_exactly _ _
  | creates row =>
    rw [Prog.bind_assoc]
    exact empty_run (c := .createOrder .primary row) hw (fun _ => trivial)
      fun r => primaryOrdered_exactly _ _

/-- An error of the creation leaves no order it created processable or live exactly when each
of its calls meets the condition. -/
theorem pair_lock_all_or_nothing (replies : List PairReply) :
    AllOrNothing (exec pairAct executeActionPlaceOrderPairLock replies {}).1
        (exec pairAct executeActionPlaceOrderPairLock replies {}).2 ↔
      Meets pairAct CreateOk executeActionPlaceOrderPairLock replies {} := by
  have hempty : PairWorld.Empty {} := ⟨rfl, rfl⟩
  suffices h : Exactly pairAct CreateOk AllOrNothing True executeActionPlaceOrderPairLock {} from
    (h replies).trans (and_iff_right trivial)
  exact empty_run (c := .prepare) hempty (fun _ => trivial) fun r =>
    primaryLeg_exactly (hempty.arrive r)

instance (w : World) : Decidable (Ended w) := by
  unfold Ended
  infer_instance

instance (order : Option LegOrder) : Decidable (LegEnded order) := by
  unfold LegEnded
  infer_instance

instance (w : PairWorld) : Decidable (NothingLeft w) := by
  unfold NothingLeft
  infer_instance

instance (x : Except String Unit) (w : PairWorld) : Decidable (AllOrNothing x w) := by
  cases x <;> unfold AllOrNothing <;> infer_instance

/-- Both legs are created, then the session cannot be. -/
def sessionFails : List PairReply := List.replicate 17 ({} : PairReply) ++ [{ fails := some "db error" }]

theorem session_failure_leaves_both_legs :
    ¬ AllOrNothing (exec pairAct executeActionPlaceOrderPairLock sessionFails {}).1
      (exec pairAct executeActionPlaceOrderPairLock sessionFails {}).2 := by
  decide +kernel

end PolymarketBot.Builder
