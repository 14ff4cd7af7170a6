import PolymarketBot.Builder.Placements

/-! An accepted exchange order that the row never learns of, because a database call fails
before its id is written: when the error handling leads to a second order for the trigger. -/

namespace PolymarketBot.Builder
open Lib Prog

/-- The world of an order, the accepted exchange orders whose id its row has not held yet, and
the orders placed while there was one of the same trigger. -/
structure Ledger where
  world : World := {}
  unrecorded : List ℕ := []
  doubled : List ℕ := []
  deriving DecidableEq

def Ledger.triggerAccepted (L : Ledger) : Bool :=
  L.unrecorded.any fun id =>
    (L.world.exchangeOrder id).any (·.trigger = L.world.order.triggersFired)

/-- What an answered call enters into the ledger. -/
def Ledger.enter (L : Ledger) : (c : Call) → Answer c → Ledger
  | .place _, ack =>
    { L with unrecorded := ack.exchangeOrderId :: L.unrecorded
             doubled := if L.triggerAccepted then ack.exchangeOrderId :: L.doubled
               else L.doubled }
  | .update u, _ =>
    { L with unrecorded := L.unrecorded.filter fun id => u.activeId ≠ some (some id) }
  | _, _ => L

def ledgerAct (c : Call) (L : Ledger) (r : Reply) : Except ErrorText (Answer c) × Ledger :=
  let arrived : Ledger := { L with world := r.arrive L.world }
  match act c L.world r with
  | (.ok a, w) => (.ok a, { arrived.enter c a with world := w })
  | (.error e, w) => (.error e, { arrived with world := w })

def ledgerStep (o : Outside) (L : Ledger) : Ledger := { L with world := o.step L.world }

def NoDoubleSubmit (L : Ledger) : Prop := L.doubled = []

instance (L : Ledger) : Decidable (NoDoubleSubmit L) := inferInstanceAs (Decidable (_ = _))

/-! ### The condition -/

/-- A row that no pass submits: it is not processed, or only to be canceled. -/
def RowParked (row : TradeBuilderOrder) : Prop :=
  isProcessable row = false ∨ row.status = .canceledRequested

instance (row : TradeBuilderOrder) : Decidable (RowParked row) :=
  inferInstanceAs (Decidable (_ ∨ _))

/-- What the pair lock makes of a candidate that is to be canceled puts it back to work. -/
def PairLockAction.revives : PairLockAction → Bool
  | .hold | .rebase .. => true
  | _ => false

/-- The condition on a call made while an accepted order is unrecorded: outside the main loop's
handler no call fails before the row is parked; the handler reads a row that is not retryable,
its mark goes through and is not retryable either; no pair lock revives the row. -/
def CallOk (handled : Bool) (c : Call) (L : Ledger) (r : Reply) : Prop :=
  let row := (r.arrive L.world).order
  L.unrecorded ≠ [] →
    (handled = true ∨ r.fails = none ∨ RowParked row) ∧
    match c with
    | .latestOrder => r.fails ≠ none ∨ tradeBuilderShouldRetryAfterProcessingError row = false
    | .update (.setStatus .error (some e)) =>
      if r.fails = none then
        tradeBuilderShouldRetryAfterProcessingError
          ((OrderUpdate.setStatus .error (some e)).apply row) = false
      else RowParked row
    | .pairLockRuntime => r.fails ≠ none ∨ r.pairLock.revives = false
    | _ => True

instance (handled : Bool) (c : Call) (L : Ledger) (r : Reply) :
    Decidable (CallOk handled c L r) := by
  unfold CallOk
  refine @instDecidableForall _ _ _ (@instDecidableAnd _ _ _ ?_)
  split <;> infer_instance

def TurnOk (L : Ledger) : Pass → Prop
  | .pass p replies => ∃ now,
    (p = housekeepingPass now ∧ Meets ledgerAct (CallOk true) p replies L) ∨
      (p = directPass now ∧ Meets ledgerAct (CallOk false) p replies L)
  | .environment _ => True

/-! ### Calls on the ledger -/

/-- Nothing accepted is unrecorded. -/
structure Clean (L : Ledger) : Prop where
  recorded : L.unrecorded = []
  single : L.doubled = []

/-- Only this order is unrecorded. -/
structure OrderAccepted (id : ℕ) (L : Ledger) : Prop where
  only : L.unrecorded = [id]
  single : L.doubled = []

/-- What holds between two passes. -/
structure Rest (L : Ledger) : Prop where
  single : L.doubled = []
  parked : L.unrecorded = [] ∨ RowParked L.world.order

section Calls
variable {handled : Bool} {L : Ledger} {r : Reply} {c : Call} {id : ℕ}

theorem Clean.rest (hL : Clean L) : Rest L := ⟨hL.single, .inl hL.recorded⟩

theorem ledgerAct_answer (c : Call) (L : Ledger) (r : Reply) :
    (ledgerAct c L r).1 = (act c L.world r).1 := by
  unfold ledgerAct
  split <;> simp [*]

@[simp] theorem ledgerAct_world (c : Call) (L : Ledger) (r : Reply) :
    (ledgerAct c L r).2.world = (act c L.world r).2 := by
  unfold ledgerAct
  split <;> simp [*]

theorem ledgerAct_ok {a : Answer c} (h : (act c L.world r).1 = .ok a) :
    ledgerAct c L r = (.ok a, { ({ L with world := r.arrive L.world } : Ledger).enter c a with
      world := (act c L.world r).2 }) := by
  unfold ledgerAct
  split
  case h_1 b w hact =>
    rw [hact] at h ⊢
    cases h
    rfl
  case h_2 e w hact =>
    rw [hact] at h
    cases h

theorem ledgerAct_fails {failure : CallFailure} (h : r.fails = some failure) (c : Call)
    (L : Ledger) :
    ledgerAct c L r = (.error failure.toErrorText, { L with world := r.arrive L.world }) := by
  unfold ledgerAct
  simp [act, h]

theorem ledgerAct_routine (hc : Routine c) (L : Ledger) (r : Reply) :
    (ledgerAct c L r).2.doubled = L.doubled ∧
      (ledgerAct c L r).2.unrecorded ⊆ L.unrecorded := by
  unfold ledgerAct
  split
  · cases c with
    | place request => exact absurd hc id
    | update u => exact ⟨rfl, List.filter_sublist.subset⟩
    | _ => exact ⟨rfl, List.Subset.refl _⟩
  · exact ⟨rfl, List.Subset.refl _⟩

theorem Clean.after (hL : Clean L) (hc : Routine c) (r : Reply) : Clean (ledgerAct c L r).2 := by
  obtain ⟨hdoubled, hsub⟩ := ledgerAct_routine hc L r
  rw [hL.recorded] at hsub
  exact ⟨List.eq_nil_of_subset_nil hsub, hdoubled.trans hL.single⟩

theorem arrive_order (r : Reply) (w : World) :
    (r.arrive w).order = w.order ∨ (r.arrive w).order.status = .canceledRequested := by
  have hstep : ∀ (before : List Outside) (w' : World),
      (w'.order = w.order ∨ w'.order.status = .canceledRequested) →
        ((before.foldl (fun w o => o.step w) w').order = w.order ∨
          (before.foldl (fun w o => o.step w) w').order.status = .canceledRequested) := by
    intro before
    induction before with
    | nil => exact fun _ h => h
    | cons o before ih =>
      intro w' h
      refine ih _ ?_
      cases o with
      | requestCancel reason => exact .inr rfl
      | fill id qty => exact h
      | finish id state => exact h
  exact hstep r.before w (.inl rfl)

theorem RowParked.arrive (r : Reply) {w : World} (h : RowParked w.order) : RowParked (r.arrive w).order := by
  obtain hsame | hcancel := arrive_order r w
  · rwa [hsame]
  · exact .inr hcancel

theorem Rest.after (hL : Rest L) (hc : Silent c) (r : Reply) : Rest (ledgerAct c L r).2 := by
  obtain ⟨hdoubled, hsub⟩ := ledgerAct_routine hc.plain.routine L r
  refine ⟨hdoubled.trans hL.single, hL.parked.imp (fun h => ?_) fun h => ?_⟩
  · rw [h] at hsub
    exact List.eq_nil_of_subset_nil hsub
  · have hrow : (act c L.world r).2.order = (r.arrive L.world).order := by
      obtain h | ⟨u, rfl, -⟩ := act_order c L.world r
      · exact h
      · exact absurd hc id
    rw [ledgerAct_world, hrow]
    exact h.arrive r

end Calls

/-! ### A pass that starts with everything recorded -/

/-- What such a pass ends in: an order that it accepted and did not record is followed by an
error, which only the main loop handles if the row is not parked. -/
def Ends {α : Type} (handled : Bool) (x : Except ErrorText α) (L : Ledger) : Prop :=
  L.doubled = [] ∧
    (L.unrecorded = [] ∨
      (∃ e, x = .error e) ∧ (handled = true ∨ RowParked L.world.order))

section Walk
variable {handled : Bool} {α β : Type} {L : Ledger} {id : ℕ} {order : TradeBuilderOrder}

theorem Clean.ends (hL : Clean L) (x : Except ErrorText α) : Ends handled x L :=
  ⟨hL.single, .inl hL.recorded⟩

theorem clean_bind {p : Job α} {f : α → Job β} (hp : Only Routine p) (hL : Clean L)
    (hf : ∀ a L', Clean L' → wp ledgerAct (CallOk handled) (f a) (Ends handled) L') :
    wp ledgerAct (CallOk handled) (p >>= f) (Ends handled) L :=
  wp_bind_of_only (fun _ _ r hc h _ => h.after hc r) hp hL hf fun _ _ h => h.ends _

theorem clean_end {p : Job α} (hp : Only Routine p) (hL : Clean L) :
    wp ledgerAct (CallOk handled) p (Ends handled) L :=
  wp_mono (wp_of_only (I := Clean) (fun _ _ r hc h _ => h.after hc r) hp hL) fun _ _ h => h.ends _

/-- The calls between the acceptance of an order and the write of its id. -/
def Bookkeeping (id : ℕ) : Call → Prop
  | .appendEvent _ | .elsewhere _ | .upsertOrder _ _ => True
  | .update u => u.activeId = some (some id)
  | _ => False

theorem bookkeeping_bind {c : Call} {f : Answer c → Job β} (hc : Bookkeeping id c)
    (hL : OrderAccepted id L)
    (hf : ∀ a r, (act c L.world r).1 = .ok a →
      wp ledgerAct (CallOk handled) (f a) (Ends handled) (ledgerAct c L r).2) :
    wp ledgerAct (CallOk handled) (Job.run c >>= f) (Ends handled) L := by
  rw [wp_bind, Job.run, wp_perform]
  intro r hok
  cases hfails : r.fails with
  | some failure =>
    have hstray : L.unrecorded ≠ [] := by rw [hL.only]; exact List.cons_ne_nil _ _
    obtain ⟨hparked, -⟩ := hok hstray
    rw [ledgerAct_fails hfails]
    refine ⟨hL.single, .inr ⟨⟨_, rfl⟩, hparked.imp_right fun h => ?_⟩⟩
    exact h.resolve_left (by simp [hfails])
  | none =>
    obtain ⟨a, ha⟩ : ∃ a, (act c L.world r).1 = .ok a := by
      cases c <;> first | exact absurd hc not_false | exact ⟨(), by simp [act, hfails, answer]⟩
    rw [ledgerAct_answer, ha]
    exact hf a r ha

theorem accepted_bind {c : Call} {f : Answer c → Job β} (hc : Bookkeeping id c)
    (hsilent : Silent c) (hL : OrderAccepted id L)
    (hf : ∀ a L', OrderAccepted id L' → wp ledgerAct (CallOk handled) (f a) (Ends handled) L') :
    wp ledgerAct (CallOk handled) (Job.run c >>= f) (Ends handled) L := by
  refine bookkeeping_bind hc hL fun a r ha => hf a _ ?_
  rw [ledgerAct_ok ha]
  cases c with
  | update u => exact absurd hsilent not_false
  | place request => exact absurd hc not_false
  | _ => exact ⟨hL.only, hL.single⟩

theorem orderAccepted_store {u : OrderUpdate} {f : Unit → Job β} (hu : u.activeId = some (some id))
    (hL : OrderAccepted id L)
    (hf : ∀ a L', Clean L' → wp ledgerAct (CallOk handled) (f a) (Ends handled) L') :
    wp ledgerAct (CallOk handled) (Job.update u >>= f) (Ends handled) L := by
  refine bookkeeping_bind (c := .update u) hu hL fun a r ha => hf a _ ?_
  rw [ledgerAct_ok ha]
  refine ⟨?_, hL.single⟩
  simp [Ledger.enter, hL.only, hu]

theorem place_ledger (request : PlaceOrderRequest) (hL : Clean L)
    {Q : Except ErrorText (Except ErrorText PlaceAck) → Ledger → Prop}
    (hok : ∀ ack L', OrderAccepted ack.exchangeOrderId L' → Q (.ok (.ok ack)) L')
    (herr : ∀ e L', Clean L' → Q (.ok (.error e)) L') :
    wp ledgerAct (CallOk handled) (Job.tryRun (.place request)) Q L := by
  rw [Job.tryRun, wp_attempt, wp_perform]
  intro r _
  cases hfails : r.fails with
  | some failure =>
    rw [ledgerAct_fails hfails]
    exact herr _ _ ⟨hL.recorded, hL.single⟩
  | none =>
    obtain ⟨ack, hack⟩ : ∃ ack, (act (.place request) L.world r).1 = .ok ack := by
      simp only [act, hfails, answer]
      exact ⟨_, rfl⟩
    rw [ledgerAct_ok hack]
    refine hok ack _ ⟨?_, ?_⟩
    · simp [Ledger.enter, hL.recorded]
    · simp [Ledger.enter, Ledger.triggerAccepted, hL.recorded, hL.single]

theorem afterPlaced_ends {ack : PlaceAck} (price : ℚ) (sizing : SubmitSizing)
    (hL : OrderAccepted ack.exchangeOrderId L) :
    wp ledgerAct (CallOk handled) (afterPlaced order ack price sizing) (Ends handled) L := by
  refine accepted_bind trivial trivial hL fun _ L hL => ?_
  refine accepted_bind trivial trivial hL fun _ L hL => ?_
  refine accepted_bind trivial trivial hL fun _ L hL => ?_
  refine orderAccepted_store rfl hL fun _ L hL => ?_
  refine clean_bind (persistDynamic_routine _ _ _) hL fun order L hL => ?_
  refine clean_bind (only_when (event_routine _)) hL fun _ L hL => ?_
  refine clean_bind (event_routine _) hL fun _ L hL => ?_
  refine clean_bind (statement_routine _) hL fun _ L hL => ?_
  exact clean_end (only_when (finalizeSubmitted_routine _ _ _)) hL

/-- The attempts of a fast stop loss end with one order accepted or with none. -/
def Attempted (handled : Bool) (x : Except ErrorText (Except ErrorText (PlaceAck × ℚ)))
    (L : Ledger) : Prop :=
  match x with
  | .ok (.ok (ack, _)) => OrderAccepted ack.exchangeOrderId L
  | .ok (.error _) => Clean L
  | .error e => Ends handled (.error e : Except ErrorText Unit) L

theorem fastStopLossRetry_ends (size : ℚ) (attempts : ℕ) (e : ErrorText) {L : Ledger}
    (hL : Clean L) :
    wp ledgerAct (CallOk handled) (fastStopLossRetry size attempts e) (Attempted handled) L := by
  induction attempts generalizing e L with
  | zero => exact hL
  | succ attempts ih =>
    refine wp_bind_of_only (P := Routine) (I := Clean) (fun _ _ r hc h _ => h.after hc r)
      (only_tryRun trivial) hL (fun x L hL => ?_) fun _ _ h => h.ends _
    cases x with
    | error e' => exact hL
    | ok price =>
      refine (wp_bind _ _ _ _).mpr (place_ledger _ hL (fun ack L hL => hL) fun e L hL => ?_)
      exact wp_ite (fun _ => ih e hL) fun _ => hL

theorem placeSubmit_ends (price : ℚ) (sizing : SubmitSizing) (hL : Clean L) :
    wp ledgerAct (CallOk handled) (placeSubmit order price sizing) (Ends handled) L := by
  refine (wp_bind _ _ _ _).mpr (place_ledger _ hL (fun ack L hL => afterPlaced_ends _ _ hL)
    fun e L hL => ?_)
  refine clean_bind (only_whenOr (only_orElse trivial)) hL fun fakOrIoc L hL => ?_
  have hretry : wp ledgerAct (CallOk handled)
      (Job.whenOr (fakOrIoc = true) (.error e)
        (fastStopLossRetry sizing.size tradeBuilderFastSlRetryMaxAttempts e))
      (Attempted handled) L :=
    wp_ite (fun _ => fastStopLossRetry_ends _ _ _ hL) fun _ => hL
  refine wp_bind_of hretry (fun outcome L hL => ?_) fun _ _ h => h
  cases outcome with
  | ok placed =>
    refine accepted_bind trivial trivial hL fun _ L hL => ?_
    refine accepted_bind trivial trivial hL fun _ L hL => ?_
    exact afterPlaced_ends _ _ hL
  | error e =>
    exact clean_bind (event_routine _) hL fun _ L hL =>
      clean_end (placeError_routine _ _ _ _ _) hL

theorem placeReplacement_ends (price size : ℚ) (usdc qty : Option ℚ) (isPartial : Bool)
    (hL : Clean L) :
    wp ledgerAct (CallOk handled) (placeReplacement order price size usdc qty isPartial)
      (Ends handled) L := by
  refine (wp_bind _ _ _ _).mpr (place_ledger _ hL (fun ack L hL => ?_)
    fun e L hL => clean_end (placeError_routine _ _ _ _ _) hL)
  refine accepted_bind trivial trivial hL fun _ L hL => ?_
  refine orderAccepted_store rfl hL fun _ L hL => ?_
  refine clean_bind (only_when (event_routine _)) hL fun _ L hL => ?_
  refine clean_bind (event_routine _) hL fun _ L hL => ?_
  exact clean_end (only_when (finalizeReplacement_routine _ _)) hL

theorem placesWithin (handled : Bool) :
    PlacesWithin ledgerAct (CallOk handled) Clean (Ends handled) where
  routine _ _ r hc h _ := h.after hc r
  ends _ _ h := h.ends _
  submit _ _ _ _ h := placeSubmit_ends _ _ h
  replace _ _ _ _ _ _ _ h := placeReplacement_ends _ _ _ _ _ h
  goesOn _ h := ⟨h.2.resolve_right (by rintro ⟨⟨e, he⟩, -⟩; cases he), h.1⟩

end Walk

/-! ### A pass over a parked row -/

/-- A row closed or to be canceled, with an accepted order that it never held. -/
structure Closed (L : Ledger) : Prop where
  single : L.doubled = []
  stray : L.unrecorded ≠ []
  closed : tradeBuilderIsTerminalStatus L.world.order.status = true

/-- Calls that leave such a row closed. -/
def Closes : Call → Prop
  | .place _ | .getOrder => False
  | .update u => (∀ status, u.status? = some status → tradeBuilderIsTerminalStatus status = true) ∧
    ∀ id, u.activeId ≠ some (some id)
  | _ => True

theorem parked_of_closed {row : TradeBuilderOrder}
    (h : tradeBuilderIsTerminalStatus row.status = true) : RowParked row := by
  cases hs : row.status <;> simp [RowParked, isProcessable, isTradeBuilderOrderProcessableStatus,
    hs, tradeBuilderIsTerminalStatus] at h ⊢

/-- What a pass over a parked row ends in: the row is parked still, or its error is handled. -/
def Leaves {α : Type} (handled : Bool) (x : Except ErrorText α) (L : Ledger) : Prop :=
  Rest L ∨ L.doubled = [] ∧ handled = true ∧ ∃ e, x = .error e

section RowParked
variable {handled : Bool} {α β : Type} {L : Ledger} {order : TradeBuilderOrder}

theorem Closed.rest (hL : Closed L) : Rest L := ⟨hL.single, .inr (parked_of_closed hL.closed)⟩

theorem Closes.routine {c : Call} (h : Closes c) : Routine c := by
  cases c <;> trivial

theorem Closed.after (hL : Closed L) {c : Call} (hc : Closes c) (r : Reply) :
    Closed (ledgerAct c L r).2 := by
  obtain ⟨hdoubled, -⟩ := ledgerAct_routine hc.routine L r
  have hstray : (ledgerAct c L r).2.unrecorded = L.unrecorded := by
    unfold ledgerAct
    split
    · cases c with
      | place request => exact absurd hc id
      | update u => exact List.filter_eq_self.mpr fun id _ => by simpa using hc.2 id
      | _ => rfl
    · rfl
  have harrive : tradeBuilderIsTerminalStatus (r.arrive L.world).order.status = true := by
    obtain h | h := arrive_order r L.world
    · rw [h]
      exact hL.closed
    · rw [h]
      rfl
  refine ⟨hdoubled.trans hL.single, hstray ▸ hL.stray, ?_⟩
  rw [ledgerAct_world]
  obtain h | ⟨u, rfl, -, h⟩ := act_order c L.world r
  · rw [h]
    exact harrive
  · rw [h, World.update_order, OrderUpdate.apply_status]
    cases hu : u.status? with
    | none => exact harrive
    | some status => exact hc.1 status hu

theorem closed_bind {p : Job α} {f : α → Job β} (hp : Only Closes p) (hL : Closed L)
    (hf : ∀ a L', Closed L' → wp ledgerAct (CallOk handled) (f a) (Leaves handled) L') :
    wp ledgerAct (CallOk handled) (p >>= f) (Leaves handled) L :=
  wp_bind_of_only (fun _ _ r hc h _ => h.after hc r) hp hL hf fun _ _ h => .inl h.rest

theorem closed_end {p : Job α} (hp : Only Closes p) (hL : Closed L) :
    wp ledgerAct (CallOk handled) p (Leaves handled) L :=
  wp_mono (wp_of_only (I := Closed) (fun _ _ r hc h _ => h.after hc r) hp hL)
    fun _ _ h => .inl h.rest

theorem update_closes {u : OrderUpdate} {status : OrderStatus} (hu : u.status? = some status)
    (hstatus : tradeBuilderIsTerminalStatus status = true)
    (hid : ∀ id, u.activeId ≠ some (some id)) : Only Closes (Job.update u) := by
  refine only_run ⟨fun status' hu' => ?_, hid⟩
  rw [hu] at hu'
  cases hu'
  exact hstatus

theorem silent_closes {p : Job α} (h : Only Silent p) : Only Closes p :=
  h.mono fun c hc => by cases c <;> trivial

theorem lastSeen_closes (price : ℚ) : Only Closes (Job.update (.setLastSeenPrice price)) :=
  only_run ⟨nofun, nofun⟩

theorem cancelStatus_closes (row : TradeBuilderOrder) :
    tradeBuilderIsTerminalStatus (cancelStatus row) = true := by
  unfold cancelStatus
  split <;> rfl

theorem eligibilityWindow_closes (now : ℤ) :
    Only Closes (maybeHandleEligibilityWindow order now) := by
  unfold maybeHandleEligibilityWindow
  split
  · trivial
  · trivial
  · exact .bind (update_closes rfl rfl nofun) fun _ => silent_closes <|
      .bind (event_silent _) fun _ => .bind (statement_silent _) fun _ => trivial

theorem staleOrder_closes : Only Closes (maybeExpireTradeBuilderStaleOrder order) :=
  only_ite (fun _ => trivial) fun _ => .bind (only_run trivial) fun _ =>
    only_ite (fun _ => .bind (update_closes rfl rfl nofun) fun _ => silent_closes <|
      .bind (event_silent _) fun _ => .bind (only_when (statement_silent _)) fun _ =>
        .bind (statement_silent _) fun _ => trivial) fun _ => trivial

theorem expireByTtl_closes : Only Closes (expireByTtl order) :=
  only_ite (fun _ => .bind (update_closes rfl rfl nofun) fun _ => silent_closes <|
    .bind (event_silent _) fun _ => statement_silent _) fun _ => trivial

theorem completeByTriggerCount_closes : Only Closes completeByTriggerCount :=
  .bind (update_closes rfl rfl nofun) fun _ => silent_closes <|
    .bind (event_silent _) fun _ => only_ignore (statement_silent _)

theorem unwindSelf_closes : Only Closes unwindSelf :=
  .bind (only_run trivial) fun row => .bind
    (only_when (.bind (update_closes rfl (cancelStatus_closes row) nofun) fun _ =>
      silent_closes (event_silent _))) fun _ => silent_closes (statement_silent _)

theorem pairLockAction_closes {action : PairLockAction} (ha : action.revives = false) :
    Only Closes (applyPairLockAction order action) := by
  cases action with
  | proceed cap => trivial
  | sessionClosed =>
    exact only_ite (fun _ => .bind (update_closes rfl rfl nofun) fun _ => trivial) fun _ => trivial
  | cancel reason =>
    exact .bind (update_closes rfl rfl nofun) fun _ => silent_closes <|
      .bind (statement_silent _) fun _ => .bind (event_silent _) fun _ => trivial
  | wait => trivial
  | unwind => exact .bind unwindSelf_closes fun _ => trivial
  | hold => cases ha
  | rebase _ _ _ _ _ _ => cases ha

/-- A stage hands on an order that is to be canceled still. -/
def StillCancels : Stage TradeBuilderOrder → Prop
  | .ends => True
  | .goes order => order.status = .canceledRequested

theorem pairLockAction_cancels (ho : order.status = .canceledRequested)
    {action : PairLockAction} (ha : action.revives = false) :
    Returns StillCancels (applyPairLockAction order action) := by
  cases action with
  | proceed cap => cases cap <;> exact ho
  | sessionClosed =>
    rw [applyPairLockAction]
    split
    · exact (returns_true _).bind fun _ _ => trivial
    · exact ho
  | cancel reason =>
    exact (returns_true _).bind fun _ _ => (returns_true _).bind fun _ _ =>
      (returns_true _).bind fun _ _ => trivial
  | wait => trivial
  | unwind => exact (returns_true _).bind fun _ _ => trivial
  | hold => cases ha
  | rebase _ _ _ _ _ _ => cases ha

/-- A take profit that gave way waits for its cancel, or is canceled without an order. -/
def GaveWay (preempted : TradeBuilderOrder × Bool) : Prop :=
  preempted.1.status = .canceledRequested ∨
    preempted.2 = true ∧ preempted.1.activeExchangeOrderId.isNone

theorem preemptTakeProfit_closes : Only Closes (maybePreemptTradeBuilderTakeProfit order) := by
  refine only_ite (fun _ => trivial) fun _ => .bind (only_run trivial) fun preemption => ?_
  cases preemption with
  | none => trivial
  | deferred => exact silent_closes (.bind (event_silent _) fun _ => trivial)
  | preempted =>
    exact .bind (silent_closes (statement_silent _)) fun _ =>
      .bind (update_closes rfl (cancelStatus_closes _) nofun) fun _ =>
        silent_closes (.bind (event_silent _) fun _ => trivial)

theorem preemptTakeProfit_gaveWay (ho : order.status = .canceledRequested) :
    Returns GaveWay (maybePreemptTradeBuilderTakeProfit order) := by
  unfold maybePreemptTradeBuilderTakeProfit
  split
  · exact .inl ho
  · refine (returns_true _).bind fun preemption _ => ?_
    cases preemption with
    | none => exact .inl ho
    | deferred => exact (returns_true _).bind fun _ _ => .inl ho
    | preempted =>
      refine (returns_true _).bind fun _ _ => (returns_true _).bind fun _ _ =>
        (returns_true _).bind fun _ _ => ?_
      cases hid : order.activeExchangeOrderId with
      | none => exact .inr ⟨rfl, by simp⟩
      | some id => exact .inl (by simp [cancelStatus, hid])

theorem processPreempted_closes {preempted : TradeBuilderOrder × Bool} (h : GaveWay preempted)
    (price : RuntimePrice) : Only Closes (processPreempted preempted.1 preempted.2 price) := by
  refine only_ite (fun _ => lastSeen_closes _) fun hgo => ?_
  have hstatus : preempted.1.status = .canceledRequested := h.resolve_right hgo
  cases preempted.1.activeExchangeOrderId with
  | some id =>
    refine .bind ?_ fun _ => lastSeen_closes _
    rw [reconcileTradeBuilderOpenOrder, if_pos hstatus]
    exact .bind (only_run trivial) fun _ => .bind (silent_closes (statement_silent _)) fun _ =>
      .bind (update_closes rfl rfl nofun) fun _ => silent_closes (event_silent _)
  | none =>
    simp only [hstatus, if_true]
    exact .bind (update_closes rfl rfl nofun) fun _ => silent_closes (event_silent _)

theorem processPriced_closes (ho : order.status = .canceledRequested) (price : RuntimePrice) :
    Only Closes (processPriced order price) :=
  .bind (silent_closes (statement_silent _)) fun _ =>
    Only.bind_returns preemptTakeProfit_closes (preemptTakeProfit_gaveWay ho) fun _ h =>
      processPreempted_closes h price

theorem pairLockRuntime_leaves (ho : order.status = .canceledRequested) (hL : Closed L)
    {f : Stage TradeBuilderOrder → Job Unit}
    (hf : ∀ stage L', StillCancels stage → Closed L' →
      wp ledgerAct (CallOk handled) (f stage) (Leaves handled) L') :
    wp ledgerAct (CallOk handled) (maybeApplyTradeBuilderPairLockRuntime order >>= f)
      (Leaves handled) L := by
  unfold maybeApplyTradeBuilderPairLockRuntime
  split
  · exact hf _ _ ho hL
  · rw [bind_assoc, wp_bind, Job.run, wp_perform]
    intro r hok
    have hafter : Closed (ledgerAct .pairLockRuntime L r).2 := hL.after (c := .pairLockRuntime) trivial r
    obtain ⟨-, hlock⟩ := hok hL.stray
    cases hfails : r.fails with
    | some failure =>
      rw [ledgerAct_fails hfails] at hafter ⊢
      exact .inl hafter.rest
    | none =>
      have hrevives : r.pairLock.revives = false := hlock.resolve_left (by simp [hfails])
      have hanswer : (ledgerAct .pairLockRuntime L r).1 = .ok r.pairLock := by
        rw [ledgerAct_answer]
        simp [act, hfails, answer]
      rw [hanswer]
      exact wp_bind_of_returns (fun _ _ r hc h _ => h.after hc r)
        (pairLockAction_closes hrevives) (pairLockAction_cancels ho hrevives) hafter hf
        fun _ _ h => .inl h.rest

theorem processOrder_parked (now : ℤ) (ho : L.world.order = order) (hparked : RowParked order)
    (hsingle : L.doubled = []) (hstray : L.unrecorded ≠ []) :
    wp ledgerAct (CallOk handled) (processOrder order now) (Leaves handled) L := by
  have hrest : Rest L := ⟨hsingle, .inr (ho ▸ hparked)⟩
  refine wp_ite (fun _ => .inl hrest) fun hgo => ?_
  have hstatus : order.status = .canceledRequested := hparked.resolve_left (by simpa using hgo)
  have hL : Closed L := ⟨hsingle, hstray, by rw [ho, hstatus]; rfl⟩
  refine wp_ite (fun _ => closed_end completeByTriggerCount_closes hL) fun _ =>
    wp_ite (fun _ => closed_end expireByTtl_closes hL) fun _ => ?_
  refine closed_bind (eligibilityWindow_closes _) hL fun _ L hL =>
    wp_ite (fun _ => .inl hL.rest) fun _ => ?_
  refine closed_bind staleOrder_closes hL fun _ L hL =>
    wp_ite (fun _ => .inl hL.rest) fun _ => ?_
  refine pairLockRuntime_leaves hstatus hL fun stage L hstage hL => ?_
  cases stage with
  | ends => exact .inl hL.rest
  | goes order =>
    refine closed_bind (only_run trivial) hL fun price L hL => ?_
    cases price with
    | none => exact closed_end (silent_closes (event_silent _)) hL
    | some price => exact closed_end (processPriced_closes hstage price) hL

end RowParked

/-! ### Passes and runs -/

section Passes
variable {handled : Bool} {L : Ledger} {now : ℤ}

theorem getOrder_rest (hL : Rest L) {f : TradeBuilderOrder → Job Unit}
    (hf : ∀ order L', Rest L' → L'.world.order = order →
      wp ledgerAct (CallOk handled) (f order) (Leaves handled) L') :
    wp ledgerAct (CallOk handled) (Job.run .getOrder >>= f) (Leaves handled) L := by
  rw [wp_bind, Job.run, wp_perform]
  intro r _
  have harrive : Rest { L with world := r.arrive L.world } :=
    ⟨hL.single, hL.parked.imp_right fun h => h.arrive r⟩
  cases hfails : r.fails with
  | some failure =>
    rw [ledgerAct_fails hfails]
    exact .inl harrive
  | none =>
    have hact : act .getOrder L.world r =
        (.ok (r.arrive L.world).order, { r.arrive L.world with
          rowRead := (r.arrive L.world).order, unreadRequest := false }) := by
      simp [act, hfails, answer]
    rw [ledgerAct_ok (by rw [hact]), hact]
    exact hf _ _ ⟨harrive.single, harrive.parked⟩ rfl

theorem process_leaves (hL : Rest L) :
    wp ledgerAct (CallOk handled) (processTradeBuilderOrder now) (Leaves handled) L := by
  refine getOrder_rest hL fun order L hL ho => ?_
  by_cases hclean : L.unrecorded = []
  · refine wp_mono ((placesWithin handled).processOrder now ⟨hclean, hL.single⟩) fun x L h => ?_
    obtain ⟨hsingle, hrecorded | ⟨herror, hhandled | hparked⟩⟩ := h
    · exact .inl ⟨hsingle, .inl hrecorded⟩
    · exact .inr ⟨hsingle, hhandled, herror⟩
    · exact .inl ⟨hsingle, .inr hparked⟩
  · exact processOrder_parked now ho (ho ▸ hL.parked.resolve_left hclean) hL.single hclean

theorem directPass_rest (hL : Rest L) :
    wp ledgerAct (CallOk false) (directPass now) (fun _ => Rest) L := by
  refine (wp_bind _ _ _ _).mpr ((wp_attempt _ _ _).mpr ?_)
  refine wp_mono (process_leaves hL) fun _ L h => ?_
  exact h.resolve_right fun h => absurd h.2.1 Bool.false_ne_true

theorem rest_run {α : Type} {p : Job α} (hp : Only Silent p) (hL : Rest L) :
    wp ledgerAct (CallOk handled) p (fun _ => Rest) L :=
  wp_of_only (fun _ _ r hc h _ => h.after hc r) hp hL

theorem mark_rest (e : ErrorText) (hsingle : L.doubled = []) :
    wp ledgerAct (CallOk handled) (Job.ignore (Job.update (.setStatus .error (some e))))
      (fun _ => Rest) L := by
  refine (wp_bind _ _ _ _).mpr ((wp_attempt _ _ _).mpr ((wp_perform _ _ _).mpr fun r hok => ?_))
  obtain ⟨hdoubled, hsub⟩ := ledgerAct_routine (c := .update (.setStatus .error (some e)))
    trivial L r
  refine ⟨hdoubled.trans hsingle, ?_⟩
  by_cases hclean : L.unrecorded = []
  · rw [hclean] at hsub
    exact .inl (List.eq_nil_of_subset_nil hsub)
  · right
    obtain ⟨-, hmark⟩ := hok hclean
    dsimp only at hmark
    rw [ledgerAct_world]
    cases hfails : r.fails with
    | some failure =>
      rw [if_neg (by simp [hfails])] at hmark
      simpa [act, hfails] using hmark
    | none =>
      rw [if_pos hfails] at hmark
      have hrow : (act (.update (.setStatus .error (some e))) L.world r).2.order =
          (OrderUpdate.setStatus .error (some e)).apply (r.arrive L.world).order := by
        simp [act, hfails, answer]
      rw [hrow]
      exact .inl (by simp [isProcessable, hmark, OrderUpdate.apply_status, OrderUpdate.status?,
        isTradeBuilderOrderProcessableStatus])

theorem handleProcessingError_rest (e : ErrorText) (hsingle : L.doubled = []) :
    wp ledgerAct (CallOk true) (handleProcessingError e) (fun _ => Rest) L := by
  by_cases hclean : L.unrecorded = []
  · have hL : Clean L := ⟨hclean, hsingle⟩
    exact wp_mono (wp_of_only (I := Clean) (fun _ _ r hc h _ => h.after hc r)
      (handleProcessingError_routine e) hL) fun _ _ h => h.rest
  have hmark : ∀ name L, L.doubled = [] → wp ledgerAct (CallOk true)
      (do Job.ignore (Job.update (.setStatus .error (some e))); Job.ignore (Job.event name))
      (fun _ => Rest) L := fun name L hsingle =>
    wp_bind_of (mark_rest e hsingle)
      (fun _ L hL => rest_run (only_ignore (event_silent name)) hL) fun _ _ h => h
  refine (wp_bind _ _ _ _).mpr ((wp_attempt _ _ _).mpr ((wp_perform _ _ _).mpr fun r hok => ?_))
  have hafter := (ledgerAct_routine (c := .latestOrder) trivial L r).1.trans hsingle
  obtain ⟨-, hretry⟩ := hok hclean
  cases hfails : r.fails with
  | some failure =>
    rw [ledgerAct_fails hfails] at hafter ⊢
    exact hmark _ _ hafter
  | none =>
    have hanswer : (ledgerAct .latestOrder L r).1 = .ok (r.arrive L.world).order := by
      rw [ledgerAct_answer]
      simp [act, hfails, answer]
    rw [hanswer]
    refine wp_ite (fun h => absurd h ?_) fun _ => hmark _ _ hafter
    rw [hretry.resolve_left (by simp [hfails])]
    exact Bool.false_ne_true

theorem housekeepingPass_rest (hL : Rest L) :
    wp ledgerAct (CallOk true) (housekeepingPass now) (fun _ => Rest) L := by
  have hpass : wp ledgerAct (CallOk true)
      (do Job.statement .loadUser; processTradeBuilderOrder now) (Leaves true) L :=
    wp_bind_of (rest_run (statement_silent _) hL) (fun _ _ h => process_leaves h)
      fun _ _ h => .inl h
  refine (wp_bind _ _ _ _).mpr ((wp_attempt _ _ _).mpr (wp_mono hpass fun x L h => ?_))
  have hsingle : L.doubled = [] := h.elim (·.single) (·.1)
  cases x with
  | ok a => exact h.resolve_right fun h => nomatch h.2.2
  | error e => exact handleProcessingError_rest e hsingle

end Passes

theorem rest_step (L : Ledger) (t : Pass) (hL : Rest L) (ht : TurnOk L t) :
    Rest (Turn.step ledgerAct ledgerStep L t) := by
  cases t with
  | environment o =>
    have hparked := fun h : RowParked L.world.order => h.arrive { before := [o] }
    exact ⟨hL.single, hL.parked.imp_right hparked⟩
  | pass p replies =>
    obtain ⟨now, ⟨rfl, hm⟩ | ⟨rfl, hm⟩⟩ := ht
    · exact wp_sound (Q := fun _ => Rest) ledgerAct (CallOk true) (housekeepingPass_rest hL) hm
    · exact wp_sound (Q := fun _ => Rest) ledgerAct (CallOk false) (directPass_rest hL) hm

/-- In every run of passes and outside steps that meet their conditions, whatever calls fail:
while an accepted order is unknown to its row, none is placed for the same trigger. -/
theorem no_double_submit (w : World) (ts : List Pass)
    (hts : Turn.All ledgerAct ledgerStep TurnOk { world := w } ts) :
    NoDoubleSubmit (Turn.run ledgerAct ledgerStep { world := w } ts) :=
  (Turn.run_invariant ledgerAct ledgerStep rest_step ⟨rfl, .inl rfl⟩ hts).single

/-! ### A call that fails after the acceptance -/

/-- A pass in which the call after so many fails. -/
def passFailing (calls : ℕ) : Pass :=
  .pass (housekeepingPass 0) (List.replicate calls default ++ [{ fails := some .other }])

def laterPass : Pass := .pass (housekeepingPass 0) []

def unmatchedBuy : World := { order := { sizeUsdc := 10 } }

/-- The first pass fails to store the order it placed, and its handler marks the row as an
error. -/
theorem failed_buy_not_repeated :
    NoDoubleSubmit (Turn.run ledgerAct ledgerStep { world := unmatchedBuy }
      [passFailing 17, laterPass, .environment (.requestCancel {}), laterPass]) := by
  refine no_double_submit unmatchedBuy _ ⟨?_, ?_, trivial, ?_, trivial⟩
  · exact ⟨0, .inl ⟨rfl, by decide +kernel⟩⟩
  · exact ⟨0, .inl ⟨rfl, by decide +kernel⟩⟩
  · exact ⟨0, .inl ⟨rfl, by decide +kernel⟩⟩

/-- A stop loss that is latched, so that any error is to be retried. -/
def latchedExit : World where
  order := { kind := .conditional, status := .triggered, side := .sell, sizeBasis := .shares
             triggerCondition := some .crossBelow, triggerPrice := some (1 / 2)
             targetQty := some 10, parentOrderId := some 9
             triggerLatched := true, triggerLatchedReason := some "stop_loss" }

/-- The first pass places its order and fails to write the id to the row; its handler makes the
row triggered again, and the next pass places a second order. -/
theorem failed_exit_repeated :
    ¬ NoDoubleSubmit (Turn.run ledgerAct ledgerStep { world := latchedExit }
      [passFailing 23, laterPass]) ∧
      (Turn.run ledgerAct ledgerStep { world := latchedExit }
        [passFailing 23, laterPass]).world.exchange.map (fun e => (e.size, e.isLive, e.trigger)) =
          [(10, true, 0), (10, true, 0)] := by
  decide +kernel

end PolymarketBot.Builder
