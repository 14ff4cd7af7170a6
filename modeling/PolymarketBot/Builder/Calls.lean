import PolymarketBot.Builder.Process

/-! What one call can do to the world, and which calls the programs of a pass make. -/

namespace PolymarketBot.Builder
open Lib Prog

/-- What the exchange can do by itself to one order: fill it further or end it. -/
structure ExchangeOrder.Evolves (e e' : ExchangeOrder) : Prop where
  id : e'.id = e.id
  size : e'.size = e.size
  price : e'.price = e.price
  trigger : e'.trigger = e.trigger
  filled : e.filled ≤ e'.filled
  live : e'.isLive → e.isLive
  frozen : e.isLive = false → e' = e
  bounded : e.filled ≤ e.size → e'.filled ≤ e'.size

namespace ExchangeOrder.Evolves

theorem refl (e : ExchangeOrder) : e.Evolves e :=
  ⟨rfl, rfl, rfl, rfl, le_refl _, fun h => h, fun _ => rfl, fun h => h⟩

theorem trans {e e' e'' : ExchangeOrder} (h : e.Evolves e') (h' : e'.Evolves e'') :
    e.Evolves e'' := by
  refine ⟨h'.id.trans h.id, h'.size.trans h.size, h'.price.trans h.price,
    h'.trigger.trans h.trigger, h.filled.trans h'.filled, fun hl => h.live (h'.live hl), ?_,
    fun hb => h'.bounded (h.bounded hb)⟩
  intro hl
  have he : e' = e := h.frozen hl
  rw [h'.frozen (by rw [he]; exact hl), he]

theorem fill (e : ExchangeOrder) (qty : ℚ) : e.Evolves (e.fill qty) := by
  by_cases h : e.isLive ∧ 0 ≤ qty ∧ e.filled + qty ≤ e.size
  · rw [ExchangeOrder.fill, if_pos h]
    refine ⟨rfl, rfl, rfl, rfl, ?_, fun _ => h.1, ?_, fun _ => h.2.2⟩
    · linarith [h.2.1]
    · intro hl
      simp [hl] at h
  · rw [ExchangeOrder.fill, if_neg h]
    exact refl e

theorem finish (e : ExchangeOrder) (state : ExchangeState) : e.Evolves (e.finish state) := by
  cases h : e.isLive
  · simpa [ExchangeOrder.finish, h] using refl e
  · simp only [ExchangeOrder.finish, h, if_true]
    exact ⟨rfl, rfl, rfl, rfl, le_refl _, fun _ => h, by simp [h], fun hb => hb⟩

end ExchangeOrder.Evolves

theorem ExchangeOrder.finish_canceled (e : ExchangeOrder) :
    (e.finish .canceled).isLive = false := by
  cases h : e.isLive
  · simp [finish, h]
  · simp [finish, h]
    rfl

theorem exchange_trans {es es' es'' : List ExchangeOrder}
    (h : List.Forall₂ ExchangeOrder.Evolves es es')
    (h' : List.Forall₂ ExchangeOrder.Evolves es' es'') :
    List.Forall₂ ExchangeOrder.Evolves es es'' := by
  induction h generalizing es'' with
  | nil => exact h'
  | cons he _ ih =>
    cases h' with
    | cons he' h' => exact .cons (he.trans he') (ih h')

theorem exchange_ids {es es' : List ExchangeOrder}
    (h : List.Forall₂ ExchangeOrder.Evolves es es') :
    es'.map ExchangeOrder.id = es.map ExchangeOrder.id := by
  induction h with
  | nil => rfl
  | cons he _ ih => simp [he.id, ih]

theorem evolves_of_mem {es es' : List ExchangeOrder}
    (h : List.Forall₂ ExchangeOrder.Evolves es es') {e' : ExchangeOrder} (he : e' ∈ es') :
    ∃ e ∈ es, e.Evolves e' := by
  obtain ⟨i, hi, rfl⟩ := List.getElem_of_mem he
  have hlen := h.length_eq
  exact ⟨es[i], List.getElem_mem _, h.get (by omega) hi⟩

theorem evolves_mem {es es' : List ExchangeOrder}
    (h : List.Forall₂ ExchangeOrder.Evolves es es') {e : ExchangeOrder} (he : e ∈ es) :
    ∃ e' ∈ es', e.Evolves e' := by
  obtain ⟨i, hi, rfl⟩ := List.getElem_of_mem he
  have hlen := h.length_eq
  exact ⟨es'[i], List.getElem_mem _, h.get hi (by omega)⟩

/-- The world of one order after others acted on it: the exchange evolved, and only status
and error text of the row may have been written. -/
structure World.Evolves (w w' : World) : Prop where
  exchange : List.Forall₂ ExchangeOrder.Evolves w.exchange w'.exchange
  order : ∃ status lastError, w'.order = { w.order with status, lastError }
  position : w'.position = w.position
  children : w'.children = w.children
  stored : w'.storedSize = w.storedSize
  parent : w'.parent = w.parent
  rowRead : w'.rowRead = w.rowRead

namespace World.Evolves

theorem refl (w : World) : w.Evolves w :=
  ⟨List.forall₂_same.mpr fun e _ => .refl e, ⟨w.order.status, w.order.lastError, rfl⟩, rfl, rfl,
    rfl, rfl, rfl⟩

theorem trans {w w' w'' : World} (h : w.Evolves w') (h' : w'.Evolves w'') : w.Evolves w'' := by
  obtain ⟨s, e, ho⟩ := h.order
  obtain ⟨s', e', ho'⟩ := h'.order
  refine ⟨?_, ⟨s', e', by rw [ho', ho]⟩, h'.position.trans h.position,
    h'.children.trans h.children, h'.stored.trans h.stored, h'.parent.trans h.parent,
    h'.rowRead.trans h.rowRead⟩
  exact exchange_trans h.exchange h'.exchange

theorem updateExchange (w : World) (id : ℕ) {f : ExchangeOrder → ExchangeOrder}
    (hf : ∀ e, ExchangeOrder.Evolves e (f e)) : w.Evolves (w.updateExchange id f) := by
  refine ⟨?_, ⟨w.order.status, w.order.lastError, rfl⟩, rfl, rfl, rfl, rfl, rfl⟩
  simp only [World.updateExchange, List.forall₂_map_right_iff]
  refine List.forall₂_same.mpr fun e _ => ?_
  by_cases h : e.id = id
  · simpa [h] using hf e
  · simpa [h] using ExchangeOrder.Evolves.refl e

theorem step (o : Outside) (w : World) : w.Evolves (o.step w) := by
  cases o with
  | fill id qty => exact updateExchange w id fun e => .fill e qty
  | finish id state => exact updateExchange w id fun e => .finish e state
  | requestCancel reason =>
    exact ⟨(refl w).exchange, ⟨_, _, rfl⟩, rfl, rfl, rfl, rfl, rfl⟩

theorem arrive (r : Reply) (w : World) : w.Evolves (r.arrive w) := by
  rw [Reply.arrive]
  induction r.before generalizing w with
  | nil => exact refl w
  | cons o os ih => exact (step o w).trans (ih (o.step w))

section
variable {w w' : World} (h : w.Evolves w')
include h

theorem activeExchangeOrderId :
    w'.order.activeExchangeOrderId = w.order.activeExchangeOrderId := by
  obtain ⟨s, e, ho⟩ := h.order
  rw [ho]

theorem of_mem {e' : ExchangeOrder} (he : e' ∈ w'.exchange) :
    ∃ e ∈ w.exchange, e.Evolves e' :=
  evolves_of_mem h.exchange he

end

end World.Evolves

/-- Exchange order ids are their places in the list, so ids are unique and new ones fresh. -/
def World.IdsOk (w : World) : Prop := w.exchange.map ExchangeOrder.id = List.range w.exchange.length

theorem World.Evolves.idsOk {w w' : World} (h : w.Evolves w') (hw : w.IdsOk) : w'.IdsOk := by
  rw [World.IdsOk, exchange_ids h.exchange, ← h.exchange.length_eq]
  exact hw

theorem World.IdsOk.place {w : World} (hw : w.IdsOk) {e : ExchangeOrder}
    (he : e.id = w.exchange.length) : { w with exchange := w.exchange ++ [e] }.IdsOk := by
  simp only [World.IdsOk] at hw ⊢
  simp [hw, he, List.range_succ]

theorem World.IdsOk.eq {w : World} (hw : w.IdsOk) {e e' : ExchangeOrder} (he : e ∈ w.exchange)
    (he' : e' ∈ w.exchange) (hid : e.id = e'.id) : e = e' := by
  obtain ⟨i, hi, rfl⟩ := List.getElem_of_mem he
  obtain ⟨j, hj, rfl⟩ := List.getElem_of_mem he'
  have hk : ∀ (k : ℕ) (hk : k < w.exchange.length), w.exchange[k].id = k := by
    intro k hk
    have hget : (w.exchange.map ExchangeOrder.id)[k]? = some k := by
      simp only [World.IdsOk] at hw
      simp [hw, hk]
    simpa [hk] using hget
  have : i = j := by rw [← hk i hi, ← hk j hj, hid]
  subst this
  rfl

theorem World.exchangeOrder_mem {w : World} {id : ℕ} {e : ExchangeOrder}
    (h : w.exchangeOrder id = some e) : e ∈ w.exchange ∧ e.id = id := by
  simp only [World.exchangeOrder] at h
  exact ⟨List.mem_of_find?_eq_some h, by simpa using List.find?_some h⟩

/-- What the exchange makes of a cancel. -/
inductive CancelAnswer (id : ℕ) (w : World) (r : Reply) : Except ErrorText Unit × World → Prop
  | ignored (h : r.notCanceled = true) : CancelAnswer id w r (.ok (), w)
  | canceled (e : ExchangeOrder) (he : w.exchangeOrder id = some e) (hm : e.state ≠ .matched) :
    CancelAnswer id w r (.ok (), w.updateExchange id (·.finish .canceled))
  | matched (e : ExchangeOrder) (he : w.exchangeOrder id = some e) (hm : e.state = .matched) :
    CancelAnswer id w r (.error terminalMatchError, w)
  | unknown (he : w.exchangeOrder id = none) : CancelAnswer id w r (.error errorOther, w)

theorem answer_cancel (id : ℕ) (w : World) (r : Reply) :
    CancelAnswer id w r (answer (.cancel id) w r) := by
  simp only [answer]
  split
  · exact .ignored ‹_›
  · cases he : w.exchangeOrder id with
    | none => exact .unknown he
    | some e =>
      by_cases hm : e.state = .matched
      · simp only [hm, if_true]
        exact .matched e he hm
      · simp only [hm, if_false]
        exact .canceled e he hm

theorem act_exchange (c : Call) (w : World) (r : Reply) :
    List.Forall₂ ExchangeOrder.Evolves (r.arrive w).exchange (act c w r).2.exchange ∨
      ∃ request, c = .place request ∧ r.fails = none ∧
        (act c w r).2.exchange = (r.arrive w).exchange ++ [placedOrder (r.arrive w) request r] := by
  have hrefl := (World.Evolves.refl (r.arrive w)).exchange
  cases hf : r.fails with
  | some f => exact .inl (by simpa [act, hf] using hrefl)
  | none =>
    cases c with
    | place request => exact .inr ⟨request, rfl, rfl, by simp [act, hf, answer]⟩
    | cancel id =>
      left
      simp only [act, hf]
      have hanswer := answer_cancel id (r.arrive w) r
      generalize answer (.cancel id) (r.arrive w) r = x at hanswer ⊢
      cases hanswer with
      | canceled e he hm =>
        exact (World.Evolves.updateExchange _ id fun e => .finish e _).exchange
      | _ => exact hrefl
    | status id =>
      left
      simp only [act, hf, answer]
      cases h : (r.arrive w).exchangeOrder id <;> exact hrefl
    | _ => exact .inl (by simpa [act, hf, answer] using hrefl)

/-- The exchange order of this id, if there is one, is no longer live. -/
def Stopped (w : World) (id : Option ℕ) : Prop :=
  ∀ n ∈ id, ∃ e ∈ w.exchange, e.id = n ∧ e.isLive = false

instance (w : World) (id : Option ℕ) : Decidable (Stopped w id) := by
  unfold Stopped
  infer_instance

theorem Stopped.evolves {w w' : World} {id : Option ℕ} (h : Stopped w id)
    (he : List.Forall₂ ExchangeOrder.Evolves w.exchange w'.exchange) : Stopped w' id := by
  intro n hn
  obtain ⟨e, hmem, hid, hl⟩ := h n hn
  obtain ⟨e', hmem', hev⟩ := evolves_mem he hmem
  have heq : e' = e := hev.frozen hl
  exact ⟨e', hmem', by rw [heq, hid], by rw [heq, hl]⟩

theorem Stopped.after {w : World} {c : Call} {r : Reply} {id : Option ℕ}
    (h : Stopped (r.arrive w) id) : Stopped (act c w r).2 id := by
  obtain he | ⟨request, rfl, -, he⟩ := act_exchange c w r
  · exact h.evolves he
  · intro n hn
    obtain ⟨e, hmem, hid⟩ := h n hn
    exact ⟨e, by rw [he]; exact List.mem_append_left _ hmem, hid⟩

theorem stopped_cancel {w : World} {n : ℕ} {e : ExchangeOrder} (he : w.exchangeOrder n = some e) :
    Stopped (w.updateExchange n (·.finish .canceled)) (some n) := by
  intro m hm
  rw [Option.mem_some_iff] at hm
  obtain ⟨hmem, hid⟩ := World.exchangeOrder_mem he
  refine ⟨e.finish .canceled, List.mem_map.mpr ⟨e, hmem, by simp [hid]⟩, ?_, ?_⟩
  · rw [(ExchangeOrder.Evolves.finish e .canceled).id, hid, hm]
  · exact ExchangeOrder.finish_canceled e

theorem stopped_of_canceled {w : World} {r : Reply} {n : ℕ} {a : Unit}
    (hr : r.notCanceled = false) (hx : (act (.cancel n) w r).1 = .ok a) :
    Stopped (act (.cancel n) w r).2 (some n) := by
  cases hf : r.fails with
  | some failure => simp [act, hf] at hx
  | none =>
    simp only [act, hf] at hx ⊢
    have hanswer := answer_cancel n (r.arrive w) r
    generalize answer (.cancel n) (r.arrive w) r = x at hanswer hx ⊢
    cases hanswer with
    | canceled e he hm => exact stopped_cancel he
    | ignored h => simp [hr] at h
    | _ => cases hx

/-- The row, as it is and as it was read, and what is known of cancel requests are the same. -/
structure World.SameRow (w w' : World) : Prop where
  order : w'.order = w.order
  rowRead : w'.rowRead = w.rowRead
  cancelRequest : w'.cancelRequest = w.cancelRequest
  unreadRequest : w'.unreadRequest = w.unreadRequest

theorem act_row {c : Call} (hc : c ≠ .getOrder) (w : World) (r : Reply) :
    (r.arrive w).SameRow (act c w r).2 ∨
      ∃ u, c = .update u ∧ r.fails = none ∧ (act c w r).2 = (r.arrive w).update u := by
  cases hf : r.fails with
  | some f => exact .inl (by simp only [act, hf]; exact ⟨rfl, rfl, rfl, rfl⟩)
  | none =>
    cases c with
    | getOrder => exact absurd rfl hc
    | update u => exact .inr ⟨u, rfl, rfl, by simp [act, hf, answer]⟩
    | cancel id =>
      left
      simp only [act, hf]
      have hanswer := answer_cancel id (r.arrive w) r
      generalize answer (.cancel id) (r.arrive w) r = x at hanswer ⊢
      cases hanswer <;> exact ⟨rfl, rfl, rfl, rfl⟩
    | status id =>
      left
      simp only [act, hf, answer]
      cases (r.arrive w).exchangeOrder id <;> exact ⟨rfl, rfl, rfl, rfl⟩
    | _ => exact .inl ⟨by simp [act, hf, answer], by simp [act, hf, answer],
        by simp [act, hf, answer], by simp [act, hf, answer]⟩

theorem act_order (c : Call) (w : World) (r : Reply) :
    (act c w r).2.order = (r.arrive w).order ∨
      ∃ u, c = .update u ∧ r.fails = none ∧ (act c w r).2 = (r.arrive w).update u := by
  by_cases hc : c = .getOrder
  · subst hc
    left
    cases hf : r.fails <;> simp [act, hf, answer]
  · exact (act_row hc w r).imp World.SameRow.order id

theorem act_rowRead {c : Call} (hc : c ≠ .getOrder) (w : World) (r : Reply) :
    (act c w r).2.rowRead = w.rowRead := by
  have harrive := (World.Evolves.arrive r w).rowRead
  obtain hs | ⟨u, -, -, hw⟩ := act_row hc w r
  · exact hs.rowRead.trans harrive
  · rw [hw, World.update_rowRead, harrive]

section Only
variable {P : Call → Prop} {α : Type}

theorem only_run {c : Call} (h : P c) : Only P (Job.run c) := (only_perform c).mpr h

theorem only_tryRun {c : Call} (h : P c) : Only P (Job.tryRun c) :=
  .attempt ((only_perform c).mpr h)

theorem only_orElse {c : Call} {d : Answer c} (h : P c) : Only P (Job.orElse c d) :=
  .bind (only_tryRun h) fun x => by cases x <;> trivial

theorem only_ignore {p : Job Unit} (h : Only P p) : Only P (Job.ignore p) :=
  .bind h.attempt fun _ => trivial

theorem only_discard {p : Job α} (h : Only P p) : Only P (Job.discard p) :=
  .bind h fun _ => trivial

theorem only_ite {c : Prop} [Decidable c] {p q : Job α} (hp : c → Only P p)
    (hq : ¬ c → Only P q) : Only P (if c then p else q) := by
  by_cases h : c
  · rw [if_pos h]
    exact hp h
  · rw [if_neg h]
    exact hq h

theorem only_when {c : Prop} [Decidable c] {p : Job Unit} (h : Only P p) :
    Only P (Job.when c p) :=
  only_ite (fun _ => h) fun _ => trivial

theorem only_whenOr {c : Prop} [Decidable c] {d : α} {p : Job α} (h : Only P p) :
    Only P (Job.whenOr c d p) :=
  only_ite (fun _ => h) fun _ => trivial

end Only

/-- Calls other than a placement and the row read at the start of a pass. -/
def Routine : Call → Prop
  | .place _ => False
  | .getOrder => False
  | _ => True

theorem act_routine {c : Call} (hc : Routine c) (w : World) (r : Reply) :
    List.Forall₂ ExchangeOrder.Evolves w.exchange (act c w r).2.exchange := by
  obtain h | ⟨request, rfl, -⟩ := act_exchange c w r
  · exact exchange_trans (World.Evolves.arrive r w).exchange h
  · exact absurd hc id

theorem act_exchange_eq {c : Call} (hplace : ∀ request, c ≠ .place request)
    (hcancel : ∀ id, c ≠ .cancel id) (w : World) (r : Reply) :
    (act c w r).2.exchange = (r.arrive w).exchange := by
  cases hf : r.fails with
  | some f => simp [act, hf]
  | none =>
    cases c with
    | place request => exact absurd rfl (hplace request)
    | cancel id => exact absurd rfl (hcancel id)
    | status id =>
      simp only [act, hf, answer]
      cases (r.arrive w).exchangeOrder id <;> rfl
    | _ => simp [act, hf, answer]

section Routine

theorem run_routine {c : Call} (h : Routine c) : Only Routine (Job.run c) := only_run h

theorem update_routine (u : OrderUpdate) : Only Routine (Job.update u) := only_run trivial

theorem event_routine (name : String) : Only Routine (Job.event name) := only_run trivial

theorem statement_routine (s : Elsewhere) : Only Routine (Job.statement s) := only_run trivial

theorem check_routine (q : Check) : Only Routine (Job.check q) := only_run trivial

/-- Calls that leave row read, exchange and exchange status alone. -/
def Plain : Call → Prop
  | .getOrder | .status _ | .cancel _ | .place _ => False
  | _ => True

theorem Plain.routine {c : Call} (h : Plain c) : Routine c := by
  cases c <;> trivial

theorem plain_routine {α : Type} {p : Job α} (h : Only Plain p) : Only Routine p :=
  h.mono fun _ => Plain.routine

/-- Calls that also leave the row alone. -/
def Silent : Call → Prop
  | .getOrder | .status _ | .cancel _ | .place _ | .update _ => False
  | _ => True

theorem Silent.plain {c : Call} (h : Silent c) : Plain c := by
  cases c <;> trivial

theorem silent_plain {α : Type} {p : Job α} (h : Only Silent p) : Only Plain p :=
  h.mono fun _ => Silent.plain

theorem silent_routine {α : Type} {p : Job α} (h : Only Silent p) : Only Routine p :=
  plain_routine (silent_plain h)

theorem event_silent (name : String) : Only Silent (Job.event name) := only_run trivial

theorem statement_silent (s : Elsewhere) : Only Silent (Job.statement s) := only_run trivial

theorem run_plain {c : Call} (h : Plain c) : Only Plain (Job.run c) := only_run h

theorem update_plain (u : OrderUpdate) : Only Plain (Job.update u) := only_run trivial

theorem event_plain (name : String) : Only Plain (Job.event name) := only_run trivial

theorem statement_plain (s : Elsewhere) : Only Plain (Job.statement s) := only_run trivial

theorem createChildren_silent (steps : List ChildStep) :
    Only Silent (createChildren steps) := by
  induction steps with
  | nil => trivial
  | cons step steps ih =>
    cases step with
    | note event => exact .bind (event_silent _) fun _ => ih
    | create child =>
      exact .bind (only_run trivial) fun _ => .bind (statement_silent _) fun _ =>
        .bind (event_silent _) fun _ => ih

theorem seedParentPosition_silent (qty : ℚ) : Only Silent (seedParentPosition qty) :=
  .bind (only_run trivial) fun _ => .bind (event_silent _) fun _ => trivial

theorem resolveLegacyInventory_silent : Only Silent resolveLegacyInventory := by
  refine .bind (only_orElse trivial) fun _ => ?_
  split
  · exact seedParentPosition_silent _
  · exact .bind (event_silent _) fun _ => trivial

theorem resolveParentInventory_silent :
    Only Silent resolveTradeBuilderParentExitInventory := by
  refine .bind (only_run trivial) fun position => ?_
  cases position with
  | some position => exact .bind (event_silent _) fun _ => trivial
  | none =>
    refine .bind (only_run trivial) fun _ => ?_
    split
    · exact seedParentPosition_silent _
    · exact resolveLegacyInventory_silent

theorem syncExitChild_plain (child : TradeBuilderOrder) (qty : ℚ) :
    Only Plain (syncExitChild child qty) := by
  refine only_ite (fun _ => trivial) fun _ => only_ite (fun _ => ?_) fun _ =>
    only_ite (fun _ => ?_) fun _ => ?_
  · exact .bind (update_plain _) fun _ => event_plain _
  · exact only_ite (fun _ => trivial) fun _ => .bind (update_plain _) fun _ => event_plain _
  · refine .bind (only_orElse trivial) fun target => ?_
    cases target with
    | absent => trivial
    | skipped => exact .bind (update_plain _) fun _ => event_plain _
    | target qty =>
      exact only_ite (fun _ => .bind (update_plain _) fun _ => event_plain _) fun _ =>
        .bind (update_plain _) fun _ => event_plain _

theorem syncExitChildren_plain : Only Plain tradeBuilderSyncParentExitChildren :=
  .bind (statement_plain _) fun _ => .bind (run_plain trivial) fun _ =>
    .bind (silent_plain resolveParentInventory_silent) fun _ => .bind (statement_plain _) fun _ =>
      .bind (syncExitChild_plain _ _) fun _ => statement_plain _

theorem syncExitChildren_routine : Only Routine tradeBuilderSyncParentExitChildren :=
  plain_routine (syncExitChildren_plain)

theorem ensurePosition_silent (qty : ℚ) :
    Only Silent (ensureTradeBuilderParentPositionFromParentFill qty) := by
  refine .bind (only_run trivial) fun position => ?_
  cases position with
  | some position => trivial
  | none => exact .bind (only_run trivial) fun _ => only_run trivial

theorem reportDynamicQty_silent (qty : ℚ) (actual : Option ℚ) :
    Only Silent (reportDynamicQty qty actual) := by
  refine .bind (event_silent _) fun _ => ?_
  cases actual with
  | some actual => exact only_when (event_silent _)
  | none => exact event_silent _

theorem finalizeBuyBookings_silent (order : TradeBuilderOrder) (qty : ℚ)
    (source : EntryQtySource) (actual : Option ℚ) :
    Only Silent (finalizeBuyBookings order qty source actual) :=
  .bind (only_when (reportDynamicQty_silent _ _)) fun _ =>
    .bind (ensurePosition_silent _) fun _ => only_when (statement_silent _)

theorem applyChildFill_silent (qty : Option ℚ) :
    Only Silent (applyTradeBuilderParentPositionChildFill qty) := by
  unfold applyTradeBuilderParentPositionChildFill
  split
  · trivial
  · exact .bind (only_run trivial) fun _ =>
      .bind (only_when (only_discard resolveParentInventory_silent)) fun _ => only_run trivial

theorem finalizeParentSide_routine (order : TradeBuilderOrder) (qty : Option ℚ) :
    Only Routine (finalizeParentSide order qty) := by
  refine .bind (only_whenOr (run_routine trivial)) fun parent => ?_
  cases parent with
  | none => trivial
  | some parent =>
    exact .bind (only_when (silent_routine (applyChildFill_silent _))) fun _ =>
      only_when (only_ignore syncExitChildren_routine)

theorem finalizeBuyChildren_silent (order : TradeBuilderOrder) (qty : ℚ)
    (surface liveGap : Bool) : Only Silent (finalizeBuyChildren order qty surface liveGap) :=
  .bind (only_orElse trivial) fun _ => createChildren_silent _

theorem countFill_routine (order : TradeBuilderOrder) (qty : ℚ) (source : EntryQtySource)
    (actual : Option ℚ) : Only Routine (countFill order qty source actual) :=
  .bind (update_routine _) fun _ => .bind (only_when (update_routine _)) fun _ =>
    only_when (silent_routine (finalizeBuyBookings_silent _ _ _ _))

theorem closeFill_routine (order : TradeBuilderOrder) (qty : ℚ) (applied : Option ℚ)
    (force surface liveGap : Bool) :
    Only Routine (closeFill order qty applied force surface liveGap) :=
  .bind (update_routine _) fun _ => .bind (event_routine _) fun _ =>
    .bind (only_when (statement_routine _)) fun _ =>
      .bind (finalizeParentSide_routine _ _) fun _ =>
        .bind (only_when (statement_routine _)) fun _ =>
          .bind (only_when (silent_routine (finalizeBuyChildren_silent _ _ _ _))) fun _ =>
            only_ignore (statement_routine _)

theorem finalizeCounted_routine (order : TradeBuilderOrder) (qty : ℚ)
    (source : EntryQtySource) (actual : Option ℚ) (force liveGap : Bool) :
    Only Routine (finalizeCounted order qty source actual force liveGap) :=
  .bind (countFill_routine _ _ _ _) fun _ => .bind (only_whenOr (check_routine _)) fun _ =>
    .bind (statement_routine _) fun _ => .bind (statement_routine _) fun _ =>
      closeFill_routine _ _ _ _ _ _

theorem finalize_routine (order : TradeBuilderOrder) (qty : ℚ) (source : EntryQtySource)
    (actual : Option ℚ) (force : Bool) :
    Only Routine (finalizeBuilderFill order qty source actual force) :=
  .bind (only_whenOr (check_routine _)) fun _ =>
    only_ite (fun _ => trivial) fun _ => finalizeCounted_routine _ _ _ _ _ _

section
variable (order : TradeBuilderOrder) (id : ℕ) (info : OrderInfo)

theorem resolveTerminalFillQty_silent :
    Only Silent (resolveTradeBuilderTerminalFillQty id info) := by
  refine .bind (only_run trivial) fun stored => ?_
  split
  · exact .bind (event_silent _) fun _ => trivial
  · exact .bind (only_run trivial) fun _ => .bind (event_silent _) fun _ => trivial

theorem resolveBuyFillQty_silent :
    Only Silent (resolveTradeBuilderParentBuyActualFillQty order id info) := by
  refine .bind (resolveTerminalFillQty_silent id info).attempt fun x => ?_
  cases x with
  | ok resolution =>
    exact only_ite (fun _ => trivial) fun _ =>
      only_ite (fun _ => .bind (event_silent _) fun _ => trivial) fun _ => trivial
  | error e =>
    exact only_ite (fun _ => .bind (event_silent _) fun _ => trivial) fun _ => trivial

theorem requireEntryQty_silent (entry : Option (ℚ × EntryQtySource)) :
    Only Silent (requireEntryQty entry) := by
  cases entry <;> trivial

theorem resolveActualFillQty_silent : Only Silent (resolveActualFillQty order id info) :=
  only_ite (fun _ => resolveBuyFillQty_silent _ _ _) fun _ =>
    .bind (resolveTerminalFillQty_silent _ _) fun _ => trivial

theorem resolveFinalizeQuantities_silent :
    Only Silent (resolveTradeBuilderFinalizeQuantities order id info) :=
  .bind (resolveActualFillQty_silent _ _ _) fun _ =>
    .bind (requireEntryQty_silent _) fun _ => trivial

theorem terminalFillQtyOrZero_silent :
    Only Silent (tradeBuilderTerminalFillQtyOrZero order id info) := by
  unfold tradeBuilderTerminalFillQtyOrZero
  split
  · trivial
  · split
    · trivial
    · exact .bind (only_orElse trivial) fun _ => trivial

theorem latchedTerminal_routine :
    Only Routine (maybeHandleLatchedStopLossTerminalStatus order id info) :=
  only_ite (fun _ => trivial) fun _ =>
    .bind (silent_routine (terminalFillQtyOrZero_silent _ _ _)) fun _ =>
    only_ite (fun _ => trivial) fun _ => .bind (only_orElse trivial) fun _ =>
      only_ite (fun _ => .bind (update_routine _) fun _ => .bind (event_routine _) fun _ => trivial)
        fun _ => .bind (update_routine _) fun _ => .bind (event_routine _) fun _ => trivial

theorem suppressReprice_routine : Only Routine suppressTradeBuilderBuyIocReprice :=
  .bind (update_routine _) fun _ => event_routine _

theorem visibleInventoryFill_silent : Only Silent visibleInventoryFill := by
  refine .bind (only_tryRun trivial) fun baseline => ?_
  cases baseline with
  | error e => exact .bind (event_silent _) fun _ => trivial
  | ok baseline =>
    refine .bind (only_tryRun trivial) fun quantity => ?_
    cases quantity with
    | ok quantity => trivial
    | error e => exact .bind (event_silent _) fun _ => trivial

theorem postCancelStatus_routine : Only Routine (postCancelStatus id) :=
  .bind (only_tryRun trivial) fun x => by cases x <;> trivial

theorem finalizePostCancelFill_routine (qty : ℚ) (isFull : Bool) :
    Only Routine (finalizePostCancelFill order qty isFull) := by
  refine only_ite (fun _ => ?_) fun _ => ?_
  · exact .bind (silent_routine (requireEntryQty_silent _)) fun _ =>
      .bind (statement_routine _) fun _ => .bind (event_routine _) fun _ =>
        finalize_routine _ _ _ _ _
  · exact .bind (statement_routine _) fun _ => .bind (update_routine _) fun _ =>
      .bind (event_routine _) fun _ => .bind (silent_routine (requireEntryQty_silent _)) fun _ =>
        finalize_routine _ _ _ _ _

theorem postCancelBuyFill_routine :
    Only Routine (reconcileTradeBuilderPostCancelBuyFill order id info) := by
  refine .bind (postCancelStatus_routine _) fun _ => .bind (only_orElse trivial) fun _ =>
    .bind (silent_routine visibleInventoryFill_silent) fun _ => ?_
  split
  · trivial
  · exact .bind (finalizePostCancelFill_routine _ _ _) fun _ => trivial

theorem reportPriceCap_silent : Only Silent reportPriceCap :=
  .bind (only_orElse trivial) fun _ => only_when (event_silent _)

theorem reportPriceCap_routine : Only Routine reportPriceCap :=
  silent_routine reportPriceCap_silent

theorem desiredPrice_silent (current : ℚ) (bestAsk : Option ℚ) :
    Only Silent (desiredPriceOf order current bestAsk) := by
  unfold desiredPriceOf
  cases order.side with
  | sell => exact only_orElse trivial
  | buy => trivial

theorem desiredPrice_routine (current : ℚ) (bestAsk : Option ℚ) :
    Only Routine (desiredPriceOf order current bestAsk) :=
  silent_routine (desiredPrice_silent _ _ _)

theorem guardWaiting_routine (reason : String) (size qty : Option ℚ) :
    Only Routine (transitionTradeBuilderOrderToGuardWaiting order reason size qty) :=
  .bind (update_routine _) fun _ =>
    only_ite (fun _ => .bind (event_routine _) fun _ => statement_routine _) fun _ => trivial

theorem inventoryPending_plain (reason : String) :
    Only Plain (markTradeBuilderInventoryPending order reason) :=
  .bind (update_plain _) fun _ => .bind (update_plain _) fun _ => event_plain _

theorem inventoryPending_routine (reason : String) :
    Only Routine (markTradeBuilderInventoryPending order reason) :=
  plain_routine (inventoryPending_plain _ _)

theorem exitSellRetry_plain (e : ErrorText) (price : ℚ) (attempted next : Option ℚ)
    (attemptStage nextStage : Option ExitSubmitStage) :
    Only Plain (scheduleTradeBuilderExitSellRetry order e price attempted next attemptStage
      nextStage) :=
  .bind (update_plain _) fun _ => .bind (only_when (event_plain _)) fun _ => event_plain _

theorem exitSellRetry_routine (e : ErrorText) (price : ℚ) (attempted next : Option ℚ)
    (attemptStage nextStage : Option ExitSubmitStage) :
    Only Routine (scheduleTradeBuilderExitSellRetry order e price attempted next attemptStage
      nextStage) :=
  plain_routine (exitSellRetry_plain _ _ _ _ _ _ _)

theorem belowMarketMin_plain (price : ℚ) (requested : Option ℚ) (qty : ℚ)
    (stage : Option ExitSubmitStage) :
    Only Plain (maybeHandleTradeBuilderShareSubmitBelowMarketMin order price requested qty
      stage) := by
  refine only_ite (fun _ => trivial) fun _ => .bind (only_orElse trivial) fun _ =>
    only_ite (fun _ => .bind (exitSellRetry_plain _ _ _ _ _ _ _) fun _ => trivial) fun _ =>
      .bind (only_orElse trivial) fun _ => only_ite (fun _ => ?_) fun _ => trivial
  exact only_ite (fun _ => .bind (event_plain _) fun _ => trivial) fun _ =>
    .bind (update_plain _) fun _ => .bind (event_plain _) fun _ => trivial

theorem belowMarketMin_routine (price : ℚ) (requested : Option ℚ) (qty : ℚ)
    (stage : Option ExitSubmitStage) :
    Only Routine (maybeHandleTradeBuilderShareSubmitBelowMarketMin order price requested qty
      stage) :=
  plain_routine (belowMarketMin_plain _ _ _ _ _)

theorem finalizeTerminalMatch_routine (event : String) (force : Bool) :
    Only Routine (finalizeTerminalMatch order id info event force) :=
  .bind (silent_routine (resolveFinalizeQuantities_silent _ _ _)) fun _ =>
    .bind (statement_routine _) fun _ => .bind (event_routine _) fun _ =>
      finalize_routine _ _ _ _ _

theorem guardWaits_routine (guard : GuardCancel) : Only Routine (guard.waits order) := by
  cases guard with
  | triggerPrice => trivial
  | maxPrice =>
    exact only_ite (fun _ => trivial) fun _ =>
      only_ite (fun _ => check_routine _) fun _ => trivial

theorem guardWithoutFill_routine (guard : GuardCancel) (size qty : Option ℚ) :
    Only Routine (guard.withoutFill order size qty) := by
  refine .bind (guardWaits_routine _ _) fun _ => only_ite (fun _ => ?_) fun _ => ?_
  · exact .bind (only_when (update_routine _)) fun _ => guardWaiting_routine _ _ _ _
  · exact .bind (update_routine _) fun _ => .bind (update_routine _) fun _ =>
      .bind (statement_routine _) fun _ => only_when (statement_routine _)

theorem estimatedVisible_silent (qty : ℚ) :
    Only Silent (tradeBuilderEstimatedVisibleExitQty order qty) :=
  only_ite (fun _ => .bind (only_orElse trivial) fun _ => trivial) fun _ => trivial

theorem inventoryOrWait_plain (size : ℚ) (prefetched : Option ℚ) :
    Only Plain (resolveInventoryOrWait order size prefetched) := by
  refine .bind (only_whenOr (only_orElse trivial)) fun _ =>
    .bind (only_whenOr (silent_plain (estimatedVisible_silent _ _))) fun _ => ?_
  split
  · exact .bind (inventoryPending_plain _ _) fun _ => trivial
  · exact .bind (only_when (event_plain _)) fun _ =>
      .bind (only_when (event_plain _)) fun _ => trivial

theorem dynamicGross_silent (size : ℚ) (prefetched : Option ℚ) :
    Only Silent (resolveDynamicGross order size prefetched) :=
  .bind (estimatedVisible_silent _ _) fun _ =>
    .bind (only_when (event_silent _)) fun _ => trivial

theorem inventoryOrRetry_plain (price size : ℚ) (prefetched : Option ℚ) :
    Only Plain (resolveInventoryOrRetry order price size prefetched) := by
  refine .bind (only_whenOr (only_orElse trivial)) fun _ => ?_
  split
  · exact .bind (exitSellRetry_plain _ _ _ _ _ _ _) fun _ => trivial
  · trivial

theorem shareInventory_plain (price size : ℚ) (prefetched : Option ℚ) :
    Only Plain (resolveShareInventory order price size prefetched) := by
  refine only_ite (fun _ => inventoryOrWait_plain _ _ _) fun _ => ?_
  split
  · exact silent_plain (dynamicGross_silent _ _ _)
  · trivial
  · exact inventoryOrRetry_plain _ _ _ _

theorem shareInventory_routine (price size : ℚ) (prefetched : Option ℚ) :
    Only Routine (resolveShareInventory order price size prefetched) :=
  plain_routine (shareInventory_plain _ _ _ _)

theorem retryRefused_routine (e : ErrorText) (price size : ℚ) (reason : String) :
    Only Routine (retryRefusedPlacement order e price size reason) :=
  .bind (only_whenOr (only_orElse trivial)) fun _ =>
    only_ite (fun _ => inventoryPending_routine _ _) fun _ =>
      only_ite (fun _ => exitSellRetry_routine _ _ _ _ _ _ _) fun _ => trivial

theorem placeError_routine (e : ErrorText) (price size : ℚ) (reason : String) :
    Only Routine (handlePlaceError order e price size reason) :=
  only_ite (fun _ => .bind (update_routine _) fun _ => event_routine _) fun _ =>
    only_ite (fun _ => .bind (event_routine _) fun _ => exitSellRetry_routine _ _ _ _ _ _ _)
      fun _ => only_ite (fun _ => exitSellRetry_routine _ _ _ _ _ _ _) fun _ =>
        retryRefused_routine _ _ _ _ _

theorem finalizeReplacement_routine (size : ℚ) : Only Routine (finalizeReplacement order size) :=
  only_ite (fun _ => .bind (silent_routine (requireEntryQty_silent _)) fun _ =>
    finalize_routine _ _ _ _ _) fun _ => finalize_routine _ _ _ _ _

theorem closeTerminal_routine : Only Routine (closeTerminal order) :=
  only_ite (fun _ => .bind (update_routine _) fun _ => event_routine _) fun _ =>
    .bind (update_routine _) fun _ => event_routine _

theorem reconcileTerminal_routine : Only Routine (reconcileTerminal order id info) := by
  refine .bind (latchedTerminal_routine _ _ _) fun _ => only_ite (fun _ => trivial) fun _ =>
    only_ite (fun _ => .bind (postCancelBuyFill_routine _ _ _) fun outcome => ?_) fun _ =>
      closeTerminal_routine _
  cases outcome with
  | finalized => trivial
  | noFill => exact only_ite (fun _ => suppressReprice_routine) fun _ => closeTerminal_routine _

theorem reconcileFilled_routine : Only Routine (reconcileFilled order id info) :=
  .bind (silent_routine (resolveFinalizeQuantities_silent _ _ _)) fun _ =>
    finalize_routine _ _ _ _ _

theorem immediateQuantities_silent (size : ℚ) (backfill : Option ℚ) :
    Only Silent (resolveTradeBuilderImmediateFillQuantities order size backfill) := by
  unfold resolveTradeBuilderImmediateFillQuantities
  split
  · trivial
  · exact only_ite (fun _ => .bind (requireEntryQty_silent _) fun _ => trivial) fun _ => trivial

theorem finalizeSubmitted_routine (size : ℚ) : Only Routine (finalizeSubmitted order id size) :=
  .bind (only_orElse trivial) fun _ =>
    .bind (silent_routine (immediateQuantities_silent _ _ _)) fun _ => finalize_routine _ _ _ _ _

theorem submitGuards_routine (sizing : SubmitSizing) :
    Only Routine (applySubmitGuards order sizing) := by
  refine only_ite (fun _ => trivial) fun _ => .bind (run_routine trivial) fun guards => ?_
  cases guards with
  | passes => trivial
  | waits reason =>
    exact .bind (event_routine _) fun _ => .bind (guardWaiting_routine _ _ _ _) fun _ => trivial
  | cancels reason =>
    exact .bind (event_routine _) fun _ => .bind (update_routine _) fun _ =>
      .bind (event_routine _) fun _ => .bind (statement_routine _) fun _ =>
        .bind (statement_routine _) fun _ => trivial

theorem bookRecheck_routine (current desired : ℚ) (sizing : SubmitSizing) :
    Only Routine (preSubmitBookRecheck order current desired sizing) := by
  refine .bind (only_whenOr (only_orElse trivial)) fun _ => only_ite (fun _ =>
    .bind (only_orElse trivial) fun _ => .bind (run_routine trivial) fun guards => ?_)
      fun _ => trivial
  cases guards with
  | passes => trivial
  | waits reason =>
    exact .bind (event_routine _) fun _ => .bind (event_routine _) fun _ =>
      .bind (guardWaiting_routine _ _ _ _) fun _ => trivial
  | cancels reason =>
    exact .bind (event_routine _) fun _ => .bind (event_routine _) fun _ =>
      .bind (guardWaiting_routine _ _ _ _) fun _ => trivial

theorem minNotionalTopUp_routine (price : ℚ) (sizing : SubmitSizing) :
    Only Routine (marketableBuyMinNotionalTopUp order price sizing) := by
  refine only_ite (fun _ => .bind (only_orElse trivial) fun _ => only_ite (fun _ => ?_)
    fun _ => trivial) fun _ => trivial
  exact only_ite (fun _ => .bind (update_routine _) fun _ => .bind (event_routine _) fun _ =>
    trivial) fun _ => trivial

theorem submitInventory_routine (price : ℚ) (sizing : SubmitSizing) :
    Only Routine (submitInventory order price sizing) := by
  refine only_ite (fun _ => .bind (shareInventory_routine _ _ _ _) fun submit => ?_) fun _ =>
    trivial
  cases submit with
  | none => exact .bind (event_routine _) fun _ => trivial
  | some submit => trivial

theorem evaluateTrigger_silent (price : RuntimePrice) :
    Only Silent (evaluateTrigger order price) :=
  .bind (only_whenOr (only_run trivial)) fun _ => trivial

theorem latchStopLoss_routine : Only Routine (maybeLatchTradeBuilderStopLoss order) :=
  only_ite (fun _ => trivial) fun _ => .bind (update_routine _) fun _ =>
    .bind (event_routine _) fun _ => .bind (statement_routine _) fun _ => trivial

theorem releaseUntriggered_routine (price : ℚ) : Only Routine (releaseUntriggered order price) :=
  .bind (only_when (.bind (update_routine _) fun _ => event_routine _)) fun _ =>
    only_ite (fun _ => .bind (update_routine _) fun _ => event_routine _) fun _ =>
      only_ite (fun _ => .bind (update_routine _) fun _ => event_routine _) fun _ =>
        .bind (only_when (.bind (update_routine _) fun _ => event_routine _)) fun _ =>
          update_routine _

theorem persistDynamic_routine (size price : ℚ) :
    Only Routine (maybePersistTradeBuilderSubmittedDynamic order size price) := by
  refine only_ite (fun _ => ?_) fun _ => trivial
  split
  · trivial
  · exact .bind (only_tryRun trivial) fun x => by cases x <;> trivial

theorem afterPlaced_routine (ack : PlaceAck) (price : ℚ) (sizing : SubmitSizing) :
    Only Routine (afterPlaced order ack price sizing) :=
  .bind (event_routine _) fun _ => .bind (statement_routine _) fun _ =>
    .bind (run_routine trivial) fun _ => .bind (update_routine _) fun _ =>
      .bind (persistDynamic_routine _ _ _) fun _ => .bind (only_when (event_routine _)) fun _ =>
        .bind (event_routine _) fun _ => .bind (statement_routine _) fun _ =>
          only_when (finalizeSubmitted_routine _ _ _)

end

end Routine

/-- Calls other than the row read at the start of a pass. -/
def NoRead (c : Call) : Prop := c ≠ .getOrder

theorem Routine.noRead {c : Call} (h : Routine c) : NoRead c := by
  rintro rfl
  exact h

theorem routine_noRead {α : Type} {p : Job α} (hp : Only Routine p) : Only NoRead p :=
  hp.mono fun _ => Routine.noRead

section Routine
variable (order : TradeBuilderOrder)

theorem cancelAtGuard_routine (guard : GuardCancel) (id : ℕ) (info : OrderInfo)
    (size qty : Option ℚ) :
    Only Routine (cancelOpenOrderAtGuard guard order id info size qty) := by
  refine .bind (only_tryRun trivial) fun canceled => ?_
  cases canceled with
  | error e =>
    exact only_ite (fun _ => finalizeTerminalMatch_routine _ _ _ _ _) fun _ => trivial
  | ok _ =>
    refine .bind (statement_routine _) fun _ => .bind (event_routine _) fun _ => ?_
    split
    · exact .bind (silent_routine (requireEntryQty_silent _)) fun _ =>
        finalize_routine _ _ _ _ _
    · exact guardWithoutFill_routine _ _ _ _

theorem syncWithParent_plain : Only Plain syncWithParent :=
  .bind (run_plain trivial) fun _ => only_when (only_ignore syncExitChildren_plain)

theorem syncWithParent_routine : Only Routine syncWithParent :=
  plain_routine (syncWithParent_plain)

theorem cancelRequested_routine (id : ℕ) : Only Routine (reconcileCancelRequested id) :=
  .bind (run_routine trivial) fun _ => .bind (statement_routine _) fun _ =>
    .bind (update_routine _) fun _ => event_routine _

theorem eligibilityWindow_routine (now : ℤ) :
    Only Routine (maybeHandleEligibilityWindow order now) := by
  unfold maybeHandleEligibilityWindow
  split
  · trivial
  · trivial
  · exact .bind (update_routine _) fun _ => .bind (event_routine _) fun _ =>
      .bind (statement_routine _) fun _ => trivial

theorem staleOrder_routine : Only Routine (maybeExpireTradeBuilderStaleOrder order) :=
  only_ite (fun _ => trivial) fun _ => .bind (check_routine _) fun _ =>
    only_ite (fun _ => .bind (update_routine _) fun _ => .bind (event_routine _) fun _ =>
      .bind (only_when (statement_routine _)) fun _ => .bind (statement_routine _) fun _ =>
        trivial) fun _ => trivial

theorem expireByTtl_routine : Only Routine (expireByTtl order) :=
  only_ite (fun _ => .bind (update_routine _) fun _ => .bind (event_routine _) fun _ =>
    statement_routine _) fun _ => trivial

theorem unwindSelf_routine : Only Routine unwindSelf :=
  .bind (run_routine trivial) fun _ => .bind (only_when (.bind (update_routine _) fun _ =>
    event_routine _)) fun _ => statement_routine _

theorem applyPairLockAction_routine (action : PairLockAction) :
    Only Routine (applyPairLockAction order action) := by
  cases action with
  | proceed cap => trivial
  | sessionClosed =>
    exact only_ite (fun _ => .bind (update_routine _) fun _ => trivial) fun _ => trivial
  | cancel reason =>
    exact .bind (update_routine _) fun _ => .bind (statement_routine _) fun _ =>
      .bind (event_routine _) fun _ => trivial
  | hold =>
    exact .bind (only_when (.bind (update_routine _) fun _ => event_routine _)) fun _ => trivial
  | wait => trivial
  | unwind => exact .bind unwindSelf_routine fun _ => trivial
  | rebase sizeBasis sizeUsdc targetQty remainingSize remainingQty eligibleBeforeAt =>
    exact only_ite (fun _ => trivial) fun _ => .bind (update_routine _) fun _ =>
      .bind (event_routine _) fun _ => trivial

theorem pairLockRuntime_routine :
    Only Routine (maybeApplyTradeBuilderPairLockRuntime order) :=
  only_ite (fun _ => trivial) fun _ => .bind (run_routine trivial) fun action =>
    applyPairLockAction_routine order action

theorem preemptTakeProfit_routine : Only Routine (maybePreemptTradeBuilderTakeProfit order) := by
  refine only_ite (fun _ => trivial) fun _ => .bind (run_routine trivial) fun preemption => ?_
  cases preemption with
  | none => trivial
  | deferred => exact .bind (event_routine _) fun _ => trivial
  | preempted =>
    exact .bind (statement_routine _) fun _ => .bind (update_routine _) fun _ =>
      .bind (event_routine _) fun _ => trivial

end Routine

/-- A price at or under the limit of a buy; limits outside (0, 1] do not count. -/
def PriceWithin (order : TradeBuilderOrder) (price : ℚ) : Prop :=
  order.side = .buy → ∀ m, order.maxPrice = some m → 0 < m → m ≤ 1 → price ≤ m

theorem clampBuyLimitPrice_within (order : TradeBuilderOrder) (price : ℚ) :
    PriceWithin order (tradeBuilderClampBuyLimitPrice order price) := by
  intro hbuy m hm h0 h1
  have hclamp : tradeBuilderClampBuyLimitPrice order price = min price m := by
    simp [tradeBuilderClampBuyLimitPrice, hbuy, hm, Option.filter_some, h0, h1]
  rw [hclamp]
  exact min_le_right _ _

theorem within_of_not_exceeds {order : TradeBuilderOrder} {price : ℚ}
    (h : ¬ tradeBuilderPriceExceedsMaxPrice order price = true) : PriceWithin order price := by
  intro _ m hm _ _
  simp only [tradeBuilderPriceExceedsMaxPrice, hm, Option.any_some, decide_eq_true_eq] at h
  exact not_lt.mp h

/-- The part of an order that limits its price. -/
structure SameLimit (order order' : TradeBuilderOrder) : Prop where
  side : order'.side = order.side
  maxPrice : order'.maxPrice = order.maxPrice

theorem SameLimit.within {order order' : TradeBuilderOrder} (h : SameLimit order order')
    {price : ℚ} (hp : PriceWithin order' price) : PriceWithin order price := by
  intro hbuy m hm h0 h1
  exact hp (h.side.trans hbuy) m (h.maxPrice.trans hm) h0 h1

section SameLimit
variable {order : TradeBuilderOrder}

theorem latchStopLoss_sameLimit : Returns (SameLimit order) (maybeLatchTradeBuilderStopLoss order) := by
  unfold maybeLatchTradeBuilderStopLoss
  split
  · exact ⟨rfl, rfl⟩
  · refine (returns_true _).bind fun _ _ => (returns_true _).bind fun _ _ =>
      (returns_true _).bind fun _ _ => ?_
    exact ⟨rfl, rfl⟩

theorem preemptTakeProfit_sameLimit :
    Returns (fun preempted => SameLimit order preempted.1)
      (maybePreemptTradeBuilderTakeProfit order) := by
  unfold maybePreemptTradeBuilderTakeProfit
  split
  · exact ⟨rfl, rfl⟩
  · refine (returns_true _).bind fun preemption _ => ?_
    cases preemption with
    | none => exact ⟨rfl, rfl⟩
    | deferred => exact (returns_true _).bind fun _ _ => ⟨rfl, rfl⟩
    | preempted =>
      exact (returns_true _).bind fun _ _ => (returns_true _).bind fun _ _ =>
        (returns_true _).bind fun _ _ => ⟨rfl, rfl⟩

end SameLimit

-- a pass makes routine calls and placements within the limit of its order
section Places
variable {P : Call → Prop} (hroutine : ∀ c, Routine c → P c) {order : TradeBuilderOrder}
  {α β : Type}
include hroutine

theorem routine_bind {p : Job α} {f : α → Job β} (hp : Only Routine p)
    (hf : ∀ a, Only P (f a)) : Only P (p >>= f) :=
  .bind (hp.mono hroutine) hf

variable (hplace : ∀ request, PriceWithin order request.price → P (.place request))
include hplace

theorem fastStopLossRetry_places (hsell : order.side ≠ .buy) (size : ℚ) (attempts : ℕ)
    (e : ErrorText) : Only P (fastStopLossRetry size attempts e) := by
  induction attempts generalizing e with
  | zero => trivial
  | succ attempts ih =>
    refine routine_bind hroutine (only_tryRun trivial) fun price => ?_
    cases price with
    | error e' => trivial
    | ok price =>
      refine .bind (only_tryRun (hplace _ fun hbuy => absurd hbuy hsell)) fun placed => ?_
      cases placed with
      | ok ack => trivial
      | error e' => exact only_ite (fun _ => ih _) fun _ => trivial

theorem placeSubmit_places (price : ℚ) (hprice : PriceWithin order price)
    (sizing : SubmitSizing) : Only P (placeSubmit order price sizing) := by
  refine .bind (only_tryRun (hplace _ hprice)) fun placed => ?_
  cases placed with
  | ok ack => exact (afterPlaced_routine _ _ _ _).mono hroutine
  | error e =>
    -- only a sell retries, at prices of its own
    have hretry : Returns (fun fakOrIoc => fakOrIoc = true → order.side ≠ .buy)
        (Job.whenOr (tradeBuilderIsFastStopLossSell order ∧ order.side = .sell ∧
          order.sizeBasis = .shares ∧ e.kind = .fakNoMatch) false
          (Job.orElse (.check .orderTypeIsFakOrIoc) false)) := by
      by_cases hc : tradeBuilderIsFastStopLossSell order ∧ order.side = .sell ∧
          order.sizeBasis = .shares ∧ e.kind = .fakNoMatch
      · rw [Job.whenOr, if_pos hc]
        refine (returns_true _).bind (R := fun _ => True) fun x _ => ?_
        cases x
        · intro h
          cases h
        · intro _ hbuy
          rw [hc.2.1] at hbuy
          cases hbuy
      · rw [Job.whenOr, if_neg hc]
        intro h
        cases h
    refine Only.bind_returns ((only_whenOr (only_orElse trivial)).mono hroutine) hretry
      fun fakOrIoc hsell => .bind (only_ite (fun h =>
        fastStopLossRetry_places hroutine hplace (hsell h) _ _ _) fun _ => trivial) fun outcome =>
        routine_bind hroutine (event_routine _) fun _ => ?_
    cases outcome with
    | ok placed =>
      exact routine_bind hroutine (event_routine _) fun _ =>
        (afterPlaced_routine _ _ _ _).mono hroutine
    | error e => exact (placeError_routine _ _ _ _ _).mono hroutine

theorem submitRechecked_places (price : ℚ) (hprice : PriceWithin order price)
    (requested : Option ℚ) (sizing : SubmitSizing) :
    Only P (submitRechecked order price requested sizing) := by
  refine routine_bind hroutine (minNotionalTopUp_routine _ _ _) fun sizing => ?_
  cases sizing with
  | none => trivial
  | some sizing =>
    exact routine_bind hroutine (belowMarketMin_routine _ _ _ _ _) fun _ =>
      only_ite (fun _ => (event_routine _).mono hroutine) fun _ =>
        placeSubmit_places hroutine hplace _ hprice _

theorem submitGuarded_places (current price : ℚ) (sizing : SubmitSizing) :
    Only P (submitGuarded order current price sizing) := by
  refine routine_bind hroutine (check_routine _) fun _ => only_ite (fun _ =>
    Only.mono hroutine (.bind (event_routine _) fun _ => .bind (update_routine _) fun _ =>
      event_routine _)) fun _ => routine_bind hroutine (submitInventory_routine _ _ _)
        fun sizing => ?_
  cases sizing with
  | none => trivial
  | some sizing =>
    refine routine_bind hroutine (statement_routine _) fun _ =>
      routine_bind hroutine (bookRecheck_routine _ _ _ _) fun rechecked => ?_
    cases rechecked with
    | none => trivial
    | some rechecked =>
      exact submitRechecked_places hroutine hplace _ (clampBuyLimitPrice_within _ _) _ _

theorem submitSized_places (current price : ℚ) (sizing : SubmitSizing) :
    Only P (submitSized order current price sizing) :=
  routine_bind hroutine (only_when (only_discard (check_routine _))) fun _ =>
    routine_bind hroutine (submitGuards_routine _ _) fun _ =>
      only_ite (fun _ => trivial) fun _ => submitGuarded_places hroutine hplace _ _ _

theorem submit_places (current : ℚ) (bestAsk : Option ℚ) (usdc : ℚ) :
    Only P (submitTradeBuilderTriggerOrder order current bestAsk usdc) := by
  refine routine_bind hroutine (desiredPrice_routine _ _ _) fun _ =>
    routine_bind hroutine (only_whenOr (only_orElse trivial)) fun _ =>
      routine_bind hroutine (only_whenOr (only_orElse trivial)) fun _ => only_ite (fun _ =>
        Only.mono hroutine (.bind (event_routine _) fun _ => exitSellRetry_routine _ _ _ _ _ _ _))
          fun _ => routine_bind hroutine (only_when reportPriceCap_routine) fun _ => ?_
  split
  · trivial
  · exact submitSized_places hroutine hplace _ _ _

theorem submitTriggered_places (price : RuntimePrice) : Only P (submitTriggered order price) := by
  refine Only.bind_returns ((latchStopLoss_routine _).mono hroutine) latchStopLoss_sameLimit
    fun order' hsame => ?_
  have hplace' : ∀ request, PriceWithin order' request.price → P (.place request) :=
    fun request h => hplace request (hsame.within h)
  exact routine_bind hroutine (statement_routine _) fun _ =>
    routine_bind hroutine (statement_routine _) fun _ =>
      only_ite (fun _ => submit_places hroutine hplace' _ _ _) fun _ =>
        routine_bind hroutine (check_routine _) fun _ => only_ite (fun _ =>
          Only.mono hroutine (.bind (update_routine _) fun _ => event_routine _)) fun _ =>
            routine_bind hroutine (run_routine trivial) fun _ =>
              submit_places hroutine hplace' _ _ _

theorem confirmAndSubmit_places (price : RuntimePrice) : Only P (confirmAndSubmit order price) :=
  routine_bind hroutine (only_whenOr (only_orElse trivial)) fun _ => only_ite (fun _ =>
    Only.mono hroutine (only_when (.bind (update_routine _) fun _ => event_routine _))) fun _ =>
      only_ite (fun _ => routine_bind hroutine (update_routine _) fun _ =>
        routine_bind hroutine (event_routine _) fun _ =>
          have hsame : ∀ request, PriceWithin { order with lastError := none } request.price →
              P (.place request) := hplace
          submitTriggered_places hroutine hsame _)
            fun _ => submitTriggered_places hroutine hplace _

theorem evaluateAndSubmit_places (price : RuntimePrice) :
    Only P (evaluateAndSubmit order price) :=
  routine_bind hroutine (only_whenOr (only_orElse trivial)) fun _ => only_ite (fun _ =>
    Only.mono hroutine (.bind (event_routine _) fun _ => update_routine _)) fun _ =>
      routine_bind hroutine (silent_routine (evaluateTrigger_silent _ _)) fun _ => only_ite
        (fun _ => routine_bind hroutine (only_when (event_routine _)) fun _ =>
          routine_bind hroutine (update_routine _) fun _ =>
            confirmAndSubmit_places hroutine hplace _) fun _ =>
              (releaseUntriggered_routine _ _).mono hroutine

theorem placeReplacement_places (price : ℚ) (hprice : PriceWithin order price) (size : ℚ)
    (usdc qty : Option ℚ) (isPartial : Bool) :
    Only P (placeReplacement order price size usdc qty isPartial) := by
  refine .bind (only_tryRun (hplace _ hprice)) fun placed => ?_
  cases placed with
  | error e => exact (placeError_routine _ _ _ _ _).mono hroutine
  | ok ack =>
    exact Only.mono hroutine (.bind (run_routine trivial) fun _ =>
      .bind (update_routine _) fun _ => .bind (only_when (event_routine _)) fun _ =>
        .bind (event_routine _) fun _ => only_when (finalizeReplacement_routine _ _))

theorem replaceCanceled_places (price : ℚ) (hprice : PriceWithin order price) (size : ℚ)
    (requested usdc qty : Option ℚ) (isPartial : Bool) (stage : Option ExitSubmitStage) :
    Only P (replaceCanceled order price size requested usdc qty isPartial stage) :=
  routine_bind hroutine (statement_routine _) fun _ => only_ite (fun _ =>
    suppressReprice_routine.mono hroutine) fun _ =>
      routine_bind hroutine (belowMarketMin_routine _ _ _ _ _) fun _ =>
        only_ite (fun _ => trivial) fun _ =>
          routine_bind hroutine (only_when (event_routine _)) fun _ =>
            placeReplacement_places hroutine hplace _ hprice _ _ _ _

theorem cancelAndReplace_places (id : ℕ) (info : OrderInfo) (price : ℚ)
    (hprice : PriceWithin order price) (size : ℚ) (requested usdc qty : Option ℚ)
    (isPartial : Bool) (stage : Option ExitSubmitStage) :
    Only P (cancelAndReplace order id info price size requested usdc qty isPartial stage) := by
  refine routine_bind hroutine (only_tryRun trivial) fun canceled => ?_
  cases canceled with
  | error e =>
    exact only_ite (fun _ => (finalizeTerminalMatch_routine _ _ _ _ _).mono hroutine)
      fun _ => trivial
  | ok _ =>
    refine only_ite (fun _ => routine_bind hroutine (postCancelBuyFill_routine _ _ _)
      fun outcome => ?_) fun _ => replaceCanceled_places hroutine hplace _ hprice _ _ _ _ _ _
    cases outcome with
    | finalized => trivial
    | noFill => exact replaceCanceled_places hroutine hplace _ hprice _ _ _ _ _ _

theorem repriceOpenOrder_places (id : ℕ) (info : OrderInfo) (current : ℚ) (bestAsk : Option ℚ)
    (desired : ℚ) (remaining : Option ℚ × Option ℚ) :
    Only P (repriceOpenOrder order id info current bestAsk desired remaining) := by
  refine only_ite (fun _ => (update_routine _).mono hroutine) fun _ =>
    only_ite (fun _ => (cancelAtGuard_routine _ _ _ _ _ _).mono hroutine) fun _ =>
      only_ite (fun _ => (cancelAtGuard_routine _ _ _ _ _ _).mono hroutine) fun hmax =>
        only_ite (fun _ => ?_) fun _ => cancelAndReplace_places hroutine hplace _ _ _
          (within_of_not_exceeds hmax) _ _ _ _ _ _
  refine routine_bind hroutine (shareInventory_routine _ _ _ _) fun submit => ?_
  cases submit with
  | none => trivial
  | some submit =>
    exact cancelAndReplace_places hroutine hplace _ _ _ (within_of_not_exceeds hmax) _ _ _ _ _ _

theorem reconcileOpen_places (id : ℕ) (info : OrderInfo) (current : ℚ) (bestAsk : Option ℚ) :
    Only P (reconcileOpen order id info current bestAsk) :=
  routine_bind hroutine (only_when syncWithParent_routine) fun _ =>
    routine_bind hroutine (desiredPrice_routine _ _ _) fun _ =>
      routine_bind hroutine (only_when reportPriceCap_routine) fun _ =>
        routine_bind hroutine (statement_routine _) fun _ =>
          only_ite (fun _ => repriceOpenOrder_places hroutine hplace _ _ _ _ _ _) fun _ =>
            (update_routine _).mono hroutine

theorem reconcile_places (id : ℕ) (current : ℚ) (bestAsk : Option ℚ) :
    Only P (reconcileTradeBuilderOpenOrder order id current bestAsk) := by
  refine only_ite (fun _ => (cancelRequested_routine _).mono hroutine) fun _ =>
    routine_bind hroutine (run_routine trivial) fun info =>
      routine_bind hroutine (statement_routine _) fun _ => ?_
  cases info.status with
  | opened => exact reconcileOpen_places hroutine hplace _ _ _ _
  | partiallyFilled => exact reconcileOpen_places hroutine hplace _ _ _ _
  | filled => exact (reconcileFilled_routine _ _ _).mono hroutine
  | _ => exact (reconcileTerminal_routine _ _ _).mono hroutine

theorem processPriced_places (price : RuntimePrice) : Only P (processPriced order price) := by
  refine routine_bind hroutine (statement_routine _) fun _ =>
    Only.bind_returns ((preemptTakeProfit_routine _).mono hroutine) preemptTakeProfit_sameLimit
      fun preempted hsame => ?_
  obtain ⟨order', preempted⟩ := preempted
  have hplace' : ∀ request, PriceWithin order' request.price → P (.place request) :=
    fun request h => hplace request (hsame.within h)
  refine only_ite (fun _ => (update_routine _).mono hroutine) fun _ => ?_
  cases ha : order'.activeExchangeOrderId with
  | some id =>
    exact .bind (reconcile_places hroutine hplace' _ _ _) fun _ =>
      (update_routine _).mono hroutine
  | none =>
    exact only_ite (fun _ => Only.mono hroutine (.bind (update_routine _) fun _ =>
      event_routine _)) fun _ => evaluateAndSubmit_places hroutine hplace' _

end Places

section NoRead
variable (order : TradeBuilderOrder)

theorem processPriced_noRead (price : RuntimePrice) : Only NoRead (processPriced order price) :=
  processPriced_places (fun _ => Routine.noRead) (fun _ _ => by simp [NoRead]) price

theorem processLive_noRead (now : ℤ) : Only NoRead (processLive order now) := by
  have hroutine : ∀ c, Routine c → NoRead c := fun _ => Routine.noRead
  refine routine_bind hroutine (eligibilityWindow_routine _ _) fun _ => only_ite (fun _ => trivial)
    fun _ => routine_bind hroutine (staleOrder_routine _) fun _ => only_ite (fun _ => trivial)
      fun _ => routine_bind hroutine (pairLockRuntime_routine _) fun stage => ?_
  cases stage with
  | ends => trivial
  | goes order =>
    refine routine_bind hroutine (run_routine trivial) fun price => ?_
    cases price with
    | none => exact routine_noRead (event_routine _)
    | some price => exact processPriced_noRead _ _

theorem processOrder_noRead (now : ℤ) : Only NoRead (processOrder order now) :=
  only_ite (fun _ => trivial) fun _ => only_ite (fun _ => routine_noRead
    (.bind (update_routine _) fun _ => .bind (event_routine _) fun _ =>
      only_ignore (statement_routine _))) fun _ => only_ite (fun _ => routine_noRead
        (expireByTtl_routine _)) fun _ => processLive_noRead _ _

theorem handleProcessingError_routine (e : ErrorText) :
    Only Routine (handleProcessingError e) := by
  refine .bind (only_tryRun trivial) fun latest => ?_
  cases latest with
  | error e' =>
    exact .bind (only_ignore (update_routine _)) fun _ => only_ignore (event_routine _)
  | ok row =>
    exact only_ite (fun _ => .bind (only_ignore (update_routine _)) fun _ =>
      only_ignore (event_routine _)) fun _ => .bind (only_ignore (update_routine _)) fun _ =>
        only_ignore (event_routine _)

end NoRead

end PolymarketBot.Builder
