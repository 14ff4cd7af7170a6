import PolymarketBot.Builder.Placements
import PolymarketBot.Builder.Siblings

/-! At most one exchange order of a builder order is live, and the row knows its id: which
passes keep that, call by call. -/

namespace PolymarketBot.Builder
open Lib Prog

/-- At most one exchange order is live, and a live one is the row's active exchange order. -/
def AtMostOneLiveTracked (w : World) : Prop :=
  (w.exchange.filter ExchangeOrder.isLive).length ≤ 1 ∧
    ∀ e ∈ w.exchange, e.isLive = true → w.order.activeExchangeOrderId = some e.id

instance (w : World) : Decidable (AtMostOneLiveTracked w) := by
  unfold AtMostOneLiveTracked
  infer_instance

def World.hasLive (w : World) : Prop := ∃ e ∈ w.exchange, e.isLive = true

/-- A live order whose id the row does not hold. -/
def World.untracked (w : World) : Prop :=
  ∃ e ∈ w.exchange, e.isLive = true ∧ w.order.activeExchangeOrderId ≠ some e.id

/-- At every price that makes it reprice, the open remainder still rounds to a size. -/
def OpenRemainder (order : TradeBuilderOrder) (info : OrderInfo) : Prop :=
  ∀ current desired, shouldReprice order (clampProbability desired) = true →
    0 < replaceSize order
      (estimateRemainingTradeBuilderSizing order info (clampProbability current))
      (clampProbability desired)

/-- A sibling that resizes the row while its order is live listed it with that order's id. -/
def ListedLive (w : World) : Interference → Prop
  | .outside _ | .sibling (.cancel ..) => True
  | .sibling (.resize listed _) => isListedByOthers w.order = true →
      ∀ e ∈ w.exchange, e.isLive = true → listed.activeExchangeOrderId = some e.id

/-- The condition on one call of a pass made at time `now`. -/
structure LiveOk (now : ℤ) (c : Call) (w : World) (r : AmongReply) : Prop where
  /-- No sibling's pass resizes the row from before the live order was stored on it. -/
  siblings : r.Disturbs ListedLive w
  /-- The exchange can be relied on. -/
  honest : Honest c (r.arrive w) r.reply
  /-- Between the acceptance of an order and the write of its id no call fails. -/
  stored : (r.arrive w).untracked → r.reply.fails = none
  /-- No pass reads a row whose time to live is over while its order is live. -/
  unexpired : c = .getOrder → (r.arrive w).hasLive → orderExpired (r.arrive w).order now = false
  /-- The inventory reported while an order is live covers at least 0.01 shares. -/
  inventory : c = .availableTokenQty → (r.arrive w).hasLive →
    ∀ q, r.reply.qty = some q → 1 / 100 ≤ q
  /-- What is open of a live order still rounds to a size, for the row the pass read. -/
  remainder : ∀ id e, c = .status id → (r.arrive w).exchangeOrder id = some e →
    e.isLive = true → OpenRemainder (r.arrive w).rowRead (e.info r.reply)

def LiveTurn (w : World) : AmongPass → Prop
  | .pass p replies => ∃ now, (p = housekeepingPass now ∨ p = directPass now) ∧
      Meets actAmong (LiveOk now) p replies w
  | .environment i => ListedLive w i

/-- The invariant the passes are proved with: ids are unique, and the live order is tracked. -/
structure LiveTracked (w : World) : Prop where
  ids : w.IdsOk
  tracked : ∀ e ∈ w.exchange, e.isLive = true → w.order.activeExchangeOrderId = some e.id

structure NothingLive (w : World) : Prop where
  ids : w.IdsOk
  dead : ∀ e ∈ w.exchange, e.isLive = false

theorem LiveTracked.atMostOne {w : World} (h : LiveTracked w) : AtMostOneLiveTracked w := by
  refine ⟨?_, h.tracked⟩
  have hnodup : w.exchange.Nodup := by
    have : (w.exchange.map ExchangeOrder.id).Nodup := by
      rw [h.ids]
      exact List.nodup_range
    exact List.Nodup.of_map _ this
  have hlive := hnodup.filter ExchangeOrder.isLive
  match hes : w.exchange.filter ExchangeOrder.isLive with
  | [] => simp
  | [e] => simp
  | e :: e' :: es =>
    have he : e ∈ w.exchange.filter ExchangeOrder.isLive := by simp [hes]
    have he' : e' ∈ w.exchange.filter ExchangeOrder.isLive := by simp [hes]
    rw [List.mem_filter] at he he'
    have hid : some e.id = some e'.id :=
      (h.tracked e he.1 he.2).symm.trans (h.tracked e' he'.1 he'.2)
    have heq : e = e' := h.ids.eq he.1 he'.1 (by simpa using hid)
    rw [hes] at hlive
    simp [heq] at hlive

theorem NothingLive.liveTracked {w : World} (h : NothingLive w) : LiveTracked w :=
  ⟨h.ids, fun e he hl => absurd (h.dead e he) (by simp [hl])⟩

theorem LiveTracked.nothingLive {w : World} (h : LiveTracked w)
    (ha : w.order.activeExchangeOrderId = none) : NothingLive w := by
  refine ⟨h.ids, fun e he => ?_⟩
  cases hl : e.isLive with
  | false => rfl
  | true => exact absurd (h.tracked e he hl) (by simp [ha])

theorem LiveTracked.evolves {w w' : World} (h : LiveTracked w) (he : w.Evolves w') :
    LiveTracked w' := by
  refine ⟨he.idsOk h.ids, fun e' he' hl => ?_⟩
  obtain ⟨e, hmem, hev⟩ := he.of_mem he'
  rw [he.activeExchangeOrderId, hev.id]
  exact h.tracked e hmem (hev.live hl)

theorem NothingLive.exchange {w w' : World} (h : NothingLive w)
    (he : List.Forall₂ ExchangeOrder.Evolves w.exchange w'.exchange) : NothingLive w' := by
  refine ⟨?_, fun e' he' => ?_⟩
  · rw [World.IdsOk, exchange_ids he, ← he.length_eq]
    exact h.ids
  · obtain ⟨e, hmem, hev⟩ := evolves_of_mem he he'
    cases hl : e'.isLive with
    | false => rfl
    | true => exact absurd (hev.live hl) (by simp [h.dead e hmem])

theorem NothingLive.after {w : World} (h : NothingLive w) {c : Call} (hc : Routine c) (r : Reply) :
    NothingLive (act c w r).2 :=
  h.exchange (act_routine hc w r)

theorem NothingLive.disturb {w : World} (h : NothingLive w) (r : AmongReply) :
    NothingLive (r.disturb w) :=
  h.exchange (r.disturb_exchange w)

theorem NothingLive.afterAmong {w : World} (h : NothingLive w) {c : Call} (hc : Routine c)
    (r : AmongReply) : NothingLive (actAmong c w r).2 :=
  (h.disturb r).after hc r.reply

theorem ListedLive.keeps {w : World} {i : Interference} (hi : ListedLive w i)
    {e : ExchangeOrder} (he : e ∈ w.exchange) (hl : e.isLive = true)
    (hid : w.order.activeExchangeOrderId = some e.id) :
    (i.step w).order.activeExchangeOrderId = some e.id := by
  cases i with
  | outside o => cases o <;> exact hid
  | sibling write =>
    simp only [Interference.step]
    split
    · rename_i hlisted
      rw [World.update_order, OrderUpdate.apply_activeExchangeOrderId]
      cases write with
      | cancel listed reason => exact hid
      | resize listed qty =>
        have hsome := hi hlisted e he hl
        simp [SiblingWrite.statement, hsome, OrderUpdate.activeId]
    · exact hid

theorem LiveTracked.interfere {w : World} {i : Interference} (h : LiveTracked w)
    (hi : ListedLive w i) : LiveTracked (i.step w) := by
  refine ⟨?_, fun e' he' hl => ?_⟩
  · rw [World.IdsOk, exchange_ids (i.step_exchange w), ← (i.step_exchange w).length_eq]
    exact h.ids
  · obtain ⟨e, hmem, hev⟩ := evolves_of_mem (i.step_exchange w) he'
    rw [hev.id]
    exact hi.keeps hmem (hev.live hl) (h.tracked e hmem (hev.live hl))

theorem LiveTracked.disturb {w : World} (h : LiveTracked w) {r : AmongReply}
    (hr : r.Disturbs ListedLive w) : LiveTracked (r.disturb w) :=
  hr.keeps (fun _ _ h hi => h.interfere hi) h

/-- The columns a reprice is sized from. -/
structure SameSizing (a b : TradeBuilderOrder) : Prop where
  sizeBasis : a.sizeBasis = b.sizeBasis
  sizeUsdc : a.sizeUsdc = b.sizeUsdc
  targetQty : a.targetQty = b.targetQty
  remainingSize : a.remainingSize = b.remainingSize
  remainingQty : a.remainingQty = b.remainingQty
  workingPrice : a.workingPrice = b.workingPrice
  distance : a.minPriceDistanceCent = b.minPriceDistanceCent

theorem SameSizing.refl (a : TradeBuilderOrder) : SameSizing a a :=
  ⟨rfl, rfl, rfl, rfl, rfl, rfl, rfl⟩

theorem SameSizing.trans {a b c : TradeBuilderOrder} (h : SameSizing a b) (h' : SameSizing b c) :
    SameSizing a c :=
  ⟨h.1.trans h'.1, h.2.trans h'.2, h.3.trans h'.3, h.4.trans h'.4, h.5.trans h'.5,
    h.6.trans h'.6, h.7.trans h'.7⟩

theorem SameSizing.openRemainder {a b : TradeBuilderOrder} (h : SameSizing a b)
    {info : OrderInfo} (ho : OpenRemainder a info) : OpenRemainder b info := by
  intro current desired hr
  have hsize := ho current desired (by simpa [shouldReprice, h.workingPrice, h.distance] using hr)
  simpa [replaceSize, estimateRemainingTradeBuilderSizing, tradeBuilderShareRequestQty,
    h.sizeBasis, h.sizeUsdc, h.targetQty, h.remainingSize, h.remainingQty, h.workingPrice]
    using hsize

/-- Calls that neither touch the exchange nor the active id of the row. -/
def KeepsActive : Call → Prop
  | .place _ => False
  | .cancel _ => False
  | .update u => u.activeId = none
  | _ => True

/-- Those of them that do not read the row either. -/
def Glance : Call → Prop
  | .getOrder => False
  | c => KeepsActive c

theorem Glance.keepsActive {c : Call} (hc : Glance c) : KeepsActive c := by
  cases c <;> first | exact hc | exact hc.elim

theorem KeepsActive.exchange {w : World} {c : Call} (hc : KeepsActive c) (r : Reply) :
    (act c w r).2.exchange = (r.arrive w).exchange :=
  act_exchange_eq (by rintro request rfl; exact hc) (by rintro id rfl; exact hc) w r

theorem LiveTracked.after {w : World} (h : LiveTracked w) {c : Call} (hc : KeepsActive c)
    (r : Reply) : LiveTracked (act c w r).2 := by
  have he := h.evolves (.arrive r w)
  refine ⟨?_, fun e hmem hl => ?_⟩
  · rw [World.IdsOk, hc.exchange]
    exact he.ids
  · rw [hc.exchange] at hmem
    obtain ho | ⟨u, rfl, -, ho⟩ := act_order c w r
    · rw [ho]
      exact he.tracked e hmem hl
    · have hu : u.activeId = none := hc
      rw [ho, World.update_order, OrderUpdate.apply_activeExchangeOrderId, hu]
      exact he.tracked e hmem hl

/-- A pass works with the row it read; what is live it read as the active exchange order. -/
structure Reads (order : TradeBuilderOrder) (w : World) : Prop where
  tracked : LiveTracked w
  sizing : SameSizing w.rowRead order
  mine : ∀ e ∈ w.exchange, e.isLive = true → order.activeExchangeOrderId = some e.id

theorem mine_evolves {id : Option ℕ} {w w' : World}
    (h : ∀ e ∈ w.exchange, e.isLive = true → id = some e.id)
    (he : List.Forall₂ ExchangeOrder.Evolves w.exchange w'.exchange) :
    ∀ e ∈ w'.exchange, e.isLive = true → id = some e.id := by
  intro e' he' hl
  obtain ⟨e, hmem, hev⟩ := evolves_of_mem he he'
  rw [hev.id]
  exact h e hmem (hev.live hl)

theorem Reads.arrive {order : TradeBuilderOrder} {w : World} (h : Reads order w) {r : AmongReply}
    (hr : r.Disturbs ListedLive w) : Reads order (r.arrive w) where
  tracked := (h.tracked.disturb hr).evolves (.arrive r.reply _)
  sizing := by
    rw [AmongReply.arrive, (World.Evolves.arrive r.reply _).rowRead, r.disturb_rowRead]
    exact h.sizing
  mine := mine_evolves h.mine
    (exchange_trans (r.disturb_exchange w) (World.Evolves.arrive r.reply _).exchange)

theorem Reads.after {order : TradeBuilderOrder} {w : World} (h : Reads order w) {c : Call}
    (hc : Glance c) {r : AmongReply} (hr : r.Disturbs ListedLive w) :
    Reads order (actAmong c w r).2 where
  tracked := (h.tracked.disturb hr).after hc.keepsActive r.reply
  sizing := by
    rw [actAmong, act_rowRead (by rintro rfl; exact hc), r.disturb_rowRead]
    exact h.sizing
  mine := by
    rw [actAmong, hc.keepsActive.exchange]
    exact (h.arrive hr).mine

/-- The order a placement was answered with is the only one that can be live. -/
structure Placed (ack : PlaceAck) (w : World) : Prop where
  ids : w.IdsOk
  only : ∀ e ∈ w.exchange, e.isLive = true → e.id = ack.exchangeOrderId
  filled : ack.status = .filled → NothingLive w

theorem Placed.after {ack : PlaceAck} {w : World} (h : Placed ack w) {c : Call} (hc : Routine c)
    (r : Reply) : Placed ack (act c w r).2 := by
  have hex := act_routine hc w r
  refine ⟨?_, fun e he hl => ?_, fun hs => (h.filled hs).after hc r⟩
  · rw [World.IdsOk, exchange_ids hex, ← hex.length_eq]
    exact h.ids
  · obtain ⟨e', hmem, hev⟩ := evolves_of_mem hex he
    rw [hev.id]
    exact h.only e' hmem (hev.live hl)

theorem Placed.exchange {ack : PlaceAck} {w w' : World} (h : Placed ack w)
    (hex : List.Forall₂ ExchangeOrder.Evolves w.exchange w'.exchange) : Placed ack w' := by
  refine ⟨?_, fun e he hl => ?_, fun hs => (h.filled hs).exchange hex⟩
  · rw [World.IdsOk, exchange_ids hex, ← hex.length_eq]
    exact h.ids
  · obtain ⟨e', hmem, hev⟩ := evolves_of_mem hex he
    rw [hev.id]
    exact h.only e' hmem (hev.live hl)

theorem Placed.arrive {ack : PlaceAck} {w : World} (h : Placed ack w) (r : AmongReply) :
    Placed ack (r.arrive w) :=
  h.exchange (exchange_trans (r.disturb_exchange w) (World.Evolves.arrive r.reply _).exchange)

theorem Placed.afterAmong {ack : PlaceAck} {w : World} (h : Placed ack w) {c : Call}
    (hc : Routine c) (r : AmongReply) : Placed ack (actAmong c w r).2 :=
  (h.exchange (r.disturb_exchange w)).after hc r.reply

section Passes
variable {now : ℤ} {α β : Type} {w : World} {order : TradeBuilderOrder}

/-- The postcondition of every pass. -/
def Tracks (_ : Except ErrorText α) (w : World) : Prop := LiveTracked w

theorem glance_bind {p : Job α} {f : α → Job β} (hp : Only Glance p) (hw : Reads order w)
    (hf : ∀ a w', Reads order w' → wp actAmong (LiveOk now) (f a) Tracks w') :
    wp actAmong (LiveOk now) (p >>= f) Tracks w :=
  wp_bind_of_only (fun _ _ _ hc h hok => h.after hc hok.siblings) hp hw hf
    fun _ _ h => h.tracked

theorem glance_end {p : Job α} (hp : Only Glance p) (hw : Reads order w) :
    wp actAmong (LiveOk now) p Tracks w :=
  wp_mono (wp_of_only (I := Reads order) (fun _ _ _ hc h hok => h.after hc hok.siblings) hp hw)
    fun _ _ h => h.tracked

theorem tracked_bind {p : Job α} {f : α → Job β} (hp : Only Glance p) (hw : LiveTracked w)
    (hf : ∀ a w', LiveTracked w' → wp actAmong (LiveOk now) (f a) Tracks w') :
    wp actAmong (LiveOk now) (p >>= f) Tracks w :=
  wp_bind_of_only (fun _ _ r hc h hok => (h.disturb hok.siblings).after hc.keepsActive r.reply) hp hw hf
    fun _ _ h => h

theorem tracked_end {p : Job α} (hp : Only Glance p) (hw : LiveTracked w) :
    wp actAmong (LiveOk now) p Tracks w :=
  wp_of_only (I := LiveTracked)
    (fun _ _ r hc h hok => (h.disturb hok.siblings).after hc.keepsActive r.reply) hp hw

theorem quiet_bind {p : Job α} {f : α → Job β} (hp : Only Routine p) (hw : NothingLive w)
    (hf : ∀ a w', NothingLive w' → wp actAmong (LiveOk now) (f a) Tracks w') :
    wp actAmong (LiveOk now) (p >>= f) Tracks w :=
  wp_bind_of_only (fun _ _ r hc h _ => h.afterAmong hc r) hp hw hf fun _ _ h => h.liveTracked

theorem quiet_end {p : Job α} (hp : Only Routine p) (hw : NothingLive w) :
    wp actAmong (LiveOk now) p Tracks w :=
  wp_mono (wp_of_only (I := NothingLive) (fun _ _ r hc h _ => h.afterAmong hc r) hp hw)
    fun _ _ h => h.liveTracked

theorem tracked_of_fails {ack : PlaceAck} {c : Call} {r : AmongReply} (hw : Placed ack w)
    (hok : LiveOk now c w r) (hf : r.reply.fails ≠ none) : LiveTracked (r.arrive w) := by
  refine ⟨(hw.arrive r).ids, fun e he hl => ?_⟩
  by_contra hne
  exact hf (hok.stored ⟨e, he, hl, hne⟩)

/-- Calls that this world always answers. -/
def Answered : Call → Prop
  | .appendEvent _ | .elsewhere _ | .upsertOrder _ _ | .update _ => True
  | _ => False

theorem placed_bind {ack : PlaceAck} {c : Call} {f : Answer c → Job β} (hc : Answered c)
    (hw : Placed ack w)
    (hf : ∀ a r, r.reply.fails = none →
      wp actAmong (LiveOk now) (f a) Tracks (actAmong c w r).2) :
    wp actAmong (LiveOk now) (Job.run c >>= f) Tracks w := by
  rw [wp_bind, Job.run, wp_perform]
  intro r hok
  cases hfail : r.reply.fails with
  | some failure =>
    have : actAmong c w r = (.error failure.toErrorText, r.arrive w) := by
      simp [actAmong, act, hfail, AmongReply.arrive]
    rw [this]
    exact tracked_of_fails hw hok (by simp [hfail])
  | none =>
    have hans : ∃ a, (actAmong c w r).1 = .ok a := by
      cases c <;> first | exact absurd hc id | exact ⟨(), by simp [actAmong, act, hfail, answer]⟩
    obtain ⟨a, ha⟩ := hans
    rw [ha]
    exact hf a r hfail

theorem placed_call {ack : PlaceAck} {c : Call} {f : Answer c → Job β} (hc : Answered c)
    (hn : Routine c) (hw : Placed ack w)
    (hf : ∀ a w', Placed ack w' → wp actAmong (LiveOk now) (f a) Tracks w') :
    wp actAmong (LiveOk now) (Job.run c >>= f) Tracks w :=
  placed_bind hc hw fun a r _ => hf a _ (hw.afterAmong hn r)

theorem placed_store {ack : PlaceAck} {u : OrderUpdate} {f : Unit → Job β}
    (hu : u.activeId = some (some ack.exchangeOrderId)) (hw : Placed ack w)
    (hf : ∀ a w', LiveTracked w' → wp actAmong (LiveOk now) (f a) Tracks w') :
    wp actAmong (LiveOk now) (Job.update u >>= f) Tracks w := by
  refine placed_bind (c := .update u) trivial hw fun a r hr => hf a _ ?_
  have hstored := hw.arrive r
  simp only [actAmong, act, hr, answer]
  refine ⟨hstored.ids, fun e he hl => ?_⟩
  rw [World.update_order, OrderUpdate.apply_activeExchangeOrderId, hu]
  simp [hstored.only e he hl]

theorem persistDynamic_glance (size price : ℚ) :
    Only Glance (maybePersistTradeBuilderSubmittedDynamic order size price) := by
  refine only_ite (fun _ => ?_) fun _ => trivial
  split
  · trivial
  · exact .bind (only_tryRun rfl) fun x => by cases x <;> trivial

theorem afterPlaced_tracks {ack : PlaceAck} (price : ℚ) (sizing : SubmitSizing)
    (hw : Placed ack w) : wp actAmong (LiveOk now) (afterPlaced order ack price sizing) Tracks w := by
  by_cases hfilled : ack.status = .filled
  · exact quiet_end (afterPlaced_routine _ _ _ _) (hw.filled hfilled)
  unfold afterPlaced
  refine placed_call trivial trivial hw fun _ w hw => ?_
  refine placed_call trivial trivial hw fun _ w hw => ?_
  refine placed_call trivial trivial hw fun _ w hw => ?_
  refine placed_store rfl hw fun _ w hw => ?_
  refine tracked_bind (persistDynamic_glance _ _) hw fun order w hw => ?_
  refine tracked_bind (only_when (only_run trivial)) hw fun _ w hw => ?_
  refine tracked_bind (only_run trivial) hw fun _ w hw => ?_
  refine tracked_bind (only_run trivial) hw fun _ w hw => ?_
  simp only [Job.when, hfilled, if_false]
  exact hw

/-- The world a placement leaves. -/
def World.withPlaced (w : World) (request : PlaceOrderRequest) (r : Reply) : World :=
  { w with exchange := w.exchange ++ [placedOrder w request r] }

theorem NothingLive.place_ended {request : PlaceOrderRequest} {r : Reply} (hw : NothingLive w)
    (hr : Honest (.place request) w r)
    (ho : (placedOrder w request r).reportedStatus r ≠ .opened)
    (hp : (placedOrder w request r).reportedStatus r ≠ .partiallyFilled) :
    NothingLive (w.withPlaced request r) := by
  refine ⟨hw.ids.place rfl, fun e he => ?_⟩
  obtain he | he := List.mem_append.mp he
  · exact hw.dead e he
  · rw [List.mem_singleton.mp he]
    cases hl : (placedOrder w request r).isLive with
    | false => rfl
    | true => exact ((hr.placed request rfl).mpr hl).elim (absurd · ho) (absurd · hp)

theorem NothingLive.place {request : PlaceOrderRequest} {r : Reply} (hw : NothingLive w)
    (hr : Honest (.place request) w r) :
    Placed ⟨w.exchange.length, (placedOrder w request r).reportedStatus r⟩
      (w.withPlaced request r) := by
  refine ⟨hw.ids.place rfl, fun e he hl => ?_, fun hs => ?_⟩
  · obtain he | he := List.mem_append.mp he
    · exact absurd (hw.dead e he) (by simp [hl])
    · rw [List.mem_singleton.mp he]
      rfl
  · simp only at hs
    exact hw.place_ended hr (by simp [hs]) (by simp [hs])

theorem place_tracks (request : PlaceOrderRequest) (hw : NothingLive w)
    {Q : Except ErrorText (Except ErrorText PlaceAck) → World → Prop}
    (hok : ∀ ack w', Placed ack w' → Q (.ok (.ok ack)) w')
    (herr : ∀ e w', NothingLive w' → Q (.ok (.error e)) w') :
    wp actAmong (LiveOk now) (Job.tryRun (.place request)) Q w := by
  rw [Job.tryRun, wp_attempt, wp_perform]
  intro r hr
  have hw := (hw.disturb r).exchange (World.Evolves.arrive r.reply _).exchange
  cases hf : r.reply.fails with
  | some f =>
    simp only [actAmong, act, hf]
    exact herr _ _ hw
  | none =>
    have hid : r.reply.clientOrderId = none := hr.honest.id request rfl
    simp only [actAmong, act, hf, answer, hid, Option.getD_none]
    exact hok _ _ (hw.place hr.honest)

theorem fastStopLossRetry_tracks (size : ℚ) (attempts : ℕ) (e : ErrorText) {w : World}
    (hw : NothingLive w) :
    wp actAmong (LiveOk now) (fastStopLossRetry size attempts e)
      (fun x w' => match x with
        | .ok (.ok (ack, _)) => Placed ack w'
        | .ok (.error _) => NothingLive w'
        | .error _ => LiveTracked w') w := by
  induction attempts generalizing e w with
  | zero => exact hw
  | succ attempts ih =>
    refine wp_bind_of_only (P := Routine) (I := NothingLive) (fun _ _ r hc h _ => h.afterAmong hc r)
      (only_tryRun trivial) hw (fun x w hw => ?_) fun _ _ h => h.liveTracked
    cases x with
    | error e' => exact hw
    | ok price =>
      refine (wp_bind _ _ _ _).mpr (place_tracks _ hw (fun ack w hw => hw) fun e w hw => ?_)
      exact wp_ite (fun _ => ih e hw) fun _ => hw

theorem placeSubmit_tracks (price : ℚ) (sizing : SubmitSizing) (hw : NothingLive w) :
    wp actAmong (LiveOk now) (placeSubmit order price sizing) Tracks w := by
  refine (wp_bind _ _ _ _).mpr (place_tracks _ hw
    (fun ack w hw => afterPlaced_tracks _ _ hw) fun e w hw => ?_)
  refine quiet_bind (only_whenOr (only_orElse trivial)) hw fun fakOrIoc w hw => ?_
  have hretry : wp actAmong (LiveOk now)
      (Job.whenOr (fakOrIoc = true) (.error e)
        (fastStopLossRetry sizing.size tradeBuilderFastSlRetryMaxAttempts e))
      (fun x w' => match x with
        | .ok (.ok (ack, _)) => Placed ack w'
        | .ok (.error _) => NothingLive w'
        | .error _ => LiveTracked w') w :=
    wp_ite (fun _ => fastStopLossRetry_tracks _ _ _ hw) fun _ => hw
  refine wp_bind_of hretry (fun outcome w hw => ?_) fun _ _ h => h
  cases outcome with
  | ok placed =>
    refine placed_call trivial trivial hw fun _ w hw => ?_
    refine placed_call trivial trivial hw fun _ w hw => ?_
    exact afterPlaced_tracks _ _ hw
  | error e =>
    exact quiet_bind (event_routine _) hw fun _ w hw => quiet_end (placeError_routine _ _ _ _ _) hw

theorem evaluateAndSubmit_tracks (price : RuntimePrice) (hw : NothingLive w) :
    wp actAmong (LiveOk now) (evaluateAndSubmit order price) Tracks w := by
  have hsubmits : SubmitsWithin actAmong (LiveOk now) NothingLive Tracks :=
    { routine _ _ r hc h _ := h.afterAmong hc r
      ends _ _ h := h.liveTracked
      submit _ _ _ _ h := placeSubmit_tracks _ _ h }
  exact hsubmits.evaluateAndSubmit price hw

/-- The only exchange order that can be live has this id. -/
structure Holds (id : ℕ) (w : World) : Prop where
  tracked : LiveTracked w
  only : ∀ e ∈ w.exchange, e.isLive = true → some id = some e.id

/-- Calls that leave the exchange alone and this id on the row. -/
def KeepsId (id : ℕ) : Call → Prop
  | .getOrder => False
  | .place _ => False
  | .cancel _ => False
  | .update u => u.activeId = none ∨ u.activeId = some (some id)
  | _ => True

theorem Holds.disturb {id : ℕ} (h : Holds id w) {r : AmongReply}
    (hr : r.Disturbs ListedLive w) : Holds id (r.disturb w) :=
  ⟨h.tracked.disturb hr, mine_evolves h.only (r.disturb_exchange w)⟩

theorem Holds.evolves {id : ℕ} {w w' : World} (h : Holds id w) (he : w.Evolves w') :
    Holds id w' :=
  ⟨h.tracked.evolves he, mine_evolves h.only he.exchange⟩

theorem Holds.arrive {id : ℕ} (h : Holds id w) {r : AmongReply}
    (hr : r.Disturbs ListedLive w) : Holds id (r.arrive w) :=
  (h.disturb hr).evolves (.arrive r.reply _)

theorem Holds.after {id : ℕ} (h : Holds id w) {c : Call} (hc : KeepsId id c) (r : Reply) :
    Holds id (act c w r).2 := by
  have he := h.evolves (.arrive r w)
  have hex : (act c w r).2.exchange = (r.arrive w).exchange := act_exchange_eq
    (by rintro request rfl; exact hc) (by rintro id rfl; exact hc) w r
  obtain ho | ⟨u, rfl, -, ho⟩ := act_order c w r
  · refine ⟨⟨?_, ?_⟩, ?_⟩
    · rw [World.IdsOk, hex]
      exact he.tracked.ids
    · rw [hex, ho]
      exact he.tracked.tracked
    · rw [hex]
      exact he.only
  · rw [ho]
    refine ⟨⟨he.tracked.ids, fun e hmem hl => ?_⟩, he.only⟩
    rw [World.update_order, OrderUpdate.apply_activeExchangeOrderId]
    obtain hu | hu := hc
    · rw [hu]
      exact he.tracked.tracked e hmem hl
    · rw [hu]
      exact he.only e hmem hl

theorem Holds.afterAmong {id : ℕ} (h : Holds id w) {c : Call} (hc : KeepsId id c)
    {r : AmongReply} (hr : r.Disturbs ListedLive w) :
    Holds id (actAmong c w r).2 :=
  (h.disturb hr).after hc r.reply

theorem NothingLive.holds (h : NothingLive w) (id : ℕ) : Holds id w :=
  ⟨h.liveTracked, fun e he hl => absurd (h.dead e he) (by simp [hl])⟩

theorem holds_bind {id : ℕ} {p : Job α} {f : α → Job β} (hp : Only (KeepsId id) p)
    (hw : Holds id w) (hf : ∀ a w', Holds id w' → wp actAmong (LiveOk now) (f a) Tracks w') :
    wp actAmong (LiveOk now) (p >>= f) Tracks w :=
  wp_bind_of_only (fun _ _ _ hc h hok => h.afterAmong hc hok.siblings) hp hw hf
    fun _ _ h => h.tracked

theorem holds_end {id : ℕ} {p : Job α} (hp : Only (KeepsId id) p) (hw : Holds id w) :
    wp actAmong (LiveOk now) p Tracks w :=
  wp_mono (wp_of_only (I := Holds id) (fun _ _ _ hc h hok => h.afterAmong hc hok.siblings) hp hw)
    fun _ _ h => h.tracked

theorem Holds.nothingLive {id : ℕ} (h : Holds id w) {e : ExchangeOrder} (he : e ∈ w.exchange)
    (hid : e.id = id) (hl : e.isLive = false) : NothingLive w := by
  refine ⟨h.tracked.ids, fun e' he' => ?_⟩
  cases hl' : e'.isLive with
  | false => rfl
  | true =>
    have hsame : id = e'.id := Option.some.inj (h.only e' he' hl')
    have heq : e' = e := h.tracked.ids.eq he' he (hsame.symm.trans hid.symm)
    rw [heq, hl] at hl'
    exact hl'.symm

theorem Holds.canceled {id : ℕ} (h : Holds id w) :
    NothingLive (w.updateExchange id (·.finish .canceled)) := by
  have hev := World.Evolves.updateExchange w id
    fun e => ExchangeOrder.Evolves.finish e .canceled
  refine ⟨hev.idsOk h.tracked.ids, fun e' he' => ?_⟩
  obtain ⟨e₀, he₀, rfl⟩ := List.mem_map.mp he'
  cases hl : e₀.isLive with
  | false => split <;> simp [ExchangeOrder.finish, hl]
  | true =>
    have hid₀ : e₀.id = id := (Option.some.inj (h.only e₀ he₀ hl)).symm
    simp only [hid₀, if_true, ExchangeOrder.finish, hl]
    rfl

theorem cancel_tracks {id : ℕ} (hw : Holds id w)
    {Q : Except ErrorText (Except ErrorText Unit) → World → Prop}
    (hok : ∀ w', NothingLive w' → Q (.ok (.ok ())) w')
    (herr : ∀ e w', LiveTracked w' → (e.kind = .terminalMatch → NothingLive w') →
      Q (.ok (.error e)) w') : wp actAmong (LiveOk now) (Job.tryRun (.cancel id)) Q w := by
  rw [Job.tryRun, wp_attempt, wp_perform]
  intro r hr
  have hw := hw.arrive hr.siblings
  have hstop := hr.honest.canceled id rfl
  cases hf : r.reply.fails with
  | some f =>
    simp only [actAmong, act, hf]
    exact herr _ _ hw.tracked (by cases f <;> simp [CallFailure.toErrorText])
  | none =>
    simp only [actAmong, act, hf]
    have hanswer := answer_cancel id (r.arrive w) r.reply
    change Q (.ok (answer (.cancel id) (r.arrive w) r.reply).1)
      (answer (.cancel id) (r.arrive w) r.reply).2
    generalize answer (.cancel id) (r.arrive w) r.reply = x at hanswer ⊢
    cases hanswer with
    | ignored h =>
      obtain ⟨e, hmem, hid, hl⟩ := hstop h id rfl
      exact hok _ (hw.nothingLive hmem hid hl)
    | canceled e he hm => exact hok _ hw.canceled
    | matched e he hm =>
      obtain ⟨hmem, hid⟩ := World.exchangeOrder_mem he
      exact herr _ _ hw.tracked fun _ =>
        hw.nothingLive hmem hid (by simp [ExchangeOrder.isLive, hm])
    | unknown he => exact herr _ _ hw.tracked (by simp [errorOther])

theorem status_tracks {id : ℕ} (hw : Reads order w) (hid : order.activeExchangeOrderId = some id)
    {Q : Except ErrorText OrderInfo → World → Prop}
    (hopen : ∀ info w', Holds id w' → OpenRemainder order info →
      (info.status = .opened ∨ info.status = .partiallyFilled) → Q (.ok info) w')
    (hdead : ∀ info w', NothingLive w' → info.status ≠ .opened →
      info.status ≠ .partiallyFilled → Q (.ok info) w')
    (herr : ∀ e w', LiveTracked w' → Q (.error e) w') :
    wp actAmong (LiveOk now) (Job.run (.status id)) Q w := by
  rw [Job.run, wp_perform]
  intro r hok
  have hw := hw.arrive hok.siblings
  cases hf : r.reply.fails with
  | some f =>
    simp only [actAmong, act, hf]
    exact herr _ _ hw.tracked
  | none =>
    simp only [actAmong, act, hf, answer]
    cases he : (r.reply.arrive (r.disturb w)).exchangeOrder id with
    | none => exact herr _ _ hw.tracked
    | some e =>
      obtain ⟨hmem, heid⟩ := World.exchangeOrder_mem he
      have hholds : Holds id (r.arrive w) :=
        ⟨hw.tracked, fun e he hl => hid.symm.trans (hw.mine e he hl)⟩
      have hreport := hok.honest.reported id e rfl he
      cases hl : e.isLive with
      | false =>
        have hn := hholds.nothingLive hmem heid hl
        have hopened : (e.info r.reply).status ≠ .opened := fun h =>
          absurd (hreport.mp (.inl h)) (by simp [hl])
        have hpartial : (e.info r.reply).status ≠ .partiallyFilled := fun h =>
          absurd (hreport.mp (.inr h)) (by simp [hl])
        exact hdead _ _ ⟨hn.ids, hn.dead⟩ hopened hpartial
      | true =>
        exact hopen _ _ ⟨⟨hw.tracked.ids, hw.tracked.tracked⟩, hholds.only⟩
          (hw.sizing.openRemainder (hok.remainder id e rfl he hl)) (hreport.mpr hl)

theorem placeReplacement_tracks (price size : ℚ) (usdc qty : Option ℚ) (isPartial : Bool)
    (hw : NothingLive w) :
    wp actAmong (LiveOk now) (placeReplacement order price size usdc qty isPartial) Tracks w := by
  refine (wp_bind _ _ _ _).mpr (place_tracks _ hw (fun ack w hw => ?_)
    fun e w hw => quiet_end (placeError_routine _ _ _ _ _) hw)
  by_cases hfilled : ack.status = .filled
  · refine quiet_bind (run_routine trivial) (hw.filled hfilled) fun _ w hw => ?_
    refine quiet_bind (update_routine _) hw fun _ w hw => ?_
    refine quiet_bind (only_when (event_routine _)) hw fun _ w hw => ?_
    refine quiet_bind (event_routine _) hw fun _ w hw => ?_
    exact quiet_end (only_when (finalizeReplacement_routine _ _)) hw
  · refine placed_call trivial trivial hw fun _ w hw => ?_
    refine placed_store rfl hw fun _ w hw => ?_
    refine tracked_bind (only_when (only_run trivial)) hw fun _ w hw => ?_
    refine tracked_bind (only_run trivial) hw fun _ w hw => ?_
    simp only [Job.when, hfilled, if_false]
    exact hw

theorem replaceCanceled_tracks (price size : ℚ) (requested usdc qty : Option ℚ)
    (isPartial : Bool) (stage : Option ExitSubmitStage) (hw : NothingLive w) :
    wp actAmong (LiveOk now) (replaceCanceled order price size requested usdc qty isPartial stage)
      Tracks w := by
  refine quiet_bind (statement_routine _) hw fun _ w hw =>
    wp_ite (fun _ => quiet_end suppressReprice_routine hw) fun _ => ?_
  refine quiet_bind (belowMarketMin_routine _ _ _ _ _) hw fun handled w hw =>
    wp_ite (fun _ => hw.liveTracked) fun _ => ?_
  exact quiet_bind (only_when (event_routine _)) hw fun _ w hw =>
    placeReplacement_tracks _ _ _ _ _ hw

theorem cancelAndReplace_tracks {id : ℕ} (info : OrderInfo) (price size : ℚ)
    (requested usdc qty : Option ℚ) (isPartial : Bool) (stage : Option ExitSubmitStage)
    (hw : Holds id w) :
    wp actAmong (LiveOk now)
      (cancelAndReplace order id info price size requested usdc qty isPartial stage) Tracks w := by
  refine (wp_bind _ _ _ _).mpr (cancel_tracks hw (fun w hw => wp_ite (fun _ => ?_) fun _ => ?_)
    fun e w hw hmatch => wp_ite (fun hk => ?_) fun _ => hw)
  · refine quiet_bind (postCancelBuyFill_routine _ _ _) hw fun outcome w hw => ?_
    cases outcome with
    | finalized => exact hw.liveTracked
    | noFill => exact replaceCanceled_tracks _ _ _ _ _ _ _ hw
  · exact replaceCanceled_tracks _ _ _ _ _ _ _ hw
  · exact quiet_end (finalizeTerminalMatch_routine _ _ _ _ _) (hmatch hk)

theorem cancelOpenOrderAtGuard_tracks {id : ℕ} (guard : GuardCancel) (info : OrderInfo)
    (size qty : Option ℚ) (hw : Holds id w) :
    wp actAmong (LiveOk now) (cancelOpenOrderAtGuard guard order id info size qty) Tracks w := by
  refine (wp_bind _ _ _ _).mpr (cancel_tracks hw (fun w hw => ?_)
    fun e w hw hmatch => wp_ite (fun hk => ?_) fun _ => hw)
  · refine quiet_bind (statement_routine _) hw fun _ w hw => ?_
    refine quiet_bind (event_routine _) hw fun _ w hw => ?_
    split
    · exact quiet_end (.bind (silent_routine (requireEntryQty_silent _)) fun _ =>
        finalize_routine _ _ _ _ _) hw
    · exact quiet_end (guardWithoutFill_routine _ _ _ _) hw
  · exact quiet_end (finalizeTerminalMatch_routine _ _ _ _ _) (hmatch hk)

theorem silent_keepsId (id : ℕ) {p : Job α} (h : Only Silent p) : Only (KeepsId id) p :=
  h.mono fun c hc => by cases c <;> trivial

theorem clamp_isSome {size : ℚ} {available : Option ℚ} (hs : 1 / 100 ≤ size)
    (ha : ∀ q, available = some q → 1 / 100 ≤ q) :
    ∃ q, clampTradeBuilderVisibleShareQty size available = some q := by
  have hpos : ∀ x : ℚ, 1 / 100 ≤ x → 0 < floorTradeBuilderShareQty x := by
    intro x hx
    have h1 : (1 : ℤ) ≤ ⌊max x 0 * 100⌋ := Int.le_floor.mpr (by
      push_cast
      have := le_max_left x 0
      linarith)
    have h2 : (1 : ℚ) ≤ (⌊max x 0 * 100⌋ : ℚ) := by exact_mod_cast h1
    unfold floorTradeBuilderShareQty
    linarith
  unfold clampTradeBuilderVisibleShareQty
  cases available with
  | none => exact ⟨_, if_pos (hpos size hs)⟩
  | some q => exact ⟨_, if_pos (hpos _ (le_min hs (ha q rfl)))⟩

theorem available_tracks {id : ℕ} (hw : Holds id w)
    {Q : Except ErrorText (Option ℚ) → World → Prop}
    (hlive : ∀ a w', Holds id w' → (∀ q, a = some q → 1 / 100 ≤ q) → Q (.ok a) w')
    (hdead : ∀ a w', NothingLive w' → Holds id w' → Q (.ok a) w') :
    wp actAmong (LiveOk now) (Job.orElse .availableTokenQty none) Q w := by
  rw [Job.orElse, wp_bind, Job.tryRun, wp_attempt, wp_perform]
  intro r hok
  have hafter := hw.arrive hok.siblings
  cases hf : r.reply.fails with
  | some f =>
    simp only [actAmong, act, hf]
    exact hlive _ _ hafter (by simp)
  | none =>
    simp only [actAmong, act, hf, answer]
    by_cases hl : (r.arrive w).hasLive
    · exact hlive _ _ hafter (hok.inventory rfl hl)
    · refine hdead _ _ ⟨hafter.tracked.ids, fun e he => ?_⟩ hafter
      cases h : e.isLive with
      | false => rfl
      | true => exact absurd ⟨e, he, h⟩ hl

theorem KeepsId.routine {id : ℕ} {c : Call} (h : KeepsId id c) : Routine c := by
  cases c with
  | getOrder => exact h
  | place request => exact h
  | _ => trivial

/-- After the inventory step: the order is still the one held, or the pass ends here. -/
def InventoryDone (id : ℕ) (x : Except ErrorText (Option InventorySubmit)) (w : World) : Prop :=
  match x with
  | .ok (some _) => Holds id w
  | _ => LiveTracked w

theorem inventoryDone_bind {id : ℕ} {p : Job α} {f : α → Job (Option InventorySubmit)}
    (hp : Only (KeepsId id) p) (hw : Holds id w)
    (hf : ∀ a w', Holds id w' → wp actAmong (LiveOk now) (f a) (InventoryDone id) w') :
    wp actAmong (LiveOk now) (p >>= f) (InventoryDone id) w :=
  wp_bind_of_only (fun _ _ _ hc h hok => h.afterAmong hc hok.siblings) hp hw hf
    fun _ _ h => h.tracked

theorem inventoryDone_ends {id : ℕ} {p : Job Unit} (hp : Only Routine p) (hw : NothingLive w) :
    wp actAmong (LiveOk now) (p >>= fun _ => pure none) (InventoryDone id) w :=
  wp_bind_of_only (P := Routine) (I := NothingLive) (fun _ _ r hc h _ => h.afterAmong hc r) hp hw
    (fun _ _ h => h.liveTracked) fun _ _ h => h.liveTracked

theorem inventoryOrWait_tracks {id : ℕ} {size : ℚ} (hs : 1 / 100 ≤ size) (hw : Holds id w) :
    wp actAmong (LiveOk now) (resolveInventoryOrWait order size none) (InventoryDone id) w := by
  rw [resolveInventoryOrWait, availableQtyOr_none]
  refine (wp_bind _ _ _ _).mpr (available_tracks hw (fun available w hw hq => ?_)
    fun available w hn hw => ?_)
  · obtain ⟨q, hq⟩ := clamp_isSome hs hq
    refine inventoryDone_bind (only_whenOr (silent_keepsId id (estimatedVisible_silent _ _))) hw
      fun fallback w hw => ?_
    simp only [hq, Option.some_or]
    exact inventoryDone_bind (only_when (only_run trivial)) hw fun _ w hw =>
      inventoryDone_bind (only_when (only_run trivial)) hw fun _ w hw => hw
  · refine wp_bind_of_only (P := KeepsId id) (I := fun w => NothingLive w ∧ Holds id w)
      (fun _ _ r hc h hok => ⟨h.1.afterAmong hc.routine r, h.2.afterAmong hc hok.siblings⟩)
      (only_whenOr (silent_keepsId id (estimatedVisible_silent _ _))) ⟨hn, hw⟩ (fun fallback w hw => ?_)
      fun _ _ h => h.2.tracked
    cases hq : (clampTradeBuilderVisibleShareQty size available).or fallback with
    | none => exact inventoryDone_ends (inventoryPending_routine _ _) hw.1
    | some q =>
      exact inventoryDone_bind (only_when (only_run trivial)) hw.2 fun _ w hw =>
        inventoryDone_bind (only_when (only_run trivial)) hw fun _ w hw => hw

theorem inventoryOrRetry_tracks {id : ℕ} {size : ℚ} (price : ℚ) (hs : 1 / 100 ≤ size)
    (hw : Holds id w) :
    wp actAmong (LiveOk now) (resolveInventoryOrRetry order price size none) (InventoryDone id)
      w := by
  rw [resolveInventoryOrRetry, availableQtyOr_none]
  refine (wp_bind _ _ _ _).mpr (available_tracks hw (fun available w hw hq => ?_)
    fun available w hn hw => ?_)
  · obtain ⟨q, hq⟩ := clamp_isSome hs hq
    simp only [hq]
    exact hw
  · dsimp only
    cases hq : clampTradeBuilderVisibleShareQty size available with
    | none => exact inventoryDone_ends (exitSellRetry_routine _ _ _ _ _ _ _) hn
    | some q => exact hw

theorem shareInventory_tracks {id : ℕ} {size : ℚ} (price : ℚ) (hs : 1 / 100 ≤ size)
    (hw : Holds id w) :
    wp actAmong (LiveOk now) (resolveShareInventory order price size none) (InventoryDone id)
      w := by
  refine wp_ite (fun _ => inventoryOrWait_tracks hs hw) fun _ => ?_
  split
  · exact inventoryDone_bind (silent_keepsId id (estimatedVisible_silent _ _)) hw fun _ w hw =>
      inventoryDone_bind (only_when (only_run trivial)) hw fun _ w hw => hw
  · exact hw
  · exact inventoryOrRetry_tracks price hs hw

theorem roundShareQty_ge {x : ℚ} (h : 0 < roundTradeBuilderShareQty x) :
    1 / 100 ≤ roundTradeBuilderShareQty x := by
  unfold roundTradeBuilderShareQty at h ⊢
  have h1 : (0 : ℚ) < (⌊max x 0 * 100 + 1 / 2⌋ : ℤ) := by linarith
  have h2 : (1 : ℤ) ≤ ⌊max x 0 * 100 + 1 / 2⌋ := by exact_mod_cast h1
  have h3 : (1 : ℚ) ≤ (⌊max x 0 * 100 + 1 / 2⌋ : ℤ) := by exact_mod_cast h2
  linarith

theorem replaceSize_ge {info : OrderInfo} {current desired : ℚ} (hb : order.sizeBasis = .shares)
    (h : 0 < replaceSize order (estimateRemainingTradeBuilderSizing order info current) desired) :
    1 / 100 ≤
      replaceSize order (estimateRemainingTradeBuilderSizing order info current) desired := by
  simp only [replaceSize, hb, if_true, estimateRemainingTradeBuilderSizing] at h ⊢
  split at h
  · simp only [Option.getD_some] at h ⊢
    exact roundShareQty_ge h
  · simp only [tradeBuilderShareRequestQty] at h ⊢
    cases hq : order.remainingQty.or order.targetQty with
    | none => simp [hq] at h
    | some q =>
      simp only [hq, Option.map_some, Option.filter_some, decide_eq_true_eq] at h ⊢
      by_cases hr : 0 < roundTradeBuilderShareQty q
      · simp only [hr, if_true, Option.getD_some] at h ⊢
        exact roundShareQty_ge hr
      · simp [hr] at h

theorem repriceOpenOrder_tracks {id : ℕ} {info : OrderInfo} {current : ℚ}
    (runtime : ℚ) (bestAsk : Option ℚ) {desired : ℚ}
    (hs : 0 < replaceSize order (estimateRemainingTradeBuilderSizing order info current) desired)
    (hw : Holds id w) :
    wp actAmong (LiveOk now) (repriceOpenOrder order id info runtime bestAsk desired
      (estimateRemainingTradeBuilderSizing order info current)) Tracks w := by
  refine wp_ite (fun h => absurd hs (not_lt.mpr h)) fun _ =>
    wp_ite (fun _ => cancelOpenOrderAtGuard_tracks _ _ _ _ hw) fun _ =>
      wp_ite (fun _ => cancelOpenOrderAtGuard_tracks _ _ _ _ hw) fun _ =>
        wp_ite (fun hb => ?_) fun _ => cancelAndReplace_tracks _ _ _ _ _ _ _ _ hw
  refine wp_bind_of (shareInventory_tracks desired (replaceSize_ge hb.2 hs) hw)
    (fun submit w hw => ?_) fun _ _ h => h
  cases submit with
  | none => exact hw
  | some submit => exact cancelAndReplace_tracks _ _ _ _ _ _ _ _ hw

theorem buyPrice_clamped (hside : order.side = .buy) (current : ℚ) (bestAsk : Option ℚ) :
    ∃ p, (tradeBuilderMarketBuyExecutionPrice order (clampProbability current) bestAsk).getD
      (aggressivePriceForSide .buy (clampProbability current) order.minPriceDistanceCent) =
        clampProbability p := by
  simp only [tradeBuilderMarketBuyExecutionPrice, hside, aggressivePriceForSide]
  cases normalizeTradeBuilderReferencePrice bestAsk with
  | some ask => exact ⟨ask, rfl⟩
  | none =>
    by_cases hk : order.kind = .immediate ∧ order.sizeBasis = .notionalUsdc
    · exact ⟨clampProbability current, by simp [hk]⟩
    · exact ⟨clampProbability current +
        minPriceDistanceToProbability order.minPriceDistanceCent, by simp [hk]⟩

theorem desiredPrice_tracks {id : ℕ} (current : ℚ) (bestAsk : Option ℚ) (hw : Holds id w) :
    wp actAmong (LiveOk now) (desiredPriceOf order (clampProbability current) bestAsk)
      (fun x w' => match x with
        | .ok price => Holds id w' ∧ ∃ p, price = clampProbability p
        | .error _ => LiveTracked w') w := by
  unfold desiredPriceOf
  cases hside : order.side with
  | sell =>
    simp only []
    rw [Job.orElse, wp_bind, Job.tryRun, wp_attempt, wp_perform]
    intro r hok
    have hafter := hw.arrive hok.siblings
    cases hf : r.reply.fails with
    | some f =>
      simp only [actAmong, act, hf]
      exact ⟨hafter, current, rfl⟩
    | none =>
      simp only [actAmong, act, hf, answer]
      exact ⟨hafter, r.reply.price.price, rfl⟩
  | buy => exact ⟨hw, buyPrice_clamped hside current bestAsk⟩

theorem syncExitChild_keepsId {id : ℕ} {child : TradeBuilderOrder}
    (hc : child.activeExchangeOrderId = some id) (qty : ℚ) :
    Only (KeepsId id) (syncExitChild child qty) := by
  refine only_ite (fun _ => trivial) fun _ => only_ite (fun _ => ?_) fun _ =>
    only_ite (fun _ => ?_) fun _ => ?_
  · exact .bind (only_run (.inl rfl)) fun _ => only_run trivial
  · exact only_ite (fun _ => trivial) fun h => absurd (.inl (by simp [hc])) h
  · refine .bind (only_orElse trivial) fun target => ?_
    cases target with
    | absent => trivial
    | skipped => exact .bind (only_run (.inl rfl)) fun _ => only_run trivial
    | target qty =>
      refine only_ite (fun _ => .bind (only_run (.inr (by rw [hc]; rfl))) fun _ => only_run trivial)
        fun h => absurd (by simp [hc]) h

theorem holds_run {id : ℕ} {p : Job α} (hp : Only (KeepsId id) p) (hw : Holds id w) :
    wp actAmong (LiveOk now) p (fun _ => Holds id) w :=
  wp_of_only (fun _ _ _ hc h hok => h.afterAmong hc hok.siblings) hp hw

theorem syncExitChildren_tracks {id : ℕ} (hw : Holds id w) :
    wp actAmong (LiveOk now) tradeBuilderSyncParentExitChildren (fun _ => Holds id) w := by
  refine wp_bind_of (holds_run (only_run trivial) hw) (fun _ w hw => ?_) fun _ _ h => h
  have hrow : wp actAmong (LiveOk now) (Job.run .childRow) (fun x w' => Holds id w' ∧
      ∀ child, x = .ok child → NothingLive w' ∨ child.activeExchangeOrderId = some id) w := by
    rw [Job.run, wp_perform]
    intro r hok
    have hafter := hw.arrive hok.siblings
    cases hf : r.reply.fails with
    | some f =>
      simp only [actAmong, act, hf]
      exact ⟨hafter, fun child hchild => by cases hchild⟩
    | none =>
      simp only [actAmong, act, hf, answer]
      refine ⟨hafter, fun child hchild => ?_⟩
      obtain rfl := Except.ok.inj hchild
      by_cases hlive : (r.arrive w).hasLive
      · obtain ⟨e, he, hl⟩ := hlive
        exact .inr ((hafter.tracked.tracked e he hl).trans (hafter.only e he hl).symm)
      · refine .inl ⟨hafter.tracked.ids, fun e he => ?_⟩
        cases hl : e.isLive with
        | false => rfl
        | true => exact absurd ⟨e, he, hl⟩ hlive
  refine wp_bind_of hrow (fun child w hw => ?_) fun _ _ h => h.1
  obtain hn | hc := hw.2 child rfl
  · refine wp_mono (wp_of_only (P := Routine) (I := NothingLive)
      (fun _ _ r hc h _ => h.afterAmong hc r) ?_ hn) fun _ _ h => h.holds id
    exact .bind (silent_routine resolveParentInventory_silent) fun _ =>
      .bind (run_routine trivial) fun _ => .bind (plain_routine (syncExitChild_plain _ _)) fun _ =>
        run_routine trivial
  · exact holds_run (.bind (silent_keepsId id resolveParentInventory_silent) fun _ =>
      .bind (only_run trivial) fun _ => .bind (syncExitChild_keepsId hc _) fun _ =>
        only_run trivial) hw.1

theorem syncWithParent_tracks {id : ℕ} (hw : Holds id w) :
    wp actAmong (LiveOk now) syncWithParent (fun _ => Holds id) w := by
  refine wp_bind_of (holds_run (only_run trivial) hw) (fun parent w hw => ?_) fun _ _ h => h
  refine wp_ite (fun _ => ?_) fun _ => hw
  exact (wp_bind _ _ _ _).mpr ((wp_attempt _ _ _).mpr (syncExitChildren_tracks hw))

theorem reconcileOpen_tracks {id : ℕ} {info : OrderInfo} (current : ℚ) (bestAsk : Option ℚ)
    (ho : OpenRemainder order info) (hw : Holds id w) :
    wp actAmong (LiveOk now) (reconcileOpen order id info (clampProbability current) bestAsk)
      Tracks w := by
  have hsync : wp actAmong (LiveOk now)
      (Job.when (tradeBuilderIsChildExitSell order) syncWithParent) (fun _ => Holds id) w :=
    wp_ite (fun _ => syncWithParent_tracks hw) fun _ => hw
  refine wp_bind_of hsync (fun _ w hw => ?_) fun _ _ h => h.tracked
  refine wp_bind_of (desiredPrice_tracks current bestAsk hw) (fun desired w hw => ?_)
    fun _ _ h => h
  obtain ⟨hw, p, rfl⟩ := hw
  refine holds_bind (only_when (.bind (only_orElse trivial) fun _ => only_when (only_run trivial)))
    hw fun _ w hw => ?_
  refine holds_bind (only_run trivial) hw fun _ w hw => wp_ite (fun hr => ?_) fun _ => ?_
  · exact repriceOpenOrder_tracks _ _ (ho current p hr) hw
  · exact holds_end (only_run (.inr rfl)) hw

/-- What a cancel leaves: nothing live, or the tracked order where it failed. -/
def AfterCancel (x : Except ErrorText Unit) (w : World) : Prop :=
  match x with
  | .ok _ => NothingLive w
  | .error _ => LiveTracked w

theorem canceled_tracks {id : ℕ} (hw : Holds id w) :
    wp actAmong (LiveOk now) (perform (Call.cancel id)) AfterCancel w := by
  have hattempt : wp actAmong (LiveOk now) (Job.tryRun (.cancel id))
      (fun y w' => ∀ x, y = .ok x → AfterCancel x w') w := by
    refine cancel_tracks hw (fun w' hdead x hx => ?_) fun e w' htracked _ x hx => ?_
    · exact Except.ok.inj hx ▸ hdead
    · exact Except.ok.inj hx ▸ htracked
  exact wp_mono ((wp_attempt _ _ _).mp hattempt) fun x w' hx => hx x rfl

theorem reconcile_tracks {id : ℕ} (current : ℚ) (bestAsk : Option ℚ)
    (hid : order.activeExchangeOrderId = some id) (hw : Reads order w) :
    wp actAmong (LiveOk now)
      (reconcileTradeBuilderOpenOrder order id (clampProbability current) bestAsk) Tracks w := by
  refine wp_ite (fun _ => ?_) fun _ => ?_
  · have hholds : Holds id w := ⟨hw.tracked, fun e he hl => hid.symm.trans (hw.mine e he hl)⟩
    rw [reconcileCancelRequested]
    refine wp_bind_of (canceled_tracks hholds) (fun _ w hw => ?_) fun _ _ h => h
    exact quiet_end (.bind (statement_routine _) fun _ => .bind (update_routine _) fun _ =>
      event_routine _) hw
  · refine (wp_bind _ _ _ _).mpr (status_tracks hw hid (fun info w hw ho hs => ?_)
      (fun info w hw ho hp => ?_) fun _ _ h => h)
    · refine holds_bind (only_run trivial) hw fun _ w hw => ?_
      obtain hs | hs := hs
      · rw [hs]
        exact reconcileOpen_tracks _ _ ho hw
      · rw [hs]
        exact reconcileOpen_tracks _ _ ho hw
    · refine quiet_bind (statement_routine _) hw fun _ w hw => ?_
      cases hs : info.status with
      | opened => exact absurd hs ho
      | partiallyFilled => exact absurd hs hp
      | filled => exact quiet_end (reconcileFilled_routine _ _ _) hw
      | _ => exact quiet_end (reconcileTerminal_routine _ _ _) hw

theorem Reads.nothingLive (hw : Reads order w) (ha : order.activeExchangeOrderId = none) :
    NothingLive w := by
  refine ⟨hw.tracked.ids, fun e he => ?_⟩
  cases hl : e.isLive with
  | false => rfl
  | true =>
    have hmine := hw.mine e he hl
    rw [ha] at hmine
    cases hmine

theorem eligibilityWindow_glance : Only Glance (maybeHandleEligibilityWindow order now) := by
  unfold maybeHandleEligibilityWindow
  split
  · trivial
  · trivial
  · exact .bind (only_run rfl) fun _ => .bind (only_run trivial) fun _ =>
      .bind (only_run trivial) fun _ => trivial

theorem staleOrder_glance : Only Glance (maybeExpireTradeBuilderStaleOrder order) :=
  only_ite (fun _ => trivial) fun _ => .bind (only_run trivial) fun _ =>
    only_ite (fun _ => .bind (only_run rfl) fun _ => .bind (only_run trivial) fun _ =>
      .bind (only_when (only_run trivial)) fun _ => .bind (only_run trivial) fun _ => trivial)
      fun _ => trivial

theorem unwindSelf_glance : Only Glance unwindSelf :=
  .bind (only_run trivial) fun _ => .bind (only_when (.bind (only_run rfl) fun _ =>
    only_run trivial)) fun _ => only_run trivial

/-- A stage of the head hands on an order with the sizing of the row. -/
def StageDone (x : Except ErrorText (Stage TradeBuilderOrder)) (w : World) : Prop :=
  match x with
  | .ok (.goes order) => Reads order w
  | _ => LiveTracked w

theorem stage_bind {p : Job α} {f : α → Job (Stage TradeBuilderOrder)} (hp : Only Glance p)
    (hw : Reads order w)
    (hf : ∀ a w', Reads order w' → wp actAmong (LiveOk now) (f a) StageDone w') :
    wp actAmong (LiveOk now) (p >>= f) StageDone w :=
  wp_bind_of_only (fun _ _ _ hc h hok => h.after hc hok.siblings) hp hw hf
    fun _ _ h => h.tracked

theorem pairLockRuntime_tracks (hw : Reads order w) :
    wp actAmong (LiveOk now) (maybeApplyTradeBuilderPairLockRuntime order) StageDone w := by
  refine wp_ite (fun _ => hw) fun _ => ?_
  refine stage_bind (only_run trivial) hw fun action w hw => ?_
  cases action with
  | proceed cap =>
    cases cap with
    | none => exact hw
    | some cap => exact ⟨hw.tracked, hw.sizing.trans ⟨rfl, rfl, rfl, rfl, rfl, rfl, rfl⟩, hw.mine⟩
  | sessionClosed =>
    exact wp_ite (fun _ => stage_bind (only_run rfl) hw fun _ _ h => h.tracked) fun _ => hw
  | cancel reason =>
    exact stage_bind (only_run rfl) hw fun _ w hw => stage_bind (only_run trivial) hw
      fun _ w hw => stage_bind (only_run trivial) hw fun _ _ h => h.tracked
  | hold =>
    exact stage_bind (only_when (.bind (only_run rfl) fun _ => only_run trivial)) hw
      fun _ _ h => h.tracked
  | wait => exact hw.tracked
  | unwind => exact stage_bind unwindSelf_glance hw fun _ _ h => h.tracked
  | rebase sizeBasis sizeUsdc targetQty remainingSize remainingQty eligibleBeforeAt =>
    refine wp_ite (fun _ => hw) fun hstarted => ?_
    have hn : NothingLive w := hw.nothingLive (by
      simp only [pairLockCounterHasStartedSubmitLifecycle, Bool.or_eq_true] at hstarted
      cases ha : order.activeExchangeOrderId with
      | none => rfl
      | some id => exact absurd (.inl (.inl (by simp [ha]))) hstarted)
    refine wp_bind_of_only (P := Routine) (I := NothingLive) (fun _ _ r hc h _ => h.afterAmong hc r)
      (update_routine _) hn (fun _ w hn => ?_) fun _ _ h => h.liveTracked
    exact wp_bind_of_only (P := Routine) (I := NothingLive) (fun _ _ r hc h _ => h.afterAmong hc r)
      (event_routine _) hn (fun _ _ h => h.liveTracked) fun _ _ h => h.liveTracked

def PreemptDone (x : Except ErrorText (TradeBuilderOrder × Bool)) (w : World) : Prop :=
  match x with
  | .ok (order, _) => Reads order w
  | .error _ => LiveTracked w

theorem preempt_bind {p : Job α} {f : α → Job (TradeBuilderOrder × Bool)} (hp : Only Glance p)
    (hw : Reads order w)
    (hf : ∀ a w', Reads order w' → wp actAmong (LiveOk now) (f a) PreemptDone w') :
    wp actAmong (LiveOk now) (p >>= f) PreemptDone w :=
  wp_bind_of_only (fun _ _ _ hc h hok => h.after hc hok.siblings) hp hw hf
    fun _ _ h => h.tracked

theorem preemptTakeProfit_tracks (hw : Reads order w) :
    wp actAmong (LiveOk now) (maybePreemptTradeBuilderTakeProfit order) PreemptDone w := by
  refine wp_ite (fun _ => hw) fun _ => ?_
  refine preempt_bind (only_run trivial) hw fun preemption w hw => ?_
  cases preemption with
  | none => exact hw
  | deferred => exact preempt_bind (only_run trivial) hw fun _ _ h => h
  | preempted =>
    refine preempt_bind (only_run trivial) hw fun _ w hw => ?_
    refine preempt_bind (only_run rfl) hw fun _ w hw => ?_
    refine preempt_bind (only_run trivial) hw fun _ w hw => ?_
    exact ⟨hw.tracked, hw.sizing.trans ⟨rfl, rfl, rfl, rfl, rfl, rfl, rfl⟩, hw.mine⟩

theorem processPriced_tracks (current : ℚ) (price : RuntimePrice) (hw : Reads order w) :
    wp actAmong (LiveOk now)
      (processPriced order { price with price := clampProbability current }) Tracks w := by
  refine glance_bind (only_run trivial) hw fun _ w hw => ?_
  refine wp_bind_of (preemptTakeProfit_tracks hw) (fun preempted w hw => ?_) fun _ _ h => h
  obtain ⟨order, preempted⟩ := preempted
  refine wp_ite (fun _ => glance_end (only_run rfl) hw) fun _ => ?_
  cases ha : order.activeExchangeOrderId with
  | some id =>
    refine wp_bind_of (reconcile_tracks current price.bestAsk ha hw) (fun _ w hw => ?_) fun _ _ h => h
    exact tracked_end (only_run rfl) hw
  | none =>
    have hn := hw.nothingLive ha
    refine wp_ite (fun _ => quiet_end (.bind (update_routine _) fun _ => event_routine _) hn)
      fun _ => evaluateAndSubmit_tracks _ hn

theorem runtimePrice_clamped {r : Reply} {price : RuntimePrice}
    (hx : (act .runtimePrice w r).1 = .ok (some price)) :
    ∃ p, price = { price with price := clampProbability p } := by
  cases hf : r.fails with
  | some f => simp [act, hf] at hx
  | none =>
    simp only [act, hf, answer, Except.ok.injEq] at hx
    by_cases hm : r.priceMissing
    · simp [hm] at hx
    · simp only [hm] at hx
      exact ⟨r.price.price, by rw [← Option.some.inj hx]⟩

theorem processLive_tracks (hw : Reads order w) :
    wp actAmong (LiveOk now) (processLive order now) Tracks w := by
  refine glance_bind eligibilityWindow_glance hw fun _ w hw => wp_ite (fun _ => hw.tracked)
    fun _ => ?_
  refine glance_bind staleOrder_glance hw fun _ w hw => wp_ite (fun _ => hw.tracked) fun _ => ?_
  refine wp_bind_of (pairLockRuntime_tracks hw) (fun stage w hw => ?_) fun _ _ h => h
  cases stage with
  | ends => exact hw
  | goes order =>
    have hprice : wp actAmong (LiveOk now) (Job.run .runtimePrice) (fun x w' => Reads order w' ∧
        ∀ price, x = .ok (some price) → ∃ p, price = { price with price := clampProbability p }) w := by
      rw [Job.run, wp_perform]
      exact fun r hok => ⟨Reads.after hw (c := .runtimePrice) trivial hok.siblings,
        fun price => runtimePrice_clamped⟩
    refine wp_bind_of hprice (fun price w hw => ?_) fun _ _ h => h.1.tracked
    cases price with
    | none => exact glance_end (only_run trivial) hw.1
    | some price =>
      obtain ⟨p, hp⟩ := hw.2 price rfl
      rw [hp]
      exact processPriced_tracks p price hw.1

theorem processOrder_tracks (hw : Reads order w)
    (hexpired : orderExpired order now = true → NothingLive w) :
    wp actAmong (LiveOk now) (processOrder order now) Tracks w := by
  refine wp_ite (fun _ => hw.tracked) fun _ => wp_ite (fun _ => ?_) fun _ =>
    wp_ite (fun he => ?_) fun _ => processLive_tracks hw
  · exact glance_end (.bind (only_run rfl) fun _ => .bind (only_run trivial) fun _ =>
      only_ignore (only_run trivial)) hw
  · exact quiet_end (only_ite (fun _ => .bind (update_routine _) fun _ =>
      .bind (event_routine _) fun _ => statement_routine _) fun _ => trivial) (hexpired he)

theorem process_tracks (hw : LiveTracked w) :
    wp actAmong (LiveOk now) (processTradeBuilderOrder now) Tracks w := by
  rw [processTradeBuilderOrder, wp_bind, Job.run, wp_perform]
  intro r hok
  have hw : LiveTracked (r.arrive w) := (hw.disturb hok.siblings).evolves (.arrive r.reply _)
  cases hf : r.reply.fails with
  | some f =>
    simp only [actAmong, act, hf]
    exact hw
  | none =>
    simp only [actAmong, act, hf, answer]
    refine processOrder_tracks ⟨⟨hw.ids, hw.tracked⟩, .refl _, hw.tracked⟩
      fun he => ⟨hw.ids, fun e hmem => ?_⟩
    cases hl : e.isLive with
    | false => rfl
    | true =>
      have hunexpired := hok.unexpired rfl ⟨e, hmem, hl⟩
      exact absurd (he.symm.trans hunexpired) (by simp)

theorem handleProcessingError_tracks (e : ErrorText) (hw : LiveTracked w) :
    wp actAmong (LiveOk now) (handleProcessingError e) Tracks w := by
  refine tracked_bind (only_tryRun trivial) hw fun latest w hw => ?_
  have hmark : ∀ (u : OrderUpdate) name, u.activeId = none → wp actAmong (LiveOk now)
      (do Job.ignore (Job.update u); Job.ignore (Job.event name)) Tracks w := fun u name hu =>
    tracked_end (.bind (only_ignore (only_run hu)) fun _ => only_ignore (only_run trivial)) hw
  cases latest with
  | error e' => exact hmark _ _ rfl
  | ok row => exact wp_ite (fun _ => hmark _ _ rfl) fun _ => hmark _ _ rfl

theorem housekeepingPass_tracks (hw : LiveTracked w) :
    wp actAmong (LiveOk now) (housekeepingPass now) Tracks w := by
  refine (wp_bind _ _ _ _).mpr ((wp_attempt _ _ _).mpr ?_)
  refine wp_bind_of (R := Tracks) (tracked_end (only_run trivial) hw)
    (fun _ w hw => wp_mono (process_tracks hw) fun x w hx => ?_)
    fun e w hw => handleProcessingError_tracks e hw
  cases x with
  | ok a => exact hx
  | error e => exact handleProcessingError_tracks e hx

theorem directPass_tracks (hw : LiveTracked w) :
    wp actAmong (LiveOk now) (directPass now) Tracks w :=
  (wp_bind _ _ _ _).mpr ((wp_attempt _ _ _).mpr (process_tracks hw))

end Passes

theorem liveTracked_step (w : World) (t : AmongPass) (hw : LiveTracked w) (ht : LiveTurn w t) :
    LiveTracked (Turn.step actAmong Interference.step w t) := by
  cases t with
  | environment i => exact hw.interfere ht
  | pass p replies =>
    obtain ⟨now, rfl | rfl, hm⟩ := ht
    · exact wp_sound (Q := Tracks) actAmong (LiveOk now) (housekeepingPass_tracks hw) hm
    · exact wp_sound (Q := Tracks) actAmong (LiveOk now) (directPass_tracks hw) hm

/-- In every run of passes, sibling writes and outside steps that meet their conditions, from an
order without exchange orders, at most one exchange order is live and its id is the stored one. -/
theorem live_order_tracked (w : World) (ts : List AmongPass) (hnew : w.exchange = [])
    (hts : Turn.All actAmong Interference.step LiveTurn w ts) :
    AtMostOneLiveTracked (Turn.run actAmong Interference.step w ts) := by
  have hw : LiveTracked w := ⟨by simp [World.IdsOk, hnew], by simp [hnew]⟩
  exact (Turn.run_invariant actAmong Interference.step liveTracked_step hw hts).atMostOne

/-- A call without interference that no exception of the condition can be about. -/
def plainCall (c : Call) (w : World) (r : AmongReply) : Bool :=
  r.first.isEmpty && r.reply.before.isEmpty && r.reply.fails.isNone &&
    r.reply.clientOrderId.isNone && r.reply.statusText.isNone && !r.reply.notCanceled &&
    match c with
    | .getOrder => w.exchange.isEmpty
    | .availableTokenQty | .status _ => false
    | _ => true

theorem liveOk_of_plainCall {now : ℤ} (c : Call) (w : World) (r : AmongReply)
    (h : plainCall c w r = true) : LiveOk now c w r := by
  simp only [plainCall, Bool.and_eq_true, List.isEmpty_iff, Option.isNone_iff_eq_none,
    Bool.not_eq_true'] at h
  obtain ⟨⟨⟨⟨⟨⟨hfirst, hb⟩, hf⟩, hid⟩, ht⟩, hn⟩, hc⟩ := h
  have ha : r.arrive w = w := by
    simp [AmongReply.arrive, AmongReply.disturb, Reply.arrive, hb, hfirst]
  refine ⟨by rw [AmongReply.Disturbs, hfirst]; trivial, honest_of_plain hid ht hn, fun _ => hf, ?_, ?_, ?_⟩
  · rintro rfl ⟨e, he, -⟩
    simp only [List.isEmpty_iff] at hc
    simp [ha, hc] at he
  · rintro rfl
    cases hc
  · rintro id e rfl
    cases hc

/-- A buy of 10 USDC that lives until second 10. -/
def shortLivedBuy : World := { order := { sizeUsdc := 10, expiresAt := some 10 } }

theorem live_order_tracked_submit :
    AtMostOneLiveTracked (Turn.run actAmong Interference.step shortLivedBuy
      [.pass (directPass 0) [], .environment (.outside (.fill 0 5))]) :=
  live_order_tracked _ _ rfl ⟨⟨0, .inr rfl, Meets.mono actAmong _ liveOk_of_plainCall
    (by decide +kernel : Meets actAmong (fun c w r => plainCall c w r = true) (directPass 0) []
      shortLivedBuy)⟩, trivial, trivial⟩

/-- The pass after second 10 expires the order and forgets the order it submitted. -/
theorem expiry_forgets_live_order :
    ¬ AtMostOneLiveTracked (Turn.run actAmong Interference.step shortLivedBuy
      [.pass (directPass 0) [], .pass (housekeepingPass 10) []]) := by
  decide +kernel

end PolymarketBot.Builder
