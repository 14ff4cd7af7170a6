import PolymarketBot.Builder.LiveOrder
import PolymarketBot.Lib.Guarantee

/-! What the processing passes do to an order that the active-order queries of the strategy
engines list: call by call, the order stays listed, or nothing of it is live and no later pass
places it again. -/

namespace PolymarketBot.Builder
open Lib Prog

/-- What the strategy engines leave alike in the rows they create: immediate orders of a flow
run that belong to no pair session. -/
structure EngineRow (side : Side) (row : TradeBuilderOrder) : Prop where
  immediate : row.kind = .immediate
  unpaired : row.pairSessionId = none
  fromFlow : row.originFlowRunId.isSome = true
  side : row.side = side

/-- A row that no query lists, and that a pass at most cancels. -/
structure Finished (row : TradeBuilderOrder) : Prop where
  unlisted : isActiveOrderStatus row.status = false
  unprocessed : isProcessable row = true → row.status = .canceledRequested

def Outside.requestsCancel : Outside → Bool
  | requestCancel _ => true
  | _ => false

structure ListedOk (now : ℤ) (c : Call) (w : World) (r : Reply) : Prop where
  /-- No cancel is requested in the middle of a pass. -/
  undisturbed : ∀ o ∈ r.before, o.requestsCancel = false
  /-- The exchange can be relied on. -/
  honest : Honest c (r.arrive w) r
  /-- While an exchange order is live no call fails. -/
  answered : (r.arrive w).hasLive → r.fails = none
  /-- No pass reads a row whose time to live is over while its order is live. -/
  unexpired : c = .getOrder → (r.arrive w).hasLive → orderExpired (r.arrive w).order now = false
  /-- The inventory reported while an order is live covers at least 0.01 shares. -/
  inventory : c = .availableTokenQty → (r.arrive w).hasLive → ∀ q, r.qty = some q → 1 / 100 ≤ q
  /-- What is open of a live order still rounds to a size. -/
  remainder : ∀ id e, c = .status id → (r.arrive w).exchangeOrder id = some e →
    e.isLive = true → OpenRemainder (r.arrive w).order (e.info r)
  /-- No guard makes the order wait. -/
  unguarded : ∀ error size qty, c ≠ .update (.setGuardBlockedState error size qty)
  /-- An error ends the order: no later pass retries it. -/
  errors : ∀ e, c = .update (.setStatus .error (some e)) →
    isProcessable ((OrderUpdate.setStatus .error (some e)).apply w.order) = false
  /-- A retry after an error finds the order listed. -/
  retries : ∀ e, c = .update (.setStatus .triggered (some e)) →
    isActiveOrderStatus w.order.status = true

/-- One call leaves the order listed or nothing of it live; an order that is not listed stays so
and its exchange orders stay as they are. -/
structure ListedGuarantee (w w' : World) : Prop where
  listed : isActiveOrderStatus w'.order.status = true ∨ NothingLive w'
  settled : isActiveOrderStatus w.order.status = false →
    isActiveOrderStatus w'.order.status = false ∧ w'.exchange = w.exchange

theorem order_of_undisturbed {os : List Outside} (h : ∀ o ∈ os, o.requestsCancel = false)
    (w : World) : (os.foldl (fun w o => o.step w) w).order = w.order := by
  induction os generalizing w with
  | nil => rfl
  | cons o os ih =>
    rw [List.foldl_cons, ih fun o' ho => h o' (List.mem_cons_of_mem _ ho)]
    cases o with
    | requestCancel reason => exact absurd (h _ List.mem_cons_self) Bool.noConfusion
    | _ => rfl

theorem evolves_eq_of_dead {es es' : List ExchangeOrder} (h : ∀ e ∈ es, e.isLive = false)
    (he : List.Forall₂ ExchangeOrder.Evolves es es') : es' = es := by
  induction he with
  | nil => rfl
  | cons hev _ ih =>
    rw [hev.frozen (h _ List.mem_cons_self), ih fun e he => h e (List.mem_cons_of_mem _ he)]

section Calls
variable {now : ℤ} {side : Side} {c : Call} {w : World} {r : Reply}

theorem ListedOk.arrive_order (h : ListedOk now c w r) : (r.arrive w).order = w.order :=
  order_of_undisturbed h.undisturbed w

theorem NothingLive.act_exchange (h : NothingLive w) (hc : ∀ request, c ≠ .place request)
    (r : Reply) : (act c w r).2.exchange = w.exchange := by
  have harrive := (World.Evolves.arrive r w).exchange
  obtain he | ⟨request, rfl, -⟩ := Builder.act_exchange c w r
  · exact evolves_eq_of_dead h.dead (exchange_trans harrive he)
  · exact absurd rfl (hc request)

/-- Calls that place nothing, and whose update statements satisfy `k`. -/
def Writes (k : OrderUpdate → Bool) : Call → Prop
  | .place _ => False
  | .update u => k u = true
  | _ => True

theorem Silent.writes {k : OrderUpdate → Bool} (h : Silent c) : Writes k c := by
  cases c <;> trivial

theorem Writes.not_place {k : OrderUpdate → Bool} (h : Writes k c) (request : PlaceOrderRequest) :
    c ≠ .place request := by
  rintro rfl
  exact h

theorem ListedOk.act_order {k : OrderUpdate → Bool} (h : ListedOk now c w r)
    (hc : Writes k c) : (act c w r).2.order = w.order ∨
      ∃ u, k u = true ∧ (act c w r).2.order = u.apply w.order := by
  obtain ho | ⟨u, rfl, -, ho⟩ := Builder.act_order c w r
  · exact .inl (ho.trans h.arrive_order)
  · refine .inr ⟨u, hc, ?_⟩
    rw [ho, World.update_order, h.arrive_order]

theorem EngineRow.apply {row : TradeBuilderOrder} (h : EngineRow side row) (u : OrderUpdate) :
    EngineRow side (u.apply row) := by
  cases u <;> exact ⟨h.immediate, h.unpaired, h.fromFlow, h.side⟩

theorem EngineRow.arrive (h : EngineRow side w.order) (r : Reply) :
    EngineRow side (r.arrive w).order := by
  rw [Reply.arrive]
  induction r.before generalizing w with
  | nil => exact h
  | cons o os ih =>
    refine ih ?_
    cases o <;> exact ⟨h.immediate, h.unpaired, h.fromFlow, h.side⟩

theorem EngineRow.act (h : EngineRow side w.order) (c : Call) (r : Reply) :
    EngineRow side (act c w r).2.order := by
  obtain ho | ⟨u, -, -, hw⟩ := act_order c w r
  · rw [ho]
    exact h.arrive r
  · rw [hw]
    exact (h.arrive r).apply u

theorem EngineRow.sibling_step (h : EngineRow side w.order) (write : SiblingWrite) :
    (Interference.sibling write).step w = w := by
  have hlisted : isListedByOthers w.order = false := by
    simp [isListedByOthers, tradeBuilderIsChildExitSell, tradeBuilderOrderUsesPairLock,
      h.immediate, h.unpaired]
  rw [Interference.step, hlisted, if_neg Bool.false_ne_true]

def finalStatus : OrderStatus → Bool
  | .completed | .canceled | .expired | .filled | .rejected | .blocked => true
  | _ => false

/-- Statements that end an order, or only count what it filled. -/
def OrderUpdate.finishes : OrderUpdate → Bool
  | setStatus status _ | setWorkingState _ _ _ _ status | setRetryState status ..
  | clearActiveExchangeOrder status | clearActiveExchangeOrderPreserveSizing status =>
    finalStatus status
  | setFilledQty _ | setSubmittedDynamic .. | setLastSeenPrice _ | incrementTriggerCount => true
  | _ => false

/-- Statements after which a listed order is still listed and has the triggers it had. -/
def OrderUpdate.staysListed : OrderUpdate → Bool
  | setStatus status _ | setWorkingState _ _ _ _ status | setRetryState status ..
  | clearActiveExchangeOrder status | clearActiveExchangeOrderPreserveSizing status
  | updateSizingAndState _ _ _ _ _ status .. => isActiveOrderStatus status
  | setGuardBlockedState .. | incrementTriggerCount => false
  | _ => true

theorem finished_of_final {row : TradeBuilderOrder} (h : finalStatus row.status = true) :
    Finished row := by
  refine ⟨?_, fun hp => ?_⟩
  · revert h
    cases row.status <;> decide
  · exfalso
    revert h hp
    simp only [isProcessable]
    cases row.status <;> simp [finalStatus, isTradeBuilderOrderProcessableStatus]

theorem OrderUpdate.finishes_apply {u : OrderUpdate} (h : u.finishes = true)
    (row : TradeBuilderOrder) : Finished (u.apply row) ∨
      (u.apply row).status = row.status ∧ (Finished row → Finished (u.apply row)) := by
  cases u with
  | setFilledQty _ | setSubmittedDynamic _ _ | setLastSeenPrice _ | incrementTriggerCount =>
    exact .inr ⟨rfl, fun hf => ⟨hf.unlisted, hf.unprocessed⟩⟩
  | setLastError _ | setTriggerLatched _ _ | updateSizingAndState _ _ _ _ _ _ _ _ _
  | setGuardBlockedState _ _ _ => cases h
  | _ => exact .inl (finished_of_final h)

end Calls

/-- Nothing is live; the order is listed, or it ended. -/
structure Parked (side : Side) (w : World) : Prop where
  dead : NothingLive w
  row : EngineRow side w.order
  status : isActiveOrderStatus w.order.status = true ∨ Finished w.order

/-- Nothing is live of a listed order that has a trigger left. -/
structure Ready (side : Side) (w : World) : Prop where
  dead : NothingLive w
  row : EngineRow side w.order
  listed : isActiveOrderStatus w.order.status = true
  unfired : w.order.triggersFired < w.order.maxTriggers

/-- A listed order holds the id of the only exchange order that can be live. -/
structure HoldsListed (side : Side) (id : ℕ) (w : World) : Prop where
  holds : Holds id w
  row : EngineRow side w.order
  listed : isActiveOrderStatus w.order.status = true
  unfired : w.order.triggersFired < w.order.maxTriggers

structure Accepted (side : Side) (ack : PlaceAck) (w : World) : Prop where
  placed : Placed ack w
  ended : ack.status ≠ .opened → ack.status ≠ .partiallyFilled → NothingLive w
  row : EngineRow side w.order
  listed : isActiveOrderStatus w.order.status = true
  unfired : w.order.triggersFired < w.order.maxTriggers

structure Kept (side : Side) (w : World) : Prop where
  tracked : LiveTracked w
  row : EngineRow side w.order
  unfired : w.hasLive → w.order.triggersFired < w.order.maxTriggers
  status : isActiveOrderStatus w.order.status = true ∨ NothingLive w ∧ Finished w.order

theorem Ready.parked {side : Side} {w : World} (h : Ready side w) : Parked side w :=
  ⟨h.dead, h.row, .inl h.listed⟩

theorem NothingLive.not_hasLive {w : World} (h : NothingLive w) : ¬ w.hasLive := by
  rintro ⟨e, he, hl⟩
  rw [h.dead e he] at hl
  cases hl

theorem nothingLive_of_not_hasLive {w : World} (hids : w.IdsOk) (h : ¬ w.hasLive) :
    NothingLive w := by
  refine ⟨hids, fun e he => ?_⟩
  cases hl : e.isLive with
  | false => rfl
  | true => exact absurd ⟨e, he, hl⟩ h

theorem Parked.kept {side : Side} {w : World} (h : Parked side w) : Kept side w :=
  ⟨h.dead.liveTracked, h.row, fun hl => absurd hl h.dead.not_hasLive,
    h.status.imp_right fun hf => ⟨h.dead, hf⟩⟩

theorem Ready.kept {side : Side} {w : World} (h : Ready side w) : Kept side w := h.parked.kept

theorem HoldsListed.kept {side : Side} {id : ℕ} {w : World} (h : HoldsListed side id w) :
    Kept side w :=
  ⟨h.holds.tracked, h.row, fun _ => h.unfired, .inl h.listed⟩

theorem HoldsListed.ready {side : Side} {id : ℕ} {w : World} (h : HoldsListed side id w)
    (hn : NothingLive w) : Ready side w :=
  ⟨hn, h.row, h.listed, h.unfired⟩

section Steps
variable {now : ℤ} {side : Side} {c : Call} {w : World} {r : Reply}

theorem dead_after (hn : NothingLive w) (hc : ∀ request, c ≠ .place request) (r : Reply) :
    NothingLive (act c w r).2 := by
  refine ⟨?_, fun e he => ?_⟩
  · rw [World.IdsOk, hn.act_exchange hc r]
    exact hn.ids
  · rw [hn.act_exchange hc r] at he
    exact hn.dead e he

theorem Parked.step (h : Parked side w) (hc : Writes OrderUpdate.finishes c)
    (hok : ListedOk now c w r) :
    ListedGuarantee w (act c w r).2 ∧ Parked side (act c w r).2 := by
  have hdead := dead_after h.dead hc.not_place r
  have hex := h.dead.act_exchange hc.not_place r
  obtain ho | ⟨u, hu, ho⟩ := hok.act_order hc
  · refine ⟨⟨.inr hdead, fun hl => ⟨?_, hex⟩⟩, ⟨hdead, ?_, ?_⟩⟩
    · rw [ho]
      exact hl
    · rw [ho]
      exact h.row
    · rw [ho]
      exact h.status
  · have hend := OrderUpdate.finishes_apply hu w.order
    refine ⟨⟨.inr hdead, fun hl => ⟨?_, hex⟩⟩, ⟨hdead, ?_, ?_⟩⟩
    · rw [ho]
      obtain hf | ⟨hs, -⟩ := hend
      · exact hf.unlisted
      · rw [hs]
        exact hl
    · rw [ho]
      exact h.row.apply u
    · rw [ho]
      obtain hf | ⟨hs, hkeep⟩ := hend
      · exact .inr hf
      · rw [hs]
        exact h.status.imp_right hkeep

theorem OrderUpdate.staysListed_apply {u : OrderUpdate} (h : u.staysListed = true)
    {row : TradeBuilderOrder} (hrow : isActiveOrderStatus row.status = true) :
    isActiveOrderStatus (u.apply row).status = true ∧
      (u.apply row).triggersFired = row.triggersFired ∧
        (u.apply row).maxTriggers = row.maxTriggers := by
  cases u with
  | incrementTriggerCount | setGuardBlockedState _ _ _ => cases h
  | setStatus _ _ | setWorkingState _ _ _ _ _ | setRetryState _ _ _ _
  | clearActiveExchangeOrder _ | clearActiveExchangeOrderPreserveSizing _
  | updateSizingAndState _ _ _ _ _ _ _ _ _ => exact ⟨h, rfl, rfl⟩
  | _ => exact ⟨hrow, rfl, rfl⟩

/-- What a call leaves of a listed order that it keeps listed. -/
structure StaysListed (side : Side) (w w' : World) : Prop where
  guarantee : ListedGuarantee w w'
  row : EngineRow side w'.order
  listed : isActiveOrderStatus w'.order.status = true
  fired : w'.order.triggersFired = w.order.triggersFired
  most : w'.order.maxTriggers = w.order.maxTriggers

theorem staysListed_act (hrow : EngineRow side w.order)
    (hl : isActiveOrderStatus w.order.status = true) (hc : Writes OrderUpdate.staysListed c)
    (hok : ListedOk now c w r) : StaysListed side w (act c w r).2 := by
  have hunlisted : isActiveOrderStatus w.order.status ≠ false := by simp [hl]
  obtain ho | ⟨u, hu, ho⟩ := hok.act_order hc
  · exact ⟨⟨.inl (ho ▸ hl), fun hn => absurd hn hunlisted⟩, ho ▸ hrow, ho ▸ hl, by rw [ho],
      by rw [ho]⟩
  · obtain ⟨hlisted, hfired, hmax⟩ := OrderUpdate.staysListed_apply hu hl
    exact ⟨⟨.inl (ho ▸ hlisted), fun hn => absurd hn hunlisted⟩, ho ▸ hrow.apply u, ho ▸ hlisted,
      by rw [ho, hfired], by rw [ho, hmax]⟩

theorem StaysListed.unfired {w' : World} (h : StaysListed side w w')
    (hf : w.order.triggersFired < w.order.maxTriggers) :
    w'.order.triggersFired < w'.order.maxTriggers := by
  rw [h.fired, h.most]
  exact hf

theorem Ready.step (h : Ready side w) (hc : Writes OrderUpdate.staysListed c)
    (hok : ListedOk now c w r) :
    ListedGuarantee w (act c w r).2 ∧ Ready side (act c w r).2 := by
  have hs := staysListed_act h.row h.listed hc hok
  exact ⟨hs.guarantee, dead_after h.dead hc.not_place r, hs.row, hs.listed, hs.unfired h.unfired⟩

theorem HoldsListed.step {id : ℕ} (h : HoldsListed side id w) (hid : KeepsId id c)
    (hc : Writes OrderUpdate.staysListed c) (hok : ListedOk now c w r) :
    ListedGuarantee w (act c w r).2 ∧ HoldsListed side id (act c w r).2 := by
  have hs := staysListed_act h.row h.listed hc hok
  exact ⟨hs.guarantee, h.holds.after hid r, hs.row, hs.listed, hs.unfired h.unfired⟩

theorem Accepted.step {ack : PlaceAck} (h : Accepted side ack w) (hr : Routine c)
    (hc : Writes OrderUpdate.staysListed c) (hok : ListedOk now c w r) :
    ListedGuarantee w (act c w r).2 ∧ Accepted side ack (act c w r).2 := by
  have hs := staysListed_act h.row h.listed hc hok
  exact ⟨hs.guarantee, h.placed.after hr r, fun ho hp => (h.ended ho hp).after hr r, hs.row,
    hs.listed, hs.unfired h.unfired⟩

theorem hasLive_of_act (hc : ∀ request, c ≠ .place request)
    (h : (act c w r).2.hasLive) : w.hasLive := by
  obtain ⟨e', he', hl⟩ := h
  obtain hev | ⟨request, rfl, -⟩ := Builder.act_exchange c w r
  · obtain ⟨e, he, hev⟩ :=
      evolves_of_mem (exchange_trans (World.Evolves.arrive r w).exchange hev) he'
    exact ⟨e, he, hev.live hl⟩
  · exact absurd rfl (hc request)

/-- Statements that neither end an order nor bring it back. -/
def OrderUpdate.keepsListed (u : OrderUpdate) : Bool := u.finishes && u.staysListed

theorem Writes.mono {k k' : OrderUpdate → Bool} (h : ∀ u, k u = true → k' u = true)
    (hc : Writes k c) : Writes k' c := by
  cases c with
  | update u => exact h u hc
  | place request => exact hc
  | _ => trivial

theorem Kept.step (h : Kept side w) (hg : KeepsActive c) (hc : Writes OrderUpdate.keepsListed c)
    (hok : ListedOk now c w r) : ListedGuarantee w (act c w r).2 ∧ Kept side (act c w r).2 := by
  obtain hl | ⟨hdead, hf⟩ := h.status
  · have hs := staysListed_act h.row hl (hc.mono fun u hu => (Bool.and_eq_true_iff.mp hu).2) hok
    refine ⟨hs.guarantee, h.tracked.after hg r, hs.row,
      fun hlive => hs.unfired (h.unfired (hasLive_of_act hc.not_place hlive)), .inl hs.listed⟩
  · have hpark : Parked side w := ⟨hdead, h.row, .inr hf⟩
    have hs := hpark.step (hc.mono fun u hu => (Bool.and_eq_true_iff.mp hu).1) hok
    exact ⟨hs.1, hs.2.kept⟩

theorem ListedOk.dead_of_fails (hok : ListedOk now c w r) (hids : w.IdsOk) (hf : r.fails ≠ none) :
    NothingLive (act c w r).2 := by
  have hact : (act c w r).2 = r.arrive w := by
    cases h : r.fails with
    | none => exact absurd h hf
    | some f => simp [act, h]
  rw [hact]
  exact nothingLive_of_not_hasLive ((World.Evolves.arrive r w).idsOk hids)
    fun hl => hf (hok.answered hl)

/-- Calls that this world answers unless they fail. -/
def NeverRefused : Call → Prop
  | .status _ | .cancel _ => False
  | _ => True

theorem fails_of_error {e : ErrorText} (hc : NeverRefused c) (he : (act c w r).1 = .error e) :
    r.fails ≠ none := by
  intro hf
  cases c <;> first | exact hc | simp [act, hf, answer] at he

end Steps

end PolymarketBot.Builder
