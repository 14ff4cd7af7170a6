import PolymarketBot.Builder.Siblings

/-! A cancel request of another writer against the status writes of the passes: which calls
keep a request until its cancel is carried out. -/

namespace PolymarketBot.Builder
open Lib Prog

/-- A request that no fill has completed is still on the row, or the order is canceled and
the exchange order that was active is no longer live. -/
def CancelKept (w : World) : Prop :=
  ∀ id ∈ w.cancelRequest,
    w.order.status = .canceledRequested ∧ w.order.activeExchangeOrderId = id ∨
      w.order.status = .canceled ∧ Stopped w id

instance (w : World) : Decidable (CancelKept w) := by
  unfold CancelKept
  infer_instance

def World.requestRead (w : World) : Prop :=
  w.cancelRequest.isSome = true ∧ w.unreadRequest = false

/-- What a pair-lock session may decide about an order that is asked to cancel. -/
def PairLockAction.letsCancel (action : PairLockAction) (w : World) : Prop :=
  match action with
  | .proceed _ | .wait | .unwind => True
  | .sessionClosed | .cancel _ => ∀ id ∈ w.cancelRequest, Stopped w id
  | .hold => False
  | .rebase .. => ∃ n, w.cancelRequest = some (some n)

/-- A write of this status keeps what is asked of the order: it asks again, it says that the
order is canceled once the exchange order is, or that a counted fill completed it. -/
def KeepsRequest (w : World) (u : OrderUpdate) (s : OrderStatus) : Prop :=
  s = .canceledRequested ∧
      (u.apply w.order).activeExchangeOrderId = w.order.activeExchangeOrderId ∨
    s = .canceled ∧ (∀ id ∈ w.cancelRequest, Stopped w id) ∨
    s = .completed ∧ w.fillCounted = true

/-- A sibling writes over a pending request only what keeps it, and leaves its status alone
once a pass has read it. -/
def SparesRequest (w : World) : Interference → Prop
  | .outside _ => True
  | .sibling write => isListedByOthers w.order = true → w.cancelRequest.isSome = true →
      ∀ s, write.statement.status? = some s → KeepsRequest w write.statement s ∧
        (w.rowRead.status = .canceledRequested → w.order.status = .canceledRequested →
          s = .canceledRequested)

/-- The condition on one call of a pass at time `now`; the housekeeping loop handles the
errors of its passes, the other loops only log them. -/
structure CancelOk (handled : Bool) (now : ℤ) (c : Call) (w : World) (r : AmongReply) : Prop where
  /-- No sibling writes a status from before the request. -/
  siblings : r.Disturbs SparesRequest w
  /-- No status is written over a request that landed after the pass read the row. -/
  overwrites : ∀ u s, c = .update u → u.status? = some s → (r.arrive w).unreadRequest = true →
    (r.arrive w).cancelRequest.isSome = true → KeepsRequest (r.arrive w) u s
  /-- A housekeeping pass that read the request does not fail. -/
  fails : handled = true → (r.arrive w).requestRead → r.reply.fails = none
  /-- The row that is read with the request on it has not run out. -/
  row : c = .getOrder → (r.arrive w).order.status = .canceledRequested →
    (r.arrive w).order.triggersFired < (r.arrive w).order.maxTriggers ∧
      orderExpired (r.arrive w).order now = false ∧
        classifyTradeBuilderOrderEligibilityWindow (r.arrive w).order now ≠ .expire
  /-- Its market is not stale. -/
  market : c = .check .staleMarket → (r.arrive w).requestRead → r.reply.yes = false
  /-- Its pair-lock session lets it cancel. -/
  pairLock : c = .pairLockRuntime → (r.arrive w).requestRead →
    r.reply.pairLock.letsCancel (r.arrive w)
  /-- A cancel that is acknowledged has ended its order. -/
  canceled : ∀ n, c = .cancel n → r.reply.notCanceled = true → Stopped (r.arrive w) (some n)
  /-- The exchange does not answer that the order to be canceled is already matched. -/
  cancel : ∀ n, c = .cancel n → handled = true → (r.arrive w).requestRead →
    ∃ e, (r.arrive w).exchangeOrder n = some e ∧ e.state ≠ .matched

/-- A call of a pass that can carry a request out: nothing interferes and nothing fails, the
row has not run out, the session and the stop loss let it go on, and there is a price. -/
structure CancelServed (now : ℤ) (c : Call) (w : World) (r : AmongReply) : Prop where
  quiet : r.first = [] ∧ r.reply.before = []
  answers : r.reply.fails = none
  row : c = .getOrder → w.order.triggersFired < w.order.maxTriggers ∧
    orderExpired w.order now = false ∧
      classifyTradeBuilderOrderEligibilityWindow w.order now = .allow
  market : c = .check .staleMarket → r.reply.yes = false
  pairLock : c = .pairLockRuntime → ∃ cap, r.reply.pairLock = .proceed cap
  price : c = .runtimePrice → r.reply.priceMissing = false
  preemption : c = .takeProfitPreemption →
    r.reply.preemption = .deferred → w.order.activeExchangeOrderId.isSome = true
  cancel : ∀ n, c = .cancel n → r.reply.notCanceled = false ∧
    ∃ e, w.exchangeOrder n = some e ∧ e.state ≠ .matched

def CancelTurn (w : World) : AmongPass → Prop
  | .pass p replies => ∃ now, p = housekeepingPass now ∧
      Meets actAmong (CancelOk true now) p replies w ∨
        p = directPass now ∧ Meets actAmong (CancelOk false now) p replies w
  | .environment i => SparesRequest w i

/-- Every request that is not carried out is one no pass has read. -/
structure Unlost (w : World) : Prop where
  kept : CancelKept w
  unread : w.cancelRequest.isSome = true → w.unreadRequest = true

theorem CancelKept.step {w : World} (h : CancelKept w) (o : Outside) : CancelKept (o.step w) := by
  have hex := (World.Evolves.step o w).exchange
  cases o with
  | requestCancel reason =>
    intro id hid
    simp only [Outside.step, Option.mem_some_iff] at hid
    exact .inl ⟨rfl, hid⟩
  | fill n qty => exact fun id hid => (h id hid).imp (fun h => h) fun h => ⟨h.1, h.2.evolves hex⟩
  | finish n state =>
    exact fun id hid => (h id hid).imp (fun h => h) fun h => ⟨h.1, h.2.evolves hex⟩

theorem Unlost.step {w : World} (h : Unlost w) (o : Outside) : Unlost (o.step w) := by
  refine ⟨h.kept.step o, ?_⟩
  cases o with
  | requestCancel reason => exact fun _ => rfl
  | fill n qty => exact h.unread
  | finish n state => exact h.unread

theorem CancelKept.outside {w : World} (h : CancelKept w) (r : Reply) :
    CancelKept (r.arrive w) := by
  rw [Reply.arrive]
  induction r.before generalizing w with
  | nil => exact h
  | cons o os ih => exact ih (h.step o)

theorem Unlost.outside {w : World} (h : Unlost w) (r : Reply) : Unlost (r.arrive w) := by
  rw [Reply.arrive]
  induction r.before generalizing w with
  | nil => exact h
  | cons o os ih => exact ih (h.step o)

theorem CancelKept.read {w : World} (h : CancelKept w) :
    CancelKept { w with rowRead := w.order, unreadRequest := false } := h

theorem OrderUpdate.activeId_of_status {u : OrderUpdate} (h : u.status? = none) :
    u.activeId = none := by
  cases u <;> first | rfl | cases h

theorem update_cancelRequest (w : World) (u : OrderUpdate) :
    u.status? = some .canceledRequested ∧ (w.update u).cancelRequest =
        (if w.order.status = .canceledRequested ∧ w.cancelRequest.isSome then w.cancelRequest
        else some (u.apply w.order).activeExchangeOrderId) ∨
      u.status? ≠ some .canceledRequested ∧ (w.update u).cancelRequest = none ∨
      u.status? ≠ some .canceledRequested ∧ ¬ (u.status? = some .completed ∧ w.fillCounted) ∧
        (w.update u).cancelRequest = w.cancelRequest := by
  simp only [World.update]
  by_cases hs : u.status? = some .canceledRequested
  · simp [hs]
  · by_cases hc : u.status? = some .completed ∧ w.fillCounted
    · simp [hc]
    · simp [hs, hc]

theorem CancelKept.update {w : World} (h : CancelKept w) {u : OrderUpdate}
    (hu : w.cancelRequest.isSome = true → ∀ s, u.status? = some s → KeepsRequest w u s) :
    CancelKept (w.update u) := by
  intro id hid
  rw [World.update_order, OrderUpdate.apply_status]
  obtain ⟨hs, hr⟩ | ⟨-, hr⟩ | ⟨hs, hcompleted, hr⟩ := update_cancelRequest w u
  · refine .inl ⟨by rw [hs]; rfl, ?_⟩
    rw [hr] at hid
    by_cases hpending : w.order.status = .canceledRequested ∧ w.cancelRequest.isSome = true
    · rw [if_pos hpending] at hid
      obtain ⟨-, hactive⟩ | ⟨hcanceled, -⟩ := h id hid
      · obtain ⟨-, hsame⟩ | ⟨hstatus, -⟩ | ⟨hstatus, -⟩ := hu hpending.2 _ hs
        · exact hsame.trans hactive
        · cases hstatus
        · cases hstatus
      · rw [hpending.1] at hcanceled
        cases hcanceled
    · rw [if_neg hpending] at hid
      exact Option.mem_some_iff.mp hid
  · rw [hr] at hid
    cases hid
  · rw [hr] at hid
    cases hst : u.status? with
    | none =>
      rw [OrderUpdate.apply_activeExchangeOrderId, OrderUpdate.activeId_of_status hst]
      exact h id hid
    | some s =>
      obtain ⟨rfl, -⟩ | ⟨rfl, hstop⟩ | ⟨rfl, hfill⟩ :=
        hu (by simp [Option.mem_def.mp hid]) s hst
      · exact absurd hst hs
      · exact .inr ⟨rfl, hstop id hid⟩
      · exact absurd ⟨hst, hfill⟩ hcompleted

theorem CancelKept.interfere {w : World} (h : CancelKept w) {i : Interference}
    (hi : SparesRequest w i) : CancelKept (i.step w) := by
  cases i with
  | outside o => exact h.step o
  | sibling write =>
    simp only [Interference.step]
    split
    · rename_i hlisted
      exact h.update fun hp s hs => (hi hlisted hp s hs).1
    · exact h

theorem Unlost.update {w : World} (h : Unlost w) {u : OrderUpdate} (hk : CancelKept (w.update u)) :
    Unlost (w.update u) := by
  refine ⟨hk, fun hp => ?_⟩
  simp only [World.update, Bool.or_eq_true, beq_iff_eq]
  obtain ⟨hs, -⟩ | ⟨-, hr⟩ | ⟨-, -, hr⟩ := update_cancelRequest w u
  · exact .inr hs
  · rw [hr] at hp
    cases hp
  · rw [hr] at hp
    exact .inl (h.unread hp)

theorem Unlost.interfere {w : World} (h : Unlost w) {i : Interference}
    (hi : SparesRequest w i) : Unlost (i.step w) := by
  have hk := h.kept.interfere hi
  cases i with
  | outside o => exact h.step o
  | sibling write =>
    simp only [Interference.step] at hk ⊢
    split
    · rename_i hlisted
      rw [if_pos hlisted] at hk
      exact h.update hk
    · exact h

theorem CancelKept.disturb {w : World} (h : CancelKept w) {r : AmongReply}
    (hr : r.Disturbs SparesRequest w) : CancelKept (r.disturb w) :=
  hr.keeps (fun _ _ h hi => h.interfere hi) h

theorem Unlost.disturb {w : World} (h : Unlost w) {r : AmongReply}
    (hr : r.Disturbs SparesRequest w) : Unlost (r.disturb w) :=
  hr.keeps (fun _ _ h hi => h.interfere hi) h

theorem CancelKept.arrive {w : World} (h : CancelKept w) {r : AmongReply}
    (hr : r.Disturbs SparesRequest w) : CancelKept (r.arrive w) :=
  (h.disturb hr).outside r.reply

theorem Unlost.arrive {w : World} (h : Unlost w) {r : AmongReply}
    (hr : r.Disturbs SparesRequest w) : Unlost (r.arrive w) :=
  (h.disturb hr).outside r.reply

theorem CancelKept.sameRow {w : World} {c : Call} {r : AmongReply} (h : CancelKept (r.arrive w))
    (hs : (r.arrive w).SameRow (actAmong c w r).2) : CancelKept (actAmong c w r).2 := by
  intro id hid
  rw [hs.cancelRequest] at hid
  rw [hs.order]
  exact (h id hid).imp (fun h => h) fun h => ⟨h.1, Stopped.after (w := r.disturb w) h.2⟩

theorem Unlost.after {handled : Bool} {now : ℤ} {c : Call} {w : World} {r : AmongReply}
    (h : Unlost w) (hc : NoRead c) (hok : CancelOk handled now c w r) :
    Unlost (actAmong c w r).2 := by
  have ha := h.arrive hok.siblings
  obtain hs | ⟨u, rfl, -, hw⟩ := act_row hc (r.disturb w) r.reply
  · exact ⟨ha.kept.sameRow hs, fun hp => hs.unreadRequest.trans (ha.unread
      ((congrArg Option.isSome hs.cancelRequest).symm.trans hp))⟩
  · have hk : CancelKept ((r.arrive w).update u) := ha.kept.update fun hp s hs =>
      hok.overwrites u s rfl hs (ha.unread hp) hp
    rw [actAmong, hw]
    exact ha.update hk

/-- What a failed job leaves: an error of a housekeeping pass goes to its handler, which must
not find a request that was read. -/
def ErrorKeeps (handled : Bool) (w : World) : Prop :=
  CancelKept w ∧ (handled = true → Unlost w)

/-- The postcondition of the processing part of a pass. -/
def Keeps (handled : Bool) {α : Type} (x : Except ErrorText α) (w : World) : Prop :=
  match x with
  | .ok _ => CancelKept w
  | .error _ => ErrorKeeps handled w

theorem Unlost.keeps {handled : Bool} {α : Type} {w : World} (h : Unlost w)
    (x : Except ErrorText α) : Keeps handled x w := by
  cases x with
  | ok a => exact h.kept
  | error e => exact ⟨h.kept, fun _ => h⟩

section Passes
variable {handled : Bool} {now : ℤ} {α β : Type} {w : World} {order : TradeBuilderOrder}

theorem unlost_end {p : Job α} (hp : Only NoRead p) (hw : Unlost w) :
    wp actAmong (CancelOk handled now) p (Keeps handled) w := by
  refine wp_mono (wp_of_only (P := NoRead) (I := Unlost) (fun c w r hc h hok => ?_) hp hw)
    fun x w h => Unlost.keeps h x
  exact h.after hc hok

/-- The row carries a request, read or not. -/
structure Requested (id : Option ℕ) (w : World) : Prop where
  request : w.cancelRequest = some id
  status : w.order.status = .canceledRequested
  active : w.order.activeExchangeOrderId = id

theorem Requested.kept {id : Option ℕ} (h : Requested id w) : CancelKept w := by
  intro id' hid
  rw [h.request, Option.mem_some_iff] at hid
  exact .inl ⟨h.status, h.active.trans hid⟩

theorem Requested.outside {id : Option ℕ} (h : Requested id w) (r : Reply) :
    Requested id (r.arrive w) := by
  rw [Reply.arrive]
  induction r.before generalizing w with
  | nil => exact h
  | cons o os ih =>
    refine ih ?_
    cases o with
    | fill n qty => exact ⟨h.request, h.status, h.active⟩
    | finish n state => exact ⟨h.request, h.status, h.active⟩
    | requestCancel reason => exact ⟨by simp [Outside.step, h.active], rfl, h.active⟩

theorem Requested.update {id : Option ℕ} (h : Requested id w) {u : OrderUpdate}
    (hs : u.status? = some .canceledRequested)
    (hu : (u.apply w.order).activeExchangeOrderId = w.order.activeExchangeOrderId) :
    Requested id (w.update u) := by
  refine ⟨?_, ?_, hu.trans h.active⟩
  · simp [World.update, hs, h.status, h.request]
  · rw [World.update_order, OrderUpdate.apply_status, hs]
    rfl

/-- The pass that is under way has read the request. -/
structure Asked (id : Option ℕ) (w : World) : Prop extends Requested id w where
  read : w.rowRead.status = .canceledRequested

theorem Asked.interfere {id : Option ℕ} {i : Interference} (h : Asked id w)
    (hi : SparesRequest w i) : Asked id (i.step w) := by
  cases i with
  | outside o =>
    have hstep := h.toRequested.outside { before := [o] }
    exact ⟨hstep, by
      rw [Interference.step, (World.Evolves.step o w).rowRead]
      exact h.read⟩
  | sibling write =>
    simp only [Interference.step]
    split
    · rename_i hlisted
      cases hs : write.statement.status? with
      | none =>
        have hkept := h.toRequested
        refine ⟨⟨?_, ?_, ?_⟩, h.read⟩
        · simp [World.update, hs, h.request]
        · rw [World.update_order, OrderUpdate.apply_status, hs]
          exact h.status
        · rw [World.update_order, OrderUpdate.apply_activeExchangeOrderId,
            OrderUpdate.activeId_of_status hs]
          exact h.active
      | some s =>
        obtain ⟨hkeeps, hread⟩ := hi hlisted (by simp [h.request]) s hs
        obtain rfl := hread h.read h.status
        obtain ⟨-, hactive⟩ | ⟨hstatus, -⟩ | ⟨hstatus, -⟩ := hkeeps
        · exact ⟨h.toRequested.update hs hactive, h.read⟩
        · cases hstatus
        · cases hstatus
    · exact h

theorem Asked.disturb {id : Option ℕ} (h : Asked id w) {r : AmongReply}
    (hr : r.Disturbs SparesRequest w) : Asked id (r.disturb w) :=
  hr.keeps (fun _ _ h hi => h.interfere hi) h

theorem Asked.arrive {id : Option ℕ} (h : Asked id w) {r : AmongReply}
    (hr : r.Disturbs SparesRequest w) : Asked id (r.arrive w) where
  toRequested := (h.disturb hr).toRequested.outside r.reply
  read := by
    rw [AmongReply.arrive, (World.Evolves.arrive r.reply _).rowRead]
    exact (h.disturb hr).read

/-- Calls that this world always answers and that leave row and exchange alone. -/
def Calm : Call → Prop
  | .getOrder | .latestOrder | .update _ | .status _ | .cancel _ | .place _ => False
  | _ => True

theorem Calm.noRead {c : Call} (h : Calm c) : NoRead c := by
  rintro rfl
  exact h

theorem Calm.sameRow {c : Call} (h : Calm c) (w : World) (r : AmongReply) :
    (r.arrive w).SameRow (actAmong c w r).2 := by
  obtain hs | ⟨u, rfl, -⟩ := act_row h.noRead (r.disturb w) r.reply
  · exact hs
  · exact absurd h id

theorem Calm.answers {c : Call} (h : Calm c) {r : AmongReply} (hr : r.reply.fails = none)
    (w : World) : ∃ a, (actAmong c w r).1 = .ok a := by
  cases c <;> first | exact absurd h id | simp [actAmong, act, hr, answer]

theorem Requested.sameRow {id : Option ℕ} {w' : World} (h : Requested id w)
    (hs : w.SameRow w') : Requested id w' :=
  ⟨hs.cancelRequest.trans h.request, hs.order ▸ h.status, hs.order ▸ h.active⟩

theorem Asked.calm {id : Option ℕ} {c : Call} {r : AmongReply} (h : Asked id (r.arrive w))
    (hc : Calm c) : Asked id (actAmong c w r).2 := by
  have hs := hc.sameRow w r
  exact ⟨h.toRequested.sameRow hs, by rw [hs.rowRead]; exact h.read⟩

theorem CancelKept.unlost (h : CancelKept w) (hr : ¬ w.requestRead) : Unlost w := by
  refine ⟨h, fun hp => ?_⟩
  cases hu : w.unreadRequest with
  | true => rfl
  | false => exact absurd ⟨hp, hu⟩ hr

theorem fails_keeps {r : AmongReply} {c : Call} (hok : CancelOk handled now c w r)
    (hf : r.reply.fails ≠ none) (hk : CancelKept (r.arrive w)) :
    ErrorKeeps handled (r.arrive w) :=
  ⟨hk, fun hh => hk.unlost fun hread => hf (hok.fails hh hread)⟩

section Rules
variable {Q : Except ErrorText β → World → Prop}

theorem calm_bind {R : World → Prop} {c : Call} {f : Answer c → Job β} (hc : Calm c)
    (hQ : ∀ e w', ErrorKeeps handled w' → Q (.error e) w')
    (hR : ∀ w r, R w → CancelOk handled now c w r → R (r.arrive w) ∧ R (actAmong c w r).2)
    (hk : ∀ w, R w → CancelKept w) (hw : R w)
    (hf : ∀ a r, CancelOk handled now c w r → (actAmong c w r).1 = .ok a → R (r.arrive w) →
      R (actAmong c w r).2 → wp actAmong (CancelOk handled now) (f a) Q (actAmong c w r).2) :
    wp actAmong (CancelOk handled now) (Job.run c >>= f) Q w := by
  rw [wp_bind, Job.run, wp_perform]
  intro r hok
  obtain ⟨harrive, hnext⟩ := hR w r hw hok
  cases hfail : r.reply.fails with
  | some failure =>
    rw [actAmong_fails hfail]
    exact hQ _ _ (fails_keeps hok (by simp [hfail]) (hk _ harrive))
  | none =>
    obtain ⟨a, ha⟩ := hc.answers hfail w
    have hf := hf a r hok ha harrive hnext
    rw [ha]
    exact hf

theorem update_bind {R S : World → Prop} {u : OrderUpdate} {f : Unit → Job β}
    (hQ : ∀ e w', ErrorKeeps handled w' → Q (.error e) w')
    (hR : ∀ w r, R w → CancelOk handled now (.update u) w r → R (AmongReply.arrive r w))
    (hk : ∀ w, R w → CancelKept w) (hu : ∀ w, R w → S (w.update u)) (hw : R w)
    (hf : ∀ a w', S w' → wp actAmong (CancelOk handled now) (f a) Q w') :
    wp actAmong (CancelOk handled now) (Job.update u >>= f) Q w := by
  rw [wp_bind, Job.update, Job.run, wp_perform]
  intro r hok
  have harrive := hR w r hw hok
  cases hfail : r.reply.fails with
  | some failure =>
    rw [actAmong_fails hfail]
    exact hQ _ _ (fails_keeps hok (by simp [hfail]) (hk _ harrive))
  | none =>
    rw [actAmong_answers hfail]
    exact hf () _ (hu _ harrive)

theorem kept_bind {c : Call} {f : Answer c → Job β} (hc : Calm c)
    (hQ : ∀ e w', ErrorKeeps handled w' → Q (.error e) w') (hw : CancelKept w)
    (hf : ∀ a w', CancelKept w' → wp actAmong (CancelOk handled now) (f a) Q w') :
    wp actAmong (CancelOk handled now) (Job.run c >>= f) Q w := by
  refine calm_bind hc hQ (fun w r h hok => ?_) (fun _ h => h) hw fun a _ _ _ _ h => hf a _ h
  have harrive := h.arrive hok.siblings
  exact ⟨harrive, harrive.sameRow (hc.sameRow w r)⟩

theorem asked_bind {id : Option ℕ} {c : Call} {f : Answer c → Job β} (hc : Calm c)
    (hQ : ∀ e w', ErrorKeeps handled w' → Q (.error e) w') (hw : Asked id w)
    (hf : ∀ a r w', CancelOk handled now c w r → (actAmong c w r).1 = .ok a →
      Asked id (r.arrive w) → w' = (actAmong c w r).2 → Asked id w' →
        wp actAmong (CancelOk handled now) (f a) Q w') :
    wp actAmong (CancelOk handled now) (Job.run c >>= f) Q w := by
  refine calm_bind hc hQ (fun w r h hok => ?_) (fun _ h => h.toRequested.kept) hw
    fun a r hok hx ha h => hf a r _ hok hx ha rfl h
  have harrive := h.arrive hok.siblings
  exact ⟨harrive, harrive.calm hc⟩

theorem asked_goes {id : Option ℕ} {c : Call} {f : Answer c → Job β} (hc : Calm c)
    (hQ : ∀ e w', ErrorKeeps handled w' → Q (.error e) w') (hw : Asked id w)
    (hf : ∀ a w', Asked id w' → wp actAmong (CancelOk handled now) (f a) Q w') :
    wp actAmong (CancelOk handled now) (Job.run c >>= f) Q w :=
  asked_bind hc hQ hw fun a _ w' _ _ _ _ h => hf a w' h

theorem asked_update {id : Option ℕ} {S : World → Prop} {u : OrderUpdate} {f : Unit → Job β}
    (hQ : ∀ e w', ErrorKeeps handled w' → Q (.error e) w') (hw : Asked id w)
    (hu : ∀ w, Asked id w → S (w.update u))
    (hf : ∀ a w', S w' → wp actAmong (CancelOk handled now) (f a) Q w') :
    wp actAmong (CancelOk handled now) (Job.update u >>= f) Q w :=
  update_bind hQ (fun _ _ h hok => h.arrive hok.siblings) (fun _ h => h.toRequested.kept) hu hw hf

end Rules

theorem kept_event (name : String) (hw : CancelKept w) :
    wp actAmong (CancelOk handled now) (Job.event name) (Keeps handled) w := by
  rw [← Prog.bind_pure (Job.event name)]
  exact kept_bind (c := .appendEvent name) trivial (fun _ _ h => h) hw fun _ _ h => h

theorem kept_lastSeen (price : ℚ) (hw : CancelKept w) :
    wp actAmong (CancelOk handled now) (Job.update (.setLastSeenPrice price)) (Keeps handled)
      w := by
  rw [← Prog.bind_pure (Job.update _)]
  refine update_bind (R := CancelKept) (S := CancelKept) (fun _ _ h => h)
    (fun _ _ h hok => h.arrive hok.siblings) (fun _ h => h) (fun _ h => h.update fun _ s hs => ?_)
    hw fun _ _ h => h
  cases hs

theorem Requested.canceled {id : Option ℕ} (h : Requested id w) (hs : Stopped w id)
    {u : OrderUpdate} (hu : u.status? = some .canceled) : CancelKept (w.update u) := by
  refine h.kept.update fun _ s hst => ?_
  rw [hu, Option.some.injEq] at hst
  refine .inr (.inl ⟨hst.symm, fun id' hid => ?_⟩)
  rw [h.request, Option.mem_some_iff] at hid
  exact hid ▸ hs

theorem asked_cancels {Q : Except ErrorText β → World → Prop} {id : Option ℕ} {u : OrderUpdate}
    {f : Unit → Job β} (hQ : ∀ e w', ErrorKeeps handled w' → Q (.error e) w') (hw : Asked id w)
    (hstop : Stopped w id) (hu : u.status? = some .canceled)
    (hf : ∀ a w', CancelKept w' → wp actAmong (CancelOk handled now) (f a) Q w') :
    wp actAmong (CancelOk handled now) (Job.update u >>= f) Q w :=
  update_bind (R := fun w => Asked id w ∧ Stopped w id) (S := CancelKept) hQ
    (fun _ r h hok => ⟨h.1.arrive hok.siblings, h.2.arriveAmong r⟩)
    (fun _ h => h.1.toRequested.kept) (fun _ h => h.1.toRequested.canceled h.2 hu) ⟨hw, hstop⟩ hf

/-- The exchange order is canceled, the row is still to follow. -/
structure Closing (n : ℕ) (w : World) : Prop where
  asked : Asked (some n) w
  stopped : Stopped w (some n)

theorem closing_keeps {n : ℕ} (hw : Closing n w) :
    wp actAmong (CancelOk handled now) (do
      Job.statement .markOrderStatus
      Job.update (.clearActiveExchangeOrder .canceled)
      Job.event "cancel_requested") (Keeps handled) w := by
  refine calm_bind (c := .elsewhere .markOrderStatus) (R := Closing n) trivial
    (fun _ _ h => h) (fun w r h hok => ?_) (fun _ h => h.asked.toRequested.kept) hw
    fun _ _ _ _ _ hw => ?_
  · have harrive := h.asked.arrive hok.siblings
    exact ⟨⟨harrive, h.stopped.arriveAmong r⟩, harrive.calm trivial,
      h.stopped.callAmong _ r⟩
  · exact asked_cancels (fun _ _ h => h) hw.asked hw.stopped rfl fun _ _ hw => kept_event _ hw

theorem cancelRequested_keeps {n : ℕ} (hw : Asked (some n) w) :
    wp actAmong (CancelOk handled now) (reconcileCancelRequested n) (Keeps handled) w := by
  rw [reconcileCancelRequested, wp_bind, Job.run, wp_perform]
  intro r hok
  have ha := hw.arrive hok.siblings
  have herr : ((r.arrive w).requestRead → handled = true → False) →
      ErrorKeeps handled (r.arrive w) := fun h =>
    ⟨ha.toRequested.kept, fun hh => ha.toRequested.kept.unlost fun hread => h hread hh⟩
  cases hfail : r.reply.fails with
  | some failure =>
    rw [actAmong_fails hfail]
    exact herr fun hread hh => by simp [hok.fails hh hread] at hfail
  | none =>
    rw [actAmong_answers hfail]
    have hmatched := hok.cancel n rfl
    have hignored := hok.canceled n rfl
    have hanswer := answer_cancel n (r.arrive w) r.reply
    generalize answer (.cancel n) (r.arrive w) r.reply = x at hanswer ⊢
    cases hanswer with
    | ignored h => exact closing_keeps ⟨ha, hignored h⟩
    | canceled e he hm =>
      exact closing_keeps ⟨⟨⟨ha.request, ha.status, ha.active⟩, ha.read⟩, stopped_cancel he⟩
    | matched e he hm =>
      refine herr fun hread hh => ?_
      obtain ⟨e', he', hm'⟩ := hmatched hh hread
      rw [he, Option.some.injEq] at he'
      exact hm' (he' ▸ hm)
    | unknown he =>
      refine herr fun hread hh => ?_
      obtain ⟨e, he', -⟩ := hmatched hh hread
      rw [he] at he'
      cases he'

/-- The row of an order that is asked to cancel, as the pass read it. -/
structure AsksCancel (order : TradeBuilderOrder) (id : Option ℕ) : Prop where
  status : order.status = .canceledRequested
  active : order.activeExchangeOrderId = id

/-- What the take-profit stage makes of such an order: it is still asked to cancel, or it was
canceled at once because it had no exchange order. -/
def PreemptKeeps (id : Option ℕ) (order : TradeBuilderOrder) (preempted : Bool) (w : World) :
    Prop :=
  AsksCancel order id ∧ Asked id w ∨
    order.activeExchangeOrderId = none ∧ preempted = true ∧ CancelKept w

theorem processPreempted_keeps {id : Option ℕ} {preempted : Bool} (price : RuntimePrice)
    (hw : PreemptKeeps id order preempted w) :
    wp actAmong (CancelOk handled now) (processPreempted order preempted price) (Keeps handled)
      w := by
  have hkept : CancelKept w := hw.elim (fun h => h.2.toRequested.kept) fun h => h.2.2
  refine wp_ite (fun _ => kept_lastSeen _ hkept) fun hgo => ?_
  obtain ⟨ho, hw⟩ | ⟨ha, hp, -⟩ := hw
  · cases hid : order.activeExchangeOrderId with
    | some n =>
      have hn : Asked (some n) w := by rw [← hid, ho.active]; exact hw
      have hrec : wp actAmong (CancelOk handled now)
          (reconcileTradeBuilderOpenOrder order n price.price price.bestAsk) (Keeps handled) w :=
        wp_ite (fun _ => cancelRequested_keeps hn) fun h => absurd ho.status h
      exact wp_bind_of hrec (fun _ w hw => kept_lastSeen _ hw) fun _ _ h => h
    | none =>
      have hn : Asked none w := by rw [← hid, ho.active]; exact hw
      refine wp_ite (fun _ => ?_) fun h => absurd ho.status h
      exact asked_update (S := CancelKept) (fun _ _ h => h) hn
        (fun _ h => h.toRequested.canceled (by simp [Stopped]) rfl) fun _ _ hw => kept_event _ hw
  · exact absurd ⟨hp, by simp [ha]⟩ hgo

theorem preemptTakeProfit_keeps {id : Option ℕ} (price : RuntimePrice)
    (ho : AsksCancel order id) (hw : Asked id w) :
    wp actAmong (CancelOk handled now) (do
      let (order, preempted) ← maybePreemptTradeBuilderTakeProfit order
      processPreempted order preempted price) (Keeps handled) w := by
  rw [wp_bind]
  refine wp_ite (fun _ => processPreempted_keeps _ (.inl ⟨ho, hw⟩)) fun _ => ?_
  refine asked_goes trivial (fun _ _ h => h) hw fun preemption w hw => ?_
  cases preemption with
  | none => exact processPreempted_keeps _ (.inl ⟨ho, hw⟩)
  | deferred =>
    exact asked_goes (c := .appendEvent _) trivial (fun _ _ h => h) hw fun _ w hw =>
      processPreempted_keeps _ (.inl ⟨ho, hw⟩)
  | preempted =>
    refine asked_goes (c := .elsewhere _) trivial (fun _ _ h => h) hw fun _ w hw => ?_
    cases hid : order.activeExchangeOrderId with
    | some n =>
      have hc : cancelStatus order = .canceledRequested := by simp [cancelStatus, hid]
      rw [hc]
      refine asked_update (S := Asked id) (fun _ _ h => h) hw
        (fun _ h => ⟨h.toRequested.update rfl rfl, h.read⟩) fun _ w hw => ?_
      exact asked_goes (c := .appendEvent _) trivial (fun _ _ h => h) hw fun _ w hw =>
        processPreempted_keeps _ (.inl ⟨⟨rfl, hid ▸ ho.active⟩, hw⟩)
    | none =>
      have hc : cancelStatus order = .canceled := by simp [cancelStatus, hid]
      have hnone : id = none := ho.active.symm.trans hid
      rw [hc]
      refine asked_update (S := CancelKept) (fun _ _ h => h) hw
        (fun _ h => h.toRequested.canceled (by simp [Stopped, hnone]) rfl) fun _ w hw => ?_
      refine kept_bind (c := .appendEvent _) trivial (fun _ _ h => h) hw fun _ w hw => ?_
      exact processPreempted_keeps _
        ((.inr ⟨rfl, rfl, hw⟩ : PreemptKeeps none { order with
          status := .canceled, lastError := some (text "sl_priority_preempted")
          activeExchangeOrderId := none } true w))

theorem processPriced_keeps {id : Option ℕ} (price : RuntimePrice) (ho : AsksCancel order id)
    (hw : Asked id w) :
    wp actAmong (CancelOk handled now) (processPriced order price) (Keeps handled) w :=
  asked_goes (c := .elsewhere _) trivial (fun _ _ h => h) hw fun _ _ hw =>
    preemptTakeProfit_keeps _ ho hw

theorem processStage_keeps {id : Option ℕ} (ho : AsksCancel order id) (hw : Asked id w) :
    wp actAmong (CancelOk handled now) (do
      match ← Job.run .runtimePrice with
      | none => Job.event "price_unavailable_retry"
      | some price => processPriced order price) (Keeps handled) w := by
  refine asked_goes trivial (fun _ _ h => h) hw fun price w hw => ?_
  cases price with
  | none => exact kept_event _ hw.toRequested.kept
  | some price => exact processPriced_keeps _ ho hw

theorem Unlost.calm {c : Call} {r : AmongReply} (h : Unlost (r.arrive w)) (hc : Calm c)
    (hk : CancelKept (actAmong c w r).2) : Unlost (actAmong c w r).2 := by
  have hs := hc.sameRow w r
  exact ⟨hk, by rw [hs.cancelRequest, hs.unreadRequest]; exact h.unread⟩

theorem answered {c : Call} {r : AmongReply} {a : Answer c} (hx : (actAmong c w r).1 = .ok a) :
    r.reply.fails = none := by
  cases hfail : r.reply.fails with
  | some failure => simp [actAmong_fails hfail] at hx
  | none => rfl

theorem staleOrder_keeps {id : Option ℕ} {f : Bool → Job β} (hw : Asked id w)
    (hrest : ∀ b, Only NoRead (f b))
    (hf : ∀ w', Asked id w' → wp actAmong (CancelOk handled now) (f false) (Keeps handled) w') :
    wp actAmong (CancelOk handled now) (maybeExpireTradeBuilderStaleOrder order >>= f)
      (Keeps handled) w := by
  rw [wp_bind]
  refine wp_ite (fun _ => hf w hw) fun _ => ?_
  refine asked_bind (c := .check .staleMarket) trivial (fun _ _ h => h) hw
    fun stale r w' hok hx ha hsame hw' => wp_ite (fun hstale => ?_) fun _ => hf _ hw'
  by_cases hread : (r.arrive w).requestRead
  · have hr := answered hx
    simp only [actAmong_answers hr, answer, hok.market rfl hread, Except.ok.injEq] at hx
    rw [← hx] at hstale
    cases hstale
  · have hun : Unlost w' := by
      rw [hsame]
      exact (ha.toRequested.kept.unlost hread).calm trivial (hsame ▸ hw'.toRequested.kept)
    exact (wp_bind _ f (Keeps handled) _).mp (unlost_end (.bind (routine_noRead
      (.bind (update_routine _) fun _ => .bind (event_routine _) fun _ =>
        .bind (only_when (statement_routine _)) fun _ => .bind (statement_routine _) fun _ =>
          only_pure true)) hrest) hun)

theorem unwindSelf_keeps {id : Option ℕ} {f : Unit → Job β} (hw : Asked id w)
    {Q : Except ErrorText β → World → Prop}
    (hQ : ∀ e w', ErrorKeeps handled w' → Q (.error e) w')
    (hf : ∀ a w', Asked id w' → wp actAmong (CancelOk handled now) (f a) Q w') :
    wp actAmong (CancelOk handled now) (unwindSelf >>= f) Q w := by
  rw [wp_bind]
  refine asked_bind (c := .childRow) trivial (fun e w h => hQ e w h) hw
    fun row r w' _ hx ha hsame hw' => ?_
  have hrow : row.status = .canceledRequested := by
    simp only [actAmong_answers (answered hx), answer, Except.ok.injEq] at hx
    rw [← hx]
    exact ha.status
  have hskip : ¬ (¬ tradeBuilderIsTerminalStatus row.status ∧ row.filledQty ≤ 0) := by
    simp [hrow, tradeBuilderIsTerminalStatus]
  simp only [Job.when, hskip, if_false]
  refine (wp_bind (Job.statement .scheduleUnwind) f Q _).mp ?_
  exact asked_goes (c := .elsewhere .scheduleUnwind) trivial hQ hw' hf

theorem pairLockAction_keeps {id : Option ℕ} {f : Stage TradeBuilderOrder → Job Unit}
    {action : PairLockAction} (ho : AsksCancel order id) (hw : Asked id w)
    (haction : action.letsCancel w) (hends : f .ends = pure ())
    (hf : ∀ order w', AsksCancel order id → Asked id w' →
      wp actAmong (CancelOk handled now) (f (.goes order)) (Keeps handled) w') :
    wp actAmong (CancelOk handled now) (applyPairLockAction order action >>= f) (Keeps handled)
      w := by
  have hdone : ∀ w, CancelKept w →
      wp actAmong (CancelOk handled now) (f .ends) (Keeps handled) w := by
    intro w h
    rw [hends]
    exact h
  rw [wp_bind]
  cases action with
  | proceed cap =>
    cases cap with
    | none => exact hf _ _ ho hw
    | some cap => exact hf _ _ ⟨ho.status, ho.active⟩ hw
  | wait => exact hdone _ hw.toRequested.kept
  | hold => exact haction.elim
  | sessionClosed =>
    refine wp_ite (fun _ => ?_) fun h => absurd (by simp [ho.status,
      isTradeBuilderOrderProcessableStatus]) h
    exact asked_cancels (fun _ _ h => h) hw (haction id hw.request) rfl fun _ w h => hdone w h
  | cancel reason =>
    refine asked_cancels (fun _ _ h => h) hw (haction id hw.request) rfl fun _ w hw => ?_
    refine kept_bind (c := .elsewhere .closePairSession) trivial (fun _ _ h => h) hw
      fun _ w hw => ?_
    exact kept_bind (c := .appendEvent _) trivial (fun _ _ h => h) hw fun _ w h => hdone w h
  | unwind =>
    exact unwindSelf_keeps hw (fun _ _ h => h) fun _ w h => hdone w h.toRequested.kept
  | rebase sizeBasis sizeUsdc targetQty remainingSize remainingQty eligibleBeforeAt =>
    obtain ⟨n, hn⟩ := haction
    rw [hw.request, Option.some.injEq] at hn
    refine wp_ite (fun _ => hf _ _ ho hw) fun h => absurd ?_ h
    simp [pairLockCounterHasStartedSubmitLifecycle, ho.active, hn]

theorem pairLockStage_keeps {id : Option ℕ} {f : Stage TradeBuilderOrder → Job Unit}
    (ho : AsksCancel order id) (hw : Asked id w) (hends : f .ends = pure ())
    (hrest : ∀ stage, Only NoRead (f stage))
    (hf : ∀ order w', AsksCancel order id → Asked id w' →
      wp actAmong (CancelOk handled now) (f (.goes order)) (Keeps handled) w') :
    wp actAmong (CancelOk handled now) (maybeApplyTradeBuilderPairLockRuntime order >>= f)
      (Keeps handled) w := by
  rw [wp_bind]
  refine wp_ite (fun _ => hf _ _ ho hw) fun _ => ?_
  refine asked_bind (c := .pairLockRuntime) trivial (fun _ _ h => h) hw
    fun action r w' hok hx ha hsame hw' => ?_
  have hr := answered hx
  by_cases hread : (r.arrive w).requestRead
  · have haction : action.letsCancel w' := by
      have hlets := hok.pairLock rfl hread
      simp only [actAmong_answers hr, answer, Except.ok.injEq] at hx hsame
      rw [hsame]
      exact hx ▸ hlets
    exact (wp_bind _ f (Keeps handled) _).mp
      (pairLockAction_keeps ho hw' haction hends hf)
  · have hun : Unlost w' := by
      rw [hsame]
      exact (ha.toRequested.kept.unlost hread).calm trivial (hsame ▸ hw'.toRequested.kept)
    exact (wp_bind _ f (Keeps handled) _).mp
      (unlost_end (.bind (routine_noRead (applyPairLockAction_routine _ action)) hrest) hun)

theorem afterPairLock_noRead (stage : Stage TradeBuilderOrder) : Only NoRead (do
    match stage with
    | .ends => pure ()
    | .goes order =>
      match ← Job.run .runtimePrice with
      | none => Job.event "price_unavailable_retry"
      | some price => processPriced order price) := by
  cases stage with
  | ends => trivial
  | goes order =>
    refine .bind (routine_noRead (run_routine trivial)) fun price => ?_
    cases price with
    | none => exact routine_noRead (event_routine _)
    | some price => exact processPriced_noRead order price

theorem processLive_keeps {id : Option ℕ} (ho : AsksCancel order id) (hw : Asked id w)
    (hwindow : classifyTradeBuilderOrderEligibilityWindow order now ≠ .expire) :
    wp actAmong (CancelOk handled now) (processLive order now) (Keeps handled) w := by
  rw [processLive, wp_bind, maybeHandleEligibilityWindow]
  cases hc : classifyTradeBuilderOrderEligibilityWindow order now with
  | expire => exact absurd hc hwindow
  | wait => exact hw.toRequested.kept
  | allow =>
    refine staleOrder_keeps hw (fun stale => only_ite (fun _ => trivial) fun _ =>
      .bind (routine_noRead (pairLockRuntime_routine _)) afterPairLock_noRead) fun w hw => ?_
    exact pairLockStage_keeps ho hw rfl afterPairLock_noRead fun order w ho hw =>
      processStage_keeps ho hw

theorem processOrder_keeps {id : Option ℕ} (ho : AsksCancel order id) (hw : Asked id w)
    (hfired : order.triggersFired < order.maxTriggers) (hexpired : orderExpired order now = false)
    (hwindow : classifyTradeBuilderOrderEligibilityWindow order now ≠ .expire) :
    wp actAmong (CancelOk handled now) (processOrder order now) (Keeps handled) w := by
  refine wp_ite (fun _ => hw.toRequested.kept) fun _ => ?_
  refine wp_ite (fun h => absurd h.1 (not_le.mpr hfired)) fun _ => ?_
  refine wp_ite (fun h => absurd h (by simp [hexpired])) fun _ => ?_
  exact processLive_keeps ho hw hwindow

theorem process_keeps (hw : CancelKept w) :
    wp actAmong (CancelOk handled now) (processTradeBuilderOrder now) (Keeps handled) w := by
  rw [processTradeBuilderOrder, wp_bind, Job.run, wp_perform]
  intro r hok
  have ha := hw.arrive hok.siblings
  cases hfail : r.reply.fails with
  | some failure =>
    rw [actAmong_fails hfail]
    exact fails_keeps hok (by simp [hfail]) ha
  | none =>
    rw [actAmong_answers hfail]
    simp only [answer]
    have hrow := hok.row rfl
    generalize r.arrive w = w at ha hrow
    by_cases hreq : w.cancelRequest.isSome = true
    · obtain ⟨id, hid⟩ := Option.isSome_iff_exists.mp hreq
      obtain ⟨hs, hactive⟩ | ⟨hs, -⟩ := ha id hid
      · obtain ⟨hfired, hexpired, hwindow⟩ := hrow hs
        exact processOrder_keeps ⟨hs, hactive⟩ ⟨⟨hid, hs, hactive⟩, hs⟩ hfired hexpired hwindow
      · refine wp_ite (fun _ => ha.read) fun h => absurd ?_ h
        simp [isProcessable, hs, isTradeBuilderOrderProcessableStatus]
    · exact unlost_end (processOrder_noRead _ now) ⟨ha.read, fun h => absurd h hreq⟩

theorem housekeepingPass_keeps (hw : CancelKept w) :
    wp actAmong (CancelOk true now) (housekeepingPass now) (fun _ => CancelKept) w := by
  have hjob : wp actAmong (CancelOk true now)
      (do Job.statement .loadUser; processTradeBuilderOrder now) (Keeps true) w :=
    kept_bind (c := .elsewhere .loadUser) trivial (fun _ _ h => h) hw fun _ _ hw =>
      process_keeps hw
  rw [housekeepingPass, wp_bind, wp_attempt]
  refine wp_mono hjob fun x w' h => ?_
  cases x with
  | ok a => exact h
  | error e =>
    refine wp_mono (unlost_end (routine_noRead (handleProcessingError_routine e)) (h.2 rfl)) ?_
    intro x w h
    cases x with
    | ok a => exact h
    | error e => exact h.1

theorem directPass_keeps (hw : CancelKept w) :
    wp actAmong (CancelOk false now) (directPass now) (fun _ => CancelKept) w := by
  rw [directPass, Job.ignore, wp_bind, wp_attempt]
  refine wp_mono (process_keeps hw) fun x w' h => ?_
  cases x with
  | ok a => exact h
  | error e => exact h.1

theorem cancelTurn_keeps {t : AmongPass} (hw : CancelKept w) (ht : CancelTurn w t) :
    CancelKept (Turn.step actAmong Interference.step w t) := by
  cases t with
  | environment i => exact hw.interfere ht
  | pass p replies =>
    obtain ⟨now, ⟨rfl, hm⟩ | ⟨rfl, hm⟩⟩ := ht
    · exact wp_sound actAmong _ (housekeepingPass_keeps hw) hm
    · exact wp_sound actAmong _ (directPass_keeps hw) hm

/-- The request is carried out. -/
structure CancelDone (id : Option ℕ) (w : World) : Prop where
  status : w.order.status = .canceled
  stopped : Stopped w id

/-- How a pass that carries the request out ends. -/
def Served {α : Type} (id : Option ℕ) (x : Except ErrorText α) (w : World) : Prop :=
  x.isOk = true ∧ CancelDone id w

section Served
variable {id : Option ℕ}

theorem CancelServed.arrive_eq {c : Call} {r : AmongReply} (h : CancelServed now c w r) :
    r.arrive w = w := by
  simp [AmongReply.arrive, AmongReply.disturb, Reply.arrive, h.quiet.1, h.quiet.2]

theorem CancelServed.act_eq {c : Call} {r : AmongReply} (h : CancelServed now c w r) :
    actAmong c w r = answer c w r.reply := by
  rw [actAmong_answers h.answers, h.arrive_eq]

theorem CancelServed.sameRow {c : Call} {r : AmongReply} (h : CancelServed now c w r)
    (hc : Calm c) : w.SameRow (actAmong c w r).2 := by
  have hs := hc.sameRow w r
  rwa [h.arrive_eq] at hs

theorem CancelServed.stopped {c : Call} {r : AmongReply} (h : CancelServed now c w r)
    (hs : Stopped w id) : Stopped (actAmong c w r).2 id := by
  refine Stopped.after (w := r.disturb w) ?_
  have harrive := h.arrive_eq
  rw [AmongReply.arrive] at harrive
  rwa [harrive]

theorem served_bind {Q : Except ErrorText β → World → Prop} {c : Call} {f : Answer c → Job β}
    (hc : Calm c)
    (hf : ∀ a r, CancelServed now c w r → (answer c w r.reply).1 = .ok a →
      wp actAmong (CancelServed now) (f a) Q (actAmong c w r).2) :
    wp actAmong (CancelServed now) (Job.run c >>= f) Q w := by
  rw [wp_bind, Job.run, wp_perform]
  intro r hok
  obtain ⟨a, ha⟩ := hc.answers hok.answers w
  have hfa := hf a r hok (by rw [← hok.act_eq, ha])
  rw [ha]
  exact hfa

theorem served_requested {Q : Except ErrorText β → World → Prop} {c : Call}
    {f : Answer c → Job β} (hc : Calm c) (hw : Requested id w)
    (hf : ∀ a r w', CancelServed now c w r → (answer c w r.reply).1 = .ok a → Requested id w' →
      wp actAmong (CancelServed now) (f a) Q w') :
    wp actAmong (CancelServed now) (Job.run c >>= f) Q w :=
  served_bind hc fun a r hok ha => hf a r _ hok ha (hw.sameRow (hok.sameRow hc))

theorem served_update {Q : Except ErrorText β → World → Prop} {u : OrderUpdate}
    {f : Unit → Job β} (hf : wp actAmong (CancelServed now) (f ()) Q (w.update u)) :
    wp actAmong (CancelServed now) (Job.update u >>= f) Q w := by
  rw [wp_bind, Job.update, Job.run, wp_perform]
  intro r hok
  rw [hok.act_eq]
  exact hf

theorem done_bind {Q : Except ErrorText β → World → Prop} {c : Call} {f : Answer c → Job β}
    (hc : Calm c) (hw : CancelDone id w)
    (hf : ∀ a w', CancelDone id w' → wp actAmong (CancelServed now) (f a) Q w') :
    wp actAmong (CancelServed now) (Job.run c >>= f) Q w := by
  refine served_bind hc fun a r hok _ => hf a _ ⟨?_, hok.stopped hw.stopped⟩
  rw [(hok.sameRow hc).order]
  exact hw.status

theorem done_lastSeen (price : ℚ) (hw : CancelDone id w) :
    wp actAmong (CancelServed now) (Job.update (.setLastSeenPrice price)) (Served id)
      w := by
  rw [← Prog.bind_pure (Job.update _)]
  exact served_update ⟨rfl, hw.status, hw.stopped⟩

theorem done_event (name : String) (hw : CancelDone id w) :
    wp actAmong (CancelServed now) (Job.event name) (Served id) w := by
  rw [← Prog.bind_pure (Job.event name)]
  exact done_bind (c := .appendEvent name) trivial hw fun _ _ h => ⟨rfl, h⟩

theorem cancelRequested_done {n : ℕ} :
    wp actAmong (CancelServed now) (reconcileCancelRequested n) (Served (some n)) w := by
  rw [reconcileCancelRequested, wp_bind, Job.run, wp_perform]
  intro r hok
  obtain ⟨hcancels, e, he, hm⟩ := hok.cancel n rfl
  rw [hok.act_eq]
  simp only [answer, hcancels, he, hm, if_false]
  refine served_bind (c := .elsewhere .markOrderStatus) trivial fun _ r hok _ => ?_
  exact served_update (done_event _ ⟨rfl, hok.stopped (stopped_cancel he)⟩)

theorem processPreempted_done {preempted : Bool} (price : RuntimePrice)
    (ho : AsksCancel order id) (hw : Requested id w) (hgo : preempted = true → id.isSome = true) :
    wp actAmong (CancelServed now) (processPreempted order preempted price)
      (Served id) w := by
  obtain ⟨hs, rfl⟩ := ho
  refine wp_ite (fun h => absurd (hgo h.1) (by simpa using h.2)) fun _ => ?_
  cases hid : order.activeExchangeOrderId with
  | some n =>
    have hrec : wp actAmong (CancelServed now)
        (reconcileTradeBuilderOpenOrder order n price.price price.bestAsk)
        (Served (some n)) w :=
      wp_ite (fun _ => cancelRequested_done) fun h => absurd hs h
    exact wp_bind_of hrec (fun _ w hw => done_lastSeen _ hw.2) fun _ _ h =>
      absurd h.1 (by simp [Except.isOk, Except.toBool])
  | none =>
    refine wp_ite (fun _ => ?_) fun h => absurd hs h
    exact served_update (done_event _ ⟨rfl, by simp [Stopped]⟩)

theorem preemptTakeProfit_done (price : RuntimePrice) (ho : AsksCancel order id)
    (hw : Requested id w) :
    wp actAmong (CancelServed now) (do
      let (order, preempted) ← maybePreemptTradeBuilderTakeProfit order
      processPreempted order preempted price) (Served id) w := by
  rw [wp_bind]
  refine wp_ite (fun _ => processPreempted_done _ ho hw (by simp)) fun _ => ?_
  refine served_requested (c := .takeProfitPreemption) trivial hw fun preemption r w' hok hx hw' => ?_
  cases preemption with
  | none => exact processPreempted_done _ ho hw' (by simp)
  | deferred =>
    have hactive : id.isSome = true := by
      rw [← hw.active]
      simp only [answer, Except.ok.injEq] at hx
      exact hok.preemption rfl hx
    exact served_requested (c := .appendEvent _) trivial hw' fun _ _ w _ _ hw =>
      processPreempted_done _ ho hw fun _ => hactive
  | preempted =>
    refine served_requested (c := .elsewhere _) trivial hw' fun _ _ w _ _ hw => ?_
    cases hid : order.activeExchangeOrderId with
    | some n =>
      have hc : cancelStatus order = .canceledRequested := by simp [cancelStatus, hid]
      rw [hc]
      refine served_update ?_
      refine served_requested (c := .appendEvent _) trivial (hw.update rfl rfl)
        fun _ _ w _ _ hw => ?_
      exact processPreempted_done _ ⟨rfl, hid ▸ ho.active⟩ hw fun _ => by
        rw [← ho.active, hid]
        rfl
    | none =>
      have hc : cancelStatus order = .canceled := by simp [cancelStatus, hid]
      have hnone : id = none := ho.active.symm.trans hid
      rw [hc]
      refine served_update ?_
      have hdone : CancelDone id (w.update (.setStatus .canceled
          (some (text "sl_priority_preempted")))) := ⟨rfl, by simp [Stopped, hnone]⟩
      refine done_bind (c := .appendEvent _) trivial hdone fun _ w hw => ?_
      exact wp_ite (fun _ => done_lastSeen _ hw) fun h => absurd ⟨rfl, rfl⟩ h

theorem processLive_done (ho : AsksCancel order id) (hw : Requested id w)
    (hwindow : classifyTradeBuilderOrderEligibilityWindow order now = .allow) :
    wp actAmong (CancelServed now) (processLive order now) (Served id) w := by
  have hstage : ∀ (order : TradeBuilderOrder) w, AsksCancel order id → Requested id w →
      wp actAmong (CancelServed now) (do
        match ← Job.run .runtimePrice with
        | none => Job.event "price_unavailable_retry"
        | some price => processPriced order price) (Served id) w := by
    intro order w ho hw
    refine served_requested (c := .runtimePrice) trivial hw fun price r w hok hx hw => ?_
    simp only [answer, hok.price rfl, Except.ok.injEq] at hx
    subst hx
    exact served_requested (c := .elsewhere _) trivial hw fun _ _ w _ _ hw =>
      preemptTakeProfit_done _ ho hw
  have hpair : ∀ w, Requested id w → wp actAmong (CancelServed now) (do
      match ← maybeApplyTradeBuilderPairLockRuntime order with
      | .ends => pure ()
      | .goes order =>
        match ← Job.run .runtimePrice with
        | none => Job.event "price_unavailable_retry"
        | some price => processPriced order price) (Served id) w := by
    intro w hw
    rw [wp_bind]
    refine wp_ite (fun _ => hstage _ _ ho hw) fun _ => ?_
    refine served_requested (c := .pairLockRuntime) trivial hw fun action r w hok hx hw => ?_
    obtain ⟨cap, hcap⟩ := hok.pairLock rfl
    simp only [answer, hcap, Except.ok.injEq] at hx
    subst hx
    cases cap with
    | none => exact hstage _ _ ho hw
    | some cap => exact hstage _ _ ⟨ho.status, ho.active⟩ hw
  rw [processLive, wp_bind, maybeHandleEligibilityWindow, hwindow]
  change wp actAmong _ (maybeExpireTradeBuilderStaleOrder order >>= _) _ w
  rw [wp_bind]
  refine wp_ite (fun _ => hpair w hw) fun _ => ?_
  refine served_requested (c := .check .staleMarket) trivial hw fun stale r w hok hx hw => ?_
  simp only [answer, hok.market rfl, Except.ok.injEq] at hx
  subst hx
  exact hpair w hw

theorem process_done (hw : Requested id w) :
    wp actAmong (CancelServed now) (processTradeBuilderOrder now) (Served id) w := by
  rw [processTradeBuilderOrder, wp_bind, Job.run, wp_perform]
  intro r hok
  obtain ⟨hfired, hexpired, hwindow⟩ := hok.row rfl
  rw [hok.act_eq]
  have hw' : Requested id { w with rowRead := w.order, unreadRequest := false } :=
    ⟨hw.request, hw.status, hw.active⟩
  refine wp_ite (fun h => absurd ?_ h) fun _ => ?_
  · simp [isProcessable, hw.status, isTradeBuilderOrderProcessableStatus]
  refine wp_ite (fun h => absurd h.1 (not_le.mpr hfired)) fun _ => ?_
  refine wp_ite (fun h => absurd h (by simp [hexpired])) fun _ => ?_
  exact processLive_done ⟨hw.status, hw.active⟩ hw' hwindow

theorem housekeepingPass_done (hw : Requested id w) :
    wp actAmong (CancelServed now) (housekeepingPass now) (Served id) w := by
  have hjob : wp actAmong (CancelServed now)
      (do Job.statement .loadUser; processTradeBuilderOrder now) (Served id) w :=
    served_requested (c := .elsewhere .loadUser) trivial hw fun _ _ _ _ _ hw => process_done hw
  rw [housekeepingPass, wp_bind, wp_attempt]
  refine wp_mono hjob fun x w' h => ?_
  cases x with
  | ok a => exact h
  | error e => exact absurd h.1 (by simp [Except.isOk, Except.toBool])

theorem directPass_done (hw : Requested id w) :
    wp actAmong (CancelServed now) (directPass now) (Served id) w := by
  rw [directPass, Job.ignore, wp_bind, wp_attempt]
  exact wp_mono (process_done hw) fun _ _ h => ⟨rfl, h.2⟩

end Served

/-- In a run whose turns meet the condition no cancel request is lost, and a pass that is
given the chance carries a pending one out. -/
theorem cancel_request_kept (w : World) (ts : List AmongPass) (hw : w.cancelRequest = none)
    (hts : Turn.All actAmong Interference.step CancelTurn w ts) :
    CancelKept (Turn.run actAmong Interference.step w ts) ∧
      ∀ id now p replies, (Turn.run actAmong Interference.step w ts).cancelRequest = some id →
        (Turn.run actAmong Interference.step w ts).order.status = .canceledRequested →
        p = housekeepingPass now ∨ p = directPass now →
        Meets actAmong (CancelServed now) p replies (Turn.run actAmong Interference.step w ts) →
        CancelDone id (exec actAmong p replies (Turn.run actAmong Interference.step w ts)).2 := by
  have hkept : CancelKept (Turn.run actAmong Interference.step w ts) :=
    Turn.run_invariant actAmong Interference.step (fun w t h ht => cancelTurn_keeps h ht)
      (fun id hid => by simp [hw] at hid) hts
  refine ⟨hkept, fun id now p replies hid hs hp hm => ?_⟩
  obtain ⟨-, hactive⟩ | ⟨hcanceled, -⟩ := hkept id hid
  · have hreq : Requested id (Turn.run actAmong Interference.step w ts) := ⟨hid, hs, hactive⟩
    obtain rfl | rfl := hp
    · exact (wp_sound actAmong _ (housekeepingPass_done hreq) hm).2
    · exact (wp_sound actAmong _ (directPass_done hreq) hm).2
  · rw [hs] at hcanceled
    cases hcanceled

/-- A call at which nothing interferes with a plain pass that has seen every request. -/
def quietCall (now : ℤ) (c : Call) (w : World) (r : AmongReply) : Bool :=
  r.first == [] && r.reply.before == [] && r.reply.fails == none && match c with
    | .getOrder => w.order.triggersFired < w.order.maxTriggers && !orderExpired w.order now &&
        classifyTradeBuilderOrderEligibilityWindow w.order now == .allow
    | .update _ => !w.unreadRequest
    | .check .staleMarket => !r.reply.yes
    | .pairLockRuntime => r.reply.pairLock == .proceed none
    | .runtimePrice => !r.reply.priceMissing
    | .takeProfitPreemption => r.reply.preemption != .deferred
    | .cancel n => !r.reply.notCanceled && (w.exchangeOrder n).any (·.state != .matched)
    | _ => true

theorem cancelServed_of_quietCall (c : Call) (w : World) (r : AmongReply)
    (h : quietCall 0 c w r = true) : CancelServed 0 c w r := by
  simp only [quietCall, Bool.and_eq_true, beq_iff_eq] at h
  obtain ⟨⟨⟨hfirst, hbefore⟩, hfails⟩, h⟩ := h
  refine ⟨⟨hfirst, hbefore⟩, hfails, ?_, ?_, ?_, ?_, ?_, ?_⟩
  · rintro rfl
    simpa [and_assoc] using h
  · rintro rfl
    simpa using h
  · rintro rfl
    exact ⟨none, by simpa using h⟩
  · rintro rfl
    simpa using h
  · rintro rfl hd
    simp [hd] at h
  · rintro n rfl
    simpa [Option.any_eq_true_iff_get, Option.eq_some_iff_get_eq] using h

theorem cancelOk_of_quietCall (c : Call) (w : World) (r : AmongReply)
    (h : quietCall 0 c w r = true) : CancelOk false 0 c w r := by
  have hs := cancelServed_of_quietCall c w r h
  have harrive : r.arrive w = w := hs.arrive_eq
  refine ⟨?_, ?_, fun hh => absurd hh (by simp), ?_, fun hc _ => hs.market hc, ?_, ?_,
    fun _ _ hh => absurd hh (by simp)⟩
  · rw [AmongReply.Disturbs, hs.quiet.1]
    trivial
  · rintro u s rfl - hu
    rw [harrive] at hu
    simp [quietCall, hu] at h
  · intro hc _
    rw [harrive]
    obtain ⟨hfired, hexpired, hwindow⟩ := hs.row hc
    exact ⟨hfired, hexpired, by simp [hwindow]⟩
  · intro hc _
    obtain ⟨cap, hcap⟩ := hs.pairLock hc
    rw [hcap]
    trivial
  · rintro n rfl hn
    simp [(hs.cancel n rfl).1] at hn

def plainBuy : World := { order := { sizeUsdc := 10 } }

def submitThenCancel : List AmongPass :=
  [.pass (directPass 0) [], .environment (.outside (.requestCancel {}))]

/-- The next pass cancels it. -/
theorem cancel_request_kept_buy :
    CancelDone (some 0) (exec actAmong (directPass 0) []
      (Turn.run actAmong Interference.step plainBuy submitThenCancel)).2 :=
  (cancel_request_kept plainBuy submitThenCancel rfl
    ⟨⟨0, .inr ⟨rfl, Meets.mono actAmong _ cancelOk_of_quietCall
      (by decide +kernel : Meets actAmong (fun c w r => quietCall 0 c w r = true) (directPass 0) []
        plainBuy)⟩⟩, trivial, trivial⟩).2 (some 0) 0 (directPass 0) []
    (by decide +kernel) (by decide +kernel) (.inr rfl)
    (Meets.mono actAmong _ cancelServed_of_quietCall
      (by decide +kernel : Meets actAmong (fun c w r => quietCall 0 c w r = true) (directPass 0) []
        (Turn.run actAmong Interference.step plainBuy submitThenCancel)))

/-- A cancel request that lands after the next pass has read the row is overwritten. -/
theorem open_overwrites_cancel_request :
    ¬ CancelKept (Turn.run actAmong Interference.step plainBuy
      [.pass (directPass 0) [], .pass (directPass 0) [{}, { first := [.outside (.requestCancel {})] }]]) := by
  decide +kernel

end Passes

end PolymarketBot.Builder
