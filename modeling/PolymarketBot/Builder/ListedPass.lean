import PolymarketBot.Builder.ListedOrder

/-! The passes over an order of a strategy engine keep the guarantee of listed orders: the
finalizer and what else ends an order, the submit, the reconcile of an open order, the head of
the pass and the error handler. -/

namespace PolymarketBot.Builder
open Lib Prog

section Engine
variable {side : Side} {order : TradeBuilderOrder}

theorem EngineRow.not_childExit (h : EngineRow side order) :
    tradeBuilderIsChildExitSell order = false := by
  simp [tradeBuilderIsChildExitSell, h.immediate]

theorem EngineRow.not_stopLoss (h : EngineRow side order) :
    tradeBuilderIsStopLossChild order = false := by
  simp [tradeBuilderIsStopLossChild, h.not_childExit]

theorem EngineRow.not_takeProfit (h : EngineRow side order) :
    tradeBuilderIsTakeProfitChild order = false := by
  simp [tradeBuilderIsTakeProfitChild, h.not_childExit]

theorem EngineRow.optimistic (h : EngineRow side order) (hsell : order.side = .sell)
    (hshares : order.sizeBasis = .shares) :
    tradeBuilderShouldUseOptimisticExitSubmit order = true := by
  simp [tradeBuilderShouldUseOptimisticExitSubmit, hshares, hsell, h.immediate, h.fromFlow]

end Engine

section Passes
variable {now : ℤ} {side : Side} {α β : Type} {w : World} {order : TradeBuilderOrder}

/-- Every call of the program keeps the guarantee, and it ends as `Q` says. -/
abbrev Passes (now : ℤ) {α : Type} (p : Job α) (Q : Except ErrorText α → World → Prop)
    (w : World) : Prop :=
  Guarantees act (ListedOk now) ListedGuarantee p Q w

/-- An error leaves nothing live. -/
def Then (side : Side) (R : α → World → Prop) (x : Except ErrorText α) (w : World) : Prop :=
  match x with
  | .ok a => R a w
  | .error _ => Parked side w

theorem then_bind {p : Job α} {f : α → Job β} {R : α → World → Prop} {S : β → World → Prop}
    (hp : Passes now p (Then side R) w)
    (hf : ∀ a w', R a w' → Passes now (f a) (Then side S) w') :
    Passes now (p >>= f) (Then side S) w :=
  guarantees_bind_of hp hf fun _ _ h => h

theorem parked_run {p : Job α} (hp : Only (Writes OrderUpdate.finishes) p) (hw : Parked side w) :
    Passes now p (Then side fun _ => Parked side) w :=
  guarantees_mono (guarantees_of_only (fun _ _ _ hc h hok => h.step hc hok) hp hw)
    fun x _ h => by cases x <;> exact h

theorem parked_bind {p : Job α} {f : α → Job β} {S : β → World → Prop}
    (hp : Only (Writes OrderUpdate.finishes) p) (hw : Parked side w)
    (hf : ∀ a w', Parked side w' → Passes now (f a) (Then side S) w') :
    Passes now (p >>= f) (Then side S) w :=
  then_bind (parked_run hp hw) hf

theorem ready_run {p : Job α} (hp : Only (Writes OrderUpdate.staysListed) p) (hw : Ready side w) :
    Passes now p (Then side fun _ => Ready side) w :=
  guarantees_mono (guarantees_of_only (fun _ _ _ hc h hok => h.step hc hok) hp hw)
    fun x _ h => by
      cases x with
      | ok a => exact h
      | error e => exact h.parked

theorem ready_bind {p : Job α} {f : α → Job β} {S : β → World → Prop}
    (hp : Only (Writes OrderUpdate.staysListed) p) (hw : Ready side w)
    (hf : ∀ a w', Ready side w' → Passes now (f a) (Then side S) w') :
    Passes now (p >>= f) (Then side S) w :=
  then_bind (ready_run hp hw) hf

theorem silent_writes {k : OrderUpdate → Bool} {p : Job α} (h : Only Silent p) :
    Only (Writes k) p :=
  h.mono fun _ => Silent.writes

theorem event_writes {k : OrderUpdate → Bool} (name : String) : Only (Writes k) (Job.event name) :=
  only_run trivial

theorem statement_writes {k : OrderUpdate → Bool} (s : Elsewhere) :
    Only (Writes k) (Job.statement s) :=
  only_run trivial

theorem parked_ignore {p : Job Unit} (hp : Passes now p (Then side fun _ => Parked side) w) :
    Passes now (Job.ignore p) (Then side fun _ => Parked side) w :=
  (guarantees_bind _ _ _ _).mpr ((guarantees_attempt _ _ _).mpr
    (guarantees_mono hp fun x _ h => by cases x <;> exact h))

theorem parked_when {c : Prop} [Decidable c] {p : Job Unit}
    (hp : c → Passes now p (Then side fun _ => Parked side) w) (hw : Parked side w) :
    Passes now (Job.when c p) (Then side fun _ => Parked side) w :=
  guarantees_ite hp fun _ => hw

theorem syncExitChildren_parked (hw : Parked side w) :
    Passes now tradeBuilderSyncParentExitChildren (Then side fun _ => Parked side) w := by
  refine parked_bind (statement_writes _) hw fun _ w hw => ?_
  refine then_bind (R := fun child w' => Parked side w' ∧ EngineRow side child)
    ((guarantees_perform _ _ _).mpr fun r hok => ?_) fun child w hw => ?_
  · obtain ⟨hg, hpark⟩ := hw.step (c := .childRow) trivial hok
    refine ⟨hg, ?_⟩
    have hrow := hok.arrive_order
    cases hf : r.fails with
    | some f => simpa [act, hf, Then] using hpark
    | none =>
      simp only [act, hf, answer, Then] at hpark ⊢
      exact ⟨hpark, hrow ▸ hw.row⟩
  · refine parked_bind (silent_writes resolveParentInventory_silent) hw.1 fun _ w hpark => ?_
    refine parked_bind (statement_writes _) hpark fun _ w hpark => ?_
    have hskip : tradeBuilderIsTerminalStatus child.status = true ∨
        ¬ tradeBuilderIsChildExitSell child = true := .inr (by simp [hw.2.not_childExit])
    rw [syncExitChild, if_pos hskip]
    exact parked_run (statement_writes _) hpark

theorem finalizeParentSide_parked (qty : Option ℚ) (hw : Parked side w) :
    Passes now (finalizeParentSide order qty) (Then side fun _ => Parked side) w := by
  refine parked_bind (only_whenOr (only_run trivial)) hw fun parent w hw => ?_
  cases parent with
  | none => exact hw
  | some parent =>
    refine parked_bind (only_when (silent_writes (applyChildFill_silent _))) hw fun _ w hw => ?_
    exact parked_when (fun _ => parked_ignore (syncExitChildren_parked hw)) hw

theorem finalizeNextStatus_final (h : EngineRow side order) (force : Bool) :
    finalizeNextStatus order force = .completed := by
  simp [finalizeNextStatus, h.immediate]

theorem closeFill_parked (hrow : EngineRow side order) (qty : ℚ) (applied : Option ℚ)
    (force surface liveGap : Bool) (hw : Parked side w) :
    Passes now (closeFill order qty applied force surface liveGap)
      (Then side fun _ => Parked side) w := by
  rw [closeFill, finalizeNextStatus_final hrow]
  refine parked_bind (only_run rfl) hw fun _ w hw => ?_
  refine parked_bind (event_writes _) hw fun _ w hw => ?_
  refine parked_bind (only_when (statement_writes _)) hw fun _ w hw => ?_
  refine then_bind (finalizeParentSide_parked _ hw) fun _ w hw => ?_
  refine parked_bind (only_when (statement_writes _)) hw fun _ w hw => ?_
  refine parked_bind (only_when (silent_writes (finalizeBuyChildren_silent _ _ _ _))) hw
    fun _ w hw => ?_
  exact parked_run (only_ignore (statement_writes _)) hw

theorem finalize_parked (hrow : EngineRow side order) (qty : ℚ) (source : EntryQtySource)
    (actual : Option ℚ) (force : Bool) (hw : Parked side w) :
    Passes now (finalizeBuilderFill order qty source actual force)
      (Then side fun _ => Parked side) w := by
  refine parked_bind (only_whenOr (only_run trivial)) hw fun liveGap w hw =>
    guarantees_ite (fun _ => hw) fun _ => ?_
  refine parked_bind (.bind (only_run rfl) fun _ => .bind (only_when (only_run rfl)) fun _ =>
    only_when (silent_writes (finalizeBuyBookings_silent _ _ _ _))) hw fun _ w hw => ?_
  refine parked_bind (only_whenOr (only_run trivial)) hw fun _ w hw => ?_
  refine parked_bind (statement_writes _) hw fun _ w hw => ?_
  refine parked_bind (statement_writes _) hw fun _ w hw => ?_
  exact closeFill_parked hrow _ _ _ _ _ hw

/-- A program that may end the order: its answer says whether it did. -/
def EndsIf (side : Side) (ended : Bool) (w : World) : Prop :=
  if ended = true then Parked side w else Ready side w

theorem reconcileFilled_parked {id : ℕ} {info : OrderInfo} (hrow : EngineRow side order)
    (hw : Parked side w) :
    Passes now (reconcileFilled order id info) (Then side fun _ => Parked side) w :=
  parked_bind (silent_writes (resolveFinalizeQuantities_silent _ _ _)) hw fun _ _ hw =>
    finalize_parked hrow _ _ _ _ hw

theorem latchedTerminal_endsIf {id : ℕ} {info : OrderInfo} (hw : Ready side w) :
    Passes now (maybeHandleLatchedStopLossTerminalStatus order id info)
      (Then side (EndsIf side)) w := by
  refine guarantees_ite (fun _ => hw) fun _ => ?_
  refine ready_bind (silent_writes (terminalFillQtyOrZero_silent _ _ _)) hw fun _ w hw =>
    guarantees_ite (fun _ => hw) fun _ => ?_
  refine ready_bind (only_orElse trivial) hw fun _ w hw => guarantees_ite (fun _ => ?_) fun _ => ?_
  · exact parked_bind (only_run rfl) hw.parked fun _ w hw =>
      parked_bind (event_writes _) hw fun _ w hw => hw
  · exact ready_bind (only_run rfl) hw fun _ w hw =>
      ready_bind (event_writes _) hw fun _ w hw => hw.parked

theorem finalizePostCancelFill_parked (hrow : EngineRow side order) (qty : ℚ) (isFull : Bool)
    (hw : Parked side w) :
    Passes now (finalizePostCancelFill order qty isFull) (Then side fun _ => Parked side) w := by
  refine guarantees_ite (fun _ => ?_) fun _ => ?_
  · refine parked_bind (silent_writes (requireEntryQty_silent _)) hw fun _ w hw => ?_
    refine parked_bind (statement_writes _) hw fun _ w hw => ?_
    refine parked_bind (event_writes _) hw fun _ w hw => ?_
    exact finalize_parked hrow _ _ _ _ hw
  · refine parked_bind (statement_writes _) hw fun _ w hw => ?_
    refine parked_bind (only_run rfl) hw fun _ w hw => ?_
    refine parked_bind (event_writes _) hw fun _ w hw => ?_
    refine parked_bind (silent_writes (requireEntryQty_silent _)) hw fun _ w hw => ?_
    exact finalize_parked hrow _ _ _ _ hw

theorem postCancelBuyFill_endsIf {id : ℕ} {info : OrderInfo} (hrow : EngineRow side order)
    (hw : Ready side w) :
    Passes now (reconcileTradeBuilderPostCancelBuyFill order id info)
      (Then side fun outcome => EndsIf side (outcome == .finalized)) w := by
  refine ready_bind (.bind (only_tryRun trivial) fun x => by cases x <;> trivial) hw fun _ w hw => ?_
  refine ready_bind (only_orElse trivial) hw fun _ w hw => ?_
  refine ready_bind (silent_writes visibleInventoryFill_silent) hw fun _ w hw => ?_
  split
  · exact hw
  · exact then_bind (finalizePostCancelFill_parked hrow _ _ hw.parked) fun _ _ hw => hw

theorem suppressReprice_parked (hw : Parked side w) :
    Passes now suppressTradeBuilderBuyIocReprice (Then side fun _ => Parked side) w :=
  parked_run (.bind (only_run rfl) fun _ => event_writes _) hw

theorem closeTerminal_parked (hrow : EngineRow side order) (hw : Parked side w) :
    Passes now (closeTerminal order) (Then side fun _ => Parked side) w :=
  guarantees_ite (fun h => absurd h.1 (by simp [hrow.immediate])) fun _ =>
    parked_run (.bind (only_run rfl) fun _ => event_writes _) hw

theorem reconcileTerminal_parked {id : ℕ} {info : OrderInfo} (hrow : EngineRow side order)
    (hw : Ready side w) :
    Passes now (reconcileTerminal order id info) (Then side fun _ => Parked side) w := by
  refine then_bind (latchedTerminal_endsIf hw) fun ended w hw => ?_
  cases ended with
  | true => exact hw
  | false =>
    rw [if_neg Bool.false_ne_true]
    have hw : Ready side w := hw
    refine guarantees_ite (fun _ => ?_) fun _ => closeTerminal_parked hrow hw.parked
    refine then_bind (postCancelBuyFill_endsIf hrow hw) fun outcome w hw => ?_
    cases outcome with
    | finalized => exact hw
    | noFill =>
      exact guarantees_ite (fun _ => suppressReprice_parked hw.parked) fun _ =>
        closeTerminal_parked hrow hw.parked

theorem Parked.finish {u : OrderUpdate} {r : Reply} (h : Parked side w)
    (hu : Finished (u.apply w.order)) (hok : ListedOk now (.update u) w r) :
    ListedGuarantee w (act (.update u) w r).2 ∧ Parked side (act (.update u) w r).2 := by
  have hplace : ∀ request, Call.update u ≠ .place request := nofun
  have hdead := dead_after h.dead hplace r
  have hex := h.dead.act_exchange hplace r
  obtain ho | ⟨u', hu', ho⟩ := hok.act_order (k := (· == u)) (by simp [Writes])
  · refine ⟨⟨.inr hdead, fun hl => ⟨?_, hex⟩⟩, ⟨hdead, ?_, ?_⟩⟩
    · rw [ho]
      exact hl
    · rw [ho]
      exact h.row
    · rw [ho]
      exact h.status
  · rw [beq_iff_eq] at hu'
    subst hu'
    refine ⟨⟨.inr hdead, fun _ => ⟨?_, hex⟩⟩, ⟨hdead, ?_, ?_⟩⟩
    · rw [ho]
      exact hu.unlisted
    · rw [ho]
      exact h.row.apply _
    · rw [ho]
      exact .inr hu

theorem error_bind {e : ErrorText} {f : Unit → Job β} {S : β → World → Prop}
    (hw : Parked side w) (hf : ∀ a w', Parked side w' → Passes now (f a) (Then side S) w') :
    Passes now (Job.update (.setStatus .error (some e)) >>= f) (Then side S) w := by
  refine then_bind (R := fun _ => Parked side)
    ((guarantees_perform _ _ _).mpr fun r hok => ?_) hf
  have hended : Finished ((OrderUpdate.setStatus .error (some e)).apply w.order) :=
    ⟨rfl, fun hp => by cases (hok.errors e rfl).symm.trans hp⟩
  obtain ⟨hg, hpark⟩ := hw.finish hended hok
  refine ⟨hg, ?_⟩
  cases h : (act (.update (.setStatus .error (some e))) w r).1 <;> exact hpark

theorem guardWaiting_ruledOut {order : TradeBuilderOrder} {reason : String}
    {size qty : Option ℚ} {Q : Except ErrorText Unit → World → Prop} :
    Passes now (transitionTradeBuilderOrderToGuardWaiting order reason size qty) Q w :=
  (guarantees_bind _ _ _ _).mpr ((guarantees_perform _ _ _).mpr fun _ hok =>
    absurd rfl (hok.unguarded _ _ _))

theorem exitSellRetry_ready (e : ErrorText) (price : ℚ) (attempted next : Option ℚ)
    (attemptStage nextStage : Option ExitSubmitStage) :
    Only (Writes OrderUpdate.staysListed) (scheduleTradeBuilderExitSellRetry order e price
      attempted next attemptStage nextStage) :=
  .bind (only_run rfl) fun _ => .bind (only_when (event_writes _)) fun _ => event_writes _

theorem placeError_parked (hrow : EngineRow side order) (e : ErrorText) (price size : ℚ)
    (reason : String) (hw : Ready side w) :
    Passes now (handlePlaceError order e price size reason)
      (Then side fun _ => Parked side) w := by
  have hretry : ∀ {w : World} attempted next attemptStage nextStage, Ready side w →
      Passes now (scheduleTradeBuilderExitSellRetry order e price attempted next attemptStage
        nextStage) (Then side fun _ => Parked side) w := fun _ _ _ _ hw =>
    guarantees_mono (ready_run (exitSellRetry_ready _ _ _ _ _ _) hw) fun x _ h => by
      cases x with
      | ok a => exact h.parked
      | error e => exact h
  refine guarantees_ite (fun hfatal => ?_) fun _ => guarantees_ite (fun _ => ?_) fun hnot =>
    guarantees_ite (fun _ => hretry _ _ _ _ hw) fun _ => ?_
  · exact error_bind hw.parked fun _ w hw =>
      parked_run (event_writes _) hw
  · exact ready_bind (event_writes _) hw fun _ w hw => hretry _ _ _ _ hw
  · have hbalance : ¬ (order.side = .sell ∧ order.sizeBasis = .shares ∧
        e.kind = .balanceOrAllowance) := fun h => hnot ⟨h, hrow.optimistic h.1 h.2.1⟩
    rw [retryRefusedPlacement, Job.whenOr, if_neg hbalance]
    exact guarantees_ite (fun _ => hretry _ _ _ _ hw) fun _ => hw.parked

theorem accepted_call {ack : PlaceAck} {c : Call} {f : Answer c → Job β} {S : β → World → Prop}
    (hc : NeverRefused c) (hr : Routine c) (hs : Writes OrderUpdate.staysListed c)
    (hw : Accepted side ack w)
    (hf : ∀ a w', Accepted side ack w' → Passes now (f a) (Then side S) w') :
    Passes now (Job.run c >>= f) (Then side S) w := by
  refine then_bind (R := fun _ => Accepted side ack)
    ((guarantees_perform _ _ _).mpr fun r hok => ?_) hf
  obtain ⟨hg, hnext⟩ := hw.step hr hs hok
  refine ⟨hg, ?_⟩
  cases h : (act c w r).1 with
  | ok a => exact hnext
  | error e =>
    exact ⟨hok.dead_of_fails hw.placed.ids (fails_of_error hc h), hnext.row, .inl hnext.listed⟩

theorem accepted_store {ack : PlaceAck} {price size qty : Option ℚ} {f : Unit → Job β}
    {S : β → World → Prop} (hw : Accepted side ack w)
    (hopen : ∀ w', ack.status ≠ .filled → HoldsListed side ack.exchangeOrderId w' →
      Passes now (f ()) (Then side S) w')
    (hended : ∀ w', Parked side w' → Passes now (f ()) (Then side S) w') :
    Passes now (Job.update (.setWorkingState (some ack.exchangeOrderId) price size qty
      ack.status.toOrderStatus) >>= f) (Then side S) w := by
  by_cases ho : ack.status = .opened ∨ ack.status = .partiallyFilled
  · have hs : Writes OrderUpdate.staysListed (.update (.setWorkingState
        (some ack.exchangeOrderId) price size qty ack.status.toOrderStatus)) := by
      obtain ho | ho := ho <;> rw [ho] <;> rfl
    refine then_bind (R := fun _ => HoldsListed side ack.exchangeOrderId)
      ((guarantees_perform _ _ _).mpr fun r hok => ?_) fun _ w' hw' => hopen w' ?_ hw'
    · have hstays := staysListed_act hw.row hw.listed hs hok
      have hrow := hstays.row
      have hl := hstays.listed
      have hfired := hstays.unfired hw.unfired
      refine ⟨hstays.guarantee, ?_⟩
      cases hf : r.fails with
      | some f =>
        have hdead := hok.dead_of_fails hw.placed.ids (by simp [hf])
        simp only [act, hf] at hdead hrow hl ⊢
        exact ⟨hdead, hrow, .inl hl⟩
      | none =>
        have hplaced := hw.placed.after (c := .update (.setWorkingState
          (some ack.exchangeOrderId) price size qty ack.status.toOrderStatus)) trivial r
        simp only [act, hf, answer] at hplaced hrow hl hfired ⊢
        have honly := fun e he hlive => congrArg some (hplaced.only e he hlive).symm
        exact ⟨⟨⟨hplaced.ids, honly⟩, honly⟩, hrow, hl, hfired⟩
    · obtain ho | ho := ho <;> simp [ho]
  · have hdead := hw.ended (fun h => ho (.inl h)) fun h => ho (.inr h)
    have hfinal : finalStatus ack.status.toOrderStatus = true := by
      cases hst : ack.status <;> simp_all [ExchangeStatus.toOrderStatus, finalStatus]
    exact parked_bind (only_run hfinal) ⟨hdead, hw.row, .inl hw.listed⟩ fun _ => hended

theorem held_call {id : ℕ} {c : Call} {f : Answer c → Job β} {S : β → World → Prop}
    (hc : NeverRefused c) (hid : KeepsId id c) (hs : Writes OrderUpdate.staysListed c)
    (hw : HoldsListed side id w)
    (hf : ∀ a w', HoldsListed side id w' → Passes now (f a) (Then side S) w') :
    Passes now (Job.run c >>= f) (Then side S) w := by
  refine then_bind (R := fun _ => HoldsListed side id)
    ((guarantees_perform _ _ _).mpr fun r hok => ?_) hf
  obtain ⟨hg, hnext⟩ := hw.step hid hs hok
  refine ⟨hg, ?_⟩
  cases h : (act c w r).1 with
  | ok a => exact hnext
  | error e =>
    exact ⟨hok.dead_of_fails hw.holds.tracked.ids (fails_of_error hc h), hnext.row,
      .inl hnext.listed⟩

theorem held_try {id : ℕ} {c : Call} {f : Except ErrorText (Answer c) → Job β}
    {S : β → World → Prop} (hid : KeepsId id c) (hs : Writes OrderUpdate.staysListed c)
    (hw : HoldsListed side id w)
    (hf : ∀ x w', HoldsListed side id w' → Passes now (f x) (Then side S) w') :
    Passes now (Job.tryRun c >>= f) (Then side S) w :=
  (guarantees_bind _ _ _ _).mpr ((guarantees_attempt _ _ _).mpr ((guarantees_perform _ _ _).mpr
    fun _ hok => ⟨(hw.step hid hs hok).1, hf _ _ (hw.step hid hs hok).2⟩))

theorem held_orElse {id : ℕ} {c : Call} {d : Answer c} {f : Answer c → Job β} {S : β → World → Prop}
    (hid : KeepsId id c) (hs : Writes OrderUpdate.staysListed c) (hw : HoldsListed side id w)
    (hf : ∀ a w', HoldsListed side id w' → Passes now (f a) (Then side S) w') :
    Passes now (Job.orElse c d >>= f) (Then side S) w :=
  then_bind (R := fun _ => HoldsListed side id)
    (held_try hid hs hw fun x _ hw => by cases x <;> exact hw) hf

theorem held_when {id : ℕ} {c : Prop} [Decidable c] {p : Job Unit} {f : Unit → Job β}
    {S : β → World → Prop} (hw : HoldsListed side id w)
    (hp : Passes now p (Then side fun _ => HoldsListed side id) w)
    (hf : ∀ w', HoldsListed side id w' → Passes now (f ()) (Then side S) w') :
    Passes now (Job.when c p >>= f) (Then side S) w :=
  then_bind (R := fun _ => HoldsListed side id) (guarantees_ite (fun _ => hp) fun _ => hw)
    fun _ => hf

theorem event_held {id : ℕ} (name : String) (hw : HoldsListed side id w) :
    Passes now (Job.event name) (Then side fun _ => HoldsListed side id) w := by
  have h : Passes now (Job.event name >>= pure) (Then side fun _ => HoldsListed side id) w :=
    held_call (c := .appendEvent name) trivial trivial trivial hw fun _ _ h => h
  rwa [bind_pure] at h

theorem parked_end {p : Job Unit} (hp : Passes now p (Then side fun _ => Parked side) w) :
    Passes now p (Then side fun _ => Kept side) w :=
  guarantees_mono hp fun x _ h => by
    cases x with
    | ok a => exact h.kept
    | error e => exact h

theorem persistDynamic_held {id : ℕ} (size price : ℚ) (hw : HoldsListed side id w) :
    Passes now (maybePersistTradeBuilderSubmittedDynamic order size price)
      (Then side fun _ => HoldsListed side id) w := by
  refine guarantees_ite (fun _ => ?_) fun _ => hw
  split
  · exact hw
  · exact held_try (.inl rfl) rfl hw fun x w hw => by cases x <;> exact hw

theorem persistDynamic_writes (size price : ℚ) :
    Only (Writes OrderUpdate.finishes) (maybePersistTradeBuilderSubmittedDynamic order size price) := by
  refine only_ite (fun _ => ?_) fun _ => trivial
  split
  · trivial
  · exact .bind (only_tryRun rfl) fun x => by cases x <;> trivial

theorem persistDynamic_engine (hrow : EngineRow side order) (size price : ℚ) :
    Returns (EngineRow side) (maybePersistTradeBuilderSubmittedDynamic order size price) := by
  unfold maybePersistTradeBuilderSubmittedDynamic
  split
  · split
    · exact hrow
    · refine (returns_true _).bind fun x _ => ?_
      cases x with
      | ok _ => exact ⟨hrow.immediate, hrow.unpaired, hrow.fromFlow, hrow.side⟩
      | error _ => exact hrow
  · exact hrow

theorem finalizeSubmitted_parked {id : ℕ} (hrow : EngineRow side order) (size : ℚ)
    (hw : Parked side w) :
    Passes now (finalizeSubmitted order id size) (Then side fun _ => Parked side) w := by
  refine parked_bind (only_orElse trivial) hw fun _ w hw => ?_
  refine parked_bind (silent_writes (immediateQuantities_silent _ _ _)) hw fun _ w hw => ?_
  exact finalize_parked hrow _ _ _ _ hw

theorem submitted_parked {id : ℕ} {c : Prop} [Decidable c] (hrow : EngineRow side order)
    (price : ℚ) (sizing : SubmitSizing) (hw : Parked side w) :
    Passes now (do
      let order ← maybePersistTradeBuilderSubmittedDynamic order sizing.size price
      Job.when sizing.partialVisible (Job.event "partial_visible_inventory_submit")
      Job.event "submitted"
      Job.statement .submittedNotification
      Job.when c (finalizeSubmitted order id sizing.size)) (Then side fun _ => Kept side) w := by
  refine guarantees_bind_of (guarantees_returns (parked_run (persistDynamic_writes _ _) hw)
    (persistDynamic_engine hrow sizing.size price)) (fun order w hw => ?_) fun _ _ h => h.1
  have hrow := hw.2 order rfl
  refine parked_bind (only_when (event_writes _)) hw.1 fun _ w hw => ?_
  refine parked_bind (event_writes _) hw fun _ w hw => ?_
  refine parked_bind (statement_writes _) hw fun _ w hw => ?_
  exact parked_end (parked_when (fun _ => finalizeSubmitted_parked hrow _ hw) hw)

theorem afterPlaced_kept {ack : PlaceAck} (hrow : EngineRow side order) (price : ℚ)
    (sizing : SubmitSizing) (hw : Accepted side ack w) :
    Passes now (afterPlaced order ack price sizing) (Then side fun _ => Kept side) w := by
  refine accepted_call trivial trivial trivial hw fun _ w hw => ?_
  refine accepted_call trivial trivial trivial hw fun _ w hw => ?_
  refine accepted_call trivial trivial trivial hw fun _ w hw => ?_
  refine accepted_store hw (fun w hfilled hw => ?_) fun w hw => submitted_parked hrow _ _ hw
  refine then_bind (persistDynamic_held _ _ hw) fun order w hw => ?_
  refine held_when hw (event_held _ hw) fun w hw => ?_
  refine held_call trivial trivial trivial hw fun _ w hw => ?_
  refine held_call trivial trivial trivial hw fun _ w hw => ?_
  rw [Job.when, if_neg hfilled]
  exact hw.kept

theorem place_accepted (request : PlaceOrderRequest) (hw : Ready side w) :
    Passes now (Job.tryRun (.place request)) (Then side fun x w' => match x with
      | .ok ack => Accepted side ack w'
      | .error _ => Ready side w') w := by
  refine (guarantees_attempt _ _ _).mpr ((guarantees_perform _ _ _).mpr fun r hok => ?_)
  have harrive : Ready side (r.arrive w) := by
    have horder := hok.arrive_order
    exact ⟨hw.dead.exchange (World.Evolves.arrive r w).exchange, by rw [horder]; exact hw.row,
      by rw [horder]; exact hw.listed, by rw [horder]; exact hw.unfired⟩
  have hunlisted : isActiveOrderStatus w.order.status ≠ false := by simp [hw.listed]
  cases hf : r.fails with
  | some f =>
    simp only [act, hf]
    exact ⟨⟨.inl harrive.listed, fun h => absurd h hunlisted⟩, harrive⟩
  | none =>
    have hid : r.clientOrderId = none := hok.honest.id request rfl
    simp only [act, hf, answer, hid, Option.getD_none]
    refine ⟨⟨.inl harrive.listed, fun h => absurd h hunlisted⟩, harrive.dead.place hok.honest,
      fun ho hp => ?_, harrive.row, harrive.listed, harrive.unfired⟩
    dsimp only at ho hp
    exact harrive.dead.place_ended hok.honest ho hp

theorem fastStopLossRetry_accepted (size : ℚ) (attempts : ℕ) (e : ErrorText) {w : World}
    (hw : Ready side w) :
    Passes now (fastStopLossRetry size attempts e) (Then side fun x w' => match x with
      | .ok (ack, _) => Accepted side ack w'
      | .error _ => Ready side w') w := by
  induction attempts generalizing e w with
  | zero => exact hw
  | succ attempts ih =>
    refine ready_bind (only_tryRun trivial) hw fun x w hw => ?_
    cases x with
    | error e' => exact hw
    | ok price =>
      refine then_bind (place_accepted _ hw) fun placed w hw => ?_
      cases placed with
      | ok ack => exact hw
      | error e => exact guarantees_ite (fun _ => ih e hw) fun _ => hw

theorem placeSubmit_kept (hrow : EngineRow side order) (price : ℚ) (sizing : SubmitSizing)
    (hw : Ready side w) :
    Passes now (placeSubmit order price sizing) (Then side fun _ => Kept side) w := by
  refine then_bind (place_accepted _ hw) fun placed w hw => ?_
  cases placed with
  | ok ack => exact afterPlaced_kept hrow _ _ hw
  | error e =>
    refine ready_bind (only_whenOr (only_orElse trivial)) hw fun fakOrIoc w hw => ?_
    have hretry : Passes now (Job.whenOr (fakOrIoc = true) (.error e)
        (fastStopLossRetry sizing.size tradeBuilderFastSlRetryMaxAttempts e))
        (Then side fun x w' => match x with
          | .ok (ack, _) => Accepted side ack w'
          | .error _ => Ready side w') w :=
      guarantees_ite (fun _ => fastStopLossRetry_accepted _ _ _ hw) fun _ => hw
    refine then_bind hretry fun outcome w hw => ?_
    cases outcome with
    | ok placed =>
      refine accepted_call trivial trivial trivial hw fun _ w hw => ?_
      refine accepted_call trivial trivial trivial hw fun _ w hw => ?_
      exact afterPlaced_kept hrow _ _ hw
    | error e =>
      exact ready_bind (event_writes _) hw fun _ w hw =>
        parked_end (placeError_parked hrow _ _ _ _ hw)

theorem ready_end {p : Job Unit} (hp : Only (Writes OrderUpdate.staysListed) p)
    (hw : Ready side w) : Passes now p (Then side fun _ => Kept side) w :=
  guarantees_mono (ready_run hp hw) fun x _ h => by
    cases x with
    | ok a => exact h.kept
    | error e => exact h

theorem minNotionalTopUp_endsIf (price : ℚ) (sizing : SubmitSizing) (hw : Ready side w) :
    Passes now (marketableBuyMinNotionalTopUp order price sizing)
      (Then side fun resized => EndsIf side resized.isNone) w := by
  refine guarantees_ite (fun _ => ?_) fun _ => hw
  refine ready_bind (only_orElse trivial) hw fun _ w hw => guarantees_ite (fun _ => ?_) fun _ => hw
  refine guarantees_ite (fun _ => ?_) fun _ => hw
  exact error_bind hw.parked fun _ w hw =>
    parked_bind (event_writes _) hw fun _ w hw => hw

theorem belowMarketMin_endsIf (price : ℚ) (requested : Option ℚ) (qty : ℚ)
    (stage : Option ExitSubmitStage) (hw : Ready side w) :
    Passes now (maybeHandleTradeBuilderShareSubmitBelowMarketMin order price requested qty stage)
      (Then side (EndsIf side)) w := by
  refine guarantees_ite (fun _ => hw) fun _ => ?_
  refine ready_bind (only_orElse trivial) hw fun _ w hw => guarantees_ite (fun _ => ?_) fun _ => ?_
  · exact ready_bind (exitSellRetry_ready _ _ _ _ _ _) hw fun _ w hw => hw.parked
  refine ready_bind (only_orElse trivial) hw fun _ w hw => guarantees_ite (fun _ => ?_) fun _ => hw
  refine guarantees_ite (fun _ => ?_) fun _ => ?_
  · exact ready_bind (event_writes _) hw fun _ w hw => hw
  · exact parked_bind (only_run rfl) hw.parked fun _ w hw =>
      parked_bind (event_writes _) hw fun _ w hw => hw

theorem submitRechecked_kept (hrow : EngineRow side order) (price : ℚ) (requested : Option ℚ)
    (sizing : SubmitSizing) (hw : Ready side w) :
    Passes now (submitRechecked order price requested sizing) (Then side fun _ => Kept side) w := by
  refine then_bind (minNotionalTopUp_endsIf _ _ hw) fun resized w hw => ?_
  cases resized with
  | none => exact Parked.kept hw
  | some sizing =>
    refine then_bind (belowMarketMin_endsIf _ _ _ _ hw) fun handled w hw => ?_
    cases handled with
    | true => exact parked_end (parked_run (event_writes _) hw)
    | false => exact placeSubmit_kept hrow _ _ hw

theorem shareInventory_ready (hopt : tradeBuilderShouldUseOptimisticExitSubmit order = true)
    (price size : ℚ) (prefetched : Option ℚ) :
    Only (Writes OrderUpdate.staysListed) (resolveShareInventory order price size prefetched) := by
  rw [resolveShareInventory, if_neg (by simp [hopt])]
  split
  · exact silent_writes (dynamicGross_silent _ _ _)
  · trivial
  · refine .bind (only_whenOr (only_orElse trivial)) fun _ => ?_
    split
    · exact .bind (exitSellRetry_ready _ _ _ _ _ _) fun _ => trivial
    · trivial

theorem submitInventory_ready (hrow : EngineRow side order) (price : ℚ) (sizing : SubmitSizing) :
    Only (Writes OrderUpdate.staysListed) (submitInventory order price sizing) := by
  refine only_ite (fun h => ?_) fun _ => trivial
  refine .bind (shareInventory_ready (hrow.optimistic h.1 h.2) _ _ _) fun submit => ?_
  cases submit with
  | none => exact .bind (event_writes _) fun _ => trivial
  | some submit => trivial

theorem submitGuards_endsIf (sizing : SubmitSizing) (hw : Ready side w) :
    Passes now (applySubmitGuards order sizing) (Then side (EndsIf side)) w := by
  refine guarantees_ite (fun _ => hw) fun _ => ready_bind (only_run trivial) hw fun guards w hw => ?_
  cases guards with
  | passes => exact hw
  | waits reason =>
    exact ready_bind (event_writes _) hw fun _ w hw =>
      (guarantees_bind _ _ _ _).mpr guardWaiting_ruledOut
  | cancels reason =>
    refine ready_bind (event_writes _) hw fun _ w hw => parked_bind (only_run rfl) hw.parked
      fun _ w hw => parked_bind (event_writes _) hw fun _ w hw => ?_
    exact parked_bind (statement_writes _) hw fun _ w hw =>
      parked_bind (statement_writes _) hw fun _ w hw => hw

theorem bookRecheck_ready (current desired : ℚ) (sizing : SubmitSizing) (hw : Ready side w) :
    Passes now (preSubmitBookRecheck order current desired sizing)
      (Then side fun _ => Ready side) w := by
  refine ready_bind (only_whenOr (only_orElse trivial)) hw fun _ w hw =>
    guarantees_ite (fun _ => ?_) fun _ => hw
  refine ready_bind (only_orElse trivial) hw fun _ w hw => ready_bind (only_run trivial) hw
    fun guards w hw => ?_
  cases guards with
  | passes => exact hw
  | _ =>
    exact ready_bind (event_writes _) hw fun _ w hw => ready_bind (event_writes _) hw
      fun _ w hw => (guarantees_bind _ _ _ _).mpr guardWaiting_ruledOut

theorem submitGuarded_kept (hrow : EngineRow side order) (current price : ℚ)
    (sizing : SubmitSizing) (hw : Ready side w) :
    Passes now (submitGuarded order current price sizing) (Then side fun _ => Kept side) w := by
  refine ready_bind (only_run trivial) hw fun _ w hw => guarantees_ite (fun _ => ?_) fun _ => ?_
  · exact parked_end (parked_run (.bind (event_writes _) fun _ => .bind (only_run rfl) fun _ =>
      event_writes _) hw.parked)
  refine ready_bind (submitInventory_ready hrow _ _) hw fun sizing w hw => ?_
  cases sizing with
  | none => exact hw.kept
  | some sizing =>
    refine ready_bind (statement_writes _) hw fun _ w hw => ?_
    refine then_bind (bookRecheck_ready _ _ _ hw) fun rechecked w hw => ?_
    cases rechecked with
    | none => exact hw.kept
    | some rechecked => exact submitRechecked_kept hrow _ _ _ hw

theorem submit_kept (hrow : EngineRow side order) (current : ℚ) (bestAsk : Option ℚ) (usdc : ℚ)
    (hw : Ready side w) :
    Passes now (submitTradeBuilderTriggerOrder order current bestAsk usdc)
      (Then side fun _ => Kept side) w := by
  refine ready_bind (silent_writes (desiredPrice_silent _ _ _)) hw fun price w hw => ?_
  refine ready_bind (only_whenOr (only_orElse trivial)) hw fun available w hw => ?_
  refine ready_bind (only_whenOr (only_orElse trivial)) hw fun missing w hw =>
    guarantees_ite (fun _ => ?_) fun _ => ?_
  · exact ready_end (.bind (event_writes _) fun _ => exitSellRetry_ready _ _ _ _ _ _) hw
  refine ready_bind (only_when (silent_writes reportPriceCap_silent)) hw fun _ w hw => ?_
  split
  · exact hw.parked
  · refine ready_bind (only_when (only_discard (only_run trivial))) hw fun _ w hw => ?_
    refine then_bind (submitGuards_endsIf _ hw) fun stopped w hw => ?_
    cases stopped with
    | true => exact Parked.kept hw
    | false => exact submitGuarded_kept hrow _ _ _ hw

theorem submitTriggered_kept (hrow : EngineRow side order) (price : RuntimePrice)
    (hw : Ready side w) :
    Passes now (submitTriggered order price) (Then side fun _ => Kept side) w := by
  have hlatch : maybeLatchTradeBuilderStopLoss order = pure order := by
    rw [maybeLatchTradeBuilderStopLoss, if_pos (.inl (by simp [hrow.not_stopLoss]))]
  rw [submitTriggered, hlatch, Prog.pure_bind]
  refine ready_bind (statement_writes _) hw fun _ w hw => ?_
  refine ready_bind (statement_writes _) hw fun _ w hw => ?_
  refine guarantees_ite (fun _ => submit_kept hrow _ _ _ hw) fun _ => ?_
  refine ready_bind (only_run trivial) hw fun _ w hw => guarantees_ite (fun _ => ?_) fun _ => ?_
  · exact parked_end (parked_run (.bind (only_run rfl) fun _ => event_writes _) hw.parked)
  · exact ready_bind (only_run trivial) hw fun _ w hw => submit_kept hrow _ _ _ hw

theorem confirmAndSubmit_kept (hrow : EngineRow side order) (price : RuntimePrice)
    (hw : Ready side w) :
    Passes now (confirmAndSubmit order price) (Then side fun _ => Kept side) w := by
  refine ready_bind (only_whenOr (only_orElse trivial)) hw fun _ w hw =>
    guarantees_ite (fun _ => ?_) fun _ => guarantees_ite (fun _ => ?_) fun _ =>
      submitTriggered_kept hrow _ hw
  · exact ready_end (only_when (.bind (only_run rfl) fun _ => event_writes _)) hw
  · refine ready_bind (only_run rfl) hw fun _ w hw => ?_
    refine ready_bind (event_writes _) hw fun _ w hw => submitTriggered_kept ?_ _ hw
    exact ⟨hrow.immediate, hrow.unpaired, hrow.fromFlow, hrow.side⟩

theorem releaseUntriggered_ready (price : ℚ) :
    Only (Writes OrderUpdate.staysListed) (releaseUntriggered order price) :=
  .bind (only_when (.bind (only_run rfl) fun _ => event_writes _)) fun _ =>
    only_ite (fun _ => .bind (only_run rfl) fun _ => event_writes _) fun _ =>
      only_ite (fun _ => .bind (only_run rfl) fun _ => event_writes _) fun _ =>
        .bind (only_when (.bind (only_run rfl) fun _ => event_writes _)) fun _ => only_run rfl

theorem evaluateAndSubmit_kept (hrow : EngineRow side order) (price : RuntimePrice)
    (hw : Ready side w) :
    Passes now (evaluateAndSubmit order price) (Then side fun _ => Kept side) w := by
  refine ready_bind (only_whenOr (only_orElse trivial)) hw fun _ w hw =>
    guarantees_ite (fun _ => ?_) fun _ => ?_
  · exact ready_end (.bind (event_writes _) fun _ => only_run rfl) hw
  · refine ready_bind (silent_writes (evaluateTrigger_silent _ _)) hw fun _ w hw =>
      guarantees_ite (fun _ => ?_) fun _ => ready_end (releaseUntriggered_ready _) hw
    refine ready_bind (only_when (event_writes _)) hw fun _ w hw => ?_
    exact ready_bind (only_run rfl) hw fun _ w hw => confirmAndSubmit_kept hrow _ hw

end Passes

end PolymarketBot.Builder
