import PolymarketBot.Builder.ListedPass

/-! The reconcile of an open order, the head of a pass and its error handler keep the guarantee
of listed orders. -/

namespace PolymarketBot.Builder
open Lib Prog

section Reconcile
variable {now : ℤ} {side : Side} {α β : Type} {w : World} {order : TradeBuilderOrder} {id : ℕ}
  {info : OrderInfo}

theorem finalizeReplacement_parked (hrow : EngineRow side order) (size : ℚ)
    (hw : Parked side w) :
    Passes now (finalizeReplacement order size) (Then side fun _ => Parked side) w := by
  refine guarantees_ite (fun _ => ?_) fun _ => finalize_parked hrow _ _ _ _ hw
  exact parked_bind (silent_writes (requireEntryQty_silent _)) hw fun _ w hw =>
    finalize_parked hrow _ _ _ _ hw

theorem placeReplacement_kept (hrow : EngineRow side order) (price size : ℚ)
    (usdc qty : Option ℚ) (isPartial : Bool) (hw : Ready side w) :
    Passes now (placeReplacement order price size usdc qty isPartial)
      (Then side fun _ => Kept side) w := by
  refine then_bind (place_accepted _ hw) fun placed w hw => ?_
  cases placed with
  | error e => exact parked_end (placeError_parked hrow _ _ _ _ hw)
  | ok ack =>
    refine accepted_call trivial trivial trivial hw fun _ w hw => ?_
    refine accepted_store hw (fun w hfilled hw => ?_) fun w hw => ?_
    · refine held_when hw (event_held _ hw) fun w hw => ?_
      refine held_call trivial trivial trivial hw fun _ w hw => ?_
      rw [Job.when, if_neg hfilled]
      exact hw.kept
    · refine parked_bind (only_when (event_writes _)) hw fun _ w hw => ?_
      refine parked_bind (event_writes _) hw fun _ w hw => ?_
      exact parked_end (parked_when (fun _ => finalizeReplacement_parked hrow _ hw) hw)

theorem replaceCanceled_kept (hrow : EngineRow side order) (price size : ℚ)
    (requested usdc qty : Option ℚ) (isPartial : Bool) (stage : Option ExitSubmitStage)
    (hw : Ready side w) :
    Passes now (replaceCanceled order price size requested usdc qty isPartial stage)
      (Then side fun _ => Kept side) w := by
  refine ready_bind (statement_writes _) hw fun _ w hw =>
    guarantees_ite (fun _ => parked_end (suppressReprice_parked hw.parked)) fun _ => ?_
  refine then_bind (belowMarketMin_endsIf _ _ _ _ hw) fun handled w hw => ?_
  cases handled with
  | true => exact Parked.kept hw
  | false =>
    exact ready_bind (only_when (event_writes _)) hw fun _ w hw =>
      placeReplacement_kept hrow _ _ _ _ _ hw

theorem finalizeTerminalMatch_parked (hrow : EngineRow side order) (event : String)
    (force : Bool) (hw : Parked side w) :
    Passes now (finalizeTerminalMatch order id info event force)
      (Then side fun _ => Parked side) w := by
  refine parked_bind (silent_writes (resolveFinalizeQuantities_silent _ _ _)) hw fun _ w hw => ?_
  refine parked_bind (statement_writes _) hw fun _ w hw => ?_
  refine parked_bind (event_writes _) hw fun _ w hw => ?_
  exact finalize_parked hrow _ _ _ _ hw

theorem Holds.nothingLive_of_unknown (h : Holds id w) (he : w.exchangeOrder id = none) :
    NothingLive w := by
  refine ⟨h.tracked.ids, fun e hmem => ?_⟩
  cases hl : e.isLive with
  | false => rfl
  | true =>
    simp only [World.exchangeOrder, List.find?_eq_none, beq_iff_eq] at he
    exact absurd (Option.some.inj (h.only e hmem hl)).symm (he e hmem)

theorem cancel_ready (hw : HoldsListed side id w) :
    Passes now (Job.tryRun (.cancel id)) (Then side fun _ => Ready side) w := by
  refine (guarantees_attempt _ _ _).mpr ((guarantees_perform _ _ _).mpr fun r hok => ?_)
  have hs := staysListed_act (c := .cancel id) hw.row hw.listed trivial hok
  have hholds : Holds id (r.arrive w) := hw.holds.evolves (.arrive r w)
  have hdead : NothingLive (act (.cancel id) w r).2 := by
    cases hf : r.fails with
    | some f => exact hok.dead_of_fails hw.holds.tracked.ids (by simp [hf])
    | none =>
      have hstop := hok.honest.canceled id rfl
      simp only [act, hf]
      have hanswer := answer_cancel id (r.arrive w) r
      generalize answer (.cancel id) (r.arrive w) r = x at hanswer ⊢
      cases hanswer with
      | ignored h =>
        obtain ⟨e, hmem, hid, hl⟩ := hstop h id rfl
        exact hholds.nothingLive hmem hid hl
      | canceled e he hm => exact hholds.canceled
      | matched e he hm =>
        obtain ⟨hmem, hid⟩ := World.exchangeOrder_mem he
        exact hholds.nothingLive hmem hid (by simp [ExchangeOrder.isLive, hm])
      | unknown he => exact hholds.nothingLive_of_unknown he
  exact ⟨hs.guarantee, hdead, hs.row, hs.listed, hs.unfired hw.unfired⟩

theorem cancelAndReplace_kept (hrow : EngineRow side order) (price size : ℚ)
    (requested usdc qty : Option ℚ) (isPartial : Bool) (stage : Option ExitSubmitStage)
    (hw : HoldsListed side id w) :
    Passes now (cancelAndReplace order id info price size requested usdc qty isPartial stage)
      (Then side fun _ => Kept side) w := by
  refine then_bind (cancel_ready hw) fun canceled w hw => ?_
  cases canceled with
  | error e =>
    exact guarantees_ite (fun _ => parked_end (finalizeTerminalMatch_parked hrow _ _ hw.parked))
      fun _ => hw.parked
  | ok _ =>
    refine guarantees_ite (fun _ => ?_) fun _ => replaceCanceled_kept hrow _ _ _ _ _ _ _ hw
    refine then_bind (postCancelBuyFill_endsIf hrow hw) fun outcome w hw => ?_
    cases outcome with
    | finalized => exact Parked.kept hw
    | noFill => exact replaceCanceled_kept hrow _ _ _ _ _ _ _ hw

theorem guardWithoutFill_parked (guard : GuardCancel) (size qty : Option ℚ)
    (hw : Parked side w) :
    Passes now (guard.withoutFill order size qty) (Then side fun _ => Parked side) w := by
  have hwaits : Only (Writes OrderUpdate.finishes) (guard.waits order) := by
    cases guard with
    | triggerPrice => trivial
    | maxPrice =>
      exact only_ite (fun _ => trivial) fun _ => only_ite (fun _ => only_run trivial)
        fun _ => trivial
  refine parked_bind hwaits hw fun _ w hw => guarantees_ite (fun _ => ?_) fun _ => ?_
  · exact parked_bind (only_when (only_run rfl)) hw fun _ w hw => guardWaiting_ruledOut
  · exact parked_run (.bind (only_run rfl) fun _ => .bind (only_run rfl) fun _ =>
      .bind (statement_writes _) fun _ => only_when (statement_writes _)) hw

theorem cancelAtGuard_kept (hrow : EngineRow side order) (guard : GuardCancel)
    (size qty : Option ℚ) (hw : HoldsListed side id w) :
    Passes now (cancelOpenOrderAtGuard guard order id info size qty)
      (Then side fun _ => Kept side) w := by
  refine then_bind (cancel_ready hw) fun canceled w hw => ?_
  cases canceled with
  | error e =>
    exact guarantees_ite (fun _ => parked_end (finalizeTerminalMatch_parked hrow _ _ hw.parked))
      fun _ => hw.parked
  | ok _ =>
    refine parked_end (parked_bind (statement_writes _) hw.parked fun _ w hw => ?_)
    refine parked_bind (event_writes _) hw fun _ w hw => ?_
    split
    · exact parked_bind (silent_writes (requireEntryQty_silent _)) hw fun _ w hw =>
        finalize_parked hrow _ _ _ _ hw
    · exact guardWithoutFill_parked _ _ _ hw

theorem available_held {f : Option ℚ → Job β} {S : β → World → Prop}
    (hw : HoldsListed side id w)
    (hf : ∀ a w', HoldsListed side id w' → ((∀ q, a = some q → 1 / 100 ≤ q) ∨ NothingLive w') →
      Passes now (f a) (Then side S) w') :
    Passes now (Job.orElse .availableTokenQty none >>= f) (Then side S) w := by
  refine then_bind (R := fun a w' => HoldsListed side id w' ∧
    ((∀ q, a = some q → 1 / 100 ≤ q) ∨ NothingLive w')) ?_ fun a w' h => hf a w' h.1 h.2
  refine (guarantees_bind _ _ _ _).mpr ((guarantees_attempt _ _ _).mpr
    ((guarantees_perform _ _ _).mpr fun r hok => ?_))
  obtain ⟨hg, hnext⟩ := hw.step (c := .availableTokenQty) trivial trivial hok
  refine ⟨hg, ?_⟩
  cases hfail : r.fails with
  | some f =>
    simp only [act, hfail] at hnext ⊢
    exact ⟨hnext, .inl fun q hq => absurd hq.symm (Option.some_ne_none q)⟩
  | none =>
    simp only [act, hfail, answer] at hnext ⊢
    by_cases hl : (r.arrive w).hasLive
    · exact ⟨hnext, .inl (hok.inventory rfl hl)⟩
    · exact ⟨hnext, .inr (nothingLive_of_not_hasLive hnext.holds.tracked.ids hl)⟩

theorem shareInventory_held (hrow : EngineRow side order)
    (hopt : tradeBuilderShouldUseOptimisticExitSubmit order = true) (price : ℚ) {size : ℚ}
    (hs : 1 / 100 ≤ size) (hw : HoldsListed side id w) :
    Passes now (resolveShareInventory order price size none) (Then side fun submit w' =>
      match submit with
      | some _ => HoldsListed side id w'
      | none => Ready side w') w := by
  rw [resolveShareInventory, if_neg (by simp [hopt])]
  split
  · have hestimate : tradeBuilderEstimatedVisibleExitQty order size = pure none := by
      rw [tradeBuilderEstimatedVisibleExitQty, if_neg (by simp [hrow.not_childExit])]
    rw [resolveDynamicGross, hestimate, Prog.pure_bind]
    exact held_when hw (event_held _ hw) fun w hw => hw
  · exact hw
  · rw [resolveInventoryOrRetry, availableQtyOr_none]
    refine available_held hw fun available w hw hq => ?_
    cases hclamp : clampTradeBuilderVisibleShareQty size available with
    | some qty => exact hw
    | none =>
      have hdead : NothingLive w := by
        obtain hq | hdead := hq
        · obtain ⟨q, hsome⟩ := clamp_isSome hs hq
          rw [hclamp] at hsome
          cases hsome
        · exact hdead
      exact ready_bind (exitSellRetry_ready _ _ _ _ _ _) (hw.ready hdead) fun _ w hw => hw

theorem repriceOpenOrder_kept (hrow : EngineRow side order)
    {current : ℚ} (runtime : ℚ) (bestAsk : Option ℚ) {desired : ℚ}
    (hs : 0 < replaceSize order (estimateRemainingTradeBuilderSizing order info current) desired)
    (hw : HoldsListed side id w) :
    Passes now (repriceOpenOrder order id info runtime bestAsk desired
      (estimateRemainingTradeBuilderSizing order info current)) (Then side fun _ => Kept side) w := by
  refine guarantees_ite (fun h => absurd hs (not_lt.mpr h)) fun _ =>
    guarantees_ite (fun _ => cancelAtGuard_kept hrow _ _ _ hw) fun _ =>
      guarantees_ite (fun _ => cancelAtGuard_kept hrow _ _ _ hw) fun _ =>
        guarantees_ite (fun hb => ?_) fun _ => cancelAndReplace_kept hrow _ _ _ _ _ _ _ hw
  refine then_bind (shareInventory_held hrow (hrow.optimistic hb.1 hb.2) desired
    (replaceSize_ge hb.2 hs) hw) fun submit w hw => ?_
  cases submit with
  | none => exact Ready.kept hw
  | some submit => exact cancelAndReplace_kept hrow _ _ _ _ _ _ _ hw

theorem desiredPrice_held (current : ℚ) (bestAsk : Option ℚ) {f : ℚ → Job β} {S : β → World → Prop}
    (hw : HoldsListed side id w)
    (hf : ∀ p w', HoldsListed side id w' → Passes now (f (clampProbability p)) (Then side S) w') :
    Passes now (desiredPriceOf order (clampProbability current) bestAsk >>= f) (Then side S) w := by
  refine then_bind (R := fun price w' => HoldsListed side id w' ∧ ∃ p, price = clampProbability p)
    ?_ fun price w' h => by
      obtain ⟨hw', p, rfl⟩ := h
      exact hf p w' hw'
  unfold desiredPriceOf
  cases hside : order.side with
  | sell =>
    refine (guarantees_bind _ _ _ _).mpr ((guarantees_attempt _ _ _).mpr
      ((guarantees_perform _ _ _).mpr fun r hok => ?_))
    obtain ⟨hg, hnext⟩ := hw.step (c := .sellSubmitPrice) trivial trivial hok
    refine ⟨hg, ?_⟩
    cases hfail : r.fails with
    | some f =>
      simp only [act, hfail] at hnext ⊢
      exact ⟨hnext, current, rfl⟩
    | none =>
      simp only [act, hfail, answer] at hnext ⊢
      exact ⟨hnext, r.price.price, rfl⟩
  | buy => exact ⟨hw, buyPrice_clamped hside current bestAsk⟩

theorem reconcileOpen_kept (hrow : EngineRow side order)
    (hopen : info.status = .opened ∨ info.status = .partiallyFilled) (ho : OpenRemainder order info)
    (current : ℚ) (bestAsk : Option ℚ) (hw : HoldsListed side id w) :
    Passes now (reconcileOpen order id info (clampProbability current) bestAsk)
      (Then side fun _ => Kept side) w := by
  rw [reconcileOpen, Job.when, if_neg (by simp [hrow.not_childExit]), Prog.pure_bind]
  refine desiredPrice_held current bestAsk hw fun desired w hw => ?_
  refine held_when hw ?_ fun w hw => ?_
  · exact held_orElse trivial trivial hw fun capped w hw =>
      guarantees_ite (fun _ => event_held _ hw) fun _ => hw
  refine held_call trivial trivial trivial hw fun _ w hw => guarantees_ite (fun hr => ?_) fun _ => ?_
  · exact repriceOpenOrder_kept hrow _ _ (ho current desired hr) hw
  · have hlisted : isActiveOrderStatus info.status.toOrderStatus = true := by
      obtain h | h := hopen <;> rw [h] <;> rfl
    have hstore : Passes now (Job.update _ >>= pure) (Then side fun _ => Kept side) w :=
      held_call (c := .update (.setWorkingState (some id) order.workingPrice
        (estimateRemainingTradeBuilderSizing order info (clampProbability current)).1
        (estimateRemainingTradeBuilderSizing order info (clampProbability current)).2
        info.status.toOrderStatus)) trivial (.inr rfl) hlisted hw fun _ _ h => h.kept
    rwa [Prog.bind_pure] at hstore

/-- A pass reads the row of the order it holds; the row is still the one it read. -/
structure Reading (side : Side) (order : TradeBuilderOrder) (id : ℕ) (w : World) : Prop where
  held : HoldsListed side id w
  same : w.order = order

theorem Reading.step {c : Call} {r : Reply} (h : Reading side order id w) (hc : Silent c)
    (hok : ListedOk now c w r) :
    ListedGuarantee w (act c w r).2 ∧ Reading side order id (act c w r).2 := by
  obtain ⟨hg, hnext⟩ := h.held.step (c := c) (by cases c <;> trivial) hc.writes hok
  refine ⟨hg, hnext, ?_⟩
  obtain ho | ⟨u, hu, -⟩ := hok.act_order (k := fun _ => false) hc.writes
  · exact ho.trans h.same
  · cases hu

theorem reading_call {c : Call} {f : Answer c → Job β} {S : β → World → Prop}
    (hn : NeverRefused c) (hc : Silent c) (hw : Reading side order id w)
    (hf : ∀ a w', Reading side order id w' → Passes now (f a) (Then side S) w') :
    Passes now (Job.run c >>= f) (Then side S) w := by
  refine then_bind (R := fun _ => Reading side order id)
    ((guarantees_perform _ _ _).mpr fun r hok => ?_) hf
  obtain ⟨hg, hnext⟩ := hw.step hc hok
  refine ⟨hg, ?_⟩
  cases h : (act c w r).1 with
  | ok a => exact hnext
  | error e =>
    exact ⟨hok.dead_of_fails hw.held.holds.tracked.ids (fails_of_error hn h), hnext.held.row,
      .inl hnext.held.listed⟩

theorem status_held {f : OrderInfo → Job β} {S : β → World → Prop}
    (hw : Reading side order id w)
    (hopen : ∀ info w', HoldsListed side id w' → OpenRemainder order info →
      (info.status = .opened ∨ info.status = .partiallyFilled) →
      Passes now (f info) (Then side S) w')
    (hended : ∀ info w', Ready side w' → info.status ≠ .opened → info.status ≠ .partiallyFilled →
      Passes now (f info) (Then side S) w') :
    Passes now (Job.run (.status id) >>= f) (Then side S) w := by
  refine then_bind (R := fun info w' => Passes now (f info) (Then side S) w')
    ((guarantees_perform _ _ _).mpr fun r hok => ?_) fun _ _ h => h
  obtain ⟨hg, hnext⟩ := hw.held.step (c := .status id) trivial trivial hok
  refine ⟨hg, ?_⟩
  cases hf : r.fails with
  | some f =>
    have hdead := hok.dead_of_fails hw.held.holds.tracked.ids (by simp [hf])
    simp only [act, hf] at hnext hdead ⊢
    exact ⟨hdead, hnext.row, .inl hnext.listed⟩
  | none =>
    have hholds : Holds id (r.arrive w) := hw.held.holds.evolves (.arrive r w)
    have horder := hok.arrive_order.trans hw.same
    simp only [act, hf, answer] at hnext ⊢
    cases he : (r.arrive w).exchangeOrder id with
    | none =>
      simp only [he] at hnext ⊢
      exact (hnext.ready (hholds.nothingLive_of_unknown he)).parked
    | some e =>
      obtain ⟨hmem, hid⟩ := World.exchangeOrder_mem he
      have hreport := hok.honest.reported id e rfl he
      simp only [he] at hnext ⊢
      cases hl : e.isLive with
      | false =>
        have hdead := hholds.nothingLive hmem hid hl
        have hopened : (e.info r).status ≠ .opened := fun h =>
          absurd (hreport.mp (.inl h)) (by simp [hl])
        have hpartial : (e.info r).status ≠ .partiallyFilled := fun h =>
          absurd (hreport.mp (.inr h)) (by simp [hl])
        exact hended _ _ (hnext.ready ⟨hdead.ids, hdead.dead⟩) hopened hpartial
      | true =>
        exact hopen _ _ hnext (horder ▸ hok.remainder id e rfl he hl) (hreport.mpr hl)

theorem reconcile_kept (hrow : EngineRow side order)
    (hstatus : isActiveOrderStatus order.status = true) (current : ℚ) (bestAsk : Option ℚ)
    (hw : Reading side order id w) :
    Passes now (reconcileTradeBuilderOpenOrder order id (clampProbability current) bestAsk)
      (Then side fun _ => Kept side) w := by
  have hnot : order.status ≠ .canceledRequested := by
    intro h
    rw [h] at hstatus
    cases hstatus
  rw [reconcileTradeBuilderOpenOrder, if_neg hnot]
  refine status_held hw (fun info w hw ho hopen => ?_) fun info w hw ho hp => ?_
  · refine held_call trivial trivial trivial hw fun _ w hw => ?_
    have hgo : Passes now _ _ w := reconcileOpen_kept hrow hopen ho current bestAsk hw
    obtain h | h := hopen
    · rw [h]
      exact hgo
    · rw [h]
      exact hgo
  · refine ready_bind (statement_writes _) hw fun _ w hw => ?_
    cases hs : info.status with
    | opened => exact absurd hs ho
    | partiallyFilled => exact absurd hs hp
    | filled => exact parked_end (reconcileFilled_parked hrow hw.parked)
    | _ => exact parked_end (reconcileTerminal_parked hrow hw)

end Reconcile

section Head
variable {now : ℤ} {side : Side} {α β : Type} {w : World} {order : TradeBuilderOrder}

theorem pairLockRuntime_engine (hrow : EngineRow side order) :
    maybeApplyTradeBuilderPairLockRuntime order = pure (.goes order) := by
  rw [maybeApplyTradeBuilderPairLockRuntime,
    if_pos (.inl (by simp [tradeBuilderOrderUsesPairLock, hrow.unpaired]))]

theorem preemptTakeProfit_engine (hrow : EngineRow side order) :
    maybePreemptTradeBuilderTakeProfit order = pure (order, false) := by
  rw [maybePreemptTradeBuilderTakeProfit, if_pos (by simp [hrow.not_takeProfit])]

theorem eligibilityWindow_finishes :
    Only (Writes OrderUpdate.finishes) (maybeHandleEligibilityWindow order now) := by
  unfold maybeHandleEligibilityWindow
  split
  · trivial
  · trivial
  · exact .bind (only_run rfl) fun _ => .bind (event_writes _) fun _ =>
      .bind (statement_writes _) fun _ => trivial

theorem staleOrder_finishes :
    Only (Writes OrderUpdate.finishes) (maybeExpireTradeBuilderStaleOrder order) :=
  only_ite (fun _ => trivial) fun _ => .bind (only_run trivial) fun _ => only_ite (fun _ =>
    .bind (only_run rfl) fun _ => .bind (event_writes _) fun _ =>
      .bind (only_when (statement_writes _)) fun _ => .bind (statement_writes _) fun _ => trivial)
    fun _ => trivial

theorem processLive_canceled (hrow : EngineRow side order)
    (hstatus : order.status = .canceledRequested) :
    Only (Writes OrderUpdate.finishes) (processLive order now) := by
  refine .bind eligibilityWindow_finishes fun _ => only_ite (fun _ => trivial) fun _ =>
    .bind staleOrder_finishes fun _ => only_ite (fun _ => trivial) fun _ => ?_
  rw [pairLockRuntime_engine hrow, Prog.pure_bind]
  refine .bind (only_run trivial) fun price => ?_
  cases price with
  | none => exact event_writes _
  | some price =>
    refine .bind (statement_writes _) fun _ => ?_
    rw [preemptTakeProfit_engine hrow, Prog.pure_bind]
    refine only_ite (fun _ => only_run rfl) fun _ => ?_
    cases order.activeExchangeOrderId with
    | some id =>
      refine .bind ?_ fun _ => only_run rfl
      rw [reconcileTradeBuilderOpenOrder, if_pos hstatus]
      exact .bind (only_run trivial) fun _ => .bind (statement_writes _) fun _ =>
        .bind (only_run rfl) fun _ => event_writes _
    | none =>
      exact only_ite (fun _ => .bind (only_run rfl) fun _ => event_writes _) fun h =>
        absurd hstatus h

theorem processLive_ready (hrow : EngineRow side order)
    (hstatus : isActiveOrderStatus order.status = true)
    (hid : order.activeExchangeOrderId = none) (hw : Ready side w) :
    Passes now (processLive order now) (Then side fun _ => Kept side) w := by
  have hnot : order.status ≠ .canceledRequested := by
    intro h
    rw [h] at hstatus
    cases hstatus
  refine then_bind (R := EndsIf side) ?_ fun ended w hw => ?_
  · unfold maybeHandleEligibilityWindow
    split
    · exact hw.parked
    · exact hw
    · exact parked_bind (only_run rfl) hw.parked fun _ w hw =>
        parked_bind (event_writes _) hw fun _ w hw =>
          parked_bind (statement_writes _) hw fun _ w hw => hw
  cases ended with
  | true => exact Parked.kept hw
  | false =>
    rw [if_neg Bool.false_ne_true]
    have hw : Ready side w := hw
    refine then_bind (R := EndsIf side) ?_ fun ended w hw => ?_
    · refine guarantees_ite (fun _ => hw) fun _ => ?_
      refine ready_bind (only_run trivial) hw fun _ w hw => guarantees_ite (fun _ => ?_) fun _ => hw
      exact parked_bind (only_run rfl) hw.parked fun _ w hw =>
        parked_bind (event_writes _) hw fun _ w hw =>
          parked_bind (only_when (statement_writes _)) hw fun _ w hw =>
            parked_bind (statement_writes _) hw fun _ w hw => hw
    cases ended with
    | true => exact Parked.kept hw
    | false =>
      rw [if_neg Bool.false_ne_true, pairLockRuntime_engine hrow, Prog.pure_bind]
      have hw : Ready side w := hw
      refine ready_bind (only_run trivial) hw fun price w hw => ?_
      cases price with
      | none => exact ready_end (event_writes _) hw
      | some price =>
        refine ready_bind (statement_writes _) hw fun _ w hw => ?_
        rw [preemptTakeProfit_engine hrow, Prog.pure_bind]
        refine guarantees_ite (fun h => absurd h.1 Bool.false_ne_true) fun _ => ?_
        rw [hid]
        exact guarantees_ite (fun h => absurd h hnot) fun _ => evaluateAndSubmit_kept hrow _ hw

theorem lastSeen_kept (price : ℚ) (hw : Kept side w) :
    Passes now (Job.update (.setLastSeenPrice price)) (Then side fun _ => Kept side) w := by
  refine (guarantees_perform _ _ _).mpr fun r hok => ?_
  obtain ⟨hg, hnext⟩ := hw.step (c := .update (.setLastSeenPrice price)) rfl rfl hok
  refine ⟨hg, ?_⟩
  cases h : (act (.update (.setLastSeenPrice price)) w r).1 with
  | ok a => exact hnext
  | error e =>
    exact ⟨hok.dead_of_fails hw.tracked.ids (fails_of_error
      (c := .update (.setLastSeenPrice price)) trivial h), hnext.row, hnext.status.imp_right And.right⟩

theorem processLive_reading {id : ℕ} (hrow : EngineRow side order)
    (hstatus : isActiveOrderStatus order.status = true)
    (hid : order.activeExchangeOrderId = some id) (hw : Reading side order id w) :
    Passes now (processLive order now) (Then side fun _ => Kept side) w := by
  have hwindow : maybeHandleEligibilityWindow order now = pure false := by
    simp [maybeHandleEligibilityWindow, classifyTradeBuilderOrderEligibilityWindow, hid]
  have hstale : maybeExpireTradeBuilderStaleOrder order = pure false := by
    rw [maybeExpireTradeBuilderStaleOrder, if_pos (by simp [hid])]
  rw [processLive, hwindow, Prog.pure_bind, if_neg Bool.false_ne_true, hstale, Prog.pure_bind,
    if_neg Bool.false_ne_true, pairLockRuntime_engine hrow, Prog.pure_bind]
  refine then_bind (R := fun price w' => Reading side order id w' ∧
      ∀ q, price = some q → ∃ p, q = { q with price := clampProbability p })
    ((guarantees_perform _ _ _).mpr fun r hok => ?_) fun price w hw => ?_
  · obtain ⟨hg, hnext⟩ := hw.step (c := .runtimePrice) trivial hok
    refine ⟨hg, ?_⟩
    cases h : (act .runtimePrice w r).1 with
    | ok a => exact ⟨hnext, fun q hq => runtimePrice_clamped (hq ▸ h)⟩
    | error e =>
      exact ⟨hok.dead_of_fails hw.held.holds.tracked.ids
        (fails_of_error (c := .runtimePrice) trivial h), hnext.held.row, .inl hnext.held.listed⟩
  obtain ⟨hw, hclamped⟩ := hw
  cases price with
  | none =>
    exact guarantees_mono (event_held _ hw.held) fun x _ h => by
      cases x with
      | ok a => exact HoldsListed.kept h
      | error e => exact h
  | some price =>
    obtain ⟨p, hp⟩ := hclamped price rfl
    rw [hp]
    refine reading_call trivial trivial hw fun _ w hw => ?_
    rw [preemptTakeProfit_engine hrow, Prog.pure_bind]
    refine guarantees_ite (fun h => absurd h.1 Bool.false_ne_true) fun _ => ?_
    rw [hid]
    exact then_bind (reconcile_kept hrow hstatus p _ hw) fun _ w hw => lastSeen_kept _ hw

theorem processOrder_kept (horder : w.order = order)
    (hexpired : orderExpired order now = true → ¬ w.hasLive)
    (hw : Kept side w) :
    Passes now (processOrder order now) (Then side fun _ => Kept side) w := by
  have hrow : EngineRow side order := horder ▸ hw.row
  have hparked : ¬ w.hasLive → Parked side w := fun hl =>
    ⟨nothingLive_of_not_hasLive hw.tracked.ids hl, hw.row, hw.status.imp_right And.right⟩
  refine guarantees_ite (fun _ => hw) fun hprocessable => guarantees_ite (fun hfired => ?_)
    fun hfired => guarantees_ite (fun he => ?_) fun _ => ?_
  · have hdead : ¬ w.hasLive := fun hl => by
      have := hw.unfired hl
      rw [horder] at this
      omega
    exact parked_end (parked_run (.bind (only_run rfl) fun _ => .bind (event_writes _) fun _ =>
      only_ignore (statement_writes _)) (hparked hdead))
  · exact parked_end (parked_run (only_ite (fun _ => .bind (only_run rfl) fun _ =>
      .bind (event_writes _) fun _ => statement_writes _) fun _ => trivial)
      (hparked (hexpired he)))
  · obtain hlisted | ⟨hdead, hfinished⟩ := hw.status
    · have hstatus : isActiveOrderStatus order.status = true := horder ▸ hlisted
      have hunfired : w.order.triggersFired < w.order.maxTriggers := by
        rw [horder]
        by_contra hle
        refine hfired ⟨not_lt.mp hle, fun hcompleted => ?_⟩
        rw [hcompleted] at hstatus
        cases hstatus
      cases hid : order.activeExchangeOrderId with
      | none =>
        exact processLive_ready hrow hstatus hid
          ⟨hw.tracked.nothingLive (horder ▸ hid), hw.row, hlisted, hunfired⟩
      | some id =>
        exact processLive_reading hrow hstatus hid
          ⟨⟨⟨hw.tracked, fun e he hl => (horder ▸ hid : w.order.activeExchangeOrderId =
            some id).symm.trans (hw.tracked.tracked e he hl)⟩, hw.row, hlisted, hunfired⟩, horder⟩
    · have hcanceled : order.status = .canceledRequested :=
        horder ▸ hfinished.unprocessed (horder ▸ not_not.mp hprocessable)
      exact parked_end (parked_run (processLive_canceled hrow hcanceled)
        ⟨hdead, hw.row, .inr hfinished⟩)

theorem process_kept (hw : Kept side w) :
    Passes now (processTradeBuilderOrder now) (Then side fun _ => Kept side) w := by
  refine then_bind (R := fun order w' => Kept side w' ∧ w'.order = order ∧
      (orderExpired order now = true → ¬ w'.hasLive))
    ((guarantees_perform _ _ _).mpr fun r hok => ?_) fun order w' h =>
      processOrder_kept h.2.1 h.2.2 h.1
  obtain ⟨hg, hnext⟩ := hw.step (c := .getOrder) trivial trivial hok
  refine ⟨hg, ?_⟩
  cases hf : r.fails with
  | some f =>
    have hdead := hok.dead_of_fails hw.tracked.ids (by simp [hf])
    simp only [act, hf] at hnext hdead ⊢
    exact ⟨hdead, hnext.row, hnext.status.imp_right And.right⟩
  | none =>
    simp only [act, hf, answer] at hnext ⊢
    refine ⟨hnext, rfl, fun he hl => ?_⟩
    rw [hok.unexpired rfl hl] at he
    cases he

theorem error_run (e : ErrorText) (hw : Parked side w) :
    Passes now (Job.update (.setStatus .error (some e))) (Then side fun _ => Parked side) w := by
  have h : Passes now (Job.update (.setStatus .error (some e)) >>= pure)
      (Then side fun _ => Parked side) w := error_bind hw fun _ _ h => h
  rwa [Prog.bind_pure] at h

theorem retrigger_run (e : ErrorText) (hw : Parked side w) :
    Passes now (Job.update (.setStatus .triggered (some e))) (Then side fun _ => Parked side) w := by
  refine (guarantees_perform _ _ _).mpr fun r hok => ?_
  have hs := staysListed_act (c := .update (.setStatus .triggered (some e))) hw.row
    (hok.retries e rfl) rfl hok
  have hnext : Parked side (act (.update (.setStatus .triggered (some e))) w r).2 :=
    ⟨dead_after hw.dead (fun _ h => by cases h) r, hs.row, .inl hs.listed⟩
  refine ⟨hs.guarantee, ?_⟩
  cases (act (.update (.setStatus .triggered (some e))) w r).1 <;> exact hnext

theorem handleProcessingError_parked (e : ErrorText) (hw : Parked side w) :
    Passes now (handleProcessingError e) (Then side fun _ => Parked side) w := by
  have hmark : ∀ {w : World} {u : OrderUpdate} (name : String),
      Passes now (Job.update u) (Then side fun _ => Parked side) w →
      Passes now (do Job.ignore (Job.update u); Job.ignore (Job.event name))
        (Then side fun _ => Parked side) w := fun name hp =>
    then_bind (parked_ignore hp) fun _ _ hw => parked_ignore (parked_run (event_writes _) hw)
  refine parked_bind (only_tryRun trivial) hw fun latest w hw => ?_
  cases latest with
  | error e' => exact hmark _ (error_run e hw)
  | ok row =>
    exact guarantees_ite (fun _ => hmark _ (retrigger_run e hw)) fun _ =>
      hmark _ (error_run e hw)

theorem housekeepingPass_kept (hw : Kept side w) :
    Passes now (housekeepingPass now) (fun _ => Kept side) w := by
  refine (guarantees_bind _ _ _ _).mpr ((guarantees_attempt _ _ _).mpr ?_)
  have hload : Passes now (Job.statement .loadUser) (Then side fun _ => Kept side) w := by
    refine (guarantees_perform _ _ _).mpr fun r hok => ?_
    obtain ⟨hg, hnext⟩ := hw.step (c := .elsewhere .loadUser) trivial trivial hok
    refine ⟨hg, ?_⟩
    cases h : (act (.elsewhere .loadUser) w r).1 with
    | ok a => exact hnext
    | error e =>
      exact ⟨hok.dead_of_fails hw.tracked.ids (fails_of_error (c := .elsewhere .loadUser) trivial h),
        hnext.row, hnext.status.imp_right And.right⟩
  refine guarantees_mono (then_bind hload fun _ w hw => process_kept hw) fun x w hx => ?_
  cases x with
  | ok a => exact hx
  | error e =>
    exact guarantees_mono (handleProcessingError_parked e hx) fun x _ h => by
      cases x <;> exact Parked.kept h

theorem directPass_kept (hw : Kept side w) :
    Passes now (directPass now) (fun _ => Kept side) w :=
  (guarantees_bind _ _ _ _).mpr ((guarantees_attempt _ _ _).mpr
    (guarantees_mono (process_kept hw) fun x _ hx => by
      cases x with
      | ok a => exact hx
      | error e => exact Parked.kept hx))

end Head

end PolymarketBot.Builder
