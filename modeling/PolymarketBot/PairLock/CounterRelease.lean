import PolymarketBot.PairLock.CounterCap

/-! A counter leg waits in "inventory_pending" for the lead's fill. Which pass after that fill
brings it to the submit step, for either sizing and either kind of order. -/

namespace PolymarketBot.PairLock
open Lib Prog Builder

/-- The row of a counter that waits for the lead's fill; it was never submitted. -/
structure HeldCounter (order : TradeBuilderOrder) : Prop where
  status : order.status = .inventoryPending
  lastError : order.lastError = some (text "pair_counter_waiting_primary_fill")
  usesPairLock : tradeBuilderOrderUsesPairLock order = true
  role : order.pairLegRole = some .counterCandidate
  side : order.side = .buy
  unsubmitted : autoCounterHasStartedSubmitLifecycle order = false

/-- The session at work after the fill of the other leg was recorded. -/
structure LeadRecorded (p : LegPass) : Prop where
  working : p.session.status = .working
  counter : p.session.counterOrderId = some p.order.id
  lead : ∃ leadOrderId, p.session.leadOrderId = some leadOrderId ∧ leadOrderId ≠ p.order.id
  filled : p.session.leadFilledAt.isSome

/-- A triggered order opens its submit step with the fee rate. -/
def OpensSubmit (c : Call) : Prop := c = .elsewhere .feeRate

instance : DecidablePred OpensSubmit := fun c => inferInstanceAs (Decidable (c = _))

/-- A call that succeeds and answers as the rows of this pass and its market do. -/
def AnswersHeld (p : LegPass) (stale : Bool) (price : ℚ) (c : Call) (w : World) (r : Reply) :
    Prop :=
  r.fails = none ∧ (c = .getOrder → (r.arrive w).order = p.order) ∧
    (c = .check .staleMarket → r.yes = stale) ∧
    (c = .pairLockRuntime → r.pairLock = p.applyRuntime.toAction) ∧
    (c = .runtimePrice → r.priceMissing = false ∧ clampProbability r.price.price = price)

instance (p : LegPass) (stale : Bool) (price : ℚ) (c : Call) (w : World) (r : Reply) :
    Decidable (AnswersHeld p stale price c w r) :=
  inferInstanceAs (Decidable (_ ∧ _))

/-- A pass of a held counter after the lead's fill, up to its submit step. -/
structure ReleasePass (p : LegPass) (stale : Bool) (price : ℚ) (job : Job Unit)
    (replies : List Reply) (w : World) : Prop where
  held : HeldCounter p.order
  recorded : LeadRecorded p
  started : job = processTradeBuilderOrder p.now
  answers : MeetsBefore act (AnswersHeld p stale price) OpensSubmit job replies w

/-- The row is not over before its pass asks the session. -/
structure PassAlive (p : LegPass) (stale : Bool) : Prop where
  triggersLeft : p.order.triggersFired < p.order.maxTriggers
  unexpired : orderExpired p.order p.now = false
  eligible : classifyTradeBuilderOrderEligibilityWindow p.order p.now = .allow
  sameCycle : stale = false

/-- An auto-sized counter has the size that the lead's fill leaves for it already. -/
def SizedForLead (p : LegPass) (config : PairLockConfig) : Prop :=
  config.sizingMode = .autoRemainingBudget → ∃ totalBudgetUsdc remainingBudgetUsdc,
    config.totalBudgetUsdc = some totalBudgetUsdc ∧
      p.session.remainingBudgetUsdc totalBudgetUsdc = some remainingBudgetUsdc ∧
      autoCounterRebalanceChanged p.order
        (resolveAutoCounterRebalance p.session remainingBudgetUsdc)
        (p.counterEligibleBeforeAt config) = false

/-- The session has nothing to do to the counter before its trigger. -/
def LetsCounterGo (p : LegPass) : Prop :=
  ∀ config, p.config = some config → p.biasedHedge = none ∧ SizedForLead p config ∧
    ∀ leadFilledAt, p.session.leadFilledAt = some leadFilledAt →
      p.orphanGraceElapsed config leadFilledAt = false

def AtLevel (order : TradeBuilderOrder) (price : ℚ) : Prop :=
  order.kind = .conditional ∧ (tradeBuilderStopLossLatched order ∨
    ∃ triggerPrice condition, order.triggerPrice = some triggerPrice ∧
      order.triggerCondition = some condition ∧
      TriggerCondition.met condition price triggerPrice)

/-- What brings the counter to its submit step. -/
structure Releases (p : LegPass) (stale : Bool) (price : ℚ) : Prop where
  alive : PassAlive p stale
  session : LetsCounterGo p
  level : AtLevel p.order price

section Session
variable {p : LegPass}

theorem biasedHedge_ends_held (h : HeldCounter p.order) :
    p.biasedHedge.bind p.biasedHedgeDecision = none ↔ p.biasedHedge = none := by
  cases hhedge : p.biasedHedge with
  | none => simp
  | some hedge => cases hedge <;> simp [LegPass.biasedHedgeDecision, h.unsubmitted]

theorem held_canRebase (h : HeldCounter p.order) : autoCounterCanRebase p.order = true := by
  simp [autoCounterCanRebase, h.status, h.unsubmitted]

theorem prepareAutoCounter_eq_none (hheld : HeldCounter p.order) (hlead : LeadRecorded p)
    (config : PairLockConfig) :
    p.prepareAutoCounter config = none ↔ SizedForLead p config := by
  obtain ⟨leadOrderId, hid, -⟩ := hlead.lead
  unfold LegPass.prepareAutoCounter SizedForLead
  rw [if_neg (by simp [hlead.counter])]
  by_cases hmode : config.sizingMode = .autoRemainingBudget
  · rw [if_neg (by simp [hmode]), if_neg (by simp [hid])]
    simp only [hmode, true_imp_iff]
    cases hbudget : config.totalBudgetUsdc with
    | none => simp
    | some total =>
      cases hrest : p.session.remainingBudgetUsdc total with
      | none =>
        simp only [LegPass.budgetExhausted]
        simp [hrest]
      | some rest => simp [hrest, autoCounterNeedsRebase, held_canRebase hheld]
  · simp [hmode]

theorem capOrUnwind_proceeds (hlead : LeadRecorded p) (config : PairLockConfig) :
    (∃ cap, p.capOrUnwind config = .proceeds cap) ↔
      ∀ leadFilledAt, p.session.leadFilledAt = some leadFilledAt →
        p.orphanGraceElapsed config leadFilledAt = false := by
  obtain ⟨leadOrderId, hid, hne⟩ := hlead.lead
  obtain ⟨leadFilledAt, hfilled⟩ := Option.isSome_iff_exists.mp hlead.filled
  rw [capOrUnwind_led hlead.working hid hne hfilled config]
  cases hgrace : p.orphanGraceElapsed config leadFilledAt <;> simp [hgrace, hfilled]

theorem applyRuntime_open (hlead : LeadRecorded p) {config : PairLockConfig}
    (hconfig : p.config = some config) :
    p.applyRuntime = ((p.biasedHedge.bind p.biasedHedgeDecision).or
      (p.prepareAutoCounter config)).getD (p.capOrUnwind config) := by
  obtain ⟨leadOrderId, hid, -⟩ := hlead.lead
  have hopen : p.session.status.isClosed = false := by rw [hlead.working]; rfl
  simp [LegPass.applyRuntime, hconfig, hopen, holdCounterUntilLead_led hid]

theorem applyRuntime_proceeds (hheld : HeldCounter p.order) (hlead : LeadRecorded p)
    (hgo : LetsCounterGo p) : ∃ cap, p.applyRuntime = .proceeds cap := by
  cases hconfig : p.config with
  | none => exact ⟨none, by simp [LegPass.applyRuntime, hconfig]⟩
  | some config =>
    obtain ⟨hhedge, hsized, hgrace⟩ := hgo config hconfig
    have hbias := (biasedHedge_ends_held hheld).mpr hhedge
    have hauto := (prepareAutoCounter_eq_none hheld hlead config).mpr hsized
    rw [applyRuntime_open hlead hconfig, hbias, hauto]
    exact (capOrUnwind_proceeds hlead config).mpr hgrace

theorem applyRuntime_ends (hheld : HeldCounter p.order) (hlead : LeadRecorded p)
    (hstays : ¬ LetsCounterGo p) : EndsLeg p.order p.applyRuntime.toAction := by
  cases hconfig : p.config with
  | none => exact absurd (fun config h => by simp [hconfig] at h) hstays
  | some config =>
    rw [applyRuntime_open hlead hconfig]
    cases hbias : p.biasedHedge.bind p.biasedHedgeDecision with
    | some decision =>
      obtain ⟨hedge, -, hdecision⟩ := Option.bind_eq_some_iff.mp hbias
      obtain ⟨action, rfl, hends⟩ := biasedHedgeDecision_ends hdecision
      exact hends
    | none =>
      cases hauto : p.prepareAutoCounter config with
      | some decision =>
        rcases prepareAutoCounter_cases hauto with ⟨action, rfl, hends⟩ | ⟨_, _, rfl, hfresh⟩
        · exact hends
        · exact hfresh
      | none =>
        have hhedge := (biasedHedge_ends_held hheld).mp hbias
        have hsized := (prepareAutoCounter_eq_none hheld hlead config).mp hauto
        have hgrace : ¬ ∃ cap, p.capOrUnwind config = .proceeds cap := by
          intro hcap
          refine hstays fun other hother => ?_
          rw [hconfig] at hother
          cases hother
          exact ⟨hhedge, hsized, (capOrUnwind_proceeds hlead config).mp hcap⟩
        obtain ⟨leadOrderId, hid, hne⟩ := hlead.lead
        obtain ⟨leadFilledAt, hfilled⟩ := Option.isSome_iff_exists.mp hlead.filled
        rw [capOrUnwind_led hlead.working hid hne hfilled config] at hgrace ⊢
        split at hgrace
        · rename_i helapsed
          rw [if_pos helapsed]
          trivial
        · exact absurd ⟨_, rfl⟩ hgrace

end Session

/-- A held row but for the price limit the session gave it. -/
def CappedRow (order row : TradeBuilderOrder) : Prop := ∃ maxPrice, row = { order with maxPrice }

section Row
variable {order row : TradeBuilderOrder}

theorem held_active (h : HeldCounter order) : order.activeExchangeOrderId = none := by
  have hnew := h.unsubmitted
  simp only [autoCounterHasStartedSubmitLifecycle, Bool.or_eq_false_iff] at hnew
  exact Option.not_isSome_iff_eq_none.mp (by simp [hnew.1.1])

theorem held_not_child (h : HeldCounter order) : tradeBuilderIsChildExitSell order = false := by
  simp [tradeBuilderIsChildExitSell, h.side]

theorem held_not_stopLoss (h : HeldCounter order) : tradeBuilderIsStopLossChild order = false := by
  simp [tradeBuilderIsStopLossChild, held_not_child h]

theorem held_not_takeProfit (h : HeldCounter order) :
    tradeBuilderIsTakeProfitChild order = false := by
  simp [tradeBuilderIsTakeProfitChild, held_not_child h]

theorem HeldCounter.capped (h : HeldCounter order) (hrow : CappedRow order row) :
    HeldCounter row := by
  obtain ⟨maxPrice, rfl⟩ := hrow
  exact ⟨h.status, h.lastError, h.usesPairLock, h.role, h.side, h.unsubmitted⟩

theorem AtLevel.capped {price : ℚ} (hrow : CappedRow order row) :
    AtLevel row price ↔ AtLevel order price := by
  obtain ⟨maxPrice, rfl⟩ := hrow
  exact Iff.rfl

theorem capPrice_cappedRow (order : TradeBuilderOrder) (cap : Option ℚ) :
    CappedRow order (cap.elim order (capPrice order)) := by
  cases cap with
  | none => exact ⟨order.maxPrice, rfl⟩
  | some cap => exact ⟨_, rfl⟩

theorem held_shouldTrigger_iff (h : HeldCounter order) (previousPrice : Option ℚ) (price : ℚ) :
    (evaluateTradeBuilderOrderTrigger order previousPrice price).shouldTrigger ↔
      AtLevel order price := by
  have htp : tradeBuilderInventoryPendingTpTriggerPrice order = order.triggerPrice := by
    rw [tradeBuilderInventoryPendingTpTriggerPrice]
    cases order.triggerPrice <;> simp [h.side]
  cases hkind : order.kind with
  | immediate =>
    simp [evaluateTradeBuilderOrderTrigger, AtLevel, hkind, h.status, immediateTriggerStatus]
  | conditional =>
    rw [evaluateTradeBuilderOrderTrigger, hkind]
    by_cases hlatched : tradeBuilderStopLossLatched order
    · simp [AtLevel, hkind, hlatched]
    · simp only [hlatched, htp, AtLevel, hkind]
      cases order.triggerPrice with
      | none => simp
      | some triggerPrice =>
        cases order.triggerCondition with
        | none => simp
        | some condition =>
          simp [conditionalShouldTrigger, h.status, heldTriggerStatus]

end Row

section Pass
variable {p : LegPass} {stale : Bool} {price : ℚ} {C : Prop} {w : World} {α : Type}

/-- Whether the pass opens its submit step is decided by `C`. -/
abbrev SubmitsWhen (p : LegPass) (stale : Bool) (price : ℚ) (C : Prop) (job : Job α)
    (w : World) : Prop :=
  Decides act (AnswersHeld p stale price) OpensSubmit C job w

theorem submits_call {c : Call} {f : Answer c → Job α} (hc : ¬ OpensSubmit c)
    (h : ∀ r, AnswersHeld p stale price c w r → ∃ a, (answer c (r.arrive w) r).1 = .ok a ∧
      ∀ w', SubmitsWhen p stale price C (f a) w') :
    SubmitsWhen p stale price C (Job.run c >>= f) w := by
  refine decides_perform hc fun r hr => ?_
  obtain ⟨a, ha, hf⟩ := h r hr
  have hact : act c w r = answer c (r.arrive w) r := by rw [act, hr.1]
  exact ⟨a, by rw [hact, ha], hf _⟩

theorem submits_update {u : OrderUpdate} {f : Unit → Job α}
    (h : ∀ w', SubmitsWhen p stale price C (f ()) w') :
    SubmitsWhen p stale price C (Job.update u >>= f) w :=
  submits_call (by simp [OpensSubmit]) fun _ _ => ⟨(), rfl, h⟩

theorem submits_event {name : String} {f : Unit → Job α}
    (h : ∀ w', SubmitsWhen p stale price C (f ()) w') :
    SubmitsWhen p stale price C (Job.event name >>= f) w :=
  submits_call (by simp [OpensSubmit]) fun _ _ => ⟨(), rfl, h⟩

theorem submits_statement {s : Elsewhere} (hs : s ≠ .feeRate) {f : Unit → Job α}
    (h : ∀ w', SubmitsWhen p stale price C (f ()) w') :
    SubmitsWhen p stale price C (Job.statement s >>= f) w :=
  submits_call (by simp [OpensSubmit, hs]) fun _ _ => ⟨(), rfl, h⟩

theorem event_quiet (name : String) : Only (fun c => ¬ OpensSubmit c) (Job.event name) :=
  only_run (by simp [OpensSubmit])

theorem update_quiet (u : OrderUpdate) : Only (fun c => ¬ OpensSubmit c) (Job.update u) :=
  only_run (by simp [OpensSubmit])

theorem statement_quiet {s : Elsewhere} (hs : s ≠ .feeRate) :
    Only (fun c => ¬ OpensSubmit c) (Job.statement s) :=
  only_run (by simp [OpensSubmit, hs])

theorem releaseUntriggered_quiet (order : TradeBuilderOrder) (price : ℚ) :
    Only (fun c => ¬ OpensSubmit c) (releaseUntriggered order price) :=
  .bind (only_when (.bind (update_quiet _) fun _ => event_quiet _)) fun _ =>
    only_ite (fun _ => .bind (update_quiet _) fun _ => event_quiet _) fun _ =>
      only_ite (fun _ => .bind (update_quiet _) fun _ => event_quiet _) fun _ =>
        .bind (only_when (.bind (update_quiet _) fun _ => event_quiet _)) fun _ =>
          update_quiet _

theorem submitTriggered_submits (row : TradeBuilderOrder) (hrow : HeldCounter row)
    (market : RuntimePrice) (hC : C) :
    SubmitsWhen p stale price C (submitTriggered row market) w := by
  have hlatch : maybeLatchTradeBuilderStopLoss row = pure row := by
    rw [maybeLatchTradeBuilderStopLoss, if_pos (by simp [held_not_stopLoss hrow])]
  rw [submitTriggered, hlatch]
  refine submits_statement (f := fun _ => _) (by simp) fun w' => ?_
  exact decides_makes hC rfl

theorem confirmAndSubmit_held (row : TradeBuilderOrder) (hrow : HeldCounter row)
    (market : RuntimePrice) : confirmAndSubmit row market = submitTriggered row market := by
  have hwaits : row.lastError ≠ some (text "composite_bid_confirmation_waiting") := by
    rw [hrow.lastError]
    decide
  have hasks : ¬ tradeBuilderIsStopLossChild row := by simp [held_not_stopLoss hrow]
  rw [confirmAndSubmit, Job.whenOr, if_neg hasks, Prog.pure_bind, if_neg Bool.false_ne_true,
    if_neg hwaits]

theorem evaluateAndSubmit_held (row : TradeBuilderOrder) (hrow : HeldCounter row)
    (market : RuntimePrice) :
    evaluateAndSubmit row market =
      let evaluation := evaluateTradeBuilderOrderTrigger row row.lastSeenPrice market.price
      if evaluation.shouldTrigger then do
        Job.when evaluation.firstTickThresholdUsed (Job.event "trigger_first_tick_threshold_used")
        Job.update (.setLastSeenPrice market.price)
        submitTriggered row market
      else releaseUntriggered row market.price := by
  have hasks : ¬ tradeBuilderIsStopLossChild row := by simp [held_not_stopLoss hrow]
  rw [← confirmAndSubmit_held row hrow, evaluateAndSubmit, evaluateTrigger, Job.whenOr,
    Job.whenOr, if_neg hasks, if_neg hasks]
  rfl

theorem evaluateAndSubmit_submits (row : TradeBuilderOrder) (hrow : HeldCounter row)
    (market : RuntimePrice) (hC : C ↔ AtLevel row market.price) :
    SubmitsWhen p stale price C (evaluateAndSubmit row market) w := by
  rw [evaluateAndSubmit_held row hrow]
  dsimp only
  have htrigger := held_shouldTrigger_iff hrow row.lastSeenPrice market.price
  split
  · rename_i hyes
    have hdone := hC.mpr (htrigger.mp hyes)
    have hrest : ∀ w', SubmitsWhen p stale price C
        (Job.update (.setLastSeenPrice market.price) >>= fun _ => submitTriggered row market) w' :=
      fun w' => submits_update fun w'' => submitTriggered_submits row hrow market hdone
    unfold Job.when
    split
    · exact submits_event hrest
    · exact hrest w
  · rename_i hno
    exact decides_avoids (fun h => hno (htrigger.mpr (hC.mp h))) (releaseUntriggered_quiet _ _)

theorem processPriced_submits (row : TradeBuilderOrder) (hrow : HeldCounter row)
    (market : RuntimePrice) (hC : C ↔ AtLevel row market.price) :
    SubmitsWhen p stale price C (processPriced row market) w := by
  have htp : ¬ tradeBuilderIsTakeProfitChild row := by simp [held_not_takeProfit hrow]
  have hcancel : row.status ≠ .canceledRequested := by rw [hrow.status]; decide
  refine submits_statement (by decide) fun w' => ?_
  rw [maybePreemptTradeBuilderTakeProfit, if_pos htp]
  change SubmitsWhen p stale price C (processPreempted row false market) w'
  rw [processPreempted, if_neg (by simp), held_active hrow]
  dsimp only
  rw [if_neg hcancel]
  exact evaluateAndSubmit_submits row hrow market hC

theorem stage_submits (row : TradeBuilderOrder) (hrow : HeldCounter row)
    (hC : C ↔ AtLevel row price) :
    SubmitsWhen p stale price C (do
      match ← Job.run .runtimePrice with
      | none => Job.event "price_unavailable_retry"
      | some market => processPriced row market) w := by
  refine submits_call (by simp [OpensSubmit]) fun r hr => ?_
  obtain ⟨hthere, hprice⟩ := hr.2.2.2.2 rfl
  refine ⟨some { r.price with price := clampProbability r.price.price }, ?_, fun w' => ?_⟩
  · simp [answer, hthere]
  · refine processPriced_submits row hrow _ ?_
    rw [hC, ← hprice]

theorem unwindSelf_quiet : Only (fun c => ¬ OpensSubmit c) unwindSelf :=
  .bind (only_run (by simp [OpensSubmit])) fun _ =>
    .bind (only_when (.bind (update_quiet _) fun _ => event_quiet _)) fun _ =>
      statement_quiet (by decide)

theorem applyPairLockAction_quiet (order : TradeBuilderOrder) (action : PairLockAction) :
    Only (fun c => ¬ OpensSubmit c) (applyPairLockAction order action) := by
  cases action with
  | proceed cap => trivial
  | sessionClosed => exact only_ite (fun _ => .bind (update_quiet _) fun _ => trivial) fun _ => trivial
  | cancel reason =>
    exact .bind (update_quiet _) fun _ => .bind (statement_quiet (by decide)) fun _ =>
      .bind (event_quiet _) fun _ => trivial
  | hold =>
    exact .bind (only_when (.bind (update_quiet _) fun _ => event_quiet _)) fun _ => trivial
  | wait => trivial
  | unwind => exact .bind unwindSelf_quiet fun _ => trivial
  | rebase sizeBasis sizeUsdc targetQty remainingSize remainingQty eligibleBeforeAt =>
    exact only_ite (fun _ => trivial) fun _ => .bind (update_quiet _) fun _ =>
      .bind (event_quiet _) fun _ => trivial

theorem runtime_submits (hheld : HeldCounter p.order) (hlead : LeadRecorded p)
    (hC : C ↔ LetsCounterGo p ∧ AtLevel p.order price) :
    SubmitsWhen p stale price C (do
      match ← maybeApplyTradeBuilderPairLockRuntime p.order with
      | .ends => pure ()
      | .goes order =>
        match ← Job.run .runtimePrice with
        | none => Job.event "price_unavailable_retry"
        | some market => processPriced order market) w := by
  have hasks : ¬ (¬ tradeBuilderOrderUsesPairLock p.order ∨
      ¬ tradeBuilderPairLockIsCandidateOrder p.order ∨ p.order.side ≠ .buy) := by
    simp [hheld.usesPairLock, tradeBuilderPairLockIsCandidateOrder, hheld.role, hheld.side]
  rw [maybeApplyTradeBuilderPairLockRuntime, if_neg hasks, Prog.bind_assoc]
  refine submits_call (by simp [OpensSubmit]) fun r hr => ?_
  refine ⟨r.pairLock, rfl, fun w' => ?_⟩
  rw [hr.2.2.2.1 rfl]
  by_cases hgo : LetsCounterGo p
  · obtain ⟨cap, hcap⟩ := applyRuntime_proceeds hheld hlead hgo
    have hrow := capPrice_cappedRow p.order cap
    rw [hcap, CounterDecision.toAction, applyPairLockAction, Prog.pure_bind]
    refine stage_submits _ (hheld.capped hrow) ?_
    rw [hC, AtLevel.capped hrow]
    exact and_iff_right hgo
  · have hends := applyPairLockAction_ends _ (applyRuntime_ends hheld hlead hgo)
    refine decides_avoids (fun h => hgo (hC.mp h).1) ?_
    refine Only.bind_returns (applyPairLockAction_quiet _ _) hends fun stage hstage => ?_
    rw [hstage]
    trivial

theorem staleOrder_submits (hheld : HeldCounter p.order) {f : Bool → Job Unit}
    (hends : f true = pure ()) (hstale : stale = true → ¬ C)
    (hgoes : ∀ w', stale = false → SubmitsWhen p stale price C (f false) w') :
    SubmitsWhen p stale price C (maybeExpireTradeBuilderStaleOrder p.order >>= f) w := by
  have hactive : ¬ p.order.activeExchangeOrderId.isSome := by simp [held_active hheld]
  rw [maybeExpireTradeBuilderStaleOrder, if_neg hactive, Prog.bind_assoc]
  refine submits_call (by simp [OpensSubmit]) fun r hr => ?_
  refine ⟨r.yes, rfl, fun w' => ?_⟩
  rw [hr.2.2.1 rfl]
  cases stale with
  | false =>
    rw [if_neg Bool.false_ne_true, Prog.pure_bind]
    exact hgoes w' rfl
  | true =>
    rw [if_pos rfl]
    refine decides_avoids (hstale rfl) ?_
    refine Only.bind_returns (R := (· = true)) ?_ ?_ fun ended hended => ?_
    · exact .bind (update_quiet _) fun _ => .bind (event_quiet _) fun _ =>
        .bind (only_when (statement_quiet (by decide))) fun _ =>
          .bind (statement_quiet (by decide)) fun _ => trivial
    · exact (returns_true _).bind fun _ _ => (returns_true _).bind fun _ _ =>
        (returns_true _).bind fun _ _ => (returns_true _).bind fun _ _ => rfl
    · rw [hended, hends]
      trivial

theorem eligibility_quiet (order : TradeBuilderOrder) (now : ℤ) :
    Only (fun c => ¬ OpensSubmit c) (maybeHandleEligibilityWindow order now) := by
  unfold maybeHandleEligibilityWindow
  split
  · trivial
  · trivial
  · exact .bind (update_quiet _) fun _ => .bind (event_quiet _) fun _ =>
      .bind (statement_quiet (by decide)) fun _ => trivial

theorem eligibility_ends {order : TradeBuilderOrder} {now : ℤ}
    (h : classifyTradeBuilderOrderEligibilityWindow order now ≠ .allow) :
    Returns (· = true) (maybeHandleEligibilityWindow order now) := by
  unfold maybeHandleEligibilityWindow
  split
  · rfl
  · exact absurd (by assumption) h
  · exact (returns_true _).bind fun _ _ => (returns_true _).bind fun _ _ =>
      (returns_true _).bind fun _ _ => rfl

theorem processLive_submits (hheld : HeldCounter p.order) (hlead : LeadRecorded p)
    (hleft : p.order.triggersFired < p.order.maxTriggers)
    (hexpired : orderExpired p.order p.now = false) :
    SubmitsWhen p stale price (Releases p stale price) (processLive p.order p.now) w := by
  unfold processLive
  by_cases hwindow : classifyTradeBuilderOrderEligibilityWindow p.order p.now = .allow
  · have hallow : maybeHandleEligibilityWindow p.order p.now = pure false := by
      rw [maybeHandleEligibilityWindow, hwindow]
    rw [hallow, Prog.pure_bind, if_neg Bool.false_ne_true]
    refine staleOrder_submits hheld rfl (fun hstale h => ?_) fun w' hstale => ?_
    · rw [h.alive.sameCycle] at hstale
      cases hstale
    · refine runtime_submits hheld hlead ⟨fun h => ⟨h.session, h.level⟩, fun h => ?_⟩
      exact ⟨⟨hleft, hexpired, hwindow, hstale⟩, h.1, h.2⟩
  · refine decides_avoids (fun h => hwindow h.alive.eligible) ?_
    refine Only.bind_returns (eligibility_quiet _ _) (eligibility_ends hwindow)
      fun ended hended => ?_
    rw [hended, if_pos rfl]
    trivial

theorem process_submits (hheld : HeldCounter p.order) (hlead : LeadRecorded p) :
    SubmitsWhen p stale price (Releases p stale price) (processTradeBuilderOrder p.now) w := by
  refine submits_call (by simp [OpensSubmit]) fun r hr => ⟨p.order, ?_, fun w' => ?_⟩
  · rw [← hr.2.1 rfl]
    rfl
  · have hprocessable : isProcessable p.order = true := by
      simp [isProcessable, hheld.status, isTradeBuilderOrderProcessableStatus]
    unfold processOrder
    rw [if_neg (by simp [hprocessable])]
    split
    · rename_i hdone
      refine decides_avoids (fun h => ?_) ?_
      · exact absurd h.alive.triggersLeft (by omega)
      · exact .bind (update_quiet _) fun _ => .bind (event_quiet _) fun _ =>
          only_ignore (statement_quiet (by decide))
    · rename_i hleft
      have hleft : p.order.triggersFired < p.order.maxTriggers := by
        by_contra hmax
        exact hleft ⟨by omega, by rw [hheld.status]; decide⟩
      cases hexpired : orderExpired p.order p.now with
      | true =>
        rw [if_pos rfl]
        refine decides_avoids (fun h => ?_) ?_
        · rw [h.alive.unexpired] at hexpired
          cases hexpired
        · exact only_ite (fun _ => .bind (update_quiet _) fun _ => .bind (event_quiet _) fun _ =>
            statement_quiet (by decide)) fun _ => trivial
      | false =>
        rw [if_neg Bool.false_ne_true]
        exact processLive_submits hheld hlead hleft hexpired

end Pass

/-- A pass that finds the counter held after the lead's fill opens its submit step. -/
def TurnSubmits (w : World) : Pass → Prop
  | .environment _ => True
  | .pass job replies => ∀ p stale price, ReleasePass p stale price job replies w →
      Makes act OpensSubmit job replies w

/-- A pass that finds the counter held after the lead's fill meets what releases it. -/
def TurnReleases (w : World) : Pass → Prop
  | .environment _ => True
  | .pass job replies => ∀ p stale price, ReleasePass p stale price job replies w →
      Releases p stale price

theorem turn_submits_iff (w : World) (t : Pass) : TurnSubmits w t ↔ TurnReleases w t := by
  cases t with
  | environment o => exact Iff.rfl
  | pass job replies =>
    refine forall₃_congr fun p stale price => forall_congr' fun h => ?_
    obtain ⟨hheld, hlead, rfl, hanswers⟩ := h
    exact process_submits hheld hlead replies hanswers

/-- In every run, the passes that find the counter held after the lead's fill all open its
submit step exactly when each of them finds the row alive, a session with nothing left to do
to it, and a conditional order at its level. -/
theorem lead_fill_releases_counter_iff (w : World) (ts : List Pass) :
    Turn.All act Outside.step TurnSubmits w ts ↔ Turn.All act Outside.step TurnReleases w ts := by
  induction ts generalizing w with
  | nil => exact Iff.rfl
  | cons t ts ih => exact and_congr (turn_submits_iff w t) (ih _)

/-- A manually sized immediate counter that was held, and has seen the price since. -/
def heldCounter : World where
  order := { id := 2, status := .inventoryPending, sizeUsdc := 10, pairSessionId := some 1
             pairLegRole := some .counterCandidate, lastSeenPrice := some (1 / 2)
             lastError := some (text "pair_counter_waiting_primary_fill") }

/-- Its session once the lead is filled at 40 cents under a target of 90 cents. -/
def heldPass : LegPass where
  session := { pairTargetTotalCent := 90, primaryOrderId := some 1, counterOrderId := some 2
               leadOrderId := some 1, leadFilledAt := some 0
               primary := some ⟨1, 0, 1, 4 / 10⟩ }
  order := heldCounter.order
  config := some { protectiveUnwindEnabled := false }

def heldTurn : Pass :=
  .pass (processTradeBuilderOrder 0) (List.replicate 3 { pairLock := .proceed (some (1 / 2)) })

theorem heldPass_release :
    ReleasePass heldPass false (1 / 2) (processTradeBuilderOrder 0)
      (List.replicate 3 { pairLock := .proceed (some (1 / 2)) }) heldCounter where
  held := ⟨rfl, rfl, rfl, rfl, rfl, rfl⟩
  recorded := ⟨rfl, rfl, ⟨1, rfl, by decide⟩, rfl⟩
  started := rfl
  answers := by decide +kernel

/-- The lead is filled, the session works and the market price of 50 cents is within the cap,
but the pass does not open the submit step, nor does any later one: the row never changes. -/
theorem held_counter_never_submitted :
    heldPass.session.effectiveCounterCap = some (1 / 2) ∧
      ¬ TurnSubmits heldCounter heldTurn ∧
      ∀ n, (Turn.run act Outside.step heldCounter (List.replicate n heldTurn)).order.status =
        .inventoryPending := by
  refine ⟨by decide +kernel, fun h => ?_, fun n => ?_⟩
  · exact absurd (h heldPass false (1 / 2) heldPass_release) (by decide +kernel)
  · have hfirst : Turn.step act Outside.step heldCounter heldTurn =
        { heldCounter with rowRead := heldCounter.order } := by decide +kernel
    have hsame : Turn.step act Outside.step { heldCounter with rowRead := heldCounter.order }
        heldTurn = { heldCounter with rowRead := heldCounter.order } := by decide +kernel
    have hrun : ∀ n, Turn.run act Outside.step { heldCounter with rowRead := heldCounter.order }
        (List.replicate n heldTurn) = { heldCounter with rowRead := heldCounter.order } := by
      intro n
      induction n with
      | zero => rfl
      | succ n ih => rw [List.replicate_succ, Turn.run_cons, hsame, ih]
    cases n with
    | zero => rfl
    | succ n =>
      rw [List.replicate_succ, Turn.run_cons, hfirst, hrun]
      rfl

end PolymarketBot.PairLock
