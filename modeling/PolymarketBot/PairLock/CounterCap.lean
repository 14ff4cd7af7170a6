import PolymarketBot.Builder.Calls
import PolymarketBot.PairLock.CounterRuntime

/-! The price limit of the leg that does not lead: what a working session gives it in every
pass, and at which prices its passes place orders. -/

namespace PolymarketBot.PairLock
open Lib Prog Builder

/-- A configured limit was clamped when the order was created. -/
def ConfiguredMaxPrice (maxPrice : Option ℚ) : Prop :=
  ∀ m, maxPrice = some m → 1 / 100 ≤ m ∧ m ≤ 99 / 100

/-- A pass of the leg that does not lead in a working session of this target, led at this
price, that finds the session's node configuration or not. -/
structure OfSession (target leadPrice : ℚ) (resolves : Bool) (p : LegPass) : Prop where
  working : p.session.status = .working
  target : p.session.pairTargetTotalCent / 100 = target
  leadPrice : p.session.leadPrice = some leadPrice
  led : ∃ leadOrderId, p.session.leadOrderId = some leadOrderId ∧ leadOrderId ≠ p.order.id
  filled : p.session.leadFilledAt.isSome
  resolves : p.config.isSome = resolves
  configured : ConfiguredMaxPrice p.order.maxPrice

/-- The limit on the pair's cost: what the pass goes on with, or sizes the leg for, is at most
`limit`. When `limit` is not positive no configured limit is below it: nothing goes on. -/
def WithinLimit (limit : ℚ) (p : LegPass) : CounterDecision → Prop
  | .ends _ => True
  | .rebases rebalance _ => ∀ cap, rebalance.effectiveMaxPrice = some cap → cap ≤ limit
  | .proceeds counterCap => ∃ m, p.maxPrice counterCap = some m ∧ m ≤ limit

section Cap
variable {target leadPrice : ℚ} {resolves : Bool} {p : LegPass}

theorem clampProbability_le {value : ℚ} (h : 1 / 100 ≤ value) : clampProbability value ≤ value :=
  max_le h (min_le_right _ _)

theorem effectiveCounterCap_eq (h : OfSession target leadPrice resolves p)
    (hcent : 1 / 100 ≤ target - leadPrice) :
    p.session.effectiveCounterCap = some (clampProbability (target - leadPrice)) := by
  have hpos : 0 < target - leadPrice := lt_of_lt_of_le (by norm_num) hcent
  simp only [TradeBuilderPairSession.effectiveCounterCap, h.leadPrice, h.target]
  exact if_pos hpos

theorem rebalance_maxPrice (s : TradeBuilderPairSession) (budget : ℚ) :
    (resolveAutoCounterRebalance s budget).effectiveMaxPrice = s.effectiveCounterCap ∨
      (resolveAutoCounterRebalance s budget).effectiveMaxPrice =
        s.effectiveCounterCap.filter (0 < ·) := by
  unfold resolveAutoCounterRebalance
  dsimp only
  split
  · rename_i hcap
    right
    split <;> exact hcap.symm
  · exact .inl rfl

theorem holdCounterUntilLead_led {leadOrderId : ℤ} (hlead : p.session.leadOrderId = some leadOrderId) :
    p.holdCounterUntilLead = none := by
  have hwait : p.counterShouldWaitForLead = false := by
    simp [LegPass.counterShouldWaitForLead, hlead]
  rw [LegPass.holdCounterUntilLead, if_pos (by simp [hwait])]

theorem capOrUnwind_led (hworking : p.session.status = .working) {leadOrderId leadFilledAt : ℤ}
    (hlead : p.session.leadOrderId = some leadOrderId) (hne : leadOrderId ≠ p.order.id)
    (hfilled : p.session.leadFilledAt = some leadFilledAt) (config : PairLockConfig) :
    p.capOrUnwind config = if p.orphanGraceElapsed config leadFilledAt then .ends .unwind
      else .proceeds p.session.effectiveCounterCap := by
  simp only [LegPass.capOrUnwind, hlead, hfilled]
  exact if_pos ⟨hworking, hne⟩

/-- The actions that end the pass of a leg with this row. -/
def EndsLeg (order : TradeBuilderOrder) : PairLockAction → Prop
  | .proceed _ | .sessionClosed => False
  | .rebase .. => autoCounterHasStartedSubmitLifecycle order = false
  | .cancel _ | .hold | .wait | .unwind => True

theorem biasedHedgeDecision_ends {hedge : BiasedHedgeEnd} {decision : CounterDecision}
    (h : p.biasedHedgeDecision hedge = some decision) :
    ∃ action, decision = .ends action ∧ EndsLeg p.order action := by
  cases hedge with
  | cancels reason => exact ⟨_, (Option.some.inj h).symm, trivial⟩
  | waits => exact ⟨_, (Option.some.inj h).symm, trivial⟩
  | clamps hedgeNotional targetQty =>
    simp only [LegPass.biasedHedgeDecision] at h
    split at h
    · cases h
    · rename_i hfresh
      exact ⟨_, (Option.some.inj h).symm, Bool.eq_false_iff.mpr hfresh⟩

theorem prepareAutoCounter_cases {config : PairLockConfig} {decision : CounterDecision}
    (h : p.prepareAutoCounter config = some decision) :
    (∃ action, decision = .ends action ∧ EndsLeg p.order action) ∨ ∃ budget eligibleBeforeAt,
      decision = .rebases (resolveAutoCounterRebalance p.session budget) eligibleBeforeAt ∧
        autoCounterHasStartedSubmitLifecycle p.order = false := by
  unfold LegPass.prepareAutoCounter at h
  split at h
  · cases h
  split at h
  · cases h
  split at h
  · exact .inl ⟨_, (Option.some.inj h).symm, trivial⟩
  split at h
  · exact .inl ⟨_, (Option.some.inj h).symm, trivial⟩
  split at h
  · rw [← Option.some.inj h]
    unfold LegPass.budgetExhausted
    split
    · exact .inl ⟨_, rfl, trivial⟩
    · exact .inl ⟨_, rfl, trivial⟩
  · dsimp only at h
    split at h
    · rename_i hrebase
      rw [autoCounterNeedsRebase, autoCounterCanRebase] at hrebase
      simp only [Bool.and_eq_true, Bool.not_eq_true'] at hrebase
      exact .inr ⟨_, _, (Option.some.inj h).symm, hrebase.1.2⟩
    · cases h

theorem applyRuntime_cases (h : OfSession target leadPrice true p) :
    (∃ action, p.applyRuntime = .ends action ∧ EndsLeg p.order action) ∨
      (∃ budget eligibleBeforeAt, p.applyRuntime =
          .rebases (resolveAutoCounterRebalance p.session budget) eligibleBeforeAt ∧
        autoCounterHasStartedSubmitLifecycle p.order = false) ∨
      p.applyRuntime = .proceeds p.session.effectiveCounterCap := by
  obtain ⟨config, hconfig⟩ := Option.isSome_iff_exists.mp h.resolves
  obtain ⟨leadOrderId, hlead, hne⟩ := h.led
  obtain ⟨leadFilledAt, hfilled⟩ := Option.isSome_iff_exists.mp h.filled
  have hopen : p.session.status.isClosed = false := by rw [h.working]; rfl
  simp only [LegPass.applyRuntime, hconfig, hopen, holdCounterUntilLead_led hlead,
    Option.none_or]
  cases hhedge : p.biasedHedge.bind p.biasedHedgeDecision with
  | some decision =>
    obtain ⟨hedge, -, hdecision⟩ := Option.bind_eq_some_iff.mp hhedge
    obtain ⟨action, rfl, hends⟩ := biasedHedgeDecision_ends hdecision
    exact .inl ⟨action, rfl, hends⟩
  | none =>
    cases hauto : p.prepareAutoCounter config with
    | some decision =>
      rcases prepareAutoCounter_cases hauto with ⟨action, rfl, hends⟩ | ⟨budget, at', rfl, hfresh⟩
      · exact .inl ⟨action, rfl, hends⟩
      · exact .inr (.inl ⟨budget, at', rfl, hfresh⟩)
    | none =>
      have hcap := capOrUnwind_led h.working hlead hne hfilled config
      by_cases helapsed : p.orphanGraceElapsed config leadFilledAt
      · exact .inl ⟨.unwind, by simp [hcap, helapsed], trivial⟩
      · exact .inr (.inr (by simp [hcap, helapsed]))

theorem withinLimit_of_cent (h : OfSession target leadPrice true p)
    (hcent : 1 / 100 ≤ target - leadPrice) :
    WithinLimit (target - leadPrice) p p.applyRuntime := by
  have hcap := effectiveCounterCap_eq h hcent
  have hle := clampProbability_le hcent
  rcases applyRuntime_cases h with ⟨action, heq, -⟩ | ⟨budget, at', heq, -⟩ | heq
  · rw [heq]
    trivial
  · rw [heq]
    intro cap hmax
    rcases rebalance_maxPrice p.session budget with hr | hr
    · rw [hr, hcap] at hmax
      rw [← Option.some.inj hmax]
      exact hle
    · rw [hr, hcap] at hmax
      obtain ⟨hmax, -⟩ := Option.filter_eq_some_iff.mp hmax
      rw [← Option.some.inj hmax]
      exact hle
  · rw [heq, hcap]
    refine ⟨_, rfl, ?_⟩
    cases p.order.maxPrice with
    | none => exact hle
    | some configured => exact (min_le_right _ _).trans hle

end Cap

/-- The row of a leg of a session: what a pass checks before it asks the session, and a limit
as the executor configured it. No statement of a pass writes these columns. -/
structure LegRow (order : TradeBuilderOrder) : Prop where
  usesPairLock : tradeBuilderOrderUsesPairLock order = true
  candidate : tradeBuilderPairLockIsCandidateOrder order = true
  side : order.side = .buy
  configured : ConfiguredMaxPrice order.maxPrice

/-- The same row but for what others may write between two calls. -/
def SameLegRow (order row : TradeBuilderOrder) : Prop :=
  ∃ status lastError, row = { order with status, lastError }

/-- The session answers the leg's passes as one of its passes on this row decides. -/
def AnswersOf (target leadPrice : ℚ) (resolves : Bool) (c : Call) (w : World) (r : Reply) :
    Prop :=
  c = .pairLockRuntime → ∃ p, OfSession target leadPrice resolves p ∧
    SameLegRow p.order w.order ∧ r.pairLock = p.applyRuntime.toAction

/-- A pass of the leg, by any of the loops, or what others do between two passes. -/
def LegTurn (target leadPrice : ℚ) (resolves : Bool) (w : World) : Pass → Prop
  | .environment _ => True
  | .pass p replies => ∃ now, (p = housekeepingPass now ∨ p = directPass now) ∧
      Meets act (AnswersOf target leadPrice resolves) p replies w

/-- No order of the leg is placed above the limit. -/
structure PlacedWithin (limit : ℚ) (w : World) : Prop where
  row : LegRow w.order
  prices : ∀ e ∈ w.exchange, e.price ≤ limit

/-- A placement within the limit, or a call that places nothing. -/
def PricedCall (limit : ℚ) : Call → Prop
  | .place request => request.price ≤ limit
  | .getOrder => False
  | _ => True

theorem pricedCall_of_routine {limit : ℚ} (c : Call) (h : Routine c) : PricedCall limit c := by
  cases c with
  | place request => exact absurd h id
  | getOrder => exact h
  | _ => trivial

theorem LegRow.same {order row : TradeBuilderOrder} (h : LegRow order)
    (hsame : SameLegRow order row) : LegRow row := by
  obtain ⟨status, lastError, rfl⟩ := hsame
  exact ⟨h.usesPairLock, h.candidate, h.side, h.configured⟩

theorem LegRow.apply {order : TradeBuilderOrder} (h : LegRow order) (u : OrderUpdate) :
    LegRow (u.apply order) := by
  cases u <;> exact ⟨h.usesPairLock, h.candidate, h.side, h.configured⟩

section Runs
variable {target leadPrice limit : ℚ} {now : ℤ} {w : World} {order : TradeBuilderOrder}

theorem PlacedWithin.arrive (h : PlacedWithin limit w) (r : Reply) :
    PlacedWithin limit (r.arrive w) := by
  have hev := World.Evolves.arrive r w
  constructor
  · exact h.row.same hev.order
  · intro e' he'
    obtain ⟨e, he, hee⟩ := hev.of_mem he'
    rw [hee.price]
    exact h.prices e he

theorem PlacedWithin.act (h : PlacedWithin limit w) {c : Call} (hc : c = .getOrder ∨ PricedCall limit c)
    (r : Reply) : PlacedWithin limit (act c w r).2 := by
  have ha := h.arrive r
  constructor
  · rcases act_order c w r with hrow | ⟨u, -, -, hupdate⟩
    · rw [hrow]
      exact ha.row
    · rw [hupdate]
      exact ha.row.apply u
  · intro e' he'
    rcases act_exchange c w r with hev | ⟨request, rfl, -, hplaced⟩
    · obtain ⟨e, he, hee⟩ := evolves_of_mem hev he'
      rw [hee.price]
      exact ha.prices e he
    · rw [hplaced, List.mem_append, List.mem_singleton] at he'
      rcases he' with he | rfl
      · exact ha.prices e' he
      · rcases hc with hread | hprice
        · cases hread
        · exact hprice

theorem keeps_prices {resolves : Bool} (c : Call) (w : World) (r : Reply)
    (hc : PricedCall limit c) (h : PlacedWithin limit w)
    (_ : AnswersOf target leadPrice resolves c w r) : PlacedWithin limit (act c w r).2 :=
  h.act (.inr hc) r

theorem keeps_routine {resolves : Bool} (c : Call) (w : World) (r : Reply) (hc : Routine c)
    (h : PlacedWithin limit w) (_ : AnswersOf target leadPrice resolves c w r) :
    PlacedWithin limit (act c w r).2 :=
  h.act (.inr (pricedCall_of_routine c hc)) r

/-- A stage of the head that ends the pass, or leaves the row as it was read. -/
def LeavesRow (limit : ℚ) (order : TradeBuilderOrder) (x : Except ErrorText Bool) (w : World) :
    Prop :=
  PlacedWithin limit w ∧ (x = .ok false → SameLegRow order w.order)

theorem leavesRow_of_ends {resolves : Bool} {p : Job Bool} (hp : Only Routine p)
    (hr : Returns (· = true) p) (hw : PlacedWithin limit w) :
    wp act (AnswersOf target leadPrice resolves) p (LeavesRow limit order) w := by
  rw [← bind_pure p]
  refine wp_bind_of_returns keeps_routine hp hr hw (fun ended w' hended hw' => ?_)
    fun e w' hw' => ⟨hw', fun h => by cases h⟩
  subst hended
  exact ⟨hw', fun h => by cases h⟩

theorem eligibilityWindow_leavesRow {resolves : Bool} (hw : PlacedWithin limit w)
    (hrow : SameLegRow order w.order) :
    wp act (AnswersOf target leadPrice resolves) (maybeHandleEligibilityWindow order now)
      (LeavesRow limit order) w := by
  have hroutine := eligibilityWindow_routine order now
  unfold maybeHandleEligibilityWindow at hroutine ⊢
  cases hwindow : classifyTradeBuilderOrderEligibilityWindow order now with
  | wait => exact ⟨hw, fun h => by cases h⟩
  | allow => exact ⟨hw, fun _ => hrow⟩
  | expire =>
    rw [hwindow] at hroutine
    refine leavesRow_of_ends hroutine ?_ hw
    exact (returns_true _).bind fun _ _ => (returns_true _).bind fun _ _ =>
      (returns_true _).bind fun _ _ => rfl

theorem SameLegRow.arrive (h : SameLegRow order w.order) (r : Reply) :
    SameLegRow order (r.arrive w).order := by
  obtain ⟨status, lastError, hw⟩ := h
  obtain ⟨status', lastError', hr⟩ := (World.Evolves.arrive r w).order
  exact ⟨status', lastError', by rw [hr, hw]⟩

theorem staleOrder_leavesRow {resolves : Bool} (hw : PlacedWithin limit w)
    (hrow : SameLegRow order w.order) :
    wp act (AnswersOf target leadPrice resolves) (maybeExpireTradeBuilderStaleOrder order)
      (LeavesRow limit order) w := by
  refine wp_ite (fun _ => ⟨hw, fun _ => hrow⟩) fun _ => ?_
  rw [wp_bind]
  refine (wp_perform _ _ _).mpr fun r hr => ?_
  have hw' := keeps_routine _ _ _ (by trivial : Routine (.check .staleMarket)) hw hr
  have hrow' : SameLegRow order (act (.check .staleMarket) w r).2.order := by
    rcases act_order (.check .staleMarket) w r with heq | ⟨u, hu, -⟩
    · rw [heq]
      exact hrow.arrive r
    · cases hu
  cases hx : (act (.check .staleMarket) w r).1 with
  | error e => exact ⟨hw', fun h => by cases h⟩
  | ok stale =>
    refine wp_ite (fun _ => ?_) fun _ => ⟨hw', fun _ => hrow'⟩
    refine leavesRow_of_ends (.bind (update_routine _) fun _ => .bind (event_routine _) fun _ =>
      .bind (only_when (statement_routine _)) fun _ => .bind (statement_routine _) fun _ =>
        trivial) ?_ hw'
    exact (returns_true _).bind fun _ _ => (returns_true _).bind fun _ _ =>
      (returns_true _).bind fun _ _ => (returns_true _).bind fun _ _ => rfl

/-- What the answer of the session makes of the row: the pass ends, or goes on with a price
limit that is within what is left of the target. -/
def StageWithin (limit : ℚ) (order : TradeBuilderOrder) : Stage TradeBuilderOrder → Prop
  | .ends => True
  | .goes capped => ∃ m, capped = { order with maxPrice := some m } ∧ 0 < m ∧ m ≤ 1 ∧ m ≤ limit

theorem SameLegRow.lifecycle {row : TradeBuilderOrder} (h : SameLegRow order row) :
    autoCounterHasStartedSubmitLifecycle row = autoCounterHasStartedSubmitLifecycle order := by
  obtain ⟨status, lastError, rfl⟩ := h
  rfl

theorem applyPairLockAction_ends (action : PairLockAction) (h : EndsLeg order action) :
    Returns (· = .ends) (applyPairLockAction order action) := by
  cases action with
  | proceed cap => exact absurd h id
  | sessionClosed => exact absurd h id
  | cancel reason =>
    exact (returns_true _).bind fun _ _ => (returns_true _).bind fun _ _ =>
      (returns_true _).bind fun _ _ => rfl
  | hold => exact (returns_true _).bind fun _ _ => rfl
  | wait => rfl
  | unwind => exact (returns_true _).bind fun _ _ => rfl
  | rebase sizeBasis sizeUsdc targetQty remainingSize remainingQty eligibleBeforeAt =>
    have hfresh : pairLockCounterHasStartedSubmitLifecycle order = false := h
    rw [applyPairLockAction, if_neg (by simp [hfresh])]
    exact (returns_true _).bind fun _ _ => (returns_true _).bind fun _ _ => rfl

theorem applyPairLockAction_returns (action : PairLockAction) (h : EndsLeg order action) :
    Returns (StageWithin limit order) (applyPairLockAction order action) :=
  (applyPairLockAction_ends action h).mono fun stage hstage => by
    rw [hstage]
    trivial

theorem EndsLeg.same {row : TradeBuilderOrder} {action : PairLockAction}
    (h : EndsLeg order action) (hlife : autoCounterHasStartedSubmitLifecycle row =
      autoCounterHasStartedSubmitLifecycle order) : EndsLeg row action := by
  cases action with
  | rebase sizeBasis sizeUsdc targetQty remainingSize remainingQty eligibleBeforeAt =>
    exact hlife.trans h
  | _ => exact h

theorem capPrice_stageWithin (hrow : LegRow order) (hcent : 1 / 100 ≤ limit) :
    StageWithin limit order (.goes (capPrice order (clampProbability limit))) := by
  have hle := clampProbability_le hcent
  obtain ⟨hlow, hhigh⟩ := clampProbability_bounds limit
  cases hm : order.maxPrice with
  | none =>
    refine ⟨clampProbability limit, ?_, by linarith, by linarith, hle⟩
    simp [capPrice, hm]
  | some configured =>
    obtain ⟨hclow, hchigh⟩ := hrow.configured configured hm
    have hmin : min configured (clampProbability limit) ≤ clampProbability limit :=
      min_le_right _ _
    have hpos : 0 < min configured (clampProbability limit) :=
      lt_min (by linarith) (by linarith)
    refine ⟨min configured (clampProbability limit), ?_, hpos, by linarith, by linarith⟩
    simp [capPrice, hm]

theorem applyPairLockAction_within {p : LegPass} (h : OfSession target leadPrice true p)
    (hcent : 1 / 100 ≤ target - leadPrice) (hrow : LegRow order)
    (hlife : autoCounterHasStartedSubmitLifecycle order =
      autoCounterHasStartedSubmitLifecycle p.order) :
    Returns (StageWithin (target - leadPrice) order)
      (applyPairLockAction order p.applyRuntime.toAction) := by
  rcases applyRuntime_cases h with ⟨action, heq, hends⟩ | ⟨budget, at', heq, hfresh⟩ | heq
  · rw [heq]
    exact applyPairLockAction_returns action (hends.same hlife)
  · rw [heq]
    exact applyPairLockAction_returns _ (hlife.trans hfresh)
  · rw [heq, effectiveCounterCap_eq h hcent]
    exact capPrice_stageWithin hrow hcent

theorem stage_places (stage : Stage TradeBuilderOrder)
    (h : StageWithin limit order stage) (hside : order.side = .buy) :
    Only (PricedCall limit) (do
      match stage with
      | .ends => pure ()
      | .goes order =>
        match ← Job.run .runtimePrice with
        | none => Job.event "price_unavailable_retry"
        | some price => processPriced order price) := by
  cases stage with
  | ends => trivial
  | goes capped =>
    obtain ⟨m, rfl, h0, h1, hm⟩ := h
    have hplace : ∀ request, PriceWithin { order with maxPrice := some m } request.price →
        PricedCall limit (.place request) := by
      intro request hprice
      exact (hprice hside m rfl h0 h1).trans hm
    refine routine_bind pricedCall_of_routine (run_routine trivial) fun price => ?_
    cases price with
    | none => exact (event_routine _).mono pricedCall_of_routine
    | some price => exact processPriced_places pricedCall_of_routine hplace price

theorem processLive_within (hcent : 1 / 100 ≤ target - leadPrice)
    (hw : PlacedWithin (target - leadPrice) w) (hrow : SameLegRow order w.order)
    (horder : LegRow order) :
    wp act (AnswersOf target leadPrice true) (processLive order now)
      (fun _ => PlacedWithin (target - leadPrice)) w := by
  refine wp_bind_of (eligibilityWindow_leavesRow hw hrow) (fun ended w ⟨hw, hrow⟩ => ?_)
    fun e w hw => hw.1
  refine wp_ite (fun _ => hw) fun hended => ?_
  have hrow := hrow (by simp [Bool.eq_false_iff.mpr hended])
  refine wp_bind_of (staleOrder_leavesRow hw hrow) (fun stale w ⟨hw, hrow⟩ => ?_)
    fun e w hw => hw.1
  refine wp_ite (fun _ => hw) fun hstale => ?_
  have hrow := hrow (by simp [Bool.eq_false_iff.mpr hstale])
  have hasks : ¬ (¬ tradeBuilderOrderUsesPairLock order ∨
      ¬ tradeBuilderPairLockIsCandidateOrder order ∨ order.side ≠ .buy) := by
    simp [horder.usesPairLock, horder.candidate, horder.side]
  rw [maybeApplyTradeBuilderPairLockRuntime, if_neg hasks, bind_assoc, wp_bind]
  refine (wp_perform _ _ _).mpr fun r hr => ?_
  have hw' := keeps_routine _ _ _ (by trivial : Routine .pairLockRuntime) hw hr
  cases hfails : r.fails with
  | some failure =>
    simp only [act, hfails] at hw' ⊢
    exact hw'
  | none =>
    obtain ⟨p, hp, hpass, haction⟩ := hr rfl
    have hlife := hrow.lifecycle.symm.trans hpass.lifecycle
    have hwithin := applyPairLockAction_within hp hcent horder hlife
    rw [← haction] at hwithin
    simp only [act, hfails, answer] at hw' ⊢
    refine wp_bind_of_returns (I := PlacedWithin (target - leadPrice)) keeps_routine
      (applyPairLockAction_routine order r.pairLock) hwithin hw'
      (fun stage w hstage hw => ?_) fun e w hw => hw
    exact wp_of_only keeps_prices (stage_places stage hstage horder.side) hw

theorem processOrder_within (hcent : 1 / 100 ≤ target - leadPrice)
    (hw : PlacedWithin (target - leadPrice) w) (hrow : SameLegRow order w.order) :
    wp act (AnswersOf target leadPrice true) (processOrder order now)
      (fun _ => PlacedWithin (target - leadPrice)) w := by
  have horder : LegRow order := by
    obtain ⟨status, lastError, heq⟩ := hrow
    exact hw.row.same ⟨order.status, order.lastError, by rw [heq]⟩
  refine wp_ite (fun _ => hw) fun _ => wp_ite (fun _ => ?_) fun _ => wp_ite (fun _ => ?_)
    fun _ => processLive_within hcent hw hrow horder
  · exact wp_of_only keeps_routine (.bind (update_routine _) fun _ => .bind (event_routine _)
      fun _ => only_ignore (statement_routine _)) hw
  · exact wp_of_only keeps_routine (expireByTtl_routine order) hw

theorem process_within (hcent : 1 / 100 ≤ target - leadPrice)
    (hw : PlacedWithin (target - leadPrice) w) :
    wp act (AnswersOf target leadPrice true) (processTradeBuilderOrder now)
      (fun _ => PlacedWithin (target - leadPrice)) w := by
  rw [processTradeBuilderOrder, wp_bind]
  refine (wp_perform _ _ _).mpr fun r _ => ?_
  have hw' := hw.act (.inl rfl : Call.getOrder = .getOrder ∨ PricedCall _ .getOrder) r
  cases hfails : r.fails with
  | some failure =>
    simp only [act, hfails] at hw' ⊢
    exact hw'
  | none =>
    simp only [act, hfails, answer] at hw' ⊢
    refine processOrder_within hcent hw' ?_
    exact ⟨_, _, rfl⟩

theorem handleError_within (e : ErrorText) (hw : PlacedWithin limit w) {resolves : Bool} :
    wp act (AnswersOf target leadPrice resolves) (handleProcessingError e)
      (fun _ => PlacedWithin limit) w :=
  wp_of_only keeps_routine (handleProcessingError_routine e) hw

theorem housekeepingPass_within (hcent : 1 / 100 ≤ target - leadPrice)
    (hw : PlacedWithin (target - leadPrice) w) :
    wp act (AnswersOf target leadPrice true) (housekeepingPass now)
      (fun _ => PlacedWithin (target - leadPrice)) w := by
  rw [housekeepingPass, wp_bind, wp_attempt]
  refine wp_bind_of_only keeps_routine (statement_routine _) hw (fun _ w hw => ?_)
    fun e w hw => handleError_within e hw
  refine wp_mono (process_within hcent hw) fun x w hw => ?_
  cases x with
  | ok a => exact hw
  | error e => exact handleError_within e hw

theorem directPass_within (hcent : 1 / 100 ≤ target - leadPrice)
    (hw : PlacedWithin (target - leadPrice) w) :
    wp act (AnswersOf target leadPrice true) (directPass now)
      (fun _ => PlacedWithin (target - leadPrice)) w := by
  rw [directPass, Job.ignore, wp_bind, wp_attempt]
  exact process_within hcent hw

theorem placedWithin_step (hcent : 1 / 100 ≤ target - leadPrice) (w : World) (t : Pass)
    (hw : PlacedWithin (target - leadPrice) w) (ht : LegTurn target leadPrice true w t) :
    PlacedWithin (target - leadPrice) (Turn.step act Outside.step w t) := by
  cases t with
  | environment o =>
    have hev := World.Evolves.step o w
    constructor
    · exact hw.row.same hev.order
    · intro e' he'
      obtain ⟨e, he, hee⟩ := hev.of_mem he'
      rw [hee.price]
      exact hw.prices e he
  | pass p replies =>
    obtain ⟨now, hp, hm⟩ := ht
    rcases hp with rfl | rfl
    · exact wp_sound act _ (housekeepingPass_within hcent hw) hm
    · exact wp_sound act _ (directPass_within hcent hw) hm

end Runs

/-- What a session of this target, led at this price, promises about the cost of the pair. -/
structure PairCostWithinTarget (target leadPrice : ℚ) (resolves : Bool) : Prop where
  passes : ∀ p, OfSession target leadPrice resolves p →
    WithinLimit (target - leadPrice) p p.applyRuntime
  orders : ∀ (w : World) (ts : List Pass), LegRow w.order → w.exchange = [] →
    Turn.All act Outside.step (LegTurn target leadPrice resolves) w ts →
      ∀ e ∈ (Turn.run act Outside.step w ts).exchange, leadPrice + e.price ≤ target

/-- A pass of an unconfigured manual counter, right after the lead was filled. -/
def plainPass (target leadPrice : ℚ) (resolves : Bool) : LegPass where
  session := { pairTargetTotalCent := 100 * target, primaryOrderId := some 1
               counterOrderId := some 2, leadOrderId := some 1, leadFilledAt := some 0
               primary := some ⟨1, 0, 1, leadPrice⟩ }
  order := { id := 2 }
  config := if resolves then some { protectiveUnwindEnabled := false } else none

theorem plainPass_ofSession (target leadPrice : ℚ) (resolves : Bool) :
    OfSession target leadPrice resolves (plainPass target leadPrice resolves) where
  working := rfl
  target := by simp only [plainPass]; ring
  leadPrice := rfl
  led := ⟨1, rfl, by simp [plainPass]⟩
  filled := rfl
  resolves := by cases resolves <;> rfl
  configured := by intro m h; cases h

theorem plainPass_proceeds (target leadPrice : ℚ) :
    (plainPass target leadPrice true).applyRuntime =
      .proceeds (plainPass target leadPrice true).session.effectiveCounterCap := rfl

theorem effectiveCounterCap_none {target leadPrice : ℚ} {p : LegPass} {resolves : Bool}
    (h : OfSession target leadPrice resolves p) (hnone : target - leadPrice ≤ 0) :
    p.session.effectiveCounterCap = none := by
  simp only [TradeBuilderPairSession.effectiveCounterCap, h.leadPrice, h.target]
  exact if_neg (not_lt.mpr hnone)

theorem effectiveCounterCap_some {target leadPrice : ℚ} {p : LegPass} {resolves : Bool}
    (h : OfSession target leadPrice resolves p) (hpos : 0 < target - leadPrice) :
    p.session.effectiveCounterCap = some (clampProbability (target - leadPrice)) := by
  simp only [TradeBuilderPairSession.effectiveCounterCap, h.leadPrice, h.target]
  exact if_pos hpos

/-- The pair stays within its target exactly when the lead leaves at least a cent for the
counter and the passes find the configuration of the session. -/
theorem pair_cost_within_target_iff (target leadPrice : ℚ) (resolves : Bool) :
    PairCostWithinTarget target leadPrice resolves ↔
      resolves = true ∧ 1 / 100 ≤ target - leadPrice := by
  constructor
  · intro h
    have hsession := plainPass_ofSession target leadPrice resolves
    have hpass := h.passes _ hsession
    cases resolves with
    | false =>
      obtain ⟨m, hm, -⟩ := hpass
      cases hm
    | true =>
      refine ⟨rfl, ?_⟩
      rw [plainPass_proceeds] at hpass
      obtain ⟨m, hm, hle⟩ := hpass
      rcases le_or_gt (target - leadPrice) 0 with hnone | hpos
      · rw [effectiveCounterCap_none hsession hnone] at hm
        cases hm
      · rw [effectiveCounterCap_some hsession hpos] at hm
        have hcap : clampProbability (target - leadPrice) = m := Option.some.inj hm
        have hlow := (clampProbability_bounds (target - leadPrice)).1
        linarith
  · rintro ⟨rfl, hcent⟩
    constructor
    · intro p hp
      exact withinLimit_of_cent hp hcent
    · intro w ts hrow hnew hts e he
      have hw : PlacedWithin (target - leadPrice) w := ⟨hrow, by simp [hnew]⟩
      have hend := Turn.run_invariant act Outside.step (placedWithin_step hcent) hw hts
      have hprice := hend.prices e he
      linarith

/-- A counter leg with a configured limit of 50 cents. -/
def limitedCounter : World where
  order := { id := 2, sizeUsdc := 10, maxPrice := some (1 / 2), pairSessionId := some 1
             pairLegRole := some .counterCandidate }

/-- The lead was filled at 95 cents under a target of 90 cents: nothing is left, and the
counter is bought at its configured limit. -/
theorem counter_submitted_over_target :
    (∃ p, OfSession (90 / 100) (95 / 100) true p ∧ p.order = limitedCounter.order ∧
      p.applyRuntime.toAction = .proceed none) ∧
      LegTurn (90 / 100) (95 / 100) true limitedCounter (.pass (directPass 0) []) ∧
      ¬ ∀ e ∈ (Turn.run act Outside.step limitedCounter [.pass (directPass 0) []]).exchange,
        95 / 100 + e.price ≤ 90 / 100 := by
  have hpass : OfSession (90 / 100) (95 / 100) true
      { plainPass (90 / 100) (95 / 100) true with order := limitedCounter.order } := by
    refine ⟨rfl, ?_, rfl, ⟨1, rfl, by decide⟩, rfl, rfl, ?_⟩
    · decide +kernel
    · intro m hm
      have hhalf : (1 / 2 : ℚ) = m := Option.some.inj hm
      constructor <;> linarith
  have hanswers : ∀ c w r, (c = .pairLockRuntime → w.order = limitedCounter.order ∧
      r.pairLock = .proceed none) → AnswersOf (90 / 100) (95 / 100) true c w r := by
    intro c w r h hc
    obtain ⟨horder, haction⟩ := h hc
    refine ⟨_, hpass, ⟨w.order.status, w.order.lastError, ?_⟩, ?_⟩
    · rw [horder]
    · rw [haction]
      decide +kernel
  refine ⟨⟨_, hpass, rfl, by decide +kernel⟩, ⟨0, .inr rfl, ?_⟩, by decide +kernel⟩
  exact Meets.mono act _ hanswers (by decide +kernel : Meets act (fun c w r =>
    c = .pairLockRuntime → w.order = limitedCounter.order ∧ r.pairLock = .proceed none)
      (directPass 0) [] limitedCounter)

end PolymarketBot.PairLock
