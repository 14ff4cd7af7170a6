import PolymarketBot.Builder.Calls

/-! From the placements of a pass to the whole pass: what its other calls keep, and what both
kinds of placement end in, the pass ends in. -/

namespace PolymarketBot.Builder
open Lib Prog

section Walk
variable {W R : Type} (act : (c : Call) → W → R → Except ErrorText (Answer c) × W)
  (Ok : Call → W → R → Prop) (I : W → Prop) (Q : Except ErrorText Unit → W → Prop)

/-- Calls other than a placement keep `I`, which brings `Q`, and a submit from `I` ends in `Q`. -/
structure SubmitsWithin : Prop where
  routine : ∀ c w r, Routine c → I w → Ok c w r → I (act c w r).2
  ends : ∀ x w, I w → Q x w
  submit : ∀ order price sizing w, I w → wp act Ok (placeSubmit order price sizing) Q w

/-- The same for replacements; after a part of the pass without an error `I` holds again. -/
structure PlacesWithin : Prop extends SubmitsWithin act Ok I Q where
  goesOn : ∀ w, Q (.ok ()) w → I w
  replace : ∀ order price size usdc qty isPartial w, I w →
    wp act Ok (placeReplacement order price size usdc qty isPartial) Q w

variable {act Ok I Q} {order : TradeBuilderOrder} {α : Type} {w : W}

section Submits
variable (h : SubmitsWithin act Ok I Q)
include h

theorem SubmitsWithin.bind {p : Job α} {f : α → Job Unit} (hp : Only Routine p) (hw : I w)
    (hf : ∀ a w', I w' → wp act Ok (f a) Q w') : wp act Ok (p >>= f) Q w :=
  wp_bind_of_only h.routine hp hw hf fun _ => h.ends _

theorem SubmitsWithin.end {p : Job Unit} (hp : Only Routine p) (hw : I w) : wp act Ok p Q w :=
  wp_mono (wp_of_only h.routine hp hw) h.ends

theorem SubmitsWithin.submitRechecked (price : ℚ) (requested : Option ℚ) (sizing : SubmitSizing)
    (hw : I w) : wp act Ok (submitRechecked order price requested sizing) Q w := by
  refine h.bind (minNotionalTopUp_routine _ _ _) hw fun sizing w hw => ?_
  cases sizing with
  | none => exact h.ends _ _ hw
  | some sizing =>
    refine h.bind (belowMarketMin_routine _ _ _ _ _) hw fun handled w hw => ?_
    exact wp_ite (fun _ => h.end (event_routine _) hw) fun _ => h.submit _ _ _ _ hw

theorem SubmitsWithin.submitGuarded (current price : ℚ) (sizing : SubmitSizing) (hw : I w) :
    wp act Ok (submitGuarded order current price sizing) Q w := by
  refine h.bind (check_routine _) hw fun blocked w hw => wp_ite (fun _ => ?_) fun _ => ?_
  · exact h.end (.bind (event_routine _) fun _ => .bind (update_routine _) fun _ =>
      event_routine _) hw
  · refine h.bind (submitInventory_routine _ _ _) hw fun sizing w hw => ?_
    cases sizing with
    | none => exact h.ends _ _ hw
    | some sizing =>
      refine h.bind (statement_routine _) hw fun _ w hw => ?_
      refine h.bind (bookRecheck_routine _ _ _ _) hw fun rechecked w hw => ?_
      cases rechecked with
      | none => exact h.ends _ _ hw
      | some rechecked => exact h.submitRechecked _ _ _ hw

theorem SubmitsWithin.submitOrder (current : ℚ) (bestAsk : Option ℚ) (usdc : ℚ) (hw : I w) :
    wp act Ok (submitTradeBuilderTriggerOrder order current bestAsk usdc) Q w := by
  refine h.bind (desiredPrice_routine _ _ _) hw fun price w hw => ?_
  refine h.bind (only_whenOr (only_orElse trivial)) hw fun available w hw => ?_
  refine h.bind (only_whenOr (only_orElse trivial)) hw fun missing w hw =>
    wp_ite (fun _ => ?_) fun _ => ?_
  · exact h.end (.bind (event_routine _) fun _ => exitSellRetry_routine _ _ _ _ _ _ _) hw
  · refine h.bind (only_when reportPriceCap_routine) hw fun _ w hw => ?_
    split
    · exact h.ends _ _ hw
    · refine h.bind (only_when (only_discard (check_routine _))) hw fun _ w hw => ?_
      refine h.bind (submitGuards_routine _ _) hw fun stopped w hw => ?_
      exact wp_ite (fun _ => h.ends _ _ hw) fun _ => h.submitGuarded _ _ _ hw

theorem SubmitsWithin.submitTriggered (price : RuntimePrice) (hw : I w) :
    wp act Ok (submitTriggered order price) Q w := by
  refine h.bind (latchStopLoss_routine _) hw fun order w hw => ?_
  refine h.bind (statement_routine _) hw fun _ w hw => ?_
  refine h.bind (statement_routine _) hw fun _ w hw => ?_
  refine wp_ite (fun _ => h.submitOrder _ _ _ hw) fun _ => ?_
  refine h.bind (check_routine _) hw fun exhausted w hw => wp_ite (fun _ => ?_) fun _ => ?_
  · exact h.end (.bind (update_routine _) fun _ => event_routine _) hw
  · exact h.bind (run_routine trivial) hw fun _ w hw => h.submitOrder _ _ _ hw

theorem SubmitsWithin.confirmAndSubmit (price : RuntimePrice) (hw : I w) :
    wp act Ok (confirmAndSubmit order price) Q w := by
  refine h.bind (only_whenOr (only_orElse trivial)) hw fun waiting w hw =>
    wp_ite (fun _ => ?_) fun _ => wp_ite (fun _ => ?_) fun _ => h.submitTriggered _ hw
  · exact h.end (only_when (.bind (update_routine _) fun _ => event_routine _)) hw
  · exact h.bind (update_routine _) hw fun _ w hw =>
      h.bind (event_routine _) hw fun _ w hw => h.submitTriggered _ hw

theorem SubmitsWithin.evaluateAndSubmit (price : RuntimePrice) (hw : I w) :
    wp act Ok (evaluateAndSubmit order price) Q w := by
  refine h.bind (only_whenOr (only_orElse trivial)) hw fun missing w hw =>
    wp_ite (fun _ => ?_) fun _ => ?_
  · exact h.end (.bind (event_routine _) fun _ => update_routine _) hw
  · refine h.bind (silent_routine (evaluateTrigger_silent _ _)) hw fun evaluation w hw =>
      wp_ite (fun _ => ?_) fun _ => h.end (releaseUntriggered_routine _ _) hw
    exact h.bind (only_when (event_routine _)) hw fun _ w hw =>
      h.bind (update_routine _) hw fun _ w hw => h.confirmAndSubmit _ hw

end Submits

section Places
variable (h : PlacesWithin act Ok I Q)
include h

theorem PlacesWithin.replaceCanceled (price size : ℚ) (requested usdc qty : Option ℚ)
    (isPartial : Bool) (stage : Option ExitSubmitStage) (hw : I w) :
    wp act Ok (replaceCanceled order price size requested usdc qty isPartial stage) Q w := by
  refine h.bind (statement_routine _) hw fun _ w hw =>
    wp_ite (fun _ => h.end suppressReprice_routine hw) fun _ => ?_
  refine h.bind (belowMarketMin_routine _ _ _ _ _) hw fun handled w hw =>
    wp_ite (fun _ => h.ends _ _ hw) fun _ => ?_
  exact h.bind (only_when (event_routine _)) hw fun _ w hw => h.replace _ _ _ _ _ _ _ hw

theorem PlacesWithin.cancelAndReplace (id : ℕ) (info : OrderInfo) (price size : ℚ)
    (requested usdc qty : Option ℚ) (isPartial : Bool) (stage : Option ExitSubmitStage)
    (hw : I w) :
    wp act Ok (cancelAndReplace order id info price size requested usdc qty isPartial stage) Q
      w := by
  refine h.bind (only_tryRun trivial) hw fun canceled w hw => ?_
  cases canceled with
  | error e =>
    exact wp_ite (fun _ => h.end (finalizeTerminalMatch_routine _ _ _ _ _) hw)
      fun _ => h.ends _ _ hw
  | ok _ =>
    refine wp_ite (fun _ => ?_) fun _ => h.replaceCanceled _ _ _ _ _ _ _ hw
    refine h.bind (postCancelBuyFill_routine _ _ _) hw fun outcome w hw => ?_
    cases outcome with
    | finalized => exact h.ends _ _ hw
    | noFill => exact h.replaceCanceled _ _ _ _ _ _ _ hw

theorem PlacesWithin.repriceOpenOrder (id : ℕ) (info : OrderInfo) (current : ℚ)
    (bestAsk : Option ℚ) (desired : ℚ) (remaining : Option ℚ × Option ℚ) (hw : I w) :
    wp act Ok (repriceOpenOrder order id info current bestAsk desired remaining) Q w := by
  refine wp_ite (fun _ => h.end (update_routine _) hw) fun _ =>
    wp_ite (fun _ => h.end (cancelAtGuard_routine _ _ _ _ _ _) hw) fun _ =>
      wp_ite (fun _ => h.end (cancelAtGuard_routine _ _ _ _ _ _) hw) fun _ =>
        wp_ite (fun _ => ?_) fun _ => h.cancelAndReplace _ _ _ _ _ _ _ _ _ hw
  refine h.bind (shareInventory_routine _ _ _ _) hw fun submit w hw => ?_
  cases submit with
  | none => exact h.ends _ _ hw
  | some submit => exact h.cancelAndReplace _ _ _ _ _ _ _ _ _ hw

theorem PlacesWithin.reconcile (id : ℕ) (current : ℚ) (bestAsk : Option ℚ) (hw : I w) :
    wp act Ok (reconcileTradeBuilderOpenOrder order id current bestAsk) Q w := by
  have hopen : ∀ info w, I w → wp act Ok (reconcileOpen order id info current bestAsk) Q w := by
    intro info w hw
    refine h.bind (only_when syncWithParent_routine) hw fun _ w hw => ?_
    refine h.bind (desiredPrice_routine _ _ _) hw fun desired w hw => ?_
    refine h.bind (only_when reportPriceCap_routine) hw fun _ w hw => ?_
    refine h.bind (statement_routine _) hw fun _ w hw => ?_
    exact wp_ite (fun _ => h.repriceOpenOrder _ _ _ _ _ _ hw) fun _ => h.end (update_routine _) hw
  refine wp_ite (fun _ => h.end (cancelRequested_routine _) hw) fun _ => ?_
  refine h.bind (run_routine trivial) hw fun info w hw => ?_
  refine h.bind (statement_routine _) hw fun _ w hw => ?_
  cases info.status with
  | opened => exact hopen info w hw
  | partiallyFilled => exact hopen info w hw
  | filled => exact h.end (reconcileFilled_routine _ _ _) hw
  | _ => exact h.end (reconcileTerminal_routine _ _ _) hw

theorem PlacesWithin.processPreempted (preempted : Bool) (price : RuntimePrice) (hw : I w) :
    wp act Ok (processPreempted order preempted price) Q w := by
  refine wp_ite (fun _ => h.end (update_routine _) hw) fun _ => ?_
  cases order.activeExchangeOrderId with
  | some id =>
    exact wp_bind_of (h.reconcile id _ _ hw)
      (fun _ w hq => h.end (update_routine _) (h.goesOn w hq)) fun _ _ hq => hq
  | none =>
    exact wp_ite (fun _ => h.end (.bind (update_routine _) fun _ => event_routine _) hw)
      fun _ => h.evaluateAndSubmit _ hw

theorem PlacesWithin.processLive (now : ℤ) (hw : I w) :
    wp act Ok (processLive order now) Q w := by
  refine h.bind (eligibilityWindow_routine _ _) hw fun _ w hw =>
    wp_ite (fun _ => h.ends _ _ hw) fun _ => ?_
  refine h.bind (staleOrder_routine _) hw fun _ w hw =>
    wp_ite (fun _ => h.ends _ _ hw) fun _ => ?_
  refine h.bind (pairLockRuntime_routine _) hw fun stage w hw => ?_
  cases stage with
  | ends => exact h.ends _ _ hw
  | goes order =>
    refine h.bind (run_routine trivial) hw fun price w hw => ?_
    cases price with
    | none => exact h.end (event_routine _) hw
    | some price =>
      refine h.bind (statement_routine _) hw fun _ w hw => ?_
      exact h.bind (preemptTakeProfit_routine _) hw fun _ w hw => h.processPreempted _ _ hw

theorem PlacesWithin.processOrder (now : ℤ) (hw : I w) :
    wp act Ok (processOrder order now) Q w := by
  refine wp_ite (fun _ => h.ends _ _ hw) fun _ => wp_ite (fun _ => ?_) fun _ =>
    wp_ite (fun _ => h.end (expireByTtl_routine _) hw) fun _ => h.processLive _ hw
  exact h.end (.bind (update_routine _) fun _ => .bind (event_routine _) fun _ =>
    only_ignore (statement_routine _)) hw

end Places

end Walk

end PolymarketBot.Builder
