import PolymarketBot.Flow.OnceSteps

/-! The confirmation of a crossing over the prices that the fast path observes for a token. -/

namespace PolymarketBot.Flow
open Lib.Runs

/-- The edit sets the entry under this state key. -/
def ContextEdit.setsKey (stateKey : String) : ContextEdit → Bool
  | .setNodeState _ key _ => key = stateKey
  | .removeNodeState _ _ | .setSection _ _ _ => false

section Gate
variable (spec : WsOpenPositionPriceNodeSpec)

def pendingAt (context : Value) : Option String :=
  flowNodeStateString context spec.nodeKey (crossPendingAtKey spec.tokenId)

/-- At or beyond the trigger price, and not above the maximum. -/
def inTriggerZone (price : ℚ) : Bool :=
  withinMax price spec.maxPrice && match spec.triggerCondition with
    | "cross_above" | "level_above" => decide (price ≥ spec.triggerPrice)
    | "cross_below" | "level_below" => decide (price ≤ spec.triggerPrice)
    | _ => false

/-- The ticks that the fast path leaves before it reads the node's state. -/
def passesOver (quote : WsQuote) : Bool :=
  (spec.autoScope && spec.marketSlug.any (isAutoScopeMarketExpired quote.now · 15)) ||
    (quote.price < 3 / 100 || quote.price > 97 / 100) || shouldSkipForCycleWindow quote.now spec

/-- The node's market is not the one of its last tick. -/
def marketMoved (context : Value) : Bool :=
  spec.marketSlug.any fun slug =>
    flowNodeStateString context spec.nodeKey "last_ws_market_slug" ≠ some slug

def onceBlocks (context : Value) : Bool :=
  spec.onceMode && tradeFlowMarketPriceOnceFiredForScope (tickView spec context) spec.nodeKey
    spec.onceScopeMarket spec.marketSlug

/-- The spec's crossings wait for a confirmation. -/
def confirmsCrossings : Bool :=
  !spec.pairLockOnlyMonitor && isStandardGate (triggerMarketPriceGateMode spec) &&
    (marketPriceConfirmationMs spec).isSome

/-- The tick comes to the code that forgets a pending confirmation. -/
def cancelsPending (context : Value) (quote : WsQuote) : Bool :=
  !passesOver spec quote && (marketMoved spec context ||
    (!onceBlocks spec context && confirmsCrossings spec && !stillInZone spec quote.price))

end Gate

def startsPending (spec : WsOpenPositionPriceNodeSpec) (edits : List ContextEdit) : Bool :=
  edits.any (ContextEdit.setsKey (crossPendingAtKey spec.tokenId))

/-- The step asked for is of a confirmed crossing. -/
def TargetOutcome.isConfirmed (outcome : TargetOutcome) : Bool :=
  outcome.step.any (·.evaluationMode = "cross_confirmed")

/-- The context of a run as the fast path caches it, the prices observed since the pending
confirmation started, and those over which each confirmed step was asked for. -/
structure ConfirmationRun where
  context : Value
  observed : List ℚ := []
  confirmed : List (List ℚ) := []

/-- A tick or a timer has the target evaluated; the edits are lost where the pass over all
targets fails. Others leave the context as they will. -/
inductive ConfirmationEvent where
  | evaluated (quote : WsQuote) (saved : Bool)
  | rewritten (context : Value)

section Run
variable (chrono : Chrono) (runId : ℤ) (spec : WsOpenPositionPriceNodeSpec)

def ConfirmationRun.step (run : ConfirmationRun) : ConfirmationEvent → ConfirmationRun
  | .evaluated quote saved =>
    let (outcome, edits) := processWsTarget chrono runId spec quote run.context
    let observed := run.observed ++ [quote.price]
    { context := if saved then applyEdits edits run.context else run.context
      observed := if saved && startsPending spec edits then [quote.price] else observed
      confirmed := if outcome.isConfirmed then run.confirmed ++ [observed] else run.confirmed }
  | .rewritten context =>
    { run with
      context
      observed := if pendingAt spec context = pendingAt spec run.context then run.observed else [] }

/-- While a confirmation is pending, every price observed since it started lay in the zone; and
so did every price behind a confirmed step. -/
def ConfirmationRun.Sustained (run : ConfirmationRun) : Prop :=
  ((pendingAt spec run.context).isSome → ∀ price ∈ run.observed, inTriggerZone spec price) ∧
    ∀ prices ∈ run.confirmed, ∀ price ∈ prices, inTriggerZone spec price

/-- A price outside the zone comes to the code that forgets the pending confirmation. -/
def ConfirmationRun.Heeds (run : ConfirmationRun) : ConfirmationEvent → Prop
  | .evaluated quote saved => (pendingAt spec run.context).isSome →
      inTriggerZone spec quote.price ∨ (saved ∧ cancelsPending spec run.context quote)
  | .rewritten _ => True

instance ConfirmationRun.decidableHeeds (run : ConfirmationRun) :
    (event : ConfirmationEvent) → Decidable (run.Heeds spec event)
  | .evaluated quote saved => inferInstanceAs (Decidable ((pendingAt spec run.context).isSome →
      inTriggerZone spec quote.price ∨ (saved ∧ cancelsPending spec run.context quote)))
  | .rewritten _ => inferInstanceAs (Decidable True)

end Run

/-! ### What an evaluation does to the pending confirmation -/

section Effects
variable {spec : WsOpenPositionPriceNodeSpec}

theorem crossAboveMode_zone {previous : Option ℚ} {price trigger : ℚ} {allowFirst : Bool}
    {maxPrice : Option ℚ} {mode : String}
    (h : crossAboveMode previous price trigger allowFirst maxPrice = some mode) :
    price ≥ trigger := by
  unfold crossAboveMode at h
  cases maxPrice with
  | none => cases previous <;> grind
  | some mp => cases previous <;> grind

theorem crossBelowMode_zone {previous : Option ℚ} {price trigger : ℚ} {allowFirst : Bool}
    {mode : String} (h : crossBelowMode previous price trigger allowFirst = some mode) :
    price ≤ trigger := by
  unfold crossBelowMode at h
  cases previous <;> grind

theorem missMode_fst (previous : Option ℚ) (allowFirst : Bool) (mode : String) :
    (missMode previous allowFirst mode).1 = false := by
  unfold missMode
  split <;> rfl

theorem crossed_inTriggerZone {previous : Option ℚ} {price : ℚ} {allowFirst : Bool}
    (h : (evaluateTriggerMarketPriceCondition previous price spec.triggerPrice spec.triggerCondition
      allowFirst spec.maxPrice).1 = true) : inTriggerZone spec price = true := by
  unfold evaluateTriggerMarketPriceCondition at h
  unfold inTriggerZone
  have hmiss := missMode_fst previous allowFirst
  split at h
  · rename_i hcondition
    rw [hcondition]
    grind
  · rename_i hcondition
    rw [hcondition]
    grind
  · rename_i hcondition
    rw [hcondition]
    have hzone := @crossAboveMode_zone previous price spec.triggerPrice allowFirst spec.maxPrice
    grind
  · rename_i hcondition
    rw [hcondition]
    have hzone := @crossBelowMode_zone previous price spec.triggerPrice allowFirst
    grind
  · cases h

theorem crossAboveMode_ne (previous : Option ℚ) (price trigger : ℚ) (allowFirst : Bool)
    (maxPrice : Option ℚ) :
    crossAboveMode previous price trigger allowFirst maxPrice ≠ some "cross_confirmed" := by
  unfold crossAboveMode
  cases maxPrice <;> cases previous <;> grind

theorem crossBelowMode_ne (previous : Option ℚ) (price trigger : ℚ) (allowFirst : Bool) :
    crossBelowMode previous price trigger allowFirst ≠ some "cross_confirmed" := by
  unfold crossBelowMode
  cases previous <;> grind

theorem evaluate_mode_ne (previous : Option ℚ) (price trigger : ℚ) (condition : String)
    (allowFirst : Bool) (maxPrice : Option ℚ) :
    (evaluateTriggerMarketPriceCondition previous price trigger condition allowFirst maxPrice).2 ≠
      "cross_confirmed" := by
  have habove := crossAboveMode_ne previous price trigger allowFirst maxPrice
  have hbelow := crossBelowMode_ne previous price trigger allowFirst
  unfold evaluateTriggerMarketPriceCondition missMode
  grind

theorem otherPrefix_ne {pre : String}
    (h : ∀ rest, pre.toList.isPrefixOf ("cross_pending_at_".toList ++ rest) = false)
    (suffix tokenId : String) : pre ++ suffix ≠ crossPendingAtKey tokenId := by
  refine prefixed_ne ?_ suffix
  unfold startsWith crossPendingAtKey
  rw [String.toList_append, h]

theorem previousPriceKey_ne (tokenId tokenId' : String) :
    previousPriceKey tokenId ≠ crossPendingAtKey tokenId' := otherPrefix_ne (fun _ => rfl) _ _

theorem crossPendingPriceKey_ne (tokenId tokenId' : String) :
    crossPendingPriceKey tokenId ≠ crossPendingAtKey tokenId' := otherPrefix_ne (fun _ => rfl) _ _

theorem crossPendingPrevKey_ne (tokenId tokenId' : String) :
    crossPendingPrevKey tokenId ≠ crossPendingAtKey tokenId' := otherPrefix_ne (fun _ => rfl) _ _

theorem plainKey_ne {key : String} (h : startsWith "cross_pending_at_" key = false)
    (tokenId : String) : key ≠ crossPendingAtKey tokenId :=
  (prefixed_ne h tokenId).symm

theorem pendingAt_spared {es : List ContextEdit}
    (h : ∀ e ∈ es, e.Spares (crossPendingAtKey spec.tokenId)) (context : Value) :
    pendingAt spec (applyEdits es context) = pendingAt spec context := by
  unfold pendingAt flowNodeStateString
  rw [flowNodeState_spared h]

theorem not_setsKey_of_neverSets {es : List ContextEdit} {stateKey : String}
    (h : ∀ e ∈ es, e.NeverSets stateKey) : es.any (ContextEdit.setsKey stateKey) = false := by
  refine List.any_eq_false.mpr fun e he => ?_
  have hnever := h e he
  cases e <;> simp_all [ContextEdit.NeverSets, ContextEdit.setsKey]

theorem syncOnceScope_spares (nodeKey : String) (onceScopeMarket : Bool)
    (marketSlug : Option String) (tokenId : String) :
    (syncTradeFlowMarketPriceOnceScopeState nodeKey onceScopeMarket marketSlug).All
      (·.Spares (crossPendingAtKey tokenId)) := by
  refine (syncOnceScope_edits nodeKey onceScopeMarket marketSlug).mono fun e he => ?_
  refine he.spares fun hmem => ?_
  have hkeys : ∀ key ∈ onceStateKeys, startsWith "cross_pending_at_" key = false := by decide
  exact plainKey_ne (hkeys _ hmem) tokenId rfl

variable (spec) in
theorem clearCrossPending_pendingAt (context : Value) :
    pendingAt spec ((clearCrossPending spec).run context) = none := by
  have hat : flowNodeState ((clearCrossPending spec).run context) spec.nodeKey
      (crossPendingAtKey spec.tokenId) = none := by
    unfold clearCrossPending
    rw [Draft.bind_run, Draft.bind_run, Draft.remove_run, Draft.remove_run, Draft.remove_run,
      flowNodeState_removeFlowNodeState, flowNodeState_removeFlowNodeState,
      flowNodeState_removeFlowNodeState]
    simp
  unfold pendingAt flowNodeStateString
  rw [hat]
  rfl

variable (spec) in
theorem clearCrossPending_neverSets (stateKey : String) :
    (clearCrossPending spec).All (·.NeverSets stateKey) :=
  .bind (.edit trivial) fun _ => .bind (.edit trivial) fun _ => .edit trivial

variable (spec) in
theorem recordPrice_keeps (price : ℚ) :
    (recordPrice spec price).All (·.Spares (crossPendingAtKey spec.tokenId)) :=
  .bind (.edit (plainKey_ne (by decide) _)) fun _ => .edit (previousPriceKey_ne _ _)

variable (spec) in
theorem logOnceBlocked_keeps :
    (logOnceBlocked spec).All (·.Spares (crossPendingAtKey spec.tokenId)) := by
  unfold logOnceBlocked
  refine .bind .read fun context => ?_
  split
  · exact .pure false
  · exact .bind (.edit (plainKey_ne (by decide) _)) fun _ => .pure true

theorem syncLastWsMarketSlug_pendingAt (context : Value) :
    pendingAt spec ((syncLastWsMarketSlug spec).run context) =
      if marketMoved spec context then none else pendingAt spec context := by
  unfold syncLastWsMarketSlug marketMoved
  cases spec.marketSlug with
  | none => rfl
  | some slug =>
    simp only [Option.any_some]
    rw [Draft.bind_run, Draft.read_fst, Draft.read_run]
    have hslug : ∀ context, pendingAt spec
        ((Draft.set spec.nodeKey "last_ws_market_slug" (.string slug)).run context) =
          pendingAt spec context :=
      pendingAt_spared (Draft.All.edit (plainKey_ne (by decide) _) .null)
    by_cases hmoved :
        decide (flowNodeStateString context spec.nodeKey "last_ws_market_slug" ≠ some slug) = true
    · rw [if_pos hmoved, if_pos hmoved]
      exact (hslug _).trans (clearCrossPending_pendingAt spec _)
    · rw [if_neg hmoved, if_neg hmoved]
      exact hslug context

theorem syncLastWsMarketSlug_neverSets :
    (syncLastWsMarketSlug spec).All (·.NeverSets (crossPendingAtKey spec.tokenId)) := by
  unfold syncLastWsMarketSlug
  split
  · exact .pure false
  · refine .bind .read fun context => ?_
    extract_lets last changed rest
    have hrest : ∀ r, (rest r).All (·.NeverSets (crossPendingAtKey spec.tokenId)) := fun r =>
      .bind (.edit (plainKey_ne (by decide) _)) fun _ => .pure changed
    split
    · refine .bind (.edit trivial) fun _ => .bind (.edit trivial) fun _ => ?_
      exact .bind (clearCrossPending_neverSets spec _) hrest
    · exact hrest ()

variable (spec) in
theorem tickView_pendingAt (context : Value) :
    pendingAt spec (tickView spec context) =
      if marketMoved spec context then none else pendingAt spec context := by
  have hspares := syncOnceScope_spares spec.nodeKey spec.onceScopeMarket spec.marketSlug
  have hsync := pendingAt_spared (hspares spec.tokenId context) context
  have hmoved : marketMoved spec ((syncTradeFlowMarketPriceOnceScopeState spec.nodeKey
      spec.onceScopeMarket spec.marketSlug).run context) = marketMoved spec context := by
    have hlast : ∀ e ∈ (syncTradeFlowMarketPriceOnceScopeState spec.nodeKey spec.onceScopeMarket
        spec.marketSlug context).2, e.Spares "last_ws_market_slug" := fun e he =>
      (syncOnceScope_edits _ _ _ context e he).spares (by decide)
    unfold marketMoved flowNodeStateString Draft.run
    rw [flowNodeState_spared hlast]
  rw [tickView, syncLastWsMarketSlug_pendingAt, hmoved]
  exact congrArg _ hsync

section Confirm
variable (spec) (chrono : Chrono) (quote : WsQuote) (previous : Option ℚ) (ms : ℤ) (context : Value)

theorem confirmCross_crossed :
    (confirmCross chrono spec quote previous true ms context).1 = false ∧
      (confirmCross chrono spec quote previous true ms context).2.any
        (ContextEdit.setsKey (crossPendingAtKey spec.tokenId)) = true :=
  ⟨rfl, List.any_eq_true.mpr ⟨_, List.mem_cons_self .., decide_eq_true rfl⟩⟩

theorem confirmCross_neverSets :
    (confirmCross chrono spec quote previous false ms).All
      (·.NeverSets (crossPendingAtKey spec.tokenId)) := by
  have hclear := clearCrossPending_neverSets spec (crossPendingAtKey spec.tokenId)
  unfold confirmCross
  refine .bind .read fun context => ?_
  split
  · exact .pure false
  · split
    · split
      · exact .pure false
      · split
        · exact .bind hclear fun _ => .pure true
        · exact .pure false
    · exact .bind hclear fun _ => .pure false

theorem confirmCross_waiting :
    let confirmed := (confirmCross chrono spec quote previous false ms context).1
    let after := (confirmCross chrono spec quote previous false ms).run context
    confirmed = true ∨ (pendingAt spec after).isSome →
      (pendingAt spec context).isSome ∧ stillInZone spec quote.price = true := by
  intro confirmed after hor
  have hclear := clearCrossPending_pendingAt spec context
  unfold pendingAt at hor hclear ⊢
  simp only [confirmed, after, confirmCross, Bool.false_eq_true, if_false, Draft.bind_fst,
    Draft.bind_run, Draft.read_fst, Draft.read_run] at hor
  cases hpending : flowNodeStateString context spec.nodeKey (crossPendingAtKey spec.tokenId) with
  | none =>
    rw [hpending] at hor
    rcases hor with hconfirmed | hafter
    · cases hconfirmed
    · have hsame : flowNodeStateString ((pure false : Draft Bool).run context) spec.nodeKey
          (crossPendingAtKey spec.tokenId) = none := hpending
      simp [hsame] at hafter
  | some text =>
    rw [hpending] at hor
    refine ⟨rfl, by_contra fun hzone => ?_⟩
    simp only [if_neg hzone] at hor
    rcases hor with hconfirmed | hafter
    · cases hconfirmed
    · rw [Draft.bind_run] at hafter
      have hsame : flowNodeStateString ((pure false : Draft Bool).run
          ((clearCrossPending spec).run context)) spec.nodeKey (crossPendingAtKey spec.tokenId) =
            none := hclear
      simp [hsame] at hafter

end Confirm

section Decision
variable (chrono : Chrono) (quote : WsQuote) (previous : Option ℚ) (crossed : Bool)

theorem wsDecision_plain (h : confirmsCrossings spec = false)
    (hgate : spec.pairLockOnlyMonitor = true ∨ triggerMarketPriceGateMode spec ≠ none)
    (mode : String) :
    ∃ wanted decided, wsDecision chrono spec quote previous crossed mode = pure (wanted, decided) ∧
      (decided = "ptb_only" ∨ decided = mode) := by
  unfold wsDecision
  by_cases hptb : triggerMarketPriceGateMode spec = some .ptbOnly
  · exact ⟨_, _, if_pos hptb, .inl rfl⟩
  by_cases hmonitor : spec.pairLockOnlyMonitor = true
  · exact ⟨_, _, (if_neg hptb).trans (if_pos hmonitor), .inr rfl⟩
  have hstandard : isStandardGate (triggerMarketPriceGateMode spec) = true := by
    have hsome := hgate.resolve_left hmonitor
    cases hmode : triggerMarketPriceGateMode spec with
    | none => exact absurd hmode hsome
    | some gate => cases gate <;> simp_all [isStandardGate]
  have hms : marketPriceConfirmationMs spec = none := by
    unfold confirmsCrossings at h
    simpa [hmonitor, hstandard] using h
  rw [hms]
  exact ⟨_, _, (if_neg hptb).trans (if_neg hmonitor), .inr rfl⟩

theorem wsDecision_confirming (h : confirmsCrossings spec = true) (mode : String) :
    ∃ ms ∈ marketPriceConfirmationMs spec, ∃ passes,
      wsDecision chrono spec quote previous crossed mode =
        confirmCross chrono spec quote previous crossed ms >>= fun confirmed =>
          pure (confirmed && passes, if confirmed then "cross_confirmed" else mode) := by
  unfold confirmsCrossings at h
  simp only [Bool.and_eq_true, Bool.not_eq_true'] at h
  obtain ⟨⟨hmonitor, hgate⟩, hsome⟩ := h
  obtain ⟨ms, hms⟩ := Option.isSome_iff_exists.mp hsome
  have hptb : triggerMarketPriceGateMode spec ≠ some .ptbOnly := by
    intro hptb
    rw [hptb] at hgate
    cases hgate
  unfold wsDecision
  rw [hms]
  exact ⟨ms, rfl, _, (if_neg hptb).trans (if_neg (by simp [hmonitor]))⟩

end Decision

/-- An evaluation starts a confirmation at a price in the zone; or else a step is confirmed, and
a confirmation stays pending, only where one was and the price was not heeded. -/
inductive ConfirmationEffect (spec : WsOpenPositionPriceNodeSpec) (before after : Value) (price : ℚ)
    (heeded starts confirmed : Bool) : Prop
  | started (hstarts : starts = true) (hconfirmed : confirmed = false)
      (hzone : inTriggerZone spec price = true)
  | waited (hstarts : starts = false) (hpending : confirmed = true ∨
      (pendingAt spec after).isSome → (pendingAt spec before).isSome ∧ heeded = false)

theorem ConfirmationEffect.of_parts {spec : WsOpenPositionPriceNodeSpec}
    {before before' after after' : Value} {price : ℚ} {heeded starts starts' confirmed confirmed' : Bool}
    (h : ConfirmationEffect spec before' after price heeded starts confirmed)
    (hbefore : pendingAt spec before' = pendingAt spec before)
    (hafter : pendingAt spec after' = pendingAt spec after) (hstarts : starts' = starts)
    (hconfirmed : confirmed' = confirmed) :
    ConfirmationEffect spec before after' price heeded starts' confirmed' := by
  rw [hstarts, hconfirmed]
  cases h with
  | started hs hc hz => exact .started hs hc hz
  | waited hs hp => exact .waited hs (by rwa [hafter, ← hbefore])

theorem startsPending_append (spec : WsOpenPositionPriceNodeSpec) (es fs : List ContextEdit) :
    startsPending spec (es ++ fs) = (startsPending spec es || startsPending spec fs) :=
  List.any_append

/-- The price is outside the zone for the code, of a spec that waits for confirmations. -/
def leavesZone (spec : WsOpenPositionPriceNodeSpec) (price : ℚ) : Bool :=
  confirmsCrossings spec && !stillInZone spec price

section Verdict
variable {previous : Option ℚ} {price : ℚ} {verdict : Bool × String}
  (h : wsCondition spec previous price = some verdict)
include h

theorem wsCondition_mode_ne : verdict.2 ≠ "cross_confirmed" := by
  unfold wsCondition at h
  split at h
  · obtain rfl := Option.some.inj h
    decide
  · split at h
    · obtain rfl := Option.some.inj h
      decide
    · obtain rfl := Option.some.inj h
      exact evaluate_mode_ne _ _ _ _ _ _
    · cases h

theorem wsCondition_gated :
    spec.pairLockOnlyMonitor = true ∨ triggerMarketPriceGateMode spec ≠ none := by
  unfold wsCondition at h
  by_contra hnot
  obtain ⟨hmonitor, hgate⟩ := not_or.mp hnot
  rw [if_neg hmonitor, not_not.mp hgate] at h
  cases h

theorem wsCondition_crossed_zone (hconfirms : confirmsCrossings spec = true)
    (hcrossed : verdict.1 = true) : inTriggerZone spec price = true := by
  unfold confirmsCrossings at hconfirms
  simp only [Bool.and_eq_true, Bool.not_eq_true'] at hconfirms
  obtain ⟨⟨hmonitor, hgate⟩, -⟩ := hconfirms
  unfold wsCondition at h
  rw [if_neg (by simp [hmonitor])] at h
  split at h
  · rename_i hptb
    rw [hptb] at hgate
    cases hgate
  · obtain rfl := Option.some.inj h
    exact crossed_inTriggerZone hcrossed
  · cases h

end Verdict

theorem wsDecision_effect (chrono : Chrono) (quote : WsQuote) (previous : Option ℚ)
    {verdict : Bool × String} (hverdict : wsCondition spec previous quote.price = some verdict)
    (context : Value) :
    let decision := wsDecision chrono spec quote previous verdict.1 verdict.2
    ConfirmationEffect spec context (decision.run context) quote.price
      (leavesZone spec quote.price) (startsPending spec (decision context).2)
      ((decision context).1.1 && (decision context).1.2 = "cross_confirmed") := by
  intro decision
  cases hconfirms : confirmsCrossings spec with
  | false =>
    obtain ⟨wanted, decided, hdecision, hdecided⟩ := wsDecision_plain chrono quote previous verdict.1
      hconfirms (wsCondition_gated hverdict) verdict.2
    have hplain : decision = pure (wanted, decided) := hdecision
    have hne : decided ≠ "cross_confirmed" := by
      rcases hdecided with h | h
      · rw [h]
        decide
      · rw [h]
        exact wsCondition_mode_ne hverdict
    rw [hplain]
    refine .waited rfl fun hor => ⟨?_, by rw [leavesZone, hconfirms]; rfl⟩
    rcases hor with hconfirmed | hafter
    · exact absurd (of_decide_eq_true (Bool.and_eq_true_iff.mp hconfirmed).2) hne
    · exact hafter
  | true =>
    obtain ⟨ms, -, passes, hdecision⟩ := wsDecision_confirming chrono quote previous verdict.1
      hconfirms verdict.2
    have hsplit : decision = _ := hdecision
    rw [hsplit]
    cases hcrossed : verdict.1 with
    | true =>
      obtain ⟨hfst, hsets⟩ := confirmCross_crossed spec chrono quote previous ms context
      refine .started ?_ ?_ (wsCondition_crossed_zone hverdict hconfirms hcrossed)
      · rw [startsPending, Draft.bind_snd, List.any_append, hsets, Bool.true_or]
      · rw [Draft.bind_fst, hfst]
        rfl
    | false =>
      have hsets := not_setsKey_of_neverSets
        (confirmCross_neverSets spec chrono quote previous ms context)
      have hwaiting := confirmCross_waiting spec chrono quote previous ms context
      refine .waited ?_ fun hor => ?_
      · rw [startsPending, Draft.bind_snd, List.any_append, hsets]
        rfl
      · rw [Draft.bind_fst, Draft.bind_run] at hor
        have hconfirmed : (confirmCross chrono spec quote previous false ms context).1 = true ∨
            (pendingAt spec ((confirmCross chrono spec quote previous false ms).run
              context)).isSome := by
          refine hor.imp_left fun hconfirmed => ?_
          exact (Bool.and_eq_true_iff.mp (Bool.and_eq_true_iff.mp hconfirmed).1).1
        obtain ⟨hpending, hzone⟩ := hwaiting hconfirmed
        exact ⟨hpending, by rw [leavesZone, hzone, Bool.not_true, Bool.and_false]⟩

theorem ConfirmationEffect.of_tickView {context after : Value} {price : ℚ}
    {heeded starts confirmed : Bool}
    (h : ConfirmationEffect spec (tickView spec context) after price heeded starts confirmed) :
    ConfirmationEffect spec context after price (marketMoved spec context || heeded) starts
      confirmed := by
  cases h with
  | started hs hc hz => exact .started hs hc hz
  | waited hs hp =>
    refine .waited hs fun hor => ?_
    obtain ⟨hpending, hheeded⟩ := hp hor
    rw [tickView_pendingAt] at hpending
    cases hmoved : marketMoved spec context with
    | true => simp [hmoved] at hpending
    | false => exact ⟨by simpa [hmoved] using hpending, by rw [hheeded]; rfl⟩

section Evaluation
variable (chrono : Chrono) (runId : ℤ) (quote : WsQuote)

theorem isConfirmed_some (dirty : Bool) (step : StepRequest) :
    TargetOutcome.isConfirmed ⟨dirty, some step⟩ =
      decide (step.evaluationMode = "cross_confirmed") := rfl

theorem confirmsCrossings_of_ungated {previous : Option ℚ} {price : ℚ}
    (h : wsCondition spec previous price = none) : confirmsCrossings spec = false := by
  unfold wsCondition at h
  unfold confirmsCrossings
  split at h
  · cases h
  · split at h
    · cases h
    · cases h
    · rename_i hgate
      rw [hgate]
      simp [isStandardGate]

theorem leavesZone_of_ungated {previous : Option ℚ} {price : ℚ}
    (h : wsCondition spec previous price = none) : leavesZone spec price = false := by
  rw [leavesZone, confirmsCrossings_of_ungated h, Bool.false_and]

theorem evaluateWsTarget_decided (changed : Bool) (view : Value) {verdict : Bool × String}
    (hverdict : wsCondition spec (tickPreviousPrice spec view) quote.price = some verdict) :
    let recorded := (recordPrice spec quote.price).run view
    let decision := wsDecision chrono spec quote (tickPreviousPrice spec view) verdict.1 verdict.2
    let evaluation := evaluateWsTarget chrono runId spec quote changed
    (evaluation view).2 = (recordPrice spec quote.price view).2 ++ (decision recorded).2 ∧
      (evaluation view).1.isConfirmed =
        ((decision recorded).1.1 && decide ((decision recorded).1.2 = "cross_confirmed")) := by
  intro recorded decision evaluation
  obtain ⟨crossed, mode⟩ := verdict
  have hprevious : (flowNodeState view spec.nodeKey (previousPriceKey spec.tokenId)).bind
      valueAsDecimal = tickPreviousPrice spec view := rfl
  simp only [evaluation, evaluateWsTarget]
  rw [Draft.bind_fst, Draft.bind_snd, Draft.read_fst, Draft.read_run, hprevious, hverdict]
  dsimp only
  cases hwanted : (decision recorded).1.1 with
  | true =>
    have hnot : ¬ (!(decision recorded).1.1) = true := by simp [hwanted]
    rw [Draft.bind_fst, Draft.bind_fst, Draft.bind_snd, Draft.bind_snd, if_neg hnot,
      Draft.bind_fst, Draft.bind_snd, Draft.read_fst, Draft.read_snd, Draft.pure_fst,
      Draft.pure_snd, isConfirmed_some, Bool.true_and, List.append_nil, Draft.read_snd, List.append_nil]
    simp only [decision, recorded, List.nil_append, and_self]
  | false =>
    have hnot : (!(decision recorded).1.1) = true := by simp [hwanted]
    rw [Draft.bind_fst, Draft.bind_fst, Draft.bind_snd, Draft.bind_snd, if_pos hnot]
    rw [Draft.read_snd, Draft.pure_fst, Draft.pure_snd, Bool.false_and, List.append_nil]
    exact ⟨rfl, rfl⟩

theorem evaluateWsTarget_ungated (changed : Bool) (view : Value)
    (hverdict : wsCondition spec (tickPreviousPrice spec view) quote.price = none) :
    evaluateWsTarget chrono runId spec quote changed view = (⟨changed, none⟩, []) := by
  have hprevious : (flowNodeState view spec.nodeKey (previousPriceKey spec.tokenId)).bind
      valueAsDecimal = tickPreviousPrice spec view := rfl
  unfold evaluateWsTarget
  dsimp only
  rw [Prod.ext_iff, Draft.bind_fst, Draft.bind_snd, Draft.read_fst, Draft.read_run, hprevious,
    hverdict]
  exact ⟨rfl, rfl⟩

theorem evaluateWsTarget_effect (changed : Bool) (view : Value) :
    let evaluation := evaluateWsTarget chrono runId spec quote changed
    ConfirmationEffect spec view (evaluation.run view) quote.price (leavesZone spec quote.price)
      (startsPending spec (evaluation view).2) (evaluation view).1.isConfirmed := by
  intro evaluation
  cases hverdict : wsCondition spec (tickPreviousPrice spec view) quote.price with
  | none =>
    have hskipped : evaluation view = (⟨changed, none⟩, []) :=
      evaluateWsTarget_ungated chrono runId quote changed view hverdict
    rw [Draft.run, hskipped]
    refine .waited rfl fun hor => ⟨?_, leavesZone_of_ungated hverdict⟩
    rcases hor with hconfirmed | hafter
    · cases hconfirmed
    · exact hafter
  | some verdict =>
    have hrecord := recordPrice_keeps spec quote.price view
    have hsets : startsPending spec (recordPrice spec quote.price view).2 = false :=
      not_setsKey_of_neverSets fun e he => (hrecord e he).neverSets
    obtain ⟨hedits, hconfirmed⟩ := evaluateWsTarget_decided chrono runId quote changed view hverdict
    refine (wsDecision_effect chrono quote (tickPreviousPrice spec view) hverdict
      ((recordPrice spec quote.price).run view)).of_parts (pendingAt_spared hrecord view) ?_ ?_
      hconfirmed
    · rw [Draft.run, hedits, applyEdits_append]
      rfl
    · rw [hedits, startsPending_append, hsets, Bool.false_or]

end Evaluation

/-- The part of a tick after its market and once scope are brought in line. -/
def enteredTick (chrono : Chrono) (runId : ℤ) (spec : WsOpenPositionPriceNodeSpec) (quote : WsQuote)
    (changed : Bool) (context : Value) : Draft TargetOutcome :=
  if onceBlocks spec context then do
    let logged ← logOnceBlocked spec
    return ⟨changed || logged, none⟩
  else evaluateWsTarget chrono runId spec quote changed

theorem enteredTick_effect (chrono : Chrono) (runId : ℤ) (quote : WsQuote) (changed : Bool)
    (context view : Value) :
    let tick := enteredTick chrono runId spec quote changed context
    ConfirmationEffect spec view (tick.run view) quote.price
      (!onceBlocks spec context && leavesZone spec quote.price)
      (startsPending spec (tick view).2) (tick view).1.isConfirmed := by
  intro tick
  cases hblocks : onceBlocks spec context with
  | false =>
    have htick : tick = evaluateWsTarget chrono runId spec quote changed :=
      if_neg (by simp [hblocks])
    rw [htick]
    exact evaluateWsTarget_effect chrono runId quote changed view
  | true =>
    have htick : tick = logOnceBlocked spec >>= fun logged => pure ⟨changed || logged, none⟩ :=
      if_pos hblocks
    have hkeeps := logOnceBlocked_keeps spec view
    rw [htick]
    refine .waited ?_ fun hor => ⟨?_, rfl⟩
    · rw [Draft.bind_snd, startsPending_append]
      exact Bool.or_eq_false_iff.mpr
        ⟨not_setsKey_of_neverSets fun e he => (hkeeps e he).neverSets, rfl⟩
    · rcases hor with hconfirmed | hafter
      · cases hconfirmed
      · rw [Draft.bind_run] at hafter
        have hkept := pendingAt_spared hkeeps view
        rw [← hkept]
        exact hafter

theorem processWsTarget_entered (chrono : Chrono) (runId : ℤ) (quote : WsQuote) (context : Value)
    (h : passesOver spec quote = false) :
    let evaluation := processWsTarget chrono runId spec quote context
    ∃ before changed, (∀ e ∈ before, e.NeverSets (crossPendingAtKey spec.tokenId)) ∧
      applyEdits before context = tickView spec context ∧
      let rest := enteredTick chrono runId spec quote changed context (tickView spec context)
      evaluation.1 = rest.1 ∧ evaluation.2 = before ++ rest.2 := by
  intro evaluation
  unfold passesOver at h
  simp only [Bool.or_eq_false_iff] at h
  obtain ⟨⟨hlive, htradable⟩, hwindow⟩ := h
  let synced := (syncTradeFlowMarketPriceOnceScopeState spec.nodeKey spec.onceScopeMarket
    spec.marketSlug).run context
  refine ⟨(syncTradeFlowMarketPriceOnceScopeState spec.nodeKey spec.onceScopeMarket
    spec.marketSlug context).2 ++ (syncLastWsMarketSlug spec synced).2,
    (syncLastWsMarketSlug spec synced).1, fun e he => ?_, applyEdits_append _ _ _, ?_⟩
  · rcases List.mem_append.mp he with he | he
    · exact (syncOnceScope_spares _ _ _ _ context e he).neverSets
    · exact syncLastWsMarketSlug_neverSets synced e he
  · have hview : (syncLastWsMarketSlug spec).run synced = tickView spec context := rfl
    simp only [evaluation, processWsTarget]
    rw [if_neg (by simp [hlive]), if_neg (by simp [htradable]), if_neg (by simp [hwindow])]
    rw [Draft.bind_fst, Draft.bind_fst, Draft.bind_fst, Draft.bind_snd, Draft.bind_snd,
      Draft.bind_snd, Draft.read_fst, Draft.read_snd, Draft.read_run, List.nil_append,
      ← List.append_assoc]
    exact ⟨rfl, rfl⟩

theorem processWsTarget_passed_over (chrono : Chrono) (runId : ℤ) (quote : WsQuote)
    (h : passesOver spec quote = true) :
    processWsTarget chrono runId spec quote = pure TargetOutcome.skip := by
  unfold passesOver at h
  unfold processWsTarget
  by_cases hlive : (spec.autoScope && spec.marketSlug.any (isAutoScopeMarketExpired quote.now · 15)) = true
  · rw [if_pos hlive]
  rw [if_neg hlive]
  by_cases htradable : (quote.price < 3 / 100 || quote.price > 97 / 100) = true
  · rw [if_pos htradable]
  rw [if_neg htradable]
  have hwindow : shouldSkipForCycleWindow quote.now spec = true := by
    simpa [Bool.eq_false_iff.mpr hlive, Bool.eq_false_iff.mpr htradable] using h
  rw [if_pos hwindow]

theorem processWsTarget_effect (spec : WsOpenPositionPriceNodeSpec) (chrono : Chrono) (runId : ℤ) (quote : WsQuote) (context : Value) :
    let evaluation := processWsTarget chrono runId spec quote
    ConfirmationEffect spec context (evaluation.run context) quote.price
      (cancelsPending spec context quote) (startsPending spec (evaluation context).2)
      (evaluation context).1.isConfirmed := by
  intro evaluation
  cases hpasses : passesOver spec quote with
  | true =>
    have hskip : evaluation = pure TargetOutcome.skip :=
      processWsTarget_passed_over chrono runId quote hpasses
    rw [hskip]
    refine .waited rfl fun hor => ⟨?_, by simp [cancelsPending, hpasses]⟩
    rcases hor with hconfirmed | hafter
    · cases hconfirmed
    · exact hafter
  | false =>
    obtain ⟨before, changed, hbefore, hview, hrest⟩ :=
      processWsTarget_entered chrono runId quote context hpasses
    have hsets : startsPending spec before = false := not_setsKey_of_neverSets hbefore
    have hcancels : cancelsPending spec context quote = (marketMoved spec context ||
        (!onceBlocks spec context && leavesZone spec quote.price)) := by
      rw [cancelsPending, hpasses, leavesZone, Bool.and_assoc]
      rfl
    have hstarts : startsPending spec (evaluation context).2 = startsPending spec
        (enteredTick chrono runId spec quote changed context (tickView spec context)).2 := by
      rw [hrest.2, startsPending_append, hsets, Bool.false_or]
    have hafter : evaluation.run context = (enteredTick chrono runId spec quote changed
        context).run (tickView spec context) := by
      rw [Draft.run, hrest.2, applyEdits_append, hview]
      rfl
    rw [hcancels, hstarts, hafter, hrest.1]
    exact (enteredTick_effect chrono runId quote changed context _).of_tickView

end Effects

/-! ### Runs -/

section Runs
variable {chrono : Chrono} {runId : ℤ} {spec : WsOpenPositionPriceNodeSpec}

theorem sustained_evaluated {run : ConfirmationRun} {quote : WsQuote} {saved : Bool}
    (hs : run.Sustained spec) (hheeds : run.Heeds spec (.evaluated quote saved)) :
    (run.step chrono runId spec (.evaluated quote saved)).Sustained spec := by
  obtain ⟨hobserved, hconfirmed⟩ := hs
  have hlonger : inTriggerZone spec quote.price = true → (pendingAt spec run.context).isSome →
      ∀ price ∈ run.observed ++ [quote.price], inTriggerZone spec price = true := by
    intro hzone hpending price hmem
    rcases List.mem_append.mp hmem with hold | hnew
    · exact hobserved hpending price hold
    · rwa [List.mem_singleton.mp hnew]
  unfold ConfirmationRun.step
  dsimp only
  cases processWsTarget_effect spec chrono runId quote run.context with
  | started hstarts hnone hzone =>
    rw [hstarts, hnone, Bool.and_true]
    refine ⟨fun hpending => ?_, hconfirmed⟩
    cases saved with
    | true =>
      intro price hmem
      rwa [List.mem_singleton.mp hmem]
    | false => exact hlonger hzone hpending
  | waited hstarts hpending =>
    rw [hstarts, Bool.and_false]
    have hzone : (pendingAt spec run.context).isSome → (saved = true → cancelsPending spec
        run.context quote = false) → inTriggerZone spec quote.price = true := by
      intro hbefore hkept
      rcases hheeds hbefore with hin | ⟨hsaved, hcancels⟩
      · exact hin
      · rw [hkept hsaved] at hcancels
        cases hcancels
    refine ⟨fun hafter => ?_, ?_⟩
    · cases saved with
      | true =>
        obtain ⟨hbefore, hkept⟩ := hpending (.inr hafter)
        exact hlonger (hzone hbefore fun _ => hkept) hbefore
      | false => exact hlonger (hzone hafter nofun) hafter
    · dsimp only
      by_cases hstep : (processWsTarget chrono runId spec quote run.context).1.isConfirmed = true
      · obtain ⟨hbefore, hkept⟩ := hpending (.inl hstep)
        rw [if_pos hstep]
        intro prices hmem
        rcases List.mem_append.mp hmem with hold | hnew
        · exact hconfirmed prices hold
        · rw [List.mem_singleton.mp hnew]
          exact hlonger (hzone hbefore fun _ => hkept) hbefore
      · rw [if_neg hstep]
        exact hconfirmed

theorem sustained_step {run : ConfirmationRun} {event : ConfirmationEvent}
    (hs : run.Sustained spec) (hheeds : run.Heeds spec event) :
    (run.step chrono runId spec event).Sustained spec := by
  cases event with
  | evaluated quote saved => exact sustained_evaluated hs hheeds
  | rewritten context =>
    refine ⟨fun hpending price hmem => ?_, hs.2⟩
    unfold ConfirmationRun.step at hpending hmem
    dsimp only at hpending hmem
    split at hmem
    · rename_i hsame
      exact hs.1 (by rwa [← hsame]) price hmem
    · cases hmem

end Runs

/-- In a run whose prices outside the zone all come to the code that forgets a pending
confirmation, only prices in the zone stand behind a pending confirmation and a confirmed step. -/
theorem confirmation_sustained (chrono : Chrono) (runId : ℤ) (spec : WsOpenPositionPriceNodeSpec)
    (context : Value) (events : List ConfirmationEvent)
    (hheeds : EachStep (ConfirmationRun.step chrono runId spec) (ConfirmationRun.Heeds spec)
      { context } events) :
    Throughout (ConfirmationRun.step chrono runId spec) (ConfirmationRun.Sustained spec)
      { context } events := by
  refine hheeds.throughout (fun _ hs => hs) (fun _ _ hs => sustained_step hs) ⟨?_, ?_⟩
  · intro _ price hmem
    cases hmem
  · intro prices hmem
    cases hmem

/-- Enough for a run that formats no instant but the epoch. -/
def epochChrono : Chrono := ⟨fun _ => "1970-01-01T00:00:00+00:00", fun _ => some 0⟩

/-- A loop trigger above 0.50 that waits a second for its confirmation. -/
def confirmedTriggerSpec : WsOpenPositionPriceNodeSpec where
  nodeKey := "trigger"
  nodeType := "trigger.market_price"
  onceMode := false
  onceScopeMarket := false
  pairLockOnlyMonitor := false
  autoScope := false
  priceMode := .bestAsk
  marketSlug := some "btc-updown-5m-0"
  tokenId := "up"
  outcomeLabel := "Up"
  triggerCondition := "cross_above"
  triggerPrice := 1 / 2
  maxPrice := none
  priceToBeatTriggerEnabled := false
  confirmationMs := some 1000
  cycleWindowMode := none
  cycleWindowSecs := none
  cycleWindowStartSec := none
  cycleWindowEndSec := none
  autoSellOnWindowEnd := false

/-- The trigger crosses at the epoch, sees `between` half a second later, and 0.55 after one and
a half seconds. -/
def crossingRun (between : ℚ) : List ConfirmationEvent :=
  [(9 / 20, -1000000000), (11 / 20, 0), (between, 500000000), (11 / 20, 1500000000)].map fun tick =>
    .evaluated ⟨tick.1, none, false, tick.2⟩ true

theorem confirmation_sustained_at_60 :
    Throughout (ConfirmationRun.step epochChrono 42 confirmedTriggerSpec)
      (ConfirmationRun.Sustained confirmedTriggerSpec) { context := .object [] }
      (crossingRun (3 / 5)) :=
  confirmation_sustained epochChrono 42 confirmedTriggerSpec (.object []) (crossingRun (3 / 5))
    (by decide +kernel)

/-- A price of 0.02 is passed over, and the crossing is confirmed across it. -/
theorem confirmed_across_unheeded_price :
    let run := (crossingRun (1 / 50)).foldl
      (ConfirmationRun.step epochChrono 42 confirmedTriggerSpec) { context := .object [] }
    run.confirmed = [[11 / 20, 1 / 50, 11 / 20]] ∧ ¬ run.Sustained confirmedTriggerSpec := by
  intro run
  have hconfirmed : run.confirmed = [[11 / 20, 1 / 50, 11 / 20]] := by decide +kernel
  refine ⟨hconfirmed, fun hs => ?_⟩
  have hzone := hs.2 _ (by rw [hconfirmed]; exact List.mem_singleton_self _) (1 / 50) (by simp)
  exact absurd hzone (by decide +kernel)

end PolymarketBot.Flow
