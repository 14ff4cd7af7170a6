import PolymarketBot.Flow.OnceTrigger
import PolymarketBot.Lib.Rows

/-! The steps of a once trigger that websocket ticks queue: when a tick asks for a step, and
when the queue takes it. -/

namespace PolymarketBot.Flow
open Lib Lib.Runs

/-- The context a tick evaluates a target on: the once state and the last market are brought
in line with the market of the spec first. -/
def tickView (spec : WsOpenPositionPriceNodeSpec) (context : Value) : Value :=
  (syncLastWsMarketSlug spec).run ((syncTradeFlowMarketPriceOnceScopeState spec.nodeKey
    spec.onceScopeMarket spec.marketSlug).run context)

def tickPreviousPrice (spec : WsOpenPositionPriceNodeSpec) (view : Value) : Option ℚ :=
  (flowNodeState view spec.nodeKey (previousPriceKey spec.tokenId)).bind valueAsDecimal

/-- The trigger condition with its confirmation and its price-to-beat gate. -/
def tickConditionMet (chrono : Chrono) (spec : WsOpenPositionPriceNodeSpec) (quote : WsQuote)
    (view : Value) : Bool :=
  match wsCondition spec (tickPreviousPrice spec view) quote.price with
  | none => false
  | some (crossed, mode) =>
    (wsDecision chrono spec quote (tickPreviousPrice spec view) crossed mode
      ((recordPrice spec quote.price).run view)).1.1

/-- The tick comes inside the windows of the spec and meets its condition. -/
structure TickSatisfies (chrono : Chrono) (spec : WsOpenPositionPriceNodeSpec) (quote : WsQuote)
    (context : Value) : Prop where
  live : (spec.autoScope && spec.marketSlug.any (isAutoScopeMarketExpired quote.now · 15)) = false
  tradable : (quote.price < 3 / 100 || quote.price > 97 / 100) = false
  inWindow : shouldSkipForCycleWindow quote.now spec = false
  met : tickConditionMet chrono spec quote (tickView spec context) = true

/-- The once scope of the spec's market is not marked fired in the context. -/
def NotMarkedFired (spec : WsOpenPositionPriceNodeSpec) (context : Value) : Prop :=
  tradeFlowMarketPriceOnceFiredForScope (tickView spec context) spec.nodeKey
    spec.onceScopeMarket spec.marketSlug = false

/-- The key of the one step that the websocket path queues for a once scope. -/
def wsOnceKey (runId : ℤ) (spec : WsOpenPositionPriceNodeSpec) (generation : ℤ) : String :=
  onceScopeKey s!"ws-once:{runId}:{spec.nodeKey}" spec.onceScopeMarket spec.marketSlug generation

/-! ### What a tick asks for -/

theorem prefixed_ne {pre key : String} (h : startsWith pre key = false) (suffix : String) :
    pre ++ suffix ≠ key := by
  intro heq
  have hprefix : pre.toList.isPrefixOf key.toList = true := by
    rw [← heq, String.toList_append]
    simp
  rw [startsWith, hprefix] at h
  cases h

theorem syncOnceScope_all {kind : ContextEdit → Prop} {nodeKey : String}
    (hkind : ∀ key ∈ onceStateKeys, kind (.removeNodeState nodeKey key)) (onceScopeMarket : Bool)
    (marketSlug : Option String) :
    (syncTradeFlowMarketPriceOnceScopeState nodeKey onceScopeMarket marketSlug).All kind := by
  have hclear := clearOnceState_all hkind
  unfold syncTradeFlowMarketPriceOnceScopeState
  refine .bind .read fun context => ?_
  extract_lets rest
  have hrest : ∀ r, (rest r).All kind := by
    intro r
    simp only [rest]
    split
    · refine .bind .read fun context => ?_
      split
      · split
        · exact hclear
        · exact .pure ()
      · split
        · exact hclear
        · exact .pure ()
    · exact .pure ()
  split
  · split
    · exact .bind (.edit (hkind _ (by decide))) hrest
    · exact hrest ()
  · exact hrest ()

theorem syncOnceScope_edits (nodeKey : String) (onceScopeMarket : Bool)
    (marketSlug : Option String) :
    (syncTradeFlowMarketPriceOnceScopeState nodeKey onceScopeMarket marketSlug).All
      ClearsOnceState :=
  syncOnceScope_all (fun key hkey => ⟨nodeKey, key, hkey, rfl⟩) onceScopeMarket marketSlug

/-- The state keys under which a tick keeps the prices and the confirmation of a target. -/
def isWsTargetKey (key : String) : Bool :=
  ["last_price", "previous_price", "last_ws_market_slug"].contains key ||
    ["previous_price_", "cross_pending_at_", "cross_pending_price_", "cross_pending_prev_"].any
      fun pre => startsWith pre key

section Target
variable (spec : WsOpenPositionPriceNodeSpec)

section Spares
variable {stateKey : String} (h : isWsTargetKey stateKey = false)
include h

theorem plain_ne {key : String}
    (hkey : key ∈ ["last_price", "previous_price", "last_ws_market_slug"]) : key ≠ stateKey := by
  rintro rfl
  simp [isWsTargetKey, hkey] at h

theorem target_ne {pre : String} (hpre : pre ∈ ["previous_price_", "cross_pending_at_",
    "cross_pending_price_", "cross_pending_prev_"]) (suffix : String) :
    pre ++ suffix ≠ stateKey := by
  have hunprefixed : startsWith pre stateKey = false := by
    have hany := (Bool.or_eq_false_iff.mp h).2
    exact Bool.eq_false_iff.mpr (List.any_eq_false.mp hany pre hpre)
  exact prefixed_ne hunprefixed suffix

theorem clearCrossPending_spares : (clearCrossPending spec).All (·.Spares stateKey) :=
  .bind (.edit (target_ne h (by decide) _)) fun _ =>
    .bind (.edit (target_ne h (by decide) _)) fun _ => .edit (target_ne h (by decide) _)

theorem syncLastWsMarketSlug_spares : (syncLastWsMarketSlug spec).All (·.Spares stateKey) := by
  unfold syncLastWsMarketSlug
  split
  · exact .pure false
  · refine .bind .read fun context => ?_
    extract_lets last changed rest
    have hrest : ∀ r, (rest r).All (·.Spares stateKey) := fun r =>
      .bind (.edit (plain_ne h (by decide))) fun _ => .pure changed
    split
    · refine .bind (.edit (target_ne h (by decide) _)) fun _ => ?_
      exact .bind (.edit (plain_ne h (by decide))) fun _ =>
        .bind (clearCrossPending_spares spec h) hrest
    · exact hrest ()

theorem recordPrice_spares (price : ℚ) : (recordPrice spec price).All (·.Spares stateKey) :=
  .bind (.edit (plain_ne h (by decide))) fun _ => .edit (target_ne h (by decide) _)

theorem confirmCross_spares (chrono : Chrono) (quote : WsQuote) (previous : Option ℚ)
    (crossed : Bool) (ms : ℤ) :
    (confirmCross chrono spec quote previous crossed ms).All (·.Spares stateKey) := by
  have hclear := clearCrossPending_spares spec h
  unfold confirmCross
  split
  · refine .bind (.edit (target_ne h (by decide) _)) fun _ => ?_
    refine .bind (.edit (target_ne h (by decide) _)) fun _ => ?_
    exact .bind (.edit (target_ne h (by decide) _)) fun _ => .pure false
  · refine .bind .read fun context => ?_
    split
    · exact .pure false
    split
    · split
      · exact .pure false
      split
      · exact .bind hclear fun _ => .pure true
      · exact .pure false
    · exact .bind hclear fun _ => .pure false

theorem wsDecision_spares (chrono : Chrono) (quote : WsQuote) (previous : Option ℚ)
    (crossed : Bool) (mode : String) :
    (wsDecision chrono spec quote previous crossed mode).All (·.Spares stateKey) := by
  unfold wsDecision
  extract_lets gate rest
  have hrest : ∀ r, (rest r).All (·.Spares stateKey) := fun r => .pure _
  split
  · exact .pure _
  split
  · exact .pure _
  split
  · exact .bind (.pure _) hrest
  · exact .bind (confirmCross_spares spec h chrono quote previous crossed _) fun _ =>
      .bind (.pure _) hrest

end Spares

theorem generation_tickView (context : Value) (nodeKey : String) :
    flowNodeReentryGeneration (tickView spec context) nodeKey =
      flowNodeReentryGeneration context nodeKey := by
  have hsync : (syncTradeFlowMarketPriceOnceScopeState spec.nodeKey spec.onceScopeMarket
      spec.marketSlug).All (·.Spares reentryGenerationKey) :=
    (syncOnceScope_edits _ _ _).mono fun e he => he.spares (by decide)
  have hlast : (syncLastWsMarketSlug spec).All (·.Spares reentryGenerationKey) :=
    syncLastWsMarketSlug_spares spec (by decide)
  unfold flowNodeReentryGeneration flowNodeStateI64 tickView Draft.run
  rw [flowNodeState_spared (hlast _), flowNodeState_spared (hsync _)]

theorem generation_decided (chrono : Chrono) (quote : WsQuote) (previous : Option ℚ)
    (crossed : Bool) (mode : String) (view : Value) :
    flowNodeReentryGeneration ((wsDecision chrono spec quote previous crossed mode).run
        ((recordPrice spec quote.price).run view)) spec.nodeKey =
      flowNodeReentryGeneration view spec.nodeKey := by
  have hdecision : (wsDecision chrono spec quote previous crossed mode).All
      (·.Spares reentryGenerationKey) := wsDecision_spares spec (by decide) chrono quote _ _ _
  have hrecord : (recordPrice spec quote.price).All (·.Spares reentryGenerationKey) :=
    recordPrice_spares spec (by decide) quote.price
  unfold flowNodeReentryGeneration flowNodeStateI64 Draft.run
  rw [flowNodeState_spared (hdecision _), flowNodeState_spared (hrecord _)]

theorem evaluateWsTarget_step (chrono : Chrono) (runId : ℤ) (quote : WsQuote) (changed : Bool)
    {view : Value} (hmet : tickConditionMet chrono spec quote view = true) :
    ∃ mode, (evaluateWsTarget chrono runId spec quote changed view).1.step = some
      ⟨spec.nodeKey, spec.nodeType, mode, wsPriceTriggerStepIdempotencyKey runId spec.nodeKey
        spec.triggerCondition quote.price (quote.ts.getD (timestampMillis quote.now)) spec.onceMode
        spec.onceScopeMarket spec.marketSlug (flowNodeReentryGeneration view spec.nodeKey)⟩ := by
  have hprevious : (flowNodeState view spec.nodeKey (previousPriceKey spec.tokenId)).bind
      valueAsDecimal = tickPreviousPrice spec view := rfl
  unfold tickConditionMet at hmet
  unfold evaluateWsTarget
  rw [Draft.bind_fst, Draft.read_fst, Draft.read_run]
  simp only [hprevious]
  cases hcondition : wsCondition spec (tickPreviousPrice spec view) quote.price with
  | none =>
    rw [hcondition] at hmet
    cases hmet
  | some verdict =>
    obtain ⟨crossed, mode⟩ := verdict
    rw [hcondition] at hmet
    dsimp only at hmet ⊢
    have hgeneration := generation_decided spec chrono quote (tickPreviousPrice spec view) crossed
      mode view
    have hwanted : ¬ (!(wsDecision chrono spec quote (tickPreviousPrice spec view) crossed mode
        ((recordPrice spec quote.price).run view)).1.1) = true := by simp [hmet]
    rw [Draft.bind_fst, Draft.bind_fst, if_neg hwanted, Draft.bind_fst, Draft.read_fst,
      hgeneration]
    exact ⟨_, rfl⟩

theorem processWsTarget_step (chrono : Chrono) (runId : ℤ) (quote : WsQuote) (context : Value)
    (h : TickSatisfies chrono spec quote context) (hunfired : NotMarkedFired spec context) :
    ∃ mode, (processWsTarget chrono runId spec quote context).1.step = some
      ⟨spec.nodeKey, spec.nodeType, mode, wsPriceTriggerStepIdempotencyKey runId spec.nodeKey
        spec.triggerCondition quote.price (quote.ts.getD (timestampMillis quote.now)) spec.onceMode
        spec.onceScopeMarket spec.marketSlug (flowNodeReentryGeneration context spec.nodeKey)⟩ := by
  have hview : (syncLastWsMarketSlug spec).run ((syncTradeFlowMarketPriceOnceScopeState
      spec.nodeKey spec.onceScopeMarket spec.marketSlug).run context) = tickView spec context := rfl
  have hopen : ¬ (spec.onceMode && tradeFlowMarketPriceOnceFiredForScope (tickView spec context)
      spec.nodeKey spec.onceScopeMarket spec.marketSlug) = true := by
    rw [hunfired]
    simp
  unfold processWsTarget
  rw [if_neg (by simp [h.live]), if_neg (by simp [h.tradable]), if_neg (by simp [h.inWindow])]
  rw [Draft.bind_fst, Draft.bind_fst, Draft.bind_fst, Draft.read_fst, Draft.read_run, hview,
    if_neg hopen, ← generation_tickView]
  exact evaluateWsTarget_step spec chrono runId quote _ h.met

end Target

/-! ### What the queue takes -/

def stepsUnder (steps : List OnceStepRow) (key : String) : ℕ :=
  (steps.map OnceStepRow.idempotencyKey).count (some key)

/-- No key of the run is on two steps. -/
def StepKeysUnique (s : OnceRun) : Prop := ∀ key, stepsUnder s.steps key ≤ 1

theorem stepsUnder_eq_zero {steps : List OnceStepRow} {key : String} :
    stepsUnder steps key = 0 ↔ ∀ row ∈ steps, row.idempotencyKey ≠ some key := by
  simp [stepsUnder, List.count_eq_zero]

theorem stepsUnder_setStatus (s : OnceRun) (step : ℕ) (status : OnceStepStatus) (key : String) :
    stepsUnder (s.setStatus step status).steps key = stepsUnder s.steps key := by
  have hkeys : (s.setStatus step status).steps.map OnceStepRow.idempotencyKey =
      s.steps.map OnceStepRow.idempotencyKey :=
    Rows.map_modify_of_eq (f := fun row => { row with status }) (fun _ => rfl) s.steps step
  unfold stepsUnder
  rw [hkeys]

theorem stepsUnder_enqueue (steps : List OnceStepRow) (idempotencyKey : Option String)
    (input : Option Value) (key : String) :
    stepsUnder (enqueueOnceStep steps idempotencyKey input) key =
      if idempotencyKey = some key then max 1 (stepsUnder steps key) else stepsUnder steps key := by
  unfold enqueueOnceStep
  split
  next htaken =>
    simp only [Bool.and_eq_true, List.any_eq_true, decide_eq_true_eq] at htaken
    obtain ⟨-, row, hrow, hkey⟩ := htaken
    split
    next hsame =>
      have hused : stepsUnder steps key ≠ 0 := fun hzero =>
        stepsUnder_eq_zero.mp hzero row hrow (hkey.trans hsame)
      omega
    next => rfl
  next hfree =>
    have hadded : stepsUnder (steps ++ [⟨idempotencyKey, input, .queued⟩]) key =
        stepsUnder steps key + if idempotencyKey = some key then 1 else 0 := by
      simp [stepsUnder, List.count_singleton]
    rw [hadded]
    split
    next hsame =>
      have hnone : stepsUnder steps key = 0 := by
        rw [stepsUnder_eq_zero]
        intro row hrow hkey
        exact hfree (by simpa [hsame] using ⟨row, hrow, hkey⟩)
      omega
    next => rfl

theorem onceStep_keysUnique (chrono : Chrono) (runId : ℤ) {node : ConfiguredNode} {s : OnceRun}
    (h : StepKeysUnique s) (event : OnceEvent node) :
    StepKeysUnique (onceStep chrono runId s event) := by
  have henqueue : ∀ idempotencyKey input key,
      stepsUnder (enqueueOnceStep s.steps idempotencyKey input) key ≤ 1 := by
    intro idempotencyKey input key
    have hkey := h key
    rw [stepsUnder_enqueue]
    split <;> omega
  have hstatus : ∀ step status key, stepsUnder (s.setStatus step status).steps key ≤ 1 := by
    intro step status key
    rw [stepsUnder_setStatus]
    exact h key
  cases event with
  | tick spec quote =>
    intro key
    simp only [onceStep]
    split
    · exact henqueue _ _ key
    · exact h key
  | enqueue idempotencyKey input => exact henqueue idempotencyKey input
  | start step reads =>
    simp only [onceStep]
    split
    · cases executeTriggerMarketPrice node _ reads s.stored with
      | failed error => exact hstatus step _
      | ended context execution => exact hstatus step _
      | passing context marketSlug => exact hstatus step _
    · exact h
  | finish step reply firedAt =>
    simp only [onceStep]
    split
    · unfold OnceRun.pass
      dsimp only
      split
      · exact hstatus step _
      · cases reply with
        | answered => exact hstatus step _
        | lost applied => exact hstatus step _
    · exact h
  | writeContext context => exact h
  | writeCache context => exact h
  | recordKey key => exact h

theorem enqueueOnceStep_adds_iff (steps : List OnceStepRow) (key : String) (taken : Value) :
    (∃ input, enqueueOnceStep steps (some key) (some taken) =
        steps ++ [⟨some key, some input, .queued⟩]) ↔
      ∀ row ∈ steps, row.idempotencyKey ≠ some key := by
  unfold enqueueOnceStep
  constructor
  · intro h
    obtain ⟨input, hadded⟩ := h
    intro row hrow hkey
    have hused : (steps.any fun row => row.idempotencyKey = some key) = true := by
      rw [List.any_eq_true]
      exact ⟨row, hrow, by simpa using hkey⟩
    have hlength := congrArg List.length hadded
    rw [hused] at hlength
    simp at hlength
  · intro hfree
    have hunused : ¬ ((some key).isSome && steps.any fun row => row.idempotencyKey = some key) =
        true := by
      simpa using hfree
    rw [if_neg hunused]
    exact ⟨taken, rfl⟩

theorem onceStep_tick (chrono : Chrono) (runId : ℤ) {node : ConfiguredNode}
    (honce : isTradeFlowMarketPriceOnceNode node = true) (s : OnceRun) (spec : TriggerSpec node)
    (quote : WsQuote) (hunfired : NotMarkedFired spec.toWsOpenPositionPriceNodeSpec s.cached)
    (hsatisfies : TickSatisfies chrono spec.toWsOpenPositionPriceNodeSpec quote s.cached) :
    ∃ input, (onceStep chrono runId s (.tick spec quote)).steps =
      enqueueOnceStep s.steps (some (wsOnceKey runId spec.toWsOpenPositionPriceNodeSpec
        (flowNodeReentryGeneration s.cached node.key))) (some input) := by
  obtain ⟨mode, hrequest⟩ := processWsTarget_step _ chrono runId quote s.cached hsatisfies hunfired
  have hkey : wsPriceTriggerStepIdempotencyKey runId spec.nodeKey spec.triggerCondition quote.price
      (quote.ts.getD (timestampMillis quote.now)) spec.onceMode spec.onceScopeMarket spec.marketSlug
      (flowNodeReentryGeneration s.cached spec.nodeKey) =
        wsOnceKey runId spec.toWsOpenPositionPriceNodeSpec
          (flowNodeReentryGeneration s.cached node.key) := by
    rw [spec.onceMode_eq, honce, wsPriceTriggerStepIdempotencyKey_once, spec.nodeKey_eq]
    simp only [wsOnceKey, spec.nodeKey_eq]
  rw [hkey] at hrequest
  exact ⟨wsStepInput spec.toWsOpenPositionPriceNodeSpec quote mode, by
    simp only [onceStep, hrequest]⟩

/-- A tick on an unfired scope whose condition is met queues a step exactly when none was
queued yet under the key of its scope and generation; either way the run then has one. -/
theorem once_tick_enqueues_iff (chrono : Chrono) (runId : ℤ) (node : ConfiguredNode)
    (honce : isTradeFlowMarketPriceOnceNode node = true) (stored cached : Value)
    (idempotencyKeys : List String) (events : List (OnceEvent node)) (spec : TriggerSpec node)
    (quote : WsQuote) :
    let s := events.foldl (onceStep chrono runId) ⟨stored, cached, [], idempotencyKeys, []⟩
    let key := wsOnceKey runId spec.toWsOpenPositionPriceNodeSpec
      (flowNodeReentryGeneration s.cached node.key)
    let after := onceStep chrono runId s (.tick spec quote)
    NotMarkedFired spec.toWsOpenPositionPriceNodeSpec s.cached →
    TickSatisfies chrono spec.toWsOpenPositionPriceNodeSpec quote s.cached →
      ((∃ input, after.steps = s.steps ++ [⟨some key, some input, .queued⟩]) ↔
        ∀ row ∈ s.steps, row.idempotencyKey ≠ some key) ∧
      stepsUnder after.steps key = 1 := by
  intro s key after hunfired hsatisfies
  have hunique : StepKeysUnique s := by
    have hinit : StepKeysUnique ⟨stored, cached, [], idempotencyKeys, []⟩ := fun key => by
      simp [stepsUnder]
    have hrun : Throughout (onceStep chrono runId) StepKeysUnique
        ⟨stored, cached, [], idempotencyKeys, []⟩ events :=
      throughout_of_invariant (I := StepKeysUnique) (fun s hs => hs)
        (fun s event hs => onceStep_keysUnique chrono runId hs event) hinit events
    simpa using hrun events.length
  obtain ⟨input, hafter⟩ : ∃ input, after.steps = enqueueOnceStep s.steps (some key) (some input) :=
    onceStep_tick chrono runId honce s spec quote hunfired hsatisfies
  have hcount := stepsUnder_enqueue s.steps (some key) (some input) key
  have hone := hunique key
  rw [hafter]
  constructor
  · exact enqueueOnceStep_adds_iff s.steps key input
  · rw [hcount, if_pos rfl]
    omega

def levelSpec : TriggerSpec fixedOnceTrigger where
  nodeKey := "trigger"
  nodeType := "trigger.market_price"
  onceMode := true
  onceScopeMarket := false
  pairLockOnlyMonitor := false
  autoScope := false
  priceMode := .bestAsk
  marketSlug := some "btc-updown-5m-1"
  tokenId := "up"
  outcomeLabel := "Up"
  triggerCondition := "level_above"
  triggerPrice := 1 / 2
  maxPrice := none
  priceToBeatTriggerEnabled := false
  confirmationMs := none
  cycleWindowMode := none
  cycleWindowSecs := none
  cycleWindowStartSec := none
  cycleWindowEndSec := none
  autoSellOnWindowEnd := false
  nodeKey_eq := rfl
  nodeType_eq := rfl
  onceMode_eq := by decide +kernel
  onceScopeMarket_eq := by decide +kernel

def aboveLevel : WsQuote := ⟨3 / 5, some 1000, false, 1000000000⟩

theorem once_first_tick_enqueues :
    let s : OnceRun := ⟨.object [], .object [], [], [], []⟩
    stepsUnder (onceStep idleChrono 42 s (.tick levelSpec aboveLevel)).steps
      "ws-once:42:trigger" = 1 := by
  have htick := once_tick_enqueues_iff idleChrono 42 fixedOnceTrigger (by decide +kernel)
    (.object []) (.object []) [] [] levelSpec aboveLevel (by unfold NotMarkedFired; decide +kernel)
    ⟨by decide +kernel, by decide +kernel, by decide +kernel, by decide +kernel⟩
  exact htick.2

/-- A tick queues the step of an unfired scope, and the step ends in an entry timing profile
without firing. No step is open then, the scope is not marked fired, and the next tick that
meets the condition queues nothing. -/
theorem once_scope_consumed_unfired :
    let events : List (OnceEvent fixedOnceTrigger) := [.tick levelSpec aboveLevel,
      .start 0 { readsMet with entryTimingBlocked := fun _ => true }]
    let s := events.foldl (onceStep idleChrono 42) ⟨.object [], .object [], [], [], []⟩
    s.executions.map (fun e => (e.2.pass, e.2.reason)) =
        [(false, some "entry_timing_profile_blocked")] ∧
      (∀ row ∈ s.steps, row.status.isOpen = false) ∧
      NotMarkedFired levelSpec.toWsOpenPositionPriceNodeSpec s.cached ∧
      TickSatisfies idleChrono levelSpec.toWsOpenPositionPriceNodeSpec aboveLevel s.cached ∧
      (onceStep idleChrono 42 s (.tick levelSpec aboveLevel)).steps.length = s.steps.length := by
  intro events s
  have hunfired : NotMarkedFired levelSpec.toWsOpenPositionPriceNodeSpec s.cached := by
    unfold NotMarkedFired
    decide +kernel
  exact ⟨by decide +kernel, by decide +kernel, hunfired,
    ⟨by decide +kernel, by decide +kernel, by decide +kernel, by decide +kernel⟩,
    by decide +kernel⟩

end PolymarketBot.Flow
