import PolymarketBot.Flow.Reentry

/-! The price guard of `action.place_order` after a stop-loss re-entry: a band of its own and
a maximum price that tightens with every generation. -/

namespace PolymarketBot.Flow
open Builder (clampProbability)
open Lib.Overwrite

def nodeConfigF64 (node : ConfiguredNode) (key : String) : Option ℚ :=
  (node.config.get key).bind valueAsDecimal

def stepInputF64 (stepInput : Option Value) (keys : List String) : Option ℚ :=
  (stepInput.bind fun input => keys.findSome? input.get).bind valueAsDecimal

def flowContextF64 (context : Value) (key : String) : Option ℚ :=
  ((context.get "flowContext").bind fun v => v.get key).bind valueAsDecimal

/-- A price in (0, 1], clamped to the tradable range. -/
def priceInRange (price : Option ℚ) : Option ℚ :=
  (price.filter fun p => 0 < p ∧ p ≤ 1).map clampProbability

def resolveActionPlaceOrderMaxPrice (node : ConfiguredNode) (stepInput : Option Value)
    (context : Value) : Option ℚ :=
  let configured := priceInRange (((((nodeConfigF64 node "maxPriceCent").map (· / 100)).or
    (nodeConfigF64 node "maxPrice")).or (stepInputF64 stepInput ["max_price", "maxPrice"])).or
    (flowContextF64 context "maxPrice"))
  let ivTimeRule := priceInRange (flowContextF64 context "priceToBeatIvSelectedMaxPrice")
  match configured, ivTimeRule with
  | some configured, some ivRule => some (min configured ivRule)
  | some configured, none => some configured
  | none, ivRule => ivRule

structure ActionPlaceOrderReentryGuardResolution where
  generation : ℤ
  bandActive : Bool
  configuredMinPrice : Option ℚ
  configuredMaxPrice : Option ℚ
  effectiveGuardTriggerPrice : Option ℚ
  effectiveMaxPrice : Option ℚ

def reentryMinPrice (node : ConfiguredNode) : Option ℚ :=
  priceInRange ((nodeConfigF64 node "reentryMinPriceCent").map (· / 100))

def reentryMaxPrice (node : ConfiguredNode) : Option ℚ :=
  priceInRange ((nodeConfigF64 node "reentryMaxPriceCent").map (· / 100))

def reentryMaxPriceTightenBps (node : ConfiguredNode) : ℤ :=
  max 0 (min 10000 ((nodeConfigI64 node "reentryMaxPriceTightenBps").getD 0))

def tightenedMaxPrice (base : ℚ) (tightenBps generation : ℤ) : ℚ :=
  let ratio := max 0 (min (95 / 100) ((tightenBps : ℚ) / 10000 * generation))
  clampProbability (max (base * (1 - ratio)) (1 / 100))

def BandInOrder (node : ConfiguredNode) : Prop :=
  ∀ low ∈ reentryMinPrice node, ∀ high ∈ reentryMaxPrice node, low < high

instance (node : ConfiguredNode) : Decidable (BandInOrder node) :=
  inferInstanceAs (Decidable (∀ low ∈ reentryMinPrice node, ∀ high ∈ reentryMaxPrice node, low < high))

def resolveActionPlaceOrderReentryGuardResolution (node : ConfiguredNode) (context : Value)
    (guardTriggerPrice maxPrice : Option ℚ) :
    Except String ActionPlaceOrderReentryGuardResolution :=
  if ¬ BandInOrder node then
    .error "action.place_order reentryMinPriceCent must be lower than reentryMaxPriceCent"
  else
    let generation := max (flowNodeReentryGeneration context node.key) 0
    .ok {
      generation
      bandActive := 0 < generation &&
        ((reentryMinPrice node).isSome || (reentryMaxPrice node).isSome)
      configuredMinPrice := reentryMinPrice node
      configuredMaxPrice := reentryMaxPrice node
      effectiveGuardTriggerPrice :=
        if 0 < generation then (reentryMinPrice node).or guardTriggerPrice else guardTriggerPrice
      effectiveMaxPrice :=
        if 0 < generation then
          ((reentryMaxPrice node).or maxPrice).map fun base =>
            tightenedMaxPrice base (reentryMaxPriceTightenBps node) generation
        else maxPrice }

/-- The maximum price a re-entry of a generation is meant to keep to. -/
def reentryCap (base : ℚ) (tightenBps generation : ℤ) : ℚ :=
  max (1 / 100) (base * (1 - min (95 / 100) ((generation : ℚ) * tightenBps / 10000)))

theorem priceInRange_bounds {price : Option ℚ} {p : ℚ} (h : p ∈ priceInRange price) :
    1 / 100 ≤ p ∧ p ≤ 99 / 100 := by
  obtain ⟨q, -, rfl⟩ := Option.map_eq_some_iff.mp h
  have hupper : clampProbability q ≤ 99 / 100 := max_le (by norm_num) (min_le_left _ _)
  exact ⟨le_max_left _ _, hupper⟩

theorem maxPrice_bounds {node : ConfiguredNode} {stepInput : Option Value} {context : Value}
    {p : ℚ} (h : p ∈ resolveActionPlaceOrderMaxPrice node stepInput context) :
    1 / 100 ≤ p ∧ p ≤ 99 / 100 := by
  unfold resolveActionPlaceOrderMaxPrice at h
  dsimp only at h
  split at h
  next configured ivRule hconfigured hiv =>
    obtain rfl := Option.mem_some_iff.mp h
    have hleft := priceInRange_bounds hconfigured
    have hright := priceInRange_bounds hiv
    exact ⟨le_min hleft.1 hright.1, (min_le_left _ _).trans hleft.2⟩
  next configured hconfigured _ =>
    obtain rfl := Option.mem_some_iff.mp h
    exact priceInRange_bounds hconfigured
  next => exact priceInRange_bounds h

theorem tightenBps_nonneg (node : ConfiguredNode) : 0 ≤ reentryMaxPriceTightenBps node :=
  le_max_left _ _

theorem tightenedMaxPrice_eq {base : ℚ} (hbase : 1 / 100 ≤ base ∧ base ≤ 99 / 100)
    {tightenBps generation : ℤ} (hbps : 0 ≤ tightenBps) (hgeneration : 0 ≤ generation) :
    tightenedMaxPrice base tightenBps generation = reentryCap base tightenBps generation := by
  have hproduct : (tightenBps : ℚ) / 10000 * generation = generation * tightenBps / 10000 := by
    ring
  have hratio : 0 ≤ min (95 / 100) ((generation : ℚ) * tightenBps / 10000) := by
    have hb : (0 : ℚ) ≤ tightenBps := by exact_mod_cast hbps
    have hg : (0 : ℚ) ≤ generation := by exact_mod_cast hgeneration
    exact le_min (by norm_num) (by positivity)
  have hbelow : base * (1 - min (95 / 100) ((generation : ℚ) * tightenBps / 10000)) ≤ 99 / 100 := by
    calc base * (1 - min (95 / 100) ((generation : ℚ) * tightenBps / 10000)) ≤ base * 1 := by
          gcongr
          · linarith [hbase.1]
          · linarith
      _ ≤ 99 / 100 := by linarith [hbase.2]
  have hcap : reentryCap base tightenBps generation ≤ 99 / 100 :=
    max_le (by norm_num) hbelow
  unfold tightenedMaxPrice
  dsimp only
  rw [hproduct, max_eq_right hratio, max_comm]
  exact (max_eq_right (le_min (by norm_num) (le_max_left _ _))).trans (min_eq_right hcap)

theorem reentryCap_antitone {base : ℚ} (hbase : 0 ≤ base) {tightenBps : ℤ} (hbps : 0 ≤ tightenBps)
    {generation later : ℤ} (h : generation ≤ later) :
    reentryCap base tightenBps later ≤ reentryCap base tightenBps generation := by
  have hb : (0 : ℚ) ≤ tightenBps := by exact_mod_cast hbps
  have hg : (generation : ℚ) ≤ later := by exact_mod_cast h
  have hratio : min (95 / 100) ((generation : ℚ) * tightenBps / 10000) ≤
      min (95 / 100) ((later : ℚ) * tightenBps / 10000) := by
    gcongr
  unfold reentryCap
  gcongr

/-- The re-entry guard resolves with the generation: its band is active and its maximum
price is the cap of the generation, which no later generation exceeds. -/
def GuardTakesEffect (node : ConfiguredNode) (context : Value) (stepInput : Option Value)
    (guardTriggerPrice : Option ℚ) (generation : ℤ) : Prop :=
  let maxPrice := resolveActionPlaceOrderMaxPrice node stepInput context
  let base := (reentryMaxPrice node).or maxPrice
  let cap := fun generation => base.map fun base =>
    reentryCap base (reentryMaxPriceTightenBps node) generation
  ∃ resolution, resolveActionPlaceOrderReentryGuardResolution node context guardTriggerPrice
      maxPrice = .ok resolution ∧
    resolution.generation = generation ∧
    resolution.bandActive = ((reentryMinPrice node).isSome || (reentryMaxPrice node).isSome) ∧
    resolution.effectiveMaxPrice = cap generation ∧
    ∀ later ≥ generation, ∀ price ∈ cap generation, ∀ laterPrice ∈ cap later, laterPrice ≤ price

/-- An event that leaves the re-entry generation under a node's key alone. -/
def SparesGeneration (nodeKey : String) : ReentryEvent → Prop
  | .fill fill => fill.parent.reentryTriggerNodeKey.bind nonBlank ≠ some nodeKey
  | .others work => (nodeKey, reentryGenerationKey) ∉ keys (entryEdits work.edits)
  | _ => True

instance (nodeKey : String) : (event : ReentryEvent) → Decidable (SparesGeneration nodeKey event)
  | .fill fill =>
    inferInstanceAs (Decidable (fill.parent.reentryTriggerNodeKey.bind nonBlank ≠ some nodeKey))
  | .others work =>
    inferInstanceAs (Decidable ((nodeKey, reentryGenerationKey) ∉ keys (entryEdits work.edits)))
  | .enqueue _ | .setStatus _ => inferInstanceAs (Decidable True)

/-- How many re-entries of a pair in a market were scheduled. -/
def scheduledReentries (handled : List HandledFill) (actionNodeKey triggerNodeKey
    marketSlug : String) : ℕ :=
  handled.countP fun r => r.counted && r.actionNodeKey = actionNodeKey &&
    r.triggerNodeKey = triggerNodeKey && r.marketSlug = marketSlug

theorem generation_reentry (context : Value) (input : ReentryInput) {nodeKey : String}
    (h : nodeKey ≠ input.triggerNodeKey) :
    flowNodeReentryGeneration ((scheduleTradeBuilderStopLossReentry input).run context) nodeKey =
      flowNodeReentryGeneration context nodeKey := by
  have hentry := flowNodeState_reentry context input nodeKey reentryGenerationKey (by decide)
  have hmarket : ¬ (nodeKey = input.actionNodeKey ∧
      reentryGenerationKey = reentryMarketSlugKey) := fun h => absurd h.2 (by decide)
  have hattempts : ¬ (nodeKey = input.actionNodeKey ∧
      reentryGenerationKey = reentryAttemptsUsedKey) := fun h => absurd h.2 (by decide)
  simp only [h, false_and, if_false, if_neg hmarket, if_neg hattempts] at hentry
  rw [flowNodeReentryGeneration, flowNodeStateI64, hentry]
  rfl

theorem resolved_context {s : ReentryRun} {fill : StopLossFill} {input : ReentryInput}
    {node : ConfiguredNode} (hresolve : resolveStopLossReentry s.run fill = .ok (input, node)) :
    (reentryStep s (.fill fill)).run.contextJson = s.run.contextJson ∨
      (reentryStep s (.fill fill)).run.contextJson =
        (scheduleTradeBuilderStopLossReentry input).run s.run.contextJson := by
  have hstep : (reentryStep s (.fill fill)).run =
      (maybeScheduleTradeBuilderStopLossReentry s.run s.steps fill).1 := rfl
  rw [hstep, maybeScheduleTradeBuilderStopLossReentry, hresolve]
  dsimp only
  by_cases hlimit : (!reentryAllowed s.run.contextJson input) = true
  · rw [if_pos hlimit]
    exact Or.inl rfl
  rw [if_neg hlimit]
  by_cases hfails : fill.contextFails = true
  · rw [if_pos hfails]
    exact Or.inl rfl
  rw [if_neg hfails, queueReentryStep_run]
  dsimp only
  exact Or.inr rfl

theorem reentryStep_generation (s : ReentryRun) {event : ReentryEvent} {nodeKey : String}
    (h : SparesGeneration nodeKey event) :
    flowNodeReentryGeneration (reentryStep s event).run.contextJson nodeKey =
      flowNodeReentryGeneration s.run.contextJson nodeKey := by
  cases event with
  | fill fill =>
    cases hresolve : resolveStopLossReentry s.run fill with
    | error outcome => rw [reentryStep_unresolved hresolve]
    | ok resolved =>
      have hne : nodeKey ≠ resolved.1.triggerNodeKey := fun hkey =>
        h (hkey ▸ (resolved_parent hresolve).1)
      rcases resolved_context hresolve with hcontext | hcontext
      · rw [hcontext]
      · rw [hcontext, generation_reentry _ _ hne]
  | others work =>
    rw [flowNodeReentryGeneration, flowNodeReentryGeneration, flowNodeStateI64, flowNodeStateI64]
    have hcontext : (reentryStep s (.others work)).run.contextJson =
        applyEdits work.edits s.run.contextJson := rfl
    rw [hcontext, flowNodeState_of_spared h]
  | enqueue step => rfl
  | setStatus status => rfl

theorem run_generation {nodeKey : String} (events : List ReentryEvent) (s : ReentryRun)
    (h : ∀ event ∈ events, SparesGeneration nodeKey event) :
    flowNodeReentryGeneration (events.foldl reentryStep s).run.contextJson nodeKey =
      flowNodeReentryGeneration s.run.contextJson nodeKey := by
  induction events generalizing s with
  | nil => rfl
  | cons event rest ih =>
    have hevent := h event (List.mem_cons_self ..)
    have hrest := ih (reentryStep s event) fun e he => h e (List.mem_cons_of_mem _ he)
    rw [List.foldl_cons, hrest, reentryStep_generation s hevent]

theorem reentryBase_bounds {node : ConfiguredNode} {stepInput : Option Value} {context : Value}
    {base : ℚ} (h : base ∈ (reentryMaxPrice node).or
      (resolveActionPlaceOrderMaxPrice node stepInput context)) :
    1 / 100 ≤ base ∧ base ≤ 99 / 100 := by
  cases hmax : reentryMaxPrice node with
  | some high =>
    rw [hmax] at h
    exact priceInRange_bounds (hmax.trans h)
  | none =>
    rw [hmax] at h
    exact maxPrice_bounds h

theorem guardTakesEffect_iff (node : ConfiguredNode) (context : Value) (stepInput : Option Value)
    (guardTriggerPrice : Option ℚ) {generation : ℤ} (hpos : 0 < generation) :
    GuardTakesEffect node context stepInput guardTriggerPrice generation ↔
      BandInOrder node ∧ flowNodeReentryGeneration context node.key = generation := by
  have hbps := tightenBps_nonneg node
  unfold GuardTakesEffect resolveActionPlaceOrderReentryGuardResolution
  dsimp only
  constructor
  · rintro ⟨resolution, hresolve, hgeneration, -⟩
    by_cases hband : BandInOrder node
    · rw [if_neg (not_not.mpr hband)] at hresolve
      cases hresolve
      dsimp only at hgeneration
      exact ⟨hband, by omega⟩
    · rw [if_pos hband] at hresolve
      cases hresolve
  · rintro ⟨hband, hgeneration⟩
    have hmax : max (flowNodeReentryGeneration context node.key) 0 = generation := by omega
    rw [if_neg (not_not.mpr hband)]
    refine ⟨_, rfl, hmax, by simp [hmax, hpos], ?_, ?_⟩
    · simp only [hmax, hpos, if_true]
      refine Option.map_congr fun base hbase => ?_
      exact tightenedMaxPrice_eq (reentryBase_bounds hbase) hbps hpos.le
    · intro later hlater price hprice laterPrice hlaterPrice
      obtain ⟨base, hbase, rfl⟩ := Option.map_eq_some_iff.mp hprice
      obtain ⟨base', hbase', rfl⟩ := Option.map_eq_some_iff.mp hlaterPrice
      obtain rfl : base = base' := Option.some.inj (hbase.symm.trans hbase')
      have hnonneg : 0 ≤ base := by linarith [(reentryBase_bounds hbase).1]
      exact reentryCap_antitone hnonneg hbps hlater

/-- After any run in which re-entries of the pair were scheduled in a market, the guard takes
effect with their number exactly when the action's own key carried it from the start. -/
theorem reentry_guard_iff (node : ConfiguredNode) (run : TradeFlowRun)
    (steps : List ScheduledStep) (events : List ReentryEvent)
    (hspare : ∀ event ∈ events, SparesGeneration node.key event)
    (triggerNodeKey marketSlug : String) (stepInput : Option Value)
    (guardTriggerPrice : Option ℚ) :
    let after := events.foldl reentryStep ⟨run, steps, []⟩
    let g := scheduledReentries after.handled node.key triggerNodeKey marketSlug
    1 ≤ g →
      (GuardTakesEffect node after.run.contextJson stepInput guardTriggerPrice g ↔
        BandInOrder node ∧ flowNodeReentryGeneration run.contextJson node.key = g) := by
  intro after g hg
  have hpos : (0 : ℤ) < g := by omega
  have hkept : flowNodeReentryGeneration after.run.contextJson node.key =
      flowNodeReentryGeneration run.contextJson node.key := run_generation events _ hspare
  rw [guardTakesEffect_iff node _ stepInput guardTriggerPrice hpos, hkept]

def bandedNode : ConfiguredNode where
  key := "order"
  nodeType := "action.place_order"
  config := .object [("reentryMinPriceCent", .number (.int 75)),
    ("reentryMaxPriceCent", .number (.int 89)), ("reentryMaxPriceTightenBps", .number (.int 500))]

/-- A slot filled by hand, as no writer fills it: the guard then takes effect. -/
theorem reentry_guard_slot_by_hand :
    GuardTakesEffect bandedNode
      (List.foldl reentryStep ⟨reentryRun (.object [("nodeState", .object [("order",
        .object [("reentry_generation", .number (.int 1))])])]), [], []⟩
        [.fill (stoppedOut "btc-updown-5m-1")]).run.contextJson none none 1 :=
  (reentry_guard_iff bandedNode _ [] [.fill (stoppedOut "btc-updown-5m-1")]
    (by decide +kernel) "trigger" "btc-updown-5m-1" none none (by decide +kernel)).mpr
    (by decide +kernel)

/-- One re-entry is scheduled from an empty context: the trigger's key carries generation one,
the guard of the action reads generation zero and leaves its band off. -/
theorem reentry_guard_stays_off :
    let after := List.foldl reentryStep ⟨reentryRun (.object []), [], []⟩
      [.fill (stoppedOut "btc-updown-5m-1")]
    scheduledReentries after.handled "order" "trigger" "btc-updown-5m-1" = 1 ∧
      flowNodeReentryGeneration after.run.contextJson "trigger" = 1 ∧
      (resolveActionPlaceOrderReentryGuardResolution bandedNode after.run.contextJson none
        (some (9 / 10))).toOption.map (fun r => (r.generation, r.bandActive, r.effectiveMaxPrice)) =
        some (0, false, some (9 / 10)) ∧
      ¬ GuardTakesEffect bandedNode after.run.contextJson none none 1 := by
  intro after
  refine ⟨by decide +kernel, by decide +kernel, by decide +kernel, ?_⟩
  rw [guardTakesEffect_iff bandedNode _ none none one_pos]
  decide +kernel

end PolymarketBot.Flow
