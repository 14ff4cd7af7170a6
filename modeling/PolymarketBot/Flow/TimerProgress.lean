import PolymarketBot.Flow.TimerMarks

/-! Which timers a pass over the market price timers leaves due, so that the flow loop makes the
next pass at once. -/

namespace PolymarketBot.Flow
open Lib.Runs

/-! ### One target of the fast path -/

/-- The tick takes back a pending confirmation: it crosses from the price before it, lies out of
the zone, or comes at the deadline. -/
def endsConfirmation (spec : WsOpenPositionPriceNodeSpec) (deadline : Option Instant)
    (previous : Option ℚ) (quote : WsQuote) : Bool :=
  confirmsCrossings spec && ((wsCondition spec previous quote.price).any Prod.fst ||
    !stillInZone spec quote.price || deadline.any (· ≤ quote.now))

/-- The price that the tick leaves for the next one. -/
def recordedPrice (spec : WsOpenPositionPriceNodeSpec) (previous : Option ℚ) (quote : WsQuote) :
    Option ℚ :=
  if (wsCondition spec previous quote.price).isSome then some quote.price else previous

section Tick
variable {chrono : Chrono} {now t : Instant} {spec : WsOpenPositionPriceNodeSpec} {quote : WsQuote}
  (hquote : QuoteKeepsTime chrono now quote) (ht : t < now + 1000000) (runId : ℤ) (changed : Bool)

theorem tickView_previousPrice {context : Value} (h : marketMoved spec context = false) :
    tickPreviousPrice spec (tickView spec context) = tickPreviousPrice spec context := by
  have hsync : flowNodeState ((syncTradeFlowMarketPriceOnceScopeState spec.nodeKey
      spec.onceScopeMarket spec.marketSlug).run context) spec.nodeKey
        (previousPriceKey spec.tokenId) =
      flowNodeState context spec.nodeKey (previousPriceKey spec.tokenId) :=
    flowNodeState_spared (fun e he => (syncOnceScope_edits _ _ _ context e he).spares fun hmem =>
      nodeStateKey_ne (List.mem_append_left _ hmem) (by decide) spec.tokenId rfl) _ _
  have hmoved : marketMoved spec ((syncTradeFlowMarketPriceOnceScopeState spec.nodeKey
      spec.onceScopeMarket spec.marketSlug).run context) = false := by
    unfold marketMoved flowNodeStateString at h ⊢
    rw [Draft.run, flowNodeState_spared fun e he =>
      (syncOnceScope_edits _ _ _ context e he).spares (by decide)]
    exact h
  refine Eq.trans (tickPreviousPrice_congr ?_) (tickPreviousPrice_congr hsync)
  unfold tickView syncLastWsMarketSlug
  unfold marketMoved at hmoved
  cases hslug : spec.marketSlug with
  | none => rfl
  | some slug =>
    rw [hslug] at hmoved
    dsimp only
    rw [Draft.bind_run, Draft.read_fst, Draft.read_run]
    rw [if_neg (by simpa [hslug] using hmoved), Draft.bind_run]
    refine (flowNodeState_setFlowNodeState ..).trans (if_neg fun hsame => ?_)
    exact nodeStateKey_ne (by decide) (by decide) spec.tokenId hsame.2.symm

theorem confirmCross_kept {previous : Option ℚ} {ms : ℤ}
    (hms : marketPriceConfirmationMs spec = some ms) {context : Value}
    (hzone : stillInZone spec quote.price = true)
    (hwaits : (cycleWindowConfirmationDeadline chrono context spec).any (· ≤ quote.now) = false) :
    (confirmCross chrono spec quote previous false ms).run context = context := by
  unfold confirmCross
  rw [if_neg (by decide), Draft.bind_run, Draft.read_fst, Draft.read_run]
  cases hpending : flowNodeStateString context spec.nodeKey (crossPendingAtKey spec.tokenId) with
  | none => rfl
  | some raw =>
    have hraw : pendingAt spec context = some raw := hpending
    dsimp only
    rw [if_pos hzone]
    cases hparse : chrono.parseFromRfc3339 raw with
    | none => rfl
    | some started =>
      rw [deadline_eq, hms, hraw] at hwaits
      simp only [Option.bind_some, hparse, Option.map_some, Option.any_some,
        decide_eq_false_iff_not] at hwaits
      dsimp only
      rw [if_neg]
      · rfl
      · rw [ge_iff_le, le_numMilliseconds_iff (confirmationMs_pos hms), le_sub_iff_add_le']
        exact hwaits

include hquote ht in
theorem confirmCross_ended {previous : Option ℚ} {crossed : Bool} {ms : ℤ}
    (hms : marketPriceConfirmationMs spec = some ms) {context : Value}
    (hends : (crossed || !stillInZone spec quote.price ||
      (cycleWindowConfirmationDeadline chrono context spec).any (· ≤ quote.now)) = true) :
    Timely chrono t spec ((confirmCross chrono spec quote previous crossed ms).run context) := by
  have hcleared : Timely chrono t spec ((clearCrossPending spec).run context) :=
    .of_none (clearCrossPending_pendingAt spec context)
  unfold confirmCross
  cases crossed with
  | true =>
    rw [if_pos rfl]
    exact Timely.of_started hquote ht (startConfirmation_pending quote _ _ context)
  | false =>
    rw [if_neg (by decide), Draft.bind_run, Draft.read_fst, Draft.read_run]
    cases hpending : flowNodeStateString context spec.nodeKey (crossPendingAtKey spec.tokenId) with
    | none => exact Timely.of_none hpending
    | some raw =>
      have hraw : pendingAt spec context = some raw := hpending
      dsimp only
      by_cases hzone : stillInZone spec quote.price = true
      · rw [if_pos hzone]
        rw [deadline_eq, hms, hraw] at hends
        cases hparse : chrono.parseFromRfc3339 raw with
        | none => simp [hzone, hparse] at hends
        | some started =>
          have hlong : numMilliseconds (quote.now - started) ≥ ms := by
            rw [ge_iff_le, le_numMilliseconds_iff (confirmationMs_pos hms), le_sub_iff_add_le']
            simpa [hzone, hparse] using hends
          dsimp only
          rw [if_pos hlong, Draft.bind_run]
          exact hcleared
      · rw [if_neg hzone, Draft.bind_run]
        exact hcleared

theorem evaluateWsTarget_kept {view : Value}
    (h : endsConfirmation spec (cycleWindowConfirmationDeadline chrono view spec)
      (tickPreviousPrice spec view) quote = false) :
    let after := (evaluateWsTarget chrono runId spec quote changed).run view
    pendingAt spec after = pendingAt spec view ∧ tickPreviousPrice spec after =
      recordedPrice spec (tickPreviousPrice spec view) quote := by
  intro after
  unfold recordedPrice
  cases hverdict : wsCondition spec (tickPreviousPrice spec view) quote.price with
  | none =>
    have hsame : after = view := by
      simp only [after, Draft.run, evaluateWsTarget_ungated chrono runId quote changed view hverdict]
      rfl
    rw [hsame]
    exact ⟨rfl, rfl⟩
  | some verdict =>
    obtain ⟨hedits, -⟩ := evaluateWsTarget_decided chrono runId quote changed view hverdict
    have hrecorded : after = (recordPrice spec quote.price).run view := by
      simp only [after]
      rw [Draft.run, hedits, applyEdits_append]
      cases hconfirms : confirmsCrossings spec with
      | false =>
        obtain ⟨wanted, decided, hdecision, -⟩ := wsDecision_plain chrono quote
          (tickPreviousPrice spec view) verdict.1 hconfirms (wsCondition_gated hverdict) verdict.2
        rw [hdecision]
        rfl
      | true =>
        obtain ⟨ms, hms, passes, hdecision⟩ := wsDecision_confirming chrono quote
          (tickPreviousPrice spec view) verdict.1 hconfirms verdict.2
        unfold endsConfirmation at h
        rw [hconfirms, hverdict] at h
        simp only [Bool.true_and, Option.any_some, Bool.or_eq_false_iff, Bool.not_eq_false'] at h
        obtain ⟨⟨hcrossed, hzone⟩, hwaits⟩ := h
        have hdeadline : cycleWindowConfirmationDeadline chrono
            ((recordPrice spec quote.price).run view) spec =
              cycleWindowConfirmationDeadline chrono view spec := by
          exact deadline_congr (pendingAt_spared (recordPrice_keeps spec quote.price view) view)
        have hrun : (wsDecision chrono spec quote (tickPreviousPrice spec view) verdict.1
            verdict.2).run ((recordPrice spec quote.price).run view) =
              (recordPrice spec quote.price).run view := by
          rw [hdecision, Draft.bind_run, hcrossed]
          exact confirmCross_kept hms hzone (hdeadline ▸ hwaits)
        exact hrun
    rw [hrecorded]
    exact ⟨pendingAt_spared (recordPrice_keeps spec quote.price view) view,
      tickPreviousPrice_recorded quote.price view⟩

include hquote ht in
theorem evaluateWsTarget_ended {view : Value}
    (h : endsConfirmation spec (cycleWindowConfirmationDeadline chrono view spec)
      (tickPreviousPrice spec view) quote = true) :
    Timely chrono t spec ((evaluateWsTarget chrono runId spec quote changed).run view) := by
  unfold endsConfirmation at h
  rw [Bool.and_eq_true] at h
  obtain ⟨hconfirms, hends⟩ := h
  cases hverdict : wsCondition spec (tickPreviousPrice spec view) quote.price with
  | none => exact absurd hconfirms (by simp [confirmsCrossings_of_ungated hverdict])
  | some verdict =>
    obtain ⟨hedits, -⟩ := evaluateWsTarget_decided chrono runId quote changed view hverdict
    obtain ⟨ms, hms, passes, hdecision⟩ := wsDecision_confirming chrono quote
      (tickPreviousPrice spec view) verdict.1 hconfirms verdict.2
    rw [Draft.run, hedits, applyEdits_append]
    have hdeadline : cycleWindowConfirmationDeadline chrono
        ((recordPrice spec quote.price).run view) spec =
          cycleWindowConfirmationDeadline chrono view spec :=
      deadline_congr (pendingAt_spared (recordPrice_keeps spec quote.price view) view)
    have hdecided : Timely chrono t spec ((wsDecision chrono spec quote
        (tickPreviousPrice spec view) verdict.1 verdict.2).run
          ((recordPrice spec quote.price).run view)) := by
      rw [hdecision, Draft.bind_run]
      refine confirmCross_ended hquote ht hms ?_
      rw [hdeadline]
      rw [hverdict] at hends
      exact hends
    exact hdecided

theorem enteredTick_open (context : Value) (h : onceBlocks spec context = false) :
    enteredTick chrono runId spec quote changed context =
      evaluateWsTarget chrono runId spec quote changed := if_neg (by simp [h])

theorem enteredTick_blocked (context : Value) (h : onceBlocks spec context = true) (view : Value) :
    let after := (enteredTick chrono runId spec quote changed context).run view
    pendingAt spec after = pendingAt spec view ∧
      tickPreviousPrice spec after = tickPreviousPrice spec view := by
  intro after
  have htick : enteredTick chrono runId spec quote changed context =
      logOnceBlocked spec >>= fun logged => pure ⟨changed || logged, none⟩ := if_pos h
  have hafter : after = (logOnceBlocked spec).run view := by
    simp only [after]
    rw [htick, Draft.bind_run]
    rfl
  rw [hafter]
  refine ⟨pendingAt_spared (logOnceBlocked_keeps spec view) view, tickPreviousPrice_congr ?_⟩
  have hspares : (logOnceBlocked spec).All (·.Spares (previousPriceKey spec.tokenId)) := by
    unfold logOnceBlocked
    refine .bind .read fun context => ?_
    split
    · exact .pure false
    · exact .bind (.edit (nodeStateKey_ne (by decide) (by decide) spec.tokenId)) fun _ => .pure true
  exact flowNodeState_spared (hspares view) view _

theorem processWsTarget_run {quote : WsQuote} (hpasses : passesOver spec quote = false)
    (context : Value) : ∃ changed, (processWsTarget chrono runId spec quote).run context =
      (enteredTick chrono runId spec quote changed context).run (tickView spec context) := by
  obtain ⟨before, changed, -, hview, -, hedits⟩ :=
    processWsTarget_entered chrono runId quote context hpasses
  refine ⟨changed, ?_⟩
  rw [Draft.run, hedits, applyEdits_append, hview]
  rfl

theorem tickView_onceView (context : Value) : onceView (tickView spec context) spec.nodeKey =
    (onceView context spec.nodeKey).synced spec.onceScopeMarket (trimmedSlug spec.marketSlug) := by
  rw [← onceView_sync]
  exact onceView_kept (by decide) (syncLastWsMarketSlug_edits spec _) (fun _ => by decide) _

theorem syncLastWsMarketSlug_last (hslug : spec.marketSlug = trimmedSlug spec.marketSlug)
    (context : Value) :
    marketMoved spec ((syncLastWsMarketSlug spec).run context) = false := by
  unfold marketMoved
  cases hsome : spec.marketSlug with
  | none => rfl
  | some slug =>
    have hset : ∀ context, flowNodeStateString ((Draft.set spec.nodeKey "last_ws_market_slug"
        (.string slug)).run context) spec.nodeKey "last_ws_market_slug" = some slug := by
      intro context
      unfold flowNodeStateString
      rw [Draft.set_run, flowNodeState_setFlowNodeState, if_pos ⟨rfl, rfl⟩]
      rw [hsome] at hslug
      exact hslug.symm
    have hlast : flowNodeStateString ((syncLastWsMarketSlug spec).run context) spec.nodeKey
        "last_ws_market_slug" = some slug := by
      unfold syncLastWsMarketSlug
      rw [hsome]
      dsimp only
      rw [Draft.bind_run, Draft.read_fst, Draft.read_run]
      split
      · exact hset _
      · exact hset _
    simp [hlast]

theorem enteredTick_scope (context view : Value) :
    ScopeKept spec.nodeKey view ((enteredTick chrono runId spec quote changed context).run view) := by
  cases hblocks : onceBlocks spec context with
  | false =>
    rw [enteredTick_open runId changed context hblocks]
    exact scope_kept (by decide) (evaluateWsTarget_edits chrono runId spec quote changed view)
      (fun _ => by decide) view
  | true =>
    have htick : enteredTick chrono runId spec quote changed context =
        logOnceBlocked spec >>= fun logged => pure ⟨changed || logged, none⟩ := if_pos hblocks
    rw [htick, Draft.bind_run]
    exact scope_kept (by decide) (logOnceBlocked_edits spec view) (fun _ => by decide) view

theorem onceBlocks_eq (context : Value) : onceBlocks spec context = (spec.onceMode &&
    ((onceView context spec.nodeKey).synced spec.onceScopeMarket (trimmedSlug spec.marketSlug)).firedFor
      spec.onceScopeMarket (trimmedSlug spec.marketSlug)) := by
  rw [onceBlocks, onceFired_eq, tickView_onceView]

theorem onceBlocks_congr {before after : Value} (h : ScopeKept spec.nodeKey before after) :
    onceBlocks spec after = onceBlocks spec before := by
  rw [onceBlocks_eq, onceBlocks_eq, h.1]

theorem marketMoved_congr {before after : Value} (h : ScopeKept spec.nodeKey before after) :
    marketMoved spec after = marketMoved spec before := by
  unfold marketMoved
  rw [h.2]

theorem sameNode_reads {other : WsOpenPositionPriceNodeSpec} (hnode : other.nodeKey = spec.nodeKey)
    (hsettings : other.settings = spec.settings) (context : Value) :
    onceBlocks other context = onceBlocks spec context ∧
      marketMoved other context = marketMoved spec context := by
  have honce : other.onceMode = spec.onceMode := congrArg NodeSettings.onceMode hsettings
  have hscope : other.onceScopeMarket = spec.onceScopeMarket :=
    congrArg NodeSettings.onceScopeMarket hsettings
  have hslug : other.marketSlug = spec.marketSlug := congrArg NodeSettings.marketSlug hsettings
  rw [onceBlocks_eq, onceBlocks_eq, marketMoved, marketMoved, honce, hscope, hslug, hnode]
  exact ⟨rfl, rfl⟩

theorem processWsTarget_scope {quote : WsQuote} (hpasses : passesOver spec quote = false)
    (hslug : spec.marketSlug = trimmedSlug spec.marketSlug) (context : Value) :
    let after := (processWsTarget chrono runId spec quote).run context
    onceBlocks spec after = onceBlocks spec context ∧ marketMoved spec after = false ∧
      FiredKept spec.nodeKey context after := by
  intro after
  obtain ⟨changed, hrun⟩ := @processWsTarget_run chrono spec runId quote hpasses context
  have hkept : ScopeKept spec.nodeKey (tickView spec context) after := by
    simp only [after, hrun]
    exact enteredTick_scope runId changed context _
  refine ⟨?_, ?_, ?_⟩
  · rw [onceBlocks_congr hkept, onceBlocks_eq, onceBlocks_eq, tickView_onceView,
      OnceView.synced_synced]
  · rw [marketMoved_congr hkept]
    exact syncLastWsMarketSlug_last hslug _
  · unfold FiredKept
    rw [hkept.1, tickView_onceView]
    exact OnceView.synced_fired

theorem processWsTarget_moved {quote : WsQuote} (hquote : QuoteKeepsTime chrono now quote)
    (ht : t < now + 1000000) (hpasses : passesOver spec quote = false) {context : Value}
    (hmoved : marketMoved spec context = true) :
    Timely chrono t spec ((processWsTarget chrono runId spec quote).run context) := by
  obtain ⟨changed, hrun⟩ := @processWsTarget_run chrono spec runId quote hpasses context
  have hview : pendingAt spec (tickView spec context) = none := by
    rw [tickView_pendingAt, if_pos hmoved]
  rw [hrun]
  cases hblocks : onceBlocks spec context with
  | true =>
    obtain ⟨hkept, -⟩ := @enteredTick_blocked chrono spec quote runId changed context hblocks
      (tickView spec context)
    exact .of_none (hkept.trans hview)
  | false =>
    rw [enteredTick_open runId changed context hblocks]
    cases hends : endsConfirmation spec
        (cycleWindowConfirmationDeadline chrono (tickView spec context) spec)
        (tickPreviousPrice spec (tickView spec context)) quote with
    | true => exact evaluateWsTarget_ended hquote ht runId changed hends
    | false => exact .of_none ((evaluateWsTarget_kept runId changed hends).1.trans hview)

theorem processWsTarget_kept {quote : WsQuote} (hpasses : passesOver spec quote = false)
    {context : Value} (hmoved : marketMoved spec context = false)
    (h : onceBlocks spec context = true ∨ endsConfirmation spec
      (cycleWindowConfirmationDeadline chrono context spec) (tickPreviousPrice spec context) quote =
        false) :
    let after := (processWsTarget chrono runId spec quote).run context
    pendingAt spec after = pendingAt spec context ∧ (onceBlocks spec context = false →
      tickPreviousPrice spec after = recordedPrice spec (tickPreviousPrice spec context) quote) := by
  obtain ⟨changed, hrun⟩ := @processWsTarget_run chrono spec runId quote hpasses context
  have hview : pendingAt spec (tickView spec context) = pendingAt spec context := by
    rw [tickView_pendingAt, if_neg (by simp [hmoved])]
  intro after
  simp only [after, hrun]
  cases hblocks : onceBlocks spec context with
  | true =>
    obtain ⟨hkept, -⟩ := @enteredTick_blocked chrono spec quote runId changed context hblocks
      (tickView spec context)
    exact ⟨hkept.trans hview, fun h => absurd h (by decide)⟩
  | false =>
    rw [enteredTick_open runId changed context hblocks]
    have hends := h.resolve_left (by simp [hblocks])
    rw [← tickView_previousPrice hmoved, ← deadline_congr hview] at hends
    obtain ⟨hkept, hprice⟩ := @evaluateWsTarget_kept chrono spec quote runId changed _ hends
    rw [tickView_previousPrice hmoved] at hprice
    exact ⟨hkept.trans hview, fun _ => hprice⟩

theorem processWsTarget_ended {quote : WsQuote} (hquote : QuoteKeepsTime chrono now quote)
    (ht : t < now + 1000000) (hpasses : passesOver spec quote = false) {context : Value}
    (hmoved : marketMoved spec context = false) (hblocks : onceBlocks spec context = false)
    (hends : endsConfirmation spec (cycleWindowConfirmationDeadline chrono context spec)
      (tickPreviousPrice spec context) quote = true) :
    Timely chrono t spec ((processWsTarget chrono runId spec quote).run context) := by
  obtain ⟨changed, hrun⟩ := @processWsTarget_run chrono spec runId quote hpasses context
  have hview : pendingAt spec (tickView spec context) = pendingAt spec context := by
    rw [tickView_pendingAt, if_neg (by simp [hmoved])]
  rw [hrun, enteredTick_open runId changed context hblocks]
  rw [← tickView_previousPrice hmoved, ← deadline_congr hview] at hends
  exact evaluateWsTarget_ended hquote ht runId changed hends

end Tick

/-! ### The targets of a run in their order -/

/-- What the fast path does for one selected target. -/
def tickTarget (chrono : Chrono) (run : WsOpenPositionPriceRunSpec) (target : ℕ × Option WsQuote) :
    Draft TargetOutcome :=
  match run.nodes[target.1]?, target.2 with
  | some node, some q => processWsTarget chrono run.runId node q
  | _, _ => pure .skip

theorem processWsTargets_run (chrono : Chrono) (run : WsOpenPositionPriceRunSpec)
    (target : ℕ × Option WsQuote) (rest : WsTargets) (context : Value) :
    (processWsTargets chrono run (target :: rest)).run context =
      (processWsTargets chrono run rest).run ((tickTarget chrono run target).run context) := by
  obtain ⟨i, quote⟩ := target
  have hsteps : processWsTargets chrono run ((i, quote) :: rest) =
      (tickTarget chrono run (i, quote) >>= fun outcome => processWsTargets chrono run rest >>=
        fun found => pure (outcome.dirty || found.1, outcome.step.toList ++ found.2)) := by
    conv_lhs => unfold processWsTargets
    unfold tickTarget
    cases run.nodes[i]? with
    | none => cases quote <;> rfl
    | some node => cases quote <;> rfl
  rw [hsteps, Draft.bind_run, Draft.bind_run]
  rfl

/-- A price is known for the target's spec, the spec is wanted, and its tick is not passed over. -/
def reaches (nodes : List WsOpenPositionPriceNodeSpec) (wanted : WsOpenPositionPriceNodeSpec → Bool)
    (target : ℕ × Option WsQuote) : Bool :=
  nodes[target.1]?.any fun node => wanted node && target.2.any (!passesOver node ·)

/-- The ticks of the spec's target, with the spec that each is for. -/
def ticksOf (nodes : List WsOpenPositionPriceNodeSpec) (spec : WsOpenPositionPriceNodeSpec)
    (targets : WsTargets) : List (WsOpenPositionPriceNodeSpec × WsQuote) :=
  targets.filterMap fun target =>
    if reaches nodes (SameTarget spec ·) target then
      nodes[target.1]?.bind fun node => target.2.map fun quote => (node, quote)
    else none

/-- One of the ticks takes back a pending confirmation; each leaves its price to the next. -/
def endedBy (deadline : Option Instant) :
    Option ℚ → List (WsOpenPositionPriceNodeSpec × WsQuote) → Bool
  | _, [] => false
  | previous, (node, quote) :: rest => endsConfirmation node deadline previous quote ||
      endedBy deadline (recordedPrice node previous quote) rest

/-- The targets take back the pending confirmation of the spec: at the head of its node's targets
where the node's market moved, or with a tick of its own target that ends it. -/
def takesBack (nodes : List WsOpenPositionPriceNodeSpec) (targets : WsTargets)
    (spec : WsOpenPositionPriceNodeSpec) (context : Value) (deadline : Option Instant)
    (previous : Option ℚ) : Bool :=
  (marketMoved spec context &&
    (targets.find? (reaches nodes (·.nodeKey = spec.nodeKey))).any
      (reaches nodes (SameTarget spec ·))) ||
  (!onceBlocks spec context && endedBy deadline previous (ticksOf nodes spec targets))

section Targets
variable {chrono : Chrono} {now t : Instant} (run : WsOpenPositionPriceRunSpec)
  {spec : WsOpenPositionPriceNodeSpec} {target : ℕ × Option WsQuote}

theorem reaches_iff {nodes : List WsOpenPositionPriceNodeSpec}
    {wanted : WsOpenPositionPriceNodeSpec → Bool} : reaches nodes wanted target = true ↔
      ∃ node q, nodes[target.1]? = some node ∧ target.2 = some q ∧ wanted node = true ∧
        passesOver node q = false := by
  unfold reaches
  simp only [Option.any_eq_true, Bool.and_eq_true, Bool.not_eq_true']
  constructor
  · rintro ⟨node, hnode, hwanted, q, hq, hpasses⟩
    exact ⟨node, q, hnode, hq, hwanted, hpasses⟩
  · rintro ⟨node, q, hnode, hq, hwanted, hpasses⟩
    exact ⟨node, hnode, hwanted, q, hq, hpasses⟩

theorem reaches_of_known {nodes : List WsOpenPositionPriceNodeSpec}
    {node : WsOpenPositionPriceNodeSpec} {q : WsQuote} (hnode : nodes[target.1]? = some node)
    (hq : target.2 = some q) (hpasses : passesOver node q = false)
    (wanted : WsOpenPositionPriceNodeSpec → Bool) : reaches nodes wanted target = wanted node := by
  simp [reaches, hnode, hq, hpasses]

theorem reaches_mono {nodes : List WsOpenPositionPriceNodeSpec}
    {wanted wanted' : WsOpenPositionPriceNodeSpec → Bool}
    (h : ∀ node, wanted' node = true → wanted node = true)
    (hnone : reaches nodes wanted target = false) : reaches nodes wanted' target = false := by
  rw [← Bool.not_eq_true] at hnone ⊢
  intro hreached
  obtain ⟨node, q, hnode, hq, hwanted, hpasses⟩ := reaches_iff.mp hreached
  exact hnone (reaches_iff.mpr ⟨node, q, hnode, hq, h node hwanted, hpasses⟩)

theorem tickTarget_away (h : reaches run.nodes (·.nodeKey = spec.nodeKey) target = false)
    (context : Value) (key : String) :
    flowNodeState ((tickTarget chrono run target).run context) spec.nodeKey key =
      flowNodeState context spec.nodeKey key := by
  unfold tickTarget
  split
  · rename_i node q hnode hq
    cases hpasses : passesOver node q with
    | true =>
      rw [processWsTarget_passed_over chrono run.runId q hpasses]
      rfl
    | false =>
      rw [reaches_of_known hnode hq hpasses, decide_eq_false_iff_not] at h
      exact entry_kept (processWsTarget_edits chrono run.runId node q context)
        (fun hsame => absurd hsame h) context
  · rfl

theorem tickTarget_entry {pre : String} (hpre : pre ∈ targetKeyPrefixes) (haway : pre ∉ tickPrefixes)
    (context : Value) :
    flowNodeState ((tickTarget chrono run target).run context) spec.nodeKey (pre ++ spec.tokenId) =
      flowNodeState context spec.nodeKey (pre ++ spec.tokenId) := by
  unfold tickTarget
  split
  · rename_i node q _ _
    exact targetEntry_kept (List.Subset.refl _) (by decide)
      (processWsTarget_edits chrono run.runId node q context) hpre (fun _ => haway) context
  · rfl

theorem FiredKept.refl (nodeKey : String) (context : Value) : FiredKept nodeKey context context :=
  fun hfired => ⟨hfired, rfl⟩

theorem FiredKept.trans {nodeKey : String} {a b c : Value} (hab : FiredKept nodeKey a b)
    (hbc : FiredKept nodeKey b c) : FiredKept nodeKey a c := by
  intro hfired
  obtain ⟨hmiddle, hslug⟩ := hbc hfired
  obtain ⟨hfirst, hslug'⟩ := hab hmiddle
  exact ⟨hfirst, hslug.trans hslug'⟩

theorem ScopeKept.fired {nodeKey : String} {before after : Value} (h : ScopeKept nodeKey before after) :
    FiredKept nodeKey before after := by
  unfold FiredKept
  rw [h.1]
  exact fun hfired => ⟨hfired, rfl⟩

theorem ScopeKept.of_entries {nodeKey : String} {before after : Value}
    (h : ∀ key, flowNodeState after nodeKey key = flowNodeState before nodeKey key) :
    ScopeKept nodeKey before after := by
  unfold ScopeKept onceView flowNodeStateString flowNodeStateTruthy
  rw [h, h, h, h]
  exact ⟨rfl, rfl⟩

theorem tickTarget_known {node : WsOpenPositionPriceNodeSpec} {q : WsQuote}
    (hnode : run.nodes[target.1]? = some node) (hq : target.2 = some q) :
    tickTarget chrono run target = processWsTarget chrono run.runId node q := by
  unfold tickTarget
  rw [hnode, hq]

variable (hsettings : ∀ other ∈ run.nodes, other.nodeKey = spec.nodeKey →
    other.settings = spec.settings)
  (hslug : spec.marketSlug = trimmedSlug spec.marketSlug)

include hsettings hslug in
theorem tickTarget_scope (h : reaches run.nodes (·.nodeKey = spec.nodeKey) target = true)
    (context : Value) :
    let after := (tickTarget chrono run target).run context
    onceBlocks spec after = onceBlocks spec context ∧ marketMoved spec after = false ∧
      FiredKept spec.nodeKey context after := by
  obtain ⟨node, q, hnode, hq, hkey, hpasses⟩ := reaches_iff.mp h
  have hsame : node.nodeKey = spec.nodeKey := of_decide_eq_true hkey
  have hsettings' := hsettings node (List.mem_of_getElem? hnode) hsame
  have hmarket : node.marketSlug = spec.marketSlug := congrArg NodeSettings.marketSlug hsettings'
  have hreads := fun context => sameNode_reads hsame hsettings' context
  have htick := @tickTarget_known chrono run target node q hnode hq
  intro after
  have hafter : after = (processWsTarget chrono run.runId node q).run context := by
    simp only [after, htick]
  obtain ⟨honce, hmoved, hfired⟩ := @processWsTarget_scope chrono node run.runId q hpasses
    (by rw [hmarket]; exact hslug) context
  rw [(hreads _).1, (hreads _).1] at honce
  rw [(hreads _).2] at hmoved
  rw [hsame] at hfired
  rw [hafter]
  exact ⟨honce, hmoved, hfired⟩

/-- What the rest of the targets finds of a pending confirmation. -/
def ComesTimely (chrono : Chrono) (t : Instant) (nodes : List WsOpenPositionPriceNodeSpec)
    (targets : WsTargets) (spec : WsOpenPositionPriceNodeSpec) (context : Value) : Prop :=
  Timely chrono t spec context ∨ takesBack nodes targets spec context
    (cycleWindowConfirmationDeadline chrono context spec) (tickPreviousPrice spec context) = true

section Ticks
variable {nodes : List WsOpenPositionPriceNodeSpec} {rest : WsTargets}

theorem ticksOf_cons_away (h : reaches nodes (SameTarget spec ·) target = false) :
    ticksOf nodes spec (target :: rest) = ticksOf nodes spec rest :=
  List.filterMap_cons_none (if_neg (by simp [h]))

theorem ticksOf_cons_known {node : WsOpenPositionPriceNodeSpec} {q : WsQuote}
    (hnode : nodes[target.1]? = some node) (hq : target.2 = some q)
    (h : reaches nodes (SameTarget spec ·) target = true) :
    ticksOf nodes spec (target :: rest) = (node, q) :: ticksOf nodes spec rest :=
  List.filterMap_cons_some (by rw [if_pos h, hnode, hq]; rfl)

theorem comesTimely_cons_away (h : reaches nodes (·.nodeKey = spec.nodeKey) target = false)
    {before after : Value} (hscope : ScopeKept spec.nodeKey before after)
    (hpending : pendingAt spec after = pendingAt spec before)
    (hprevious : tickPreviousPrice spec after = tickPreviousPrice spec before) :
    ComesTimely chrono t nodes rest spec after ↔
      ComesTimely chrono t nodes (target :: rest) spec before := by
  have htick : reaches nodes (SameTarget spec ·) target = false :=
    reaches_mono (fun node hsame => decide_eq_true (of_decide_eq_true hsame).1) h
  unfold ComesTimely takesBack
  rw [Timely.congr hpending, deadline_congr hpending, hprevious, marketMoved_congr hscope,
    onceBlocks_congr hscope, ticksOf_cons_away htick, List.find?_cons_of_neg (by simp [h])]

end Ticks

include hsettings in
theorem ownTick_timely (ht : t < now + 1000000) {node : WsOpenPositionPriceNodeSpec} {q : WsQuote}
    (hnode : node ∈ run.nodes) (hsame : SameTarget spec node)
    (hquote : QuoteKeepsTime chrono now q) (hpasses : passesOver node q = false)
    (ticks : List (WsOpenPositionPriceNodeSpec × WsQuote)) (context : Value) :
    let after := (processWsTarget chrono run.runId node q).run context
    (Timely chrono t spec after ∨ (!onceBlocks spec context && endedBy
      (cycleWindowConfirmationDeadline chrono after spec) (tickPreviousPrice spec after) ticks) =
        true) ↔
      (Timely chrono t spec context ∨ (marketMoved spec context || !onceBlocks spec context &&
        endedBy (cycleWindowConfirmationDeadline chrono context spec)
          (tickPreviousPrice spec context) ((node, q) :: ticks)) = true) := by
  intro after
  have hsettings' := hsettings node hnode hsame.1
  have htimely := fun context => @Timely.sameTarget chrono t spec node hsame hsettings' context
  obtain ⟨hpendingAt, hpreviousPrice, hdeadline⟩ := sameTarget_reads chrono hsame hsettings'
  have hreads := sameNode_reads hsame.1 hsettings' context
  rw [endedBy, ← hdeadline context, ← hpreviousPrice context]
  cases hmoved : marketMoved spec context with
  | true =>
    refine iff_of_true (.inl ((htimely _).mp ?_)) (.inr rfl)
    exact processWsTarget_moved run.runId hquote ht hpasses (hreads.2.trans hmoved)
  | false =>
    rw [Bool.false_or]
    cases hblocks : onceBlocks spec context with
    | true =>
      obtain ⟨hkept, -⟩ := @processWsTarget_kept chrono node run.runId q hpasses context
        (hreads.2.trans hmoved) (.inl (hreads.1.trans hblocks))
      rw [← htimely, Timely.congr hkept, htimely]
      rfl
    | false =>
      cases hends : endsConfirmation node (cycleWindowConfirmationDeadline chrono context node)
          (tickPreviousPrice node context) q with
      | true =>
        refine iff_of_true (.inl ((htimely _).mp ?_)) (.inr rfl)
        exact processWsTarget_ended run.runId hquote ht hpasses (hreads.2.trans hmoved)
          (hreads.1.trans hblocks) hends
      | false =>
        obtain ⟨hkept, hprice⟩ := @processWsTarget_kept chrono node run.runId q hpasses context
          (hreads.2.trans hmoved) (.inr hends)
        rw [← htimely, ← htimely, Timely.congr hkept, ← hdeadline, deadline_congr hkept,
          ← hpreviousPrice, hprice (hreads.1.trans hblocks)]
        rfl

include hsettings hslug in
theorem tickTarget_comesTimely (ht : t < now + 1000000)
    (hquote : ∀ q ∈ target.2, QuoteKeepsTime chrono now q) (rest : WsTargets) (context : Value) :
    ComesTimely chrono t run.nodes rest spec ((tickTarget chrono run target).run context) ↔
      ComesTimely chrono t run.nodes (target :: rest) spec context := by
  cases hreach : reaches run.nodes (·.nodeKey = spec.nodeKey) target with
  | false =>
    have hkept := @tickTarget_away chrono run spec target hreach context
    have hpending : pendingAt spec ((tickTarget chrono run target).run context) =
        pendingAt spec context := by
      unfold pendingAt flowNodeStateString
      rw [hkept]
    exact comesTimely_cons_away hreach (.of_entries hkept) hpending
      (tickPreviousPrice_congr (hkept _))
  | true =>
    obtain ⟨honce, hstays, -⟩ := @tickTarget_scope chrono run spec target hsettings hslug
      hreach context
    obtain ⟨node, q, hnode, hq, hkey, hpasses⟩ := reaches_iff.mp hreach
    have htick := @tickTarget_known chrono run target node q hnode hq
    unfold ComesTimely takesBack
    rw [honce, hstays, List.find?_cons_of_pos hreach, Option.any_some,
      reaches_of_known hnode hq hpasses, Bool.false_and, Bool.false_or, htick]
    by_cases hsame : SameTarget spec node
    · rw [decide_eq_true hsame, Bool.and_true, ticksOf_cons_known hnode hq
        ((reaches_of_known hnode hq hpasses _).trans (decide_eq_true hsame))]
      exact ownTick_timely run hsettings ht (List.mem_of_getElem? hnode) hsame (hquote q hq) hpasses
        _ context
    · -- A tick of another token of the node leaves the entries of this one.
      have hentry : ∀ pre ∈ targetKeyPrefixes,
          flowNodeState ((processWsTarget chrono run.runId node q).run context) spec.nodeKey
              (pre ++ spec.tokenId) =
            flowNodeState context spec.nodeKey (pre ++ spec.tokenId) := fun pre hpre =>
        targetEntry_kept (List.Subset.refl _) (by decide)
          (processWsTarget_edits chrono run.runId node q context) hpre
          (fun h => absurd h hsame) context
      have hpending := pendingAt_entry (hentry "cross_pending_at_" (by decide))
      have hprevious := tickPreviousPrice_congr (hentry "previous_price_" (by decide))
      rw [Timely.congr hpending, deadline_congr hpending, hprevious,
        ticksOf_cons_away ((reaches_of_known hnode hq hpasses _).trans (decide_eq_false hsame)),
        decide_eq_false hsame, Bool.and_false, Bool.false_or]

include hsettings hslug in
theorem processWsTargets_timely (ht : t < now + 1000000) (targets : WsTargets)
    (hquote : ∀ target ∈ targets, ∀ q ∈ target.2, QuoteKeepsTime chrono now q) (context : Value) :
    Timely chrono t spec ((processWsTargets chrono run targets).run context) ↔
      ComesTimely chrono t run.nodes targets spec context := by
  induction targets generalizing context with
  | nil => exact (or_iff_left (by simp [takesBack, ticksOf, endedBy])).symm
  | cons target rest ih =>
    rw [processWsTargets_run, ih fun other hmem => hquote other (List.mem_cons_of_mem target hmem)]
    exact tickTarget_comesTimely run hsettings hslug ht (hquote target (List.mem_cons_self ..)) rest
      context

include hsettings hslug in
theorem processWsTargets_fired (targets : WsTargets) (context : Value) :
    FiredKept spec.nodeKey context ((processWsTargets chrono run targets).run context) := by
  induction targets generalizing context with
  | nil => exact .refl spec.nodeKey context
  | cons target rest ih =>
    rw [processWsTargets_run]
    refine FiredKept.trans ?_ (ih _)
    cases hreach : reaches run.nodes (·.nodeKey = spec.nodeKey) target with
    | false => exact (ScopeKept.of_entries (tickTarget_away run hreach context)).fired
    | true =>
      obtain ⟨-, -, hfired⟩ := tickTarget_scope run hsettings hslug hreach context
      exact hfired

theorem processWsTargets_entry (targets : WsTargets) {pre : String} (hpre : pre ∈ targetKeyPrefixes)
    (haway : pre ∉ tickPrefixes) (context : Value) :
    flowNodeState ((processWsTargets chrono run targets).run context) spec.nodeKey
        (pre ++ spec.tokenId) =
      flowNodeState context spec.nodeKey (pre ++ spec.tokenId) := by
  induction targets generalizing context with
  | nil => rfl
  | cons target rest ih =>
    rw [processWsTargets_run, ih]
    exact tickTarget_entry run hpre haway context

end Targets

/-! ### The wait after a pass -/

/-- The queue and the lookups answer, and the clock does not run back during the pass. -/
structure TimerPassReads.Answered (chrono : Chrono) (now : Instant) (reads : TimerPassReads) : Prop where
  sell : ∀ r, (reads.timers r).sell.Succeed
  opening : ∀ r i, ∀ q ∈ (reads.timers r).quote i, QuoteKeepsTime chrono now q
  tick : ∀ r i, ∀ q ∈ reads.tick r i, QuoteKeepsTime chrono now q

/-- Whatever of the spec's timers is due, the pass comes to the code that takes it back; so it does
with a deadline in the next millisecond, in which the window neither opens nor ends. -/
structure TimersDisarmed (chrono : Chrono) (cache : TradeFlowWsFastPathCache)
    (reads : TimerPassReads) (now : Instant) (r : ℕ) (run : WsOpenPositionPriceRunSpec)
    (spec : WsOpenPositionPriceNodeSpec) : Prop where
  opening : (cycleWindowBoundaryDueTarget run.context spec now).isSome = true →
    OpeningSettled run (reads.timers r) spec
  notification : (missedMarketNotificationDueTarget run.context spec now).isSome = true →
    NotificationSettled run (reads.timers r) spec
  confirmation : (cycleWindowConfirmationDeadline chrono run.context spec).any
      (· < now + 1000000) = true →
    Restarted run { reads.timers r with now } spec ∨
      takesBack run.nodes (dueConfirmationTargets chrono cache reads now r) spec run.context
        (cycleWindowConfirmationDeadline chrono run.context spec)
        (openedPrice run { reads.timers r with now } spec) = true
  window : windowImminent now spec = false

section Pass
variable {chrono : Chrono} {cache : TradeFlowWsFastPathCache} {reads : TimerPassReads} {now : Instant}
  {r : ℕ} {run : WsOpenPositionPriceRunSpec} {spec : WsOpenPositionPriceNodeSpec}

theorem timerPass_run : (timerPass chrono cache reads now r run).run run.context =
    (processWsTargets chrono run (dueConfirmationTargets chrono cache reads now r)).run
      (afterSells chrono run { reads.timers r with now }) := by
  unfold timerPass
  rw [Draft.bind_run, Draft.bind_run, timers_run, Draft.pure_run]

theorem dueConfirmationTargets_quote (hreads : reads.Answered chrono now) :
    ∀ target ∈ dueConfirmationTargets chrono cache reads now r, ∀ q ∈ target.2,
      QuoteKeepsTime chrono now q := by
  intro target hmem
  unfold dueConfirmationTargets at hmem
  obtain ⟨selected, -, rfl⟩ := List.mem_map.mp hmem
  exact hreads.tick r selected.2

theorem timerPass_entry {pre : String} (hpre : pre ∈ targetKeyPrefixes) (haway : pre ∉ tickPrefixes) :
    flowNodeState ((timerPass chrono cache reads now r run).run run.context) spec.nodeKey
        (pre ++ spec.tokenId) =
      flowNodeState (afterSells chrono run { reads.timers r with now }) spec.nodeKey
        (pre ++ spec.tokenId) := by
  rw [timerPass_run]
  exact processWsTargets_entry run _ hpre haway _

theorem confirmation_settled_iff (hreads : reads.Answered chrono now)
    (hsettings : ∀ other ∈ run.nodes, other.nodeKey = spec.nodeKey → other.settings = spec.settings)
    (hslug : spec.marketSlug = trimmedSlug spec.marketSlug) {t : Instant} (ht : t < now + 1000000) :
    Timely chrono t spec ((timerPass chrono cache reads now r run).run run.context) ↔
      Timely chrono t spec run.context ∨ Restarted run { reads.timers r with now } spec ∨
        takesBack run.nodes (dueConfirmationTargets chrono cache reads now r) spec run.context
          (cycleWindowConfirmationDeadline chrono run.context spec)
          (openedPrice run { reads.timers r with now } spec) = true := by
  let timers : TimerReads := { reads.timers r with now }
  have hscope : ScopeKept spec.nodeKey run.context (afterSells chrono run timers) :=
    ((afterBoundaries_scope chrono run _ spec.nodeKey).trans
      (afterNotifications_scope chrono run _ spec.nodeKey)).trans
        (afterSells_scope chrono run _ spec.nodeKey)
  have hentry := fun pre hpre hsells hnotifications =>
    (@afterSells_entry chrono run timers spec pre hpre hsells).trans
      (@afterNotifications_entry chrono run timers spec pre hpre hnotifications)
  have hpending : pendingAt spec (afterSells chrono run timers) =
      pendingAt spec (afterBoundaries chrono run timers) :=
    pendingAt_entry (hentry "cross_pending_at_" (by decide) (by decide) (by decide))
  have hprevious : tickPreviousPrice spec (afterSells chrono run timers) =
      openedPrice run timers spec :=
    (tickPreviousPrice_congr (hentry "previous_price_" (by decide) (by decide) (by decide))).trans
      (afterBoundaries_previousPrice chrono run hsettings)
  rw [timerPass_run, processWsTargets_timely run hsettings hslug ht _
    (dueConfirmationTargets_quote hreads)]
  unfold ComesTimely
  by_cases hrestarted : Restarted run timers spec
  · have htimely := afterBoundaries_restarted chrono run hsettings ht (hreads.opening r) hrestarted
    exact iff_of_true (.inl ((Timely.congr hpending).mpr htimely)) (.inr (.inl hrestarted))
  · have hkept := hpending.trans (afterBoundaries_pendingAt chrono run hsettings hrestarted)
    rw [Timely.congr hkept, deadline_congr hkept, hprevious, or_iff_right hrestarted]
    unfold takesBack
    rw [marketMoved_congr hscope, onceBlocks_congr hscope]

theorem timely_iff_imminent (context : Value) :
    Timely chrono (now + 999999) spec context ↔ Timely chrono now spec context ∧
      imminent now (cycleWindowConfirmationDeadline chrono context spec) = false := by
  unfold Timely imminent
  cases cycleWindowConfirmationDeadline chrono context spec with
  | none => simp
  | some deadline =>
    simp only [Option.any_some, decide_eq_false_iff_not, not_le, Bool.and_eq_false_iff, not_lt]
    change now + 999999 < deadline ↔ now < deadline ∧ (deadline ≤ now ∨ 1000000 ≤ deadline - now)
    constructor
    · intro hlater
      have hfar : 1000000 ≤ deadline - now :=
        Int.add_one_le_of_lt (lt_sub_iff_add_lt'.mpr hlater)
      exact ⟨sub_pos.mp (lt_of_lt_of_le (by decide) hfar), .inr hfar⟩
    · rintro ⟨hlater, hpast | hfar⟩
      · exact absurd hlater (not_lt.mpr hpast)
      · exact lt_sub_iff_add_lt'.mp (lt_of_lt_of_le (by decide) hfar)

theorem untimely_iff (context : Value) : ¬ Timely chrono (now + 999999) spec context ↔
    (cycleWindowConfirmationDeadline chrono context spec).any (· < now + 1000000) = true := by
  have hnext : now + 1000000 = now + 999999 + 1 := by
    rw [add_assoc]
    norm_num
  unfold Timely
  rw [Bool.not_eq_false, hnext]
  cases cycleWindowConfirmationDeadline chrono context spec with
  | none => rfl
  | some deadline =>
    rw [Option.any_some, Option.any_some, decide_eq_true_iff, decide_eq_true_iff]
    exact Int.lt_add_one_iff.symm

theorem waits_after_iff (hreads : reads.Answered chrono now)
    (hrun : cache.runSpecs[r]? = some run) (hmem : spec ∈ run.nodes) :
    (timerDue chrono now ((timerPass chrono cache reads now r run).run run.context) spec = false ∧
        timerImminent chrono now ((timerPass chrono cache reads now r run).run run.context) spec =
          false) ↔
      TimersDisarmed chrono cache reads now r run spec := by
  have hcached : run ∈ cache.runSpecs := List.mem_of_getElem? hrun
  have hsettings : ∀ other ∈ run.nodes, other.nodeKey = spec.nodeKey →
      other.settings = spec.settings := fun other hother hnode =>
    cache.settings_eq run hcached other hother spec hmem hnode
  have hslug := cache.slug_trimmed run hcached spec hmem
  let timers : TimerReads := { reads.timers r with now }
  let after := (timerPass chrono cache reads now r run).run run.context
  have hsells := fun {pre} => @afterSells_entry chrono run timers spec pre
  have hnotifications := fun {pre} => @afterNotifications_entry chrono run timers spec pre
  have hboundaries := fun {pre} => @afterBoundaries_entry chrono run timers spec pre
  have hpass := fun {pre} => @timerPass_entry chrono cache reads now r run spec pre
  have hfired : FiredKept spec.nodeKey run.context after := by
    simp only [after]
    rw [timerPass_run]
    exact (((afterBoundaries_scope chrono run timers spec.nodeKey).trans
      (afterNotifications_scope chrono run timers spec.nodeKey)).trans
        (afterSells_scope chrono run timers spec.nodeKey)).fired.trans
          (processWsTargets_fired run hsettings hslug _ _)
  have hopening := boundary_settled_iff chrono run timers hmem hsettings
    ((hpass (by decide) (by decide)).trans ((hsells (by decide) (by decide)).trans
      (hnotifications (by decide) (by decide))))
  have hnotification := notification_settled_iff chrono run timers hsettings
    ((hpass (by decide) (by decide)).trans (hsells (by decide) (by decide)))
    (hboundaries (by decide) (by decide))
  have hsell := sell_settled chrono run timers hmem (hreads.sell r) (hpass (by decide) (by decide))
    ((hnotifications (by decide) (by decide)).trans (hboundaries (by decide) (by decide))) hfired
  -- No deadline has passed or comes within the next millisecond: it is timely until its end.
  have hdeadline : ((cycleWindowConfirmationDeadline chrono after spec).any (· ≤ now) = false ∧
      imminent now (cycleWindowConfirmationDeadline chrono after spec) = false) ↔
        ((cycleWindowConfirmationDeadline chrono run.context spec).any (· < now + 1000000) = true →
          Restarted run timers spec ∨ takesBack run.nodes
            (dueConfirmationTargets chrono cache reads now r) spec run.context
              (cycleWindowConfirmationDeadline chrono run.context spec)
              (openedPrice run timers spec) = true) := by
    refine (timely_iff_imminent after).symm.trans ?_
    rw [confirmation_settled_iff hreads hsettings hslug (add_lt_add_right (by decide) now),
      or_iff_not_imp_left]
    exact imp_congr_left (untimely_iff run.context)
  unfold timerDue timerImminent
  simp only [Bool.or_eq_false_iff]
  rw [hopening, hnotification, and_iff_left hsell]
  constructor
  · rintro ⟨⟨⟨hopen, hnotify⟩, hconfirm⟩, hwindow, hlater⟩
    exact ⟨hopen, hnotify, hdeadline.mp ⟨hconfirm, hlater⟩, hwindow⟩
  · intro hdisarmed
    obtain ⟨hconfirm, hlater⟩ := hdeadline.mpr hdisarmed.confirmation
    exact ⟨⟨⟨hdisarmed.opening, hdisarmed.notification⟩, hconfirm⟩, hdisarmed.window, hlater⟩

theorem runSpecAfterTimers_nodes (r : ℕ) (run : WsOpenPositionPriceRunSpec) :
    (runSpecAfterTimers chrono cache reads now r run).nodes = run.nodes := by
  simp only [runSpecAfterTimers]

theorem runSpecAfterTimers_context (r : ℕ) (run : WsOpenPositionPriceRunSpec) :
    (runSpecAfterTimers chrono cache reads now r run).context =
      (timerPass chrono cache reads now r run).run run.context := by
  simp only [runSpecAfterTimers]

theorem mem_runSpecsAfterTimers {after : WsOpenPositionPriceRunSpec} :
    after ∈ runSpecsAfterTimers chrono cache reads now ↔ ∃ r run, cache.runSpecs[r]? = some run ∧
      runSpecAfterTimers chrono cache reads now r run = after := by
  unfold runSpecsAfterTimers
  rw [List.mem_iff_getElem?]
  simp only [List.getElem?_mapIdx, Option.map_eq_some_iff]

end Pass

/-- The wait after a pass is zero exactly where the pass does not disarm some timer. -/
theorem timer_progress_iff (chrono : Chrono) (cache : TradeFlowWsFastPathCache)
    (reads : TimerPassReads) (now : Instant) (hreads : reads.Answered chrono now) :
    tradeFlowNextTriggerMarketPriceTimerDelay chrono
        (runSpecsAfterTimers chrono cache reads now) now ≠ some 0 ↔
      ∀ r run, cache.runSpecs[r]? = some run → ∀ spec ∈ run.nodes,
        TimersDisarmed chrono cache reads now r run spec := by
  rw [delay_ne_zero_iff]
  constructor
  · intro hidle r run hrun spec hmem
    have hafter := hidle (runSpecAfterTimers chrono cache reads now r run)
      (mem_runSpecsAfterTimers.mpr ⟨r, run, hrun, rfl⟩) spec
    rw [runSpecAfterTimers_nodes, runSpecAfterTimers_context] at hafter
    exact (waits_after_iff hreads hrun hmem).mp (hafter hmem)
  · intro hdisarmed after hafter spec hmem
    obtain ⟨r, run, hrun, rfl⟩ := mem_runSpecsAfterTimers.mp hafter
    rw [runSpecAfterTimers_nodes] at hmem
    rw [runSpecAfterTimers_context]
    exact (waits_after_iff hreads hrun hmem).mpr (hdisarmed r run hrun spec hmem)

def soloCache (spec : WsOpenPositionPriceNodeSpec)
    (hslug : spec.marketSlug = trimmedSlug spec.marketSlug) (context : Value) :
    TradeFlowWsFastPathCache where
  runSpecs := [⟨7, context, [spec], false⟩]
  tokenTargets tokenId := if tokenId = spec.tokenId then [(0, 0)] else []
  marketTargets slug := if some slug = spec.marketSlug then [(0, 0)] else []
  settings_eq := by
    intro run hrun a ha b hb _
    rw [List.mem_singleton.mp hrun] at ha hb
    rw [List.mem_singleton.mp ha, List.mem_singleton.mp hb]
  slug_trimmed := by
    intro run hrun node hnode
    rw [List.mem_singleton.mp hrun] at hnode
    rw [List.mem_singleton.mp hnode]
    exact hslug

/-- The queue and the lookups answer, and a price is known for the opening or for the tick. -/
def pricedReads (opening tick : Option WsQuote) : TimerPassReads where
  timers _ := ⟨0, fun _ => opening, fun _ => .alreadySent,
    ⟨fun _ => some none, fun _ => none, fun _ => none, fun _ => true⟩⟩
  tick _ _ := tick

/-- Enough for a run that formats no instants but the epoch and that of the pass. -/
def passChrono : Chrono where
  toRfc3339 t :=
    if t = 200000000000 then "1970-01-01T00:03:20+00:00" else "1970-01-01T00:00:00+00:00"
  parseFromRfc3339 text := if text = "1970-01-01T00:03:20+00:00" then some 200000000000 else some 0

theorem pricedReads_answered {opening tick : Option WsQuote}
    (hopening : ∀ q ∈ opening, q.now = 200000000000) (htick : ∀ q ∈ tick, q.now = 200000000000) :
    (pricedReads opening tick).Answered passChrono 200000000000 := by
  have hkeeps : ∀ q : WsQuote, q.now = 200000000000 → QuoteKeepsTime passChrono 200000000000 q := by
    intro q hnow
    have htext : passChrono.toRfc3339 q.now = "1970-01-01T00:03:20+00:00" := if_pos hnow
    refine ⟨hnow.ge, ?_, ?_⟩
    · rw [htext]
      decide +kernel
    · rw [htext, hnow]
      decide +kernel
  exact ⟨fun _ => ⟨fun _ => rfl, fun _ => rfl⟩, fun _ _ q hq => hkeeps q (hopening q hq),
    fun _ _ q hq => hkeeps q (htick q hq)⟩

/-- The trigger of the first five minutes, confined to their last `secs` seconds. -/
def lastSecondsSpec (secs : ℤ) : WsOpenPositionPriceNodeSpec :=
  { confirmedTriggerSpec with cycleWindowMode := some "last", cycleWindowSecs := some secs }

def pendingContext : Value :=
  .object [("nodeState", .object [("trigger", .object [("cross_pending_at_up",
    .string "1970-01-01T00:00:00+00:00")])])]

/-- With a price for the opening of the window the pass leaves a wait. -/
theorem priced_window_waits :
    let cache := soloCache (lastSecondsSpec 120) (by decide +kernel) (.object [])
    let reads := pricedReads (some ⟨3 / 5, none, false, 200000000000⟩) none
    tradeFlowNextTriggerMarketPriceTimerDelay passChrono
      (runSpecsAfterTimers passChrono cache reads 200000000000) 200000000000 ≠ some 0 := by
  intro cache reads
  have hreads : reads.Answered passChrono 200000000000 := pricedReads_answered (by simp) (by simp)
  refine (timer_progress_iff passChrono cache reads 200000000000 hreads).mpr ?_
  intro r run hrun spec hmem
  have hzero : r = 0 := by
    obtain ⟨hlt, -⟩ := List.getElem?_eq_some_iff.mp hrun
    exact Nat.lt_one_iff.mp hlt
  subst hzero
  obtain rfl := Option.some.inj hrun
  obtain rfl := List.mem_singleton.mp hmem
  refine ⟨fun _ => .inr ⟨0, _, rfl, ⟨rfl, rfl⟩, rfl⟩, fun hdue => ?_, fun hdue => ?_, ?_⟩
  · exact absurd hdue (by decide +kernel)
  · exact absurd hdue (by decide +kernel)
  · decide +kernel

/-- The calls of the pass all answer, and the next pass is due at once. -/
def StillDue (cache : TradeFlowWsFastPathCache) (reads : TimerPassReads) : Prop :=
  reads.Answered passChrono 200000000000 ∧ tradeFlowNextTriggerMarketPriceTimerDelay passChrono
    (runSpecsAfterTimers passChrono cache reads 200000000000) 200000000000 = some 0

/-- The window is open and no price is known for it; or a deadline has passed where the price is
0.02, or where the market is outside its window. -/
theorem timers_still_due :
    StillDue (soloCache (lastSecondsSpec 120) (by decide +kernel) (.object []))
        (pricedReads none none) ∧
      StillDue (soloCache confirmedTriggerSpec (by decide +kernel) pendingContext)
        (pricedReads none (some ⟨1 / 50, none, false, 200000000000⟩)) ∧
      StillDue (soloCache (lastSecondsSpec 60) (by decide +kernel) pendingContext)
        (pricedReads none (some ⟨3 / 5, none, false, 200000000000⟩)) := by
  refine ⟨⟨?_, by decide +kernel⟩, ⟨?_, by decide +kernel⟩, ?_, by decide +kernel⟩
  · exact pricedReads_answered (by simp) (by simp)
  · exact pricedReads_answered (by simp) (by simp)
  · exact pricedReads_answered (by simp) (by simp)

end PolymarketBot.Flow
