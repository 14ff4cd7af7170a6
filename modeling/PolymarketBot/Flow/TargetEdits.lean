import PolymarketBot.Flow.ConfirmationGate
import PolymarketBot.Flow.CycleWindowTimers

/-! Which entries of a node's state the timers and the fast path edit for a target, and which
they leave as they are. -/

namespace PolymarketBot.Flow

def missedMarketNotificationStatePrefix : String := "missed_market_order_not_filled_"

/-- The keys under which a node keeps the state of one token begin with one of these. -/
def targetKeyPrefixes : List String :=
  [cycleWindowBoundaryMarkerPrefix, cycleWindowLastEvalPrefix, cycleWindowEndSellMarkerPrefix,
    missedMarketNotificationStatePrefix, "previous_price_", "cross_pending_at_",
    "cross_pending_price_", "cross_pending_prev_"]

/-- The edit is of the target's node, under one of the plain keys, or under one of the prefixes
followed by the target's token. -/
def EditsTarget (spec : WsOpenPositionPriceNodeSpec) (plain pres : List String)
    (e : ContextEdit) : Prop :=
  ∃ key, (key ∈ plain ∨ ∃ pre ∈ pres, key = pre ++ spec.tokenId) ∧
    ((∃ value, e = .setNodeState spec.nodeKey key value) ∨ e = .removeNodeState spec.nodeKey key)

section Edits
variable {spec : WsOpenPositionPriceNodeSpec} {plain pres : List String}

theorem setPlain_edits {key : String} (h : key ∈ plain) (value : Value) :
    (Draft.set spec.nodeKey key value).All (EditsTarget spec plain pres) :=
  .edit ⟨key, .inl h, .inl ⟨value, rfl⟩⟩

theorem setToken_edits {pre : String} (h : pre ∈ pres) (value : Value) :
    (Draft.set spec.nodeKey (pre ++ spec.tokenId) value).All (EditsTarget spec plain pres) :=
  .edit ⟨_, .inr ⟨pre, h, rfl⟩, .inl ⟨value, rfl⟩⟩

theorem removePlain_edits {key : String} (h : key ∈ plain) :
    (Draft.remove spec.nodeKey key).All (EditsTarget spec plain pres) :=
  .edit ⟨key, .inl h, .inr rfl⟩

theorem removeToken_edits {pre : String} (h : pre ∈ pres) :
    (Draft.remove spec.nodeKey (pre ++ spec.tokenId)).All (EditsTarget spec plain pres) :=
  .edit ⟨_, .inr ⟨pre, h, rfl⟩, .inr rfl⟩

theorem EditsTarget.mono {plain' pres' : List String} (hplain : plain ⊆ plain') (hpres : pres ⊆ pres')
    {e : ContextEdit} (h : EditsTarget spec plain pres e) : EditsTarget spec plain' pres' e := by
  obtain ⟨key, hkey, he⟩ := h
  refine ⟨key, ?_, he⟩
  rcases hkey with hmem | ⟨pre, hpre, hkey⟩
  · exact .inl (hplain hmem)
  · exact .inr ⟨pre, hpres hpre, hkey⟩

theorem entry_kept {es : List ContextEdit} (h : ∀ e ∈ es, EditsTarget spec plain pres e)
    {nodeKey stateKey : String} (haway : spec.nodeKey = nodeKey →
      stateKey ∉ plain ∧ ∀ pre ∈ pres, stateKey ≠ pre ++ spec.tokenId) (context : Value) :
    flowNodeState (applyEdits es context) nodeKey stateKey =
      flowNodeState context nodeKey stateKey := by
  refine flowNodeState_of_spared (fun hmem => ?_) context
  simp only [Lib.Overwrite.keys, entryEdits, List.mem_map, List.mem_flatMap] at hmem
  obtain ⟨edit, ⟨e, he, hedit⟩, hentry⟩ := hmem
  obtain ⟨key, hkey, hwrites⟩ := h e he
  have hnames : edit.key = (spec.nodeKey, key) := by
    rcases hwrites with ⟨value, rfl⟩ | rfl <;> rw [List.mem_singleton.mp hedit]
  obtain ⟨hnode, hstate⟩ := Prod.mk.inj (hnames.symm.trans hentry)
  obtain ⟨hplain, hpres⟩ := haway hnode
  rcases hkey with hmem | ⟨pre, hpre, hkey⟩
  · exact hplain (hstate ▸ hmem)
  · exact hpres pre hpre (hstate.symm.trans hkey)

end Edits

/-! ### Keys that differ -/

theorem prefix_unique {pre pre' : String} (hpre : pre ∈ targetKeyPrefixes)
    (hpre' : pre' ∈ targetKeyPrefixes) {tokenId tokenId' : String}
    (h : pre ++ tokenId = pre' ++ tokenId') : pre = pre' ∧ tokenId = tokenId' := by
  have happend := congrArg String.toList h
  rw [String.toList_append, String.toList_append] at happend
  have hfree : ∀ p ∈ targetKeyPrefixes, ∀ q ∈ targetKeyPrefixes, p.toList <+: q.toList → p = q := by
    decide
  have hsame : pre = pre' := by
    rcases List.prefix_or_prefix_of_prefix (List.prefix_append _ _)
      (happend ▸ List.prefix_append _ _) with hleft | hright
    · exact (hfree pre' hpre' pre hpre hleft).symm
    · exact hfree pre hpre pre' hpre' hright
  subst hsame
  exact ⟨rfl, String.toList_inj.mp (List.append_cancel_left happend)⟩

/-- The keys of a node that belong to no token. -/
def nodeStateKeys : List String :=
  onceStateKeys ++ ["last_price", "previous_price", "last_ws_market_slug"]

theorem nodeStateKey_ne {key : String} (hkey : key ∈ nodeStateKeys) {pre : String}
    (hpre : pre ∈ targetKeyPrefixes) (tokenId : String) : key ≠ pre ++ tokenId := by
  have hfree : ∀ p ∈ targetKeyPrefixes, ∀ k ∈ nodeStateKeys, startsWith p k = false := by decide
  exact (prefixed_ne (hfree pre hpre key hkey) tokenId).symm

/-! ### What the timers edit -/

section Timers
variable (chrono : Chrono) (runId : ℤ) (spec : WsOpenPositionPriceNodeSpec)

/-- The keys that an opening is evaluated and its confirmation started under. -/
def confirmationPrefixes : List String :=
  [cycleWindowLastEvalPrefix, "cross_pending_at_", "cross_pending_price_", "cross_pending_prev_"]

/-- Beside these its price is recorded. -/
def openingPrefixes : List String := "previous_price_" :: confirmationPrefixes

theorem recordLastEval_edits (diagnostics : Option CycleWindowEvalDiagnostics) (result : String)
    (price : Option ℚ) (mode : Option String) :
    (recordLastEval chrono spec diagnostics result price mode).All
      (EditsTarget spec [] [cycleWindowLastEvalPrefix]) := by
  cases diagnostics with
  | none => exact .pure ()
  | some d => exact setToken_edits (by decide) _

theorem recordPrice_edits (price : ℚ) :
    (recordPrice spec price).All (EditsTarget spec ["last_price"] ["previous_price_"]) :=
  .bind (setPlain_edits (by decide) _) fun _ => setToken_edits (by decide) _

theorem openBoundary_edits (windowMode : String) (diagnostics : Option CycleWindowEvalDiagnostics)
    (quote : WsQuote) (mode : String) :
    (openBoundary chrono runId spec windowMode diagnostics quote mode).All
      (EditsTarget spec [] confirmationPrefixes) := by
  have hrecord : ∀ result price mode, (recordLastEval chrono spec diagnostics result price mode).All
      (EditsTarget spec [] confirmationPrefixes) := fun result price mode =>
    (recordLastEval_edits chrono spec diagnostics result price mode).mono fun e he =>
      he.mono (by decide) (by decide)
  unfold openBoundary
  extract_lets gate
  refine .bind (hrecord _ _ _) fun _ => ?_
  split
  · refine .bind (setToken_edits (by decide) _) fun _ => ?_
    refine .bind (setToken_edits (by decide) _) fun _ => ?_
    exact .bind (setToken_edits (by decide) _) fun _ => .pure _
  split
  · exact .bind (hrecord _ _ _) fun _ => .pure _
  · exact .bind .read fun context => .pure _

/-- What is left to do for an opening whose price is known and whose marker is set. -/
def evaluateBoundary (windowMode : String) (diagnostics : Option CycleWindowEvalDiagnostics)
    (quote : WsQuote) : Draft TargetOutcome := do
  recordPrice spec quote.price
  match boundaryCondition spec windowMode quote.price with
  | none => return ⟨true, none⟩
  | some (false, mode) =>
    let aboveMax := quote.price ≥ spec.triggerPrice && !withinMax quote.price spec.maxPrice
    recordLastEval chrono spec diagnostics (if aboveMax then "above_max" else "condition_not_met")
      (some quote.price) (some mode)
    return ⟨true, none⟩
  | some (true, mode) => openBoundary chrono runId spec windowMode diagnostics quote mode

theorem evaluateBoundary_edits (windowMode : String)
    (diagnostics : Option CycleWindowEvalDiagnostics) (quote : WsQuote) :
    (evaluateBoundary chrono runId spec windowMode diagnostics quote).All
      (EditsTarget spec ["last_price"] openingPrefixes) := by
  have hprice := recordPrice_edits spec quote.price
  unfold evaluateBoundary
  refine .bind (hprice.mono fun e he => he.mono (by decide) (by decide)) fun _ => ?_
  split
  · exact .pure _
  · refine .bind ?_ fun _ => .pure _
    exact (recordLastEval_edits chrono spec _ _ _ _).mono fun e he => he.mono (by decide) (by decide)
  · exact (openBoundary_edits chrono runId spec _ _ _ _).mono fun e he =>
      he.mono (by decide) (List.subset_cons_self _ _)

/-- The once scope of the spec is marked fired, which passes over an opening window. -/
def openingBlocked (context : Value) : Bool :=
  spec.onceMode && tradeFlowMarketPriceOnceFiredForScope context spec.nodeKey spec.onceScopeMarket
    spec.marketSlug

section Opening
variable (windowMode marker : String) (now : Instant) (context : Value)

theorem processBoundary_blocked (h : openingBlocked spec context = true) (quote : Option WsQuote) :
    (processBoundary chrono runId spec windowMode marker now quote).run context =
      setFlowNodeState context spec.nodeKey (cycleWindowBoundaryStateKey spec) (.string marker) := by
  unfold processBoundary
  dsimp only
  rw [Draft.bind_run, Draft.read_fst, Draft.read_run]
  unfold openingBlocked at h
  rw [if_pos h]
  rfl

theorem processBoundary_unpriced (h : openingBlocked spec context = false) :
    (processBoundary chrono runId spec windowMode marker now none).run context =
      (recordLastEval chrono spec (cycleWindowEvalDiagnostics spec windowMode now)
        "price_unavailable" none none).run context := by
  unfold processBoundary
  dsimp only
  rw [Draft.bind_run, Draft.read_fst, Draft.read_run]
  unfold openingBlocked at h
  rw [if_neg (by simp [h])]
  exact Draft.bind_run _ _ context

theorem processBoundary_priced (h : openingBlocked spec context = false) (quote : WsQuote) :
    (processBoundary chrono runId spec windowMode marker now (some quote)).run context =
      (evaluateBoundary chrono runId spec windowMode
        (cycleWindowEvalDiagnostics spec windowMode now) quote).run
        (setFlowNodeState context spec.nodeKey (cycleWindowBoundaryStateKey spec)
          (.string marker)) := by
  unfold processBoundary
  dsimp only
  rw [Draft.bind_run, Draft.read_fst, Draft.read_run]
  unfold openingBlocked at h
  rw [if_neg (by simp [h])]
  rfl

end Opening

theorem processBoundary_edits (windowMode marker : String) (now : Instant)
    (quote : Option WsQuote) :
    (processBoundary chrono runId spec windowMode marker now quote).All
      (EditsTarget spec ["last_price"] (cycleWindowBoundaryMarkerPrefix :: openingPrefixes)) := by
  have hmarker : (Draft.set spec.nodeKey (cycleWindowBoundaryStateKey spec) (.string marker)).All
      (EditsTarget spec ["last_price"] (cycleWindowBoundaryMarkerPrefix :: openingPrefixes)) :=
    setToken_edits (List.mem_cons_self ..) _
  unfold processBoundary
  extract_lets diagnostics
  refine .bind .read fun context => ?_
  split
  · exact .bind hmarker fun _ => .pure _
  cases quote with
  | none =>
    refine .bind ?_ fun _ => .pure _
    exact (recordLastEval_edits chrono spec _ _ _ _).mono fun e he => he.mono (by decide) (by decide)
  | some q =>
    refine .bind hmarker fun _ => ?_
    exact (evaluateBoundary_edits chrono runId spec windowMode diagnostics q).mono fun e he =>
      he.mono (List.Subset.refl _) (List.subset_cons_self _ _)

theorem notification_edits (windowEndAt now : Instant) (reads : MissedMarketReads) :
    (maybeSendMissedMarketNoOrderNotification chrono spec windowEndAt now reads).All
      (EditsTarget spec [] [missedMarketNotificationStatePrefix]) := by
  unfold maybeSendMissedMarketNoOrderNotification
  split
  · exact .pure false
  · refine .bind .read fun context => ?_
    split
    · exact .pure false
    · extract_lets mark
      have hmark : ∀ status reasonCode sent, (mark status reasonCode sent).All
          (EditsTarget spec [] [missedMarketNotificationStatePrefix]) := fun _ _ _ =>
        .bind (setToken_edits (by decide) _) fun _ => .pure true
      cases reads with
      | alreadySent => exact hmark _ _ _
      | skipped reasonCode => exact hmark _ _ _
      | attempted sent reasonCode => exact hmark _ _ _
      | runMissing => exact .pure false

theorem windowEndSell_edits (reads : SellReads) (windowEndAt : Instant) :
    (processWindowEndSell runId reads spec windowEndAt).All
      (EditsTarget spec [] [cycleWindowEndSellMarkerPrefix]) := by
  unfold processWindowEndSell
  extract_lets mark
  have hmark : ∀ fields, (mark fields).All (EditsTarget spec [] [cycleWindowEndSellMarkerPrefix]) :=
    fun _ => setToken_edits (by decide) _
  split
  · exact .pure _
  · exact .bind (hmark _) fun _ => .pure _
  · split
    · exact .bind (hmark _) fun _ => .pure _
    · exact .pure _

end Timers

/-! ### What the fast path edits -/

section FastPath
variable (chrono : Chrono) (runId : ℤ) (spec : WsOpenPositionPriceNodeSpec) (quote : WsQuote)

def tickPrefixes : List String :=
  ["previous_price_", "cross_pending_at_", "cross_pending_price_", "cross_pending_prev_"]

theorem clearCrossPending_edits (plain : List String) :
    (clearCrossPending spec).All (EditsTarget spec plain tickPrefixes) :=
  .bind (removeToken_edits (by decide)) fun _ =>
    .bind (removeToken_edits (by decide)) fun _ => removeToken_edits (by decide)

theorem syncOnceScope_target (onceScopeMarket : Bool) (marketSlug : Option String) :
    (syncTradeFlowMarketPriceOnceScopeState spec.nodeKey onceScopeMarket marketSlug).All
      (EditsTarget spec nodeStateKeys tickPrefixes) :=
  syncOnceScope_all (fun key hkey => ⟨key, .inl (List.mem_append_left _ hkey), .inr rfl⟩)
    onceScopeMarket marketSlug

theorem syncLastWsMarketSlug_edits : (syncLastWsMarketSlug spec).All
    (EditsTarget spec ["previous_price", "last_ws_market_slug"] tickPrefixes) := by
  unfold syncLastWsMarketSlug
  split
  · exact .pure false
  · refine .bind .read fun context => ?_
    extract_lets last changed rest
    have hrest : ∀ r, (rest r).All
        (EditsTarget spec ["previous_price", "last_ws_market_slug"] tickPrefixes) := fun r =>
      .bind (setPlain_edits (by decide) _) fun _ => .pure changed
    split
    · refine .bind (removeToken_edits (by decide)) fun _ => ?_
      refine .bind (removePlain_edits (by decide)) fun _ => ?_
      exact .bind (clearCrossPending_edits spec _) hrest
    · exact hrest ()

theorem logOnceBlocked_edits :
    (logOnceBlocked spec).All (EditsTarget spec [onceBlockLoggedKey] tickPrefixes) := by
  unfold logOnceBlocked
  refine .bind .read fun context => ?_
  split
  · exact .pure false
  · exact .bind (setPlain_edits (by decide) _) fun _ => .pure true

theorem confirmCross_edits (previous : Option ℚ) (crossed : Bool) (ms : ℤ) :
    (confirmCross chrono spec quote previous crossed ms).All
      (EditsTarget spec ["last_price"] tickPrefixes) := by
  have hclear := clearCrossPending_edits spec ["last_price"]
  unfold confirmCross
  split
  · refine .bind (setToken_edits (by decide) _) fun _ => ?_
    refine .bind (setToken_edits (by decide) _) fun _ => ?_
    exact .bind (setToken_edits (by decide) _) fun _ => .pure false
  refine .bind .read fun context => ?_
  split
  · exact .pure false
  split
  · split
    · exact .pure false
    split
    · exact .bind hclear fun _ => .pure true
    · exact .pure false
  · exact .bind hclear fun _ => .pure false

theorem wsDecision_edits (previous : Option ℚ) (crossed : Bool) (mode : String) :
    (wsDecision chrono spec quote previous crossed mode).All
      (EditsTarget spec ["last_price"] tickPrefixes) := by
  unfold wsDecision
  extract_lets gate rest
  have hrest : ∀ r, (rest r).All (EditsTarget spec ["last_price"] tickPrefixes) := fun r => .pure _
  split
  · exact .pure _
  split
  · exact .pure _
  split
  · exact .bind (.pure _) hrest
  · exact .bind (confirmCross_edits chrono spec quote previous crossed _) fun _ =>
      .bind (.pure _) hrest

theorem evaluateWsTarget_edits (changed : Bool) :
    (evaluateWsTarget chrono runId spec quote changed).All
      (EditsTarget spec ["last_price"] tickPrefixes) := by
  have hprice := recordPrice_edits spec quote.price
  unfold evaluateWsTarget
  refine .bind .read fun context => ?_
  extract_lets previous
  split
  · exact .pure _
  · refine .bind (hprice.mono fun e he => he.mono (by decide) (by decide)) fun _ => ?_
    refine .bind (wsDecision_edits chrono spec quote previous _ _) fun decision => ?_
    dsimp only
    split
    · exact .pure _
    · exact .bind .read fun _ => .pure _

theorem processWsTarget_edits :
    (processWsTarget chrono runId spec quote).All (EditsTarget spec nodeStateKeys tickPrefixes) := by
  unfold processWsTarget
  split
  · exact .pure _
  split
  · exact .pure _
  split
  · exact .pure _
  refine .bind (syncOnceScope_target spec _ _) fun _ => ?_
  refine .bind ((syncLastWsMarketSlug_edits spec).mono fun e he =>
    he.mono (by decide) (List.Subset.refl _)) fun changed => .bind .read fun context => ?_
  split
  · exact .bind ((logOnceBlocked_edits spec).mono fun e he =>
      he.mono (by decide) (List.Subset.refl _)) fun _ => .pure _
  · exact (evaluateWsTarget_edits chrono runId spec quote changed).mono fun e he =>
      he.mono (by decide) (List.Subset.refl _)

end FastPath

end PolymarketBot.Flow
