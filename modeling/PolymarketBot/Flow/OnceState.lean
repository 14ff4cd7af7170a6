import PolymarketBot.Flow.ContextDraft

/-! The once lock and the re-entry state of a market price trigger, and the runtime
state its websocket evaluation keeps in the run context. -/

namespace PolymarketBot.Flow

def onceFiredKey : String := "once_fired"
def onceFiredAtKey : String := "once_fired_at"
def onceFiredMarketSlugKey : String := "once_fired_market_slug"
def onceBlockLoggedKey : String := "once_blocked_logged"
def publishAutoScopeLockMarketSlugKey : String := "publish_auto_scope_locked_market_slug"
def reentryGenerationKey : String := "reentry_generation"
def reentryAttemptsUsedKey : String := "reentry_attempts_used"
def reentryMarketSlugKey : String := "reentry_market_slug"
def cycleWindowBoundaryMarkerPrefix : String := "cycle_window_boundary_marker_"
def cycleWindowLastEvalPrefix : String := "cycle_window_last_eval_"
def cycleWindowEndSellMarkerPrefix : String := "cycle_window_end_sell_marker_"

def flowNodeStateString (context : Value) (nodeKey stateKey : String) : Option String :=
  let text := match flowNodeState context nodeKey stateKey with
    | some (.string s) => some (trim s)
    | some (.number n) => some n.text
    | _ => none
  text.filter (· ≠ "")

def flowNodeStateTruthy (context : Value) (nodeKey stateKey : String) : Bool :=
  ((flowNodeState context nodeKey stateKey).map valueTruthy).getD false

def flowNodeStateI64 (context : Value) (nodeKey stateKey : String) : Option ℤ :=
  (flowNodeState context nodeKey stateKey).bind Value.asI64

def trimmedSlug (slug : Option String) : Option String := (slug.map trim).filter (· ≠ "")

def flowNodeReentryGeneration (context : Value) (nodeKey : String) : ℤ :=
  (flowNodeStateI64 context nodeKey reentryGenerationKey).getD 0

def flowNodeReentryAttemptsUsed (context : Value) (nodeKey : String) : ℤ :=
  (flowNodeStateI64 context nodeKey reentryAttemptsUsedKey).getD 0

def flowNodeReentryMarketSlug (context : Value) (nodeKey : String) : Option String :=
  trimmedSlug (flowNodeStateString context nodeKey reentryMarketSlugKey)

def resolveTradeFlowReentryAttemptsForMarket (context : Value) (nodeKey marketSlug : String) : ℤ :=
  if flowNodeReentryMarketSlug context nodeKey = some marketSlug then
    flowNodeReentryAttemptsUsed context nodeKey
  else 0

def tradeFlowMarketPriceOnceFiredForScope (context : Value) (nodeKey : String)
    (onceScopeMarket : Bool) (marketSlug : Option String) : Bool :=
  let current := trimmedSlug marketSlug
  let locked := flowNodeStateString context nodeKey publishAutoScopeLockMarketSlugKey
  if current.isSome && locked = current then true
  else if !flowNodeStateTruthy context nodeKey onceFiredKey then false
  else if !onceScopeMarket then true
  else current.isSome && flowNodeStateString context nodeKey onceFiredMarketSlugKey = current

def clearTradeFlowMarketPriceOnceState (nodeKey : String) : Draft Unit := do
  Draft.remove nodeKey onceFiredKey
  Draft.remove nodeKey onceFiredAtKey
  Draft.remove nodeKey onceFiredMarketSlugKey
  Draft.remove nodeKey onceBlockLoggedKey
  Draft.remove nodeKey publishAutoScopeLockMarketSlugKey

def clearTradeFlowMarketPriceRotationState (nodeKey : String) : Draft Unit := do
  clearTradeFlowMarketPriceOnceState nodeKey
  Draft.remove nodeKey reentryGenerationKey

/-- Drops a publish lock for another market, then the once lock of an earlier market. -/
def syncTradeFlowMarketPriceOnceScopeState (nodeKey : String) (onceScopeMarket : Bool)
    (marketSlug : Option String) : Draft Unit := do
  let current := trimmedSlug marketSlug
  match flowNodeStateString (← Draft.read) nodeKey publishAutoScopeLockMarketSlugKey, current with
  | some locked, some slug =>
    if slug ≠ locked then Draft.remove nodeKey publishAutoScopeLockMarketSlugKey
  | _, _ => pure ()
  match onceScopeMarket, current with
  | true, some slug =>
    let context ← Draft.read
    match flowNodeStateString context nodeKey onceFiredMarketSlugKey with
    | none =>
      if flowNodeStateTruthy context nodeKey onceFiredKey then
        clearTradeFlowMarketPriceOnceState nodeKey
    | some last => if last ≠ slug then clearTradeFlowMarketPriceOnceState nodeKey
  | _, _ => pure ()

def markTradeFlowMarketPriceOnceFired (nodeKey firedAt : String) (marketSlug : Option String) :
    Draft Unit := do
  Draft.remove nodeKey publishAutoScopeLockMarketSlugKey
  Draft.set nodeKey onceFiredKey (.bool true)
  Draft.set nodeKey onceFiredAtKey (.string firedAt)
  match trimmedSlug marketSlug with
  | some slug => Draft.set nodeKey onceFiredMarketSlugKey (.string slug)
  | none => Draft.remove nodeKey onceFiredMarketSlugKey
  Draft.set nodeKey onceBlockLoggedKey (.bool false)

def previousPriceKey (tokenId : String) : String := "previous_price_" ++ tokenId
def crossPendingAtKey (tokenId : String) : String := "cross_pending_at_" ++ tokenId
def crossPendingPriceKey (tokenId : String) : String := "cross_pending_price_" ++ tokenId
def crossPendingPrevKey (tokenId : String) : String := "cross_pending_prev_" ++ tokenId

def isWsRuntimeKey (key : String) : Bool :=
  startsWith "previous_price_" key || startsWith "cross_pending_at_" key ||
    startsWith "cross_pending_price_" key || startsWith "cross_pending_prev_" key ||
    startsWith cycleWindowBoundaryMarkerPrefix key || startsWith cycleWindowLastEvalPrefix key

def clearTradeFlowMarketPriceWsRuntimeState (nodeKey : String) : Draft Unit := do
  let node := ((field nodeKey (nestedFields (← Draft.read) "nodeState")).getD .null).fields
  let plain := ["last_price", "previous_price"].filter fun key => (field key node).isSome
  let prefixed := (node.map Prod.fst).filter isWsRuntimeKey
  Draft.each (plain ++ prefixed) fun key => Draft.remove nodeKey key

def onceStateKeys : List String :=
  [onceFiredKey, onceFiredAtKey, onceFiredMarketSlugKey, onceBlockLoggedKey,
    publishAutoScopeLockMarketSlugKey]

/-- The edit clears a part of a node's once state. -/
def ClearsOnceState (e : ContextEdit) : Prop :=
  ∃ nodeKey, ∃ key ∈ onceStateKeys, e = .removeNodeState nodeKey key

theorem clearOnceState_all {kind : ContextEdit → Prop} {nodeKey : String}
    (hkind : ∀ key ∈ onceStateKeys, kind (.removeNodeState nodeKey key)) :
    (clearTradeFlowMarketPriceOnceState nodeKey).All kind := by
  have hremove : ∀ key ∈ onceStateKeys, (Draft.remove nodeKey key).All kind :=
    fun key hkey => .edit (hkind key hkey)
  refine .bind (hremove _ (by decide)) fun _ => .bind (hremove _ (by decide)) fun _ => ?_
  refine .bind (hremove _ (by decide)) fun _ => .bind (hremove _ (by decide)) fun _ => ?_
  exact hremove _ (by decide)

theorem clearOnceState_edits (nodeKey : String) :
    (clearTradeFlowMarketPriceOnceState nodeKey).All ClearsOnceState :=
  clearOnceState_all fun key hkey => ⟨nodeKey, key, hkey, rfl⟩

theorem ClearsOnceState.neverSets {e : ContextEdit} (h : ClearsOnceState e) (stateKey : String) :
    e.NeverSets stateKey := by
  obtain ⟨nodeKey, key, -, rfl⟩ := h
  trivial

theorem ClearsOnceState.spares {e : ContextEdit} (h : ClearsOnceState e) {stateKey : String}
    (hkey : stateKey ∉ onceStateKeys) : e.Spares stateKey := by
  obtain ⟨nodeKey, key, hmem, rfl⟩ := h
  exact fun heq => hkey (heq ▸ hmem)

/-- The edit clears a part of a node's websocket runtime state. -/
def ClearsWsRuntimeState (e : ContextEdit) : Prop :=
  ∃ nodeKey key, (key ∈ ["last_price", "previous_price"] ∨ isWsRuntimeKey key = true) ∧
    e = .removeNodeState nodeKey key

theorem clearWsRuntimeState_edits (nodeKey : String) :
    (clearTradeFlowMarketPriceWsRuntimeState nodeKey).All ClearsWsRuntimeState := by
  unfold clearTradeFlowMarketPriceWsRuntimeState
  refine .bind .read fun context => ?_
  refine .each fun key hkey => .edit ⟨nodeKey, key, ?_, rfl⟩
  rcases List.mem_append.mp hkey with hplain | hprefixed
  · exact Or.inl (List.mem_filter.mp hplain).1
  · exact Or.inr (List.mem_filter.mp hprefixed).2

theorem ClearsWsRuntimeState.spares {e : ContextEdit} (h : ClearsWsRuntimeState e)
    {stateKey : String} (hplain : stateKey ∉ ["last_price", "previous_price"])
    (hprefixed : isWsRuntimeKey stateKey = false) : e.Spares stateKey := by
  obtain ⟨nodeKey, key, hkey, rfl⟩ := h
  intro heq
  rw [heq, hprefixed] at hkey
  simp [hplain] at hkey

end PolymarketBot.Flow
