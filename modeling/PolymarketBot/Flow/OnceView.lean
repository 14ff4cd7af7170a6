import PolymarketBot.Flow.OnceState

/-! The part of a node's state that its once scope is read from, and what bringing the scope in
line with a market does to it. -/

namespace PolymarketBot.Flow

/-- What the once scope of a node is read from. -/
structure OnceView where
  lock : Option String
  fired : Bool
  firedSlug : Option String

def onceView (context : Value) (nodeKey : String) : OnceView where
  lock := flowNodeStateString context nodeKey publishAutoScopeLockMarketSlugKey
  fired := flowNodeStateTruthy context nodeKey onceFiredKey
  firedSlug := flowNodeStateString context nodeKey onceFiredMarketSlugKey

def OnceView.firedFor (view : OnceView) (onceScopeMarket : Bool) (current : Option String) : Bool :=
  if current.isSome && view.lock = current then true
  else if !view.fired then false
  else if !onceScopeMarket then true
  else current.isSome && view.firedSlug = current

def OnceView.firedBefore (view : OnceView) (slug : String) : Bool :=
  match view.firedSlug with
  | none => view.fired
  | some last => last ≠ slug

/-- The view once the scope is brought in line with the market. -/
def OnceView.synced (view : OnceView) (onceScopeMarket : Bool) : Option String → OnceView
  | none => view
  | some slug =>
    if onceScopeMarket && view.firedBefore slug then ⟨none, false, none⟩
    else if view.lock.any (slug ≠ ·) then { view with lock := none }
    else view

theorem OnceView.synced_synced (view : OnceView) (onceScopeMarket : Bool) (current : Option String) :
    (view.synced onceScopeMarket current).synced onceScopeMarket current =
      view.synced onceScopeMarket current := by
  obtain ⟨lock, fired, firedSlug⟩ := view
  cases current with
  | none => rfl
  | some slug =>
    simp only [OnceView.synced, OnceView.firedBefore]
    cases onceScopeMarket <;> cases firedSlug <;> cases lock <;> cases fired <;> grind

theorem OnceView.synced_fired {view : OnceView} {onceScopeMarket : Bool} {current : Option String}
    (h : (view.synced onceScopeMarket current).fired = true) :
    view.fired = true ∧ (view.synced onceScopeMarket current).firedSlug = view.firedSlug := by
  cases current with
  | none => exact ⟨h, rfl⟩
  | some slug =>
    simp only [OnceView.synced] at h ⊢
    split at h
    · cases h
    · rename_i hstale
      rw [if_neg hstale]
      split at h <;> rename_i hlock
      · exact ⟨h, by rw [if_pos hlock]⟩
      · exact ⟨h, by rw [if_neg hlock]⟩

theorem onceFired_eq (context : Value) (nodeKey : String) (onceScopeMarket : Bool)
    (marketSlug : Option String) :
    tradeFlowMarketPriceOnceFiredForScope context nodeKey onceScopeMarket marketSlug =
      (onceView context nodeKey).firedFor onceScopeMarket (trimmedSlug marketSlug) := rfl

theorem onceView_removeLock (context : Value) (nodeKey : String) :
    onceView (removeFlowNodeState context nodeKey publishAutoScopeLockMarketSlugKey) nodeKey =
      { onceView context nodeKey with lock := none } := by
  have hlock : ("once_fired" : String) ≠ publishAutoScopeLockMarketSlugKey := by decide
  have hslug : ("once_fired_market_slug" : String) ≠ publishAutoScopeLockMarketSlugKey := by decide
  unfold onceView flowNodeStateString flowNodeStateTruthy onceFiredKey onceFiredMarketSlugKey
  simp only [flowNodeState_removeFlowNodeState, hlock, hslug, and_true, and_false, if_true, if_false]
  rfl

theorem onceView_clear (context : Value) (nodeKey : String) :
    onceView ((clearTradeFlowMarketPriceOnceState nodeKey).run context) nodeKey =
      ⟨none, false, none⟩ := by
  have hgone : ∀ key ∈ onceStateKeys, flowNodeState
      ((clearTradeFlowMarketPriceOnceState nodeKey).run context) nodeKey key = none := by
    intro key hkey
    unfold clearTradeFlowMarketPriceOnceState
    simp only [Draft.bind_run, Draft.remove_run, flowNodeState_removeFlowNodeState, true_and]
    simp only [onceStateKeys, List.mem_cons, List.not_mem_nil, or_false] at hkey
    rcases hkey with rfl | rfl | rfl | rfl | rfl <;> simp
  unfold onceView flowNodeStateString flowNodeStateTruthy
  rw [hgone _ (by decide), hgone _ (by decide), hgone _ (by decide)]
  rfl

/-- The part of the sync that forgets the once lock of an earlier market. -/
def clearFiredBefore (nodeKey slug : String) : Draft Unit := do
  let context ← Draft.read
  match flowNodeStateString context nodeKey onceFiredMarketSlugKey with
  | none =>
    if flowNodeStateTruthy context nodeKey onceFiredKey then
      clearTradeFlowMarketPriceOnceState nodeKey
  | some last => if last ≠ slug then clearTradeFlowMarketPriceOnceState nodeKey

theorem onceView_clearFiredBefore (context : Value) (nodeKey slug : String) :
    onceView ((clearFiredBefore nodeKey slug).run context) nodeKey =
      if (onceView context nodeKey).firedBefore slug then ⟨none, false, none⟩
      else onceView context nodeKey := by
  have hclear := onceView_clear context nodeKey
  unfold clearFiredBefore
  rw [Draft.bind_run, Draft.read_fst, Draft.read_run]
  cases hslug : flowNodeStateString context nodeKey onceFiredMarketSlugKey with
  | none =>
    have hbefore : (onceView context nodeKey).firedBefore slug =
        flowNodeStateTruthy context nodeKey onceFiredKey := by
      simp [OnceView.firedBefore, onceView, hslug]
    rw [hbefore]
    dsimp only
    by_cases hfired : flowNodeStateTruthy context nodeKey onceFiredKey = true
    · rw [if_pos hfired, if_pos hfired, hclear]
    · rw [if_neg hfired, if_neg hfired]
      rfl
  | some last =>
    have hbefore : (onceView context nodeKey).firedBefore slug = decide (last ≠ slug) := by
      simp [OnceView.firedBefore, onceView, hslug]
    rw [hbefore]
    dsimp only
    by_cases hmoved : last ≠ slug
    · rw [if_pos hmoved, if_pos (decide_eq_true hmoved), hclear]
    · rw [if_neg hmoved, if_neg (by simpa using hmoved)]
      rfl

theorem onceView_sync (context : Value) (nodeKey : String) (onceScopeMarket : Bool)
    (marketSlug : Option String) :
    onceView ((syncTradeFlowMarketPriceOnceScopeState nodeKey onceScopeMarket marketSlug).run
        context) nodeKey =
      (onceView context nodeKey).synced onceScopeMarket (trimmedSlug marketSlug) := by
  unfold syncTradeFlowMarketPriceOnceScopeState
  extract_lets current rest
  change _ = (onceView context nodeKey).synced onceScopeMarket current
  clear_value current
  rw [Draft.bind_run, Draft.read_fst, Draft.read_run]
  cases current with
  | none =>
    have hrest : rest () = pure () := by cases onceScopeMarket <;> rfl
    rw [hrest]
    cases flowNodeStateString context nodeKey publishAutoScopeLockMarketSlugKey <;> rfl
  | some slug =>
    have hrest : ∀ context, onceView ((rest ()).run context) nodeKey =
        if onceScopeMarket && (onceView context nodeKey).firedBefore slug then ⟨none, false, none⟩
        else onceView context nodeKey := by
      intro context
      cases onceScopeMarket with
      | false => rfl
      | true => exact onceView_clearFiredBefore context nodeKey slug
    unfold OnceView.synced
    cases hlock : flowNodeStateString context nodeKey publishAutoScopeLockMarketSlugKey with
    | none =>
      have hview : (onceView context nodeKey).lock = none := hlock
      dsimp only
      rw [hrest, hview]
      rfl
    | some locked =>
      have hview : (onceView context nodeKey).lock = some locked := hlock
      dsimp only
      rw [hview, Option.any_some]
      by_cases hother : slug ≠ locked
      · rw [if_pos hother, Draft.bind_run, Draft.remove_run, if_pos (decide_eq_true hother), hrest,
          onceView_removeLock]
        rfl
      · rw [if_neg hother, hrest, if_neg (c := decide (slug ≠ locked) = true) (by simpa using hother)]

end PolymarketBot.Flow
