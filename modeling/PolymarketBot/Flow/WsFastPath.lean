import Mathlib.Data.Rat.Floor
import PolymarketBot.Lib.Grid
import PolymarketBot.Flow.CycleWindow

/-! The websocket fast path: what one price tick does to the cached copy of a run,
target by target, and which step it asks the queue for. -/

namespace PolymarketBot.Flow

structure WsOpenPositionPriceRunSpec where
  runId : ℤ
  context : Value
  nodes : List WsOpenPositionPriceNodeSpec
  contextDirty : Bool

inductive TriggerMarketPriceGateMode where
  | standardOnly
  | standardAndPtb
  | ptbOnly
  deriving DecidableEq

def triggerMarketPriceGateMode (spec : WsOpenPositionPriceNodeSpec) :
    Option TriggerMarketPriceGateMode :=
  match trim spec.triggerCondition != "", spec.priceToBeatTriggerEnabled with
  | true, true => some .standardAndPtb
  | true, false => some .standardOnly
  | false, true => some .ptbOnly
  | false, false => none

def isStandardGate : Option TriggerMarketPriceGateMode → Bool
  | some .standardOnly | some .standardAndPtb => true
  | _ => false

def marketPriceConfirmationMs (spec : WsOpenPositionPriceNodeSpec) : Option ℤ :=
  if spec.nodeType ≠ "trigger.market_price" then none else spec.confirmationMs.filter (· > 0)

def allowFirstTickThresholdForWsNode (spec : WsOpenPositionPriceNodeSpec) (previous : Option ℚ) :
    Bool :=
  let lateWindow := spec.cycleWindowMode = some "last" || spec.cycleWindowMode = some "custom_range"
  if spec.nodeType ≠ "trigger.market_price" then false
  else if spec.autoScope then lateWindow && previous.isNone
  else if lateWindow then false
  else !spec.onceMode || previous.isNone

def withinMax (price : ℚ) (maxPrice : Option ℚ) : Bool := maxPrice.all (price ≤ ·)

/-- Where a price without a hit stands: above the maximum, unseen so far, or `mode`. -/
def missMode (previous : Option ℚ) (allowFirst : Bool) (mode : String) : Bool × String :=
  if previous.isNone && !allowFirst then (false, "no_previous") else (false, mode)

def crossAboveMode (previous : Option ℚ) (price trigger : ℚ) (allowFirst : Bool) :
    Option ℚ → Option String
  | some mp =>
    let inRange (p : ℚ) : Bool := p ≥ trigger && p ≤ mp
    match previous with
    | some prev =>
      if !inRange prev && inRange price then
        if prev < trigger then some "range_entry_from_below"
        else if prev > mp then some "range_entry_from_above"
        else some "cross_detected"
      else none
    | none => if allowFirst && inRange price then some "first_tick_in_range" else none
  | none =>
    match previous with
    | some prev => if prev < trigger && price ≥ trigger then some "cross_detected" else none
    | none => if allowFirst && price ≥ trigger then some "first_tick_threshold" else none

def crossBelowMode (previous : Option ℚ) (price trigger : ℚ) (allowFirst : Bool) : Option String :=
  match previous with
  | some prev => if prev > trigger && price ≤ trigger then some "cross_detected" else none
  | none => if allowFirst && price ≤ trigger then some "first_tick_threshold" else none

def evaluateTriggerMarketPriceCondition (previous : Option ℚ) (price trigger : ℚ)
    (condition : String) (allowFirst : Bool) (maxPrice : Option ℚ) : Bool × String :=
  match condition with
  | "level_above" =>
    if price ≥ trigger && withinMax price maxPrice then
      (true, if maxPrice.isSome then "level_in_range" else "level_threshold_met")
    else if !withinMax price maxPrice then (false, "above_max_price")
    else missMode previous allowFirst "level_not_met"
  | "level_below" =>
    if price ≤ trigger && withinMax price maxPrice then (true, "level_threshold_met")
    else if !withinMax price maxPrice then (false, "above_max_price")
    else missMode previous allowFirst "level_not_met"
  | "cross_above" =>
    let overshot := match previous with
      | some prev => decide (prev < trigger)
      | none => allowFirst
    if !withinMax price maxPrice && overshot then (false, "above_max_price")
    else match crossAboveMode previous price trigger allowFirst maxPrice with
      | some mode => if withinMax price maxPrice then (true, mode) else (false, "above_max_price")
      | none => missMode previous allowFirst "no_cross"
  | "cross_below" =>
    match crossBelowMode previous price trigger allowFirst with
    | some mode => if withinMax price maxPrice then (true, mode) else (false, "above_max_price")
    | none => missMode previous allowFirst "no_cross"
  | _ => (false, "unsupported_condition")

def stillInZone (spec : WsOpenPositionPriceNodeSpec) (price : ℚ) : Bool :=
  match spec.triggerCondition with
  | "cross_below" | "level_below" => price ≤ spec.triggerPrice
  | "cross_above" | "level_above" => price ≥ spec.triggerPrice && withinMax price spec.maxPrice
  | _ => false

/-- `{:.6}` of a price: the nearest millionth, a tie to the even one. -/
def fixed6 (q : ℚ) : String :=
  let n := (Lib.roundHalfEven (|q| * 1000000)).toNat
  let frac := toString (n % 1000000)
  (if q < 0 then "-" else "") ++ toString (n / 1000000) ++ "." ++
    String.ofList (List.replicate (6 - frac.length) '0') ++ frac

def wsPriceTriggerStepIdempotencyKey (runId : ℤ) (nodeKey condition : String) (price : ℚ)
    (dedupeTs : ℤ) (onceMode onceScopeMarket : Bool) (marketSlug : Option String)
    (generation : ℤ) : String :=
  if onceMode then
    let base := s!"ws-once:{runId}:{nodeKey}" ++
      if onceScopeMarket then ":" ++ (trimmedSlug marketSlug).getD "unknown-market" else ""
    if generation > 0 then base ++ s!":gen{generation}" else base
  else s!"ws-open-price:{runId}:{nodeKey}:{condition}:{fixed6 price}:{dedupeTs}"

/-- What a tick resolved for one target outside the run context. -/
structure WsQuote where
  price : ℚ
  ts : Option ℤ
  ptbGatePassed : Bool
  now : Instant

structure StepRequest where
  nodeKey : String
  nodeType : String
  evaluationMode : String
  idempotencyKey : String

structure TargetOutcome where
  dirty : Bool
  step : Option StepRequest

def TargetOutcome.skip : TargetOutcome := ⟨false, none⟩

def clearCrossPending (spec : WsOpenPositionPriceNodeSpec) : Draft Unit := do
  Draft.remove spec.nodeKey (crossPendingAtKey spec.tokenId)
  Draft.remove spec.nodeKey (crossPendingPriceKey spec.tokenId)
  Draft.remove spec.nodeKey (crossPendingPrevKey spec.tokenId)

/-- Forgets the prices of the last market when the node's market moved on. -/
def syncLastWsMarketSlug (spec : WsOpenPositionPriceNodeSpec) : Draft Bool := do
  match spec.marketSlug with
  | none => return false
  | some slug =>
    let last := flowNodeStateString (← Draft.read) spec.nodeKey "last_ws_market_slug"
    let changed := decide (last ≠ some slug)
    if changed then
      Draft.remove spec.nodeKey (previousPriceKey spec.tokenId)
      Draft.remove spec.nodeKey "previous_price"
      clearCrossPending spec
    Draft.set spec.nodeKey "last_ws_market_slug" (.string slug)
    return changed

def logOnceBlocked (spec : WsOpenPositionPriceNodeSpec) : Draft Bool := do
  if flowNodeStateTruthy (← Draft.read) spec.nodeKey onceBlockLoggedKey then return false
  Draft.set spec.nodeKey onceBlockLoggedKey (.bool true)
  return true

def recordPrice (spec : WsOpenPositionPriceNodeSpec) (price : ℚ) : Draft Unit := do
  Draft.set spec.nodeKey "last_price" (jsonF64 price)
  Draft.set spec.nodeKey (previousPriceKey spec.tokenId) (jsonF64 price)

/-- The confirmation timer: a crossing starts it, leaving the zone clears it, and the
target is confirmed once the price stayed in the zone for `ms`. -/
def confirmCross (chrono : Chrono) (spec : WsOpenPositionPriceNodeSpec) (q : WsQuote)
    (previous : Option ℚ) (crossed : Bool) (ms : ℤ) : Draft Bool := do
  if crossed then
    Draft.set spec.nodeKey (crossPendingAtKey spec.tokenId) (.string (chrono.toRfc3339 q.now))
    Draft.set spec.nodeKey (crossPendingPriceKey spec.tokenId) (jsonF64 q.price)
    Draft.set spec.nodeKey (crossPendingPrevKey spec.tokenId) (jsonOptF64 previous)
    return false
  match flowNodeStateString (← Draft.read) spec.nodeKey (crossPendingAtKey spec.tokenId) with
  | none => return false
  | some pendingAt =>
    if stillInZone spec q.price then
      match chrono.parseFromRfc3339 pendingAt with
      | none => return false
      | some at' =>
        if numMilliseconds (q.now - at') ≥ ms then
          clearCrossPending spec
          return true
        else return false
    else
      clearCrossPending spec
      return false

def wsCondition (spec : WsOpenPositionPriceNodeSpec) (previous : Option ℚ) (price : ℚ) :
    Option (Bool × String) :=
  if spec.pairLockOnlyMonitor then some (true, "pair_lock_only")
  else match triggerMarketPriceGateMode spec with
    | some .ptbOnly => some (false, "ptb_only")
    | some _ => some (evaluateTriggerMarketPriceCondition previous price spec.triggerPrice
        spec.triggerCondition (allowFirstTickThresholdForWsNode spec previous) spec.maxPrice)
    | none => none

/-- Whether the target's step is wanted, and the evaluation mode it is queued under. -/
def wsDecision (chrono : Chrono) (spec : WsOpenPositionPriceNodeSpec) (q : WsQuote)
    (previous : Option ℚ) (crossed : Bool) (mode : String) : Draft (Bool × String) := do
  let gate := triggerMarketPriceGateMode spec
  if gate = some .ptbOnly then return (q.ptbGatePassed, "ptb_only")
  if spec.pairLockOnlyMonitor then
    return (gate ≠ some .standardAndPtb || q.ptbGatePassed, mode)
  let (wanted, mode) ← match marketPriceConfirmationMs spec with
    | none => pure (crossed, mode)
    | some ms => do
      let confirmed ← confirmCross chrono spec q previous crossed ms
      pure (confirmed, if confirmed then "cross_confirmed" else mode)
  return (wanted && (gate ≠ some .standardAndPtb || q.ptbGatePassed), mode)

def evaluateWsTarget (chrono : Chrono) (runId : ℤ) (spec : WsOpenPositionPriceNodeSpec)
    (q : WsQuote) (changed : Bool) : Draft TargetOutcome := do
  let previous := (flowNodeState (← Draft.read) spec.nodeKey (previousPriceKey spec.tokenId)).bind
    valueAsDecimal
  match wsCondition spec previous q.price with
  | none => return ⟨changed, none⟩
  | some (crossed, mode) =>
    recordPrice spec q.price
    let (wanted, mode) ← wsDecision chrono spec q previous crossed mode
    if !wanted then return ⟨true, none⟩
    let generation := flowNodeReentryGeneration (← Draft.read) spec.nodeKey
    let key := wsPriceTriggerStepIdempotencyKey runId spec.nodeKey spec.triggerCondition q.price
      (q.ts.getD (timestampMillis q.now)) spec.onceMode spec.onceScopeMarket spec.marketSlug generation
    return ⟨true, some ⟨spec.nodeKey, spec.nodeType, mode, key⟩⟩

def processWsTarget (chrono : Chrono) (runId : ℤ) (spec : WsOpenPositionPriceNodeSpec)
    (q : WsQuote) : Draft TargetOutcome := do
  if spec.autoScope && spec.marketSlug.any (isAutoScopeMarketExpired q.now · 15) then
    return .skip
  if q.price < 3 / 100 || q.price > 97 / 100 then return .skip
  if shouldSkipForCycleWindow q.now spec then return .skip
  syncTradeFlowMarketPriceOnceScopeState spec.nodeKey spec.onceScopeMarket spec.marketSlug
  let changed ← syncLastWsMarketSlug spec
  if spec.onceMode && tradeFlowMarketPriceOnceFiredForScope (← Draft.read) spec.nodeKey
      spec.onceScopeMarket spec.marketSlug then
    let logged ← logOnceBlocked spec
    return ⟨changed || logged, none⟩
  evaluateWsTarget chrono runId spec q changed

/-- The targets a tick selected for one run, each with its quote when a price was found. -/
abbrev WsTargets := List (ℕ × Option WsQuote)

def processWsTargets (chrono : Chrono) (spec : WsOpenPositionPriceRunSpec) :
    WsTargets → Draft (Bool × List StepRequest)
  | [] => pure (false, [])
  | (i, quote) :: rest => do
    let outcome ← match spec.nodes[i]?, quote with
      | some node, some q => processWsTarget chrono spec.runId node q
      | _, _ => pure .skip
    let (dirty, steps) ← processWsTargets chrono spec rest
    return (outcome.dirty || dirty, outcome.step.toList ++ steps)

end PolymarketBot.Flow
