import PolymarketBot.Builder.Sizing
import PolymarketBot.Flow.WsFastPath

/-! The market price timers of one run: window openings, missed market notifications
and the sell at the end of the window, over the reads each of them makes. -/

namespace PolymarketBot.Flow
open Builder (tradeBuilderExitQtyTolerance)

structure CycleWindowEvalDiagnostics where
  windowMode : String
  cycleWindowSecs : ℤ
  windowOpenAt : Instant
  windowEndAt : Instant
  evaluatedAt : Instant
  boundaryLagMs : ℤ

def cycleWindowEvalDiagnostics (spec : WsOpenPositionPriceNodeSpec) (windowMode : String)
    (evaluatedAt : Instant) : Option CycleWindowEvalDiagnostics := do
  let (openAt, endAt) ← cycleWindowBounds spec
  let secs ← if spec.cycleWindowMode = some "custom_range" then
      some (spec.cycleWindowEndSec.getD 0 - spec.cycleWindowStartSec.getD 0)
    else spec.cycleWindowSecs
  some ⟨windowMode, secs, openAt, endAt, evaluatedAt, max 0 (numMilliseconds (evaluatedAt - openAt))⟩

def cycleWindowBoundaryStateKey (spec : WsOpenPositionPriceNodeSpec) : String :=
  cycleWindowBoundaryMarkerPrefix ++ spec.tokenId

def cycleWindowLastEvalStateKey (spec : WsOpenPositionPriceNodeSpec) : String :=
  cycleWindowLastEvalPrefix ++ spec.tokenId

def cycleWindowEndSellStateKey (spec : WsOpenPositionPriceNodeSpec) : String :=
  cycleWindowEndSellMarkerPrefix ++ spec.tokenId

def missedMarketNotificationStateKey (spec : WsOpenPositionPriceNodeSpec) : String :=
  "missed_market_order_not_filled_" ++ spec.tokenId

def cycleWindowBoundaryMarker (spec : WsOpenPositionPriceNodeSpec) : Option String := do
  let mode ← spec.cycleWindowMode
  let slug ← spec.marketSlug
  if mode = "custom_range" then
    let s ← spec.cycleWindowStartSec
    let e ← spec.cycleWindowEndSec
    some s!"custom_range:{slug}:{s}:{e}"
  else
    let secs ← spec.cycleWindowSecs
    some s!"{mode}:{slug}:{secs}"

def cycleWindowBoundaryDueTarget (context : Value) (spec : WsOpenPositionPriceNodeSpec)
    (now : Instant) : Option (String × String) := do
  let (openAt, endAt) ← cycleWindowBounds spec
  if now < openAt || now ≥ endAt then none
  let marker ← cycleWindowBoundaryMarker spec
  if flowNodeStateString context spec.nodeKey (cycleWindowBoundaryStateKey spec) = some marker then
    none
  some (spec.cycleWindowMode.getD "", marker)

def missedMarketNotificationMarker (spec : WsOpenPositionPriceNodeSpec) (windowEndAt : Instant) :
    Option String := do
  let slug ← spec.marketSlug
  some s!"{slug}:{spec.tokenId}:{timestamp windowEndAt}"

def missedMarketNotificationAlreadyMarked (context : Value) (spec : WsOpenPositionPriceNodeSpec)
    (marker : String) : Bool :=
  ((flowNodeState context spec.nodeKey (missedMarketNotificationStateKey spec)).bind fun v =>
    (v.get "marker").bind Value.asStr) = some marker

def missedMarketNotificationDueTarget (context : Value) (spec : WsOpenPositionPriceNodeSpec)
    (now : Instant) : Option Instant := do
  let (_, endAt) ← cycleWindowBounds spec
  if now < endAt then none
  let marker ← missedMarketNotificationMarker spec endAt
  if missedMarketNotificationAlreadyMarked context spec marker then none
  some endAt

/-- A spec is due for its window-end sell once its window ended, its trigger fired in
this market, and no earlier pass left a marker for its token. -/
def cycleWindowEndSellDueTarget (context : Value) (spec : WsOpenPositionPriceNodeSpec)
    (now : Instant) : Option Instant := do
  if !spec.autoSellOnWindowEnd then none
  let (_, endAt) ← cycleWindowBounds spec
  if now < endAt then none
  if !flowNodeStateTruthy context spec.nodeKey onceFiredKey then none
  match flowNodeStateString context spec.nodeKey onceFiredMarketSlugKey with
  | some fired => if spec.marketSlug ≠ some fired then none
  | none => pure ()
  if flowNodeStateTruthy context spec.nodeKey (cycleWindowEndSellStateKey spec) then none
  some endAt

def setCycleWindowLastEvalState (chrono : Chrono) (spec : WsOpenPositionPriceNodeSpec)
    (d : CycleWindowEvalDiagnostics) (result : String) (price : Option ℚ) (mode : Option String) :
    Draft Unit :=
  Draft.set spec.nodeKey (cycleWindowLastEvalStateKey spec) (.object [
    ("window_mode", .string d.windowMode), ("cycle_window_secs", jsonI64 d.cycleWindowSecs),
    ("window_open_at", .string (chrono.toRfc3339 d.windowOpenAt)),
    ("window_end_at", .string (chrono.toRfc3339 d.windowEndAt)),
    ("evaluated_at", .string (chrono.toRfc3339 d.evaluatedAt)),
    ("boundary_lag_ms", jsonI64 d.boundaryLagMs), ("price", jsonOptF64 price),
    ("trigger_price", jsonF64 spec.triggerPrice), ("max_price", jsonOptF64 spec.maxPrice),
    ("result", .string result), ("evaluation_mode", jsonOptStr mode),
    ("market_slug", jsonOptStr spec.marketSlug)])

def recordLastEval (chrono : Chrono) (spec : WsOpenPositionPriceNodeSpec)
    (diagnostics : Option CycleWindowEvalDiagnostics) (result : String) (price : Option ℚ)
    (mode : Option String) : Draft Unit :=
  match diagnostics with
  | some d => setCycleWindowLastEvalState chrono spec d result price mode
  | none => pure ()

def boundaryCondition (spec : WsOpenPositionPriceNodeSpec) (windowMode : String) (price : ℚ) :
    Option (Bool × String) :=
  if spec.pairLockOnlyMonitor then some (true, "pair_lock_only")
  else match triggerMarketPriceGateMode spec with
    | some .ptbOnly => some (true, "ptb_only")
    | some _ => some (evaluateTriggerMarketPriceCondition none price spec.triggerPrice
        spec.triggerCondition (windowMode = "last" || windowMode = "custom_range") spec.maxPrice)
    | none => none

def boundaryStepKey (runId : ℤ) (spec : WsOpenPositionPriceNodeSpec) (windowMode : String)
    (q : WsQuote) (generation : ℤ) : String :=
  if spec.onceMode then
    wsPriceTriggerStepIdempotencyKey runId spec.nodeKey spec.triggerCondition q.price
      (q.ts.getD (timestampMillis q.now)) true spec.onceScopeMarket spec.marketSlug generation
  else
    let slug := spec.marketSlug.getD "unknown-market"
    s!"ws-window-open:{runId}:{spec.nodeKey}:{slug}:{windowMode}:{spec.tokenId}"

/-- A matched opening: start the confirmation timer, or pass the price-to-beat gate and
ask for the step. -/
def openBoundary (chrono : Chrono) (runId : ℤ) (spec : WsOpenPositionPriceNodeSpec)
    (windowMode : String) (diagnostics : Option CycleWindowEvalDiagnostics) (q : WsQuote)
    (mode : String) : Draft TargetOutcome := do
  let gate := triggerMarketPriceGateMode spec
  recordLastEval chrono spec diagnostics "matched" (some q.price) (some mode)
  if !spec.pairLockOnlyMonitor && isStandardGate gate && (marketPriceConfirmationMs spec).isSome then
    Draft.set spec.nodeKey (crossPendingAtKey spec.tokenId) (.string (chrono.toRfc3339 q.now))
    Draft.set spec.nodeKey (crossPendingPriceKey spec.tokenId) (jsonF64 q.price)
    Draft.set spec.nodeKey (crossPendingPrevKey spec.tokenId) .null
    return ⟨true, none⟩
  if (gate = some .ptbOnly || gate = some .standardAndPtb) && !q.ptbGatePassed then
    recordLastEval chrono spec diagnostics "ptb_gate_blocked" (some q.price) (some mode)
    return ⟨true, none⟩
  let generation := flowNodeReentryGeneration (← Draft.read) spec.nodeKey
  return ⟨true, some ⟨spec.nodeKey, spec.nodeType, mode,
    boundaryStepKey runId spec windowMode q generation⟩⟩

def processBoundary (chrono : Chrono) (runId : ℤ) (spec : WsOpenPositionPriceNodeSpec)
    (windowMode marker : String) (now : Instant) (quote : Option WsQuote) :
    Draft TargetOutcome := do
  let diagnostics := cycleWindowEvalDiagnostics spec windowMode now
  if spec.onceMode && tradeFlowMarketPriceOnceFiredForScope (← Draft.read) spec.nodeKey
      spec.onceScopeMarket spec.marketSlug then
    Draft.set spec.nodeKey (cycleWindowBoundaryStateKey spec) (.string marker)
    return ⟨true, none⟩
  match quote with
  | none =>
    recordLastEval chrono spec diagnostics "price_unavailable" none none
    return ⟨diagnostics.isSome, none⟩
  | some q =>
    Draft.set spec.nodeKey (cycleWindowBoundaryStateKey spec) (.string marker)
    recordPrice spec q.price
    match boundaryCondition spec windowMode q.price with
    | none => return ⟨true, none⟩
    | some (false, mode) =>
      let aboveMax := q.price ≥ spec.triggerPrice && !withinMax q.price spec.maxPrice
      recordLastEval chrono spec diagnostics (if aboveMax then "above_max" else "condition_not_met")
        (some q.price) (some mode)
      return ⟨true, none⟩
    | some (true, mode) => openBoundary chrono runId spec windowMode diagnostics q mode

/-- What the missed market check found: an earlier notice, a reason to skip, the outcome of
sending, or no run any more. -/
inductive MissedMarketReads where
  | alreadySent
  | skipped (reasonCode : String)
  | attempted (sent : Bool) (reasonCode : String)
  | runMissing

def maybeSendMissedMarketNoOrderNotification (chrono : Chrono) (spec : WsOpenPositionPriceNodeSpec)
    (windowEndAt now : Instant) (reads : MissedMarketReads) : Draft Bool := do
  match missedMarketNotificationMarker spec windowEndAt with
  | none => return false
  | some marker =>
    if missedMarketNotificationAlreadyMarked (← Draft.read) spec marker then return false
    let mark (status reasonCode : String) (sent : Bool) : Draft Bool := do
      Draft.set spec.nodeKey (missedMarketNotificationStateKey spec) (.object [
        ("marker", .string marker), ("status", .string status),
        ("reason_code", .string reasonCode), ("sent", .bool sent),
        ("updated_at", .string (chrono.toRfc3339 now))])
      return true
    match reads with
    | .alreadySent => mark "sent" "market_window_no_order" true
    | .skipped reasonCode => mark "skipped" reasonCode false
    | .attempted sent reasonCode => mark (if sent then "sent" else "attempted") reasonCode sent
    | .runMissing => return false

/-- The parent order a window-end sell is for. -/
structure SellParentOrder where
  id : ℤ
  tradeId : ℤ
  marketSlug : String
  tokenId : String
  outcomeLabel : String

/-- The database reads of a window-end sell; `none` for a failed lookup of the output. -/
structure SellReads where
  latestPlaceOrderOutput : String → Option (Option Value)
  builderOrder : ℤ → Option SellParentOrder
  parentQty : ℤ → Option ℚ
  enqueueOk : String → Bool

def cycleWindowEndAutoSellBuilderOrderId (output : Value) (expectedMarketSlug : Option String) :
    Option ℤ :=
  let outputSlug := ((output.get "market_slug").bind Value.asStr).orElse fun _ =>
    (output.get "marketSlug").bind Value.asStr
  if expectedMarketSlug.any fun slug => outputSlug ≠ some slug then none
  else ((output.get "builderOrderId").bind Value.asI64).orElse fun _ =>
    (output.get "builder_order_id").bind Value.asI64

/-- The queue request of a window-end sell. -/
structure SellRequest where
  nodeKey : String
  nodeType : String
  side : String
  parentBuilderOrderId : ℤ
  sourceTradeId : ℤ
  marketSlug : String
  tokenId : String
  outcomeLabel : String
  idempotencyKey : String

def windowEndSellIdempotencyKey (runId : ℤ) (spec : WsOpenPositionPriceNodeSpec)
    (windowEndAt : Instant) : String :=
  s!"window_end_sell:{runId}:{spec.tokenId}:{timestamp windowEndAt}"

inductive SellDecision where
  | queryFailed
  | skip (reason : String)
  | enqueue (request : SellRequest)

def windowEndSellDecision (runId : ℤ) (reads : SellReads) (spec : WsOpenPositionPriceNodeSpec)
    (windowEndAt : Instant) : SellDecision :=
  match reads.latestPlaceOrderOutput spec.nodeKey with
  | none => .queryFailed
  | some none => .skip "no_completed_buy_output"
  | some (some output) =>
    match cycleWindowEndAutoSellBuilderOrderId output spec.marketSlug with
    | none => .skip "no_matching_builder_order"
    | some orderId =>
      match reads.builderOrder orderId with
      | none => .skip "missing_parent_builder_order"
      | some parent =>
        if (reads.parentQty parent.id).getD 0 ≤ tradeBuilderExitQtyTolerance then
          .skip "already_closed"
        else .enqueue {
          nodeKey := spec.nodeKey, nodeType := "action.place_order", side := "sell"
          parentBuilderOrderId := parent.id, sourceTradeId := parent.tradeId
          marketSlug := parent.marketSlug, tokenId := parent.tokenId
          outcomeLabel := parent.outcomeLabel
          idempotencyKey := windowEndSellIdempotencyKey runId spec windowEndAt }

structure SellOutcome where
  dirty : Bool
  request : Option SellRequest

def processWindowEndSell (runId : ℤ) (reads : SellReads) (spec : WsOpenPositionPriceNodeSpec)
    (windowEndAt : Instant) : Draft SellOutcome := do
  let mark (fields : Fields) : Draft Unit :=
    Draft.set spec.nodeKey (cycleWindowEndSellStateKey spec) (.object fields)
  match windowEndSellDecision runId reads spec windowEndAt with
  | .queryFailed => return ⟨false, none⟩
  | .skip reason =>
    mark [("status", .string "skipped"), ("reason", .string reason)]
    return ⟨true, none⟩
  | .enqueue request =>
    if reads.enqueueOk request.idempotencyKey then
      mark [("status", .string "enqueued"), ("idempotency_key", .string request.idempotencyKey)]
      return ⟨true, some request⟩
    else return ⟨false, none⟩

/-- What a timer pass reads besides the cached run, by node index. -/
structure TimerReads where
  now : Instant
  quote : ℕ → Option WsQuote
  missedMarket : ℕ → MissedMarketReads
  sell : SellReads

structure TimerOutcome where
  dirty : Bool
  steps : List StepRequest
  sells : List SellRequest

def indexed (nodes : List WsOpenPositionPriceNodeSpec) : List (ℕ × WsOpenPositionPriceNodeSpec) :=
  (List.range nodes.length).zip nodes

def processDueBoundaries (chrono : Chrono) (runId : ℤ) (reads : TimerReads) :
    List (ℕ × WsOpenPositionPriceNodeSpec × String × String) → Draft (Bool × List StepRequest)
  | [] => pure (false, [])
  | (i, spec, mode, marker) :: rest => do
    let outcome ← processBoundary chrono runId spec mode marker reads.now (reads.quote i)
    let (dirty, steps) ← processDueBoundaries chrono runId reads rest
    return (outcome.dirty || dirty, outcome.step.toList ++ steps)

def processDueNotifications (chrono : Chrono) (reads : TimerReads) :
    List (ℕ × WsOpenPositionPriceNodeSpec × Instant) → Draft Bool
  | [] => pure false
  | (i, spec, endAt) :: rest => do
    let marked ← maybeSendMissedMarketNoOrderNotification chrono spec endAt reads.now
      (reads.missedMarket i)
    let dirty ← processDueNotifications chrono reads rest
    return marked || dirty

def processDueSells (runId : ℤ) (reads : SellReads) :
    List (WsOpenPositionPriceNodeSpec × Instant) → Draft (Bool × List SellRequest)
  | [] => pure (false, [])
  | (spec, endAt) :: rest => do
    let outcome ← processWindowEndSell runId reads spec endAt
    let (dirty, sells) ← processDueSells runId reads rest
    return (outcome.dirty || dirty, outcome.request.toList ++ sells)

def dueBoundaries (spec : WsOpenPositionPriceRunSpec) (now : Instant) :
    List (ℕ × WsOpenPositionPriceNodeSpec × String × String) :=
  (indexed spec.nodes).filterMap fun (i, node) =>
    (cycleWindowBoundaryDueTarget spec.context node now).map fun (mode, marker) =>
      (i, node, mode, marker)

def dueMissedMarketNotifications (spec : WsOpenPositionPriceRunSpec) (now : Instant) :
    List (ℕ × WsOpenPositionPriceNodeSpec × Instant) :=
  (indexed spec.nodes).filterMap fun (i, node) =>
    (missedMarketNotificationDueTarget spec.context node now).map fun endAt => (i, node, endAt)

def dueWindowEndSells (spec : WsOpenPositionPriceRunSpec) (now : Instant) :
    List (WsOpenPositionPriceNodeSpec × Instant) :=
  spec.nodes.filterMap fun node =>
    (cycleWindowEndSellDueTarget spec.context node now).map fun endAt => (node, endAt)

/-- One timer pass over the cached run: the due targets are fixed before any is processed. -/
def processTradeFlowTriggerMarketPriceTimers (chrono : Chrono)
    (spec : WsOpenPositionPriceRunSpec) (reads : TimerReads) : Draft TimerOutcome := do
  let boundaries := dueBoundaries spec reads.now
  let notifications := dueMissedMarketNotifications spec reads.now
  let sells := dueWindowEndSells spec reads.now
  let (dirty₁, steps) ← processDueBoundaries chrono spec.runId reads boundaries
  let dirty₂ ← processDueNotifications chrono reads notifications
  let (dirty₃, requests) ← processDueSells spec.runId reads.sell sells
  return ⟨dirty₁ || dirty₂ || dirty₃, steps, requests⟩

end PolymarketBot.Flow
