import Mathlib.Data.List.Nodup
import PolymarketBot.Flow.CycleWindowTimers

/-! The sell at the end of a window, across the timer that queues it, the step queue and
the processor that dispatches a queued step. -/

namespace PolymarketBot.Flow
open Builder (tradeBuilderExitQtyTolerance)

structure TradeFlowNode where
  key : String
  nodeType : String

/-- A published graph; node keys are unique within a version. -/
structure TradeFlowGraph where
  nodes : List TradeFlowNode
  keys_nodup : (nodes.map TradeFlowNode.key).Nodup

def TradeFlowGraph.find (g : TradeFlowGraph) (key : String) : Option TradeFlowNode :=
  g.nodes.find? fun node => node.key = key

theorem TradeFlowGraph.type_unique (g : TradeFlowGraph) {a b : TradeFlowNode} (ha : a ∈ g.nodes)
    (hb : b ∈ g.nodes) (h : a.key = b.key) : a.nodeType = b.nodeType := by
  rw [List.inj_on_of_nodup_map g.keys_nodup ha hb h]

theorem TradeFlowGraph.find_of_mem (g : TradeFlowGraph) {node : TradeFlowNode}
    (h : node ∈ g.nodes) : (g.find node.key).map TradeFlowNode.nodeType = some node.nodeType := by
  cases hf : g.find node.key with
  | none =>
    have := List.find?_eq_none.mp hf node h
    simp at this
  | some found =>
    have hk : found.key = node.key := by simpa using List.find?_some hf
    simp [g.type_unique (List.mem_of_find?_eq_some hf) h hk]

def FromGraph (g : TradeFlowGraph) (nodeKey nodeType : String) : Prop :=
  ∃ node ∈ g.nodes, node.key = nodeKey ∧ node.nodeType = nodeType

/-- A run spec whose node specs were built from the nodes of the graph. -/
structure BuiltRunSpec (g : TradeFlowGraph) where
  spec : WsOpenPositionPriceRunSpec
  built : ∀ node ∈ spec.nodes, FromGraph g node.nodeKey node.nodeType

inductive StepResult where
  | completed (executor : String) (output : Value) (endedAt : Instant)
  | failed

/-- A row of the step queue; `sell` is the input of a window-end sell. -/
structure FlowStepRow where
  nodeKey : String
  nodeType : String
  idempotencyKey : Option String
  sell : Option SellRequest
  result : Option StepResult

structure FlowState (g : TradeFlowGraph) where
  cached : BuiltRunSpec g
  rows : List FlowStepRow
  orders : ℤ → Option SellParentOrder
  parentQty : ℤ → Option ℚ

/-- `enqueue_trade_flow_step`: a key that is already queued for the run adds nothing. -/
def enqueueTradeFlowStep (rows : List FlowStepRow) (row : FlowStepRow) : List FlowStepRow :=
  if row.idempotencyKey.isSome && rows.any fun r => r.idempotencyKey = row.idempotencyKey then rows
  else rows ++ [row]

def isCompletedPlaceOrder (nodeKey : String) (row : FlowStepRow) : Option (Instant × Value) :=
  match row.result with
  | some (.completed _ output endedAt) =>
    if row.nodeKey = nodeKey && row.nodeType = "action.place_order" &&
        ((output.get "builder_order_id").isSome || (output.get "builderOrderId").isSome) then
      some (endedAt, output)
    else none
  | _ => none

def findLatestCompletedPlaceOrderOutputForNode (rows : List FlowStepRow) (nodeKey : String) :
    Option Value :=
  let later (best : Option (Instant × Value)) (row : Instant × Value) : Option (Instant × Value) :=
    match best with
    | some b => if row.1 > b.1 then some row else some b
    | none => some row
  ((rows.filterMap (isCompletedPlaceOrder nodeKey)).foldl later none).map Prod.snd

/-- The executor `execute_trade_flow_node` picks: by the type of the graph node that the
step's node key names, whatever type the step row carries. -/
def dispatch (g : TradeFlowGraph) (row : FlowStepRow) : Option String :=
  (g.find row.nodeKey).map TradeFlowNode.nodeType

def sellRow (request : SellRequest) : FlowStepRow :=
  ⟨request.nodeKey, request.nodeType, some request.idempotencyKey, some request, none⟩

/-- What a timer pass meets outside the rows: prices, notices, and database failures. -/
structure TimerWorld where
  quote : ℕ → Option WsQuote
  missedMarket : ℕ → MissedMarketReads
  lookupFails : String → Bool
  enqueueFails : String → Bool

inductive FlowEvent (g : TradeFlowGraph) where
  | enqueueNode (node : TradeFlowNode) (mem : node ∈ g.nodes) (idempotencyKey : Option String)
  | process (i : ℕ) (output : Option Value) (endedAt : Instant)
  | timerPass (now : Instant) (world : TimerWorld)
  | refresh (spec : BuiltRunSpec g)
  | ordersChanged (orders : ℤ → Option SellParentOrder) (parentQty : ℤ → Option ℚ)

variable {g : TradeFlowGraph} (chrono : Chrono)

def timerReads (s : FlowState g) (now : Instant) (world : TimerWorld) : TimerReads where
  now := now
  quote := world.quote
  missedMarket := world.missedMarket
  sell := {
    latestPlaceOrderOutput := fun nodeKey =>
      if world.lookupFails nodeKey then none
      else some (findLatestCompletedPlaceOrderOutputForNode s.rows nodeKey)
    builderOrder := s.orders
    parentQty := s.parentQty
    enqueueOk := fun key => !world.enqueueFails key }

def timerResult (s : FlowState g) (now : Instant) (world : TimerWorld) :
    TimerOutcome × List ContextEdit :=
  processTradeFlowTriggerMarketPriceTimers chrono s.cached.spec (timerReads s now world)
    s.cached.spec.context

def processRow (g : TradeFlowGraph) (row : FlowStepRow) (output : Option Value)
    (endedAt : Instant) : FlowStepRow :=
  match row.result, dispatch g row, output with
  | none, some executor, some v => { row with result := some (.completed executor v endedAt) }
  | none, _, _ => { row with result := some .failed }
  | some _, _, _ => row

def flowStep (s : FlowState g) : FlowEvent g → FlowState g
  | .enqueueNode node _ key =>
    { s with rows := enqueueTradeFlowStep s.rows ⟨node.key, node.nodeType, key, none, none⟩ }
  | .process i output endedAt =>
    { s with rows := s.rows.modify i fun row => processRow g row output endedAt }
  | .timerPass now world =>
    let result := timerResult chrono s now world
    { s with
      cached := ⟨{ s.cached.spec with context := applyEdits result.2 s.cached.spec.context },
        s.cached.built⟩
      rows := result.1.sells.foldl (fun rows request => enqueueTradeFlowStep rows (sellRow request))
        s.rows }
  | .refresh spec => { s with cached := spec }
  | .ordersChanged orders parentQty => { s with orders, parentQty }

def flowRun (s : FlowState g) (events : List (FlowEvent g)) : FlowState g :=
  events.foldl (flowStep chrono) s

def FlowState.start (cached : BuiltRunSpec g) : FlowState g := ⟨cached, [], fun _ => none, fun _ => none⟩

/-- The row is a completed place-order step of the run that created the parent order. -/
def FlowStepRow.bought (row : FlowStepRow) (marketSlug : Option String) (orderId : ℤ) : Prop :=
  ∃ output endedAt, row.result = some (.completed "action.place_order" output endedAt) ∧
    cycleWindowEndAutoSellBuilderOrderId output marketSlug = some orderId

/-- The parent order was bought for a token of a spec that is due for its window-end sell,
and more than the tolerance of it is still open. -/
def DueOpenParent (s : FlowState g) (spec : WsOpenPositionPriceNodeSpec) (now : Instant)
    (parent : SellParentOrder) : Prop :=
  spec ∈ s.cached.spec.nodes ∧
  (cycleWindowEndSellDueTarget s.cached.spec.context spec now).isSome ∧
  (∃ row ∈ s.rows, row.bought spec.marketSlug parent.id) ∧
  s.orders parent.id = some parent ∧ parent.tokenId = spec.tokenId ∧
  ∃ qty, s.parentQty parent.id = some qty ∧ tradeBuilderExitQtyTolerance < qty

def FlowStepRow.sells (row : FlowStepRow) (parent : SellParentOrder) : Bool :=
  row.sell.any fun request => request.parentBuilderOrderId = parent.id

/-- One window-end sell step exists for the parent, and if it ran, it ran as a
place-order action on the sell side. -/
def SoldExactlyOnce (s : FlowState g) (parent : SellParentOrder) : Prop :=
  (s.rows.filter fun row => row.sells parent).length = 1 ∧
  ∀ row ∈ s.rows, row.sells parent = true → ∀ executor output endedAt,
    row.result = some (.completed executor output endedAt) →
      executor = "action.place_order" ∧ row.sell.map SellRequest.side = some "sell"

/-- Every parent that was due and open at a timer pass of the run is sold exactly once. -/
def WindowEndSellLaw (cached : BuiltRunSpec g) (events : List (FlowEvent g)) : Prop :=
  ∀ earlier now world later, events = earlier ++ .timerPass now world :: later →
    ∀ spec parent, DueOpenParent (flowRun chrono (.start cached) earlier) spec now parent →
      SoldExactlyOnce (flowRun chrono (.start cached) events) parent

/-- No parent is due and open at any timer pass of the run. -/
def NothingToSell (cached : BuiltRunSpec g) (events : List (FlowEvent g)) : Prop :=
  ∀ earlier now world later, events = earlier ++ .timerPass now world :: later →
    ∀ spec parent, ¬ DueOpenParent (flowRun chrono (.start cached) earlier) spec now parent

/-- Every row carries the type of its graph node, and none is a window-end sell. -/
def PlainRows (s : FlowState g) : Prop :=
  ∀ row ∈ s.rows, FromGraph g row.nodeKey row.nodeType ∧ row.sell = none

theorem due_type {context : Value} {spec : WsOpenPositionPriceNodeSpec} {now endAt : Instant}
    (h : cycleWindowEndSellDueTarget context spec now = some endAt) :
    spec.nodeType = "trigger.market_price" := by
  by_contra hn
  simp [cycleWindowEndSellDueTarget, cycleWindowBounds_otherType hn] at h

theorem latest_output_none {s : FlowState g} (h : PlainRows s) {nodeKey : String}
    (hk : FromGraph g nodeKey "trigger.market_price") :
    findLatestCompletedPlaceOrderOutputForNode s.rows nodeKey = none := by
  have hrows : s.rows.filterMap (isCompletedPlaceOrder nodeKey) = [] := by
    rw [List.filterMap_eq_nil_iff]
    intro row hrow
    obtain ⟨⟨node, hnode, hkey, htype⟩, -⟩ := h row hrow
    obtain ⟨trigger, htrigger, htkey, httype⟩ := hk
    unfold isCompletedPlaceOrder
    split
    · rw [if_neg]
      intro hc
      simp only [Bool.and_eq_true, decide_eq_true_eq] at hc
      have hsame := g.type_unique hnode htrigger (by rw [hkey, htkey, hc.1.1])
      rw [htype, httype, hc.1.2] at hsame
      exact absurd hsame (by decide)
    · rfl
  simp [findLatestCompletedPlaceOrderOutputForNode, hrows]

theorem no_request {reads : SellReads} {spec : WsOpenPositionPriceNodeSpec} (runId : ℤ)
    (endAt : Instant) (h : (reads.latestPlaceOrderOutput spec.nodeKey).getD none = none)
    (context : Value) : (processWindowEndSell runId reads spec endAt context).1.request = none := by
  cases ho : reads.latestPlaceOrderOutput spec.nodeKey with
  | none => simp [processWindowEndSell, windowEndSellDecision, ho, pure]
  | some output =>
    simp only [ho, Option.getD_some] at h
    simp [processWindowEndSell, windowEndSellDecision, ho, h, pure, bind, Draft.bind]

theorem no_requests (runId : ℤ) {reads : SellReads}
    {due : List (WsOpenPositionPriceNodeSpec × Instant)}
    (h : ∀ target ∈ due, (reads.latestPlaceOrderOutput target.1.nodeKey).getD none = none)
    (context : Value) : (processDueSells runId reads due context).1.2 = [] := by
  induction due generalizing context with
  | nil => rfl
  | cons target rest ih =>
    obtain ⟨spec, endAt⟩ := target
    have hfirst := no_request runId endAt (h (spec, endAt) (by simp)) context
    have hrest := ih (fun t ht => h t (by simp [ht]))
    simp only [processDueSells, bind, Draft.bind, pure]
    simp [hfirst, hrest]

theorem timer_sells_nil {s : FlowState g} (h : PlainRows s) (now : Instant) (world : TimerWorld) :
    (timerResult chrono s now world).1.sells = [] := by
  have hdue : ∀ target ∈ dueWindowEndSells s.cached.spec now,
      ((timerReads s now world).sell.latestPlaceOrderOutput target.1.nodeKey).getD none = none := by
    intro target ht
    simp only [dueWindowEndSells, List.mem_filterMap, Option.map_eq_some_iff] at ht
    obtain ⟨spec, hspec, endAt, hend, rfl⟩ := ht
    have hk : FromGraph g spec.nodeKey "trigger.market_price" := by
      have := s.cached.built spec hspec
      rwa [due_type hend] at this
    simp only [timerReads]
    split
    · rfl
    · simp [latest_output_none h hk]
  have hnil := no_requests s.cached.spec.runId hdue
  simp only [timerResult, processTradeFlowTriggerMarketPriceTimers, bind, Draft.bind, pure]
  exact hnil _

theorem enqueue_mem {rows : List FlowStepRow} {row r : FlowStepRow}
    (h : r ∈ enqueueTradeFlowStep rows row) : r ∈ rows ∨ r = row := by
  unfold enqueueTradeFlowStep at h
  split at h
  · exact Or.inl h
  · simpa using h

theorem processRow_same (g : TradeFlowGraph) (row : FlowStepRow) (output : Option Value) (endedAt : Instant) :
    (processRow g row output endedAt).nodeKey = row.nodeKey ∧
    (processRow g row output endedAt).nodeType = row.nodeType ∧
    (processRow g row output endedAt).sell = row.sell := by
  unfold processRow
  split <;> simp

theorem plainRows_step {s : FlowState g} (h : PlainRows s) (e : FlowEvent g) :
    PlainRows (flowStep chrono s e) := by
  cases e with
  | enqueueNode node mem key =>
    intro row hrow
    rcases enqueue_mem hrow with hrow | rfl
    · exact h row hrow
    · exact ⟨⟨node, mem, rfl, rfl⟩, rfl⟩
  | process i output endedAt =>
    intro row hrow
    obtain ⟨j, hj, hrow⟩ := List.mem_iff_getElem.mp hrow
    have hj' : j < s.rows.length := by simpa [flowStep] using hj
    have hold := h _ (List.getElem_mem hj')
    simp only [flowStep, List.getElem_modify] at hrow
    split at hrow
    · subst hrow
      obtain ⟨h1, h2, h3⟩ := processRow_same g s.rows[j] output endedAt
      rw [h1, h2, h3]
      exact hold
    · subst hrow
      exact hold
  | timerPass now world =>
    have hnil := timer_sells_nil chrono h now world
    simp only [PlainRows, flowStep, hnil, List.foldl_nil]
    exact h
  | refresh spec => exact h
  | ordersChanged orders parentQty => exact h

theorem plainRows_run {s : FlowState g} (h : PlainRows s) (events : List (FlowEvent g)) :
    PlainRows (flowRun chrono s events) := by
  induction events generalizing s with
  | nil => exact h
  | cons e events ih => exact ih (plainRows_step chrono h e)

theorem not_sold {s : FlowState g} (h : PlainRows s) (parent : SellParentOrder) :
    ¬ SoldExactlyOnce s parent := by
  rintro ⟨hone, -⟩
  have hnil : s.rows.filter (fun row => row.sells parent) = [] := by
    rw [List.filter_eq_nil_iff]
    intro row hrow
    simp [FlowStepRow.sells, (h row hrow).2]
  simp [hnil] at hone

theorem sell_dispatches_to_trigger (cached : BuiltRunSpec g) {spec : WsOpenPositionPriceNodeSpec}
    (hspec : spec ∈ cached.spec.nodes) {runId : ℤ} {reads : SellReads} {endAt : Instant}
    {request : SellRequest} (h : windowEndSellDecision runId reads spec endAt = .enqueue request) :
    request.nodeType = "action.place_order" ∧ dispatch g (sellRow request) = some spec.nodeType := by
  obtain ⟨node, hnode, hkey, htype⟩ := cached.built spec hspec
  have hr : request.nodeKey = spec.nodeKey ∧ request.nodeType = "action.place_order" := by
    unfold windowEndSellDecision at h
    split at h <;> try contradiction
    split at h <;> try contradiction
    split at h <;> try contradiction
    split at h <;> try contradiction
    cases h
    exact ⟨rfl, rfl⟩
  refine ⟨hr.2, ?_⟩
  simp only [dispatch, sellRow, hr.1]
  rw [← hkey, g.find_of_mem hnode, htype]

/-- The parent is looked up per node while targets and keys are per token: every due token
of the node asks for a sell of the same parent, each under a key of its own. -/
theorem decision_per_token {runId : ℤ} {reads : SellReads}
    {spec other : WsOpenPositionPriceNodeSpec} {endAt : Instant} {request : SellRequest}
    (hk : other.nodeKey = spec.nodeKey) (hs : other.marketSlug = spec.marketSlug)
    (h : windowEndSellDecision runId reads spec endAt = .enqueue request) :
    windowEndSellDecision runId reads other endAt =
      .enqueue { request with idempotencyKey := windowEndSellIdempotencyKey runId other endAt } := by
  unfold windowEndSellDecision at h ⊢
  rw [hk, hs]
  split at h <;> try contradiction
  split at h <;> try contradiction
  split at h <;> try contradiction
  split at h <;> try contradiction
  cases h
  simp_all

/-- The window-end sell works exactly in the runs that have nothing to sell. -/
theorem window_end_sell_law_iff (cached : BuiltRunSpec g) (events : List (FlowEvent g)) :
    WindowEndSellLaw chrono cached events ↔ NothingToSell chrono cached events := by
  have hplain : PlainRows (flowRun chrono (.start cached) events) :=
    plainRows_run chrono (by simp [PlainRows, FlowState.start]) events
  constructor
  · intro h earlier now world later he spec parent hdue
    exact not_sold hplain parent (h earlier now world later he spec parent hdue)
  · intro h earlier now world later he spec parent hdue
    exact absurd hdue (h earlier now world later he spec parent)

def entryAndBuyGraph : TradeFlowGraph :=
  ⟨[⟨"entry", "trigger.market_price"⟩, ⟨"buy", "action.place_order"⟩], by decide⟩

def windowEndSpec : WsOpenPositionPriceNodeSpec where
  nodeKey := "entry"
  nodeType := "trigger.market_price"
  onceMode := true
  onceScopeMarket := true
  pairLockOnlyMonitor := false
  autoScope := true
  priceMode := .bestAsk
  marketSlug := some "btc-updown-5m-1767225600"
  tokenId := "up"
  outcomeLabel := "Up"
  triggerCondition := "cross_above"
  triggerPrice := 1 / 2
  maxPrice := none
  priceToBeatTriggerEnabled := false
  confirmationMs := none
  cycleWindowMode := some "custom_range"
  cycleWindowSecs := none
  cycleWindowStartSec := some 180
  cycleWindowEndSec := some 300
  autoSellOnWindowEnd := true

def firedContext : Value :=
  .object [("nodeState", .object [("entry", .object [("once_fired", .bool true),
    ("once_fired_market_slug", .string "btc-updown-5m-1767225600")])])]

def windowEndRunSpec (context : Value) : BuiltRunSpec entryAndBuyGraph where
  spec := ⟨7, context, [windowEndSpec], false⟩
  built := by
    intro node hnode
    obtain rfl := List.mem_singleton.mp hnode
    exact ⟨⟨"entry", "trigger.market_price"⟩, by simp [entryAndBuyGraph], rfl, rfl⟩

def boughtOrder : SellParentOrder := ⟨41, 9, "btc-updown-5m-1767225600", "up", "Up"⟩

/-- The trigger fires, the buy step completes as order 41, and the order is still open. -/
def buyEvents : List (FlowEvent entryAndBuyGraph) :=
  [.enqueueNode ⟨"buy", "action.place_order"⟩ (by simp [entryAndBuyGraph]) none,
    .process 0 (some (.object [("builder_order_id", jsonI64 41),
      ("market_slug", .string "btc-updown-5m-1767225600")])) 1767225800000000000,
    .refresh (windowEndRunSpec firedContext),
    .ordersChanged (fun id => if id = 41 then some boughtOrder else none)
      (fun id => if id = 41 then some 10 else none)]

def quietTimerWorld : TimerWorld :=
  ⟨fun _ => none, fun _ => .runMissing, fun _ => false, fun _ => false⟩

theorem bought_order_not_sold :
    ¬ WindowEndSellLaw idleChrono (windowEndRunSpec (.object []))
      (buyEvents ++ [.timerPass 1767225901000000000 quietTimerWorld]) := by
  intro law
  have hdue : DueOpenParent (flowRun idleChrono (.start (windowEndRunSpec (.object []))) buyEvents)
      windowEndSpec 1767225901000000000 boughtOrder := by
    refine ⟨List.mem_singleton_self _, by decide +kernel, ?_, rfl, rfl, 10, rfl, by decide +kernel⟩
    refine ⟨_, List.mem_singleton_self _, _, _, rfl, ?_⟩
    decide +kernel
  have hsold := law buyEvents 1767225901000000000 quietTimerWorld [] rfl windowEndSpec boughtOrder hdue
  have hlength := hsold.1
  revert hlength
  decide +kernel

end PolymarketBot.Flow
