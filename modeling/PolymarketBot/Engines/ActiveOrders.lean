import PolymarketBot.Builder.ListedReconcile
import PolymarketBot.Lib.Runs

/-! The active-order queries of the strategy engines next to the processing passes: when a query
that reports none leaves no earlier order of its node and market that can still be submitted or
filled. -/

namespace PolymarketBot.Engines
open Lib Runs Prog Builder

/-- An order of the table: the columns the queries compare, the config of its action node once
the node snapshot is written (the text of each entry), and the rest of the pass that runs on it
since `now`. -/
structure OrderRecord where
  userId : ℤ
  originFlowDefinitionId : Option ℤ
  originFlowNodeKey : Option String
  marketSlug : String
  outcomeLabel : String := ""
  createdAt : ℤ := 0
  config : Option (List (String × String)) := none
  world : World
  now : ℤ := 0
  pass : Job Unit := .done ()

abbrev OrderTable := List OrderRecord

namespace OrderRecord

def row (record : OrderRecord) : TradeBuilderOrder := record.world.order

def configText (record : OrderRecord) (entry : String) : Option String :=
  record.config.bind (·.lookup entry)

def marked (record : OrderRecord) (orderMarker rootNodeKeyEntry rootFlowNodeKey : String) : Bool :=
  record.configText orderMarker == some "true" &&
    record.configText rootNodeKeyEntry == some rootFlowNodeKey

def idle (record : OrderRecord) : Bool :=
  match record.pass with
  | .call _ _ => false
  | _ => true

end OrderRecord

/-! ### The queries -/

/-- What the queries compare besides the status and the node snapshot. -/
def ofNode (userId : ℤ) (flowDefinitionId : Option ℤ) (rootFlowNodeKey marketSlug : String)
    (record : OrderRecord) : Bool :=
  record.userId == userId && record.originFlowDefinitionId == flowDefinitionId &&
    record.originFlowNodeKey == some rootFlowNodeKey && record.marketSlug == marketSlug

def hasActiveMarkedOrder (orderMarker rootNodeKeyEntry : String) (userId : ℤ)
    (flowDefinitionId : Option ℤ) (rootFlowNodeKey marketSlug : String) (orders : OrderTable) :
    Bool :=
  orders.any fun record =>
    ofNode userId flowDefinitionId rootFlowNodeKey marketSlug record &&
      (isActiveOrderStatus record.row.status &&
        record.marked orderMarker rootNodeKeyEntry rootFlowNodeKey)

def hasActiveTradeBuilderConfidenceLadderOrder (userId : ℤ) (flowDefinitionId : Option ℤ)
    (rootFlowNodeKey marketSlug : String) (orders : OrderTable) : Bool :=
  hasActiveMarkedOrder "confidenceLadderOrder" "confidenceLadderRootNodeKey" userId
    flowDefinitionId rootFlowNodeKey marketSlug orders

def hasActiveTradeBuilderAvgReboundPairlockRescueOrder (userId : ℤ) (flowDefinitionId : Option ℤ)
    (rootFlowNodeKey marketSlug : String) (orders : OrderTable) : Bool :=
  hasActiveMarkedOrder "avgReboundPairlockRescueOrder" "avgReboundPairlockRescueRootNodeKey" userId
    flowDefinitionId rootFlowNodeKey marketSlug orders

/-- The definition id is compared with "=": a row without one never matches. -/
def hasActiveTradeBuilderRevengeFlipOrder (userId flowDefinitionId : ℤ)
    (rootFlowNodeKey marketSlug : String) (orders : OrderTable) : Bool :=
  hasActiveMarkedOrder "revengeFlipOrder" "revengeFlipRootNodeKey" userId (some flowDefinitionId)
    rootFlowNodeKey marketSlug orders

structure TradeBuilderPositiveQuantityFlipGridActiveBuy where
  orderId : ℤ
  status : OrderStatus
  gridSide : String
  outcomeLabel : String
  sizeUsdc : ℚ
  targetQty : ℚ
  createdAt : ℤ
  deriving DecidableEq, Repr

/-- What the flip grid's query asks of a row and its node snapshot besides the status. -/
def OrderRecord.gridBuy (record : OrderRecord) (rootFlowNodeKey : String) : Bool :=
  record.row.side == .buy &&
    (record.marked "positiveQuantityFlipGridOrder" "positiveQuantityFlipGridRootNodeKey"
      rootFlowNodeKey &&
      (record.configText "positiveQuantityFlipGridSide").any fun side =>
        side == "up" || side == "down")

def OrderRecord.activeBuy (record : OrderRecord) :
    TradeBuilderPositiveQuantityFlipGridActiveBuy where
  orderId := record.row.id
  status := record.row.status
  gridSide := (record.configText "positiveQuantityFlipGridSide").getD ""
  outcomeLabel := record.outcomeLabel
  sizeUsdc := record.row.sizeUsdc
  targetQty := record.row.targetQty.getD 0
  createdAt := record.createdAt

def createdBefore (a b : OrderRecord) : Bool :=
  a.createdAt < b.createdAt || (a.createdAt == b.createdAt && a.row.id ≤ b.row.id)

def listActivePositiveQuantityFlipGridBuys (userId : ℤ) (flowDefinitionId : Option ℤ)
    (rootFlowNodeKey marketSlug : String) (orders : OrderTable) :
    List TradeBuilderPositiveQuantityFlipGridActiveBuy :=
  ((orders.filter fun record =>
    ofNode userId flowDefinitionId rootFlowNodeKey marketSlug record &&
      (isActiveOrderStatus record.row.status && record.gridBuy rootFlowNodeKey)).mergeSort
    createdBefore).map OrderRecord.activeBuy

/-- The strategy engines that take a decision only when their query reports none. -/
inductive Engine | confidenceLadder | avgReboundPairlockRescue | revengeFlip
  | positiveQuantityFlipGrid
  deriving DecidableEq, Repr

/-- A node of a flow in a market; every engine passes the definition id of its run. -/
structure NodeMarket where
  userId : ℤ
  flowDefinitionId : ℤ
  rootFlowNodeKey : String
  marketSlug : String
  deriving DecidableEq, Repr

def NodeMarket.has (node : NodeMarket) (record : OrderRecord) : Bool :=
  ofNode node.userId (some node.flowDefinitionId) node.rootFlowNodeKey node.marketSlug record

/-- The query of the engine for its node and market reports no active order. -/
def Engine.reportsNone (engine : Engine) (node : NodeMarket) (orders : OrderTable) : Bool :=
  match engine with
  | confidenceLadder =>
    !hasActiveTradeBuilderConfidenceLadderOrder node.userId (some node.flowDefinitionId)
      node.rootFlowNodeKey node.marketSlug orders
  | avgReboundPairlockRescue =>
    !hasActiveTradeBuilderAvgReboundPairlockRescueOrder node.userId (some node.flowDefinitionId)
      node.rootFlowNodeKey node.marketSlug orders
  | revengeFlip =>
    !hasActiveTradeBuilderRevengeFlipOrder node.userId node.flowDefinitionId
      node.rootFlowNodeKey node.marketSlug orders
  | positiveQuantityFlipGrid =>
    (listActivePositiveQuantityFlipGridBuys node.userId (some node.flowDefinitionId)
      node.rootFlowNodeKey node.marketSlug orders).isEmpty

/-- The query of the engine would list this record of the node in an active status. -/
def Engine.sees (engine : Engine) (node : NodeMarket) (record : OrderRecord) : Bool :=
  match engine with
  | confidenceLadder =>
    record.marked "confidenceLadderOrder" "confidenceLadderRootNodeKey" node.rootFlowNodeKey
  | avgReboundPairlockRescue =>
    record.marked "avgReboundPairlockRescueOrder" "avgReboundPairlockRescueRootNodeKey"
      node.rootFlowNodeKey
  | revengeFlip => record.marked "revengeFlipOrder" "revengeFlipRootNodeKey" node.rootFlowNodeKey
  | positiveQuantityFlipGrid => record.gridBuy node.rootFlowNodeKey

theorem unlisted_of_reportsNone {engine : Engine} {node : NodeMarket} {orders : OrderTable}
    (h : engine.reportsNone node orders = true) {record : OrderRecord} (hmem : record ∈ orders)
    (hnode : node.has record = true) (hsees : engine.sees node record = true) :
    isActiveOrderStatus record.row.status = false := by
  have hnone : ∀ marker entry : String,
      (!hasActiveMarkedOrder marker entry node.userId (some node.flowDefinitionId)
        node.rootFlowNodeKey node.marketSlug orders) = true →
      record.marked marker entry node.rootFlowNodeKey = true →
      isActiveOrderStatus record.row.status = false := by
    intro marker entry hquery hmarked
    simp only [hasActiveMarkedOrder, Bool.not_eq_true', List.any_eq_false] at hquery
    have hrecord := hquery record hmem
    rw [NodeMarket.has] at hnode
    simpa [hnode, hmarked] using hrecord
  cases engine with
  | confidenceLadder => exact hnone _ _ h hsees
  | avgReboundPairlockRescue => exact hnone _ _ h hsees
  | revengeFlip => exact hnone _ _ h hsees
  | positiveQuantityFlipGrid =>
    simp only [Engine.reportsNone, listActivePositiveQuantityFlipGridBuys, List.isEmpty_iff,
      List.map_eq_nil_iff] at h
    by_contra hlisted
    refine List.eq_nil_iff_forall_not_mem.mp h record (List.mem_mergeSort.mpr ?_)
    refine List.mem_filter.mpr ⟨hmem, ?_⟩
    rw [NodeMarket.has] at hnode
    rw [Engine.sees] at hsees
    simp [hnode, hsees, Bool.not_eq_false _ ▸ hlisted]

/-! ### Runs -/

inductive PassKind | housekeeping | direct
  deriving DecidableEq, Repr

def PassKind.program : PassKind → ℤ → Job Unit
  | housekeeping, now => housekeepingPass now
  | direct, now => directPass now

/-- What happens to one order: its node snapshot is written, a pass starts or makes its next
call, something outside reaches the row or its exchange orders, a pass of a sibling writes the
row, or a flow re-arms a failed sell. What others do in the middle of a pass is in the replies
to its calls. -/
inductive OrderStep
  | attachNodeSnapshot (config : List (String × String))
  | startPass (kind : PassKind) (now : ℤ)
  | call (reply : Reply)
  | outside (change : Outside)
  | sibling (write : SiblingWrite)
  | rearm (sizeBasis : SizeBasis) (sizeUsdc : ℚ) (targetQty remainingQty : Option ℚ)
      (eligibleAfterAt eligibleBeforeAt : Option ℤ)

namespace OrderRecord

/-- A failed sell that an execution of its node may re-arm. -/
def rearmable (record : OrderRecord) : Bool :=
  record.row.status == .error && tradeBuilderShouldRetryExitSell record.row

def step (record : OrderRecord) : OrderStep → OrderRecord
  | .attachNodeSnapshot config => { record with config := some config }
  | .startPass kind now =>
    if record.idle then { record with pass := kind.program now, now } else record
  | .call reply =>
    match record.pass with
    | .call c next =>
      { record with world := (act c record.world reply).2
                    pass := next (act c record.world reply).1 }
    | _ => record
  | .outside change =>
    if record.idle then { record with world := change.step record.world } else record
  | .sibling write =>
    { record with world := (Interference.sibling write).step record.world }
  | .rearm sizeBasis sizeUsdc targetQty remainingQty after before =>
    if record.idle ∧ record.rearmable then
      { record with world.order := (OrderUpdate.updateSizingAndState sizeBasis sizeUsdc targetQty
          (some sizeUsdc) remainingQty .triggered none after before).apply record.row }
    else record

end OrderRecord

inductive TableEvent
  | insert (record : OrderRecord)
  | order (i : ℕ) (step : OrderStep)

/-- A row is inserted without a node snapshot, an exchange order or a running pass. -/
def OrderRecord.inserted (record : OrderRecord) : OrderRecord :=
  { record with config := none, world := { order := record.row }, pass := .done () }

def stepTable (orders : OrderTable) : TableEvent → OrderTable
  | .insert record => orders ++ [record.inserted]
  | .order i step => orders.modify i (·.step step)

def runTable (orders : OrderTable) (events : List TableEvent) : OrderTable :=
  events.foldl stepTable orders

/-- Where the query reports none, every order the table then has of the node and market is done:
nothing of it is live, and nothing is submitted or filled later. -/
def ActiveQuerySound (engine : Engine) (node : NodeMarket) (orders later : OrderTable) : Prop :=
  engine.reportsNone node orders = true → ∀ (i : ℕ) record, orders[i]? = some record →
    node.has record = true → (∀ e ∈ record.world.exchange, e.isLive = false) ∧
      (later[i]?).map (·.world.exchange) = some record.world.exchange

/-! ### What the runs keep -/

/-- A row as the engines create it, in a status their queries list. -/
def IsEngineRow (row : TradeBuilderOrder) : Prop :=
  (∃ side, EngineRow side row) ∧ isActiveOrderStatus row.status = true

/-- The condition on what happens to an order of the node. -/
def OrderStep.Ok (step : OrderStep) (record : OrderRecord) : Prop :=
  match step with
  | .call reply =>
    match record.pass with
    | .call c _ => ListedOk record.now c record.world reply
    | _ => True
  | .outside change =>
    record.idle = true → change.requestsCancel = true → ¬ record.world.hasLive
  | .rearm .. => record.idle = true → record.rearmable = false
  | _ => True

/-- Every order of the node is the engine's own, and what happens to it meets its condition. -/
def EventOk (node : NodeMarket) (orders : OrderTable) : TableEvent → Prop
  | .insert record => node.has record = true → IsEngineRow record.row
  | .order i step => ∀ record, orders[i]? = some record → node.has record = true → step.Ok record

/-- The invariant of an order: the rest of its pass steps as the guarantee says, and the order is
listed or nothing of it is live. -/
structure OrderRecord.Guarded (record : OrderRecord) : Prop where
  pass : ∃ side, Guarantees act (ListedOk record.now) ListedGuarantee record.pass
    (fun _ => Kept side) record.world
  engine : ∃ side, EngineRow side record.row
  listed : isActiveOrderStatus record.row.status = true ∨ NothingLive record.world

/-- An order that is not listed stays so and its exchange orders stay as they are. -/
def OrderRecord.Settles (record later : OrderRecord) : Prop :=
  isActiveOrderStatus record.row.status = false →
    isActiveOrderStatus later.row.status = false ∧ later.world.exchange = record.world.exchange

theorem OrderRecord.Settles.refl (record : OrderRecord) : record.Settles record :=
  fun h => ⟨h, rfl⟩

theorem OrderRecord.Settles.trans {a b c : OrderRecord} (hab : a.Settles b) (hbc : b.Settles c) :
    a.Settles c := by
  intro h
  obtain ⟨hb, hsame⟩ := hab h
  obtain ⟨hc, hsame'⟩ := hbc hb
  exact ⟨hc, hsame'.trans hsame⟩

theorem kept_of_idle {record : OrderRecord} (h : record.Guarded) (hidle : record.idle = true) :
    ∃ side, Kept side record.world := by
  obtain ⟨side, hpass⟩ := h.pass
  refine ⟨side, ?_⟩
  rw [OrderRecord.idle] at hidle
  cases hrest : record.pass with
  | call c next =>
    rw [hrest] at hidle
    cases hidle
  | done a =>
    rw [hrest] at hpass
    exact hpass
  | fail e =>
    rw [hrest] at hpass
    exact hpass

theorem passes_of_kept {side : Side} {w : World} (hw : Kept side w) (kind : PassKind) (now : ℤ) :
    Passes now (kind.program now) (fun _ => Kept side) w := by
  cases kind with
  | housekeeping => exact housekeepingPass_kept hw
  | direct => exact directPass_kept hw

theorem kept_outside {side : Side} {w : World} (hw : Kept side w) {change : Outside}
    (hok : change.requestsCancel = true → ¬ w.hasLive) : Kept side (change.step w) := by
  have hev := World.Evolves.step change w
  have hlive : (change.step w).hasLive → w.hasLive := fun ⟨e, he, hl⟩ => by
    obtain ⟨e₀, he₀, hev⟩ := hev.of_mem he
    exact ⟨e₀, he₀, hev.live hl⟩
  have htracked := hw.tracked.evolves hev
  cases change with
  | fill id qty =>
    exact ⟨htracked, hw.row, fun hl => hw.unfired (hlive hl),
      hw.status.imp_right fun h => ⟨h.1.exchange hev.exchange, h.2⟩⟩
  | finish id state =>
    exact ⟨htracked, hw.row, fun hl => hw.unfired (hlive hl),
      hw.status.imp_right fun h => ⟨h.1.exchange hev.exchange, h.2⟩⟩
  | requestCancel reason =>
    have hdead := nothingLive_of_not_hasLive htracked.ids fun hl => hok rfl (hlive hl)
    exact ⟨htracked, ⟨hw.row.immediate, hw.row.unpaired, hw.row.fromFlow, hw.row.side⟩,
      fun hl => hw.unfired (hlive hl), .inr ⟨hdead, rfl, fun _ => rfl⟩⟩

theorem outside_settles {w : World} (hn : NothingLive w) (change : Outside)
    (hunlisted : isActiveOrderStatus w.order.status = false) :
    isActiveOrderStatus (change.step w).order.status = false ∧
      (change.step w).exchange = w.exchange := by
  refine ⟨?_, evolves_eq_of_dead hn.dead (World.Evolves.step change w).exchange⟩
  cases change with
  | fill id qty => exact hunlisted
  | finish id state => exact hunlisted
  | requestCancel reason => rfl

theorem OrderRecord.Guarded.step {record : OrderRecord} (h : record.Guarded) {step : OrderStep}
    (hok : step.Ok record) : (record.step step).Guarded ∧ record.Settles (record.step step) := by
  cases step with
  | attachNodeSnapshot config => exact ⟨⟨h.pass, h.engine, h.listed⟩, fun hl => ⟨hl, rfl⟩⟩
  | startPass kind now =>
    rw [OrderRecord.step]
    split_ifs with hidle
    · obtain ⟨side, hw⟩ := kept_of_idle h hidle
      exact ⟨⟨⟨side, passes_of_kept hw kind now⟩, h.engine, h.listed⟩, fun hl => ⟨hl, rfl⟩⟩
    · exact ⟨h, .refl record⟩
  | call reply =>
    obtain ⟨side, hpass⟩ := h.pass
    rw [OrderRecord.step]
    rw [OrderStep.Ok] at hok
    cases hrest : record.pass with
    | done a => exact ⟨h, .refl record⟩
    | fail e => exact ⟨h, .refl record⟩
    | call c next =>
      rw [hrest] at hpass hok
      obtain ⟨hg, hnext⟩ := hpass reply hok
      exact ⟨⟨⟨side, hnext⟩, h.engine.imp fun _ hrow => hrow.act c reply, hg.listed⟩, hg.settled⟩
  | outside change =>
    rw [OrderRecord.step]
    split_ifs with hidle
    · obtain ⟨side, hw⟩ := kept_of_idle h hidle
      have hkept := kept_outside hw (hok hidle)
      have hrest : Guarantees act (ListedOk record.now) ListedGuarantee record.pass
          (fun _ => Kept side) (change.step record.world) := by
        rw [OrderRecord.idle] at hidle
        cases hpass : record.pass with
        | call c next =>
          rw [hpass] at hidle
          cases hidle
        | done a => exact hkept
        | fail e => exact hkept
      refine ⟨⟨⟨side, hrest⟩, ⟨side, hkept.row⟩, hkept.status.imp_right And.left⟩, fun hl => ?_⟩
      obtain hlisted | ⟨hdead, -⟩ := hw.status
      · rw [OrderRecord.row, hlisted] at hl
        cases hl
      · exact outside_settles hdead change hl
    · exact ⟨h, .refl record⟩
  | sibling write =>
    obtain ⟨side, hrow⟩ := h.engine
    rw [OrderRecord.step, hrow.sibling_step write]
    exact ⟨h, .refl record⟩
  | rearm sizeBasis sizeUsdc targetQty remainingQty after before =>
    rw [OrderStep.Ok] at hok
    rw [OrderRecord.step, if_neg fun hrearm => by cases (hok hrearm.1).symm.trans hrearm.2]
    exact ⟨h, .refl record⟩

theorem stepTable_at {orders : OrderTable} {i : ℕ} {record : OrderRecord}
    (h : orders[i]? = some record) (event : TableEvent) :
    (stepTable orders event)[i]? = some record ∨
      ∃ step, event = .order i step ∧ (stepTable orders event)[i]? = some (record.step step) := by
  cases event with
  | insert new =>
    refine .inl ?_
    rw [stepTable, List.getElem?_append_left (List.getElem?_eq_some_iff.mp h).1, h]
  | order j step =>
    rw [stepTable, List.getElem?_modify, h]
    by_cases hj : j = i
    · subst hj
      exact .inr ⟨step, rfl, by simp⟩
    · exact .inl (by simp [hj])

theorem step_has (node : NodeMarket) (record : OrderRecord) (step : OrderStep) :
    node.has (record.step step) = node.has record := by
  cases step with
  | attachNodeSnapshot config | sibling write => rfl
  | startPass kind now | outside change | rearm _ _ _ _ _ _ =>
    rw [OrderRecord.step]
    split_ifs <;> rfl
  | call reply =>
    rw [OrderRecord.step]
    cases record.pass <;> rfl

/-- The invariant of the table: every order of the node keeps its own. -/
def TableGuarded (node : NodeMarket) (orders : OrderTable) : Prop :=
  ∀ record ∈ orders, node.has record = true → record.Guarded

theorem inserted_guarded {record : OrderRecord} (h : IsEngineRow record.row) :
    record.inserted.Guarded := by
  obtain ⟨⟨side, hrow⟩, hlisted⟩ := h
  have hparked : Parked side record.inserted.world := ⟨⟨rfl, nofun⟩, hrow, .inl hlisted⟩
  exact ⟨⟨side, hparked.kept⟩, ⟨side, hrow⟩, .inl hlisted⟩

theorem TableGuarded.step {node : NodeMarket} {orders : OrderTable} {event : TableEvent}
    (h : TableGuarded node orders) (hok : EventOk node orders event) :
    TableGuarded node (stepTable orders event) := by
  intro record hmem hnode
  cases event with
  | insert new =>
    obtain hold | hnew := List.mem_append.mp hmem
    · exact h record hold hnode
    · obtain rfl := List.mem_singleton.mp hnew
      exact inserted_guarded (hok hnode)
  | order j step =>
    obtain ⟨i, hi⟩ := List.mem_iff_getElem?.mp hmem
    rw [stepTable, List.getElem?_modify] at hi
    obtain ⟨before, hbefore, heq⟩ := Option.map_eq_some_iff.mp hi
    by_cases hj : j = i
    · rw [if_pos hj] at heq
      subst heq
      rw [step_has] at hnode
      have hguarded := h before (List.mem_of_getElem? hbefore) hnode
      exact (hguarded.step (hok before (hj ▸ hbefore) hnode)).1
    · rw [if_neg hj] at heq
      subst heq
      exact h before (List.mem_of_getElem? hbefore) hnode

theorem settles_run {node : NodeMarket} {orders : OrderTable} {events : List TableEvent} {i : ℕ}
    {record : OrderRecord} (hguarded : TableGuarded node orders)
    (hok : EachStep stepTable (EventOk node) orders events) (hi : orders[i]? = some record)
    (hnode : node.has record = true) :
    ∃ later, (runTable orders events)[i]? = some later ∧ record.Settles later := by
  induction events generalizing orders record with
  | nil => exact ⟨record, hi, .refl record⟩
  | cons event events ih =>
    obtain ⟨hevent, hrest⟩ := hok
    have hnext := hguarded.step hevent
    obtain hsame | ⟨step, rfl, hstep⟩ := stepTable_at hi event
    · exact ih hnext hrest hsame hnode
    · obtain ⟨later, hlater, hsettles⟩ :=
        ih hnext hrest hstep ((step_has node record step).trans hnode)
      have hfirst := (hguarded record (List.mem_of_getElem? hi) hnode).step
        (hevent record hi hnode)
      exact ⟨later, hlater, hfirst.2.trans hsettles⟩

/-- In every run whose events meet their conditions, a query of the engine that reports none,
at a time when it sees every order of its node and market, misses no order: nothing of them is
live, and nothing is submitted or filled later. -/
theorem active_query_sound (engine : Engine) (node : NodeMarket)
    (events later : List TableEvent)
    (hevents : EachStep stepTable (EventOk node) [] (events ++ later))
    (hsees : ∀ record ∈ runTable [] events, node.has record = true →
      engine.sees node record = true) :
    ActiveQuerySound engine node (runTable [] events) (runTable [] (events ++ later)) := by
  obtain ⟨hbefore, hafter⟩ := eachStep_append.mp hevents
  have hguarded : TableGuarded node (runTable [] events) :=
    hbefore.invariant (fun _ _ h hok => h.step hok) (fun _ h => nomatch h)
  intro hnone i record hi hnode
  have hmem := List.mem_of_getElem? hi
  have hunlisted := unlisted_of_reportsNone hnone hmem hnode (hsees record hmem hnode)
  have hdead : NothingLive record.world := by
    obtain hlisted | hdead := (hguarded record hmem hnode).listed
    · rw [hlisted] at hunlisted
      cases hunlisted
    · exact hdead
  refine ⟨hdead.dead, ?_⟩
  obtain ⟨after, hlater, hsettles⟩ := settles_run hguarded hafter hi hnode
  have hrun : runTable [] (events ++ later) = runTable (runTable [] events) later :=
    List.foldl_append
  rw [hrun, hlater, Option.map_some, (hsettles hunlisted).2]

/-- A call without interference that no exception of the condition can be about. -/
def smoothCall (c : Call) (w : World) (r : Reply) : Bool :=
  r.before.isEmpty && r.fails.isNone && r.clientOrderId.isNone && r.statusText.isNone &&
    !r.notCanceled && match c with
    | .getOrder => w.order.expiresAt.isNone
    | .availableTokenQty => r.qty.isNone
    | .status _ => w.exchange.all (!·.isLive)
    | .update (.setStatus status _) => status != .error && status != .triggered
    | .update (.setGuardBlockedState ..) => false
    | _ => true

theorem listedOk_of_smoothCall {now : ℤ} {c : Call} {w : World} {r : Reply}
    (h : smoothCall c w r = true) : ListedOk now c w r := by
  simp only [smoothCall, Bool.and_eq_true, List.isEmpty_iff, Option.isNone_iff_eq_none,
    Bool.not_eq_true'] at h
  obtain ⟨⟨⟨⟨⟨hbefore, hfails⟩, hid⟩, htext⟩, hcanceled⟩, hcall⟩ := h
  have harrive : r.arrive w = w := by simp [Reply.arrive, hbefore]
  constructor
  · simp [hbefore]
  · exact honest_of_plain hid htext hcanceled
  · exact fun _ => hfails
  · rintro rfl -
    rw [harrive, orderExpired, Option.isNone_iff_eq_none.mp hcall]
    rfl
  · rintro rfl - q hq
    rw [Option.isNone_iff_eq_none.mp hcall] at hq
    cases hq
  · rintro id e rfl hmem hl
    rw [harrive] at hmem
    have hdead := List.all_eq_true.mp hcall e (World.exchangeOrder_mem hmem).1
    simp [hl] at hdead
  · rintro error size qty rfl
    cases hcall
  · rintro e rfl
    cases hcall
  · rintro e rfl
    cases hcall

/-- An event that no exception of the condition can be about. -/
def smoothEvent (orders : OrderTable) : TableEvent → Bool
  | .insert new =>
    new.row.kind == .immediate && new.row.pairSessionId.isNone &&
      new.row.originFlowRunId.isSome && isActiveOrderStatus new.row.status
  | .order i step =>
    (orders[i]?).all fun record =>
      match step, record.pass with
      | .call reply, .call c _ => smoothCall c record.world reply
      | .outside change, _ => !change.requestsCancel
      | .rearm .., _ => !record.rearmable
      | _, _ => true

theorem eventOk_of_smoothEvent (node : NodeMarket) {orders : OrderTable} {event : TableEvent}
    (h : smoothEvent orders event = true) : EventOk node orders event := by
  cases event with
  | insert new =>
    simp only [smoothEvent, Bool.and_eq_true, beq_iff_eq, Option.isNone_iff_eq_none] at h
    exact fun _ => ⟨⟨new.row.side, h.1.1.1, h.1.1.2, h.1.2, rfl⟩, h.2⟩
  | order i step =>
    intro record hi _
    rw [smoothEvent, hi, Option.all_some] at h
    cases step with
    | attachNodeSnapshot config | startPass kind now | sibling write => trivial
    | call reply =>
      rw [OrderStep.Ok]
      cases hpass : record.pass with
      | call c next =>
        rw [hpass] at h
        exact listedOk_of_smoothCall h
      | _ => trivial
    | outside change =>
      intro _ hcancel
      simp [hcancel] at h
    | rearm sizeBasis sizeUsdc targetQty remainingQty after before =>
      intro _
      simpa using h

/-- The node of a RevengeFlip engine, and the insert of an entry buy of 10 USDC with the snapshot
that marks it. -/
def flipNode : NodeMarket := ⟨1, 7, "flip", "btc-updown-5m"⟩

def entryInserted : List TableEvent :=
  [.insert { userId := 1, originFlowDefinitionId := some 7, originFlowNodeKey := some "flip"
             marketSlug := "btc-updown-5m"
             world := { order := { sizeUsdc := 10, originFlowRunId := some 1 } } },
    .order 0 (.attachNodeSnapshot
      [("revengeFlipOrder", "true"), ("revengeFlipRootNodeKey", "flip")])]

/-- A pass on the first order whose calls all get the same reply. -/
def passOver (kind : PassKind) (reply : Reply) : List TableEvent :=
  .order 0 (.startPass kind 0) :: List.replicate 30 (.order 0 (.call reply))

def entryFilled : List TableEvent :=
  entryInserted ++ passOver .direct {} ++ .order 0 (.outside (.fill 0 20)) ::
    passOver .housekeeping {}

theorem active_query_sound_filled :
    ActiveQuerySound .revengeFlip flipNode (runTable [] entryFilled)
      (runTable [] (entryFilled ++ passOver .housekeeping {})) := by
  have hsmooth : EachStep stepTable (fun orders event => smoothEvent orders event = true) []
      (entryFilled ++ passOver .housekeeping {}) := by decide +kernel
  refine active_query_sound _ _ _ _ (hsmooth.imp (I := fun _ => True)
    (fun _ _ _ h => eventOk_of_smoothEvent flipNode h) (fun _ _ _ _ => trivial) trivial) ?_
  decide +kernel

/-- The direct pass finds no best ask and leaves the entry "guard_blocked". -/
def entryWaiting : List TableEvent :=
  entryInserted ++ passOver .direct { guards := .waits "best_ask_unavailable" }

/-- The query does not list the waiting entry, and the next housekeeping pass submits it. -/
theorem waiting_entry_missed :
    ¬ ∀ engine node events later,
      ActiveQuerySound engine node (runTable [] events) (runTable [] (events ++ later)) := by
  intro h
  have hsame := (h .revengeFlip flipNode entryWaiting (passOver .housekeeping {})
    (by decide +kernel) 0 _ (List.getElem?_eq_getElem (by decide +kernel))
    (by decide +kernel)).2
  revert hsame
  decide +kernel

end PolymarketBot.Engines
