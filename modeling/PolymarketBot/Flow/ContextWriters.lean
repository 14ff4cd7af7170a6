import PolymarketBot.Flow.CycleWindowTimers

/-! The writers of one running run's context: flow steps, websocket ticks, timers,
stop-loss re-entries and cache rebuilds. Each database or cache access is one event, and
a run is any list of events, so writers interleave freely. -/

namespace PolymarketBot.Flow
open Lib.Overwrite

structure OnceLock where
  triggerNodeKey : String
  marketSlug : String
  onceScopeMarket : Bool
  firedAt : String

def OnceLock.mark (lock : OnceLock) : Draft Unit :=
  markTradeFlowMarketPriceOnceFired lock.triggerNodeKey lock.firedAt
    (if lock.onceScopeMarket then some lock.marketSlug else none)

/-- What one flow step does to the context: the executor of its node is any draft. -/
structure StepWork where
  graphContext : Value
  consumedLocks : List OnceLock
  executeNode : Draft Unit
  consumed : Option OnceLock

def reconcileTradeFlowDeferredOnceLocks (locks : List OnceLock) : Draft Unit :=
  Draft.each locks fun lock => do
    if !tradeFlowMarketPriceOnceFiredForScope (← Draft.read) lock.triggerNodeKey
        lock.onceScopeMarket (some lock.marketSlug) then
      lock.mark

def processTradeFlowStepContext (work : StepWork) : Draft Unit := do
  reconcileTradeFlowDeferredOnceLocks work.consumedLocks
  work.executeNode
  match work.consumed with
  | some lock => lock.mark
  | none => pure ()

structure ReentryInput where
  actionNodeKey : String
  triggerNodeKey : String
  marketSlug : String
  maxAttempts : ℤ

def reentryAllowed (context : Value) (input : ReentryInput) : Bool :=
  resolveTradeFlowReentryAttemptsForMarket context input.actionNodeKey input.marketSlug <
    max 0 input.maxAttempts

def scheduleTradeBuilderStopLossReentry (input : ReentryInput) : Draft Unit := do
  let used := resolveTradeFlowReentryAttemptsForMarket (← Draft.read) input.actionNodeKey
    input.marketSlug
  Draft.set input.actionNodeKey reentryAttemptsUsedKey (jsonI64 (used + 1))
  Draft.set input.actionNodeKey reentryMarketSlugKey (.string input.marketSlug)
  Draft.set input.triggerNodeKey reentryGenerationKey (jsonI64 (used + 1))
  clearTradeFlowMarketPriceOnceState input.triggerNodeKey
  clearTradeFlowMarketPriceWsRuntimeState input.triggerNodeKey

/-- What a cache rebuild brings in from outside the run row: the graph, the markets its
auto-scope nodes resolve to, and the node specs. -/
structure CacheBuild where
  runId : ℤ
  graphContext : Value
  syncAutoScope : Draft Unit
  nodes : List WsOpenPositionPriceNodeSpec

def flowMarketSlug (context : Value) : String :=
  (((context.get "flowContext").bind fun c => c.get "marketSlug").bind Value.asStr).getD ""

def recordCycleWindowConfigSnapshots : List WsOpenPositionPriceNodeSpec → Draft Bool
  | [] => pure false
  | spec :: rest => do
    let key := "cycle_window_config_snapshot_" ++ spec.tokenId
    let missing := spec.cycleWindowMode.isSome &&
      !flowNodeStateTruthy (← Draft.read) spec.nodeKey key
    if missing then Draft.set spec.nodeKey key (.bool true)
    let recorded ← recordCycleWindowConfigSnapshots rest
    return missing || recorded

/-- Resets the trigger state of nodes whose market rolled over; true if one rotated away
from a known market. -/
def syncTradeFlowAutoScopeMarketRolloverState (previous : Value) :
    List String → List WsOpenPositionPriceNodeSpec → Draft Bool
  | _, [] => pure false
  | processed, spec :: rest => do
    if !spec.autoScope || spec.nodeType ≠ "trigger.market_price" ||
        processed.contains spec.nodeKey then
      syncTradeFlowAutoScopeMarketRolloverState previous processed rest
    else match trimmedSlug spec.marketSlug with
      | none =>
        syncTradeFlowAutoScopeMarketRolloverState previous (spec.nodeKey :: processed) rest
      | some slug =>
        let flowSlug := trimmedSlug (some (flowMarketSlug previous))
        let old := ((flowNodeStateString previous spec.nodeKey "last_ws_market_slug").orElse
          fun _ => flowNodeStateString previous spec.nodeKey "auto_scope_market_slug").orElse
          fun _ => flowSlug
        if old ≠ some slug then
          clearTradeFlowMarketPriceWsRuntimeState spec.nodeKey
          clearTradeFlowMarketPriceRotationState spec.nodeKey
        Draft.set spec.nodeKey "last_ws_market_slug" (.string slug)
        let rotated ← syncTradeFlowAutoScopeMarketRolloverState previous
          (spec.nodeKey :: processed) rest
        return (old ≠ some slug && old.isSome) || rotated

def buildTradeFlowWsFastPathCache (previous : Value) (build : CacheBuild) : Draft Bool := do
  build.syncAutoScope
  let recorded ← recordCycleWindowConfigSnapshots build.nodes
  let updated := flowMarketSlug (← Draft.read)
  let slugChanged := updated ≠ "" && flowMarketSlug previous ≠ updated
  let rotated ← syncTradeFlowAutoScopeMarketRolloverState previous [] build.nodes
  return slugChanged || rotated || recorded

/-- A copy of the run spec, with the context it was last in step with and the edits made
to it since that no overwrite of the run row has carried yet. -/
structure CachedRun where
  spec : WsOpenPositionPriceRunSpec
  base : Value
  unsaved : List ContextEdit
  context_eq : spec.context = applyEdits unsaved base

def CachedRun.saved (spec : WsOpenPositionPriceRunSpec) : CachedRun where
  spec := { spec with contextDirty := false }
  base := spec.context
  unsaved := []
  context_eq := rfl

def CachedRun.edited (copy : CachedRun) (es : List ContextEdit) (dirty : Bool) : CachedRun where
  spec := { copy.spec with
    context := applyEdits es copy.spec.context, contextDirty := copy.spec.contextDirty || dirty }
  base := copy.base
  unsaved := copy.unsaved ++ es
  context_eq := by
    change applyEdits es copy.spec.context = _
    rw [copy.context_eq, applyEdits_append]

def CachedRun.write (copy : CachedRun) : Write EntryKey Value :=
  ⟨entries copy.base, entryEdits copy.unsaved⟩

theorem CachedRun.write_result (copy : CachedRun) :
    copy.write.result = entries copy.spec.context := by
  rw [copy.context_eq, entries_applyEdits]
  rfl

/-- A writer between two of its accesses. -/
inductive Session where
  | step (context : Value)
  | tick (copy : CachedRun)
  | timer (copy : CachedRun)
  | reentry (context : Value)
  | rebuild (context : Value)
  | persisted (copy : Option CachedRun)
  | reentryWritten (context : Value)

inductive Event where
  | stepRead (writer : ℕ)
  | stepWrite (writer : ℕ) (work : StepWork)
  | tickRead (writer : ℕ)
  | tickPersist (writer : ℕ) (targets : WsTargets)
  | timerRead (writer : ℕ)
  | timerPersist (writer : ℕ) (reads : TimerReads)
  | reentryRead (writer : ℕ)
  | reentryWrite (writer : ℕ) (input : ReentryInput)
  | reentryReplaceCache (writer : ℕ)
  | rebuildRead (writer : ℕ)
  | rebuildPersist (writer : ℕ) (build : CacheBuild)
  | cacheStore (writer : ℕ)
  | cacheClear

/-- The run row's context, the cached copy and the writers at work. `start` and `writes`
record the overwrites of the row so far and take no part in any step. -/
structure RunState where
  stored : Value
  cache : Option CachedRun
  sessions : ℕ → Option Session
  start : Value
  writes : List (Write EntryKey Value)

def RunState.init (context : Value) : RunState :=
  ⟨context, none, fun _ => none, context, []⟩

def RunState.setSession (s : RunState) (writer : ℕ) (session : Option Session) : RunState :=
  { s with sessions := Function.update s.sessions writer session }

/-- `update_trade_flow_run_context`: the whole context of the row is overwritten. -/
def RunState.overwrite (s : RunState) (context : Value) (write : Write EntryKey Value) :
    RunState :=
  { s with stored := context, writes := s.writes ++ [write] }

/-- `persist_trade_flow_ws_run_specs_contexts` for the copy a writer holds. -/
def RunState.persist (s : RunState) (writer : ℕ) (copy : CachedRun) : RunState :=
  if copy.spec.contextDirty then
    (s.overwrite copy.spec.context copy.write).setSession writer
      (some (.persisted (some (.saved copy.spec))))
  else s.setSession writer (some (.persisted (some copy)))

variable (chrono : Chrono)

def tickCopy (copy : CachedRun) (targets : WsTargets) : CachedRun :=
  let result := processWsTargets chrono copy.spec targets copy.spec.context
  copy.edited result.2 result.1.1

def timerCopy (copy : CachedRun) (reads : TimerReads) : CachedRun :=
  let result := processTradeFlowTriggerMarketPriceTimers chrono copy.spec reads copy.spec.context
  copy.edited result.2 result.1.dirty

def stepBase (context : Value) (work : StepWork) : Value :=
  normalizeTradeFlowContext context work.graphContext

def stepEdits (context : Value) (work : StepWork) : List ContextEdit :=
  (processTradeFlowStepContext work (stepBase context work)).2

def reentryEdits (context : Value) (input : ReentryInput) : List ContextEdit :=
  (scheduleTradeBuilderStopLossReentry input context).2

def rebuildCopy (context : Value) (build : CacheBuild) : CachedRun :=
  let base := normalizeTradeFlowContext context build.graphContext
  let result := buildTradeFlowWsFastPathCache context build base
  CachedRun.edited ⟨⟨build.runId, base, build.nodes, false⟩, base, [], rfl⟩ result.2 result.1

/-- One access. An event whose writer is not at that point changes nothing. -/
def step (s : RunState) : Event → RunState
  | .stepRead w => s.setSession w (some (.step s.stored))
  | .stepWrite w work =>
    match s.sessions w with
    | some (.step context) =>
      let es := stepEdits context work
      (s.overwrite (applyEdits es (stepBase context work)) ⟨entries context, entryEdits es⟩).setSession
        w none
    | _ => s
  | .tickRead w => s.setSession w (s.cache.map .tick)
  | .tickPersist w targets =>
    match s.sessions w with
    | some (.tick copy) => s.persist w (tickCopy chrono copy targets)
    | _ => s
  | .timerRead w => s.setSession w (s.cache.map .timer)
  | .timerPersist w reads =>
    match s.sessions w with
    | some (.timer copy) => s.persist w (timerCopy chrono copy reads)
    | _ => s
  | .reentryRead w => s.setSession w (some (.reentry s.stored))
  | .reentryWrite w input =>
    match s.sessions w with
    | some (.reentry context) =>
      if reentryAllowed context input then
        let es := reentryEdits context input
        (s.overwrite (applyEdits es context) ⟨entries context, entryEdits es⟩).setSession w
          (some (.reentryWritten (applyEdits es context)))
      else s.setSession w none
    | _ => s
  | .reentryReplaceCache w =>
    match s.sessions w with
    | some (.reentryWritten context) =>
      { s.setSession w none with
        cache := s.cache.map fun copy => .saved { copy.spec with context } }
    | _ => s
  | .rebuildRead w => s.setSession w (some (.rebuild s.stored))
  | .rebuildPersist w build =>
    match s.sessions w with
    | some (.rebuild context) =>
      if build.nodes.isEmpty then s.setSession w (some (.persisted none))
      else s.persist w (rebuildCopy context build)
    | _ => s
  | .cacheStore w =>
    match s.sessions w with
    | some (.persisted copy) => { s.setSession w none with cache := copy }
    | _ => s
  | .cacheClear => { s with cache := none }

def run (s : RunState) (events : List Event) : RunState := events.foldl (step chrono) s

/-- Every node state entry of the row holds what the last edit of it left there, in the
order of the overwrites: a later writer sets or clears it, or it is still there. -/
def NoUpdateLost (s : RunState) : Prop :=
  Kept (entries s.start) (entries s.stored) s.writes

/-- The overwrite of the row an event performs: the copy its writer started from and
the edits made on that copy. -/
def overwriteOf (s : RunState) : Event → Option (Write EntryKey Value)
  | .stepWrite w work =>
    match s.sessions w with
    | some (.step context) => some ⟨entries context, entryEdits (stepEdits context work)⟩
    | _ => none
  | .tickPersist w targets =>
    match s.sessions w with
    | some (.tick copy) => persistedWrite (tickCopy chrono copy targets)
    | _ => none
  | .timerPersist w reads =>
    match s.sessions w with
    | some (.timer copy) => persistedWrite (timerCopy chrono copy reads)
    | _ => none
  | .reentryWrite w input =>
    match s.sessions w with
    | some (.reentry context) =>
      if reentryAllowed context input then
        some ⟨entries context, entryEdits (reentryEdits context input)⟩
      else none
    | _ => none
  | .rebuildPersist w build =>
    match s.sessions w with
    | some (.rebuild context) =>
      if build.nodes.isEmpty then none else persistedWrite (rebuildCopy context build)
    | _ => none
  | _ => none
where
  persistedWrite (copy : CachedRun) : Option (Write EntryKey Value) :=
    if copy.spec.contextDirty then some copy.write else none

/-- The event overwrites the row, if at all, from a copy that agrees with the row on every
node state entry the writer does not itself set or clear. -/
def FreshOverwrite (s : RunState) (e : Event) : Prop :=
  ∀ write ∈ overwriteOf chrono s e, write.Fresh (entries s.stored)

def EveryOverwriteFresh (s : RunState) : List Event → Prop
  | [] => True
  | e :: events => FreshOverwrite chrono s e ∧ EveryOverwriteFresh (step chrono s e) events

theorem stepBase_entries (context : Value) (work : StepWork) :
    entries (stepBase context work) = entries context :=
  entries_normalize context work.graphContext

theorem persist_row (s : RunState) (w : ℕ) (copy : CachedRun) :
    (s.persist w copy).start = s.start ∧
    (s.persist w copy).writes = s.writes ++ (overwriteOf.persistedWrite copy).toList ∧
    entries (s.persist w copy).stored =
      ((overwriteOf.persistedWrite copy).map Write.result).getD (entries s.stored) := by
  unfold RunState.persist overwriteOf.persistedWrite
  split
  · simp [RunState.overwrite, RunState.setSession, copy.write_result]
  · simp [RunState.setSession]

theorem step_row (s : RunState) (e : Event) :
    (step chrono s e).start = s.start ∧
    (step chrono s e).writes = s.writes ++ (overwriteOf chrono s e).toList ∧
    entries (step chrono s e).stored =
      ((overwriteOf chrono s e).map Write.result).getD (entries s.stored) := by
  cases e with
  | stepWrite w work =>
    simp only [step, overwriteOf]
    split
    · simp [RunState.overwrite, RunState.setSession, entries_applyEdits, stepBase_entries,
        Write.result]
    · simp
  | tickPersist w targets =>
    simp only [step, overwriteOf]
    split
    · exact persist_row s w _
    · simp
  | timerPersist w reads =>
    simp only [step, overwriteOf]
    split
    · exact persist_row s w _
    · simp
  | reentryWrite w input =>
    simp only [step, overwriteOf]
    split
    · split
      · simp [RunState.overwrite, RunState.setSession, entries_applyEdits, Write.result]
      · simp [RunState.setSession]
    · simp
  | rebuildPersist w build =>
    simp only [step, overwriteOf]
    split
    · split
      · simp [RunState.setSession]
      · exact persist_row s w _
    · simp
  | reentryReplaceCache w =>
    simp only [step, overwriteOf]
    split <;> simp [RunState.setSession]
  | cacheStore w =>
    simp only [step, overwriteOf]
    split <;> simp [RunState.setSession]
  | _ => simp [step, overwriteOf, RunState.setSession]

theorem noUpdateLost_init (context : Value) : NoUpdateLost (.init context) :=
  kept_nil _

theorem noUpdateLost_step {s : RunState} (h : NoUpdateLost s) (e : Event) :
    NoUpdateLost (step chrono s e) ↔ FreshOverwrite chrono s e := by
  obtain ⟨hstart, hwrites, hstored⟩ := step_row chrono s e
  unfold NoUpdateLost FreshOverwrite
  rw [hstart, hwrites, hstored]
  cases ho : overwriteOf chrono s e with
  | none => simpa [NoUpdateLost] using h
  | some write => simpa using kept_write h write

theorem noUpdateLost_run (s : RunState) (h : NoUpdateLost s) (events : List Event) :
    (∀ n, NoUpdateLost (run chrono s (events.take n))) ↔ EveryOverwriteFresh chrono s events := by
  induction events generalizing s with
  | nil => simpa [EveryOverwriteFresh, run] using h
  | cons e events ih =>
    rw [EveryOverwriteFresh, ← noUpdateLost_step chrono h e]
    constructor
    · intro hall
      have hstep : NoUpdateLost (step chrono s e) := by simpa [run] using hall 1
      refine ⟨hstep, (ih _ hstep).mp fun n => ?_⟩
      simpa [run] using hall (n + 1)
    · rintro ⟨hstep, hrest⟩ n
      cases n with
      | zero => simpa [run] using h
      | succ n => simpa [run] using (ih _ hstep).mpr hrest n

/-- No update is lost in any state of a run exactly when every overwrite of the row starts
from a copy that agrees with the row wherever its own edits do not reach. -/
theorem run_context_updates_kept_iff (context : Value) (events : List Event) :
    (∀ n, NoUpdateLost (run chrono (.init context) (events.take n))) ↔
      EveryOverwriteFresh chrono (.init context) events :=
  noUpdateLost_run chrono _ (noUpdateLost_init context) events

def onceTriggerSpec : WsOpenPositionPriceNodeSpec where
  nodeKey := "trigger"
  nodeType := "trigger.market_price"
  onceMode := true
  onceScopeMarket := false
  pairLockOnlyMonitor := false
  autoScope := false
  priceMode := .bestAsk
  marketSlug := some "btc-updown-5m-1767225600"
  tokenId := "up"
  outcomeLabel := "Up"
  triggerCondition := "cross_above"
  triggerPrice := 1 / 2
  maxPrice := none
  priceToBeatTriggerEnabled := false
  confirmationMs := none
  cycleWindowMode := none
  cycleWindowSecs := none
  cycleWindowStartSec := none
  cycleWindowEndSec := none
  autoSellOnWindowEnd := false

/-- The cache is built, a step marks the trigger as fired, and a tick at 0.40 follows, each
of them run to its end before the next begins. -/
def markThenTick : List Event :=
  [.rebuildRead 0, .rebuildPersist 0 ⟨7, .object [], pure (), [onceTriggerSpec]⟩, .cacheStore 0,
    .stepRead 1, .stepWrite 1 ⟨.object [], [],
      markTradeFlowMarketPriceOnceFired "trigger" "2026-01-01T00:00:10+00:00" none, none⟩,
    .tickRead 2, .tickPersist 2 [(0, some ⟨2 / 5, some 1767225612000, false, 1767225612000000000⟩)],
    .cacheStore 2]

theorem once_mark_lost_by_tick :
    ¬ NoUpdateLost (run idleChrono (.init (.object [])) markThenTick) := by
  intro h
  have hkey := congrArg Option.isSome (h ("trigger", "once_fired"))
  revert hkey
  decide +kernel

end PolymarketBot.Flow
