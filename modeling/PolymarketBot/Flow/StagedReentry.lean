import PolymarketBot.Builder.Finalize
import PolymarketBot.Flow.Reentry

/-! The staged stop losses of a parent as a family: its stages fill one by one or end without
a fill, and the finalizer of each fill decides on the re-entry from the rows of the others. -/

namespace PolymarketBot.Flow
open Builder Lib.Runs

def tradeBuilderIsStagedStopLossChild (order : TradeBuilderOrder) : Bool :=
  tradeBuilderIsStopLossChild order &&
    (order.exitLadderKind == some "sl" || order.exitLadderKind == some "ptb_sl")

def stagedChild (order : TradeBuilderOrder) : StagedChild where
  id := order.id
  isStaged := tradeBuilderIsStagedStopLossChild order
  isTerminal := tradeBuilderIsTerminalStatus order.status

def writeChild (rows : List TradeBuilderOrder) (orderId : ℤ) (u : OrderUpdate) :
    List TradeBuilderOrder :=
  rows.map fun row => if row.id = orderId then u.apply row else row

/-- A fill of a stage, with what its finalizer meets: the rows written before the scheduler
reads them (by the sync of the parent's children, or by another task), an error on the way to
the scheduler, and what the scheduler reads and fails at. -/
structure StageFill where
  orderId : ℤ
  forceTerminal : Bool
  between : List (ℤ × OrderUpdate)
  stops : Bool
  pairLock : PairLockReading
  graph : GraphReading
  now : Instant
  contextFails : Bool
  enqueueFails : Bool

/-- The children of a parent beside the run it came from. Which stages have filled and, for
each re-entry, whether its event made the last stage terminal, is recorded only. -/
structure FamilyRun where
  rows : List TradeBuilderOrder
  flow : ReentryRun
  filled : List ℤ
  reentries : List Bool

/-- A write is a partial fill, a cancel, an expiry, a re-arm: whatever the rest of the bot does
to a child without the finalizer. The run's other work includes the fills of other parents. -/
inductive FamilyEvent
  | fill (fill : StageFill)
  | write (orderId : ℤ) (u : OrderUpdate)
  | flow (event : ReentryEvent)

def findStage (rows : List TradeBuilderOrder) (orderId : ℤ) : Option TradeBuilderOrder :=
  rows.find? fun row => row.id = orderId && tradeBuilderIsStagedStopLossChild row

def familyTerminal (rows : List TradeBuilderOrder) : Bool :=
  rows.all fun row =>
    !tradeBuilderIsStagedStopLossChild row || tradeBuilderIsTerminalStatus row.status

def othersTerminal (rows : List TradeBuilderOrder) (orderId : ℤ) : Bool :=
  rows.all fun row => row.id = orderId || !tradeBuilderIsStagedStopLossChild row ||
    tradeBuilderIsTerminalStatus row.status

/-- The rows as the scheduler finds them: the stage is closed, then come the other writes. -/
def closeStage (rows : List TradeBuilderOrder) (stage : TradeBuilderOrder) (fill : StageFill) :
    List TradeBuilderOrder :=
  let counted := writeChild rows stage.id .incrementTriggerCount
  let closed := writeChild counted stage.id
    (.clearActiveExchangeOrder (finalizeNextStatus stage fill.forceTerminal))
  fill.between.foldl (fun rows write => writeChild rows write.1 write.2) closed

section Family
variable (parent : StopLossParent)

def stopLossFill (rows : List TradeBuilderOrder) (stage : TradeBuilderOrder) (fill : StageFill) :
    StopLossFill where
  parent
  child := stagedChild stage
  siblings := rows.map stagedChild
  pairLock := fill.pairLock
  graph := fill.graph
  now := fill.now
  contextFails := fill.contextFails
  enqueueFails := fill.enqueueFails

def finalizeStageFill (s : FamilyRun) (stage : TradeBuilderOrder) (fill : StageFill) :
    FamilyRun :=
  let rows := closeStage s.rows stage fill
  let flow :=
    if fill.stops then s.flow else reentryStep s.flow (.fill (stopLossFill parent rows stage fill))
  let reentry :=
    if s.flow.steps.length < flow.steps.length then
      [!familyTerminal s.rows && familyTerminal rows]
    else []
  ⟨rows, flow, s.filled ++ [stage.id], s.reentries ++ reentry⟩

def familyStep (s : FamilyRun) : FamilyEvent → FamilyRun
  | .fill fill =>
    match findStage s.rows fill.orderId with
    | some stage => finalizeStageFill parent s stage fill
    | none => s
  | .write orderId u => { s with rows := writeChild s.rows orderId u }
  | .flow event => { s with flow := reentryStep s.flow event }

/-- A family none of whose stages has filled yet. -/
def unfilledFamily (rows : List TradeBuilderOrder) (flow : ReentryRun) : FamilyRun :=
  ⟨rows, flow, [], []⟩

/-- One re-entry once all stages are terminal and one has filled, none before, and none by an
event that did not make the last stage terminal. -/
def ReentryOnceAtEnd (s : FamilyRun) : Prop :=
  s.reentries = if familyTerminal s.rows ∧ s.filled ≠ [] then [true] else []

/-- What the scheduler asks of a fill besides the other stages: the parent allows re-entry, its
run and nodes are there, an attempt is left, the key is free and no write fails. -/
def reentryAccepted (flow : ReentryRun) (fill : StopLossFill) : Bool :=
  match resolveStopLossReentry flow.run { fill with siblings := [] } with
  | .error _ => false
  | .ok (input, node) =>
    reentryAllowed flow.run.contextJson input && !fill.contextFails && !fill.enqueueFails &&
      (enqueueScheduledStep flow.steps
        (nextReentryStep flow.run.id flow.run.contextJson input node fill.now)).isSome

/-- The fill is not held back for another stage and nothing else refuses it. -/
def reentryDue (s : FamilyRun) (stage : TradeBuilderOrder) (fill : StageFill) : Bool :=
  let rows := closeStage s.rows stage fill
  (!parent.stagedSlReentryOnlyAfterAllStages || othersTerminal rows stage.id) &&
    !fill.stops && reentryAccepted s.flow (stopLossFill parent rows stage fill)

/-- The last stage ends with a fill that is due, no earlier or later fill is due, and once a
stage has filled no other write ends the family or takes it up again. -/
def EndsWithDueFill (s : FamilyRun) : FamilyEvent → Prop
  | .fill fill => ∀ stage ∈ findStage s.rows fill.orderId,
    if familyTerminal s.rows then
      reentryDue parent s stage fill = false ∧
        (familyTerminal (closeStage s.rows stage fill) = true ↔ s.filled ≠ [])
    else reentryDue parent s stage fill = familyTerminal (closeStage s.rows stage fill)
  | .write orderId u =>
    s.filled ≠ [] → familyTerminal (writeChild s.rows orderId u) = familyTerminal s.rows
  | .flow _ => True

end Family

/-! ### When the scheduler queues a step -/

section Scheduler
variable {s : ReentryRun} {fill : StopLossFill}

theorem resolve_deferred (run : TradeFlowRun)
    (hdefer : shouldDeferReentryUntilAllStagedSlComplete fill = true) :
    ∃ outcome, resolveStopLossReentry run fill = .error outcome := by
  cases henabled : fill.parent.reenterOnSlHit with
  | false => exact ⟨.ignored, by simp [resolveStopLossReentry, henabled, refuseIf]; rfl⟩
  | true =>
    exact ⟨.event "reentry_deferred_pending_staged_sl" none,
      by simp [resolveStopLossReentry, henabled, hdefer, refuseIf]; rfl⟩

theorem resolve_undeferred (run : TradeFlowRun)
    (hdefer : shouldDeferReentryUntilAllStagedSlComplete fill = false) :
    resolveStopLossReentry run fill = resolveStopLossReentry run { fill with siblings := [] } := by
  have halone :
      shouldDeferReentryUntilAllStagedSlComplete { fill with siblings := [] } = false := by
    simp [shouldDeferReentryUntilAllStagedSlComplete]
  simp only [resolveStopLossReentry, hdefer, halone]

theorem enqueue_length {steps more : List ScheduledStep} {step : ScheduledStep}
    (h : enqueueScheduledStep steps step = some more) : more.length = steps.length + 1 := by
  unfold enqueueScheduledStep at h
  split at h
  · cases h
  · cases h
    simp

theorem fill_queues_iff :
    s.steps.length < (reentryStep s (.fill fill)).steps.length ↔
      shouldDeferReentryUntilAllStagedSlComplete fill = false ∧ reentryAccepted s fill = true := by
  cases hdefer : shouldDeferReentryUntilAllStagedSlComplete fill with
  | true =>
    obtain ⟨outcome, hresolve⟩ := resolve_deferred s.run hdefer
    simp [reentryStep_unresolved hresolve]
  | false =>
    have hsame := resolve_undeferred s.run hdefer
    cases hresolve : resolveStopLossReentry s.run fill with
    | error outcome => simp [reentryStep_unresolved hresolve, reentryAccepted, ← hsame, hresolve]
    | ok resolved =>
      obtain ⟨input, node⟩ := resolved
      have haccepted : reentryAccepted s fill =
          (reentryAllowed s.run.contextJson input && !fill.contextFails && !fill.enqueueFails &&
            (enqueueScheduledStep s.steps
              (nextReentryStep s.run.id s.run.contextJson input node fill.now)).isSome) := by
        rw [reentryAccepted, ← hsame, hresolve]
      have hsteps : (reentryStep s (.fill fill)).steps =
          if reentryAllowed s.run.contextJson input && !fill.contextFails && !fill.enqueueFails then
            (enqueueScheduledStep s.steps
              (nextReentryStep s.run.id s.run.contextJson input node fill.now)).getD s.steps
          else s.steps := by
        simp only [reentryStep, maybeScheduleTradeBuilderStopLossReentry, hresolve,
          queueReentryStep]
        cases reentryAllowed s.run.contextJson input <;> cases fill.contextFails <;>
          cases fill.enqueueFails <;> cases enqueueScheduledStep s.steps
            (nextReentryStep s.run.id s.run.contextJson input node fill.now) <;> simp
      rw [hsteps, haccepted]
      cases henqueue : enqueueScheduledStep s.steps
          (nextReentryStep s.run.id s.run.contextJson input node fill.now) with
      | none => simp
      | some more =>
        have hlength : more.length = s.steps.length + 1 := enqueue_length henqueue
        split
        next hpasses => simp [hpasses, hlength]
        next hrefused => simp [hrefused]

end Scheduler

/-! ### The law of a run -/

section Family
variable {parent : StopLossParent}

theorem findStage_staged {rows : List TradeBuilderOrder} {orderId : ℤ} {stage : TradeBuilderOrder}
    (h : stage ∈ findStage rows orderId) : tradeBuilderIsStagedStopLossChild stage = true := by
  have hfound := List.find?_some h
  simp only [Bool.and_eq_true] at hfound
  exact hfound.2

theorem defers_stage {rows : List TradeBuilderOrder} {stage : TradeBuilderOrder} {fill : StageFill}
    (hstaged : tradeBuilderIsStagedStopLossChild stage = true) :
    shouldDeferReentryUntilAllStagedSlComplete (stopLossFill parent rows stage fill) =
      (parent.stagedSlReentryOnlyAfterAllStages && !othersTerminal rows stage.id) := by
  unfold shouldDeferReentryUntilAllStagedSlComplete othersTerminal
  simp only [stopLossFill, stagedChild, hstaged, Bool.and_true, List.any_map,
    List.not_all_eq_any_not]
  have hrow : ∀ row : TradeBuilderOrder,
      (decide (row.id ≠ stage.id) && tradeBuilderIsStagedStopLossChild row &&
        !tradeBuilderIsTerminalStatus row.status) =
      !(decide (row.id = stage.id) || !tradeBuilderIsStagedStopLossChild row ||
        tradeBuilderIsTerminalStatus row.status) := by
    intro row
    by_cases hid : row.id = stage.id <;> simp [hid]
  congr 2
  exact funext hrow

theorem fill_reentry (parent : StopLossParent) (s : FamilyRun) {stage : TradeBuilderOrder}
    (fill : StageFill) (hstaged : tradeBuilderIsStagedStopLossChild stage = true) :
    (finalizeStageFill parent s stage fill).reentries = s.reentries ++
      if reentryDue parent s stage fill then
        [!familyTerminal s.rows && familyTerminal (closeStage s.rows stage fill)]
      else [] := by
  unfold finalizeStageFill reentryDue
  cases hstops : fill.stops with
  | true => simp
  | false =>
    simp only [Bool.false_eq_true, if_false, fill_queues_iff, defers_stage hstaged, Bool.not_false,
      Bool.and_true, Bool.and_eq_true, Bool.and_eq_false_iff, Bool.or_eq_true, Bool.not_eq_true',
      Bool.not_eq_false']

theorem once_append (before after hadFilled due : Bool) :
    ((if before ∧ hadFilled then [true] else []) ++ (if due then [!before && after] else []) =
        if after then [true] else []) ↔
      if before then due = false ∧ (after = true ↔ hadFilled = true) else due = after := by
  cases before <;> cases after <;> cases hadFilled <;> cases due <;> decide

theorem once_unchanged (before after : Bool) :
    ((if before then [true] else []) = if after then [true] else []) ↔ after = before := by
  cases before <;> cases after <;> decide

theorem familyStep_law (s : FamilyRun) (event : FamilyEvent) (h : ReentryOnceAtEnd s) :
    ReentryOnceAtEnd (familyStep parent s event) ↔ EndsWithDueFill parent s event := by
  cases event with
  | flow event => exact iff_of_true h trivial
  | write orderId u =>
    simp only [ReentryOnceAtEnd, familyStep, EndsWithDueFill] at h ⊢
    rw [h]
    by_cases hfilled : s.filled = []
    · simp [hfilled]
    · have hkept := once_unchanged (familyTerminal s.rows)
        (familyTerminal (writeChild s.rows orderId u))
      simpa [hfilled] using hkept
  | fill fill =>
    cases hfind : findStage s.rows fill.orderId with
    | none => simpa [familyStep, EndsWithDueFill, hfind] using h
    | some stage =>
      have hreentries := fill_reentry parent s fill (findStage_staged hfind)
      have honce := once_append (familyTerminal s.rows)
        (familyTerminal (closeStage s.rows stage fill)) (decide (s.filled ≠ []))
        (reentryDue parent s stage fill)
      simp only [ReentryOnceAtEnd, familyStep, EndsWithDueFill, hfind, Option.mem_some_iff,
        forall_eq'] at h ⊢
      rw [hreentries, h]
      simpa [finalizeStageFill] using honce

/-- In every run the re-entry comes once, with the end of the family, exactly when the family
ends with a due fill and with nothing else. -/
theorem reentry_once_iff (parent : StopLossParent) (rows : List TradeBuilderOrder)
    (flow : ReentryRun) (events : List FamilyEvent) :
    Throughout (familyStep parent) ReentryOnceAtEnd (unfilledFamily rows flow) events ↔
      EachStep (familyStep parent) (EndsWithDueFill parent) (unfilledFamily rows flow) events := by
  have hstart : ReentryOnceAtEnd (unfilledFamily rows flow) := by
    simp [ReentryOnceAtEnd, unfilledFamily]
  exact throughout_iff_eachStep (I := fun _ => True)
    (fun s event _ hlaw => familyStep_law s event hlaw) (fun _ _ _ _ _ => trivial) trivial hstart
    events

end Family

theorem twoAttempts_lt : (2 : ℤ) < 2 ^ 31 := by decide

def stagedParent : StopLossParent where
  reenterOnSlHit := true
  stagedSlReentryOnlyAfterAllStages := true
  originFlowRunId := some 42
  originFlowNodeKey := some "order"
  reentryTriggerNodeKey := some "trigger"
  reentryMaxAttempts := 2
  maxAttempts_lt := twoAttempts_lt
  marketSlug := "btc-updown-5m-1"

def stopLossStage (id : ℤ) : TradeBuilderOrder where
  id
  kind := .conditional
  status := .armed
  side := .sell
  triggerCondition := some .crossBelow
  parentOrderId := some 9
  exitLadderKind := some "sl"

def stageFilled (orderId : ℤ) : StageFill where
  orderId
  forceTerminal := false
  between := []
  stops := false
  pairLock := .notPairLock
  graph := .nodes [⟨⟨"order", "action.place_order"⟩, .object []⟩]
  now := 0
  contextFails := false
  enqueueFails := false

/-- Two stages: the first fills and is held back for the second, which is then cancelled. No
re-entry comes, though it does when the cancel comes first. -/
theorem canceled_stage_loses_reentry :
    let start := unfilledFamily [stopLossStage 11, stopLossStage 12]
      ⟨reentryRun (.object []), [], []⟩
    let fills : FamilyEvent := .fill (stageFilled 11)
    let cancel : FamilyEvent := .write 12 (.setStatus .canceled (some { reason := "user_request" }))
    let after := [fills, cancel].foldl (familyStep stagedParent) start
    after.rows.map (·.status) = [.completed, .canceled] ∧ after.filled = [11] ∧
      after.reentries = [] ∧
      ([cancel, fills].foldl (familyStep stagedParent) start).reentries = [true] ∧
      ¬ Throughout (familyStep stagedParent) ReentryOnceAtEnd start [fills, cancel] := by
  intro start fills cancel after
  refine ⟨by decide +kernel, by decide +kernel, by decide +kernel, by decide +kernel, ?_⟩
  intro h
  have hend : ReentryOnceAtEnd after := h 2
  have hlost : ¬ ReentryOnceAtEnd after := by
    unfold ReentryOnceAtEnd
    decide +kernel
  exact hlost hend

end PolymarketBot.Flow
