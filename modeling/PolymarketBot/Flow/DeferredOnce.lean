import PolymarketBot.Flow.OnceMarks
import PolymarketBot.Lib.Rows

/-! A trigger that stays unfired until an order is accepted: the locks its passes attach to
the order steps, and how many orders one once scope gets. -/

namespace PolymarketBot.Flow
open Lib Lib.Runs

def deferredOnceDefaultRetryDelayMs : ℤ := 150

variable (chrono : Chrono)

def deferredOnceExpiresAt (actionNode : ConfiguredNode) (input : Value) (now : Instant) : Instant :=
  let retryDelayMs :=
    if (nodeConfigBool actionNode.config "priceToBeatEarlyStaleSideEnabled").getD false then
      max 100 (min 60000 ((nodeConfigI64 actionNode "priceToBeatEarlyStaleRetryCooldownMs").getD 500))
    else deferredOnceDefaultRetryDelayMs
  let retryCount :=
    max 1 ((nodeConfigI64 actionNode "priceToBeatEarlyStaleMaxGuardRetriesPerMarket").getD 1)
  let ttlMs := max 30000 (retryDelayMs * retryCount + 15000)
  match ((input.get "cycleWindowEndAt").bind Value.asStr).bind chrono.parseFromRfc3339 with
  | some marketEnd => min (now + 1000000 * ttlMs) marketEnd
  | none => now + 1000000 * ttlMs

def buildDeferredOnceLockMeta (runId : ℤ) (sourceNode targetNode : ConfiguredNode) (input : Value)
    (now : Instant) : Option DeferredOnceLockMeta := do
  let marketSlug ← deferredOnceString input ["market_slug", "marketSlug"]
  let tokenId ← deferredOnceString input
    ["triggered_token_id", "token_id", "tokenId", "triggeredTokenId"]
  let outcomeLabel ← deferredOnceString input
    ["triggered_outcome_label", "outcome_label", "outcomeLabel", "triggeredOutcomeLabel"]
  let onceScopeMarket :=
    (((input.get "once_scope").bind Value.asStr).map (· == "market")).getD
      (isTradeFlowMarketPriceOnceScopeMarket sourceNode)
  some
    { lockKey := s!"flow-deferred-once:{runId}:{sourceNode.key}:{targetNode.key}:" ++
        s!"{marketSlug}:{tokenId}:{outcomeLabel}"
      triggerNodeKey := sourceNode.key
      actionNodeKey := targetNode.key
      marketSlug, tokenId, outcomeLabel, onceScopeMarket
      expiresAt := deferredOnceExpiresAt chrono targetNode input now }

/-- What an edge to an action asks for: no lock, a lock, or nothing as its lock is held. -/
inductive AttachResult | unlocked | locked (lock : DeferredOnceLockMeta) | held
  deriving DecidableEq, Repr

def maybeAttachDeferredOnceLockToActionInput (runId : ℤ) (sourceNode targetNode : ConfiguredNode)
    (input : Value) (now : Instant) (rows : LockTable) : AttachResult × LockTable :=
  if targetNode.nodeType ≠ "action.place_order" then (.unlocked, rows)
  else if !tradeFlowDeferOnceUntilOrderAccepted sourceNode ||
      !((input.get "pass").bind Value.asBool).getD false then (.unlocked, rows)
  else
    match buildDeferredOnceLockMeta chrono runId sourceNode targetNode input now with
    | none => (.unlocked, rows)
    | some lock =>
      let expired := (LockStatement.expireKey lock.lockKey now).exec rows
      if expired.any (·.isPending lock.lockKey) then (.held, expired)
      else (.locked lock, (LockStatement.insert runId lock).exec expired)

/-! ### Runs of one trigger -/

/-- A trigger step at work: the context it loaded, the consumed locks it reconciled there, and
the market it is for. -/
structure TriggerStep where
  loaded : Value
  consumed : LockTable
  firedAt : String
  marketSlug : String

def TriggerStep.view (step : TriggerStep) : Value :=
  (reconcileTradeFlowDeferredOnceLocksForRun step.consumed step.firedAt).run step.loaded

/-- A step of an order node that the trigger's pass has queued, with its repeats. -/
structure ActionStep where
  scope : OnceScope
  lock : Option DeferredOnceLockMeta
  accepted : ℕ := 0
  finished : Bool := false
  deriving DecidableEq, Repr

/-- The lock of a step that is still to be executed. -/
def ActionStep.held (step : ActionStep) : Option DeferredOnceLockMeta :=
  if step.finished then none else step.lock

structure DeferredRun where
  locks : LockTable := []
  triggerSteps : List TriggerStep := []
  actionSteps : List ActionStep := []

/-- What happens in a run, in any order: a trigger step starts from whatever context it loads,
it passes and an edge queues an order step, an order step is executed, or a statement of
others reaches the lock table. -/
inductive DeferredEvent
  | start (loaded : Value) (marketSlug : String) (now : Instant) (firedAt : String)
  | attach (triggerStep : ℕ) (target : ConfiguredNode) (input : Value) (now : Instant)
  | execute (actionStep : ℕ) (now : Instant) (result : Except String TradeFlowNodeExecution)
  | others (statement : LockStatement)

section Run
variable (runId : ℤ) (trigger : ConfiguredNode)

def TriggerStep.onceFired (step : TriggerStep) : Bool :=
  tradeFlowMarketPriceOnceFiredForScope step.view trigger.key
    (isTradeFlowMarketPriceOnceScopeMarket trigger) (some step.marketSlug)

def TriggerStep.scope (step : TriggerStep) : OnceScope :=
  onceScope trigger step.view step.marketSlug

/-- An accepted order is one whose id the execution's output carries. -/
def acceptedOrders : Except String TradeFlowNodeExecution → ℕ
  | .ok execution => if (deferredOnceBuilderOrderId execution.output).isSome then 1 else 0
  | .error _ => 0

/-- Whether the executed step is queued again: a retry, unless its own lock was released as
expired. -/
def isRepeated (rows : LockTable) (lock : Option DeferredOnceLockMeta) (now : Instant) :
    Except String TradeFlowNodeExecution → Bool
  | .ok execution =>
    execution.repeatAt.isSome && !lock.any fun lock =>
      lock.expiresAt ≤ now && (pendingLock rows lock.lockKey).isSome
  | .error _ => false

def ActionStep.executed (rows : LockTable) (now : Instant)
    (result : Except String TradeFlowNodeExecution) (step : ActionStep) : ActionStep :=
  { step with
    accepted := step.accepted + acceptedOrders result
    finished := !isRepeated rows step.lock now result }

def DeferredRun.queue (s : DeferredRun) (scope : OnceScope) :
    AttachResult × LockTable → DeferredRun
  | (.unlocked, locks) => { s with locks, actionSteps := s.actionSteps ++ [⟨scope, none, 0, false⟩] }
  | (.locked lock, locks) =>
    { s with locks, actionSteps := s.actionSteps ++ [⟨scope, some lock, 0, false⟩] }
  | (.held, locks) => { s with locks }

def deferredStep (s : DeferredRun) : DeferredEvent → DeferredRun
  | .start loaded marketSlug now firedAt =>
    let locks := (LockStatement.expireForRun runId now).exec s.locks
    let consumed := listConsumedTradeFlowDeferredOnceLocks runId locks
    { s with locks, triggerSteps := s.triggerSteps ++ [⟨loaded, consumed, firedAt, marketSlug⟩] }
  | .attach triggerStep target input now =>
    match s.triggerSteps[triggerStep]? with
    | none => s
    | some step =>
      if step.onceFired trigger ∨ target.nodeType ≠ "action.place_order" then s
      else s.queue (step.scope trigger)
        (maybeAttachDeferredOnceLockToActionInput chrono runId trigger target input now s.locks)
  | .execute actionStep now result =>
    match s.actionSteps[actionStep]? with
    | none => s
    | some step =>
      if step.finished then s
      else
        { s with
          locks := ((step.lock.bind fun lock => deferredOnceStatement lock now result).map
            (LockStatement.exec s.locks)).getD s.locks
          actionSteps := s.actionSteps.modify actionStep
            (ActionStep.executed s.locks now result) }
  | .others statement => { s with locks := statement.exec s.locks }

/-! ### One order for each scope -/

def ActionStep.acceptedIn (scope : OnceScope) (step : ActionStep) : ℕ :=
  if step.scope = scope then step.accepted else 0

/-- The orders a step of the scope has got, and the one it may still get. -/
def ActionStep.chancesIn (scope : OnceScope) (step : ActionStep) : ℕ :=
  if step.scope = scope then step.accepted + if step.finished then 0 else 1 else 0

def acceptedIn (s : DeferredRun) (scope : OnceScope) : ℕ :=
  (s.actionSteps.map (ActionStep.acceptedIn scope)).sum

def chancesIn (s : DeferredRun) (scope : OnceScope) : ℕ :=
  (s.actionSteps.map (ActionStep.chancesIn scope)).sum

def AtMostOneOrder (s : DeferredRun) : Prop := ∀ scope, acceptedIn s scope ≤ 1

/-- The lock is one for the market of the scope, or for the run when that is the scope. -/
def DeferredOnceLockMeta.isFor (lock : DeferredOnceLockMeta) (scope : OnceScope) : Bool :=
  match scope.market with
  | none => !lock.onceScopeMarket
  | some market => lock.onceScopeMarket && trimmedSlug (some lock.marketSlug) = some market

/-- The statement does not end a pending lock: it is not about its key, or comes before the
lock runs out. -/
def LockStatement.Spares (lock : DeferredOnceLockMeta) : LockStatement → Prop
  | .expireForRun run now => run = runId → now < lock.expiresAt
  | .expireKey lockKey now => lockKey = lock.lockKey → now < lock.expiresAt
  | .insert _ _ => True
  | .release lockKey _ => lockKey ≠ lock.lockKey
  | .consume lockKey _ _ => lockKey ≠ lock.lockKey

/-- A statement ends the lock of no order step that is still to be executed. -/
def SparesHeld (s : DeferredRun) (statement : LockStatement) : Prop :=
  ∀ step ∈ s.actionSteps, ∀ lock ∈ step.held, statement.Spares runId lock

/-- A lock of the trigger has been consumed for the scope. -/
def Taken (rows : LockTable) (scope : OnceScope) : Prop :=
  ∃ row ∈ rows, row.runId = runId ∧ row.state = .consumed ∧ row.triggerNodeKey = trigger.key ∧
    row.isFor scope

/-- The last lock of the trigger that the step has reconciled is for its scope, and it is not a
publish lock of the context that hides it. -/
def TriggerStep.SawTaken (step : TriggerStep) : Prop :=
  ∃ last ∈ (locksOf trigger.key step.consumed).getLast?, last.isFor (step.scope trigger) ∧
    ∀ market ∈ last.market, stateText (onceMark step.loaded trigger.key).publishLock = some market →
      trimmedSlug (some step.marketSlug) = some market

/-- The lock that an edge asks for is for the scope of its step, and is the one that each open
order step of the scope holds. -/
def AsksForScope (s : DeferredRun) (step : TriggerStep) (now : Instant)
    (lock : DeferredOnceLockMeta) : Prop :=
  lock.isFor (step.scope trigger) ∧
    SparesHeld runId s (.expireKey lock.lockKey now) ∧
    ∀ other ∈ s.actionSteps, other.scope = step.scope trigger →
      ∀ held ∈ other.held, held.lockKey = lock.lockKey

/-- The locks do their work: an edge asks for the one lock of its scope, a step has reconciled
the last lock consumed for it, no lock is taken from an open order step, and an execution that
retries carries no order. -/
def OneLock (s : DeferredRun) : DeferredEvent → Prop
  | .start _ _ now _ => SparesHeld runId s (.expireForRun runId now)
  | .attach triggerStep target input now => ∀ step ∈ s.triggerSteps[triggerStep]?,
      step.onceFired trigger = true ∨ target.nodeType ≠ "action.place_order" ∨
        ((input.get "pass").bind Value.asBool = some true ∧
          (∃ lock ∈ buildDeferredOnceLockMeta chrono runId trigger target input now,
            AsksForScope runId trigger s step now lock) ∧
          (Taken runId trigger s.locks (step.scope trigger) → step.SawTaken trigger))
  | .execute _ _ (.ok execution) =>
      execution.isRetrying → deferredOnceBuilderOrderId execution.output = none
  | .execute _ _ (.error _) => True
  | .others statement => SparesHeld runId s statement

instance (lock : DeferredOnceLockMeta) : DecidablePred (LockStatement.Spares runId lock)
  | .expireForRun .. => inferInstanceAs (Decidable (_ → _))
  | .expireKey .. => inferInstanceAs (Decidable (_ → _))
  | .insert .. => inferInstanceAs (Decidable True)
  | .release .. => inferInstanceAs (Decidable (_ ≠ _))
  | .consume .. => inferInstanceAs (Decidable (_ ≠ _))

instance (s : DeferredRun) : DecidablePred (SparesHeld runId s) := fun _ =>
  inferInstanceAs (Decidable (∀ _ ∈ _, ∀ _ ∈ _, _))

instance (rows : LockTable) : DecidablePred (Taken runId trigger rows) := fun _ =>
  inferInstanceAs (Decidable (∃ _ ∈ _, _))

instance (step : TriggerStep) : Decidable (step.SawTaken trigger) :=
  inferInstanceAs (Decidable (∃ _ ∈ _, _ ∧ ∀ _ ∈ _, _ → _))

instance (s : DeferredRun) (step : TriggerStep) (now : Instant) :
    DecidablePred (AsksForScope runId trigger s step now) := fun _ =>
  inferInstanceAs (Decidable (_ ∧ _ ∧ ∀ _ ∈ _, _ → ∀ _ ∈ _, _))

instance (s : DeferredRun) : DecidablePred (OneLock chrono runId trigger s)
  | .start .. => inferInstanceAs (Decidable (SparesHeld ..))
  | .attach .. => inferInstanceAs (Decidable (∀ _ ∈ _, _ ∨ _ ∨ (_ ∧ (∃ _ ∈ _, _) ∧ (_ → _))))
  | .execute _ _ (.ok _) => inferInstanceAs (Decidable (_ → _))
  | .execute _ _ (.error _) => inferInstanceAs (Decidable True)
  | .others _ => inferInstanceAs (Decidable (SparesHeld ..))

variable {chrono runId trigger} {s : DeferredRun}

/-! ### What the statements leave -/

def DeferredOnceLockMeta.row (runId : ℤ) (lock : DeferredOnceLockMeta) : DeferredOnceLock where
  toDeferredOnceLockMeta := lock
  runId := runId

theorem mem_map_of_kept {rows : LockTable} {row : DeferredOnceLock}
    {f : DeferredOnceLock → DeferredOnceLock} (h : row ∈ rows) (hf : f row = row) :
    row ∈ rows.map f :=
  List.mem_map.mpr ⟨row, h, hf⟩

theorem consumed_stays {rows : LockTable} {row : DeferredOnceLock} (h : row ∈ rows)
    (hstate : row.state = .consumed) (statement : LockStatement) : row ∈ statement.exec rows := by
  have hkey : ∀ lockKey, row.isPending lockKey = false := by
    intro lockKey
    simp [DeferredOnceLock.isPending, hstate]
  cases statement with
  | expireForRun run now => exact mem_map_of_kept h (if_neg (by simp [hstate]))
  | expireKey lockKey now => exact mem_map_of_kept h (if_neg (by simp [hkey]))
  | insert run input =>
    simp only [LockStatement.exec]
    split
    · exact h
    · exact List.mem_append_left _ h
  | release lockKey releaseReason => exact mem_map_of_kept h (if_neg (by simp [hkey]))
  | consume lockKey builderOrderId now => exact mem_map_of_kept h (if_neg (by simp [hkey]))

theorem spared_stays {rows : LockTable} {lock : DeferredOnceLockMeta} (h : lock.row runId ∈ rows)
    {statement : LockStatement} (hspares : statement.Spares runId lock) :
    lock.row runId ∈ statement.exec rows := by
  cases statement with
  | expireForRun run now =>
    refine mem_map_of_kept h (if_neg ?_)
    rintro ⟨hrun, -, hexpired⟩
    exact absurd hexpired (not_le.mpr (hspares hrun.symm))
  | expireKey lockKey now =>
    refine mem_map_of_kept h (if_neg ?_)
    rintro ⟨hpending, hexpired⟩
    have hkey : lock.lockKey = lockKey := of_decide_eq_true (Bool.and_eq_true_iff.mp hpending).1
    exact absurd hexpired (not_le.mpr (hspares hkey.symm))
  | insert run input =>
    simp only [LockStatement.exec]
    split
    · exact h
    · exact List.mem_append_left _ h
  | release lockKey releaseReason =>
    have hother : lock.lockKey ≠ lockKey := Ne.symm hspares
    exact mem_map_of_kept h (if_neg (by simp [DeferredOnceLockMeta.row,
      DeferredOnceLock.isPending, hother]))
  | consume lockKey builderOrderId now =>
    have hother : lock.lockKey ≠ lockKey := Ne.symm hspares
    exact mem_map_of_kept h (if_neg (by simp [DeferredOnceLockMeta.row,
      DeferredOnceLock.isPending, hother]))

theorem row_isPending (lock : DeferredOnceLockMeta) :
    (lock.row runId).isPending lock.lockKey = true := by
  simp [DeferredOnceLockMeta.row, DeferredOnceLock.isPending]

theorem any_pending_of_row {rows : LockTable} {lock : DeferredOnceLockMeta}
    (h : lock.row runId ∈ rows) : rows.any (·.isPending lock.lockKey) = true :=
  List.any_eq_true.mpr ⟨lock.row runId, h, row_isPending lock⟩

theorem Taken.exec {rows : LockTable} {scope : OnceScope} (h : Taken runId trigger rows scope)
    (statement : LockStatement) : Taken runId trigger (statement.exec rows) scope := by
  obtain ⟨row, hrow, hrun, hstate, hfor⟩ := h
  exact ⟨row, consumed_stays hrow hstate statement, hrun, hstate, hfor⟩

theorem taken_consume {rows : LockTable} {scope : OnceScope} {lock : DeferredOnceLockMeta}
    (h : lock.row runId ∈ rows) (hkey : lock.triggerNodeKey = trigger.key)
    (hfor : lock.isFor scope = true) (builderOrderId : ℤ) (now : Instant) :
    Taken runId trigger ((LockStatement.consume lock.lockKey builderOrderId now).exec rows)
      scope := by
  refine ⟨{ lock.row runId with
    state := .consumed, builderOrderId := some builderOrderId, consumedAt := some now }, ?_,
    rfl, rfl, hkey, hfor⟩
  exact List.mem_map.mpr ⟨lock.row runId, h, if_pos (row_isPending lock)⟩

/-! ### A scope with an accepted order is known as fired -/

theorem isFor_scope {step : TriggerStep} {lock : DeferredOnceLockMeta}
    (h : lock.isFor (step.scope trigger) = true) :
    lock.onceScopeMarket = isTradeFlowMarketPriceOnceScopeMarket trigger ∧
      (lock.onceScopeMarket = true → (trimmedSlug (some step.marketSlug)).isSome ∧
        trimmedSlug (some lock.marketSlug) = trimmedSlug (some step.marketSlug)) := by
  unfold DeferredOnceLockMeta.isFor TriggerStep.scope onceScope at h
  cases hmarket : isTradeFlowMarketPriceOnceScopeMarket trigger with
  | false =>
    simp only [hmarket, Bool.false_eq_true, if_false, Bool.not_eq_true'] at h
    simp [h]
  | true =>
    simp only [hmarket, if_true, Bool.and_eq_true, decide_eq_true_eq] at h
    obtain ⟨hscope, hslug⟩ := h
    have hnamed : trim step.marketSlug ≠ "" := by
      rintro hblank
      rw [hblank] at hslug
      simp [trimmedSlug, Option.filter_some] at hslug
    have hstep : trimmedSlug (some step.marketSlug) = some (trim step.marketSlug) := by
      simp [trimmedSlug, Option.filter_some, hnamed]
    simp [hscope, hslug, hstep]

theorem onceFired_of_sawTaken {step : TriggerStep} (h : step.SawTaken trigger) :
    step.onceFired trigger = true := by
  obtain ⟨last, hlast, hfor, hpublish⟩ := h
  obtain ⟨hscope, hmarket⟩ := isFor_scope hfor
  obtain ⟨before, hlocks⟩ := List.getLast?_eq_some_iff.mp hlast
  have hview : onceMark step.view trigger.key =
      (onceMark step.loaded trigger.key).reconcile step.firedAt
        (locksOf trigger.key step.consumed) :=
    onceMark_reconcile step.consumed step.firedAt step.loaded trigger.key
  unfold TriggerStep.onceFired
  rw [← OnceMark.firedFor_onceMark, hview, OnceMark.reconcile_eq, ← hscope]
  split
  · -- Every lock was known before: so was the last one, and by a mark of its scope.
    rename_i hknown
    have hlastKnown : (onceMark step.loaded trigger.key).knows last = true :=
      (OnceMark.unknown_eq_nil _).mp hknown last (by simp [hlocks])
    rw [OnceMark.knows] at hlastKnown
    cases hmode : last.onceScopeMarket with
    | true =>
      rw [hmode, OnceMark.firedFor_congr _ true (hmarket hmode).2] at hlastKnown
      exact hlastKnown
    | false =>
      rw [hmode] at hlastKnown
      exact OnceMark.firedFor_run hlastKnown hpublish
  · rename_i hunknown
    obtain ⟨mid, hmid⟩ : ∃ mid, (onceMark step.loaded trigger.key).unknown
        (locksOf trigger.key step.consumed) = mid ++ [last] := by
      rw [hlocks] at hunknown ⊢
      exact OnceMark.unknown_ends hunknown
    rw [OnceMark.firedFor_marked (lastMarket_trimmed rfl _)]
    intro htrue
    obtain ⟨hnamed, hslug⟩ := hmarket htrue
    refine ⟨hnamed, ?_⟩
    rw [hmid, lastMarket, List.foldl_concat, takenMarket, if_pos htrue]
    exact hslug

/-! ### The books of a run -/

variable (runId trigger) in
/-- Every open order step holds a pending lock of the trigger for its scope, no two of them the
same one, and an order that was accepted has consumed a lock for its scope. -/
structure Booked (s : DeferredRun) : Prop where
  locked : ∀ step ∈ s.actionSteps, step.finished = false → ∃ lock ∈ step.held,
    lock.row runId ∈ s.locks ∧ lock.triggerNodeKey = trigger.key ∧ lock.isFor step.scope
  taken : ∀ step ∈ s.actionSteps, 0 < step.accepted → Taken runId trigger s.locks step.scope
  apart : ∀ (i j : ℕ) (step step' : ActionStep) (lock lock' : DeferredOnceLockMeta),
    s.actionSteps[i]? = some step → s.actionSteps[j]? = some step' → lock ∈ step.held →
      lock' ∈ step'.held → lock.lockKey = lock'.lockKey → i = j

theorem held_of_open {step : ActionStep} (h : step.finished = false) : step.held = step.lock := by
  simp [ActionStep.held, h]

theorem open_of_held {step : ActionStep} {lock : DeferredOnceLockMeta} (h : lock ∈ step.held) :
    step.finished = false ∧ step.lock = some lock := by
  unfold ActionStep.held at h
  split at h
  · cases h
  · rename_i hopen
    exact ⟨Bool.eq_false_iff.mpr hopen, h⟩

theorem Booked.nil : Booked runId trigger {} where
  locked := fun step hstep => absurd hstep List.not_mem_nil
  taken := fun step hstep => absurd hstep List.not_mem_nil
  apart := fun i j step step' lock lock' hstep => by simp at hstep

theorem Booked.exec (h : Booked runId trigger s) {statement : LockStatement}
    (hspares : SparesHeld runId s statement) (triggerSteps : List TriggerStep) :
    Booked runId trigger { s with locks := statement.exec s.locks, triggerSteps } where
  locked step hstep hopen := by
    obtain ⟨lock, hlock, hrow, hlockFor⟩ := h.locked step hstep hopen
    exact ⟨lock, hlock, spared_stays hrow (hspares step hstep lock hlock), hlockFor⟩
  taken step hstep haccepted := (h.taken step hstep haccepted).exec statement
  apart := h.apart

theorem attach_eq {target : ConfiguredNode} {input : Value} {now : Instant}
    {lock : DeferredOnceLockMeta} (htrigger : tradeFlowDeferOnceUntilOrderAccepted trigger = true)
    (htarget : target.nodeType = "action.place_order")
    (hpass : (input.get "pass").bind Value.asBool = some true)
    (hlock : buildDeferredOnceLockMeta chrono runId trigger target input now = some lock)
    (rows : LockTable) :
    maybeAttachDeferredOnceLockToActionInput chrono runId trigger target input now rows =
      if ((LockStatement.expireKey lock.lockKey now).exec rows).any (·.isPending lock.lockKey) then
        (.held, (LockStatement.expireKey lock.lockKey now).exec rows)
      else (.locked lock, (LockStatement.insert runId lock).exec
        ((LockStatement.expireKey lock.lockKey now).exec rows)) := by
  simp [maybeAttachDeferredOnceLockToActionInput, htarget, htrigger, hpass, hlock]

theorem buildDeferredOnceLockMeta_trigger {target : ConfiguredNode} {input : Value} {now : Instant}
    {lock : DeferredOnceLockMeta}
    (h : buildDeferredOnceLockMeta chrono runId trigger target input now = some lock) :
    lock.triggerNodeKey = trigger.key := by
  unfold buildDeferredOnceLockMeta at h
  simp only [Option.bind_eq_bind, Option.bind_eq_some_iff, Option.some.injEq] at h
  obtain ⟨_, _, _, _, _, _, rfl⟩ := h
  rfl

theorem Booked.free (h : Booked runId trigger s) {lockKey : String}
    (hfree : s.locks.any (·.isPending lockKey) = false) {step : ActionStep}
    (hstep : step ∈ s.actionSteps) {lock : DeferredOnceLockMeta} (hlock : lock ∈ step.held) :
    lock.lockKey ≠ lockKey := by
  rintro rfl
  obtain ⟨held, hheld, hrow, -⟩ := h.locked step hstep (open_of_held hlock).1
  obtain rfl : held = lock := Option.mem_unique hheld hlock
  rw [any_pending_of_row hrow] at hfree
  cases hfree

theorem Booked.queue (h : Booked runId trigger s) {scope : OnceScope} {lock : DeferredOnceLockMeta}
    (hkey : lock.triggerNodeKey = trigger.key) (hfor : lock.isFor scope = true)
    (hfree : s.locks.any (·.isPending lock.lockKey) = false) :
    Booked runId trigger (s.queue scope (.locked lock,
      (LockStatement.insert runId lock).exec s.locks)) := by
  have hinsert : (LockStatement.insert runId lock).exec s.locks = s.locks ++ [lock.row runId] :=
    if_neg (by simp [hfree])
  have hnew : ∀ step ∈ s.actionSteps ++ [(⟨scope, some lock, 0, false⟩ : ActionStep)],
      step ∈ s.actionSteps ∨ step = ⟨scope, some lock, 0, false⟩ := by simp
  simp only [DeferredRun.queue, hinsert]
  refine ⟨fun step hstep hopen => ?_, fun step hstep haccepted => ?_, ?_⟩
  · rcases hnew step hstep with hold | rfl
    · obtain ⟨held, hheld, hrow, hheldFor⟩ := h.locked step hold hopen
      exact ⟨held, hheld, List.mem_append_left _ hrow, hheldFor⟩
    · exact ⟨lock, rfl, by simp, hkey, hfor⟩
  · rcases hnew step hstep with hold | rfl
    · have htaken := (h.taken step hold haccepted).exec (.insert runId lock)
      rwa [hinsert] at htaken
    · cases haccepted
  · have hold : ∀ {i : ℕ} {step : ActionStep} {held : DeferredOnceLockMeta},
        (s.actionSteps ++ [(⟨scope, some lock, 0, false⟩ : ActionStep)])[i]? = some step →
        held ∈ step.held → s.actionSteps[i]? = some step ∧ held.lockKey ≠ lock.lockKey ∨
          i = s.actionSteps.length ∧ held = lock := by
      intro i step held hstep hheld
      rcases lt_or_ge i s.actionSteps.length with hlt | hge
      · rw [List.getElem?_append_left hlt] at hstep
        exact .inl ⟨hstep, h.free hfree (List.mem_of_getElem? hstep) hheld⟩
      · rw [List.getElem?_append_right hge, List.getElem?_singleton] at hstep
        split at hstep
        · cases hstep
          exact .inr ⟨by omega, (Option.some.inj hheld).symm⟩
        · cases hstep
    intro i j step step' held held' hi hj hheld hheld' hsame
    rcases hold hi hheld with ⟨hi', hne⟩ | ⟨rfl, rfl⟩
    · rcases hold hj hheld' with ⟨hj', -⟩ | ⟨rfl, rfl⟩
      · exact h.apart i j step step' held held' hi' hj' hheld hheld' hsame
      · exact absurd hsame hne
    · rcases hold hj hheld' with ⟨-, hne'⟩ | ⟨rfl, -⟩
      · exact absurd hsame.symm hne'
      · rfl

theorem executed_held {rows : LockTable} {now : Instant}
    {result : Except String TradeFlowNodeExecution} {step : ActionStep}
    (hopen : step.finished = false) {lock : DeferredOnceLockMeta}
    (h : lock ∈ (step.executed rows now result).held) :
    isRepeated rows step.lock now result = true ∧ lock ∈ step.held := by
  obtain ⟨hrepeated, hlock⟩ := open_of_held h
  exact ⟨by simpa [ActionStep.executed] using hrepeated, by rwa [held_of_open hopen]⟩

theorem no_statement_of_repeated {rows : LockTable} {lock : DeferredOnceLockMeta} {now : Instant}
    {result : Except String TradeFlowNodeExecution} (hrow : lock.row runId ∈ rows)
    (h : isRepeated rows (some lock) now result = true) :
    deferredOnceStatement lock now result = none := by
  have hfound : (pendingLock rows lock.lockKey).isSome = true :=
    List.find?_isSome.mpr ⟨lock.row runId, hrow, row_isPending lock⟩
  cases result with
  | error errorText => cases h
  | ok execution =>
    simp only [isRepeated, Option.any_some, hfound, Bool.and_true, Bool.and_eq_true,
      Bool.not_eq_true', decide_eq_false_iff_not] at h
    simp [deferredOnceStatement, TradeFlowNodeExecution.isRetrying, h.1, h.2]

theorem consume_of_accepted (lock : DeferredOnceLockMeta) {i : ℕ} {now : Instant}
    {result : Except String TradeFlowNodeExecution} (haccepted : 0 < acceptedOrders result)
    (h : OneLock chrono runId trigger s (.execute i now result)) :
    ∃ builderOrderId, deferredOnceStatement lock now result =
      some (.consume lock.lockKey builderOrderId now) := by
  cases result with
  | error errorText => cases haccepted
  | ok execution =>
    cases hid : deferredOnceBuilderOrderId execution.output with
    | none => simp [acceptedOrders, hid] at haccepted
    | some builderOrderId =>
      have hsettled : execution.isRetrying ≠ true := fun hretrying => by
        rw [h hretrying] at hid
        cases hid
      exact ⟨builderOrderId, by simp [deferredOnceStatement, hsettled, hid]⟩

theorem Booked.execute (h : Booked runId trigger s) {i : ℕ} {now : Instant}
    {result : Except String TradeFlowNodeExecution} {step : ActionStep}
    (hstep : s.actionSteps[i]? = some step) (hopen : step.finished = false)
    (hevent : OneLock chrono runId trigger s (.execute i now result)) :
    Booked runId trigger (deferredStep chrono runId trigger s (.execute i now result)) := by
  obtain ⟨lock, hlock, hrow, hkey, hfor⟩ := h.locked step (List.mem_of_getElem? hstep) hopen
  have hmeta : step.lock = some lock := (open_of_held hlock).2
  simp only [deferredStep, hstep, hopen, Bool.false_eq_true, if_false, hmeta, Option.bind_some]
  have hplaces {j : ℕ} {step' : ActionStep}
      (hj : (s.actionSteps.modify i (ActionStep.executed s.locks now result))[j]? = some step') :=
    Rows.getElem?_modify_cases hstep hj
  have hrepeat (hrepeated : isRepeated s.locks step.lock now result = true) :
      deferredOnceStatement lock now result = none :=
    no_statement_of_repeated hrow (hmeta ▸ hrepeated)
  refine ⟨fun step' hstep' hopen' => ?_, fun step' hstep' haccepted => ?_, ?_⟩
  · obtain ⟨j, hj⟩ := List.mem_iff_getElem?.mp hstep'
    rcases hplaces hj with ⟨rfl, rfl⟩ | ⟨hne, hj⟩
    · have hheld : lock ∈ (step.executed s.locks now result).held := by
        rw [held_of_open hopen']
        exact hmeta
      have hnone := hrepeat (executed_held hopen hheld).1
      simp only [hnone, Option.map_none, Option.getD_none]
      exact ⟨lock, hheld, hrow, hkey, hfor⟩
    · obtain ⟨lock', hlock', hrow', hlockFor'⟩ :=
        h.locked step' (List.mem_of_getElem? hj) hopen'
      refine ⟨lock', hlock', ?_, hlockFor'⟩
      have hother : lock.lockKey ≠ lock'.lockKey := fun hsame =>
        hne (h.apart i j step step' lock lock' hstep hj hlock hlock' hsame).symm
      cases hstatement : deferredOnceStatement lock now result with
      | none => exact hrow'
      | some statement =>
        refine spared_stays hrow' ?_
        rcases deferredOnceStatement_cases hstatement with ⟨reason, rfl⟩ | ⟨orderId, rfl⟩
        · exact hother
        · exact hother
  · obtain ⟨j, hj⟩ := List.mem_iff_getElem?.mp hstep'
    have hkept {scope : OnceScope} (htaken : Taken runId trigger s.locks scope) :
        Taken runId trigger (((deferredOnceStatement lock now result).map
          (LockStatement.exec s.locks)).getD s.locks) scope := by
      cases deferredOnceStatement lock now result with
      | none => exact htaken
      | some statement => exact htaken.exec statement
    rcases hplaces hj with ⟨rfl, rfl⟩ | ⟨-, hj⟩
    · by_cases hnew : 0 < acceptedOrders result
      · obtain ⟨builderOrderId, hconsume⟩ := consume_of_accepted lock hnew hevent
        simp only [hconsume, Option.map_some, Option.getD_some]
        exact taken_consume hrow hkey hfor builderOrderId now
      · refine hkept (h.taken step (List.mem_of_getElem? hstep) ?_)
        simpa [ActionStep.executed, Nat.eq_zero_of_not_pos hnew] using haccepted
    · exact hkept (h.taken step' (List.mem_of_getElem? hj) haccepted)
  · have hold {j : ℕ} {step' : ActionStep} {held : DeferredOnceLockMeta}
        (hj : (s.actionSteps.modify i (ActionStep.executed s.locks now result))[j]? = some step')
        (hheld : held ∈ step'.held) :
        ∃ before, s.actionSteps[j]? = some before ∧ held ∈ before.held := by
      rcases hplaces hj with ⟨rfl, rfl⟩ | ⟨-, hj⟩
      · exact ⟨step, hstep, (executed_held hopen hheld).2⟩
      · exact ⟨step', hj, hheld⟩
    intro j k step' step'' held held' hj hk hheld hheld' hsame
    obtain ⟨before, hbefore, hheldBefore⟩ := hold hj hheld
    obtain ⟨before', hbefore', hheldBefore'⟩ := hold hk hheld'
    exact h.apart j k before before' held held' hbefore hbefore' hheldBefore hheldBefore' hsame

/-! ### One chance for each scope -/

theorem acceptedIn_le (s : DeferredRun) (scope : OnceScope) : acceptedIn s scope ≤ chancesIn s scope := by
  unfold acceptedIn chancesIn
  refine List.sum_le_sum fun step _ => ?_
  unfold ActionStep.acceptedIn ActionStep.chancesIn
  split <;> omega

theorem executed_chances {execution : Except String TradeFlowNodeExecution} {rows : LockTable}
    {now : Instant} {step : ActionStep} (hopen : step.finished = false)
    (h : isRepeated rows step.lock now execution = true → acceptedOrders execution = 0)
    (scope : OnceScope) :
    (step.executed rows now execution).chancesIn scope ≤ step.chancesIn scope := by
  have horders : acceptedOrders execution ≤ 1 := by
    unfold acceptedOrders
    split
    · split <;> omega
    · omega
  unfold ActionStep.chancesIn ActionStep.executed
  simp only [hopen]
  split
  · cases hrepeat : isRepeated rows step.lock now execution with
    | true =>
      have hnone := h hrepeat
      simp [hnone]
    | false => simpa using horders
  · exact le_refl 0

theorem queue_chances (scope : OnceScope) (attached : AttachResult × LockTable)
    (scope' : OnceScope) :
    chancesIn (s.queue scope attached) scope' ≤ chancesIn s scope' +
      if scope = scope' ∧ attached.1 ≠ .held then 1 else 0 := by
  obtain ⟨result, locks⟩ := attached
  unfold chancesIn DeferredRun.queue
  cases result <;> by_cases h : scope = scope' <;> simp [ActionStep.chancesIn, h]

theorem chancesIn_eq_zero {scope : OnceScope}
    (h : ∀ other ∈ s.actionSteps, other.scope = scope →
      other.finished = true ∧ other.accepted = 0) : chancesIn s scope = 0 := by
  unfold chancesIn
  rw [List.sum_eq_zero_iff]
  intro n hn
  obtain ⟨other, hother, rfl⟩ := List.mem_map.mp hn
  unfold ActionStep.chancesIn
  split
  · rename_i hscope
    obtain ⟨hfinished, haccepted⟩ := h other hother hscope
    simp [hfinished, haccepted]
  · rfl

theorem Booked.none_of_free (h : Booked runId trigger s) {step : TriggerStep}
    {lock : DeferredOnceLockMeta} (hunfired : step.onceFired trigger ≠ true)
    (hsame : ∀ other ∈ s.actionSteps, other.scope = step.scope trigger →
      ∀ held ∈ other.held, held.lockKey = lock.lockKey)
    (hsaw : ∀ other ∈ s.actionSteps, other.scope = step.scope trigger → 0 < other.accepted →
      step.SawTaken trigger)
    (hfree : s.locks.any (·.isPending lock.lockKey) = false) {other : ActionStep}
    (hother : other ∈ s.actionSteps) (hscope : other.scope = step.scope trigger) :
    other.finished = true ∧ other.accepted = 0 := by
  constructor
  · by_contra hopen
    obtain ⟨held, hheld, -⟩ := h.locked other hother (Bool.eq_false_iff.mpr hopen)
    exact h.free hfree hother hheld (hsame other hother hscope held hheld)
  · by_contra haccepted
    have hsawTaken := hsaw other hother hscope (Nat.pos_of_ne_zero haccepted)
    exact hunfired (onceFired_of_sawTaken hsawTaken)

variable (runId trigger) in
/-- What a run keeps: its books, and at most one order got or to be got in every scope. -/
def OneChance (s : DeferredRun) : Prop :=
  Booked runId trigger s ∧ ∀ scope, chancesIn s scope ≤ 1

theorem OneChance.attach (h : OneChance runId trigger s)
    (htrigger : tradeFlowDeferOnceUntilOrderAccepted trigger = true) {step : TriggerStep}
    {target : ConfiguredNode} {input : Value} {now : Instant} {lock : DeferredOnceLockMeta}
    (hunfired : step.onceFired trigger ≠ true) (htarget : target.nodeType = "action.place_order")
    (hpass : (input.get "pass").bind Value.asBool = some true)
    (hlock : buildDeferredOnceLockMeta chrono runId trigger target input now = some lock)
    (hasks : AsksForScope runId trigger s step now lock)
    (hsaw : Taken runId trigger s.locks (step.scope trigger) → step.SawTaken trigger) :
    OneChance runId trigger (s.queue (step.scope trigger)
      (maybeAttachDeferredOnceLockToActionInput chrono runId trigger target input now s.locks)) := by
  obtain ⟨hbooked, hchances⟩ := h
  obtain ⟨hfor, hspares, hsame⟩ := hasks
  have hexpired := hbooked.exec hspares s.triggerSteps
  rw [attach_eq htrigger htarget hpass hlock]
  cases hpending : ((LockStatement.expireKey lock.lockKey now).exec s.locks).any
      (·.isPending lock.lockKey) with
  | true => exact ⟨hexpired, hchances⟩
  | false =>
    refine ⟨hexpired.queue (buildDeferredOnceLockMeta_trigger hlock) hfor hpending, fun scope => ?_⟩
    have hqueue := queue_chances (s := s) (step.scope trigger) (.locked lock,
      (LockStatement.insert runId lock).exec ((LockStatement.expireKey lock.lockKey now).exec s.locks))
      scope
    refine hqueue.trans ?_
    by_cases hscope : step.scope trigger = scope
    · have hzero : chancesIn s scope = 0 := chancesIn_eq_zero fun other hother hother' =>
        hexpired.none_of_free hunfired hsame
          (fun taker htaker htaker' haccepted =>
            hsaw (htaker' ▸ hbooked.taken taker htaker haccepted))
          hpending hother (hother'.trans hscope.symm)
      rw [hzero]
      split <;> omega
    · simpa [hscope] using hchances scope

theorem deferredStep_oneChance (htrigger : tradeFlowDeferOnceUntilOrderAccepted trigger = true)
    (h : OneChance runId trigger s) (event : DeferredEvent)
    (hevent : OneLock chrono runId trigger s event) :
    OneChance runId trigger (deferredStep chrono runId trigger s event) := by
  cases event with
  | start loaded marketSlug now firedAt => exact ⟨h.1.exec hevent _, h.2⟩
  | others statement => exact ⟨h.1.exec hevent s.triggerSteps, h.2⟩
  | attach triggerStep target input now =>
    simp only [deferredStep]
    cases hstep : s.triggerSteps[triggerStep]? with
    | none => exact h
    | some step =>
      by_cases hblocked : step.onceFired trigger ∨ target.nodeType ≠ "action.place_order"
      · simpa only [if_pos hblocked] using h
      · simp only [if_neg hblocked]
        rw [not_or, not_not] at hblocked
        obtain ⟨hunfired, htarget⟩ := hblocked
        rcases hevent step hstep with hfired | htype | ⟨hpass, ⟨lock, hlock, hasks⟩, hsaw⟩
        · exact absurd hfired hunfired
        · exact absurd htarget htype
        · exact h.attach htrigger hunfired htarget hpass hlock hasks hsaw
  | execute actionStep now result =>
    cases hstep : s.actionSteps[actionStep]? with
    | none => simpa only [deferredStep, hstep] using h
    | some step =>
      cases hfinished : step.finished with
      | true => simpa only [deferredStep, hstep, hfinished, if_true] using h
      | false =>
        refine ⟨h.1.execute hstep hfinished hevent, fun scope => ?_⟩
        have hrepeat : isRepeated s.locks step.lock now result = true →
            acceptedOrders result = 0 := by
          intro hrepeated
          cases result with
          | error errorText => rfl
          | ok execution =>
            have hretrying : execution.isRetrying = true := by
              have hsome : execution.repeatAt.isSome = true :=
                (Bool.and_eq_true_iff.mp hrepeated).1
              simp [TradeFlowNodeExecution.isRetrying, hsome]
            simp [acceptedOrders, hevent hretrying]
        have hle := Rows.sum_map_modify_le (ActionStep.chancesIn scope)
          (ActionStep.executed s.locks now result) s.actionSteps actionStep
          fun found hfound => by
            rw [hstep] at hfound
            obtain rfl := Option.some.inj hfound
            exact executed_chances hfinished hrepeat scope
        simp only [deferredStep, hstep, hfinished, Bool.false_eq_true, if_false]
        exact hle.trans (h.2 scope)

/-- In a run whose locks do their work, each scope of the trigger gets at most one accepted
order, whatever outcomes its passes name, however often its steps are retried and whatever
contexts are loaded. -/
theorem deferred_once_at_most_one (chrono : Chrono) (runId : ℤ) (trigger : ConfiguredNode)
    (htrigger : tradeFlowDeferOnceUntilOrderAccepted trigger = true) (events : List DeferredEvent)
    (h : EachStep (deferredStep chrono runId trigger) (OneLock chrono runId trigger) {} events) :
    Throughout (deferredStep chrono runId trigger) AtMostOneOrder {} events :=
  h.throughout (I := OneChance runId trigger)
    (fun s hs scope => (acceptedIn_le s scope).trans (hs.2 scope))
    (fun s event hs hevent => deferredStep_oneChance htrigger hs event hevent)
    ⟨Booked.nil, fun scope => by simp [chancesIn]⟩

end Run

def marketTrigger : ConfiguredNode where
  key := "trigger"
  nodeType := "trigger.market_price"
  config := .object [("repeatMode", .string "once"), ("onceScope", .string "market"),
    ("deferOnceUntilOrderAccepted", .bool true)]

def orderNode : ConfiguredNode where
  key := "action"
  nodeType := "action.place_order"
  config := .object []

def passFor (tokenId outcomeLabel : String) : Value :=
  .object [("pass", .bool true), ("market_slug", .string "btc-updown-5m-1"),
    ("triggered_token_id", .string tokenId), ("triggered_outcome_label", .string outcomeLabel)]

def orderAccepted (builderOrderId : ℤ) : Except String TradeFlowNodeExecution :=
  .ok ⟨.object [("builder_order_id", jsonI64 builderOrderId)], none⟩

/-- A second pass while the first one's order is on its way finds the lock held, and a pass of
the other outcome after it is known finds the trigger fired. -/
theorem deferred_once_second_pass_blocked :
    let events := [.start (.object []) "btc-updown-5m-1" 0 "t0",
      .start (.object []) "btc-updown-5m-1" 0 "t0",
      .attach 0 orderNode (passFor "tok-up" "Up") 0,
      .attach 1 orderNode (passFor "tok-up" "Up") 500000000,
      .execute 0 1000000000 (orderAccepted 7),
      .start (.object []) "btc-updown-5m-1" 1500000000 "t2",
      .attach 2 orderNode (passFor "tok-down" "Down") 2000000000,
      .execute 1 3000000000 (orderAccepted 8)]
    Throughout (deferredStep idleChrono 42 marketTrigger) AtMostOneOrder {} events ∧
      acceptedIn (events.foldl (deferredStep idleChrono 42 marketTrigger) {})
        ⟨some "btc-updown-5m-1", 0⟩ = 1 :=
  ⟨deferred_once_at_most_one idleChrono 42 marketTrigger (by decide +kernel) _ (by decide +kernel),
    by decide +kernel⟩

/-- Two passes of one scope, one for each outcome, hold a lock each: both orders are accepted. -/
theorem two_outcomes_two_orders :
    let events := [.start (.object []) "btc-updown-5m-1" 0 "t0",
      .start (.object []) "btc-updown-5m-1" 0 "t1",
      .attach 0 orderNode (passFor "tok-up" "Up") 2000000000,
      .attach 1 orderNode (passFor "tok-down" "Down") 3000000000,
      .execute 0 4000000000 (orderAccepted 7), .execute 1 5000000000 (orderAccepted 8)]
    tradeFlowDeferOnceUntilOrderAccepted marketTrigger = true ∧
      ¬ Throughout (deferredStep idleChrono 42 marketTrigger) AtMostOneOrder {} events := by
  refine ⟨by decide +kernel, fun h => ?_⟩
  have htwo := h 6 ⟨some "btc-updown-5m-1", 0⟩
  revert htwo
  decide +kernel

end PolymarketBot.Flow
