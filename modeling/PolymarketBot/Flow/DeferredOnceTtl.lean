import PolymarketBot.Flow.DeferredOnce

/-! An order step that asks to be repeated after its deferred once lock has run out. -/

namespace PolymarketBot.Flow

/-- `insert` into an object; any other value has no member to set. -/
def Value.insert (value : Value) (key : String) (v : Value) : Value :=
  match value with
  | .object fs => .object (setField key v fs)
  | other => other

theorem Value.get_insert_ne {key key' : String} (h : key' ≠ key) (v value : Value) :
    (value.insert key v).get key' = value.get key' := by
  cases value <;> simp [Value.insert, Value.get, h]

theorem Value.get_insert_self (key : String) (v value : Value) :
    (value.insert key v).get key = some v ∨ (value.insert key v).get key = none := by
  cases value <;> simp [Value.insert, Value.get, Value.fields, field]

variable (chrono : Chrono)

def annotateDeferredOnceOutput (lock : DeferredOnceLockMeta) (action state : String)
    (releaseReason : Option String) (builderOrderId : Option ℤ) (actionAttemptCount : ℤ)
    (now : Instant) (output : Value) : Value :=
  let firedAt := if action = "consumed" then .string (chrono.toRfc3339 now) else .null
  ((((((((output.insert "defer_once_until_order_accepted" (.bool true)).insert
    "pending_once_key" (.string lock.lockKey)).insert
    "pending_once_state" (.string state)).insert
    "pending_once_action" (.string action)).insert
    "pending_once_release_reason" (jsonOptStr releaseReason)).insert
    "pending_once_consume_reason" (jsonOptStr (builderOrderId.map fun _ => "order_accepted"))).insert
    "once_fired_set_at" firedAt).insert
    "action_attempt_count" (jsonI64 actionAttemptCount)).insert
    "action_accepted_order_count" (jsonI64 (if builderOrderId.isSome then 1 else 0))

/-- What the end of an order step leaves: its execution, the locks, the context, and the once
key it records. -/
structure OnceApplied where
  execution : TradeFlowNodeExecution
  locks : LockTable
  context : Value
  onceKey : Option String := none

def TradeFlowNodeExecution.expireRetry (execution : TradeFlowNodeExecution) :
    TradeFlowNodeExecution where
  output := (execution.output.insert "retrying" (.bool false)).insert "retry_expired" (.bool true)
  repeatAt := none

def applyDeferredOnceAfterNodeExecution (runId : ℤ) (nodeType : String)
    (lock : Option DeferredOnceLockMeta) (attempt : ℤ) (now : Instant)
    (execution : TradeFlowNodeExecution) (locks : LockTable) (context : Value) : OnceApplied :=
  let annotated (lock : DeferredOnceLockMeta) (action state : String)
      (releaseReason : Option String) (builderOrderId : Option ℤ)
      (execution : TradeFlowNodeExecution) : TradeFlowNodeExecution :=
    { execution with
      output := annotateDeferredOnceOutput chrono lock action state releaseReason builderOrderId
        attempt now execution.output }
  match lock.filter fun _ => nodeType = "action.place_order" with
  | none => { execution, locks, context }
  | some lock =>
    if execution.isRetrying then
      if lock.expiresAt ≤ now then
        let releaseReason := "deferred_once_lock_ttl_expired"
        { execution := match pendingLock locks lock.lockKey with
            | none => execution
            | some _ => annotated lock "released" "released" (some releaseReason) none
                execution.expireRetry
          locks := (LockStatement.release lock.lockKey releaseReason).exec locks
          context }
      else { execution := annotated lock "held" "pending" none none execution, locks, context }
    else
      match deferredOnceBuilderOrderId execution.output with
      | some builderOrderId =>
        let locks' := (LockStatement.consume lock.lockKey builderOrderId now).exec locks
        match pendingLock locks lock.lockKey with
        | none => { execution, locks := locks', context }
        | some consumed =>
          let context := (markTradeFlowMarketPriceOnceFired consumed.triggerNodeKey
            (chrono.toRfc3339 now)
            (if consumed.onceScopeMarket then some consumed.marketSlug else none)).run context
          { execution := annotated lock "consumed" "consumed" none (some builderOrderId) execution
            locks := locks'
            context
            onceKey := some (tradeFlowMarketPriceOnceIdempotencyKey runId consumed.triggerNodeKey
              consumed.onceScopeMarket (some consumed.marketSlug)
              (flowNodeReentryGeneration context consumed.triggerNodeKey)) }
      | none =>
        let releaseReason := deferredOnceReleaseReason execution.output
        { execution := match pendingLock locks lock.lockKey with
            | none => execution
            | some _ => annotated lock "released" "released" (some releaseReason) none execution
          locks := (LockStatement.release lock.lockKey releaseReason).exec locks
          context }

/-- One processing of an order step that carries a lock: the locks it finds, when it reconciles
them, what others ask of the table until it applies its execution, and when that is. -/
structure LockedStep where
  runId : ℤ
  lock : DeferredOnceLockMeta
  attempt : ℤ := 1
  locks : LockTable
  reconcileAt : Instant
  during : List LockStatement := []
  execution : TradeFlowNodeExecution
  runStillRunning : Bool := true
  applyAt : Instant
  context : Value := .object []

namespace LockedStep
variable (step : LockedStep)

def locksAtApply : LockTable :=
  step.during.foldl LockStatement.exec
    ((LockStatement.expireForRun step.runId step.reconcileAt).exec step.locks)

/-- What `process_trade_flow_step` goes on with; it goes on with nothing once the run stopped. -/
def applied : Option OnceApplied :=
  if step.runStillRunning then
    some (applyDeferredOnceAfterNodeExecution chrono step.runId "action.place_order"
      (some step.lock) step.attempt step.applyAt step.execution step.locksAtApply step.context)
  else none

def repeatAt : Option Instant := (step.applied chrono).bind fun applied => applied.execution.repeatAt

/-- The step is not queued again, and what it leaves does not say that it retries. -/
def StopsRetrying : Prop :=
  step.repeatAt chrono = none ∧
    ∀ applied ∈ step.applied chrono, applied.execution.isRetrying = false

/-- A lock of the key is still pending when the step comes to release it. -/
def HeldAtApply : Prop :=
  step.runStillRunning → step.locksAtApply.any (·.isPending step.lock.lockKey)

/-- The pending locks of the key are this run's, with the expiry the step carries. -/
def OwnsLock : Prop :=
  step.locks.any (·.isPending step.lock.lockKey) ∧
    ∀ row ∈ step.locks, row.isPending step.lock.lockKey →
      row.runId = step.runId ∧ row.expiresAt = step.lock.expiresAt

instance : Decidable step.OwnsLock := inferInstanceAs (Decidable (_ ∧ _))

end LockedStep

section Applied
variable {chrono} {execution : TradeFlowNodeExecution} {lock : DeferredOnceLockMeta}

theorem annotate_get_retrying (lock : DeferredOnceLockMeta) (action state : String)
    (releaseReason : Option String) (builderOrderId : Option ℤ) (attempt : ℤ) (now : Instant)
    (output : Value) :
    (annotateDeferredOnceOutput chrono lock action state releaseReason builderOrderId attempt now
      output).get "retrying" = output.get "retrying" := by
  unfold annotateDeferredOnceOutput
  iterate 9 rw [Value.get_insert_ne (by decide)]

theorem expireRetry_get_retrying (execution : TradeFlowNodeExecution) :
    execution.expireRetry.output.get "retrying" ≠ some (.bool true) := by
  unfold TradeFlowNodeExecution.expireRetry
  rw [Value.get_insert_ne (by decide)]
  rcases Value.get_insert_self "retrying" (.bool false) execution.output with h | h <;> simp [h]

theorem pendingLock_isSome (locks : LockTable) (lockKey : String) :
    (pendingLock locks lockKey).isSome = locks.any (·.isPending lockKey) := by
  rw [Bool.eq_iff_iff, pendingLock, List.find?_isSome, List.any_eq_true]

theorem apply_expired_isRetrying (runId attempt : ℤ) {now : Instant} (locks : LockTable)
    (context : Value) (hretry : execution.isRetrying) (hexpired : lock.expiresAt ≤ now) :
    (applyDeferredOnceAfterNodeExecution chrono runId "action.place_order" (some lock) attempt now
      execution locks context).execution.isRetrying = !locks.any (·.isPending lock.lockKey) := by
  rw [← pendingLock_isSome]
  unfold applyDeferredOnceAfterNodeExecution
  simp only [Option.filter_some, decide_true, if_true, hretry, hexpired]
  cases pendingLock locks lock.lockKey with
  | none => exact hretry
  | some row =>
    have hflag := expireRetry_get_retrying execution
    simp only [TradeFlowNodeExecution.isRetrying, annotate_get_retrying]
    cases hvalue : execution.expireRetry.output.get "retrying" with
    | none => rfl
    | some value =>
      rw [hvalue] at hflag
      cases value with
      | bool b => cases b with
        | true => exact absurd rfl hflag
        | false => rfl
      | _ => rfl

end Applied

section Retry
variable {chrono} {step : LockedStep}

theorem stopsRetrying_iff (step : LockedStep) :
    step.StopsRetrying chrono ↔
      ∀ applied ∈ step.applied chrono, applied.execution.isRetrying = false := by
  refine ⟨And.right, fun h => ⟨?_, h⟩⟩
  unfold LockedStep.repeatAt
  cases happlied : step.applied chrono with
  | none => rfl
  | some applied =>
    have hflag := h applied happlied
    unfold TradeFlowNodeExecution.isRetrying at hflag
    simpa using (Bool.or_eq_false_iff.mp hflag).1

theorem stopsRetrying_iff_held (hretry : step.execution.isRetrying)
    (hexpired : step.lock.expiresAt ≤ step.applyAt) :
    step.StopsRetrying chrono ↔ step.HeldAtApply := by
  rw [stopsRetrying_iff]
  unfold LockedStep.HeldAtApply LockedStep.applied
  cases step.runStillRunning with
  | false => simp
  | true =>
    simp only [if_true, Option.mem_some_iff, forall_eq', true_imp_iff]
    rw [apply_expired_isRetrying step.runId step.attempt step.locksAtApply step.context hretry hexpired]
    simp

theorem expireForRun_pending (rows : LockTable) (runId : ℤ) (now : Instant) (lockKey : String) :
    ((LockStatement.expireForRun runId now).exec rows).any (·.isPending lockKey) ↔
      ∃ row ∈ rows, row.isPending lockKey ∧ (row.runId = runId → now < row.expiresAt) := by
  rw [LockStatement.exec, List.any_map, List.any_eq_true]
  refine exists_congr fun row => and_congr_right fun _ => ?_
  simp only [Function.comp_apply]
  split
  · rename_i hexpires
    obtain ⟨hrun, -, hle⟩ := hexpires
    refine iff_of_false (by simp [DeferredOnceLock.expire, DeferredOnceLock.isPending]) ?_
    rintro ⟨-, hlt⟩
    exact absurd (hlt hrun) (not_lt.mpr hle)
  · rename_i hstays
    refine (and_iff_left_of_imp fun hpending hrun => ?_).symm
    have hstate : row.state = .pending := by
      unfold DeferredOnceLock.isPending at hpending
      simpa using (Bool.and_eq_true_iff.mp hpending).2
    exact not_le.mp fun hle => hstays ⟨hrun, hstate, hle⟩

theorem heldAtApply_alone (hown : step.OwnsLock) (hduring : step.during = []) :
    step.HeldAtApply ↔ (step.runStillRunning → step.reconcileAt < step.lock.expiresAt) := by
  obtain ⟨hheld, hrows⟩ := hown
  refine imp_congr_right fun _ => ?_
  rw [LockedStep.locksAtApply, hduring, List.foldl_nil, expireForRun_pending]
  constructor
  · rintro ⟨row, hrow, hpending, hlt⟩
    obtain ⟨hrun, hexpires⟩ := hrows row hrow hpending
    exact hexpires ▸ hlt hrun
  · intro hlt
    obtain ⟨row, hrow, hpending⟩ := List.any_eq_true.mp hheld
    refine ⟨row, hrow, hpending, fun _ => ?_⟩
    rwa [(hrows row hrow hpending).2]

end Retry

/-- A retrying step whose lock has run out stops exactly when a lock of its key is still pending
as it comes to release it; where nobody else touches the lock, exactly when the TTL passed only
after the step had reconciled. -/
theorem ttl_stops_retry_iff (step : LockedStep) (hretry : step.execution.isRetrying)
    (hexpired : step.lock.expiresAt ≤ step.applyAt) :
    (step.StopsRetrying chrono ↔ step.HeldAtApply) ∧
      (step.OwnsLock → step.during = [] → (step.StopsRetrying chrono ↔
        (step.runStillRunning → step.reconcileAt < step.lock.expiresAt))) :=
  ⟨stopsRetrying_iff_held hretry hexpired, fun hown hduring =>
    (stopsRetrying_iff_held hretry hexpired).trans (heldAtApply_alone hown hduring)⟩

/-- A step of the lock that runs out at 30 s, to be repeated at 31 s. -/
def retryOf (reconcileAt applyAt : Instant) : LockedStep where
  runId := 42
  lock := upLock 30000000000
  locks := [{ toDeferredOnceLockMeta := upLock 30000000000, runId := 42 }]
  reconcileAt
  execution := ⟨.object [("retrying", .bool true)], some 31000000000⟩
  applyAt

theorem ttl_stops_retry_during_execution :
    (retryOf 29000000000 30500000000).StopsRetrying idleChrono :=
  ((ttl_stops_retry_iff idleChrono (retryOf 29000000000 30500000000) (by decide +kernel)
    (by decide +kernel)).2 (by decide +kernel) rfl).mpr fun _ => by decide +kernel

/-- The reconcile at the start of the step expires the lock, and the step goes on retrying. -/
theorem reconciled_lock_keeps_retrying :
    (retryOf 30000000000 30500000000).execution.isRetrying = true ∧ (upLock 30000000000).expiresAt ≤ 30500000000 ∧
      (retryOf 30000000000 30500000000).repeatAt idleChrono = some 31000000000 ∧
      ¬ (retryOf 30000000000 30500000000).StopsRetrying idleChrono := by
  have hrepeat : (retryOf 30000000000 30500000000).repeatAt idleChrono = some 31000000000 := by decide +kernel
  refine ⟨by decide +kernel, by decide +kernel, hrepeat, fun h => ?_⟩
  rw [h.1] at hrepeat
  cases hrepeat

end PolymarketBot.Flow
