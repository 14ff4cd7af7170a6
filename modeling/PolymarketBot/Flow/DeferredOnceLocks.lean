import PolymarketBot.Flow.OnceNode
import PolymarketBot.Lib.Runs
import Mathlib.Data.List.Sort

/-! The deferred once locks: the rows of their table, the statements that write it, and which
of them an action step issues when it has run. -/

namespace PolymarketBot.Flow
open Lib.Runs

inductive DeferredOnceLockState | pending | consumed | released | expired
  deriving DecidableEq, Repr

structure DeferredOnceLockMeta where
  lockKey : String
  triggerNodeKey : String
  actionNodeKey : String
  marketSlug : String
  tokenId : String
  outcomeLabel : String
  onceScopeMarket : Bool
  expiresAt : Instant
  deriving DecidableEq, Repr

structure DeferredOnceLock extends DeferredOnceLockMeta where
  runId : ℤ
  state : DeferredOnceLockState := .pending
  releaseReason : Option String := none
  builderOrderId : Option ℤ := none
  consumedAt : Option Instant := none
  deriving DecidableEq, Repr

abbrev LockTable := List DeferredOnceLock

/-- One statement on the table; an acquire is the `expireKey` and the `insert` of its key. -/
inductive LockStatement
  | expireForRun (runId : ℤ) (now : Instant)
  | expireKey (lockKey : String) (now : Instant)
  | insert (runId : ℤ) (input : DeferredOnceLockMeta)
  | release (lockKey releaseReason : String)
  | consume (lockKey : String) (builderOrderId : ℤ) (now : Instant)
  deriving DecidableEq, Repr

def DeferredOnceLock.isPending (lockKey : String) (row : DeferredOnceLock) : Bool :=
  row.lockKey = lockKey && row.state = .pending

def DeferredOnceLock.expire (row : DeferredOnceLock) : DeferredOnceLock :=
  { row with state := .expired, releaseReason := some "ttl_expired" }

def LockStatement.exec (rows : LockTable) : LockStatement → LockTable
  | .expireForRun runId now => rows.map fun row =>
      if row.runId = runId ∧ row.state = .pending ∧ row.expiresAt ≤ now then row.expire else row
  | .expireKey lockKey now => rows.map fun row =>
      if row.isPending lockKey ∧ row.expiresAt ≤ now then row.expire else row
  | .insert runId input =>
      if rows.any (·.isPending input.lockKey) then rows
      else rows ++ [{ toDeferredOnceLockMeta := input, runId }]
  | .release lockKey releaseReason => rows.map fun row =>
      if row.isPending lockKey then
        { row with state := .released, releaseReason := some releaseReason }
      else row
  | .consume lockKey builderOrderId now => rows.map fun row =>
      if row.isPending lockKey then
        { row with
          state := .consumed, builderOrderId := some builderOrderId, consumedAt := some now }
      else row

/-- `RETURNING`: the row a release or a consume finds pending. -/
def pendingLock (rows : LockTable) (lockKey : String) : Option DeferredOnceLock :=
  rows.find? (·.isPending lockKey)

/-- The consumed locks of a run in the order of their consumption; the rows stand as their ids do. -/
def listConsumedTradeFlowDeferredOnceLocks (runId : ℤ) (rows : LockTable) : LockTable :=
  (rows.filter fun row => row.runId = runId ∧ row.state = .consumed).insertionSort
    fun row row' => row.consumedAt.getD 0 ≤ row'.consumedAt.getD 0

/-- Marks the triggers of the consumed locks, in the order of their consumption. -/
def reconcileTradeFlowDeferredOnceLocksForRun (consumed : LockTable) (firedAt : String) :
    Draft Unit :=
  Draft.each consumed fun lock => do
    if tradeFlowMarketPriceOnceFiredForScope (← Draft.read) lock.triggerNodeKey
        lock.onceScopeMarket (some lock.marketSlug) then
      pure ()
    else
      markTradeFlowMarketPriceOnceFired lock.triggerNodeKey firedAt
        (if lock.onceScopeMarket then some lock.marketSlug else none)

def deferredOnceString (value : Value) (keys : List String) : Option String :=
  let text := match keys.findSome? value.get with
    | some (.string raw) => some (trim raw)
    | some (.number raw) => some raw.text
    | _ => none
  text.filter (· ≠ "")

def deferredOnceBuilderOrderId (output : Value) : Option ℤ :=
  (((output.get "builder_order_id").or (output.get "builderOrderId")).bind valueAsI64).filter (0 < ·)

def deferredOnceReleaseReason (output : Value) : String :=
  (deferredOnceString output ["reason", "block_reason", "price_band_block_reason", "error"]).getD
    "terminal_no_order_block"

structure TradeFlowNodeExecution where
  output : Value
  repeatAt : Option Instant := none

def TradeFlowNodeExecution.isRetrying (execution : TradeFlowNodeExecution) : Bool :=
  execution.repeatAt.isSome || ((execution.output.get "retrying").bind Value.asBool).getD false

/-- What an action step that holds a lock asks of the table, after it has run or failed. -/
def deferredOnceStatement (lock : DeferredOnceLockMeta) (now : Instant) :
    Except String TradeFlowNodeExecution → Option LockStatement
  | .ok execution =>
    if execution.isRetrying then
      if lock.expiresAt ≤ now then
        some (.release lock.lockKey "deferred_once_lock_ttl_expired")
      else none
    else
      match deferredOnceBuilderOrderId execution.output with
      | some builderOrderId => some (.consume lock.lockKey builderOrderId now)
      | none => some (.release lock.lockKey (deferredOnceReleaseReason execution.output))
  | .error errorText => some (.release lock.lockKey ("step_failed:" ++ errorText))

/-! ### The pending row of a key -/

/-- The row at this place is pending under the key. -/
def PendingAt (rows : LockTable) (lockKey : String) (i : ℕ) : Prop :=
  rows[i]?.any (·.isPending lockKey)

instance (rows : LockTable) (lockKey : String) (i : ℕ) : Decidable (PendingAt rows lockKey i) :=
  inferInstanceAs (Decidable (_ = true))

/-- At most one row of a key is pending, as the partial unique index has it. -/
def PendingUnique (rows : LockTable) : Prop :=
  ∀ lockKey i j, PendingAt rows lockKey i → PendingAt rows lockKey j → i = j

theorem any_pending_iff (rows : LockTable) (lockKey : String) :
    rows.any (·.isPending lockKey) ↔ ∃ i, PendingAt rows lockKey i := by
  rw [List.any_eq_true]
  constructor
  · rintro ⟨row, hrow, hpending⟩
    obtain ⟨i, hi⟩ := List.mem_iff_getElem?.mp hrow
    exact ⟨i, by simpa [PendingAt, hi] using hpending⟩
  · rintro ⟨i, hi⟩
    unfold PendingAt at hi
    cases hrow : rows[i]? with
    | none => simp [hrow] at hi
    | some row => exact ⟨row, List.mem_of_getElem? hrow, by simpa [hrow] using hi⟩

theorem PendingUnique.map {rows : LockTable} (h : PendingUnique rows)
    (f : DeferredOnceLock → DeferredOnceLock)
    (hf : ∀ row lockKey, (f row).isPending lockKey = true → row.isPending lockKey = true) :
    PendingUnique (rows.map f) := by
  have hback : ∀ lockKey i, PendingAt (rows.map f) lockKey i → PendingAt rows lockKey i := by
    intro lockKey i hi
    unfold PendingAt at hi ⊢
    rw [List.getElem?_map] at hi
    cases hrow : rows[i]? with
    | none => simp [hrow] at hi
    | some row => simpa using hf row lockKey (by simpa [hrow] using hi)
  intro lockKey i j hi hj
  exact h lockKey i j (hback lockKey i hi) (hback lockKey j hj)

theorem PendingUnique.append {rows : LockTable} (h : PendingUnique rows) (row : DeferredOnceLock)
    (hfree : rows.any (·.isPending row.lockKey) = false) : PendingUnique (rows ++ [row]) := by
  have hfree' : ∀ i, ¬ PendingAt rows row.lockKey i := fun i hi => by
    rw [(any_pending_iff rows row.lockKey).mpr ⟨i, hi⟩] at hfree
    cases hfree
  have hcases : ∀ lockKey i, PendingAt (rows ++ [row]) lockKey i →
      PendingAt rows lockKey i ∨ i = rows.length ∧ lockKey = row.lockKey := by
    intro lockKey i hi
    unfold PendingAt at hi ⊢
    rcases lt_trichotomy i rows.length with hlt | rfl | hgt
    · rw [List.getElem?_append_left hlt] at hi
      exact .inl hi
    · simp only [List.getElem?_concat_length, Option.any_some, DeferredOnceLock.isPending,
        Bool.and_eq_true, decide_eq_true_eq] at hi
      exact .inr ⟨rfl, hi.1.symm⟩
    · have hnone : (rows ++ [row])[i]? = none := by
        rw [List.getElem?_eq_none_iff, List.length_append, List.length_singleton]
        omega
      simp [hnone] at hi
  intro lockKey i j hi hj
  rcases hcases lockKey i hi with hi' | ⟨rfl, rfl⟩
  · rcases hcases lockKey j hj with hj' | ⟨rfl, rfl⟩
    · exact h lockKey i j hi' hj'
    · exact absurd hi' (hfree' i)
  · rcases hcases row.lockKey j hj with hj' | ⟨rfl, -⟩
    · exact absurd hj' (hfree' j)
    · rfl

theorem LockStatement.exec_unique {rows : LockTable} (h : PendingUnique rows)
    (statement : LockStatement) : PendingUnique (statement.exec rows) := by
  cases statement with
  | insert runId input =>
    by_cases hheld : rows.any (·.isPending input.lockKey) = true
    · simpa only [LockStatement.exec, if_pos hheld] using h
    · simp only [LockStatement.exec, if_neg hheld]
      exact h.append _ (Bool.eq_false_iff.mpr hheld)
  | expireForRun runId now =>
    refine h.map _ fun row key hrow => ?_
    split at hrow
    · simp [DeferredOnceLock.expire, DeferredOnceLock.isPending] at hrow
    · exact hrow
  | expireKey lockKey now =>
    refine h.map _ fun row key hrow => ?_
    split at hrow
    · simp [DeferredOnceLock.expire, DeferredOnceLock.isPending] at hrow
    · exact hrow
  | release lockKey releaseReason =>
    refine h.map _ fun row key hrow => ?_
    split at hrow
    · simp [DeferredOnceLock.isPending] at hrow
    · exact hrow
  | consume lockKey builderOrderId now =>
    refine h.map _ fun row key hrow => ?_
    split at hrow
    · simp [DeferredOnceLock.isPending] at hrow
    · exact hrow

/-! ### Whose row a step changes -/

/-- What reaches the table, in any order. A step is named by the row created for it; it holds
that row's lock, and so do its repeats. -/
inductive OnceLockEvent
  | expireForRun (runId : ℤ) (now : Instant)
  | expireKey (lockKey : String) (now : Instant)
  | insert (runId : ℤ) (input : DeferredOnceLockMeta)
  | finish (step : ℕ) (now : Instant) (result : Except String TradeFlowNodeExecution)

/-- The statement of an event; a step that does not hold a lock, or goes on, has none. -/
def OnceLockEvent.statement (rows : LockTable) : OnceLockEvent → Option LockStatement
  | .expireForRun runId now => some (.expireForRun runId now)
  | .expireKey lockKey now => some (.expireKey lockKey now)
  | .insert runId input => some (.insert runId input)
  | .finish step now result => rows[step]?.bind fun row =>
      deferredOnceStatement row.toDeferredOnceLockMeta now result

def onceLockStep (rows : LockTable) (event : OnceLockEvent) : LockTable :=
  ((event.statement rows).map (LockStatement.exec rows)).getD rows

/-- A step's release or consume leaves every other row as it was. -/
def ChangesOwnRow (rows : LockTable) : OnceLockEvent → Prop
  | event@(.finish step _ _) => ∀ j ≠ step, (onceLockStep rows event)[j]? = rows[j]?
  | _ => True

/-- A step releases or consumes while its own lock is pending, or while no lock of its key is. -/
def InTime (rows : LockTable) : OnceLockEvent → Prop
  | event@(.finish step _ _) => (event.statement rows).isSome → ∀ row ∈ rows[step]?,
      row.state = .pending ∨ rows.any (·.isPending row.lockKey) = false
  | _ => True

theorem onceLockStep_unique {rows : LockTable} (h : PendingUnique rows) (event : OnceLockEvent) :
    PendingUnique (onceLockStep rows event) := by
  unfold onceLockStep
  cases event.statement rows with
  | none => exact h
  | some statement => exact statement.exec_unique h

theorem settle_getElem (rows : LockTable) (lockKey : String)
    (f : DeferredOnceLock → DeferredOnceLock) (hf : ∀ row, (f row).state ≠ .pending) (j : ℕ) :
    (rows.map fun row => if row.isPending lockKey then f row else row)[j]? = rows[j]? ↔
      ¬ PendingAt rows lockKey j := by
  unfold PendingAt
  rw [List.getElem?_map]
  cases rows[j]? with
  | none => simp
  | some row =>
    by_cases hpending : row.isPending lockKey = true
    · have hstate : row.state = .pending := by
        unfold DeferredOnceLock.isPending at hpending
        simpa using (Bool.and_eq_true_iff.mp hpending).2
      have hne : f row ≠ row := fun h => hf row ((congrArg (·.state) h).trans hstate)
      simp [hpending, hne]
    · simp [hpending]

theorem deferredOnceStatement_cases {lock : DeferredOnceLockMeta} {now : Instant}
    {result : Except String TradeFlowNodeExecution} {statement : LockStatement}
    (h : deferredOnceStatement lock now result = some statement) :
    (∃ reason, statement = .release lock.lockKey reason) ∨
      ∃ builderOrderId, statement = .consume lock.lockKey builderOrderId now := by
  unfold deferredOnceStatement at h
  split at h
  · split at h
    · split at h
      · exact .inl ⟨_, (Option.some.inj h).symm⟩
      · cases h
    · split at h
      · exact .inr ⟨_, (Option.some.inj h).symm⟩
      · exact .inl ⟨_, (Option.some.inj h).symm⟩
  · exact .inl ⟨_, (Option.some.inj h).symm⟩

theorem deferredOnceStatement_settles {lock : DeferredOnceLockMeta} {now : Instant}
    {result : Except String TradeFlowNodeExecution} {statement : LockStatement}
    (h : deferredOnceStatement lock now result = some statement) (rows : LockTable) (j : ℕ) :
    (statement.exec rows)[j]? = rows[j]? ↔ ¬ PendingAt rows lock.lockKey j := by
  rcases deferredOnceStatement_cases h with ⟨reason, rfl⟩ | ⟨builderOrderId, rfl⟩
  · exact settle_getElem rows lock.lockKey _ (by simp) j
  · exact settle_getElem rows lock.lockKey _ (by simp) j

theorem changesOwnRow_iff_inTime {rows : LockTable} (hunique : PendingUnique rows)
    (event : OnceLockEvent) : ChangesOwnRow rows event ↔ InTime rows event := by
  cases event with
  | finish step now result =>
    cases hstatement : (OnceLockEvent.finish step now result).statement rows with
    | none => simp [ChangesOwnRow, InTime, onceLockStep, hstatement]
    | some statement =>
      obtain ⟨row, hrow, hdeferred⟩ := Option.bind_eq_some_iff.mp hstatement
      have hsettle := deferredOnceStatement_settles hdeferred rows
      have hown : PendingAt rows row.lockKey step ↔ row.state = .pending := by
        simp [PendingAt, hrow, DeferredOnceLock.isPending]
      have hfree : rows.any (·.isPending row.lockKey) = false ↔
          ∀ i, ¬ PendingAt rows row.lockKey i := by
        rw [← Bool.not_eq_true, any_pending_iff, not_exists]
      simp only [ChangesOwnRow, InTime, onceLockStep, hstatement, Option.map_some, Option.getD_some,
        hsettle, hrow, Option.mem_some_iff, forall_eq', Option.isSome_some, forall_const]
      rw [← hown, hfree]
      constructor
      · intro hothers
        by_cases hstep : PendingAt rows row.lockKey step
        · exact .inl hstep
        · refine .inr fun i hi => ?_
          by_cases his : i = step
          · exact hstep (his ▸ hi)
          · exact hothers i his hi
      · intro h j hj hpending
        rcases h with hstep | hnone
        · exact hj (hunique row.lockKey j step hpending hstep)
        · exact hnone j hpending
  | _ => exact Iff.rfl

/-- In a run over the table, every release and consume keeps to its own row exactly when each
of them is in time. -/
theorem lock_ownership (events : List OnceLockEvent) :
    EachStep onceLockStep ChangesOwnRow [] events ↔ EachStep onceLockStep InTime [] events := by
  have hempty : PendingUnique [] := fun lockKey i j hi _ => by simp [PendingAt] at hi
  exact eachStep_congr (I := PendingUnique)
    (fun rows event h => changesOwnRow_iff_inTime h event)
    (fun rows event h => onceLockStep_unique h event) hempty events

def upLock (expiresAt : Instant) : DeferredOnceLockMeta where
  lockKey := "flow-deferred-once:42:trigger:action:btc-updown-5m-1:tok-up:Up"
  triggerNodeKey := "trigger"
  actionNodeKey := "action"
  marketSlug := "btc-updown-5m-1"
  tokenId := "tok-up"
  outcomeLabel := "Up"
  onceScopeMarket := true
  expiresAt := expiresAt

/-- The first holder's lock runs out and the key is acquired again; the first holder's step
then ends without an order and releases the second holder's lock. -/
theorem late_release_takes_newer_lock :
    let before := [.expireKey (upLock 30000000000).lockKey 0, .insert 42 (upLock 30000000000),
      .expireKey (upLock 60000000000).lockKey 31000000000, .insert 42 (upLock 60000000000)].foldl onceLockStep []
    let after := onceLockStep before (.finish 0 32000000000 (.ok ⟨.object [("reason", .string "blocked")], none⟩))
    before.map (·.state) = [.expired, .pending] ∧ after.map (·.state) = [.expired, .released] ∧
      ¬ EachStep onceLockStep ChangesOwnRow [] [.expireKey (upLock 30000000000).lockKey 0,
        .insert 42 (upLock 30000000000), .expireKey (upLock 60000000000).lockKey 31000000000,
        .insert 42 (upLock 60000000000),
        .finish 0 32000000000 (.ok ⟨.object [("reason", .string "blocked")], none⟩)] := by
  refine ⟨by decide +kernel, by decide +kernel, ?_⟩
  rintro ⟨-, -, -, -, hown, -⟩
  have hsecond := hown 1 (by decide)
  revert hsecond
  decide +kernel

end PolymarketBot.Flow
