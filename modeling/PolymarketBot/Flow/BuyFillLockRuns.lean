import PolymarketBot.Flow.BuyFillLock
import PolymarketBot.Lib.Runs

/-! Runs of one flow whose context carries buy fill locks: fills, stop-loss releases, order
placements and the other writers of the context, each read or write an event of its own. -/

namespace PolymarketBot.Flow
open Builder (Side)
open Lib.Runs

def ContextEdit.namesLockTable : ContextEdit → Bool
  | .setSection .flowContext key _ => key = flowContextBuyFillLocksKey
  | _ => false

/-- What any other writer does to the copy it holds: a step or a cache rebuild normalizes it
first, and none of its edits names the lock table. -/
structure ContextWork where
  graphContext : Option Value
  edits : Value → List ContextEdit
  spares_locks : ∀ context, ∀ e ∈ edits context, e.namesLockTable = false

def ContextWork.base (work : ContextWork) (context : Value) : Value :=
  match work.graphContext with
  | some graphContext => normalizeTradeFlowContext context graphContext
  | none => context

def ContextWork.apply (work : ContextWork) (context : Value) : Value :=
  applyEdits (work.edits (work.base context)) (work.base context)

/-- The whole context in a writer's hands, read from the run's row or from the cache. -/
inductive ContextCopy where
  | row (run : TradeFlowRun)
  | cached (context : Value)

def ContextCopy.context : ContextCopy → Value
  | .row run => run.contextJson
  | .cached context => context

def ContextCopy.edited (work : ContextWork) : ContextCopy → ContextCopy
  | .row run => .row { run with contextJson := work.apply run.contextJson }
  | .cached context => .cached (work.apply context)

/-- A buy of the group in the market has filled and its stop loss has not released it. -/
structure HeldLock where
  group : String
  marketSlug : String
  orderId : ℤ
  deriving DecidableEq

inductive LockEvent where
  | readRow (writer : ℕ)
  | readCache (writer : ℕ)
  | edit (writer : ℕ) (work : ContextWork)
  | write (writer : ℕ)
  | storeCache (writer : ℕ)
  | replaceCache (writer : ℕ)
  | dropCache
  | stop (failed : Bool)
  | buyFilled (writer : ℕ) (order : LockOrder) (payload : Option Value) (filledAt : String)
      (fails : Bool)
  | stopLossFilled (writer : ℕ) (parent : LockOrder) (payload : Option Value)
      (positionQty : Option ℚ) (fails : Bool)
  | placeOrder (writer : ℕ) (config : Value) (side : Side) (marketSlug : String)

/-- The run's row, the cached context and the writers' copies. `held` and `missed` record
the fills not yet released and whether a held buy was let through; no step reads them. -/
structure LockState where
  row : TradeFlowRun
  cache : Option Value
  copies : ℕ → Option ContextCopy
  held : List HeldLock
  missed : Bool

def LockState.init (row : TradeFlowRun) : LockState := ⟨row, none, fun _ => none, [], false⟩

def LockState.setCopy (s : LockState) (writer : ℕ) (copy : Option ContextCopy) : LockState :=
  { s with copies := Function.update s.copies writer copy }

/-- `update_trade_flow_run_context`. -/
def LockState.overwrite (s : LockState) (context : Value) : LockState :=
  { s with row := { s.row with contextJson := context } }

/-- What a filled order of this run holds from then on. -/
def filledLock (runId : ℤ) (order : LockOrder) (payload : Option Value) : Option HeldLock := do
  if order.side ≠ .buy then none
  if order.originFlowRunId ≠ some runId then none
  let lockConfig ← actionPlaceOrderBuyFillLockConfigFromPayload payload
  some ⟨lockConfig.group, order.marketSlug, order.id⟩

/-- What the stop loss of the parent's child gives back: the position is sold out and the
order's lock is one that its stop loss releases. -/
def releasedLock (run : TradeFlowRun) (parent : LockOrder) (payload : Option Value)
    (positionQty : Option ℚ) : Option HeldLock := do
  let (lockConfig, currentQty) ← buyFillLockToRelease parent positionQty payload run
  if Builder.tradeBuilderExitQtyTolerance < currentQty then none
  some ⟨lockConfig.group, parent.marketSlug, parent.id⟩

/-- The node buys under a held lock of the market it is about to trade. -/
def buysHeld (held : List HeldLock) (config : Value) (side : Side) (marketSlug : String) : Bool :=
  match resolveActionPlaceOrderBuyFillLockConfig config side with
  | .ok (some lockConfig) =>
    held.any fun l => l.group = lockConfig.group && l.marketSlug = marketSlug
  | _ => false

def letsThrough (context config : Value) (side : Side) (marketSlug : String) : Bool :=
  match maybeBlockActionPlaceOrderBuyFillLock context config side marketSlug with
  | .ok none => true
  | _ => false

/-- One access. An event whose writer is not at that point changes nothing. -/
def lockStep (s : LockState) : LockEvent → LockState
  | .readRow w => s.setCopy w (some (.row s.row))
  | .readCache w => s.setCopy w (s.cache.map .cached)
  | .edit w work => s.setCopy w ((s.copies w).map (.edited work))
  | .write w =>
    match s.copies w with
    | some copy => s.overwrite copy.context
    | none => s
  | .storeCache w =>
    match s.copies w with
    | some copy => { s with cache := some copy.context }
    | none => s
  | .replaceCache w =>
    match s.copies w with
    | some copy => { s with cache := s.cache.map fun _ => copy.context }
    | none => s
  | .dropCache => { s with cache := none }
  | .stop failed => { s with row := { s.row with status := if failed then .failed else .canceled } }
  | .buyFilled w order payload filledAt fails =>
    let s := { s with held := (filledLock s.row.id order payload).toList ++ s.held }
    match s.copies w with
    | some (.row run) =>
      match maybeRecordActionPlaceOrderBuyFillLockFill order payload run filledAt with
      | some context =>
        if fails then s
        else (s.overwrite context).setCopy w (some (.row { run with contextJson := context }))
      | none => s
    | _ => s
  | .stopLossFilled w parent payload positionQty fails =>
    match s.copies w with
    | some (.row run) =>
      let released := releasedLock run parent payload positionQty
      let s := { s with held := s.held.filter fun l => some l ≠ released }
      match maybeReleaseActionPlaceOrderBuyFillLockOnStopLoss parent positionQty payload run with
      | some context =>
        if fails then s
        else (s.overwrite context).setCopy w (some (.row { run with contextJson := context }))
      | none => s
    | _ => s
  | .placeOrder w config side marketSlug =>
    match s.copies w with
    | some (.row run) =>
      { s with missed := s.missed || (buysHeld s.held config side marketSlug &&
        letsThrough run.contextJson config side marketSlug) }
    | _ => s

def LocksIn (context : Value) (locks : List HeldLock) : Prop :=
  ∀ l ∈ locks, Locked context l.group l.marketSlug

instance (context : Value) (locks : List HeldLock) : Decidable (LocksIn context locks) :=
  inferInstanceAs (Decidable (∀ l ∈ locks, _))

/-- While the run is on, every held lock is in its row, and no buy under a held lock was
let through. -/
structure FillLockLaw (s : LockState) : Prop where
  locked : s.row.status = .running → LocksIn s.row.contextJson s.held
  blocked : s.missed = false

/-- The record a fill overwrites the row with, and the row its copy was read from. -/
def recordedFill (s : LockState) (w : ℕ) (order : LockOrder) (payload : Option Value)
    (filledAt : String) (fails : Bool) : Option (TradeFlowRun × TradeFlowBuyFillLockRecord) :=
  match s.copies w with
  | some (.row run) =>
    if fails then none else (buyFillLockRecord order payload run filledAt).map (run, ·)
  | _ => none

/-- What keeps the held locks in the row through one event: a copy that is written back has
them, a fill is recorded, reads back and finds no lock of its group in another market, a
release leaves no other lock of its group, and a step that buys under a held lock has it in
its copy. -/
def SparesLocks (s : LockState) : LockEvent → Prop
  | .write w =>
    s.row.status = .running → ∀ copy, s.copies w = some copy → LocksIn copy.context s.held
  | .buyFilled w order payload filledAt fails =>
    s.row.status = .running → ∀ l ∈ (filledLock s.row.id order payload).toList ++ s.held,
      match recordedFill s w order payload filledAt fails with
      | some (run, record) =>
        if l.group = record.group then l.marketSlug = trim record.marketSlug ∧ record.Readable
        else Locked run.contextJson l.group l.marketSlug
      | none => Locked s.row.contextJson l.group l.marketSlug
  | .stopLossFilled w parent payload positionQty fails =>
    s.row.status = .running → fails = false → ∀ run, s.copies w = some (.row run) →
      ∀ lockConfig, actionPlaceOrderBuyFillLockConfigFromPayload payload = some lockConfig →
        (maybeReleaseActionPlaceOrderBuyFillLockOnStopLoss parent positionQty payload run).isSome →
          ∀ l ∈ s.held, some l ≠ releasedLock run parent payload positionQty →
            l.group ≠ lockConfig.group ∧ Locked run.contextJson l.group l.marketSlug
  | .placeOrder w config side marketSlug =>
    ∀ run, s.copies w = some (.row run) → ∀ lockConfig,
      resolveActionPlaceOrderBuyFillLockConfig config side = .ok (some lockConfig) →
        (∃ l ∈ s.held, l.group = lockConfig.group ∧ l.marketSlug = marketSlug) →
          Locked run.contextJson lockConfig.group marketSlug
  | _ => True

theorem maybeRelease_eq_some {parent : LockOrder} {positionQty : Option ℚ}
    {payload : Option Value} {run : TradeFlowRun} {context : Value}
    (h : maybeReleaseActionPlaceOrderBuyFillLockOnStopLoss parent positionQty payload run =
      some context) :
    ∃ lockConfig, actionPlaceOrderBuyFillLockConfigFromPayload payload = some lockConfig ∧
      context = (clearTradeFlowBuyFillLock run.contextJson lockConfig.group).1 := by
  simp only [maybeReleaseActionPlaceOrderBuyFillLockOnStopLoss, buyFillLockToRelease,
    Option.bind_eq_bind, Option.bind_eq_some_iff] at h
  obtain ⟨⟨lockConfig, currentQty⟩, ⟨_, _, config, hconfig, h⟩, _, _, hclear⟩ := h
  have heq : lockConfig = config := by
    grind
  subst heq
  refine ⟨lockConfig, hconfig, ?_⟩
  grind

theorem letsThrough_iff {config : Value} {side : Side}
    {lockConfig : ActionPlaceOrderBuyFillLockConfig}
    (h : resolveActionPlaceOrderBuyFillLockConfig config side = .ok (some lockConfig))
    (context : Value) (marketSlug : String) :
    letsThrough context config side marketSlug = false ↔
      Locked context lockConfig.group marketSlug := by
  have hblock : maybeBlockActionPlaceOrderBuyFillLock context config side marketSlug =
      .ok (findTradeFlowBuyFillLockForMarket context lockConfig.group marketSlug) := by
    simp [maybeBlockActionPlaceOrderBuyFillLock, h, bind, Except.bind, pure, Except.pure]
  unfold letsThrough Locked
  rw [hblock]
  cases findTradeFlowBuyFillLockForMarket context lockConfig.group marketSlug <;> simp

theorem fillLockLaw_write {s : LockState} (h : FillLockLaw s) (w : ℕ) :
    FillLockLaw (lockStep s (.write w)) ↔ SparesLocks s (.write w) := by
  cases hc : s.copies w with
  | none => simp [lockStep, SparesLocks, hc, h]
  | some copy =>
    constructor
    · intro hlaw hrun c hcopy
      have hsame : c = copy := by simpa [hc] using hcopy.symm
      have hlocked := hlaw.locked
      simp only [lockStep, hc, LockState.overwrite] at hlocked
      exact hsame ▸ hlocked hrun
    · intro hspares
      constructor
      · intro hrun
        simp only [lockStep, hc, LockState.overwrite] at hrun ⊢
        exact hspares hrun copy hc
      · simpa [lockStep, hc, LockState.overwrite] using h.blocked

theorem lockStep_buyFilled (s : LockState) (w : ℕ) (order : LockOrder) (payload : Option Value)
    (filledAt : String) (fails : Bool) :
    let s' := lockStep s (.buyFilled w order payload filledAt fails)
    s'.row.status = s.row.status ∧ s'.missed = s.missed ∧
      s'.held = (filledLock s.row.id order payload).toList ++ s.held ∧
      s'.row.contextJson =
        match recordedFill s w order payload filledAt fails with
        | some (run, record) => setTradeFlowBuyFillLock run.contextJson record
        | none => s.row.contextJson := by
  cases hc : s.copies w with
  | none => simp [lockStep, recordedFill, hc]
  | some copy =>
    cases copy with
    | cached context => simp [lockStep, recordedFill, hc]
    | row run =>
      cases hr : buyFillLockRecord order payload run filledAt with
      | none =>
        simp [lockStep, recordedFill, hc, hr, maybeRecordActionPlaceOrderBuyFillLockFill]
      | some record =>
        cases fails <;> simp [lockStep, recordedFill, hc, hr,
          maybeRecordActionPlaceOrderBuyFillLockFill, LockState.overwrite, LockState.setCopy]

theorem fillLockLaw_buyFilled {s : LockState} (h : FillLockLaw s) (w : ℕ) (order : LockOrder)
    (payload : Option Value) (filledAt : String) (fails : Bool) :
    FillLockLaw (lockStep s (.buyFilled w order payload filledAt fails)) ↔
      SparesLocks s (.buyFilled w order payload filledAt fails) := by
  obtain ⟨hstatus, hmissed, hheld, hcontext⟩ :=
    lockStep_buyFilled s w order payload filledAt fails
  have hlocked (l : HeldLock) :
      Locked (lockStep s (.buyFilled w order payload filledAt fails)).row.contextJson l.group
          l.marketSlug ↔
        match recordedFill s w order payload filledAt fails with
        | some (run, record) =>
          if l.group = record.group then l.marketSlug = trim record.marketSlug ∧ record.Readable
          else Locked run.contextJson l.group l.marketSlug
        | none => Locked s.row.contextJson l.group l.marketSlug := by
    rw [hcontext]
    split
    · rename_i run record _
      split
      · rename_i hgroup
        rw [hgroup, locked_set_same]
      · rename_i hgroup
        exact locked_set_other run.contextJson record hgroup l.marketSlug
    · rfl
  constructor
  · intro hlaw hrun l hl
    exact (hlocked l).mp (hlaw.locked (hstatus ▸ hrun) l (hheld ▸ hl))
  · intro hspares
    constructor
    · intro hrun l hl
      exact (hlocked l).mpr (hspares (hstatus ▸ hrun) l (hheld ▸ hl))
    · exact hmissed.trans h.blocked

theorem lockStep_released {s : LockState} {w : ℕ} {parent : LockOrder} {payload : Option Value}
    {positionQty : Option ℚ} {run : TradeFlowRun} {context : Value}
    (hc : s.copies w = some (.row run))
    (hr : maybeReleaseActionPlaceOrderBuyFillLockOnStopLoss parent positionQty payload run =
      some context) :
    let s' := lockStep s (.stopLossFilled w parent payload positionQty false)
    s'.row = { s.row with contextJson := context } ∧ s'.missed = s.missed ∧
      s'.held = s.held.filter fun l => some l ≠ releasedLock run parent payload positionQty := by
  simp [lockStep, hc, hr, LockState.overwrite, LockState.setCopy]

theorem lockStep_notReleased {s : LockState} {w : ℕ} {parent : LockOrder}
    {payload : Option Value} {positionQty : Option ℚ} {fails : Bool}
    (h : fails = false → ∀ run, s.copies w = some (.row run) →
      maybeReleaseActionPlaceOrderBuyFillLockOnStopLoss parent positionQty payload run = none) :
    let s' := lockStep s (.stopLossFilled w parent payload positionQty fails)
    s'.row = s.row ∧ s'.missed = s.missed ∧ ∀ l ∈ s'.held, l ∈ s.held := by
  cases hc : s.copies w with
  | none => simp [lockStep, hc]
  | some copy =>
    cases copy with
    | cached context => simp [lockStep, hc]
    | row run =>
      cases hr : maybeReleaseActionPlaceOrderBuyFillLockOnStopLoss parent positionQty payload
          run with
      | none => simp +contextual [lockStep, hc, hr]
      | some context =>
        cases fails with
        | true => simp +contextual [lockStep, hc, hr]
        | false =>
          rw [h rfl run hc] at hr
          cases hr

theorem fillLockLaw_stopLossFilled {s : LockState} (h : FillLockLaw s) (w : ℕ)
    (parent : LockOrder) (payload : Option Value) (positionQty : Option ℚ) (fails : Bool) :
    FillLockLaw (lockStep s (.stopLossFilled w parent payload positionQty fails)) ↔
      SparesLocks s (.stopLossFilled w parent payload positionQty fails) := by
  by_cases hw : ∃ run context, fails = false ∧ s.copies w = some (.row run) ∧
      maybeReleaseActionPlaceOrderBuyFillLockOnStopLoss parent positionQty payload run =
        some context
  · obtain ⟨run, context, rfl, hc, hr⟩ := hw
    obtain ⟨lockConfig, hconfig, rfl⟩ := maybeRelease_eq_some hr
    obtain ⟨hrow, hmissed, hheld⟩ := lockStep_released hc hr
    constructor
    · intro hlaw hrun _ run' hc' config' hconfig' _ l hl hne
      have hsame : run' = run := by
        simpa [hc] using hc'.symm
      have hconfigs : config' = lockConfig := by
        simpa [hconfig] using hconfig'.symm
      subst hsame hconfigs
      have hlocked := hlaw.locked (by rw [hrow]; exact hrun) l (by
        rw [hheld]
        simpa using ⟨hl, hne⟩)
      rw [hrow] at hlocked
      exact (locked_clear _ _ _ _).mp hlocked
    · intro hspares
      constructor
      · intro hrun l hl
        rw [hrow] at hrun ⊢
        rw [hheld] at hl
        obtain ⟨hl, hne⟩ : l ∈ s.held ∧ some l ≠ releasedLock run parent payload positionQty := by
          simpa using hl
        exact (locked_clear _ _ _ _).mpr
          (hspares hrun rfl run hc lockConfig hconfig (by simp [hr]) l hl hne)
      · exact hmissed.trans h.blocked
  · have hnot : fails = false → ∀ run, s.copies w = some (.row run) →
        maybeReleaseActionPlaceOrderBuyFillLockOnStopLoss parent positionQty payload run =
          none := by
      intro hf run hc
      by_contra hsome
      obtain ⟨context, hr⟩ := Option.ne_none_iff_exists'.mp hsome
      exact hw ⟨run, context, hf, hc, hr⟩
    obtain ⟨hrow, hmissed, hheld⟩ := lockStep_notReleased hnot
    refine iff_of_true ?_ ?_
    · constructor
      · intro hrun l hl
        rw [hrow] at hrun ⊢
        exact h.locked hrun l (hheld l hl)
      · exact hmissed.trans h.blocked
    · intro _ hf run hc _ _ hsome
      rw [hnot hf run hc] at hsome
      cases hsome

theorem buysHeld_iff {held : List HeldLock} {config : Value} {side : Side} {marketSlug : String}
    {lockConfig : ActionPlaceOrderBuyFillLockConfig}
    (h : resolveActionPlaceOrderBuyFillLockConfig config side = .ok (some lockConfig)) :
    buysHeld held config side marketSlug = true ↔
      ∃ l ∈ held, l.group = lockConfig.group ∧ l.marketSlug = marketSlug := by
  unfold buysHeld
  rw [h]
  simp

theorem fillLockLaw_placeOrder {s : LockState} (h : FillLockLaw s) (w : ℕ) (config : Value)
    (side : Side) (marketSlug : String) :
    FillLockLaw (lockStep s (.placeOrder w config side marketSlug)) ↔
      SparesLocks s (.placeOrder w config side marketSlug) := by
  by_cases hw : ∃ run lockConfig, s.copies w = some (.row run) ∧
      resolveActionPlaceOrderBuyFillLockConfig config side = .ok (some lockConfig)
  · obtain ⟨run, lockConfig, hc, hconfig⟩ := hw
    have hmissed : (lockStep s (.placeOrder w config side marketSlug)).missed = false ↔
        (buysHeld s.held config side marketSlug = true →
          letsThrough run.contextJson config side marketSlug = false) := by
      simp [lockStep, hc, h.blocked]
    rw [buysHeld_iff hconfig, letsThrough_iff hconfig] at hmissed
    constructor
    · intro hlaw run' hc' config' hconfig' hheld
      have hsame : run' = run := by
        simpa [hc] using hc'.symm
      have hconfigs : config' = lockConfig := by
        simpa [hconfig] using hconfig'.symm
      subst hsame hconfigs
      exact hmissed.mp hlaw.blocked hheld
    · intro hspares
      constructor
      · simpa [lockStep, hc] using h.locked
      · exact hmissed.mpr (hspares run hc lockConfig hconfig)
  · have hsame : FillLockLaw (lockStep s (.placeOrder w config side marketSlug)) := by
      have hnot : ∀ run, s.copies w = some (.row run) →
          buysHeld s.held config side marketSlug = false := by
        intro run hc
        unfold buysHeld
        split
        · rename_i lockConfig hconfig
          exact absurd ⟨run, lockConfig, hc, hconfig⟩ hw
        · rfl
      simp only [lockStep]
      split
      · rename_i run hc
        rw [hnot run hc]
        exact ⟨h.locked, by simpa using h.blocked⟩
      · exact h
    refine iff_of_true hsame ?_
    intro run hc lockConfig hconfig
    exact absurd ⟨run, lockConfig, hc, hconfig⟩ hw

theorem fillLockLaw_step (s : LockState) (e : LockEvent) (h : FillLockLaw s) :
    FillLockLaw (lockStep s e) ↔ SparesLocks s e := by
  cases e with
  | write w => exact fillLockLaw_write h w
  | buyFilled w order payload filledAt fails =>
    exact fillLockLaw_buyFilled h w order payload filledAt fails
  | stopLossFilled w parent payload positionQty fails =>
    exact fillLockLaw_stopLossFilled h w parent payload positionQty fails
  | placeOrder w config side marketSlug =>
    exact fillLockLaw_placeOrder h w config side marketSlug
  | readRow w => exact iff_of_true ⟨h.locked, h.blocked⟩ trivial
  | readCache w => exact iff_of_true ⟨h.locked, h.blocked⟩ trivial
  | edit w work => exact iff_of_true ⟨h.locked, h.blocked⟩ trivial
  | dropCache => exact iff_of_true ⟨h.locked, h.blocked⟩ trivial
  | storeCache w =>
    have hlaw : FillLockLaw (lockStep s (.storeCache w)) := by
      simp only [lockStep]
      split
      · exact ⟨h.locked, h.blocked⟩
      · exact h
    exact iff_of_true hlaw trivial
  | replaceCache w =>
    have hlaw : FillLockLaw (lockStep s (.replaceCache w)) := by
      simp only [lockStep]
      split
      · exact ⟨h.locked, h.blocked⟩
      · exact h
    exact iff_of_true hlaw trivial
  | stop failed =>
    have hlaw : FillLockLaw (lockStep s (.stop failed)) := by
      constructor
      · intro hrun
        cases failed <;> cases hrun
      · exact h.blocked
    exact iff_of_true hlaw trivial

theorem fillLockLaw_init (row : TradeFlowRun) : FillLockLaw (.init row) where
  locked _ := by simp [LocksIn, LockState.init]
  blocked := rfl

/-- From any run row, through any interleaving of fills, releases, placements and context
writes, every held lock stays in the row and blocks its buys exactly when each event spares
the held locks. -/
theorem buy_fill_locks_kept_iff (row : TradeFlowRun) (events : List LockEvent) :
    Throughout lockStep FillLockLaw (.init row) events ↔
      EachStep lockStep SparesLocks (.init row) events :=
  throughout_iff_eachStep (I := fun _ => True) (fun s e _ hs => fillLockLaw_step s e hs)
    (fun _ _ _ _ _ => trivial) trivial (fillLockLaw_init row) events

def lateEntryBuy (id : ℤ) (marketSlug : String) : LockOrder :=
  ⟨id, .buy, marketSlug, some 7, some "buy"⟩

def lateEntryPayload : Option Value :=
  some (.object [("buy_fill_lock", .object [("group", .string "late-entry")])])

/-- Two buys of one group fill, in one market and then in another. -/
def twoMarketFills : List LockEvent :=
  [.readRow 0,
    .buyFilled 0 (lateEntryBuy 41 "btc-updown-5m-1767225600") lateEntryPayload
      "2026-01-01T00:00:10+00:00" false,
    .readRow 1,
    .buyFilled 1 (lateEntryBuy 42 "eth-updown-5m-1767225600") lateEntryPayload
      "2026-01-01T00:00:20+00:00" false]

theorem lock_lost_to_other_market :
    ¬ Throughout lockStep FillLockLaw (.init ⟨7, .running, .object []⟩) twoMarketFills := by
  intro h
  have hlocked := (h 4).locked (by decide +kernel)
  revert hlocked
  decide +kernel

end PolymarketBot.Flow
