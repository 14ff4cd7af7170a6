import PolymarketBot.Flow.ContextWriters
import PolymarketBot.Flow.DeferredOnceLocks

/-! What the consumed deferred locks make of the once state of a trigger. -/

namespace PolymarketBot.Flow

/-- The once state of one trigger, as its entries in the context have it. -/
structure OnceMark where
  fired : Option Value := none
  firedAt : Option Value := none
  firedMarketSlug : Option Value := none
  blockLogged : Option Value := none
  publishLock : Option Value := none

def onceMark (context : Value) (nodeKey : String) : OnceMark where
  fired := flowNodeState context nodeKey onceFiredKey
  firedAt := flowNodeState context nodeKey onceFiredAtKey
  firedMarketSlug := flowNodeState context nodeKey onceFiredMarketSlugKey
  blockLogged := flowNodeState context nodeKey onceBlockLoggedKey
  publishLock := flowNodeState context nodeKey publishAutoScopeLockMarketSlugKey

/-- A state entry read as `flow_node_state_string` reads it. -/
def stateText (entry : Option Value) : Option String :=
  let text := match entry with
    | some (.string s) => some (trim s)
    | some (.number n) => some n.text
    | _ => none
  text.filter (· ≠ "")

theorem trimmedSlug_trimmedSlug (slug : Option String) :
    trimmedSlug (trimmedSlug slug) = trimmedSlug slug := by
  cases slug with
  | none => rfl
  | some s =>
    by_cases hblank : trim s = "" <;> simp [trimmedSlug, Option.filter_some, hblank, trim_trim]

/-- The market of a lock that fires a trigger for its market only. -/
def DeferredOnceLock.market (lock : DeferredOnceLock) : Option String :=
  trimmedSlug (some lock.marketSlug)

/-- The market a mark is for after one lock. -/
def takenMarket (slug : Option String) (lock : DeferredOnceLock) : Option String :=
  if lock.onceScopeMarket then lock.market else slug

def lastMarket (slug : Option String) (locks : List DeferredOnceLock) : Option String :=
  locks.foldl takenMarket slug

theorem market_trimmed (lock : DeferredOnceLock) : trimmedSlug lock.market = lock.market :=
  trimmedSlug_trimmedSlug _

theorem takenMarket_trimmed {slug : Option String} (hslug : trimmedSlug slug = slug)
    (lock : DeferredOnceLock) : trimmedSlug (takenMarket slug lock) = takenMarket slug lock := by
  unfold takenMarket
  split
  · exact market_trimmed lock
  · exact hslug

theorem lastMarket_trimmed {slug : Option String} (hslug : trimmedSlug slug = slug)
    (locks : List DeferredOnceLock) : trimmedSlug (lastMarket slug locks) = lastMarket slug locks := by
  induction locks generalizing slug with
  | nil => exact hslug
  | cons lock rest ih => exact ih (takenMarket_trimmed hslug lock)

namespace OnceMark
variable (mark : OnceMark)

def firedFor (onceScopeMarket : Bool) (marketSlug : Option String) : Bool :=
  let current := trimmedSlug marketSlug
  if current.isSome && stateText mark.publishLock = current then true
  else if !(mark.fired.map valueTruthy).getD false then false
  else if !onceScopeMarket then true
  else current.isSome && stateText mark.firedMarketSlug = current

def knows (lock : DeferredOnceLock) : Bool :=
  mark.firedFor lock.onceScopeMarket (some lock.marketSlug)

/-- The mark as a firing leaves it, whatever was there. -/
def marked (firedAt : String) (slug : Option String) : OnceMark where
  fired := some (.bool true)
  firedAt := some (.string firedAt)
  firedMarketSlug := slug.map .string
  blockLogged := some (.bool false)

def take (firedAt : String) (lock : DeferredOnceLock) : OnceMark :=
  if mark.knows lock then mark
  else marked firedAt (trimmedSlug (if lock.onceScopeMarket then some lock.marketSlug else none))

def reconcile (firedAt : String) (locks : List DeferredOnceLock) : OnceMark :=
  locks.foldl (fun mark lock => mark.take firedAt lock) mark

theorem reconcile_cons (firedAt : String) (lock : DeferredOnceLock)
    (rest : List DeferredOnceLock) :
    mark.reconcile firedAt (lock :: rest) = (mark.take firedAt lock).reconcile firedAt rest :=
  List.foldl_cons ..

theorem firedFor_onceMark (context : Value) (nodeKey : String) (onceScopeMarket : Bool)
    (marketSlug : Option String) :
    (onceMark context nodeKey).firedFor onceScopeMarket marketSlug =
      tradeFlowMarketPriceOnceFiredForScope context nodeKey onceScopeMarket marketSlug := by
  rfl

theorem firedFor_congr (onceScopeMarket : Bool) {slug slug' : Option String}
    (h : trimmedSlug slug = trimmedSlug slug') :
    mark.firedFor onceScopeMarket slug = mark.firedFor onceScopeMarket slug' := by
  unfold firedFor
  rw [h]

theorem firedFor_run {mark : OnceMark} {marketSlug : String} {slug : Option String}
    (h : mark.firedFor false (some marketSlug) = true)
    (hpublish : ∀ market ∈ trimmedSlug (some marketSlug), stateText mark.publishLock = some market →
      trimmedSlug slug = some market) : mark.firedFor false slug = true := by
  unfold firedFor at h ⊢
  cases hmarket : trimmedSlug (some marketSlug) with
  | none =>
    have hfired : (mark.fired.map valueTruthy).getD false = true := by simpa [hmarket] using h
    simp [hfired]
  | some market =>
    by_cases hlocked : stateText mark.publishLock = some market
    · simp [hpublish market hmarket hlocked, hlocked]
    · have hfired : (mark.fired.map valueTruthy).getD false = true := by
        simpa [hmarket, hlocked] using h
      simp [hfired]

section Marked
variable {slug : Option String} (hslug : trimmedSlug slug = slug)
include hslug

theorem stateText_slug : stateText (slug.map .string) = slug := by
  cases slug with
  | none => rfl
  | some s => exact hslug

theorem firedFor_marked (firedAt : String) (onceScopeMarket : Bool) (marketSlug : String) :
    (marked firedAt slug).firedFor onceScopeMarket (some marketSlug) ↔
      (onceScopeMarket → (trimmedSlug (some marketSlug)).isSome ∧
        slug = trimmedSlug (some marketSlug)) := by
  have hlock : ((trimmedSlug (some marketSlug)).isSome &&
      decide (stateText (marked firedAt slug).publishLock = trimmedSlug (some marketSlug))) =
        false := by
    cases trimmedSlug (some marketSlug) <;> rfl
  have hread : stateText (marked firedAt slug).firedMarketSlug = slug := stateText_slug hslug
  unfold firedFor
  simp only [hlock, hread]
  cases onceScopeMarket <;> simp [marked, valueTruthy]

theorem knows_marked (firedAt : String) (lock : DeferredOnceLock) :
    (marked firedAt slug).knows lock ↔
      (lock.onceScopeMarket → lock.market.isSome ∧ slug = lock.market) :=
  firedFor_marked hslug firedAt lock.onceScopeMarket lock.marketSlug

theorem take_marked (firedAt : String) (lock : DeferredOnceLock) :
    (marked firedAt slug).take firedAt lock = marked firedAt (takenMarket slug lock) := by
  unfold take takenMarket
  split
  · rename_i hknown
    rw [knows_marked hslug] at hknown
    split
    · rename_i hscope
      rw [(hknown hscope).2]
    · rfl
  · rename_i hnew
    rw [knows_marked hslug] at hnew
    have hscope : lock.onceScopeMarket = true := by
      by_contra hrun
      exact hnew fun h => absurd h hrun
    rw [if_pos hscope, if_pos hscope]
    rfl

end Marked

theorem reconcile_marked {slug : Option String} (hslug : trimmedSlug slug = slug) (firedAt : String)
    (locks : List DeferredOnceLock) :
    (marked firedAt slug).reconcile firedAt locks = marked firedAt (lastMarket slug locks) := by
  induction locks generalizing slug with
  | nil => rfl
  | cons lock rest ih =>
    calc
      (marked firedAt slug).reconcile firedAt (lock :: rest)
          = ((marked firedAt slug).take firedAt lock).reconcile firedAt rest := reconcile_cons ..
      _ = (marked firedAt (takenMarket slug lock)).reconcile firedAt rest := by
            rw [take_marked hslug]
      _ = marked firedAt (lastMarket slug (lock :: rest)) := ih (takenMarket_trimmed hslug lock)

/-- The locks from the first one on that the mark does not know. -/
def unknown (mark : OnceMark) (locks : List DeferredOnceLock) : List DeferredOnceLock :=
  locks.dropWhile mark.knows

theorem unknown_eq_nil {locks : List DeferredOnceLock} :
    mark.unknown locks = [] ↔ ∀ lock ∈ locks, mark.knows lock := List.dropWhile_eq_nil_iff

theorem unknown_ends {mark : OnceMark} {before : List DeferredOnceLock} {last : DeferredOnceLock}
    (h : mark.unknown (before ++ [last]) ≠ []) :
    ∃ mid, mark.unknown (before ++ [last]) = mid ++ [last] := by
  obtain ⟨known, hknown⟩ := List.dropWhile_suffix (l := before ++ [last]) mark.knows
  obtain ⟨mid, lock, hmid⟩ := (List.eq_nil_or_concat _).resolve_left h
  rw [List.concat_eq_append] at hmid
  have hends : known ++ mid ++ [lock] = before ++ [last] := by
    rw [List.append_assoc, ← hmid]
    exact hknown
  obtain ⟨-, hlock⟩ := List.append_inj' hends rfl
  exact ⟨mid, hmid.trans (congrArg (mid ++ ·) hlock)⟩

theorem reconcile_eq (firedAt : String) (locks : List DeferredOnceLock) :
    mark.reconcile firedAt locks =
      if mark.unknown locks = [] then mark
      else marked firedAt (lastMarket none (mark.unknown locks)) := by
  induction locks with
  | nil => exact (if_pos rfl).symm
  | cons lock rest ih =>
    cases hknown : mark.knows lock with
    | true =>
      have hskip : mark.unknown (lock :: rest) = mark.unknown rest := by
        rw [unknown, List.dropWhile_cons_of_pos hknown, unknown]
      rw [reconcile_cons, hskip, take, if_pos hknown, ih]
    | false =>
      have hkeep : mark.unknown (lock :: rest) = lock :: rest :=
        List.dropWhile_cons_of_neg (by simp [hknown])
      have hslug : trimmedSlug (if lock.onceScopeMarket then some lock.marketSlug else none) =
          takenMarket none lock := by
        unfold takenMarket DeferredOnceLock.market
        split
        · rfl
        · rfl
      rw [reconcile_cons, hkeep, if_neg (List.cons_ne_nil _ _), take, hknown,
        if_neg Bool.false_ne_true, hslug]
      exact reconcile_marked (takenMarket_trimmed rfl lock) firedAt rest

end OnceMark

/-! ### The marks in a context -/

theorem onceMark_fired (context : Value) (nodeKey firedAt : String) (slug : Option String)
    (k : String) :
    onceMark ((markTradeFlowMarketPriceOnceFired nodeKey firedAt slug).run context) k =
      if k = nodeKey then OnceMark.marked firedAt (trimmedSlug slug) else onceMark context k := by
  unfold markTradeFlowMarketPriceOnceFired onceMark
  by_cases hk : k = nodeKey
  · cases trimmedSlug slug <;>
      simp [Draft.bind_run, flowNodeState_setFlowNodeState, flowNodeState_removeFlowNodeState, hk,
        onceFiredKey, onceFiredAtKey, onceFiredMarketSlugKey, onceBlockLoggedKey,
        publishAutoScopeLockMarketSlugKey, OnceMark.marked]
  · cases trimmedSlug slug <;>
      simp [Draft.bind_run, flowNodeState_setFlowNodeState, flowNodeState_removeFlowNodeState, hk]

theorem onceMark_cleared (context : Value) (nodeKey : String) :
    onceMark ((clearTradeFlowMarketPriceOnceState nodeKey).run context) nodeKey = {} := by
  unfold clearTradeFlowMarketPriceOnceState onceMark
  simp [Draft.bind_run, flowNodeState_removeFlowNodeState]

def locksOf (nodeKey : String) (consumed : List DeferredOnceLock) : List DeferredOnceLock :=
  consumed.filter fun lock => lock.triggerNodeKey = nodeKey

theorem reconcile_cons_run (lock : DeferredOnceLock) (rest : List DeferredOnceLock)
    (firedAt : String) (context : Value) :
    (reconcileTradeFlowDeferredOnceLocksForRun (lock :: rest) firedAt).run context =
      (reconcileTradeFlowDeferredOnceLocksForRun rest firedAt).run
        (if tradeFlowMarketPriceOnceFiredForScope context lock.triggerNodeKey lock.onceScopeMarket
            (some lock.marketSlug) then context
          else (markTradeFlowMarketPriceOnceFired lock.triggerNodeKey firedAt
            (if lock.onceScopeMarket then some lock.marketSlug else none)).run context) := by
  unfold reconcileTradeFlowDeferredOnceLocksForRun
  rw [Draft.each, Draft.bind_run, Draft.bind_run, Draft.read_run, Draft.read_fst]
  split <;> rfl

theorem onceMark_reconcile (consumed : List DeferredOnceLock) (firedAt : String) (context : Value)
    (nodeKey : String) :
    onceMark ((reconcileTradeFlowDeferredOnceLocksForRun consumed firedAt).run context) nodeKey =
      (onceMark context nodeKey).reconcile firedAt (locksOf nodeKey consumed) := by
  induction consumed generalizing context with
  | nil => rfl
  | cons lock rest ih =>
    rw [reconcile_cons_run, ih]
    by_cases hkey : lock.triggerNodeKey = nodeKey
    · subst hkey
      have hlocks : locksOf lock.triggerNodeKey (lock :: rest) =
          lock :: locksOf lock.triggerNodeKey rest := List.filter_cons_of_pos (by simp)
      have hknows : (onceMark context lock.triggerNodeKey).knows lock =
          tradeFlowMarketPriceOnceFiredForScope context lock.triggerNodeKey lock.onceScopeMarket
            (some lock.marketSlug) := rfl
      rw [hlocks, OnceMark.reconcile, OnceMark.reconcile, List.foldl_cons, OnceMark.take, hknows]
      split
      · rfl
      · rw [onceMark_fired, if_pos rfl]
    · have hlocks : locksOf nodeKey (lock :: rest) = locksOf nodeKey rest :=
        List.filter_cons_of_neg (by simpa using hkey)
      rw [hlocks]
      split
      · rfl
      · rw [onceMark_fired, if_neg (Ne.symm hkey)]

/-! ### The three laws -/

section Laws
variable (context : Value) (consumed : List DeferredOnceLock) (nodeKey : String)

def reconciled (firedAt : String) : Value :=
  (reconcileTradeFlowDeferredOnceLocksForRun consumed firedAt).run context

/-- A second reconcile, whenever it runs, leaves the once state the first one left. -/
def ReconcilesOnce : Prop :=
  ∀ firedAt firedAt', onceMark (reconciled (reconciled context consumed firedAt) consumed firedAt')
    nodeKey = onceMark (reconciled context consumed firedAt) nodeKey

/-- A trigger that is fired for a market is so after the reconcile. -/
def KeepsFired (onceScopeMarket : Bool) (marketSlug : String) : Prop :=
  tradeFlowMarketPriceOnceFiredForScope context nodeKey onceScopeMarket (some marketSlug) →
    ∀ firedAt, tradeFlowMarketPriceOnceFiredForScope (reconciled context consumed firedAt) nodeKey
      onceScopeMarket (some marketSlug)

/-- A trigger whose once state a re-entry clears after the locks were consumed stays cleared. -/
def KeepsCleared (input : ReentryInput) : Prop :=
  ∀ firedAt, onceMark (reconciled ((scheduleTradeBuilderStopLossReentry input).run context) consumed
    firedAt) input.triggerNodeKey = {}

/-- The trigger is already fired for each of its locks. -/
def AllFired : Prop :=
  ∀ lock ∈ locksOf nodeKey consumed, tradeFlowMarketPriceOnceFiredForScope context nodeKey
    lock.onceScopeMarket (some lock.marketSlug)

/-- The market of the last lock with a market scope, from the first lock on that the trigger is
not fired for. -/
def finalMarket : Option String :=
  lastMarket none ((locksOf nodeKey consumed).dropWhile fun lock =>
    tradeFlowMarketPriceOnceFiredForScope context nodeKey lock.onceScopeMarket (some lock.marketSlug))

/-- The locks of the trigger that have a market scope are all for the final market. -/
def OneMarket : Prop :=
  ∀ lock ∈ locksOf nodeKey consumed, lock.onceScopeMarket →
    lock.market.isSome ∧ finalMarket context consumed nodeKey = lock.market

instance : Decidable (AllFired context consumed nodeKey) :=
  inferInstanceAs (Decidable (∀ _ ∈ _, _))

instance : Decidable (OneMarket context consumed nodeKey) :=
  inferInstanceAs (Decidable (∀ _ ∈ _, _))

variable {context consumed nodeKey}

theorem onceMark_reconciled (firedAt : String) :
    onceMark (reconciled context consumed firedAt) nodeKey =
      (onceMark context nodeKey).reconcile firedAt (locksOf nodeKey consumed) :=
  onceMark_reconcile consumed firedAt context nodeKey

theorem knows_onceMark (context : Value) (nodeKey : String) :
    (onceMark context nodeKey).knows = fun lock => tradeFlowMarketPriceOnceFiredForScope context
      nodeKey lock.onceScopeMarket (some lock.marketSlug) :=
  funext fun _ => OnceMark.firedFor_onceMark context nodeKey _ _

theorem allFired_iff :
    AllFired context consumed nodeKey ↔
      (onceMark context nodeKey).unknown (locksOf nodeKey consumed) = [] := by
  rw [OnceMark.unknown_eq_nil, knows_onceMark]
  rfl

theorem reconciled_of_allFired (h : AllFired context consumed nodeKey) (firedAt : String) :
    onceMark (reconciled context consumed firedAt) nodeKey = onceMark context nodeKey := by
  rw [onceMark_reconciled, OnceMark.reconcile_eq, if_pos (allFired_iff.mp h)]

theorem reconciled_of_unfired (h : ¬ AllFired context consumed nodeKey) (firedAt : String) :
    onceMark (reconciled context consumed firedAt) nodeKey =
      OnceMark.marked firedAt (finalMarket context consumed nodeKey) := by
  rw [onceMark_reconciled, OnceMark.reconcile_eq, if_neg fun hnil => h (allFired_iff.mpr hnil),
    OnceMark.unknown, knows_onceMark]
  rfl

theorem finalMarket_trimmed :
    trimmedSlug (finalMarket context consumed nodeKey) = finalMarket context consumed nodeKey :=
  lastMarket_trimmed rfl _

theorem reconcilesOnce_iff :
    ReconcilesOnce context consumed nodeKey ↔
      AllFired context consumed nodeKey ∨ OneMarket context consumed nodeKey := by
  by_cases hall : AllFired context consumed nodeKey
  · refine iff_of_true (fun firedAt firedAt' => ?_) (.inl hall)
    rw [onceMark_reconciled, reconciled_of_allFired hall firedAt, ← onceMark_reconciled]
    exact reconciled_of_allFired hall firedAt'
  rw [or_iff_right hall]
  have hknown : ∀ firedAt,
      (OnceMark.marked firedAt (finalMarket context consumed nodeKey)).unknown
        (locksOf nodeKey consumed) = [] ↔ OneMarket context consumed nodeKey := by
    intro firedAt
    rw [OnceMark.unknown_eq_nil]
    exact forall₂_congr fun lock _ => OnceMark.knows_marked finalMarket_trimmed firedAt lock
  constructor
  · intro honce
    by_contra hmany
    have hsame := honce "" "again"
    rw [onceMark_reconciled, reconciled_of_unfired hall, OnceMark.reconcile_eq,
      if_neg fun hnil => hmany ((hknown "").mp hnil)] at hsame
    have hfiredAt := congrArg OnceMark.firedAt hsame
    simp [OnceMark.marked] at hfiredAt
  · intro hone firedAt firedAt'
    rw [onceMark_reconciled, reconciled_of_unfired hall, OnceMark.reconcile_eq,
      if_pos ((hknown firedAt).mpr hone)]

theorem firedFor_market_isSome {mark : OnceMark} {marketSlug : String}
    (h : mark.firedFor true (some marketSlug)) : (trimmedSlug (some marketSlug)).isSome := by
  unfold OnceMark.firedFor at h
  cases hslug : trimmedSlug (some marketSlug) with
  | none => simp [hslug] at h
  | some slug => rfl

theorem keepsFired_iff (onceScopeMarket : Bool) (marketSlug : String) :
    KeepsFired context consumed nodeKey onceScopeMarket marketSlug ↔
      (tradeFlowMarketPriceOnceFiredForScope context nodeKey onceScopeMarket (some marketSlug) →
        AllFired context consumed nodeKey ∨ (onceScopeMarket →
          finalMarket context consumed nodeKey = trimmedSlug (some marketSlug))) := by
  refine imp_congr_right fun hfired => ?_
  simp only [← OnceMark.firedFor_onceMark] at hfired ⊢
  by_cases hall : AllFired context consumed nodeKey
  · refine iff_of_true (fun firedAt => ?_) (.inl hall)
    rwa [reconciled_of_allFired hall]
  rw [or_iff_right hall]
  have hread : ∀ firedAt, (onceMark (reconciled context consumed firedAt) nodeKey).firedFor
      onceScopeMarket (some marketSlug) ↔ (onceScopeMarket →
        (trimmedSlug (some marketSlug)).isSome ∧
          finalMarket context consumed nodeKey = trimmedSlug (some marketSlug)) := by
    intro firedAt
    rw [reconciled_of_unfired hall]
    exact OnceMark.firedFor_marked finalMarket_trimmed firedAt onceScopeMarket marketSlug
  simp only [hread, forall_const]
  refine imp_congr_right fun hscope => and_iff_right ?_
  subst hscope
  exact firedFor_market_isSome hfired

theorem onceMark_reentry (context : Value) (input : ReentryInput) :
    onceMark ((scheduleTradeBuilderStopLossReentry input).run context) input.triggerNodeKey = {} := by
  have hws : ∀ context, onceMark
      ((clearTradeFlowMarketPriceWsRuntimeState input.triggerNodeKey).run context)
        input.triggerNodeKey = onceMark context input.triggerNodeKey := by
    intro context
    have hkey : ∀ key ∈ onceStateKeys, flowNodeState
        ((clearTradeFlowMarketPriceWsRuntimeState input.triggerNodeKey).run context)
          input.triggerNodeKey key = flowNodeState context input.triggerNodeKey key := by
      intro key hmem
      have hruntime : ∀ key ∈ onceStateKeys,
          key ∉ ["last_price", "previous_price"] ∧ isWsRuntimeKey key = false := by decide
      obtain ⟨hplain, hprefixed⟩ := hruntime key hmem
      exact flowNodeState_spared
        (fun e he => (clearWsRuntimeState_edits _ context e he).spares hplain hprefixed) context _
    unfold onceMark
    rw [hkey _ (by decide), hkey _ (by decide), hkey _ (by decide), hkey _ (by decide),
      hkey _ (by decide)]
  unfold scheduleTradeBuilderStopLossReentry
  simp only [Draft.bind_run, hws, onceMark_cleared]

theorem firedFor_cleared (onceScopeMarket : Bool) (marketSlug : Option String) :
    ({} : OnceMark).firedFor onceScopeMarket marketSlug = false := by
  unfold OnceMark.firedFor
  cases trimmedSlug marketSlug <;> rfl

theorem keepsCleared_iff (input : ReentryInput) :
    KeepsCleared context consumed input ↔
      ∀ lock ∈ consumed, lock.triggerNodeKey ≠ input.triggerNodeKey := by
  have hcleared := onceMark_reentry context input
  have hnone : (∀ lock ∈ consumed, lock.triggerNodeKey ≠ input.triggerNodeKey) ↔
      locksOf input.triggerNodeKey consumed = [] := by
    simp [locksOf, List.filter_eq_nil_iff]
  rw [hnone]
  constructor
  · intro hkeeps
    by_contra hlocks
    have hunfired : ¬ AllFired ((scheduleTradeBuilderStopLossReentry input).run context) consumed
        input.triggerNodeKey := by
      intro hall
      obtain ⟨lock, hlock⟩ := List.exists_mem_of_ne_nil _ hlocks
      have hfired := hall lock hlock
      rw [← OnceMark.firedFor_onceMark, hcleared, firedFor_cleared] at hfired
      cases hfired
    have hmark := hkeeps ""
    rw [reconciled_of_unfired hunfired] at hmark
    cases congrArg OnceMark.fired hmark
  · intro hlocks firedAt
    rw [onceMark_reconciled, hlocks, hcleared]
    rfl

end Laws

/-- When a reconcile is idempotent, when it keeps the firing of a market, and when it leaves a
trigger alone that a re-entry has cleared. -/
theorem reconcile_laws_iff (context : Value) (consumed : List DeferredOnceLock) (nodeKey : String) :
    (ReconcilesOnce context consumed nodeKey ↔
        AllFired context consumed nodeKey ∨ OneMarket context consumed nodeKey) ∧
      (∀ onceScopeMarket marketSlug,
        KeepsFired context consumed nodeKey onceScopeMarket marketSlug ↔
          (tradeFlowMarketPriceOnceFiredForScope context nodeKey onceScopeMarket (some marketSlug) →
            AllFired context consumed nodeKey ∨ (onceScopeMarket →
              finalMarket context consumed nodeKey = trimmedSlug (some marketSlug)))) ∧
      (∀ input : ReentryInput, KeepsCleared context consumed input ↔
        ∀ lock ∈ consumed, lock.triggerNodeKey ≠ input.triggerNodeKey) :=
  ⟨reconcilesOnce_iff, keepsFired_iff, keepsCleared_iff⟩

def consumedLock (marketSlug : String) : DeferredOnceLock where
  toDeferredOnceLockMeta := { upLock 30000000000 with marketSlug }
  runId := 42
  state := .consumed

/-- The locks of two earlier markets take the firing of the present one away, each reconcile
marks anew, and what a re-entry cleared is marked again. -/
theorem earlier_locks_overwrite :
    let consumed := [consumedLock "btc-updown-5m-1", consumedLock "btc-updown-5m-2"]
    let fired := (markTradeFlowMarketPriceOnceFired "trigger" "t0" (some "btc-updown-5m-3")).run
      (.object [])
    ¬ KeepsFired fired consumed "trigger" true "btc-updown-5m-3" ∧
      ¬ ReconcilesOnce fired consumed "trigger" ∧
      ¬ KeepsCleared fired consumed ⟨"action", "trigger", "btc-updown-5m-2", 3⟩ := by
  refine ⟨?_, ?_, ?_⟩
  · rw [keepsFired_iff]
    decide +kernel
  · rw [reconcilesOnce_iff]
    decide +kernel
  · rw [keepsCleared_iff]
    decide +kernel

end PolymarketBot.Flow
