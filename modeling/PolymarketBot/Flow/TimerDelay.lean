import Mathlib.Data.List.Sort
import PolymarketBot.Flow.CycleWindowTimers

/-! The cache of the websocket fast path, the wait until the next market price timer of its runs,
and the pass over them that the flow loop makes where that wait is zero. -/

namespace PolymarketBot.Flow

/-- What a spec takes from its node, whichever outcome it watches. -/
structure NodeSettings where
  nodeType : String
  onceMode : Bool
  onceScopeMarket : Bool
  autoScope : Bool
  marketSlug : Option String
  confirmationMs : Option ℤ
  cycleWindowMode : Option String
  cycleWindowSecs : Option ℤ
  cycleWindowStartSec : Option ℤ
  cycleWindowEndSec : Option ℤ
  autoSellOnWindowEnd : Bool
  deriving DecidableEq

def WsOpenPositionPriceNodeSpec.settings (spec : WsOpenPositionPriceNodeSpec) : NodeSettings where
  nodeType := spec.nodeType
  onceMode := spec.onceMode
  onceScopeMarket := spec.onceScopeMarket
  autoScope := spec.autoScope
  marketSlug := spec.marketSlug
  confirmationMs := spec.confirmationMs
  cycleWindowMode := spec.cycleWindowMode
  cycleWindowSecs := spec.cycleWindowSecs
  cycleWindowStartSec := spec.cycleWindowStartSec
  cycleWindowEndSec := spec.cycleWindowEndSec
  autoSellOnWindowEnd := spec.autoSellOnWindowEnd

/-- The cache as it is built: the specs of a node share its settings, and a market slug is
trimmed. A target is named by the index of its run and of its spec in the run. -/
structure TradeFlowWsFastPathCache where
  runSpecs : List WsOpenPositionPriceRunSpec
  tokenTargets : String → List (ℕ × ℕ)
  marketTargets : String → List (ℕ × ℕ)
  settings_eq : ∀ run ∈ runSpecs, ∀ a ∈ run.nodes, ∀ b ∈ run.nodes,
    a.nodeKey = b.nodeKey → a.settings = b.settings
  slug_trimmed : ∀ run ∈ runSpecs, ∀ node ∈ run.nodes, node.marketSlug = trimmedSlug node.marketSlug

def TradeFlowWsFastPathCache.target? (cache : TradeFlowWsFastPathCache) (target : ℕ × ℕ) :
    Option WsOpenPositionPriceNodeSpec :=
  cache.runSpecs[target.1]?.bind fun run => run.nodes[target.2]?

/-! ### The wait for the next timer -/

def cycleWindowConfirmationDeadline (chrono : Chrono) (context : Value)
    (spec : WsOpenPositionPriceNodeSpec) : Option Instant := do
  let confirmationMs ← marketPriceConfirmationMs spec
  let pendingAtRaw ← flowNodeStateString context spec.nodeKey (crossPendingAtKey spec.tokenId)
  let pendingAt ← chrono.parseFromRfc3339 pendingAtRaw
  some (pendingAt + 1000000 * confirmationMs)

/-- The wait with that until an instant counted in, where the instant is still to come. -/
def soonerAt (now : Instant) (next : Option ℤ) (instant : Option Instant) : Option ℤ :=
  match instant with
  | none => next
  | some t =>
    if now < t then
      let delay := max 0 (numMilliseconds (t - now))
      some ((next.map fun current => min current delay).getD delay)
    else next

/-- The wait with the timers of one spec counted in; `none` where one of them is due. -/
def nextDelayWith (chrono : Chrono) (now : Instant) (next : Option ℤ)
    (cached : Value × WsOpenPositionPriceNodeSpec) : Option (Option ℤ) :=
  let (context, spec) := cached
  if spec.nodeType ≠ "trigger.market_price" then some next
  else if (cycleWindowBoundaryDueTarget context spec now).isSome then none
  else if (missedMarketNotificationDueTarget context spec now).isSome then none
  else
    let bounds := cycleWindowBounds spec
    let next := soonerAt now (soonerAt now next (bounds.map Prod.fst)) (bounds.map Prod.snd)
    let deadline := cycleWindowConfirmationDeadline chrono context spec
    if deadline.any (· ≤ now) then none
    else
      let next := soonerAt now next deadline
      if !spec.autoSellOnWindowEnd then some next
      else if (cycleWindowEndSellDueTarget context spec now).isSome then none
      else some (soonerAt now next (bounds.map Prod.snd))

def cachedSpecs (runSpecs : List WsOpenPositionPriceRunSpec) :
    List (Value × WsOpenPositionPriceNodeSpec) :=
  runSpecs.flatMap fun run => run.nodes.map fun node => (run.context, node)

/-- In milliseconds; `none` where no timer is to come. -/
def tradeFlowNextTriggerMarketPriceTimerDelay (chrono : Chrono)
    (runSpecs : List WsOpenPositionPriceRunSpec) (now : Instant) : Option ℤ :=
  match (cachedSpecs runSpecs).foldlM (nextDelayWith chrono now) none with
  | some next => next
  | none => some 0

/-! ### The pass over all runs -/

def dueConfirmationTokenIds (chrono : Chrono) (runSpecs : List WsOpenPositionPriceRunSpec)
    (now : Instant) : List String :=
  let due := (cachedSpecs runSpecs).filter fun (context, spec) =>
    (cycleWindowConfirmationDeadline chrono context spec).any (· ≤ now)
  (due.map (·.2.tokenId)).dedup.insertionSort (· ≤ ·)

/-- The targets of the tokens, then the other targets of their markets, each once. -/
def selectWsFastPathTargets (cache : TradeFlowWsFastPathCache) (dirtyTokenIds : List String) :
    List (ℕ × ℕ) :=
  let matched := dirtyTokenIds.flatMap fun tokenId =>
    (cache.tokenTargets tokenId).filter fun target => (cache.target? target).isSome
  let dirtyMarkets := matched.filterMap fun target => (cache.target? target).bind (·.marketSlug)
  (matched ++ dirtyMarkets.flatMap cache.marketTargets).eraseDups

/-- What a pass reads besides the cache, by the index of the run; and what the fast path then
resolves for a target, by the index of its spec. -/
structure TimerPassReads where
  timers : ℕ → TimerReads
  tick : ℕ → ℕ → Option WsQuote

/-- The targets of one run that the fast path comes to for the due confirmations. -/
def dueConfirmationTargets (chrono : Chrono) (cache : TradeFlowWsFastPathCache)
    (reads : TimerPassReads) (now : Instant) (r : ℕ) : WsTargets :=
  let selected := selectWsFastPathTargets cache (dueConfirmationTokenIds chrono cache.runSpecs now)
  (selected.filter fun target => target.1 = r).map fun target => (target.2, reads.tick r target.2)

/-- The part of a pass that falls to one run. A target edits the context of its own run only, so
that the runs do not depend on each other. -/
def timerPass (chrono : Chrono) (cache : TradeFlowWsFastPathCache) (reads : TimerPassReads)
    (now : Instant) (r : ℕ) (run : WsOpenPositionPriceRunSpec) : Draft Unit := do
  let _ ← processTradeFlowTriggerMarketPriceTimers chrono run { reads.timers r with now }
  let _ ← processWsTargets chrono run (dueConfirmationTargets chrono cache reads now r)

/-- The run spec that a pass whose database calls all succeed puts back into the cache. -/
def runSpecAfterTimers (chrono : Chrono) (cache : TradeFlowWsFastPathCache)
    (reads : TimerPassReads) (now : Instant) (r : ℕ) (run : WsOpenPositionPriceRunSpec) :
    WsOpenPositionPriceRunSpec :=
  { run with
    context := (timerPass chrono cache reads now r run).run run.context
    contextDirty := false }

def runSpecsAfterTimers (chrono : Chrono) (cache : TradeFlowWsFastPathCache)
    (reads : TimerPassReads) (now : Instant) : List WsOpenPositionPriceRunSpec :=
  cache.runSpecs.mapIdx (runSpecAfterTimers chrono cache reads now)

/-! ### When the wait is zero -/

def timerDue (chrono : Chrono) (now : Instant) (context : Value)
    (spec : WsOpenPositionPriceNodeSpec) : Bool :=
  (cycleWindowBoundaryDueTarget context spec now).isSome ||
    (missedMarketNotificationDueTarget context spec now).isSome ||
    (cycleWindowConfirmationDeadline chrono context spec).any (· ≤ now) ||
    (cycleWindowEndSellDueTarget context spec now).isSome

/-- The instant is to come, in less than a millisecond: the wait for it is cut down to none. -/
def imminent (now : Instant) (instant : Option Instant) : Bool :=
  instant.any fun t => now < t && t - now < 1000000

def windowImminent (now : Instant) (spec : WsOpenPositionPriceNodeSpec) : Bool :=
  imminent now ((cycleWindowBounds spec).map Prod.fst) ||
    imminent now ((cycleWindowBounds spec).map Prod.snd)

def timerImminent (chrono : Chrono) (now : Instant) (context : Value)
    (spec : WsOpenPositionPriceNodeSpec) : Bool :=
  windowImminent now spec || imminent now (cycleWindowConfirmationDeadline chrono context spec)

section Delay
variable {chrono : Chrono} {now : Instant} {context : Value} {spec : WsOpenPositionPriceNodeSpec}

theorem numMilliseconds_nonneg {duration : ℤ} (h : 0 < duration) : 0 ≤ numMilliseconds duration :=
  Int.tdiv_nonneg h.le (by decide)

theorem numMilliseconds_eq_zero {duration : ℤ} (h : 0 < duration) :
    numMilliseconds duration = 0 ↔ duration < 1000000 := by
  unfold numMilliseconds
  rw [Int.tdiv_eq_ediv_of_nonneg h.le]
  omega

theorem le_numMilliseconds_iff {duration ms : ℤ} (hpos : 0 < ms) :
    ms ≤ numMilliseconds duration ↔ 1000000 * ms ≤ duration := by
  unfold numMilliseconds
  rcases le_or_gt 0 duration with hnonneg | hneg
  · rw [Int.tdiv_eq_ediv_of_nonneg hnonneg]
    omega
  · rw [← neg_neg duration, Int.neg_tdiv, Int.tdiv_eq_ediv_of_nonneg (by omega)]
    omega

/-- A wait that is never below zero, and zero in just one case. -/
def ZeroOnly (case : Prop) (next : Option ℤ) : Prop :=
  (∀ delay ∈ next, 0 ≤ delay) ∧ (next = some 0 ↔ case)

theorem ZeroOnly.congr {p q : Prop} {next : Option ℤ} (h : ZeroOnly p next) (hpq : p ↔ q) :
    ZeroOnly q next :=
  ⟨h.1, h.2.trans hpq⟩

theorem ZeroOnly.soonerAt {p : Prop} {next : Option ℤ} (h : ZeroOnly p next) (now : Instant)
    (instant : Option Instant) :
    ZeroOnly (p ∨ imminent now instant = true) (soonerAt now next instant) := by
  obtain ⟨hnonneg, hzero⟩ := h
  unfold Flow.soonerAt
  cases instant with
  | none => exact ⟨hnonneg, hzero.trans (or_iff_left (by simp [imminent])).symm⟩
  | some t =>
    dsimp only
    by_cases hlater : now < t
    · have hpos : 0 < t - now := sub_pos.mpr hlater
      have hwait : max 0 (numMilliseconds (t - now)) = numMilliseconds (t - now) :=
        max_eq_right (numMilliseconds_nonneg hpos)
      have hsoon : imminent now (some t) = true ↔ numMilliseconds (t - now) = 0 := by
        rw [numMilliseconds_eq_zero hpos]
        simp [imminent, hlater]
      have hdelay := numMilliseconds_nonneg hpos
      rw [if_pos hlater, hwait, hsoon]
      cases next with
      | none => exact ⟨by simpa using hdelay, by simp [← hzero]⟩
      | some current =>
        have hcurrent := hnonneg current rfl
        rw [← hzero]
        refine ⟨by simpa using And.intro hcurrent hdelay, ?_⟩
        simp only [Option.map_some, Option.getD_some, Option.some.injEq]
        omega
    · rw [if_neg hlater]
      exact ⟨hnonneg, hzero.trans (or_iff_left (by simp [imminent, hlater])).symm⟩

theorem timers_otherType (h : spec.nodeType ≠ "trigger.market_price") :
    timerDue chrono now context spec = false ∧ timerImminent chrono now context spec = false := by
  have hbounds := cycleWindowBounds_otherType h
  have hms : marketPriceConfirmationMs spec = none := if_pos h
  unfold timerDue timerImminent windowImminent cycleWindowBoundaryDueTarget
    missedMarketNotificationDueTarget cycleWindowConfirmationDeadline cycleWindowEndSellDueTarget
  rw [hbounds, hms]
  cases spec.autoSellOnWindowEnd <;> exact ⟨rfl, rfl⟩

theorem sell_due_autoSell (h : (cycleWindowEndSellDueTarget context spec now).isSome = true) :
    spec.autoSellOnWindowEnd = true := by
  cases hauto : spec.autoSellOnWindowEnd with
  | true => rfl
  | false => simp [cycleWindowEndSellDueTarget, hauto] at h

theorem nextDelayWith_due (h : timerDue chrono now context spec = true) (next : Option ℤ) :
    nextDelayWith chrono now next (context, spec) = none := by
  have htype : spec.nodeType = "trigger.market_price" :=
    by_contra fun hother => by simp [(timers_otherType hother).1] at h
  unfold nextDelayWith
  dsimp only
  rw [if_neg (not_not.mpr htype)]
  by_cases hboundary : (cycleWindowBoundaryDueTarget context spec now).isSome = true
  · rw [if_pos hboundary]
  by_cases hnotification : (missedMarketNotificationDueTarget context spec now).isSome = true
  · rw [if_neg hboundary, if_pos hnotification]
  rw [if_neg hboundary, if_neg hnotification]
  by_cases hdeadline : (cycleWindowConfirmationDeadline chrono context spec).any (· ≤ now) = true
  · rw [if_pos hdeadline]
  have hsell : (cycleWindowEndSellDueTarget context spec now).isSome = true := by
    simpa [timerDue, hboundary, hnotification, hdeadline] using h
  have hauto := sell_due_autoSell hsell
  rw [if_neg hdeadline, if_neg (by simp [hauto]), if_pos hsell]

theorem nextDelayWith_waiting (h : timerDue chrono now context spec = false) {p : Prop}
    {next : Option ℤ} (hnext : ZeroOnly p next) :
    ∃ sooner, nextDelayWith chrono now next (context, spec) = some sooner ∧
      ZeroOnly (p ∨ timerImminent chrono now context spec = true) sooner := by
  by_cases htype : spec.nodeType ≠ "trigger.market_price"
  · have hcalm := (@timers_otherType chrono now context spec htype).2
    exact ⟨next, if_pos htype, hnext.congr (or_iff_left (by simp [hcalm])).symm⟩
  unfold timerDue at h
  simp only [Bool.or_eq_false_iff] at h
  obtain ⟨⟨⟨hboundary, hnotification⟩, hdeadline⟩, hsell⟩ := h
  unfold nextDelayWith
  dsimp only
  rw [if_neg htype, if_neg (by simp [hboundary]), if_neg (by simp [hnotification]),
    if_neg (by simp [hdeadline])]
  have hsooner := ((hnext.soonerAt now ((cycleWindowBounds spec).map Prod.fst)).soonerAt now
    ((cycleWindowBounds spec).map Prod.snd)).soonerAt now
      (cycleWindowConfirmationDeadline chrono context spec)
  by_cases hauto : (!spec.autoSellOnWindowEnd) = true
  · refine ⟨_, if_pos hauto, hsooner.congr ?_⟩
    unfold timerImminent windowImminent
    simp only [Bool.or_eq_true, or_assoc]
  · rw [if_neg hauto, if_neg (by simp [hsell])]
    refine ⟨_, rfl, (hsooner.soonerAt now ((cycleWindowBounds spec).map Prod.snd)).congr ?_⟩
    unfold timerImminent windowImminent
    simp only [Bool.or_eq_true]
    tauto

theorem nextDelays (cached : List (Value × WsOpenPositionPriceNodeSpec)) {p : Prop}
    {next : Option ℤ} (hnext : ZeroOnly p next) :
    (∃ x ∈ cached, timerDue chrono now x.1 x.2 = true) ∧
        cached.foldlM (nextDelayWith chrono now) next = none ∨
      (∀ x ∈ cached, timerDue chrono now x.1 x.2 = false) ∧
        ∃ sooner, cached.foldlM (nextDelayWith chrono now) next = some sooner ∧
          ZeroOnly (p ∨ ∃ x ∈ cached, timerImminent chrono now x.1 x.2 = true) sooner := by
  induction cached generalizing next p with
  | nil => exact .inr ⟨List.forall_mem_nil _, next, rfl, hnext.congr (or_iff_left (by simp)).symm⟩
  | cons x rest ih =>
    obtain ⟨context, spec⟩ := x
    rw [List.foldlM_cons]
    cases hdue : timerDue chrono now context spec with
    | true =>
      rw [nextDelayWith_due hdue]
      exact .inl ⟨⟨(context, spec), List.mem_cons_self .., hdue⟩, rfl⟩
    | false =>
      obtain ⟨sooner, hsooner, hzero⟩ := nextDelayWith_waiting hdue hnext
      rw [hsooner]
      rcases ih hzero with ⟨⟨x, hx, hxdue⟩, hnone⟩ | ⟨hidle, last, hlast, hlastZero⟩
      · exact .inl ⟨⟨x, List.mem_cons_of_mem _ hx, hxdue⟩, hnone⟩
      · refine .inr ⟨List.forall_mem_cons.mpr ⟨hdue, hidle⟩, last, hlast, hlastZero.congr ?_⟩
        rw [List.exists_mem_cons_iff, or_assoc]

end Delay

theorem delay_ne_zero_iff (chrono : Chrono) (runSpecs : List WsOpenPositionPriceRunSpec)
    (now : Instant) :
    tradeFlowNextTriggerMarketPriceTimerDelay chrono runSpecs now ≠ some 0 ↔
      ∀ run ∈ runSpecs, ∀ node ∈ run.nodes, timerDue chrono now run.context node = false ∧
        timerImminent chrono now run.context node = false := by
  have hspecs : (∀ x ∈ cachedSpecs runSpecs, timerDue chrono now x.1 x.2 = false ∧
      timerImminent chrono now x.1 x.2 = false) ↔
        ∀ run ∈ runSpecs, ∀ node ∈ run.nodes, timerDue chrono now run.context node = false ∧
          timerImminent chrono now run.context node = false := by
    simp only [cachedSpecs, List.mem_flatMap, List.mem_map]
    constructor
    · exact fun h run hrun node hnode =>
        h (run.context, node) ⟨run, hrun, node, hnode, rfl⟩
    · rintro h _ ⟨run, hrun, node, hnode, rfl⟩
      exact h run hrun node hnode
  rw [← hspecs]
  unfold tradeFlowNextTriggerMarketPriceTimerDelay
  have hnone : ZeroOnly False none := ⟨by simp, by simp⟩
  rcases @nextDelays chrono now (cachedSpecs runSpecs) False none hnone with
    ⟨⟨x, hx, hdue⟩, hfold⟩ | ⟨hidle, sooner, hsooner, -, hzero⟩
  · rw [hfold]
    refine iff_of_false (fun hzero => hzero rfl) fun hidle => ?_
    rw [(hidle x hx).1] at hdue
    cases hdue
  · rw [hsooner]
    dsimp only
    rw [ne_eq, hzero, false_or]
    constructor
    · intro hcalm x hx
      exact ⟨hidle x hx, by simpa using fun himminent => hcalm ⟨x, hx, himminent⟩⟩
    · rintro hcalm ⟨x, hx, himminent⟩
      rw [(hcalm x hx).2] at himminent
      cases himminent

end PolymarketBot.Flow
