import PolymarketBot.Flow.OnceNode
import PolymarketBot.Lib.Runs

/-! The executor of a market price trigger: how a step comes to a pass, and how the first pass
of a once scope is told from the later ones. -/

namespace PolymarketBot.Flow
open Lib.Runs

def flowContextString (context : Value) (key : String) : Option String :=
  let text := match (context.get "flowContext").bind fun v => v.get key with
    | some (.string s) => some (trim s)
    | some (.number n) => some n.text
    | _ => none
  text.filter (· ≠ "")

def wsSourced (input : Option Value) : Bool :=
  ((input.bind fun v => v.get "triggerSource").bind Value.asStr) = some "ws_market_price"

def wsMarketSlugFromStep (input : Option Value) : Option String :=
  trimmedSlug ((input.bind fun v => (v.get "wsMarketSlug").or (v.get "marketSlug")).bind Value.asStr)

/-- What the conditions of the node come to: the node is misconfigured, a price is missing, or
they are met or not, unless the step's own data rules it out. -/
inductive ConditionResult
  | failed (error : String)
  | priceError (error : String) (edits : List ContextEdit)
  | evaluated (met hardIgnored : Bool) (edits : List ContextEdit)

/-- What the executor reads outside the run: the clock, the market of an auto-scope node, the
entry timing profiles, the prices and gates, and the protection by the underlying. -/
structure TriggerReads where
  now : Instant
  autoScope : Value → Except String (Option (String × List ContextEdit))
  entryTimingBlocked : String → Bool
  conditions : Value → String → ConditionResult
  protectionPasses : Bool

structure TriggerExecution where
  pass : Bool
  routes : List String
  reason : Option String
  repeats : Bool
  deriving DecidableEq, Repr

def TriggerExecution.notPassed (reason : Option String) (repeats : Bool) : TriggerExecution :=
  ⟨false, [], reason, repeats⟩

def TriggerExecution.passed (repeats : Bool) : TriggerExecution :=
  ⟨true, ["default"], none, repeats⟩

/-- How far the executor comes before it asks whether this is the first pass. -/
inductive TriggerProgress
  | failed (error : String)
  | ended (context : Value) (execution : TriggerExecution)
  | passing (context : Value) (marketSlug : String)

section Executor
variable (node : ConfiguredNode) (input : Option Value) (reads : TriggerReads)

def nodeAutoScopeMode : Bool := nodeMarketMode node = "auto_scope"

def nodeOnceMode : Bool := nodeRepeatMode node = "once"

def fixedMarketSlug (context : Value) : String :=
  ((nodeConfigString node.config "marketSlug").or (flowContextString context "marketSlug")).getD ""

/-- An auto-scope node takes the market of a websocket step as it is, and has it resolved for
any other step. -/
def resolveTriggerMarketSlug (context : Value) : Except TriggerProgress (Value × String) :=
  if nodeAutoScopeMode node then
    match wsSourced input, wsMarketSlugFromStep input with
    | true, some wsSlug =>
      if isAutoScopeMarketExpired reads.now wsSlug 30 then
        .error (.ended context (.notPassed (some "market_expired") false))
      else .ok (context, wsSlug)
    | _, _ =>
      match reads.autoScope context with
      | .error error => .error (.failed error)
      | .ok none =>
        .error (.ended context (.notPassed (some "market_not_found") (!nodeOnceMode node)))
      | .ok (some (slug, edits)) => .ok (applyEdits edits context, slug)
  else .ok (context, fixedMarketSlug node context)

def setFlowContextMarketSlug (marketSlug : String) (context : Value) : Value :=
  if nodeAutoScopeMode node then context
  else setFlowSection .flowContext context "marketSlug" (.string marketSlug)

def syncOnceScope (marketSlug : String) (context : Value) : Value :=
  (syncTradeFlowMarketPriceOnceScopeState node.key (isTradeFlowMarketPriceOnceScopeMarket node)
    (some marketSlug)).run context

def shouldAcceptWsMarketSlugOverride (currentMarketSlug : String) : Bool :=
  !nodeAutoScopeMode node || trim currentMarketSlug = ""

/-- The market of the step and the context with its once state brought in line with it. -/
def prepareTriggerMarket (context : Value) : Except TriggerProgress (Value × String) := do
  let (context, marketSlug) ← resolveTriggerMarketSlug node input reads context
  if trim marketSlug = "" then .error (.failed "trigger.market_price requires marketSlug")
  else
    let context := syncOnceScope node marketSlug (setFlowContextMarketSlug node marketSlug context)
    match wsMarketSlugFromStep input with
    | some wsSlug =>
      if shouldAcceptWsMarketSlugOverride node marketSlug then
        return (syncOnceScope node wsSlug (setFlowContextMarketSlug node wsSlug context), wsSlug)
      else return (context, marketSlug)
    | none => return (context, marketSlug)

def onceFiredForScope (context : Value) (marketSlug : String) : Bool :=
  tradeFlowMarketPriceOnceFiredForScope context node.key
    (isTradeFlowMarketPriceOnceScopeMarket node) (some marketSlug)

def setOnceBlockLogged : Draft Unit := Draft.set node.key onceBlockLoggedKey (.bool true)

def evaluateTrigger (context : Value) (marketSlug : String) : TriggerProgress :=
  let repeats := !wsSourced input && !nodeOnceMode node
  if nodeOnceMode node && onceFiredForScope node context marketSlug then
    let logged := flowNodeStateTruthy context node.key onceBlockLoggedKey
    .ended (if logged then context else (setOnceBlockLogged node).run context)
      (.notPassed (some "once_blocked") false)
  else if reads.entryTimingBlocked marketSlug then
    .ended context (.notPassed (some "entry_timing_profile_blocked") repeats)
  else
    match reads.conditions context marketSlug with
    | .failed error => .failed error
    | .priceError error edits =>
      .ended (applyEdits edits context) (.notPassed (some error) (!nodeOnceMode node))
    | .evaluated met hardIgnored edits =>
      let otherMarket := wsSourced input && wsMarketSlugFromStep input ≠ some marketSlug
      if met && !hardIgnored && !otherMarket && reads.protectionPasses then
        .passing (applyEdits edits context) marketSlug
      else .ended (applyEdits edits context) (.notPassed none repeats)

/-- `execute_trigger_market_price` up to the point where the condition and the protection have
passed. -/
def executeTriggerMarketPrice (context : Value) : TriggerProgress :=
  match prepareTriggerMarket node input reads context with
  | .error progress => progress
  | .ok (context, marketSlug) => evaluateTrigger node input reads context marketSlug

end Executor

/-- `try_record_idempotency_key`: true for the first who records a key. -/
def tryRecordIdempotencyKey (keys : List String) (key : String) : Bool × List String :=
  if key ∈ keys then (false, keys) else (true, key :: keys)

section Fire
variable (node : ConfiguredNode)

def firesOnceAtPass : Bool := nodeOnceMode node && !tradeFlowDeferOnceUntilOrderAccepted node

def onceFireKey (runId : ℤ) (context : Value) (marketSlug : String) : String :=
  tradeFlowMarketPriceOnceIdempotencyKey runId node.key
    (isTradeFlowMarketPriceOnceScopeMarket node) (some marketSlug)
    (flowNodeReentryGeneration context node.key)

def markOnceFired (marketSlug firedAt : String) : Draft Unit :=
  markTradeFlowMarketPriceOnceFired node.key firedAt
    (if isTradeFlowMarketPriceOnceScopeMarket node then some marketSlug else none)

/-- The rest of the executor once the key table has answered. -/
def finishTriggerMarketPrice (context : Value) (marketSlug firedAt : String) (recorded repeats : Bool) :
    Value × TriggerExecution :=
  if !firesOnceAtPass node then (context, .passed repeats)
  else if recorded then ((markOnceFired node marketSlug firedAt).run context, .passed repeats)
  else
    let marked := if onceFiredForScope node context marketSlug then context
      else (markOnceFired node marketSlug firedAt).run context
    ((setOnceBlockLogged node).run marked, .notPassed none repeats)

end Fire

/-! ### Runs of one trigger -/

inductive OnceStepStatus
  | queued
  | passing (context : Value) (marketSlug : String)
  | ended

def OnceStepStatus.isOpen : OnceStepStatus → Bool
  | .ended => false
  | _ => true

structure OnceStepRow where
  idempotencyKey : Option String
  input : Option Value
  status : OnceStepStatus

/-- A node spec of the websocket cache that was built from the node. -/
structure TriggerSpec (node : ConfiguredNode) extends WsOpenPositionPriceNodeSpec where
  nodeKey_eq : nodeKey = node.key
  nodeType_eq : nodeType = node.nodeType
  onceMode_eq : onceMode = isTradeFlowMarketPriceOnceNode node
  onceScopeMarket_eq : onceScopeMarket = isTradeFlowMarketPriceOnceScopeMarket node

/-- The run's context as the row and as the websocket cache hold it, the steps of the trigger
and the table of idempotency keys. `executions` records how the steps ended, with their once
scope if they came to the once check, and takes no part in any event. -/
structure OnceRun where
  stored : Value
  cached : Value
  steps : List OnceStepRow := []
  idempotencyKeys : List String := []
  executions : List (Option OnceScope × TriggerExecution) := []

/-- What the key table answers a step that passes: its answer, or a failed statement that may
have taken effect. -/
inductive RecordReply
  | answered
  | lost (recorded : Bool)

/-- What happens in a run, in any order. Steps come from ticks and from anywhere else, and
the rest of the engine may leave any context behind. -/
inductive OnceEvent (node : ConfiguredNode)
  | tick (spec : TriggerSpec node) (quote : WsQuote)
  | enqueue (idempotencyKey : Option String) (input : Option Value)
  | start (step : ℕ) (reads : TriggerReads)
  | finish (step : ℕ) (reply : RecordReply) (firedAt : String)
  | writeContext (context : Value)
  | writeCache (context : Value)
  | recordKey (key : String)

def enqueueOnceStep (steps : List OnceStepRow) (idempotencyKey : Option String)
    (input : Option Value) : List OnceStepRow :=
  if idempotencyKey.isSome && steps.any fun row => row.idempotencyKey = idempotencyKey then steps
  else steps ++ [⟨idempotencyKey, input, .queued⟩]

def wsStepInput (spec : WsOpenPositionPriceNodeSpec) (quote : WsQuote) (evaluationMode : String) :
    Value :=
  .object [("triggerSource", .string "ws_market_price"), ("tokenId", .string spec.tokenId),
    ("wsPrice", jsonF64 quote.price), ("wsMarketSlug", jsonOptStr spec.marketSlug),
    ("wsEvaluationMode", .string evaluationMode)]

section Run
variable (chrono : Chrono) (runId : ℤ) {node : ConfiguredNode}

def OnceRun.setStatus (s : OnceRun) (step : ℕ) (status : OnceStepStatus) : OnceRun :=
  { s with steps := s.steps.modify step fun row => { row with status } }

def OnceRun.complete (s : OnceRun) (step : ℕ) (scope : Option OnceScope) (context : Value)
    (execution : TriggerExecution) : OnceRun :=
  { s.setStatus step .ended with
    stored := context, executions := s.executions ++ [(scope, execution)] }

def OnceRun.begin (s : OnceRun) (step : ℕ) : TriggerProgress → OnceRun
  | .failed _ => s.setStatus step .ended
  | .ended context execution => s.complete step none context execution
  | .passing context marketSlug => s.setStatus step (.passing context marketSlug)

variable (node) in
def OnceRun.pass (s : OnceRun) (step : ℕ) (input : Option Value) (context : Value)
    (marketSlug firedAt : String) (reply : RecordReply) : OnceRun :=
  let recorded := tryRecordIdempotencyKey s.idempotencyKeys (onceFireKey node runId context marketSlug)
  let repeats := !wsSourced input && !nodeOnceMode node
  let keep (granted : Bool) (keys : List String) : OnceRun :=
    let (after, execution) :=
      finishTriggerMarketPrice node context marketSlug firedAt granted repeats
    { s.complete step (some (onceScope node context marketSlug)) after execution with
      idempotencyKeys := keys }
  if !firesOnceAtPass node then keep false s.idempotencyKeys
  else
    match reply with
    | .answered => keep recorded.1 recorded.2
    | .lost applied =>
      { s.setStatus step .ended with
        idempotencyKeys := if applied then recorded.2 else s.idempotencyKeys }

def onceStep (s : OnceRun) : OnceEvent node → OnceRun
  | .tick spec quote =>
    let (outcome, edits) :=
      processWsTarget chrono runId spec.toWsOpenPositionPriceNodeSpec quote s.cached
    { s with
      cached := applyEdits edits s.cached
      steps := match outcome.step with
        | some request => enqueueOnceStep s.steps (some request.idempotencyKey)
            (some (wsStepInput spec.toWsOpenPositionPriceNodeSpec quote request.evaluationMode))
        | none => s.steps }
  | .enqueue idempotencyKey input =>
    { s with steps := enqueueOnceStep s.steps idempotencyKey input }
  | .start step reads =>
    match s.steps[step]? with
    | some ⟨_, input, .queued⟩ =>
      s.begin step (executeTriggerMarketPrice node input reads s.stored)
    | _ => s
  | .finish step reply firedAt =>
    match s.steps[step]? with
    | some ⟨_, input, .passing context marketSlug⟩ =>
      s.pass runId node step input context marketSlug firedAt reply
    | _ => s
  | .writeContext context => { s with stored := context }
  | .writeCache context => { s with cached := context }
  | .recordKey key => { s with idempotencyKeys := (tryRecordIdempotencyKey s.idempotencyKeys key).2 }

end Run

/-! ### One pass for each scope -/

def passesOf (executions : List (Option OnceScope × TriggerExecution)) (scope : OnceScope) : ℕ :=
  executions.countP fun e => e.1 = some scope && e.2.pass && !e.2.routes.isEmpty

/-- A step that ended before the once check did not pass, and each scope has at most one
execution that passed with routes. -/
def FiresOnce (s : OnceRun) : Prop :=
  (∀ e ∈ s.executions, e.1 = none → e.2.pass = false) ∧ ∀ scope, passesOf s.executions scope ≤ 1

def TriggerProgress.NotPassed : TriggerProgress → Prop
  | .ended _ execution => execution.pass = false
  | _ => True

section NotPassed
variable {node : ConfiguredNode} {input : Option Value} {reads : TriggerReads} {context : Value}

theorem resolve_notPassed {progress : TriggerProgress}
    (h : resolveTriggerMarketSlug node input reads context = .error progress) :
    progress.NotPassed := by
  unfold resolveTriggerMarketSlug at h
  split at h
  · split at h
    · split at h
      · cases h
        rfl
      · cases h
    · split at h
      · cases h
        trivial
      · cases h
        rfl
      · cases h
  · cases h

theorem prepare_notPassed {progress : TriggerProgress}
    (h : prepareTriggerMarket node input reads context = .error progress) :
    progress.NotPassed := by
  unfold prepareTriggerMarket at h
  cases hresolve : resolveTriggerMarketSlug node input reads context with
  | error first =>
    rw [hresolve] at h
    cases h
    exact resolve_notPassed hresolve
  | ok resolved =>
    rw [hresolve] at h
    simp only [bind, Except.bind] at h
    split at h
    · cases h
      trivial
    · split at h
      · split at h <;> cases h
      · cases h

theorem evaluate_notPassed (marketSlug : String) :
    (evaluateTrigger node input reads context marketSlug).NotPassed := by
  unfold evaluateTrigger
  dsimp only
  split
  · rfl
  split
  · rfl
  split
  · trivial
  · rfl
  · split
    · trivial
    · rfl

theorem execute_notPassed : (executeTriggerMarketPrice node input reads context).NotPassed := by
  unfold executeTriggerMarketPrice
  cases hprepare : prepareTriggerMarket node input reads context with
  | error progress => exact prepare_notPassed hprepare
  | ok prepared => exact evaluate_notPassed prepared.2

end NotPassed

def scopeKey (runId : ℤ) (node : ConfiguredNode) (scope : OnceScope) : String :=
  tradeFlowMarketPriceOnceIdempotencyKey runId node.key
    (isTradeFlowMarketPriceOnceScopeMarket node) scope.market scope.generation

theorem trimmedSlug_trim (slug : String) : trimmedSlug (some (trim slug)) = trimmedSlug (some slug) := by
  simp [trimmedSlug, trim_trim]

theorem onceFireKey_eq (runId : ℤ) (node : ConfiguredNode) (context : Value) (marketSlug : String) :
    onceFireKey node runId context marketSlug =
      scopeKey runId node (onceScope node context marketSlug) := by
  unfold onceFireKey scopeKey onceScope tradeFlowMarketPriceOnceIdempotencyKey onceScopeKey
  cases isTradeFlowMarketPriceOnceScopeMarket node with
  | false => simp only [Bool.false_eq_true, if_false]
  | true => simp only [if_true, trimmedSlug_trim]

/-- Every scope that has passed has its key in the table, and none has passed twice. -/
structure KeysCoverPasses (runId : ℤ) (node : ConfiguredNode) (s : OnceRun) : Prop where
  fires : FiresOnce s
  covers : ∀ scope, 0 < passesOf s.executions scope → scopeKey runId node scope ∈ s.idempotencyKeys

theorem passesOf_append (executions : List (Option OnceScope × TriggerExecution))
    (e : Option OnceScope × TriggerExecution) (scope : OnceScope) :
    passesOf (executions ++ [e]) scope = passesOf executions scope +
      if e.1 = some scope ∧ e.2.pass = true ∧ e.2.routes ≠ [] then 1 else 0 := by
  unfold passesOf
  rw [List.countP_append, List.countP_singleton]
  congr 1
  cases e.2.routes <;> simp

section Invariant
variable {runId : ℤ} {node : ConfiguredNode} {s : OnceRun}

theorem KeysCoverPasses.addKey (h : KeysCoverPasses runId node s) (key : String) :
    KeysCoverPasses runId node
      { s with idempotencyKeys := (tryRecordIdempotencyKey s.idempotencyKeys key).2 } := by
  refine ⟨h.fires, fun scope hpassed => ?_⟩
  have hkey := h.covers scope hpassed
  unfold tryRecordIdempotencyKey
  split
  · exact hkey
  · exact List.mem_cons_of_mem _ hkey

theorem KeysCoverPasses.addNotPassed (h : KeysCoverPasses runId node s)
    (e : Option OnceScope × TriggerExecution) (hpass : e.2.pass = false)
    (stored : Value) (steps : List OnceStepRow) :
    KeysCoverPasses runId node
      { s with stored, steps, executions := s.executions ++ [e] } := by
  have hcount : ∀ scope, passesOf (s.executions ++ [e]) scope = passesOf s.executions scope := by
    intro scope
    rw [passesOf_append, if_neg (by simp [hpass]), add_zero]
  refine ⟨⟨?_, fun scope => ?_⟩, fun scope hpassed => ?_⟩
  · intro e' he' hearly
    rcases List.mem_append.mp he' with he' | he'
    · exact h.fires.1 e' he' hearly
    · rw [List.mem_singleton.mp he']
      exact hpass
  · rw [hcount]
    exact h.fires.2 scope
  · rw [hcount] at hpassed
    exact h.covers scope hpassed

theorem KeysCoverPasses.addPassed (h : KeysCoverPasses runId node s) (scope : OnceScope)
    (hnew : scopeKey runId node scope ∉ s.idempotencyKeys) (execution : TriggerExecution)
    (stored : Value) (steps : List OnceStepRow) :
    KeysCoverPasses runId node
      { s with
        stored, steps, idempotencyKeys := scopeKey runId node scope :: s.idempotencyKeys
        executions := s.executions ++ [(some scope, execution)] } := by
  have hfirst : passesOf s.executions scope = 0 := by
    by_contra hpassed
    exact hnew (h.covers scope (Nat.pos_of_ne_zero hpassed))
  refine ⟨⟨?_, fun other => ?_⟩, fun other hpassed => ?_⟩
  · intro e he hearly
    rcases List.mem_append.mp he with he | he
    · exact h.fires.1 e he hearly
    · rw [List.mem_singleton.mp he] at hearly
      cases hearly
  · rw [passesOf_append]
    by_cases hother : scope = other
    · rw [← hother, hfirst]
      split <;> omega
    · rw [if_neg fun hsame => hother (Option.some.inj hsame.1), add_zero]
      exact h.fires.2 other
  · by_cases hother : scope = other
    · rw [← hother]
      exact List.mem_cons_self ..
    · rw [passesOf_append, if_neg fun hsame => hother (Option.some.inj hsame.1)] at hpassed
      exact List.mem_cons_of_mem _ (h.covers other hpassed)

theorem begin_covers (h : KeysCoverPasses runId node s) (step : ℕ) {progress : TriggerProgress}
    (hprogress : progress.NotPassed) : KeysCoverPasses runId node (s.begin step progress) := by
  cases progress with
  | failed error => exact ⟨h.fires, h.covers⟩
  | ended context execution => exact h.addNotPassed (none, execution) hprogress context _
  | passing context marketSlug => exact ⟨h.fires, h.covers⟩

theorem pass_covers (honce : firesOnceAtPass node = true) (h : KeysCoverPasses runId node s)
    (step : ℕ) (input : Option Value) (context : Value) (marketSlug firedAt : String)
    (reply : RecordReply) :
    KeysCoverPasses runId node
      (s.pass runId node step input context marketSlug firedAt reply) := by
  have hended : ∀ keys, KeysCoverPasses runId node { s with idempotencyKeys := keys } →
      KeysCoverPasses runId node { s.setStatus step .ended with idempotencyKeys := keys } :=
    fun keys hkeys => ⟨hkeys.fires, hkeys.covers⟩
  unfold OnceRun.pass
  simp only [honce, Bool.not_true, Bool.false_eq_true, if_false]
  cases reply with
  | lost applied =>
    cases applied with
    | false => exact hended _ h
    | true => exact hended _ (h.addKey _)
  | answered =>
    unfold tryRecordIdempotencyKey
    by_cases hkey : onceFireKey node runId context marketSlug ∈ s.idempotencyKeys
    · simp only [if_pos hkey, finishTriggerMarketPrice, honce, Bool.not_true, Bool.false_eq_true,
        if_false]
      exact h.addNotPassed (some _, _) rfl _ _
    · simp only [if_neg hkey, finishTriggerMarketPrice, honce, Bool.not_true, Bool.false_eq_true,
        if_false, if_true]
      rw [onceFireKey_eq] at hkey ⊢
      exact h.addPassed _ hkey _ _ _

theorem onceStep_covers (chrono : Chrono) (honce : firesOnceAtPass node = true)
    (h : KeysCoverPasses runId node s) (event : OnceEvent node) :
    KeysCoverPasses runId node (onceStep chrono runId s event) := by
  cases event with
  | tick spec quote => exact ⟨h.fires, h.covers⟩
  | enqueue idempotencyKey input => exact ⟨h.fires, h.covers⟩
  | start step reads =>
    simp only [onceStep]
    split
    · exact begin_covers h step execute_notPassed
    · exact h
  | finish step reply firedAt =>
    simp only [onceStep]
    split
    · exact pass_covers honce h step _ _ _ _ _
    · exact h
  | writeContext context => exact ⟨h.fires, h.covers⟩
  | writeCache context => exact ⟨h.fires, h.covers⟩
  | recordKey key => exact h.addKey key

end Invariant

/-- Whatever the contexts say, each once scope of a trigger that does not wait for an order has
at most one execution that passes. -/
theorem once_trigger_fires_once (chrono : Chrono) (runId : ℤ) (node : ConfiguredNode)
    (honce : isTradeFlowMarketPriceOnceNode node = true)
    (hnow : tradeFlowDeferOnceUntilOrderAccepted node = false) (stored cached : Value)
    (steps : List OnceStepRow) (idempotencyKeys : List String) (events : List (OnceEvent node)) :
    Throughout (onceStep chrono runId) FiresOnce ⟨stored, cached, steps, idempotencyKeys, []⟩
      events := by
  have hfires : firesOnceAtPass node = true := by
    simp only [isTradeFlowMarketPriceOnceNode, Bool.and_eq_true, decide_eq_true_eq] at honce
    simp [firesOnceAtPass, nodeOnceMode, honce.2, hnow]
  have hinit : KeysCoverPasses runId node ⟨stored, cached, steps, idempotencyKeys, []⟩ :=
    ⟨⟨by simp, by simp [passesOf]⟩, by simp [passesOf]⟩
  exact throughout_of_invariant (I := KeysCoverPasses runId node) (fun s hs => hs.fires)
    (fun s event hs => onceStep_covers chrono hfires hs event) hinit events

def fixedOnceTrigger : ConfiguredNode where
  key := "trigger"
  nodeType := "trigger.market_price"
  config := .object [("repeatMode", .string "once"), ("marketSlug", .string "btc-updown-5m-1")]

/-- Outside reads under which every step passes its condition and its protection. -/
def readsMet : TriggerReads where
  now := 0
  autoScope := fun _ => .ok none
  entryTimingBlocked := fun _ => false
  conditions := fun _ _ => .evaluated true false []
  protectionPasses := true

/-- Two steps at work at once, then a third after the context was cleared. -/
def threeSteps : List (OnceEvent fixedOnceTrigger) :=
  [.enqueue none none, .enqueue (some "reentry:42:trigger:gen1") none, .start 0 readsMet,
    .start 1 readsMet, .finish 1 .answered "t1", .finish 0 .answered "t0",
    .writeContext (.object []), .enqueue none none, .start 2 readsMet, .finish 2 .answered "t2"]

theorem once_trigger_fires_once_three_steps :
    let s := threeSteps.foldl (onceStep idleChrono 42) ⟨.object [], .object [], [], [], []⟩
    s.executions.map (fun e => e.2.pass) = [true, false, false] ∧
      Throughout (onceStep idleChrono 42) FiresOnce ⟨.object [], .object [], [], [], []⟩
        threeSteps := by
  intro s
  refine ⟨by decide +kernel, ?_⟩
  exact once_trigger_fires_once idleChrono 42 fixedOnceTrigger (by decide +kernel)
    (by decide +kernel) _ _ [] [] threeSteps

end PolymarketBot.Flow
