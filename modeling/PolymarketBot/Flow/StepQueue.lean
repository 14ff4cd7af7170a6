import PolymarketBot.Flow.DeferredOnce
import PolymarketBot.Flow.Edges
import PolymarketBot.Lib.Prog

/-! One step of the flow queue: the worker that claims and processes it, and the statements that
write its status. -/

namespace PolymarketBot.Flow
open Lib Lib.Prog

inductive TradeFlowStepStatus where
  | queued | running | completed | failed | skipped | canceled
deriving DecidableEq

def TradeFlowStepStatus.isTerminal : TradeFlowStepStatus → Bool
  | queued | running => false
  | completed | failed | skipped | canceled => true

structure TradeFlowRouteDecision where
  edgeType : String
  availableAt : Instant := 0

structure RoutedExecution extends TradeFlowNodeExecution where
  routes : List TradeFlowRouteDecision := []

/-- What a node execution leaves: its context, and an execution or the text of its error. -/
structure NodeRun where
  context : Value
  result : Except String RoutedExecution

structure RunReading where
  status : String
  versionId : ℤ

structure DefinitionReading where
  status : String
  publishedVersionId : Option ℤ

structure QueuedStep where
  node : ConfiguredNode
  attempt : ℤ
  input : Option Value
  availableAt : Instant

/-- What a worker asks of the database, and the executions that read and write it. The mark of
a completed step carries the nodes that its routes lead to. -/
inductive StepCall where
  | claimReadyTradeFlowStep
  | getTradeFlowRun
  | loadUserAppConfig
  | loadUserOrderExecutor
  | getTradeFlowDefinition
  | setTradeFlowRunStatus (status reason : String)
  | getTradeFlowVersion
  | reconcileDeferredOnceLocks
  | executeTradeFlowNode
  | cancelFlowStepSideEffects (output : Value)
  | applyDeferredOnceAfterNodeExecution (execution : RoutedExecution) (context : Value)
  | updateTradeFlowRunContext (context : Value)
  | releaseDeferredOnceAfterStepError (output : Value)
  | markTradeFlowStepCompleted (successors : List ConfiguredNode)
  | markTradeFlowStepFailed
  | markTradeFlowStepSkipped
  | appendTradeFlowEvent (eventType : String)
  | maybeAttachDeferredOnceLock (target : ConfiguredNode) (input : Value)
  | enqueueTradeFlowStep (step : QueuedStep)
  | enqueueTradeFlowRepeat (node : ConfiguredNode) (attempt : ℤ) (repeatAt : Instant)

namespace StepCall

@[reducible] def Answer : StepCall → Type
  | claimReadyTradeFlowStep => Bool
  | getTradeFlowRun => Option RunReading
  | getTradeFlowDefinition => Option DefinitionReading
  | getTradeFlowVersion => Option TradeFlowGraphRuntime
  | executeTradeFlowNode => NodeRun
  | applyDeferredOnceAfterNodeExecution _ _ => RoutedExecution × Value
  | releaseDeferredOnceAfterStepError _ => Value
  | maybeAttachDeferredOnceLock _ _ => Option Value
  | _ => Unit

def marks : StepCall → Option TradeFlowStepStatus
  | markTradeFlowStepCompleted _ => some .completed
  | markTradeFlowStepFailed => some .failed
  | markTradeFlowStepSkipped => some .skipped
  | _ => none

end StepCall

/-- The row of the step, with the nodes its completion leads to, those queued since then, and
whether its status changed after it was terminal. -/
structure StepWorld where
  status : TradeFlowStepStatus := .queued
  successors : List ConfiguredNode := []
  queued : List ConfiguredNode := []
  changedAfterEnd : Bool := false

namespace StepWorld
variable (w : StepWorld)

def setStatus (status : TradeFlowStepStatus) : StepWorld :=
  { w with
    status
    changedAfterEnd := w.changedAfterEnd || (w.status.isTerminal && w.status ≠ status) }

/-- A completed step has queued a step for each of its successors. -/
def Settled : Prop := w.status = .completed → w.queued = w.successors

/-- A terminal status never changed, and a completed step has queued its successors. -/
def Law : Prop := w.changedAfterEnd = false ∧ w.Settled

end StepWorld

/-- Statements that others send about the step. -/
inductive OtherWrite where
  | claim
  | recoverStale

def OtherWrite.exec (w : StepWorld) : OtherWrite → StepWorld
  | claim => if w.status = .queued then w.setStatus .running else w
  | recoverStale => if w.status = .running then w.setStatus .canceled else w

/-- A call fails before it is executed, or after. -/
inductive StepFault where
  | refused
  | lost
deriving DecidableEq

/-- What the environment decides about a call: what others write just before it, whether it
fails, and what it reads. -/
structure StepReply where
  others : List OtherWrite := []
  fault : Option StepFault := none
  run : Option RunReading := none
  definition : Option DefinitionReading := none
  version : Option TradeFlowGraphRuntime := none
  nodeRun : NodeRun := ⟨.object [], .error "no execution"⟩
  applied : Option (RoutedExecution × Value) := none
  released : Option Value := none
  lockHeld : Bool := false
  lockedInput : Option Value := none

instance : Inhabited StepReply := ⟨{}⟩

def StepReply.found (r : StepReply) (w : StepWorld) : StepWorld := r.others.foldl OtherWrite.exec w

namespace StepCall

def exec (w : StepWorld) : StepCall → StepWorld
  | claimReadyTradeFlowStep => OtherWrite.exec w .claim
  | markTradeFlowStepCompleted successors => { w.setStatus .completed with successors, queued := [] }
  | markTradeFlowStepFailed => w.setStatus .failed
  | markTradeFlowStepSkipped => w.setStatus .skipped
  | enqueueTradeFlowStep step => { w with queued := w.queued ++ [step.node] }
  | _ => w

def answer (w : StepWorld) (r : StepReply) : (c : StepCall) → c.Answer
  | claimReadyTradeFlowStep => w.status = .queued
  | getTradeFlowRun => r.run
  | getTradeFlowDefinition => r.definition
  | getTradeFlowVersion => r.version
  | executeTradeFlowNode => r.nodeRun
  | applyDeferredOnceAfterNodeExecution execution context => r.applied.getD (execution, context)
  | releaseDeferredOnceAfterStepError output => r.released.getD output
  | maybeAttachDeferredOnceLock _ input =>
    if r.lockHeld then none else some (r.lockedInput.getD input)
  | loadUserAppConfig | loadUserOrderExecutor | setTradeFlowRunStatus _ _
  | reconcileDeferredOnceLocks | cancelFlowStepSideEffects _ | updateTradeFlowRunContext _
  | markTradeFlowStepCompleted _ | markTradeFlowStepFailed | markTradeFlowStepSkipped
  | appendTradeFlowEvent _ | enqueueTradeFlowStep _ | enqueueTradeFlowRepeat _ _ _ => ()

def act (c : StepCall) (w : StepWorld) (r : StepReply) : Except String c.Answer × StepWorld :=
  match r.fault with
  | some .refused => (.error "database error", r.found w)
  | some .lost => (.error "database error", c.exec (r.found w))
  | none => (.ok (c.answer (r.found w) r), c.exec (r.found w))

/-- The calls that ask for the once lock of a successor. -/
def asksLock : StepCall → Bool
  | maybeAttachDeferredOnceLock _ _ => true
  | _ => false

/-- A call that breaks no law of the queue. A status it writes is written to a step that is not
terminal or has it already; where it fails, a completed step has queued its successors; and no
successor of a completed step is passed over for a lock. -/
structure Harmless (c : StepCall) (w : StepWorld) (r : StepReply) : Prop where
  mark : r.fault ≠ some .refused → ∀ status ∈ c.marks,
    (r.found w).status.isTerminal = false ∨ (r.found w).status = status
  settled : r.fault ≠ none → (c.act w r).2.Settled
  lock : c.asksLock → r.fault = none → r.lockHeld → (r.found w).status ≠ .completed

end StepCall

abbrev StepProg (α : Type) := Prog StepCall StepCall.Answer String α

def StepProg.send (c : StepCall) : StepProg c.Answer := perform c

/-! ### The worker -/

section Worker
variable (evaluateJsonlogic : Value → Value → Value) (step : FlowStep)
open StepProg (send)

/-- Queues the step of one target, unless a deferred once lock of it is held already. -/
def enqueueTradeFlowTarget (sourceKey : String) (availableAt : Instant) (input : Value)
    (target : ConfiguredNode) : StepProg Unit := do
  match ← send (.maybeAttachDeferredOnceLock target input) with
  | none => pure ()
  | some targetInput =>
    send (.enqueueTradeFlowStep
      { node := target
        attempt := edgeAttempt sourceKey target.key input
        input := some targetInput
        availableAt })

def enqueueTradeFlowEdges (graph : TradeFlowGraphRuntime) (sourceKey : String)
    (route : TradeFlowRouteDecision) (input context : Value) : StepProg Unit :=
  (edgeTargets evaluateJsonlogic graph sourceKey route.edgeType context input).forM
    (enqueueTradeFlowTarget sourceKey route.availableAt input)

def routeSuccessors (graph : TradeFlowGraphRuntime) (sourceKey : String)
    (execution : RoutedExecution) (context : Value) : List ConfiguredNode :=
  execution.routes.flatMap fun route =>
    edgeTargets evaluateJsonlogic graph sourceKey route.edgeType context execution.output

def enqueueTradeFlowRepeat (node : ConfiguredNode) (execution : RoutedExecution) : StepProg Unit :=
  match execution.repeatAt with
  | none => pure ()
  | some repeatAt =>
    send (.enqueueTradeFlowRepeat node step.attempt repeatAt)

def completeTradeFlowStep (graph : TradeFlowGraphRuntime) (node : ConfiguredNode)
    (execution : RoutedExecution) (context : Value) : StepProg Unit := do
  let latestRun ← send .getTradeFlowRun
  if (latestRun.map fun run => run.status) ≠ some "running" then
    send (.cancelFlowStepSideEffects execution.output)
  else do
    let applied ← send (.applyDeferredOnceAfterNodeExecution execution context)
    send (.updateTradeFlowRunContext applied.2)
    send (.markTradeFlowStepCompleted
      (routeSuccessors evaluateJsonlogic graph node.key applied.1 applied.2))
    send (.appendTradeFlowEvent "step_completed")
    applied.1.routes.forM fun route =>
      enqueueTradeFlowEdges evaluateJsonlogic graph node.key route applied.1.output applied.2
    enqueueTradeFlowRepeat step node applied.1

def failTradeFlowStep (graph : TradeFlowGraphRuntime) (node : ConfiguredNode) (error : String)
    (context : Value) : StepProg Unit := do
  let output ← send (.releaseDeferredOnceAfterStepError (.object [("error", .string error),
    ("node_key", .string node.key), ("node_type", .string node.nodeType)]))
  send .markTradeFlowStepFailed
  send (.appendTradeFlowEvent "step_failed")
  enqueueTradeFlowEdges evaluateJsonlogic graph node.key { edgeType := "on_error" } output context

def executeTradeFlowStep (graph : TradeFlowGraphRuntime) (node : ConfiguredNode) :
    StepProg Unit := do
  send .reconcileDeferredOnceLocks
  let executed ← send .executeTradeFlowNode
  match executed.result with
  | .ok execution => completeTradeFlowStep evaluateJsonlogic step graph node execution executed.context
  | .error error => failTradeFlowStep evaluateJsonlogic graph node error executed.context

/-- The step of a run whose definition changed is skipped. -/
def processTradeFlowStep : StepProg Unit := do
  match ← send .getTradeFlowRun with
  | none => send .markTradeFlowStepSkipped
  | some flowRun =>
    if flowRun.status ≠ "running" then send .markTradeFlowStepSkipped
    else do
      match ← send .getTradeFlowDefinition with
      | none => fail "flow definition not found for run"
      | some definition =>
        if definition.status ≠ "published" then do
          send (.setTradeFlowRunStatus "canceled" "definition_not_published")
          send .markTradeFlowStepSkipped
        else if definition.publishedVersionId ≠ some flowRun.versionId then do
          send (.setTradeFlowRunStatus "canceled" "version_changed")
          send .markTradeFlowStepSkipped
          send (.appendTradeFlowEvent "step_skipped_version_changed")
        else do
          match ← send .getTradeFlowVersion with
          | none => fail "flow version not found for run"
          | some graph =>
            match flowNode graph step.nodeKey with
            | none => fail "flow node not found for step"
            | some node => executeTradeFlowStep evaluateJsonlogic step graph node

/-- A step whose processing failed is marked so; an error of that mark is dropped. -/
def handleStepError (result : Except String Unit) : StepProg Unit :=
  match result with
  | .ok () => pure ()
  | .error _ => attempt (send .markTradeFlowStepFailed) >>= fun _ => pure ()

/-- The part of a pass that is about the step: its claim, and its turn among the claimed steps.
An error before the processing ends the pass. -/
def processTradeFlowReadyStep (hasClient : Bool) : StepProg Unit := do
  if ← send .claimReadyTradeFlowStep then
    match ← send .getTradeFlowRun with
    | none => attempt (send .markTradeFlowStepSkipped) >>= fun _ => pure ()
    | some _ =>
      attempt (do
        send .loadUserAppConfig
        if hasClient then send .loadUserOrderExecutor
        processTradeFlowStep evaluateJsonlogic step) >>= handleStepError
  else pure ()

end Worker

end PolymarketBot.Flow
