import PolymarketBot.AutoClaim.Jobs
import PolymarketBot.Lib.Moments

/-! The auto-claim service: a tick as the calls it makes, and the world that answers them. -/

namespace PolymarketBot.AutoClaim
open PolymarketBot.Flow Lib Prog

inductive ClaimExecutionMode where
  | direct | builderRelayer | relayerApiKey
  deriving DecidableEq, Repr

def ClaimExecutionMode.isRelayer : ClaimExecutionMode → Bool
  | direct => false
  | builderRelayer | relayerApiKey => true

/-- What `from_app_config` settles once; its lower bounds are fields. -/
structure AutoClaimService where
  userId : ℤ
  signerAddress : String
  safeAddress : Option String
  executionMode : ClaimExecutionMode
  positionsPageSize : ℕ
  positionsMaxPages : ℕ
  processBatchSize : ℕ
  maxAttempts : ℤ
  retryBackoffMs : ℕ
  minClaimUsdc : ℚ
  autoActivateFunds : Bool
  discoveryIntervalSec : ℕ
  pageSize_pos : 0 < positionsPageSize
  batchSize_pos : 0 < processBatchSize
  maxAttempts_pos : 0 < maxAttempts

/-- What a tick changes of the service. -/
structure ClaimTimers where
  nextDiscoveryAt : Instant
  nextSubmissionAt : Instant
  needsProcessingRecovery : Bool

structure ClaimSubmitFailure where
  retryable : Bool
  message : String

def ClaimSubmitFailure.ofRetryable (message : String) : ClaimSubmitFailure := ⟨true, message⟩

def ClaimSubmitFailure.nonRetryable (message : String) : ClaimSubmitFailure := ⟨false, message⟩

inductive ClaimEventType where
  | processingStarted | submitted | retryScheduled | claimFailed
  | receiptConfirmed | receiptFailed | receiptTimeout
  | fundsActivated | fundsActivationSkipped | fundsActivationFailed

/-- `receipt.status` of a transaction that is mined. -/
structure TransactionReceipt where
  status : Option ℕ

/-- The statements and requests of a tick. A redeem names the rows it is for. -/
inductive ClaimCall where
  | now
  | readTimers (userId : ℤ)
  | setTimers (userId : ℤ) (timers : ClaimTimers)
  | recoverStaleProcessing (staleMinutes : ℤ)
  | fetchRedeemablePositions (address : String) (offset : ℕ)
  | upsertJob (ownerAddress : String) (marketSlug : Option String) (conditionId : String)
      (maxAttempts : ℤ)
  | listForReceiptCheck (limit : ℕ)
  | transactionReceipt (txHash : String)
  | markReceiptConfirmed (job : ℕ)
  | activateFunds (ownerAddress : String)
  | countSubmitted
  | listForProcessing (limit : ℕ)
  | markProcessing (job : ℕ)
  | markSubmitted (job : ℕ) (txHash : String)
  | markRetryOrFail (job retryBackoffMs : ℕ)
  | markFailed (job : ℕ)
  | gasPrice
  | simulateRedeem (jobs : List ℕ)
  | sendRedeem (jobs : List ℕ)
  | postRedeem (job : ℕ)
  | appendEvent (job : ℕ) (event : ClaimEventType)

abbrev ClaimAnswer : ClaimCall → Type
  | .now => Instant
  | .readTimers _ => ClaimTimers
  | .recoverStaleProcessing _ => ℕ
  | .fetchRedeemablePositions _ _ => List DataApiPosition
  | .upsertJob _ _ _ _ => Bool
  | .listForReceiptCheck _ => List (ℕ × AutoClaimJob)
  | .transactionReceipt _ => Option TransactionReceipt
  | .activateFunds _ => String
  | .countSubmitted => ℕ
  | .listForProcessing _ => List (ℕ × AutoClaimJob)
  | .markRetryOrFail _ _ => ClaimJobStatus
  | .simulateRedeem _ => Bool
  | .sendRedeem _ => String
  | .postRedeem _ => Except ClaimSubmitFailure String
  | _ => Unit

abbrev Claim (α : Type) := Prog ClaimCall ClaimAnswer String α

abbrev ask (c : ClaimCall) : Claim (ClaimAnswer c) := perform c

/-- A submission that fails without ending the tick. -/
abbrev Submission := Except ClaimSubmitFailure String

section Tick
variable (service : AutoClaimService)

/-! ### Submitting a redeem -/

def isSafeOwnerAddress (ownerAddress : String) : Bool :=
  service.safeAddress.any fun safe => eqIgnoreAsciiCase safe ownerAddress

def submitRedeemTxDirect (id : ℕ) (job : AutoClaimJob) : Claim Submission :=
  match parseConditionId job.conditionId with
  | none => pure (.error (.nonRetryable s!"invalid auto-claim condition id {job.conditionId}"))
  | some _ => do
    match ← attempt (ask .gasPrice) with
    | .error err => pure (.error (.ofRetryable
        s!"failed to fetch gas price for redeemPositions {job.conditionId}: {err}"))
    | .ok _ =>
      match ← attempt (ask (.sendRedeem [id])) with
      | .error err => pure (.error (.ofRetryable
          s!"redeemPositions send failed for {job.conditionId}: {err}"))
      | .ok txHash => pure (.ok txHash)

def submitRedeemTxViaSafe (id : ℕ) (job : AutoClaimJob) : Claim Submission :=
  match normalizeAddress service.signerAddress with
  | none => pure (.error (.nonRetryable "invalid claim.user_address for safe auto-claim"))
  | some _ =>
    match parseConditionId job.conditionId with
    | none => pure (.error (.nonRetryable s!"invalid auto-claim condition id {job.conditionId}"))
    | some _ => do
      match ← attempt (ask (.simulateRedeem [id])) with
      | .error err => pure (.error (.ofRetryable
          s!"safe execTransaction simulation failed for {job.conditionId}: {err}"))
      | .ok false => pure (.error (.ofRetryable
          s!"safe execTransaction simulation returned false for {job.conditionId}"))
      | .ok true =>
        match ← attempt (ask .gasPrice) with
        | .error err => pure (.error (.ofRetryable
            s!"failed to fetch gas price for safe redeem {job.conditionId}: {err}"))
        | .ok _ =>
          match ← attempt (ask (.sendRedeem [id])) with
          | .error err => pure (.error (.ofRetryable
              s!"safe execTransaction send failed for {job.conditionId}: {err}"))
          | .ok txHash => pure (.ok txHash)

/-- The adapter's answer is a hash or a failure of its own. -/
def requestRedeem (id : ℕ) (job : AutoClaimJob) : Claim Submission :=
  match normalizeConditionId job.conditionId with
  | none => pure (.error (.nonRetryable s!"invalid auto-claim condition id {job.conditionId}"))
  | some _ => do
    match ← attempt (ask (.postRedeem id)) with
    | .error err => pure (.error (.ofRetryable
        s!"claim relayer adapter request failed for {job.conditionId}: {err}"))
    | .ok submission => pure submission

def submitRedeemTxViaRelayer (id : ℕ) (job : AutoClaimJob) : Claim Submission :=
  match service.safeAddress with
  | none =>
    pure (.error (.nonRetryable "builder_relayer requires exchange.gnosis_safe_address"))
  | some safeAddress =>
    if eqIgnoreAsciiCase safeAddress job.ownerAddress then requestRedeem id job
    else pure (.error (.nonRetryable
      s!"builder_relayer only supports the configured safe owner address ({safeAddress})"))

def submitRedeemTx (id : ℕ) (job : AutoClaimJob) : Claim Submission :=
  if service.executionMode.isRelayer then submitRedeemTxViaRelayer service id job
  else if isSafeOwnerAddress service job.ownerAddress then submitRedeemTxViaSafe service id job
  else submitRedeemTxDirect id job

def submitBatchRedeemViaSafe (jobs : List (ℕ × AutoClaimJob)) : Claim Submission :=
  if jobs.isEmpty then
    pure (.error (.nonRetryable "batch redeem called with empty condition list"))
  else match normalizeAddress service.signerAddress with
    | none => pure (.error (.nonRetryable "invalid claim.user_address for batch safe redeem"))
    | some _ =>
      match jobs.find? fun c => (parseConditionId c.2.conditionId).isNone with
      | some c => pure (.error (.nonRetryable
          s!"invalid condition_id in batch: {c.2.conditionId}"))
      | none => do
        match ← attempt (ask (.simulateRedeem (jobs.map Prod.fst))) with
        | .error err =>
          pure (.error (.ofRetryable
            s!"batch safe execTransaction simulation failed ({jobs.length} conditions): {err}"))
        | .ok false =>
          pure (.error (.ofRetryable
            s!"batch safe execTransaction simulation returned false ({jobs.length} conditions)"))
        | .ok true =>
          match ← attempt (ask (.sendRedeem (jobs.map Prod.fst))) with
          | .error err =>
            pure (.error (.ofRetryable
              s!"batch safe execTransaction send failed ({jobs.length} conditions): {err}"))
          | .ok txHash => pure (.ok txHash)

def submitFailureIndicatesRateLimit (err : ClaimSubmitFailure) : Bool :=
  err.retryable && ["relayer_rate_limited", "http 429", "\"status\":429", "too many requests",
    "quota exceeded"].any fun text => contains text (lowercase err.message)

/-! ### Processing queued jobs -/

/-- Books a failed submission on its row, and tells the event that reports it. -/
def bookFailure (id : ℕ) (err : ClaimSubmitFailure) : Claim ClaimEventType :=
  if err.retryable then do
    let status ← ask (.markRetryOrFail id service.retryBackoffMs)
    pure (if status = .failed then .claimFailed else .retryScheduled)
  else do
    ask (.markFailed id)
    pure .claimFailed

/-- Answers whether the submission was refused for its rate. -/
def processSingleJob (id : ℕ) (job : AutoClaimJob) : Claim Bool := do
  ask (.markProcessing id)
  ask (.appendEvent id .processingStarted)
  match ← submitRedeemTx service id job with
  | .ok txHash =>
    ask (.markSubmitted id txHash)
    ask (.appendEvent id .submitted)
    pure false
  | .error err =>
    let event ← bookFailure service id err
    ask (.appendEvent id event)
    pure (submitFailureIndicatesRateLimit err)

/-- `BATCH_MAX_CONDITIONS` -/
def batchMaxConditions : ℕ := 100

def startProcessing (id : ℕ) : Claim Unit := do
  ask (.markProcessing id)
  ask (.appendEvent id .processingStarted)

def batchSubmitted (txHash : String) (id : ℕ) : Claim Unit := do
  ask (.markSubmitted id txHash)
  ask (.appendEvent id .submitted)

def batchFailed (err : ClaimSubmitFailure) (id : ℕ) : Claim Unit := do
  let _ ← bookFailure service id err
  ask (.appendEvent id (if err.retryable then .retryScheduled else .claimFailed))

def processBatchSafeJobs (jobs : List (ℕ × AutoClaimJob)) : Claim Unit := do
  let batchJobs := jobs.take batchMaxConditions
  (batchJobs.map Prod.fst).forM startProcessing
  ask .gasPrice
  match ← submitBatchRedeemViaSafe service batchJobs with
  | .ok txHash => (batchJobs.map Prod.fst).forM (batchSubmitted txHash)
  | .error err => (batchJobs.map Prod.fst).forM (batchFailed service err)

def relayerRateLimitCooldownUntil (now : Instant) : Instant :=
  now + (max ((service.retryBackoffMs + 999) / 1000) 30 : ℕ) * 1000

def scheduleRateLimitCooldown : Claim Unit := do
  let timers ← ask (.readTimers service.userId)
  let now ← ask .now
  ask (.setTimers service.userId
    { timers with nextSubmissionAt := relayerRateLimitCooldownUntil service now })

/-- One job after another; the first that is refused for its rate ends the loop, and the answer
tells so. -/
def processSingleJobs : List (ℕ × AutoClaimJob) → Claim Bool
  | [] => pure false
  | c :: rest => do
    if ← processSingleJob service c.1 c.2 then
      scheduleRateLimitCooldown service
      pure true
    else processSingleJobs rest

def partitionSafeJobs (jobs : List (ℕ × AutoClaimJob)) :
    List (ℕ × AutoClaimJob) × List (ℕ × AutoClaimJob) :=
  jobs.partition fun c => isSafeOwnerAddress service c.2.ownerAddress

/-- What `process_pending_jobs` does with the rows it has listed. -/
def processListedJobs (jobs : List (ℕ × AutoClaimJob)) : Claim Unit :=
  if service.executionMode.isRelayer then do
    let _ ← processSingleJobs service jobs
  else
    let parts := partitionSafeJobs service jobs
    if 2 ≤ parts.1.length then do
      processBatchSafeJobs service parts.1
      let _ ← processSingleJobs service parts.2
    else do
      if ← processSingleJobs service parts.1 then pure ()
      else
        let _ ← processSingleJobs service parts.2

def processPendingJobs (limit : ℕ) : Claim Unit := do
  let jobs ← ask (.listForProcessing (max limit 1))
  processListedJobs service jobs

/-! ### Receipts -/

/-- `RECEIPT_TIMEOUT_SEC` -/
def receiptTimeoutSec : ℤ := 120

/-- `RECEIPT_CHECK_BATCH_LIMIT` -/
def receiptCheckBatchLimit : ℕ := 50

def elapsedSecondsSince (start finish : Instant) : ℤ := max ((finish - start).tdiv 1000) 0

def hasReceiptTimedOut (submittedAt now : Instant) : Bool :=
  elapsedSecondsSince submittedAt now ≥ receiptTimeoutSec

def handleSubmittedJobFailure (id : ℕ) (event : ClaimEventType) : Claim Unit := do
  let _ ← ask (.markRetryOrFail id service.retryBackoffMs)
  ask (.appendEvent id event)

def fundsActivationEventType (status : String) : ClaimEventType :=
  if eqIgnoreAsciiCase (trim status) "skipped" then .fundsActivationSkipped else .fundsActivated

def maybeActivateFundsAfterClaim (id : ℕ) (job : AutoClaimJob) : Claim Unit :=
  if service.autoActivateFunds && service.executionMode.isRelayer &&
      isSafeOwnerAddress service job.ownerAddress then do
    match ← attempt (ask (.activateFunds job.ownerAddress)) with
    | .ok status => ask (.appendEvent id (fundsActivationEventType status))
    | .error _ => ask (.appendEvent id .fundsActivationFailed)
  else pure ()

def checkSubmittedReceipt (now : Instant) (id : ℕ) (job : AutoClaimJob) : Claim Unit :=
  match job.txHash with
  | none => handleSubmittedJobFailure service id .receiptFailed
  | some txHash =>
    if (parseTxHash txHash).isNone then handleSubmittedJobFailure service id .receiptFailed
    else do
      match ← attempt (ask (.transactionReceipt txHash)) with
      | .error _ => pure ()
      | .ok (some receipt) =>
        if receipt.status = some 1 then
          ask (.markReceiptConfirmed id)
          ask (.appendEvent id .receiptConfirmed)
          maybeActivateFundsAfterClaim service id job
        else handleSubmittedJobFailure service id .receiptFailed
      | .ok none =>
        if hasReceiptTimedOut (job.submittedAt.getD job.updatedAt) now then
          handleSubmittedJobFailure service id .receiptTimeout
        else pure ()

def checkSubmittedReceipts : Claim Unit := do
  let jobs ← ask (.listForReceiptCheck receiptCheckBatchLimit)
  let now ← ask .now
  jobs.forM fun c => checkSubmittedReceipt service now c.1 c.2

/-! ### Discovery -/

def discoveryAddresses : List String :=
  service.signerAddress :: match service.safeAddress with
    | some safe => if safe = service.signerAddress then [] else [safe]
    | none => []

def discoveredJob (address : String) (position : DataApiPosition) :
    Option ((String × String) × Option String) := do
  if position.redeemable = some false ∨ positionAmount position ≤ 0 ∨
      ¬ meetsMinClaimValue position service.minClaimUsdc then none
  let rawConditionId ← position.conditionId
  let conditionId ← normalizeConditionId rawConditionId
  let ownerAddress ← normalizePositionOwnerAddress position.proxyWallet address
  some ((ownerAddress, conditionId), position.marketSlug.or position.slug)

/-- `entry(key).or_insert(slug)` -/
def insertFirst (found : List ((String × String) × Option String))
    (row : (String × String) × Option String) : List ((String × String) × Option String) :=
  if row.1 ∈ found.map Prod.fst then found else found ++ [row]

/-- The pages of one address, up to the first that is short or empty. -/
def discoverPages (address : String) :
    ℕ → ℕ → List ((String × String) × Option String) →
      Claim (List ((String × String) × Option String))
  | 0, _, found => pure found
  | pages + 1, page, found => do
    let positions ← ask (.fetchRedeemablePositions address (page * service.positionsPageSize))
    let found := (positions.filterMap (discoveredJob service address)).foldl insertFirst found
    if positions.length < service.positionsPageSize then pure found
    else discoverPages address pages (page + 1) found

def discoverAddresses : List String → List ((String × String) × Option String) →
    Claim (List ((String × String) × Option String))
  | [], found => pure found
  | address :: rest, found => do
    let found ← discoverPages service address service.positionsMaxPages 0 found
    discoverAddresses rest found

def discoverRedeemableJobs : Claim Unit := do
  let byCondition ← discoverAddresses service (discoveryAddresses service) []
  byCondition.forM fun row => do
    let _ ← ask (.upsertJob row.1.1 row.2 row.1.2 service.maxAttempts)

/-! ### A tick -/

def maxInflightClaimJobs : ℕ :=
  if service.executionMode.isRelayer then 1 else max service.processBatchSize 1

def recoverOnce : Claim Unit := do
  let timers ← ask (.readTimers service.userId)
  if timers.needsProcessingRecovery then
    let _ ← ask (.recoverStaleProcessing 5)
    ask (.setTimers service.userId { timers with needsProcessingRecovery := false })

def discoverWhenDue (now : Instant) : Claim Unit := do
  let timers ← ask (.readTimers service.userId)
  if now ≥ timers.nextDiscoveryAt then
    discoverRedeemableJobs service
    ask (.setTimers service.userId
      { timers with nextDiscoveryAt := now + service.discoveryIntervalSec * 1000 })

def processWhenFree (now : Instant) : Claim Unit := do
  let inflightCount ← ask .countSubmitted
  let availableSlots := maxInflightClaimJobs service - inflightCount
  let timers ← ask (.readTimers service.userId)
  if availableSlots > 0 ∧ now ≥ timers.nextSubmissionAt then
    processPendingJobs service availableSlots

def maybeTick : Claim Unit := do
  recoverOnce service
  let now ← ask .now
  discoverWhenDue service now
  checkSubmittedReceipts service
  processWhenFree service now

end Tick

/-! ### The world -/

structure ClaimWorld where
  now : Instant
  jobs : List AutoClaimJob
  timers : ℤ → ClaimTimers
  /-- The redeems sent for a row since it was last queued from scratch. -/
  sent : ℕ → ℕ
  /-- How often the row was taken back from `processing` since then. -/
  recoveries : ℕ → ℕ

/-- What others decide about a call: how late it comes, whether it fails, whether it takes effect
although it fails, and what a request answers. -/
structure ClaimReply where
  elapsed : ℕ
  error : Option String
  takesEffect : Bool
  positions : List DataApiPosition
  receipt : Option TransactionReceipt
  funds : String
  simulation : Bool
  txHash : String
  relayer : Submission

instance : Inhabited ClaimReply := ⟨⟨0, none, true, [], none, "", true, "", .ok ""⟩⟩

namespace ClaimWorld
variable (w : ClaimWorld)

def modifyJob (id : ℕ) (f : AutoClaimJob → AutoClaimJob) : ClaimWorld :=
  { w with jobs := w.jobs.modify id f }

def queuedFromScratch (ownerAddress conditionId : String) (id : ℕ) : Bool :=
  w.jobs[id]?.all fun job => job.key = (ownerAddress, conditionId) && !job.status.isKept

def effect : ClaimCall → ClaimWorld
  | .setTimers userId timers => { w with timers := Function.update w.timers userId timers }
  | .recoverStaleProcessing staleMinutes =>
    { w with
      jobs := AutoClaim.recoverStaleProcessing w.now staleMinutes w.jobs
      recoveries := fun id =>
        if w.jobs[id]?.any (·.isStale w.now staleMinutes) then w.recoveries id + 1
        else w.recoveries id }
  | .upsertJob ownerAddress marketSlug conditionId maxAttempts =>
    { w with
      jobs := upsertAutoClaimJob w.now ownerAddress marketSlug conditionId maxAttempts w.jobs
      sent := fun id => if w.queuedFromScratch ownerAddress conditionId id then 0 else w.sent id
      recoveries := fun id =>
        if w.queuedFromScratch ownerAddress conditionId id then 0 else w.recoveries id }
  | .markReceiptConfirmed id => w.modifyJob id (·.markReceiptConfirmed w.now)
  | .markProcessing id => w.modifyJob id (·.markProcessing w.now)
  | .markSubmitted id txHash => w.modifyJob id (·.markSubmitted w.now txHash)
  | .markRetryOrFail id retryBackoffMs => w.modifyJob id (·.markRetryOrFail w.now retryBackoffMs)
  | .markFailed id => w.modifyJob id (·.markFailed w.now)
  | .sendRedeem jobs => { w with sent := fun id => if id ∈ jobs then w.sent id + 1 else w.sent id }
  | .postRedeem id => { w with sent := Function.update w.sent id (w.sent id + 1) }
  | _ => w

def answer (r : ClaimReply) : (c : ClaimCall) → ClaimAnswer c
  | .now => w.now
  | .readTimers userId => w.timers userId
  | .setTimers _ _ => ()
  | .recoverStaleProcessing staleMinutes => w.jobs.countP (·.isStale w.now staleMinutes)
  | .fetchRedeemablePositions _ _ => r.positions
  | .upsertJob ownerAddress _ conditionId _ =>
    (ownerAddress, conditionId) ∉ w.jobs.map AutoClaimJob.key
  | .listForReceiptCheck limit => AutoClaim.listForReceiptCheck limit w.jobs
  | .transactionReceipt _ => r.receipt
  | .markReceiptConfirmed _ => ()
  | .activateFunds _ => r.funds
  | .countSubmitted => AutoClaim.countSubmitted w.jobs
  | .listForProcessing limit => AutoClaim.listForProcessing w.now limit w.jobs
  | .markProcessing _ => ()
  | .markSubmitted _ _ => ()
  | .markRetryOrFail id _ => (w.jobs[id]?.map AutoClaimJob.afterFailure).getD .failed
  | .markFailed _ => ()
  | .gasPrice => ()
  | .simulateRedeem _ => r.simulation
  | .sendRedeem _ => r.txHash
  | .postRedeem _ => r.relayer
  | .appendEvent _ _ => ()

end ClaimWorld

/-- Reads and writes of the service's own fields do not fail. -/
def ClaimCall.isLocal : ClaimCall → Bool
  | now | readTimers _ | setTimers _ _ => true
  | _ => false

def act (c : ClaimCall) (w : ClaimWorld) (r : ClaimReply) :
    Except String (ClaimAnswer c) × ClaimWorld :=
  let w := { w with now := w.now + r.elapsed }
  match r.error with
  | some err =>
    if c.isLocal then (.ok (w.answer r c), w.effect c)
    else (.error err, if r.takesEffect then w.effect c else w)
  | none => (.ok (w.answer r c), w.effect c)

/-- Between two ticks time passes, or a service is built anew. -/
inductive ClaimEnv where
  | timePasses (ms : ℕ)
  | serviceBuilt (userId : ℤ)

def envStep : ClaimEnv → ClaimWorld → ClaimWorld
  | .timePasses ms, w => { w with now := w.now + ms }
  | .serviceBuilt userId, w =>
    { w with timers := Function.update w.timers userId ⟨w.now, w.now, true⟩ }

abbrev ClaimTurn := Turn ClaimCall ClaimAnswer String ClaimReply ClaimEnv

def ClaimWorld.empty (now : Instant) : ClaimWorld where
  now
  jobs := []
  timers := fun _ => ⟨now, now, true⟩
  sent := fun _ => 0
  recoveries := fun _ => 0

end PolymarketBot.AutoClaim
