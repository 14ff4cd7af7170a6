import PolymarketBot.AvgRebound.Ledger
import PolymarketBot.Lib.Threads

/-! Executions of a node for one market beside the processing of its orders, call by call in any
order. -/

namespace PolymarketBot.AvgRebound.Sessions
open Lib Prog Builder

inductive PrimarySide where
  | yes | no
deriving DecidableEq

structure ResolvedTokens where
  yesTokenId : String
  noTokenId : String

structure TokenResolution where
  primaryTokenId : String
  oppositeTokenId : String

def tokenResolutionForSide (resolved : ResolvedTokens) : PrimarySide → TokenResolution
  | .no => ⟨resolved.noTokenId, resolved.yesTokenId⟩
  | .yes => ⟨resolved.yesTokenId, resolved.noTokenId⟩

/-- A configured node; no label stands for `auto` and for `opposite`. -/
structure NodeConfig where
  config : AvgReboundConfig
  primaryOutcomeLabel : Option PrimarySide := none
  oppositeOutcomeLabel : Option PrimarySide := none

inductive RowStatus where
  | working (status : SessionStatus)
  | locked | closed | failed
deriving DecidableEq

def RowStatus.isActive : RowStatus → Bool
  | .working _ | .locked => true
  | _ => false

structure Session where
  id : ℤ
  status : RowStatus
  tokens : TokenResolution

structure DecisionId where
  sessionId : ℤ
  intent : Intent
  stageId : Option String
  tierOrLegId : String
  qty : ℚ
  limitPrice : ℚ
deriving DecidableEq

def decisionId (decision : AvgReboundDecision) : DecisionId where
  sessionId := decision.sessionId
  intent := decision.intent
  stageId := decision.stageId
  tierOrLegId := decision.tierOrLegId
  qty := decision.qty
  limitPrice := decision.limitPrice

/-- What the exchange and the processing of orders do to an order, beside its fill's record. -/
inductive OrderStep where
  | trade (average : ℚ)
  | kill
  | setStatus (status : OrderStatus)

def OrderStep.apply : OrderStep → AvgReboundOrder → AvgReboundOrder
  | .trade average => .trade average
  | .kill => .kill
  | .setStatus status => .setStatus status

inductive Call where
  | tryLock
  | release
  | hasActiveOrder
  | resolveTokens
  | marketTokens (tokenId : String)
  | loadActiveSession
  | insertSession (tokens : TokenResolution)
  | orderBook (tokenId : String)
  | loadFills (sessionId : ℤ)
  | markSession (sessionId : ℤ) (status : RowStatus)
  | oppositePrice (tokenId : String)
  | hasDecisionOrder (id : DecisionId)
  | createOrder (decision : AvgReboundDecision)
  | appendEvent (orderId : ℕ)
  | boughtOrder (orderId : ℕ)
  | orderStep (orderId : ℕ) (step : OrderStep)
  | insertFill (orderId : ℕ) (fill : Fill)
  | fillRecorded (orderId : ℕ) (status : RowStatus) (lockedPnl : ℚ)

abbrev Answer : Call → Type
  | .tryLock | .hasActiveOrder | .hasDecisionOrder _ | .insertFill _ _ => Bool
  | .resolveTokens => ResolvedTokens
  | .marketTokens _ => Option ℕ
  | .loadActiveSession => Option Session
  | .insertSession _ => Session
  | .orderBook _ => Option (List BookLevel)
  | .loadFills _ => List Fill
  | .oppositePrice _ => ℚ
  | .createOrder _ => Option ℕ
  | .boughtOrder _ => Option (AvgReboundDecision × ℚ)
  | _ => Unit

abbrev Job (α : Type) := Prog Call Answer String α

def run (c : Call) : Job (Answer c) := perform c

/-! ### An execution -/

/-- What an execution ends with: the reason it was skipped for, or the child order, if any. -/
inductive Execution where
  | skipped (reason : String)
  | child (builderOrderId : Option ℕ)

/-- `avg_rebound_primary_candidate`, without the payloads of its rejections. -/
def primaryCandidate (config : AvgReboundConfig) (primaryAsks : List BookLevel) :
    Option VwapQuote :=
  (nextPrimaryTier config {}).bind fun tier =>
    match vwapForFokLimit primaryAsks tier.qty tier.priceCap 0 with
    | .error _ => none
    | .ok quote => if quote.notional < marketMinNotionalUsdc then none else some quote

/-- `avg_rebound_select_cheapest_primary`: between equal quotes "no" comes before "yes". -/
def selectCheapestPrimary (config : AvgReboundConfig) (yesAsks noAsks : List BookLevel) :
    Option PrimarySide :=
  match primaryCandidate config yesAsks, primaryCandidate config noAsks with
  | none, none => none
  | some _, none => some .yes
  | none, some _ => some .no
  | some yes, some no =>
    if yes.vwap < no.vwap ∨ (yes.vwap = no.vwap ∧ yes.notional < no.notional) then some .yes
    else some .no

def resolveTokens (oppositeOutcomeLabel : Option PrimarySide) (resolved : ResolvedTokens)
    (primarySide : PrimarySide) : Job TokenResolution :=
  let tokens := tokenResolutionForSide resolved primarySide
  match oppositeOutcomeLabel with
  | none => do
    match ← run (.marketTokens tokens.primaryTokenId) with
    | none => pure tokens
    | some count =>
      if count = 2 then pure tokens
      else .fail "avg_rebound_pairlock_rescue_v1 opposite=opposite requires a binary market"
  | some configuredOpposite =>
    if configuredOpposite ≠ primarySide then pure tokens
    else
      .fail "avg_rebound_pairlock_rescue_v1 oppositeOutcomeLabel must be opposite primary side"

def getOrCreateSession (tokens : TokenResolution) : Job Session := do
  match ← run .loadActiveSession with
  | some session => pure session
  | none => run (.insertSession tokens)

def orderBooks (first second : String) (secondReason : String) :
    Job (Except String (List BookLevel × List BookLevel)) := do
  match ← run (.orderBook first) with
  | none => pure (.error "primary_order_book_unavailable")
  | some firstAsks =>
    match ← run (.orderBook second) with
    | none => pure (.error secondReason)
    | some secondAsks => pure (.ok (firstAsks, secondAsks))

structure Prepared where
  session : Session
  tokens : TokenResolution
  primaryAsks : List BookLevel
  oppositeAsks : List BookLevel

def withBooks (session : Session) (tokens : TokenResolution) : Job (Except String Prepared) := do
  match ← orderBooks tokens.primaryTokenId tokens.oppositeTokenId
      "opposite_order_book_unavailable" with
  | .error reason => pure (.error reason)
  | .ok (primaryAsks, oppositeAsks) => pure (.ok { session, tokens, primaryAsks, oppositeAsks })

def prepare (node : NodeConfig) (resolved : ResolvedTokens) (activeSession : Option Session) :
    Job (Except String Prepared) :=
  match activeSession, node.primaryOutcomeLabel with
  | some session, _ => withBooks session session.tokens
  | none, none => do
    match ← orderBooks resolved.yesTokenId resolved.noTokenId "primary_order_book_unavailable" with
    | .error reason => pure (.error reason)
    | .ok (yesAsks, noAsks) =>
      match selectCheapestPrimary node.config yesAsks noAsks with
      | none => pure (.error "no_eligible_avg_rebound_action")
      | some side =>
        let tokens := tokenResolutionForSide resolved side
        let session ← getOrCreateSession tokens
        match side with
        | .yes => pure (.ok ⟨session, tokens, yesAsks, noAsks⟩)
        | .no => pure (.ok ⟨session, tokens, noAsks, yesAsks⟩)
  | none, some primarySide => do
    let tokens ← resolveTokens node.oppositeOutcomeLabel resolved primarySide
    let session ← getOrCreateSession tokens
    withBooks session tokens

/-- `load_trade_builder_avg_rebound_pairlock_rescue_state`: the active session with its fills. -/
def loadSessionFills : Job (Option (Session × List Fill)) := do
  match ← run .loadActiveSession with
  | none => pure none
  | some session =>
    let fills ← run (.loadFills session.id)
    pure (some (session, fills))

def runtimeState : Option (Session × List Fill) → AvgReboundState
  | none => {}
  | some (session, fills) => loadState session.id fills

def isTerminal (loaded : Option (Session × List Fill)) : Bool :=
  loaded.any fun (session, _) => session.status = .locked || session.status = .closed

def placeChild (sessionId : ℤ) (decision : AvgReboundDecision) : Job Execution := do
  run (.markSession sessionId (.working decision.sessionStatus))
  match ← run (.createOrder decision) with
  | none => pure (.child none)
  | some orderId =>
    run (.appendEvent orderId)
    pure (.child (some orderId))

def placeDecision (node : NodeConfig) (prepared : Prepared)
    (loaded : Option (Session × List Fill)) : Job Execution :=
  let state := runtimeState loaded
  if isTerminal loaded then pure (.skipped "session_terminal")
  else if 0 < state.primaryTotalQty ∧ state.openPrimaryQty ≤ 1 / 10000 then do
    run (.markSession prepared.session.id .locked)
    pure (.skipped "session_locked")
  else do
    let oppositePrice ← run (.oppositePrice prepared.tokens.oppositeTokenId)
    match (selectDecision node.config state
        ⟨prepared.primaryAsks, prepared.oppositeAsks, oppositePrice⟩).1 with
    | none => pure (.skipped "no_eligible_avg_rebound_action")
    | some decision =>
      if ← run (.hasDecisionOrder (decisionId decision)) then
        pure (.skipped "duplicate_decision_order")
      else placeChild prepared.session.id decision

def lockedExecution (node : NodeConfig) : Job Execution := do
  if ← run .hasActiveOrder then pure (.skipped "active_order_exists")
  else
    let resolved ← run .resolveTokens
    let activeSession ← run .loadActiveSession
    match ← prepare node resolved activeSession with
    | .error reason => pure (.skipped reason)
    | .ok prepared =>
      let loaded ← loadSessionFills
      placeDecision node prepared loaded

/-- `execute_action_place_order_avg_rebound_pairlock_rescue` with a client at hand. -/
def execution (node : NodeConfig) : Job Execution := do
  if ← run .tryLock then
    let result ← attempt (lockedExecution node)
    run .release
    match result with
    | .ok output => pure output
    | .error e => .fail e
  else pure (.skipped "execution_lock_busy")

/-! ### The processing of orders -/

def nextStatus (fills : List Fill) (intent : Intent) : RowStatus :=
  if Complete fills then .locked
  else
    match intent with
    | .profitPairlock => .working .profitLocking
    | .givebackGuard => .working .guardExit
    | .primaryLadder => .working .buildingPrimary
    | _ => .working .rescueExit

def maybeRecordFill (orderId : ℕ) (decision : AvgReboundDecision) (executionPrice : ℚ) :
    Job Unit := do
  if ← run (.insertFill orderId (orderFill decision executionPrice)) then
    let loaded ← loadSessionFills
    let fills := (loaded.map Prod.snd).getD []
    let status := nextStatus fills decision.intent
    run (.markSession decision.sessionId status)
    run (.fillRecorded orderId status (lockedPnlOf fills))
  else pure ()

/-- `finalize_builder_fill` completes the order before it records the fill. -/
def finalizeFill (orderId : ℕ) : Job Unit := do
  match ← run (.boughtOrder orderId) with
  | none => pure ()
  | some (decision, executionPrice) =>
    run (.orderStep orderId (.setStatus .completed))
    maybeRecordFill orderId decision executionPrice

def orderSteps : List (ℕ × OrderStep) → Job Unit
  | [] => pure ()
  | (orderId, step) :: steps => .call (.orderStep orderId step) fun _ => orderSteps steps

inductive Task where
  | execute (node : NodeConfig)
  | finalize (orderId : ℕ)
  | exchange (steps : List (ℕ × OrderStep))

def Task.job : Task → Job Unit
  | .execute node => do
    let _ ← execution node
    pure ()
  | .finalize orderId => finalizeFill orderId
  | .exchange steps => orderSteps steps

/-! ### The tables -/

variable {ι : Type}

/-- The rows of a node and market: `completions` are the locked results of the fills that were
recorded with the status `LOCKED`, `inactive` the orders that a thread's last look for active ones
found to be none, and `settledRead` tells whether these were settled when it last read the fills. -/
structure World (ι : Type) where
  lock : Option ι := none
  sessions : List Session := []
  ledger : Ledger := {}
  completions : List ℚ := []
  inactive : ι → List ℕ := fun _ => []
  settledRead : ι → Bool := fun _ => false

/-- What is decided outside about one call: its failure, and what the market answers. -/
structure Reply where
  fails : Option String := none
  tokens : ResolvedTokens := ⟨"up", "down"⟩
  marketTokens : Option ℕ := none
  asks : Option (List BookLevel) := none
  price : ℚ := 0
  refuses : Bool := false

/-- The statuses that leave a decision open to another order. -/
def isRetryable : OrderStatus → Bool
  | .error | .canceled | .expired => true
  | _ => false

namespace World
variable (w : World ι)

def activeSession : Option Session := (w.sessions.filter (·.status.isActive)).getLast?

def fillsOf (sessionId : ℤ) : List Fill := w.ledger.recorded.filter (·.sessionId = sessionId)

def isInactive (n : ℕ) : Bool :=
  (w.ledger.orders[n]?).any fun order => !isActiveOrderStatus order.status

def hasActiveOrder : Bool := w.ledger.orders.any fun order => isActiveOrderStatus order.status

def hasDecisionOrder (id : DecisionId) : Bool :=
  w.ledger.orders.any fun order => !isRetryable order.status && decisionId order.decision = id

def boughtOrder (orderId : ℕ) : Option (AvgReboundDecision × ℚ) :=
  (w.ledger.orders[orderId]?).bind fun order =>
    match order.outcome with
    | .bought average => some (order.decision, average)
    | _ => none

def markSession (sessionId : ℤ) (status : RowStatus) : World ι :=
  { w with
    sessions := w.sessions.map fun session =>
      if session.id = sessionId then { session with status } else session }

def tryLock (i : ι) : Bool × World ι :=
  if w.lock.isNone then (true, { w with lock := some i }) else (false, w)

/-- The unique index refuses a second active session. -/
def insertSession (tokens : TokenResolution) : Except String Session × World ι :=
  if w.activeSession.isSome then
    (.error "duplicate key value violates unique constraint", w)
  else
    let session : Session := ⟨w.sessions.length + 1, .working .buildingPrimary, tokens⟩
    (.ok session, { w with sessions := w.sessions ++ [session] })

/-- `execute_action_place_order`, which may refuse the child order. -/
def createOrder (decision : AvgReboundDecision) (refuses : Bool) : Option ℕ × World ι :=
  if refuses then (none, w)
  else (some w.ledger.orders.length, { w with ledger := w.ledger.place decision })

end World

variable [DecidableEq ι]

def answer (i : ι) (w : World ι) (r : Reply) : (c : Call) → Except String (Answer c) × World ι
  | .tryLock => (.ok (w.tryLock i).1, (w.tryLock i).2)
  | .release => (.ok (), { w with lock := none })
  | .hasActiveOrder =>
    (.ok w.hasActiveOrder,
      { w with
        inactive := Function.update w.inactive i
          ((List.range w.ledger.orders.length).filter w.isInactive) })
  | .resolveTokens => (.ok r.tokens, w)
  | .marketTokens _ => (.ok r.marketTokens, w)
  | .loadActiveSession => (.ok w.activeSession, w)
  | .insertSession tokens => w.insertSession tokens
  | .orderBook _ => (.ok r.asks, w)
  | .loadFills sessionId =>
    (.ok (w.fillsOf sessionId),
      { w with
        settledRead := Function.update w.settledRead i ((w.inactive i).all w.ledger.settled) })
  | .markSession sessionId status => (.ok (), w.markSession sessionId status)
  | .oppositePrice _ => (.ok r.price, w)
  | .hasDecisionOrder id => (.ok (w.hasDecisionOrder id), w)
  | .createOrder decision =>
    (.ok (w.createOrder decision r.refuses).1, (w.createOrder decision r.refuses).2)
  | .appendEvent _ => (.ok (), w)
  | .boughtOrder orderId => (.ok (w.boughtOrder orderId), w)
  | .orderStep orderId step => (.ok (), { w with ledger := w.ledger.update orderId step.apply })
  | .insertFill orderId fill =>
    (.ok (orderId ∉ w.ledger.fills.map Prod.fst),
      { w with ledger := w.ledger.insertFill orderId fill })
  | .fillRecorded _ status lockedPnl =>
    (.ok (),
      { w with completions := w.completions ++ if status = .locked then [lockedPnl] else [] })

/-- The release of the lock passes no failure on. -/
def failure : (c : Call) → String → Except String (Answer c)
  | .release, _ => .ok ()
  | _, err => .error err

/-- A call can fail, which leaves the tables as they were. -/
def act (i : ι) (c : Call) (w : World ι) (r : Reply) : Except String (Answer c) × World ι :=
  match r.fails with
  | some err => (failure c err, w)
  | none => answer i w r c

/-- Any number of executions and finalisations of a node and market. -/
def sessionPool (task : ι → Task) : Pool ι Call Answer String (World ι) where
  world := {}
  thread i := (task i).job

/-! ### The law of a run -/

/-- The opposite side stays covered, no tier, leg or rescue is bought twice, there is one session,
and the result locked at its completion is the result of the recorded fills. -/
structure RunInvariants (w : World ι) : Prop where
  covered : qtyOf .opposite w.ledger.recorded ≤ qtyOf .primary w.ledger.recorded
  once : w.ledger.orders.Pairwise fun order order' =>
    order.isBought = true → order'.isBought = true → order.decision.key ≠ order'.decision.key
  session : w.sessions.length ≤ 1
  lockedPnl : ∀ lockedPnl ∈ w.completions, lockedPnl = pairedPnl w.ledger.recorded

/-- When an order is placed, the orders that were found inactive before had been settled when the
fills were read: their fills were recorded, or they had ended unfilled. -/
def PlacedOnSettled (i : ι) (c : Call) (w : World ι) (r : Reply) : Prop :=
  match c with
  | .createOrder _ => r.fails.isSome ∨ r.refuses = true ∨ w.settledRead i = true
  | _ => True

instance (i : ι) (c : Call) (w : World ι) (r : Reply) : Decidable (PlacedOnSettled i c w r) := by
  unfold PlacedOnSettled
  split <;> infer_instance

end PolymarketBot.AvgRebound.Sessions
