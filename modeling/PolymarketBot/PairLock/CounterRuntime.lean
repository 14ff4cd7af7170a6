import PolymarketBot.Builder.Process
import PolymarketBot.PairLock.Session

/-! What the pair-lock session makes of a leg at the head of its pass: the decision that the
builder's pass takes as an answer, computed from the rows it is made of. -/

namespace PolymarketBot.PairLock
open Lib Builder

/-- How the biased-hedge runtime of a counter leg ends its pass. -/
inductive BiasedHedgeEnd
  | cancels (reason : String)
  | waits
  | clamps (hedgeNotional : ℚ) (targetQty : Option ℚ)
  deriving DecidableEq, Repr

/-- The rows a pass of a leg finds. The node configuration is read from the flow version of
the session; the biased-hedge runtime of such a node may end the pass before anything else. -/
structure LegPass where
  session : TradeBuilderPairSession
  order : TradeBuilderOrder
  config : Option PairLockConfig
  biasedHedge : Option BiasedHedgeEnd := none
  primary : Option TradeBuilderOrder := none
  marketEnd : Option ℤ := none
  now : ℤ := 0
  deriving DecidableEq, Repr

inductive CounterDecision
  /-- The pass ends here with what is done to the row. -/
  | ends (action : PairLockAction)
  | rebases (rebalance : AutoCounterRebalance) (eligibleBeforeAt : Option ℤ)
  /-- The pass goes on to the submit or reconcile path, with this cap on the price. -/
  | proceeds (counterCap : Option ℚ)
  deriving DecidableEq, Repr

def CounterDecision.toAction : CounterDecision → PairLockAction
  | ends action => action
  | rebases r eligibleBeforeAt =>
    .rebase r.sizeBasis r.sizeUsdc r.targetQty r.remainingSize r.remainingQty eligibleBeforeAt
  | proceeds counterCap => .proceed counterCap

namespace LegPass
variable (p : LegPass)

/-- A leg that was submitted already is no longer clamped. -/
def biasedHedgeDecision : BiasedHedgeEnd → Option CounterDecision
  | .cancels reason => some (.ends (.cancel reason))
  | .waits => some (.ends .wait)
  | .clamps hedgeNotional targetQty =>
    if autoCounterHasStartedSubmitLifecycle p.order then none
    else some (.ends (.rebase .notionalUsdc hedgeNotional targetQty (some hedgeNotional)
      targetQty p.order.eligibleBeforeAt))

def counterShouldWaitForLead : Bool :=
  p.session.status == .working && p.session.counterOrderId == some p.order.id &&
    p.session.leadOrderId.isNone

def pairQtyTolerance : ℚ := 1 / 10000

def primaryDoneWithoutLeadFill (primary : TradeBuilderOrder) : Bool :=
  primary.filledQty ≤ pairQtyTolerance &&
    (primary.status == .error || tradeBuilderIsTerminalStatus primary.status)

def holdCounterUntilLead : Option CounterDecision :=
  if ¬ p.counterShouldWaitForLead then none
  else if p.session.primaryOrderId.isSome ∧ p.primary.any primaryDoneWithoutLeadFill then
    some (.ends (.cancel "pair_primary_failed_before_fill"))
  else some (.ends .hold)

/-- Without a protective unwind an exhausted budget closes the session and cancels the row. -/
def budgetExhausted (config : PairLockConfig) : CounterDecision :=
  if config.protectiveUnwindEnabled then .ends .unwind
  else .ends (.cancel "pair_budget_exhausted")

def counterEligibleBeforeAt (config : PairLockConfig) : Option ℤ :=
  if config.counterWaitsUntilMarketEnd p.marketEnd then p.marketEnd else p.order.eligibleBeforeAt

def prepareAutoCounter (config : PairLockConfig) : Option CounterDecision :=
  if p.session.counterOrderId ≠ some p.order.id then none
  else if config.sizingMode ≠ .autoRemainingBudget then none
  else if p.session.leadOrderId.isNone then some (.ends .wait)
  else
    match config.totalBudgetUsdc with
    | none => some (.ends .wait)
    | some totalBudgetUsdc =>
      match p.session.remainingBudgetUsdc totalBudgetUsdc with
      | none => some (budgetExhausted config)
      | some remainingBudgetUsdc =>
        let rebalance := resolveAutoCounterRebalance p.session remainingBudgetUsdc
        if autoCounterNeedsRebase p.order rebalance (p.counterEligibleBeforeAt config) then
          some (.rebases rebalance (p.counterEligibleBeforeAt config))
        else none

def orphanGraceElapsed (config : PairLockConfig) (leadFilledAt : ℤ) : Bool :=
  config.protectiveUnwindEnabled && !config.counterWaitsUntilMarketEnd p.marketEnd &&
    leadFilledAt + p.session.orphanGraceMs ≤ p.now

/-- The leg that does not lead is capped, and unwound when the grace period is over. -/
def capOrUnwind (config : PairLockConfig) : CounterDecision :=
  match p.session.leadOrderId, p.session.leadFilledAt with
  | some leadOrderId, some leadFilledAt =>
    if p.session.status = .working ∧ leadOrderId ≠ p.order.id then
      if p.orphanGraceElapsed config leadFilledAt then .ends .unwind
      else .proceeds p.session.effectiveCounterCap
    else .proceeds none
  | _, _ => .proceeds none

def applyRuntime : CounterDecision :=
  match p.config with
  | none => .proceeds none
  | some config =>
    if p.session.status.isClosed then .ends .sessionClosed
    else
      (p.biasedHedge.bind p.biasedHedgeDecision).or (p.holdCounterUntilLead.or (p.prepareAutoCounter config))
        |>.getD (p.capOrUnwind config)

def maxPrice (counterCap : Option ℚ) : Option ℚ :=
  (counterCap.elim p.order (capPrice p.order)).maxPrice

end LegPass

end PolymarketBot.PairLock
