import PolymarketBot.FlipGrid.CandidateSafety

/-! The market budget over every candidate, a partial recovery among them. -/

namespace PolymarketBot.FlipGrid
open Positions (GridSide)
variable {config : GridConfig} {state : GridState} {quote : GridQuote} {gate : PriceGate}
  {orderBook : Option OrderBookSnapshot} {availableCollateralUsdc : Option ℚ}
  {completionOnly : Bool} {stop : RiskStop} {candidate : BuyCandidate}

/-! ### What a recovery spends -/

/-- What a recovery has passed. -/
structure Recovers (config : GridConfig) (completionOnly : Bool) (stop : RiskStop) : Prop where
  enabled : config.partialRecoveryEnabled = true
  completion : completionOnly = true
  mode : config.quantitySizingMode = .profitTarget
  leave : stop.reason = .maxTotalSpentPerMarketUsdc →
    config.partialRecoveryIgnoreMarketBudget = true

theorem Recovers.single (h : Recovers config completionOnly stop)
    (hignore : config.partialRecoveryIgnoreMarketBudget = false) :
    stop.reason = .maxSingleBuyUsdc := by
  cases hreason : stop.reason with
  | maxSingleBuyUsdc => rfl
  | maxTotalSpentPerMarketUsdc =>
    rw [h.leave hreason] at hignore
    cases hignore

end PolymarketBot.FlipGrid
