import PolymarketBot.AvgRebound.Budget
import PolymarketBot.AvgRebound.RunInvariants
import PolymarketBot.ConfidenceLadder.RiskEnvelope
import PolymarketBot.FlipGrid.MarketBudget
import PolymarketBot.Engines.ActiveOrders
import PolymarketBot.Flow.BuyFillLockRuns
import PolymarketBot.Builder.LiveOrder
import PolymarketBot.Builder.CancelRequest
import PolymarketBot.Builder.ReplaceTarget
import PolymarketBot.Builder.ParentInventory
import PolymarketBot.Exchange.ClobAmounts
import PolymarketBot.PairLock.CounterRelease
import PolymarketBot.Positions.ChildSells
import PolymarketBot.Positions.FirstVisible
import PolymarketBot.Positions.FlipGridLedgers
import PolymarketBot.PairLock.StillForSale
import PolymarketBot.Builder.LadderSync
import PolymarketBot.Flow.StepKeys
import PolymarketBot.Flow.ReentryGuard
import PolymarketBot.Flow.DeferredOnceTtl
import PolymarketBot.Flow.OnceMarks
import PolymarketBot.Flow.RetryBudget
import PolymarketBot.RevengeFlip.Accounting
import PolymarketBot.RevengeFlip.EntryExclusion
import PolymarketBot.RevengeFlip.Shape
import PolymarketBot.Flow.StepQueueLaw
import PolymarketBot.Flow.TimerProgress
import PolymarketBot.Reconcile.FillsKept
import PolymarketBot.DualSide.LegOversell
import PolymarketBot.AvgRebound.VwapWalk
import PolymarketBot.Builder.LadderMinSize
import PolymarketBot.ConfidenceLadder.HedgeSizing
import PolymarketBot.Flow.CycleWindowAgreement
import PolymarketBot.RevengeFlip.RecoverySizing
import PolymarketBot.Workflow.BuySizing
import PolymarketBot.Builder.PreemptedQty
import PolymarketBot.Builder.OcoExclusion
import PolymarketBot.Builder.DoubleSubmit
import PolymarketBot.Builder.ExitTriggerPaths
import PolymarketBot.FlipGrid.DepthWalk
import PolymarketBot.FlipGrid.PairlockCompression
import PolymarketBot.Flow.JsonLogic
import PolymarketBot.Flow.RetryBackoff
import PolymarketBot.Flow.StagedReentry
import PolymarketBot.Flow.UnderlyingProtection
import PolymarketBot.Flow.UpstreamTrigger
import PolymarketBot.PairLock.CounterBudget
import PolymarketBot.Lib.Holes
import PolymarketBot.Lib.Median
import PolymarketBot.Builder.MinNotional
import PolymarketBot.Builder.TerminalFill
import PolymarketBot.Builder.FillBackfill
import PolymarketBot.Builder.FillBackfillLaw
import PolymarketBot.Exchange.TradePage
import PolymarketBot.Exchange.YesNoTokens
import PolymarketBot.PriceToBeat.StopLoss
import PolymarketBot.PriceToBeat.StopLossDecision
import PolymarketBot.PriceToBeat.StopLossMoves
import PolymarketBot.PriceToBeat.StopLossMirror
import PolymarketBot.PriceToBeat.StopLossLaw
import PolymarketBot.AutoClaim.Laws
import PolymarketBot.AutoClaim.MultiSend
import PolymarketBot.MarketFeed.Seen
import PolymarketBot.MarketFeed.Quotes
import PolymarketBot.Editor.Chains
import PolymarketBot.Chainlink.Window
import PolymarketBot.Chainlink.Details
import PolymarketBot.Chainlink.Reconnect
import PolymarketBot.PriceCache.Finality
import PolymarketBot.PriceCache.Pacing
