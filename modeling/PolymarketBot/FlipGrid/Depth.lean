import Mathlib.Data.List.Sort
import Mathlib.Data.Rat.Floor

/-! The depth guard of the flip grid: what the ask side of a book shows for a quantity. -/

namespace PolymarketBot.FlipGrid

def slack : ℚ := 1 / 1000000

theorem slack_pos : 0 < slack := by norm_num [slack]

/-- A level of a book; levels that are not finite are left out. -/
structure OrderBookLevel where
  price : ℚ
  size : ℚ

structure OrderBookSnapshot where
  bids : List OrderBookLevel
  asks : List OrderBookLevel

structure DepthPayload where
  result : String
  reason : Option String
  depthGuardEnabled : Bool
  bestAsk : ℚ
  worstPrice : ℚ
  intendedQty : ℚ
  filledQty : ℚ
  visibleAskQty : Option ℚ
  estimatedAvgFill : Option ℚ
  depthLevelsUsed : Option ℕ

structure DepthCheck where
  blocked : Bool
  estimatedAvgFill : Option ℚ
  payload : DepthPayload

/-- The levels within the worst price, the cheapest first. -/
def depthLevels (asks : List OrderBookLevel) (worstPrice : ℚ) : List OrderBookLevel :=
  (asks.filter fun level => 0 < level.price ∧ 0 < level.size ∧
    level.price ≤ worstPrice + slack).insertionSort (·.price ≤ ·.price)

structure DepthWalk where
  remainingQty : ℚ
  filledQty : ℚ
  cost : ℚ
  levelsUsed : ℕ

def depthWalk : List OrderBookLevel → DepthWalk → DepthWalk
  | [], walk => walk
  | level :: levels, walk =>
    if walk.remainingQty ≤ slack then walk
    else
      let takeQty := min walk.remainingQty level.size
      depthWalk levels
        { remainingQty := walk.remainingQty - takeQty
          filledQty := walk.filledQty + takeQty
          cost := walk.cost + takeQty * level.price
          levelsUsed := walk.levelsUsed + 1 }

def evaluateDepth (enabled : Bool) (orderBook : Option OrderBookSnapshot)
    (bestAsk intendedQty worstPrice : ℚ) : DepthCheck :=
  if !enabled then
    { blocked := false
      estimatedAvgFill := some bestAsk
      payload := ⟨"pass", some "disabled", false, bestAsk, worstPrice, intendedQty, intendedQty,
        none, some bestAsk, none⟩ }
  else
    match orderBook with
    | none =>
      { blocked := true
        estimatedAvgFill := none
        payload := ⟨"blocked", some "depth_unavailable", true, bestAsk, worstPrice, intendedQty, 0,
          none, none, none⟩ }
    | some book =>
      let levels := depthLevels book.asks worstPrice
      let visibleAskQty := (levels.map fun level => max level.size 0).sum
      let walk := depthWalk levels ⟨intendedQty, 0, 0, 0⟩
      if walk.filledQty + slack < intendedQty then
        { blocked := true
          estimatedAvgFill := none
          payload := ⟨"blocked", some "insufficient_visible_ask_depth", true, bestAsk, worstPrice,
            intendedQty, walk.filledQty, some visibleAskQty, none, some walk.levelsUsed⟩ }
      else
        let avgFill := walk.cost / walk.filledQty
        { blocked := false
          estimatedAvgFill := some avgFill
          payload := ⟨"pass", none, true, bestAsk, worstPrice, intendedQty, walk.filledQty,
            some visibleAskQty, some avgFill, some walk.levelsUsed⟩ }

theorem evaluateDepth_pass {enabled : Bool} {orderBook : Option OrderBookSnapshot}
    {bestAsk intendedQty worstPrice : ℚ}
    (h : (evaluateDepth enabled orderBook bestAsk intendedQty worstPrice).blocked = false) :
    ((evaluateDepth enabled orderBook bestAsk intendedQty worstPrice).estimatedAvgFill).isSome := by
  unfold evaluateDepth at h ⊢
  split_ifs at h ⊢ with henabled
  · rfl
  · cases orderBook with
    | none => cases h
    | some book =>
      dsimp only at h ⊢
      split_ifs at h ⊢
      rfl

end PolymarketBot.FlipGrid
