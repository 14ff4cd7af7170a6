import PolymarketBot.Builder.Order
import PolymarketBot.Lib.Grid

/-! Share rounding, remaining sizes, fill quantities and prices of one builder order. -/

namespace PolymarketBot.Builder
open Lib

inductive ExchangeStatus | opened | partiallyFilled | filled | canceled | rejected | expired
  deriving DecidableEq, Repr

def ExchangeStatus.toOrderStatus : ExchangeStatus → OrderStatus
  | opened => .opened
  | partiallyFilled => .partiallyFilled
  | filled => .filled
  | canceled => .canceled
  | rejected => .rejected
  | expired => .expired

structure OrderInfo where
  status : ExchangeStatus
  size : Option ℚ
  filledSize : Option ℚ
  price : Option ℚ
  deriving DecidableEq, Repr

def roundTradeBuilderShareQty (value : ℚ) : ℚ := ⌊max value 0 * 100 + 1 / 2⌋ / 100

theorem roundTradeBuilderShareQty_nonneg (q : ℚ) : 0 ≤ roundTradeBuilderShareQty q := by
  have hfloor : (0 : ℤ) ≤ ⌊max q 0 * 100 + 1 / 2⌋ := Int.floor_nonneg.mpr (by positivity)
  unfold roundTradeBuilderShareQty
  positivity

theorem roundTradeBuilderShareQty_le_iff {q : ℚ} (hq : 0 ≤ q) :
    roundTradeBuilderShareQty q ≤ q ↔ Int.fract (q * 100) < 1 / 2 := by
  rw [← floor_add_half_le_iff, roundTradeBuilderShareQty, max_eq_left hq,
    div_le_iff₀ (by norm_num : (0 : ℚ) < 100)]

theorem roundTradeBuilderShareQty_mono {x y : ℚ} (h : x ≤ y) :
    roundTradeBuilderShareQty x ≤ roundTradeBuilderShareQty y := by
  have hscale : max x 0 * 100 + 1 / 2 ≤ max y 0 * 100 + 1 / 2 := by
    linarith [max_le_max_right 0 h]
  unfold roundTradeBuilderShareQty
  exact div_le_div_of_nonneg_right (by exact_mod_cast Int.floor_mono hscale) (by norm_num)

theorem roundTradeBuilderShareQty_round (q : ℚ) :
    roundTradeBuilderShareQty (roundTradeBuilderShareQty q) = roundTradeBuilderShareQty q := by
  rw [roundTradeBuilderShareQty, max_eq_left (roundTradeBuilderShareQty_nonneg q)]
  unfold roundTradeBuilderShareQty
  congr 1
  norm_num

theorem roundTradeBuilderShareQty_max (q : ℚ) :
    roundTradeBuilderShareQty (max q 0) = roundTradeBuilderShareQty q := by
  simp [roundTradeBuilderShareQty]

theorem roundTradeBuilderShareQty_onGrid (q : ℚ) : OnGrid 100 (roundTradeBuilderShareQty q) :=
  ⟨_, rfl⟩

theorem round_of_onGrid {q : ℚ} (hq : OnGrid 100 q) (h0 : 0 ≤ q) :
    roundTradeBuilderShareQty q = q := by
  obtain ⟨k, rfl⟩ := hq
  have hfloor : ⌊(k : ℚ) / 100 * 100 + 1 / 2⌋ = k := by
    rw [div_mul_cancel₀ _ (by norm_num), Int.floor_intCast_add]
    norm_num
  rw [roundTradeBuilderShareQty, max_eq_left h0, hfloor]

def floorTradeBuilderShareQty (value : ℚ) : ℚ := ⌊max value 0 * 100⌋ / 100

def clampProbability (value : ℚ) : ℚ := max (1 / 100) (min (99 / 100) value)

theorem clampProbability_bounds (value : ℚ) :
    1 / 100 ≤ clampProbability value ∧ clampProbability value ≤ 99 / 100 := by
  constructor
  · exact le_max_left _ _
  · exact max_le (by norm_num) (min_le_left _ _)

theorem clampProbability_idem (value : ℚ) :
    clampProbability (clampProbability value) = clampProbability value := by
  obtain ⟨hlow, hhigh⟩ := clampProbability_bounds value
  rw [clampProbability.eq_1 (clampProbability value), min_eq_right hhigh, max_eq_right hlow]

/-- Share quantities up to this much count as nothing left to sell. -/
def tradeBuilderExitQtyTolerance : ℚ := 11 / 1000

def tradeBuilderExitRetryMinDecrement : ℚ := 1 / 100

def minPriceDistanceToProbability (minPriceDistanceCent : ℚ) : ℚ :=
  max (minPriceDistanceCent / 100) (1 / 10000)

def aggressivePriceForSide (side : Side) (currentPrice minPriceDistanceCent : ℚ) : ℚ :=
  match side with
  | .sell => clampProbability (currentPrice - minPriceDistanceToProbability minPriceDistanceCent)
  | .buy => clampProbability (currentPrice + minPriceDistanceToProbability minPriceDistanceCent)

def calcLevelSize (levelNotional price : ℚ) : ℚ :=
  if price ≤ 0 then 0
  else if 0 ≤ levelNotional then ⌊levelNotional / price * 100 + 1 / 2⌋ / 100
  else ⌈levelNotional / price * 100 - 1 / 2⌉ / 100

theorem calcLevelSize_mul_le_iff {levelNotional price : ℚ} (hl : 0 ≤ levelNotional)
    (hp : 0 < price) : calcLevelSize levelNotional price * price ≤ levelNotional ↔
      Int.fract (levelNotional / price * 100) < 1 / 2 := by
  rw [calcLevelSize, if_neg (not_le.mpr hp), if_pos hl, ← floor_add_half_le_iff,
    ← le_div_iff₀ hp, div_le_iff₀ (by norm_num : (0 : ℚ) < 100)]

theorem calcLevelSize_nonpos {levelNotional price : ℚ} (hl : levelNotional < 0) :
    calcLevelSize levelNotional price ≤ 0 := by
  unfold calcLevelSize
  split_ifs with hp hl'
  · exact le_refl 0
  · exact absurd hl' (not_le.mpr hl)
  · have hneg : levelNotional / price < 0 := div_neg_of_neg_of_pos hl (not_le.mp hp)
    have hceil : ⌈levelNotional / price * 100 - 1 / 2⌉ ≤ 0 := by
      rw [Int.ceil_le]
      push_cast
      linarith
    have hcast : ((⌈levelNotional / price * 100 - 1 / 2⌉ : ℤ) : ℚ) ≤ 0 := by exact_mod_cast hceil
    linarith

def normalizeTradeBuilderReferencePrice (value : Option ℚ) : Option ℚ :=
  value.filter (0 < ·)

def normalizeTradeBuilderTerminalFillQtyCandidate (value : Option ℚ) : Option ℚ :=
  ((value.filter (0 < ·)).map roundTradeBuilderShareQty).filter (0 < ·)

theorem terminalFillQtyCandidate_iff {value : Option ℚ} {qty : ℚ} :
    normalizeTradeBuilderTerminalFillQtyCandidate value = some qty ↔
      ∃ v, value = some v ∧ 0 < v ∧ roundTradeBuilderShareQty v = qty ∧ 0 < qty := by
  unfold normalizeTradeBuilderTerminalFillQtyCandidate
  simp only [Option.filter_eq_some_iff, Option.map_eq_some_iff, decide_eq_true_eq]
  constructor
  · rintro ⟨⟨v, ⟨hv, hpos⟩, hround⟩, hqty⟩
    exact ⟨v, hv, hpos, hround, hqty⟩
  · rintro ⟨v, hv, hpos, hround, hqty⟩
    exact ⟨⟨v, ⟨hv, hpos⟩, hround⟩, hqty⟩

theorem terminalFillQtyCandidate_idem {value : Option ℚ} {qty : ℚ}
    (h : normalizeTradeBuilderTerminalFillQtyCandidate value = some qty) :
    normalizeTradeBuilderTerminalFillQtyCandidate (some qty) = some qty := by
  obtain ⟨v, -, -, rfl, hqty⟩ := terminalFillQtyCandidate_iff.mp h
  exact terminalFillQtyCandidate_iff.mpr
    ⟨_, rfl, hqty, roundTradeBuilderShareQty_round v, hqty⟩

theorem roundTradeBuilderShareQty_close {v : ℚ} (h : 0 ≤ v) :
    |roundTradeBuilderShareQty v - v| ≤ 1 / 200 := by
  have hlow := Int.floor_le (v * 100 + 1 / 2)
  have hhigh := Int.lt_floor_add_one (v * 100 + 1 / 2)
  rw [roundTradeBuilderShareQty, max_eq_left h, abs_le]
  constructor <;> linarith

def normalizeTradeBuilderVisibleInventoryQty (value : Option ℚ) : Option ℚ :=
  (value.filter (0 ≤ ·)).map roundTradeBuilderShareQty

/-- An inventory that is not reported counts as empty. -/
def normalizeTradeBuilderVisibleInventoryRead (quantity : Option ℚ) : Option ℚ :=
  quantity.elim (some 0) fun raw => normalizeTradeBuilderVisibleInventoryQty (some raw)

/-- The first visible inventory of the order seeds its position; without it the entry does. -/
def tradeBuilderParentPositionSeedQty (seed : Option ℚ) (canonicalEntryQty : ℚ) : ℚ :=
  (normalizeTradeBuilderVisibleInventoryQty seed).getD
    (roundTradeBuilderShareQty canonicalEntryQty)

def tradeBuilderFeeRateBpsOrDefault (raw : ℤ) : ℤ := if 0 < raw then raw else 1000

def estimateTradeBuilderBuyFeeShares (executionPrice grossQty : ℚ) (feeRateBps : ℤ) : ℚ :=
  if executionPrice ≤ 0 ∨ grossQty ≤ 0 ∨ feeRateBps = 0 then 0
  else
    let feeCurveRate : ℚ := feeRateBps / 4000
    let curveInput := max 0 (min 1 (executionPrice * (1 - executionPrice)))
    max (grossQty * feeCurveRate * curveInput ^ 2 / executionPrice) 0

def tradeBuilderShareRequestQty (order : TradeBuilderOrder) : Option ℚ :=
  ((order.remainingQty.or order.targetQty).map roundTradeBuilderShareQty).filter (0 < ·)

/-- The remaining notional and, for share orders, the remaining quantity. -/
def estimateRemainingTradeBuilderSizing (order : TradeBuilderOrder) (orderInfo : OrderInfo)
    (fallbackPrice : ℚ) : Option ℚ × Option ℚ :=
  match orderInfo.size, orderInfo.filledSize with
  | some orderSize, some filledSize =>
    let remainingQty := roundTradeBuilderShareQty (max (orderSize - filledSize) 0)
    let price := (orderInfo.price.or order.workingPrice).getD fallbackPrice
    (some (max (remainingQty * price) 0),
      if order.sizeBasis = .shares then some remainingQty else none)
  | _, _ =>
    if order.sizeBasis = .shares then
      ((tradeBuilderShareRequestQty order).map (· * fallbackPrice),
        tradeBuilderShareRequestQty order)
    else
      (some (max (order.remainingSize.getD order.sizeUsdc) 0), none)

def clampTradeBuilderVisibleShareQty (requestedQty : ℚ) (availableQty : Option ℚ) : Option ℚ :=
  let clamped := floorTradeBuilderShareQty
    (match availableQty with
      | some quantity => min requestedQty quantity
      | none => requestedQty)
  if 0 < clamped then some clamped else none

def tradeBuilderRetryQtyIsLower (previousQty nextQty : ℚ) : Bool :=
  0 < nextQty && nextQty < previousQty &&
    tradeBuilderExitRetryMinDecrement ≤ roundTradeBuilderShareQty (previousQty - nextQty)

def tradeBuilderNextRetryShareQty (requestedQty : ℚ) : Option ℚ :=
  let shaved := floorTradeBuilderShareQty (max (requestedQty - tradeBuilderExitRetryMinDecrement) 0)
  if tradeBuilderRetryQtyIsLower requestedQty shaved then some shaved else none

inductive TerminalFillQtySource | orderInfoFilledSize | orderInfoSize | storedOrderSize
  deriving DecidableEq, Repr

/-- The first usable candidate: the reported fill, the reported size, the stored size. -/
def selectTradeBuilderTerminalFillQty (orderInfo : OrderInfo) (storedOrderSize : Option ℚ) :
    Option (ℚ × TerminalFillQtySource) :=
  ((normalizeTradeBuilderTerminalFillQtyCandidate orderInfo.filledSize).map
      (·, .orderInfoFilledSize)).or <|
    ((normalizeTradeBuilderTerminalFillQtyCandidate orderInfo.size).map (·, .orderInfoSize)).or <|
      (normalizeTradeBuilderTerminalFillQtyCandidate storedOrderSize).map (·, .storedOrderSize)

inductive EntryQtySource | cumulativeFillQty | submittedDynamicQty | actualFillQty
  deriving DecidableEq, Repr

def tradeBuilderCumulativeFillQty (order : TradeBuilderOrder) (latestFillQty : Option ℚ) :
    Option ℚ :=
  if tradeBuilderShouldTrackBuyInventoryObservation order = false ∨ order.filledQty ≤ 0 then
    none
  else
    ((normalizeTradeBuilderTerminalFillQtyCandidate latestFillQty).map fun latest =>
      roundTradeBuilderShareQty (order.filledQty + latest)).filter (0 < ·)

def tradeBuilderSubmittedDynamicQty (order : TradeBuilderOrder) : Option ℚ :=
  normalizeTradeBuilderTerminalFillQtyCandidate order.submittedDynamicQty

def tradeBuilderCanonicalEntryQty (order : TradeBuilderOrder) (fallbackQty : Option ℚ) :
    Option (ℚ × EntryQtySource) :=
  let tracked : Option (ℚ × EntryQtySource) :=
    if tradeBuilderShouldTrackBuyInventoryObservation order then
      ((tradeBuilderCumulativeFillQty order fallbackQty).map (·, .cumulativeFillQty)).or
        ((tradeBuilderSubmittedDynamicQty order).map (·, .submittedDynamicQty))
    else none
  tracked.or
    ((normalizeTradeBuilderTerminalFillQtyCandidate fallbackQty).map (·, .actualFillQty))

def tradeBuilderPriceExceedsMaxPrice (order : TradeBuilderOrder) (desiredPrice : ℚ) : Bool :=
  order.maxPrice.any (· < desiredPrice)

def tradeBuilderPriceBelowGuardTrigger (order : TradeBuilderOrder) (referencePrice : ℚ) : Bool :=
  order.side == .buy && order.guardTriggerPrice.any (referencePrice < ·)

def tradeBuilderResolveTriggerGuardReferencePrice (order : TradeBuilderOrder) (currentPrice : ℚ)
    (bestAsk : Option ℚ) : ℚ :=
  match order.side with
  | .sell => currentPrice
  | .buy => clampProbability ((normalizeTradeBuilderReferencePrice bestAsk).getD currentPrice)

/-- Every execution mode is "market", so each buy order is a market buy. -/
def tradeBuilderMarketBuyExecutionPrice (order : TradeBuilderOrder) (currentPrice : ℚ)
    (bestAsk : Option ℚ) : Option ℚ :=
  match order.side with
  | .sell => none
  | .buy =>
    ((normalizeTradeBuilderReferencePrice bestAsk).map clampProbability).or
      (if order.kind = .immediate ∧ order.sizeBasis = .notionalUsdc then
        some (clampProbability currentPrice)
      else none)

def tradeBuilderClampBuyLimitPrice (order : TradeBuilderOrder) (desiredPrice : ℚ) : ℚ :=
  match order.side with
  | .sell => desiredPrice
  | .buy =>
    ((order.maxPrice.filter fun maxPrice => 0 < maxPrice ∧ maxPrice ≤ 1).map
      (min desiredPrice)).getD desiredPrice

end PolymarketBot.Builder
