import PolymarketBot.Builder.Submit
import PolymarketBot.Flow.Json

/-! The minimum-notional top-up of a marketable share buy, and the two paths that apply it:
the submit of a buy and the replacement of an open one. -/

namespace PolymarketBot.Builder
open Lib

inductive OrderType | fak | fok | ioc | gtc | gtd
  deriving DecidableEq, Repr

def normalizeTradeBuilderClobOrderType (raw : String) : Option OrderType :=
  match String.ofList ((Flow.trim raw).toList.map Char.toUpper) with
  | "FOK" => some .fok
  | "FAK" | "IOC" => some .fak
  | "GTC" => some .gtc
  | "GTD" => some .gtd
  | _ => none

/-- Every execution mode normalises to "market". -/
def clobOrderTypeForExecutionMode : OrderType := .ioc

/-- The type the flow asked for when it created the order, if it reads as one. -/
def resolveTradeBuilderSubmitOrderType (flowCreated : Option String) : OrderType :=
  (flowCreated.bind normalizeTradeBuilderClobOrderType).getD clobOrderTypeForExecutionMode

structure MinNotionalTopUp where
  originalQty : ℚ
  adjustedQty : ℚ
  originalNotionalUsdc : ℚ
  adjustedNotionalUsdc : ℚ
  minNotionalUsdc : ℚ
  capUsdc : ℚ
  capToleranceUsdc : ℚ
  blockedByCap : Bool
  deriving DecidableEq, Repr

def tradeBuilderMarketableBuyMinNotionalUsdc : ℚ := 1

def tradeBuilderMarketableBuyMinNotionalCapToleranceUsdc : ℚ := 1 / 100

def tradeBuilderMarketableBuyMinNotionalTopUp (side : Side) (orderType : OrderType)
    (sizeBasis : SizeBasis) (desiredPrice submitQty capUsdc : ℚ) : Option MinNotionalTopUp :=
  if side ≠ .buy ∨ sizeBasis ≠ .shares ∨ (orderType ≠ .fak ∧ orderType ≠ .fok) ∨
      desiredPrice ≤ 0 ∨ submitQty ≤ 0 then none
  else if tradeBuilderMarketableBuyMinNotionalUsdc ≤ submitQty * desiredPrice + 1 / 1000000 then
    none
  else
    let adjustedQty := roundTradeBuilderShareQty
      (⌈tradeBuilderMarketableBuyMinNotionalUsdc / desiredPrice * 100⌉ / 100)
    some { originalQty := submitQty, adjustedQty
           originalNotionalUsdc := submitQty * desiredPrice
           adjustedNotionalUsdc := adjustedQty * desiredPrice
           minNotionalUsdc := tradeBuilderMarketableBuyMinNotionalUsdc
           capUsdc
           capToleranceUsdc := tradeBuilderMarketableBuyMinNotionalCapToleranceUsdc
           blockedByCap := capUsdc + tradeBuilderMarketableBuyMinNotionalCapToleranceUsdc <
             adjustedQty * desiredPrice }

/-- Why a look at a buy places nothing. -/
inductive BuyStop
  | failed
  | kept
  | completed
  | waits (reason : String)
  | canceled (reason : String)
  | blocked (reason : String)
  | error (reason : String)
  | finalized
  deriving DecidableEq, Repr

inductive BuyOutcome
  | stopped (stop : BuyStop)
  | placed (price qty : ℚ) (topUp : Option MinNotionalTopUp)
  deriving DecidableEq, Repr

/-- What both paths do right before they place: the cap is the largest of the order's size,
the remaining notional and the notional they hold now. -/
def placeWithTopUp (order : TradeBuilderOrder) (orderType : OrderType) (desiredPrice size : ℚ)
    (remainingUsdc : Option ℚ) : BuyOutcome :=
  let cap := max (max order.sizeUsdc (remainingUsdc.getD 0)) (max (size * desiredPrice) 0)
  match tradeBuilderMarketableBuyMinNotionalTopUp order.side orderType order.sizeBasis
    desiredPrice size cap with
  | none => .placed desiredPrice size none
  | some topUp =>
    if topUp.blockedByCap then .stopped (.error "marketable_buy_min_notional_exceeds_cap")
    else .placed desiredPrice topUp.adjustedQty (some topUp)

/-- The columns the guards of a buy read beside those of the order record. -/
structure BuyGuards where
  marketMode : Bool
  bestAskFloorPrice : Option ℚ
  pairCounterForcesWaiting : Bool

inductive GuardDecision
  | passed
  | waiting (reason : String)
  | blocked (reason : String)
  deriving DecidableEq, Repr

def guardStop (retry : Bool) (reason : String) : GuardDecision :=
  if retry then .waiting reason else .blocked reason

def validBestAsk (bestAsk : Option ℚ) : Option ℚ := bestAsk.filter fun v => 0 < v ∧ v ≤ 1

def executionFloorReason (floor bestAsk : Option ℚ) : Option String :=
  match floor, validBestAsk bestAsk with
  | some _, none => some "best_ask_unavailable"
  | some floor, some ask => if ask < floor then some "below_best_ask_floor" else none
  | none, _ => none

def pairLockMarketWaitingReason (order : TradeBuilderOrder) (guards : BuyGuards)
    (bestAsk : Option ℚ) : Option String :=
  if guards.marketMode ∧ (validBestAsk bestAsk).isNone then
    match order.pairLegRole with
    | some .counterCandidate => some "pair_counter_best_ask_unavailable"
    | some .leadCandidate => some "pair_primary_best_ask_unavailable"
    | _ => none
  else none

/-- The trigger guard reads the best ask, else the current price. -/
def triggerPriceGuardBlocked (order : TradeBuilderOrder) (currentPrice : ℚ)
    (bestAsk : Option ℚ) : Bool :=
  order.guardTriggerPrice.any
    (clampProbability ((normalizeTradeBuilderReferencePrice bestAsk).getD currentPrice) < ·)

def maxPriceBlocked (order : TradeBuilderOrder) (bestAsk : Option ℚ) (desiredPrice : ℚ) : Bool :=
  order.maxPrice.any (· < (validBestAsk bestAsk).getD desiredPrice)

def evaluateTradeBuilderBuyGuards (order : TradeBuilderOrder) (guards : BuyGuards)
    (currentPrice : ℚ) (bestAsk : Option ℚ) (desiredPrice : ℚ) : GuardDecision :=
  let force := guards.pairCounterForcesWaiting
  match pairLockMarketWaitingReason order guards bestAsk with
  | some reason => .waiting reason
  | none =>
    if triggerPriceGuardBlocked order currentPrice bestAsk then
      guardStop (order.retryOnTriggerGuardBlock || force) "below_trigger_price_guard"
    else match executionFloorReason guards.bestAskFloorPrice bestAsk with
      | some reason => guardStop (reason == "best_ask_unavailable" ||
          order.retryOnExecutionFloorGuardBlock || force) reason
      | none =>
        if maxPriceBlocked order bestAsk desiredPrice then
          guardStop (order.retryOnMaxPriceBlock || force) "above_max_price"
        else .passed

/-- The price a buy asks for before its maximum is applied. -/
def buyDesiredPrice (order : TradeBuilderOrder) (currentPrice : ℚ) (bestAsk : Option ℚ) : ℚ :=
  (tradeBuilderMarketBuyExecutionPrice order currentPrice bestAsk).getD
    (aggressivePriceForSide order.side currentPrice order.minPriceDistanceCent)

/-- What a submit of a buy reads on its way. -/
structure SubmitReads where
  currentPrice : ℚ
  bestAsk : Option ℚ
  resolvedSizeUsdc : ℚ
  flowOrderType : Option String
  liveGapRevalidation : GuardDecision
  riskBlocks : Bool
  freshBestAsk : Option ℚ

/-- A FAK buy looks at the book once more and waits unless every guard passes there; for a
share buy the quantity stays, and the remaining notional follows the price. -/
def preSubmitRecheck (order : TradeBuilderOrder) (guards : BuyGuards) (reads : SubmitReads)
    (desiredPrice : ℚ) (sizing : SubmitSizing) : Except BuyStop (ℚ × SubmitSizing) :=
  if order.side = .buy ∧ resolveTradeBuilderSubmitOrderType reads.flowOrderType = .fak then
    let fresh := (normalizeTradeBuilderReferencePrice reads.freshBestAsk).map clampProbability
    let price := buyDesiredPrice order reads.currentPrice fresh
    let sizing := tradeBuilderPreSubmitNotionalSize order.sizeBasis price sizing
    if fresh.isNone then .error (.waits "submit_best_ask_unavailable")
    else match evaluateTradeBuilderBuyGuards order guards reads.currentPrice fresh price with
      | .passed => .ok (price, sizing)
      | .waiting reason | .blocked reason => .error (.waits reason)
  else .ok (desiredPrice, sizing)

/-- Everything a submit of a buy checks before its last price: the price and sizing it is
ready to place with, or where it stops. -/
def submitReady (order : TradeBuilderOrder) (guards : BuyGuards) (reads : SubmitReads) :
    Except BuyStop (ℚ × SubmitSizing) :=
  let desiredPrice := tradeBuilderClampBuyLimitPrice order
    (buyDesiredPrice order reads.currentPrice reads.bestAsk)
  match submitSizing order desiredPrice reads.resolvedSizeUsdc with
  | none => .error .failed
  | some sizing =>
    match evaluateTradeBuilderBuyGuards order guards reads.currentPrice reads.bestAsk
      desiredPrice with
    | .waiting reason => .error (.waits reason)
    | .blocked reason => .error (.canceled reason)
    | .passed =>
      match reads.liveGapRevalidation with
      | .waiting reason => .error (.waits reason)
      | .blocked reason => .error (.canceled reason)
      | .passed =>
        if reads.riskBlocks then .error (.blocked "risk_block")
        else preSubmitRecheck order guards reads desiredPrice sizing

def submitBuy (order : TradeBuilderOrder) (guards : BuyGuards) (reads : SubmitReads) :
    BuyOutcome :=
  match submitReady order guards reads with
  | .error stop => .stopped stop
  | .ok (price, sizing) =>
    placeWithTopUp order (resolveTradeBuilderSubmitOrderType reads.flowOrderType)
      (tradeBuilderClampBuyLimitPrice order price) sizing.size sizing.remainingUsdc

/-- What the replacement of an open buy reads; a cancel that leaves nothing to replace ended
in a fill. -/
structure RepriceReads where
  orderInfo : OrderInfo
  currentPrice : ℚ
  bestAsk : Option ℚ
  cancelFindsFill : Bool

def repriceBuy (order : TradeBuilderOrder) (reads : RepriceReads) : BuyOutcome :=
  let remaining := estimateRemainingTradeBuilderSizing order reads.orderInfo reads.currentPrice
  let desiredPrice := buyDesiredPrice order reads.currentPrice reads.bestAsk
  let size := replaceSize order remaining desiredPrice
  if ¬ shouldReprice order desiredPrice then .stopped .kept
  else if size ≤ 0 then .stopped .completed
  else if tradeBuilderPriceBelowGuardTrigger order
      (tradeBuilderResolveTriggerGuardReferencePrice order reads.currentPrice reads.bestAsk) then
    .stopped (.canceled "below_trigger_price_guard")
  else if tradeBuilderPriceExceedsMaxPrice order desiredPrice then
    .stopped (.canceled "above_max_price")
  else if reads.cancelFindsFill then .stopped .finalized
  else if tradeBuilderShouldSuppressBuyIocReprice order then .stopped .completed
  else placeWithTopUp order clobOrderTypeForExecutionMode desiredPrice size remaining.1

section Price
variable {order : TradeBuilderOrder} {price : ℚ}

theorem buyDesiredPrice_bounds (hbuy : order.side = .buy) (currentPrice : ℚ)
    (bestAsk : Option ℚ) :
    1 / 100 ≤ buyDesiredPrice order currentPrice bestAsk ∧
      buyDesiredPrice order currentPrice bestAsk ≤ 99 / 100 := by
  have hclamp : ∃ v, buyDesiredPrice order currentPrice bestAsk = clampProbability v := by
    simp only [buyDesiredPrice, tradeBuilderMarketBuyExecutionPrice, hbuy]
    cases normalizeTradeBuilderReferencePrice bestAsk with
    | some ask => exact ⟨ask, rfl⟩
    | none =>
      by_cases hnotional : order.kind = .immediate ∧ order.sizeBasis = .notionalUsdc
      · exact ⟨currentPrice, by simp [hnotional]⟩
      · exact ⟨_, by simp [hnotional, aggressivePriceForSide]; rfl⟩
  obtain ⟨v, hv⟩ := hclamp
  exact hv ▸ clampProbability_bounds v

theorem tradeBuilderClampBuyLimitPrice_of_le (h : ∀ m ∈ order.maxPrice, price ≤ m) :
    tradeBuilderClampBuyLimitPrice order price = price := by
  unfold tradeBuilderClampBuyLimitPrice
  cases order.side with
  | sell => rfl
  | buy =>
    cases hmax : order.maxPrice with
    | none => rfl
    | some m =>
      have hle := h m hmax
      by_cases hm : 0 < m ∧ m ≤ 1 <;> simp [Option.filter, hm, hle]

end Price

section TopUp
variable {side : Side} {orderType : OrderType} {sizeBasis : SizeBasis} {price qty cap : ℚ}
  {topUp : MinNotionalTopUp}

theorem tradeBuilderMarketableBuyMinNotionalTopUp_some
    (h : tradeBuilderMarketableBuyMinNotionalTopUp side orderType sizeBasis price qty cap =
      some topUp) :
    side = .buy ∧ sizeBasis = .shares ∧ (orderType = .fak ∨ orderType = .fok) ∧ 0 < price ∧
      0 < qty ∧ qty * price < 1 ∧ topUp.originalQty = qty ∧
      topUp.originalNotionalUsdc = qty * price ∧ topUp.adjustedQty = gridCeil 100 (1 / price) ∧
      topUp.adjustedNotionalUsdc = topUp.adjustedQty * price ∧
      (topUp.blockedByCap = true ↔ cap + 1 / 100 < topUp.adjustedNotionalUsdc) := by
  unfold tradeBuilderMarketableBuyMinNotionalTopUp at h
  split_ifs at h with hguard hnotional
  push Not at hguard
  obtain ⟨hside, hbasis, htype, hprice, hqty⟩ := hguard
  have hceil : 0 ≤ gridCeil 100 (1 / price) :=
    (one_div_pos.mpr hprice).le.trans (le_gridCeil (by norm_num))
  have hround : roundTradeBuilderShareQty
      (⌈tradeBuilderMarketableBuyMinNotionalUsdc / price * 100⌉ / 100) =
        gridCeil 100 (1 / price) := round_of_onGrid gridCeil_onGrid hceil
  have hless : qty * price < 1 := by
    have h1 : qty * price + 1 / 1000000 < 1 := not_le.mp hnotional
    linarith
  obtain rfl := Option.some.inj h
  refine ⟨hside, hbasis, ?_, hprice, hqty, hless, rfl, rfl, hround, rfl, ?_⟩
  · by_cases hfak : orderType = .fak
    · exact .inl hfak
    · exact .inr (htype hfak)
  · exact decide_eq_true_iff

theorem gridCeil_notional (hprice : 0 < price) : 1 ≤ gridCeil 100 (1 / price) * price :=
  (div_le_iff₀ hprice).mp (le_gridCeil (by norm_num))

theorem le_gridCeil_of_notional (hprice : 0 < price) (hless : qty * price < 1) :
    qty ≤ gridCeil 100 (1 / price) :=
  ((lt_div_iff₀ hprice).mpr hless).le.trans (le_gridCeil (by norm_num))

theorem marketableBuyMinNotionalTopUp_eq (order : TradeBuilderOrder) (price : ℚ)
    (sizing : SubmitSizing) :
    marketableBuyMinNotionalTopUp order price sizing =
      (match tradeBuilderMarketableBuyMinNotionalTopUp order.side .fak order.sizeBasis price
        sizing.size (max (max order.sizeUsdc (sizing.remainingUsdc.getD 0))
          (max (sizing.size * price) 0)) with
      | none => pure (some sizing)
      | some topUp => do
        if ← Job.orElse (.check .orderTypeIsFakOrFok) false then
          if topUp.blockedByCap then
            Job.update (.setStatus .error (some (text "marketable_buy_min_notional_exceeds_cap")))
            Job.event "marketable_buy_min_notional_exceeds_cap"
            pure none
          else
            pure (some { sizing with
              size := topUp.adjustedQty, remainingQty := some topUp.adjustedQty
              remainingUsdc := some topUp.adjustedNotionalUsdc })
        else
          pure (some sizing)) := by
  unfold marketableBuyMinNotionalTopUp tradeBuilderMarketableBuyMinNotionalTopUp
  by_cases hsmall : order.side = .buy ∧ order.sizeBasis = .shares ∧ 0 < price ∧
      0 < sizing.size ∧ sizing.size * price + 1 / 1000000 < 1
  · have hguard : ¬ (order.side ≠ .buy ∨ order.sizeBasis ≠ .shares ∨
        (OrderType.fak ≠ .fak ∧ OrderType.fak ≠ .fok) ∨ price ≤ 0 ∨ sizing.size ≤ 0) := by
      obtain ⟨hside, hbasis, hprice, hsize, -⟩ := hsmall
      simp [hside, hbasis, hprice, hsize]
    have hnotional : ¬ tradeBuilderMarketableBuyMinNotionalUsdc ≤
        sizing.size * price + 1 / 1000000 := not_le.mpr hsmall.2.2.2.2
    rw [if_pos hsmall, if_neg hguard, if_neg hnotional]
    simp only [tradeBuilderMarketableBuyMinNotionalUsdc,
      tradeBuilderMarketableBuyMinNotionalCapToleranceUsdc]
    refine bind_congr fun marketable => if_congr Iff.rfl ?_ rfl
    exact if_congr decide_eq_true_iff.symm rfl rfl
  · rw [if_neg hsmall]
    split_ifs with hguard hnotional
    · rfl
    · rfl
    · push Not at hguard
      obtain ⟨hside, hbasis, -, hprice, hsize⟩ := hguard
      exact absurd ⟨hside, hbasis, hprice, hsize, not_le.mp hnotional⟩ hsmall

end TopUp

/-- What a topped-up buy is placed within: at least the minimum notional and the quantity it
had, at most this budget and the cap's tolerance, at a price under the order's maximum. -/
def TopUpWithin (order : TradeBuilderOrder) (budget : MinNotionalTopUp → ℚ)
    (outcome : BuyOutcome) : Prop :=
  ∀ price qty topUp, outcome = .placed price qty (some topUp) →
    tradeBuilderMarketableBuyMinNotionalUsdc ≤ qty * price ∧ topUp.originalQty ≤ qty ∧
      qty * price ≤ budget topUp + tradeBuilderMarketableBuyMinNotionalCapToleranceUsdc ∧
      ∀ m ∈ order.maxPrice, price ≤ m

section Paths
variable {order : TradeBuilderOrder} {guards : BuyGuards} {reads : SubmitReads}
  {orderType : OrderType} {price size : ℚ} {remainingUsdc : Option ℚ}

theorem placeWithTopUp_some {p q : ℚ} {topUp : MinNotionalTopUp}
    (h : placeWithTopUp order orderType price size remainingUsdc = .placed p q (some topUp)) :
    p = price ∧ q = topUp.adjustedQty ∧ topUp.blockedByCap = false ∧
      tradeBuilderMarketableBuyMinNotionalTopUp order.side orderType order.sizeBasis price size
        (max (max order.sizeUsdc (remainingUsdc.getD 0)) (max (size * price) 0)) = some topUp := by
  simp only [placeWithTopUp] at h
  split at h
  case h_1 => simp at h
  case h_2 topUp' htop =>
    split_ifs at h with hblocked
    obtain ⟨rfl, rfl, hsome⟩ := BuyOutcome.placed.inj h
    obtain rfl := Option.some.inj hsome
    exact ⟨rfl, rfl, Bool.eq_false_iff.mpr hblocked, htop⟩

theorem placeWithTopUp_within (hprice : order.side = .buy → ∀ m ∈ order.maxPrice, price ≤ m)
    (hremaining : order.side = .buy → order.sizeBasis = .shares →
      remainingUsdc.getD 0 ≤ max (size * price) 0) :
    TopUpWithin order (fun topUp => max order.sizeUsdc topUp.originalNotionalUsdc)
      (placeWithTopUp order orderType price size remainingUsdc) := by
  intro p q topUp h
  obtain ⟨rfl, rfl, hunblocked, htop⟩ := placeWithTopUp_some h
  obtain ⟨hside, hbasis, -, hpos, hsize, hless, hqty, hnotional, hadjusted, hspent, hblocked⟩ :=
    tradeBuilderMarketableBuyMinNotionalTopUp_some htop
  have hcap : max (max order.sizeUsdc (remainingUsdc.getD 0)) (max (size * p) 0) =
      max order.sizeUsdc topUp.originalNotionalUsdc := by
    have hown : max (size * p) 0 = topUp.originalNotionalUsdc := by
      rw [hnotional, max_eq_left (mul_pos hsize hpos).le]
    rw [max_assoc, max_eq_right (hremaining hside hbasis), hown]
  have hwithin := not_lt.mp (mt hblocked.mpr (by simp [hunblocked]))
  refine ⟨?_, ?_, ?_, hprice hside⟩
  · exact hadjusted ▸ gridCeil_notional hpos
  · exact hqty ▸ hadjusted ▸ le_gridCeil_of_notional hpos hless
  · rw [hcap, hspent] at hwithin
    exact hwithin

theorem evaluateTradeBuilderBuyGuards_passed {currentPrice : ℚ} {bestAsk : Option ℚ}
    (h : evaluateTradeBuilderBuyGuards order guards currentPrice bestAsk price = .passed) :
    maxPriceBlocked order bestAsk price = false := by
  have hstop (retry : Bool) (reason : String) : guardStop retry reason ≠ .passed := by
    cases retry <;> simp [guardStop]
  by_contra hblocked
  have hmax := Bool.eq_true_of_not_eq_false hblocked
  revert h
  unfold evaluateTradeBuilderBuyGuards
  cases pairLockMarketWaitingReason order guards bestAsk with
  | some reason => simp
  | none =>
    cases triggerPriceGuardBlocked order currentPrice bestAsk with
    | true => simp [hstop]
    | false =>
      cases executionFloorReason guards.bestAskFloorPrice bestAsk with
      | some reason => simp [hstop]
      | none => simp [hmax, hstop]

theorem clamped_le_maxPrice {currentPrice : ℚ} {bestAsk : Option ℚ} (hbuy : order.side = .buy)
    (hlow : 1 / 100 ≤ price) (hhigh : price ≤ 99 / 100)
    (h : evaluateTradeBuilderBuyGuards order guards currentPrice bestAsk
      (tradeBuilderClampBuyLimitPrice order price) = .passed) :
    ∀ m ∈ order.maxPrice, tradeBuilderClampBuyLimitPrice order price ≤ m := by
  intro m hm
  have hfree := evaluateTradeBuilderBuyGuards_passed h
  simp only [maxPriceBlocked, Option.mem_def.mp hm, Option.any_some, decide_eq_false_iff_not,
    not_lt] at hfree
  by_cases hvalid : 0 < m ∧ m ≤ 1
  · simp [tradeBuilderClampBuyLimitPrice, hbuy, Option.mem_def.mp hm, Option.filter, hvalid]
  · have hclamp : tradeBuilderClampBuyLimitPrice order price = price := by
      simp [tradeBuilderClampBuyLimitPrice, hbuy, Option.mem_def.mp hm, Option.filter, hvalid]
    rw [hclamp] at hfree ⊢
    rcases not_and_or.mp hvalid with hnonpos | habove
    · -- a maximum that is not positive is under every reference the guard reads
      have hpositive : 0 < (validBestAsk bestAsk).getD price := by
        cases hask : validBestAsk bestAsk with
        | none => exact lt_of_lt_of_le (by norm_num) hlow
        | some ask => exact (of_decide_eq_true (Option.filter_eq_some_iff.mp hask).2).1
      exact absurd (hpositive.trans_le hfree) hnonpos
    · linarith [not_le.mp habove]

theorem buyDesiredPrice_quoted (hbuy : order.side = .buy) (currentPrice v : ℚ) :
    buyDesiredPrice order currentPrice (some (clampProbability v)) = clampProbability v := by
  have hpos : 0 < clampProbability v := lt_of_lt_of_le (by norm_num) (clampProbability_bounds v).1
  simp [buyDesiredPrice, tradeBuilderMarketBuyExecutionPrice, hbuy,
    normalizeTradeBuilderReferencePrice, Option.filter, hpos, clampProbability_idem]

theorem quoted_le_maxPrice {v : ℚ}
    (h : maxPriceBlocked order (some (clampProbability v)) price = false) :
    ∀ m ∈ order.maxPrice, clampProbability v ≤ m := by
  intro m hm
  obtain ⟨hlow, hhigh⟩ := clampProbability_bounds v
  have hpos : 0 < clampProbability v := lt_of_lt_of_le (by norm_num) hlow
  have hone : clampProbability v ≤ 1 := hhigh.trans (by norm_num)
  simpa [maxPriceBlocked, Option.mem_def.mp hm, validBestAsk, Option.filter, hpos, hone] using h

/-- The remaining notional of a share sizing is what it holds at this price. -/
def SubmitSizing.PricedAt (sizing : SubmitSizing) (price : ℚ) : Prop :=
  sizing.remainingQty = some sizing.size ∧
    sizing.remainingUsdc = some (max (sizing.size * price) 0)

theorem preSubmitRecheck_ok {sizing sizing' : SubmitSizing} {p : ℚ} (hbuy : order.side = .buy)
    (hshares : order.sizeBasis = .shares) (hprice : ∀ m ∈ order.maxPrice, price ≤ m)
    (hsizing : sizing.PricedAt price)
    (h : preSubmitRecheck order guards reads price sizing = .ok (p, sizing')) :
    (∀ m ∈ order.maxPrice, p ≤ m) ∧ sizing'.PricedAt p := by
  simp only [preSubmitRecheck] at h
  split_ifs at h with hfak hfresh
  · set fresh := (normalizeTradeBuilderReferencePrice reads.freshBestAsk).map clampProbability
      with hfreshDef
    cases hguards : evaluateTradeBuilderBuyGuards order guards reads.currentPrice fresh
        (buyDesiredPrice order reads.currentPrice fresh) with
    | waiting reason => simp [hguards] at h
    | blocked reason => simp [hguards] at h
    | passed =>
      simp only [hguards, Except.ok.injEq, Prod.mk.injEq] at h
      obtain ⟨rfl, rfl⟩ := h
      refine ⟨?_, ?_⟩
      · cases hask : normalizeTradeBuilderReferencePrice reads.freshBestAsk with
        | none => simp [hfreshDef, hask] at hfresh
        | some v =>
          have hquoted : fresh = some (clampProbability v) := by simp [hfreshDef, hask]
          rw [hquoted, buyDesiredPrice_quoted hbuy]
          rw [hquoted] at hguards
          exact quoted_le_maxPrice (evaluateTradeBuilderBuyGuards_passed hguards)
      · simp [tradeBuilderPreSubmitNotionalSize, hshares, SubmitSizing.PricedAt, hsizing.1]
  · simp only [Except.ok.injEq, Prod.mk.injEq] at h
    obtain ⟨rfl, rfl⟩ := h
    exact ⟨hprice, hsizing⟩

theorem submitSizing_pricedAt {sizing : SubmitSizing} {resolvedSizeUsdc : ℚ}
    (hshares : order.sizeBasis = .shares)
    (h : submitSizing order price resolvedSizeUsdc = some sizing) : sizing.PricedAt price := by
  simp only [submitSizing, hshares, if_true, Option.filter_eq_some_iff, Option.map_eq_some_iff] at h
  obtain ⟨⟨qty, -, rfl⟩, -⟩ := h
  exact ⟨rfl, rfl⟩

theorem submitReady_ok {sizing : SubmitSizing} {p : ℚ} (hbuy : order.side = .buy)
    (hshares : order.sizeBasis = .shares)
    (h : submitReady order guards reads = .ok (p, sizing)) :
    (∀ m ∈ order.maxPrice, p ≤ m) ∧ sizing.PricedAt p := by
  simp only [submitReady] at h
  split at h
  case h_1 => simp at h
  case h_2 start hstart =>
    split at h
    case h_1 => simp at h
    case h_2 => simp at h
    case h_3 hguards =>
      split at h
      case h_1 => simp at h
      case h_2 => simp at h
      case h_3 =>
        split_ifs at h with hrisk
        obtain ⟨hlow, hhigh⟩ := buyDesiredPrice_bounds hbuy reads.currentPrice reads.bestAsk
        exact preSubmitRecheck_ok hbuy hshares (clamped_le_maxPrice hbuy hlow hhigh hguards)
          (submitSizing_pricedAt hshares hstart) h

theorem repriceBuy_placed {reads : RepriceReads} {p q : ℚ} {topUp : Option MinNotionalTopUp}
    (h : repriceBuy order reads = .placed p q topUp) :
    topUp = none ∧ ∀ m ∈ order.maxPrice, p ≤ m := by
  simp only [repriceBuy] at h
  split_ifs at h with _ _ _ hmax _ _
  have hioc (price size : ℚ) (remainingUsdc : Option ℚ) :
      placeWithTopUp order clobOrderTypeForExecutionMode price size remainingUsdc =
        .placed price size none := by
    simp [placeWithTopUp, tradeBuilderMarketableBuyMinNotionalTopUp,
      clobOrderTypeForExecutionMode]
  rw [hioc] at h
  obtain ⟨rfl, rfl, rfl⟩ := BuyOutcome.placed.inj h
  refine ⟨rfl, fun m hm => ?_⟩
  simpa [tradeBuilderPriceExceedsMaxPrice, Option.mem_def.mp hm] using hmax

end Paths

/-- A topped-up share buy is placed for at least the minimum notional and its own quantity,
within its size or the notional it had, and under its maximum price; otherwise it is not
placed. A replacement is never topped up, and stays under the maximum too. -/
theorem topUp_within_own_notional (order : TradeBuilderOrder) :
    (∀ (guards : BuyGuards) (reads : SubmitReads),
      TopUpWithin order (fun topUp => max order.sizeUsdc topUp.originalNotionalUsdc)
        (submitBuy order guards reads)) ∧
    ∀ (reads : RepriceReads) (price qty : ℚ) (topUp : Option MinNotionalTopUp),
      repriceBuy order reads = .placed price qty topUp →
        topUp = none ∧ ∀ m ∈ order.maxPrice, price ≤ m := by
  refine ⟨fun guards reads => ?_, fun reads price qty topUp => repriceBuy_placed⟩
  intro price qty topUp h
  unfold submitBuy at h
  cases hready : submitReady order guards reads with
  | error stop => simp [hready] at h
  | ok ready =>
    obtain ⟨p, sizing⟩ := ready
    simp only [hready] at h
    obtain ⟨-, -, -, htop⟩ := placeWithTopUp_some h
    obtain ⟨hbuy, hshares, -⟩ := tradeBuilderMarketableBuyMinNotionalTopUp_some htop
    obtain ⟨hmax, hpriced⟩ := submitReady_ok hbuy hshares hready
    rw [tradeBuilderClampBuyLimitPrice_of_le hmax] at h
    refine placeWithTopUp_within (fun _ => hmax) (fun _ _ => ?_) price qty topUp h
    simp [hpriced.2]

/-- A size of half a dollar does not bound what a top-up spends: 1.98 shares at half a dollar
become two. -/
theorem topUp_above_size : ¬ ∀ (order : TradeBuilderOrder) (guards : BuyGuards)
    (reads : SubmitReads),
    TopUpWithin order (fun _ => order.sizeUsdc) (submitBuy order guards reads) := by
  intro h
  have hplaced : submitBuy { sizeBasis := .shares, sizeUsdc := 1 / 2, targetQty := some (99 / 50) }
      ⟨true, none, false⟩ ⟨1 / 2, some (1 / 2), 1 / 2, some "FOK", .passed, false, none⟩ =
        .placed (1 / 2) 2 (some ⟨99 / 50, 2, 99 / 100, 1, 1, 99 / 100, 1 / 100, false⟩) := by
    decide +kernel
  obtain ⟨-, -, hspent, -⟩ := h _ _ _ _ _ _ hplaced
  revert hspent
  norm_num [tradeBuilderMarketableBuyMinNotionalCapToleranceUsdc]

end PolymarketBot.Builder
