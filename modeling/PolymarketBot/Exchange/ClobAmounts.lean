import PolymarketBot.Lib.Grid
import Mathlib.Tactic.IntervalCases
import Mathlib.Tactic.NormNum
import Mathlib.Data.Rat.Floor

/-! The integer amounts a CLOB order is signed with: price, shares and USDC are rounded one
after the other, by decimals that follow from the tick size and the kind of order. -/

namespace PolymarketBot.Exchange
open Lib

inductive ClobOrderType | fak | fok | gtd | gtc
  deriving DecidableEq, Repr

def ClobOrderType.isMarketOrder : ClobOrderType → Bool
  | fak | fok => true
  | gtd | gtc => false

structure ClobRoundingConfig where
  priceDecimals : ℕ
  sizeDecimals : ℕ
  amountDecimals : ℕ
  deriving DecidableEq, Repr

def clobRoundingConfig (minTickSize : Option ℚ) : ClobRoundingConfig :=
  let tick := minTickSize.getD (1 / 100)
  let priceDecimals :=
    if tick ≤ 1 / 10000 then 4
    else if tick ≤ 1 / 1000 then 3
    else if tick ≤ 1 / 100 then 2
    else 1
  { priceDecimals, sizeDecimals := 2, amountDecimals := priceDecimals + 2 }

def decimalFactor (decimals : ℕ) : ℚ := 10 ^ decimals

/-- The slack that `round_down_to` adds before it takes the floor. -/
def roundDownSlack : ℚ := 1 / 10 ^ 9

/-- `f64::EPSILON`. -/
def f64Epsilon : ℚ := 1 / 2 ^ 52

def roundDownTo (value : ℚ) (decimals : ℕ) : ℚ :=
  gridFloor (decimalFactor decimals) roundDownSlack value

def roundNormalTo (value : ℚ) (decimals : ℕ) : ℚ :=
  gridNearest (decimalFactor decimals) f64Epsilon value

def u64Max : ℕ := 2 ^ 64 - 1

/-- Millionths, as a `u64`: the cast saturates. -/
def rawAmountToUnits (value : ℚ) : ℕ :=
  min ⌊max value 0 * 1000000 + 1 / 2⌋.toNat u64Max

def clobRawPrice (price : ℚ) (orderType : ClobOrderType) (rounding : ClobRoundingConfig) : ℚ :=
  max (if orderType.isMarketOrder then roundDownTo price rounding.priceDecimals
    else roundNormalTo price rounding.priceDecimals) (1 / 1000000)

/-- Maker and taker amount before they become units. -/
def clobRawAmounts (price size : ℚ) (isBuy : Bool) (orderType : ClobOrderType)
    (rounding : ClobRoundingConfig) : ℚ × ℚ :=
  let rawPrice := clobRawPrice price orderType rounding
  if orderType.isMarketOrder && isBuy then
    let notional := roundDownTo (price * size) rounding.sizeDecimals
    let shares := roundDownTo (notional / rawPrice) rounding.amountDecimals
    (notional, shares)
  else if isBuy then
    let shares := roundDownTo size rounding.sizeDecimals
    let notional := roundDownTo (shares * rawPrice) rounding.amountDecimals
    (notional, shares)
  else
    let shares := roundDownTo size rounding.sizeDecimals
    let notional := roundDownTo (shares * rawPrice) rounding.amountDecimals
    (shares, notional)

def clobOrderAmounts (price size : ℚ) (isBuy : Bool) (orderType : ClobOrderType)
    (rounding : ClobRoundingConfig) : ℕ × ℕ :=
  let raw := clobRawAmounts price size isBuy orderType rounding
  (rawAmountToUnits raw.1, rawAmountToUnits raw.2)

/-- What `place_order` signs, from the tick size known for the token. -/
def signedAmounts (minTickSize : Option ℚ) (price size : ℚ) (isBuy : Bool)
    (orderType : ClobOrderType) : ℕ × ℕ :=
  clobOrderAmounts price size isBuy orderType (clobRoundingConfig minTickSize)

section Sides
variable {β : Type*}

/-- A buy makes USDC and takes shares, a sell the other way round. -/
def usdcSide (isBuy : Bool) (amounts : β × β) : β := if isBuy then amounts.1 else amounts.2

def shareSide (isBuy : Bool) (amounts : β × β) : β := if isBuy then amounts.2 else amounts.1

end Sides

def usdcAmount (isBuy : Bool) (amounts : ℕ × ℕ) : ℚ := usdcSide isBuy amounts / 1000000

def shareAmount (isBuy : Bool) (amounts : ℕ × ℕ) : ℚ := shareSide isBuy amounts / 1000000

def impliedPrice (isBuy : Bool) (amounts : ℕ × ℕ) : ℚ :=
  usdcAmount isBuy amounts / shareAmount isBuy amounts

theorem decimalFactor_pos (decimals : ℕ) : 0 < decimalFactor decimals := by
  unfold decimalFactor
  positivity

theorem clobRoundingConfig_decimals (minTickSize : Option ℚ) :
    ∃ d, 1 ≤ d ∧ d ≤ 4 ∧ clobRoundingConfig minTickSize = ⟨d, 2, d + 2⟩ := by
  unfold clobRoundingConfig
  dsimp only
  split_ifs
  · exact ⟨4, by omega, by omega, rfl⟩
  · exact ⟨3, by omega, by omega, rfl⟩
  · exact ⟨2, by omega, by omega, rfl⟩
  · exact ⟨1, by omega, by omega, rfl⟩

section Rounding
variable {value : ℚ} {decimals : ℕ}

theorem roundDownTo_nonneg (h : 0 ≤ value) : 0 ≤ roundDownTo value decimals :=
  gridFloor_nonneg (decimalFactor_pos _) (by norm_num [roundDownSlack]) h

theorem roundDownTo_le : roundDownTo value decimals ≤ value + roundDownSlack / 10 ^ decimals :=
  gridFloor_le (decimalFactor_pos _)

theorem lt_roundDownTo_add : value < roundDownTo value decimals + 1 / 10 ^ decimals :=
  lt_gridFloor_add (decimalFactor_pos _) (by norm_num [roundDownSlack])

theorem roundDownTo_of_onGrid (h : OnGrid (10 ^ decimals) value) :
    roundDownTo value decimals = value :=
  gridFloor_of_onGrid (decimalFactor_pos _) (by norm_num [roundDownSlack])
    (by norm_num [roundDownSlack]) h

theorem roundDownTo_onGrid : OnGrid (10 ^ decimals) (roundDownTo value decimals) :=
  gridFloor_onGrid

theorem roundDownTo_le_of_fine {extra : ℕ} (he : extra ≤ 8)
    (h : OnGrid (10 ^ (decimals + extra)) value) : roundDownTo value decimals ≤ value := by
  refine gridFloor_le_of_fine (decimalFactor_pos _) (10 ^ extra) ?_ (by positivity) ?_
  · have hpow : (10 : ℚ) ^ extra ≤ 10 ^ 8 := pow_le_pow_right₀ (by norm_num) he
    push_cast
    rw [roundDownSlack]
    linarith
  · simpa [decimalFactor, pow_add] using h

theorem roundDownTo_ge_step (h : 1 / 10 ^ decimals ≤ value) :
    1 / 10 ^ decimals ≤ roundDownTo value decimals :=
  gridFloor_ge_step (decimalFactor_pos _) (by norm_num [roundDownSlack]) h

theorem onGrid_of_le {d e : ℕ} (hde : d ≤ e) (h : OnGrid (10 ^ d) value) :
    OnGrid (10 ^ e) value := by
  have hr := h.refine (10 ^ (e - d)) (by positivity)
  have hpow : (10 : ℚ) ^ d * ((10 ^ (e - d) : ℕ) : ℚ) = 10 ^ e := by
    push_cast
    rw [← pow_add, Nat.add_sub_cancel' hde]
  rwa [hpow] at hr

theorem rawAmountToUnits_of_onGrid (h0 : 0 ≤ value) (hd : decimals ≤ 6)
    (h : OnGrid (10 ^ decimals) value) :
    (rawAmountToUnits value : ℚ) = min (value * 1000000) u64Max := by
  obtain ⟨k, rfl⟩ := onGrid_of_le hd h
  have hk : ((k : ℚ) / 10 ^ 6) * 1000000 = k := by norm_num
  have hk0 : 0 ≤ k := by
    have : (0 : ℚ) ≤ (k : ℚ) / 10 ^ 6 * 1000000 := by positivity
    rw [hk] at this
    exact_mod_cast this
  have hhalf : ⌊(k : ℚ) + 1 / 2⌋ = k := by
    rw [Int.floor_intCast_add, Int.floor_eq_zero_iff.mpr ⟨by norm_num, by norm_num⟩, add_zero]
  have hcast : ((k.toNat : ℕ) : ℚ) = k := by exact_mod_cast Int.toNat_of_nonneg hk0
  rw [rawAmountToUnits, max_eq_left h0, hk, hhalf, Nat.cast_min, hcast]

end Rounding

section RawPrice
variable {price : ℚ} {orderType : ClobOrderType} {rounding : ClobRoundingConfig}

theorem clobRawPrice_pos : 0 < clobRawPrice price orderType rounding :=
  lt_of_lt_of_le (by norm_num) (le_max_right _ _)

theorem f64Epsilon_mul_lt (decimals : ℕ) (hd : decimals ≤ 6) :
    f64Epsilon * decimalFactor decimals < 1 / 2 := by
  have hpow : (10 : ℚ) ^ decimals ≤ 10 ^ 6 := pow_le_pow_right₀ (by norm_num) hd
  calc f64Epsilon * decimalFactor decimals ≤ f64Epsilon * 10 ^ 6 :=
        mul_le_mul_of_nonneg_left hpow (by norm_num [f64Epsilon])
    _ < 1 / 2 := by norm_num [f64Epsilon]

theorem roundNormalTo_of_onGrid {decimals : ℕ} (h0 : 0 ≤ price) (hd : decimals ≤ 6)
    (h : OnGrid (10 ^ decimals) price) : roundNormalTo price decimals = price :=
  gridNearest_of_onGrid (decimalFactor_pos _) (by norm_num [f64Epsilon])
    (f64Epsilon_mul_lt _ hd) h0 h

theorem onGrid_one (decimals : ℕ) : OnGrid (10 ^ decimals) (1 : ℚ) := by
  refine ⟨10 ^ decimals, ?_⟩
  push_cast
  rw [div_self (by positivity)]

theorem clobRawPrice_le_one (h0 : 0 < price) (h1 : price < 1) (hd : rounding.priceDecimals ≤ 6) :
    clobRawPrice price orderType rounding ≤ 1 := by
  have hdown : roundDownTo price rounding.priceDecimals ≤ 1 := by
    have hmono : gridFloor (decimalFactor rounding.priceDecimals) roundDownSlack price ≤
        gridFloor (decimalFactor rounding.priceDecimals) roundDownSlack 1 :=
      gridFloor_mono (decimalFactor_pos _) h1.le
    have hone := roundDownTo_of_onGrid (onGrid_one rounding.priceDecimals)
    rw [roundDownTo] at hone ⊢
    rwa [hone] at hmono
  have hnear : roundNormalTo price rounding.priceDecimals ≤ 1 := by
    have hmono : gridNearest (decimalFactor rounding.priceDecimals) f64Epsilon price ≤
        gridNearest (decimalFactor rounding.priceDecimals) f64Epsilon 1 :=
      gridNearest_mono (decimalFactor_pos _) (by norm_num [f64Epsilon]) h0.le h1.le
    have hone := roundNormalTo_of_onGrid (by norm_num) hd (onGrid_one rounding.priceDecimals)
    rw [roundNormalTo] at hone ⊢
    rwa [hone] at hmono
  unfold clobRawPrice
  split
  · exact max_le hdown (by norm_num)
  · exact max_le hnear (by norm_num)

theorem clobRawPrice_onGrid (hd : rounding.priceDecimals ≤ 6) :
    OnGrid (10 ^ 6) (clobRawPrice price orderType rounding) := by
  have hfloor : OnGrid (10 ^ 6) (1 / 1000000 : ℚ) := ⟨1, by norm_num⟩
  have hround : OnGrid (10 ^ 6) (if orderType.isMarketOrder then
      roundDownTo price rounding.priceDecimals
      else roundNormalTo price rounding.priceDecimals) := by
    split
    · exact onGrid_of_le hd roundDownTo_onGrid
    · exact onGrid_of_le hd gridNearest_onGrid
  rcases max_choice (if orderType.isMarketOrder then roundDownTo price rounding.priceDecimals
      else roundNormalTo price rounding.priceDecimals) (1 / 1000000) with h | h
  · rw [clobRawPrice, h]
    exact hround
  · rw [clobRawPrice, h]
    exact hfloor

theorem step_le_of_onGrid {value : ℚ} {decimals : ℕ} (h0 : 0 < value)
    (h : OnGrid (10 ^ decimals) value) : 1 / 10 ^ decimals ≤ value := by
  obtain ⟨k, rfl⟩ := h
  have hp : (0 : ℚ) < 10 ^ decimals := by positivity
  have hk : (0 : ℚ) < k := by
    by_contra hneg
    have := div_nonpos_of_nonpos_of_nonneg (not_lt.mp hneg) hp.le
    linarith
  have hk1 : 1 ≤ k := by exact_mod_cast hk
  have hq : (1 : ℚ) ≤ k := by exact_mod_cast hk1
  exact div_le_div_of_nonneg_right hq hp.le

theorem millionth_le_step {decimals : ℕ} (hd : decimals ≤ 6) :
    (1 / 1000000 : ℚ) ≤ 1 / 10 ^ decimals := by
  have hpow : (10 : ℚ) ^ decimals ≤ 10 ^ 6 := pow_le_pow_right₀ (by norm_num) hd
  calc (1 / 1000000 : ℚ) = 1 / 10 ^ 6 := by norm_num
    _ ≤ 1 / 10 ^ decimals := one_div_le_one_div_of_le (by positivity) hpow

theorem clobRawPrice_of_onGrid (h0 : 0 < price) (hd : rounding.priceDecimals ≤ 6)
    (h : OnGrid (10 ^ rounding.priceDecimals) price) :
    clobRawPrice price orderType rounding = price := by
  have hstep := (millionth_le_step hd).trans (step_le_of_onGrid h0 h)
  rw [clobRawPrice, roundDownTo_of_onGrid h, roundNormalTo_of_onGrid h0.le hd h, ite_self,
    max_eq_left hstep]

theorem clobRawPrice_market (hm : orderType.isMarketOrder = true) :
    clobRawPrice price orderType rounding ≤
        max (price + roundDownSlack / 10 ^ rounding.priceDecimals) (1 / 1000000) ∧
      price < clobRawPrice price orderType rounding + 1 / 10 ^ rounding.priceDecimals := by
  rw [clobRawPrice, if_pos hm]
  constructor
  · exact max_le_max_right _ roundDownTo_le
  · have h := @lt_roundDownTo_add price rounding.priceDecimals
    have hmax := le_max_left (roundDownTo price rounding.priceDecimals) (1 / 1000000)
    linarith

theorem clobRawPrice_resting (h0 : 0 < price) (hd : rounding.priceDecimals ≤ 4)
    (hm : orderType.isMarketOrder = false) :
    |clobRawPrice price orderType rounding - price| ≤
      1 / 2 / 10 ^ rounding.priceDecimals + f64Epsilon := by
  have heps : (0 : ℚ) ≤ f64Epsilon := by norm_num [f64Epsilon]
  have hnear : |roundNormalTo price rounding.priceDecimals - price| ≤
      1 / 2 / 10 ^ rounding.priceDecimals + f64Epsilon :=
    abs_gridNearest_sub_le (decimalFactor_pos _) heps
  have hpow : (1 / 2 / 10 ^ 4 : ℚ) ≤ 1 / 2 / 10 ^ rounding.priceDecimals :=
    div_le_div_of_nonneg_left (by norm_num) (by positivity)
      (pow_le_pow_right₀ (by norm_num) hd)
  rw [clobRawPrice, if_neg (by simp [hm])]
  rw [abs_le] at hnear ⊢
  rcases le_total (roundNormalTo price rounding.priceDecimals) (1 / 1000000) with h | h
  · -- the price was rounded to zero and a millionth stands in for it
    rw [max_eq_right h]
    have hmillionth : (1 / 1000000 : ℚ) ≤ 1 / 2 / 10 ^ 4 := by norm_num
    constructor
    · linarith [hnear.1]
    · linarith
  · rw [max_eq_left h]
    exact hnear

end RawPrice

def unitLimit : ℚ := u64Max / 1000000

section Amounts
variable {price size : ℚ} {isBuy : Bool} {orderType : ClobOrderType} {d : ℕ}

def restingOrSell (isBuy : Bool) (orderType : ClobOrderType) : Bool :=
  !(orderType.isMarketOrder && isBuy)

theorem rawAmounts_marketBuy (h : restingOrSell isBuy orderType = false) :
    clobRawAmounts price size isBuy orderType ⟨d, 2, d + 2⟩ =
      (roundDownTo (price * size) 2,
        roundDownTo (roundDownTo (price * size) 2 / clobRawPrice price orderType ⟨d, 2, d + 2⟩)
          (d + 2)) := by
  have hm : (orderType.isMarketOrder && isBuy) = true := by simpa [restingOrSell] using h
  rw [clobRawAmounts, if_pos hm]

theorem rawAmounts_restingOrSell (h : restingOrSell isBuy orderType = true) :
    shareSide isBuy (clobRawAmounts price size isBuy orderType ⟨d, 2, d + 2⟩) =
        roundDownTo size 2 ∧
      usdcSide isBuy (clobRawAmounts price size isBuy orderType ⟨d, 2, d + 2⟩) =
        roundDownTo (roundDownTo size 2 * clobRawPrice price orderType ⟨d, 2, d + 2⟩) (d + 2) := by
  have hm : ¬ (orderType.isMarketOrder && isBuy) = true := by
    intro hc
    simp [restingOrSell, hc] at h
  rw [clobRawAmounts, if_neg hm]
  cases isBuy <;> exact ⟨rfl, rfl⟩

theorem rawAmounts_nonneg_onGrid (h0 : 0 ≤ price) (hs : 0 ≤ size) :
    (0 ≤ (clobRawAmounts price size isBuy orderType ⟨d, 2, d + 2⟩).1 ∧
        OnGrid (10 ^ (d + 2)) (clobRawAmounts price size isBuy orderType ⟨d, 2, d + 2⟩).1) ∧
      0 ≤ (clobRawAmounts price size isBuy orderType ⟨d, 2, d + 2⟩).2 ∧
        OnGrid (10 ^ (d + 2)) (clobRawAmounts price size isBuy orderType ⟨d, 2, d + 2⟩).2 := by
  have hg : 0 < clobRawPrice price orderType ⟨d, 2, d + 2⟩ := clobRawPrice_pos
  have hshares : 0 ≤ roundDownTo size 2 := roundDownTo_nonneg hs
  have hnotional : 0 ≤ roundDownTo (price * size) 2 := roundDownTo_nonneg (by positivity)
  have hgrid : ∀ value, OnGrid (10 ^ (d + 2)) (roundDownTo value 2) :=
    fun value => onGrid_of_le (by omega) roundDownTo_onGrid
  unfold clobRawAmounts
  dsimp only
  split_ifs
  · exact ⟨⟨hnotional, hgrid _⟩, roundDownTo_nonneg (by positivity), roundDownTo_onGrid⟩
  · exact ⟨⟨roundDownTo_nonneg (by positivity), roundDownTo_onGrid⟩, hshares, hgrid _⟩
  · exact ⟨⟨hshares, hgrid _⟩, roundDownTo_nonneg (by positivity), roundDownTo_onGrid⟩

theorem clobOrderAmounts_usdc (h0 : 0 ≤ price) (hs : 0 ≤ size) (hd : d ≤ 4) :
    usdcAmount isBuy (clobOrderAmounts price size isBuy orderType ⟨d, 2, d + 2⟩) =
      min (usdcSide isBuy (clobRawAmounts price size isBuy orderType ⟨d, 2, d + 2⟩))
        unitLimit := by
  obtain ⟨⟨hn1, hg1⟩, hn2, hg2⟩ :=
    @rawAmounts_nonneg_onGrid price size isBuy orderType d h0 hs
  have h1 := rawAmountToUnits_of_onGrid hn1 (by omega) hg1
  have h2 := rawAmountToUnits_of_onGrid hn2 (by omega) hg2
  cases isBuy
  all_goals
    simp only [usdcAmount, usdcSide, clobOrderAmounts, unitLimit, h1, h2, if_true,
      Bool.false_eq_true, if_false]
    rw [← min_div_div_right (by norm_num)]
    norm_num

theorem clobOrderAmounts_shares (h0 : 0 ≤ price) (hs : 0 ≤ size) (hd : d ≤ 4) :
    shareAmount isBuy (clobOrderAmounts price size isBuy orderType ⟨d, 2, d + 2⟩) =
      min (shareSide isBuy (clobRawAmounts price size isBuy orderType ⟨d, 2, d + 2⟩))
        unitLimit := by
  obtain ⟨⟨hn1, hg1⟩, hn2, hg2⟩ :=
    @rawAmounts_nonneg_onGrid price size isBuy orderType d h0 hs
  have h1 := rawAmountToUnits_of_onGrid hn1 (by omega) hg1
  have h2 := rawAmountToUnits_of_onGrid hn2 (by omega) hg2
  cases isBuy
  all_goals
    simp only [shareAmount, shareSide, clobOrderAmounts, unitLimit, h1, h2, if_true,
      Bool.false_eq_true, if_false]
    rw [← min_div_div_right (by norm_num)]
    norm_num

theorem rawUsdc_le (h : restingOrSell isBuy orderType = true) (hd : d ≤ 4) :
    usdcSide isBuy (clobRawAmounts price size isBuy orderType ⟨d, 2, d + 2⟩) ≤
      shareSide isBuy (clobRawAmounts price size isBuy orderType ⟨d, 2, d + 2⟩) *
        clobRawPrice price orderType ⟨d, 2, d + 2⟩ := by
  obtain ⟨hshares, husdc⟩ := @rawAmounts_restingOrSell price size isBuy orderType d h
  have hprice : OnGrid (10 ^ 6) (clobRawPrice price orderType ⟨d, 2, d + 2⟩) :=
    clobRawPrice_onGrid (by simp; omega)
  have hproduct := (@roundDownTo_onGrid size 2).mul hprice
  have hpow : (10 : ℚ) ^ 2 * 10 ^ 6 = 10 ^ (d + 2 + (6 - d)) := by
    rw [← pow_add]
    congr 1
    omega
  rw [husdc, hshares]
  exact @roundDownTo_le_of_fine _ (d + 2) (6 - d) (by omega) (hpow ▸ hproduct)

theorem rawUsdc_of_onGrid (h : restingOrSell isBuy orderType = true)
    (hg : OnGrid (10 ^ d) (clobRawPrice price orderType ⟨d, 2, d + 2⟩)) :
    usdcSide isBuy (clobRawAmounts price size isBuy orderType ⟨d, 2, d + 2⟩) =
      shareSide isBuy (clobRawAmounts price size isBuy orderType ⟨d, 2, d + 2⟩) *
        clobRawPrice price orderType ⟨d, 2, d + 2⟩ := by
  obtain ⟨hshares, husdc⟩ := @rawAmounts_restingOrSell price size isBuy orderType d h
  have hproduct := (@roundDownTo_onGrid size 2).mul hg
  have hpow : (10 : ℚ) ^ 2 * 10 ^ d = 10 ^ (d + 2) := by ring
  rw [husdc, hshares]
  exact roundDownTo_of_onGrid (hpow ▸ hproduct)

theorem rawShares_mul_lt (h0 : 0 < price) (h1 : price < 1) (hd : d ≤ 4) :
    shareSide isBuy (clobRawAmounts price size isBuy orderType ⟨d, 2, d + 2⟩) *
        clobRawPrice price orderType ⟨d, 2, d + 2⟩ <
      usdcSide isBuy (clobRawAmounts price size isBuy orderType ⟨d, 2, d + 2⟩) +
        1 / 10 ^ (d + 2) := by
  have hg : 0 < clobRawPrice price orderType ⟨d, 2, d + 2⟩ := clobRawPrice_pos
  have hg1 : clobRawPrice price orderType ⟨d, 2, d + 2⟩ ≤ 1 :=
    clobRawPrice_le_one h0 h1 (by simp; omega)
  cases h : restingOrSell isBuy orderType
  · have hbuy : isBuy = true := by
      cases isBuy
      · simp [restingOrSell] at h
      · rfl
    subst hbuy
    have hle := @roundDownTo_le (roundDownTo (price * size) 2 /
      clobRawPrice price orderType ⟨d, 2, d + 2⟩) (d + 2)
    have hstep : (0 : ℚ) < 1 / 10 ^ (d + 2) := by positivity
    have hslack : roundDownSlack / 10 ^ (d + 2) < 1 / 10 ^ (d + 2) :=
      div_lt_div_of_pos_right (by norm_num [roundDownSlack]) (by positivity)
    rw [rawAmounts_marketBuy h]
    simp only [shareSide, usdcSide, if_true]
    generalize roundDownTo (roundDownTo (price * size) 2 /
      clobRawPrice price orderType ⟨d, 2, d + 2⟩) (d + 2) = shares at hle ⊢
    generalize clobRawPrice price orderType ⟨d, 2, d + 2⟩ = g at hg hg1 hle ⊢
    generalize roundDownTo (price * size) 2 = notional at hle ⊢
    have hmul : shares * g ≤ (notional / g + roundDownSlack / 10 ^ (d + 2)) * g :=
      mul_le_mul_of_nonneg_right hle hg.le
    have heq : (notional / g + roundDownSlack / 10 ^ (d + 2)) * g =
        notional + g * (roundDownSlack / 10 ^ (d + 2)) := by
      field_simp
    nlinarith
  · obtain ⟨hshares, husdc⟩ :=
      @rawAmounts_restingOrSell price size isBuy orderType d h
    rw [husdc, hshares]
    exact lt_roundDownTo_add

theorem rawUsdc_lt_marketBuy (h : restingOrSell isBuy orderType = false) :
    usdcSide isBuy (clobRawAmounts price size isBuy orderType ⟨d, 2, d + 2⟩) <
      (shareSide isBuy (clobRawAmounts price size isBuy orderType ⟨d, 2, d + 2⟩) +
        1 / 10 ^ (d + 2)) * clobRawPrice price orderType ⟨d, 2, d + 2⟩ := by
  have hg : 0 < clobRawPrice price orderType ⟨d, 2, d + 2⟩ := clobRawPrice_pos
  have hbuy : isBuy = true := by
    cases isBuy
    · simp [restingOrSell] at h
    · rfl
  subst hbuy
  have hlt := @lt_roundDownTo_add (roundDownTo (price * size) 2 /
    clobRawPrice price orderType ⟨d, 2, d + 2⟩) (d + 2)
  rw [rawAmounts_marketBuy h]
  simp only [shareSide, usdcSide, if_true]
  exact (div_lt_iff₀ hg).mp hlt

end Amounts

def priceDecimals (minTickSize : Option ℚ) : ℕ := (clobRoundingConfig minTickSize).priceDecimals

/-- On the grid of the code's class of the tick: multiples of 0.1, 0.01, 0.001 or 0.0001. -/
def TickAligned (minTickSize : Option ℚ) (price : ℚ) : Prop :=
  OnGrid (10 ^ priceDecimals minTickSize) price

def gridPrice (minTickSize : Option ℚ) (price : ℚ) (orderType : ClobOrderType) : ℚ :=
  clobRawPrice price orderType (clobRoundingConfig minTickSize)

def tickStep (minTickSize : Option ℚ) : ℚ := 1 / 10 ^ priceDecimals minTickSize

/-- One step of the amounts that are computed from a product or a quotient. -/
def amountStep (minTickSize : Option ℚ) : ℚ :=
  1 / 10 ^ (clobRoundingConfig minTickSize).amountDecimals

/-- How the price is put on the grid: down for FAK and FOK, to the nearest for resting
orders, at least a millionth. -/
structure GridsPrice (minTickSize : Option ℚ) (price : ℚ) (orderType : ClobOrderType) : Prop where
  aligned : TickAligned minTickSize price → gridPrice minTickSize price orderType = price
  market : orderType.isMarketOrder = true →
    gridPrice minTickSize price orderType ≤
        max (price + roundDownSlack * tickStep minTickSize) (1 / 1000000) ∧
      price < gridPrice minTickSize price orderType + tickStep minTickSize
  resting : orderType.isMarketOrder = false →
    |gridPrice minTickSize price orderType - price| ≤ tickStep minTickSize / 2 + f64Epsilon

/-- How far the price of the amounts lies from the grid price. -/
structure ImpliesGridPrice (minTickSize : Option ℚ) (price : ℚ) (isBuy : Bool)
    (orderType : ClobOrderType) (amounts : ℕ × ℕ) : Prop where
  at_least : gridPrice minTickSize price orderType -
      amountStep minTickSize / shareAmount isBuy amounts < impliedPrice isBuy amounts
  at_least_on_grid : restingOrSell isBuy orderType = true →
    TickAligned minTickSize (gridPrice minTickSize price orderType) →
      gridPrice minTickSize price orderType ≤ impliedPrice isBuy amounts
  at_most : restingOrSell isBuy orderType = true → shareSide isBuy amounts < u64Max →
    impliedPrice isBuy amounts ≤ gridPrice minTickSize price orderType
  market_buy_at_most : restingOrSell isBuy orderType = false → shareSide isBuy amounts < u64Max →
    impliedPrice isBuy amounts ≤ gridPrice minTickSize price orderType *
      (1 + amountStep minTickSize / shareAmount isBuy amounts)

/-- What an order can cost its trader at most. -/
structure WithinRequest (minTickSize : Option ℚ) (price size : ℚ) (isBuy : Bool)
    (orderType : ClobOrderType) (amounts : ℕ × ℕ) : Prop where
  market_buy : restingOrSell isBuy orderType = false →
    usdcAmount isBuy amounts ≤ price * size + roundDownSlack / 100
  resting_buy : isBuy = true → orderType.isMarketOrder = false →
    usdcAmount isBuy amounts ≤
      gridPrice minTickSize price orderType * (size + roundDownSlack / 100)
  sell : isBuy = false → shareAmount isBuy amounts ≤ size + roundDownSlack / 100

section Signed
variable {minTickSize : Option ℚ} {price size : ℚ} {isBuy : Bool} {orderType : ClobOrderType}

theorem grids_price (h0 : 0 < price) : GridsPrice minTickSize price orderType := by
  obtain ⟨d, -, hd, hrounding⟩ := clobRoundingConfig_decimals minTickSize
  constructor
  · intro h
    rw [TickAligned, priceDecimals, hrounding] at h
    rw [gridPrice, hrounding]
    exact clobRawPrice_of_onGrid h0 (by simp; omega) h
  · intro hm
    obtain ⟨hle, hlt⟩ := @clobRawPrice_market price orderType ⟨d, 2, d + 2⟩ hm
    rw [gridPrice, tickStep, priceDecimals, hrounding, mul_one_div]
    exact ⟨hle, hlt⟩
  · intro hm
    have hnear := @clobRawPrice_resting price orderType ⟨d, 2, d + 2⟩ h0 hd hm
    rw [gridPrice, tickStep, priceDecimals, hrounding, div_right_comm]
    exact hnear

theorem mul_min_lt {g shares usdc limit step : ℚ} (hg : 0 ≤ g) (hg1 : g ≤ 1)
    (hlimit : 0 ≤ limit) (hstep : 0 < step) (h : shares * g < usdc + step) :
    g * min shares limit < min usdc limit + step := by
  have hshares : g * min shares limit ≤ g * shares :=
    mul_le_mul_of_nonneg_left (min_le_left _ _) hg
  have hcap : g * min shares limit ≤ g * limit := mul_le_mul_of_nonneg_left (min_le_right _ _) hg
  have hone : g * limit ≤ limit := by nlinarith
  rcases min_choice usdc limit with hmin | hmin
  · rw [hmin]
    linarith
  · rw [hmin]
    linarith

theorem mul_min_le {g shares usdc limit : ℚ} (hg : 0 ≤ g) (hg1 : g ≤ 1)
    (hlimit : 0 ≤ limit) (h : usdc = shares * g) :
    g * min shares limit ≤ min usdc limit := by
  have hshares : g * min shares limit ≤ g * shares :=
    mul_le_mul_of_nonneg_left (min_le_left _ _) hg
  have hcap : g * min shares limit ≤ g * limit := mul_le_mul_of_nonneg_left (min_le_right _ _) hg
  have hone : g * limit ≤ limit := by nlinarith
  refine le_min ?_ (hcap.trans hone)
  rw [h, mul_comm shares g]
  exact hshares

theorem unitLimit_pos : 0 < unitLimit := by norm_num [unitLimit, u64Max]

theorem share_below_limit {amounts : ℕ × ℕ} (h : shareSide isBuy amounts < u64Max) :
    shareAmount isBuy amounts < unitLimit := by
  have hq : ((shareSide isBuy amounts : ℕ) : ℚ) < u64Max := by exact_mod_cast h
  exact div_lt_div_of_pos_right hq (by norm_num)

theorem implies_grid_price (h0 : 0 < price) (h1 : price < 1) (hs : 0 < size)
    (hpos : 0 < shareSide isBuy (signedAmounts minTickSize price size isBuy orderType)) :
    ImpliesGridPrice minTickSize price isBuy orderType
      (signedAmounts minTickSize price size isBuy orderType) := by
  obtain ⟨d, -, hd, hrounding⟩ := clobRoundingConfig_decimals minTickSize
  have husdc := @clobOrderAmounts_usdc price size isBuy orderType _ h0.le hs.le hd
  have hshares := @clobOrderAmounts_shares price size isBuy orderType _ h0.le hs.le hd
  have hlt := @rawShares_mul_lt price size isBuy orderType _ h0 h1 hd
  have hg : 0 < clobRawPrice price orderType ⟨d, 2, d + 2⟩ := clobRawPrice_pos
  have hg1 : clobRawPrice price orderType ⟨d, 2, d + 2⟩ ≤ 1 :=
    clobRawPrice_le_one h0 h1 (by simp; omega)
  have hstep : (0 : ℚ) < 1 / 10 ^ (d + 2) := by positivity
  have hlimit := unitLimit_pos.le
  have hpos' : 0 < shareAmount isBuy (signedAmounts minTickSize price size isBuy orderType) := by
    have hq : (0 : ℚ) <
        (shareSide isBuy (signedAmounts minTickSize price size isBuy orderType) : ℕ) := by
      exact_mod_cast hpos
    exact div_pos hq (by norm_num)
  have hbelow := @share_below_limit isBuy (signedAmounts minTickSize price size isBuy orderType)
  have hstepEq : amountStep minTickSize = 1 / 10 ^ (d + 2) := by rw [amountStep, hrounding]
  have hpriceEq : gridPrice minTickSize price orderType =
      clobRawPrice price orderType ⟨d, 2, d + 2⟩ := by rw [gridPrice, hrounding]
  simp only [signedAmounts, hrounding] at hpos' hbelow ⊢
  rw [hshares] at hpos' hbelow
  constructor
  · rw [hstepEq, hpriceEq, impliedPrice, husdc, hshares, sub_lt_iff_lt_add, ← add_div,
      lt_div_iff₀ hpos']
    exact mul_min_lt hg.le hg1 hlimit hstep hlt
  · intro hrest halign
    rw [hpriceEq] at halign ⊢
    rw [TickAligned, priceDecimals, hrounding] at halign
    rw [impliedPrice, husdc, hshares, le_div_iff₀ hpos']
    exact mul_min_le hg.le hg1 hlimit (rawUsdc_of_onGrid hrest halign)
  · intro hrest hfit
    have hle := @rawUsdc_le price size isBuy orderType _ hrest hd
    have hfull := min_eq_left (min_lt_iff.mp (hbelow hfit) |>.resolve_right (lt_irrefl _)).le
    rw [hpriceEq, impliedPrice, husdc, hshares, div_le_iff₀ hpos', hfull, mul_comm]
    exact (min_le_left _ _).trans hle
  · intro hmarket hfit
    have hle := @rawUsdc_lt_marketBuy price size isBuy orderType d hmarket
    have hfull := min_eq_left (min_lt_iff.mp (hbelow hfit) |>.resolve_right (lt_irrefl _)).le
    rw [hpriceEq, hstepEq, impliedPrice, husdc, hshares, div_le_iff₀ hpos']
    rw [hfull] at hpos' ⊢
    have hexpand : clobRawPrice price orderType ⟨d, 2, d + 2⟩ *
        (1 + 1 / 10 ^ (d + 2) /
          shareSide isBuy (clobRawAmounts price size isBuy orderType ⟨d, 2, d + 2⟩)) *
        shareSide isBuy (clobRawAmounts price size isBuy orderType ⟨d, 2, d + 2⟩) =
        (shareSide isBuy (clobRawAmounts price size isBuy orderType ⟨d, 2, d + 2⟩) +
          1 / 10 ^ (d + 2)) * clobRawPrice price orderType ⟨d, 2, d + 2⟩ := by
      field_simp
    rw [hexpand]
    exact (min_le_left _ _).trans hle.le

theorem within_request (h0 : 0 < price) (hs : 0 < size) :
    WithinRequest minTickSize price size isBuy orderType
      (signedAmounts minTickSize price size isBuy orderType) := by
  obtain ⟨d, -, hd, hrounding⟩ := clobRoundingConfig_decimals minTickSize
  have husdc := @clobOrderAmounts_usdc price size isBuy orderType _ h0.le hs.le hd
  have hshares := @clobOrderAmounts_shares price size isBuy orderType _ h0.le hs.le hd
  have hg : 0 < clobRawPrice price orderType ⟨d, 2, d + 2⟩ := clobRawPrice_pos
  have hsize : roundDownTo size 2 ≤ size + roundDownSlack / 10 ^ 2 := roundDownTo_le
  have hnotional : roundDownTo (price * size) 2 ≤ price * size + roundDownSlack / 10 ^ 2 :=
    roundDownTo_le
  have hhundred : (10 : ℚ) ^ 2 = 100 := by norm_num
  rw [hhundred] at hsize hnotional
  have hrest : restingOrSell isBuy orderType = true →
      shareSide isBuy (clobRawAmounts price size isBuy orderType ⟨d, 2, d + 2⟩) ≤
        size + roundDownSlack / 100 := by
    intro h
    rw [(rawAmounts_restingOrSell h).1]
    exact hsize
  simp only [signedAmounts, hrounding]
  constructor
  · intro hmarket
    have hbuy : isBuy = true := by
      cases isBuy
      · simp [restingOrSell] at hmarket
      · rfl
    subst hbuy
    rw [husdc, rawAmounts_marketBuy hmarket]
    exact (min_le_left _ _).trans hnotional
  · intro hbuy hresting
    have h : restingOrSell isBuy orderType = true := by simp [restingOrSell, hresting]
    rw [husdc, gridPrice, hrounding]
    calc min _ unitLimit ≤ _ := min_le_left _ _
      _ ≤ _ := rawUsdc_le h hd
      _ ≤ (size + roundDownSlack / 100) * clobRawPrice price orderType ⟨d, 2, d + 2⟩ :=
        mul_le_mul_of_nonneg_right (hrest h) hg.le
      _ = _ := mul_comm _ _
  · intro hsell
    have h : restingOrSell isBuy orderType = true := by simp [restingOrSell, hsell]
    rw [hshares]
    exact (min_le_left _ _).trans (hrest h)

theorem units_pos {value : ℚ} {decimals : ℕ} (h0 : 0 < value) (hd : decimals ≤ 6)
    (h : OnGrid (10 ^ decimals) value) : 0 < rawAmountToUnits value := by
  have hunits := rawAmountToUnits_of_onGrid h0.le hd h
  have hmin : (0 : ℚ) < min (value * 1000000) u64Max :=
    lt_min (by positivity) (by norm_num [u64Max])
  rw [← hunits] at hmin
  exact_mod_cast hmin

theorem cent_le_roundDownTo {value : ℚ} (h : 1 / 100 ≤ value) : 0 < roundDownTo value 2 := by
  have hstep : (1 : ℚ) / 10 ^ 2 ≤ value := by
    norm_num at h ⊢
    exact h
  calc (0 : ℚ) < 1 / 10 ^ 2 := by norm_num
    _ ≤ roundDownTo value 2 := roundDownTo_ge_step hstep

theorem signed_amounts_positive (h0 : 0 < price) (h1 : price < 1)
    (halign : TickAligned minTickSize price) (hsize : 1 / 100 ≤ size)
    (hnotional : 1 / 100 ≤ price * size) :
    0 < (signedAmounts minTickSize price size isBuy orderType).1 ∧
      0 < (signedAmounts minTickSize price size isBuy orderType).2 := by
  obtain ⟨d, hd1, hd, hrounding⟩ := clobRoundingConfig_decimals minTickSize
  rw [TickAligned, priceDecimals, hrounding] at halign
  have hprice : clobRawPrice price orderType ⟨d, 2, d + 2⟩ = price :=
    clobRawPrice_of_onGrid h0 (by simp; omega) halign
  have hs : 0 < size := lt_of_lt_of_le (by norm_num) hsize
  obtain ⟨⟨-, hgrid1⟩, -, hgrid2⟩ :=
    @rawAmounts_nonneg_onGrid price size isBuy orderType d h0.le hs.le
  have hshares : 0 < roundDownTo size 2 := cent_le_roundDownTo hsize
  have husdc : 0 < roundDownTo (price * size) 2 := cent_le_roundDownTo hnotional
  have hpos : 0 < (clobRawAmounts price size isBuy orderType ⟨d, 2, d + 2⟩).1 ∧
      0 < (clobRawAmounts price size isBuy orderType ⟨d, 2, d + 2⟩).2 := by
    cases h : restingOrSell isBuy orderType
    · rw [rawAmounts_marketBuy h, hprice]
      -- the quotient is at least the notional, which is at least a cent
      have hquot : roundDownTo (price * size) 2 ≤ roundDownTo (price * size) 2 / price := by
        rw [le_div_iff₀ h0]
        nlinarith
      have hcent : (1 : ℚ) / 10 ^ 2 ≤ roundDownTo (price * size) 2 :=
        step_le_of_onGrid husdc roundDownTo_onGrid
      have hstep : (1 : ℚ) / 10 ^ (d + 2) ≤ 1 / 10 ^ 2 :=
        one_div_le_one_div_of_le (by positivity) (pow_le_pow_right₀ (by norm_num) (by omega))
      have hround := roundDownTo_ge_step (hstep.trans (hcent.trans hquot))
      exact ⟨husdc, lt_of_lt_of_le (by positivity) hround⟩
    · obtain ⟨hshareSide, -⟩ :=
        @rawAmounts_restingOrSell price size isBuy orderType d h
      have husdcSide := @rawUsdc_of_onGrid price size isBuy orderType d h
        (by rw [hprice]; exact halign)
      rw [hprice, hshareSide] at husdcSide
      have hprod : 0 < roundDownTo size 2 * price := mul_pos hshares h0
      rw [← husdcSide] at hprod
      rw [← hshareSide] at hshares
      cases isBuy
      · exact ⟨hshares, hprod⟩
      · exact ⟨hprod, hshares⟩
  rw [signedAmounts, hrounding]
  exact ⟨units_pos hpos.1 (by omega) hgrid1, units_pos hpos.2 (by omega) hgrid2⟩

/-- The amounts of every order against its price and size. -/
theorem clob_order_amounts_follow_grid_price (minTickSize : Option ℚ) (price size : ℚ)
    (isBuy : Bool) (orderType : ClobOrderType) (h0 : 0 < price) (h1 : price < 1)
    (hs : 0 < size) :
    GridsPrice minTickSize price orderType ∧
      (0 < (signedAmounts minTickSize price size isBuy orderType).1 →
        0 < (signedAmounts minTickSize price size isBuy orderType).2 →
        ImpliesGridPrice minTickSize price isBuy orderType
          (signedAmounts minTickSize price size isBuy orderType)) ∧
      WithinRequest minTickSize price size isBuy orderType
        (signedAmounts minTickSize price size isBuy orderType) ∧
      (TickAligned minTickSize price → 1 / 100 ≤ size → 1 / 100 ≤ price * size →
        0 < (signedAmounts minTickSize price size isBuy orderType).1 ∧
          0 < (signedAmounts minTickSize price size isBuy orderType).2) := by
  have himplies : 0 < (signedAmounts minTickSize price size isBuy orderType).1 →
      0 < (signedAmounts minTickSize price size isBuy orderType).2 →
      0 < shareSide isBuy (signedAmounts minTickSize price size isBuy orderType) := by
    intro hmaker htaker
    cases isBuy
    · exact hmaker
    · exact htaker
  constructor
  · exact grids_price h0
  constructor
  · intro hmaker htaker
    exact implies_grid_price h0 h1 hs (himplies hmaker htaker)
  constructor
  · exact within_request h0 hs
  · exact signed_amounts_positive h0 h1

theorem clob_order_amounts_follow_grid_price_sell :
    0 < (signedAmounts (some (1 / 100)) (37 / 100) 5 false .gtc).1 ∧
      37 / 100 ≤ impliedPrice false (signedAmounts (some (1 / 100)) (37 / 100) 5 false .gtc) ∧
      shareAmount false (signedAmounts (some (1 / 100)) (37 / 100) 5 false .gtc) ≤
        5 + roundDownSlack / 100 := by
  obtain ⟨hgrid, himplies, hwithin, hpos⟩ := clob_order_amounts_follow_grid_price
    (some (1 / 100)) (37 / 100) 5 false .gtc (by norm_num) (by norm_num) (by norm_num)
  have halign : TickAligned (some (1 / 100)) (37 / 100) := by
    refine ⟨37, ?_⟩
    decide +kernel
  have hprice := hgrid.aligned halign
  obtain ⟨hmaker, htaker⟩ := hpos halign (by norm_num) (by norm_num)
  have hleast := (himplies hmaker htaker).at_least_on_grid rfl
  rw [hprice] at hleast
  exact ⟨hmaker, hleast halign, hwithin.sell rfl⟩

/-- In turn: a FAK buy at a tick-aligned price, a resting buy and a FAK sell off the grid, a
resting buy of more than 2^64 units, a size and a notional just below a cent step, and a price
on a tick that the rounding classes do not know. -/
theorem implied_price_worse_than_requested :
    87 / 100 < impliedPrice true (signedAmounts (some (1 / 100)) (87 / 100) (46 / 10) true .fak) ∧
      (456 / 1000 <
          impliedPrice true (signedAmounts (some (1 / 100)) (456 / 1000) 10 true .gtc) ∧
        456 / 1000 * 10 <
          usdcAmount true (signedAmounts (some (1 / 100)) (456 / 1000) 10 true .gtc)) ∧
      impliedPrice false (signedAmounts (some (1 / 100)) (459 / 1000) 10 false .fak) <
        459 / 1000 ∧
      1 / 100 < impliedPrice true (signedAmounts (some (1 / 100)) (1 / 100) (10 ^ 14) true .gtc) ∧
      1 / 100 - 1 / 10 ^ 12 < shareAmount false
        (signedAmounts (some (1 / 100)) (1 / 2) (1 / 100 - 1 / 10 ^ 12) false .gtc) ∧
      1 / 2 * (2 / 100 - 1 / 10 ^ 12) < usdcAmount true
        (signedAmounts (some (1 / 100)) (1 / 2) (2 / 100 - 1 / 10 ^ 12) true .fak) ∧
      (signedAmounts (some (1 / 200)) (1 / 200) 2 false .fak).2 = 0 := by
  decide +kernel

end Signed

end PolymarketBot.Exchange
