import Mathlib.Algebra.Order.Floor.Ring
import Mathlib.Algebra.Order.Round
import Mathlib.Tactic.Linarith
import Mathlib.Tactic.FieldSimp
import Mathlib.Tactic.Positivity
import Mathlib.Tactic.Ring

/-! Rounding to the grid of multiples of `1 / f`: down with a slack that forgives a value
just below a grid point, and to the nearest point, half away from zero. -/

namespace PolymarketBot.Lib

section Field
variable {α : Type*} [Field α]

def OnGrid (f x : α) : Prop := ∃ k : ℤ, x = k / f

theorem OnGrid.mul {f g x y : α} (hx : OnGrid f x) (hy : OnGrid g y) : OnGrid (f * g) (x * y) := by
  obtain ⟨j, rfl⟩ := hx
  obtain ⟨k, rfl⟩ := hy
  exact ⟨j * k, by push_cast; rw [div_mul_div_comm]⟩

theorem OnGrid.refine [CharZero α] {f x : α} (hx : OnGrid f x) (n : ℕ) (hn : 0 < n) :
    OnGrid (f * n) x := by
  obtain ⟨j, rfl⟩ := hx
  have hn' : (n : α) ≠ 0 := by exact_mod_cast hn.ne'
  exact ⟨j * n, by push_cast; rw [mul_div_mul_right _ _ hn']⟩

theorem OnGrid.zero {f : α} : OnGrid f 0 := ⟨0, by simp⟩

theorem OnGrid.add {f x y : α} (hx : OnGrid f x) (hy : OnGrid f y) : OnGrid f (x + y) := by
  obtain ⟨j, rfl⟩ := hx
  obtain ⟨k, rfl⟩ := hy
  exact ⟨j + k, by push_cast; ring⟩

theorem OnGrid.sub {f x y : α} (hx : OnGrid f x) (hy : OnGrid f y) : OnGrid f (x - y) := by
  obtain ⟨j, rfl⟩ := hx
  obtain ⟨k, rfl⟩ := hy
  exact ⟨j - k, by push_cast; ring⟩

theorem OnGrid.max [LinearOrder α] {f x y : α} (hx : OnGrid f x) (hy : OnGrid f y) :
    OnGrid f (max x y) := by
  rcases max_choice x y with h | h
  · rwa [h]
  · rwa [h]

end Field

variable {α : Type*} [Field α] [LinearOrder α] [FloorRing α]

def gridFloor (f slack x : α) : α := ⌊x * f + slack⌋ / f

def gridCeil (f x : α) : α := ⌈x * f⌉ / f

def roundHalfAway (x : α) : ℤ := if 0 ≤ x then ⌊x + 1 / 2⌋ else ⌈x - 1 / 2⌉

def gridNearest (f shift x : α) : α := roundHalfAway ((x + shift) * f) / f

/-- The nearest integer, a half to the even one. -/
def roundHalfEven (x : α) : ℤ :=
  if x - ⌊x⌋ < 1 / 2 then ⌊x⌋
  else if 1 / 2 < x - ⌊x⌋ then ⌊x⌋ + 1
  else if ⌊x⌋ % 2 = 0 then ⌊x⌋ else ⌊x⌋ + 1

variable {f slack shift x y : α}

theorem gridFloor_onGrid : OnGrid f (gridFloor f slack x) := ⟨_, rfl⟩

theorem gridCeil_onGrid : OnGrid f (gridCeil f x) := ⟨_, rfl⟩

theorem gridNearest_onGrid : OnGrid f (gridNearest f shift x) := ⟨_, rfl⟩

theorem roundHalfEven_nonneg (hx : 0 ≤ x) : 0 ≤ roundHalfEven x := by
  have hfloor : 0 ≤ ⌊x⌋ := Int.floor_nonneg.mpr hx
  unfold roundHalfEven
  split_ifs <;> omega

variable [IsStrictOrderedRing α]

theorem floor_add_half_le_iff : (⌊x + 1 / 2⌋ : α) ≤ x ↔ Int.fract x < 1 / 2 := by
  rw [← Int.le_floor, ← Int.lt_add_one_iff, Int.floor_lt, Int.fract]
  push_cast
  constructor <;> intro h <;> linarith

theorem OnGrid.le_gridFloor_iff (hf : 0 < f) (hy : OnGrid f y) :
    y ≤ gridFloor f slack x ↔ y ≤ x + slack / f := by
  obtain ⟨k, rfl⟩ := hy
  have hx : x + slack / f = (x * f + slack) / f := by field_simp
  rw [gridFloor, hx, div_le_div_iff_of_pos_right hf, div_le_div_iff_of_pos_right hf, Int.cast_le]
  exact Int.le_floor

theorem OnGrid.gridCeil_le_iff (hf : 0 < f) (hy : OnGrid f y) : gridCeil f x ≤ y ↔ x ≤ y := by
  obtain ⟨k, rfl⟩ := hy
  rw [gridCeil, div_le_div_iff_of_pos_right hf, le_div_iff₀ hf, Int.cast_le]
  exact Int.ceil_le

theorem OnGrid.step_le (hf : 0 < f) (hx : OnGrid f x) (hpos : 0 < x) : 1 / f ≤ x := by
  obtain ⟨k, rfl⟩ := hx
  have hk : (0 : α) < k := (div_pos_iff_of_pos_right hf).mp hpos
  have h1 : (1 : α) ≤ k := by exact_mod_cast Int.add_one_le_iff.mpr (Int.cast_pos.mp hk)
  exact div_le_div_of_nonneg_right h1 hf.le

theorem le_gridCeil (hf : 0 < f) : x ≤ gridCeil f x :=
  (gridCeil_onGrid.gridCeil_le_iff hf).mp le_rfl

theorem gridFloor_le (hf : 0 < f) : gridFloor f slack x ≤ x + slack / f := by
  have h : (⌊x * f + slack⌋ : α) ≤ x * f + slack := Int.floor_le _
  have hx : x + slack / f = (x * f + slack) / f := by field_simp
  rw [gridFloor, hx]
  exact div_le_div_of_nonneg_right h hf.le

theorem lt_gridFloor_add (hf : 0 < f) (hs : 0 ≤ slack) : x < gridFloor f slack x + 1 / f := by
  have h : x * f + slack < ⌊x * f + slack⌋ + 1 := Int.lt_floor_add_one _
  have hx : x * f < ⌊x * f + slack⌋ + 1 := by linarith
  calc x = x * f / f := by field_simp
    _ < (⌊x * f + slack⌋ + 1) / f := div_lt_div_of_pos_right hx hf
    _ = gridFloor f slack x + 1 / f := by rw [gridFloor]; ring

theorem gridFloor_mono (hf : 0 < f) (h : x ≤ y) : gridFloor f slack x ≤ gridFloor f slack y := by
  have hm : x * f + slack ≤ y * f + slack := by nlinarith
  have hz : (⌊x * f + slack⌋ : α) ≤ ⌊y * f + slack⌋ := by exact_mod_cast Int.floor_mono hm
  exact div_le_div_of_nonneg_right hz hf.le

theorem gridFloor_of_onGrid (hf : 0 < f) (hs : 0 ≤ slack) (hs1 : slack < 1) (h : OnGrid f x) :
    gridFloor f slack x = x := by
  obtain ⟨k, rfl⟩ := h
  have hk : (k : α) / f * f = k := by field_simp
  have hz : ⌊slack⌋ = 0 := Int.floor_eq_zero_iff.mpr ⟨hs, hs1⟩
  rw [gridFloor, hk, Int.floor_intCast_add, hz, add_zero]

theorem gridFloor_le_of_fine (hf : 0 < f) (n : ℕ) (hn : slack * n < 1) (hn0 : 0 < n)
    (h : OnGrid (f * n) x) : gridFloor f slack x ≤ x := by
  obtain ⟨k, rfl⟩ := h
  have hn' : (0 : α) < n := by exact_mod_cast hn0
  have hk : (k : α) / (f * n) * f = k / n := by field_simp
  have hfl : (⌊(k : α) / n + slack⌋ : α) ≤ k / n + slack := Int.floor_le _
  have hlt : (⌊(k : α) / n + slack⌋ : α) * n < k + 1 := by
    calc (⌊(k : α) / n + slack⌋ : α) * n ≤ (k / n + slack) * n :=
          mul_le_mul_of_nonneg_right hfl hn'.le
      _ = k + slack * n := by field_simp
      _ < k + 1 := by linarith
  have hz : ⌊(k : α) / n + slack⌋ * n ≤ k := by
    have : ⌊(k : α) / n + slack⌋ * n < k + 1 := by exact_mod_cast hlt
    omega
  have hq : (⌊(k : α) / n + slack⌋ : α) * n ≤ k := by exact_mod_cast hz
  rw [gridFloor, hk, div_le_div_iff₀ hf (by positivity)]
  nlinarith

theorem gridFloor_nonneg (hf : 0 < f) (hs : 0 ≤ slack) (hx : 0 ≤ x) : 0 ≤ gridFloor f slack x := by
  have h : 0 ≤ ⌊x * f + slack⌋ := Int.floor_nonneg.mpr (by positivity)
  have hz : (0 : α) ≤ ⌊x * f + slack⌋ := by exact_mod_cast h
  exact div_nonneg hz hf.le

theorem gridFloor_ge_step (hf : 0 < f) (hs : 0 ≤ slack) (hx : 1 / f ≤ x) :
    1 / f ≤ gridFloor f slack x := by
  have h1 : 1 ≤ x * f := by
    have := mul_le_mul_of_nonneg_right hx hf.le
    rwa [one_div_mul_cancel hf.ne'] at this
  have h : 1 ≤ ⌊x * f + slack⌋ := Int.le_floor.mpr (by push_cast; linarith)
  have hz : (1 : α) ≤ ⌊x * f + slack⌋ := by exact_mod_cast h
  exact div_le_div_of_nonneg_right hz hf.le

theorem abs_roundHalfAway_sub_le : |(roundHalfAway x : α) - x| ≤ 1 / 2 := by
  unfold roundHalfAway
  split
  · have h1 := Int.floor_le (x + 1 / 2)
    have h2 := Int.lt_floor_add_one (x + 1 / 2)
    rw [abs_le]
    constructor <;> linarith
  · have h1 := Int.le_ceil (x - 1 / 2)
    have h2 := Int.ceil_lt_add_one (x - 1 / 2)
    rw [abs_le]
    constructor <;> linarith

theorem abs_roundHalfEven_sub_le : |(roundHalfEven x : α) - x| ≤ 1 / 2 := by
  have hle := Int.floor_le x
  have hlt := Int.lt_floor_add_one x
  unfold roundHalfEven
  rw [abs_le]
  split_ifs with hdown hup
  · constructor <;> linarith
  · push_cast
    constructor <;> linarith
  · constructor <;> linarith
  · push_cast
    constructor <;> linarith

theorem gridNearest_mono (hf : 0 < f) (hs : 0 ≤ shift) (hx : 0 ≤ x) (h : x ≤ y) :
    gridNearest f shift x ≤ gridNearest f shift y := by
  have hm : (x + shift) * f + 1 / 2 ≤ (y + shift) * f + 1 / 2 := by nlinarith
  have hxs : 0 ≤ (x + shift) * f := by positivity
  have hys : 0 ≤ (y + shift) * f := by nlinarith
  have hz : (⌊(x + shift) * f + 1 / 2⌋ : α) ≤ ⌊(y + shift) * f + 1 / 2⌋ := by
    exact_mod_cast Int.floor_mono hm
  rw [gridNearest, gridNearest, roundHalfAway, roundHalfAway, if_pos hxs, if_pos hys]
  exact div_le_div_of_nonneg_right hz hf.le

theorem abs_gridNearest_sub_le (hf : 0 < f) (hs : 0 ≤ shift) :
    |gridNearest f shift x - x| ≤ 1 / 2 / f + shift := by
  have h : |(roundHalfAway ((x + shift) * f) : α) - (x + shift) * f| ≤ 1 / 2 :=
    abs_roundHalfAway_sub_le
  have hd : gridNearest f shift x - x =
      (roundHalfAway ((x + shift) * f) - (x + shift) * f) / f + shift := by
    rw [gridNearest]
    field_simp
    ring
  calc |gridNearest f shift x - x|
      ≤ |(roundHalfAway ((x + shift) * f) - (x + shift) * f) / f| + |shift| := by
        rw [hd]
        exact abs_add_le _ _
    _ = |(roundHalfAway ((x + shift) * f) : α) - (x + shift) * f| / f + shift := by
        rw [abs_div, abs_of_pos hf, abs_of_nonneg hs]
    _ ≤ 1 / 2 / f + shift := by
        have := div_le_div_of_nonneg_right h hf.le
        linarith

theorem gridNearest_of_onGrid (hf : 0 < f) (hs : 0 ≤ shift) (hs1 : shift * f < 1 / 2)
    (hx : 0 ≤ x) (h : OnGrid f x) : gridNearest f shift x = x := by
  obtain ⟨k, rfl⟩ := h
  have hk : ((k : α) / f + shift) * f + 1 / 2 = k + (shift * f + 1 / 2) := by
    field_simp
    ring
  have hz : ⌊shift * f + 1 / 2⌋ = 0 :=
    Int.floor_eq_zero_iff.mpr ⟨by positivity, by linarith⟩
  rw [gridNearest, roundHalfAway, if_pos (by positivity), hk, Int.floor_intCast_add, hz, add_zero]

end PolymarketBot.Lib
