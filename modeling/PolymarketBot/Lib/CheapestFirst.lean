import Mathlib.Algebra.Order.BigOperators.Group.List
import Mathlib.Algebra.Order.Field.Basic
import Mathlib.Algebra.BigOperators.Group.List.Basic
import Mathlib.Algebra.BigOperators.Ring.Finset
import Mathlib.Tactic.Linarith
import Mathlib.Tactic.Ring

/-! Taking a quantity from priced levels of limited size. Filling from the cheapest level on costs
no more than any other way of taking the same quantity. -/

namespace PolymarketBot.Lib.CheapestFirst
variable {ι α : Type*} [Field α] (price size : ι → α)

def total (taken : List (ι × α)) : α := (taken.map Prod.snd).sum

def cost (taken : List (ι × α)) : α := (taken.map fun p => p.2 * price p.1).sum

variable {price size}

@[simp] theorem total_nil : total ([] : List (ι × α)) = 0 := rfl

@[simp] theorem total_cons (p : ι × α) (taken : List (ι × α)) :
    total (p :: taken) = p.2 + total taken := by
  simp [total]

@[simp] theorem cost_nil : cost price [] = 0 := rfl

@[simp] theorem cost_cons (p : ι × α) (taken : List (ι × α)) :
    cost price (p :: taken) = p.2 * price p.1 + cost price taken := by
  simp [cost]

theorem total_append (taken more : List (ι × α)) :
    total (taken ++ more) = total taken + total more := by
  simp [total]

theorem cost_append (taken more : List (ι × α)) :
    cost price (taken ++ more) = cost price taken + cost price more := by
  simp [cost]

/-- Nothing of each level. -/
def untouched (levels : List ι) : List (ι × α) := levels.map fun level => (level, 0)

theorem total_untouched (levels : List ι) : total (untouched levels : List (ι × α)) = 0 := by
  induction levels with
  | nil => rfl
  | cons level rest ih => simpa [untouched] using ih

theorem cost_untouched (levels : List ι) : cost price (untouched levels) = 0 := by
  induction levels with
  | nil => rfl
  | cons level rest ih => simpa [untouched] using ih

theorem cost_sub_margin (margin : α) (taken : List (ι × α)) :
    cost price taken - margin * total taken =
      (taken.map fun p => p.2 * (price p.1 - margin)).sum := by
  induction taken with
  | nil => simp
  | cons p rest ih =>
    rw [List.map_cons, List.sum_cons, ← ih, cost_cons, total_cons]
    ring

variable [LinearOrder α]

/-- A way of taking the quantity: a part of every level. -/
structure Taking (size : ι → α) (levels : List ι) (qty : α) (taken : List (ι × α)) : Prop where
  levels : (taken.map Prod.fst).Perm levels
  within : ∀ p ∈ taken, 0 ≤ p.2 ∧ p.2 ≤ size p.1
  total : total taken = qty

def cheapestFirst (size : ι → α) : α → List ι → List (ι × α)
  | _, [] => []
  | qty, level :: rest =>
    (level, min (size level) qty) :: cheapestFirst size (qty - min (size level) qty) rest

theorem cheapestFirst_levels (size : ι → α) (qty : α) (levels : List ι) :
    (cheapestFirst size qty levels).map Prod.fst = levels := by
  induction levels generalizing qty with
  | nil => rfl
  | cons level rest ih => simp [cheapestFirst, ih]

theorem cheapestFirst_zero {levels : List ι} (hsize : ∀ level ∈ levels, 0 ≤ size level) :
    ∀ p ∈ cheapestFirst size 0 levels, p.2 = 0 := by
  induction levels with
  | nil => simp [cheapestFirst]
  | cons level rest ih =>
    have hmin : min (size level) 0 = 0 := min_eq_right (hsize level (by simp))
    rw [cheapestFirst, hmin, sub_zero]
    intro p hp
    rcases List.mem_cons.mp hp with rfl | hp
    · rfl
    · exact ih (fun other hother => hsize other (by simp [hother])) p hp

/-! ### The depth at each price -/

def depthAt (price size : ι → α) (levels : List ι) (p : α) : α :=
  ((levels.filter (price · = p)).map size).sum

/-- The size of the levels up to a price. -/
def depthUpTo (price size : ι → α) (limit : α) (levels : List ι) : α :=
  ((levels.filter (price · ≤ limit)).map size).sum

theorem depthAt_cons (level : ι) (levels : List ι) (p : α) :
    depthAt price size (level :: levels) p =
      (if price level = p then size level else 0) + depthAt price size levels p := by
  unfold depthAt
  split_ifs with h <;> simp [h]

theorem weighted_eq (g : α → α) {levels : List ι} {prices : Finset α}
    (h : ∀ level ∈ levels, price level ∈ prices) :
    (levels.map fun level => size level * g (price level)).sum =
      ∑ p ∈ prices, depthAt price size levels p * g p := by
  induction levels with
  | nil => simp [depthAt]
  | cons level rest ih =>
    have hrest := ih fun other hother => h other (List.mem_cons_of_mem _ hother)
    have hhere : price level ∈ prices := h level (List.mem_cons_self ..)
    rw [List.map_cons, List.sum_cons, hrest]
    simp [depthAt_cons, add_mul, Finset.sum_add_distrib, ite_mul, hhere]

theorem weighted_congr {levels levels' : List ι}
    (h : ∀ p, depthAt price size levels p = depthAt price size levels' p) (g : α → α) :
    (levels.map fun level => size level * g (price level)).sum =
      (levels'.map fun level => size level * g (price level)).sum := by
  let prices := (levels.map price ++ levels'.map price).toFinset
  have hleft : ∀ level ∈ levels, price level ∈ prices := fun level hlevel => by
    simpa [prices] using Or.inl ⟨level, hlevel, rfl⟩
  have hright : ∀ level ∈ levels', price level ∈ prices := fun level hlevel => by
    simpa [prices] using Or.inr ⟨level, hlevel, rfl⟩
  rw [weighted_eq g hleft, weighted_eq g hright]
  exact Finset.sum_congr rfl fun p _ => by rw [h]

/-! ### Filling from the cheapest level on -/

variable [IsStrictOrderedRing α]

theorem cheapestFirst_within {qty : α} {levels : List ι} (hqty : 0 ≤ qty)
    (hsize : ∀ level ∈ levels, 0 ≤ size level) :
    ∀ p ∈ cheapestFirst size qty levels, 0 ≤ p.2 ∧ p.2 ≤ size p.1 := by
  induction levels generalizing qty with
  | nil => simp [cheapestFirst]
  | cons level rest ih =>
    have hlevel : 0 ≤ size level := hsize level (by simp)
    have hrest : 0 ≤ qty - min (size level) qty := sub_nonneg.mpr (min_le_right _ _)
    intro p hp
    rcases List.mem_cons.mp hp with rfl | hp
    · exact ⟨le_min hlevel hqty, min_le_left _ _⟩
    · exact ih hrest (fun other hother => hsize other (by simp [hother])) p hp

theorem cheapestFirst_total {qty : α} {levels : List ι} (hqty : 0 ≤ qty)
    (hsize : ∀ level ∈ levels, 0 ≤ size level) :
    total (cheapestFirst size qty levels) = min qty (levels.map size).sum := by
  induction levels generalizing qty with
  | nil => simp [cheapestFirst, hqty]
  | cons level rest ih =>
    have hrest : ∀ other ∈ rest, 0 ≤ size other := fun other hother => hsize other (by simp [hother])
    have hsum : 0 ≤ (rest.map size).sum := List.sum_nonneg (by simpa using hrest)
    rw [cheapestFirst, total_cons, ih (sub_nonneg.mpr (min_le_right _ _)) hrest, List.map_cons,
      List.sum_cons]
    rcases le_total (size level) qty with h | h
    · rw [min_eq_left h, ← min_add_add_left, add_sub_cancel]
    · rw [min_eq_right h, sub_self, min_eq_left hsum, min_eq_left (by linarith), add_zero]

theorem cost_le_limit {limit : α} {taken : List (ι × α)}
    (h : ∀ p ∈ taken, p.2 = 0 ∨ (0 ≤ p.2 ∧ price p.1 ≤ limit)) :
    cost price taken ≤ limit * total taken := by
  induction taken with
  | nil => simp
  | cons p rest ih =>
    have hpart : p.2 * price p.1 ≤ limit * p.2 := by
      rcases h p (by simp) with hzero | ⟨hpart, hprice⟩
      · simp [hzero]
      · rw [mul_comm limit]
        exact mul_le_mul_of_nonneg_left hprice hpart
    rw [cost_cons, total_cons, mul_add]
    exact add_le_add hpart (ih fun q hq => h q (by simp [hq]))

/-! ### The marginal price -/

/-- Cheaper levels are taken whole and dearer ones not at all. -/
def Marginal (price size : ι → α) (margin : α) (taken : List (ι × α)) : Prop :=
  ∀ p ∈ taken, (price p.1 < margin → p.2 = size p.1) ∧ (margin < price p.1 → p.2 = 0)

theorem exists_marginal {qty : α} {levels : List ι}
    (hsorted : levels.Pairwise fun a b => price a ≤ price b)
    (hsize : ∀ level ∈ levels, 0 ≤ size level) (hqty : 0 < qty)
    (henough : qty ≤ (levels.map size).sum) :
    ∃ level ∈ levels, Marginal price size (price level) (cheapestFirst size qty levels) := by
  induction levels generalizing qty with
  | nil => exact absurd hqty (by simpa using henough)
  | cons level rest ih =>
    obtain ⟨hfirst, hsorted⟩ := List.pairwise_cons.mp hsorted
    have hrest : ∀ other ∈ rest, 0 ≤ size other := fun other hother => hsize other (by simp [hother])
    rcases le_or_gt qty (size level) with h | h
    · refine ⟨level, by simp, ?_⟩
      rw [cheapestFirst, min_eq_right h, sub_self]
      intro p hp
      rcases List.mem_cons.mp hp with rfl | hp
      · exact ⟨fun hlt => absurd hlt (lt_irrefl _), fun hlt => absurd hlt (lt_irrefl _)⟩
      · have hlevel : p.1 ∈ rest := by
          rw [← cheapestFirst_levels size 0 rest]
          exact List.mem_map_of_mem hp
        exact ⟨fun hlt => absurd hlt (hfirst _ hlevel).not_gt,
          fun _ => cheapestFirst_zero hrest p hp⟩
    · have hleft : qty - size level ≤ (rest.map size).sum := by
        rw [List.map_cons, List.sum_cons] at henough
        linarith
      obtain ⟨other, hother, hmarginal⟩ := ih hsorted hrest (sub_pos.mpr h) hleft
      refine ⟨other, by simp [hother], ?_⟩
      rw [cheapestFirst, min_eq_left h.le]
      intro p hp
      rcases List.mem_cons.mp hp with rfl | hp
      · exact ⟨fun _ => rfl, fun hlt => absurd hlt (hfirst other hother).not_gt⟩
      · exact hmarginal p hp

/-! ### Optimality -/

/-- What a level can at most take off the cost at the margin. -/
def reach (price size : ι → α) (margin : α) (level : ι) : α :=
  size level * min (price level - margin) 0

theorem reach_le {margin part : α} {level : ι} (hpart : 0 ≤ part) (hle : part ≤ size level) :
    reach price size margin level ≤ part * (price level - margin) := by
  unfold reach
  rcases le_total (price level - margin) 0 with h | h
  · rw [min_eq_left h]
    exact mul_le_mul_of_nonpos_right hle h
  · rw [min_eq_right h, mul_zero]
    exact mul_nonneg hpart h

theorem Marginal.eq_reach {margin : α} {taken : List (ι × α)}
    (h : Marginal price size margin taken) {p : ι × α} (hp : p ∈ taken) :
    p.2 * (price p.1 - margin) = reach price size margin p.1 := by
  unfold reach
  rcases lt_trichotomy (price p.1) margin with hlt | heq | hgt
  · rw [(h p hp).1 hlt, min_eq_left (sub_nonpos.mpr hlt.le)]
  · rw [heq, sub_self, min_self, mul_zero, mul_zero]
  · rw [(h p hp).2 hgt, min_eq_right (sub_nonneg.mpr hgt.le), zero_mul, mul_zero]

/-- What the levels together can take off the cost at the margin. -/
def reachSum (price size : ι → α) (margin : α) (levels : List ι) : α :=
  (levels.map (reach price size margin)).sum

theorem Marginal.cost_eq {margin qty : α} {levels : List ι} {taken : List (ι × α)}
    (h : Marginal price size margin taken) (htaken : Taking size levels qty taken) :
    cost price taken = margin * qty + reachSum price size margin levels := by
  have hreach : (taken.map fun p => p.2 * (price p.1 - margin)).sum =
      reachSum price size margin levels := by
    rw [reachSum, ← (htaken.levels.map _).sum_eq, List.map_map]
    exact congrArg List.sum (List.map_congr_left fun p hp => h.eq_reach hp)
  rw [← hreach, ← cost_sub_margin, htaken.total, add_sub_cancel]

theorem Taking.le_cost {qty : α} {levels : List ι} {taken : List (ι × α)}
    (h : Taking size levels qty taken) (margin : α) :
    margin * qty + reachSum price size margin levels ≤ cost price taken := by
  have hleast : reachSum price size margin levels ≤
      (taken.map fun p => p.2 * (price p.1 - margin)).sum := by
    rw [reachSum, ← (h.levels.map _).sum_eq, List.map_map]
    exact List.sum_le_sum fun p hp => reach_le (h.within p hp).1 (h.within p hp).2
  rw [← cost_sub_margin, h.total] at hleast
  exact le_sub_iff_add_le'.mp hleast

theorem Marginal.cost_le {margin qty : α} {levels : List ι} {taken other : List (ι × α)}
    (h : Marginal price size margin taken) (htaken : Taking size levels qty taken)
    (hother : Taking size levels qty other) : cost price taken ≤ cost price other := by
  rw [h.cost_eq htaken]
  exact hother.le_cost margin

/-! ### Books -/

/-- Levels from the cheapest on. -/
structure Book (price size : ι → α) (levels : List ι) : Prop where
  sorted : levels.Pairwise fun a b => price a ≤ price b
  nonneg : ∀ level ∈ levels, 0 ≤ size level

def leastCost (price size : ι → α) (levels : List ι) (qty : α) : α :=
  cost price (cheapestFirst size qty levels)

namespace Book
variable {levels levels' : List ι} {qty qty' : α}

theorem taking (h : Book price size levels) (hqty : 0 ≤ qty) (henough : qty ≤ (levels.map size).sum) :
    Taking size levels qty (cheapestFirst size qty levels) where
  levels := by rw [cheapestFirst_levels]
  within := cheapestFirst_within hqty h.nonneg
  total := by rw [cheapestFirst_total hqty h.nonneg, min_eq_left henough]

theorem exists_margin (h : Book price size levels) (hqty : 0 < qty)
    (henough : qty ≤ (levels.map size).sum) : ∃ level ∈ levels, leastCost price size levels qty =
      price level * qty + reachSum price size (price level) levels := by
  obtain ⟨level, hlevel, hmarginal⟩ := exists_marginal h.sorted h.nonneg hqty henough
  exact ⟨level, hlevel, hmarginal.cost_eq (h.taking hqty.le henough)⟩

theorem le_leastCost (h : Book price size levels) (hqty : 0 ≤ qty)
    (henough : qty ≤ (levels.map size).sum) (margin : α) :
    margin * qty + reachSum price size margin levels ≤ leastCost price size levels qty :=
  (h.taking hqty henough).le_cost margin

theorem leastCost_le (h : Book price size levels) (hqty : 0 < qty)
    (henough : qty ≤ (levels.map size).sum) {taken : List (ι × α)}
    (htaken : Taking size levels qty taken) : leastCost price size levels qty ≤ cost price taken := by
  obtain ⟨level, -, heq⟩ := h.exists_margin hqty henough
  rw [heq]
  exact htaken.le_cost _

theorem reachSum_nonpos (h : Book price size levels) (margin : α) :
    reachSum price size margin levels ≤ 0 := by
  have hparts := List.sum_le_card_nsmul (levels.map (reach price size margin)) 0 fun part hpart => by
    obtain ⟨level, hlevel, rfl⟩ := List.mem_map.mp hpart
    exact mul_nonpos_of_nonneg_of_nonpos (h.nonneg level hlevel) (min_le_right _ _)
  simpa [reachSum] using hparts

theorem leastCost_step (h : Book price size levels) (h' : Book price size levels')
    (hsame : ∀ margin, reachSum price size margin levels = reachSum price size margin levels')
    (hqty : 0 ≤ qty) (hle : qty ≤ qty') (hpos : 0 < qty') (henough : qty ≤ (levels.map size).sum)
    (henough' : qty' ≤ (levels'.map size).sum) {limit : α}
    (hlimit : ∀ level ∈ levels', price level ≤ limit) :
    leastCost price size levels' qty' ≤
      leastCost price size levels qty + limit * (qty' - qty) := by
  obtain ⟨level, hlevel, heq⟩ := h'.exists_margin hpos henough'
  have hbelow := h.le_leastCost hqty henough (price level)
  have hstep : price level * (qty' - qty) ≤ limit * (qty' - qty) :=
    mul_le_mul_of_nonneg_right (hlimit level hlevel) (sub_nonneg.mpr hle)
  rw [heq, ← hsame]
  linarith

theorem average_mono (h : Book price size levels) (h' : Book price size levels')
    (hsame : ∀ margin, reachSum price size margin levels = reachSum price size margin levels')
    (hqty : 0 < qty) (hle : qty ≤ qty') (henough : qty ≤ (levels.map size).sum)
    (henough' : qty' ≤ (levels'.map size).sum) :
    leastCost price size levels qty / qty ≤ leastCost price size levels' qty' / qty' := by
  obtain ⟨level, hlevel, heq⟩ := h.exists_margin hqty henough
  have hqty' : 0 < qty' := hqty.trans_le hle
  have habove := h'.le_leastCost hqty'.le henough' (price level)
  rw [← hsame] at habove
  have hreach := h.reachSum_nonpos (price level)
  rw [div_le_div_iff₀ hqty hqty', heq]
  have hdifference : reachSum price size (price level) levels * (qty' - qty) ≤ 0 :=
    mul_nonpos_of_nonpos_of_nonneg hreach (sub_nonneg.mpr hle)
  have hscaled := mul_le_mul_of_nonneg_right habove hqty.le
  linarith

end Book

end PolymarketBot.Lib.CheapestFirst
