import PolymarketBot.AvgRebound.ProfitTarget
import PolymarketBot.Lib.CheapestFirst

/-! The walk through the asks of a book: it fills the cheapest levels first. -/

namespace PolymarketBot.AvgRebound
open Lib Lib.CheapestFirst

/-- The levels a walk can take from, in the order of the book. -/
def validLevels (asks : List BookLevel) : List BookLevel :=
  (asks.filter fun level => 0 < level.price ∧ 0 < level.size).map fun level =>
    ⟨decimalFromF64 level.price, decimalFromF64 level.size⟩

def withinLimit (limitPrice : ℚ) (levels : List BookLevel) : List BookLevel :=
  levels.filter (·.price ≤ limitPrice)

def beyondLimit (limitPrice : ℚ) (levels : List BookLevel) : List BookLevel :=
  levels.filter fun level => !decide (level.price ≤ limitPrice)

def depthWithin (limitPrice : ℚ) (levels : List BookLevel) : ℚ :=
  depthUpTo BookLevel.price BookLevel.size limitPrice levels

/-- The levels a way of taking uses, with what it takes of them. -/
def used (taken : List (BookLevel × ℚ)) : List BookLevel :=
  (taken.filter (0 < ·.2)).map fun p => ⟨p.1.price, p.2⟩

structure CheapestFill (asks : List BookLevel) (qty limitPrice : ℚ) (quote : VwapQuote) : Prop where
  executable : quote.executableQty = qty
  levels_sum : (quote.levels.map (·.size)).sum = qty
  taking : ∃ taken, Taking BookLevel.size (validLevels asks) qty taken ∧
    quote.levels = used taken ∧ quote.notional = cost BookLevel.price taken
  least : ∀ other, Taking BookLevel.size (validLevels asks) qty other →
    quote.notional ≤ cost BookLevel.price other
  vwap_eq : quote.vwap = quote.notional / qty
  vwap_le : quote.vwap ≤ limitPrice

/-! ### The levels -/

theorem decimalFromF64_nonneg {value : ℚ} (h : 0 ≤ value) : 0 ≤ decimalFromF64 value := by
  have hround : (0 : ℤ) ≤ roundHalfEven (value * 10 ^ 12) := roundHalfEven_nonneg (by positivity)
  unfold decimalFromF64
  exact div_nonneg (by exact_mod_cast hround) (by norm_num)

theorem validLevels_size_nonneg {asks : List BookLevel} :
    ∀ level ∈ validLevels asks, 0 ≤ level.size := by
  intro level hlevel
  obtain ⟨source, hsource, rfl⟩ := List.mem_map.mp hlevel
  have hpos := (List.mem_filter.mp hsource).2
  simp only [decide_eq_true_eq] at hpos
  exact decimalFromF64_nonneg hpos.2.le

theorem askLevels_perm (asks : List BookLevel) : (askLevels asks).Perm (validLevels asks) :=
  List.perm_insertionSort _ _

theorem askLevels_sorted (asks : List BookLevel) :
    (askLevels asks).Pairwise fun a b => a.price ≤ b.price :=
  List.pairwise_insertionSort (fun a b : BookLevel => a.price ≤ b.price) _

theorem within_beyond_perm (limitPrice : ℚ) (levels : List BookLevel) :
    (withinLimit limitPrice levels ++ beyondLimit limitPrice levels).Perm levels :=
  List.filter_append_perm _ _

theorem depthWithin_askLevels (limitPrice : ℚ) (asks : List BookLevel) :
    depthWithin limitPrice (askLevels asks) = depthWithin limitPrice (validLevels asks) :=
  (((askLevels_perm asks).filter _).map _).sum_eq

/-! ### One level of the walk -/

variable {limitPrice : ℚ}

theorem BookWalk.take_beyond {walk : BookWalk} {level : BookLevel} (h : limitPrice < level.price) :
    walk.take limitPrice level = walk := by
  unfold BookWalk.take
  rw [if_pos (Or.inl h)]

/-- Adding a part of a level to what was taken. -/
def BookWalk.add (walk : BookWalk) (taken : List (BookLevel × ℚ)) : BookWalk where
  remaining := walk.remaining - total taken
  executableQty := walk.executableQty + total taken
  notional := walk.notional + cost BookLevel.price taken
  usedLevels := walk.usedLevels ++ used taken

theorem BookWalk.take_within {walk : BookWalk} {level : BookLevel} (hlimit : level.price ≤ limitPrice)
    (hsize : 0 ≤ level.size) (hremaining : 0 ≤ walk.remaining) :
    walk.take limitPrice level = walk.add [(level, min level.size walk.remaining)] := by
  have hmin : qtyMin level.size walk.remaining = min level.size walk.remaining := by
    rw [qtyMin, min_def]
  unfold BookWalk.take BookWalk.add
  rw [hmin]
  by_cases hzero : min level.size walk.remaining ≤ 0
  · -- nothing wanted, or a level without a size: the walk stays as it is
    have hpart : min level.size walk.remaining = 0 := le_antisymm hzero (le_min hsize hremaining)
    simp [hpart, used]
  · have hwanted : 0 < walk.remaining := (not_le.mp hzero).trans_le (min_le_right _ _)
    have hskip : ¬(level.price > limitPrice ∨ walk.remaining ≤ 0) :=
      not_or.mpr ⟨hlimit.not_gt, hwanted.not_ge⟩
    rw [if_neg hskip]
    simp only [hzero, if_false]
    simp [used, not_le.mp hzero]

theorem BookWalk.add_nil (walk : BookWalk) : walk.add [] = walk := by
  simp [BookWalk.add, used]

theorem BookWalk.add_cons (walk : BookWalk) (p : BookLevel × ℚ) (taken : List (BookLevel × ℚ)) :
    (walk.add [p]).add taken = walk.add (p :: taken) := by
  have hused : used [p] ++ used taken = used (p :: taken) := by
    rw [used, used, used, ← List.map_append, ← List.filter_append, List.singleton_append]
  simp [BookWalk.add, ← hused, sub_sub, add_assoc]

theorem walk_eq {levels : List BookLevel} (hsize : ∀ level ∈ levels, 0 ≤ level.size)
    {walk : BookWalk} (hremaining : 0 ≤ walk.remaining) :
    levels.foldl (BookWalk.take limitPrice) walk =
      walk.add (cheapestFirst BookLevel.size walk.remaining (withinLimit limitPrice levels)) := by
  induction levels generalizing walk with
  | nil => exact walk.add_nil.symm
  | cons level rest ih =>
    have hrest : ∀ other ∈ rest, 0 ≤ other.size := fun other hother => hsize other (by simp [hother])
    rw [List.foldl_cons]
    rcases le_or_gt level.price limitPrice with h | h
    · have hleft : 0 ≤ walk.remaining - min level.size walk.remaining :=
        sub_nonneg.mpr (min_le_right _ _)
      have hwithin : withinLimit limitPrice (level :: rest) =
          level :: withinLimit limitPrice rest := by simp [withinLimit, h]
      have hadded : (walk.add [(level, min level.size walk.remaining)]).remaining =
          walk.remaining - min level.size walk.remaining := by simp [BookWalk.add]
      rw [BookWalk.take_within h (hsize level (by simp)) hremaining, hwithin, cheapestFirst,
        ih hrest (by rwa [hadded]), hadded, BookWalk.add_cons]
    · have hwithin : withinLimit limitPrice (level :: rest) = withinLimit limitPrice rest := by
        simp [withinLimit, h]
      rw [BookWalk.take_beyond h, hwithin]
      exact ih hrest hremaining

/-! ### The whole walk -/

theorem used_total {taken : List (BookLevel × ℚ)} (hpart : ∀ p ∈ taken, 0 ≤ p.2) :
    ((used taken).map (·.size)).sum = total taken := by
  induction taken with
  | nil => rfl
  | cons p rest ih =>
    have ih := ih fun q hq => hpart q (by simp [hq])
    rw [total_cons, ← ih]
    unfold used
    rcases (hpart p (by simp)).lt_or_eq with h | h
    · simp [h]
    · simp [← h]

theorem used_append_zero {taken : List (BookLevel × ℚ)} (levels : List BookLevel) :
    used (taken ++ untouched levels) = used taken := by
  have hnone : used (untouched levels) = [] := by
    simp [used, untouched, List.filter_map]
  unfold used at hnone ⊢
  rw [List.filter_append, List.map_append, hnone, List.append_nil]

/-- The walk's way of taking the quantity: nothing from the levels beyond the limit. -/
def walkTaking (limitPrice qty : ℚ) (asks : List BookLevel) : List (BookLevel × ℚ) :=
  cheapestFirst BookLevel.size qty (withinLimit limitPrice (askLevels asks)) ++
    untouched (beyondLimit limitPrice (askLevels asks))

section Taken
variable {asks : List BookLevel} {qty : ℚ}

theorem askLevels_size_nonneg : ∀ level ∈ askLevels asks, 0 ≤ level.size :=
  fun level hlevel => validLevels_size_nonneg level ((askLevels_perm asks).mem_iff.mp hlevel)

theorem withinLimit_size_nonneg :
    ∀ level ∈ withinLimit limitPrice (askLevels asks), 0 ≤ level.size :=
  fun level hlevel => askLevels_size_nonneg level (List.mem_filter.mp hlevel).1

theorem filled_total (hqty : 0 ≤ qty) :
    total (cheapestFirst BookLevel.size qty (withinLimit limitPrice (askLevels asks))) =
      min qty (depthWithin limitPrice (validLevels asks)) := by
  rw [cheapestFirst_total hqty withinLimit_size_nonneg, ← depthWithin_askLevels]
  rfl

theorem walkTaking_taking (hqty : 0 ≤ qty)
    (henough : qty ≤ depthWithin limitPrice (validLevels asks)) :
    Taking BookLevel.size (validLevels asks) qty (walkTaking limitPrice qty asks) where
  levels := by
    unfold walkTaking
    rw [List.map_append, cheapestFirst_levels, untouched, List.map_map]
    have hid : (Prod.fst ∘ fun level : BookLevel => (level, (0 : ℚ))) = id := rfl
    rw [hid, List.map_id]
    exact (within_beyond_perm limitPrice _).trans (askLevels_perm asks)
  within := by
    intro p hp
    rcases List.mem_append.mp hp with hp | hp
    · exact cheapestFirst_within hqty withinLimit_size_nonneg p hp
    · obtain ⟨level, hlevel, rfl⟩ := List.mem_map.mp hp
      exact ⟨le_rfl, askLevels_size_nonneg level (List.mem_filter.mp hlevel).1⟩
  total := by
    rw [walkTaking, total_append, filled_total hqty, total_untouched, min_eq_left henough, add_zero]

theorem walkTaking_cost :
    cost BookLevel.price (walkTaking limitPrice qty asks) = cost BookLevel.price
      (cheapestFirst BookLevel.size qty (withinLimit limitPrice (askLevels asks))) := by
  rw [walkTaking, cost_append, cost_untouched, add_zero]

theorem walkTaking_cost_le (hqty : 0 < qty)
    (henough : qty ≤ depthWithin limitPrice (validLevels asks)) {other : List (BookLevel × ℚ)}
    (hother : Taking BookLevel.size (validLevels asks) qty other) :
    cost BookLevel.price (walkTaking limitPrice qty asks) ≤ cost BookLevel.price other := by
  have hdepth : qty ≤ ((withinLimit limitPrice (askLevels asks)).map BookLevel.size).sum := by
    rw [← depthWithin_askLevels] at henough
    exact henough
  have hmargin : ∃ level ∈ withinLimit limitPrice (askLevels asks),
      Marginal BookLevel.price BookLevel.size level.price
        (cheapestFirst BookLevel.size qty (withinLimit limitPrice (askLevels asks))) :=
    exists_marginal ((askLevels_sorted asks).filter _) withinLimit_size_nonneg hqty hdepth
  obtain ⟨level, hlevel, hmarginal⟩ := hmargin
  have hlimit : level.price ≤ limitPrice := by simpa using (List.mem_filter.mp hlevel).2
  have hwhole : Marginal BookLevel.price BookLevel.size level.price
      (walkTaking limitPrice qty asks) := by
    intro p hp
    rcases List.mem_append.mp hp with hp | hp
    · exact hmarginal p hp
    · obtain ⟨far, hfar, rfl⟩ := List.mem_map.mp hp
      have hbeyond : limitPrice < far.price := by simpa using (List.mem_filter.mp hfar).2
      exact ⟨fun h => absurd (h.trans_le hlimit) hbeyond.not_gt, fun _ => rfl⟩
  exact hwhole.cost_le (walkTaking_taking hqty.le henough) hother

theorem walkTaking_cost_le_limit (hqty : 0 ≤ qty)
    (henough : qty ≤ depthWithin limitPrice (validLevels asks)) :
    cost BookLevel.price (walkTaking limitPrice qty asks) ≤ limitPrice * qty := by
  have htaking := walkTaking_taking hqty henough
  refine (cost_le_limit fun p hp => ?_).trans_eq (by rw [htaking.total])
  rcases List.mem_append.mp hp with hwithin | hbeyond
  · have hlevel : p.1 ∈ withinLimit limitPrice (askLevels asks) := by
      rw [← cheapestFirst_levels BookLevel.size qty (withinLimit _ _)]
      exact List.mem_map_of_mem hwithin
    exact Or.inr ⟨(htaking.within p hp).1, by simpa using (List.mem_filter.mp hlevel).2⟩
  · obtain ⟨far, -, rfl⟩ := List.mem_map.mp hbeyond
    exact Or.inl rfl

end Taken

theorem walk_end {asks : List BookLevel} {qty : ℚ} (hqty : 0 ≤ qty) :
    (askLevels asks).foldl (BookWalk.take limitPrice) { remaining := qty } =
      { remaining := qty - min qty (depthWithin limitPrice (validLevels asks))
        executableQty := min qty (depthWithin limitPrice (validLevels asks))
        notional := cost BookLevel.price (walkTaking limitPrice qty asks)
        usedLevels := used (walkTaking limitPrice qty asks) } := by
  rw [walk_eq askLevels_size_nonneg hqty, BookWalk.add, filled_total hqty, walkTaking_cost,
    walkTaking, used_append_zero]
  simp

/-- The quantity is filled exactly when there is enough of it within the limit, from the cheapest
levels on and so at the least cost, and never above the limit on average. -/
theorem vwap_walk_optimal (asks : List BookLevel) {qty cap buffer : ℚ} (hqty : 0 < qty)
    (hlimit : 0 < cap - buffer) :
    ((∃ quote, vwapForFokLimit asks qty cap buffer = .ok quote) ↔
        qty ≤ depthWithin (cap - buffer) (validLevels asks)) ∧
      (∀ quote, vwapForFokLimit asks qty cap buffer = .ok quote →
        CheapestFill asks qty (cap - buffer) quote) ∧
      ∀ rejection, vwapForFokLimit asks qty cap buffer = .error rejection →
        rejection.reason ≠ "vwap_above_limit" := by
  have hcost : qty ≤ depthWithin (cap - buffer) (validLevels asks) →
      cost BookLevel.price (walkTaking (cap - buffer) qty asks) ≤ (cap - buffer) * qty :=
    walkTaking_cost_le_limit hqty.le
  unfold vwapForFokLimit
  dsimp only
  rw [if_neg hqty.not_ge, if_neg hlimit.not_ge, walk_end hqty.le]
  dsimp only
  rcases lt_or_ge (depthWithin (cap - buffer) (validLevels asks)) qty with hshort | henough
  · rw [if_pos (by rwa [min_eq_right hshort.le])]
    refine ⟨⟨?_, fun h => absurd h hshort.not_ge⟩, ?_, ?_⟩
    · rintro ⟨_, h⟩
      cases h
    · intro _ h
      cases h
    · intro rejection h
      obtain rfl := Except.error.inj h
      change "insufficient_depth_at_or_below_limit" ≠ "vwap_above_limit"
      decide
  · have hvwap : cost BookLevel.price (walkTaking (cap - buffer) qty asks) / qty ≤ cap - buffer :=
      (div_le_iff₀ hqty).mpr (hcost henough)
    have htaking := walkTaking_taking hqty.le henough
    rw [if_neg (by rw [min_eq_left henough]; exact lt_irrefl qty), if_neg hvwap.not_gt]
    refine ⟨⟨fun _ => henough, fun _ => ⟨_, rfl⟩⟩, ?_, ?_⟩
    · intro quote h
      obtain rfl := Except.ok.inj h
      exact
        { executable := min_eq_left henough
          levels_sum := (used_total fun p hp => (htaking.within p hp).1).trans htaking.total
          taking := ⟨_, htaking, rfl, rfl⟩
          least := fun other hother => walkTaking_cost_le hqty henough hother
          vwap_eq := rfl
          vwap_le := hvwap }
    · intro _ h
      cases h

/-! ### A book out of order -/

def unsortedAsks : List BookLevel :=
  [⟨11 / 20, 20⟩, ⟨9 / 20, 30⟩, ⟨1 / 2, 10⟩]

theorem unsortedAsks_filled :
    ∃ quote, vwapForFokLimit unsortedAsks 35 (1 / 2) 0 = .ok quote ∧
      CheapestFill unsortedAsks 35 (1 / 2 - 0) quote := by
  have hqty : (0 : ℚ) < 35 := by norm_num
  have hlimit : (0 : ℚ) < 1 / 2 - 0 := by norm_num
  have hwalk := vwap_walk_optimal unsortedAsks hqty hlimit
  obtain ⟨quote, hquote⟩ := hwalk.1.mpr (by decide +kernel)
  exact ⟨quote, hquote, hwalk.2.1 quote hquote⟩

end PolymarketBot.AvgRebound
