import PolymarketBot.Builder.ExitLadders

/-! When every target of a ladder plan reaches the market's minimum size. -/

namespace PolymarketBot.ExitLadders
open Lib Builder

variable {K : Type}

/-- No target is below the minimum, no key is lost, and what a stage is consolidated into is
sold. -/
structure MinSizeLaw [DecidableEq K] (currentParentQty orderMinSize : ℚ) (plan : TradeBuilderLadderTargetPlan K) :
    Prop where
  minSize : ∀ target ∈ plan.targets, orderMinSize ≤ target.2 ∨
    (currentParentQty < orderMinSize ∧ plan.targets = [target] ∧
      plan.consolidationTarget = some target.1)
  sorts : SortsKeys plan
  consolidated : ∀ key ∈ plan.consolidationTarget, key ∈ plan.targets.map Prod.fst

def keptStages (weightedKeys : List (K × ℚ)) (parentQty orderMinSize : ℚ) : List (K × ℚ) :=
  (requestedTargets parentQty (total weightedKeys) weightedKeys 0).filter (orderMinSize ≤ ·.2)

/-- What the other kept stages leave to the deepest one is at least the minimum. -/
def DeepestReachesMinSize (weightedKeys : List (K × ℚ)) (currentParentQty orderMinSize : ℚ) :
    Prop :=
  let parentQty := roundTradeBuilderShareQty currentParentQty
  0 < orderMinSize → tradeBuilderExitQtyTolerance < parentQty →
    keptStages weightedKeys parentQty orderMinSize ≠ [] →
      orderMinSize ≤ parentQty - total (keptStages weightedKeys parentQty orderMinSize).dropLast

/-! ### The plan at a minimum size -/

section Plan
variable [DecidableEq K] {requested kept : List (K × ℚ)} {last : K × ℚ}
  {Q m currentParentQty : ℚ}

theorem planAtMinSize_consolidation (h : requested.filter (m ≤ ·.2) = kept ++ [last]) :
    (planAtMinSize requested Q m).consolidationTarget =
      if (planAtMinSize requested Q m).skippedKeys.isEmpty then none else some last.1 := by
  unfold planAtMinSize
  split
  · rename_i hnil
    rw [h] at hnil
    exact absurd hnil (by simp)
  · rename_i hcons
    have hdeepest := congrArg (fun kept => kept.getLast?.map Prod.fst) (hcons.symm.trans h)
    simp only [List.getLast?_append, List.getLast?_singleton, Option.some_or,
      Option.map_some] at hdeepest
    simp only [hdeepest]

theorem minSizeLaw_of_none (h : requested.filter (m ≤ ·.2) = []) :
    MinSizeLaw currentParentQty m (planAtMinSize requested Q m) := by
  refine ⟨?_, planAtMinSize_sortsKeys requested Q m, ?_⟩
  · intro target htarget
    rcases planAtMinSize_none (Q := Q) h with hnone | ⟨hmin, key, hone⟩
    · rw [hnone] at htarget
      cases htarget
    · rw [hone] at htarget
      obtain rfl := List.mem_singleton.mp htarget
      exact Or.inl hmin
  · unfold planAtMinSize
    rw [h]
    dsimp only
    split
    · simp
    · split <;> simp

theorem minSizeLaw_kept_iff (hm : 0 < m) (hQ : OnGrid 100 Q)
    (hrequested : ∀ s ∈ requested, 0 < s.2 ∧ s.2 ≤ Q ∧ OnGrid 100 s.2)
    (hkeys : (requested.map Prod.fst).Nodup)
    (hkept : requested.filter (m ≤ ·.2) = kept ++ [last]) :
    MinSizeLaw currentParentQty m (planAtMinSize requested Q m) ↔ m ≤ Q - total kept := by
  have htargets := planAtMinSize_kept hQ hkept (fun s hs => (hrequested s hs).1)
    (fun s hs => (hrequested s hs).2.2) hkeys
  have hin : ∀ s ∈ kept ++ [last], s ∈ requested ∧ m ≤ s.2 := by
    intro s hs
    rw [← hkept] at hs
    simpa using List.mem_filter.mp hs
  have hlast := hin last (by simp)
  constructor
  · intro law
    by_contra hless
    by_cases hleft : 0 < Q - total kept
    · -- the deepest stage is a target below the minimum, and not the only one
      have htarget : (last.1, Q - total kept) ∈ (planAtMinSize requested Q m).targets := by
        rw [htargets, lastStage, if_pos hleft]
        simp
      rcases law.minSize _ htarget with h | ⟨-, hsingle, -⟩
      · exact hless h
      · rw [htargets, lastStage, if_pos hleft] at hsingle
        have hnil : kept = [] := by simpa using congrArg List.length hsingle
        rw [hnil, total_nil, sub_zero] at hless
        exact hless (hlast.2.trans (hrequested last hlast.1).2.1)
    · -- the deepest stage has nothing left: it is skipped, and still the consolidation target
      have htargets : (planAtMinSize requested Q m).targets = kept := by
        rw [htargets, lastStage, if_neg hleft, List.append_nil]
      have hnot : last.1 ∉ (planAtMinSize requested Q m).targets.map Prod.fst := by
        have hsub : (kept ++ [last]).Sublist requested := hkept ▸ List.filter_sublist
        have hnodup := hkeys.sublist (hsub.map Prod.fst)
        rw [List.map_append, List.nodup_append] at hnodup
        rw [htargets]
        exact fun h => hnodup.2.2 last.1 h last.1 (by simp) rfl
      have hskipped := (planAtMinSize_covers requested Q m last.1
        (List.mem_map_of_mem hlast.1)).mpr hnot
      have hconsolidated : (planAtMinSize requested Q m).consolidationTarget = some last.1 := by
        rw [planAtMinSize_consolidation hkept, if_neg]
        exact fun h => by simp [List.isEmpty_iff.mp h] at hskipped
      exact hnot (law.consolidated last.1 hconsolidated)
  · intro hreach
    have hleft : 0 < Q - total kept := hm.trans_le hreach
    have htargets : (planAtMinSize requested Q m).targets = kept ++ [(last.1, Q - total kept)] := by
      rw [htargets, lastStage, if_pos hleft]
    refine ⟨?_, planAtMinSize_sortsKeys requested Q m, ?_⟩
    · intro target htarget
      rw [htargets] at htarget
      rcases List.mem_append.mp htarget with h | h
      · exact Or.inl (hin target (List.mem_append_left _ h)).2
      · obtain rfl := List.mem_singleton.mp h
        exact Or.inl hreach
    · intro key hkey
      rw [planAtMinSize_consolidation hkept] at hkey
      split at hkey
      · cases hkey
      · obtain rfl := Option.some.inj hkey
        rw [htargets]
        simp

end Plan

/-! ### What is asked for -/

theorem round_le_of_onGrid {share Q : ℚ} (hQ : OnGrid 100 Q) (hQ0 : 0 ≤ Q) (hle : share ≤ Q) :
    roundTradeBuilderShareQty share ≤ Q := by
  have hround : roundTradeBuilderShareQty share = gridFloor 100 (1 / 2) (max share 0) := rfl
  have hsame : roundTradeBuilderShareQty Q = gridFloor 100 (1 / 2) Q := by
    rw [roundTradeBuilderShareQty, max_eq_left hQ0]
    rfl
  rw [hround, ← round_of_onGrid hQ hQ0, hsame]
  exact gridFloor_mono (by norm_num) (max_le hle hQ0)

theorem earlyTargets_le {Q : ℚ} (hQ : OnGrid 100 Q) (hQ0 : 0 ≤ Q) {stages : List (K × ℚ)}
    {last : K × ℚ} (hweights : ∀ s ∈ stages ++ [last], 0 < s.2) :
    ∀ s ∈ earlyTargets Q (total (stages ++ [last])) stages, s.2 ≤ Q := by
  intro s hs
  obtain ⟨stage, hstage, rfl⟩ := List.mem_map.mp (List.mem_filter.mp hs).1
  have hpart : stage.2 ≤ total (stages ++ [last]) := by
    have hsub : [stage].Sublist (stages ++ [last]) :=
      List.singleton_sublist.mpr (List.mem_append_left _ hstage)
    simpa using total_sublist hsub hweights
  have hsum : 0 < total (stages ++ [last]) := total_pos (by simp) hweights
  refine round_le_of_onGrid hQ hQ0 ?_
  exact mul_le_of_le_one_right hQ0 ((div_le_one hsum).mpr hpart)

theorem requestedTargets_facts {Q : ℚ} (hQ : OnGrid 100 Q) (hQ0 : 0 ≤ Q) {stages : List (K × ℚ)}
    {last : K × ℚ} (hweights : ∀ s ∈ stages ++ [last], 0 < s.2) :
    ∀ s ∈ requestedTargets Q (total (stages ++ [last])) (stages ++ [last]) 0,
      0 < s.2 ∧ s.2 ≤ Q ∧ OnGrid 100 s.2 := by
  rw [requestedTargets_eq hQ]
  intro s hs
  obtain ⟨hpos, hgrid⟩ := requested_mem last.1 hQ earlyTargets_pos s hs
  refine ⟨hpos, ?_, hgrid⟩
  rcases List.mem_append.mp hs with h | h
  · exact earlyTargets_le hQ hQ0 hweights s h
  · obtain ⟨rfl, -⟩ := mem_lastStage h
    have hearly : 0 ≤ total (earlyTargets Q (total (stages ++ [last])) stages) :=
      total_nonneg fun t ht => (earlyTargets_pos t ht).1.le
    exact sub_le_self Q hearly

/-- The plan keeps the minimum size, its keys and its consolidation target exactly where the
deepest stage that is kept keeps the minimum. -/
theorem plan_minSize_iff [DecidableEq K] (weightedKeys : List (K × ℚ))
    (hkeys : (weightedKeys.map Prod.fst).Nodup) (hweights : ∀ s ∈ weightedKeys, 0 < s.2)
    (currentParentQty orderMinSize : ℚ) :
    MinSizeLaw currentParentQty orderMinSize
        (tradeBuilderPlanWeightedLadderTargets weightedKeys currentParentQty (some orderMinSize)) ↔
      DeepestReachesMinSize weightedKeys currentParentQty orderMinSize := by
  have hsorts := plan_sortsKeys weightedKeys currentParentQty (some orderMinSize)
  revert hsorts
  unfold tradeBuilderPlanWeightedLadderTargets DeepestReachesMinSize
  simp only [roundTradeBuilderShareQty_max]
  have hgridQ := roundTradeBuilderShareQty_onGrid currentParentQty
  have hQ0 := roundTradeBuilderShareQty_nonneg currentParentQty
  generalize roundTradeBuilderShareQty currentParentQty = Q at hgridQ hQ0 ⊢
  by_cases htol : Q ≤ tradeBuilderExitQtyTolerance
  · rw [if_pos (Or.inl htol)]
    intro hsorts
    exact iff_of_true ⟨by simp, hsorts, by simp⟩ fun _ h => absurd htol h.not_ge
  rcases List.eq_nil_or_concat weightedKeys with rfl | ⟨stages, last, rfl⟩
  · rw [if_pos (Or.inr List.isEmpty_nil)]
    intro hsorts
    exact iff_of_true ⟨by simp, hsorts, by simp⟩ fun _ _ h => absurd rfl h
  rw [List.concat_eq_append] at *
  have hempty : ¬(Q ≤ tradeBuilderExitQtyTolerance ∨ (stages ++ [last]).isEmpty) := by
    simp [htol]
  have hsum : ¬total (stages ++ [last]) ≤ 0 := not_le.mpr (total_pos (by simp) hweights)
  rw [if_neg hempty, if_neg hsum]
  have hfacts := requestedTargets_facts hgridQ hQ0 hweights
  have hnodup := hkeys.sublist
    (requestedTargets_keys Q (total (stages ++ [last])) (stages ++ [last]) 0)
  unfold keptStages
  generalize requestedTargets Q (total (stages ++ [last])) (stages ++ [last]) 0 = requested at *
  cases hmin : normalizeTradeBuilderMarketSpecNumber (some orderMinSize) with
  | none =>
    have hm : orderMinSize ≤ 0 := by
      simpa [normalizeTradeBuilderMarketSpecNumber] using hmin
    intro hsorts
    refine iff_of_true ⟨?_, hsorts, by simp⟩ fun h => absurd hm h.not_ge
    exact fun target htarget => Or.inl (hm.trans (hfacts target htarget).1.le)
  | some m =>
    have hm : 0 < m := normalized_pos hmin
    have hsame : orderMinSize = m := by
      simpa using (Option.filter_eq_some_iff.mp hmin).1
    subst hsame
    intro hsorts
    rcases List.eq_nil_or_concat (requested.filter (orderMinSize ≤ ·.2)) with
      hnone | ⟨kept, deepest, hkept⟩
    · exact iff_of_true (minSizeLaw_of_none hnone) fun _ _ h => absurd hnone h
    · rw [List.concat_eq_append] at hkept
      rw [hkept, List.dropLast_concat]
      simp only
      rw [minSizeLaw_kept_iff hm hgridQ hfacts hnodup hkept]
      exact ⟨fun h _ _ _ => h, fun h => h hm (not_le.mp htol) (by simp)⟩

theorem deepestReaches_of_fit {weightedKeys : List (K × ℚ)} {currentParentQty orderMinSize : ℚ}
    (hweights : ∀ s ∈ weightedKeys, 0 < s.2)
    (hfit : (earlyShares weightedKeys (roundTradeBuilderShareQty currentParentQty)).sum ≤
      roundTradeBuilderShareQty currentParentQty) :
    DeepestReachesMinSize weightedKeys currentParentQty orderMinSize := by
  unfold DeepestReachesMinSize keptStages
  have hgridQ := roundTradeBuilderShareQty_onGrid currentParentQty
  have hQ0 := roundTradeBuilderShareQty_nonneg currentParentQty
  generalize roundTradeBuilderShareQty currentParentQty = Q at hgridQ hQ0 hfit ⊢
  rcases List.eq_nil_or_concat weightedKeys with rfl | ⟨stages, last, rfl⟩
  · exact fun _ _ h => absurd rfl h
  rw [List.concat_eq_append] at *
  rw [earlyShares_sum] at hfit
  have hfacts := requestedTargets_facts hgridQ hQ0 hweights
  have htotal : total (requestedTargets Q (total (stages ++ [last])) (stages ++ [last]) 0) = Q := by
    rw [requestedTargets_eq hgridQ, total_append, total_lastStage, max_eq_left (sub_nonneg.mpr hfit)]
    ring
  intro parentQty _ _ hne
  rcases List.eq_nil_or_concat ((requestedTargets Q (total (stages ++ [last]))
    (stages ++ [last]) 0).filter (orderMinSize ≤ ·.2)) with hnone | ⟨kept, deepest, hkept⟩
  · exact absurd hnone hne
  · rw [List.concat_eq_append] at hkept
    have hreach : orderMinSize ≤ deepest.2 := by
      have hmem := List.mem_append_right kept (List.mem_singleton_self deepest)
      rw [← hkept] at hmem
      simpa using (List.mem_filter.mp hmem).2
    have hsum := total_sublist (List.filter_sublist (p := fun s => orderMinSize ≤ s.2))
      fun s hs => (hfacts s hs).1
    rw [hkept, htotal, total_append, total_cons, total_nil, add_zero] at hsum
    change orderMinSize ≤ Q - total (List.filter _ _).dropLast
    rw [hkept, List.dropLast_concat]
    linarith

/-! ### Four stages that all round up -/

def heavyStages : List (ℕ × ℚ) := [(0, 25), (1, 25), (2, 25), (3, 2499 / 100), (4, 1 / 100)]

/-- A quarter of 19.99 rounds up to the minimum, and the fourth one is left less. -/
theorem heavyStages_below_minimum :
    ¬MinSizeLaw (1999 / 100) 5
      (tradeBuilderPlanWeightedLadderTargets heavyStages (1999 / 100) (some 5)) := by
  intro law
  have htarget : ((3, 499 / 100) : ℕ × ℚ) ∈
      (tradeBuilderPlanWeightedLadderTargets heavyStages (1999 / 100) (some 5)).targets := by
    decide +kernel
  rcases law.minSize _ htarget with h | ⟨h, -, -⟩
  · exact absurd h (by norm_num)
  · exact absurd h (by norm_num)

theorem evenStages_reach_minimum :
    MinSizeLaw 20 5 (tradeBuilderPlanWeightedLadderTargets heavyStages 20 (some 5)) :=
  (plan_minSize_iff heavyStages (by decide) (by decide +kernel) 20 5).mpr
    (deepestReaches_of_fit (by decide +kernel) (by decide +kernel))

end PolymarketBot.ExitLadders
