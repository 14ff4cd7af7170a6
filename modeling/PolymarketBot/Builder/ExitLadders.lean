import Mathlib.Data.List.Nodup
import PolymarketBot.Builder.Finalize

/-! The staged exits of a parent order: the plan that shares its quantity out over the stages,
and the sync that brings the live children of one family to a new parent quantity. -/

namespace PolymarketBot.ExitLadders
open Lib Builder

variable {K : Type}

structure TradeBuilderLadderTargetPlan (K : Type) where
  requestedTargets : List (K × ℚ) := []
  targets : List (K × ℚ) := []
  skippedKeys : List K := []
  consolidationTarget : Option K := none
  deriving DecidableEq, Repr

def normalizeTradeBuilderMarketSpecNumber (value : Option ℚ) : Option ℚ := value.filter (0 < ·)

theorem normalized_pos {value : Option ℚ} {m : ℚ}
    (h : normalizeTradeBuilderMarketSpecNumber value = some m) : 0 < m := by
  have hfilter := (Option.filter_eq_some_iff.mp h).2
  simpa using hfilter

/-- The sum of the quantities, or of the weights, of keyed stages. -/
def total (stages : List (K × ℚ)) : ℚ := (stages.map Prod.snd).sum

/-- The first loop: each stage but the last is rounded on its own. -/
def requestedTargets (currentParentQty familyWeightSum : ℚ) :
    List (K × ℚ) → ℚ → List (K × ℚ)
  | [], _ => []
  | (key, weightPct) :: rest, assignedQty =>
    let desiredQty :=
      if rest.isEmpty then roundTradeBuilderShareQty (max (currentParentQty - assignedQty) 0)
      else roundTradeBuilderShareQty (currentParentQty * (weightPct / familyWeightSum))
    if desiredQty ≤ 0 then requestedTargets currentParentQty familyWeightSum rest assignedQty
    else (key, desiredQty) :: requestedTargets currentParentQty familyWeightSum rest
      (roundTradeBuilderShareQty (max (assignedQty + desiredQty) 0))

/-- The second loop: the deepest stage that is kept takes what the others leave. -/
def reassignedTargets [DecidableEq K] (currentParentQty : ℚ) (deepestKeptKey : Option K) :
    List (K × ℚ) → ℚ → List (K × ℚ)
  | [], _ => []
  | (key, qty) :: rest, assignedKeptQty =>
    let desiredQty :=
      if some key = deepestKeptKey then
        roundTradeBuilderShareQty (max (currentParentQty - assignedKeptQty) 0)
      else qty
    if desiredQty ≤ 0 then reassignedTargets currentParentQty deepestKeptKey rest assignedKeptQty
    else (key, desiredQty) :: reassignedTargets currentParentQty deepestKeptKey rest
      (roundTradeBuilderShareQty (max (assignedKeptQty + desiredQty) 0))

/-- The stages below the minimum size are skipped and the deepest one kept takes their
quantity; when none is kept, the last stage takes the whole quantity if that is enough. -/
def planAtMinSize [DecidableEq K] (requested : List (K × ℚ)) (currentParentQty orderMinSize : ℚ) :
    TradeBuilderLadderTargetPlan K :=
  match requested.filter (orderMinSize ≤ ·.2) with
  | [] =>
    if currentParentQty < orderMinSize then
      { requestedTargets := requested, skippedKeys := requested.map Prod.fst }
    else
      match requested.getLast? with
      | none => { requestedTargets := requested }
      | some (targetKey, _) =>
        { requestedTargets := requested
          targets := [(targetKey, currentParentQty)]
          skippedKeys := (requested.map Prod.fst).filter (· ≠ targetKey)
          consolidationTarget := some targetKey }
  | kept@(_ :: _) =>
    let deepestKeptKey := kept.getLast?.map Prod.fst
    let targets := reassignedTargets currentParentQty deepestKeptKey kept 0
    let skippedKeys := (requested.map Prod.fst).filter fun key => !targets.any (·.1 = key)
    { requestedTargets := requested
      targets
      skippedKeys
      consolidationTarget := if skippedKeys.isEmpty then none else deepestKeptKey }

def tradeBuilderPlanWeightedLadderTargets [DecidableEq K] (weightedKeys : List (K × ℚ))
    (currentParentQty : ℚ) (orderMinSize : Option ℚ) : TradeBuilderLadderTargetPlan K :=
  let currentParentQty := roundTradeBuilderShareQty (max currentParentQty 0)
  if currentParentQty ≤ tradeBuilderExitQtyTolerance ∨ weightedKeys.isEmpty then {}
  else if total weightedKeys ≤ 0 then {}
  else
    let requested := requestedTargets currentParentQty (total weightedKeys) weightedKeys 0
    match normalizeTradeBuilderMarketSpecNumber orderMinSize with
    | none => { requestedTargets := requested, targets := requested }
    | some orderMinSize => planAtMinSize requested currentParentQty orderMinSize

/-! ### What the two loops leave to the last stage -/

/-- A last stage takes what is left, and is dropped when nothing is. -/
def lastStage (key : K) (left : ℚ) : List (K × ℚ) := if 0 < left then [(key, left)] else []

/-- The share of every stage but the last, rounded on its own. -/
def earlyShares (weightedKeys : List (K × ℚ)) (parentQty : ℚ) : List ℚ :=
  weightedKeys.dropLast.map fun stage =>
    roundTradeBuilderShareQty (parentQty * (stage.2 / total weightedKeys))

def roundedStages (parentQty weightSum : ℚ) (stages : List (K × ℚ)) : List (K × ℚ) :=
  stages.map fun stage =>
    (stage.1, roundTradeBuilderShareQty (parentQty * (stage.2 / weightSum)))

@[simp] theorem total_nil : total ([] : List (K × ℚ)) = 0 := rfl

@[simp] theorem total_cons (stage : K × ℚ) (stages : List (K × ℚ)) :
    total (stage :: stages) = stage.2 + total stages := by
  simp [total]

@[simp] theorem total_append (stages more : List (K × ℚ)) :
    total (stages ++ more) = total stages + total more := by
  simp [total]

theorem mem_lastStage {key : K} {left : ℚ} {t : K × ℚ} (h : t ∈ lastStage key left) :
    t = (key, left) ∧ 0 < left := by
  unfold lastStage at h
  split at h
  · rename_i hleft
    exact ⟨List.mem_singleton.mp h, hleft⟩
  · cases h

theorem total_lastStage (key : K) (left : ℚ) : total (lastStage key left) = max left 0 := by
  unfold lastStage
  split
  · rename_i h
    simp [max_eq_left h.le]
  · rename_i h
    simp [max_eq_right (not_lt.mp h)]

theorem total_nonneg {stages : List (K × ℚ)} (h : ∀ s ∈ stages, 0 ≤ s.2) : 0 ≤ total stages :=
  List.sum_nonneg fun q hq => by
    obtain ⟨s, hs, rfl⟩ := List.mem_map.mp hq
    exact h s hs

theorem total_pos {stages : List (K × ℚ)} (hne : stages ≠ []) (h : ∀ s ∈ stages, 0 < s.2) :
    0 < total stages := by
  cases stages with
  | nil => exact absurd rfl hne
  | cons s rest =>
    have hs : 0 < s.2 := h s List.mem_cons_self
    have hrest : 0 ≤ total rest := total_nonneg fun t ht => (h t (List.mem_cons_of_mem s ht)).le
    rw [total_cons]
    linarith

theorem total_onGrid {stages : List (K × ℚ)} (h : ∀ s ∈ stages, OnGrid 100 s.2) :
    OnGrid 100 (total stages) := by
  induction stages with
  | nil => exact OnGrid.zero
  | cons s rest ih =>
    have hs : OnGrid 100 s.2 := h s List.mem_cons_self
    have hrest : OnGrid 100 (total rest) := ih fun t ht => h t (List.mem_cons_of_mem s ht)
    rw [total_cons]
    exact hs.add hrest

theorem total_filter_pos {stages : List (K × ℚ)} (h : ∀ s ∈ stages, 0 ≤ s.2) :
    total (stages.filter (0 < ·.2)) = total stages := by
  induction stages with
  | nil => rfl
  | cons s rest ih =>
    have hs : 0 ≤ s.2 := h s List.mem_cons_self
    have hrest := ih fun t ht => h t (List.mem_cons_of_mem s ht)
    rw [List.filter_cons, total_cons]
    by_cases hpos : 0 < s.2
    · rw [if_pos (by simpa using hpos), total_cons, hrest]
    · have hzero : s.2 = 0 := le_antisymm (not_lt.mp hpos) hs
      rw [if_neg (by simpa using hpos), hrest, hzero, zero_add]

theorem round_left {Q a : ℚ} (hQ : OnGrid 100 Q) (ha : OnGrid 100 a) :
    roundTradeBuilderShareQty (max (Q - a) 0) = max (Q - a) 0 :=
  round_of_onGrid ((hQ.sub ha).max OnGrid.zero) (le_max_right _ _)

theorem round_assigned {a q : ℚ} (ha : OnGrid 100 a) (ha0 : 0 ≤ a) (hq : OnGrid 100 q)
    (hq0 : 0 ≤ q) : roundTradeBuilderShareQty (max (a + q) 0) = a + q := by
  rw [roundTradeBuilderShareQty_max]
  exact round_of_onGrid (ha.add hq) (by positivity)

theorem lastStage_of_max (key : K) (left : ℚ) :
    (if max left 0 ≤ 0 then [] else [(key, max left 0)]) = lastStage key left := by
  unfold lastStage
  by_cases h : 0 < left
  · have hmax : max left 0 = left := max_eq_left h.le
    rw [hmax, if_neg (not_le.mpr h), if_pos h]
  · have hmax : max left 0 = 0 := max_eq_right (not_lt.mp h)
    rw [hmax, if_pos le_rfl, if_neg h]

theorem requestedTargets_concat {Q : ℚ} (hQ : OnGrid 100 Q) (W : ℚ) (stages : List (K × ℚ))
    (last : K × ℚ) {a : ℚ} (ha : OnGrid 100 a) (ha0 : 0 ≤ a) :
    requestedTargets Q W (stages ++ [last]) a =
      (roundedStages Q W stages).filter (0 < ·.2) ++
        lastStage last.1 (Q - (a + total (roundedStages Q W stages))) := by
  induction stages generalizing a with
  | nil =>
    have hlast : requestedTargets Q W [last] a =
        if max (Q - a) 0 ≤ 0 then [] else [(last.1, max (Q - a) 0)] := by
      simp only [requestedTargets, List.isEmpty_nil, if_true, round_left hQ ha]
    rw [lastStage_of_max] at hlast
    simpa [roundedStages] using hlast
  | cons stage rest ih =>
    have hshare := roundTradeBuilderShareQty_nonneg (Q * (stage.2 / W))
    have hgrid := roundTradeBuilderShareQty_onGrid (Q * (stage.2 / W))
    have hne : (rest ++ [last]).isEmpty = false := by simp
    rw [List.cons_append, requestedTargets]
    simp only [hne, Bool.false_eq_true, if_false, roundedStages, List.map_cons, List.filter_cons,
      total_cons]
    by_cases hzero : roundTradeBuilderShareQty (Q * (stage.2 / W)) ≤ 0
    · have hval : roundTradeBuilderShareQty (Q * (stage.2 / W)) = 0 := le_antisymm hzero hshare
      have hrest := ih ha ha0
      simp only [roundedStages] at hrest
      rw [if_pos hzero, if_neg (by simpa using hzero), hrest, hval, zero_add]
    · have hnext := round_assigned ha ha0 hgrid hshare
      have hrest := ih (ha.add hgrid) (add_nonneg ha0 hshare)
      simp only [roundedStages] at hrest
      rw [if_neg hzero, if_pos (by simpa using hzero), hnext, hrest, List.cons_append, add_assoc]

theorem reassignedTargets_concat [DecidableEq K] {Q : ℚ} (hQ : OnGrid 100 Q) (stages : List (K × ℚ))
    (last : K × ℚ) (hpos : ∀ s ∈ stages, 0 < s.2) (hgrid : ∀ s ∈ stages, OnGrid 100 s.2)
    (hkeys : ∀ s ∈ stages, s.1 ≠ last.1) {a : ℚ} (ha : OnGrid 100 a) (ha0 : 0 ≤ a) :
    reassignedTargets Q (some last.1) (stages ++ [last]) a =
      stages ++ lastStage last.1 (Q - (a + total stages)) := by
  induction stages generalizing a with
  | nil =>
    have hlast : reassignedTargets Q (some last.1) [last] a =
        if max (Q - a) 0 ≤ 0 then [] else [(last.1, max (Q - a) 0)] := by
      simp only [reassignedTargets, if_true, round_left hQ ha]
    rw [lastStage_of_max] at hlast
    simpa using hlast
  | cons stage rest ih =>
    have hp : 0 < stage.2 := hpos stage List.mem_cons_self
    have hg : OnGrid 100 stage.2 := hgrid stage List.mem_cons_self
    have hk : some stage.1 ≠ some last.1 := by simpa using hkeys stage List.mem_cons_self
    have hrest := ih (fun s hs => hpos s (List.mem_cons_of_mem stage hs))
      (fun s hs => hgrid s (List.mem_cons_of_mem stage hs))
      (fun s hs => hkeys s (List.mem_cons_of_mem stage hs)) (ha.add hg) (add_nonneg ha0 hp.le)
    have hnext := round_assigned ha ha0 hg hp.le
    rw [List.cons_append, reassignedTargets]
    simp only [hk, if_false, not_le.mpr hp]
    rw [hnext, hrest, List.cons_append, total_cons, add_assoc]

/-! ### Where each key of a plan ends up -/

theorem requestedTargets_keys (qty weightSum : ℚ) (stages : List (K × ℚ)) (assigned : ℚ) :
    ((requestedTargets qty weightSum stages assigned).map Prod.fst).Sublist
      (stages.map Prod.fst) := by
  induction stages generalizing assigned with
  | nil => exact List.Sublist.slnil
  | cons stage rest ih =>
    rw [requestedTargets]
    generalize (if rest.isEmpty then _ else _ : ℚ) = desired
    split
    · exact (ih assigned).cons stage.1
    · exact (ih _).cons_cons stage.1

theorem planAtMinSize_requested [DecidableEq K] (requested : List (K × ℚ)) (Q m : ℚ) :
    (planAtMinSize requested Q m).requestedTargets = requested := by
  unfold planAtMinSize
  split
  · split
    · rfl
    · split <;> rfl
  · rfl

theorem plan_requestedTargets_keys [DecidableEq K] (weightedKeys : List (K × ℚ))
    (currentParentQty : ℚ) (orderMinSize : Option ℚ) :
    ((tradeBuilderPlanWeightedLadderTargets weightedKeys currentParentQty
      orderMinSize).requestedTargets.map Prod.fst).Sublist (weightedKeys.map Prod.fst) := by
  unfold tradeBuilderPlanWeightedLadderTargets
  simp only
  split
  · exact List.nil_sublist _
  · split
    · exact List.nil_sublist _
    · cases normalizeTradeBuilderMarketSpecNumber orderMinSize with
      | none => exact requestedTargets_keys _ _ weightedKeys 0
      | some m =>
        simp only [planAtMinSize_requested]
        exact requestedTargets_keys _ _ weightedKeys 0

theorem reassignedTargets_keys [DecidableEq K] (qty : ℚ) (deepestKeptKey : Option K)
    (kept : List (K × ℚ)) (assigned : ℚ) :
    ((reassignedTargets qty deepestKeptKey kept assigned).map Prod.fst).Sublist
      (kept.map Prod.fst) := by
  induction kept generalizing assigned with
  | nil => exact List.Sublist.slnil
  | cons stage rest ih =>
    rw [reassignedTargets]
    generalize (if some stage.1 = deepestKeptKey then _ else _ : ℚ) = desired
    split
    · exact (ih assigned).cons stage.1
    · exact (ih _).cons_cons stage.1

theorem any_key_iff [DecidableEq K] (targets : List (K × ℚ)) (key : K) :
    (targets.any (·.1 = key)) = true ↔ key ∈ targets.map Prod.fst := by
  simp only [List.any_eq_true, decide_eq_true_eq, List.mem_map]

section Keys
variable [DecidableEq K] (requested : List (K × ℚ)) (Q m : ℚ)

theorem planAtMinSize_keys :
    ((planAtMinSize requested Q m).targets.map Prod.fst).Sublist (requested.map Prod.fst) := by
  unfold planAtMinSize
  split
  · split
    · simp
    · cases hlast : requested.getLast? with
      | none => simp
      | some target =>
        have hmem : target.1 ∈ requested.map Prod.fst :=
          List.mem_map_of_mem (List.mem_of_getLast? hlast)
        simpa using hmem
  · rename_i kept stage rest hkept
    have hsub : (stage :: rest).Sublist requested := hkept ▸ List.filter_sublist
    exact (reassignedTargets_keys Q _ _ 0).trans (hsub.map Prod.fst)

theorem planAtMinSize_covers (key : K) (hkey : key ∈ requested.map Prod.fst) :
    key ∈ (planAtMinSize requested Q m).skippedKeys ↔
      key ∉ (planAtMinSize requested Q m).targets.map Prod.fst := by
  unfold planAtMinSize
  split
  · split
    · simpa using hkey
    · cases hlast : requested.getLast? with
      | none =>
        rw [List.getLast?_eq_none_iff] at hlast
        simp [hlast] at hkey
      | some target => simpa using fun _ => hkey
  · simp only [List.mem_filter, hkey, true_and]
    rw [← any_key_iff, Bool.not_eq_true', Bool.not_eq_true]

theorem planAtMinSize_skipped_subset (key : K)
    (hkey : key ∈ (planAtMinSize requested Q m).skippedKeys) : key ∈ requested.map Prod.fst := by
  revert hkey
  unfold planAtMinSize
  split
  · split
    · exact id
    · split
      · intro hkey
        cases hkey
      · exact List.mem_of_mem_filter
  · exact List.mem_of_mem_filter

/-- Each key asked for is a target or is skipped, not both, and no other key is either. -/
structure SortsKeys (plan : TradeBuilderLadderTargetPlan K) : Prop where
  targets : (plan.targets.map Prod.fst).Sublist (plan.requestedTargets.map Prod.fst)
  skipped : ∀ key ∈ plan.skippedKeys, key ∈ plan.requestedTargets.map Prod.fst
  covers : ∀ key ∈ plan.requestedTargets.map Prod.fst,
    key ∈ plan.skippedKeys ↔ key ∉ plan.targets.map Prod.fst

theorem planAtMinSize_sortsKeys : SortsKeys (planAtMinSize requested Q m) := by
  have hrequested := planAtMinSize_requested requested Q m
  constructor
  · rw [hrequested]
    exact planAtMinSize_keys requested Q m
  · rw [hrequested]
    exact planAtMinSize_skipped_subset requested Q m
  · rw [hrequested]
    exact planAtMinSize_covers requested Q m

theorem plan_sortsKeys (weightedKeys : List (K × ℚ)) (currentParentQty : ℚ)
    (orderMinSize : Option ℚ) :
    SortsKeys (tradeBuilderPlanWeightedLadderTargets weightedKeys currentParentQty
      orderMinSize) := by
  have hempty : SortsKeys ({} : TradeBuilderLadderTargetPlan K) :=
    ⟨List.Sublist.slnil, fun _ h => absurd h (by simp), fun _ h => absurd h (by simp)⟩
  unfold tradeBuilderPlanWeightedLadderTargets
  simp only
  split
  · exact hempty
  · split
    · exact hempty
    · cases normalizeTradeBuilderMarketSpecNumber orderMinSize with
      | none =>
        exact ⟨List.Sublist.refl _, fun _ h => absurd h (by simp), fun key h => by simpa using h⟩
      | some m => exact planAtMinSize_sortsKeys _ _ m

end Keys

/-! ### When the targets add up to the parent's quantity -/

/-- All the parent's quantity is for sale, and no more. -/
def ClosesOut (targets : List (K × ℚ)) (parentQty : ℚ) : Prop :=
  (∀ t ∈ targets, 0 < t.2) ∧ total targets = parentQty

instance (targets : List (K × ℚ)) (parentQty : ℚ) : Decidable (ClosesOut targets parentQty) :=
  inferInstanceAs (Decidable (_ ∧ _))

/-- The stages before the one that takes the remainder do not round up past the quantity. -/
def EarlyStagesFit (weightedKeys : List (K × ℚ)) (parentQty : ℚ) (orderMinSize : Option ℚ) : Prop :=
  let parentQty := roundTradeBuilderShareQty parentQty
  parentQty ≤ tradeBuilderExitQtyTolerance ∨
    match normalizeTradeBuilderMarketSpecNumber orderMinSize with
    | none => (earlyShares weightedKeys parentQty).sum ≤ parentQty
    | some minSize => ((earlyShares weightedKeys parentQty).filter (minSize ≤ ·)).dropLast.sum ≤
        parentQty

theorem closesOut_lastStage {early : List (K × ℚ)} (hpos : ∀ s ∈ early, 0 < s.2) (key : K)
    (Q : ℚ) : ClosesOut (early ++ lastStage key (Q - total early)) Q ↔ total early ≤ Q := by
  have hall : ∀ t ∈ early ++ lastStage key (Q - total early), 0 < t.2 := by
    intro t ht
    rcases List.mem_append.mp ht with h | h
    · exact hpos t h
    · obtain ⟨rfl, hleft⟩ := mem_lastStage h
      exact hleft
  rw [ClosesOut, total_append, total_lastStage]
  constructor
  · rintro ⟨-, hsum⟩
    have hmax : 0 ≤ max (Q - total early) 0 := le_max_right _ _
    linarith
  · intro hle
    have hmax : max (Q - total early) 0 = Q - total early := max_eq_left (by linarith)
    exact ⟨hall, by rw [hmax]; ring⟩

/-- The stages but the last that are asked for. -/
def earlyTargets (parentQty weightSum : ℚ) (stages : List (K × ℚ)) : List (K × ℚ) :=
  (roundedStages parentQty weightSum stages).filter (0 < ·.2)

theorem mem_earlyTargets {Q W : ℚ} {stages : List (K × ℚ)} {s : K × ℚ}
    (h : s ∈ earlyTargets Q W stages) :
    0 < s.2 ∧ OnGrid 100 s.2 ∧ s.1 ∈ stages.map Prod.fst := by
  obtain ⟨hmem, hpos⟩ := List.mem_filter.mp h
  obtain ⟨stage, hstage, rfl⟩ := List.mem_map.mp hmem
  have hgrid := roundTradeBuilderShareQty_onGrid (Q * (stage.2 / W))
  have hkey : stage.1 ∈ stages.map Prod.fst := List.mem_map_of_mem hstage
  exact ⟨by simpa using hpos, hgrid, hkey⟩

theorem roundedStages_keys (Q W : ℚ) (stages : List (K × ℚ)) :
    (roundedStages Q W stages).map Prod.fst = stages.map Prod.fst := by
  simp [roundedStages, Function.comp_def]

theorem earlyTargets_keys (Q W : ℚ) (stages : List (K × ℚ)) :
    ((earlyTargets Q W stages).map Prod.fst).Sublist (stages.map Prod.fst) := by
  have hsub : (earlyTargets Q W stages).Sublist (roundedStages Q W stages) := List.filter_sublist
  exact roundedStages_keys Q W stages ▸ hsub.map Prod.fst

theorem earlyTargets_pos {Q W : ℚ} {stages : List (K × ℚ)} :
    ∀ s ∈ earlyTargets Q W stages, 0 < s.2 ∧ OnGrid 100 s.2 :=
  fun _ hs => ⟨(mem_earlyTargets hs).1, (mem_earlyTargets hs).2.1⟩

theorem earlyTargets_nodup {stages : List (K × ℚ)} {last : K × ℚ}
    (hkeys : ((stages ++ [last]).map Prod.fst).Nodup) (Q W : ℚ) :
    ((earlyTargets Q W stages).map Prod.fst).Nodup ∧
      last.1 ∉ (earlyTargets Q W stages).map Prod.fst := by
  have hsub := earlyTargets_keys Q W stages
  rw [List.map_append, List.nodup_append] at hkeys
  exact ⟨hkeys.1.sublist hsub, fun h => hkeys.2.2 last.1 (hsub.subset h) last.1 (by simp) rfl⟩

theorem total_earlyTargets (Q W : ℚ) (stages : List (K × ℚ)) :
    total (earlyTargets Q W stages) = total (roundedStages Q W stages) := by
  refine total_filter_pos fun s hs => ?_
  obtain ⟨stage, -, rfl⟩ := List.mem_map.mp hs
  exact roundTradeBuilderShareQty_nonneg _

theorem requestedTargets_eq {Q : ℚ} (hQ : OnGrid 100 Q) (W : ℚ) (stages : List (K × ℚ))
    (last : K × ℚ) :
    requestedTargets Q W (stages ++ [last]) 0 =
      earlyTargets Q W stages ++ lastStage last.1 (Q - total (earlyTargets Q W stages)) := by
  have h := requestedTargets_concat hQ W stages last OnGrid.zero le_rfl
  rw [zero_add] at h
  rw [h, total_earlyTargets, earlyTargets]

theorem earlyShares_concat (Q : ℚ) (stages : List (K × ℚ)) (last : K × ℚ) :
    earlyShares (stages ++ [last]) Q =
      (roundedStages Q (total (stages ++ [last])) stages).map Prod.snd := by
  simp [earlyShares, roundedStages, Function.comp_def]

theorem earlyShares_sum (Q : ℚ) (stages : List (K × ℚ)) (last : K × ℚ) :
    (earlyShares (stages ++ [last]) Q).sum =
      total (earlyTargets Q (total (stages ++ [last])) stages) := by
  rw [earlyShares_concat, total_earlyTargets]
  rfl

theorem earlyShares_filter {m : ℚ} (hm : 0 < m) (Q : ℚ) (stages : List (K × ℚ)) (last : K × ℚ) :
    (earlyShares (stages ++ [last]) Q).filter (m ≤ ·) =
      ((earlyTargets Q (total (stages ++ [last])) stages).filter (m ≤ ·.2)).map Prod.snd := by
  rw [earlyShares_concat, earlyTargets, List.filter_map, List.filter_filter]
  congr 1
  refine List.filter_congr fun s _ => ?_
  by_cases h : m ≤ s.2
  · have hpos : 0 < s.2 := lt_of_lt_of_le hm h
    simp [h, hpos]
  · simp [h]

section MinSize
variable [DecidableEq K] {requested kept : List (K × ℚ)} {Q m : ℚ}

theorem planAtMinSize_none (h : requested.filter (m ≤ ·.2) = []) :
    (planAtMinSize requested Q m).targets = [] ∨
      m ≤ Q ∧ ∃ key, (planAtMinSize requested Q m).targets = [(key, Q)] := by
  unfold planAtMinSize
  rw [h]
  simp only
  split
  · exact .inl rfl
  · rename_i hmin
    split
    · exact .inl rfl
    · exact .inr ⟨not_lt.mp hmin, _, rfl⟩

theorem planAtMinSize_kept {last : K × ℚ} (hQ : OnGrid 100 Q)
    (h : requested.filter (m ≤ ·.2) = kept ++ [last])
    (hpos : ∀ s ∈ requested, 0 < s.2) (hgrid : ∀ s ∈ requested, OnGrid 100 s.2)
    (hkeys : (requested.map Prod.fst).Nodup) :
    (planAtMinSize requested Q m).targets = kept ++ lastStage last.1 (Q - total kept) := by
  have hsub : (kept ++ [last]).Sublist requested := h ▸ List.filter_sublist
  have hnd : ((kept ++ [last]).map Prod.fst).Nodup := hkeys.sublist (hsub.map Prod.fst)
  have hmem : ∀ s ∈ kept, s ∈ requested := fun s hs => hsub.subset (List.mem_append_left _ hs)
  have hlast : ∀ s ∈ kept, s.1 ≠ last.1 := by
    intro s hs heq
    rw [List.map_append, List.nodup_append] at hnd
    exact hnd.2.2 s.1 (List.mem_map_of_mem hs) last.1 (by simp) heq
  have hloop := reassignedTargets_concat hQ kept last (fun s hs => hpos s (hmem s hs))
    (fun s hs => hgrid s (hmem s hs)) hlast OnGrid.zero le_rfl
  have hdeepest : (kept ++ [last]).getLast?.map Prod.fst = some last.1 := by simp
  unfold planAtMinSize
  split
  · rename_i hnil
    rw [h] at hnil
    exact absurd hnil (by simp)
  · rename_i hcons
    rw [← hcons, h, hdeepest]
    simp only [hloop, zero_add]

end MinSize

theorem total_sublist {stages more : List (K × ℚ)} (hsub : stages.Sublist more)
    (hpos : ∀ s ∈ more, 0 < s.2) : total stages ≤ total more := by
  have hmap := hsub.map Prod.snd
  refine hmap.sum_le_sum fun q hq => ?_
  obtain ⟨s, hs, rfl⟩ := List.mem_map.mp hq
  exact (hpos s hs).le

/-- Which stages come before the one that takes the remainder, with a minimum size: all the
early ones that reach it, or all of these but the last when the last stage itself does not. -/
theorem kept_fits {early kept : List (K × ℚ)} {key : K} {last : K × ℚ} {Q m : ℚ}
    (hpos : ∀ s ∈ early, 0 < s.2)
    (h : (early ++ lastStage key (Q - total early)).filter (m ≤ ·.2) = kept ++ [last]) :
    total kept ≤ Q ↔ (((early.filter (m ≤ ·.2)).map Prod.snd).dropLast).sum ≤ Q := by
  rw [List.filter_append] at h
  rw [← List.map_dropLast]
  by_cases hleft : 0 < Q - total early ∧ m ≤ Q - total early
  · have hlast : (lastStage key (Q - total early)).filter (m ≤ ·.2) =
        [(key, Q - total early)] := by
      simp [lastStage, hleft.1, hleft.2]
    rw [hlast] at h
    have hkept : kept = early.filter (m ≤ ·.2) := (List.append_inj' h rfl).1.symm
    have hsub : kept.Sublist early := hkept ▸ List.filter_sublist
    have hdrop : (early.filter (m ≤ ·.2)).dropLast.Sublist early :=
      (List.dropLast_sublist _).trans List.filter_sublist
    have h1 := total_sublist hsub hpos
    have h2 := total_sublist hdrop hpos
    have hQ : total early ≤ Q := by linarith [hleft.1]
    exact iff_of_true (h1.trans hQ) (h2.trans hQ)
  · have hlast : (lastStage key (Q - total early)).filter (m ≤ ·.2) = [] := by
      unfold lastStage
      split
      · rename_i h0
        have hm : ¬ m ≤ Q - total early := fun hm => hleft ⟨h0, hm⟩
        simpa using hm
      · rfl
    rw [hlast, List.append_nil] at h
    rw [h, List.dropLast_concat]
    rfl

theorem requested_mem (key : K) {early : List (K × ℚ)} {Q : ℚ} (hQ : OnGrid 100 Q)
    (hearly : ∀ s ∈ early, 0 < s.2 ∧ OnGrid 100 s.2) :
    ∀ s ∈ early ++ lastStage key (Q - total early), 0 < s.2 ∧ OnGrid 100 s.2 := by
  intro s hs
  rcases List.mem_append.mp hs with h | h
  · exact hearly s h
  · obtain ⟨rfl, hleft⟩ := mem_lastStage h
    exact ⟨hleft, hQ.sub (total_onGrid fun t ht => (hearly t ht).2)⟩

theorem requested_ne_nil (early : List (K × ℚ)) (key : K) {Q : ℚ} (hQ : 0 < Q) :
    early ++ lastStage key (Q - total early) ≠ [] := by
  intro h
  obtain ⟨rfl, hlast⟩ := List.append_eq_nil_iff.mp h
  simp [lastStage, hQ] at hlast

theorem requested_nodup {early : List (K × ℚ)} {key : K} (hkeys : (early.map Prod.fst).Nodup)
    (hkey : key ∉ early.map Prod.fst) (left : ℚ) :
    ((early ++ lastStage key left).map Prod.fst).Nodup := by
  unfold lastStage
  split
  · rw [List.map_append, List.nodup_append]
    refine ⟨hkeys, by simp, fun a ha b hb heq => ?_⟩
    have hb' : b = key := by simpa using hb
    exact hkey (hb' ▸ heq ▸ ha)
  · simpa using hkeys

theorem planAtMinSize_closesOut_iff [DecidableEq K] {early : List (K × ℚ)} {key : K} {Q m : ℚ}
    (hQ : OnGrid 100 Q) (hQ0 : 0 < Q) (hearly : ∀ s ∈ early, 0 < s.2 ∧ OnGrid 100 s.2)
    (hkeys : (early.map Prod.fst).Nodup) (hkey : key ∉ early.map Prod.fst) :
    ((planAtMinSize (early ++ lastStage key (Q - total early)) Q m).targets ≠ [] →
      ClosesOut (planAtMinSize (early ++ lastStage key (Q - total early)) Q m).targets Q) ↔
      ((early.filter (m ≤ ·.2)).map Prod.snd).dropLast.sum ≤ Q := by
  have hmem := requested_mem key hQ hearly
  have hpos : ∀ s ∈ early, 0 < s.2 := fun s hs => (hearly s hs).1
  rcases List.eq_nil_or_concat ((early ++ lastStage key (Q - total early)).filter (m ≤ ·.2)) with
    hnone | ⟨kept, last, hkept⟩
  · have hnil : early.filter (m ≤ ·.2) = [] := by
      rw [List.filter_append, List.append_eq_nil_iff] at hnone
      exact hnone.1
    have hright : ((early.filter (m ≤ ·.2)).map Prod.snd).dropLast.sum ≤ Q := by
      rw [hnil]
      exact hQ0.le
    rcases planAtMinSize_none (Q := Q) hnone with h | ⟨hmin, target, h⟩
    · exact iff_of_true (fun hne => absurd h hne) hright
    · refine iff_of_true (fun _ => ?_) hright
      rw [h]
      exact ⟨by simpa using hQ0, by simp⟩
  · rw [List.concat_eq_append] at hkept
    have htargets := planAtMinSize_kept hQ hkept (fun s hs => (hmem s hs).1)
      (fun s hs => (hmem s hs).2) (requested_nodup hkeys hkey _)
    have hkeptpos : ∀ s ∈ kept, 0 < s.2 := by
      intro s hs
      have hin : s ∈ (early ++ lastStage key (Q - total early)).filter (m ≤ ·.2) := by
        rw [hkept]
        exact List.mem_append_left _ hs
      exact (hmem s (List.mem_of_mem_filter hin)).1
    rw [htargets, ← kept_fits hpos hkept, ← closesOut_lastStage hkeptpos last.1 Q]
    exact ⟨fun h => h (requested_ne_nil kept last.1 hQ0), fun h _ => h⟩

theorem plan_closesOut_iff [DecidableEq K] {weightedKeys : List (K × ℚ)}
    (hkeys : (weightedKeys.map Prod.fst).Nodup) (hweights : ∀ s ∈ weightedKeys, 0 < s.2)
    (currentParentQty : ℚ) (orderMinSize : Option ℚ) :
    ((tradeBuilderPlanWeightedLadderTargets weightedKeys currentParentQty
        orderMinSize).targets ≠ [] →
      ClosesOut (tradeBuilderPlanWeightedLadderTargets weightedKeys currentParentQty
        orderMinSize).targets (roundTradeBuilderShareQty currentParentQty)) ↔
      EarlyStagesFit weightedKeys currentParentQty orderMinSize := by
  unfold tradeBuilderPlanWeightedLadderTargets EarlyStagesFit
  simp only [roundTradeBuilderShareQty_max]
  have hgridQ := roundTradeBuilderShareQty_onGrid currentParentQty
  generalize roundTradeBuilderShareQty currentParentQty = Q at hgridQ ⊢
  by_cases htol : Q ≤ tradeBuilderExitQtyTolerance
  · simp [htol]
  have hQ : 0 < Q := lt_trans (by norm_num [tradeBuilderExitQtyTolerance]) (not_le.mp htol)
  rcases List.eq_nil_or_concat weightedKeys with rfl | ⟨stages, last, rfl⟩
  · cases normalizeTradeBuilderMarketSpecNumber orderMinSize <;> simp [earlyShares, hQ.le]
  rw [List.concat_eq_append] at *
  have hsum : ¬ total (stages ++ [last]) ≤ 0 := not_le.mpr (total_pos (by simp) hweights)
  have hempty : (stages ++ [last]).isEmpty = false := by simp
  simp only [htol, hempty, hsum, false_or, if_false, Bool.false_eq_true, requestedTargets_eq hgridQ]
  cases hmin : normalizeTradeBuilderMarketSpecNumber orderMinSize with
  | none =>
    simp only
    rw [earlyShares_sum, ← closesOut_lastStage (fun s hs => (mem_earlyTargets hs).1) last.1 Q]
    exact ⟨fun h => h (requested_ne_nil _ last.1 hQ), fun h _ => h⟩
  | some m =>
    have hm : 0 < m := normalized_pos hmin
    obtain ⟨hnd, hlast⟩ := earlyTargets_nodup hkeys Q (total (stages ++ [last]))
    simp only
    rw [earlyShares_filter hm]
    exact planAtMinSize_closesOut_iff hgridQ hQ earlyTargets_pos hnd hlast

/-- The targets of a family add up to the parent's rounded quantity exactly when the early
stages do not round up past it. -/
theorem targets_closeOut_iff [DecidableEq K] (weightedKeys : List (K × ℚ))
    (hkeys : (weightedKeys.map Prod.fst).Nodup) (hweights : ∀ s ∈ weightedKeys, 0 < s.2)
    (currentParentQty : ℚ) (orderMinSize : Option ℚ) :
    ((tradeBuilderPlanWeightedLadderTargets weightedKeys currentParentQty
        orderMinSize).targets ≠ [] →
      ClosesOut (tradeBuilderPlanWeightedLadderTargets weightedKeys currentParentQty
        orderMinSize).targets (roundTradeBuilderShareQty currentParentQty)) ↔
      EarlyStagesFit weightedKeys currentParentQty orderMinSize :=
  plan_closesOut_iff hkeys hweights currentParentQty orderMinSize

/-! ### When every stage is asked for -/

theorem earlyStagesFit_of_lt {weightedKeys : List (K × ℚ)} {currentParentQty : ℚ}
    (hlt : (earlyShares weightedKeys (roundTradeBuilderShareQty currentParentQty)).sum <
      roundTradeBuilderShareQty currentParentQty) (orderMinSize : Option ℚ) :
    EarlyStagesFit weightedKeys currentParentQty orderMinSize := by
  refine .inr ?_
  cases normalizeTradeBuilderMarketSpecNumber orderMinSize with
  | none => exact hlt.le
  | some m =>
    have hsub := (List.dropLast_sublist ((earlyShares weightedKeys
      (roundTradeBuilderShareQty currentParentQty)).filter (m ≤ ·))).trans List.filter_sublist
    have hle := hsub.sum_le_sum fun share hshare => by
      obtain ⟨stage, -, rfl⟩ := List.mem_map.mp hshare
      exact roundTradeBuilderShareQty_nonneg _
    exact hle.trans hlt.le

section Asked
variable [DecidableEq K] {weightedKeys : List (K × ℚ)} {currentParentQty : ℚ}

theorem plan_requestedTargets (hweights : ∀ s ∈ weightedKeys, 0 < s.2) (hne : weightedKeys ≠ [])
    (htol : tradeBuilderExitQtyTolerance < roundTradeBuilderShareQty currentParentQty)
    (orderMinSize : Option ℚ) :
    (tradeBuilderPlanWeightedLadderTargets weightedKeys currentParentQty
        orderMinSize).requestedTargets =
      requestedTargets (roundTradeBuilderShareQty currentParentQty) (total weightedKeys)
        weightedKeys 0 := by
  have hsum : ¬ total weightedKeys ≤ 0 := not_le.mpr (total_pos hne hweights)
  have hempty : weightedKeys.isEmpty = false := List.isEmpty_eq_false_iff.mpr hne
  unfold tradeBuilderPlanWeightedLadderTargets
  simp only [roundTradeBuilderShareQty_max, not_le.mpr htol, hempty, hsum, false_or, if_false,
    Bool.false_eq_true]
  cases normalizeTradeBuilderMarketSpecNumber orderMinSize with
  | none => rfl
  | some m => exact planAtMinSize_requested _ _ m

theorem all_requested_iff (hkeys : (weightedKeys.map Prod.fst).Nodup)
    (hweights : ∀ s ∈ weightedKeys, 0 < s.2) (hne : weightedKeys ≠ [])
    (htol : tradeBuilderExitQtyTolerance < roundTradeBuilderShareQty currentParentQty)
    (orderMinSize : Option ℚ) :
    (∀ key ∈ weightedKeys.map Prod.fst,
        key ∈ (tradeBuilderPlanWeightedLadderTargets weightedKeys currentParentQty
          orderMinSize).requestedTargets.map Prod.fst) ↔
      (∀ share ∈ earlyShares weightedKeys (roundTradeBuilderShareQty currentParentQty),
        0 < share) ∧
      (earlyShares weightedKeys (roundTradeBuilderShareQty currentParentQty)).sum <
        roundTradeBuilderShareQty currentParentQty := by
  rw [plan_requestedTargets hweights hne htol]
  have hgridQ := roundTradeBuilderShareQty_onGrid currentParentQty
  generalize roundTradeBuilderShareQty currentParentQty = Q at hgridQ
  rcases List.eq_nil_or_concat weightedKeys with rfl | ⟨stages, last, rfl⟩
  · exact absurd rfl hne
  rw [List.concat_eq_append] at *
  rw [requestedTargets_eq hgridQ, earlyShares_sum, earlyShares_concat]
  generalize total (stages ++ [last]) = W
  rw [List.map_append, List.nodup_append] at hkeys
  have hlast : ∀ s ∈ stages, s.1 ≠ last.1 := fun s hs =>
    hkeys.2.2 s.1 (List.mem_map_of_mem hs) last.1 (by simp)
  constructor
  · intro hall
    have hcases : ∀ key ∈ (stages ++ [last]).map Prod.fst,
        (∃ t ∈ earlyTargets Q W stages, t.1 = key) ∨
          key = last.1 ∧ 0 < Q - total (earlyTargets Q W stages) := by
      intro key hkey
      obtain ⟨t, ht, rfl⟩ := List.mem_map.mp (hall key hkey)
      rcases List.mem_append.mp ht with h | h
      · exact .inl ⟨t, h, rfl⟩
      · obtain ⟨rfl, hleft⟩ := mem_lastStage h
        exact .inr ⟨rfl, hleft⟩
    constructor
    · intro share hshare
      obtain ⟨s, hs, rfl⟩ := List.mem_map.mp hshare
      obtain ⟨stage, hstage, rfl⟩ := List.mem_map.mp hs
      have hkey : stage.1 ∈ (stages ++ [last]).map Prod.fst :=
        List.mem_map_of_mem (List.mem_append_left _ hstage)
      rcases hcases stage.1 hkey with ⟨t, ht, heq⟩ | ⟨heq, -⟩
      · have hround : t ∈ roundedStages Q W stages := List.mem_of_mem_filter ht
        have hnd : ((roundedStages Q W stages).map Prod.fst).Nodup := by
          rw [roundedStages_keys]
          exact hkeys.1
        have hsame := List.inj_on_of_nodup_map hnd hround hs heq
        have hpos := (mem_earlyTargets ht).1
        rwa [hsame] at hpos
      · exact absurd heq (hlast stage hstage)
    · rcases hcases last.1 (by simp) with ⟨t, ht, heq⟩ | ⟨-, hleft⟩
      · obtain ⟨stage, hstage, hkey⟩ := List.mem_map.mp (mem_earlyTargets ht).2.2
        exact absurd (hkey.trans heq) (hlast stage hstage)
      · linarith
  · rintro ⟨hshares, hleft⟩
    have hearly : earlyTargets Q W stages = roundedStages Q W stages :=
      List.filter_eq_self.mpr fun s hs => by
        simpa using hshares s.2 (List.mem_map_of_mem hs)
    have hlastStage : lastStage last.1 (Q - total (earlyTargets Q W stages)) =
        [(last.1, Q - total (earlyTargets Q W stages))] := if_pos (by linarith)
    rw [hlastStage, hearly]
    simp [roundedStages, Function.comp_def]

theorem planAtMinSize_ne_nil_iff {early : List (K × ℚ)} {key : K} {Q m : ℚ}
    (hQ : OnGrid 100 Q) (hearly : ∀ s ∈ early, 0 < s.2 ∧ OnGrid 100 s.2)
    (hkeys : (early.map Prod.fst).Nodup) (hkey : key ∉ early.map Prod.fst)
    (hleft : total early < Q) :
    (planAtMinSize (early ++ lastStage key (Q - total early)) Q m).targets ≠ [] ↔ m ≤ Q := by
  have hmem := requested_mem key hQ hearly
  have hQ0 : 0 < Q := (total_nonneg fun s hs => (hearly s hs).1.le).trans_lt hleft
  have htotal : total (early ++ lastStage key (Q - total early)) = Q := by
    rw [total_append, total_lastStage, max_eq_left (by linarith)]
    ring
  rcases List.eq_nil_or_concat ((early ++ lastStage key (Q - total early)).filter (m ≤ ·.2)) with
    hnone | ⟨kept, last, hkept⟩
  · unfold planAtMinSize
    rw [hnone]
    by_cases hmin : Q < m
    · simp [hmin, not_le.mpr hmin]
    · cases hlast : (early ++ lastStage key (Q - total early)).getLast? with
      | none => exact absurd (List.getLast?_eq_none_iff.mp hlast) (requested_ne_nil early key hQ0)
      | some target => simp [hmin, not_lt.mp hmin]
  · rw [List.concat_eq_append] at hkept
    have htargets := planAtMinSize_kept hQ hkept (fun s hs => (hmem s hs).1)
      (fun s hs => (hmem s hs).2) (requested_nodup hkeys hkey _)
    obtain ⟨hin, hmin⟩ := List.mem_filter.mp (hkept ▸ List.mem_append_right kept
      (List.mem_singleton_self last))
    have hle := total_sublist (List.singleton_sublist.mpr hin) fun s hs => (hmem s hs).1
    rw [total_cons, total_nil, add_zero, htotal] at hle
    rw [htargets]
    exact iff_of_true (requested_ne_nil kept last.1 hQ0) ((of_decide_eq_true hmin).trans hle)

theorem targets_ne_nil_iff (hkeys : (weightedKeys.map Prod.fst).Nodup)
    (hweights : ∀ s ∈ weightedKeys, 0 < s.2) (hne : weightedKeys ≠ [])
    (htol : tradeBuilderExitQtyTolerance < roundTradeBuilderShareQty currentParentQty)
    (hlt : (earlyShares weightedKeys (roundTradeBuilderShareQty currentParentQty)).sum <
      roundTradeBuilderShareQty currentParentQty) (orderMinSize : Option ℚ) :
    (tradeBuilderPlanWeightedLadderTargets weightedKeys currentParentQty
        orderMinSize).targets ≠ [] ↔
      ∀ m ∈ normalizeTradeBuilderMarketSpecNumber orderMinSize,
        m ≤ roundTradeBuilderShareQty currentParentQty := by
  have hgridQ := roundTradeBuilderShareQty_onGrid currentParentQty
  have hsum : ¬ total weightedKeys ≤ 0 := not_le.mpr (total_pos hne hweights)
  have hempty : weightedKeys.isEmpty = false := List.isEmpty_eq_false_iff.mpr hne
  have hQ : 0 < roundTradeBuilderShareQty currentParentQty :=
    lt_trans (by norm_num [tradeBuilderExitQtyTolerance]) htol
  unfold tradeBuilderPlanWeightedLadderTargets
  simp only [roundTradeBuilderShareQty_max, not_le.mpr htol, hempty, hsum, false_or, if_false,
    Bool.false_eq_true]
  generalize roundTradeBuilderShareQty currentParentQty = Q at hgridQ hlt hQ
  rcases List.eq_nil_or_concat weightedKeys with rfl | ⟨stages, last, rfl⟩
  · exact absurd rfl hne
  rw [List.concat_eq_append] at *
  rw [requestedTargets_eq hgridQ]
  rw [earlyShares_sum] at hlt
  cases normalizeTradeBuilderMarketSpecNumber orderMinSize with
  | none => exact iff_of_true (requested_ne_nil _ last.1 hQ) (by simp)
  | some m =>
    obtain ⟨hnd, hlast⟩ := earlyTargets_nodup hkeys Q (total (stages ++ [last]))
    simpa using planAtMinSize_ne_nil_iff (m := m) hgridQ earlyTargets_pos hnd hlast hlt

end Asked

theorem targets_closeOut_halves :
    (tradeBuilderPlanWeightedLadderTargets [(1, 50), (2, (50 : ℚ))] (141 / 100) none).targets ≠ [] ∧
      ClosesOut (tradeBuilderPlanWeightedLadderTargets [(1, 50), (2, (50 : ℚ))] (141 / 100)
        none).targets (roundTradeBuilderShareQty (141 / 100)) := by
  have hne : (tradeBuilderPlanWeightedLadderTargets [(1, 50), (2, (50 : ℚ))] (141 / 100)
      none).targets ≠ [] := by decide +kernel
  have hfit : EarlyStagesFit [(1, 50), (2, (50 : ℚ))] (141 / 100) none :=
    .inr (by decide +kernel : (earlyShares [(1, 50), (2, (50 : ℚ))]
      (roundTradeBuilderShareQty (141 / 100))).sum ≤ roundTradeBuilderShareQty (141 / 100))
  exact ⟨hne, (targets_closeOut_iff [(1, 50), (2, 50)] (by decide) (by decide +kernel) (141 / 100)
    none).mpr hfit hne⟩

/-- Three early stages of 33.6, 33.6 and 32.6 percent sell 1.01 shares of 1. -/
theorem early_stages_round_up :
    let stages : List (ℕ × ℚ) := [(0, 336 / 10), (1, 336 / 10), (2, 326 / 10), (3, 2 / 10)]
    let plan := tradeBuilderPlanWeightedLadderTargets stages 1 none
    (stages.map Prod.fst).Nodup ∧ (∀ s ∈ stages, 0 < s.2) ∧
      plan.targets = [(0, 34 / 100), (1, 34 / 100), (2, 33 / 100)] ∧
      ¬ ClosesOut plan.targets (roundTradeBuilderShareQty 1) := by
  decide +kernel

/-! ### The plan of a ladder's rules, as the finalizer keeps it -/

theorem ladderRequestedTargets_eq (weightSum qty : ℚ) (stages : List (ℕ × ℚ)) (assigned : ℚ) :
    ladderRequestedTargets weightSum qty stages assigned =
      requestedTargets qty weightSum stages assigned := by
  induction stages generalizing assigned with
  | nil => rfl
  | cons stage rest ih => simp only [ladderRequestedTargets, requestedTargets, ih]

theorem ladderKeptTargets_eq (qty : ℚ) (kept : List (ℕ × ℚ)) (hkeys : (kept.map Prod.fst).Nodup)
    (assigned : ℚ) :
    ladderKeptTargets qty kept assigned =
      reassignedTargets qty (kept.getLast?.map Prod.fst) kept assigned := by
  induction kept generalizing assigned with
  | nil => rfl
  | cons stage rest ih =>
    have hrest := ih hkeys.of_cons
    cases rest with
    | nil => simp [ladderKeptTargets, reassignedTargets]
    | cons next rest =>
      have hdeepest : ((stage :: next :: rest).getLast?.map Prod.fst) =
          (next :: rest).getLast?.map Prod.fst := by simp
      have hother : some stage.1 ≠ (next :: rest).getLast?.map Prod.fst := by
        intro h
        obtain ⟨last, hlast, heq⟩ := Option.map_eq_some_iff.mp h.symm
        have hmem : last.1 ∈ (next :: rest).map Prod.fst :=
          List.mem_map_of_mem (List.mem_of_getLast? hlast)
        exact (List.nodup_cons.mp hkeys).1 (heq ▸ hmem)
      rw [hdeepest, ladderKeptTargets, reassignedTargets]
      simp only [List.isEmpty_cons, Bool.false_eq_true, if_false, hother, hrest]

theorem planAtMinSize_targets (requested : List (ℕ × ℚ)) (qty minSize : ℚ)
    (hkeys : (requested.map Prod.fst).Nodup) :
    (planAtMinSize requested qty minSize).targets =
      match requested.filter fun t => minSize ≤ t.2 with
      | [] =>
        if qty < minSize then []
        else (requested.getLast?.map fun t => (t.1, qty)).toList
      | kept => ladderKeptTargets qty kept 0 := by
  unfold planAtMinSize
  cases hkept : requested.filter (minSize ≤ ·.2) with
  | nil =>
    by_cases hmin : qty < minSize
    · simp only [if_pos hmin]
    · cases hlast : requested.getLast? with
      | none => simp [hmin]
      | some target => simp [hmin]
  | cons stage rest =>
    have hsub : (stage :: rest).Sublist requested := hkept ▸ List.filter_sublist
    exact (ladderKeptTargets_eq qty (stage :: rest) (hkeys.sublist (hsub.map Prod.fst)) 0).symm

theorem ladderTargets_eq (stages : List (ℕ × ℚ)) (hkeys : (stages.map Prod.fst).Nodup)
    (parentQty : ℚ) (orderMinSize : Option ℚ) :
    Builder.tradeBuilderPlanWeightedLadderTargets stages parentQty orderMinSize =
      (tradeBuilderPlanWeightedLadderTargets stages parentQty orderMinSize).targets := by
  unfold Builder.tradeBuilderPlanWeightedLadderTargets tradeBuilderPlanWeightedLadderTargets
  simp only [roundTradeBuilderShareQty_max, ladderRequestedTargets_eq]
  generalize roundTradeBuilderShareQty parentQty = qty
  have hrequested := fun W => hkeys.sublist (requestedTargets_keys qty W stages 0)
  change (if qty ≤ _ ∨ total stages ≤ 0 then _ else _) = _
  by_cases htol : qty ≤ tradeBuilderExitQtyTolerance
  · simp [htol]
  by_cases hsum : total stages ≤ 0
  · simp [htol, hsum]
  have hne : stages.isEmpty = false := by
    cases stages with
    | nil => simp at hsum
    | cons => rfl
  simp only [htol, hsum, hne, or_self, if_false, Bool.false_eq_true,
    normalizeTradeBuilderMarketSpecNumber]
  cases orderMinSize.filter (0 < ·) with
  | none => rfl
  | some minSize => exact (planAtMinSize_targets _ qty minSize (hrequested _)).symm

end PolymarketBot.ExitLadders
