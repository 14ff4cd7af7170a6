import PolymarketBot.Builder.Preemption

/-! How much the stop losses that are submitted at once sell together, against what the parent
still holds. -/

namespace PolymarketBot.ExitLadders
open Lib Builder

/-! ### Sums over chosen keys -/

section Chosen
variable {K : Type}

theorem total_perm {stages more : List (K × ℚ)} (h : stages.Perm more) :
    total stages = total more :=
  (h.map Prod.snd).sum_eq

theorem total_filter_le {stages : List (K × ℚ)} (hpos : ∀ s ∈ stages, 0 < s.2)
    (p : K × ℚ → Bool) : total (stages.filter p) ≤ total stages :=
  total_sublist List.filter_sublist hpos

variable [DecidableEq K]

theorem total_filter_key {stages : List (K × ℚ)} (hkeys : (stages.map Prod.fst).Nodup) (key : K) :
    total (stages.filter (·.1 = key)) = ((stages.find? (·.1 = key)).map Prod.snd).getD 0 := by
  induction stages with
  | nil => rfl
  | cons stage rest ih =>
    rw [List.map_cons, List.nodup_cons] at hkeys
    by_cases h : stage.1 = key
    · have hrest : rest.filter (·.1 = key) = [] := by
        refine List.filter_eq_nil_iff.mpr fun s hs heq => hkeys.1 ?_
        rw [h, ← of_decide_eq_true heq]
        exact List.mem_map_of_mem hs
      simp [h, hrest]
    · have hrest := ih hkeys.2
      simpa [h] using hrest

theorem total_filter_cons (stages : List (K × ℚ)) {key : K} {keys : List K} (hkey : key ∉ keys) :
    total (stages.filter (·.1 ∈ key :: keys)) =
      total (stages.filter (·.1 = key)) + total (stages.filter (·.1 ∈ keys)) := by
  induction stages with
  | nil => simp
  | cons stage rest ih =>
    by_cases h : stage.1 = key
    · have hnot : stage.1 ∉ keys := h ▸ hkey
      simp only [List.mem_cons] at ih
      simp only [List.filter_cons, List.mem_cons, h, true_or, decide_true, if_true, total_cons,
        hkey, decide_false, Bool.false_eq_true, if_false]
      rw [ih]
      ring
    · simp only [List.mem_cons] at ih
      simp only [List.filter_cons, List.mem_cons, h, false_or, decide_false, Bool.false_eq_true,
        if_false]
      by_cases hmem : stage.1 ∈ keys
      · simp only [hmem, decide_true, if_true, total_cons]
        rw [ih]
        ring
      · simpa only [hmem, decide_false, Bool.false_eq_true, if_false] using ih

theorem sum_lookup {stages : List (K × ℚ)} (hkeys : (stages.map Prod.fst).Nodup) {keys : List K}
    (hnodup : keys.Nodup) :
    (keys.map fun key => ((stages.find? (·.1 = key)).map Prod.snd).getD 0).sum =
      total (stages.filter (·.1 ∈ keys)) := by
  induction keys with
  | nil => simp
  | cons key keys ih =>
    rw [List.nodup_cons] at hnodup
    rw [List.map_cons, List.sum_cons, ih hnodup.2, total_filter_cons stages hnodup.1,
      total_filter_key hkeys]

end Chosen

/-! ### Chosen stages of a ladder -/

section Stages
variable {K : Type} {Q : ℚ}

/-- The stages whose quantity is rounded on its own, before one takes the remainder. -/
def settledStages (weightedKeys : List (K × ℚ)) (parentQty : ℚ) (orderMinSize : Option ℚ) :
    List (K × ℚ) :=
  let early := earlyTargets parentQty (total weightedKeys) weightedKeys.dropLast
  if parentQty ≤ tradeBuilderExitQtyTolerance then []
  else
    match normalizeTradeBuilderMarketSpecNumber orderMinSize with
    | none => early
    | some minSize => (early.filter (minSize ≤ ·.2)).dropLast

theorem chosen_lastStage_iff {kept : List (K × ℚ)} (hpos : ∀ s ∈ kept, 0 < s.2) (key : K)
    (p : K → Bool) :
    total ((kept ++ lastStage key (Q - total kept)).filter (p ·.1)) ≤ Q ↔
      total (kept.filter (p ·.1)) ≤ Q := by
  by_cases hfits : total kept ≤ Q
  · obtain ⟨hall, hsum⟩ := (closesOut_lastStage hpos key Q).mpr hfits
    have hchosen := total_filter_le hall (p ·.1)
    have hkept := total_filter_le hpos (p ·.1)
    exact iff_of_true (by linarith) (by linarith)
  · have hnone : lastStage key (Q - total kept) = [] := by
      unfold lastStage
      rw [if_neg (by linarith)]
    rw [hnone, List.append_nil]

theorem kept_eq_dropLast {early kept : List (K × ℚ)} {key : K} {last : K × ℚ} {m : ℚ}
    (hpos : ∀ s ∈ early, 0 < s.2)
    (h : (early ++ lastStage key (Q - total early)).filter (m ≤ ·.2) = kept ++ [last])
    (hover : Q < total kept) : kept = (early.filter (m ≤ ·.2)).dropLast := by
  rw [List.filter_append] at h
  by_cases hleft : 0 < Q - total early ∧ m ≤ Q - total early
  · have hlast : (lastStage key (Q - total early)).filter (m ≤ ·.2) =
        [(key, Q - total early)] := by
      simp [lastStage, hleft.1, hleft.2]
    rw [hlast] at h
    have hkept : kept = early.filter (m ≤ ·.2) := (List.append_inj' h rfl).1.symm
    have hsub := total_filter_le hpos fun s => decide (m ≤ s.2)
    rw [← hkept] at hsub
    linarith [hleft.1]
  · have hlast : (lastStage key (Q - total early)).filter (m ≤ ·.2) = [] := by
      unfold lastStage
      split
      case isTrue h0 => simpa using fun hm => hleft ⟨h0, hm⟩
      case isFalse => rfl
    rw [hlast, List.append_nil] at h
    rw [h, List.dropLast_concat]

variable [DecidableEq K]

theorem planAtMinSize_chosen_iff {early : List (K × ℚ)} {key : K} {m : ℚ} (hgridQ : OnGrid 100 Q)
    (hQ : 0 < Q) (hearly : ∀ s ∈ early, 0 < s.2 ∧ OnGrid 100 s.2)
    (hkeys : (early.map Prod.fst).Nodup) (hkey : key ∉ early.map Prod.fst) (p : K → Bool) :
    total ((planAtMinSize (early ++ lastStage key (Q - total early)) Q m).targets.filter
        (p ·.1)) ≤ Q ↔
      total ((early.filter (m ≤ ·.2)).dropLast.filter (p ·.1)) ≤ Q := by
  have hmem := requested_mem key hgridQ hearly
  have hpos : ∀ s ∈ early, 0 < s.2 := fun s hs => (hearly s hs).1
  have hdrop : ∀ s ∈ (early.filter (m ≤ ·.2)).dropLast, 0 < s.2 := fun s hs =>
    hpos s (List.mem_of_mem_filter (List.dropLast_subset _ hs))
  rcases List.eq_nil_or_concat ((early ++ lastStage key (Q - total early)).filter (m ≤ ·.2)) with
    hnone | ⟨kept, last, hkept⟩
  · have hnil : early.filter (m ≤ ·.2) = [] := by
      rw [List.filter_append, List.append_eq_nil_iff] at hnone
      exact hnone.1
    rw [hnil]
    refine iff_of_true ?_ hQ.le
    rcases planAtMinSize_none (Q := Q) hnone with h | ⟨-, target, h⟩
    · rw [h]
      exact hQ.le
    · rw [h]
      have hpositive : ∀ s ∈ [(target, Q)], 0 < s.2 := by simpa using hQ
      have hone := total_filter_le hpositive (p ·.1)
      simpa using hone
  · rw [List.concat_eq_append] at hkept
    have hkeptpos : ∀ s ∈ kept, 0 < s.2 := by
      intro s hs
      have hin : s ∈ (early ++ lastStage key (Q - total early)).filter (m ≤ ·.2) := by
        rw [hkept]
        exact List.mem_append_left _ hs
      exact (hmem s (List.mem_of_mem_filter hin)).1
    rw [planAtMinSize_kept hgridQ hkept (fun s hs => (hmem s hs).1) (fun s hs => (hmem s hs).2)
      (requested_nodup hkeys hkey _), chosen_lastStage_iff hkeptpos]
    by_cases hfits : total kept ≤ Q
    · have hsettled : total (early.filter (m ≤ ·.2)).dropLast ≤ Q := by
        have h := (kept_fits hpos hkept).mp hfits
        rwa [← List.map_dropLast] at h
      have hchosen := total_filter_le hkeptpos (p ·.1)
      have hchosen' := total_filter_le hdrop (p ·.1)
      exact iff_of_true (by linarith) (by linarith)
    · rw [← kept_eq_dropLast hpos hkept (not_le.mp hfits)]

theorem targets_chosen_iff (weightedKeys : List (K × ℚ))
    (hkeys : (weightedKeys.map Prod.fst).Nodup) (hweights : ∀ s ∈ weightedKeys, 0 < s.2)
    (currentParentQty : ℚ) (orderMinSize : Option ℚ) (p : K → Bool) :
    total ((tradeBuilderPlanWeightedLadderTargets weightedKeys currentParentQty
        orderMinSize).targets.filter (p ·.1)) ≤ roundTradeBuilderShareQty currentParentQty ↔
      total ((settledStages weightedKeys (roundTradeBuilderShareQty currentParentQty)
        orderMinSize).filter (p ·.1)) ≤ roundTradeBuilderShareQty currentParentQty := by
  unfold tradeBuilderPlanWeightedLadderTargets settledStages
  simp only [roundTradeBuilderShareQty_max]
  have hgridQ := roundTradeBuilderShareQty_onGrid currentParentQty
  have hQ0 := roundTradeBuilderShareQty_nonneg currentParentQty
  generalize roundTradeBuilderShareQty currentParentQty = Q at hgridQ hQ0 ⊢
  by_cases htol : Q ≤ tradeBuilderExitQtyTolerance
  · simp [htol]
  have hQ : 0 < Q := lt_trans (by norm_num [tradeBuilderExitQtyTolerance]) (not_le.mp htol)
  rcases List.eq_nil_or_concat weightedKeys with rfl | ⟨stages, last, rfl⟩
  · cases normalizeTradeBuilderMarketSpecNumber orderMinSize <;>
      simp [earlyTargets, roundedStages]
  rw [List.concat_eq_append] at *
  have hsum : ¬ total (stages ++ [last]) ≤ 0 := not_le.mpr (total_pos (by simp) hweights)
  have hempty : (stages ++ [last]).isEmpty = false := by simp
  simp only [htol, hempty, hsum, false_or, if_false, Bool.false_eq_true, requestedTargets_eq hgridQ,
    List.dropLast_concat]
  cases normalizeTradeBuilderMarketSpecNumber orderMinSize with
  | none => exact chosen_lastStage_iff (fun s hs => (mem_earlyTargets hs).1) last.1 p
  | some m =>
    obtain ⟨hnd, hlast⟩ := earlyTargets_nodup hkeys Q (total (stages ++ [last]))
    exact planAtMinSize_chosen_iff hgridQ hQ earlyTargets_pos hnd hlast p

omit [DecidableEq K] in
theorem requestedTargets_pos (weightSum : ℚ) (stages : List (K × ℚ)) (assigned : ℚ) :
    ∀ t ∈ requestedTargets Q weightSum stages assigned, 0 < t.2 := by
  induction stages generalizing assigned with
  | nil => exact fun t ht => absurd ht List.not_mem_nil
  | cons stage rest ih =>
    rw [requestedTargets]
    generalize (if rest.isEmpty then _ else _ : ℚ) = desired
    split
    case isTrue => exact ih assigned
    case isFalse hpos => exact List.forall_mem_cons.mpr ⟨not_le.mp hpos, ih _⟩

theorem reassignedTargets_pos (deepestKeptKey : Option K) (kept : List (K × ℚ)) (assigned : ℚ) :
    ∀ t ∈ reassignedTargets Q deepestKeptKey kept assigned, 0 < t.2 := by
  induction kept generalizing assigned with
  | nil => exact fun t ht => absurd ht List.not_mem_nil
  | cons stage rest ih =>
    rw [reassignedTargets]
    generalize (if some stage.1 = deepestKeptKey then _ else _ : ℚ) = desired
    split
    case isTrue => exact ih assigned
    case isFalse hpos => exact List.forall_mem_cons.mpr ⟨not_le.mp hpos, ih _⟩

theorem targets_pos (weightedKeys : List (K × ℚ)) (currentParentQty : ℚ)
    (orderMinSize : Option ℚ) :
    ∀ t ∈ (tradeBuilderPlanWeightedLadderTargets weightedKeys currentParentQty
      orderMinSize).targets, 0 < t.2 := by
  have hempty : ∀ t ∈ ([] : List (K × ℚ)), 0 < t.2 := fun t ht => absurd ht List.not_mem_nil
  unfold tradeBuilderPlanWeightedLadderTargets planAtMinSize
  dsimp only
  split
  case isTrue => exact hempty
  case isFalse hqty =>
    have hpos : 0 < roundTradeBuilderShareQty (max currentParentQty 0) :=
      lt_trans (by norm_num [tradeBuilderExitQtyTolerance]) (not_le.mp fun h => hqty (.inl h))
    split
    case isTrue => exact hempty
    case isFalse =>
      split
      · exact requestedTargets_pos _ _ _
      · split
        · split
          · exact hempty
          · split
            · exact hempty
            · simpa using hpos
        · exact reassignedTargets_pos _ _ _

end Stages

/-! ### What a preemption hands out -/

def isReady (view : MarketView) (sibling : LadderChild) : Bool :=
  (evaluateTradeBuilderPreemptedStopLoss sibling.toTradeBuilderOrder view).any
    (·.readyForInlineSubmit)

section Loop
variable {view : MarketView}

theorem latchPreempting_ready (s : PreemptionState) (sibling : LadderChild) :
    (latchPreempting view s sibling).readySlOrderIds =
        s.readySlOrderIds ++ ([sibling].filter (isReady view)).map (·.id) ∧
      ((latchPreempting view s sibling).stopLossSiblingIds = [] →
        s.stopLossSiblingIds = [] ∧ isReady view sibling = false) := by
  unfold latchPreempting
  cases hdecision : evaluateTradeBuilderPreemptedStopLoss sibling.toTradeBuilderOrder view with
  | none =>
    have hready : isReady view sibling = false := by simp [isReady, hdecision]
    dsimp only
    split <;> simp [PreemptionState.event, hready]
  | some decision =>
    have hready : isReady view sibling = decision.readyForInlineSubmit := by
      simp [isReady, hdecision]
    dsimp only
    cases hinline : decision.readyForInlineSubmit <;>
      split <;> simp [PreemptionState.event, PreemptionState.update, hready, hinline]

theorem latchPreempting_loop (siblings : List LadderChild) (s : PreemptionState) :
    (siblings.foldl (latchPreempting view) s).readySlOrderIds =
        s.readySlOrderIds ++ (siblings.filter (isReady view)).map (·.id) ∧
      ((siblings.foldl (latchPreempting view) s).stopLossSiblingIds = [] →
        s.stopLossSiblingIds = [] ∧ siblings.filter (isReady view) = []) := by
  induction siblings generalizing s with
  | nil => simp
  | cons sibling siblings ih =>
    obtain ⟨hready, hnone⟩ := @latchPreempting_ready view s sibling
    obtain ⟨hrest, hrestNone⟩ := ih (latchPreempting view s sibling)
    rw [List.foldl_cons]
    refine ⟨?_, fun h => ?_⟩
    · rw [hrest, hready, List.append_assoc, ← List.map_append, ← List.filter_append,
        List.singleton_append]
    · obtain ⟨hlatched, hfilter⟩ := hrestNone h
      obtain ⟨hs, hfirst⟩ := hnone hlatched
      exact ⟨hs, by simp [hfirst, hfilter]⟩

end Loop

/-- Two states that agree on what is ready and on what it is left. -/
def SameReady (s s' : PreemptionState) : Prop :=
  s'.readySlOrderIds = s.readySlOrderIds ∧ s'.inventoryPlan = s.inventoryPlan

theorem sameReady_loop {step : PreemptionState → LadderChild → PreemptionState}
    (hstep : ∀ s sibling, SameReady s (step s sibling)) (siblings : List LadderChild)
    (s : PreemptionState) : SameReady s (siblings.foldl step s) := by
  induction siblings generalizing s with
  | nil => exact ⟨rfl, rfl⟩
  | cons sibling siblings ih =>
    have hfirst := hstep s sibling
    have hrest := ih (step s sibling)
    exact ⟨hrest.1.trans hfirst.1, hrest.2.trans hfirst.2⟩

theorem reportTriggered_sameReady (s : PreemptionState) (sibling : LadderChild) :
    SameReady s (reportTriggered s sibling) := by
  unfold reportTriggered
  dsimp only
  split <;> exact ⟨rfl, rfl⟩

theorem preemptTakeProfit_sameReady (s : PreemptionState) (takeProfit : LadderChild) :
    SameReady s (preemptTakeProfit s takeProfit) := ⟨rfl, rfl⟩

theorem sync_ready (siblings : List LadderChild) (parentQty orderMinSize : Option ℚ)
    (s : PreemptionState) :
    (syncTradeBuilderPreemptedStopLossInventory siblings parentQty orderMinSize
        s).readySlOrderIds = s.readySlOrderIds ∧
      (syncTradeBuilderPreemptedStopLossInventory siblings parentQty orderMinSize
        s).inventoryPlan =
          planTradeBuilderPreemptedStopLossInventory siblings parentQty orderMinSize := by
  unfold syncTradeBuilderPreemptedStopLossInventory
  dsimp only
  split <;> exact ⟨rfl, rfl⟩

/-- The stop losses that are triggered and ready. -/
def readyStopLosses (siblings : List LadderChild) (view : MarketView) : List LadderChild :=
  (siblings.filter fun sibling => tradeBuilderIsStopLossChild sibling.toTradeBuilderOrder).filter
    (isReady view)

theorem readyQty_eq {order : LadderChild} {rows : List LadderChild}
    (horder : tradeBuilderIsTakeProfitChild order.toTradeBuilderOrder = true)
    (parentQty orderMinSize : Option ℚ) (view : MarketView) :
    readyQty (maybePreemptTradeBuilderTakeProfitForStopLoss order rows parentQty orderMinSize
        view) =
      ((readyStopLosses (rows.filter (·.id ≠ order.id)) view).map fun sibling =>
        ((planTradeBuilderPreemptedStopLossInventory (rows.filter (·.id ≠ order.id)) parentQty
          orderMinSize).remainingQtyFor sibling.id).getD 0).sum := by
  have hsum : ∀ s : PreemptionState,
      s.readySlOrderIds = (readyStopLosses (rows.filter (·.id ≠ order.id)) view).map (·.id) →
      s.inventoryPlan = planTradeBuilderPreemptedStopLossInventory
        (rows.filter (·.id ≠ order.id)) parentQty orderMinSize →
      readyQty s = ((readyStopLosses (rows.filter (·.id ≠ order.id)) view).map fun sibling =>
        ((planTradeBuilderPreemptedStopLossInventory (rows.filter (·.id ≠ order.id)) parentQty
          orderMinSize).remainingQtyFor sibling.id).getD 0).sum := by
    intro s hids hplan
    rw [readyQty, hids, hplan, List.map_map]
    rfl
  obtain ⟨hready, hnone⟩ := @latchPreempting_loop view
    ((rows.filter (·.id ≠ order.id)).filter fun sibling =>
      tradeBuilderIsStopLossChild sibling.toTradeBuilderOrder) { rows }
  rw [List.nil_append] at hready
  unfold maybePreemptTradeBuilderTakeProfitForStopLoss
  rw [if_pos horder]
  dsimp only
  split
  case isTrue hempty =>
    have hnoneReady : readyStopLosses (rows.filter (·.id ≠ order.id)) view = [] :=
      (hnone (List.isEmpty_iff.mp hempty)).2
    have hnoIds := hready.trans (congrArg (List.map _) hnoneReady)
    rw [hnoneReady, readyQty, hnoIds]
    rfl
  case isFalse =>
    obtain ⟨hids, hplan⟩ := sync_ready (rows.filter (·.id ≠ order.id)) parentQty orderMinSize
      (((rows.filter (·.id ≠ order.id)).filter fun sibling =>
        tradeBuilderIsStopLossChild sibling.toTradeBuilderOrder).foldl (latchPreempting view)
          { rows })
    split
    · refine hsum _ ?_ ?_
      · exact ((sameReady_loop reportTriggered_sameReady _ _).1.trans hids).trans hready
      · exact (sameReady_loop reportTriggered_sameReady _ _).2.trans hplan
    · refine hsum _ ?_ ?_
      · exact (((sameReady_loop preemptTakeProfit_sameReady _ _).1.trans
          (sameReady_loop reportTriggered_sameReady _ _).1).trans hids).trans hready
      · exact ((sameReady_loop preemptTakeProfit_sameReady _ _).2.trans
          (sameReady_loop reportTriggered_sameReady _ _).2).trans hplan

/-! ### When the ready stop losses fit the parent's quantity -/

theorem isReady_stopLoss {view : MarketView} {sibling : LadderChild}
    (h : isReady view sibling = true) :
    tradeBuilderIsStopLossChild sibling.toTradeBuilderOrder = true ∧
      tradeBuilderIsTerminalStatus sibling.status = false := by
  unfold isReady evaluateTradeBuilderPreemptedStopLoss at h
  split at h
  · cases h
  · simp_all

/-- The sibling with this id is triggered and ready. -/
def isReadyId (siblings : List LadderChild) (view : MarketView) (id : ℤ) : Bool :=
  siblings.any fun sibling => sibling.id = id && isReady view sibling

/-- No hard stop loss is ready, and the ready stages that are rounded on their own fit; or one
hard stop loss is ready, and no ready stage is left any quantity. -/
def PreemptionFits (siblings : List LadderChild) (view : MarketView) (parentQty : ℚ)
    (orderMinSize : Option ℚ) : Prop :=
  let staged := stagedStopLosses siblings
  let qty := roundTradeBuilderShareQty parentQty
  match (hardStopLosses siblings).countP (isReady view) with
  | 0 => total ((settledStages (weightedChildren staged) qty orderMinSize).filter
      (isReadyId siblings view ·.1)) ≤ qty
  | 1 => ∀ target ∈ (tradeBuilderLadderFamilyTargetPlan staged parentQty orderMinSize).targets,
      isReadyId siblings view target.1 = false
  | _ => False

instance (siblings : List LadderChild) (view : MarketView) (parentQty : ℚ)
    (orderMinSize : Option ℚ) : Decidable (PreemptionFits siblings view parentQty orderMinSize) := by
  unfold PreemptionFits
  dsimp only
  split <;> infer_instance

section Fits
variable {siblings : List LadderChild} {view : MarketView}

theorem mem_readyIds {id : ℤ} :
    id ∈ (readyStopLosses siblings view).map (·.id) ↔ isReadyId siblings view id = true := by
  simp only [readyStopLosses, List.mem_map, List.mem_filter, isReadyId, List.any_eq_true,
    Bool.and_eq_true, decide_eq_true_eq]
  constructor
  · rintro ⟨sibling, ⟨⟨hmem, -⟩, hready⟩, hid⟩
    exact ⟨sibling, hmem, hid, hready⟩
  · rintro ⟨sibling, hmem, hid, hready⟩
    exact ⟨sibling, ⟨⟨hmem, (isReady_stopLoss hready).1⟩, hready⟩, hid⟩

theorem isReadyId_eq (hids : (siblings.map (·.id)).Nodup) {sibling : LadderChild}
    (hmem : sibling ∈ siblings) : isReadyId siblings view sibling.id = isReady view sibling := by
  rw [Bool.eq_iff_iff]
  simp only [isReadyId, List.any_eq_true, Bool.and_eq_true, decide_eq_true_eq]
  constructor
  · rintro ⟨other, hother, hid, hready⟩
    rwa [List.inj_on_of_nodup_map hids hother hmem hid] at hready
  · exact fun hready => ⟨sibling, hmem, rfl, hready⟩

theorem hardQtys_keys (siblings : List LadderChild) (qty : ℚ) :
    ((hardStopLosses siblings).map fun sibling => (sibling.id, qty)).map Prod.fst =
      (hardStopLosses siblings).map (·.id) := by
  rw [List.map_map]
  rfl

theorem stagedTargets_keys (siblings : List LadderChild) (parentQty : ℚ)
    (orderMinSize : Option ℚ) {id : ℤ}
    (hid : id ∈ (tradeBuilderLadderFamilyTargetPlan (stagedStopLosses siblings) parentQty
      orderMinSize).targets.map Prod.fst) :
    id ∈ (stagedStopLosses siblings).map (·.id) := by
  have hsorts := familyPlan_sortsKeys (stagedStopLosses siblings) parentQty orderMinSize
  have hrequested := plan_requestedTargets_keys (weightedChildren (stagedStopLosses siblings))
    parentQty orderMinSize
  obtain ⟨stage, hstage, rfl⟩ := List.mem_map.mp (hrequested.subset (hsorts.targets.subset hid))
  obtain ⟨child, hchild, hweight⟩ :=
    List.mem_filterMap.mp ((weightedChildren_perm _).mem_iff.mp hstage)
  obtain ⟨pct, -, rfl⟩ := Option.map_eq_some_iff.mp hweight
  exact List.mem_map_of_mem hchild

theorem weightedChildren_nodup {children : List LadderChild}
    (hids : (children.map (·.id)).Nodup) : ((weightedChildren children).map Prod.fst).Nodup := by
  rw [((weightedChildren_perm children).map Prod.fst).nodup_iff]
  refine hids.sublist ?_
  induction children with
  | nil => exact List.Sublist.slnil
  | cons child children ih =>
    have hrest := ih (List.nodup_cons.mp hids).2
    cases hweight : tradeBuilderLadderRuleWeight child with
    | none => simpa [hweight] using hrest.cons child.id
    | some pct => simpa [hweight] using hrest.cons_cons child.id

theorem planKeys_nodup (hids : (siblings.map (·.id)).Nodup) (parentQty qty : ℚ)
    (orderMinSize : Option ℚ) :
    ((((hardStopLosses siblings).map fun sibling => (sibling.id, qty)) ++
      (tradeBuilderLadderFamilyTargetPlan (stagedStopLosses siblings) parentQty
        orderMinSize).targets).map Prod.fst).Nodup := by
  have hstaged : ((stagedStopLosses siblings).map (·.id)).Nodup :=
    hids.sublist (List.filter_sublist.map _)
  have hsorts := familyPlan_sortsKeys (stagedStopLosses siblings) parentQty orderMinSize
  have hrequested := plan_requestedTargets_keys (weightedChildren (stagedStopLosses siblings))
    parentQty orderMinSize
  rw [List.map_append, List.nodup_append, hardQtys_keys]
  refine ⟨hids.sublist (List.filter_sublist.map _),
    (weightedChildren_nodup hstaged).sublist (hsorts.targets.trans hrequested), ?_⟩
  intro hardId hhard stagedId hstagedId heq
  obtain ⟨hardChild, hhardMem, rfl⟩ := List.mem_map.mp hhard
  obtain ⟨stagedChild, hstagedMem, rfl⟩ :=
    List.mem_map.mp (stagedTargets_keys siblings parentQty orderMinSize hstagedId)
  obtain ⟨hhardIn, hhardKind⟩ := List.mem_filter.mp hhardMem
  obtain ⟨hstagedIn, hstagedKind⟩ := List.mem_filter.mp hstagedMem
  have hsame := List.inj_on_of_nodup_map hids hhardIn hstagedIn heq
  rw [hsame] at hhardKind
  simp_all

theorem total_readyHard (hids : (siblings.map (·.id)).Nodup) (qty : ℚ) :
    total (((hardStopLosses siblings).map fun sibling => (sibling.id, qty)).filter
        (isReadyId siblings view ·.1)) =
      (hardStopLosses siblings).countP (isReady view) * qty := by
  have hready : ∀ sibling ∈ hardStopLosses siblings,
      isReadyId siblings view sibling.id = isReady view sibling :=
    fun sibling hmem => isReadyId_eq hids (List.mem_of_mem_filter hmem)
  have hfilter : (hardStopLosses siblings).filter
      ((isReadyId siblings view ·.1) ∘ fun sibling => (sibling.id, qty)) =
        (hardStopLosses siblings).filter (isReady view) := List.filter_congr hready
  rw [List.filter_map, hfilter, List.countP_eq_length_filter]
  simp [total, Function.comp_def]

theorem readyQty_sum (hids : (siblings.map (·.id)).Nodup) {parentQty : ℚ}
    (hqty : tradeBuilderExitQtyTolerance < parentQty) (orderMinSize : Option ℚ) :
    ((readyStopLosses siblings view).map fun sibling =>
        ((planTradeBuilderPreemptedStopLossInventory siblings (some parentQty)
          orderMinSize).remainingQtyFor sibling.id).getD 0).sum =
      (hardStopLosses siblings).countP (isReady view) * roundTradeBuilderShareQty parentQty +
        total ((tradeBuilderLadderFamilyTargetPlan (stagedStopLosses siblings) parentQty
          orderMinSize).targets.filter (isReadyId siblings view ·.1)) := by
  have hreadyIds : ((readyStopLosses siblings view).map (·.id)).Nodup :=
    hids.sublist ((List.filter_sublist.trans List.filter_sublist).map _)
  have hkeys := planKeys_nodup hids parentQty (roundTradeBuilderShareQty parentQty) orderMinSize
  have hsome : (some parentQty).filter (tradeBuilderExitQtyTolerance < ·) = some parentQty := by
    simp [hqty]
  unfold planTradeBuilderPreemptedStopLossInventory StopLossPreemptionInventoryPlan.remainingQtyFor
  rw [hsome]
  dsimp only
  have hperm := List.perm_insertionSort (fun a b : ℤ × ℚ => a.1 ≤ b.1)
    (((hardStopLosses siblings).map fun sibling =>
      (sibling.id, roundTradeBuilderShareQty parentQty)) ++
        (tradeBuilderLadderFamilyTargetPlan (stagedStopLosses siblings) parentQty
          orderMinSize).targets)
  have hlookup := sum_lookup ((hperm.map Prod.fst).nodup_iff.mpr hkeys) hreadyIds
  rw [List.map_map] at hlookup
  refine hlookup.trans ?_
  have hchosen : ∀ s : ℤ × ℚ, decide (s.1 ∈ (readyStopLosses siblings view).map (·.id)) =
      isReadyId siblings view s.1 := by
    intro s
    rw [Bool.eq_iff_iff, decide_eq_true_eq]
    exact mem_readyIds
  simp only [hchosen]
  rw [total_perm (hperm.filter _), List.filter_append, total_append, total_readyHard hids]

theorem readySum_iff (hids : (siblings.map (·.id)).Nodup) {parentQty : ℚ}
    (hqty : tradeBuilderExitQtyTolerance < parentQty) (orderMinSize : Option ℚ) :
    (hardStopLosses siblings).countP (isReady view) * roundTradeBuilderShareQty parentQty +
        total ((tradeBuilderLadderFamilyTargetPlan (stagedStopLosses siblings) parentQty
          orderMinSize).targets.filter (isReadyId siblings view ·.1)) ≤
        roundTradeBuilderShareQty parentQty ↔
      PreemptionFits siblings view parentQty orderMinSize := by
  have hpos := round_pos_of_tolerance hqty
  have htargets := targets_pos (weightedChildren (stagedStopLosses siblings)) parentQty
    orderMinSize
  have hchosen : ∀ t ∈ (tradeBuilderLadderFamilyTargetPlan (stagedStopLosses siblings) parentQty
      orderMinSize).targets.filter (isReadyId siblings view ·.1), 0 < t.2 :=
    fun t ht => htargets t (List.mem_of_mem_filter ht)
  have hstaged := total_nonneg fun t ht => (hchosen t ht).le
  unfold PreemptionFits
  dsimp only
  split
  case h_1 hcount =>
    have hnodup := weightedChildren_nodup (hids.sublist (List.filter_sublist.map _) :
      ((stagedStopLosses siblings).map (·.id)).Nodup)
    rw [hcount, Nat.cast_zero, zero_mul, zero_add]
    exact targets_chosen_iff _ hnodup weightedChildren_pos parentQty orderMinSize _
  case h_2 hcount =>
    rw [hcount, Nat.cast_one, one_mul]
    constructor
    · intro hle target htarget
      by_contra hready
      have hmem : target ∈ (tradeBuilderLadderFamilyTargetPlan (stagedStopLosses siblings)
          parentQty orderMinSize).targets.filter (isReadyId siblings view ·.1) :=
        List.mem_filter.mpr ⟨htarget, by simpa using hready⟩
      have hsum := total_pos (List.ne_nil_of_mem hmem) hchosen
      linarith
    · intro hnone
      have hempty : (tradeBuilderLadderFamilyTargetPlan (stagedStopLosses siblings) parentQty
          orderMinSize).targets.filter (isReadyId siblings view ·.1) = [] :=
        List.filter_eq_nil_iff.mpr fun t ht => by simp [hnone t ht]
      rw [hempty, total_nil, add_zero]
  case h_3 hzero hone =>
    have hnotZero : (hardStopLosses siblings).countP (isReady view) ≠ 0 := hzero
    have hnotOne : (hardStopLosses siblings).countP (isReady view) ≠ 1 := hone
    have htwo : 2 ≤ (hardStopLosses siblings).countP (isReady view) := by omega
    have hcast : (2 : ℚ) ≤ (hardStopLosses siblings).countP (isReady view) := by
      exact_mod_cast htwo
    refine iff_of_false (fun hle => ?_) id
    nlinarith

end Fits

/-- Stop losses that a take profit gives way to are submitted together for at most the parent's
rounded quantity exactly when the hard and the staged ones among them fit it. -/
theorem preempted_within_parent_iff (order : LadderChild) (rows : List LadderChild)
    (hids : (rows.map (·.id)).Nodup) (parentQty orderMinSize : Option ℚ) (view : MarketView) :
    readyQty (maybePreemptTradeBuilderTakeProfitForStopLoss order rows parentQty orderMinSize
        view) ≤ roundTradeBuilderShareQty (parentQty.getD 0) ↔
      (tradeBuilderIsTakeProfitChild order.toTradeBuilderOrder = true →
        ∀ qty, parentQty = some qty → tradeBuilderExitQtyTolerance < qty →
          PreemptionFits (rows.filter (·.id ≠ order.id)) view qty orderMinSize) := by
  have hqty0 := roundTradeBuilderShareQty_nonneg (parentQty.getD 0)
  by_cases horder : tradeBuilderIsTakeProfitChild order.toTradeBuilderOrder = true
  · have hsiblings : ((rows.filter (·.id ≠ order.id)).map (·.id)).Nodup :=
      hids.sublist (List.filter_sublist.map _)
    rw [readyQty_eq horder]
    by_cases hresolved : ∃ qty, parentQty = some qty ∧ tradeBuilderExitQtyTolerance < qty
    · obtain ⟨qty, rfl, hqty⟩ := hresolved
      rw [readyQty_sum hsiblings hqty, Option.getD_some, readySum_iff hsiblings hqty]
      constructor
      · intro hfits _ qty' heq _
        cases heq
        exact hfits
      · exact fun h => h horder qty rfl hqty
    · have hnone : parentQty.filter (tradeBuilderExitQtyTolerance < ·) = none := by
        cases parentQty with
        | none => rfl
        | some qty => simpa using fun hqty => hresolved ⟨qty, rfl, hqty⟩
      have hplan : planTradeBuilderPreemptedStopLossInventory (rows.filter (·.id ≠ order.id))
          parentQty orderMinSize = {} := by
        rw [planTradeBuilderPreemptedStopLossInventory, hnone]
      rw [hplan]
      refine iff_of_true ?_ fun _ qty heq hqty => absurd ⟨qty, heq, hqty⟩ hresolved
      simpa [StopLossPreemptionInventoryPlan.remainingQtyFor] using hqty0
  · refine iff_of_true ?_ fun h => absurd h horder
    rw [maybePreemptTradeBuilderTakeProfitForStopLoss, if_neg horder]
    exact hqty0

/-! ### A hard and a staged stop loss -/

def exitOrder (id : ℤ) (triggerCondition : TriggerCondition) (triggerPrice : ℚ)
    (exitLadderKind : Option String) : LadderChild :=
  { id, kind := .conditional, status := .armed, side := .sell, sizeBasis := .shares
    parentOrderId := some 9, triggerCondition := some triggerCondition
    triggerPrice := some triggerPrice, targetQty := some 10, remainingQty := some 10
    exitLadderKind, exitLadderIndex := some 0, exitLadderSizePct := some 100 }

def takeProfit : LadderChild := exitOrder 1 .crossAbove (90 / 100) none

def hardStop : LadderChild := exitOrder 2 .crossBelow (40 / 100) none

def stagedStop : LadderChild := exitOrder 3 .crossBelow (45 / 100) (some "sl")

/-- The best bid is below both stop losses. -/
def fallenMarket : MarketView where
  runtimePrice := { price := 35 / 100, bestBid := some (35 / 100), lastTradePrice := none }

theorem hardStop_alone_fits :
    readyQty (maybePreemptTradeBuilderTakeProfitForStopLoss takeProfit [takeProfit, hardStop]
      (some 10) none fallenMarket) ≤ roundTradeBuilderShareQty ((some 10).getD 0) := by
  refine (preempted_within_parent_iff takeProfit [takeProfit, hardStop] (by decide +kernel)
    (some 10) none fallenMarket).mpr fun _ qty hqty _ => ?_
  cases hqty
  decide +kernel

/-- Both are ready, each for all 10 shares of the parent. -/
theorem hard_and_staged_oversell :
    readyQty (maybePreemptTradeBuilderTakeProfitForStopLoss takeProfit
      [takeProfit, hardStop, stagedStop] (some 10) none fallenMarket) = 20 ∧
      ¬ readyQty (maybePreemptTradeBuilderTakeProfitForStopLoss takeProfit
        [takeProfit, hardStop, stagedStop] (some 10) none fallenMarket) ≤
          roundTradeBuilderShareQty ((some 10).getD 0) := by
  decide +kernel

end PolymarketBot.ExitLadders
