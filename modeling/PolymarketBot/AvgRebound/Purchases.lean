import PolymarketBot.AvgRebound.Budget

/-! What the engine buys next on the fills recorded so far, and when a full fill of it keeps
them in order. -/

namespace PolymarketBot.AvgRebound
open Lib Builder

/-- The row of a decision whose order was filled in full: share quantities have two decimals. -/
def orderFill (decision : AvgReboundDecision) (average : ℚ) : Fill :=
  recordFill decision (roundTradeBuilderShareQty decision.qty) average

def Fill.key (fill : Fill) : LegRole × Intent × String :=
  (fill.legRole, fill.intent, fill.tierOrLegId)

def AvgReboundDecision.key (decision : AvgReboundDecision) : LegRole × Intent × String :=
  (decision.legRole, decision.intent, decision.tierOrLegId)

/-- The purchases that close the whole position. -/
def Intent.isExit : Intent → Bool
  | .primaryLadder | .profitPairlock => false
  | _ => true

/-- `AVG_REBOUND_QTY_EPSILON` -/
def qtyEpsilon : ℚ := 1 / 10000

def openPrimaryQtyOf (fills : List Fill) : ℚ := max (qtyOf .primary fills - qtyOf .opposite fills) 0

/-- The `locked_pnl` of the loaded row, before it is read as a decimal. -/
def lockedPnlOf (fills : List Fill) : ℚ :=
  qtyOf .opposite fills - (avgPrimaryCost fills).getD 0 * qtyOf .opposite fills -
    costOf .opposite fills

/-- Each pair redeems for one, whatever the outcome. -/
def pairedPnl (fills : List Fill) : ℚ :=
  min (qtyOf .primary fills) (qtyOf .opposite fills) - spent fills

/-- The position is closed. -/
def Complete (fills : List Fill) : Prop :=
  0 < qtyOf .primary fills ∧ openPrimaryQtyOf fills ≤ qtyEpsilon

instance (fills : List Fill) : Decidable (Complete fills) := inferInstanceAs (Decidable (_ ∧ _))

/-! ### What a decision buys -/

section Decisions
variable {config : AvgReboundConfig} {state : AvgReboundState}

/-- The purchases that are offered: a tier or a leg that is still missing, or all that is open. -/
structure Offered (state : AvgReboundState) (purchase : Purchase) : Prop where
  role : purchase.legRole = .primary ↔ purchase.intent = .primaryLadder
  tier : purchase.intent = .primaryLadder → state.hasPrimaryTier purchase.tierOrLegId = false
  leg : purchase.intent = .profitPairlock → state.hasOppositeLeg purchase.tierOrLegId = false
  qty : purchase.legRole = .opposite → purchase.qty ≤ state.openPrimaryQty
  exit : purchase.intent.isExit = true →
    purchase.legRole = .opposite ∧ purchase.qty = state.openPrimaryQty ∧ 0 < state.openPrimaryQty

theorem qtyMin_eq_min (left right : ℚ) : qtyMin left right = min left right := (min_def ..).symm

theorem profitPurchase_offered {stage : StageConfig} {leg : ProfitLegConfig}
    (hleg : nextProfitLeg state stage = some leg) :
    Offered state (profitPurchase config state stage leg) where
  role := iff_of_false (fun h => LegRole.noConfusion h) fun h => Intent.noConfusion h
  tier h := Intent.noConfusion h
  leg _ := by
    change state.hasOppositeLeg leg.id = false
    simpa using List.find?_some hleg
  qty _ := (qtyMin_eq_min _ _).trans_le (min_le_right _ _)
  exit hexit := by cases hexit

theorem exit_offered {purchase : Purchase} (hrole : purchase.legRole = .opposite)
    (hintent : purchase.intent.isExit = true) (hqty : purchase.qty = state.openPrimaryQty)
    (hopen : ¬ state.openPrimaryQty ≤ 0) : Offered state purchase where
  role := by
    rw [hrole]
    refine iff_of_false (fun h => LegRole.noConfusion h) fun h => ?_
    rw [h] at hintent
    cases hintent
  tier h := by
    rw [h] at hintent
    cases hintent
  leg h := by
    rw [h] at hintent
    cases hintent
  qty _ := hqty.le
  exit _ := ⟨hrole, hqty, not_le.mp hopen⟩

/-- A candidate that comes of a purchase on offer. -/
def Buys (config : AvgReboundConfig) (state : AvgReboundState)
    (x : Except Rejection AvgReboundDecision) : Prop :=
  ∃ purchase asks, Offered state purchase ∧ x = buildDecision config state purchase asks

theorem guardDecision_buys {price : ℚ} {asks : List BookLevel}
    {x : Except Rejection AvgReboundDecision}
    (h : guardDecision config state price asks = some x) : Buys config state x := by
  unfold guardDecision at h
  obtain ⟨stage, -, h⟩ := Option.bind_eq_some_iff.mp h
  dsimp only at h
  split_ifs at h with hstart
  exact ⟨_, _, exit_offered rfl rfl rfl (not_or.mp hstart).2, (Option.some.inj h).symm⟩

theorem rescueSteps_isExit {step : Intent × ℚ × String} (h : step ∈ rescueSteps config) :
    step.1.isExit = true := by
  unfold rescueSteps at h
  rcases List.mem_append.mp h with hstep | hlast
  · simp only [List.mem_cons, List.not_mem_nil, or_false] at hstep
    rcases hstep with rfl | rfl | rfl <;> rfl
  · obtain ⟨cap, -, rfl⟩ := Option.map_eq_some_iff.mp (Option.mem_toList.mp hlast)
    rfl

theorem rescueDecision_buys {asks : List BookLevel} {x : Except Rejection AvgReboundDecision}
    (h : rescueDecision config state asks = some x) : Buys config state x := by
  unfold rescueDecision at h
  split_ifs at h with hladder hopen
  obtain ⟨step, hstep, rfl⟩ := List.mem_map.mp (List.mem_of_find?_eq_some h)
  exact ⟨_, _, exit_offered rfl (rescueSteps_isExit hstep) rfl hopen, rfl⟩

theorem primaryDecision_buys {asks : List BookLevel} {x : Except Rejection AvgReboundDecision}
    (h : primaryDecision config state asks = some x) : Buys config state x := by
  unfold primaryDecision at h
  split_ifs at h
  obtain ⟨tier, htier, rfl⟩ := Option.map_eq_some_iff.mp h
  refine ⟨_, _, ⟨iff_of_true rfl rfl, fun _ => ?_, ?_, ?_, ?_⟩, rfl⟩
  · simpa using List.find?_some htier
  · exact fun hprofit => Intent.noConfusion hprofit
  · exact fun hopposite => LegRole.noConfusion hopposite
  · exact fun hexit => Bool.noConfusion hexit

theorem profitDecision_buys {asks : List BookLevel} {x : Except Rejection AvgReboundDecision}
    (h : profitDecision config state asks = some x) : Buys config state x := by
  obtain ⟨stage, leg, -, hleg, hbuild⟩ := profitDecision_eq h
  exact ⟨_, _, profitPurchase_offered hleg, hbuild⟩

theorem candidate_buys {market : MarketView} {x : Except Rejection AvgReboundDecision}
    (h : x ∈ candidates config state market) : Buys config state x := by
  unfold candidates at h
  simp only [List.mem_append, Option.mem_toList] at h
  rcases h with (hprofit | hfull) | hprimary
  · exact profitDecision_buys hprofit
  · split_ifs at hfull
    · rcases List.mem_append.mp hfull with hguard | hrescue
      · exact guardDecision_buys (Option.mem_toList.mp hguard)
      · exact rescueDecision_buys (Option.mem_toList.mp hrescue)
    · cases hfull
  · exact primaryDecision_buys hprimary

theorem buildDecision_sessionId {purchase : Purchase} {asks : List BookLevel}
    {decision : AvgReboundDecision}
    (h : buildDecision config state purchase asks = .ok decision) :
    state.sessionId = some decision.sessionId := by
  unfold buildDecision at h
  split at h
  · cases h
  next sessionId hsession =>
    split at h
    · cases h
    · split_ifs at h
      obtain rfl := Except.ok.inj h
      exact hsession

theorem selectDecision_buys {market : MarketView} {decision : AvgReboundDecision}
    (h : (selectDecision config state market).1 = some decision) :
    state.sessionId = some decision.sessionId ∧
      ∃ purchase, Offered state purchase ∧ Builds config state purchase decision := by
  obtain ⟨purchase, asks, hoffered, hbuild⟩ := candidate_buys (firstDecision_mem h)
  exact ⟨buildDecision_sessionId hbuild.symm, purchase, hoffered, buildDecision_ok hbuild.symm⟩

end Decisions

/-! ### The fold of the recorded fills -/

section Fold
variable {fills : List Fill}

theorem qtyOf_append (legRole : LegRole) (fills : List Fill) (fill : Fill) :
    qtyOf legRole (fills ++ [fill]) =
      qtyOf legRole fills + if fill.legRole = legRole then fill.quantity else 0 := by
  unfold qtyOf fillsOf
  rw [List.filter_append, List.map_append, List.sum_append]
  by_cases h : fill.legRole = legRole <;> simp [h]

/-- The rows of full fills: quantities of two decimals. -/
def ShareRows (fills : List Fill) : Prop :=
  ∀ fill ∈ fills, OnGrid 100 fill.quantity ∧ 0 ≤ fill.quantity

theorem orderFill_quantity (decision : AvgReboundDecision) (average : ℚ) :
    (orderFill decision average).quantity = roundTradeBuilderShareQty decision.qty :=
  max_eq_left (roundTradeBuilderShareQty_nonneg _)

theorem ShareRows.qtyOf (h : ShareRows fills) (legRole : LegRole) :
    OnGrid 100 (qtyOf legRole fills) ∧ 0 ≤ qtyOf legRole fills := by
  have hsum : ∀ rows : List Fill, (∀ fill ∈ rows, OnGrid 100 fill.quantity ∧ 0 ≤ fill.quantity) →
      OnGrid 100 (rows.map (·.quantity)).sum ∧ 0 ≤ (rows.map (·.quantity)).sum := by
    intro rows hrows
    induction rows with
    | nil => exact ⟨OnGrid.zero, le_refl _⟩
    | cons fill rows ih =>
      obtain ⟨hgrid, hnonneg⟩ := hrows fill List.mem_cons_self
      obtain ⟨hgrid', hnonneg'⟩ :=
        ih fun other hother => hrows other (List.mem_cons_of_mem _ hother)
      rw [List.map_cons, List.sum_cons]
      exact ⟨hgrid.add hgrid', add_nonneg hnonneg hnonneg'⟩
  exact hsum _ fun fill hfill => h fill (List.mem_of_mem_filter hfill)

theorem roundHalfEven_intCast (k : ℤ) : roundHalfEven (k : ℚ) = k := by
  simp [roundHalfEven]

theorem decimalFromF64_of_onGrid {value : ℚ} (h : OnGrid 100 value) :
    decimalFromF64 value = value := by
  obtain ⟨k, rfl⟩ := h
  have hscale : (k : ℚ) / 100 * 10 ^ 12 = ((k * 10 ^ 10 : ℤ) : ℚ) := by
    push_cast
    ring
  unfold decimalFromF64
  rw [hscale, roundHalfEven_intCast]
  push_cast
  ring

theorem openPrimaryQtyOf_eq (hcovered : qtyOf .opposite fills ≤ qtyOf .primary fills) :
    openPrimaryQtyOf fills = qtyOf .primary fills - qtyOf .opposite fills :=
  max_eq_left (sub_nonneg.mpr hcovered)

theorem complete_iff (hshares : ShareRows fills)
    (hcovered : qtyOf .opposite fills ≤ qtyOf .primary fills) :
    Complete fills ↔ 0 < qtyOf .primary fills ∧ qtyOf .opposite fills = qtyOf .primary fills := by
  have hgrid : OnGrid 100 (qtyOf .primary fills - qtyOf .opposite fills) :=
    (hshares.qtyOf .primary).1.sub (hshares.qtyOf .opposite).1
  unfold Complete qtyEpsilon
  rw [openPrimaryQtyOf_eq hcovered]
  refine and_congr_right fun _ => ⟨fun hclosed => ?_, fun heq => ?_⟩
  · by_contra hne
    have hpos : 0 < qtyOf .primary fills - qtyOf .opposite fills :=
      sub_pos.mpr (lt_of_le_of_ne hcovered hne)
    have hstep := hgrid.step_le (by norm_num) hpos
    linarith
  · rw [heq]
    norm_num

theorem Complete.lockedPnlOf (h : Complete fills) (hshares : ShareRows fills)
    (hcovered : qtyOf .opposite fills ≤ qtyOf .primary fills) :
    lockedPnlOf fills = pairedPnl fills := by
  obtain ⟨hpos, heq⟩ := (complete_iff hshares hcovered).mp h
  unfold AvgRebound.lockedPnlOf pairedPnl spent avgPrimaryCost
  rw [if_pos hpos, Option.getD_some, heq, min_self, div_mul_cancel₀ _ hpos.ne']
  ring

theorem loadState_openPrimaryQty (sessionId : ℤ) (hshares : ShareRows fills)
    (hcovered : qtyOf .opposite fills ≤ qtyOf .primary fills) :
    (loadState sessionId fills).openPrimaryQty = qtyOf .primary fills - qtyOf .opposite fills := by
  have hgrid : OnGrid 100 (qtyOf .primary fills - qtyOf .opposite fills) :=
    (hshares.qtyOf .primary).1.sub (hshares.qtyOf .opposite).1
  change decimalFromF64 (openPrimaryQtyOf fills) = _
  rw [openPrimaryQtyOf_eq hcovered, decimalFromF64_of_onGrid hgrid]

theorem loadState_complete (sessionId : ℤ) (hshares : ShareRows fills)
    (hcovered : qtyOf .opposite fills ≤ qtyOf .primary fills) :
    (0 < (loadState sessionId fills).primaryTotalQty ∧
        (loadState sessionId fills).openPrimaryQty ≤ 1 / 10000) ↔ Complete fills := by
  have hprimary : (loadState sessionId fills).primaryTotalQty = qtyOf .primary fills :=
    decimalFromF64_of_onGrid (hshares.qtyOf .primary).1
  rw [hprimary, loadState_openPrimaryQty sessionId hshares hcovered, Complete, qtyEpsilon,
    openPrimaryQtyOf_eq hcovered]

theorem mem_tierOrLegIdsOf {fill : Fill} (h : fill ∈ fills) :
    fill.tierOrLegId ∈ tierOrLegIdsOf fill.legRole fills := by
  refine List.mem_dedup.mpr (List.mem_map_of_mem (List.mem_filter.mpr ⟨h, ?_⟩))
  exact decide_eq_true rfl

end Fold

/-! ### An order that the recorded fills leave room for -/

/-- The rows recorded so far. -/
structure RecordedOk (fills : List Fill) : Prop where
  shares : ShareRows fills
  covered : qtyOf .opposite fills ≤ qtyOf .primary fills
  keys : (fills.map Fill.key).Nodup
  exit : ∀ fill ∈ fills, fill.intent.isExit = true → Complete fills

/-- Another purchase can be recorded: it is a new one, and the opposite side stays covered. -/
structure Fits (fills : List Fill) (decision : AvgReboundDecision) : Prop where
  opened : ¬ Complete fills
  key : decision.key ∉ fills.map Fill.key
  room : decision.legRole = .opposite →
    qtyOf .opposite fills + roundTradeBuilderShareQty decision.qty ≤ qtyOf .primary fills
  exit : decision.intent.isExit = true → decision.legRole = .opposite ∧
    0 < qtyOf .primary fills ∧
      qtyOf .opposite fills + roundTradeBuilderShareQty decision.qty = qtyOf .primary fills

theorem RecordedOk.nil : RecordedOk [] where
  shares _ hfill := absurd hfill List.not_mem_nil
  covered := le_refl _
  keys := List.nodup_nil
  exit _ hfill := absurd hfill List.not_mem_nil

section Record
variable {fills : List Fill} {decision : AvgReboundDecision}

theorem Fits.record (h : Fits fills decision) (hrows : RecordedOk fills) (average : ℚ) :
    RecordedOk (fills ++ [orderFill decision average]) := by
  have hqty := orderFill_quantity decision average
  have hnonneg := roundTradeBuilderShareQty_nonneg decision.qty
  have hshares : ShareRows (fills ++ [orderFill decision average]) := by
    intro fill hfill
    obtain hold | hnew := List.mem_append.mp hfill
    · exact hrows.shares fill hold
    · obtain rfl := List.mem_singleton.mp hnew
      rw [hqty]
      exact ⟨roundTradeBuilderShareQty_onGrid _, hnonneg⟩
  have hcovered : qtyOf .opposite (fills ++ [orderFill decision average]) ≤
      qtyOf .primary (fills ++ [orderFill decision average]) := by
    rw [qtyOf_append, qtyOf_append, hqty]
    cases hrole : decision.legRole with
    | primary =>
      have hfill : (orderFill decision average).legRole = .primary := hrole
      have hold := hrows.covered
      simp only [hfill, reduceCtorEq, if_true, if_false]
      linarith
    | opposite =>
      have hfill : (orderFill decision average).legRole = .opposite := hrole
      have hroom := h.room hrole
      simp only [hfill, reduceCtorEq, if_true, if_false]
      linarith
  refine ⟨hshares, hcovered, ?_, fun fill hfill hexit => ?_⟩
  · rw [List.map_append, List.map_singleton]
    refine List.Nodup.append hrows.keys (List.nodup_singleton _) fun key hkey hnew => ?_
    obtain rfl := List.mem_singleton.mp hnew
    exact h.key hkey
  · obtain hold | hnew := List.mem_append.mp hfill
    · exact absurd (hrows.exit fill hold hexit) h.opened
    · obtain rfl := List.mem_singleton.mp hnew
      obtain ⟨hrole, hpos, heq⟩ := h.exit hexit
      have hfillRole : (orderFill decision average).legRole = .opposite := hrole
      refine (complete_iff hshares hcovered).mpr ?_
      rw [qtyOf_append, qtyOf_append, hqty]
      simp only [hfillRole, reduceCtorEq, if_true, if_false]
      exact ⟨by linarith, by linarith⟩

theorem offered_key_new {config : AvgReboundConfig} {sessionId : ℤ} {purchase : Purchase}
    (hrows : RecordedOk fills) (hopen : ¬ Complete fills)
    (hoffered : Offered (loadState sessionId fills) purchase)
    (hbuilds : Builds config (loadState sessionId fills) purchase decision) :
    decision.key ∉ fills.map Fill.key := by
  intro hkey
  obtain ⟨fill, hfill, hsame⟩ := List.mem_map.mp hkey
  have hrole : fill.legRole = purchase.legRole := (congrArg (·.1) hsame).trans hbuilds.role
  have hintent : fill.intent = purchase.intent := (congrArg (·.2.1) hsame).trans hbuilds.intent
  have hid : fill.tierOrLegId = purchase.tierOrLegId := (congrArg (·.2.2) hsame).trans hbuilds.id
  have hmem := mem_tierOrLegIdsOf hfill
  rw [hrole, hid] at hmem
  cases hreason : purchase.intent with
  | primaryLadder =>
    rw [hoffered.role.mpr hreason] at hmem
    have hmissing := hoffered.tier hreason
    simp only [AvgReboundState.hasPrimaryTier, List.any_eq_false, decide_eq_true_eq] at hmissing
    exact hmissing _ hmem rfl
  | profitPairlock =>
    have hopposite : purchase.legRole = .opposite := by
      cases h : purchase.legRole with
      | opposite => rfl
      | primary =>
        rw [hoffered.role.mp h] at hreason
        cases hreason
    rw [hopposite] at hmem
    have hmissing := hoffered.leg hreason
    simp only [AvgReboundState.hasOppositeLeg, List.any_eq_false, decide_eq_true_eq] at hmissing
    exact hmissing _ hmem rfl
  | _ => exact hopen (hrows.exit fill hfill (by rw [hintent, hreason]; rfl))

theorem selectDecision_fits {config : AvgReboundConfig} {sessionId : ℤ} {market : MarketView}
    (hrows : RecordedOk fills) (hopen : ¬ Complete fills)
    (h : (selectDecision config (loadState sessionId fills) market).1 = some decision) :
    decision.sessionId = sessionId ∧ Fits fills decision := by
  obtain ⟨hsession, purchase, hoffered, hbuilds⟩ := selectDecision_buys h
  have hqtyOpen := loadState_openPrimaryQty sessionId hrows.shares hrows.covered
  have hgrid : OnGrid 100 (qtyOf .primary fills - qtyOf .opposite fills) :=
    (hrows.shares.qtyOf .primary).1.sub (hrows.shares.qtyOf .opposite).1
  have hround : roundTradeBuilderShareQty (qtyOf .primary fills - qtyOf .opposite fills) =
      qtyOf .primary fills - qtyOf .opposite fills :=
    round_of_onGrid hgrid (sub_nonneg.mpr hrows.covered)
  refine ⟨(Option.some.inj hsession).symm, hopen, offered_key_new hrows hopen hoffered hbuilds,
    fun hrole => ?_, fun hexit => ?_⟩
  · have hle := hoffered.qty (hbuilds.role.symm.trans hrole)
    rw [hqtyOpen, ← hbuilds.qty] at hle
    have hmono := roundTradeBuilderShareQty_mono hle
    rw [hround] at hmono
    linarith
  · rw [hbuilds.intent] at hexit
    obtain ⟨hrole, hqty, hpos⟩ := hoffered.exit hexit
    rw [hqtyOpen] at hqty hpos
    rw [hbuilds.qty, hqty, hround]
    have hopposite := (hrows.shares.qtyOf .opposite).2
    exact ⟨hbuilds.role.trans hrole, by linarith, by ring⟩

end Record

end PolymarketBot.AvgRebound
