import PolymarketBot.Builder.Reconcile

/-! The quantity a builder order is finalized with once its exchange order is terminal: what the
exchange reported, what stands in for a missing report, and what is never assumed. -/

namespace PolymarketBot.Builder
open Lib

/-- What a look at a terminal exchange order reads: its status, the stored size of the order,
the sum of its synced fills, the status after a cancel, and the visible inventory against its
baseline. A read that fails is `none`; the stored size is `some none` when there is no row. -/
structure TerminalReads where
  orderInfo : OrderInfo
  storedOrderSize : Option (Option ℚ)
  syncedFillQty : ℚ
  postCancelInfo : Option OrderInfo
  visibleInventory : Option (Option ℚ × Option ℚ)

/-- The fill of a tracked buy: its stored size is no fill once a submitted quantity is known.
The outer `none` is the error. -/
def parentBuyActualFillQty (order : TradeBuilderOrder) :
    Option (ℚ × TerminalFillQtySource) → Option (Option ℚ)
  | some (qty, source) =>
    if source ≠ .storedOrderSize then some (some qty)
    else if (tradeBuilderSubmittedDynamicQty order).isSome then some none
    else some (some qty)
  | none => if (tradeBuilderSubmittedDynamicQty order).isSome then some none else none

def actualFillQty (order : TradeBuilderOrder) (orderInfo : OrderInfo)
    (storedOrderSize : Option (Option ℚ)) : Option (Option ℚ) :=
  let resolution := storedOrderSize.bind (selectTradeBuilderTerminalFillQty orderInfo)
  if tradeBuilderShouldTrackBuyInventoryObservation order then
    parentBuyActualFillQty order resolution
  else
    resolution.map fun r => some r.1

def finalizeQuantities (order : TradeBuilderOrder) (orderInfo : OrderInfo)
    (storedOrderSize : Option (Option ℚ)) : Option FinalizeQuantities :=
  (actualFillQty order orderInfo storedOrderSize).bind fun actual =>
    (tradeBuilderCanonicalEntryQty order actual).map fun entry => ⟨entry.1, entry.2, actual⟩

def TerminalReads.visibleFillQty (reads : TerminalReads) : Option ℚ :=
  reads.visibleInventory.bind fun inventory =>
    tradeBuilderDetectedVisibleInventoryFillQty inventory.1
      (normalizeTradeBuilderVisibleInventoryRead inventory.2)

def postCancelFillQty (reads : TerminalReads) : Option ℚ :=
  tradeBuilderDetectedCancelFill (reads.postCancelInfo.bind OrderInfo.filledSize)
    reads.syncedFillQty reads.visibleFillQty

def postCancelQuantities (order : TradeBuilderOrder) (reads : TerminalReads) :
    Option FinalizeQuantities :=
  (postCancelFillQty reads).bind fun fill =>
    (tradeBuilderCancelFillCanonicalEntryQty order fill).map fun entry =>
      ⟨entry.1, entry.2, some fill⟩

/-- A latched stop loss that is not filled is tried again or expires. -/
def latchedStopLossUnfilled (order : TradeBuilderOrder) (reads : TerminalReads) : Bool :=
  tradeBuilderStopLossLatched order &&
    ((normalizeTradeBuilderTerminalFillQtyCandidate reads.orderInfo.filledSize).or <|
      (normalizeTradeBuilderTerminalFillQtyCandidate (some order.filledQty)).or <|
        normalizeTradeBuilderTerminalFillQtyCandidate (some reads.syncedFillQty)).getD 0 ≤
      tradeBuilderExitQtyTolerance

def terminalQuantities (order : TradeBuilderOrder) (reads : TerminalReads) :
    Option FinalizeQuantities :=
  match reads.orderInfo.status with
  | .filled => finalizeQuantities order reads.orderInfo reads.storedOrderSize
  | .canceled | .rejected | .expired =>
    if latchedStopLossUnfilled order reads then none
    else if tradeBuilderShouldTrackBuyInventoryObservation order then
      postCancelQuantities order reads
    else none
  | .opened | .partiallyFilled => none

/-- The largest quantity the exchange reported as filled. -/
def TerminalReads.reportedFillQty (reads : TerminalReads) : ℚ :=
  max (reads.orderInfo.filledSize.getD 0)
    (max ((reads.postCancelInfo.bind OrderInfo.filledSize).getD 0) reads.syncedFillQty)

def FinalizeQuantities.usedFillQty (quantities : FinalizeQuantities) : ℚ :=
  quantities.actualFillQty.getD quantities.canonicalEntryQty

section Returns
variable {order : TradeBuilderOrder} {exchangeOrderId : ℕ} {orderInfo : OrderInfo}

theorem returns_resolution : Prog.Returns
    (fun r => ∃ stored, selectTradeBuilderTerminalFillQty orderInfo stored = some r)
    (resolveTradeBuilderTerminalFillQty exchangeOrderId orderInfo) := by
  refine (Prog.returns_true _).bind fun stored _ => ?_
  cases hselect : selectTradeBuilderTerminalFillQty orderInfo stored with
  | none =>
    exact (Prog.returns_true _).bind fun _ _ => (Prog.returns_true _).bind fun _ _ => trivial
  | some r => exact (Prog.returns_true _).bind fun _ _ => ⟨stored, hselect⟩

theorem returns_actualFillQty : Prog.Returns
    (fun actual => ∃ stored, actualFillQty order orderInfo stored = some actual)
    (resolveActualFillQty order exchangeOrderId orderInfo) := by
  unfold resolveActualFillQty actualFillQty
  by_cases htrack : tradeBuilderShouldTrackBuyInventoryObservation order = true
  · simp only [htrack, if_true]
    refine returns_resolution.attempt.bind fun result hresult => ?_
    cases result with
    | error e =>
      cases hsubmitted : (tradeBuilderSubmittedDynamicQty order).isSome with
      | false =>
        simp only [Bool.false_eq_true, if_false]
        trivial
      | true =>
        simp only [if_true]
        exact (Prog.returns_true _).bind fun _ _ =>
          ⟨none, by simp [parentBuyActualFillQty, hsubmitted]⟩
    | ok r =>
      obtain ⟨stored, hstored⟩ := hresult r rfl
      obtain ⟨qty, source⟩ := r
      have hread : (some stored).bind (selectTradeBuilderTerminalFillQty orderInfo) =
          some (qty, source) := hstored
      by_cases hsource : source = .storedOrderSize
      · cases hsubmitted : (tradeBuilderSubmittedDynamicQty order).isSome with
        | false =>
          simp only [hsource, ne_eq, not_true_eq_false, if_false, Bool.false_eq_true]
          exact ⟨some stored, by simp [hread, parentBuyActualFillQty, hsource, hsubmitted]⟩
        | true =>
          simp only [hsource, ne_eq, not_true_eq_false, if_false, if_true]
          exact (Prog.returns_true _).bind fun _ _ =>
            ⟨some stored, by simp [hread, parentBuyActualFillQty, hsource, hsubmitted]⟩
      · simp only [ne_eq, hsource, not_false_eq_true, if_true]
        exact ⟨some stored, by simp [hread, parentBuyActualFillQty, hsource]⟩
  · simp only [htrack, Bool.false_eq_true, if_false]
    refine returns_resolution.bind fun r ⟨stored, hstored⟩ => ?_
    exact ⟨some stored, by simp [hstored]⟩

theorem returns_finalizeQuantities : Prog.Returns
    (fun quantities => ∃ stored, finalizeQuantities order orderInfo stored = some quantities)
    (resolveTradeBuilderFinalizeQuantities order exchangeOrderId orderInfo) := by
  refine returns_actualFillQty.bind fun actual ⟨stored, hactual⟩ => ?_
  cases hentry : tradeBuilderCanonicalEntryQty order actual with
  | none => trivial
  | some entry => exact ⟨stored, by simp [finalizeQuantities, hactual, hentry]⟩

end Returns

section Law
variable {order : TradeBuilderOrder} {reads : TerminalReads} {q : FinalizeQuantities}

/-- What the entry quantity of a finalized order is, by its source. -/
def EntryFollows (order : TradeBuilderOrder) (q : FinalizeQuantities) : Prop :=
  match q.source with
  | .cumulativeFillQty => tradeBuilderShouldTrackBuyInventoryObservation order = true ∧
      0 < order.filledQty ∧ ∃ fill, q.actualFillQty = some fill ∧
        q.canonicalEntryQty = roundTradeBuilderShareQty (order.filledQty + fill)
  | .submittedDynamicQty => tradeBuilderShouldTrackBuyInventoryObservation order = true ∧
      tradeBuilderSubmittedDynamicQty order = some q.canonicalEntryQty
  | .actualFillQty => q.actualFillQty = some q.canonicalEntryQty

/-- How a terminal order is finalized. A reported fill is used as it is, to the cent; without
one a filled order is taken to have filled its reported or its stored size, except that the
stored size of a tracked buy is no fill once a submitted quantity is known; an order that ended
otherwise is finalized only as a tracked buy, with what was reported, synced or became visible,
never with an ordered or a stored size. -/
structure TerminalLaw (order : TradeBuilderOrder) (reads : TerminalReads)
    (q : FinalizeQuantities) : Prop where
  reported : reads.orderInfo.status = .filled → reads.storedOrderSize.isSome → ∀ fill,
    normalizeTradeBuilderTerminalFillQtyCandidate reads.orderInfo.filledSize = some fill →
      q.actualFillQty = some fill ∧ fill ≤ reads.reportedFillQty + 1 / 200
  assumed : reads.orderInfo.status = .filled →
    normalizeTradeBuilderTerminalFillQtyCandidate reads.orderInfo.filledSize = none →
      ∀ stored, reads.storedOrderSize = some stored → q.actualFillQty =
        (normalizeTradeBuilderTerminalFillQtyCandidate reads.orderInfo.size).or
          (if tradeBuilderShouldTrackBuyInventoryObservation order ∧
              (tradeBuilderSubmittedDynamicQty order).isSome then none
            else normalizeTradeBuilderTerminalFillQtyCandidate stored)
  unread : reads.orderInfo.status = .filled → reads.storedOrderSize = none →
    tradeBuilderShouldTrackBuyInventoryObservation order = true ∧
      (tradeBuilderSubmittedDynamicQty order).isSome ∧ q.actualFillQty = none
  ended : reads.orderInfo.status ≠ .filled →
    tradeBuilderShouldTrackBuyInventoryObservation order = true ∧ ∃ fill,
      q.actualFillQty = some fill ∧
        (fill ≤ reads.reportedFillQty + 1 / 200 ∨ reads.visibleFillQty = some fill)
  entry : EntryFollows order q

theorem candidate_le_reported {value : Option ℚ} {qty : ℚ}
    (h : normalizeTradeBuilderTerminalFillQtyCandidate value = some qty)
    (hle : value.getD 0 ≤ reads.reportedFillQty) : qty ≤ reads.reportedFillQty + 1 / 200 := by
  obtain ⟨v, rfl, hpos, rfl, -⟩ := terminalFillQtyCandidate_iff.mp h
  have hclose := (abs_le.mp (roundTradeBuilderShareQty_close hpos.le)).2
  simp only [Option.getD_some] at hle
  linarith

/-- What a filled order is taken to have filled: its reported fill, its reported size, or its
stored size, which for a tracked buy with a submitted quantity is no fill. -/
theorem actualFillQty_eq {orderInfo : OrderInfo} {stored actual : Option ℚ}
    (h : actualFillQty order orderInfo (some stored) = some actual) :
    actual = (normalizeTradeBuilderTerminalFillQtyCandidate orderInfo.filledSize).or
      ((normalizeTradeBuilderTerminalFillQtyCandidate orderInfo.size).or
        (if tradeBuilderShouldTrackBuyInventoryObservation order ∧
            (tradeBuilderSubmittedDynamicQty order).isSome then none
          else normalizeTradeBuilderTerminalFillQtyCandidate stored)) := by
  have hfrom (r : ℚ × TerminalFillQtySource) (hsource : r.2 ≠ .storedOrderSize)
      (hselect : selectTradeBuilderTerminalFillQty orderInfo stored = some r) :
      actual = some r.1 := by
    have hactual : actualFillQty order orderInfo (some stored) = some (some r.1) := by
      simp [actualFillQty, hselect, parentBuyActualFillQty, hsource]
    exact Option.some.inj (h.symm.trans hactual)
  cases hfilled : normalizeTradeBuilderTerminalFillQtyCandidate orderInfo.filledSize with
  | some fill =>
    exact hfrom (fill, .orderInfoFilledSize) (by simp)
      (by simp [selectTradeBuilderTerminalFillQty, hfilled])
  | none =>
    cases hsize : normalizeTradeBuilderTerminalFillQtyCandidate orderInfo.size with
    | some size =>
      exact hfrom (size, .orderInfoSize) (by simp)
        (by simp [selectTradeBuilderTerminalFillQty, hfilled, hsize])
    | none =>
      -- only the stored size is left
      have hselect : selectTradeBuilderTerminalFillQty orderInfo stored =
          (normalizeTradeBuilderTerminalFillQtyCandidate stored).map (·, .storedOrderSize) := by
        simp [selectTradeBuilderTerminalFillQty, hfilled, hsize]
      simp only [actualFillQty, Option.bind_some, hselect] at h
      cases hstored : normalizeTradeBuilderTerminalFillQtyCandidate stored <;>
        cases htrack : tradeBuilderShouldTrackBuyInventoryObservation order <;>
        cases hsubmitted : (tradeBuilderSubmittedDynamicQty order).isSome <;>
        simp [hstored, htrack, hsubmitted, parentBuyActualFillQty] at h ⊢ <;>
        exact h.symm

/-- A quantity that rounding leaves alone, if there is one. -/
def Usable (actual : Option ℚ) : Prop :=
  normalizeTradeBuilderTerminalFillQtyCandidate actual = actual

theorem usable_candidate (value : Option ℚ) :
    Usable (normalizeTradeBuilderTerminalFillQtyCandidate value) := by
  cases h : normalizeTradeBuilderTerminalFillQtyCandidate value with
  | none => rfl
  | some qty => exact terminalFillQtyCandidate_idem h

theorem cumulativeFillQty_some {actual : Option ℚ} {c : ℚ} (hactual : Usable actual)
    (h : tradeBuilderCumulativeFillQty order actual = some c) :
    EntryFollows order ⟨c, .cumulativeFillQty, actual⟩ := by
  unfold tradeBuilderCumulativeFillQty at h
  split_ifs at h with hnone
  rw [hactual] at h
  simp only [Option.filter_eq_some_iff, Option.map_eq_some_iff] at h
  obtain ⟨⟨fill, hfill, rfl⟩, -⟩ := h
  push Not at hnone
  exact ⟨by simpa using hnone.1, hnone.2, fill, hfill, rfl⟩

theorem entryFollows_canonical {actual : Option ℚ} {entry : ℚ × EntryQtySource}
    (hactual : Usable actual) (h : tradeBuilderCanonicalEntryQty order actual = some entry) :
    EntryFollows order ⟨entry.1, entry.2, actual⟩ := by
  have hplain (hentry : actual.map (fun fill => (fill, EntryQtySource.actualFillQty)) =
      some entry) : EntryFollows order ⟨entry.1, entry.2, actual⟩ := by
    obtain ⟨fill, rfl, rfl⟩ := Option.map_eq_some_iff.mp hentry
    rfl
  have hsame : normalizeTradeBuilderTerminalFillQtyCandidate actual = actual := hactual
  simp only [tradeBuilderCanonicalEntryQty, hsame] at h
  by_cases htrack : tradeBuilderShouldTrackBuyInventoryObservation order = true
  · cases hcumulative : tradeBuilderCumulativeFillQty order actual with
    | some c =>
      simp only [htrack, if_true, hcumulative, Option.map_some, Option.some_or,
        Option.some.injEq] at h
      subst h
      exact cumulativeFillQty_some hactual hcumulative
    | none =>
      cases hsubmitted : tradeBuilderSubmittedDynamicQty order with
      | some s =>
        simp only [htrack, if_true, hcumulative, hsubmitted, Option.map_some, Option.map_none,
          Option.none_or, Option.some_or, Option.some.injEq] at h
        subst h
        exact ⟨htrack, hsubmitted⟩
      | none =>
        simp only [htrack, if_true, hcumulative, hsubmitted, Option.map_none,
          Option.none_or] at h
        exact hplain h
  · simp only [htrack, Bool.false_eq_true, if_false, Option.none_or] at h
    exact hplain h

theorem entryFollows_cancel {fill : ℚ} {entry : ℚ × EntryQtySource} (hfill : Usable (some fill))
    (h : tradeBuilderCancelFillCanonicalEntryQty order fill = some entry) :
    EntryFollows order ⟨entry.1, entry.2, some fill⟩ := by
  have hsame : normalizeTradeBuilderTerminalFillQtyCandidate (some fill) = some fill := hfill
  simp only [tradeBuilderCancelFillCanonicalEntryQty, hsame] at h
  cases hcumulative : tradeBuilderCumulativeFillQty order (some fill) with
  | some c =>
    simp only [hcumulative, Option.map_some, Option.some_or, Option.some.injEq] at h
    subst h
    exact cumulativeFillQty_some hfill hcumulative
  | none =>
    simp only [hcumulative, Option.map_none, Option.map_some, Option.none_or,
      Option.some.injEq] at h
    subst h
    rfl

theorem Usable.or {a b : Option ℚ} (ha : Usable a) (hb : Usable b) : Usable (a.or b) := by
  cases a with
  | none => exact hb
  | some x => exact ha

theorem actualFillQty_usable {orderInfo : OrderInfo} {stored : Option (Option ℚ)}
    {actual : Option ℚ} (h : actualFillQty order orderInfo stored = some actual) :
    Usable actual := by
  cases stored with
  | none =>
    simp only [actualFillQty, Option.bind_none, parentBuyActualFillQty, Option.map_none] at h
    split_ifs at h
    exact Option.some.inj h ▸ rfl
  | some stored =>
    rw [actualFillQty_eq h]
    refine (usable_candidate _).or ((usable_candidate _).or ?_)
    split_ifs
    · rfl
    · exact usable_candidate _

theorem visibleFillQty_usable {fill : ℚ} (h : reads.visibleFillQty = some fill) :
    Usable (some fill) := by
  obtain ⟨inventory, -, hdetected⟩ := Option.bind_eq_some_iff.mp h
  obtain ⟨baseline, -, hrest⟩ := Option.bind_eq_some_iff.mp hdetected
  obtain ⟨actual, -, hdelta⟩ := Option.bind_eq_some_iff.mp hrest
  simp only [Option.ite_none_right_eq_some, Option.some.injEq] at hdelta
  obtain ⟨htolerance, rfl⟩ := hdelta
  have hpos := lt_trans
    (show (0 : ℚ) < tradeBuilderExitQtyTolerance by norm_num [tradeBuilderExitQtyTolerance])
    htolerance
  exact terminalFillQtyCandidate_iff.mpr ⟨_, rfl, hpos, roundTradeBuilderShareQty_round _, hpos⟩

theorem postCancelFillQty_some {fill : ℚ} (h : postCancelFillQty reads = some fill) :
    Usable (some fill) ∧
      (fill ≤ reads.reportedFillQty + 1 / 200 ∨ reads.visibleFillQty = some fill) := by
  unfold postCancelFillQty tradeBuilderDetectedCancelFill at h
  cases hreported : normalizeTradeBuilderTerminalFillQtyCandidate
      (reads.postCancelInfo.bind OrderInfo.filledSize) with
  | some reported =>
    obtain rfl : reported = fill := by simpa [hreported] using h
    have hle := le_max_left ((reads.postCancelInfo.bind OrderInfo.filledSize).getD 0)
      reads.syncedFillQty
    exact ⟨terminalFillQtyCandidate_idem hreported,
      .inl (candidate_le_reported hreported (hle.trans (le_max_right _ _)))⟩
  | none =>
    cases hsynced : normalizeTradeBuilderTerminalFillQtyCandidate (some reads.syncedFillQty) with
    | some synced =>
      obtain rfl : synced = fill := by simpa [hreported, hsynced] using h
      have hle := le_max_right ((reads.postCancelInfo.bind OrderInfo.filledSize).getD 0)
        reads.syncedFillQty
      exact ⟨terminalFillQtyCandidate_idem hsynced,
        .inl (candidate_le_reported hsynced (hle.trans (le_max_right _ _)))⟩
    | none =>
      have hvisible : reads.visibleFillQty = some fill := by simpa [hreported, hsynced] using h
      exact ⟨visibleFillQty_usable hvisible, .inr hvisible⟩

theorem finalizeQuantities_law (hstatus : reads.orderInfo.status = .filled)
    (h : finalizeQuantities order reads.orderInfo reads.storedOrderSize = some q) :
    TerminalLaw order reads q := by
  obtain ⟨actual, hactual, hentry⟩ := Option.bind_eq_some_iff.mp h
  obtain ⟨entry, hcanonical, rfl⟩ := Option.map_eq_some_iff.mp hentry
  refine ⟨fun _ hread fill hfill => ?_, fun _ hmissing stored hstored => ?_,
    fun _ hunread => ?_, fun hother => absurd hstatus hother,
    entryFollows_canonical (actualFillQty_usable hactual) hcanonical⟩
  · obtain ⟨stored, hstored⟩ := Option.isSome_iff_exists.mp hread
    have heq := actualFillQty_eq (hstored ▸ hactual)
    rw [hfill, Option.some_or] at heq
    exact ⟨heq, candidate_le_reported hfill (le_max_left _ _)⟩
  · have heq := actualFillQty_eq (hstored ▸ hactual)
    rwa [hmissing, Option.none_or] at heq
  · simp only [hunread, actualFillQty, Option.bind_none, parentBuyActualFillQty,
      Option.map_none] at hactual
    split_ifs at hactual with htrack hsubmitted
    exact ⟨htrack, hsubmitted, (Option.some.inj hactual).symm⟩

/-- Every terminal order that is finalized keeps this law. -/
theorem terminalQuantities_law (order : TradeBuilderOrder) (reads : TerminalReads)
    (q : FinalizeQuantities) (h : terminalQuantities order reads = some q) :
    TerminalLaw order reads q := by
  by_cases hstatus : reads.orderInfo.status = .filled
  · refine finalizeQuantities_law hstatus ?_
    simpa only [terminalQuantities, hstatus] using h
  have hended : tradeBuilderShouldTrackBuyInventoryObservation order = true ∧
      postCancelQuantities order reads = some q := by
    have hcancel (hread : (if latchedStopLossUnfilled order reads then none
        else if tradeBuilderShouldTrackBuyInventoryObservation order then
          postCancelQuantities order reads
        else none) = some q) : tradeBuilderShouldTrackBuyInventoryObservation order = true ∧
        postCancelQuantities order reads = some q := by
      split_ifs at hread with hlatched htrack
      exact ⟨htrack, hread⟩
    cases hend : reads.orderInfo.status <;> simp only [terminalQuantities, hend] at h
    case filled => exact absurd hend hstatus
    case canceled | rejected | expired => exact hcancel h
    case opened | partiallyFilled => cases h
  obtain ⟨htrack, hquantities⟩ := hended
  obtain ⟨fill, hfill, hentry⟩ := Option.bind_eq_some_iff.mp hquantities
  obtain ⟨entry, hcanonical, rfl⟩ := Option.map_eq_some_iff.mp hentry
  obtain ⟨husable, hbound⟩ := postCancelFillQty_some hfill
  exact ⟨fun h => absurd h hstatus, fun h => absurd h hstatus, fun h => absurd h hstatus,
    fun _ => ⟨htrack, fill, rfl, hbound⟩, entryFollows_cancel husable hcanonical⟩

/-- A canceled buy whose exchange order reported 4 shares. -/
theorem terminalQuantities_law_canceled :
    TerminalLaw { slEnabled := true, sizeUsdc := 5, submittedDynamicQty := some 10 }
      ⟨⟨.canceled, some 10, none, none⟩, some (some 10), 0,
        some ⟨.canceled, some 10, some 4, none⟩, none⟩ ⟨4, .actualFillQty, some 4⟩ :=
  terminalQuantities_law _ _ _ (by decide +kernel)

/-- Without a reported filled size the size of the order stands in for it. -/
theorem order_size_stands_in : ¬ ∀ order reads q, terminalQuantities order reads = some q →
    q.usedFillQty ≤ reads.reportedFillQty := fun h =>
  absurd (h {} ⟨⟨.filled, some 10, none, none⟩, some none, 0, none, none⟩
    ⟨10, .actualFillQty, some 10⟩ (by decide +kernel)) (by decide +kernel)

end Law

end PolymarketBot.Builder
