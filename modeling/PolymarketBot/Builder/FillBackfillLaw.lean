import PolymarketBot.Builder.FillBackfill

/-! What the backfill of an immediate order counts, over every run of its attempts. -/

namespace PolymarketBot.Builder
open Lib Lib.Prog Reconcile BackfillProg

/-- The fills of an order as the exchange has them. -/
structure ExchangeFills (exchangeOrderId : String) where
  fills : List FillInfo
  own : ∀ f ∈ fills, f.orderId = exchangeOrderId
  usable : ∀ f ∈ fills, usableFill f = true
  once : (fills.map (·.fillId)).Nodup

namespace ExchangeFills
variable {o : String} (F : ExchangeFills o)

def total : ℚ := (F.fills.map (·.size)).sum

/-- What is said of a fill of the order, or under the id of one, is so. -/
def Confirms (fillId orderId : String) (size : ℚ) : Prop :=
  orderId = o ∨ fillId ∈ F.fills.map (·.fillId) →
    orderId = o ∧ ∃ f ∈ F.fills, f.fillId = fillId ∧ f.size = size

def Admits : TableWrite → Prop
  | .order _ => True
  | .fill f => F.Confirms f.fillId f.orderId f.size

/-- The exchange lists the order's fills as they are, as often and on as many pages as it
likes, and others store them so. -/
def Honest (_ : BackfillCall) (_ : BackfillWorld) (r : BackfillReply) : Prop :=
  (∀ write ∈ r.others, F.Admits write) ∧
    ∀ f ∈ r.page.fills, usableFill f.toFillInfo = true → F.Confirms f.fillId f.orderId f.size

/-- The order has a row, each fill one row at most, and those of the order are its fills. -/
structure Sound (w : Tables) : Prop where
  known : o ∈ w.exchangeIds
  once : w.fillIds.Nodup
  rows : ∀ row ∈ w.fills, ∃ x, w.exchangeIds[row.orderId]? = some x ∧
    F.Confirms row.fillId x row.size

def stored (w : Tables) : List FillInfo := F.fills.filter (·.fillId ∈ w.fillIds)

def storedTotal (w : Tables) : ℚ := ((F.stored w).map (·.size)).sum

variable {F} {w : Tables}

theorem Confirms.overwritten {fillId x y : String} {size size' : ℚ}
    (h : F.Confirms fillId x size) (h' : F.Confirms fillId y size') :
    F.Confirms fillId x size' := by
  intro hold
  obtain ⟨hx, f, hf, hid, -⟩ := h hold
  exact ⟨hx, (h' (.inr (List.mem_map.mpr ⟨f, hf, hid⟩))).2⟩

theorem Sound.order (h : F.Sound w) (row : OrderRow) :
    F.Sound (w.upsertOrderByExchangeId row) where
  known := (w.upsertOrder_ids_prefix row).subset h.known
  once := h.once
  rows old hold := by
    obtain ⟨x, hx, hconfirms⟩ := h.rows old hold
    exact ⟨x, Rows.getElem?_of_prefix (w.upsertOrder_ids_prefix row) hx, hconfirms⟩

theorem Sound.fill (h : F.Sound w) {row : FillRow} {x : String}
    (hx : w.exchangeIds[row.orderId]? = some x) (hrow : F.Confirms row.fillId x row.size) :
    F.Sound (w.upsertFillByExchangeFillId row) := by
  refine ⟨h.known, ?_, fun new hnew => ?_⟩
  · rw [Tables.fillIds_upsertFill]
    split_ifs with hmem
    · exact h.once
    · exact List.nodup_append.mpr ⟨h.once, by simp, fun a ha b hb hab =>
        hmem (List.mem_singleton.mp hb ▸ hab ▸ ha)⟩
  · simp only [Tables.upsertFillByExchangeFillId, Rows.upsert] at hnew
    split_ifs at hnew with hmem
    · obtain ⟨old, hold, rfl⟩ := List.mem_map.mp hnew
      obtain ⟨y, hy, hconfirms⟩ := h.rows old hold
      split_ifs with hsame
      · exact ⟨y, hy, hconfirms.overwritten (hsame ▸ hrow)⟩
      · exact ⟨y, hy, hconfirms⟩
    · rcases List.mem_append.mp hnew with hold | hadded
      · exact h.rows new hold
      · rw [List.mem_singleton.mp hadded]
        exact ⟨x, hx, hrow⟩

theorem Sound.write (h : F.Sound w) {write : TableWrite} (hwrite : F.Admits write) :
    F.Sound (write.apply w) := by
  cases write with
  | order row => exact h.order row
  | fill f =>
    cases hid : w.internalOrderIdByExchangeOrderId f.orderId with
    | none => simpa only [TableWrite.apply, hid] using h
    | some id =>
      have hrow : F.Confirms (f.row id).fillId f.orderId (f.row id).size := hwrite
      simpa only [TableWrite.apply, hid] using h.fill (Tables.order_of_lookup hid) hrow

theorem Sound.others (h : F.Sound w) {others : List TableWrite}
    (hothers : ∀ write ∈ others, F.Admits write) : F.Sound (others.foldl TableWrite.apply w) := by
  induction others generalizing w with
  | nil => exact h
  | cons write rest ih =>
    exact ih (h.write (hothers write (List.mem_cons_self ..)))
      fun other hother => hothers other (List.mem_cons_of_mem write hother)

theorem Sound.aggregate_eq (h : F.Sound w) :
    aggregateFillQtyByExchangeOrderId w o = F.storedTotal w := by
  have hrows : ((orderFills w o).map FillRow.fillId).Nodup :=
    h.once.sublist (List.filter_sublist.map _)
  have hfills : ((F.stored w).map FillInfo.fillId).Nodup :=
    F.once.sublist (List.filter_sublist.map _)
  refine Rows.sum_map_eq_of_keyed hrows hfills ?_
  rintro ⟨fillId, size⟩
  simp only [List.mem_map, Prod.mk.injEq, orderFills, stored, List.mem_filter,
    decide_eq_true_eq]
  constructor
  · rintro ⟨row, ⟨hrow, horder⟩, rfl, rfl⟩
    obtain ⟨x, hx, hconfirms⟩ := h.rows row hrow
    obtain ⟨-, f, hf, hid, hsize⟩ := hconfirms (.inl (Option.some.inj (hx.symm.trans horder)))
    exact ⟨f, ⟨hf, List.mem_map.mpr ⟨row, hrow, hid.symm⟩⟩, hid, hsize⟩
  · rintro ⟨f, ⟨hf, hstored⟩, rfl, rfl⟩
    obtain ⟨row, hrow, hid⟩ := List.mem_map.mp hstored
    obtain ⟨x, hx, hconfirms⟩ := h.rows row hrow
    obtain ⟨rfl, g, hg, hgid, hgsize⟩ :=
      hconfirms (.inr (List.mem_map.mpr ⟨f, hf, hid.symm⟩))
    obtain rfl := List.inj_on_of_nodup_map F.once hg hf (hgid.trans hid)
    exact ⟨row, ⟨hrow, hx⟩, hid, hgsize.symm⟩

end ExchangeFills

/-! ### What the attempts keep -/

section Runs
variable {o : String} {F : ExchangeFills o} {w : BackfillWorld} {statuses : List (Option ℚ)}

theorem subset_upsertFill (w : Tables) (row : FillRow) :
    w.fillIds ⊆ (w.upsertFillByExchangeFillId row).fillIds := by
  intro fillId hmem
  rw [Tables.fillIds_upsertFill]
  split_ifs
  · exact hmem
  · exact List.mem_append_left _ hmem

theorem mem_upsertFill (w : Tables) (row : FillRow) :
    row.fillId ∈ (w.upsertFillByExchangeFillId row).fillIds := by
  rw [Tables.fillIds_upsertFill]
  split_ifs with hmem
  · exact hmem
  · exact List.mem_append_right _ (List.mem_singleton_self _)

theorem subset_others (w : Tables) (others : List TableWrite) :
    w.fillIds ⊆ (others.foldl TableWrite.apply w).fillIds := by
  induction others generalizing w with
  | nil => exact List.Subset.refl _
  | cons write rest ih =>
    refine List.Subset.trans ?_ (ih _)
    cases write with
    | order row => exact List.Subset.refl _
    | fill f =>
      cases hid : w.internalOrderIdByExchangeOrderId f.orderId with
      | none => simp [TableWrite.apply, hid]
      | some id => simpa only [TableWrite.apply, hid] using subset_upsertFill w (f.row id)

theorem exchangeIds_others (w : Tables) (others : List TableWrite) :
    w.exchangeIds <+: (others.foldl TableWrite.apply w).exchangeIds := by
  induction others generalizing w with
  | nil => exact List.prefix_rfl
  | cons write rest ih =>
    refine List.IsPrefix.trans ?_ (ih _)
    cases write with
    | order row => exact w.upsertOrder_ids_prefix row
    | fill f =>
      cases hid : w.internalOrderIdByExchangeOrderId f.orderId with
      | none => simp [TableWrite.apply, hid]
      | some id =>
        simp only [TableWrite.apply, hid]
        exact List.prefix_rfl

/-- The world while the fills of a page are stored: every fill of the order that is listed has
its row or is one of these, unless a lookup or a store has failed. -/
structure PendingFills (F : ExchangeFills o) (statuses : List (Option ℚ)) (fills : List FillInfo)
    (w : BackfillWorld) : Prop where
  sound : F.Sound w.tables
  answered : w.statuses = statuses
  told : ∀ f ∈ fills, usableFill f = true → F.Confirms f.fillId f.orderId f.size
  listed : w.intact = true → ∀ f ∈ w.listed, usableFill f = true → f.orderId = o →
    f.fillId ∈ w.tables.fillIds ∨ f ∈ fills

abbrev PagesStored (F : ExchangeFills o) (statuses : List (Option ℚ)) (w : BackfillWorld) : Prop :=
  PendingFills F statuses [] w

namespace PendingFills
variable {fills : List FillInfo} {fill : FillInfo}

theorem others (h : PendingFills F statuses fills w) {others : List TableWrite}
    (hothers : ∀ write ∈ others, F.Admits write) :
    PendingFills F statuses fills { w with tables := others.foldl TableWrite.apply w.tables } := by
  refine ⟨h.sound.others hothers, h.answered, h.told, fun hintact f hf husable horder => ?_⟩
  exact (h.listed hintact f hf husable horder).imp_left fun hstored =>
    subset_others _ _ hstored

theorem skipped (h : PendingFills F statuses (fill :: fills) w)
    (hskip : usableFill fill = true → fill.orderId ≠ o) : PendingFills F statuses fills w := by
  refine ⟨h.sound, h.answered, fun f hf => h.told f (List.mem_cons_of_mem fill hf),
    fun hintact f hf husable horder => ?_⟩
  refine (h.listed hintact f hf husable horder).imp_right fun hmem => ?_
  refine (List.mem_cons.mp hmem).resolve_left ?_
  rintro rfl
  exact hskip husable horder

theorem store (h : PendingFills F statuses (fill :: fills) w) (husable : usableFill fill = true)
    {id : ℕ} (horder : w.tables.exchangeIds[id]? = some fill.orderId) :
    PendingFills F statuses fills
      { w with tables := w.tables.upsertFillByExchangeFillId (fill.row id) } := by
  refine ⟨h.sound.fill horder (h.told fill (List.mem_cons_self ..) husable), h.answered,
    fun f hf => h.told f (List.mem_cons_of_mem fill hf), fun hintact f hf hf' hown => ?_⟩
  rcases h.listed hintact f hf hf' hown with hstored | hmem
  · exact .inl (subset_upsertFill _ _ hstored)
  · rcases List.mem_cons.mp hmem with rfl | hrest
    · exact .inl (mem_upsertFill _ (f.row id))
    · exact .inr hrest

theorem cut (h : PendingFills F statuses fills w) :
    PagesStored F statuses { w with intact := false } :=
  ⟨h.sound, h.answered, fun _ hf => (nomatch hf), fun hintact => (nomatch hintact)⟩

end PendingFills

theorem wp_send {β : Type} {c : BackfillCall} {f : c.Answer → BackfillProg β}
    {Q : Except String β → BackfillWorld → Prop}
    (hok : ∀ r, F.Honest c w r → wp BackfillCall.act F.Honest (f (c.answer (c.found w r) r)) Q
      (c.exec (c.found w r) r))
    (hfail : ∀ r fault, F.Honest c w r → Q (.error "call failed") (c.failed (c.found w r) fault)) :
    wp BackfillCall.act F.Honest (run c >>= f) Q w := by
  rw [wp_bind]
  refine (wp_perform c _ w).mpr fun r hr => ?_
  unfold BackfillCall.act
  cases r.fault with
  | none => exact hok r hr
  | some fault => exact hfail r fault hr

theorem wp_syncFill {fill : FillInfo} {fills : List FillInfo}
    (h : PendingFills F statuses (fill :: fills) w) :
    wp BackfillCall.act F.Honest (syncTradeBuilderFill (some o) fill)
      (fun x w' => match x with
        | .ok _ => PendingFills F statuses fills w'
        | .error _ => PagesStored F statuses w') w := by
  unfold syncTradeBuilderFill
  by_cases hown : (usableFill fill && decide (fill.orderId = o)) = true
  swap
  · have hskip : PendingFills F statuses fills w := h.skipped fun husable horder =>
      hown (by simp [husable, horder])
    simpa [hown] using hskip
  obtain ⟨husable, horder⟩ := Bool.and_eq_true_iff.mp hown
  simp only [Option.all_some, hown, if_true]
  refine wp_send (fun r hr => ?_) fun r fault hr => (h.others hr.1).cut
  have hfound := h.others hr.1
  cases hid : (BackfillCall.internalOrderId fill.orderId).answer
      ((BackfillCall.internalOrderId fill.orderId).found w r) r with
  | none =>
    have hknown := hfound.sound.known
    exact absurd (of_decide_eq_true horder ▸ hknown) (List.idxOf?_eq_none_iff.mp hid)
  | some id =>
    refine (wp_perform _ _ _).mpr fun r' hr' => ?_
    have hstore := hfound.others hr'.1
    have hrow : (r'.others.foldl TableWrite.apply
        (r.others.foldl TableWrite.apply w.tables)).exchangeIds[id]? = some fill.orderId :=
      Rows.getElem?_of_prefix (exchangeIds_others _ _) (Tables.order_of_lookup hid)
    unfold BackfillCall.act
    cases hfault : r'.fault with
    | none => exact hstore.store husable hrow
    | some fault =>
      cases fault with
      | refused => exact hstore.cut
      | lost => exact (hstore.store husable hrow).cut

theorem wp_syncPage (fills : List FillInfo) (h : PendingFills F statuses fills w) :
    wp BackfillCall.act F.Honest (syncTradeBuilderFillPage fills (some o))
      (fun _ => PagesStored F statuses) w := by
  induction fills generalizing w with
  | nil => exact h
  | cons fill rest ih =>
    exact wp_bind_of (wp_syncFill h) (fun _ w' hrest => ih hrest) fun _ w' hcut => hcut

theorem wp_syncPages (query : TradeQuery) (pages : ℕ) (cursor : Option String)
    (h : PagesStored F statuses w) :
    wp BackfillCall.act F.Honest (syncTradeBuilderFillPagesFrom query (some o) pages cursor)
      (fun _ => PagesStored F statuses) w := by
  induction pages generalizing w cursor with
  | zero => exact h
  | succ pages ih =>
    refine wp_send (fun r hr => ?_) fun r fault hr => h
    have hpage : PendingFills F statuses (r.page.fills.map (·.toFillInfo))
        { w with listed := w.listed ++ r.page.fills.map (·.toFillInfo) } := by
      refine ⟨h.sound, h.answered, fun f hf husable => ?_, fun hintact f hf husable horder => ?_⟩
      · obtain ⟨g, hg, rfl⟩ := List.mem_map.mp hf
        exact hr.2 g hg husable
      · rcases List.mem_append.mp hf with hold | hnew
        · exact (h.listed hintact f hold husable horder).imp_right fun hmem => nomatch hmem
        · exact .inr hnew
    refine wp_bind_of (wp_syncPage _ hpage) (fun _ w' hstored => ?_) fun _ w' hcut => hcut
    exact wp_ite (fun _ => ih _ hstored) fun _ => hstored

theorem wp_syncAssociated (tradeIds : List String) (h : PagesStored F statuses w) :
    wp BackfillCall.act F.Honest (syncTradeBuilderAssociatedTradeIds o tradeIds)
      (fun _ => PagesStored F statuses) w := by
  induction tradeIds generalizing w with
  | nil => exact h
  | cons tradeId rest ih =>
    have htrade := (wp_attempt _ (fun _ => PagesStored F statuses) w).mpr
      (wp_syncPages { id := some tradeId } 1 none h)
    refine wp_bind_of (R := fun _ => PagesStored F statuses) ?_ (fun _ w' hsettled => ih hsettled)
      fun _ w' hsettled => hsettled
    exact wp_bind_of htrade (fun _ w' hsettled => hsettled) fun _ w' hsettled => hsettled

/-- The last of these filled sizes that is usable. -/
def lastUsable (statuses : List (Option ℚ)) : Option ℚ :=
  statuses.findSome? normalizeTradeBuilderTerminalFillQtyCandidate

theorem lastUsable_cons (size : Option ℚ) (statuses : List (Option ℚ)) :
    lastUsable (size :: statuses) =
      (normalizeTradeBuilderTerminalFillQtyCandidate size).or (lastUsable statuses) := by
  unfold lastUsable
  rw [List.findSome?_cons]
  cases normalizeTradeBuilderTerminalFillQtyCandidate size <;> rfl

theorem wp_event (kind : String) :
    wp BackfillCall.act F.Honest (event kind) (fun _ w' => w' = w) w := by
  refine (wp_perform _ _ w).mpr fun r _ => ?_
  unfold BackfillCall.act
  cases r.fault <;> rfl

theorem wp_status (h : PagesStored F statuses w) :
    wp BackfillCall.act F.Honest (attempt (run (.status o)))
      (fun x w' => match x with
        | .ok (.ok info) => PagesStored F (info.filledSize :: statuses) w'
        | _ => PagesStored F statuses w') w := by
  refine (wp_attempt _ _ w).mpr ((wp_perform _ _ w).mpr fun r _ => ?_)
  unfold BackfillCall.act
  cases r.fault with
  | none => exact ⟨h.sound, congrArg _ h.answered, h.told, h.listed⟩
  | some fault => exact h

theorem wp_backfillStatus (h : PagesStored F statuses w) :
    wp BackfillCall.act F.Honest (backfillStatus o (lastUsable statuses))
      (fun x w' => match x with
        | .ok filled => ∃ statuses', PagesStored F statuses' w' ∧ filled = lastUsable statuses'
        | .error _ => True) w := by
  refine wp_bind_of (wp_status h) (fun result w' hresult => ?_) fun _ _ _ => trivial
  cases result with
  | error e =>
    refine wp_bind_of (wp_event _) (fun _ w₁ hsame => ?_) fun _ _ _ => trivial
    exact ⟨statuses, hsame ▸ hresult, rfl⟩
  | ok info =>
    refine wp_bind_of (wp_syncAssociated _ hresult) (fun _ w' hsettled => ?_) fun _ _ _ => trivial
    exact ⟨_, hsettled, (lastUsable_cons ..).symm⟩

theorem wp_backfillRecentTrades (h : PagesStored F statuses w) :
    wp BackfillCall.act F.Honest (backfillRecentTrades o) (fun _ => PagesStored F statuses) w := by
  have hattempt := (wp_attempt _ (fun _ => PagesStored F statuses) w).mpr
    (wp_syncPages {} (max tradeBuilderFillBackfillMaxRecentPages 1) none h)
  refine wp_bind_of hattempt (fun result w' hsettled => ?_) fun _ _ hsettled => hsettled
  cases result with
  | error e => exact wp_mono (wp_event _) fun _ w₁ hsame => hsame ▸ hsettled
  | ok a => exact hsettled

/-- What the backfill knows is what is stored and what was reported last. -/
structure BackfillKnows (F : ExchangeFills o) (outcome : TradeBuilderFillBackfillOutcome)
    (w : BackfillWorld) : Prop where
  settled : PagesStored F w.statuses w
  aggregate : outcome.aggregateFillQty =
    normalizeTradeBuilderTerminalFillQtyCandidate (some (F.storedTotal w.tables))
  filled : outcome.orderInfoFilledSize = lastUsable w.statuses

theorem wp_aggregate (h : PagesStored F statuses w) :
    wp BackfillCall.act F.Honest (aggregateTradeBuilderFillQtyOption o)
      (fun x w' => ∀ aggregate, x = .ok aggregate →
        BackfillKnows F ⟨aggregate, lastUsable statuses⟩ w' ∧ w'.statuses = statuses) w := by
  refine wp_send (fun r hr => ?_) fun r fault hr aggregate hfail => nomatch hfail
  have hfound := h.others hr.1
  rintro aggregate ⟨⟩
  refine ⟨⟨?_, ?_, congrArg _ hfound.answered.symm⟩, hfound.answered⟩
  · exact ⟨hfound.sound, rfl, hfound.told, hfound.listed⟩
  · exact congrArg (fun q => normalizeTradeBuilderTerminalFillQtyCandidate (some q))
      hfound.sound.aggregate_eq

theorem wp_backfillAttempt (h : PagesStored F statuses w) :
    wp BackfillCall.act F.Honest (backfillAttempt o (lastUsable statuses))
      (fun x w' => ∀ outcome, x = .ok outcome → BackfillKnows F outcome w') w := by
  refine wp_bind_of (wp_event _) (fun _ w₁ hsame => ?_) fun _ _ _ _ hfail => nomatch hfail
  refine wp_bind_of (wp_backfillStatus (hsame ▸ h)) (fun filled w₂ hstatus => ?_)
    fun _ _ _ _ hfail => nomatch hfail
  obtain ⟨statuses', hsettled, rfl⟩ := hstatus
  refine wp_bind_of (wp_backfillRecentTrades hsettled) (fun _ w₃ hrecent => ?_)
    fun _ _ _ _ hfail => nomatch hfail
  refine wp_bind_of (wp_aggregate hrecent) (fun aggregate w₄ hread => ?_)
    fun _ _ _ _ hfail => nomatch hfail
  rintro outcome ⟨⟩
  exact (hread aggregate rfl).1

theorem wp_backfillAttempts (delays : List ℕ) {outcome : TradeBuilderFillBackfillOutcome}
    (h : BackfillKnows F outcome w) :
    wp BackfillCall.act F.Honest (backfillAttempts o delays outcome)
      (fun x w' => ∀ outcome, x = .ok outcome → BackfillKnows F outcome w') w := by
  induction delays generalizing w outcome with
  | nil =>
    refine wp_bind_of (wp_event _) (fun _ w₁ hsame => ?_) fun _ _ _ _ hfail => nomatch hfail
    rintro outcome ⟨⟩
    exact hsame ▸ h
  | cons delay rest ih =>
    have hattempt := wp_backfillAttempt h.settled
    rw [← h.filled] at hattempt
    refine wp_bind_of hattempt (fun outcome w₁ hread => ?_) fun _ _ _ _ hfail => nomatch hfail
    refine wp_ite (fun _ => ?_) fun _ => ih (hread outcome rfl)
    refine wp_bind_of (wp_event _) (fun _ w₂ hsame => ?_) fun _ _ _ _ hfail => nomatch hfail
    rintro outcome ⟨⟩
    exact hsame ▸ hread outcome rfl

theorem wp_backfill (h : PagesStored F [] w) :
    wp BackfillCall.act F.Honest (backfillTradeBuilderFillsForOrder o)
      (fun x w' => ∀ outcome, x = .ok outcome → BackfillKnows F outcome w') w := by
  refine wp_bind_of (wp_aggregate h) (fun aggregate w₁ hread => ?_)
    fun _ _ _ _ hfail => nomatch hfail
  obtain ⟨hreads, hstatuses⟩ := hread aggregate rfl
  refine wp_ite (fun _ => ?_) fun hnone => ?_
  · rintro outcome ⟨⟩
    exact hreads
  · have hstart : BackfillKnows F {} w₁ :=
      ⟨hreads.settled, (Option.not_isSome_iff_eq_none.mp hnone) ▸ hreads.aggregate,
        hreads.filled⟩
    exact wp_backfillAttempts _ hstart

end Runs

/-! ### The law of the quantity -/

theorem actualFill_usable {outcome : TradeBuilderFillBackfillOutcome} {qty : ℚ}
    {source : ActualFillQtySource} (h : outcome.actualFillQtyAndSource = some (qty, source)) :
    normalizeTradeBuilderTerminalFillQtyCandidate (some qty) = some qty := by
  unfold TradeBuilderFillBackfillOutcome.actualFillQtyAndSource at h
  rcases Option.or_eq_some_iff.mp h with haggregate | ⟨-, hfilled⟩
  · obtain ⟨value, hvalue, heq⟩ := Option.map_eq_some_iff.mp haggregate
    cases heq
    exact terminalFillQtyCandidate_idem hvalue
  · obtain ⟨value, hvalue, heq⟩ := Option.map_eq_some_iff.mp hfilled
    cases heq
    exact terminalFillQtyCandidate_idem hvalue

theorem resolveImmediate_eq (outcome : TradeBuilderFillBackfillOutcome)
    (order : TradeBuilderOrder) (submitSize : ℚ) :
    resolveTradeBuilderImmediateFillQuantities order submitSize
        (outcome.actualFillQtyAndSource.map Prod.fst) =
      match outcome.immediateFillQuantities order submitSize with
      | some q => pure q.toFinalizeQuantities
      | none => Prog.fail errorOther := by
  unfold resolveTradeBuilderImmediateFillQuantities
    TradeBuilderFillBackfillOutcome.immediateFillQuantities
  cases hactual : outcome.actualFillQtyAndSource with
  | some actual => simp [actualFill_usable hactual]
  | none =>
    have hno : normalizeTradeBuilderTerminalFillQtyCandidate none = none := rfl
    simp only [Option.map_none, hno]
    split_ifs with htrack
    · cases tradeBuilderCanonicalEntryQty order (some submitSize) <;> rfl
    · rfl

/-- Every fill of the order is stored, or was listed and no lookup or store has failed. -/
def FillsComplete {o : String} (F : ExchangeFills o) (w : BackfillWorld) : Prop :=
  ∀ f ∈ F.fills, f.fillId ∈ w.tables.fillIds ∨
    w.intact = true ∧ ∃ g ∈ w.listed, usableFill g = true ∧ g.orderId = o ∧
      g.fillId = f.fillId

/-- The quantity an order that was filled at once is booked with. Complete fills are counted
each once; so are the stored ones as soon as any are, whatever is reported; without stored fills
the last usable report counts, and without one what was submitted. -/
structure ImmediateFillLaw {o : String} (F : ExchangeFills o) (order : TradeBuilderOrder)
    (submitSize : ℚ) (backfill : Except String TradeBuilderFillBackfillOutcome)
    (w : BackfillWorld) (q : ImmediateFillQuantities) : Prop where
  complete : backfill.isOk = true → FillsComplete F w → 0 < roundTradeBuilderShareQty F.total →
    q = ⟨⟨roundTradeBuilderShareQty F.total, .actualFillQty,
      some (roundTradeBuilderShareQty F.total)⟩, some .fillsAggregate⟩
  counted : backfill.isOk = true → ∀ qty,
    normalizeTradeBuilderTerminalFillQtyCandidate (some (F.storedTotal w.tables)) = some qty →
      q = ⟨⟨qty, .actualFillQty, some qty⟩, some .fillsAggregate⟩
  reported : backfill.isOk = true →
    normalizeTradeBuilderTerminalFillQtyCandidate (some (F.storedTotal w.tables)) = none →
      ∀ qty, lastUsable w.statuses = some qty →
        q = ⟨⟨qty, .actualFillQty, some qty⟩, some .orderStatusSizeMatched⟩ ∧
          ∃ size, some size ∈ w.statuses ∧ size - 1 / 200 ≤ qty
  unknown : (backfill.isOk = true →
      normalizeTradeBuilderTerminalFillQtyCandidate (some (F.storedTotal w.tables)) = none ∧
        lastUsable w.statuses = none) →
    if tradeBuilderShouldTrackBuyInventoryObservation order then
      tradeBuilderCanonicalEntryQty order (some submitSize) =
        some (q.canonicalEntryQty, q.source) ∧ q.actualFillQty = none
    else q = ⟨⟨submitSize, .actualFillQty, some submitSize⟩, some .submittedOrderSize⟩

section Law
variable {o : String} {F : ExchangeFills o} {w : BackfillWorld} {order : TradeBuilderOrder}
  {submitSize : ℚ} {outcome : TradeBuilderFillBackfillOutcome} {q : ImmediateFillQuantities}

theorem lastUsable_some {statuses : List (Option ℚ)} {qty : ℚ}
    (h : lastUsable statuses = some qty) :
    normalizeTradeBuilderTerminalFillQtyCandidate (some qty) = some qty ∧
      ∃ size, some size ∈ statuses ∧ size - 1 / 200 ≤ qty := by
  obtain ⟨reported, hmem, hcandidate⟩ := List.exists_of_findSome?_eq_some h
  refine ⟨terminalFillQtyCandidate_idem hcandidate, ?_⟩
  obtain ⟨size, rfl, hpos, rfl, -⟩ := terminalFillQtyCandidate_iff.mp hcandidate
  have hclose := (abs_le.mp (roundTradeBuilderShareQty_close hpos.le)).1
  exact ⟨size, hmem, by linarith⟩

theorem total_pos (h : 0 < roundTradeBuilderShareQty F.total) : 0 < F.total := by
  by_contra hle
  rw [roundTradeBuilderShareQty, max_eq_right (not_lt.mp hle)] at h
  norm_num at h

theorem storedTotal_of_complete (hsettled : PagesStored F w.statuses w) (h : FillsComplete F w) :
    F.storedTotal w.tables = F.total := by
  have hall : F.stored w.tables = F.fills := by
    refine List.filter_eq_self.mpr fun f hf => decide_eq_true ?_
    rcases h f hf with hstored | ⟨hintact, g, hg, husable, horder, hid⟩
    · exact hstored
    · exact hid ▸ (hsettled.listed hintact g hg husable horder).resolve_right List.not_mem_nil
  unfold ExchangeFills.storedTotal
  rw [hall, ExchangeFills.total]

theorem actualFill_of_known (h : BackfillKnows F outcome w) : outcome.actualFillQtyAndSource =
    ((normalizeTradeBuilderTerminalFillQtyCandidate (some (F.storedTotal w.tables))).map
      (·, .fillsAggregate)).or ((lastUsable w.statuses).map (·, .orderStatusSizeMatched)) := by
  have hidem (value : Option ℚ) (hvalue : ∀ qty, value = some qty →
      normalizeTradeBuilderTerminalFillQtyCandidate (some qty) = some qty) :
      normalizeTradeBuilderTerminalFillQtyCandidate value = value := by
    cases value with
    | none => rfl
    | some qty => exact hvalue qty rfl
  unfold TradeBuilderFillBackfillOutcome.actualFillQtyAndSource
  rw [h.aggregate, h.filled, hidem _ fun _ => terminalFillQtyCandidate_idem,
    hidem _ fun _ hlast => (lastUsable_some hlast).1]

theorem unknown_of_none (hnone : outcome.actualFillQtyAndSource = none)
    (hq : outcome.immediateFillQuantities order submitSize = some q) :
    if tradeBuilderShouldTrackBuyInventoryObservation order then
      tradeBuilderCanonicalEntryQty order (some submitSize) =
        some (q.canonicalEntryQty, q.source) ∧ q.actualFillQty = none
    else q = ⟨⟨submitSize, .actualFillQty, some submitSize⟩, some .submittedOrderSize⟩ := by
  simp only [TradeBuilderFillBackfillOutcome.immediateFillQuantities, hnone] at hq
  split_ifs at hq ⊢ with htrack
  · obtain ⟨entry, hentry, rfl⟩ := Option.map_eq_some_iff.mp hq
    exact ⟨hentry, rfl⟩
  · exact (Option.some.inj hq).symm

theorem law_of_known (h : BackfillKnows F outcome w)
    (hq : outcome.immediateFillQuantities order submitSize = some q) :
    ImmediateFillLaw F order submitSize (.ok outcome) w q := by
  have hactual := actualFill_of_known h
  have hused (qty : ℚ) (source : ActualFillQtySource)
      (hsome : outcome.actualFillQtyAndSource = some (qty, source)) :
      q = ⟨⟨qty, .actualFillQty, some qty⟩, some source⟩ := by
    simp only [TradeBuilderFillBackfillOutcome.immediateFillQuantities, hsome] at hq
    exact (Option.some.inj hq).symm
  have hcounted (qty : ℚ) (hqty : normalizeTradeBuilderTerminalFillQtyCandidate
      (some (F.storedTotal w.tables)) = some qty) :
      q = ⟨⟨qty, .actualFillQty, some qty⟩, some .fillsAggregate⟩ :=
    hused qty _ (by rw [hactual, hqty]; rfl)
  refine ⟨fun _ hcomplete hpos => hcounted _ ?_, fun _ => hcounted, fun _ hnone qty hlast => ?_,
    fun hunknown => unknown_of_none ?_ hq⟩
  · rw [storedTotal_of_complete h.settled hcomplete]
    exact terminalFillQtyCandidate_iff.mpr ⟨_, rfl, total_pos hpos, rfl, hpos⟩
  · exact ⟨hused qty _ (by rw [hactual, hnone, hlast]; rfl), (lastUsable_some hlast).2⟩
  · obtain ⟨hnone, hlast⟩ := hunknown rfl
    rw [hactual, hnone, hlast]
    rfl

theorem law_of_error {e : String}
    (hq : ({} : TradeBuilderFillBackfillOutcome).immediateFillQuantities order submitSize =
      some q) : ImmediateFillLaw F order submitSize (.error e) w q :=
  ⟨fun hok => (nomatch hok), fun hok => (nomatch hok), fun hok => (nomatch hok),
    fun _ => unknown_of_none rfl hq⟩

/-- For every order, every true list of its fills, and every run of the backfill. -/
theorem immediateFill_law (F : ExchangeFills o) (order : TradeBuilderOrder) (submitSize : ℚ)
    (tables : Tables) (replies : List BackfillReply) (hsound : F.Sound tables)
    (hhonest : Meets BackfillCall.act F.Honest (backfillTradeBuilderFillsForOrder o) replies
      { tables }) (q : ImmediateFillQuantities)
    (hq : immediateFillQuantities order submitSize (exec BackfillCall.act
      (backfillTradeBuilderFillsForOrder o) replies { tables }).1 = some q) :
    ImmediateFillLaw F order submitSize
      (exec BackfillCall.act (backfillTradeBuilderFillsForOrder o) replies { tables }).1
      (exec BackfillCall.act (backfillTradeBuilderFillsForOrder o) replies { tables }).2 q := by
  have hstart : PagesStored F [] { tables } :=
    ⟨hsound, rfl, fun _ hf => (nomatch hf), fun _ _ hf => (nomatch hf)⟩
  have hreads := wp_sound BackfillCall.act F.Honest (wp_backfill hstart) hhonest
  generalize exec BackfillCall.act (backfillTradeBuilderFillsForOrder o) replies { tables } = run
    at hreads hq ⊢
  obtain ⟨backfill, w⟩ := run
  cases backfill with
  | ok outcome => exact law_of_known (hreads outcome rfl) hq
  | error e => exact law_of_error hq

end Law

/-! ### A list that is still growing -/

instance {o : String} (F : ExchangeFills o) (fillId orderId : String) (size : ℚ) :
    Decidable (F.Confirms fillId orderId size) := by
  unfold ExchangeFills.Confirms
  infer_instance

instance {o : String} (F : ExchangeFills o) (write : TableWrite) :
    Decidable (F.Admits write) := by
  cases write <;> unfold ExchangeFills.Admits <;> infer_instance

instance {o : String} (F : ExchangeFills o) (c : BackfillCall) (w : BackfillWorld)
    (r : BackfillReply) : Decidable (F.Honest c w r) := by
  unfold ExchangeFills.Honest
  infer_instance

def twoTrades : ExchangeFills "o1" where
  fills := [⟨"t1:o1", "o1", 1 / 2, 4, none, none⟩, ⟨"t2:o1", "o1", 1 / 2, 6, none, none⟩]
  own := by decide
  usable := by decide +kernel
  once := by decide

def submittedTables : Tables :=
  { orders := [⟨1, "o1", none, "entry", "buy", 1 / 2, 10, "filled", none, none⟩] }

theorem submittedTables_sound : twoTrades.Sound submittedTables :=
  ⟨by decide, by decide, fun _ hrow => nomatch hrow⟩

/-- The replies of an attempt whose status reports 10 shares and whose page has these fills. -/
def attemptReplies (fills : List FillInfo) : List BackfillReply :=
  [{}, {}, { status := ⟨some 10, []⟩ },
    { page := ⟨fills.map fun f => { f with rawPayload := none }, none, none, 0, []⟩ }]

/-- The page has both trades. -/
theorem immediateFill_law_twoTrades :
    ImmediateFillLaw twoTrades {} 10
      (exec BackfillCall.act (backfillTradeBuilderFillsForOrder "o1")
        (attemptReplies twoTrades.fills) { tables := submittedTables }).1
      (exec BackfillCall.act (backfillTradeBuilderFillsForOrder "o1")
        (attemptReplies twoTrades.fills) { tables := submittedTables }).2
      ⟨⟨10, .actualFillQty, some 10⟩, some .fillsAggregate⟩ :=
  immediateFill_law twoTrades {} 10 submittedTables _ submittedTables_sound
    (by decide +kernel) _ (by decide +kernel)

/-- The page has the first trade only: the 4 shares stored count, not the 10 reported. -/
theorem growing_list_under_counts : ¬ ∀ (o : String) (F : ExchangeFills o)
    (order : TradeBuilderOrder) (submitSize : ℚ) (tables : Tables) (replies : List BackfillReply)
    (q : ImmediateFillQuantities), F.Sound tables →
      Meets BackfillCall.act F.Honest (backfillTradeBuilderFillsForOrder o) replies { tables } →
      immediateFillQuantities order submitSize (exec BackfillCall.act
        (backfillTradeBuilderFillsForOrder o) replies { tables }).1 = some q →
      ∀ size, some size ∈ (exec BackfillCall.act (backfillTradeBuilderFillsForOrder o) replies
        { tables }).2.statuses → size ≤ q.canonicalEntryQty := by
  intro h
  have hle := h "o1" twoTrades {} 10 submittedTables (attemptReplies (twoTrades.fills.take 1))
    ⟨⟨4, .actualFillQty, some 4⟩, some .fillsAggregate⟩ submittedTables_sound
    (by decide +kernel) (by decide +kernel) 10 (by decide +kernel)
  revert hle
  decide +kernel

end PolymarketBot.Builder
