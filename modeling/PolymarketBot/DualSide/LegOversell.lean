import Mathlib.Algebra.Order.BigOperators.Group.List
import PolymarketBot.DualSide.LegExits

/-! Runs in which the sells of a leg never offer more than the leg holds. -/

namespace PolymarketBot.DualSide
open Lib Reconcile

namespace LegMarket

/-- Where the exchange takes the order, the leg has no sell left to fill or to book. -/
def SellCovered (w : LegMarket) (side : LegSide) (r : PlaceReply) : Prop :=
  w.FreshIds r → r.submit ≠ some .refused → r.accepted → w.Settled side

/-- A take profit of the leg that gets as far as its order finds the leg settled. -/
def LegTpCovered (tradeId : ℤ) (legTpPct : ℚ) (w : LegMarket) (side : LegSide) (price : ℚ)
    (r : ExitReply) : Prop :=
  shouldLegTakeProfit (w.basket.leg side) price legTpPct → r.key = none →
    legTpKey tradeId side price ∉ w.tables.keys → 0 < (w.basket.leg side).qty →
      w.SellCovered side r.place

def FlattenLegCovered (w : LegMarket) (side : LegSide) (r : PlaceReply) : Prop :=
  0 < (w.basket.leg side).qty → w.SellCovered side r

/-- Every exit the event places finds its leg settled. -/
def ExitsCovered (tradeId : ℤ) (legTpPct : ℚ) (w : LegMarket) : ExitEvent → Prop
  | .maybeLiveLegTp yesPrice noPrice yes no =>
    w.LegTpCovered tradeId legTpPct .yes yesPrice yes ∧
      ((w.legTakeProfit tradeId legTpPct .yes yesPrice yes).1 = .ok () →
        (w.legTakeProfit tradeId legTpPct .yes yesPrice yes).2.LegTpCovered tradeId legTpPct .no
          noPrice no)
  | .flatten reason yesPrice _ key yes no =>
    key = none → flattenKey tradeId reason ∉ w.tables.keys →
      w.FlattenLegCovered .yes yes ∧
        ((w.recordKey (flattenKey tradeId reason)).flattenLeg tradeId .yes yesPrice
          yes).FlattenLegCovered .no no
  | _ => True

instance (w : LegMarket) (side : LegSide) (r : PlaceReply) : Decidable (w.SellCovered side r) :=
  inferInstanceAs (Decidable (_ → _ → _ → _))

instance (tradeId : ℤ) (legTpPct : ℚ) (w : LegMarket) (side : LegSide) (price : ℚ)
    (r : ExitReply) : Decidable (w.LegTpCovered tradeId legTpPct side price r) :=
  inferInstanceAs (Decidable (_ → _ → _ → _ → _))

instance (w : LegMarket) (side : LegSide) (r : PlaceReply) :
    Decidable (w.FlattenLegCovered side r) :=
  inferInstanceAs (Decidable (_ → _))

instance (tradeId : ℤ) (legTpPct : ℚ) (w : LegMarket) :
    (e : ExitEvent) → Decidable (ExitsCovered tradeId legTpPct w e)
  | .maybeLiveLegTp .. => inferInstanceAs (Decidable (_ ∧ (_ → _)))
  | .flatten .. => inferInstanceAs (Decidable (_ → _ → _ ∧ _))
  | .buy .. | .leveled .. | .poll .. | .fillOrder _ | .foreignOrder .. =>
    inferInstanceAs (Decidable True)

/-- Shares of a leg in accepted sells whose fills are not booked. -/
def unbookedSellQty (w : LegMarket) (side : LegSide) : ℚ :=
  ((w.legSells side).map w.unbookedQty).sum

/-- The metadata of an order is that of the accepted order, fills are of accepted orders and are
booked once, and a leg's quantity covers its sells up to the fills that are booked. -/
structure Booked (w : LegMarket) : Prop where
  metas : ∀ order ∈ w.exchange, ∀ m, w.metaOf order.exchangeOrderId = some m →
    order.leg = some m.legSide ∧ order.side = m.side
  fillIds : (w.fills.map FillInfo.fillId).Nodup
  orders : ∀ f ∈ w.fills, 0 ≤ f.size ∧ ∃ order ∈ w.exchange, order.exchangeOrderId = f.orderId
  applied : ∀ x ∈ w.applied, x.fill ∈ w.fills ∧ x.fill.fillId ∈ w.seenFillIds
  once : w.appliedIds.Nodup
  covered : ∀ side, w.unbookedSellQty side ≤ (w.basket.leg side).qty

section Sums
variable {w : LegMarket}

theorem qtyOf_append (fills : List FillInfo) (f : FillInfo) (orderId : String) :
    qtyOf (fills ++ [f]) orderId = qtyOf fills orderId + if f.orderId = orderId then f.size else 0 := by
  simp [qtyOf]

theorem qtyOf_nil_of {fills : List FillInfo} {orderId : String}
    (h : ∀ f ∈ fills, f.orderId ≠ orderId) : qtyOf fills orderId = 0 := by
  refine List.sum_eq_zero fun q hq => ?_
  obtain ⟨f, hf, rfl⟩ := List.mem_map.mp hq
  exact if_neg (h f hf)

theorem qtyOf_le {booked fills : List FillInfo} (hsub : ∀ f ∈ booked, f ∈ fills)
    (hnd : booked.Nodup) (hpos : ∀ f ∈ fills, 0 ≤ f.size) (orderId : String) :
    qtyOf booked orderId ≤ qtyOf fills orderId := by
  obtain ⟨l, hperm, hsublist⟩ := hnd.subperm hsub
  have hsum : qtyOf booked orderId = qtyOf l orderId := (hperm.map _).sum_eq.symm
  rw [hsum]
  refine (hsublist.map _).sum_le_sum fun q hq => ?_
  obtain ⟨f, hf, rfl⟩ := List.mem_map.mp hq
  split_ifs
  · exact hpos f hf
  · exact le_refl 0

theorem Booked.noOversell (h : w.Booked) : w.NoOversell := by
  intro side
  refine le_trans (List.sum_le_sum fun order _ => ?_) (h.covered side)
  have hnd : (w.applied.map LegFill.fill).Nodup := by
    refine List.Nodup.of_map FillInfo.fillId ?_
    rw [List.map_map]
    exact h.once
  have hle := qtyOf_le (fun f hf => ?_) hnd (fun f hf => (h.orders f hf).1) order.exchangeOrderId
  · exact sub_le_sub_left hle order.size
  · obtain ⟨x, hx, rfl⟩ := List.mem_map.mp hf
    exact (h.applied x hx).1

end Sums

section Steps
variable {w : LegMarket} {tradeId : ℤ} {legTpPct : ℚ}

theorem legSells_goLive (w : LegMarket) (order : LegOrder) (side : LegSide) :
    (w.goLive order).legSells side = w.legSells side ++
      if order.leg = some side ∧ order.side ≠ "buy" then [order] else [] := by
  unfold legSells goLive
  rw [List.filter_append, List.filter_cons, List.filter_nil]
  simp only [decide_eq_true_eq]

theorem unbookedSellQty_goLive (w : LegMarket) (order : LegOrder) (side : LegSide) :
    (w.goLive order).unbookedSellQty side = w.unbookedSellQty side +
      if order.leg = some side ∧ order.side ≠ "buy" then w.unbookedQty order else 0 := by
  unfold unbookedSellQty
  rw [legSells_goLive, List.map_append, List.sum_append]
  change w.unbookedSellQty side + _ = _
  split_ifs
  · rw [List.map_singleton, List.sum_singleton]
    rfl
  · rfl

theorem Booked.unbookedQty_fresh (h : w.Booked) {order : LegOrder}
    (hfresh : order.exchangeOrderId ∉ w.exchange.map LegOrder.exchangeOrderId) :
    w.unbookedQty order = order.size := by
  have hzero : w.bookedQty order.exchangeOrderId = 0 := by
    refine qtyOf_nil_of fun f hf hid => ?_
    obtain ⟨x, hx, rfl⟩ := List.mem_map.mp hf
    obtain ⟨-, known, hknown, hsame⟩ := h.orders x.fill (h.applied x hx).1
    exact hfresh (List.mem_map.mpr ⟨known, hknown, hsame.trans hid⟩)
  rw [unbookedQty, hzero, sub_zero]

/-- An accepted order without metadata: a sell of a leg whose earlier sells are settled, for the
quantity of the leg, or an order that is no sell of a leg. -/
theorem Booked.goLive (h : w.Booked) {order : LegOrder}
    (hfresh : order.exchangeOrderId ∉ w.exchange.map LegOrder.exchangeOrderId)
    (hmeta : w.metaOf order.exchangeOrderId = none)
    (hsell : ∀ side, order.leg = some side → order.side ≠ "buy" →
      w.Settled side ∧ order.size ≤ (w.basket.leg side).qty) : (w.goLive order).Booked where
  metas other hother m hm := by
    rcases List.mem_append.mp hother with hold | hnew
    · exact h.metas other hold m hm
    · rw [List.mem_singleton.mp hnew] at hm
      change w.metaOf order.exchangeOrderId = some m at hm
      rw [hmeta] at hm
      cases hm
  fillIds := h.fillIds
  orders f hf := by
    obtain ⟨hpos, known, hknown, hid⟩ := h.orders f hf
    exact ⟨hpos, known, List.mem_append_left _ hknown, hid⟩
  applied := h.applied
  once := h.once
  covered side := by
    rw [unbookedSellQty_goLive]
    split_ifs with hside
    · obtain ⟨hsettled, hsize⟩ := hsell side hside.1 hside.2
      have hzero : w.unbookedSellQty side = 0 := by
        refine List.sum_eq_zero fun q hq => ?_
        obtain ⟨other, hother, rfl⟩ := List.mem_map.mp hq
        exact hsettled other hother
      rw [hzero, zero_add, h.unbookedQty_fresh hfresh]
      exact hsize
    · rw [add_zero]
      exact h.covered side

theorem Booked.placed (h : w.Booked) {row : OrderRow} {orderMeta : OrderMeta}
    (hmatch : ∀ order ∈ w.exchange, order.exchangeOrderId = row.exchangeOrderId →
      order.leg = some orderMeta.legSide ∧ order.side = orderMeta.side)
    (fault : Option CallFault) : (w.placed row orderMeta fault).Booked := by
  cases fault with
  | some fault => cases fault <;> exact ⟨h.metas, h.fillIds, h.orders, h.applied, h.once, h.covered⟩
  | none =>
    refine ⟨fun order horder m hm => ?_, h.fillIds, h.orders, h.applied, h.once, h.covered⟩
    change List.lookup order.exchangeOrderId ((row.exchangeOrderId, orderMeta) :: w.orderMeta) =
      some m at hm
    by_cases hid : order.exchangeOrderId = row.exchangeOrderId
    · rw [hid, List.lookup_cons_self] at hm
      obtain rfl := Option.some.inj hm
      exact hmatch order horder hid
    · rw [List.lookup_cons, beq_false_of_ne hid] at hm
      exact h.metas order horder m hm

theorem Booked.recordKey (h : w.Booked) (eventKey : String) : (w.recordKey eventKey).Booked :=
  ⟨h.metas, h.fillIds, h.orders, h.applied, h.once, h.covered⟩

theorem FreshIds.notLive {r : PlaceReply} (h : w.FreshIds r) {order : LegOrder}
    (horder : order ∈ w.exchange) :
    order.exchangeOrderId ≠ r.exchangeOrderId ∧ order.exchangeOrderId ≠ r.clientOrderId := by
  have hmem := List.mem_map_of_mem (f := LegOrder.exchangeOrderId) horder
  exact ⟨fun hid => (h r.exchangeOrderId (by simp)).1 (hid ▸ hmem),
    fun hid => (h r.clientOrderId (by simp)).1 (hid ▸ hmem)⟩

theorem Booked.sendOrder (h : w.Booked) {legSide : LegSide} {side : String} {size : ℚ}
    {r : PlaceReply} (hfresh : w.FreshIds r)
    (hsell : r.accepted → side ≠ "buy" → w.Settled legSide ∧ size ≤ (w.basket.leg legSide).qty) :
    (w.sendOrder legSide side size r).Booked := by
  unfold LegMarket.sendOrder
  split_ifs with haccepted
  · obtain ⟨hid, hmeta⟩ := hfresh r.exchangeOrderId (by simp)
    refine h.goLive hid hmeta fun leg hleg hside => ?_
    obtain rfl : legSide = leg := Option.some.inj hleg
    exact hsell haccepted hside
  · exact h

theorem mem_sendOrder {legSide : LegSide} {side : String} {size : ℚ} {r : PlaceReply}
    {order : LegOrder} (h : order ∈ (w.sendOrder legSide side size r).exchange) :
    order ∈ w.exchange ∨ order.leg = some legSide ∧ order.side = side := by
  unfold LegMarket.sendOrder at h
  split_ifs at h
  · rcases List.mem_append.mp h with hold | hnew
    · exact .inl hold
    · rw [List.mem_singleton.mp hnew]
      exact .inr ⟨rfl, rfl⟩
  · exact .inl h

theorem Booked.keepOrder {legSide : LegSide} {side intent : String} {price size : ℚ}
    {r : PlaceReply} (hsent : (w.sendOrder legSide side size r).Booked) (hfresh : w.FreshIds r) :
    ((w.sendOrder legSide side size r).keepOrder tradeId legSide side intent price size
      r).2.Booked := by
  refine hsent.placed (fun order horder hid => ?_) r.row
  rcases mem_sendOrder horder with hold | hnew
  · obtain ⟨hexchange, hclient⟩ := hfresh.notLive hold
    change order.exchangeOrderId = if r.named then r.exchangeOrderId else r.clientOrderId at hid
    split_ifs at hid
    · exact absurd hid hexchange
    · exact absurd hid hclient
  · exact hnew

theorem Booked.placeLiveLegOrder (h : w.Booked) (legSide : LegSide) (side intent : String)
    (price size : ℚ) (r : PlaceReply)
    (hsell : side ≠ "buy" → w.SellCovered legSide r ∧ size ≤ (w.basket.leg legSide).qty) :
    (w.placeLiveLegOrder tradeId legSide side intent price size r).2.Booked := by
  unfold LegMarket.placeLiveLegOrder
  split_ifs with hsize hrefused
  · exact h
  · exact h
  all_goals
    obtain ⟨hfresh, hsubmit⟩ := not_or.mp hrefused
    have hfresh := not_not.mp hfresh
    have hsent := h.sendOrder hfresh fun haccepted hside =>
      ⟨(hsell hside).1 hfresh hsubmit haccepted, (hsell hside).2⟩
  · exact hsent
  · exact Booked.keepOrder hsent hfresh

theorem Booked.legTakeProfit (h : w.Booked) {side : LegSide} {price : ℚ} {r : ExitReply}
    (hcovered : w.LegTpCovered tradeId legTpPct side price r) :
    (w.legTakeProfit tradeId legTpPct side price r).2.Booked := by
  unfold LegMarket.legTakeProfit
  split_ifs with htp
  · cases hkey : r.key with
    | some fault =>
      cases fault with
      | refused => exact h
      | lost => exact h.recordKey _
    | none =>
      dsimp only
      split_ifs with hplace
      · have hsell := hcovered htp hkey hplace.1 hplace.2
        exact (h.recordKey _).placeLiveLegOrder _ _ _ _ _ _ fun _ => ⟨hsell, le_refl _⟩
      · exact h.recordKey _
  · exact h

theorem Booked.maybeLiveLegTp (h : w.Booked) {yesPrice noPrice : ℚ} {yes no : ExitReply}
    (hcovered : ExitsCovered tradeId legTpPct w (.maybeLiveLegTp yesPrice noPrice yes no)) :
    (w.maybeLiveLegTp tradeId legTpPct yesPrice noPrice yes no).2.Booked := by
  obtain ⟨hyes, hno⟩ := hcovered
  have hfirst := h.legTakeProfit hyes
  unfold LegMarket.maybeLiveLegTp
  rcases hout : w.legTakeProfit tradeId legTpPct .yes yesPrice yes with ⟨x, w'⟩
  rw [hout] at hfirst hno
  cases x with
  | error e => exact hfirst
  | ok u => exact hfirst.legTakeProfit (hno rfl)

theorem Booked.flattenLeg (h : w.Booked) {side : LegSide} {r : PlaceReply}
    (hcovered : w.FlattenLegCovered side r) (price : ℚ) :
    (w.flattenLeg tradeId side price r).Booked := by
  unfold LegMarket.flattenLeg
  split_ifs with hqty
  · exact h.placeLiveLegOrder _ _ _ _ _ _ fun _ => ⟨hcovered hqty, le_refl _⟩
  · exact h

theorem Booked.flattenBasket (h : w.Booked) {reason : String} {yesPrice noPrice : ℚ}
    {key : Option CallFault} {yes no : PlaceReply}
    (hcovered : ExitsCovered tradeId legTpPct w (.flatten reason yesPrice noPrice key yes no)) :
    (w.flattenBasket tradeId reason yesPrice noPrice key yes no).Booked := by
  unfold LegMarket.flattenBasket
  cases key with
  | some fault =>
    cases fault with
    | refused => exact h
    | lost => exact h.recordKey _
  | none =>
    dsimp only
    split_ifs with hknown
    · exact h.recordKey _
    · obtain ⟨hyes, hno⟩ := hcovered rfl hknown
      exact ((h.recordKey _).flattenLeg hyes yesPrice).flattenLeg hno noPrice

theorem Booked.fillOrder (h : w.Booked) (fill : FillInfo) : (w.fillOrder fill).Booked := by
  unfold LegMarket.fillOrder
  split_ifs with hfill
  · obtain ⟨hpos, hnew, order, horder, hid, -⟩ := hfill
    refine ⟨h.metas, ?_, fun f hf => ?_, fun x hx => ?_, h.once, h.covered⟩
    · rw [List.map_append, List.map_singleton]
      refine List.nodup_append.mpr ⟨h.fillIds, by simp, ?_⟩
      intro a ha b hb hab
      rw [List.mem_singleton.mp hb] at hab
      exact hnew (hab ▸ ha)
    · rcases List.mem_append.mp hf with hold | hlast
      · exact h.orders f hold
      · rw [List.mem_singleton.mp hlast]
        exact ⟨hpos, order, horder, hid⟩
    · obtain ⟨hmem, hseen⟩ := h.applied x hx
      exact ⟨List.mem_append_left _ hmem, hseen⟩
  · exact h

theorem Booked.foreignOrder (h : w.Booked) (orderId side : String) (size : ℚ) :
    (w.foreignOrder orderId side size).Booked := by
  unfold LegMarket.foreignOrder
  split_ifs with hfresh
  · exact h.goLive hfresh.1 hfresh.2 nofun
  · exact h

/-! ### Polls -/

section BookFill
variable {fill : FillInfo} {m : OrderMeta}

def withBooked (w : LegMarket) (fill : FillInfo) (m : OrderMeta) : LegMarket :=
  { w with toLiveFills := w.toLiveFills.bookFill fill m }

theorem unbooked_sum_withBooked (w : LegMarket) (fill : FillInfo) (m : OrderMeta)
    (l : List LegOrder) : (l.map (w.withBooked fill m).unbookedQty).sum =
      (l.map w.unbookedQty).sum -
        (l.map fun order => if fill.orderId = order.exchangeOrderId then fill.size else 0).sum := by
  induction l with
  | nil => simp
  | cons order l ih =>
    have hbooked : (w.withBooked fill m).bookedQty order.exchangeOrderId =
        w.bookedQty order.exchangeOrderId +
          if fill.orderId = order.exchangeOrderId then fill.size else 0 := by
      unfold bookedQty
      rw [← qtyOf_append]
      congr 1
      exact List.map_append
    rw [List.map_cons, List.sum_cons, ih, List.map_cons, List.sum_cons, List.map_cons, List.sum_cons,
      unbookedQty, hbooked, unbookedQty]
    ring

theorem booked_share_nonneg (hpos : 0 ≤ fill.size) (l : List LegOrder) :
    ∀ q ∈ l.map fun order => if fill.orderId = order.exchangeOrderId then fill.size else 0,
      0 ≤ q := by
  intro q hq
  obtain ⟨order, -, rfl⟩ := List.mem_map.mp hq
  split_ifs
  · exact hpos
  · exact le_refl 0

theorem applyFillToLeg_qty_buy {leg : DualLegRuntime} {side : String} (hside : side = "buy")
    (price size : ℚ) : (applyFillToLeg leg side price size false).qty = leg.qty + size := by
  rw [applyFillToLeg, if_pos hside]

theorem applyFillToLeg_qty_sell {leg : DualLegRuntime} {side : String} (hside : side ≠ "buy")
    (price size : ℚ) :
    (applyFillToLeg leg side price size false).qty = max (leg.qty - size) 0 := by
  rw [applyFillToLeg, if_neg hside]

theorem Booked.withBooked (h : w.Booked) (hfill : fill ∈ w.fills)
    (hmeta : w.metaOf fill.orderId = some m) (hseen : fill.fillId ∈ w.seenFillIds)
    (hfresh : fill.fillId ∉ w.appliedIds) : (w.withBooked fill m).Booked := by
  obtain ⟨hpos, order, horder, hid⟩ := h.orders fill hfill
  obtain ⟨hleg, hside⟩ := h.metas order horder m (hid ▸ hmeta)
  refine ⟨h.metas, h.fillIds, h.orders, fun x hx => ?_, ?_, fun side => ?_⟩
  · rcases List.mem_append.mp hx with hold | hnew
    · exact h.applied x hold
    · rw [List.mem_singleton.mp hnew]
      exact ⟨hfill, hseen⟩
  · change ((w.applied ++ [LegFill.mk m fill]).map fun x => x.fill.fillId).Nodup
    rw [List.map_append, List.map_singleton]
    refine List.nodup_append.mpr ⟨h.once, by simp, ?_⟩
    intro a ha b hb hab
    rw [List.mem_singleton.mp hb] at hab
    exact hfresh (hab ▸ ha)
  · have hshare := booked_share_nonneg hpos (w.legSells side)
    have hsum : (w.withBooked fill m).unbookedSellQty side = w.unbookedSellQty side -
        ((w.legSells side).map fun order =>
          if fill.orderId = order.exchangeOrderId then fill.size else 0).sum :=
      unbooked_sum_withBooked w fill m (w.legSells side)
    have hsum0 := List.sum_nonneg hshare
    have hold := h.covered side
    change _ ≤ ((w.basket.modifyLeg m.legSide fun leg =>
      applyFillToLeg leg m.side fill.price fill.size false).leg side).qty
    rw [hsum, DualBasketRuntime.leg_modifyLeg]
    split_ifs with hsame
    · by_cases hbuy : m.side = "buy"
      · rw [applyFillToLeg_qty_buy hbuy, ← hsame]
        linarith
      · have hmem : order ∈ w.legSells side := by
          refine List.mem_filter.mpr ⟨horder, ?_⟩
          simp [hleg, hside, hbuy, hsame]
        have hsize : fill.size ≤ ((w.legSells side).map fun order =>
            if fill.orderId = order.exchangeOrderId then fill.size else 0).sum := by
          refine List.single_le_sum hshare _ (List.mem_map.mpr ⟨order, hmem, ?_⟩)
          rw [if_pos hid.symm]
        rw [applyFillToLeg_qty_sell hbuy, ← hsame]
        refine le_trans ?_ (le_max_left _ _)
        linarith
    · linarith

end BookFill

theorem mem_source {fills : List FillInfo} {id : String}
    (horder : ((source fills).fill id).orderId ≠ "") : (source fills).fill id ∈ fills := by
  unfold source at horder ⊢
  dsimp only at horder ⊢
  cases hfind : fills.find? (·.fillId = id) with
  | none =>
    rw [hfind] at horder
    exact absurd rfl horder
  | some fill => exact List.mem_of_find?_eq_some hfind

theorem Booked.see (h : w.Booked) (id : String) (tables : Tables) :
    LegMarket.Booked { w with toLiveFills := { w.toLiveFills.see id with tables } } where
  metas := h.metas
  fillIds := h.fillIds
  orders := h.orders
  applied x hx := ⟨(h.applied x hx).1, List.mem_append_left _ (h.applied x hx).2⟩
  once := h.once
  covered := h.covered

theorem Booked.processFill (h : w.Booked) (id : String) (r : LegFillReply) :
    LegMarket.Booked
      { w with toLiveFills := (w.toLiveFills.processFill ((source w.fills).fill id) r).2 } := by
  rcases LiveFills.processFill_cases w.toLiveFills ((source w.fills).fill id) r with
    ⟨-, heq⟩ | ⟨⟨-, horder, hfresh⟩, hstep⟩
  · rw [heq]
    exact h
  have hfill := mem_source horder
  generalize (source w.fills).fill id = fill at hfresh hstep hfill ⊢
  generalize w.toLiveFills.processFill fill r = out at hstep ⊢
  cases hstep with
  | dropped hbooks x tables ids => exact h.see fill.fillId tables
  | booked hbooks m hmeta tables ids =>
    refine (h.see fill.fillId tables).withBooked hfill hmeta ?_ ?_
    · exact List.mem_append_right _ (List.mem_singleton_self _)
    · intro hmem
      obtain ⟨x, hx, hid⟩ := List.mem_map.mp hmem
      exact hfresh (hid ▸ (h.applied x hx).2)

theorem Booked.poll (h : w.Booked) (listed : Option (List String)) (replies : List LegFillReply) :
    LegMarket.Booked
      { w with toLiveFills := w.toLiveFills.step (source w.fills) (.poll listed replies) } := by
  cases listed with
  | none => exact h
  | some ids =>
    exact LiveFills.processFills_keeps
      (I := fun s => LegMarket.Booked { w with toLiveFills := s })
      (fun s id r hs => Booked.processFill hs id r) h ids replies

theorem Booked.leveled (h : w.Booked) (side : LegSide) (price : ℚ) :
    LegMarket.Booked { w with toLiveFills := w.toLiveFills.leveled side price } where
  metas := h.metas
  fillIds := h.fillIds
  orders := h.orders
  applied := h.applied
  once := h.once
  covered other := by
    change _ ≤ (DualBasketRuntime.leg (DualBasketRuntime.modifyLeg _ _ _) _).qty
    rw [DualBasketRuntime.leg_modifyLeg]
    split_ifs with hside
    · rw [hside]
      exact h.covered side
    · exact h.covered other

theorem Booked.step (h : w.Booked) (e : ExitEvent) (hcovered : ExitsCovered tradeId legTpPct w e) :
    (w.step tradeId legTpPct e).Booked := by
  cases e with
  | maybeLiveLegTp yesPrice noPrice yes no => exact h.maybeLiveLegTp hcovered
  | flatten reason yesPrice noPrice key yes no => exact h.flattenBasket hcovered
  | buy side intent price size r =>
    exact h.placeLiveLegOrder _ _ _ _ _ _ fun hside => absurd rfl hside
  | leveled side price => exact h.leveled side price
  | poll listed replies => exact h.poll listed replies
  | fillOrder fill => exact h.fillOrder fill
  | foreignOrder orderId side size => exact h.foreignOrder orderId side size

end Steps

/-- A basket without fills and orders, and an exchange without them. -/
def start (yesToken noToken : String) : LegMarket :=
  { basket := ⟨⟨.yes, yesToken, 0, 0, 0, none⟩, ⟨.no, noToken, 0, 0, 0, none⟩⟩ }

theorem booked_start (yesToken noToken : String) : (start yesToken noToken).Booked where
  metas := by simp [start]
  fillIds := by simp [start]
  orders := by simp [start]
  applied := by simp [start]
  once := by simp [start, LiveFills.appliedIds]
  covered side := by cases side <;> simp [start, unbookedSellQty, legSells, DualBasketRuntime.leg]

end LegMarket

/-- In every run whose exits each find the sells of their leg filled and booked, the accepted,
unfilled sells of a leg never exceed its quantity. -/
theorem leg_exits_never_oversell (tradeId : ℤ) (legTpPct : ℚ) (yesToken noToken : String)
    (events : List ExitEvent)
    (hcovered : Runs.EachStep (LegMarket.step tradeId legTpPct)
      (LegMarket.ExitsCovered tradeId legTpPct) (LegMarket.start yesToken noToken) events) :
    Runs.Throughout (LegMarket.step tradeId legTpPct) LegMarket.NoOversell
      (LegMarket.start yesToken noToken) events :=
  Runs.EachStep.throughout (fun _ h => h.noOversell) (fun _ e h hc => h.step e hc)
    (LegMarket.booked_start yesToken noToken) hcovered

/-! ### Two take profits -/

/-- Ten shares are bought and booked. -/
def boughtLeg : List ExitEvent :=
  [.buy .yes "entry" (1 / 2) 10 { exchangeOrderId := "b", clientOrderId := "cb" },
    .fillOrder { fillId := "f", orderId := "b", price := 1 / 2, size := 10 },
    .poll (some ["f"]) []]

/-- A look at the take profit of the first leg at a price. -/
def takeProfitAt (price : ℚ) (id : String) : ExitEvent :=
  .maybeLiveLegTp price (1 - price) { place := { exchangeOrderId := id, clientOrderId := "c" ++ id } }
    { place := { exchangeOrderId := id ++ "n", clientOrderId := "c" ++ id ++ "n" } }

/-- The leg is sold at its take profit, the fill is booked, and the basket is flattened. -/
theorem leg_sold_once :
    Runs.Throughout (LegMarket.step 7 (1 / 10)) LegMarket.NoOversell (LegMarket.start "y" "n")
      (boughtLeg ++ [takeProfitAt (3 / 5) "s",
        .fillOrder { fillId := "g", orderId := "s", price := 3 / 5, size := 10 },
        .poll (some ["f", "g"]) [], takeProfitAt (31 / 50) "t"]) :=
  leg_exits_never_oversell 7 (1 / 10) "y" "n" _ (by decide +kernel)

/-- Two looks at different prices sell the leg twice. -/
theorem leg_sold_twice :
    ¬ Runs.Throughout (LegMarket.step 7 (1 / 10)) LegMarket.NoOversell (LegMarket.start "y" "n")
      (boughtLeg ++ [takeProfitAt (3 / 5) "s", takeProfitAt (31 / 50) "t"]) := by
  intro hall
  have hyes := hall 5 .yes
  revert hyes
  decide +kernel

end PolymarketBot.DualSide
