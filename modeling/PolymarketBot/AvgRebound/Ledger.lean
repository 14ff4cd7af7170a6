import PolymarketBot.AvgRebound.Purchases
import PolymarketBot.Builder.Order

/-! The orders of a session and the fills recorded for them: what holds of them while no order is
placed before the earlier ones are settled. -/

namespace PolymarketBot.AvgRebound
open Builder

/-- What has become of an order on the exchange. -/
inductive Outcome where
  | working
  | unfilled
  | bought (average : ℚ)
deriving DecidableEq

structure AvgReboundOrder where
  decision : AvgReboundDecision
  status : OrderStatus := .pending
  outcome : Outcome := .working

/-- The orders by their ids, and the rows of the fills table with the orders they are of. -/
structure Ledger where
  orders : List AvgReboundOrder := []
  fills : List (ℕ × Fill) := []

namespace AvgReboundOrder

def isBought (order : AvgReboundOrder) : Bool :=
  match order.outcome with
  | .bought _ => true
  | _ => false

/-- The exchange fills the order in full, within its limit. -/
def trade (average : ℚ) (order : AvgReboundOrder) : AvgReboundOrder :=
  if order.outcome = .working ∧ 0 ≤ average ∧ average ≤ order.decision.limitPrice then
    { order with outcome := .bought average }
  else order

/-- The exchange ends the order without a fill. -/
def kill (order : AvgReboundOrder) : AvgReboundOrder :=
  if order.outcome = .working then { order with outcome := .unfilled } else order

def setStatus (status : OrderStatus) (order : AvgReboundOrder) : AvgReboundOrder :=
  { order with status }

/-- A later version of the order. -/
structure Advances (order order' : AvgReboundOrder) : Prop where
  decision : order'.decision = order.decision
  outcome : order.outcome ≠ .working → order'.outcome = order.outcome

theorem Advances.refl (order : AvgReboundOrder) : order.Advances order := ⟨rfl, fun _ => rfl⟩

theorem trade_advances (average : ℚ) (order : AvgReboundOrder) :
    order.Advances (order.trade average) := by
  unfold trade
  split_ifs with hworking
  · exact ⟨rfl, fun hne => absurd hworking.1 hne⟩
  · exact .refl order

theorem kill_advances (order : AvgReboundOrder) : order.Advances order.kill := by
  unfold kill
  split_ifs with hworking
  · exact ⟨rfl, fun hne => absurd hworking hne⟩
  · exact .refl order

theorem setStatus_advances (status : OrderStatus) (order : AvgReboundOrder) :
    order.Advances (order.setStatus status) := ⟨rfl, fun _ => rfl⟩

end AvgReboundOrder

namespace Ledger
variable (L : Ledger)

def recorded : List Fill := L.fills.map Prod.snd

def place (decision : AvgReboundDecision) : Ledger :=
  { L with orders := L.orders ++ [{ decision }] }

def update (n : ℕ) (f : AvgReboundOrder → AvgReboundOrder) : Ledger :=
  { L with orders := L.orders.modify n f }

/-- `ON CONFLICT (builder_order_id) DO NOTHING` -/
def insertFill (n : ℕ) (fill : Fill) : Ledger :=
  if n ∈ L.fills.map Prod.fst then L else { L with fills := L.fills ++ [(n, fill)] }

/-- The fill of the order is recorded, or it has ended without one. -/
def settled (n : ℕ) : Bool :=
  (L.orders[n]?).all fun order => order.outcome = .unfilled || n ∈ L.fills.map Prod.fst

def AllSettled : Prop := ∀ n, L.settled n = true

end Ledger

/-- The recorded rows are in order, and at most one order is open or waits for its row. -/
structure LedgerOk (sessionId : ℤ) (L : Ledger) : Prop where
  recorded : RecordedOk L.recorded
  session : ∀ order ∈ L.orders, order.decision.sessionId = sessionId
  rows : ∀ row ∈ L.fills, ∃ order average, L.orders[row.1]? = some order ∧
    order.outcome = .bought average ∧ row.2 = orderFill order.decision average
  ids : (L.fills.map Prod.fst).Nodup
  one : ∀ n m, L.settled n = false → L.settled m = false → n = m
  fits : ∀ n order, L.orders[n]? = some order → L.settled n = false →
    Fits L.recorded order.decision

section Steps
variable {sessionId : ℤ} {L : Ledger}

theorem LedgerOk.nil : LedgerOk sessionId {} where
  recorded := .nil
  session _ h := absurd h List.not_mem_nil
  rows _ h := absurd h List.not_mem_nil
  ids := List.nodup_nil
  one _ _ h := Bool.noConfusion h
  fits _ _ h := by cases h

theorem Ledger.settled_eq_false {n : ℕ} : L.settled n = false ↔
    ∃ order, L.orders[n]? = some order ∧ order.outcome ≠ .unfilled ∧
      n ∉ L.fills.map Prod.fst := by
  unfold settled
  cases L.orders[n]? with
  | none => simp
  | some order => simp

theorem Ledger.lookup_update {n m : ℕ} {f : AvgReboundOrder → AvgReboundOrder}
    (hf : ∀ order : AvgReboundOrder, order.Advances (f order)) {order : AvgReboundOrder}
    (h : L.orders[m]? = some order) :
    ∃ order', (L.update n f).orders[m]? = some order' ∧ order.Advances order' := by
  refine ⟨_, (List.getElem?_modify f n L.orders m).trans (congrArg _ h), ?_⟩
  by_cases heq : n = m
  · simpa only [if_pos heq] using hf order
  · simpa only [if_neg heq] using AvgReboundOrder.Advances.refl order

theorem Ledger.lookup_of_update {n m : ℕ} {f : AvgReboundOrder → AvgReboundOrder}
    (hf : ∀ order : AvgReboundOrder, order.Advances (f order)) {order' : AvgReboundOrder}
    (h : (L.update n f).orders[m]? = some order') :
    ∃ order, L.orders[m]? = some order ∧ order.Advances order' := by
  cases hold : L.orders[m]? with
  | none =>
    have hnone : (L.update n f).orders[m]? = none :=
      (List.getElem?_modify f n L.orders m).trans (congrArg _ hold)
    rw [hnone] at h
    cases h
  | some order =>
    obtain ⟨order'', hlookup, hadvances⟩ := lookup_update (n := n) hf hold
    obtain rfl := Option.some.inj (hlookup.symm.trans h)
    exact ⟨order, rfl, hadvances⟩

theorem Ledger.settled_update {n m : ℕ} {f : AvgReboundOrder → AvgReboundOrder}
    (hf : ∀ order : AvgReboundOrder, order.Advances (f order))
    (h : (L.update n f).settled m = false) : L.settled m = false := by
  obtain ⟨order', hlookup', hfilled', hrow⟩ := settled_eq_false.mp h
  obtain ⟨order, hlookup, hadvances⟩ := lookup_of_update hf hlookup'
  refine settled_eq_false.mpr ⟨order, hlookup, fun hunfilled => hfilled' ?_, hrow⟩
  rw [hadvances.outcome (by rw [hunfilled]; simp), hunfilled]

theorem LedgerOk.update (h : LedgerOk sessionId L) (n : ℕ) {f : AvgReboundOrder → AvgReboundOrder}
    (hf : ∀ order : AvgReboundOrder, order.Advances (f order)) :
    LedgerOk sessionId (L.update n f) where
  recorded := h.recorded
  session order' horder := by
    obtain ⟨m, hm⟩ := List.mem_iff_getElem?.mp horder
    obtain ⟨order, hlookup, hadvances⟩ := Ledger.lookup_of_update hf hm
    rw [hadvances.decision]
    exact h.session order (List.mem_of_getElem? hlookup)
  rows row hrow := by
    obtain ⟨order, average, hlookup, hbought, hfill⟩ := h.rows row hrow
    obtain ⟨order', hlookup', hadvances⟩ := Ledger.lookup_update (n := n) hf hlookup
    refine ⟨order', average, hlookup', ?_, ?_⟩
    · rw [hadvances.outcome (by rw [hbought]; simp), hbought]
    · rw [hadvances.decision, hfill]
  ids := h.ids
  one i j hi hj := h.one i j (Ledger.settled_update hf hi) (Ledger.settled_update hf hj)
  fits m order' hlookup' hm := by
    obtain ⟨order, hlookup, hadvances⟩ := Ledger.lookup_of_update hf hlookup'
    rw [hadvances.decision]
    exact h.fits m order hlookup (Ledger.settled_update hf hm)

theorem LedgerOk.allSettled (h : LedgerOk sessionId L) (hcomplete : Complete L.recorded) :
    L.AllSettled := by
  intro n
  cases hn : L.settled n with
  | true => rfl
  | false =>
    obtain ⟨order, hlookup, -⟩ := Ledger.settled_eq_false.mp hn
    exact absurd hcomplete (h.fits n order hlookup hn).opened

theorem LedgerOk.place (h : LedgerOk sessionId L) (hsettled : L.AllSettled)
    {decision : AvgReboundDecision} (hsession : decision.sessionId = sessionId)
    (hfits : Fits L.recorded decision) : LedgerOk sessionId (L.place decision) := by
  have hnew : ∀ n order, (L.place decision).orders[n]? = some order →
      (L.place decision).settled n = false → n = L.orders.length ∧ order = { decision } := by
    intro n order hlookup hn
    obtain hlt | hge := lt_or_ge n L.orders.length
    · have hsame : (L.place decision).settled n = L.settled n := by
        unfold Ledger.settled
        rw [Ledger.place, List.getElem?_append_left hlt]
      rw [hsame, hsettled n] at hn
      cases hn
    · change (L.orders ++ [({ decision } : AvgReboundOrder)])[n]? = some order at hlookup
      rw [List.getElem?_append_right hge] at hlookup
      have hzero : n - L.orders.length = 0 := by
        have hbound := (List.getElem?_eq_some_iff.mp hlookup).1
        simpa using hbound
      rw [hzero] at hlookup
      exact ⟨by omega, (Option.some.inj hlookup).symm⟩
  refine ⟨h.recorded, fun order horder => ?_, fun row hrow => ?_, h.ids, fun n m hn hm => ?_,
    fun n order hlookup hn => ?_⟩
  · obtain hold | hlast := List.mem_append.mp horder
    · exact h.session order hold
    · obtain rfl := List.mem_singleton.mp hlast
      exact hsession
  · obtain ⟨order, average, hlookup, hrest⟩ := h.rows row hrow
    have hlt := (List.getElem?_eq_some_iff.mp hlookup).1
    exact ⟨order, average, (List.getElem?_append_left hlt).trans hlookup, hrest⟩
  · obtain ⟨order, hlookup, -⟩ := Ledger.settled_eq_false.mp hn
    obtain ⟨order', hlookup', -⟩ := Ledger.settled_eq_false.mp hm
    exact (hnew n order hlookup hn).1.trans (hnew m order' hlookup' hm).1.symm
  · obtain ⟨-, rfl⟩ := hnew n order hlookup hn
    exact hfits

theorem Ledger.insertFill_of_settled {n : ℕ} {order : AvgReboundOrder} {average : ℚ}
    (hlookup : L.orders[n]? = some order) (hbought : order.outcome = .bought average)
    (hsettled : L.settled n = true) (fill : Fill) : L.insertFill n fill = L := by
  by_cases hrow : n ∈ L.fills.map Prod.fst
  · rw [insertFill, if_pos hrow]
  · have hopen : L.settled n = false :=
      settled_eq_false.mpr ⟨order, hlookup, by rw [hbought]; simp, hrow⟩
    rw [hopen] at hsettled
    cases hsettled

@[simp] theorem Ledger.insertFill_orders (n : ℕ) (fill : Fill) :
    (L.insertFill n fill).orders = L.orders := by
  unfold insertFill
  split_ifs <;> rfl

theorem Ledger.settled_insertFill {n m : ℕ} {fill : Fill}
    (h : (L.insertFill n fill).settled m = false) : L.settled m = false := by
  obtain ⟨order, hlookup, hfilled, hrow⟩ := settled_eq_false.mp h
  rw [insertFill_orders] at hlookup
  refine settled_eq_false.mpr ⟨order, hlookup, hfilled, fun hold => hrow ?_⟩
  unfold insertFill
  split_ifs
  · exact hold
  · rw [List.map_append]
    exact List.mem_append_left _ hold

theorem LedgerOk.insertFill (h : LedgerOk sessionId L) {n : ℕ} {order : AvgReboundOrder}
    {average : ℚ} (hlookup : L.orders[n]? = some order)
    (hbought : order.outcome = .bought average) :
    LedgerOk sessionId (L.insertFill n (orderFill order.decision average)) := by
  by_cases hrow : n ∈ L.fills.map Prod.fst
  · rw [Ledger.insertFill, if_pos hrow]
    exact h
  have hopen : L.settled n = false :=
    Ledger.settled_eq_false.mpr ⟨order, hlookup, by rw [hbought]; simp, hrow⟩
  have hfits := h.fits n order hlookup hopen
  -- the order was the only one that was not settled
  have hall : ∀ m, (L.insertFill n (orderFill order.decision average)).settled m = true := by
    intro m
    cases hm : (L.insertFill n (orderFill order.decision average)).settled m with
    | true => rfl
    | false =>
      obtain rfl := h.one n m hopen (Ledger.settled_insertFill hm)
      obtain ⟨-, -, -, hmissing⟩ := Ledger.settled_eq_false.mp hm
      rw [Ledger.insertFill, if_neg hrow, List.map_append] at hmissing
      exact absurd (List.mem_append_right _ (List.mem_singleton_self _)) hmissing
  have hnone : ∀ {m}, (L.insertFill n (orderFill order.decision average)).settled m ≠ false := by
    intro m hm
    rw [hall m] at hm
    cases hm
  have hinsert : L.insertFill n (orderFill order.decision average) =
      { L with fills := L.fills ++ [(n, orderFill order.decision average)] } := by
    rw [Ledger.insertFill, if_neg hrow]
  refine ⟨?_, ?_, ?_, ?_, fun _ _ hm _ => absurd hm hnone, fun _ _ _ hm => absurd hm hnone⟩
  · rw [hinsert, Ledger.recorded, List.map_append]
    exact hfits.record h.recorded average
  · rw [hinsert]
    exact h.session
  · rw [hinsert]
    intro row hmem
    obtain hold | hnew := List.mem_append.mp hmem
    · exact h.rows row hold
    · obtain rfl := List.mem_singleton.mp hnew
      exact ⟨order, average, hlookup, hbought, rfl⟩
  · rw [hinsert, List.map_append]
    refine List.Nodup.append h.ids (List.nodup_singleton _) fun m hm hnew => hrow ?_
    obtain rfl := List.mem_singleton.mp hnew
    exact hm

/-- What others may go by: nothing is recorded once all is settled, and what is bought stays. -/
structure Ledger.Grows (L L' : Ledger) : Prop where
  recorded : L.AllSettled → L'.recorded = L.recorded
  lookup : ∀ (n : ℕ) (order : AvgReboundOrder), L.orders[n]? = some order →
    ∃ order', L'.orders[n]? = some order' ∧ order.Advances order'

/-- No order is added either, and what is settled stays so. -/
structure Ledger.Follows (L L' : Ledger) : Prop extends Ledger.Grows L L' where
  length : L'.orders.length = L.orders.length
  settled : L.AllSettled → L'.AllSettled

theorem Ledger.Follows.refl (L : Ledger) : L.Follows L where
  recorded _ := rfl
  lookup _ order h := ⟨order, h, .refl order⟩
  length := rfl
  settled h := h

theorem Ledger.place_grows (L : Ledger) (decision : AvgReboundDecision) :
    L.Grows (L.place decision) where
  recorded _ := rfl
  lookup _ order h :=
    ⟨order, (List.getElem?_append_left (List.getElem?_eq_some_iff.mp h).1).trans h, .refl order⟩

theorem Ledger.update_follows (L : Ledger) (n : ℕ) {f : AvgReboundOrder → AvgReboundOrder}
    (hf : ∀ order : AvgReboundOrder, order.Advances (f order)) : L.Follows (L.update n f) where
  recorded _ := rfl
  lookup _ _ h := lookup_update hf h
  length := List.length_modify ..
  settled h m := by
    cases hm : (L.update n f).settled m with
    | true => rfl
    | false => exact (settled_update hf hm).symm.trans (h m)

theorem Ledger.insertFill_follows {n : ℕ} {order : AvgReboundOrder} {average : ℚ}
    (hlookup : L.orders[n]? = some order) (hbought : order.outcome = .bought average)
    (fill : Fill) : L.Follows (L.insertFill n fill) := by
  have hsame : L.AllSettled → L.insertFill n fill = L := fun h =>
    insertFill_of_settled hlookup hbought (h n) fill
  refine ⟨⟨fun h => by rw [hsame h], fun m order' h => ⟨order', ?_, .refl order'⟩⟩, ?_, fun h => ?_⟩
  · rw [insertFill_orders]
    exact h
  · rw [insertFill_orders]
  · rw [hsame h]
    exact h

theorem LedgerOk.row_of (h : LedgerOk sessionId L) {n : ℕ} {order : AvgReboundOrder}
    (hlookup : L.orders[n]? = some order) (hrow : n ∈ L.fills.map Prod.fst) :
    ∃ row ∈ L.fills, row.1 = n ∧ row.2.key = order.decision.key := by
  obtain ⟨row, hmem, rfl⟩ := List.mem_map.mp hrow
  obtain ⟨order', average, hlookup', -, hfill⟩ := h.rows row hmem
  obtain rfl := Option.some.inj (hlookup.symm.trans hlookup')
  exact ⟨row, hmem, rfl, by rw [hfill]; rfl⟩

theorem LedgerOk.key_new (h : LedgerOk sessionId L) {n m : ℕ} {order order' : AvgReboundOrder}
    (hlookup : L.orders[n]? = some order) (hopen : L.settled n = false)
    (hlookup' : L.orders[m]? = some order') (hrow : m ∈ L.fills.map Prod.fst) :
    order'.decision.key ≠ order.decision.key := by
  obtain ⟨row, hmem, -, hkey⟩ := h.row_of hlookup' hrow
  intro hsame
  refine (h.fits n order hlookup hopen).key ?_
  rw [← hsame, ← hkey]
  exact List.mem_map_of_mem (List.mem_map_of_mem hmem)

theorem LedgerOk.recorded_session (h : LedgerOk sessionId L) {fill : Fill}
    (hfill : fill ∈ L.recorded) : fill.sessionId = sessionId := by
  obtain ⟨row, hrow, rfl⟩ := List.mem_map.mp hfill
  obtain ⟨order, average, hlookup, -, hrecorded⟩ := h.rows row hrow
  rw [hrecorded]
  exact h.session order (List.mem_of_getElem? hlookup)

theorem AvgReboundOrder.outcome_of_isBought {order : AvgReboundOrder}
    (h : order.isBought = true) : order.outcome ≠ .unfilled := by
  intro hunfilled
  rw [isBought, hunfilled] at h
  cases h

theorem LedgerOk.bought_once (h : LedgerOk sessionId L) :
    L.orders.Pairwise fun order order' =>
      order.isBought = true → order'.isBought = true →
        order.decision.key ≠ order'.decision.key := by
  refine List.pairwise_iff_getElem.mpr fun n m hn hm hlt hbought hbought' hkey => ?_
  have hlookup : L.orders[n]? = some L.orders[n] := List.getElem?_eq_getElem hn
  have hlookup' : L.orders[m]? = some L.orders[m] := List.getElem?_eq_getElem hm
  have hfilled := AvgReboundOrder.outcome_of_isBought hbought
  have hfilled' := AvgReboundOrder.outcome_of_isBought hbought'
  by_cases hrow : n ∈ L.fills.map Prod.fst
  · by_cases hrow' : m ∈ L.fills.map Prod.fst
    · obtain ⟨row, hmem, hid, hrowKey⟩ := h.row_of hlookup hrow
      obtain ⟨row', hmem', hid', hrowKey'⟩ := h.row_of hlookup' hrow'
      have hkeys : (L.fills.map fun row => row.2.key).Nodup := by
        simpa [Ledger.recorded, Function.comp_def] using h.recorded.keys
      have hsame : row.2.key = row'.2.key := hrowKey.trans (hkey.trans hrowKey'.symm)
      have hrows := List.inj_on_of_nodup_map hkeys hmem hmem' hsame
      rw [← hid, ← hid', hrows] at hlt
      exact lt_irrefl _ hlt
    · have hopen := Ledger.settled_eq_false.mpr ⟨_, hlookup', hfilled', hrow'⟩
      exact h.key_new hlookup' hopen hlookup hrow hkey
  · have hopen := Ledger.settled_eq_false.mpr ⟨_, hlookup, hfilled, hrow⟩
    by_cases hrow' : m ∈ L.fills.map Prod.fst
    · exact h.key_new hlookup hopen hlookup' hrow' hkey.symm
    · exact hlt.ne (h.one n m hopen (Ledger.settled_eq_false.mpr ⟨_, hlookup', hfilled', hrow'⟩))

end Steps

end PolymarketBot.AvgRebound
