import Mathlib.Algebra.Order.BigOperators.Group.List
import PolymarketBot.Builder.Siblings

/-! A chain of replacements against the target of its first order: what the exchange orders
of one trigger fill together, and which passes keep that within the target. -/

namespace PolymarketBot.Builder
open Lib Prog

/-- The reconcile of an active exchange order at the runtime price. -/
def reconcileRead (order : TradeBuilderOrder) : Job Unit := do
  match order.activeExchangeOrderId, ← Job.run .runtimePrice with
  | some exchangeOrderId, some price =>
    reconcileTradeBuilderOpenOrder order exchangeOrderId price.price price.bestAsk
  | _, _ => pure ()

/-- A pass of the reconcile over the row it reads; its error is logged. -/
def reconcilePass : Job Unit := Job.ignore do
  reconcileRead (← Job.run .getOrder)

/-- What a quantity at a price counts in the unit a builder order is sized in. -/
def worth (basis : SizeBasis) (price qty : ℚ) : ℚ :=
  match basis with
  | .shares => qty
  | .notionalUsdc => qty * price

def traded (basis : SizeBasis) (es : List ExchangeOrder) : ℚ :=
  (es.map fun e => worth basis e.price e.filled).sum

/-- What an exchange order may still come to: its size while it is live, or while a pass
works with it as its open order. -/
def ExchangeOrder.committed (e : ExchangeOrder) (basis : SizeBasis) (id : Option ℕ) : ℚ :=
  worth basis e.price (if e.isLive = true ∨ some e.id = id then e.size else e.filled)

def committed (basis : SizeBasis) (id : Option ℕ) (es : List ExchangeOrder) : ℚ :=
  (es.map fun e => e.committed basis id).sum

def ExchangeOrder.open (e : ExchangeOrder) : ℚ := e.size - e.filled

/-- The size of a new order at `price` for what is open of an exchange order. -/
def ExchangeOrder.roundedOpen (e : ExchangeOrder) (basis : SizeBasis) (price : ℚ) : ℚ :=
  match basis with
  | .shares => roundTradeBuilderShareQty e.open
  | .notionalUsdc => calcLevelSize (max (roundTradeBuilderShareQty e.open * e.price) 0) price

/-- A status that says what the exchange order is sized and filled at, and for an order sized
in notional also its price. -/
structure Reports (basis : SizeBasis) (info : OrderInfo) (e : ExchangeOrder) : Prop where
  size : info.size = some e.size
  filled : info.filledSize = some e.filled
  price : basis = .notionalUsdc → info.price = some e.price

/-- The condition on one call of a reconcile pass over an order sized in `basis`. -/
structure ReplaceOk (basis : SizeBasis) (c : Call) (w : World) (r : AmongReply) : Prop where
  sizedIn : c = .getOrder → (r.arrive w).order.sizeBasis = basis
  /-- The status read before the cancel of the replaced order says what that order came to in
  the end, and rounding what is open of it to the new order adds nothing. -/
  replaced : ∀ request n info, c = .place request →
    (r.arrive w).statusRead = some (n, info) → ∀ e ∈ (r.arrive w).exchange, e.id = n →
      Reports basis info e ∧
        worth basis request.price (e.roundedOpen basis request.price) ≤ worth basis e.price e.open
  /-- An order that is reported open is live. -/
  reported : ∀ n e, c = .status n → (r.arrive w).exchangeOrder n = some e →
    (e.info r.reply).status = .opened ∨ (e.info r.reply).status = .partiallyFilled →
      e.isLive = true
  /-- A cancel that is acknowledged has ended its order. -/
  canceled : ∀ n, c = .cancel n → r.reply.notCanceled = true → Stopped (r.arrive w) (some n)

def ReplaceTurn (basis : SizeBasis) (w : World) : AmongPass → Prop
  | .pass p replies => p = reconcilePass ∧ Meets actAmong (ReplaceOk basis) p replies w
  | .environment _ => True

/-- No exchange order is filled beyond its size, and ids are unique. -/
structure Sized (w : World) : Prop where
  ids : w.IdsOk
  bounded : ∀ e ∈ w.exchange, e.filled ≤ e.size
  price : ∀ e ∈ w.exchange, 0 ≤ e.price

section Worth
variable {basis : SizeBasis} {id : Option ℕ} {e e' : ExchangeOrder}

theorem worth_mono {price q q' : ℚ} (hp : 0 ≤ price) (h : q ≤ q') :
    worth basis price q ≤ worth basis price q' := by
  cases basis with
  | shares => exact h
  | notionalUsdc => exact mul_le_mul_of_nonneg_right h hp

theorem worth_add (price q q' : ℚ) :
    worth basis price (q + q') = worth basis price q + worth basis price q' := by
  cases basis with
  | shares => rfl
  | notionalUsdc => exact add_mul q q' price

theorem committed_evolves (h : e.Evolves e') (hb : e.filled ≤ e.size) (hp : 0 ≤ e.price) :
    e'.committed basis id ≤ e.committed basis id := by
  rw [ExchangeOrder.committed, ExchangeOrder.committed, h.price, h.id, h.size]
  refine worth_mono hp ?_
  by_cases hc : e.isLive = true ∨ some e.id = id
  · rw [if_pos hc]
    by_cases hc' : e'.isLive = true ∨ some e.id = id
    · rw [if_pos hc']
    · rw [if_neg hc', ← h.size]
      exact h.bounded hb
  · have hl : e.isLive = false := by
      simpa using fun hl => hc (.inl hl)
    rw [h.frozen hl]

theorem traded_le_committed (hb : e.filled ≤ e.size) (hp : 0 ≤ e.price) :
    worth basis e.price e.filled ≤ e.committed basis id := by
  refine worth_mono hp ?_
  by_cases hc : e.isLive = true ∨ some e.id = id
  · rw [if_pos hc]
    exact hb
  · rw [if_neg hc]

theorem committed_none_le (hb : e.filled ≤ e.size) (hp : 0 ≤ e.price) :
    e.committed basis none ≤ e.committed basis id := by
  refine worth_mono hp ?_
  by_cases hl : e.isLive = true
  · simp [hl]
  · by_cases hid : some e.id = id
    · subst hid
      simpa [hl] using hb
    · simp [hl, hid]

theorem committed_open (hl : e.isLive = false) (hid : some e.id = id) :
    e.committed basis none + worth basis e.price e.open = e.committed basis id := by
  subst hid
  rw [ExchangeOrder.committed, ExchangeOrder.committed, ← worth_add, ExchangeOrder.open]
  simp [hl]

end Worth

section Sums
variable {basis : SizeBasis} {id : Option ℕ} {es es' : List ExchangeOrder}

theorem committed_forall₂ (h : List.Forall₂ ExchangeOrder.Evolves es es')
    (hb : ∀ e ∈ es, e.filled ≤ e.size) (hp : ∀ e ∈ es, 0 ≤ e.price) :
    committed basis id es' ≤ committed basis id es := by
  induction h with
  | nil => exact le_refl _
  | cons he _ ih =>
    simp only [List.forall_mem_cons] at hb hp
    simp only [committed, List.map_cons, List.sum_cons] at ih ⊢
    exact add_le_add (committed_evolves he hb.1 hp.1) (ih hb.2 hp.2)

theorem sum_traded_le (hb : ∀ e ∈ es, e.filled ≤ e.size) (hp : ∀ e ∈ es, 0 ≤ e.price) :
    traded basis es ≤ committed basis id es :=
  List.sum_le_sum fun e he => traded_le_committed (hb e he) (hp e he)

theorem sum_committed_none_le (hb : ∀ e ∈ es, e.filled ≤ e.size) (hp : ∀ e ∈ es, 0 ≤ e.price) :
    committed basis none es ≤ committed basis id es :=
  List.sum_le_sum fun e he => committed_none_le (hb e he) (hp e he)

theorem committed_add_open (hb : ∀ e ∈ es, e.filled ≤ e.size) (hp : ∀ e ∈ es, 0 ≤ e.price)
    {e : ExchangeOrder} (he : e ∈ es) (hl : e.isLive = false) (hid : some e.id = id) :
    committed basis none es + worth basis e.price e.open ≤ committed basis id es := by
  induction es with
  | nil => cases he
  | cons a as ih =>
    simp only [List.forall_mem_cons] at hb hp
    simp only [committed, List.map_cons, List.sum_cons] at ih ⊢
    rcases List.mem_cons.mp he with rfl | he
    · have hrest : committed basis none as ≤ committed basis id as :=
        sum_committed_none_le hb.2 hp.2
      have hhead : e.committed basis none + worth basis e.price e.open = e.committed basis id :=
        committed_open hl hid
      simp only [committed] at hrest
      linarith
    · have hhead : a.committed basis none ≤ a.committed basis id := committed_none_le hb.1 hp.1
      have htail := ih hb.2 hp.2 he
      linarith

theorem traded_append (es es' : List ExchangeOrder) :
    traded basis (es ++ es') = traded basis es + traded basis es' := by
  simp [traded]

theorem committed_append (es es' : List ExchangeOrder) :
    committed basis id (es ++ es') = committed basis id es + committed basis id es' := by
  simp [committed]

theorem committed_dead (hdead : ∀ e ∈ es, e.isLive = false) :
    committed basis none es = traded basis es := by
  refine congrArg List.sum (List.map_congr_left fun e he => ?_)
  simp [ExchangeOrder.committed, hdead e he]

theorem frozen_append {dead rest : List ExchangeOrder} (hdead : ∀ e ∈ dead, e.isLive = false)
    (h : List.Forall₂ ExchangeOrder.Evolves (dead ++ rest) es') :
    ∃ rest', es' = dead ++ rest' := by
  induction dead generalizing es' with
  | nil => exact ⟨es', rfl⟩
  | cons a as ih =>
    cases h with
    | cons ha has =>
      simp only [List.forall_mem_cons] at hdead
      obtain ⟨rest', rfl⟩ := ih hdead.2 has
      exact ⟨rest', by rw [ha.frozen hdead.1]; rfl⟩

end Sums

/-- The exchange orders come to at most `target` more than the earlier ones, which are over.
The order `id` counts with its full size. -/
structure Within (basis : SizeBasis) (earlier : List ExchangeOrder) (target : ℚ) (id : Option ℕ)
    (w : World) : Prop where
  sized : Sized w
  frozen : ∃ rest, w.exchange = earlier ++ rest
  within : committed basis id w.exchange ≤ traded basis earlier + target

/-- A pass has read that order `n` is open. -/
structure Working (basis : SizeBasis) (earlier : List ExchangeOrder) (target : ℚ) (n : ℕ)
    (info : OrderInfo) (w : World) : Prop where
  within : Within basis earlier target (some n) w
  read : w.statusRead = some (n, info)

theorem Sized.evolves {w w' : World} (h : Sized w)
    (he : List.Forall₂ ExchangeOrder.Evolves w.exchange w'.exchange) : Sized w' := by
  refine ⟨?_, fun e hmem => ?_, fun e hmem => ?_⟩
  · rw [World.IdsOk, exchange_ids he, ← he.length_eq]
    exact h.ids
  · obtain ⟨e', hmem', hev⟩ := evolves_of_mem he hmem
    exact hev.bounded (h.bounded e' hmem')
  · obtain ⟨e', hmem', hev⟩ := evolves_of_mem he hmem
    rw [hev.price]
    exact h.price e' hmem'

theorem arrive_statusRead (r : Reply) (w : World) : (r.arrive w).statusRead = w.statusRead := by
  rw [Reply.arrive]
  induction r.before generalizing w with
  | nil => rfl
  | cons o os ih =>
    rw [List.foldl_cons, ih]
    cases o <;> rfl

theorem act_statusRead {c : Call} (hc : ∀ n, c ≠ .status n) (w : World) (r : Reply) :
    (act c w r).2.statusRead = w.statusRead := by
  rw [← arrive_statusRead r w]
  cases hf : r.fails with
  | some f => simp [act, hf]
  | none =>
    cases c with
    | status n => exact absurd rfl (hc n)
    | cancel n =>
      simp only [act, hf]
      have hanswer := answer_cancel n (r.arrive w) r
      generalize answer (.cancel n) (r.arrive w) r = x at hanswer ⊢
      cases hanswer <;> rfl
    | _ => simp [act, hf, answer]

theorem disturb_statusRead (r : AmongReply) (w : World) :
    (r.disturb w).statusRead = w.statusRead := by
  refine r.disturb_keeps (I := fun w' => w'.statusRead = w.statusRead) (fun w' i h => ?_) rfl
  cases i with
  | outside o => exact (arrive_statusRead { before := [o] } w').trans h
  | sibling write =>
    simp only [Interference.step]
    split
    · exact h
    · exact h

theorem actAmong_statusRead {c : Call} (hc : ∀ n, c ≠ .status n) (w : World) (r : AmongReply) :
    (actAmong c w r).2.statusRead = w.statusRead :=
  (act_statusRead hc (r.disturb w) r.reply).trans (disturb_statusRead r w)

section Sizes
variable {order : TradeBuilderOrder} {info : OrderInfo} {basis : SizeBasis}

theorem replaceSize_reports {e : ExchangeOrder} (hb : order.sizeBasis = basis)
    (h : Reports basis info e) (current desired : ℚ) :
    replaceSize order (estimateRemainingTradeBuilderSizing order info current) desired =
      e.roundedOpen basis desired := by
  subst hb
  cases hs : order.sizeBasis with
  | shares =>
    simp [replaceSize, estimateRemainingTradeBuilderSizing, h.size, h.filled, hs,
      ExchangeOrder.roundedOpen, roundTradeBuilderShareQty_max, ExchangeOrder.open]
  | notionalUsdc =>
    simp [replaceSize, estimateRemainingTradeBuilderSizing, h.size, h.filled, h.price hs, hs,
      ExchangeOrder.roundedOpen, roundTradeBuilderShareQty_max, ExchangeOrder.open]

theorem replaceSize_rounded (hs : order.sizeBasis = .shares) (current desired : ℚ) :
    roundTradeBuilderShareQty (replaceSize order
        (estimateRemainingTradeBuilderSizing order info current) desired) =
      replaceSize order (estimateRemainingTradeBuilderSizing order info current) desired := by
  simp only [replaceSize, hs, if_true]
  have hrequest : roundTradeBuilderShareQty ((tradeBuilderShareRequestQty order).getD 0) =
      (tradeBuilderShareRequestQty order).getD 0 := by
    cases hq : tradeBuilderShareRequestQty order with
    | none => norm_num [roundTradeBuilderShareQty]
    | some q =>
      simp only [tradeBuilderShareRequestQty, Option.filter_eq_some_iff, Option.map_eq_some_iff]
        at hq
      obtain ⟨⟨x, -, rfl⟩, -⟩ := hq
      exact roundTradeBuilderShareQty_round x
  unfold estimateRemainingTradeBuilderSizing
  split
  · simp only [hs, if_true, Option.getD_some]
    exact roundTradeBuilderShareQty_round _
  · simp only [hs, if_true]
    exact hrequest

theorem clampProbability_nonneg (q : ℚ) : 0 ≤ clampProbability q :=
  le_max_of_le_left (by norm_num)

theorem marketBuyExecutionPrice_nonneg {current p : ℚ} {bestAsk : Option ℚ}
    (h : tradeBuilderMarketBuyExecutionPrice order current bestAsk = some p) : 0 ≤ p := by
  unfold tradeBuilderMarketBuyExecutionPrice at h
  cases hside : order.side with
  | sell => simp [hside] at h
  | buy =>
    simp only [hside, Option.or_eq_some_iff, Option.map_eq_some_iff] at h
    obtain ⟨ask, -, rfl⟩ | ⟨-, h⟩ := h
    · exact clampProbability_nonneg ask
    · split_ifs at h
      rw [Option.some.injEq] at h
      exact h ▸ clampProbability_nonneg current

theorem clampTradeBuilderVisibleShareQty_le {requested q : ℚ} {available : Option ℚ}
    (h : clampTradeBuilderVisibleShareQty requested available = some q) : q ≤ requested := by
  have hfloor : ∀ x : ℚ, 0 < floorTradeBuilderShareQty x → floorTradeBuilderShareQty x ≤ x := by
    intro x hx
    have hle := Int.floor_le (max x 0 * 100)
    unfold floorTradeBuilderShareQty at hx ⊢
    by_cases hx0 : 0 ≤ x
    · rw [max_eq_left hx0] at hle ⊢
      linarith
    · rw [max_eq_right (by linarith)] at hx
      simp at hx
  simp only [clampTradeBuilderVisibleShareQty] at h
  split_ifs at h with hpos
  rw [Option.some.injEq] at h
  subst h
  cases available with
  | none => exact hfloor _ hpos
  | some a => exact (hfloor _ hpos).trans (min_le_left _ _)

theorem InventorySubmit.clamp_le (s : InventorySubmit) : s.clamp.size ≤ s.size := by
  unfold InventorySubmit.clamp
  split
  · split_ifs with hlt
    · exact hlt.le
    · exact le_refl _
  · exact le_refl _

def Shrinks (size : ℚ) (submit : Option InventorySubmit) : Prop :=
  ∀ s, submit = some s → s.size ≤ size

theorem estimatedVisible_le {size : ℚ} (hs : roundTradeBuilderShareQty size = size) :
    Returns (fun a => ∀ q, a = some q → q ≤ size)
      (tradeBuilderEstimatedVisibleExitQty order size) := by
  unfold tradeBuilderEstimatedVisibleExitQty
  split
  · refine (returns_true _).bind fun estimated _ q hq => ?_
    simp only [Option.filter_eq_some_iff, Option.map_eq_some_iff] at hq
    obtain ⟨⟨x, -, rfl⟩, -⟩ := hq
    rcases le_total (roundTradeBuilderShareQty x) size with h | h
    · rw [min_eq_left h, roundTradeBuilderShareQty_round]
      exact h
    · rw [min_eq_right h, hs]
  · intro q hq
    cases hq

theorem inventoryOrWait_shrinks {size : ℚ} (hs : roundTradeBuilderShareQty size = size) :
    Returns (Shrinks size) (resolveInventoryOrWait order size none) := by
  refine (returns_true _).bind fun available _ => ?_
  have hfallback : Returns (fun a => ∀ q, a = some q → q ≤ size)
      (Job.whenOr (tradeBuilderStopLossLatched order) none
        (tradeBuilderEstimatedVisibleExitQty order size)) := by
    unfold Job.whenOr
    split
    · exact estimatedVisible_le hs
    · intro q hq
      cases hq
  refine hfallback.bind fun fallback hle => ?_
  split
  · exact (returns_true _).bind fun _ _ _ h => by cases h
  · next q hq =>
    refine (returns_true _).bind fun _ _ => (returns_true _).bind fun _ _ s h => ?_
    obtain rfl := Option.some.inj h
    rcases Option.or_eq_some_iff.mp hq with hq | ⟨-, hq⟩
    · exact clampTradeBuilderVisibleShareQty_le hq
    · exact hle q hq

theorem dynamicGross_shrinks (size : ℚ) :
    Returns (Shrinks size) (resolveDynamicGross order size none) := by
  refine (returns_true _).bind fun estimated _ => (returns_true _).bind fun _ _ s h => ?_
  obtain rfl := Option.some.inj h
  exact min_le_right _ _

theorem inventoryOrRetry_shrinks (price size : ℚ) :
    Returns (Shrinks size) (resolveInventoryOrRetry order price size none) := by
  refine (returns_true _).bind fun available _ => ?_
  split
  · exact (returns_true _).bind fun _ _ _ h => by cases h
  · next q hq =>
    intro s h
    obtain rfl := Option.some.inj h
    exact clampTradeBuilderVisibleShareQty_le hq

theorem shareInventory_shrinks {price size : ℚ} (hs : roundTradeBuilderShareQty size = size) :
    Returns (Shrinks size) (resolveShareInventory order price size none) := by
  unfold resolveShareInventory
  split
  · exact inventoryOrWait_shrinks hs
  · split
    · exact dynamicGross_shrinks size
    · intro s h
      obtain rfl := Option.some.inj h
      exact le_refl _
    · exact inventoryOrRetry_shrinks price size

end Sizes

section Passes
variable {basis : SizeBasis} {earlier : List ExchangeOrder} {target : ℚ} {id : Option ℕ}
variable {n : ℕ} {info : OrderInfo} {w w' : World} {order : TradeBuilderOrder} {α β : Type}
variable (hearlier : ∀ e ∈ earlier, e.isLive = false)
include hearlier

theorem Within.evolves (h : Within basis earlier target id w)
    (he : List.Forall₂ ExchangeOrder.Evolves w.exchange w'.exchange) :
    Within basis earlier target id w' := by
  obtain ⟨rest, hrest⟩ := h.frozen
  have hfront : List.Forall₂ ExchangeOrder.Evolves (earlier ++ rest) w'.exchange := hrest ▸ he
  refine ⟨h.sized.evolves he, frozen_append hearlier hfront, ?_⟩
  exact (committed_forall₂ he h.sized.bounded h.sized.price).trans h.within

theorem Within.after (h : Within basis earlier target id w) {c : Call} (hc : Routine c)
    (r : AmongReply) : Within basis earlier target id (actAmong c w r).2 :=
  h.evolves hearlier (exchange_trans (r.disturb_exchange w) (act_routine hc (r.disturb w) r.reply))

theorem Working.after (h : Working basis earlier target n info w) {c : Call} (hc : Plain c)
    (r : AmongReply) : Working basis earlier target n info (actAmong c w r).2 :=
  ⟨h.within.after hearlier hc.routine r, by
    rw [actAmong_statusRead (by rintro m rfl; exact hc)]
    exact h.read⟩

omit hearlier in
theorem Within.settle (h : Within basis earlier target id w) :
    Within basis earlier target none w :=
  ⟨h.sized, h.frozen,
    (sum_committed_none_le h.sized.bounded h.sized.price).trans h.within⟩

def Bounded (basis : SizeBasis) (earlier : List ExchangeOrder) (target : ℚ) {α : Type}
    (_ : Except ErrorText α) (w : World) : Prop :=
  Within basis earlier target none w

theorem within_end {p : Job α} (hp : Only Routine p) (hw : Within basis earlier target id w) :
    wp actAmong (ReplaceOk basis) p (Bounded basis earlier target) w :=
  wp_mono (wp_of_only (I := Within basis earlier target id)
    (fun _ _ r hc h _ => h.after hearlier hc r) hp hw) fun _ _ h => h.settle

theorem within_bind {p : Job α} {f : α → Job β} (hp : Only Routine p)
    (hw : Within basis earlier target id w)
    (hf : ∀ a w', Within basis earlier target id w' →
      wp actAmong (ReplaceOk basis) (f a) (Bounded basis earlier target) w') :
    wp actAmong (ReplaceOk basis) (p >>= f) (Bounded basis earlier target) w :=
  wp_bind_of_only (fun _ _ r hc h _ => h.after hearlier hc r) hp hw hf fun _ _ h => h.settle

theorem working_bind {p : Job α} {f : α → Job β} (hp : Only Plain p)
    (hw : Working basis earlier target n info w)
    (hf : ∀ a w', Working basis earlier target n info w' →
      wp actAmong (ReplaceOk basis) (f a) (Bounded basis earlier target) w') :
    wp actAmong (ReplaceOk basis) (p >>= f) (Bounded basis earlier target) w :=
  wp_bind_of_only (fun _ _ r hc h _ => h.after hearlier hc r) hp hw hf
    fun _ _ h => h.within.settle

/-- The replaced order is canceled, and the new one asks for what was open of it. -/
structure Replacing (basis : SizeBasis) (earlier : List ExchangeOrder) (target : ℚ) (n : ℕ)
    (info : OrderInfo) (w : World) : Prop where
  working : Working basis earlier target n info w
  stopped : Stopped w (some n)

theorem Replacing.after (h : Replacing basis earlier target n info w) {c : Call} (hc : Plain c)
    (r : AmongReply) : Replacing basis earlier target n info (actAmong c w r).2 :=
  ⟨h.working.after hearlier hc r, h.stopped.callAmong c r⟩

theorem replacing_bind {p : Job α} {f : α → Job β} (hp : Only Plain p)
    (hw : Replacing basis earlier target n info w)
    (hf : ∀ a w', Replacing basis earlier target n info w' →
      wp actAmong (ReplaceOk basis) (f a) (Bounded basis earlier target) w') :
    wp actAmong (ReplaceOk basis) (p >>= f) (Bounded basis earlier target) w :=
  wp_bind_of_only (fun _ _ r hc h _ => h.after hearlier hc r) hp hw hf
    fun _ _ h => h.working.within.settle

/-- The size asked for is at most what is open of the order the status was read of. -/
def AsksOpen (basis : SizeBasis) (info : OrderInfo) (request : PlaceOrderRequest) : Prop :=
  ∀ e, Reports basis info e → request.size ≤ e.roundedOpen basis request.price

omit hearlier in
theorem placedOrder_bounded (w : World) (request : PlaceOrderRequest) (r : Reply) :
    (placedOrder w request r).filled ≤ (placedOrder w request r).size := by
  simp only [placedOrder]
  by_cases hm : r.placedState = .matched
  · simp [hm]
  · simp [hm]

omit hearlier in
theorem Within.place {request : PlaceOrderRequest} {r : Reply} (hw : Within basis earlier target
      (some n) w) (hs : Stopped w (some n)) (hp : 0 ≤ request.price)
    (hopen : ∀ e ∈ w.exchange, e.id = n →
      worth basis request.price request.size ≤ worth basis e.price e.open) :
    Within basis earlier target none
      { w with exchange := w.exchange ++ [placedOrder w request r] } := by
  obtain ⟨e, he, hid, hl⟩ := hs n rfl
  have hbounded := placedOrder_bounded w request r
  have hnew : (placedOrder w request r).committed basis none ≤
      worth basis request.price request.size := by
    refine worth_mono hp ?_
    by_cases hlive : (placedOrder w request r).isLive = true
    · rw [if_pos (.inl hlive)]
      exact le_refl _
    · rw [if_neg (by simp [hlive])]
      exact hbounded
  refine ⟨⟨hw.sized.ids.place rfl, ?_, ?_⟩, ?_, ?_⟩
  · intro e he
    rcases List.mem_append.mp he with he | he
    · exact hw.sized.bounded e he
    · rw [List.mem_singleton.mp he]
      exact hbounded
  · intro e he
    rcases List.mem_append.mp he with he | he
    · exact hw.sized.price e he
    · rw [List.mem_singleton.mp he]
      exact hp
  · obtain ⟨rest, hrest⟩ := hw.frozen
    exact ⟨rest ++ [placedOrder w request r], by simp [hrest]⟩
  · have hroom : committed basis none w.exchange + worth basis e.price e.open ≤
        committed basis (some n) w.exchange :=
      committed_add_open hw.sized.bounded hw.sized.price he hl (congrArg some hid)
    have hsize := hopen e he hid
    have hlast : committed basis none [placedOrder w request r] =
        (placedOrder w request r).committed basis none := by simp [committed]
    rw [committed_append, hlast]
    linarith [hw.within]

theorem place_bind {request : PlaceOrderRequest} {f : Except ErrorText PlaceAck → Job β}
    (hw : Replacing basis earlier target n info w) (hp : 0 ≤ request.price)
    (hasks : AsksOpen basis info request) (hf : ∀ x, Only Routine (f x)) :
    wp actAmong (ReplaceOk basis) (Job.tryRun (.place request) >>= f)
      (Bounded basis earlier target) w := by
  rw [wp_bind, Job.tryRun, wp_attempt, wp_perform]
  intro r hok
  have hev := (r.arrive_exchange w)
  have ha := hw.working.within.evolves hearlier hev
  cases hfail : r.reply.fails with
  | some failure =>
    rw [actAmong_fails hfail]
    exact within_end hearlier (hf _) ha
  | none =>
    rw [actAmong_answers hfail]
    have hread : (r.arrive w).statusRead = some (n, info) :=
      (arrive_statusRead r.reply _).trans ((disturb_statusRead r w).trans hw.working.read)
    refine within_end hearlier (hf _) (ha.place (hw.stopped.evolves hev) hp fun e he hid => ?_)
    obtain ⟨hreports, hround⟩ := hok.replaced request n info rfl hread e he hid
    exact (worth_mono hp (hasks e hreports)).trans hround

theorem placeReplacement_within {price size : ℚ} (usdc qty : Option ℚ) (isPartial : Bool)
    (hw : Replacing basis earlier target n info w) (hp : 0 ≤ price)
    (hasks : AsksOpen basis info ⟨price, size⟩) :
    wp actAmong (ReplaceOk basis) (placeReplacement order price size usdc qty isPartial)
      (Bounded basis earlier target) w := by
  refine place_bind hearlier hw hp hasks fun placed => ?_
  cases placed with
  | error e => exact placeError_routine _ _ _ _ _
  | ok ack =>
    exact .bind (run_routine trivial) fun _ => .bind (update_routine _) fun _ =>
      .bind (only_when (event_routine _)) fun _ => .bind (event_routine _) fun _ =>
        only_when (finalizeReplacement_routine _ _)

theorem replaceCanceled_within {price size : ℚ} (requested usdc qty : Option ℚ)
    (isPartial : Bool) (stage : Option ExitSubmitStage)
    (hw : Replacing basis earlier target n info w) (hp : 0 ≤ price)
    (hasks : AsksOpen basis info ⟨price, size⟩) :
    wp actAmong (ReplaceOk basis)
      (replaceCanceled order price size requested usdc qty isPartial stage)
      (Bounded basis earlier target) w := by
  refine replacing_bind hearlier (statement_plain _) hw fun _ _ hw => wp_ite
    (fun _ => within_end hearlier suppressReprice_routine hw.working.within) fun _ => ?_
  refine replacing_bind hearlier (belowMarketMin_plain _ _ _ _ _) hw fun _ _ hw =>
    wp_ite (fun _ => hw.working.within.settle) fun _ => ?_
  exact replacing_bind hearlier (only_when (event_plain _)) hw fun _ _ hw =>
    placeReplacement_within hearlier _ _ _ hw hp hasks

theorem replaceTracked_within {price size : ℚ} (requested usdc qty : Option ℚ)
    (isPartial : Bool) (stage : Option ExitSubmitStage)
    (htrack : tradeBuilderShouldTrackBuyInventoryObservation order = true)
    (hw : Within basis earlier target id w) :
    wp actAmong (ReplaceOk basis)
      (replaceCanceled order price size requested usdc qty isPartial stage)
      (Bounded basis earlier target) w :=
  within_bind hearlier (statement_routine _) hw fun _ _ hw => wp_ite
    (fun _ => within_end hearlier suppressReprice_routine hw) fun h => absurd htrack h

theorem cancelAndReplace_within {price size : ℚ} (requested usdc qty : Option ℚ)
    (isPartial : Bool) (stage : Option ExitSubmitStage)
    (hw : Working basis earlier target n info w) (hp : 0 ≤ price)
    (hasks : AsksOpen basis info ⟨price, size⟩) :
    wp actAmong (ReplaceOk basis)
      (cancelAndReplace order n info price size requested usdc qty isPartial stage)
      (Bounded basis earlier target) w := by
  rw [cancelAndReplace, wp_bind, Job.tryRun, wp_attempt, wp_perform]
  intro r hok
  have hw' : Working basis earlier target n info (actAmong (.cancel n) w r).2 :=
    ⟨hw.within.after hearlier (c := .cancel n) trivial r,
      (actAmong_statusRead (by simp) w r).trans hw.read⟩
  cases hx : (actAmong (.cancel n) w r).1 with
  | error e =>
    exact wp_ite (fun _ => within_end hearlier (finalizeTerminalMatch_routine _ _ _ _ _)
      hw'.within) fun _ => hw'.within.settle
  | ok _ =>
    refine wp_ite (fun htrack => ?_) fun _ => replaceCanceled_within hearlier _ _ _ _ _
      ⟨hw', stopped_of_canceledAmong (hok.canceled n rfl) hx⟩ hp hasks
    refine within_bind hearlier (postCancelBuyFill_routine _ _ _) hw'.within fun outcome w hw => ?_
    cases outcome with
    | finalized => exact hw.settle
    | noFill => exact replaceTracked_within hearlier _ _ _ _ _ htrack hw

theorem desiredPrice_bind {price : ℚ} {bestAsk : Option ℚ} {f : ℚ → Job β} (hp : 0 ≤ price)
    (hw : Working basis earlier target n info w)
    (hf : ∀ desired w', 0 ≤ desired → Working basis earlier target n info w' →
      wp actAmong (ReplaceOk basis) (f desired) (Bounded basis earlier target) w') :
    wp actAmong (ReplaceOk basis) (desiredPriceOf order price bestAsk >>= f)
      (Bounded basis earlier target) w := by
  unfold desiredPriceOf
  cases order.side with
  | sell =>
    refine (wp_bind _ f _ w).mpr ?_
    change wp actAmong _ (Job.tryRun .sellSubmitPrice >>= _) _ w
    rw [wp_bind, Job.tryRun, wp_attempt, wp_perform]
    intro r _
    have hw' := hw.after hearlier (c := .sellSubmitPrice) trivial r
    cases hfail : r.reply.fails with
    | some failure =>
      rw [actAmong_fails hfail] at hw' ⊢
      exact hf _ _ hp hw'
    | none =>
      rw [actAmong_answers hfail] at hw' ⊢
      exact hf _ _ (clampProbability_nonneg _) hw'
  | buy =>
    refine hf _ _ ?_ hw
    cases hprice : tradeBuilderMarketBuyExecutionPrice order price bestAsk with
    | none => exact clampProbability_nonneg _
    | some p => exact marketBuyExecutionPrice_nonneg hprice

theorem repriceOpenOrder_within {current desired : ℚ} {bestAsk : Option ℚ}
    (hb : order.sizeBasis = basis) (hw : Working basis earlier target n info w)
    (hp : 0 ≤ desired) :
    wp actAmong (ReplaceOk basis) (repriceOpenOrder order n info current bestAsk desired
      (estimateRemainingTradeBuilderSizing order info current)) (Bounded basis earlier target)
      w := by
  have hasks : ∀ {size}, size ≤ replaceSize order
      (estimateRemainingTradeBuilderSizing order info current) desired →
      AsksOpen basis info ⟨desired, size⟩ := by
    intro size hle e he
    exact hle.trans (replaceSize_reports hb he current desired).le
  refine wp_ite (fun _ => within_end hearlier (update_routine _) hw.within) fun _ => wp_ite
    (fun _ => within_end hearlier (cancelAtGuard_routine _ _ _ _ _ _) hw.within) fun _ => wp_ite
      (fun _ => within_end hearlier (cancelAtGuard_routine _ _ _ _ _ _) hw.within) fun _ =>
        wp_ite (fun hs => ?_) fun _ => cancelAndReplace_within hearlier _ _ _ _ _ hw hp
          (hasks (le_refl _))
  refine wp_bind_of_returns (fun _ _ r hc h _ => h.after hearlier hc r)
    (shareInventory_plain _ _ _ _) (shareInventory_shrinks (replaceSize_rounded hs.2 _ _)) hw
    (fun submit w hle hw => ?_) fun _ _ h => h.within.settle
  cases submit with
  | none => exact hw.within.settle
  | some submit =>
    exact cancelAndReplace_within hearlier _ _ _ _ _ hw hp
      (hasks (submit.clamp_le.trans (hle submit rfl)))

theorem reconcileOpen_within {current : ℚ} {bestAsk : Option ℚ} (hb : order.sizeBasis = basis)
    (hc : 0 ≤ current) (hw : Working basis earlier target n info w) :
    wp actAmong (ReplaceOk basis) (reconcileOpen order n info current bestAsk)
      (Bounded basis earlier target) w := by
  refine working_bind hearlier (only_when syncWithParent_plain) hw fun _ w hw => ?_
  refine desiredPrice_bind hearlier hc hw fun desired w hp hw => ?_
  refine working_bind hearlier (only_when (silent_plain reportPriceCap_silent)) hw fun _ w hw => ?_
  refine working_bind hearlier (statement_plain _) hw fun _ w hw => ?_
  exact wp_ite (fun _ => repriceOpenOrder_within hearlier hb hw hp) fun _ =>
    within_end hearlier (update_routine _) hw.within

omit hearlier in
theorem Within.work {e : ExchangeOrder} (hw : Within basis earlier target none w)
    (he : w.exchangeOrder n = some e) (hl : e.isLive = true) :
    Within basis earlier target (some n) w := by
  obtain ⟨hmem, hid⟩ := World.exchangeOrder_mem he
  refine ⟨hw.sized, hw.frozen, le_of_eq_of_le ?_ hw.within⟩
  refine congrArg List.sum (List.map_congr_left fun e' he' => ?_)
  by_cases hid' : e'.id = n
  · have heq : e' = e := hw.sized.ids.eq he' hmem (hid'.trans hid.symm)
    simp [ExchangeOrder.committed, heq, hl]
  · simp [ExchangeOrder.committed, hid']

theorem reconcile_within {current : ℚ} {bestAsk : Option ℚ} (hb : order.sizeBasis = basis)
    (hc : 0 ≤ current) (hw : Within basis earlier target none w) :
    wp actAmong (ReplaceOk basis) (reconcileTradeBuilderOpenOrder order n current bestAsk)
      (Bounded basis earlier target) w := by
  refine wp_ite (fun _ => within_end hearlier (cancelRequested_routine _) hw) fun _ => ?_
  rw [wp_bind, Job.run, wp_perform]
  intro r hok
  have ha := hw.evolves hearlier (r.arrive_exchange w)
  cases hfail : r.reply.fails with
  | some failure =>
    rw [actAmong_fails hfail]
    exact ha
  | none =>
    rw [actAmong_answers hfail]
    simp only [answer]
    have hreported := hok.reported n
    generalize r.arrive w = w at ha hreported ⊢
    cases he : w.exchangeOrder n with
    | none => exact ha
    | some e =>
      have hopen := hreported e rfl he
      dsimp only
      generalize e.info r.reply = info at hopen ⊢
      have hread : Within basis earlier target none
          { w with statusRead := some (n, info) } :=
        ha.evolves hearlier (World.Evolves.refl w).exchange
      by_cases hl : e.isLive = true
      · have hwork : Working basis earlier target n info
            { w with statusRead := some (n, info) } := ⟨hread.work he hl, rfl⟩
        refine working_bind hearlier (statement_plain _) hwork fun _ w hw => ?_
        cases info.status with
        | opened | partiallyFilled => exact reconcileOpen_within hearlier hb hc hw
        | filled => exact within_end hearlier (reconcileFilled_routine _ _ _) hw.within
        | _ => exact within_end hearlier (reconcileTerminal_routine _ _ _) hw.within
      · refine within_bind hearlier (statement_routine _) hread fun _ w hw => ?_
        cases hs : info.status with
        | opened => exact absurd (hopen (.inl hs)) hl
        | partiallyFilled => exact absurd (hopen (.inr hs)) hl
        | filled => exact within_end hearlier (reconcileFilled_routine _ _ _) hw
        | _ => exact within_end hearlier (reconcileTerminal_routine _ _ _) hw

theorem reconcileRead_within (hb : order.sizeBasis = basis)
    (hw : Within basis earlier target none w) :
    wp actAmong (ReplaceOk basis) (reconcileRead order) (Bounded basis earlier target) w := by
  rw [reconcileRead, wp_bind, Job.run, wp_perform]
  intro r _
  have hw' := hw.after hearlier (c := .runtimePrice) trivial r
  cases hfail : r.reply.fails with
  | some failure =>
    rw [actAmong_fails hfail] at hw' ⊢
    exact hw'
  | none =>
    rw [actAmong_answers hfail] at hw' ⊢
    simp only [answer] at hw' ⊢
    cases order.activeExchangeOrderId with
    | none => exact hw'
    | some n =>
      cases r.reply.priceMissing with
      | true => exact hw'
      | false => exact reconcile_within hearlier hb (clampProbability_nonneg _) hw'

theorem reconcilePass_within (hw : Within basis earlier target none w) :
    wp actAmong (ReplaceOk basis) reconcilePass (Bounded basis earlier target) w := by
  rw [reconcilePass, Job.ignore, wp_bind, wp_attempt]
  change wp actAmong (ReplaceOk basis) _ (Bounded basis earlier target) w
  rw [wp_bind, Job.run, wp_perform]
  intro r hok
  have ha := hw.evolves hearlier (r.arrive_exchange w)
  cases hfail : r.reply.fails with
  | some failure =>
    rw [actAmong_fails hfail]
    exact ha
  | none =>
    rw [actAmong_answers hfail]
    exact reconcileRead_within hearlier (hok.sizedIn rfl)
      (ha.evolves hearlier (World.Evolves.refl (r.arrive w)).exchange)

theorem replaceTurn_within {t : AmongPass} (hw : Within basis earlier target none w)
    (ht : ReplaceTurn basis w t) :
    Within basis earlier target none (Turn.step actAmong Interference.step w t) := by
  cases t with
  | environment i => exact hw.evolves hearlier (i.step_exchange w)
  | pass p replies =>
    obtain ⟨rfl, hm⟩ := ht
    exact wp_sound actAmong _ (reconcilePass_within hearlier hw) hm

end Passes

/-- What a submit sizes the first order of a trigger for. -/
def triggerTarget (order : TradeBuilderOrder) (resolvedSizeUsdc : ℚ) : ℚ :=
  match order.sizeBasis with
  | .shares => (order.remainingQty.or order.targetQty).getD 0
  | .notionalUsdc => order.remainingSize.getD resolvedSizeUsdc

/-- The target, in hundredths of a share at the price of the order. -/
def targetHundredths (order : TradeBuilderOrder) (price resolvedSizeUsdc : ℚ) : ℚ :=
  match order.sizeBasis with
  | .shares => triggerTarget order resolvedSizeUsdc * 100
  | .notionalUsdc => triggerTarget order resolvedSizeUsdc / price * 100

theorem submitSizing_within_iff {order : TradeBuilderOrder} {price usdc : ℚ}
    {sizing : SubmitSizing} (hp : 0 < price) (h : submitSizing order price usdc = some sizing) :
    worth order.sizeBasis price sizing.size ≤ triggerTarget order usdc ↔
      Int.fract (targetHundredths order price usdc) < 1 / 2 := by
  rw [submitSizing, Option.filter_eq_some_iff] at h
  obtain ⟨hsizing, hpos⟩ := h
  replace hpos : 0 < sizing.size := of_decide_eq_true hpos
  cases hs : order.sizeBasis with
  | shares =>
    simp only [hs, if_true, tradeBuilderShareRequestQty, Option.map_eq_some_iff,
      Option.filter_eq_some_iff] at hsizing
    obtain ⟨qty, ⟨⟨q, hq, rfl⟩, -⟩, rfl⟩ := hsizing
    simp only [worth, triggerTarget, targetHundredths, hs, hq, Option.getD_some]
    refine roundTradeBuilderShareQty_le_iff (le_of_lt ?_)
    by_contra hneg
    simp only [roundTradeBuilderShareQty, max_eq_right (not_lt.mp hneg)] at hpos
    norm_num at hpos
  | notionalUsdc =>
    rw [hs, if_neg (by simp), Option.some.injEq] at hsizing
    subst hsizing
    simp only [worth, triggerTarget, targetHundredths, hs]
    refine calcLevelSize_mul_le_iff (le_of_not_gt fun hneg => ?_) hp
    exact absurd hpos (not_lt.mpr (calcLevelSize_nonpos hneg))

/-- From the first exchange order of a trigger on, all that the orders of that trigger fill
stays within its target: the first order asks for no more, and each replacement is sized from
what the canceled order came to. -/
theorem replacements_within_target (basis : SizeBasis) (earlier : List ExchangeOrder)
    (first : ExchangeOrder) (target : ℚ) (w : World) (ts : List AmongPass)
    (hw : w.exchange = earlier ++ [first]) (hsized : Sized w)
    (hearlier : ∀ e ∈ earlier, e.isLive = false)
    (hfirst : worth basis first.price first.size ≤ target)
    (hts : Turn.All actAmong Interference.step (ReplaceTurn basis) w ts) :
    traded basis ((Turn.run actAmong Interference.step w ts).exchange.drop earlier.length) ≤ target := by
  have hmem : first ∈ w.exchange := by simp [hw]
  have hstart : Within basis earlier target none w := by
    refine ⟨hsized, ⟨[first], hw⟩, ?_⟩
    have hone : committed basis none [first] ≤ target := by
      refine le_trans ?_ hfirst
      simp only [committed, List.map_cons, List.map_nil, List.sum_cons, List.sum_nil, add_zero]
      refine worth_mono (hsized.price first hmem) ?_
      split
      · exact le_refl _
      · exact hsized.bounded first hmem
    rw [hw, committed_append, committed_dead hearlier]
    linarith
  have hend : Within basis earlier target none (Turn.run actAmong Interference.step w ts) :=
    Turn.run_invariant actAmong Interference.step (fun w t h ht => replaceTurn_within hearlier h ht)
      hstart hts
  obtain ⟨rest, hrest⟩ := hend.frozen
  have htotal := (sum_traded_le hend.sized.bounded hend.sized.price).trans hend.within
  rw [hrest, traded_append] at htotal
  rw [hrest, List.drop_left]
  linarith

/-- A call whose replacement is sized from a status that is still true. -/
def currentCall (basis : SizeBasis) (c : Call) (w : World) (r : AmongReply) : Bool :=
  match c with
  | .getOrder => (r.arrive w).order.sizeBasis == basis
  | .place request => match (r.arrive w).statusRead with
    | some (n, info) => (r.arrive w).exchange.all fun e => e.id != n ||
        (info.size == some e.size && info.filledSize == some e.filled &&
          info.price == some e.price && decide (worth basis request.price
            (e.roundedOpen basis request.price) ≤ worth basis e.price e.open))
    | none => true
  | .status _ => r.reply.statusText.isNone
  | .cancel _ => !r.reply.notCanceled
  | _ => true

theorem replaceOk_of_currentCall {basis : SizeBasis} (c : Call) (w : World) (r : AmongReply)
    (h : currentCall basis c w r = true) : ReplaceOk basis c w r := by
  refine ⟨?_, ?_, ?_, ?_⟩
  · rintro rfl
    simpa [currentCall] using h
  · rintro request n info rfl hread e he hid
    simp only [currentCall, hread, List.all_eq_true, Bool.or_eq_true, bne_iff_ne, ne_eq,
      Bool.and_eq_true, beq_iff_eq, decide_eq_true_eq] at h
    obtain hne | ⟨⟨⟨hsize, hfilled⟩, hprice⟩, hround⟩ := h e he
    · exact absurd hid hne
    · exact ⟨⟨hsize, hfilled, fun _ => hprice⟩, hround⟩
  · rintro n e rfl -
    rw [ExchangeOrder.info_status]
    exact (reportedStatus_stateText (Option.isNone_iff_eq_none.mp h)).mp
  · rintro n rfl hn
    simp [currentCall, hn] at h

/-- A buy of 5 USDC with an exchange order of 10 shares at 1/2. -/
def openBuy : World where
  order := { status := .opened, sizeUsdc := 5, activeExchangeOrderId := some 0,
             remainingSize := some 5, workingPrice := some (1 / 2) }
  exchange := [{ id := 0, size := 10, price := 1 / 2 }]

/-- The best ask moves to 3/5, and the pass reprices. -/
def askMoved : List AmongReply :=
  [{}, { reply := { price := { price := 1 / 2, bestAsk := some (3 / 5) } } }]

/-- 4 shares are filled before the pass, which replaces the other 6 by 5 at the new price. -/
theorem replacements_within_target_buy :
    traded .notionalUsdc ((Turn.run actAmong Interference.step openBuy
      [.environment (.outside (.fill 0 4)), .pass reconcilePass askMoved,
        .environment (.outside (.fill 1 5))]).exchange.drop 0) ≤ 5 :=
  replacements_within_target .notionalUsdc [] { id := 0, size := 10, price := 1 / 2 } 5 openBuy _
    rfl ⟨rfl, by decide +kernel, by decide +kernel⟩ (by simp) (by decide +kernel)
    ⟨trivial, ⟨rfl, Meets.mono actAmong _ replaceOk_of_currentCall
      (by decide +kernel : Meets actAmong (fun c w r => currentCall .notionalUsdc c w r = true)
        reconcilePass askMoved (Outside.step (.fill 0 4) openBuy))⟩, trivial, trivial⟩

/-- The same 4 shares, filled just before the cancel. -/
def filledAtCancel : List AmongReply :=
  askMoved ++ [({} : AmongReply), {}, {}, { reply := { before := [.fill 0 4] } }]

/-- The pass has read the status by then, and replaces all 10. -/
theorem replacement_exceeds_target :
    ¬ traded .notionalUsdc (Turn.run actAmong Interference.step openBuy
      [.pass reconcilePass filledAtCancel,
        .environment (.outside (.fill 1 (833 / 100)))]).exchange ≤ 5 := by
  decide +kernel

end PolymarketBot.Builder
