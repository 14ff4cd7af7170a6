import PolymarketBot.Lib.Runs
import PolymarketBot.Reconcile.FillRows

/-! Which failing calls lose a fill to every later pass. -/

namespace PolymarketBot.Reconcile
open Lib Lib.Prog FillProg

/-- One row of a fill listed under this id is stored, with the order it was listed with. -/
def Tables.StoredOnce (w : Tables) (listed : FillInfo → Prop) (fillId : String) : Prop :=
  ∃ fill, listed fill ∧ fill.fillId = fillId ∧
    ∃ id, w.exchangeIds[id]? = some fill.orderId ∧
      w.fills.filter (·.fillId = fillId) = [fill.row id]

/-- A call that fails between the record of a fill's key and the storage of the fill: the reply
of a new key is lost, the order is not found or written, or the row is refused. -/
def FillCall.CutsOff (c : FillCall) (w : Tables) (r : FillReply) : Prop :=
  match c with
  | tryRecordIdempotencyKey eventKey => r.fault = some .lost ∧ eventKey ∉ w.keys
  | internalOrderIdByExchangeOrderId _ | upsertOrderByExchangeId _ => r.fault ≠ none
  | upsertFillByExchangeFillId _ => r.fault = some .refused

instance (c : FillCall) (w : Tables) (r : FillReply) : Decidable (c.CutsOff w r) := by
  cases c <;> unfold FillCall.CutsOff <;> infer_instance

namespace Tables

/-- What holds of the tables in every run: a stored fill has its key, is the row of a listed
fill and refers to that fill's order, and no two rows have one id. -/
structure Sound (w : Tables) (listed : FillInfo → Prop) : Prop where
  named : fillKey "" ∉ w.keys
  keyed : ∀ row ∈ w.fills, fillKey row.fillId ∈ w.keys
  rows : ∀ row ∈ w.fills, ∃ fill, listed fill ∧
    ∃ id, w.exchangeIds[id]? = some fill.orderId ∧ row = fill.row id
  once : w.fillIds.Nodup

/-- The key of a fill is recorded and its row is not stored. -/
def Lost (w : Tables) (fillId : String) : Prop :=
  fillKey fillId ∈ w.keys ∧ fillId ∉ w.fillIds

def Settled (w : Tables) : Prop := ∀ fillId, ¬ w.Lost fillId

/-- Every recorded key but one has its fill. -/
def SettledBut (w : Tables) (fillId : String) : Prop := ∀ id, w.Lost id → id = fillId

/-- The order ids of other writers keep their places. -/
structure Grown (w w' : Tables) : Prop where
  keys : w'.keys = w.keys
  fills : w'.fills = w.fills
  ids : w.exchangeIds <+: w'.exchangeIds

theorem Grown.refl (w : Tables) : Grown w w := ⟨rfl, rfl, List.prefix_rfl⟩

theorem Grown.trans {w₁ w₂ w₃ : Tables} (h : Grown w₁ w₂) (h' : Grown w₂ w₃) : Grown w₁ w₃ :=
  ⟨h'.keys.trans h.keys, h'.fills.trans h.fills, h.ids.trans h'.ids⟩

theorem grown_upsertOrder (w : Tables) (row : OrderRow) :
    Grown w (w.upsertOrderByExchangeId row) :=
  ⟨rfl, rfl, w.upsertOrder_ids_prefix row⟩

theorem grown_found (w : Tables) (r : FillReply) : Grown w (r.found w) := by
  unfold FillReply.found
  induction r.others generalizing w with
  | nil => exact Grown.refl w
  | cons row rest ih => exact (grown_upsertOrder w row).trans (ih _)

/-- What the processing of one listed fill can do. -/
inductive FillStep (fill : FillInfo) (w w' : Tables) : Prop
  | kept (grown : Grown w w')
  | keyed (named : fill.fillId ≠ "") (fresh : fillKey fill.fillId ∉ w.keys)
      (grown : Grown (w.tryRecordIdempotencyKey (fillKey fill.fillId)) w')
  | stored (named : fill.fillId ≠ "") (fresh : fillKey fill.fillId ∉ w.keys) (between : Tables)
      (grown : Grown (w.tryRecordIdempotencyKey (fillKey fill.fillId)) between) (id : ℕ)
      (order : between.exchangeIds[id]? = some fill.orderId)
      (row : w' = between.upsertFillByExchangeFillId (fill.row id))

section Steps
variable {fill : FillInfo} {w w' : Tables} {listed : FillInfo → Prop} {fillId : String}

theorem fillKey_inj {a b : String} (h : fillKey a = fillKey b) : a = b := by
  have hlist := congrArg String.toList h
  simp only [fillKey, String.toList_append] at hlist
  exact String.toList_inj.mp (List.append_cancel_left hlist)

theorem Sound.grown (h : w.Sound listed) (hg : Grown w w') : w'.Sound listed where
  named := by
    rw [hg.keys]
    exact h.named
  keyed row hrow := by
    rw [hg.keys]
    exact h.keyed row (hg.fills ▸ hrow)
  rows row hrow := by
    obtain ⟨fill, hlisted, id, hid, heq⟩ := h.rows row (hg.fills ▸ hrow)
    exact ⟨fill, hlisted, id, Rows.getElem?_of_prefix hg.ids hid, heq⟩
  once := by
    unfold fillIds
    rw [hg.fills]
    exact h.once

theorem Lost.grown (h : w.Lost fillId) (hg : Grown w w') : w'.Lost fillId := by
  unfold Lost fillIds
  rw [hg.keys, hg.fills]
  exact h

theorem recorded_keys (eventKey : String) (hfresh : eventKey ∉ w.keys) :
    (w.tryRecordIdempotencyKey eventKey).keys = w.keys ++ [eventKey] := by
  unfold tryRecordIdempotencyKey
  rw [if_neg hfresh]

theorem recorded_rest (eventKey : String) :
    (w.tryRecordIdempotencyKey eventKey).fills = w.fills ∧
      (w.tryRecordIdempotencyKey eventKey).orders = w.orders := by
  unfold tryRecordIdempotencyKey
  split_ifs <;> exact ⟨rfl, rfl⟩

theorem Grown.record (h : Grown w w') (eventKey : String) :
    Grown (w.tryRecordIdempotencyKey eventKey) (w'.tryRecordIdempotencyKey eventKey) := by
  obtain ⟨hfills, horders⟩ := recorded_rest (w := w) eventKey
  obtain ⟨hfills', horders'⟩ := recorded_rest (w := w') eventKey
  refine ⟨?_, by rw [hfills, hfills', h.fills], by
    unfold exchangeIds
    rw [horders, horders']
    exact h.ids⟩
  unfold tryRecordIdempotencyKey
  rw [h.keys]
  split_ifs
  · exact h.keys
  · rfl

theorem Sound.recorded (h : w.Sound listed) (hname : fillId ≠ "") :
    (w.tryRecordIdempotencyKey (fillKey fillId)).Sound listed := by
  by_cases hmem : fillKey fillId ∈ w.keys
  · rw [tryRecordIdempotencyKey, if_pos hmem]
    exact h
  obtain ⟨hfills, horders⟩ := recorded_rest (w := w) (fillKey fillId)
  have hkeys := recorded_keys (fillKey fillId) hmem
  constructor
  · rw [hkeys, List.mem_append, List.mem_singleton]
    rintro (hold | hnew)
    · exact h.named hold
    · exact hname (fillKey_inj hnew).symm
  · intro row hrow
    rw [hkeys]
    exact List.mem_append_left _ (h.keyed row (hfills ▸ hrow))
  · intro row hrow
    unfold exchangeIds
    rw [horders]
    exact h.rows row (hfills ▸ hrow)
  · unfold fillIds
    rw [hfills]
    exact h.once

theorem Grown.lost_iff (hg : Grown w w') : w'.Lost fillId ↔ w.Lost fillId := by
  unfold Lost fillIds
  rw [hg.keys, hg.fills]

theorem Settled.grown (h : w.Settled) (hg : Grown w w') : w'.Settled := fun fillId hlost =>
  h fillId (hg.lost_iff.mp hlost)

theorem SettledBut.grown (h : w.SettledBut fillId) (hg : Grown w w') : w'.SettledBut fillId :=
  fun id hlost => h id (hg.lost_iff.mp hlost)

theorem Settled.recorded (h : w.Settled) (fillId : String) :
    (w.tryRecordIdempotencyKey (fillKey fillId)).SettledBut fillId := by
  intro id hlost
  obtain ⟨hfills, -⟩ := recorded_rest (w := w) (fillKey fillId)
  by_cases hmem : fillKey fillId ∈ w.keys
  · rw [tryRecordIdempotencyKey, if_pos hmem] at hlost
    exact absurd hlost (h id)
  · obtain ⟨hkey, hrow⟩ := hlost
    rw [recorded_keys _ hmem, List.mem_append, List.mem_singleton] at hkey
    unfold fillIds at hrow
    rw [hfills] at hrow
    rcases hkey with hold | hnew
    · exact absurd ⟨hold, hrow⟩ (h id)
    · exact fillKey_inj hnew

theorem Sound.lost_recorded (h : w.Sound listed) (hfresh : fillKey fillId ∉ w.keys) :
    (w.tryRecordIdempotencyKey (fillKey fillId)).Lost fillId := by
  constructor
  · rw [recorded_keys _ hfresh]
    exact List.mem_append_right _ (List.mem_singleton_self _)
  · unfold fillIds
    rw [(recorded_rest _).1]
    intro hmem
    obtain ⟨row, hrow, rfl⟩ := List.mem_map.mp hmem
    exact hfresh (h.keyed row hrow)

theorem Lost.recorded (h : w.Lost fillId) (eventKey : String) :
    (w.tryRecordIdempotencyKey eventKey).Lost fillId := by
  obtain ⟨hfills, -⟩ := recorded_rest (w := w) eventKey
  unfold Lost fillIds
  rw [hfills]
  refine ⟨?_, h.2⟩
  unfold tryRecordIdempotencyKey
  split_ifs
  · exact h.1
  · exact List.mem_append_left _ h.1

theorem stored_fills (hnew : fill.fillId ∉ w.fillIds) (id : ℕ) :
    (w.upsertFillByExchangeFillId (fill.row id)).fills = w.fills ++ [fill.row id] :=
  Rows.upsert_of_new _ _ hnew

theorem SettledBut.stored (h : w.SettledBut fill.fillId) (id : ℕ) :
    (w.upsertFillByExchangeFillId (fill.row id)).Settled := by
  intro other hlost
  obtain ⟨hkey, hrow⟩ := hlost
  rw [fillIds_upsertFill] at hrow
  have hold : other ∉ w.fillIds := by
    split_ifs at hrow
    · exact hrow
    · exact fun hmem => hrow (List.mem_append_left _ hmem)
  obtain rfl := h other ⟨hkey, hold⟩
  split_ifs at hrow with hmem
  · exact hold hmem
  · exact hrow (List.mem_append_right _ (List.mem_singleton_self _))

theorem Sound.stored (h : w.Sound listed) (hlost : w.Lost fill.fillId) (hlisted : listed fill)
    {id : ℕ} (horder : w.exchangeIds[id]? = some fill.orderId) :
    (w.upsertFillByExchangeFillId (fill.row id)).Sound listed := by
  have hfills := stored_fills hlost.2 id
  refine ⟨h.named, fun row hrow => ?_, fun row hrow => ?_, ?_⟩
  · rw [hfills, List.mem_append, List.mem_singleton] at hrow
    rcases hrow with hold | rfl
    · exact h.keyed row hold
    · exact hlost.1
  · rw [hfills, List.mem_append, List.mem_singleton] at hrow
    rcases hrow with hold | rfl
    · exact h.rows row hold
    · exact ⟨fill, hlisted, id, horder, rfl⟩
  · unfold fillIds
    rw [hfills, List.map_append, List.map_singleton]
    refine List.nodup_append.mpr ⟨h.once, by simp, ?_⟩
    intro a ha b hb hab
    rw [List.mem_singleton.mp hb] at hab
    rw [hab] at ha
    exact hlost.2 ha

theorem FillStep.sound (hstep : FillStep fill w w') (hlisted : listed fill) (h : w.Sound listed) :
    w'.Sound listed := by
  cases hstep with
  | kept grown => exact h.grown grown
  | keyed named fresh grown => exact (h.recorded named).grown grown
  | stored named fresh between grown id order row =>
    rw [row]
    exact ((h.recorded named).grown grown).stored ((h.lost_recorded fresh).grown grown) hlisted
      order

theorem FillStep.lost (hstep : FillStep fill w w') (h : w.Lost fillId) : w'.Lost fillId := by
  cases hstep with
  | kept grown => exact h.grown grown
  | keyed named fresh grown => exact (h.recorded _).grown grown
  | stored named fresh between grown id order row =>
    have hbetween : between.Lost fillId := (h.recorded _).grown grown
    have hother : fillId ≠ fill.fillId := by
      rintro rfl
      exact fresh h.1
    rw [row]
    refine ⟨hbetween.1, ?_⟩
    rw [fillIds_upsertFill]
    split_ifs
    · exact hbetween.2
    · rw [List.mem_append, List.mem_singleton]
      rintro (hold | hnew)
      · exact hbetween.2 hold
      · exact hother hnew

end Steps

end Tables

/-! ### One fill -/

open Tables

section Fill
variable {w : Tables} {fill : FillInfo} {tradeId : ℤ}

theorem act_cases (c : FillCall) (r : FillReply) :
    (r.fault = none ∧ c.act w r = (.ok (c.answer (r.found w)), c.exec (r.found w))) ∨
      (r.fault = some .refused ∧ c.act w r = (.error "database error", r.found w)) ∨
      (r.fault = some .lost ∧ c.act w r = (.error "database error", c.exec (r.found w))) := by
  unfold FillCall.act
  cases r.fault with
  | none => exact .inl ⟨rfl, rfl⟩
  | some fault =>
    cases fault with
    | refused => exact .inr (.inl ⟨rfl, rfl⟩)
    | lost => exact .inr (.inr ⟨rfl, rfl⟩)

theorem wp_send {β : Type} {c : FillCall} {f : c.Answer → FillProg β}
    {Q : Except String β → Tables → Prop}
    (hok : ∀ r : FillReply, wp FillCall.act (fun _ _ _ => True) (f (c.answer (r.found w))) Q
      (c.exec (r.found w)))
    (hrefused : ∀ r : FillReply, Q (.error "database error") (r.found w))
    (hlost : ∀ r : FillReply, Q (.error "database error") (c.exec (r.found w))) :
    wp FillCall.act (fun _ _ _ => True) (run c >>= f) Q w := by
  rw [wp_bind]
  refine (wp_perform c _ w).mpr fun r _ => ?_
  rcases act_cases c r with ⟨-, heq⟩ | ⟨-, heq⟩ | ⟨-, heq⟩
  · rw [heq]
    exact hok r
  · rw [heq]
    exact hrefused r
  · rw [heq]
    exact hlost r

theorem exactly_send {β : Type} {c : FillCall} {f : c.Answer → FillProg β}
    {Post : Except String β → Tables → Prop}
    (hok : ∀ r : FillReply, r.fault = none → Exactly FillCall.act (fun c w r => ¬ c.CutsOff w r)
      Post (¬ c.CutsOff w r) (f (c.answer (r.found w))) (c.exec (r.found w)))
    (hrefused : ∀ r : FillReply, r.fault = some .refused →
      (¬ c.CutsOff w r ↔ Post (.error "database error") (r.found w)))
    (hlost : ∀ r : FillReply, r.fault = some .lost →
      (¬ c.CutsOff w r ↔ Post (.error "database error") (c.exec (r.found w)))) :
    Exactly FillCall.act (fun c w r => ¬ c.CutsOff w r) Post True (run c >>= f) w := by
  refine exactly_perform fun r => ?_
  rcases act_cases (w := w) c r with ⟨hfault, heq⟩ | ⟨hfault, heq⟩ | ⟨hfault, heq⟩
  · rw [heq]
    exact hok r hfault
  · rw [heq]
    exact hrefused r hfault
  · rw [heq]
    exact hlost r hfault

/-- What a fill leaves, and that its key is recorded where the processing does not fail. -/
def FillDone (fill : FillInfo) (w : Tables) (x : Except String FillOutcome) (w' : Tables) : Prop :=
  FillStep fill w w' ∧
    ∀ outcome, x = .ok outcome → fill.fillId ≠ "" → fill.orderId ≠ "" →
      fillKey fill.fillId ∈ w'.keys

theorem order_of_upsert (row : OrderRow) :
    (w.upsertOrderByExchangeId row).exchangeIds[
      (w.upsertOrderByExchangeId row).exchangeIds.idxOf row.exchangeOrderId]? =
        some row.exchangeOrderId := by
  have hmem := w.upsertOrder_mem row
  rw [List.getElem?_eq_getElem (List.idxOf_lt_length_of_mem hmem), List.getElem_idxOf]

theorem storeFill_done {w₂ : Tables} (hnamed : fill.fillId ≠ "")
    (hfresh : fillKey fill.fillId ∉ w.keys)
    (hg : Grown (w.tryRecordIdempotencyKey (fillKey fill.fillId)) w₂) :
    wp FillCall.act (fun _ _ _ => True)
      (internalOrderId tradeId fill >>= fun orderId =>
        run (.upsertFillByExchangeFillId (fill.row orderId)) >>= fun _ => pure .applied)
      (FillDone fill w) w₂ := by
  have hkeyed : ∀ {w'}, Grown w₂ w' → FillStep fill w w' := fun h =>
    .keyed hnamed hfresh (hg.trans h)
  have hrecorded : fillKey fill.fillId ∈ w₂.keys := by
    rw [hg.keys, recorded_keys _ hfresh]
    exact List.mem_append_right _ (List.mem_singleton_self _)
  have hstore : ∀ w₃ id, Grown w₂ w₃ → w₃.exchangeIds[id]? = some fill.orderId →
      wp FillCall.act (fun _ _ _ => True)
        (run (.upsertFillByExchangeFillId (fill.row id)) >>= fun _ => pure FillOutcome.applied)
        (FillDone fill w) w₃ := by
    intro w₃ id h₃ horder
    have hrow : ∀ r : FillReply, FillStep fill w
        ((r.found w₃).upsertFillByExchangeFillId (fill.row id)) := fun r =>
      have hfound := grown_found w₃ r
      .stored hnamed hfresh (r.found w₃) ((hg.trans h₃).trans hfound) id
        (Rows.getElem?_of_prefix hfound.ids horder) rfl
    refine wp_send (fun r => ⟨hrow r, fun _ _ _ _ => ?_⟩) (fun r => ⟨?_, nofun⟩)
      fun r => ⟨hrow r, nofun⟩
    · change fillKey fill.fillId ∈ (r.found w₃).keys
      rw [(grown_found w₃ r).keys, h₃.keys]
      exact hrecorded
    · exact hkeyed (h₃.trans (grown_found w₃ r))
  unfold internalOrderId
  rw [Prog.bind_assoc]
  refine wp_send (fun r => ?_) (fun r => ⟨hkeyed (grown_found w₂ r), nofun⟩)
    fun r => ⟨hkeyed (grown_found w₂ r), nofun⟩
  have hfound := grown_found w₂ r
  change wp _ _ (_ >>= _) _ (r.found w₂)
  cases hlookup : FillCall.answer (r.found w₂) (.internalOrderIdByExchangeOrderId fill.orderId) with
  | some id => exact hstore _ id hfound (order_of_lookup hlookup)
  | none =>
    have hgrown : ∀ r' : FillReply, Grown w₂ (r'.found (r.found w₂)) := fun r' =>
      hfound.trans (grown_found _ r')
    have hafter : ∀ r' : FillReply, Grown w₂ ((r'.found (r.found w₂)).upsertOrderByExchangeId
        (orderFromFill tradeId fill)) := fun r' => (hgrown r').trans (grown_upsertOrder _ _)
    refine wp_send (fun r' => ?_) (fun r' => ⟨hkeyed (hgrown r'), nofun⟩)
      fun r' => ⟨hkeyed (hafter r'), nofun⟩
    exact hstore _ _ (hafter r') (order_of_upsert (orderFromFill tradeId fill))

theorem reconcileFill_done (tradeId : ℤ) (fill : FillInfo) (w : Tables) :
    wp FillCall.act (fun _ _ _ => True) (reconcileFill tradeId fill) (FillDone fill w) w := by
  unfold reconcileFill
  split_ifs with hempty
  · refine ⟨.kept (Grown.refl w), fun _ _ hfill horder => ?_⟩
    simp [hfill, horder] at hempty
  have hnamed : fill.fillId ≠ "" := by
    rintro h
    simp [h] at hempty
  refine wp_send (fun r => ?_) (fun r => ⟨.kept (grown_found w r), nofun⟩) fun r => ?_
  all_goals have hfound := grown_found w r
  · by_cases hmem : fillKey fill.fillId ∈ w.keys
    · have hanswer : FillCall.answer (r.found w) (.tryRecordIdempotencyKey (fillKey fill.fillId)) =
          false := by
        simp [FillCall.answer, hfound.keys, hmem]
      have hsame : (r.found w).tryRecordIdempotencyKey (fillKey fill.fillId) = r.found w := by
        rw [tryRecordIdempotencyKey, if_pos (hfound.keys ▸ hmem)]
      rw [hanswer, FillCall.exec, hsame]
      refine ⟨.kept hfound, fun _ _ _ _ => ?_⟩
      rw [hfound.keys]
      exact hmem
    · have hanswer : FillCall.answer (r.found w) (.tryRecordIdempotencyKey (fillKey fill.fillId)) =
          true := by
        simp [FillCall.answer, hfound.keys, hmem]
      rw [hanswer]
      exact storeFill_done hnamed hmem (hfound.record _)
  · refine ⟨?_, nofun⟩
    by_cases hmem : fillKey fill.fillId ∈ w.keys
    · refine .kept ?_
      rw [FillCall.exec, tryRecordIdempotencyKey, if_pos (hfound.keys ▸ hmem)]
      exact hfound
    · exact .keyed hnamed hmem (hfound.record _)

end Fill

/-! ### A pass -/

section Pass
variable {w : Tables} {listed : FillInfo → Prop} {fillId : String}

theorem applyFillReconcile_keeps {I : Tables → Prop} {fills : List FillInfo}
    (hI : ∀ fill ∈ fills, ∀ w w', FillStep fill w w' → I w → I w') (tradeId : ℤ)
    (counts : FillCounts) (hw : I w) :
    wp FillCall.act (fun _ _ _ => True) (applyFillReconcile tradeId fills counts)
      (fun _ w' => I w') w := by
  induction fills generalizing counts w with
  | nil => exact hw
  | cons fill fills ih =>
    have hhead := hI fill List.mem_cons_self
    refine wp_bind_of (reconcileFill_done tradeId fill w) (fun outcome w' h => ?_) fun e w' h => ?_
    · exact ih (fun f hf => hI f (List.mem_cons_of_mem fill hf)) _ (hhead w w' h.1 hw)
    · exact hhead w w' h.1 hw

theorem Tables.FillStep.keys {fill : FillInfo} {w w' : Tables} (h : FillStep fill w w')
    {key : String} (hkey : key ∈ w.keys) : key ∈ w'.keys := by
  have hrecorded : key ∈ (w.tryRecordIdempotencyKey (fillKey fill.fillId)).keys := by
    unfold tryRecordIdempotencyKey
    split_ifs
    · exact hkey
    · exact List.mem_append_left _ hkey
  cases h with
  | kept grown =>
    rw [grown.keys]
    exact hkey
  | keyed named fresh grown =>
    rw [grown.keys]
    exact hrecorded
  | stored named fresh between grown id order row =>
    rw [row]
    change key ∈ between.keys
    rw [grown.keys]
    exact hrecorded

theorem applyFillReconcile_keys {fill : FillInfo} {fills : List FillInfo} (hmem : fill ∈ fills)
    (hfill : fill.fillId ≠ "") (horder : fill.orderId ≠ "") (tradeId : ℤ) (counts : FillCounts) :
    wp FillCall.act (fun _ _ _ => True) (applyFillReconcile tradeId fills counts)
      (fun x w' => ∀ total, x = .ok total → fillKey fill.fillId ∈ w'.keys) w := by
  induction fills generalizing counts w with
  | nil => cases hmem
  | cons head fills ih =>
    refine wp_bind_of (reconcileFill_done tradeId head w) (fun outcome w' h => ?_) nofun
    rcases List.mem_cons.mp hmem with rfl | hmem
    · have hkey : fillKey fill.fillId ∈ w'.keys := h.2 outcome rfl hfill horder
      have hkept : ∀ f ∈ fills, ∀ w w', FillStep f w w' → fillKey fill.fillId ∈ w.keys →
          fillKey fill.fillId ∈ w'.keys := fun _ _ _ _ hstep => hstep.keys
      exact wp_mono (applyFillReconcile_keeps hkept tradeId _ hkey) fun _ _ h _ _ => h
    · exact ih hmem _

section Exactly
variable {fill : FillInfo} {fills : List FillInfo} {tradeId : ℤ} {counts : FillCounts}

variable (listed tradeId fills) in
/-- The passes over the other fills are as the law says. -/
def RestExactly : Prop :=
  ∀ w counts, Sound w listed → Exactly FillCall.act (fun c w r => ¬ c.CutsOff w r)
    (fun _ w' => w'.Settled) w.Settled (applyFillReconcile tradeId fills counts) w

theorem RestExactly.settled (hrest : RestExactly listed fills tradeId) (hw : w.Sound listed)
    (hsettled : w.Settled) {C : Prop} (hC : C) (counts : FillCounts) :
    Exactly FillCall.act (fun c w r => ¬ c.CutsOff w r) (fun _ w' => w'.Settled) C
      (applyFillReconcile tradeId fills counts) w :=
  exactly_congr (iff_of_true hsettled hC) (hrest w counts hw)

theorem storeFill_exactly (hrest : RestExactly listed fills tradeId) (hlisted : listed fill)
    (hw : w.Sound listed) (hlost : w.Lost fill.fillId) (hbut : w.SettledBut fill.fillId) :
    Exactly FillCall.act (fun c w r => ¬ c.CutsOff w r) (fun _ w' => w'.Settled) True
      (internalOrderId tradeId fill >>= fun orderId =>
        run (.upsertFillByExchangeFillId (fill.row orderId)) >>= fun _ =>
          applyFillReconcile tradeId fills (counts.add .applied)) w := by
  have hunsettled : ∀ {w'}, Grown w w' → ¬ w'.Settled := fun hg hall =>
    hall _ (hg.lost_iff.mpr hlost)
  have hstore : ∀ w₃ id, Grown w w₃ → w₃.exchangeIds[id]? = some fill.orderId →
      Exactly FillCall.act (fun c w r => ¬ c.CutsOff w r) (fun _ w' => w'.Settled) True
        (run (.upsertFillByExchangeFillId (fill.row id)) >>= fun _ =>
          applyFillReconcile tradeId fills (counts.add .applied)) w₃ := by
    intro w₃ id h₃ horder
    have hrow : ∀ r : FillReply,
        ((r.found w₃).upsertFillByExchangeFillId (fill.row id)).Settled := fun r =>
      (hbut.grown (h₃.trans (grown_found w₃ r))).stored id
    refine exactly_send (fun r hfault => ?_) (fun r hfault => ?_) fun r hfault => ?_
    · have hfound := h₃.trans (grown_found w₃ r)
      have horder' := Rows.getElem?_of_prefix (grown_found w₃ r).ids horder
      have hsound := (hw.grown hfound).stored (hlost.grown hfound) hlisted horder'
      exact hrest.settled hsound (hrow r) (by simp [FillCall.CutsOff, hfault]) _
    · exact iff_of_false (by simp [FillCall.CutsOff, hfault])
        (hunsettled (h₃.trans (grown_found w₃ r)))
    · exact iff_of_true (by simp [FillCall.CutsOff, hfault]) (hrow r)
  unfold internalOrderId
  rw [Prog.bind_assoc]
  refine exactly_send (fun r hfault => ?_) (fun r hfault => ?_) fun r hfault => ?_
  all_goals have hfound := grown_found w r
  · have hspared : ¬ (FillCall.internalOrderIdByExchangeOrderId fill.orderId).CutsOff w r := by
      simp [FillCall.CutsOff, hfault]
    refine exactly_of hspared ?_
    cases hlookup : FillCall.answer (r.found w)
      (.internalOrderIdByExchangeOrderId fill.orderId) with
    | some id => exact hstore _ id hfound (order_of_lookup hlookup)
    | none =>
      have hgrown : ∀ r' : FillReply, Grown w (r'.found (r.found w)) := fun r' =>
        hfound.trans (grown_found _ r')
      have hafter : ∀ r' : FillReply, Grown w ((r'.found (r.found w)).upsertOrderByExchangeId
          (orderFromFill tradeId fill)) := fun r' => (hgrown r').trans (grown_upsertOrder _ _)
      refine exactly_send (fun r' hfault' => ?_) (fun r' hfault' => ?_) fun r' hfault' => ?_
      · exact exactly_of (by simp [FillCall.CutsOff, hfault'])
          (hstore _ _ (hafter r') (order_of_upsert (orderFromFill tradeId fill)))
      · exact iff_of_false (by simp [FillCall.CutsOff, hfault']) (hunsettled (hgrown r'))
      · exact iff_of_false (by simp [FillCall.CutsOff, hfault']) (hunsettled (hafter r'))
  · exact iff_of_false (by simp [FillCall.CutsOff, hfault]) (hunsettled hfound)
  · exact iff_of_false (by simp [FillCall.CutsOff, hfault]) (hunsettled hfound)

theorem reconcileFill_exactly (hrest : RestExactly listed fills tradeId) (hlisted : listed fill)
    (hw : w.Sound listed) (hsettled : w.Settled) :
    Exactly FillCall.act (fun c w r => ¬ c.CutsOff w r) (fun _ w' => w'.Settled) True
      (applyFillReconcile tradeId (fill :: fills) counts) w := by
  unfold applyFillReconcile reconcileFill
  split_ifs with hempty
  · exact hrest.settled hw hsettled trivial _
  have hnamed : fill.fillId ≠ "" := by
    rintro h
    simp [h] at hempty
  rw [Prog.bind_assoc]
  refine exactly_send (fun r hfault => ?_) (fun r hfault => ?_) fun r hfault => ?_
  all_goals have hfound := grown_found w r
  · have hspared : ¬ (FillCall.tryRecordIdempotencyKey (fillKey fill.fillId)).CutsOff w r := by
      simp [FillCall.CutsOff, hfault]
    by_cases hmem : fillKey fill.fillId ∈ w.keys
    · have hanswer : FillCall.answer (r.found w) (.tryRecordIdempotencyKey (fillKey fill.fillId)) =
          false := by
        simp [FillCall.answer, hfound.keys, hmem]
      have hsame : (r.found w).tryRecordIdempotencyKey (fillKey fill.fillId) = r.found w := by
        rw [tryRecordIdempotencyKey, if_pos (hfound.keys ▸ hmem)]
      rw [hanswer, FillCall.exec, hsame]
      exact hrest.settled (hw.grown hfound) (hsettled.grown hfound) hspared _
    · have hanswer : FillCall.answer (r.found w) (.tryRecordIdempotencyKey (fillKey fill.fillId)) =
          true := by
        simp [FillCall.answer, hfound.keys, hmem]
      have hrecorded := hfound.record (fillKey fill.fillId)
      rw [hanswer]
      simp only [Bool.not_true, Bool.false_eq_true, if_false, Prog.bind_assoc, Prog.pure_bind]
      refine exactly_of hspared (storeFill_exactly hrest hlisted ?_ ?_ ?_)
      · exact (hw.recorded hnamed).grown hrecorded
      · exact (hw.lost_recorded hmem).grown hrecorded
      · exact (hsettled.recorded fill.fillId).grown hrecorded
  · exact iff_of_true (by simp [FillCall.CutsOff, hfault]) (hsettled.grown hfound)
  · have hrecorded := hfound.record (fillKey fill.fillId)
    by_cases hmem : fillKey fill.fillId ∈ w.keys
    · refine iff_of_true (by simp [FillCall.CutsOff, hmem]) ?_
      rw [FillCall.exec, tryRecordIdempotencyKey, if_pos (hfound.keys ▸ hmem)]
      exact hsettled.grown hfound
    · refine iff_of_false (by simp [FillCall.CutsOff, hfault, hmem]) fun hall => ?_
      exact hall _ ((hw.lost_recorded hmem).grown hrecorded)

end Exactly

theorem applyFillReconcile_exactly (tradeId : ℤ) {fills : List FillInfo}
    (hlisted : ∀ fill ∈ fills, listed fill) (counts : FillCounts) (hw : w.Sound listed) :
    Exactly FillCall.act (fun c w r => ¬ c.CutsOff w r) (fun _ w' => w'.Settled) w.Settled
      (applyFillReconcile tradeId fills counts) w := by
  induction fills generalizing counts w with
  | nil => exact exactly_done Iff.rfl
  | cons fill fills ih =>
    refine exactly_of_cases (fun hsettled => ?_) fun hlost => ?_
    · have hrest : RestExactly listed fills tradeId := fun w' counts h =>
        ih (fun f hf => hlisted f (List.mem_cons_of_mem fill hf)) counts h
      exact reconcileFill_exactly hrest (hlisted fill List.mem_cons_self) hw hsettled
    · obtain ⟨fillId, hid⟩ := not_forall_not.mp hlost
      have hkept : ∀ f ∈ fill :: fills, ∀ w w', FillStep f w w' → w.Lost fillId →
          w'.Lost fillId := fun _ _ _ _ hstep => hstep.lost
      refine wp_mono (applyFillReconcile_keeps hkept tradeId counts hid) ?_
      exact fun _ _ h hall => hall fillId h

theorem pass_sound {pass : FillPass} (hlisted : ∀ fill ∈ pass.fills, listed fill)
    (hw : w.Sound listed) : (pass.exec w).Sound listed := by
  have hkept : ∀ f ∈ pass.fills, ∀ w w', FillStep f w w' → w.Sound listed → w'.Sound listed :=
    fun f hf _ _ hstep h => hstep.sound (hlisted f hf) h
  exact wp_sound FillCall.act _ (applyFillReconcile_keeps hkept pass.tradeId {} hw)
    (meets_true FillCall.act _ _ _)

end Pass

/-! ### Runs of passes -/

/-- The pass returned without an error. -/
def FillPass.Completes (w : Tables) (pass : FillPass) : Prop :=
  ∃ counts, (Prog.exec FillCall.act (applyFillReconcile pass.tradeId pass.fills {}) pass.replies
    w).1 = .ok counts

/-- No call of the pass fails between the record of a fill's key and the storage of the fill. -/
def FillPass.CutsOffNone (w : Tables) (pass : FillPass) : Prop :=
  Meets FillCall.act (fun c w r => ¬ c.CutsOff w r)
    (applyFillReconcile pass.tradeId pass.fills {}) pass.replies w

instance (w : Tables) (pass : FillPass) : Decidable (pass.CutsOffNone w) :=
  inferInstanceAs (Decidable (Meets _ _ _ _ _))

/-- A fill some pass is given. -/
def Listed (passes : List FillPass) (fill : FillInfo) : Prop :=
  ∃ pass ∈ passes, fill ∈ pass.fills

def reconcileRun (passes : List FillPass) : Tables := passes.foldl FillPass.exec {}

section Runs
variable {listed : FillInfo → Prop}

theorem sound_init : Sound {} listed where
  named := by simp
  keyed := by simp
  rows := by simp
  once := by simp [fillIds]

theorem settled_init : Settled {} := fun fillId h => by simp [Lost] at h

theorem sound_run {w : Tables} {passes : List FillPass}
    (hlisted : ∀ fill, Listed passes fill → listed fill) (hw : w.Sound listed) :
    (passes.foldl FillPass.exec w).Sound listed := by
  induction passes generalizing w with
  | nil => exact hw
  | cons pass passes ih =>
    refine ih (fun fill h => ?_) (pass_sound (fun fill hf => ?_) hw)
    · obtain ⟨p, hp, hf⟩ := h
      exact hlisted fill ⟨p, List.mem_cons_of_mem pass hp, hf⟩
    · exact hlisted fill ⟨pass, List.mem_cons_self, hf⟩

theorem settled_run_iff {w : Tables} {passes : List FillPass}
    (hlisted : ∀ fill, Listed passes fill → listed fill) (hw : w.Sound listed) :
    (passes.foldl FillPass.exec w).Settled ↔
      w.Settled ∧ Runs.EachStep FillPass.exec FillPass.CutsOffNone w passes := by
  induction passes generalizing w with
  | nil => exact (and_iff_left trivial).symm
  | cons pass passes ih =>
    have hhead : ∀ fill ∈ pass.fills, listed fill := fun fill hf =>
      hlisted fill ⟨pass, List.mem_cons_self, hf⟩
    have htail : ∀ fill, Listed passes fill → listed fill := by
      rintro fill ⟨p, hp, hf⟩
      exact hlisted fill ⟨p, List.mem_cons_of_mem pass hp, hf⟩
    have hpass : (pass.exec w).Settled ↔ w.Settled ∧ pass.CutsOffNone w :=
      applyFillReconcile_exactly pass.tradeId hhead {} hw pass.replies
    rw [List.foldl_cons, ih htail (pass_sound hhead hw), hpass, Runs.EachStep, and_assoc]

theorem completed_key {w : Tables} {pass : FillPass} (h : pass.Completes w) {fill : FillInfo}
    (hmem : fill ∈ pass.fills) (hfill : fill.fillId ≠ "") (horder : fill.orderId ≠ "") :
    fillKey fill.fillId ∈ (pass.exec w).keys := by
  obtain ⟨counts, hcounts⟩ := h
  exact wp_sound FillCall.act _ (applyFillReconcile_keys hmem hfill horder pass.tradeId {})
    (meets_true FillCall.act _ _ _) counts hcounts

theorem Tables.Sound.storedOnce {w : Tables} (hw : w.Sound listed) (hsettled : w.Settled)
    {fillId : String} (hkey : fillKey fillId ∈ w.keys) : w.StoredOnce listed fillId := by
  have hmem : fillId ∈ w.fillIds := by
    by_contra hno
    exact hsettled fillId ⟨hkey, hno⟩
  obtain ⟨row, hrow, hid⟩ := List.mem_map.mp hmem
  obtain ⟨fill, hlisted, id, horder, heq⟩ := hw.rows row hrow
  have hname : fill.fillId = fillId := by
    rw [← hid, heq]
    rfl
  refine ⟨fill, hlisted, hname, id, horder, ?_⟩
  rw [← heq, ← hid]
  exact Rows.filter_keyed FillRow.fillId hw.once hrow

end Runs

/-- Once a pass after them does not fail, every fill listed to it is stored exactly once. -/
def FillsKept (passes : List FillPass) : Prop :=
  ∀ later : FillPass, later.Completes (reconcileRun passes) →
    ∀ fill ∈ later.fills, fill.fillId ≠ "" → fill.orderId ≠ "" →
      (later.exec (reconcileRun passes)).StoredOnce (Listed (passes ++ [later])) fill.fillId

theorem applyFillReconcile_strict (tradeId : ℤ) (fills : List FillInfo) (counts : FillCounts) :
    Strict (applyFillReconcile tradeId fills counts) := by
  have horder : ∀ fill, Strict (internalOrderId tradeId fill) := fun fill =>
    (strict_perform _).bind fun found => by
      cases found
      · exact strict_perform _
      · exact strict_pure _
  induction fills generalizing counts with
  | nil => exact strict_pure _
  | cons fill fills ih =>
    refine Strict.bind ?_ fun outcome => ih _
    unfold reconcileFill
    split_ifs
    · exact strict_pure _
    refine (strict_perform _).bind fun new => ?_
    split_ifs
    · exact strict_pure _
    · exact (horder fill).bind fun id => (strict_perform _).bind fun _ => strict_pure _

theorem FillPass.Completes.cutsOffNone {w : Tables} {pass : FillPass} (h : pass.Completes w) :
    pass.CutsOffNone w := by
  obtain ⟨counts, hcounts⟩ := h
  have hanswered := (applyFillReconcile_strict _ _ _).meets FillCall.act hcounts
  refine Meets.mono FillCall.act _ ?_ hanswered
  rintro c w r ⟨b, hb⟩
  have hfault : r.fault = none := by
    rcases act_cases (w := w) c r with ⟨hfault, -⟩ | ⟨-, heq⟩ | ⟨-, heq⟩
    · exact hfault
    · rw [heq] at hb
      cases hb
    · rw [heq] at hb
      cases hb
  cases c <;> simp [FillCall.CutsOff, hfault]

theorem known_fill_completes {w : Tables} {fill : FillInfo} (hkey : fillKey fill.fillId ∈ w.keys) :
    FillPass.Completes w ⟨0, [fill], []⟩ := by
  unfold FillPass.Completes applyFillReconcile reconcileFill
  split_ifs
  · exact ⟨_, rfl⟩
  have hanswer : FillCall.answer w (.tryRecordIdempotencyKey (fillKey fill.fillId)) = false := by
    simp [FillCall.answer, hkey]
  change ∃ counts, (Prog.exec FillCall.act (Prog.bind (Prog.bind (Prog.done
    (FillCall.answer w (.tryRecordIdempotencyKey (fillKey fill.fillId)))) _) _) _ _).1 = .ok counts
  rw [hanswer]
  exact ⟨_, rfl⟩

/-- In every run of passes over any lists of fills, a fill is kept for the passes to come exactly
when no call fails between the record of a fill's key and the storage of the fill. -/
theorem reconcile_keeps_fills_iff (passes : List FillPass) :
    FillsKept passes ↔ Runs.EachStep FillPass.exec FillPass.CutsOffNone {} passes := by
  have hsound : ∀ later, (reconcileRun passes).Sound (Listed (passes ++ [later])) := by
    intro later
    refine sound_run (fun fill h => ?_) sound_init
    obtain ⟨pass, hpass, hf⟩ := h
    exact ⟨pass, List.mem_append_left _ hpass, hf⟩
  have hlisted : ∀ later, ∀ fill ∈ later.fills, Listed (passes ++ [later]) fill :=
    fun later fill hf => ⟨later, by simp, hf⟩
  have hrun : (reconcileRun passes).Settled ↔
      Runs.EachStep FillPass.exec FillPass.CutsOffNone {} passes :=
    (settled_run_iff (fun _ h => h) sound_init).trans (and_iff_right settled_init)
  rw [← hrun]
  constructor
  · intro hkept fillId hlost
    have hnamed : fillId ≠ "" := by
      rintro rfl
      exact (hsound ⟨0, [], []⟩).named hlost.1
    let fill : FillInfo := { fillId, orderId := "order", price := 0, size := 0 }
    let later : FillPass := ⟨0, [fill], []⟩
    have hlater : (later.exec (reconcileRun passes)).Lost fillId := by
      have hall : ∀ f ∈ later.fills, ∀ w w', FillStep f w w' → w.Lost fillId → w'.Lost fillId :=
        fun _ _ _ _ hstep h => hstep.lost h
      exact wp_sound FillCall.act _ (applyFillReconcile_keeps hall 0 {} hlost)
        (meets_true FillCall.act _ _ _)
    obtain ⟨f, -, -, id, -, hrow⟩ := hkept later (known_fill_completes hlost.1) fill
      (List.mem_singleton_self fill) hnamed (by simp [fill])
    have hmem : f.row id ∈ (later.exec (reconcileRun passes)).fills.filter
        (·.fillId = fill.fillId) := by
      rw [hrow]
      exact List.mem_singleton_self _
    obtain ⟨hrows, hid⟩ := List.mem_filter.mp hmem
    have hname : (f.row id).fillId = fillId := of_decide_eq_true hid
    exact hlater.2 (hname ▸ List.mem_map_of_mem hrows)
  · intro hsettled later hcompletes fill hmem hfill horder
    have hafter : (later.exec (reconcileRun passes)).Settled :=
      (applyFillReconcile_exactly later.tradeId (hlisted later) {} (hsound later)
        later.replies).mpr ⟨hsettled, hcompletes.cutsOffNone⟩
    exact (pass_sound (hlisted later) (hsound later)).storedOnce hafter
      (completed_key hcompletes hmem hfill horder)

def sampleFill : FillInfo := { fillId := "f", orderId := "o", price := 1 / 2, size := 10 }

/-- The row of the fill is refused after its key is recorded. -/
def refusedPass : FillPass := ⟨7, [sampleFill], [{}, {}, {}, { fault := some .refused }]⟩

/-- The next pass completes and does not store the fill. -/
theorem refused_fill_lost : ¬ FillsKept [refusedPass] := by
  intro hkept
  have hcompletes : FillPass.Completes (reconcileRun [refusedPass]) ⟨0, [sampleFill], []⟩ :=
    known_fill_completes (by decide +kernel)
  have hempty : (FillPass.exec (reconcileRun [refusedPass]) ⟨0, [sampleFill], []⟩).fills.length =
      0 := by
    decide +kernel
  obtain ⟨fill, -, -, id, -, hrow⟩ := hkept _ hcompletes sampleFill
    (List.mem_singleton_self sampleFill) (by decide) (by decide)
  rw [List.length_eq_zero_iff.mp hempty] at hrow
  cases hrow

end PolymarketBot.Reconcile
