import PolymarketBot.DualSide.LegFills

/-! Which fills of a dual-side basket are booked to their legs, and which are lost. -/

namespace PolymarketBot.DualSide
open Lib Reconcile

/-- The fills of an exchange, each under its own id. -/
structure FillSource where
  fill : String → FillInfo
  named : ∀ id, (fill id).fillId = id

/-- The events of a basket's life: orders of its legs become known, and polls list fills. -/
inductive LegEvent where
  | placed (row : OrderRow) (orderMeta : OrderMeta) (fault : Option CallFault)
  | leveled (side : LegSide) (price : ℚ)
  | poll (listed : Option (List String)) (replies : List LegFillReply)

variable (source : FillSource)

def LiveFills.step (s : LiveFills) : LegEvent → LiveFills
  | .placed row orderMeta fault => s.placed row orderMeta fault
  | .leveled side price => s.leveled side price
  | .poll listed replies => (s.processLiveDualFills (listed.map (·.map source.fill)) replies).2

def LiveFills.run (s : LiveFills) (events : List LegEvent) : LiveFills :=
  events.foldl (LiveFills.step source) s

namespace LiveFills
variable {source}

/-- A fill with metadata is booked when nothing on the way fails. -/
def Books (s : LiveFills) (fill : FillInfo) (r : LegFillReply) : Prop :=
  (s.metaOf fill.orderId).isSome ∧ r.lookupFails = false ∧
    (s.tables.internalOrderIdByExchangeOrderId fill.orderId).isSome ∧ r.upsert = none

/-- The fill is listed for the first time, it is one of the known orders, and it is not booked. -/
def CutsOff (known : String → Prop) (s : LiveFills) (fill : FillInfo) (r : LegFillReply) : Prop :=
  fill.fillId ≠ "" ∧ fill.orderId ≠ "" ∧ fill.fillId ∉ s.seenFillIds ∧ known fill.orderId ∧
    ¬ s.Books fill r

def CutsOffNone (known : String → Prop) (s : LiveFills) : List FillInfo → List LegFillReply → Prop
  | [], _ => True
  | fill :: fills, replies =>
    ¬ s.CutsOff known fill (replies.headD default) ∧
      match s.processFill fill (replies.headD default) with
      | (.error _, _) => True
      | (.ok (), s) => CutsOffNone known s fills replies.tail

def appliedIds (s : LiveFills) : List String := s.applied.map (·.fill.fillId)

/-- What holds in every run: fills are booked once, after they are seen; a seen fill has both of
its ids; and an order with metadata has its row. -/
structure Sound (source : FillSource) (s : LiveFills) : Prop where
  once : s.appliedIds.Nodup
  seen : ∀ x ∈ s.applied, x.fill = source.fill x.fill.fillId ∧ x.fill.fillId ∈ s.seenFillIds
  named : ∀ id ∈ s.seenFillIds, id ≠ "" ∧ (source.fill id).orderId ≠ ""
  rows : ∀ orderId, (s.metaOf orderId).isSome → orderId ∈ s.tables.exchangeIds

/-- A seen fill of a known order is not booked. -/
def Missed (source : FillSource) (known : String → Prop) (s : LiveFills) (id : String) : Prop :=
  id ∈ s.seenFillIds ∧ id ∉ s.appliedIds ∧ known (source.fill id).orderId

/-- What becomes of a fill that is seen for the first time. -/
inductive SeenStep (fill : FillInfo) (r : LegFillReply) (s : LiveFills) :
    Except String Unit × LiveFills → Prop
  | dropped (hbooks : ¬ s.Books fill r) (x : Except String Unit) (tables : Tables)
      (ids : tables.exchangeIds = s.tables.exchangeIds) :
      SeenStep fill r s (x, { s with tables })
  | booked (hbooks : s.Books fill r) (orderMeta : OrderMeta)
      (known : s.metaOf fill.orderId = some orderMeta) (tables : Tables)
      (ids : tables.exchangeIds = s.tables.exchangeIds) :
      SeenStep fill r s (.ok (), bookFill { s with tables } fill orderMeta)

theorem processSeenFill_step (s : LiveFills) (fill : FillInfo) (r : LegFillReply) :
    SeenStep fill r s (s.processSeenFill fill r) := by
  unfold processSeenFill
  cases hmeta : s.metaOf fill.orderId with
  | none =>
    have hbooks : ¬ s.Books fill r := fun h => by simp [Books, hmeta] at h
    exact .dropped hbooks _ s.tables rfl
  | some orderMeta =>
    cases hfails : r.lookupFails with
    | true =>
      have hbooks : ¬ s.Books fill r := fun h => by simp [Books, hfails] at h
      exact .dropped hbooks _ s.tables rfl
    | false =>
      cases hrow : s.tables.internalOrderIdByExchangeOrderId fill.orderId with
      | none =>
        have hbooks : ¬ s.Books fill r := fun h => by simp [Books, hrow] at h
        exact .dropped hbooks _ s.tables rfl
      | some orderId =>
        cases hupsert : r.upsert with
        | none => exact .booked ⟨by simp [hmeta], hfails, by simp [hrow], hupsert⟩ _ hmeta _ rfl
        | some fault =>
          have hbooks : ¬ s.Books fill r := fun h => by simp [Books, hupsert] at h
          cases fault with
          | refused => exact .dropped hbooks _ s.tables rfl
          | lost => exact .dropped hbooks _ _ rfl

/-- The id of a fill is in the set before its fate is decided. -/
def see (s : LiveFills) (fillId : String) : LiveFills :=
  { s with seenFillIds := s.seenFillIds ++ [fillId] }

theorem processFill_known {s : LiveFills} {fill : FillInfo} (r : LegFillReply)
    (h : fill.fillId = "" ∨ fill.orderId = "" ∨ fill.fillId ∈ s.seenFillIds) :
    s.processFill fill r = (.ok (), s) := by
  unfold processFill
  rcases h with h | h | h
  · simp [h]
  · simp [h]
  · split_ifs <;> rfl

theorem processFill_fresh {s : LiveFills} {fill : FillInfo} (r : LegFillReply)
    (hnamed : fill.fillId ≠ "") (horder : fill.orderId ≠ "") (hfresh : fill.fillId ∉ s.seenFillIds) :
    s.processFill fill r = (s.see fill.fillId).processSeenFill fill r := by
  have hempty : ¬ (fill.fillId.isEmpty || fill.orderId.isEmpty) = true := by simp [hnamed, horder]
  rw [processFill, if_neg hempty, if_neg hfresh]
  rfl

section Fill
variable {s : LiveFills} {id : String} {r : LegFillReply} {known : String → Prop}

theorem Sound.see (h : s.Sound source) (hid : id ≠ "") (horder : (source.fill id).orderId ≠ "") :
    (s.see id).Sound source where
  once := h.once
  seen x hx := by
    obtain ⟨hfill, hmem⟩ := h.seen x hx
    exact ⟨hfill, List.mem_append_left _ hmem⟩
  named other hother := by
    rcases List.mem_append.mp hother with hold | hnew
    · exact h.named other hold
    · rw [List.mem_singleton.mp hnew]
      exact ⟨hid, horder⟩
  rows := h.rows

theorem Sound.tables {tables : Tables} (h : s.Sound source)
    (ids : tables.exchangeIds = s.tables.exchangeIds) : Sound source { s with tables } where
  once := h.once
  seen := h.seen
  named := h.named
  rows orderId hmeta := ids ▸ h.rows orderId hmeta

theorem Sound.bookFill (h : s.Sound source) (hseen : id ∈ s.seenFillIds)
    (hfresh : id ∉ s.appliedIds) (orderMeta : OrderMeta) :
    (s.bookFill (source.fill id) orderMeta).Sound source where
  once := by
    unfold appliedIds LiveFills.bookFill
    rw [List.map_append, List.map_singleton, source.named]
    refine List.nodup_append.mpr ⟨h.once, by simp, ?_⟩
    intro a ha b hb hab
    rw [List.mem_singleton.mp hb] at hab
    exact hfresh (hab ▸ ha)
  seen x hx := by
    rcases List.mem_append.mp hx with hold | hnew
    · exact h.seen x hold
    · rw [List.mem_singleton.mp hnew]
      simp only [source.named]
      exact ⟨trivial, hseen⟩
  named := h.named
  rows := h.rows

theorem Sound.appliedIds_seen (h : s.Sound source) (hid : id ∈ s.appliedIds) :
    id ∈ s.seenFillIds := by
  obtain ⟨x, hx, rfl⟩ := List.mem_map.mp hid
  exact (h.seen x hx).2

theorem processFill_cases (s : LiveFills) (fill : FillInfo) (r : LegFillReply) :
    ((fill.fillId = "" ∨ fill.orderId = "" ∨ fill.fillId ∈ s.seenFillIds) ∧
        s.processFill fill r = (.ok (), s)) ∨
      ((fill.fillId ≠ "" ∧ fill.orderId ≠ "" ∧ fill.fillId ∉ s.seenFillIds) ∧
        SeenStep fill r (s.see fill.fillId) (s.processFill fill r)) := by
  by_cases h : fill.fillId = "" ∨ fill.orderId = "" ∨ fill.fillId ∈ s.seenFillIds
  · exact .inl ⟨h, processFill_known r h⟩
  · obtain ⟨hnamed, hrest⟩ := not_or.mp h
    obtain ⟨horder, hfresh⟩ := not_or.mp hrest
    refine .inr ⟨⟨hnamed, horder, hfresh⟩, ?_⟩
    rw [processFill_fresh r hnamed horder hfresh]
    exact processSeenFill_step _ fill r

theorem Sound.processFill (h : s.Sound source) (id : String) (r : LegFillReply) :
    (s.processFill (source.fill id) r).2.Sound source := by
  rcases processFill_cases s (source.fill id) r with ⟨-, heq⟩ | ⟨⟨hnamed, horder, hfresh⟩, hstep⟩
  · rw [heq]
    exact h
  · rw [source.named] at hnamed hfresh hstep
    have hsee := h.see hnamed horder
    generalize s.processFill (source.fill id) r = out at hstep ⊢
    cases hstep with
    | dropped hbooks x tables ids => exact hsee.tables ids
    | booked hbooks orderMeta known tables ids =>
      refine (hsee.tables ids).bookFill ?_ ?_ orderMeta
      · exact List.mem_append_right _ (List.mem_singleton_self id)
      · exact fun hmem => hfresh (h.appliedIds_seen hmem)

def NoneMissed (source : FillSource) (known : String → Prop) (s : LiveFills) : Prop :=
  ∀ id, ¬ s.Missed source known id

theorem noneMissed_processFill (h : s.Sound source) (id : String) (r : LegFillReply) :
    NoneMissed source known (s.processFill (source.fill id) r).2 ↔
      NoneMissed source known s ∧ ¬ s.CutsOff known (source.fill id) r := by
  rcases processFill_cases s (source.fill id) r with ⟨hpass, heq⟩ | ⟨⟨hnamed, horder, hfresh⟩, hstep⟩
  · rw [heq]
    refine (and_iff_left fun hcut => ?_).symm
    obtain ⟨hnamed, horder, hfresh, -⟩ := hcut
    rcases hpass with hno | hno | hno
    · exact hnamed hno
    · exact horder hno
    · exact hfresh hno
  · have hcut : s.CutsOff known (source.fill id) r ↔
        known (source.fill id).orderId ∧ ¬ s.Books (source.fill id) r := by
      unfold CutsOff
      simp [hnamed, horder, hfresh]
    rw [hcut]
    rw [source.named] at hfresh hstep
    have hunapplied : id ∉ s.appliedIds := fun hmem => hfresh (h.appliedIds_seen hmem)
    generalize s.processFill (source.fill id) r = out at hstep ⊢
    cases hstep with
    | dropped hbooks x tables ids =>
      have hmissed : ∀ other, Missed source known { s.see id with tables } other ↔
          s.Missed source known other ∨ other = id ∧ known (source.fill id).orderId := by
        intro other
        unfold Missed
        change other ∈ s.seenFillIds ++ [id] ∧ other ∉ s.appliedIds ∧ _ ↔ _
        rw [List.mem_append, List.mem_singleton]
        constructor
        · rintro ⟨hold | rfl, happlied, hknown⟩
          · exact .inl ⟨hold, happlied, hknown⟩
          · exact .inr ⟨rfl, hknown⟩
        · rintro (⟨hold, happlied, hknown⟩ | ⟨rfl, hknown⟩)
          · exact ⟨.inl hold, happlied, hknown⟩
          · exact ⟨.inr rfl, hunapplied, hknown⟩
      have hspared : ¬ (known (source.fill id).orderId ∧ ¬ s.Books (source.fill id) r) ↔
          ¬ known (source.fill id).orderId :=
        not_congr (and_iff_left hbooks)
      rw [hspared]
      constructor
      · intro hnone
        exact ⟨fun other hold => hnone other ((hmissed other).mpr (.inl hold)),
          fun hknown => hnone id ((hmissed id).mpr (.inr ⟨rfl, hknown⟩))⟩
      · rintro ⟨hnone, hknown⟩ other hmiss
        rcases (hmissed other).mp hmiss with hold | ⟨-, hnew⟩
        · exact hnone other hold
        · exact hknown hnew
    | booked hbooks orderMeta known' tables ids =>
      have hmissed : ∀ other, Missed source known (bookFill { s.see id with tables }
          (source.fill id) orderMeta) other ↔ s.Missed source known other := by
        intro other
        unfold Missed appliedIds bookFill see
        simp only [List.map_append, List.map_singleton, source.named, List.mem_append,
          List.mem_singleton, not_or]
        constructor
        · rintro ⟨hold | hnew, ⟨happlied, hother⟩, hknown⟩
          · exact ⟨hold, happlied, hknown⟩
          · exact absurd hnew hother
        · rintro ⟨hold, happlied, hknown⟩
          exact ⟨.inl hold, ⟨happlied, fun hnew => hfresh (hnew ▸ hold)⟩, hknown⟩
      have hspared : ¬ (known (source.fill id).orderId ∧ ¬ s.Books (source.fill id) r) :=
        fun hcut => hcut.2 hbooks
      rw [and_iff_left hspared]
      exact forall_congr' fun other => not_congr (hmissed other)

end Fill

/-! ### Polls and runs -/

theorem processFills_cons (s : LiveFills) (fill : FillInfo) (fills : List FillInfo)
    (replies : List LegFillReply) :
    s.processFills (fill :: fills) replies =
      match s.processFill fill (replies.headD default) with
      | (.error e, s) => (.error e, s)
      | (.ok (), s) => s.processFills fills replies.tail := rfl

theorem processFills_next {s : LiveFills} {fill : FillInfo} (fills : List FillInfo)
    {replies : List LegFillReply} (h : (s.processFill fill (replies.headD default)).1 = .ok ()) :
    s.processFills (fill :: fills) replies =
      (s.processFill fill (replies.headD default)).2.processFills fills replies.tail := by
  rw [processFills_cons]
  rcases hout : s.processFill fill (replies.headD default) with ⟨x, s'⟩
  rw [hout] at h
  obtain rfl : x = .ok () := h
  rfl

theorem cutsOffNone_next {s : LiveFills} {known : String → Prop} {fill : FillInfo}
    (fills : List FillInfo) {replies : List LegFillReply}
    (h : (s.processFill fill (replies.headD default)).1 = .ok ()) :
    s.CutsOffNone known (fill :: fills) replies ↔ ¬ s.CutsOff known fill (replies.headD default) ∧
      (s.processFill fill (replies.headD default)).2.CutsOffNone known fills replies.tail := by
  rw [CutsOffNone]
  rcases hout : s.processFill fill (replies.headD default) with ⟨x, s'⟩
  rw [hout] at h
  obtain rfl : x = .ok () := h
  rfl

theorem processFills_keeps {I : LiveFills → Prop}
    (hI : ∀ s id r, I s → I (s.processFill (source.fill id) r).2) {s : LiveFills} (hs : I s)
    (ids : List String) (replies : List LegFillReply) :
    I (s.processFills (ids.map source.fill) replies).2 := by
  induction ids generalizing s replies with
  | nil => exact hs
  | cons id ids ih =>
    have hnext := hI s id (replies.headD default) hs
    rw [List.map_cons, processFills_cons]
    rcases hout : s.processFill (source.fill id) (replies.headD default) with ⟨x, s'⟩
    rw [hout] at hnext
    cases x with
    | error e => exact hnext
    | ok u => exact ih hnext _

theorem noneMissed_processFills {s : LiveFills} {known : String → Prop} (h : s.Sound source)
    (ids : List String) (replies : List LegFillReply) :
    NoneMissed source known (s.processFills (ids.map source.fill) replies).2 ↔
      NoneMissed source known s ∧ s.CutsOffNone known (ids.map source.fill) replies := by
  induction ids generalizing s replies with
  | nil => exact (and_iff_left trivial).symm
  | cons id ids ih =>
    have hnext := h.processFill id (replies.headD default)
    have hmissed := @noneMissed_processFill source s known h id (replies.headD default)
    rw [List.map_cons, processFills_cons, CutsOffNone]
    rcases hout : s.processFill (source.fill id) (replies.headD default) with ⟨x, s'⟩
    rw [hout] at hnext hmissed
    cases x with
    | error e => exact hmissed.trans (and_congr_right fun _ => (and_iff_left trivial).symm)
    | ok u => rw [ih hnext, hmissed, and_assoc]

end LiveFills

/-- An event of the run cuts no fill of a known order off. -/
def LegEvent.CutsOffNone (known : String → Prop) (s : LiveFills) : LegEvent → Prop
  | .poll (some ids) replies => s.CutsOffNone known (ids.map source.fill) replies
  | _ => True

namespace LiveFills
variable {source}

theorem Sound.placed {s : LiveFills} (h : s.Sound source) (row : OrderRow) (orderMeta : OrderMeta)
    (fault : Option CallFault) : (s.placed row orderMeta fault).Sound source := by
  have hids : s.tables.exchangeIds <+: (s.tables.upsertOrderByExchangeId row).exchangeIds :=
    Tables.upsertOrder_ids_prefix s.tables row
  have hwritten : Sound source { s with tables := s.tables.upsertOrderByExchangeId row } :=
    ⟨h.once, h.seen, h.named, fun orderId hmeta => hids.subset (h.rows orderId hmeta)⟩
  cases fault with
  | some fault =>
    cases fault with
    | refused => exact h
    | lost => exact hwritten
  | none =>
    refine ⟨h.once, h.seen, h.named, fun orderId hmeta => ?_⟩
    change (List.lookup orderId ((row.exchangeOrderId, orderMeta) :: s.orderMeta)).isSome at hmeta
    by_cases hrow : orderId = row.exchangeOrderId
    · rw [hrow]
      exact Tables.upsertOrder_mem s.tables row
    · rw [List.lookup_cons, beq_false_of_ne hrow] at hmeta
      exact hids.subset (h.rows orderId hmeta)

theorem Sound.step {s : LiveFills} (h : s.Sound source) (e : LegEvent) :
    (s.step source e).Sound source := by
  cases e with
  | placed row orderMeta fault => exact h.placed row orderMeta fault
  | leveled side price => exact ⟨h.once, h.seen, h.named, h.rows⟩
  | poll listed replies =>
    cases listed with
    | none => exact h
    | some ids => exact processFills_keeps (fun _ id r hs => hs.processFill id r) h ids replies

theorem noneMissed_step {s : LiveFills} {known : String → Prop} (h : s.Sound source)
    (e : LegEvent) :
    NoneMissed source known (s.step source e) ↔
      NoneMissed source known s ∧ e.CutsOffNone source known s := by
  cases e with
  | placed row orderMeta fault =>
    have hsame : NoneMissed source known (s.placed row orderMeta fault) ↔
        NoneMissed source known s := by
      unfold LiveFills.placed
      cases fault with
      | none => exact Iff.rfl
      | some fault => cases fault <;> exact Iff.rfl
    exact hsame.trans (and_iff_left trivial).symm
  | leveled side price => exact (and_iff_left trivial).symm
  | poll listed replies =>
    cases listed with
    | none => exact (and_iff_left trivial).symm
    | some ids => exact noneMissed_processFills h ids replies

theorem Sound.run {s : LiveFills} (h : s.Sound source) (events : List LegEvent) :
    (s.run source events).Sound source := by
  induction events generalizing s with
  | nil => exact h
  | cons e events ih => exact ih (h.step e)

theorem noneMissed_run {s : LiveFills} {known : String → Prop} (h : s.Sound source)
    (events : List LegEvent) :
    NoneMissed source known (s.run source events) ↔ NoneMissed source known s ∧
      Runs.EachStep (step source) (fun s e => e.CutsOffNone source known s) s events := by
  induction events generalizing s with
  | nil => exact (and_iff_left trivial).symm
  | cons e events ih =>
    change NoneMissed source known ((s.step source e).run source events) ↔ _
    rw [ih (h.step e), noneMissed_step h e, Runs.EachStep, and_assoc]

/-! ### Books of the legs -/

/-- Each leg's position is the fold of the fills booked to it. -/
def BooksAgree (start : DualBasketRuntime) (s : LiveFills) : Prop :=
  ∀ side, (s.basket.leg side).position =
    (s.applied.filter (·.orderMeta.legSide = side)).foldl LegFill.book (start.leg side).position

theorem BooksAgree.bookFill {start : DualBasketRuntime} {s : LiveFills} (h : s.BooksAgree start)
    (fill : FillInfo) (orderMeta : OrderMeta) : (s.bookFill fill orderMeta).BooksAgree start := by
  intro side
  unfold LiveFills.bookFill
  rw [DualBasketRuntime.leg_modifyLeg, List.filter_append]
  by_cases hside : side = orderMeta.legSide
  · rw [if_pos hside, List.filter_cons_of_pos (by simp [hside]), List.filter_nil,
      List.foldl_append, ← h side, hside]
    exact applyFillToLeg_position _ ⟨orderMeta, fill⟩
  · rw [if_neg hside, List.filter_cons_of_neg (by simp [Ne.symm hside]), List.filter_nil,
      List.append_nil]
    exact h side

theorem BooksAgree.processFill {start : DualBasketRuntime} {s : LiveFills}
    (h : s.BooksAgree start) (fill : FillInfo) (r : LegFillReply) :
    (s.processFill fill r).2.BooksAgree start := by
  rcases processFill_cases s fill r with ⟨-, heq⟩ | ⟨-, hstep⟩
  · rw [heq]
    exact h
  · generalize s.processFill fill r = out at hstep ⊢
    cases hstep with
    | dropped hbooks x tables ids => exact h
    | booked hbooks orderMeta known tables ids =>
      have hsee : BooksAgree start { s.see fill.fillId with tables } := h
      exact hsee.bookFill fill orderMeta

theorem BooksAgree.step {start : DualBasketRuntime} {s : LiveFills} (h : s.BooksAgree start)
    (e : LegEvent) : (s.step source e).BooksAgree start := by
  cases e with
  | placed row orderMeta fault =>
    unfold LiveFills.step LiveFills.placed
    cases fault with
    | none => exact h
    | some fault => cases fault <;> exact h
  | leveled side price =>
    intro other
    change DualLegRuntime.position (DualBasketRuntime.leg (DualBasketRuntime.modifyLeg _ _ _) _) = _
    rw [DualBasketRuntime.leg_modifyLeg]
    split_ifs with hside
    · rw [hside]
      exact h side
    · exact h other
  | poll listed replies =>
    cases listed with
    | none => exact h
    | some ids => exact processFills_keeps (fun _ id r hs => hs.processFill _ r) h ids replies

theorem BooksAgree.run {start : DualBasketRuntime} {s : LiveFills} (h : s.BooksAgree start)
    (events : List LegEvent) : (s.run source events).BooksAgree start := by
  induction events generalizing s with
  | nil => exact h
  | cons e events ih => exact ih (h.step e)

/-! ### A poll in which nothing fails -/

theorem processFill_ok (s : LiveFills) (fill : FillInfo) : (s.processFill fill default).1 = .ok () := by
  rcases processFill_cases s fill default with ⟨-, heq⟩ | ⟨⟨hnamed, horder, hfresh⟩, -⟩
  · rw [heq]
  · rw [processFill_fresh default hnamed horder hfresh]
    unfold processSeenFill
    cases (s.see fill.fillId).metaOf fill.orderId with
    | none => rfl
    | some orderMeta =>
      cases hrow : (s.see fill.fillId).tables.internalOrderIdByExchangeOrderId fill.orderId with
      | none => simp [default]
      | some orderId => simp [default]

theorem processFill_seen (s : LiveFills) (fill : FillInfo) (r : LegFillReply) :
    s.seenFillIds ⊆ (s.processFill fill r).2.seenFillIds := by
  rcases processFill_cases s fill r with ⟨-, heq⟩ | ⟨-, hstep⟩
  · rw [heq]
    exact List.Subset.refl _
  · generalize s.processFill fill r = out at hstep ⊢
    cases hstep <;> exact List.subset_append_left _ _

theorem processFill_sees (s : LiveFills) (fill : FillInfo) (r : LegFillReply)
    (hnamed : fill.fillId ≠ "") (horder : fill.orderId ≠ "") :
    fill.fillId ∈ (s.processFill fill r).2.seenFillIds := by
  rcases processFill_cases s fill r with ⟨hno | hno | hseen, heq⟩ | ⟨-, hstep⟩
  · exact absurd hno hnamed
  · exact absurd hno horder
  · rw [heq]
    exact hseen
  · generalize s.processFill fill r = out at hstep ⊢
    cases hstep <;> exact List.mem_append_right _ (List.mem_singleton_self _)

theorem processFill_meta (s : LiveFills) (fill : FillInfo) (r : LegFillReply) :
    (s.processFill fill r).2.orderMeta = s.orderMeta := by
  rcases processFill_cases s fill r with ⟨-, heq⟩ | ⟨-, hstep⟩
  · rw [heq]
  · generalize s.processFill fill r = out at hstep ⊢
    cases hstep <;> rfl

theorem processFills_sees {s : LiveFills} {ids : List String} {id : String} (hmem : id ∈ ids)
    (hnamed : id ≠ "") (horder : (source.fill id).orderId ≠ "") :
    id ∈ (s.processFills (ids.map source.fill) []).2.seenFillIds := by
  induction ids generalizing s with
  | nil => cases hmem
  | cons head ids ih =>
    have hsees := processFill_sees s (source.fill head) default
    rw [List.map_cons, processFills_next _ (processFill_ok s (source.fill head))]
    rcases List.mem_cons.mp hmem with rfl | hmem
    · rw [source.named] at hsees
      exact processFills_keeps (I := fun s => id ∈ s.seenFillIds)
        (fun s other r hs => processFill_seen s _ r hs) (hsees hnamed horder) ids []
    · exact ih hmem

theorem processFills_cutsOffNone {s : LiveFills} (h : s.Sound source) {start : LiveFills}
    (hmeta : s.orderMeta = start.orderMeta) (ids : List String) :
    s.CutsOffNone (fun orderId => (start.metaOf orderId).isSome) (ids.map source.fill) [] := by
  induction ids generalizing s with
  | nil => trivial
  | cons id ids ih =>
    rw [List.map_cons, cutsOffNone_next _ (processFill_ok s (source.fill id))]
    refine ⟨fun hcut => ?_, ih (h.processFill id default) ((processFill_meta s _ _).trans hmeta)⟩
    obtain ⟨-, -, -, hknown, hbooks⟩ := hcut
    have hsome : (s.metaOf (source.fill id).orderId).isSome := by
      unfold metaOf
      rw [hmeta]
      exact hknown
    exact hbooks ⟨hsome, rfl, List.isSome_idxOf?.mpr (h.rows _ hsome), rfl⟩

end LiveFills

open LiveFills

/-- A poll after the run in which nothing fails leaves every listed fill whose order has metadata
booked exactly once, and each leg is the fold of the fills booked to it. -/
def FillsBooked (start : DualBasketRuntime) (events : List LegEvent) : Prop :=
  ∀ ids : List String,
    let s := LiveFills.run source { basket := start } events
    let later := (s.processLiveDualFills (some (ids.map source.fill)) []).2
    (∀ id ∈ ids, id ≠ "" → (source.fill id).orderId ≠ "" →
      (s.metaOf (source.fill id).orderId).isSome → later.appliedIds.count id = 1) ∧
    later.BooksAgree start

/-- The fills of the orders whose metadata is known at the end of the run are booked exactly when
none of them was first listed before its metadata was known or by a poll in which one of its
database calls failed. -/
theorem fills_booked_iff (start : DualBasketRuntime) (events : List LegEvent) :
    FillsBooked source start events ↔
      Runs.EachStep (LiveFills.step source)
        (fun s e => e.CutsOffNone source
          (fun orderId => ((LiveFills.run source { basket := start } events).metaOf orderId).isSome)
          s)
        { basket := start } events := by
  have hsound : Sound source { basket := start } :=
    ⟨by simp [appliedIds], by simp, by simp, by simp [metaOf]⟩
  have hbooks : BooksAgree start { basket := start } := fun _ => rfl
  have hnone : ∀ known, NoneMissed source known { basket := start } := by simp [NoneMissed, Missed]
  have hend := hsound.run events
  have hend' : (run source { basket := start } events).BooksAgree start := hbooks.run events
  have hkept := fun known => (@noneMissed_run source _ known hsound events).trans
    (and_iff_right (hnone known))
  rw [← hkept]
  constructor
  · rintro hbooked id ⟨hseen, hunapplied, hknown⟩
    obtain ⟨hid, horder⟩ := hend.named id hseen
    have hcount := (hbooked [id]).1 id (List.mem_singleton_self id) hid horder hknown
    -- the poll passes a seen fill over
    have hsame : processLiveDualFills (run source { basket := start } events)
        (some ([id].map source.fill)) [] = (.ok (), run source { basket := start } events) := by
      have hpass : processFill _ (source.fill id) default = (.ok (), _) :=
        processFill_known default (.inr (.inr ((source.named id).symm ▸ hseen)))
      change processFills _ [source.fill id] [] = _
      rw [processFills_next [] (processFill_ok _ (source.fill id))]
      change ((processFill _ (source.fill id) default).2.processFills [] []) = _
      rw [hpass]
      rfl
    rw [hsame] at hcount
    exact hunapplied (List.count_pos_iff.mp (by rw [hcount]; decide))
  · intro hnone' ids
    have hpoll : Sound source (processLiveDualFills (run source { basket := start } events)
        (some (ids.map source.fill)) []).2 := hend.step (.poll (some ids) [])
    refine ⟨fun id hmem hid horder hknown => ?_, hend'.step (.poll (some ids) [])⟩
    have hmissed := (noneMissed_processFills hend ids []).mpr
      ⟨hnone', processFills_cutsOffNone hend rfl ids⟩ id
    have hseen : id ∈ (processFills (run source { basket := start } events)
        (ids.map source.fill) []).2.seenFillIds := processFills_sees hmem hid horder
    have happlied : id ∈ (processFills (run source { basket := start } events)
        (ids.map source.fill) []).2.appliedIds := by
      by_contra hno
      exact hmissed ⟨hseen, hno, hknown⟩
    exact hpoll.once.count.trans (if_pos happlied)

/-! ### A failing call -/

def sampleSource : FillSource where
  fill id := { fillId := id, orderId := "o", price := 1 / 2, size := 10 }
  named _ := rfl

def sampleBasket : DualBasketRuntime := ⟨⟨.yes, "y", 0, 0, 0, none⟩, ⟨.no, "n", 0, 0, 0, none⟩⟩

/-- The order's metadata is known, and the row of its fill is refused. -/
def refusedFill : List LegEvent :=
  [.placed ⟨7, "o", none, "entry", "buy", 1 / 2, 10, "live", none, none⟩ ⟨.yes, "buy", "entry"⟩ none,
    .poll (some ["f"]) [{ upsert := some .refused }]]

/-- No later poll books the fill. -/
theorem refused_fill_not_booked : ¬ FillsBooked sampleSource sampleBasket refusedFill := by
  intro hbooked
  have hcount := (hbooked ["f"]).1 "f" (by decide) (by decide) (by decide) (by decide)
  revert hcount
  decide

end PolymarketBot.DualSide
