import PolymarketBot.Builder.Calls

/-! The stored position of a parent buy, followed through the fills of the buy and the sells
of its exit children. -/

namespace PolymarketBot.Builder
open Lib Prog

def KeepsPosition : Call → Prop
  | .upsertParentPosition _ | .applyParentPositionFill _ => False
  | _ => True

theorem act_position {c : Call} (hc : KeepsPosition c) (w : World) (r : Reply) :
    (act c w r).2.position = w.position := by
  have harrive : (r.arrive w).position = w.position := (World.Evolves.arrive r w).position
  cases hf : r.fails with
  | some f => simpa [act, hf] using harrive
  | none =>
    cases c with
    | upsertParentPosition qty => exact hc.elim
    | applyParentPositionFill qty => exact hc.elim
    | cancel id =>
      simp only [act, hf]
      have hanswer := answer_cancel id (r.arrive w) r
      generalize answer (.cancel id) (r.arrive w) r = x at hanswer ⊢
      cases hanswer <;> exact harrive
    | status id =>
      simp only [act, hf, answer]
      cases (r.arrive w).exchangeOrder id <;> exact harrive
    | _ => simpa [act, hf, answer] using harrive

theorem act_parent (c : Call) (w : World) (r : Reply) : (act c w r).2.parent = w.parent := by
  have harrive : (r.arrive w).parent = w.parent := (World.Evolves.arrive r w).parent
  cases hf : r.fails with
  | some f => simpa [act, hf] using harrive
  | none =>
    cases c with
    | cancel id =>
      simp only [act, hf]
      have hanswer := answer_cancel id (r.arrive w) r
      generalize answer (.cancel id) (r.arrive w) r = x at hanswer ⊢
      cases hanswer <;> exact harrive
    | status id =>
      simp only [act, hf, answer]
      cases (r.arrive w).exchangeOrder id <;> exact harrive
    | _ => simpa [act, hf, answer, World.update] using harrive

/-- The stored position and the parent's row. -/
structure Holding (p : Option ParentPosition) (parent : Option TradeBuilderOrder) (w : World) :
    Prop where
  position : w.position = p
  parent : w.parent = parent

/-- No first visible inventory is observed. -/
def Unseeded (c : Call) (_ : World) (r : Reply) : Prop :=
  c = .getParentPositionSeed → r.qty = none

/-- A quantity of the trade that could seed a position. -/
def legacySeed (qty : Option ℚ) : Option ℚ :=
  (qty.map roundTradeBuilderShareQty).filter (tradeBuilderExitQtyTolerance < ·)

/-- Nor does the trade hold a quantity of its own that would seed a missing position. -/
def NoOtherInventory (c : Call) (w : World) (r : Reply) : Prop :=
  Unseeded c w r ∧ (c = .legacyPosition → legacySeed r.qty = none)

instance (c : Call) (w : World) (r : Reply) : Decidable (Unseeded c w r) :=
  inferInstanceAs (Decidable (_ → _))

instance (c : Call) (w : World) (r : Reply) : Decidable (NoOtherInventory c w r) :=
  inferInstanceAs (Decidable (_ ∧ _))

section Moves
variable {Ok : Call → World → Reply → Prop} {p p' : Option ParentPosition}
variable {parent : Option TradeBuilderOrder} {α β : Type}

/-- A program takes the position from `p` to `p'`; where it fails it may have left it at `p`. -/
def Moves (Ok : Call → World → Reply → Prop) (parent : Option TradeBuilderOrder)
    (p p' : Option ParentPosition) (prog : Job α) : Prop :=
  ∀ w, Holding p parent w → wp act Ok prog (fun x w' => match x with
    | .ok _ => Holding p' parent w'
    | .error _ => Holding p parent w' ∨ Holding p' parent w') w

theorem Moves.after {prog : Job α} {f : α → Job β} (h : Moves Ok parent p p prog)
    (hf : ∀ a, Moves Ok parent p p' (f a)) : Moves Ok parent p p' (prog >>= f) :=
  fun w hw => wp_bind_of (h w hw) (fun a w' h' => hf a w' h')
    fun _ _ h' => .inl (or_self_iff.mp h')

theorem Moves.before {prog : Job α} {f : α → Job β} (h : Moves Ok parent p p' prog)
    (hf : ∀ a, Moves Ok parent p' p' (f a)) : Moves Ok parent p p' (prog >>= f) := by
  refine fun w hw => wp_bind_of (h w hw) (fun a w' h' => ?_) fun _ _ h' => h'
  exact wp_mono (hf a w' h') fun x w'' h'' => by
    cases x with
    | ok b => exact h''
    | error e => exact .inr (or_self_iff.mp h'')

theorem moves_pure (a : α) : Moves Ok parent p p (pure a : Job α) := fun _ hw => hw

theorem moves_fail (e : ErrorText) : Moves Ok parent p p' (Prog.fail e : Job α) :=
  fun _ hw => .inl hw

theorem moves_of_only {prog : Job α} (h : Only KeepsPosition prog) :
    Moves Ok parent p p prog := by
  intro w hw
  have hkeeps : wp act Ok prog (fun _ w' => Holding p parent w') w :=
    wp_of_only (fun c w r hc hw _ =>
      ⟨(act_position hc w r).trans hw.position, (act_parent c w r).trans hw.parent⟩) h hw
  refine wp_mono hkeeps fun x _ hw' => ?_
  cases x with
  | ok a => exact hw'
  | error e => exact .inl hw'

theorem Moves.ignore {prog : Job Unit} (h : Moves Ok parent p p prog) :
    Moves Ok parent p p (Job.ignore prog) := by
  intro w hw
  rw [Job.ignore, wp_bind, wp_attempt]
  refine wp_mono (h w hw) fun x _ hw' => ?_
  cases x with
  | ok a => exact hw'
  | error e => exact or_self_iff.mp hw'

theorem moves_ite {c : Prop} [Decidable c] {prog prog' : Job α} (h : c → Moves Ok parent p p' prog)
    (h' : ¬ c → Moves Ok parent p p' prog') :
    Moves Ok parent p p' (if c then prog else prog') :=
  fun w hw => wp_ite (fun hc => h hc w hw) fun hc => h' hc w hw

theorem moves_call {c : Call} {R : Answer c → Prop} {f : Answer c → Job β}
    (hc : KeepsPosition c)
    (hR : ∀ w r a, Holding p parent w → Ok c w r → (act c w r).1 = .ok a → R a)
    (hf : ∀ a, R a → Moves Ok parent p p' (f a)) : Moves Ok parent p p' (Job.run c >>= f) := by
  intro w hw
  refine (wp_bind _ _ _ _).mpr ((wp_perform _ _ _).mpr fun r hr => ?_)
  have hw' : Holding p parent (act c w r).2 :=
    ⟨(act_position hc w r).trans hw.position, (act_parent c w r).trans hw.parent⟩
  cases hx : (act c w r).1 with
  | ok a => exact hf a (hR w r a hw hr hx) _ hw'
  | error e => exact .inl hw'

theorem moves_past {c : Call} {f : Answer c → Job β} (hc : KeepsPosition c)
    (hf : ∀ a, Moves Ok parent p p' (f a)) : Moves Ok parent p p' (Job.run c >>= f) :=
  moves_call (R := fun _ => True) hc (fun _ _ _ _ _ _ => trivial) fun a _ => hf a

theorem moves_whenOr {b : Prop} [Decidable b] {c : Call} {d : Answer c} {f : Answer c → Job β}
    (hc : KeepsPosition c) (hf : ∀ a, Moves Ok parent p p' (f a)) :
    Moves Ok parent p p' (Job.whenOr b d (Job.run c) >>= f) :=
  (moves_of_only (only_whenOr (only_run hc))).after hf

theorem moves_orElse {c : Call} {d : Answer c} {R : Answer c → Prop} {f : Answer c → Job β}
    (hc : KeepsPosition c)
    (hR : ∀ w r a, Holding p parent w → Ok c w r → (act c w r).1 = .ok a → R a) (hd : R d)
    (hf : ∀ a, R a → Moves Ok parent p p' (f a)) : Moves Ok parent p p' (Job.orElse c d >>= f) := by
  intro w hw
  refine (wp_bind _ _ _ _).mpr ((wp_bind _ _ _ _).mpr ((wp_attempt _ _ _).mpr
    ((wp_perform _ _ _).mpr fun r hr => ?_)))
  have hw' : Holding p parent (act c w r).2 :=
    ⟨(act_position hc w r).trans hw.position, (act_parent c w r).trans hw.parent⟩
  cases hx : (act c w r).1 with
  | ok a => exact hf a (hR w r a hw hr hx) _ hw'
  | error e => exact hf d hd _ hw'

theorem act_ok {c : Call} {w : World} {r : Reply} {a : Answer c} (h : (act c w r).1 = .ok a) :
    act c w r = answer c (r.arrive w) r := by
  cases hf : r.fails with
  | some failure => simp [act, hf] at h
  | none => simp [act, hf]

theorem moves_getParentPosition {f : Option ParentPosition → Job β}
    (hf : Moves Ok parent p p' (f p)) :
    Moves Ok parent p p' (Job.run .getParentPosition >>= f) := by
  refine moves_call (R := (· = p)) trivial (fun w r a hw _ ha => ?_) fun a ha => ha ▸ hf
  have hposition : (r.arrive w).position = p :=
    (World.Evolves.arrive r w).position.trans hw.position
  rw [act_ok ha, answer, hposition] at ha
  exact (Except.ok.inj ha).symm

theorem moves_getParentOrder {f : Option TradeBuilderOrder → Job β}
    (hf : Moves Ok parent p p' (f parent)) :
    Moves Ok parent p p' (Job.run .getParentOrder >>= f) := by
  refine moves_call (R := (· = parent)) trivial (fun w r a hw _ ha => ?_) fun a ha => ha ▸ hf
  have hparent : (r.arrive w).parent = parent :=
    (World.Evolves.arrive r w).parent.trans hw.parent
  rw [act_ok ha, answer, hparent] at ha
  exact (Except.ok.inj ha).symm

theorem moves_getParentPositionSeed (hok : ∀ c w r, Ok c w r → Unseeded c w r)
    {f : Option ℚ → Job β} (hf : Moves Ok parent p p' (f none)) :
    Moves Ok parent p p' (Job.run .getParentPositionSeed >>= f) := by
  refine moves_call (R := (· = none)) trivial (fun w r a _ hr ha => ?_) fun a ha => ha ▸ hf
  have hseed : r.qty = none := hok _ w r hr rfl
  rw [act_ok ha, answer, hseed] at ha
  exact (Except.ok.inj ha).symm

theorem moves_upsert (qty : ℚ) :
    Moves Ok parent p (some ⟨qty⟩) (Job.run (.upsertParentPosition qty)) := by
  intro w hw
  refine (wp_perform _ _ _).mpr fun r _ => ?_
  have harrive := World.Evolves.arrive r w
  have hparent : (r.arrive w).parent = parent := harrive.parent.trans hw.parent
  cases hf : r.fails with
  | some failure => simpa [act, hf] using .inl ⟨harrive.position.trans hw.position, hparent⟩
  | none => simpa [act, hf, answer] using ⟨rfl, hparent⟩

theorem moves_apply (qty : ℚ) :
    Moves Ok parent p (p.map fun position => ⟨max 0 (position.currentQty - qty)⟩)
      (Job.run (.applyParentPositionFill qty)) := by
  intro w hw
  refine (wp_perform _ _ _).mpr fun r _ => ?_
  have harrive := World.Evolves.arrive r w
  have hposition : (r.arrive w).position = p := harrive.position.trans hw.position
  have hparent : (r.arrive w).parent = parent := harrive.parent.trans hw.parent
  cases hf : r.fails with
  | some failure => simpa [act, hf] using .inl ⟨hposition, hparent⟩
  | none => simpa [act, hf, answer, hposition] using ⟨rfl, hparent⟩

end Moves

section Keeps
variable (order : TradeBuilderOrder)

theorem createChildren_keepsPosition (steps : List ChildStep) :
    Only KeepsPosition (createChildren steps) := by
  induction steps with
  | nil => trivial
  | cons step steps ih =>
    cases step with
    | note event => exact .bind (only_run trivial) fun _ => ih
    | create child =>
      exact .bind (only_run trivial) fun _ => .bind (only_run trivial) fun _ =>
        .bind (only_run trivial) fun _ => ih

theorem syncExitChild_keepsPosition (qty : ℚ) : Only KeepsPosition (syncExitChild order qty) := by
  have hwrite : ∀ (u : OrderUpdate) (name : String),
      Only KeepsPosition (do Job.update u; Job.event name) :=
    fun u name => .bind (only_run trivial) fun _ => only_run trivial
  refine only_ite (fun _ => trivial) fun _ => only_ite (fun _ => hwrite _ _) fun _ =>
    only_ite (fun _ => only_ite (fun _ => trivial) fun _ => hwrite _ _) fun _ =>
      .bind (only_orElse trivial) fun target => ?_
  cases target with
  | absent => trivial
  | skipped => exact hwrite _ _
  | target qty => exact only_ite (fun _ => hwrite _ _) fun _ => hwrite _ _

theorem reportDynamicQty_keepsPosition (qty : ℚ) (actual : Option ℚ) :
    Only KeepsPosition (reportDynamicQty qty actual) := by
  refine .bind (only_run trivial) fun _ => ?_
  cases actual with
  | some actual => exact only_when (only_run trivial)
  | none => exact only_run trivial

theorem finalizeBuyChildren_keepsPosition (qty : ℚ) (surface liveGap : Bool) :
    Only KeepsPosition (finalizeBuyChildren order qty surface liveGap) :=
  .bind (only_orElse trivial) fun _ => createChildren_keepsPosition _

end Keeps

section Fills
variable {Ok : Call → World → Reply → Prop} {p : Option ParentPosition}
variable {parent : Option TradeBuilderOrder}

/-- What the finalizer of a buy leaves as position: the one there is, or a first one. -/
def afterBuy (canonicalEntryQty : ℚ) (p : Option ParentPosition) : Option ParentPosition :=
  some (p.getD ⟨roundTradeBuilderShareQty canonicalEntryQty⟩)

/-- What an applied sell leaves of a position. -/
def afterSell (fillQty : Option ℚ) (p : Option ParentPosition) : Option ParentPosition :=
  match normalizeTradeBuilderTerminalFillQtyCandidate fillQty with
  | none => p
  | some fillQty => p.map fun position => ⟨max 0 (position.currentQty - fillQty)⟩

theorem ensurePosition_moves (hok : ∀ c w r, Ok c w r → Unseeded c w r) (qty : ℚ) :
    Moves Ok parent p (afterBuy qty p) (ensureTradeBuilderParentPositionFromParentFill qty) := by
  refine moves_getParentPosition ?_
  cases p with
  | some position => exact moves_pure _
  | none => exact moves_getParentPositionSeed hok (moves_upsert _)

theorem buyBookings_moves (hok : ∀ c w r, Ok c w r → Unseeded c w r) (order : TradeBuilderOrder)
    (qty : ℚ) (source : EntryQtySource) (actual : Option ℚ) :
    Moves Ok parent p (afterBuy qty p) (finalizeBuyBookings order qty source actual) :=
  (moves_of_only (only_when (reportDynamicQty_keepsPosition _ _))).after fun _ =>
    (ensurePosition_moves hok qty).before fun _ => moves_of_only (only_when (only_run trivial))

theorem resolveLegacyInventory_moves (hok : ∀ c w r, Ok c w r → NoOtherInventory c w r) :
    Moves Ok parent p p resolveLegacyInventory := by
  refine moves_orElse (c := .legacyPosition) (R := fun qty => legacySeed qty = none) trivial
    (fun w r qty _ hr hqty => ?_) rfl fun qty hqty => ?_
  · rw [act_ok hqty, answer] at hqty
    rw [← Except.ok.inj hqty]
    exact (hok _ w r hr).2 rfl
  · simp only [legacySeed] at hqty
    rw [hqty]
    exact moves_of_only (.bind (only_run trivial) fun _ => trivial)

theorem resolveParentInventory_moves (hok : ∀ c w r, Ok c w r → NoOtherInventory c w r) :
    Moves Ok parent p p resolveTradeBuilderParentExitInventory := by
  refine moves_getParentPosition ?_
  cases p with
  | some position => exact moves_of_only (.bind (only_run trivial) fun _ => trivial)
  | none =>
    exact moves_getParentPositionSeed (fun c w r h => (hok c w r h).1)
      (resolveLegacyInventory_moves hok)

theorem syncExitChildren_moves (hok : ∀ c w r, Ok c w r → NoOtherInventory c w r) :
    Moves Ok parent p p tradeBuilderSyncParentExitChildren :=
  moves_past (c := .elsewhere _) trivial fun _ => moves_past (c := .childRow) trivial fun _ =>
    (resolveParentInventory_moves hok).after fun _ => moves_of_only <|
      .bind (only_run trivial) fun _ => .bind (syncExitChild_keepsPosition _ _) fun _ =>
        only_run trivial

theorem applyChildFill_moves (hok : ∀ c w r, Ok c w r → NoOtherInventory c w r)
    (fillQty : Option ℚ) :
    Moves Ok parent p (afterSell fillQty p) (applyTradeBuilderParentPositionChildFill fillQty) := by
  unfold applyTradeBuilderParentPositionChildFill afterSell
  cases normalizeTradeBuilderTerminalFillQtyCandidate fillQty with
  | none => exact moves_pure _
  | some qty =>
    refine moves_past (c := .getParentPosition) trivial fun position => Moves.after ?_ fun _ =>
      moves_apply qty
    exact moves_ite (fun _ => (resolveParentInventory_moves hok).after fun _ => moves_pure _)
      fun _ => moves_pure _

theorem parentSide_buy {order : TradeBuilderOrder} (h : order.parentOrderId = none)
    (qty : Option ℚ) : finalizeParentSide order qty = pure () := by
  rw [finalizeParentSide, h]
  rfl

theorem parentSide_moves (hok : ∀ c w r, Ok c w r → NoOtherInventory c w r)
    {order parentOrder : TradeBuilderOrder} (h : tradeBuilderIsChildExitSell order = true)
    (qty : Option ℚ) :
    Moves Ok (some parentOrder) p (afterSell qty p) (finalizeParentSide order qty) := by
  have hparent : order.parentOrderId.isSome = true := by
    simp only [tradeBuilderIsChildExitSell, Bool.and_eq_true] at h
    exact h.1.1
  have hread : Job.whenOr (order.parentOrderId.isSome) none (Job.run .getParentOrder) =
      (Job.run .getParentOrder : Job (Option TradeBuilderOrder)) := if_pos hparent
  rw [finalizeParentSide, hread]
  refine moves_getParentOrder (Moves.before ?_ fun _ => ?_)
  · rw [Job.when, if_pos h]
    exact applyChildFill_moves hok qty
  · exact moves_ite (fun _ => (syncExitChildren_moves hok).ignore) fun _ => moves_pure _

section Close
variable {order : TradeBuilderOrder} {p' : Option ParentPosition} {applied : Option ℚ}

theorem closeFill_moves (h : Moves Ok parent p p' (finalizeParentSide order applied)) (qty : ℚ)
    (force surface liveGap : Bool) :
    Moves Ok parent p p' (closeFill order qty applied force surface liveGap) :=
  moves_past (c := .update _) trivial fun _ => moves_past (c := .appendEvent _) trivial fun _ =>
    (moves_of_only (only_when (only_run trivial))).after fun _ => h.before fun _ =>
      moves_of_only <| .bind (only_when (only_run trivial)) fun _ =>
        .bind (only_when (finalizeBuyChildren_keepsPosition _ _ _ _)) fun _ =>
          only_ignore (only_run trivial)

theorem finalizeCounted_buy (hok : ∀ c w r, Ok c w r → Unseeded c w r) (hbuy : order.side = .buy)
    (hparent : order.parentOrderId = none) (qty : ℚ) (source : EntryQtySource)
    (actual : Option ℚ) (force liveGap : Bool) :
    Moves Ok parent p (afterBuy qty p)
      (finalizeCounted order qty source actual force liveGap) := by
  have hcount : Moves Ok parent p (afterBuy qty p) (countFill order qty source actual) := by
    refine moves_past (c := .update _) trivial fun _ =>
      (moves_of_only (only_when (only_run trivial))).after fun _ => ?_
    rw [Job.when, if_pos hbuy]
    exact buyBookings_moves hok _ _ _ _
  refine hcount.before fun _ => moves_whenOr (c := .check _) trivial fun _ =>
    moves_past (c := .elsewhere _) trivial fun _ =>
      moves_past (c := .elsewhere _) trivial fun _ => closeFill_moves ?_ _ _ _ _
  rw [parentSide_buy hparent]
  exact moves_pure _

theorem finalizeCounted_sell (hok : ∀ c w r, Ok c w r → NoOtherInventory c w r)
    (h : tradeBuilderIsChildExitSell order = true) (parentOrder : TradeBuilderOrder) (qty : ℚ)
    (source : EntryQtySource) (actual : Option ℚ) (force liveGap : Bool) :
    Moves Ok (some parentOrder) p (afterSell ((persistedFillQty qty source actual).or (some qty)) p)
      (finalizeCounted order qty source actual force liveGap) := by
  have hsell : ¬ order.side = .buy := by
    simp only [tradeBuilderIsChildExitSell, Bool.and_eq_true, beq_iff_eq] at h
    simp [h.1.2]
  have hcount : Only KeepsPosition (countFill order qty source actual) := by
    refine .bind (only_run trivial) fun _ => .bind (only_when (only_run trivial)) fun _ => ?_
    rw [Job.when, if_neg hsell]
    trivial
  exact (moves_of_only hcount).after fun _ =>
    moves_whenOr (c := .check _) trivial fun _ =>
      moves_past (c := .elsewhere _) trivial fun _ => moves_past (c := .elsewhere _) trivial
        fun _ => closeFill_moves (parentSide_moves hok h _) _ _ _ _

end Close

theorem finalize_buy {order : TradeBuilderOrder} (hok : ∀ c w r, Ok c w r → Unseeded c w r)
    (hbuy : order.side = .buy) (hparent : order.parentOrderId = none) (qty : ℚ)
    (source : EntryQtySource) (actual : Option ℚ) (force : Bool) :
    Moves Ok parent p (afterBuy (roundTradeBuilderShareQty qty) p)
      (finalizeBuilderFill order qty source actual force) :=
  moves_whenOr (c := .check _) trivial fun _ =>
    moves_ite (fun _ => moves_fail _) fun _ => finalizeCounted_buy hok hbuy hparent _ _ _ _ _

/-- The quantity the finalizer of a sell applies to the position of the parent. -/
def appliedFillQty (qty : ℚ) (source : EntryQtySource) (actual : Option ℚ) : Option ℚ :=
  (persistedFillQty (roundTradeBuilderShareQty qty) source
    (normalizeTradeBuilderTerminalFillQtyCandidate actual)).or
      (some (roundTradeBuilderShareQty qty))

theorem finalize_sell {order : TradeBuilderOrder}
    (hok : ∀ c w r, Ok c w r → NoOtherInventory c w r)
    (h : tradeBuilderIsChildExitSell order = true) (parentOrder : TradeBuilderOrder) (qty : ℚ)
    (source : EntryQtySource) (actual : Option ℚ) (force : Bool) :
    Moves Ok (some parentOrder) p (afterSell (appliedFillQty qty source actual) p)
      (finalizeBuilderFill order qty source actual force) :=
  moves_whenOr (c := .check _) trivial fun _ =>
    moves_ite (fun _ => moves_fail _) fun _ => finalizeCounted_sell hok h parentOrder _ _ _ _ _

end Fills

/-- A call of the finalizer for a fill of a parent buy or of one of its exit children;
`bought` is what a fill of the parent bought, and `world` all it finds but the position. -/
structure FillCall where
  order : TradeBuilderOrder
  canonicalEntryQty : ℚ
  source : EntryQtySource := .actualFillQty
  actualFillQty : Option ℚ
  forceTerminal : Bool := false
  bought : ℚ := 0
  world : World := {}
  replies : List Reply := []

namespace FillCall
variable (call : FillCall) (parentId : ℤ) (p : Option ParentPosition)

def job : Job Unit :=
  finalizeBuilderFill call.order call.canonicalEntryQty call.source call.actualFillQty
    call.forceTerminal

def start : World := { call.world with position := p }

/-- The position the call leaves. -/
def after : Option ParentPosition := (call.job.exec act call.replies (call.start p)).2.position

def isParentFill : Bool :=
  call.order.id == parentId && call.order.side == .buy && call.order.parentOrderId.isNone &&
    decide (0 < call.bought)

def isChildSell : Bool :=
  call.order.parentOrderId == some parentId && tradeBuilderIsChildExitSell call.order &&
    call.world.parent.any (·.id == parentId)

/-- The call is for a fill of this family, it answers, and no first visible inventory of the
parent is observed. -/
def Completes : Prop :=
  (call.isParentFill parentId = true ∨ call.isChildSell parentId = true) ∧
    (call.job.exec act call.replies (call.start p)).1.isOk = true ∧
    call.job.Meets act Unseeded call.replies (call.start p)

/-- What a child's sell applies. -/
def sold : ℚ :=
  (normalizeTradeBuilderTerminalFillQtyCandidate
    (appliedFillQty call.canonicalEntryQty call.source call.actualFillQty)).getD 0

/-- One step of the law: a fill of the parent adds what it bought, a sell takes away what it
applies, down to zero. -/
def expected (qty : ℚ) : ℚ :=
  if call.isParentFill parentId then qty + call.bought else max 0 (qty - call.sold)

/-- A fill of the parent finds no position, and what it books is what was bought. -/
def FirstAndExact : Prop :=
  call.isParentFill parentId = true →
    p = none ∧ roundTradeBuilderShareQty call.canonicalEntryQty = call.bought

/-- A sell without a position finds no quantity of the trade to make one of. -/
def SellFindsNoOther : Prop :=
  call.isChildSell parentId = true →
    call.job.Meets act NoOtherInventory call.replies (call.start p)

end FillCall

/-- Each call of a run meets `C`, with the position it finds. -/
def Along (C : FillCall → Option ParentPosition → Prop) :
    Option ParentPosition → List FillCall → Prop
  | _, [] => True
  | p, c :: cs => C c p ∧ Along C (c.after p) cs

def storedQty (p : Option ParentPosition) : ℚ := (p.map ParentPosition.currentQty).getD 0

/-- The stored quantity follows the law through the whole run. -/
def FollowsFills (parentId : ℤ) : Option ParentPosition → ℚ → List FillCall → Prop
  | p, qty, [] => storedQty p = qty
  | p, qty, c :: cs =>
    storedQty p = qty ∧ FollowsFills parentId (c.after p) (c.expected parentId qty) cs

section
variable (call : FillCall) (parentId : ℤ) (p : Option ParentPosition)

instance : Decidable (call.Completes parentId p) := inferInstanceAs (Decidable (_ ∧ _ ∧ _))

instance : Decidable (call.FirstAndExact parentId p) := inferInstanceAs (Decidable (_ → _))

instance : Decidable (call.SellFindsNoOther parentId p) := inferInstanceAs (Decidable (_ → _))

end

instance decidableAlong {C : FillCall → Option ParentPosition → Prop} [∀ c p, Decidable (C c p)] :
    ∀ (p : Option ParentPosition) (calls : List FillCall), Decidable (Along C p calls)
  | _, [] => isTrue trivial
  | p, c :: cs =>
    have := decidableAlong (C := C) (c.after p) cs
    inferInstanceAs (Decidable (_ ∧ _))

instance decidableFollowsFills (parentId : ℤ) :
    ∀ (p : Option ParentPosition) (qty : ℚ) (calls : List FillCall),
      Decidable (FollowsFills parentId p qty calls)
  | _, _, [] => inferInstanceAs (Decidable (_ = _))
  | p, qty, c :: cs =>
    have := decidableFollowsFills parentId (c.after p) (c.expected parentId qty) cs
    inferInstanceAs (Decidable (_ ∧ _))

section Law
variable {call : FillCall} {parentId : ℤ} {p : Option ParentPosition} {qty : ℚ}

theorem Moves.exec {Ok : Call → World → Reply → Prop} {parent : Option TradeBuilderOrder}
    {p' : Option ParentPosition} {prog : Job Unit} (h : Moves Ok parent p p' prog) {w : World}
    {rs : List Reply} (hw : Holding p parent w) (hm : prog.Meets act Ok rs w)
    (hx : (prog.exec act rs w).1.isOk = true) : (prog.exec act rs w).2.position = p' := by
  have hq := wp_sound act Ok (h w hw) hm
  cases hr : (prog.exec act rs w).1 with
  | ok a =>
    rw [hr] at hq
    exact hq.position
  | error e =>
    rw [hr] at hx
    cases hx

theorem after_parentFill (hc : call.Completes parentId p)
    (hfill : call.isParentFill parentId = true) :
    call.after p = afterBuy (roundTradeBuilderShareQty call.canonicalEntryQty) p := by
  obtain ⟨-, hx, hm⟩ := hc
  simp only [FillCall.isParentFill, Bool.and_eq_true, beq_iff_eq, Option.isNone_iff_eq_none] at hfill
  exact Moves.exec (finalize_buy (fun _ _ _ h => h) hfill.1.1.2 hfill.1.2 _ _ _ _)
    ⟨rfl, rfl⟩ hm hx

theorem after_childSell (hc : call.Completes parentId p)
    (hsell : call.isChildSell parentId = true) (hother : call.SellFindsNoOther parentId p) :
    call.after p = afterSell
      (appliedFillQty call.canonicalEntryQty call.source call.actualFillQty) p := by
  obtain ⟨-, hx, -⟩ := hc
  have hm := hother hsell
  simp only [FillCall.isChildSell, Bool.and_eq_true, Option.any_eq_true] at hsell
  obtain ⟨parent, hparent, -⟩ := hsell.2
  exact Moves.exec (finalize_sell (fun _ _ _ h => h) hsell.1.2 parent _ _ _ _)
    ⟨rfl, hparent⟩ hm hx

theorem storedQty_afterSell (h0 : 0 ≤ storedQty p) (fillQty : Option ℚ) :
    storedQty (afterSell fillQty p) =
      max 0 (storedQty p -
        (normalizeTradeBuilderTerminalFillQtyCandidate fillQty).getD 0) := by
  rw [afterSell]
  cases hq : normalizeTradeBuilderTerminalFillQtyCandidate fillQty with
  | none => simp [h0]
  | some sold =>
    have hpos : 0 < sold := by
      rw [normalizeTradeBuilderTerminalFillQtyCandidate, Option.filter_eq_some_iff] at hq
      simpa using hq.2
    cases p with
    | none =>
      have hneg : (0 : ℚ) - sold ≤ 0 := by linarith
      simpa [storedQty] using hpos.le
    | some position => rfl

theorem not_parentFill (hsell : call.isChildSell parentId = true) :
    call.isParentFill parentId = false := by
  simp only [FillCall.isChildSell, Bool.and_eq_true, beq_iff_eq] at hsell
  simp [FillCall.isParentFill, hsell.1.1]

theorem storedQty_childSell (h0 : 0 ≤ storedQty p) (hc : call.Completes parentId p)
    (hsell : call.isChildSell parentId = true) (hother : call.SellFindsNoOther parentId p) :
    storedQty (call.after p) = call.expected parentId (storedQty p) := by
  rw [after_childSell hc hsell hother, storedQty_afterSell h0, FillCall.expected,
    not_parentFill hsell]
  rfl

theorem storedQty_parentFill_iff (hc : call.Completes parentId p)
    (hfill : call.isParentFill parentId = true) :
    storedQty (call.after p) = call.expected parentId (storedQty p) ↔
      call.FirstAndExact parentId p := by
  have hpos : 0 < call.bought := by
    simp only [FillCall.isParentFill, Bool.and_eq_true, decide_eq_true_eq] at hfill
    exact hfill.2
  rw [after_parentFill hc hfill, FillCall.expected, if_pos hfill, FillCall.FirstAndExact,
    afterBuy, roundTradeBuilderShareQty_round]
  cases p with
  | none => simp [storedQty, hfill]
  | some position =>
    have hne : position.currentQty ≠ position.currentQty + call.bought := by linarith
    simp [storedQty, hfill, hpos.ne']

theorem storedQty_nonneg_after (h0 : 0 ≤ storedQty p) (hc : call.Completes parentId p)
    (hother : call.SellFindsNoOther parentId p) : 0 ≤ storedQty (call.after p) := by
  obtain hfill | hsell := hc.1
  · rw [after_parentFill hc hfill, afterBuy]
    cases p with
    | none => exact roundTradeBuilderShareQty_nonneg _
    | some position => exact h0
  · rw [after_childSell hc hsell hother, storedQty_afterSell h0]
    exact le_max_left _ _

theorem followsFills_iff (h0 : 0 ≤ storedQty p) (calls : List FillCall)
    (hrun : Along (FillCall.Completes · parentId) p calls)
    (hother : Along (FillCall.SellFindsNoOther · parentId) p calls) :
    FollowsFills parentId p (storedQty p) calls ↔
      Along (FillCall.FirstAndExact · parentId) p calls := by
  induction calls generalizing p with
  | nil => exact iff_of_true rfl trivial
  | cons c cs ih =>
    have hafter := storedQty_nonneg_after h0 hrun.1 hother.1
    have hrest := ih hafter hrun.2 hother.2
    have hstep : storedQty (c.after p) = c.expected parentId (storedQty p) ↔
        c.FirstAndExact parentId p := by
      obtain hfill | hsell := hrun.1.1
      · exact storedQty_parentFill_iff hrun.1 hfill
      · have hnot := not_parentFill hsell
        refine iff_of_true (storedQty_childSell h0 hrun.1 hsell hother.1) fun hfill => ?_
        rw [hnot] at hfill
        cases hfill
    constructor
    · rintro ⟨-, hfollows⟩
      have hstart : storedQty (c.after p) = c.expected parentId (storedQty p) := by
        cases cs with
        | nil => exact hfollows
        | cons d ds => exact hfollows.1
      rw [← hstart] at hfollows
      exact ⟨hstep.mp hstart, hrest.mp hfollows⟩
    · rintro ⟨hfirst, hall⟩
      have hstart := hstep.mpr hfirst
      refine ⟨rfl, ?_⟩
      rw [← hstart]
      exact hrest.mpr hall

end Law

/-- In a run of fills of a parent buy and of sells of its exit children, the stored position
is what was bought less what was sold, after every call, exactly when each fill of the parent
finds no position and its canonical quantity is the one bought. -/
theorem parent_position_follows_fills_iff (parentId : ℤ) (calls : List FillCall)
    (hrun : Along (FillCall.Completes · parentId) none calls)
    (hother : Along (FillCall.SellFindsNoOther · parentId) none calls) :
    FollowsFills parentId none 0 calls ↔ Along (FillCall.FirstAndExact · parentId) none calls :=
  followsFills_iff (p := none) (le_refl _) calls hrun hother

/-- A parent that takes its profit at 3/5 and may be triggered twice. -/
def rearmedParent : TradeBuilderOrder where
  kind := .conditional
  status := .armed
  sizeUsdc := 5
  maxTriggers := 2
  tpEnabled := true
  tpPrice := some (3 / 5)

def firstFill : FillCall where
  order := rearmedParent
  canonicalEntryQty := 10
  actualFillQty := some 10
  bought := 10
  world := { order := rearmedParent }

def takeProfitSell : FillCall where
  order := { id := 2, kind := .conditional, status := .opened, side := .sell, sizeBasis := .shares
             triggerCondition := some .crossAbove, parentOrderId := some 1 }
  canonicalEntryQty := 4
  actualFillQty := some 4
  world := { parent := some rearmedParent }

/-- The parent buys 10 and a child sells 4. -/
theorem parent_position_follows_fills_sell : FollowsFills 1 none 0 [firstFill, takeProfitSell] :=
  (parent_position_follows_fills_iff 1 _ (by decide +kernel) (by decide +kernel)).mpr
    (by decide +kernel)

/-- The parent's second trigger: it is filled with 5 more. -/
def secondFill : FillCall where
  order := { rearmedParent with triggersFired := 1, filledQty := 10 }
  canonicalEntryQty := 15
  source := .cumulativeFillQty
  actualFillQty := some 5
  bought := 5
  world := { order := { rearmedParent with triggersFired := 1, filledQty := 10 } }

/-- The second fill leaves the stored position at 10. -/
theorem second_fill_not_booked :
    Along (FillCall.Completes · 1) none [firstFill, secondFill] ∧
      ¬ FollowsFills 1 none 0 [firstFill, secondFill] := by
  decide +kernel

end PolymarketBot.Builder
