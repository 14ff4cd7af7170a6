import PolymarketBot.Lib.Runs
import PolymarketBot.PairLock.NakedLeg

/-! What an event has to find, in the rows before it and in what it is told, so that the legs of
a session that has ended its work stay covered. -/

namespace PolymarketBot.PairLock.Exits
open Lib Prog Runs Builder

namespace PairExits
variable (w : PairExits)

/-- What the row of a leg tells of its shares, or its fill before there is a row. -/
def rowQty (leg : Leg) : ℚ := (w.position leg).getD (w.pairOrder leg).estimatedQty

/-- What is for sale of a leg beyond what has to be. -/
def surplus (leg : Leg) : ℚ := w.lockedQty + coverQty leg w.sells - w.held leg

end PairExits

/-- Each leg is for sale already, or has a row that tells a request to unwind of its shares. -/
def UnwindTold (w : PairExits) : Prop :=
  ∀ leg, 0 ≤ w.surplus leg ∨ isPairCandidate (w.order leg) ∧
    w.held leg ≤ w.lockedQty + roundTradeBuilderShareQty (w.rowQty leg)

section Leg
variable (w : PairExits) (leg : Leg) (r : ExitReply)

/-- What a leg's row tells once the fill has its position. -/
def bookedQty (fill : BuyFill) (other : Leg) : ℚ :=
  if other = leg then
    (w.position leg).getD (tradeBuilderParentPositionSeedQty r.seedQty
      (roundTradeBuilderShareQty fill.canonicalEntryQty))
  else w.rowQty other

/-- A fill that matches the other leg's finds all shares in the rows. Any other that comes when
the session is out of work, or locks it as a hedge, brings no more than the leg has for sale too
much and what its own exit children sell. -/
def FillTold (fill : BuyFill) : Prop :=
  if (matchedQty w leg fill r).isSome then
    ∀ other, gainedHeld w leg r other ≤ 0 ∨ isPairCandidate (w.order other) ∧
      gainedHeld w leg r other ≤ roundTradeBuilderShareQty (bookedQty w leg r fill other)
  else
    w.session.status ≠ .working ∨ locksAsHedge w leg fill r → ∀ other,
      (if other = leg then max r.gained 0 else 0) ≤
        w.surplus other + if other = leg then childrenQty w leg fill r else 0

def ExchangeTold : Prop :=
  let unbooked := w.session.status ≠ .working → max r.gained 0 ≤ w.surplus leg
  match r.fill with
  | none => unbooked
  | some fill =>
    if hasExitSettings (w.order leg) r.liveGapConfigured ∧
        roundTradeBuilderShareQty fill.canonicalEntryQty ≤ 0 then unbooked
    else FillTold w leg r fill

/-- A session that a pass closes without unwinding has its shares for sale already. -/
def PassTold : Prop :=
  isTradeBuilderOrderProcessableStatus (w.order leg).status →
    match legDecision w leg r with
    | .ends .unwind => UnwindTold w
    | .ends (.cancel reason) => (closedStatus reason).isSome → ∀ leg, 0 ≤ w.surplus leg
    | .ends (.proceed _) | .proceeds _ => ExchangeTold w leg r
    | _ => True

def AbortTold : Prop :=
  isPairCandidate (w.order leg) → w.session.status = .working → w.session.leadOrderId.isSome →
    if (r.facts.config.map PairLockConfig.protectiveUnwindEnabled).getD true then UnwindTold w
    else ∀ leg, 0 ≤ w.surplus leg

end Leg

section Sell
variable (w : PairExits) (id : ℕ) (sell : SellOrder) (r : ExitReply)

def soldQty : ℚ := max 0 (min r.sold sell.remaining)

/-- The fill of one sell takes another off the sale: a sibling, an unwind of a locked leg that
is stopped out, a stop loss of a lead that is. -/
def calledOff (i : ℕ) (s : SellOrder) : Bool :=
  (sell.kind.cancelsSiblings && isOcoSibling id sell (i, s)) ||
    (stopsOutLockedLeg w sell && s.kind == .unwind) ||
    (stopsOutLead w sell && isPairCandidate (w.order s.leg) && s.kind.isStopLoss)

/-- What a sell offers once it follows the open quantity of its leg. -/
def followedQty (parentQty : ℚ) (i : ℕ) (s : SellOrder) : ℚ :=
  if ¬ s.kind.isExitChild then s.remaining
  else if parentQty ≤ tradeBuilderExitQtyTolerance then 0
  else if s.kind.cancelsSiblings then
    min s.remaining (roundTradeBuilderShareQty parentQty)
  else
    match r.ladderTarget i with
    | .absent => s.remaining
    | .skipped => 0
    | .target qty => max qty 0

/-- What of a sell is no longer for sale after the fill of the sell `id`. -/
def withdrawnQty (bookedQty : ℚ) (i : ℕ) (s : SellOrder) : ℚ :=
  if ¬ s.covers then 0
  else if i = id ∨ calledOff w id sell i s then s.remaining
  else if tradeBuilderOrderHasExitLadders (w.order sell.leg) ∧ ¬ sell.kind.cancelsSiblings ∧
      s.leg = sell.leg then s.remaining - followedQty r (openParentQty w sell bookedQty) i s
  else 0

/-- Outside the working state, and with the stop loss that ends it, a fill takes no more off the
sale than is for sale too much or has just been sold. -/
def SellFillTold (bookedQty : ℚ) : Prop :=
  w.session.status ≠ .working ∨ stopsOutLead w sell → ∀ leg,
    (w.sells.mapIdx fun i s =>
        if s.leg = leg then withdrawnQty w id sell r bookedQty i s else 0).sum ≤
      w.surplus leg + if leg = sell.leg then soldQty sell r else 0

/-- A sell is given up only when the leg has that much too much for sale. -/
def SellPassTold : Prop :=
  ∀ sell ∈ w.sells[id]?,
    match r.sellReport with
    | .pending => True
    | .moves status _ => w.session.status ≠ .working → sell.covers →
        ¬ SellOrder.covers { sell with status } →
          sell.remaining ≤ w.surplus sell.leg + soldQty sell r
    | .fills bookedQty => SellFillTold w id sell r bookedQty

end Sell

/-- What an event finds before it: its rows tell of the shares it has to put up for sale, and it
takes off the sale no more than is for sale too much. An event whose first call fails does
nothing. -/
def StaysCovered (w : PairExits) (e : ExitTask × ExitReply) : Prop :=
  e.2.fails = none →
    match e.1 with
    | .processLeg leg => PassTold w leg e.2
    | .endCandidate leg _ _ => AbortTold w leg e.2
    | .biasedHedgePairExit _ =>
      w.session.status ≠ .unwinding → w.session.status.isClosed = false → UnwindTold w
    | .biasedHedgeTimeExit _ _ _ => True
    | .processSell id => SellPassTold w id e.2

section Decide
variable (w : PairExits) (leg : Leg) (r : ExitReply)

instance : Decidable (UnwindTold w) := inferInstanceAs (Decidable (∀ _, _ ∨ _))

instance (fill : BuyFill) : Decidable (FillTold w leg r fill) := by
  unfold FillTold
  infer_instance

instance : Decidable (ExchangeTold w leg r) := by
  unfold ExchangeTold
  cases r.fill <;> infer_instance

instance : Decidable (PassTold w leg r) := by
  unfold PassTold
  rcases legDecision w leg r with (_ | _ | _ | _ | _ | _ | _) | _ | _ <;> infer_instance

instance : Decidable (AbortTold w leg r) := by
  unfold AbortTold
  infer_instance

instance (id : ℕ) (sell : SellOrder) (bookedQty : ℚ) :
    Decidable (SellFillTold w id sell r bookedQty) := by
  unfold SellFillTold
  infer_instance

instance (id : ℕ) : Decidable (SellPassTold w id r) := by
  unfold SellPassTold
  cases w.sells[id]? <;> cases r.sellReport <;> infer_instance

instance (e : ExitTask × ExitReply) : Decidable (StaysCovered w e) := by
  unfold StaysCovered
  cases e.1 <;> infer_instance

end Decide

/-! ### What the rows tell is put up for sale -/

theorem round_le_unwindQty {currentQty keepVisibleQty : ℚ} (hkeep : OnGrid 100 keepVisibleQty)
    (h0 : 0 ≤ keepVisibleQty) :
    roundTradeBuilderShareQty currentQty ≤ keepVisibleQty + unwindQty currentQty keepVisibleQty := by
  have hround : roundTradeBuilderShareQty currentQty ≤ keepVisibleQty +
      roundTradeBuilderShareQty (max (currentQty - keepVisibleQty) 0) := by
    rcases le_or_gt currentQty keepVisibleQty with hle | hgt
    · have hmono := roundTradeBuilderShareQty_mono hle
      rw [round_of_onGrid hkeep h0] at hmono
      exact hmono.trans (le_add_of_nonneg_right (roundTradeBuilderShareQty_nonneg _))
    · obtain ⟨k, rfl⟩ := hkeep
      have hrest : max (currentQty - k / 100) 0 = currentQty - k / 100 := max_eq_left (by linarith)
      have hfloor : ⌊(currentQty - k / 100) * 100 + 1 / 2⌋ = ⌊currentQty * 100 + 1 / 2⌋ - k := by
        rw [← Int.floor_sub_intCast]
        congr 1
        ring
      have hpos : 0 ≤ currentQty := by linarith
      unfold roundTradeBuilderShareQty
      rw [hrest, max_eq_left (by linarith : 0 ≤ currentQty - k / 100), hfloor, max_eq_left hpos]
      push_cast
      linarith
  refine hround.trans ?_
  unfold unwindQty
  dsimp only
  split
  · rename_i hdust
    rw [dust_of_onGrid (roundTradeBuilderShareQty_onGrid _) (roundTradeBuilderShareQty_nonneg _)
      hdust]
  · exact le_refl _

theorem offeredQty_nonneg (w : PairExits) (keepVisibleQty : ℚ) (leg : Leg) :
    0 ≤ w.offeredQty keepVisibleQty leg := by
  unfold PairExits.offeredQty
  split
  · exact unwindQty_nonneg _ _
  · exact le_refl 0

theorem surplus_nonneg_iff {w : PairExits} {leg : Leg} :
    0 ≤ w.surplus leg ↔ w.held leg ≤ w.lockedQty + coverQty leg w.sells := by
  unfold PairExits.surplus
  exact sub_nonneg

section Events
variable {w : PairExits} {leg : Leg} {r : ExitReply}

theorem UnwindTold.covers (h : UnwindTold w) : UnwindCovers w := by
  intro leg
  have hcover := coverQty_nonneg leg w.sells
  rcases h leg with hsurplus | ⟨hcandidate, hrow⟩
  · rw [surplus_nonneg_iff] at hsurplus
    linarith [offeredQty_nonneg w 0 leg]
  · have hoffered : w.offeredQty 0 leg = unwindQty (w.rowQty leg) 0 := if_pos hcandidate
    have htold := @round_le_unwindQty (w.rowQty leg) 0 OnGrid.zero (le_refl 0)
    rw [hoffered]
    linarith

theorem covered_of_surplus (h : ∀ leg, 0 ≤ w.surplus leg) : Covered w.lockedQty w.held w.sells :=
  fun leg => surplus_nonneg_iff.mp (h leg)

theorem NoNakedLeg.surplus_nonneg (hw : NoNakedLeg w) (hstopped : w.session.status ≠ .working)
    (leg : Leg) : 0 ≤ w.surplus leg :=
  surplus_nonneg_iff.mpr (hw hstopped leg)

theorem childrenQty_nonneg (fill : BuyFill) : 0 ≤ childrenQty w leg fill r := by
  refine List.sum_nonneg fun qty hqty => ?_
  obtain ⟨step, -, rfl⟩ := List.mem_map.mp hqty
  cases step with
  | note event => exact le_refl 0
  | create child => exact le_max_right _ _

theorem gainedHeld_eq (other : Leg) :
    gainedHeld w leg r other = w.held other + if other = leg then max r.gained 0 else 0 := by
  unfold gainedHeld
  by_cases h : other = leg
  · subst h
    simp
  · simp [h]

theorem matchedQty_spec {fill : BuyFill} {qty : ℚ} (h : matchedQty w leg fill r = some qty) :
    OnGrid 100 qty ∧ 0 < qty ∧ (filledSession w leg fill r).lockedQty = some qty := by
  have hmatched := h
  unfold matchedQty at h
  dsimp only at h
  split at h
  · rename_i hlocks
    have hpos : 0 < qty := by
      unfold tradeBuilderPairLockCommonQty at h
      simp only [Option.bind_eq_bind, Option.bind_eq_some_iff, Option.ite_none_right_eq_some,
        Option.some.injEq] at h
      obtain ⟨_, _, _, _, htolerance, rfl⟩ := h
      exact lt_trans (by norm_num [LegPass.pairQtyTolerance]) htolerance
    have hhedge : locksAsHedge w leg fill r = false := by simp [locksAsHedge, hlocks.2.1]
    refine ⟨commonQty_onGrid h, hpos, ?_⟩
    simp [filledSession, hhedge, hmatched]
  · cases h

theorem recordedSession_rest (fill : BuyFill) :
    (recordedSession w leg fill).lockedQty = w.session.lockedQty ∧
      (recordedSession w leg fill).status = w.session.status := by
  unfold recordedSession
  split
  · unfold TradeBuilderPairSession.recordFill
    dsimp only
    split <;> exact ⟨rfl, rfl⟩
  · exact ⟨rfl, rfl⟩

theorem FillTold.covers {fill : BuyFill} (h : FillTold w leg r fill) :
    FillCovers w leg fill r := by
  intro hstopped other
  have hchildren : 0 ≤ if other = leg then childrenQty w leg fill r else 0 := by
    split
    · exact childrenQty_nonneg fill
    · exact le_refl 0
  unfold FillTold at h
  cases hmatched : matchedQty w leg fill r with
  | some qty =>
    rw [hmatched] at h
    obtain ⟨hgrid, hpos, hlocked⟩ := matchedQty_spec hmatched
    have hcover := coverQty_nonneg other (if (filledSession w leg fill r).ignoreStopLossAfterLocked
      then w.sells.map (dropStopLoss w) else w.sells)
    simp only [Option.isSome_some, Bool.true_and, hlocked, Option.getD_some, Option.elim_some,
      max_eq_left hpos.le]
    rcases h other with hnone | ⟨hcandidate, hrow⟩
    · linarith [offeredQty_nonneg (positionBooked w leg fill r) qty other]
    · have htold : ((positionBooked w leg fill r).position other).getD
          ((positionBooked w leg fill r).pairOrder other).estimatedQty =
            bookedQty w leg r fill other := by
        unfold bookedQty positionBooked
        by_cases hleg : other = leg
        · subst hleg
          simp
        · simp [hleg, PairExits.rowQty, PairExits.pairOrder]
      have hoffered : (positionBooked w leg fill r).offeredQty qty other =
          unwindQty (bookedQty w leg r fill other) qty := by
        rw [← htold]
        exact if_pos hcandidate
      have hput := @round_le_unwindQty (bookedQty w leg r fill other) qty hgrid hpos.le
      rw [hoffered]
      linarith
  | none =>
    rw [hmatched] at h
    obtain ⟨hlocked, hstatus⟩ := @recordedSession_rest w leg fill
    have hsession : (filledSession w leg fill r).lockedQty = w.session.lockedQty ∧
        ((filledSession w leg fill r).status ≠ .working →
          w.session.status ≠ .working ∨ locksAsHedge w leg fill r = true) := by
      unfold filledSession
      dsimp only
      split
      · rename_i hhedge
        exact ⟨hlocked, fun _ => .inr hhedge⟩
      · rw [hmatched]
        exact ⟨hlocked, fun hne => .inl (hstatus ▸ hne)⟩
    have hother := h (hsession.2 hstopped) other
    simp only [Option.isSome_none, Bool.false_and, Bool.false_eq_true, if_false, Option.elim_none,
      hsession.1, gainedHeld_eq]
    unfold PairExits.surplus PairExits.lockedQty at hother
    linarith

theorem ExchangeTold.covers (hw : NoNakedLeg w) (h : ExchangeTold w leg r) :
    ExchangeCovers w leg r := by
  have hunbooked (hgained : w.session.status ≠ .working → max r.gained 0 ≤ w.surplus leg)
      (hstopped : w.session.status ≠ .working) :
      Covered w.lockedQty (gainedHeld w leg r) w.sells := by
    intro other
    rw [gainedHeld_eq]
    split
    · rename_i hleg
      have hsurplus := hgained hstopped
      rw [← hleg, PairExits.surplus] at hsurplus
      linarith
    · have hsurplus := hw.surplus_nonneg hstopped other
      rw [surplus_nonneg_iff] at hsurplus
      linarith
  unfold ExchangeTold at h
  unfold ExchangeCovers
  cases hfill : r.fill with
  | none =>
    rw [hfill] at h
    exact hunbooked h
  | some fill =>
    rw [hfill] at h
    dsimp only at h ⊢
    split
    · rename_i hrefused
      rw [if_pos hrefused] at h
      exact hunbooked h
    · rename_i hbooked
      rw [if_neg hbooked] at h
      exact h.covers

theorem PassTold.covers (hw : NoNakedLeg w) (h : PassTold w leg r) : PassCovers w leg r := by
  intro hprocessable
  have hdecided := h hprocessable
  unfold PassTold at h
  cases hdecision : legDecision w leg r with
  | proceeds maxPrice =>
    rw [hdecision] at hdecided
    exact hdecided.covers hw
  | rebases rebase eligibleBeforeAt => trivial
  | ends action =>
    rw [hdecision] at hdecided
    cases action with
    | unwind => exact UnwindTold.covers hdecided
    | cancel reason => exact fun hclosed => covered_of_surplus (hdecided hclosed)
    | proceed maxPrice => exact ExchangeTold.covers hw hdecided
    | _ => trivial

theorem AbortTold.covers (h : AbortTold w leg r) : AbortCovers w leg r := by
  intro hcandidate hworking hlead
  have hdecided := h hcandidate hworking hlead
  split
  · rename_i hprotect
    rw [if_pos hprotect] at hdecided
    exact hdecided.covers
  · rename_i hprotect
    rw [if_neg hprotect] at hdecided
    exact covered_of_surplus hdecided

end Events

/-! ### What the fill of a sell leaves for sale -/

section Sells
variable {w : PairExits} {id : ℕ} {sell : SellOrder} {r : ExitReply}

theorem coverQty_sell_nonneg (leg : Leg) (s : SellOrder) : 0 ≤ s.coverQty leg := by
  unfold SellOrder.coverQty
  split
  · exact remaining_nonneg s
  · exact le_refl 0

theorem live_of_covers {s : SellOrder} (h : s.covers = true) :
    tradeBuilderIsTerminalStatus s.status = false := by
  unfold SellOrder.covers at h
  simpa using (Bool.and_eq_true_iff.mp (Bool.and_eq_true_iff.mp h).1).1

theorem syncedSell_same (parentQty : ℚ) (child : ℕ × SellOrder) (s : SellOrder) :
    (syncedSell r parentQty child s).kind = s.kind ∧
      (syncedSell r parentQty child s).leg = s.leg := by
  unfold syncedSell
  dsimp only
  split_ifs
  · exact ⟨rfl, rfl⟩
  · exact ⟨rfl, rfl⟩
  · exact ⟨rfl, rfl⟩
  · exact ⟨rfl, rfl⟩
  · cases r.ladderTarget child.1 <;> exact ⟨rfl, rfl⟩

theorem coverQty_resized {s : SellOrder} (h : s.covers = true) (qty : ℚ) :
    SellOrder.coverQty s.leg { s with qty := s.filled + qty } = max qty 0 := by
  have hcovers : SellOrder.covers { s with qty := s.filled + qty } = true := h
  unfold SellOrder.coverQty
  rw [if_pos ⟨rfl, hcovers⟩, SellOrder.remaining]
  dsimp only
  rw [add_sub_cancel_left]

theorem followedQty_le (parentQty : ℚ) (i : ℕ) {s : SellOrder} (h : s.covers = true) :
    followedQty r parentQty i s ≤ (syncedSell r parentQty (i, s) s).coverQty s.leg := by
  have hself : s.coverQty s.leg = s.remaining := if_pos ⟨rfl, h⟩
  have hlive := live_of_covers h
  unfold followedQty syncedSell
  by_cases hchild : s.kind.isExitChild = true
  · simp only [hlive, hchild, not_true_eq_false, or_self, if_false, Bool.false_eq_true]
    split
    · exact coverQty_sell_nonneg _ _
    · split
      · split
        · rw [coverQty_resized h, max_eq_left (roundTradeBuilderShareQty_nonneg _)]
          exact min_le_right _ _
        · rw [hself]
          exact min_le_left _ _
      · cases r.ladderTarget i with
        | absent => exact hself.ge
        | skipped => exact coverQty_sell_nonneg _ _
        | target qty => exact (coverQty_resized h qty).ge
  · rw [if_pos hchild, if_pos (.inr hchild)]
    exact hself.ge

theorem completedSells_getElem (w : PairExits) (r : ExitReply) {i : ℕ} (hi : i ≠ id) :
    (completedSells w id r)[i]? = w.sells[i]? := by
  unfold completedSells PairExits.fillSell
  rw [List.getElem?_modify_ne _ _ (Ne.symm hi)]
  cases w.sells[id]? with
  | none => rfl
  | some s => exact List.getElem?_modify_ne _ _ (Ne.symm hi)

theorem leftForSale_getElem {bookedQty : ℚ} {i : ℕ} {s : SellOrder} (hs : w.sells[i]? = some s)
    (hi : i ≠ id) (hcalled : calledOff w id sell i s = false) :
    (leftForSale w id sell bookedQty r)[i]? =
      some (if tradeBuilderOrderHasExitLadders (w.order sell.leg) ∧ ¬ sell.kind.cancelsSiblings ∧
        s.leg = sell.leg then syncedSell r (openParentQty w sell bookedQty) (i, s) s else s) := by
  simp only [calledOff, Bool.or_eq_false_iff, Bool.and_eq_false_iff] at hcalled
  obtain ⟨⟨hsibling, hunwind⟩, hstop⟩ := hcalled
  have hoco : (if sell.kind.cancelsSiblings then cancelOcoSiblings id sell (completedSells w id r)
      else completedSells w id r)[i]? = some s := by
    split
    · rename_i hcancels
      have hspared : isOcoSibling id sell (i, s) = false := hsibling.resolve_left (by simp [hcancels])
      rw [cancelOcoSiblings, List.getElem?_mapIdx, completedSells_getElem w r hi, hs]
      simp [hspared]
    · rw [completedSells_getElem w r hi, hs]
  let sync := tradeBuilderOrderHasExitLadders (w.order sell.leg) ∧ ¬ sell.kind.cancelsSiblings
  let s₁ := if sync ∧ s.leg = sell.leg then
    syncedSell r (openParentQty w sell bookedQty) (i, s) s else s
  have hsynced : ∀ sells : List SellOrder, sells[i]? = some s →
      (if sync then syncedSells r sell.leg (openParentQty w sell bookedQty) sells
        else sells)[i]? = some s₁ := by
    intro sells hsells
    by_cases hsync : sync
    · rw [if_pos hsync, syncedSells, List.getElem?_mapIdx, hsells]
      simp [s₁, hsync]
    · rw [if_neg hsync, hsells]
      simp [s₁, hsync]
  obtain ⟨hkind, hleg⟩ : s₁.kind = s.kind ∧ s₁.leg = s.leg := by
    simp only [s₁]
    split
    · exact syncedSell_same _ _ _
    · exact ⟨rfl, rfl⟩
  have hafter : ∀ sells : List SellOrder, sells[i]? = some s₁ →
      (afterStopLoss w sell sells)[i]? = some s₁ := by
    intro sells hsells
    have hdropUnwind : (if stopsOutLockedLeg w sell then sells.map dropUnwind else sells)[i]? =
        some s₁ := by
      split
      · rename_i hlocked
        have hkept : dropUnwind s₁ = s₁ := by
          have hother : s.kind ≠ .unwind := by
            simpa using hunwind.resolve_left (by simp [hlocked])
          exact if_neg fun h => hother (hkind.symm.trans h.1)
        rw [List.getElem?_map, hsells, Option.map_some, hkept]
      · exact hsells
    unfold afterStopLoss
    dsimp only
    split
    · rename_i hlead
      have hkept : dropStopLoss w s₁ = s₁ := by
        refine if_neg fun h => ?_
        rw [hkind, hleg] at h
        rcases hstop with hstop | hstop
        · rcases hstop with hstop | hstop
          · simp [hlead] at hstop
          · simp [hstop] at h
        · simp [hstop] at h
      rw [List.getElem?_map, hdropUnwind, Option.map_some, hkept]
    · exact hdropUnwind
  have hleft := hafter _ (hsynced _ hoco)
  simp only [s₁, sync, and_assoc] at hleft
  exact hleft

theorem held_fillSell (w : PairExits) (r : ExitReply) (hsell : w.sells[id]? = some sell)
    (leg : Leg) :
    (w.fillSell id r.sold).held leg =
      w.held leg - if leg = sell.leg then soldQty sell r else 0 := by
  simp only [PairExits.fillSell, hsell, PairExits.modifyHeld, PairExits.modifySell]
  by_cases h : leg = sell.leg
  · subst h
    simp [soldQty]
  · simp [h]

theorem leftForSale_length (bookedQty : ℚ) :
    (leftForSale w id sell bookedQty r).length = w.sells.length := by
  have hfill : (w.fillSell id r.sold).sells.length = w.sells.length := by
    unfold PairExits.fillSell
    split
    · exact List.length_modify ..
    · rfl
  unfold leftForSale afterStopLoss completedSells
  dsimp only
  split_ifs <;> simp [cancelOcoSiblings, syncedSells, hfill]

theorem SellFillTold.covers {bookedQty : ℚ} (hsell : w.sells[id]? = some sell)
    (h : SellFillTold w id sell r bookedQty) : SellFillCovers w id sell bookedQty r := by
  intro hends leg
  have htold := h hends leg
  have hkept := Rows.sum_map_le_of_rows (SellOrder.coverQty leg)
    (fun i s => if s.leg = leg then withdrawnQty w id sell r bookedQty i s else 0)
    (@leftForSale_length w id sell r bookedQty)
    fun i s s' hs hs' => by
      have hnonneg := coverQty_sell_nonneg leg s'
      by_cases hcovers : s.leg = leg ∧ s.covers = true
      · obtain ⟨rfl, hlive⟩ := hcovers
        have hself : s.coverQty s.leg = s.remaining := if_pos ⟨rfl, hlive⟩
        rw [hself, if_pos rfl, withdrawnQty, if_neg (not_not.mpr hlive)]
        split
        · exact le_add_of_nonneg_left hnonneg
        · rename_i hspared
          obtain ⟨hi, hcalled⟩ := not_or.mp hspared
          rw [leftForSale_getElem hs hi (Bool.eq_false_iff.mpr hcalled), Option.some.injEq] at hs'
          split
          · rename_i hsync
            rw [if_pos hsync] at hs'
            have hfollowed := followedQty_le (r := r) (openParentQty w sell bookedQty) i hlive
            rw [hs'] at hfollowed
            linarith
          · rename_i hplain
            rw [if_neg hplain] at hs'
            rw [← hs', hself, add_zero]
      · have hnone : s.coverQty leg = 0 := if_neg hcovers
        rw [hnone]
        refine add_nonneg hnonneg ?_
        split
        · rename_i hleg
          rw [withdrawnQty, if_pos fun hlive => hcovers ⟨hleg, hlive⟩]
        · exact le_refl 0
  rw [held_fillSell w r hsell leg]
  unfold PairExits.surplus at htold
  unfold coverQty at htold ⊢
  linarith

theorem SellPassTold.covers (hw : NoNakedLeg w) (h : SellPassTold w id r) :
    SellPassCovers w id r := by
  intro sell hsell
  have htold := h sell hsell
  cases hreport : r.sellReport with
  | pending => trivial
  | fills bookedQty =>
    rw [hreport] at htold
    exact SellFillTold.covers hsell htold
  | moves status active =>
    rw [hreport] at htold
    intro hstopped leg
    have hcovered := hw hstopped leg
    have hsold : 0 ≤ soldQty sell r := le_max_left _ _
    let moved : SellOrder := { sell with filled := sell.filled + soldQty sell r, status, active }
    have hsells : (w.fillSell id r.sold).sells.modify id ({ · with status, active }) =
        w.sells.modify id fun s => { s with filled := s.filled + soldQty sell r, status, active } := by
      have hsell' : w.sells[id]? = some sell := hsell
      simp only [PairExits.fillSell, hsell', PairExits.modifyHeld, PairExits.modifySell,
        List.modify_modify_eq]
      rfl
    have hcover : coverQty leg ((w.fillSell id r.sold).sells.modify id ({ · with status, active })) =
        coverQty leg w.sells + (moved.coverQty leg - sell.coverQty leg) := by
      rw [hsells, coverQty, Rows.sum_map_modify, hsell]
      rfl
    rw [held_fillSell w r hsell leg, hcover, PairExits.lockedQty]
    by_cases hleg : leg = sell.leg
    · subst hleg
      rw [if_pos rfl]
      have hmoved := coverQty_sell_nonneg sell.leg moved
      by_cases hlive : sell.covers = true
      · have hself : sell.coverQty sell.leg = sell.remaining := if_pos ⟨rfl, hlive⟩
        by_cases hgoes : SellOrder.covers { sell with status } = true
        · have hstill : moved.coverQty sell.leg = moved.remaining := if_pos ⟨rfl, hgoes⟩
          have hrest : sell.remaining - soldQty sell r ≤ moved.remaining :=
            remaining_filled sell hsold
          linarith
        · have hneeded := htold hstopped hlive hgoes
          unfold PairExits.surplus PairExits.lockedQty at hneeded
          linarith
      · have hself : sell.coverQty sell.leg = 0 := if_neg fun h => hlive h.2
        linarith
    · have hself : sell.coverQty leg = 0 := if_neg fun h => hleg h.1.symm
      have hmoved : moved.coverQty leg = 0 := if_neg fun h => hleg h.1.symm
      rw [if_neg hleg]
      linarith

end Sells

theorem StaysCovered.leaves {w : PairExits} (hw : NoNakedLeg w) {e : ExitTask × ExitReply}
    (h : StaysCovered w e) : LeavesCovered w e := by
  intro hr
  have htold := h hr
  obtain ⟨task, r⟩ := e
  cases task with
  | processLeg leg => exact PassTold.covers hw htold
  | endCandidate leg status reason => exact AbortTold.covers htold
  | biasedHedgePairExit reason =>
    exact fun hunwinding hclosed => (htold hunwinding hclosed).covers
  | biasedHedgeTimeExit leg baselineQty pct => trivial
  | processSell id => exact SellPassTold.covers hw htold

/-! ### Runs -/

/-- From a session at work, no leg is ever left naked in a run whose events find their rows
telling of the shares, and take no more off the sale than is for sale too much. -/
theorem no_naked_leg (session : TradeBuilderPairSession) (order : Leg → TradeBuilderOrder)
    (feeRateBps : Leg → ℤ) (hnew : session.status = .working)
    (events : List (ExitTask × ExitReply))
    (hcovers : EachStep nakedStep StaysCovered (.start session order feeRateBps) events) :
    Throughout nakedStep NoNakedLeg (.start session order feeRateBps) events := by
  have hstart : NoNakedLeg (.start session order feeRateBps) := fun hstopped => absurd hnew hstopped
  exact EachStep.throughout (I := NoNakedLeg) (fun _ hw => hw)
    (fun _ e hw h => nakedStep_keeps hw e (h.leaves hw)) hstart hcovers

/-- The lead fills ten shares, the grace of the counter is over, and all of the lead is sold. -/
def unwoundLead : List (ExitTask × ExitReply) :=
  [(.processLeg .primary, { fill := some ⟨10, 1 / 2, 0, 0, false⟩, gained := 10 }),
    (.processLeg .counter, { facts := { config := some {}, now := 5000 } }),
    (.processSell 0, { sellReport := .fills 10, sold := 10 })]

def stagedOrder : Leg → TradeBuilderOrder
  | .primary => { id := 1, pairSessionId := some 7, pairLegRole := some .leadCandidate
                  slEnabled := true, slRules := [⟨3 / 10, 50⟩, ⟨2 / 10, 50⟩] }
  | .counter => { id := 2, pairSessionId := some 7, pairLegRole := some .counterCandidate }

/-- The first stage of the lead's stop loss sells five of its ten shares. -/
def firstStageFills : List (ExitTask × ExitReply) :=
  [(.processLeg .primary, { fill := some ⟨10, 1 / 2, 0, 0, false⟩, gained := 10 }),
    (.processSell 0, { sellReport := .fills 5, sold := 5 })]

/-- A lead whose counter never fills is unwound, and stays covered until it is sold. -/
theorem no_naked_leg_unwound :
    Throughout nakedStep NoNakedLeg
      (.start pairedSession (fun leg => { pairedOrder leg with slEnabled := false }) fun _ => 0)
      unwoundLead :=
  no_naked_leg pairedSession (fun leg => { pairedOrder leg with slEnabled := false })
    (fun _ => 0) rfl unwoundLead (by decide +kernel)

/-- With the first stage filled the session is completed and the second stage cancelled: five
shares of the lead are held and nothing sells them. -/
theorem second_stage_canceled : ¬ ∀ (session : TradeBuilderPairSession)
    (order : Leg → TradeBuilderOrder) (feeRateBps : Leg → ℤ), session.status = .working →
    ∀ events : List (ExitTask × ExitReply),
      Throughout nakedStep NoNakedLeg (.start session order feeRateBps) events := by
  intro h
  have hrun := h pairedSession stagedOrder (fun _ => 0) rfl firstStageFills 2
  exact absurd hrun (by decide +kernel)

end PolymarketBot.PairLock.Exits
