import PolymarketBot.Lib.Grid
import PolymarketBot.Lib.Rows
import PolymarketBot.PairLock.ExitRows

/-! How much of a leg is for sale at once, under any interleaving of the statements of the
passes, the requests to unwind and the fills of the sells. -/

namespace PolymarketBot.PairLock.Exits
open Lib Prog Builder
open ExitJob (run logged)

/-- Confirmed to be at its end. -/
def isOver : OrderStatus → Bool
  | .completed | .canceled | .expired | .filled => true
  | _ => false

/-- What a sell still offers of a leg. -/
def SellOrder.liveQty (leg : Leg) (s : SellOrder) : ℚ :=
  if s.leg = leg ∧ ¬ isOver s.status then s.remaining else 0

def liveQty (leg : Leg) (sells : List SellOrder) : ℚ := (sells.map (SellOrder.liveQty leg)).sum

/-- No more of a leg is for sale than is held of it. -/
def NeverOversold (w : PairExits) : Prop := ∀ leg, liveQty leg w.sells ≤ w.held leg

instance : DecidablePred NeverOversold := fun w =>
  decidable_of_iff (liveQty .primary w.sells ≤ w.held .primary ∧
    liveQty .counter w.sells ≤ w.held .counter)
    ⟨fun h leg => match leg with
      | .primary => h.1
      | .counter => h.2, fun h => ⟨h .primary, h .counter⟩⟩

/-- What may be for sale beside the new offer: a request to unwind finds at most what it keeps
live, an exit child or a resized sell fits beside the others, and no sell comes back to life
or fills after its end unless it fits too. -/
def LeavesRoom (c : ExitCall) (w : PairExits) (r : ExitReply) : Prop :=
  r.fails.isSome = true ∨
    match c with
    | .createUnwindOrder leg currentQty keepVisibleQty =>
      currentQty ≤ keepVisibleQty ∨
        liveQty leg w.sells + currentQty ≤ w.held leg + keepVisibleQty
    | .createExitChild leg child => liveQty leg w.sells + max child.qty 0 ≤ w.held leg
    | .createTimeExit leg _ => liveQty leg w.sells + max r.timeExitQty 0 ≤ w.held leg
    | .resizeSell id qty => ∀ sell ∈ w.sells[id]?, isOver sell.status = false →
        liveQty sell.leg w.sells + max qty 0 ≤ w.held sell.leg + sell.remaining
    | .setSellStatus id status => ∀ sell ∈ w.sells[id]?, isOver sell.status = true →
        isOver status = true ∨ liveQty sell.leg w.sells + sell.remaining ≤ w.held sell.leg
    | .sellReport id => ∀ sell ∈ w.sells[id]?, isOver sell.status = true →
        liveQty sell.leg w.sells + max 0 (min r.sold sell.remaining) ≤ w.held sell.leg
    | _ => True

/-! ### Sums over the sells -/

theorem liveQty_append (leg : Leg) (sells : List SellOrder) (s : SellOrder) :
    liveQty leg (sells ++ [s]) = liveQty leg sells + s.liveQty leg := by
  simp [liveQty]

theorem liveQty_modify (leg : Leg) (f : SellOrder → SellOrder) (sells : List SellOrder) (id : ℕ) :
    liveQty leg (sells.modify id f) = liveQty leg sells +
      (sells[id]?.map fun s => (f s).liveQty leg - s.liveQty leg).getD 0 :=
  Rows.sum_map_modify (SellOrder.liveQty leg) f sells id

/-! ### Rounded quantities -/

theorem dust_of_onGrid {qty : ℚ} (hgrid : OnGrid 100 qty) (hnonneg : 0 ≤ qty)
    (hdust : qty ≤ LegPass.pairQtyTolerance) : qty = 0 := by
  obtain ⟨k, rfl⟩ := hgrid
  have hsmall : (k : ℚ) / 100 ≤ 1 / 10000 := hdust
  have hlt : (k : ℚ) < 1 := by linarith
  have hge : (0 : ℚ) ≤ k := by linarith
  have hzero : k = 0 := by
    have h1 : k < 1 := by exact_mod_cast hlt
    have h2 : 0 ≤ k := by exact_mod_cast hge
    omega
  simp [hzero]

theorem unwindQty_of_onGrid {currentQty keepVisibleQty : ℚ} (hc : OnGrid 100 currentQty)
    (hk : OnGrid 100 keepVisibleQty) :
    unwindQty currentQty keepVisibleQty = max (currentQty - keepVisibleQty) 0 := by
  have hgrid : OnGrid 100 (max (currentQty - keepVisibleQty) 0) :=
    OnGrid.max (OnGrid.sub hc hk) OnGrid.zero
  have hround := round_of_onGrid hgrid (le_max_right _ _)
  simp only [unwindQty, hround]
  split
  · rename_i hdust
    exact (dust_of_onGrid hgrid (le_max_right _ _) hdust).symm
  · rfl

theorem estimatedQty_onGrid (o : PairOrder) : OnGrid 100 o.estimatedQty := by
  unfold PairOrder.estimatedQty
  split
  · exact roundTradeBuilderShareQty_onGrid _
  · exact OnGrid.zero

/-! ### What a thread relies on -/

/-- An unwind is created with a quantity its thread has read, and a kept quantity in whole
cents; `s` tells of which quantities the thread knows that they are whole cents. -/
def exitProtocol : Protocol ExitCall ExitAnswer String (ℚ → Prop) where
  next s c x :=
    match c, x with
    | .getParentPosition _, .ok (some qty) => fun q => s q ∨ q = qty
    | _, _ => s
  allows s c :=
    match c with
    | .createUnwindOrder _ currentQty keepVisibleQty => s currentQty ∧ OnGrid 100 keepVisibleQty
    | .applyPositionFill _ filledQty => OnGrid 100 filledQty
    | _ => True

/-- From whatever a thread knows, the job keeps to the protocol and forgets nothing. -/
def Follows {α : Type} (p : ExitJob α) : Prop :=
  ∀ s : ℚ → Prop, (∀ q, OnGrid 100 q → s q) →
    p.Obeys exitProtocol (fun _ s' => ∀ q, OnGrid 100 q → s' q) s

theorem next_of_knows {s : ℚ → Prop} (hs : ∀ q, OnGrid 100 q → s q) (c : ExitCall)
    (x : Except String (ExitAnswer c)) : ∀ q, OnGrid 100 q → exitProtocol.next s c x q := by
  intro q hq
  unfold exitProtocol
  dsimp only
  split
  · exact .inl (hs q hq)
  · exact hs q hq

section Follows
variable {α β : Type}

theorem follows_pure (a : α) : Follows (pure a) := fun _ hs => hs

theorem follows_fail (e : String) : Follows (Prog.fail e : ExitJob α) := fun _ hs => hs

theorem follows_bind {p : ExitJob α} {f : α → ExitJob β} (hp : Follows p)
    (hf : ∀ a, Follows (f a)) : Follows (p >>= f) :=
  fun s hs => obeys_bind (hp s hs) (fun a s' hs' => hf a s' hs') fun _ _ hs' => hs'

theorem obeys_run {c : ExitCall} {s : ℚ → Prop} (h : exitProtocol.allows s c)
    (hs : ∀ q, OnGrid 100 q → s q) :
    (run c).Obeys exitProtocol (fun _ s' => ∀ q, OnGrid 100 q → s' q) s := by
  refine ⟨h, fun x => ?_⟩
  cases x <;> exact next_of_knows hs c _

theorem follows_free {c : ExitCall} (h : ∀ s, exitProtocol.allows s c) : Follows (run c) :=
  fun s hs => obeys_run (h s) hs

theorem follows_when {c : Prop} [Decidable c] {p : ExitJob Unit} (hp : Follows p) :
    Follows (ExitJob.when c p) := by
  unfold ExitJob.when
  split
  · exact hp
  · exact follows_pure ()

theorem follows_logged {p : ExitJob Unit} (hp : Follows p) : Follows (logged p) :=
  fun s hs => obeys_attempt (hp s hs) fun _ _ hs' => hs'

theorem follows_forM {l : List α} {f : α → ExitJob Unit} (hf : ∀ a, Follows (f a)) :
    Follows (l.forM f) := by
  induction l with
  | nil => exact follows_pure ()
  | cons a l ih =>
    exact follows_bind (hf a) fun _ => ih

end Follows

/-! ### Every job keeps to the protocol -/

theorem unwindCandidate_follows {keepVisibleQty : ℚ} (hkeep : OnGrid 100 keepVisibleQty)
    (o : PairOrder) : Follows (unwindCandidate keepVisibleQty o) := by
  intro s hs
  refine obeys_perform trivial (fun position => ?_) fun _ => hs
  have hnext := next_of_knows hs (.getParentPosition o.leg) (.ok position)
  refine obeys_run ⟨?_, hkeep⟩ hnext
  cases position with
  | none => exact hs _ (estimatedQty_onGrid o)
  | some qty => exact .inr rfl

theorem scheduleUnwind_follows (orders : List PairOrder) (nextStatus : PairStatus)
    (reason : String) {keepVisibleQty : Option ℚ}
    (hkeep : OnGrid 100 (keepVisibleQty.getD 0)) :
    Follows (scheduleTradeBuilderPairSessionUnwind orders nextStatus reason keepVisibleQty) := by
  unfold scheduleTradeBuilderPairSessionUnwind
  refine follows_bind (follows_forM fun o => ?_) fun _ => ?_
  · exact follows_when (follows_free fun _ => trivial)
  refine follows_bind (follows_forM fun o => ?_) fun _ => follows_free fun _ => trivial
  exact unwindCandidate_follows (OnGrid.max hkeep OnGrid.zero) o

theorem cancelStopLossChildren_follows (orders : List PairOrder) :
    Follows (cancelStopLossChildren orders) := by
  refine follows_forM fun o => follows_bind (follows_free fun _ => trivial) fun children => ?_
  exact follows_forM fun child => follows_free fun _ => trivial

theorem commonQty_onGrid {session : TradeBuilderPairSession} {commonQty : ℚ}
    (h : tradeBuilderPairLockCommonQty session = some commonQty) : OnGrid 100 commonQty := by
  unfold tradeBuilderPairLockCommonQty at h
  cases hp : session.primary with
  | none => simp [hp] at h
  | some primary =>
    cases hc : session.counter with
    | none => simp [hp, hc] at h
    | some counter =>
      simp only [hp, hc, Option.bind_eq_bind, Option.bind_some, Option.ite_none_right_eq_some,
        Option.some.injEq] at h
      rw [← h.2]
      exact roundTradeBuilderShareQty_onGrid _

theorem buyFill_follows (o : PairOrder) (fill : BuyFill) :
    Follows (maybeHandleTradeBuilderPairLockBuyFill o fill) := by
  unfold maybeHandleTradeBuilderPairLockBuyFill
  split
  · exact follows_pure ()
  refine follows_bind (follows_free fun _ => trivial) fun _ => ?_
  refine follows_bind (follows_free fun _ => trivial) fun session => ?_
  refine follows_bind ?_ fun biased => ?_
  · refine follows_bind (follows_free fun _ => trivial) fun uses => ?_
    split
    · refine follows_bind (follows_free fun _ => trivial) fun fresh => ?_
      exact follows_bind (follows_when (follows_free fun _ => trivial)) fun _ => follows_pure true
    · exact follows_pure false
  split
  · exact follows_pure ()
  split
  · exact follows_pure ()
  cases hcommon : tradeBuilderPairLockCommonQty session with
  | none => exact follows_pure ()
  | some commonQty =>
    refine follows_bind (follows_free fun _ => trivial) fun orders => ?_
    refine follows_bind (follows_free fun _ => trivial) fun _ => ?_
    refine follows_bind (scheduleUnwind_follows _ _ _ (commonQty_onGrid hcommon)) fun _ => ?_
    exact follows_when (cancelStopLossChildren_follows orders)

theorem finalizeLegFill_follows (o : PairOrder) (fill : BuyFill) :
    Follows (finalizeLegFill o fill) := by
  refine follows_bind (follows_free fun _ => trivial) fun liveGapConfigured => ?_
  split
  · exact follows_fail _
  refine follows_bind (follows_free fun _ => trivial) fun _ => ?_
  refine follows_bind (follows_free fun _ => trivial) fun _ => ?_
  refine follows_bind (follows_free fun _ => trivial) fun _ => ?_
  refine follows_bind (buyFill_follows o fill) fun _ => ?_
  refine follows_bind ?_ fun surfaceActive => ?_
  · unfold stopLossSurfaceActive
    split
    · exact follows_pure true
    · exact follows_bind (follows_free fun _ => trivial) fun _ => follows_pure _
  refine follows_bind (follows_free fun _ => trivial) fun _ => ?_
  refine follows_bind (follows_free fun _ => trivial) fun orderMinSize => ?_
  refine follows_forM fun step => ?_
  cases step with
  | note event => exact follows_pure ()
  | create child => exact follows_free fun _ => trivial

theorem unwindAll_follows (orders : List PairOrder) (reason : String) :
    Follows (scheduleTradeBuilderPairSessionUnwind orders .unwinding reason none) :=
  scheduleUnwind_follows orders _ _ OnGrid.zero

theorem endCandidate_follows (leg : Leg) (status : OrderStatus) (reason : String) :
    Follows (endCandidate leg status reason) := by
  refine follows_bind (follows_free fun _ => trivial) fun o => ?_
  refine follows_bind (follows_free fun _ => trivial) fun _ => ?_
  unfold maybeAbortForTerminalOrder
  split
  · exact follows_pure ()
  refine follows_bind (follows_free fun _ => trivial) fun session => ?_
  split
  · exact follows_pure ()
  refine follows_bind ?_ fun skipped => ?_
  · refine follows_bind (follows_free fun _ => trivial) fun facts => ?_
    split
    · exact follows_pure false
    · exact follows_bind (follows_free fun _ => trivial) fun _ => follows_pure true
  split
  · exact follows_pure ()
  exact follows_bind (follows_free fun _ => trivial) fun orders => unwindAll_follows orders reason

theorem closePairSession_follows (leg : Leg) (reason : String) (status : PairStatus) :
    Follows ((legStatements leg).closePairSession reason status) := by
  unfold LegStatements.closePairSession
  split
  · exact follows_free fun _ => trivial
  · exact follows_pure ()

theorem applyCounterDecision_follows (leg : Leg) (pass : LegPass) (decision : CounterDecision) :
    Follows ((legStatements leg).applyCounterDecision pass decision) := by
  have hupdate (u : OrderUpdate) : Follows (do
      run (.updateOrder leg u)
      pure true) :=
    follows_bind (follows_free fun _ => trivial) fun _ => follows_pure true
  cases decision with
  | proceeds cap => exact follows_pure false
  | rebases r eligibleBeforeAt => exact hupdate _
  | ends action =>
    cases action with
    | sessionClosed =>
      simp only [LegStatements.applyCounterDecision]
      split
      · exact hupdate _
      · exact follows_pure false
    | cancel reason =>
      refine follows_bind (closePairSession_follows leg reason _) fun _ => ?_
      refine follows_bind (follows_free fun _ => trivial) fun _ => ?_
      exact follows_bind (closePairSession_follows leg reason _) fun _ => follows_pure true
    | hold =>
      simp only [LegStatements.applyCounterDecision]
      split
      · exact follows_pure true
      · exact hupdate _
    | unwind =>
      refine follows_bind ?_ fun _ => follows_pure true
      exact follows_bind (follows_free fun _ => trivial) fun orders => unwindAll_follows orders _
    | rebase => exact hupdate _
    | wait => exact follows_pure true
    | proceed cap => exact follows_pure false

theorem processLeg_follows (leg : Leg) : Follows (processLeg leg) := by
  refine follows_bind (follows_free fun _ => trivial) fun o => ?_
  split
  · exact follows_pure ()
  refine follows_bind ?_ fun ended => ?_
  · unfold pairLockRuntime
    split
    · exact follows_pure false
    refine follows_bind (follows_free fun _ => trivial) fun session => ?_
    refine follows_bind (follows_free fun _ => trivial) fun facts => ?_
    refine follows_bind (follows_free fun _ => trivial) fun primary => ?_
    exact applyCounterDecision_follows o.leg _ _
  split
  · exact follows_pure ()
  refine follows_bind (follows_free fun _ => trivial) fun fill => ?_
  cases fill with
  | none => exact follows_pure ()
  | some fill => exact finalizeLegFill_follows o fill

theorem biasedHedgePairExit_follows (reason : String) :
    Follows (executeBiasedHedgePairExit reason) := by
  refine follows_bind (follows_free fun _ => trivial) fun session => ?_
  split
  · exact follows_pure ()
  exact follows_bind (follows_free fun _ => trivial) fun orders => unwindAll_follows orders reason

theorem biasedHedgeTimeExit_follows (leg : Leg) (baselineQty pct : ℚ) :
    Follows (executeBiasedHedgeTimeExit leg baselineQty pct) := by
  refine follows_bind (follows_free fun _ => trivial) fun session => ?_
  split
  · exact follows_pure ()
  refine follows_bind (follows_free fun _ => trivial) fun position => ?_
  cases position with
  | none => exact follows_pure ()
  | some currentQty =>
    dsimp only
    split
    · exact follows_pure ()
    · exact follows_free fun _ => trivial

theorem syncExitChild_follows (currentParentQty : ℚ) (child : ℕ × SellOrder) :
    Follows (syncExitChild currentParentQty child) := by
  unfold syncExitChild
  split
  · exact follows_pure ()
  split
  · exact follows_free fun _ => trivial
  split
  · exact follows_when (follows_free fun _ => trivial)
  refine follows_bind (follows_free fun _ => trivial) fun target => ?_
  cases target with
  | absent => exact follows_pure ()
  | skipped => exact follows_free fun _ => trivial
  | target qty => exact follows_free fun _ => trivial

theorem lockedLegStopLossFill_follows (parent : PairOrder) :
    Follows (finalizeAfterLockedLegStopLossFill parent) := by
  unfold finalizeAfterLockedLegStopLossFill
  split
  · exact follows_pure ()
  refine follows_bind (follows_free fun _ => trivial) fun session => ?_
  split
  · exact follows_pure ()
  refine follows_bind (follows_free fun _ => trivial) fun candidates => ?_
  refine follows_bind (follows_free fun _ => trivial) fun unwinds => ?_
  refine follows_bind (follows_forM fun _ => follows_free fun _ => trivial) fun _ => ?_
  refine follows_bind (follows_forM fun _ => follows_free fun _ => trivial) fun _ => ?_
  exact follows_free fun _ => trivial

theorem leadStopLossFill_follows (parent : PairOrder) :
    Follows (finalizeAfterLeadStopLossFill parent) := by
  unfold finalizeAfterLeadStopLossFill
  split
  · exact follows_pure ()
  refine follows_bind (follows_free fun _ => trivial) fun session => ?_
  split
  · exact follows_pure ()
  refine follows_bind (follows_free fun _ => trivial) fun orders => ?_
  refine follows_bind (cancelStopLossChildren_follows orders) fun _ => ?_
  refine follows_bind (follows_forM fun _ => follows_free fun _ => trivial) fun _ => ?_
  exact follows_free fun _ => trivial

theorem hasLivePosition_follows (orders : List PairOrder) : Follows (hasLivePosition orders) := by
  induction orders with
  | nil => exact follows_pure false
  | cons o rest ih =>
    refine follows_bind (follows_free fun _ => trivial) fun position => ?_
    split
    · exact follows_pure true
    · exact ih

theorem finalizeAfterUnwindFill_follows : Follows finalizeAfterUnwindFill := by
  refine follows_bind (follows_free fun _ => trivial) fun session => ?_
  split
  · exact follows_pure ()
  refine follows_bind (follows_free fun _ => trivial) fun orders => ?_
  refine follows_bind (hasLivePosition_follows _) fun live => ?_
  split
  · exact follows_pure ()
  · exact follows_free fun _ => trivial

theorem normalized_onGrid {value : Option ℚ} {qty : ℚ}
    (h : normalizeTradeBuilderTerminalFillQtyCandidate value = some qty) : OnGrid 100 qty := by
  unfold normalizeTradeBuilderTerminalFillQtyCandidate at h
  obtain ⟨hmap, -⟩ := Option.filter_eq_some_iff.mp h
  obtain ⟨raw, -, rfl⟩ := Option.map_eq_some_iff.mp hmap
  exact roundTradeBuilderShareQty_onGrid raw

theorem finalizeSellFill_follows (id : ℕ) (sell : SellOrder) (bookedQty : ℚ) :
    Follows (finalizeSellFill id sell bookedQty) := by
  refine follows_bind (follows_free fun _ => trivial) fun _ => ?_
  refine follows_bind (follows_when ?_) fun _ => ?_
  · refine follows_bind (follows_free fun _ => trivial) fun children => ?_
    exact follows_forM fun _ => follows_free fun _ => trivial
  refine follows_bind (follows_free fun _ => trivial) fun parent => ?_
  refine follows_bind (follows_when ?_) fun _ => ?_
  · cases hqty : normalizeTradeBuilderTerminalFillQtyCandidate (some bookedQty) with
    | none => exact follows_pure ()
    | some qty => exact follows_free fun _ => normalized_onGrid hqty
  refine follows_bind (follows_when (follows_logged ?_)) fun _ => ?_
  · refine follows_bind (follows_free fun _ => trivial) fun children => ?_
    refine follows_bind (follows_free fun _ => trivial) fun position => ?_
    exact follows_forM fun child => syncExitChild_follows _ child
  refine follows_bind (follows_when (follows_logged (lockedLegStopLossFill_follows parent)))
    fun _ => ?_
  refine follows_bind (follows_when (follows_logged (leadStopLossFill_follows parent)))
    fun _ => ?_
  exact follows_when finalizeAfterUnwindFill_follows

theorem processSell_follows (id : ℕ) : Follows (processSell id) := by
  refine follows_bind (follows_free fun _ => trivial) fun sell => ?_
  cases sell with
  | none => exact follows_pure ()
  | some sell =>
    refine follows_bind (follows_free fun _ => trivial) fun report => ?_
    cases report with
    | pending => exact follows_pure ()
    | moves status active =>
      exact follows_bind (follows_free fun _ => trivial) fun _ => follows_free fun _ => trivial
    | fills bookedQty => exact finalizeSellFill_follows id sell bookedQty

theorem job_follows (task : ExitTask) : Follows task.job := by
  cases task with
  | processLeg leg => exact processLeg_follows leg
  | endCandidate leg status reason => exact endCandidate_follows leg status reason
  | biasedHedgePairExit reason => exact biasedHedgePairExit_follows reason
  | biasedHedgeTimeExit leg baselineQty pct => exact biasedHedgeTimeExit_follows leg baselineQty pct
  | processSell id => exact processSell_follows id

/-! ### Steps -/

section Steps
variable {w : PairExits}

theorem remaining_nonneg (s : SellOrder) : 0 ≤ s.remaining := le_max_right _ _

theorem liveQty_of_ne {leg : Leg} {s : SellOrder} (h : s.leg ≠ leg) : s.liveQty leg = 0 := by
  simp [SellOrder.liveQty, h]

theorem liveQty_of_over {s : SellOrder} (h : isOver s.status = true) (leg : Leg) :
    s.liveQty leg = 0 := by
  simp [SellOrder.liveQty, h]

theorem liveQty_self {s : SellOrder} (h : isOver s.status = false) :
    s.liveQty s.leg = s.remaining := by
  simp [SellOrder.liveQty, h]

theorem liveQty_new (leg : Leg) (kind : SellKind) (qty : ℚ) {status : OrderStatus}
    (h : isOver status = false) :
    SellOrder.liveQty leg ⟨leg, kind, qty, 0, status, false, false⟩ = max qty 0 := by
  simp [SellOrder.liveQty, SellOrder.remaining, h]

theorem neverOversold_addSell (hw : NeverOversold w) (s : SellOrder) :
    NeverOversold (w.addSell s) ↔ liveQty s.leg w.sells + s.liveQty s.leg ≤ w.held s.leg := by
  constructor
  · intro h
    have hleg := h s.leg
    rwa [PairExits.addSell, liveQty_append] at hleg
  · intro h leg
    rw [PairExits.addSell, liveQty_append]
    by_cases hleg : s.leg = leg
    · rwa [← hleg]
    · rw [liveQty_of_ne hleg, add_zero]
      exact hw leg

theorem neverOversold_modifySell (hw : NeverOversold w) (id : ℕ) (f : SellOrder → SellOrder)
    (hf : ∀ s, (f s).leg = s.leg) :
    NeverOversold (w.modifySell id f) ↔ ∀ s ∈ w.sells[id]?,
      liveQty s.leg w.sells + ((f s).liveQty s.leg - s.liveQty s.leg) ≤ w.held s.leg := by
  constructor
  · intro h s hs
    have hleg := h s.leg
    rw [PairExits.modifySell, liveQty_modify, Option.mem_def.mp hs] at hleg
    exact hleg
  · intro h leg
    rw [PairExits.modifySell, liveQty_modify]
    cases hs : w.sells[id]? with
    | none => simpa using hw leg
    | some s =>
      by_cases hleg : s.leg = leg
      · have hfits := h s hs
        rwa [hleg] at hfits
      · have hsame : (f s).liveQty leg - s.liveQty leg = 0 := by
          rw [liveQty_of_ne hleg, liveQty_of_ne (by rwa [hf s]), sub_zero]
        simpa [hsame] using hw leg

theorem neverOversold_fillSell (hw : NeverOversold w) (id : ℕ) (sold : ℚ) :
    NeverOversold (w.fillSell id sold) ↔ ∀ s ∈ w.sells[id]?, isOver s.status = true →
      liveQty s.leg w.sells + max 0 (min sold s.remaining) ≤ w.held s.leg := by
  cases hs : w.sells[id]? with
  | none => simpa [PairExits.fillSell, hs] using hw
  | some s =>
    have hsold : max 0 (min sold s.remaining) ≤ s.remaining :=
      max_le (remaining_nonneg s) (min_le_right _ _)
    set part := max 0 (min sold s.remaining) with hpart
    have hpart0 : 0 ≤ part := le_max_left _ _
    have hremaining : max (s.qty - (s.filled + part)) 0 = s.remaining - part := by
      unfold SellOrder.remaining at hsold ⊢
      rcases le_total (s.qty - s.filled) 0 with h | h
      · rw [max_eq_right h] at hsold ⊢
        rw [max_eq_right (by linarith)]
        linarith
      · rw [max_eq_left h] at hsold ⊢
        rw [max_eq_left (by linarith)]
        ring
    have hlive (leg : Leg) : liveQty leg (w.fillSell id sold).sells =
        liveQty leg w.sells - (if s.leg = leg ∧ ¬ isOver s.status then part else 0) := by
      simp only [PairExits.fillSell, hs, ← hpart, PairExits.modifySell, PairExits.modifyHeld]
      rw [liveQty_modify, hs]
      by_cases hcounts : s.leg = leg ∧ ¬ isOver s.status
      · simp only [Option.map_some, Option.getD_some, SellOrder.liveQty, if_pos hcounts]
        rw [SellOrder.remaining, hremaining]
        ring
      · simp only [Option.map_some, Option.getD_some, SellOrder.liveQty, if_neg hcounts]
        ring
    have hheld (leg : Leg) : (w.fillSell id sold).held leg =
        w.held leg - if leg = s.leg then part else 0 := by
      simp only [PairExits.fillSell, hs, ← hpart, PairExits.modifySell, PairExits.modifyHeld]
      by_cases hleg : leg = s.leg
      · subst hleg
        simp
      · simp [hleg]
    constructor
    · intro h t ht hover
      obtain rfl : s = t := by simpa using ht
      have hleg := h s.leg
      rw [hlive, hheld] at hleg
      simp only [hover, not_true_eq_false, and_false, if_false, sub_zero, if_true] at hleg
      linarith
    · intro h leg
      have hold := hw leg
      rw [hlive, hheld]
      by_cases hleg : s.leg = leg
      · subst hleg
        cases hover : isOver s.status with
        | true =>
          have hfits := h s rfl hover
          simp
          linarith
        | false => simpa using hold
      · simpa [hleg, Ne.symm hleg] using hold

theorem neverOversold_createUnwind (hw : NeverOversold w) (leg : Leg)
    {currentQty keepVisibleQty : ℚ} (hc : OnGrid 100 currentQty) (hk : OnGrid 100 keepVisibleQty) :
    NeverOversold (w.createUnwindOrder leg currentQty keepVisibleQty) ↔
      currentQty ≤ keepVisibleQty ∨
        liveQty leg w.sells + currentQty ≤ w.held leg + keepVisibleQty := by
  rw [PairExits.createUnwindOrder, unwindQty_of_onGrid hc hk]
  by_cases hle : currentQty ≤ keepVisibleQty
  · have hzero : max (currentQty - keepVisibleQty) 0 = 0 := max_eq_right (by linarith)
    rw [hzero, if_pos rfl]
    exact iff_of_true hw (.inl hle)
  · have hpos : max (currentQty - keepVisibleQty) 0 = currentQty - keepVisibleQty :=
      max_eq_left (by linarith)
    have hne : currentQty - keepVisibleQty ≠ 0 := fun h => hle (by linarith)
    rw [hpos, if_neg hne, neverOversold_addSell hw, liveQty_new leg .unwind _ rfl, hpos,
      or_iff_right hle]
    constructor <;> intro h <;> linarith

theorem neverOversold_resize (hw : NeverOversold w) (id : ℕ) (qty : ℚ) :
    NeverOversold (w.modifySell id fun sell => { sell with qty := sell.filled + qty }) ↔
      ∀ sell ∈ w.sells[id]?, isOver sell.status = false →
        liveQty sell.leg w.sells + max qty 0 ≤ w.held sell.leg + sell.remaining := by
  rw [neverOversold_modifySell hw id (fun sell => { sell with qty := sell.filled + qty })
    fun _ => rfl]
  refine forall₂_congr fun s hs => ?_
  cases hover : isOver s.status with
  | true =>
    refine iff_of_true ?_ nofun
    have hnew : SellOrder.liveQty s.leg { s with qty := s.filled + qty } = 0 :=
      liveQty_of_over (s := { s with qty := s.filled + qty }) hover s.leg
    rw [hnew, liveQty_of_over hover s.leg]
    simpa using hw s.leg
  | false =>
    have hnew : SellOrder.liveQty s.leg { s with qty := s.filled + qty } = max qty 0 := by
      rw [SellOrder.liveQty, if_pos ⟨rfl, by simp [hover]⟩, SellOrder.remaining,
        add_sub_cancel_left]
    rw [liveQty_self hover, hnew]
    constructor
    · intro h _
      linarith
    · intro h
      have hfits := h rfl
      linarith

theorem neverOversold_setStatus (hw : NeverOversold w) (id : ℕ) (status : OrderStatus) :
    NeverOversold (w.modifySell id ({ · with status })) ↔
      ∀ sell ∈ w.sells[id]?, isOver sell.status = true →
        isOver status = true ∨ liveQty sell.leg w.sells + sell.remaining ≤ w.held sell.leg := by
  rw [neverOversold_modifySell hw id ({ · with status }) fun _ => rfl]
  refine forall₂_congr fun s hs => ?_
  have hold := hw s.leg
  have hremaining := remaining_nonneg s
  have hnew : SellOrder.liveQty s.leg { s with status } =
      if isOver status = true then 0 else s.remaining := by
    cases h : isOver status <;> simp [SellOrder.liveQty, SellOrder.remaining, h]
  cases hover : isOver s.status with
  | true =>
    rw [liveQty_of_over hover, hnew]
    cases isOver status with
    | true => simpa using hold
    | false => simp
  | false =>
    refine iff_of_true ?_ nofun
    rw [liveQty_self hover, hnew]
    split <;> linarith

/-- Of all calls these move what is live or held. -/
def movesSells : ExitCall → Bool
  | .createUnwindOrder _ _ _ | .createExitChild _ _ | .createTimeExit _ _ | .resizeSell _ _
  | .setSellStatus _ _ | .setSellActive _ _ | .sellReport _ | .exchange _ => true
  | _ => false

theorem exitAnswer_rest {c : ExitCall} (hc : movesSells c = false) (r : ExitReply) :
    (exitAnswer w r c).2.sells = w.sells ∧ (exitAnswer w r c).2.held = w.held := by
  cases c <;> first | exact ⟨rfl, rfl⟩ | cases hc

theorem exitAct_law (hw : NeverOversold w) {s : ℚ → Prop} (hs : ∀ q, s q → OnGrid 100 q)
    {c : ExitCall} (ha : exitProtocol.allows s c) (r : ExitReply) :
    NeverOversold (exitAct c w r).2 ↔ LeavesRoom c w r := by
  unfold exitAct LeavesRoom
  cases hf : r.fails with
  | some reason => exact iff_of_true hw (.inl rfl)
  | none =>
    simp only [Option.isSome_none, Bool.false_eq_true, false_or]
    cases hc : movesSells c with
    | false =>
      obtain ⟨hsells, hheld⟩ := exitAnswer_rest (w := w) hc r
      have hsame : NeverOversold (exitAnswer w r c).2 := by
        unfold NeverOversold
        rw [hsells, hheld]
        exact hw
      refine iff_of_true hsame ?_
      cases c <;> trivial
    | true =>
      cases c with
      | createUnwindOrder leg currentQty keep =>
        exact neverOversold_createUnwind hw leg (hs _ ha.1) ha.2
      | createExitChild leg child =>
        simp only [exitAnswer]
        rw [neverOversold_addSell hw, liveQty_new leg _ _ rfl]
      | createTimeExit leg sizePct =>
        simp only [exitAnswer]
        rw [neverOversold_addSell hw, liveQty_new leg _ _ rfl]
      | resizeSell id qty => exact neverOversold_resize hw id qty
      | setSellStatus id status => exact neverOversold_setStatus hw id status
      | setSellActive id active =>
        refine iff_of_true
          ((neverOversold_modifySell hw id ({ · with active }) fun _ => rfl).mpr ?_) trivial
        intro sell hsell
        have hsame : SellOrder.liveQty sell.leg { sell with active } = sell.liveQty sell.leg := rfl
        rw [hsame, sub_self, add_zero]
        exact hw sell.leg
      | sellReport id => exact neverOversold_fillSell hw id r.sold
      | exchange leg =>
        refine iff_of_true (fun other => ?_) trivial
        simp only [exitAnswer, PairExits.modifyHeld]
        by_cases hleg : other = leg
        · subst hleg
          rw [Function.update_self]
          have hgained : 0 ≤ max r.gained 0 := le_max_right _ _
          linarith [hw other]
        · rw [Function.update_of_ne hleg]
          exact hw other
      | _ => cases hc

end Steps

/-! ### Runs -/

structure SellsOk (w : PairExits) : Prop where
  law : NeverOversold w
  positions : ∀ leg qty, w.position leg = some qty → OnGrid 100 qty

/-- A thread is right about its quantities. -/
def KnowsCents {ι : Type} (_ : ι) (s : ℚ → Prop) (_ : PairExits) : Prop := ∀ q, s q → OnGrid 100 q

theorem seedQty_onGrid (seed : Option ℚ) (canonicalEntryQty : ℚ) :
    OnGrid 100 (tradeBuilderParentPositionSeedQty seed canonicalEntryQty) := by
  unfold tradeBuilderParentPositionSeedQty
  cases hseed : normalizeTradeBuilderVisibleInventoryQty seed with
  | none => exact roundTradeBuilderShareQty_onGrid _
  | some qty =>
    obtain ⟨raw, -, rfl⟩ := Option.map_eq_some_iff.mp hseed
    exact roundTradeBuilderShareQty_onGrid raw

theorem exitAct_positions {w : PairExits}
    (hw : ∀ leg qty, w.position leg = some qty → OnGrid 100 qty) {s : ℚ → Prop} {c : ExitCall}
    (ha : exitProtocol.allows s c) (r : ExitReply) :
    ∀ leg qty, (exitAct c w r).2.position leg = some qty → OnGrid 100 qty := by
  unfold exitAct
  cases hf : r.fails with
  | some reason => exact hw
  | none =>
    cases c with
    | ensurePosition leg canonicalEntryQty =>
      intro other qty hqty
      simp only [exitAnswer] at hqty
      by_cases hleg : other = leg
      · subst hleg
        rw [Function.update_self, Option.some.injEq] at hqty
        rw [← hqty]
        cases hp : w.position other with
        | none => exact seedQty_onGrid _ _
        | some held => exact hw other held hp
      · rw [Function.update_of_ne hleg] at hqty
        exact hw other qty hqty
    | applyPositionFill leg filledQty =>
      intro other qty hqty
      simp only [exitAnswer] at hqty
      by_cases hleg : other = leg
      · subst hleg
        rw [Function.update_self] at hqty
        obtain ⟨held, hp, rfl⟩ := Option.map_eq_some_iff.mp hqty
        exact OnGrid.max OnGrid.zero (OnGrid.sub (hw other held hp) ha)
      · rw [Function.update_of_ne hleg] at hqty
        exact hw other qty hqty
    | sellReport id =>
      simp only [exitAnswer, PairExits.fillSell]
      split <;> exact hw
    | createUnwindOrder leg currentQty keep =>
      simp only [exitAnswer, PairExits.createUnwindOrder]
      split <;> exact hw
    | _ => exact hw

theorem knowsCents_next {ι : Type} {i : ι} {w : PairExits} (hw : SellsOk w) {s : ℚ → Prop}
    (hs : KnowsCents i s w) (c : ExitCall) (r : ExitReply) :
    KnowsCents i (exitProtocol.next s c (exitAct c w r).1) (exitAct c w r).2 := by
  intro q hq
  cases c with
  | getParentPosition leg =>
    cases hf : r.fails with
    | some reason =>
      simp only [exitAct, hf] at hq
      exact hs q hq
    | none =>
      cases hp : w.position leg with
      | none =>
        simp only [exitAct, hf, exitAnswer, hp] at hq
        exact hs q hq
      | some qty =>
        simp only [exitAct, hf, exitAnswer, hp, exitProtocol] at hq
        rcases hq with hq | rfl
        · exact hs q hq
        · exact hw.positions leg q hp
  | _ => exact hs q hq

/-- A session whose orders have not been filled yet. -/
def PairExits.start (session : TradeBuilderPairSession) (order : Leg → TradeBuilderOrder)
    (feeRateBps : Leg → ℤ) : PairExits :=
  ⟨session, order, feeRateBps, fun _ => none, [], fun _ => 0⟩

theorem sellsOk_start (session : TradeBuilderPairSession) (order : Leg → TradeBuilderOrder)
    (feeRateBps : Leg → ℤ) : SellsOk (.start session order feeRateBps) where
  law _ := le_refl _
  positions _ _ h := by cases h

/-- Under any interleaving of passes, requests to unwind and fills, no leg is ever oversold
exactly when every new offer leaves room for those that are live. -/
theorem unwinds_never_oversell_iff {ι : Type} [DecidableEq ι] (session : TradeBuilderPairSession)
    (order : Leg → TradeBuilderOrder) (feeRateBps : Leg → ℤ) (tasks : ι → ExitTask)
    (schedule : List (ι × ExitReply)) :
    Pool.Always (fun _ => exitAct) NeverOversold
        ⟨.start session order feeRateBps, fun i => (tasks i).job⟩ schedule ↔
      Pool.Meets (fun _ => exitAct) (fun _ => LeavesRoom)
        ⟨.start session order feeRateBps, fun i => (tasks i).job⟩ schedule := by
  have hsound : Pool.Sound exitProtocol SellsOk KnowsCents
      (⟨.start session order feeRateBps, fun i => (tasks i).job⟩ :
        Pool ι ExitCall ExitAnswer String PairExits) := by
    refine ⟨sellsOk_start session order feeRateBps, fun i => ⟨OnGrid 100, fun _ h => h, ?_⟩⟩
    exact obeys_mono (job_follows (tasks i) _ fun _ h => h) fun _ _ _ => trivial
  refine hsound.always_iff_meets (fun i s c w r hw hs ha => ?_) (fun i s c w r hw hs ha hok => ?_)
    (fun w hw => hw.law) schedule
  · exact exitAct_law hw.law hs ha r
  · refine ⟨⟨?_, exitAct_positions hw.positions ha r⟩, knowsCents_next hw hs c r, ?_⟩
    · exact (exitAct_law hw.law hs ha r).mpr hok
    · exact fun j _ t ht => ht

def pairedSession : TradeBuilderPairSession :=
  { pairTargetTotalCent := 98, primaryOrderId := some 1, counterOrderId := some 2 }

/-- The primary is stopped out below its limit; the counter has no exit of its own. -/
def pairedOrder : Leg → TradeBuilderOrder
  | .primary => { id := 1, pairSessionId := some 7, pairLegRole := some .leadCandidate
                  slEnabled := true, slPrice := some (3 / 10) }
  | .counter => { id := 2, pairSessionId := some 7, pairLegRole := some .counterCandidate }

/-- The lead fills ten shares, and the grace of the counter is over before it fills. -/
def orphanedLead : List (Leg × ExitReply) :=
  let filled : ExitReply := { fill := some ⟨10, 1 / 2, 0, 0, false⟩, gained := 10 }
  let graceOver : ExitReply := { facts := { config := some {}, now := 5000 } }
  List.replicate 4 (.primary, default) ++ (.primary, filled) ::
    List.replicate 11 (.primary, default) ++
      [(.counter, default), (.counter, default), (.counter, graceOver)] ++
        List.replicate 5 (.counter, default)

/-- The stop loss of the lead stays live while all of the lead is unwound. -/
theorem unwound_over_live_stop_loss : ¬ ∀ (session : TradeBuilderPairSession)
    (order : Leg → TradeBuilderOrder) (feeRateBps : Leg → ℤ) (tasks : Leg → ExitTask)
    (schedule : List (Leg × ExitReply)),
    Pool.Always (fun _ => exitAct) NeverOversold
      ⟨.start session order feeRateBps, fun i => (tasks i).job⟩ schedule := by
  intro h
  have hrun := h pairedSession pairedOrder (fun _ => 0) .processLeg orphanedLead
  exact absurd hrun (by decide +kernel)

end PolymarketBot.PairLock.Exits
