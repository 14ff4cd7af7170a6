import PolymarketBot.Lib.Runs
import PolymarketBot.PairLock.Oversell

/-! When a leg is naked, and what the handlers of each event leave of the legs when none of their
calls fails. -/

namespace PolymarketBot.PairLock.Exits
open Lib Prog Runs Builder
open ExitJob (run logged)

/-- For sale, or waiting for its trigger: neither over, nor on its way out, nor given up. -/
def SellOrder.covers (s : SellOrder) : Bool :=
  !tradeBuilderIsTerminalStatus s.status && s.status != .error && s.status != .rejected

def SellOrder.coverQty (leg : Leg) (s : SellOrder) : ℚ :=
  if s.leg = leg ∧ s.covers then s.remaining else 0

def coverQty (leg : Leg) (sells : List SellOrder) : ℚ := (sells.map (SellOrder.coverQty leg)).sum

/-- What is held of a leg beyond the locked quantity is for sale. -/
def Covered (lockedQty : ℚ) (held : Leg → ℚ) (sells : List SellOrder) : Prop :=
  ∀ leg, held leg ≤ lockedQty + coverQty leg sells

instance {p : Leg → Prop} [DecidablePred p] : Decidable (∀ leg, p leg) :=
  decidable_of_iff (p .primary ∧ p .counter)
    ⟨fun h leg => match leg with
      | .primary => h.1
      | .counter => h.2, fun h => ⟨h .primary, h .counter⟩⟩

instance (lockedQty : ℚ) (held : Leg → ℚ) (sells : List SellOrder) :
    Decidable (Covered lockedQty held sells) :=
  inferInstanceAs (Decidable (∀ leg, held leg ≤ lockedQty + coverQty leg sells))

/-- Once the session leaves its working state no leg is naked. -/
def NoNakedLeg (w : PairExits) : Prop :=
  w.session.status ≠ .working → Covered (w.session.lockedQty.getD 0) w.held w.sells

instance : DecidablePred NoNakedLeg := fun w =>
  inferInstanceAs (Decidable (w.session.status ≠ .working → _))

/-! ### What the handlers of an event have to leave -/

/-- A buy that its session lists as the candidate of a leg. -/
def isPairCandidate (order : TradeBuilderOrder) : Bool :=
  order.pairSessionId.isSome && tradeBuilderPairLockIsCandidateOrder order

namespace PairExits
variable (w : PairExits)

def lockedQty : ℚ := w.session.lockedQty.getD 0

/-- What a request to unwind puts up for sale of a leg: what its position row tells, or its
fill before there is a row, and nothing of a leg that is no candidate of the session. -/
def offeredQty (keepVisibleQty : ℚ) (leg : Leg) : ℚ :=
  if isPairCandidate (w.order leg) then
    unwindQty ((w.position leg).getD (w.pairOrder leg).estimatedQty) keepVisibleQty
  else 0

end PairExits

/-- The position rows tell of everything that is held beside what is for sale already. -/
def UnwindCovers (w : PairExits) : Prop :=
  ∀ leg, w.held leg ≤ w.lockedQty + coverQty leg w.sells + w.offeredQty 0 leg

section Fill
variable (w : PairExits) (leg : Leg) (fill : BuyFill) (r : ExitReply)

def gainedHeld : Leg → ℚ := Function.update w.held leg (w.held leg + max r.gained 0)

/-- The session once the fill of the leg is recorded. -/
def recordedSession : TradeBuilderPairSession :=
  if isPairCandidate (w.order leg) then
    w.session.recordFill ((w.order leg).pairLegRole.getD .leadCandidate) (w.order leg).id
      fill.toLegFill fill.filledAt
  else w.session

/-- The biased hedge locks with both legs filled and unwinds nothing. -/
def locksAsHedge : Bool :=
  let session := recordedSession w leg fill
  isPairCandidate (w.order leg) && r.usesBiasedHedge &&
    (0 < biasedHedgeNotional session.primary && 0 < biasedHedgeNotional session.counter)

/-- The quantity that is matched when the fill locks the session. -/
def matchedQty : Option ℚ :=
  let session := recordedSession w leg fill
  if isPairCandidate (w.order leg) ∧ r.usesBiasedHedge = false ∧ session.status = .working then
    tradeBuilderPairLockCommonQty session
  else none

/-- The status and the locked quantity that the children of the fill are created under. -/
def filledSession : TradeBuilderPairSession :=
  let session := recordedSession w leg fill
  if locksAsHedge w leg fill r then { session with status := .locked }
  else
    match matchedQty w leg fill r with
    | some qty => { session with status := .locked, lockedQty := some qty }
    | none => session

def stepQty : ChildStep → ℚ
  | .note _ => 0
  | .create child => max child.qty 0

/-- What the exit children of the fill sell; the stop losses are left out for a leg whose
session does not serve them. -/
def childrenQty : ℚ :=
  let order := w.order leg
  let surfaceActive := !(tradeBuilderOrderUsesPairLock order &&
    tradeBuilderPairLockIsCandidateOrder order && order.side == .buy) ||
      stopLossSurfaceActiveFromSession (filledSession w leg fill r) order.id
  let steps := exitChildren order (roundTradeBuilderShareQty fill.canonicalEntryQty) r.orderMinSize
    surfaceActive r.liveGapConfigured
  (steps.map stepQty).sum

/-- Stop losses of the candidates, which a lock may cancel and the stop of the lead does. -/
def dropStopLoss (s : SellOrder) : SellOrder :=
  if isPairCandidate (w.order s.leg) && s.kind.isStopLoss && !tradeBuilderIsTerminalStatus s.status
  then { s with status := s.cancelStatus } else s

/-- The world in which the position of the filled leg has a row. -/
def positionBooked : PairExits :=
  let qty := roundTradeBuilderShareQty fill.canonicalEntryQty
  let position := (w.position leg).getD (tradeBuilderParentPositionSeedQty r.seedQty qty)
  { w with position := Function.update w.position leg (some position) }

/-- A fill that finds the session out of work, or takes it out, is covered: by what is for
sale already, by its own exit children, and when it locks by the unwinds of the rest. -/
def FillCovers : Prop :=
  let session := filledSession w leg fill r
  let matched := matchedQty w leg fill r
  let sells := if matched.isSome && session.ignoreStopLossAfterLocked then
    w.sells.map (dropStopLoss w) else w.sells
  session.status ≠ .working → ∀ other,
    gainedHeld w leg r other ≤ session.lockedQty.getD 0 + coverQty other sells +
      (matched.elim 0 fun qty => (positionBooked w leg fill r).offeredQty (max qty 0) other) +
      if other = leg then childrenQty w leg fill r else 0

/-- What the exchange fills before a pass books it, and a fill that is not booked for its size,
add nothing to what is for sale. -/
def ExchangeCovers : Prop :=
  let unbooked := w.session.status ≠ .working → Covered w.lockedQty (gainedHeld w leg r) w.sells
  match r.fill with
  | none => unbooked
  | some fill =>
    if hasExitSettings (w.order leg) r.liveGapConfigured ∧
        roundTradeBuilderShareQty fill.canonicalEntryQty ≤ 0 then unbooked
    else FillCovers w leg fill r

end Fill

/-- What the session makes of the leg at the head of its pass. -/
def legDecision (w : PairExits) (leg : Leg) (r : ExitReply) : CounterDecision :=
  let order := w.order leg
  if order.pairSessionId.isNone ∨ ¬ tradeBuilderPairLockIsCandidateOrder order ∨
      order.side ≠ .buy then .proceeds none
  else
    let pass : LegPass := { session := w.session, order, primary := some (w.order .primary)
                            config := r.facts.config, biasedHedge := r.facts.biasedHedge
                            marketEnd := r.facts.marketEnd, now := r.facts.now }
    pass.applyRuntime

/-- A session that is closed without unwinding has nothing left beyond its locked quantity. -/
def PassCovers (w : PairExits) (leg : Leg) (r : ExitReply) : Prop :=
  isTradeBuilderOrderProcessableStatus (w.order leg).status →
    match legDecision w leg r with
    | .ends .unwind => UnwindCovers w
    | .ends (.cancel reason) => (closedStatus reason).isSome → Covered w.lockedQty w.held w.sells
    | .ends (.proceed _) | .proceeds _ => ExchangeCovers w leg r
    | _ => True

/-- The lead's candidate ends: without the protective unwind the session is only closed. -/
def AbortCovers (w : PairExits) (leg : Leg) (r : ExitReply) : Prop :=
  isPairCandidate (w.order leg) → w.session.status = .working → w.session.leadOrderId.isSome →
    if (r.facts.config.map PairLockConfig.protectiveUnwindEnabled).getD true then UnwindCovers w
    else Covered w.lockedQty w.held w.sells

section SellFill
variable (w : PairExits) (id : ℕ) (sell : SellOrder) (bookedQty : ℚ) (r : ExitReply)

/-- The first stop loss of the lead that fills ends the session. -/
def stopsOutLead : Bool :=
  sell.kind.isStopLoss && isPairCandidate (w.order sell.leg) && w.session.status == .working &&
    stopLossSurfaceActiveFromSession w.session (w.order sell.leg).id

def stopsOutLockedLeg : Bool :=
  sell.kind.isStopLoss && isPairCandidate (w.order sell.leg) && w.session.status == .locked &&
    !w.session.ignoreStopLossAfterLocked

/-- The open quantity of the leg once an exit child has filled. -/
def openParentQty : ℚ :=
  let filledQty := if sell.kind.isExitChild then
    normalizeTradeBuilderTerminalFillQtyCandidate (some bookedQty) else none
  ((w.position sell.leg).map fun qty =>
    roundTradeBuilderShareQty (filledQty.elim qty fun filled => max 0 (qty - filled))).getD 0

/-- What is left of a sell that follows the open quantity of its leg. -/
def syncedSell (parentQty : ℚ) (child : ℕ × SellOrder) (s : SellOrder) : SellOrder :=
  if tradeBuilderIsTerminalStatus child.2.status ∨ ¬ child.2.kind.isExitChild then s
  else if parentQty ≤ tradeBuilderExitQtyTolerance then
    { s with status := child.2.cancelStatus }
  else if child.2.kind.cancelsSiblings then
    let desired := roundTradeBuilderShareQty parentQty
    if ¬ child.2.active ∧ 0 < desired ∧
        tradeBuilderExitQtyTolerance ≤ |roundTradeBuilderShareQty child.2.qty - desired| then
      { s with qty := s.filled + desired }
    else s
  else
    match r.ladderTarget child.1 with
    | .absent => s
    | .skipped => { s with status := child.2.cancelStatus }
    | .target qty => { s with qty := s.filled + qty }

def dropUnwind (s : SellOrder) : SellOrder :=
  if s.kind = .unwind ∧ ¬ tradeBuilderIsTerminalStatus s.status then
    { s with status := s.cancelStatus } else s

/-- The sells as the exchange's fill leaves them, the filled one completed. -/
def completedSells : List SellOrder :=
  (w.fillSell id r.sold).sells.modify id ({ · with status := .completed })

/-- Its siblings that are neither over nor latched. -/
def isOcoSibling (child : ℕ × SellOrder) : Bool :=
  child.1 != id && !tradeBuilderIsTerminalStatus child.2.status && !child.2.latched &&
    decide (child.2.leg = sell.leg)

def cancelOcoSiblings (sells : List SellOrder) : List SellOrder :=
  sells.mapIdx fun i s =>
    if isOcoSibling id sell (i, s) then { s with status := .canceledRequested } else s

def syncedSells (leg : Leg) (parentQty : ℚ) (sells : List SellOrder) : List SellOrder :=
  sells.mapIdx fun i s => if s.leg = leg then syncedSell r parentQty (i, s) s else s

/-- The stop of the lead drops the session's stop losses, that of a locked leg its unwinds. -/
def afterStopLoss (sells : List SellOrder) : List SellOrder :=
  let sells := if stopsOutLockedLeg w sell then sells.map dropUnwind else sells
  if stopsOutLead w sell then sells.map (dropStopLoss w) else sells

/-- What the fill leaves of the sells, handler after handler. -/
def leftForSale : List SellOrder :=
  let sells := completedSells w id r
  let sells := if sell.kind.cancelsSiblings then cancelOcoSiblings id sell sells else sells
  let sells := if tradeBuilderOrderHasExitLadders (w.order sell.leg) ∧ ¬ sell.kind.cancelsSiblings
    then syncedSells r sell.leg (openParentQty w sell bookedQty) sells else sells
  afterStopLoss w sell sells

/-- A fill outside the working state, or of the stop loss that ends it, leaves enough for sale. -/
def SellFillCovers : Prop :=
  w.session.status ≠ .working ∨ stopsOutLead w sell →
    Covered w.lockedQty (w.fillSell id r.sold).held (leftForSale w id sell bookedQty r)

end SellFill

def SellPassCovers (w : PairExits) (id : ℕ) (r : ExitReply) : Prop :=
  ∀ sell ∈ w.sells[id]?,
    match r.sellReport with
    | .pending => True
    | .moves status active => w.session.status ≠ .working →
        Covered w.lockedQty (w.fillSell id r.sold).held
          ((w.fillSell id r.sold).sells.modify id ({ · with status, active }))
    | .fills bookedQty => SellFillCovers w id sell bookedQty r

/-- What the handlers of an event have to leave; an event whose first call fails leaves
everything as it was. -/
def LeavesCovered (w : PairExits) (e : ExitTask × ExitReply) : Prop :=
  e.2.fails = none →
    match e.1 with
    | .processLeg leg => PassCovers w leg e.2
    | .endCandidate leg _ _ => AbortCovers w leg e.2
    | .biasedHedgePairExit _ =>
      w.session.status ≠ .unwinding → w.session.status.isClosed = false → UnwindCovers w
    | .biasedHedgeTimeExit _ _ _ => True
    | .processSell id => SellPassCovers w id e.2

def nakedStep (w : PairExits) (e : ExitTask × ExitReply) : PairExits :=
  (e.1.job.runWith exitAct e.2 w).2

/-! ### What a job does when no call fails -/

section Ends
variable {α β : Type} {r : ExitReply} {w : PairExits}

/-- Every run of the job on the reply `r` ends in `Q`. -/
abbrev Ends (r : ExitReply) (p : ExitJob α) (Q : Except String α → PairExits → Prop)
    (w : PairExits) : Prop :=
  wp exitAct (fun _ _ r' => r' = r) p Q w

theorem ends_run (hr : r.fails = none) {c : ExitCall}
    {Q : Except String (ExitAnswer c) → PairExits → Prop}
    (h : Q (.ok (exitAnswer w r c).1) (exitAnswer w r c).2) : Ends r (run c) Q w := by
  refine (wp_perform c Q w).mpr fun r' hr' => ?_
  subst hr'
  simpa [exitAct, hr] using h

theorem ends_call (hr : r.fails = none) {c : ExitCall} {f : ExitAnswer c → ExitJob β}
    {Q : Except String β → PairExits → Prop}
    (h : Ends r (f (exitAnswer w r c).1) Q (exitAnswer w r c).2) :
    Ends r (run c >>= f) Q w := by
  refine (wp_bind _ f Q w).mpr (ends_run hr ?_)
  exact h

theorem ends_when {c : Prop} [Decidable c] {p : ExitJob Unit}
    {Q : Except String Unit → PairExits → Prop} (hp : c → Ends r p Q w)
    (hq : ¬ c → Q (.ok ()) w) : Ends r (ExitJob.when c p) Q w :=
  wp_ite hp hq

theorem ends_forM {f : α → ExitJob Unit} {g : PairExits → α → PairExits}
    (hf : ∀ a w, Ends r (f a) (Answers fun _ w' => w' = g w a) w) (l : List α) (w : PairExits) :
    Ends r (l.forM f) (Answers fun _ w' => w' = l.foldl g w) w :=
  wp_forM hf l w

theorem ends_logged {p : ExitJob Unit} {R : Unit → PairExits → Prop}
    (hp : Ends r p (Answers R) w) : Ends r (logged p) (Answers R) w := by
  refine (wp_bind _ _ _ w).mpr ((wp_attempt p _ w).mpr (wp_mono hp fun x w' h => ?_))
  obtain ⟨a, -, hR⟩ := h
  exact ⟨(), rfl, hR⟩

end Ends

/-! ### Loops over the sells -/

theorem foldl_sells {α : Type} (l : List α) (h : α → List SellOrder → List SellOrder)
    (w : PairExits) :
    l.foldl (fun w a => { w with sells := h a w.sells }) w =
      { w with sells := l.foldl (fun sells a => h a sells) w.sells } := by
  induction l generalizing w with
  | nil => rfl
  | cons a l ih => exact ih _

theorem listed_forM {r : ExitReply} {w : PairExits} (P : ℕ × SellOrder → Bool)
    {f : ℕ × SellOrder → ExitJob Unit} {g : ℕ × SellOrder → SellOrder → SellOrder}
    (hf : ∀ c w, Ends r (f c) (Answers fun _ w' => w' = w.modifySell c.1 (g c)) w) :
    Ends r (((Rows.listed w.sells).filter P).forM f)
      (Answers fun _ w' => w' =
        { w with sells := w.sells.mapIdx fun i s => if P (i, s) then g (i, s) s else s }) w := by
  have hrun := ends_forM hf ((Rows.listed w.sells).filter P) w
  have hfold := foldl_sells ((Rows.listed w.sells).filter P)
    (fun c sells => sells.modify c.1 (g c)) w
  rw [Rows.foldl_modify_listed] at hfold
  rw [← hfold]
  exact hrun

theorem setSellStatus_ends {r : ExitReply} (hr : r.fails = none) {w : PairExits} (id : ℕ)
    (status : OrderStatus) :
    Ends r (run (.setSellStatus id status))
      (Answers fun _ w' => w' = w.modifySell id ({ · with status })) w :=
  ends_run hr ⟨(), rfl, rfl⟩

def dropStopLossOf (legs : List Leg) (s : SellOrder) : SellOrder :=
  if s.leg ∈ legs ∧ s.kind.isStopLoss ∧ ¬ tradeBuilderIsTerminalStatus s.status then
    { s with status := s.cancelStatus } else s

theorem dropStopLossOf_ends {r : ExitReply} (hr : r.fails = none) {w : PairExits} (leg : Leg) :
    Ends r (do
      let children ← run (.listChildren leg)
      (children.filter fun child =>
        child.2.kind.isStopLoss && !tradeBuilderIsTerminalStatus child.2.status).forM fun child =>
          run (.setSellStatus child.1 child.2.cancelStatus))
      (Answers fun _ w' => w' = { w with sells := w.sells.map (dropStopLossOf [leg]) }) w := by
  refine ends_call hr ?_
  change Ends r (List.forM (List.filter _ (List.filter _ (Rows.listed w.sells))) _) _ w
  rw [List.filter_filter]
  refine wp_mono (listed_forM _ fun c w => setSellStatus_ends hr c.1 c.2.cancelStatus)
    fun x w' ⟨a, hx, hw'⟩ => ⟨a, hx, ?_⟩
  have hdrop : dropStopLossOf [leg] = fun s => if (s.kind.isStopLoss &&
      !tradeBuilderIsTerminalStatus s.status && decide (s.leg = leg)) = true then
        { s with status := s.cancelStatus } else s := by
    funext s
    simp only [dropStopLossOf, Bool.and_eq_true, decide_eq_true_eq, Bool.not_eq_true',
      List.mem_singleton]
    grind
  rw [hw', hdrop, ← Rows.mapIdx_of_rows]

theorem dropStopLossOf_cons (leg : Leg) (legs : List Leg) (s : SellOrder) :
    dropStopLossOf legs (dropStopLossOf [leg] s) = dropStopLossOf (leg :: legs) s := by
  have hcancel : tradeBuilderIsTerminalStatus s.cancelStatus = true := by
    unfold SellOrder.cancelStatus
    split <;> rfl
  by_cases hdrop : s.kind.isStopLoss ∧ ¬ tradeBuilderIsTerminalStatus s.status
  · by_cases hleg : s.leg = leg
    · simp [dropStopLossOf, hleg, hdrop, hcancel]
    · simp [dropStopLossOf, hleg, hdrop]
  · have hself (legs : List Leg) : dropStopLossOf legs s = s := if_neg fun h => hdrop h.2
    rw [hself, hself, hself]

theorem foldl_dropStopLossOf (legs : List Leg) (sells : List SellOrder) :
    legs.foldl (fun sells leg => sells.map (dropStopLossOf [leg])) sells =
      sells.map (dropStopLossOf legs) := by
  induction legs generalizing sells with
  | nil =>
    have hself : dropStopLossOf [] = id := by
      funext s
      simp [dropStopLossOf]
    rw [List.foldl_nil, hself, List.map_id]
  | cons leg legs ih =>
    have hcomp : dropStopLossOf legs ∘ dropStopLossOf [leg] = dropStopLossOf (leg :: legs) :=
      funext (dropStopLossOf_cons leg legs)
    rw [List.foldl_cons, ih, List.map_map, hcomp]

/-! ### The candidates of the session -/

def candidateLegs (orders : List PairOrder) : List Leg :=
  (orders.filter fun o => tradeBuilderPairLockIsCandidateOrder o.row).map PairOrder.leg

theorem cancelStopLossChildren_ends {r : ExitReply} (hr : r.fails = none) {w : PairExits}
    (orders : List PairOrder) :
    Ends r (cancelStopLossChildren orders)
      (Answers fun _ w' => w' =
        { w with sells := w.sells.map (dropStopLossOf (candidateLegs orders)) }) w := by
  have hrun := ends_forM
    (fun (o : PairOrder) w => dropStopLossOf_ends hr (w := w) o.leg)
    (orders.filter fun o => tradeBuilderPairLockIsCandidateOrder o.row) w
  have hfold : (orders.filter fun o => tradeBuilderPairLockIsCandidateOrder o.row).foldl
      (fun sells o => sells.map (dropStopLossOf [o.leg])) w.sells =
        w.sells.map (dropStopLossOf (candidateLegs orders)) := by
    rw [candidateLegs, ← foldl_dropStopLossOf, List.foldl_map]
  rw [foldl_sells _ fun (o : PairOrder) sells => sells.map (dropStopLossOf [o.leg]), hfold]
    at hrun
  exact hrun

theorem candidates_filter (w : PairExits) :
    (w.candidates.filter fun o => tradeBuilderPairLockIsCandidateOrder o.row) =
      ([Leg.primary, .counter].filter fun leg => isPairCandidate (w.order leg)).map
        w.pairOrder := by
  have hboth : ∀ o : PairOrder, (tradeBuilderPairLockIsCandidateOrder o.row &&
      o.row.pairSessionId.isSome) = isPairCandidate o.row := fun o => Bool.and_comm _ _
  rw [PairExits.candidates, List.filter_filter]
  simp only [hboth]
  rw [List.filter_map]
  rfl

theorem mem_candidateLegs {w : PairExits} {leg : Leg} :
    leg ∈ candidateLegs w.candidates ↔ isPairCandidate (w.order leg) = true := by
  have hlegs : candidateLegs w.candidates =
      [Leg.primary, .counter].filter fun leg => isPairCandidate (w.order leg) := by
    rw [candidateLegs, candidates_filter, List.map_map]
    exact List.map_id _
  rw [hlegs]
  cases leg <;> simp

theorem dropStopLossOf_candidates (w : PairExits) :
    dropStopLossOf (candidateLegs w.candidates) = dropStopLoss w := by
  funext s
  simp [dropStopLossOf, dropStopLoss, mem_candidateLegs, and_assoc]

/-- The sells a request to unwind adds for its candidates. -/
def unwindSells (position : Leg → Option ℚ) (keepVisibleQty : ℚ) (o : PairOrder) :
    List SellOrder :=
  let qty := unwindQty ((position o.leg).getD o.estimatedQty) keepVisibleQty
  if qty = 0 then [] else [⟨o.leg, .unwind, qty, 0, .triggered, false, false⟩]

theorem unwindCandidate_ends {r : ExitReply} (hr : r.fails = none) {w : PairExits}
    (keepVisibleQty : ℚ) (o : PairOrder) :
    Ends r (unwindCandidate keepVisibleQty o)
      (Answers fun _ w' => w' =
        { w with sells := w.sells ++ unwindSells w.position keepVisibleQty o }) w := by
  have hsells : w.createUnwindOrder o.leg ((w.position o.leg).getD o.estimatedQty) keepVisibleQty =
      { w with sells := w.sells ++ unwindSells w.position keepVisibleQty o } := by
    unfold PairExits.createUnwindOrder unwindSells
    by_cases hqty : unwindQty ((w.position o.leg).getD o.estimatedQty) keepVisibleQty = 0
    · simp [hqty]
    · simp [hqty, PairExits.addSell]
  exact ends_call hr (ends_run hr ⟨(), rfl, hsells⟩)

theorem foldl_unwindSells (keepVisibleQty : ℚ) (orders : List PairOrder) (w : PairExits) :
    orders.foldl (fun w o =>
        { w with sells := w.sells ++ unwindSells w.position keepVisibleQty o }) w =
      { w with sells := w.sells ++ orders.flatMap (unwindSells w.position keepVisibleQty) } := by
  induction orders generalizing w with
  | nil => simp
  | cons o rest ih => rw [List.foldl_cons, ih, List.flatMap_cons, List.append_assoc]

theorem rows_forM {r : ExitReply} {f : PairOrder → ExitJob Unit}
    (hf : ∀ o w, Ends r (f o) (Answers fun _ w' => ∃ order, w' = { w with order }) w)
    (orders : List PairOrder) (w : PairExits) :
    Ends r (orders.forM f) (Answers fun _ w' => ∃ order, w' = { w with order }) w := by
  induction orders generalizing w with
  | nil => exact ⟨(), rfl, w.order, rfl⟩
  | cons o rest ih =>
    refine wp_bind_answers (hf o w) ?_
    rintro _ _ ⟨order, rfl⟩
    refine wp_mono (ih { w with order }) ?_
    rintro x w' ⟨a, hx, order', rfl⟩
    exact ⟨a, hx, order', rfl⟩

theorem cancelUnfilledCandidate_ends {r : ExitReply} (hr : r.fails = none) (reason : String)
    (o : PairOrder) (w : PairExits) :
    Ends r (cancelUnfilledCandidate o reason)
      (Answers fun _ w' => ∃ order, w' = { w with order }) w :=
  ends_when (fun _ => ends_run hr ⟨(), rfl, _, rfl⟩) fun _ => ⟨(), rfl, w.order, rfl⟩

theorem scheduleUnwind_ends {r : ExitReply} (hr : r.fails = none) {w : PairExits}
    (orders : List PairOrder) (nextStatus : PairStatus) (reason : String)
    (keepVisibleQty : Option ℚ) :
    Ends r (scheduleTradeBuilderPairSessionUnwind orders nextStatus reason keepVisibleQty)
      (Answers fun _ w' => ∃ order, w' =
        { w with order
                 session := w.session.updateState nextStatus none none (some reason)
                 sells := w.sells ++ (orders.filter fun o =>
                   tradeBuilderPairLockIsCandidateOrder o.row).flatMap
                     (unwindSells w.position (max (keepVisibleQty.getD 0) 0)) }) w := by
  refine wp_bind_answers (rows_forM (cancelUnfilledCandidate_ends hr reason) _ w) ?_
  rintro _ _ ⟨order, rfl⟩
  have hloop := ends_forM
    (fun (o : PairOrder) w => unwindCandidate_ends hr (w := w) (max (keepVisibleQty.getD 0) 0) o)
    (orders.filter fun o => tradeBuilderPairLockIsCandidateOrder o.row) { w with order }
  rw [foldl_unwindSells] at hloop
  refine wp_bind_answers hloop ?_
  rintro _ _ rfl
  exact ends_run hr ⟨(), rfl, order, rfl⟩

/-! ### What the new sells cover -/

theorem coverQty_append (leg : Leg) (sells more : List SellOrder) :
    coverQty leg (sells ++ more) = coverQty leg sells + coverQty leg more := by
  simp [coverQty]

theorem coverQty_nonneg (leg : Leg) (sells : List SellOrder) : 0 ≤ coverQty leg sells := by
  refine List.sum_nonneg fun q hq => ?_
  obtain ⟨s, -, rfl⟩ := List.mem_map.mp hq
  unfold SellOrder.coverQty
  split
  · exact remaining_nonneg s
  · exact le_refl 0

theorem unwindQty_nonneg (currentQty keepVisibleQty : ℚ) :
    0 ≤ unwindQty currentQty keepVisibleQty := by
  unfold unwindQty
  dsimp only
  split
  · exact le_refl 0
  · exact roundTradeBuilderShareQty_nonneg _

theorem coverQty_new (leg other : Leg) (kind : SellKind) (qty : ℚ) {status : OrderStatus}
    (h : (⟨leg, kind, qty, 0, status, false, false⟩ : SellOrder).covers = true) :
    coverQty other [⟨leg, kind, qty, 0, status, false, false⟩] =
      if other = leg then max qty 0 else 0 := by
  simp [coverQty, SellOrder.coverQty, h, SellOrder.remaining, eq_comm]

theorem coverQty_unwindSells (position : Leg → Option ℚ) (keepVisibleQty : ℚ) (o : PairOrder)
    (other : Leg) :
    coverQty other (unwindSells position keepVisibleQty o) =
      if other = o.leg then unwindQty ((position o.leg).getD o.estimatedQty) keepVisibleQty
      else 0 := by
  have hnonneg := unwindQty_nonneg ((position o.leg).getD o.estimatedQty) keepVisibleQty
  by_cases hqty : unwindQty ((position o.leg).getD o.estimatedQty) keepVisibleQty = 0
  · simp [unwindSells, hqty, coverQty]
  · simp only [unwindSells, if_neg hqty]
    rw [coverQty_new _ _ _ _ rfl, max_eq_left hnonneg]

theorem coverQty_unwinds (w : PairExits) (keepVisibleQty : ℚ) (leg : Leg) :
    coverQty leg ((w.candidates.filter fun o =>
        tradeBuilderPairLockIsCandidateOrder o.row).flatMap
          (unwindSells w.position keepVisibleQty)) = w.offeredQty keepVisibleQty leg := by
  have hnil : coverQty leg [] = 0 := rfl
  rw [candidates_filter]
  cases hp : isPairCandidate (w.order .primary) <;>
    cases hc : isPairCandidate (w.order .counter) <;>
    cases leg <;>
    simp [PairExits.offeredQty, hp, hc, coverQty_append, coverQty_unwindSells, hnil,
      PairExits.pairOrder]

theorem offeredQty_congr {w w' : PairExits} {keepVisibleQty : ℚ} {leg : Leg}
    (hcandidate : isPairCandidate (w'.order leg) = isPairCandidate (w.order leg))
    (hqty : (w'.position leg).getD (w'.pairOrder leg).estimatedQty =
      (w.position leg).getD (w.pairOrder leg).estimatedQty) :
    w'.offeredQty keepVisibleQty leg = w.offeredQty keepVisibleQty leg := by
  rw [PairExits.offeredQty, PairExits.offeredQty, hcandidate, hqty]

/-! ### Every event keeps its session's legs covered -/

section Events
variable {r : ExitReply} {w : PairExits}

theorem isPairCandidate_apply (u : OrderUpdate) (row : TradeBuilderOrder) :
    isPairCandidate (u.apply row) = isPairCandidate row := by
  cases u <;> rfl

theorem estimatedQty_congr {o o' : PairOrder} (hqty : o'.row.filledQty = o.row.filledQty)
    (hsize : o'.row.sizeUsdc = o.row.sizeUsdc) (hfee : o'.feeRateBps = o.feeRateBps) :
    o'.estimatedQty = o.estimatedQty := by
  unfold PairOrder.estimatedQty
  rw [hqty, hsize, hfee]

theorem UnwindCovers.modifyOrder (h : UnwindCovers w) (leg : Leg) {u : OrderUpdate}
    (hfill : ∀ row, (u.apply row).filledQty = row.filledQty ∧
      (u.apply row).sizeUsdc = row.sizeUsdc) :
    UnwindCovers (w.modifyOrder leg u.apply) := by
  intro other
  have hoffered : (w.modifyOrder leg u.apply).offeredQty 0 other = w.offeredQty 0 other := by
    by_cases hleg : other = leg
    · subst hleg
      have hrow : (w.modifyOrder other u.apply).order other = u.apply (w.order other) := by
        simp [PairExits.modifyOrder]
      refine offeredQty_congr (by rw [hrow, isPairCandidate_apply]) (congrArg _ ?_)
      refine estimatedQty_congr ?_ ?_ rfl
      · exact (congrArg _ hrow).trans (hfill _).1
      · exact (congrArg _ hrow).trans (hfill _).2
    · refine offeredQty_congr ?_ ?_ <;> simp [PairExits.modifyOrder, PairExits.pairOrder, hleg]
  rw [hoffered]
  exact h other

theorem unwindAll_ends (hr : r.fails = none) (h : UnwindCovers w) (status : PairStatus)
    (reason : String) :
    Ends r (scheduleTradeBuilderPairSessionUnwind w.candidates status reason none)
      (Answers fun _ w' => NoNakedLeg w') w := by
  refine wp_mono (scheduleUnwind_ends hr w.candidates status reason none) ?_
  rintro x w' ⟨a, hx, order, rfl⟩
  refine ⟨a, hx, fun _ leg => ?_⟩
  have hunwinds := coverQty_unwinds w 0 leg
  have hleg := h leg
  simp only [Option.getD_none, max_self]
  rw [coverQty_append, hunwinds]
  simpa [PairExits.lockedQty, add_assoc, TradeBuilderPairSession.updateState] using hleg

theorem isNone_or_iff_isPairCandidate {order : TradeBuilderOrder} :
    (order.pairSessionId.isNone ∨ ¬ tradeBuilderPairLockIsCandidateOrder order) ↔
      ¬ isPairCandidate order = true := by
  cases h : order.pairSessionId <;> simp [isPairCandidate, h]

theorem maybeAbort_ends (hr : r.fails = none) (hw : NoNakedLeg w) {o : PairOrder}
    (h : isPairCandidate o.row → w.session.status = .working → w.session.leadOrderId.isSome →
      if (r.facts.config.map PairLockConfig.protectiveUnwindEnabled).getD true then UnwindCovers w
      else Covered w.lockedQty w.held w.sells) (reason : String) :
    Ends r (maybeAbortForTerminalOrder o reason) (fun _ w' => NoNakedLeg w') w := by
  refine wp_ite (fun _ => hw) fun hcandidate => ?_
  rw [isNone_or_iff_isPairCandidate, not_not] at hcandidate
  refine ends_call hr (wp_ite (fun _ => hw) fun hworking => ?_)
  obtain ⟨hstatus, hlead⟩ : w.session.status = .working ∧ w.session.leadOrderId.isSome := by
    simpa [exitAnswer, not_or, Option.isSome_iff_ne_none] using hworking
  have hcovered := h hcandidate hstatus hlead
  by_cases hprotect : (r.facts.config.map PairLockConfig.protectiveUnwindEnabled).getD true = true
  · rw [if_pos hprotect] at hcovered
    have hskip : Ends r (maybeSkipProtectiveUnwind o.leg reason .expired)
        (Answers fun skipped w' => skipped = false ∧ w' = w) w :=
      ends_call hr (wp_ite (fun _ => ⟨false, rfl, rfl, rfl⟩) fun h => absurd hprotect h)
    refine wp_bind_answers hskip ?_
    rintro _ _ ⟨rfl, rfl⟩
    refine ends_call hr (wp_mono (unwindAll_ends hr hcovered .unwinding reason) ?_)
    rintro x w' ⟨a, -, hw'⟩
    exact hw'
  · rw [if_neg hprotect] at hcovered
    have hskip : Ends r (maybeSkipProtectiveUnwind o.leg reason .expired)
        (Answers fun skipped w' => skipped = true ∧ NoNakedLeg w') w := by
      refine ends_call hr (wp_ite (fun h => absurd h hprotect) fun _ => ?_)
      exact ends_call hr ⟨true, rfl, rfl, fun _ => hcovered⟩
    refine wp_bind_answers hskip ?_
    rintro _ w' ⟨rfl, hw'⟩
    exact hw'

theorem endCandidate_ends (hr : r.fails = none) (hw : NoNakedLeg w) {leg : Leg}
    (h : AbortCovers w leg r) (status : OrderStatus) (reason : String) :
    Ends r (endCandidate leg status reason) (fun _ w' => NoNakedLeg w') w := by
  have hrow : NoNakedLeg
      (w.modifyOrder leg (OrderUpdate.clearActiveExchangeOrder status).apply) := hw
  refine ends_call hr (ends_call hr (maybeAbort_ends hr hrow ?_ reason))
  intro hcandidate hstatus hlead
  have hcovered := h hcandidate hstatus hlead
  split
  · rename_i hprotect
    rw [if_pos hprotect] at hcovered
    exact hcovered.modifyOrder leg fun _ => ⟨rfl, rfl⟩
  · rename_i hprotect
    rw [if_neg hprotect] at hcovered
    exact hcovered

theorem biasedHedgePairExit_ends (hr : r.fails = none) (hw : NoNakedLeg w)
    (h : w.session.status ≠ .unwinding → w.session.status.isClosed = false → UnwindCovers w)
    (reason : String) :
    Ends r (executeBiasedHedgePairExit reason) (fun _ w' => NoNakedLeg w') w := by
  refine ends_call hr (wp_ite (fun _ => hw) fun hopen => ?_)
  obtain ⟨hunwinding, hclosed⟩ := not_or.mp hopen
  have hcovered := h hunwinding (Bool.eq_false_of_not_eq_true hclosed)
  refine ends_call hr (wp_mono (unwindAll_ends hr hcovered .unwinding reason) ?_)
  rintro x w' ⟨a, -, hw'⟩
  exact hw'

theorem NoNakedLeg.addSell (hw : NoNakedLeg w) (s : SellOrder) : NoNakedLeg (w.addSell s) := by
  intro hstatus leg
  have hleg := hw hstatus leg
  have hnew := coverQty_nonneg leg [s]
  change w.held leg ≤ w.session.lockedQty.getD 0 + coverQty leg (w.sells ++ [s])
  rw [coverQty_append]
  linarith

theorem biasedHedgeTimeExit_ends (hr : r.fails = none) (hw : NoNakedLeg w) (leg : Leg)
    (baselineQty pct : ℚ) :
    Ends r (executeBiasedHedgeTimeExit leg baselineQty pct) (fun _ w' => NoNakedLeg w') w := by
  refine ends_call hr (wp_ite (fun _ => hw) fun _ => ends_call hr ?_)
  cases hposition : w.position leg with
  | none =>
    simp only [exitAnswer, hposition]
    exact hw
  | some currentQty =>
    simp only [exitAnswer, hposition]
    exact wp_ite (fun _ => hw) fun _ => ends_run hr (hw.addSell _)

/-! The fill of a leg -/

theorem createExitChildren_ends (hr : r.fails = none) (leg : Leg) (steps : List ChildStep) :
    Ends r (createExitChildren leg steps)
      (Answers fun _ w' => w'.session = w.session ∧ w'.held = w.held ∧
        ∀ other, coverQty other w'.sells =
          coverQty other w.sells + if other = leg then (steps.map stepQty).sum else 0) w := by
  induction steps generalizing w with
  | nil => exact ⟨(), rfl, rfl, rfl, fun other => by simp⟩
  | cons step rest ih =>
    cases step with
    | note event =>
      refine wp_mono (ih (w := w)) ?_
      rintro x w' ⟨a, hx, hsession, hheld, hcover⟩
      refine ⟨a, hx, hsession, hheld, fun other => ?_⟩
      rw [hcover other, List.map_cons, List.sum_cons, stepQty, zero_add]
    | create child =>
      refine ends_call hr (wp_mono (ih (w := (exitAnswer w r (.createExitChild leg child)).2)) ?_)
      rintro x w' ⟨a, hx, hsession, hheld, hcover⟩
      refine ⟨a, hx, hsession, hheld, fun other => ?_⟩
      have hnew := @coverQty_new leg other (.exit child.child) child.qty .armed rfl
      rw [hcover other, List.map_cons, List.sum_cons, stepQty]
      simp only [exitAnswer, PairExits.addSell]
      rw [coverQty_append, hnew]
      split <;> ring

theorem map_dropStopLoss_unwinds (position : Leg → Option ℚ) (keepVisibleQty : ℚ)
    (orders : List PairOrder) :
    (orders.flatMap (unwindSells position keepVisibleQty)).map (dropStopLoss w) =
      orders.flatMap (unwindSells position keepVisibleQty) := by
  refine (List.map_congr_left fun s hs => ?_).trans (List.map_id _)
  obtain ⟨o, -, hs⟩ := List.mem_flatMap.mp hs
  have hkind : s.kind = .unwind := by
    simp only [unwindSells] at hs
    split at hs
    · cases hs
    · rw [List.mem_singleton.mp hs]
  simp [dropStopLoss, hkind, SellKind.isStopLoss]

/-- A session without its profit estimate and its error, which decide nothing here. -/
def bareSession (session : TradeBuilderPairSession) : TradeBuilderPairSession :=
  { session with projectedNetProfitUsdc := none, lastError := none }

theorem lockPairSession_ends (hr : r.fails = none) (session : TradeBuilderPairSession)
    (commonQty : ℚ) :
    Ends r (lockPairSession session commonQty)
      (Answers fun _ w' => w'.held = w.held ∧
        bareSession w'.session =
          bareSession { w.session with status := .locked, lockedQty := some commonQty } ∧
        ∀ other, coverQty other w'.sells = coverQty other
            (if session.ignoreStopLossAfterLocked then w.sells.map (dropStopLoss w) else w.sells) +
          w.offeredQty (max commonQty 0) other) w := by
  have hunwinds := coverQty_unwinds w (max commonQty 0)
  refine ends_call hr (ends_call hr ?_)
  refine wp_bind_answers (scheduleUnwind_ends hr w.candidates _ _ _) ?_
  rintro _ _ ⟨order, rfl⟩
  refine ends_when (fun hignore => ?_) fun hkeep => ?_
  · refine wp_mono (cancelStopLossChildren_ends hr w.candidates) ?_
    rintro x w' ⟨a, hx, rfl⟩
    refine ⟨a, hx, rfl, rfl, fun other => ?_⟩
    rw [if_pos hignore, dropStopLossOf_candidates]
    simp only [exitAnswer, List.map_append, coverQty_append, map_dropStopLoss_unwinds]
    rw [← hunwinds]
    rfl
  · refine ⟨(), rfl, rfl, rfl, fun other => ?_⟩
    rw [if_neg hkeep]
    simp only [exitAnswer, coverQty_append]
    rw [← hunwinds]
    rfl

theorem biasedHedgeFill_ends (hr : r.fails = none) :
    Ends r maybeHandleBiasedHedgePairFill
      (Answers fun biased w' => biased = r.usesBiasedHedge ∧ (biased = false → w' = w) ∧
        (biased = true → w'.held = w.held ∧ w'.sells = w.sells ∧
          bareSession w'.session = bareSession
            (if 0 < biasedHedgeNotional w.session.primary ∧
                0 < biasedHedgeNotional w.session.counter then
              { w.session with status := .locked } else w.session))) w := by
  refine ends_call hr ?_
  cases hbiased : r.usesBiasedHedge with
  | false =>
    refine wp_ite (fun h => ?_) fun _ =>
      ⟨false, rfl, rfl, fun _ => rfl, fun htrue => absurd htrue Bool.false_ne_true⟩
    rw [exitAnswer, hbiased] at h
    cases h
  | true =>
    refine wp_ite (fun _ => ends_call hr ?_) fun h => absurd hbiased h
    refine wp_bind_answers (R := fun _ w' => w'.held = w.held ∧ w'.sells = w.sells ∧
      bareSession w'.session = bareSession
        (if 0 < biasedHedgeNotional w.session.primary ∧
            0 < biasedHedgeNotional w.session.counter then
          { w.session with status := .locked } else w.session)) ?_ ?_
    · by_cases hboth : 0 < biasedHedgeNotional w.session.primary ∧
          0 < biasedHedgeNotional w.session.counter
      · rw [if_pos hboth]
        refine ends_when (fun _ => ends_run hr ⟨(), rfl, rfl, rfl, ?_⟩) (absurd hboth)
        simp [exitAnswer, bareSession, TradeBuilderPairSession.updateState]
      · rw [if_neg hboth]
        exact ends_when (fun h => absurd h hboth) fun _ => ⟨(), rfl, rfl, rfl, rfl⟩
    · rintro _ w' hw'
      exact ⟨true, rfl, rfl, fun hfalse => absurd hfalse.symm Bool.false_ne_true, fun _ => hw'⟩

theorem buyFill_ends (hr : r.fails = none) {booked : PairExits} (leg : Leg) (fill : BuyFill)
    (hsession : booked.session = w.session) (hsells : booked.sells = w.sells)
    (hcandidate : ∀ other, isPairCandidate (booked.order other) = isPairCandidate (w.order other))
    (hoffered : ∀ keep other, booked.offeredQty keep other =
      (positionBooked w leg fill r).offeredQty keep other) :
    Ends r (maybeHandleTradeBuilderPairLockBuyFill (w.pairOrder leg) fill)
      (Answers fun _ w' => w'.held = booked.held ∧
        bareSession w'.session = bareSession (filledSession w leg fill r) ∧
        ∀ other, coverQty other w'.sells = coverQty other
            (if (matchedQty w leg fill r).isSome &&
                (filledSession w leg fill r).ignoreStopLossAfterLocked then
              w.sells.map (dropStopLoss w) else w.sells) +
          (matchedQty w leg fill r).elim 0 fun qty =>
            (positionBooked w leg fill r).offeredQty (max qty 0) other) booked := by
  refine wp_ite (fun hother => ?_) fun hcand => ?_
  · rw [isNone_or_iff_isPairCandidate] at hother
    have hrow : isPairCandidate (w.order leg) = false := Bool.eq_false_of_not_eq_true hother
    have hmatched : matchedQty w leg fill r = none := by simp [matchedQty, hrow]
    have hfilled : filledSession w leg fill r = w.session := by
      simp [filledSession, locksAsHedge, recordedSession, hmatched, hrow]
    refine ⟨(), rfl, rfl, ?_, fun other => ?_⟩
    · rw [hfilled, hsession]
    · simp [hmatched, hsells]
  rw [isNone_or_iff_isPairCandidate, not_not] at hcand
  have hrow : isPairCandidate (w.order leg) = true := hcand
  have hrecorded : recordedSession w leg fill = booked.session.recordFill
      ((w.pairOrder leg).row.pairLegRole.getD .leadCandidate) (w.pairOrder leg).row.id
      fill.toLegFill fill.filledAt := by
    rw [recordedSession, if_pos hrow, hsession]
    rfl
  refine ends_call hr (ends_call hr (wp_bind_answers (biasedHedgeFill_ends hr) ?_))
  rintro biased w' ⟨hbiased, hother, hhedge⟩
  cases biased with
  | true =>
    obtain ⟨hheld, hkept, hlocked⟩ := hhedge rfl
    have hmatched : matchedQty w leg fill r = none := by simp [matchedQty, ← hbiased]
    refine ⟨(), rfl, hheld, ?_, fun other => ?_⟩
    · rw [hlocked, filledSession, hmatched]
      simp only [exitAnswer, locksAsHedge, hrecorded, hrow, ← hbiased, Bool.true_and,
        Bool.and_eq_true, decide_eq_true_eq]
      rfl
    · rw [hkept, hmatched]
      simp [exitAnswer, hsells]
  | false =>
    rw [hother rfl]
    have hhedged : locksAsHedge w leg fill r = false := by simp [locksAsHedge, ← hbiased]
    -- Without a common quantity the session stays as the fill has left it.
    have hkeeps (hmatched : matchedQty w leg fill r = none) {recorded : PairExits}
        (hheld : recorded.held = booked.held) (hkept : recorded.sells = w.sells)
        (hsame : recorded.session = recordedSession w leg fill) :
        recorded.held = booked.held ∧
          bareSession recorded.session = bareSession (filledSession w leg fill r) ∧
          ∀ other, coverQty other recorded.sells = coverQty other
              (if (matchedQty w leg fill r).isSome &&
                  (filledSession w leg fill r).ignoreStopLossAfterLocked then
                w.sells.map (dropStopLoss w) else w.sells) +
            (matchedQty w leg fill r).elim 0 fun qty =>
              (positionBooked w leg fill r).offeredQty (max qty 0) other := by
      refine ⟨hheld, ?_, fun other => ?_⟩
      · simp [filledSession, hhedged, hmatched, hsame]
      · simp [hmatched, hkept]
    refine wp_ite (fun htrue => absurd htrue Bool.false_ne_true) fun _ =>
      wp_ite (fun hstatus => ?_) fun hworking => ?_
    · have hstopped : (recordedSession w leg fill).status ≠ .working := hrecorded ▸ hstatus
      refine ⟨(), rfl, hkeeps ?_ rfl hsells hrecorded.symm⟩
      simp [matchedQty, hstopped]
    have hstatus : (recordedSession w leg fill).status = .working := by
      rw [hrecorded]
      exact not_not.mp hworking
    have hmatched : matchedQty w leg fill r =
        tradeBuilderPairLockCommonQty (recordedSession w leg fill) := by
      simp [matchedQty, hrow, ← hbiased, hstatus]
    simp only [exitAnswer]
    rw [← hrecorded]
    cases hcommon : tradeBuilderPairLockCommonQty (recordedSession w leg fill) with
    | none => exact ⟨(), rfl, hkeeps (hmatched.trans hcommon) rfl hsells rfl⟩
    | some commonQty =>
      refine wp_mono (lockPairSession_ends hr (recordedSession w leg fill) commonQty) ?_
      rintro x w' ⟨a, hx, hheld, hsame, hcover⟩
      refine ⟨a, hx, hheld, ?_, fun other => ?_⟩
      · rw [hsame, filledSession, hhedged, hmatched, hcommon]
        rfl
      · rw [hcover other]
        have hignore : (filledSession w leg fill r).ignoreStopLossAfterLocked =
            (recordedSession w leg fill).ignoreStopLossAfterLocked := by
          rw [filledSession, hhedged, hmatched, hcommon]
          rfl
        have hdrop : dropStopLoss { booked with session := recordedSession w leg fill } =
            dropStopLoss w := by
          funext s
          simp [dropStopLoss, hcandidate]
        rw [hmatched, hcommon, hignore, hdrop]
        simp only [Option.isSome_some, Bool.true_and, hsells, Option.elim_some]
        rw [← hoffered]
        rfl

theorem stopLossSurfaceActive_ends (hr : r.fails = none) {o : PairOrder}
    {session : TradeBuilderPairSession} (hsession : bareSession w.session = bareSession session) :
    Ends r (stopLossSurfaceActive o)
      (Answers fun active w' => w' = w ∧ active =
        (!(tradeBuilderOrderUsesPairLock o.row && tradeBuilderPairLockIsCandidateOrder o.row &&
          o.row.side == .buy) || stopLossSurfaceActiveFromSession session o.row.id)) w := by
  have hsurface : stopLossSurfaceActiveFromSession w.session o.row.id =
      stopLossSurfaceActiveFromSession session o.row.id := by
    have hbare := congrArg (stopLossSurfaceActiveFromSession · o.row.id) hsession
    exact hbare
  by_cases hfree : ¬ tradeBuilderOrderUsesPairLock o.row ∨
      ¬ tradeBuilderPairLockIsCandidateOrder o.row ∨ o.row.side ≠ .buy
  · refine wp_ite (fun _ => ⟨true, rfl, rfl, ?_⟩) fun h => absurd hfree h
    have hnone : (tradeBuilderOrderUsesPairLock o.row &&
        tradeBuilderPairLockIsCandidateOrder o.row && o.row.side == .buy) = false := by
      grind
    rw [hnone]
    rfl
  · refine wp_ite (fun h => absurd h hfree) fun _ => ends_call hr ⟨_, rfl, rfl, ?_⟩
    have hall : (tradeBuilderOrderUsesPairLock o.row &&
        tradeBuilderPairLockIsCandidateOrder o.row && o.row.side == .buy) = true := by
      grind
    rw [hall, Bool.not_true, Bool.false_or]
    exact hsurface

theorem bookedOrder_candidate (leg : Leg) (qty : ℚ) (other : Leg) :
    isPairCandidate (((w.modifyOrder leg OrderUpdate.incrementTriggerCount.apply).modifyOrder leg
      (OrderUpdate.setFilledQty qty).apply).order other) = isPairCandidate (w.order other) := by
  by_cases hleg : other = leg
  · subst hleg
    simp only [PairExits.modifyOrder, Function.update_self]
    rw [isPairCandidate_apply, isPairCandidate_apply]
  · simp [PairExits.modifyOrder, hleg]

theorem finalizeLegFill_ends (hr : r.fails = none) (leg : Leg) (fill : BuyFill)
    (h : if hasExitSettings (w.order leg) r.liveGapConfigured ∧
        roundTradeBuilderShareQty fill.canonicalEntryQty ≤ 0 then
      w.session.status ≠ .working → Covered w.lockedQty (gainedHeld w leg r) w.sells
    else FillCovers w leg fill r) :
    Ends r (finalizeLegFill (w.pairOrder leg) fill) (fun _ w' => NoNakedLeg w')
      { w with held := gainedHeld w leg r } := by
  by_cases hunbooked : hasExitSettings (w.order leg) r.liveGapConfigured ∧
      roundTradeBuilderShareQty fill.canonicalEntryQty ≤ 0
  · rw [if_pos hunbooked] at h
    exact ends_call hr (wp_ite (fun _ => h) fun hbooked => absurd hunbooked hbooked)
  rw [if_neg hunbooked] at h
  refine ends_call hr (wp_ite (fun h => absurd h hunbooked) fun _ => ?_)
  refine ends_call hr (ends_call hr (ends_call hr ?_))
  refine wp_bind_answers (buyFill_ends (w := w) hr leg fill rfl rfl ?_ ?_) ?_
  · exact bookedOrder_candidate leg _
  · intro keep other
    refine offeredQty_congr (bookedOrder_candidate leg _ other) ?_
    by_cases hleg : other = leg
    · subst hleg
      simp only [exitAnswer, positionBooked, PairExits.modifyOrder, PairExits.pairOrder,
        Function.update_self, Option.getD_some]
    · simp [exitAnswer, positionBooked, PairExits.modifyOrder, PairExits.pairOrder, hleg]
  rintro _ w₁ ⟨hheld, hsession, hcover⟩
  refine wp_bind_answers (stopLossSurfaceActive_ends hr hsession) ?_
  rintro _ _ ⟨rfl, rfl⟩
  refine ends_call hr (ends_call hr ?_)
  refine wp_mono (createExitChildren_ends hr leg _) ?_
  rintro x w' ⟨-, -, hsession', hheld', hcover'⟩
  have hbare : bareSession w'.session = bareSession (filledSession w leg fill r) :=
    (congrArg bareSession hsession').trans hsession
  have hstatus : w'.session.status = (filledSession w leg fill r).status := by
    have hfield := congrArg TradeBuilderPairSession.status hbare
    exact hfield
  have hlocked : w'.session.lockedQty = (filledSession w leg fill r).lockedQty := by
    have hfield := congrArg TradeBuilderPairSession.lockedQty hbare
    exact hfield
  intro hstopped other
  have hall := h (hstatus ▸ hstopped) other
  have hbooked := hcover other
  have hchildren := hcover' other
  simp only [exitAnswer, PairExits.modifyOrder] at hheld hheld' hchildren
  rw [hlocked, hchildren, hbooked, hheld', hheld]
  rw [← add_assoc, ← add_assoc]
  exact hall

theorem applyCounterDecision_ends (hr : r.fails = none) (hw : NoNakedLeg w) {leg : Leg}
    (pass : LegPass) (hprocessable : isTradeBuilderOrderProcessableStatus pass.order.status)
    (decision : CounterDecision)
    (h : match decision with
      | .ends .unwind => UnwindCovers w
      | .ends (.cancel reason) => (closedStatus reason).isSome → Covered w.lockedQty w.held w.sells
      | .ends (.proceed _) | .proceeds _ => ExchangeCovers w leg r
      | _ => True) :
    Ends r ((legStatements leg).applyCounterDecision pass decision)
      (Answers fun ended w' => (ended = true → NoNakedLeg w') ∧
        (ended = false → w' = w ∧ ExchangeCovers w leg r)) w := by
  have hupdate (u : OrderUpdate) : Ends r (do
      run (.updateOrder leg u)
      pure true) (Answers fun ended w' => (ended = true → NoNakedLeg w') ∧
        (ended = false → w' = w ∧ ExchangeCovers w leg r)) w :=
    ends_call hr ⟨true, rfl, fun _ => hw, nofun⟩
  cases decision with
  | proceeds cap => exact ⟨false, rfl, nofun, fun _ => ⟨rfl, h⟩⟩
  | rebases rebalance eligibleBeforeAt => exact hupdate _
  | ends action =>
    cases action with
    | sessionClosed => exact wp_ite (fun _ => hupdate _) fun hnot => absurd hprocessable hnot
    | cancel reason =>
      -- What both closings leave: a session that is closed had nothing beyond its locked quantity.
      let Same (w' : PairExits) : Prop := w'.held = w.held ∧ w'.sells = w.sells ∧
        w'.session.lockedQty = w.session.lockedQty ∧
          (closedStatus reason = none → w'.session.status = w.session.status)
      have hsame (w' : PairExits) (hw' : Same w') : NoNakedLeg w' := by
        obtain ⟨hheld, hsells, hlocked, hstatus⟩ := hw'
        intro hstopped
        rw [hheld, hsells, hlocked]
        cases hclosed : closedStatus reason with
        | none => exact hw (hstatus hclosed ▸ hstopped)
        | some status => exact h (by simp [hclosed])
      have hclose (status : PairStatus) {w' : PairExits} (hw' : Same w') :
          Ends r ((legStatements leg).closePairSession reason status) (Answers fun _ => Same) w' := by
        refine wp_ite (fun hstatus => ends_run hr ⟨(), rfl, hw'.1, hw'.2.1, hw'.2.2.1, ?_⟩)
          fun _ => ⟨(), rfl, hw'⟩
        intro hnone
        rw [hnone] at hstatus
        cases hstatus
      refine wp_bind_answers (hclose .expired ⟨rfl, rfl, rfl, fun _ => rfl⟩) fun _ w₁ hw₁ => ?_
      refine ends_call hr (wp_bind_answers (hclose .error hw₁) fun _ w₂ hw₂ => ?_)
      exact ⟨true, rfl, fun _ => hsame w₂ hw₂, nofun⟩
    | hold => exact wp_ite (fun _ => ⟨true, rfl, fun _ => hw, nofun⟩) fun _ => hupdate _
    | unwind =>
      refine wp_bind_answers (ends_call hr (unwindAll_ends hr h _ _)) ?_
      intro _ w' hw'
      exact ⟨true, rfl, fun _ => hw', nofun⟩
    | rebase => exact hupdate _
    | wait => exact ⟨true, rfl, fun _ => hw, nofun⟩
    | proceed cap => exact ⟨false, rfl, nofun, fun _ => ⟨rfl, h⟩⟩

theorem processLeg_ends (hr : r.fails = none) (hw : NoNakedLeg w) {leg : Leg}
    (h : PassCovers w leg r) : Ends r (processLeg leg) (fun _ w' => NoNakedLeg w') w := by
  refine ends_call hr (wp_ite (fun _ => hw) fun hprocessable => ?_)
  rw [not_not] at hprocessable
  have hdecided := h hprocessable
  have hruntime : Ends r (pairLockRuntime (w.pairOrder leg))
      (Answers fun ended w' => (ended = true → NoNakedLeg w') ∧
        (ended = false → w' = w ∧ ExchangeCovers w leg r)) w := by
    by_cases hfree : (w.order leg).pairSessionId.isNone ∨
        ¬ tradeBuilderPairLockIsCandidateOrder (w.order leg) ∨ (w.order leg).side ≠ .buy
    · rw [legDecision, if_pos hfree] at hdecided
      exact wp_ite (fun _ => ⟨false, rfl, nofun, fun _ => ⟨rfl, hdecided⟩⟩) (absurd hfree)
    · rw [legDecision, if_neg hfree] at hdecided
      refine wp_ite (fun hpos => absurd hpos hfree) fun _ => ?_
      refine ends_call hr (ends_call hr (ends_call hr ?_))
      exact applyCounterDecision_ends hr hw _ hprocessable _ hdecided
  refine wp_bind_answers hruntime ?_
  intro ended w' ⟨hends, hproceeds⟩
  refine wp_ite (fun hended => hends hended) fun hnot => ?_
  obtain ⟨rfl, hexchange⟩ := hproceeds (Bool.eq_false_of_not_eq_true hnot)
  refine ends_call hr ?_
  rw [ExchangeCovers] at hexchange
  cases hfill : r.fill with
  | none =>
    rw [hfill] at hexchange
    simp only [exitAnswer, hfill]
    exact hexchange
  | some fill =>
    rw [hfill] at hexchange
    simp only [exitAnswer, hfill]
    exact finalizeLegFill_ends hr leg fill hexchange

/-! The fill of a sell -/

theorem requestOcoCancel_ends (hr : r.fails = none) (id : ℕ) (sell : SellOrder) :
    Ends r (requestOcoCancelForSiblings id sell)
      (Answers fun _ w' => w' = { w with sells := cancelOcoSiblings id sell w.sells }) w := by
  refine ends_call hr ?_
  change Ends r (List.forM (List.filter _ (List.filter _ (Rows.listed w.sells))) _) _ w
  rw [List.filter_filter]
  exact listed_forM _ fun c w => setSellStatus_ends hr c.1 .canceledRequested

theorem syncExitChild_ends (hr : r.fails = none) (parentQty : ℚ) (child : ℕ × SellOrder)
    (w : PairExits) :
    Ends r (syncExitChild parentQty child)
      (Answers fun _ w' => w' = w.modifySell child.1 (syncedSell r parentQty child)) w := by
  have hwrites {g : SellOrder → SellOrder} (h : ∀ s, syncedSell r parentQty child s = g s) :
      w.modifySell child.1 g = w.modifySell child.1 (syncedSell r parentQty child) :=
    congrArg (w.modifySell child.1) (funext fun s => (h s).symm)
  have hself (h : ∀ s, syncedSell r parentQty child s = s) :
      w = w.modifySell child.1 (syncedSell r parentQty child) := by
    rw [← hwrites (g := id) h, PairExits.modifySell, List.modify_id]
  refine wp_ite (fun hother => ⟨(), rfl, hself fun s => ?_⟩) fun hchild => ?_
  · simp only [syncedSell, if_pos hother]
  refine wp_ite (fun hdepleted => ends_run hr ⟨(), rfl, hwrites fun s => ?_⟩) fun hopen => ?_
  · simp only [syncedSell, if_neg hchild, if_pos hdepleted]
  refine wp_ite (fun hwhole => ?_) fun hladder => ?_
  · refine ends_when (fun hresize => ends_run hr ⟨(), rfl, hwrites fun s => ?_⟩)
      fun hkeep => ⟨(), rfl, hself fun s => ?_⟩
    · simp only [syncedSell, if_neg hchild, if_neg hopen, if_pos hwhole, if_pos hresize]
    · simp only [syncedSell, if_neg hchild, if_neg hopen, if_pos hwhole, if_neg hkeep]
  · have hladderSell : ∀ s, syncedSell r parentQty child s =
        match r.ladderTarget child.1 with
        | .absent => s
        | .skipped => { s with status := child.2.cancelStatus }
        | .target qty => { s with qty := s.filled + qty } := by
      intro s
      simp only [syncedSell, if_neg hchild, if_neg hopen, if_neg hladder]
    refine ends_call hr ?_
    cases htarget : r.ladderTarget child.1 with
    | absent =>
      simp only [exitAnswer, htarget]
      exact ⟨(), rfl, hself fun s => by rw [hladderSell, htarget]⟩
    | skipped =>
      simp only [exitAnswer, htarget]
      exact ends_run hr ⟨(), rfl, hwrites fun s => by rw [hladderSell, htarget]⟩
    | target qty =>
      simp only [exitAnswer, htarget]
      exact ends_run hr ⟨(), rfl, hwrites fun s => by rw [hladderSell, htarget]⟩

theorem syncParentExitChildren_ends (hr : r.fails = none) (leg : Leg) :
    let parentQty := ((w.position leg).map roundTradeBuilderShareQty).getD 0
    Ends r (tradeBuilderSyncParentExitChildren leg)
      (Answers fun _ w' => w' = { w with sells := syncedSells r leg parentQty w.sells }) w := by
  intro parentQty
  refine ends_call hr (ends_call hr ?_)
  change Ends r (List.forM (List.filter _ (Rows.listed w.sells)) _) _ w
  refine wp_mono (listed_forM _ fun c w => syncExitChild_ends hr _ c w) ?_
  rintro x w' ⟨a, hx, rfl⟩
  refine ⟨a, hx, ?_⟩
  simp only [decide_eq_true_eq, syncedSells, exitAnswer, parentQty]

theorem completeSession_ends (hr : r.fails = none) (session : TradeBuilderPairSession)
    (hsession : w.session = session) (lastError : Option String) :
    Ends r (run (.updatePairSessionState .completed session.lockedQty
        session.projectedNetProfitUsdc lastError))
      (Answers fun _ w' => w'.held = w.held ∧ w'.sells = w.sells ∧
        w'.session.lockedQty = session.lockedQty ∧ w'.session.status = .completed) w := by
  subst hsession
  exact ends_run hr ⟨(), rfl, rfl, rfl, Option.or_self, rfl⟩

theorem lockedLegStop_ends (hr : r.fails = none) (parent : PairOrder) :
    Ends r (finalizeAfterLockedLegStopLossFill parent)
      (Answers fun _ w' =>
        let stops := isPairCandidate parent.row ∧ w.session.status = .locked ∧
          ¬ w.session.ignoreStopLossAfterLocked
        (stops → w'.held = w.held ∧ w'.sells = w.sells.map dropUnwind ∧
          w'.session.lockedQty = w.session.lockedQty ∧ w'.session.status = .completed) ∧
        (¬ stops → w' = w)) w := by
  refine wp_ite (fun hother => ⟨(), rfl, fun h => ?_, fun _ => rfl⟩) fun hcand => ?_
  · rw [isNone_or_iff_isPairCandidate] at hother
    exact absurd h.1 hother
  rw [isNone_or_iff_isPairCandidate, not_not] at hcand
  refine ends_call hr (wp_ite (fun hreturn => ⟨(), rfl, fun h => ?_, fun _ => rfl⟩) fun hstop => ?_)
  · exfalso
    rcases hreturn with hstatus | hignore
    · exact hstatus h.2.1
    · exact h.2.2 hignore
  rw [not_or, not_not] at hstop
  refine ends_call hr (ends_call hr ?_)
  have hunwinds := listed_forM (r := r) (w := w)
    (fun unwind => !tradeBuilderIsTerminalStatus unwind.2.status &&
      decide (unwind.2.kind = .unwind)) fun c w => setSellStatus_ends hr c.1 c.2.cancelStatus
  rw [← List.filter_filter] at hunwinds
  refine wp_bind_answers hunwinds ?_
  rintro _ _ rfl
  have hdetach := rows_forM (r := r) (f := fun o => run (.detachOrder o.leg))
    fun o w => ends_run hr ⟨(), rfl, _, rfl⟩
  refine wp_bind_answers (hdetach _ _) ?_
  rintro _ _ ⟨order, rfl⟩
  have hdrop : (w.sells.mapIdx fun i s => if (!tradeBuilderIsTerminalStatus s.status &&
      decide (s.kind = .unwind)) = true then { s with status := s.cancelStatus } else s) =
        w.sells.map dropUnwind := by
    rw [← Rows.mapIdx_of_rows]
    simp [dropUnwind, and_comm]
  refine wp_mono (completeSession_ends hr w.session (by rfl) _) ?_
  rintro x w' ⟨a, hx, hheld, hsells, hlocked, hstatus⟩
  exact ⟨a, hx, fun _ => ⟨hheld, hsells.trans hdrop, hlocked, hstatus⟩,
    fun h => absurd ⟨hcand, hstop⟩ h⟩

theorem leadStop_ends (hr : r.fails = none) (parent : PairOrder) :
    Ends r (finalizeAfterLeadStopLossFill parent)
      (Answers fun _ w' =>
        let stops := isPairCandidate parent.row ∧ w.session.status = .working ∧
          stopLossSurfaceActiveFromSession w.session parent.row.id
        (stops → w'.held = w.held ∧ w'.sells = w.sells.map (dropStopLoss w) ∧
          w'.session.lockedQty = w.session.lockedQty ∧ w'.session.status = .completed) ∧
        (¬ stops → w' = w)) w := by
  refine wp_ite (fun hother => ⟨(), rfl, fun h => ?_, fun _ => rfl⟩) fun hcand => ?_
  · rw [isNone_or_iff_isPairCandidate] at hother
    exact absurd h.1 hother
  rw [isNone_or_iff_isPairCandidate, not_not] at hcand
  refine ends_call hr (wp_ite (fun hreturn => ⟨(), rfl, fun h => ?_, fun _ => rfl⟩) fun hstop => ?_)
  · exfalso
    rcases hreturn with hstatus | hidle
    · exact hstatus h.2.1
    · exact hidle h.2.2
  rw [not_or, not_not, not_not] at hstop
  refine ends_call hr (wp_bind_answers (cancelStopLossChildren_ends hr w.candidates) ?_)
  rintro _ _ rfl
  have hcancel := rows_forM (r := r) (f := fun o => run (.updateOrder o.leg
    (.setStatus o.cancelStatus (some { reason := "lead_leg_stop_loss" }))))
      fun o w => ends_run hr ⟨(), rfl, _, rfl⟩
  refine wp_bind_answers (hcancel _ _) ?_
  rintro _ _ ⟨order, rfl⟩
  rw [dropStopLossOf_candidates]
  refine wp_mono (completeSession_ends hr w.session (by rfl) _) ?_
  rintro x w' ⟨a, hx, hheld, hsells, hlocked, hstatus⟩
  exact ⟨a, hx, fun _ => ⟨hheld, hsells, hlocked, hstatus⟩, fun h => absurd ⟨hcand, hstop⟩ h⟩

theorem hasLivePosition_ends (hr : r.fails = none) (orders : List PairOrder) :
    Ends r (hasLivePosition orders) (Answers fun _ w' => w' = w) w := by
  induction orders with
  | nil => exact ⟨false, rfl, rfl⟩
  | cons o rest ih =>
    exact ends_call hr (wp_ite (fun _ => ⟨true, rfl, rfl⟩) fun _ => ih)

theorem unwindFill_ends (hr : r.fails = none) :
    Ends r finalizeAfterUnwindFill
      (Answers fun _ w' => w'.held = w.held ∧ w'.sells = w.sells ∧
        w'.session.lockedQty = w.session.lockedQty ∧
          (w'.session.status ≠ .working → w.session.status ≠ .working)) w := by
  refine ends_call hr (wp_ite (fun _ => ⟨(), rfl, rfl, rfl, rfl, id⟩) fun hunwinding => ?_)
  rw [not_not] at hunwinding
  have hstopped : w.session.status ≠ .working := by
    intro h
    exact absurd (h.symm.trans hunwinding) (by decide)
  refine ends_call hr (wp_bind_answers (hasLivePosition_ends hr _) ?_)
  intro live w₁ hw₁
  rw [hw₁]
  refine wp_ite (fun _ => ⟨(), rfl, rfl, rfl, rfl, id⟩) fun _ => ?_
  refine wp_mono (completeSession_ends hr w.session (by rfl) _) ?_
  rintro x w' ⟨a, hx, hheld, hsells, hlocked, hstatus⟩
  exact ⟨a, hx, hheld, hsells, hlocked, fun _ => hstopped⟩

theorem fillSell_rest (w : PairExits) (id : ℕ) (sold : ℚ) :
    (w.fillSell id sold).session = w.session ∧ (w.fillSell id sold).order = w.order ∧
      (w.fillSell id sold).position = w.position := by
  unfold PairExits.fillSell
  split <;> exact ⟨rfl, rfl, rfl⟩

theorem applyFill_ends (hr : r.fails = none) (sell : SellOrder) (bookedQty : ℚ) :
    Ends r (ExitJob.when sell.kind.isExitChild
        (match normalizeTradeBuilderTerminalFillQtyCandidate (some bookedQty) with
          | some filledQty => run (.applyPositionFill sell.leg filledQty)
          | none => pure ()))
      (Answers fun _ w' => ∃ position, w' = { w with position } ∧
        ((position sell.leg).map roundTradeBuilderShareQty).getD 0 =
          openParentQty w sell bookedQty) w := by
  refine ends_when (fun hchild => ?_) fun hother => ⟨(), rfl, w.position, rfl, ?_⟩
  · cases hqty : normalizeTradeBuilderTerminalFillQtyCandidate (some bookedQty) with
    | none =>
      refine ⟨(), rfl, w.position, rfl, ?_⟩
      simp [openParentQty, hchild, hqty]
    | some filledQty =>
      refine ends_run hr ⟨(), rfl, _, rfl, ?_⟩
      simp [openParentQty, hchild, hqty, Function.comp_def]
  · simp [openParentQty, hother]

theorem stopLossHandlers_ends (hr : r.fails = none) {found : PairExits} (sell : SellOrder)
    (hsession : found.session = w.session) (horder : found.order = w.order) {parent : PairOrder}
    (hparent : parent.row = w.order sell.leg) :
    Ends r (do
        ExitJob.when sell.kind.isStopLoss (logged (finalizeAfterLockedLegStopLossFill parent))
        ExitJob.when sell.kind.isStopLoss (logged (finalizeAfterLeadStopLossFill parent)))
      (Answers fun _ w' => w'.held = found.held ∧ w'.sells = afterStopLoss w sell found.sells ∧
        w'.session.lockedQty = w.session.lockedQty ∧
        (w'.session.status ≠ .working →
          w.session.status ≠ .working ∨ stopsOutLead w sell = true)) found := by
  cases hkind : sell.kind.isStopLoss with
  | false =>
    have hlocked : stopsOutLockedLeg w sell = false := by simp [stopsOutLockedLeg, hkind]
    have hlead : stopsOutLead w sell = false := by simp [stopsOutLead, hkind]
    refine wp_bind_answers (R := fun _ w' => w' = found) ?_ ?_
    · exact ends_when nofun fun _ => ⟨(), rfl, rfl⟩
    · rintro _ _ rfl
      refine ends_when nofun fun _ => ⟨(), rfl, rfl, ?_, ?_, ?_⟩
      · simp [afterStopLoss, hlocked, hlead]
      · rw [hsession]
      · rw [hsession]
        exact .inl
  | true =>
    have hlockedIff : stopsOutLockedLeg w sell = true ↔ isPairCandidate parent.row = true ∧
        found.session.status = .locked ∧ ¬ found.session.ignoreStopLossAfterLocked := by
      simp [stopsOutLockedLeg, hkind, hparent, hsession, and_assoc]
    refine wp_bind_answers (ends_when (fun _ => ends_logged (lockedLegStop_ends hr parent))
      fun h => absurd rfl h) ?_
    rintro _ w₁ ⟨hstops, hkeeps⟩
    refine wp_mono (ends_when (fun _ => ends_logged (leadStop_ends hr parent))
      fun h => absurd rfl h) ?_
    rintro x w' ⟨a, hx, hends, hpasses⟩
    refine ⟨a, hx, ?_⟩
    cases hlocked : stopsOutLockedLeg w sell with
    | true =>
      obtain ⟨hheld, hsells, hqty, hstatus⟩ := hstops (hlockedIff.mp hlocked)
      have hlead : stopsOutLead w sell = false := by
        have hat := (hlockedIff.mp hlocked).2.1
        rw [hsession] at hat
        simp [stopsOutLead, hat]
      obtain rfl := hpasses (by simp [hstatus])
      refine ⟨hheld, ?_, by rw [hqty, hsession], fun _ => .inl ?_⟩
      · simp [afterStopLoss, hlocked, hlead, hsells]
      · rw [← hsession, (hlockedIff.mp hlocked).2.1]
        decide
    | false =>
      obtain rfl := hkeeps fun h => by simp [hlockedIff.mpr h] at hlocked
      have hleadIff : stopsOutLead w sell = true ↔ isPairCandidate parent.row = true ∧
          w₁.session.status = .working ∧
            stopLossSurfaceActiveFromSession w₁.session parent.row.id := by
        simp [stopsOutLead, hkind, hparent, hsession, and_assoc]
      have hdrop : dropStopLoss w₁ = dropStopLoss w := by
        funext s
        simp [dropStopLoss, horder]
      cases hlead : stopsOutLead w sell with
      | true =>
        obtain ⟨hheld, hsells, hqty, hstatus⟩ := hends (hleadIff.mp hlead)
        refine ⟨hheld, ?_, by rw [hqty, hsession], fun _ => .inr rfl⟩
        simp [afterStopLoss, hlocked, hlead, hsells, hdrop]
      | false =>
        obtain rfl := hpasses fun h => by simp [hleadIff.mpr h] at hlead
        refine ⟨rfl, ?_, by rw [hsession], fun h => .inl (hsession ▸ h)⟩
        simp [afterStopLoss, hlocked, hlead]

theorem finalizeSellFill_ends (hr : r.fails = none) (id : ℕ) (sell : SellOrder) (bookedQty : ℚ)
    (h : SellFillCovers w id sell bookedQty r) :
    Ends r (finalizeSellFill id sell bookedQty) (fun _ w' => NoNakedLeg w')
      (w.fillSell id r.sold) := by
  obtain ⟨hsession, horder, hposition⟩ := fillSell_rest w id r.sold
  let wf := w.fillSell id r.sold
  let afterOco := if sell.kind.cancelsSiblings then
    cancelOcoSiblings id sell (completedSells w id r) else completedSells w id r
  refine ends_call hr ?_
  refine wp_bind_answers (R := fun _ w' => w' = { wf with sells := afterOco }) ?_ ?_
  · refine ends_when (fun hcancels => ?_) fun hkeeps => ⟨(), rfl, ?_⟩
    · simp only [afterOco, if_pos hcancels]
      exact requestOcoCancel_ends hr id sell
    · simp only [afterOco, if_neg hkeeps]
      rfl
  rintro _ _ rfl
  refine ends_call hr (wp_bind_answers (applyFill_ends hr sell bookedQty) ?_)
  rintro _ _ ⟨position, rfl, hqty⟩
  have hopen : openParentQty { wf with sells := afterOco } sell bookedQty =
      openParentQty w sell bookedQty := by
    simp [openParentQty, wf, hposition]
  let synced := if tradeBuilderOrderHasExitLadders (w.order sell.leg) ∧
      ¬ sell.kind.cancelsSiblings then
    syncedSells r sell.leg (openParentQty w sell bookedQty) afterOco else afterOco
  refine wp_bind_answers (R := fun _ w' => w' = { wf with position, sells := synced }) ?_ ?_
  · have hrow : wf.order sell.leg = w.order sell.leg := congrFun horder sell.leg
    refine ends_when (fun hladders => ?_) fun hplain => ⟨(), rfl, ?_⟩
    · have hladders' : tradeBuilderOrderHasExitLadders (w.order sell.leg) ∧
          ¬ sell.kind.cancelsSiblings := by
        rw [← hrow]
        exact hladders
      refine ends_logged (wp_mono (syncParentExitChildren_ends hr sell.leg) ?_)
      rintro x w' ⟨a, hx, rfl⟩
      refine ⟨a, hx, ?_⟩
      simp only [synced, if_pos hladders', exitAnswer, hqty.trans hopen]
    · have hplain' : ¬ (tradeBuilderOrderHasExitLadders (w.order sell.leg) ∧
          ¬ sell.kind.cancelsSiblings) := by
        rw [← hrow]
        exact hplain
      simp only [synced, if_neg hplain']
      rfl
  rintro _ _ rfl
  have hleft : leftForSale w id sell bookedQty r = afterStopLoss w sell synced := rfl
  have hfound : ({ wf with position, sells := synced } : PairExits).session = w.session := hsession
  have hparent : (wf.pairOrder sell.leg).row = w.order sell.leg := congrFun horder sell.leg
  have hrest := wp_bind_answers
    (f := fun _ => ExitJob.when (sell.kind = .unwind) finalizeAfterUnwindFill)
    (Q := fun _ w' => NoNakedLeg w')
    (stopLossHandlers_ends hr sell hfound horder hparent) ?_
  · rw [bind_assoc] at hrest
    exact hrest
  rintro _ w₁ ⟨hheld, hsells, hlocked, hstatus⟩
  have hcovered (w₂ : PairExits) (hheld₂ : w₂.held = w₁.held) (hsells₂ : w₂.sells = w₁.sells)
      (hlocked₂ : w₂.session.lockedQty = w₁.session.lockedQty)
      (hstatus₂ : w₂.session.status ≠ .working → w₁.session.status ≠ .working) :
      NoNakedLeg w₂ := by
    intro hstopped
    have hall := h (hstatus (hstatus₂ hstopped))
    rw [hlocked₂, hlocked, hheld₂, hheld, hsells₂, hsells]
    exact hall
  refine ends_when (fun _ => wp_mono (unwindFill_ends hr) ?_) fun _ =>
    hcovered w₁ rfl rfl rfl fun hstopped => hstopped
  rintro x w₂ ⟨-, -, hheld₂, hsells₂, hlocked₂, hstatus₂⟩
  exact hcovered w₂ hheld₂ hsells₂ hlocked₂ hstatus₂

theorem remaining_filled (s : SellOrder) {sold : ℚ} (hsold : 0 ≤ sold) :
    s.remaining - sold ≤ SellOrder.remaining { s with filled := s.filled + sold } := by
  have hopen := le_max_left (s.qty - (s.filled + sold)) 0
  have hnone := le_max_right (s.qty - (s.filled + sold)) 0
  unfold SellOrder.remaining
  rcases max_choice (s.qty - s.filled) 0 with h | h <;> rw [h] <;> dsimp only <;> linarith

theorem NoNakedLeg.fillSell (hw : NoNakedLeg w) (id : ℕ) (sold : ℚ) :
    NoNakedLeg (w.fillSell id sold) := by
  obtain ⟨hsession, -, -⟩ := fillSell_rest w id sold
  intro hstopped leg
  rw [hsession] at hstopped ⊢
  have hleg := hw hstopped leg
  unfold PairExits.fillSell
  cases hs : w.sells[id]? with
  | none => exact hleg
  | some s =>
    have hsold : 0 ≤ max 0 (min sold s.remaining) := le_max_left _ _
    have hsum := Rows.sum_map_modify (SellOrder.coverQty leg)
      (fun sell => { sell with filled := sell.filled + max 0 (min sold s.remaining) }) w.sells id
    rw [hs, Option.map_some, Option.getD_some] at hsum
    have hcover : coverQty leg (w.sells.modify id
        fun sell => { sell with filled := sell.filled + max 0 (min sold s.remaining) }) =
          coverQty leg w.sells + (SellOrder.coverQty leg
            { s with filled := s.filled + max 0 (min sold s.remaining) } - s.coverQty leg) := hsum
    simp only [PairExits.modifySell, PairExits.modifyHeld]
    rw [hcover]
    by_cases hsame : s.leg = leg
    · subst hsame
      rw [Function.update_self]
      by_cases hcovers : s.covers = true
      · have hnew : SellOrder.coverQty s.leg
            { s with filled := s.filled + max 0 (min sold s.remaining) } =
              SellOrder.remaining { s with filled := s.filled + max 0 (min sold s.remaining) } :=
          if_pos ⟨rfl, hcovers⟩
        have hold : s.coverQty s.leg = s.remaining := if_pos ⟨rfl, hcovers⟩
        have hge := remaining_filled s hsold
        rw [hnew, hold]
        linarith
      · have hnew : SellOrder.coverQty s.leg
            { s with filled := s.filled + max 0 (min sold s.remaining) } = 0 :=
          if_neg fun h => hcovers h.2
        have hold : s.coverQty s.leg = 0 := if_neg fun h => hcovers h.2
        rw [hnew, hold]
        linarith
    · have hnew : SellOrder.coverQty leg
          { s with filled := s.filled + max 0 (min sold s.remaining) } = 0 :=
        if_neg fun h => hsame h.1
      have hold : s.coverQty leg = 0 := if_neg fun h => hsame h.1
      rw [hnew, hold, Function.update_of_ne (Ne.symm hsame)]
      linarith

theorem processSell_ends (hr : r.fails = none) (hw : NoNakedLeg w) {id : ℕ}
    (h : SellPassCovers w id r) : Ends r (processSell id) (fun _ w' => NoNakedLeg w') w := by
  refine ends_call hr ?_
  cases hs : w.sells[id]? with
  | none =>
    simp only [exitAnswer, hs]
    exact hw
  | some sell =>
    have hsell := h sell hs
    simp only [exitAnswer, hs]
    refine ends_call hr ?_
    cases hreport : r.sellReport with
    | pending =>
      simp only [exitAnswer, hreport]
      exact hw.fillSell id r.sold
    | moves status active =>
      rw [hreport] at hsell
      simp only [exitAnswer, hreport]
      refine ends_call hr (ends_run hr fun hstopped => ?_)
      obtain ⟨hsession, -, -⟩ := fillSell_rest w id r.sold
      have hmoved : ((w.fillSell id r.sold).sells.modify id ({ · with status })).modify id
          ({ · with active }) = (w.fillSell id r.sold).sells.modify id
            ({ · with status, active }) := List.modify_modify_eq _ _ _ _
      have hstopped' : (w.fillSell id r.sold).session.status ≠ .working := hstopped
      rw [hsession] at hstopped'
      have hall := hsell hstopped'
      rw [← hmoved, PairExits.lockedQty, ← hsession] at hall
      exact hall
    | fills bookedQty =>
      rw [hreport] at hsell
      simp only [exitAnswer, hreport]
      exact finalizeSellFill_ends hr id sell bookedQty hsell

theorem runWith_of_fails {α : Type} {reason : String} (hr : r.fails = some reason)
    (p : ExitJob α) : (p.runWith exitAct r w).2 = w := by
  induction p with
  | done a => rfl
  | fail e => rfl
  | call c k ih =>
    have hact : (exitAct c w r).2 = w := by simp [exitAct, hr]
    rw [runWith, hact]
    exact ih _

theorem nakedStep_keeps (hw : NoNakedLeg w) (e : ExitTask × ExitReply) (h : LeavesCovered w e) :
    NoNakedLeg (nakedStep w e) := by
  obtain ⟨task, r⟩ := e
  unfold nakedStep
  cases hr : r.fails with
  | some reason =>
    dsimp only
    rw [runWith_of_fails hr]
    exact hw
  | none =>
    have hcovers := h hr
    cases task with
    | processLeg leg => exact wp_runWith (processLeg_ends hr hw hcovers)
    | endCandidate leg status reason =>
      exact wp_runWith (endCandidate_ends hr hw hcovers status reason)
    | biasedHedgePairExit reason => exact wp_runWith (biasedHedgePairExit_ends hr hw hcovers reason)
    | biasedHedgeTimeExit leg baselineQty pct =>
      exact wp_runWith (biasedHedgeTimeExit_ends hr hw leg baselineQty pct)
    | processSell id => exact wp_runWith (processSell_ends hr hw hcovers)

end Events

end PolymarketBot.PairLock.Exits
