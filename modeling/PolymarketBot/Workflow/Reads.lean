import PolymarketBot.Workflow.Effects

/-! What a pass has read when it creates a buy child: the size of the child is what the sell
progress it has read frees, less what it has read as bought. -/

namespace PolymarketBot.Workflow
open Lib Prog Builder Flow Job

/-- The legs a pass has loaded, and the notional each leg's fills were last summed to. -/
structure Reads where
  legs : List TradeBuilderWorkflowLeg := []
  aggregate : LegType → ℚ := fun _ => 0

/-- A buy child gets the notional that the progress read frees, less the one read as bought. -/
def Reads.sizes (reads : Reads) (order : ChildOrder) : Prop :=
  order.status = .pending ∧ 0 ≤ order.sizeUsdc ∧
    ∃ sellLeg buyLeg, legOfType reads.legs .sell = some sellLeg ∧
      legOfType reads.legs .buy = some buyLeg ∧
      order.sizeUsdc = buyLeg.targetNotionalUsdc *
        (workflowLegProgressPct { sellLeg with filledNotionalUsdc := reads.aggregate .sell } / 100)
          - reads.aggregate .buy

/-- The passes go by what they have read; what happens outside them reads nothing. -/
def workflowProtocol : Protocol WorkflowCall WorkflowAnswer String (Option Reads) where
  next s c x :=
    match c, x with
    | .loadLegs, .ok legs => s.map fun reads => { reads with legs }
    | .aggregateLegFills leg, .ok filled =>
      s.map fun reads => { reads with aggregate := Function.update reads.aggregate leg filled.1 }
    | _, _ => s
  allows s c :=
    match s, c with
    | none, .market _ => True
    | none, _ => False
    | some _, .market _ => False
    | some reads, .createOrder .buy order => reads.sizes order
    | some _, _ => True

/-- The calls that read no legs and no fills, and create no buy child. -/
def readsNothing : WorkflowCall → Bool
  | .loadLegs | .aggregateLegFills _ | .createOrder .buy _ | .market _ => false
  | _ => true

theorem next_error (s : Option Reads) (c : WorkflowCall) (e : String) :
    workflowProtocol.next s c (.error e) = s := by
  cases c <;> rfl

theorem next_createOrder (s : Option Reads) (leg : LegType) (order : ChildOrder)
    (x : Except String ℕ) : workflowProtocol.next s (.createOrder leg order) x = s := rfl

abbrev Quiet {α : Type} (p : Job α) : Prop := Only (fun c => readsNothing c = true) p

theorem obeys_readsNothing {α : Type} {R : α → Prop} {p : Job α} (hp : Quiet p) (hr : Returns R p) (reads : Reads) :
    Obeys workflowProtocol p (fun x s => s = some reads ∧ ∀ a, x = .ok a → R a) (some reads) := by
  induction p with
  | done a => exact ⟨rfl, fun b hb => by cases hb; exact hr⟩
  | fail e => exact ⟨rfl, nofun⟩
  | call c k ih =>
    obtain ⟨hc, hk⟩ := hp
    have hnext : ∀ x, workflowProtocol.next (some reads) c x = some reads := by
      intro x
      cases c with
      | loadLegs => cases hc
      | aggregateLegFills leg => cases hc
      | _ => rfl
    have hallows : workflowProtocol.allows (some reads) c := by
      cases c with
      | createOrder leg order =>
        cases leg with
        | sell => trivial
        | buy => cases hc
      | market step => cases hc
      | _ => trivial
    refine ⟨hallows, fun x => ?_⟩
    rw [hnext]
    exact ih x (hk x) (hr x)

section Bind
variable {α β : Type} {p : Job α} {f : α → Job β} {Q : Except String β → Option Reads → Prop}
variable {reads : Reads}

theorem obeys_then {R : α → Prop} (hp : Quiet p)
    (hr : Returns R p) (hf : ∀ a, R a → Obeys workflowProtocol (f a) Q (some reads))
    (he : ∀ e, Q (.error e) (some reads)) : Obeys workflowProtocol (p >>= f) Q (some reads) := by
  refine obeys_bind (obeys_readsNothing hp hr reads) (fun a s hs => ?_) fun e s hs => ?_
  · obtain ⟨rfl, ha⟩ := hs
    exact hf a (ha a rfl)
  · rw [hs.1]
    exact he e

end Bind

theorem quiet_run {c : WorkflowCall} (hc : readsNothing c = true) : Quiet (run c) :=
  (only_perform c).mpr hc

theorem quiet_whenever {condition : Bool} {job : Job Unit} (hjob : Quiet job) :
    Quiet (whenever condition job) := by
  unfold whenever
  split
  · exact hjob
  · exact only_pure ()

theorem obeys_whenever {condition : Bool} {job : Job Unit}
    {Q : Except String Unit → Option Reads → Prop} {s : Option Reads}
    (hjob : condition = true → Obeys workflowProtocol job Q s) (hskip : Q (.ok ()) s) :
    Obeys workflowProtocol (whenever condition job) Q s := by
  unfold whenever
  split
  case isTrue h => exact hjob h
  case isFalse => exact hskip

/-! ### The pass keeps to what it has read -/

theorem createSellLegOrder_quiet (workflow : TradeBuilderWorkflow)
    (sellLeg : TradeBuilderWorkflowLeg) : Quiet (createSellLegOrder workflow sellLeg) :=
  (quiet_whenever (only_fail _)).bind fun _ => (quiet_run rfl).bind fun _ =>
    (quiet_run rfl).bind fun _ => (quiet_run rfl).bind fun _ => (quiet_run rfl).bind fun _ =>
      only_pure ()

theorem ensureSellLegOrder_quiet (workflow : TradeBuilderWorkflow)
    (sellLeg : TradeBuilderWorkflowLeg) : Quiet (ensureSellLegOrder workflow sellLeg) := by
  unfold ensureSellLegOrder
  cases sellLeg.builderOrderId with
  | none => exact createSellLegOrder_quiet workflow sellLeg
  | some builderOrderId =>
    dsimp only
    refine (quiet_run rfl).bind fun existing => ?_
    cases existing with
    | some existing => exact only_pure ()
    | none => exact (quiet_run rfl).bind fun _ => createSellLegOrder_quiet workflow sellLeg

theorem settleBuyChild_quiet (buyLeg : TradeBuilderWorkflowLeg) :
    Quiet (settleBuyChild buyLeg) := by
  unfold settleBuyChild
  cases buyLeg.builderOrderId with
  | none => exact only_pure _
  | some activeBuyOrderId =>
    dsimp only
    refine (quiet_run rfl).bind fun active => ?_
    cases active with
    | none => exact (quiet_run rfl).bind fun _ => only_pure _
    | some activeBuyOrder =>
      dsimp only
      cases finishedEvent activeBuyOrder.order.status with
      | none => exact only_pure _
      | some eventType =>
        exact (quiet_run rfl).bind fun _ => (quiet_run rfl).bind fun _ => only_pure _

/-- The leg keeps its type and its target. -/
def SameTerms (leg leg' : TradeBuilderWorkflowLeg) : Prop :=
  leg'.legType = leg.legType ∧ leg'.targetNotionalUsdc = leg.targetNotionalUsdc

theorem settleBuyChild_returns (buyLeg : TradeBuilderWorkflowLeg) :
    Returns (fun settled => SameTerms buyLeg settled.1) (settleBuyChild buyLeg) := by
  unfold settleBuyChild
  cases buyLeg.builderOrderId with
  | none => exact ⟨rfl, rfl⟩
  | some activeBuyOrderId =>
    refine (returns_true _).bind fun active _ => ?_
    cases active with
    | none => exact (returns_true _).bind fun _ _ => ⟨rfl, rfl⟩
    | some activeBuyOrder =>
      dsimp only
      cases finishedEvent activeBuyOrder.order.status with
      | none => exact ⟨rfl, rfl⟩
      | some eventType =>
        exact (returns_true _).bind fun _ _ => (returns_true _).bind fun _ _ => ⟨rfl, rfl⟩

theorem evaluateWorkflowBuyPriceCondition_quiet (buyLeg : TradeBuilderWorkflowLeg) :
    Quiet (evaluateWorkflowBuyPriceCondition buyLeg) := by
  unfold evaluateWorkflowBuyPriceCondition
  split
  · exact (quiet_run rfl).bind fun _ => (quiet_run rfl).bind fun _ => only_pure _
  · exact only_pure _

theorem completeWorkflow_quiet (sellLeg buyLeg : TradeBuilderWorkflowLeg) :
    Quiet (completeWorkflow sellLeg buyLeg) :=
  (quiet_run rfl).bind fun _ => (quiet_run rfl).bind fun _ => (quiet_run rfl).bind fun _ =>
    quiet_run rfl

theorem expireWorkflow_quiet (workflow : TradeBuilderWorkflow) : Quiet (expireWorkflow workflow) :=
  quiet_whenever ((quiet_run rfl).bind fun _ => quiet_run rfl)

theorem markProcessingError_quiet (err : String) : Quiet (markProcessingError err) :=
  (quiet_run rfl).attempt.bind fun _ => (quiet_run rfl).attempt.bind fun _ => only_pure ()

/-- The reads after a leg's fills are summed: the leg shows the sum. -/
structure Refreshed (reads : Reads) (leg leg' : TradeBuilderWorkflowLeg) (reads' : Reads) :
    Prop where
  legs : reads'.legs = reads.legs
  terms : SameTerms leg leg'
  aggregate : reads'.aggregate =
    Function.update reads.aggregate leg.legType leg'.filledNotionalUsdc

theorem refresh_obeys (leg : TradeBuilderWorkflowLeg) (reads : Reads) :
    Obeys workflowProtocol (refreshWorkflowLegFillMetrics leg)
      (fun x s => ∃ reads', s = some reads' ∧ ∀ leg', x = .ok leg' →
        Refreshed reads leg leg' reads') (some reads) := by
  unfold refreshWorkflowLegFillMetrics
  have hfails : ∀ e leg' reads', (.error e : Except String TradeBuilderWorkflowLeg) = .ok leg' →
      Refreshed reads leg leg' reads' := by
    intro e leg' reads' herr
    cases herr
  refine obeys_perform trivial (fun filled => ?_)
    fun e => ⟨reads, next_error _ _ e, fun leg' => hfails e leg' reads⟩
  let reads' : Reads :=
    { reads with aggregate := Function.update reads.aggregate leg.legType filled.1 }
  change Obeys workflowProtocol _ _ (some reads')
  refine obeys_then (quiet_whenever (quiet_run rfl)) (returns_true _) (fun _ _ => ?_)
    fun e => ⟨reads', rfl, fun leg' => hfails e leg' reads'⟩
  refine ⟨reads', rfl, fun leg' hleg => ?_⟩
  cases hleg
  exact ⟨rfl, ⟨rfl, rfl⟩, rfl⟩

/-- A program that leaves the pass with some reads, whatever they are. -/
abbrev Keeps {α : Type} (p : Job α) (reads : Reads) : Prop :=
  Obeys workflowProtocol p (fun _ s => ∃ reads', s = some reads') (some reads)

theorem keeps_of_quiet {α : Type} {p : Job α} (hp : Quiet p) (reads : Reads) : Keeps p reads :=
  obeys_mono (obeys_readsNothing hp (returns_true p) reads) fun _ _ h => ⟨reads, h.1⟩

theorem keeps_after_refresh {α : Type} {leg : TradeBuilderWorkflowLeg}
    {f : TradeBuilderWorkflowLeg → Job α} {reads : Reads}
    (hf : ∀ leg' reads', Refreshed reads leg leg' reads' → Keeps (f leg') reads') :
    Keeps (refreshWorkflowLegFillMetrics leg >>= f) reads := by
  refine obeys_bind (refresh_obeys leg reads) (fun leg' s hs => ?_) fun e s hs => ?_
  · obtain ⟨reads', rfl, hleg⟩ := hs
    exact hf leg' reads' (hleg leg' rfl)
  · obtain ⟨reads', rfl, -⟩ := hs
    exact ⟨reads', rfl⟩

theorem keeps_after {α β : Type} {R : α → Prop} {p : Job α} {f : α → Job β} {reads : Reads}
    (hp : Quiet p) (hr : Returns R p) (hf : ∀ a, R a → Keeps (f a) reads) :
    Keeps (p >>= f) reads :=
  obeys_then hp hr hf fun _ => ⟨reads, rfl⟩

theorem placeBuyChild_keeps (workflow : TradeBuilderWorkflow) (buyLeg : TradeBuilderWorkflowLeg)
    {deltaNotional : ℚ} {reads : Reads}
    (hsizes : reads.sizes (buyLegOrder workflow buyLeg deltaNotional)) :
    Keeps (placeBuyChild workflow buyLeg deltaNotional) reads := by
  unfold placeBuyChild
  refine keeps_after (quiet_run rfl) (returns_true _) fun risk _ => ?_
  have hblocked : Quiet (do
      run (.setLegStatus buyLeg.legType .blocked)
      run (.appendEvent { leg := some buyLeg.legType, eventType := .buyBlockedByRisk
                          reasonCode := some "risk_blocked" })) :=
    (quiet_run rfl).bind fun _ => quiet_run rfl
  cases risk with
  | allow =>
    refine obeys_perform hsizes (fun buyOrderId => ?_) fun e => ⟨reads, next_error _ _ e⟩
    have hplaced : Quiet (do
        run (.setLegBuilderOrder buyLeg.legType (some buyOrderId) .opened)
        run (.setWorkflowStatus .running none)
        run (.appendEvent { leg := some buyLeg.legType, eventType := .buyChildCreated
                            builderOrderId := some buyOrderId })) :=
      (quiet_run rfl).bind fun _ => (quiet_run rfl).bind fun _ => quiet_run rfl
    rw [next_createOrder]
    exact keeps_of_quiet hplaced reads
  | block => exact keeps_of_quiet hblocked reads
  | halt => exact keeps_of_quiet hblocked reads

theorem sizeBuyChild_keeps (workflow : TradeBuilderWorkflow)
    {sellLeg buyLeg loadedSell loadedBuy : TradeBuilderWorkflowLeg} {reads : Reads}
    (hsell : legOfType reads.legs .sell = some loadedSell)
    (hbuy : legOfType reads.legs .buy = some loadedBuy)
    (hsellTerms : SameTerms loadedSell sellLeg) (hbuyTerms : SameTerms loadedBuy buyLeg)
    (hsold : reads.aggregate .sell = sellLeg.filledNotionalUsdc)
    (hbought : reads.aggregate .buy = buyLeg.filledNotionalUsdc) :
    Keeps (sizeBuyChild workflow sellLeg buyLeg (workflowLegProgressPct sellLeg)) reads := by
  unfold sizeBuyChild
  refine keeps_after (evaluateWorkflowBuyPriceCondition_quiet buyLeg) (returns_true _)
    fun priceOk _ => ?_
  refine keeps_after (quiet_whenever ((quiet_run rfl).bind fun _ => quiet_run rfl))
    (returns_true _) fun _ _ => ?_
  have hlast : ∀ reads', Keeps (whenever (99999 / 1000 ≤ workflowLegProgressPct sellLeg &&
      buyLeg.builderOrderId.isNone &&
      buyLeg.targetNotionalUsdc ≤ buyLeg.filledNotionalUsdc + 1 / 10000)
      (completeWorkflow sellLeg buyLeg)) reads' :=
    keeps_of_quiet (quiet_whenever (completeWorkflow_quiet sellLeg buyLeg))
  refine obeys_bind (obeys_whenever (Q := fun _ s => ∃ reads', s = some reads') (fun hplace => ?_)
    ⟨reads, rfl⟩) (fun _ s hs => ?_) fun e s hs => hs
  · refine placeBuyChild_keeps workflow buyLeg ⟨rfl, le_max_right _ _, loadedSell, loadedBuy,
      hsell, hbuy, ?_⟩
    simp only [Bool.and_eq_true, decide_eq_true_eq] at hplace
    have hmin := hplace.1.2
    have hprogress : workflowLegProgressPct
        { loadedSell with filledNotionalUsdc := reads.aggregate .sell } =
          workflowLegProgressPct sellLeg := by
      simp only [workflowLegProgressPct, hsold, hsellTerms.2]
    rw [hprogress, hbought, ← hbuyTerms.2, ← desiredBuyNotional_eq]
    refine max_eq_left ?_
    by_contra hneg
    rw [max_eq_right (le_of_not_ge hneg)] at hmin
    norm_num [workflowMinBuyIncrementUsdc] at hmin
  · obtain ⟨reads', rfl⟩ := hs
    exact hlast reads'

theorem SameTerms.trans {leg leg' leg'' : TradeBuilderWorkflowLeg} (h : SameTerms leg leg')
    (h' : SameTerms leg' leg'') : SameTerms leg leg'' :=
  ⟨h'.1.trans h.1, h'.2.trans h.2⟩

theorem legOfType_legType {legs : List TradeBuilderWorkflowLeg} {legType : LegType}
    {leg : TradeBuilderWorkflowLeg} (h : legOfType legs legType = some leg) :
    leg.legType = legType := by
  simpa using List.find?_some h

theorem processLegs_keeps (workflow : TradeBuilderWorkflow)
    {sellLeg buyLeg : TradeBuilderWorkflowLeg} {reads : Reads}
    (hsell : legOfType reads.legs .sell = some sellLeg)
    (hbuy : legOfType reads.legs .buy = some buyLeg) :
    Keeps (processLegs workflow sellLeg buyLeg) reads := by
  have hsellType := legOfType_legType hsell
  have hbuyType := legOfType_legType hbuy
  unfold processLegs
  refine keeps_after (ensureSellLegOrder_quiet workflow sellLeg) (returns_true _) fun _ _ => ?_
  refine keeps_after_refresh fun sellLeg₁ reads₁ hsell₁ => ?_
  refine keeps_after_refresh fun buyLeg₁ reads₂ hbuy₁ => ?_
  refine keeps_after (quiet_whenever (quiet_run rfl)) (returns_true _) fun _ _ => ?_
  refine keeps_after (settleBuyChild_quiet buyLeg₁) (settleBuyChild_returns buyLeg₁)
    fun settled hsettled => ?_
  refine keeps_after_refresh fun buyLeg₃ reads₃ hbuy₃ => ?_
  refine obeys_whenever (fun _ => ?_) ⟨reads₃, rfl⟩
  have hlegs : reads₃.legs = reads.legs := hbuy₃.legs.trans (hbuy₁.legs.trans hsell₁.legs)
  have hsettledTerms : SameTerms buyLeg settled.1 := hbuy₁.terms.trans hsettled
  refine sizeBuyChild_keeps workflow
    (by rw [hlegs, hsell]) (by rw [hlegs, hbuy]) hsell₁.terms (hsettledTerms.trans hbuy₃.terms)
    ?_ ?_
  · rw [hbuy₃.aggregate, hbuy₁.aggregate, hsell₁.aggregate, hsettledTerms.1, hbuyType, hsellType]
    simp
  · rw [hbuy₃.aggregate, hsettledTerms.1, hbuyType, Function.update_self]

theorem require_obeys {α : Type} {message : String} {found : Option α} {f : α → Job Unit}
    {reads : Reads} (hf : ∀ a, found = some a → Keeps (f a) reads) :
    Keeps (require message found >>= f) reads := by
  cases found with
  | none => exact ⟨reads, rfl⟩
  | some a => exact hf a rfl

theorem processTradeBuilderWorkflow_keeps (workflow : TradeBuilderWorkflow) (reads : Reads) :
    Keeps (processTradeBuilderWorkflow workflow) reads := by
  unfold processTradeBuilderWorkflow
  refine keeps_after (quiet_run rfl) (returns_true _) fun now _ => ?_
  split
  case isTrue => exact keeps_of_quiet (expireWorkflow_quiet workflow) reads
  case isFalse =>
    refine obeys_perform trivial (fun legs => ?_) fun e => ⟨reads, rfl⟩
    exact require_obeys fun sellLeg hsell => require_obeys fun buyLeg hbuy =>
      processLegs_keeps workflow hsell hbuy

theorem processTradeBuilderWorkflows_keeps (reads : Reads) :
    Keeps processTradeBuilderWorkflows reads := by
  unfold processTradeBuilderWorkflows
  refine keeps_after (quiet_run rfl) (returns_true _) fun listed _ => ?_
  cases listed with
  | none => exact ⟨reads, rfl⟩
  | some workflow =>
    have hpass : Keeps (do Job.run .loadUserClient; processTradeBuilderWorkflow workflow) reads :=
      keeps_after (quiet_run rfl) (returns_true _) fun _ _ =>
        processTradeBuilderWorkflow_keeps workflow reads
    refine obeys_attempt hpass fun x s hs => ?_
    obtain ⟨reads', rfl⟩ := hs
    cases x with
    | ok _ => exact ⟨reads', rfl⟩
    | error err => exact keeps_of_quiet (markProcessingError_quiet err) reads'

theorem workflowPasses_keeps (passes : ℕ) (reads : Reads) : Keeps (workflowPasses passes) reads := by
  induction passes generalizing reads with
  | zero => exact ⟨reads, rfl⟩
  | succ passes ih =>
    refine obeys_attempt (processTradeBuilderWorkflows_keeps reads) fun _ s hs => ?_
    obtain ⟨reads', rfl⟩ := hs
    exact ih reads'

theorem marketSteps_obeys (steps : List MarketStep) :
    Obeys workflowProtocol (marketSteps steps) (fun _ _ => True) none := by
  induction steps with
  | nil => trivial
  | cons step steps ih => exact obeys_perform trivial (fun _ => ih) fun _ => trivial

end PolymarketBot.Workflow
