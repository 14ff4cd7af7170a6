import Mathlib.Algebra.Order.BigOperators.Group.List
import Mathlib.Tactic.Linarith
import PolymarketBot.Workflow.Pass

/-! What each call does to the rows of a workflow, and what the buy children take of the
notional that the sell leg has freed. -/

namespace PolymarketBot.Workflow
open Builder Flow

/-- What one buy child was sized on: the notional the earlier ones had taken, its own size, and
the notional that the progress read by the pass frees. -/
structure Sizing where
  taken : ℚ
  size : ℚ
  freed : ℚ

/-- The tables, the last notional each leg's fills were summed to, and the sizings so far. -/
structure World where
  tables : Tables
  lastAggregate : LegType → ℚ := fun _ => 0
  sizings : List Sizing := []

/-- What is decided outside about one call. -/
structure Reply where
  fails : Option String := none
  listed : Bool := true
  now : Instant := 0
  price : ℚ := 1 / 2
  risk : RiskDecision := .allow

namespace Tables

def setLeg (w : Tables) (legType : LegType)
    (write : TradeBuilderWorkflowLeg → TradeBuilderWorkflowLeg) : Tables :=
  { w with legs := w.legs.map fun leg => if leg.legType = legType then write leg else leg }

def setChild (w : Tables) (id : ℕ) (write : Child → Child) : Tables :=
  { w with children := w.children.map fun child => if child.id = id then write child else child }

/-- The row that a trade adds to `fills`, once its order has a row in `orders`; a fill id has
one row. -/
def fillRow (w : Tables) (id index : ℕ) : Option Fill := do
  let child ← w.children.find? (·.id = id)
  let trade ← child.trades[index]?
  let order ← w.internalOrders.find? (·.exchangeOrderId = some trade.exchangeOrderId)
  if w.fills.any (·.trade.fillId = trade.fillId) then none
  else some { orderId := order.id, trade }

def marketStep (w : Tables) : MarketStep → Tables
  | .trade id trade => w.setChild id (Child.addTrade trade)
  | .orderStatus id status => w.setChild id (Child.setStatus status)
  | .orderEvent event => { w with orderEvents := w.orderEvents ++ [event] }
  | .internalOrder order => { w with internalOrders := w.internalOrders ++ [order] }
  | .fill id index => { w with fills := w.fills ++ (w.fillRow id index).toList }
  | .workflowStatus status => { w with workflow := { w.workflow with status } }

def isListed (w : Tables) : Bool := w.workflow.status = .armed || w.workflow.status = .running

/-- The answer of a call that does not fail, and the tables after it. -/
def answer (w : Tables) (r : Reply) : (c : WorkflowCall) → WorkflowAnswer c × Tables
  | .listForProcessing => (if r.listed && w.isListed then some w.workflow else none, w)
  | .loadUserClient => ((), w)
  | .now => (r.now, w)
  | .setWorkflowStatus status _ => ((), { w with workflow := { w.workflow with status } })
  | .appendEvent event => ((), { w with events := w.events ++ [event] })
  | .loadLegs => (w.legs, w)
  | .getOrder id => (w.children.find? (·.id = id), w)
  | .createOrder leg order =>
    (w.children.length,
      { w with children := w.children ++ [{ id := w.children.length, leg, order }] })
  | .setLegBuilderOrder leg builderOrderId status =>
    ((), w.setLeg leg fun row => { row with builderOrderId, status })
  | .aggregateLegFills leg => (w.aggregateLegFills leg, w)
  | .setLegFilledMetrics leg filledNotionalUsdc filledQty =>
    ((), w.setLeg leg fun row =>
      { row with filledNotionalUsdc := max 0 filledNotionalUsdc, filledQty := max 0 filledQty })
  | .setLegStatus leg status => ((), w.setLeg leg fun row => { row with status })
  | .setLegLastSeenPrice leg price =>
    ((), w.setLeg leg fun row => { row with lastSeenPrice := some price })
  | .fetchPrice _ => (r.price, w)
  | .riskGate _ => (r.risk, w)
  | .market step => ((), w.marketStep step)

/-- What the buy children took: what the finished ones bought and the size of a live one. -/
def exposure (w : Tables) : ℚ :=
  ((w.children.filter (·.leg = .buy)).map Child.exposure).sum

/-- The buy leg's target times the progress of the sell leg, at the given notional sold. -/
def freed (w : Tables) (sold : ℚ) : ℚ :=
  match legOfType w.legs .sell, legOfType w.legs .buy with
  | some sellLeg, some buyLeg =>
    buyLeg.targetNotionalUsdc *
      (workflowLegProgressPct { sellLeg with filledNotionalUsdc := sold } / 100)
  | _, _ => 0

def sold (w : Tables) : ℚ := (w.aggregateLegFills .sell).1

end Tables

namespace World

def note (w : World) : WorkflowCall → World
  | .aggregateLegFills leg =>
    { w with lastAggregate :=
        Function.update w.lastAggregate leg (w.tables.aggregateLegFills leg).1 }
  | .createOrder .buy order =>
    { w with sizings := w.sizings ++ [{ taken := w.tables.exposure, size := order.sizeUsdc
                                        freed := w.tables.freed (w.lastAggregate .sell) }] }
  | _ => w

end World

/-- What happens outside the passes, and the clock, never fails. -/
def canFail : WorkflowCall → Bool
  | .market _ | .now => false
  | _ => true

def act (c : WorkflowCall) (w : World) (r : Reply) :
    Except String (WorkflowAnswer c) × World :=
  match r.fails.filter fun _ => canFail c with
  | some err => (.error err, w)
  | none => (.ok (w.tables.answer r c).1, { w.note c with tables := (w.tables.answer r c).2 })

/-! ### What the calls do -/

/-- Every call but the creation of a buy child. -/
def isCalm : WorkflowCall → Bool
  | .createOrder .buy _ => false
  | _ => true

theorem workflowLegProgressPct_bounds (leg : TradeBuilderWorkflowLeg) :
    0 ≤ workflowLegProgressPct leg ∧ workflowLegProgressPct leg ≤ 100 := by
  unfold workflowLegProgressPct clampPct
  split
  · norm_num
  · exact ⟨le_max_left _ _, max_le (by norm_num) (min_le_left _ _)⟩

theorem workflowLegProgressPct_mono {leg leg' : TradeBuilderWorkflowLeg}
    (htarget : leg'.targetNotionalUsdc = leg.targetNotionalUsdc)
    (hfilled : leg.filledNotionalUsdc ≤ leg'.filledNotionalUsdc) :
    workflowLegProgressPct leg ≤ workflowLegProgressPct leg' := by
  unfold workflowLegProgressPct clampPct
  rw [htarget]
  split
  case isTrue => exact le_refl _
  case isFalse hpos =>
    rw [not_le] at hpos
    have hshare : max leg.filledNotionalUsdc 0 / leg.targetNotionalUsdc ≤
        max leg'.filledNotionalUsdc 0 / leg.targetNotionalUsdc :=
      div_le_div_of_nonneg_right (max_le_max_right 0 hfilled) hpos.le
    exact max_le_max_left 0 (min_le_min_left 100 (by linarith))

theorem desiredBuyNotional_eq (buyLeg sellLeg : TradeBuilderWorkflowLeg) :
    desiredBuyNotional buyLeg (workflowLegProgressPct sellLeg) =
      buyLeg.targetNotionalUsdc * (workflowLegProgressPct sellLeg / 100) := by
  obtain ⟨hzero, hfull⟩ := workflowLegProgressPct_bounds sellLeg
  have htarget := buyLeg.target_nonneg
  have hlow : 0 ≤ buyLeg.targetNotionalUsdc * (workflowLegProgressPct sellLeg / 100) :=
    mul_nonneg htarget (by linarith)
  have hhigh : buyLeg.targetNotionalUsdc * (workflowLegProgressPct sellLeg / 100) ≤
      buyLeg.targetNotionalUsdc :=
    mul_le_of_le_one_right htarget (by linarith)
  rw [desiredBuyNotional, max_eq_left htarget, min_eq_right hhigh, max_eq_right hlow]

namespace Tables
variable {w w' : Tables}

def targets (w : Tables) (legType : LegType) : Option ℚ :=
  (legOfType w.legs legType).map (·.targetNotionalUsdc)

theorem freed_mono {sold sold' : ℚ} (hsold : sold ≤ sold') : w.freed sold ≤ w.freed sold' := by
  unfold freed
  split
  case h_1 sellLeg buyLeg _ _ =>
    have hprogress : workflowLegProgressPct { sellLeg with filledNotionalUsdc := sold } ≤
        workflowLegProgressPct { sellLeg with filledNotionalUsdc := sold' } :=
      workflowLegProgressPct_mono rfl hsold
    exact mul_le_mul_of_nonneg_left (by linarith) buyLeg.target_nonneg
  case h_2 => exact le_refl _

theorem freed_nonneg (w : Tables) (sold : ℚ) : 0 ≤ w.freed sold := by
  unfold freed
  split
  case h_1 sellLeg buyLeg _ _ =>
    have hprogress := (workflowLegProgressPct_bounds { sellLeg with filledNotionalUsdc := sold }).1
    exact mul_nonneg buyLeg.target_nonneg (by linarith)
  case h_2 => exact le_refl _

theorem freed_le_target (sold : ℚ) {buyLeg : TradeBuilderWorkflowLeg}
    (hbuy : legOfType w.legs .buy = some buyLeg) : w.freed sold ≤ buyLeg.targetNotionalUsdc := by
  unfold freed
  rw [hbuy]
  split
  case h_1 sellLeg buyLeg' _ heq =>
    cases heq
    have hprogress := (workflowLegProgressPct_bounds { sellLeg with filledNotionalUsdc := sold }).2
    exact mul_le_of_le_one_right buyLeg.target_nonneg (by linarith)
  case h_2 => exact buyLeg.target_nonneg

theorem freed_eq_of_targets {sellLeg buyLeg : TradeBuilderWorkflowLeg}
    (hsell : w.targets .sell = some sellLeg.targetNotionalUsdc)
    (hbuy : w.targets .buy = some buyLeg.targetNotionalUsdc) (sold : ℚ) :
    w.freed sold = buyLeg.targetNotionalUsdc *
      (workflowLegProgressPct { sellLeg with filledNotionalUsdc := sold } / 100) := by
  obtain ⟨sellLeg', hsell', hsellTarget⟩ := Option.map_eq_some_iff.mp hsell
  obtain ⟨buyLeg', hbuy', hbuyTarget⟩ := Option.map_eq_some_iff.mp hbuy
  unfold freed
  rw [hsell', hbuy']
  simp only [workflowLegProgressPct, hsellTarget, hbuyTarget]

theorem freed_congr (htargets : w'.targets = w.targets) (sold : ℚ) :
    w'.freed sold = w.freed sold := by
  cases hsell : w.targets .sell with
  | none =>
    have hsell' : w'.targets .sell = none := by rw [htargets, hsell]
    unfold freed
    rw [Option.map_eq_none_iff.mp hsell, Option.map_eq_none_iff.mp hsell']
  | some sellTarget =>
    cases hbuy : w.targets .buy with
    | none =>
      have hbuy' : w'.targets .buy = none := by rw [htargets, hbuy]
      unfold freed
      rw [Option.map_eq_none_iff.mp hbuy, Option.map_eq_none_iff.mp hbuy']
      cases legOfType w.legs .sell <;> cases legOfType w'.legs .sell <;> rfl
    | some buyTarget =>
      obtain ⟨sellLeg, -, rfl⟩ := Option.map_eq_some_iff.mp hsell
      obtain ⟨buyLeg, -, rfl⟩ := Option.map_eq_some_iff.mp hbuy
      rw [freed_eq_of_targets hsell hbuy, freed_eq_of_targets (by rw [htargets, hsell])
        (by rw [htargets, hbuy])]

theorem legOfType_map {legs : List TradeBuilderWorkflowLeg}
    {write : TradeBuilderWorkflowLeg → TradeBuilderWorkflowLeg}
    (hwrite : ∀ leg, (write leg).legType = leg.legType) (legType : LegType) :
    legOfType (legs.map write) legType = (legOfType legs legType).map write := by
  unfold legOfType
  rw [List.find?_map]
  simp only [Function.comp_def, hwrite]

theorem setLeg_targets (w : Tables) (legType : LegType)
    {write : TradeBuilderWorkflowLeg → TradeBuilderWorkflowLeg}
    (htype : ∀ leg, (write leg).legType = leg.legType)
    (htarget : ∀ leg, (write leg).targetNotionalUsdc = leg.targetNotionalUsdc) :
    (w.setLeg legType write).targets = w.targets := by
  funext type
  have hkept : ∀ leg : TradeBuilderWorkflowLeg,
      (if leg.legType = legType then write leg else leg).legType = leg.legType := by
    intro leg
    split <;> simp [htype]
  unfold targets setLeg
  rw [legOfType_map hkept, Option.map_map]
  congr 1
  funext leg
  simp only [Function.comp_apply]
  split <;> simp [htarget]

theorem sold_mono (hevents : w.events ⊆ w'.events) (horderEvents : w.orderEvents ⊆ w'.orderEvents)
    (hinternal : w.internalOrders ⊆ w'.internalOrders) (hfills : w.fills.Sublist w'.fills) :
    w.sold ≤ w'.sold := by
  have hchild : ∀ id ∈ w.childOrders .sell, id ∈ w'.childOrders .sell := by
    intro id hid
    simp only [childOrders, List.mem_filterMap, List.mem_filter] at hid ⊢
    obtain ⟨event, ⟨hmem, hleg⟩, hevent⟩ := hid
    exact ⟨event, ⟨hevents hmem, hleg⟩, hevent⟩
  have hids : ∀ id ∈ w.exchangeIds .sell, id ∈ w'.exchangeIds .sell := by
    intro id hid
    simp only [exchangeIds, List.mem_filter, List.mem_flatMap, decide_eq_true_eq] at hid ⊢
    obtain ⟨⟨event, ⟨hmem, hof⟩, hevent⟩, hne⟩ := hid
    exact ⟨⟨event, ⟨horderEvents hmem, hchild _ hof⟩, hevent⟩, hne⟩
  have hseen : ∀ fill : Fill, w.isInternalOrder .sell fill.orderId →
      w'.isInternalOrder .sell fill.orderId := by
    intro fill hfill
    simp only [isInternalOrder, List.any_eq_true, Bool.and_eq_true, Option.any_eq_true_iff_get,
      decide_eq_true_eq] at hfill ⊢
    obtain ⟨order, hmem, hid, hsome, hexchange⟩ := hfill
    exact ⟨order, hinternal hmem, hid, hsome, hids _ hexchange⟩
  have hsub : (w.visibleFills .sell).Sublist (w'.visibleFills .sell) :=
    (List.monotone_filter_right w.fills hseen).trans (hfills.filter _)
  refine (hsub.map _).sum_le_sum ?_
  intro notional hnotional
  obtain ⟨fill, -, rfl⟩ := List.mem_map.mp hnotional
  exact fill.trade.notional_nonneg

/-- No child that buys has bought more than its size. -/
def BoughtWithin (w : Tables) : Prop :=
  ∀ child ∈ w.children, child.leg = .buy → child.traded ≤ child.order.sizeUsdc

/-- What every call but the creation of a buy child does. -/
structure Calm (w w' : Tables) : Prop where
  targets : w'.targets = w.targets
  exposure : w'.exposure ≤ w.exposure
  sold : w.sold ≤ w'.sold
  bought : w'.BoughtWithin

theorem calm_of_children (hw : w.BoughtWithin) (hchildren : w'.children = w.children)
    (htargets : w'.targets = w.targets) (hsold : w.sold ≤ w'.sold) : Calm w w' := by
  refine ⟨htargets, ?_, hsold, ?_⟩
  · rw [exposure, exposure, hchildren]
  · rwa [BoughtWithin, hchildren]

theorem setLeg_calm (hw : w.BoughtWithin) (legType : LegType)
    {write : TradeBuilderWorkflowLeg → TradeBuilderWorkflowLeg}
    (htype : ∀ leg, (write leg).legType = leg.legType)
    (htarget : ∀ leg, (write leg).targetNotionalUsdc = leg.targetNotionalUsdc) :
    Calm w (w.setLeg legType write) :=
  calm_of_children hw rfl (setLeg_targets w legType htype htarget) (le_refl _)

/-- What may be done to a child: it stays on its leg, and takes no more than before. -/
structure ChildCalm (write : Child → Child) : Prop where
  leg : ∀ child, (write child).leg = child.leg
  exposure : ∀ child : Child, child.traded ≤ child.order.sizeUsdc →
    (write child).exposure ≤ child.exposure
  bought : ∀ child : Child, child.leg = .buy → child.traded ≤ child.order.sizeUsdc →
    (write child).traded ≤ (write child).order.sizeUsdc

theorem addTrade_calm (trade : Trade) : ChildCalm (Child.addTrade trade) := by
  refine ⟨fun child => ?_, fun child _ => ?_, fun child hbuy hwithin => ?_⟩
  · unfold Child.addTrade
    split <;> rfl
  · unfold Child.addTrade
    split
    case isTrue hcan =>
      have hlive : child.isLive = true := (Bool.and_eq_true_iff.mp hcan).1
      have hlive' : Child.isLive { child with trades := child.trades ++ [trade] } = true := hlive
      rw [Child.exposure, Child.exposure, if_pos hlive, if_pos hlive']
    case isFalse => exact le_refl _
  · unfold Child.addTrade
    split
    case isTrue hcan =>
      have hspends := (Bool.and_eq_true_iff.mp hcan).2
      simp only [hbuy, reduceCtorEq, decide_false, Bool.false_or, decide_eq_true_eq] at hspends
      simpa [Child.traded] using hspends
    case isFalse => exact hwithin

theorem setStatus_calm (status : OrderStatus) : ChildCalm (Child.setStatus status) := by
  refine ⟨fun child => ?_, fun child hwithin => ?_, fun child _ hwithin => ?_⟩
  · unfold Child.setStatus
    split <;> rfl
  · unfold Child.setStatus
    split
    case isTrue hlive =>
      rw [Child.exposure, Child.exposure, if_pos hlive]
      split
      · exact le_refl _
      · exact hwithin
    case isFalse => exact le_refl _
  · unfold Child.setStatus
    split <;> exact hwithin

theorem setChild_calm (hw : w.BoughtWithin) (id : ℕ) {write : Child → Child}
    (hwrite : ChildCalm write) : Calm w (w.setChild id write) := by
  have hleg : ∀ child : Child,
      (if child.id = id then write child else child).leg = child.leg := by
    intro child
    split <;> simp [hwrite.leg]
  refine ⟨rfl, ?_, le_refl _, ?_⟩
  · unfold exposure setChild
    rw [List.filter_map, List.map_map]
    simp only [Function.comp_def, hleg]
    refine List.sum_le_sum fun child hchild => ?_
    obtain ⟨hmem, hbuy⟩ := List.mem_filter.mp hchild
    have hwithin := hw child hmem (by simpa using hbuy)
    split
    · exact hwrite.exposure child hwithin
    · exact le_refl _
  · intro child hchild hbuy
    obtain ⟨child', hmem, rfl⟩ := List.mem_map.mp hchild
    rw [hleg] at hbuy
    have hwithin := hw child' hmem hbuy
    split
    · exact hwrite.bought child' hbuy hwithin
    · exact hwithin

theorem marketStep_calm (hw : w.BoughtWithin) (step : MarketStep) : Calm w (w.marketStep step) := by
  cases step with
  | trade id trade => exact setChild_calm hw id (addTrade_calm trade)
  | orderStatus id status => exact setChild_calm hw id (setStatus_calm status)
  | orderEvent event =>
    exact calm_of_children hw rfl rfl (sold_mono (List.Subset.refl _)
      (List.subset_append_left _ _) (List.Subset.refl _) (List.Sublist.refl _))
  | internalOrder order =>
    exact calm_of_children hw rfl rfl (sold_mono (List.Subset.refl _) (List.Subset.refl _)
      (List.subset_append_left _ _) (List.Sublist.refl _))
  | fill id index =>
    exact calm_of_children hw rfl rfl (sold_mono (List.Subset.refl _) (List.Subset.refl _)
      (List.Subset.refl _) (List.sublist_append_left _ _))
  | workflowStatus status => exact calm_of_children hw rfl rfl (le_refl _)

theorem createOrder_sell_calm (hw : w.BoughtWithin) (order : ChildOrder) :
    Calm w { w with children := w.children ++ [{ id := w.children.length, leg := .sell, order }] }
    := by
  refine ⟨rfl, ?_, le_refl _, ?_⟩
  · simp [exposure]
  · intro child hchild hbuy
    rw [List.mem_append, List.mem_singleton] at hchild
    obtain hmem | rfl := hchild
    · exact hw child hmem hbuy
    · cases hbuy

theorem answer_calm (hw : w.BoughtWithin) (r : Reply) {c : WorkflowCall} (hc : isCalm c = true) :
    Calm w (w.answer r c).2 := by
  cases c with
  | appendEvent event =>
    exact calm_of_children hw rfl rfl (sold_mono (List.subset_append_left _ _)
      (List.Subset.refl _) (List.Subset.refl _) (List.Sublist.refl _))
  | createOrder leg order =>
    cases leg with
    | sell => exact createOrder_sell_calm hw order
    | buy => cases hc
  | setLegBuilderOrder leg builderOrderId status =>
    exact setLeg_calm hw leg (fun _ => rfl) fun _ => rfl
  | setLegFilledMetrics leg filledNotionalUsdc filledQty =>
    exact setLeg_calm hw leg (fun _ => rfl) fun _ => rfl
  | setLegStatus leg status => exact setLeg_calm hw leg (fun _ => rfl) fun _ => rfl
  | setLegLastSeenPrice leg price => exact setLeg_calm hw leg (fun _ => rfl) fun _ => rfl
  | market step => exact marketStep_calm hw step
  | _ => exact calm_of_children hw rfl rfl (le_refl _)

end Tables

end PolymarketBot.Workflow
