import PolymarketBot.Positions.FlipGrid

/-! When the loaded state of a flip grid and its open lots hold the same quantities: no grid
sell may be recorded, since only conditional exits are taken off a parent's position. -/

namespace PolymarketBot.Positions
open Lib Builder Lib.Runs

def recordedQty (fills : List GridFill) (id : ℤ) : Option ℚ :=
  (fills.find? (·.builderOrderId = id)).map GridFill.quantity

/-- What a buy's position holds when its fill is recorded. -/
def openedQty (store : Store) (id : ℤ) (report : FillReport) : ℚ :=
  match store.positions id with
  | some position => position.currentQty
  | none =>
    (tradeBuilderParentPositionSeedQty ((store.observations id).map FirstVisibleObservation.seed)
      report.canonical).1

/-- A row that there is stays at its quantity; a new buy is recorded with what its position
holds and a new sell with nothing; a merge takes from each lot no more than it holds. -/
def KeepsLedgersEqual (b : GridBooks) : GridEvent → Prop
  | .buyFilled id _ _ report recordFails =>
    recordFails = true ∨
      report.gridQty = (recordedQty b.fills id).getD (openedQty b.store id report)
  | .sellFilled id _ _ report recordFails _ =>
    recordFails = true ∨ report.gridQty = (recordedQty b.fills id).getD 0
  | .planMerge _ _ => True
  | .recordMerge engine txHash _ =>
    ∀ plan ∈ b.plans engine, b.merges.any (·.txHash = txHash) = true ∨
      plan.quantity ≤ currentQty b.store plan.upLeg.parentBuilderOrderId ∧
        plan.quantity ≤ currentQty b.store plan.downLeg.parentBuilderOrderId

instance (b : GridBooks) : (e : GridEvent) → Decidable (KeepsLedgersEqual b e)
  | .buyFilled _ _ _ _ _ => inferInstanceAs (Decidable (_ ∨ _))
  | .sellFilled _ _ _ _ _ _ => inferInstanceAs (Decidable (_ ∨ _))
  | .planMerge _ _ => inferInstanceAs (Decidable True)
  | .recordMerge engine _ _ => inferInstanceAs (Decidable (∀ plan ∈ b.plans engine, _))

/-! ### Rows -/

/-- A row without its prices, which neither ledger's quantities are read from. -/
def GridFill.core (row : GridFill) : GridFill := { row with executionPrice := 0, notionalUsdc := 0 }

theorem record_of_new {input : GridFill} {fills : List GridFill}
    (hnew : recordedQty fills input.builderOrderId = none) :
    recordPositiveQuantityFlipGridFill input fills = fills ++ [input] := by
  induction fills with
  | nil => rfl
  | cons row rows ih =>
    simp only [recordedQty, Option.map_eq_none_iff, List.find?_eq_none, List.mem_cons,
      forall_eq_or_imp, decide_eq_true_eq] at hnew ih
    simp [recordPositiveQuantityFlipGridFill, hnew.1, ih hnew.2]

theorem core_record_of_same {input : GridFill} {fills : List GridFill}
    (hsame : recordedQty fills input.builderOrderId = some input.quantity) :
    (recordPositiveQuantityFlipGridFill input fills).map GridFill.core
      = fills.map GridFill.core := by
  induction fills with
  | nil => simp [recordedQty] at hsame
  | cons row rows ih =>
    by_cases hid : row.builderOrderId = input.builderOrderId
    · have hqty : row.quantity = input.quantity := by simpa [recordedQty, hid] using hsame
      simp [recordPositiveQuantityFlipGridFill, hid, GridFill.core, hqty]
    · have hrest : recordedQty rows input.builderOrderId = some input.quantity := by
        simpa [recordedQty, hid] using hsame
      simp [recordPositiveQuantityFlipGridFill, hid, ih hrest]

theorem fillQty_core (side : GridSide) (fills : List GridFill) :
    fillQty side (fills.map GridFill.core) = fillQty side fills := by
  rw [fillQty, List.map_map]
  rfl

theorem positionQty_core (b : GridBooks) (side : GridSide) :
    ((b.fills.map GridFill.core).map (GridFill.lotQty b.store side)).sum = positionQty b side := by
  rw [positionQty, List.map_map]
  rfl

/-! ### Sums over rows with distinct ids -/

theorem sum_map_update {f g : GridFill → ℚ} {fills : List GridFill} {row : GridFill}
    (hids : (fills.map GridFill.builderOrderId).Nodup) (hrow : row ∈ fills)
    (hother : ∀ other ∈ fills, other.builderOrderId ≠ row.builderOrderId → g other = f other) :
    (fills.map g).sum = (fills.map f).sum - f row + g row := by
  induction fills with
  | nil => cases hrow
  | cons first rest ih =>
    simp only [List.map_cons, List.nodup_cons] at hids
    rcases List.mem_cons.mp hrow with rfl | hmem
    · have hrest : rest.map g = rest.map f := by
        refine List.map_congr_left fun other ho => hother other (List.mem_cons_of_mem _ ho) ?_
        intro heq
        exact hids.1 (heq ▸ List.mem_map_of_mem ho)
      simp only [List.map_cons, List.sum_cons, hrest]
      ring
    · have hfirst : g first = f first := by
        refine hother first List.mem_cons_self fun heq => hids.1 ?_
        exact heq ▸ List.mem_map_of_mem hmem
      have hrest := ih hids.2 hmem fun other ho => hother other (List.mem_cons_of_mem _ ho)
      simp only [List.map_cons, List.sum_cons, hfirst, hrest]
      ring

/-! ### The invariant -/

def HasLot (rows : List GridFill) (side : GridSide) (id : ℤ) : Prop :=
  ∃ row ∈ rows, row.orderSide = .buy ∧ row.gridSide = side ∧ row.lotId = id

/-- A buy's row is joined with a position of its own, which is never overdrawn. -/
def LotsOpen (rows : List GridFill) (store : Store) : Prop :=
  ∀ row ∈ rows, row.orderSide = .buy → row.lotId = row.builderOrderId ∧
    ∃ position ∈ store.positions row.lotId, 0 ≤ position.currentQty

/-- Before the loaded state is clamped, the ledgers agree, and a plan's legs are open lots of
their sides. -/
structure Balanced (rows : List GridFill) (merges : List GridMerge) (store : Store)
    (plans : ℕ → Option PositiveFlipPairlockMergePlan) : Prop where
  ids : (rows.map GridFill.builderOrderId).Nodup
  lots : LotsOpen rows store
  plans : ∀ engine, ∀ plan ∈ plans engine, 0 ≤ plan.quantity ∧
    HasLot rows .up plan.upLeg.parentBuilderOrderId ∧
      HasLot rows .down plan.downLeg.parentBuilderOrderId
  equal : ∀ side, fillQty side rows - mergedQty merges =
    (rows.map (GridFill.lotQty store side)).sum

/-! ### A leg of a merge -/

section leg
variable {rows : List GridFill} {store : Store} {id : ℤ} {quantity : ℚ}

theorem positions_updatePosition_self
    (f : TradeBuilderParentPosition → TradeBuilderParentPosition) :
    (updatePosition store id f).positions id = (store.positions id).map f :=
  Function.update_self _ _ _

theorem positions_updatePosition_of_ne {other : ℤ} (hne : other ≠ id)
    (f : TradeBuilderParentPosition → TradeBuilderParentPosition) :
    (updatePosition store id f).positions other = store.positions other :=
  Function.update_of_ne hne _ _

theorem currentQty_mergeLeg (h0 : 0 ≤ quantity) (hqty : quantity ≤ currentQty store id) :
    currentQty (updatePosition store id (mergeLeg quantity)) id = currentQty store id - quantity := by
  rw [currentQty, positions_updatePosition_self]
  unfold currentQty at *
  cases hp : store.positions id with
  | none =>
    have hzero : quantity ≤ 0 := by simpa [hp] using hqty
    simp [le_antisymm hzero h0]
  | some position =>
    have hle : quantity ≤ position.currentQty := by simpa [hp] using hqty
    simp [mergeLeg, max_eq_left h0, hle]

theorem LotsOpen.mergeLeg (h : LotsOpen rows store) :
    LotsOpen rows (updatePosition store id (mergeLeg quantity)) := by
  intro row hrow hbuy
  obtain ⟨hid, position, hp, hpos⟩ := h row hrow hbuy
  refine ⟨hid, ?_⟩
  by_cases hlot : row.lotId = id
  · refine ⟨Positions.mergeLeg quantity position, ?_, le_max_left _ _⟩
    have hp' : store.positions row.lotId = some position := hp
    rw [hlot, positions_updatePosition_self, ← hlot, hp']
    rfl
  · rw [positions_updatePosition_of_ne hlot]
    exact ⟨position, hp, hpos⟩

theorem sum_mergeLeg (hids : (rows.map GridFill.builderOrderId).Nodup) (h : LotsOpen rows store)
    {legSide : GridSide} (hleg : HasLot rows legSide id) (h0 : 0 ≤ quantity)
    (hqty : quantity ≤ currentQty store id) (side : GridSide) :
    (rows.map (GridFill.lotQty (updatePosition store id (mergeLeg quantity)) side)).sum
      = (rows.map (GridFill.lotQty store side)).sum - if legSide = side then quantity else 0 := by
  obtain ⟨row, hrow, hbuy, rfl, rfl⟩ := hleg
  have hrowId : row.lotId = row.builderOrderId := (h row hrow hbuy).1
  rw [sum_map_update hids hrow (f := GridFill.lotQty store side)]
  · unfold GridFill.lotQty
    rw [currentQty_mergeLeg h0 hqty]
    by_cases hs : row.gridSide = side <;> simp [hs, hbuy]
  · intro other ho hne
    unfold GridFill.lotQty
    split
    · rename_i hlot
      have hother : other.lotId ≠ row.lotId := by
        rw [(h other ho hlot.2).1, hrowId]
        exact hne
      rw [currentQty, positions_updatePosition_of_ne hother, currentQty]
    · rfl

theorem HasLot.ne {id' : ℤ} (hids : (rows.map GridFill.builderOrderId).Nodup)
    (h : LotsOpen rows store) (hup : HasLot rows .up id) (hdown : HasLot rows .down id') :
    id' ≠ id := by
  rintro rfl
  obtain ⟨up, hup, hbuy, hs, hid⟩ := hup
  obtain ⟨down, hdown, hbuy', hs', hid'⟩ := hdown
  have hsame : up.builderOrderId = down.builderOrderId := by
    rw [← (h up hup hbuy).1, ← (h down hdown hbuy').1, hid, hid']
  obtain rfl := List.inj_on_of_nodup_map hids hup hdown hsame
  rw [hs] at hs'
  cases hs'

end leg

namespace Balanced
variable {rows : List GridFill} {merges : List GridMerge} {store store' : Store}
  {plans : ℕ → Option PositiveFlipPairlockMergePlan}

theorem congr_store (h : Balanced rows merges store plans)
    (hsame : ∀ row ∈ rows, row.orderSide = .buy →
      store'.positions row.lotId = store.positions row.lotId) :
    Balanced rows merges store' plans := by
  refine { h with lots := fun row hrow hbuy => ?_, equal := fun side => ?_ }
  · rw [hsame row hrow hbuy]
    exact h.lots row hrow hbuy
  · have hqty : rows.map (GridFill.lotQty store' side) = rows.map (GridFill.lotQty store side) := by
      refine List.map_congr_left fun row hrow => ?_
      unfold GridFill.lotQty currentQty
      split
      · rename_i hlot
        rw [hsame row hrow hlot.2]
      · rfl
    rw [hqty]
    exact h.equal side

theorem add (h : Balanced rows merges store plans) {row : GridFill}
    (hnew : ∀ other ∈ rows, other.builderOrderId ≠ row.builderOrderId)
    (hlot : row.orderSide = .buy → row.lotId = row.builderOrderId ∧
      ∃ position ∈ store.positions row.lotId, 0 ≤ position.currentQty)
    (hqty : ∀ side, row.signedQty side = row.lotQty store side) :
    Balanced (rows ++ [row]) merges store plans where
  ids := by
    rw [List.map_append]
    refine List.Nodup.append h.ids (List.nodup_singleton _) ?_
    intro id hid hrow
    obtain ⟨other, ho, rfl⟩ := List.mem_map.mp hid
    exact hnew other ho (by simpa using hrow)
  lots := by
    intro other ho hbuy
    rcases List.mem_append.mp ho with ho | ho
    · exact h.lots other ho hbuy
    · obtain rfl : other = row := by simpa using ho
      exact hlot hbuy
  plans := by
    intro engine plan hplan
    obtain ⟨hpos, ⟨up, hup, hup'⟩, down, hdown, hdown'⟩ := h.plans engine plan hplan
    exact ⟨hpos, ⟨up, List.mem_append_left _ hup, hup'⟩, down, List.mem_append_left _ hdown, hdown'⟩
  equal := by
    intro side
    have hold := h.equal side
    simp only [fillQty, List.map_append, List.sum_append, List.map_singleton,
      List.sum_singleton] at hold ⊢
    rw [hqty side, ← hold]
    ring

theorem merge (h : Balanced rows merges store plans) {engine : ℕ}
    {plan : PositiveFlipPairlockMergePlan} (hplan : plan ∈ plans engine) (txHash : String)
    (returnedUsdc : ℚ) (hup : plan.quantity ≤ currentQty store plan.upLeg.parentBuilderOrderId)
    (hdown : plan.quantity ≤ currentQty store plan.downLeg.parentBuilderOrderId) :
    Balanced rows (merges ++ [⟨txHash, plan.quantity, returnedUsdc⟩])
      (updatePosition (updatePosition store plan.upLeg.parentBuilderOrderId
        (mergeLeg plan.quantity)) plan.downLeg.parentBuilderOrderId (mergeLeg plan.quantity))
      plans := by
  obtain ⟨h0, hupLot, hdownLot⟩ := h.plans engine plan hplan
  have hne := HasLot.ne h.ids h.lots hupLot hdownLot
  refine ⟨h.ids, h.lots.mergeLeg.mergeLeg, h.plans, fun side => ?_⟩
  have hdown' : plan.quantity ≤ currentQty (updatePosition store
      plan.upLeg.parentBuilderOrderId (mergeLeg plan.quantity))
      plan.downLeg.parentBuilderOrderId := by
    rw [currentQty, positions_updatePosition_of_ne hne]
    exact hdown
  rw [sum_mergeLeg h.ids h.lots.mergeLeg hdownLot h0 hdown',
    sum_mergeLeg h.ids h.lots hupLot h0 hup, ← h.equal side]
  cases side <;> simp [mergedQty] <;> ring

theorem record {fills : List GridFill}
    (h : Balanced (fills.map GridFill.core) merges store plans) {input : GridFill}
    (hsame : ∀ quantity ∈ recordedQty fills input.builderOrderId, quantity = input.quantity)
    (hlot : recordedQty fills input.builderOrderId = none → input.orderSide = .buy →
      input.lotId = input.builderOrderId ∧
        ∃ position ∈ store.positions input.lotId, 0 ≤ position.currentQty)
    (hqty : recordedQty fills input.builderOrderId = none →
      ∀ side, input.signedQty side = input.lotQty store side) :
    Balanced ((recordPositiveQuantityFlipGridFill input fills).map GridFill.core) merges store
      plans := by
  cases hrow : recordedQty fills input.builderOrderId with
  | some quantity =>
    have hquantity : quantity = input.quantity := hsame quantity hrow
    rw [core_record_of_same (hrow.trans (congrArg some hquantity))]
    exact h
  | none =>
    rw [record_of_new hrow, List.map_append, List.map_singleton]
    refine h.add ?_ (hlot hrow) (hqty hrow)
    intro other ho hid
    obtain ⟨row, hmem, rfl⟩ := List.mem_map.mp ho
    simp only [recordedQty, Option.map_eq_none_iff, List.find?_eq_none, decide_eq_true_eq] at hrow
    exact hrow row hmem hid

end Balanced

/-! ### Steps -/

theorem ensure_of_some {store : Store} {order : GridOrder} {report : FillReport}
    {position : TradeBuilderParentPosition} (h : store.positions order.id = some position) :
    ensurePositionFromParentFill store order report = store := by
  simp [ensurePositionFromParentFill, h]

theorem ensure_of_ne {store : Store} {order : GridOrder} {report : FillReport} {id : ℤ}
    (hne : id ≠ order.id) :
    (ensurePositionFromParentFill store order report).positions id = store.positions id := by
  unfold ensurePositionFromParentFill
  split
  · rfl
  · exact Function.update_of_ne hne _ _

theorem ensure_opens (store : Store) (order : GridOrder) (report : FillReport) :
    ∃ position ∈ (ensurePositionFromParentFill store order report).positions order.id,
      position.currentQty = openedQty store order.id report := by
  cases hp : store.positions order.id with
  | some position =>
    refine ⟨position, ?_, by simp [openedQty, hp]⟩
    rw [ensure_of_some hp, hp]
    rfl
  | none =>
    simp only [ensurePositionFromParentFill, openedQty, hp, Function.update_self]
    exact ⟨_, rfl, rfl⟩

theorem Balanced.ensure {rows : List GridFill} {merges : List GridMerge} {store : Store}
    {plans : ℕ → Option PositiveFlipPairlockMergePlan} (h : Balanced rows merges store plans)
    (order : GridOrder) (report : FillReport) :
    Balanced rows merges (ensurePositionFromParentFill store order report) plans := by
  refine h.congr_store fun row hrow hbuy => ?_
  obtain ⟨-, position, hp, -⟩ := h.lots row hrow hbuy
  by_cases hid : row.lotId = order.id
  · rw [ensure_of_some (hid ▸ hp)]
  · exact ensure_of_ne hid

theorem gridBuy_lotId (id : ℤ) (gridSide : GridSide) (intent : String) (report : FillReport) :
    (gridFill (gridBuyOrder id gridSide intent) report).lotId = id := rfl

theorem gridQty_nonneg (report : FillReport) : 0 ≤ report.gridQty := le_max_right _ _

def GridBooks.InBalance (b : GridBooks) : Prop :=
  Balanced (b.fills.map GridFill.core) b.merges b.store b.plans

theorem GridBooks.InBalance.buyFilled {b : GridBooks} (h : b.InBalance) {id : ℤ}
    {gridSide : GridSide} {intent : String} {report : FillReport} {recordFails : Bool}
    (hc : KeepsLedgersEqual b (.buyFilled id gridSide intent report recordFails)) :
    (gridStep b (.buyFilled id gridSide intent report recordFails)).InBalance := by
  have hopen := Balanced.ensure h (gridBuyOrder id gridSide intent) report
  cases recordFails with
  | true => exact hopen
  | false =>
    have hqty : report.gridQty = (recordedQty b.fills id).getD (openedQty b.store id report) := by
      simpa [KeepsLedgersEqual] using hc
    obtain ⟨position, hp, hcurrent⟩ :=
      ensure_opens b.store (gridBuyOrder id gridSide intent) report
    have hopened (hrow : recordedQty b.fills id = none) :
        position.currentQty = report.gridQty := by
      rw [hqty, hrow]
      exact hcurrent
    refine hopen.record ?_ ?_ ?_
    · intro quantity hrow
      change quantity ∈ recordedQty b.fills id at hrow
      change quantity = report.gridQty
      rw [hqty, Option.mem_def.mp hrow]
      rfl
    · intro hrow _
      refine ⟨rfl, position, hp, ?_⟩
      rw [hopened hrow]
      exact gridQty_nonneg report
    · intro hrow side
      have hlot : currentQty (ensurePositionFromParentFill b.store
          (gridBuyOrder id gridSide intent) report) id = report.gridQty := by
        change (ensurePositionFromParentFill b.store
          (gridBuyOrder id gridSide intent) report).positions id = some position at hp
        rw [currentQty, hp]
        exact hopened hrow
      unfold GridFill.signedQty GridFill.lotQty
      rw [gridBuy_lotId, hlot]
      by_cases hs : gridSide = side <;> simp [gridFill, gridBuyOrder, hs]

theorem GridBooks.InBalance.sellFilled {b : GridBooks} (h : b.InBalance) {id parentId : ℤ}
    {gridSide : GridSide} {report : FillReport} {recordFails : Bool} {replies : List Reply}
    (hc : KeepsLedgersEqual b (.sellFilled id parentId gridSide report recordFails replies)) :
    (gridStep b (.sellFilled id parentId gridSide report recordFails replies)).InBalance := by
  cases recordFails with
  | true => exact h
  | false =>
    have hqty : report.gridQty = (recordedQty b.fills id).getD 0 := by
      simpa [KeepsLedgersEqual] using hc
    refine Balanced.record h ?_ ?_ ?_
    · intro quantity hrow
      change quantity ∈ recordedQty b.fills id at hrow
      change quantity = report.gridQty
      rw [hqty, Option.mem_def.mp hrow]
      rfl
    · intro _ hbuy
      cases hbuy
    · intro hrow side
      have hzero : report.gridQty = 0 := by
        change recordedQty b.fills id = none at hrow
        simpa [hrow] using hqty
      simp [GridFill.signedQty, GridFill.lotQty, gridFill, gridSellOrder, hzero]

theorem hasLot_of_mem_lots {b : GridBooks} {lot : GridLot}
    (hlot : lot ∈ listOpenPositiveQuantityFlipGridLots b) :
    HasLot (b.fills.map GridFill.core) lot.gridSide lot.parentBuilderOrderId := by
  obtain ⟨row, hrow, heq⟩ := List.mem_filterMap.mp hlot
  obtain ⟨hmem, hbuy⟩ := List.mem_filter.mp hrow
  cases hp : b.store.positions row.lotId with
  | none => simp [hp] at heq
  | some position =>
    simp only [hp, Option.ite_none_right_eq_some, Option.some.injEq] at heq
    obtain ⟨-, rfl⟩ := heq
    exact ⟨row.core, List.mem_map_of_mem hmem, of_decide_eq_true hbuy, rfl, rfl⟩

theorem mergePlan_eq_some {config : PositiveQuantityFlipGridConfig} {up down : GridLot}
    {plan : PositiveFlipPairlockMergePlan} (h : mergePlan config up down = some plan) :
    plan.upLeg = up ∧ plan.downLeg = down ∧ 1 / 1000000 < plan.quantity ∧
      plan.quantity = floorTradeBuilderShareQty
        (max (min (min up.quantity down.quantity) config.maxUnmergedExposureUsdc) 0) := by
  unfold mergePlan at h
  cases hpair : positiveFlipPairlockPairIsProfitable up.executionPrice down.executionPrice
      config with
  | none => simp [hpair] at h
  | some pair =>
    simp only [hpair, Option.bind_eq_bind, Option.bind_some, Option.ite_none_left_eq_some,
      not_le, Option.some.injEq] at h
    obtain ⟨hpos, rfl⟩ := h
    exact ⟨rfl, rfl, hpos, rfl⟩

theorem mem_findMergePlan {lots : List GridLot} {config : PositiveQuantityFlipGridConfig}
    {plan : PositiveFlipPairlockMergePlan}
    (h : plan ∈ positiveFlipPairlockFindMergePlan lots config) :
    (plan.upLeg ∈ lots ∧ plan.upLeg.gridSide = .up) ∧
      (plan.downLeg ∈ lots ∧ plan.downLeg.gridSide = .down) ∧ 1 / 1000000 < plan.quantity ∧
        plan.quantity = floorTradeBuilderShareQty (max (min
          (min plan.upLeg.quantity plan.downLeg.quantity) config.maxUnmergedExposureUsdc) 0) := by
  unfold positiveFlipPairlockFindMergePlan at h
  split at h
  · cases h
  · obtain ⟨up, hup, hplan⟩ := List.exists_of_findSome?_eq_some h
    obtain ⟨down, hdown, hplan⟩ := List.exists_of_findSome?_eq_some hplan
    simp only [List.mem_filter, decide_eq_true_eq] at hup hdown
    obtain ⟨rfl, rfl, hpos, hquantity⟩ := mergePlan_eq_some hplan
    exact ⟨hup, hdown, hpos, hquantity⟩

theorem GridBooks.InBalance.planMerge {b : GridBooks} (h : b.InBalance) (engine : ℕ)
    (config : PositiveQuantityFlipGridConfig) :
    (gridStep b (.planMerge engine config)).InBalance := by
  refine { h with plans := fun other plan hplan => ?_ }
  by_cases heng : other = engine
  · subst heng
    have hplan' : plan ∈ positiveFlipPairlockFindMergePlan
        (listOpenPositiveQuantityFlipGridLots b) config := by
      simpa [gridStep] using hplan
    obtain ⟨⟨hup, hupSide⟩, ⟨hdown, hdownSide⟩, hpos, -⟩ := mem_findMergePlan hplan'
    have hupLot := hasLot_of_mem_lots hup
    have hdownLot := hasLot_of_mem_lots hdown
    rw [hupSide] at hupLot
    rw [hdownSide] at hdownLot
    exact ⟨by linarith, hupLot, hdownLot⟩
  · have hplan' : plan ∈ b.plans other := by simpa [gridStep, heng] using hplan
    exact h.plans other plan hplan'

theorem GridBooks.InBalance.recordMerge {b : GridBooks} (h : b.InBalance) {engine : ℕ}
    {txHash : String} {returnedUsdc : ℚ}
    (hc : KeepsLedgersEqual b (.recordMerge engine txHash returnedUsdc)) :
    (gridStep b (.recordMerge engine txHash returnedUsdc)).InBalance := by
  cases hplan : b.plans engine with
  | none => simpa [gridStep, hplan] using h
  | some plan =>
    simp only [gridStep, hplan, recordPositiveQuantityFlipGridMerge]
    split
    · exact h
    · rename_i hnew
      have hfits := (hc plan hplan).resolve_left hnew
      exact h.merge hplan txHash returnedUsdc hfits.1 hfits.2

theorem GridBooks.InBalance.gridStep {b : GridBooks} (h : b.InBalance) (e : GridEvent)
    (hc : KeepsLedgersEqual b e) : (Positions.gridStep b e).InBalance := by
  cases e with
  | buyFilled => exact h.buyFilled hc
  | sellFilled => exact h.sellFilled hc
  | planMerge engine config => exact h.planMerge engine config
  | recordMerge => exact h.recordMerge hc

theorem GridBooks.InBalance.positionQty_nonneg {b : GridBooks} (h : b.InBalance)
    (side : GridSide) : 0 ≤ positionQty b side := by
  rw [← positionQty_core]
  refine List.sum_nonneg ?_
  intro qty hqty
  obtain ⟨row, hrow, rfl⟩ := List.mem_map.mp hqty
  unfold GridFill.lotQty
  split
  · rename_i hlot
    obtain ⟨-, position, hp, hpos⟩ := h.lots row hrow hlot.2
    rw [currentQty, Option.mem_def.mp hp]
    exact hpos
  · exact le_refl 0

theorem GridBooks.InBalance.ledgersAgree {b : GridBooks} (h : b.InBalance) : LedgersAgree b := by
  intro side
  have hequal := h.equal side
  rw [fillQty_core, positionQty_core] at hequal
  have hpos := h.positionQty_nonneg side
  rw [← hequal] at hpos ⊢
  cases side <;> exact max_eq_left hpos

theorem inBalance_init (observations : ℤ → Option FirstVisibleObservation) :
    (GridBooks.init observations).InBalance where
  ids := List.nodup_nil
  lots := by simp [GridBooks.init, LotsOpen]
  plans := by simp [GridBooks.init]
  equal := by simp [GridBooks.init, fillQty, mergedQty]

theorem flip_grid_ledgers_agree (observations : ℤ → Option FirstVisibleObservation)
    (events : List GridEvent)
    (h : EachStep gridStep KeepsLedgersEqual (GridBooks.init observations) events) :
    Throughout gridStep LedgersAgree (GridBooks.init observations) events :=
  h.throughout (fun _ hb => hb.ledgersAgree) (fun _ e hb hc => hb.gridStep e hc)
    (inBalance_init observations)

/-- Two buys of ten, of which a merge takes what its exposure limit lets it. -/
def mergedGrid : List GridEvent :=
  let config : PositiveQuantityFlipGridConfig := ⟨true, 0, 1 / 100, 99 / 100, 4⟩
  [.buyFilled 1 .up "buy" { canonicalEntryQty := 10, executionPrice := 2 / 5 } false,
    .buyFilled 2 .down "buy" { canonicalEntryQty := 10, executionPrice := 1 / 2 } false,
    .planMerge 0 config, .recordMerge 0 "merge" 4]

theorem flip_grid_ledgers_agree_merged :
    Throughout gridStep LedgersAgree (GridBooks.init fun _ => none) mergedGrid ∧
      positionQty (mergedGrid.foldl gridStep (GridBooks.init fun _ => none)) .up = 6 :=
  ⟨flip_grid_ledgers_agree (fun _ => none) mergedGrid (by decide +kernel), by decide +kernel⟩

/-- The grid sells the ten shares it bought; its lot stays open for all of them. -/
def soldGrid : List GridEvent :=
  [.buyFilled 1 .up "buy" { canonicalEntryQty := 10, executionPrice := 2 / 5 } false,
    .sellFilled 2 1 .up { canonicalEntryQty := 10, executionPrice := 3 / 5 } false []]

theorem sold_lot_stays_open :
    ¬ ∀ observations events,
      Throughout gridStep LedgersAgree (GridBooks.init observations) events := by
  intro h
  have hup : (loadPositiveQuantityFlipGridState
      (soldGrid.foldl gridStep (GridBooks.init fun _ => none))).sideQty .up
        = positionQty (soldGrid.foldl gridStep (GridBooks.init fun _ => none)) .up :=
    h (fun _ => none) soldGrid 2 .up
  exact absurd hup (by decide +kernel)

theorem GridBooks.InBalance.sell_breaks {b : GridBooks} (h : b.InBalance) {id parentId : ℤ}
    {gridSide : GridSide} {report : FillReport} {replies : List Reply}
    (hnew : recordedQty b.fills id = none) (hqty : 0 < report.gridQty)
    (hheld : 0 < positionQty b gridSide) :
    ¬ LedgersAgree
      (Positions.gridStep b (.sellFilled id parentId gridSide report false replies)) := by
  intro hlaw
  have hside := hlaw gridSide
  set sell := gridFill (gridSellOrder id parentId gridSide) report
  have hfills : (Positions.gridStep b
      (.sellFilled id parentId gridSide report false replies)).fills = b.fills ++ [sell] :=
    record_of_new hnew
  have hsell : sell.signedQty gridSide = -report.gridQty := by
    simp [sell, GridFill.signedQty, gridFill, gridSellOrder]
  have hlot (side : GridSide) : sell.lotQty b.store side = 0 := by
    simp [sell, GridFill.lotQty, gridFill, gridSellOrder]
  have hfillQty : fillQty gridSide (b.fills ++ [sell]) = fillQty gridSide b.fills - report.gridQty := by
    simp [fillQty, hsell, sub_eq_add_neg]
  have hpositions : positionQty (Positions.gridStep b
      (.sellFilled id parentId gridSide report false replies)) gridSide = positionQty b gridSide := by
    rw [positionQty, hfills]
    change ((b.fills ++ [sell]).map (GridFill.lotQty b.store gridSide)).sum = _
    simp [hlot, positionQty]
  have hequal := h.equal gridSide
  rw [fillQty_core, positionQty_core] at hequal
  have hloaded : (loadPositiveQuantityFlipGridState (Positions.gridStep b
      (.sellFilled id parentId gridSide report false replies))).sideQty gridSide
        = max (positionQty b gridSide - report.gridQty) 0 := by
    rw [← hequal, sub_right_comm, ← hfillQty, ← hfills]
    cases gridSide <;> rfl
  rw [hpositions, hloaded] at hside
  rcases max_cases (positionQty b gridSide - report.gridQty) 0 with ⟨hmax, -⟩ | ⟨hmax, -⟩ <;>
    rw [hmax] at hside <;> linarith

end PolymarketBot.Positions
