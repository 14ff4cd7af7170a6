import Mathlib.Tactic.Linarith
import PolymarketBot.Lib.Runs
import PolymarketBot.Positions.Inventory

/-! The two ledgers of one flip-grid node and market: the recorded fills and merges that its
state is loaded from, and the parent positions that are its open lots. -/

namespace PolymarketBot.Positions
open Lib Builder Lib.Runs

inductive GridSide | up | down
  deriving DecidableEq, Repr

/-- A row of the fill table; `intent` is read off its payload. -/
structure GridFill where
  builderOrderId : ℤ
  parentBuilderOrderId : Option ℤ
  gridSide : GridSide
  orderSide : Side
  intent : String
  quantity : ℚ
  executionPrice : ℚ
  notionalUsdc : ℚ
  deriving DecidableEq, Repr

structure GridMerge where
  txHash : String
  quantity : ℚ
  returnedUsdc : ℚ
  deriving DecidableEq, Repr

structure GridLot where
  parentBuilderOrderId : ℤ
  gridSide : GridSide
  intent : String
  quantity : ℚ
  executionPrice : ℚ
  notionalUsdc : ℚ
  deriving DecidableEq, Repr

structure PositiveFlipPairlockMergePlan where
  upLeg : GridLot
  downLeg : GridLot
  quantity : ℚ
  pairCost : ℚ
  lockedProfitPerShare : ℚ
  deriving DecidableEq, Repr

structure PositiveQuantityFlipGridConfig where
  pairlockCompressionEnabled : Bool
  feeBuffer : ℚ
  targetPairlockProfit : ℚ
  maxPairCost : ℚ
  maxUnmergedExposureUsdc : ℚ

/-- What the finalizer and the recorder read of an order of the grid. -/
structure GridOrder where
  id : ℤ
  side : Side
  kind : OrderKind
  parentOrderId : Option ℤ
  gridSide : GridSide
  intent : String

/-- `positive_quantity_flip_grid_buy_node` and the order placed from it. -/
def gridBuyOrder (id : ℤ) (gridSide : GridSide) (intent : String) : GridOrder :=
  ⟨id, .buy, .immediate, none, gridSide, intent⟩

/-- `positive_quantity_flip_grid_sell_node` and the order placed from it: an internal sell is
always immediate. -/
def gridSellOrder (id parentBuilderOrderId : ℤ) (gridSide : GridSide) : GridOrder :=
  ⟨id, .sell, .immediate, some parentBuilderOrderId, gridSide, "sell"⟩

def GridOrder.isChildExitSell (order : GridOrder) : Bool :=
  order.parentOrderId.isSome && order.side == .sell && order.kind == .conditional

/-- What the finalizer of a fill is called with. -/
structure FillReport where
  canonicalEntryQty : ℚ
  cumulative : Bool := false
  actualFillQty : Option ℚ := none
  actualFillQtySource : Option String := none
  executionPrice : ℚ
  deriving DecidableEq, Repr

namespace FillReport
variable (report : FillReport)

def canonical : ℚ := roundTradeBuilderShareQty report.canonicalEntryQty

def actual : Option ℚ := normalizeTradeBuilderTerminalFillQtyCandidate report.actualFillQty

def persisted : Option ℚ := if report.cumulative then some report.canonical else report.actual

def gridQty : ℚ := max (report.actual.getD report.canonical) 0

end FillReport

structure GridBooks where
  fills : List GridFill
  merges : List GridMerge
  store : Store
  plans : ℕ → Option PositiveFlipPairlockMergePlan

/-- `ON CONFLICT (builder_order_id) DO UPDATE`. -/
def recordPositiveQuantityFlipGridFill (input : GridFill) : List GridFill → List GridFill
  | [] => [input]
  | row :: rows =>
    if row.builderOrderId = input.builderOrderId then
      { row with quantity := input.quantity, executionPrice := input.executionPrice
                 notionalUsdc := input.notionalUsdc } :: rows
    else row :: recordPositiveQuantityFlipGridFill input rows

def resolveFillParentBuilderOrderId (order : GridOrder) : Option ℤ :=
  order.parentOrderId.or (if order.side = .buy then some order.id else none)

def gridFill (order : GridOrder) (report : FillReport) : GridFill where
  builderOrderId := order.id
  parentBuilderOrderId := resolveFillParentBuilderOrderId order
  gridSide := order.gridSide
  orderSide := order.side
  intent := order.intent
  quantity := report.gridQty
  executionPrice := clampProbability (max report.executionPrice 0)
  notionalUsdc := report.gridQty * max report.executionPrice 0

structure PositiveQuantityFlipGridState where
  upQty : ℚ
  downQty : ℚ
  totalBuyCost : ℚ
  totalSellRevenue : ℚ
  totalMergeReturn : ℚ
  netCost : ℚ
  buyCount : ℕ
  deriving DecidableEq, Repr

def GridFill.signedQty (side : GridSide) (row : GridFill) : ℚ :=
  if row.gridSide = side then if row.orderSide = .buy then row.quantity else -row.quantity else 0

def fillQty (side : GridSide) (fills : List GridFill) : ℚ :=
  (fills.map (GridFill.signedQty side)).sum

def mergedQty (merges : List GridMerge) : ℚ := (merges.map GridMerge.quantity).sum

def loadPositiveQuantityFlipGridState (b : GridBooks) : PositiveQuantityFlipGridState :=
  let notional (side : Side) : ℚ :=
    ((b.fills.filter (·.orderSide = side)).map GridFill.notionalUsdc).sum
  let returned := (b.merges.map GridMerge.returnedUsdc).sum
  { upQty := max (fillQty .up b.fills - mergedQty b.merges) 0
    downQty := max (fillQty .down b.fills - mergedQty b.merges) 0
    totalBuyCost := notional .buy
    totalSellRevenue := notional .sell
    totalMergeReturn := returned
    netCost := notional .buy - notional .sell - returned
    buyCount := (b.fills.filter (·.orderSide = .buy)).length }

def PositiveQuantityFlipGridState.sideQty (state : PositiveQuantityFlipGridState) :
    GridSide → ℚ
  | .up => state.upQty
  | .down => state.downQty

/-- The position that a buy's row is joined with. -/
def GridFill.lotId (row : GridFill) : ℤ := row.parentBuilderOrderId.getD row.builderOrderId

def listOpenPositiveQuantityFlipGridLots (b : GridBooks) : List GridLot :=
  (b.fills.filter (·.orderSide = .buy)).filterMap fun row =>
    match b.store.positions row.lotId with
    | some position =>
      if 1 / 10000 < position.currentQty then
        some ⟨row.lotId, row.gridSide, row.intent, position.currentQty, row.executionPrice,
          row.notionalUsdc⟩
      else none
    | none => none

def positiveFlipPairlockPairIsProfitable (matchedPrice newPrice : ℚ)
    (config : PositiveQuantityFlipGridConfig) : Option (ℚ × ℚ) :=
  let pairCost := matchedPrice + newPrice
  let lockedProfit := 1 - pairCost - config.feeBuffer
  if config.targetPairlockProfit ≤ lockedProfit + 1 / 1000000 ∧
      pairCost ≤ config.maxPairCost + 1 / 1000000 then some (pairCost, lockedProfit) else none

def mergePlan (config : PositiveQuantityFlipGridConfig) (up down : GridLot) :
    Option PositiveFlipPairlockMergePlan := do
  let (pairCost, lockedProfit) ←
    positiveFlipPairlockPairIsProfitable up.executionPrice down.executionPrice config
  let quantity := floorTradeBuilderShareQty
    (max (min (min up.quantity down.quantity) config.maxUnmergedExposureUsdc) 0)
  if quantity ≤ 1 / 1000000 then none else some ⟨up, down, quantity, pairCost, lockedProfit⟩

/-- The first profitable pair, the up lots in the outer loop. -/
def positiveFlipPairlockFindMergePlan (lots : List GridLot)
    (config : PositiveQuantityFlipGridConfig) : Option PositiveFlipPairlockMergePlan :=
  if !config.pairlockCompressionEnabled || config.maxUnmergedExposureUsdc ≤ 0 then none
  else
    (lots.filter (·.gridSide = .up)).findSome? fun up =>
      (lots.filter (·.gridSide = .down)).findSome? (mergePlan config up)

/-- An existing row stays as it is; a first one opens with the seed or canonical quantity. -/
def ensurePositionFromParentFill (store : Store) (order : GridOrder) (report : FillReport) :
    Store :=
  match store.positions order.id with
  | some _ => store
  | none =>
    let seed := (store.observations order.id).map FirstVisibleObservation.seed
    let (seedQty, source) := tradeBuilderParentPositionSeedQty seed report.canonical
    let position : TradeBuilderParentPosition :=
      { baselineQty := seedQty, currentQty := seedQty
        lastFillQty := normalizeTradeBuilderTerminalFillQtyCandidate (some report.canonical)
        lastFillPrice := (seed.bind fun seed =>
          normalizeTradeBuilderReferencePrice seed.referencePrice).or
            (normalizeTradeBuilderReferencePrice (some report.executionPrice))
        qtySource := match source, report.actualFillQtySource with
          | .canonicalEntryQty, some text => .parentFill text
          | source, _ => source }
    { store with positions := Function.update store.positions order.id (some position) }

/-- The finalizer, as far as it writes either ledger: the position of a buy, the grid's record
(its error is only logged), and the parent's position for an exit child. -/
def finalizeBuilderFill (b : GridBooks) (order : GridOrder) (report : FillReport)
    (recordFails : Bool) (replies : List Reply) : GridBooks :=
  let store := if order.side = .buy then ensurePositionFromParentFill b.store order report
    else b.store
  let fills := if recordFails then b.fills
    else recordPositiveQuantityFlipGridFill (gridFill order report) b.fills
  let store := match order.parentOrderId with
    | some parentId =>
      if order.isChildExitSell then
        ((applyTradeBuilderParentPositionChildFill parentId
          (report.persisted.or (some report.canonical)) report.executionPrice
          report.actualFillQtySource).exec act replies store).2
      else store
    | none => store
  { b with fills, store }

def mergeLeg (quantity : ℚ) (position : TradeBuilderParentPosition) :
    TradeBuilderParentPosition :=
  { position with
    currentQty := max 0 (position.currentQty - max quantity 0)
    lastFillQty := some (max quantity 0)
    lastFillPrice := none
    qtySource := .parentFill "positive_flip_pairlock_merge" }

def updatePosition (store : Store) (id : ℤ)
    (f : TradeBuilderParentPosition → TradeBuilderParentPosition) : Store :=
  { store with positions := Function.update store.positions id ((store.positions id).map f) }

/-- One transaction; a transaction hash is recorded once. -/
def recordPositiveQuantityFlipGridMerge (b : GridBooks) (plan : PositiveFlipPairlockMergePlan)
    (txHash : String) (returnedUsdc : ℚ) : GridBooks :=
  if b.merges.any (·.txHash = txHash) then b
  else
    let store := updatePosition b.store plan.upLeg.parentBuilderOrderId (mergeLeg plan.quantity)
    let store := updatePosition store plan.downLeg.parentBuilderOrderId (mergeLeg plan.quantity)
    { b with merges := b.merges ++ [⟨txHash, plan.quantity, returnedUsdc⟩], store }

inductive GridEvent
  | buyFilled (id : ℤ) (gridSide : GridSide) (intent : String) (report : FillReport)
      (recordFails : Bool)
  | sellFilled (id parentId : ℤ) (gridSide : GridSide) (report : FillReport) (recordFails : Bool)
      (replies : List Reply)
  | planMerge (engine : ℕ) (config : PositiveQuantityFlipGridConfig)
  | recordMerge (engine : ℕ) (txHash : String) (returnedUsdc : ℚ)

def gridStep (b : GridBooks) : GridEvent → GridBooks
  | .buyFilled id gridSide intent report recordFails =>
    finalizeBuilderFill b (gridBuyOrder id gridSide intent) report recordFails []
  | .sellFilled id parentId gridSide report recordFails replies =>
    finalizeBuilderFill b (gridSellOrder id parentId gridSide) report recordFails replies
  | .planMerge engine config =>
    let plan := positiveFlipPairlockFindMergePlan (listOpenPositiveQuantityFlipGridLots b) config
    { b with plans := Function.update b.plans engine plan }
  | .recordMerge engine txHash returnedUsdc =>
    match b.plans engine with
    | some plan => recordPositiveQuantityFlipGridMerge b plan txHash returnedUsdc
    | none => b

def GridBooks.init (observations : ℤ → Option FirstVisibleObservation) : GridBooks :=
  ⟨[], [], { observations }, fun _ => none⟩

def currentQty (store : Store) (id : ℤ) : ℚ := ((store.positions id).map (·.currentQty)).getD 0

def GridFill.lotQty (store : Store) (side : GridSide) (row : GridFill) : ℚ :=
  if row.gridSide = side ∧ row.orderSide = .buy then currentQty store row.lotId else 0

def positionQty (b : GridBooks) (side : GridSide) : ℚ :=
  (b.fills.map (GridFill.lotQty b.store side)).sum

def LedgersAgree (b : GridBooks) : Prop :=
  ∀ side, (loadPositiveQuantityFlipGridState b).sideQty side = positionQty b side

end PolymarketBot.Positions
