import Mathlib.Data.Rat.Floor
import PolymarketBot.DualSide.LegFillsKept
import PolymarketBot.Lib.Grid

/-! The sells a dual-side basket places: a leg's take profit and the flattening of the basket,
with the exchange that accepts and fills them. -/

namespace PolymarketBot.DualSide
open Lib Reconcile

def legTakeProfitPrice (avgEntry legTpPct : ℚ) : ℚ :=
  roundHalfAway (avgEntry * (1 + legTpPct) * 10000) / 10000

def shouldLegTakeProfit (leg : DualLegRuntime) (currentPrice legTpPct : ℚ) : Bool :=
  if leg.qty ≤ 0 ∨ leg.avgEntry ≤ 0 then false
  else currentPrice ≥ legTakeProfitPrice leg.avgEntry legTpPct

def formatPrice (price : ℚ) : String :=
  let units := (roundHalfEven (price * 10000)).toNat
  let digits := toString (units % 10000)
  toString (units / 10000) ++ "." ++
    String.ofList (List.replicate (4 - digits.length) '0') ++ digits

def legSideLabel : LegSide → String
  | .yes => "yes"
  | .no => "no"

def legTpKey (tradeId : ℤ) (side : LegSide) (price : ℚ) : String :=
  "trade:" ++ toString tradeId ++ ":leg_tp:" ++ legSideLabel side ++ ":" ++ formatPrice price

def flattenKey (tradeId : ℤ) (reason : String) : String :=
  "trade:" ++ toString tradeId ++ ":flatten:" ++ reason

/-- An order the exchange has accepted; an order of another account has no leg. -/
structure LegOrder where
  exchangeOrderId : String
  leg : Option LegSide
  side : String
  size : ℚ

/-- The basket's memory and tables beside the exchange: its accepted orders and their fills. -/
structure LegMarket extends LiveFills where
  exchange : List LegOrder := []
  fills : List FillInfo := []

/-- What the environment decides about a placement: the ids of the exchange and of the client,
whether the order is accepted, whether the answer names the exchange id, and which of the two
calls fails. -/
structure PlaceReply where
  exchangeOrderId : String
  clientOrderId : String
  accepted : Bool := true
  named : Bool := true
  submit : Option CallFault := none
  row : Option CallFault := none

/-- Replies of an exit: of the insert of its key, and of the placement. -/
structure ExitReply where
  key : Option CallFault := none
  place : PlaceReply

def qtyOf (fills : List FillInfo) (orderId : String) : ℚ :=
  (fills.map fun f => if f.orderId = orderId then f.size else 0).sum

namespace LegMarket
variable (w : LegMarket)

def FreshIds (r : PlaceReply) : Prop :=
  ∀ id ∈ [r.exchangeOrderId, r.clientOrderId],
    id ∉ w.exchange.map LegOrder.exchangeOrderId ∧ w.metaOf id = none

instance (r : PlaceReply) : Decidable (w.FreshIds r) := by unfold FreshIds; infer_instance

def goLive (order : LegOrder) : LegMarket := { w with exchange := w.exchange ++ [order] }

def placed (row : OrderRow) (orderMeta : OrderMeta) (fault : Option CallFault) : LegMarket :=
  { w with toLiveFills := w.toLiveFills.placed row orderMeta fault }

def sendOrder (legSide : LegSide) (side : String) (size : ℚ) (r : PlaceReply) : LegMarket :=
  if r.accepted then w.goLive ⟨r.exchangeOrderId, some legSide, side, size⟩ else w

/-- The row of an answered order is written and its metadata kept. -/
def keepOrder (tradeId : ℤ) (legSide : LegSide) (side intent : String) (price size : ℚ)
    (r : PlaceReply) : Except String Unit × LegMarket :=
  let row : OrderRow :=
    { tradeId
      exchangeOrderId := if r.named then r.exchangeOrderId else r.clientOrderId
      clientOrderId := some r.clientOrderId
      intent
      side
      price
      size
      status := if r.accepted then "live" else "rejected" }
  (if r.row = none then .ok () else .error "database error",
    w.placed row ⟨legSide, side, intent⟩ r.row)

/-- `place_live_leg_order`. An exchange without a fresh id for the order refuses it. -/
def placeLiveLegOrder (tradeId : ℤ) (legSide : LegSide) (side intent : String) (price size : ℚ)
    (r : PlaceReply) : Except String Unit × LegMarket :=
  if size ≤ 0 then (.ok (), w)
  else if ¬ w.FreshIds r ∨ r.submit = some .refused then (.error "exchange error", w)
  else if r.submit = some .lost then (.error "exchange error", w.sendOrder legSide side size r)
  else (w.sendOrder legSide side size r).keepOrder tradeId legSide side intent price size r

def recordKey (eventKey : String) : LegMarket :=
  { w with toLiveFills :=
      { w.toLiveFills with tables := w.tables.tryRecordIdempotencyKey eventKey } }

def legTakeProfit (tradeId : ℤ) (legTpPct : ℚ) (side : LegSide) (price : ℚ) (r : ExitReply) :
    Except String Unit × LegMarket :=
  if shouldLegTakeProfit (w.basket.leg side) price legTpPct then
    let eventKey := legTpKey tradeId side price
    match r.key with
    | some .refused => (.error "database error", w)
    | some .lost => (.error "database error", w.recordKey eventKey)
    | none =>
      if eventKey ∉ w.tables.keys ∧ 0 < (w.basket.leg side).qty then
        (w.recordKey eventKey).placeLiveLegOrder tradeId side "sell" "leg_tp" price
          (w.basket.leg side).qty r.place
      else (.ok (), w.recordKey eventKey)
  else (.ok (), w)

def maybeLiveLegTp (tradeId : ℤ) (legTpPct yesPrice noPrice : ℚ) (yes no : ExitReply) :
    Except String Unit × LegMarket :=
  match w.legTakeProfit tradeId legTpPct .yes yesPrice yes with
  | (.error e, w) => (.error e, w)
  | (.ok (), w) => w.legTakeProfit tradeId legTpPct .no noPrice no

/-- One leg of a flattened basket; a failed placement is logged. -/
def flattenLeg (tradeId : ℤ) (side : LegSide) (price : ℚ) (r : PlaceReply) : LegMarket :=
  if 0 < (w.basket.leg side).qty then
    (w.placeLiveLegOrder tradeId side "sell" "basket_exit" price (w.basket.leg side).qty r).2
  else w

/-- The flattening of the basket for a reason, once for each reason. -/
def flattenBasket (tradeId : ℤ) (reason : String) (yesPrice noPrice : ℚ)
    (key : Option CallFault) (yes no : PlaceReply) : LegMarket :=
  let eventKey := flattenKey tradeId reason
  match key with
  | some .refused => w
  | some .lost => w.recordKey eventKey
  | none =>
    if eventKey ∉ w.tables.keys then
      ((w.recordKey eventKey).flattenLeg tradeId .yes yesPrice yes).flattenLeg tradeId .no noPrice
        no
    else w.recordKey eventKey

def filledQty (orderId : String) : ℚ := qtyOf w.fills orderId

/-- The fills of an order that are booked to its leg. -/
def bookedQty (orderId : String) : ℚ := qtyOf (w.applied.map LegFill.fill) orderId

def unfilledQty (order : LegOrder) : ℚ := order.size - w.filledQty order.exchangeOrderId

def unbookedQty (order : LegOrder) : ℚ := order.size - w.bookedQty order.exchangeOrderId

def legSells (side : LegSide) : List LegOrder :=
  w.exchange.filter fun order => order.leg = some side ∧ order.side ≠ "buy"

/-- Shares of the leg in accepted sells that are not filled. -/
def openSellQty (side : LegSide) : ℚ := ((w.legSells side).map w.unfilledQty).sum

/-- The accepted, unfilled sells of a leg are covered by its quantity. -/
def NoOversell : Prop := ∀ side, w.openSellQty side ≤ (w.basket.leg side).qty

def Settled (side : LegSide) : Prop := ∀ order ∈ w.legSells side, w.unbookedQty order = 0

instance (side : LegSide) : Decidable (w.Settled side) := by unfold Settled; infer_instance

/-- An order of this account or another is filled in part; the exchange does not fill more of
an order than is left of it. -/
def fillOrder (fill : FillInfo) : LegMarket :=
  if 0 ≤ fill.size ∧ fill.fillId ∉ w.fills.map FillInfo.fillId ∧
      ∃ order ∈ w.exchange, order.exchangeOrderId = fill.orderId ∧ fill.size ≤ w.unfilledQty order
  then { w with fills := w.fills ++ [fill] }
  else w

def foreignOrder (orderId side : String) (size : ℚ) : LegMarket :=
  if orderId ∉ w.exchange.map LegOrder.exchangeOrderId ∧ w.metaOf orderId = none then
    w.goLive ⟨orderId, none, side, size⟩
  else w

/-- The fills of the exchange under their ids; an unknown id has no order. -/
def source (fills : List FillInfo) : FillSource where
  fill id := (fills.find? (·.fillId = id)).getD { fillId := id, orderId := "", price := 0, size := 0 }
  named id := by
    cases h : fills.find? (·.fillId = id) with
    | none => rfl
    | some fill => simpa using List.find?_some h

end LegMarket

/-- What happens to a basket: its own exits and buys, its polls, and the exchange. -/
inductive ExitEvent where
  | maybeLiveLegTp (yesPrice noPrice : ℚ) (yes no : ExitReply)
  | flatten (reason : String) (yesPrice noPrice : ℚ) (key : Option CallFault) (yes no : PlaceReply)
  | buy (side : LegSide) (intent : String) (price size : ℚ) (r : PlaceReply)
  | leveled (side : LegSide) (price : ℚ)
  | poll (listed : Option (List String)) (replies : List LegFillReply)
  | fillOrder (fill : FillInfo)
  | foreignOrder (orderId side : String) (size : ℚ)

def LegMarket.step (tradeId : ℤ) (legTpPct : ℚ) (w : LegMarket) : ExitEvent → LegMarket
  | .maybeLiveLegTp yesPrice noPrice yes no =>
    (w.maybeLiveLegTp tradeId legTpPct yesPrice noPrice yes no).2
  | .flatten reason yesPrice noPrice key yes no =>
    w.flattenBasket tradeId reason yesPrice noPrice key yes no
  | .buy side intent price size r =>
    (w.placeLiveLegOrder tradeId side "buy" intent price size r).2
  | .leveled side price => { w with toLiveFills := w.toLiveFills.leveled side price }
  | .poll listed replies =>
    { w with toLiveFills :=
        w.toLiveFills.step (LegMarket.source w.fills) (.poll listed replies) }
  | .fillOrder fill => w.fillOrder fill
  | .foreignOrder orderId side size => w.foreignOrder orderId side size

end PolymarketBot.DualSide
