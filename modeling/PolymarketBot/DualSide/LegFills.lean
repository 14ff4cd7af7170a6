import Mathlib.Algebra.Order.Field.Rat
import PolymarketBot.Lib.Runs
import PolymarketBot.Reconcile.FillRows

/-! The legs of a dual-side basket and the polls that book exchange fills to them. -/

namespace PolymarketBot.DualSide
open Reconcile

inductive LegSide where
  | yes | no
deriving DecidableEq

structure DualLegRuntime where
  side : LegSide
  tokenId : String
  qty : ℚ := 0
  avgEntry : ℚ := 0
  levelsFilled : ℕ := 0
  lastFillPrice : Option ℚ := none

structure OrderMeta where
  legSide : LegSide
  side : String
  intent : String

structure DualBasketRuntime where
  yesLeg : DualLegRuntime
  noLeg : DualLegRuntime

namespace DualBasketRuntime

def leg (basket : DualBasketRuntime) : LegSide → DualLegRuntime
  | .yes => basket.yesLeg
  | .no => basket.noLeg

def modifyLeg (basket : DualBasketRuntime) (side : LegSide)
    (f : DualLegRuntime → DualLegRuntime) : DualBasketRuntime :=
  match side with
  | .yes => { basket with yesLeg := f basket.yesLeg }
  | .no => { basket with noLeg := f basket.noLeg }

theorem leg_modifyLeg (basket : DualBasketRuntime) (side : LegSide)
    (f : DualLegRuntime → DualLegRuntime) (other : LegSide) :
    (basket.modifyLeg side f).leg other =
      if other = side then f (basket.leg side) else basket.leg other := by
  cases side <;> cases other <;> rfl

end DualBasketRuntime

def applyFillToLeg (leg : DualLegRuntime) (side : String) (price size : ℚ)
    (incrementLevel : Bool) : DualLegRuntime :=
  if side = "buy" then
    { leg with
      qty := leg.qty + size
      avgEntry :=
        if leg.qty + size > 0 then (leg.avgEntry * leg.qty + price * size) / (leg.qty + size)
        else leg.avgEntry
      levelsFilled := if incrementLevel then leg.levelsFilled + 1 else leg.levelsFilled
      lastFillPrice := some price }
  else
    { leg with
      qty := max (leg.qty - size) 0
      avgEntry := if max (leg.qty - size) 0 ≤ 0 then 0 else leg.avgEntry
      lastFillPrice := some price }

/-- What a leg holds and what it paid for it on average. -/
def DualLegRuntime.position (leg : DualLegRuntime) : ℚ × ℚ := (leg.qty, leg.avgEntry)

structure LegFill where
  orderMeta : OrderMeta
  fill : FillInfo

def LegFill.book (position : ℚ × ℚ) (x : LegFill) : ℚ × ℚ :=
  if x.orderMeta.side = "buy" then
    (position.1 + x.fill.size,
      if position.1 + x.fill.size > 0 then
        (position.2 * position.1 + x.fill.price * x.fill.size) / (position.1 + x.fill.size)
      else position.2)
  else
    (max (position.1 - x.fill.size) 0,
      if max (position.1 - x.fill.size) 0 ≤ 0 then 0 else position.2)

theorem applyFillToLeg_position (leg : DualLegRuntime) (x : LegFill) :
    (applyFillToLeg leg x.orderMeta.side x.fill.price x.fill.size false).position =
      x.book leg.position := by
  by_cases hbuy : x.orderMeta.side = "buy"
  · rw [applyFillToLeg, LegFill.book, if_pos hbuy, if_pos hbuy]
    rfl
  · rw [applyFillToLeg, LegFill.book, if_neg hbuy, if_neg hbuy]
    rfl

/-- The memory of a running basket and the tables it writes. `applied` lists the fills booked
to the legs, oldest first, and takes no part in any step. -/
structure LiveFills where
  tables : Tables := {}
  orderMeta : List (String × OrderMeta) := []
  seenFillIds : List String := []
  basket : DualBasketRuntime
  applied : List LegFill := []

/-- Whether the two database calls of a fill fail. -/
structure LegFillReply where
  lookupFails : Bool := false
  upsert : Option CallFault := none

instance : Inhabited LegFillReply := ⟨{}⟩

namespace LiveFills
variable (s : LiveFills)

def metaOf (orderId : String) : Option OrderMeta := s.orderMeta.lookup orderId

def bookFill (fill : FillInfo) (orderMeta : OrderMeta) : LiveFills :=
  { s with
    basket := s.basket.modifyLeg orderMeta.legSide fun leg =>
      applyFillToLeg leg orderMeta.side fill.price fill.size false
    applied := s.applied ++ [⟨orderMeta, fill⟩] }

/-- A fill that was not seen before, once its id is in the set. -/
def processSeenFill (fill : FillInfo) (r : LegFillReply) : Except String Unit × LiveFills :=
  match s.metaOf fill.orderId with
  | none => (.ok (), s)
  | some orderMeta =>
    if r.lookupFails then (.error "database error", s)
    else
      match s.tables.internalOrderIdByExchangeOrderId fill.orderId with
      | none => (.ok (), s)
      | some orderId =>
        let stored := { s with tables := s.tables.upsertFillByExchangeFillId (fill.row orderId) }
        match r.upsert with
        | some .refused => (.error "database error", s)
        | some .lost => (.error "database error", stored)
        | none => (.ok (), stored.bookFill fill orderMeta)

def processFill (fill : FillInfo) (r : LegFillReply) : Except String Unit × LiveFills :=
  if fill.fillId.isEmpty || fill.orderId.isEmpty then (.ok (), s)
  else if fill.fillId ∈ s.seenFillIds then (.ok (), s)
  else { s with seenFillIds := s.seenFillIds ++ [fill.fillId] }.processSeenFill fill r

/-- The loop ends at the first error, with what it has changed so far. -/
def processFills (s : LiveFills) :
    List FillInfo → List LegFillReply → Except String Unit × LiveFills
  | [], _ => (.ok (), s)
  | fill :: fills, replies =>
    match s.processFill fill (replies.headD default) with
    | (.error e, s) => (.error e, s)
    | (.ok (), s) => processFills s fills replies.tail

/-- A poll of `process_live_dual_fills`; `none` is an exchange that does not answer. -/
def processLiveDualFills (listed : Option (List FillInfo)) (replies : List LegFillReply) :
    Except String Unit × LiveFills :=
  match listed with
  | none => (.error "exchange error", s)
  | some fills => s.processFills fills replies

/-- The end of `place_live_leg_order`: the order's row is written, then its metadata is kept.
Where the reply of the first is lost the second does not follow. -/
def placed (row : OrderRow) (orderMeta : OrderMeta) (fault : Option CallFault) : LiveFills :=
  let written := { s with tables := s.tables.upsertOrderByExchangeId row }
  match fault with
  | some .refused => s
  | some .lost => written
  | none => { written with orderMeta := (row.exchangeOrderId, orderMeta) :: s.orderMeta }

/-- What `maybe_live_leg_dca` does to a leg whose order it placed. -/
def leveled (side : LegSide) (price : ℚ) : LiveFills :=
  { s with
    basket := s.basket.modifyLeg side fun leg =>
      { leg with levelsFilled := leg.levelsFilled + 1, lastFillPrice := some price } }

end LiveFills

end PolymarketBot.DualSide
