import Mathlib.Data.Rat.Floor
import PolymarketBot.Flow.Json
import PolymarketBot.Lib.Grid
import PolymarketBot.Lib.Text
import PolymarketBot.Reconcile.FillRows

/-! A page of the exchange's trades: how one trade becomes the fills of its orders, and when
the fills of a page have ids of their own and the sizes the trades name. -/

namespace PolymarketBot.Exchange
open Flow Lib

def parseF64Value : Value → Option ℚ
  | .number n => some n.asF64
  | .string s => parseDecimal s
  | _ => none

/-- A number that is no integer is rounded, half away from zero, and kept in range. -/
def parseI64Value : Value → Option ℤ
  | .number n => some (max (-2 ^ 63) (min (2 ^ 63 - 1) (roundHalfAway n.asF64)))
  | .string s => parseI64 s
  | _ => none

def asArray : Option Value → List Value
  | some (.array vs) => vs
  | _ => []

/-- The first of these members that is a string. -/
def valueString (raw : Value) (keys : List String) : Option String :=
  keys.findSome? fun key => (raw.get key).bind Value.asStr

/-- The first of these members, whatever it is. -/
def valueOf (raw : Value) (keys : List String) : Option Value :=
  keys.findSome? raw.get

def tradeRowTimestamp (raw : Value) : Option ℤ :=
  ["timestamp", "match_time", "matchTime", "last_update", "lastUpdate"].findSome? fun key =>
    (raw.get key).bind parseI64Value

structure FillInfo extends Reconcile.FillInfo where
  rawPayload : Option Value

def f64Or (default : ℚ) (value : Option Value) : ℚ := (value.bind parseF64Value).getD default

def tradeId (raw : Value) : String := (valueString raw ["id", "fillID", "fill_id"]).getD ""

def composedFillId (tradeId orderId : String) : String :=
  if tradeId = "" then orderId else tradeId ++ ":" ++ orderId

def matchesTarget (target : Option String) (orderId : String) : Bool := target.all (orderId = ·)

def pushFillIfTargetMatches (fills : List FillInfo) (fill : FillInfo) (target : Option String) :
    List FillInfo :=
  if matchesTarget target fill.orderId then fills ++ [fill] else fills

/-- The fill of the order a trade is listed for, under this id. -/
def ownFill (raw : Value) (fillId orderId : String) : FillInfo :=
  { fillId, orderId
    price := f64Or 0 (raw.get "price")
    size := f64Or 0 (raw.get "size")
    fee := (raw.get "fee").bind parseF64Value
    ts := tradeRowTimestamp raw
    rawPayload := some raw }

def makerOrders (raw : Value) : List Value := asArray (valueOf raw ["maker_orders", "makerOrders"])

def makerSize (makerOrder : Value) : ℚ :=
  f64Or 0 (valueOf makerOrder ["matched_amount", "matchedAmount", "size"])

def makerOrderId (makerOrder : Value) : Option String :=
  valueString makerOrder ["order_id", "orderID", "id"]

def makerFill (raw makerOrder : Value) (orderId : String) : FillInfo :=
  { fillId := composedFillId (tradeId raw) orderId, orderId
    price := f64Or (f64Or 0 (raw.get "price")) (makerOrder.get "price")
    size := makerSize makerOrder
    fee := ((makerOrder.get "fee").bind parseF64Value).or ((raw.get "fee").bind parseF64Value)
    ts := tradeRowTimestamp raw
    rawPayload := some raw }

def pushMakerFill (raw : Value) (target : Option String) (fills : List FillInfo)
    (makerOrder : Value) : List FillInfo :=
  match makerOrderId makerOrder with
  | none => fills
  | some orderId => pushFillIfTargetMatches fills (makerFill raw makerOrder orderId) target

/-- A trade that names its order has that one fill; any other has a fill for its taker and
one for each entry of its makers. -/
def parseClobTradeRowToFills (raw : Value) (target : Option String) : List FillInfo :=
  match valueString raw ["orderID", "order_id"] with
  | some orderId => pushFillIfTargetMatches [] (ownFill raw (tradeId raw) orderId) target
  | none =>
    let taker := match valueString raw ["taker_order_id", "takerOrderId"] with
      | some orderId => pushFillIfTargetMatches []
          (ownFill raw (composedFillId (tradeId raw) orderId) orderId) target
      | none => []
    (makerOrders raw).foldl (pushMakerFill raw target) taker

def tradeRows (raw : Value) : List Value := asArray (valueOf raw ["data", "trades"])

structure FillPage where
  fills : List FillInfo
  nextCursor : Option String
  count : Option ℕ
  rawCount : ℕ
  firstRowKeys : List String

def asU64 : Value → Option ℕ
  | .number (.int z) => if 0 ≤ z ∧ z < 2 ^ 64 then some z.toNat else none
  | _ => none

def parseClobTradePage (raw : Value) (target : Option String) : FillPage :=
  { fills := (tradeRows raw).flatMap fun row => parseClobTradeRowToFills row target
    nextCursor := (valueOf raw ["next_cursor", "nextCursor"]).bind Value.asStr
    count := (raw.get "count").bind asU64
    rawCount := (tradeRows raw).length
    firstRowKeys := ((tradeRows raw).head?.map fun row => row.fields.map Prod.fst).getD [] }

/-! ### What the trades say -/

/-- A part of a trade that names an order: the trade, the order, and how much of it is
matched. The order of a `direct` entry is the one the trade is listed for. -/
structure TradeEntry where
  tradeId : String
  orderId : String
  size : ℚ
  direct : Bool

def ownEntry (raw : Value) : Option TradeEntry :=
  match valueString raw ["orderID", "order_id"] with
  | some orderId => some ⟨tradeId raw, orderId, f64Or 0 (raw.get "size"), true⟩
  | none => (valueString raw ["taker_order_id", "takerOrderId"]).map fun orderId =>
      ⟨tradeId raw, orderId, f64Or 0 (raw.get "size"), false⟩

def makerEntries (raw : Value) : List TradeEntry :=
  (makerOrders raw).filterMap fun makerOrder => (makerOrderId makerOrder).map fun orderId =>
    ⟨tradeId raw, orderId, makerSize makerOrder, false⟩

def tradeEntries (raw : Value) : List TradeEntry := (ownEntry raw).toList ++ makerEntries raw

/-- Whether a trade names the order it is listed for. -/
def isDirect (raw : Value) : Bool := (valueString raw ["orderID", "order_id"]).isSome

/-- What the parse reads of it: the makers beside a direct entry are left out. -/
def readEntries (raw : Value) : List TradeEntry :=
  (ownEntry raw).toList ++ if isDirect raw then [] else makerEntries raw

def sizeFor (orderId : String) (entries : List TradeEntry) : ℚ :=
  ((entries.filter (·.orderId = orderId)).map TradeEntry.size).sum

def filledSize (orderId : String) (fills : List FillInfo) : ℚ :=
  ((fills.filter (·.orderId = orderId)).map (·.size)).sum

def TradeEntry.fillId (e : TradeEntry) : String :=
  if e.direct then e.tradeId else composedFillId e.tradeId e.orderId

def TradeEntry.matches (target : Option String) (e : TradeEntry) : Bool :=
  matchesTarget target e.orderId

/-- A direct entry's trade is spelled like the id of a composed one. -/
def SpelledLike (text : String) (e : TradeEntry) : Prop :=
  (e.tradeId = "" ∧ text = e.orderId) ∨ (e.tradeId ≠ "" ∧ text = e.tradeId ++ ":" ++ e.orderId)

/-- The trade of one entry goes on past a colon into the order of the other. -/
def Overlaps (a b : TradeEntry) : Prop :=
  a.tradeId ≠ "" ∧ ∃ x, b.tradeId = a.tradeId ++ ":" ++ x ∧ a.orderId = x ++ ":" ++ b.orderId

/-- Two entries whose fills get one id: direct entries of one trade, entries of one order in
one trade, and entries whose ids only spell the same. -/
def SameFill (a b : TradeEntry) : Prop :=
  match a.direct, b.direct with
  | true, true => a.tradeId = b.tradeId
  | true, false => SpelledLike a.tradeId b
  | false, true => SpelledLike b.tradeId a
  | false, false => (a.tradeId = b.tradeId ∧ a.orderId = b.orderId) ∨
      (a.tradeId = "" ∧ b.tradeId ≠ "" ∧ SpelledLike a.orderId b) ∨
      (b.tradeId = "" ∧ a.tradeId ≠ "" ∧ SpelledLike b.orderId a) ∨ Overlaps a b ∨ Overlaps b a

theorem composedFillId_of_ne {t : String} (h : t ≠ "") (o : String) :
    composedFillId t o = t ++ ":" ++ o := if_neg h

theorem eq_composedFillId_iff (text : String) (e : TradeEntry) :
    text = composedFillId e.tradeId e.orderId ↔ SpelledLike text e := by
  unfold composedFillId SpelledLike
  by_cases h : e.tradeId = "" <;> simp [h]

theorem toList_joined (t o : String) : (t ++ ":" ++ o).toList = t.toList ++ ':' :: o.toList := by
  simp [String.toList_append]

theorem joined_text_iff (a b c d : String) :
    a ++ ":" ++ b = c ++ ":" ++ d ↔ (a = c ∧ b = d) ∨
      (∃ x, c = a ++ ":" ++ x ∧ b = x ++ ":" ++ d) ∨
        ∃ x, a = c ++ ":" ++ x ∧ d = x ++ ":" ++ b := by
  have htext (s t : String) : s = t ↔ s.toList = t.toList := String.toList_inj.symm
  have hexists (s u v w : String) :
      (∃ x, s = u ++ ":" ++ x ∧ v = x ++ ":" ++ w) ↔
        ∃ x, s.toList = u.toList ++ ':' :: x ∧ v.toList = x ++ ':' :: w.toList := by
    constructor
    · rintro ⟨x, rfl, rfl⟩
      exact ⟨x.toList, toList_joined _ _, toList_joined _ _⟩
    · rintro ⟨x, hs, hv⟩
      refine ⟨String.ofList x, ?_, ?_⟩ <;> simp [htext, hs, hv]
  rw [htext, toList_joined, toList_joined, Text.joined_eq_iff, hexists, hexists, ← htext, ← htext]

theorem composed_eq_iff (a b : TradeEntry) :
    composedFillId a.tradeId a.orderId = composedFillId b.tradeId b.orderId ↔
      (a.tradeId = b.tradeId ∧ a.orderId = b.orderId) ∨
      (a.tradeId = "" ∧ b.tradeId ≠ "" ∧ SpelledLike a.orderId b) ∨
      (b.tradeId = "" ∧ a.tradeId ≠ "" ∧ SpelledLike b.orderId a) ∨ Overlaps a b ∨
        Overlaps b a := by
  by_cases ha : a.tradeId = "" <;> by_cases hb : b.tradeId = ""
  · simp [composedFillId, ha, hb, Overlaps]
  · have hself : composedFillId a.tradeId a.orderId = a.orderId := if_pos ha
    rw [hself, eq_composedFillId_iff]
    simp [ha, hb, Ne.symm hb, Overlaps]
  · have hself : composedFillId b.tradeId b.orderId = b.orderId := if_pos hb
    rw [hself, eq_comm, eq_composedFillId_iff]
    simp [ha, hb, Overlaps]
  · rw [composedFillId_of_ne ha, composedFillId_of_ne hb, joined_text_iff]
    simp [ha, hb, Overlaps]

theorem fillId_eq_iff (a b : TradeEntry) : a.fillId = b.fillId ↔ SameFill a b := by
  unfold TradeEntry.fillId SameFill
  cases a.direct <;> cases b.direct
  · simpa using composed_eq_iff a b
  · simpa [eq_comm] using eq_composedFillId_iff b.tradeId a
  · simpa using eq_composedFillId_iff a.tradeId b
  · simp

/-! ### The fills of a page are its entries -/

section Page
variable {raw : Value} {target : Option String}

def TradeEntry.key (e : TradeEntry) : String × String × ℚ := (e.fillId, e.orderId, e.size)

def FillInfo.key (fill : FillInfo) : String × String × ℚ := (fill.fillId, fill.orderId, fill.size)

theorem pushFill_keys (fills : List FillInfo) (fill : FillInfo) (e : TradeEntry)
    (h : fill.key = e.key) :
    (pushFillIfTargetMatches fills fill target).map FillInfo.key =
      fills.map FillInfo.key ++ ([e].filter (TradeEntry.matches target)).map TradeEntry.key := by
  have horder : fill.orderId = e.orderId := congrArg (fun k => k.2.1) h
  unfold pushFillIfTargetMatches
  cases hm : matchesTarget target e.orderId <;>
    simp [horder, hm, h, TradeEntry.matches]

theorem makers_keys (raw : Value) (target : Option String) (makers : List Value)
    (fills : List FillInfo) :
    (makers.foldl (pushMakerFill raw target) fills).map FillInfo.key =
      fills.map FillInfo.key ++ ((makers.filterMap fun makerOrder =>
        (makerOrderId makerOrder).map fun orderId =>
          (⟨tradeId raw, orderId, makerSize makerOrder, false⟩ : TradeEntry)).filter
            (TradeEntry.matches target)).map TradeEntry.key := by
  induction makers generalizing fills with
  | nil => simp
  | cons makerOrder rest ih =>
    rw [List.foldl_cons, ih]
    cases hid : makerOrderId makerOrder with
    | none => simp [pushMakerFill, hid]
    | some orderId =>
      have hkey : (makerFill raw makerOrder orderId).key =
          (⟨tradeId raw, orderId, makerSize makerOrder, false⟩ : TradeEntry).key := rfl
      simp only [pushMakerFill, hid]
      rw [pushFill_keys _ _ _ hkey, List.append_assoc, ← List.map_append, ← List.filter_append]
      simp [hid]

theorem parseClobTradeRowToFills_keys (raw : Value) (target : Option String) :
    (parseClobTradeRowToFills raw target).map FillInfo.key =
      ((readEntries raw).filter (TradeEntry.matches target)).map TradeEntry.key := by
  unfold parseClobTradeRowToFills readEntries ownEntry isDirect
  cases hown : valueString raw ["orderID", "order_id"] with
  | some orderId =>
    simpa using pushFill_keys [] (ownFill raw (tradeId raw) orderId)
      ⟨tradeId raw, orderId, f64Or 0 (raw.get "size"), true⟩ rfl
  | none =>
    simp only [makers_keys]
    cases htaker : valueString raw ["taker_order_id", "takerOrderId"] with
    | none => simp [makerEntries]
    | some orderId =>
      simp only
      rw [pushFill_keys [] _ ⟨tradeId raw, orderId, f64Or 0 (raw.get "size"), false⟩ rfl]
      simp only [List.map_nil, List.nil_append, ← List.map_append, ← List.filter_append]
      rfl

def pageEntries (raw : Value) (target : Option String) : List TradeEntry :=
  ((tradeRows raw).flatMap readEntries).filter (TradeEntry.matches target)

theorem parseClobTradePage_keys (raw : Value) (target : Option String) :
    (parseClobTradePage raw target).fills.map FillInfo.key =
      (pageEntries raw target).map TradeEntry.key := by
  simp only [parseClobTradePage, pageEntries, List.map_flatMap, List.filter_flatMap,
    parseClobTradeRowToFills_keys]

theorem fillIds_nodup_iff : ((parseClobTradePage raw target).fills.map (·.fillId)).Nodup ↔
    (pageEntries raw target).Pairwise fun a b => ¬ SameFill a b := by
  have hids : (parseClobTradePage raw target).fills.map (·.fillId) =
      (pageEntries raw target).map TradeEntry.fillId := by
    have hkeys := congrArg (List.map Prod.fst) (parseClobTradePage_keys raw target)
    simpa [List.map_map, Function.comp_def, FillInfo.key, TradeEntry.key] using hkeys
  rw [hids, List.Nodup, List.pairwise_map]
  simp only [ne_eq, fillId_eq_iff]

theorem filledSize_eq (orderId : String) :
    filledSize orderId (parseClobTradePage raw target).fills =
      sizeFor orderId (pageEntries raw target) := by
  have hfills (fills : List FillInfo) : filledSize orderId fills =
      (((fills.map FillInfo.key).filter (·.2.1 = orderId)).map (·.2.2)).sum := by
    simp [filledSize, List.filter_map, List.map_map, Function.comp_def, FillInfo.key]
    rfl
  have hentries (entries : List TradeEntry) : sizeFor orderId entries =
      (((entries.map TradeEntry.key).filter (·.2.1 = orderId)).map (·.2.2)).sum := by
    simp [sizeFor, List.filter_map, List.map_map, Function.comp_def, TradeEntry.key]
    rfl
  rw [hfills, parseClobTradePage_keys, hentries]

@[simp] theorem sizeFor_nil (orderId : String) : sizeFor orderId [] = 0 := rfl

theorem sizeFor_append (orderId : String) (es fs : List TradeEntry) :
    sizeFor orderId (es ++ fs) = sizeFor orderId es + sizeFor orderId fs := by
  simp [sizeFor, List.filter_append]

def attributed (raw : Value) : List TradeEntry := (tradeRows raw).flatMap tradeEntries

/-- The makers that the parse leaves out: those beside a direct entry. -/
def droppedMakers (raw : Value) : List TradeEntry :=
  ((tradeRows raw).filter isDirect).flatMap makerEntries

theorem sizeFor_attributed (orderId : String) (rows : List Value) :
    sizeFor orderId (rows.flatMap tradeEntries) = sizeFor orderId (rows.flatMap readEntries) +
      sizeFor orderId ((rows.filter isDirect).flatMap makerEntries) := by
  induction rows with
  | nil => simp
  | cons row rest ih =>
    have hrow : sizeFor orderId (tradeEntries row) = sizeFor orderId (readEntries row) +
        sizeFor orderId (if isDirect row then makerEntries row else []) := by
      cases hdirect : isDirect row <;>
        simp [tradeEntries, readEntries, hdirect, sizeFor_append]
    rw [List.flatMap_cons, List.flatMap_cons, sizeFor_append, sizeFor_append, ih, hrow]
    cases hdirect : isDirect row with
    | false =>
      rw [List.filter_cons_of_neg (by simp [hdirect]), if_neg (by simp), sizeFor_nil]
      ring
    | true =>
      rw [List.filter_cons_of_pos hdirect, List.flatMap_cons, sizeFor_append, if_pos rfl]
      ring

theorem sizeFor_matching {orderId : String} (h : matchesTarget target orderId = true)
    (entries : List TradeEntry) :
    sizeFor orderId (entries.filter (TradeEntry.matches target)) = sizeFor orderId entries := by
  have hfilter : (entries.filter (TradeEntry.matches target)).filter (·.orderId = orderId) =
      entries.filter (·.orderId = orderId) := by
    rw [List.filter_filter]
    refine List.filter_congr fun e _ => ?_
    by_cases he : e.orderId = orderId <;> simp [he, TradeEntry.matches, h]
  rw [sizeFor, hfilter, sizeFor]

/-! ### Storing them -/

/-- What a fill that is already stored under this id is overwritten with. -/
def FillInfo.overwrittenBy (old fill : FillInfo) : FillInfo :=
  { old with
    price := fill.price
    size := fill.size
    fee := fill.fee
    ts := fill.ts
    rawPayload := fill.rawPayload }

def storeFills (stored fills : List FillInfo) : List FillInfo :=
  fills.foldl (fun stored fill => Rows.upsert (·.fillId) FillInfo.overwrittenBy fill stored) stored

theorem storeFills_new (stored fills : List FillInfo)
    (h : ((stored ++ fills).map (·.fillId)).Nodup) : storeFills stored fills = stored ++ fills := by
  induction fills generalizing stored with
  | nil => simp [storeFills]
  | cons fill rest ih =>
    have hnew : fill.fillId ∉ stored.map (·.fillId) := by
      intro hmem
      rw [List.map_append, List.map_cons] at h
      exact (List.disjoint_of_nodup_append h) hmem (List.mem_cons_self ..)
    have hrest := ih (stored ++ [fill]) (by simpa using h)
    rw [storeFills, List.foldl_cons, Rows.upsert_of_new _ _ hnew]
    simpa [storeFills] using hrest

theorem upsert_stored {stored : List FillInfo} {fill : FillInfo}
    (h : (stored.map (·.fillId)).Nodup) (hmem : fill ∈ stored) :
    Rows.upsert (·.fillId) FillInfo.overwrittenBy fill stored = stored := by
  have hkey : fill.fillId ∈ stored.map (·.fillId) := List.mem_map_of_mem hmem
  rw [Rows.upsert, if_pos hkey]
  refine (List.map_congr_left fun old hold => ?_).trans (List.map_id stored)
  split_ifs with hsame
  · obtain rfl := List.inj_on_of_nodup_map h hold hmem hsame
    rfl
  · rfl

theorem storeFills_again {stored : List FillInfo} (fills : List FillInfo)
    (h : (stored.map (·.fillId)).Nodup) (hmem : ∀ fill ∈ fills, fill ∈ stored) :
    storeFills stored fills = stored := by
  induction fills with
  | nil => rfl
  | cons fill rest ih =>
    rw [storeFills, List.foldl_cons, upsert_stored h (hmem fill (List.mem_cons_self ..))]
    exact ih fun other hother => hmem other (List.mem_cons_of_mem fill hother)

/-! ### The law of a page -/

/-- A page keeps the trades: its fills have ids of their own, those of an order have the sizes
the trades name for it, and storing them by id, once or again, keeps these sums. -/
def KeepsTrades (raw : Value) (target : Option String) : Prop :=
  let fills := (parseClobTradePage raw target).fills
  (fills.map (·.fillId)).Nodup ∧
    (∀ orderId, matchesTarget target orderId = true →
      filledSize orderId fills = sizeFor orderId (attributed raw)) ∧
    (∀ orderId, matchesTarget target orderId = true →
      filledSize orderId (storeFills [] fills) = sizeFor orderId (attributed raw)) ∧
    storeFills (storeFills [] fills) fills = storeFills [] fills

/-- The trades whose fills are kept: no two entries that are read are one fill, and the makers
beside a direct entry add up to nothing for any order. -/
def PlainTrades (raw : Value) (target : Option String) : Prop :=
  ((pageEntries raw target).Pairwise fun a b => ¬ SameFill a b) ∧
    ∀ orderId, matchesTarget target orderId = true → sizeFor orderId (droppedMakers raw) = 0

theorem filledSize_eq_attributed_iff {orderId : String}
    (h : matchesTarget target orderId = true) :
    filledSize orderId (parseClobTradePage raw target).fills = sizeFor orderId (attributed raw) ↔
      sizeFor orderId (droppedMakers raw) = 0 := by
  rw [filledSize_eq, pageEntries, sizeFor_matching h, attributed, sizeFor_attributed]
  exact left_eq_add

/-- A page keeps the trades exactly when they are plain. -/
theorem keepsTrades_iff (raw : Value) (target : Option String) :
    KeepsTrades raw target ↔ PlainTrades raw target := by
  constructor
  · rintro ⟨hids, hsizes, -⟩
    exact ⟨fillIds_nodup_iff.mp hids, fun orderId hmatch =>
      (filledSize_eq_attributed_iff hmatch).mp (hsizes orderId hmatch)⟩
  · rintro ⟨hentries, hdropped⟩
    have hids := fillIds_nodup_iff.mpr hentries
    have hsizes (orderId : String) (hmatch : matchesTarget target orderId = true) :=
      (filledSize_eq_attributed_iff hmatch).mpr (hdropped orderId hmatch)
    have hstored : storeFills [] (parseClobTradePage raw target).fills =
        (parseClobTradePage raw target).fills := storeFills_new [] _ (by simpa using hids)
    refine ⟨hids, hsizes, ?_, ?_⟩
    · rw [hstored]
      exact hsizes
    · rw [hstored]
      exact storeFills_again _ hids fun _ hmem => hmem

end Page

/-- One trade that fills an order with two of its maker entries, of three and of four. -/
def splitMaker : Value :=
  .object [("data", .array [.object [("id", .string "t1"), ("price", .string "0.5"),
    ("maker_orders", .array [
      .object [("order_id", .string "o1"), ("matched_amount", .string "3")],
      .object [("order_id", .string "o1"), ("matched_amount", .string "4")]])]])]

/-- Both of its fills are called t1:o1: one of them replaces the other. -/
theorem split_maker_not_kept : ¬ KeepsTrades splitMaker none := by
  rintro ⟨hids, -⟩
  revert hids
  decide +kernel

end PolymarketBot.Exchange
