import PolymarketBot.Flow.ContextDraft
import PolymarketBot.Builder.Sizing

/-! The buy fill locks of a run: the table in its context, one slot a group, and what the
finalizer of a fill and `action.place_order` do with it. -/

namespace PolymarketBot.Flow
open Builder (Side tradeBuilderExitQtyTolerance)

def flowContextBuyFillLocksKey : String := "__buyFillLocks"

structure ActionPlaceOrderBuyFillLockConfig where
  group : String
  releaseOnStopLoss : Bool

structure TradeFlowBuyFillLockRecord where
  group : String
  marketSlug : String
  builderOrderId : ℤ
  sourceNodeKey : String
  filledAt : String
  releaseOnStopLoss : Bool

def TradeFlowBuyFillLockRecord.toValue (record : TradeFlowBuyFillLockRecord) : Value :=
  .object [("group", .string record.group), ("marketSlug", .string record.marketSlug),
    ("builderOrderId", jsonI64 record.builderOrderId),
    ("sourceNodeKey", .string record.sourceNodeKey), ("filledAt", .string record.filledAt),
    ("releaseOnStopLoss", .bool record.releaseOnStopLoss)]

def nonBlank (s : String) : Option String := some (trim s) |>.filter (· ≠ "")

def nonBlankMember (value : Value) (key : String) : Option String :=
  ((value.get key).bind Value.asStr).bind nonBlank

def boolMember (value : Value) (key : String) : Bool :=
  ((value.get key).bind Value.asBool).getD false

/-- `n as i64` drops the fraction and stops at the ends of the range. -/
def f64AsI64 (q : ℚ) : ℤ := max (-2 ^ 63) (min (2 ^ 63 - 1) (Int.tdiv q.num q.den))

def valueAsI64 : Value → Option ℤ
  | .number n => (Value.asI64 (.number n)).or (some (f64AsI64 n.asF64))
  | .string s => parseI64 s
  | _ => none

def nodeConfigBool (config : Value) (key : String) : Option Bool := do
  match ← config.get key with
  | .bool b => some b
  | .number n => some (n.asF64 ≠ 0)
  | .string s =>
    let normalized := String.ofList ((trim s).toList.map Char.toLower)
    if normalized ∈ ["true", "1", "yes", "y", "on"] then some true
    else if normalized ∈ ["false", "0", "no", "n", "off"] then some false
    else none
  | _ => none

def nodeConfigString (config : Value) (key : String) : Option String := do
  let text ← match ← config.get key with
    | .string s => some (trim s)
    | .number n => some n.text
    | .bool b => some (toString b)
    | _ => none
  if text = "" then none else some text

def actionPlaceOrderEarlyStaleScoutLockEnabled (config : Value) (side : Side) : Bool :=
  side = .buy && (nodeConfigBool config "priceToBeatEarlyStaleSideEnabled").getD false &&
    (nodeConfigBool config "priceToBeatEarlyStaleOneScoutPerMarket").getD true

def actionPlaceOrderEarlyStaleScoutLockGroup (config : Value) : String :=
  let scope := ((nodeConfigString config "priceToBeatEarlyStaleLockScope").map fun value =>
    String.ofList ((trim value).toList.map Char.toLower)).filter (· ≠ "")
  "early_stale_side:" ++ scope.getD "condition_id"

def resolveActionPlaceOrderBuyFillLockConfig (config : Value) (side : Side) :
    Except String (Option ActionPlaceOrderBuyFillLockConfig) :=
  if side ≠ .buy then .ok none
  else
    let autoScoutLock := actionPlaceOrderEarlyStaleScoutLockEnabled config side
    if !(nodeConfigBool config "buyFillLockEnabled").getD false && !autoScoutLock then .ok none
    else
      let group := ((nodeConfigString config "buyFillLockGroup").bind nonBlank).or
        (if autoScoutLock then some (actionPlaceOrderEarlyStaleScoutLockGroup config) else none)
      match group with
      | none => .error "action.place_order buyFillLockGroup is required"
      | some group =>
        .ok (some ⟨group, (nodeConfigBool config "releaseBuyFillLockOnStopLoss").getD false⟩)

def actionPlaceOrderBuyFillLockConfigFromPayload (payload : Option Value) :
    Option ActionPlaceOrderBuyFillLockConfig := do
  let lock ← (← payload).get "buy_fill_lock"
  let group ← nonBlankMember lock "group"
  some ⟨group, boolMember lock "releaseOnStopLoss"⟩

def parseTradeFlowBuyFillLockRecord (group : String) (value : Value) :
    Option TradeFlowBuyFillLockRecord := do
  let marketSlug ← nonBlankMember value "marketSlug"
  let builderOrderId ← ((value.get "builderOrderId").bind valueAsI64).filter (0 < ·)
  let sourceNodeKey ← nonBlankMember value "sourceNodeKey"
  let filledAt ← nonBlankMember value "filledAt"
  some ⟨group, marketSlug, builderOrderId, sourceNodeKey, filledAt,
    boolMember value "releaseOnStopLoss"⟩

/-- The lock table of a context; empty when there is none. -/
def buyFillLocks (context : Value) : Fields :=
  ((field flowContextBuyFillLocksKey (nestedFields context "flowContext")).getD .null).fields

def findTradeFlowBuyFillLock (context : Value) (group : String) :
    Option TradeFlowBuyFillLockRecord :=
  (field group (buyFillLocks context)).bind (parseTradeFlowBuyFillLockRecord group)

def findTradeFlowBuyFillLockForMarket (context : Value) (group marketSlug : String) :
    Option TradeFlowBuyFillLockRecord :=
  (findTradeFlowBuyFillLock context group).filter (·.marketSlug = marketSlug)

def setTradeFlowBuyFillLock (context : Value) (record : TradeFlowBuyFillLockRecord) : Value :=
  setNested context "flowContext" (setField flowContextBuyFillLocksKey
    (.object (setField record.group record.toValue (buyFillLocks context)))
    (nestedFields context "flowContext"))

/-- The context without the group's lock, and whether there was one; an empty table goes. -/
def clearTradeFlowBuyFillLock (context : Value) (group : String) : Value × Bool :=
  match context.get "flowContext" with
  | some (.object flow) =>
    match field flowContextBuyFillLocksKey flow with
    | some (.object locks) =>
      let rest := dropField group locks
      let flow := if rest.isEmpty then dropField flowContextBuyFillLocksKey flow
        else setField flowContextBuyFillLocksKey (.object rest) flow
      (setNested context "flowContext" flow, (field group locks).isSome)
    | _ => (context, false)
  | _ => (context, false)

/-- What the lock code reads of a builder order. -/
structure LockOrder where
  id : ℤ
  side : Side
  marketSlug : String
  originFlowRunId : Option ℤ
  originFlowNodeKey : Option String

inductive FlowRunStatus
  | running | canceled | failed
  deriving DecidableEq

/-- What the lock code reads of a run's row. -/
structure TradeFlowRun where
  id : ℤ
  status : FlowRunStatus
  contextJson : Value

def shouldReleaseTradeFlowBuyFillLock (record : TradeFlowBuyFillLockRecord)
    (parentOrder : LockOrder) (currentQty : ℚ) : Bool :=
  record.builderOrderId = parentOrder.id && record.marketSlug = parentOrder.marketSlug &&
    currentQty ≤ tradeBuilderExitQtyTolerance

/-- The record of a filled buy of the run, or nothing where the code returns early. -/
def buyFillLockRecord (order : LockOrder) (flowCreatedPayload : Option Value)
    (run : TradeFlowRun) (filledAt : String) : Option TradeFlowBuyFillLockRecord := do
  if order.side ≠ .buy then none
  let lockConfig ← actionPlaceOrderBuyFillLockConfigFromPayload flowCreatedPayload
  if order.originFlowRunId ≠ some run.id then none
  let sourceNodeKey ← order.originFlowNodeKey.bind nonBlank
  if run.status ≠ .running then none
  some ⟨lockConfig.group, order.marketSlug, order.id, sourceNodeKey, filledAt,
    lockConfig.releaseOnStopLoss⟩

/-- The context `maybe_record_action_place_order_buy_fill_lock_fill` overwrites the row with. -/
def maybeRecordActionPlaceOrderBuyFillLockFill (order : LockOrder)
    (flowCreatedPayload : Option Value) (run : TradeFlowRun) (filledAt : String) : Option Value :=
  (buyFillLockRecord order flowCreatedPayload run filledAt).map
    (setTradeFlowBuyFillLock run.contextJson)

/-- The lock a stop-loss fill of the parent's child asks to release. -/
def buyFillLockToRelease (parentOrder : LockOrder) (parentPositionQty : Option ℚ)
    (flowCreatedPayload : Option Value) (run : TradeFlowRun) :
    Option (ActionPlaceOrderBuyFillLockConfig × ℚ) := do
  let currentQty ← parentPositionQty
  let lockConfig ← actionPlaceOrderBuyFillLockConfigFromPayload flowCreatedPayload
  if !lockConfig.releaseOnStopLoss then none
  if parentOrder.originFlowRunId ≠ some run.id then none
  if run.status ≠ .running then none
  some (lockConfig, currentQty)

/-- The context the release overwrites the row with, where it comes to that. -/
def maybeReleaseActionPlaceOrderBuyFillLockOnStopLoss (parentOrder : LockOrder)
    (parentPositionQty : Option ℚ) (flowCreatedPayload : Option Value) (run : TradeFlowRun) :
    Option Value := do
  let (lockConfig, currentQty) ←
    buyFillLockToRelease parentOrder parentPositionQty flowCreatedPayload run
  let record ← findTradeFlowBuyFillLock run.contextJson lockConfig.group
  if !shouldReleaseTradeFlowBuyFillLock record parentOrder currentQty then none
  let (context, removed) := clearTradeFlowBuyFillLock run.contextJson lockConfig.group
  if removed then some context else none

/-- `maybe_block_action_place_order_buy_fill_lock`: the lock that keeps the node from
placing its order, if there is one. -/
def maybeBlockActionPlaceOrderBuyFillLock (context config : Value) (side : Side)
    (marketSlug : String) : Except String (Option TradeFlowBuyFillLockRecord) := do
  match ← resolveActionPlaceOrderBuyFillLockConfig config side with
  | none => return none
  | some lockConfig =>
    return findTradeFlowBuyFillLockForMarket context lockConfig.group marketSlug

theorem buyFillLocks_set (context : Value) (record : TradeFlowBuyFillLockRecord) :
    buyFillLocks (setTradeFlowBuyFillLock context record) =
      setField record.group record.toValue (buyFillLocks context) := by
  simp [buyFillLocks, setTradeFlowBuyFillLock, nestedFields_setNested]

theorem field_buyFillLocks_clear (context : Value) (group group' : String) :
    field group' (buyFillLocks (clearTradeFlowBuyFillLock context group).1) =
      if group' = group then none else field group' (buyFillLocks context) := by
  have hnone (h : buyFillLocks context = []) : field group' (buyFillLocks context) =
      if group' = group then none else field group' (buyFillLocks context) := by
    simp [h, field]
  unfold clearTradeFlowBuyFillLock
  split
  · rename_i flow hflow
    split
    · rename_i locks hlocks
      have hold : buyFillLocks context = locks := by
        simp [buyFillLocks, nestedFields, hflow, hlocks]
      by_cases hrest : (dropField group locks).isEmpty
      · have hempty : dropField group locks = [] := List.isEmpty_iff.mp hrest
        have hdrop := field_dropField group group' locks
        rw [hempty] at hdrop
        rw [hold, ← hdrop]
        simp [buyFillLocks, nestedFields_setNested, hrest, Value.fields, field]
      · rw [hold]
        simp [buyFillLocks, nestedFields_setNested, hrest]
    · rename_i hlocks
      apply hnone
      simp only [buyFillLocks, nestedFields, hflow, Option.getD_some, Value.fields_object]
      cases hf : field flowContextBuyFillLocksKey flow with
      | none => rfl
      | some v => cases v <;> simp_all [Value.fields]
  · rename_i hflow
    apply hnone
    have hfields : nestedFields context "flowContext" = [] := by
      unfold nestedFields
      cases hf : context.get "flowContext" with
      | none => rfl
      | some v => cases v <;> simp_all [Value.fields]
    simp [buyFillLocks, hfields, field, Value.fields]

theorem find_set (context : Value) (record : TradeFlowBuyFillLockRecord) (group : String) :
    findTradeFlowBuyFillLock (setTradeFlowBuyFillLock context record) group =
      if group = record.group then parseTradeFlowBuyFillLockRecord record.group record.toValue
      else findTradeFlowBuyFillLock context group := by
  unfold findTradeFlowBuyFillLock
  rw [buyFillLocks_set, field_setField]
  by_cases h : group = record.group <;> simp [h]

theorem find_clear (context : Value) (group group' : String) :
    findTradeFlowBuyFillLock (clearTradeFlowBuyFillLock context group).1 group' =
      if group' = group then none else findTradeFlowBuyFillLock context group' := by
  unfold findTradeFlowBuyFillLock
  rw [field_buyFillLocks_clear]
  by_cases h : group' = group <;> simp [h]

/-- A context holds a lock of the group in the market, whoever took it. -/
def Locked (context : Value) (group marketSlug : String) : Prop :=
  (findTradeFlowBuyFillLockForMarket context group marketSlug).isSome = true

instance (context : Value) (group marketSlug : String) :
    Decidable (Locked context group marketSlug) :=
  inferInstanceAs (Decidable (_ = true))

/-- The record reads back: its texts are not blank and the order number is positive. -/
structure TradeFlowBuyFillLockRecord.Readable (record : TradeFlowBuyFillLockRecord) : Prop where
  market_nonblank : trim record.marketSlug ≠ ""
  order_positive : 0 < record.builderOrderId
  node_nonblank : trim record.sourceNodeKey ≠ ""
  filled_nonblank : trim record.filledAt ≠ ""

def clampI64 (z : ℤ) : ℤ := max (-2 ^ 63) (min (2 ^ 63 - 1) z)

theorem valueAsI64_jsonI64 (z : ℤ) : valueAsI64 (jsonI64 z) = some (clampI64 z) := by
  have hfloat : f64AsI64 ((z : ℤ) : ℚ) = clampI64 z := by
    simp [f64AsI64, clampI64]
  by_cases hz : -2 ^ 63 ≤ z ∧ z < 2 ^ 63
  · have hclamp : clampI64 z = z := by
      unfold clampI64
      omega
    simp only [valueAsI64, jsonI64, Value.asI64, if_pos hz, Option.some_or, hclamp]
  · simp only [valueAsI64, jsonI64, Value.asI64, if_neg hz, Option.none_or, JsonNumber.asF64,
      hfloat]

theorem clampI64_pos {z : ℤ} : 0 < clampI64 z ↔ 0 < z := by
  unfold clampI64
  omega

theorem nonBlank_eq (s : String) : nonBlank s = if trim s ≠ "" then some (trim s) else none := by
  by_cases h : trim s = "" <;> simp [nonBlank, h, Option.filter]

theorem toValue_get (record : TradeFlowBuyFillLockRecord) (key : String) :
    record.toValue.get key = field key
      [("group", .string record.group), ("marketSlug", .string record.marketSlug),
        ("builderOrderId", jsonI64 record.builderOrderId),
        ("sourceNodeKey", .string record.sourceNodeKey), ("filledAt", .string record.filledAt),
        ("releaseOnStopLoss", .bool record.releaseOnStopLoss)] := rfl

theorem parse_toValue (record : TradeFlowBuyFillLockRecord) :
    parseTradeFlowBuyFillLockRecord record.group record.toValue =
      if trim record.marketSlug ≠ "" ∧ 0 < record.builderOrderId ∧
          trim record.sourceNodeKey ≠ "" ∧ trim record.filledAt ≠ "" then
        some ⟨record.group, trim record.marketSlug, clampI64 record.builderOrderId,
          trim record.sourceNodeKey, trim record.filledAt, record.releaseOnStopLoss⟩
      else none := by
  have hmarket : nonBlankMember record.toValue "marketSlug" = nonBlank record.marketSlug := by
    simp [nonBlankMember, toValue_get, field_cons_self, field_cons_of_ne, Value.asStr]
  have hnode : nonBlankMember record.toValue "sourceNodeKey" = nonBlank record.sourceNodeKey := by
    simp [nonBlankMember, toValue_get, field_cons_self, field_cons_of_ne, Value.asStr]
  have hfilled : nonBlankMember record.toValue "filledAt" = nonBlank record.filledAt := by
    simp [nonBlankMember, toValue_get, field_cons_self, field_cons_of_ne, Value.asStr]
  have hrelease : boolMember record.toValue "releaseOnStopLoss" = record.releaseOnStopLoss := by
    simp [boolMember, toValue_get, field_cons_self, field_cons_of_ne, Value.asBool]
  have hid : (record.toValue.get "builderOrderId").bind valueAsI64 =
      some (clampI64 record.builderOrderId) := by
    simp [toValue_get, field_cons_self, field_cons_of_ne, valueAsI64_jsonI64]
  have hfilter : ∀ z : ℤ, (some z).filter (0 < ·) = if 0 < z then some z else none := fun z => by
    simp [Option.filter_some]
  unfold parseTradeFlowBuyFillLockRecord
  rw [hmarket, hnode, hfilled, hrelease, hid, nonBlank_eq, nonBlank_eq, nonBlank_eq]
  by_cases h1 : trim record.marketSlug = ""
  · simp [h1]
  by_cases h2 : 0 < record.builderOrderId
  · have hpos : 0 < clampI64 record.builderOrderId := clampI64_pos.mpr h2
    by_cases h3 : trim record.sourceNodeKey = ""
    · simp only [h1, h3, hpos, hfilter, ne_eq, not_false_eq_true, if_true, Option.bind_eq_bind,
        Option.bind_some, not_true_eq_false, if_false, Option.bind_none, false_and, and_false]
    · by_cases h4 : trim record.filledAt = "" <;>
        simp only [h1, h2, h3, h4, hpos, hfilter, ne_eq, not_false_eq_true, if_true,
          Option.bind_eq_bind, Option.bind_some, not_true_eq_false, if_false, Option.bind_none,
          and_self, and_false]
  · have hpos : ¬ 0 < clampI64 record.builderOrderId := fun h => h2 (clampI64_pos.mp h)
    simp only [h1, h2, hpos, hfilter, ne_eq, not_false_eq_true, if_true, Option.bind_eq_bind,
      Option.bind_some, if_false, Option.bind_none, false_and, and_false]

theorem locked_set_same (context : Value) (record : TradeFlowBuyFillLockRecord)
    (marketSlug : String) :
    Locked (setTradeFlowBuyFillLock context record) record.group marketSlug ↔
      marketSlug = trim record.marketSlug ∧ record.Readable := by
  unfold Locked findTradeFlowBuyFillLockForMarket
  rw [find_set, if_pos rfl, parse_toValue]
  constructor
  · intro h
    split at h
    · rename_i hc
      have hm : trim record.marketSlug = marketSlug := by
        by_contra hne
        simp [Option.filter, hne] at h
      exact ⟨hm.symm, hc.1, hc.2.1, hc.2.2.1, hc.2.2.2⟩
    · simp at h
  · rintro ⟨rfl, h⟩
    rw [if_pos ⟨h.market_nonblank, h.order_positive, h.node_nonblank, h.filled_nonblank⟩]
    simp [Option.filter]

theorem locked_set_other (context : Value) (record : TradeFlowBuyFillLockRecord)
    {group : String} (h : group ≠ record.group) (marketSlug : String) :
    Locked (setTradeFlowBuyFillLock context record) group marketSlug ↔
      Locked context group marketSlug := by
  simp [Locked, findTradeFlowBuyFillLockForMarket, find_set, h]

theorem locked_clear (context : Value) (group group' marketSlug : String) :
    Locked (clearTradeFlowBuyFillLock context group).1 group' marketSlug ↔
      group' ≠ group ∧ Locked context group' marketSlug := by
  by_cases h : group' = group <;>
    simp [Locked, findTradeFlowBuyFillLockForMarket, find_clear, h]

end PolymarketBot.Flow
