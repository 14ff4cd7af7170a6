import PolymarketBot.Builder.Sizing
import PolymarketBot.Lib.Grid
import PolymarketBot.Lib.Prog

/-! The stored positions of parent buys with all the columns they are decided from: how a
child's sell is applied, how a missing row is seeded, and how a row is rebased to the first
visible inventory. Each statement is one call. The passes over a single order, in
`Builder.Finalize`, keep the quantities of these rows alone. -/

namespace PolymarketBot.Positions
open Lib Builder

inductive QtySource
  | parentPositions | observedActual | observedExpected | canonicalEntryQty | tradeLegPosition
  | parentFill (source : String) | childFill (source : String)
  deriving DecidableEq, Repr

structure TradeBuilderParentPosition where
  baselineQty : ℚ
  currentQty : ℚ
  lastFillQty : Option ℚ := none
  lastFillPrice : Option ℚ := none
  qtySource : QtySource
  deriving DecidableEq, Repr

/-- A first-visible-inventory observation; there is at most one for each parent. -/
structure FirstVisibleObservation where
  userId : ℤ
  tokenId : String
  baselineVisibleQty : Option ℚ
  expectedVisibleQty : Option ℚ
  actualVisibleQty : Option ℚ
  visibleDeltaQty : Option ℚ
  referencePrice : Option ℚ
  deriving DecidableEq, Repr

structure TradeBuilderParentPositionSeed where
  actualVisibleQty : Option ℚ
  expectedVisibleQty : Option ℚ
  referencePrice : Option ℚ
  deriving DecidableEq, Repr

def FirstVisibleObservation.seed (row : FirstVisibleObservation) :
    TradeBuilderParentPositionSeed :=
  ⟨row.actualVisibleQty, row.expectedVisibleQty, row.referencePrice⟩

/-- What a wallet read tells the observation loop about a token. -/
inductive InventoryObservationReadResult
  | visible (qty : ℚ)
  | notVisible
  | readError
  deriving DecidableEq, Repr

/-- The quantities of one user's tokens, as one request reports them. -/
abbrev TokenInventorySnapshot := List (String × ℚ)

def TokenInventorySnapshot.tokenQty (snapshot : TokenInventorySnapshot) (tokenId : String) :
    Option ℚ :=
  if tokenId = "" then none else some (max ((snapshot.lookup tokenId).getD 0) 0)

inductive Call
  | getOrder (id : ℤ)
  | getParentPosition (id : ℤ)
  | getParentPositionSeed (id : ℤ)
  | upsertParentPosition (id : ℤ) (input : TradeBuilderParentPosition)
  | applyParentPositionFill (id : ℤ) (filledQty : ℚ) (fillPrice : Option ℚ) (source : QtySource)
  | loadSellPosition (id : ℤ)
  | appendEvent (id : ℤ) (event : String)
  | insertFirstVisible (id : ℤ) (row : FirstVisibleObservation)
  | insertTerminalNotVisible (id : ℤ) (reason : String)
  | userExecutor (userId : ℤ)
  | syncInitialFills (userId : ℤ)
  | inventorySnapshot (userId : ℤ)
  | availableTokenQty (userId : ℤ) (tokenId : String)
  deriving DecidableEq, Repr

abbrev Answer : Call → Type
  | .getOrder _ => Bool
  | .getParentPosition _ => Option TradeBuilderParentPosition
  | .getParentPositionSeed _ => Option TradeBuilderParentPositionSeed
  | .loadSellPosition _ => ℚ × Option ℚ
  | .inventorySnapshot _ => Option TokenInventorySnapshot
  | .availableTokenQty _ _ => Option ℚ
  | _ => Unit

/-- Errors are logged or passed on, never looked into. -/
abbrev Failure := Unit

abbrev Job (α : Type) := Prog Call Answer Failure α

def run (c : Call) : Job (Answer c) := Prog.perform c

def ignore (job : Job Unit) : Job Unit := do let _ ← Prog.attempt job

/-- Where the rows are kept; `orders` holds the ids of the orders there are. -/
structure Store where
  orders : ℤ → Bool := fun _ => true
  positions : ℤ → Option TradeBuilderParentPosition := fun _ => none
  observations : ℤ → Option FirstVisibleObservation := fun _ => none

/-- What the environment decides about a call: whether it fails, and what the wallet and the
trade's own legs hold. -/
structure Reply where
  fails : Bool := false
  legQty : Option (ℚ × Option ℚ) := none
  snapshot : Option TokenInventorySnapshot := none
  tokenQty : Option ℚ := none
  deriving DecidableEq, Repr, Inhabited

def TradeBuilderParentPosition.applyFill (filledQty : ℚ) (fillPrice : Option ℚ)
    (source : QtySource) (position : TradeBuilderParentPosition) : TradeBuilderParentPosition :=
  { position with
    currentQty := max 0 (position.currentQty - filledQty)
    lastFillQty := some filledQty
    lastFillPrice := fillPrice.or position.lastFillPrice
    qtySource := source }

def answer : (c : Call) → Store → Reply → Except Failure (Answer c) × Store
  | .getOrder id, s, _ => (.ok (s.orders id), s)
  | .getParentPosition id, s, _ => (.ok (s.positions id), s)
  | .getParentPositionSeed id, s, _ =>
    (.ok ((s.observations id).map FirstVisibleObservation.seed), s)
  | .upsertParentPosition id input, s, _ =>
    (.ok (), { s with positions := Function.update s.positions id (some input) })
  | .applyParentPositionFill id filledQty fillPrice source, s, _ =>
    let updated := (s.positions id).map (·.applyFill filledQty fillPrice source)
    (.ok (), { s with positions := Function.update s.positions id updated })
  | .loadSellPosition _, s, r =>
    (match r.legQty with
      | some leg => .ok leg
      | none => .error (), s)
  | .appendEvent _ _, s, _ => (.ok (), s)
  | .insertFirstVisible id row, s, _ =>
    let kept := (s.observations id).getD row
    (.ok (), { s with observations := Function.update s.observations id (some kept) })
  | .insertTerminalNotVisible _ _, s, _ => (.ok (), s)
  | .userExecutor _, s, _ => (.ok (), s)
  | .syncInitialFills _, s, _ => (.ok (), s)
  | .inventorySnapshot _, s, r => (.ok r.snapshot, s)
  | .availableTokenQty _ _, s, r => (.ok r.tokenQty, s)

def act (c : Call) (s : Store) (r : Reply) : Except Failure (Answer c) × Store :=
  if r.fails then (.error (), s) else answer c s r

/-- The first visible inventory seeds a position; without it the canonical quantity does. -/
def tradeBuilderParentPositionSeedQty (seed : Option TradeBuilderParentPositionSeed)
    (canonicalEntryQty : ℚ) : ℚ × QtySource :=
  match seed.bind fun seed => normalizeTradeBuilderVisibleInventoryQty seed.actualVisibleQty with
  | some actualVisibleQty => (actualVisibleQty, .observedActual)
  | none =>
    match seed.bind fun seed =>
        normalizeTradeBuilderVisibleInventoryQty seed.expectedVisibleQty with
    | some expectedVisibleQty => (expectedVisibleQty, .observedExpected)
    | none => (roundTradeBuilderShareQty canonicalEntryQty, .canonicalEntryQty)

theorem parentPositionSeedQty_eq (seed : Option TradeBuilderParentPositionSeed)
    (canonicalEntryQty : ℚ) :
    (tradeBuilderParentPositionSeedQty seed canonicalEntryQty).1 =
      Builder.tradeBuilderParentPositionSeedQty
        (seed.bind fun seed => (seed.actualVisibleQty.filter (0 ≤ ·)).or seed.expectedVisibleQty)
        canonicalEntryQty := by
  unfold tradeBuilderParentPositionSeedQty Builder.tradeBuilderParentPositionSeedQty
    normalizeTradeBuilderVisibleInventoryQty
  cases seed with
  | none => rfl
  | some seed =>
    simp only [Option.bind_some]
    cases hactual : seed.actualVisibleQty.filter (0 ≤ ·) with
    | some actual =>
      have hpos := (Option.filter_eq_some_iff.mp hactual).2
      simp [Option.filter, of_decide_eq_true hpos]
    | none =>
      rw [Option.none_or, Option.map_none]
      cases hexpected : seed.expectedVisibleQty.filter (0 ≤ ·) <;> rfl

def tradeBuilderParentPositionFillSource (actualFillQtySource : Option String) : QtySource :=
  .childFill ((actualFillQtySource.filter (· ≠ "")).getD "canonical_qty")

def seedParentPosition (id : ℤ) (qty : ℚ) (price : Option ℚ) (source : QtySource) :
    Job (Option (ℚ × QtySource)) := do
  run (.upsertParentPosition id
    { baselineQty := qty, currentQty := qty, lastFillPrice := price, qtySource := source })
  run (.appendEvent id "exit_inventory_source_selected")
  pure (some (qty, source))

def resolveLegacyInventory (id : ℤ) : Job (Option (ℚ × QtySource)) := do
  match ← Prog.attempt (run (.loadSellPosition id)) with
  | .ok (legacyQty, legacyPrice) =>
    if tradeBuilderExitQtyTolerance < roundTradeBuilderShareQty legacyQty then
      seedParentPosition id (roundTradeBuilderShareQty legacyQty) legacyPrice .tradeLegPosition
    else do
      run (.appendEvent id "exit_inventory_source_selected")
      pure none
  | .error _ => do
    run (.appendEvent id "exit_inventory_source_selected")
    pure none

/-- What a seed makes of a missing row: its actual quantity, or else its expected one. -/
def exitInventorySeed (seed : TradeBuilderParentPositionSeed) : ℚ × QtySource :=
  let actualVisibleQty := normalizeTradeBuilderVisibleInventoryQty seed.actualVisibleQty
  let expectedVisibleQty := normalizeTradeBuilderVisibleInventoryQty seed.expectedVisibleQty
  ((actualVisibleQty.or expectedVisibleQty).getD 0,
    if actualVisibleQty.isSome then .observedActual else .observedExpected)

def resolveSeedInventory (id : ℤ) (seed : TradeBuilderParentPositionSeed) :
    Job (Option (ℚ × QtySource)) :=
  if tradeBuilderExitQtyTolerance < (exitInventorySeed seed).1 then
    seedParentPosition id (exitInventorySeed seed).1
      (normalizeTradeBuilderReferencePrice seed.referencePrice) (exitInventorySeed seed).2
  else resolveLegacyInventory id

/-- The open quantity of a parent: its row, or a row made of what else is known. -/
def resolveTradeBuilderParentExitInventory (id : ℤ) : Job (Option (ℚ × QtySource)) := do
  match ← run (.getParentPosition id) with
  | some position =>
    run (.appendEvent id "exit_inventory_source_selected")
    pure (some (roundTradeBuilderShareQty position.currentQty, .parentPositions))
  | none =>
    match ← run (.getParentPositionSeed id) with
    | some seed => resolveSeedInventory id seed
    | none => resolveLegacyInventory id

def applyTradeBuilderParentPositionChildFill (id : ℤ) (fillQty : Option ℚ) (executionPrice : ℚ)
    (actualFillQtySource : Option String) : Job Unit := do
  match normalizeTradeBuilderTerminalFillQtyCandidate fillQty with
  | none => pure ()
  | some fillQty =>
    if (← run (.getParentPosition id)).isNone then
      let _ ← resolveTradeBuilderParentExitInventory id
    run (.applyParentPositionFill id fillQty
      (normalizeTradeBuilderReferencePrice (some executionPrice))
      (tradeBuilderParentPositionFillSource actualFillQtySource))

def QtySource.fromParentFill : QtySource → Bool
  | .canonicalEntryQty | .parentFill _ => true
  | _ => false

/-- A row may be rebased while no sell seems to have changed it. -/
def canRebaseExisting (existing : Option TradeBuilderParentPosition) : Bool :=
  existing.all fun position =>
    decide (|position.currentQty - position.baselineQty| < tradeBuilderExitQtyTolerance) &&
      position.qtySource.fromParentFill

def rebasedPosition (seed : TradeBuilderParentPositionSeed)
    (existing : Option TradeBuilderParentPosition) : TradeBuilderParentPosition where
  baselineQty := (tradeBuilderParentPositionSeedQty (some seed) 0).1
  currentQty := (tradeBuilderParentPositionSeedQty (some seed) 0).1
  lastFillQty := existing.bind (·.lastFillQty)
  lastFillPrice := (normalizeTradeBuilderReferencePrice seed.referencePrice).or
    (existing.bind (·.lastFillPrice))
  qtySource := (tradeBuilderParentPositionSeedQty (some seed) 0).2

/-- The row is read, checked and then overwritten, whatever it has become. -/
def maybeRebaseTradeBuilderParentPositionFromFirstVisibleInventory (id : ℤ) : Job Unit := do
  if ← run (.getOrder id) then
    match ← run (.getParentPositionSeed id) with
    | none => pure ()
    | some seed =>
      if (tradeBuilderParentPositionSeedQty (some seed) 0).1 ≤ tradeBuilderExitQtyTolerance then
        pure ()
      else
        let existing ← run (.getParentPosition id)
        if canRebaseExisting existing then
          run (.upsertParentPosition id (rebasedPosition seed existing))
          run (.appendEvent id "parent_position_rebased_from_first_visible_inventory")
  else pure ()

end PolymarketBot.Positions
