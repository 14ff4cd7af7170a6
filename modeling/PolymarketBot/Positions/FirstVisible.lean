import Mathlib.Tactic.Linarith
import PolymarketBot.Lib.Threads
import PolymarketBot.Positions.Inventory

/-! The inventory-observation loop: the first visible inventory of each pending parent is
read off one snapshot of the wallet, recorded, and its position rebased to it. -/

namespace PolymarketBot.Positions
open Lib Prog Builder

/-- A tracked buy whose fill is known and whose first visible inventory is not. -/
structure PendingFirstVisibleObservation where
  parentBuilderOrderId : ℤ
  userId : ℤ
  tokenId : String
  baselineVisibleQty : Option ℚ := none
  submittedDynamicQty : Option ℚ := none
  resolvedFillQty : Option ℚ := none
  submitReferencePrice : Option ℚ := none
  fillReferencePrice : Option ℚ := none
  feeRateBps : ℤ := 0
  fillObservedAt : ℤ := 0
  parentOrderStatus : OrderStatus := .completed
  parentOrderFilledQty : ℚ := 0
  deriving DecidableEq, Repr

structure VisibleInventoryExpectation where
  expectedVisibleQty : ℚ
  referencePrice : ℚ
  deriving DecidableEq, Repr

def roundTradeBuilderSignedQty (value : ℚ) : ℚ := roundHalfAway (value * 100) / 100

def tradeBuilderExitQtyBuffer (grossQty : ℚ) : ℚ := max (grossQty * (1 / 100)) (3 / 100)

/-- What should be visible of a fill after its fee: the submitted quantity, or else the
resolved one, at a known price. -/
def tradeBuilderVisibleInventoryExpectation (resolvedFillQty submittedDynamicQty
    fillReferencePrice submitReferencePrice : Option ℚ) (feeRateBps : ℤ) :
    Option VisibleInventoryExpectation := do
  let fillPrice := normalizeTradeBuilderReferencePrice fillReferencePrice
  let submitPrice := normalizeTradeBuilderReferencePrice submitReferencePrice
  let (grossQty, referencePrice) ←
    match normalizeTradeBuilderTerminalFillQtyCandidate submittedDynamicQty with
    | some submitted => (submitPrice.or fillPrice).map (submitted, ·)
    | none => do
      let resolved ← normalizeTradeBuilderTerminalFillQtyCandidate resolvedFillQty
      (fillPrice.or submitPrice).map (resolved, ·)
  let fee := estimateTradeBuilderBuyFeeShares referencePrice grossQty
    (tradeBuilderFeeRateBpsOrDefault feeRateBps)
  let netQty := max (grossQty - fee) 0
  pure ⟨floorTradeBuilderShareQty (max (netQty - tradeBuilderExitQtyBuffer grossQty) 0),
    referencePrice⟩

namespace PendingFirstVisibleObservation
variable (observation : PendingFirstVisibleObservation)

def expectation : Option VisibleInventoryExpectation :=
  tradeBuilderVisibleInventoryExpectation observation.resolvedFillQty
    observation.submittedDynamicQty observation.fillReferencePrice
    observation.submitReferencePrice observation.feeRateBps

/-- The observation row: it has both the whole visible quantity and the change of it. -/
def row (actualVisibleQty : ℚ) : FirstVisibleObservation where
  userId := observation.userId
  tokenId := observation.tokenId
  baselineVisibleQty := normalizeTradeBuilderVisibleInventoryQty observation.baselineVisibleQty
  expectedVisibleQty := observation.expectation.map (·.expectedVisibleQty)
  actualVisibleQty := some (roundTradeBuilderShareQty actualVisibleQty)
  visibleDeltaQty :=
    (normalizeTradeBuilderVisibleInventoryQty observation.baselineVisibleQty).map fun baseline =>
      roundTradeBuilderSignedQty (roundTradeBuilderShareQty actualVisibleQty - baseline)
  referencePrice := (observation.expectation.map (·.referencePrice)).or
    (observation.fillReferencePrice.or observation.submitReferencePrice)

/-- Over a known baseline something new must be visible. -/
def isReady (actualVisibleQty : ℚ) : Bool :=
  match normalizeTradeBuilderVisibleInventoryQty observation.baselineVisibleQty with
  | some baseline => decide (0 < roundTradeBuilderSignedQty (actualVisibleQty - baseline))
  | none => decide (0 < actualVisibleQty)

def terminalFillQty : ℚ := observation.resolvedFillQty.getD observation.parentOrderFilledQty

def zeroFillTerminal : Bool :=
  observation.parentOrderStatus == .completed && decide (observation.terminalFillQty ≤ 1 / 1000000)

/-- Thirty minutes after its fill an invisible inventory is given up; times are in seconds. -/
def staleNotVisible (now : ℤ) : Bool :=
  decide (1 / 1000000 < observation.terminalFillQty) &&
    decide (1800 ≤ now - observation.fillObservedAt)

end PendingFirstVisibleObservation

def applyTradeBuilderFirstVisibleInventory (observation : PendingFirstVisibleObservation)
    (actualVisibleQty : ℚ) : Job Unit := do
  if observation.isReady actualVisibleQty then
    run (.insertFirstVisible observation.parentBuilderOrderId (observation.row actualVisibleQty))
    ignore (maybeRebaseTradeBuilderParentPositionFromFirstVisibleInventory
      observation.parentBuilderOrderId)

def tradeBuilderFirstVisibleInventoryReadResult (quantity : Option ℚ) :
    InventoryObservationReadResult :=
  match normalizeTradeBuilderVisibleInventoryRead quantity with
  | some qty => if 0 < qty then .visible qty else .notVisible
  | none => .readError

inductive PositionsSnapshotCacheEntry
  | snapshot (snapshot : TokenInventorySnapshot)
  | unsupported
  | readError
  deriving DecidableEq, Repr

/-- What one pass of the loop remembers: the wallet of each user, and what was read of each of
their tokens. -/
structure PassCaches where
  observation : List ((ℤ × String) × InventoryObservationReadResult) := []
  positionsSnapshot : List (ℤ × PositionsSnapshotCacheEntry) := []
  deriving Repr

/-- One request for the whole wallet of the user, kept for the pass. -/
def positionsSnapshot (userId : ℤ) (caches : PassCaches) :
    Job (PositionsSnapshotCacheEntry × PassCaches) := do
  match caches.positionsSnapshot.lookup userId with
  | some entry => pure (entry, caches)
  | none =>
    let entry := match ← Prog.attempt (run (.inventorySnapshot userId)) with
      | .ok (some snapshot) => .snapshot snapshot
      | .ok none => .unsupported
      | .error _ => .readError
    pure (entry, { caches with positionsSnapshot := (userId, entry) :: caches.positionsSnapshot })

def readSnapshotEntry (observation : PendingFirstVisibleObservation) :
    PositionsSnapshotCacheEntry → Job InventoryObservationReadResult
  | .snapshot snapshot =>
    pure (tradeBuilderFirstVisibleInventoryReadResult (snapshot.tokenQty observation.tokenId))
  | .unsupported => do
    match ← Prog.attempt (run (.availableTokenQty observation.userId observation.tokenId)) with
    | .ok quantity => pure (tradeBuilderFirstVisibleInventoryReadResult quantity)
    | .error _ => pure .readError
  | .readError => pure .readError

/-- What the pass knows of a token, read at most once. -/
def readInventory (observation : PendingFirstVisibleObservation) (caches : PassCaches) :
    Job (InventoryObservationReadResult × PassCaches) := do
  if observation.tokenId = "" then pure (.notVisible, caches)
  else
    match caches.observation.lookup (observation.userId, observation.tokenId) with
    | some result => pure (result, caches)
    | none =>
      let (entry, caches) ← positionsSnapshot observation.userId caches
      let result ← readSnapshotEntry observation entry
      pure (result, { caches with
        observation := ((observation.userId, observation.tokenId), result) :: caches.observation })

def applyReadResult (now : ℤ) (observation : PendingFirstVisibleObservation) :
    InventoryObservationReadResult → Job Unit
  | .visible qty => applyTradeBuilderFirstVisibleInventory observation qty
  | .notVisible =>
    if observation.staleNotVisible now then
      run (.insertTerminalNotVisible observation.parentBuilderOrderId "stale_not_visible_timeout")
    else pure ()
  | .readError => pure ()

/-- The user's executor, and a sync of the fills before the wallet is looked at. -/
def prepareUser (userId : ℤ) : Job Unit := do
  run (.userExecutor userId)
  run (.syncInitialFills userId)

def observeInventory (now : ℤ) (observation : PendingFirstVisibleObservation)
    (caches : PassCaches) : Job PassCaches := do
  if observation.zeroFillTerminal then
    ignore (run (.insertTerminalNotVisible observation.parentBuilderOrderId "zero_fill"))
    pure caches
  else
    match ← Prog.attempt (prepareUser observation.userId) with
    | .error _ => pure caches
    | .ok _ =>
      let (result, caches) ← readInventory observation caches
      ignore (applyReadResult now observation result)
      pure caches

/-- One pass over the pending observations; an error of one is logged. -/
def inventoryObservationLoop (now : ℤ) :
    List PendingFirstVisibleObservation → PassCaches → Job Unit
  | [], _ => pure ()
  | observation :: rest, caches => do
    let caches ← observeInventory now observation caches
    inventoryObservationLoop now rest caches

def inventoryObservationPass (now : ℤ) (pending : List PendingFirstVisibleObservation) : Job Unit :=
  inventoryObservationLoop now pending {}

/-- A rebase that was made: the parent, the observation it was made from, and its quantity. -/
structure Rebase where
  parentId : ℤ
  row : FirstVisibleObservation
  qty : ℚ
  deriving DecidableEq, Repr

def FirstVisibleObservation.sameToken (row row' : FirstVisibleObservation) : Bool :=
  row.userId == row'.userId && row.tokenId == row'.tokenId

/-- The store, and the rebases so far, the last one first. -/
structure WalletLedger where
  store : Store
  rebases : List Rebase := []

/-- A reply with what others did to position rows just before the call. -/
structure WalletReply where
  reply : Reply := {}
  others : List (ℤ × Option TradeBuilderParentPosition) := []

def WalletReply.arrive (r : WalletReply) (s : Store) : Store :=
  { s with positions := r.others.foldl (fun positions other =>
      Function.update positions other.1 other.2) s.positions }

def WalletLedger.note (c : Call) (w : WalletLedger) : WalletLedger :=
  match c with
  | .upsertParentPosition id input =>
    match w.store.observations id with
    | some row => { w with rebases := ⟨id, row, input.currentQty⟩ :: w.rebases }
    | none => w
  | _ => w

def walletAct {ι : Type} (_ : ι) (c : Call) (w : WalletLedger) (r : WalletReply) :
    Except Failure (Answer c) × WalletLedger :=
  if r.reply.fails then (.error (), { w with store := r.arrive w.store })
  else ((answer c (r.arrive w.store) r.reply).1,
    { w.note c with store := (answer c (r.arrive w.store) r.reply).2 })

/-- What the rebases so far credit to parents of the same user and token. -/
def creditedQty (row : FirstVisibleObservation) (rebases : List Rebase) : ℚ :=
  ((rebases.filter fun rebase => rebase.row.sameToken row).map Rebase.qty).sum

/-- With every rebase, what the parents of the token are credited with is in the wallet, and
the parent is credited with what became visible over its own baseline. -/
def Attributed : List Rebase → Prop
  | [] => True
  | rebase :: earlier =>
    creditedQty rebase.row earlier + rebase.qty ≤ rebase.row.actualVisibleQty.getD 0 ∧
      (∀ delta ∈ rebase.row.visibleDeltaQty, rebase.qty = delta) ∧ Attributed earlier

instance decidableAttributed : ∀ rebases, Decidable (Attributed rebases)
  | [] => isTrue trivial
  | _ :: earlier =>
    have := decidableAttributed earlier
    inferInstanceAs (Decidable (_ ∧ _ ∧ _))

/-- No parent of this user and token has been rebased, and the wallet held nothing of the
token before the buy, as far as that is known. -/
def FirstOfToken (rebases : List Rebase) (row : FirstVisibleObservation) : Prop :=
  (∀ rebase ∈ rebases, rebase.row.sameToken row = false) ∧
    ∀ baseline ∈ row.baselineVisibleQty, baseline = 0

/-- A row is rebased only for the first parent of a token, on a wallet without it. -/
def RebasesFirst {ι : Type} (_ : ι) (c : Call) (w : WalletLedger) (r : WalletReply) : Prop :=
  match c with
  | .upsertParentPosition id _ =>
    r.reply.fails = true ∨ ∀ row ∈ w.store.observations id, FirstOfToken w.rebases row
  | _ => True

def IsShareQty (qty : ℚ) : Prop := 0 ≤ qty ∧ ∃ n : ℤ, qty * 100 = n

/-- What the loop writes into an observation row. -/
structure Recorded (row : FirstVisibleObservation) : Prop where
  actual : ∃ qty, row.actualVisibleQty = some qty ∧ IsShareQty qty
  baseline : ∀ qty ∈ row.baselineVisibleQty, IsShareQty qty
  delta : row.visibleDeltaQty = row.baselineVisibleQty.map fun baseline =>
    roundTradeBuilderSignedQty (row.actualVisibleQty.getD 0 - baseline)

section Quantities

theorem roundShareQty_isShareQty (qty : ℚ) : IsShareQty (roundTradeBuilderShareQty qty) :=
  ⟨roundTradeBuilderShareQty_nonneg qty, ⌊max qty 0 * 100 + 1 / 2⌋, by
    rw [roundTradeBuilderShareQty]
    field_simp⟩

theorem IsShareQty.round {qty : ℚ} (h : IsShareQty qty) : roundTradeBuilderShareQty qty = qty := by
  obtain ⟨h0, n, hn⟩ := h
  have hfloor : ⌊(n : ℚ) + 1 / 2⌋ = n := by
    rw [Int.floor_intCast_add, Int.floor_eq_zero_iff.mpr ⟨by norm_num, by norm_num⟩, add_zero]
  rw [roundTradeBuilderShareQty, max_eq_left h0, hn, hfloor, ← hn]
  field_simp

theorem roundSignedQty_of_int {qty : ℚ} {n : ℤ} (h : qty * 100 = n) :
    roundTradeBuilderSignedQty qty = qty := by
  have hround : roundHalfAway (qty * 100) = n := by
    rw [h, roundHalfAway]
    split
    · rw [Int.floor_intCast_add, Int.floor_eq_zero_iff.mpr ⟨by norm_num, by norm_num⟩, add_zero]
    · rw [sub_eq_add_neg, Int.ceil_intCast_add, Int.ceil_eq_zero_iff.mpr ⟨by norm_num, by norm_num⟩,
        add_zero]
  rw [roundTradeBuilderSignedQty, hround, ← h]
  field_simp

theorem IsShareQty.delta {qty baseline : ℚ} (h : IsShareQty qty) (hb : IsShareQty baseline) :
    roundTradeBuilderSignedQty (qty - baseline) = qty - baseline := by
  obtain ⟨-, n, hn⟩ := h
  obtain ⟨-, m, hm⟩ := hb
  refine roundSignedQty_of_int (n := n - m) ?_
  rw [sub_mul, hn, hm]
  push_cast
  rfl

theorem visibleQty_isShareQty {value : Option ℚ} {qty : ℚ}
    (h : normalizeTradeBuilderVisibleInventoryQty value = some qty) : IsShareQty qty := by
  rw [normalizeTradeBuilderVisibleInventoryQty, Option.map_eq_some_iff] at h
  obtain ⟨raw, -, hround⟩ := h
  rw [← hround]
  exact roundShareQty_isShareQty raw

theorem row_recorded (observation : PendingFirstVisibleObservation) (actualVisibleQty : ℚ) :
    Recorded (observation.row actualVisibleQty) :=
  ⟨⟨_, rfl, roundShareQty_isShareQty _⟩, fun _ h => visibleQty_isShareQty h, rfl⟩

theorem Recorded.seedQty {row : FirstVisibleObservation} (h : Recorded row) :
    (tradeBuilderParentPositionSeedQty (some row.seed) 0).1 = row.actualVisibleQty.getD 0 := by
  obtain ⟨qty, hqty, hshare⟩ := h.actual
  have hnormal : normalizeTradeBuilderVisibleInventoryQty (some qty) = some qty := by
    simp [normalizeTradeBuilderVisibleInventoryQty, Option.filter, hshare.1, hshare.round]
  simp [tradeBuilderParentPositionSeedQty, FirstVisibleObservation.seed, hqty, hnormal]

theorem Recorded.delta_iff {row : FirstVisibleObservation} (h : Recorded row) :
    (∀ delta ∈ row.visibleDeltaQty, row.actualVisibleQty.getD 0 = delta) ↔
      ∀ baseline ∈ row.baselineVisibleQty, baseline = 0 := by
  obtain ⟨qty, hqty, hshare⟩ := h.actual
  rw [h.delta, hqty]
  cases hb : row.baselineVisibleQty with
  | none => simp
  | some baseline =>
    have hdelta := hshare.delta (h.baseline baseline hb)
    simp only [Option.map_some, Option.getD_some, Option.mem_some_iff, forall_eq', hdelta]
    constructor <;> intro heq <;> linarith

theorem creditedQty_le_zero_iff (row : FirstVisibleObservation) {rebases : List Rebase}
    (h : ∀ rebase ∈ rebases, 0 < rebase.qty) :
    creditedQty row rebases ≤ 0 ↔ ∀ rebase ∈ rebases, rebase.row.sameToken row = false := by
  induction rebases with
  | nil => simp [creditedQty]
  | cons rebase earlier ih =>
    have hrest := ih fun e he => h e (List.mem_cons_of_mem _ he)
    have hpos := h rebase List.mem_cons_self
    have hnonneg : 0 ≤ creditedQty row earlier := by
      refine List.sum_nonneg fun qty hqty => ?_
      obtain ⟨e, he, rfl⟩ := List.mem_map.mp hqty
      exact (h e (List.mem_cons_of_mem _ (List.mem_filter.mp he).1)).le
    cases hsame : rebase.row.sameToken row with
    | true =>
      have hcredit : creditedQty row (rebase :: earlier) = rebase.qty + creditedQty row earlier := by
        simp [creditedQty, hsame]
      refine iff_of_false (by rw [hcredit]; linarith) fun hall => ?_
      have := hall rebase List.mem_cons_self
      rw [hsame] at this
      cases this
    | false =>
      have hcredit : creditedQty row (rebase :: earlier) = creditedQty row earlier := by
        simp [creditedQty, hsame]
      rw [hcredit, hrest, List.forall_mem_cons]
      exact (and_iff_right hsame).symm

end Quantities

structure WalletOk (w : WalletLedger) : Prop where
  recorded : ∀ id row, w.store.observations id = some row → Recorded row
  attributed : Attributed w.rebases
  positive : ∀ rebase ∈ w.rebases, 0 < rebase.qty

/-- A thread writes a row from the seed it read last, and records only what it observed. -/
def seedProtocol :
    Protocol Call Answer Failure (ℤ → Option TradeBuilderParentPositionSeed) where
  next s c x :=
    match c, x with
    | .getParentPositionSeed id, .ok seed => Function.update s id seed
    | _, _ => s
  allows s c :=
    match c with
    | .upsertParentPosition id input =>
      ∃ seed, s id = some seed ∧
        input.currentQty = (tradeBuilderParentPositionSeedQty (some seed) 0).1 ∧
        0 < input.currentQty
    | .insertFirstVisible _ row => Recorded row
    | _ => True

/-- A seed that was read is the seed of the row there is: rows of observations stay. -/
def SeedRead {ι : Type} (_ : ι) (s : ℤ → Option TradeBuilderParentPositionSeed)
    (w : WalletLedger) : Prop :=
  ∀ id seed, s id = some seed → ∃ row, w.store.observations id = some row ∧ row.seed = seed

section Steps
variable {ι : Type} {i : ι} {w : WalletLedger} {r : WalletReply}
variable {s : ℤ → Option TradeBuilderParentPositionSeed}

theorem walletAct_fails (hf : r.reply.fails = true) (c : Call) :
    walletAct i c w r = (.error (), { w with store := r.arrive w.store }) := by
  rw [walletAct, if_pos hf]

theorem walletAct_answers (hf : ¬ r.reply.fails = true) (c : Call) :
    walletAct i c w r = ((answer c (r.arrive w.store) r.reply).1,
      { w.note c with store := (answer c (r.arrive w.store) r.reply).2 }) := by
  rw [walletAct, if_neg hf]

theorem observation_stays {c : Call} {id : ℤ} {row : FirstVisibleObservation}
    (h : w.store.observations id = some row) :
    (walletAct i c w r).2.store.observations id = some row := by
  by_cases hf : r.reply.fails = true
  · rw [walletAct_fails hf]
    exact h
  · rw [walletAct_answers hf]
    cases c with
    | insertFirstVisible id' row' =>
      simp only [answer, WalletReply.arrive]
      by_cases hid : id = id'
      · subst hid
        rw [Function.update_self, h]
        rfl
      · rw [Function.update_of_ne hid]
        exact h
    | _ => exact h

theorem SeedRead.stays (hs : SeedRead i s w) (c : Call) {j : ι} :
    SeedRead i s (walletAct j c w r).2 := by
  intro id seed hseed
  obtain ⟨row, hrow, hrowSeed⟩ := hs id seed hseed
  exact ⟨row, observation_stays hrow, hrowSeed⟩

theorem SeedRead.next (hs : SeedRead i s w) (c : Call) :
    SeedRead i (seedProtocol.next s c (walletAct i c w r).1) (walletAct i c w r).2 := by
  have hstays := hs.stays (r := r) (j := i) c
  cases c with
  | getParentPositionSeed id =>
    by_cases hf : r.reply.fails = true
    · rw [walletAct_fails hf] at hstays ⊢
      exact hstays
    · rw [walletAct_answers hf] at hstays ⊢
      intro id' seed hseed
      simp only [seedProtocol, answer, WalletReply.arrive] at hseed
      by_cases hid : id' = id
      · subst hid
        rw [Function.update_self, Option.map_eq_some_iff] at hseed
        exact hseed
      · rw [Function.update_of_ne hid] at hseed
        exact hstays id' seed hseed
  | _ => exact hstays

theorem recorded_step (h : ∀ id row, w.store.observations id = some row → Recorded row) (c : Call)
    (hc : seedProtocol.allows s c) :
    ∀ id row, (walletAct i c w r).2.store.observations id = some row → Recorded row := by
  by_cases hf : r.reply.fails = true
  · rw [walletAct_fails hf]
    exact h
  · rw [walletAct_answers hf]
    cases c with
    | insertFirstVisible id' row' =>
      intro id row hrow
      simp only [answer, WalletReply.arrive] at hrow
      by_cases hid : id = id'
      · subst hid
        rw [Function.update_self, Option.some.injEq] at hrow
        cases hold : w.store.observations id with
        | none =>
          rw [hold, Option.getD_none] at hrow
          exact hrow ▸ hc
        | some old =>
          rw [hold, Option.getD_some] at hrow
          exact hrow ▸ h id old hold
      · rw [Function.update_of_ne hid] at hrow
        exact h id row hrow
    | _ => exact h

def writesRow : Call → Bool
  | .upsertParentPosition _ _ => true
  | _ => false

theorem rebases_unwritten {c : Call} (hc : writesRow c = false) :
    (walletAct i c w r).2.rebases = w.rebases := by
  by_cases hf : r.reply.fails = true
  · rw [walletAct_fails hf]
  · rw [walletAct_answers hf]
    cases c with
    | upsertParentPosition id input => cases hc
    | _ => rfl

theorem upsert_rebases (h : WalletOk w) (hs : SeedRead i s w) {id : ℤ}
    {input : TradeBuilderParentPosition}
    (hc : seedProtocol.allows s (.upsertParentPosition id input)) (hf : ¬ r.reply.fails = true) :
    ∃ row, w.store.observations id = some row ∧ Recorded row ∧
      input.currentQty = row.actualVisibleQty.getD 0 ∧
      (walletAct i (.upsertParentPosition id input) w r).2.rebases =
        ⟨id, row, input.currentQty⟩ :: w.rebases := by
  obtain ⟨seed, hseed, hqty, -⟩ := hc
  obtain ⟨row, hrow, hrowSeed⟩ := hs id seed hseed
  have hrecorded := h.recorded id row hrow
  refine ⟨row, hrow, hrecorded, ?_, ?_⟩
  · rw [hqty, ← hrowSeed, hrecorded.seedQty]
  · rw [walletAct_answers hf]
    simp [WalletLedger.note, hrow]

theorem upsert_law (h : WalletOk w) (hs : SeedRead i s w) {id : ℤ}
    {input : TradeBuilderParentPosition}
    (hc : seedProtocol.allows s (.upsertParentPosition id input)) :
    Attributed (walletAct i (.upsertParentPosition id input) w r).2.rebases ↔
      RebasesFirst i (.upsertParentPosition id input) w r := by
  by_cases hf : r.reply.fails = true
  · rw [walletAct_fails hf]
    exact iff_of_true h.attributed (.inl hf)
  · obtain ⟨row, hrow, hrecorded, hqty, hrebases⟩ := upsert_rebases h hs hc hf
    have hcredit := creditedQty_le_zero_iff row h.positive
    have hfirst : RebasesFirst i (.upsertParentPosition id input) w r ↔
        FirstOfToken w.rebases row := by
      simp [RebasesFirst, hf, hrow]
    rw [hrebases, hfirst, Attributed, FirstOfToken, hqty, hrecorded.delta_iff, ← hcredit]
    constructor
    · rintro ⟨hle, hbaseline, -⟩
      exact ⟨by linarith, hbaseline⟩
    · rintro ⟨hle, hbaseline⟩
      exact ⟨by linarith, hbaseline, h.attributed⟩

theorem wallet_law (h : WalletOk w) (hs : SeedRead i s w) (c : Call)
    (hc : seedProtocol.allows s c) :
    Attributed (walletAct i c w r).2.rebases ↔ RebasesFirst i c w r := by
  cases hw : writesRow c with
  | false =>
    have hrebases := rebases_unwritten (i := i) (w := w) (r := r) hw
    rw [hrebases]
    cases c with
    | upsertParentPosition id input => cases hw
    | _ => exact iff_of_true h.attributed trivial
  | true =>
    cases c with
    | upsertParentPosition id input => exact upsert_law h hs hc
    | _ => cases hw

theorem wallet_step (h : WalletOk w) (hs : SeedRead i s w) (c : Call)
    (hc : seedProtocol.allows s c) (hok : RebasesFirst i c w r) :
    WalletOk (walletAct i c w r).2 ∧
      SeedRead i (seedProtocol.next s c (walletAct i c w r).1) (walletAct i c w r).2 ∧
        ∀ j ≠ i, ∀ t, SeedRead j t w → SeedRead j t (walletAct i c w r).2 := by
  refine ⟨⟨recorded_step h.recorded c hc, (wallet_law h hs c hc).mpr hok, ?_⟩, hs.next c,
    fun j _ t ht => ht.stays c⟩
  cases hw : writesRow c with
  | false =>
    rw [rebases_unwritten hw]
    exact h.positive
  | true =>
    cases c with
    | upsertParentPosition id input =>
      by_cases hf : r.reply.fails = true
      · rw [walletAct_fails hf]
        exact h.positive
      · obtain ⟨row, -, -, -, hrebases⟩ := upsert_rebases h hs hc hf
        obtain ⟨seed, -, -, hpos⟩ := hc
        rw [hrebases]
        exact List.forall_mem_cons.mpr ⟨hpos, h.positive⟩
    | _ => cases hw

end Steps

section Pass
variable {α β : Type}

/-- The job keeps to the protocol whatever its thread has read before. -/
def Observes (job : Job α) : Prop := ∀ s, job.Obeys seedProtocol (fun _ _ => True) s

theorem Observes.bind {job : Job α} {f : α → Job β} (h : Observes job)
    (hf : ∀ a, Observes (f a)) : Observes (job >>= f) :=
  fun s => obeys_bind (h s) (fun a t _ => hf a t) fun _ _ _ => trivial

theorem Observes.attempt {job : Job α} {f : Except Failure α → Job β} (h : Observes job)
    (hf : ∀ x, Observes (f x)) : Observes (Prog.attempt job >>= f) :=
  fun s => obeys_attempt (h s) fun x t _ => hf x t

theorem observes_pure (a : α) : Observes (pure a : Job α) := fun _ => trivial

theorem observes_run {c : Call} (hc : ∀ s, seedProtocol.allows s c) : Observes (run c) := by
  refine fun s => ⟨hc s, fun x => ?_⟩
  cases x <;> trivial

theorem Observes.ignore {job : Job Unit} (h : Observes job) : Observes (ignore job) :=
  h.attempt fun _ => observes_pure _

theorem rebase_observes (id : ℤ) :
    Observes (maybeRebaseTradeBuilderParentPositionFromFirstVisibleInventory id) := by
  refine (observes_run (c := .getOrder id) fun _ => trivial).bind fun found => ?_
  cases found with
  | false => exact observes_pure _
  | true =>
    refine fun s => obeys_perform trivial (fun seed => ?_) fun _ => trivial
    cases seed with
    | none => trivial
    | some seed =>
      by_cases hqty : (tradeBuilderParentPositionSeedQty (some seed) 0).1 ≤
          tradeBuilderExitQtyTolerance
      · simp only [if_pos hqty]
        trivial
      · simp only [if_neg hqty]
        have hpos : 0 < (tradeBuilderParentPositionSeedQty (some seed) 0).1 :=
          lt_trans (by norm_num [tradeBuilderExitQtyTolerance]) (not_le.mp hqty)
        refine obeys_perform trivial (fun existing => ?_) fun _ => trivial
        by_cases hcan : canRebaseExisting existing = true
        · simp only [if_pos hcan]
          have hread : seedProtocol.next s (.getParentPositionSeed id) (.ok (some seed)) id =
              some seed := Function.update_self ..
          refine obeys_perform ⟨seed, hread, rfl, hpos⟩ (fun _ => ?_) fun _ => trivial
          exact observes_run (c := .appendEvent _ _) (fun _ => trivial) _
        · simp only [if_neg hcan]
          trivial

theorem applyFirstVisible_observes (observation : PendingFirstVisibleObservation) (qty : ℚ) :
    Observes (applyTradeBuilderFirstVisibleInventory observation qty) := by
  unfold applyTradeBuilderFirstVisibleInventory
  split
  · have hrecorded : ∀ s, seedProtocol.allows s (.insertFirstVisible
        observation.parentBuilderOrderId (observation.row qty)) :=
      fun _ => row_recorded observation qty
    exact (observes_run hrecorded).bind fun _ => (rebase_observes _).ignore
  · exact observes_pure _

theorem applyReadResult_observes (now : ℤ) (observation : PendingFirstVisibleObservation)
    (result : InventoryObservationReadResult) :
    Observes (applyReadResult now observation result) := by
  cases result with
  | visible qty => exact applyFirstVisible_observes observation qty
  | notVisible =>
    simp only [applyReadResult]
    split
    · exact observes_run (c := .insertTerminalNotVisible _ _) fun _ => trivial
    · exact observes_pure _
  | readError => exact observes_pure _

theorem readInventory_observes (observation : PendingFirstVisibleObservation)
    (caches : PassCaches) : Observes (readInventory observation caches) := by
  have hsnapshot : Observes (positionsSnapshot observation.userId caches) := by
    unfold positionsSnapshot
    cases caches.positionsSnapshot.lookup observation.userId with
    | some entry => exact observes_pure _
    | none =>
      exact (observes_run (c := .inventorySnapshot _) fun _ => trivial).attempt
        fun _ => observes_pure _
  have hentry : ∀ entry, Observes (readSnapshotEntry observation entry) := by
    intro entry
    cases entry with
    | snapshot snapshot => exact observes_pure _
    | unsupported =>
      refine (observes_run (c := .availableTokenQty _ _) fun _ => trivial).attempt fun x => ?_
      cases x <;> exact observes_pure _
    | readError => exact observes_pure _
  unfold readInventory
  split
  · exact observes_pure _
  · cases caches.observation.lookup (observation.userId, observation.tokenId) with
    | some result => exact observes_pure _
    | none => exact hsnapshot.bind fun _ => (hentry _).bind fun _ => observes_pure _

theorem observeInventory_observes (now : ℤ) (observation : PendingFirstVisibleObservation)
    (caches : PassCaches) : Observes (observeInventory now observation caches) := by
  unfold observeInventory
  split
  · exact (observes_run (c := .insertTerminalNotVisible _ _) fun _ => trivial).ignore.bind
      fun _ => observes_pure _
  · have hprepare : Observes (prepareUser observation.userId) :=
      (observes_run (c := .userExecutor _) fun _ => trivial).bind fun _ =>
        observes_run (c := .syncInitialFills _) fun _ => trivial
    refine hprepare.attempt fun x => ?_
    cases x with
    | error e => exact observes_pure _
    | ok a =>
      exact (readInventory_observes observation caches).bind fun _ =>
        (applyReadResult_observes now observation _).ignore.bind fun _ => observes_pure _

theorem loop_observes (now : ℤ) (pending : List PendingFirstVisibleObservation)
    (caches : PassCaches) : Observes (inventoryObservationLoop now pending caches) := by
  induction pending generalizing caches with
  | nil => exact observes_pure _
  | cons observation rest ih =>
    exact (observeInventory_observes now observation caches).bind fun caches => ih caches

/-- A pass at the time `now`, over the observations pending then. -/
structure ObservationPass where
  now : ℤ
  pending : List PendingFirstVisibleObservation
  deriving DecidableEq, Repr

variable {ι : Type} [DecidableEq ι]

/-- Passes over a store in which nothing has been observed yet. -/
def observationPool (orders : ℤ → Bool) (positions : ℤ → Option TradeBuilderParentPosition)
    (passes : ι → ObservationPass) : Pool ι Call Answer Failure WalletLedger where
  world := { store := { orders, positions } }
  thread i := inventoryObservationPass (passes i).now (passes i).pending

/-- Every rebase credits what became visible to its parent, and no token is credited beyond
the wallet, exactly when only the first parent of a token is rebased, over a wallet without
it. -/
theorem inventory_attributed_iff (orders : ℤ → Bool)
    (positions : ℤ → Option TradeBuilderParentPosition) (passes : ι → ObservationPass)
    (schedule : List (ι × WalletReply)) :
    Pool.Always walletAct (fun w => Attributed w.rebases) (observationPool orders positions passes)
        schedule ↔
      Pool.Meets walletAct RebasesFirst (observationPool orders positions passes) schedule := by
  have hstart : WalletOk (observationPool orders positions passes).world := by
    refine ⟨fun _ _ hrow => ?_, trivial, fun _ hmem => ?_⟩
    · cases hrow
    · cases hmem
  have hsound : Pool.Sound seedProtocol WalletOk SeedRead
      (observationPool orders positions passes) := by
    refine ⟨hstart, fun i => ⟨fun _ => none, fun _ _ hseed => ?_, loop_observes _ _ _ _⟩⟩
    cases hseed
  exact hsound.always_iff_meets (fun _ _ c _ _ h hs hc => wallet_law h hs c hc)
    (fun _ _ c _ _ h hs hc hok => wallet_step h hs c hc hok) (fun _ h => h.attributed) schedule

end Pass

/-- Two buys of a token, of 10 shares each: the second over the 10 of the first. -/
def twoBuys : Bool → ObservationPass
  | false =>
    { now := 60
      pending := [{ parentBuilderOrderId := 1, userId := 7, tokenId := "up"
                    baselineVisibleQty := some 0, resolvedFillQty := some 10
                    fillReferencePrice := some (1 / 2) }] }
  | true =>
    { now := 120
      pending := [{ parentBuilderOrderId := 2, userId := 7, tokenId := "up"
                    baselineVisibleQty := some 10, resolvedFillQty := some 10
                    fillReferencePrice := some (1 / 2) }] }

/-- The wallet holds 10 shares in the first pass and 20 in the second. -/
def walletOf (pass : Bool) : WalletReply :=
  { reply := { snapshot := some [("up", if pass then 20 else 10)] } }

/-- The second parent is credited with all 20 shares, 10 of which are the first one's. -/
theorem wallet_credited_twice :
    ¬ Attributed (Pool.run walletAct (observationPool (fun _ => true) (fun _ => none) twoBuys)
      ((List.replicate 10 false ++ List.replicate 10 true).map fun pass =>
        (pass, walletOf pass))).world.rebases := by
  decide +kernel

end PolymarketBot.Positions
