import Mathlib.Tactic.Linarith
import PolymarketBot.Lib.Threads
import PolymarketBot.Positions.Inventory

/-! Child sells against rebases of the same positions, statement by statement in any order:
when an applied sell stays applied. -/

namespace PolymarketBot.Positions
open Lib Prog Builder

variable {ι : Type}

/-- The store with its history: how many sells were applied to each position and how much
they sold, and how many there were when a thread last read the position. -/
structure Ledger (ι : Type) where
  store : Store
  fills : ℤ → ℕ := fun _ => 0
  applied : ℤ → ℚ := fun _ => 0
  readAt : ι → ℤ → ℕ := fun _ _ => 0

variable [DecidableEq ι]

def Ledger.note (i : ι) (c : Call) (w : Ledger ι) : Ledger ι :=
  match c with
  | .getParentPosition id =>
    { w with readAt := Function.update w.readAt i (Function.update (w.readAt i) id (w.fills id)) }
  | .applyParentPositionFill id filledQty _ _ =>
    if (w.store.positions id).isSome then
      { w with fills := Function.update w.fills id (w.fills id + 1)
               applied := Function.update w.applied id (w.applied id + filledQty) }
    else w
  | _ => w

def ledgerAct (i : ι) (c : Call) (w : Ledger ι) (r : Reply) :
    Except Failure (Answer c) × Ledger ι :=
  if r.fails then (.error (), w)
  else ((answer c w.store r).1, { w.note i c with store := (answer c w.store r).2 })

/-- No position shows more than its baseline less what was sold from it. -/
def SellsKept (w : Ledger ι) : Prop :=
  ∀ id row, w.store.positions id = some row →
    row.currentQty ≤ max 0 (row.baselineQty - w.applied id)

/-- A row is written anew only by a thread whose last read of it no sell has overtaken. -/
def ReadIsCurrent (i : ι) (c : Call) (w : Ledger ι) (r : Reply) : Prop :=
  match c with
  | .upsertParentPosition id _ => r.fails = true ∨ w.readAt i id = w.fills id
  | _ => True

instance (i : ι) (c : Call) (w : Ledger ι) (r : Reply) : Decidable (ReadIsCurrent i c w r) := by
  unfold ReadIsCurrent
  split <;> infer_instance

def QtySource.isChildFill : QtySource → Bool
  | .childFill _ => true
  | _ => false

/-- The reads a thread relies on: its last read of this row showed none, or one that no sell
has written. -/
def rowProtocol : Protocol Call Answer Failure (ℤ → Bool) where
  next s c x :=
    match c, x with
    | .getParentPosition id, .ok row =>
      Function.update s id (row.all fun position => !position.qtySource.isChildFill)
    | _, _ => s
  allows s c :=
    match c with
    | .upsertParentPosition id input =>
      s id = true ∧ 0 < input.baselineQty ∧ input.currentQty = input.baselineQty
    | .applyParentPositionFill _ filledQty _ source => 0 < filledQty ∧ source.isChildFill = true
    | _ => True

structure LedgerOk (w : Ledger ι) : Prop where
  kept : SellsKept w
  nonneg : ∀ id, 0 ≤ w.applied id
  counted : ∀ id, 0 < w.fills id ↔ 0 < w.applied id
  marked : ∀ id, 0 < w.fills id →
    ∃ row, w.store.positions id = some row ∧ row.qtySource.isChildFill = true

/-- What a thread relies on was read before any sell. -/
def ReadBeforeSells (i : ι) (s : ℤ → Bool) (w : Ledger ι) : Prop :=
  ∀ id, s id = true → w.readAt i id = 0

section Steps
variable {w : Ledger ι} {i : ι} {s : ℤ → Bool} {r : Reply}

theorem ledgerAct_fails (hf : r.fails = true) (c : Call) :
    ledgerAct i c w r = (.error (), w) := by
  rw [ledgerAct, if_pos hf]

theorem ledgerAct_answers (hf : ¬ r.fails = true) (c : Call) :
    ledgerAct i c w r =
      ((answer c w.store r).1, { w.note i c with store := (answer c w.store r).2 }) := by
  rw [ledgerAct, if_neg hf]

/-- Of all calls only these three touch a position or what is noted of it. -/
def touches : Call → Bool
  | .getParentPosition _ | .upsertParentPosition _ _ | .applyParentPositionFill _ _ _ _ => true
  | _ => false

structure SameRows (w w' : Ledger ι) : Prop where
  positions : w'.store.positions = w.store.positions
  fills : w'.fills = w.fills
  applied : w'.applied = w.applied

omit [DecidableEq ι] in
theorem SameRows.kept {w' : Ledger ι} (hs : SameRows w w') : SellsKept w' ↔ SellsKept w := by
  rw [SellsKept, SellsKept, hs.positions, hs.applied]

omit [DecidableEq ι] in
theorem SameRows.ledgerOk {w' : Ledger ι} (hs : SameRows w w') (h : LedgerOk w) :
    LedgerOk w' := by
  refine ⟨hs.kept.mpr h.kept, ?_, ?_, ?_⟩
  · rw [hs.applied]
    exact h.nonneg
  · rw [hs.applied, hs.fills]
    exact h.counted
  · rw [hs.positions, hs.fills]
    exact h.marked

theorem ledgerAct_untouched {c : Call} (hc : touches c = false) :
    SameRows w (ledgerAct i c w r).2 ∧ (ledgerAct i c w r).2.readAt = w.readAt ∧
      ∀ x, rowProtocol.next s c x = s := by
  have hnext : ∀ x, rowProtocol.next s c x = s := by
    cases c with
    | getParentPosition id => cases hc
    | _ => exact fun x => rfl
  by_cases hf : r.fails = true
  · rw [ledgerAct_fails hf]
    exact ⟨⟨rfl, rfl, rfl⟩, rfl, hnext⟩
  · rw [ledgerAct_answers hf]
    refine ⟨?_, ?_, hnext⟩
    all_goals
      cases c with
      | getParentPosition id => cases hc
      | upsertParentPosition id input => cases hc
      | applyParentPositionFill id qty price source => cases hc
      | _ => first | exact ⟨rfl, rfl, rfl⟩ | rfl

omit [DecidableEq ι] in
theorem LedgerOk.unsold (h : LedgerOk w) {id : ℤ} :
    w.fills id = 0 ↔ w.applied id = 0 := by
  have hcounted := h.counted id
  have hnonneg := h.nonneg id
  constructor
  · intro hf
    by_contra hne
    have hpos : 0 < w.applied id := lt_of_le_of_ne hnonneg (Ne.symm hne)
    have := hcounted.mpr hpos
    omega
  · intro ha
    by_contra hne
    have := hcounted.mp (Nat.pos_of_ne_zero hne)
    linarith

omit [DecidableEq ι] in
theorem LedgerOk.read_unsold (h : LedgerOk w) {id : ℤ}
    (hrow : (w.store.positions id).all (fun position => !position.qtySource.isChildFill) = true) :
    w.fills id = 0 := by
  by_contra hne
  obtain ⟨row, hsome, hchild⟩ := h.marked id (Nat.pos_of_ne_zero hne)
  rw [hsome] at hrow
  simp [hchild] at hrow

theorem read_step (h : LedgerOk w) (hs : ReadBeforeSells i s w) (id : ℤ) :
    SameRows w (ledgerAct i (.getParentPosition id) w r).2 ∧
      ReadBeforeSells i (rowProtocol.next s (.getParentPosition id)
        (ledgerAct i (.getParentPosition id) w r).1) (ledgerAct i (.getParentPosition id) w r).2 ∧
      ∀ j ≠ i, ∀ t, ReadBeforeSells j t w →
        ReadBeforeSells j t (ledgerAct i (.getParentPosition id) w r).2 := by
  by_cases hf : r.fails = true
  · rw [ledgerAct_fails hf]
    exact ⟨⟨rfl, rfl, rfl⟩, hs, fun _ _ _ ht => ht⟩
  · rw [ledgerAct_answers hf]
    refine ⟨⟨rfl, rfl, rfl⟩, ?_, ?_⟩
    · intro id' hid'
      simp only [answer, rowProtocol, Ledger.note, Function.update_self] at hid' ⊢
      by_cases hid : id' = id
      · subst hid
        rw [Function.update_self] at hid' ⊢
        exact h.read_unsold hid'
      · rw [Function.update_of_ne hid] at hid' ⊢
        exact hs id' hid'
    · intro j hj t ht id' hid'
      simp only [Ledger.note, Function.update_of_ne hj]
      exact ht id' hid'

theorem upsert_kept_iff (h : LedgerOk w) (hs : ReadBeforeSells i s w) {id : ℤ}
    {input : TradeBuilderParentPosition}
    (hc : rowProtocol.allows s (.upsertParentPosition id input)) :
    SellsKept (ledgerAct i (.upsertParentPosition id input) w r).2 ↔
      ReadIsCurrent i (.upsertParentPosition id input) w r := by
  obtain ⟨hsid, hpos, hsame⟩ := hc
  by_cases hf : r.fails = true
  · rw [ledgerAct_fails hf]
    exact iff_of_true h.kept (.inl hf)
  · rw [ledgerAct_answers hf]
    have hread : w.readAt i id = 0 := hs id hsid
    constructor
    · intro hkept
      have hrow := hkept id input (by simp [answer])
      simp only [Ledger.note] at hrow
      rw [hsame] at hrow
      have hzero : w.applied id = 0 := by
        have hnonneg := h.nonneg id
        rcases le_max_iff.mp hrow with hle | hle <;> linarith
      exact .inr (by rw [hread, h.unsold.mpr hzero])
    · intro hcurrent
      have hfills : w.fills id = 0 := by
        have := hcurrent.resolve_left hf
        omega
      intro id' row hrow
      simp only [answer] at hrow
      simp only [Ledger.note]
      by_cases hid : id' = id
      · subst hid
        rw [Function.update_self, Option.some.injEq] at hrow
        rw [← hrow, hsame, h.unsold.mp hfills, sub_zero]
        exact le_max_right _ _
      · rw [Function.update_of_ne hid] at hrow
        exact h.kept id' row hrow

theorem upsert_ledgerOk (h : LedgerOk w) (hs : ReadBeforeSells i s w) {id : ℤ}
    {input : TradeBuilderParentPosition}
    (hc : rowProtocol.allows s (.upsertParentPosition id input))
    (hok : ReadIsCurrent i (.upsertParentPosition id input) w r) :
    LedgerOk (ledgerAct i (.upsertParentPosition id input) w r).2 := by
  have hkept := (upsert_kept_iff h hs hc).mpr hok
  by_cases hf : r.fails = true
  · rw [ledgerAct_fails hf]
    exact h
  · rw [ledgerAct_answers hf] at hkept ⊢
    refine ⟨hkept, h.nonneg, h.counted, fun id' hid' => ?_⟩
    have hfills : w.fills id = 0 := by
      have hread : w.readAt i id = 0 := hs id hc.1
      have := hok.resolve_left hf
      omega
    have hne : id' ≠ id := by
      intro heq
      simp only [Ledger.note, heq, hfills] at hid'
      omega
    simpa [answer, Function.update_of_ne hne] using h.marked id' hid'

theorem fill_ledgerOk (h : LedgerOk w) {id : ℤ} {qty : ℚ} {price : Option ℚ} {source : QtySource}
    (hc : rowProtocol.allows s (.applyParentPositionFill id qty price source)) :
    LedgerOk (ledgerAct i (.applyParentPositionFill id qty price source) w r).2 := by
  obtain ⟨hqty, hsource⟩ := hc
  by_cases hf : r.fails = true
  · rw [ledgerAct_fails hf]
    exact h
  · rw [ledgerAct_answers hf]
    cases hrow : w.store.positions id with
    | none =>
      have hstore : Function.update w.store.positions id none = w.store.positions := by
        rw [← hrow, Function.update_eq_self]
      refine SameRows.ledgerOk ⟨?_, ?_, ?_⟩ h
      · simp [answer, hrow, hstore]
      · simp [Ledger.note, hrow]
      · simp [Ledger.note, hrow]
    | some position =>
      simp only [Ledger.note, answer, hrow, Option.isSome_some, if_true, Option.map_some]
      refine ⟨?_, ?_, ?_, ?_⟩
      · intro id' row hrow'
        simp only at hrow' ⊢
        by_cases hid : id' = id
        · subst hid
          rw [Function.update_self, Option.some.injEq] at hrow'
          have hkept := h.kept id' position hrow
          rw [← hrow', Function.update_self]
          simp only [TradeBuilderParentPosition.applyFill]
          refine max_le (le_max_left _ _) ?_
          rcases le_max_iff.mp hkept with hle | hle
          · exact le_max_of_le_left (by linarith)
          · exact le_max_of_le_right (by linarith)
        · rw [Function.update_of_ne hid] at hrow' ⊢
          exact h.kept id' row hrow'
      · intro id'
        simp only
        by_cases hid : id' = id
        · subst hid
          rw [Function.update_self]
          have := h.nonneg id'
          linarith
        · rw [Function.update_of_ne hid]
          exact h.nonneg id'
      · intro id'
        simp only
        by_cases hid : id' = id
        · subst hid
          rw [Function.update_self, Function.update_self]
          have := h.nonneg id'
          exact iff_of_true (by omega) (by linarith)
        · rw [Function.update_of_ne hid, Function.update_of_ne hid]
          exact h.counted id'
      · intro id' hid'
        simp only at hid' ⊢
        by_cases hid : id' = id
        · subst hid
          exact ⟨_, by rw [Function.update_self], hsource⟩
        · rw [Function.update_of_ne hid] at hid' ⊢
          exact h.marked id' hid'

theorem readAt_of_ne {c : Call} (hc : ∀ id, c ≠ .getParentPosition id) :
    (ledgerAct i c w r).2.readAt = w.readAt := by
  by_cases hf : r.fails = true
  · rw [ledgerAct_fails hf]
  · rw [ledgerAct_answers hf]
    cases c with
    | getParentPosition id => exact absurd rfl (hc id)
    | applyParentPositionFill id qty price source =>
      simp only [Ledger.note]
      split <;> rfl
    | _ => rfl

theorem ledger_law (h : LedgerOk w) (hs : ReadBeforeSells i s w) (c : Call)
    (hc : rowProtocol.allows s c) :
    SellsKept (ledgerAct i c w r).2 ↔ ReadIsCurrent i c w r := by
  cases c with
  | upsertParentPosition id input => exact upsert_kept_iff h hs hc
  | getParentPosition id =>
    exact iff_of_true ((read_step h hs id).1.kept.mpr h.kept) trivial
  | applyParentPositionFill id qty price source =>
    exact iff_of_true (fill_ledgerOk h hc).kept trivial
  | _ => exact iff_of_true ((ledgerAct_untouched (s := s) rfl).1.kept.mpr h.kept) trivial

theorem ledger_step (h : LedgerOk w) (hs : ReadBeforeSells i s w) (c : Call)
    (hc : rowProtocol.allows s c) (hok : ReadIsCurrent i c w r) :
    LedgerOk (ledgerAct i c w r).2 ∧
      ReadBeforeSells i (rowProtocol.next s c (ledgerAct i c w r).1) (ledgerAct i c w r).2 ∧
        ∀ j ≠ i, ∀ t, ReadBeforeSells j t w → ReadBeforeSells j t (ledgerAct i c w r).2 := by
  have hreads : ∀ (hne : ∀ id, c ≠ .getParentPosition id) (j : ι) (t : ℤ → Bool),
      ReadBeforeSells j t w → ReadBeforeSells j t (ledgerAct i c w r).2 := by
    intro hne j t ht id hid
    rw [readAt_of_ne hne]
    exact ht id hid
  cases ht : touches c with
  | false =>
    obtain ⟨hrows, hreadAt, hnext⟩ := ledgerAct_untouched (w := w) (i := i) (r := r) (s := s) ht
    have hread : ∀ (j : ι) (t : ℤ → Bool), ReadBeforeSells j t w →
        ReadBeforeSells j t (ledgerAct i c w r).2 := by
      intro j t hj id hid
      rw [hreadAt]
      exact hj id hid
    refine ⟨hrows.ledgerOk h, ?_, fun j _ => hread j⟩
    rw [hnext]
    exact hread i s hs
  | true =>
    cases c with
    | getParentPosition id =>
      obtain ⟨hrows, hown, hother⟩ := read_step (r := r) h hs id
      exact ⟨hrows.ledgerOk h, hown, hother⟩
    | upsertParentPosition id input =>
      have hne : ∀ id', Call.upsertParentPosition id input ≠ .getParentPosition id' :=
        fun _ => nofun
      exact ⟨upsert_ledgerOk h hs hc hok, hreads hne i s hs, fun j _ => hreads hne j⟩
    | applyParentPositionFill id qty price source =>
      have hne : ∀ id', Call.applyParentPositionFill id qty price source ≠
          .getParentPosition id' := fun _ => nofun
      exact ⟨fill_ledgerOk h hc, hreads hne i s hs, fun j _ => hreads hne j⟩
    | _ => cases ht

end Steps

section Tasks

/-- What may run side by side on the positions. -/
inductive PositionTask
  | childFill (id : ℤ) (fillQty : Option ℚ) (executionPrice : ℚ) (source : Option String)
  | rebase (id : ℤ)
  | observe (id : ℤ) (row : FirstVisibleObservation)
  deriving DecidableEq, Repr

def PositionTask.job : PositionTask → Job Unit
  | childFill id fillQty executionPrice source =>
    applyTradeBuilderParentPositionChildFill id fillQty executionPrice source
  | rebase id => maybeRebaseTradeBuilderParentPositionFromFirstVisibleInventory id
  | observe id row => run (.insertFirstVisible id row)

abbrev Keeps {α : Type} (job : Job α) (s : ℤ → Bool) : Prop :=
  job.Obeys rowProtocol (fun _ _ => True) s

variable {s : ℤ → Bool}

theorem seedParentPosition_keeps {id : ℤ} (hs : s id = true) {qty : ℚ}
    (hqty : tradeBuilderExitQtyTolerance < qty) (price : Option ℚ) (source : QtySource) :
    Keeps (seedParentPosition id qty price source) s := by
  have hpos : 0 < qty := lt_trans (by norm_num [tradeBuilderExitQtyTolerance]) hqty
  refine obeys_perform ⟨hs, hpos, rfl⟩ (fun _ => ?_) fun _ => trivial
  exact obeys_perform trivial (fun _ => trivial) fun _ => trivial

theorem resolveLegacyInventory_keeps {id : ℤ} (hs : s id = true) :
    Keeps (resolveLegacyInventory id) s := by
  have hevent : Keeps (do
      run (.appendEvent id "exit_inventory_source_selected")
      pure (none : Option (ℚ × QtySource))) s :=
    obeys_perform trivial (fun _ => trivial) fun _ => trivial
  refine ⟨trivial, fun x => ?_⟩
  cases x with
  | error e => exact hevent
  | ok leg =>
    change Keeps (if tradeBuilderExitQtyTolerance < roundTradeBuilderShareQty leg.1 then
      seedParentPosition id (roundTradeBuilderShareQty leg.1) leg.2 .tradeLegPosition else _) s
    by_cases hqty : tradeBuilderExitQtyTolerance < roundTradeBuilderShareQty leg.1
    · rw [if_pos hqty]
      exact seedParentPosition_keeps hs hqty leg.2 .tradeLegPosition
    · rw [if_neg hqty]
      exact hevent

theorem resolveParentInventory_keeps (id : ℤ) :
    Keeps (resolveTradeBuilderParentExitInventory id) s := by
  refine obeys_perform trivial (fun position => ?_) fun _ => trivial
  cases position with
  | some position => exact obeys_perform trivial (fun _ => trivial) fun _ => trivial
  | none =>
    have hs : rowProtocol.next s (.getParentPosition id) (.ok none) id = true :=
      Function.update_self ..
    refine obeys_perform trivial (fun seed => ?_) fun _ => trivial
    cases seed with
    | none => exact resolveLegacyInventory_keeps hs
    | some seed =>
      simp only [resolveSeedInventory]
      split
      · exact seedParentPosition_keeps hs ‹_› _ _
      · exact resolveLegacyInventory_keeps hs

theorem childFill_keeps (id : ℤ) (fillQty : Option ℚ) (executionPrice : ℚ)
    (source : Option String) :
    Keeps (applyTradeBuilderParentPositionChildFill id fillQty executionPrice source) s := by
  unfold applyTradeBuilderParentPositionChildFill
  cases hq : normalizeTradeBuilderTerminalFillQtyCandidate fillQty with
  | none => trivial
  | some qty =>
    have hpos : 0 < qty := by
      rw [normalizeTradeBuilderTerminalFillQtyCandidate, Option.filter_eq_some_iff] at hq
      simpa using hq.2
    have happly : ∀ t, Keeps (run (.applyParentPositionFill id qty
        (normalizeTradeBuilderReferencePrice (some executionPrice))
        (tradeBuilderParentPositionFillSource source))) t := by
      refine fun t => ⟨⟨hpos, rfl⟩, fun x => ?_⟩
      cases x <;> trivial
    refine obeys_perform trivial (fun position => ?_) fun _ => trivial
    cases position with
    | some position => exact happly _
    | none =>
      exact obeys_bind (resolveParentInventory_keeps id) (fun _ t _ => happly t) fun _ _ _ => trivial

theorem canRebase_unsold {existing : Option TradeBuilderParentPosition}
    (h : canRebaseExisting existing = true) :
    existing.all (fun position => !position.qtySource.isChildFill) = true := by
  cases existing with
  | none => rfl
  | some position =>
    simp only [canRebaseExisting, Option.all_some, Bool.and_eq_true] at h
    cases hsource : position.qtySource <;> simp [hsource, QtySource.fromParentFill] at h <;>
      simp [hsource, QtySource.isChildFill]

theorem rebase_keeps (id : ℤ) :
    Keeps (maybeRebaseTradeBuilderParentPositionFromFirstVisibleInventory id) s := by
  refine obeys_perform trivial (fun found => ?_) fun _ => trivial
  cases found with
  | false => trivial
  | true =>
    refine obeys_perform trivial (fun seed => ?_) fun _ => trivial
    cases seed with
    | none => trivial
    | some seed =>
      by_cases hqty : (tradeBuilderParentPositionSeedQty (some seed) 0).1 ≤
          tradeBuilderExitQtyTolerance
      · simp only [if_pos hqty]
        trivial
      · simp only [if_neg hqty]
        have hpos : 0 < (tradeBuilderParentPositionSeedQty (some seed) 0).1 :=
          lt_trans (by norm_num [tradeBuilderExitQtyTolerance]) (not_le.mp hqty)
        refine obeys_perform trivial (fun existing => ?_) fun _ => trivial
        by_cases hcan : canRebaseExisting existing = true
        · simp only [if_pos hcan]
          have hs : rowProtocol.next s (.getParentPosition id) (.ok existing) id = true := by
            simp only [rowProtocol, Function.update_self]
            exact canRebase_unsold hcan
          refine obeys_perform ⟨hs, hpos, rfl⟩ (fun _ => ?_) fun _ => trivial
          exact ⟨trivial, fun x => by cases x <;> trivial⟩
        · simp only [if_neg hcan]
          trivial

theorem PositionTask.keeps (task : PositionTask) : Keeps task.job s := by
  cases task with
  | childFill id fillQty executionPrice source => exact childFill_keeps _ _ _ _
  | rebase id => exact rebase_keeps id
  | observe id row => exact ⟨trivial, fun x => by cases x <;> trivial⟩

/-- The tasks side by side, before any of them has made a call. -/
def startPool (store : Store) (tasks : ι → PositionTask) : Pool ι Call Answer Failure (Ledger ι) :=
  { world := { store }, thread := fun i => (tasks i).job }

/-- Child sells and rebases, statement by statement in any order: no position ever shows more
than its baseline less what was sold from it exactly when no row is written anew after a sell
that the writer's last read of the row did not see. -/
theorem child_sells_kept_iff (store : Store) (tasks : ι → PositionTask)
    (hstart : ∀ id row, store.positions id = some row → row.currentQty ≤ max 0 row.baselineQty)
    (schedule : List (ι × Reply)) :
    Pool.Always ledgerAct SellsKept (startPool store tasks) schedule ↔
      Pool.Meets ledgerAct ReadIsCurrent (startPool store tasks) schedule := by
  have hledger : LedgerOk (startPool store tasks).world := by
    refine ⟨fun id row hrow => ?_, fun _ => le_refl _, fun _ => by simp [startPool],
      fun _ hpos => ?_⟩
    · simpa [startPool] using hstart id row hrow
    · exact absurd hpos (lt_irrefl 0)
  have hsound : Pool.Sound rowProtocol LedgerOk ReadBeforeSells (startPool store tasks) :=
    ⟨hledger, fun i =>
      ⟨fun _ => false, fun _ h => absurd h Bool.false_ne_true, (tasks i).keeps⟩⟩
  exact hsound.always_iff_meets (fun _ _ c _ _ h hs hc => ledger_law h hs c hc)
    (fun _ _ c _ _ h hs hc hok => ledger_step h hs c hc hok) (fun _ h => h.kept) schedule

/-- A parent's row of 10 shares, and the observation that shows all 10 in the wallet. -/
def boughtStore : Store where
  positions id := if id = 1 then
    some { baselineQty := 10, currentQty := 10, qtySource := .parentFill "filled_size" } else none
  observations id := if id = 1 then some
    { userId := 7, tokenId := "up", baselineVisibleQty := some 0, expectedVisibleQty := some 10
      actualVisibleQty := some 10, visibleDeltaQty := some 10, referencePrice := some (1 / 2) }
    else none

def sellAndRebase : Bool → PositionTask
  | false => .childFill 1 (some 4) (3 / 5) (some "filled_size")
  | true => .rebase 1

def inOrder (turns : List Bool) : List (Bool × Reply) := turns.map fun i => (i, {})

/-- The rebase runs to its end before the sell. -/
theorem child_sells_kept_rebase_first :
    Pool.Always ledgerAct SellsKept (startPool boughtStore sellAndRebase)
      (inOrder [true, true, true, true, true, false, false]) := by
  have hstart : ∀ id row, boughtStore.positions id = some row →
      row.currentQty ≤ max 0 row.baselineQty := by
    intro id row hrow
    by_cases hid : id = 1
    · simp only [boughtStore, hid, if_true, Option.some.injEq] at hrow
      rw [← hrow]
      norm_num
    · simp [boughtStore, hid] at hrow
  exact (child_sells_kept_iff boughtStore sellAndRebase hstart _).mpr (by decide +kernel)

/-- The sell comes between the rebase's read of the row and its write. -/
theorem sell_undone_by_rebase :
    ¬ SellsKept (Pool.run ledgerAct (startPool boughtStore sellAndRebase)
      (inOrder [true, true, true, false, false, true, true])).world := by
  intro hkept
  have hrow : (Pool.run ledgerAct (startPool boughtStore sellAndRebase)
      (inOrder [true, true, true, false, false, true, true])).world.store.positions 1 =
        some { baselineQty := 10, currentQty := 10, lastFillPrice := some (1 / 2)
               qtySource := .observedActual } := by
    decide +kernel
  have hsold : (Pool.run ledgerAct (startPool boughtStore sellAndRebase)
      (inOrder [true, true, true, false, false, true, true])).world.applied 1 = 4 := by
    decide +kernel
  have hle := hkept 1 _ hrow
  rw [hsold] at hle
  norm_num at hle

end Tasks

end PolymarketBot.Positions
