import PolymarketBot.RevengeFlip.Executions

/-! When every entry is placed with no order active and no position held. -/

namespace PolymarketBot.RevengeFlip
open Lib Prog Builder TradeBuilderRevengeFlipState NodeRows
variable {ι : Type} [DecidableEq ι]

/-! ### Flat states -/

theorem remainingQty_not_open {state : TradeBuilderRevengeFlipState}
    {input : TradeBuilderRevengeFlipFillInput}
    (h : revengeFlipPositionIsOpen state.positionQty = false) :
    revengeFlipPositionIsOpen (state.remainingQty input) = false := by
  unfold revengeFlipPositionIsOpen at h ⊢
  rw [decide_eq_false_iff_not, not_lt] at h ⊢
  rw [remainingQty_exact]
  split_ifs with hsome
  · have hsold : 0 ≤ state.soldQty input := by
      unfold soldQty
      rw [if_pos hsome]
      exact le_min (le_max_right _ _) (epsilon_pos.trans hsome).le
    refine max_le ?_ (epsilon_pos.trans epsilon_lt_dust).le
    linarith
  · exact h

theorem sell_keeps_flat {state : TradeBuilderRevengeFlipState}
    {input : TradeBuilderRevengeFlipFillInput} (hsell : input.orderSide = .sell)
    (h : holdsPosition state = false) :
    holdsPosition (revengeFlipApplyFillToState state input) = false := by
  rw [applyFill_sell hsell]
  unfold sold
  split_ifs
  · rfl
  · have hqty : revengeFlipPositionIsOpen state.positionQty = false →
        revengeFlipPositionIsOpen ((state.noted input).remainingQty input) = false := by
      intro hclosed
      refine remainingQty_not_open ?_
      unfold revengeFlipPositionIsOpen at hclosed ⊢
      rw [decide_eq_false_iff_not, not_lt] at hclosed ⊢
      exact max_le hclosed (epsilon_pos.trans epsilon_lt_dust).le
    unfold holdsPosition at h ⊢
    change (Option.filter _ state.currentSide).isSome = false
    cases hside : state.currentSide with
    | none => rfl
    | some side =>
      rw [hside] at h
      have hclosed : revengeFlipPositionIsOpen state.positionQty = false := by
        simpa [Option.filter] using h
      have hrest := hqty hclosed
      simp [Option.filter, reduced, hrest]

omit [DecidableEq ι] in
theorem setStatus_hasActive {w : NodeRows ι} {id : ℕ} {status : OrderStatus}
    (hstatus : isActiveOrderStatus status = false) (h : w.hasActive = false) :
    (w.setStatus id status).hasActive = false := by
  unfold hasActive NodeRows.setStatus at *
  rw [List.any_eq_false] at h ⊢
  intro row hrow
  obtain ⟨before, hbefore, rfl⟩ := List.mem_map.mp hrow
  split_ifs
  · simp [hstatus]
  · exact h before hbefore

/-! ### What an execution relies on -/

/-- What a thread has learnt: that no order was active, and that no position was held. -/
structure Checked where
  idle : Bool := false
  flat : Bool := false

/-- An order is placed only after the check, and an entry only on a flat state. -/
def nodeProtocol : Protocol NodeCall NodeAnswer String Checked where
  next s c x :=
    match c, x with
    | .hasActiveOrder, .ok active => { idle := !active, flat := false }
    | .loadState, .ok state => { s with flat := !holdsPosition state }
    | _, _ => s
  allows s c :=
    match c with
    | .placeOrder order => s.idle = true ∧ (order.orderSide = .buy → s.flat = true)
    | _ => True

/-- What a thread has learnt is true as long as nothing has changed since its check. -/
structure StillTrue (i : ι) (s : Checked) (w : NodeRows ι) : Prop where
  idle : s.idle = true → w.changes = w.seenAt i → w.hasActive = false
  flat : s.flat = true → w.changes = w.seenAt i → holdsPosition w.state = false

structure RowsSound (w : NodeRows ι) : Prop where
  seen : ∀ i, w.seenAt i ≤ w.changes
  clear : w.entriesClear = true

/-- An entry is created only if, since its execution's activity check, no order was placed or
became active again and no buy was filled. -/
def Undisturbed (i : ι) (c : NodeCall) (w : NodeRows ι) (r : NodeReply) : Prop :=
  match c with
  | .placeOrder order => order.orderSide = .buy → r.creates.isSome → w.changes = w.seenAt i
  | _ => True

instance (i : ι) (c : NodeCall) (w : NodeRows ι) (r : NodeReply) :
    Decidable (Undisturbed i c w r) := by
  unfold Undisturbed
  split <;> infer_instance

theorem not_flat_of_holds {state : TradeBuilderRevengeFlipState}
    (h : state.currentSide = none ∨ ¬ revengeFlipPositionIsOpen state.positionQty) :
    holdsPosition state = false := by
  unfold holdsPosition
  rcases h with hnone | hclosed
  · simp [hnone]
  · cases state.currentSide with
    | none => rfl
    | some side => simp [Option.filter, hclosed]

theorem submitChildOrder_obeys {order : RevengeFlipOrder} {s : Checked} (hidle : s.idle = true)
    (hflat : order.orderSide = .buy → s.flat = true) :
    (submitChildOrder order).Obeys nodeProtocol (fun _ _ => True) s := by
  refine obeys_perform trivial (fun acquired => ?_) fun e => trivial
  cases acquired with
  | false => trivial
  | true =>
    refine obeys_attempt (R := fun _ _ => True) ⟨⟨hidle, hflat⟩, fun x => ?_⟩ fun x s' _ => ?_
    · cases x <;> trivial
    · refine obeys_perform trivial (fun _ => ?_) fun e => trivial
      cases x <;> trivial

theorem execution_obeys (s : Checked) :
    execution.Obeys nodeProtocol (fun _ _ => True) s := by
  refine obeys_perform trivial (fun active => ?_) fun e => trivial
  cases active with
  | true => trivial
  | false =>
    refine obeys_perform trivial (fun state => ?_) fun e => trivial
    refine obeys_perform trivial (fun look => ?_) fun e => trivial
    cases hdecision : executeActionPlaceOrderRevengeFlip
        { look with clientAvailable := true, hasActiveOrder := false } state with
    | skipped reason => trivial
    | holdPosition => trivial
    | submit order =>
      refine submitChildOrder_obeys rfl fun hbuy => ?_
      rcases submit_cases hdecision with ⟨-, -, hsell, -⟩ | ⟨hflat, -⟩
      · rw [hbuy] at hsell
        cases hsell
      · change (!holdsPosition state) = true
        rw [not_flat_of_holds hflat]
        rfl

theorem processing_obeys (steps : List ProcessingStep) (s : Checked) :
    (processing steps).Obeys nodeProtocol (fun _ _ => True) s := by
  induction steps generalizing s with
  | nil => trivial
  | cons step steps ih =>
    refine ⟨?_, fun x => ih _⟩
    cases step <;> trivial

theorem threadOf_obeys (role : Option (List ProcessingStep)) (s : Checked) :
    (threadOf role).Obeys nodeProtocol (fun _ _ => True) s := by
  cases role with
  | none => exact execution_obeys s
  | some steps => exact processing_obeys steps s

/-! ### Steps -/

/-- What a call of `i` does to the rows: where it counts no change, a flat state stays flat. -/
structure Calm (i : ι) (w w' : NodeRows ι) : Prop where
  seenOther : ∀ j ≠ i, w'.seenAt j = w.seenAt j
  grows : w.changes ≤ w'.changes
  idle : w'.changes = w.changes → w.hasActive = false → w'.hasActive = false
  flat : w'.changes = w.changes → holdsPosition w.state = false → holdsPosition w'.state = false

omit [DecidableEq ι] in
theorem Calm.refl (i : ι) (w : NodeRows ι) : Calm i w w :=
  ⟨fun _ _ => rfl, le_refl _, fun _ h => h, fun _ h => h⟩

omit [DecidableEq ι] in
theorem place_calm (i : ι) (w : NodeRows ι) (order : RevengeFlipOrder) (status : OrderStatus) :
    Calm i w (w.place order status) := by
  have hchange : (w.place order status).changes ≠ w.changes := Nat.succ_ne_self w.changes
  exact ⟨fun _ _ => rfl, Nat.le_succ _, fun h => absurd h hchange, fun h => absurd h hchange⟩

omit [DecidableEq ι] in
theorem setStatus_calm (i : ι) (w : NodeRows ι) (id : ℕ) (status : OrderStatus) :
    Calm i w (w.setStatus id status) := by
  cases hstatus : isActiveOrderStatus status with
  | true =>
    have hchanges : (w.setStatus id status).changes = w.changes + 1 := by
      simp [NodeRows.setStatus, hstatus]
    have hchange : (w.setStatus id status).changes ≠ w.changes := by omega
    exact ⟨fun _ _ => rfl, by omega, fun h => absurd h hchange, fun h => absurd h hchange⟩
  | false =>
    have hchanges : (w.setStatus id status).changes = w.changes := by
      simp [NodeRows.setStatus, hstatus]
    exact ⟨fun _ _ => rfl, hchanges.ge, fun _ => setStatus_hasActive hstatus, fun _ h => h⟩

omit [DecidableEq ι] in
theorem recordFill_calm (i : ι) (w : NodeRows ι) (input : TradeBuilderRevengeFlipFillInput) :
    Calm i w (w.recordFill input) := by
  cases hside : input.orderSide with
  | buy =>
    have hchanges : (w.recordFill input).changes = w.changes + 1 := by
      simp [NodeRows.recordFill, hside]
    have hchange : (w.recordFill input).changes ≠ w.changes := by omega
    exact ⟨fun _ _ => rfl, by omega, fun h => absurd h hchange, fun h => absurd h hchange⟩
  | sell =>
    have hchanges : (w.recordFill input).changes = w.changes := by
      simp [NodeRows.recordFill, hside]
    exact ⟨fun _ _ => rfl, hchanges.ge, fun _ h => h, fun _ h => sell_keeps_flat hside h⟩

theorem nodeAct_calm (i : ι) (c : NodeCall) (w : NodeRows ι) (r : NodeReply) :
    Calm i w (nodeAct i c w r).2 ∧
      (c ≠ .hasActiveOrder → (nodeAct i c w r).2.seenAt i = w.seenAt i) := by
  cases c with
  | placeOrder order =>
    unfold nodeAct
    cases r.creates with
    | none => exact ⟨Calm.refl i w, fun _ => rfl⟩
    | some status => exact ⟨place_calm i w order status, fun _ => rfl⟩
  | releaseLock => exact ⟨⟨fun _ _ => rfl, le_refl _, fun _ h => h, fun _ h => h⟩, fun _ => rfl⟩
  | hasActiveOrder =>
    refine ⟨?_, fun h => absurd rfl h⟩
    unfold nodeAct
    cases r.fails with
    | some e => exact Calm.refl i w
    | none =>
      exact ⟨fun j hj => Function.update_of_ne hj _ _, le_refl _, fun _ h => h, fun _ h => h⟩
  | loadState =>
    unfold nodeAct
    cases r.fails <;> exact ⟨Calm.refl i w, fun _ => rfl⟩
  | resolveQuotes =>
    unfold nodeAct
    cases r.fails <;> exact ⟨Calm.refl i w, fun _ => rfl⟩
  | tryAcquireExecutionLock =>
    unfold nodeAct
    cases r.fails with
    | some e => exact ⟨Calm.refl i w, fun _ => rfl⟩
    | none => exact ⟨⟨fun _ _ => rfl, le_refl _, fun _ h => h, fun _ h => h⟩, fun _ => rfl⟩
  | setStatus id status =>
    unfold nodeAct
    cases r.fails with
    | some e => exact ⟨Calm.refl i w, fun _ => rfl⟩
    | none => exact ⟨setStatus_calm i w id status, fun _ => rfl⟩
  | recordFill input =>
    unfold nodeAct
    cases r.fails with
    | some e => exact ⟨Calm.refl i w, fun _ => rfl⟩
    | none => exact ⟨recordFill_calm i w input, fun _ => rfl⟩

omit [DecidableEq ι] in
theorem StillTrue.calm {i j : ι} {s : Checked} {w w' : NodeRows ι} (h : StillTrue j s w)
    (hseen : w.seenAt j ≤ w.changes) (hsame : w'.seenAt j = w.seenAt j) (hcalm : Calm i w w') :
    StillTrue j s w' := by
  have hback : w'.changes = w'.seenAt j → w'.changes = w.changes ∧ w.changes = w.seenAt j := by
    intro heq
    have hgrows := hcalm.grows
    omega
  constructor
  · intro hidle heq
    obtain ⟨hsteady, hcurrent⟩ := hback heq
    exact hcalm.idle hsteady (h.idle hidle hcurrent)
  · intro hflat heq
    obtain ⟨hsteady, hcurrent⟩ := hback heq
    exact hcalm.flat hsteady (h.flat hflat hcurrent)

theorem nodeAct_entriesClear {i : ι} {s : Checked} {c : NodeCall} {w : NodeRows ι} {r : NodeReply}
    (hw : RowsSound w) (hs : StillTrue i s w) (hallows : nodeProtocol.allows s c)
    (hok : Undisturbed i c w r) : (nodeAct i c w r).2.entriesClear = true := by
  cases c with
  | placeOrder order =>
    unfold nodeAct
    cases hcreates : r.creates with
    | none => exact hw.clear
    | some status =>
      change (w.entriesClear && (order.orderSide = .sell || w.clear)) = true
      rw [hw.clear, Bool.true_and]
      cases hside : order.orderSide with
      | sell => simp
      | buy =>
        have hcurrent := hok hside (by rw [hcreates]; rfl)
        have hidle := hs.idle hallows.1 hcurrent
        have hflat := hs.flat (hallows.2 hside) hcurrent
        simp [NodeRows.clear, hidle, hflat]
  | releaseLock => exact hw.clear
  | _ =>
    unfold nodeAct
    cases r.fails <;> exact hw.clear

theorem nodeAct_step (i : ι) (s : Checked) (c : NodeCall) (w : NodeRows ι) (r : NodeReply)
    (hw : RowsSound w) (hs : StillTrue i s w) (hallows : nodeProtocol.allows s c)
    (hok : Undisturbed i c w r) :
    RowsSound (nodeAct i c w r).2 ∧
      StillTrue i (nodeProtocol.next s c (nodeAct i c w r).1) (nodeAct i c w r).2 ∧
        ∀ j ≠ i, ∀ t, StillTrue j t w → StillTrue j t (nodeAct i c w r).2 := by
  obtain ⟨hcalm, hown⟩ := nodeAct_calm i c w r
  refine ⟨⟨fun j => ?_, nodeAct_entriesClear hw hs hallows hok⟩, ?_, fun j hj t ht => ?_⟩
  · have hgrows := hcalm.grows
    have hseen := hw.seen j
    by_cases hj : j = i
    · subst hj
      cases c with
      | hasActiveOrder =>
        unfold nodeAct
        cases r.fails with
        | some e => exact hseen
        | none => exact (Function.update_self j w.changes w.seenAt).le
      | _ => rw [hown (by simp)]; omega
    · rw [hcalm.seenOther j hj]
      omega
  · cases c with
    | hasActiveOrder =>
      unfold nodeAct
      cases r.fails with
      | some e => exact hs
      | none =>
        refine ⟨fun hidle _ => ?_, fun hflat => ?_⟩
        · change (!w.hasActive) = true at hidle
          change w.hasActive = false
          simpa using hidle
        · cases hflat
    | loadState =>
      unfold nodeAct
      cases r.fails with
      | some e => exact hs
      | none =>
        refine ⟨hs.idle, fun hflat _ => ?_⟩
        change (!holdsPosition w.state) = true at hflat
        change holdsPosition w.state = false
        simpa using hflat
    | _ => exact hs.calm (hw.seen i) (hown (by simp)) hcalm
  · exact ht.calm (hw.seen j) (hcalm.seenOther j hj) hcalm

/-! ### Runs -/

/-- Executions and processing side by side, over the rows of the node and market. -/
def nodePool (state : TradeBuilderRevengeFlipState) (orders : List NodeOrder)
    (role : ι → Option (List ProcessingStep)) : Pool ι NodeCall NodeAnswer String (NodeRows ι) where
  world := { state, orders, locked := false }
  thread i := threadOf (role i)

/-- Every entry so far was placed with no order active and no position held. -/
def EntriesClear (w : NodeRows ι) : Prop := w.entriesClear = true

instance : DecidablePred (@EntriesClear ι) := fun w =>
  inferInstanceAs (Decidable (w.entriesClear = true))

omit [DecidableEq ι] in
theorem nodePool_sound (state : TradeBuilderRevengeFlipState) (orders : List NodeOrder)
    (role : ι → Option (List ProcessingStep)) :
    (nodePool state orders role).Sound nodeProtocol RowsSound StillTrue where
  world := ⟨fun _ => le_refl 0, rfl⟩
  thread _ := ⟨{}, ⟨fun h => Bool.noConfusion h, fun h => Bool.noConfusion h⟩, threadOf_obeys _ _⟩

/-- Whatever the interleaving of executions and of the processing of their orders, entries are
placed on flat states only, as long as each is undisturbed since its check. -/
theorem undisturbed_entries_clear (state : TradeBuilderRevengeFlipState) (orders : List NodeOrder)
    (role : ι → Option (List ProcessingStep)) (schedule : List (ι × NodeReply))
    (hmeets : Pool.Meets nodeAct Undisturbed (nodePool state orders role) schedule) :
    Pool.Always nodeAct EntriesClear (nodePool state orders role) schedule :=
  (nodePool_sound state orders role).always_of_meets nodeAct_step (fun _ hw => hw.clear) hmeets

/-! ### Two executions -/

/-- The turns of a thread that looks at one market. -/
def turnsOf {ι : Type} (i : ι) (calls : ℕ) : List (ι × NodeReply) :=
  List.replicate calls (i, { look := lookAt (40 / 100) (60 / 100) })

/-- What the processing does with a filled entry. -/
def filledEntry : List ProcessingStep :=
  [.setStatus 0 .completed,
    .recordFill ⟨.up, .initialBuy, .buy, 1, some 1, 5, 40 / 100, 2, none, none⟩]

/-- The second execution looks once the entry of the first is filled and recorded. -/
def oneAfterTheOther : List (Fin 3 × NodeReply) := turnsOf 0 6 ++ turnsOf 2 2 ++ turnsOf 1 6

def sampleRole (i : Fin 3) : Option (List ProcessingStep) :=
  if i = 2 then some filledEntry else none

theorem one_after_the_other_clear :
    (Pool.run nodeAct (nodePool {} [] sampleRole) oneAfterTheOther).world.orders.length = 1 ∧
      Pool.Always nodeAct EntriesClear (nodePool {} [] sampleRole) oneAfterTheOther :=
  ⟨by decide +kernel,
    undisturbed_entries_clear {} [] sampleRole oneAfterTheOther (by decide +kernel)⟩

/-- Both check before either has placed its entry. -/
def bothCheckFirst : List (Bool × NodeReply) :=
  turnsOf false 3 ++ turnsOf true 3 ++ turnsOf false 3 ++ turnsOf true 3

/-- The second entry is placed beside the first, which is still active. -/
theorem both_entries_placed :
    let pool := nodePool {} [] fun _ : Bool => none
    (Pool.run nodeAct pool bothCheckFirst).world.orders.length = 2 ∧
      ¬ Pool.Always nodeAct EntriesClear pool bothCheckFirst := by
  decide +kernel

end PolymarketBot.RevengeFlip
