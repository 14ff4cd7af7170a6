import PolymarketBot.Builder.Preemption
import PolymarketBot.Lib.Threads

/-! The children of one parent, processed side by side statement by statement: a stop loss that
latches, a fill that is finalised, and the cancel requests both send to the siblings: what the
passes over a single order, in `Builder.Process`, make as one statement. -/

namespace PolymarketBot.OcoExclusion
open Lib Prog Builder ExitLadders

inductive OcoReason
  | stopLossLatched | childExitFilled
  deriving DecidableEq, Repr

/-- The calls of a task; `cancelSibling` is the status update of an OCO request. -/
inductive Call
  | getOrder (id : ℤ)
  | listChildren (parentId excludeId : ℤ)
  | cancelSibling (id : ℤ) (reason : OcoReason)
  | update (id : ℤ) (u : OrderUpdate)
  | appendEvent (id : ℤ) (eventType : String)

abbrev Answer : Call → Type
  | .getOrder _ => Option TradeBuilderOrder
  | .listChildren _ _ => List TradeBuilderOrder
  | _ => Unit

abbrev Job (α : Type) := Prog Call Answer String α

namespace Job

def run (c : Call) : Job (Answer c) := perform c

def whenever (condition : Bool) (job : Job Unit) : Job Unit := if condition then job else pure ()

end Job

open Job

/-! ### The tasks -/

def isSpared (reason : OcoReason) (sibling : TradeBuilderOrder) : Bool :=
  tradeBuilderIsTerminalStatus sibling.status ||
    (tradeBuilderStopLossLatched sibling && reason ≠ .stopLossLatched)

/-- The loop over the siblings, with the ids it has written. -/
def cancelSiblings (reason : OcoReason) : List TradeBuilderOrder → Job (List ℤ)
  | [] => pure []
  | sibling :: siblings =>
    if isSpared reason sibling then cancelSiblings reason siblings
    else do
      run (.cancelSibling sibling.id reason)
      run (.appendEvent sibling.id "oco_cancel_requested")
      let siblingOrderIds ← cancelSiblings reason siblings
      pure (sibling.id :: siblingOrderIds)

def requestTradeBuilderOcoCancelForSiblings (order : TradeBuilderOrder) (reason : OcoReason) :
    Job (List ℤ) :=
  match order.parentOrderId.filter fun _ => order.side = .sell with
  | none => pure []
  | some parentOrderId => do
    let siblings ← run (.listChildren parentOrderId order.id)
    let siblingOrderIds ← cancelSiblings reason siblings
    whenever (!siblingOrderIds.isEmpty) (run (.appendEvent order.id "oco_siblings_cancel_requested"))
    pure siblingOrderIds

def maybeLatchTradeBuilderStopLoss (order : TradeBuilderOrder) : Job Unit :=
  whenever (tradeBuilderIsStopLossChild order && !tradeBuilderStopLossLatched order) do
    run (.update order.id (.setTriggerLatched true (some "stop_loss")))
    run (.appendEvent order.id "sl_latched")
    whenever (tradeBuilderIsHardExitChild order) do
      let siblingOrderIds ← requestTradeBuilderOcoCancelForSiblings order .stopLossLatched
      whenever (!siblingOrderIds.isEmpty) (run (.appendEvent order.id "tp_preempted_by_sl"))

/-- The part of the fill finalisation that writes the order and its siblings. -/
def finalizeChildFill (order : TradeBuilderOrder) (forceTerminal : Bool) : Job Unit := do
  run (.update order.id (.clearActiveExchangeOrder (finalizeNextStatus order forceTerminal)))
  run (.appendEvent order.id "filled")
  whenever (shouldRequestTradeBuilderOcoCancel order) do
    let _ ← requestTradeBuilderOcoCancelForSiblings order .childExitFilled
    pure ()

/-- Any other statements on the orders, one after another; one that fails is passed over. -/
def statements : List (ℤ × OrderUpdate) → Job Unit
  | [] => pure ()
  | (id, u) :: rest => do
    let _ ← attempt (run (.update id u))
    statements rest

inductive Task
  | latch (id : ℤ)
  | fill (id : ℤ) (forceTerminal : Bool)
  | other (writes : List (ℤ × OrderUpdate))

def Task.job : Task → Job Unit
  | latch id => do
    match ← run (.getOrder id) with
    | none => pure ()
    | some order => maybeLatchTradeBuilderStopLoss order
  | fill id forceTerminal => do
    match ← run (.getOrder id) with
    | none => pure ()
    | some order => finalizeChildFill order forceTerminal
  | other writes => statements writes

/-! ### The table -/

variable {ι : Type}

/-- The orders, what each task's last list of siblings showed, and the rows that OCO requests
have overwritten, as they were, with the reason. -/
structure World (ι : Type) where
  orders : List TradeBuilderOrder
  listed : ι → List TradeBuilderOrder := fun _ => []
  ocoWrites : List (TradeBuilderOrder × OcoReason) := []

def ocoUpdate : OrderUpdate :=
  .setStatus .canceledRequested (some { reason := "oco_sibling_triggered" })

namespace World

def row (w : World ι) (id : ℤ) : Option TradeBuilderOrder := w.orders.find? (·.id = id)

def update (w : World ι) (id : ℤ) (u : OrderUpdate) : World ι :=
  { w with orders := w.orders.map fun row => if row.id = id then u.apply row else row }

end World

/-- A call can fail, which leaves the table as it was. -/
structure Reply where
  fails : Option String := none

variable [DecidableEq ι]

def answer (i : ι) (w : World ι) : (c : Call) → Answer c × World ι
  | .getOrder id => (w.row id, w)
  | .listChildren parentId excludeId =>
    let siblings := w.orders.filter fun row => row.parentOrderId = some parentId ∧ row.id ≠ excludeId
    (siblings, { w with listed := Function.update w.listed i siblings })
  | .cancelSibling id reason =>
    ((), { w.update id ocoUpdate with
      ocoWrites := w.ocoWrites ++ ((w.row id).map (·, reason)).toList })
  | .update id u => ((), w.update id u)
  | .appendEvent _ _ => ((), w)

def act (i : ι) (c : Call) (w : World ι) (r : Reply) : Except String (Answer c) × World ι :=
  match r.fails with
  | some err => (.error err, w)
  | none => (.ok (answer i w c).1, (answer i w c).2)

/-! ### The law -/

/-- The statuses that no request of a sibling may undo. -/
def isDone : OrderStatus → Bool
  | .completed | .filled | .canceled | .expired => true
  | _ => false

/-- A request moves no child that is done, and no latched stop loss unless a stop loss latched. -/
def Excludes (row : TradeBuilderOrder) (reason : OcoReason) : Prop :=
  isDone row.status = false ∧
    (tradeBuilderStopLossLatched row = true →
      row.status = .canceledRequested ∨ reason = .stopLossLatched)

instance (row : TradeBuilderOrder) (reason : OcoReason) : Decidable (Excludes row reason) :=
  inferInstanceAs (Decidable (_ ∧ _))

def OcoExcludes (w : World ι) : Prop := ∀ write ∈ w.ocoWrites, Excludes write.1 write.2

instance (w : World ι) : Decidable (OcoExcludes w) :=
  inferInstanceAs (Decidable (∀ write ∈ w.ocoWrites, Excludes write.1 write.2))

/-- Since it was listed, the row has not become done, and it has not been latched, or it waits
for its cancel anyway, or the latch is no matter to the request. -/
def Unovertaken (reason : OcoReason) (listed row : TradeBuilderOrder) : Prop :=
  (isDone row.status = true → isDone listed.status = true) ∧
    (tradeBuilderStopLossLatched row = true → tradeBuilderStopLossLatched listed = true ∨
      row.status = .canceledRequested ∨ reason = .stopLossLatched)

instance (reason : OcoReason) (listed row : TradeBuilderOrder) :
    Decidable (Unovertaken reason listed row) :=
  inferInstanceAs (Decidable (_ ∧ _))

/-- No sibling that a request writes has been overtaken since the request listed it. -/
def StillAsListed (i : ι) (c : Call) (w : World ι) (r : Reply) : Prop :=
  match c with
  | .cancelSibling id reason =>
    r.fails.isSome ∨ ∀ listed ∈ w.listed i, listed.id = id → ∀ row ∈ w.row id,
      Unovertaken reason listed row
  | _ => True

instance (i : ι) (c : Call) (w : World ι) (r : Reply) : Decidable (StillAsListed i c w r) := by
  unfold StillAsListed
  split <;> infer_instance

/-! ### What a task goes by -/

/-- A task writes only siblings that its last list did not spare. -/
def ocoProtocol : Protocol Call Answer String (List TradeBuilderOrder) where
  next s c x :=
    match c, x with
    | .listChildren _ _, .ok siblings => siblings
    | _, _ => s
  allows s c :=
    match c with
    | .cancelSibling id reason => ∃ sibling ∈ s, sibling.id = id ∧ isSpared reason sibling = false
    | _ => True

abbrev Keeps {α : Type} (job : Job α) (s : List TradeBuilderOrder) : Prop :=
  Obeys ocoProtocol job (fun _ _ => True) s

theorem keeps_run {α : Type} {c : Call} {f : Answer c → Job α} {s : List TradeBuilderOrder}
    (hc : ocoProtocol.allows s c) (hf : ∀ a, Keeps (f a) (ocoProtocol.next s c (.ok a))) :
    Keeps (run c >>= f) s :=
  obeys_perform hc hf fun _ => trivial

theorem keeps_bind {α β : Type} {job : Job α} {f : α → Job β} {s : List TradeBuilderOrder}
    (hjob : Keeps job s) (hf : ∀ a s', Keeps (f a) s') : Keeps (job >>= f) s :=
  obeys_bind hjob (fun a s' _ => hf a s') fun _ _ _ => trivial

theorem keeps_last {c : Call} {s : List TradeBuilderOrder} (hc : ocoProtocol.allows s c) :
    Keeps (run c) s := by
  refine ⟨hc, fun x => ?_⟩
  cases x <;> trivial

theorem keeps_whenever {condition : Bool} {job : Job Unit} {s : List TradeBuilderOrder}
    (hjob : Keeps job s) : Keeps (whenever condition job) s := by
  unfold whenever
  split
  · exact hjob
  · trivial

theorem cancelSiblings_keeps (reason : OcoReason) {siblings s : List TradeBuilderOrder}
    (hlisted : ∀ sibling ∈ siblings, sibling ∈ s) : Keeps (cancelSiblings reason siblings) s := by
  induction siblings with
  | nil => trivial
  | cons sibling siblings ih =>
    have hrest := ih fun other hother => hlisted other (List.mem_cons_of_mem _ hother)
    rw [cancelSiblings]
    split
    case isTrue => exact hrest
    case isFalse hspared =>
      refine keeps_run ⟨sibling, hlisted sibling List.mem_cons_self, rfl, by simpa using hspared⟩
        fun _ => keeps_run trivial fun _ => ?_
      exact keeps_bind hrest fun _ _ => trivial

theorem requestCancel_keeps (order : TradeBuilderOrder) (reason : OcoReason)
    (s : List TradeBuilderOrder) :
    Keeps (requestTradeBuilderOcoCancelForSiblings order reason) s := by
  unfold requestTradeBuilderOcoCancelForSiblings
  split
  · trivial
  · refine keeps_run trivial fun siblings => ?_
    refine keeps_bind (cancelSiblings_keeps reason fun _ h => h) fun _ _ => ?_
    exact keeps_bind (keeps_whenever (keeps_last trivial)) fun _ _ => trivial

theorem maybeLatch_keeps (order : TradeBuilderOrder) (s : List TradeBuilderOrder) :
    Keeps (maybeLatchTradeBuilderStopLoss order) s := by
  refine keeps_whenever (keeps_run trivial fun _ => keeps_run trivial fun _ => keeps_whenever ?_)
  exact keeps_bind (requestCancel_keeps order _ _) fun _ _ => keeps_whenever (keeps_last trivial)

theorem finalizeChildFill_keeps (order : TradeBuilderOrder) (forceTerminal : Bool)
    (s : List TradeBuilderOrder) : Keeps (finalizeChildFill order forceTerminal) s := by
  refine keeps_run trivial fun _ => keeps_run trivial fun _ => keeps_whenever ?_
  exact keeps_bind (requestCancel_keeps order _ _) fun _ _ => trivial

theorem statements_keeps (writes : List (ℤ × OrderUpdate)) (s : List TradeBuilderOrder) :
    Keeps (statements writes) s := by
  induction writes generalizing s with
  | nil => trivial
  | cons write writes ih =>
    exact obeys_attempt (keeps_last (c := .update write.1 write.2) trivial) fun _ s' _ => ih s'

theorem task_keeps (task : Task) (s : List TradeBuilderOrder) : Keeps task.job s := by
  cases task with
  | latch id =>
    refine keeps_run trivial fun order => ?_
    cases order with
    | none => trivial
    | some order => exact maybeLatch_keeps order _
  | fill id forceTerminal =>
    refine keeps_run trivial fun order => ?_
    cases order with
    | none => trivial
    | some order => exact finalizeChildFill_keeps order forceTerminal _
  | other writes => exact statements_keeps writes s

/-! ### Any interleaving -/

structure TableOk (w : World ι) : Prop where
  ids : (w.orders.map (·.id)).Nodup
  law : OcoExcludes w

/-- What a task goes by is what its last list showed, one row an order. -/
def Knows (i : ι) (s : List TradeBuilderOrder) (w : World ι) : Prop :=
  s = w.listed i ∧ (s.map (·.id)).Nodup

section Steps
variable {w : World ι} {i : ι} {s : List TradeBuilderOrder} {r : Reply}

theorem act_fails {err : String} (hfails : r.fails = some err) (c : Call) :
    act i c w r = (.error err, w) := by
  rw [act, hfails]

theorem act_answers (hfails : r.fails = none) (c : Call) :
    act i c w r = (.ok (answer i w c).1, (answer i w c).2) := by
  rw [act, hfails]

omit [DecidableEq ι] in
theorem update_ids (w : World ι) (id : ℤ) (u : OrderUpdate) :
    (w.update id u).orders.map (·.id) = w.orders.map (·.id) := by
  have hid : ∀ row : TradeBuilderOrder, (if row.id = id then u.apply row else row).id = row.id := by
    intro row
    split
    · cases u <;> rfl
    · rfl
  simp [World.update, hid]

theorem answer_frame (i : ι) (w : World ι) (c : Call) :
    (answer i w c).2.orders.map (·.id) = w.orders.map (·.id) ∧
      ∀ j ≠ i, (answer i w c).2.listed j = w.listed j := by
  cases c with
  | getOrder id => exact ⟨rfl, fun _ _ => rfl⟩
  | listChildren parentId excludeId =>
    exact ⟨rfl, fun j hj => Function.update_of_ne hj _ _⟩
  | cancelSibling id reason => exact ⟨update_ids w id ocoUpdate, fun _ _ => rfl⟩
  | update id u => exact ⟨update_ids w id u, fun _ _ => rfl⟩
  | appendEvent id eventType => exact ⟨rfl, fun _ _ => rfl⟩

theorem excludes_iff {reason : OcoReason} {listed row : TradeBuilderOrder}
    (hspared : isSpared reason listed = false) :
    Excludes row reason ↔ Unovertaken reason listed row := by
  simp only [isSpared, Bool.or_eq_false_iff, Bool.and_eq_false_imp, decide_eq_false_iff_not,
    ne_eq, not_not] at hspared
  obtain ⟨hterminal, hlatched⟩ := hspared
  have hdone : isDone listed.status = false := by
    cases hstatus : listed.status <;> rw [hstatus] at hterminal <;> first | rfl | cases hterminal
  constructor
  · rintro ⟨hrow, hkept⟩
    refine ⟨fun h => ?_, fun h => .inr (hkept h)⟩
    rw [hrow] at h
    cases h
  · rintro ⟨hrow, hkept⟩
    refine ⟨?_, fun h => ?_⟩
    · cases h : isDone row.status with
      | false => rfl
      | true => exact absurd (hrow h) (by rw [hdone]; decide)
    · obtain hold | hkept := hkept h
      · exact .inr (hlatched hold)
      · exact hkept

theorem cancelSibling_law {id : ℤ} {reason : OcoReason} (hw : TableOk w) (hs : Knows i s w)
    (hc : ocoProtocol.allows s (.cancelSibling id reason)) :
    OcoExcludes (act i (.cancelSibling id reason) w r).2 ↔
      StillAsListed i (.cancelSibling id reason) w r := by
  obtain ⟨sibling, hmem, hid, hspared⟩ := hc
  obtain ⟨hlisted, hnodup⟩ := hs
  cases hfails : r.fails with
  | some err =>
    rw [act_fails hfails]
    exact iff_of_true hw.law (.inl (by rw [hfails]; rfl))
  | none =>
    have honly : ∀ listed ∈ w.listed i, listed.id = id → listed = sibling := by
      intro listed hlistedMem hlistedId
      rw [← hlisted] at hlistedMem
      exact List.inj_on_of_nodup_map hnodup hlistedMem hmem (hlistedId.trans hid.symm)
    have hok : StillAsListed i (.cancelSibling id reason) w r ↔
        ∀ row ∈ w.row id, Unovertaken reason sibling row := by
      simp only [StillAsListed, hfails, Option.isSome_none, Bool.false_eq_true, false_or]
      constructor
      · exact fun h => h sibling (hlisted ▸ hmem) hid
      · intro h listed hlistedMem hlistedId
        rw [honly listed hlistedMem hlistedId]
        exact h
    rw [hok, act_answers hfails]
    constructor
    · intro hafter row hrow
      have hsome : w.row id = some row := hrow
      refine (excludes_iff hspared).mp (hafter (row, reason) (List.mem_append_right _ ?_))
      simp [hsome]
    · intro hrows write hwrite
      obtain hold | hnew := List.mem_append.mp hwrite
      · exact hw.law write hold
      · obtain ⟨row, hrow, rfl⟩ : ∃ row, w.row id = some row ∧ (row, reason) = write := by
          simpa using hnew
        exact (excludes_iff hspared).mpr (hrows row hrow)

theorem act_law {c : Call} (hw : TableOk w) (hs : Knows i s w) (hc : ocoProtocol.allows s c) :
    OcoExcludes (act i c w r).2 ↔ StillAsListed i c w r := by
  cases c with
  | cancelSibling id reason => exact cancelSibling_law hw hs hc
  | _ =>
    refine iff_of_true ?_ trivial
    cases hfails : r.fails with
    | some err =>
      rw [act_fails hfails]
      exact hw.law
    | none =>
      rw [act_answers hfails]
      exact hw.law

theorem act_step (i : ι) (s : List TradeBuilderOrder) (c : Call) (w : World ι) (r : Reply)
    (hw : TableOk w) (hs : Knows i s w) (hc : ocoProtocol.allows s c)
    (hok : StillAsListed i c w r) :
    TableOk (act i c w r).2 ∧ Knows i (ocoProtocol.next s c (act i c w r).1) (act i c w r).2 ∧
      ∀ j ≠ i, ∀ t, Knows j t w → Knows j t (act i c w r).2 := by
  have hlaw : OcoExcludes (act i c w r).2 := (act_law hw hs hc).mpr hok
  cases hfails : r.fails with
  | some err =>
    rw [act_fails hfails]
    refine ⟨hw, ?_, fun _ _ _ ht => ht⟩
    cases c <;> exact hs
  | none =>
    rw [act_answers hfails] at hlaw ⊢
    obtain ⟨hids, hother⟩ := answer_frame i w c
    refine ⟨⟨hids ▸ hw.ids, hlaw⟩, ?_, fun j hj t ht => ⟨ht.1.trans (hother j hj).symm, ht.2⟩⟩
    cases c with
    | listChildren parentId excludeId =>
      refine ⟨(Function.update_self i _ w.listed).symm, ?_⟩
      exact hw.ids.sublist (List.filter_sublist.map _)
    | _ => exact hs

end Steps

/-- Tasks side by side over the orders of one account. -/
def ocoPool (orders : List TradeBuilderOrder) (task : ι → Task) :
    Pool ι Call Answer String (World ι) where
  world := { orders }
  thread i := (task i).job

/-- Whatever the children, the tasks and their interleaving: no request of a sibling undoes a
finished child or a latched stop loss exactly as long as no child that a request writes has been
finalised or latched since the request listed it. -/
theorem oco_exclusion_iff (orders : List TradeBuilderOrder) (hids : (orders.map (·.id)).Nodup)
    (task : ι → Task) (schedule : List (ι × Reply)) :
    Pool.Always act OcoExcludes (ocoPool orders task) schedule ↔
      Pool.Meets act StillAsListed (ocoPool orders task) schedule := by
  have hsound : (ocoPool orders task).Sound ocoProtocol TableOk Knows := by
    refine ⟨⟨hids, fun write hwrite => absurd hwrite List.not_mem_nil⟩, fun i => ?_⟩
    exact ⟨[], ⟨rfl, List.nodup_nil⟩, task_keeps (task i) []⟩
  exact hsound.always_iff_meets (fun _ _ _ _ _ hw hs hc => act_law hw hs hc) act_step
    (fun _ hw => hw.law) schedule

/-! ### A take profit and a stop loss that fill together -/

def childOf (id : ℤ) (triggerCondition : TriggerCondition) : TradeBuilderOrder :=
  { id, kind := .conditional, status := .opened, side := .sell, sizeBasis := .shares
    parentOrderId := some 9, triggerCondition := some triggerCondition
    activeExchangeOrderId := some 77 }

def twoExits : List TradeBuilderOrder := [childOf 1 .crossAbove, childOf 2 .crossBelow]

def bothFill : Bool → Task
  | false => .fill 1 true
  | true => .fill 2 true

def turnsOf (task : Bool) (calls : ℕ) : List (Bool × Reply) := List.replicate calls (task, {})

/-- The fill of the first is finalised, its request included, before the second's begins. -/
theorem fills_one_by_one :
    Pool.Always act OcoExcludes (ocoPool twoExits bothFill) (turnsOf false 7 ++ turnsOf true 5) :=
  (oco_exclusion_iff twoExits (by decide) bothFill _).mpr (by decide +kernel)

/-- The second is completed after the first has listed it, and then made to wait for a cancel. -/
theorem completed_child_canceled :
    ¬ OcoExcludes (Pool.run act (ocoPool twoExits bothFill)
      (turnsOf false 4 ++ turnsOf true 2 ++ turnsOf false 1)).world ∧
      (Pool.run act (ocoPool twoExits bothFill)
        (turnsOf false 4 ++ turnsOf true 2)).world.orders.map (·.status) =
          [.completed, .completed] ∧
      (Pool.run act (ocoPool twoExits bothFill)
        (turnsOf false 4 ++ turnsOf true 2 ++ turnsOf false 1)).world.orders.map (·.status) =
          [.completed, .canceledRequested] := by
  decide +kernel

end PolymarketBot.OcoExclusion
