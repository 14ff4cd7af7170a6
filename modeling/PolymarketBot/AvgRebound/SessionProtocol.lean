import PolymarketBot.AvgRebound.Sessions

/-! What an execution and the record of a fill go by: the calls that each may make, by what its
earlier calls have answered. -/

namespace PolymarketBot.AvgRebound.Sessions
open Lib Prog Builder

/-- What a thread has learnt: whether it has the lock and has found no active order since, the
session and the fills it last read, and the bought order that it finalises. -/
structure Seen where
  locked : Bool := false
  idle : Bool := false
  session : Option ℤ := none
  fills : Option (List Fill) := none
  bought : Option (ℕ × AvgReboundDecision × ℚ) := none

/-- The decision is selected on these fills, and they leave the position open. -/
def Selects (sessionId : ℤ) (fills : List Fill) (decision : AvgReboundDecision) : Prop :=
  ¬ (0 < (loadState sessionId fills).primaryTotalQty ∧
      (loadState sessionId fills).openPrimaryQty ≤ 1 / 10000) ∧
    ∃ config market, (selectDecision config (loadState sessionId fills) market).1 = some decision

def sessionProtocol : Protocol Call Answer String Seen where
  next s c x :=
    match c, x with
    | .tryLock, .ok acquired => { locked := acquired }
    | .release, _ => {}
    | .hasActiveOrder, .ok active => { s with idle := !active, fills := none }
    | .loadActiveSession, .ok session => { s with session := session.map (·.id), fills := none }
    | .loadFills _, .ok fills => { s with fills := some fills }
    | .createOrder _, _ => { s with idle := false, fills := none }
    | .boughtOrder orderId, .ok bought => { s with bought := bought.map (Prod.mk orderId) }
    | _, _ => s
  allows s c :=
    match c with
    | .release => s.locked = true
    | .loadFills sessionId => s.session = some sessionId
    | .markSession _ status => status.isActive = true
    | .createOrder decision => s.locked = true ∧ s.idle = true ∧
        ∃ sessionId ∈ s.session, ∃ fills ∈ s.fills, Selects sessionId fills decision
    | .insertFill orderId fill => ∃ decision average,
        s.bought = some (orderId, decision, average) ∧ fill = orderFill decision average
    | .fillRecorded _ status lockedPnl => status = .locked →
        ∃ fills ∈ s.fills, Complete fills ∧ lockedPnl = lockedPnlOf fills
    | _ => True

/-! ### The programs keep to the protocol -/

/-- The thread has the lock, and has found no active order since. -/
def Ready (s : Seen) : Prop := s.locked = true ∧ s.idle = true

/-- The calls of an execution before it reads the fills. -/
def isPreparing : Call → Prop
  | .resolveTokens | .marketTokens _ | .loadActiveSession | .insertSession _ | .orderBook _ => True
  | _ => False

section Prepare
variable {α : Type}

theorem only_run {c : Call} {f : Answer c → Job α} (hc : isPreparing c)
    (hf : ∀ a, Only isPreparing (f a)) : Only isPreparing (run c >>= f) :=
  Only.bind ((only_perform c).mpr hc) hf

theorem orderBooks_only (first second secondReason : String) :
    Only isPreparing (orderBooks first second secondReason) := by
  refine only_run trivial fun firstAsks => ?_
  cases firstAsks with
  | none => trivial
  | some firstAsks =>
    refine only_run trivial fun secondAsks => ?_
    cases secondAsks <;> trivial

theorem withBooks_only (session : Session) (tokens : TokenResolution) :
    Only isPreparing (withBooks session tokens) := by
  refine Only.bind (orderBooks_only _ _ _) fun books => ?_
  cases books <;> trivial

theorem getOrCreateSession_only (tokens : TokenResolution) :
    Only isPreparing (getOrCreateSession tokens) := by
  refine only_run trivial fun session => ?_
  cases session with
  | none => exact (only_perform _).mpr trivial
  | some session => trivial

theorem resolveTokens_only (oppositeOutcomeLabel : Option PrimarySide) (resolved : ResolvedTokens)
    (primarySide : PrimarySide) :
    Only isPreparing (resolveTokens oppositeOutcomeLabel resolved primarySide) := by
  unfold resolveTokens
  cases oppositeOutcomeLabel with
  | none =>
    refine only_run trivial fun count => ?_
    cases count with
    | none => trivial
    | some count =>
      dsimp only
      split_ifs <;> trivial
  | some configuredOpposite =>
    dsimp only
    split_ifs <;> trivial

theorem prepare_only (node : NodeConfig) (resolved : ResolvedTokens)
    (activeSession : Option Session) : Only isPreparing (prepare node resolved activeSession) := by
  unfold prepare
  cases activeSession with
  | some session => exact withBooks_only session session.tokens
  | none =>
    cases node.primaryOutcomeLabel with
    | none =>
      refine Only.bind (orderBooks_only _ _ _) fun books => ?_
      cases books with
      | error reason => trivial
      | ok books =>
        dsimp only
        cases selectCheapestPrimary node.config books.1 books.2 with
        | none => trivial
        | some side =>
          refine Only.bind (getOrCreateSession_only _) fun session => ?_
          cases side <;> trivial
    | some primarySide =>
      refine Only.bind (resolveTokens_only _ _ _) fun tokens => ?_
      exact Only.bind (getOrCreateSession_only _) fun session => withBooks_only session tokens

theorem obeys_preparing {job : Job α} (hjob : Only isPreparing job) {s : Seen} (hs : Ready s) :
    Obeys sessionProtocol job (fun _ => Ready) s := by
  refine obeys_of_only (fun s c _ hc => ?_) (fun s c x hs hc => ?_) hjob hs
  · cases c <;> trivial
  · cases c <;> cases x <;> first | exact hs | exact hc.elim

end Prepare

theorem loadSessionFills_obeys (s : Seen) :
    Obeys sessionProtocol loadSessionFills (fun x s' => (s'.locked = s.locked ∧ s'.idle = s.idle ∧
      s'.bought = s.bought) ∧ ∀ session fills, x = .ok (some (session, fills)) →
        s'.session = some session.id ∧ s'.fills = some fills) s := by
  refine obeys_perform trivial (fun session => ?_) fun e => ⟨⟨rfl, rfl, rfl⟩, by simp⟩
  cases session with
  | none => exact ⟨⟨rfl, rfl, rfl⟩, by simp⟩
  | some session =>
    refine obeys_perform rfl (fun fills => ?_) fun e => ⟨⟨rfl, rfl, rfl⟩, by simp⟩
    refine ⟨⟨rfl, rfl, rfl⟩, fun session' fills' heq => ?_⟩
    cases heq
    exact ⟨rfl, rfl⟩

theorem obeys_run {c : Call} {α : Type} {f : Answer c → Job α} {J : Seen → Prop} {s : Seen}
    (hc : sessionProtocol.allows s c) (hJ : ∀ x, J (sessionProtocol.next s c x))
    (hf : ∀ a, Obeys sessionProtocol (f a) (fun _ => J) (sessionProtocol.next s c (.ok a))) :
    Obeys sessionProtocol (run c >>= f) (fun _ => J) s :=
  obeys_perform hc hf fun e => hJ (.error e)

def Locked (s : Seen) : Prop := s.locked = true

theorem placeChild_obeys {sessionId : ℤ} {fills : List Fill} {decision : AvgReboundDecision}
    {s : Seen} (hs : Ready s) (hsession : s.session = some sessionId)
    (hfills : s.fills = some fills)
    (hselects : Selects sessionId fills decision) (markId : ℤ) :
    Obeys sessionProtocol (placeChild markId decision) (fun _ => Locked) s := by
  refine obeys_run rfl (fun x => ?_) fun _ => ?_
  · cases x <;> exact hs.1
  · refine obeys_run ⟨hs.1, hs.2, sessionId, hsession, fills, hfills, hselects⟩ (fun _ => hs.1)
      fun orderId => ?_
    cases orderId with
    | none => exact hs.1
    | some orderId =>
      refine obeys_run trivial (fun x => ?_) fun _ => hs.1
      cases x <;> exact hs.1

theorem placeDecision_obeys (node : NodeConfig) (prepared : Prepared)
    (loaded : Option (Session × List Fill)) {s : Seen} (hs : Ready s)
    (hloaded : ∀ session fills, loaded = some (session, fills) →
      s.session = some session.id ∧ s.fills = some fills) :
    Obeys sessionProtocol (placeDecision node prepared loaded) (fun _ => Locked) s := by
  unfold placeDecision
  dsimp only
  split_ifs with hterminal hcomplete
  · exact hs.1
  · refine obeys_run rfl (fun x => ?_) fun _ => hs.1
    cases x <;> exact hs.1
  · refine obeys_run trivial (fun x => ?_) fun price => ?_
    · cases x <;> exact hs.1
    · cases hselect : (selectDecision node.config (runtimeState loaded)
        ⟨prepared.primaryAsks, prepared.oppositeAsks, price⟩).1 with
      | none => exact hs.1
      | some decision =>
        refine obeys_run trivial (fun x => ?_) fun duplicate => ?_
        · cases x <;> exact hs.1
        · cases duplicate with
          | true => exact hs.1
          | false =>
            cases loaded with
            | none => cases (selectDecision_buys hselect).1
            | some loaded =>
              obtain ⟨hsession, hfills⟩ := hloaded loaded.1 loaded.2 rfl
              exact placeChild_obeys hs hsession hfills ⟨hcomplete, _, _, hselect⟩ _

theorem lockedExecution_obeys (node : NodeConfig) {s : Seen} (hs : Locked s) :
    Obeys sessionProtocol (lockedExecution node) (fun _ => Locked) s := by
  refine obeys_run trivial (fun x => ?_) fun active => ?_
  · cases x <;> exact hs
  · cases active with
    | true => exact hs
    | false =>
      refine obeys_run trivial (fun x => ?_) fun resolved => ?_
      · cases x <;> exact hs
      refine obeys_run trivial (fun x => ?_) fun activeSession => ?_
      · cases x <;> exact hs
      refine obeys_bind (obeys_preparing (prepare_only _ _ _) ⟨hs, rfl⟩) (fun prepared s' hs' => ?_)
        fun e s' hs' => hs'.1
      cases prepared with
      | error reason => exact hs'.1
      | ok prepared =>
        refine obeys_bind (loadSessionFills_obeys s') (fun loaded s'' h => ?_) fun e s'' h => ?_
        · obtain ⟨⟨hlocked, hidle, -⟩, hloaded⟩ := h
          have hready : Ready s'' := ⟨hlocked.trans hs'.1, hidle.trans hs'.2⟩
          exact placeDecision_obeys node prepared loaded hready fun session fills heq =>
            hloaded session fills (congrArg _ heq)
        · exact h.1.1.trans hs'.1

theorem execution_obeys (node : NodeConfig) (s : Seen) :
    Obeys sessionProtocol (execution node) (fun _ _ => True) s := by
  refine obeys_perform trivial (fun acquired => ?_) fun _ => trivial
  cases acquired with
  | false => trivial
  | true =>
    refine obeys_attempt (lockedExecution_obeys node rfl) fun result s' hs' => ?_
    refine obeys_perform hs' (fun _ => ?_) fun _ => trivial
    cases result <;> trivial

theorem nextStatus_isActive (fills : List Fill) (intent : Intent) :
    (nextStatus fills intent).isActive = true := by
  unfold nextStatus
  split_ifs
  · rfl
  · cases intent <;> rfl

theorem nextStatus_locked {fills : List Fill} {intent : Intent}
    (h : nextStatus fills intent = .locked) : Complete fills := by
  by_contra hopen
  unfold nextStatus at h
  rw [if_neg hopen] at h
  cases intent <;> cases h

theorem maybeRecordFill_obeys {orderId : ℕ} {decision : AvgReboundDecision} {average : ℚ}
    {s : Seen} (hs : s.bought = some (orderId, decision, average)) :
    Obeys sessionProtocol (maybeRecordFill orderId decision average) (fun _ _ => True) s := by
  refine obeys_perform ⟨decision, average, hs, rfl⟩ (fun inserted => ?_) fun _ => trivial
  cases inserted with
  | false => trivial
  | true =>
    refine obeys_bind (loadSessionFills_obeys _) (fun loaded s' h => ?_) fun _ _ _ => trivial
    refine obeys_perform (nextStatus_isActive _ _) (fun _ => ?_) fun _ => trivial
    refine ⟨fun hlocked => ?_, fun x => ?_⟩
    · have hcomplete := nextStatus_locked hlocked
      cases loaded with
      | none => exact absurd hcomplete (by decide)
      | some loaded => exact ⟨loaded.2, (h.2 loaded.1 loaded.2 rfl).2, hcomplete, rfl⟩
    · cases x <;> trivial

theorem finalizeFill_obeys (orderId : ℕ) (s : Seen) :
    Obeys sessionProtocol (finalizeFill orderId) (fun _ _ => True) s := by
  refine obeys_perform trivial (fun bought => ?_) fun _ => trivial
  cases bought with
  | none => trivial
  | some bought =>
    refine obeys_perform trivial (fun _ => ?_) fun _ => trivial
    exact maybeRecordFill_obeys rfl

theorem orderSteps_obeys (steps : List (ℕ × OrderStep)) (s : Seen) :
    Obeys sessionProtocol (orderSteps steps) (fun _ _ => True) s := by
  induction steps generalizing s with
  | nil => trivial
  | cons step steps ih => exact ⟨trivial, fun x => ih _⟩

theorem task_obeys (task : Task) (s : Seen) :
    Obeys sessionProtocol task.job (fun _ _ => True) s := by
  cases task with
  | execute node =>
    exact obeys_bind (execution_obeys node s) (fun _ _ _ => trivial) fun _ _ _ => trivial
  | finalize orderId => exact finalizeFill_obeys orderId s
  | exchange steps => exact orderSteps_obeys steps s

end PolymarketBot.AvgRebound.Sessions
