import PolymarketBot.AvgRebound.SessionProtocol

/-! The invariants of a session while its executions, the exchange and the record of the fills
interleave: they hold as long as no order is placed on fills that miss an earlier one. -/

namespace PolymarketBot.AvgRebound.Sessions
open Lib Prog Builder

variable {ι : Type}

structure WorldOk (w : World ι) : Prop where
  length : w.sessions.length ≤ 1
  sessions : ∀ session ∈ w.sessions, session.id = 1 ∧ session.status.isActive = true
  ledger : LedgerOk 1 w.ledger
  completions : ∀ lockedPnl ∈ w.completions,
    Complete w.ledger.recorded ∧ lockedPnl = pairedPnl w.ledger.recorded

/-- What a thread has learnt is true: the fills it read under the lock are still all there is, if
they were complete when it read them. -/
structure Knows (i : ι) (s : Seen) (w : World ι) : Prop where
  locked : s.locked = true → w.lock = some i
  idle : Ready s → ∀ n < w.ledger.orders.length, n ∈ w.inactive i
  session : ∀ sessionId ∈ s.session, sessionId = 1
  fresh : ∀ fills ∈ s.fills, Ready s → w.settledRead i = true →
    w.ledger.AllSettled ∧ w.ledger.recorded = fills
  closed : ∀ fills ∈ s.fills, Complete fills → w.ledger.recorded = fills
  bought : ∀ orderId decision average, s.bought = some (orderId, decision, average) →
    ∃ order, w.ledger.orders[orderId]? = some order ∧ order.decision = decision ∧
      order.outcome = .bought average

/-- A step that leaves what the thread has learnt true. -/
structure Frame (j : ι) (w w' : World ι) : Prop where
  lock : w.lock = some j → w'.lock = some j ∧ w.ledger.Follows w'.ledger
  ledger : w.ledger.Grows w'.ledger
  inactive : w'.inactive j = w.inactive j
  settledRead : w'.settledRead j = w.settledRead j

theorem Knows.nothing (i : ι) (w : World ι) : Knows i {} w where
  locked h := Bool.noConfusion h
  idle h := Bool.noConfusion h.1
  session _ h := by cases h
  fresh _ h := by cases h
  closed _ h := by cases h
  bought _ _ _ h := by cases h

theorem Knows.frame {j : ι} {s : Seen} {w w' : World ι} (h : Knows j s w) (hw : WorldOk w)
    (hframe : Frame j w w') : Knows j s w' where
  locked hs := (hframe.lock (h.locked hs)).1
  idle hs := by
    rw [hframe.inactive, (hframe.lock (h.locked hs.1)).2.length]
    exact h.idle hs
  session := h.session
  fresh fills hfills hs hread := by
    rw [hframe.settledRead] at hread
    obtain ⟨hsettled, hrecorded⟩ := h.fresh fills hfills hs hread
    have hfollows := (hframe.lock (h.locked hs.1)).2
    exact ⟨hfollows.settled hsettled, (hfollows.recorded hsettled).trans hrecorded⟩
  closed fills hfills hcomplete := by
    have hrecorded := h.closed fills hfills hcomplete
    have hsettled := hw.ledger.allSettled (by rw [hrecorded]; exact hcomplete)
    exact (hframe.ledger.recorded hsettled).trans hrecorded
  bought orderId decision average hs := by
    obtain ⟨order, hlookup, hdecision, hbought⟩ := h.bought orderId decision average hs
    obtain ⟨order', hlookup', hadvances⟩ := hframe.ledger.lookup orderId order hlookup
    refine ⟨order', hlookup', hadvances.decision.trans hdecision, ?_⟩
    exact (hadvances.outcome (by rw [hbought]; simp)).trans hbought

theorem Frame.of_eq {j : ι} {w w' : World ι} (hlock : w'.lock = w.lock)
    (hledger : w'.ledger = w.ledger) (hinactive : w'.inactive j = w.inactive j)
    (hread : w'.settledRead j = w.settledRead j) : Frame j w w' where
  lock h := ⟨hlock.trans h, hledger ▸ .refl w.ledger⟩
  ledger := hledger ▸ (Ledger.Follows.refl w.ledger).toGrows
  inactive := hinactive
  settledRead := hread

theorem Frame.of_follows {j : ι} {w : World ι} {L : Ledger} (h : w.ledger.Follows L) :
    Frame j w { w with ledger := L } where
  lock hlock := ⟨hlock, h⟩
  ledger := h.toGrows
  inactive := rfl
  settledRead := rfl

theorem WorldOk.follow {w : World ι} (hw : WorldOk w) {L : Ledger} (hgrows : w.ledger.Grows L)
    (hL : LedgerOk 1 L) : WorldOk { w with ledger := L } where
  length := hw.length
  sessions := hw.sessions
  ledger := hL
  completions lockedPnl hmem := by
    obtain ⟨hcomplete, hpnl⟩ := hw.completions lockedPnl hmem
    have hsame := hgrows.recorded (hw.ledger.allSettled hcomplete)
    exact hsame ▸ ⟨hcomplete, hpnl⟩

theorem WorldOk.invariants {w : World ι} (hw : WorldOk w) : RunInvariants w where
  covered := hw.ledger.recorded.covered
  once := hw.ledger.bought_once
  session := hw.length
  lockedPnl lockedPnl hmem := (hw.completions lockedPnl hmem).2

/-! ### Calls that no thread learns from -/

theorem orderStep_advances (step : OrderStep) (order : AvgReboundOrder) :
    order.Advances (step.apply order) := by
  cases step with
  | trade average => exact order.trade_advances average
  | kill => exact order.kill_advances
  | setStatus status => exact order.setStatus_advances status

def isQuiet : Call → Bool
  | .resolveTokens | .marketTokens _ | .insertSession _ | .orderBook _ | .markSession _ _
  | .oppositePrice _ | .hasDecisionOrder _ | .appendEvent _ | .orderStep _ _ | .insertFill _ _
  | .fillRecorded _ _ _ => true
  | _ => false

section Steps
variable [DecidableEq ι] {i : ι} {s : Seen} {w : World ι} {r : Reply} {c : Call}

omit [DecidableEq ι] in
theorem WorldOk.sessions_eq_nil (hw : WorldOk w) (hnone : w.activeSession.isSome = false) :
    w.sessions = [] := by
  have hall : w.sessions.filter (·.status.isActive) = w.sessions :=
    List.filter_eq_self.mpr fun session hsession => (hw.sessions session hsession).2
  rw [World.activeSession, hall] at hnone
  simpa using hnone

omit [DecidableEq ι] in
theorem WorldOk.activeSession_id (hw : WorldOk w) {session : Session}
    (h : w.activeSession = some session) : session.id = 1 :=
  (hw.sessions session (List.mem_of_mem_filter (List.mem_of_getLast? h))).1

omit [DecidableEq ι] in
theorem WorldOk.markSession (hw : WorldOk w) (sessionId : ℤ) {status : RowStatus}
    (hstatus : status.isActive = true) : WorldOk (w.markSession sessionId status) where
  length := (List.length_map ..).trans_le hw.length
  sessions session' hsession' := by
    obtain ⟨session, hsession, rfl⟩ := List.mem_map.mp hsession'
    obtain ⟨hid, hactive⟩ := hw.sessions session hsession
    split_ifs
    · exact ⟨hid, hstatus⟩
    · exact ⟨hid, hactive⟩
  ledger := hw.ledger
  completions := hw.completions

omit [DecidableEq ι] in
theorem WorldOk.insertSession (hw : WorldOk w) (tokens : TokenResolution) :
    WorldOk (w.insertSession tokens).2 := by
  unfold World.insertSession
  cases hactive : w.activeSession.isSome with
  | true => exact hw
  | false =>
    have hnil := hw.sessions_eq_nil hactive
    refine ⟨?_, fun session hsession => ?_, hw.ledger, hw.completions⟩
    · simp [hnil]
    · rw [hnil] at hsession
      obtain rfl := List.mem_singleton.mp hsession
      exact ⟨rfl, rfl⟩

omit [DecidableEq ι] in
theorem WorldOk.complete (hw : WorldOk w) (hs : Knows i s w) {lockedPnl : ℚ}
    (h : ∃ fills ∈ s.fills, Complete fills ∧ lockedPnl = lockedPnlOf fills) :
    Complete w.ledger.recorded ∧ lockedPnl = pairedPnl w.ledger.recorded := by
  obtain ⟨fills, hfills, hcomplete, rfl⟩ := h
  obtain rfl := hs.closed fills hfills hcomplete
  exact ⟨hcomplete, hcomplete.lockedPnlOf hw.ledger.recorded.shares hw.ledger.recorded.covered⟩

theorem quiet_ok (hw : WorldOk w) (hs : Knows i s w) (hc : sessionProtocol.allows s c)
    (hquiet : isQuiet c = true) : WorldOk (answer i w r c).2 := by
  cases c with
  | insertSession tokens => exact hw.insertSession tokens
  | markSession sessionId status => exact hw.markSession sessionId hc
  | orderStep orderId step =>
    have hfollows := w.ledger.update_follows orderId (orderStep_advances step)
    exact hw.follow hfollows.toGrows (hw.ledger.update orderId (orderStep_advances step))
  | insertFill orderId fill =>
    obtain ⟨decision, average, hseen, rfl⟩ := hc
    obtain ⟨order, hlookup, rfl, hbought⟩ := hs.bought orderId decision average hseen
    have hfollows := Ledger.insertFill_follows hlookup hbought (orderFill order.decision average)
    exact hw.follow hfollows.toGrows (hw.ledger.insertFill hlookup hbought)
  | fillRecorded orderId status lockedPnl =>
    refine ⟨hw.length, hw.sessions, hw.ledger, fun pnl hpnl => ?_⟩
    obtain hold | hnew := List.mem_append.mp hpnl
    · exact hw.completions pnl hold
    · split_ifs at hnew with hlocked
      · obtain rfl := List.mem_singleton.mp hnew
        exact hw.complete hs (hc hlocked)
      · cases hnew
  | resolveTokens | marketTokens _ | orderBook _ | oppositePrice _ | hasDecisionOrder _
  | appendEvent _ => exact hw
  | _ => cases hquiet

theorem quiet_frame (hs : Knows i s w) (hc : sessionProtocol.allows s c)
    (hquiet : isQuiet c = true) (j : ι) : Frame j w (answer i w r c).2 := by
  cases c with
  | insertSession tokens =>
    change Frame j w (w.insertSession tokens).2
    unfold World.insertSession
    split_ifs
    · exact .of_eq rfl rfl rfl rfl
    · exact .of_eq rfl rfl rfl rfl
  | orderStep orderId step =>
    exact .of_follows (w.ledger.update_follows orderId (orderStep_advances step))
  | insertFill orderId fill =>
    obtain ⟨decision, average, hseen, rfl⟩ := hc
    obtain ⟨order, hlookup, rfl, hbought⟩ := hs.bought orderId decision average hseen
    exact .of_follows (Ledger.insertFill_follows hlookup hbought _)
  | markSession _ _ | fillRecorded _ _ _ | resolveTokens | marketTokens _ | orderBook _
  | oppositePrice _ | hasDecisionOrder _ | appendEvent _ => exact .of_eq rfl rfl rfl rfl
  | _ => cases hquiet

theorem quiet_next (hquiet : isQuiet c = true) (x : Except String (Answer c)) :
    sessionProtocol.next s c x = s := by
  cases c <;> first | rfl | cases hquiet

/-! ### Calls that a thread learns from -/

/-- A step after which the world is in order, its thread knows what it has learnt, and the others
what they knew. -/
structure StepOk (i : ι) (s' : Seen) (w w' : World ι) : Prop where
  world : WorldOk w'
  own : Knows i s' w'
  other : ∀ j ≠ i, Frame j w w'

omit [DecidableEq ι] in
theorem StepOk.stay (hw : WorldOk w) {s' : Seen} (hs : Knows i s' w) : StepOk i s' w w where
  world := hw
  own := hs
  other _ _ := .of_eq rfl rfl rfl rfl

omit [DecidableEq ι] in
theorem Knows.forget (hs : Knows i s w) : Knows i { s with fills := none } w where
  locked := hs.locked
  idle := hs.idle
  session := hs.session
  fresh _ h := by cases h
  closed _ h := by cases h
  bought := hs.bought

omit [DecidableEq ι] in
theorem Knows.afterPlacing (hs : Knows i s w) :
    Knows i { s with idle := false, fills := none } w where
  locked := hs.locked
  idle h := Bool.noConfusion h.2
  session := hs.session
  fresh _ h := by cases h
  closed _ h := by cases h
  bought := hs.bought

omit [DecidableEq ι] in
theorem Knows.locks (i : ι) (w : World ι) :
    Knows i { locked := true } { w with lock := some i } where
  locked _ := rfl
  idle h := Bool.noConfusion h.2
  session _ h := by cases h
  fresh _ h := by cases h
  closed _ h := by cases h
  bought _ _ _ h := by cases h

omit [DecidableEq ι] in
theorem tryLock_ok (hw : WorldOk w) :
    StepOk i { locked := (w.tryLock i).1 } w (w.tryLock i).2 := by
  unfold World.tryLock
  split_ifs with hfree
  · refine ⟨⟨hw.length, hw.sessions, hw.ledger, hw.completions⟩, ?_, fun j _ => ?_⟩
    · exact .locks i w
    · refine ⟨fun hlock => ?_, (Ledger.Follows.refl w.ledger).toGrows, rfl, rfl⟩
      rw [hlock] at hfree
      cases hfree
  · exact .stay hw (.nothing i w)

omit [DecidableEq ι] in
theorem release_ok (hw : WorldOk w) (hlock : w.lock = some i) :
    StepOk i {} w { w with lock := none } where
  world := ⟨hw.length, hw.sessions, hw.ledger, hw.completions⟩
  own := .nothing i _
  other j hj := by
    refine ⟨fun h => ?_, (Ledger.Follows.refl w.ledger).toGrows, rfl, rfl⟩
    rw [hlock] at h
    exact absurd (Option.some.inj h).symm hj

omit [DecidableEq ι] in
theorem isInactive_of_none_active (h : w.hasActiveOrder = false) {n : ℕ}
    (hn : n < w.ledger.orders.length) : w.isInactive n = true := by
  have hall := List.any_eq_false.mp h w.ledger.orders[n] (List.getElem_mem hn)
  simpa [World.isInactive, List.getElem?_eq_getElem hn] using hall

theorem hasActiveOrder_ok (hw : WorldOk w) (hs : Knows i s w) :
    StepOk i { s with idle := !w.hasActiveOrder, fills := none } w
      (answer i w r .hasActiveOrder).2 where
  world := ⟨hw.length, hw.sessions, hw.ledger, hw.completions⟩
  own := by
    refine ⟨hs.locked, fun hready n hn => ?_, hs.session, nofun, nofun, hs.bought⟩
    have hnone : w.hasActiveOrder = false := by simpa using hready.2
    change n ∈ Function.update w.inactive i _ i
    rw [Function.update_self]
    exact List.mem_filter.mpr ⟨List.mem_range.mpr hn, isInactive_of_none_active hnone hn⟩
  other j hj := .of_eq rfl rfl (Function.update_of_ne hj _ _) rfl

omit [DecidableEq ι] in
theorem loadActiveSession_ok (hw : WorldOk w) (hs : Knows i s w) :
    StepOk i { s with session := w.activeSession.map (·.id), fills := none } w w := by
  refine .stay hw { hs.forget with session := fun sessionId hsession => ?_ }
  obtain ⟨session, hactive, rfl⟩ := Option.map_eq_some_iff.mp hsession
  exact hw.activeSession_id hactive

omit [DecidableEq ι] in
theorem WorldOk.fillsOf (hw : WorldOk w) : w.fillsOf 1 = w.ledger.recorded :=
  List.filter_eq_self.mpr fun _ hfill => decide_eq_true (hw.ledger.recorded_session hfill)

theorem loadFills_ok (hw : WorldOk w) (hs : Knows i s w) {sessionId : ℤ}
    (hc : s.session = some sessionId) :
    StepOk i { s with fills := some (w.fillsOf sessionId) } w
      (answer i w r (.loadFills sessionId)).2 where
  world := ⟨hw.length, hw.sessions, hw.ledger, hw.completions⟩
  own := by
    obtain rfl := hs.session sessionId hc
    rw [hw.fillsOf]
    refine ⟨hs.locked, hs.idle, hs.session, fun fills hfills hready hread => ?_, ?_, hs.bought⟩
    · change Function.update w.settledRead i _ i = true at hread
      rw [Function.update_self] at hread
      refine ⟨fun n => ?_, Option.some.inj hfills⟩
      obtain hlt | hge := lt_or_ge n w.ledger.orders.length
      · exact List.all_eq_true.mp hread n (hs.idle hready n hlt)
      · change w.ledger.settled n = true
        unfold Ledger.settled
        rw [List.getElem?_eq_none hge]
        rfl
    · exact fun fills hfills _ => Option.some.inj hfills
  other j hj := .of_eq rfl rfl rfl (Function.update_of_ne hj _ _)

omit [DecidableEq ι] in
theorem boughtOrder_ok (hw : WorldOk w) (hs : Knows i s w) (orderId : ℕ) :
    StepOk i { s with bought := (w.boughtOrder orderId).map (Prod.mk orderId) } w w := by
  refine .stay hw { hs with bought := fun n decision average hbought => ?_ }
  obtain ⟨seen, hseen, heq⟩ := Option.map_eq_some_iff.mp hbought
  obtain ⟨order, hlookup, hmatch⟩ := Option.bind_eq_some_iff.mp hseen
  cases heq
  cases houtcome : order.outcome with
  | bought average' =>
    rw [houtcome] at hmatch
    cases hmatch
    exact ⟨order, hlookup, rfl, houtcome⟩
  | _ =>
    rw [houtcome] at hmatch
    cases hmatch

omit [DecidableEq ι] in
theorem createOrder_ok (hw : WorldOk w) (hs : Knows i s w) {decision : AvgReboundDecision}
    (hc : sessionProtocol.allows s (.createOrder decision)) (refuses : Bool)
    (hok : refuses = true ∨ w.settledRead i = true) :
    StepOk i { s with idle := false, fills := none } w (w.createOrder decision refuses).2 := by
  obtain ⟨hlocked, hidle, sessionId, hsession, fills, hfills, hopen, config, market, hselect⟩ := hc
  unfold World.createOrder
  split_ifs with hrefuses
  · exact .stay hw hs.afterPlacing
  · have hread : w.settledRead i = true := hok.resolve_left hrefuses
    obtain ⟨hsettled, rfl⟩ := hs.fresh fills hfills ⟨hlocked, hidle⟩ hread
    obtain rfl := hs.session sessionId hsession
    have hrows := hw.ledger.recorded
    rw [loadState_complete 1 hrows.shares hrows.covered] at hopen
    obtain ⟨hid, hfits⟩ := selectDecision_fits hrows hopen hselect
    have hgrows := w.ledger.place_grows decision
    refine ⟨hw.follow hgrows (hw.ledger.place hsettled hid hfits), ?_, fun j hj => ?_⟩
    · refine ⟨hs.locked, fun h => Bool.noConfusion h.2, hs.session, nofun, nofun, ?_⟩
      intro n seen average hbought
      obtain ⟨order, hlookup, hrest⟩ := hs.bought n seen average hbought
      have hlt := (List.getElem?_eq_some_iff.mp hlookup).1
      exact ⟨order, (List.getElem?_append_left hlt).trans hlookup, hrest⟩
    · refine ⟨fun hlock => ?_, hgrows, rfl, rfl⟩
      rw [hs.locked hlocked] at hlock
      exact absurd (Option.some.inj hlock).symm hj

theorem answer_ok (hw : WorldOk w) (hs : Knows i s w) (hc : sessionProtocol.allows s c)
    (hok : PlacedOnSettled i c w r) (hfails : r.fails = none) :
    StepOk i (sessionProtocol.next s c (answer i w r c).1) w (answer i w r c).2 := by
  cases hquiet : isQuiet c with
  | true =>
    rw [quiet_next hquiet]
    have hframe := quiet_frame (r := r) hs hc hquiet
    exact ⟨quiet_ok hw hs hc hquiet, hs.frame hw (hframe i), fun j _ => hframe j⟩
  | false =>
    cases c with
    | tryLock => exact tryLock_ok hw
    | release => exact release_ok hw (hs.locked hc)
    | hasActiveOrder => exact hasActiveOrder_ok hw hs
    | loadActiveSession => exact loadActiveSession_ok hw hs
    | loadFills sessionId => exact loadFills_ok hw hs hc
    | boughtOrder orderId => exact boughtOrder_ok hw hs orderId
    | createOrder decision =>
      have hsettled : r.refuses = true ∨ w.settledRead i = true := by
        simpa [PlacedOnSettled, hfails] using hok
      exact createOrder_ok hw hs hc r.refuses hsettled
    | _ => cases hquiet

omit [DecidableEq ι] in
theorem failure_ok (hw : WorldOk w) (hs : Knows i s w) (c : Call) (err : String) :
    StepOk i (sessionProtocol.next s c (failure c err)) w w := by
  refine .stay hw ?_
  cases c with
  | release => exact .nothing i w
  | createOrder decision => exact hs.afterPlacing
  | _ => exact hs

theorem act_step (i : ι) (s : Seen) (c : Call) (w : World ι) (r : Reply) (hw : WorldOk w)
    (hs : Knows i s w) (hc : sessionProtocol.allows s c) (hok : PlacedOnSettled i c w r) :
    WorldOk (act i c w r).2 ∧ Knows i (sessionProtocol.next s c (act i c w r).1) (act i c w r).2 ∧
      ∀ j ≠ i, ∀ t, Knows j t w → Knows j t (act i c w r).2 := by
  have hstep : StepOk i (sessionProtocol.next s c (act i c w r).1) w (act i c w r).2 := by
    cases hfails : r.fails with
    | some err =>
      rw [act, hfails]
      exact failure_ok hw hs c err
    | none =>
      rw [act, hfails]
      exact answer_ok hw hs hc hok hfails
  exact ⟨hstep.world, hstep.own, fun j hj t ht => ht.frame hw (hstep.other j hj)⟩

end Steps

/-! ### Every run -/

/-- Whatever the configurations, the number of executions and finalisations, their interleaving
and failures, what the books show and at what price within their limits the orders fill: the
opposite side stays covered, no tier, leg or rescue is bought twice, there is one session, and the
result locked at its completion is that of the recorded fills, as long as each order is placed on
fills that had settled the orders before it. -/
theorem run_invariants_kept [DecidableEq ι] (task : ι → Task) (schedule : List (ι × Reply))
    (hplaced : Pool.Meets act PlacedOnSettled (sessionPool task) schedule) :
    Pool.Always act RunInvariants (sessionPool task) schedule := by
  have hsound : (sessionPool task).Sound sessionProtocol WorldOk Knows := by
    refine ⟨⟨Nat.zero_le 1, nofun, .nil, nofun⟩, fun i => ?_⟩
    exact ⟨{}, .nothing i _, task_obeys (task i) {}⟩
  exact hsound.always_of_meets act_step (fun _ hw => hw.invariants) hplaced

/-! ### A tier, a leg and a rescue -/

/-- The executions, and what happens to each of their orders. -/
inductive Party where
  | executes (n : ℕ)
  | trades (n : ℕ)
  | finalizes (n : ℕ)
deriving DecidableEq

def sampleNode : NodeConfig where
  config := sampleConfig
  primaryOutcomeLabel := some .yes
  oppositeOutcomeLabel := some .no

def sampleTask : Party → Task
  | .executes _ => .execute sampleNode
  | .trades n => .exchange [(n, .trade (3 / 10))]
  | .finalizes n => .finalize n

def samplePool : Pool Party Call Answer String (World Party) := sessionPool sampleTask

/-- Calls of a party, while the books ask this price. -/
def turnsOf (party : Party) (calls : ℕ) (ask : ℚ := 3 / 10) : List (Party × Reply) :=
  List.replicate calls (party, { asks := some [⟨ask, 10⟩], price := ask })

def boughtTier : List (Party × Reply) :=
  turnsOf (.executes 0) 16 ++ turnsOf (.trades 0) 1 ++ turnsOf (.finalizes 0) 7

def boughtLeg : List (Party × Reply) := turnsOf (.executes 1) 14 ++ turnsOf (.trades 1) 1

def boughtRescue : List (Party × Reply) :=
  turnsOf (.executes 2) 14 (1 / 2) ++ turnsOf (.trades 2) 1 ++ turnsOf (.finalizes 2) 7

/-- The rescue is placed once the leg's fill is recorded, and buys the other four shares. -/
theorem orders_in_turn :
    (Pool.run act samplePool (boughtTier ++ boughtLeg ++ turnsOf (.finalizes 1) 7 ++
      boughtRescue)).world.completions = [16 / 5] ∧
    Pool.Always act RunInvariants samplePool (boughtTier ++ boughtLeg ++
      turnsOf (.finalizes 1) 7 ++ boughtRescue) :=
  ⟨by decide +kernel, run_invariants_kept sampleTask _ (by decide +kernel)⟩

/-- The leg's order is completed and its fill not recorded yet: the rescue buys all eight. -/
def lateRecord : List (Party × Reply) :=
  boughtTier ++ boughtLeg ++ turnsOf (.finalizes 1) 2 ++ boughtRescue ++ turnsOf (.finalizes 1) 5

theorem rescue_misses_leg :
    ¬ RunInvariants (Pool.run act samplePool lateRecord).world := by
  intro h
  have hopposite :
      qtyOf .opposite (Pool.run act samplePool lateRecord).world.ledger.recorded = 12 := by
    decide +kernel
  have hprimary :
      qtyOf .primary (Pool.run act samplePool lateRecord).world.ledger.recorded = 8 := by
    decide +kernel
  have hcovered := h.covered
  rw [hopposite, hprimary] at hcovered
  norm_num at hcovered

end PolymarketBot.AvgRebound.Sessions
