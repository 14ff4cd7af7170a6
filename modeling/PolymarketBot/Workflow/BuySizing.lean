import PolymarketBot.Workflow.Reads

/-! Passes over a workflow beside the trading of its children and the arrival of their fills:
when the buy children stay within the notional that the sell leg has freed. -/

namespace PolymarketBot.Workflow
open Lib Prog Builder Flow

/-- No more is bought than the sell leg has freed, and no freed notional is used twice. -/
structure NeverOverbuys (w : World) : Prop where
  within : w.tables.exposure ≤ w.tables.freed w.tables.sold
  target : ∀ buyLeg, legOfType w.tables.legs .buy = some buyLeg →
    w.tables.exposure ≤ buyLeg.targetNotionalUsdc
  once : ∀ sizing ∈ w.sizings, sizing.taken + sizing.size ≤ sizing.freed

/-- When a buy child is created, all that the earlier ones took was in the last sum of the buy
leg's fills. -/
def CountsEarlierBuys (c : WorkflowCall) (w : World) (r : Reply) : Prop :=
  match c with
  | .createOrder .buy _ => r.fails.isSome ∨ w.tables.exposure ≤ w.lastAggregate .buy
  | _ => True

instance (c : WorkflowCall) (w : World) (r : Reply) : Decidable (CountsEarlierBuys c w r) := by
  unfold CountsEarlierBuys
  split <;> infer_instance

structure BooksOk (w : World) : Prop where
  law : NeverOverbuys w
  bought : w.tables.BoughtWithin
  read : w.lastAggregate .sell ≤ w.tables.sold

/-- What a pass has read of the legs and of their fills is still what was last read. -/
structure Holds (reads : Reads) (w : World) : Prop where
  legs : ∀ legType leg, legOfType reads.legs legType = some leg →
    w.tables.targets legType = some leg.targetNotionalUsdc
  aggregate : reads.aggregate = w.lastAggregate

/-- The passes run in one thread; the others are outside. -/
def Knows {κ : Type} : Option κ → Option Reads → World → Prop
  | none, some reads, w => Holds reads w
  | some _, none, _ => True
  | _, _, _ => False

section Steps
variable {w : World} {r : Reply}

theorem act_fails {c : WorkflowCall} {err : String} (hfails : r.fails = some err)
    (hc : canFail c = true) : act c w r = (.error err, w) := by
  have hsome : (r.fails.filter fun _ => canFail c) = some err := by simp [hfails, hc]
  rw [act, hsome]

theorem act_answers {c : WorkflowCall} (h : r.fails = none ∨ canFail c = false) :
    act c w r = (.ok (w.tables.answer r c).1,
      { w.note c with tables := (w.tables.answer r c).2 }) := by
  have hnone : (r.fails.filter fun _ => canFail c) = none := by
    obtain h | h := h <;> simp [h]
  rw [act, hnone]

theorem act_cases (c : WorkflowCall) (w : World) (r : Reply) :
    (∃ err, r.fails = some err ∧ act c w r = (.error err, w)) ∨
      act c w r = (.ok (w.tables.answer r c).1,
        { w.note c with tables := (w.tables.answer r c).2 }) := by
  cases hfails : r.fails with
  | none => exact .inr (act_answers (.inl hfails))
  | some err =>
    cases hc : canFail c with
    | true => exact .inl ⟨err, rfl, act_fails hfails hc⟩
    | false => exact .inr (act_answers (.inr hc))

theorem note_sizings {c : WorkflowCall} (hc : isCalm c = true) :
    (w.note c).sizings = w.sizings := by
  cases c with
  | createOrder leg order =>
    cases leg with
    | sell => rfl
    | buy => cases hc
  | _ => rfl

theorem NeverOverbuys.calm {w' : World} (h : NeverOverbuys w)
    (hcalm : Tables.Calm w.tables w'.tables) (hsizings : w'.sizings = w.sizings) :
    NeverOverbuys w' := by
  have hwithin : w'.tables.exposure ≤ w'.tables.freed w'.tables.sold := by
    calc w'.tables.exposure ≤ w.tables.exposure := hcalm.exposure
      _ ≤ w.tables.freed w.tables.sold := h.within
      _ ≤ w.tables.freed w'.tables.sold := Tables.freed_mono hcalm.sold
      _ = w'.tables.freed w'.tables.sold := (Tables.freed_congr hcalm.targets _).symm
  refine ⟨hwithin, fun buyLeg hbuy => hwithin.trans (Tables.freed_le_target _ hbuy), ?_⟩
  rw [hsizings]
  exact h.once

theorem BooksOk.answer (h : BooksOk w) {c : WorkflowCall} (hc : isCalm c = true) :
    BooksOk { w.note c with tables := (w.tables.answer r c).2 } := by
  have hcalm := Tables.answer_calm h.bought r hc
  refine ⟨h.law.calm hcalm (note_sizings hc), hcalm.bought, ?_⟩
  cases c with
  | aggregateLegFills leg =>
    cases leg with
    | sell =>
      change Function.update w.lastAggregate LegType.sell (w.tables.aggregateLegFills .sell).1
        LegType.sell ≤ w.tables.sold
      rw [Function.update_self]
      exact le_rfl
    | buy =>
      change Function.update w.lastAggregate LegType.buy (w.tables.aggregateLegFills .buy).1
        LegType.sell ≤ w.tables.sold
      rw [Function.update_of_ne (by decide)]
      exact h.read
  | createOrder leg order =>
    cases leg with
    | sell => exact h.read.trans hcalm.sold
    | buy => cases hc
  | _ => exact h.read.trans hcalm.sold

theorem BooksOk.act (h : BooksOk w) {c : WorkflowCall} (hc : isCalm c = true) :
    BooksOk (act c w r).2 := by
  obtain ⟨err, -, hact⟩ | hact := act_cases c w r
  · rw [hact]
    exact h
  · rw [hact]
    exact h.answer hc

theorem targets_answer (h : BooksOk w) (c : WorkflowCall) :
    (w.tables.answer r c).2.targets = w.tables.targets := by
  cases hc : isCalm c with
  | true => exact (Tables.answer_calm h.bought r hc).targets
  | false =>
    cases c with
    | createOrder leg order => rfl
    | _ => cases hc

theorem Holds.next {reads : Reads} (h : Holds reads w) (hw : BooksOk w) (c : WorkflowCall) :
    ∃ reads', workflowProtocol.next (some reads) c (act c w r).1 = some reads' ∧
      Holds reads' (act c w r).2 := by
  obtain ⟨err, -, hact⟩ | hact := act_cases c w r
  · rw [hact]
    exact ⟨reads, next_error _ c err, h⟩
  · rw [hact]
    have htargets : ∀ legType leg, legOfType reads.legs legType = some leg →
        (w.tables.answer r c).2.targets legType = some leg.targetNotionalUsdc := by
      rw [targets_answer hw c]
      exact h.legs
    cases c with
    | loadLegs =>
      refine ⟨{ reads with legs := w.tables.legs }, rfl, fun legType leg hleg => ?_, h.aggregate⟩
      exact congrArg (Option.map _) hleg
    | aggregateLegFills leg =>
      refine ⟨_, rfl, htargets, ?_⟩
      exact congrArg (Function.update · leg _) h.aggregate
    | createOrder leg order =>
      cases leg with
      | sell => exact ⟨reads, rfl, htargets, h.aggregate⟩
      | buy => exact ⟨reads, rfl, htargets, h.aggregate⟩
    | _ => exact ⟨reads, rfl, htargets, h.aggregate⟩

theorem Holds.market {reads : Reads} (h : Holds reads w) (hw : BooksOk w) (step : MarketStep) :
    Holds reads (act (.market step) w r).2 := by
  rw [act_answers (.inr rfl)]
  refine ⟨?_, h.aggregate⟩
  have htargets := targets_answer (r := r) hw (.market step)
  change ∀ legType leg, _ → (w.tables.answer r (.market step)).2.targets legType = _
  rw [htargets]
  exact h.legs

theorem exposure_createOrder (t : Tables) {order : ChildOrder} (hpending : order.status = .pending)
    (r : Reply) :
    (t.answer r (.createOrder .buy order)).2.exposure = t.exposure + order.sizeUsdc := by
  have hnew : Child.exposure { id := t.children.length, leg := .buy, order } = order.sizeUsdc := by
    simp [Child.exposure, Child.isLive, isFinal, hpending]
  simp [Tables.answer, Tables.exposure, hnew]

theorem create_law {reads : Reads} {order : ChildOrder} (hw : BooksOk w) (hreads : Holds reads w)
    (hsizes : reads.sizes order) :
    NeverOverbuys (act (.createOrder .buy order) w r).2 ↔
      CountsEarlierBuys (.createOrder .buy order) w r := by
  obtain ⟨hpending, hnonneg, sellLeg, buyLeg, hsell, hbuy, hsize⟩ := hsizes
  have hfreed : w.tables.freed (w.lastAggregate .sell) =
      order.sizeUsdc + w.lastAggregate .buy := by
    rw [Tables.freed_eq_of_targets (hreads.legs _ _ hsell) (hreads.legs _ _ hbuy), hsize,
      hreads.aggregate]
    ring
  obtain ⟨err, hfails, hact⟩ | hact := act_cases (.createOrder .buy order) w r
  · rw [hact]
    exact iff_of_true hw.law (.inl (by rw [hfails]; rfl))
  · cases hfails : r.fails with
    | some err =>
      have herr : act (.createOrder .buy order) w r = (.error err, w) := act_fails hfails rfl
      rw [herr] at hact
      cases hact
    | none =>
      have hcondition : CountsEarlierBuys (.createOrder .buy order) w r ↔
          w.tables.exposure ≤ w.lastAggregate .buy := by
        simp [CountsEarlierBuys, hfails]
      rw [hact, hcondition]
      constructor
      · intro h
        have hnew := h.once ⟨w.tables.exposure, order.sizeUsdc,
          w.tables.freed (w.lastAggregate .sell)⟩ (List.mem_append_right _ (List.mem_singleton_self _))
        simp only [hfreed] at hnew
        linarith
      · intro hcounted
        have hwithin : w.tables.exposure + order.sizeUsdc ≤ w.tables.freed w.tables.sold := by
          calc w.tables.exposure + order.sizeUsdc ≤ w.tables.freed (w.lastAggregate .sell) := by
                rw [hfreed]; linarith
            _ ≤ w.tables.freed w.tables.sold := Tables.freed_mono hw.read
        refine ⟨?_, fun leg hleg => ?_, fun sizing hsizing => ?_⟩
        · rw [exposure_createOrder w.tables hpending]
          exact hwithin
        · rw [exposure_createOrder w.tables hpending]
          exact hwithin.trans (Tables.freed_le_target _ hleg)
        · obtain hold | hnew := List.mem_append.mp hsizing
          · exact hw.law.once sizing hold
          · cases List.mem_singleton.mp hnew
            rw [hfreed]
            linarith

end Steps

section Runs
variable {κ : Type} [DecidableEq κ]

/-- The passes over a new workflow, and threads of what happens outside them. -/
def workflowPool (workflow : TradeBuilderWorkflow) (legs : List TradeBuilderWorkflowLeg)
    (passes : ℕ) (outside : κ → List MarketStep) :
    Pool (Option κ) WorkflowCall WorkflowAnswer String World where
  world := { tables := { workflow, legs } }
  thread
    | none => workflowPasses passes
    | some k => marketSteps (outside k)

omit [DecidableEq κ] in
theorem workflowPool_sound (workflow : TradeBuilderWorkflow) (legs : List TradeBuilderWorkflowLeg)
    (passes : ℕ) (outside : κ → List MarketStep) :
    (workflowPool workflow legs passes outside).Sound workflowProtocol BooksOk Knows where
  world := by
    have hnothing : (0 : ℚ) ≤ Tables.freed { workflow, legs } (Tables.sold { workflow, legs }) :=
      Tables.freed_nonneg _ _
    refine ⟨⟨hnothing, fun buyLeg _ => buyLeg.target_nonneg, ?_⟩, ?_, le_refl _⟩
    · exact fun sizing hsizing => absurd hsizing List.not_mem_nil
    · exact fun child hchild => absurd hchild List.not_mem_nil
  thread i := by
    cases i with
    | none =>
      refine ⟨some {}, ⟨fun legType leg hleg => ?_, rfl⟩, ?_⟩
      · cases hleg
      · exact obeys_mono (workflowPasses_keeps passes {}) fun _ _ _ => trivial
    | some k => exact ⟨none, trivial, marketSteps_obeys (outside k)⟩

omit [DecidableEq κ] in
theorem act_law {i : Option κ} {s : Option Reads} {c : WorkflowCall} {w : World} {r : Reply}
    (hw : BooksOk w) (hs : Knows i s w) (hc : workflowProtocol.allows s c) :
    NeverOverbuys (act c w r).2 ↔ CountsEarlierBuys c w r := by
  cases hcalm : isCalm c with
  | true =>
    have htrue : CountsEarlierBuys c w r := by
      cases c with
      | createOrder leg order =>
        cases leg with
        | sell => trivial
        | buy => cases hcalm
      | _ => trivial
    exact iff_of_true (hw.act hcalm).law htrue
  | false =>
    cases c with
    | createOrder leg order =>
      cases leg with
      | sell => cases hcalm
      | buy =>
        cases i with
        | none =>
          cases s with
          | none => cases hs
          | some reads => exact create_law hw hs hc
        | some k =>
          cases s with
          | none => cases hc
          | some reads => cases hs
    | _ => cases hcalm

theorem booksOk_create {w : World} {r : Reply} {order : ChildOrder} (hw : BooksOk w)
    (hnonneg : 0 ≤ order.sizeUsdc) (hlaw : NeverOverbuys (act (.createOrder .buy order) w r).2) :
    BooksOk (act (.createOrder .buy order) w r).2 := by
  obtain ⟨err, -, hact⟩ | hact := act_cases (.createOrder .buy order) w r
  · rw [hact]
    exact hw
  · rw [hact] at hlaw ⊢
    refine ⟨hlaw, fun child hchild hbuy => ?_, hw.read⟩
    obtain hold | hnew := List.mem_append.mp hchild
    · exact hw.bought child hold hbuy
    · cases List.mem_singleton.mp hnew
      exact hnonneg

omit [DecidableEq κ] in
theorem Knows.outside {k : κ} {t : Option Reads} {w w' : World} (h : Knows (some k) t w) :
    Knows (some k) t w' := by
  cases t with
  | none => trivial
  | some reads => cases h

omit [DecidableEq κ] in
theorem act_step (i : Option κ) (s : Option Reads) (c : WorkflowCall) (w : World) (r : Reply)
    (hw : BooksOk w) (hs : Knows i s w) (hc : workflowProtocol.allows s c)
    (hok : CountsEarlierBuys c w r) :
    BooksOk (act c w r).2 ∧ Knows i (workflowProtocol.next s c (act c w r).1) (act c w r).2 ∧
      ∀ j ≠ i, ∀ t, Knows j t w → Knows j t (act c w r).2 := by
  have hlaw : NeverOverbuys (act c w r).2 := (act_law hw hs hc).mpr hok
  cases i with
  | none =>
    cases s with
    | none => cases hs
    | some reads =>
      refine ⟨?_, ?_, fun j hj t ht => ?_⟩
      · cases hcalm : isCalm c with
        | true => exact hw.act hcalm
        | false =>
          cases c with
          | createOrder leg order =>
            cases leg with
            | sell => cases hcalm
            | buy => exact booksOk_create hw hc.2.1 hlaw
          | _ => cases hcalm
      · obtain ⟨reads', hnext, hholds⟩ := Holds.next (r := r) hs hw c
        rw [hnext]
        exact hholds
      · cases j with
        | none => exact absurd rfl hj
        | some k => exact ht.outside
  | some k =>
    cases s with
    | some reads => cases hs
    | none =>
      cases c with
      | market step =>
        refine ⟨hw.act rfl, trivial, fun j _ t ht => ?_⟩
        cases j with
        | some k => exact ht.outside
        | none =>
          cases t with
          | none => cases ht
          | some reads => exact Holds.market (r := r) ht hw step
      | _ => cases hc

/-- Whatever the workflow, its passes and the delays of fills beside them: the buy children stay
within what the sell leg has freed, and none is sized on freed notional that another has taken,
exactly as long as each is created once the earlier ones have been counted. -/
theorem never_overbuys_iff (workflow : TradeBuilderWorkflow) (legs : List TradeBuilderWorkflowLeg)
    (passes : ℕ) (outside : κ → List MarketStep) (schedule : List (Option κ × Reply)) :
    Pool.Always (fun _ => act) NeverOverbuys (workflowPool workflow legs passes outside) schedule ↔
      Pool.Meets (fun _ => act) (fun _ => CountsEarlierBuys)
        (workflowPool workflow legs passes outside) schedule :=
  (workflowPool_sound workflow legs passes outside).always_iff_meets
    (fun _ _ _ _ _ hw hs hc => act_law hw hs hc) act_step (fun _ hw => hw.law) schedule

end Runs

/-! ### A fill that comes late -/

def sampleWorkflow : TradeBuilderWorkflow where
  sourceTradeId := 1
  status := .armed
  buyStartAfterSellProgressPct := 0
  buyTriggerMode := .sellProgressOnly
  expiresAt := none

def sampleLeg (legType : LegType) (side : Side) : TradeBuilderWorkflowLeg where
  legType
  marketSlug := "btc-updown-5m"
  tokenId := "up"
  outcomeLabel := "Up"
  side
  triggerCondition := none
  triggerPrice := none
  minPriceDistanceCent := 1
  status := .armed
  builderOrderId := none
  targetNotionalUsdc := 10
  filledNotionalUsdc := 0
  filledQty := 0
  lastSeenPrice := none
  target_nonneg := by norm_num

def sampleTrade (fillId exchangeOrderId : String) : Trade where
  fillId
  exchangeOrderId
  price := 1 / 2
  size := 20
  price_nonneg := by norm_num
  size_nonneg := by norm_num

/-- The sell child trades in full and its fill is visible; the buy child trades in full and is
completed, before its fill is visible. -/
def sampleMarket : List MarketStep :=
  [.trade 0 (sampleTrade "f0" "x0"), .orderEvent { builderOrderId := 0, exchangeOrderId := "x0" },
    .internalOrder ⟨100, "x0"⟩, .fill 0 0,
    .trade 1 (sampleTrade "f1" "x1"), .orderStatus 1 .completed]

def samplePool : Pool (Option Unit) WorkflowCall WorkflowAnswer String World :=
  workflowPool sampleWorkflow [sampleLeg .buy .buy, sampleLeg .sell .sell] 5 fun _ => sampleMarket

def turns (i : Option Unit) (calls : ℕ) : List (Option Unit × Reply) := List.replicate calls (i, {})

/-- The sell leg is ensured, sold and seen to be sold, and the buy leg gets its first child. -/
def firstBuy : List (Option Unit × Reply) := turns none 11 ++ turns (some ()) 4 ++ turns none 15

example : Pool.Meets (fun _ => act) (fun _ => CountsEarlierBuys) samplePool firstBuy := by
  decide +kernel

/-- The child buys and completes, one pass takes it off the leg, and the next one buys again. -/
def secondBuy : List (Option Unit × Reply) := firstBuy ++ turns (some ()) 2 ++ turns none 21

/-- The buy leg has a target of 10 USDC; its children take 20. -/
theorem overbuys_before_fill :
    ¬ NeverOverbuys (Pool.run (fun _ => act) samplePool secondBuy).world := by
  intro h
  have htaken : (Pool.run (fun _ => act) samplePool secondBuy).world.tables.exposure = 20 := by
    decide +kernel
  have hfreed : (Pool.run (fun _ => act) samplePool secondBuy).world.tables.freed
      (Pool.run (fun _ => act) samplePool secondBuy).world.tables.sold = 10 := by
    decide +kernel
  have hwithin := h.within
  rw [htaken, hfreed] at hwithin
  norm_num at hwithin

end PolymarketBot.Workflow
