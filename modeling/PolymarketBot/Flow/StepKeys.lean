import PolymarketBot.Flow.OncePublish
import PolymarketBot.Lib.Text

/-! The keys under which the websocket path queues the triggers of a run, and the triggers
that the queue drops. -/

namespace PolymarketBot.Flow
open Lib

def isSupportedMarketPriceTriggerCondition (triggerCondition : String) : Bool :=
  ["cross_above", "cross_below", "level_above", "level_below"].contains triggerCondition

def marketPriceTriggerConditionRequiresOnce (triggerCondition : String) : Bool :=
  ["level_above", "level_below"].contains triggerCondition

def resolveWsMarketPriceTriggerFields (triggerCondition : String) (triggerPrice maxPrice : Option ℚ)
    (ptbTriggerEnabled onceMode : Bool) : Option (String × ℚ × Option ℚ) :=
  if triggerCondition = "" && triggerPrice.isNone then
    if ptbTriggerEnabled then some ("", 0, none) else none
  else if !isSupportedMarketPriceTriggerCondition triggerCondition then none
  else if marketPriceTriggerConditionRequiresOnce triggerCondition && !onceMode then none
  else
    match triggerPrice with
    | some value =>
      if value > 0 && value ≤ 1 then some (triggerCondition, value, maxPrice) else none
    | none => none

/-- The trigger fields of the spec are the ones its builder puts there: none for a monitor, and
otherwise what was resolved of the configured ones. -/
def BuiltFields (spec : WsOpenPositionPriceNodeSpec) : Prop :=
  (spec.triggerCondition, spec.triggerPrice, spec.maxPrice) = ("", 0, none) ∨
    ∃ triggerCondition triggerPrice maxPrice ptbTriggerEnabled,
      resolveWsMarketPriceTriggerFields triggerCondition triggerPrice maxPrice ptbTriggerEnabled
        spec.onceMode = some (spec.triggerCondition, spec.triggerPrice, spec.maxPrice)

/-- An event that triggers a node of the graph on the websocket path. -/
structure TriggerEvent (graph : TradeFlowGraphRuntime) where
  node : ConfiguredNode
  spec : TriggerSpec node
  price : ℚ
  ts : ℤ
  generation : ℤ
  input : Value
  node_mem : node ∈ graph.nodes
  built : BuiltFields spec.toWsOpenPositionPriceNodeSpec

/-- The sign of a price and its amount to six decimals. -/
def sixDecimals (price : ℚ) : Bool × ℕ :=
  (decide (price < 0), (Lib.roundHalfEven (|price| * 1000000)).toNat)

/-- What the key of a trigger stands for: the once scope of a once node, for any other node the
event. -/
inductive TriggerIdentity
  | once (nodeKey : String) (market : Option String) (generation : ℕ)
  | each (nodeKey condition : String) (price : Bool × ℕ) (ts : ℤ)
  deriving DecidableEq

section Event
variable {graph : TradeFlowGraphRuntime} (e : TriggerEvent graph)

def scopeMarket (spec : WsOpenPositionPriceNodeSpec) : Option String :=
  if spec.onceScopeMarket then some ((trimmedSlug spec.marketSlug).getD "unknown-market") else none

def TriggerEvent.identity : TriggerIdentity :=
  if e.spec.onceMode then
    .once e.spec.nodeKey (scopeMarket e.spec.toWsOpenPositionPriceNodeSpec) e.generation.toNat
  else .each e.spec.nodeKey e.spec.triggerCondition (sixDecimals e.price) e.ts

def TriggerEvent.key (runId : ℤ) : String :=
  wsPriceTriggerStepIdempotencyKey runId e.spec.nodeKey e.spec.triggerCondition e.price e.ts
    e.spec.onceMode e.spec.onceScopeMarket e.spec.marketSlug e.generation

def ColonFree (s : String) : Prop := ':' ∉ s.toList

/-- A once node has no colon in its key, nor has the slug of its market. -/
def TriggerEvent.PlainNames : Prop :=
  e.spec.onceMode = true →
    ColonFree e.spec.nodeKey ∧ ∀ slug ∈ e.spec.marketSlug, ColonFree slug

def enqueueTrigger (runId : ℤ) (steps : List OnceStepRow) (e : TriggerEvent graph) :
    List OnceStepRow :=
  enqueueOnceStep steps (some (e.key runId)) (some e.input)

end Event

/-! ### What a key spells out -/

theorem colonFree_trim {s : String} (h : ColonFree s) : ColonFree (trim s) :=
  fun hmem => h (Text.mem_of_mem_trimBy hmem)

theorem colonFree_trimmedSlug {slug : Option String} (h : ∀ s ∈ slug, ColonFree s) :
    ColonFree ((trimmedSlug slug).getD "unknown-market") := by
  have hunknown : ColonFree "unknown-market" := by
    unfold ColonFree
    decide
  cases slug with
  | none => exact hunknown
  | some s =>
    have htrim := colonFree_trim (h s rfl)
    simp only [trimmedSlug, Option.map_some, Option.filter_some]
    split
    · exact htrim
    · exact hunknown

theorem colonFree_condition {spec : WsOpenPositionPriceNodeSpec} (h : BuiltFields spec) :
    ColonFree spec.triggerCondition := by
  have hempty : ColonFree "" := by
    unfold ColonFree
    decide
  have hsupported : ∀ condition, isSupportedMarketPriceTriggerCondition condition = true →
      ColonFree condition := by
    intro condition hcondition
    have hall : ∀ c ∈ ["cross_above", "cross_below", "level_above", "level_below"],
        ':' ∉ c.toList := by decide
    exact hall condition (by simpa [isSupportedMarketPriceTriggerCondition] using hcondition)
  rcases h with h | ⟨condition, price, maxPrice, ptb, h⟩
  · rw [(Prod.mk.inj h).1]
    exact hempty
  · unfold resolveWsMarketPriceTriggerFields at h
    have hfirst : ∀ c p m, some (c, p, m) =
        some (spec.triggerCondition, spec.triggerPrice, spec.maxPrice) →
        c = spec.triggerCondition := fun c p m hsame => (Prod.mk.inj (Option.some.inj hsame)).1
    split at h
    · split at h
      · rw [← hfirst _ _ _ h]
        exact hempty
      · cases h
    split at h
    · cases h
    next hunsupported =>
      have hcondition := hsupported condition (by simpa using hunsupported)
      split at h
      · cases h
      split at h
      · split at h
        · rw [← hfirst _ _ _ h]
          exact hcondition
        · cases h
      · cases h

theorem decimal_toList (neg : Bool) (whole fraction : ℕ) :
    ((if neg then "-" else "") ++ toString whole ++ "." ++ String.ofList (List.replicate
      (6 - (toString fraction).length) '0') ++ toString fraction).toList =
        Text.signedDigits neg whole ++ '.' :: Text.padded 6 fraction := by
  have hlength : fraction.repr.length = (Nat.toDigits 10 fraction).length := by
    rw [← Nat.toList_repr, String.length_toList]
  unfold Text.signedDigits Text.padded
  cases neg <;> simp [hlength]

theorem fixed6_toList (price : ℚ) :
    (fixed6 price).toList = Text.signedDigits (sixDecimals price).1 ((sixDecimals price).2 / 1000000)
      ++ '.' :: Text.padded 6 ((sixDecimals price).2 % 1000000) := by
  rw [← decimal_toList]
  simp only [fixed6, sixDecimals, decide_eq_true_eq]

theorem fixed6_inj {p q : ℚ} (h : fixed6 p = fixed6 q) : sixDecimals p = sixDecimals q := by
  have hlists := congrArg String.toList h
  rw [fixed6_toList, fixed6_toList] at hlists
  have hpoint : ∀ neg n, '.' ∉ Text.signedDigits neg n :=
    Text.not_mem_signedDigits rfl (by decide)
  obtain ⟨hwhole, hfraction⟩ := Text.firstField_inj (hpoint _ _) (hpoint _ _) (.inr ⟨_, rfl⟩)
    (.inr ⟨_, rfl⟩) hlists
  obtain ⟨hsign, hunits⟩ := Text.signedDigits_inj hwhole
  have hmillionths := Text.padded_inj (List.cons.inj hfraction).2
  have hamount : (sixDecimals p).2 = (sixDecimals q).2 := by omega
  exact Prod.ext hsign hamount

theorem colonFree_fixed6 (price : ℚ) : ColonFree (fixed6 price) := by
  have hwhole : ∀ neg n, ':' ∉ Text.signedDigits neg n :=
    Text.not_mem_signedDigits rfl (by decide)
  have hfraction : ∀ width n, ':' ∉ Text.padded width n := Text.not_mem_padded rfl
  unfold ColonFree
  rw [fixed6_toList]
  simp [hwhole, hfraction]

def marketField : Option String → List Char
  | some market => ':' :: market.toList
  | none => []

def generationField (generation : ℤ) : List Char :=
  if generation > 0 then ':' :: ("gen" ++ toString generation).toList else []

theorem generationField_inj {g h : ℤ} (hsame : generationField g = generationField h) :
    g.toNat = h.toNat := by
  unfold generationField at hsame
  by_cases hg : g > 0 <;> by_cases hh : h > 0
  · rw [if_pos hg, if_pos hh, String.toList_append, String.toList_append] at hsame
    have hdigits := List.append_cancel_left (List.cons.inj hsame).2
    rw [Text.toString_int_inj (String.toList_injective hdigits)]
  · rw [if_pos hg, if_neg hh] at hsame
    cases hsame
  · rw [if_neg hg, if_pos hh] at hsame
    cases hsame
  · omega

theorem generationField_after (generation : ℤ) : Text.AfterField ':' (generationField generation) := by
  unfold generationField
  split
  · exact .inr ⟨_, rfl⟩
  · exact .inl rfl

section Keys
variable {graph : TradeFlowGraphRuntime} (runId : ℤ)

theorem onceKey_toList {e : TriggerEvent graph} (honce : e.spec.onceMode = true) :
    (e.key runId).toList = s!"ws-once:{runId}:".toList ++ (e.spec.nodeKey.toList ++
      (marketField (scopeMarket e.spec.toWsOpenPositionPriceNodeSpec) ++
        generationField e.generation)) := by
  have htext : ∀ s : String, toString s = s := fun _ => rfl
  unfold TriggerEvent.key wsPriceTriggerStepIdempotencyKey scopeMarket generationField
  rw [honce]
  cases e.spec.onceScopeMarket <;> by_cases hgeneration : e.generation > 0 <;>
    simp [hgeneration, marketField, htext]

theorem eachKey_toList {e : TriggerEvent graph} (heach : e.spec.onceMode = false) :
    (e.key runId).toList = s!"ws-open-price:{runId}:".toList ++
      (((e.spec.nodeKey.toList ++ ':' :: e.spec.triggerCondition.toList) ++
        ':' :: (fixed6 e.price).toList) ++ ':' :: (toString e.ts).toList) := by
  have htext : ∀ s : String, toString s = s := fun _ => rfl
  unfold TriggerEvent.key wsPriceTriggerStepIdempotencyKey
  rw [heach]
  simp [htext]

theorem onceKey_ne_eachKey (xs ys : List Char) :
    s!"ws-once:{runId}:".toList ++ xs ≠ s!"ws-open-price:{runId}:".toList ++ ys := by
  have htext : ∀ s : String, toString s = s := fun _ => rfl
  simp [htext]

theorem once_identity (hkeys : (graph.nodes.map fun node => node.key).Nodup)
    {e e' : TriggerEvent graph} (honce : e.spec.onceMode = true) (honce' : e'.spec.onceMode = true)
    (hplain : e.PlainNames) (hplain' : e'.PlainNames) (hkey : e.key runId = e'.key runId) :
    e.spec.nodeKey = e'.spec.nodeKey ∧ scopeMarket e.spec.toWsOpenPositionPriceNodeSpec =
      scopeMarket e'.spec.toWsOpenPositionPriceNodeSpec ∧
        e.generation.toNat = e'.generation.toNat := by
  have hlists := congrArg String.toList hkey
  rw [onceKey_toList runId honce, onceKey_toList runId honce'] at hlists
  have hafter : ∀ e : TriggerEvent graph, Text.AfterField ':'
      (marketField (scopeMarket e.spec.toWsOpenPositionPriceNodeSpec) ++
        generationField e.generation) := by
    intro e
    cases scopeMarket e.spec.toWsOpenPositionPriceNodeSpec with
    | none => exact generationField_after e.generation
    | some market => exact .inr ⟨_, rfl⟩
  obtain ⟨hnode, htail⟩ := Text.firstField_inj (hplain honce).1 (hplain' honce').1 (hafter e)
    (hafter e') (List.append_cancel_left hlists)
  have hnodeKey := String.toList_injective hnode
  have hsame : e.node = e'.node := by
    rw [e.spec.nodeKey_eq, e'.spec.nodeKey_eq] at hnodeKey
    exact List.inj_on_of_nodup_map hkeys e.node_mem e'.node_mem hnodeKey
  have hscope : e.spec.onceScopeMarket = e'.spec.onceScopeMarket := by
    rw [e.spec.onceScopeMarket_eq, e'.spec.onceScopeMarket_eq, hsame]
  refine ⟨hnodeKey, ?_⟩
  unfold scopeMarket at htail ⊢
  rw [hscope] at htail ⊢
  cases hmarket : e'.spec.onceScopeMarket with
  | false =>
    rw [hmarket] at htail
    exact ⟨rfl, generationField_inj htail⟩
  | true =>
    rw [hmarket] at htail
    have hfields := (List.cons.inj htail).2
    obtain ⟨hslug, hgeneration⟩ := Text.firstField_inj (colonFree_trimmedSlug (hplain honce).2)
      (colonFree_trimmedSlug (hplain' honce').2) (generationField_after _)
      (generationField_after _) hfields
    exact ⟨by simp [String.toList_injective hslug], generationField_inj hgeneration⟩

theorem each_identity {e e' : TriggerEvent graph} (heach : e.spec.onceMode = false)
    (heach' : e'.spec.onceMode = false) (hkey : e.key runId = e'.key runId) :
    e.spec.nodeKey = e'.spec.nodeKey ∧ e.spec.triggerCondition = e'.spec.triggerCondition ∧
      sixDecimals e.price = sixDecimals e'.price ∧ e.ts = e'.ts := by
  have hlists := congrArg String.toList hkey
  rw [eachKey_toList runId heach, eachKey_toList runId heach'] at hlists
  have hts : ∀ z : ℤ, ':' ∉ (toString z).toList := Text.not_mem_toString_int rfl (by decide)
  obtain ⟨hfront, hstamp⟩ := Text.lastField_inj (hts e.ts) (hts e'.ts)
    (List.append_cancel_left hlists)
  obtain ⟨hnames, hprice⟩ := Text.lastField_inj (colonFree_fixed6 e.price)
    (colonFree_fixed6 e'.price) hfront
  obtain ⟨hnode, hcondition⟩ := Text.lastField_inj (colonFree_condition e.built)
    (colonFree_condition e'.built) hnames
  exact ⟨String.toList_injective hnode, String.toList_injective hcondition,
    fixed6_inj (String.toList_injective hprice),
    Text.toString_int_inj (String.toList_injective hstamp)⟩

theorem identity_of_key (hkeys : (graph.nodes.map fun node => node.key).Nodup)
    {e e' : TriggerEvent graph} (hplain : e.PlainNames) (hplain' : e'.PlainNames)
    (hkey : e.key runId = e'.key runId) : e.identity = e'.identity := by
  have hlists := congrArg String.toList hkey
  unfold TriggerEvent.identity
  cases honce : e.spec.onceMode with
  | true =>
    cases honce' : e'.spec.onceMode with
    | true =>
      obtain ⟨hnode, hmarket, hgeneration⟩ :=
        once_identity runId hkeys honce honce' hplain hplain' hkey
      simp only [if_true, hnode, hmarket, hgeneration]
    | false =>
      rw [onceKey_toList runId honce, eachKey_toList runId honce'] at hlists
      exact absurd hlists (onceKey_ne_eachKey runId _ _)
  | false =>
    cases honce' : e'.spec.onceMode with
    | true =>
      rw [eachKey_toList runId honce, onceKey_toList runId honce'] at hlists
      exact absurd hlists.symm (onceKey_ne_eachKey runId _ _)
    | false =>
      obtain ⟨hnode, hcondition, hprice, hts⟩ := each_identity runId honce honce' hkey
      simp only [Bool.false_eq_true, if_false, hnode, hcondition, hprice, hts]

theorem queued_key {history : List (TriggerEvent graph)} {row : OnceStepRow}
    (hrow : row ∈ history.foldl (enqueueTrigger runId) []) :
    ∃ e ∈ history, row.idempotencyKey = some (e.key runId) := by
  induction history using List.reverseRecOn with
  | nil => cases hrow
  | append_singleton earlier e ih =>
    have hearlier : row ∈ earlier.foldl (enqueueTrigger runId) [] →
        ∃ other ∈ earlier ++ [e], row.idempotencyKey = some (other.key runId) := by
      intro hmem
      obtain ⟨other, hother, hkey⟩ := ih hmem
      exact ⟨other, List.mem_append_left _ hother, hkey⟩
    rw [List.foldl_append, List.foldl_cons, List.foldl_nil] at hrow
    rw [enqueueTrigger, enqueueOnceStep] at hrow
    split at hrow
    · exact hearlier hrow
    · rcases List.mem_append.mp hrow with hmem | hmem
      · exact hearlier hmem
      · rw [List.mem_singleton.mp hmem]
        exact ⟨e, by simp, rfl⟩

end Keys

/-- The keys of two triggers of a run differ when the triggers differ in their once scope, or
for nodes that fire each time in node, condition, price to six decimals or timestamp. So the
queue takes a trigger unless an earlier one agreed with it in all of these. -/
theorem trigger_keys_distinct (runId : ℤ) (graph : TradeFlowGraphRuntime)
    (hkeys : (graph.nodes.map fun node => node.key).Nodup) :
    (∀ e e' : TriggerEvent graph, e.PlainNames → e'.PlainNames → e.identity ≠ e'.identity →
      e.key runId ≠ e'.key runId) ∧
    ∀ (history : List (TriggerEvent graph)) (e : TriggerEvent graph),
      (∀ other ∈ e :: history, other.PlainNames) →
      (∀ other ∈ history, other.identity ≠ e.identity) →
      let steps := history.foldl (enqueueTrigger runId) []
      enqueueTrigger runId steps e = steps ++ [⟨some (e.key runId), some e.input, .queued⟩] := by
  constructor
  · intro e e' hplain hplain' hdiffer hkey
    exact hdiffer (identity_of_key runId hkeys hplain hplain' hkey)
  · intro history e hplain hdiffer steps
    have hfree : ∀ row ∈ steps, row.idempotencyKey ≠ some (e.key runId) := by
      intro row hrow hkey
      obtain ⟨other, hother, hrowKey⟩ := queued_key runId hrow
      have hsame : other.key runId = e.key runId := Option.some.inj (hrowKey.symm.trans hkey)
      have hidentity := identity_of_key runId hkeys (hplain other (List.mem_cons_of_mem e hother))
        (hplain e (List.mem_cons_self ..)) hsame
      exact hdiffer other hother hidentity
    rw [enqueueTrigger, enqueueOnceStep, if_neg (by simpa using hfree)]

/-- The level trigger on the other outcome of its market. -/
def otherOutcomeSpec : TriggerSpec fixedOnceTrigger where
  toWsOpenPositionPriceNodeSpec :=
    { levelSpec.toWsOpenPositionPriceNodeSpec with tokenId := "down", outcomeLabel := "Down" }
  nodeKey_eq := levelSpec.nodeKey_eq
  nodeType_eq := levelSpec.nodeType_eq
  onceMode_eq := levelSpec.onceMode_eq
  onceScopeMarket_eq := levelSpec.onceScopeMarket_eq

def eventOf (spec : TriggerSpec fixedOnceTrigger) (generation : ℤ)
    (hbuilt : BuiltFields spec.toWsOpenPositionPriceNodeSpec) : TriggerEvent oneTriggerGraph where
  node := fixedOnceTrigger
  spec := spec
  price := 3 / 5
  ts := 1000
  generation := generation
  input := .null
  node_mem := List.mem_singleton.mpr rfl
  built := hbuilt

theorem levelSpec_built : BuiltFields levelSpec.toWsOpenPositionPriceNodeSpec :=
  .inr ⟨"level_above", some (1 / 2), none, false, by decide +kernel⟩

theorem otherOutcomeSpec_built : BuiltFields otherOutcomeSpec.toWsOpenPositionPriceNodeSpec :=
  .inr ⟨"level_above", some (1 / 2), none, false, by decide +kernel⟩

/-- The trigger of the next generation is queued behind that of the first. -/
theorem trigger_keys_distinct_generations :
    let first := eventOf levelSpec 0 levelSpec_built
    let second := eventOf levelSpec 1 levelSpec_built
    first.key 42 ≠ second.key 42 ∧
      (enqueueTrigger 42 (enqueueTrigger 42 [] first) second).length = 2 := by
  intro first second
  have hplain : ∀ generation, (eventOf levelSpec generation levelSpec_built).PlainNames := by
    intro generation honce
    have hnode : ':' ∉ "trigger".toList := by decide
    have hslug : ':' ∉ "btc-updown-5m-1".toList := by decide
    refine ⟨hnode, fun slug hmem => ?_⟩
    rw [← Option.some.inj hmem]
    exact hslug
  have hdiffer : first.identity ≠ second.identity := by decide +kernel
  have hdistinct := trigger_keys_distinct 42 oneTriggerGraph (by decide)
  have hqueued := hdistinct.2 [first] second
    (List.forall_mem_cons.mpr ⟨hplain 1, List.forall_mem_singleton.mpr (hplain 0)⟩)
    (List.forall_mem_singleton.mpr hdiffer)
  have hfirst : enqueueTrigger 42 [] first = [⟨some (first.key 42), some .null, .queued⟩] := rfl
  simp only [List.foldl_cons, List.foldl_nil, hfirst] at hqueued
  refine ⟨hdistinct.1 first second (hplain 0) (hplain 1) hdiffer, ?_⟩
  rw [hfirst, hqueued]
  rfl

/-- Two outcomes of one market trigger a once node of it: the key is the same, and the second
outcome's tick queues nothing although it meets the condition of an unfired scope. -/
theorem outcomes_share_once_key :
    let first := eventOf levelSpec 0 levelSpec_built
    let second := eventOf otherOutcomeSpec 0 otherOutcomeSpec_built
    first.spec.tokenId ≠ second.spec.tokenId ∧ first.key 42 = second.key 42 ∧
      let s := onceStep idleChrono 42 ⟨.object [], .object [], [], [], []⟩
        (.tick levelSpec aboveLevel)
      NotMarkedFired otherOutcomeSpec.toWsOpenPositionPriceNodeSpec s.cached ∧
        TickSatisfies idleChrono otherOutcomeSpec.toWsOpenPositionPriceNodeSpec aboveLevel
          s.cached ∧
        (onceStep idleChrono 42 s (.tick otherOutcomeSpec aboveLevel)).steps.length =
          s.steps.length := by
  intro first second
  refine ⟨by decide, by decide +kernel, ?_⟩
  intro s
  have hunfired : NotMarkedFired otherOutcomeSpec.toWsOpenPositionPriceNodeSpec s.cached := by
    unfold NotMarkedFired
    decide +kernel
  exact ⟨hunfired, ⟨by decide +kernel, by decide +kernel, by decide +kernel, by decide +kernel⟩,
    by decide +kernel⟩

end PolymarketBot.Flow
