import PolymarketBot.Editor.Normalize

/-! Which graphs normalizing leaves as they are, and how many passes bring a graph there. -/

namespace PolymarketBot.Editor
open PolymarketBot.Flow Lib

theorem setField_eq_self {key : String} {v : Value} {config : Fields}
    (h : field key config = some v) : setField key v config = config := by
  induction config with
  | nil => cases h
  | cons first rest ih =>
    obtain ⟨k, w⟩ := first
    by_cases hk : k = key
    · subst hk
      rw [field_cons_self, Option.some_inj] at h
      simp [setField, h]
    · rw [field_cons_of_ne hk] at h
      simp [setField, hk, ih h]

theorem dropField_eq_self {key : String} {config : Fields} (h : field key config = none) :
    dropField key config = config := by
  induction config with
  | nil => rfl
  | cons first rest ih =>
    obtain ⟨k, w⟩ := first
    by_cases hk : k = key
    · subst hk
      rw [field_cons_self] at h
      cases h
    · rw [field_cons_of_ne hk] at h
      simp [dropField, hk, ih h]

@[simp] theorem field_dropFields (keys : List String) (config : Fields) (key : String) :
    field key (dropFields keys config) = if key ∈ keys then none else field key config := by
  unfold dropFields
  induction keys generalizing config with
  | nil => simp
  | cons first rest ih =>
    rw [List.foldl_cons, ih, field_dropField]
    by_cases hfirst : key = first <;> simp [hfirst]

theorem dropFields_eq_self {keys : List String} {config : Fields}
    (h : ∀ key ∈ keys, field key config = none) : dropFields keys config = config := by
  unfold dropFields
  induction keys with
  | nil => rfl
  | cons first rest ih =>
    rw [List.foldl_cons, dropField_eq_self (h first (List.mem_cons_self ..))]
    exact ih fun key hkey => h key (List.mem_cons_of_mem _ hkey)

/-! ### Cycle windows -/

@[simp] theorem toInteger_jsonI64 (z : ℤ) : toInteger (some (jsonI64 z)) = some z := by
  change ((some (z : ℚ)).filter fun q => q.den = 1).map (fun q => q.num) = some z
  simp

/-- The window fields as normalizing leaves them: of one mode, or none of them at all. -/
inductive WindowSettled (config : Fields) : Prop where
  | edge (mode : String) (secs : ℤ) (hmode : mode = "first" ∨ mode = "last") (hsecs : 0 < secs)
      (hmodeField : field "cycleWindowMode" config = some (.string mode))
      (hsecsField : field "cycleWindowSecs" config = some (jsonI64 secs))
      (hrest : ∀ key ∈ ["cycleWindowStartSec", "cycleWindowEndSec", "autoSellOnWindowEnd"],
        field key config = none)
  | range (startSec endSec : ℤ) (hstart : 0 ≤ startSec) (hend : startSec < endSec)
      (hmodeField : field "cycleWindowMode" config = some (.string "custom_range"))
      (hstartField : field "cycleWindowStartSec" config = some (jsonI64 startSec))
      (hendField : field "cycleWindowEndSec" config = some (jsonI64 endSec))
      (hsecs : field "cycleWindowSecs" config = none)
      (hsell : isTrue (field "autoSellOnWindowEnd" config) = true ∨
        field "autoSellOnWindowEnd" config = none)
  | off (hrest : ∀ key ∈ ["cycleWindowMode", "cycleWindowSecs", "cycleWindowStartSec",
        "cycleWindowEndSec", "autoSellOnWindowEnd"], field key config = none)

/-- A custom range that is none, with the order to sell at its end: the first pass takes the
range away and leaves the order, which the second pass takes away. -/
def straySellOrder (config : Fields) : Bool :=
  windowMode config = "custom_range" && (customRange config).isNone &&
    isTrue (field "autoSellOnWindowEnd" config)

section Windows
variable {config : Fields}

theorem windowMode_settled {mode : String} (hfield : field "cycleWindowMode" config =
    some (.string mode)) (h : mode = "first" ∨ mode = "last" ∨ mode = "custom_range") :
    windowMode config = mode := by
  unfold windowMode
  rw [hfield]
  obtain rfl | rfl | rfl := h <;> decide +kernel

theorem windowMode_absent (h : field "cycleWindowMode" config = none) : windowMode config = "" := by
  unfold windowMode
  rw [h]
  decide +kernel

theorem WindowSettled.fixed (h : WindowSettled config) :
    normalizeTriggerMarketPriceCycleWindowConfig config = config := by
  unfold normalizeTriggerMarketPriceCycleWindowConfig
  cases h with
  | edge mode secs hmode hsecs hmodeField hsecsField hrest =>
    have hkept : edgeSecs config = some secs := by simp [edgeSecs, hsecsField, hsecs]
    simp only [windowMode_settled hmodeField (hmode.imp_right .inl), if_pos hmode,
      normalizeEdgeWindow, hkept]
    rw [setField_eq_self hmodeField, setField_eq_self hsecsField, dropFields_eq_self hrest]
  | range startSec endSec hstart hend hmodeField hstartField hendField hsecs hsell =>
    have hkept : customRange config = some (startSec, endSec) := by
      simp [customRange, hstartField, hendField, hstart, hend]
    have hother : ¬ ("custom_range" = "first" ∨ "custom_range" = "last") := by decide
    simp only [windowMode_settled hmodeField (.inr (.inr rfl)), if_neg hother, if_true,
      normalizeRangeWindow, hkept]
    rw [setField_eq_self hmodeField, setField_eq_self hstartField, setField_eq_self hendField,
      dropField_eq_self hsecs]
    cases hsell with
    | inl hsell => rw [if_pos hsell]
    | inr hsell => rw [hsell, if_neg (by decide), dropField_eq_self hsell]
  | off hrest =>
    have hnone := windowMode_absent (hrest "cycleWindowMode" (List.mem_cons_self ..))
    simp only [hnone]
    rw [if_neg (by decide), if_neg (by decide), dropFields_eq_self hrest]

theorem normalizeEdgeWindow_settled {mode : String} (hmode : mode = "first" ∨ mode = "last")
    (config : Fields) : WindowSettled (normalizeEdgeWindow mode config) := by
  unfold normalizeEdgeWindow
  cases hsecs : edgeSecs config with
  | none =>
    refine .off fun key hkey => ?_
    simp only [List.mem_cons, List.not_mem_nil, or_false] at hkey
    obtain rfl | rfl | rfl | rfl | rfl := hkey <;> simp
  | some secs =>
    have hpos : 0 < secs := by simpa using (Option.filter_eq_some_iff.mp hsecs).2
    refine .edge mode secs hmode hpos (by simp) (by simp) fun key hkey => ?_
    rw [field_dropFields, if_pos hkey]

theorem normalizeRangeWindow_settled (h : (customRange config).isSome = true ∨
    isTrue (field "autoSellOnWindowEnd" config) = false) :
    WindowSettled (normalizeRangeWindow config) := by
  unfold normalizeRangeWindow
  cases hrange : customRange config with
  | some range =>
    obtain ⟨startSec, endSec⟩ := range
    obtain ⟨hstart, hend⟩ : 0 ≤ startSec ∧ startSec < endSec := by
      unfold customRange at hrange
      split at hrange
      · split at hrange
        · cases hrange
          assumption
        · cases hrange
      · cases hrange
    by_cases hsell : isTrue (field "autoSellOnWindowEnd" config) = true
    · simp only [field_dropField, field_setField]
      simp only [String.reduceEq, if_false, hsell, if_true]
      exact .range startSec endSec hstart hend (by simp) (by simp) (by simp) (by simp)
        (.inl (by simpa using hsell))
    · simp only [field_dropField, field_setField]
      simp only [String.reduceEq, if_false, if_neg hsell]
      exact .range startSec endSec hstart hend (by simp) (by simp) (by simp) (by simp)
        (.inr (by simp))
  | none =>
    rw [hrange] at h
    have hsell := h.resolve_left (by decide)
    simp only [field_dropField, field_dropFields]
    simp only [String.reduceEq, if_false, List.mem_cons, List.not_mem_nil, or_false, hsell,
      if_neg Bool.false_ne_true]
    refine .off fun key hkey => ?_
    simp only [List.mem_cons, List.not_mem_nil, or_false] at hkey
    obtain rfl | rfl | rfl | rfl | rfl := hkey <;> simp

theorem normalizeCycleWindow_settled (h : straySellOrder config = false) :
    WindowSettled (normalizeTriggerMarketPriceCycleWindowConfig config) := by
  unfold normalizeTriggerMarketPriceCycleWindowConfig
  by_cases hedge : windowMode config = "first" ∨ windowMode config = "last"
  · simp only [if_pos hedge]
    exact normalizeEdgeWindow_settled hedge config
  simp only [if_neg hedge]
  by_cases hcustom : windowMode config = "custom_range"
  · rw [if_pos hcustom]
    refine normalizeRangeWindow_settled ?_
    unfold straySellOrder at h
    rw [hcustom] at h
    cases hrange : customRange config with
    | some range => exact .inl rfl
    | none => exact .inr (by simpa [hrange] using h)
  · rw [if_neg hcustom]
    refine .off fun key hkey => ?_
    rw [field_dropFields, if_pos hkey]

theorem normalizeCycleWindow_stray (h : straySellOrder config = true) :
    field "cycleWindowMode" (normalizeTriggerMarketPriceCycleWindowConfig config) = none ∧
      isTrue (field "autoSellOnWindowEnd"
        (normalizeTriggerMarketPriceCycleWindowConfig config)) = true := by
  unfold straySellOrder at h
  simp only [Bool.and_eq_true, decide_eq_true_eq, Option.isNone_iff_eq_none] at h
  obtain ⟨⟨hmode, hrange⟩, hsell⟩ := h
  have hother : ¬ ("custom_range" = "first" ∨ "custom_range" = "last") := by decide
  simp only [normalizeTriggerMarketPriceCycleWindowConfig, hmode, if_neg hother, if_true,
    normalizeRangeWindow, hrange]
  simp [hsell]

theorem straySellOrder_normalized (config : Fields) :
    straySellOrder (normalizeTriggerMarketPriceCycleWindowConfig config) = false := by
  cases hstray : straySellOrder config with
  | true =>
    have hmode := windowMode_absent (normalizeCycleWindow_stray hstray).1
    simp [straySellOrder, hmode]
  | false =>
    have hsettled := normalizeCycleWindow_settled hstray
    cases hsettled with
    | edge mode secs hmode hsecs hmodeField hsecsField hrest =>
      simp [straySellOrder, hrest, isTrue]
    | range startSec endSec hstart hend hmodeField hstartField hendField hsecs hsell =>
      simp [straySellOrder, customRange, hstartField, hendField, hstart, hend]
    | off hrest => simp [straySellOrder, hrest, isTrue]

end Windows

/-! ### Trigger configurations -/

section Triggers
variable {config : Fields}

theorem WindowSettled.congr {config' : Fields} (h : WindowSettled config)
    (hsame : ∀ key ∈ ["cycleWindowMode", "cycleWindowSecs", "cycleWindowStartSec",
      "cycleWindowEndSec", "autoSellOnWindowEnd"], field key config' = field key config) :
    WindowSettled config' := by
  simp only [List.forall_mem_cons] at hsame
  obtain ⟨hmode, hsecs, hstart, hend, hsell, -⟩ := hsame
  cases h with
  | edge mode secs hkind hpos hmodeField hsecsField hrest =>
    simp only [List.forall_mem_cons] at hrest
    refine .edge mode secs hkind hpos (hmode.trans hmodeField) (hsecs.trans hsecsField) ?_
    simp [hstart, hend, hsell, hrest]
  | range startSec endSec hle hlt hmodeField hstartField hendField hnone hsellField =>
    refine .range startSec endSec hle hlt (hmode.trans hmodeField) (hstart.trans hstartField)
      (hend.trans hendField) (hsecs.trans hnone) ?_
    rwa [hsell]
  | off hrest =>
    simp only [List.forall_mem_cons] at hrest
    refine .off ?_
    simp [hmode, hsecs, hstart, hend, hsell, hrest]

theorem field_normalizeTriggerConfig {key : String} (hprice : key ≠ "priceMode")
    (hbinding : key ≠ "bindingMode") (config : Fields) :
    field key (normalizeTriggerConfig config) =
      field key (normalizeTriggerMarketPriceCycleWindowConfig config) := by
  simp [normalizeTriggerConfig, hprice, hbinding]

theorem oneOf_mem (modes : List String) (fallback mode : String) :
    oneOf modes fallback mode ∈ fallback :: modes := by
  unfold oneOf
  split
  · exact List.mem_cons_of_mem _ ‹_›
  · exact List.mem_cons_self ..

theorem priceMode_settled : ∀ mode ∈ "composite" :: validPriceModes,
    oneOf validPriceModes "composite" (loweredString (some (.string mode))) = mode := by
  decide +kernel

theorem bindingMode_settled : ∀ mode ∈ "standard" :: bindingModes,
    oneOf bindingModes "standard" (loweredString (some (.string mode))) = mode := by
  decide +kernel

theorem normalizeTriggerConfig_again_iff (config : Fields) :
    normalizeTriggerConfig (normalizeTriggerConfig config) = normalizeTriggerConfig config ↔
      straySellOrder config = false := by
  cases hstray : straySellOrder config with
  | true =>
    refine iff_of_false (fun hagain => ?_) (by decide)
    obtain ⟨hmode, hsell⟩ := normalizeCycleWindow_stray hstray
    have hmode' : field "cycleWindowMode" (normalizeTriggerConfig config) = none :=
      (field_normalizeTriggerConfig (by decide) (by decide) config).trans hmode
    have hdropped : field "autoSellOnWindowEnd" (normalizeTriggerMarketPriceCycleWindowConfig
        (normalizeTriggerConfig config)) = none := by
      unfold normalizeTriggerMarketPriceCycleWindowConfig
      simp only [windowMode_absent hmode']
      rw [if_neg (by decide), if_neg (by decide), field_dropFields]
      rfl
    rw [← field_normalizeTriggerConfig (by decide) (by decide), hagain,
      field_normalizeTriggerConfig (by decide) (by decide)] at hdropped
    rw [hdropped] at hsell
    cases hsell
  | false =>
    refine iff_of_true ?_ rfl
    have hwindow : WindowSettled (normalizeTriggerConfig config) := by
      refine (normalizeCycleWindow_settled hstray).congr fun key hkey => ?_
      refine field_normalizeTriggerConfig ?_ ?_ config
      · exact ne_of_mem_of_not_mem hkey (by decide)
      · exact ne_of_mem_of_not_mem hkey (by decide)
    have hprice : field "priceMode" (normalizeTriggerConfig config) = some (.string
        (oneOf validPriceModes "composite" (loweredString (field "priceMode" config)))) := by
      simp [normalizeTriggerConfig]
    have hbinding : field "bindingMode" (normalizeTriggerConfig config) = some (.string
        (oneOf bindingModes "standard" (loweredString (field "bindingMode" config)))) := by
      simp [normalizeTriggerConfig]
    generalize normalizeTriggerConfig config = settled at hwindow hprice hbinding ⊢
    unfold normalizeTriggerConfig
    rw [hwindow.fixed, hprice, hbinding, priceMode_settled _ (oneOf_mem ..),
      bindingMode_settled _ (oneOf_mem ..), setField_eq_self hprice, setField_eq_self hbinding]

theorem straySellOrder_normalizeTriggerConfig (config : Fields) :
    straySellOrder (normalizeTriggerConfig config) = false := by
  have hsame := straySellOrder_normalized config
  unfold straySellOrder windowMode customRange at hsame ⊢
  simpa only [field_normalizeTriggerConfig (by decide : "cycleWindowMode" ≠ "priceMode") (by decide),
    field_normalizeTriggerConfig (by decide : "cycleWindowStartSec" ≠ "priceMode") (by decide),
    field_normalizeTriggerConfig (by decide : "cycleWindowEndSec" ≠ "priceMode") (by decide),
    field_normalizeTriggerConfig (by decide : "autoSellOnWindowEnd" ≠ "priceMode") (by decide)]
    using hsame

end Triggers

/-! ### Order presets -/

section Presets

/-- Whether the preset's reference is replaced by the node's own key. -/
def takesOwnKey (nodeKey : String) (config : Fields) (knownNodeKeys : List String) : Bool :=
  let refKeyRaw := toTrimmedString (field "refKey" config)
  isGenericPlaceOrderPresetConfig config &&
    (refKeyRaw = "" || lowercase refKeyRaw = "preset_place_order" ||
      refKeyRaw ≠ nodeKey && refKeyRaw ∈ knownNodeKeys)

variable {nodeKey : String} {config : Fields} {knownNodeKeys : List String}

theorem normalizePlaceOrderPresetRefKey_eq (nodeKey : String) (config : Fields)
    (knownNodeKeys : List String) :
    normalizePlaceOrderPresetRefKey nodeKey config knownNodeKeys =
      if takesOwnKey nodeKey config knownNodeKeys then setField "refKey" (.string nodeKey) config
      else config := by
  unfold normalizePlaceOrderPresetRefKey takesOwnKey
  by_cases hquick : isQuickPresetBuySellPlaceOrderConfig config = true
  · simp [hquick, isGenericPlaceOrderPresetConfig]
  by_cases hgeneric : isGenericPlaceOrderPresetConfig config = true
  · simp only [if_neg hquick, hgeneric, Bool.not_true, if_neg Bool.false_ne_true, Bool.true_and,
      Bool.or_eq_true, Bool.and_eq_true, decide_eq_true_eq]
    split_ifs <;> simp_all
  · simp [hquick, hgeneric]

theorem refKey_settled_iff :
    normalizePlaceOrderPresetRefKey nodeKey config knownNodeKeys = config ↔
      (takesOwnKey nodeKey config knownNodeKeys = true →
        field "refKey" config = some (.string nodeKey)) := by
  rw [normalizePlaceOrderPresetRefKey_eq]
  cases htakes : takesOwnKey nodeKey config knownNodeKeys with
  | true =>
    refine ⟨fun h _ => ?_, fun h => setField_eq_self (h rfl)⟩
    rw [← h, if_pos rfl, field_setField, if_pos rfl]
  | false => exact ⟨fun _ h => absurd h (by decide), fun _ => rfl⟩

theorem refKey_cases (nodeKey : String) (config : Fields) (knownNodeKeys : List String) :
    field "refKey" (normalizePlaceOrderPresetRefKey nodeKey config knownNodeKeys) =
        some (.string nodeKey) ∨
      normalizePlaceOrderPresetRefKey nodeKey config knownNodeKeys = config := by
  rw [normalizePlaceOrderPresetRefKey_eq]
  split
  · exact .inl (by simp)
  · exact .inr rfl

theorem refKey_again (nodeKey : String) (config : Fields) (knownNodeKeys : List String) :
    normalizePlaceOrderPresetRefKey nodeKey
        (normalizePlaceOrderPresetRefKey nodeKey config knownNodeKeys) knownNodeKeys =
      normalizePlaceOrderPresetRefKey nodeKey config knownNodeKeys := by
  cases refKey_cases nodeKey config knownNodeKeys with
  | inl hown => exact refKey_settled_iff.mpr fun _ => hown
  | inr hsame => rw [hsame, hsame]

theorem isGenericPlaceOrderPresetConfig_congr {config' : Fields}
    (hkind : field "presetKind" config' = field "presetKind" config)
    (href : field "refKey" config' = field "refKey" config) :
    isGenericPlaceOrderPresetConfig config' = isGenericPlaceOrderPresetConfig config := by
  unfold isGenericPlaceOrderPresetConfig isQuickPresetBuySellPlaceOrderConfig
  rw [hkind, href]

theorem takesOwnKey_congr {config' : Fields}
    (hkind : field "presetKind" config' = field "presetKind" config)
    (href : field "refKey" config' = field "refKey" config) :
    takesOwnKey nodeKey config' knownNodeKeys = takesOwnKey nodeKey config knownNodeKeys := by
  unfold takesOwnKey
  rw [isGenericPlaceOrderPresetConfig_congr hkind href, href]

def marketKeys : List String := ["marketSlug", "tokenId", "outcomeLabel"]

theorem field_syncMarketSlug (marketSlug : String) {key : String} (hkey : key ≠ "marketSlug")
    (config : Fields) : field key (syncMarketSlug marketSlug config) = field key config := by
  unfold syncMarketSlug
  split_ifs <;> simp [hkey]

theorem field_syncOutcome (resolution : FixedTriggerMarketResolution) {key : String}
    (htoken : key ≠ "tokenId") (hlabel : key ≠ "outcomeLabel") (config : Fields) :
    field key (syncOutcome resolution config) = field key config := by
  unfold syncOutcome
  split <;> split_ifs <;> simp [htoken, hlabel]

theorem field_syncPresetMarket (graph : TradeFlowGraph) (nodeKey : String) {key : String}
    (hkey : key ∉ marketKeys) (config : Fields) :
    field key (syncPresetMarket graph nodeKey config) = field key config := by
  simp only [marketKeys, List.mem_cons, List.not_mem_nil, or_false, not_or] at hkey
  obtain ⟨hslug, htoken, hlabel⟩ := hkey
  unfold syncPresetMarket syncAutoScope
  simp only
  split
  · rw [field_syncOutcome _ htoken hlabel, field_syncMarketSlug _ hslug]
  · split_ifs <;> simp [hslug, htoken, hlabel]

theorem syncMarketSlug_fixed {marketSlug : String}
    (h : toTrimmedString (field "marketSlug" config) = marketSlug ∨
      field "marketSlug" config = some (.string marketSlug)) :
    syncMarketSlug marketSlug config = config := by
  unfold syncMarketSlug
  cases h with
  | inl hsame => rw [if_neg (fun hother => hother hsame)]
  | inr hwritten => rw [setField_eq_self hwritten, ite_self]

theorem syncMarketSlug_cases (marketSlug : String) (config : Fields) :
    toTrimmedString (field "marketSlug" (syncMarketSlug marketSlug config)) = marketSlug ∨
      field "marketSlug" (syncMarketSlug marketSlug config) = some (.string marketSlug) := by
  unfold syncMarketSlug
  by_cases hslug : toTrimmedString (field "marketSlug" config) = marketSlug
  · rw [if_neg (fun hother => hother hslug)]
    exact .inl hslug
  · rw [if_pos hslug]
    exact .inr (by simp)

theorem syncOutcome_again (resolution : FixedTriggerMarketResolution) (config : Fields) :
    syncOutcome resolution (syncOutcome resolution config) = syncOutcome resolution config := by
  unfold syncOutcome
  cases singleOutcome resolution with
  | some outcome =>
    obtain ⟨tokenId, outcomeLabel⟩ := outcome
    simp only
    by_cases hother : toTrimmedString (field "tokenId" config) ≠ tokenId ∨
        toTrimmedString (field "outcomeLabel" config) ≠ outcomeLabel
    · rw [if_pos hother]
      generalize hwritten : setField "outcomeLabel" (.string outcomeLabel)
        (setField "tokenId" (.string tokenId) config) = written
      have htoken : field "tokenId" written = some (.string tokenId) := by simp [← hwritten]
      have hlabel : field "outcomeLabel" written = some (.string outcomeLabel) := by
        simp [← hwritten]
      rw [setField_eq_self htoken, setField_eq_self hlabel, ite_self]
    · rw [if_neg hother, if_neg hother]
  | none =>
    simp only
    by_cases hhas : (hasField "tokenId" config || hasField "outcomeLabel" config) = true
    · rw [if_pos hhas, if_neg (by simp [hasField])]
    · rw [if_neg hhas, if_neg hhas]

theorem syncAutoScope_again (config : Fields) :
    syncAutoScope (syncAutoScope config) = syncAutoScope config := by
  unfold syncAutoScope
  by_cases hhas : (hasField "marketSlug" config || hasField "tokenId" config ||
      hasField "outcomeLabel" config) = true
  · rw [if_pos hhas, if_neg (by simp [hasField])]
  · rw [if_neg hhas, if_neg hhas]

theorem syncPresetMarket_again (graph : TradeFlowGraph) (nodeKey : String) (config : Fields) :
    syncPresetMarket graph nodeKey (syncPresetMarket graph nodeKey config) =
      syncPresetMarket graph nodeKey config := by
  unfold syncPresetMarket
  simp only
  cases singleMarket (resolveUpstreamFixedTriggerMarket nodeKey graph) with
  | some marketSlug =>
    have hslug := syncMarketSlug_cases marketSlug config
    rw [← field_syncOutcome (resolveUpstreamFixedTriggerMarket nodeKey graph) (by decide)
      (by decide)] at hslug
    simp only
    rw [syncMarketSlug_fixed hslug, syncOutcome_again]
  | none =>
    simp only
    split_ifs
    · exact syncAutoScope_again config
    · rfl

end Presets

/-! ### Nodes and edges -/

/-- The key and the type are as they are read. -/
structure TradeFlowNode.Named (node : TradeFlowNode) : Prop where
  key : scriptTrim node.key = node.key
  keyFilled : node.key ≠ ""
  type : scriptTrim node.type = node.type
  typeFilled : node.type ≠ ""

theorem toNode_some {raw : Value} {node : TradeFlowNode} (h : toNode raw = some node) :
    node.Named ∧
      node.config = normalizeNodeConfig node.key node.type (recordOrEmpty (raw.get "config")) := by
  unfold toNode at h
  simp only at h
  split at h
  · cases h
  · rename_i hfilled
    obtain rfl := Option.some.inj h
    simp only [Bool.or_eq_true, decide_eq_true_eq, not_or] at hfilled
    exact ⟨⟨scriptTrim_scriptTrim _, hfilled.1.2, scriptTrim_scriptTrim _, hfilled.2⟩, rfl⟩

theorem toNode_toJson {node : TradeFlowNode} (h : node.Named) :
    toNode node.toJson =
      some { node with config := normalizeNodeConfig node.key node.type node.config } := by
  have hkey : node.toJson.get "key" = some (.string node.key) := rfl
  have htype : node.toJson.get "type" = some (.string node.type) := rfl
  have hconfig : node.toJson.get "config" = some (.object node.config) := rfl
  have hobject : node.toJson.isObject = true := rfl
  unfold toNode
  simp only [hkey, htype, hconfig, hobject, textOrEmpty, scriptText, h.key, h.type]
  rw [if_neg (by simp [h.keyFilled, h.typeFilled])]
  rfl

theorem scriptTrim_eq_self {s : String} (h : ∀ c ∈ s.toList, scriptBlank c = false) :
    scriptTrim s = s := by
  unfold scriptTrim
  exact Text.trimBy_eq_self (fun c hc => h c (List.mem_of_head? hc))
    fun c hc => h c (List.mem_of_getLast? hc)

theorem edgeKey_toList (n : ℕ) : (s!"edge_{n}").toList = "edge_".toList ++ Nat.toDigits 10 n := by
  change ("edge_" ++ n.repr).toList = _
  rw [String.toList_append, Nat.toList_repr]

theorem scriptTrim_edgeKey (n : ℕ) : scriptTrim s!"edge_{n}" = s!"edge_{n}" := by
  refine scriptTrim_eq_self fun c hc => ?_
  rw [edgeKey_toList, List.mem_append] at hc
  cases hc with
  | inl hname =>
    have hplain : "edge_".toList.any scriptBlank = false := by decide +kernel
    exact Bool.eq_false_of_not_eq_true (List.any_eq_false.mp hplain c hname)
  | inr hdigit =>
    have hrange := Nat.isDigit_of_mem_toDigits (by decide) (by decide) hdigit
    simp only [Char.isDigit, Bool.and_eq_true, decide_eq_true_eq] at hrange
    have hlow : 48 ≤ c.toNat := hrange.1
    have hhigh : c.toNat ≤ 57 := hrange.2
    simp only [scriptBlank, List.mem_cons, List.not_mem_nil, or_false, Bool.or_eq_false_iff,
      Bool.and_eq_false_iff, decide_eq_false_iff_not]
    omega

structure TradeFlowEdge.Named (edge : TradeFlowEdge) : Prop where
  key : scriptTrim edge.key = edge.key
  keyFilled : edge.key ≠ ""
  source : scriptTrim edge.source = edge.source
  sourceFilled : edge.source ≠ ""
  target : scriptTrim edge.target = edge.target
  targetFilled : edge.target ≠ ""
  type : scriptTrim edge.type = edge.type
  typeFilled : edge.type ≠ ""

theorem orText_settled (s : String) {fallback : String} (htrimmed : scriptTrim fallback = fallback)
    (hfilled : fallback ≠ "") :
    scriptTrim (orText (scriptTrim s) fallback) = orText (scriptTrim s) fallback ∧
      orText (scriptTrim s) fallback ≠ "" := by
  unfold orText
  split
  · exact ⟨htrimmed, hfilled⟩
  · exact ⟨scriptTrim_scriptTrim s, ‹_›⟩

theorem toEdge_named {raw : Value} {idx : ℕ} {edge : TradeFlowEdge}
    (h : toEdge raw idx = some edge) : edge.Named := by
  unfold toEdge at h
  simp only at h
  split at h
  · cases h
  rename_i hfilled
  obtain rfl := Option.some.inj h
  simp only [Bool.or_eq_true, decide_eq_true_eq, not_or] at hfilled
  have hedgeKey : s!"edge_{idx + 1}" ≠ "" := by
    intro hempty
    have hchars := edgeKey_toList (idx + 1)
    rw [hempty] at hchars
    cases hchars
  have hkey := orText_settled (textOrEmpty (raw.get "key")) (scriptTrim_edgeKey (idx + 1)) hedgeKey
  have hdefault : scriptTrim "default" = "default" := by decide +kernel
  have htype := orText_settled (textOr "default" (raw.get "type")) hdefault (by decide)
  exact ⟨hkey.1, hkey.2, scriptTrim_scriptTrim _, hfilled.1.2, scriptTrim_scriptTrim _, hfilled.2,
    htype.1, htype.2⟩

theorem toEdge_toJson {edge : TradeFlowEdge} (h : edge.Named) (idx : ℕ) :
    toEdge edge.toJson idx = some edge := by
  have hkey : edge.toJson.get "key" = some (.string edge.key) := rfl
  have hsource : edge.toJson.get "source" = some (.string edge.source) := rfl
  have htarget : edge.toJson.get "target" = some (.string edge.target) := rfl
  have htype : edge.toJson.get "type" = some (.string edge.type) := rfl
  have hcondition : edge.toJson.get "condition" =
      some ((edge.condition.map Value.object).getD .null) := rfl
  have hobject : edge.toJson.isObject = true := rfl
  unfold toEdge
  simp only [hkey, hsource, htarget, htype, hcondition, hobject, textOrEmpty, textOr, scriptText,
    h.key, h.source, h.target, h.type, orText, if_neg h.keyFilled, if_neg h.typeFilled]
  rw [if_neg (by simp [h.sourceFilled, h.targetFilled])]
  obtain ⟨key, source, target, type, condition⟩ := edge
  cases condition <;> rfl

end PolymarketBot.Editor
