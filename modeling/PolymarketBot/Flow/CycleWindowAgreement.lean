import Mathlib.Data.Int.ConditionallyCompleteOrder
import Mathlib.Order.ConditionallyCompleteLattice.Basic
import Mathlib.Order.Interval.Set.LinearOrder
import Mathlib.Tactic.Ring
import PolymarketBot.Flow.CycleWindow

/-! The two readings of a cycle window: the instants at which the websocket path does not skip,
and the bounds that the timers act on. -/

namespace PolymarketBot.Flow
open Set

/-! ### The windows a node can have -/

/-- What `build_open_position_ws_price_node_specs` makes of the fields of a node. -/
def builtCycleWindow (mode : Option String) (secs startSec endSec : Option ℤ) :
    Option String × Option ℤ × Option ℤ × Option ℤ :=
  let mode := (mode.map fun value => String.ofList ((trim value).toList.map Char.toLower)).filter
    fun value => value = "first" || value = "last" || value = "custom_range"
  match mode with
  | none => (none, none, none, none)
  | some mode =>
    if mode = "custom_range" then
      match startSec.filter (0 ≤ ·), endSec.filter (0 < ·) with
      | some startSec, some endSec =>
        if startSec < endSec then (some mode, none, some startSec, some endSec)
        else (none, none, none, none)
      | _, _ => (none, none, none, none)
    else
      match secs.filter (0 < ·) with
      | some secs => (some mode, some secs, none, none)
      | none => (none, none, none, none)

def WsOpenPositionPriceNodeSpec.cycleWindow (spec : WsOpenPositionPriceNodeSpec) :
    Option String × Option ℤ × Option ℤ × Option ℤ :=
  (spec.cycleWindowMode, spec.cycleWindowSecs, spec.cycleWindowStartSec, spec.cycleWindowEndSec)

/-- A window of one of the modes. -/
inductive CycleWindowAccepted : Option String × Option ℤ × Option ℤ × Option ℤ → Prop
  | first {secs : ℤ} (hsecs : 0 < secs) : CycleWindowAccepted (some "first", some secs, none, none)
  | last {secs : ℤ} (hsecs : 0 < secs) : CycleWindowAccepted (some "last", some secs, none, none)
  | customRange {startSec endSec : ℤ} (hstart : 0 ≤ startSec) (hlt : startSec < endSec) :
    CycleWindowAccepted (some "custom_range", none, some startSec, some endSec)

theorem builtCycleWindow_accepted {mode : Option String} {secs startSec endSec : Option ℤ}
    (h : (builtCycleWindow mode secs startSec endSec).1.isSome) :
    CycleWindowAccepted (builtCycleWindow mode secs startSec endSec) := by
  unfold builtCycleWindow at h ⊢
  generalize hmode : (mode.map fun value =>
    String.ofList ((trim value).toList.map Char.toLower)).filter _ = built at h ⊢
  cases hbuilt : built with
  | none =>
    rw [hbuilt] at h
    cases h
  | some value =>
    rw [hbuilt] at h hmode
    have hvalue := (Option.filter_eq_some_iff.mp hmode).2
    dsimp only at h ⊢
    by_cases hcustom : value = "custom_range"
    · rw [if_pos hcustom] at h ⊢
      cases hstart : startSec.filter (0 ≤ ·) with
      | none => simp [hstart] at h
      | some s =>
        cases hend : endSec.filter (0 < ·) with
        | none => simp [hstart, hend] at h
        | some e =>
          have hnonneg : 0 ≤ s := by simpa using (Option.filter_eq_some_iff.mp hstart).2
          by_cases hlt : s < e
          · dsimp only
            rw [if_pos hlt, hcustom]
            exact .customRange hnonneg hlt
          · simp [hstart, hend, hlt] at h
    · have hother : value = "first" ∨ value = "last" := by simpa [hcustom] using hvalue
      rw [if_neg hcustom] at h ⊢
      cases hsecs : secs.filter (0 < ·) with
      | none => simp [hsecs] at h
      | some k =>
        have hpos : 0 < k := by simpa using (Option.filter_eq_some_iff.mp hsecs).2
        rcases hother with rfl | rfl
        · exact .first hpos
        · exact .last hpos

/-- The window of a market of this duration, in seconds from its start. -/
def windowSeconds (spec : WsOpenPositionPriceNodeSpec) (duration : ℤ) : Option (ℤ × ℤ) :=
  match spec.cycleWindow with
  | (some "first", some secs, _, _) => some (0, clampSecs secs duration)
  | (some "last", some secs, _, _) => some (duration - clampSecs secs duration, duration)
  | (some "custom_range", _, some startSec, some endSec) =>
    if startSec ≥ endSec ∨ endSec > duration then none else some (startSec, endSec)
  | _ => none

section Windows
variable {spec : WsOpenPositionPriceNodeSpec} {duration : ℤ} {window : ℤ × ℤ}

theorem cycleWindow_fields {config : Option String × Option ℤ × Option ℤ × Option ℤ}
    (h : spec.cycleWindow = config) :
    spec.cycleWindowMode = config.1 ∧ spec.cycleWindowSecs = config.2.1 ∧
      spec.cycleWindowStartSec = config.2.2.1 ∧ spec.cycleWindowEndSec = config.2.2.2 := by
  subst h
  exact ⟨rfl, rfl, rfl, rfl⟩

theorem windowSeconds_range (hspec : CycleWindowAccepted spec.cycleWindow) (hduration : 1 ≤ duration)
    (h : windowSeconds spec duration = some window) :
    0 ≤ window.1 ∧ window.1 < window.2 ∧ window.2 ≤ duration := by
  unfold windowSeconds at h
  generalize spec.cycleWindow = config at hspec h
  cases hspec with
  | first hsecs =>
    obtain rfl := Option.some.inj h
    simp only [clampSecs]
    omega
  | last hsecs =>
    obtain rfl := Option.some.inj h
    simp only [clampSecs]
    omega
  | customRange hstart hlt =>
    obtain ⟨hinside, h⟩ := Option.ite_none_left_eq_some.mp h
    obtain rfl := Option.some.inj h
    omega

theorem windowSeconds_none (hspec : CycleWindowAccepted spec.cycleWindow)
    (h : windowSeconds spec duration = none) {other : ℤ}
    (hother : windowSeconds spec other = some window) : duration < window.2 := by
  unfold windowSeconds at h hother
  generalize spec.cycleWindow = config at hspec h hother
  cases hspec with
  | first hsecs => cases h
  | last hsecs => cases h
  | customRange hstart hlt =>
    obtain ⟨hinside, hother⟩ := Option.ite_none_left_eq_some.mp hother
    obtain rfl := Option.some.inj hother
    by_contra hle
    exact absurd ((if_neg (by omega)).symm.trans h) (Option.some_ne_none _)

theorem window_within (hspec : CycleWindowAccepted spec.cycleWindow) (hduration : 1 ≤ duration) :
    0 ≤ ((windowSeconds spec duration).getD (0, duration)).1 ∧
      ((windowSeconds spec duration).getD (0, duration)).1 <
        ((windowSeconds spec duration).getD (0, duration)).2 ∧
      ((windowSeconds spec duration).getD (0, duration)).2 ≤ duration := by
  cases h : windowSeconds spec duration with
  | none => exact ⟨le_rfl, hduration, le_rfl⟩
  | some window => exact windowSeconds_range hspec hduration h

theorem windowSeconds_whole (hspec : CycleWindowAccepted spec.cycleWindow) {mode : String}
    (hmode : mode ∈ spec.cycleWindowMode) (hother : mode ≠ "custom_range")
    (hle : duration ≤ spec.cycleWindowSecs.getD 0) (hduration : 1 ≤ duration) :
    windowSeconds spec duration = some (0, duration) := by
  obtain ⟨config, hconfig⟩ : ∃ config, spec.cycleWindow = config := ⟨_, rfl⟩
  obtain ⟨hspecMode, hsecs, -, -⟩ := cycleWindow_fields hconfig
  unfold windowSeconds
  rw [hconfig] at hspec ⊢
  cases hspec with
  | first hpos =>
    rw [hsecs] at hle
    have hclamp : clampSecs _ duration = duration :=
      (congrArg (max 1) (min_eq_right hle)).trans (max_eq_right hduration)
    exact congrArg (fun secs => some (0, secs)) hclamp
  | last hpos =>
    rw [hsecs] at hle
    have hclamp : clampSecs _ duration = duration :=
      (congrArg (max 1) (min_eq_right hle)).trans (max_eq_right hduration)
    exact congrArg (fun secs => some (duration - secs, duration)) hclamp |>.trans (by simp)
  | customRange hnonneg hlt => exact absurd (Option.some.inj (hmode.symm.trans hspecMode)) hother

end Windows

/-! ### The timers -/

/-- The instants within the bounds that the timers act on. -/
def timerInstants (spec : WsOpenPositionPriceNodeSpec) : Set ℤ :=
  {now | ∃ bounds ∈ cycleWindowBounds spec, now ∈ Ico bounds.1 bounds.2}

/-- The instants at which the websocket path does not skip. -/
def fastPathInstants (spec : WsOpenPositionPriceNodeSpec) : Set ℤ :=
  {now | shouldSkipForCycleWindow now spec = false}

def windowInstants (startAt : ℤ) (window : ℤ × ℤ) : Set ℤ :=
  Ico (startAt + 1000000000 * window.1) (startAt + 1000000000 * window.2)

theorem mem_windowInstants {startAt now : ℤ} {window : ℤ × ℤ} :
    now ∈ windowInstants startAt window ↔
      startAt + 1000000000 * window.1 ≤ now ∧ now < startAt + 1000000000 * window.2 := Iff.rfl

theorem windowInstants_eq_iff {startAt : ℤ} {window other : ℤ × ℤ}
    (h : window.1 < window.2) :
    windowInstants startAt window = windowInstants startAt other ↔ window = other := by
  unfold windowInstants
  rw [Set.Ico_eq_Ico_iff (Or.inl (by omega)), Prod.ext_iff]
  constructor <;> rintro ⟨h1, h2⟩ <;> constructor <;> omega

section Readings
variable {spec : WsOpenPositionPriceNodeSpec} {slug : String} {d : UpdownScopeDef}
  {startAt : ℤ}

theorem cycleWindowBounds_eq (hspec : CycleWindowAccepted spec.cycleWindow)
    (htype : spec.nodeType = "trigger.market_price") (hslug : spec.marketSlug = some slug)
    (hscope : findUpdownScopeBySlug slug = some d) (hstart : marketStartTime slug = some startAt) :
    cycleWindowBounds spec = (windowSeconds spec (updownScopeWindowSeconds d)).map fun window =>
      (startAt + 1000000000 * window.1, startAt + 1000000000 * window.2) := by
  unfold cycleWindowBounds windowSeconds
  obtain ⟨config, hconfig⟩ : ∃ config, spec.cycleWindow = config := ⟨_, rfl⟩
  obtain ⟨hmode, hsecs, hs, he⟩ := cycleWindow_fields hconfig
  rw [hconfig] at hspec ⊢
  cases hspec with
  | first hpos => simp [htype, hslug, hscope, hstart, hmode, hsecs]
  | last hpos =>
    simp [htype, hslug, hscope, hstart, hmode, hsecs]
    ring
  | customRange hnonneg hlt =>
    simp [htype, hslug, hscope, hstart, hmode, hs, he]
    split_ifs <;> rfl

def slugDuration (slug : String) : Option ℤ :=
  if contains "-5m-" slug then some 300 else if contains "-15m-" slug then some 900 else none

theorem slugDuration_pos {duration : ℤ} (h : slugDuration slug = some duration) : 1 ≤ duration := by
  unfold slugDuration at h
  split_ifs at h <;> obtain rfl := Option.some.inj h <;> norm_num

theorem resolveUpdown_eq :
    resolveUpdownMarketCycleBounds slug = (marketStartTime slug).bind fun startAt =>
      (slugDuration slug).map fun duration =>
        (startAt, startAt + 1000000000 * duration, duration) := by
  unfold resolveUpdownMarketCycleBounds marketStartTime parseUnixStart slugDuration
  cases parseI64 (lastSegment slug) with
  | none => rfl
  | some ts =>
    by_cases hrange : timestampInRange ts
    · split_ifs <;> simp [hrange, mul_add]
    · split_ifs <;> simp [hrange]

theorem shouldSkip_eq (hspec : CycleWindowAccepted spec.cycleWindow)
    (hslug : spec.marketSlug = some slug) (now : Instant) :
    ∃ mode ∈ spec.cycleWindowMode, shouldSkipForCycleWindow now spec =
      isOutsideCycleWindowFocus now slug mode (spec.cycleWindowSecs.getD 0)
        spec.cycleWindowStartSec spec.cycleWindowEndSec := by
  obtain ⟨config, hconfig⟩ : ∃ config, spec.cycleWindow = config := ⟨_, rfl⟩
  obtain ⟨hmode, hsecs, hs, he⟩ := cycleWindow_fields hconfig
  rw [hconfig] at hspec
  unfold shouldSkipForCycleWindow
  cases hspec with
  | first hpos => exact ⟨_, hmode, by simp [hslug, hmode, hsecs, hs, he]⟩
  | last hpos => exact ⟨_, hmode, by simp [hslug, hmode, hsecs, hs, he]⟩
  | customRange hnonneg hlt => exact ⟨_, hmode, by simp [hslug, hmode, hsecs, hs, he]⟩

theorem absoluteBounds_eq (hspec : CycleWindowAccepted spec.cycleWindow) {mode : String}
    (hmode : mode ∈ spec.cycleWindowMode) {duration : ℤ}
    (hcycle : resolveUpdownMarketCycleBounds slug =
      some (startAt, startAt + 1000000000 * duration, duration)) :
    resolveCycleWindowAbsoluteBounds slug mode (spec.cycleWindowSecs.getD 0)
        spec.cycleWindowStartSec spec.cycleWindowEndSec =
      (windowSeconds spec duration).map fun window =>
        (startAt + 1000000000 * window.1, startAt + 1000000000 * window.2) := by
  obtain ⟨config, hconfig⟩ : ∃ config, spec.cycleWindow = config := ⟨_, rfl⟩
  obtain ⟨hspecMode, hsecs, hs, he⟩ := cycleWindow_fields hconfig
  rw [hconfig] at hspec
  unfold resolveCycleWindowAbsoluteBounds windowSeconds
  cases hspec with
  | first hpos =>
    obtain rfl := Option.some.inj (hmode.symm.trans hspecMode)
    simp [hcycle, hconfig, hsecs]
  | last hpos =>
    obtain rfl := Option.some.inj (hmode.symm.trans hspecMode)
    simp [hcycle, hconfig, hsecs]
    ring
  | customRange hnonneg hlt =>
    obtain rfl := Option.some.inj (hmode.symm.trans hspecMode)
    simp [hcycle, hconfig, hs, he]
    split_ifs <;> rfl

theorem fastPathInstants_unresolved (hspec : CycleWindowAccepted spec.cycleWindow)
    (hslug : spec.marketSlug = some slug) (h : resolveUpdownMarketCycleBounds slug = none) :
    fastPathInstants spec = univ := by
  refine eq_univ_of_forall fun now => ?_
  obtain ⟨mode, -, hskip⟩ := shouldSkip_eq hspec hslug now
  change shouldSkipForCycleWindow now spec = false
  rw [hskip]
  unfold isOutsideCycleWindowFocus
  rw [h]

theorem fastPathInstants_eq (hspec : CycleWindowAccepted spec.cycleWindow)
    (hslug : spec.marketSlug = some slug) (hstart : marketStartTime slug = some startAt)
    {duration : ℤ} (hduration : slugDuration slug = some duration) :
    fastPathInstants spec =
      windowInstants startAt ((windowSeconds spec duration).getD (0, duration)) := by
  have hcycle : resolveUpdownMarketCycleBounds slug =
      some (startAt, startAt + 1000000000 * duration, duration) := by
    rw [resolveUpdown_eq, hstart, hduration]
    rfl
  ext now
  obtain ⟨mode, hmode, hskip⟩ := shouldSkip_eq hspec hslug now
  change shouldSkipForCycleWindow now spec = false ↔ _
  rw [hskip]
  unfold isOutsideCycleWindowFocus
  rw [hcycle]
  dsimp only
  rw [absoluteBounds_eq hspec hmode hcycle, mem_windowInstants]
  by_cases hcycle : now < startAt ∨ startAt + 1000000000 * duration ≤ now
  · rw [if_pos (by simpa using hcycle)]
    have hrange := window_within hspec (slugDuration_pos hduration)
    simp only [Bool.true_eq_false, false_iff]
    rcases hcycle with h | h <;> omega
  · rw [if_neg (by simpa using hcycle)]
    by_cases hwhole : mode ≠ "custom_range" ∧ duration ≤ spec.cycleWindowSecs.getD 0
    · rw [if_pos (by simpa using hwhole), windowSeconds_whole hspec hmode hwhole.1 hwhole.2
        (slugDuration_pos hduration)]
      simp only [Option.getD_some, true_iff]
      omega
    · rw [if_neg (by simpa using hwhole)]
      cases windowSeconds spec duration with
      | none =>
        simp only [Option.map_none, Option.getD_none, true_iff]
        omega
      | some window =>
        simp only [Option.map_some, Option.getD_some, Bool.or_eq_false_iff,
          decide_eq_false_iff_not, not_lt, ge_iff_le, not_le]

theorem timerInstants_eq (hspec : CycleWindowAccepted spec.cycleWindow)
    (htype : spec.nodeType = "trigger.market_price") (hslug : spec.marketSlug = some slug)
    (hscope : findUpdownScopeBySlug slug = some d) (hstart : marketStartTime slug = some startAt)
    {window : ℤ × ℤ} (hwindow : windowSeconds spec (updownScopeWindowSeconds d) = some window) :
    timerInstants spec = windowInstants startAt window := by
  unfold timerInstants windowInstants
  rw [cycleWindowBounds_eq hspec htype hslug hscope hstart, hwindow]
  simp only [Option.map_some, Option.mem_some_iff, exists_eq_left']
  rfl

theorem cycleWindowBounds_some (hspec : CycleWindowAccepted spec.cycleWindow)
    (hslug : spec.marketSlug = some slug) (hscope : findUpdownScopeBySlug slug = some d)
    {bounds : Instant × Instant} (h : cycleWindowBounds spec = some bounds) :
    spec.nodeType = "trigger.market_price" ∧ (marketStartTime slug).isSome ∧
      (windowSeconds spec (updownScopeWindowSeconds d)).isSome := by
  obtain ⟨htype, -, slug', hslug', hstart⟩ := cycleWindowBounds_parts h
  obtain rfl := Option.some.inj (hslug.symm.trans hslug')
  obtain ⟨startAt, hstartAt⟩ := Option.isSome_iff_exists.mp hstart
  rw [cycleWindowBounds_eq hspec htype hslug hscope hstartAt] at h
  obtain ⟨window, hwindow, -⟩ := Option.map_eq_some_iff.mp h
  exact ⟨htype, hstart, by rw [hwindow]; rfl⟩

theorem fastPathInstants_nonempty (hspec : CycleWindowAccepted spec.cycleWindow)
    (hslug : spec.marketSlug = some slug) : (fastPathInstants spec).Nonempty := by
  cases hcycle : resolveUpdownMarketCycleBounds slug with
  | none =>
    rw [fastPathInstants_unresolved hspec hslug hcycle]
    exact univ_nonempty
  | some cycle =>
    rw [resolveUpdown_eq] at hcycle
    obtain ⟨startAt, hstart, hcycle⟩ := Option.bind_eq_some_iff.mp hcycle
    obtain ⟨duration, hduration, -⟩ := Option.map_eq_some_iff.mp hcycle
    rw [fastPathInstants_eq hspec hslug hstart hduration]
    have hwithin := window_within hspec (slugDuration_pos hduration)
    exact ⟨_, mem_windowInstants.mpr ⟨le_rfl, by omega⟩⟩

theorem slugDuration_of_window (hspec : CycleWindowAccepted spec.cycleWindow)
    (hslug : spec.marketSlug = some slug) (hstart : marketStartTime slug = some startAt)
    {window : ℤ × ℤ} (hwindow : fastPathInstants spec = windowInstants startAt window) :
    ∃ duration, slugDuration slug = some duration := by
  cases hduration : slugDuration slug with
  | some duration => exact ⟨duration, rfl⟩
  | none =>
    have hcycle : resolveUpdownMarketCycleBounds slug = none := by
      rw [resolveUpdown_eq, hstart, hduration]
      rfl
    rw [fastPathInstants_unresolved hspec hslug hcycle] at hwindow
    have hbefore : startAt + 1000000000 * window.1 - 1 ∈ windowInstants startAt window :=
      hwindow ▸ mem_univ _
    have hafter := (mem_windowInstants.mp hbefore).1
    omega

end Readings

/-! ### When the two readings agree -/

/-- At every instant the websocket path trades exactly within the bounds of the timers. -/
def WindowsAgree (spec : WsOpenPositionPriceNodeSpec) : Prop :=
  ∀ now, shouldSkipForCycleWindow now spec = false ↔
    ∃ bounds, cycleWindowBounds spec = some bounds ∧ bounds.1 ≤ now ∧ now < bounds.2

/-- Both durations, the one read off the slug and the one of its scope, give the same window. -/
structure SameWindow (spec : WsOpenPositionPriceNodeSpec) (slug : String) (d : UpdownScopeDef) :
    Prop where
  trigger : spec.nodeType = "trigger.market_price"
  start : (marketStartTime slug).isSome
  window : ∃ duration ∈ slugDuration slug, ∃ window ∈ windowSeconds spec duration,
    windowSeconds spec (updownScopeWindowSeconds d) = some window

theorem windowsAgree_iff_sets {spec : WsOpenPositionPriceNodeSpec} :
    WindowsAgree spec ↔ fastPathInstants spec = timerInstants spec :=
  Set.ext_iff.symm

/-- For a slug whose scope is known, the two readings of a built window agree at every instant
exactly where both durations give the node the same window. -/
theorem cycle_windows_agree_iff (spec : WsOpenPositionPriceNodeSpec) {slug : String}
    {d : UpdownScopeDef} {mode : Option String} {secs startSec endSec : Option ℤ}
    (hbuilt : spec.cycleWindow = builtCycleWindow mode secs startSec endSec)
    (hmode : spec.cycleWindowMode.isSome) (hslug : spec.marketSlug = some slug)
    (hscope : findUpdownScopeBySlug slug = some d) :
    WindowsAgree spec ↔ SameWindow spec slug d := by
  have hspec : CycleWindowAccepted spec.cycleWindow := by
    rw [hbuilt]
    refine builtCycleWindow_accepted ?_
    rw [← hbuilt]
    exact hmode
  rw [windowsAgree_iff_sets]
  constructor
  · intro hagree
    -- the websocket path trades at some instant, so the timers have bounds
    have hnonempty := fastPathInstants_nonempty hspec hslug
    rw [hagree] at hnonempty
    obtain ⟨_, bounds, hbounds, -⟩ := hnonempty
    obtain ⟨htype, hstartSome, hwindowSome⟩ := cycleWindowBounds_some hspec hslug hscope hbounds
    obtain ⟨startAt, hstart⟩ := Option.isSome_iff_exists.mp hstartSome
    obtain ⟨window, hwindow⟩ := Option.isSome_iff_exists.mp hwindowSome
    rw [timerInstants_eq hspec htype hslug hscope hstart hwindow] at hagree
    obtain ⟨duration, hduration⟩ := slugDuration_of_window hspec hslug hstart hagree
    rw [fastPathInstants_eq hspec hslug hstart hduration, windowInstants_eq_iff
      (window_within hspec (slugDuration_pos hduration)).2.1] at hagree
    refine ⟨htype, hstartSome, duration, hduration, ?_⟩
    cases hfast : windowSeconds spec duration with
    | none =>
      -- the whole market would have to be the window, which ends after it
      have hlonger := windowSeconds_none hspec hfast hwindow
      rw [hfast, Option.getD_none] at hagree
      rw [← hagree] at hlonger
      exact absurd hlonger (lt_irrefl _)
    | some fast =>
      rw [hfast, Option.getD_some] at hagree
      exact ⟨fast, rfl, hagree ▸ hwindow⟩
  · rintro ⟨htype, hstartSome, duration, hduration, window, hfast, hwindow⟩
    obtain ⟨startAt, hstart⟩ := Option.isSome_iff_exists.mp hstartSome
    rw [timerInstants_eq hspec htype hslug hscope hstart hwindow,
      fastPathInstants_eq hspec hslug hstart hduration, hfast, Option.getD_some]

/-! ### A range beyond the market, and a slug in capitals -/

deriving instance DecidableEq for UpdownScopeDef

def windowSpec (slug : String) (window : Option String × Option ℤ × Option ℤ × Option ℤ) :
    WsOpenPositionPriceNodeSpec where
  nodeKey := "entry"
  nodeType := "trigger.market_price"
  onceMode := false
  onceScopeMarket := false
  pairLockOnlyMonitor := false
  autoScope := false
  priceMode := .bestAsk
  marketSlug := some slug
  tokenId := "up"
  outcomeLabel := "Up"
  triggerCondition := "cross_above"
  triggerPrice := 1 / 2
  maxPrice := none
  priceToBeatTriggerEnabled := false
  confirmationMs := none
  cycleWindowMode := window.1
  cycleWindowSecs := window.2.1
  cycleWindowStartSec := window.2.2.1
  cycleWindowEndSec := window.2.2.2
  autoSellOnWindowEnd := false

def lastMinuteSpec : WsOpenPositionPriceNodeSpec :=
  windowSpec "btc-updown-5m-1773319200" (builtCycleWindow (some "last") (some 60) none none)

def overlongSpec : WsOpenPositionPriceNodeSpec :=
  windowSpec "btc-updown-5m-1773319200"
    (builtCycleWindow (some "custom_range") none (some 200) (some 360))

def capitalsSpec : WsOpenPositionPriceNodeSpec :=
  windowSpec "BTC-UPDOWN-5M-1773319200" (builtCycleWindow (some "last") (some 60) none none)

theorem lastMinute_agrees : WindowsAgree lastMinuteSpec := by
  have hbuilt : lastMinuteSpec.cycleWindow =
    builtCycleWindow (some "last") (some 60) none none := rfl
  have hscope : findUpdownScopeBySlug "btc-updown-5m-1773319200" =
    some ⟨"5m", "btc-updown-5m-"⟩ := by decide +kernel
  refine (cycle_windows_agree_iff lastMinuteSpec hbuilt (by decide +kernel) rfl hscope).mpr ?_
  exact ⟨rfl, by decide +kernel, 300, by decide +kernel, (240, 300), by decide +kernel,
    by decide +kernel⟩

/-- The first second of the market, traded although the timers see no window. -/
theorem overlong_disagrees :
    (¬WindowsAgree overlongSpec ∧ cycleWindowBounds overlongSpec = none) ∧
      ¬WindowsAgree capitalsSpec := by
  refine ⟨⟨fun agree => ?_, by decide +kernel⟩, fun agree => ?_⟩
  · obtain ⟨bounds, hbounds, -⟩ := (agree 1773319200000000000).mp (by decide +kernel)
    have hnone : cycleWindowBounds overlongSpec = none := by decide +kernel
    rw [hnone] at hbounds
    cases hbounds
  · obtain ⟨bounds, hbounds, hopen, -⟩ := (agree 1773319200000000000).mp (by decide +kernel)
    have hlast : cycleWindowBounds capitalsSpec = some (1773319440000000000, 1773319500000000000) := by
      decide +kernel
    rw [hlast] at hbounds
    obtain rfl := Option.some.inj hbounds
    exact absurd hopen (by decide)

end PolymarketBot.Flow
