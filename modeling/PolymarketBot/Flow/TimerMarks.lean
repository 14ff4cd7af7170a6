import PolymarketBot.Flow.OnceView
import PolymarketBot.Flow.TargetEdits
import PolymarketBot.Flow.TimerDelay
import PolymarketBot.Lib.Text

/-! What the timers of one run leave marked: the openings and notifications that a pass settles,
the sells it asks for and the confirmations it starts. -/

namespace PolymarketBot.Flow
open Lib.Runs

/-- The other spec is of the same target: of the node, for the same token. -/
def SameTarget (spec other : WsOpenPositionPriceNodeSpec) : Prop :=
  other.nodeKey = spec.nodeKey ∧ other.tokenId = spec.tokenId

instance (spec other : WsOpenPositionPriceNodeSpec) : Decidable (SameTarget spec other) :=
  inferInstanceAs (Decidable (_ ∧ _))

/-! ### The passes as folds over their due targets -/

section Folds
variable (chrono : Chrono) (runId : ℤ)

theorem processDueBoundaries_run (reads : TimerReads)
    (due : List (ℕ × WsOpenPositionPriceNodeSpec × String × String)) (context : Value) :
    (processDueBoundaries chrono runId reads due).run context =
      due.foldl (fun context target => (processBoundary chrono runId target.2.1 target.2.2.1
        target.2.2.2 reads.now (reads.quote target.1)).run context) context := by
  induction due generalizing context with
  | nil => rfl
  | cons target rest ih => exact (Draft.bind_run _ _ context).trans ((Draft.bind_run _ _ _).trans (ih _))

theorem processDueNotifications_run (reads : TimerReads)
    (due : List (ℕ × WsOpenPositionPriceNodeSpec × Instant)) (context : Value) :
    (processDueNotifications chrono reads due).run context =
      due.foldl (fun context target => (maybeSendMissedMarketNoOrderNotification chrono target.2.1
        target.2.2 reads.now (reads.missedMarket target.1)).run context) context := by
  induction due generalizing context with
  | nil => rfl
  | cons target rest ih => exact (Draft.bind_run _ _ context).trans ((Draft.bind_run _ _ _).trans (ih _))

theorem processDueSells_run (reads : SellReads)
    (due : List (WsOpenPositionPriceNodeSpec × Instant)) (context : Value) :
    (processDueSells runId reads due).run context =
      due.foldl (fun context target =>
        (processWindowEndSell runId reads target.1 target.2).run context) context := by
  induction due generalizing context with
  | nil => rfl
  | cons target rest ih => exact (Draft.bind_run _ _ context).trans ((Draft.bind_run _ _ _).trans (ih _))

end Folds

theorem mem_indexed {nodes : List WsOpenPositionPriceNodeSpec} {i : ℕ}
    {spec : WsOpenPositionPriceNodeSpec} : (i, spec) ∈ indexed nodes ↔ nodes[i]? = some spec := by
  unfold indexed
  rw [List.mem_iff_getElem?]
  simp only [List.getElem?_zip_eq_some]
  constructor
  · rintro ⟨k, hrange, hnode⟩
    obtain ⟨hk, hki⟩ := List.getElem?_eq_some_iff.mp hrange
    rw [List.getElem_range] at hki
    exact hki ▸ hnode
  · intro hnode
    obtain ⟨hi, -⟩ := List.getElem?_eq_some_iff.mp hnode
    exact ⟨i, List.getElem?_range hi, hnode⟩

theorem mem_indexedDue {α : Type*} {nodes : List WsOpenPositionPriceNodeSpec}
    {due : WsOpenPositionPriceNodeSpec → Option α} {i : ℕ} {spec : WsOpenPositionPriceNodeSpec}
    {found : α} :
    (i, spec, found) ∈ (indexed nodes).filterMap (fun x => (due x.2).map fun y => (x.1, x.2, y)) ↔
      nodes[i]? = some spec ∧ due spec = some found := by
  rw [List.mem_filterMap]
  constructor
  · rintro ⟨⟨j, other⟩, hmem, hdue⟩
    obtain ⟨y, hy, heq⟩ := Option.map_eq_some_iff.mp hdue
    cases heq
    exact ⟨mem_indexed.mp hmem, hy⟩
  · rintro ⟨hnode, hdue⟩
    exact ⟨(i, spec), mem_indexed.mpr hnode, by simp [hdue]⟩

/-! ### Openings of a window -/

theorem targetEntry_kept {spec other : WsOpenPositionPriceNodeSpec} {plain pres : List String}
    (hplain : plain ⊆ nodeStateKeys) (hpres : pres ⊆ targetKeyPrefixes) {es : List ContextEdit}
    (h : ∀ e ∈ es, EditsTarget other plain pres e) {pre : String} (hpre : pre ∈ targetKeyPrefixes)
    (haway : SameTarget spec other → pre ∉ pres) (context : Value) :
    flowNodeState (applyEdits es context) spec.nodeKey (pre ++ spec.tokenId) =
      flowNodeState context spec.nodeKey (pre ++ spec.tokenId) := by
  refine entry_kept h (fun hnode => ⟨fun hmem => ?_, fun pre' hmem heq => ?_⟩) context
  · exact nodeStateKey_ne (hplain hmem) hpre _ rfl
  · obtain ⟨hsame, htoken⟩ := prefix_unique hpre (hpres hmem) heq
    exact haway ⟨hnode, htoken.symm⟩ (hsame ▸ hmem)

/-- The mode and the marker of the window that is open, whether or not it is marked. -/
def openWindow (spec : WsOpenPositionPriceNodeSpec) (now : Instant) : Option (String × String) := do
  let (openAt, endAt) ← cycleWindowBounds spec
  if now < openAt || now ≥ endAt then none
  let marker ← cycleWindowBoundaryMarker spec
  some (spec.cycleWindowMode.getD "", marker)

theorem boundaryDue_eq (context : Value) (spec : WsOpenPositionPriceNodeSpec) (now : Instant) :
    cycleWindowBoundaryDueTarget context spec now = (openWindow spec now).filter fun window =>
      flowNodeStateString context spec.nodeKey (cycleWindowBoundaryStateKey spec) ≠
        some window.2 := by
  unfold cycleWindowBoundaryDueTarget openWindow
  cases cycleWindowBounds spec with
  | none => rfl
  | some bounds =>
    simp only [Option.bind_eq_bind, Option.bind_some]
    split
    · rfl
    · cases cycleWindowBoundaryMarker spec with
      | none => rfl
      | some marker =>
        simp [Option.filter_some]

theorem openWindow_congr {spec other : WsOpenPositionPriceNodeSpec}
    (h : other.settings = spec.settings) (now : Instant) :
    openWindow other now = openWindow spec now := by
  cases spec
  cases other
  cases h
  rfl

theorem trim_numbered {s front middle : String} {z : ℤ} (h : s = front ++ middle ++ toString z)
    (hhead : ∃ c ∈ front.toList.head?, Lib.Text.isWhiteSpace c = false) : trim s = s ∧ s ≠ "" := by
  obtain ⟨c, hmem, hc⟩ := hhead
  obtain ⟨rest, hfront⟩ := List.head?_eq_some_iff.mp hmem
  have hlist : s.toList = c :: (rest ++ middle.toList ++ (toString z).toList) := by
    rw [h, String.toList_append, String.toList_append, hfront, List.cons_append, List.cons_append]
  have hblank : ∀ d : Char, Lib.Text.isWhiteSpace d = true → d.isDigit = false ∧ d ≠ '-' :=
    fun d => Lib.Text.not_digit_of_blank
  have hdigits : (toString z).toList ≠ [] := by
    rw [Lib.Text.toList_toString_int]
    simp [Lib.Text.signedDigits, Nat.toDigits_ne_nil]
  refine ⟨Lib.Text.trimBy_eq_self ?_ ?_, ?_⟩
  · rw [hlist]
    simpa using hc
  · intro d hd
    rw [h, String.toList_append, List.getLast?_append_of_ne_nil _ hdigits] at hd
    by_contra hspace
    obtain ⟨hdigit, hminus⟩ := hblank d (by simpa using hspace)
    exact Lib.Text.not_mem_toString_int hdigit hminus z (List.mem_of_getLast? hd)
  · rintro rfl
    cases hlist

theorem openWindow_trimmed {spec : WsOpenPositionPriceNodeSpec} {now : Instant}
    {mode marker : String} (h : openWindow spec now = some (mode, marker)) :
    trim marker = marker ∧ marker ≠ "" := by
  unfold openWindow at h
  simp only [Option.bind_eq_bind, Option.bind_eq_some_iff] at h
  obtain ⟨bounds, hbounds, h⟩ := h
  split at h
  · cases h
  obtain ⟨text, htext, hwindow⟩ := Option.bind_eq_some_iff.mp h
  obtain rfl : text = marker := (Prod.mk.inj (Option.some.inj hwindow)).2
  obtain ⟨-, ⟨mode, hmem, hmode⟩, -⟩ := cycleWindowBounds_parts hbounds
  have hletter : ∀ m ∈ ["first", "last", "custom_range"],
      ∃ c ∈ m.toList.head?, Lib.Text.isWhiteSpace c = false := by
    intro m hm
    rcases List.mem_cons.mp hm with rfl | hm
    · exact ⟨'f', rfl, rfl⟩
    rcases List.mem_cons.mp hm with rfl | hm
    · exact ⟨'l', rfl, rfl⟩
    obtain rfl := List.mem_singleton.mp hm
    exact ⟨'c', rfl, rfl⟩
  unfold cycleWindowBoundaryMarker at htext
  rw [hmode] at htext
  simp only [Option.bind_eq_bind, Option.bind_some, Option.bind_eq_some_iff] at htext
  obtain ⟨slug, -, htext⟩ := htext
  split at htext
  · simp only [Option.bind_eq_some_iff, Option.some.injEq] at htext
    obtain ⟨startSec, -, endSec, -, rfl⟩ := htext
    exact @trim_numbered _ "custom_range:" s!"{slug}:{startSec}:" endSec
      (by simp only [String.append_assoc]; rfl) ⟨'c', rfl, rfl⟩
  · simp only [Option.bind_eq_some_iff, Option.some.injEq] at htext
    obtain ⟨secs, -, rfl⟩ := htext
    exact @trim_numbered _ mode s!":{slug}:" secs (by simp only [String.append_assoc]; rfl)
      (hletter mode hmem)

/-- The once scope and the last market of the node read the same. -/
def ScopeKept (nodeKey : String) (before after : Value) : Prop :=
  onceView after nodeKey = onceView before nodeKey ∧
    flowNodeStateString after nodeKey "last_ws_market_slug" =
      flowNodeStateString before nodeKey "last_ws_market_slug"

theorem ScopeKept.refl (nodeKey : String) (context : Value) : ScopeKept nodeKey context context :=
  ⟨rfl, rfl⟩

theorem ScopeKept.trans {nodeKey : String} {a b c : Value} (hab : ScopeKept nodeKey a b)
    (hbc : ScopeKept nodeKey b c) : ScopeKept nodeKey a c :=
  ⟨hbc.1.trans hab.1, hbc.2.trans hab.2⟩

def onceViewKeys : List String :=
  [publishAutoScopeLockMarketSlugKey, onceFiredKey, onceFiredMarketSlugKey]

theorem nodeEntry_kept {other : WsOpenPositionPriceNodeSpec} {plain pres : List String}
    (hpres : pres ⊆ targetKeyPrefixes) {es : List ContextEdit}
    (h : ∀ e ∈ es, EditsTarget other plain pres e) {nodeKey key : String} (hkey : key ∈ nodeStateKeys)
    (haway : other.nodeKey = nodeKey → key ∉ plain) (context : Value) :
    flowNodeState (applyEdits es context) nodeKey key = flowNodeState context nodeKey key :=
  entry_kept h (fun hsame => ⟨haway hsame, fun _ hpre => nodeStateKey_ne hkey (hpres hpre) _⟩) context

theorem onceView_kept {other : WsOpenPositionPriceNodeSpec} {plain pres : List String}
    (hpres : pres ⊆ targetKeyPrefixes) {es : List ContextEdit}
    (h : ∀ e ∈ es, EditsTarget other plain pres e) {nodeKey : String}
    (haway : other.nodeKey = nodeKey → ∀ key ∈ onceViewKeys, key ∉ plain) (context : Value) :
    onceView (applyEdits es context) nodeKey = onceView context nodeKey := by
  have hkey : ∀ key ∈ onceViewKeys,
      flowNodeState (applyEdits es context) nodeKey key = flowNodeState context nodeKey key := by
    intro key hmem
    have hnode : ∀ k ∈ onceViewKeys, k ∈ nodeStateKeys := by decide
    exact nodeEntry_kept hpres h (hnode key hmem) (fun hsame => haway hsame key hmem) context
  unfold onceView flowNodeStateString flowNodeStateTruthy
  rw [hkey _ (by decide), hkey _ (by decide), hkey _ (by decide)]

theorem scope_kept {other : WsOpenPositionPriceNodeSpec} {plain pres : List String}
    (hpres : pres ⊆ targetKeyPrefixes) {es : List ContextEdit}
    (h : ∀ e ∈ es, EditsTarget other plain pres e) {nodeKey : String}
    (haway : other.nodeKey = nodeKey → ∀ key ∈ "last_ws_market_slug" :: onceViewKeys, key ∉ plain)
    (context : Value) : ScopeKept nodeKey context (applyEdits es context) := by
  have hlast := @nodeEntry_kept other plain pres hpres es h nodeKey "last_ws_market_slug" (by decide)
    (fun hsame => haway hsame _ (List.mem_cons_self ..)) context
  refine ⟨onceView_kept hpres h (fun hsame key hmem => haway hsame key (List.mem_cons_of_mem _ hmem))
    context, ?_⟩
  unfold flowNodeStateString
  rw [hlast]

section Drafts
variable {α β : Type} {draft : α → Draft β} {target : α → WsOpenPositionPriceNodeSpec}
  {plain pres : List String}

theorem foldl_entry_kept (hplain : plain ⊆ nodeStateKeys) (hpres : pres ⊆ targetKeyPrefixes)
    (h : ∀ x, (draft x).All (EditsTarget (target x) plain pres)) (due : List α)
    (spec : WsOpenPositionPriceNodeSpec) {pre : String} (hpre : pre ∈ targetKeyPrefixes)
    (haway : pre ∉ pres) (context : Value) :
    flowNodeState (due.foldl (fun context x => (draft x).run context) context) spec.nodeKey
        (pre ++ spec.tokenId) =
      flowNodeState context spec.nodeKey (pre ++ spec.tokenId) := by
  induction due generalizing context with
  | nil => rfl
  | cons x rest ih =>
    rw [List.foldl_cons, ih]
    exact targetEntry_kept hplain hpres (h x context) hpre (fun _ => haway) context

theorem foldl_scope_kept (hpres : pres ⊆ targetKeyPrefixes)
    (h : ∀ x, (draft x).All (EditsTarget (target x) plain pres)) (due : List α)
    (haway : ∀ key ∈ "last_ws_market_slug" :: onceViewKeys, key ∉ plain) (nodeKey : String)
    (context : Value) :
    ScopeKept nodeKey context (due.foldl (fun context x => (draft x).run context) context) := by
  induction due generalizing context with
  | nil => exact .refl nodeKey context
  | cons x rest ih =>
    rw [List.foldl_cons]
    exact (scope_kept hpres (h x context) (fun _ => haway) context).trans (ih _)

end Drafts

theorem openingBlocked_congr {spec other : WsOpenPositionPriceNodeSpec}
    (hnode : other.nodeKey = spec.nodeKey) (hsettings : other.settings = spec.settings)
    {before after : Value} (h : ScopeKept spec.nodeKey before after) :
    openingBlocked other after = openingBlocked spec before := by
  have honce : other.onceMode = spec.onceMode := congrArg NodeSettings.onceMode hsettings
  have hscope : other.onceScopeMarket = spec.onceScopeMarket :=
    congrArg NodeSettings.onceScopeMarket hsettings
  have hslug : other.marketSlug = spec.marketSlug := congrArg NodeSettings.marketSlug hsettings
  unfold openingBlocked
  rw [onceFired_eq, onceFired_eq, honce, hscope, hslug, hnode, h.1]

section Boundary
variable {chrono : Chrono} {runId : ℤ} {spec other : WsOpenPositionPriceNodeSpec} {now : Instant}

theorem processBoundary_mark (windowMode marker : String) (quote : Option WsQuote) (context : Value) :
    flowNodeState ((processBoundary chrono runId other windowMode marker now quote).run context)
        other.nodeKey (cycleWindowBoundaryStateKey other) =
      if openingBlocked other context || quote.isSome then some (.string marker)
      else flowNodeState context other.nodeKey (cycleWindowBoundaryStateKey other) := by
  have hset : ∀ context, flowNodeState (setFlowNodeState context other.nodeKey
      (cycleWindowBoundaryStateKey other) (.string marker)) other.nodeKey
        (cycleWindowBoundaryStateKey other) = some (.string marker) := fun context => by
    rw [flowNodeState_setFlowNodeState, if_pos ⟨rfl, rfl⟩]
  cases hblocked : openingBlocked other context with
  | true =>
    rw [processBoundary_blocked chrono runId other windowMode marker now context hblocked, hset]
    rfl
  | false =>
    cases quote with
    | none =>
      rw [processBoundary_unpriced chrono runId other windowMode marker now context hblocked]
      exact targetEntry_kept (List.nil_subset _) (by decide) (recordLastEval_edits chrono other _ _ _ _
        context) (by decide) (fun _ => by decide) context
    | some q =>
      rw [processBoundary_priced chrono runId other windowMode marker now context hblocked]
      refine Eq.trans ?_ (hset context)
      exact targetEntry_kept (by decide) (by decide) (evaluateBoundary_edits chrono runId other _ _ q
        _) (by decide) (fun _ => by decide) _

/-- The window is marked as opened in the context. -/
def WindowMarked (spec : WsOpenPositionPriceNodeSpec) (marker : String) (context : Value) : Prop :=
  flowNodeStateString context spec.nodeKey (cycleWindowBoundaryStateKey spec) = some marker

theorem boundary_step {window window' : String × String}
    (hsettings : SameTarget spec other → other.settings = spec.settings)
    (hspec : openWindow spec now = some window) (hother : openWindow other now = some window')
    (quote : Option WsQuote) (context : Value) :
    WindowMarked spec window.2
        ((processBoundary chrono runId other window'.1 window'.2 now quote).run context) ↔
      WindowMarked spec window.2 context ∨
        SameTarget spec other ∧ (openingBlocked spec context || quote.isSome) = true := by
  have hedits := processBoundary_edits chrono runId other window'.1 window'.2 now quote context
  unfold WindowMarked
  by_cases hsame : SameTarget spec other
  · have hwindow : window' = window := by
      have := openWindow_congr (hsettings hsame) now
      rw [hspec, hother] at this
      exact Option.some.inj this
    obtain ⟨htrim, hblank⟩ := openWindow_trimmed hspec
    have hkey : cycleWindowBoundaryStateKey other = cycleWindowBoundaryStateKey spec :=
      congrArg (cycleWindowBoundaryMarkerPrefix ++ ·) hsame.2
    have hmark := @processBoundary_mark chrono runId other now window'.1 window'.2 quote context
    have hblocked := openingBlocked_congr hsame.1 (hsettings hsame) (.refl _ context)
    rw [hkey, hsame.1, hblocked, hwindow] at hmark
    rw [hwindow]
    unfold flowNodeStateString
    rw [hmark]
    cases hhit : openingBlocked spec context || quote.isSome with
    | true => simp [htrim, hblank, hsame]
    | false => simp
  · have hkept : flowNodeState ((processBoundary chrono runId other window'.1 window'.2 now
        quote).run context) spec.nodeKey (cycleWindowBoundaryStateKey spec) =
          flowNodeState context spec.nodeKey (cycleWindowBoundaryStateKey spec) :=
      targetEntry_kept (by decide) (by decide) hedits (by decide) (fun h => absurd h hsame) context
    unfold flowNodeStateString
    rw [hkept]
    simp [hsame]

end Boundary

/-! ### The passes of one run -/

section Run
variable (chrono : Chrono) (run : WsOpenPositionPriceRunSpec) (reads : TimerReads)

def afterBoundaries : Value :=
  (processDueBoundaries chrono run.runId reads (dueBoundaries run reads.now)).run run.context

def afterNotifications : Value :=
  (processDueNotifications chrono reads (dueMissedMarketNotifications run reads.now)).run
    (afterBoundaries chrono run reads)

def afterSells : Value :=
  (processDueSells run.runId reads.sell (dueWindowEndSells run reads.now)).run
    (afterNotifications chrono run reads)

theorem timers_run :
    (processTradeFlowTriggerMarketPriceTimers chrono run reads).run run.context =
      afterSells chrono run reads := by
  unfold processTradeFlowTriggerMarketPriceTimers
  dsimp only
  rw [Draft.bind_run, Draft.bind_run, Draft.bind_run]
  rfl

variable {run reads}

theorem mem_dueBoundaries {i : ℕ} {node : WsOpenPositionPriceNodeSpec} {window : String × String} :
    (i, node, window) ∈ dueBoundaries run reads.now ↔
      run.nodes[i]? = some node ∧
        cycleWindowBoundaryDueTarget run.context node reads.now = some window :=
  @mem_indexedDue _ run.nodes (cycleWindowBoundaryDueTarget run.context · reads.now) i node window

theorem mem_dueNotifications {i : ℕ} {node : WsOpenPositionPriceNodeSpec} {endAt : Instant} :
    (i, node, endAt) ∈ dueMissedMarketNotifications run reads.now ↔
      run.nodes[i]? = some node ∧
        missedMarketNotificationDueTarget run.context node reads.now = some endAt :=
  @mem_indexedDue _ run.nodes (missedMarketNotificationDueTarget run.context · reads.now) i node endAt

theorem mem_dueSells {node : WsOpenPositionPriceNodeSpec} {endAt : Instant} :
    (node, endAt) ∈ dueWindowEndSells run reads.now ↔
      node ∈ run.nodes ∧ cycleWindowEndSellDueTarget run.context node reads.now = some endAt := by
  simp [dueWindowEndSells]

end Run

theorem boundaryDue_openWindow {context : Value} {spec : WsOpenPositionPriceNodeSpec} {now : Instant}
    {window : String × String} (h : cycleWindowBoundaryDueTarget context spec now = some window) :
    openWindow spec now = some window := by
  rw [boundaryDue_eq] at h
  exact (Option.filter_eq_some_iff.mp h).1

section Boundaries
variable (chrono : Chrono) (run : WsOpenPositionPriceRunSpec) (reads : TimerReads)

theorem afterBoundaries_scope (nodeKey : String) :
    ScopeKept nodeKey run.context (afterBoundaries chrono run reads) := by
  unfold afterBoundaries
  rw [processDueBoundaries_run]
  exact foldl_scope_kept (by decide) (fun _ => processBoundary_edits chrono _ _ _ _ _ _) _ (by decide)
    nodeKey run.context

theorem afterBoundaries_entry (spec : WsOpenPositionPriceNodeSpec) {pre : String}
    (hpre : pre ∈ targetKeyPrefixes) (haway : pre ∉ cycleWindowBoundaryMarkerPrefix :: openingPrefixes) :
    flowNodeState (afterBoundaries chrono run reads) spec.nodeKey (pre ++ spec.tokenId) =
      flowNodeState run.context spec.nodeKey (pre ++ spec.tokenId) := by
  unfold afterBoundaries
  rw [processDueBoundaries_run]
  exact foldl_entry_kept (by decide) (by decide) (fun _ => processBoundary_edits chrono _ _ _ _ _ _) _
    spec hpre haway run.context

variable {spec : WsOpenPositionPriceNodeSpec} (hmem : spec ∈ run.nodes)
  (hsettings : ∀ other ∈ run.nodes, other.nodeKey = spec.nodeKey → other.settings = spec.settings)

include hsettings in
theorem afterBoundaries_marked {window : String × String}
    (hopen : openWindow spec reads.now = some window) :
    WindowMarked spec window.2 (afterBoundaries chrono run reads) ↔
      WindowMarked spec window.2 run.context ∨ ∃ target ∈ dueBoundaries run reads.now,
        SameTarget spec target.2.1 ∧
          (openingBlocked spec run.context || (reads.quote target.1).isSome) = true := by
  unfold afterBoundaries
  rw [processDueBoundaries_run]
  refine foldl_iff_exists_hit (I := ScopeKept spec.nodeKey run.context) ?_ ?_ (.refl _ _)
  · intro context target _ hkept
    exact hkept.trans (scope_kept (by decide) (processBoundary_edits chrono _ _ _ _ _ _ context)
      (fun _ => by decide) context)
  · rintro context ⟨i, other, window'⟩ hdue hkept
    obtain ⟨hnode, htarget⟩ := mem_dueBoundaries.mp hdue
    have hother : other ∈ run.nodes := List.mem_of_getElem? hnode
    have hblocked : openingBlocked spec context = openingBlocked spec run.context :=
      openingBlocked_congr rfl rfl hkept
    rw [← hblocked]
    exact boundary_step (fun hsame => hsettings other hother hsame.1) hopen
      (boundaryDue_openWindow htarget) (reads.quote i) context

/-- The window of the spec is marked as opened: its once scope is, or a price is known for one of
the specs of the target. -/
def OpeningSettled (run : WsOpenPositionPriceRunSpec) (reads : TimerReads)
    (spec : WsOpenPositionPriceNodeSpec) : Prop :=
  openingBlocked spec run.context = true ∨
    ∃ i other, run.nodes[i]? = some other ∧ SameTarget spec other ∧ (reads.quote i).isSome

include hmem hsettings in
theorem boundary_settled_iff {context : Value}
    (hkept : flowNodeState context spec.nodeKey (cycleWindowBoundaryStateKey spec) =
      flowNodeState (afterBoundaries chrono run reads) spec.nodeKey
        (cycleWindowBoundaryStateKey spec)) :
    (cycleWindowBoundaryDueTarget context spec reads.now).isSome = false ↔
      ((cycleWindowBoundaryDueTarget run.context spec reads.now).isSome = true →
        OpeningSettled run reads spec) := by
  cases hopen : openWindow spec reads.now with
  | none => simp [boundaryDue_eq, hopen]
  | some window =>
    have hdue : ∀ context, (cycleWindowBoundaryDueTarget context spec reads.now).isSome = true ↔
        ¬ WindowMarked spec window.2 context := by
      intro context
      rw [boundaryDue_eq, hopen]
      simp [WindowMarked, Option.filter_some]
    have hafter : WindowMarked spec window.2 context ↔
        WindowMarked spec window.2 (afterBoundaries chrono run reads) := by
      unfold WindowMarked flowNodeStateString
      rw [hkept]
    rw [← Bool.not_eq_true, hdue, hdue, not_not, hafter,
      afterBoundaries_marked chrono run reads hsettings hopen, or_iff_not_imp_left]
    refine imp_congr_right fun hunmarked => ?_
    have hfound : ∀ i other, run.nodes[i]? = some other → SameTarget spec other →
        (i, other, window) ∈ dueBoundaries run reads.now := by
      intro i other hnode hsame
      have hother := openWindow_congr (hsettings other (List.mem_of_getElem? hnode) hsame.1) reads.now
      refine mem_dueBoundaries.mpr ⟨hnode, ?_⟩
      rw [boundaryDue_eq, hother, hopen]
      unfold WindowMarked cycleWindowBoundaryStateKey at hunmarked
      unfold cycleWindowBoundaryStateKey
      rw [hsame.1, hsame.2]
      simpa [Option.filter_some] using hunmarked
    constructor
    · rintro ⟨⟨i, other, window'⟩, hdue, hsame, hhit⟩
      rcases Bool.or_eq_true_iff.mp hhit with hblocked | hquote
      · exact .inl hblocked
      · exact .inr ⟨i, other, (mem_dueBoundaries.mp hdue).1, hsame, hquote⟩
    · rintro (hblocked | ⟨i, other, hnode, hsame, hquote⟩)
      · obtain ⟨i, hnode⟩ := List.mem_iff_getElem?.mp hmem
        exact ⟨_, hfound i spec hnode ⟨rfl, rfl⟩, ⟨rfl, rfl⟩, by simp [hblocked]⟩
      · exact ⟨_, hfound i other hnode hsame, hsame, by simp [hquote]⟩

end Boundaries

/-! ### Missed market notifications -/

/-- The run that the notification is about was found. -/
def MissedMarketReads.runFound : MissedMarketReads → Bool
  | .runMissing => false
  | .alreadySent | .skipped _ | .attempted _ _ => true

/-- The end of the window that is over and the marker of its notification. -/
def endedWindow (spec : WsOpenPositionPriceNodeSpec) (now : Instant) : Option (Instant × String) := do
  let (_, endAt) ← cycleWindowBounds spec
  if now < endAt then none
  let marker ← missedMarketNotificationMarker spec endAt
  some (endAt, marker)

theorem notificationDue_eq (context : Value) (spec : WsOpenPositionPriceNodeSpec) (now : Instant) :
    missedMarketNotificationDueTarget context spec now =
      ((endedWindow spec now).filter fun window =>
        !missedMarketNotificationAlreadyMarked context spec window.2).map Prod.fst := by
  unfold missedMarketNotificationDueTarget endedWindow
  cases cycleWindowBounds spec with
  | none => rfl
  | some bounds =>
    simp only [Option.bind_eq_bind, Option.bind_some]
    split
    · rfl
    · cases missedMarketNotificationMarker spec bounds.2 with
      | none => rfl
      | some marker =>
        cases hmarked : missedMarketNotificationAlreadyMarked context spec marker <;>
          simp [Option.filter_some, hmarked]

theorem endedWindow_congr {spec other : WsOpenPositionPriceNodeSpec}
    (hsettings : other.settings = spec.settings) (htoken : other.tokenId = spec.tokenId)
    (now : Instant) : endedWindow other now = endedWindow spec now := by
  cases spec
  cases other
  cases hsettings
  cases htoken
  rfl

theorem endedWindow_marker {spec : WsOpenPositionPriceNodeSpec} {now : Instant}
    {window : Instant × String} (h : endedWindow spec now = some window) :
    missedMarketNotificationMarker spec window.1 = some window.2 := by
  unfold endedWindow at h
  simp only [Option.bind_eq_bind, Option.bind_eq_some_iff] at h
  obtain ⟨bounds, -, h⟩ := h
  split at h
  · cases h
  obtain ⟨marker, hmarker, heq⟩ := Option.bind_eq_some_iff.mp h
  cases heq
  exact hmarker

section Notification
variable (chrono : Chrono) {spec other : WsOpenPositionPriceNodeSpec} {now : Instant}

theorem notification_mark {endAt : Instant} {marker : String}
    (hmarker : missedMarketNotificationMarker other endAt = some marker) (reads : MissedMarketReads)
    (context : Value) :
    missedMarketNotificationAlreadyMarked
        ((maybeSendMissedMarketNoOrderNotification chrono other endAt now reads).run context) other
          marker =
      (missedMarketNotificationAlreadyMarked context other marker || reads.runFound) := by
  have hset : ∀ status reasonCode sent context, missedMarketNotificationAlreadyMarked
      (setFlowNodeState context other.nodeKey (missedMarketNotificationStateKey other) (.object [
        ("marker", .string marker), ("status", .string status), ("reason_code", .string reasonCode),
        ("sent", .bool sent), ("updated_at", .string (chrono.toRfc3339 now))])) other marker =
          true := by
    intro status reasonCode sent context
    unfold missedMarketNotificationAlreadyMarked
    rw [flowNodeState_setFlowNodeState, if_pos ⟨rfl, rfl⟩]
    simp [Value.get, Value.asStr, Value.fields, field]
  unfold maybeSendMissedMarketNoOrderNotification
  rw [hmarker]
  dsimp only
  rw [Draft.bind_run, Draft.read_fst, Draft.read_run]
  cases hmarked : missedMarketNotificationAlreadyMarked context other marker with
  | true =>
    rw [if_pos rfl]
    exact hmarked
  | false =>
    rw [if_neg (by simp)]
    cases reads with
    | alreadySent => exact hset _ _ _ _
    | skipped reasonCode => exact hset _ _ _ _
    | attempted sent reasonCode => exact hset _ _ _ _
    | runMissing => exact hmarked

/-- The notification is marked in the context. -/
def NotificationMarked (spec : WsOpenPositionPriceNodeSpec) (marker : String) (context : Value) :
    Prop :=
  missedMarketNotificationAlreadyMarked context spec marker = true

theorem NotificationMarked.congr {marker : String} {before after : Value}
    (h : flowNodeState after spec.nodeKey (missedMarketNotificationStateKey spec) =
      flowNodeState before spec.nodeKey (missedMarketNotificationStateKey spec)) :
    NotificationMarked spec marker after ↔ NotificationMarked spec marker before := by
  unfold NotificationMarked missedMarketNotificationAlreadyMarked
  rw [h]

theorem notification_step {window window' : Instant × String}
    (hsettings : SameTarget spec other → other.settings = spec.settings)
    (hspec : endedWindow spec now = some window) (hother : endedWindow other now = some window')
    (reads : MissedMarketReads) (context : Value) :
    NotificationMarked spec window.2 ((maybeSendMissedMarketNoOrderNotification chrono other window'.1
        now reads).run context) ↔
      NotificationMarked spec window.2 context ∨ SameTarget spec other ∧ reads.runFound = true := by
  by_cases hsame : SameTarget spec other
  · have hwindow : window' = window := by
      have hended := endedWindow_congr (hsettings hsame) hsame.2 now
      rw [hspec, hother] at hended
      exact Option.some.inj hended
    have hread : ∀ context, missedMarketNotificationAlreadyMarked context spec window.2 =
        missedMarketNotificationAlreadyMarked context other window.2 := by
      intro context
      unfold missedMarketNotificationAlreadyMarked missedMarketNotificationStateKey
      rw [hsame.1, hsame.2]
    have hmark := @notification_mark chrono other now _ _ (endedWindow_marker hother) reads context
    unfold NotificationMarked
    rw [hwindow] at hmark ⊢
    rw [hread, hread, hmark, Bool.or_eq_true]
    simp [hsame]
  · have hkept : flowNodeState ((maybeSendMissedMarketNoOrderNotification chrono other window'.1 now
        reads).run context) spec.nodeKey (missedMarketNotificationStateKey spec) =
          flowNodeState context spec.nodeKey (missedMarketNotificationStateKey spec) :=
      @targetEntry_kept spec other _ _ (List.nil_subset _) (by decide) _
        (notification_edits chrono other window'.1 now reads context)
        missedMarketNotificationStatePrefix (by decide) (fun h => absurd h hsame) context
    rw [NotificationMarked.congr hkept]
    simp [hsame]

end Notification

section Notifications
variable (chrono : Chrono) (run : WsOpenPositionPriceRunSpec) (reads : TimerReads)

theorem afterNotifications_scope (nodeKey : String) :
    ScopeKept nodeKey (afterBoundaries chrono run reads) (afterNotifications chrono run reads) := by
  unfold afterNotifications
  rw [processDueNotifications_run]
  exact foldl_scope_kept (by decide) (fun _ => notification_edits chrono _ _ _ _) _ (by decide) nodeKey _

theorem afterNotifications_entry (spec : WsOpenPositionPriceNodeSpec) {pre : String}
    (hpre : pre ∈ targetKeyPrefixes) (haway : pre ∉ [missedMarketNotificationStatePrefix]) :
    flowNodeState (afterNotifications chrono run reads) spec.nodeKey (pre ++ spec.tokenId) =
      flowNodeState (afterBoundaries chrono run reads) spec.nodeKey (pre ++ spec.tokenId) := by
  unfold afterNotifications
  rw [processDueNotifications_run]
  exact foldl_entry_kept (by decide) (by decide) (fun _ => notification_edits chrono _ _ _ _) _ spec hpre
    haway _

variable {spec : WsOpenPositionPriceNodeSpec} (hmem : spec ∈ run.nodes)
  (hsettings : ∀ other ∈ run.nodes, other.nodeKey = spec.nodeKey → other.settings = spec.settings)

theorem notificationDue_endedWindow {context : Value} {endAt : Instant} {now : Instant}
    (h : missedMarketNotificationDueTarget context spec now = some endAt) :
    ∃ marker, endedWindow spec now = some (endAt, marker) := by
  rw [notificationDue_eq] at h
  obtain ⟨⟨endAt', marker⟩, hfilter, rfl⟩ := Option.map_eq_some_iff.mp h
  exact ⟨marker, (Option.filter_eq_some_iff.mp hfilter).1⟩

include hsettings in
theorem afterNotifications_marked {window : Instant × String}
    (hended : endedWindow spec reads.now = some window) :
    NotificationMarked spec window.2 (afterNotifications chrono run reads) ↔
      NotificationMarked spec window.2 (afterBoundaries chrono run reads) ∨
        ∃ target ∈ dueMissedMarketNotifications run reads.now,
          SameTarget spec target.2.1 ∧ (reads.missedMarket target.1).runFound = true := by
  unfold afterNotifications
  rw [processDueNotifications_run]
  refine foldl_iff_exists_hit (I := fun _ => True) (fun _ _ _ _ => trivial) ?_ trivial
  rintro context ⟨i, other, endAt⟩ hdue -
  obtain ⟨hnode, htarget⟩ := mem_dueNotifications.mp hdue
  obtain ⟨marker, hother⟩ := notificationDue_endedWindow htarget
  exact notification_step chrono (fun hsame => hsettings other (List.mem_of_getElem? hnode) hsame.1)
    hended hother (reads.missedMarket i) context

/-- The notification is marked for one of the specs of the target, whose run is found. -/
def NotificationSettled (run : WsOpenPositionPriceRunSpec) (reads : TimerReads)
    (spec : WsOpenPositionPriceNodeSpec) : Prop :=
  ∃ i other, run.nodes[i]? = some other ∧ SameTarget spec other ∧ (reads.missedMarket i).runFound

include hsettings in
theorem notification_settled_iff {context : Value}
    (hkept : flowNodeState context spec.nodeKey (missedMarketNotificationStateKey spec) =
      flowNodeState (afterNotifications chrono run reads) spec.nodeKey
        (missedMarketNotificationStateKey spec))
    (hbefore : flowNodeState (afterBoundaries chrono run reads) spec.nodeKey
        (missedMarketNotificationStateKey spec) =
      flowNodeState run.context spec.nodeKey (missedMarketNotificationStateKey spec)) :
    (missedMarketNotificationDueTarget context spec reads.now).isSome = false ↔
      ((missedMarketNotificationDueTarget run.context spec reads.now).isSome = true →
        NotificationSettled run reads spec) := by
  cases hended : endedWindow spec reads.now with
  | none => simp [notificationDue_eq, hended]
  | some window =>
    have hdue : ∀ context, (missedMarketNotificationDueTarget context spec reads.now).isSome = true ↔
        ¬ NotificationMarked spec window.2 context := by
      intro context
      rw [notificationDue_eq, hended]
      simp [NotificationMarked, Option.filter_some]
    rw [← Bool.not_eq_true, hdue, hdue, not_not, NotificationMarked.congr hkept,
      afterNotifications_marked chrono run reads hsettings hended, NotificationMarked.congr hbefore,
      or_iff_not_imp_left]
    refine imp_congr_right fun hunmarked => ?_
    constructor
    · rintro ⟨⟨i, other, endAt⟩, htarget, hsame, hfound⟩
      exact ⟨i, other, (mem_dueNotifications.mp htarget).1, hsame, hfound⟩
    · rintro ⟨i, other, hnode, hsame, hfound⟩
      have hother := endedWindow_congr (hsettings other (List.mem_of_getElem? hnode) hsame.1) hsame.2
        reads.now
      refine ⟨(i, other, window.1), mem_dueNotifications.mpr ⟨hnode, ?_⟩, hsame, hfound⟩
      rw [notificationDue_eq, hother, hended]
      unfold NotificationMarked missedMarketNotificationAlreadyMarked
        missedMarketNotificationStateKey at hunmarked
      unfold missedMarketNotificationAlreadyMarked missedMarketNotificationStateKey
      rw [hsame.1, hsame.2]
      rw [Option.filter_some, if_pos (by simpa using hunmarked)]
      rfl

end Notifications

/-! ### Sells at the end of a window -/

/-- The lookups of the output and the queue itself answer. -/
structure SellReads.Succeed (reads : SellReads) : Prop where
  output : ∀ nodeKey, (reads.latestPlaceOrderOutput nodeKey).isSome
  enqueue : ∀ key, reads.enqueueOk key = true

section Sells
variable (chrono : Chrono) (run : WsOpenPositionPriceRunSpec) (reads : TimerReads)
  {spec other : WsOpenPositionPriceNodeSpec}

/-- The sell is marked in the context. -/
def SellMarked (spec : WsOpenPositionPriceNodeSpec) (context : Value) : Prop :=
  flowNodeStateTruthy context spec.nodeKey (cycleWindowEndSellStateKey spec) = true

theorem windowEndSell_marks (h : reads.sell.Succeed) (endAt : Instant) (context : Value) :
    SellMarked spec ((processWindowEndSell run.runId reads.sell spec endAt).run context) := by
  have hset : ∀ x rest context, SellMarked spec (setFlowNodeState context spec.nodeKey
      (cycleWindowEndSellStateKey spec) (.object (x :: rest))) := by
    intro x rest context
    unfold SellMarked flowNodeStateTruthy
    rw [flowNodeState_setFlowNodeState, if_pos ⟨rfl, rfl⟩]
    rfl
  unfold processWindowEndSell
  extract_lets mark
  split
  · rename_i hfailed
    have houtput := h.output spec.nodeKey
    unfold windowEndSellDecision at hfailed
    split at hfailed
    · rename_i hnone
      rw [hnone] at houtput
      cases houtput
    · cases hfailed
    · split at hfailed
      · cases hfailed
      split at hfailed
      · cases hfailed
      · split at hfailed <;> cases hfailed
  · exact hset _ _ context
  · rename_i request hrequest
    rw [if_pos (h.enqueue _)]
    exact hset _ _ context

theorem windowEndSell_step (h : reads.sell.Succeed) (endAt : Instant) (context : Value) :
    SellMarked spec ((processWindowEndSell run.runId reads.sell other endAt).run context) ↔
      SellMarked spec context ∨ SameTarget spec other := by
  by_cases hsame : SameTarget spec other
  · have hmarks := @windowEndSell_marks run reads other h endAt context
    refine iff_of_true ?_ (.inr hsame)
    unfold SellMarked cycleWindowEndSellStateKey at hmarks ⊢
    rwa [hsame.1, hsame.2] at hmarks
  · have hkept : flowNodeState ((processWindowEndSell run.runId reads.sell other endAt).run context)
        spec.nodeKey (cycleWindowEndSellStateKey spec) =
          flowNodeState context spec.nodeKey (cycleWindowEndSellStateKey spec) :=
      targetEntry_kept (List.nil_subset _) (by decide)
        (windowEndSell_edits run.runId other reads.sell endAt context) (by decide)
        (fun h => absurd h hsame) context
    unfold SellMarked flowNodeStateTruthy
    rw [hkept]
    simp [hsame]

theorem afterSells_scope (nodeKey : String) :
    ScopeKept nodeKey (afterNotifications chrono run reads) (afterSells chrono run reads) := by
  unfold afterSells
  rw [processDueSells_run]
  exact foldl_scope_kept (by decide) (fun _ => windowEndSell_edits _ _ _ _) _ (by decide) nodeKey _

theorem afterSells_entry (spec : WsOpenPositionPriceNodeSpec) {pre : String}
    (hpre : pre ∈ targetKeyPrefixes) (haway : pre ∉ [cycleWindowEndSellMarkerPrefix]) :
    flowNodeState (afterSells chrono run reads) spec.nodeKey (pre ++ spec.tokenId) =
      flowNodeState (afterNotifications chrono run reads) spec.nodeKey (pre ++ spec.tokenId) := by
  unfold afterSells
  rw [processDueSells_run]
  exact foldl_entry_kept (by decide) (by decide) (fun _ => windowEndSell_edits _ _ _ _) _ spec hpre haway
    _

theorem afterSells_marked (h : reads.sell.Succeed) :
    SellMarked spec (afterSells chrono run reads) ↔
      SellMarked spec (afterNotifications chrono run reads) ∨
        ∃ target ∈ dueWindowEndSells run reads.now, SameTarget spec target.1 := by
  unfold afterSells
  rw [processDueSells_run]
  exact foldl_iff_exists_hit (I := fun _ => True) (fun _ _ _ _ => trivial)
    (fun context target _ _ => windowEndSell_step run reads h target.2 context) trivial

/-- All that a due sell depends on besides the mark. -/
def SellWanted (spec : WsOpenPositionPriceNodeSpec) (view : OnceView) (now endAt : Instant) : Prop :=
  spec.autoSellOnWindowEnd = true ∧ (∃ openAt, cycleWindowBounds spec = some (openAt, endAt)) ∧
    endAt ≤ now ∧ view.fired = true ∧ ∀ fired ∈ view.firedSlug, spec.marketSlug = some fired

theorem sellDue_iff {context : Value} {now endAt : Instant} :
    cycleWindowEndSellDueTarget context spec now = some endAt ↔
      SellWanted spec (onceView context spec.nodeKey) now endAt ∧ ¬ SellMarked spec context := by
  unfold cycleWindowEndSellDueTarget SellWanted SellMarked onceView
  cases spec.autoSellOnWindowEnd with
  | false => simp
  | true =>
    cases cycleWindowBounds spec with
    | none => simp
    | some bounds =>
      obtain ⟨openAt, ended⟩ := bounds
      cases flowNodeStateTruthy context spec.nodeKey onceFiredKey <;>
        cases flowNodeStateString context spec.nodeKey onceFiredMarketSlugKey <;>
        cases flowNodeStateTruthy context spec.nodeKey (cycleWindowEndSellStateKey spec) <;>
        simp
      all_goals grind

/-- The context reads no fresher firing of the node than the other does. -/
def FiredKept (nodeKey : String) (before after : Value) : Prop :=
  (onceView after nodeKey).fired = true → (onceView before nodeKey).fired = true ∧
    (onceView after nodeKey).firedSlug = (onceView before nodeKey).firedSlug

variable (hmem : spec ∈ run.nodes) in
include hmem in
theorem sell_settled (h : reads.sell.Succeed) {context : Value}
    (hkept : flowNodeState context spec.nodeKey (cycleWindowEndSellStateKey spec) =
      flowNodeState (afterSells chrono run reads) spec.nodeKey (cycleWindowEndSellStateKey spec))
    (hbefore : flowNodeState (afterNotifications chrono run reads) spec.nodeKey
        (cycleWindowEndSellStateKey spec) =
      flowNodeState run.context spec.nodeKey (cycleWindowEndSellStateKey spec))
    (hfired : FiredKept spec.nodeKey run.context context) :
    (cycleWindowEndSellDueTarget context spec reads.now).isSome = false := by
  have hcongr : ∀ {a b : Value}, flowNodeState a spec.nodeKey (cycleWindowEndSellStateKey spec) =
      flowNodeState b spec.nodeKey (cycleWindowEndSellStateKey spec) →
        (SellMarked spec a ↔ SellMarked spec b) := by
    intro a b hentry
    unfold SellMarked flowNodeStateTruthy
    rw [hentry]
  by_contra hdue
  obtain ⟨endAt, hendAt⟩ := Option.isSome_iff_exists.mp (Bool.eq_true_of_not_eq_false hdue)
  obtain ⟨⟨hauto, hbounds, hended, hnow, hslug⟩, hunmarked⟩ := sellDue_iff.mp hendAt
  obtain ⟨hbeforeFired, hsame⟩ := hfired hnow
  have hfirst : ¬ SellMarked spec run.context := by
    rw [hcongr hkept, afterSells_marked chrono run reads h, hcongr hbefore] at hunmarked
    exact fun hmarked => hunmarked (.inl hmarked)
  have hdueBefore : cycleWindowEndSellDueTarget run.context spec reads.now = some endAt :=
    sellDue_iff.mpr ⟨⟨hauto, hbounds, hended, hbeforeFired, hsame ▸ hslug⟩, hfirst⟩
  rw [hcongr hkept, afterSells_marked chrono run reads h] at hunmarked
  exact hunmarked (.inr ⟨(spec, endAt), mem_dueSells.mpr ⟨hmem, hdueBefore⟩, rfl, rfl⟩)

end Sells

/-! ### Pending confirmations -/

/-- The quote is no older than the pass, and its instant is read back as it is written. -/
structure QuoteKeepsTime (chrono : Chrono) (now : Instant) (quote : WsQuote) : Prop where
  notBefore : now ≤ quote.now
  trimmed : trim (chrono.toRfc3339 quote.now) = chrono.toRfc3339 quote.now
  parsed : chrono.parseFromRfc3339 (chrono.toRfc3339 quote.now) = some quote.now

/-- The deadline of the spec has not passed. -/
def Timely (chrono : Chrono) (now : Instant) (spec : WsOpenPositionPriceNodeSpec)
    (context : Value) : Prop :=
  (cycleWindowConfirmationDeadline chrono context spec).any (· ≤ now) = false

section Timely
variable {chrono : Chrono} {now : Instant} {spec other : WsOpenPositionPriceNodeSpec}

theorem deadline_eq (context : Value) : cycleWindowConfirmationDeadline chrono context spec =
    (marketPriceConfirmationMs spec).bind fun ms => (pendingAt spec context).bind fun raw =>
      (chrono.parseFromRfc3339 raw).map (· + 1000000 * ms) := by
  unfold cycleWindowConfirmationDeadline pendingAt
  cases marketPriceConfirmationMs spec with
  | none => rfl
  | some ms =>
    cases flowNodeStateString context spec.nodeKey (crossPendingAtKey spec.tokenId) with
    | none => rfl
    | some raw => cases hparse : chrono.parseFromRfc3339 raw <;> simp [hparse]

theorem deadline_congr {before after : Value} (h : pendingAt spec after = pendingAt spec before) :
    cycleWindowConfirmationDeadline chrono after spec =
      cycleWindowConfirmationDeadline chrono before spec := by
  rw [deadline_eq, deadline_eq, h]

theorem Timely.congr {before after : Value} (h : pendingAt spec after = pendingAt spec before) :
    Timely chrono now spec after ↔ Timely chrono now spec before := by
  unfold Timely
  rw [deadline_congr h]

theorem Timely.of_none {context : Value} (h : pendingAt spec context = none) :
    Timely chrono now spec context := by
  unfold Timely
  rw [deadline_eq, h]
  cases marketPriceConfirmationMs spec <;> rfl

theorem confirmationMs_pos {ms : ℤ} (h : marketPriceConfirmationMs spec = some ms) : 0 < ms := by
  unfold marketPriceConfirmationMs at h
  split at h
  · cases h
  · simpa using (Option.filter_eq_some_iff.mp h).2

theorem Timely.of_started {context : Value} {quote : WsQuote} {t : Instant}
    (hq : QuoteKeepsTime chrono now quote) (ht : t < now + 1000000)
    (h : flowNodeState context spec.nodeKey (crossPendingAtKey spec.tokenId) =
      some (.string (chrono.toRfc3339 quote.now))) : Timely chrono t spec context := by
  have hpending : pendingAt spec context =
      (some (chrono.toRfc3339 quote.now)).filter (· ≠ "") := by
    unfold pendingAt flowNodeStateString
    rw [h]
    simp only [hq.trimmed]
  unfold Timely
  rw [deadline_eq, hpending]
  cases hms : marketPriceConfirmationMs spec with
  | none => rfl
  | some ms =>
    have hpos := confirmationMs_pos hms
    by_cases hblank : chrono.toRfc3339 quote.now = ""
    · simp [Option.filter_some, hblank]
    · have hlong : 1000000 ≤ 1000000 * ms := by omega
      have hlater : ¬ quote.now + 1000000 * ms ≤ t :=
        not_le.mpr (ht.trans_le (add_le_add hq.notBefore hlong))
      simp [Option.filter_some, hblank, hq.parsed, hlater]

theorem sameTarget_reads (chrono : Chrono) (hsame : SameTarget spec other)
    (hsettings : other.settings = spec.settings) :
    (∀ context, pendingAt other context = pendingAt spec context) ∧
      (∀ context, tickPreviousPrice other context = tickPreviousPrice spec context) ∧
      ∀ context, cycleWindowConfirmationDeadline chrono context other =
        cycleWindowConfirmationDeadline chrono context spec := by
  have htype : other.nodeType = spec.nodeType := congrArg NodeSettings.nodeType hsettings
  have hms : other.confirmationMs = spec.confirmationMs :=
    congrArg NodeSettings.confirmationMs hsettings
  unfold pendingAt tickPreviousPrice cycleWindowConfirmationDeadline marketPriceConfirmationMs
  rw [hsame.1, hsame.2, htype, hms]
  exact ⟨fun _ => rfl, fun _ => rfl, fun _ => rfl⟩

theorem Timely.sameTarget (hsame : SameTarget spec other) (hsettings : other.settings = spec.settings)
    (context : Value) : Timely chrono now other context ↔ Timely chrono now spec context := by
  unfold Timely
  rw [(sameTarget_reads chrono hsame hsettings).2.2]

theorem pendingAt_entry {before after : Value}
    (h : flowNodeState after spec.nodeKey (crossPendingAtKey spec.tokenId) =
      flowNodeState before spec.nodeKey (crossPendingAtKey spec.tokenId)) :
    pendingAt spec after = pendingAt spec before := by
  unfold pendingAt flowNodeStateString
  rw [h]

theorem tickPreviousPrice_congr {before after : Value}
    (h : flowNodeState after spec.nodeKey (previousPriceKey spec.tokenId) =
      flowNodeState before spec.nodeKey (previousPriceKey spec.tokenId)) :
    tickPreviousPrice spec after = tickPreviousPrice spec before := by
  unfold tickPreviousPrice
  rw [h]

theorem previousPrice_kept {pres : List String} (hpres : pres ⊆ targetKeyPrefixes)
    (haway : "previous_price_" ∉ pres) {es : List ContextEdit}
    (h : ∀ e ∈ es, EditsTarget spec [] pres e) (context : Value) :
    tickPreviousPrice spec (applyEdits es context) = tickPreviousPrice spec context :=
  tickPreviousPrice_congr
    (targetEntry_kept (List.nil_subset _) hpres h (by decide) (fun _ => haway) context)

end Timely

/-- The opening of the window starts a confirmation. -/
def restartsConfirmation (spec : WsOpenPositionPriceNodeSpec) (windowMode : String)
    (quote : Option WsQuote) (context : Value) : Bool :=
  !openingBlocked spec context && quote.any fun q =>
    (boundaryCondition spec windowMode q.price).any Prod.fst && confirmsCrossings spec

section Opening
variable {chrono : Chrono} {now t : Instant} {spec other : WsOpenPositionPriceNodeSpec}
  {quote : WsQuote}

theorem startConfirmation_pending (quote : WsQuote) (price previous : Value) (context : Value) :
    flowNodeState (setFlowNodeState (setFlowNodeState (setFlowNodeState context spec.nodeKey
        (crossPendingAtKey spec.tokenId) (.string (chrono.toRfc3339 quote.now))) spec.nodeKey
          (crossPendingPriceKey spec.tokenId) price) spec.nodeKey (crossPendingPrevKey spec.tokenId)
            previous) spec.nodeKey (crossPendingAtKey spec.tokenId) =
      some (.string (chrono.toRfc3339 quote.now)) := by
  rw [flowNodeState_setFlowNodeState, if_neg fun h => crossPendingPrevKey_ne _ _ h.2.symm,
    flowNodeState_setFlowNodeState, if_neg fun h => crossPendingPriceKey_ne _ _ h.2.symm,
    flowNodeState_setFlowNodeState, if_pos ⟨rfl, rfl⟩]

theorem recordLastEval_pendingAt (diagnostics : Option CycleWindowEvalDiagnostics) (result : String)
    (price : Option ℚ) (mode : Option String) (context : Value) :
    pendingAt spec ((recordLastEval chrono spec diagnostics result price mode).run context) =
      pendingAt spec context :=
  pendingAt_entry (targetEntry_kept (List.nil_subset _) (by decide)
    (recordLastEval_edits chrono spec diagnostics result price mode context) (by decide)
    (fun _ => by decide) context)

theorem openBoundary_pendingAt (runId : ℤ) (windowMode : String)
    (diagnostics : Option CycleWindowEvalDiagnostics) (quote : WsQuote) (mode : String)
    (hplain : confirmsCrossings spec = false) (context : Value) :
    pendingAt spec ((openBoundary chrono runId spec windowMode diagnostics quote mode).run context) =
      pendingAt spec context := by
  have hrecord := @recordLastEval_pendingAt chrono spec diagnostics
  unfold openBoundary
  dsimp only
  rw [Draft.bind_run, ← hrecord "matched" (some quote.price) (some mode) context]
  unfold confirmsCrossings at hplain
  rw [if_neg (by simp [hplain])]
  by_cases hblocked : ((triggerMarketPriceGateMode spec = some .ptbOnly ||
      triggerMarketPriceGateMode spec = some .standardAndPtb) && !quote.ptbGatePassed) = true
  · rw [if_pos hblocked, Draft.bind_run]
    exact hrecord _ _ _ _
  · rw [if_neg hblocked]
    rfl

theorem openBoundary_restarts (hquote : QuoteKeepsTime chrono now quote) (ht : t < now + 1000000)
    (runId : ℤ) (windowMode : String) (diagnostics : Option CycleWindowEvalDiagnostics) (mode : String)
    (hconfirms : confirmsCrossings spec = true) (context : Value) :
    Timely chrono t spec
      ((openBoundary chrono runId spec windowMode diagnostics quote mode).run context) := by
  unfold openBoundary
  dsimp only
  rw [Draft.bind_run]
  unfold confirmsCrossings at hconfirms
  rw [if_pos hconfirms]
  exact Timely.of_started hquote ht (startConfirmation_pending quote _ _ _)

theorem evaluateBoundary_pendingAt (runId : ℤ) (windowMode : String)
    (diagnostics : Option CycleWindowEvalDiagnostics) (quote : WsQuote)
    (hplain : ((boundaryCondition spec windowMode quote.price).any Prod.fst &&
      confirmsCrossings spec) = false) (context : Value) :
    pendingAt spec ((evaluateBoundary chrono runId spec windowMode diagnostics quote).run context) =
      pendingAt spec context := by
  have hprice := pendingAt_spared (recordPrice_keeps spec quote.price context) context
  unfold evaluateBoundary
  rw [Draft.bind_run]
  cases hcondition : boundaryCondition spec windowMode quote.price with
  | none => exact hprice
  | some verdict =>
    obtain ⟨met, mode⟩ := verdict
    rw [hcondition] at hplain
    cases met with
    | false =>
      dsimp only
      rw [Draft.bind_run]
      exact (recordLastEval_pendingAt diagnostics _ _ _ _).trans hprice
    | true =>
      exact (openBoundary_pendingAt runId windowMode diagnostics quote mode hplain _).trans hprice

theorem processBoundary_pendingAt (runId : ℤ) (windowMode marker : String) {quote : Option WsQuote}
    {context : Value} (hplain : restartsConfirmation spec windowMode quote context = false) :
    pendingAt spec ((processBoundary chrono runId spec windowMode marker now quote).run context) =
      pendingAt spec context := by
  have hset : ∀ context, pendingAt spec (setFlowNodeState context spec.nodeKey
      (cycleWindowBoundaryStateKey spec) (.string marker)) = pendingAt spec context := by
    intro context
    have hmarker : (Draft.set spec.nodeKey (cycleWindowBoundaryStateKey spec) (.string marker)).All
        (EditsTarget spec [] [cycleWindowBoundaryMarkerPrefix]) := setToken_edits (by decide) _
    exact pendingAt_entry (targetEntry_kept (List.nil_subset _) (by decide) (hmarker context)
      (by decide) (fun _ => by decide) context)
  unfold restartsConfirmation at hplain
  cases hblocked : openingBlocked spec context with
  | true =>
    rw [processBoundary_blocked chrono runId spec windowMode marker now context hblocked, hset]
  | false =>
    cases quote with
    | none =>
      rw [processBoundary_unpriced chrono runId spec windowMode marker now context hblocked,
        recordLastEval_pendingAt]
    | some q =>
      rw [processBoundary_priced chrono runId spec windowMode marker now context hblocked,
        evaluateBoundary_pendingAt runId windowMode _ q (by simpa [hblocked] using hplain), hset]

theorem processBoundary_restarts (ht : t < now + 1000000) (runId : ℤ) (windowMode marker : String)
    {quote : Option WsQuote} (hquote : ∀ q ∈ quote, QuoteKeepsTime chrono now q) {context : Value}
    (h : restartsConfirmation spec windowMode quote context = true) :
    Timely chrono t spec
      ((processBoundary chrono runId spec windowMode marker now quote).run context) := by
  unfold restartsConfirmation at h
  rw [Bool.and_eq_true, Bool.not_eq_true'] at h
  obtain ⟨hblocked, hopens⟩ := h
  cases quote with
  | none => cases hopens
  | some q =>
    rw [Option.any_some, Bool.and_eq_true] at hopens
    rw [processBoundary_priced chrono runId spec windowMode marker now context hblocked]
    unfold evaluateBoundary
    rw [Draft.bind_run]
    cases hcondition : boundaryCondition spec windowMode q.price with
    | none => simp [hcondition] at hopens
    | some verdict =>
      obtain ⟨met, mode⟩ := verdict
      rw [hcondition] at hopens
      cases met with
      | false => cases hopens.1
      | true => exact openBoundary_restarts (hquote q rfl) ht runId windowMode _ mode hopens.2 _

theorem tickPreviousPrice_recorded (price : ℚ) (context : Value) :
    tickPreviousPrice spec ((recordPrice spec price).run context) = some price := by
  unfold tickPreviousPrice recordPrice
  rw [Draft.bind_run, Draft.set_run, Draft.set_run, flowNodeState_setFlowNodeState,
    if_pos ⟨rfl, rfl⟩]
  rfl

theorem evaluateBoundary_previousPrice (runId : ℤ) (windowMode : String)
    (diagnostics : Option CycleWindowEvalDiagnostics) (quote : WsQuote) (context : Value) :
    tickPreviousPrice spec
        ((evaluateBoundary chrono runId spec windowMode diagnostics quote).run context) =
      some quote.price := by
  have hrecorded := @tickPreviousPrice_recorded spec quote.price context
  unfold evaluateBoundary
  rw [Draft.bind_run]
  cases boundaryCondition spec windowMode quote.price with
  | none => exact hrecorded
  | some verdict =>
    obtain ⟨met, mode⟩ := verdict
    cases met with
    | false =>
      dsimp only
      rw [Draft.bind_run]
      exact (previousPrice_kept (by decide) (by decide) (recordLastEval_edits chrono spec _ _ _ _ _)
        _).trans hrecorded
    | true =>
      exact (previousPrice_kept (by decide) (by decide) (openBoundary_edits chrono runId spec
        windowMode diagnostics quote mode _) _).trans hrecorded

end Opening

section Openings
variable (chrono : Chrono) (run : WsOpenPositionPriceRunSpec) {reads : TimerReads}
  {spec other : WsOpenPositionPriceNodeSpec} {t : Instant}

theorem restartsConfirmation_congr (windowMode : String) (quote : Option WsQuote)
    {before after : Value} (h : ScopeKept spec.nodeKey before after) :
    restartsConfirmation spec windowMode quote after =
      restartsConfirmation spec windowMode quote before := by
  unfold restartsConfirmation
  rw [openingBlocked_congr rfl rfl h]

/-- Some opening of the spec's target starts its confirmation anew. -/
def Restarted (run : WsOpenPositionPriceRunSpec) (reads : TimerReads)
    (spec : WsOpenPositionPriceNodeSpec) : Prop :=
  ∃ target ∈ dueBoundaries run reads.now, SameTarget spec target.2.1 ∧
    restartsConfirmation target.2.1 target.2.2.1 (reads.quote target.1) run.context = true

theorem opening_pendingAt {other : WsOpenPositionPriceNodeSpec} (windowMode marker : String)
    {quote : Option WsQuote} (hsettings : SameTarget spec other → other.settings = spec.settings)
    {context : Value} (hkept : ScopeKept other.nodeKey run.context context)
    (h : ¬ (SameTarget spec other ∧
      restartsConfirmation other windowMode quote run.context = true)) :
    pendingAt spec ((processBoundary chrono run.runId other windowMode marker reads.now
      quote).run context) = pendingAt spec context := by
  by_cases hsame : SameTarget spec other
  · obtain ⟨hpending, -, -⟩ := sameTarget_reads chrono hsame (hsettings hsame)
    rw [← hpending, ← hpending]
    refine processBoundary_pendingAt run.runId windowMode marker ?_
    rw [restartsConfirmation_congr windowMode quote hkept]
    simpa [hsame] using h
  · exact pendingAt_entry (targetEntry_kept (by decide) (by decide)
      (processBoundary_edits chrono run.runId other windowMode marker reads.now quote context)
      (by decide) (fun h => absurd h hsame) context)

/-- The price that an opening records for the target it is of. -/
def openingPrice (run : WsOpenPositionPriceRunSpec) (reads : TimerReads)
    (spec : WsOpenPositionPriceNodeSpec)
    (target : ℕ × WsOpenPositionPriceNodeSpec × String × String) : Option ℚ :=
  if SameTarget spec target.2.1 ∧ openingBlocked spec run.context = false then
    (reads.quote target.1).map (·.price)
  else none

/-- The price before the first tick of the spec's target: that of the last opening with a price,
or what the context has kept. -/
def openedPrice (run : WsOpenPositionPriceRunSpec) (reads : TimerReads)
    (spec : WsOpenPositionPriceNodeSpec) : Option ℚ :=
  ((dueBoundaries run reads.now).filterMap (openingPrice run reads spec)).getLast?.or
    (tickPreviousPrice spec run.context)

theorem opening_previousPrice {other : WsOpenPositionPriceNodeSpec} (windowMode marker : String)
    (quote : Option WsQuote) (hsettings : SameTarget spec other → other.settings = spec.settings)
    {context : Value} (hkept : ScopeKept spec.nodeKey run.context context) :
    tickPreviousPrice spec ((processBoundary chrono run.runId other windowMode marker reads.now
        quote).run context) =
      (if SameTarget spec other ∧ openingBlocked spec run.context = false then
        quote.map (·.price) else none).or (tickPreviousPrice spec context) := by
  by_cases hsame : SameTarget spec other
  · obtain ⟨-, hprevious, -⟩ := sameTarget_reads chrono hsame (hsettings hsame)
    have hblocked : openingBlocked other context = openingBlocked spec run.context :=
      openingBlocked_congr hsame.1 (hsettings hsame) hkept
    have hset : ∀ context, tickPreviousPrice other (setFlowNodeState context other.nodeKey
        (cycleWindowBoundaryStateKey other) (.string marker)) = tickPreviousPrice other context := by
      intro context
      exact @previousPrice_kept other [cycleWindowBoundaryMarkerPrefix] (by decide) (by decide) _
        (setToken_edits (by decide) _ context) context
    rw [← hprevious, ← hprevious]
    cases hcase : openingBlocked spec run.context with
    | true =>
      rw [processBoundary_blocked chrono run.runId other windowMode marker reads.now context
        (hblocked.trans hcase), hset]
      simp
    | false =>
      rw [if_pos ⟨hsame, rfl⟩]
      cases quote with
      | none =>
        rw [processBoundary_unpriced chrono run.runId other windowMode marker reads.now context
          (hblocked.trans hcase)]
        exact previousPrice_kept (by decide) (by decide) (recordLastEval_edits chrono other _ _ _ _ _)
          context
      | some q =>
        rw [processBoundary_priced chrono run.runId other windowMode marker reads.now context
          (hblocked.trans hcase), evaluateBoundary_previousPrice]
        rfl
  · rw [if_neg fun h => hsame h.1, Option.none_or]
    exact tickPreviousPrice_congr (targetEntry_kept (by decide) (by decide)
      (processBoundary_edits chrono run.runId other windowMode marker reads.now quote context)
      (by decide) (fun h => absurd h hsame) context)

theorem opening_scope (target : ℕ × WsOpenPositionPriceNodeSpec × String × String) {context : Value}
    (hkept : ∀ nodeKey, ScopeKept nodeKey run.context context) (nodeKey : String) :
    ScopeKept nodeKey run.context ((processBoundary chrono run.runId target.2.1 target.2.2.1
      target.2.2.2 reads.now (reads.quote target.1)).run context) :=
  (hkept nodeKey).trans (scope_kept (by decide) (processBoundary_edits chrono _ _ _ _ _ _ context)
    (fun _ => by decide) context)

variable (hsettings : ∀ other ∈ run.nodes, other.nodeKey = spec.nodeKey →
  other.settings = spec.settings)

include hsettings in
theorem afterBoundaries_pendingAt (h : ¬ Restarted run reads spec) :
    pendingAt spec (afterBoundaries chrono run reads) = pendingAt spec run.context := by
  unfold afterBoundaries
  rw [processDueBoundaries_run]
  refine (List.foldlRecOn (dueBoundaries run reads.now) _ (motive := fun context =>
    pendingAt spec context = pendingAt spec run.context ∧
      ∀ nodeKey, ScopeKept nodeKey run.context context) ⟨rfl, fun _ => .refl _ _⟩ ?_).1
  rintro context ⟨hpending, hkept⟩ target hdue
  refine ⟨(opening_pendingAt chrono run _ _ ?_ (hkept _) fun hhit => h ⟨target, hdue, hhit⟩).trans
    hpending, opening_scope chrono run target hkept⟩
  exact fun hsame => hsettings _ (List.mem_of_getElem? (mem_dueBoundaries.mp hdue).1) hsame.1

include hsettings in
theorem afterBoundaries_restarted (ht : t < reads.now + 1000000)
    (hquote : ∀ i, ∀ q ∈ reads.quote i, QuoteKeepsTime chrono reads.now q)
    (h : Restarted run reads spec) : Timely chrono t spec (afterBoundaries chrono run reads) := by
  have hstep : ∀ context, ∀ target ∈ dueBoundaries run reads.now,
      (∀ nodeKey, ScopeKept nodeKey run.context context) →
        (Timely chrono t spec ((processBoundary chrono run.runId target.2.1 target.2.2.1
          target.2.2.2 reads.now (reads.quote target.1)).run context) ↔
            Timely chrono t spec context ∨ SameTarget spec target.2.1 ∧ restartsConfirmation
              target.2.1 target.2.2.1 (reads.quote target.1) run.context = true) := by
    rintro context ⟨i, other, windowMode, marker⟩ hdue hkept
    obtain ⟨hnode, -⟩ := mem_dueBoundaries.mp hdue
    have hsettings' : SameTarget spec other → other.settings = spec.settings :=
      fun hsame => hsettings other (List.mem_of_getElem? hnode) hsame.1
    by_cases hhit : SameTarget spec other ∧
        restartsConfirmation other windowMode (reads.quote i) run.context = true
    · refine iff_of_true ((Timely.sameTarget hhit.1 (hsettings' hhit.1) _).mp ?_) (.inr hhit)
      refine processBoundary_restarts ht run.runId windowMode marker (hquote i) ?_
      rw [restartsConfirmation_congr windowMode _ (hkept _)]
      exact hhit.2
    · rw [or_iff_left hhit]
      exact Timely.congr (opening_pendingAt chrono run windowMode marker hsettings' (hkept _) hhit)
  unfold afterBoundaries
  rw [processDueBoundaries_run]
  exact (foldl_iff_exists_hit (fun context target _ hkept => opening_scope chrono run target hkept)
    hstep fun nodeKey => .refl nodeKey run.context).mpr (.inr h)

include hsettings in
theorem afterBoundaries_previousPrice :
    tickPreviousPrice spec (afterBoundaries chrono run reads) = openedPrice run reads spec := by
  unfold afterBoundaries
  rw [processDueBoundaries_run]
  refine foldl_last_hit (I := ScopeKept spec.nodeKey run.context) ?_ ?_ (.refl _ _)
  · intro context target _ hkept
    exact hkept.trans (scope_kept (by decide) (processBoundary_edits chrono _ _ _ _ _ _ context)
      (fun _ => by decide) context)
  · rintro context ⟨i, other, windowMode, marker⟩ hdue hkept
    obtain ⟨hnode, -⟩ := mem_dueBoundaries.mp hdue
    exact opening_previousPrice chrono run windowMode marker (reads.quote i)
      (fun hsame => hsettings other (List.mem_of_getElem? hnode) hsame.1) hkept

end Openings

end PolymarketBot.Flow
