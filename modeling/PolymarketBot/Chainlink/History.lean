import Mathlib
import PolymarketBot.Chainlink.Prices
import PolymarketBot.Lib.Runs
import PolymarketBot.Lib.Timeline

/-! What is kept of a symbol's prices, next to all that the stream has given of them. -/

namespace PolymarketBot.Chainlink
open Lib Timeline

/-- A tick that is older than one before it is not taken in. -/
def InTime (log : List CachedPrice) (tick : CachedPrice) : Prop :=
  ∀ sample ∈ log, sample.timestampMs ≤ tick.timestampMs

instance (log : List CachedPrice) (tick : CachedPrice) : Decidable (InTime log tick) :=
  inferInstanceAs (Decidable (∀ sample ∈ log, sample.timestampMs ≤ tick.timestampMs))

/-- All samples of a symbol that were taken in, in the order in which they came. -/
def record (symbol : String) (log : List CachedPrice) : FeedEvent → List CachedPrice
  | .price given value timestampMs receivedAtMs =>
    if given = symbol ∧ isSupportedSymbol symbol ∧ 0 < value ∧
        InTime log { value, timestampMs, receivedAtMs } then
      log ++ [{ value, timestampMs, receivedAtMs }]
    else log
  | .history given samples receivedAtMs =>
    if given = symbol ∧ isSupportedSymbol symbol then
      log ++ ChainlinkPriceService.historyTicks samples receivedAtMs
    else log
  | .error _ => log

def recorded (symbol : String) (events : List FeedEvent) : List CachedPrice :=
  events.foldl (record symbol) []

/-- What more events add. -/
def takenIn (symbol : String) (events more : List FeedEvent) : List CachedPrice :=
  (recorded symbol (events ++ more)).drop (recorded symbol events).length

/-- The oldest time that is kept beside the newest. -/
def oldestKeptMs (newestMs : ℤ) : ℤ := newestMs - maxTickHistoryAgeSecs * 1000

/-- The samples that are kept of a log, the newest first. -/
def keptSamples (log : List CachedPrice) : List CachedPrice :=
  keep CachedPrice.timestampMs oldestKeptMs maxTickHistorySamplesPerSymbol
    (newestFirst CachedPrice.timestampMs log)

/-- A sample that is still kept: the last that was given for its time, not more than four hours
before any other, with room for all that are later. -/
structure Held (log : List CachedPrice) (sample : CachedPrice) : Prop where
  last : lastAt CachedPrice.timestampMs log sample.timestampMs = some sample
  recent : ∀ other ∈ log, oldestKeptMs other.timestampMs ≤ sample.timestampMs
  room : (laterTimes CachedPrice.timestampMs log sample.timestampMs).card <
    maxTickHistorySamplesPerSymbol

instance (log : List CachedPrice) (sample : CachedPrice) : Decidable (Held log sample) :=
  decidable_of_iff (lastAt CachedPrice.timestampMs log sample.timestampMs = some sample ∧
      (∀ other ∈ log, oldestKeptMs other.timestampMs ≤ sample.timestampMs) ∧
      (laterTimes CachedPrice.timestampMs log sample.timestampMs).card <
        maxTickHistorySamplesPerSymbol)
    ⟨fun h => ⟨h.1, h.2.1, h.2.2⟩, fun h => ⟨h.last, h.recent, h.room⟩⟩

structure Kept (log : List CachedPrice) (entry : SymbolPriceState) : Prop where
  ticks : entry.ticks.reverse = keptSamples log
  latest : entry.latest = (newestFirst CachedPrice.timestampMs log).head?

theorem record_extends (symbol : String) (log : List CachedPrice) (event : FeedEvent) :
    log <+: record symbol log event := by
  cases event with
  | error text => exact List.prefix_refl log
  | price given value timestampMs receivedAtMs =>
    simp only [record]
    split_ifs
    · exact List.prefix_append ..
    · exact List.prefix_refl log
  | history given samples receivedAtMs =>
    simp only [record]
    split_ifs
    · exact List.prefix_append ..
    · exact List.prefix_refl log

theorem recorded_extends (symbol : String) (events more : List FeedEvent) :
    recorded symbol events <+: recorded symbol (events ++ more) := by
  induction more using List.reverseRecOn with
  | nil => rw [List.append_nil]
  | append_singleton more event ih =>
    refine ih.trans ?_
    unfold recorded
    rw [← List.append_assoc, List.foldl_concat]
    exact record_extends symbol _ event

theorem recorded_append (symbol : String) (events more : List FeedEvent) :
    recorded symbol (events ++ more) = recorded symbol events ++ takenIn symbol events more :=
  List.prefix_append_drop (recorded_extends symbol events more)

theorem takenIn_append (symbol : String) (events more rest : List FeedEvent) :
    takenIn symbol events (more ++ rest) =
      takenIn symbol events more ++ takenIn symbol (events ++ more) rest := by
  apply @List.append_cancel_left _ (recorded symbol events)
  rw [← recorded_append, ← List.append_assoc, ← List.append_assoc, ← recorded_append,
    ← recorded_append]

theorem oldestKeptMs_le (t : ℤ) : oldestKeptMs t ≤ t := by
  unfold oldestKeptMs maxTickHistoryAgeSecs
  omega

theorem oldestKeptMs_mono : Monotone oldestKeptMs := fun a b h => by
  unfold oldestKeptMs
  omega

theorem some_room : 0 < maxTickHistorySamplesPerSymbol := by decide

theorem keptSamples_falling (log : List CachedPrice) :
    Falling CachedPrice.timestampMs (keptSamples log) :=
  (falling_newestFirst log).sublist (keep_isPrefix _).sublist

theorem mem_keptSamples {log : List CachedPrice} {sample : CachedPrice} :
    sample ∈ keptSamples log ↔ Held log sample := by
  unfold keptSamples
  rw [mem_keep_newestFirst oldestKeptMs_mono]
  constructor
  · intro h
    exact ⟨h.1, h.2.1, h.2.2⟩
  · intro h
    exact ⟨h.last, h.recent, h.room⟩

theorem keptSamples_head (log : List CachedPrice) :
    (keptSamples log).head? = (newestFirst CachedPrice.timestampMs log).head? :=
  keep_head oldestKeptMs_le some_room _

theorem keptSamples_append (log more : List CachedPrice) :
    keptSamples (log ++ more) = keep CachedPrice.timestampMs oldestKeptMs
      maxTickHistorySamplesPerSymbol (placeAll CachedPrice.timestampMs (keptSamples log) more) := by
  unfold keptSamples
  rw [newestFirst_append, keep_placeAll oldestKeptMs_le some_room oldestKeptMs_mono]

theorem newestSamples_reverse (ticks : List CachedPrice) :
    (newestSamples ticks).reverse = ticks.reverse.take maxTickHistorySamplesPerSymbol :=
  reverse_drop _ ticks

theorem insertByTimestamp_eq (tick : CachedPrice) (ticks : List CachedPrice) :
    insertByTimestamp tick ticks = placeUp CachedPrice.timestampMs tick ticks := by
  induction ticks with
  | nil => rfl
  | cons other rest ih => rw [insertByTimestamp, placeUp, ih]

section Entry
variable {log : List CachedPrice} {entry : SymbolPriceState}

theorem Kept.falling (h : Kept log entry) :
    Falling CachedPrice.timestampMs entry.ticks.reverse := by
  rw [h.ticks]
  exact keptSamples_falling log

theorem Kept.getLast? (h : Kept log entry) : entry.ticks.getLast? = entry.latest := by
  rw [← List.head?_reverse, h.ticks, keptSamples_head, h.latest]

theorem Kept.inTime_iff (h : Kept log entry) (tick : CachedPrice) :
    InTime log tick ↔
      entry.latest.all (fun latest => latest.timestampMs ≤ tick.timestampMs) = true := by
  rw [h.latest]
  cases hhead : (newestFirst CachedPrice.timestampMs log).head? with
  | none =>
    rw [List.head?_eq_none_iff, newestFirst_eq_nil] at hhead
    simp [InTime, hhead]
  | some latest =>
    obtain ⟨hlast, hnewest⟩ := head?_newestFirst_iff.mp hhead
    simp only [Option.all_some, decide_eq_true_eq]
    exact ⟨fun hin => hin latest (lastAt_mem hlast).1,
      fun hle sample hsample => (hnewest sample hsample).trans hle⟩

theorem pushTick_reverse {ticks : List CachedPrice} {tick : CachedPrice}
    (h : ticks.getLast?.all (fun last => last.timestampMs ≤ tick.timestampMs) = true) :
    (pushTick ticks tick).reverse = place CachedPrice.timestampMs tick ticks.reverse := by
  induction ticks using List.reverseRecOn with
  | nil => rfl
  | append_singleton ticks last _ =>
    rw [List.getLast?_concat, Option.all_some, decide_eq_true_eq] at h
    unfold pushTick
    simp only [List.getLast?_concat, List.dropLast_concat]
    by_cases hsame : last.timestampMs = tick.timestampMs
    · rw [if_pos hsame, List.reverse_concat, List.reverse_concat, place, if_neg hsame.not_lt,
        if_pos hsame]
    · have hlt : last.timestampMs < tick.timestampMs := by omega
      rw [if_neg hsame, if_pos hlt, List.reverse_concat, List.reverse_concat, place, if_pos hlt]

theorem Kept.updatePrice (h : Kept log entry) {tick : CachedPrice} (hin : InTime log tick) :
    Kept (log ++ [tick]) (entry.updatePrice tick) := by
  have hlatest := (h.inTime_iff tick).mp hin
  have hpush : (pushTick entry.ticks tick).reverse =
      place CachedPrice.timestampMs tick entry.ticks.reverse :=
    pushTick_reverse (by rw [h.getLast?]; exact hlatest)
  have hfalling : Falling CachedPrice.timestampMs (pushTick entry.ticks tick).reverse := by
    rw [hpush]
    exact falling_place h.falling tick
  have hnewest : (newestFirst CachedPrice.timestampMs (log ++ [tick])).head? = some tick := by
    refine head?_newestFirst_iff.mpr ⟨by rw [lastAt_snoc, if_pos rfl], fun sample hsample => ?_⟩
    cases List.mem_append.mp hsample with
    | inl hlog => exact hin sample hlog
    | inr htick => exact (List.mem_singleton.mp htick) ▸ le_rfl
  have hhead : (placeAll CachedPrice.timestampMs (keptSamples log) [tick]).head? = some tick := by
    have hkept := keptSamples_head (log ++ [tick])
    rw [keptSamples_append, keep_head oldestKeptMs_le some_room] at hkept
    rw [hkept, hnewest]
  constructor
  · unfold SymbolPriceState.updatePrice
    rw [newestSamples_reverse, reverse_dropWhile hfalling, hpush, h.ticks, keptSamples_append,
      keep_eq hhead]
    rfl
  · rw [hnewest]
    exact if_pos hlatest

theorem Kept.updatePrice_late (h : Kept log entry) {tick : CachedPrice} (hlate : ¬ InTime log tick) :
    Kept log (entry.updatePrice tick) := by
  rw [h.inTime_iff tick] at hlate
  cases hlatest : entry.latest with
  | none => simp [hlatest] at hlate
  | some latest =>
    rw [hlatest, Option.all_some, decide_eq_true_eq] at hlate
    have hlast := h.getLast?
    rw [hlatest] at hlast
    have hpush : pushTick entry.ticks tick = entry.ticks := by
      unfold pushTick
      simp only [hlast]
      rw [if_neg (by omega), if_neg (by omega)]
    have hhead : (newestFirst CachedPrice.timestampMs log).head? = some latest := by
      rw [← h.latest, hlatest]
    have hrecent : (keptSamples log).takeWhile (fun sample =>
        tick.timestampMs - maxTickHistoryAgeSecs * 1000 ≤ sample.timestampMs) =
          keptSamples log := by
      refine List.takeWhile_eq_self_iff.mpr fun sample hsample => decide_eq_true ?_
      have habove := keep_above hhead hsample
      unfold oldestKeptMs at habove
      omega
    constructor
    · unfold SymbolPriceState.updatePrice
      simp only [hpush]
      rw [newestSamples_reverse, reverse_dropWhile h.falling, h.ticks, hrecent]
      exact List.take_of_length_le (keep_length _)
    · rw [← h.latest, hlatest]
      unfold SymbolPriceState.updatePrice
      simp only [hlatest, Option.all_some]
      exact if_neg (by simpa using hlate)

theorem mergeHistoryTicks_reverse {entry : SymbolPriceState} {ticks : List CachedPrice}
    (h : Falling CachedPrice.timestampMs entry.ticks.reverse) (cutoffMs : ℤ)
    (hcutoff : (((entry.latest.map CachedPrice.timestampMs).toList ++
      (ticks.getLast?.map CachedPrice.timestampMs).toList).max?.getD 0) -
        maxTickHistoryAgeSecs * 1000 = cutoffMs) :
    (mergeHistoryTicks entry ticks).reverse =
      ((placeAll CachedPrice.timestampMs entry.ticks.reverse ticks).takeWhile fun tick =>
        cutoffMs ≤ tick.timestampMs).take maxTickHistorySamplesPerSymbol := by
  have hrising : Falling CachedPrice.timestampMs (entry.ticks.filter fun tick =>
      cutoffMs ≤ tick.timestampMs).reverse := by
    rw [← List.filter_reverse]
    exact h.filter _
  have hinsert : (fun byTimestamp tick => insertByTimestamp tick byTimestamp) =
      fun l tick => placeUp CachedPrice.timestampMs tick l := by
    funext l tick
    exact insertByTimestamp_eq tick l
  unfold mergeHistoryTicks
  simp only [hcutoff, hinsert]
  rw [newestSamples_reverse, reverse_placeAllUp (l := []) .nil, List.filter_append,
    List.reverse_nil, takeWhile_placeAll]
  have hsplit : placeAll CachedPrice.timestampMs []
      (entry.ticks.filter (fun tick => cutoffMs ≤ tick.timestampMs) ++
        ticks.filter fun tick => cutoffMs ≤ tick.timestampMs) =
      placeAll CachedPrice.timestampMs (placeAll CachedPrice.timestampMs []
        (entry.ticks.filter fun tick => cutoffMs ≤ tick.timestampMs))
        (ticks.filter fun tick => cutoffMs ≤ tick.timestampMs) := List.foldl_append ..
  rw [hsplit, placeAll_rising hrising, ← List.filter_reverse, filter_falling h]

theorem Kept.history_latest (h : Kept log entry) {ticks : List CachedPrice} {last : CachedPrice}
    (hsorted : (ticks ++ [last]).Pairwise fun a b => a.timestampMs ≤ b.timestampMs) :
    ∃ newest, (newestFirst CachedPrice.timestampMs (log ++ (ticks ++ [last]))).head? = some newest ∧
      (if shouldReplaceLatest entry.latest (some last) then some last else entry.latest) =
        some newest ∧
      ((entry.latest.map CachedPrice.timestampMs).toList ++ [last.timestampMs]).max? =
        some newest.timestampMs := by
  have hbatch : ∀ sample ∈ ticks ++ [last], sample.timestampMs ≤ last.timestampMs := by
    intro sample hsample
    cases List.mem_append.mp hsample with
    | inl hticks =>
      exact (List.pairwise_append.mp hsorted).2.2 sample hticks last (List.mem_singleton.mpr rfl)
    | inr hlast => exact (List.mem_singleton.mp hlast) ▸ le_rfl
  have hgiven : lastAt CachedPrice.timestampMs (log ++ (ticks ++ [last])) last.timestampMs =
      some last := by
    rw [lastAt_append, lastAt_snoc, if_pos rfl, Option.some_or]
  cases hlatest : entry.latest with
  | none =>
    have hnone : log = [] := by
      have hempty : newestFirst CachedPrice.timestampMs log = [] := by
        rw [← List.head?_eq_none_iff, ← h.latest, hlatest]
      exact newestFirst_eq_nil.mp hempty
    refine ⟨last, head?_newestFirst_iff.mpr ⟨hgiven, fun sample hsample => ?_⟩, rfl, rfl⟩
    rw [hnone, List.nil_append] at hsample
    exact hbatch sample hsample
  | some latest =>
    have hhead := h.latest.symm
    rw [hlatest, head?_newestFirst_iff] at hhead
    obtain ⟨hlogged, hnewest⟩ := hhead
    by_cases hle : latest.timestampMs ≤ last.timestampMs
    · refine ⟨last, head?_newestFirst_iff.mpr ⟨hgiven, fun sample hsample => ?_⟩,
        if_pos (decide_eq_true hle), congrArg some (max_eq_right hle)⟩
      cases List.mem_append.mp hsample with
      | inl hlog => exact (hnewest sample hlog).trans hle
      | inr hticks => exact hbatch sample hticks
    · have hlt : last.timestampMs < latest.timestampMs := not_le.mp hle
      have habsent : lastAt CachedPrice.timestampMs (ticks ++ [last]) latest.timestampMs = none := by
        cases hfound : lastAt CachedPrice.timestampMs (ticks ++ [last]) latest.timestampMs with
        | none => rfl
        | some found =>
          obtain ⟨hmem, htime⟩ := lastAt_mem hfound
          have hbelow := hbatch found hmem
          omega
      refine ⟨latest, head?_newestFirst_iff.mpr ⟨?_, fun sample hsample => ?_⟩,
        if_neg (by simpa [shouldReplaceLatest] using hle), congrArg some (max_eq_left hlt.le)⟩
      · rw [lastAt_append, habsent, Option.none_or, hlogged]
      · cases List.mem_append.mp hsample with
        | inl hlog => exact hnewest sample hlog
        | inr hticks => exact (hbatch sample hticks).trans hlt.le

theorem Kept.updatePriceHistory (h : Kept log entry) {ticks : List CachedPrice}
    (hsorted : ticks.Pairwise fun a b => a.timestampMs ≤ b.timestampMs) (hsome : ticks ≠ [])
    (receivedAtMs : ℤ) : Kept (log ++ ticks) (entry.updatePriceHistory ticks receivedAtMs) := by
  induction ticks using List.reverseRecOn with
  | nil => exact absurd rfl hsome
  | append_singleton early last _ =>
    obtain ⟨newest, hhead, hlatest, hmax⟩ := h.history_latest hsorted
    have hkept : (placeAll CachedPrice.timestampMs (keptSamples log) (early ++ [last])).head? =
        some newest := by
      have hall := keptSamples_head (log ++ (early ++ [last]))
      rw [keptSamples_append, keep_head oldestKeptMs_le some_room] at hall
      rw [hall, hhead]
    have hmerged := @mergeHistoryTicks_reverse entry (early ++ [last]) h.falling
      (oldestKeptMs newest.timestampMs) (by
        rw [List.getLast?_concat, Option.map_some, Option.toList_some, hmax]
        rfl)
    constructor
    · unfold SymbolPriceState.updatePriceHistory
      rw [hmerged, h.ticks, keptSamples_append, keep_eq hkept]
    · unfold SymbolPriceState.updatePriceHistory
      simp only [List.getLast?_concat]
      rw [hlatest, hhead]

end Entry

section Service
variable {service : ChainlinkPriceService} {symbol : String}

theorem entryOf_updated_same (entry : SymbolPriceState) (receivedAtMs : ℤ) :
    (service.updated symbol entry receivedAtMs).entryOf symbol = entry := by
  unfold ChainlinkPriceService.entryOf ChainlinkPriceService.updated
  simp only [Function.update_self, Option.getD_some]

theorem entryOf_updated_other {given : String} (h : given ≠ symbol) (entry : SymbolPriceState)
    (receivedAtMs : ℤ) :
    (service.updated given entry receivedAtMs).entryOf symbol = service.entryOf symbol := by
  unfold ChainlinkPriceService.entryOf ChainlinkPriceService.updated
  simp only [Function.update_of_ne (Ne.symm h)]

theorem historyTicks_sorted (samples : List (ℚ × ℤ)) (receivedAtMs : ℤ) :
    (ChainlinkPriceService.historyTicks samples receivedAtMs).Pairwise fun a b =>
      a.timestampMs ≤ b.timestampMs := by
  unfold ChainlinkPriceService.historyTicks
  refine (List.pairwise_mergeSort (fun a b c hab hbc => ?_) (fun a b => ?_) _).imp
    fun hab => of_decide_eq_true hab
  · exact decide_eq_true ((of_decide_eq_true hab).trans (of_decide_eq_true hbc))
  · simpa using le_total a.timestampMs b.timestampMs

variable {log : List CachedPrice} (h : Kept log (service.entryOf symbol))
include h

theorem Kept.step_price (given : String) (value : ℚ) (timestampMs receivedAtMs : ℤ) :
    Kept (if given = symbol ∧ isSupportedSymbol symbol ∧ 0 < value ∧
        InTime log { value, timestampMs, receivedAtMs } then
      log ++ ([⟨value, timestampMs, receivedAtMs⟩] : List CachedPrice) else log)
      ((service.ingestChainlinkLiveDataPrice given value timestampMs receivedAtMs).2.entryOf
        symbol) := by
  unfold ChainlinkPriceService.ingestChainlinkLiveDataPrice
  by_cases htaken : isSupportedSymbol given = true ∧ 0 < value
  · rw [if_pos (show (isSupportedSymbol given && decide (0 < value)) = true by simpa using htaken)]
    by_cases hgiven : given = symbol
    · subst hgiven
      rw [entryOf_updated_same]
      by_cases hin : InTime log { value, timestampMs, receivedAtMs }
      · rw [if_pos ⟨rfl, htaken.1, htaken.2, hin⟩]
        exact h.updatePrice hin
      · rw [if_neg fun hall => hin hall.2.2.2]
        exact h.updatePrice_late hin
    · rw [if_neg fun hall => hgiven hall.1, entryOf_updated_other hgiven]
      exact h
  · have hnot : ¬ (isSupportedSymbol given && decide (0 < value)) = true := by simpa using htaken
    rw [if_neg hnot, if_neg]
    · exact h
    · intro hall
      exact htaken ⟨hall.1 ▸ hall.2.1, hall.2.2.1⟩

theorem Kept.step_history (given : String) (samples : List (ℚ × ℤ)) (receivedAtMs : ℤ) :
    Kept (if given = symbol ∧ isSupportedSymbol symbol then
        log ++ ChainlinkPriceService.historyTicks samples receivedAtMs else log)
      ((service.ingestChainlinkLiveDataPriceHistory given samples receivedAtMs).2.entryOf
        symbol) := by
  unfold ChainlinkPriceService.ingestChainlinkLiveDataPriceHistory
  simp only
  cases hticks : (ChainlinkPriceService.historyTicks samples receivedAtMs).isEmpty with
  | true =>
    have hnone : ¬ (isSupportedSymbol given && !true) = true := by simp
    rw [if_neg hnone, List.isEmpty_iff.mp hticks, List.append_nil, ite_self]
    exact h
  | false =>
    by_cases hsupported : isSupportedSymbol given = true
    · have htaken : (isSupportedSymbol given && !false) = true := by simpa using hsupported
      rw [if_pos htaken]
      by_cases hgiven : given = symbol
      · subst hgiven
        rw [if_pos ⟨rfl, hsupported⟩, entryOf_updated_same]
        exact h.updatePriceHistory (historyTicks_sorted samples receivedAtMs) (by simpa using hticks)
          receivedAtMs
      · rw [if_neg (fun hall => hgiven hall.1), entryOf_updated_other hgiven]
        exact h
    · have hnot : ¬ (isSupportedSymbol given && !false) = true := by simpa using hsupported
      have hother : ¬ (given = symbol ∧ isSupportedSymbol symbol = true) := by
        intro hall
        exact hsupported (hall.1 ▸ hall.2)
      rw [if_neg hnot, if_neg hother]
      exact h

theorem Kept.step (event : FeedEvent) :
    Kept (record symbol log event) ((service.step event).entryOf symbol) := by
  cases event with
  | error text => exact h
  | price given value timestampMs receivedAtMs =>
    exact h.step_price given value timestampMs receivedAtMs
  | history given samples receivedAtMs => exact h.step_history given samples receivedAtMs

end Service

theorem Kept.run {log : List CachedPrice} {service : ChainlinkPriceService} {symbol : String}
    (h : Kept log (service.entryOf symbol)) (events : List FeedEvent) :
    Kept (events.foldl (record symbol) log)
      ((events.foldl ChainlinkPriceService.step service).entryOf symbol) := by
  induction events generalizing log service with
  | nil => exact h
  | cons event events ih => exact ih (h.step event)

theorem kept_start (symbol : String) :
    Kept [] (({} : ChainlinkPriceService).entryOf symbol) :=
  ⟨rfl, rfl⟩

/-- However live prices and batches come, a symbol's ticks are the newest samples that were ever
taken in: for each time the one given last, none older than four hours before the newest, and no
more than there is room for. -/
theorem kept_of_all_given (symbol : String) (events : List FeedEvent) :
    Kept (recorded symbol events)
      ((events.foldl ChainlinkPriceService.step {}).entryOf symbol) :=
  (kept_start symbol).run events

end PolymarketBot.Chainlink
