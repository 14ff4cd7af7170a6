import PolymarketBot.Chainlink.History

/-! What is read of a symbol at an instant, and whether later ticks can change it. -/

namespace PolymarketBot.Chainlink
open Lib Timeline

/-- What a log gives at an instant: the newest sample up to it or, where all that is kept is later,
the oldest that is kept. -/
structure ReadNear (log : List CachedPrice) (targetMs maxPastToleranceMs maxFutureToleranceMs : ℤ)
    (sample : CachedPrice) : Prop where
  held : Held log sample
  near : (sample.timestampMs ≤ targetMs ∧ targetMs - sample.timestampMs ≤ maxPastToleranceMs ∧
      ∀ other ∈ log, other.timestampMs ≤ targetMs → other.timestampMs ≤ sample.timestampMs) ∨
    (targetMs < sample.timestampMs ∧ sample.timestampMs - targetMs ≤ maxFutureToleranceMs ∧
      ∀ other, Held log other → sample.timestampMs ≤ other.timestampMs)

theorem nearestTicks_eq {ticks : List CachedPrice}
    (h : Falling CachedPrice.timestampMs ticks.reverse) (targetMs : ℤ) :
    nearestTicks targetMs ticks =
      (ticks.reverse.find? (fun sample => sample.timestampMs ≤ targetMs),
        ticks.find? fun sample => targetMs < sample.timestampMs) := by
  induction ticks using List.reverseRecOn with
  | nil => rfl
  | append_singleton ticks tick ih =>
    rw [List.reverse_concat] at h ⊢
    obtain ⟨hhead, htail⟩ := List.pairwise_cons.mp h
    have hsplit : nearestTicks targetMs (ticks ++ [tick]) =
        pickNearest targetMs (nearestTicks targetMs ticks) tick := List.foldl_concat ..
    rw [hsplit, ih htail, List.find?_cons, List.find?_append, List.find?_singleton]
    unfold pickNearest
    by_cases hle : tick.timestampMs ≤ targetMs
    · have hall : (ticks.reverse.find? fun sample => sample.timestampMs ≤ targetMs).all
          (fun current => current.timestampMs < tick.timestampMs) = true := by
        cases hbest : ticks.reverse.find? fun sample => sample.timestampMs ≤ targetMs with
        | none => rfl
        | some best => exact decide_eq_true (hhead best (List.mem_of_find?_eq_some hbest))
      rw [if_pos hle, if_pos hall, decide_eq_true hle, decide_eq_false (not_lt.mpr hle)]
      simp
    · have hlt := not_le.mp hle
      rw [if_neg hle, decide_eq_false hle, decide_eq_true hlt]
      cases hbest : ticks.find? fun sample => targetMs < sample.timestampMs with
      | none => simp
      | some best =>
        have holder := hhead best (List.mem_reverse.mpr (List.mem_of_find?_eq_some hbest))
        simp [holder.le]

section Reading
variable {log : List CachedPrice} {entry : SymbolPriceState}

theorem Kept.readTicks (h : Kept log entry) : entry.readTicks = entry.ticks := by
  have hlast := h.getLast?
  unfold SymbolPriceState.readTicks SymbolPriceState.latestTracked
  cases hlatest : entry.latest with
  | none => simp
  | some latest => simp [hlast, hlatest]

theorem Kept.mem_ticks (h : Kept log entry) {sample : CachedPrice} :
    sample ∈ entry.ticks ↔ Held log sample := by
  rw [← List.mem_reverse, h.ticks, mem_keptSamples]

theorem Kept.newestUpTo_iff (h : Kept log entry) {targetMs : ℤ} {sample : CachedPrice} :
    entry.ticks.reverse.find? (fun sample => sample.timestampMs ≤ targetMs) = some sample ↔
      Held log sample ∧ sample.timestampMs ≤ targetMs ∧
        ∀ other ∈ log, other.timestampMs ≤ targetMs → other.timestampMs ≤ sample.timestampMs := by
  have hprefix : keptSamples log <+: newestFirst CachedPrice.timestampMs log := keep_isPrefix _
  rw [h.ticks, find?_prefix_iff hprefix, find?_newestFirst_iff, mem_keptSamples]
  constructor
  · intro hall
    exact ⟨hall.2, hall.1.2⟩
  · intro hall
    exact ⟨⟨hall.1.last, hall.2⟩, hall.1⟩

theorem Kept.oldestAfter_iff (h : Kept log entry) {targetMs : ℤ} {sample : CachedPrice} :
    entry.ticks.find? (fun sample => targetMs < sample.timestampMs) = some sample ↔
      Held log sample ∧ targetMs < sample.timestampMs ∧
        ∀ other, Held log other → targetMs < other.timestampMs →
          sample.timestampMs ≤ other.timestampMs := by
  have hrising := List.pairwise_reverse.mp h.falling
  rw [find?_pairwise_iff (fun a b hab => hab.not_gt) hrising]
  simp only [h.mem_ticks, decide_eq_true_eq]
  refine and_congr_right fun hheld => and_congr_right fun _ => ⟨fun hfirst other hother hlater => ?_,
    fun holdest other hother hlater => ?_⟩
  · cases hfirst other hother hlater with
    | inl hsame => exact hsame ▸ le_rfl
    | inr hlt => exact hlt.le
  · cases (holdest other hother hlater).eq_or_lt with
    | inl heq =>
      exact .inl (eq_of_time h.falling (List.mem_reverse.mpr (h.mem_ticks.mpr hother))
        (List.mem_reverse.mpr (h.mem_ticks.mpr hheld)) heq.symm)
    | inr hlt => exact .inr hlt

theorem Kept.readNear_iff {service : ChainlinkPriceService} {symbol : String}
    (h : Kept log (service.entryOf symbol)) {asset : String} (hsymbol : assetToSymbol asset = some symbol)
    {targetMs maxPastToleranceMs maxFutureToleranceMs nowMs : ℤ} {sample : CachedPrice} :
    service.getPriceNearTimestampWithTolerance asset targetMs maxPastToleranceMs
        maxFutureToleranceMs nowMs = .ok sample ↔
      ReadNear log targetMs maxPastToleranceMs maxFutureToleranceMs sample := by
  unfold ChainlinkPriceService.getPriceNearTimestampWithTolerance
  unfold ChainlinkPriceService.entryOf at h
  cases hentry : service.state symbol with
  | none =>
    simp only [hsymbol, hentry]
    constructor
    · intro herror
      cases herror
    · intro hread
      rw [hentry] at h
      have hmem := h.mem_ticks.mpr hread.held
      cases hmem
  | some entry =>
    rw [hentry, Option.getD_some] at h
    simp only [hsymbol, hentry]
    rw [h.readTicks, nearestTicks_eq h.falling]
    cases hbefore : entry.ticks.reverse.find? fun sample => sample.timestampMs ≤ targetMs with
    | some before =>
      obtain ⟨hheld, hle, hnewest⟩ := h.newestUpTo_iff.mp hbefore
      simp only
      constructor
      · intro hok
        split_ifs at hok with hgap
        obtain rfl := Except.ok.inj hok
        exact ⟨hheld, .inl ⟨hle, not_lt.mp hgap, hnewest⟩⟩
      · intro hread
        cases hread.near with
        | inl hpast =>
          have hsame := h.newestUpTo_iff.mpr ⟨hread.held, hpast.1, hpast.2.2⟩
          rw [hbefore] at hsame
          obtain rfl := Option.some.inj hsame
          exact if_neg (not_lt.mpr hpast.2.1)
        | inr hfuture =>
          have hbelow := hfuture.2.2 before hheld
          omega
    | none =>
      have hall : ∀ other, Held log other → targetMs < other.timestampMs := fun other hother => by
        have hmem := List.find?_eq_none.mp hbefore other (List.mem_reverse.mpr (h.mem_ticks.mpr hother))
        simpa using hmem
      cases hafter : entry.ticks.find? fun sample => targetMs < sample.timestampMs with
      | none =>
        simp only
        constructor
        · intro hok
          cases hok
        · intro hread
          have hmem := List.find?_eq_none.mp hafter sample (h.mem_ticks.mpr hread.held)
          exact absurd (decide_eq_true (hall sample hread.held)) hmem
      | some after =>
        obtain ⟨hheld, hlt, holdest⟩ := h.oldestAfter_iff.mp hafter
        simp only
        constructor
        · intro hok
          split_ifs at hok with hgap
          obtain rfl := Except.ok.inj hok
          exact ⟨hheld, .inr ⟨hlt, not_lt.mp hgap, fun other hother =>
            holdest other hother (hall other hother)⟩⟩
        · intro hread
          have hlater := hall sample hread.held
          cases hread.near with
          | inl hpast => omega
          | inr hfuture =>
            have hsame := h.oldestAfter_iff.mpr
              ⟨hread.held, hlater, fun other hother _ => hfuture.2.2 other hother⟩
            rw [hafter] at hsame
            obtain rfl := Option.some.inj hsame
            exact if_neg (not_lt.mpr hfuture.2.1)

end Reading

theorem readNear_run_iff {asset symbol : String} (hsymbol : assetToSymbol asset = some symbol)
    (events : List FeedEvent) {targetMs maxPastToleranceMs maxFutureToleranceMs nowMs : ℤ}
    {sample : CachedPrice} :
    (events.foldl ChainlinkPriceService.step {}).getPriceNearTimestampWithTolerance asset targetMs
        maxPastToleranceMs maxFutureToleranceMs nowMs = .ok sample ↔
      ReadNear (recorded symbol events) targetMs maxPastToleranceMs maxFutureToleranceMs sample :=
  ((kept_start symbol).run events).readNear_iff hsymbol

/-- At every point of a run, what is read near an instant is what the samples given so far tell. -/
theorem reading_exact (events : List FeedEvent) (asset : String)
    (targetMs maxPastToleranceMs maxFutureToleranceMs nowMs : ℤ) (sample : CachedPrice) :
    (events.foldl ChainlinkPriceService.step {}).getPriceNearTimestampWithTolerance asset targetMs
        maxPastToleranceMs maxFutureToleranceMs nowMs = .ok sample ↔
      ∃ symbol, assetToSymbol asset = some symbol ∧
        ReadNear (recorded symbol events) targetMs maxPastToleranceMs maxFutureToleranceMs
          sample := by
  cases hsymbol : assetToSymbol asset with
  | none =>
    unfold ChainlinkPriceService.getPriceNearTimestampWithTolerance
    simp [hsymbol]
  | some symbol =>
    rw [readNear_run_iff hsymbol]
    simp

/-! ### Later ticks -/

/-- A batch gives nothing for the symbol within the span. -/
def BatchSpares (symbol : String) (span : Set ℤ) : FeedEvent → Prop
  | .history given samples _ =>
    given = symbol → ∀ sample ∈ samples, 0 < sample.1 → sample.2 ∉ span
  | _ => True

theorem historyTicks_spare {samples : List (ℚ × ℤ)} {span : Set ℤ}
    (h : ∀ sample ∈ samples, 0 < sample.1 → sample.2 ∉ span) {receivedAtMs : ℤ}
    {tick : CachedPrice} (htick : tick ∈ ChainlinkPriceService.historyTicks samples receivedAtMs) :
    tick.timestampMs ∉ span := by
  unfold ChainlinkPriceService.historyTicks at htick
  rw [List.mem_mergeSort] at htick
  obtain ⟨sample, hsample, rfl⟩ := List.mem_map.mp htick
  obtain ⟨hmem, hpositive⟩ := List.mem_filter.mp hsample
  exact h sample hmem (of_decide_eq_true hpositive)

theorem record_spares {symbol : String} {log : List CachedPrice} {low high : ℤ}
    (hlater : ∃ later ∈ log, high < later.timestampMs) {event : FeedEvent}
    (h : BatchSpares symbol (Set.Icc low high) event) :
    ∃ extra, record symbol log event = log ++ extra ∧
      ∀ tick ∈ extra, tick.timestampMs ∉ Set.Icc low high := by
  cases event with
  | error text => exact ⟨[], (List.append_nil log).symm, by simp⟩
  | price given value timestampMs receivedAtMs =>
    simp only [record]
    split_ifs with htaken
    · refine ⟨_, rfl, fun tick htick hspan => ?_⟩
      obtain ⟨later, hmem, hlt⟩ := hlater
      have hin : later.timestampMs ≤ timestampMs := htaken.2.2.2 later hmem
      rw [List.mem_singleton.mp htick] at hspan
      have hle : timestampMs ≤ high := hspan.2
      omega
    · exact ⟨[], (List.append_nil log).symm, by simp⟩
  | history given samples receivedAtMs =>
    simp only [record]
    split_ifs with htaken
    · exact ⟨_, rfl, fun tick htick => historyTicks_spare (h htaken.1) htick⟩
    · exact ⟨[], (List.append_nil log).symm, by simp⟩

theorem records_spare {symbol : String} {low high : ℤ} (events : List FeedEvent)
    (h : ∀ event ∈ events, BatchSpares symbol (Set.Icc low high) event) {log : List CachedPrice}
    (hlater : ∃ later ∈ log, high < later.timestampMs) :
    ∃ extra, events.foldl (record symbol) log = log ++ extra ∧
      ∀ tick ∈ extra, tick.timestampMs ∉ Set.Icc low high := by
  induction events generalizing log with
  | nil => exact ⟨[], (List.append_nil log).symm, by simp⟩
  | cons event events ih =>
    obtain ⟨hevent, hevents⟩ := List.forall_mem_cons.mp h
    obtain ⟨first, hfirst, hspare⟩ := record_spares hlater hevent
    obtain ⟨later, hmem, hlt⟩ := hlater
    have hnext : ∃ later ∈ record symbol log event, high < later.timestampMs :=
      ⟨later, hfirst ▸ List.mem_append_left first hmem, hlt⟩
    obtain ⟨rest, hrest, hspares⟩ := ih hevents hnext
    refine ⟨first ++ rest, ?_, fun tick htick => ?_⟩
    · rw [List.foldl_cons, hrest, hfirst, List.append_assoc]
    · cases List.mem_append.mp htick with
      | inl hf => exact hspare tick hf
      | inr hr => exact hspares tick hr

/-- Once a later tick is there, what was read up to an instant is read again for as long as it is
kept: live prices never change it, and a batch only where it tells of that span. -/
theorem reading_settles (events more : List FeedEvent) {asset symbol : String}
    {targetMs maxPastToleranceMs maxFutureToleranceMs nowMs laterMs : ℤ} {sample : CachedPrice}
    (hsymbol : assetToSymbol asset = some symbol)
    (hread : (events.foldl ChainlinkPriceService.step {}).getPriceNearTimestampWithTolerance asset
      targetMs maxPastToleranceMs maxFutureToleranceMs nowMs = .ok sample)
    (hpast : sample.timestampMs ≤ targetMs)
    (hlater : ∃ later ∈ recorded symbol events, targetMs < later.timestampMs)
    (hspare : ∀ event ∈ more,
      BatchSpares symbol (Set.Icc sample.timestampMs targetMs) event) :
    ((events ++ more).foldl ChainlinkPriceService.step {}).getPriceNearTimestampWithTolerance asset
        targetMs maxPastToleranceMs maxFutureToleranceMs laterMs = .ok sample ↔
      Held (recorded symbol (events ++ more)) sample := by
  rw [readNear_run_iff hsymbol] at hread
  rw [readNear_run_iff hsymbol]
  refine ⟨fun h => h.held, fun hheld => ⟨hheld, ?_⟩⟩
  cases hread.near with
  | inr hfuture => omega
  | inl hnear =>
    refine .inl ⟨hnear.1, hnear.2.1, fun other hother hle => ?_⟩
    obtain ⟨extra, hextra, hspares⟩ := records_spare more hspare hlater
    have hall : recorded symbol (events ++ more) = recorded symbol events ++ extra := by
      unfold recorded
      rw [List.foldl_append]
      exact hextra
    rw [hall] at hother
    cases List.mem_append.mp hother with
    | inl hlog => exact hnear.2.2 other hlog hle
    | inr hnew =>
      by_contra hlt
      exact hspares other hnew ⟨(not_le.mp hlt).le, hle⟩

theorem reading_settles_at_later_price :
    (([.price "btc/usd" 70000 1000 1010, .price "btc/usd" 70100 3000 3010,
        .price "btc/usd" 70200 5000 5010] : List FeedEvent).foldl ChainlinkPriceService.step
      {}).getPriceNearTimestampWithTolerance "btc" 2000 2000 2000 6000 =
        .ok ⟨70000, 1000, 1010⟩ :=
  (@reading_settles [.price "btc/usd" 70000 1000 1010, .price "btc/usd" 70100 3000 3010]
    [.price "btc/usd" 70200 5000 5010] "btc" "btc/usd" 2000 2000 2000 4000 6000
    ⟨70000, 1000, 1010⟩ (by decide +kernel) (by decide +kernel) (by decide) (by decide +kernel)
    (by simp [BatchSpares])).mpr (by decide +kernel)

end PolymarketBot.Chainlink
