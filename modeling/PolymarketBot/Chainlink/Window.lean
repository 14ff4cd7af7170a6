import PolymarketBot.Chainlink.Readings
import Mathlib.Data.Set.Card

/-! What the statistics of a window tell of the samples that fall into it. -/

namespace PolymarketBot.Chainlink
open Lib Timeline

/-- What the statistics of a window go by: its open, its close, and of the samples that are kept
those between the open and the window's end. -/
def window (log : List CachedPrice) (openTick closeTick : CachedPrice) (endMs : ℤ) :
    Set CachedPrice :=
  {sample | sample = openTick ∨ sample = closeTick ∨
    Held log sample ∧ sample.timestampMs ∈ Set.Icc openTick.timestampMs endMs}

/-! ### Pushing each time once -/

theorem pushSample_of_mem {samples : List CachedPrice} {sample : CachedPrice}
    (h : sample.timestampMs ∈ samples.map CachedPrice.timestampMs) :
    pushSample samples sample = samples := by
  obtain ⟨seen, hseen, htime⟩ := List.mem_map.mp h
  exact if_pos (List.any_eq_true.mpr ⟨seen, hseen, decide_eq_true htime⟩)

theorem pushSample_of_notMem {samples : List CachedPrice} {sample : CachedPrice}
    (h : sample.timestampMs ∉ samples.map CachedPrice.timestampMs) :
    pushSample samples sample = samples ++ [sample] := by
  refine if_neg fun hany => ?_
  obtain ⟨seen, hseen, htime⟩ := List.any_eq_true.mp hany
  exact h (List.mem_map.mpr ⟨seen, hseen, of_decide_eq_true htime⟩)

theorem pushSamples_nodup (given : List CachedPrice) {samples : List CachedPrice}
    (h : (samples.map CachedPrice.timestampMs).Nodup) :
    ((given.foldl pushSample samples).map CachedPrice.timestampMs).Nodup := by
  induction given generalizing samples with
  | nil => exact h
  | cons sample given ih =>
    refine ih ?_
    by_cases hseen : sample.timestampMs ∈ samples.map CachedPrice.timestampMs
    · rw [pushSample_of_mem hseen]
      exact h
    · rw [pushSample_of_notMem hseen, List.map_append]
      exact List.Nodup.append h (List.nodup_singleton _) (by simpa using hseen)

theorem mem_pushSamples {given samples : List CachedPrice}
    (hsame : ∀ a ∈ samples ++ given, ∀ b ∈ samples ++ given,
      a.timestampMs = b.timestampMs → a = b) {sample : CachedPrice} :
    sample ∈ given.foldl pushSample samples ↔ sample ∈ samples ++ given := by
  induction given generalizing samples with
  | nil => rw [List.foldl_nil, List.append_nil]
  | cons first given ih =>
    rw [List.foldl_cons]
    by_cases hseen : first.timestampMs ∈ samples.map CachedPrice.timestampMs
    · have hmem : first ∈ samples := by
        obtain ⟨seen, hin, htime⟩ := List.mem_map.mp hseen
        exact hsame seen (by simp [hin]) first (by simp) htime ▸ hin
      rw [pushSample_of_mem hseen, ih fun a ha b hb => hsame a (by grind) b (by grind)]
      grind
    · rw [pushSample_of_notMem hseen, ih (by rw [List.append_assoc]; exact hsame)]
      rw [List.append_assoc, List.singleton_append]

theorem isGreatest_foldl_max {κ : Type*} [LinearOrder κ] (values : List κ) (first : κ) :
    IsGreatest {value | value = first ∨ value ∈ values} (values.foldl max first) := by
  induction values generalizing first with
  | nil => simp
  | cons second values ih =>
    obtain ⟨hmem, hbound⟩ := ih (max first second)
    constructor
    · cases hmem with
      | inl hmax => rw [List.foldl_cons, hmax]; grind
      | inr hin => exact .inr (List.mem_cons_of_mem _ hin)
    · intro value hvalue
      have hbest : max first second ≤ (second :: values).foldl max first := hbound (.inl rfl)
      cases hvalue with
      | inl hfirst =>
        rw [hfirst]
        exact (le_max_left ..).trans hbest
      | inr hin =>
        cases List.mem_cons.mp hin with
        | inl hsecond =>
          rw [hsecond]
          exact (le_max_right ..).trans hbest
        | inr hrest => exact hbound (.inr hrest)

theorem isLeast_foldl_min {κ : Type*} [LinearOrder κ] (values : List κ) (first : κ) :
    IsLeast {value | value = first ∨ value ∈ values} (values.foldl min first) :=
  @isGreatest_foldl_max κᵒᵈ _ values first

/-! ### The statistics -/

theorem readNear_bounds {log : List CachedPrice} {targetMs maxPastToleranceMs maxFutureToleranceMs : ℤ}
    {sample : CachedPrice} (h : ReadNear log targetMs maxPastToleranceMs maxFutureToleranceMs sample)
    (hpast : 0 ≤ maxPastToleranceMs) (hfuture : 0 ≤ maxFutureToleranceMs) :
    targetMs - maxPastToleranceMs ≤ sample.timestampMs ∧
      sample.timestampMs ≤ targetMs + maxFutureToleranceMs := by
  cases h.near with
  | inl hbefore => omega
  | inr hafter => omega

theorem Kept.mem_windowSamples {log : List CachedPrice} {entry : SymbolPriceState}
    (h : Kept log entry) {openTick closeTick : CachedPrice} {endMs : ℤ}
    (hsame : ∀ a ∈ window log openTick closeTick endMs, ∀ b ∈ window log openTick closeTick endMs,
      a.timestampMs = b.timestampMs → a = b) {sample : CachedPrice} :
    sample ∈ windowSamples entry openTick closeTick endMs ↔
      sample ∈ window log openTick closeTick endMs := by
  have hlatest : ∀ tick ∈ entry.latest.toList, Held log tick := by
    intro tick htick
    rw [Option.mem_toList, ← h.getLast?] at htick
    exact h.mem_ticks.mp (List.mem_of_getLast? htick)
  have hgiven : ∀ tick, tick ∈ [openTick] ++
      entry.ticks.filter (fun sample => openTick.timestampMs ≤ sample.timestampMs &&
        sample.timestampMs ≤ endMs) ++
      entry.latest.toList.filter (fun sample => openTick.timestampMs ≤ sample.timestampMs &&
        sample.timestampMs ≤ endMs) ++ [closeTick] ↔
      tick ∈ window log openTick closeTick endMs := by
    intro tick
    have hkept := hlatest tick
    simp only [window, Set.mem_ofPred_eq, Set.mem_Icc, List.mem_append, List.mem_singleton,
      List.mem_filter, Bool.and_eq_true, decide_eq_true_eq, h.mem_ticks]
    tauto
  unfold windowSamples
  rw [mem_pushSamples, List.nil_append, hgiven]
  intro a ha b hb
  rw [List.nil_append, hgiven] at ha hb
  exact hsame a ha b hb

theorem getWindowStats_ok {openService closeService service : ChainlinkPriceService} {asset : String}
    {startMs endMs nowMs : ℤ} {stats : ChainlinkPriceWindowStats}
    (h : getWindowStats openService closeService service asset startMs endMs nowMs = .ok stats) :
    startMs < endMs ∧ ∃ openTick closeTick symbol entry,
      openService.getPriceNearTimestampWithTolerance asset startMs ptbStartTickMaxPastToleranceMs
        ptbStartTickMaxFutureToleranceMs nowMs = .ok openTick ∧
      closeService.getPriceNearTimestampWithTolerance asset endMs (maxPriceAgeSecs * 1000) 0 nowMs =
        .ok closeTick ∧
      assetToSymbol asset = some symbol ∧ service.state symbol = some entry ∧
      stats = windowStats (windowSamples entry openTick closeTick endMs) openTick closeTick := by
  unfold getWindowStats at h
  by_cases hrange : endMs ≤ startMs
  · rw [if_pos hrange] at h
    cases h
  rw [if_neg hrange] at h
  cases hopen : openService.getPriceNearTimestampWithTolerance asset startMs
      ptbStartTickMaxPastToleranceMs ptbStartTickMaxFutureToleranceMs nowMs with
  | error error =>
    rw [hopen] at h
    cases h
  | ok openTick =>
    cases hclose : closeService.getPriceNearTimestampWithTolerance asset endMs
        (maxPriceAgeSecs * 1000) 0 nowMs with
    | error error =>
      rw [hopen, hclose] at h
      cases h
    | ok closeTick =>
      cases hsymbol : assetToSymbol asset with
      | none =>
        rw [hopen, hclose, hsymbol] at h
        cases h
      | some symbol =>
        cases hentry : service.state symbol with
        | none =>
          simp only [hopen, hclose, hsymbol, hentry, Except.mapError, bind, Except.bind] at h
          cases h
        | some entry =>
          simp only [hopen, hclose, hsymbol, hentry, Except.mapError, bind, Except.bind] at h
          exact ⟨not_le.mp hrange, openTick, closeTick, symbol, entry, rfl, rfl, rfl, hentry,
            (Except.ok.inj h).symm⟩

section Reads
variable {events betweenOpen betweenClose : List FeedEvent} {symbol : String} {startMs endMs : ℤ}
  {openTick closeTick : CachedPrice}
  (hspare : ∀ tick ∈ takenIn symbol events (betweenOpen ++ betweenClose),
    tick.timestampMs ∉ Set.Icc (startMs - ptbStartTickMaxPastToleranceMs) endMs)
  (hopen : ReadNear (recorded symbol events) startMs ptbStartTickMaxPastToleranceMs
    ptbStartTickMaxFutureToleranceMs openTick)
  (hclose : ReadNear (recorded symbol (events ++ betweenOpen)) endMs (maxPriceAgeSecs * 1000) 0
    closeTick)
include hspare

theorem lastAt_recorded {t : ℤ}
    (ht : t ∈ Set.Icc (startMs - ptbStartTickMaxPastToleranceMs) endMs) :
    lastAt CachedPrice.timestampMs (recorded symbol (events ++ (betweenOpen ++ betweenClose))) t =
        lastAt CachedPrice.timestampMs (recorded symbol events) t ∧
      lastAt CachedPrice.timestampMs (recorded symbol (events ++ betweenOpen)) t =
        lastAt CachedPrice.timestampMs (recorded symbol events) t := by
  rw [recorded_append, recorded_append]
  refine ⟨lastAt_append_of_ne fun tick htick htime => ?_,
    lastAt_append_of_ne fun tick htick htime => ?_⟩
  · exact hspare tick htick (htime ▸ ht)
  · refine hspare tick ?_ (htime ▸ ht)
    rw [takenIn_append]
    exact List.mem_append_left _ htick

include hopen hclose

theorem window_last {tick : CachedPrice}
    (htick : tick ∈ window (recorded symbol (events ++ (betweenOpen ++ betweenClose))) openTick
      closeTick endMs)
    (hspan : tick.timestampMs ∈ Set.Icc (startMs - ptbStartTickMaxPastToleranceMs) endMs) :
    lastAt CachedPrice.timestampMs (recorded symbol events) tick.timestampMs = some tick := by
  obtain ⟨hall, hbetween⟩ := lastAt_recorded hspare hspan
  obtain rfl | rfl | hheld := htick
  · exact hopen.held.last
  · rw [← hbetween]
    exact hclose.held.last
  · rw [← hall]
    exact hheld.1.last

theorem window_same :
    ∀ a ∈ window (recorded symbol (events ++ (betweenOpen ++ betweenClose))) openTick closeTick endMs,
    ∀ b ∈ window (recorded symbol (events ++ (betweenOpen ++ betweenClose))) openTick closeTick endMs,
      a.timestampMs = b.timestampMs → a = b := by
  have hfrom := (readNear_bounds hopen (by decide) (by decide)).1
  have huntil := (readNear_bounds hclose (by decide) (by decide)).2
  intro a ha b hb htime
  by_cases hspan : a.timestampMs ∈ Set.Icc (startMs - ptbStartTickMaxPastToleranceMs) endMs
  · have hlast := window_last hspare hopen hclose ha hspan
    rw [htime, window_last hspare hopen hclose hb (htime ▸ hspan)] at hlast
    exact (Option.some.inj hlast).symm
  · rw [Set.mem_Icc] at hspan
    obtain rfl | rfl | ⟨-, hin⟩ := ha
    · obtain rfl | rfl | ⟨-, hin⟩ := hb
      · rfl
      · omega
      · have hle := hin.2
        omega
    · obtain rfl | rfl | ⟨-, hin⟩ := hb
      · omega
      · rfl
      · have hle := hin.1
        omega
    · have hle := hin.1
      have hle' := hin.2
      omega

end Reads

/-- The open, the close and the samples of a window are read one after another. As long as nothing
taken in between falls into the window, the statistics are those of all three: the extremes are taken
by one of the window's samples, by the open or by the close, and none lies beyond them. -/
theorem window_stats_exact (events betweenOpen betweenClose : List FeedEvent) {asset symbol : String}
    {startMs endMs nowMs : ℤ} {stats : ChainlinkPriceWindowStats}
    (hsymbol : assetToSymbol asset = some symbol)
    (hspare : ∀ tick ∈ takenIn symbol events (betweenOpen ++ betweenClose),
      tick.timestampMs ∉ Set.Icc (startMs - ptbStartTickMaxPastToleranceMs) endMs)
    (hstats : getWindowStats (events.foldl ChainlinkPriceService.step {})
      ((events ++ betweenOpen).foldl ChainlinkPriceService.step {})
      ((events ++ (betweenOpen ++ betweenClose)).foldl ChainlinkPriceService.step {})
      asset startMs endMs nowMs = .ok stats) :
    ∃ openTick closeTick,
      ReadNear (recorded symbol events) startMs ptbStartTickMaxPastToleranceMs
        ptbStartTickMaxFutureToleranceMs openTick ∧
      ReadNear (recorded symbol (events ++ betweenOpen)) endMs (maxPriceAgeSecs * 1000) 0
        closeTick ∧
      stats.openPrice = openTick.value ∧ stats.closePrice = closeTick.value ∧
      let samples := window (recorded symbol (events ++ (betweenOpen ++ betweenClose))) openTick
        closeTick endMs
      IsGreatest (CachedPrice.value '' samples) stats.highPrice ∧
      IsLeast (CachedPrice.value '' samples) stats.lowPrice ∧
      stats.sampleCount = (CachedPrice.timestampMs '' samples).ncard := by
  obtain ⟨hrange, openTick, closeTick, symbol', entry, hopen, hclose, hsymbol', hentry, rfl⟩ :=
    getWindowStats_ok hstats
  rw [hsymbol] at hsymbol'
  obtain rfl := Option.some.inj hsymbol'
  rw [readNear_run_iff hsymbol] at hopen hclose
  have hkept := (kept_start symbol).run (events ++ (betweenOpen ++ betweenClose))
  rw [← recorded] at hkept
  unfold ChainlinkPriceService.entryOf at hkept
  rw [hentry, Option.getD_some] at hkept
  refine ⟨openTick, closeTick, hopen, hclose, rfl, rfl, ?_⟩
  have hsame := window_same hspare hopen hclose
  generalize recorded symbol (events ++ (betweenOpen ++ betweenClose)) = log at hkept hsame
  have hmem : ∀ sample, sample ∈ windowSamples entry openTick closeTick endMs ↔
      sample ∈ window log openTick closeTick endMs := fun _ => hkept.mem_windowSamples hsame
  have hvalues : CachedPrice.value '' window log openTick closeTick endMs =
      {value | value = openTick.value ∨
        value ∈ (windowSamples entry openTick closeTick endMs).map CachedPrice.value} := by
    ext value
    simp only [Set.mem_image, Set.mem_ofPred_eq, List.mem_map, hmem]
    exact ⟨.inr, fun h => h.elim (fun hopen => ⟨openTick, .inl rfl, hopen.symm⟩) id⟩
  have htimes : CachedPrice.timestampMs '' window log openTick closeTick endMs =
      ((windowSamples entry openTick closeTick endMs).map CachedPrice.timestampMs).toFinset := by
    ext time
    simp only [Set.mem_image, List.coe_toFinset, List.mem_map, Set.mem_ofPred_eq, hmem]
  refine ⟨hvalues ▸ isGreatest_foldl_max _ _, hvalues ▸ isLeast_foldl_min _ _, ?_⟩
  have hnodup : ((windowSamples entry openTick closeTick endMs).map CachedPrice.timestampMs).Nodup :=
    @pushSamples_nodup _ [] List.nodup_nil
  rw [htimes, Set.ncard_coe_finset, List.toFinset_card_of_nodup hnodup, List.length_map]
  rfl

theorem window_stats_exact_of_three_ticks :
    ∃ openTick closeTick,
      ReadNear [⟨70000, 1000, 1010⟩, ⟨69900, 1400, 1410⟩, ⟨70050, 1900, 1910⟩] 1000 2000 2000
        openTick ∧
      ReadNear [⟨70000, 1000, 1010⟩, ⟨69900, 1400, 1410⟩, ⟨70050, 1900, 1910⟩, ⟨70200, 2500, 2510⟩]
        2000 30000 0 closeTick ∧
      (70000 : ℚ) = openTick.value ∧ (70050 : ℚ) = closeTick.value ∧
      let samples := window [⟨70000, 1000, 1010⟩, ⟨69900, 1400, 1410⟩, ⟨70050, 1900, 1910⟩,
        ⟨70200, 2500, 2510⟩] openTick closeTick 2000
      IsGreatest (CachedPrice.value '' samples) 70050 ∧
      IsLeast (CachedPrice.value '' samples) 69900 ∧
      3 = (CachedPrice.timestampMs '' samples).ncard :=
  @window_stats_exact [.price "btc/usd" 70000 1000 1010, .price "btc/usd" 69900 1400 1410,
    .price "btc/usd" 70050 1900 1910] [.price "btc/usd" 70200 2500 2510] [] "btc" "btc/usd" 1000 2000
    3000 ⟨70000, 70050, 69900, 70050, 3⟩ (by decide +kernel) (by decide +kernel) (by decide +kernel)

end PolymarketBot.Chainlink
