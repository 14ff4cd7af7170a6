import Mathlib.Data.Set.Subsingleton
import PolymarketBot.Lib.Moments
import PolymarketBot.PriceCache.Protocol

/-! How the cached price to beat of a market can change, over every interleaving of lookups, seeds and
fetches, and which of their requests can be out at once. -/

namespace PolymarketBot.PriceCache
open PolymarketBot.Flow Lib Prog

/-! ### What every call keeps -/

section Pool
variable {ι : Type} {i j : ι} {s t : PtbView} {c : PtbCall}
variable {w w' : PolymarketPriceToBeatService ι} {r : PtbReply}

/-- What a thread holds is in flight in its name, and a market that it may store a price for has no
verified one. -/
structure Knows (i : ι) (s : PtbView) (w : PolymarketPriceToBeatService ι) : Prop where
  possible : s.impossible = false
  fetching : Holds i s.fetching w.fetchInflight
  window : Holds i s.window w.windowFetchInflight
  unverified : s.mayStore = true → ∀ marketSlug, s.fetching = some marketSlug →
    (w.cache marketSlug).any (·.isVerifiedPolymarket) = false

/-- What is cached of a market later: the same; or a first price; or, in place of one that was not
the verified one of the market, that. -/
def Follows (before after : Option PolymarketPriceToBeatSnapshot) : Prop :=
  after = before ∨ before.any (·.isVerifiedPolymarket) = false ∧ after.isSome = true ∧
    (before.isSome = true → after.any (·.isVerifiedPolymarket) = true)

def Later (w w' : PolymarketPriceToBeatService ι) : Prop :=
  ∀ marketSlug, Follows (w.cache marketSlug) (w'.cache marketSlug)

theorem follows_trans {a b c : Option PolymarketPriceToBeatSnapshot} (hab : Follows a b)
    (hbc : Follows b c) : Follows a c := by
  cases hab with
  | inl hsame => exact hsame ▸ hbc
  | inr hab =>
    cases hbc with
    | inl hsame => exact hsame ▸ .inr hab
    | inr hbc =>
      refine .inr ⟨hab.1, hbc.2.1, fun hsome => ?_⟩
      have hverified := hab.2.2 hsome
      rw [hbc.1] at hverified
      cases hverified

instance : IsPreorder (PolymarketPriceToBeatService ι) Later where
  refl := fun _ _ => .inl rfl
  trans := fun _ _ _ hab hbc marketSlug => follows_trans (hab marketSlug) (hbc marketSlug)

theorem Later.of_cache (h : w'.cache = w.cache) : Later w w' := fun _ => .inl (by rw [h])

theorem Later.update {marketSlug : String} {snapshot : PolymarketPriceToBeatSnapshot}
    (h : Follows (w.cache marketSlug) (some snapshot)) :
    Later w { w with cache := Function.update w.cache marketSlug (some snapshot) } := by
  intro market
  by_cases hmarket : market = marketSlug
  · rw [hmarket]
    simp only [Function.update_self]
    exact h
  · exact .inl (Function.update_of_ne hmarket ..)

theorem Knows.same (h : Knows i s w) (hcache : w'.cache = w.cache)
    (hfetch : w'.fetchInflight = w.fetchInflight)
    (hwindow : w'.windowFetchInflight = w.windowFetchInflight) : Knows i s w' where
  possible := h.possible
  fetching := hfetch ▸ h.fetching
  window := hwindow ▸ h.window
  unverified := hcache ▸ h.unverified

theorem Knows.stored (h : Knows i s w) {marketSlug : String}
    {snapshot : PolymarketPriceToBeatSnapshot}
    (hstored : s.fetching = some marketSlug → s.mayStore = true →
      snapshot.isVerifiedPolymarket = false) :
    Knows i s { w with cache := Function.update w.cache marketSlug (some snapshot) } where
  possible := h.possible
  fetching := h.fetching
  window := h.window
  unverified := by
    intro hmay market hmarket
    by_cases hsame : market = marketSlug
    · rw [hsame]
      simp only [Function.update_self]
      exact hstored (hsame ▸ hmarket) hmay
    · simp only [Function.update_of_ne hsame]
      exact h.unverified hmay market hmarket

/-- What a call of `i` keeps: what `i` learns from it is true, what the others know stays so, and the
cache goes on from what it was. -/
structure Kept (i : ι) (s : PtbView) (c : PtbCall) (w : PolymarketPriceToBeatService ι)
    (r : PtbReply) : Prop where
  own : Knows i (ptbProtocol.next s c (act i c w r).1) (act i c w r).2
  others : ∀ j ≠ i, ∀ t, Knows j t w → Knows j t (act i c w r).2
  later : Later w (act i c w r).2

theorem Kept.of_same (h : Knows i s w) (hnext : ptbProtocol.next s c (act i c w r).1 = s)
    (hcache : (act i c w r).2.cache = w.cache)
    (hfetch : (act i c w r).2.fetchInflight = w.fetchInflight)
    (hwindow : (act i c w r).2.windowFetchInflight = w.windowFetchInflight) : Kept i s c w r where
  own := hnext.symm ▸ h.same hcache hfetch hwindow
  others := fun _ _ _ ht => ht.same hcache hfetch hwindow
  later := .of_cache hcache

theorem Kept.of_refused {a : PtbAnswer c} (h : Knows i s w) (hact : act i c w r = (.ok a, w))
    (hafter : s.after c a = s) : Kept i s c w r := by
  refine .of_same h ?_ ?_ ?_ ?_ <;> rw [hact]
  exact hafter

theorem isLookupReady_true (snapshot : PolymarketPriceToBeatSnapshot) :
    snapshot.isLookupReady = true := by
  unfold PolymarketPriceToBeatSnapshot.isLookupReady
  split <;> rfl

theorem kept_currentSnapshot (marketSlug : String) (h : Knows i s w) :
    Kept i s (.currentSnapshot marketSlug) w r where
  own := by
    change Knows i (s.after (.currentSnapshot marketSlug) (w.cache marketSlug)) w
    unfold PtbView.after
    simp only
    split_ifs with hfetch
    · refine ⟨h.possible, h.fetching, h.window, fun hmay market hmarket => ?_⟩
      obtain rfl := Option.some.inj (hfetch.symm.trans hmarket)
      simpa using hmay
    · exact h
  others := fun _ _ _ ht => ht
  later := .of_cache rfl

theorem kept_seedSnapshot {marketSlug : String} {snapshot : PolymarketPriceToBeatSnapshot}
    (h : Knows i s w) (hsource : snapshot.isVerifiedPolymarket = false) :
    Kept i s (.seedSnapshot marketSlug snapshot) w r := by
  cases hready : (w.cache marketSlug).any (·.isLookupReady) with
  | true =>
    have hact : act i (.seedSnapshot marketSlug snapshot) w r = (.ok false, w) := if_pos hready
    exact .of_refused h hact rfl
  | false =>
    have hact : act i (.seedSnapshot marketSlug snapshot) w r = (.ok true,
        { w with cache := Function.update w.cache marketSlug (some snapshot) }) :=
      if_neg (Bool.eq_false_iff.mp hready)
    have hempty : w.cache marketSlug = none := by
      cases hcache : w.cache marketSlug with
      | none => rfl
      | some cached =>
        rw [hcache, Option.any_some, isLookupReady_true] at hready
        cases hready
    refine ⟨?_, fun j _ t ht => ?_, ?_⟩
    · rw [hact]
      exact h.stored fun _ _ => hsource
    · rw [hact]
      exact ht.stored fun _ _ => hsource
    · rw [hact]
      refine .update (.inr ⟨?_, rfl, fun hsome => ?_⟩)
      · rw [hempty]
        rfl
      · rw [hempty] at hsome
        cases hsome

theorem kept_storeVerified {marketSlug : String} {snapshot : PolymarketPriceToBeatSnapshot}
    (h : Knows i s w) (hpermits : s.permits (.storeVerifiedSnapshot marketSlug snapshot)) :
    Kept i s (.storeVerifiedSnapshot marketSlug snapshot) w r := by
  obtain ⟨hfetch, hmay, hverified⟩ := hpermits
  refine ⟨⟨h.possible, h.fetching, h.window, fun hstore => ?_⟩, fun j hj t ht => ?_, ?_⟩
  · cases hstore
  · refine ht.stored fun hother _ => ?_
    have hmine := (h.fetching marketSlug).mpr hfetch
    rw [(ht.fetching marketSlug).mpr hother] at hmine
    exact absurd (Option.some.inj hmine) hj
  · exact .update (.inr ⟨h.unverified hmay marketSlug hfetch, rfl, fun _ => hverified⟩)

theorem kept_beginFetch {marketSlug : String} (h : Knows i s w) (hfree : s.fetching = none) :
    Kept i s (.beginBackgroundFetch marketSlug) w r := by
  cases hinflight : w.fetchInflight marketSlug with
  | some k =>
    have hact : act i (.beginBackgroundFetch marketSlug) w r = (.ok false, w) :=
      if_pos (by rw [hinflight]; rfl)
    exact .of_refused h hact rfl
  | none =>
    have hact : act i (.beginBackgroundFetch marketSlug) w r = (.ok true,
        { w with fetchInflight := Function.update w.fetchInflight marketSlug (some i) }) :=
      if_neg (by rw [hinflight]; exact Bool.false_ne_true)
    have hheld := h.fetching
    rw [hfree] at hheld
    refine ⟨?_, fun j hj t ht => ?_, ?_⟩
    · rw [hact]
      exact ⟨h.possible, hheld.take, h.window, fun hmay => Bool.noConfusion hmay⟩
    · rw [hact]
      exact ⟨ht.possible, ht.fetching.taken hj hinflight, ht.window, ht.unverified⟩
    · rw [hact]
      exact .of_cache rfl

theorem kept_finishFetch {marketSlug : String} (h : Knows i s w)
    (hfetch : s.fetching = some marketSlug) :
    Kept i s (.finishBackgroundFetch marketSlug) w r where
  own := by
    have hheld := h.fetching
    rw [hfetch] at hheld
    exact ⟨h.possible, hheld.drop, h.window, fun hmay => Bool.noConfusion hmay⟩
  others := fun j hj t ht =>
    ⟨ht.possible, ht.fetching.dropped hj ((h.fetching marketSlug).mpr hfetch), ht.window,
      ht.unverified⟩
  later := .of_cache rfl

theorem kept_acquireWindow {url : RequestUrl} (h : Knows i s w) (hfree : s.window = none) :
    Kept i s (.acquireWindow url) w r := by
  cases hinflight : w.windowFetchInflight url with
  | some k =>
    have hact : act i (.acquireWindow url) w r = (.ok false, w) :=
      if_pos (by rw [hinflight]; rfl)
    exact .of_refused h hact rfl
  | none =>
    have hact : act i (.acquireWindow url) w r = (.ok true,
        { w with windowFetchInflight := Function.update w.windowFetchInflight url (some i) }) :=
      if_neg (by rw [hinflight]; exact Bool.false_ne_true)
    have hheld := h.window
    rw [hfree] at hheld
    refine ⟨?_, fun j hj t ht => ?_, ?_⟩
    · rw [hact]
      exact ⟨h.possible, h.fetching, hheld.take, h.unverified⟩
    · rw [hact]
      exact ⟨ht.possible, ht.fetching, ht.window.taken hj hinflight, ht.unverified⟩
    · rw [hact]
      exact .of_cache rfl

theorem kept_releaseWindow {url : RequestUrl} (h : Knows i s w) (hwindow : s.window = some url) :
    Kept i s (.releaseWindow url) w r where
  own := by
    have hheld := h.window
    rw [hwindow] at hheld
    exact ⟨h.possible, h.fetching, hheld.drop, h.unverified⟩
  others := fun j hj t ht =>
    ⟨ht.possible, ht.fetching, ht.window.dropped hj ((h.window url).mpr hwindow), ht.unverified⟩
  later := .of_cache rfl

theorem next_fromRepository (hc : c.mayFail = true) (hafter : ∀ a, s.after c a = s)
    (a : PtbAnswer c) : ptbProtocol.next s c (fromRepository a r) = s := by
  unfold fromRepository
  cases r.repositoryError with
  | none => exact hafter a
  | some detail => exact if_pos hc

theorem kept_of_allows (h : Knows i s w) (hallows : ptbProtocol.allows s c) : Kept i s c w r := by
  have hpermits : s.permits c := hallows.resolve_left (by rw [h.possible]; exact Bool.noConfusion)
  cases c with
  | currentSnapshot marketSlug => exact kept_currentSnapshot marketSlug h
  | seedSnapshot marketSlug snapshot => exact kept_seedSnapshot h hpermits
  | storeVerifiedSnapshot marketSlug snapshot => exact kept_storeVerified h hpermits
  | beginBackgroundFetch marketSlug => exact kept_beginFetch h hpermits
  | finishBackgroundFetch marketSlug => exact kept_finishFetch h hpermits
  | acquireWindow url => exact kept_acquireWindow h hpermits
  | releaseWindow url => exact kept_releaseWindow h hpermits
  | boundarySnapshot marketSlug =>
    exact .of_same h (next_fromRepository rfl (fun _ => rfl) _) rfl rfl rfl
  | upsertBoundarySnapshot marketSlug stats =>
    exact .of_same h (next_fromRepository rfl (fun _ => rfl) _) rfl rfl rfl
  | _ => exact .of_same h rfl rfl rfl rfl

/-! ### Whole runs -/

theorem startPool_sound (task : ι → PtbTask) :
    Pool.SoundWith AtRest ptbProtocol (fun _ => True) Knows (startPool task) where
  world := trivial
  thread := by
    intro i
    refine ⟨{}, ⟨rfl, fun marketSlug => ?_, fun url => ?_, fun hmay => Bool.noConfusion hmay⟩,
      program_obeys (task i)⟩
    · exact iff_of_false (Option.some_ne_none i).symm (Option.some_ne_none marketSlug).symm
    · exact iff_of_false (Option.some_ne_none i).symm (Option.some_ne_none url).symm

variable [DecidableEq ι]

theorem run_sound {pool : PtbPool ι} (h : Pool.SoundWith AtRest ptbProtocol (fun _ => True) Knows pool)
    (schedule : List (ι × PtbReply)) :
    Pool.SoundWith AtRest ptbProtocol (fun _ => True) Knows (Pool.run act pool schedule) ∧
      Later pool.world (Pool.run act pool schedule).world := by
  refine h.run_related (fun i s c w r _ hs hallows => ?_) schedule
  have hkept : Kept i s c w r := kept_of_allows hs hallows
  exact ⟨trivial, hkept.own, hkept.others, hkept.later⟩

/-- However lookups, seeds and fetches of any number of tasks interleave, the cached price to beat of a
market is only ever replaced by its verified one, which is never replaced. -/
theorem price_to_beat_settles (task : ι → PtbTask) (schedule more : List (ι × PtbReply)) :
    Later (Pool.run act (startPool task) schedule).world
      (Pool.run act (Pool.run act (startPool task) schedule) more).world :=
  (run_sound (run_sound (startPool_sound task) schedule).1 more).2

/-- The thread is about to ask the api for the window. -/
def AtRequest (pool : PtbPool ι) (url : RequestUrl) (i : ι) : Prop :=
  ∃ k, pool.thread i = .call (.requestCryptoPrice url) k

/-- No two threads ever ask for the same window at once. -/
theorem requests_apart (task : ι → PtbTask) (schedule : List (ι × PtbReply)) (url : RequestUrl) :
    {i | AtRequest (Pool.run act (startPool task) schedule) url i}.Subsingleton := by
  have hsound := (run_sound (startPool_sound task) schedule).1
  have hholds : ∀ i, AtRequest (Pool.run act (startPool task) schedule) url i →
      (Pool.run act (startPool task) schedule).world.windowFetchInflight url = some i := by
    intro i hi
    obtain ⟨k, hcall⟩ := hi
    obtain ⟨s, hs, hobeys⟩ := hsound.thread i
    rw [hcall] at hobeys
    have hpermits : s.permits (.requestCryptoPrice url) :=
      hobeys.1.resolve_left (by rw [hs.possible]; exact Bool.noConfusion)
    exact (hs.window url).mpr hpermits
  intro i hi j hj
  exact Option.some.inj ((hholds i hi).symm.trans (hholds j hj))

def Ended (pool : PtbPool ι) (i : ι) : Prop :=
  (∃ a, pool.thread i = .done a) ∨ ∃ e, pool.thread i = .fail e

/-- Whatever is in flight, its thread goes on: once a task has ended, however its calls were answered,
the market it fetched and the window it asked for are free again. -/
theorem in_flight_goes_on (task : ι → PtbTask) (schedule : List (ι × PtbReply)) :
    let pool := Pool.run act (startPool task) schedule
    (∀ marketSlug i, pool.world.fetchInflight marketSlug = some i → ¬ Ended pool i) ∧
      ∀ url i, pool.world.windowFetchInflight url = some i → ¬ Ended pool i := by
  intro pool
  have hfree : ∀ i, Ended pool i → ∃ s, Knows i s pool.world ∧ s.fetching = none ∧
      s.window = none := by
    intro i hended
    obtain ⟨s, hs, hobeys⟩ := (run_sound (startPool_sound task) schedule).1.thread i
    have hrest : AtRest s := by
      cases hended with
      | inl hdone =>
        obtain ⟨a, ha⟩ := hdone
        rwa [ha] at hobeys
      | inr hfail =>
        obtain ⟨e, he⟩ := hfail
        rwa [he] at hobeys
    exact ⟨s, hs, hrest.resolve_left (by rw [hs.possible]; exact Bool.noConfusion)⟩
  refine ⟨fun marketSlug i hheld hended => ?_, fun url i hheld hended => ?_⟩
  · obtain ⟨s, hs, hfetching, -⟩ := hfree i hended
    have hmine := (hs.fetching marketSlug).mp hheld
    rw [hfetching] at hmine
    cases hmine
  · obtain ⟨s, hs, -, hwindow⟩ := hfree i hended
    have hmine := (hs.window url).mp hheld
    rw [hwindow] at hmine
    cases hmine

end Pool

end PolymarketBot.PriceCache
