import PolymarketBot.PriceCache.Service

/-! What each thread holds while it looks up, seeds or fetches the price to beat, and the calls it makes
on the strength of it. -/

namespace PolymarketBot.PriceCache
open PolymarketBot.Flow Lib Prog

/-- What a thread holds, and whether the market that it fetches had no verified price when it last
looked. A call that never fails would have to, for `impossible`. -/
structure PtbView where
  fetching : Option String := none
  window : Option RequestUrl := none
  mayStore : Bool := false
  impossible : Bool := false

def PtbCall.mayFail : PtbCall → Bool
  | boundarySnapshot _ | upsertBoundarySnapshot _ _ => true
  | _ => false

def PtbView.after (s : PtbView) : (c : PtbCall) → PtbAnswer c → PtbView
  | .currentSnapshot marketSlug, snapshot =>
    if s.fetching = some marketSlug then
      { s with mayStore := !snapshot.any (·.isVerifiedPolymarket) }
    else s
  | .beginBackgroundFetch marketSlug, began =>
    if began then { s with fetching := some marketSlug, mayStore := false } else s
  | .finishBackgroundFetch _, _ => { s with fetching := none, mayStore := false }
  | .acquireWindow url, acquired => if acquired then { s with window := some url } else s
  | .releaseWindow _, _ => { s with window := none }
  | .storeVerifiedSnapshot _ _, _ => { s with mayStore := false }
  | _, _ => s

/-- A thread stores what it has verified for the market that it fetches, once for each look at it, and
asks the api for the window that it holds. -/
def PtbView.permits (s : PtbView) : PtbCall → Prop
  | .seedSnapshot _ snapshot => snapshot.isVerifiedPolymarket = false
  | .beginBackgroundFetch _ => s.fetching = none
  | .finishBackgroundFetch marketSlug => s.fetching = some marketSlug
  | .storeVerifiedSnapshot marketSlug snapshot =>
    s.fetching = some marketSlug ∧ s.mayStore = true ∧ snapshot.isVerifiedPolymarket = true
  | .acquireWindow _ => s.window = none
  | .releaseWindow url => s.window = some url
  | .requestCryptoPrice url => s.window = some url
  | _ => True

def ptbProtocol : Protocol PtbCall PtbAnswer PriceToBeatError PtbView where
  next s c x :=
    match x with
    | .ok a => s.after c a
    | .error _ => if c.mayFail then s else { s with impossible := true }
  allows s c := s.impossible = true ∨ s.permits c

/-! ### The threads keep to it -/

section Obeys
variable {α β : Type} {s : PtbView}

theorem after_impossible (h : s.impossible = true) (c : PtbCall) (a : PtbAnswer c) :
    (s.after c a).impossible = true := by
  cases c <;> simp only [PtbView.after] <;> first | exact h | (split_ifs <;> exact h)

theorem obeys_impossible {Q : Except PriceToBeatError α → PtbView → Prop}
    (hQ : ∀ x s, s.impossible = true → Q x s) (p : Ptb α) (h : s.impossible = true) :
    p.Obeys ptbProtocol Q s := by
  induction p generalizing s with
  | done a => exact hQ _ s h
  | fail e => exact hQ _ s h
  | call c k ih =>
    refine ⟨.inl h, fun x => ih x ?_⟩
    cases x with
    | ok a => exact after_impossible h c a
    | error e =>
      unfold ptbProtocol
      simp only
      split_ifs
      · exact h
      · rfl

theorem obeys_ask {c : PtbCall} {f : PtbAnswer c → Ptb β}
    {Q : Except PriceToBeatError β → PtbView → Prop} (hQ : ∀ x s, s.impossible = true → Q x s)
    (hsure : c.mayFail = false) (hallows : s.permits c)
    (hf : ∀ a, (f a).Obeys ptbProtocol Q (s.after c a)) :
    (ask c >>= f).Obeys ptbProtocol Q s := by
  refine obeys_perform (.inr hallows) hf fun e => hQ _ _ ?_
  unfold ptbProtocol
  simp only
  rw [if_neg (Bool.eq_false_iff.mp hsure)]

/-- The thread is where it was, unless the impossible has happened. -/
def Back (s : PtbView) {α : Type} (_ : Except PriceToBeatError α) (s' : PtbView) : Prop :=
  s'.impossible = true ∨ s' = s

theorem back_impossible (s : PtbView) (x : Except PriceToBeatError α) (s' : PtbView)
    (h : s'.impossible = true) : Back s x s' := .inl h

theorem obeys_plain {c : PtbCall} {f : PtbAnswer c → Ptb β}
    {Q : Except PriceToBeatError β → PtbView → Prop} (hQ : ∀ x s, s.impossible = true → Q x s)
    (hsure : c.mayFail = false) (hallows : s.permits c) (hafter : ∀ a, s.after c a = s)
    (hf : ∀ a, (f a).Obeys ptbProtocol Q s) : (ask c >>= f).Obeys ptbProtocol Q s := by
  refine obeys_ask hQ hsure hallows fun a => ?_
  rw [hafter]
  exact hf a

theorem fetchWindow_obeys (spec : PriceToBeatQuerySpec) (hwindow : s.window = none) :
    (fetchCryptoPriceWindowFromApi spec).Obeys ptbProtocol (Back s) s := by
  have hback := @back_impossible CryptoPriceApiResponse s
  have hreleased : ∀ url, { { s with window := some url } with window := none } = s := by
    intro url
    rw [← hwindow]
  unfold fetchCryptoPriceWindowFromApi
  refine obeys_ask hback rfl hwindow fun acquired => ?_
  cases acquired with
  | false => exact .inr rfl
  | true =>
    refine obeys_plain hback rfl rfl (fun _ => rfl) fun reply => ?_
    cases reply with
    | response response =>
      exact obeys_ask hback rfl rfl fun _ => .inr (hreleased _)
    | tooManyRequests retryAfterMs =>
      refine obeys_plain hback rfl trivial (fun _ => rfl) fun _ => ?_
      exact obeys_ask hback rfl rfl fun _ => .inr (hreleased _)
    | failed detail =>
      exact obeys_ask hback rfl rfl fun _ => .inr (hreleased _)

/-- The thread still fetches the market, unless the impossible has happened. -/
def Fetching (marketSlug : String) {α : Type} (_ : Except PriceToBeatError α) (s : PtbView) : Prop :=
  s.impossible = true ∨ s.fetching = some marketSlug ∧ s.window = none

theorem fetching_impossible (marketSlug : String) (x : Except PriceToBeatError α) (s : PtbView)
    (h : s.impossible = true) : Fetching marketSlug x s := .inl h

theorem storeVerified_obeys {marketSlug : String} {snapshot : PolymarketPriceToBeatSnapshot}
    {a : α} (hfetch : s.fetching = some marketSlug) (hwindow : s.window = none)
    (hstore : s.mayStore = true) (hverified : snapshot.isVerifiedPolymarket = true) :
    (storeVerifiedPolymarketSnapshot marketSlug snapshot >>= fun _ => pure a).Obeys ptbProtocol
      (Fetching marketSlug) s := by
  have hback := @fetching_impossible α marketSlug
  unfold storeVerifiedPolymarketSnapshot
  rw [bind_assoc]
  refine obeys_ask hback rfl ⟨hfetch, hstore, hverified⟩ fun _ => ?_
  exact obeys_plain hback rfl trivial (fun _ => rfl) fun _ => .inr ⟨hfetch, hwindow⟩

theorem ofExcept_ok (a : α) (f : α → Ptb β) : ofExcept (.ok a) >>= f = f a := rfl

theorem any_verified_of_filter {current : Option PolymarketPriceToBeatSnapshot}
    (h : (current.filter fun snapshot => snapshot.verified && snapshot.isLookupReady) = none) :
    current.any (·.isVerifiedPolymarket) = false := by
  cases current with
  | none => rfl
  | some snapshot =>
    have hready : snapshot.isLookupReady = true := by
      unfold PolymarketPriceToBeatSnapshot.isLookupReady
      split <;> rfl
    rw [Option.filter_eq_none_iff] at h
    have hnot := h snapshot rfl
    rw [hready, Bool.and_true] at hnot
    rw [Option.any_some]
    unfold PolymarketPriceToBeatSnapshot.isVerifiedPolymarket
    rw [Bool.eq_false_of_not_eq_true hnot, Bool.and_false]

theorem fetchSnapshotOnce_obeys {marketSlug : String} (hfetch : s.fetching = some marketSlug)
    (hwindow : s.window = none) :
    (fetchSnapshotOnce marketSlug).Obeys ptbProtocol (Fetching marketSlug) s := by
  have hback := @fetching_impossible PolymarketPriceToBeatSnapshot marketSlug
  unfold fetchSnapshotOnce
  refine obeys_ask hback rfl trivial fun current => ?_
  generalize hview : s.after (.currentSnapshot marketSlug) current = view
  have hfetch' : view.fetching = some marketSlug := by
    rw [← hview]
    unfold PtbView.after
    simp [hfetch]
  have hwindow' : view.window = none := by
    rw [← hview]
    unfold PtbView.after
    simp [hfetch, hwindow]
  have hhere : ∀ x : Except PriceToBeatError PolymarketPriceToBeatSnapshot,
      Fetching marketSlug x view := fun _ => .inr ⟨hfetch', hwindow'⟩
  cases hready : current.filter fun snapshot => snapshot.verified && snapshot.isLookupReady with
  | some snapshot => exact hhere _
  | none =>
    have hstore : view.mayStore = true := by
      rw [← hview]
      unfold PtbView.after
      simp [hfetch, any_verified_of_filter hready]
    cases buildPriceToBeatQuerySpec marketSlug with
    | error e => exact hhere (.error e)
    | ok spec =>
      simp only [ofExcept_ok]
      cases buildPreviousPriceToBeatQuerySpec spec with
      | error e => exact hhere (.error e)
      | ok previousSpec =>
        simp only [ofExcept_ok]
        refine obeys_plain hback rfl trivial (fun _ => rfl) fun close => ?_
        cases close with
        | some priceToBeat => exact storeVerified_obeys hfetch' hwindow' hstore rfl
        | none =>
          refine obeys_plain hback rfl trivial (fun _ => rfl) fun enabled => ?_
          cases enabled with
          | false => exact hhere _
          | true =>
            refine obeys_plain hback rfl trivial (fun _ => rfl) fun cooldown => ?_
            cases cooldown with
            | some cooldownMs => exact hhere _
            | none =>
              refine obeys_attempt (fetchWindow_obeys previousSpec hwindow') fun api s' hs' => ?_
              cases hs' with
              | inl himpossible => exact obeys_impossible hback _ himpossible
              | inr hsame =>
                rw [hsame]
                cases api with
                | error err =>
                  simp only
                  split_ifs <;> exact hhere _
                | ok response =>
                  simp only
                  cases response.verifiedClosePrice with
                  | none => exact hhere _
                  | some priceToBeat =>
                    refine obeys_plain hback rfl trivial (fun _ => rfl) fun _ => ?_
                    exact storeVerified_obeys hfetch' hwindow' hstore rfl

/-- The attempts come to an end, and the thread still fetches the market. -/
def Fetched (marketSlug : String) {α : Type} (x : Except PriceToBeatError α) (s : PtbView) : Prop :=
  s.impossible = true ∨ (∃ a, x = .ok a) ∧ s.fetching = some marketSlug ∧ s.window = none

theorem fetched_impossible (marketSlug : String) (x : Except PriceToBeatError α) (s : PtbView)
    (h : s.impossible = true) : Fetched marketSlug x s := .inl h

theorem fetchAttempts_obeys {marketSlug : String} (left : ℕ) (hfetch : s.fetching = some marketSlug)
    (hwindow : s.window = none) :
    (fetchAttempts marketSlug left).Obeys ptbProtocol (Fetched marketSlug) s := by
  induction left generalizing s with
  | zero => exact .inr ⟨⟨none, rfl⟩, hfetch, hwindow⟩
  | succ left ih =>
    unfold fetchAttempts
    refine obeys_attempt (fetchSnapshotOnce_obeys hfetch hwindow) fun fetched s' hs' => ?_
    cases hs' with
    | inl himpossible => exact obeys_impossible (fetched_impossible marketSlug) _ himpossible
    | inr hs' =>
      obtain ⟨hfetch', hwindow'⟩ := hs'
      cases fetched with
      | ok snapshot =>
        simp only
        split_ifs
        · exact .inr ⟨⟨none, rfl⟩, hfetch', hwindow'⟩
        · exact ih hfetch' hwindow'
      | error err =>
        simp only
        split_ifs
        · exact ih hfetch' hwindow'
        · exact .inr ⟨⟨some err.message, rfl⟩, hfetch', hwindow'⟩

/-- The thread holds nothing, unless the impossible has happened. -/
def AtRest (s : PtbView) : Prop := s.impossible = true ∨ s.fetching = none ∧ s.window = none

theorem atRest_impossible (_ : Except PriceToBeatError α) (s : PtbView) (h : s.impossible = true) :
    AtRest s := .inl h

theorem backgroundFetch_obeys {marketSlug : String} (hfetch : s.fetching = some marketSlug)
    (hwindow : s.window = none) :
    (backgroundFetch marketSlug).Obeys ptbProtocol (fun _ => AtRest) s := by
  have hend : ∀ s : PtbView, s.fetching = some marketSlug → s.window = none →
      (ask (.finishBackgroundFetch marketSlug)).Obeys ptbProtocol (fun _ => AtRest) s := by
    intro s hfetch hwindow
    rw [← bind_pure (ask (.finishBackgroundFetch marketSlug))]
    exact obeys_ask atRest_impossible rfl hfetch fun _ => .inr ⟨rfl, hwindow⟩
  unfold backgroundFetch
  refine obeys_bind (fetchAttempts_obeys _ hfetch hwindow) (fun detail s' hs' => ?_)
    fun e s' hs' => ?_
  · cases hs' with
    | inl himpossible => exact obeys_impossible atRest_impossible _ himpossible
    | inr hs' =>
      obtain ⟨-, hfetch', hwindow'⟩ := hs'
      cases detail with
      | some detail =>
        exact obeys_plain atRest_impossible rfl trivial (fun _ => rfl) fun _ =>
          hend s' hfetch' hwindow'
      | none => exact hend s' hfetch' hwindow'
  · cases hs' with
    | inl himpossible => exact .inl himpossible
    | inr hs' =>
      obtain ⟨⟨a, ha⟩, -⟩ := hs'
      cases ha

theorem ensureBackgroundFetch_obeys (marketSlug : String) (hrest : AtRest s) :
    (ensureBackgroundFetch marketSlug).Obeys ptbProtocol (fun _ => AtRest) s := by
  cases hrest with
  | inl himpossible => exact obeys_impossible atRest_impossible _ himpossible
  | inr hrest =>
    have hlook : ∀ current, s.after (.currentSnapshot marketSlug) current = s := by
      intro current
      unfold PtbView.after
      rw [hrest.1]
      rfl
    unfold ensureBackgroundFetch
    refine obeys_plain atRest_impossible rfl trivial hlook fun current => ?_
    cases current.filter fun snapshot => snapshot.verified && snapshot.isLookupReady with
    | some snapshot => exact .inr hrest
    | none =>
      refine obeys_plain atRest_impossible rfl trivial (fun _ => rfl) fun enabled => ?_
      cases enabled with
      | false => exact .inr hrest
      | true =>
        refine obeys_ask atRest_impossible rfl hrest.1 fun began => ?_
        cases began with
        | false => exact .inr hrest
        | true => exact backgroundFetch_obeys rfl hrest.2

/-- What a thread that holds nothing does without taking hold of anything. -/
def PtbCall.IsPlain : PtbCall → Prop
  | seedSnapshot _ snapshot => snapshot.isVerifiedPolymarket = false
  | beginBackgroundFetch _ | finishBackgroundFetch _ | storeVerifiedSnapshot _ _ => False
  | acquireWindow _ | releaseWindow _ | requestCryptoPrice _ => False
  | _ => True

theorem permits_of_plain {c : PtbCall} (hc : c.IsPlain) : s.permits c := by
  cases c <;> trivial

theorem after_of_plain {c : PtbCall} (hc : c.IsPlain) (hrest : s.fetching = none)
    (a : PtbAnswer c) : s.after c a = s := by
  cases c with
  | currentSnapshot marketSlug =>
    unfold PtbView.after
    rw [hrest]
    rfl
  | _ => first | rfl | exact hc.elim

theorem obeys_of_plain {p : Ptb α} (hp : p.Only PtbCall.IsPlain) (hrest : AtRest s) :
    p.Obeys ptbProtocol (fun _ => AtRest) s := by
  refine obeys_of_only (fun s c _ hc => .inr (permits_of_plain hc)) (fun s c x hs hc => ?_) hp hrest
  cases x with
  | ok a =>
    cases hs with
    | inl himpossible => exact .inl (after_impossible himpossible c a)
    | inr hs =>
      unfold ptbProtocol
      simp only [after_of_plain hc hs.1]
      exact .inr hs
  | error e =>
    unfold ptbProtocol
    simp only
    split_ifs
    · exact hs
    · exact .inl rfl

/-! ### What the tasks do -/

theorem ask_plain {c : PtbCall} {f : PtbAnswer c → Ptb α} (hc : c.IsPlain)
    (hf : ∀ a, (f a).Only PtbCall.IsPlain) : (ask c >>= f).Only PtbCall.IsPlain :=
  Only.bind ((only_perform c).mpr hc) hf

theorem seedSnapshotWithSource_plain {source : PriceToBeatSource} (hsource : source ≠ .polymarket)
    (marketSlug asset timeframe : String) (price : ℚ) (latency : Option ℤ) :
    (seedSnapshotWithSource marketSlug asset timeframe price source latency).Only
      PtbCall.IsPlain := by
  refine ask_plain ?_ fun seeded => ?_
  · change (decide (source = .polymarket) && true) = false
    rw [decide_eq_false hsource, Bool.false_and]
  · cases seeded with
    | false => trivial
    | true => exact ask_plain trivial fun _ => trivial

theorem trySeedSnapshotFromChainlink_plain (marketSlug : String) :
    (trySeedSnapshotFromChainlink marketSlug).Only PtbCall.IsPlain := by
  refine ask_plain trivial fun current => ?_
  cases current.filter (·.isLookupReady) with
  | some snapshot => trivial
  | none =>
    cases buildPriceToBeatQuerySpec marketSlug with
    | error e => trivial
    | ok spec =>
      simp only [ofExcept_ok]
      refine ask_plain trivial fun tick => ?_
      cases tick with
      | error detail => trivial
      | ok tick =>
        refine Only.bind (seedSnapshotWithSource_plain (by decide) ..) fun _ => ?_
        exact ask_plain trivial fun _ => trivial

theorem ensureCompletedBoundary_plain (spec : PriceToBeatQuerySpec) :
    (ensureCompletedBoundaryFromChainlink spec).Only PtbCall.IsPlain := by
  refine ask_plain trivial fun stored => ?_
  cases (stored.bind fun snapshot => validPrice snapshot.closePrice).isSome with
  | true => trivial
  | false =>
    refine ask_plain trivial fun stats => ?_
    cases stats with
    | none => trivial
    | some stats => exact (only_perform _).mpr trivial

theorem seedFromRtdsPreviousClose_plain (marketSlug : String) :
    (seedFromRtdsPreviousClose marketSlug).Only PtbCall.IsPlain := by
  refine ask_plain trivial fun current => ?_
  cases current.filter (·.isLookupReady) with
  | some snapshot => trivial
  | none =>
    cases buildPriceToBeatQuerySpec marketSlug with
    | error e => trivial
    | ok spec =>
      simp only [ofExcept_ok]
      cases buildPreviousPriceToBeatQuerySpec spec with
      | error e => trivial
      | ok previousSpec =>
        simp only [ofExcept_ok]
        refine Only.bind (ensureCompletedBoundary_plain previousSpec) fun _ => ?_
        refine ask_plain trivial fun stored => ?_
        cases stored with
        | none => trivial
        | some stored =>
          simp only
          cases validPrice stored.closePrice with
          | none => trivial
          | some closePrice =>
            refine Only.bind (seedSnapshotWithSource_plain (by decide) ..) fun _ => ?_
            exact ask_plain trivial fun _ => trivial

theorem readySnapshot_obeys (marketSlug : String) (snapshot : PolymarketPriceToBeatSnapshot)
    (hrest : AtRest s) :
    (readySnapshot marketSlug snapshot).Obeys ptbProtocol (fun _ => AtRest) s := by
  have hdone : ∀ s : PtbView, AtRest s →
      (pure (.ready snapshot) : Ptb PriceToBeatLookup).Obeys ptbProtocol (fun _ => AtRest) s :=
    fun s hs => hs
  unfold readySnapshot
  split_ifs
  · refine obeys_bind (obeys_of_plain ((only_perform PtbCall.httpFallbackEnabled).mpr trivial) hrest)
      (fun enabled s' hs' => ?_) fun e s' hs' => hs'
    cases enabled with
    | false => exact hdone s' hs'
    | true =>
      exact obeys_bind (ensureBackgroundFetch_obeys marketSlug hs') (fun _ s' hs' => hdone s' hs')
        fun e s' hs' => hs'
  · exact hdone s hrest

theorem ask_obeys {c : PtbCall} {f : PtbAnswer c → Ptb α} (hc : c.IsPlain) (hrest : AtRest s)
    (hf : ∀ a s', AtRest s' → (f a).Obeys ptbProtocol (fun _ => AtRest) s') :
    (ask c >>= f).Obeys ptbProtocol (fun _ => AtRest) s :=
  obeys_bind (obeys_of_plain ((only_perform c).mpr hc) hrest) hf fun _ _ hs' => hs'

theorem lookAgain_obeys (marketSlug : String) (hrest : AtRest s) :
    (lookAgain marketSlug).Obeys ptbProtocol (fun _ => AtRest) s := by
  have hpending : ∀ s : PtbView, AtRest s → (do
      ensureBackgroundFetch marketSlug
      pure .pending : Ptb PriceToBeatLookup).Obeys ptbProtocol (fun _ => AtRest) s :=
    fun s hs => obeys_bind (ensureBackgroundFetch_obeys marketSlug hs) (fun _ s' hs' => hs')
      fun e s' hs' => hs'
  unfold lookAgain
  refine ask_obeys trivial hrest fun current s' hs' => ?_
  cases current with
  | some snapshot =>
    simp only
    split_ifs
    · exact readySnapshot_obeys marketSlug snapshot hs'
    · exact hpending s' hs'
  | none =>
    refine ask_obeys trivial hs' fun failure s' hs' => ?_
    cases failure with
    | some detail => exact hs'
    | none => exact hpending s' hs'

theorem tryCachedOrSpawn_obeys (marketSlug : String) (hrest : AtRest s) :
    (tryCachedOrSpawn marketSlug).Obeys ptbProtocol (fun _ => AtRest) s := by
  unfold tryCachedOrSpawn
  refine ask_obeys trivial hrest fun current s' hs' => ?_
  cases current.filter (·.isLookupReady) with
  | some snapshot => exact readySnapshot_obeys marketSlug snapshot hs'
  | none =>
    refine obeys_attempt (obeys_of_plain (trySeedSnapshotFromChainlink_plain marketSlug) hs')
      fun seeded s' hs' => ?_
    cases seeded with
    | error e => exact lookAgain_obeys marketSlug hs'
    | ok seeded =>
      cases seeded with
      | some snapshot => exact readySnapshot_obeys marketSlug snapshot hs'
      | none => exact lookAgain_obeys marketSlug hs'

theorem warm_obeys (marketSlug : String) (hrest : AtRest s) :
    (warmPriceToBeatCacheBg marketSlug).Obeys ptbProtocol (fun _ => AtRest) s := by
  have hlook : (hasAuthoritativeSnapshot marketSlug).Only PtbCall.IsPlain :=
    ask_plain trivial fun _ => trivial
  unfold warmPriceToBeatCacheBg
  refine obeys_bind (obeys_of_plain hlook hrest) (fun known s' hs' => ?_) fun e s' hs' => hs'
  cases known with
  | true => exact hs'
  | false => exact ensureBackgroundFetch_obeys marketSlug hs'

theorem program_obeys (task : PtbTask) : task.program.Obeys ptbProtocol (fun _ => AtRest) {} := by
  have hrest : AtRest {} := .inr ⟨rfl, rfl⟩
  cases task with
  | lookUp marketSlug =>
    exact obeys_bind (tryCachedOrSpawn_obeys marketSlug hrest) (fun _ _ hs' => hs')
      fun _ _ hs' => hs'
  | seedFromChainlink marketSlug asset timeframe price latency =>
    exact obeys_bind (obeys_of_plain (seedSnapshotWithSource_plain (by decide) ..) hrest)
      (fun _ _ hs' => hs') fun _ _ hs' => hs'
  | seedFromPreviousClose marketSlug =>
    exact obeys_bind (obeys_of_plain (seedFromRtdsPreviousClose_plain marketSlug) hrest)
      (fun _ _ hs' => hs') fun _ _ hs' => hs'
  | warm marketSlug => exact warm_obeys marketSlug hrest

end Obeys

end PolymarketBot.PriceCache
