import PolymarketBot.MarketFeed.Stream

/-! Which updates of the market feed reach the runner, over every interleaving of its parties. -/

namespace PolymarketBot.MarketFeed
open PolymarketBot.Flow Lib Prog

/-- What a party has left to do with what it wrote or took. -/
structure FeedView where
  party : FeedParty
  marking : Finset String := ∅
  taken : Finset String := ∅
  inHand : Finset String := ∅

def FeedCall.isStreams : FeedCall → Bool
  | writeCache _ | markDirty _ | notifyOne => true
  | _ => false

def FeedCall.isRunners : FeedCall → Bool
  | marketUpdateNotified | cacheRequiresRefresh | takeDirtyMarketTokens
  | clearDirtyMarketTokens _ | marketSnapshots _ => true
  | _ => false

/-- What a stream writes it marks next; what the runner takes it clears, and then reads. -/
def feedProtocol : Protocol FeedCall FeedAnswer Unit FeedView where
  next s
    | .writeCache updates, .ok _ => { s with marking := (updates.map (·.tokenId)).toFinset }
    | .markDirty _, _ => { s with marking := ∅ }
    | .takeDirtyMarketTokens, .ok tokenIds =>
      { s with taken := tokenIds.toFinset, inHand := tokenIds.toFinset }
    | .clearDirtyMarketTokens _, .ok _ => { s with taken := ∅ }
    | .marketSnapshots _, .ok _ => { s with inHand := ∅ }
    | _, _ => s
  allows s c :=
    (s.marking = match c with
      | .markDirty tokens => tokens
      | _ => ∅) ∧
    (s.taken = match c with
      | .clearDirtyMarketTokens tokenIds => tokenIds.toFinset
      | _ => ∅) ∧
    (s.inHand = match c with
      | .clearDirtyMarketTokens tokenIds => tokenIds.toFinset
      | .marketSnapshots tokenIds => tokenIds.toFinset
      | _ => ∅) ∧
    (c.isStreams → ∃ n, s.party = .stream n) ∧ (c.isRunners → s.party = .runner)

/-! ### The parties keep to it -/

section Obeys
variable {s : FeedView}

/-- Nothing is left to do. -/
structure FeedView.Idle (s : FeedView) : Prop where
  marking : s.marking = ∅
  taken : s.taken = ∅
  inHand : s.inHand = ∅

/-- Calls that leave a party's view as it is. -/
def FeedCall.isPlain : FeedCall → Bool
  | writeCache _ | markDirty _ | takeDirtyMarketTokens | clearDirtyMarketTokens _
  | marketSnapshots _ => false
  | _ => true

theorem plain_next {c : FeedCall} (hc : c.isPlain) (x : Except Unit (FeedAnswer c)) :
    feedProtocol.next s c x = s := by
  cases c <;> first | contradiction | rfl

theorem plain_allows {c : FeedCall} (hc : c.isPlain) (hs : s.Idle)
    (hstream : c.isStreams → ∃ n, s.party = .stream n) (hrunner : c.isRunners → s.party = .runner) :
    feedProtocol.allows s c := by
  cases c <;> first | contradiction | exact ⟨hs.marking, hs.taken, hs.inHand, hstream, hrunner⟩

theorem obeys_plain {β : Type} {c : FeedCall} {f : FeedAnswer c → Feed β}
    {Q : Except Unit β → FeedView → Prop} (hc : c.isPlain) (hs : s.Idle)
    (hstream : c.isStreams → ∃ n, s.party = .stream n) (hrunner : c.isRunners → s.party = .runner)
    (hf : ∀ a, (f a).Obeys feedProtocol Q s) (he : ∀ e, Q (.error e) s) :
    (ask c >>= f).Obeys feedProtocol Q s := by
  refine obeys_perform (plain_allows hc hs hstream hrunner) ?_ ?_
  · intro a
    rw [plain_next hc]
    exact hf a
  · intro e
    rw [plain_next hc]
    exact he e

theorem obeys_common {β : Type} {c : FeedCall} {f : FeedAnswer c → Feed β}
    {Q : Except Unit β → FeedView → Prop}
    (hc : c.isPlain ∧ c.isStreams = false ∧ c.isRunners = false) (hs : s.Idle)
    (hf : ∀ a, (f a).Obeys feedProtocol Q s) (he : ∀ e, Q (.error e) s) :
    (ask c >>= f).Obeys feedProtocol Q s := by
  obtain ⟨hplain, hstream, hrunner⟩ := hc
  refine obeys_plain hplain hs ?_ ?_ hf he
  · rw [hstream]
    exact fun h => Bool.noConfusion h
  · rw [hrunner]
    exact fun h => Bool.noConfusion h

theorem updateMarketCache_obeys (n : ℕ) (now : ℤ) (payload : Value) :
    (updateMarketCacheFromPayload now payload).Obeys feedProtocol
      (fun x s => x = .ok () → s = { party := .stream n }) { party := .stream n } := by
  unfold updateMarketCacheFromPayload
  by_cases hnone : (payloadUpdates now payload).isEmpty ∧ (payloadTradeTicks now payload).isEmpty
  · rw [if_pos hnone]
    exact fun _ => rfl
  · rw [if_neg hnone]
    refine obeys_perform ⟨rfl, rfl, rfl, fun _ => ⟨n, rfl⟩, fun h => Bool.noConfusion h⟩ ?_
      fun e he => absurd he (by simp)
    intro u
    by_cases hempty : (payloadUpdates now payload).isEmpty
    · rw [if_pos hempty]
      intro _
      rw [List.isEmpty_iff.mp hempty]
      rfl
    · rw [if_neg hempty]
      refine obeys_perform ⟨rfl, rfl, rfl, fun _ => ⟨n, rfl⟩, fun h => Bool.noConfusion h⟩ ?_
        fun e he => absurd he (by simp)
      intro u
      refine ⟨⟨rfl, rfl, rfl, fun _ => ⟨n, rfl⟩, fun h => Bool.noConfusion h⟩, fun x => ?_⟩
      cases x <;> exact fun _ => rfl

theorem idle_start (party : FeedParty) : ({ party := party } : FeedView).Idle := ⟨rfl, rfl, rfl⟩

theorem marketStreamLoop_obeys (n fuel : ℕ) (expectedTokens : Finset String) (connected : Bool) :
    (marketStreamLoop expectedTokens fuel connected).Obeys feedProtocol (fun _ _ => True)
      { party := .stream n } := by
  have hidle := idle_start (.stream n)
  induction fuel generalizing connected with
  | zero => trivial
  | succ fuel ih =>
    cases connected with
    | false =>
      refine obeys_common ⟨rfl, rfl, rfl⟩ hidle (fun desired => ?_) fun _ => trivial
      by_cases hmoved : desired ≠ expectedTokens
      · rw [if_pos hmoved]
        trivial
      · rw [if_neg hmoved]
        refine obeys_common ⟨rfl, rfl, rfl⟩ hidle (fun connected => ?_) fun _ => trivial
        cases connected with
        | false => exact ih false
        | true =>
          refine obeys_common ⟨rfl, rfl, rfl⟩ hidle (fun subscribed => ?_) fun _ => trivial
          exact ih subscribed
    | true =>
      refine obeys_common ⟨rfl, rfl, rfl⟩ hidle (fun desired => ?_) fun _ => trivial
      by_cases hmoved : desired ≠ expectedTokens
      · rw [if_pos hmoved]
        trivial
      · rw [if_neg hmoved]
        refine obeys_common ⟨rfl, rfl, rfl⟩ hidle (fun message => ?_) fun _ => trivial
        cases message with
        | text now payload =>
          refine obeys_bind (updateMarketCache_obeys n now payload) ?_ fun _ _ _ => trivial
          intro u s hs
          rw [hs rfl]
          exact ih true
        | other => exact ih true
        | closed =>
          refine obeys_common ⟨rfl, rfl, rfl⟩ hidle (fun desired => ?_) fun _ => trivial
          by_cases hmoved : desired ≠ expectedTokens
          · rw [if_pos hmoved]
            trivial
          · rw [if_neg hmoved]
            exact ih false

theorem marketTask_obeys (n fuel : ℕ) :
    (marketTask fuel).Obeys feedProtocol (fun _ _ => True) { party := .stream n } := by
  induction fuel with
  | zero => trivial
  | succ fuel ih =>
    refine obeys_common ⟨rfl, rfl, rfl⟩ (idle_start _) (fun tokens => ?_) fun _ => trivial
    cases tokens with
    | none => exact ih
    | some tokens => exact marketStreamLoop_obeys n fuel tokens false

/-- The calls of a subscription tell it nothing that it would have to see to. -/
def FeedCall.isCommon (c : FeedCall) : Prop :=
  c.isPlain ∧ c.isStreams = false ∧ c.isRunners = false

theorem ensureMarketStream_common (tokenIds : List String) (fuel : ℕ) :
    Only FeedCall.isCommon (ensureMarketStream tokenIds fuel) := by
  have hask : ∀ {c : FeedCall}, c.isCommon → Only FeedCall.isCommon (ask c) :=
    fun hc => (only_perform _).mpr hc
  have hrespawn : ∀ tokens, Only FeedCall.isCommon (respawnMarketTask tokens) := by
    intro tokens
    refine .bind (hask ⟨rfl, rfl, rfl⟩) fun _ => .bind (hask ⟨rfl, rfl, rfl⟩) fun _ => ?_
    exact .bind (hask ⟨rfl, rfl, rfl⟩) fun _ => hask ⟨rfl, rfl, rfl⟩
  have hlocked : ∀ tokens, Only FeedCall.isCommon (withMarketTaskLocked tokens) := by
    intro tokens
    unfold withMarketTaskLocked
    split
    · refine .bind (hask ⟨rfl, rfl, rfl⟩) fun _ => .bind (hask ⟨rfl, rfl, rfl⟩) fun _ => ?_
      exact .bind (hask ⟨rfl, rfl, rfl⟩) fun _ => hask ⟨rfl, rfl, rfl⟩
    · refine .bind (hask ⟨rfl, rfl, rfl⟩) fun desired => ?_
      split
      · exact hrespawn tokens
      · refine .bind (hask ⟨rfl, rfl, rfl⟩) fun finished => ?_
        split
        · exact hrespawn tokens
        · exact only_pure ()
  induction fuel with
  | zero => exact only_pure ()
  | succ fuel ih =>
    refine .bind (hask ⟨rfl, rfl, rfl⟩) fun acquired => ?_
    cases acquired with
    | false => exact ih
    | true => exact .bind (hlocked _) fun _ => hask ⟨rfl, rfl, rfl⟩

theorem ensureMarketStream_obeys (n : ℕ) (tokenIds : List String) (fuel : ℕ) :
    (ensureMarketStream tokenIds fuel).Obeys feedProtocol (fun _ _ => True)
      { party := .subscriber n } := by
  let start : FeedView := { party := .subscriber n }
  have hallows : ∀ s c, s = start → FeedCall.isCommon c → feedProtocol.allows s c := by
    intro s c hs hc
    obtain ⟨hplain, hstream, hrunner⟩ := hc
    subst hs
    refine plain_allows hplain (idle_start _) ?_ ?_
    · rw [hstream]
      exact fun h => Bool.noConfusion h
    · rw [hrunner]
      exact fun h => Bool.noConfusion h
  have hnext : ∀ s c x, s = start → FeedCall.isCommon c → feedProtocol.next s c x = start := by
    intro s c x hs hc
    rw [plain_next hc.1]
    exact hs
  exact obeys_mono (obeys_of_only hallows hnext (ensureMarketStream_common tokenIds fuel) rfl)
    fun _ _ _ => trivial

theorem marketUpdateArm_obeys (fuel : ℕ) :
    (marketUpdateArm fuel).Obeys feedProtocol (fun _ _ => True) { party := .runner } := by
  have hidle := idle_start .runner
  induction fuel with
  | zero => trivial
  | succ fuel ih =>
    refine obeys_plain rfl hidle (fun h => Bool.noConfusion h) (fun _ => rfl) (fun notified => ?_)
      fun _ => trivial
    cases notified with
    | false => exact ih
    | true =>
      refine obeys_plain rfl hidle (fun h => Bool.noConfusion h) (fun _ => rfl) (fun refresh => ?_)
        fun _ => trivial
      cases refresh with
      | true => exact ih
      | false =>
        refine obeys_perform ⟨rfl, rfl, rfl, fun h => Bool.noConfusion h, fun _ => rfl⟩
          (fun tokenIds => ?_) fun _ => trivial
        cases tokenIds with
        | nil => exact ih
        | cons token rest =>
          refine obeys_perform ⟨rfl, rfl, rfl, fun h => Bool.noConfusion h, fun _ => rfl⟩
            (fun _ => ?_) fun _ => trivial
          exact obeys_perform ⟨rfl, rfl, rfl, fun h => Bool.noConfusion h, fun _ => rfl⟩
            (fun _ => ih) fun _ => trivial

end Obeys

/-! ### The law -/

/-- An entry that the runner has not read since it was written is marked, is about to be marked or
is in the runner's hand; and marks that the runner has not taken wake it. -/
structure KeepsUp (w : FeedWorld) : Prop where
  seen : ∀ token ∈ w.unseen,
    token ∈ w.dirtyTokens ∨ (∃ n, token ∈ w.marking n) ∨ token ∈ w.inHand
  woken : (w.dirtyTokens \ w.taken).Nonempty → w.permit ∨ (∃ n, w.notifying n) ∨ w.awake

/-- The three calls that can lose an update: a stream ends between its write and its mark, all
marks are cleared, and a woken runner goes back to sleep because its targets are stale. -/
def Unlost (party : FeedParty) (c : FeedCall) (w : FeedWorld) (r : FeedReply) : Prop :=
  match c with
  | .markDirty tokens => isCancelled party c w r → ∀ token ∈ tokens, token ∈ w.unseen →
      token ∈ w.dirtyTokens ∨ (∃ n, party ≠ .stream n ∧ token ∈ w.marking n) ∨ token ∈ w.inHand
  | .clearDirty => ∀ token ∈ w.unseen, (∃ n, token ∈ w.marking n) ∨ token ∈ w.inHand
  | .cacheRequiresRefresh => r.refresh → (w.dirtyTokens \ w.taken).Nonempty →
      w.permit ∨ ∃ n, w.notifying n
  | _ => True

/-- What a party has left to do is what the world says of it. -/
structure Knows (i : FeedParty) (s : FeedView) (w : FeedWorld) : Prop where
  party : s.party = i
  marking : ∀ n, i = .stream n → w.marking n = s.marking
  taken : i = .runner → w.taken = s.taken
  inHand : i = .runner → w.inHand = s.inHand

section Steps
variable {w : FeedWorld} {party : FeedParty} {s : FeedView} {r : FeedReply}

theorem mem_forgetMarking {m : ℕ} {token : String} :
    token ∈ (w.forgetMarking party).marking m ↔ party ≠ .stream m ∧ token ∈ w.marking m := by
  cases party with
  | stream n =>
    by_cases hm : m = n
    · subst hm
      simp [FeedWorld.forgetMarking]
    · have hne : FeedParty.stream n ≠ .stream m := fun h => hm (FeedParty.stream.inj h).symm
      simp [FeedWorld.forgetMarking, Function.update_of_ne hm, hne]
  | subscriber n => simp [FeedWorld.forgetMarking]
  | runner => simp [FeedWorld.forgetMarking]

theorem forgetMarking_same (w : FeedWorld) (party : FeedParty) :
    (w.forgetMarking party).unseen = w.unseen ∧
      (w.forgetMarking party).dirtyTokens = w.dirtyTokens ∧
      (w.forgetMarking party).inHand = w.inHand ∧ (w.forgetMarking party).taken = w.taken ∧
      (w.forgetMarking party).permit = w.permit ∧
      (w.forgetMarking party).notifying = w.notifying ∧
      (w.forgetMarking party).awake = w.awake := by
  cases party <;> exact ⟨rfl, rfl, rfl, rfl, rfl, rfl, rfl⟩

theorem keepsUp_forgetMarking (hw : KeepsUp w) :
    KeepsUp (w.forgetMarking party) ↔
      ∀ token ∈ w.unseen, (∃ n, party = .stream n ∧ token ∈ w.marking n) →
        token ∈ w.dirtyTokens ∨ (∃ n, party ≠ .stream n ∧ token ∈ w.marking n) ∨
          token ∈ w.inHand := by
  obtain ⟨hunseen, hdirty, hinHand, htaken, hpermit, hnotifying, hawake⟩ :=
    forgetMarking_same w party
  have hcovered : ∀ token, (∃ n, token ∈ (w.forgetMarking party).marking n) ↔
      ∃ n, party ≠ .stream n ∧ token ∈ w.marking n :=
    fun token => exists_congr fun n => mem_forgetMarking
  constructor
  · intro h token htoken _
    have hseen := h.seen token (hunseen ▸ htoken)
    rwa [hdirty, hcovered, hinHand] at hseen
  · intro h
    constructor
    · intro token htoken
      rw [hunseen] at htoken
      rw [hdirty, hcovered, hinHand]
      have hor := hw.seen token htoken
      by_cases hmine : ∃ n, party = .stream n ∧ token ∈ w.marking n
      · exact h token htoken hmine
      · refine hor.imp_right (Or.imp_left fun hmarking => ?_)
        obtain ⟨n, hn⟩ := hmarking
        exact ⟨n, fun hparty => hmine ⟨n, hparty, hn⟩, hn⟩
    · rw [hdirty, htaken, hpermit, hnotifying, hawake]
      exact hw.woken

theorem nothing_to_mark {c : FeedCall} (hs : Knows party s w) (hc : feedProtocol.allows s c)
    (hnot : ∀ tokens, c ≠ .markDirty tokens) (n : ℕ) (hparty : party = .stream n) :
    w.marking n = ∅ := by
  rw [hs.marking n hparty, hc.1]
  cases c with
  | markDirty tokens => exact absurd rfl (hnot tokens)
  | _ => rfl

theorem cancelled_keepsUp_iff {c : FeedCall} (hw : KeepsUp w) (hs : Knows party s w)
    (hc : feedProtocol.allows s c) (hcancelled : isCancelled party c w r) :
    KeepsUp (w.forgetMarking party) ↔ Unlost party c w r := by
  rw [keepsUp_forgetMarking hw]
  have hawait : c.isAwait := by
    unfold isCancelled at hcancelled
    cases party with
    | stream n =>
      simp only [Bool.and_eq_true] at hcancelled
      exact hcancelled.1.1
    | subscriber n => cases hcancelled
    | runner => cases hcancelled
  by_cases hmark : ∃ tokens, c = .markDirty tokens
  · obtain ⟨tokens, rfl⟩ := hmark
    have hmarking : ∀ n, party = .stream n → w.marking n = tokens :=
      fun n hn => (hs.marking n hn).trans hc.1
    obtain ⟨n, hn⟩ := hc.2.2.2.1 rfl
    have hparty : party = .stream n := hs.party.symm.trans hn
    constructor
    · intro h _ token htoken hunseen
      exact h token hunseen ⟨n, hparty, hmarking n hparty ▸ htoken⟩
    · intro h token hunseen hmine
      obtain ⟨m, hm, htoken⟩ := hmine
      exact h hcancelled token (hmarking m hm ▸ htoken) hunseen
  · have hnone : ∀ tokens, c ≠ .markDirty tokens := fun tokens h => hmark ⟨tokens, h⟩
    have hunlost : Unlost party c w r := by
      cases c with
      | markDirty tokens => exact absurd rfl (hnone tokens)
      | clearDirty => cases hawait
      | cacheRequiresRefresh => cases hawait
      | _ => trivial
    refine iff_of_true ?_ hunlost
    intro token _ hmine
    obtain ⟨n, hparty, htoken⟩ := hmine
    rw [nothing_to_mark hs hc hnone n hparty] at htoken
    exact absurd htoken (Finset.notMem_empty token)

theorem keepsUp_write (hw : KeepsUp w) (hs : Knows party s w)
    {updates : List MarketSnapshotUpdate} (hc : feedProtocol.allows s (.writeCache updates)) :
    KeepsUp (w.write party updates) := by
  obtain ⟨n, hn⟩ := hc.2.2.2.1 rfl
  obtain rfl : party = .stream n := hs.party.symm.trans hn
  have hempty : w.marking n = ∅ := (hs.marking n rfl).trans hc.1
  refine ⟨?_, hw.woken⟩
  intro token htoken
  have hkept : ∀ m, token ∈ w.marking m → token ∈ (w.write (.stream n) updates).marking m := by
    intro m hm
    have hne : m ≠ n := by
      intro h
      subst h
      rw [hempty] at hm
      exact absurd hm (Finset.notMem_empty token)
    simpa [FeedWorld.write, Function.update_of_ne hne] using hm
  cases Finset.mem_union.mp htoken with
  | inl hold =>
    refine (hw.seen token hold).imp_right (Or.imp_left fun hmarking => ?_)
    obtain ⟨m, hm⟩ := hmarking
    exact ⟨m, hkept m hm⟩
  | inr hnew => exact .inr (.inl ⟨n, by simpa [FeedWorld.write] using hnew⟩)

theorem keepsUp_markDirty (hw : KeepsUp w) (hs : Knows party s w) {tokens : Finset String}
    (hc : feedProtocol.allows s (.markDirty tokens)) :
    KeepsUp (feedEffect party w r (.markDirty tokens)).2 := by
  obtain ⟨n, hn⟩ := hc.2.2.2.1 rfl
  obtain rfl : party = .stream n := hs.party.symm.trans hn
  have hmine : w.marking n = tokens := (hs.marking n rfl).trans hc.1
  constructor
  · intro token htoken
    change token ∈ w.dirtyTokens ∪ tokens ∨
      (∃ m, token ∈ Function.update w.marking n ∅ m) ∨ token ∈ w.inHand
    obtain hdirty | hmarking | hinHand := hw.seen token htoken
    · exact .inl (Finset.mem_union_left _ hdirty)
    · obtain ⟨m, hm⟩ := hmarking
      by_cases hne : m = n
      · subst hne
        exact .inl (Finset.mem_union_right _ (hmine ▸ hm))
      · exact .inr (.inl ⟨m, by rwa [Function.update_of_ne hne]⟩)
    · exact .inr (.inr hinHand)
  · intro _
    refine .inr (.inl ⟨n, ?_⟩)
    change Function.update w.notifying n true n = true
    exact Function.update_self n true w.notifying

theorem keepsUp_notifyOne (hw : KeepsUp w) :
    KeepsUp (feedEffect party w r .notifyOne).2 := by
  cases party <;> exact ⟨hw.seen, fun _ => .inl rfl⟩

theorem keepsUp_dropEntries (hw : KeepsUp w) (kept : Finset String) : KeepsUp (w.dropEntries kept) :=
  ⟨fun token htoken => hw.seen token (Finset.mem_inter.mp htoken).1, hw.woken⟩

theorem keepsUp_clearDirty :
    KeepsUp { w with dirtyTokens := ∅ } ↔
      ∀ token ∈ w.unseen, (∃ n, token ∈ w.marking n) ∨ token ∈ w.inHand := by
  constructor
  · intro h token htoken
    exact (h.seen token htoken).resolve_left (Finset.notMem_empty token)
  · intro h
    refine ⟨fun token htoken => .inr (h token htoken), fun hne => ?_⟩
    rw [Finset.empty_sdiff] at hne
    exact absurd hne Finset.not_nonempty_empty

theorem keepsUp_notified (hw : KeepsUp w) :
    KeepsUp { w with permit := false, awake := w.awake || w.permit } := by
  refine ⟨hw.seen, fun hne => ?_⟩
  obtain hpermit | hnotifying | hawake := hw.woken hne
  · exact .inr (.inr (by rw [hpermit, Bool.or_true]))
  · exact .inr (.inl hnotifying)
  · exact .inr (.inr (by rw [hawake, Bool.true_or]))

theorem keepsUp_refresh (hw : KeepsUp w) :
    KeepsUp { w with awake := w.awake && !r.refresh } ↔
      (r.refresh → (w.dirtyTokens \ w.taken).Nonempty → w.permit ∨ ∃ n, w.notifying n) := by
  cases hrefresh : r.refresh with
  | false => exact iff_of_true ⟨hw.seen, by simpa using hw.woken⟩ (fun h => Bool.noConfusion h)
  | true =>
    constructor
    · intro h _ hne
      obtain hpermit | hnotifying | hawake := h.woken hne
      · exact .inl hpermit
      · exact .inr hnotifying
      · simp at hawake
    · intro h
      refine ⟨hw.seen, fun hne => (h rfl hne).imp_right Or.inl⟩

theorem keepsUp_take (hw : KeepsUp w) (hs : Knows party s w)
    (hc : feedProtocol.allows s .takeDirtyMarketTokens) :
    KeepsUp { w with taken := w.dirtyTokens, inHand := w.dirtyTokens, awake := false } := by
  have hrunner : party = .runner := hs.party.symm.trans (hc.2.2.2.2 rfl)
  have hnothing : w.inHand = ∅ := (hs.inHand hrunner).trans hc.2.2.1
  constructor
  · intro token htoken
    have hseen := hw.seen token htoken
    rw [hnothing] at hseen
    exact hseen.imp_right (Or.imp_right fun h => absurd h (Finset.notMem_empty token))
  · intro hne
    rw [Finset.sdiff_self] at hne
    exact absurd hne Finset.not_nonempty_empty

theorem keepsUp_clearTaken (hw : KeepsUp w) (hs : Knows party s w) {tokenIds : List String}
    (hc : feedProtocol.allows s (.clearDirtyMarketTokens tokenIds)) :
    KeepsUp { w with dirtyTokens := w.dirtyTokens.filter (· ∉ tokenIds), taken := ∅ } := by
  have hrunner : party = .runner := hs.party.symm.trans (hc.2.2.2.2 rfl)
  have htaken : w.taken = tokenIds.toFinset := (hs.taken hrunner).trans hc.2.1
  have hinHand : w.inHand = tokenIds.toFinset := (hs.inHand hrunner).trans hc.2.2.1
  constructor
  · intro token htoken
    obtain hdirty | hmarking | hhand := hw.seen token htoken
    · by_cases hmem : token ∈ tokenIds
      · exact .inr (.inr (hinHand ▸ List.mem_toFinset.mpr hmem))
      · exact .inl (Finset.mem_filter.mpr ⟨hdirty, hmem⟩)
    · exact .inr (.inl hmarking)
    · exact .inr (.inr hhand)
  · intro hne
    obtain ⟨token, htoken⟩ := hne
    rw [Finset.sdiff_empty] at htoken
    obtain ⟨hdirty, hnot⟩ := Finset.mem_filter.mp htoken
    refine hw.woken ⟨token, Finset.mem_sdiff.mpr ⟨hdirty, ?_⟩⟩
    rw [htaken, List.mem_toFinset]
    exact hnot

theorem keepsUp_read (hw : KeepsUp w) (hs : Knows party s w) {tokenIds : List String}
    (hc : feedProtocol.allows s (.marketSnapshots tokenIds)) :
    KeepsUp { w with unseen := w.unseen.filter (· ∉ tokenIds), inHand := ∅ } := by
  have hrunner : party = .runner := hs.party.symm.trans (hc.2.2.2.2 rfl)
  have hinHand : w.inHand = tokenIds.toFinset := (hs.inHand hrunner).trans hc.2.2.1
  refine ⟨?_, hw.woken⟩
  intro token htoken
  obtain ⟨hunseen, hnot⟩ := Finset.mem_filter.mp htoken
  have hseen := hw.seen token hunseen
  rw [hinHand, List.mem_toFinset] at hseen
  exact hseen.imp_right (Or.imp_right fun h => absurd h hnot)

theorem keepsUp_abort (hw : KeepsUp w) : KeepsUp (feedEffect party w r .abortTask).2 := by
  unfold feedEffect
  cases w.task with
  | none => exact hw
  | some n => exact ⟨hw.seen, hw.woken⟩

theorem effect_keepsUp_iff {c : FeedCall} (hw : KeepsUp w) (hs : Knows party s w)
    (hc : feedProtocol.allows s c) (hcancelled : isCancelled party c w r = false) :
    KeepsUp (feedEffect party w r c).2 ↔ Unlost party c w r := by
  cases c with
  | writeCache updates => exact iff_of_true (keepsUp_write hw hs hc) trivial
  | markDirty tokens =>
    refine iff_of_true (keepsUp_markDirty hw hs hc) fun h => ?_
    rw [hcancelled] at h
    cases h
  | notifyOne => exact iff_of_true (keepsUp_notifyOne hw) trivial
  | clearCache => exact iff_of_true (keepsUp_dropEntries hw ∅) trivial
  | retainCache tokens => exact iff_of_true (keepsUp_dropEntries hw tokens) trivial
  | clearDirty => exact keepsUp_clearDirty
  | abortTask => exact iff_of_true (keepsUp_abort hw) trivial
  | marketUpdateNotified => exact iff_of_true (keepsUp_notified hw) trivial
  | cacheRequiresRefresh => exact keepsUp_refresh hw
  | takeDirtyMarketTokens => exact iff_of_true (keepsUp_take hw hs hc) trivial
  | clearDirtyMarketTokens tokenIds => exact iff_of_true (keepsUp_clearTaken hw hs hc) trivial
  | marketSnapshots tokenIds => exact iff_of_true (keepsUp_read hw hs hc) trivial
  | _ => exact iff_of_true ⟨hw.seen, hw.woken⟩ trivial

theorem feedAct_keepsUp_iff {c : FeedCall} (hw : KeepsUp w) (hs : Knows party s w)
    (hc : feedProtocol.allows s c) :
    KeepsUp (feedAct party c w r).2 ↔ Unlost party c w r := by
  unfold feedAct
  cases hcancelled : isCancelled party c w r with
  | true => exact cancelled_keepsUp_iff hw hs hc hcancelled
  | false => exact effect_keepsUp_iff hw hs hc hcancelled

/-! ### What the parties know -/

theorem knows_abort (h : Knows party s w) : Knows party s (feedEffect party w r .abortTask).2 := by
  unfold feedEffect
  cases w.task with
  | none => exact h
  | some n => exact ⟨h.party, h.marking, h.taken, h.inHand⟩

theorem cancelled_knows {c : FeedCall} (hs : Knows party s w) (hc : feedProtocol.allows s c)
    (hcancelled : isCancelled party c w r) :
    Knows party (feedProtocol.next s c (.error ())) (w.forgetMarking party) := by
  cases party with
  | stream n =>
    have hmarking : (feedProtocol.next s c (.error ())).marking = ∅ := by
      cases c with
      | markDirty tokens => rfl
      | _ => exact hc.1
    have hparty : (feedProtocol.next s c (.error ())).party = .stream n := by
      cases c <;> exact hs.party
    refine ⟨hparty, fun m hm => ?_, fun h => absurd h (by simp), fun h => absurd h (by simp)⟩
    obtain rfl := FeedParty.stream.inj hm
    rw [hmarking]
    exact Function.update_self n ∅ w.marking
  | subscriber n => cases hcancelled
  | runner => cases hcancelled

theorem effect_knows {c : FeedCall} (hs : Knows party s w) (hc : feedProtocol.allows s c) :
    Knows party (feedProtocol.next s c (.ok (feedEffect party w r c).1))
      (feedEffect party w r c).2 := by
  cases c with
  | writeCache updates =>
    obtain ⟨n, hn⟩ := hc.2.2.2.1 rfl
    obtain rfl : party = .stream n := hs.party.symm.trans hn
    refine ⟨hs.party, fun m hm => ?_, fun h => absurd h (by simp), fun h => absurd h (by simp)⟩
    obtain rfl := FeedParty.stream.inj hm
    exact Function.update_self n _ w.marking
  | markDirty tokens =>
    obtain ⟨n, hn⟩ := hc.2.2.2.1 rfl
    obtain rfl : party = .stream n := hs.party.symm.trans hn
    refine ⟨hs.party, fun m hm => ?_, fun h => absurd h (by simp), fun h => absurd h (by simp)⟩
    obtain rfl := FeedParty.stream.inj hm
    exact Function.update_self n _ w.marking
  | notifyOne => cases party <;> exact ⟨hs.party, hs.marking, hs.taken, hs.inHand⟩
  | abortTask => exact knows_abort hs
  | takeDirtyMarketTokens =>
    have hset : (w.dirtyTokens.sort (· ≤ ·)).toFinset = w.dirtyTokens := Finset.sort_toFinset _ _
    exact ⟨hs.party, hs.marking, fun _ => hset.symm, fun _ => hset.symm⟩
  | clearDirtyMarketTokens tokenIds => exact ⟨hs.party, hs.marking, fun _ => rfl, hs.inHand⟩
  | marketSnapshots tokenIds => exact ⟨hs.party, hs.marking, hs.taken, fun _ => rfl⟩
  | _ => exact ⟨hs.party, hs.marking, hs.taken, hs.inHand⟩

/-- What a call changes is the caller's own: the marks a stream means to make are its own, and
only the runner takes marks into its hand. -/
structure Aside (party : FeedParty) (w w' : FeedWorld) : Prop where
  marking : ∀ n, party ≠ .stream n → w'.marking n = w.marking n
  taken : party ≠ .runner → w'.taken = w.taken
  inHand : party ≠ .runner → w'.inHand = w.inHand

theorem aside_forgetMarking : Aside party w (w.forgetMarking party) := by
  cases party with
  | stream n =>
    refine ⟨fun m hm => ?_, fun _ => rfl, fun _ => rfl⟩
    exact Function.update_of_ne (fun h => hm (by rw [h])) _ _
  | subscriber n => exact ⟨fun _ _ => rfl, fun _ => rfl, fun _ => rfl⟩
  | runner => exact ⟨fun _ _ => rfl, fun _ => rfl, fun _ => rfl⟩

theorem effect_aside {c : FeedCall} (hs : Knows party s w) (hc : feedProtocol.allows s c) :
    Aside party w (feedEffect party w r c).2 := by
  have hrunner : c.isRunners → party = .runner := fun h => hs.party.symm.trans (hc.2.2.2.2 h)
  cases c with
  | writeCache updates =>
    cases party with
    | stream n =>
      refine ⟨fun m hm => ?_, fun _ => rfl, fun _ => rfl⟩
      exact Function.update_of_ne (fun h => hm (by rw [h])) _ _
    | subscriber n => exact ⟨fun _ _ => rfl, fun _ => rfl, fun _ => rfl⟩
    | runner => exact ⟨fun _ _ => rfl, fun _ => rfl, fun _ => rfl⟩
  | markDirty tokens =>
    cases party with
    | stream n =>
      refine ⟨fun m hm => ?_, fun _ => rfl, fun _ => rfl⟩
      exact Function.update_of_ne (fun h => hm (by rw [h])) _ _
    | subscriber n => exact ⟨fun _ _ => rfl, fun _ => rfl, fun _ => rfl⟩
    | runner => exact ⟨fun _ _ => rfl, fun _ => rfl, fun _ => rfl⟩
  | notifyOne => cases party <;> exact ⟨fun _ _ => rfl, fun _ => rfl, fun _ => rfl⟩
  | abortTask =>
    unfold feedEffect
    cases w.task <;> exact ⟨fun _ _ => rfl, fun _ => rfl, fun _ => rfl⟩
  | takeDirtyMarketTokens =>
    exact ⟨fun _ _ => rfl, fun h => absurd (hrunner rfl) h, fun h => absurd (hrunner rfl) h⟩
  | clearDirtyMarketTokens tokenIds =>
    exact ⟨fun _ _ => rfl, fun h => absurd (hrunner rfl) h, fun _ => rfl⟩
  | marketSnapshots tokenIds =>
    exact ⟨fun _ _ => rfl, fun _ => rfl, fun h => absurd (hrunner rfl) h⟩
  | _ => exact ⟨fun _ _ => rfl, fun _ => rfl, fun _ => rfl⟩

theorem Aside.knows {w' : FeedWorld} (h : Aside party w w') {j : FeedParty} (hj : j ≠ party)
    {t : FeedView} (ht : Knows j t w) : Knows j t w' := by
  refine ⟨ht.party, fun n hn => ?_, fun hn => ?_, fun hn => ?_⟩
  · rw [h.marking n fun hp => hj (hn.trans hp.symm)]
    exact ht.marking n hn
  · rw [h.taken fun hp => hj (hn.trans hp.symm)]
    exact ht.taken hn
  · rw [h.inHand fun hp => hj (hn.trans hp.symm)]
    exact ht.inHand hn

theorem feedAct_knows {c : FeedCall} (hs : Knows party s w) (hc : feedProtocol.allows s c) :
    Knows party (feedProtocol.next s c (feedAct party c w r).1) (feedAct party c w r).2 ∧
      Aside party w (feedAct party c w r).2 := by
  unfold feedAct
  cases hcancelled : isCancelled party c w r with
  | true => exact ⟨cancelled_knows hs hc hcancelled, aside_forgetMarking⟩
  | false => exact ⟨effect_knows hs hc, effect_aside hs hc⟩

end Steps

theorem feedPool_sound (rounds : FeedParty → ℕ) (subscriptions : ℕ → List String) :
    (feedPool rounds subscriptions).Sound feedProtocol KeepsUp Knows where
  world := by
    refine ⟨fun token htoken => absurd htoken (Finset.notMem_empty token), fun hne => ?_⟩
    obtain ⟨token, htoken⟩ := hne
    exact absurd (Finset.mem_sdiff.mp htoken).1 (Finset.notMem_empty token)
  thread i := by
    refine ⟨{ party := i }, ⟨rfl, fun _ _ => rfl, fun _ => rfl, fun _ => rfl⟩, ?_⟩
    cases i with
    | stream n => exact marketTask_obeys n _
    | subscriber n => exact ensureMarketStream_obeys n _ _
    | runner => exact marketUpdateArm_obeys _

/-- Over every interleaving of the streams, the subscriptions and the runner, the feed keeps up
throughout exactly when no call loses an update: a token that is marked again between taking and
clearing is read all the same, and no other race does any harm. -/
theorem feed_keeps_up_iff (rounds : FeedParty → ℕ) (subscriptions : ℕ → List String)
    (schedule : List (FeedParty × FeedReply)) :
    Pool.Always feedAct KeepsUp (feedPool rounds subscriptions) schedule ↔
      Pool.Meets feedAct Unlost (feedPool rounds subscriptions) schedule := by
  refine (feedPool_sound rounds subscriptions).always_iff_meets ?_ ?_ (fun _ hw => hw) schedule
  · exact fun i s c w r hw hs hc => feedAct_keepsUp_iff hw hs hc
  · intro i s c w r hw hs hc hok
    obtain ⟨hknows, haside⟩ := feedAct_knows (r := r) hs hc
    exact ⟨(feedAct_keepsUp_iff hw hs hc).mpr hok, hknows, fun j hj t ht => haside.knows hj ht⟩

end PolymarketBot.MarketFeed
