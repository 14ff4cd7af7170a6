import PolymarketBot.MarketFeed.Stream

/-! What the cached snapshot of a token says of the messages that it was made from. -/

namespace PolymarketBot.MarketFeed
open PolymarketBot.Flow Lib

/-- The last value that a list of optional values gives. -/
def lastGiven {α : Type} (values : List (Option α)) : Option α := values.reverse.findSome? id

theorem lastGiven_concat {α : Type} (values : List (Option α)) (v : Option α) :
    lastGiven (values ++ [v]) = v.or (lastGiven values) := by
  unfold lastGiven
  rw [List.reverse_append, List.reverse_singleton, List.singleton_append, List.findSome?_cons]
  cases v <;> rfl

/-- The snapshot that a token's updates amount to: each quote is the last one given, whenever
that was, while the time and the source are those of the last update. -/
def snapshotOf (updates : List MarketSnapshotUpdate) : Option MarketDataSnapshot :=
  updates.getLast?.map fun last =>
    { bestBid := lastGiven (updates.map (·.bestBid))
      bestAsk := lastGiven (updates.map (·.bestAsk))
      bestBidSize := lastGiven (updates.map (·.bestBidSize))
      bestAskSize := lastGiven (updates.map (·.bestAskSize))
      lastTradePrice := lastGiven (updates.map (·.lastTradePrice))
      updatedAtMs := last.updatedAtMs
      lastSource := last.source }

theorem snapshotOf_concat (updates : List MarketSnapshotUpdate) (update : MarketSnapshotUpdate) :
    snapshotOf (updates ++ [update]) =
      some (((snapshotOf updates).getD default).apply update) := by
  have hlast : (updates ++ [update]).getLast? = some update := List.getLast?_concat
  cases hupdates : updates.getLast? with
  | none =>
    obtain rfl := List.getLast?_eq_none_iff.mp hupdates
    have hfirst : ∀ v : Option ℚ, lastGiven [v] = v.or none := lastGiven_concat []
    simp only [snapshotOf, List.nil_append, List.getLast?_singleton, Option.map_some,
      List.map_cons, List.map_nil, hfirst]
    rfl
  | some last =>
    simp only [snapshotOf, hlast, hupdates, Option.map_some, Option.getD_some, List.map_append,
      List.map_cons, List.map_nil, lastGiven_concat, MarketDataSnapshot.apply]

theorem writeUpdates_snapshotOf {cache : MarketCache}
    {written : String → List MarketSnapshotUpdate}
    (h : ∀ token, cache token = snapshotOf (written token)) (updates : List MarketSnapshotUpdate)
    (token : String) :
    writeUpdates cache updates token =
      snapshotOf (written token ++ updates.filter (·.tokenId = token)) := by
  induction updates generalizing cache written with
  | nil =>
    rw [List.filter_nil, List.append_nil]
    exact h token
  | cons update rest ih =>
    let written' := fun token =>
      if update.tokenId = token then written token ++ [update] else written token
    have hstep : ∀ token, Function.update cache update.tokenId
        (some (((cache update.tokenId).getD default).apply update)) token =
          snapshotOf (written' token) := by
      intro token
      by_cases htoken : update.tokenId = token
      · subst htoken
        simp only [written', if_true, Function.update_self, h, snapshotOf_concat]
      · simp only [written', if_neg htoken, Function.update_of_ne (Ne.symm htoken), h]
    have hrest := ih hstep
    change writeUpdates _ rest token = _
    rw [hrest, List.filter_cons]
    by_cases htoken : update.tokenId = token
    · simp only [written', htoken, if_true, decide_true, List.append_assoc, List.singleton_append]
    · simp only [written', htoken, if_false, decide_false, Bool.false_eq_true]

/-- What the cache holds of a token is what was written of it since it was last dropped. -/
def CacheKept (w : FeedWorld) : Prop := ∀ token, w.cache token = snapshotOf (w.written token)

theorem cacheKept_write {w : FeedWorld} (hw : CacheKept w) (party : FeedParty)
    (updates : List MarketSnapshotUpdate) : CacheKept (w.write party updates) :=
  fun token => writeUpdates_snapshotOf hw updates token

theorem cacheKept_dropEntries {w : FeedWorld} (hw : CacheKept w) (kept : Finset String) :
    CacheKept (w.dropEntries kept) := by
  intro token
  by_cases hkept : token ∈ kept
  · simpa only [FeedWorld.dropEntries, if_pos hkept] using hw token
  · simp only [FeedWorld.dropEntries, if_neg hkept]
    rfl

theorem feedAct_cacheKept (party : FeedParty) (c : FeedCall) (w : FeedWorld) (r : FeedReply)
    (hw : CacheKept w) : CacheKept (feedAct party c w r).2 := by
  unfold feedAct
  split
  · cases party <;> exact hw
  · cases c with
    | writeCache updates => exact cacheKept_write hw party updates
    | clearCache => exact cacheKept_dropEntries hw ∅
    | retainCache tokens => exact cacheKept_dropEntries hw tokens
    | markDirty tokens => cases party <;> exact hw
    | notifyOne => cases party <;> exact hw
    | abortTask =>
      unfold feedEffect
      cases w.task <;> exact hw
    | _ => exact hw

theorem snapshotOf_seeded (updates : List MarketSnapshotUpdate) (now staleAfterMs : ℤ)
    (desired : Bool) :
    (inspectMarketSnapshot now staleAfterMs desired (snapshotOf updates)).state = .seeded ↔
      ∃ last, updates.getLast? = some last ∧ now - last.updatedAtMs ≤ staleAfterMs := by
  unfold inspectMarketSnapshot snapshotOf
  cases updates.getLast? with
  | none => cases desired <;> simp
  | some last => simp

/-- At every moment of every interleaving the cache holds of a token what its updates since the
last drop amount to, and it counts as seeded by the age of the last of them alone: a bid however
old passes for fresh once a later update leaves it open. -/
theorem snapshot_is_last_given (rounds : FeedParty → ℕ) (subscriptions : ℕ → List String)
    (schedule : List (FeedParty × FeedReply)) :
    Pool.Always feedAct
      (fun w => ∀ token, w.cache token = snapshotOf (w.written token) ∧
        ∀ now staleAfterMs,
          (inspectMarketSnapshot now staleAfterMs (token ∈ w.desired) (w.cache token)).state =
              .seeded ↔
            ∃ last, (w.written token).getLast? = some last ∧
              now - last.updatedAtMs ≤ staleAfterMs)
      (feedPool rounds subscriptions) schedule := by
  refine Pool.always_of_act (fun party c w r hw token => ?_) (fun token => ?_) schedule
  · have hkept : CacheKept (feedAct party c w r).2 :=
      feedAct_cacheKept party c w r fun token => (hw token).1
    refine ⟨hkept token, fun now staleAfterMs => ?_⟩
    rw [hkept token]
    exact snapshotOf_seeded _ now staleAfterMs _
  · refine ⟨rfl, fun now staleAfterMs => ?_⟩
    exact snapshotOf_seeded [] now staleAfterMs _

end PolymarketBot.MarketFeed
