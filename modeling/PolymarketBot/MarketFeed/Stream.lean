import Mathlib.Data.Finset.Sort
import Mathlib.Data.String.Basic
import PolymarketBot.Lib.Threads
import PolymarketBot.MarketFeed.Snapshot

/-! The parties of the market feed: the streams that fill the cache, those who choose what is
subscribed, and the runner that is woken by marks. -/

namespace PolymarketBot.MarketFeed
open PolymarketBot.Flow Lib Prog

inductive StreamMessage where
  | text (now : ℤ) (payload : Value)
  | other
  | closed

/-- Each lock is held for one call, but for `market_task`, which its holder keeps. -/
inductive FeedCall where
  | started
  | desiredTokens
  | connect
  | subscribe
  | nextMessage
  | writeCache (updates : List MarketSnapshotUpdate)
  | markDirty (tokens : Finset String)
  | notifyOne
  | lockMarketTask
  | unlockMarketTask
  | clearDesired
  | clearCache
  | clearDirty
  | setDesired (tokens : Finset String)
  | retainCache (tokens : Finset String)
  | taskFinished
  | abortTask
  | spawnTask (tokens : Finset String)
  | marketUpdateNotified
  | cacheRequiresRefresh
  | takeDirtyMarketTokens
  | clearDirtyMarketTokens (tokenIds : List String)
  | marketSnapshots (tokenIds : List String)

abbrev FeedAnswer : FeedCall → Type
  | .started => Option (Finset String)
  | .desiredTokens => Finset String
  | .connect => Bool
  | .subscribe => Bool
  | .nextMessage => StreamMessage
  | .lockMarketTask => Bool
  | .taskFinished => Bool
  | .marketUpdateNotified => Bool
  | .cacheRequiresRefresh => Bool
  | .takeDirtyMarketTokens => List String
  | .marketSnapshots _ => List (String × MarketDataSnapshot)
  | _ => Unit

abbrev Feed (α : Type) := Prog FeedCall FeedAnswer Unit α

abbrev ask (c : FeedCall) : Feed (FeedAnswer c) := perform c

/-! ### A stream -/

def updateMarketCacheFromPayload (now : ℤ) (payload : Value) : Feed Unit :=
  let updates := payloadUpdates now payload
  if updates.isEmpty ∧ (payloadTradeTicks now payload).isEmpty then pure ()
  else do
    ask (.writeCache updates)
    if updates.isEmpty then pure ()
    else
      ask (.markDirty (updates.map (·.tokenId)).toFinset)
      ask .notifyOne

/-- The loop of a stream, for as many rounds as it is polled; `connected` tells the inner loop. -/
def marketStreamLoop (expectedTokens : Finset String) : ℕ → Bool → Feed Unit
  | 0, _ => pure ()
  | fuel + 1, false => do
    if (← ask .desiredTokens) ≠ expectedTokens then pure ()
    else if ← ask .connect then marketStreamLoop expectedTokens fuel (← ask .subscribe)
    else marketStreamLoop expectedTokens fuel false
  | fuel + 1, true => do
    if (← ask .desiredTokens) ≠ expectedTokens then pure ()
    else match ← ask .nextMessage with
      | .text now payload =>
        updateMarketCacheFromPayload now payload
        marketStreamLoop expectedTokens fuel true
      | .other => marketStreamLoop expectedTokens fuel true
      | .closed =>
        if (← ask .desiredTokens) ≠ expectedTokens then pure ()
        else marketStreamLoop expectedTokens fuel false

def marketTask : ℕ → Feed Unit
  | 0 => pure ()
  | fuel + 1 => do
    match ← ask .started with
    | none => marketTask fuel
    | some tokens => marketStreamLoop tokens fuel false

/-! ### Subscriptions -/

def normalizeMarketTokens (ids : List String) : Finset String :=
  ((ids.map trim).filter (· ≠ "")).toFinset

def respawnMarketTask (tokens : Finset String) : Feed Unit := do
  ask (.setDesired tokens)
  ask (.retainCache tokens)
  ask .abortTask
  ask (.spawnTask tokens)

def withMarketTaskLocked (tokens : Finset String) : Feed Unit :=
  if tokens = ∅ then do
    ask .clearDesired
    ask .clearCache
    ask .clearDirty
    ask .abortTask
  else do
    let desired ← ask .desiredTokens
    if desired ≠ tokens then respawnMarketTask tokens
    else if ← ask .taskFinished then respawnMarketTask tokens
    else pure ()

/-- One call waits for the lock for as many rounds as it is polled. -/
def ensureMarketStream (tokenIds : List String) : ℕ → Feed Unit
  | 0 => pure ()
  | fuel + 1 => do
    if ← ask .lockMarketTask then
      withMarketTaskLocked (normalizeMarketTokens tokenIds)
      ask .unlockMarketTask
    else ensureMarketStream tokenIds fuel

/-! ### The runner -/

def marketUpdateArm : ℕ → Feed Unit
  | 0 => pure ()
  | fuel + 1 => do
    if ← ask .marketUpdateNotified then
      if ← ask .cacheRequiresRefresh then marketUpdateArm fuel
      else
        let dirtyTokenIds ← ask .takeDirtyMarketTokens
        if dirtyTokenIds.isEmpty then marketUpdateArm fuel
        else
          ask (.clearDirtyMarketTokens dirtyTokenIds)
          let _ ← ask (.marketSnapshots dirtyTokenIds)
          marketUpdateArm fuel
    else marketUpdateArm fuel

/-! ### The world -/

structure FeedWorld where
  cache : MarketCache := fun _ => none
  dirtyTokens : Finset String := ∅
  desired : Finset String := ∅
  /-- A stored `notify_one`. -/
  permit : Bool := false
  locked : Bool := false
  /-- The number of the current stream. -/
  task : Option ℕ := none
  spawned : List (Finset String) := []
  aborted : ℕ → Bool := fun _ => false
  /-- What was written of a token since its entry was last dropped. -/
  written : String → List MarketSnapshotUpdate := fun _ => []
  /-- Entries written since the runner last read them. -/
  unseen : Finset String := ∅
  /-- What a stream has written and not marked yet. -/
  marking : ℕ → Finset String := fun _ => ∅
  notifying : ℕ → Bool := fun _ => false
  /-- What the runner has taken and not cleared yet. -/
  taken : Finset String := ∅
  /-- What the runner has taken and not read yet. -/
  inHand : Finset String := ∅
  awake : Bool := false

inductive FeedParty where
  | stream (n : ℕ)
  | subscriber (n : ℕ)
  | runner
  deriving DecidableEq

/-- What others decide about a call: whether an abort is taken there, and what it answers. -/
structure FeedReply where
  cancelled : Bool := true
  connected : Bool := true
  message : StreamMessage := .other
  finished : Bool := false
  refresh : Bool := false

namespace FeedWorld
variable (w : FeedWorld)

def dropEntries (kept : Finset String) : FeedWorld :=
  { w with
    cache := fun token => if token ∈ kept then w.cache token else none
    written := fun token => if token ∈ kept then w.written token else []
    unseen := w.unseen ∩ kept }

def write (party : FeedParty) (updates : List MarketSnapshotUpdate) : FeedWorld :=
  { w with
    cache := writeUpdates w.cache updates
    written := fun token => w.written token ++ updates.filter (·.tokenId = token)
    unseen := w.unseen ∪ (updates.map (·.tokenId)).toFinset
    marking := match party with
      | .stream n => Function.update w.marking n (updates.map (·.tokenId)).toFinset
      | _ => w.marking }

def setNotifying (party : FeedParty) (b : Bool) : FeedWorld :=
  match party with
  | .stream n => { w with notifying := Function.update w.notifying n b }
  | _ => w

def forgetMarking (party : FeedParty) : FeedWorld :=
  match party with
  | .stream n => { w with marking := Function.update w.marking n ∅ }
  | _ => w

end FeedWorld

/-- Calls at which an aborted stream may end; the others do not wait. -/
def FeedCall.isAwait : FeedCall → Bool
  | started | desiredTokens | connect | subscribe | nextMessage | writeCache _ | markDirty _ => true
  | _ => false

def isCancelled (party : FeedParty) (c : FeedCall) (w : FeedWorld) (r : FeedReply) : Bool :=
  match party with
  | .stream n => c.isAwait && w.aborted n && r.cancelled
  | _ => false

def feedEffect (party : FeedParty) (w : FeedWorld) (r : FeedReply) :
    (c : FeedCall) → FeedAnswer c × FeedWorld
  | .started =>
    (match party with
      | .stream n => w.spawned[n]?
      | _ => none, w)
  | .desiredTokens => (w.desired, w)
  | .connect => (r.connected, w)
  | .subscribe => (r.connected, w)
  | .nextMessage => (r.message, w)
  | .writeCache updates => ((), w.write party updates)
  | .markDirty tokens =>
    ((), ({ w with dirtyTokens := w.dirtyTokens ∪ tokens }.forgetMarking party).setNotifying
      party true)
  | .notifyOne => ((), { w with permit := true }.setNotifying party false)
  | .lockMarketTask => (!w.locked, { w with locked := true })
  | .unlockMarketTask => ((), { w with locked := false })
  | .clearDesired => ((), { w with desired := ∅ })
  | .clearCache => ((), w.dropEntries ∅)
  | .clearDirty => ((), { w with dirtyTokens := ∅ })
  | .setDesired tokens => ((), { w with desired := tokens })
  | .retainCache tokens => ((), w.dropEntries tokens)
  | .taskFinished => (r.finished || w.task.isNone, w)
  | .abortTask =>
    ((), match w.task with
      | some n => { w with task := none, aborted := Function.update w.aborted n true }
      | none => w)
  | .spawnTask tokens =>
    ((), { w with task := some w.spawned.length, spawned := w.spawned ++ [tokens] })
  | .marketUpdateNotified => (w.permit, { w with permit := false, awake := w.awake || w.permit })
  | .cacheRequiresRefresh => (r.refresh, { w with awake := w.awake && !r.refresh })
  | .takeDirtyMarketTokens =>
    (w.dirtyTokens.sort (· ≤ ·),
      { w with taken := w.dirtyTokens, inHand := w.dirtyTokens, awake := false })
  | .clearDirtyMarketTokens tokenIds =>
    ((), { w with dirtyTokens := w.dirtyTokens.filter (· ∉ tokenIds), taken := ∅ })
  | .marketSnapshots tokenIds =>
    (tokenIds.filterMap fun token => (w.cache token).map fun snapshot => (token, snapshot),
      { w with unseen := w.unseen.filter (· ∉ tokenIds), inHand := ∅ })

def feedAct (party : FeedParty) (c : FeedCall) (w : FeedWorld) (r : FeedReply) :
    Except Unit (FeedAnswer c) × FeedWorld :=
  if isCancelled party c w r then (.error (), w.forgetMarking party)
  else (.ok (feedEffect party w r c).1, (feedEffect party w r c).2)

/-- The streams in the order they are spawned, any calls for a subscription, and the runner, each
for as many rounds as it gets. -/
def feedPool (rounds : FeedParty → ℕ) (subscriptions : ℕ → List String) :
    Pool FeedParty FeedCall FeedAnswer Unit FeedWorld where
  world := {}
  thread
    | .stream n => marketTask (rounds (.stream n))
    | .subscriber n => ensureMarketStream (subscriptions n) (rounds (.subscriber n))
    | .runner => marketUpdateArm (rounds .runner)

end PolymarketBot.MarketFeed
