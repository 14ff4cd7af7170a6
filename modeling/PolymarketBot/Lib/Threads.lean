import Mathlib.Logic.Function.Basic
import PolymarketBot.Lib.Prog

/-! Programs that run side by side in one world. A scheduler picks a thread and the reply of
its next call; that call is one atomic step. -/

namespace PolymarketBot.Lib
open Prog

/-- What a thread may call next depends on what its calls have answered so far. -/
structure Protocol (Call : Type) (Answer : Call → Type) (ε σ : Type) where
  next : σ → (c : Call) → Except ε (Answer c) → σ
  allows : σ → Call → Prop

namespace Prog
variable {Call : Type} {Answer : Call → Type} {ε σ α β : Type}
variable (P : Protocol Call Answer ε σ)

/-- The program keeps to the protocol from the state `s` on, and ends as `Q` says. -/
def Obeys : Prog Call Answer ε α → (Except ε α → σ → Prop) → σ → Prop
  | done a, Q, s => Q (.ok a) s
  | fail e, Q, s => Q (.error e) s
  | call c k, Q, s => P.allows s c ∧ ∀ x, Obeys (k x) Q (P.next s c x)

variable {P}

theorem obeys_mono {p : Prog Call Answer ε α} {Q R : Except ε α → σ → Prop} {s : σ}
    (hp : Obeys P p Q s) (hQ : ∀ x s', Q x s' → R x s') : Obeys P p R s := by
  induction p generalizing s with
  | done a => exact hQ _ s hp
  | fail e => exact hQ _ s hp
  | call c k ih => exact ⟨hp.1, fun x => ih x (hp.2 x)⟩

theorem obeys_bind {p : Prog Call Answer ε α} {f : α → Prog Call Answer ε β}
    {R : Except ε α → σ → Prop} {Q : Except ε β → σ → Prop} {s : σ} (hp : Obeys P p R s)
    (hf : ∀ a s', R (.ok a) s' → Obeys P (f a) Q s')
    (he : ∀ e s', R (.error e) s' → Q (.error e) s') : Obeys P (p >>= f) Q s := by
  induction p generalizing s with
  | done a => exact hf a s hp
  | fail e => exact he e s hp
  | call c k ih => exact ⟨hp.1, fun x => ih x (hp.2 x)⟩

theorem obeys_perform {c : Call} {f : Answer c → Prog Call Answer ε β}
    {Q : Except ε β → σ → Prop} {s : σ} (h : P.allows s c)
    (hf : ∀ a, Obeys P (f a) Q (P.next s c (.ok a)))
    (he : ∀ e, Q (.error e) (P.next s c (.error e))) : Obeys P (perform c >>= f) Q s := by
  refine ⟨h, fun x => ?_⟩
  cases x with
  | ok a => exact hf a
  | error e => exact he e

theorem obeys_attempt_perform {c : Call} {f : Except ε (Answer c) → Prog Call Answer ε β}
    {Q : Except ε β → σ → Prop} {s : σ} (h : P.allows s c)
    (hf : ∀ x, Obeys P (f x) Q (P.next s c x)) : Obeys P (attempt (perform c) >>= f) Q s := by
  refine ⟨h, fun x => ?_⟩
  cases x with
  | ok a => exact hf (.ok a)
  | error e => exact hf (.error e)

theorem obeys_of_only {C : Call → Prop} {J : σ → Prop} {p : Prog Call Answer ε α} {s : σ}
    (hallows : ∀ s c, J s → C c → P.allows s c) (hnext : ∀ s c x, J s → C c → J (P.next s c x))
    (hp : Only C p) (hs : J s) : Obeys P p (fun _ => J) s := by
  induction p generalizing s with
  | done a => exact hs
  | fail e => exact hs
  | call c k ih =>
    exact ⟨hallows s c hs hp.1, fun x => ih x (hp.2 x) (hnext s c x hs hp.1)⟩

theorem obeys_attempt {p : Prog Call Answer ε α} {f : Except ε α → Prog Call Answer ε β}
    {R : Except ε α → σ → Prop} {Q : Except ε β → σ → Prop} {s : σ} (hp : Obeys P p R s)
    (hf : ∀ x s', R x s' → Obeys P (f x) Q s') : Obeys P (attempt p >>= f) Q s := by
  induction p generalizing s with
  | done a => exact hf _ s hp
  | fail e => exact hf _ s hp
  | call c k ih => exact ⟨hp.1, fun x => ih x (hp.2 x)⟩

end Prog

/-- Threads and the world they share. -/
structure Pool (ι Call : Type) (Answer : Call → Type) (ε World : Type) where
  world : World
  thread : ι → Prog Call Answer ε Unit

namespace Pool
variable {ι Call : Type} {Answer : Call → Type} {ε World Reply σ : Type} [DecidableEq ι]
variable (act : ι → (c : Call) → World → Reply → Except ε (Answer c) × World)

/-- The picked thread makes its next call; a thread that has ended does nothing. -/
def step (pool : Pool ι Call Answer ε World) (turn : ι × Reply) : Pool ι Call Answer ε World :=
  match pool.thread turn.1 with
  | .call c k =>
    { world := (act turn.1 c pool.world turn.2).2
      thread := Function.update pool.thread turn.1 (k (act turn.1 c pool.world turn.2).1) }
  | _ => pool

def run (pool : Pool ι Call Answer ε World) (schedule : List (ι × Reply)) :
    Pool ι Call Answer ε World :=
  schedule.foldl (step act) pool

/-- Each call that the schedule makes meets `Ok`, in the world it is made in. -/
def Meets (Ok : ι → Call → World → Reply → Prop) :
    Pool ι Call Answer ε World → List (ι × Reply) → Prop
  | _, [] => True
  | pool, turn :: rest =>
    (match pool.thread turn.1 with
      | .call c _ => Ok turn.1 c pool.world turn.2
      | _ => True) ∧ Meets Ok (step act pool turn) rest

/-- `Law` holds in every world of the run. -/
def Always (Law : World → Prop) : Pool ι Call Answer ε World → List (ι × Reply) → Prop
  | pool, [] => Law pool.world
  | pool, turn :: rest => Law pool.world ∧ Always Law (step act pool turn) rest

/-- `I` holds of the world, and each thread keeps to the protocol from what it has learnt, and has
learnt `Q` where it ends; `Knows i s w` says that what the thread `i` has learnt, `s`, is true in the
world `w`. -/
structure SoundWith (Q : σ → Prop) (P : Protocol Call Answer ε σ) (I : World → Prop)
    (Knows : ι → σ → World → Prop) (pool : Pool ι Call Answer ε World) : Prop where
  world : I pool.world
  thread : ∀ i, ∃ s, Knows i s pool.world ∧ (pool.thread i).Obeys P (fun _ => Q) s

/-- A pool whose threads may end with anything. -/
abbrev Sound (P : Protocol Call Answer ε σ) (I : World → Prop) (Knows : ι → σ → World → Prop)
    (pool : Pool ι Call Answer ε World) : Prop :=
  SoundWith (fun _ => True) P I Knows pool

section Sound
variable {act} {Q : σ → Prop} {P : Protocol Call Answer ε σ} {I Law : World → Prop}
variable {Knows : ι → σ → World → Prop} {Ok : ι → Call → World → Reply → Prop}

theorem SoundWith.step
    (hstep : ∀ i s c w r, I w → Knows i s w → P.allows s c → Ok i c w r →
      I (act i c w r).2 ∧ Knows i (P.next s c (act i c w r).1) (act i c w r).2 ∧
        ∀ j ≠ i, ∀ t, Knows j t w → Knows j t (act i c w r).2)
    {pool : Pool ι Call Answer ε World} (h : SoundWith Q P I Knows pool) (turn : ι × Reply)
    (hok : ∀ c k, pool.thread turn.1 = .call c k → Ok turn.1 c pool.world turn.2) :
    SoundWith Q P I Knows (Pool.step act pool turn) := by
  obtain ⟨s, hs, hobeys⟩ := h.thread turn.1
  cases ht : pool.thread turn.1 with
  | done a => simpa only [Pool.step, ht] using h
  | fail e => simpa only [Pool.step, ht] using h
  | call c k =>
    rw [ht] at hobeys
    obtain ⟨hI, hown, hother⟩ := hstep turn.1 s c pool.world turn.2 h.world hs hobeys.1 (hok c k ht)
    simp only [Pool.step, ht]
    refine ⟨hI, fun j => ?_⟩
    by_cases hj : j = turn.1
    · subst hj
      refine ⟨_, hown, ?_⟩
      simp only [Function.update_self]
      exact hobeys.2 _
    · obtain ⟨t, hknows, hobeys'⟩ := h.thread j
      refine ⟨t, hother j hj t hknows, ?_⟩
      simp only [Function.update_of_ne hj]
      exact hobeys'

theorem SoundWith.always_of_meets {pool : Pool ι Call Answer ε World} (h : SoundWith Q P I Knows pool)
    (hstep : ∀ i s c w r, I w → Knows i s w → P.allows s c → Ok i c w r →
      I (act i c w r).2 ∧ Knows i (P.next s c (act i c w r).1) (act i c w r).2 ∧
        ∀ j ≠ i, ∀ t, Knows j t w → Knows j t (act i c w r).2)
    (hI : ∀ w, I w → Law w) {schedule : List (ι × Reply)} (hmeets : Meets act Ok pool schedule) :
    Always act Law pool schedule := by
  induction schedule generalizing pool with
  | nil => exact hI _ h.world
  | cons turn rest ih =>
    obtain ⟨hok, hrest⟩ := hmeets
    refine ⟨hI _ h.world, ih (h.step hstep turn fun c k ht => ?_) hrest⟩
    rwa [ht] at hok

theorem SoundWith.always_iff_meets {pool : Pool ι Call Answer ε World} (h : SoundWith Q P I Knows pool)
    (hlaw : ∀ i s c w r, I w → Knows i s w → P.allows s c → (Law (act i c w r).2 ↔ Ok i c w r))
    (hstep : ∀ i s c w r, I w → Knows i s w → P.allows s c → Ok i c w r →
      I (act i c w r).2 ∧ Knows i (P.next s c (act i c w r).1) (act i c w r).2 ∧
        ∀ j ≠ i, ∀ t, Knows j t w → Knows j t (act i c w r).2)
    (hI : ∀ w, I w → Law w) (schedule : List (ι × Reply)) :
    Always act Law pool schedule ↔ Meets act Ok pool schedule := by
  induction schedule generalizing pool with
  | nil => exact iff_of_true (hI _ h.world) trivial
  | cons turn rest ih =>
    have hlaw' : Law (Pool.step act pool turn).world ↔
        (match pool.thread turn.1 with
          | .call c _ => Ok turn.1 c pool.world turn.2
          | _ => True) := by
      obtain ⟨s, hs, hobeys⟩ := h.thread turn.1
      cases ht : pool.thread turn.1 with
      | done a => simpa only [Pool.step, ht] using iff_of_true (hI _ h.world) trivial
      | fail e => simpa only [Pool.step, ht] using iff_of_true (hI _ h.world) trivial
      | call c k =>
        rw [ht] at hobeys
        simpa only [Pool.step, ht] using hlaw turn.1 s c pool.world turn.2 h.world hs hobeys.1
    have hrest : Law (Pool.step act pool turn).world →
        (Always act Law (Pool.step act pool turn) rest ↔
          Meets act Ok (Pool.step act pool turn) rest) := by
      intro hl
      have hok := hlaw'.mp hl
      refine ih (h.step hstep turn fun c k ht => ?_)
      rwa [ht] at hok
    have hhead : Always act Law (Pool.step act pool turn) rest →
        Law (Pool.step act pool turn).world := by
      intro ha
      cases rest with
      | nil => exact ha
      | cons turn' rest' => exact ha.1
    constructor
    · rintro ⟨-, ha⟩
      exact ⟨hlaw'.mp (hhead ha), (hrest (hhead ha)).mp ha⟩
    · rintro ⟨hok, hm⟩
      exact ⟨hI _ h.world, (hrest (hlaw'.mpr hok)).mpr hm⟩

end Sound

theorem always_of_act {act : ι → (c : Call) → World → Reply → Except ε (Answer c) × World}
    {Law : World → Prop} (hact : ∀ i c w r, Law w → Law (act i c w r).2)
    {pool : Pool ι Call Answer ε World} (hpool : Law pool.world) (schedule : List (ι × Reply)) :
    Always act Law pool schedule := by
  induction schedule generalizing pool with
  | nil => exact hpool
  | cons turn rest ih =>
    refine ⟨hpool, ih ?_⟩
    cases ht : pool.thread turn.1 with
    | done a => simpa only [step, ht] using hpool
    | fail e => simpa only [step, ht] using hpool
    | call c k => simpa only [step, ht] using hact turn.1 c pool.world turn.2 hpool

section Decidable
variable (Law : World → Prop) [DecidablePred Law]

instance decidableAlways :
    ∀ (pool : Pool ι Call Answer ε World) (schedule : List (ι × Reply)),
      Decidable (Always act Law pool schedule)
  | pool, [] => inferInstanceAs (Decidable (Law pool.world))
  | pool, turn :: rest =>
    have := decidableAlways (step act pool turn) rest
    inferInstanceAs (Decidable (_ ∧ _))

variable (Ok : ι → Call → World → Reply → Prop) [∀ i c w r, Decidable (Ok i c w r)]

instance decidableMeets :
    ∀ (pool : Pool ι Call Answer ε World) (schedule : List (ι × Reply)),
      Decidable (Meets act Ok pool schedule)
  | _, [] => isTrue trivial
  | pool, turn :: rest =>
    have := decidableMeets (step act pool turn) rest
    have : Decidable (match pool.thread turn.1 with
        | .call c _ => Ok turn.1 c pool.world turn.2
        | _ => True) := by
      split <;> infer_instance
    inferInstanceAs (Decidable (_ ∧ _))

end Decidable

end Pool

section Holds
variable {ι α : Type} [DecidableEq α]

/-- Of what is held by anyone, this is what `i` holds. -/
def Holds (i : ι) (held : Option α) (holder : α → Option ι) : Prop :=
  ∀ a, holder a = some i ↔ held = some a

variable {i j : ι} {held : Option α} {holder : α → Option ι} {a : α}

theorem Holds.take (h : Holds i none holder) : Holds i (some a) (Function.update holder a (some i)) := by
  intro b
  by_cases hb : b = a
  · rw [hb, Function.update_self]
    exact iff_of_true rfl rfl
  · rw [Function.update_of_ne hb, h b]
    exact iff_of_false (Option.some_ne_none _).symm fun hsame =>
      hb (Option.some.inj hsame).symm

theorem Holds.taken (h : Holds j held holder) (hji : j ≠ i) (hfree : holder a = none) :
    Holds j held (Function.update holder a (some i)) := by
  intro b
  by_cases hb : b = a
  · rw [hb, Function.update_self, ← h a, hfree]
    exact iff_of_false (fun hsame => hji (Option.some.inj hsame).symm)
      (Option.some_ne_none _).symm
  · rw [Function.update_of_ne hb, h b]

theorem Holds.drop (h : Holds i (some a) holder) : Holds i none (Function.update holder a none) := by
  intro b
  by_cases hb : b = a
  · rw [hb, Function.update_self]
    exact iff_of_false (Option.some_ne_none _).symm (Option.some_ne_none _).symm
  · rw [Function.update_of_ne hb, h b]
    exact iff_of_false (fun hsame => hb (Option.some.inj hsame).symm)
      (Option.some_ne_none _).symm

theorem Holds.dropped (h : Holds j held holder) (hji : j ≠ i) (hi : holder a = some i) :
    Holds j held (Function.update holder a none) := by
  intro b
  by_cases hb : b = a
  · rw [hb, Function.update_self, ← h a, hi]
    exact iff_of_false (Option.some_ne_none _).symm fun hsame =>
      hji (Option.some.inj hsame).symm
  · rw [Function.update_of_ne hb, h b]

end Holds

end PolymarketBot.Lib
