import PolymarketBot.Chainlink.Prices
import PolymarketBot.Lib.Cas

/-! The requests for crypto prices: the slots they wait for, and the cooldown that a rate limit arms.
Any number of tasks reserve slots and arm cooldowns at once. -/

namespace PolymarketBot.PriceCache
open Lib Cas

def ptbRequestMinIntervalMs : ℤ := 500

def i64Max : ℤ := 2 ^ 63 - 1

def saturatingAdd (a b : ℤ) : ℤ := min (a + b) i64Max

/-- The slot that a request at `nowMs` takes. -/
def candidateMs (nowMs previousMs : ℤ) : ℤ := max previousMs nowMs

def paceCryptoPriceRequest (nowMs : ℤ) : Loop ℤ where
  plan := fun previousMs => some (saturatingAdd (candidateMs nowMs previousMs) ptbRequestMinIntervalMs)
  reload := true

def armRateLimitCooldown (nowMs cooldownMs : ℤ) : Loop ℤ where
  plan := fun current =>
    if current < saturatingAdd nowMs cooldownMs then some (saturatingAdd nowMs cooldownMs) else none
  reload := false

def rateLimitCooldownRemainingMs (untilMs nowMs : ℤ) : Option ℤ :=
  if nowMs < untilMs then some (untilMs - nowMs) else none

section Tasks
variable {ι : Type*} [DecidableEq ι]

def Reserved (pool : Pool ι ℤ) (nowMs : ι → ℤ) (i : ι) (slotMs : ℤ) : Prop :=
  ∃ old new, pool.stage i = .wrote old new ∧ slotMs = candidateMs (nowMs i) old

/-- The end of what was reserved does not go back, where it is a time at all. -/
def NotBefore (a b : ℤ) : Prop := min a i64Max ≤ b

instance : IsPreorder ℤ NotBefore where
  refl := fun _ => min_le_left _ _
  trans := fun _ _ _ hab hbc => (le_min hab (min_le_right _ _)).trans hbc

/-- However tasks race for slots, each waits until its own time or later, no two slots are closer
than the interval, and none is later than it has to be: it is the task's own time, the first free
one, or it comes one interval after another slot. -/
theorem slots_spaced (nowMs : ι → ℤ) (nextMs : ℤ) (hnext : nextMs ≤ i64Max) (schedule : List ι) :
    let pool : Pool ι ℤ := run (fun i => paceCryptoPriceRequest (nowMs i)) nextMs schedule
    (∀ i j slotMs slotMs', i ≠ j → Reserved pool nowMs i slotMs → Reserved pool nowMs j slotMs' →
      saturatingAdd slotMs ptbRequestMinIntervalMs ≤ slotMs' ∨
        saturatingAdd slotMs' ptbRequestMinIntervalMs ≤ slotMs) ∧
    ∀ i slotMs, Reserved pool nowMs i slotMs → nowMs i ≤ slotMs ∧ nextMs ≤ slotMs ∧
      (slotMs = nowMs i ∨ slotMs = nextMs ∨ ∃ j slotMs', Reserved pool nowMs j slotMs' ∧
        slotMs = saturatingAdd slotMs' ptbRequestMinIntervalMs) := by
  intro pool
  obtain ⟨log, hlinear⟩ := run_linear (fun i => paceCryptoPriceRequest (nowMs i)) nextMs schedule
  have hplan : ∀ i v w, (paceCryptoPriceRequest (nowMs i)).plan v = some w → NotBefore v w := by
    intro i v w hw
    obtain rfl := Option.some.inj hw
    unfold NotBefore saturatingAdd candidateMs ptbRequestMinIntervalMs
    omega
  refine ⟨fun i j slotMs slotMs' hij hi hj => ?_, fun i slotMs hi => ?_⟩
  · obtain ⟨old, new, hi, rfl⟩ := hi
    obtain ⟨old', new', hj, rfl⟩ := hj
    have hnew := Option.some.inj (hlinear.wrote_planned hi)
    have hnew' := Option.some.inj (hlinear.wrote_planned hj)
    have hbetween := hlinear.writers_related hplan hij hi hj
    rw [hnew, hnew']
    unfold NotBefore candidateMs at *
    have hle : new ≤ i64Max := hnew ▸ min_le_right _ _
    have hle' : new' ≤ i64Max := hnew' ▸ min_le_right _ _
    omega
  · obtain ⟨old, new, hi, rfl⟩ := hi
    have hbefore := (hlinear.wrote_related hplan hi).1
    unfold NotBefore at hbefore
    refine ⟨le_max_right _ _, ?_, ?_⟩
    · unfold candidateMs
      omega
    · unfold candidateMs
      cases le_total old (nowMs i) with
      | inl hlate => exact .inl (max_eq_right hlate)
      | inr hearly =>
        rw [max_eq_left hearly]
        cases hlinear.wrote_from hi with
        | inl hstart => exact .inr (.inl hstart)
        | inr hwrote =>
          obtain ⟨j, old', hj⟩ := hwrote
          exact .inr (.inr ⟨j, _, ⟨old', old, hj, rfl⟩,
            (Option.some.inj (hlinear.wrote_planned hj)).symm⟩)

theorem slots_spaced_of_two :
    let nowMs : Fin 2 → ℤ := fun i => 100000 + i
    let pool : Pool (Fin 2) ℤ := run (fun i => paceCryptoPriceRequest (nowMs i)) 0 [0, 1, 0, 1, 1, 1]
    (∀ i j slotMs slotMs', i ≠ j → Reserved pool nowMs i slotMs → Reserved pool nowMs j slotMs' →
      saturatingAdd slotMs ptbRequestMinIntervalMs ≤ slotMs' ∨
        saturatingAdd slotMs' ptbRequestMinIntervalMs ≤ slotMs) ∧
    ∀ i slotMs, Reserved pool nowMs i slotMs → nowMs i ≤ slotMs ∧ 0 ≤ slotMs ∧
      (slotMs = nowMs i ∨ slotMs = 0 ∨ ∃ j slotMs', Reserved pool nowMs j slotMs' ∧
        slotMs = saturatingAdd slotMs' ptbRequestMinIntervalMs) :=
  slots_spaced (fun i : Fin 2 => 100000 + (i : ℤ)) 0 (by decide) [0, 1, 0, 1, 1, 1]

theorem armRateLimitCooldown_some {nowMs cooldownMs old new : ℤ}
    (h : (armRateLimitCooldown nowMs cooldownMs).plan old = some new) :
    old < new ∧ new = saturatingAdd nowMs cooldownMs := by
  unfold armRateLimitCooldown at h
  simp only at h
  split_ifs at h with hlater
  obtain rfl := Option.some.inj h
  exact ⟨hlater, rfl⟩

theorem armRateLimitCooldown_none {nowMs cooldownMs seen : ℤ}
    (h : (armRateLimitCooldown nowMs cooldownMs).plan seen = none) :
    saturatingAdd nowMs cooldownMs ≤ seen := by
  unfold armRateLimitCooldown at h
  simp only at h
  split_ifs at h with hlater
  exact not_lt.mp hlater

/-- Whatever tasks arm a cooldown, it ends with the latest of those that have done so: it is never cut
short, no longer than one asked for, and as long as one of theirs lasts no request goes out. -/
theorem cooldown_latest (nowMs cooldownMs : ι → ℤ) (untilMs : ℤ) (schedule : List ι) :
    let pool : Pool ι ℤ := run (fun i => armRateLimitCooldown (nowMs i) (cooldownMs i)) untilMs schedule
    untilMs ≤ pool.cell ∧
    (pool.cell = untilMs ∨ ∃ i, pool.cell = saturatingAdd (nowMs i) (cooldownMs i)) ∧
    ∀ i, (∃ old new, pool.stage i = .wrote old new) ∨ (∃ seen, pool.stage i = .left seen) →
      ∀ atMs < saturatingAdd (nowMs i) (cooldownMs i),
        (rateLimitCooldownRemainingMs pool.cell atMs).isSome := by
  intro pool
  obtain ⟨log, hlinear⟩ :=
    run_linear (fun i => armRateLimitCooldown (nowMs i) (cooldownMs i)) untilMs schedule
  have hplan : ∀ i v w, (armRateLimitCooldown (nowMs i) (cooldownMs i)).plan v = some w → v ≤ w :=
    fun i v w hw => (armRateLimitCooldown_some hw).1.le
  refine ⟨(Chained.related hplan hlinear.chained).1, ?_, fun i hdone atMs hat => ?_⟩
  · refine hlinear.cell_written.imp_right fun hwrote => ?_
    obtain ⟨i, old, hi⟩ := hwrote
    exact ⟨i, (armRateLimitCooldown_some (hlinear.wrote_planned hi)).2⟩
  · have hcell : saturatingAdd (nowMs i) (cooldownMs i) ≤ pool.cell := by
      cases hdone with
      | inl hwrote =>
        obtain ⟨old, new, hi⟩ := hwrote
        rw [← (armRateLimitCooldown_some (hlinear.wrote_planned hi)).2]
        exact (hlinear.wrote_related hplan hi).2
      | inr hleft =>
        obtain ⟨seen, hi⟩ := hleft
        exact (armRateLimitCooldown_none (hlinear.left_seen hi).1).trans
          (hlinear.left_related hplan hi)
    unfold rateLimitCooldownRemainingMs
    rw [if_pos (hat.trans_le hcell)]
    rfl

end Tasks

end PolymarketBot.PriceCache
