import PolymarketBot.Chainlink.Prices
import PolymarketBot.Lib.Cas

/-! Requests for a new connection, of any number of readers at once. -/

namespace PolymarketBot.Chainlink
open Lib Cas

/-- The loop of a reader on the time of the last request. It leaves where that is too recent. -/
def requestReconnect (nowMs : ℤ) : Loop ℤ where
  plan := fun lastRequestedAtMs =>
    if 0 < lastRequestedAtMs ∧
        diffMs nowMs lastRequestedAtMs < staleReconnectRequestCooldownSecs * 1000 then none
    else some nowMs
  reload := true

section Readers
variable {ι : Type*} [DecidableEq ι]

def Granted (pool : Pool ι ℤ) (i : ι) : Prop := ∃ old new, pool.stage i = .wrote old new

/-- A later request, where one was made, comes after the cooldown of the one before. -/
def AfterCooldown (last next : ℤ) : Prop := 0 < last → last ≤ next

instance : IsPreorder ℤ AfterCooldown where
  refl := fun _ _ => le_rfl
  trans := fun _ _ _ hab hbc ha => (hab ha).trans (hbc (ha.trans_le (hab ha)))

theorem requestReconnect_some {nowMs old new : ℤ}
    (h : (requestReconnect nowMs).plan old = some new) :
    new = nowMs ∧ (old ≤ 0 ∨ old + staleReconnectRequestCooldownSecs * 1000 ≤ nowMs) := by
  unfold requestReconnect at h
  simp only at h
  split_ifs at h with hrecent
  obtain rfl := Option.some.inj h
  unfold diffMs staleReconnectRequestCooldownSecs at *
  omega

theorem requestReconnect_none {nowMs seen : ℤ} (h : (requestReconnect nowMs).plan seen = none) :
    0 < seen ∧ nowMs < seen + staleReconnectRequestCooldownSecs * 1000 := by
  unfold requestReconnect at h
  simp only at h
  split_ifs at h with hrecent
  unfold diffMs staleReconnectRequestCooldownSecs at *
  omega

/-- However readers race, two granted requests are ten seconds apart, none comes within ten seconds of
the last one before them, and a reader is refused only where one was granted less than ten seconds
before it, or after it. -/
theorem reconnects_spaced (nowMs : ι → ℤ) (hnow : ∀ i, 0 < nowMs i) (lastMs : ℤ)
    (schedule : List ι) :
    let pool : Pool ι ℤ := run (fun i => requestReconnect (nowMs i)) lastMs schedule
    (∀ i j, i ≠ j → Granted pool i → Granted pool j →
      staleReconnectRequestCooldownSecs * 1000 ≤ |nowMs i - nowMs j|) ∧
    (∀ i, Granted pool i →
      lastMs ≤ 0 ∨ lastMs + staleReconnectRequestCooldownSecs * 1000 ≤ nowMs i) ∧
    ∀ i seen, pool.stage i = .left seen →
      nowMs i < seen + staleReconnectRequestCooldownSecs * 1000 ∧
        (seen = lastMs ∧ 0 < lastMs ∨ ∃ j, Granted pool j ∧ seen = nowMs j) := by
  intro pool
  obtain ⟨log, hlinear⟩ := run_linear (fun i => requestReconnect (nowMs i)) lastMs schedule
  have hplan : ∀ i v w, (requestReconnect (nowMs i)).plan v = some w → AfterCooldown v w := by
    intro i v w hw hv
    obtain ⟨rfl, hspaced⟩ := requestReconnect_some hw
    unfold staleReconnectRequestCooldownSecs at hspaced
    omega
  refine ⟨fun i j hij hi hj => ?_, fun i hi => ?_, fun i seen hi => ?_⟩
  · obtain ⟨old, new, hi⟩ := hi
    obtain ⟨old', new', hj⟩ := hj
    obtain ⟨hnew, hspaced⟩ := requestReconnect_some (hlinear.wrote_planned hi)
    obtain ⟨hnew', hspaced'⟩ := requestReconnect_some (hlinear.wrote_planned hj)
    have hposi := hnow i
    have hposj := hnow j
    have hbetween := hlinear.writers_related hplan hij hi hj
    unfold AfterCooldown at hbetween
    rw [hnew, hnew'] at hbetween
    unfold staleReconnectRequestCooldownSecs at *
    rw [le_abs]
    omega
  · obtain ⟨old, new, hi⟩ := hi
    obtain ⟨-, hspaced⟩ := requestReconnect_some (hlinear.wrote_planned hi)
    have hbefore := (hlinear.wrote_related hplan hi).1
    unfold AfterCooldown at hbefore
    unfold staleReconnectRequestCooldownSecs at *
    omega
  · obtain ⟨hleft, hseen⟩ := hlinear.left_seen hi
    obtain ⟨hpos, hrecent⟩ := requestReconnect_none hleft
    refine ⟨hrecent, ?_⟩
    cases hseen with
    | inl hstart => exact .inl ⟨hstart, hstart ▸ hpos⟩
    | inr hwrote =>
      obtain ⟨j, old, hj⟩ := hwrote
      exact .inr ⟨j, ⟨old, seen, hj⟩, (requestReconnect_some (hlinear.wrote_planned hj)).1⟩

end Readers

theorem reconnects_spaced_of_three :
    let nowMs : Fin 3 → ℤ := fun i => 100000 + 5000 * i
    let pool : Pool (Fin 3) ℤ := run (fun i => requestReconnect (nowMs i)) 0 [0, 1, 0, 1, 1, 2, 2]
    (∀ i j, i ≠ j → Granted pool i → Granted pool j →
      staleReconnectRequestCooldownSecs * 1000 ≤ |nowMs i - nowMs j|) ∧
    (∀ i, Granted pool i →
      (0 : ℤ) ≤ 0 ∨ 0 + staleReconnectRequestCooldownSecs * 1000 ≤ nowMs i) ∧
    ∀ i seen, pool.stage i = .left seen →
      nowMs i < seen + staleReconnectRequestCooldownSecs * 1000 ∧
        (seen = 0 ∧ (0 : ℤ) < 0 ∨ ∃ j, Granted pool j ∧ seen = nowMs j) :=
  reconnects_spaced (fun i : Fin 3 => 100000 + 5000 * (i : ℤ)) (by decide) 0 [0, 1, 0, 1, 1, 2, 2]

end PolymarketBot.Chainlink
