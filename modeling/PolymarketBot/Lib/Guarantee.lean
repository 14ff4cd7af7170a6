import PolymarketBot.Lib.Prog

/-! What every call of a program does to the world, next to what the whole program ends in:
a guarantee relates the worlds before and after each call, so that it also speaks of the
worlds in the middle of a program. -/

namespace PolymarketBot.Lib.Prog
variable {Call : Type} {Answer : Call → Type} {ε α β World Reply : Type}
variable (act : (c : Call) → World → Reply → Except ε (Answer c) × World)
variable (Ok : Call → World → Reply → Prop) (G : World → World → Prop)

/-- In every execution whose calls meet `Ok`, each call steps as `G` allows, and the end is as
`Q` says. -/
def Guarantees : Prog Call Answer ε α → (Except ε α → World → Prop) → World → Prop
  | done a, Q, w => Q (.ok a) w
  | fail e, Q, w => Q (.error e) w
  | call c k, Q, w => ∀ r, Ok c w r →
      G w (act c w r).2 ∧ Guarantees (k (act c w r).1) Q (act c w r).2

variable {act Ok G}

theorem guarantees_bind (p : Prog Call Answer ε α) (f : α → Prog Call Answer ε β)
    (Q : Except ε β → World → Prop) (w : World) :
    Guarantees act Ok G (p >>= f) Q w ↔
      Guarantees act Ok G p (fun x w' => match x with
        | .ok a => Guarantees act Ok G (f a) Q w'
        | .error e => Q (.error e) w') w := by
  induction p generalizing w with
  | done a => exact Iff.rfl
  | fail e => exact Iff.rfl
  | call c k ih => exact forall₂_congr fun r _ => and_congr_right fun _ => ih _ _

theorem guarantees_attempt (p : Prog Call Answer ε α) (Q : Except ε (Except ε α) → World → Prop)
    (w : World) :
    Guarantees act Ok G (attempt p) Q w ↔
      Guarantees act Ok G p (fun x w' => Q (.ok x) w') w := by
  induction p generalizing w with
  | done a => exact Iff.rfl
  | fail e => exact Iff.rfl
  | call c k ih => exact forall₂_congr fun r _ => and_congr_right fun _ => ih _ _

theorem guarantees_perform (c : Call) (Q : Except ε (Answer c) → World → Prop) (w : World) :
    Guarantees act Ok G (perform c) Q w ↔
      ∀ r, Ok c w r → G w (act c w r).2 ∧ Q (act c w r).1 (act c w r).2 := by
  refine forall₂_congr fun r _ => and_congr_right fun _ => ?_
  cases (act c w r).1 <;> exact Iff.rfl

theorem guarantees_mono {p : Prog Call Answer ε α} {Q Q' : Except ε α → World → Prop} {w : World}
    (hp : Guarantees act Ok G p Q w) (hQ : ∀ x w', Q x w' → Q' x w') :
    Guarantees act Ok G p Q' w := by
  induction p generalizing w with
  | done a => exact hQ _ _ hp
  | fail e => exact hQ _ _ hp
  | call c k ih => exact fun r hr => ⟨(hp r hr).1, ih _ (hp r hr).2⟩

theorem guarantees_of_only {P : Call → Prop} {I : World → Prop} {p : Prog Call Answer ε α}
    (hI : ∀ c w r, P c → I w → Ok c w r → G w (act c w r).2 ∧ I (act c w r).2) (hp : Only P p)
    {w : World} (hw : I w) : Guarantees act Ok G p (fun _ => I) w := by
  induction p generalizing w with
  | done a => exact hw
  | fail e => exact hw
  | call c k ih =>
    intro r hr
    obtain ⟨hg, hi⟩ := hI c w r hp.1 hw hr
    exact ⟨hg, ih _ (hp.2 _) hi⟩

theorem guarantees_returns {p : Prog Call Answer ε α} {Q : Except ε α → World → Prop}
    {R : α → Prop} {w : World} (hp : Guarantees act Ok G p Q w) (hr : Returns R p) :
    Guarantees act Ok G p (fun x w' => Q x w' ∧ ∀ a, x = .ok a → R a) w := by
  induction p generalizing w with
  | done a => exact ⟨hp, fun b hb => by cases hb; exact hr⟩
  | fail e => exact ⟨hp, nofun⟩
  | call c k ih => exact fun r hok => ⟨(hp r hok).1, ih _ (hp r hok).2 (hr _)⟩

theorem guarantees_bind_of {p : Prog Call Answer ε α} {f : α → Prog Call Answer ε β}
    {R : Except ε α → World → Prop} {Q : Except ε β → World → Prop} {w : World}
    (hp : Guarantees act Ok G p R w) (hf : ∀ a w', R (.ok a) w' → Guarantees act Ok G (f a) Q w')
    (he : ∀ e w', R (.error e) w' → Q (.error e) w') :
    Guarantees act Ok G (p >>= f) Q w := by
  rw [guarantees_bind]
  refine guarantees_mono hp fun x w' hw' => ?_
  cases x with
  | ok a => exact hf a w' hw'
  | error e => exact he e w' hw'

theorem guarantees_ite {c : Prop} [Decidable c] {p q : Prog Call Answer ε α}
    {Q : Except ε α → World → Prop} {w : World} (hp : c → Guarantees act Ok G p Q w)
    (hq : ¬ c → Guarantees act Ok G q Q w) : Guarantees act Ok G (if c then p else q) Q w := by
  by_cases h : c
  · rw [if_pos h]
    exact hp h
  · rw [if_neg h]
    exact hq h

end PolymarketBot.Lib.Prog
