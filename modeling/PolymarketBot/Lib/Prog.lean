import Mathlib.Logic.Basic
import Mathlib.Data.List.Basic

/-! Programs made of atomic calls that may fail, run against a world that answers them.
What the environment decides about a call (its failure, its answer, what others did just
before it) is the reply of that call; a run is a list of turns. -/

namespace PolymarketBot.Lib

/-- A call returns an answer or an error, and the rest of the program goes on from either. -/
inductive Prog (Call : Type) (Answer : Call → Type) (ε α : Type) where
  | done (a : α)
  | fail (e : ε)
  | call (c : Call) (k : Except ε (Answer c) → Prog Call Answer ε α)

namespace Prog
variable {Call : Type} {Answer : Call → Type} {ε α β : Type}

def bind : Prog Call Answer ε α → (α → Prog Call Answer ε β) → Prog Call Answer ε β
  | done a, f => f a
  | fail e, _ => fail e
  | call c k, f => call c fun x => bind (k x) f

instance : Monad (Prog Call Answer ε) where
  pure := done
  bind := bind

theorem bind_assoc {γ : Type} (p : Prog Call Answer ε α) (f : α → Prog Call Answer ε β)
    (g : β → Prog Call Answer ε γ) : p >>= f >>= g = p >>= fun a => f a >>= g := by
  induction p with
  | done a => rfl
  | fail e => rfl
  | call c k ih => exact congrArg (call c) (funext ih)

theorem pure_bind (a : α) (f : α → Prog Call Answer ε β) : pure a >>= f = f a := rfl

theorem bind_pure (p : Prog Call Answer ε α) : p >>= pure = p := by
  induction p with
  | done a => rfl
  | fail e => rfl
  | call c k ih => exact congrArg (call c) (funext ih)

theorem forM_append (f : α → Prog Call Answer ε Unit) (l l' : List α) :
    (l ++ l').forM f = l.forM f >>= fun _ => l'.forM f := by
  induction l with
  | nil => rfl
  | cons a l ih =>
    change (f a >>= fun _ => (l ++ l').forM f) = (f a >>= fun _ => l.forM f) >>= _
    rw [ih, bind_assoc]

theorem forM_flatMap {γ : Type} (l : List γ) (f : γ → List α)
    (g : γ → α → Prog Call Answer ε Unit) :
    (l.forM fun c => (f c).forM (g c)) =
      (l.flatMap fun c => (f c).map (Prod.mk c)).forM fun x => g x.1 x.2 := by
  have hmap : ∀ (c : γ) (l : List α),
      l.forM (g c) = (l.map (Prod.mk c)).forM fun x => g x.1 x.2 := by
    intro c l
    induction l with
    | nil => rfl
    | cons a l ih => exact congrArg (g c a >>= ·) (funext fun _ => ih)
  induction l with
  | nil => rfl
  | cons c l ih =>
    rw [List.flatMap_cons, forM_append, ← hmap, ← ih]
    rfl

/-- Makes one call and passes its error on. -/
def perform (c : Call) : Prog Call Answer ε (Answer c) :=
  call c fun x => match x with
    | .ok a => done a
    | .error e => fail e

/-- Runs a program and hands its error to the caller as a value. -/
def attempt : Prog Call Answer ε α → Prog Call Answer ε (Except ε α)
  | done a => done (.ok a)
  | fail e => done (.error e)
  | call c k => call c fun x => attempt (k x)

/-- Every call the program can make satisfies `P`. -/
def Only (P : Call → Prop) : Prog Call Answer ε α → Prop
  | done _ => True
  | fail _ => True
  | call c k => P c ∧ ∀ x, Only P (k x)

section Only
variable {P P' : Call → Prop}

@[simp] theorem only_pure (a : α) : Only P (pure a : Prog Call Answer ε α) := trivial

@[simp] theorem only_fail (e : ε) : Only P (fail e : Prog Call Answer ε α) := trivial

@[simp] theorem only_perform (c : Call) :
    Only P (perform c : Prog Call Answer ε (Answer c)) ↔ P c := by
  refine ⟨fun h => h.1, fun h => ⟨h, fun x => ?_⟩⟩
  cases x <;> trivial

theorem Only.bind {p : Prog Call Answer ε α} {f : α → Prog Call Answer ε β}
    (hp : Only P p) (hf : ∀ a, Only P (f a)) : Only P (p >>= f) := by
  induction p with
  | done a => exact hf a
  | fail e => trivial
  | call c k ih => exact ⟨hp.1, fun x => ih x (hp.2 x)⟩

theorem Only.attempt {p : Prog Call Answer ε α} (hp : Only P p) : Only P (attempt p) := by
  induction p with
  | done a => trivial
  | fail e => trivial
  | call c k ih => exact ⟨hp.1, fun x => ih x (hp.2 x)⟩

theorem Only.mono (hP : ∀ c, P c → P' c) {p : Prog Call Answer ε α} (hp : Only P p) :
    Only P' p := by
  induction p with
  | done a => trivial
  | fail e => trivial
  | call c k ih => exact ⟨hP c hp.1, fun x => ih x (hp.2 x)⟩

end Only

/-- Every answer of the program satisfies `R`. -/
def Returns (R : α → Prop) : Prog Call Answer ε α → Prop
  | done a => R a
  | fail _ => True
  | call _ k => ∀ x, Returns R (k x)

theorem Returns.bind {R : α → Prop} {S : β → Prop} {p : Prog Call Answer ε α}
    {f : α → Prog Call Answer ε β} (hp : Returns R p) (hf : ∀ a, R a → Returns S (f a)) :
    Returns S (p >>= f) := by
  induction p with
  | done a => exact hf a hp
  | fail e => trivial
  | call c k ih => exact fun x => ih x (hp x)

theorem Returns.mono {R S : α → Prop} (hRS : ∀ a, R a → S a) {p : Prog Call Answer ε α}
    (hp : Returns R p) : Returns S p := by
  induction p with
  | done a => exact hRS a hp
  | fail e => trivial
  | call c k ih => exact fun x => ih x (hp x)

theorem Returns.attempt {R : α → Prop} {p : Prog Call Answer ε α} (hp : Returns R p) :
    Returns (fun x => ∀ a, x = .ok a → R a) (attempt p) := by
  induction p with
  | done a => exact fun b hb => Except.ok.inj hb ▸ hp
  | fail e => exact fun b hb => nomatch hb
  | call c k ih => exact fun x => ih x (hp x)

theorem returns_true (p : Prog Call Answer ε α) : Returns (fun _ => True) p := by
  induction p with
  | done a => trivial
  | fail e => trivial
  | call c k ih => exact ih

theorem Only.bind_returns {P : Call → Prop} {R : α → Prop} {p : Prog Call Answer ε α}
    {f : α → Prog Call Answer ε β} (hp : Only P p) (hr : Returns R p)
    (hf : ∀ a, R a → Only P (f a)) : Only P (p >>= f) := by
  induction p with
  | done a => exact hf a hr
  | fail e => trivial
  | call c k ih => exact ⟨hp.1, fun x => ih x (hp.2 x) (hr x)⟩

/-- Every error of a call ends the program. -/
def Strict : Prog Call Answer ε α → Prop
  | done _ => True
  | fail _ => True
  | call _ k => (∀ e, ∃ e', k (.error e) = fail e') ∧ ∀ a, Strict (k (.ok a))

theorem strict_pure (a : α) : Strict (pure a : Prog Call Answer ε α) := trivial

theorem strict_perform (c : Call) : Strict (perform c : Prog Call Answer ε (Answer c)) :=
  ⟨fun e => ⟨e, rfl⟩, fun _ => trivial⟩

theorem Strict.bind {p : Prog Call Answer ε α} {f : α → Prog Call Answer ε β} (hp : Strict p)
    (hf : ∀ a, Strict (f a)) : Strict (p >>= f) := by
  induction p with
  | done a => exact hf a
  | fail e => trivial
  | call c k ih =>
    refine ⟨fun e => ?_, fun a => ih (.ok a) (hp.2 a)⟩
    obtain ⟨e', he⟩ := hp.1 e
    exact ⟨e', congrArg (Prog.bind · f) he⟩

section Semantics
variable {World Reply : Type} [Inhabited Reply]
variable (act : (c : Call) → World → Reply → Except ε (Answer c) × World)

/-- Runs a program on the replies of its calls. -/
def exec : Prog Call Answer ε α → List Reply → World → Except ε α × World
  | done a, _, w => (.ok a, w)
  | fail e, _, w => (.error e, w)
  | call c k, rs, w =>
    exec (k (act c w (rs.headD default)).1) rs.tail (act c w (rs.headD default)).2

variable (Ok : Call → World → Reply → Prop)

/-- Each call the execution makes meets the condition `Ok`, in the world it is made in. -/
def Meets : Prog Call Answer ε α → List Reply → World → Prop
  | done _, _, _ => True
  | fail _, _, _ => True
  | call c k, rs, w =>
    Ok c w (rs.headD default) ∧
      Meets (k (act c w (rs.headD default)).1) rs.tail (act c w (rs.headD default)).2

instance decidableMeets [∀ c w r, Decidable (Ok c w r)] :
    ∀ (p : Prog Call Answer ε α) (rs : List Reply) (w : World), Decidable (Meets act Ok p rs w)
  | done _, _, _ => isTrue trivial
  | fail _, _, _ => isTrue trivial
  | call c k, rs, w =>
    have := decidableMeets (k (act c w (rs.headD default)).1) rs.tail
      (act c w (rs.headD default)).2
    inferInstanceAs (Decidable (_ ∧ _))

/-- An execution ends in `Post` exactly when `C` holds and its calls meet `Ok`; `C` is what
an earlier call still owes. -/
def Exactly (Post : Except ε α → World → Prop) (C : Prop) (p : Prog Call Answer ε α)
    (w : World) : Prop :=
  ∀ rs, Post (exec act p rs w).1 (exec act p rs w).2 ↔ C ∧ Meets act Ok p rs w

section Exactly
variable {act Ok} {Post : Except ε β → World → Prop} {C : Prop} {w : World}

theorem exactly_of {p : Prog Call Answer ε β} (hC : C) (h : Exactly act Ok Post True p w) :
    Exactly act Ok Post C p w :=
  fun rs => (h rs).trans (and_congr_left fun _ => iff_of_true trivial hC)

theorem exactly_pure {b : β} (h : Post (.ok b) w) : Exactly act Ok Post True (pure b) w :=
  fun _ => iff_of_true h ⟨trivial, trivial⟩

theorem exactly_done {b : β} (h : C ↔ Post (.ok b) w) : Exactly act Ok Post C (pure b) w :=
  fun _ => h.symm.trans (and_iff_left trivial).symm

theorem exactly_congr {C' : Prop} {p : Prog Call Answer ε β} (hC : C ↔ C')
    (h : Exactly act Ok Post C p w) : Exactly act Ok Post C' p w :=
  fun rs => (h rs).trans (and_congr_left fun _ => hC)

theorem exactly_of_only {P : Call → Prop} {I : World → Prop} {p : Prog Call Answer ε β}
    (hI : ∀ c w r, P c → I w → Ok c w r ∧ I (act c w r).2) (hPost : ∀ x w, I w → Post x w)
    (hp : Only P p) (hw : I w) : Exactly act Ok Post True p w := by
  induction p generalizing w with
  | done b => exact fun _ => iff_of_true (hPost _ _ hw) ⟨trivial, trivial⟩
  | fail e => exact fun _ => iff_of_true (hPost _ _ hw) ⟨trivial, trivial⟩
  | call c k ih =>
    intro rs
    obtain ⟨hok, hnext⟩ := hI c w (rs.headD default) hp.1 hw
    exact (ih _ (hp.2 _) hnext rs.tail).trans
      (and_congr_right fun _ => (and_iff_right hok).symm)

theorem exactly_fail {e : ε} (h : C ↔ Post (.error e) w) :
    Exactly act Ok Post C (fail e) w :=
  fun _ => h.symm.trans (and_iff_left trivial).symm

theorem exactly_perform {c : Call} {f : Answer c → Prog Call Answer ε β}
    (h : ∀ r, match (act c w r).1 with
      | .ok a => Exactly act Ok Post (Ok c w r) (f a) (act c w r).2
      | .error e => Ok c w r ↔ Post (.error e) (act c w r).2) :
    Exactly act Ok Post True (perform c >>= f) w := by
  intro rs
  have hr := h (rs.headD default)
  change Post (exec act (bind _ f) rs.tail _).1 (exec act (bind _ f) rs.tail _).2 ↔
    True ∧ _ ∧ Meets act Ok (bind _ f) rs.tail _
  rw [true_and]
  revert hr
  cases (act c w (rs.headD default)).1 with
  | ok a => exact fun hr => hr rs.tail
  | error e => exact fun hr => hr.symm.trans (and_iff_left trivial).symm

theorem exactly_attempt {c : Call} {g : Answer c → Prog Call Answer ε α}
    {f : Except ε α → Prog Call Answer ε β}
    (h : ∀ r, match (act c w r).1 with
      | .ok a => Exactly act Ok Post (Ok c w r) (attempt (g a) >>= f) (act c w r).2
      | .error e => Exactly act Ok Post (Ok c w r) (f (.error e)) (act c w r).2) :
    Exactly act Ok Post True (attempt (perform c >>= g) >>= f) w := by
  intro rs
  have hr := h (rs.headD default)
  change Post (exec act (bind (attempt (bind _ g)) f) rs.tail _).1
    (exec act (bind (attempt (bind _ g)) f) rs.tail _).2 ↔
      True ∧ _ ∧ Meets act Ok (bind (attempt (bind _ g)) f) rs.tail _
  rw [true_and]
  revert hr
  cases (act c w (rs.headD default)).1 with
  | ok a => exact fun hr => hr rs.tail
  | error e => exact fun hr => hr rs.tail

theorem exactly_ignore {c : Call} {p : Prog Call Answer ε β}
    (h : ∀ r, Exactly act Ok Post (Ok c w r) p (act c w r).2) :
    Exactly act Ok Post True (attempt (perform c) >>= fun _ => p) w := by
  intro rs
  have hr := h (rs.headD default) rs.tail
  change Post (exec act (bind (attempt _) _) rs.tail _).1
    (exec act (bind (attempt _) _) rs.tail _).2 ↔
      True ∧ _ ∧ Meets act Ok (bind (attempt _) _) rs.tail _
  rw [true_and]
  cases (act c w (rs.headD default)).1 <;> exact hr

end Exactly

/-- The execution makes a call that satisfies `P`. -/
def Makes (P : Call → Prop) : Prog Call Answer ε α → List Reply → World → Prop
  | done _, _, _ => False
  | fail _, _, _ => False
  | call c k, rs, w =>
    P c ∨ Makes P (k (act c w (rs.headD default)).1) rs.tail (act c w (rs.headD default)).2

instance decidableMakes (P : Call → Prop) [DecidablePred P] :
    ∀ (p : Prog Call Answer ε α) (rs : List Reply) (w : World), Decidable (Makes act P p rs w)
  | done _, _, _ => isFalse id
  | fail _, _, _ => isFalse id
  | call c k, rs, w =>
    have := decidableMakes P (k (act c w (rs.headD default)).1) rs.tail
      (act c w (rs.headD default)).2
    inferInstanceAs (Decidable (_ ∨ _))

theorem not_makes_of_only {P : Call → Prop} {p : Prog Call Answer ε α}
    (hp : Only (fun c => ¬ P c) p) (rs : List Reply) (w : World) : ¬ Makes act P p rs w := by
  induction p generalizing rs w with
  | done a => exact id
  | fail e => exact id
  | call c k ih =>
    rintro (hc | hk)
    · exact hp.1 hc
    · exact ih _ (hp.2 _) _ _ hk

/-- Each call before the first one of `P` meets the condition `Ok`. -/
def MeetsBefore (P : Call → Prop) : Prog Call Answer ε α → List Reply → World → Prop
  | done _, _, _ => True
  | fail _, _, _ => True
  | call c k, rs, w =>
    ¬ P c → Ok c w (rs.headD default) ∧
      MeetsBefore P (k (act c w (rs.headD default)).1) rs.tail (act c w (rs.headD default)).2

instance decidableMeetsBefore (P : Call → Prop) [DecidablePred P]
    [∀ c w r, Decidable (Ok c w r)] : ∀ (p : Prog Call Answer ε α) (rs : List Reply) (w : World),
      Decidable (MeetsBefore act Ok P p rs w)
  | done _, _, _ => isTrue trivial
  | fail _, _, _ => isTrue trivial
  | call c k, rs, w =>
    have := decidableMeetsBefore P (k (act c w (rs.headD default)).1) rs.tail
      (act c w (rs.headD default)).2
    inferInstanceAs (Decidable (_ → _ ∧ _))

/-- Whether an execution makes a call of `P` is decided by `C`, when its calls meet `Ok` up
to there. -/
def Decides (P : Call → Prop) (C : Prop) (p : Prog Call Answer ε α) (w : World) : Prop :=
  ∀ rs, MeetsBefore act Ok P p rs w → (Makes act P p rs w ↔ C)

section Decides
variable {act Ok} {P : Call → Prop} {C : Prop} {w : World}

theorem decides_avoids {p : Prog Call Answer ε α} (hC : ¬ C) (hp : Only (fun c => ¬ P c) p) :
    Decides act Ok P C p w :=
  fun rs _ => iff_of_false (not_makes_of_only act hp rs w) hC

theorem decides_makes {c : Call} {f : Answer c → Prog Call Answer ε α} (hC : C) (hc : P c) :
    Decides act Ok P C (perform c >>= f) w :=
  fun _ _ => iff_of_true (.inl hc) hC

theorem decides_perform {c : Call} {f : Answer c → Prog Call Answer ε α} (hc : ¬ P c)
    (h : ∀ r, Ok c w r → ∃ a, (act c w r).1 = .ok a ∧ Decides act Ok P C (f a) (act c w r).2) :
    Decides act Ok P C (perform c >>= f) w := by
  intro rs hm
  obtain ⟨hok, hm⟩ : Ok c w (rs.headD default) ∧ MeetsBefore act Ok P (bind _ f) rs.tail _ :=
    hm hc
  obtain ⟨a, ha, hf⟩ := h _ hok
  rw [ha] at hm
  change P c ∨ Makes act P (bind _ f) rs.tail _ ↔ C
  rw [ha, or_iff_right hc]
  exact hf _ hm

end Decides

omit [Inhabited Reply] in
/-- The weakest precondition over every execution whose calls meet `Ok`. -/
def wp : Prog Call Answer ε α → (Except ε α → World → Prop) → World → Prop
  | done a, Q, w => Q (.ok a) w
  | fail e, Q, w => Q (.error e) w
  | call c k, Q, w => ∀ r, Ok c w r → wp (k (act c w r).1) Q (act c w r).2

theorem Meets.mono {Ok' : Call → World → Reply → Prop} (h : ∀ c w r, Ok c w r → Ok' c w r)
    {p : Prog Call Answer ε α} {rs : List Reply} {w : World} (hm : Meets act Ok p rs w) :
    Meets act Ok' p rs w := by
  induction p generalizing rs w with
  | done a => trivial
  | fail e => trivial
  | call c k ih => exact ⟨h _ _ _ hm.1, ih _ hm.2⟩

theorem meets_true (p : Prog Call Answer ε α) (rs : List Reply) (w : World) :
    Meets act (fun _ _ _ => True) p rs w := by
  induction p generalizing rs w with
  | done a => trivial
  | fail e => trivial
  | call c k ih => exact ⟨trivial, ih _ _ _⟩

theorem Strict.meets {p : Prog Call Answer ε α} (hp : Strict p) {rs : List Reply} {w : World}
    {a : α} (h : (exec act p rs w).1 = .ok a) :
    Meets act (fun c w r => ∃ b, (act c w r).1 = .ok b) p rs w := by
  induction p generalizing rs w with
  | done a => trivial
  | fail e => trivial
  | call c k ih =>
    change (exec act (k (act c w (rs.headD default)).1) rs.tail _).1 = .ok a at h
    cases hanswer : (act c w (rs.headD default)).1 with
    | ok b =>
      rw [hanswer] at h
      refine ⟨⟨b, hanswer⟩, ?_⟩
      rw [hanswer]
      exact ih (.ok b) (hp.2 b) h
    | error e =>
      obtain ⟨e', he⟩ := hp.1 e
      rw [hanswer, he] at h
      cases h

theorem wp_sound {p : Prog Call Answer ε α} {Q : Except ε α → World → Prop} {rs : List Reply}
    {w : World} (hp : wp act Ok p Q w) (hm : Meets act Ok p rs w) :
    Q (exec act p rs w).1 (exec act p rs w).2 := by
  induction p generalizing rs w with
  | done a => exact hp
  | fail e => exact hp
  | call c k ih => exact ih _ (hp _ hm.1) hm.2

variable {act Ok} in
theorem exactly_of_cases {p : Prog Call Answer ε α} {Post : Except ε α → World → Prop} {C : Prop}
    {w : World} (hC : C → Exactly act Ok Post True p w)
    (hn : ¬ C → wp act (fun _ _ _ => True) p (fun x w => ¬ Post x w) w) :
    Exactly act Ok Post C p w := by
  intro rs
  by_cases h : C
  · exact exactly_of h (hC h) rs
  · refine iff_of_false (wp_sound act (fun _ _ _ => True) (hn h) ?_) fun hm => h hm.1
    exact meets_true act p rs w

omit [Inhabited Reply]
variable {act Ok}

@[simp] theorem wp_pure (a : α) (Q : Except ε α → World → Prop) (w : World) :
    wp act Ok (pure a) Q w ↔ Q (.ok a) w := Iff.rfl

@[simp] theorem wp_fail (e : ε) (Q : Except ε α → World → Prop) (w : World) :
    wp act Ok (fail e) Q w ↔ Q (.error e) w := Iff.rfl

theorem wp_bind (p : Prog Call Answer ε α) (f : α → Prog Call Answer ε β)
    (Q : Except ε β → World → Prop) (w : World) :
    wp act Ok (p >>= f) Q w ↔
      wp act Ok p (fun x w' => match x with
        | .ok a => wp act Ok (f a) Q w'
        | .error e => Q (.error e) w') w := by
  induction p generalizing w with
  | done a => exact Iff.rfl
  | fail e => exact Iff.rfl
  | call c k ih => exact forall₂_congr fun r _ => ih _ _

theorem wp_attempt (p : Prog Call Answer ε α) (Q : Except ε (Except ε α) → World → Prop)
    (w : World) :
    wp act Ok (attempt p) Q w ↔ wp act Ok p (fun x w' => Q (.ok x) w') w := by
  induction p generalizing w with
  | done a => exact Iff.rfl
  | fail e => exact Iff.rfl
  | call c k ih => exact forall₂_congr fun r _ => ih _ _

theorem wp_perform (c : Call) (Q : Except ε (Answer c) → World → Prop) (w : World) :
    wp act Ok (perform c) Q w ↔ ∀ r, Ok c w r → Q (act c w r).1 (act c w r).2 := by
  refine forall₂_congr fun r _ => ?_
  cases (act c w r).1 <;> exact Iff.rfl

theorem wp_mono {p : Prog Call Answer ε α} {Q Q' : Except ε α → World → Prop} {w : World}
    (hp : wp act Ok p Q w) (hQ : ∀ x w', Q x w' → Q' x w') : wp act Ok p Q' w := by
  induction p generalizing w with
  | done a => exact hQ _ _ hp
  | fail e => exact hQ _ _ hp
  | call c k ih => exact fun r hr => ih _ (hp r hr)

theorem wp_invariant {I : World → Prop} (hI : ∀ c w r, I w → Ok c w r → I (act c w r).2)
    (p : Prog Call Answer ε α) {w : World} (hw : I w) : wp act Ok p (fun _ => I) w := by
  induction p generalizing w with
  | done a => exact hw
  | fail e => exact hw
  | call c k ih => exact fun r hr => ih _ (hI c w r hw hr)

theorem wp_of_only {P : Call → Prop} {I : World → Prop} {p : Prog Call Answer ε α}
    (hI : ∀ c w r, P c → I w → Ok c w r → I (act c w r).2) (hp : Only P p) {w : World}
    (hw : I w) : wp act Ok p (fun _ => I) w := by
  induction p generalizing w with
  | done a => exact hw
  | fail e => exact hw
  | call c k ih => exact fun r hr => ih _ (hp.2 _) (hI c w r hp.1 hw hr)

theorem wp_bind_of_only {P : Call → Prop} {I : World → Prop} {p : Prog Call Answer ε α}
    {f : α → Prog Call Answer ε β} {Q : Except ε β → World → Prop} {w : World}
    (hI : ∀ c w r, P c → I w → Ok c w r → I (act c w r).2) (hp : Only P p) (hw : I w)
    (hf : ∀ a w', I w' → wp act Ok (f a) Q w') (he : ∀ e w', I w' → Q (.error e) w') :
    wp act Ok (p >>= f) Q w := by
  rw [wp_bind]
  refine wp_mono (wp_of_only hI hp hw) fun x w' hw' => ?_
  cases x with
  | ok a => exact hf a w' hw'
  | error e => exact he e w' hw'

theorem wp_bind_of_returns {P : Call → Prop} {I : World → Prop} {R : α → Prop}
    {p : Prog Call Answer ε α} {f : α → Prog Call Answer ε β} {Q : Except ε β → World → Prop}
    {w : World} (hI : ∀ c w r, P c → I w → Ok c w r → I (act c w r).2) (hp : Only P p)
    (hr : Returns R p) (hw : I w) (hf : ∀ a w', R a → I w' → wp act Ok (f a) Q w')
    (he : ∀ e w', I w' → Q (.error e) w') : wp act Ok (p >>= f) Q w := by
  induction p generalizing w with
  | done a => exact hf a w hr hw
  | fail e => exact he e w hw
  | call c k ih => exact fun r hok => ih _ (hp.2 _) (hr _) (hI c w r hp.1 hw hok)

theorem wp_bind_of {p : Prog Call Answer ε α} {f : α → Prog Call Answer ε β}
    {R : Except ε α → World → Prop} {Q : Except ε β → World → Prop} {w : World}
    (hp : wp act Ok p R w) (hf : ∀ a w', R (.ok a) w' → wp act Ok (f a) Q w')
    (he : ∀ e w', R (.error e) w' → Q (.error e) w') : wp act Ok (p >>= f) Q w := by
  rw [wp_bind]
  refine wp_mono hp fun x w' hw' => ?_
  cases x with
  | ok a => exact hf a w' hw'
  | error e => exact he e w' hw'

theorem wp_ite {c : Prop} [Decidable c] {p q : Prog Call Answer ε α}
    {Q : Except ε α → World → Prop} {w : World} (hp : c → wp act Ok p Q w)
    (hq : ¬ c → wp act Ok q Q w) : wp act Ok (if c then p else q) Q w := by
  by_cases h : c
  · rw [if_pos h]
    exact hp h
  · rw [if_neg h]
    exact hq h

/-- The program answers, and `R` holds of its answer and the world it leaves. -/
def Answers (R : α → World → Prop) (x : Except ε α) (w : World) : Prop := ∃ a, x = .ok a ∧ R a w

theorem wp_bind_answers {p : Prog Call Answer ε α} {f : α → Prog Call Answer ε β}
    {R : α → World → Prop} {Q : Except ε β → World → Prop} {w : World}
    (hp : wp act Ok p (Answers R) w) (hf : ∀ a w', R a w' → wp act Ok (f a) Q w') :
    wp act Ok (p >>= f) Q w := by
  refine wp_bind_of hp (fun a w' h => ?_) fun e w' h => ?_
  · obtain ⟨b, hb, hR⟩ := h
    cases hb
    exact hf a w' hR
  · obtain ⟨b, hb, -⟩ := h
    cases hb

theorem wp_forM {f : α → Prog Call Answer ε Unit} {g : World → α → World}
    (hf : ∀ a w, wp act Ok (f a) (Answers fun _ w' => w' = g w a) w) (l : List α) (w : World) :
    wp act Ok (l.forM f) (Answers fun _ w' => w' = l.foldl g w) w := by
  induction l generalizing w with
  | nil => exact ⟨(), rfl, rfl⟩
  | cons a l ih =>
    refine wp_bind_answers (hf a w) fun _ w' hw' => ?_
    rw [hw']
    exact ih (g w a)

variable (act) in
/-- Runs a program on one reply to all of its calls. -/
def runWith (r : Reply) : Prog Call Answer ε α → World → Except ε α × World
  | done a, w => (.ok a, w)
  | fail e, w => (.error e, w)
  | call c k, w => runWith r (k (act c w r).1) (act c w r).2

theorem wp_runWith {r : Reply} {p : Prog Call Answer ε α} {Q : Except ε α → World → Prop}
    {w : World} (h : wp act (fun _ _ r' => r' = r) p Q w) :
    Q (runWith act r p w).1 (runWith act r p w).2 := by
  induction p generalizing w with
  | done a => exact h
  | fail e => exact h
  | call c k ih => exact ih _ (h r rfl)

end Semantics

end Prog

/-- A run is a list of turns: a whole program with the replies of its calls, or a step of
the environment between two programs. -/
inductive Turn (Call : Type) (Answer : Call → Type) (ε Reply Env : Type) where
  | pass (p : Prog Call Answer ε Unit) (replies : List Reply)
  | environment (e : Env)

namespace Turn
variable {Call : Type} {Answer : Call → Type} {ε World Reply Env : Type} [Inhabited Reply]
variable (act : (c : Call) → World → Reply → Except ε (Answer c) × World)
variable (envStep : Env → World → World)

def step (w : World) : Turn Call Answer ε Reply Env → World
  | pass p rs => (p.exec act rs w).2
  | environment e => envStep e w

def run (w : World) (ts : List (Turn Call Answer ε Reply Env)) : World :=
  ts.foldl (step act envStep) w

@[simp] theorem run_nil (w : World) :
    run act envStep w ([] : List (Turn Call Answer ε Reply Env)) = w := rfl

@[simp] theorem run_cons (w : World) (t : Turn Call Answer ε Reply Env)
    (ts : List (Turn Call Answer ε Reply Env)) :
    run act envStep w (t :: ts) = run act envStep (step act envStep w t) ts := rfl

/-- Every turn of the run meets the condition `C`, in the world it starts in. -/
def All (C : World → Turn Call Answer ε Reply Env → Prop) :
    World → List (Turn Call Answer ε Reply Env) → Prop
  | _, [] => True
  | w, t :: ts => C w t ∧ All C (step act envStep w t) ts

theorem run_invariant {C : World → Turn Call Answer ε Reply Env → Prop} {I : World → Prop}
    (hstep : ∀ w t, I w → C w t → I (step act envStep w t)) {w : World}
    {ts : List (Turn Call Answer ε Reply Env)} (hw : I w) (hc : All act envStep C w ts) :
    I (run act envStep w ts) := by
  induction ts generalizing w with
  | nil => exact hw
  | cons t ts ih => exact ih (hstep w t hw hc.1) hc.2

end Turn

end PolymarketBot.Lib
