import Mathlib.Order.Defs.Unbundled
import PolymarketBot.Lib.Threads

/-! Every world a run passes through, one after each call: what holds at each of them, and what
holds between an earlier and a later one. -/

namespace PolymarketBot.Lib

/-- A history that begins in `w`, goes through `ms` and ends in `last`: the invariant holds at
each moment, and each moment is related to all later ones. -/
structure History {World : Type} (G : World → World → Prop) (I : World → Prop) (w : World)
    (ms : List World) (last : World) : Prop where
  related : (w :: ms).Pairwise G
  invariant : ∀ m ∈ w :: ms, I m
  last_mem : last ∈ w :: ms
  reaches : ∀ m ∈ w :: ms, G m last

namespace History
variable {World : Type} {G : World → World → Prop} [IsPreorder World G] {I : World → Prop}

theorem start {w : World} (hw : I w) : History G I w [] w where
  related := List.pairwise_singleton G w
  invariant := fun _ hm => List.mem_singleton.mp hm ▸ hw
  last_mem := List.mem_cons_self
  reaches := fun m hm => List.mem_singleton.mp hm ▸ refl_of G m

theorem cons {w w' last : World} {ms : List World} (hw : I w) (hg : G w w')
    (h : History G I w' ms last) : History G I w (w' :: ms) last := by
  have hall : ∀ m ∈ w' :: ms, G w m := by
    intro m hm
    cases hm with
    | head => exact hg
    | tail _ hm => exact trans_of G hg (List.rel_of_pairwise_cons h.related hm)
  refine ⟨List.pairwise_cons.mpr ⟨hall, h.related⟩, ?_, List.mem_cons_of_mem w h.last_mem, ?_⟩
  · intro m hm
    cases hm with
    | head => exact hw
    | tail _ hm => exact h.invariant m hm
  · intro m hm
    cases hm with
    | head => exact hall last h.last_mem
    | tail _ hm => exact h.reaches m hm

theorem append {w mid last : World} {ms ms' : List World} (h : History G I w ms mid)
    (h' : History G I mid ms' last) : History G I w (ms ++ ms') last := by
  have hlater : ∀ m ∈ w :: ms, ∀ m' ∈ ms', G m m' := by
    intro m hm m' hm'
    exact trans_of G (h.reaches m hm) (List.rel_of_pairwise_cons h'.related hm')
  have hmem : ∀ m ∈ w :: (ms ++ ms'), m ∈ w :: ms ∨ m ∈ ms' := by
    intro m hm
    rwa [← List.cons_append, List.mem_append] at hm
  refine ⟨?_, ?_, ?_, ?_⟩
  · rw [← List.cons_append, List.pairwise_append]
    exact ⟨h.related, h'.related.of_cons, hlater⟩
  · intro m hm
    cases hmem m hm with
    | inl hm => exact h.invariant m hm
    | inr hm => exact h'.invariant m (List.mem_cons_of_mem mid hm)
  · rw [← List.cons_append]
    cases h'.last_mem with
    | head => exact List.mem_append_left ms' h.last_mem
    | tail _ hlast => exact List.mem_append_right (w :: ms) hlast
  · intro m hm
    cases hmem m hm with
    | inl hm => exact trans_of G (h.reaches m hm) (h'.reaches mid List.mem_cons_self)
    | inr hm => exact h'.reaches m (List.mem_cons_of_mem mid hm)

end History

section Moments
variable {Call : Type} {Answer : Call → Type} {ε α World Reply Env σ : Type} [Inhabited Reply]
variable (act : (c : Call) → World → Reply → Except ε (Answer c) × World)
variable (envStep : Env → World → World)

def Prog.moments : Prog Call Answer ε α → List Reply → World → List World
  | .done _, _, _ => []
  | .fail _, _, _ => []
  | .call c k, rs, w =>
    let next := act c w (rs.headD default)
    next.2 :: moments (k next.1) rs.tail next.2

/-- The worlds after each call and each step of the environment. -/
def Turn.moments : World → List (Turn Call Answer ε Reply Env) → List World
  | _, [] => []
  | w, .pass p rs :: ts => p.moments act rs w ++ moments (p.exec act rs w).2 ts
  | w, .environment e :: ts => envStep e w :: moments (envStep e w) ts

variable {act envStep} {P : Protocol Call Answer ε σ} {I : World → Prop}
variable {Knows : σ → World → Prop} {G : World → World → Prop} [IsPreorder World G]

theorem Prog.Obeys.history
    (hstep : ∀ s c w r, I w → Knows s w → P.allows s c →
      I (act c w r).2 ∧ Knows (P.next s c (act c w r).1) (act c w r).2 ∧ G w (act c w r).2)
    {p : Prog Call Answer ε α} {Q : Except ε α → σ → Prop} {s : σ} (hp : p.Obeys P Q s)
    {w : World} (hw : I w) (hs : Knows s w) (rs : List Reply) :
    History G I w (p.moments act rs w) (p.exec act rs w).2 := by
  induction p generalizing rs w s with
  | done a => exact .start hw
  | fail e => exact .start hw
  | call c k ih =>
    obtain ⟨hallowed, hrest⟩ := hp
    obtain ⟨hw', hs', hg⟩ := hstep s c w (rs.headD default) hw hs hallowed
    exact .cons hw hg (ih _ (hrest _) hw' hs' rs.tail)

theorem Turn.history
    (hstep : ∀ s c w r, I w → Knows s w → P.allows s c →
      I (act c w r).2 ∧ Knows (P.next s c (act c w r).1) (act c w r).2 ∧ G w (act c w r).2)
    (henv : ∀ e w, I w → I (envStep e w) ∧ G w (envStep e w))
    {ts : List (Turn Call Answer ε Reply Env)} {s : σ} (hs : ∀ w, I w → Knows s w)
    (hts : ∀ p rs, .pass p rs ∈ ts → p.Obeys P (fun _ _ => True) s) {w : World} (hw : I w) :
    History G I w (moments act envStep w ts) (run act envStep w ts) := by
  induction ts generalizing w with
  | nil => exact .start hw
  | cons t ts ih =>
    have hrest : ∀ p rs, .pass p rs ∈ ts → p.Obeys P (fun _ _ => True) s :=
      fun p rs hmem => hts p rs (List.mem_cons_of_mem t hmem)
    cases t with
    | pass p rs =>
      have hpass := (hts p rs List.mem_cons_self).history hstep hw (hs w hw) rs
      exact hpass.append (ih hrest (hpass.invariant _ hpass.last_mem))
    | environment e =>
      obtain ⟨hw', hg⟩ := henv e w hw
      exact .cons hw hg (ih hrest hw')

end Moments

section Pool
variable {ι Call : Type} {Answer : Call → Type} {ε World Reply σ : Type} [DecidableEq ι]
variable {act : ι → (c : Call) → World → Reply → Except ε (Answer c) × World}
variable {Q : σ → Prop} {P : Protocol Call Answer ε σ} {I : World → Prop}
variable {Knows : ι → σ → World → Prop} {G : World → World → Prop} [IsPreorder World G]

theorem Pool.SoundWith.run_related
    (hstep : ∀ i s c w r, I w → Knows i s w → P.allows s c →
      I (act i c w r).2 ∧ Knows i (P.next s c (act i c w r).1) (act i c w r).2 ∧
        (∀ j ≠ i, ∀ t, Knows j t w → Knows j t (act i c w r).2) ∧ G w (act i c w r).2)
    {pool : Pool ι Call Answer ε World} (h : Pool.SoundWith Q P I Knows pool)
    (schedule : List (ι × Reply)) :
    Pool.SoundWith Q P I Knows (Pool.run act pool schedule) ∧
      G pool.world (Pool.run act pool schedule).world := by
  induction schedule generalizing pool with
  | nil => exact ⟨h, refl_of G pool.world⟩
  | cons turn rest ih =>
    have hnext : Pool.SoundWith Q P I Knows (Pool.step act pool turn) :=
      h.step (fun i s c w r hw hs hallows (_ : True) =>
        have hkept := hstep i s c w r hw hs hallows
        ⟨hkept.1, hkept.2.1, hkept.2.2.1⟩) turn fun _ _ _ => trivial
    have hrelated : G pool.world (Pool.step act pool turn).world := by
      obtain ⟨s, hs, hobeys⟩ := h.thread turn.1
      cases ht : pool.thread turn.1 with
      | done a => simpa only [Pool.step, ht] using refl_of G pool.world
      | fail e => simpa only [Pool.step, ht] using refl_of G pool.world
      | call c k =>
        rw [ht] at hobeys
        simpa only [Pool.step, ht] using
          (hstep turn.1 s c pool.world turn.2 h.world hs hobeys.1).2.2.2
    obtain ⟨hsound, hlater⟩ := ih hnext
    exact ⟨hsound, trans_of G hrelated hlater⟩

end Pool

end PolymarketBot.Lib
