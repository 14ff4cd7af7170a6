import Mathlib.Data.List.Basic

/-! A worklist loop: it expands each item of a queue once, and an expansion may push further
items or end the whole loop. -/

namespace PolymarketBot.Lib.Worklist
variable {α σ : Type*} [DecidableEq α]

/-- What one expansion does. Only items of the support push anything, so the loop ends. -/
structure Expansion (α σ : Type*) where
  expand : σ → α → Option (List α × σ)
  support : List α
  quiet : ∀ s a pushed s', expand s a = some (pushed, s') → a ∉ support → pushed = []

variable (E : Expansion α σ)

/-- The items of the support that are still to be expanded. -/
def fresh (visited : List α) : List α := E.support.filter (· ∉ visited)

theorem fresh_cons_le (visited : List α) (a : α) :
    (fresh E (a :: visited)).length ≤ (fresh E visited).length := by
  refine (List.monotone_filter_right _ fun b hb => ?_).length_le
  simp only [List.mem_cons, not_or, decide_eq_true_eq] at hb ⊢
  exact hb.2

theorem fresh_cons_lt {visited : List α} {a : α} (hsupport : a ∈ E.support) (hnew : a ∉ visited) :
    (fresh E (a :: visited)).length < (fresh E visited).length := by
  have hsublist : (fresh E (a :: visited)).Sublist (fresh E visited) := by
    refine List.monotone_filter_right _ fun b hb => ?_
    simp only [List.mem_cons, not_or, decide_eq_true_eq] at hb ⊢
    exact hb.2
  refine Nat.lt_of_le_of_ne hsublist.length_le fun heq => ?_
  have hmem : a ∈ fresh E (a :: visited) := by
    rw [hsublist.eq_of_length heq]
    exact List.mem_filter.mpr ⟨hsupport, by simpa using hnew⟩
  simpa using (List.mem_filter.mp hmem).2

def run (queue visited : List α) (s : σ) : Option σ :=
  match queue with
  | [] => some s
  | current :: rest =>
    if current ∈ visited then run rest visited s
    else
      match _h : E.expand s current with
      | none => none
      | some (pushed, s') => run (rest ++ pushed) (current :: visited) s'
termination_by ((fresh E visited).length, queue.length)
decreasing_by
  · exact Prod.Lex.right _ (Nat.lt_succ_self _)
  · by_cases hsupport : current ∈ E.support
    · exact Prod.Lex.left _ _ (fresh_cons_lt E hsupport ‹_›)
    · have hquiet := E.quiet _ _ _ _ _h hsupport
      subst hquiet
      obtain hlt | heq := Nat.lt_or_eq_of_le (fresh_cons_le E visited current)
      · exact Prod.Lex.left _ _ hlt
      · rw [heq, List.append_nil]
        exact Prod.Lex.right _ (Nat.lt_succ_self _)

variable {E}

/-- An invariant of queue, visited items and state that each turn of the loop keeps. -/
structure Invariant (E : Expansion α σ) (I : List α → List α → σ → Prop) : Prop where
  again : ∀ {current rest visited s}, I (current :: rest) visited s → current ∈ visited →
    I rest visited s
  expanded : ∀ {current rest visited s pushed s'}, I (current :: rest) visited s →
    current ∉ visited → E.expand s current = some (pushed, s') →
      I (rest ++ pushed) (current :: visited) s'

variable {I : List α → List α → σ → Prop}

theorem Invariant.run (h : Invariant E I) (queue visited : List α) (s : σ)
    (hi : I queue visited s) :
    match run E queue visited s with
    | some last => ∃ all, I [] all last
    | none => ∃ current rest before s', I (current :: rest) before s' ∧
        E.expand s' current = none := by
  fun_induction Worklist.run E queue visited s with
  | case1 visited s => exact ⟨visited, hi⟩
  | case2 visited s current rest hmem ih => exact ih (h.again hi hmem)
  | case3 visited s current rest hmem hexpand => exact ⟨current, rest, visited, s, hi, hexpand⟩
  | case4 visited s current rest hmem pushed s' hexpand ih => exact ih (h.expanded hi hmem hexpand)

theorem run_congr {E E' : Expansion α σ} {I : σ → Prop}
    (hexpand : ∀ s a, I s → E.expand s a = E'.expand s a)
    (hkept : ∀ s a pushed s', I s → E.expand s a = some (pushed, s') → I s')
    (queue visited : List α) (s : σ) (hs : I s) :
    Worklist.run E queue visited s = Worklist.run E' queue visited s := by
  fun_induction Worklist.run E queue visited s with
  | case1 visited s => rw [Worklist.run]
  | case2 visited s current rest hmem ih => rw [ih hs, Worklist.run, if_pos hmem]
  | case3 visited s current rest hmem hnone =>
    rw [Worklist.run, if_neg hmem]
    rw [hexpand s current hs] at hnone
    split
    · rfl
    · rename_i hsome
      rw [hnone] at hsome
      cases hsome
  | case4 visited s current rest hmem pushed s' hsome ih =>
    rw [ih (hkept s current pushed s' hs hsome)]
    conv_rhs => rw [Worklist.run, if_neg hmem]
    rw [hexpand s current hs] at hsome
    split
    · rename_i hnone
      rw [hsome] at hnone
      cases hnone
    · rename_i hsame
      rw [hsome] at hsame
      cases hsame
      rfl

end PolymarketBot.Lib.Worklist
