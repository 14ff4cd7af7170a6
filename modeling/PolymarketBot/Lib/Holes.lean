import Mathlib.Data.List.ReduceOption
import Mathlib.Tactic.Tauto

/-! Lists with holes: the rank of a place among those that hold an entry, and the last entry
with a property. -/

namespace PolymarketBot.Lib.Holes
variable {α : Type*}

/-- How many entries stand before this place. -/
def rank (l : List (Option α)) (i : ℕ) : ℕ := (l.take i).reduceOption.length

def LastAt (p : α → Prop) (l : List α) (i : ℕ) : Prop :=
  (∃ x, l[i]? = some x ∧ p x) ∧ ∀ k, i < k → ∀ x, l[k]? = some x → ¬ p x

section Rank
variable {l : List (Option α)} {i j r : ℕ} {x y : α}

@[simp] theorem rank_zero (l : List (Option α)) : rank l 0 = 0 := rfl

@[simp] theorem rank_cons_none (l : List (Option α)) (i : ℕ) :
    rank (none :: l) (i + 1) = rank l i := by
  rw [rank, List.take_succ_cons, List.reduceOption_cons_of_none, rank]

@[simp] theorem rank_cons_some (x : α) (l : List (Option α)) (i : ℕ) :
    rank (some x :: l) (i + 1) = rank l i + 1 := by
  rw [rank, List.take_succ_cons, List.reduceOption_cons_of_some, List.length_cons, rank]

theorem reduceOption_getElem?_iff :
    l.reduceOption[r]? = some x ↔ ∃ i, l[i]? = some (some x) ∧ rank l i = r := by
  induction l generalizing r with
  | nil => simp
  | cons head rest ih =>
    -- the first place apart from the others
    rw [← Nat.or_exists_add_one]
    cases head with
    | none =>
      rw [List.reduceOption_cons_of_none, ih]
      simp
    | some y =>
      rw [List.reduceOption_cons_of_some]
      cases r with
      | zero => simp
      | succ r =>
        rw [List.getElem?_cons_succ, ih]
        simp

theorem rank_mono (h : i ≤ j) : rank l i ≤ rank l j := by
  have hsub : (l.take i).Sublist (l.take j) := (List.take_prefix_take_left h).sublist
  exact (hsub.filterMap id).length_le

theorem rank_succ (h : l[i]? = some (some x)) : rank l (i + 1) = rank l i + 1 := by
  simp [rank, List.take_add_one, h, List.reduceOption_append]

theorem rank_lt (h : l[i]? = some (some x)) (hij : i < j) : rank l i < rank l j := by
  have hsucc := rank_succ h
  have hmono : rank l (i + 1) ≤ rank l j := rank_mono hij
  omega

end Rank

section Last
variable {p : α → Prop} {i r : ℕ} {x : α}

theorem lastAt_concat_pos {l : List α} (hp : p x) : LastAt p (l ++ [x]) r ↔ r = l.length := by
  constructor
  · rintro ⟨⟨y, hy, -⟩, hlast⟩
    have hle : r < (l ++ [x]).length := (List.getElem?_eq_some_iff.mp hy).1
    rw [List.length_append, List.length_singleton] at hle
    by_contra hne
    exact hlast l.length (by omega) x (by simp) hp
  · rintro rfl
    refine ⟨⟨x, by simp, hp⟩, fun k hk y hy => ?_⟩
    have hlt := (List.getElem?_eq_some_iff.mp hy).1
    rw [List.length_append, List.length_singleton] at hlt
    omega

theorem lastAt_concat_neg {l : List α} (hp : ¬ p x) :
    LastAt p (l ++ [x]) r ↔ LastAt p l r := by
  have hget (k : ℕ) (y : α) : ((l ++ [x])[k]? = some y ∧ p y) ↔ (l[k]? = some y ∧ p y) := by
    rw [List.getElem?_append]
    split_ifs with hk
    · rfl
    · have hnone : l[k]? = none := List.getElem?_eq_none (Nat.not_lt.mp hk)
      simp only [hnone, reduceCtorEq, false_and, iff_false, not_and]
      intro hy
      obtain ⟨-, rfl⟩ := List.getElem?_eq_some_iff.mp hy
      simpa using hp
  unfold LastAt
  refine and_congr (exists_congr fun y => hget r y) (forall_congr' fun k => ?_)
  refine imp_congr_right fun _ => forall_congr' fun y => ?_
  have := hget k y
  tauto

theorem lastAt_reduceOption {l : List (Option α)} :
    LastAt p l.reduceOption r ↔
      ∃ i, LastAt (fun cell => ∃ x, cell = some x ∧ p x) l i ∧ rank l i = r := by
  constructor
  · rintro ⟨⟨x, hx, hp⟩, hlast⟩
    obtain ⟨i, hi, hr⟩ := reduceOption_getElem?_iff.mp hx
    refine ⟨i, ⟨⟨some x, hi, x, rfl, hp⟩, ?_⟩, hr⟩
    rintro k hk - hcell ⟨y, rfl, hy⟩
    exact hlast (rank l k) (hr ▸ rank_lt hi hk) y
      (reduceOption_getElem?_iff.mpr ⟨k, hcell, rfl⟩) hy
  · rintro ⟨i, ⟨⟨-, hi, x, rfl, hp⟩, hlast⟩, rfl⟩
    refine ⟨⟨x, reduceOption_getElem?_iff.mpr ⟨i, hi, rfl⟩, hp⟩, fun k hk y hy hpy => ?_⟩
    obtain ⟨j, hj, rfl⟩ := reduceOption_getElem?_iff.mp hy
    have hij : i < j := by
      by_contra hle
      exact absurd hk (Nat.not_lt.mpr (rank_mono (Nat.not_lt.mp hle)))
    exact hlast j hij (some y) hj ⟨y, rfl, hpy⟩

end Last

end PolymarketBot.Lib.Holes
