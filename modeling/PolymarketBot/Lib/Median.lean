import Mathlib.Algebra.Order.Group.MinMax
import Mathlib.Data.List.Sort

/-! The median of three: it grows with each of its arguments and turns around with them. -/

namespace PolymarketBot.Lib
variable {α : Type*} [LinearOrder α]

def median3 (a b c : α) : α := max (min a b) (min (max a b) c)

theorem median3_mono {a b c a' b' c' : α} (ha : a ≤ a') (hb : b ≤ b') (hc : c ≤ c') :
    median3 a b c ≤ median3 a' b' c' :=
  max_le_max (min_le_min ha hb) (min_le_min (max_le_max ha hb) hc)

theorem median3_neg {G : Type*} [AddCommGroup G] [LinearOrder G] [IsOrderedAddMonoid G]
    (a b c : G) : median3 (-a) (-b) (-c) = -median3 a b c := by
  have hmiddle : max (min (-a) (-b)) (max (-a) (-b)) = max (-a) (-b) :=
    max_eq_right (min_le_max)
  unfold median3
  rw [max_min_distrib_left, hmiddle, max_neg_neg, min_neg_neg, max_neg_neg, min_neg_neg]

theorem insertionSort_three (a b c : α) :
    ∃ low high, [a, b, c].insertionSort (· ≤ ·) = [low, median3 a b c, high] := by
  have hcases (x y : α) : x ≤ y ∨ ¬ x ≤ y ∧ y ≤ x :=
    (em (x ≤ y)).imp_right fun h => ⟨h, (not_le.mp h).le⟩
  unfold median3
  rcases hcases a b with hab | ⟨hab, hba⟩ <;> rcases hcases b c with hbc | ⟨hbc, hcb⟩ <;>
    rcases hcases a c with hac | ⟨hac, hca⟩ <;>
    simp [List.insertionSort, List.orderedInsert, *]
  -- c < b ≤ a ≤ c cannot be
  exact absurd (hba.trans hac) hbc

end PolymarketBot.Lib
