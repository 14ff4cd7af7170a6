import Mathlib.Tactic.Abel

/-! A position carried at cost: what it cost so far, what its sales have realized, and what was
spent and received in all. -/

namespace PolymarketBot.Lib

structure CostBook (α : Type*) where
  cost : α
  realized : α
  spent : α
  received : α

namespace CostBook
variable {α : Type*} [AddCommGroup α]

/-- An entry of the book: a purchase, a sale at a cost basis, or a cost written off. -/
inductive Entry (α : Type*)
  | buy (price : α)
  | sell (price costBasis : α)
  | writeOff (costBasis : α)

def post (book : CostBook α) : Entry α → CostBook α
  | .buy price => { book with cost := book.cost + price, spent := book.spent + price }
  | .sell price costBasis =>
    { book with
      cost := book.cost - costBasis
      realized := book.realized + (price - costBasis)
      received := book.received + price }
  | .writeOff costBasis =>
    { book with cost := book.cost - costBasis, realized := book.realized - costBasis }

/-- What was realized is what came in, less what was spent, plus what is held at cost. -/
def Balanced (book : CostBook α) : Prop :=
  book.realized = book.received - book.spent + book.cost

theorem Balanced.post {book : CostBook α} (h : book.Balanced) (entry : Entry α) :
    (book.post entry).Balanced := by
  unfold Balanced at h ⊢
  cases entry with
  | buy price =>
    simp only [CostBook.post, h]
    abel
  | sell price costBasis =>
    simp only [CostBook.post, h]
    abel
  | writeOff costBasis =>
    simp only [CostBook.post, h]
    abel

theorem Balanced.posts {book : CostBook α} (h : book.Balanced) (entries : List (Entry α)) :
    (entries.foldl CostBook.post book).Balanced := by
  induction entries generalizing book with
  | nil => exact h
  | cons entry entries ih => exact ih (h.post entry)

end CostBook

end PolymarketBot.Lib
