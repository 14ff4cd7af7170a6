import Mathlib.Logic.Function.Basic
import Mathlib.Data.List.Basic

/-! Writers that overwrite one shared keyed cell as a whole from copies of their own.
The ledger replays what each writer edited, in the order of the overwrites. -/

namespace PolymarketBot.Lib.Overwrite
variable {κ ν : Type*}

abbrev Cell (κ ν : Type*) := κ → Option ν

/-- An edit of one key: `some v` puts `v` there and `none` drops the entry. -/
structure Edit (κ ν : Type*) where
  key : κ
  value : Option ν

def keys (es : List (Edit κ ν)) : List κ := es.map Edit.key

variable [DecidableEq κ]

def Edit.apply (e : Edit κ ν) (c : Cell κ ν) : Cell κ ν :=
  Function.update c e.key e.value

def applyAll (es : List (Edit κ ν)) (c : Cell κ ν) : Cell κ ν :=
  es.foldl (fun c e => e.apply c) c

/-- What the last edit of a key left there, when the key was edited at all. -/
def lastEdit (k : κ) : List (Edit κ ν) → Option (Option ν)
  | [] => none
  | e :: es => (lastEdit k es).orElse fun _ => if e.key = k then some e.value else none

@[simp] theorem applyAll_nil (c : Cell κ ν) : applyAll [] c = c := rfl

@[simp] theorem applyAll_cons (e : Edit κ ν) (es : List (Edit κ ν)) (c : Cell κ ν) :
    applyAll (e :: es) c = applyAll es (e.apply c) := rfl

theorem applyAll_append (es fs : List (Edit κ ν)) (c : Cell κ ν) :
    applyAll (es ++ fs) c = applyAll fs (applyAll es c) := by
  simp [applyAll, List.foldl_append]

theorem applyAll_lastEdit (es : List (Edit κ ν)) (c : Cell κ ν) (k : κ) :
    applyAll es c k = (lastEdit k es).getD (c k) := by
  induction es generalizing c with
  | nil => rfl
  | cons e es ih =>
    rw [applyAll_cons, ih, lastEdit]
    cases h : lastEdit k es with
    | some v => rfl
    | none =>
      by_cases hk : e.key = k
      · subst hk
        simp [Edit.apply]
      · simp [Edit.apply, hk, Function.update_of_ne (Ne.symm hk)]

theorem lastEdit_eq_none {es : List (Edit κ ν)} {k : κ} :
    lastEdit k es = none ↔ k ∉ keys es := by
  induction es with
  | nil => simp [lastEdit, keys]
  | cons e es ih =>
    cases h : lastEdit k es with
    | some v =>
      have hk : k ∈ keys es := by
        by_contra hn
        simp [ih.mpr hn] at h
      simp only [keys] at hk
      simp [lastEdit, h, keys, hk]
    | none =>
      have hk : k ∉ keys es := ih.mp h
      simp only [keys] at hk
      simp [lastEdit, h, keys, hk, eq_comm]

theorem applyAll_of_not_mem {es : List (Edit κ ν)} {k : κ} (h : k ∉ keys es) (c : Cell κ ν) :
    applyAll es c k = c k := by
  rw [applyAll_lastEdit, lastEdit_eq_none.mpr h]
  rfl

theorem applyAll_of_mem {es : List (Edit κ ν)} {k : κ} (h : k ∈ keys es) (c d : Cell κ ν) :
    applyAll es c k = applyAll es d k := by
  cases hl : lastEdit k es with
  | none => exact absurd h (lastEdit_eq_none.mp hl)
  | some v => simp [applyAll_lastEdit, hl]

theorem applyAll_eq_iff (es : List (Edit κ ν)) (c d : Cell κ ν) :
    applyAll es c = applyAll es d ↔ ∀ k, k ∉ keys es → c k = d k := by
  constructor
  · intro h k hk
    have := congrFun h k
    rwa [applyAll_of_not_mem hk, applyAll_of_not_mem hk] at this
  · intro h
    funext k
    by_cases hk : k ∈ keys es
    · exact applyAll_of_mem hk c d
    · rw [applyAll_of_not_mem hk, applyAll_of_not_mem hk, h k hk]

/-- One whole overwrite: the copy the writer worked on and the edits it made there. -/
structure Write (κ ν : Type*) where
  base : Cell κ ν
  edits : List (Edit κ ν)

def Write.result (w : Write κ ν) : Cell κ ν := applyAll w.edits w.base

def Write.Fresh (w : Write κ ν) (c : Cell κ ν) : Prop :=
  ∀ k, k ∉ keys w.edits → w.base k = c k

def history (ws : List (Write κ ν)) : List (Edit κ ν) := ws.flatMap Write.edits

/-- Every key holds what the last edit of it left, and what it held at the start
when no writer edited it. -/
def Kept (start cell : Cell κ ν) (ws : List (Write κ ν)) : Prop :=
  ∀ k, cell k = (lastEdit k (history ws)).getD (start k)

theorem kept_iff_ledger {start cell : Cell κ ν} {ws : List (Write κ ν)} :
    Kept start cell ws ↔ cell = applyAll (history ws) start := by
  constructor
  · intro h
    funext k
    rw [h k, applyAll_lastEdit]
  · rintro rfl k
    exact applyAll_lastEdit _ _ k

theorem kept_nil (start : Cell κ ν) : Kept start start [] := by
  intro k
  rfl

theorem kept_write {start cell : Cell κ ν} {ws : List (Write κ ν)} (h : Kept start cell ws)
    (w : Write κ ν) : Kept start w.result (ws ++ [w]) ↔ w.Fresh cell := by
  have hl : history (ws ++ [w]) = history ws ++ w.edits := by simp [history]
  rw [kept_iff_ledger] at h ⊢
  rw [hl, applyAll_append, ← h]
  exact applyAll_eq_iff w.edits w.base cell

end PolymarketBot.Lib.Overwrite
