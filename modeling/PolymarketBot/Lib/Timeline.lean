import Mathlib.Order.Defs.LinearOrder
import Mathlib.Data.List.TakeWhile
import Mathlib.Data.List.Induction
import Mathlib.Order.Monotone.Basic
import Mathlib.Data.Finset.Card

/-! Samples in the order of their times, the newest first and one for each time. A store that keeps
of them those above a floor, and no more than it has room for, holds the newest of all that was
ever given. -/

namespace PolymarketBot.Lib.Timeline
variable {α κ : Type*} [LinearOrder κ] (time : α → κ)

def Falling (l : List α) : Prop := l.Pairwise fun a b => time b < time a

/-- Gives a sample its place, where it stands in for an earlier one of its time. -/
def place (a : α) : List α → List α
  | [] => [a]
  | b :: l =>
    if time b < time a then a :: b :: l
    else if time b = time a then a :: l
    else b :: place a l

def placeAll (l log : List α) : List α := log.foldl (fun l a => place time a l) l

/-- All that was given, for each time what was given last. -/
def newestFirst (log : List α) : List α := placeAll time [] log

def lastAt (log : List α) (t : κ) : Option α := log.reverse.find? fun a => time a = t

variable {time}

theorem mem_place {a b : α} {l : List α} (h : Falling time l) :
    b ∈ place time a l ↔ b = a ∨ b ∈ l ∧ time b ≠ time a := by
  induction l with
  | nil => simp [place]
  | cons c l ih =>
    obtain ⟨hhead, htail⟩ := List.pairwise_cons.mp h
    have hbelow : b ∈ l → time b < time c := hhead b
    unfold place
    split_ifs with hlt heq
    · have hne : b ∈ c :: l → time b ≠ time a := by
        intro hb
        cases List.mem_cons.mp hb with
        | inl hc => exact hc ▸ hlt.ne
        | inr hl => exact ((hbelow hl).trans hlt).ne
      simp only [List.mem_cons] at hne ⊢
      grind
    · simp only [List.mem_cons]
      grind
    · simp only [List.mem_cons, ih htail]
      grind

theorem mem_of_mem_place {a b : α} {l : List α} (h : b ∈ place time a l) : b = a ∨ b ∈ l := by
  induction l with
  | nil => exact .inl (List.mem_singleton.mp h)
  | cons c l ih =>
    unfold place at h
    split_ifs at h
    · exact List.mem_cons.mp h
    · exact (List.mem_cons.mp h).imp_right (List.mem_cons_of_mem c)
    · cases List.mem_cons.mp h with
      | inl hc => exact .inr (hc ▸ List.mem_cons_self ..)
      | inr hl => exact (ih hl).imp_right (List.mem_cons_of_mem c)

theorem falling_place {l : List α} (h : Falling time l) (a : α) :
    Falling time (place time a l) := by
  induction l with
  | nil => exact List.pairwise_singleton ..
  | cons c l ih =>
    obtain ⟨hhead, htail⟩ := List.pairwise_cons.mp h
    unfold place
    split_ifs with hlt heq
    · refine List.pairwise_cons.mpr ⟨fun b hb => ?_, h⟩
      cases List.mem_cons.mp hb with
      | inl hc => exact hc ▸ hlt
      | inr hl => exact (hhead b hl).trans hlt
    · exact List.pairwise_cons.mpr ⟨fun b hb => heq ▸ hhead b hb, htail⟩
    · refine List.pairwise_cons.mpr ⟨fun b hb => ?_, ih htail⟩
      cases (mem_place htail).mp hb with
      | inl ha =>
        rw [ha]
        exact lt_of_le_of_ne (not_lt.mp hlt) (Ne.symm heq)
      | inr hl => exact hhead b hl.1

theorem falling_placeAll {l : List α} (h : Falling time l) (log : List α) :
    Falling time (placeAll time l log) := by
  induction log generalizing l with
  | nil => exact h
  | cons a log ih => exact ih (falling_place h a)

theorem falling_newestFirst (log : List α) : Falling time (newestFirst time log) :=
  falling_placeAll .nil log

theorem newestFirst_append (log more : List α) :
    newestFirst time (log ++ more) = placeAll time (newestFirst time log) more :=
  List.foldl_append ..

theorem lastAt_snoc (log : List α) (a : α) (t : κ) :
    lastAt time (log ++ [a]) t = if time a = t then some a else lastAt time log t := by
  unfold lastAt
  rw [List.reverse_append, List.reverse_singleton, List.singleton_append, List.find?_cons]
  by_cases ht : time a = t <;> simp [ht]

theorem mem_newestFirst {log : List α} {a : α} :
    a ∈ newestFirst time log ↔ lastAt time log (time a) = some a := by
  induction log using List.reverseRecOn with
  | nil => simp [newestFirst, placeAll, lastAt]
  | append_singleton log b ih =>
    rw [newestFirst_append, lastAt_snoc]
    change a ∈ place time b (newestFirst time log) ↔ _
    rw [mem_place (falling_newestFirst log), ih]
    by_cases hab : time b = time a
    · simp [hab, eq_comm]
    · have hne : a ≠ b := fun h => hab (by rw [h])
      simp [hab, hne, Ne.symm hab]

theorem lastAt_append (log more : List α) (t : κ) :
    lastAt time (log ++ more) t = (lastAt time more t).or (lastAt time log t) := by
  unfold lastAt
  rw [List.reverse_append, List.find?_append]

theorem lastAt_append_of_ne {log more : List α} {t : κ} (h : ∀ b ∈ more, time b ≠ t) :
    lastAt time (log ++ more) t = lastAt time log t := by
  have hnone : lastAt time more t = none :=
    List.find?_eq_none.mpr fun b hb => by simpa using h b (List.mem_reverse.mp hb)
  rw [lastAt_append, hnone, Option.none_or]

theorem lastAt_mem {log : List α} {t : κ} {a : α} (h : lastAt time log t = some a) :
    a ∈ log ∧ time a = t := by
  unfold lastAt at h
  have htime := List.find?_some h
  exact ⟨List.mem_reverse.mp (List.mem_of_find?_eq_some h), by simpa using htime⟩

theorem lastAt_of_mem {log : List α} {a : α} (h : a ∈ log) :
    ∃ b, lastAt time log (time a) = some b := by
  refine Option.isSome_iff_exists.mp (List.find?_isSome.mpr ⟨a, List.mem_reverse.mpr h, ?_⟩)
  exact decide_eq_true rfl

theorem head?_newestFirst_iff {log : List α} {a : α} :
    (newestFirst time log).head? = some a ↔
      lastAt time log (time a) = some a ∧ ∀ b ∈ log, time b ≤ time a := by
  have hfalling : Falling time (newestFirst time log) := falling_newestFirst log
  constructor
  · intro hhead
    have hmem := List.mem_of_head? hhead
    refine ⟨mem_newestFirst.mp hmem, fun b hb => ?_⟩
    obtain ⟨c, hc⟩ : ∃ c, lastAt time log (time b) = some c := lastAt_of_mem hb
    have htime : time c = time b := (lastAt_mem hc).2
    have hplaced : c ∈ newestFirst time log := mem_newestFirst.mpr (htime ▸ hc)
    cases hlist : newestFirst time log with
    | nil =>
      rw [hlist] at hmem
      cases hmem
    | cons d l =>
      rw [hlist] at hhead hplaced hfalling
      obtain rfl := Option.some.inj hhead
      rw [← htime]
      cases List.mem_cons.mp hplaced with
      | inl hcd => rw [hcd]
      | inr hcl => exact ((List.pairwise_cons.mp hfalling).1 c hcl).le
  · intro h
    obtain ⟨hlast, hnewest⟩ := h
    have hplaced : a ∈ newestFirst time log := mem_newestFirst.mpr hlast
    cases hlist : newestFirst time log with
    | nil =>
      rw [hlist] at hplaced
      cases hplaced
    | cons d l =>
      have hd : d ∈ newestFirst time log := hlist ▸ List.mem_cons_self ..
      rw [hlist] at hplaced hfalling
      cases List.mem_cons.mp hplaced with
      | inl had => rw [had]; rfl
      | inr hal =>
        have hlt := (List.pairwise_cons.mp hfalling).1 a hal
        have hle := hnewest d (lastAt_mem (mem_newestFirst.mp hd)).1
        exact absurd hlt hle.not_gt

theorem newestFirst_eq_nil {log : List α} : newestFirst time log = [] ↔ log = [] := by
  constructor
  · intro hnil
    cases log with
    | nil => rfl
    | cons a log =>
      obtain ⟨b, hb⟩ : ∃ b, lastAt time (a :: log) (time a) = some b :=
        lastAt_of_mem (List.mem_cons_self ..)
      have hplaced := mem_newestFirst.mpr ((lastAt_mem hb).2.symm ▸ hb)
      rw [hnil] at hplaced
      cases hplaced
  · intro hnil
    rw [hnil]
    rfl

/-! ### Keeping the newest -/

theorem place_of_newest {a : α} {l : List α} (h : ∀ b ∈ l, time b < time a) :
    place time a l = a :: l := by
  cases l with
  | nil => rfl
  | cons b l => exact if_pos (h b (List.mem_cons_self ..))

theorem takeWhile_place_below {a : α} {low : κ} (hlow : time a < low) (l : List α) :
    (place time a l).takeWhile (fun b => low ≤ time b) =
      l.takeWhile fun b => low ≤ time b := by
  have ha : decide (low ≤ time a) = false := decide_eq_false (not_le.mpr hlow)
  induction l with
  | nil => simp [place, hlow]
  | cons b l ih =>
    unfold place
    split_ifs with hlt heq
    · have hb : decide (low ≤ time b) = false := decide_eq_false (not_le.mpr (hlt.trans hlow))
      rw [List.takeWhile_cons, ha, List.takeWhile_cons, hb]
      simp
    · rw [List.takeWhile_cons, ha, List.takeWhile_cons, heq, ha]
      simp
    · rw [List.takeWhile_cons, List.takeWhile_cons, ih]

theorem takeWhile_place_takeWhile {low high : κ} (h : low ≤ high) (a : α) (l : List α) :
    (place time a (l.takeWhile fun b => low ≤ time b)).takeWhile (fun b => high ≤ time b) =
      (place time a l).takeWhile fun b => high ≤ time b := by
  have htwice : ∀ m : List α, (m.takeWhile fun b => low ≤ time b).takeWhile
      (fun b => high ≤ time b) = m.takeWhile fun b => high ≤ time b := by
    intro m
    rw [List.takeWhile_takeWhile]
    congr 1
    funext b
    have hboth : high ≤ time b → low ≤ time b := h.trans
    grind
  by_cases ha : time a < high
  · rw [takeWhile_place_below ha, takeWhile_place_below ha, htwice]
  induction l with
  | nil => rfl
  | cons b l ih =>
    rw [List.takeWhile_cons]
    by_cases hb : low ≤ time b
    · rw [if_pos (decide_eq_true hb)]
      unfold place
      split_ifs with hlt heq
      · rw [List.takeWhile_cons, List.takeWhile_cons, List.takeWhile_cons, List.takeWhile_cons,
          htwice]
      · rw [List.takeWhile_cons, List.takeWhile_cons, htwice]
      · rw [List.takeWhile_cons, List.takeWhile_cons, ih]
    · rw [if_neg (by simpa using hb)]
      have hba : time b < time a := (not_le.mp hb).trans_le (h.trans (not_lt.mp ha))
      have hcut : decide (high ≤ time b) = false :=
        decide_eq_false fun hhigh => hb (h.trans hhigh)
      have hplace : place time a (b :: l) = a :: b :: l := if_pos hba
      have hrest : (b :: l).takeWhile (fun c => high ≤ time c) = [] := by
        rw [List.takeWhile_cons, hcut]
        simp
      have hfirst : place time a [] = [a] := rfl
      rw [hplace, hfirst, List.takeWhile_cons, List.takeWhile_cons, hrest, List.takeWhile_nil]

theorem takeWhile_placeAll (low : κ) (l log : List α) :
    (placeAll time l log).takeWhile (fun b => low ≤ time b) =
      placeAll time (l.takeWhile fun b => low ≤ time b) (log.filter fun b => low ≤ time b) := by
  induction log generalizing l with
  | nil => rfl
  | cons a log ih =>
    change (placeAll time (place time a l) log).takeWhile _ = _
    rw [ih, List.filter_cons]
    by_cases ha : low ≤ time a
    · rw [if_pos (decide_eq_true ha)]
      refine congrArg (fun m => placeAll time m (log.filter fun b => low ≤ time b)) ?_
      rw [← takeWhile_place_takeWhile le_rfl, List.takeWhile_eq_self_iff]
      intro b hb
      have hmem : b = a ∨ b ∈ l.takeWhile fun b => low ≤ time b := mem_of_mem_place hb
      cases hmem with
      | inl hba => exact decide_eq_true (hba ▸ ha)
      | inr hbl =>
        have habove := List.mem_takeWhile_imp hbl
        exact habove
    · rw [if_neg (by simpa using ha), takeWhile_place_below (not_le.mp ha)]

theorem filter_falling {l : List α} (h : Falling time l) (low : κ) :
    l.filter (fun b => low ≤ time b) = l.takeWhile fun b => low ≤ time b := by
  induction l with
  | nil => rfl
  | cons a l ih =>
    obtain ⟨hhead, htail⟩ := List.pairwise_cons.mp h
    rw [List.filter_cons, List.takeWhile_cons]
    by_cases ha : low ≤ time a
    · rw [if_pos (decide_eq_true ha), if_pos (decide_eq_true ha), ih htail]
    · rw [if_neg (by simpa using ha), if_neg (by simpa using ha), List.filter_eq_nil_iff]
      intro b hb hlow
      exact ha ((of_decide_eq_true hlow).trans (hhead b hb).le)

theorem take_place_take (room : ℕ) (a : α) (l : List α) :
    (place time a (l.take room)).take room = (place time a l).take room := by
  induction l generalizing room with
  | nil => rw [List.take_nil]
  | cons b l ih =>
    cases room with
    | zero => rw [List.take_zero, List.take_zero]
    | succ room =>
      rw [List.take_succ_cons]
      unfold place
      split_ifs with hlt heq
      · rw [List.take_succ_cons, List.take_succ_cons]
        cases room with
        | zero => rfl
        | succ room => simp [List.take_take]
      · simp [List.take_take]
      · rw [List.take_succ_cons, List.take_succ_cons, ih]

/-- The samples not below the floor, and of these no more than there is room for. The floor goes by
the newest sample's time. -/
def keep (time : α → κ) (floor : κ → κ) (room : ℕ) : List α → List α
  | [] => []
  | a :: l => ((a :: l).takeWhile fun b => floor (time a) ≤ time b).take room

theorem takeWhile_take (p : α → Bool) (n : ℕ) (l : List α) :
    (l.take n).takeWhile p = (l.takeWhile p).take n := by
  induction l generalizing n with
  | nil => simp
  | cons a l ih =>
    cases n with
    | zero => simp
    | succ n =>
      rw [List.take_succ_cons, List.takeWhile_cons, List.takeWhile_cons]
      split
      · rw [ih, List.take_succ_cons]
      · rfl

section Keep
variable {floor : κ → κ} {room : ℕ}

theorem keep_isPrefix (l : List α) : keep time floor room l <+: l := by
  cases l with
  | nil => exact List.prefix_refl _
  | cons a l => exact (List.take_prefix ..).trans (List.takeWhile_prefix _)

theorem keep_length (l : List α) : (keep time floor room l).length ≤ room := by
  cases l with
  | nil => exact Nat.zero_le _
  | cons a l => exact List.length_take_le ..

theorem keep_eq {c : α} {l : List α} (h : l.head? = some c) :
    keep time floor room l = (l.takeWhile fun b => floor (time c) ≤ time b).take room := by
  cases l with
  | nil => cases h
  | cons a l =>
    obtain rfl := Option.some.inj h
    rfl

theorem keep_above {c : α} {l : List α} (h : l.head? = some c) {b : α}
    (hb : b ∈ keep time floor room l) : floor (time c) ≤ time b := by
  rw [keep_eq h] at hb
  have habove := List.mem_takeWhile_imp (List.mem_of_mem_take hb)
  simpa using habove

variable (hfloor : ∀ t, floor t ≤ t) (hroom : 0 < room)
include hfloor hroom

theorem keep_head (l : List α) : (keep time floor room l).head? = l.head? := by
  cases l with
  | nil => rfl
  | cons a l =>
    obtain ⟨n, rfl⟩ := Nat.exists_eq_succ_of_ne_zero hroom.ne'
    have hfirst : (a :: l).takeWhile (fun b => floor (time a) ≤ time b) =
        a :: l.takeWhile fun b => floor (time a) ≤ time b := by
      rw [List.takeWhile_cons, if_pos (decide_eq_true (hfloor (time a)))]
    unfold keep
    simp only [hfirst]
    rfl

theorem keep_keep (l : List α) :
    keep time floor room (keep time floor room l) = keep time floor room l := by
  cases l with
  | nil => rfl
  | cons a l =>
    have hhead : (keep time floor room (a :: l)).head? = some a := keep_head hfloor hroom (a :: l)
    have hkeep : keep time floor room (a :: l) =
      ((a :: l).takeWhile fun b => floor (time a) ≤ time b).take room := rfl
    rw [keep_eq hhead, hkeep, takeWhile_take, List.take_take, Nat.min_self,
      List.takeWhile_takeWhile]
    simp

variable (hmono : Monotone floor)
include hmono

theorem keep_place (a : α) (l : List α) :
    keep time floor room (place time a (keep time floor room l)) =
      keep time floor room (place time a l) := by
  cases l with
  | nil => rfl
  | cons b l =>
    obtain ⟨c, hkept, hall⟩ : ∃ c,
        (place time a (keep time floor room (b :: l))).head? = some c ∧
          (place time a (b :: l)).head? = some c ∧ floor (time b) ≤ floor (time c) := by
      have hhead : (keep time floor room (b :: l)).head? = some b := keep_head hfloor hroom (b :: l)
      cases hkeep : keep time floor room (b :: l) with
      | nil =>
        rw [hkeep] at hhead
        cases hhead
      | cons b' m =>
        rw [hkeep] at hhead
        obtain rfl := Option.some.inj hhead
        unfold place
        split_ifs with hlt heq
        · exact ⟨a, rfl, rfl, hmono hlt.le⟩
        · exact ⟨a, rfl, rfl, heq ▸ le_rfl⟩
        · exact ⟨b', rfl, rfl, le_rfl⟩
    rw [keep_eq hkept, keep_eq hall.1, ← takeWhile_take, ← takeWhile_take]
    have hkeep : keep time floor room (b :: l) =
      ((b :: l).takeWhile fun d => floor (time b) ≤ time d).take room := rfl
    rw [hkeep, take_place_take, takeWhile_take, takeWhile_take,
      takeWhile_place_takeWhile hall.2]

theorem keep_placeAll (l : List α) (log : List α) :
    keep time floor room (placeAll time (keep time floor room l) log) =
      keep time floor room (placeAll time l log) := by
  have hsame : ∀ (l m : List α), keep time floor room l = keep time floor room m →
      keep time floor room (placeAll time l log) = keep time floor room (placeAll time m log) := by
    induction log with
    | nil => exact fun _ _ h => h
    | cons a log ih =>
      intro l m h
      refine ih _ _ ?_
      rw [← keep_place hfloor hroom hmono a l, h, keep_place hfloor hroom hmono a m]
  exact hsame _ _ (keep_keep hfloor hroom l)

end Keep

/-! ### The same, the oldest first -/

section Rising

/-- Gives a sample its place from the oldest on, as a map that is sorted by time does. -/
def placeUp (time : α → κ) (a : α) : List α → List α
  | [] => [a]
  | b :: l =>
    if time a < time b then a :: b :: l
    else if time b = time a then a :: l
    else b :: placeUp time a l

theorem place_append_older {a : α} {l : List α} (h : ∀ b ∈ l, time a < time b) (m : List α) :
    place time a (l ++ m) = l ++ place time a m := by
  induction l with
  | nil => rfl
  | cons b l ih =>
    obtain ⟨hb, hl⟩ := List.forall_mem_cons.mp h
    rw [List.cons_append, place, if_neg hb.not_gt, if_neg hb.ne', ih hl, List.cons_append]

theorem place_append_newer {a b : α} (h : time b < time a) (l : List α) :
    place time a (l ++ [b]) = place time a l ++ [b] := by
  induction l with
  | nil => exact if_pos h
  | cons c l ih =>
    rw [List.cons_append, place, place]
    split_ifs
    · rfl
    · rfl
    · rw [ih, List.cons_append]

theorem reverse_placeUp {l : List α} (h : Falling time l.reverse) (a : α) :
    (placeUp time a l).reverse = place time a l.reverse := by
  induction l with
  | nil => rfl
  | cons b l ih =>
    rw [List.reverse_cons] at h ⊢
    obtain ⟨hrest, -, habove⟩ := List.pairwise_append.mp h
    have hb : ∀ c ∈ l.reverse, time b < time c :=
      fun c hc => habove c hc b (List.mem_singleton.mpr rfl)
    unfold placeUp
    split_ifs with hlt heq
    · rw [place_append_older fun c hc => hlt.trans (hb c hc), place, if_neg hlt.not_gt,
        if_neg hlt.ne']
      simp [place]
    · rw [place_append_older fun c hc => heq ▸ hb c hc, place, if_neg heq.not_lt, if_pos heq]
      simp
    · have hba : time b < time a := lt_of_le_of_ne (not_lt.mp hlt) heq
      rw [List.reverse_cons, ih hrest, place_append_newer hba]

theorem reverse_placeAllUp {l : List α} (h : Falling time l.reverse) (log : List α) :
    (log.foldl (fun l a => placeUp time a l) l).reverse = placeAll time l.reverse log := by
  induction log generalizing l with
  | nil => rfl
  | cons a log ih =>
    have hplaced : Falling time (placeUp time a l).reverse := by
      rw [reverse_placeUp h]
      exact falling_place h a
    rw [List.foldl_cons, ih hplaced, reverse_placeUp h]
    rfl

theorem placeAll_rising {l : List α} (h : Falling time l.reverse) : placeAll time [] l = l.reverse := by
  induction l using List.reverseRecOn with
  | nil => rfl
  | append_singleton l a ih =>
    rw [List.reverse_append, List.reverse_singleton, List.singleton_append] at h ⊢
    obtain ⟨hhead, htail⟩ := List.pairwise_cons.mp h
    have hsplit : placeAll time [] (l ++ [a]) = place time a (placeAll time [] l) :=
      List.foldl_append ..
    rw [hsplit, ih htail, place_of_newest hhead]

theorem reverse_dropWhile {l : List α} (h : Falling time l.reverse) (low : κ) :
    (l.dropWhile fun b => time b < low).reverse = l.reverse.takeWhile fun b => low ≤ time b := by
  induction l with
  | nil => rfl
  | cons b l ih =>
    rw [List.reverse_cons] at h
    obtain ⟨hrest, -, habove⟩ := List.pairwise_append.mp h
    rw [List.dropWhile_cons, List.reverse_cons, List.takeWhile_append]
    by_cases hb : time b < low
    · rw [if_pos (decide_eq_true hb), ih hrest]
      have hcut : decide (low ≤ time b) = false := decide_eq_false (not_le.mpr hb)
      split
      · rename_i hall
        rw [List.takeWhile_cons, hcut]
        simp [(List.takeWhile_prefix _).eq_of_length hall]
      · rfl
    · have hall : l.reverse.takeWhile (fun c => low ≤ time c) = l.reverse := by
        refine List.takeWhile_eq_self_iff.mpr fun c hc => decide_eq_true ?_
        exact (not_lt.mp hb).trans (habove c hc b (List.mem_singleton.mpr rfl)).le
      rw [if_neg (by simpa using hb), hall, if_pos rfl, List.takeWhile_cons,
        if_pos (decide_eq_true (not_lt.mp hb)), List.reverse_cons]
      rfl

theorem reverse_drop (room : ℕ) (l : List α) :
    (l.drop (l.length - room)).reverse = l.reverse.take room := by
  rw [List.take_reverse]

end Rising

/-! ### Reading -/

section Reading

theorem find?_pairwise_iff {r : α → α → Prop} (hasymm : ∀ a b, r a b → ¬ r b a) {p : α → Bool}
    {l : List α} (h : l.Pairwise r) {a : α} :
    l.find? p = some a ↔ a ∈ l ∧ p a ∧ ∀ b ∈ l, p b → b = a ∨ r a b := by
  induction l with
  | nil => simp
  | cons c l ih =>
    obtain ⟨hhead, htail⟩ := List.pairwise_cons.mp h
    rw [List.find?_cons]
    cases hc : p c with
    | true =>
      constructor
      · intro hsome
        obtain rfl := Option.some.inj hsome
        refine ⟨List.mem_cons_self .., hc, fun b hb _ => ?_⟩
        exact (List.mem_cons.mp hb).imp_right (hhead b)
      · intro hall
        obtain ⟨ha, -, hfirst⟩ := hall
        cases List.mem_cons.mp ha with
        | inl hac => exact congrArg some hac.symm
        | inr hal =>
          cases hfirst c (List.mem_cons_self ..) hc with
          | inl hca => exact congrArg some hca
          | inr hlt => exact absurd hlt (hasymm c a (hhead a hal))
    | false =>
      simp only [ih htail, List.mem_cons]
      grind

theorem eq_of_time {l : List α} (h : Falling time l) {a b : α} (ha : a ∈ l) (hb : b ∈ l)
    (hab : time a = time b) : a = b :=
  List.Pairwise.forall_of_forall_of_flip (R := fun a b => time a = time b → a = b)
    (fun _ _ _ => rfl) (h.imp fun hlt heq => absurd heq hlt.ne')
    (h.imp fun hlt heq => absurd heq hlt.ne) ha hb hab

theorem find?_falling_iff {l : List α} (h : Falling time l) {t : κ} {a : α} :
    l.find? (fun b => time b ≤ t) = some a ↔
      a ∈ l ∧ time a ≤ t ∧ ∀ b ∈ l, time b ≤ t → time b ≤ time a := by
  rw [find?_pairwise_iff (fun a b hab => hab.not_gt) h]
  simp only [decide_eq_true_eq]
  refine and_congr_right fun ha => and_congr_right fun hat => ⟨fun hfirst b hb hbt => ?_,
    fun hnewest b hb hbt => ?_⟩
  · cases hfirst b hb hbt with
    | inl hba => exact hba ▸ le_rfl
    | inr hlt => exact hlt.le
  · cases (hnewest b hb hbt).eq_or_lt with
    | inl heq => exact .inl (eq_of_time h hb ha heq)
    | inr hlt => exact .inr hlt

theorem find?_prefix_iff {p : α → Bool} {l m : List α} (h : l <+: m) {a : α} :
    l.find? p = some a ↔ m.find? p = some a ∧ a ∈ l := by
  obtain ⟨rest, rfl⟩ := h
  rw [List.find?_append]
  constructor
  · intro hsome
    rw [hsome]
    exact ⟨rfl, List.mem_of_find?_eq_some hsome⟩
  · intro hall
    obtain ⟨hsome, hmem⟩ := hall
    cases hl : l.find? p with
    | some b => rw [hl] at hsome; exact hsome
    | none =>
      rw [hl, Option.none_or] at hsome
      have hp := List.find?_some hsome
      exact absurd hp (by simpa using List.find?_eq_none.mp hl a hmem)

theorem find?_newestFirst_iff {log : List α} {t : κ} {a : α} :
    (newestFirst time log).find? (fun b => time b ≤ t) = some a ↔
      lastAt time log (time a) = some a ∧ time a ≤ t ∧
        ∀ b ∈ log, time b ≤ t → time b ≤ time a := by
  rw [find?_falling_iff (falling_newestFirst log), mem_newestFirst]
  refine and_congr_right fun _ => and_congr_right fun _ => ⟨fun h b hb hbt => ?_, fun h b hb => ?_⟩
  · obtain ⟨c, hc⟩ : ∃ c, lastAt time log (time b) = some c := lastAt_of_mem hb
    have htime : time c = time b := (lastAt_mem hc).2
    rw [← htime]
    exact h c (mem_newestFirst.mpr (htime ▸ hc)) (htime ▸ hbt)
  · exact h b (lastAt_mem (mem_newestFirst.mp hb)).1

/-- The times that were given after one. -/
def laterTimes (time : α → κ) (log : List α) (t : κ) : Finset κ :=
  (log.map time).toFinset.filter fun s => t < s

theorem laterTimes_card (log : List α) (t : κ) :
    (laterTimes time log t).card = ((newestFirst time log).filter fun b => t < time b).length := by
  have hnodup : (((newestFirst time log).filter fun b => t < time b).map time).Nodup :=
    List.pairwise_map.mpr (((falling_newestFirst log).filter _).imp fun h => h.ne')
  rw [← @List.length_map _ _ ((newestFirst time log).filter fun b => t < time b) time,
    ← List.toFinset_card_of_nodup hnodup]
  congr 1
  ext s
  simp only [laterTimes, Finset.mem_filter, List.mem_toFinset, List.mem_map, List.mem_filter,
    decide_eq_true_eq]
  constructor
  · intro hs
    obtain ⟨⟨b, hb, rfl⟩, hlater⟩ := hs
    obtain ⟨c, hc⟩ : ∃ c, lastAt time log (time b) = some c := lastAt_of_mem hb
    have htime : time c = time b := (lastAt_mem hc).2
    exact ⟨c, ⟨mem_newestFirst.mpr (htime ▸ hc), htime ▸ hlater⟩, htime⟩
  · intro hs
    obtain ⟨b, ⟨hb, hlater⟩, rfl⟩ := hs
    exact ⟨⟨b, (lastAt_mem (mem_newestFirst.mp hb)).1, rfl⟩, hlater⟩

theorem mem_take_falling {l : List α} (h : Falling time l) {n : ℕ} {a : α} :
    a ∈ l.take n ↔ a ∈ l ∧ (l.filter fun b => time a < time b).length < n := by
  induction l generalizing n with
  | nil => simp
  | cons c l ih =>
    obtain ⟨hhead, htail⟩ := List.pairwise_cons.mp h
    cases n with
    | zero => simp
    | succ n =>
      rw [List.take_succ_cons, List.mem_cons, List.mem_cons, ih htail, List.filter_cons]
      by_cases hac : a = c
      · have hnone : (l.filter fun b => time a < time b) = [] := by
          refine List.filter_eq_nil_iff.mpr fun b hb hlater => ?_
          exact (of_decide_eq_true hlater).not_gt (hac ▸ hhead b hb)
        simp [hac ▸ hnone, hac]
      · constructor
        · intro ha
          obtain ⟨ha, hlength⟩ := ha.resolve_left hac
          rw [if_pos (decide_eq_true (hhead a ha)), List.length_cons]
          exact ⟨.inr ha, Nat.succ_lt_succ hlength⟩
        · intro hall
          obtain ⟨ha, hlength⟩ := hall
          have ha := ha.resolve_left hac
          rw [if_pos (decide_eq_true (hhead a ha)), List.length_cons] at hlength
          exact .inr ⟨ha, Nat.lt_of_succ_lt_succ hlength⟩

theorem mem_keep_newestFirst {floor : κ → κ} (hmono : Monotone floor) {room : ℕ} {log : List α}
    {a : α} :
    a ∈ keep time floor room (newestFirst time log) ↔
      lastAt time log (time a) = some a ∧ (∀ b ∈ log, floor (time b) ≤ time a) ∧
        (laterTimes time log (time a)).card < room := by
  rw [laterTimes_card, ← mem_newestFirst]
  have hfalling : Falling time (newestFirst time log) := falling_newestFirst log
  cases hhead : (newestFirst time log).head? with
  | none =>
    rw [List.head?_eq_none_iff.mp hhead]
    simp [keep]
  | some c =>
    have hbelow : (∀ b ∈ log, floor (time b) ≤ time a) ↔ floor (time c) ≤ time a := by
      obtain ⟨hc, hnewest⟩ := head?_newestFirst_iff.mp hhead
      exact ⟨fun h => h c (lastAt_mem hc).1, fun h b hb => (hmono (hnewest b hb)).trans h⟩
    rw [keep_eq hhead, ← takeWhile_take, ← filter_falling (hfalling.sublist (List.take_sublist ..)),
      List.mem_filter, mem_take_falling hfalling, hbelow, decide_eq_true_eq]
    tauto

end Reading

end PolymarketBot.Lib.Timeline
