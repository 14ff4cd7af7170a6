import Mathlib.Data.List.Basic
import Mathlib.Logic.Relation

/-! Two searches of a directed graph that is given by the successors of each key: depth first for
a cycle, and breadth first for all that some keys lead to. -/

namespace PolymarketBot.Lib.Traversal
open Relation
variable {α : Type*} [DecidableEq α] (next : α → List α)

def Leads (a b : α) : Prop := b ∈ next a

def OnCycle (a : α) : Prop := TransGen (Leads next) a a

def unmarked (keys marked : List α) : ℕ := keys.countP (· ∉ marked)

theorem unmarked_le {keys marked marked' : List α} (h : ∀ key ∈ marked, key ∈ marked') :
    unmarked keys marked' ≤ unmarked keys marked := by
  refine List.countP_mono_left fun key _ hnew => ?_
  simp only [decide_eq_true_eq] at hnew ⊢
  exact fun hmem => hnew (h key hmem)

theorem unmarked_cons_lt {keys marked : List α} {key : α} (hkey : key ∈ keys)
    (hnew : key ∉ marked) : unmarked keys (key :: marked) < unmarked keys marked := by
  induction keys with
  | nil => cases hkey
  | cons first keys ih =>
    have hle : unmarked keys (key :: marked) ≤ unmarked keys marked :=
      unmarked_le fun _ => List.mem_cons_of_mem _
    unfold unmarked at ih hle ⊢
    simp only [List.countP_cons, decide_eq_true_eq, List.mem_cons, not_or]
    by_cases hfirst : first = key
    · subst hfirst
      rw [if_neg (fun h => h.1 rfl), if_pos hnew]
      simp only [List.mem_cons, not_or] at hle
      omega
    · have hrest := ih ((List.mem_cons.mp hkey).resolve_left (Ne.symm hfirst))
      simp only [List.mem_cons, not_or] at hrest
      by_cases hmarked : first ∈ marked
      · rw [if_neg (fun h => h.2 hmarked), if_neg (fun h => h hmarked)]
        omega
      · rw [if_pos ⟨hfirst, hmarked⟩, if_pos hmarked]
        omega

theorem unmarked_le_length (keys marked : List α) : unmarked keys marked ≤ keys.length :=
  List.countP_le_length

/-! ### Depth first -/

structure Search (α : Type*) where
  visited : List α := []
  stack : List α := []

/-- The keys are visited in turn, until a visit finds a cycle. -/
def visitAny (visit : α → Search α → Bool × Search α) : List α → Search α → Bool × Search α
  | [], s => (false, s)
  | key :: keys, s =>
    match visit key s with
    | (true, s') => (true, s')
    | (false, s') => visitAny visit keys s'

/-- A key that is met while it is on the stack closes a cycle. The stack grows by at most so many
keys. -/
def dfs : ℕ → α → Search α → Bool × Search α
  | 0, _, s => (false, s)
  | depth + 1, key, s =>
    if key ∈ s.stack then (true, s)
    else if key ∈ s.visited then (false, s)
    else
      match visitAny (dfs depth) (next key)
        { visited := key :: s.visited, stack := key :: s.stack } with
      | (true, s') => (true, s')
      | (false, s') => (false, { s' with stack := s'.stack.erase key })

/-- A key is done when it has been visited and has left the stack. -/
def Search.Done (s : Search α) (key : α) : Prop := key ∈ s.visited ∧ key ∉ s.stack

/-- The stack is a path, newest key first; the keys that are done lead to such keys only, and are
on no cycle. -/
structure Sound (s : Search α) : Prop where
  visited : ∀ key ∈ s.stack, key ∈ s.visited
  path : s.stack.Pairwise fun newer older => TransGen (Leads next) older newer
  closed : ∀ key, s.Done key → ∀ key' ∈ next key, s.Done key'
  acyclic : ∀ key, s.Done key → ¬ OnCycle next key

/-- The keys are successors of the newest key of the stack. -/
def Entered (s : Search α) (keys : List α) : Prop :=
  ∀ top ∈ s.stack.head?, ∀ key ∈ keys, Leads next top key

/-- A search that finds nothing leaves its stack as it was, and is done with its keys. -/
def Outcome (s : Search α) (keys : List α) : Bool × Search α → Prop
  | (true, _) => ∃ key, OnCycle next key
  | (false, s') => Sound next s' ∧ s'.stack = s.stack ∧ (∀ key ∈ s.visited, key ∈ s'.visited) ∧
      ∀ key ∈ keys, s'.Done key

section
variable {next}
omit [DecidableEq α]

theorem Sound.reached {s : Search α} (h : Sound next s) {key key' : α} (hdone : s.Done key)
    (hpath : ReflTransGen (Leads next) key key') : s.Done key' := by
  induction hpath with
  | refl => exact hdone
  | tail _ hstep ih => exact h.closed _ ih _ hstep

theorem Sound.leads {s : Search α} (h : Sound next s) {key entered : α} (hkey : key ∈ s.stack)
    (hentered : Entered next s [entered]) : TransGen (Leads next) key entered := by
  have hpath := h.path
  unfold Entered at hentered
  cases hstack : s.stack with
  | nil => simp [hstack] at hkey
  | cons top rest =>
    rw [hstack] at hkey hpath hentered
    have htop : Leads next top entered := hentered top rfl entered (List.mem_singleton_self _)
    cases List.mem_cons.mp hkey with
    | inl heq => exact heq ▸ .single htop
    | inr hrest => exact .tail ((List.pairwise_cons.mp hpath).1 key hrest) htop

theorem Sound.push {s : Search α} (h : Sound next s) {key : α} (hnew : key ∉ s.visited)
    (hentered : Entered next s [key]) :
    Sound next { visited := key :: s.visited, stack := key :: s.stack } := by
  have hdone : ∀ {key'}, Search.Done { visited := key :: s.visited, stack := key :: s.stack } key' →
      s.Done key' := by
    intro key' hdone
    obtain ⟨hvisited, hstack⟩ := hdone
    simp only [List.mem_cons, not_or] at hvisited hstack
    exact ⟨hvisited.resolve_left hstack.1, hstack.2⟩
  constructor
  · intro key' hkey'
    obtain rfl | hkey' := List.mem_cons.mp hkey'
    · exact List.mem_cons_self ..
    · exact List.mem_cons_of_mem _ (h.visited key' hkey')
  · exact List.pairwise_cons.mpr ⟨fun older holder => h.leads holder hentered, h.path⟩
  · intro key' hkey' key'' hnext
    obtain ⟨hvisited, hstack⟩ := h.closed key' (hdone hkey') key'' hnext
    refine ⟨List.mem_cons_of_mem _ hvisited, ?_⟩
    simp only [List.mem_cons, not_or]
    exact ⟨fun heq => hnew (heq ▸ hvisited), hstack⟩
  · exact fun key' hkey' => h.acyclic key' (hdone hkey')

end

variable {next}

theorem Sound.pop {s : Search α} {key : α} {stack : List α} (h : Sound next s)
    (hstack : s.stack = key :: stack) (hkey : key ∉ stack) (hnext : ∀ key' ∈ next key, s.Done key') :
    Sound next { s with stack := stack } := by
  have hdone : ∀ {key'}, Search.Done { s with stack := stack } key' → key' ≠ key → s.Done key' := by
    intro key' hdone hne
    refine ⟨hdone.1, ?_⟩
    rw [hstack]
    simp only [List.mem_cons, not_or]
    exact ⟨hne, hdone.2⟩
  have hkept : ∀ {key'}, s.Done key' → Search.Done { s with stack := stack } key' := by
    intro key' hdone
    refine ⟨hdone.1, fun hmem => hdone.2 ?_⟩
    rw [hstack]
    exact List.mem_cons_of_mem _ hmem
  have hpath := h.path
  rw [hstack] at hpath
  constructor
  · intro key' hkey'
    exact h.visited key' (by rw [hstack]; exact List.mem_cons_of_mem _ hkey')
  · exact (List.pairwise_cons.mp hpath).2
  · intro key' hkey' key'' hnext'
    by_cases heq : key' = key
    · exact hkept (hnext key'' (heq ▸ hnext'))
    · exact hkept (h.closed key' (hdone hkey' heq) key'' hnext')
  · intro key' hkey' hcycle
    by_cases heq : key' = key
    · subst heq
      obtain ⟨first, hfirst, hback⟩ := TransGen.head'_iff.mp hcycle
      have hagain := (h.reached (hnext first hfirst) hback).2
      rw [hstack] at hagain
      exact hagain (List.mem_cons_self ..)
    · exact h.acyclic key' (hdone hkey' heq) hcycle

theorem visitAny_outcome {visit : α → Search α → Bool × Search α} {starts : List α} {depth : ℕ}
    (hvisit : ∀ key s, Sound next s → Entered next s [key] → unmarked starts s.visited < depth →
      Outcome next s [key] (visit key s))
    (keys : List α) (s : Search α) (h : Sound next s) (hentered : Entered next s keys)
    (hdepth : unmarked starts s.visited < depth) :
    Outcome next s keys (visitAny visit keys s) := by
  induction keys generalizing s with
  | nil => exact ⟨h, rfl, fun _ hkey => hkey, fun _ hkey => absurd hkey List.not_mem_nil⟩
  | cons key keys ih =>
    have hkey : Entered next s [key] := fun top htop key' hkey' =>
      hentered top htop key' (List.mem_singleton.mp hkey' ▸ List.mem_cons_self ..)
    have hfirst := hvisit key s h hkey hdepth
    unfold visitAny
    cases hresult : visit key s with
    | mk found s' =>
      rw [hresult] at hfirst
      cases found with
      | true => exact hfirst
      | false =>
        obtain ⟨hsound, hstack, hvisited, hdone⟩ := hfirst
        have hrest : Entered next s' keys := by
          unfold Entered
          rw [hstack]
          exact fun top htop key' hkey' => hentered top htop key' (List.mem_cons_of_mem _ hkey')
        have htail := ih s' hsound hrest (Nat.lt_of_le_of_lt (unmarked_le hvisited) hdepth)
        change Outcome next s (key :: keys) (visitAny visit keys s')
        cases hlast : visitAny visit keys s' with
        | mk found last =>
          rw [hlast] at htail
          cases found with
          | true => exact htail
          | false =>
            obtain ⟨hsound', hstack', hvisited', hdone'⟩ := htail
            refine ⟨hsound', hstack'.trans hstack, fun key' hkey' => hvisited' key' (hvisited key' hkey'), ?_⟩
            intro key' hkey'
            obtain rfl | hkey' := List.mem_cons.mp hkey'
            · obtain ⟨hin, hout⟩ := hdone key' (List.mem_singleton_self _)
              exact ⟨hvisited' key' hin, by rwa [hstack']⟩
            · exact hdone' key' hkey'

section
variable {starts : List α} (hstarts : ∀ key, key ∉ starts → next key = [])
include hstarts

theorem dfs_outcome (depth : ℕ) (key : α) (s : Search α) (h : Sound next s)
    (hentered : Entered next s [key]) (hdepth : unmarked starts s.visited < depth) :
    Outcome next s [key] (dfs next depth key s) := by
  induction depth generalizing key s with
  | zero => omega
  | succ depth ih =>
    unfold dfs
    by_cases hstack : key ∈ s.stack
    · rw [if_pos hstack]
      exact ⟨key, h.leads hstack hentered⟩
    rw [if_neg hstack]
    by_cases hvisited : key ∈ s.visited
    · rw [if_pos hvisited]
      refine ⟨h, rfl, fun _ hkey => hkey, fun key' hkey' => ?_⟩
      rw [List.mem_singleton.mp hkey']
      exact ⟨hvisited, hstack⟩
    rw [if_neg hvisited]
    let pushed : Search α := { visited := key :: s.visited, stack := key :: s.stack }
    have hpushed : Sound next pushed := h.push hvisited hentered
    have hnexts : Entered next pushed (next key) := by
      intro top htop key' hkey'
      obtain rfl : key = top := by simpa [pushed] using htop
      exact hkey'
    have hrun : Outcome next pushed (next key) (visitAny (dfs next depth) (next key) pushed) := by
      by_cases hkey : key ∈ starts
      · have hfewer := unmarked_cons_lt hkey hvisited
        exact visitAny_outcome (fun key' s' => ih key' s') (next key) pushed hpushed hnexts
          (show unmarked starts (key :: s.visited) < depth by omega)
      · rw [hstarts key hkey]
        exact ⟨hpushed, rfl, fun _ hmem => hmem, fun _ hmem => absurd hmem List.not_mem_nil⟩
    change Outcome next s [key] (match visitAny (dfs next depth) (next key) pushed with
      | (true, s') => (true, s')
      | (false, s') => (false, { s' with stack := s'.stack.erase key }))
    cases hresult : visitAny (dfs next depth) (next key) pushed with
    | mk found s' =>
      rw [hresult] at hrun
      cases found with
      | true => exact hrun
      | false =>
        obtain ⟨hsound, hsame, hkept, hdone⟩ := hrun
        have herase : s'.stack.erase key = s.stack := by
          rw [hsame]
          exact List.erase_cons_head ..
        change Sound next { s' with stack := s'.stack.erase key } ∧ s'.stack.erase key = s.stack ∧ _
        rw [herase]
        refine ⟨hsound.pop hsame hstack hdone, rfl,
          fun key' hkey' => hkept key' (List.mem_cons_of_mem _ hkey'), fun key' hkey' => ?_⟩
        rw [List.mem_singleton.mp hkey']
        exact ⟨hkept key (List.mem_cons_self ..), hstack⟩

theorem visitAny_dfs_iff {depth : ℕ} (hdepth : starts.length < depth) :
    (visitAny (dfs next depth) starts {}).1 = true ↔ ∃ key, OnCycle next key := by
  have hempty : Sound next ({} : Search α) :=
    ⟨fun _ hkey => absurd hkey List.not_mem_nil, .nil,
      fun _ hdone => absurd hdone.1 List.not_mem_nil, fun _ hdone => absurd hdone.1 List.not_mem_nil⟩
  have hrun := visitAny_outcome (dfs_outcome hstarts depth) starts {} hempty
    (fun top htop => absurd htop (by simp))
    (Nat.lt_of_le_of_lt (unmarked_le_length starts []) hdepth)
  cases hresult : visitAny (dfs next depth) starts {} with
  | mk found last =>
    rw [hresult] at hrun
    cases found with
    | true => exact ⟨fun _ => hrun, fun _ => rfl⟩
    | false =>
      obtain ⟨hsound, -, -, hdone⟩ := hrun
      refine ⟨fun h => absurd h (by simp), fun hcycle => ?_⟩
      obtain ⟨key, hcycle⟩ := hcycle
      have hkey : key ∈ starts := by
        by_contra hkey
        obtain ⟨first, hfirst, -⟩ := TransGen.head'_iff.mp hcycle
        unfold Leads at hfirst
        rw [hstarts key hkey] at hfirst
        exact absurd hfirst List.not_mem_nil
      exact absurd hcycle (hsound.acyclic key (hdone key hkey))

end

/-! ### Breadth first -/

/-- The successors that have not been reached are reached, and queued. -/
def mark : List α → List α → List α × List α
  | [], reached => (reached, [])
  | key :: keys, reached =>
    if key ∈ reached then mark keys reached
    else
      let (reached', pushed) := mark keys (key :: reached)
      (reached', key :: pushed)

/-- All that the queue leads to is reached, in at most so many turns. -/
def spread (next : α → List α) : ℕ → List α → List α → List α
  | 0, _, reached => reached
  | _ + 1, [], reached => reached
  | turns + 1, current :: rest, reached =>
    let (reached', pushed) := mark (next current) reached
    spread next turns (rest ++ pushed) reached'

theorem mem_mark (key : α) (keys reached : List α) :
    (key ∈ (mark keys reached).1 ↔ key ∈ reached ∨ key ∈ keys) ∧
      (key ∈ (mark keys reached).2 ↔ key ∉ reached ∧ key ∈ keys) := by
  induction keys generalizing reached with
  | nil => simp [mark]
  | cons first keys ih =>
    unfold mark
    by_cases hfirst : first ∈ reached
    · rw [if_pos hfirst]
      obtain ⟨hreached, hpushed⟩ := ih reached
      rw [hreached, hpushed, List.mem_cons]
      by_cases heq : key = first
      · subst heq
        simp [hfirst]
      · simp [heq]
    · rw [if_neg hfirst]
      obtain ⟨hreached, hpushed⟩ := ih (first :: reached)
      simp only [List.mem_cons] at hreached hpushed ⊢
      rw [hreached, hpushed]
      by_cases heq : key = first
      · subst heq
        simp [hfirst]
      · simp [heq]

theorem unmarked_mark_le (all keys reached : List α) (hkeys : ∀ key ∈ keys, key ∈ all) :
    unmarked all (mark keys reached).1 + (mark keys reached).2.length ≤ unmarked all reached := by
  induction keys generalizing reached with
  | nil => simp [mark]
  | cons first keys ih =>
    have hrest : ∀ key ∈ keys, key ∈ all := fun key hkey => hkeys key (List.mem_cons_of_mem _ hkey)
    unfold mark
    by_cases hfirst : first ∈ reached
    · rw [if_pos hfirst]
      exact ih reached hrest
    · rw [if_neg hfirst]
      have htail := ih (first :: reached) hrest
      have hfewer := unmarked_cons_lt (hkeys first (List.mem_cons_self ..)) hfirst
      simp only [List.length_cons]
      omega

/-- What has been reached is led to by the starts, and leads on to what has been reached unless
it is still queued. -/
structure Spread (next : α → List α) (starts queue reached : List α) : Prop where
  started : ∀ start ∈ starts, start ∈ reached
  sound : ∀ key ∈ reached, ∃ start ∈ starts, ReflTransGen (Leads next) start key
  queued : ∀ key ∈ queue, key ∈ reached
  closed : ∀ key ∈ reached, key ∈ queue ∨ ∀ key' ∈ next key, key' ∈ reached

theorem Spread.turn {starts rest reached : List α} {current : α}
    (h : Spread next starts (current :: rest) reached) :
    Spread next starts (rest ++ (mark (next current) reached).2) (mark (next current) reached).1 := by
  have hmark := fun key => mem_mark key (next current) reached
  have hcurrent : current ∈ reached := h.queued current (List.mem_cons_self ..)
  constructor
  · exact fun start hstart => (hmark start).1.mpr (.inl (h.started start hstart))
  · intro key hkey
    cases (hmark key).1.mp hkey with
    | inl hbefore => exact h.sound key hbefore
    | inr hnext =>
      obtain ⟨start, hstart, hpath⟩ := h.sound current hcurrent
      exact ⟨start, hstart, .tail hpath hnext⟩
  · intro key hkey
    cases List.mem_append.mp hkey with
    | inl hrest => exact (hmark key).1.mpr (.inl (h.queued key (List.mem_cons_of_mem _ hrest)))
    | inr hpushed => exact (hmark key).1.mpr (.inr ((hmark key).2.mp hpushed).2)
  · intro key hkey
    by_cases hbefore : key ∈ reached
    · cases h.closed key hbefore with
      | inl hqueued =>
        obtain rfl | hrest := List.mem_cons.mp hqueued
        · exact .inr fun key' hkey' => (hmark key').1.mpr (.inr hkey')
        · exact .inl (List.mem_append_left _ hrest)
      | inr hclosed => exact .inr fun key' hkey' => (hmark key').1.mpr (.inl (hclosed key' hkey'))
    · have hnext := ((hmark key).1.mp hkey).resolve_left hbefore
      exact .inl (List.mem_append_right _ ((hmark key).2.mpr ⟨hbefore, hnext⟩))

theorem Spread.run {all : List α} (hall : ∀ key, ∀ key' ∈ next key, key' ∈ all) {starts : List α}
    (turns : ℕ) (queue reached : List α) (h : Spread next starts queue reached)
    (hturns : unmarked all reached + queue.length ≤ turns) :
    Spread next starts [] (spread next turns queue reached) := by
  induction turns generalizing queue reached with
  | zero =>
    obtain rfl : queue = [] := List.eq_nil_of_length_eq_zero (by omega)
    exact h
  | succ turns ih =>
    cases queue with
    | nil => exact h
    | cons current rest =>
      have hfewer := unmarked_mark_le all (next current) reached (hall current)
      refine ih _ _ h.turn ?_
      rw [List.length_append]
      simp only [List.length_cons] at hturns
      omega

theorem mem_spread_iff {all : List α} (hall : ∀ key, ∀ key' ∈ next key, key' ∈ all)
    {starts : List α} {turns : ℕ} (hturns : all.length + starts.length ≤ turns) (key : α) :
    key ∈ spread next turns starts starts ↔
      ∃ start ∈ starts, ReflTransGen (Leads next) start key := by
  have hstart : Spread next starts starts starts :=
    ⟨fun _ h => h, fun key hkey => ⟨key, hkey, .refl⟩, fun _ h => h, fun _ h => .inl h⟩
  have hunmarked := unmarked_le_length all starts
  have hlast := hstart.run hall turns starts starts (by omega)
  refine ⟨hlast.sound key, fun h => ?_⟩
  obtain ⟨start, hmem, hpath⟩ := h
  induction hpath with
  | refl => exact hlast.started start hmem
  | tail _ hstep ih => exact (hlast.closed _ ih).resolve_left List.not_mem_nil _ hstep

/-! ### Walks without a cycle -/

theorem exists_height {β : Type*} {R : β → β → Prop} {keys : List β}
    (hleaves : ∀ a b, R a b → a ∈ keys) (hacyclic : ∀ a, ¬ TransGen R a a) :
    ∃ height : β → ℕ, (∀ a, height a ≤ keys.length) ∧ ∀ a b, R a b → height b < height a := by
  classical
  let above (a b : β) : Bool := decide (ReflTransGen R a b)
  refine ⟨fun a => keys.countP (above a), fun a => List.countP_le_length, fun a b hab => ?_⟩
  have hkeep : ∀ key ∈ keys, above b key = true → above a key = true := by
    intro key _ hkey
    simp only [above, decide_eq_true_eq] at hkey ⊢
    exact .head hab hkey
  have hself : above a a = true := by
    simp only [above, decide_eq_true_eq]
    exact .refl
  have hback : above b a = false := by
    simp only [above, decide_eq_false_iff_not]
    exact fun hpath => hacyclic a (TransGen.head' hab hpath)
  have hmem := hleaves a b hab
  clear hleaves
  induction keys with
  | nil => cases hmem
  | cons key keys ih =>
    have hrest : ∀ key ∈ keys, above b key = true → above a key = true :=
      fun key hkey => hkeep key (List.mem_cons_of_mem _ hkey)
    have hle : keys.countP (above b) ≤ keys.countP (above a) := List.countP_mono_left hrest
    simp only [List.countP_cons]
    by_cases hkey : key = a
    · subst hkey
      simp only [hself, hback, if_true, Bool.false_eq_true, if_false]
      omega
    · have hlt : keys.countP (above b) < keys.countP (above a) :=
        ih hrest ((List.mem_cons.mp hmem).resolve_left (Ne.symm hkey))
      have hfirst := hkeep key (List.mem_cons_self ..)
      cases hb : above b key with
      | true =>
        rw [hfirst hb]
        omega
      | false =>
        simp only [Bool.false_eq_true, if_false]
        omega

end PolymarketBot.Lib.Traversal
