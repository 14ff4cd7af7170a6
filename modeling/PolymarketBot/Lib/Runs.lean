import Mathlib.Data.List.Basic

/-! Runs of a step function over a list of events, and laws of all their states that hold
exactly when each step meets a condition of its own. -/

namespace PolymarketBot.Lib.Runs
variable {State Event : Type*} (step : State → Event → State)

/-- Each event meets `C` in the state it finds. -/
def EachStep (C : State → Event → Prop) : State → List Event → Prop
  | _, [] => True
  | s, e :: es => C s e ∧ EachStep C (step s e) es

instance EachStep.decidable {C : State → Event → Prop} [∀ s e, Decidable (C s e)] :
    (s : State) → (events : List Event) → Decidable (EachStep step C s events)
  | _, [] => inferInstanceAs (Decidable True)
  | s, e :: es =>
    have : Decidable (EachStep step C (step s e) es) := EachStep.decidable _ es
    inferInstanceAs (Decidable (C s e ∧ EachStep step C (step s e) es))

/-- The law holds in the state a run starts from and after each of its events. -/
def Throughout (Law : State → Prop) (s : State) (events : List Event) : Prop :=
  ∀ n, Law ((events.take n).foldl step s)

variable {step} {I Law : State → Prop} {C : State → Event → Prop}

theorem throughout_cons {s : State} {e : Event} {events : List Event} :
    Throughout step Law s (e :: events) ↔ Law s ∧ Throughout step Law (step s e) events := by
  constructor
  · intro h
    exact ⟨h 0, fun n => h (n + 1)⟩
  · rintro ⟨hs, hrest⟩ n
    cases n with
    | zero => exact hs
    | succ n => exact hrest n

theorem EachStep.imp {D : State → Event → Prop} (himp : ∀ s e, I s → C s e → D s e)
    (hinv : ∀ s e, I s → C s e → I (step s e)) {s : State} {events : List Event} (hi : I s)
    (h : EachStep step C s events) : EachStep step D s events := by
  induction events generalizing s with
  | nil => trivial
  | cons e events ih =>
    obtain ⟨hc, hrest⟩ := h
    exact ⟨himp s e hi hc, ih (hinv s e hi hc) hrest⟩

theorem EachStep.and {D : State → Event → Prop} {s : State} {events : List Event}
    (hc : EachStep step C s events) (hd : EachStep step D s events) :
    EachStep step (fun s e => C s e ∧ D s e) s events := by
  induction events generalizing s with
  | nil => trivial
  | cons e events ih => exact ⟨⟨hc.1, hd.1⟩, ih hc.2 hd.2⟩

theorem eachStep_append {s : State} {events later : List Event} :
    EachStep step C s (events ++ later) ↔
      EachStep step C s events ∧ EachStep step C (events.foldl step s) later := by
  induction events generalizing s with
  | nil => simp [EachStep]
  | cons e events ih => rw [List.cons_append, EachStep, EachStep, ih, and_assoc, List.foldl_cons]

theorem EachStep.invariant (hinv : ∀ s e, I s → C s e → I (step s e)) {s : State}
    {events : List Event} (hi : I s) (h : EachStep step C s events) : I (events.foldl step s) := by
  induction events generalizing s with
  | nil => exact hi
  | cons e events ih => exact ih (hinv s e hi h.1) h.2

theorem EachStep.throughout (hlaw : ∀ s, I s → Law s)
    (hinv : ∀ s e, I s → C s e → I (step s e)) {s : State} {events : List Event}
    (hi : I s) (h : EachStep step C s events) : Throughout step Law s events := by
  induction events generalizing s with
  | nil =>
    intro n
    simpa using hlaw s hi
  | cons e events ih =>
    obtain ⟨hc, hrest⟩ := h
    have hnext : I (step s e) := hinv s e hi hc
    exact throughout_cons.mpr ⟨hlaw s hi, ih hnext hrest⟩

theorem throughout_of_invariant (hlaw : ∀ s, I s → Law s) (hinv : ∀ s e, I s → I (step s e))
    {s : State} (hi : I s) (events : List Event) : Throughout step Law s events := by
  induction events generalizing s with
  | nil =>
    intro n
    simpa using hlaw s hi
  | cons e events ih => exact throughout_cons.mpr ⟨hlaw s hi, ih (hinv s e hi)⟩

theorem eachStep_congr {D : State → Event → Prop} (hagree : ∀ s e, I s → (C s e ↔ D s e))
    (hinv : ∀ s e, I s → I (step s e)) {s : State} (hi : I s) (events : List Event) :
    EachStep step C s events ↔ EachStep step D s events := by
  induction events generalizing s with
  | nil => exact Iff.rfl
  | cons e events ih =>
    have hnext : I (step s e) := hinv s e hi
    rw [EachStep, EachStep, hagree s e hi, ih hnext]

theorem eachStep_true (s : State) (events : List Event) :
    EachStep step (fun _ _ => True) s events := by
  induction events generalizing s with
  | nil => trivial
  | cons e events ih => exact ⟨trivial, ih (step s e)⟩

theorem throughout_iff_eachStep_within {P : State → Event → Prop}
    (hlaw : ∀ s e, I s → Law s → P s e → (Law (step s e) ↔ C s e))
    (hinv : ∀ s e, I s → Law s → P s e → C s e → I (step s e))
    {s : State} (hi : I s) (hl : Law s) (events : List Event) (hp : EachStep step P s events) :
    Throughout step Law s events ↔ EachStep step C s events := by
  induction events generalizing s with
  | nil => simpa [Throughout, EachStep] using hl
  | cons e events ih =>
    obtain ⟨hpe, hpes⟩ := hp
    rw [throughout_cons, EachStep]
    constructor
    · rintro ⟨-, hrest⟩
      have hnext : Law (step s e) := hrest 0
      have hc : C s e := (hlaw s e hi hl hpe).mp hnext
      exact ⟨hc, (ih (hinv s e hi hl hpe hc) hnext hpes).mp hrest⟩
    · rintro ⟨hc, hrest⟩
      have hnext : Law (step s e) := (hlaw s e hi hl hpe).mpr hc
      exact ⟨hl, (ih (hinv s e hi hl hpe hc) hnext hpes).mpr hrest⟩

theorem throughout_iff_eachStep
    (hlaw : ∀ s e, I s → Law s → (Law (step s e) ↔ C s e))
    (hinv : ∀ s e, I s → Law s → C s e → I (step s e))
    {s : State} (hi : I s) (hl : Law s) (events : List Event) :
    Throughout step Law s events ↔ EachStep step C s events := by
  refine throughout_iff_eachStep_within (P := fun _ _ => True) ?_ ?_ hi hl events
    (eachStep_true s events)
  · exact fun s e hi hl _ => hlaw s e hi hl
  · exact fun s e hi hl _ => hinv s e hi hl

theorem foldl_iff_exists_hit {hits : Event → Prop} {events : List Event}
    (hinv : ∀ s, ∀ e ∈ events, I s → I (step s e))
    (h : ∀ s, ∀ e ∈ events, I s → (Law (step s e) ↔ Law s ∨ hits e)) {s : State} (hi : I s) :
    Law (events.foldl step s) ↔ Law s ∨ ∃ e ∈ events, hits e := by
  induction events generalizing s with
  | nil => simp
  | cons e events ih =>
    have hfirst := h s e (List.mem_cons_self ..) hi
    have hrest := ih (fun s e he => hinv s e (List.mem_cons_of_mem _ he))
      (fun s e he => h s e (List.mem_cons_of_mem _ he)) (hinv s e (List.mem_cons_self ..) hi)
    rw [List.foldl_cons, hrest, hfirst, List.exists_mem_cons_iff, or_assoc]

theorem foldl_last_hit {β : Type*} {f : State → Option β} {hit : Event → Option β}
    {events : List Event}
    (hinv : ∀ s, ∀ e ∈ events, I s → I (step s e))
    (h : ∀ s, ∀ e ∈ events, I s → f (step s e) = (hit e).or (f s)) {s : State} (hi : I s) :
    f (events.foldl step s) = (events.filterMap hit).getLast?.or (f s) := by
  induction events generalizing s with
  | nil => rfl
  | cons e events ih =>
    have hrest := ih (fun s e he => hinv s e (List.mem_cons_of_mem _ he))
      (fun s e he => h s e (List.mem_cons_of_mem _ he)) (hinv s e (List.mem_cons_self ..) hi)
    rw [List.foldl_cons, hrest, h s e (List.mem_cons_self ..) hi]
    cases hhit : hit e with
    | none => rw [List.filterMap_cons_none hhit, Option.none_or]
    | some b =>
      rw [List.filterMap_cons_some hhit, Option.some_or, List.getLast?_cons]
      cases (events.filterMap hit).getLast? <;> rfl

end PolymarketBot.Lib.Runs
