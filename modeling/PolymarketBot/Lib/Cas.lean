import Mathlib.Data.List.Induction
import Mathlib.Data.List.Nodup
import Mathlib.Data.List.Pairwise
import Mathlib.Logic.Function.Basic
import Mathlib.Order.Defs.Unbundled

/-! Loops that exchange the value of a shared cell for a new one as long as no one has changed it
meanwhile. Over every schedule of any number of them, each loop takes effect at once, in one order. -/

namespace PolymarketBot.Lib.Cas
variable {ι V : Type*}

/-- What a loop writes in place of the value it loaded, if anything, and whether it loads anew after a
lost exchange or goes on with the value that the exchange told it. -/
structure Loop (V : Type*) where
  plan : V → Option V
  reload : Bool

inductive Stage (V : Type*) where
  | start
  | exchange (old new : V)
  | wrote (old new : V)
  | left (seen : V)
  deriving DecidableEq

structure Pool (ι V : Type*) where
  cell : V
  stage : ι → Stage V

/-- What a loop does with a value it was told. -/
def Loop.enter (loop : Loop V) (v : V) : Stage V :=
  match loop.plan v with
  | none => .left v
  | some new => .exchange v new

section Run
variable [DecidableEq ι] [DecidableEq V] (loop : ι → Loop V)

/-- The picked loop loads the cell, or tries its exchange. -/
def step (pool : Pool ι V) (i : ι) : Pool ι V :=
  match pool.stage i with
  | .start => { pool with stage := Function.update pool.stage i ((loop i).enter pool.cell) }
  | .exchange old new =>
    if pool.cell = old then
      { cell := new, stage := Function.update pool.stage i (.wrote old new) }
    else
      { pool with
        stage := Function.update pool.stage i
          (if (loop i).reload then .start else (loop i).enter pool.cell) }
  | _ => pool

def run (start : V) (schedule : List ι) : Pool ι V :=
  schedule.foldl (step loop) { cell := start, stage := fun _ => .start }

end Run

/-! ### One order -/

structure Write (ι V : Type*) where
  writer : ι
  old : V
  new : V

/-- Each write starts from what the one before it left. -/
def Chained (loop : ι → Loop V) : V → List (Write ι V) → V → Prop
  | v, [], w => v = w
  | v, e :: rest, w =>
    e.old = v ∧ (loop e.writer).plan v = some e.new ∧ Chained loop e.new rest w

/-- Where a loop stands with regard to the writes so far. -/
def Stands (loop : ι → Loop V) (start : V) (log : List (Write ι V)) (i : ι) : Stage V → Prop
  | .start => i ∉ log.map Write.writer
  | .exchange old new => i ∉ log.map Write.writer ∧ (loop i).plan old = some new
  | .wrote old new => ⟨i, old, new⟩ ∈ log
  | .left seen => i ∉ log.map Write.writer ∧ (loop i).plan seen = none ∧
      (seen = start ∨ ∃ e ∈ log, seen = e.new)

/-- Each loop has taken effect at once, in the order of the log, or has left for what it saw. -/
structure Linear (loop : ι → Loop V) (start : V) (log : List (Write ι V)) (pool : Pool ι V) :
    Prop where
  nodup : (log.map Write.writer).Nodup
  chained : Chained loop start log pool.cell
  stage : ∀ i, Stands loop start log i (pool.stage i)

section Linear
variable {loop : ι → Loop V} {start v w : V} {log : List (Write ι V)} {pool : Pool ι V}

theorem Chained.snoc (h : Chained loop v log w) {i : ι} {new : V}
    (hplan : (loop i).plan w = some new) : Chained loop v (log ++ [⟨i, w, new⟩]) new := by
  induction log generalizing v with
  | nil =>
    obtain rfl := h
    exact ⟨rfl, hplan, rfl⟩
  | cons e rest ih => exact ⟨h.1, h.2.1, ih h.2.2⟩

theorem Chained.value (h : Chained loop v log w) : w = v ∨ ∃ e ∈ log, w = e.new := by
  induction log generalizing v with
  | nil => exact .inl h.symm
  | cons e rest ih =>
    cases ih h.2.2 with
    | inl hnew => exact .inr ⟨e, List.mem_cons_self .., hnew⟩
    | inr hrest =>
      obtain ⟨f, hf, hnew⟩ := hrest
      exact .inr ⟨f, List.mem_cons_of_mem e hf, hnew⟩

theorem Chained.planned (h : Chained loop v log w) :
    ∀ e ∈ log, (loop e.writer).plan e.old = some e.new := by
  induction log generalizing v with
  | nil => exact fun e he => absurd he List.not_mem_nil
  | cons e rest ih => exact List.forall_mem_cons.mpr ⟨h.1 ▸ h.2.1, ih h.2.2⟩

theorem Chained.old_value (h : Chained loop v log w) :
    ∀ e ∈ log, e.old = v ∨ ∃ f ∈ log, e.old = f.new := by
  induction log generalizing v with
  | nil => exact fun e he => absurd he List.not_mem_nil
  | cons first rest ih =>
    refine List.forall_mem_cons.mpr ⟨.inl h.1, fun e he => ?_⟩
    cases ih h.2.2 e he with
    | inl hnew => exact .inr ⟨first, List.mem_cons_self .., hnew⟩
    | inr hrest =>
      obtain ⟨f, hf, hnew⟩ := hrest
      exact .inr ⟨f, List.mem_cons_of_mem first hf, hnew⟩

theorem stands_enter {i : ι} (hi : i ∉ log.map Write.writer) (h : Chained loop start log v) :
    Stands loop start log i ((loop i).enter v) := by
  unfold Loop.enter
  cases hplan : (loop i).plan v with
  | none => exact ⟨hi, hplan, h.value⟩
  | some new => exact ⟨hi, hplan⟩

theorem Stands.snoc {i : ι} {stage : Stage V} (h : Stands loop start log i stage)
    {e : Write ι V} (he : e.writer ≠ i) : Stands loop start (log ++ [e]) i stage := by
  have hmem : i ∉ log.map Write.writer → i ∉ (log ++ [e]).map Write.writer := fun hi => by
    simpa [Ne.symm he] using hi
  cases stage with
  | start => exact hmem h
  | exchange old new => exact ⟨hmem h.1, h.2⟩
  | wrote old new => exact List.mem_append_left _ h
  | left seen =>
    obtain ⟨hi, hplan, hseen⟩ := h
    refine ⟨hmem hi, hplan, hseen.imp_right fun hwrite => ?_⟩
    obtain ⟨f, hf, hnew⟩ := hwrite
    exact ⟨f, List.mem_append_left _ hf, hnew⟩

theorem Linear.wrote_of_mem (h : Linear loop start log pool) {e : Write ι V} (he : e ∈ log) :
    pool.stage e.writer = .wrote e.old e.new := by
  have hwriter : e.writer ∈ log.map Write.writer := List.mem_map_of_mem he
  have hstage := h.stage e.writer
  cases hcase : pool.stage e.writer with
  | start =>
    rw [hcase] at hstage
    exact absurd hwriter hstage
  | exchange old new =>
    rw [hcase] at hstage
    exact absurd hwriter hstage.1
  | left seen =>
    rw [hcase] at hstage
    exact absurd hwriter hstage.1
  | wrote old new =>
    rw [hcase] at hstage
    have hsame := List.inj_on_of_nodup_map h.nodup he hstage rfl
    rw [hsame]

variable [DecidableEq ι] [DecidableEq V]

theorem Linear.step (h : Linear loop start log pool) (i : ι) :
    ∃ log, Linear loop start log (step loop pool i) := by
  have hi := h.stage i
  have hset : ∀ stage, Stands loop start log i stage →
      Linear loop start log { pool with stage := Function.update pool.stage i stage } := by
    intro stage hstage
    refine ⟨h.nodup, h.chained, fun j => ?_⟩
    by_cases hj : j = i
    · subst hj
      simpa only [Function.update_self] using hstage
    · simpa only [Function.update_of_ne hj] using h.stage j
  unfold Cas.step
  cases hstage : pool.stage i with
  | start =>
    rw [hstage] at hi
    exact ⟨log, hset _ (stands_enter hi h.chained)⟩
  | wrote old new => exact ⟨log, h⟩
  | left seen => exact ⟨log, h⟩
  | exchange old new =>
    rw [hstage] at hi
    obtain ⟨hmem, hplan⟩ := hi
    by_cases hcell : pool.cell = old
    · -- the exchange is where the loop takes effect
      have hchained := h.chained
      rw [hcell] at hchained
      refine ⟨log ++ [⟨i, old, new⟩], ?_⟩
      simp only [hcell, if_true]
      refine ⟨?_, hchained.snoc hplan, fun j => ?_⟩
      · rw [List.map_append]
        exact List.Nodup.append h.nodup (List.nodup_singleton i) (by simpa using hmem)
      · by_cases hj : j = i
        · subst hj
          simp only [Function.update_self]
          exact List.mem_append_right log (List.mem_singleton.mpr rfl)
        · simp only [Function.update_of_ne hj]
          exact (h.stage j).snoc (Ne.symm hj)
    · simp only [hcell, if_false]
      refine ⟨log, hset _ ?_⟩
      split
      · exact hmem
      · exact stands_enter hmem h.chained

theorem run_linear (loop : ι → Loop V) (start : V) (schedule : List ι) :
    ∃ log, Linear loop start log (run loop start schedule) := by
  induction schedule using List.reverseRecOn with
  | nil => exact ⟨[], List.nodup_nil, rfl, fun i => List.not_mem_nil⟩
  | append_singleton schedule i ih =>
    obtain ⟨log, hlinear⟩ := ih
    unfold run
    rw [List.foldl_concat]
    exact hlinear.step i

end Linear

/-! ### What every write keeps -/

section Related
variable {loop : ι → Loop V} {start v w : V} {log : List (Write ι V)} {pool : Pool ι V}

theorem Linear.left_seen (h : Linear loop start log pool) {i : ι} {seen : V}
    (hi : pool.stage i = .left seen) :
    (loop i).plan seen = none ∧ (seen = start ∨ ∃ j old, pool.stage j = .wrote old seen) := by
  have hstage := h.stage i
  rw [hi] at hstage
  obtain ⟨-, hplan, hseen⟩ := hstage
  refine ⟨hplan, hseen.imp_right fun hwrite => ?_⟩
  obtain ⟨e, he, rfl⟩ := hwrite
  exact ⟨e.writer, e.old, h.wrote_of_mem he⟩

theorem Linear.wrote_from (h : Linear loop start log pool) {i : ι} {old new : V}
    (hi : pool.stage i = .wrote old new) : old = start ∨ ∃ j old', pool.stage j = .wrote old' old := by
  have hstage := h.stage i
  rw [hi] at hstage
  refine (h.chained.old_value _ hstage).imp_right fun hwrite => ?_
  obtain ⟨e, he, hnew⟩ := hwrite
  have hwrote := h.wrote_of_mem he
  rw [← hnew] at hwrote
  exact ⟨e.writer, e.old, hwrote⟩

theorem Linear.cell_written (h : Linear loop start log pool) :
    pool.cell = start ∨ ∃ j old, pool.stage j = .wrote old pool.cell := by
  refine h.chained.value.imp_right fun hwrite => ?_
  obtain ⟨e, he, hnew⟩ := hwrite
  exact ⟨e.writer, e.old, hnew ▸ h.wrote_of_mem he⟩

theorem Linear.wrote_planned (h : Linear loop start log pool) {i : ι} {old new : V}
    (hi : pool.stage i = .wrote old new) : (loop i).plan old = some new := by
  have hstage := h.stage i
  rw [hi] at hstage
  exact h.chained.planned _ hstage

variable {r : V → V → Prop} [IsPreorder V r]
  (hplan : ∀ i v w, (loop i).plan v = some w → r v w)
include hplan

theorem Chained.related (h : Chained loop v log w) :
    r v w ∧ ∀ e ∈ log, r v e.old ∧ r e.new w := by
  induction log generalizing v with
  | nil => exact ⟨h ▸ refl_of r v, fun e he => absurd he List.not_mem_nil⟩
  | cons e rest ih =>
    obtain ⟨hold, hwrite, hrest⟩ := h
    obtain ⟨hnew, hall⟩ := ih hrest
    have hfirst : r v e.new := hplan e.writer v e.new hwrite
    refine ⟨trans_of r hfirst hnew, List.forall_mem_cons.mpr ⟨⟨hold ▸ refl_of r v, hnew⟩, ?_⟩⟩
    intro f hf
    exact ⟨trans_of r hfirst (hall f hf).1, (hall f hf).2⟩

theorem Chained.pairwise (h : Chained loop v log w) : log.Pairwise fun a b => r a.new b.old := by
  induction log generalizing v with
  | nil => exact .nil
  | cons e rest ih =>
    exact List.pairwise_cons.mpr
      ⟨fun f hf => (Chained.related hplan h.2.2).2 f hf |>.1, ih h.2.2⟩

theorem Linear.wrote_related (h : Linear loop start log pool) {i : ι} {old new : V}
    (hi : pool.stage i = .wrote old new) : r start old ∧ r new pool.cell := by
  have hstage := h.stage i
  rw [hi] at hstage
  exact (Chained.related hplan h.chained).2 _ hstage

theorem Linear.left_related (h : Linear loop start log pool) {i : ι} {seen : V}
    (hi : pool.stage i = .left seen) : r seen pool.cell := by
  have hall := Chained.related hplan h.chained
  have hstage := h.stage i
  rw [hi] at hstage
  cases hstage.2.2 with
  | inl hstart => exact hstart ▸ hall.1
  | inr hwrite =>
    obtain ⟨e, he, rfl⟩ := hwrite
    exact (hall.2 e he).2

theorem Linear.writers_related (h : Linear loop start log pool) {i j : ι} (hij : i ≠ j)
    {old new old' new' : V} (hi : pool.stage i = .wrote old new)
    (hj : pool.stage j = .wrote old' new') : r new old' ∨ r new' old := by
  have hpairs : log.Pairwise fun a b => r a.new b.old ∨ r b.new a.old :=
    (Chained.pairwise hplan h.chained).imp .inl
  have hstage := h.stage i
  have hstage' := h.stage j
  rw [hi] at hstage
  rw [hj] at hstage'
  have : Std.Symm fun a b : Write ι V => r a.new b.old ∨ r b.new a.old := ⟨fun _ _ => Or.symm⟩
  exact hpairs.forall hstage hstage' fun hsame => hij (congrArg Write.writer hsame)

end Related

end PolymarketBot.Lib.Cas
