import PolymarketBot.Flow.StepQueue
import PolymarketBot.Lib.Runs

/-! The law of the step queue: terminal statuses stay, and a completed step has queued its
successors. -/

namespace PolymarketBot.Flow
open Lib Lib.Prog Lib.Runs

/-! ### What others and one call do to the row -/

/-- Others write only the status, and only of a step that is not terminal. -/
structure StepWorld.Rewritten (w w' : StepWorld) : Prop where
  successors : w'.successors = w.successors
  queued : w'.queued = w.queued
  changedAfterEnd : w'.changedAfterEnd = w.changedAfterEnd
  status : w'.status = w.status ∨
    (w.status.isTerminal = false ∧ (w'.status = .running ∨ w'.status = .canceled))

namespace StepWorld.Rewritten
variable {w w' : StepWorld}

theorem refl (w : StepWorld) : w.Rewritten w := ⟨rfl, rfl, rfl, .inl rfl⟩

theorem trans {w'' : StepWorld} (h : w.Rewritten w') (h' : w'.Rewritten w'') :
    w.Rewritten w'' := by
  refine ⟨h'.successors.trans h.successors, h'.queued.trans h.queued,
    h'.changedAfterEnd.trans h.changedAfterEnd, ?_⟩
  rcases h'.status with hsame | ⟨hopen, hto⟩
  · rw [hsame]
    exact h.status
  · rcases h.status with hsame | ⟨hopen', -⟩
    · exact .inr ⟨by rwa [← hsame], hto⟩
    · exact .inr ⟨hopen', hto⟩

theorem of_setStatus {status : TradeFlowStepStatus} (hopen : w.status.isTerminal = false)
    (hto : status = .running ∨ status = .canceled) : w.Rewritten (w.setStatus status) :=
  ⟨rfl, rfl, by simp [StepWorld.setStatus, hopen], .inr ⟨hopen, hto⟩⟩

theorem of_exec (w : StepWorld) (o : OtherWrite) : w.Rewritten (o.exec w) := by
  cases o with
  | claim =>
    rw [OtherWrite.exec]
    split
    · rename_i hqueued
      exact of_setStatus (by rw [hqueued]; rfl) (.inl rfl)
    · exact refl w
  | recoverStale =>
    rw [OtherWrite.exec]
    split
    · rename_i hrunning
      exact of_setStatus (by rw [hrunning]; rfl) (.inr rfl)
    · exact refl w

theorem of_others (others : List OtherWrite) (w : StepWorld) :
    w.Rewritten (others.foldl OtherWrite.exec w) := by
  induction others generalizing w with
  | nil => exact refl w
  | cons o others ih => exact (of_exec w o).trans (ih (o.exec w))

theorem status_of_terminal (h : w.Rewritten w') (hend : w.status.isTerminal) :
    w'.status = w.status := by
  rcases h.status with hsame | ⟨hopen, -⟩
  · exact hsame
  · rw [hend] at hopen
    cases hopen

theorem not_completed (h : w.Rewritten w') (hnot : w.status ≠ .completed) :
    w'.status ≠ .completed := by
  rcases h.status with hsame | ⟨-, hto | hto⟩
  · rwa [hsame]
  · simp [hto]
  · simp [hto]

theorem law (h : w.Rewritten w') (hw : w.Law) : w'.Law := by
  refine ⟨h.changedAfterEnd.trans hw.1, fun hcompleted => ?_⟩
  have hsame : w.status = .completed := by
    by_contra hnot
    exact h.not_completed hnot hcompleted
  rw [h.queued, h.successors]
  exact hw.2 hsame

end StepWorld.Rewritten

theorem StepReply.found_rewritten (r : StepReply) (w : StepWorld) : w.Rewritten (r.found w) :=
  .of_others r.others w

namespace StepCall
variable {c : StepCall} {w : StepWorld} {r : StepReply}

theorem act_refused (hfault : r.fault = some .refused) :
    c.act w r = (.error "database error", r.found w) := by
  unfold act
  rw [hfault]

theorem act_lost (hfault : r.fault = some .lost) :
    c.act w r = (.error "database error", c.exec (r.found w)) := by
  unfold act
  rw [hfault]

theorem act_ok (hfault : r.fault = none) :
    c.act w r = (.ok (c.answer (r.found w) r), c.exec (r.found w)) := by
  unfold act
  rw [hfault]

theorem exec_changed (c : StepCall) (h : w.changedAfterEnd = false) :
    (c.exec w).changedAfterEnd = false ↔
      ∀ status ∈ c.marks, w.status.isTerminal = false ∨ w.status = status := by
  cases c with
  | claimReadyTradeFlowStep =>
    simpa [marks, exec] using (StepWorld.Rewritten.of_exec w .claim).changedAfterEnd.trans h
  | markTradeFlowStepCompleted successors =>
    cases hend : w.status.isTerminal <;> simp [marks, exec, StepWorld.setStatus, h, hend]
  | markTradeFlowStepFailed =>
    cases hend : w.status.isTerminal <;> simp [marks, exec, StepWorld.setStatus, h, hend]
  | markTradeFlowStepSkipped =>
    cases hend : w.status.isTerminal <;> simp [marks, exec, StepWorld.setStatus, h, hend]
  | _ => simpa [marks, exec] using h

theorem harmless_iff_law (h : w.changedAfterEnd = false) (hfault : r.fault ≠ none) :
    c.Harmless w r ↔ (c.act w r).2.Law := by
  have hfound : (r.found w).changedAfterEnd = false :=
    (r.found_rewritten w).changedAfterEnd.trans h
  cases hf : r.fault with
  | none => exact absurd hf hfault
  | some fault =>
    cases fault with
    | refused =>
      have hchanged : (c.act w r).2.changedAfterEnd = false := by rwa [act_refused hf]
      exact ⟨fun hc => ⟨hchanged, hc.settled hfault⟩, fun hl =>
        ⟨fun hr => absurd hf hr, fun _ => hl.2, fun _ hn => absurd hn hfault⟩⟩
    | lost =>
      have hchanged := exec_changed c hfound
      have hlost : r.fault ≠ some .refused := by rw [hf]; decide
      constructor
      · intro hc
        refine ⟨?_, hc.settled hfault⟩
        rw [act_lost hf]
        exact hchanged.mpr (hc.mark hlost)
      · intro hl
        have hexec := hl.1
        rw [act_lost hf] at hexec
        exact ⟨fun _ => hchanged.mp hexec, fun _ => hl.2, fun _ hn => absurd hn hfault⟩

theorem harmless_iff_of_ok (h : w.changedAfterEnd = false) (hfault : r.fault = none) :
    c.Harmless w r ↔ (c.exec (r.found w)).changedAfterEnd = false ∧
      (c.asksLock → r.lockHeld → (r.found w).status ≠ .completed) := by
  have hfound : (r.found w).changedAfterEnd = false :=
    (r.found_rewritten w).changedAfterEnd.trans h
  rw [exec_changed c hfound]
  constructor
  · intro hc
    exact ⟨hc.mark (by rw [hfault]; nofun), fun hlock => hc.lock hlock hfault⟩
  · rintro ⟨hmark, hlock⟩
    exact ⟨fun _ => hmark, fun hn => absurd hfault hn, fun hasks _ => hlock hasks⟩

end StepCall

/-! ### The law at the end of a pass -/

/-- The program ends under the law exactly when `C` holds and its calls are harmless. -/
abbrev LawIff (C : Prop) (p : StepProg Unit) (w : StepWorld) : Prop :=
  Exactly StepCall.act StepCall.Harmless (fun _ w' => w'.Law) C p w

/-- Whatever its calls do, the program does not end under the law. -/
abbrev NeverLaw (p : StepProg Unit) (w : StepWorld) : Prop :=
  wp StepCall.act (fun _ _ _ => True) p (fun _ w' => ¬ w'.Law) w

/-- A status changed after it was terminal, or no `n` steps more make up for what a completed
step lacks. -/
def StepWorld.Missed (n : ℕ) (w : StepWorld) : Prop :=
  w.changedAfterEnd = true ∨
    (w.status = .completed ∧ ∀ more, more.length ≤ n → w.queued ++ more ≠ w.successors)

theorem StepWorld.missed_zero_iff (w : StepWorld) : w.Missed 0 ↔ ¬ w.Law := by
  have hlack : (∀ more, more.length ≤ 0 → w.queued ++ more ≠ w.successors) ↔
      w.queued ≠ w.successors := by
    simp
  rw [StepWorld.Missed, hlack, StepWorld.Law, StepWorld.Settled, not_and_or, Classical.not_imp,
    Bool.not_eq_false]

theorem StepWorld.Missed.mono {m n : ℕ} {w : StepWorld} (hle : n ≤ m) (h : w.Missed m) :
    w.Missed n := by
  rcases h with hchanged | ⟨hcompleted, hlack⟩
  · exact .inl hchanged
  · exact .inr ⟨hcompleted, fun more hmore => hlack more (hmore.trans hle)⟩

namespace StepCall
variable {c : StepCall} {w : StepWorld}

theorem exec_keeps_changed (c : StepCall) (h : w.changedAfterEnd = true) :
    (c.exec w).changedAfterEnd = true := by
  cases c with
  | claimReadyTradeFlowStep => exact (StepWorld.Rewritten.of_exec w .claim).changedAfterEnd.trans h
  | _ => simp [exec, StepWorld.setStatus, h]

theorem act_keeps_changed (c : StepCall) (h : w.changedAfterEnd = true) (r : StepReply) :
    (c.act w r).2.changedAfterEnd = true := by
  have hfound : (r.found w).changedAfterEnd = true :=
    (r.found_rewritten w).changedAfterEnd.trans h
  cases hf : r.fault with
  | none =>
    rw [act_ok hf]
    exact exec_keeps_changed c hfound
  | some fault =>
    cases fault with
    | refused => rwa [act_refused hf]
    | lost =>
      rw [act_lost hf]
      exact exec_keeps_changed c hfound

/-- The nodes that a call queues a successor's step for. -/
def queues : StepCall → ℕ
  | enqueueTradeFlowStep _ => 1
  | _ => 0

theorem exec_missed {n : ℕ} (hmark : ∀ status ∈ c.marks, status ≠ .completed)
    (h : w.Missed (n + c.queues)) : (c.exec w).Missed n := by
  rcases h with hchanged | ⟨hcompleted, hlack⟩
  · exact .inl (exec_keeps_changed c hchanged)
  · cases c with
    | claimReadyTradeFlowStep =>
      have hsame : claimReadyTradeFlowStep.exec w = w := by
        simp [exec, OtherWrite.exec, hcompleted]
      rw [hsame]
      exact .inr ⟨hcompleted, hlack⟩
    | markTradeFlowStepCompleted successors => exact absurd rfl (hmark .completed rfl)
    | markTradeFlowStepFailed =>
      exact .inl (by simp [exec, StepWorld.setStatus, hcompleted, TradeFlowStepStatus.isTerminal])
    | markTradeFlowStepSkipped =>
      exact .inl (by simp [exec, StepWorld.setStatus, hcompleted, TradeFlowStepStatus.isTerminal])
    | enqueueTradeFlowStep step =>
      refine .inr ⟨hcompleted, fun more hmore => ?_⟩
      have hnode := hlack (step.node :: more) (Nat.succ_le_succ hmore)
      simpa [exec] using hnode
    | _ => exact .inr ⟨hcompleted, hlack⟩

theorem found_missed {n : ℕ} (h : w.Missed n) (r : StepReply) : (r.found w).Missed n := by
  have hr := r.found_rewritten w
  rcases h with hchanged | ⟨hcompleted, hlack⟩
  · exact .inl (hr.changedAfterEnd.trans hchanged)
  · refine .inr ⟨?_, by rwa [hr.queued, hr.successors]⟩
    rw [hr.status_of_terminal (by rw [hcompleted]; rfl), hcompleted]

theorem act_missed {n : ℕ} (hmark : ∀ status ∈ c.marks, status ≠ .completed)
    (h : w.Missed (n + c.queues)) (r : StepReply) : (c.act w r).2.Missed n := by
  have hfound := found_missed h r
  cases hf : r.fault with
  | none =>
    rw [act_ok hf]
    exact exec_missed hmark hfound
  | some fault =>
    cases fault with
    | refused =>
      rw [act_refused hf]
      exact hfound.mono (Nat.le_add_right _ _)
    | lost =>
      rw [act_lost hf]
      exact exec_missed hmark hfound

end StepCall

/-- A program that completes no step and queues no successor. -/
def Idle : StepCall → Prop := fun c => c.queues = 0 ∧ ∀ status ∈ c.marks, status ≠ .completed

theorem wp_missed {α : Type} {p : StepProg α} {w : StepWorld} (hp : Only Idle p)
    (h : w.Missed 0) :
    wp StepCall.act (fun _ _ _ => True) p (fun _ w' => w'.Missed 0) w := by
  refine wp_of_only (I := StepWorld.Missed 0) (fun c w r hc hw _ => ?_) hp h
  exact StepCall.act_missed hc.2 (by rwa [hc.1]) r

theorem neverLaw_of_missed {p : StepProg Unit} {w : StepWorld} (hp : Only Idle p)
    (h : w.Missed 0) : NeverLaw p w :=
  wp_mono (wp_missed hp h) fun _ w' hw' => w'.missed_zero_iff.mp hw'

theorem neverLaw_of_changed (p : StepProg Unit) {w : StepWorld} (h : w.changedAfterEnd = true) :
    NeverLaw p w := by
  refine wp_mono (wp_invariant (I := fun w => w.changedAfterEnd = true)
    (fun c w r hw _ => c.act_keeps_changed hw r) p h) fun _ w' hw' hlaw => ?_
  rw [hlaw.1] at hw'
  cases hw'

theorem idle_handle (error : String) : Only Idle (handleStepError (.error error)) :=
  (Only.attempt (p := StepProg.send .markTradeFlowStepFailed)
    ((only_perform _).mpr ⟨rfl, by rintro status ⟨⟩; decide⟩)).bind fun _ => trivial

theorem ignored_mark_lawIff {c : StepCall} {status : TradeFlowStepStatus} {w : StepWorld}
    (h : w.Law) (hc : ∀ w, c.exec w = w.setStatus status) (hlock : c.asksLock = false)
    (hstatus : status ≠ .completed) :
    LawIff True (attempt (StepProg.send c) >>= fun _ => pure ()) w := by
  refine exactly_ignore fun r => exactly_done ?_
  by_cases hfault : r.fault = none
  · rw [StepCall.harmless_iff_of_ok h.1 hfault, StepCall.act_ok hfault, hc, hlock]
    exact ⟨fun hok => ⟨hok.1, fun hcompleted => absurd hcompleted hstatus⟩, fun hlaw =>
      ⟨hlaw.1, nofun⟩⟩
  · exact StepCall.harmless_iff_law h.1 hfault

theorem handle_lawIff (error : String) (w : StepWorld) :
    LawIff w.Law (handleStepError (.error error)) w :=
  exactly_of_cases (fun hlaw => ignored_mark_lawIff hlaw (fun _ => rfl) rfl (by decide))
    fun hbroken => neverLaw_of_missed (idle_handle error) (w.missed_zero_iff.mpr hbroken)

theorem call_lawIff {c : StepCall} {g : c.Answer → StepProg Unit} {w : StepWorld}
    (h : w.changedAfterEnd = false)
    (hg : ∀ r, r.fault = none → LawIff (c.Harmless w r)
      (attempt (g (c.answer (r.found w) r)) >>= handleStepError) (c.exec (r.found w))) :
    LawIff True (attempt (StepProg.send c >>= g) >>= handleStepError) w := by
  refine exactly_attempt fun r => ?_
  by_cases hfault : r.fault = none
  · rw [StepCall.act_ok hfault]
    exact hg r hfault
  · have hfailed := StepCall.harmless_iff_law (c := c) h hfault
    cases hf : r.fault with
    | none => exact absurd hf hfault
    | some fault =>
      cases fault with
      | refused =>
        rw [StepCall.act_refused hf] at hfailed ⊢
        exact exactly_congr hfailed.symm (handle_lawIff _ _)
      | lost =>
        rw [StepCall.act_lost hf] at hfailed ⊢
        exact exactly_congr hfailed.symm (handle_lawIff _ _)

/-! ### The phases of the processing -/

/-- The row before the step is completed. -/
structure StepWorld.Unfinished (w : StepWorld) : Prop where
  changedAfterEnd : w.changedAfterEnd = false
  status : w.status ≠ .completed

theorem StepWorld.Rewritten.unfinished {w w' : StepWorld} (h : w.Rewritten w')
    (hw : w.Unfinished) : w'.Unfinished :=
  ⟨h.changedAfterEnd.trans hw.changedAfterEnd, h.not_completed hw.status⟩

theorem StepWorld.Unfinished.law {w : StepWorld} (h : w.Unfinished) : w.Law :=
  ⟨h.changedAfterEnd, fun hcompleted => absurd hcompleted h.status⟩

/-- What others keep, and holds of no step whose status changed after it was terminal. -/
structure KeptByOthers (I : StepWorld → Prop) : Prop where
  changedAfterEnd : ∀ w, I w → w.changedAfterEnd = false
  rewritten : ∀ w w', w.Rewritten w' → I w → I w'

theorem kept_unfinished : KeptByOthers StepWorld.Unfinished :=
  ⟨fun _ h => h.changedAfterEnd, fun _ _ hr h => hr.unfinished h⟩

theorem kept_law : KeptByOthers StepWorld.Law := ⟨fun _ h => h.1, fun _ _ hr h => hr.law h⟩

theorem read_lawIff {I : StepWorld → Prop} (hI : KeptByOthers I) {c : StepCall}
    {g : c.Answer → StepProg Unit} {w : StepWorld} (h : I w) (hc : ∀ w, c.exec w = w)
    (hlock : c.asksLock = false)
    (hg : ∀ a w', I w' → LawIff True (attempt (g a) >>= handleStepError) w') :
    LawIff True (attempt (StepProg.send c >>= g) >>= handleStepError) w := by
  refine call_lawIff (hI.changedAfterEnd w h) fun r hfault => ?_
  have hfound : I (r.found w) := hI.rewritten w _ (r.found_rewritten w) h
  have hharmless : c.Harmless w r := by
    rw [StepCall.harmless_iff_of_ok (hI.changedAfterEnd w h) hfault, hc, hlock]
    exact ⟨hI.changedAfterEnd _ hfound, nofun⟩
  rw [hc]
  exact exactly_of hharmless (hg _ _ hfound)

theorem mark_lawIff {c : StepCall} {g : c.Answer → StepProg Unit} {w : StepWorld}
    {status : TradeFlowStepStatus} (h : w.Unfinished) (hc : ∀ w, c.exec w = w.setStatus status)
    (hlock : c.asksLock = false)
    (hg : ∀ a w', w'.changedAfterEnd = false → w'.status = status →
      LawIff True (attempt (g a) >>= handleStepError) w') :
    LawIff True (attempt (StepProg.send c >>= g) >>= handleStepError) w := by
  refine call_lawIff h.changedAfterEnd fun r hfault => ?_
  have hharmless : c.Harmless w r ↔ (c.exec (r.found w)).changedAfterEnd = false := by
    rw [StepCall.harmless_iff_of_ok h.changedAfterEnd hfault, hlock]
    exact and_iff_left nofun
  refine exactly_of_cases (fun hok => hg _ _ (hharmless.mp hok) (by rw [hc]; rfl)) fun hbroken => ?_
  exact neverLaw_of_changed _ (Bool.eq_true_of_not_eq_false fun h => hbroken (hharmless.mpr h))

theorem done_lawIff {w : StepWorld} (h : w.Law) :
    LawIff True (attempt (pure ()) >>= handleStepError) w :=
  exactly_pure h

/-- The row of a step that failed. -/
def StepWorld.Failed (w : StepWorld) : Prop := w.changedAfterEnd = false ∧ w.status = .failed

theorem StepWorld.Rewritten.failed {w w' : StepWorld} (h : w.Rewritten w') (hw : w.Failed) :
    w'.Failed :=
  ⟨h.changedAfterEnd.trans hw.1, (h.status_of_terminal (by rw [hw.2]; rfl)).trans hw.2⟩

theorem StepWorld.Failed.law {w : StepWorld} (h : w.Failed) : w.Law :=
  ⟨h.1, fun hcompleted => by rw [h.2] at hcompleted; cases hcompleted⟩

theorem StepCall.act_failed {c : StepCall} {w : StepWorld} {r : StepReply}
    (hmark : ∀ status ∈ c.marks, status = .failed) (h : w.Failed) :
    c.Harmless w r ∧ (c.act w r).2.Failed := by
  have hfound : (r.found w).Failed := (r.found_rewritten w).failed h
  have hexec : (c.exec (r.found w)).Failed := by
    obtain ⟨hchanged, hstatus⟩ := hfound
    cases c with
    | claimReadyTradeFlowStep => exact (StepWorld.Rewritten.of_exec _ .claim).failed ⟨hchanged, hstatus⟩
    | markTradeFlowStepCompleted successors => cases hmark .completed rfl
    | markTradeFlowStepSkipped => cases hmark .skipped rfl
    | markTradeFlowStepFailed =>
      exact ⟨by simp [StepCall.exec, StepWorld.setStatus, hchanged, hstatus], rfl⟩
    | _ => exact ⟨hchanged, hstatus⟩
  have hact : (c.act w r).2.Failed := by
    unfold StepCall.act
    split <;> assumption
  refine ⟨⟨fun _ status hs => .inr (hfound.2.trans (hmark status hs).symm), fun _ => hact.law.2,
    fun _ _ _ => by simp [hfound.2]⟩, hact⟩

theorem failed_lawIff {p : StepProg Unit} {w : StepWorld}
    (hp : Only (fun c => ∀ status ∈ c.marks, status = .failed) p) (h : w.Failed) :
    LawIff True (attempt p >>= handleStepError) w := by
  refine exactly_of_only (fun c w r hc hw => StepCall.act_failed hc hw) (fun _ w hw => hw.law)
    ((Only.attempt hp).bind fun result => ?_) h
  cases result with
  | ok => trivial
  | error error =>
    refine (Only.attempt (p := StepProg.send _) ((only_perform _).mpr ?_)).bind fun _ => trivial
    rintro status ⟨⟩
    rfl

/-- The row of a completed step that has the steps of `rest` still to queue. -/
structure StepWorld.Completing (rest : List ConfiguredNode) (w : StepWorld) : Prop where
  changedAfterEnd : w.changedAfterEnd = false
  status : w.status = .completed
  queued : w.queued ++ rest = w.successors

theorem StepWorld.Rewritten.completing {rest : List ConfiguredNode} {w w' : StepWorld}
    (h : w.Rewritten w') (hw : w.Completing rest) : w'.Completing rest :=
  ⟨h.changedAfterEnd.trans hw.changedAfterEnd,
    (h.status_of_terminal (by rw [hw.status]; rfl)).trans hw.status,
    by rw [h.queued, h.successors, hw.queued]⟩

theorem kept_completing (rest : List ConfiguredNode) :
    KeptByOthers (StepWorld.Completing rest) :=
  ⟨fun _ h => h.changedAfterEnd, fun _ _ hr h => hr.completing h⟩

theorem StepWorld.Completing.law {w : StepWorld} (h : w.Completing []) : w.Law :=
  ⟨h.changedAfterEnd, fun _ => by simpa using h.queued⟩

section Successors
variable (sourceKey : String) (output : Value)

/-- The step of one successor, with the route that leads to it. -/
def enqueueSuccessor (successor : TradeFlowRouteDecision × ConfiguredNode) : StepProg Unit :=
  enqueueTradeFlowTarget sourceKey successor.1.availableAt output successor.2

theorem wp_enqueueSuccessor_missed (successor : TradeFlowRouteDecision × ConfiguredNode) {n : ℕ}
    {w : StepWorld} (h : w.Missed (n + 1)) :
    wp StepCall.act (fun _ _ _ => True) (enqueueSuccessor sourceKey output successor)
      (fun _ w' => w'.Missed n) w := by
  refine wp_bind_of (R := fun _ w' => w'.Missed (n + 1)) ((wp_perform _ _ _).mpr fun r _ =>
    StepCall.act_missed (by rintro _ ⟨⟩) h r) (fun a w' hw' => ?_)
    fun _ w' hw' => hw'.mono (Nat.le_succ n)
  cases a with
  | none => exact hw'.mono (Nat.le_succ n)
  | some input =>
    exact (wp_perform _ _ _).mpr fun r _ => StepCall.act_missed (by rintro _ ⟨⟩) hw' r

theorem wp_enqueueSuccessors_missed (successors : List (TradeFlowRouteDecision × ConfiguredNode))
    {w : StepWorld} (h : w.Missed successors.length) :
    wp StepCall.act (fun _ _ _ => True) (successors.forM (enqueueSuccessor sourceKey output))
      (fun _ w' => w'.Missed 0) w := by
  induction successors generalizing w with
  | nil => exact h
  | cons successor successors ih =>
    exact wp_bind_of (wp_enqueueSuccessor_missed sourceKey output successor h)
      (fun _ w' hw' => ih hw') fun _ w' hw' => hw'.mono (Nat.zero_le _)

variable {sourceKey output} {rest : StepProg Unit}

theorem neverLaw_of_passed_over (successors : List (TradeFlowRouteDecision × ConfiguredNode))
    (hrest : Only Idle rest) {w : StepWorld} (h : w.Missed successors.length) :
    NeverLaw (attempt (successors.forM (enqueueSuccessor sourceKey output) >>= fun _ => rest) >>=
      handleStepError) w := by
  have hrun : wp StepCall.act (fun _ _ _ => True)
      (attempt (successors.forM (enqueueSuccessor sourceKey output) >>= fun _ => rest))
      (fun _ w' => w'.Missed 0) w :=
    (wp_attempt _ _ _).mpr (wp_bind_of (wp_enqueueSuccessors_missed sourceKey output successors h)
      (fun _ _ hw' => wp_missed hrest hw') fun _ _ hw' => hw')
  refine wp_bind_of hrun (fun result w' hw' => neverLaw_of_missed ?_ hw') fun _ w' hw' =>
    w'.missed_zero_iff.mp hw'
  cases result with
  | ok => trivial
  | error error => exact idle_handle error

theorem successors_lawIff (successors : List (TradeFlowRouteDecision × ConfiguredNode))
    (hidle : Only Idle rest)
    (hrest : ∀ w, w.Completing [] → LawIff True (attempt rest >>= handleStepError) w)
    {w : StepWorld} (h : w.Completing (successors.map Prod.snd)) :
    LawIff True (attempt (successors.forM (enqueueSuccessor sourceKey output) >>= fun _ => rest) >>=
      handleStepError) w := by
  induction successors generalizing w with
  | nil => exact hrest w h
  | cons successor successors ih =>
    change LawIff True (attempt ((enqueueSuccessor sourceKey output successor >>= fun _ =>
      successors.forM (enqueueSuccessor sourceKey output)) >>= fun _ => rest) >>=
      handleStepError) w
    rw [bind_assoc, enqueueSuccessor, enqueueTradeFlowTarget, bind_assoc]
    refine call_lawIff h.changedAfterEnd fun r hfault => ?_
    have hfound := (r.found_rewritten w).completing h
    have hsame : StepCall.exec (r.found w) (.maybeAttachDeferredOnceLock successor.2 output) =
        r.found w := rfl
    rw [StepCall.harmless_iff_of_ok h.changedAfterEnd hfault, hsame]
    by_cases hheld : r.lockHeld = true
    · -- The successor is passed over, and what is left cannot complete the list.
      refine exactly_of_cases (fun hok => absurd hfound.status (hok.2 rfl hheld)) fun _ => ?_
      rw [StepCall.answer, if_pos hheld]
      refine neverLaw_of_passed_over successors hidle (.inr ⟨hfound.status, fun more hmore heq => ?_⟩)
      have hlength := congrArg List.length (hfound.queued.trans heq.symm)
      simp at hlength
      omega
    · refine exactly_of ⟨hfound.changedAfterEnd, fun _ hheld' => absurd hheld' hheld⟩ ?_
      rw [StepCall.answer, if_neg hheld]
      refine call_lawIff hfound.changedAfterEnd fun r' hfault' => ?_
      have hfound' := (r'.found_rewritten (r.found w)).completing hfound
      rw [StepCall.harmless_iff_of_ok hfound.changedAfterEnd hfault']
      refine exactly_of ⟨hfound'.changedAfterEnd, fun hasks => by cases hasks⟩ (ih ⟨hfound'.changedAfterEnd,
        hfound'.status, ?_⟩)
      simpa [StepCall.exec] using hfound'.queued

end Successors

theorem lawIff_ite {c : Prop} [Decidable c] {p q : StepProg Unit} {w : StepWorld}
    (hp : c → LawIff True (attempt p >>= handleStepError) w)
    (hq : ¬ c → LawIff True (attempt q >>= handleStepError) w) :
    LawIff True (attempt (if c then p else q) >>= handleStepError) w := by
  split
  · exact hp ‹c›
  · exact hq ‹¬ c›

section Phases
variable (evaluateJsonlogic : Value → Value → Value) (step : FlowStep)
variable (graph : TradeFlowGraphRuntime) (node : ConfiguredNode)

theorem repeat_lawIff (execution : RoutedExecution) {w : StepWorld} (h : w.Law) :
    LawIff True (attempt (enqueueTradeFlowRepeat step node execution) >>= handleStepError) w := by
  unfold enqueueTradeFlowRepeat
  cases execution.repeatAt with
  | none => exact done_lawIff h
  | some repeatAt =>
    simp only
    rw [← bind_pure (StepProg.send _)]
    exact read_lawIff kept_law h (fun _ => rfl) rfl fun _ _ => done_lawIff

theorem idle_repeat (execution : RoutedExecution) :
    Only Idle (enqueueTradeFlowRepeat step node execution) := by
  unfold enqueueTradeFlowRepeat
  cases execution.repeatAt with
  | none => trivial
  | some repeatAt => exact (only_perform _).mpr ⟨rfl, by rintro _ ⟨⟩⟩

theorem enqueueTradeFlowEdges_forM (execution : RoutedExecution) (context : Value) :
    (execution.routes.forM fun route =>
      enqueueTradeFlowEdges evaluateJsonlogic graph node.key route execution.output context) =
      (execution.routes.flatMap fun route => (edgeTargets evaluateJsonlogic graph node.key
        route.edgeType context execution.output).map (Prod.mk route)).forM
          (enqueueSuccessor node.key execution.output) :=
  forM_flatMap _ _ _

theorem completed_lawIff (execution : RoutedExecution) (context : Value) {w : StepWorld}
    (h : w.Unfinished) :
    LawIff True (attempt (do
      StepProg.send (.markTradeFlowStepCompleted
        (routeSuccessors evaluateJsonlogic graph node.key execution context))
      StepProg.send (.appendTradeFlowEvent "step_completed")
      execution.routes.forM fun route =>
        enqueueTradeFlowEdges evaluateJsonlogic graph node.key route execution.output context
      enqueueTradeFlowRepeat step node execution) >>= handleStepError) w := by
  refine call_lawIff h.changedAfterEnd fun r hfault => ?_
  rw [StepCall.harmless_iff_of_ok h.changedAfterEnd hfault]
  let successors := routeSuccessors evaluateJsonlogic graph node.key execution context
  refine exactly_of_cases (fun hok => ?_) fun hbroken => neverLaw_of_changed _ ?_
  · have hcompleting : (StepCall.exec (r.found w)
        (.markTradeFlowStepCompleted successors)).Completing successors := ⟨hok.1, rfl, rfl⟩
    refine read_lawIff (kept_completing _) hcompleting (fun _ => rfl) rfl fun _ w' hw' => ?_
    rw [enqueueTradeFlowEdges_forM]
    refine successors_lawIff _ (idle_repeat step node execution)
      (fun w'' hw'' => repeat_lawIff step node execution hw''.law) ?_
    have hsuccessors : (execution.routes.flatMap fun route => (edgeTargets evaluateJsonlogic graph
        node.key route.edgeType context execution.output).map (Prod.mk route)).map Prod.snd =
        successors := by
      simp [successors, routeSuccessors, List.map_flatMap]
    rwa [hsuccessors]
  · refine Bool.eq_true_of_not_eq_false fun hchanged => hbroken ⟨hchanged, fun hasks => ?_⟩
    cases hasks

theorem completeTradeFlowStep_lawIff (execution : RoutedExecution) (context : Value)
    {w : StepWorld} (h : w.Unfinished) :
    LawIff True (attempt (completeTradeFlowStep evaluateJsonlogic step graph node execution context)
      >>= handleStepError) w := by
  unfold completeTradeFlowStep
  refine read_lawIff kept_unfinished h (fun _ => rfl) rfl fun latestRun w hw => ?_
  split
  · rw [← bind_pure (StepProg.send _)]
    exact read_lawIff kept_unfinished hw (fun _ => rfl) rfl fun _ _ hw => done_lawIff hw.law
  · refine read_lawIff kept_unfinished hw (fun _ => rfl) rfl fun applied w hw => ?_
    refine read_lawIff kept_unfinished hw (fun _ => rfl) rfl fun _ w hw => ?_
    exact completed_lawIff evaluateJsonlogic step graph node applied.1 applied.2 hw

theorem only_enqueueTradeFlowEdges (sourceKey : String) (route : TradeFlowRouteDecision)
    (input context : Value) :
    Only (fun c => ∀ status ∈ c.marks, status = .failed)
      (enqueueTradeFlowEdges evaluateJsonlogic graph sourceKey route input context) := by
  unfold enqueueTradeFlowEdges
  induction edgeTargets evaluateJsonlogic graph sourceKey route.edgeType context input with
  | nil => trivial
  | cons target targets ih =>
    refine Only.bind (Only.bind ((only_perform _).mpr (by rintro _ ⟨⟩)) fun a => ?_) fun _ => ih
    cases a with
    | none => trivial
    | some input => exact (only_perform _).mpr (by rintro _ ⟨⟩)

theorem failTradeFlowStep_lawIff (error : String) (context : Value) {w : StepWorld}
    (h : w.Unfinished) :
    LawIff True (attempt (failTradeFlowStep evaluateJsonlogic graph node error context) >>=
      handleStepError) w := by
  unfold failTradeFlowStep
  refine read_lawIff kept_unfinished h (fun _ => rfl) rfl fun output w hw => ?_
  refine mark_lawIff hw (fun _ => rfl) rfl fun _ w hchanged hfailed => ?_
  refine failed_lawIff (Only.bind ((only_perform _).mpr (by rintro _ ⟨⟩)) fun _ => ?_)
    ⟨hchanged, hfailed⟩
  exact only_enqueueTradeFlowEdges evaluateJsonlogic graph node.key _ output context

theorem skip_lawIff {w : StepWorld} (h : w.Unfinished) :
    LawIff True (attempt (StepProg.send .markTradeFlowStepSkipped) >>= handleStepError) w := by
  rw [← bind_pure (StepProg.send _)]
  exact mark_lawIff h (fun _ => rfl) rfl fun _ w hchanged hskipped =>
    done_lawIff ⟨hchanged, fun hcompleted => by rw [hskipped] at hcompleted; cases hcompleted⟩

theorem executeTradeFlowStep_lawIff {w : StepWorld} (h : w.Unfinished) :
    LawIff True (attempt (executeTradeFlowStep evaluateJsonlogic step graph node) >>=
      handleStepError) w := by
  unfold executeTradeFlowStep
  refine read_lawIff kept_unfinished h (fun _ => rfl) rfl fun _ w hw => ?_
  refine read_lawIff kept_unfinished hw (fun _ => rfl) rfl fun executed w hw => ?_
  cases executed.result with
  | ok execution =>
    exact completeTradeFlowStep_lawIff evaluateJsonlogic step graph node execution _ hw
  | error error => exact failTradeFlowStep_lawIff evaluateJsonlogic graph node error _ hw

theorem processTradeFlowStep_lawIff {w : StepWorld} (h : w.Unfinished) :
    LawIff True (attempt (processTradeFlowStep evaluateJsonlogic step) >>= handleStepError) w := by
  have hfail : ∀ (error : String) (w : StepWorld), w.Unfinished →
      LawIff True (attempt (fail error) >>= handleStepError) w := by
    intro error w hw
    exact exactly_congr (iff_true_intro hw.law) (handle_lawIff error w)
  unfold processTradeFlowStep
  refine read_lawIff kept_unfinished h (fun _ => rfl) rfl fun flowRun w hw => ?_
  cases flowRun with
  | none => exact skip_lawIff hw
  | some flowRun =>
    refine lawIff_ite (fun _ => skip_lawIff hw) fun _ => ?_
    refine read_lawIff kept_unfinished hw (fun _ => rfl) rfl fun definition w hw => ?_
    cases definition with
    | none => exact hfail _ w hw
    | some definition =>
      refine lawIff_ite (fun _ => ?_) fun _ => lawIff_ite (fun _ => ?_) fun _ => ?_
      · exact read_lawIff kept_unfinished hw (fun _ => rfl) rfl fun _ w hw => skip_lawIff hw
      · refine read_lawIff kept_unfinished hw (fun _ => rfl) rfl fun _ w hw => ?_
        refine mark_lawIff hw (fun _ => rfl) rfl fun _ w hchanged hskipped => ?_
        have hlaw : w.Law :=
          ⟨hchanged, fun hcompleted => by rw [hskipped] at hcompleted; cases hcompleted⟩
        rw [← bind_pure (StepProg.send _)]
        exact read_lawIff kept_law hlaw (fun _ => rfl) rfl fun _ _ => done_lawIff
      · refine read_lawIff kept_unfinished hw (fun _ => rfl) rfl fun version w hw => ?_
        cases version with
        | none => exact hfail _ w hw
        | some graph =>
          cases hnode : flowNode graph step.nodeKey with
          | none =>
            simp only [hnode]
            exact hfail _ w hw
          | some node =>
            simp only [hnode]
            exact executeTradeFlowStep_lawIff evaluateJsonlogic step graph node hw

end Phases

/-! ### Runs -/

section Runs
variable (evaluateJsonlogic : Value → Value → Value) (step : FlowStep)

/-- What happens to the step: a pass of a worker, or a write of another. -/
inductive StepEvent where
  | pass (hasClient : Bool) (replies : List StepReply)
  | other (write : OtherWrite)

def StepEvent.exec (w : StepWorld) : StepEvent → StepWorld
  | pass hasClient replies =>
    ((processTradeFlowReadyStep evaluateJsonlogic step hasClient).exec StepCall.act replies w).2
  | other write => write.exec w

/-- Each call of a pass is harmless. -/
def StepEvent.Harmless (w : StepWorld) : StepEvent → Prop
  | pass hasClient replies => Meets StepCall.act StepCall.Harmless
      (processTradeFlowReadyStep evaluateJsonlogic step hasClient) replies w
  | other _ => True

theorem open_lawIff {c : StepCall} {g : c.Answer → StepProg Unit} {w : StepWorld}
    (h : w.changedAfterEnd = false)
    (hg : ∀ r, r.fault = none → LawIff (c.Harmless w r) (g (c.answer (r.found w) r))
      (c.exec (r.found w))) :
    LawIff True (StepProg.send c >>= g) w := by
  refine exactly_perform fun r => ?_
  by_cases hfault : r.fault = none
  · rw [StepCall.act_ok hfault]
    exact hg r hfault
  · have hfailed := StepCall.harmless_iff_law (c := c) h hfault
    cases hf : r.fault with
    | none => exact absurd hf hfault
    | some fault =>
      cases fault with
      | refused =>
        rw [StepCall.act_refused hf] at hfailed ⊢
        exact hfailed
      | lost =>
        rw [StepCall.act_lost hf] at hfailed ⊢
        exact hfailed

theorem claimed_lawIff (hasClient : Bool) {w : StepWorld} (h : w.Unfinished) :
    LawIff True (attempt (do
      StepProg.send .loadUserAppConfig
      if hasClient then StepProg.send .loadUserOrderExecutor
      processTradeFlowStep evaluateJsonlogic step) >>= handleStepError) w := by
  refine read_lawIff kept_unfinished h (fun _ => rfl) rfl fun _ w hw => ?_
  cases hasClient with
  | false => exact processTradeFlowStep_lawIff evaluateJsonlogic step hw
  | true =>
    refine read_lawIff kept_unfinished hw (fun _ => rfl) rfl fun _ w hw => ?_
    exact processTradeFlowStep_lawIff evaluateJsonlogic step hw

theorem processTradeFlowReadyStep_lawIff (hasClient : Bool) {w : StepWorld} (h : w.Law) :
    LawIff True (processTradeFlowReadyStep evaluateJsonlogic step hasClient) w := by
  refine open_lawIff h.1 fun r hfault => ?_
  have hfound := (r.found_rewritten w).law h
  have hharmless : StepCall.Harmless .claimReadyTradeFlowStep w r := by
    rw [StepCall.harmless_iff_of_ok h.1 hfault, StepCall.exec_changed _ hfound.1]
    exact ⟨by rintro _ ⟨⟩, fun hasks => by cases hasks⟩
  refine exactly_of hharmless ?_
  by_cases hqueued : (r.found w).status = .queued
  · have hexec : StepCall.exec (r.found w) .claimReadyTradeFlowStep =
        (r.found w).setStatus .running := if_pos hqueued
    have hclaimed : ((r.found w).setStatus .running).Unfinished := by
      refine ⟨?_, by simp [StepWorld.setStatus]⟩
      simp [StepWorld.setStatus, hfound.1, hqueued, TradeFlowStepStatus.isTerminal]
    rw [hexec, StepCall.answer, decide_eq_true hqueued, if_pos rfl]
    refine open_lawIff hclaimed.changedAfterEnd fun r hfault => ?_
    have hread := (r.found_rewritten _).unfinished hclaimed
    rw [StepCall.harmless_iff_of_ok hclaimed.changedAfterEnd hfault]
    refine exactly_of ⟨hread.changedAfterEnd, fun hasks => by cases hasks⟩ ?_
    change LawIff True (match r.run with
      | none => attempt (StepProg.send .markTradeFlowStepSkipped) >>= fun _ => pure ()
      | some _ => attempt _ >>= handleStepError) (r.found _)
    cases r.run with
    | none => exact ignored_mark_lawIff hread.law (fun _ => rfl) rfl (by decide)
    | some flowRun => exact claimed_lawIff evaluateJsonlogic step hasClient hread
  · have hexec : StepCall.exec (r.found w) .claimReadyTradeFlowStep = r.found w := if_neg hqueued
    rw [hexec, StepCall.answer, decide_eq_false hqueued]
    exact exactly_pure hfound

/-- In every run of passes and of others' writes, a terminal status never changes and a completed
step has queued all its successors, exactly when each call of a pass is harmless. -/
theorem step_queue_laws_iff (events : List StepEvent) :
    Throughout (StepEvent.exec evaluateJsonlogic step) StepWorld.Law {} events ↔
      EachStep (StepEvent.exec evaluateJsonlogic step) (StepEvent.Harmless evaluateJsonlogic step)
        {} events := by
  refine throughout_iff_eachStep (I := fun _ => True) (fun w event _ hlaw => ?_)
    (fun _ _ _ _ _ => trivial) trivial ⟨rfl, nofun⟩ events
  cases event with
  | pass hasClient replies =>
    exact (processTradeFlowReadyStep_lawIff evaluateJsonlogic step hasClient hlaw replies).trans
      (and_iff_right trivial)
  | other write =>
    exact iff_of_true ((StepWorld.Rewritten.of_exec w write).law hlaw) trivial

end Runs

/-- A node whose success leads to two others. -/
def forkGraph : TradeFlowGraphRuntime where
  nodes := ["fork", "left", "right"].map fun key =>
    { key, nodeType := "logic.if", config := .object [] }
  edges := [⟨"fork", "left", "on_success", none⟩, ⟨"fork", "right", "on_success", none⟩]

/-- A pass over the node's step in which the second successor cannot be queued; `last` is the
reply to the mark of the failure. -/
def halfQueuedPass (last : StepReply) : StepEvent :=
  let reply : StepReply :=
    { run := some ⟨"running", 7⟩
      definition := some ⟨"published", some 7⟩
      version := some forkGraph
      nodeRun := ⟨.object [], .ok
        { output := .object [], repeatAt := none, routes := [{ edgeType := "on_success" }] }⟩ }
  .pass false (List.replicate 16 reply ++ [{ reply with fault := some .refused }, last])

/-- The completed step turns into a failed one with one of its successors queued, or stays
completed with it. -/
theorem half_queued_step :
    let after (last : StepReply) : StepWorld :=
      (halfQueuedPass last).exec (fun expression _ => expression) { nodeKey := "fork" } {}
    ((after {}).status = .failed ∧ (after {}).changedAfterEnd = true ∧
        (after {}).queued.map (·.key) = ["left"]) ∧
      (after { fault := some .refused }).status = .completed ∧
      (after { fault := some .refused }).queued.map (·.key) = ["left"] ∧
      ¬ (after {}).Law ∧ ¬ (after { fault := some .refused }).Law := by
  intro after
  have hflipped : (after {}).status = .failed ∧ (after {}).changedAfterEnd = true ∧
      (after {}).queued.map (·.key) = ["left"] := by decide +kernel
  have hhalf : (after { fault := some .refused }).status = .completed ∧
      (after { fault := some .refused }).queued.map (·.key) = ["left"] ∧
      (after { fault := some .refused }).successors.map (·.key) = ["left", "right"] := by
    decide +kernel
  refine ⟨hflipped, hhalf.1, hhalf.2.1, fun hlaw => ?_, fun hlaw => ?_⟩
  · exact absurd (hlaw.1.symm.trans hflipped.2.1) (by decide)
  · have hkeys := congrArg (List.map (·.key)) (hlaw.2 hhalf.1)
    rw [hhalf.2.1, hhalf.2.2] at hkeys
    exact absurd hkeys (by decide)

end PolymarketBot.Flow
