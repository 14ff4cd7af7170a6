import PolymarketBot.AutoClaim.Books

/-! What holds of the auto-claim table throughout every run of ticks. -/

namespace PolymarketBot.AutoClaim
open PolymarketBot.Flow Lib Prog

section Lists
variable {w : ClaimWorld} {c : ℕ × AutoClaimJob}

theorem picked_nodup (p : ℕ × AutoClaimJob → Bool) (le : ℕ × AutoClaimJob → ℕ × AutoClaimJob → Prop)
    [DecidableRel le] (limit : ℕ) (jobs : List AutoClaimJob) :
    (((((Rows.listed jobs).filter p).insertionSort le).take limit).map Prod.fst).Nodup := by
  have hlisted : ((Rows.listed jobs).map Prod.fst).Nodup := by
    rw [Rows.listed_ids]
    exact List.nodup_range
  have hfiltered : (((Rows.listed jobs).filter p).map Prod.fst).Nodup :=
    hlisted.sublist (List.filter_sublist.map Prod.fst)
  have hsorted : ((((Rows.listed jobs).filter p).insertionSort le).map Prod.fst).Nodup :=
    ((List.perm_insertionSort le _).map Prod.fst).nodup_iff.mpr hfiltered
  exact hsorted.sublist ((List.take_sublist limit _).map Prod.fst)

theorem mem_picked {p : ℕ × AutoClaimJob → Bool} {le : ℕ × AutoClaimJob → ℕ × AutoClaimJob → Prop}
    [DecidableRel le] {limit : ℕ} {jobs : List AutoClaimJob}
    (h : c ∈ (((Rows.listed jobs).filter p).insertionSort le).take limit) :
    jobs[c.1]? = some c.2 ∧ p c := by
  have hsorted := List.mem_of_mem_take h
  have hfiltered := (List.perm_insertionSort le _).mem_iff.mp hsorted
  obtain ⟨hlisted, hp⟩ := List.mem_filter.mp hfiltered
  exact ⟨Rows.mem_listed.mp hlisted, hp⟩

theorem listForProcessing_row {limit : ℕ} (h : c ∈ listForProcessing w.now limit w.jobs) :
    ∃ job, w.jobs[c.1]? = some job ∧ job.status.isQueued := by
  obtain ⟨hrow, hdue⟩ := mem_picked h
  simp only [Bool.and_eq_true] at hdue
  exact ⟨c.2, hrow, hdue.1⟩

theorem listForReceiptCheck_row {limit : ℕ} (h : c ∈ listForReceiptCheck limit w.jobs) :
    ∃ job, w.jobs[c.1]? = some job ∧ job.status = .submitted := by
  obtain ⟨hrow, hsubmitted⟩ := mem_picked h
  exact ⟨c.2, hrow, of_decide_eq_true hsubmitted⟩

end Lists

section Steps
variable {limit : ℕ} {v : ClaimView} {w : ClaimWorld} {id : ℕ}

/-- What a call leaves behind when it takes effect: the table in order, later than before, and
the view true, whether the call answered or failed. -/
structure Kept (limit : ℕ) (v : ClaimView) (c : ClaimCall) (w : ClaimWorld)
    (x : Except String (ClaimAnswer c)) : Prop where
  books : Books limit (w.effect c)
  later : Later w (w.effect c)
  knows : Knows limit (v.next limit c x) (w.effect c)

theorem kept_untouched {c : ClaimCall} {x : Except String (ClaimAnswer c)} (hb : Books limit w)
    (heffect : w.effect c = w) (h : Knows limit (v.next limit c x) w) : Kept limit v c w x := by
  constructor
  · exact heffect.symm ▸ hb
  · exact heffect.symm ▸ Later.refl w
  · exact heffect.symm ▸ h

theorem kept_settled {c : ClaimCall} {x : Except String (ClaimAnswer c)}
    {f : AutoClaimJob → AutoClaimJob} {job : AutoClaimJob} (hb : Books limit w)
    (hf : Facts limit v w) (heffect : w.effect c = w.modifyJob id f)
    (hnext : v.next limit c x = some (v.without id)) (hjob : w.jobs[id]? = some job)
    (hkey : ∀ job, (f job).key = job.key) (hclaimed : job.status ≠ .claimed)
    (hacc : Accounted (f job) (w.sent id) (w.recoveries id))
    (hroom : countSubmitted (w.modifyJob id f).jobs + (v.without id).sent.length ≤
      countSubmitted w.jobs + v.sent.length) : Kept limit v c w x := by
  have hready : (v.without id).ready.length ≤ v.ready.length := length_without_le id v.ready
  have hprocessing : (v.without id).processing.length ≤ v.processing.length :=
    length_without_le id v.processing
  have hlimit := hf.room
  constructor
  · exact heffect ▸ books_mark hb hjob hkey hacc (by omega)
  · exact heffect ▸ later_mark hjob hkey hclaimed
  · rw [hnext, heffect]
    exact ⟨v.without id, rfl, facts_mark hf f (by omega)⟩

theorem kept_markProcessing (hb : Books limit w) (hf : Facts limit v w) (hid : id ∈ v.ready)
    (x : Except String Unit) : Kept limit v (.markProcessing id) w x := by
  obtain ⟨job, hjob, hqueued⟩ := hf.ready id hid
  have hfailed : job.status ≠ .failed := fun h => by simp [h, ClaimJobStatus.isQueued] at hqueued
  have hclaimed : job.status ≠ .claimed := fun h => by simp [h, ClaimJobStatus.isQueued] at hqueued
  have hin : job.status.unbooked = 0 := by
    cases hstatus : job.status <;> simp_all [ClaimJobStatus.isQueued, ClaimJobStatus.unbooked,
      ClaimJobStatus.isKept]
  have hnot : submittedOne job = 0 := by
    cases hstatus : job.status <;> simp_all [ClaimJobStatus.isQueued, submittedOne]
  have hcount : countSubmitted (w.modifyJob id (·.markProcessing w.now)).jobs =
      countSubmitted w.jobs := by
    have h := countSubmitted_modify hjob (·.markProcessing w.now)
    have hafter : submittedOne (job.markProcessing w.now) = 0 := rfl
    omega
  have hacc := (hb.rows id job hjob).withStatus (job.markProcessing w.now) rfl rfl hfailed
    (by rw [hin]; exact Int.zero_le_ofNat 1)
  have hready : (v.without id).ready.length + 1 ≤ v.ready.length := length_without_lt hid
  have hprocessing : (v.without id).processing.length ≤ v.processing.length :=
    length_without_le id v.processing
  have hsent : (v.without id).sent.length ≤ v.sent.length := length_without_le id v.sent
  have hlimit := hf.room
  have hothers : Facts limit (v.without id) (w.modifyJob id (·.markProcessing w.now)) :=
    facts_mark hf _ (by omega)
  refine ⟨books_mark hb hjob (fun _ => rfl) hacc (by omega), later_mark hjob (fun _ => rfl) hclaimed,
    ?_⟩
  cases x with
  | error err => exact ⟨v.without id, rfl, hothers⟩
  | ok u =>
    refine ⟨v.marked id, rfl, hothers.ready, ?_, hothers.sent, hothers.submitted, ?_⟩
    · intro j hj
      cases hj with
      | head =>
        refine ⟨_, modifyJob_same hjob _, rfl, ?_⟩
        have hle := (hb.rows id job hjob).sent_le
        change (w.sent id : ℤ) ≤ job.attempts + w.recoveries id
        omega
      | tail _ hj => exact hothers.processing j hj
    · change countSubmitted (w.modifyJob id (·.markProcessing w.now)).jobs + v.slots +
        (v.without id).ready.length + (id :: (v.without id).processing).length +
        (v.without id).sent.length ≤ limit
      rw [List.length_cons]
      omega

theorem kept_markSubmitted (hb : Books limit w) (hf : Facts limit v w) (hid : id ∈ v.sent)
    (txHash : String) (x : Except String Unit) :
    Kept limit v (.markSubmitted id txHash) w x := by
  obtain ⟨job, hjob, hstatus⟩ := hf.sent id hid
  have hacc := (hb.rows id job hjob).withStatus (job.markSubmitted w.now txHash) rfl rfl
    (by rw [hstatus]; decide) (by rw [hstatus]; exact Int.le_refl 1)
  have hsent : (v.without id).sent.length + 1 ≤ v.sent.length := length_without_lt hid
  have hcount := countSubmitted_modify hjob (·.markSubmitted w.now txHash)
  have hone : submittedOne (job.markSubmitted w.now txHash) = 1 := rfl
  exact kept_settled hb hf rfl (by cases x <;> rfl) hjob (fun _ => rfl) (by rw [hstatus]; decide)
    hacc (by omega)

theorem held_kept (hf : Facts limit v w) (hid : id ∈ v.processing ∨ id ∈ v.sent ∨ id ∈ v.submitted) :
    ∃ job, w.jobs[id]? = some job ∧ job.status.isKept ∧ job.status ≠ .claimed := by
  rcases hid with hid | hid | hid
  · obtain ⟨job, hjob, hstatus, -⟩ := hf.processing id hid
    exact ⟨job, hjob, by rw [hstatus]; rfl, by rw [hstatus]; decide⟩
  · obtain ⟨job, hjob, hstatus⟩ := hf.sent id hid
    exact ⟨job, hjob, by rw [hstatus]; rfl, by rw [hstatus]; decide⟩
  · obtain ⟨job, hjob, hstatus⟩ := hf.submitted id hid
    exact ⟨job, hjob, by rw [hstatus]; rfl, by rw [hstatus]; decide⟩

theorem kept_markRetryOrFail (hb : Books limit w) (hf : Facts limit v w)
    (hid : id ∈ v.processing ∨ id ∈ v.sent ∨ id ∈ v.submitted) (retryBackoffMs : ℕ)
    (x : Except String ClaimJobStatus) :
    Kept limit v (.markRetryOrFail id retryBackoffMs) w x := by
  obtain ⟨job, hjob, hkept, hclaimed⟩ := held_kept hf hid
  have hacc := (hb.rows id job hjob).retryOrFail hkept w.now retryBackoffMs
  have hsent : (v.without id).sent.length ≤ v.sent.length := length_without_le id v.sent
  have hcount := countSubmitted_modify hjob (·.markRetryOrFail w.now retryBackoffMs)
  have hnone : submittedOne (job.markRetryOrFail w.now retryBackoffMs) = 0 := by
    refine if_neg ?_
    change job.afterFailure ≠ .submitted
    unfold AutoClaimJob.afterFailure
    split <;> decide
  exact kept_settled hb hf rfl (by cases x <;> rfl) hjob (fun _ => rfl) hclaimed hacc (by omega)

theorem kept_markFailed (hb : Books limit w) (hf : Facts limit v w)
    (hid : id ∈ v.processing ∨ id ∈ v.sent) (x : Except String Unit) :
    Kept limit v (.markFailed id) w x := by
  obtain ⟨job, hjob, hkept, hclaimed⟩ := held_kept hf (hid.imp_right Or.inl)
  have hacc := (hb.rows id job hjob).failed hkept w.now
  have hsent : (v.without id).sent.length ≤ v.sent.length := length_without_le id v.sent
  have hcount := countSubmitted_modify hjob (·.markFailed w.now)
  have hnone : submittedOne (job.markFailed w.now) = 0 := rfl
  exact kept_settled hb hf rfl (by cases x <;> rfl) hjob (fun _ => rfl) hclaimed hacc (by omega)

theorem kept_markReceiptConfirmed (hb : Books limit w) (hf : Facts limit v w)
    (hid : id ∈ v.submitted) (x : Except String Unit) :
    Kept limit v (.markReceiptConfirmed id) w x := by
  obtain ⟨job, hjob, hstatus⟩ := hf.submitted id hid
  have hacc := (hb.rows id job hjob).withStatus (job.markReceiptConfirmed w.now) rfl rfl
    (by rw [hstatus]; decide) (by rw [hstatus]; exact Int.le_refl 1)
  have hsent : (v.without id).sent.length ≤ v.sent.length := length_without_le id v.sent
  have hcount := countSubmitted_modify hjob (·.markReceiptConfirmed w.now)
  have hnone : submittedOne (job.markReceiptConfirmed w.now) = 0 := rfl
  exact kept_settled hb hf rfl (by cases x <;> rfl) hjob (fun _ => rfl) (by rw [hstatus]; decide)
    hacc (by omega)

theorem kept_redeemed {c : ClaimCall} {x : Except String (ClaimAnswer c)} {ids : List ℕ}
    (hb : Books limit w) (hf : Facts limit v w) (hids : ∀ j ∈ ids, j ∈ v.processing)
    (hnext : v.next limit c x = some (v.redeemed ids)) (hjobs : (w.effect c).jobs = w.jobs)
    (hrec : (w.effect c).recoveries = w.recoveries)
    (hsent : ∀ j, (w.effect c).sent j = if j ∈ ids then w.sent j + 1 else w.sent j) :
    Kept limit v c w x := by
  have hrows : ∀ j ∈ ids, ∃ row, w.jobs[j]? = some row ∧ row.status = .processing := by
    intro j hj
    obtain ⟨row, hrow, hstatus, -⟩ := hf.processing j (hids j hj)
    exact ⟨row, hrow, hstatus⟩
  have hsame : ∀ j ∉ ids, (w.effect c).sent j = w.sent j := fun j hj => (hsent j).trans (if_neg hj)
  refine ⟨books_redeemed hb (fun j hj => hf.processing j (hids j hj)) hjobs hrec hsent,
    later_redeemed hrows hjobs hsame, ?_⟩
  rw [hnext]
  exact ⟨v.redeemed ids, rfl, facts_redeemed hf ids hjobs hrec hsame⟩

theorem knows_room {slots : ℕ} (h : countSubmitted w.jobs + slots ≤ limit) :
    Knows limit (some { slots := slots }) w := by
  refine ⟨_, rfl, ?_, ?_, ?_, ?_, by simpa using h⟩ <;> exact fun j hj => absurd hj List.not_mem_nil

theorem knows_listForReceiptCheck (hb : Books limit w) (most : ℕ) :
    Knows limit (v.next limit (.listForReceiptCheck most)
      (.ok (listForReceiptCheck most w.jobs))) w := by
  have hnd : ((listForReceiptCheck most w.jobs).map Prod.fst).Nodup := picked_nodup _ _ _ _
  refine ⟨_, if_pos hnd, ?_, ?_, ?_, fun j hj => ?_, by simpa using hb.inflight⟩
  iterate 3 exact fun j hj => absurd hj List.not_mem_nil
  obtain ⟨c, hc, rfl⟩ := List.mem_map.mp hj
  exact listForReceiptCheck_row hc

theorem knows_listForProcessing (hf : Facts limit v w) {most : ℕ} (hmost : most ≤ v.slots) :
    Knows limit (v.next limit (.listForProcessing most)
      (.ok (listForProcessing w.now most w.jobs))) w := by
  have hnd : ((listForProcessing w.now most w.jobs).map Prod.fst).Nodup := picked_nodup _ _ _ _
  have hlength : (listForProcessing w.now most w.jobs).length ≤ most := List.length_take_le _ _
  have hlimit := hf.room
  refine ⟨_, if_pos ⟨hnd, hlength⟩, fun j hj => ?_, ?_, ?_, ?_, ?_⟩
  · obtain ⟨c, hc, rfl⟩ := List.mem_map.mp hj
    exact listForProcessing_row hc
  · exact fun j hj => absurd hj List.not_mem_nil
  · exact fun j hj => absurd hj List.not_mem_nil
  · exact fun j hj => absurd hj List.not_mem_nil
  · simp only [List.length_map, List.length_nil]
    omega

theorem knows_error (hb : Books limit w) (hf : Facts limit v w) (c : ClaimCall) (err : String) :
    Knows limit (v.next limit c (.error err)) w := by
  have hblank : Knows limit (some {}) w := ⟨{}, rfl, facts_blank hb.inflight⟩
  have hwithout : ∀ id, Knows limit (some (v.without id)) w := fun id => ⟨_, rfl, facts_without hf id⟩
  have hredeemed : ∀ ids, Knows limit (some (v.redeemed ids)) w :=
    fun ids => ⟨_, rfl, facts_redeemed hf ids rfl rfl fun _ _ => rfl⟩
  cases c <;> first | exact hblank | exact hwithout _ | exact hredeemed _ | exact ⟨v, rfl, hf⟩

theorem kept_effect (hb : Books limit w) (hf : Facts limit v w) {c : ClaimCall} (hc : v.allows c)
    {r : ClaimReply} {x : Except String (ClaimAnswer c)}
    (hx : x = .ok (w.answer r c) ∨ ∃ err, x = .error err) : Kept limit v c w x := by
  have hblank : Knows limit (some {}) w := ⟨{}, rfl, facts_blank hb.inflight⟩
  have hread : w.effect c = w → (∀ y, v.next limit c y = some v) → Kept limit v c w x :=
    fun heffect hnext => kept_untouched hb heffect (hnext x ▸ ⟨v, rfl, hf⟩)
  cases c with
  | markProcessing id => exact kept_markProcessing hb hf hc x
  | markSubmitted id txHash => exact kept_markSubmitted hb hf hc txHash x
  | markRetryOrFail id retryBackoffMs => exact kept_markRetryOrFail hb hf hc retryBackoffMs x
  | markFailed id => exact kept_markFailed hb hf hc x
  | markReceiptConfirmed id => exact kept_markReceiptConfirmed hb hf hc x
  | sendRedeem ids =>
    exact kept_redeemed hb hf hc (by cases x <;> rfl) rfl rfl fun j => rfl
  | postRedeem id =>
    have hids : ∀ j ∈ [id], j ∈ v.processing := fun j hj => List.mem_singleton.mp hj ▸ hc
    refine kept_redeemed hb hf hids (by cases x <;> rfl) rfl rfl fun j => ?_
    by_cases hj : j = id
    · subst hj
      simp [ClaimWorld.effect]
    · simp [ClaimWorld.effect, hj]
  | recoverStaleProcessing staleMinutes =>
    refine ⟨books_recover hb, later_recover, {}, by cases x <;> rfl, ?_⟩
    exact facts_blank (countSubmitted_recover.trans_le hb.inflight)
  | upsertJob ownerAddress marketSlug conditionId maxAttempts =>
    refine ⟨books_upsert hb hc, later_upsert, {}, by cases x <;> rfl, ?_⟩
    exact facts_blank (countSubmitted_upserted.trans_le hb.inflight)
  | setTimers userId timers =>
    refine ⟨⟨hb.keys, hb.rows, hb.unused, hb.inflight⟩, Later.refl w, v, by cases x <;> rfl, ?_⟩
    exact ⟨hf.ready, hf.processing, hf.sent, hf.submitted, hf.room⟩
  | countSubmitted =>
    refine kept_untouched hb rfl ?_
    cases hx with
    | inl hx =>
      have hroom : countSubmitted w.jobs + (limit - countSubmitted w.jobs) ≤ limit := by
        have hinflight := hb.inflight
        omega
      exact hx ▸ knows_room hroom
    | inr hx =>
      obtain ⟨err, rfl⟩ := hx
      exact knows_error hb hf _ err
  | listForReceiptCheck most =>
    refine kept_untouched hb rfl ?_
    cases hx with
    | inl hx => exact hx ▸ knows_listForReceiptCheck hb most
    | inr hx =>
      obtain ⟨err, rfl⟩ := hx
      exact knows_error hb hf _ err
  | listForProcessing most =>
    refine kept_untouched hb rfl ?_
    cases hx with
    | inl hx => exact hx ▸ knows_listForProcessing hf hc
    | inr hx =>
      obtain ⟨err, rfl⟩ := hx
      exact knows_error hb hf _ err
  | _ => exact hread rfl fun y => by cases y <;> rfl

theorem act_keeps {s : Option ClaimView} {c : ClaimCall} (hb : Books limit w) (hs : Knows limit s w)
    (hc : (claimProtocol limit).allows s c) (r : ClaimReply) :
    Books limit (act c w r).2 ∧
      Knows limit ((claimProtocol limit).next s c (act c w r).1) (act c w r).2 ∧
      Later w (act c w r).2 := by
  obtain ⟨v, rfl, hf⟩ := hs
  have hallowed : v.allows c := hc v rfl
  let w' : ClaimWorld := { w with now := w.now + r.elapsed }
  have hb' : Books limit w' := ⟨hb.keys, hb.rows, hb.unused, hb.inflight⟩
  have hf' : Facts limit v w' := ⟨hf.ready, hf.processing, hf.sent, hf.submitted, hf.room⟩
  have hlater : Later w w' := Later.refl w
  have hanswer : Kept limit v c w' (.ok (w'.answer r c)) :=
    kept_effect hb' hf' hallowed (r := r) (.inl rfl)
  unfold act
  split
  · rename_i err herr
    split
    · exact ⟨hanswer.books, hanswer.knows, hlater.trans hanswer.later⟩
    · have hfailed : Kept limit v c w' (.error err) :=
        kept_effect hb' hf' hallowed (r := r) (.inr ⟨err, rfl⟩)
      cases htakes : r.takesEffect with
      | true => exact ⟨hfailed.books, hfailed.knows, hlater.trans hfailed.later⟩
      | false => exact ⟨hb', knows_error hb' hf' c err, hlater⟩
  · exact ⟨hanswer.books, hanswer.knows, hlater.trans hanswer.later⟩

theorem env_keeps (hb : Books limit w) (e : ClaimEnv) :
    Books limit (envStep e w) ∧ Later w (envStep e w) := by
  cases e <;> exact ⟨⟨hb.keys, hb.rows, hb.unused, hb.inflight⟩, Later.refl w⟩

end Steps

/-! ### Runs of ticks -/

/-- A tick of some user's service with the replies it meets, or a step of the environment. A tick
that is cut off is one whose later calls all fail without effect. -/
inductive ClaimStep where
  | tick (service : AutoClaimService) (replies : List ClaimReply)
  | environment (e : ClaimEnv)

def ClaimStep.turn : ClaimStep → ClaimTurn
  | tick service replies => .pass (maybeTick service) replies
  | environment e => .environment e

/-- The worlds of a run from the empty table on: one after every call of every tick. -/
def claimMoments (now : Instant) (steps : List ClaimStep) : List ClaimWorld :=
  .empty now :: Turn.moments act envStep (.empty now) (steps.map ClaimStep.turn)

section Runs
variable {now : Instant} {steps : List ClaimStep} {limit : ℕ}

theorem empty_books (now : Instant) (limit : ℕ) : Books limit (.empty now) := by
  refine ⟨List.nodup_nil, ?_, fun _ _ => ⟨rfl, rfl⟩, Nat.zero_le limit⟩
  intro id job hjob
  cases hjob

theorem steps_history
    (hlimit : ∀ service replies, .tick service replies ∈ steps →
      maxInflightClaimJobs service ≤ limit) :
    History Later (Books limit) (.empty now)
      (Turn.moments act envStep (.empty now) (steps.map ClaimStep.turn))
      (Turn.run act envStep (.empty now) (steps.map ClaimStep.turn)) := by
  have hstep : ∀ s c w r, Books limit w → Knows limit s w → (claimProtocol limit).allows s c →
      Books limit (act c w r).2 ∧
        Knows limit ((claimProtocol limit).next s c (act c w r).1) (act c w r).2 ∧
        Later w (act c w r).2 :=
    fun s c w r hb hs hc => act_keeps hb hs hc r
  refine Turn.history (s := some {}) hstep ?_ ?_ ?_ (empty_books now limit)
  · exact fun e w hb => env_keeps hb e
  · exact fun w hb => ⟨{}, rfl, facts_blank hb.inflight⟩
  · intro p replies hmem
    obtain ⟨step, hstep, hturn⟩ := List.mem_map.mp hmem
    cases step with
    | tick service rs =>
      obtain ⟨rfl, rfl⟩ := Turn.pass.inj hturn
      exact maybeTick_obeys (hlimit service rs hstep)
    | environment e => cases hturn

theorem exists_cap (steps : List ClaimStep) : ∃ limit, ∀ service replies,
    .tick service replies ∈ steps → maxInflightClaimJobs service ≤ limit := by
  induction steps with
  | nil => exact ⟨0, fun _ _ h => absurd h List.not_mem_nil⟩
  | cons step rest ih =>
    obtain ⟨limit, hlimit⟩ := ih
    cases step with
    | tick service replies =>
      refine ⟨max (maxInflightClaimJobs service) limit, fun service' replies' hmem => ?_⟩
      cases hmem with
      | head => exact le_max_left _ _
      | tail _ hmem => exact (hlimit service' replies' hmem).trans (le_max_right _ _)
    | environment e =>
      refine ⟨limit, fun service' replies' hmem => ?_⟩
      cases hmem with
      | tail _ hmem => exact hlimit service' replies' hmem

/-- Once a row is claimed it stays claimed, and no further redeem is ever sent for it. -/
theorem claimed_final (now : Instant) (steps : List ClaimStep) :
    (claimMoments now steps).Pairwise fun w w' => ∀ id job, w.jobs[id]? = some job →
      job.status = .claimed → ∃ job', w'.jobs[id]? = some job' ∧ job'.key = job.key ∧
        job'.status = .claimed ∧ w'.sent id = w.sent id := by
  obtain ⟨limit, hlimit⟩ := exists_cap steps
  refine (steps_history hlimit).related.imp ?_
  intro w w' hlater id job hjob hclaimed
  obtain ⟨job', hjob', hkey, hfinal⟩ := hlater id job hjob
  obtain ⟨hstatus, hsent⟩ := hfinal hclaimed
  exact ⟨job', hjob', hkey, hstatus, hsent⟩

theorem Accounted.sent_le_max {job : AutoClaimJob} {sent recoveries : ℕ}
    (h : Accounted job sent recoveries) : (sent : ℤ) ≤ job.maxAttempts + recoveries := by
  have hsent := h.sent_le
  by_cases hfailed : job.status = .failed
  · have hin : job.status.unbooked = 0 := by rw [hfailed]; rfl
    have hle := h.le_max
    omega
  · have hout : job.status.unbooked ≤ 1 := by
      unfold ClaimJobStatus.unbooked
      split <;> decide
    have hlt := h.lt_max hfailed
    omega

/-- At every moment an owner's condition has one row, its attempts are within its budget with one
left unless it has failed, and the redeems sent since it was queued exceed that budget only by
the times it was taken back from `processing`. -/
theorem attempts_within_budget (now : Instant) (steps : List ClaimStep) :
    ∀ w ∈ claimMoments now steps, (w.jobs.map AutoClaimJob.key).Nodup ∧
      ∀ id job, w.jobs[id]? = some job → 0 ≤ job.attempts ∧ job.attempts ≤ job.maxAttempts ∧
        (job.status ≠ .failed → job.attempts < job.maxAttempts) ∧
        (w.sent id : ℤ) ≤ job.maxAttempts + w.recoveries id := by
  obtain ⟨limit, hlimit⟩ := exists_cap steps
  intro w hw
  have hbooks := (steps_history hlimit).invariant w hw
  refine ⟨hbooks.keys, fun id job hjob => ?_⟩
  have hacc := hbooks.rows id job hjob
  exact ⟨hacc.nonneg, hacc.le_max, hacc.lt_max, hacc.sent_le_max⟩

/-- Where no ticking service has more in-flight slots than `limit`, no moment has more submitted
rows. -/
theorem submitted_within_limit
    (hlimit : ∀ service replies, .tick service replies ∈ steps →
      maxInflightClaimJobs service ≤ limit) :
    ∀ w ∈ claimMoments now steps, countSubmitted w.jobs ≤ limit := by
  intro w hw
  exact ((steps_history hlimit).invariant w hw).inflight

/-- A relayer's service and the one position that it finds. -/
def relayerService : AutoClaimService where
  userId := 7
  signerAddress := "0x00000000000000000000000000000000000000aa"
  safeAddress := some "0x00000000000000000000000000000000000000aa"
  executionMode := .builderRelayer
  positionsPageSize := 50
  positionsMaxPages := 1
  processBatchSize := 5
  maxAttempts := 3
  retryBackoffMs := 1000
  minClaimUsdc := 0
  autoActivateFunds := false
  discoveryIntervalSec := 60
  pageSize_pos := Nat.succ_pos 49
  batchSize_pos := Nat.succ_pos 4
  maxAttempts_pos := Int.natCast_pos.mpr (Nat.succ_pos 2)

def wonPosition : DataApiPosition where
  proxyWallet := none
  conditionId := some "0x00000000000000000000000000000000000000000000000000000000000000c1"
  marketSlug := none
  slug := none
  currentValue := none
  curPrice := none
  redeemable := some true
  size := some (.string "10")
  balance := none

/-- The sixth call of the tick asks for positions. -/
def relayerTick : ClaimStep :=
  .tick relayerService (List.replicate 5 default ++ [{ (default : ClaimReply) with
    positions := [wonPosition] }])

theorem attempts_within_budget_relayer :
    (∀ w ∈ claimMoments 0 [relayerTick], (w.jobs.map AutoClaimJob.key).Nodup ∧
      ∀ id job, w.jobs[id]? = some job → 0 ≤ job.attempts ∧ job.attempts ≤ job.maxAttempts ∧
        (job.status ≠ .failed → job.attempts < job.maxAttempts) ∧
        (w.sent id : ℤ) ≤ job.maxAttempts + w.recoveries id) ∧
      ∃ w ∈ claimMoments 0 [relayerTick], w.sent 0 = 1 :=
  ⟨attempts_within_budget 0 [relayerTick], by decide +kernel⟩

theorem submitted_within_limit_relayer :
    (∀ w ∈ claimMoments 0 [relayerTick], countSubmitted w.jobs ≤ 1) ∧
      ∃ w ∈ claimMoments 0 [relayerTick], countSubmitted w.jobs = 1 := by
  refine ⟨submitted_within_limit fun service replies hmem => ?_, by decide +kernel⟩
  obtain ⟨rfl, -⟩ := ClaimStep.tick.inj (List.mem_singleton.mp hmem)
  decide

end Runs

end PolymarketBot.AutoClaim
