import PolymarketBot.AutoClaim.Protocol

/-! The accounts of the auto-claim table: what every call that the protocol allows keeps of them,
and what it leaves a tick knowing. -/

namespace PolymarketBot.AutoClaim
open PolymarketBot.Flow Lib Prog

/-- A redeem that is not counted as an attempt yet may be out for the row. -/
def ClaimJobStatus.unbooked (status : ClaimJobStatus) : ℤ := if status.isKept then 1 else 0

def submittedOne (job : AutoClaimJob) : ℕ := if job.status = .submitted then 1 else 0

/-- Every redeem sent for a row is booked as an attempt, is the one that is out, or was out when
the row was taken back. -/
structure Accounted (job : AutoClaimJob) (sent recoveries : ℕ) : Prop where
  nonneg : 0 ≤ job.attempts
  le_max : job.attempts ≤ job.maxAttempts
  lt_max : job.status ≠ .failed → job.attempts < job.maxAttempts
  sent_le : (sent : ℤ) ≤ job.attempts + recoveries + job.status.unbooked

namespace Accounted
variable {job : AutoClaimJob} {sent recoveries : ℕ}

theorem withStatus (h : Accounted job sent recoveries) (job' : AutoClaimJob)
    (hattempts : job'.attempts = job.attempts) (hmax : job'.maxAttempts = job.maxAttempts)
    (hfailed : job.status ≠ .failed) (hunbooked : job.status.unbooked ≤ job'.status.unbooked) :
    Accounted job' sent recoveries := by
  have hlt := h.lt_max hfailed
  have hsent := h.sent_le
  constructor
  · exact hattempts ▸ h.nonneg
  · omega
  · omega
  · omega

theorem retryOrFail (h : Accounted job sent recoveries) (hkept : job.status.isKept)
    (now : Instant) (retryBackoffMs : ℕ) :
    Accounted (job.markRetryOrFail now retryBackoffMs) sent recoveries := by
  have hfailed : job.status ≠ .failed := fun h => by simp [h, ClaimJobStatus.isKept] at hkept
  have hlt := h.lt_max hfailed
  have hsent := h.sent_le
  have hout : job.status.unbooked = 1 := if_pos hkept
  have hnone : job.afterFailure.unbooked = 0 := by
    unfold AutoClaimJob.afterFailure
    split <;> rfl
  refine ⟨Int.add_nonneg h.nonneg (by decide), hlt, fun hstatus => ?_, ?_⟩
  · change job.afterFailure ≠ .failed at hstatus
    change job.attempts + 1 < job.maxAttempts
    by_contra hge
    exact hstatus (if_pos (not_lt.mp hge))
  · change (sent : ℤ) ≤ job.attempts + 1 + recoveries + job.afterFailure.unbooked
    omega

theorem failed (h : Accounted job sent recoveries) (hkept : job.status.isKept) (now : Instant) :
    Accounted (job.markFailed now) sent recoveries := by
  have hfailed : job.status ≠ .failed := fun h => by simp [h, ClaimJobStatus.isKept] at hkept
  have hlt := h.lt_max hfailed
  have hsent := h.sent_le
  have hout : job.status.unbooked = 1 := if_pos hkept
  have hnone : ClaimJobStatus.failed.unbooked = 0 := rfl
  refine ⟨Int.add_nonneg h.nonneg (by decide), hlt, fun hstatus => absurd rfl hstatus, ?_⟩
  change (sent : ℤ) ≤ job.attempts + 1 + recoveries + ClaimJobStatus.failed.unbooked
  omega

end Accounted

/-- The table's invariant, where at most `limit` rows may be submitted. -/
structure Books (limit : ℕ) (w : ClaimWorld) : Prop where
  keys : (w.jobs.map AutoClaimJob.key).Nodup
  rows : ∀ id job, w.jobs[id]? = some job → Accounted job (w.sent id) (w.recoveries id)
  unused : ∀ id, w.jobs.length ≤ id → w.sent id = 0 ∧ w.recoveries id = 0
  inflight : countSubmitted w.jobs ≤ limit

/-- Between an earlier and a later world every row is still there, and a claimed one is still
claimed, with no redeem sent for it since. -/
def Later (w w' : ClaimWorld) : Prop :=
  ∀ id job, w.jobs[id]? = some job → ∃ job', w'.jobs[id]? = some job' ∧ job'.key = job.key ∧
    (job.status = .claimed → job'.status = .claimed ∧ w'.sent id = w.sent id)

theorem Later.refl (w : ClaimWorld) : Later w w := fun _ job h => ⟨job, h, rfl, fun hc => ⟨hc, rfl⟩⟩

theorem Later.trans {w w' w'' : ClaimWorld} (h : Later w w') (h' : Later w' w'') :
    Later w w'' := by
  intro id job hjob
  obtain ⟨job', hjob', hkey, hclaimed⟩ := h id job hjob
  obtain ⟨job'', hjob'', hkey', hclaimed'⟩ := h' id job' hjob'
  refine ⟨job'', hjob'', hkey'.trans hkey, fun hc => ?_⟩
  obtain ⟨hstatus, hsent⟩ := hclaimed hc
  obtain ⟨hstatus', hsent'⟩ := hclaimed' hstatus
  exact ⟨hstatus', hsent'.trans hsent⟩

instance : IsPreorder ClaimWorld Later where
  refl := Later.refl
  trans _ _ _ := Later.trans

/-- The view is true of the world. -/
structure Facts (limit : ℕ) (v : ClaimView) (w : ClaimWorld) : Prop where
  ready : ∀ id ∈ v.ready, ∃ job, w.jobs[id]? = some job ∧ job.status.isQueued
  processing : ∀ id ∈ v.processing, ∃ job, w.jobs[id]? = some job ∧ job.status = .processing ∧
    (w.sent id : ℤ) ≤ job.attempts + w.recoveries id
  sent : ∀ id ∈ v.sent, ∃ job, w.jobs[id]? = some job ∧ job.status = .processing
  submitted : ∀ id ∈ v.submitted, ∃ job, w.jobs[id]? = some job ∧ job.status = .submitted
  room : countSubmitted w.jobs + v.slots + v.ready.length + v.processing.length + v.sent.length ≤
    limit

def Knows (limit : ℕ) (s : Option ClaimView) (w : ClaimWorld) : Prop :=
  ∃ v, s = some v ∧ Facts limit v w

section Steps
variable {limit : ℕ} {v : ClaimView} {w : ClaimWorld} {id : ℕ} {job : AutoClaimJob}

theorem facts_blank (h : countSubmitted w.jobs ≤ limit) : Facts limit {} w := by
  refine ⟨?_, ?_, ?_, ?_, by simpa using h⟩ <;> exact fun id hid => absurd hid List.not_mem_nil

/-! ### One row -/

theorem mem_without {l : List ℕ} {j : ℕ} : j ∈ l.filter (· ≠ id) ↔ j ∈ l ∧ j ≠ id := by
  simp [List.mem_filter]

theorem length_without_le (id : ℕ) (l : List ℕ) : (l.filter (· ≠ id)).length ≤ l.length :=
  List.length_filter_le _ l

theorem length_without_lt {l : List ℕ} (h : id ∈ l) : (l.filter (· ≠ id)).length + 1 ≤ l.length :=
  List.length_filter_lt_length_iff_exists.mpr ⟨id, h, by simp⟩

theorem countSubmitted_modify (hjob : w.jobs[id]? = some job) (f : AutoClaimJob → AutoClaimJob) :
    countSubmitted (w.modifyJob id f).jobs + submittedOne job =
      countSubmitted w.jobs + submittedOne (f job) := by
  have h := Rows.countP_modify (fun job : AutoClaimJob => decide (job.status = .submitted)) f hjob
  simpa [submittedOne, countSubmitted, ClaimWorld.modifyJob] using h

theorem modifyJob_same (hjob : w.jobs[id]? = some job) (f : AutoClaimJob → AutoClaimJob) :
    (w.modifyJob id f).jobs[id]? = some (f job) := by
  simp [ClaimWorld.modifyJob, hjob]

theorem modifyJob_other {j : ℕ} (hj : j ≠ id) (f : AutoClaimJob → AutoClaimJob) :
    (w.modifyJob id f).jobs[j]? = w.jobs[j]? :=
  List.getElem?_modify_ne f w.jobs hj.symm

theorem books_mark (hb : Books limit w) (hjob : w.jobs[id]? = some job)
    {f : AutoClaimJob → AutoClaimJob} (hkey : ∀ job, (f job).key = job.key)
    (hacc : Accounted (f job) (w.sent id) (w.recoveries id))
    (hroom : countSubmitted (w.modifyJob id f).jobs ≤ limit) :
    Books limit (w.modifyJob id f) := by
  refine ⟨?_, ?_, ?_, hroom⟩
  · exact (Rows.map_modify_of_eq hkey w.jobs id).symm ▸ hb.keys
  · intro j row hrow
    by_cases hj : j = id
    · subst hj
      obtain rfl : f job = row := Option.some.inj ((modifyJob_same hjob f).symm.trans hrow)
      exact hacc
    · exact hb.rows j row (modifyJob_other hj f ▸ hrow)
  · intro j hj
    exact hb.unused j (by simpa [ClaimWorld.modifyJob] using hj)

theorem later_mark (hjob : w.jobs[id]? = some job) {f : AutoClaimJob → AutoClaimJob}
    (hkey : ∀ job, (f job).key = job.key) (hclaimed : job.status ≠ .claimed) :
    Later w (w.modifyJob id f) := by
  intro j row hrow
  by_cases hj : j = id
  · subst hj
    obtain rfl : job = row := Option.some.inj (hjob.symm.trans hrow)
    exact ⟨f job, modifyJob_same hjob f, hkey job, fun hc => absurd hc hclaimed⟩
  · exact ⟨row, (modifyJob_other hj f).trans hrow, rfl, fun hc => ⟨hc, rfl⟩⟩

theorem facts_mark (hf : Facts limit v w) (f : AutoClaimJob → AutoClaimJob)
    (hroom : countSubmitted (w.modifyJob id f).jobs + (v.without id).ready.length +
        (v.without id).processing.length + (v.without id).sent.length ≤
      countSubmitted w.jobs + v.ready.length + v.processing.length + v.sent.length) :
    Facts limit (v.without id) (w.modifyJob id f) := by
  have hother : ∀ {l : List ℕ} {j : ℕ}, j ∈ l.filter (· ≠ id) →
      j ∈ l ∧ (w.modifyJob id f).jobs[j]? = w.jobs[j]? := by
    intro l j hj
    obtain ⟨hmem, hne⟩ := mem_without.mp hj
    exact ⟨hmem, modifyJob_other hne f⟩
  have hlimit := hf.room
  refine ⟨?_, ?_, ?_, ?_, ?_⟩
  · intro j hj
    obtain ⟨hmem, hsame⟩ := hother hj
    exact hsame ▸ hf.ready j hmem
  · intro j hj
    obtain ⟨hmem, hsame⟩ := hother hj
    exact hsame ▸ hf.processing j hmem
  · intro j hj
    obtain ⟨hmem, hsame⟩ := hother hj
    exact hsame ▸ hf.sent j hmem
  · intro j hj
    obtain ⟨hmem, hsame⟩ := hother hj
    exact hsame ▸ hf.submitted j hmem
  · change _ + v.slots + _ + _ + _ ≤ limit
    omega

theorem facts_without (hf : Facts limit v w) (id : ℕ) : Facts limit (v.without id) w := by
  have hmem : ∀ {l : List ℕ} {j : ℕ}, j ∈ l.filter (· ≠ id) → j ∈ l :=
    fun hj => (mem_without.mp hj).1
  have hlimit := hf.room
  have hready := length_without_le id v.ready
  have hprocessing := length_without_le id v.processing
  have hsent := length_without_le id v.sent
  refine ⟨fun j hj => hf.ready j (hmem hj), fun j hj => hf.processing j (hmem hj),
    fun j hj => hf.sent j (hmem hj), fun j hj => hf.submitted j (hmem hj), ?_⟩
  change _ + v.slots + (v.ready.filter _).length + (v.processing.filter _).length +
    (v.sent.filter _).length ≤ limit
  omega

theorem redeemed_length (v : ClaimView) (ids : List ℕ) :
    (v.redeemed ids).processing.length + (v.redeemed ids).sent.length =
      v.processing.length + v.sent.length := by
  have hsplit := List.length_eq_length_filter_add (l := v.processing) (fun j => decide (j ∈ ids))
  have hnot : (v.redeemed ids).processing = v.processing.filter fun j => !decide (j ∈ ids) := by
    simp [ClaimView.redeemed]
  rw [hnot]
  simp only [ClaimView.redeemed, List.length_append]
  omega

theorem facts_redeemed {w' : ClaimWorld} (hf : Facts limit v w) (ids : List ℕ)
    (hjobs : w'.jobs = w.jobs) (hrec : w'.recoveries = w.recoveries)
    (hsent : ∀ j ∉ ids, w'.sent j = w.sent j) : Facts limit (v.redeemed ids) w' := by
  have hlimit := hf.room
  have hlength := redeemed_length v ids
  refine ⟨?_, ?_, ?_, ?_, ?_⟩
  · exact fun j hj => hjobs ▸ hf.ready j hj
  · intro j hj
    obtain ⟨hmem, hnot⟩ := List.mem_filter.mp hj
    rw [hjobs, hrec, hsent j (by simpa using hnot)]
    exact hf.processing j hmem
  · intro j hj
    rw [hjobs]
    cases List.mem_append.mp hj with
    | inl hj =>
      obtain ⟨row, hrow, hstatus, -⟩ := hf.processing j (List.mem_filter.mp hj).1
      exact ⟨row, hrow, hstatus⟩
    | inr hj => exact hf.sent j hj
  · exact fun j hj => hjobs ▸ hf.submitted j hj
  · rw [hjobs]
    change _ + v.slots + v.ready.length + _ + _ ≤ limit
    omega

/-! ### Redeems -/

theorem books_redeemed {w' : ClaimWorld} (hb : Books limit w) {ids : List ℕ}
    (hids : ∀ j ∈ ids, ∃ row, w.jobs[j]? = some row ∧ row.status = .processing ∧
      (w.sent j : ℤ) ≤ row.attempts + w.recoveries j)
    (hjobs : w'.jobs = w.jobs) (hrec : w'.recoveries = w.recoveries)
    (hsent : ∀ j, w'.sent j = if j ∈ ids then w.sent j + 1 else w.sent j) : Books limit w' := by
  have hsame : ∀ j ∉ ids, w'.sent j = w.sent j := fun j hj => (hsent j).trans (if_neg hj)
  refine ⟨hjobs ▸ hb.keys, ?_, ?_, hjobs ▸ hb.inflight⟩
  · intro j row hrow
    rw [hjobs] at hrow
    have hacc := hb.rows j row hrow
    rw [hrec]
    by_cases hj : j ∈ ids
    · obtain ⟨row', hrow', hstatus, hle⟩ := hids j hj
      obtain rfl : row' = row := Option.some.inj (hrow'.symm.trans hrow)
      have hout : row'.status.unbooked = 1 := by rw [hstatus]; rfl
      have hone : w'.sent j = w.sent j + 1 := (hsent j).trans (if_pos hj)
      exact ⟨hacc.nonneg, hacc.le_max, hacc.lt_max, by omega⟩
    · rw [hsame j hj]
      exact hacc
  · intro j hj
    rw [hjobs] at hj
    have hnot : j ∉ ids := by
      intro hmem
      obtain ⟨row, hrow, -⟩ := hids j hmem
      exact absurd (List.getElem?_eq_some_iff.mp hrow).1 (by omega)
    rw [hsame j hnot, hrec]
    exact hb.unused j hj

theorem later_redeemed {w' : ClaimWorld} {ids : List ℕ}
    (hids : ∀ j ∈ ids, ∃ row, w.jobs[j]? = some row ∧ row.status = .processing)
    (hjobs : w'.jobs = w.jobs) (hsent : ∀ j ∉ ids, w'.sent j = w.sent j) : Later w w' := by
  intro j row hrow
  refine ⟨row, hjobs ▸ hrow, rfl, fun hclaimed => ⟨hclaimed, hsent j fun hmem => ?_⟩⟩
  obtain ⟨row', hrow', hstatus⟩ := hids j hmem
  obtain rfl : row' = row := Option.some.inj (hrow'.symm.trans hrow)
  rw [hclaimed] at hstatus
  cases hstatus

/-! ### Discovered and recovered rows -/

theorem countSubmitted_map {f : AutoClaimJob → AutoClaimJob}
    (hf : ∀ job, (f job).status = .submitted ↔ job.status = .submitted)
    (jobs : List AutoClaimJob) : countSubmitted (jobs.map f) = countSubmitted jobs := by
  unfold countSubmitted
  rw [List.countP_map]
  congr 1
  funext job
  simp [hf job]

theorem rediscovered_key (job excluded : AutoClaimJob) :
    (job.rediscovered excluded).key = job.key := by
  unfold AutoClaimJob.rediscovered
  split <;> rfl

theorem rediscovered_kept (excluded : AutoClaimJob) (h : job.status.isKept) :
    (job.rediscovered excluded).status = job.status ∧
      (job.rediscovered excluded).attempts = job.attempts ∧
      job.maxAttempts ≤ (job.rediscovered excluded).maxAttempts := by
  have heq : (job.rediscovered excluded).maxAttempts = max job.maxAttempts excluded.maxAttempts := by
    unfold AutoClaimJob.rediscovered
    split <;> rfl
  refine ⟨?_, ?_, heq ▸ le_max_left _ _⟩
  · simp only [AutoClaimJob.rediscovered, if_pos h]
  · simp only [AutoClaimJob.rediscovered, if_pos h]

theorem rediscovered_queued (excluded : AutoClaimJob) (h : ¬ job.status.isKept) :
    (job.rediscovered excluded).status = .pending ∧ (job.rediscovered excluded).attempts = 0 ∧
      excluded.maxAttempts ≤ (job.rediscovered excluded).maxAttempts := by
  have heq : (job.rediscovered excluded).maxAttempts = max job.maxAttempts excluded.maxAttempts := by
    unfold AutoClaimJob.rediscovered
    split <;> rfl
  refine ⟨?_, ?_, heq ▸ le_max_right _ _⟩
  · simp only [AutoClaimJob.rediscovered, if_neg h]
  · simp only [AutoClaimJob.rediscovered, if_neg h]

theorem accounted_queued {excluded : ℤ} (hmax : 0 < excluded) (hstatus : job.status = .pending)
    (hattempts : job.attempts = 0) (hle : excluded ≤ job.maxAttempts) : Accounted job 0 0 := by
  constructor
  · omega
  · omega
  · omega
  · rw [hstatus, hattempts]
    decide

theorem submitted_isKept (h : job.status = .submitted) : job.status.isKept := by
  rw [h]
  rfl

theorem rediscovered_submitted (excluded : AutoClaimJob) :
    (job.rediscovered excluded).status = .submitted ↔ job.status = .submitted := by
  by_cases hkept : job.status.isKept
  · rw [(rediscovered_kept _ hkept).1]
  · rw [(rediscovered_queued _ hkept).1]
    exact iff_of_false (by decide) fun h => hkept (submitted_isKept h)

section Upsert
variable {ownerAddress conditionId : String} {marketSlug : Option String} {maxAttempts : ℤ}

/-- The world after an insert of this row. -/
abbrev upserted (w : ClaimWorld) (ownerAddress : String) (marketSlug : Option String)
    (conditionId : String) (maxAttempts : ℤ) : ClaimWorld :=
  w.effect (.upsertJob ownerAddress marketSlug conditionId maxAttempts)

theorem upserted_sent (hjob : w.jobs[id]? = some job) :
    (upserted w ownerAddress marketSlug conditionId maxAttempts).sent id =
        (if job.key = (ownerAddress, conditionId) ∧ ¬ job.status.isKept then 0 else w.sent id) ∧
      (upserted w ownerAddress marketSlug conditionId maxAttempts).recoveries id =
        if job.key = (ownerAddress, conditionId) ∧ ¬ job.status.isKept then 0
        else w.recoveries id := by
  simp [upserted, ClaimWorld.effect, ClaimWorld.queuedFromScratch, hjob]

theorem countSubmitted_upserted :
    countSubmitted (upserted w ownerAddress marketSlug conditionId maxAttempts).jobs =
      countSubmitted w.jobs := by
  let row := AutoClaimJob.fresh w.now ownerAddress marketSlug conditionId maxAttempts
  change countSubmitted (Rows.upsert AutoClaimJob.key AutoClaimJob.rediscovered row w.jobs) = _
  unfold Rows.upsert
  split
  · refine countSubmitted_map (fun old => ?_) w.jobs
    split
    · exact rediscovered_submitted row
    · exact Iff.rfl
  · have hnone : countSubmitted [row] = 0 := rfl
    rw [countSubmitted, List.countP_append, ← countSubmitted, ← countSubmitted, hnone, add_zero]

theorem later_upsert :
    Later w (upserted w ownerAddress marketSlug conditionId maxAttempts) := by
  intro j row hrow
  let excluded := AutoClaimJob.fresh w.now ownerAddress marketSlug conditionId maxAttempts
  refine ⟨_, Rows.getElem?_upsert_of_old hrow, ?_, fun hclaimed => ?_⟩
  · split
    · exact rediscovered_key row excluded
    · rfl
  · have hkept : row.status.isKept := by rw [hclaimed]; rfl
    refine ⟨?_, ((upserted_sent hrow).1).trans (if_neg fun h => h.2 hkept)⟩
    split
    · exact (rediscovered_kept _ hkept).1.trans hclaimed
    · exact hclaimed

theorem books_upsert (hb : Books limit w) (hmax : 0 < maxAttempts) :
    Books limit (upserted w ownerAddress marketSlug conditionId maxAttempts) := by
  let excluded := AutoClaimJob.fresh w.now ownerAddress marketSlug conditionId maxAttempts
  refine ⟨?_, ?_, ?_, countSubmitted_upserted.trans_le hb.inflight⟩
  · change ((Rows.upsert AutoClaimJob.key AutoClaimJob.rediscovered excluded w.jobs).map
      AutoClaimJob.key).Nodup
    rw [Rows.upsert_keys rediscovered_key]
    split
    · exact hb.keys
    · rename_i hnew
      exact List.nodup_append.mpr ⟨hb.keys, List.nodup_singleton _,
        fun a ha b hb heq => hnew (List.mem_singleton.mp hb ▸ heq ▸ ha)⟩
  · intro j row hrow
    cases Rows.getElem?_upsert hrow with
    | inl hold =>
      obtain ⟨old, hold, rfl⟩ := hold
      have hacc := hb.rows j old hold
      rw [(upserted_sent hold).1, (upserted_sent hold).2]
      by_cases hkey : old.key = (ownerAddress, conditionId)
      · rw [if_pos (show old.key = excluded.key from hkey)]
        by_cases hkept : old.status.isKept
        · obtain ⟨hstatus, hattempts, hle⟩ := rediscovered_kept excluded hkept
          rw [if_neg fun h => h.2 hkept, if_neg fun h => h.2 hkept]
          have hlt := hacc.lt_max
          refine ⟨hattempts ▸ hacc.nonneg, hattempts ▸ hacc.le_max.trans hle, ?_, ?_⟩
          · intro h
            exact hattempts ▸ (hlt (hstatus ▸ h)).trans_le hle
          · rw [hattempts, hstatus]
            exact hacc.sent_le
        · obtain ⟨hstatus, hattempts, hle⟩ := rediscovered_queued excluded hkept
          rw [if_pos ⟨hkey, hkept⟩, if_pos ⟨hkey, hkept⟩]
          exact accounted_queued hmax hstatus hattempts hle
      · rw [if_neg (show old.key ≠ excluded.key from hkey), if_neg fun h => hkey h.1,
          if_neg fun h => hkey h.1]
        exact hacc
    | inr hnew =>
      obtain ⟨rfl, rfl, -⟩ := hnew
      have hzero : w.queuedFromScratch ownerAddress conditionId w.jobs.length = true := by
        simp [ClaimWorld.queuedFromScratch]
      simp only [upserted, ClaimWorld.effect, if_pos hzero]
      exact accounted_queued hmax rfl rfl le_rfl
  · intro j hj
    have hlength : w.jobs.length ≤ j := by
      have hprefix := (Rows.upsert_keys_prefix rediscovered_key excluded w.jobs).length_le
      rw [List.length_map, List.length_map] at hprefix
      exact hprefix.trans hj
    obtain ⟨hsent, hrec⟩ := hb.unused j hlength
    simp only [upserted, ClaimWorld.effect, hsent, hrec, ite_self, and_self]

end Upsert

theorem stale_processing {now : Instant} {staleMinutes : ℤ} (h : job.isStale now staleMinutes) :
    job.status = .processing := by
  unfold AutoClaimJob.isStale at h
  simp only [Bool.and_eq_true, decide_eq_true_eq] at h
  exact h.1

theorem recover_submitted (now : Instant) (staleMinutes : ℤ) (job : AutoClaimJob) :
    (if job.isStale now staleMinutes then job.recovered now else job).status = .submitted ↔
      job.status = .submitted := by
  split
  · rename_i hstale
    rw [stale_processing hstale]
    exact iff_of_false (by simp [AutoClaimJob.recovered]) (by decide)
  · exact Iff.rfl

section Recover
variable {staleMinutes : ℤ}

theorem countSubmitted_recover :
    countSubmitted (w.effect (.recoverStaleProcessing staleMinutes)).jobs =
      countSubmitted w.jobs :=
  countSubmitted_map (recover_submitted w.now staleMinutes) w.jobs

theorem recover_row (hjob : w.jobs[id]? = some job) :
    (w.effect (.recoverStaleProcessing staleMinutes)).jobs[id]? =
      some (if job.isStale w.now staleMinutes then job.recovered w.now else job) := by
  simp only [ClaimWorld.effect, recoverStaleProcessing, List.getElem?_map, hjob, Option.map_some]

theorem recover_recoveries (hjob : w.jobs[id]? = some job) :
    (w.effect (.recoverStaleProcessing staleMinutes)).recoveries id =
      if job.isStale w.now staleMinutes then w.recoveries id + 1 else w.recoveries id := by
  simp only [ClaimWorld.effect, hjob, Option.any_some]

theorem later_recover : Later w (w.effect (.recoverStaleProcessing staleMinutes)) := by
  intro j row hrow
  refine ⟨_, recover_row hrow, ?_, fun hclaimed => ⟨?_, rfl⟩⟩
  · split <;> rfl
  · rw [if_neg fun hstale => ?_, hclaimed]
    rw [stale_processing hstale] at hclaimed
    cases hclaimed

theorem books_recover (hb : Books limit w) :
    Books limit (w.effect (.recoverStaleProcessing staleMinutes)) := by
  refine ⟨?_, ?_, ?_, countSubmitted_recover.trans_le hb.inflight⟩
  · have hkeys : (w.effect (.recoverStaleProcessing staleMinutes)).jobs.map AutoClaimJob.key =
        w.jobs.map AutoClaimJob.key := by
      simp only [ClaimWorld.effect, recoverStaleProcessing, List.map_map]
      refine List.map_congr_left fun job _ => ?_
      simp only [Function.comp_apply]
      split <;> rfl
    exact hkeys ▸ hb.keys
  · intro j row hrow
    cases hold : w.jobs[j]? with
    | none => simp [ClaimWorld.effect, recoverStaleProcessing, hold] at hrow
    | some old =>
      have hacc := hb.rows j old hold
      obtain rfl := Option.some.inj ((recover_row hold).symm.trans hrow)
      rw [recover_recoveries hold]
      by_cases hstale : old.isStale w.now staleMinutes
      · rw [if_pos hstale, if_pos hstale]
        have hstatus := stale_processing hstale
        have hsent := hacc.sent_le
        have hout : old.status.unbooked = 1 := by rw [hstatus]; rfl
        have hin : ClaimJobStatus.retry.unbooked = 0 := rfl
        have hlt := hacc.lt_max (by rw [hstatus]; decide)
        refine ⟨hacc.nonneg, hacc.le_max, fun _ => hlt, ?_⟩
        change (w.sent j : ℤ) ≤ old.attempts + (w.recoveries j + 1 : ℕ) +
          ClaimJobStatus.retry.unbooked
        push_cast
        omega
      · rw [if_neg hstale, if_neg hstale]
        exact hacc
  · intro j hj
    have hlength : w.jobs.length ≤ j := by
      simpa [ClaimWorld.effect, recoverStaleProcessing] using hj
    obtain ⟨hsent, hrec⟩ := hb.unused j hlength
    refine ⟨hsent, ?_⟩
    simp only [ClaimWorld.effect, List.getElem?_eq_none hlength, Option.any_none, hrec]
    rfl

end Recover

end Steps

end PolymarketBot.AutoClaim
