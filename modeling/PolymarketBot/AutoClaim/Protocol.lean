import PolymarketBot.AutoClaim.Service

/-! What a tick of the auto-claim service has learnt about the rows, and the calls it makes on
the strength of it. -/

namespace PolymarketBot.AutoClaim
open PolymarketBot.Flow Lib Prog

/-- The free slots a tick has counted, the rows it has listed, those it has marked, those of
them it has sent a redeem for, and the submitted rows it has listed. -/
structure ClaimView where
  slots : ℕ := 0
  ready : List ℕ := []
  processing : List ℕ := []
  sent : List ℕ := []
  submitted : List ℕ := []

namespace ClaimView
variable (v : ClaimView)

def without (id : ℕ) : ClaimView where
  slots := v.slots
  ready := v.ready.filter (· ≠ id)
  processing := v.processing.filter (· ≠ id)
  sent := v.sent.filter (· ≠ id)
  submitted := v.submitted.filter (· ≠ id)

def marked (id : ℕ) : ClaimView :=
  { v.without id with processing := id :: (v.without id).processing }

def redeemed (ids : List ℕ) : ClaimView :=
  { v with
    processing := v.processing.filter (· ∉ ids)
    sent := v.processing.filter (· ∈ ids) ++ v.sent }

/-- What is known in `v` of the rows outside `ids` is still known in `v'`. -/
structure Beside (ids : List ℕ) (v v' : ClaimView) : Prop where
  ready : ∀ j ∉ ids, j ∈ v.ready → j ∈ v'.ready
  processing : ∀ j ∉ ids, j ∈ v.processing → j ∈ v'.processing
  sent : ∀ j ∉ ids, j ∈ v.sent → j ∈ v'.sent
  submitted : ∀ j ∉ ids, j ∈ v.submitted → j ∈ v'.submitted

namespace Beside
variable {v} {v' v'' : ClaimView} {ids ids' : List ℕ}

theorem refl (ids : List ℕ) (v : ClaimView) : Beside ids v v :=
  ⟨fun _ _ h => h, fun _ _ h => h, fun _ _ h => h, fun _ _ h => h⟩

theorem trans (h : Beside ids v v') (h' : Beside ids v' v'') : Beside ids v v'' := by
  constructor
  · exact fun j hj hmem => h'.ready j hj (h.ready j hj hmem)
  · exact fun j hj hmem => h'.processing j hj (h.processing j hj hmem)
  · exact fun j hj hmem => h'.sent j hj (h.sent j hj hmem)
  · exact fun j hj hmem => h'.submitted j hj (h.submitted j hj hmem)

theorem mono (hids : ∀ j ∈ ids, j ∈ ids') (h : Beside ids v v') : Beside ids' v v' := by
  constructor
  · exact fun j hj => h.ready j fun hmem => hj (hids j hmem)
  · exact fun j hj => h.processing j fun hmem => hj (hids j hmem)
  · exact fun j hj => h.sent j fun hmem => hj (hids j hmem)
  · exact fun j hj => h.submitted j fun hmem => hj (hids j hmem)

end Beside

theorem beside_without (id : ℕ) : Beside [id] v (v.without id) := by
  constructor <;>
  · intro j hj hmem
    exact List.mem_filter.mpr ⟨hmem, by simpa using hj⟩

theorem beside_marked (id : ℕ) : Beside [id] v (v.marked id) := by
  have h := v.beside_without id
  exact ⟨h.ready, fun j hj hmem => List.mem_cons_of_mem id (h.processing j hj hmem), h.sent,
    h.submitted⟩

theorem beside_redeemed (ids : List ℕ) : Beside ids v (v.redeemed ids) := by
  refine ⟨fun _ _ h => h, fun j hj hmem => ?_, fun j _ hmem => ?_, fun _ _ h => h⟩
  · exact List.mem_filter.mpr ⟨hmem, by simpa using hj⟩
  · exact List.mem_append_right _ hmem

/-- What the view knows after a call; `none` where no world gives the answer. -/
def next (limit : ℕ) : (c : ClaimCall) → Except String (ClaimAnswer c) → Option ClaimView
  | .countSubmitted, .ok n => some { slots := limit - n }
  | .listForReceiptCheck _, .ok rows =>
    if (rows.map Prod.fst).Nodup then some { submitted := rows.map Prod.fst } else none
  | .listForProcessing most, .ok rows =>
    if (rows.map Prod.fst).Nodup ∧ rows.length ≤ most then some { ready := rows.map Prod.fst }
    else none
  | .markProcessing id, .ok _ => some (v.marked id)
  | .markProcessing id, .error _ => some (v.without id)
  | .sendRedeem ids, _ => some (v.redeemed ids)
  | .postRedeem id, _ => some (v.redeemed [id])
  | .markSubmitted id _, _ => some (v.without id)
  | .markRetryOrFail id _, _ => some (v.without id)
  | .markFailed id, _ => some (v.without id)
  | .markReceiptConfirmed id, _ => some (v.without id)
  | .recoverStaleProcessing _, _ => some {}
  | .upsertJob _ _ _ _, _ => some {}
  | _, _ => some v

/-- Rows are marked when they are listed, redeemed once when they are marked, and settled when
they are marked, redeemed or listed as submitted. -/
def allows : ClaimCall → Prop
  | .listForProcessing most => most ≤ v.slots
  | .markProcessing id => id ∈ v.ready
  | .sendRedeem ids => ∀ id ∈ ids, id ∈ v.processing
  | .postRedeem id => id ∈ v.processing
  | .markSubmitted id _ => id ∈ v.sent
  | .markRetryOrFail id _ => id ∈ v.processing ∨ id ∈ v.sent ∨ id ∈ v.submitted
  | .markFailed id => id ∈ v.processing ∨ id ∈ v.sent
  | .markReceiptConfirmed id => id ∈ v.submitted
  | .upsertJob _ _ _ maxAttempts => 0 < maxAttempts
  | _ => True

end ClaimView

/-- The protocol of a tick, where at most `limit` rows may be submitted at a time. -/
def claimProtocol (limit : ℕ) : Protocol ClaimCall ClaimAnswer String (Option ClaimView) where
  next s c x := s.bind fun v => v.next limit c x
  allows s c := ∀ v, s = some v → v.allows c

section Obeys
variable {limit : ℕ} {service : AutoClaimService} {v : ClaimView} {id : ℕ}

/-- Calls that tell a tick nothing of the rows and are always allowed. -/
def ClaimCall.isSilent : ClaimCall → Bool
  | now | readTimers _ | setTimers _ _ | fetchRedeemablePositions _ _ | transactionReceipt _
  | activateFunds _ | gasPrice | simulateRedeem _ | appendEvent _ _ => true
  | _ => false

theorem next_silent {c : ClaimCall} (hc : c.isSilent) (x : Except String (ClaimAnswer c)) :
    v.next limit c x = some v := by
  cases c <;> first | contradiction | rfl

theorem allows_silent {c : ClaimCall} (hc : c.isSilent) : v.allows c := by
  cases c <;> first | contradiction | trivial

theorem silent_obeys {α : Type} {p : Claim α} (hp : Only (·.isSilent) p) :
    p.Obeys (claimProtocol limit) (fun _ s => s = some v) (some v) := by
  refine obeys_of_only (C := (·.isSilent)) ?_ ?_ hp rfl
  · intro s c hs hc v' hv'
    exact allows_silent hc
  · intro s c x hs hc
    subst hs
    exact next_silent hc x

theorem obeys_silent {β : Type} {c : ClaimCall} {f : ClaimAnswer c → Claim β}
    {Q : Except String β → Option ClaimView → Prop} (hc : c.isSilent)
    (hf : ∀ a, (f a).Obeys (claimProtocol limit) Q (some v))
    (he : ∀ e, Q (.error e) (some v)) :
    (ask c >>= f).Obeys (claimProtocol limit) Q (some v) := by
  have hnext : ∀ x, (claimProtocol limit).next (some v) c x = some v := next_silent hc
  refine obeys_perform (fun v' hv' => Option.some.inj hv' ▸ allows_silent hc) ?_ ?_
  · intro a
    rw [hnext]
    exact hf a
  · intro e
    rw [hnext]
    exact he e

theorem obeys_attempt_silent {β : Type} {c : ClaimCall}
    {f : Except String (ClaimAnswer c) → Claim β}
    {Q : Except String β → Option ClaimView → Prop} (hc : c.isSilent)
    (hf : ∀ x, (f x).Obeys (claimProtocol limit) Q (some v)) :
    (attempt (ask c) >>= f).Obeys (claimProtocol limit) Q (some v) := by
  refine obeys_attempt_perform (fun v' hv' => Option.some.inj hv' ▸ allows_silent hc) fun x => ?_
  have hnext : (claimProtocol limit).next (some v) c x = some v := next_silent hc x
  rw [hnext]
  exact hf x

/-! ### Submissions -/

/-- Where a submission leaves its rows: a hash is for rows that are sent, a failure for rows
that may be. -/
def Submitted (v : ClaimView) (ids : List ℕ) (x : Except String Submission) (s : Option ClaimView) :
    Prop :=
  ∃ v', s = some v' ∧ v.Beside ids v' ∧ (∀ id ∈ ids, id ∈ v'.processing ∨ id ∈ v'.sent) ∧
    ∀ txHash, x = .ok (.ok txHash) → ∀ id ∈ ids, id ∈ v'.sent

theorem submitted_refused {ids : List ℕ} (hids : ∀ id ∈ ids, id ∈ v.processing)
    (err : ClaimSubmitFailure) : Submitted v ids (.ok (.error err)) (some v) :=
  ⟨v, rfl, .refl ids v, fun id hid => .inl (hids id hid), fun _ h => nomatch h⟩

theorem submitted_sent {ids : List ℕ} (hids : ∀ id ∈ ids, id ∈ v.processing)
    (x : Except String Submission) : Submitted v ids x (some (v.redeemed ids)) := by
  have hsent : ∀ id ∈ ids, id ∈ (v.redeemed ids).sent := by
    intro id hid
    exact List.mem_append_left _ (List.mem_filter.mpr ⟨hids id hid, decide_eq_true hid⟩)
  exact ⟨v.redeemed ids, rfl, v.beside_redeemed ids, fun id hid => .inr (hsent id hid),
    fun _ _ => hsent⟩

theorem redeem_obeys {ids : List ℕ} {c : ClaimCall} (hids : ∀ id ∈ ids, id ∈ v.processing)
    (hallows : v.allows c) (hnext : ∀ x, v.next limit c x = some (v.redeemed ids))
    {f : Except String (ClaimAnswer c) → Claim Submission} (hf : ∀ x, ∃ y, f x = pure y) :
    (attempt (ask c) >>= f).Obeys (claimProtocol limit) (Submitted v ids) (some v) := by
  refine obeys_attempt_perform (fun v' hv' => Option.some.inj hv' ▸ hallows) fun x => ?_
  have hview : (claimProtocol limit).next (some v) c x = some (v.redeemed ids) := hnext x
  obtain ⟨y, hy⟩ := hf x
  rw [hy, hview]
  exact submitted_sent hids (.ok y)

theorem sendRedeem_obeys {ids : List ℕ} (hids : ∀ id ∈ ids, id ∈ v.processing)
    {f : Except String String → Claim Submission} (hf : ∀ x, ∃ y, f x = pure y) :
    (attempt (ask (.sendRedeem ids)) >>= f).Obeys (claimProtocol limit) (Submitted v ids)
      (some v) :=
  redeem_obeys (c := .sendRedeem ids) hids hids (fun _ => rfl) hf

theorem submitRedeemTxDirect_obeys (job : AutoClaimJob) (hid : ∀ j ∈ [id], j ∈ v.processing) :
    (submitRedeemTxDirect id job).Obeys (claimProtocol limit) (Submitted v [id]) (some v) := by
  unfold submitRedeemTxDirect
  cases parseConditionId job.conditionId with
  | none => exact submitted_refused hid _
  | some digits =>
    refine obeys_attempt_silent rfl fun x => ?_
    cases x with
    | error err => exact submitted_refused hid _
    | ok gas =>
      refine sendRedeem_obeys hid fun x => ?_
      cases x <;> exact ⟨_, rfl⟩

theorem submitRedeemTxViaSafe_obeys (job : AutoClaimJob) (hid : ∀ j ∈ [id], j ∈ v.processing) :
    (submitRedeemTxViaSafe service id job).Obeys (claimProtocol limit) (Submitted v [id])
      (some v) := by
  unfold submitRedeemTxViaSafe
  cases normalizeAddress service.signerAddress with
  | none => exact submitted_refused hid _
  | some signer =>
    cases parseConditionId job.conditionId with
    | none => exact submitted_refused hid _
    | some digits =>
      refine obeys_attempt_silent rfl fun x => ?_
      cases x with
      | error err => exact submitted_refused hid _
      | ok simulated =>
        cases simulated with
        | false => exact submitted_refused hid _
        | true =>
          refine obeys_attempt_silent rfl fun x => ?_
          cases x with
          | error err => exact submitted_refused hid _
          | ok gas =>
            refine sendRedeem_obeys hid fun x => ?_
            cases x <;> exact ⟨_, rfl⟩

theorem requestRedeem_obeys (job : AutoClaimJob) (hid : ∀ j ∈ [id], j ∈ v.processing) :
    (requestRedeem id job).Obeys (claimProtocol limit) (Submitted v [id]) (some v) := by
  unfold requestRedeem
  cases normalizeConditionId job.conditionId with
  | none => exact submitted_refused hid _
  | some digits =>
    refine redeem_obeys (c := .postRedeem id) hid (hid id List.mem_cons_self) (fun _ => rfl) ?_
    intro x
    cases x with
    | error err => exact ⟨_, rfl⟩
    | ok submission => exact ⟨submission, rfl⟩

theorem submitRedeemTxViaRelayer_obeys (job : AutoClaimJob)
    (hid : ∀ j ∈ [id], j ∈ v.processing) :
    (submitRedeemTxViaRelayer service id job).Obeys (claimProtocol limit) (Submitted v [id])
      (some v) := by
  unfold submitRedeemTxViaRelayer
  cases service.safeAddress with
  | none => exact submitted_refused hid _
  | some safe =>
    by_cases hsafe : eqIgnoreAsciiCase safe job.ownerAddress
    · simp only [if_pos hsafe]
      exact requestRedeem_obeys job hid
    · simp only [if_neg hsafe]
      exact submitted_refused hid _

theorem submitRedeemTx_obeys (job : AutoClaimJob) (hid : id ∈ v.processing) :
    (submitRedeemTx service id job).Obeys (claimProtocol limit) (Submitted v [id]) (some v) := by
  have hids : ∀ j ∈ [id], j ∈ v.processing := fun j hj => List.mem_singleton.mp hj ▸ hid
  unfold submitRedeemTx
  by_cases hrelayer : service.executionMode.isRelayer
  · rw [if_pos hrelayer]
    exact submitRedeemTxViaRelayer_obeys job hids
  · rw [if_neg hrelayer]
    by_cases hsafe : isSafeOwnerAddress service job.ownerAddress
    · rw [if_pos hsafe]
      exact submitRedeemTxViaSafe_obeys job hids
    · rw [if_neg hsafe]
      exact submitRedeemTxDirect_obeys job hids

theorem submitBatchRedeemViaSafe_obeys {jobs : List (ℕ × AutoClaimJob)}
    (hids : ∀ j ∈ jobs.map Prod.fst, j ∈ v.processing) :
    (submitBatchRedeemViaSafe service jobs).Obeys (claimProtocol limit)
      (Submitted v (jobs.map Prod.fst)) (some v) := by
  unfold submitBatchRedeemViaSafe
  split
  · exact submitted_refused hids _
  · cases normalizeAddress service.signerAddress with
    | none => exact submitted_refused hids _
    | some signer =>
      cases jobs.find? fun c => (parseConditionId c.2.conditionId).isNone with
      | some bad => exact submitted_refused hids _
      | none =>
        refine obeys_attempt_silent rfl fun x => ?_
        cases x with
        | error err => exact submitted_refused hids _
        | ok simulated =>
          cases simulated with
          | false => exact submitted_refused hids _
          | true =>
            refine sendRedeem_obeys hids fun x => ?_
            cases x <;> exact ⟨_, rfl⟩

/-! ### Rows, one after another -/

/-- What is known of the rows outside `ids` is still known in the end. -/
def Besides (v : ClaimView) (ids : List ℕ) (s : Option ClaimView) : Prop :=
  ∃ v', s = some v' ∧ v.Beside ids v'

theorem obeys_ask {β : Type} {c : ClaimCall} {v' : ClaimView} {f : ClaimAnswer c → Claim β}
    {Q : Except String β → Option ClaimView → Prop} (hc : v.allows c)
    (hnext : ∀ x, v.next limit c x = some v')
    (hf : ∀ a, (f a).Obeys (claimProtocol limit) Q (some v')) (he : ∀ e, Q (.error e) (some v')) :
    (ask c >>= f).Obeys (claimProtocol limit) Q (some v) := by
  have hview : ∀ x, (claimProtocol limit).next (some v) c x = some v' := hnext
  refine obeys_perform (fun u hu => Option.some.inj hu ▸ hc) ?_ ?_
  · intro a
    rw [hview]
    exact hf a
  · intro e
    rw [hview]
    exact he e

theorem bookFailure_obeys (err : ClaimSubmitFailure) (hid : id ∈ v.processing ∨ id ∈ v.sent) :
    (bookFailure service id err).Obeys (claimProtocol limit)
      (fun _ s => s = some (v.without id)) (some v) := by
  have hallowed : id ∈ v.processing ∨ id ∈ v.sent ∨ id ∈ v.submitted :=
    hid.imp_right Or.inl
  unfold bookFailure
  by_cases hretryable : err.retryable
  · rw [if_pos hretryable]
    exact obeys_ask (c := .markRetryOrFail id _) hallowed (fun _ => rfl) (fun _ => rfl)
      fun _ => rfl
  · rw [if_neg hretryable]
    exact obeys_ask (c := .markFailed id) hid (fun _ => rfl) (fun _ => rfl) fun _ => rfl

theorem processSingleJob_obeys (job : AutoClaimJob) (hid : id ∈ v.ready) :
    (processSingleJob service id job).Obeys (claimProtocol limit) (fun _ s => Besides v [id] s)
      (some v) := by
  have hmarked : v.Beside [id] (v.marked id) := v.beside_marked id
  refine obeys_perform (fun u hu => Option.some.inj hu ▸ hid) (fun _ => ?_)
    fun _ => ⟨_, rfl, v.beside_without id⟩
  refine obeys_silent (v := v.marked id) rfl (fun _ => ?_) fun _ => ⟨_, rfl, hmarked⟩
  refine obeys_bind (submitRedeemTx_obeys job List.mem_cons_self) ?_ ?_
  · intro submission s hsubmitted
    obtain ⟨v', rfl, hbeside, hheld, hsent⟩ := hsubmitted
    have hv' : v.Beside [id] v' := hmarked.trans hbeside
    have hdone : v.Beside [id] (v'.without id) := hv'.trans (v'.beside_without id)
    cases submission with
    | ok txHash =>
      have hid' : id ∈ v'.sent := hsent txHash rfl id List.mem_cons_self
      refine obeys_ask (c := .markSubmitted id txHash) hid' (fun _ => rfl) (fun _ => ?_)
        fun _ => ⟨_, rfl, hdone⟩
      exact obeys_silent rfl (fun _ => ⟨_, rfl, hdone⟩) fun _ => ⟨_, rfl, hdone⟩
    | error err =>
      refine obeys_bind (bookFailure_obeys err (hheld id List.mem_cons_self)) ?_ ?_
      · intro event s hs
        subst hs
        exact obeys_silent rfl (fun _ => ⟨_, rfl, hdone⟩) fun _ => ⟨_, rfl, hdone⟩
      · intro e s hs
        exact ⟨_, hs, hdone⟩
  · intro e s hsubmitted
    obtain ⟨v', hs, hbeside, -, -⟩ := hsubmitted
    exact ⟨v', hs, hmarked.trans hbeside⟩

theorem rows_obeys {α : Type} {key : α → ℕ} {R : ClaimView → ℕ → Prop}
    (hkeep : ∀ v v' id j, ClaimView.Beside [id] v v' → j ∉ [id] → R v j → R v' j)
    {f : α → Claim Unit}
    (hf : ∀ v a, R v (key a) → (f a).Obeys (claimProtocol limit) (fun _ s => Besides v [key a] s)
      (some v))
    {rows : List α} (hnd : (rows.map key).Nodup) (hrows : ∀ j ∈ rows.map key, R v j) :
    (rows.forM f).Obeys (claimProtocol limit) (fun _ s => Besides v (rows.map key) s)
      (some v) := by
  induction rows generalizing v with
  | nil => exact ⟨v, rfl, .refl [] v⟩
  | cons a rest ih =>
    obtain ⟨hfresh, hnd⟩ := List.nodup_cons.mp hnd
    have hhead : ∀ j ∈ [key a], j ∈ (a :: rest).map key :=
      fun j hj => List.mem_singleton.mp hj ▸ List.mem_cons_self
    refine obeys_bind (hf v a (hrows _ List.mem_cons_self)) ?_ ?_
    · intro u s hs
      obtain ⟨v', rfl, hbeside⟩ := hs
      have hrest : ∀ j ∈ rest.map key, R v' j := by
        intro j hj
        have hne : j ∉ [key a] := fun h => hfresh (List.mem_singleton.mp h ▸ hj)
        exact hkeep v v' (key a) j hbeside hne (hrows j (List.mem_cons_of_mem _ hj))
      refine obeys_mono (ih hnd hrest) ?_
      intro x s hs
      obtain ⟨v'', hs, hbeside'⟩ := hs
      have hlater := hbeside'.mono fun j hj => List.mem_cons_of_mem (key a) hj
      exact ⟨v'', hs, (hbeside.mono hhead).trans hlater⟩
    · intro e s hs
      obtain ⟨v', hs, hbeside⟩ := hs
      exact ⟨v', hs, hbeside.mono hhead⟩

theorem scheduleRateLimitCooldown_silent :
    Only (·.isSilent) (scheduleRateLimitCooldown service) := by
  unfold scheduleRateLimitCooldown
  refine .bind (by simp [ClaimCall.isSilent]) fun timers => ?_
  exact .bind (by simp [ClaimCall.isSilent]) fun now => by simp [ClaimCall.isSilent]

theorem processSingleJobs_obeys {jobs : List (ℕ × AutoClaimJob)}
    (hnd : (jobs.map Prod.fst).Nodup) (hready : ∀ j ∈ jobs.map Prod.fst, j ∈ v.ready) :
    (processSingleJobs service jobs).Obeys (claimProtocol limit)
      (fun _ s => Besides v (jobs.map Prod.fst) s) (some v) := by
  induction jobs generalizing v with
  | nil => exact ⟨v, rfl, .refl [] v⟩
  | cons c rest ih =>
    obtain ⟨hfresh, hnd⟩ := List.nodup_cons.mp hnd
    have hhead : ∀ j ∈ [c.1], j ∈ (c :: rest).map Prod.fst :=
      fun j hj => List.mem_singleton.mp hj ▸ List.mem_cons_self
    refine obeys_bind (processSingleJob_obeys c.2 (hready _ List.mem_cons_self)) ?_ ?_
    · intro rateLimited s hs
      obtain ⟨v', rfl, hbeside⟩ := hs
      have hfirst := hbeside.mono hhead
      cases rateLimited with
      | true =>
        refine obeys_bind (silent_obeys scheduleRateLimitCooldown_silent) ?_ ?_
        · intro u s hs
          exact ⟨v', hs, hfirst⟩
        · intro e s hs
          exact ⟨v', hs, hfirst⟩
      | false =>
        have hrest : ∀ j ∈ rest.map Prod.fst, j ∈ v'.ready := by
          intro j hj
          have hne : j ∉ [c.1] := fun h => hfresh (List.mem_singleton.mp h ▸ hj)
          exact hbeside.ready j hne (hready j (List.mem_cons_of_mem _ hj))
        refine obeys_mono (ih hnd hrest) ?_
        intro x s hs
        obtain ⟨v'', hs, hbeside'⟩ := hs
        exact ⟨v'', hs, hfirst.trans (hbeside'.mono fun j hj => List.mem_cons_of_mem c.1 hj)⟩
    · intro e s hs
      obtain ⟨v', hs, hbeside⟩ := hs
      exact ⟨v', hs, hbeside.mono hhead⟩

/-! ### Batches -/

theorem startProcessing_obeys {ids : List ℕ} (hnd : ids.Nodup) (hready : ∀ j ∈ ids, j ∈ v.ready) :
    (ids.forM startProcessing).Obeys (claimProtocol limit)
      (fun x s => ∃ v', s = some v' ∧ v.Beside ids v' ∧ (x = .ok () → ∀ j ∈ ids, j ∈ v'.processing))
      (some v) := by
  induction ids generalizing v with
  | nil => exact ⟨v, rfl, .refl [] v, fun _ j hj => absurd hj List.not_mem_nil⟩
  | cons id rest ih =>
    obtain ⟨hfresh, hnd⟩ := List.nodup_cons.mp hnd
    have hhead : ∀ j ∈ [id], j ∈ id :: rest :=
      fun j hj => List.mem_singleton.mp hj ▸ List.mem_cons_self
    have hmarked : v.Beside [id] (v.marked id) := v.beside_marked id
    have hstart : (startProcessing id).Obeys (claimProtocol limit)
        (fun x s => ∃ v', s = some v' ∧ v.Beside [id] v' ∧ (x = .ok () → id ∈ v'.processing))
        (some v) := by
      refine obeys_perform (fun u hu => Option.some.inj hu ▸ hready id List.mem_cons_self)
        (fun _ => ?_) fun _ => ⟨_, rfl, v.beside_without id, fun h => nomatch h⟩
      refine obeys_mono (silent_obeys (v := v.marked id) (by simp [ClaimCall.isSilent])) ?_
      exact fun x s hs => ⟨_, hs, hmarked, fun _ => List.mem_cons_self⟩
    refine obeys_bind hstart ?_ ?_
    · intro u s hs
      obtain ⟨v', rfl, hbeside, hid⟩ := hs
      have hne : ∀ j ∈ rest, j ∉ [id] :=
        fun j hj h => hfresh (List.mem_singleton.mp h ▸ hj)
      refine obeys_mono (ih hnd fun j hj =>
        hbeside.ready j (hne j hj) (hready j (List.mem_cons_of_mem id hj))) ?_
      intro x s hs
      obtain ⟨v'', hs, hbeside', hrest⟩ := hs
      refine ⟨v'', hs, (hbeside.mono hhead).trans (hbeside'.mono fun j hj =>
        List.mem_cons_of_mem id hj), fun hx j hj => ?_⟩
      cases hj with
      | head => exact hbeside'.processing id hfresh (hid rfl)
      | tail _ hj => exact hrest hx j hj
    · intro e s hs
      obtain ⟨v', hs, hbeside, -⟩ := hs
      exact ⟨v', hs, hbeside.mono hhead, fun h => nomatch h⟩

theorem batchSubmitted_obeys (txHash : String) {ids : List ℕ} (hnd : ids.Nodup)
    (hsent : ∀ j ∈ ids, j ∈ v.sent) :
    (ids.forM (batchSubmitted txHash)).Obeys (claimProtocol limit) (fun _ s => Besides v ids s)
      (some v) := by
  rw [← List.map_id ids] at hnd hsent
  suffices h : (ids.forM (batchSubmitted txHash)).Obeys (claimProtocol limit)
      (fun _ s => Besides v (ids.map id) s) (some v) by simpa using h
  refine rows_obeys (R := fun v j => j ∈ v.sent) (fun _ _ _ j h hj => h.sent j hj) ?_ hnd hsent
  · intro v j hj
    have hdone : v.Beside [j] (v.without j) := v.beside_without j
    refine obeys_ask (c := .markSubmitted j txHash) hj (fun _ => rfl) (fun _ => ?_)
      fun _ => ⟨_, rfl, hdone⟩
    refine obeys_mono (silent_obeys (by simp [ClaimCall.isSilent])) ?_
    exact fun x s hs => ⟨_, hs, hdone⟩

theorem batchFailed_obeys (err : ClaimSubmitFailure) {ids : List ℕ} (hnd : ids.Nodup)
    (hheld : ∀ j ∈ ids, j ∈ v.processing ∨ j ∈ v.sent) :
    (ids.forM (batchFailed service err)).Obeys (claimProtocol limit)
      (fun _ s => Besides v ids s) (some v) := by
  rw [← List.map_id ids] at hnd hheld
  suffices h : (ids.forM (batchFailed service err)).Obeys (claimProtocol limit)
      (fun _ s => Besides v (ids.map id) s) (some v) by simpa using h
  refine rows_obeys (R := fun v j => j ∈ v.processing ∨ j ∈ v.sent)
    (fun _ _ _ j h hj => Or.imp (h.processing j hj) (h.sent j hj)) ?_ hnd hheld
  · intro v j hj
    have hdone : v.Beside [j] (v.without j) := v.beside_without j
    refine obeys_bind (bookFailure_obeys err hj) ?_ ?_
    · intro event s hs
      subst hs
      refine obeys_mono (silent_obeys (by simp [ClaimCall.isSilent])) ?_
      exact fun x s hs => ⟨_, hs, hdone⟩
    · intro e s hs
      exact ⟨_, hs, hdone⟩

theorem processBatchSafeJobs_obeys {jobs : List (ℕ × AutoClaimJob)}
    (hnd : (jobs.map Prod.fst).Nodup) (hready : ∀ j ∈ jobs.map Prod.fst, j ∈ v.ready) :
    (processBatchSafeJobs service jobs).Obeys (claimProtocol limit)
      (fun _ s => Besides v (jobs.map Prod.fst) s) (some v) := by
  let ids := (jobs.take batchMaxConditions).map Prod.fst
  have hsub : ids.Sublist (jobs.map Prod.fst) := (List.take_sublist _ jobs).map Prod.fst
  have hall : ∀ {v' : ClaimView}, v.Beside ids v' → v.Beside (jobs.map Prod.fst) v' :=
    fun h => h.mono fun j hj => hsub.subset hj
  refine obeys_bind (startProcessing_obeys (hnd.sublist hsub)
    fun j hj => hready j (hsub.subset hj)) ?_ ?_
  · intro u s hs
    obtain ⟨v', rfl, hbeside, hprocessing⟩ := hs
    refine obeys_silent rfl (fun _ => ?_) fun _ => ⟨v', rfl, hall hbeside⟩
    refine obeys_bind (submitBatchRedeemViaSafe_obeys (hprocessing rfl)) ?_ ?_
    · intro submission s hsubmitted
      obtain ⟨v'', rfl, hbeside', hheld, hsent⟩ := hsubmitted
      have hdone : ∀ s, Besides v'' ids s → Besides v (jobs.map Prod.fst) s := by
        intro s hs
        obtain ⟨v₃, hs, hlast⟩ := hs
        exact ⟨v₃, hs, hall ((hbeside.trans hbeside').trans hlast)⟩
      cases submission with
      | ok txHash =>
        exact obeys_mono (batchSubmitted_obeys txHash (hnd.sublist hsub) (hsent txHash rfl))
          fun _ s => hdone s
      | error err =>
        exact obeys_mono (batchFailed_obeys err (hnd.sublist hsub) hheld) fun _ s => hdone s
    · intro e s hsubmitted
      obtain ⟨v'', hs, hbeside', -, -⟩ := hsubmitted
      exact ⟨v'', hs, hall (hbeside.trans hbeside')⟩
  · intro e s hs
    obtain ⟨v', hs, hbeside, -⟩ := hs
    exact ⟨v', hs, hall hbeside⟩

/-! ### A whole tick -/

theorem impossible_obeys {α : Type} (p : Claim α) :
    p.Obeys (claimProtocol limit) (fun _ s => s = none) none := by
  induction p with
  | done a => rfl
  | fail e => rfl
  | call c k ih =>
    refine ⟨fun v h => ?_, ih⟩
    cases h

theorem processListedJobs_obeys {jobs : List (ℕ × AutoClaimJob)}
    (hnd : (jobs.map Prod.fst).Nodup) (hready : ∀ j ∈ jobs.map Prod.fst, j ∈ v.ready) :
    (processListedJobs service jobs).Obeys (claimProtocol limit) (fun _ _ => True) (some v) := by
  let safe : ℕ × AutoClaimJob → Bool := fun c => isSafeOwnerAddress service c.2.ownerAddress
  unfold processListedJobs
  by_cases hrelayer : service.executionMode.isRelayer
  · rw [if_pos hrelayer]
    refine obeys_bind (processSingleJobs_obeys hnd hready) ?_ fun _ _ _ => trivial
    exact fun _ _ _ => trivial
  · rw [if_neg hrelayer]
    have hpart : partitionSafeJobs service jobs = (jobs.filter safe, jobs.filter (!safe ·)) :=
      List.partition_eq_filter_filter
    have hids (p : ℕ × AutoClaimJob → Bool) :
        ((jobs.filter p).map Prod.fst).Sublist (jobs.map Prod.fst) :=
      List.filter_sublist.map Prod.fst
    have hsafe := hids safe
    have hothers := hids fun c => !safe c
    have hapart : ∀ j ∈ (jobs.filter fun c => !safe c).map Prod.fst,
        j ∉ (jobs.filter safe).map Prod.fst := by
      intro j hj hj'
      obtain ⟨c, hc, rfl⟩ := List.mem_map.mp hj
      obtain ⟨c', hc', hsame⟩ := List.mem_map.mp hj'
      have hmem := List.mem_filter.mp hc
      have hmem' := List.mem_filter.mp hc'
      have heq : c' = c := List.inj_on_of_nodup_map hnd hmem'.1 hmem.1 hsame
      subst heq
      simp [hmem'.2] at hmem
    have hrest : ∀ s, Besides v ((jobs.filter safe).map Prod.fst) s →
        (do let _ ← processSingleJobs service (jobs.filter fun c => !safe c)).Obeys
          (claimProtocol limit) (fun _ _ => True) s := by
      intro s hs
      obtain ⟨v', rfl, hbeside⟩ := hs
      refine obeys_bind (processSingleJobs_obeys (hnd.sublist hothers) fun j hj =>
        hbeside.ready j (hapart j hj) (hready j (hothers.subset hj))) ?_ fun _ _ _ => trivial
      exact fun _ _ _ => trivial
    rw [hpart]
    have hready' : ∀ j ∈ (jobs.filter safe).map Prod.fst, j ∈ v.ready :=
      fun j hj => hready j (hsafe.subset hj)
    by_cases hbatch : 2 ≤ (jobs.filter safe).length
    · simp only [if_pos hbatch]
      exact obeys_bind (processBatchSafeJobs_obeys (hnd.sublist hsafe) hready')
        (fun _ s hs => hrest s hs) fun _ _ _ => trivial
    · simp only [if_neg hbatch]
      refine obeys_bind (processSingleJobs_obeys (hnd.sublist hsafe) hready') ?_
        fun _ _ _ => trivial
      intro rateLimited s hs
      cases rateLimited with
      | true => trivial
      | false => exact hrest s hs

theorem processPendingJobs_obeys {slots : ℕ} (hslots : max slots 1 ≤ v.slots) :
    (processPendingJobs service slots).Obeys (claimProtocol limit) (fun _ _ => True) (some v) := by
  refine obeys_perform (fun u hu => Option.some.inj hu ▸ hslots) (fun rows => ?_)
    fun _ => trivial
  change (processListedJobs service rows).Obeys (claimProtocol limit) _
    (if (rows.map Prod.fst).Nodup ∧ rows.length ≤ max slots 1 then
      some { ready := rows.map Prod.fst } else none)
  by_cases hrows : (rows.map Prod.fst).Nodup ∧ rows.length ≤ max slots 1
  · rw [if_pos hrows]
    exact processListedJobs_obeys hrows.1 fun j hj => hj
  · rw [if_neg hrows]
    exact obeys_mono (impossible_obeys _) fun _ _ _ => trivial

theorem maybeActivateFunds_silent (job : AutoClaimJob) :
    Only (·.isSilent) (maybeActivateFundsAfterClaim service id job) := by
  unfold maybeActivateFundsAfterClaim
  split
  · refine .bind (.attempt (by simp [ClaimCall.isSilent])) fun x => ?_
    cases x <;> simp [ClaimCall.isSilent]
  · exact only_pure ()

theorem handleSubmittedJobFailure_obeys (event : ClaimEventType) (hid : id ∈ v.submitted) :
    (handleSubmittedJobFailure service id event).Obeys (claimProtocol limit)
      (fun _ s => Besides v [id] s) (some v) := by
  have hdone : v.Beside [id] (v.without id) := v.beside_without id
  refine obeys_ask (c := .markRetryOrFail id _) (.inr (.inr hid)) (fun _ => rfl) (fun _ => ?_)
    fun _ => ⟨_, rfl, hdone⟩
  refine obeys_mono (silent_obeys (by simp [ClaimCall.isSilent])) ?_
  exact fun x s hs => ⟨_, hs, hdone⟩

theorem checkSubmittedReceipt_obeys (now : Instant) (job : AutoClaimJob)
    (hid : id ∈ v.submitted) :
    (checkSubmittedReceipt service now id job).Obeys (claimProtocol limit)
      (fun _ s => Besides v [id] s) (some v) := by
  have hsame : Besides v [id] (some v) := ⟨v, rfl, .refl [id] v⟩
  unfold checkSubmittedReceipt
  cases job.txHash with
  | none => exact handleSubmittedJobFailure_obeys _ hid
  | some txHash =>
    by_cases hhash : (parseTxHash txHash).isNone
    · simp only [if_pos hhash]
      exact handleSubmittedJobFailure_obeys _ hid
    · simp only [if_neg hhash]
      refine obeys_attempt_silent rfl fun x => ?_
      cases x with
      | error err => exact hsame
      | ok found =>
        cases found with
        | none =>
          by_cases hlate : hasReceiptTimedOut (job.submittedAt.getD job.updatedAt) now
          · simp only [if_pos hlate]
            exact handleSubmittedJobFailure_obeys _ hid
          · simp only [if_neg hlate]
            exact hsame
        | some receipt =>
          by_cases hmined : receipt.status = some 1
          · simp only [if_pos hmined]
            have hdone : v.Beside [id] (v.without id) := v.beside_without id
            refine obeys_ask (c := .markReceiptConfirmed id) hid (fun _ => rfl) (fun _ => ?_)
              fun _ => ⟨_, rfl, hdone⟩
            refine obeys_silent rfl (fun _ => ?_) fun _ => ⟨_, rfl, hdone⟩
            refine obeys_mono (silent_obeys (maybeActivateFunds_silent job)) ?_
            exact fun x s hs => ⟨_, hs, hdone⟩
          · simp only [if_neg hmined]
            exact handleSubmittedJobFailure_obeys _ hid

/-- A view in which nothing is known of any row. -/
def Blank (s : Option ClaimView) : Prop := s = some {}

/-- Calls after which a blank view is still blank. -/
def ClaimCall.Blind : ClaimCall → Prop
  | recoverStaleProcessing _ => True
  | upsertJob _ _ _ maxAttempts => 0 < maxAttempts
  | c => c.isSilent

theorem blind_obeys {α : Type} {p : Claim α} (hp : Only ClaimCall.Blind p) :
    p.Obeys (claimProtocol limit) (fun _ s => Blank s) (some {}) := by
  refine obeys_of_only ?_ ?_ hp rfl
  · intro s c hs hc v hv
    cases c <;> first | contradiction | exact hc | trivial
  · intro s c x hs hc
    cases hs
    cases c <;> first | contradiction | rfl

theorem ask_blind {c : ClaimCall} (hc : c.Blind) : Only ClaimCall.Blind (ask c) :=
  (only_perform c).mpr hc

theorem discoverPages_blind (address : String) (pages page : ℕ)
    (found : List ((String × String) × Option String)) :
    Only ClaimCall.Blind (discoverPages service address pages page found) := by
  induction pages generalizing page found with
  | zero => exact only_pure found
  | succ pages ih =>
    refine .bind (ask_blind rfl) fun positions => ?_
    dsimp only
    split
    · exact only_pure _
    · exact ih _ _

theorem discoverAddresses_blind (addresses : List String)
    (found : List ((String × String) × Option String)) :
    Only ClaimCall.Blind (discoverAddresses service addresses found) := by
  induction addresses generalizing found with
  | nil => exact only_pure found
  | cons address rest ih => exact .bind (discoverPages_blind address _ _ found) fun _ => ih _

theorem only_forM {α : Type} {C : ClaimCall → Prop} {f : α → Claim Unit}
    (hf : ∀ a, Only C (f a)) (l : List α) : Only C (l.forM f) := by
  induction l with
  | nil => exact only_pure ()
  | cons a l ih => exact .bind (hf a) fun _ => ih

theorem discoverRedeemableJobs_blind :
    Only ClaimCall.Blind (discoverRedeemableJobs service) := by
  refine .bind (discoverAddresses_blind _ []) fun byCondition => only_forM (fun row => ?_) _
  exact .bind (ask_blind service.maxAttempts_pos) fun _ => only_pure ()

theorem recoverOnce_blind : Only ClaimCall.Blind (recoverOnce service) := by
  refine .bind (ask_blind rfl) fun timers => ?_
  split
  · exact .bind (ask_blind trivial) fun _ => ask_blind rfl
  · exact only_pure ()

theorem discoverWhenDue_blind (now : Instant) :
    Only ClaimCall.Blind (discoverWhenDue service now) := by
  refine .bind (ask_blind rfl) fun timers => ?_
  split
  · exact .bind discoverRedeemableJobs_blind fun _ => ask_blind rfl
  · exact only_pure ()

theorem checkSubmittedReceipts_obeys :
    (checkSubmittedReceipts service).Obeys (claimProtocol limit) (fun _ _ => True) (some {}) := by
  refine obeys_perform (fun _ _ => trivial) (fun rows => ?_) fun _ => trivial
  change (do
    let now ← ask .now
    rows.forM fun c => checkSubmittedReceipt service now c.1 c.2 : Claim Unit).Obeys
      (claimProtocol limit) _
      (if (rows.map Prod.fst).Nodup then some { submitted := rows.map Prod.fst } else none)
  by_cases hrows : (rows.map Prod.fst).Nodup
  · rw [if_pos hrows]
    refine obeys_silent rfl (fun now => ?_) fun _ => trivial
    refine obeys_mono (rows_obeys (R := fun v j => j ∈ v.submitted)
      (fun _ _ _ j h hj => h.submitted j hj) (fun v c hc => ?_) hrows fun j hj => hj)
      fun _ _ _ => trivial
    exact checkSubmittedReceipt_obeys now c.2 hc
  · rw [if_neg hrows]
    exact obeys_mono (impossible_obeys _) fun _ _ _ => trivial

theorem processWhenFree_obeys (hlimit : maxInflightClaimJobs service ≤ limit) (now : Instant)
    (s : Option ClaimView) :
    (processWhenFree service now).Obeys (claimProtocol limit) (fun _ _ => True) s := by
  cases s with
  | none => exact obeys_mono (impossible_obeys _) fun _ _ _ => trivial
  | some v =>
    refine obeys_perform (fun _ _ => trivial) (fun inflight => ?_) fun _ => trivial
    refine obeys_silent (v := { slots := limit - inflight }) rfl (fun timers => ?_)
      fun _ => trivial
    split
    · rename_i hfree
      refine processPendingJobs_obeys ?_
      change max (maxInflightClaimJobs service - inflight) 1 ≤ limit - inflight
      omega
    · trivial

theorem maybeTick_obeys (hlimit : maxInflightClaimJobs service ≤ limit) :
    (maybeTick service).Obeys (claimProtocol limit) (fun _ _ => True) (some {}) := by
  refine obeys_bind (blind_obeys recoverOnce_blind) ?_ fun _ _ _ => trivial
  intro u s hs
  subst hs
  refine obeys_silent rfl (fun now => ?_) fun _ => trivial
  refine obeys_bind (blind_obeys (discoverWhenDue_blind now)) ?_ fun _ _ _ => trivial
  intro u s hs
  subst hs
  refine obeys_bind checkSubmittedReceipts_obeys ?_ fun _ _ _ => trivial
  exact fun _ s _ => processWhenFree_obeys hlimit now s

end Obeys

end PolymarketBot.AutoClaim
