import Mathlib.Data.List.Sort
import PolymarketBot.Builder.ExitLadders
import PolymarketBot.Lib.Rows

/-! The sync of a staged exit family: the rows of its live children are cancelled or resized
as the plan for the parent's quantity says. -/

namespace PolymarketBot.ExitLadders
open Lib Builder

/-- A child order with the columns of its stage. -/
structure LadderChild extends TradeBuilderOrder where
  exitLadderIndex : Option ℤ := none
  exitLadderSizePct : Option ℚ := none
  deriving DecidableEq, Repr

def LadderChild.isCanceled (row : LadderChild) : Bool :=
  row.status == .canceled || row.status == .canceledRequested

def tradeBuilderLadderRuleWeight (order : LadderChild) : Option ℚ :=
  order.exitLadderSizePct.filter (0 < ·)

def i32Max : ℤ := 2 ^ 31 - 1

def ladderSortKey (familyChildren : List LadderChild) (orderId : ℤ) : ℤ × ℤ :=
  match familyChildren.find? (·.id = orderId) with
  | some child => (child.exitLadderIndex.getD i32Max, child.id)
  | none => (i32Max, orderId)

def sortKeyLe (a b : ℤ × ℤ) : Prop := a.1 < b.1 ∨ a.1 = b.1 ∧ a.2 ≤ b.2

instance : DecidableRel sortKeyLe := fun _ _ => inferInstanceAs (Decidable (_ ∨ _))

def weightedChildren (familyChildren : List LadderChild) : List (ℤ × ℚ) :=
  (familyChildren.filterMap fun child =>
    (tradeBuilderLadderRuleWeight child).map (child.id, ·)).insertionSort fun a b =>
      sortKeyLe (ladderSortKey familyChildren a.1) (ladderSortKey familyChildren b.1)

def tradeBuilderLadderFamilyTargetPlan (familyChildren : List LadderChild)
    (currentParentQty : ℚ) (orderMinSize : Option ℚ) : TradeBuilderLadderTargetPlan ℤ :=
  tradeBuilderPlanWeightedLadderTargets (weightedChildren familyChildren) currentParentQty
    orderMinSize

def tradeBuilderLiveLadderChildren (children : List LadderChild) (family : String) :
    List LadderChild :=
  children.filter fun order =>
    order.exitLadderKind = some family ∧ ¬ tradeBuilderIsTerminalStatus order.status

/-- The order table, the events and the ids the sync returns. -/
structure FamilySync where
  rows : List LadderChild
  events : List (ℤ × String) := []
  updatedOrderIds : List ℤ := []
  deriving DecidableEq, Repr

def LadderChild.update (row : LadderChild) (u : OrderUpdate) : LadderChild :=
  { row with toTradeBuilderOrder := u.apply row.toTradeBuilderOrder }

/-- `UPDATE trade_builder_orders SET … WHERE id = …`. -/
def updateRow (orderId : ℤ) (u : OrderUpdate) (rows : List LadderChild) : List LadderChild :=
  rows.map fun row => if row.id = orderId then row.update u else row

def resizeLadderChild (child : LadderChild) (desiredQty : ℚ) : OrderUpdate :=
  if child.activeExchangeOrderId.isSome then
    .setWorkingState child.activeExchangeOrderId child.workingPrice
      (some (tradeBuilderScaledSizeUsdc child.toTradeBuilderOrder desiredQty)) (some desiredQty)
      child.status
  else
    resizeChild child.toTradeBuilderOrder desiredQty

def syncLadderChild (plan : TradeBuilderLadderTargetPlan ℤ) (s : FamilySync)
    (child : LadderChild) : FamilySync :=
  if child.id ∈ plan.skippedKeys then
    { rows := updateRow child.id (.setStatus (cancelStatus child.toTradeBuilderOrder)
        (some { reason := "staged_child_skipped_due_to_min_size" })) s.rows
      events := s.events ++ [(child.id, "staged_child_skipped_due_to_min_size")]
      updatedOrderIds := s.updatedOrderIds ++ [child.id] }
  else
    match tradeBuilderLadderRuleWeight child, plan.targets.find? (·.1 = child.id) with
    | some _, some (_, desiredQty) =>
      { rows := updateRow child.id (resizeLadderChild child desiredQty) s.rows
        events := s.events ++ [(child.id, "ladder_sibling_resized")] ++
          if some child.id = plan.consolidationTarget then
            [(child.id, "staged_family_consolidated_due_to_min_size")]
          else []
        updatedOrderIds := s.updatedOrderIds ++ [child.id] }
    | _, _ => s

def familyWeightSum (familyChildren : List LadderChild) : ℚ :=
  (familyChildren.filterMap tradeBuilderLadderRuleWeight).sum

def tradeBuilderSyncLadderFamilyRemainingQty (familyChildren : List LadderChild)
    (currentParentQty : ℚ) (orderMinSize : Option ℚ) (rows : List LadderChild) : FamilySync :=
  let plan := tradeBuilderLadderFamilyTargetPlan familyChildren currentParentQty orderMinSize
  if familyWeightSum familyChildren ≤ 0 ∨ (plan.targets.isEmpty ∧ plan.skippedKeys.isEmpty) then
    { rows }
  else
    familyChildren.foldl (syncLadderChild plan) { rows }

/-! ### What becomes of each row -/

@[simp] theorem LadderChild.update_id (row : LadderChild) (u : OrderUpdate) :
    (row.update u).id = row.id := by
  cases u <;> rfl

/-- The statement the loop issues for a child, if any. -/
def childUpdate (plan : TradeBuilderLadderTargetPlan ℤ) (child : LadderChild) :
    Option OrderUpdate :=
  if child.id ∈ plan.skippedKeys then
    some (.setStatus (cancelStatus child.toTradeBuilderOrder)
      (some { reason := "staged_child_skipped_due_to_min_size" }))
  else
    (tradeBuilderLadderRuleWeight child).bind fun _ =>
      (plan.targets.find? (·.1 = child.id)).map fun target => resizeLadderChild child target.2

def synced (plan : TradeBuilderLadderTargetPlan ℤ) (child row : LadderChild) : LadderChild :=
  ((childUpdate plan child).map row.update).getD row

theorem synced_id (plan : TradeBuilderLadderTargetPlan ℤ) (child row : LadderChild) :
    (synced plan child row).id = row.id := by
  unfold synced
  cases childUpdate plan child with
  | none => rfl
  | some u => exact row.update_id u

theorem syncLadderChild_rows (plan : TradeBuilderLadderTargetPlan ℤ) (s : FamilySync)
    (child : LadderChild) :
    (syncLadderChild plan s child).rows =
      s.rows.map fun row => if row.id = child.id then synced plan child row else row := by
  unfold syncLadderChild synced childUpdate
  by_cases hskip : child.id ∈ plan.skippedKeys
  · simp only [if_pos hskip]
    rfl
  · simp only [if_neg hskip]
    cases tradeBuilderLadderRuleWeight child with
    | none => simp
    | some weightPct =>
      cases plan.targets.find? (·.1 = child.id) with
      | none => simp
      | some target => rfl

theorem foldl_syncLadderChild_rows (plan : TradeBuilderLadderTargetPlan ℤ)
    (children : List LadderChild) (s : FamilySync) :
    (children.foldl (syncLadderChild plan) s).rows =
      children.foldl (fun rows child => rows.map fun row =>
        if row.id = child.id then synced plan child row else row) s.rows := by
  induction children generalizing s with
  | nil => rfl
  | cons child rest ih => rw [List.foldl_cons, List.foldl_cons, ih, syncLadderChild_rows]

/-- The family's own rows, each in the place it had. -/
def familyRows (children rows : List LadderChild) : List LadderChild :=
  rows.filter fun row => children.any (·.id = row.id)

theorem synced_empty {plan : TradeBuilderLadderTargetPlan ℤ} (ht : plan.targets = [])
    (hs : plan.skippedKeys = []) (child row : LadderChild) : synced plan child row = row := by
  unfold synced childUpdate
  simp [ht, hs]

theorem weightedChildren_perm (children : List LadderChild) :
    (weightedChildren children).Perm (children.filterMap fun child =>
      (tradeBuilderLadderRuleWeight child).map (child.id, ·)) :=
  List.perm_insertionSort _ _

theorem total_weightedChildren (children : List LadderChild) :
    total (weightedChildren children) = familyWeightSum children := by
  have hsum := ((weightedChildren_perm children).map Prod.snd).sum_eq
  rw [total, hsum, familyWeightSum, List.map_filterMap]
  simp

/-- The row a run of the whole loop leaves in the place of a row. -/
def rowAfter (plan : TradeBuilderLadderTargetPlan ℤ) (children : List LadderChild)
    (row : LadderChild) : LadderChild :=
  ((children.find? (·.id = row.id)).map (synced plan · row)).getD row

@[simp] theorem rowAfter_id (plan : TradeBuilderLadderTargetPlan ℤ) (children : List LadderChild)
    (row : LadderChild) : (rowAfter plan children row).id = row.id := by
  unfold rowAfter
  cases children.find? (·.id = row.id) with
  | none => rfl
  | some child => exact synced_id plan child row

theorem rowAfter_child (plan : TradeBuilderLadderTargetPlan ℤ) {children : List LadderChild}
    (hnd : (children.map (·.id)).Nodup) {child : LadderChild} (hc : child ∈ children) :
    rowAfter plan children child = synced plan child child := by
  rw [rowAfter, Rows.find_keyed (·.id) hnd hc]
  rfl

theorem sync_rows (children : List LadderChild) (hnd : (children.map (·.id)).Nodup)
    (currentParentQty : ℚ) (orderMinSize : Option ℚ) (rows : List LadderChild) :
    (tradeBuilderSyncLadderFamilyRemainingQty children currentParentQty orderMinSize rows).rows =
      rows.map (rowAfter (tradeBuilderLadderFamilyTargetPlan children currentParentQty
        orderMinSize) children) := by
  unfold tradeBuilderSyncLadderFamilyRemainingQty
  simp only
  split
  · rename_i hreturn
    have hempty : (tradeBuilderLadderFamilyTargetPlan children currentParentQty
          orderMinSize).targets = [] ∧
        (tradeBuilderLadderFamilyTargetPlan children currentParentQty
          orderMinSize).skippedKeys = [] := by
      rcases hreturn with hsum | h
      · rw [← total_weightedChildren] at hsum
        unfold tradeBuilderLadderFamilyTargetPlan tradeBuilderPlanWeightedLadderTargets
        simp only [hsum, if_true, ite_self, and_self]
      · simpa using h
    have hsame : ∀ row : LadderChild, rowAfter (tradeBuilderLadderFamilyTargetPlan children
        currentParentQty orderMinSize) children row = row := by
      intro row
      unfold rowAfter
      cases children.find? (·.id = row.id) with
      | none => rfl
      | some child => exact synced_empty hempty.1 hempty.2 child row
    exact (List.map_id'' hsame rows).symm
  · rw [foldl_syncLadderChild_rows]
    exact Rows.foldl_update_keyed (·.id) _ (synced_id _) children hnd rows

theorem liveChildren_nodup {rows : List LadderChild} (hids : (rows.map (·.id)).Nodup)
    (family : String) : ((tradeBuilderLiveLadderChildren rows family).map (·.id)).Nodup :=
  hids.sublist (List.filter_sublist.map fun row : LadderChild => row.id)

theorem familyRows_live {rows : List LadderChild} (hids : (rows.map (·.id)).Nodup)
    (family : String) : familyRows (tradeBuilderLiveLadderChildren rows family) rows =
      tradeBuilderLiveLadderChildren rows family := by
  refine List.filter_congr fun row hrow => ?_
  rw [Bool.eq_iff_iff, List.any_eq_true]
  constructor
  · rintro ⟨child, hc, heq⟩
    obtain ⟨hin, hlive⟩ := List.mem_filter.mp hc
    have hsame : child = row := List.inj_on_of_nodup_map hids hin hrow (of_decide_eq_true heq)
    exact hsame ▸ hlive
  · intro hlive
    exact ⟨row, List.mem_filter.mpr ⟨hrow, hlive⟩, decide_eq_true rfl⟩

theorem familyRows_sync (rows : List LadderChild) (hids : (rows.map (·.id)).Nodup)
    (family : String) (currentParentQty : ℚ) (orderMinSize : Option ℚ) :
    familyRows (tradeBuilderLiveLadderChildren rows family)
        (tradeBuilderSyncLadderFamilyRemainingQty (tradeBuilderLiveLadderChildren rows family)
          currentParentQty orderMinSize rows).rows =
      (tradeBuilderLiveLadderChildren rows family).map fun child =>
        synced (tradeBuilderLadderFamilyTargetPlan (tradeBuilderLiveLadderChildren rows family)
          currentParentQty orderMinSize) child child := by
  have hnd := liveChildren_nodup hids family
  have hlive := familyRows_live hids family
  rw [familyRows] at hlive
  rw [sync_rows _ hnd, familyRows, List.filter_map]
  simp only [Function.comp_def, rowAfter_id]
  rw [hlive]
  exact List.map_congr_left fun child hc => rowAfter_child _ hnd hc

/-! ### Which children follow the plan -/

/-- Cancelled, or left with the quantity the plan has for it. -/
def FollowsPlan (plan : TradeBuilderLadderTargetPlan ℤ) (row : LadderChild) : Prop :=
  row.isCanceled ∨ ∃ target ∈ plan.targets, target.1 = row.id ∧ row.remainingQty = some target.2

instance (plan : TradeBuilderLadderTargetPlan ℤ) (row : LadderChild) :
    Decidable (FollowsPlan plan row) :=
  inferInstanceAs (Decidable (_ ∨ _))

/-- What the family's children that are not cancelled still have to sell. -/
def remainingSum (rows : List LadderChild) : ℚ :=
  ((rows.filter (!·.isCanceled)).map fun row => row.remainingQty.getD 0).sum

section Child
variable {plan : TradeBuilderLadderTargetPlan ℤ} {child : LadderChild}

theorem not_isCanceled_of_live (hlive : tradeBuilderIsTerminalStatus child.status = false) :
    child.isCanceled = false := by
  unfold LadderChild.isCanceled
  cases hstatus : child.status <;> simp_all [tradeBuilderIsTerminalStatus]

theorem synced_skipped (hskip : child.id ∈ plan.skippedKeys) :
    (synced plan child child).isCanceled = true := by
  have hstatus : (synced plan child child).status = cancelStatus child.toTradeBuilderOrder := by
    simp [synced, childUpdate, hskip, LadderChild.update, OrderUpdate.apply]
  unfold LadderChild.isCanceled
  rw [hstatus, cancelStatus]
  split <;> rfl

theorem synced_target (hskip : child.id ∉ plan.skippedKeys)
    (hweight : (tradeBuilderLadderRuleWeight child).isSome) {target : ℤ × ℚ}
    (hfind : plan.targets.find? (·.1 = child.id) = some target) :
    (synced plan child child).status = child.status ∧
      (synced plan child child).remainingQty = some target.2 := by
  obtain ⟨weightPct, hweight⟩ := Option.isSome_iff_exists.mp hweight
  simp only [synced, childUpdate, if_neg hskip, hweight, hfind, Option.bind_some, Option.map_some,
    Option.getD_some, LadderChild.update, resizeLadderChild, resizeChild]
  split <;> exact ⟨rfl, rfl⟩

theorem synced_neither (hskip : child.id ∉ plan.skippedKeys)
    (hfind : plan.targets.find? (·.1 = child.id) = none) :
    synced plan child child = child := by
  simp [synced, childUpdate, hskip, hfind]

theorem find_target_none (h : child.id ∉ plan.targets.map Prod.fst) :
    plan.targets.find? (·.1 = child.id) = none := by
  rw [List.find?_eq_none]
  intro target ht heq
  exact h (of_decide_eq_true heq ▸ List.mem_map_of_mem ht)

theorem find_target_some (h : child.id ∈ plan.targets.map Prod.fst) :
    ∃ target ∈ plan.targets, target.1 = child.id ∧
      plan.targets.find? (·.1 = child.id) = some target := by
  cases hfind : plan.targets.find? (·.1 = child.id) with
  | none =>
    obtain ⟨target, ht, heq⟩ := List.mem_map.mp h
    exact absurd (decide_eq_true heq) (List.find?_eq_none.mp hfind target ht)
  | some target =>
    have hid : target.1 = child.id := by simpa using List.find?_some hfind
    exact ⟨target, List.mem_of_find?_eq_some hfind, hid, rfl⟩

theorem synced_follows_iff (hlive : tradeBuilderIsTerminalStatus child.status = false)
    (hweight : (tradeBuilderLadderRuleWeight child).isSome) :
    FollowsPlan plan (synced plan child child) ↔
      child.id ∈ plan.skippedKeys ∨ child.id ∈ plan.targets.map Prod.fst := by
  by_cases hskip : child.id ∈ plan.skippedKeys
  · exact iff_of_true (.inl (synced_skipped hskip)) (.inl hskip)
  by_cases htarget : child.id ∈ plan.targets.map Prod.fst
  · obtain ⟨target, ht, hid, hfind⟩ := find_target_some htarget
    have hqty := (synced_target hskip hweight hfind).2
    exact iff_of_true (.inr ⟨target, ht, by rw [synced_id, hid], hqty⟩) (.inr htarget)
  · have hsame := synced_neither hskip (find_target_none htarget)
    rw [hsame]
    constructor
    · rintro (hcanceled | ⟨target, ht, hid, -⟩)
      · rw [not_isCanceled_of_live hlive] at hcanceled
        cases hcanceled
      · exact absurd (hid ▸ List.mem_map_of_mem ht) htarget
    · rintro (h | h)
      · exact absurd h hskip
      · exact absurd h htarget

theorem synced_isCanceled (hlive : tradeBuilderIsTerminalStatus child.status = false)
    (hweight : (tradeBuilderLadderRuleWeight child).isSome) :
    (synced plan child child).isCanceled = decide (child.id ∈ plan.skippedKeys) := by
  by_cases hskip : child.id ∈ plan.skippedKeys
  · rw [synced_skipped hskip, decide_eq_true hskip]
  · have hstatus : (synced plan child child).status = child.status := by
      cases hfind : plan.targets.find? (·.1 = child.id) with
      | none => rw [synced_neither hskip hfind]
      | some target => exact (synced_target hskip hweight hfind).1
    rw [decide_eq_false hskip]
    exact not_isCanceled_of_live (hstatus ▸ hlive)

end Child

theorem remainingSum_synced {plan : TradeBuilderLadderTargetPlan ℤ} {children : List LadderChild}
    (hnd : (children.map (·.id)).Nodup) (htargets : (plan.targets.map Prod.fst).Nodup)
    (hlive : ∀ c ∈ children, tradeBuilderIsTerminalStatus c.status = false)
    (hweight : ∀ c ∈ children, (tradeBuilderLadderRuleWeight c).isSome)
    (hcovers : ∀ c ∈ children, c.id ∈ plan.skippedKeys ↔ c.id ∉ plan.targets.map Prod.fst)
    (hkeys : ∀ key ∈ plan.targets.map Prod.fst, key ∈ children.map (·.id)) :
    remainingSum (children.map fun c => synced plan c c) = total plan.targets := by
  let qtyOf : ℤ → ℚ := fun id => ((plan.targets.find? (·.1 = id)).map Prod.snd).getD 0
  let kept := children.filter fun c => ! decide (c.id ∈ plan.skippedKeys)
  have hleft : remainingSum (children.map fun c => synced plan c c) =
      ((kept.map (·.id)).map qtyOf).sum := by
    have hcanceled : (children.filter fun c => ! (synced plan c c).isCanceled) = kept :=
      List.filter_congr fun c hc => by rw [synced_isCanceled (hlive c hc) (hweight c hc)]
    rw [remainingSum, List.filter_map, List.map_map, List.map_map]
    change ((children.filter fun c => ! (synced plan c c).isCanceled).map _).sum = _
    rw [hcanceled]
    congr 1
    refine List.map_congr_left fun c hc => ?_
    obtain ⟨hin, hkept⟩ := List.mem_filter.mp hc
    have hskip : c.id ∉ plan.skippedKeys := by simpa using hkept
    have htarget : c.id ∈ plan.targets.map Prod.fst := by
      by_contra hnot
      exact hskip ((hcovers c hin).mpr hnot)
    obtain ⟨target, -, -, hfind⟩ := find_target_some htarget
    have hqty := (synced_target hskip (hweight c hin) hfind).2
    simp only [Function.comp_apply, hqty, Option.getD_some, qtyOf, hfind, Option.map_some]
  have hperm : (kept.map (·.id)).Perm (plan.targets.map Prod.fst) := by
    have hkeptnd : (kept.map (·.id)).Nodup :=
      hnd.sublist (List.filter_sublist.map fun c : LadderChild => c.id)
    rw [List.perm_ext_iff_of_nodup hkeptnd htargets]
    intro key
    constructor
    · intro hkey
      obtain ⟨c, hc, rfl⟩ := List.mem_map.mp hkey
      obtain ⟨hin, hkept⟩ := List.mem_filter.mp hc
      by_contra hnot
      exact absurd ((hcovers c hin).mpr hnot) (by simpa using hkept)
    · intro hkey
      obtain ⟨c, hin, rfl⟩ := List.mem_map.mp (hkeys key hkey)
      have hskip : c.id ∉ plan.skippedKeys := fun h => (hcovers c hin).mp h hkey
      have hkept : c ∈ kept := List.mem_filter.mpr ⟨hin, by simpa using hskip⟩
      exact List.mem_map_of_mem hkept
  have hqty : (plan.targets.map Prod.fst).map qtyOf = plan.targets.map Prod.snd := by
    rw [List.map_map]
    refine List.map_congr_left fun target ht => ?_
    have hfind := Rows.find_keyed Prod.fst htargets ht
    simp only [Function.comp_apply, qtyOf, hfind, Option.map_some, Option.getD_some]
  rw [hleft, (hperm.map qtyOf).sum_eq, hqty, total]

/-! ### When the sync leaves no child behind -/

/-- Each stage but the last has a share of the quantity, and they leave some of it. -/
def EveryStageShares (children : List LadderChild) (parentQty : ℚ) : Prop :=
  let parentQty := roundTradeBuilderShareQty parentQty
  let shares := earlyShares (weightedChildren children) parentQty
  children = [] ∨
    tradeBuilderExitQtyTolerance < parentQty ∧ (∀ share ∈ shares, 0 < share) ∧
      shares.sum < parentQty

instance (children : List LadderChild) (parentQty : ℚ) :
    Decidable (EveryStageShares children parentQty) :=
  inferInstanceAs (Decidable (_ ∨ _))

section Family
variable {children : List LadderChild}

theorem weight_isSome {child : LadderChild}
    (h : ∃ pct, child.exitLadderSizePct = some pct ∧ 0 < pct) :
    (tradeBuilderLadderRuleWeight child).isSome := by
  obtain ⟨pct, hpct, hpos⟩ := h
  simp [tradeBuilderLadderRuleWeight, hpct, hpos]

theorem weightedChildren_pos : ∀ s ∈ weightedChildren children, 0 < s.2 := by
  intro s hs
  obtain ⟨child, -, hweight⟩ := List.mem_filterMap.mp ((weightedChildren_perm children).mem_iff.mp hs)
  obtain ⟨pct, hpct, rfl⟩ := Option.map_eq_some_iff.mp hweight
  simpa using (Option.filter_eq_some_iff.mp hpct).2

theorem weightedChildren_keys (hweight : ∀ c ∈ children, (tradeBuilderLadderRuleWeight c).isSome) :
    ((weightedChildren children).map Prod.fst).Perm (children.map (·.id)) := by
  have hids : (children.filterMap fun child =>
      (tradeBuilderLadderRuleWeight child).map (child.id, ·)).map Prod.fst =
        children.map (·.id) := by
    induction children with
    | nil => rfl
    | cons c rest ih =>
      obtain ⟨pct, hpct⟩ := Option.isSome_iff_exists.mp (hweight c List.mem_cons_self)
      have hrest := ih fun d hd => hweight d (List.mem_cons_of_mem c hd)
      rw [List.filterMap_cons, hpct]
      simp only [Option.map_some, List.map_cons, hrest]
  exact hids ▸ (weightedChildren_perm children).map Prod.fst

theorem follows_iff_requested (hlive : ∀ c ∈ children, tradeBuilderIsTerminalStatus c.status = false)
    (hweight : ∀ c ∈ children, (tradeBuilderLadderRuleWeight c).isSome)
    {plan : TradeBuilderLadderTargetPlan ℤ} (hsorts : SortsKeys plan) :
    (∀ c ∈ children, FollowsPlan plan (synced plan c c)) ↔
      ∀ c ∈ children, c.id ∈ plan.requestedTargets.map Prod.fst := by
  refine forall₂_congr fun c hc => ?_
  rw [synced_follows_iff (hlive c hc) (hweight c hc)]
  constructor
  · rintro (hskip | htarget)
    · exact hsorts.skipped c.id hskip
    · exact hsorts.targets.subset htarget
  · intro hrequested
    by_cases htarget : c.id ∈ plan.targets.map Prod.fst
    · exact .inr htarget
    · exact .inl ((hsorts.covers c.id hrequested).mpr htarget)

theorem familyPlan_sortsKeys (children : List LadderChild) (currentParentQty : ℚ)
    (orderMinSize : Option ℚ) :
    SortsKeys (tradeBuilderLadderFamilyTargetPlan children currentParentQty orderMinSize) :=
  plan_sortsKeys (weightedChildren children) currentParentQty orderMinSize

theorem all_follow_iff (hnd : (children.map (·.id)).Nodup)
    (hlive : ∀ c ∈ children, tradeBuilderIsTerminalStatus c.status = false)
    (hweight : ∀ c ∈ children, (tradeBuilderLadderRuleWeight c).isSome)
    (currentParentQty : ℚ) (orderMinSize : Option ℚ) :
    (∀ c ∈ children, FollowsPlan
        (tradeBuilderLadderFamilyTargetPlan children currentParentQty orderMinSize)
        (synced (tradeBuilderLadderFamilyTargetPlan children currentParentQty orderMinSize) c c)) ↔
      EveryStageShares children currentParentQty := by
  have hperm := weightedChildren_keys hweight
  rw [follows_iff_requested hlive hweight (familyPlan_sortsKeys children _ _), EveryStageShares]
  cases hchildren : children with
  | nil => simp
  | cons first rest =>
    rw [← hchildren]
    have hfirst : first ∈ children := hchildren ▸ List.mem_cons_self
    have hne : weightedChildren children ≠ [] := by
      intro hnil
      have hmem := hperm.mem_iff.mpr (List.mem_map_of_mem hfirst)
      simp [hnil] at hmem
    have hnil : children ≠ [] := List.ne_nil_of_mem hfirst
    simp only [hnil, false_or]
    by_cases htol : tradeBuilderExitQtyTolerance < roundTradeBuilderShareQty currentParentQty
    · have hkeys : ((weightedChildren children).map Prod.fst).Nodup := hperm.nodup_iff.mpr hnd
      rw [← all_requested_iff hkeys weightedChildren_pos hne htol orderMinSize]
      simp only [htol, true_and]
      constructor
      · intro hall key hkey
        obtain ⟨c, hc, rfl⟩ := List.mem_map.mp (hperm.mem_iff.mp hkey)
        exact hall c hc
      · intro hall c hc
        exact hall c.id (hperm.mem_iff.mpr (List.mem_map_of_mem hc))
    · refine iff_of_false (fun hall => ?_) (fun h => htol h.1)
      have hmem := hall first hfirst
      simp [tradeBuilderLadderFamilyTargetPlan, tradeBuilderPlanWeightedLadderTargets,
        roundTradeBuilderShareQty_max, not_lt.mp htol] at hmem

theorem weightedChildren_ne_nil
    (hweight : ∀ c ∈ children, (tradeBuilderLadderRuleWeight c).isSome) (hne : children ≠ []) :
    weightedChildren children ≠ [] := by
  intro hnil
  have hlength := (weightedChildren_keys hweight).length_eq
  rw [hnil] at hlength
  exact hne (List.eq_nil_of_length_eq_zero (by simpa using hlength.symm))

theorem remainingSum_family (hnd : (children.map (·.id)).Nodup)
    (hlive : ∀ c ∈ children, tradeBuilderIsTerminalStatus c.status = false)
    (hweight : ∀ c ∈ children, (tradeBuilderLadderRuleWeight c).isSome) {currentParentQty : ℚ}
    (hshares : EveryStageShares children currentParentQty) (orderMinSize : Option ℚ) :
    remainingSum (children.map fun c => synced (tradeBuilderLadderFamilyTargetPlan children
        currentParentQty orderMinSize) c c) =
      total (tradeBuilderLadderFamilyTargetPlan children currentParentQty orderMinSize).targets := by
  have hsorts := familyPlan_sortsKeys children currentParentQty orderMinSize
  have hperm := weightedChildren_keys hweight
  have hsub := plan_requestedTargets_keys (weightedChildren children) currentParentQty orderMinSize
  have hrequested := (follows_iff_requested hlive hweight hsorts).mp
    ((all_follow_iff hnd hlive hweight currentParentQty orderMinSize).mpr hshares)
  have htargets := (hperm.nodup_iff.mpr hnd).sublist (hsorts.targets.trans hsub)
  refine remainingSum_synced hnd htargets hlive hweight (fun c hc => ?_) (fun key hkey => ?_)
  · exact hsorts.covers c.id (hrequested c hc)
  · exact hperm.subset (hsub.subset (hsorts.targets.subset hkey))

theorem total_family (hnd : (children.map (·.id)).Nodup)
    (hweight : ∀ c ∈ children, (tradeBuilderLadderRuleWeight c).isSome) (hne : children ≠ [])
    {currentParentQty : ℚ} (hshares : EveryStageShares children currentParentQty)
    (orderMinSize : Option ℚ) :
    let plan := tradeBuilderLadderFamilyTargetPlan children currentParentQty orderMinSize
    (plan.targets ≠ [] → total plan.targets = roundTradeBuilderShareQty currentParentQty) ∧
      (plan.targets ≠ [] ↔ ∀ m ∈ normalizeTradeBuilderMarketSpecNumber orderMinSize,
        m ≤ roundTradeBuilderShareQty currentParentQty) := by
  obtain ⟨htol, -, hlt⟩ := hshares.resolve_left hne
  have hkeys : ((weightedChildren children).map Prod.fst).Nodup :=
    (weightedChildren_keys hweight).nodup_iff.mpr hnd
  have hfit := earlyStagesFit_of_lt hlt orderMinSize
  constructor
  · intro hsome
    exact ((plan_closesOut_iff hkeys weightedChildren_pos currentParentQty
      orderMinSize).mpr hfit hsome).2
  · exact targets_ne_nil_iff hkeys weightedChildren_pos (weightedChildren_ne_nil hweight hne) htol
      hlt orderMinSize

end Family

theorem familyPlan_nil (currentParentQty : ℚ) (orderMinSize : Option ℚ) :
    tradeBuilderLadderFamilyTargetPlan [] currentParentQty orderMinSize = {} := by
  simp [tradeBuilderLadderFamilyTargetPlan, tradeBuilderPlanWeightedLadderTargets,
    weightedChildren]

theorem round_pos_of_tolerance {qty : ℚ} (hqty : tradeBuilderExitQtyTolerance < qty) :
    0 < roundTradeBuilderShareQty qty := by
  have hpos : 0 ≤ qty := le_trans (by norm_num [tradeBuilderExitQtyTolerance]) hqty.le
  have hfloor : (1 : ℤ) ≤ ⌊qty * 100 + 1 / 2⌋ := by
    rw [Int.le_floor]
    unfold tradeBuilderExitQtyTolerance at hqty
    push_cast
    linarith
  have hcast : (1 : ℚ) ≤ ⌊qty * 100 + 1 / 2⌋ := by exact_mod_cast hfloor
  rw [roundTradeBuilderShareQty, max_eq_left hpos]
  linarith

theorem targets_ne_nil_of_kept {plan : TradeBuilderLadderTargetPlan ℤ}
    {after : List LadderChild}
    (hfollow : ∀ row ∈ after, FollowsPlan plan row)
    (hkept : ∃ row ∈ after, row.isCanceled = false) : plan.targets ≠ [] := by
  obtain ⟨row, hrow, hkept⟩ := hkept
  intro hnil
  rcases hfollow row hrow with hcanceled | ⟨target, ht, -⟩
  · rw [hcanceled] at hkept
    cases hkept
  · rw [hnil] at ht
    cases ht

/-- A sync leaves no child of a live family behind exactly when every stage has a share of
the quantity; and their sum is then the parent's quantity, unless that is below the minimum
size and the whole family is cancelled. -/
theorem familySync_iff (rows : List LadderChild) (hids : (rows.map (·.id)).Nodup)
    (family : String) (hpct : ∀ c ∈ tradeBuilderLiveLadderChildren rows family,
      ∃ pct, c.exitLadderSizePct = some pct ∧ 0 < pct)
    (currentParentQty : ℚ) (hqty : tradeBuilderExitQtyTolerance < currentParentQty)
    (orderMinSize : Option ℚ) :
    let children := tradeBuilderLiveLadderChildren rows family
    let plan := tradeBuilderLadderFamilyTargetPlan children currentParentQty orderMinSize
    let after := familyRows children (tradeBuilderSyncLadderFamilyRemainingQty children
      currentParentQty orderMinSize rows).rows
    ((∀ row ∈ after, FollowsPlan plan row) ∧
        ((∃ row ∈ after, row.isCanceled = false) →
          remainingSum after = roundTradeBuilderShareQty currentParentQty) ↔
      EveryStageShares children currentParentQty) ∧
    ((∀ row ∈ after, FollowsPlan plan row) ∧
        remainingSum after = roundTradeBuilderShareQty currentParentQty ↔
      EveryStageShares children currentParentQty ∧ children ≠ [] ∧
        ∀ m ∈ normalizeTradeBuilderMarketSpecNumber orderMinSize,
          m ≤ roundTradeBuilderShareQty currentParentQty) := by
  intro children plan after
  have hnd : (children.map (·.id)).Nodup := liveChildren_nodup hids family
  have hlive : ∀ c ∈ children, tradeBuilderIsTerminalStatus c.status = false := by
    intro c hc
    have hfilter := (List.mem_filter.mp hc).2
    simp only [decide_eq_true_eq, Bool.not_eq_true] at hfilter
    exact hfilter.2
  have hweight : ∀ c ∈ children, (tradeBuilderLadderRuleWeight c).isSome := fun c hc =>
    weight_isSome (hpct c hc)
  have hafter : after = children.map fun c => synced plan c c :=
    familyRows_sync rows hids family currentParentQty orderMinSize
  have hfollow : (∀ row ∈ after, FollowsPlan plan row) ↔
      EveryStageShares children currentParentQty := by
    rw [hafter, List.forall_mem_map]
    exact all_follow_iff hnd hlive hweight currentParentQty orderMinSize
  have hpos : 0 < roundTradeBuilderShareQty currentParentQty := round_pos_of_tolerance hqty
  rw [hfollow]
  by_cases hshares : EveryStageShares children currentParentQty
  · have hsum : remainingSum after = total plan.targets :=
      hafter ▸ remainingSum_family hnd hlive hweight hshares orderMinSize
    have hnone : plan.targets = [] → remainingSum after ≠ roundTradeBuilderShareQty
        currentParentQty := by
      intro hnil heq
      rw [hsum, hnil, total_nil] at heq
      exact hpos.ne heq
    have hleft : (∃ row ∈ after, row.isCanceled = false) → plan.targets ≠ [] :=
      targets_ne_nil_of_kept (hfollow.mpr hshares)
    simp only [hshares, true_and, iff_true]
    by_cases hne : children = []
    · have hnil : plan.targets = [] := by
        have hplan : plan = {} := by
          simp only [plan, hne]
          exact familyPlan_nil currentParentQty orderMinSize
        rw [hplan]
      exact ⟨fun h => absurd hnil (hleft h), iff_of_false (hnone hnil) fun h => h.1 hne⟩
    · obtain ⟨htotal, hmin⟩ := total_family hnd hweight hne hshares orderMinSize
      refine ⟨fun h => hsum.trans (htotal (hleft h)), ?_⟩
      simp only [ne_eq, hne, not_false_eq_true, true_and]
      rw [← hmin]
      exact ⟨fun heq hnil => hnone hnil heq, fun hsome => hsum.trans (htotal hsome)⟩
  · exact ⟨iff_of_false (fun h => hshares h.1) hshares,
      iff_of_false (fun h => hshares h.1) fun h => hshares h.1⟩

def stage (id : ℤ) (pct qty : ℚ) : LadderChild :=
  { id, kind := .conditional, status := .armed, side := .sell, sizeBasis := .shares
    parentOrderId := some 9, targetQty := some qty, remainingQty := some qty
    exitLadderKind := some "tp", exitLadderIndex := some (id - 31)
    exitLadderSizePct := some pct }

theorem familySync_halves :
    let children := [stage 31 50 5, stage 32 50 5]
    let after := familyRows children (tradeBuilderSyncLadderFamilyRemainingQty children (8 / 5) none
      children).rows
    (∀ row ∈ after, FollowsPlan (tradeBuilderLadderFamilyTargetPlan children (8 / 5) none) row) ∧
      remainingSum after = roundTradeBuilderShareQty (8 / 5) := by
  intro children after
  have hpct : ∀ c ∈ tradeBuilderLiveLadderChildren children "tp",
      ∃ pct, c.exitLadderSizePct = some pct ∧ 0 < pct := by
    intro c hc
    have hc' : c ∈ children := List.mem_of_mem_filter hc
    rcases List.mem_cons.mp hc' with hfirst | hsecond
    · exact ⟨50, by rw [hfirst]; rfl, by norm_num⟩
    · exact ⟨50, by rw [List.mem_singleton.mp hsecond]; rfl, by norm_num⟩
  have hsync := familySync_iff children (by decide) "tp" hpct (8 / 5)
    (by norm_num [tradeBuilderExitQtyTolerance]) none
  exact hsync.2.mpr ⟨by decide +kernel, by decide +kernel, by decide +kernel⟩

/-- With 0.04 shares left the first stage's share rounds to nothing: while the rest of the
family is cancelled as below the minimum, it stays armed with 5 shares. -/
theorem first_stage_left_behind :
    let rows := [stage 31 10 5, stage 32 40 20, stage 33 50 25]
    let children := tradeBuilderLiveLadderChildren rows "tp"
    let plan := tradeBuilderLadderFamilyTargetPlan children (4 / 100) (some 5)
    let after := (tradeBuilderSyncLadderFamilyRemainingQty children (4 / 100) (some 5) rows).rows
    (rows.map (·.id)).Nodup ∧ children = rows ∧ tradeBuilderExitQtyTolerance < (4 / 100 : ℚ) ∧
      after.map (·.status) = [.armed, .canceled, .canceled] ∧ remainingSum after = 5 ∧
      ¬ ∀ row ∈ after, FollowsPlan plan row := by
  decide +kernel

end PolymarketBot.ExitLadders
