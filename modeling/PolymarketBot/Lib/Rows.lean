import Mathlib.Algebra.BigOperators.Group.List.Basic
import Mathlib.Algebra.Order.Monoid.Defs
import Mathlib.Data.List.Nodup
import Mathlib.Tactic.Abel

/-! Rows of a table, numbered by their places: sums over them, and loops that write some of
the rows they have listed. -/

namespace PolymarketBot.Lib.Rows
variable {α M : Type*}

theorem sum_map_modify [AddCommGroup M] (g : α → M) (f : α → α) (rows : List α) (id : ℕ) :
    ((rows.modify id f).map g).sum =
      (rows.map g).sum + (rows[id]?.map fun s => g (f s) - g s).getD 0 := by
  induction rows generalizing id with
  | nil => simp
  | cons s rest ih =>
    cases id with
    | zero =>
      simp only [List.modify_zero_cons, List.map_cons, List.sum_cons, List.getElem?_cons_zero,
        Option.map_some, Option.getD_some]
      abel
    | succ id =>
      simp only [List.modify_succ_cons, List.map_cons, List.sum_cons, List.getElem?_cons_succ]
      rw [ih id, add_assoc]

theorem sum_map_modify_le (g : α → ℕ) (f : α → α) (rows : List α) (id : ℕ)
    (h : ∀ s ∈ rows[id]?, g (f s) ≤ g s) : ((rows.modify id f).map g).sum ≤ (rows.map g).sum := by
  induction rows generalizing id with
  | nil => simp
  | cons s rest ih =>
    cases id with
    | zero =>
      have hs : g (f s) ≤ g s := h s (by simp)
      simp only [List.modify_zero_cons, List.map_cons, List.sum_cons]
      omega
    | succ id =>
      have hrest := ih id (by simpa using h)
      simp only [List.modify_succ_cons, List.map_cons, List.sum_cons]
      omega

theorem sum_map_le_of_rows [AddCommGroup M] [PartialOrder M] [IsOrderedAddMonoid M] (g : α → M)
    (lost : ℕ → α → M) {rows rows' : List α} (hlength : rows'.length = rows.length)
    (h : ∀ i s s', rows[i]? = some s → rows'[i]? = some s' → g s ≤ g s' + lost i s) :
    (rows.map g).sum ≤ (rows'.map g).sum + (rows.mapIdx lost).sum := by
  induction rows generalizing rows' lost with
  | nil =>
    obtain rfl : rows' = [] := List.length_eq_zero_iff.mp hlength
    simp
  | cons s rest ih =>
    obtain ⟨s', rest', rfl⟩ := List.exists_cons_of_length_eq_add_one hlength
    have hhead := h 0 s s' rfl rfl
    have htail := ih (fun i => lost (i + 1)) (Nat.succ.inj hlength) fun i t t' ht ht' =>
      h (i + 1) t t' (by simpa using ht) (by simpa using ht')
    rw [List.mapIdx_cons]
    simp only [List.map_cons, List.sum_cons]
    calc g s + (rest.map g).sum
        ≤ g s' + lost 0 s + ((rest'.map g).sum + (rest.mapIdx fun i => lost (i + 1)).sum) :=
          add_le_add hhead htail
      _ = g s' + (rest'.map g).sum + (lost 0 s + (rest.mapIdx fun i => lost (i + 1)).sum) := by
          abel

theorem map_modify_of_eq {β : Type*} {g : α → β} {f : α → α} (h : ∀ s, g (f s) = g s)
    (rows : List α) (id : ℕ) : (rows.modify id f).map g = rows.map g := by
  induction rows generalizing id with
  | nil => simp
  | cons s rest ih =>
    cases id with
    | zero => simp [h]
    | succ id => rw [List.modify_succ_cons, List.map_cons, List.map_cons, ih]

theorem getElem?_modify_cases {f : α → α} {rows : List α} {id : ℕ} {s : α}
    (h : rows[id]? = some s) {j : ℕ} {s' : α} (hj : (rows.modify id f)[j]? = some s') :
    j = id ∧ s' = f s ∨ j ≠ id ∧ rows[j]? = some s' := by
  by_cases hid : id = j
  · subst hid
    rw [List.getElem?_modify_eq, h] at hj
    exact .inl ⟨rfl, (Option.some.inj hj).symm⟩
  · rw [List.getElem?_modify_ne f rows hid] at hj
    exact .inr ⟨Ne.symm hid, hj⟩

theorem modify_append_cons (before rest : List α) (s : α) (f : α → α) :
    (before ++ s :: rest).modify before.length f = before ++ f s :: rest := by
  induction before with
  | nil => rfl
  | cons b before ih =>
    rw [List.cons_append, List.length_cons, List.modify_succ_cons, ih, List.cons_append]

/-- The rows with their numbers. -/
def listed (rows : List α) : List (ℕ × α) := rows.zipIdx.map Prod.swap

theorem mem_listed {rows : List α} {c : ℕ × α} : c ∈ listed rows ↔ rows[c.1]? = some c.2 := by
  have hswap : c = Prod.swap (c.2, c.1) := rfl
  rw [← List.mem_zipIdx_iff_getElem? (x := (c.2, c.1)), hswap]
  exact List.mem_map_of_injective Prod.swap_injective

theorem listed_ids (rows : List α) : (listed rows).map Prod.fst = List.range rows.length := by
  unfold listed
  rw [List.map_map, List.range_eq_range', ← List.zipIdx_map_snd 0 rows]
  rfl

theorem countP_modify (p : α → Bool) (f : α → α) {rows : List α} {id : ℕ} {s : α}
    (h : rows[id]? = some s) :
    (rows.modify id f).countP p + (if p s then 1 else 0) =
      rows.countP p + if p (f s) then 1 else 0 := by
  induction rows generalizing id with
  | nil => simp at h
  | cons t rest ih =>
    cases id with
    | zero =>
      obtain rfl : t = s := by simpa using h
      simp only [List.modify_zero_cons, List.countP_cons]
      omega
    | succ id =>
      have hrest := @ih id (by simpa using h)
      simp only [List.modify_succ_cons, List.countP_cons]
      omega

theorem foldl_modify_from (P : ℕ × α → Bool) (g : ℕ × α → α → α) (rows before : List α) :
    (((rows.zipIdx before.length).map Prod.swap).filter P).foldl
        (fun rows c => rows.modify c.1 (g c)) (before ++ rows) =
      before ++ rows.mapIdx fun i s =>
        if P (before.length + i, s) then g (before.length + i, s) s else s := by
  induction rows generalizing before with
  | nil => rfl
  | cons s rest ih =>
    have hstep : ∀ s', (((rest.zipIdx (before.length + 1)).map Prod.swap).filter P).foldl
        (fun rows c => rows.modify c.1 (g c)) (before ++ s' :: rest) =
          before ++ s' :: rest.mapIdx fun i s => if P (before.length + (i + 1), s) then
            g (before.length + (i + 1), s) s else s := by
      intro s'
      have hrest := ih (before ++ [s'])
      simpa only [List.length_append, List.length_singleton, List.append_assoc,
        List.singleton_append, Nat.add_assoc, Nat.add_comm 1] using hrest
    rw [List.mapIdx_cons, List.zipIdx_cons, List.map_cons, List.filter_cons]
    simp only [Prod.swap_prod_mk, Nat.add_zero]
    by_cases hP : P (before.length, s)
    · rw [if_pos hP, if_pos hP, List.foldl_cons, modify_append_cons, hstep]
    · rw [if_neg hP, if_neg hP, hstep]

theorem foldl_modify_listed (P : ℕ × α → Bool) (g : ℕ × α → α → α) (rows : List α) :
    ((listed rows).filter P).foldl (fun rows c => rows.modify c.1 (g c)) rows =
      rows.mapIdx fun i s => if P (i, s) then g (i, s) s else s := by
  have h := foldl_modify_from P g rows []
  simp only [List.length_nil, List.nil_append, Nat.zero_add] at h
  exact h

theorem mapIdx_of_rows {β : Type*} (f : α → β) (rows : List α) :
    rows.mapIdx (fun _ s => f s) = rows.map f :=
  List.mapIdx_eq_iff.mpr fun i => by simp

theorem foldl_update_keyed {κ : Type*} [DecidableEq κ] (key : α → κ) (g : α → α → α)
    (hkey : ∀ c s, key (g c s) = key s) (list : List α) (hnd : (list.map key).Nodup)
    (rows : List α) :
    list.foldl (fun rows c => rows.map fun s => if key s = key c then g c s else s) rows =
      rows.map fun s => ((list.find? (key · = key s)).map (g · s)).getD s := by
  induction list generalizing rows with
  | nil => simp
  | cons c rest ih =>
    obtain ⟨hc, hrest⟩ := List.nodup_cons.mp hnd
    rw [List.foldl_cons, ih hrest, List.map_map]
    refine List.map_congr_left fun s _ => ?_
    simp only [Function.comp_apply, List.find?_cons]
    by_cases h : key s = key c
    · have hnone : rest.find? (key · = key s) = none := by
        rw [List.find?_eq_none]
        intro d hd hds
        have hdc : key d = key c := (of_decide_eq_true hds).trans h
        exact hc (hdc ▸ List.mem_map_of_mem hd)
      have hfound : decide (key c = key s) = true := decide_eq_true h.symm
      rw [if_pos h, hkey, hnone]
      simp [hfound]
    · have hc' : ¬ key c = key s := fun heq => h heq.symm
      simp [h, hc']

theorem find_keyed {κ : Type*} [DecidableEq κ] (key : α → κ) {list : List α}
    (hnd : (list.map key).Nodup) {s : α} (hs : s ∈ list) :
    list.find? (key · = key s) = some s := by
  induction list with
  | nil => cases hs
  | cons c rest ih =>
    obtain ⟨hc, hrest⟩ := List.nodup_cons.mp hnd
    rcases List.mem_cons.mp hs with rfl | hmem
    · simp
    · have hne : ¬ key c = key s := fun h => hc (h ▸ List.mem_map_of_mem hmem)
      rw [List.find?_cons_of_neg (by simpa using hne)]
      exact ih hrest hmem

theorem filter_keyed {κ : Type*} [DecidableEq κ] (key : α → κ) {list : List α}
    (hnd : (list.map key).Nodup) {s : α} (hs : s ∈ list) :
    list.filter (key · = key s) = [s] := by
  induction list with
  | nil => cases hs
  | cons c rest ih =>
    obtain ⟨hc, hrest⟩ := List.nodup_cons.mp hnd
    rcases List.mem_cons.mp hs with rfl | hmem
    · have hnone : rest.filter (key · = key s) = [] := by
        refine List.filter_eq_nil_iff.mpr fun d hd hds => ?_
        exact hc (of_decide_eq_true hds ▸ List.mem_map_of_mem hd)
      simp [hnone]
    · have hne : ¬ key c = key s := fun h => hc (h ▸ List.mem_map_of_mem hmem)
      rw [List.filter_cons_of_neg (by simpa using hne)]
      exact ih hrest hmem

theorem sum_map_eq_of_keyed {β κ : Type*} [AddCommMonoid M] {key : α → κ} {key' : β → κ}
    {g : α → M} {g' : β → M} {rows : List α} {others : List β} (hrows : (rows.map key).Nodup)
    (hothers : (others.map key').Nodup)
    (hmem : ∀ p, p ∈ rows.map (fun r => (key r, g r)) ↔ p ∈ others.map fun o => (key' o, g' o)) :
    (rows.map g).sum = (others.map g').sum := by
  have hperm : (rows.map fun r => (key r, g r)).Perm (others.map fun o => (key' o, g' o)) := by
    refine (List.perm_ext_iff_of_nodup (List.Nodup.of_map Prod.fst ?_)
      (List.Nodup.of_map Prod.fst ?_)).mpr hmem
    · simpa [List.map_map, Function.comp_def] using hrows
    · simpa [List.map_map, Function.comp_def] using hothers
  have hsum := (hperm.map Prod.snd).sum_eq
  simpa [List.map_map, Function.comp_def] using hsum

/-! ### Inserts under a unique key -/

section Upsert
variable {κ : Type*} [DecidableEq κ] (key : α → κ) (merge : α → α → α)

/-- Inserts a row, or merges it into the row that has its key. -/
def upsert (row : α) (rows : List α) : List α :=
  if key row ∈ rows.map key then
    rows.map fun old => if key old = key row then merge old row else old
  else rows ++ [row]

theorem upsert_of_new {row : α} {rows : List α} (h : key row ∉ rows.map key) :
    upsert key merge row rows = rows ++ [row] := if_neg h

variable {key merge}

theorem upsert_keys (hmerge : ∀ old row, key (merge old row) = key old) (row : α)
    (rows : List α) : (upsert key merge row rows).map key =
      if key row ∈ rows.map key then rows.map key else rows.map key ++ [key row] := by
  unfold upsert
  split_ifs with h
  · rw [List.map_map]
    refine List.map_congr_left fun old _ => ?_
    simp only [Function.comp_apply]
    split_ifs
    · exact hmerge old row
    · rfl
  · rw [List.map_append, List.map_singleton]

theorem upsert_keys_prefix (hmerge : ∀ old row, key (merge old row) = key old) (row : α)
    (rows : List α) : rows.map key <+: (upsert key merge row rows).map key := by
  rw [upsert_keys hmerge]
  split_ifs
  · exact List.prefix_rfl
  · exact List.prefix_append _ _

theorem getElem?_of_prefix {β : Type*} {l l' : List β} (h : l <+: l') {i : ℕ} {b : β}
    (hb : l[i]? = some b) : l'[i]? = some b := by
  obtain ⟨rest, rfl⟩ := h
  obtain ⟨hi, -⟩ := List.getElem?_eq_some_iff.mp hb
  rw [List.getElem?_append_left hi]
  exact hb

theorem getElem?_upsert {row s : α} {rows : List α} {id : ℕ}
    (h : (upsert key merge row rows)[id]? = some s) :
    (∃ old, rows[id]? = some old ∧ s = if key old = key row then merge old row else old) ∨
      (id = rows.length ∧ s = row ∧ key row ∉ rows.map key) := by
  unfold upsert at h
  by_cases hmem : key row ∈ rows.map key
  · rw [if_pos hmem, List.getElem?_map] at h
    obtain ⟨old, hold, hs⟩ := Option.map_eq_some_iff.mp h
    exact .inl ⟨old, hold, hs.symm⟩
  · rw [if_neg hmem] at h
    by_cases hlt : id < rows.length
    · rw [List.getElem?_append_left hlt] at h
      refine .inl ⟨s, h, ?_⟩
      have hkey : key s ≠ key row :=
        fun heq => hmem (heq ▸ List.mem_map_of_mem (List.mem_of_getElem? h))
      rw [if_neg hkey]
    · rw [List.getElem?_append_right (not_lt.mp hlt)] at h
      obtain ⟨hid, hs⟩ := List.getElem?_eq_some_iff.mp h
      rw [List.length_singleton] at hid
      exact .inr ⟨by omega, by simpa [Nat.lt_one_iff.mp hid] using hs.symm, hmem⟩

theorem getElem?_upsert_of_old {row old : α} {rows : List α} {id : ℕ}
    (h : rows[id]? = some old) : (upsert key merge row rows)[id]? =
      some (if key old = key row then merge old row else old) := by
  unfold upsert
  by_cases hmem : key row ∈ rows.map key
  · rw [if_pos hmem, List.getElem?_map, h, Option.map_some]
  · have hkey : key old ≠ key row :=
      fun heq => hmem (heq ▸ List.mem_map_of_mem (List.mem_of_getElem? h))
    rw [if_neg hmem, if_neg hkey,
      List.getElem?_append_left (List.getElem?_eq_some_iff.mp h).1, h]

theorem mem_upsert_keys (hmerge : ∀ old row, key (merge old row) = key old) (row : α)
    (rows : List α) : key row ∈ (upsert key merge row rows).map key := by
  rw [upsert_keys hmerge]
  split_ifs with h
  · exact h
  · simp

end Upsert

end PolymarketBot.Lib.Rows
