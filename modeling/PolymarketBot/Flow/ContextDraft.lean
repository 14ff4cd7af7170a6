import PolymarketBot.Flow.RunContext

/-! Code that edits a context it holds is written as a draft: it reads the context as
edited so far and leaves a log of its edits. The log is what a later overwrite carries. -/

namespace PolymarketBot.Flow
open Lib.Overwrite

inductive ContextEdit where
  | setNodeState (nodeKey stateKey : String) (value : Value)
  | removeNodeState (nodeKey stateKey : String)
  | setSection (sec : ContextSection) (key : String) (value : Value)

def ContextEdit.apply (context : Value) : ContextEdit → Value
  | .setNodeState n k v => setFlowNodeState context n k v
  | .removeNodeState n k => removeFlowNodeState context n k
  | .setSection sec k v => setFlowSection sec context k v

def applyEdits (es : List ContextEdit) (context : Value) : Value :=
  es.foldl ContextEdit.apply context

/-- A node state entry is named by its node and its state key. -/
abbrev EntryKey := String × String

def entries (context : Value) : Cell EntryKey Value :=
  fun e => flowNodeState context e.1 e.2

def ContextEdit.entryEdits : ContextEdit → List (Edit EntryKey Value)
  | .setNodeState n k v => [⟨(n, k), some v⟩]
  | .removeNodeState n k => [⟨(n, k), none⟩]
  | .setSection _ _ _ => []

def entryEdits (es : List ContextEdit) : List (Edit EntryKey Value) :=
  es.flatMap ContextEdit.entryEdits

theorem entries_apply (context : Value) (e : ContextEdit) :
    entries (e.apply context) = applyAll e.entryEdits (entries context) := by
  funext ⟨n, k⟩
  cases e with
  | setNodeState n' k' v =>
    simp only [entries, ContextEdit.apply, flowNodeState_setFlowNodeState, ContextEdit.entryEdits,
      applyAll_cons, applyAll_nil, Edit.apply, Function.update_apply, Prod.mk.injEq]
  | removeNodeState n' k' =>
    simp only [entries, ContextEdit.apply, flowNodeState_removeFlowNodeState,
      ContextEdit.entryEdits, applyAll_cons, applyAll_nil, Edit.apply, Function.update_apply,
      Prod.mk.injEq]
  | setSection sec k' v =>
    simp only [entries, ContextEdit.apply, flowNodeState_setFlowSection, ContextEdit.entryEdits,
      applyAll_nil]

theorem entries_applyEdits (es : List ContextEdit) (context : Value) :
    entries (applyEdits es context) = applyAll (entryEdits es) (entries context) := by
  induction es generalizing context with
  | nil => rfl
  | cons e es ih =>
    have h : applyEdits (e :: es) context = applyEdits es (e.apply context) := rfl
    rw [h, ih, entries_apply, ← applyAll_append]
    rfl

theorem applyEdits_append (es fs : List ContextEdit) (context : Value) :
    applyEdits (es ++ fs) context = applyEdits fs (applyEdits es context) := by
  simp [applyEdits, List.foldl_append]

theorem entries_normalize (context graphContext : Value) :
    entries (normalizeTradeFlowContext context graphContext) = entries context := by
  have hkeep (fs : Fields) (key : String) (d : Value) (hd : key = "nodeState" → d = .object []) :
      entries (.object (if ((field key fs).map Value.isObject).getD false then fs
        else setField key d fs)) = entries (.object fs) := by
    split
    · rfl
    · rename_i ho
      funext ⟨n, k⟩
      by_cases hk : key = "nodeState"
      · subst hk
        have hf : ((field "nodeState" fs).getD .null).fields = [] := by
          cases hg : field "nodeState" fs with
          | none => rfl
          | some w => cases w <;> simp_all [Value.isObject, Value.fields]
        simp [entries, flowNodeState_eq, hf, nestedFields, Value.get, hd]
      · simp [entries, flowNodeState_eq, nestedFields, Value.get, Ne.symm hk]
  have hroot : entries (.object context.fields) = entries context := by
    funext ⟨n, k⟩
    simp [entries, flowNodeState_eq, nestedFields, Value.get]
  simp only [normalizeTradeFlowContext, List.foldl_cons, List.foldl_nil]
  rw [hkeep _ "nodeState" _ (fun _ => rfl), hkeep _ "refs" _ (by simp), hkeep _ "state" _ (by simp),
    hkeep _ "vars" _ (by simp), hkeep _ "flowContext" _ (by simp), hroot]

def Draft (α : Type) := Value → α × List ContextEdit

namespace Draft
variable {α β : Type}

def bind (m : Draft α) (f : α → Draft β) : Draft β := fun context =>
  let (a, es) := m context
  let (b, fs) := f a (applyEdits es context)
  (b, es ++ fs)

instance : Monad Draft where
  pure a := fun _ => (a, [])
  bind := bind

def read : Draft Value := fun context => (context, [])

def edit (e : ContextEdit) : Draft Unit := fun _ => ((), [e])

def set (nodeKey stateKey : String) (value : Value) : Draft Unit :=
  edit (.setNodeState nodeKey stateKey value)

def remove (nodeKey stateKey : String) : Draft Unit :=
  edit (.removeNodeState nodeKey stateKey)

/-- The context as the draft leaves it. -/
def run (m : Draft α) (context : Value) : Value := applyEdits (m context).2 context

def each (xs : List β) (f : β → Draft Unit) : Draft Unit :=
  match xs with
  | [] => pure ()
  | x :: xs => do
    f x
    each xs f

theorem pure_fst (a : α) (context : Value) : ((pure a : Draft α) context).1 = a := rfl

theorem pure_snd (a : α) (context : Value) : ((pure a : Draft α) context).2 = [] := rfl

theorem pure_run (a : α) (context : Value) : (pure a : Draft α).run context = context := rfl

theorem bind_fst (m : Draft α) (f : α → Draft β) (context : Value) :
    ((m >>= f) context).1 = (f (m context).1 (m.run context)).1 := rfl

theorem bind_snd (m : Draft α) (f : α → Draft β) (context : Value) :
    ((m >>= f) context).2 = (m context).2 ++ (f (m context).1 (m.run context)).2 := rfl

theorem bind_run (m : Draft α) (f : α → Draft β) (context : Value) :
    (m >>= f).run context = (f (m context).1).run (m.run context) :=
  applyEdits_append (m context).2 (f (m context).1 (m.run context)).2 context

@[simp] theorem read_fst (context : Value) : (read context).1 = context := rfl

theorem read_snd (context : Value) : (read context).2 = [] := rfl

@[simp] theorem read_run (context : Value) : read.run context = context := rfl

@[simp] theorem set_run (nodeKey stateKey : String) (value : Value) (context : Value) :
    (set nodeKey stateKey value).run context = setFlowNodeState context nodeKey stateKey value := rfl

@[simp] theorem remove_run (nodeKey stateKey : String) (context : Value) :
    (remove nodeKey stateKey).run context = removeFlowNodeState context nodeKey stateKey := rfl

end Draft

/-- Every edit the draft makes is of a kind. -/
def Draft.All {α : Type} (kind : ContextEdit → Prop) (m : Draft α) : Prop :=
  ∀ context, ∀ e ∈ (m context).2, kind e

namespace Draft.All
variable {α β : Type} {kind : ContextEdit → Prop}

theorem pure (a : α) : Draft.All kind (Pure.pure a : Draft α) := by
  intro context e he
  cases he

theorem read : Draft.All kind Draft.read := by
  intro context e he
  cases he

theorem edit {e : ContextEdit} (h : kind e) : Draft.All kind (Draft.edit e) := by
  intro context e' he'
  rw [List.mem_singleton.mp he']
  exact h

theorem bind {m : Draft α} {f : α → Draft β} (hm : m.All kind) (hf : ∀ a, (f a).All kind) :
    (m >>= f).All kind := by
  intro context e he
  have hedits : ((m >>= f) context).2 =
      (m context).2 ++ (f (m context).1 (m.run context)).2 := rfl
  rw [hedits] at he
  rcases List.mem_append.mp he with he | he
  · exact hm context e he
  · exact hf _ _ e he

theorem mono {m : Draft α} {kind' : ContextEdit → Prop} (h : m.All kind)
    (hkind : ∀ e, kind e → kind' e) : m.All kind' :=
  fun context e he => hkind e (h context e he)

theorem each {xs : List β} {f : β → Draft Unit} (h : ∀ x ∈ xs, (f x).All kind) :
    (Draft.each xs f).All kind := by
  induction xs with
  | nil => exact .pure ()
  | cons x rest ih =>
    have hrest := ih fun y hy => h y (List.mem_cons_of_mem x hy)
    exact .bind (h x (List.mem_cons_self ..)) fun _ => hrest

end Draft.All

/-- The edit is not of an entry under this state key. -/
def ContextEdit.Spares (stateKey : String) : ContextEdit → Prop
  | .setNodeState _ key _ | .removeNodeState _ key => key ≠ stateKey
  | .setSection _ _ _ => True

/-- The edit puts nothing under this state key. -/
def ContextEdit.NeverSets (stateKey : String) : ContextEdit → Prop
  | .setNodeState _ key _ => key ≠ stateKey
  | .removeNodeState _ _ | .setSection _ _ _ => True

theorem ContextEdit.Spares.neverSets {stateKey : String} {e : ContextEdit} (h : e.Spares stateKey) :
    e.NeverSets stateKey := by
  cases e with
  | setNodeState nodeKey key value => exact h
  | removeNodeState nodeKey key => trivial
  | setSection sec key value => trivial

theorem flowNodeState_of_spared {es : List ContextEdit} {nodeKey stateKey : String}
    (h : (nodeKey, stateKey) ∉ keys (entryEdits es)) (context : Value) :
    flowNodeState (applyEdits es context) nodeKey stateKey =
      flowNodeState context nodeKey stateKey := by
  have hentry := congrFun (entries_applyEdits es context) (nodeKey, stateKey)
  rwa [applyAll_of_not_mem h] at hentry

theorem flowNodeState_spared {stateKey : String} {es : List ContextEdit}
    (h : ∀ e ∈ es, e.Spares stateKey) (context : Value) (nodeKey : String) :
    flowNodeState (applyEdits es context) nodeKey stateKey =
      flowNodeState context nodeKey stateKey := by
  refine flowNodeState_of_spared (fun hmem => ?_) context
  simp only [keys, entryEdits, List.mem_map, List.mem_flatMap] at hmem
  obtain ⟨edit, ⟨e, he, hedit⟩, hkey⟩ := hmem
  have hspare := h e he
  cases e with
  | setNodeState n k v =>
    rw [List.mem_singleton.mp hedit] at hkey
    exact hspare (Prod.mk.inj hkey).2
  | removeNodeState n k =>
    rw [List.mem_singleton.mp hedit] at hkey
    exact hspare (Prod.mk.inj hkey).2
  | setSection sec k v => cases hedit

theorem flowNodeState_absent {stateKey : String} {es : List ContextEdit}
    (h : ∀ e ∈ es, e.NeverSets stateKey) {context : Value} {nodeKey : String}
    (habsent : flowNodeState context nodeKey stateKey = none) :
    flowNodeState (applyEdits es context) nodeKey stateKey = none := by
  induction es generalizing context with
  | nil => exact habsent
  | cons e rest ih =>
    have hfirst : flowNodeState (e.apply context) nodeKey stateKey = none := by
      have he := h e (List.mem_cons_self ..)
      cases e with
      | setNodeState n k v =>
        rw [ContextEdit.apply, flowNodeState_setFlowNodeState, if_neg fun hk => he hk.2.symm]
        exact habsent
      | removeNodeState n k =>
        rw [ContextEdit.apply, flowNodeState_removeFlowNodeState, habsent, ite_self]
      | setSection sec k v =>
        rw [ContextEdit.apply, flowNodeState_setFlowSection]
        exact habsent
    exact ih (fun e' he' => h e' (List.mem_cons_of_mem _ he')) hfirst

end PolymarketBot.Flow
