import PolymarketBot.Lib.Overwrite
import PolymarketBot.Flow.Json

/-! The run context: its `nodeState` entries, the edits the flow engine makes to a
context it holds, and the once, re-entry and rotation state of a market price trigger. -/

namespace PolymarketBot.Flow
open Lib.Overwrite

def nestedFields (context : Value) (key : String) : Fields :=
  ((context.get key).getD .null).fields

/-- `ensure_nested_object` followed by writing the nested object back. -/
def setNested (context : Value) (key : String) (fs : Fields) : Value :=
  .object (setField key (.object fs) context.fields)

def setFlowNodeState (context : Value) (nodeKey stateKey : String) (value : Value) : Value :=
  let nodeState := nestedFields context "nodeState"
  let state := ((field nodeKey nodeState).getD .null).fields
  setNested context "nodeState" (setField nodeKey (.object (setField stateKey value state)) nodeState)

def removeFlowNodeState (context : Value) (nodeKey stateKey : String) : Value :=
  match context.get "nodeState" with
  | some (.object nodeState) =>
    match field nodeKey nodeState with
    | some (.object node) =>
      setNested context "nodeState" (setField nodeKey (.object (dropField stateKey node)) nodeState)
    | _ => context
  | _ => context

def flowNodeState (context : Value) (nodeKey stateKey : String) : Option Value :=
  ((context.get "nodeState").bind fun nodeState => nodeState.get nodeKey).bind fun node =>
    node.get stateKey

inductive ContextSection where
  | state
  | vars
  | flowContext
  | refs
  deriving DecidableEq

def ContextSection.key : ContextSection → String
  | .state => "state"
  | .vars => "vars"
  | .flowContext => "flowContext"
  | .refs => "refs"

/-- `set_flow_state`, `set_flow_var`, `set_flow_context` and `set_flow_ref`: a null
value removes the key, except among the variables. -/
def setFlowSection (sec : ContextSection) (context : Value) (key : String) (value : Value) : Value :=
  let fs := nestedFields context sec.key
  match sec, value with
  | .vars, v => setNested context sec.key (setField key v fs)
  | _, .null => setNested context sec.key (dropField key fs)
  | _, v => setNested context sec.key (setField key v fs)

def normalizeTradeFlowContext (context graphContext : Value) : Value :=
  let root := context.fields
  let graphCtx := if graphContext.isObject then graphContext else .object []
  let keep (fs : Fields) (key : String) (default : Value) : Fields :=
    if ((field key fs).map Value.isObject).getD false then fs else setField key default fs
  let root := keep root "flowContext" graphCtx
  let root := ["vars", "state", "refs", "nodeState"].foldl (fun fs key => keep fs key (.object [])) root
  .object root

theorem get_setNested (context : Value) (key key' : String) (fs : Fields) :
    (setNested context key fs).get key' =
      if key' = key then some (.object fs) else context.get key' := by
  simp [setNested, Value.get]

theorem flowNodeState_eq (context : Value) (nodeKey stateKey : String) :
    flowNodeState context nodeKey stateKey =
      field stateKey ((field nodeKey (nestedFields context "nodeState")).getD .null).fields := by
  unfold flowNodeState nestedFields
  cases context.get "nodeState" with
  | none => simp [Value.fields, field]
  | some nodeState =>
    simp only [Option.bind_some, Option.getD_some, Value.get]
    cases field nodeKey nodeState.fields with
    | none => simp [Value.fields, field]
    | some node => rfl

theorem nestedFields_setNested (context : Value) (key : String) (fs : Fields) :
    nestedFields (setNested context key fs) key = fs := by
  simp [nestedFields, get_setNested]

theorem nestedFields_setNested_of_ne (context : Value) {key key' : String} (h : key' ≠ key)
    (fs : Fields) : nestedFields (setNested context key fs) key' = nestedFields context key' := by
  simp [nestedFields, get_setNested, h]

theorem flowNodeState_setFlowNodeState (context : Value) (n k n' k' : String) (v : Value) :
    flowNodeState (setFlowNodeState context n k v) n' k' =
      if n' = n ∧ k' = k then some v else flowNodeState context n' k' := by
  rw [flowNodeState_eq, flowNodeState_eq, setFlowNodeState, nestedFields_setNested, field_setField]
  by_cases hn : n' = n
  · subst hn
    by_cases hk : k' = k <;> simp [hk]
  · simp [hn]

theorem flowNodeState_removeFlowNodeState (context : Value) (n k n' k' : String) :
    flowNodeState (removeFlowNodeState context n k) n' k' =
      if n' = n ∧ k' = k then none else flowNodeState context n' k' := by
  unfold removeFlowNodeState
  split
  · rename_i nodeState hs
    have hn : nestedFields context "nodeState" = nodeState := by simp [nestedFields, hs]
    split
    · rename_i node hnode
      rw [flowNodeState_eq, flowNodeState_eq, nestedFields_setNested, field_setField, hn]
      by_cases h : n' = n
      · subst h
        by_cases hk : k' = k <;> simp [hk, hnode]
      · simp [h]
    · rename_i hnode
      split
      · rename_i h
        obtain ⟨rfl, rfl⟩ := h
        rw [flowNodeState_eq, hn]
        cases hf : field n' nodeState with
        | none => rfl
        | some w =>
          have hw : w.isObject = false := by
            cases w <;> simp_all [Value.isObject]
          exact Value.get_of_not_object hw k'
      · rfl
  · rename_i hs
    split
    · rename_i h
      obtain ⟨rfl, rfl⟩ := h
      rw [flowNodeState]
      cases hg : context.get "nodeState" with
      | none => rfl
      | some w =>
        have hw : w.isObject = false := by
          cases w <;> simp_all [Value.isObject]
        simp [Value.get_of_not_object hw]
    · rfl

theorem ContextSection.key_ne_nodeState (sec : ContextSection) : sec.key ≠ "nodeState" := by
  cases sec <;> decide

theorem flowNodeState_setFlowSection (sec : ContextSection) (context : Value) (key : String)
    (v : Value) (n k : String) :
    flowNodeState (setFlowSection sec context key v) n k = flowNodeState context n k := by
  have hs : "nodeState" ≠ sec.key := (sec.key_ne_nodeState).symm
  have h (fs : Fields) : flowNodeState (setNested context sec.key fs) n k =
      flowNodeState context n k := by
    rw [flowNodeState_eq, flowNodeState_eq, nestedFields_setNested_of_ne context hs]
  unfold setFlowSection
  split
  · exact h _
  · exact h _
  · exact h _

end PolymarketBot.Flow
