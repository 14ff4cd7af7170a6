import PolymarketBot.Flow.OnceNode

/-! The edges of a flow graph: which of them a step's route takes, and the steps it queues. -/

namespace PolymarketBot.Flow

def flowNode (graph : TradeFlowGraphRuntime) (key : String) : Option ConfiguredNode :=
  graph.nodes.find? fun node => node.key = key

def insertFields (root fs : Fields) : Fields := fs.foldl (fun root f => setField f.1 f.2 root) root

/-- The data that conditions read: the members of three sections, then the sections themselves. -/
def buildTradeFlowEvalData (context : Value) : Fields :=
  let root := ["flowContext", "state", "vars"].foldl
    (fun root key => insertFields root (nestedFields context key)) []
  ["flowContext", "state", "vars", "refs", "nodeState"].foldl
    (fun root key => match context.get key with
      | some value => setField key value root
      | none => root) root

def buildTradeFlowRouteEvalData (context output : Value) : Value :=
  .object (insertFields (setField "output" output (buildTradeFlowEvalData context)) output.fields)

/-- Without an edge of the route's type its default edges count, but not for an error. -/
def resolveTradeFlowCandidateEdges (graph : TradeFlowGraphRuntime) (sourceKey edgeType : String) :
    List TradeFlowEdge :=
  let ofType (edgeType : String) :=
    graph.edges.filter fun edge => edge.source = sourceKey && edge.edgeType = edgeType
  if (ofType edgeType).isEmpty && edgeType ≠ "default" && edgeType ≠ "on_error" then
    ofType "default"
  else ofType edgeType

section Jsonlogic
variable (evaluateJsonlogic : Value → Value → Value)

def tradeFlowEdgeConditionPasses (edge : TradeFlowEdge) (evalData : Value) : Bool :=
  (edge.condition.map fun condition => valueTruthy (evaluateJsonlogic condition evalData)).getD true

def resolveTradeFlowTargets (graph : TradeFlowGraphRuntime) (sourceKey edgeType : String)
    (evalData : Value) : List String :=
  ((resolveTradeFlowCandidateEdges graph sourceKey edgeType).filter fun edge =>
    tradeFlowEdgeConditionPasses evaluateJsonlogic edge evalData).map fun edge => edge.target

/-- The nodes that the steps of a route are for; a target that is no node is passed over. -/
def edgeTargets (graph : TradeFlowGraphRuntime) (sourceKey edgeType : String)
    (context output : Value) : List ConfiguredNode :=
  (resolveTradeFlowTargets evaluateJsonlogic graph sourceKey edgeType
    (buildTradeFlowRouteEvalData context output)).filterMap (flowNode graph)

end Jsonlogic

structure FlowStep where
  nodeKey : String
  attempt : ℤ := 1
  input : Option Value := none

/-- The attempt of a queued step: one, or the output's next attempt on an edge from a node to
itself. -/
def edgeAttempt (sourceKey targetKey : String) (output : Value) : ℤ :=
  if targetKey = sourceKey then
    Int.bmod (max (((output.get "next_attempt").bind valueAsI64).getD 1) 1) (2 ^ 32)
  else 1

theorem edgeAttempt_other {sourceKey targetKey : String} (h : targetKey ≠ sourceKey)
    (output : Value) : edgeAttempt sourceKey targetKey output = 1 := if_neg h

end PolymarketBot.Flow
