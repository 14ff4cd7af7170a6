import PolymarketBot.Editor.Script
import PolymarketBot.Lib.Worklist

/-! The editor's graph: how it is read from JSON, and the searches upstream of a node. -/

namespace PolymarketBot.Editor
open PolymarketBot.Flow Lib

structure TradeFlowNode where
  key : String
  type : String
  config : Fields

structure TradeFlowEdge where
  key : String
  source : String
  target : String
  type : String
  condition : Option Fields

structure TradeFlowGraph where
  context : Fields := []
  nodes : List TradeFlowNode := []
  edges : List TradeFlowEdge := []

/-! ### Upstream of a node -/

/-- `nodeMap.get(key)`: of nodes with one key the last is kept. -/
def nodeOf (graph : TradeFlowGraph) (key : String) : Option TradeFlowNode :=
  graph.nodes.reverse.find? fun node => node.key = key

def incomingByTarget (graph : TradeFlowGraph) (target : String) : List String :=
  (graph.edges.filter fun edge => edge.target = target).map fun edge => edge.source

/-- What a search does with each source that is a node, in turn; it may end the search. -/
def visitSources {σ : Type} (graph : TradeFlowGraph) (meet : σ → TradeFlowNode → String → Option σ) :
    List String → σ → Option (List String × σ)
  | [], found => some ([], found)
  | sourceKey :: sources, found =>
    match nodeOf graph sourceKey with
    | none => visitSources graph meet sources found
    | some sourceNode =>
      match meet found sourceNode sourceKey with
      | none => none
      | some found' => (visitSources graph meet sources found').map fun next =>
          (sourceKey :: next.1, next.2)

def upstreamExpansion {σ : Type} (graph : TradeFlowGraph)
    (meet : σ → TradeFlowNode → String → Option σ) : Worklist.Expansion String σ where
  expand found current := visitSources graph meet (incomingByTarget graph current) found
  support := graph.edges.map fun edge => edge.target
  quiet found current pushed found' hexpand hsupport := by
    have hnone : incomingByTarget graph current = [] := by
      rw [incomingByTarget, List.map_eq_nil_iff, List.filter_eq_nil_iff]
      intro edge hedge htarget
      exact hsupport (List.mem_map.mpr ⟨edge, hedge, by simpa using htarget⟩)
    rw [hnone, visitSources, Option.some_inj, Prod.mk.injEq] at hexpand
    exact hexpand.1.symm

/-- The queue starts with the node; each key is expanded once. -/
def searchUpstream {σ : Type} (graph : TradeFlowGraph)
    (meet : σ → TradeFlowNode → String → Option σ) (nodeKey : String) (found : σ) : Option σ :=
  Worklist.run (upstreamExpansion graph meet) [nodeKey] [] found

/-- The searches that end at the first source of a kind. -/
def hasUpstream (wanted : TradeFlowNode → Bool) (nodeKey : String) (graph : TradeFlowGraph) : Bool :=
  (searchUpstream graph (fun _ node _ => if wanted node then none else some ()) nodeKey ()).isNone

def isAutoScopeMarketTrigger (node : TradeFlowNode) : Bool :=
  node.type = "trigger.market_price" && loweredString (field "marketMode" node.config) = "auto_scope"

def hasUpstreamAutoScopeMarketTrigger (nodeKey : String) (graph : TradeFlowGraph) : Bool :=
  hasUpstream isAutoScopeMarketTrigger nodeKey graph

def arrayItems : Option Value → List Value
  | some (.array vs) => vs
  | _ => []

/-- A second trigger ends the search without a result. -/
def findUniqueUpstreamMarketPriceTrigger (nodeKey : String) (graph : TradeFlowGraph) :
    Option String :=
  (searchUpstream graph
    (fun (foundKey : Option String) sourceNode sourceKey =>
      if sourceNode.type = "trigger.market_price" then
        if foundKey.any fun key => key ≠ "" && key ≠ sourceKey then none else some (some sourceKey)
      else some foundKey)
    nodeKey none).join

/-! ### The market of the fixed triggers upstream -/

inductive Distinct where
  | none | single | multiple
  deriving DecidableEq

structure FixedTriggerSeed where
  marketSlug : String
  /-- The token and the outcome's label, where the trigger is for a single outcome. -/
  outcome : Option (String × String)
  outcomeKind : Distinct

def outcomePair (tokenId outcomeLabel : String) : Option (String × String) :=
  if tokenId ≠ "" ∧ outcomeLabel ≠ "" then some (tokenId, outcomeLabel) else none

def extractFixedTriggerSeed (node : TradeFlowNode) : Option FixedTriggerSeed :=
  let config := node.config
  let marketSlug := toTrimmedString (field "marketSlug" config)
  if node.type ≠ "trigger.market_price" then none
  else if loweredString (field "marketMode" config) = "auto_scope" ∨ marketSlug = "" then none
  else
    match (arrayItems (field "outcomeConditions" config)).filter Value.isObject with
    | [] =>
      let outcome := outcomePair (toTrimmedString (field "tokenId" config))
        (toTrimmedString (field "outcomeLabel" config))
      some ⟨marketSlug, outcome, if outcome.isSome then .single else .none⟩
    | [row] =>
      let outcome := outcomePair (toTrimmedString (row.get "tokenId"))
        (toTrimmedString (row.get "outcomeLabel"))
      some ⟨marketSlug, outcome, if outcome.isSome then .single else .multiple⟩
    | _ => some ⟨marketSlug, none, .multiple⟩

/-- What the search for the fixed triggers has met; the pairs are joined by two colons. -/
structure FixedTriggers where
  distinctMarketSlugs : List String := []
  distinctOutcomePairs : List String := []
  hasUnresolvedOutcome : Bool := false

def FixedTriggers.meet (found : FixedTriggers) (seed : FixedTriggerSeed) : FixedTriggers :=
  let slugs := found.distinctMarketSlugs.insert seed.marketSlug
  match seed.outcomeKind, seed.outcome with
  | .single, some (tokenId, outcomeLabel) =>
    { found with
      distinctMarketSlugs := slugs
      distinctOutcomePairs := found.distinctOutcomePairs.insert (tokenId ++ "::" ++ outcomeLabel) }
  | _, _ => { found with distinctMarketSlugs := slugs, hasUnresolvedOutcome := true }

structure FixedTriggerMarketResolution where
  kind : Distinct
  marketSlug : Option String := none
  outcomeKind : Distinct
  tokenId : Option String := none
  outcomeLabel : Option String := none

/-- `text.split('::')`. -/
def splitColons : List Char → List Char → List String
  | part, [] => [String.ofList part.reverse]
  | part, ':' :: ':' :: rest => String.ofList part.reverse :: splitColons [] rest
  | part, c :: rest => splitColons (c :: part) rest

def filled (s : Option String) : Option String := s.filter (· ≠ "")

def FixedTriggers.resolution (found : FixedTriggers) : FixedTriggerMarketResolution :=
  match found.distinctMarketSlugs with
  | [] => { kind := .none, outcomeKind := .none }
  | [marketSlug] =>
    match found.hasUnresolvedOutcome, found.distinctOutcomePairs with
    | false, [pair] =>
      let parts := splitColons [] pair.toList
      { kind := .single
        marketSlug := some marketSlug
        outcomeKind := .single
        tokenId := filled parts[0]?
        outcomeLabel := filled parts[1]? }
    | unresolved, pairs =>
      { kind := .single
        marketSlug := some marketSlug
        outcomeKind := if unresolved || 1 < pairs.length then .multiple else .none }
  | _ => { kind := .multiple, outcomeKind := .multiple }

def resolveUpstreamFixedTriggerMarket (nodeKey : String) (graph : TradeFlowGraph) :
    FixedTriggerMarketResolution :=
  ((searchUpstream graph
    (fun found sourceNode _ =>
      match extractFixedTriggerSeed sourceNode with
      | some seed => some (FixedTriggers.meet found seed)
      | none => some found)
    nodeKey {}).getD {}).resolution

end PolymarketBot.Editor
