import PolymarketBot.Editor.Accepted
import PolymarketBot.Editor.NormalizePasses

/-! How a flow definition is created, saved and published. Each request holds the definition's
lock, and one that fails changes nothing. -/

namespace PolymarketBot.Editor
open PolymarketBot.Flow Lib Relation

/-! ### Custom ranges before and after -/

structure CustomRangeSnapshot where
  nodeKey : String
  startSec : ℤ
  endSec : ℤ
  autoSellOnWindowEnd : Bool
  deriving DecidableEq

def toBooleanValue : Option Value → Bool
  | some (.bool b) => b
  | some (.number n) => n.asF64 ≠ 0
  | some (.string s) => lowercase (scriptTrim s) ∈ ["true", "1", "yes", "y", "on"]
  | _ => false

def extractTriggerMarketPriceCustomRangeSnapshot (nodeKey : String) (config : Fields) :
    Option CustomRangeSnapshot :=
  if windowMode config ≠ "custom_range" then none
  else
    (customRange config).map fun range =>
      { nodeKey
        startSec := range.1
        endSec := range.2
        autoSellOnWindowEnd := toBooleanValue (field "autoSellOnWindowEnd" config) }

def nodeCustomRangeSnapshot (node : Value) : Option CustomRangeSnapshot :=
  let nodeKey := scriptTrim (toStringValue (node.get "key"))
  let nodeType := scriptTrim (toStringValue (node.get "type"))
  if !node.isObject || nodeKey = "" || nodeType ≠ "trigger.market_price" ||
      !isRecord (node.get "config") then none
  else extractTriggerMarketPriceCustomRangeSnapshot nodeKey (recordOrEmpty (node.get "config"))

def collectTriggerMarketPriceCustomRangeSnapshots (graphOrJson : Value) :
    List CustomRangeSnapshot :=
  (arrayItems (graphOrJson.get "nodes")).filterMap nodeCustomRangeSnapshot

/-- Of snapshots with one key the last is compared. -/
def snapshotOf (snapshots : List CustomRangeSnapshot) (nodeKey : String) :
    Option CustomRangeSnapshot :=
  snapshots.reverse.find? fun snapshot => snapshot.nodeKey = nodeKey

def diffTriggerMarketPriceCustomRangeSnapshots (before after : List CustomRangeSnapshot) :
    List String :=
  (((before ++ after).map fun snapshot => snapshot.nodeKey).dedup).filter fun nodeKey =>
    snapshotOf before nodeKey ≠ snapshotOf after nodeKey

/-! ### Definitions -/

inductive DefinitionError where
  | customRangeMutated (nodeKeys : List String)
  | draftNotFound
  | invalid (messages : List String)
  | invalidRootsWithoutTrigger
  | missingTrigger
  | elsewhere (message : String)
  deriving DecidableEq

def assertCustomRangeIntegrityOrThrow (beforeGraph : Value) (afterGraph : TradeFlowGraph) :
    Except DefinitionError Unit :=
  let diffs := diffTriggerMarketPriceCustomRangeSnapshots
    (collectTriggerMarketPriceCustomRangeSnapshots beforeGraph)
    (collectTriggerMarketPriceCustomRangeSnapshots afterGraph.toJson)
  if diffs.length = 0 then .ok () else .error (.customRangeMutated diffs)

/-- The graphs that are stored for a definition: its draft, and what was published of it, the
newest first. -/
structure TradeFlowDefinition where
  draft : Option Value
  published : List Value := []

def createTradeFlowDefinition (graphJson : Value) : Except DefinitionError TradeFlowDefinition := do
  let graph := normalizeTradeFlowGraph graphJson
  assertCustomRangeIntegrityOrThrow graphJson graph
  return { draft := some graph.toJson }

/-- A definition without a draft is given one of what was published last. -/
def updateTradeFlowDefinitionDraft (definition : TradeFlowDefinition) (graphJson : Option Value) :
    Except DefinitionError TradeFlowDefinition := do
  let fallbackGraph := (definition.published.head?.map normalizeTradeFlowGraph).getD {}
  let draft := definition.draft.getD fallbackGraph.toJson
  match graphJson with
  | none => return { definition with draft := some draft }
  | some graphJson =>
    let normalizedGraph := normalizeTradeFlowGraph graphJson
    assertCustomRangeIntegrityOrThrow graphJson normalizedGraph
    return { definition with draft := some normalizedGraph.toJson }

/-- The nodes for which a run is given its first steps. -/
def selectTradeFlowSeedNodes (graph : TradeFlowGraph) :
    Except DefinitionError (List TradeFlowNode) :=
  let triggerNodes := graph.nodes.filter isTriggerNode
  if 0 < triggerNodes.length then .ok triggerNodes
  else
    let rootNodeKeys := collectRootNodeKeys graph.nodes graph.edges
    let invalidRoots := graph.nodes.filter fun node =>
      node.key ∈ rootNodeKeys && !isDcaLiveMode node
    if 0 < invalidRoots.length then .error .invalidRootsWithoutTrigger
    else
      let dcaRoots := graph.nodes.filter fun node => isDcaLiveMode node && node.key ∈ rootNodeKeys
      if dcaRoots.length = 0 then .error .missingTrigger else .ok dcaRoots

/-- How the user's nodes and settings are checked. -/
structure Checks where
  validateNodeConfig : TradeFlowNode → TradeFlowGraph → List TradeFlowValidationIssue
  settingsIssues : TradeFlowGraph → List TradeFlowValidationIssue

section Checked
variable (checks : Checks)

/-- The draft is published as it is read, and goes on as the next draft. -/
def publishTradeFlowDefinition (definition : TradeFlowDefinition) :
    Except DefinitionError TradeFlowDefinition := do
  let some rawDraftGraphJson := definition.draft | .error .draftNotFound
  let graph := normalizeTradeFlowGraph rawDraftGraphJson
  assertCustomRangeIntegrityOrThrow rawDraftGraphJson graph
  let validation := validateTradeFlowGraphWithRuntimeConfig checks.validateNodeConfig
    checks.settingsIssues graph.toJson
  if !validation.valid then
    .error (.invalid ((validation.issues.filter isError).map fun issue => issue.message))
  else
    let _seedNodes ← selectTradeFlowSeedNodes graph
    return { draft := some graph.toJson, published := graph.toJson :: definition.published }

/-! ### Requests -/

/-- A request that is refused elsewhere fails for its session, its name, the lookup of the
definition, a lock or a key of the database, whatever its graph. -/
inductive Request where
  | update (graphJson : Option Value)
  | publish
  | refusedElsewhere (message : String)

/-- The routes normalize a graph before they hand it on. What else may refuse a new definition
leaves none. -/
def postDefinition (graphJson : Value) : Except DefinitionError TradeFlowDefinition :=
  createTradeFlowDefinition (normalizeTradeFlowGraph graphJson).toJson

def respond (definition : TradeFlowDefinition) : Request → Except DefinitionError TradeFlowDefinition
  | .update graphJson => updateTradeFlowDefinitionDraft definition
      (graphJson.map fun graphJson => (normalizeTradeFlowGraph graphJson).toJson)
  | .publish => publishTradeFlowDefinition checks definition
  | .refusedElsewhere message => .error (.elsewhere message)

def TradeFlowDefinition.step (definition : TradeFlowDefinition) (request : Request) :
    TradeFlowDefinition :=
  match respond checks definition request with
  | .ok next => next
  | .error _ => definition

end Checked

end PolymarketBot.Editor
