import PolymarketBot.Flow.Edges
import PolymarketBot.Lib.Worklist
import Mathlib.Logic.Relation

/-! The search for the market price trigger upstream of a node. -/

namespace PolymarketBot.Flow
open Lib Relation

def isMarketPriceTrigger (graph : TradeFlowGraphRuntime) (key : String) : Bool :=
  (flowNode graph key).any (·.nodeType == "trigger.market_price")

def incomingByTarget (graph : TradeFlowGraphRuntime) (target : String) : List String :=
  (graph.edges.filter (·.target == target)).map (·.source)

/-- The sources that are nodes are pushed; a second trigger beside the one found ends the search. -/
def scanSources (graph : TradeFlowGraphRuntime) (foundKey : Option String) :
    List String → Option (List String × Option String)
  | [] => some ([], foundKey)
  | sourceKey :: sources =>
    match flowNode graph sourceKey with
    | none => scanSources graph foundKey sources
    | some sourceNode =>
      if sourceNode.nodeType = "trigger.market_price" then
        if foundKey.any (· != sourceKey) then none
        else (scanSources graph (some sourceKey) sources).map fun next =>
          (sourceKey :: next.1, next.2)
      else (scanSources graph foundKey sources).map fun next => (sourceKey :: next.1, next.2)

def upstreamExpansion (graph : TradeFlowGraphRuntime) :
    Worklist.Expansion String (Option String) where
  expand foundKey current := scanSources graph foundKey (incomingByTarget graph current)
  support := graph.edges.map (·.target)
  quiet foundKey current pushed foundKey' hexpand hsupport := by
    have hnone : incomingByTarget graph current = [] := by
      rw [incomingByTarget, List.map_eq_nil_iff, List.filter_eq_nil_iff]
      intro edge hedge htarget
      exact hsupport (List.mem_map.mpr ⟨edge, hedge, by simpa using htarget⟩)
    rw [hnone, scanSources, Option.some_inj, Prod.mk.injEq] at hexpand
    exact hexpand.1.symm

/-- The search is total: its worklist ends on every graph. -/
def findUpstreamMarketPriceTriggerKey (nodeKey : String) (graph : TradeFlowGraphRuntime) :
    Option String :=
  (Worklist.run (upstreamExpansion graph) [nodeKey] [] none).join

def EdgeFrom (graph : TradeFlowGraphRuntime) (source target : String) : Prop :=
  (∃ edge ∈ graph.edges, edge.source = source ∧ edge.target = target) ∧
    (flowNode graph source).isSome = true

def Upstream (graph : TradeFlowGraphRuntime) : String → String → Prop := TransGen (EdgeFrom graph)

section Search
variable {graph : TradeFlowGraphRuntime}

theorem mem_incomingByTarget {source target : String} :
    source ∈ incomingByTarget graph target ↔
      ∃ edge ∈ graph.edges, edge.source = source ∧ edge.target = target := by
  simp [incomingByTarget, and_assoc, and_comm]

theorem isMarketPriceTrigger_node {key : String} (h : isMarketPriceTrigger graph key = true) :
    (flowNode graph key).isSome = true := by
  cases hnode : flowNode graph key with
  | none => simp [isMarketPriceTrigger, hnode] at h
  | some node => rfl

/-- What a scan pushes and finds. -/
structure Scanned (graph : TradeFlowGraphRuntime) (foundKey : Option String)
    (sources pushed : List String) (foundKey' : Option String) : Prop where
  pushed_iff : ∀ key, key ∈ pushed ↔ key ∈ sources ∧ (flowNode graph key).isSome = true
  kept : ∀ key, foundKey = some key → foundKey' = some key
  found : ∀ key ∈ sources, isMarketPriceTrigger graph key = true → foundKey' = some key
  sound : ∀ key, foundKey' = some key →
    foundKey = some key ∨ key ∈ sources ∧ isMarketPriceTrigger graph key = true

/-- Two triggers, one of which the search may have found before the scan. -/
def SecondTrigger (graph : TradeFlowGraphRuntime) (foundKey : Option String)
    (sources : List String) : Prop :=
  ∃ key ∈ sources, isMarketPriceTrigger graph key = true ∧ ∃ other, other ≠ key ∧
    (foundKey = some other ∨ other ∈ sources ∧ isMarketPriceTrigger graph other = true)

def ScanResult (graph : TradeFlowGraphRuntime) (foundKey : Option String)
    (sources : List String) : Option (List String × Option String) → Prop
  | some scan => Scanned graph foundKey sources scan.1 scan.2
  | none => SecondTrigger graph foundKey sources

theorem scanResult_skip {foundKey : Option String} {sourceKey : String} {sources : List String}
    {scan : Option (List String × Option String)} (hnode : flowNode graph sourceKey = none)
    (h : ScanResult graph foundKey sources scan) :
    ScanResult graph foundKey (sourceKey :: sources) scan := by
  cases scan with
  | none =>
    obtain ⟨key, hkey, htrigger, other, hne, hother⟩ := h
    refine ⟨key, List.mem_cons_of_mem _ hkey, htrigger, other, hne, ?_⟩
    exact hother.imp_right (And.imp_left (List.mem_cons_of_mem _))
  | some scan =>
    refine ⟨fun key => ?_, h.kept, fun key hkey htrigger => ?_, fun key hkey => ?_⟩
    · rw [h.pushed_iff, List.mem_cons]
      refine and_congr_left fun hsome => (or_iff_right ?_).symm
      rintro rfl
      rw [hnode] at hsome
      cases hsome
    · obtain rfl | hkey := List.mem_cons.mp hkey
      · have hsome := isMarketPriceTrigger_node htrigger
        rw [hnode] at hsome
        cases hsome
      · exact h.found key hkey htrigger
    · exact (h.sound key hkey).imp_right (And.imp_left (List.mem_cons_of_mem _))

theorem scanResult_push {foundKey found : Option String} {sourceKey : String}
    {sources : List String} {scan : Option (List String × Option String)}
    (hnode : (flowNode graph sourceKey).isSome = true)
    (hkept : ∀ key, foundKey = some key → found = some key)
    (htrigger : isMarketPriceTrigger graph sourceKey = true → found = some sourceKey)
    (hsound : ∀ key, found = some key →
      foundKey = some key ∨ key = sourceKey ∧ isMarketPriceTrigger graph sourceKey = true)
    (h : ScanResult graph found sources scan) :
    ScanResult graph foundKey (sourceKey :: sources)
      (scan.map fun next => (sourceKey :: next.1, next.2)) := by
  have hhere : ∀ {key}, found = some key → foundKey = some key ∨
      key ∈ sourceKey :: sources ∧ isMarketPriceTrigger graph key = true := by
    intro key hkey
    refine (hsound key hkey).imp_right ?_
    rintro ⟨rfl, htrigger⟩
    exact ⟨List.mem_cons_self .., htrigger⟩
  cases scan with
  | none =>
    obtain ⟨key, hkey, hkeyTrigger, other, hne, hother⟩ := h
    refine ⟨key, List.mem_cons_of_mem _ hkey, hkeyTrigger, other, hne, ?_⟩
    obtain hother | hother := hother
    · exact hhere hother
    · exact .inr (hother.imp_left (List.mem_cons_of_mem _))
  | some scan =>
    refine ⟨fun key => ?_, fun key hkey => h.kept key (hkept key hkey),
      fun key hkey hkeyTrigger => ?_, fun key hkey => ?_⟩
    · change key ∈ sourceKey :: scan.1 ↔ _
      rw [List.mem_cons, List.mem_cons, h.pushed_iff, or_and_right]
      refine or_congr_left (iff_self_and.mpr ?_)
      rintro rfl
      exact hnode
    · obtain rfl | hkey := List.mem_cons.mp hkey
      · exact h.kept key (htrigger hkeyTrigger)
      · exact h.found key hkey hkeyTrigger
    · obtain hkey | hkey := h.sound key hkey
      · exact hhere hkey
      · exact .inr (hkey.imp_left (List.mem_cons_of_mem _))

theorem scanned (foundKey : Option String) (sources : List String) :
    ScanResult graph foundKey sources (scanSources graph foundKey sources) := by
  induction sources generalizing foundKey with
  | nil => exact ⟨by simp, fun _ h => h, by simp, fun _ h => .inl h⟩
  | cons sourceKey sources ih =>
    unfold scanSources
    cases hnode : flowNode graph sourceKey with
    | none => exact scanResult_skip hnode (ih foundKey)
    | some sourceNode =>
      have hsome : (flowNode graph sourceKey).isSome = true := by rw [hnode]; rfl
      have htype : isMarketPriceTrigger graph sourceKey = true ↔
          sourceNode.nodeType = "trigger.market_price" := by simp [isMarketPriceTrigger, hnode]
      dsimp only
      split_ifs with htrigger hsecond
      · obtain ⟨other, hother, hne⟩ := (Option.any_eq_true _ _).mp hsecond
        exact ⟨sourceKey, List.mem_cons_self .., htype.mpr htrigger, other, by simpa using hne,
          .inl hother⟩
      · refine scanResult_push hsome (fun key hkey => ?_) (fun _ => rfl) (fun key hkey => ?_)
          (ih (some sourceKey))
        · subst hkey
          have hsame : key = sourceKey := by simpa using hsecond
          rw [hsame]
        · exact .inr ⟨(Option.some.inj hkey).symm, htype.mpr htrigger⟩
      · exact scanResult_push hsome (fun _ hkey => hkey) (fun h => absurd (htype.mp h) htrigger)
          (fun _ hkey => .inl hkey) (ih foundKey)

def Candidate (graph : TradeFlowGraphRuntime) (nodeKey key : String) : Prop :=
  isMarketPriceTrigger graph key = true ∧ Upstream graph key nodeKey

/-- What the search knows: all it has met is upstream, and what is upstream of the expanded items
has been met. -/
structure Searched (graph : TradeFlowGraphRuntime) (nodeKey : String)
    (queue visited : List String) (foundKey : Option String) : Prop where
  start : nodeKey ∈ queue ∨ nodeKey ∈ visited
  upstream : ∀ key, key ∈ queue ∨ key ∈ visited → key = nodeKey ∨ Upstream graph key nodeKey
  closed : ∀ key ∈ visited, ∀ source, EdgeFrom graph source key →
    (source ∈ queue ∨ source ∈ visited) ∧
      (isMarketPriceTrigger graph source = true → foundKey = some source)
  sound : ∀ key, foundKey = some key → Candidate graph nodeKey key

variable {nodeKey : String}

theorem Searched.source_upstream {queue visited : List String} {foundKey : Option String}
    (h : Searched graph nodeKey queue visited foundKey) {source key : String}
    (hkey : key ∈ queue ∨ key ∈ visited) (hedge : EdgeFrom graph source key) :
    Upstream graph source nodeKey := by
  obtain rfl | hup := h.upstream key hkey
  · exact .single hedge
  · exact .head hedge hup

theorem searched_invariant (graph : TradeFlowGraphRuntime) (nodeKey : String) :
    Worklist.Invariant (upstreamExpansion graph) (Searched graph nodeKey) where
  again := by
    intro current rest visited foundKey h hmem
    have hmet : ∀ {key}, key ∈ current :: rest ∨ key ∈ visited → key ∈ rest ∨ key ∈ visited := by
      rintro key (hkey | hkey)
      · obtain rfl | hkey := List.mem_cons.mp hkey
        · exact .inr hmem
        · exact .inl hkey
      · exact .inr hkey
    refine ⟨hmet h.start, fun key hkey => ?_, fun key hkey source hedge => ?_, h.sound⟩
    · exact h.upstream key (hkey.imp_left (List.mem_cons_of_mem _))
    · exact (h.closed key hkey source hedge).imp_left hmet
  expanded := by
    intro current rest visited foundKey pushed foundKey' h hnew hexpand
    have hscan : Scanned graph foundKey (incomingByTarget graph current) pushed foundKey' := by
      have hresult := @scanned graph foundKey (incomingByTarget graph current)
      rwa [show scanSources graph foundKey (incomingByTarget graph current) = _ from hexpand]
        at hresult
    have hsource : ∀ key, key ∈ pushed ↔ EdgeFrom graph key current := fun key =>
      (hscan.pushed_iff key).trans (and_congr_left' mem_incomingByTarget)
    have hmet : ∀ {key}, key ∈ current :: rest ∨ key ∈ visited →
        key ∈ rest ++ pushed ∨ key ∈ current :: visited := by
      rintro key (hkey | hkey)
      · obtain rfl | hkey := List.mem_cons.mp hkey
        · exact .inr (List.mem_cons_self ..)
        · exact .inl (List.mem_append_left _ hkey)
      · exact .inr (List.mem_cons_of_mem _ hkey)
    have hcurrent : current ∈ current :: rest ∨ current ∈ visited := .inl (List.mem_cons_self ..)
    refine ⟨hmet h.start, fun key hkey => ?_, fun key hkey source hedge => ?_, fun key hkey => ?_⟩
    · rw [List.mem_append, List.mem_cons] at hkey
      obtain (hkey | hkey) | rfl | hkey := hkey
      · exact h.upstream key (.inl (List.mem_cons_of_mem _ hkey))
      · exact .inr (h.source_upstream hcurrent ((hsource key).mp hkey))
      · exact h.upstream key hcurrent
      · exact h.upstream key (.inr hkey)
    · obtain rfl | hkey := List.mem_cons.mp hkey
      · refine ⟨.inl (List.mem_append_right _ ((hsource source).mpr hedge)), fun htrigger => ?_⟩
        exact hscan.found source (mem_incomingByTarget.mpr hedge.1) htrigger
      · obtain ⟨hin, hfound⟩ := h.closed key hkey source hedge
        exact ⟨hmet hin, fun htrigger => hscan.kept source (hfound htrigger)⟩
    · obtain hbefore | ⟨hin, htrigger⟩ := hscan.sound key hkey
      · exact h.sound key hbefore
      · exact ⟨htrigger,
          h.source_upstream hcurrent
            ⟨mem_incomingByTarget.mp hin, isMarketPriceTrigger_node htrigger⟩⟩

theorem Searched.complete {visited : List String} {foundKey : Option String}
    (h : Searched graph nodeKey [] visited foundKey) {key : String}
    (hcandidate : Candidate graph nodeKey key) : foundKey = some key := by
  obtain ⟨htrigger, hup⟩ := hcandidate
  have hnext : ∀ {key}, Upstream graph key nodeKey →
      ∃ target ∈ visited, EdgeFrom graph key target := by
    intro key hup
    induction hup using TransGen.head_induction_on with
    | single hedge => exact ⟨nodeKey, h.start.resolve_left (List.not_mem_nil), hedge⟩
    | head hedge _ ih =>
      obtain ⟨target, hmem, hlast⟩ := ih
      exact ⟨_, (h.closed target hmem _ hlast).1.resolve_left (List.not_mem_nil), hedge⟩
  obtain ⟨target, hmem, hedge⟩ := hnext hup
  exact (h.closed target hmem key hedge).2 htrigger

theorem searched_result (graph : TradeFlowGraphRuntime) (nodeKey : String) :
    match Worklist.run (upstreamExpansion graph) [nodeKey] [] none with
    | some foundKey => ∀ key, foundKey = some key ↔ Candidate graph nodeKey key
    | none => ∃ key other, other ≠ key ∧ Candidate graph nodeKey key ∧
        Candidate graph nodeKey other := by
  have hstart : Searched graph nodeKey [nodeKey] [] none :=
    ⟨.inl (List.mem_singleton_self _), by simp, by simp, nofun⟩
  have hrun := (searched_invariant graph nodeKey).run [nodeKey] [] none hstart
  cases hresult : Worklist.run (upstreamExpansion graph) [nodeKey] [] none with
  | some foundKey =>
    rw [hresult] at hrun
    obtain ⟨visited, hlast⟩ := hrun
    exact fun key => ⟨hlast.sound key, hlast.complete⟩
  | none =>
    rw [hresult] at hrun
    obtain ⟨current, rest, visited, foundKey, hlast, hexpand⟩ := hrun
    have hsecond := @scanned graph foundKey (incomingByTarget graph current)
    rw [show scanSources graph foundKey (incomingByTarget graph current) = none from hexpand]
      at hsecond
    obtain ⟨key, hkey, htrigger, other, hne, hother⟩ := hsecond
    have hcandidate : ∀ {key}, key ∈ incomingByTarget graph current →
        isMarketPriceTrigger graph key = true → Candidate graph nodeKey key := by
      intro key hin htrigger
      exact ⟨htrigger, hlast.source_upstream (.inl (List.mem_cons_self ..))
        ⟨mem_incomingByTarget.mp hin, isMarketPriceTrigger_node htrigger⟩⟩
    refine ⟨key, other, hne, hcandidate hkey htrigger, ?_⟩
    obtain hbefore | ⟨hin, htriggerOther⟩ := hother
    · exact hlast.sound other hbefore
    · exact hcandidate hin htriggerOther

end Search

/-- The search returns a key exactly when it is the one market price trigger upstream. -/
theorem findUpstreamMarketPriceTriggerKey_iff (nodeKey key : String)
    (graph : TradeFlowGraphRuntime) :
    findUpstreamMarketPriceTriggerKey nodeKey graph = some key ↔
      Candidate graph nodeKey key ∧ ∀ other, Candidate graph nodeKey other → other = key := by
  have hresult := searched_result graph nodeKey
  unfold findUpstreamMarketPriceTriggerKey
  cases hrun : Worklist.run (upstreamExpansion graph) [nodeKey] [] none with
  | some foundKey =>
    rw [hrun] at hresult
    change foundKey = some key ↔ _
    constructor
    · rintro rfl
      refine ⟨(hresult key).mp rfl, fun other hother => ?_⟩
      exact Option.some.inj ((hresult other).mpr hother).symm
    · exact fun h => (hresult key).mpr h.1
  | none =>
    rw [hrun] at hresult
    obtain ⟨one, other, hne, hone, hother⟩ := hresult
    refine iff_of_false nofun fun h => hne ?_
    exact (h.2 other hother).trans (h.2 one hone).symm

end PolymarketBot.Flow
