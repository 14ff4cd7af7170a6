import PolymarketBot.Exchange.TradePage
import PolymarketBot.Lib.Holes

/-! The yes and the no token of a market object: how they are found from its labels, its token
objects or the order of its tokens, and when no token is taken for the other side's. -/

namespace PolymarketBot.Exchange
open Flow Lib Holes

inductive OutcomeSide | yes | no
  deriving DecidableEq, Repr

def OutcomeSide.opposite : OutcomeSide → OutcomeSide
  | yes => no
  | no => yes

/-- Only ASCII letters are lowered here: no other letter lowers to one of a label. -/
def lowercase (s : String) : String := String.ofList (s.toList.map Char.toLower)

def parseOutcomeSide (raw : String) : Option OutcomeSide :=
  match lowercase (trim raw) with
  | "yes" | "up" => some .yes
  | "no" | "down" => some .no
  | _ => none

structure TokenIds where
  yes : Option String := none
  no : Option String := none
  deriving DecidableEq, Repr

namespace TokenIds

def of (ids : TokenIds) : OutcomeSide → Option String
  | .yes => ids.yes
  | .no => ids.no

def set (ids : TokenIds) (side : OutcomeSide) (id : Option String) : TokenIds :=
  match side with
  | .yes => { ids with yes := id }
  | .no => { ids with no := id }

def found (ids : TokenIds) : Bool := ids.yes.isSome || ids.no.isSome

theorem of_set (ids : TokenIds) (side side' : OutcomeSide) (id : Option String) :
    (ids.set side id).of side' = if side' = side then id else ids.of side' := by
  cases side <;> cases side' <;> rfl

theorem found_iff (ids : TokenIds) : ids.found = true ↔ ∃ side t, ids.of side = some t := by
  simp only [found, Bool.or_eq_true, Option.isSome_iff_exists]
  constructor
  · rintro (⟨t, ht⟩ | ⟨t, ht⟩)
    · exact ⟨.yes, t, ht⟩
    · exact ⟨.no, t, ht⟩
  · rintro ⟨side, t, ht⟩
    cases side
    · exact .inl ⟨t, ht⟩
    · exact .inr ⟨t, ht⟩

end TokenIds

section Parse
variable (decode : String → Option Value)

/-- A list given as an array keeps its strings; one given as a text is decoded to a list of
strings, or is empty. -/
def parseStringArray : Value → List String
  | .array vs => vs.filterMap Value.asStr
  | .string raw =>
    let items := asArray (decode raw)
    if items.all fun v => v.asStr.isSome then items.filterMap Value.asStr else []
  | _ => []

def directTokenIds (item : Value) : TokenIds :=
  { yes := (valueOf item ["yesTokenId", "yes_token_id"]).bind Value.asStr
    no := (valueOf item ["noTokenId", "no_token_id"]).bind Value.asStr }

/-- The last label of a side wins, also when it has no token. -/
def labelStep (clobTokenIds : List String) (ids : TokenIds) (entry : String × ℕ) : TokenIds :=
  match parseOutcomeSide entry.1 with
  | some side => ids.set side clobTokenIds[entry.2]?
  | none => ids

/-- The side a token object is labelled with, and its id. -/
def tokenObject (token : Value) : Option OutcomeSide × Option String :=
  (parseOutcomeSide (lowercase (((token.get "outcome").bind Value.asStr).getD "")),
    (valueOf token ["token_id", "tokenId", "clobTokenId", "id"]).bind Value.asStr)

/-- The first object of a side that has an id wins. -/
def objectStep (ids : TokenIds) (object : Option OutcomeSide × Option String) : TokenIds :=
  match object.1 with
  | some side => if (ids.of side).isNone then ids.set side object.2 else ids
  | none => ids

def outcomesOf (item : Value) : List String :=
  ((item.get "outcomes").map (parseStringArray decode)).getD []

def clobTokenIdsOf (item : Value) : List String :=
  ((valueOf item ["clobTokenIds", "clob_token_ids"]).map (parseStringArray decode)).getD []

def byLabels (outcomes clobTokenIds : List String) : TokenIds :=
  if 2 ≤ outcomes.length ∧ 2 ≤ clobTokenIds.length then
    (outcomes.map lowercase).zipIdx.foldl (labelStep clobTokenIds) {}
  else {}

def byObjects (item : Value) : TokenIds :=
  ((asArray (item.get "tokens")).map tokenObject).foldl objectStep {}

def byOrder (clobTokenIds : List String) : TokenIds :=
  if 2 ≤ clobTokenIds.length then { yes := clobTokenIds[0]?, no := clobTokenIds[1]? } else {}

def parseYesNoTokenIds (item : Value) : TokenIds :=
  let direct := directTokenIds item
  let labels := byLabels (outcomesOf decode item) (clobTokenIdsOf decode item)
  if direct.found then direct
  else if labels.found then labels
  else if (byObjects item).found then byObjects item
  else byOrder (clobTokenIdsOf decode item)

/-! ### What the market object says -/

/-- The entries of a list at their own places; an entry that is no string is a hole. -/
def cells : Value → List (Option String)
  | .array vs => vs.map Value.asStr
  | .string raw => (asArray (decode raw)).map Value.asStr
  | _ => []

/-- What the parse reads of them: a text with a hole is not read at all. -/
def readCells (v : Value) : List (Option String) :=
  match v with
  | .array _ => cells decode v
  | _ => if (cells decode v).all Option.isSome then cells decode v else []

/-- The lists of a market object: as they stand, as they are read, and its token objects. -/
structure Market where
  outcomes : List (Option String)
  tokens : List (Option String)
  readOutcomes : List (Option String)
  readTokens : List (Option String)
  objects : List (Option OutcomeSide × Option String)

def marketOf (item : Value) : Market :=
  let outcomes := item.get "outcomes"
  let tokens := valueOf item ["clobTokenIds", "clob_token_ids"]
  { outcomes := (outcomes.map (cells decode)).getD []
    tokens := (tokens.map (cells decode)).getD []
    readOutcomes := (outcomes.map (readCells decode)).getD []
    readTokens := (tokens.map (readCells decode)).getD []
    objects := (asArray (item.get "tokens")).map tokenObject }

theorem parseStringArray_eq (v : Value) :
    parseStringArray decode v = (readCells decode v).reduceOption := by
  have hcells (vs : List Value) :
      (vs.map Value.asStr).reduceOption = vs.filterMap Value.asStr := by
    rw [List.reduceOption, List.filterMap_map]
    rfl
  cases v with
  | array vs => exact (hcells vs).symm
  | string raw =>
    simp only [parseStringArray, readCells, cells, List.all_map, Function.comp_def]
    split_ifs
    · exact (hcells _).symm
    · rfl
  | _ => rfl

end Parse

def labelSide (label : String) : Option OutcomeSide := parseOutcomeSide (lowercase label)

def IsLabel (side : OutcomeSide) (cell : Option String) : Prop :=
  ∃ label, cell = some label ∧ labelSide label = some side

namespace Market
variable (m : Market)

/-- A label of this side stands at this place of the outcomes. -/
def LabelAt (side : OutcomeSide) (i : ℕ) : Prop := ∃ cell, m.outcomes[i]? = some cell ∧
  IsLabel side cell

/-- The token that the market places at a label of this side, or in an object of it. -/
def Placed (side : OutcomeSide) (t : String) : Prop :=
  (∃ i, m.LabelAt side i ∧ m.tokens[i]? = some (some t)) ∨ (some side, some t) ∈ m.objects

/-- Each side has exactly one label, with this token at its place. -/
def CompletePair (ids : OutcomeSide → String) : Prop :=
  ∀ side, ∃ i, m.LabelAt side i ∧ (∀ k, m.LabelAt side k → k = i) ∧
    m.tokens[i]? = some (some (ids side))

/-- The token that has as many strings before it as the last label of this side. -/
def LabelPick (side : OutcomeSide) (t : String) : Prop :=
  ∃ i p, LastAt (IsLabel side) m.readOutcomes i ∧ m.readTokens[p]? = some (some t) ∧
    rank m.readTokens p = rank m.readOutcomes i

/-- The labels decide: both lists have two strings, and a last label has such a token. -/
def LabelsDecide : Prop :=
  2 ≤ m.readOutcomes.reduceOption.length ∧ 2 ≤ m.readTokens.reduceOption.length ∧
    ∃ side t, m.LabelPick side t

/-- The first object of this side that has an id. -/
def ObjectPick (side : OutcomeSide) (t : String) : Prop :=
  m.objects.findSome? (fun object => if object.1 = some side then object.2 else none) = some t

def ObjectsDecide : Prop := ¬ m.LabelsDecide ∧ ∃ side t, m.ObjectPick side t

/-- Without a label or an object that decides, the first string is the yes token and the second
the no token. -/
def OrderPick (side : OutcomeSide) (t : String) : Prop :=
  ∃ p, m.readTokens[p]? = some (some t) ∧
    rank m.readTokens p = match side with
      | .yes => 0
      | .no => 1

def OrderDecides : Prop :=
  ¬ m.LabelsDecide ∧ ¬ m.ObjectsDecide ∧ 2 ≤ m.readTokens.reduceOption.length

/-- Nothing that is picked for a side stands at the other side, and a complete pair is picked. -/
def Keeps (pick : OutcomeSide → String → Prop) : Prop :=
  (∀ side t, pick side t → ¬ m.Placed side.opposite t) ∧
    ∀ ids, m.CompletePair ids → ∀ side, pick side (ids side)

/-- The markets whose tokens are found where they are placed. -/
def InPlace : Prop :=
  (m.LabelsDecide → m.Keeps m.LabelPick) ∧ (m.ObjectsDecide → m.Keeps m.ObjectPick) ∧
    (m.OrderDecides → m.Keeps m.OrderPick) ∧
    (¬ m.LabelsDecide → ¬ m.ObjectsDecide → ¬ m.OrderDecides → ∀ ids, ¬ m.CompletePair ids)

end Market

section Loops

theorem labelStep_some {label : String} {side : OutcomeSide}
    (h : parseOutcomeSide label = some side) (clobTokenIds : List String) (ids : TokenIds)
    (r : ℕ) : labelStep clobTokenIds ids (label, r) = ids.set side clobTokenIds[r]? := by
  unfold labelStep
  simp only [h]

theorem labelStep_none {label : String} (h : parseOutcomeSide label = none)
    (clobTokenIds : List String) (ids : TokenIds) (r : ℕ) :
    labelStep clobTokenIds ids (label, r) = ids := by
  unfold labelStep
  simp only [h]

theorem labelLoop_of (clobTokenIds outcomes : List String) (side : OutcomeSide) (t : String) :
    (outcomes.zipIdx.foldl (labelStep clobTokenIds) {}).of side = some t ↔
      ∃ r, LastAt (fun label => parseOutcomeSide label = some side) outcomes r ∧
        clobTokenIds[r]? = some t := by
  induction outcomes using List.reverseRecOn with
  | nil =>
    cases side <;> simp [LastAt, TokenIds.of]
  | append_singleton outcomes label ih =>
    rw [List.zipIdx_append, List.foldl_append]
    simp only [List.zipIdx_singleton, List.foldl_cons, List.foldl_nil, Nat.zero_add]
    by_cases hside : parseOutcomeSide label = some side
    · have hlast (r : ℕ) := lastAt_concat_pos (l := outcomes) (r := r)
        (p := fun label => parseOutcomeSide label = some side) hside
      simp only [labelStep_some hside, TokenIds.of_set, if_true, hlast, exists_eq_left]
    · have hlast (r : ℕ) := lastAt_concat_neg (l := outcomes) (r := r)
        (p := fun label => parseOutcomeSide label = some side) hside
      simp only [hlast]
      rw [← ih]
      cases hlabel : parseOutcomeSide label with
      | none => rw [labelStep_none hlabel]
      | some other =>
        have hne : side ≠ other := fun heq => hside (heq ▸ hlabel)
        rw [labelStep_some hlabel, TokenIds.of_set, if_neg hne]

theorem objectLoop_of (objects : List (Option OutcomeSide × Option String)) (ids : TokenIds)
    (side : OutcomeSide) :
    (objects.foldl objectStep ids).of side = (ids.of side).or
      (objects.findSome? fun object => if object.1 = some side then object.2 else none) := by
  induction objects generalizing ids with
  | nil => simp
  | cons object rest ih =>
    rw [List.foldl_cons, ih, List.findSome?_cons]
    obtain ⟨label, id⟩ := object
    cases label with
    | none => simp [objectStep]
    | some other =>
      simp only [objectStep]
      by_cases hsame : side = other
      · subst hsame
        cases hheld : ids.of side with
        | some held => simp [hheld]
        | none => cases id <;> simp [TokenIds.of_set]
      · have hlabel : ¬ some other = some side := fun h => hsame (Option.some.inj h).symm
        rw [if_neg hlabel]
        split_ifs <;> simp [TokenIds.of_set, hsame]

end Loops

section Picks
variable (decode : String → Option Value) (item : Value) {side : OutcomeSide} {t : String}

theorem outcomesOf_eq :
    outcomesOf decode item = (marketOf decode item).readOutcomes.reduceOption := by
  unfold outcomesOf marketOf
  cases item.get "outcomes" with
  | none => rfl
  | some v => exact parseStringArray_eq decode v

theorem clobTokenIdsOf_eq :
    clobTokenIdsOf decode item = (marketOf decode item).readTokens.reduceOption := by
  unfold clobTokenIdsOf marketOf
  cases valueOf item ["clobTokenIds", "clob_token_ids"] with
  | none => rfl
  | some v => exact parseStringArray_eq decode v

theorem lastAt_lowercase (labels : List String) (r : ℕ) :
    LastAt (fun label => parseOutcomeSide label = some side) (labels.map lowercase) r ↔
      LastAt (fun label => labelSide label = some side) labels r := by
  simp [LastAt, labelSide]

theorem byLabels_of : (byLabels (outcomesOf decode item) (clobTokenIdsOf decode item)).of side =
    some t ↔ (marketOf decode item).LabelsDecide ∧ (marketOf decode item).LabelPick side t := by
  have hpick : (∃ r, LastAt (fun label => labelSide label = some side)
        (outcomesOf decode item) r ∧ (clobTokenIdsOf decode item)[r]? = some t) ↔
      (marketOf decode item).LabelPick side t := by
    simp only [outcomesOf_eq, clobTokenIdsOf_eq, lastAt_reduceOption, reduceOption_getElem?_iff]
    constructor
    · rintro ⟨-, ⟨i, hi, rfl⟩, p, hp, hrank⟩
      exact ⟨i, p, hi, hp, hrank⟩
    · rintro ⟨i, p, hi, hp, hrank⟩
      exact ⟨_, ⟨i, hi, rfl⟩, p, hp, hrank⟩
  unfold byLabels
  split_ifs with hread
  · rw [labelLoop_of]
    simp only [lastAt_lowercase]
    rw [hpick]
    refine ⟨fun h => ⟨⟨?_, ?_, side, t, h⟩, h⟩, fun h => h.2⟩
    · exact outcomesOf_eq decode item ▸ hread.1
    · exact clobTokenIdsOf_eq decode item ▸ hread.2
  · have hnone : (({} : TokenIds).of side) = none := by cases side <;> rfl
    rw [hnone]
    rw [outcomesOf_eq, clobTokenIdsOf_eq] at hread
    simp only [reduceCtorEq, false_iff, not_and]
    exact fun hdecide => absurd ⟨hdecide.1, hdecide.2.1⟩ hread

theorem byObjects_of : (byObjects item).of side = some t ↔
    (marketOf decode item).ObjectPick side t := by
  have hnone : (({} : TokenIds).of side) = none := by cases side <;> rfl
  rw [byObjects, objectLoop_of, hnone, Option.none_or]
  rfl

theorem byOrder_of (htwo : 2 ≤ (marketOf decode item).readTokens.reduceOption.length) :
    (byOrder (clobTokenIdsOf decode item)).of side = some t ↔
      (marketOf decode item).OrderPick side t := by
  unfold byOrder
  rw [clobTokenIdsOf_eq, if_pos htwo]
  cases side <;> simp only [TokenIds.of, reduceOption_getElem?_iff, Market.OrderPick]

theorem byLabels_found : (byLabels (outcomesOf decode item) (clobTokenIdsOf decode item)).found =
    true ↔ (marketOf decode item).LabelsDecide := by
  simp only [TokenIds.found_iff, byLabels_of]
  exact ⟨fun ⟨_, _, h, _⟩ => h, fun h => ⟨_, _, h, h.2.2.choose_spec.choose_spec⟩⟩

theorem byObjects_found :
    (byObjects item).found = true ↔ ∃ side t, (marketOf decode item).ObjectPick side t := by
  simp only [TokenIds.found_iff, byObjects_of decode]

theorem parseYesNoTokenIds_of (hdirect : (directTokenIds item).found = false) :
    (parseYesNoTokenIds decode item).of side = some t ↔
      ((marketOf decode item).LabelsDecide ∧ (marketOf decode item).LabelPick side t) ∨
      ((marketOf decode item).ObjectsDecide ∧ (marketOf decode item).ObjectPick side t) ∨
      ((marketOf decode item).OrderDecides ∧ (marketOf decode item).OrderPick side t) := by
  set m := marketOf decode item
  unfold parseYesNoTokenIds
  simp only [hdirect, Bool.false_eq_true, if_false]
  by_cases hl : m.LabelsDecide
  · rw [if_pos ((byLabels_found decode item).mpr hl), byLabels_of]
    refine ⟨.inl, ?_⟩
    rintro (h | ⟨⟨hno, -⟩, -⟩ | ⟨⟨hno, -⟩, -⟩)
    · exact h
    · exact absurd hl hno
    · exact absurd hl hno
  rw [if_neg (mt (byLabels_found decode item).mp hl)]
  by_cases ho : ∃ side t, m.ObjectPick side t
  · rw [if_pos ((byObjects_found decode item).mpr ho), byObjects_of decode]
    refine ⟨fun h => .inr (.inl ⟨⟨hl, ho⟩, h⟩), ?_⟩
    rintro (⟨hdecide, -⟩ | ⟨-, h⟩ | ⟨⟨-, hno, -⟩, -⟩)
    · exact absurd hdecide hl
    · exact h
    · exact absurd ⟨hl, ho⟩ hno
  rw [if_neg (mt (byObjects_found decode item).mp ho)]
  have hobjectsNot : ¬ m.ObjectsDecide := fun h => ho h.2
  by_cases htwo : 2 ≤ m.readTokens.reduceOption.length
  · rw [byOrder_of decode item htwo]
    refine ⟨fun h => .inr (.inr ⟨⟨hl, hobjectsNot, htwo⟩, h⟩), ?_⟩
    rintro (⟨hdecide, -⟩ | ⟨hdecide, -⟩ | ⟨-, h⟩)
    · exact absurd hdecide hl
    · exact absurd hdecide hobjectsNot
    · exact h
  · have hnone : (byOrder (clobTokenIdsOf decode item)).of side = none := by
      rw [byOrder, clobTokenIdsOf_eq, if_neg htwo]
      cases side <;> rfl
    rw [hnone]
    simp only [reduceCtorEq, false_iff]
    rintro (⟨hdecide, -⟩ | ⟨hdecide, -⟩ | ⟨⟨-, -, hdecide⟩, -⟩)
    · exact absurd hdecide hl
    · exact absurd hdecide hobjectsNot
    · exact absurd hdecide htwo

end Picks

/-- The tokens of a market object without direct ids are kept on their sides: no side gets a
token that is placed at the other one, and a complete pair is returned. -/
def SidesKept (decode : String → Option Value) (item : Value) : Prop :=
  (directTokenIds item).found = false →
    (∀ side t, (parseYesNoTokenIds decode item).of side = some t →
      ¬ (marketOf decode item).Placed side.opposite t) ∧
    ∀ ids, (marketOf decode item).CompletePair ids →
      ∀ side, (parseYesNoTokenIds decode item).of side = some (ids side)

theorem keeps_congr {m : Market} {ids : TokenIds} {pick : OutcomeSide → String → Prop}
    (h : ∀ side t, ids.of side = some t ↔ pick side t) :
    ((∀ side t, ids.of side = some t → ¬ m.Placed side.opposite t) ∧
      ∀ pair, m.CompletePair pair → ∀ side, ids.of side = some (pair side)) ↔ m.Keeps pick := by
  simp only [h, Market.Keeps]

/-- The sides of a market object are kept exactly when its tokens stand in place. -/
theorem sidesKept_iff (decode : String → Option Value) (item : Value) :
    SidesKept decode item ↔
      ((directTokenIds item).found = false → (marketOf decode item).InPlace) := by
  refine imp_congr_right fun hdirect => ?_
  have hof (side : OutcomeSide) (t : String) :
      (parseYesNoTokenIds decode item).of side = some t ↔ _ :=
    parseYesNoTokenIds_of decode item hdirect
  set m := marketOf decode item
  unfold Market.InPlace
  by_cases hl : m.LabelsDecide
  · have ho : ¬ m.ObjectsDecide := fun h => h.1 hl
    have hr : ¬ m.OrderDecides := fun h => h.1 hl
    simp only [hl, ho, hr, true_and, false_and, or_false] at hof
    simpa [hl, ho, hr] using keeps_congr hof
  by_cases ho : m.ObjectsDecide
  · have hr : ¬ m.OrderDecides := fun h => h.2.1 ho
    simp only [hl, ho, hr, true_and, false_and, or_false, false_or] at hof
    simpa [hl, ho, hr] using keeps_congr hof
  by_cases hr : m.OrderDecides
  · simp only [hl, ho, hr, true_and, false_and, false_or] at hof
    simpa [hl, ho, hr] using keeps_congr hof
  · simp only [hl, ho, hr, false_and, or_false, iff_false] at hof
    simp only [hl, ho, hr, not_false_eq_true, true_implies, false_implies, true_and]
    constructor
    · rintro ⟨-, hpair⟩ ids hids
      exact hof .yes _ (hpair ids hids .yes)
    · intro hnone
      exact ⟨fun side t h => absurd h (hof side t), fun ids hids => absurd hids (hnone ids)⟩

/-- A market whose first outcome is null: its labels are read one place too early. -/
def nullFirst : Value :=
  .object [("outcomes", .array [.null, .string "No", .string "Yes"]),
    ("clobTokenIds", .array [.string "x", .string "a", .string "b"])]

/-- The token at the label No is taken for the yes token. -/
theorem null_first_swaps_sides : ¬ ∀ decode, SidesKept decode nullFirst := by
  intro h
  have hkept := (h (fun _ => none) (by decide +kernel)).1 .yes "a" (by decide +kernel)
  exact hkept (.inl ⟨1, ⟨some "No", rfl, "No", rfl, by decide +kernel⟩, rfl⟩)

end PolymarketBot.Exchange
