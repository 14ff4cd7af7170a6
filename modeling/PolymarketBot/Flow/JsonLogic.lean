import PolymarketBot.Flow.Json
import PolymarketBot.Lib.Doubles

/-! The expression evaluator of the flow conditions, and when its arithmetic keeps each operand
in the place it is written. -/

namespace PolymarketBot.Flow
open Lib

def valueAsF64 : Value → Option Double
  | .number n => some (.ofRat n.asF64)
  | .string s => Double.parse s
  | .bool b => some (.finite (if b then 1 else 0))
  | _ => none

/-- `Number::from_f64`: a number that is not finite has no JSON value. -/
def jsonDouble (x : Double) : Value :=
  match x.exact with
  | some q => jsonF64 q
  | none => .null

/-- A path is read part by part, and blank parts are passed over. -/
def lookupJsonPath (value : Value) (path : String) : Option Value :=
  (path.toList.splitOn '.').foldlM (fun current part =>
    let key := trim (String.ofList part)
    if key = "" then some current else current.get key) value

def lookupJsonlogicPath (data : Value) (path : String) : Option Value :=
  if path = "" then some data
  else
    (lookupJsonPath data path).or <|
      if contains "." path then none
      else ["vars", "state", "flowContext", "refs"].findSome? fun section_ =>
        (data.get section_).bind fun v => v.get path

def resolveJsonlogicVar (args data : Value) : Value :=
  match args with
  | .string path => (lookupJsonlogicPath data path).getD .null
  | .array list =>
    let path := (list.head?.bind Value.asStr).getD ""
    (lookupJsonlogicPath data path).getD (list[1]?.getD .null)
  | _ => .null

mutual

/-- Equality of JSON values: the members of an object have no order. -/
def sameValue : Value → Value → Bool
  | .null, .null => true
  | .bool a, .bool b => a == b
  | .number a, .number b => decide (a = b)
  | .string a, .string b => a == b
  | .array as, .array bs => sameValues as bs
  | .object fs, .object gs => fs.length == gs.length && sameFields fs gs
  | _, _ => false

def sameValues : List Value → List Value → Bool
  | [], [] => true
  | a :: as, b :: bs => sameValue a b && sameValues as bs
  | _, _ => false

def sameFields : List (String × Value) → List (String × Value) → Bool
  | [], _ => true
  | (key, a) :: fs, gs => (field key gs).any (sameValue a) && sameFields fs gs

end

def valuesEqual (left right : Value) : Bool :=
  match valueAsF64 left, valueAsF64 right with
  | some leftNum, some rightNum => (leftNum - rightNum).abs.le (.ofRat (1 / 10000000))
  | _, _ => sameValue left right

def compareNumbers (compare : Double → Double → Bool) : List Value → Value
  | left :: right :: _ =>
    match valueAsF64 left, valueAsF64 right with
    | some l, some r => .bool (compare l r)
    | _, _ => .bool false
  | _ => .bool false

def sumDoubles (ns : List Double) : Double := ns.foldl (· + ·) (.finite 0)

def productDoubles (ns : List Double) : Double := ns.foldl (· * ·) (.finite 1)

def computed (operator : String) : List Double → Option Double
  | [] => none
  | n :: rest =>
    match operator with
    | "+" => some (sumDoubles (n :: rest))
    | "-" => some (if rest.isEmpty then -n else n - sumDoubles rest)
    | "*" => some (productDoubles (n :: rest))
    | "/" => rest.head?.bind fun divisor => if divisor = .finite 0 then none else some (n / divisor)
    | _ => none

/-- Operands that are no numbers are dropped before the operator looks at the rest. -/
def computeNumbers (operator : String) (values : List Value) : Value :=
  ((computed operator (values.filterMap valueAsF64)).map jsonDouble).getD .null

def chooseBranch : List Value → Value
  | condition :: value :: rest => if valueTruthy condition then value else chooseBranch rest
  | [last] => last
  | [] => .null

def applyOperator (operator : String) (values : List Value) : Value :=
  match operator with
  | "==" | "!=" =>
    match values with
    | left :: right :: _ => .bool (valuesEqual left right == (operator == "=="))
    | _ => .bool false
  | ">" => compareNumbers (fun l r => r.lt l) values
  | ">=" => compareNumbers (fun l r => r.le l) values
  | "<" => compareNumbers Double.lt values
  | "<=" => compareNumbers Double.le values
  | "and" => .bool (values.all valueTruthy)
  | "or" => .bool (values.any valueTruthy)
  | "!" => .bool (!valueTruthy (values.head?.getD (.bool false)))
  | "+" | "-" | "*" | "/" => computeNumbers operator values
  | "if" => chooseBranch values
  | _ => .null

mutual

def evaluateJsonlogic (expression data : Value) : Value :=
  match expression with
  | .object [(operator, args)] =>
    if operator = "var" then resolveJsonlogicVar args data
    else
      match args with
      | .array items => applyOperator operator (evaluateItems items data)
      | arg => applyOperator operator [evaluateJsonlogic arg data]
  | .object _ => .null
  | .array items => .array (evaluateItems items data)
  | literal => literal

def evaluateItems (items : List Value) (data : Value) : List Value :=
  match items with
  | [] => []
  | item :: items => evaluateJsonlogic item data :: evaluateItems items data

end

def evaluateJsonlogicArgs (args data : Value) : List Value :=
  match args with
  | .array items => evaluateItems items data
  | arg => [evaluateJsonlogic arg data]

/-! ### Operands in their places -/

inductive Arithmetic where
  | plus | minus | times | divide
  deriving DecidableEq

namespace Arithmetic

def symbol : Arithmetic → String
  | plus => "+"
  | minus => "-"
  | times => "*"
  | divide => "/"

/-- The operator applied to its operands in the places where they are written. -/
def apply (op : Arithmetic) : List Double → Option Double
  | [] => none
  | n :: rest =>
    match op with
    | plus => some (sumDoubles (n :: rest))
    | minus => some (if rest.isEmpty then -n else n - sumDoubles rest)
    | times => some (productDoubles (n :: rest))
    | divide => if rest.isEmpty then none else some (rest.foldl (· / ·) n)

end Arithmetic

/-- A number comes from numbers only, each in its written place; otherwise the value is null and
a comparison with it false. -/
def KeepsOperandRoles (op : Arithmetic) (args data : Value) : Prop :=
  let expression := Value.object [(op.symbol, args)]
  let values := evaluateJsonlogicArgs args data
  (∀ n, evaluateJsonlogic expression data = .number n →
    ∃ operands, values.map valueAsF64 = operands.map some ∧
      (op.apply operands).map jsonDouble = some (.number n)) ∧
  ((∃ v ∈ values, valueAsF64 v = none) → evaluateJsonlogic expression data = .null ∧
    ∀ comparison ∈ [">", ">=", "<", "<="], ∀ other,
      evaluateJsonlogic (.object [(comparison, .array [expression, other])]) data = .bool false ∧
        evaluateJsonlogic (.object [(comparison, .array [other, expression])]) data = .bool false)

/-- Operands from the third on leave the quotient of the first two as it is, if it is finite. -/
def QuotientFixed : List Double → Prop
  | n :: divisor :: rest => divisor = .finite 0 ∨ (n / divisor).exact = none ∨
      (rest.foldl (· / ·) (n / divisor)).exact = (n / divisor).exact
  | _ => True

/-- The operator has no finite value on these numbers. -/
def Valueless (op : Arithmetic) : List Double → Prop
  | [] => True
  | n :: rest =>
    match op with
    | .plus => (sumDoubles (n :: rest)).exact = none
    | .minus => (if rest.isEmpty then -n else n - sumDoubles rest).exact = none
    | .times => (productDoubles (n :: rest)).exact = none
    | .divide => ∀ divisor ∈ rest.head?, divisor = .finite 0 ∨ (n / divisor).exact = none

/-- No operand is dropped that leaves numbers with a value, and a division has no third operand that
counts. -/
def PlacesFixed (op : Arithmetic) (values : List Value) : Prop :=
  let numeric := values.filterMap valueAsF64
  if numeric.length = values.length then op = .divide → QuotientFixed numeric
  else Valueless op numeric

theorem evaluateJsonlogic_arithmetic (op : Arithmetic) (args data : Value) :
    evaluateJsonlogic (.object [(op.symbol, args)]) data =
      computeNumbers op.symbol (evaluateJsonlogicArgs args data) := by
  cases op <;> cases args <;> rfl

theorem comparison_of_null {expression data : Value}
    (h : evaluateJsonlogic expression data = .null) :
    ∀ comparison ∈ [">", ">=", "<", "<="], ∀ other,
      evaluateJsonlogic (.object [(comparison, .array [expression, other])]) data = .bool false ∧
        evaluateJsonlogic (.object [(comparison, .array [other, expression])]) data =
          .bool false := by
  have hleft : ∀ compare other, compareNumbers compare [.null, other] = .bool false :=
    fun _ _ => rfl
  have hright : ∀ compare other, compareNumbers compare [other, .null] = .bool false := by
    intro compare other
    have hnull : valueAsF64 .null = none := rfl
    cases hother : valueAsF64 other <;> simp [compareNumbers, hother, hnull]
  intro comparison hmem other
  simp only [List.mem_cons, List.not_mem_nil, or_false] at hmem
  rcases hmem with rfl | rfl | rfl | rfl <;>
    simp [evaluateJsonlogic, evaluateItems, applyOperator, h, hleft, hright]

theorem jsonDouble_number_iff {x : Double} {n : JsonNumber} :
    jsonDouble x = .number n ↔ ∃ q, x.exact = some q ∧ n = .float q := by
  unfold jsonDouble
  cases x.exact with
  | none => simp
  | some q => simp [jsonF64, eq_comm]

theorem jsonDouble_null_iff {x : Double} : jsonDouble x = .null ↔ x.exact = none := by
  unfold jsonDouble
  cases x.exact <;> simp [jsonF64]

theorem jsonDouble_agrees_iff (x y : Double) :
    (∀ n, jsonDouble x = .number n → jsonDouble y = .number n) ↔
      x.exact = none ∨ y.exact = x.exact := by
  simp only [jsonDouble_number_iff]
  cases hx : x.exact with
  | none => simp
  | some q =>
    constructor
    · intro h
      obtain ⟨r, hr, heq⟩ := h (.float q) ⟨q, rfl, rfl⟩
      rw [hr, JsonNumber.float.inj heq]
      exact .inr rfl
    · intro h n hn
      exact ⟨_, (h.resolve_left (by simp)).trans hn.choose_spec.1, hn.choose_spec.2⟩

theorem divided_agrees_iff (n divisor : Double) (rest : List Double) :
    (∀ m, ((computed "/" (n :: divisor :: rest)).map jsonDouble).getD .null = .number m →
        (Arithmetic.divide.apply (n :: divisor :: rest)).map jsonDouble = some (.number m)) ↔
      QuotientFixed (n :: divisor :: rest) := by
  have happly : Arithmetic.divide.apply (n :: divisor :: rest) =
      some (rest.foldl (· / ·) (n / divisor)) := rfl
  by_cases hdivisor : divisor = .finite 0
  · simp [computed, QuotientFixed, hdivisor]
  · have hcomputed : computed "/" (n :: divisor :: rest) = some (n / divisor) := if_neg hdivisor
    rw [hcomputed, happly, QuotientFixed, or_iff_right hdivisor, ← jsonDouble_agrees_iff]
    simp

theorem computed_agrees_iff (op : Arithmetic) (ns : List Double) :
    (∀ m, ((computed op.symbol ns).map jsonDouble).getD .null = .number m →
        (op.apply ns).map jsonDouble = some (.number m)) ↔ (op = .divide → QuotientFixed ns) := by
  match ns with
  | [] => simp [computed, QuotientFixed]
  | [n] => cases op <;> simp [computed, Arithmetic.symbol, Arithmetic.apply, QuotientFixed]
  | n :: divisor :: rest =>
    cases op with
    | divide => exact (divided_agrees_iff n divisor rest).trans (by simp)
    | plus => simp [computed, Arithmetic.symbol, Arithmetic.apply]
    | minus => simp [computed, Arithmetic.symbol, Arithmetic.apply]
    | times => simp [computed, Arithmetic.symbol, Arithmetic.apply]

theorem computed_null_iff (op : Arithmetic) (ns : List Double) :
    ((computed op.symbol ns).map jsonDouble).getD .null = .null ↔ Valueless op ns := by
  match ns with
  | [] => simp [computed, Valueless]
  | n :: rest =>
    cases op with
    | divide =>
      cases rest with
      | nil => simp [computed, Arithmetic.symbol, Valueless]
      | cons divisor rest =>
        by_cases hdivisor : divisor = .finite 0
        · simp [computed, Arithmetic.symbol, Valueless, hdivisor]
        · simp [computed, Arithmetic.symbol, Valueless, hdivisor, jsonDouble_null_iff]
    | plus => exact jsonDouble_null_iff
    | minus => exact jsonDouble_null_iff
    | times => exact jsonDouble_null_iff

theorem numeric_eq {values : List Value} {operands : List Double}
    (h : values.map valueAsF64 = operands.map some) : values.filterMap valueAsF64 = operands := by
  have hdropped := congrArg (List.filterMap id) h
  simpa [List.filterMap_map] using hdropped

theorem numeric_all {values : List Value} (h : ∀ v ∈ values, (valueAsF64 v).isSome) :
    values.map valueAsF64 = (values.filterMap valueAsF64).map some := by
  induction values with
  | nil => rfl
  | cons v values ih =>
    obtain ⟨q, hq⟩ := Option.isSome_iff_exists.mp (h v (List.mem_cons_self ..))
    have hrest := ih fun w hw => h w (List.mem_cons_of_mem _ hw)
    simp [hq, hrest]

theorem operand_roles_kept_iff (op : Arithmetic) (args data : Value) :
    KeepsOperandRoles op args data ↔ PlacesFixed op (evaluateJsonlogicArgs args data) := by
  unfold KeepsOperandRoles PlacesFixed
  dsimp only
  have hcomparison := @comparison_of_null (.object [(op.symbol, args)]) data
  rw [evaluateJsonlogic_arithmetic] at hcomparison ⊢
  unfold computeNumbers at hcomparison ⊢
  generalize evaluateJsonlogicArgs args data = values at hcomparison ⊢
  split_ifs with hall
  · rw [List.filterMap_length_eq_length] at hall
    rw [← computed_agrees_iff]
    have hvacuous : ¬ ∃ v ∈ values, valueAsF64 v = none := by
      rintro ⟨v, hv, hnone⟩
      simpa [hnone] using hall v hv
    constructor
    · rintro ⟨hnumber, -⟩ n hn
      obtain ⟨operands, hoperands, happly⟩ := hnumber n hn
      rwa [numeric_eq hoperands]
    · exact fun h => ⟨fun n hn => ⟨_, numeric_all hall, h n hn⟩, fun hsome => (hvacuous hsome).elim⟩
  · rw [List.filterMap_length_eq_length] at hall
    rw [← computed_null_iff]
    push Not at hall
    obtain ⟨v, hv, hsome⟩ := hall
    have hnone : valueAsF64 v = none := by simpa using hsome
    constructor
    · exact fun h => (h.2 ⟨v, hv, hnone⟩).1
    · intro hnull
      refine ⟨fun n hn => ?_, fun _ => ⟨hnull, hcomparison hnull⟩⟩
      rw [hnull] at hn
      cases hn

/-- The variable is missing, and five is taken from nothing. -/
theorem missing_variable_dropped :
    ¬ KeepsOperandRoles .minus
      (.array [.object [("var", .string "entry_price")], .number (.int 5)]) (.object []) := by
  intro h
  have hnull := (h.2 ⟨.null, List.mem_cons_self .., rfl⟩).1
  rw [evaluateJsonlogic_arithmetic, computeNumbers, computed_null_iff] at hnull
  have hfive : (-Double.ofRat ((5 : ℤ) : ℚ)).exact ≠ none := by decide +kernel
  exact hfive hnull

end PolymarketBot.Flow
