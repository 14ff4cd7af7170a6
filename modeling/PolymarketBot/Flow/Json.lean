import PolymarketBot.Lib.Text

/-! JSON values as the flow engine reads and writes them, over exact numbers,
and the string functions it applies to slugs and state keys. -/

namespace PolymarketBot.Flow

export Lib.Text (trim trim_trim contains)

def startsWith (pre s : String) : Bool := pre.toList.isPrefixOf s.toList

/-- `slug.rsplit('-').next()`: what follows the last dash. -/
def lastSegment (s : String) : String :=
  String.ofList (s.toList.reverse.takeWhile (· ≠ '-')).reverse

/-- `parse::<i64>()`, with its range check. -/
def parseI64 (s : String) : Option ℤ := Lib.Text.parseI64 s.toList

/-- The exact value of a decimal text. -/
def parseDecimal (s : String) : Option ℚ := Lib.Text.parseDecimal s.toList

/-- The digits after the point of `num / den`, until the remainder is zero. -/
def fractionDigits (num den : ℕ) : ℕ → List Char
  | 0 => []
  | fuel + 1 =>
    if num = 0 then []
    else Nat.digitChar (10 * num / den) :: fractionDigits (10 * num % den) den fuel

inductive JsonNumber where
  | int (z : ℤ)
  | float (q : ℚ)
  deriving DecidableEq

def JsonNumber.asF64 : JsonNumber → ℚ
  | .int z => z
  | .float q => q

/-- `Number::to_string`; a whole float prints with a trailing `.0`. -/
def JsonNumber.text : JsonNumber → String
  | .int z => toString z
  | .float q =>
    let a := q.num.natAbs
    let frac := fractionDigits (a % q.den) q.den 400
    (if q.num < 0 then "-" else "") ++ toString (a / q.den) ++ "." ++
      String.ofList (if frac.isEmpty then ['0'] else frac)

inductive Value where
  | null
  | bool (b : Bool)
  | number (n : JsonNumber)
  | string (s : String)
  | array (vs : List Value)
  | object (fields : List (String × Value))

abbrev Fields := List (String × Value)

def setField (key : String) (v : Value) : Fields → Fields
  | [] => [(key, v)]
  | (k, w) :: rest => if k = key then (k, v) :: rest else (k, w) :: setField key v rest

def dropField (key : String) : Fields → Fields
  | [] => []
  | (k, w) :: rest => if k = key then dropField key rest else (k, w) :: dropField key rest

def field (key : String) : Fields → Option Value
  | [] => none
  | (k, w) :: rest => if k = key then some w else field key rest

theorem field_cons_self (key : String) (v : Value) (rest : Fields) :
    field key ((key, v) :: rest) = some v := if_pos rfl

theorem field_cons_of_ne {key key' : String} (h : key' ≠ key) (v : Value) (rest : Fields) :
    field key ((key', v) :: rest) = field key rest := if_neg h

@[simp] theorem field_setField (key key' : String) (v : Value) (fs : Fields) :
    field key' (setField key v fs) = if key' = key then some v else field key' fs := by
  induction fs with
  | nil => simp [setField, field, eq_comm]
  | cons f rest ih =>
    obtain ⟨k, w⟩ := f
    by_cases hk : k = key
    · subst hk
      by_cases h : k = key'
      · simp [setField, field, h]
      · simp [setField, field, h, Ne.symm h]
    · by_cases h : k = key'
      · subst h
        simp [setField, field, hk]
      · simp [setField, field, hk, h, ih]

@[simp] theorem field_dropField (key key' : String) (fs : Fields) :
    field key' (dropField key fs) = if key' = key then none else field key' fs := by
  induction fs with
  | nil => simp [dropField, field]
  | cons f rest ih =>
    obtain ⟨k, w⟩ := f
    by_cases hk : k = key
    · subst hk
      by_cases h : k = key'
      · subst h
        simp [dropField, ih]
      · simp [dropField, field, ih, h, Ne.symm h]
    · by_cases h : k = key'
      · subst h
        simp [dropField, field, hk]
      · simp [dropField, field, hk, h, ih]

namespace Value

/-- The members of an object, and none for any other value. -/
def fields : Value → Fields
  | .object fs => fs
  | _ => []

def isObject : Value → Bool
  | .object _ => true
  | _ => false

/-- `Value::get` by key. -/
def get (v : Value) (key : String) : Option Value := field key v.fields

def asStr : Value → Option String
  | .string s => some s
  | _ => none

def asI64 : Value → Option ℤ
  | .number (.int z) => if -2 ^ 63 ≤ z ∧ z < 2 ^ 63 then some z else none
  | _ => none

def asBool : Value → Option Bool
  | .bool b => some b
  | _ => none

@[simp] theorem fields_object (fs : Fields) : (object fs).fields = fs := rfl

theorem get_of_not_object {v : Value} (h : v.isObject = false) (key : String) :
    v.get key = none := by
  cases v <;> simp_all [isObject, get, fields, field]

end Value

def valueTruthy : Value → Bool
  | .null => false
  | .bool b => b
  | .number n => n.asF64 ≠ 0
  | .string s =>
    let normalized := String.ofList ((trim s).toList.map Char.toLower)
    normalized ≠ "" && normalized ≠ "false" && normalized ≠ "0"
  | .array vs => !vs.isEmpty
  | .object fs => !fs.isEmpty

/-- The number that a value stands for, exactly; infinities and NaN are none. -/
def valueAsDecimal : Value → Option ℚ
  | .number n => some n.asF64
  | .string s => parseDecimal s
  | .bool b => some (if b then 1 else 0)
  | _ => none

def jsonF64 (q : ℚ) : Value := .number (.float q)

def jsonOptF64 : Option ℚ → Value
  | some q => jsonF64 q
  | none => .null

def jsonI64 (z : ℤ) : Value := .number (.int z)

def jsonOptStr : Option String → Value
  | some s => .string s
  | none => .null

example : parseDecimal "0.52" = some (13 / 25) := by decide +kernel
example : (JsonNumber.float (13 / 25)).text = "0.52" := by decide +kernel

end PolymarketBot.Flow
