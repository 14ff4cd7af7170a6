import PolymarketBot.Flow.OnceNode

/-! How the editor's scripts turn JSON values into text, numbers and records. Numbers are exact,
and text is lowered letter by letter. -/

namespace PolymarketBot.Editor
open PolymarketBot.Flow Lib.Text

/-- White space and line ends, as `String.prototype.trim` takes them away. -/
def scriptBlank (c : Char) : Bool :=
  c.toNat ∈ [0x20, 0xA0, 0x1680, 0x2028, 0x2029, 0x202F, 0x205F, 0x3000, 0xFEFF] ||
    0x09 ≤ c.toNat && c.toNat ≤ 0x0D || 0x2000 ≤ c.toNat && c.toNat ≤ 0x200A

@[irreducible] def scriptTrim (s : String) : String := trimBy scriptBlank s

/-- `Number::toString`: the digits, where the point stands among them, and an exponent when the
number is below a millionth or has more than 21 places. -/
def numberText (n : JsonNumber) : String :=
  let q := n.asF64
  let whole := q.num.natAbs / q.den
  let places := if whole = 0 then [] else Nat.toDigits 10 whole
  let decimals := fractionDigits (q.num.natAbs % q.den) q.den 400
  let digits := ((places ++ decimals).dropWhile (· = '0')).rdropWhile (· = '0')
  let point : ℤ :=
    if whole = 0 then -((decimals.takeWhile (· = '0')).length : ℤ) else places.length
  let text : List Char :=
    if digits.length ≤ point ∧ point ≤ 21 then
      digits ++ List.replicate (point - digits.length).toNat '0'
    else if 0 < point ∧ point ≤ 21 then
      digits.take point.toNat ++ '.' :: digits.drop point.toNat
    else if -6 < point ∧ point ≤ 0 then
      '0' :: '.' :: List.replicate (-point).toNat '0' ++ digits
    else
      digits.take 1 ++ (if digits.length = 1 then [] else '.' :: digits.drop 1) ++
        'e' :: (if 0 < point then '+' else '-') :: Nat.toDigits 10 (point - 1).natAbs
  if q = 0 then "0" else (if q < 0 then "-" else "") ++ String.ofList text

def elementText : Value → String → String
  | .null, _ => ""
  | _, text => text

mutual

/-- `String(value)`. -/
def scriptText : Value → String
  | .null => "null"
  | .bool b => toString b
  | .number n => numberText n
  | .string s => s
  | .array vs => joinedText vs
  | .object _ => "[object Object]"

def joinedText : List Value → String
  | [] => ""
  | v :: vs =>
    elementText v (scriptText v) ++ if vs.isEmpty then "" else "," ++ joinedText vs

end

/-- `String(value ?? '')`. -/
def textOrEmpty : Option Value → String
  | none => ""
  | some .null => ""
  | some v => scriptText v

def isRecord (v : Option Value) : Bool := v.any Value.isObject

/-- `isRecord(value) ? value : {}`. -/
def recordOrEmpty (v : Option Value) : Fields := (v.getD .null).fields

def toTrimmedString : Option Value → String
  | some (.string s) => scriptTrim s
  | some (.number n) => scriptTrim (numberText n)
  | some (.bool b) => scriptTrim (toString b)
  | _ => ""

def loweredString (v : Option Value) : String := lowercase (toTrimmedString v)

def toBooleanish : Option Value → Option Bool
  | some (.bool b) => some b
  | some (.number n) => some (n.asF64 ≠ 0)
  | some (.string s) =>
    let normalized := lowercase (scriptTrim s)
    if normalized ∈ ["true", "1", "yes", "y", "on"] then some true
    else if normalized ∈ ["false", "0", "no", "n", "off"] then some false
    else none
  | _ => none

/-- The digits of a number in another base, as after `0x`, `0o` and `0b`. -/
def radixValue (base : ℕ) (cs : List Char) : Option ℕ :=
  let digit (c : Char) : ℕ :=
    if c.isDigit then c.toNat - '0'.toNat
    else if 'a' ≤ c ∧ c ≤ 'f' then c.toNat - 'a'.toNat + 10
    else if 'A' ≤ c ∧ c ≤ 'F' then c.toNat - 'A'.toNat + 10
    else base
  if cs.isEmpty || cs.any fun c => base ≤ digit c then none
  else some (cs.foldl (fun n c => base * n + digit c) 0)

/-- `Number(text)` where it is finite. -/
def toNumber (text : String) : Option ℚ :=
  match (scriptTrim text).toList with
  | [] => some 0
  | '0' :: 'x' :: cs | '0' :: 'X' :: cs => (radixValue 16 cs).map (↑·)
  | '0' :: 'o' :: cs | '0' :: 'O' :: cs => (radixValue 8 cs).map (↑·)
  | '0' :: 'b' :: cs | '0' :: 'B' :: cs => (radixValue 2 cs).map (↑·)
  | cs => parseDecimal (String.ofList cs)

example : numberText (.float (3 / 2)) = "1.5" := by decide +kernel
example : toNumber " 0x1F" = some 31 := by decide +kernel

@[simp] theorem scriptTrim_scriptTrim (s : String) : scriptTrim (scriptTrim s) = scriptTrim s := by
  unfold scriptTrim
  exact trimBy_trimBy scriptBlank s

end PolymarketBot.Editor
