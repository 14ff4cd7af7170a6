import Mathlib.Data.Rat.Floor
import PolymarketBot.Lib.Grid
import PolymarketBot.Lib.Text

/-! Double precision numbers: what a rational is rounded to, and the arithmetic with infinities and
NaN. The two zeros are one. -/

namespace PolymarketBot.Lib

/-- The exponent of the last power of two that is no larger than the size of `q`. -/
def binaryExponent (q : ℚ) : ℤ :=
  let e : ℤ := (Nat.log2 q.num.natAbs : ℤ) - Nat.log2 q.den
  if |q| < 2 ^ e then e - 1 else e

/-- The nearest number of 53 binary places, a tie to the even one, however large it is. -/
def roundToDouble (q : ℚ) : ℚ :=
  let unit : ℚ := 2 ^ max (binaryExponent q - 52) (-1074)
  roundHalfEven (q / unit) * unit

theorem roundToDouble_nonneg {q : ℚ} (h : 0 ≤ q) : 0 ≤ roundToDouble q := by
  have hunit : (0 : ℚ) < 2 ^ max (binaryExponent q - 52) (-1074) := zpow_pos (by norm_num) _
  have hround : 0 ≤ roundHalfEven (q / 2 ^ max (binaryExponent q - 52) (-1074)) :=
    roundHalfEven_nonneg (div_nonneg h hunit.le)
  exact mul_nonneg (by exact_mod_cast hround) hunit.le

example : roundToDouble (1 / 5) = 3602879701896397 / 2 ^ 54 := by decide +kernel

/-- A program's numbers are exact, or doubles: then each result is rounded to the nearest. -/
class inductive Arithmetic where
  | exact
  | doubles

namespace Arithmetic

def nearest : [Arithmetic] → ℚ → ℚ
  | .exact, q => q
  | .doubles, q => roundToDouble q

/-- Where nothing else is said numbers are exact. -/
instance (priority := low) instExact : Arithmetic := .exact

@[simp] theorem nearest_exact (q : ℚ) : nearest q = q := rfl

theorem nearest_nonneg [a : Arithmetic] {q : ℚ} (h : 0 ≤ q) : 0 ≤ nearest q := by
  cases a with
  | exact => exact h
  | doubles => exact roundToDouble_nonneg h

end Arithmetic

inductive Double where
  | finite (q : ℚ)
  | infinite (negative : Bool)
  | nan
  deriving DecidableEq

namespace Double

def ofRat (q : ℚ) : Double :=
  let r := roundToDouble q
  if |r| < 2 ^ 1024 then finite r else infinite (q < 0)

def neg : Double → Double
  | finite q => finite (-q)
  | infinite negative => infinite (!negative)
  | nan => nan

def add : Double → Double → Double
  | nan, _ => nan
  | _, nan => nan
  | infinite a, infinite b => if a = b then infinite a else nan
  | infinite a, finite _ => infinite a
  | finite _, infinite b => infinite b
  | finite a, finite b => ofRat (a + b)

def mul : Double → Double → Double
  | nan, _ => nan
  | _, nan => nan
  | infinite a, infinite b => infinite (a ^^ b)
  | infinite a, finite q => if q = 0 then nan else infinite (a ^^ (q < 0))
  | finite q, infinite b => if q = 0 then nan else infinite ((q < 0) ^^ b)
  | finite a, finite b => ofRat (a * b)

def div : Double → Double → Double
  | nan, _ => nan
  | _, nan => nan
  | infinite _, infinite _ => nan
  | infinite a, finite q => infinite (a ^^ (q < 0))
  | finite _, infinite _ => finite 0
  | finite a, finite b =>
    if b ≠ 0 then ofRat (a / b) else if a = 0 then nan else infinite (a < 0)

instance : Neg Double := ⟨neg⟩
instance : Add Double := ⟨add⟩
instance : Sub Double := ⟨fun x y => x + -y⟩
instance : Mul Double := ⟨mul⟩
instance : Div Double := ⟨div⟩

/-- Nothing is below NaN, nor NaN below anything. -/
def lt : Double → Double → Bool
  | finite a, finite b => a < b
  | finite _, infinite b => !b
  | infinite a, finite _ => a
  | infinite a, infinite b => a && !b
  | _, _ => false

def le : Double → Double → Bool
  | finite a, finite b => a ≤ b
  | finite _, infinite b => !b
  | infinite a, finite _ => a
  | infinite a, infinite b => a || !b
  | _, _ => false

def abs : Double → Double
  | finite q => finite |q|
  | infinite _ => infinite false
  | nan => nan

def exact : Double → Option ℚ
  | finite q => some q
  | _ => none

/-- Decimal notation is rounded; infinities and NaN are written as words. -/
def parse (s : String) : Option Double :=
  let word := (Text.splitSign s.toList).2.map Char.toLower
  if word = "inf".toList ∨ word = "infinity".toList then
    some (infinite (Text.splitSign s.toList).1)
  else if word = "nan".toList then some nan
  else (Text.parseDecimal s.toList).map ofRat

end Double

end PolymarketBot.Lib
