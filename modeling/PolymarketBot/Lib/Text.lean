import Mathlib.Algebra.Order.Ring.Rat
import Mathlib.Data.Int.Notation
import Mathlib.Data.List.DropRight

/-! Texts put together from fields with a separator between them, numbers written in decimal, and
what is read back from such a text; the blanks around a text. -/

namespace PolymarketBot.Lib.Text
variable {α : Type*}

/-- What stands behind the first field of a text: nothing, or a separator and more. -/
def AfterField (sep : α) (rest : List α) : Prop := rest = [] ∨ ∃ more, rest = sep :: more

theorem firstField_inj {sep : α} {a b rest rest' : List α} (ha : sep ∉ a) (hb : sep ∉ b)
    (hrest : AfterField sep rest) (hrest' : AfterField sep rest') (h : a ++ rest = b ++ rest') :
    a = b ∧ rest = rest' := by
  induction a generalizing b with
  | nil =>
    cases b with
    | nil => exact ⟨rfl, h⟩
    | cons y ys =>
      rcases hrest with hnone | ⟨more, hmore⟩
      · rw [hnone] at h
        cases h
      · rw [hmore] at h
        have hhead : sep = y := (List.cons.inj h).1
        exact absurd (hhead ▸ List.mem_cons_self ..) hb
  | cons x xs ih =>
    cases b with
    | nil =>
      rcases hrest' with hnone | ⟨more, hmore⟩
      · rw [hnone] at h
        cases h
      · rw [hmore] at h
        have hhead : x = sep := (List.cons.inj h).1
        exact absurd (hhead ▸ List.mem_cons_self ..) ha
    | cons y ys =>
      obtain ⟨hhead, htail⟩ := List.cons.inj h
      have hxs : sep ∉ xs := fun hmem => ha (List.mem_cons_of_mem x hmem)
      have hys : sep ∉ ys := fun hmem => hb (List.mem_cons_of_mem y hmem)
      obtain ⟨hfield, hsame⟩ := ih hxs hys htail
      exact ⟨by rw [hhead, hfield], hsame⟩

theorem lastField_inj {sep : α} {front front' a b : List α} (ha : sep ∉ a) (hb : sep ∉ b)
    (h : front ++ sep :: a = front' ++ sep :: b) : front = front' ∧ a = b := by
  have hreversed : a.reverse ++ sep :: front.reverse = b.reverse ++ sep :: front'.reverse := by
    simpa using congrArg List.reverse h
  have hfields := firstField_inj (by simpa using ha) (by simpa using hb) (.inr ⟨_, rfl⟩)
    (.inr ⟨_, rfl⟩) hreversed
  have hfronts : front.reverse = front'.reverse := (List.cons.inj hfields.2).2
  exact ⟨List.reverse_injective hfronts, List.reverse_injective hfields.1⟩

theorem joined_eq_iff {sep : α} {a b c d : List α} :
    a ++ sep :: b = c ++ sep :: d ↔ (a = c ∧ b = d) ∨
      (∃ x, c = a ++ sep :: x ∧ b = x ++ sep :: d) ∨
        ∃ x, a = c ++ sep :: x ∧ d = x ++ sep :: b := by
  constructor
  · intro h
    rcases List.append_eq_append_iff.mp h with ⟨x, hc, hb⟩ | ⟨x, ha, hd⟩
    · cases x with
      | nil => exact .inl ⟨by simpa using hc.symm, (List.cons.inj hb).2⟩
      | cons y ys =>
        obtain ⟨rfl, htail⟩ := List.cons.inj hb
        exact .inr (.inl ⟨ys, hc, htail⟩)
    · cases x with
      | nil => exact .inl ⟨by simpa using ha, (List.cons.inj hd).2.symm⟩
      | cons y ys =>
        obtain ⟨rfl, htail⟩ := List.cons.inj hd
        exact .inr (.inr ⟨ys, ha, htail⟩)
  · rintro (⟨rfl, rfl⟩ | ⟨x, rfl, rfl⟩ | ⟨x, rfl, rfl⟩) <;> simp

/-! ### Decimal numbers -/

theorem not_mem_digits {sep : Char} (hsep : sep.isDigit = false) (n : ℕ) :
    sep ∉ Nat.toDigits 10 n := by
  intro hmem
  have hdigit := Nat.isDigit_of_mem_toDigits (by decide) (by decide) hmem
  rw [hsep] at hdigit
  cases hdigit

theorem digits_inj {m n : ℕ} (h : Nat.toDigits 10 m = Nat.toDigits 10 n) : m = n := by
  have hvalue := congrArg (fun digits => Nat.ofDigitChars 10 digits 0) h
  simpa using hvalue

/-- The digits of a number, filled up with zeros to a width. -/
def padded (width n : ℕ) : List Char :=
  List.replicate (width - (Nat.toDigits 10 n).length) '0' ++ Nat.toDigits 10 n

theorem padded_inj {width m n : ℕ} (h : padded width m = padded width n) : m = n := by
  have hvalue : ∀ k, Nat.ofDigitChars 10 (padded width k) 0 = k := fun k => by
    simp [padded, Nat.ofDigitChars_append]
  have hsame := congrArg (fun digits => Nat.ofDigitChars 10 digits 0) h
  simpa only [hvalue] using hsame

theorem not_mem_padded {sep : Char} (hsep : sep.isDigit = false) (width n : ℕ) :
    sep ∉ padded width n := by
  have hzero : sep ≠ '0' := by
    intro heq
    rw [heq] at hsep
    cases hsep
  simp [padded, hzero, not_mem_digits hsep n]

def signedDigits (neg : Bool) (n : ℕ) : List Char :=
  (if neg then ['-'] else []) ++ Nat.toDigits 10 n

theorem signedDigits_inj {neg neg' : Bool} {m n : ℕ}
    (h : signedDigits neg m = signedDigits neg' n) : neg = neg' ∧ m = n := by
  have hsign : ∀ sign k, '-' ∈ signedDigits sign k ↔ sign = true := by
    intro sign k
    have hdigits : '-' ∉ Nat.toDigits 10 k := not_mem_digits rfl k
    cases sign <;> simp [signedDigits, hdigits]
  have hneg : neg = neg' := by
    rw [Bool.eq_iff_iff, ← hsign neg m, ← hsign neg' n, h]
  rw [hneg] at h
  exact ⟨hneg, digits_inj (List.append_cancel_left h)⟩

theorem not_mem_signedDigits {sep : Char} (hsep : sep.isDigit = false) (hminus : sep ≠ '-')
    (neg : Bool) (n : ℕ) : sep ∉ signedDigits neg n := by
  have hdigits := not_mem_digits hsep n
  cases neg <;> simp [signedDigits, hminus, hdigits]

theorem toList_toString_int (z : ℤ) :
    (toString z).toList = signedDigits (decide (z < 0)) z.natAbs := by
  rw [Int.toString_eq_repr, Int.repr_eq_if, signedDigits]
  by_cases hz : 0 ≤ z
  · have hneg : ¬ z < 0 := by omega
    have habs : z.toNat = z.natAbs := by omega
    simp [hz, hneg, habs]
  · have hneg : z < 0 := by omega
    have habs : (-z).toNat = z.natAbs := by omega
    simp [hz, hneg, habs]

theorem toString_int_inj {y z : ℤ} (h : toString y = toString z) : y = z := by
  have hlists := congrArg String.toList h
  rw [toList_toString_int, toList_toString_int] at hlists
  obtain ⟨hsign, habs⟩ := signedDigits_inj hlists
  have hneg : y < 0 ↔ z < 0 := by simpa using hsign
  omega

theorem not_mem_toString_int {sep : Char} (hsep : sep.isDigit = false) (hminus : sep ≠ '-')
    (z : ℤ) : sep ∉ (toString z).toList := by
  rw [toList_toString_int]
  exact not_mem_signedDigits hsep hminus _ _

/-! ### Numbers that are read -/

def fitsI64 (z : ℤ) : Prop := -2 ^ 63 ≤ z ∧ z < 2 ^ 63

instance (z : ℤ) : Decidable (fitsI64 z) :=
  inferInstanceAs (Decidable (-2 ^ 63 ≤ z ∧ z < 2 ^ 63))

def parseDigits (digits : List Char) : Option ℕ :=
  if digits ≠ [] ∧ digits.all Char.isDigit then some (Nat.ofDigitChars 10 digits 0) else none

/-- A sign, if there is one, and what follows it. -/
def splitSign (text : List Char) : Bool × List Char :=
  if text.head? = some '-' then (true, text.tail)
  else if text.head? = some '+' then (false, text.tail)
  else (false, text)

def parseInt (text : List Char) : Option ℤ :=
  (parseDigits (splitSign text).2).map fun n => if (splitSign text).1 then -(n : ℤ) else n

def parseI64 (text : List Char) : Option ℤ := (parseInt text).filter fun z => fitsI64 z

/-- The value of digits with at most one point among them, and an exponent. -/
def parseUnsigned (digits : List Char) : Option ℚ := do
  let mantissa := digits.takeWhile fun c => c ≠ 'e' && c ≠ 'E'
  let exponentText := (digits.dropWhile fun c => c ≠ 'e' && c ≠ 'E').drop 1
  let whole := mantissa.takeWhile (· ≠ '.')
  let fraction := (mantissa.dropWhile (· ≠ '.')).drop 1
  let n ← parseDigits (whole ++ fraction)
  let exponent ← if mantissa.length = digits.length then some 0 else parseInt exponentText
  some (n * (10 : ℚ) ^ (exponent - fraction.length))

def parseDecimal (text : List Char) : Option ℚ :=
  (parseUnsigned (splitSign text).2).map fun q => if (splitSign text).1 then -q else q

theorem parseDigits_toDigits (n : ℕ) : parseDigits (Nat.toDigits 10 n) = some n := by
  have hdigits : ∀ c ∈ Nat.toDigits 10 n, c.isDigit = true := fun c hc =>
    Nat.isDigit_of_mem_toDigits (by decide) (by decide) hc
  have hsome : Nat.toDigits 10 n ≠ [] := Nat.toDigits_ne_nil
  unfold parseDigits
  rw [if_pos ⟨hsome, List.all_eq_true.mpr hdigits⟩]
  simp

theorem splitSign_digits (n : ℕ) : splitSign (Nat.toDigits 10 n) = (false, Nat.toDigits 10 n) := by
  have hplain : ∀ c : Char, c.isDigit = false → (Nat.toDigits 10 n).head? ≠ some c :=
    fun c hc hhead => not_mem_digits hc n (List.mem_of_head? hhead)
  unfold splitSign
  rw [if_neg (hplain '-' rfl), if_neg (hplain '+' rfl)]

theorem parseI64_toString {z : ℤ} (h : fitsI64 z) : parseI64 (toString z).toList = some z := by
  rw [toList_toString_int]
  unfold parseI64 parseInt signedDigits
  generalize hsize : z.natAbs = n
  by_cases hneg : z < 0
  · have habs : -(n : ℤ) = z := by omega
    simp [hneg, splitSign, parseDigits_toDigits, habs, h]
  · have habs : (n : ℤ) = z := by omega
    simp [hneg, splitSign_digits, parseDigits_toDigits, habs, h]

def contains (part s : String) : Bool := s.toList.tails.any fun t => part.toList.isPrefixOf t

/-! ### Blanks -/

def trimBy (blank : Char → Bool) (s : String) : String :=
  String.ofList ((s.toList.dropWhile blank).rdropWhile blank)

section Blanks
variable {blank : Char → Bool}

theorem trimBy_trimBy (blank : Char → Bool) (s : String) :
    trimBy blank (trimBy blank s) = trimBy blank s := by
  have hleft : ∀ cs : List Char, ((cs.dropWhile blank).rdropWhile blank).dropWhile blank =
      (cs.dropWhile blank).rdropWhile blank := by
    intro cs
    obtain ⟨tail, htail⟩ := List.rdropWhile_prefix blank (l := cs.dropWhile blank)
    have hidem := List.dropWhile_idempotent blank cs
    cases hkept : (cs.dropWhile blank).rdropWhile blank with
    | nil => rfl
    | cons c rest =>
      rw [hkept] at htail
      rw [← htail, List.cons_append, List.dropWhile_cons] at hidem
      have hc : blank c = false := by
        by_contra hc
        rw [if_pos (by simpa using hc)] at hidem
        have hlength := congrArg List.length hidem
        have hle := (List.dropWhile_suffix blank (l := rest ++ tail)).length_le
        rw [List.length_cons] at hlength
        omega
      simp [hc]
  unfold trimBy
  rw [String.toList_ofList, hleft, List.rdropWhile_idempotent]

theorem mem_of_mem_trimBy {s : String} {c : Char} (h : c ∈ (trimBy blank s).toList) :
    c ∈ s.toList := by
  unfold trimBy at h
  rw [String.toList_ofList] at h
  exact (List.dropWhile_suffix blank).mem ((List.rdropWhile_prefix blank _).mem h)

theorem trimBy_eq_self {s : String} (hhead : ∀ c ∈ s.toList.head?, blank c = false)
    (hlast : ∀ c ∈ s.toList.getLast?, blank c = false) : trimBy blank s = s := by
  have hdrop : s.toList.dropWhile blank = s.toList := by
    cases hchars : s.toList with
    | nil => rfl
    | cons c rest =>
      rw [hchars] at hhead
      rw [List.dropWhile_cons, hhead c rfl, if_neg Bool.false_ne_true]
  have hrdrop : s.toList.rdropWhile blank = s.toList := by
    rw [List.rdropWhile_eq_self_iff]
    intro hne
    rw [hlast _ (List.getLast?_eq_getLast_of_ne_nil hne)]
    exact Bool.false_ne_true
  unfold trimBy
  rw [hdrop, hrdrop, String.ofList_toList]

end Blanks

/-- The characters with the property White_Space. -/
def isWhiteSpace (c : Char) : Bool :=
  c.toNat ∈ [0x20, 0x85, 0xA0, 0x1680, 0x2028, 0x2029, 0x202F, 0x205F, 0x3000] ||
    0x09 ≤ c.toNat && c.toNat ≤ 0x0D || 0x2000 ≤ c.toNat && c.toNat ≤ 0x200A

theorem not_digit_of_blank {c : Char} (h : isWhiteSpace c = true) : c.isDigit = false ∧ c ≠ '-' := by
  constructor
  · by_contra hdigit
    have hrange : 48 ≤ c.toNat ∧ c.toNat ≤ 57 := by
      rw [Bool.not_eq_false, Char.isDigit_iff_toNat] at hdigit
      exact hdigit
    simp only [isWhiteSpace, Bool.or_eq_true, Bool.and_eq_true, decide_eq_true_eq, List.mem_cons,
      List.not_mem_nil, or_false] at h
    omega
  · intro hminus
    rw [hminus] at h
    exact absurd h (by decide)

def trim (s : String) : String := trimBy isWhiteSpace s

theorem trim_trim (s : String) : trim (trim s) = trim s := trimBy_trimBy isWhiteSpace s

end PolymarketBot.Lib.Text
