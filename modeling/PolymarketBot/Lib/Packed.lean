import Mathlib.Data.List.Infix
import Mathlib.Tactic.Ring

/-! Packed formats: numbers as a fixed count of bytes, and records one after another, each of
which tells where it ends. -/

namespace PolymarketBot.Lib

/-! ### Numbers -/

/-- The last `width` bytes of `n`, the highest first. -/
def toBeBytes : ℕ → ℕ → List UInt8
  | 0, _ => []
  | width + 1, n => toBeBytes width (n / 256) ++ [UInt8.ofNat n]

def fromBeBytes (bytes : List UInt8) : ℕ := bytes.foldl (fun n b => n * 256 + b.toNat) 0

@[simp] theorem length_toBeBytes (width n : ℕ) : (toBeBytes width n).length = width := by
  induction width generalizing n with
  | zero => rfl
  | succ width ih => rw [toBeBytes, List.length_append, ih, List.length_singleton]

theorem fromBeBytes_concat (bytes : List UInt8) (b : UInt8) :
    fromBeBytes (bytes ++ [b]) = fromBeBytes bytes * 256 + b.toNat := List.foldl_append

theorem fromBeBytes_toBeBytes {width n : ℕ} (h : n < 256 ^ width) :
    fromBeBytes (toBeBytes width n) = n := by
  induction width generalizing n with
  | zero =>
    rw [pow_zero] at h
    obtain rfl : n = 0 := by omega
    rfl
  | succ width ih =>
    have hhigh : n / 256 < 256 ^ width := Nat.div_lt_of_lt_mul (by rwa [← pow_succ'])
    have hlow : (UInt8.ofNat n).toNat = n % 256 := UInt8.toNat_ofNat'
    rw [toBeBytes, fromBeBytes_concat, ih hhigh, hlow]
    omega

/-! ### Records -/

section Records
variable {β ρ σ : Type}

/-- A list of `n` items. -/
abbrev Exactly (n : ℕ) (β : Type) := { l : List β // l.length = n }

/-- What is written says where it ends: the record and what follows it can be told apart. -/
def Delimited (write : ρ → List β) : Prop :=
  ∀ r r' rest rest', write r ++ rest = write r' ++ rest' → r = r' ∧ rest = rest'

namespace Delimited

theorem exactly (n : ℕ) : Delimited (fun l : Exactly n β => l.1) := by
  intro l l' rest rest' h
  obtain ⟨hl, hrest⟩ := List.append_inj h (l.2.trans l'.2.symm)
  exact ⟨Subtype.ext hl, hrest⟩

theorem after {write : ρ → List β} (h : Delimited write) (front : List β) :
    Delimited (fun r => front ++ write r) := by
  intro r r' rest rest' heq
  simp only [List.append_assoc, List.append_cancel_left_eq] at heq
  exact h r r' rest rest' heq

theorem pair {write : ρ → List β} {write' : σ → List β} (h : Delimited write)
    (h' : Delimited write') : Delimited (fun c : ρ × σ => write c.1 ++ write' c.2) := by
  intro c c' rest rest' heq
  simp only [List.append_assoc] at heq
  obtain ⟨hfirst, heq⟩ := h _ _ _ _ heq
  obtain ⟨hsecond, hrest⟩ := h' _ _ _ _ heq
  exact ⟨Prod.ext hfirst hsecond, hrest⟩

theorem flatMap_prefix_iff {write : ρ → List β} (h : Delimited write) (hne : ∀ r, write r ≠ [])
    {rs rs' : List ρ} : rs.flatMap write <+: rs'.flatMap write ↔ rs <+: rs' := by
  constructor
  · intro hprefix
    induction rs generalizing rs' with
    | nil => exact List.nil_prefix
    | cons r rs ih =>
      obtain ⟨rest, hrest⟩ := hprefix
      cases rs' with
      | nil => simp [hne r] at hrest
      | cons r' rs' =>
        simp only [List.flatMap_cons, List.append_assoc] at hrest
        obtain ⟨rfl, heq⟩ := h _ _ _ _ hrest
        exact List.cons_prefix_cons.mpr ⟨rfl, ih ⟨rest, heq⟩⟩
  · intro hprefix
    obtain ⟨rest, rfl⟩ := hprefix
    rw [List.flatMap_append]
    exact List.prefix_append _ _

end Delimited
end Records

/-! ### Counted bytes -/

theorem Delimited.counted {width bound : ℕ} (hbound : bound ≤ 256 ^ width) :
    Delimited (fun data : { bytes : List UInt8 // bytes.length < bound } =>
      toBeBytes width data.1.length ++ data.1) := by
  intro data data' rest rest' heq
  simp only [List.append_assoc] at heq
  obtain ⟨hcount, heq⟩ := List.append_inj heq (by simp only [length_toBeBytes])
  have hlength : data.1.length = data'.1.length := by
    rw [← fromBeBytes_toBeBytes (data.2.trans_le hbound), hcount,
      fromBeBytes_toBeBytes (data'.2.trans_le hbound)]
  obtain ⟨hdata, hrest⟩ := List.append_inj heq hlength
  exact ⟨Subtype.ext hdata, hrest⟩

end PolymarketBot.Lib
