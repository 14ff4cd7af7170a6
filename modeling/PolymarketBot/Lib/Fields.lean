import Mathlib.Algebra.Group.Int.Defs
import Mathlib.Data.List.Infix
import PolymarketBot.Lib.Text

/-! Named numbers in a text, each behind its name and an equals sign, and how a reader that looks for
a name finds its number. -/

namespace PolymarketBot.Lib.Fields
open Text

section Search
variable {α : Type*} [DecidableEq α]

/-- What stands behind the first place where a text has the needle. -/
def afterFirst (needle : List α) : List α → Option (List α)
  | [] => if needle = [] then some [] else none
  | c :: rest =>
    if needle <+: c :: rest then some ((c :: rest).drop needle.length)
    else afterFirst needle rest

theorem afterFirst_head {needle : List α} (rest : List α) :
    afterFirst needle (needle ++ rest) = some rest := by
  cases h : needle ++ rest with
  | nil =>
    obtain ⟨hneedle, hrest⟩ := List.append_eq_nil_iff.mp h
    rw [hneedle, hrest]
    rfl
  | cons c text =>
    have hprefix : needle <+: c :: text := ⟨rest, h⟩
    rw [afterFirst, if_pos hprefix, ← h, List.drop_left]

theorem afterFirst_skip {needle : List α} (hsome : needle ≠ []) {skipped : List α}
    (h : ∀ c ∈ skipped, c ∉ needle) (rest : List α) :
    afterFirst needle (skipped ++ rest) = afterFirst needle rest := by
  induction skipped with
  | nil => rfl
  | cons c skipped ih =>
    obtain ⟨hc, hskipped⟩ := List.forall_mem_cons.mp h
    rw [List.cons_append, afterFirst, if_neg, ih hskipped]
    intro hprefix
    obtain ⟨d, needle, rfl⟩ := List.exists_cons_of_ne_nil hsome
    exact hc ((List.cons_prefix_cons.mp hprefix).1 ▸ List.mem_cons_self ..)

theorem afterFirst_marked {name : List α} {mark : α} (hname : mark ∉ name) {lead : List α}
    (hlead : mark ∉ lead) (rest : List α) :
    afterFirst (name ++ [mark]) (lead ++ mark :: rest) =
      if name <:+ lead then some rest else afterFirst (name ++ [mark]) rest := by
  induction lead with
  | nil =>
    by_cases hnone : name = []
    · have hfound : afterFirst [mark] ([mark] ++ rest) = some rest := afterFirst_head rest
      simpa [hnone] using hfound
    · have hsuffix : ¬ name <:+ [] := fun h => hnone (List.suffix_nil.mp h)
      have hprefix : ¬ name ++ [mark] <+: mark :: rest := by
        obtain ⟨d, name, rfl⟩ := List.exists_cons_of_ne_nil hnone
        intro h
        exact hname ((List.cons_prefix_cons.mp h).1 ▸ List.mem_cons_self ..)
      rw [if_neg hsuffix, List.nil_append, afterFirst, if_neg hprefix]
  | cons c lead ih =>
    have hrest : mark ∉ lead := fun h => hlead (List.mem_cons_of_mem c h)
    by_cases hwhole : name = c :: lead
    · have hfound : afterFirst (c :: lead ++ [mark]) (c :: lead ++ [mark] ++ rest) = some rest :=
        afterFirst_head rest
      rw [if_pos (hwhole ▸ List.suffix_refl _), hwhole]
      simpa using hfound
    · have hprefix : ¬ name ++ [mark] <+: c :: lead ++ mark :: rest := by
        intro h
        obtain ⟨more, hmore⟩ := h
        rw [List.append_assoc, List.singleton_append] at hmore
        have hsplit := (firstField_inj hname hlead (.inr ⟨more, rfl⟩) (.inr ⟨rest, rfl⟩) hmore).1
        exact hwhole hsplit
      have hstep : afterFirst (name ++ [mark]) (c :: lead ++ mark :: rest) =
          afterFirst (name ++ [mark]) (lead ++ mark :: rest) := by
        rw [List.cons_append, afterFirst, if_neg (by simpa using hprefix)]
      have hsuffix : name <:+ c :: lead ↔ name <:+ lead := by
        rw [List.suffix_cons_iff]
        exact or_iff_right hwhole
      rw [hstep, ih hrest]
      simp only [hsuffix]

theorem afterFirst_isSome_of_infix {needle text : List α} (h : needle <:+: text) :
    (afterFirst needle text).isSome := by
  induction text with
  | nil =>
    rw [List.infix_nil.mp h]
    rfl
  | cons c text ih =>
    rw [afterFirst]
    split_ifs with hprefix
    · rfl
    · exact ih ((List.infix_cons_iff.mp h).resolve_left hprefix)

end Search

theorem not_suffix_append {α : Type*} {name other : List α} (h : ¬ name <:+ other) (h' : ¬ other <:+ name)
    (lead : List α) : ¬ name <:+ lead ++ other := by
  intro hsuffix
  cases List.suffix_or_suffix_of_suffix hsuffix (List.suffix_append lead other) with
  | inl hle => exact h hle
  | inr hge => exact h' hge

/-! ### Numbers -/

def isNumberChar (c : Char) : Bool := c = '-' || c.isDigit

/-- The number behind the first place where the text has the name and an equals sign. -/
def readField (name text : List Char) : Option ℤ :=
  (afterFirst (name ++ ['=']) text).bind fun rest => parseI64 (rest.takeWhile isNumberChar)

theorem toString_numberChars (z : ℤ) : ∀ c ∈ (toString z).toList, isNumberChar c = true := by
  intro c hc
  by_contra hother
  have hparts : c ≠ '-' ∧ c.isDigit = false := by simpa [isNumberChar] using hother
  exact not_mem_toString_int hparts.2 hparts.1 z hc

/-! ### Fields -/

/-- A text of named numbers. Before each name stands what leads to it, after the last the tail. -/
def fieldsText : List (List Char × List Char × ℤ) → List Char → List Char
  | [], tail => tail
  | (lead, name, value) :: fields, tail =>
    lead ++ name ++ '=' :: ((toString value).toList ++ fieldsText fields tail)

/-- A number ends where the next lead or the tail begins. -/
def Ends (text : List Char) : Prop := ∀ c, text.head? = some c → isNumberChar c = false

theorem takeWhile_number (z : ℤ) {rest : List Char} (h : Ends rest) :
    ((toString z).toList ++ rest).takeWhile isNumberChar = (toString z).toList := by
  rw [List.takeWhile_append_of_pos (toString_numberChars z)]
  have hnone : rest.takeWhile isNumberChar = [] := by
    cases rest with
    | nil => rfl
    | cons c rest => rw [List.takeWhile_cons, h c rfl]; rfl
  rw [hnone, List.append_nil]

section Read
variable {name lead other : List Char} {value : ℤ} {rest : List Char}
  (hmark : '=' ∉ name) (hlead : '=' ∉ lead ++ other)
include hmark hlead

theorem readField_here (hends : name <:+ lead ++ other) (hfits : fitsI64 value)
    (hrest : Ends rest) :
    readField name (lead ++ other ++ '=' :: ((toString value).toList ++ rest)) = some value := by
  unfold readField
  rw [afterFirst_marked hmark hlead, if_pos hends]
  change parseI64 _ = _
  rw [takeWhile_number value hrest, parseI64_toString hfits]

theorem readField_later (hname : ∀ c ∈ name ++ ['='], isNumberChar c = false) (hends : ¬ name <:+ lead ++ other) :
    readField name (lead ++ other ++ '=' :: ((toString value).toList ++ rest)) =
      readField name rest := by
  unfold readField
  rw [afterFirst_marked hmark hlead, if_neg hends, afterFirst_skip (by simp)]
  intro c hc hin
  have hnumber := toString_numberChars value c hc
  rw [hname c hin] at hnumber
  cases hnumber

end Read

theorem readField_fields {name lead other : List Char} {value : ℤ}
    {before after : List (List Char × List Char × ℤ)} {tail : List Char} (hmark : '=' ∉ name)
    (hname : ∀ c ∈ name ++ ['='], isNumberChar c = false)
    (hbefore : ∀ text ∈ before.map fun field => field.1 ++ field.2.1,
      '=' ∉ text ∧ ¬ name <:+ text)
    (hlead : '=' ∉ lead ++ other) (hends : name <:+ lead ++ other) (hfits : fitsI64 value)
    (hrest : Ends (fieldsText after tail)) :
    readField name (fieldsText (before ++ (lead, other, value) :: after) tail) = some value := by
  induction before with
  | nil => exact readField_here hmark hlead hends hfits hrest
  | cons field before ih =>
    obtain ⟨⟨hfield, hother⟩, hbefore⟩ := List.forall_mem_cons.mp hbefore
    exact (readField_later hmark hfield hname hother).trans (ih hbefore)

theorem ends_fieldsText {fields : List (List Char × List Char × ℤ)} {tail : List Char}
    (hfields : ∀ lead ∈ fields.map Prod.fst, lead ≠ [] ∧ Ends lead) (htail : Ends tail) :
    Ends (fieldsText fields tail) := by
  cases fields with
  | nil => exact htail
  | cons field fields =>
    obtain ⟨⟨hsome, hlead⟩, -⟩ := List.forall_mem_cons.mp hfields
    intro c hc
    refine hlead c ?_
    unfold fieldsText at hc
    rw [List.append_assoc, List.head?_append_of_ne_nil _ hsome] at hc
    exact hc

end PolymarketBot.Lib.Fields
