import Companion.Text.Basic
import Mathlib.Data.Char
import Mathlib.Data.List.Lex
import Mathlib.Data.List.Sort

/-! Texts by code points are texts in lexicographic order, and sorting them gives each text once, in
this order. -/

set_option autoImplicit false

namespace Companion.Text

/-- The order of texts is the lexicographic one. -/
theorem precedes_iff_lt {left right : Text} : precedes left right = true ↔ left < right := by
  induction left generalizing right with
  | nil =>
      cases right with
      | nil => simp [precedes]
      | cons d right => simp [precedes]
  | cons c left ih =>
      cases right with
      | nil => simp [precedes]
      | cons d right =>
          rw [List.cons_lt_cons_iff, ← ih, precedes]
          change _ ↔ c.toNat < d.toNat ∨ _
          by_cases less : c.toNat < d.toNat
          · simp [less]
          · by_cases greater : d.toNat < c.toNat
            · have different : c ≠ d := by
                rintro rfl
                exact less greater
              simp [less, greater, different]
            · have same : c = d := Char.toNat_inj.mp (by omega)
              simp [same]

/-- Texts that stand in ascending order, without repetition. -/
abbrev Ascending (texts : List Text) : Prop := texts.Pairwise (· < ·)

@[simp] theorem mem_insertSorted {text other : Text} {texts : List Text} :
    other ∈ insertSorted text texts ↔ other = text ∨ other ∈ texts := by
  induction texts with
  | nil => simp [insertSorted]
  | cons first rest ih =>
      rw [insertSorted]
      split
      · next same => simp [same]
      · split
        · simp
        · rw [List.mem_cons, ih, List.mem_cons]
          tauto

theorem ascending_insertSorted (text : Text) {texts : List Text} (ascending : Ascending texts) :
    Ascending (insertSorted text texts) := by
  induction texts with
  | nil => exact List.pairwise_singleton _ _
  | cons first rest ih =>
      obtain ⟨least, others⟩ := List.pairwise_cons.mp ascending
      rw [insertSorted]
      split
      · exact ascending
      · next different =>
        split
        · next before =>
          have less := precedes_iff_lt.mp before
          refine List.pairwise_cons.mpr ⟨?_, ascending⟩
          intro other member
          rcases List.mem_cons.mp member with rfl | member
          · exact less
          · exact lt_trans less (least other member)
        · next notBefore =>
          have greater : first < text := by
            rcases lt_trichotomy first text with less | same | more
            · exact less
            · exact absurd same.symm different
            · exact absurd (precedes_iff_lt.mpr more) notBefore
          refine List.pairwise_cons.mpr ⟨?_, ih others⟩
          intro other member
          rcases mem_insertSorted.mp member with rfl | member
          · exact greater
          · exact least other member

@[simp] theorem mem_sortedDistinct {text : Text} {texts : List Text} :
    text ∈ sortedDistinct texts ↔ text ∈ texts := by
  induction texts with
  | nil => simp [sortedDistinct]
  | cons first rest ih =>
      change text ∈ insertSorted first (sortedDistinct rest) ↔ _
      rw [mem_insertSorted, ih, List.mem_cons]

theorem ascending_sortedDistinct (texts : List Text) : Ascending (sortedDistinct texts) := by
  induction texts with
  | nil => exact List.Pairwise.nil
  | cons first rest ih => exact ascending_insertSorted first ih

end Companion.Text
