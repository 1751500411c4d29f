import Companion.Text.Basic

/-! Removing repetitions from a list of texts. The first occurrence of each text stays where it is,
so the result does not depend on whether repetitions are removed at once or on the way. -/

set_option autoImplicit false

namespace Companion.Text

@[simp] theorem distinct_nil : distinct [] = [] := rfl

theorem distinct_cons (text : Text) (texts : List Text) :
    distinct (text :: texts) = text :: (distinct texts).filter (· ≠ text) := rfl

@[simp] theorem mem_distinct {text : Text} {texts : List Text} :
    text ∈ distinct texts ↔ text ∈ texts := by
  induction texts with
  | nil => simp
  | cons first rest ih =>
      by_cases same : text = first <;> simp [distinct_cons, ih, same]

theorem nodup_distinct (texts : List Text) : (distinct texts).Nodup := by
  induction texts with
  | nil => exact List.nodup_nil
  | cons first rest ih =>
      rw [distinct_cons, List.nodup_cons]
      exact ⟨by simp, ih.filter _⟩

/-- What is new in the second list comes behind what the first one holds. -/
theorem distinct_append (left right : List Text) :
    distinct (left ++ right) = distinct left ++ (distinct right).filter (· ∉ left) := by
  induction left with
  | nil => simp [List.filter_eq_self.mpr]
  | cons first rest ih =>
      rw [List.cons_append, distinct_cons, ih, distinct_cons, List.filter_append,
        List.filter_filter, List.cons_append]
      congr 2
      apply List.filter_congr
      intro text _
      by_cases same : text = first <;> simp [same]

theorem distinct_append_singleton (texts : List Text) (text : Text) :
    distinct (texts ++ [text]) =
      if text ∈ texts then distinct texts else distinct texts ++ [text] := by
  rw [distinct_append]
  by_cases present : text ∈ texts <;> simp [distinct_cons, present]

theorem distinct_eq_self {texts : List Text} (unique : texts.Nodup) : distinct texts = texts := by
  induction texts with
  | nil => rfl
  | cons first rest ih =>
      obtain ⟨fresh, unique⟩ := List.nodup_cons.mp unique
      rw [distinct_cons, ih unique, List.filter_eq_self.mpr]
      intro text member
      have different : text ≠ first := fun same => fresh (same ▸ member)
      simpa using different

theorem distinct_distinct_append (left right : List Text) :
    distinct (distinct left ++ right) = distinct (left ++ right) := by
  rw [distinct_append, distinct_append, distinct_eq_self (nodup_distinct left)]
  congr 1
  apply List.filter_congr
  intro text _
  simp

theorem distinct_append_distinct (left right : List Text) :
    distinct (left ++ distinct right) = distinct (left ++ right) := by
  rw [distinct_append, distinct_append, distinct_eq_self (nodup_distinct right)]

theorem distinct_eq_self_iff {texts : List Text} : distinct texts = texts ↔ texts.Nodup := by
  constructor
  · intro same
    exact same ▸ nodup_distinct texts
  · exact distinct_eq_self

end Companion.Text
