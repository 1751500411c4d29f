import Companion.Text.Basic

/-! Replacing parts of a text: what happens to the ending of the text, to its characters and to its
length. -/

set_option autoImplicit false

namespace Companion.Text

variable {opening : Text} {last : Char}

/-- An occurrence that starts inside a text ends inside it when its last character is not in what
follows. -/
private theorem isPrefixOf_append_of_last {text ending : Text} (absent : last ∉ ending) :
    (opening ++ [last]).isPrefixOf (text ++ ending) = (opening ++ [last]).isPrefixOf text := by
  rw [Bool.eq_iff_iff, List.isPrefixOf_iff_prefix, List.isPrefixOf_iff_prefix]
  constructor
  · rintro ⟨rest, found⟩
    rcases List.append_eq_append_iff.mp found with ⟨more, inside, _⟩ | ⟨excess, across, rfl⟩
    · exact ⟨more, inside.symm⟩
    · rcases List.eq_nil_or_concat excess with rfl | ⟨start, c, rfl⟩
      · exact ⟨[], by simpa using across⟩
      · have same : last = c := by
          have := congrArg List.getLast? across
          simpa using this
        simp [same] at absent
  · intro found
    exact found.trans (List.prefix_append text ending)

/-- A text without the last character of what is sought stays as it is. -/
theorem replaceFrom_eq_self {new text : Text} (absent : last ∉ text) :
    replaceFrom (opening ++ [last]) new 0 text = text := by
  induction text with
  | nil => rfl
  | cons c rest ih =>
      have apart : (opening ++ [last]).isPrefixOf (c :: rest) = false := by
        rw [← List.nil_append (c :: rest), isPrefixOf_append_of_last absent]
        cases opening <;> rfl
      rw [replaceFrom, apart, ih fun member => absent (List.mem_cons_of_mem _ member)]
      rfl

/-- An ending without the last character of what is sought is left alone. -/
theorem replaceFrom_append {new text ending : Text} {skipped : Nat} (absent : last ∉ ending)
    (within : skipped ≤ text.length) :
    replaceFrom (opening ++ [last]) new skipped (text ++ ending) =
      replaceFrom (opening ++ [last]) new skipped text ++ ending := by
  induction text generalizing skipped with
  | nil =>
      obtain rfl : skipped = 0 := by simpa using within
      exact replaceFrom_eq_self absent
  | cons c rest ih =>
      cases skipped with
      | succ skipped => exact ih (by simpa using within)
      | zero =>
          rw [List.cons_append, replaceFrom, ← List.cons_append, isPrefixOf_append_of_last absent,
            replaceFrom]
          by_cases found : (opening ++ [last]).isPrefixOf (c :: rest) = true
          · have fits := (List.isPrefixOf_iff_prefix.mp found).length_le
            rw [if_pos found, if_pos found, ih (by simpa using fits), List.append_assoc]
          · rw [if_neg found, if_neg found, ih (Nat.zero_le _), List.cons_append]

theorem replaceAll_append {new text ending : Text} (absent : last ∉ ending) :
    replaceAll (opening ++ [last]) new (text ++ ending) =
      replaceAll (opening ++ [last]) new text ++ ending := by
  have some : (opening ++ [last]).isEmpty = false := by simp
  rw [replaceAll, replaceAll, some]
  exact replaceFrom_append absent (Nat.zero_le _)

theorem replaceAll_eq_self {new text : Text} (absent : last ∉ text) :
    replaceAll (opening ++ [last]) new text = text := by
  have some : (opening ++ [last]).isEmpty = false := by simp
  rw [replaceAll, some]
  exact replaceFrom_eq_self absent

/-- Replacing brings in characters of the replacement only. -/
theorem mem_replaceFrom {old new text : Text} {skipped : Nat} {c : Char}
    (member : c ∈ replaceFrom old new skipped text) : c ∈ new ∨ c ∈ text := by
  induction text generalizing skipped with
  | nil => cases skipped <;> simp [replaceFrom] at member
  | cons d rest ih =>
      cases skipped with
      | succ skipped =>
          rcases ih member with inNew | inRest
          · exact .inl inNew
          · exact .inr (List.mem_cons_of_mem _ inRest)
      | zero =>
          rw [replaceFrom] at member
          split at member
          · rcases List.mem_append.mp member with inNew | later
            · exact .inl inNew
            · rcases ih later with inNew | inRest
              · exact .inl inNew
              · exact .inr (List.mem_cons_of_mem _ inRest)
          · rcases List.mem_cons.mp member with rfl | later
            · exact .inr List.mem_cons_self
            · rcases ih later with inNew | inRest
              · exact .inl inNew
              · exact .inr (List.mem_cons_of_mem _ inRest)

theorem mem_interleave {new text : Text} {c : Char} (member : c ∈ interleave new text) :
    c ∈ new ∨ c ∈ text := by
  induction text with
  | nil => exact .inl member
  | cons d rest ih =>
      rcases List.mem_append.mp member with inNew | later
      · exact .inl inNew
      · rcases List.mem_cons.mp later with rfl | later
        · exact .inr List.mem_cons_self
        · exact (ih later).imp id (List.mem_cons_of_mem _)

theorem mem_replaceAll {old new text : Text} {c : Char} (member : c ∈ replaceAll old new text) :
    c ∈ new ∨ c ∈ text := by
  unfold replaceAll at member
  split at member
  · exact mem_interleave member
  · exact mem_replaceFrom member

theorem length_replaceFrom_nil_le (old text : Text) (skipped : Nat) :
    (replaceFrom old [] skipped text).length ≤ text.length - skipped := by
  induction text generalizing skipped with
  | nil => cases skipped <;> simp [replaceFrom]
  | cons c rest ih =>
      cases skipped with
      | succ skipped => simpa [replaceFrom] using ih skipped
      | zero =>
          rw [replaceFrom]
          split
          · have := ih (old.length - 1)
            simp only [List.nil_append, List.length_cons]
            omega
          · simpa using ih 0

/-- Taking out an ending makes a text shorter. -/
theorem length_replaceFrom_nil_lt {old : Text} (some : old ≠ []) (text : Text) :
    (replaceFrom old [] 0 (text ++ old)).length < (text ++ old).length := by
  induction text with
  | nil =>
      obtain ⟨c, rest, rfl⟩ := List.exists_cons_of_ne_nil some
      have found : (c :: rest).isPrefixOf (c :: rest) = true := by simp
      rw [List.nil_append, replaceFrom, if_pos found]
      have := length_replaceFrom_nil_le (c :: rest) rest ((c :: rest).length - 1)
      simp only [List.nil_append, List.length_cons] at this ⊢
      omega
  | cons c rest ih =>
      rw [List.cons_append, replaceFrom]
      split
      · have := length_replaceFrom_nil_le old (rest ++ old) (old.length - 1)
        simp only [List.nil_append, List.length_cons]
        omega
      · simpa using ih

end Companion.Text
