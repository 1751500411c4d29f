import Companion.Text.Basic
import Mathlib.Data.List.Flatten

/-! Taking texts apart at a separator and putting them together again: the pieces of a text between
separators are all there is to it, and pieces without separators are found again. -/

set_option autoImplicit false

namespace Companion.Text

variable {separator : Char}

/-- Two texts that are read up to the same character are the same. -/
theorem append_cons_inj {stop : Char} {left right rest others : Text} (cleanLeft : stop ∉ left)
    (cleanRight : stop ∉ right) (same : left ++ stop :: rest = right ++ stop :: others) :
    left = right ∧ rest = others := by
  induction left generalizing right with
  | nil =>
      cases right with
      | nil => exact ⟨rfl, List.tail_eq_of_cons_eq same⟩
      | cons c more => exact absurd (List.head_eq_of_cons_eq same ▸ List.mem_cons_self) cleanRight
  | cons c more ih =>
      rw [List.mem_cons, not_or] at cleanLeft
      cases right with
      | nil => exact absurd (List.head_eq_of_cons_eq same).symm cleanLeft.1
      | cons d others =>
          rw [List.mem_cons, not_or] at cleanRight
          obtain ⟨rfl, behind⟩ := List.cons_eq_cons.mp same
          obtain ⟨rfl, others⟩ := ih cleanLeft.2 cleanRight.2 behind
          exact ⟨rfl, others⟩

theorem splitOn_cons_separator (rest : Text) :
    splitOn separator (separator :: rest) = [] :: splitOn separator rest := by
  rw [splitOn]
  cases pieces : splitOn separator rest with
  | nil => exact absurd pieces (splitOn_ne_nil separator rest)
  | cons piece more => simp

theorem splitOn_eq_singleton {text : Text} (absent : separator ∉ text) :
    splitOn separator text = [text] := by
  induction text with
  | nil => rfl
  | cons c rest ih =>
      rw [List.mem_cons, not_or] at absent
      obtain ⟨different, absent⟩ := absent
      simp [splitOn, ih absent, Ne.symm different]

/-- The first piece ends where the separator first occurs. -/
theorem head?_splitOn (separator : Char) (text : Text) :
    (splitOn separator text).head? = some (text.takeWhile (· ≠ separator)) := by
  induction text with
  | nil => rfl
  | cons c rest ih =>
      rw [splitOn]
      cases pieces : splitOn separator rest with
      | nil => exact absurd pieces (splitOn_ne_nil separator rest)
      | cons piece more =>
          obtain rfl : piece = rest.takeWhile (· ≠ separator) := by simpa [pieces] using ih
          by_cases same : c = separator <;> simp [same]

/-- What holds no separator belongs to the first piece of what follows. -/
theorem splitOn_append {text rest first : Text} {pieces : List Text} (absent : separator ∉ text)
    (split : splitOn separator rest = first :: pieces) :
    splitOn separator (text ++ rest) = (text ++ first) :: pieces := by
  induction text with
  | nil => exact split
  | cons c more ih =>
      rw [List.mem_cons, not_or] at absent
      rw [List.cons_append, splitOn, ih absent.2]
      exact if_neg (Ne.symm absent.1)

theorem splitOn_append_separator (left right : Text) :
    splitOn separator (left ++ separator :: right) =
      splitOn separator left ++ splitOn separator right := by
  induction left with
  | nil => exact splitOn_cons_separator right
  | cons c rest ih =>
      rw [List.cons_append, splitOn, ih, splitOn]
      cases pieces : splitOn separator rest with
      | nil => exact absurd pieces (splitOn_ne_nil separator rest)
      | cons piece more => by_cases same : c = separator <;> simp [same]

theorem splitOn_join {pieces : List Text} (some : pieces ≠ [])
    (clean : ∀ piece ∈ pieces, separator ∉ piece) :
    splitOn separator (join [separator] pieces) = pieces := by
  induction pieces with
  | nil => exact absurd rfl some
  | cons piece rest ih =>
      have cleanPiece : separator ∉ piece := clean piece List.mem_cons_self
      cases rest with
      | nil => exact splitOn_eq_singleton cleanPiece
      | cons next more =>
          have others := ih (by simp) fun other member => clean other (List.mem_cons_of_mem _ member)
          rw [join_cons_cons, List.append_assoc, List.singleton_append, splitOn_append_separator,
            splitOn_eq_singleton cleanPiece, others, List.singleton_append]

theorem join_append {left right : List Text} (someLeft : left ≠ []) (someRight : right ≠ [])
    (between : Text) : join between (left ++ right) =
      join between left ++ between ++ join between right := by
  induction left with
  | nil => exact absurd rfl someLeft
  | cons piece rest ih =>
      cases rest with
      | nil =>
          cases right with
          | nil => exact absurd rfl someRight
          | cons next more => rfl
      | cons next more =>
          have others := ih (by simp)
          simp only [List.cons_append, join_cons_cons, List.append_assoc] at others ⊢
          rw [others]

/-- Each piece but the first comes with the separator in front of it. -/
theorem join_cons_eq_flatMap (between first : Text) (rest : List Text) :
    join between (first :: rest) = first ++ rest.flatMap (between ++ ·) := by
  induction rest generalizing first with
  | nil => simp
  | cons next more ih => rw [join_cons_cons, ih, List.flatMap_cons, List.append_assoc, List.append_assoc]

theorem mem_join {between piece : Text} {pieces : List Text} (member : piece ∈ pieces) {c : Char}
    (inPiece : c ∈ piece) : c ∈ join between pieces := by
  induction pieces with
  | nil => cases member
  | cons first rest ih =>
      rw [join_cons_eq_flatMap]
      cases member with
      | head => exact List.mem_append_left _ inPiece
      | tail _ inside =>
          refine List.mem_append_right _ (List.mem_flatMap.mpr ⟨piece, inside, ?_⟩)
          exact List.mem_append_right _ inPiece

theorem exists_of_mem_join {between : Text} {pieces : List Text} {c : Char}
    (member : c ∈ join between pieces) : c ∈ between ∨ ∃ piece ∈ pieces, c ∈ piece := by
  cases pieces with
  | nil => cases member
  | cons first rest =>
      rw [join_cons_eq_flatMap, List.mem_append, List.mem_flatMap] at member
      cases member with
      | inl inFirst => exact .inr ⟨first, List.mem_cons_self, inFirst⟩
      | inr behind =>
          obtain ⟨piece, isPiece, inside⟩ := behind
          cases List.mem_append.mp inside with
          | inl separates => exact .inl separates
          | inr inPiece => exact .inr ⟨piece, List.mem_cons_of_mem first isPiece, inPiece⟩

/-- What is put behind the last piece is put behind the whole. -/
theorem join_append_last (between : Text) (pieces : List Text) (last ending : Text) :
    join between (pieces ++ [last ++ ending]) = join between (pieces ++ [last]) ++ ending := by
  by_cases none : pieces = []
  · simp [none]
  · rw [join_append none (by simp), join_append none (by simp)]
    simp

/-- A text joined of some of the pieces is what is left of the whole. -/
theorem join_sublist (between : Text) {some pieces : List Text} (inside : some.Sublist pieces) :
    (join between some).Sublist (join between pieces) := by
  induction inside with
  | slnil => exact List.Sublist.refl _
  | @cons front behind piece rest ih =>
      cases behind with
      | nil =>
          rw [List.sublist_nil.mp rest]
          exact List.nil_sublist _
      | cons next more =>
          rw [join_cons_cons]
          exact ih.trans (List.sublist_append_right _ _)
  | cons_cons piece rest _ =>
      rw [join_cons_eq_flatMap, join_cons_eq_flatMap]
      exact (List.Sublist.refl piece).append (rest.flatMap _)

end Companion.Text
