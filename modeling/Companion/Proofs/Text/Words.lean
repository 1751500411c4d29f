import Companion.Text.Blank
import Companion.Proofs.Text.Pieces
import Mathlib.Data.List.DropRight

/-!
# Words and blanks

The words of a text are its runs of characters that are not blank, whatever blanks stand between and
around them. A text is collapsed to its words with single spaces between them; that is done one run of
blanks after the other, so it may be done on either side of a character that is not blank.
-/

set_option autoImplicit false

namespace Companion.Text

def AreBlank (text : Text) : Prop := ∀ c ∈ text, isBlank c = true

instance (text : Text) : Decidable (AreBlank text) :=
  List.decidableBAll (fun c => isBlank c = true) text

def IsWord (text : Text) : Prop := text ≠ [] ∧ ∀ c ∈ text, isBlank c = false

-- Given by name: a quantifier over characters may also be decided by trying them all.
instance (text : Text) : Decidable (IsWord text) :=
  @instDecidableAnd _ _ _ (List.decidableBAll (fun c => isBlank c = false) text)

/-- The words of a text from left to right. -/
inductive HasWords : List Text → Text → Prop where
  | none {text : Text} : AreBlank text → HasWords [] text
  | word (front : Text) {word rest : Text} {words : List Text} :
      AreBlank front → IsWord word → (∀ c ∈ rest.head?, isBlank c = true) → HasWords words rest →
      HasWords (word :: words) (front ++ (word ++ rest))

variable {c : Char} {text word rest : Text} {found : List Text}

/-! ## Blanks at the ends -/

theorem areBlank_append_iff {left right : Text} :
    AreBlank (left ++ right) ↔ AreBlank left ∧ AreBlank right :=
  List.forall_mem_append

theorem trimEnd_append_of_areBlank {left right : Text} (areBlank : AreBlank right) :
    trimEnd (left ++ right) = trimEnd left := by
  have passes : ∀ c ∈ right.reverse, isBlank c = true :=
    fun c member => areBlank c (List.mem_reverse.mp member)
  simp only [trimEnd, List.reverse_append, List.dropWhile_append_of_pos passes]

theorem trimEnd_append_of_visible {left right : Text} (visible : trimEnd right ≠ []) :
    trimEnd (left ++ right) = left ++ trimEnd right := by
  have stops : right.reverse.dropWhile isBlank ≠ [] :=
    fun none => visible (congrArg List.reverse none)
  simp [trimEnd, List.dropWhile_append, stops]

theorem trimEnd_eq_nil_iff : trimEnd text = [] ↔ AreBlank text :=
  List.rdropWhile_eq_nil_iff

theorem trimEnd_concat (left : Text) (visible : isBlank c = false) :
    trimEnd (left ++ [c]) = left ++ [c] :=
  List.rdropWhile_concat_neg isBlank left c (by simp [visible])

theorem trimStart_append_of_areBlank {left right : Text} (areBlank : AreBlank left) :
    trimStart (left ++ right) = trimStart right :=
  List.dropWhile_append_of_pos areBlank

theorem trimStart_cons (rest : Text) (visible : isBlank c = false) :
    trimStart (c :: rest) = c :: rest :=
  List.dropWhile_cons_of_neg (by simp [visible])

theorem trimStart_eq_nil_iff : trimStart text = [] ↔ AreBlank text :=
  List.dropWhile_eq_nil_iff

/-- Blanks are trimmed up to the last character that is not blank. -/
theorem trimEnd_append_cons (left right : Text) (visible : isBlank c = false) :
    trimEnd (left ++ c :: right) = left ++ c :: trimEnd right := by
  have apart : left ++ c :: right = (left ++ [c]) ++ right := by simp
  by_cases areBlank : AreBlank right
  · rw [apart, trimEnd_append_of_areBlank areBlank, trimEnd_eq_nil_iff.mpr areBlank,
      trimEnd_concat left visible]
  · rw [apart, trimEnd_append_of_visible (areBlank ∘ trimEnd_eq_nil_iff.mp), List.append_assoc]
    rfl

theorem exists_trimEnd (text : Text) : ∃ back, AreBlank back ∧ text = trimEnd text ++ back := by
  refine ⟨(text.reverse.takeWhile isBlank).reverse, ?_, ?_⟩
  · intro c member
    exact List.all_eq_true.mp List.all_takeWhile c (List.mem_reverse.mp member)
  · rw [trimEnd, ← List.reverse_append, List.takeWhile_append_dropWhile, List.reverse_reverse]

/-- What is trimmed off are blanks. -/
theorem exists_trim (text : Text) :
    ∃ front back, AreBlank front ∧ AreBlank back ∧ text = front ++ (trim text ++ back) := by
  have atStart : AreBlank (text.takeWhile isBlank) := List.all_eq_true.mp List.all_takeWhile
  obtain ⟨back, areBack, ending⟩ := exists_trimEnd (trimStart text)
  refine ⟨text.takeWhile isBlank, back, atStart, areBack, ?_⟩
  rw [trim, ← ending]
  exact List.takeWhile_append_dropWhile.symm

theorem trim_append_of_areBlank {left right : Text} (areBlank : AreBlank right) :
    trim (left ++ right) = trim left := by
  by_cases none : AreBlank left
  · have whole : AreBlank (left ++ right) := areBlank_append_iff.mpr ⟨none, areBlank⟩
    rw [trim, trim, trimStart_eq_nil_iff.mpr whole, trimStart_eq_nil_iff.mpr none]
  · have starts : (left.dropWhile isBlank).isEmpty = false :=
      List.isEmpty_eq_false_iff.mpr (none ∘ trimStart_eq_nil_iff.mp)
    have front : trimStart (left ++ right) = trimStart left ++ right := by
      rw [trimStart, List.dropWhile_append, starts]
      rfl
    rw [trim, front, trimEnd_append_of_areBlank areBlank, trim]

theorem trim_trimEnd (text : Text) : trim (trimEnd text) = trim text := by
  obtain ⟨back, areBack, whole⟩ := exists_trimEnd text
  calc trim (trimEnd text) = trim (trimEnd text ++ back) := (trim_append_of_areBlank areBack).symm
    _ = trim text := congrArg trim whole.symm

theorem trim_eq_nil_iff : trim text = [] ↔ AreBlank text := by
  constructor
  · intro none
    obtain ⟨front, back, atStart, atEnd, whole⟩ := exists_trim text
    rw [none, List.nil_append] at whole
    rw [whole]
    exact areBlank_append_iff.mpr ⟨atStart, atEnd⟩
  · intro areBlank
    have none : trimStart text = [] := trimStart_eq_nil_iff.mpr areBlank
    rw [trim, none]
    rfl

theorem mem_of_mem_trim (member : c ∈ trim text) : c ∈ text := by
  obtain ⟨front, back, -, -, whole⟩ := exists_trim text
  rw [whole]
  exact List.mem_append_right front (List.mem_append_left back member)

/-! ## Words -/

theorem HasWords.cons_blank (has : HasWords found text) (blank : isBlank c = true) :
    HasWords found (c :: text) := by
  cases has with
  | none areBlank => exact .none (List.forall_mem_cons.mpr ⟨blank, areBlank⟩)
  | word front areBlank isWord ends has =>
      exact .word (c :: front) (List.forall_mem_cons.mpr ⟨blank, areBlank⟩) isWord ends has

theorem wordsAfter_cons (word rest : Text) (visible : isBlank c = false) :
    wordsAfter word (c :: rest) = wordsAfter (word ++ [c]) rest := by
  cases word <;> simp [wordsAfter, visible]

theorem wordsAfter_cons_blank (isWord : IsWord word) (rest : Text) (blank : isBlank c = true) :
    wordsAfter word (c :: rest) = word :: wordsAfter [] rest := by
  obtain ⟨d, more, rfl⟩ := List.exists_cons_of_ne_nil isWord.1
  simp [wordsAfter, blank]

theorem words_cons_blank (rest : Text) (blank : isBlank c = true) :
    words (c :: rest) = words rest := by
  simp [words, wordsAfter, blank]

theorem IsWord.concat (isWord : IsWord word) (visible : isBlank c = false) :
    IsWord (word ++ [c]) :=
  ⟨by simp, List.forall_mem_append.mpr ⟨isWord.2, by simp [visible]⟩⟩

theorem isWord_singleton (visible : isBlank c = false) : IsWord [c] :=
  ⟨by simp, by simp [visible]⟩

/-- One induction for both places at which a text can be read: between two words and in a word. -/
private theorem hasWords_wordsAfter (text : Text) : HasWords (words text) text ∧
    ∀ word, IsWord word → HasWords (wordsAfter word text) (word ++ text) := by
  have noBlanks : AreBlank [] := List.forall_mem_nil _
  induction text with
  | nil =>
      refine ⟨.none noBlanks, ?_⟩
      intro word isWord
      obtain ⟨c, rest, rfl⟩ := List.exists_cons_of_ne_nil isWord.1
      exact .word [] noBlanks isWord (by simp) (.none noBlanks)
  | cons c rest ih =>
      obtain ⟨outside, inside⟩ := ih
      cases blank : isBlank c with
      | true =>
          have behind : HasWords (words rest) (c :: rest) := outside.cons_blank blank
          constructor
          · rw [words_cons_blank rest blank]
            exact behind
          · intro word isWord
            rw [wordsAfter_cons_blank isWord rest blank]
            exact .word [] noBlanks isWord (by simp [blank]) behind
      | false =>
          constructor
          · rw [words, wordsAfter_cons [] rest blank]
            exact inside [c] (isWord_singleton blank)
          · intro word isWord
            have longer := inside (word ++ [c]) (isWord.concat blank)
            rw [wordsAfter_cons word rest blank]
            rwa [List.append_assoc] at longer

theorem hasWords_words (text : Text) : HasWords (words text) text := (hasWords_wordsAfter text).1

theorem words_append_of_areBlank {front : Text} (areBlank : AreBlank front) (rest : Text) :
    words (front ++ rest) = words rest := by
  induction front with
  | nil => rfl
  | cons c more ih =>
      obtain ⟨blank, areBlank⟩ := List.forall_mem_cons.mp areBlank
      rw [List.cons_append, words_cons_blank _ blank, ih areBlank]

theorem wordsAfter_append {more : Text} (visible : ∀ c ∈ more, isBlank c = false)
    (word rest : Text) : wordsAfter word (more ++ rest) = wordsAfter (word ++ more) rest := by
  induction more generalizing word with
  | nil => rw [List.nil_append, List.append_nil]
  | cons c others ih =>
      obtain ⟨here, others⟩ := List.forall_mem_cons.mp visible
      rw [List.cons_append, wordsAfter_cons word _ here, ih others, List.append_assoc]
      rfl

theorem HasWords.words_eq (has : HasWords found text) : words text = found := by
  induction has with
  | none areBlank =>
      have none := words_append_of_areBlank areBlank []
      rwa [List.append_nil] at none
  | @word front word rest found areBlank isWord ends has ih =>
      rw [words_append_of_areBlank areBlank, words, wordsAfter_append isWord.2, List.nil_append]
      cases rest with
      | nil =>
          obtain ⟨c, more, rfl⟩ := List.exists_cons_of_ne_nil isWord.1
          exact congrArg _ ih
      | cons c rest =>
          have blank : isBlank c = true := ends c rfl
          rw [words_cons_blank rest blank] at ih
          rw [wordsAfter_cons_blank isWord rest blank]
          exact congrArg _ ih

theorem HasWords.isWord_of_mem (has : HasWords found text) : ∀ word ∈ found, IsWord word := by
  induction has with
  | none => exact List.forall_mem_nil _
  | word _ _ isWord _ _ ih => exact List.forall_mem_cons.mpr ⟨isWord, ih⟩

/-- Words with single spaces between them, and blanks around the whole. -/
theorem hasWords_join {front back : Text} (areWords : ∀ word ∈ found, IsWord word)
    (areFront : AreBlank front) (areBack : AreBlank back) :
    HasWords found (front ++ (join [' '] found ++ back)) := by
  have space : AreBlank [' '] := by simp [AreBlank, isBlank]
  induction found generalizing front with
  | nil => exact .none (areBlank_append_iff.mpr ⟨areFront, areBack⟩)
  | cons word more ih =>
      obtain ⟨isWord, others⟩ := List.forall_mem_cons.mp areWords
      cases more with
      | nil =>
          refine .word front areFront isWord ?_ (.none areBack)
          exact fun c first => areBack c (List.mem_of_mem_head? first)
      | cons next more =>
          have behind : HasWords (next :: more) (' ' :: (join [' '] (next :: more) ++ back)) :=
            ih others space
          rw [join_cons_cons, List.append_assoc, List.append_assoc]
          exact .word front areFront isWord (by simp [isBlank]) behind

/-! ## Collapsing -/

/-- Words with single spaces between them. -/
def IsSpaced (text : Text) : Prop :=
  ∃ words : List Text, (∀ word ∈ words, IsWord word) ∧ text = join [' '] words

theorem isSpaced_collapse (text : Text) : IsSpaced (collapse text) :=
  ⟨words text, (hasWords_words text).isWord_of_mem, rfl⟩

theorem IsSpaced.collapse_eq {front back : Text} (spaced : IsSpaced text)
    (areFront : AreBlank front) (areBack : AreBlank back) :
    collapse (front ++ (text ++ back)) = text := by
  obtain ⟨words, areWords, rfl⟩ := spaced
  rw [collapse, (hasWords_join areWords areFront areBack).words_eq]

theorem IsSpaced.eq_space (spaced : IsSpaced text) (member : c ∈ text) (blank : isBlank c = true) :
    c = ' ' := by
  obtain ⟨words, areWords, rfl⟩ := spaced
  cases exists_of_mem_join member with
  | inl separates => exact List.mem_singleton.mp separates
  | inr inside =>
      obtain ⟨word, isWord, inside⟩ := inside
      rw [(areWords word isWord).2 c inside] at blank
      cases blank

/-- A text with one space in place of each run of blanks; `behind` tells whether a blank stands in
front, whose run the next one goes on. -/
def spacedFrom : Bool → Text → Text
  | _, [] => []
  | behind, c :: rest =>
    if isBlank c then if behind then spacedFrom true rest else ' ' :: spacedFrom true rest
    else c :: spacedFrom false rest

def singleSpaced (text : Text) : Text := spacedFrom false text

theorem spacedFrom_append_cons (behind : Bool) (left rest : Text) (visible : isBlank c = false) :
    spacedFrom behind (left ++ c :: rest) = spacedFrom behind left ++ c :: singleSpaced rest := by
  induction left generalizing behind with
  | nil => simp [spacedFrom, visible, singleSpaced]
  | cons d more ih =>
      cases blank : isBlank d with
      | true => cases behind <;> simp [spacedFrom, blank, ih]
      | false => simp [spacedFrom, blank, ih]

theorem singleSpaced_append_cons (left rest : Text) (visible : isBlank c = false) :
    singleSpaced (left ++ c :: rest) = singleSpaced left ++ c :: singleSpaced rest :=
  spacedFrom_append_cons false left rest visible

theorem areBlank_spacedFrom (areBlank : AreBlank text) (behind : Bool) :
    AreBlank (spacedFrom behind text) := by
  induction text generalizing behind with
  | nil => exact List.forall_mem_nil _
  | cons c rest ih =>
      obtain ⟨blank, areBlank⟩ := List.forall_mem_cons.mp areBlank
      have space : isBlank ' ' = true := by decide
      cases behind with
      | true => simpa [spacedFrom, blank] using ih areBlank true
      | false => simpa [spacedFrom, blank, AreBlank, space] using ih areBlank true

theorem areBlank_singleSpaced (areBlank : AreBlank text) : AreBlank (singleSpaced text) :=
  areBlank_spacedFrom areBlank false

theorem mem_of_mem_spacedFrom {behind : Bool} (member : c ∈ spacedFrom behind text) :
    c = ' ' ∨ c ∈ text := by
  induction text generalizing behind with
  | nil => cases member
  | cons d rest ih =>
      have longer : c = ' ' ∨ c ∈ rest → c = ' ' ∨ c ∈ d :: rest :=
        Or.imp_right (List.mem_cons_of_mem d)
      cases blank : isBlank d with
      | false =>
          simp only [spacedFrom, blank, Bool.false_eq_true, if_false, List.mem_cons] at member
          cases member with
          | inl same => exact .inr (same ▸ List.mem_cons_self)
          | inr member => exact longer (ih member)
      | true =>
          cases behind with
          | true =>
              simp only [spacedFrom, blank, if_true] at member
              exact longer (ih member)
          | false =>
              simp only [spacedFrom, blank, Bool.false_eq_true, if_true, if_false,
                List.mem_cons] at member
              cases member with
              | inl same => exact .inl same
              | inr member => exact longer (ih member)

variable {separator : Char}

theorem singleSpaced_join (visible : isBlank separator = false) (pieces : List Text) :
    singleSpaced (join [separator] pieces) = join [separator] (pieces.map singleSpaced) := by
  induction pieces with
  | nil => rfl
  | cons piece rest ih =>
      cases rest with
      | nil => rfl
      | cons next more =>
          have between : join [separator] (piece :: next :: more) =
              piece ++ separator :: join [separator] (next :: more) := by simp
          rw [between, singleSpaced_append_cons piece _ visible, ih]
          simp

/-- Blanks are collapsed in each piece on its own. -/
theorem splitOn_singleSpaced (visible : isBlank separator = false) (text : Text) :
    splitOn separator (singleSpaced text) = (splitOn separator text).map singleSpaced := by
  have some : (splitOn separator text).map singleSpaced ≠ [] := by
    simp [splitOn_ne_nil separator text]
  have clean : ∀ piece ∈ (splitOn separator text).map singleSpaced, separator ∉ piece := by
    intro piece member inside
    obtain ⟨original, isPiece, rfl⟩ := List.mem_map.mp member
    cases mem_of_mem_spacedFrom inside with
    | inl space => exact absurd visible (by simp [space, isBlank])
    | inr inside => exact not_mem_of_mem_splitOn isPiece inside
  calc splitOn separator (singleSpaced text)
      = splitOn separator (singleSpaced (join [separator] (splitOn separator text))) := by
        rw [join_splitOn]
    _ = splitOn separator (join [separator] ((splitOn separator text).map singleSpaced)) := by
        rw [singleSpaced_join visible]
    _ = (splitOn separator text).map singleSpaced := splitOn_join some clean

theorem trimStart_spacedFrom (behind : Bool) (text : Text) :
    trimStart (spacedFrom behind text) = spacedFrom true text := by
  induction text generalizing behind with
  | nil => rfl
  | cons c rest ih =>
      have space : isBlank ' ' = true := by decide
      cases blank : isBlank c with
      | false => simp [spacedFrom, blank, trimStart]
      | true =>
          have behind' := ih true
          rw [trimStart] at behind'
          cases behind <;> simp [spacedFrom, blank, trimStart, space, behind']

theorem IsWord.trimEnd_eq (isWord : IsWord word) : trimEnd word = word := by
  obtain ⟨front, last, rfl⟩ := List.eq_nil_or_concat word |>.resolve_left isWord.1
  rw [List.concat_eq_append] at isWord ⊢
  exact trimEnd_concat front (isWord.2 last (by simp))

/-- The space behind a word stays just when more words follow. -/
theorem IsWord.join_cons_words (isWord : IsWord word)
    (behind : collapse rest = trimEnd (spacedFrom true rest)) :
    join [' '] (word :: words rest) = trimEnd (word ++ ' ' :: spacedFrom true rest) := by
  have areWords := (hasWords_words rest).isWord_of_mem
  rw [collapse] at behind
  cases found : words rest with
  | nil =>
      rw [found, join_nil] at behind
      have areBlank : AreBlank (' ' :: spacedFrom true rest) :=
        List.forall_mem_cons.mpr ⟨by decide, trimEnd_eq_nil_iff.mp behind.symm⟩
      rw [join_singleton, trimEnd_append_of_areBlank areBlank, isWord.trimEnd_eq]
  | cons next more =>
      rw [found] at behind areWords
      have visible : trimEnd (spacedFrom true rest) ≠ [] := by
        rw [← behind, join_cons_eq_flatMap]
        simp [(areWords next List.mem_cons_self).1]
      have apart : word ++ ' ' :: spacedFrom true rest = (word ++ [' ']) ++ spacedFrom true rest := by
        simp
      rw [join_cons_cons, behind, apart, trimEnd_append_of_visible visible]

/-- As above, one induction for both places. -/
private theorem join_wordsAfter (text : Text) :
    collapse text = trimEnd (spacedFrom true text) ∧ ∀ word, IsWord word →
      join [' '] (wordsAfter word text) = trimEnd (word ++ singleSpaced text) := by
  induction text with
  | nil =>
      refine ⟨rfl, ?_⟩
      intro word isWord
      obtain ⟨c, rest, rfl⟩ := List.exists_cons_of_ne_nil isWord.1
      rw [singleSpaced, spacedFrom, List.append_nil, isWord.trimEnd_eq]
      rfl
  | cons c rest ih =>
      obtain ⟨outside, inside⟩ := ih
      cases blank : isBlank c with
      | false =>
          have spaced : ∀ behind, spacedFrom behind (c :: rest) = c :: singleSpaced rest := by
            simp [spacedFrom, blank, singleSpaced]
          constructor
          · rw [collapse, words, wordsAfter_cons [] rest blank, spaced]
            exact inside [c] (isWord_singleton blank)
          · intro word isWord
            have longer := inside (word ++ [c]) (isWord.concat blank)
            rw [wordsAfter_cons word rest blank, singleSpaced, spaced, longer, List.append_assoc]
            rfl
      | true =>
          constructor
          · rw [collapse, words_cons_blank rest blank, ← collapse, outside, spacedFrom, if_pos blank,
              if_pos rfl]
          · intro word isWord
            have spaced : singleSpaced (c :: rest) = ' ' :: spacedFrom true rest := by
              simp [singleSpaced, spacedFrom, blank]
            rw [wordsAfter_cons_blank isWord rest blank, ← words, spaced]
            exact isWord.join_cons_words outside

theorem collapse_eq_trim (text : Text) : collapse text = trim (singleSpaced text) := by
  rw [trim, singleSpaced, trimStart_spacedFrom]
  exact (join_wordsAfter text).1

end Companion.Text
