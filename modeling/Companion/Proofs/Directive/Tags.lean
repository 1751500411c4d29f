import Companion.Proofs.Directive
import Companion.Proofs.Text.Words

/-!
# Tags of comment bodies

Where tags stand in a text, said without reading it, and how a body is read line by line: a line end
opens a new place for a tag, so a line and what comes behind it are read one after the other, and what
stands in front of the first tag behind the line belongs to the last tag on it.
-/

set_option autoImplicit false

namespace Companion.DocComment

open Text

def IsTagName (name : Text) : Prop :=
  ∃ letter rest, name = letter :: rest ∧ isAsciiLetter letter = true ∧
    ∀ c ∈ rest, isTagPart c = true

/-- A tag of a name, and of no longer one, stands in a text behind a blank, or at the start if that is a
place for tags. -/
def HoldsTagFrom (opens : Bool) (name text : Text) : Prop :=
  ∃ front back : Text, text = front ++ '@' :: (name ++ back) ∧ IsTagName name ∧
    (front = [] → opens = true) ∧ (∀ c ∈ front.getLast?, isBlank c = true) ∧
    ∀ c ∈ back.head?, isTagPart c = false

/-- A tag of a name stands in a line. -/
def HoldsTag (name text : Text) : Prop := HoldsTagFrom true name text

/-- Some tag stands in front of all else but blanks. -/
def StartsWithTag (text : Text) : Prop :=
  ∃ front letter back, AreBlank front ∧ isAsciiLetter letter = true ∧
    text = front ++ '@' :: letter :: back

variable {c : Char} {name text : Text} {tag : Tag}

/-! ## Characters of names -/

theorem isTagPart_of_isAsciiLetter (letter : isAsciiLetter c = true) : isTagPart c = true := by
  have small : c.toNat < 0x80 := by
    simp only [isAsciiLetter, Bool.or_eq_true, Bool.and_eq_true, decide_eq_true_eq] at letter
    omega
  simp [isTagPart, isWordChar, small, letter]

/-- The blanks, one by one. -/
def blankCodes : List Nat :=
  [0x9, 0xA, 0xB, 0xC, 0xD, 0x1C, 0x1D, 0x1E, 0x1F, 0x20, 0x85, 0xA0, 0x1680, 0x2000, 0x2001, 0x2002,
    0x2003, 0x2004, 0x2005, 0x2006, 0x2007, 0x2008, 0x2009, 0x200A, 0x2028, 0x2029, 0x202F, 0x205F,
    0x3000]

theorem isTagPart_of_isBlank (blank : isBlank c = true) : isTagPart c = false := by
  have code : c.toNat ∈ blankCodes := by
    simp only [isBlank, Bool.or_eq_true, Bool.and_eq_true, decide_eq_true_eq, beq_iff_eq] at blank
    simp only [blankCodes, List.mem_cons, List.not_mem_nil, or_false]
    omega
  have each : ∀ code ∈ blankCodes, isTagPart (Char.ofNat code) = false := by decide +kernel
  rw [← Char.ofNat_toNat c]
  exact each c.toNat code

theorem IsTagName.forall_isTagPart (isName : IsTagName name) : ∀ c ∈ name, isTagPart c = true := by
  obtain ⟨letter, rest, rfl, isLetter, parts⟩ := isName
  exact List.forall_mem_cons.mpr ⟨isTagPart_of_isAsciiLetter isLetter, parts⟩

theorem IsTagName.not_mem (isName : IsTagName name) (foreign : isTagPart c = false) : c ∉ name := by
  intro member
  rw [isName.forall_isTagPart c member] at foreign
  cases foreign

/-! ## Where tags stand -/

/-- Blanks around a text hide no tag and make none longer. -/
theorem HoldsTag.of_trim (holds : HoldsTag name (trim text)) : HoldsTag name text := by
  obtain ⟨before, behind, areBefore, areBehind, whole⟩ := exists_trim text
  obtain ⟨front, back, trimmed, isName, -, last, ends⟩ := holds
  refine ⟨before ++ front, back ++ behind, ?_, isName, fun _ => rfl, ?_, ?_⟩
  · rw [whole, trimmed]
    simp only [List.append_assoc, List.cons_append]
  · intro c isLast
    cases front with
    | nil =>
        rw [List.append_nil] at isLast
        exact areBefore c (List.mem_of_getLast? isLast)
    | cons d more =>
        rw [List.getLast?_append_cons] at isLast
        exact last c isLast
  · intro c first
    cases back with
    | nil => exact isTagPart_of_isBlank (areBehind c (List.mem_of_mem_head? first))
    | cons d more => exact ends c first

theorem HoldsTagFrom.cons {opens : Bool} (holds : HoldsTagFrom (isBlank c) name text) :
    HoldsTagFrom opens name (c :: text) := by
  obtain ⟨front, back, whole, isName, starts, last, ends⟩ := holds
  refine ⟨c :: front, back, congrArg (c :: ·) whole, isName, nofun, ?_, ends⟩
  cases front with
  | nil => simpa using starts rfl
  | cons d more => simpa using last

theorem readTags_cons (opens : Bool) (above : Nat) (c : Char) (rest : Text) :
    readTags opens above (c :: rest) =
      let behind := readTags (isBlank c) (if c = '\n' then above + 1 else above) rest
      if opens && c = '@' && rest.head?.any isAsciiLetter then
        ([], ⟨behind.1.takeWhile isTagPart, above, behind.1.dropWhile isTagPart⟩ :: behind.2)
      else (c :: behind.1, behind.2) := rfl

theorem readTags_cons_of_ne (opens : Bool) (above : Nat) (other : c ≠ '@') (rest : Text) :
    readTags opens above (c :: rest) =
      let behind := readTags (isBlank c) (if c = '\n' then above + 1 else above) rest
      (c :: behind.1, behind.2) := by
  simp [readTags_cons, other]

theorem isTagName_of_opens (opens : Bool) (above : Nat) (letter : text.head?.any isAsciiLetter = true) :
    IsTagName ((readTags opens above text).1.takeWhile isTagPart) := by
  cases text with
  | nil => cases letter
  | cons c rest =>
      have isLetter : isAsciiLetter c = true := letter
      have other : c ≠ '@' := by
        rintro rfl
        exact absurd isLetter (by decide)
      simp only [readTags_cons_of_ne opens above other,
        List.takeWhile_cons_of_pos (isTagPart_of_isAsciiLetter isLetter)]
      exact ⟨c, _, rfl, isLetter, List.all_eq_true.mp List.all_takeWhile⟩

theorem ends_dropWhile (payload : Text) (tags : List Tag) :
    ∀ c ∈ (payload.dropWhile isTagPart ++ tags.flatMap Tag.source).head?, isTagPart c = false := by
  intro c first
  cases behind : payload.dropWhile isTagPart with
  | cons d rest =>
      have stops := List.head?_dropWhile_not isTagPart payload
      obtain rfl : d = c := by simpa [behind] using first
      simpa [behind] using stops
  | nil =>
      rw [behind] at first
      cases tags with
      | nil => cases first
      | cons tag more =>
          obtain rfl : '@' = c := by simpa [Tag.source] using first
          decide

/-- What is read as a tag stands in the text as one. -/
theorem holdsTagFrom_of_mem_readTags {opens : Bool} {above : Nat}
    (member : tag ∈ (readTags opens above text).2) : HoldsTagFrom opens tag.name text := by
  induction text generalizing opens above with
  | nil => cases member
  | cons c rest ih =>
      generalize below : (if c = '\n' then above + 1 else above) = next
      have source := readTags_source (isBlank c) next rest
      have isName : rest.head?.any isAsciiLetter = true → _ := isTagName_of_opens (isBlank c) next
      have deeper : tag ∈ (readTags (isBlank c) next rest).2 → HoldsTagFrom opens tag.name (c :: rest) :=
        fun inside => (ih inside).cons
      rw [readTags_cons, below] at member
      generalize readTags (isBlank c) next rest = behind at member source isName deeper
      obtain ⟨payload, tags⟩ := behind
      dsimp only at member
      split at member
      · next found =>
        obtain ⟨⟨starts, rfl⟩, letter⟩ :
            (opens = true ∧ c = '@') ∧ rest.head?.any isAsciiLetter = true := by
          simpa [Bool.and_eq_true] using found
        cases member with
        | tail _ inside => exact deeper inside
        | head =>
            refine ⟨[], payload.dropWhile isTagPart ++ tags.flatMap Tag.source, ?_, isName letter,
              fun _ => starts, by simp, ends_dropWhile payload tags⟩
            rw [List.nil_append, ← List.append_assoc, List.takeWhile_append_dropWhile]
            exact congrArg ('@' :: ·) source.symm
      · exact deeper member

theorem readTags_append_of_not_mem (opens : Bool) (above : Nat) {front : Text} (absent : '@' ∉ front)
    (rest : Text) : ∃ opens' above', readTags opens above (front ++ rest) =
      (front ++ (readTags opens' above' rest).1, (readTags opens' above' rest).2) := by
  induction front generalizing opens above with
  | nil => exact ⟨opens, above, rfl⟩
  | cons c more ih =>
      rw [List.mem_cons, not_or] at absent
      obtain ⟨other, absent⟩ := absent
      obtain ⟨opens', above', read⟩ := ih (isBlank c) (if c = '\n' then above + 1 else above) absent
      refine ⟨opens', above', ?_⟩
      rw [List.cons_append, readTags_cons_of_ne opens above (Ne.symm other), read]
      rfl

theorem head?_fst_readTags (opens : Bool) (above : Nat) (ends : ∀ c ∈ text.head?, isTagPart c = false) :
    ∀ c ∈ (readTags opens above text).1.head?, isTagPart c = false := by
  cases text with
  | nil => exact ends
  | cons d rest =>
      rw [readTags_cons]
      dsimp only
      split
      · intro c first
        cases first
      · exact ends

theorem takeWhile_append_of_ends {passes : Char → Bool} {front back : Text}
    (parts : ∀ c ∈ front, passes c = true) (ends : ∀ c ∈ back.head?, passes c = false) :
    (front ++ back).takeWhile passes = front ∧ (front ++ back).dropWhile passes = back := by
  rw [List.takeWhile_append_of_pos parts, List.dropWhile_append_of_pos parts]
  cases back with
  | nil => simp
  | cons c rest => simp [ends c rfl]

theorem exists_mem_readTags {opens : Bool} (holds : HoldsTagFrom opens name text) (above : Nat) :
    ∃ tag ∈ (readTags opens above text).2, tag.name = name := by
  induction text generalizing opens above with
  | nil =>
      obtain ⟨front, back, whole, -⟩ := holds
      cases front <;> cases whole
  | cons c rest ih =>
      obtain ⟨front, back, whole, isName, starts, last, ends⟩ := holds
      cases front with
      | nil =>
          obtain ⟨rfl, rfl⟩ := List.cons_eq_cons.mp whole
          have letter : (name ++ back).head?.any isAsciiLetter = true := by
            obtain ⟨letter, more, rfl, isLetter, -⟩ := isName
            exact isLetter
          obtain ⟨opens', above', read⟩ :=
            readTags_append_of_not_mem (isBlank '@') above (isName.not_mem (c := '@') (by decide)) back
          obtain ⟨named, -⟩ := takeWhile_append_of_ends isName.forall_isTagPart
            (head?_fst_readTags opens' above' ends)
          have above_eq : (if '@' = '\n' then above + 1 else above) = above := rfl
          rw [readTags_cons, above_eq, read, letter, starts rfl]
          exact ⟨_, List.mem_cons_self, named⟩
      | cons d more =>
          obtain ⟨rfl, behind⟩ := List.cons_eq_cons.mp whole
          have deeper : HoldsTagFrom (isBlank c) name rest := by
            refine ⟨more, back, behind, isName, ?_, ?_, ends⟩
            · rintro rfl
              exact last c rfl
            · intro e isLast
              cases more with
              | nil => cases isLast
              | cons e' others => exact last e (by simpa using isLast)
          obtain ⟨tag, member, named⟩ := ih deeper (if c = '\n' then above + 1 else above)
          refine ⟨tag, ?_, named⟩
          rw [readTags_cons]
          dsimp only
          split
          · exact List.mem_cons_of_mem _ member
          · exact member

theorem holdsTag_iff : HoldsTag name text ↔ ∃ tag ∈ tags text, tag.name = name := by
  constructor
  · exact fun holds => exists_mem_readTags holds 0
  · intro found
    obtain ⟨tag, member, rfl⟩ := found
    exact holdsTagFrom_of_mem_readTags member

instance (name text : Text) : Decidable (HoldsTag name text) := decidable_of_iff _ holdsTag_iff.symm

/-! ## Line by line -/

/-- Tags with a text put behind the last one. -/
def putBehind (text : Text) : List Tag → List Tag
  | [] => []
  | [tag] => [{ tag with payload := tag.payload ++ text }]
  | tag :: next :: rest => tag :: putBehind text (next :: rest)

/-- What is read of a text, and what is read of the text behind it. -/
def joined : Text × List Tag → Text × List Tag → Text × List Tag
  | (text, []), (behind, tags) => (text ++ behind, tags)
  | (text, tag :: rest), (behind, tags) => (text, putBehind behind (tag :: rest) ++ tags)

theorem filter_putBehind (behind : Text) {tags : List Tag} (others : ∀ tag ∈ tags, tag.name ≠ name) :
    (putBehind behind tags).filter (·.name = name) = [] := by
  induction tags with
  | nil => rfl
  | cons tag rest ih =>
      obtain ⟨other, others⟩ := List.forall_mem_cons.mp others
      cases rest with
      | nil => simp [putBehind, other]
      | cons next more => simp [putBehind, other, ih others]

theorem takeWhile_append_cons {passes : Char → Bool} (stops : passes c = false) (text rest : Text) :
    (text ++ c :: rest).takeWhile passes = text.takeWhile passes ∧
      (text ++ c :: rest).dropWhile passes = text.dropWhile passes ++ c :: rest := by
  induction text with
  | nil => simp [stops]
  | cons d more ih =>
      obtain ⟨taken, dropped⟩ := ih
      cases here : passes d with
      | true => simp [here, taken, dropped]
      | false => simp [here]

/-- A line end ends the name of the last tag on its line, as the end of the text does. -/
theorem readTags_append_line (opens : Bool) (above : Nat) {line : Text} (inLine : '\n' ∉ line)
    (rest : Text) :
    readTags opens above (line ++ '\n' :: rest) = joined (readTags opens above line)
      ('\n' :: (readTags true (above + 1) rest).1, (readTags true (above + 1) rest).2) := by
  induction line generalizing opens with
  | nil =>
      have blank : isBlank '\n' = true := by decide
      simp [readTags, joined, blank]
  | cons c more ih =>
      rw [List.mem_cons, not_or] at inLine
      obtain ⟨sameLine, inLine⟩ := inLine
      have letter : (more ++ '\n' :: rest).head?.any isAsciiLetter = more.head?.any isAsciiLetter := by
        cases more with
        | nil => exact (by decide : isAsciiLetter '\n' = false)
        | cons d others => rfl
      have noPart : isTagPart '\n' = false := by decide
      rw [List.cons_append, readTags_cons, readTags_cons, if_neg (Ne.symm sameLine), letter,
        ih (isBlank c) inLine]
      generalize readTags (isBlank c) above more = front
      generalize readTags true (above + 1) rest = back
      obtain ⟨text, tags⟩ := front
      dsimp only
      cases tags with
      | nil =>
          split
          · obtain ⟨taken, dropped⟩ := takeWhile_append_cons noPart text back.1
            simp [joined, putBehind, taken, dropped]
          · simp [joined]
      | cons tag others =>
          split
          · simp [joined, putBehind]
          · simp [joined]

theorem readTags_of_not_mem (opens : Bool) (above : Nat) (absent : '@' ∉ text) :
    readTags opens above text = (text, []) := by
  induction text generalizing opens above with
  | nil => rfl
  | cons c rest ih =>
      rw [List.mem_cons, not_or] at absent
      obtain ⟨other, absent⟩ := absent
      simp [readTags, ih _ _ absent, Ne.symm other]

/-- A text that starts with a tag and holds no other at sign. -/
theorem readTags_tag (above : Nat) (isName : IsTagName name) (absent : '@' ∉ text)
    (ends : ∀ c ∈ text.head?, isTagPart c = false) :
    readTags true above ('@' :: (name ++ text)) = ([], [⟨name, above, text⟩]) := by
  have noSign : '@' ∉ name ++ text :=
    List.not_mem_append (isName.not_mem (by decide)) absent
  have letter : (name ++ text).head?.any isAsciiLetter = true := by
    obtain ⟨letter, rest, rfl, isLetter, -⟩ := isName
    exact isLetter
  have nameEnds := takeWhile_append_of_ends isName.forall_isTagPart ends
  rw [readTags_cons, readTags_of_not_mem _ _ noSign, letter]
  simp [nameEnds]

end Companion.DocComment
