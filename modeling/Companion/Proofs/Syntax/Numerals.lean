import Companion.Proofs.Syntax.Trivia
import Companion.Proofs.TypeExpr.Spelling
import Companion.Syntax.TypeReader

/-!
# Types that are numbers

A literal type holds a number, or a sign and a number with white space and comments between the two. What
is read as one from a text up to its end is the whole text, and every text of that shape is read so.
-/

set_option autoImplicit false

namespace Companion.Syntax

open Text

/-- A literal type of a number token, or of a sign and a number token behind the given pieces. -/
structure Node.HoldsNumber (node : Node) (sign : Text) (pieces : List Trivium) (digits : Text) :
    Prop where
  literal : node.kind = .literalType
  formed : ∀ piece ∈ pieces, piece.IsFormed
  number : IsNumber digits
  child : ∃ child, node.constituents.head? = some child ∧
    child.text = sign ++ (pieces.flatMap Trivium.text ++ digits) ∧
    (child.kind = .number ∧ sign = [] ∧ pieces = [] ∨
      child.kind = .unaryExpression ∧ sign ∈ [['+'], ['-']])

/-- A text is read, up to its end, as a type that is a number with a sign. -/
def IsReadAs (text sign digits : Text) : Prop :=
  ∃ node stop pieces, typeAt false ⟨text, 0, 1, []⟩ = some (node, stop) ∧ stop.rest = [] ∧
    node.HoldsNumber sign pieces digits

variable {c : Char} {text sign digits rest : Text} {start stop cursor : Cursor} {node left : Node}
  {result : Node × Cursor} {fuel : Nat} {openEnded : Bool} {kind : Kind}

/-! ## Behind a type -/

theorem skipTrivia_of_end (atEnd : cursor.rest = []) : cursor.skipTrivia = cursor :=
  Cursor.skipTrivia_token (by simp [StartsToken, atEnd])

theorem readBrackets_of_end (atEnd : cursor.rest = []) :
    readBrackets (fuel + 1) openEnded start node cursor = some (node, cursor) := by
  simp [readBrackets, skipTrivia_of_end atEnd, Cursor.peek, atEnd]

theorem readIntersectionTail_of_end (atEnd : cursor.rest = []) :
    readIntersectionTail (fuel + 1) openEnded start node cursor = some (node, cursor) := by
  simp [readIntersectionTail, skipTrivia_of_end atEnd, Cursor.peek, atEnd]

theorem readUnionTail_of_end (atEnd : cursor.rest = []) :
    readUnionTail (fuel + 1) openEnded start node cursor = some (node, cursor) := by
  simp [readUnionTail, skipTrivia_of_end atEnd, Cursor.peek, atEnd]

theorem ne_literalType_of_cases {children : List Node}
    (cases : result = (start.node stop kind children, cursor) ∨ result.1.kind ≠ .literalType)
    (other : kind ≠ .literalType) : result.1.kind ≠ .literalType := by
  cases cases with
  | inl same => exact same ▸ other
  | inr other => exact other

/-- What goes on behind a type makes it part of another one, which is no literal. -/
theorem readBrackets_cases (read : readBrackets fuel openEnded start node cursor = some result) :
    result = (node, cursor) ∨ result.1.kind ≠ .literalType := by
  induction fuel generalizing node cursor with
  | zero => cases read
  | succ fuel ih =>
      rw [readBrackets] at read
      dsimp only at read
      split at read
      · obtain ⟨behind, -, read⟩ := Option.bind_eq_some_iff.mp read
        exact .inr (ne_literalType_of_cases (ih read) nofun)
      · exact .inl (Option.some.inj read).symm

theorem readIntersectionTail_cases
    (read : readIntersectionTail fuel openEnded start node cursor = some result) :
    result = (node, cursor) ∨ result.1.kind ≠ .literalType := by
  induction fuel generalizing node cursor with
  | zero => cases read
  | succ fuel ih =>
      rw [readIntersectionTail] at read
      dsimp only at read
      split at read
      · obtain ⟨⟨right, behind⟩, -, read⟩ := Option.bind_eq_some_iff.mp read
        exact .inr (ne_literalType_of_cases (ih read) nofun)
      · exact .inl (Option.some.inj read).symm

theorem readUnionTail_cases (read : readUnionTail fuel openEnded start node cursor = some result) :
    result = (node, cursor) ∨ result.1.kind ≠ .literalType := by
  induction fuel generalizing node cursor with
  | zero => cases read
  | succ fuel ih =>
      rw [readUnionTail] at read
      dsimp only at read
      split at read
      · obtain ⟨⟨right, behind⟩, -, read⟩ := Option.bind_eq_some_iff.mp read
        exact .inr (ne_literalType_of_cases (ih read) nofun)
      · exact .inl (Option.some.inj read).symm

/-! ## Numbers -/

def startsNumber (c : Char) : Bool := isAsciiDigit c || c ∈ ['.', '+', '-']

/-- Characters that open a comment, a type that is no number, or what goes on behind a type. -/
def otherOpenings : List Char :=
  ['/', '|', '&', '(', '<', '\x7b', '[', '\x60', '?', '*', '\'', '"']

theorem not_mem_otherOpenings (starts : startsNumber c = true) : c ∉ otherOpenings := by
  have each : ∀ d ∈ otherOpenings, startsNumber d = false := by
    simp [otherOpenings, startsNumber, isAsciiDigit]
  intro opens
  rw [each c opens] at starts
  cases starts

theorem isSpace_of_startsNumber (starts : startsNumber c = true) : isSpace c = false := by
  simp only [startsNumber, isAsciiDigit, Bool.or_eq_true, Bool.and_eq_true, decide_eq_true_eq,
    List.mem_cons, List.not_mem_nil, or_false] at starts
  rcases starts with digit | rfl | rfl | rfl
  · simp only [isSpace, Bool.or_eq_false_iff, Bool.and_eq_false_iff, decide_eq_false_iff_not,
      beq_eq_false_iff_ne]
    omega
  all_goals decide

theorem startsToken_of_startsNumber (starts : startsNumber c = true) (rest : Text) :
    StartsToken (c :: rest) := by
  intro d first
  obtain rfl : c = d := Option.some.inj first
  refine ⟨isSpace_of_startsNumber starts, ?_⟩
  rintro rfl
  exact not_mem_otherOpenings starts (by decide)

theorem skipTrivia_of_startsNumber (starts : startsNumber c = true) (ahead : start.rest = c :: rest) :
    start.skipTrivia = start :=
  Cursor.skipTrivia_token (ahead ▸ startsToken_of_startsNumber starts rest)

theorem startsNumber_of_mem_signs (isSign : c ∈ ['+', '-']) : startsNumber c = true := by
  simp only [startsNumber, Bool.or_eq_true, decide_eq_true_eq]
  exact .inr (List.mem_cons_of_mem _ isSign)

theorem readOperand_sign (isSign : c ∈ ['+', '-']) (ahead : start.rest = c :: rest) :
    readOperand (fuel + 1) openEnded start =
      (numberLength start.advance.skipTrivia.rest).bind fun length =>
        readBrackets fuel openEnded start
          (literalTypeNode start (start.advance.skipTrivia.skip length) .unaryExpression)
          (start.advance.skipTrivia.skip length) := by
  rw [readOperand, skipTrivia_of_startsNumber (startsNumber_of_mem_signs isSign) ahead]
  simp only [List.mem_cons, List.not_mem_nil, or_false] at isSign
  cases isSign with
  | inl plus =>
      subst plus
      simp only [ahead]
      rfl
  | inr minus =>
      subst minus
      simp only [ahead]
      rfl

theorem readOperand_number {length : Nat} (starts : startsNumber c = true) (noSign : c ∉ ['+', '-'])
    (ahead : start.rest = c :: rest) (number : numberLength start.rest = some length) :
    readOperand (fuel + 1) openEnded start =
      readBrackets fuel openEnded start (literalTypeNode start (start.skip length) .number)
        (start.skip length) := by
  have other : ∀ {d more}, start.rest = d :: more → d ∉ otherOpenings := by
    intro d more same
    obtain ⟨rfl, -⟩ := List.cons_eq_cons.mp (ahead.symm.trans same)
    exact not_mem_otherOpenings starts
  rw [readOperand, skipTrivia_of_startsNumber starts ahead]
  dsimp only
  split
  · next none => cases none.symm.trans ahead
  iterate 8
    · next same => exact absurd (by decide) (other same)
  · next same =>
    obtain ⟨rfl, rfl⟩ := List.cons_eq_cons.mp (same.symm.trans ahead)
    have noQuote : _ ∉ otherOpenings := other same
    simp only [otherOpenings, List.mem_cons, List.not_mem_nil, or_false, not_or] at noQuote noSign
    simp [noQuote, noSign, number]

/-! ## Types that start with a number -/

theorem readIntersection_eq (starts : startsNumber c = true) (ahead : start.rest = c :: rest) :
    readIntersection (fuel + 1) openEnded start = (readOperand fuel openEnded start).bind fun read =>
      readIntersectionTail fuel openEnded start read.1 read.2 := by
  have noSign : start.peek ≠ some '&' := by
    intro opens
    obtain rfl : c = '&' := by simpa [Cursor.peek, ahead] using opens
    exact not_mem_otherOpenings starts (by decide)
  rw [readIntersection, skipTrivia_of_startsNumber starts ahead]
  simp only [noSign, if_false]
  rfl

theorem readUnion_eq (starts : startsNumber c = true) (ahead : start.rest = c :: rest) :
    readUnion (fuel + 1) openEnded start = (readIntersection fuel openEnded start).bind fun read =>
      readUnionTail fuel openEnded start read.1 read.2 := by
  have noBar : start.peek ≠ some '|' := by
    intro opens
    obtain rfl : c = '|' := by simpa [Cursor.peek, ahead] using opens
    exact not_mem_otherOpenings starts (by decide)
  rw [readUnion, skipTrivia_of_startsNumber starts ahead]
  simp only [noBar, if_false]
  rfl

theorem readUnion_of_readOperand (starts : startsNumber c = true) (ahead : start.rest = c :: rest)
    (operand : readOperand (fuel + 1) openEnded start = some (node, stop)) (atEnd : stop.rest = []) :
    readUnion (fuel + 1 + 1 + 1) openEnded start = some (node, stop) := by
  have intersection : readIntersection (fuel + 1 + 1) openEnded start = some (node, stop) := by
    rw [readIntersection_eq starts ahead, operand]
    exact readIntersectionTail_of_end atEnd
  rw [readUnion_eq starts ahead, intersection]
  exact readUnionTail_of_end atEnd

theorem readType_of_readUnion (starts : startsNumber c = true) (ahead : start.rest = c :: rest)
    (union : readUnion fuel openEnded start = some (node, stop)) (atEnd : stop.rest = []) :
    readType (fuel + 1) openEnded start = some (node, stop) := by
  have noWord : stop.word ≠ "extends".toList := by simp [Cursor.word, atEnd]
  have ends : (decide (stop.skipTrivia.word = "extends".toList) &&
      !(openEnded && stop.endsHere)) = false := by
    rw [skipTrivia_of_end atEnd, decide_eq_false noWord]
    rfl
  rw [readType, skipTrivia_of_startsNumber starts ahead, union]
  simp only [bind, Option.bind_some, ends]
  rfl

theorem eq_some_of_bind {first : Option (Node × Cursor)} {behind : Node → Cursor → Option (Node × Cursor)}
    (cases : ∀ {node cursor}, behind node cursor = some result →
      result = (node, cursor) ∨ result.1.kind ≠ .literalType)
    (read : (first.bind fun read => behind read.1 read.2) = some result)
    (literal : result.1.kind = .literalType) : first = some result := by
  obtain ⟨before, found, read⟩ := Option.bind_eq_some_iff.mp read
  cases cases read with
  | inl same => rw [found, same]
  | inr other => exact absurd literal other

theorem readUnion_of_readType (starts : startsNumber c = true) (ahead : start.rest = c :: rest)
    (read : readType (fuel + 1) openEnded start = some result) (literal : result.1.kind = .literalType) :
    readUnion fuel openEnded start = some result := by
  rw [readType, skipTrivia_of_startsNumber starts ahead] at read
  obtain ⟨⟨left, behind⟩, found, read⟩ := Option.bind_eq_some_iff.mp read
  dsimp only at read
  split at read
  · obtain ⟨_, -, read⟩ := Option.bind_eq_some_iff.mp read
    obtain ⟨_, -, read⟩ := Option.bind_eq_some_iff.mp read
    obtain ⟨_, -, read⟩ := Option.bind_eq_some_iff.mp read
    obtain ⟨_, -, read⟩ := Option.bind_eq_some_iff.mp read
    obtain ⟨_, -, read⟩ := Option.bind_eq_some_iff.mp read
    cases Option.some.inj read
    cases literal
  · rw [found]
    exact read

/-- A literal type is read in one go: what is read behind its operand would make it another type. -/
theorem readOperand_of_readType (starts : startsNumber c = true) (ahead : start.rest = c :: rest)
    (read : readType (fuel + 1 + 1 + 1) openEnded start = some result)
    (literal : result.1.kind = .literalType) : readOperand fuel openEnded start = some result := by
  have union := readUnion_of_readType starts ahead read literal
  rw [readUnion_eq starts ahead] at union
  have intersection := eq_some_of_bind readUnionTail_cases union literal
  rw [readIntersection_eq starts ahead] at intersection
  exact eq_some_of_bind readIntersectionTail_cases intersection literal

/-! ## Reading a number and nothing else -/

theorem head?_constituents_literalTypeNode (kind : Kind) (isKind : kind ≠ .comment) :
    (literalTypeNode start stop kind).constituents.head? = some (start.node stop kind) := by
  have isConstituent : (start.node stop kind).isConstituent = true := by
    simp [Node.isConstituent, Cursor.node, isKind]
  rw [literalTypeNode, Node.constituents, Cursor.node, List.filter_cons_of_pos isConstituent]
  rfl

theorem startsNumber_of_isNumber (number : IsNumber digits) :
    ∃ c rest, digits = c :: rest ∧ startsNumber c = true ∧ c ∉ ['+', '-'] := by
  obtain ⟨c, rest, same, first⟩ := number.exists_cons
  refine ⟨c, rest, same, ?_, ?_⟩
  · simp only [startsNumber, Bool.or_eq_true, decide_eq_true_eq, List.mem_cons]
    exact first.imp_right Or.inl
  · intro isSign
    have noDigit : ∀ d ∈ ['+', '-'], isAsciiDigit d = false ∧ d ≠ '.' := by simp [isAsciiDigit]
    obtain ⟨noDigit, noPoint⟩ := noDigit c isSign
    cases first with
    | inl digit => exact absurd digit (by simp [noDigit])
    | inr point => exact noPoint point

theorem typeAt_of_readOperand (starts : startsNumber c = true) (ahead : start.rest = c :: rest)
    (operand : readOperand (8 * start.rest.length + 3 + 1 + 1) openEnded start = some (node, stop))
    (atEnd : stop.rest = []) : typeAt openEnded start = some (node, stop) :=
  readType_of_readUnion starts ahead (readUnion_of_readOperand starts ahead operand atEnd) atEnd

theorem isReadAs_unsigned (number : IsNumber digits) : IsReadAs digits [] digits := by
  obtain ⟨c, rest, same, starts, noSign⟩ := startsNumber_of_isNumber number
  generalize begins : (⟨digits, 0, 1, []⟩ : Cursor) = start
  have whole : start.rest = digits := begins ▸ rfl
  have ahead : start.rest = c :: rest := whole.trans same
  have passes := Cursor.passes_skip start digits.length
  rw [whole, List.take_length] at passes
  have atEnd : (start.skip digits.length).rest = [] := passes.rest_eq (by simp [whole])
  have length : numberLength start.rest = some digits.length := by
    rw [whole]
    exact number
  have operand : readOperand (8 * start.rest.length + 3 + 1 + 1) false start =
      some (literalTypeNode start (start.skip digits.length) .number, start.skip digits.length) := by
    rw [readOperand_number starts noSign ahead length]
    exact readBrackets_of_end atEnd
  have read := typeAt_of_readOperand starts ahead operand atEnd
  rw [IsReadAs, begins]
  exact ⟨_, _, [], read, atEnd, rfl, List.forall_mem_nil _, number, _,
    head?_constituents_literalTypeNode _ nofun, passes.textTo, .inl ⟨rfl, rfl, rfl⟩⟩

theorem isReadAs_signed (isSign : c ∈ ['+', '-']) (number : IsNumber digits) {gap : Text}
    (trivia : IsTrivia gap) : IsReadAs (c :: (gap ++ digits)) [c] digits := by
  generalize begins : (⟨c :: (gap ++ digits), 0, 1, []⟩ : Cursor) = start
  have ahead : start.rest = c :: (gap ++ digits) := begins ▸ rfl
  have first := Cursor.passes_advance ahead
  have starts : StartsToken digits := by
    obtain ⟨d, more, rfl, startsDigits, -⟩ := startsNumber_of_isNumber number
    exact startsToken_of_startsNumber startsDigits more
  have second := Cursor.passes_skipTrivia trivia starts (first.rest_eq ahead)
  have behind : start.advance.skipTrivia.rest = digits := second.rest_eq (first.rest_eq ahead)
  have third := Cursor.passes_skip start.advance.skipTrivia digits.length
  rw [behind, List.take_length] at third
  have atEnd : (start.advance.skipTrivia.skip digits.length).rest = [] := third.rest_eq (by simp [behind])
  have passes := (first.trans second).trans third
  have operand : readOperand (8 * start.rest.length + 3 + 1 + 1) false start =
      some (literalTypeNode start (start.advance.skipTrivia.skip digits.length) .unaryExpression,
        start.advance.skipTrivia.skip digits.length) := by
    rw [readOperand_sign isSign ahead, behind, number, Option.bind_some]
    exact readBrackets_of_end atEnd
  obtain ⟨pieces, formed, rfl⟩ := trivia
  rw [IsReadAs, begins]
  have read := typeAt_of_readOperand (startsNumber_of_mem_signs isSign) ahead operand atEnd
  exact ⟨_, _, pieces, read, atEnd, rfl, formed, number, _, head?_constituents_literalTypeNode _ nofun,
    passes.textTo, .inr ⟨rfl, by simpa using isSign⟩⟩

/-- A literal that is read up to the end of a text is that text. -/
theorem exists_pieces_of_isReadAs (isSign : c ∈ ['+', '-']) (reads : IsReadAs (c :: rest) [c] digits) :
    ∃ pieces : List Trivium, (∀ piece ∈ pieces, piece.IsFormed) ∧
      rest = pieces.flatMap Trivium.text ++ digits := by
  obtain ⟨node, stop, pieces, read, atEnd, holds⟩ := reads
  generalize begins : (⟨c :: rest, 0, 1, []⟩ : Cursor) = start at read
  have ahead : start.rest = c :: rest := begins ▸ rfl
  have operand : readOperand (8 * start.rest.length + 4 + 1) false start = some (node, stop) :=
    readOperand_of_readType (startsNumber_of_mem_signs isSign) ahead read holds.literal
  rw [readOperand_sign isSign ahead] at operand
  obtain ⟨length, -, brackets⟩ := Option.bind_eq_some_iff.mp operand
  cases readBrackets_cases brackets with
  | inr other => exact absurd holds.literal other
  | inl same =>
      obtain ⟨isNode, isStop⟩ := Prod.mk.inj same
      rw [← isStop] at isNode
      subst isNode
      obtain ⟨child, isChild, text, -⟩ := holds.child
      rw [head?_constituents_literalTypeNode .unaryExpression nofun] at isChild
      obtain rfl := Option.some.inj isChild
      have passes : ∃ passed, start.Passes passed stop := by
        obtain ⟨gap, behind⟩ := Cursor.exists_passes_skipTrivia start.advance
        have last := Cursor.passes_skip start.advance.skipTrivia length
        rw [← isStop] at last
        exact ⟨_, ((Cursor.passes_advance ahead).trans behind).trans last⟩
      obtain ⟨passed, passes⟩ := passes
      have whole : start.rest = [c] ++ (pieces.flatMap Trivium.text ++ digits) :=
        (passes.textTo_end atEnd).symm.trans text
      exact ⟨pieces, holds.formed, List.tail_eq_of_cons_eq (ahead.symm.trans whole)⟩

theorem isReadAs_signed_iff (isSign : c ∈ ['+', '-']) (number : IsNumber digits) (gap : Text) :
    IsReadAs (c :: (gap ++ digits)) [c] digits ↔ IsTrivia gap := by
  constructor
  · intro reads
    obtain ⟨pieces, formed, same⟩ := exists_pieces_of_isReadAs isSign reads
    exact ⟨pieces, formed, List.append_cancel_right same⟩
  · exact isReadAs_signed isSign number

end Companion.Syntax
