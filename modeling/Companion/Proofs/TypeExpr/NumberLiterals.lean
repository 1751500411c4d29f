import Companion.Proofs.Syntax.Numerals
import Companion.Proofs.TypeExpr.Leaves
import Companion.Proofs.TypeExpr.Supported

/-!
# Numbers that are read again

A literal type of a number becomes a literal whose text is that of the type without blanks. Between the
sign and the digits there may be comments, which lose their blanks as well: the text is read again as the
same number just when what is left of them is still white space and comments. A line comment without its
line end is not.
-/

set_option autoImplicit false

namespace Companion.TypeExpr

open Syntax Text

variable {c : Char} {text sign digits : Text} {node child : Node} {pieces : List Trivium}

theorem isBlank_of_isNumberChar (number : isNumberChar c = true) : isBlank c = false := by
  have code : 0x2B ≤ c.toNat ∧ c.toNat ≤ 0x7A := by
    simp only [isNumberChar, isAsciiDigit, isAsciiLetter, Bool.or_eq_true, Bool.and_eq_true,
      decide_eq_true_eq, List.mem_cons, List.not_mem_nil, or_false] at number
    rcases number with (digit | letter) | rfl | rfl | rfl | rfl
    · omega
    · omega
    all_goals decide
  simp only [isBlank, Bool.or_eq_false_iff, Bool.and_eq_false_iff, decide_eq_false_iff_not,
    beq_eq_false_iff_ne]
  omega

theorem squeeze_append (left right : Text) : squeeze (left ++ right) = squeeze left ++ squeeze right :=
  List.filter_append left right

theorem squeeze_eq_self (number : ∀ c ∈ text, isNumberChar c = true) : squeeze text = text := by
  refine List.filter_eq_self.mpr fun c member => ?_
  rw [isBlank_of_isNumberChar (number c member)]
  rfl

theorem isBlank_of_startsNumber (starts : startsNumber c = true) : isBlank c = false := by
  apply isBlank_of_isNumberChar
  simp only [startsNumber, Bool.or_eq_true] at starts
  cases starts with
  | inl digit => simp [isNumberChar, digit]
  | inr sign =>
      have each : ∀ d ∈ ['.', '+', '-'], isNumberChar d = true := by simp [isNumberChar]
      exact each c (of_decide_eq_true sign)

/-- A text that starts as numbers do is no keyword. -/
theorem ofKeyword?_of_startsNumber (starts : startsNumber c = true) (rest : Text) (line : Option Int) :
    Literal.ofKeyword? (trim (c :: rest)) line = none := by
  have visible : isBlank c = false := isBlank_of_startsNumber starts
  have trimmed : trim (c :: rest) = c :: trimEnd rest := by
    rw [trim, trimStart_cons _ visible]
    exact trimEnd_append_cons [] rest visible
  have noLetter : ∀ d ∈ ['u', 'n', 't', 'f'], startsNumber d = false := by simp [startsNumber, isAsciiDigit]
  have other : ∀ d ∈ ['u', 'n', 't', 'f'], c ≠ d := by
    rintro d member rfl
    rw [noLetter c member] at starts
    cases starts
  rw [trimmed, ofKeyword?_literal_eq_none_iff]
  simp [other]

theorem elaborate_number (isLiteral : node.kind = .literalType)
    (isChild : node.constituents.head? = some child)
    (isNumber : child.kind = .number ∨ child.kind = .unaryExpression)
    (noKeyword : Literal.ofKeyword? child.text.trim (some node.line) = none) (scope : Scope) :
    elaborate scope node = .ok (Literal.ofNumber child.text (some node.line)) := by
  have noString : child.kind ≠ .string := by
    rcases isNumber with kind | kind <;> simp [kind]
  have number : (child.kind = .number || child.kind = .unaryExpression ||
      Literal.isNumber child.text.trim) = true := by
    rcases isNumber with kind | kind <;> simp [kind]
  have same : Literal.ofNumber child.text.trim (some node.line) =
      Literal.ofNumber child.text (some node.line) := by
    simp only [Literal.ofNumber, squeeze_trim]
  rw [elaborate_eq, Node.typeForm, isLiteral]
  simp only [elaborateLiteral, isChild, Option.getD_some, noString, if_false, noKeyword, number, if_true,
    same]

theorem getLast?_append_number (number : IsNumber digits) (text : Text) :
    (text ++ digits).getLast? = digits.getLast? := by
  obtain ⟨c, rest, rfl, -⟩ := number.exists_cons
  exact List.getLast?_append_of_ne_nil text (List.cons_ne_nil c rest)

/-- The literal's text is read again, up to the comments that lose their blanks. -/
theorem reads_squeezed (holds : node.HoldsNumber sign pieces digits)
    (isChild : node.constituents.head? = some child) (line : Option Int) :
    ∃ front, child.text.squeeze = front ++ digits ∧
      Literal.ofKeyword? child.text.trim line = none ∧
      (IsReadAs (front ++ digits) sign digits ↔ IsTrivia (squeeze (pieces.flatMap Trivium.text))) := by
  obtain ⟨first, isFirst, text, isKind⟩ := holds.child
  obtain rfl := Option.some.inj (isFirst.symm.trans isChild)
  have number := holds.number
  have solid : squeeze digits = digits := squeeze_eq_self number.isNumberChar
  cases isKind with
  | inl unsigned =>
      obtain ⟨-, rfl, rfl⟩ := unsigned
      have alone : first.text = digits := text
      obtain ⟨c, rest, same, starts, -⟩ := startsNumber_of_isNumber number
      refine ⟨[], alone ▸ solid, ?_, ?_⟩
      · rw [alone, same]
        exact ofKeyword?_of_startsNumber starts rest line
      · exact ⟨fun _ => isTrivia_nil, fun _ => isReadAs_unsigned number⟩
  | inr signed =>
      obtain ⟨c, isSign, rfl⟩ : ∃ c ∈ ['+', '-'], sign = [c] := by simpa using signed.2
      have starts : startsNumber c = true := startsNumber_of_mem_signs isSign
      have solidSign : squeeze [c] = [c] := by simp [squeeze, isBlank_of_startsNumber starts]
      refine ⟨c :: squeeze (pieces.flatMap Trivium.text), ?_, ?_, isReadAs_signed_iff isSign number _⟩
      · rw [text, squeeze_append, squeeze_append, solidSign, solid]
        rfl
      · rw [text]
        exact ofKeyword?_of_startsNumber starts _ line

/-- The literal of a number has its text without blanks, and is a big number just when the token ends in
the mark of one. It is read again as the same sign and token just when white space and comments are left
of those in front of the digits; if no block comment ends earlier, just when there is no line comment. -/
theorem elaborate_number_reads_again_iff (holds : node.HoldsNumber sign pieces digits) (scope : Scope) :
    ∃ raw, elaborate scope node = .ok (.literal
        (if digits.getLast? = some 'n' then .bigint else .number) raw (some node.line)) ∧
      (IsReadAs raw sign digits ↔ IsTrivia (squeeze (pieces.flatMap Trivium.text))) ∧
      (StayClosed pieces → (IsReadAs raw sign digits ↔ ∀ piece ∈ pieces, piece.isLine = false)) := by
  obtain ⟨child, isChild, -, isKind⟩ := holds.child
  have isNumber : child.kind = .number ∨ child.kind = .unaryExpression := isKind.imp And.left And.left
  obtain ⟨front, squeezed, noKeyword, iff⟩ := reads_squeezed holds isChild (some node.line)
  refine ⟨front ++ digits, ?_, iff, fun closed => iff.trans (isTrivia_squeeze_iff holds.formed closed)⟩
  rw [elaborate_number holds.literal isChild isNumber noKeyword, Literal.ofNumber, squeezed,
    getLast?_append_number holds.number]

/-- The literal type that is a sign and a number. -/
def signedNumber (text : Text) : Node where
  kind := .literalType
  text := text
  children := [{ kind := .unaryExpression, text := text }]

/-- A block comment and white space of no width are left of what stands in front of the digits. -/
theorem elaborate_number_reads_again_commented :
    (signedNumber "- /* minus * one */\u200b10n").HoldsNumber ['-']
        [.space ' ', .block " minus * one ", .space '\u200b'] "10n" ∧
      elaborate (.ofImports "a.ts" []) (signedNumber "- /* minus * one */\u200b10n") =
        .ok (.literal .bigint "-/*minus*one*/\u200b10n" (some 1)) ∧
      IsReadAs "-/*minus*one*/\u200b10n" ['-'] "10n" := by
  have formed : ∀ piece ∈ [Trivium.space ' ', .block " minus * one ", .space '\u200b'],
      piece.IsFormed := by
    simp only [List.forall_mem_cons]
    refine ⟨rfl, ?_, rfl, List.forall_mem_nil _⟩
    exact (by decide : ¬['*', '/'] <:+: " minus * one ".toList)
  have holds : (signedNumber "- /* minus * one */\u200b10n").HoldsNumber ['-']
      [.space ' ', .block " minus * one ", .space '\u200b'] "10n" :=
    ⟨rfl, formed, rfl, _, rfl, rfl, .inr ⟨rfl, by decide⟩⟩
  have closed : StayClosed [.space ' ', .block " minus * one ", .space '\u200b'] := by
    intro body member
    obtain rfl : body = " minus * one ".toList := by simpa using member
    decide
  obtain ⟨raw, elaborated, -, reads⟩ := elaborate_number_reads_again_iff holds (.ofImports "a.ts" [])
  have found : elaborate (.ofImports "a.ts" []) (signedNumber "- /* minus * one */\u200b10n") =
      .ok (.literal .bigint "-/*minus*one*/\u200b10n" (some 1)) := rfl
  obtain ⟨-, same, -⟩ := TypeExpr.literal.inj (Except.ok.inj (elaborated.symm.trans found))
  exact ⟨holds, found, same ▸ (reads closed).mpr (by decide)⟩

/-- What is left of a line comment goes on over the digits. -/
theorem elaborate_number_swallowed :
    ∃ node stop, typeAt true ⟨"- // minus\n1", 0, 1, []⟩ = some (node, stop) ∧ stop.rest = [] ∧
      node.HoldsNumber ['-'] [.space ' ', .line " minus" '\n'] ['1'] ∧
      elaborate (.ofImports "a.ts" []) node = .ok (.literal .number "-//minus1" (some 1)) ∧
      ¬IsReadAs "-//minus1" ['-'] ['1'] := by
  have formed : ∀ piece ∈ [Trivium.space ' ', .line " minus" '\n'], piece.IsFormed := by
    simp only [List.forall_mem_cons]
    exact ⟨rfl, ⟨by simp [endsLineComment], rfl⟩, List.forall_mem_nil _⟩
  refine ⟨_, _, rfl, rfl, ⟨rfl, formed, rfl, _, rfl, rfl, .inr ⟨rfl, by decide⟩⟩, rfl, ?_⟩
  have number : IsNumber ['1'] := rfl
  have inLine : ∀ c ∈ "minus".toList, endsLineComment c = false := by simp [endsLineComment]
  have swallowed : ¬IsTrivia "//minus" := not_isTrivia_line isTrivia_nil inLine
  intro reads
  have reads : IsReadAs ('-' :: ("//minus".toList ++ ['1'])) ['-'] ['1'] := reads
  exact swallowed ((isReadAs_signed_iff (by decide) number "//minus").mp reads)

end Companion.TypeExpr
