import Companion.Proofs.TypeExpr.Constituents
import Companion.Proofs.Text.Pieces
import Companion.Syntax.Token
import Companion.Text.StringBody

/-!
# Spelling

A type expression is spelled when its texts are what they stand for: names are identifiers, numbers
are number tokens, the body of a string ends in front of its closing quote. Then each text is read
back from what it is written as: it is known where it ends, whatever follows.
-/

set_option autoImplicit false

namespace Companion

/-! ## Bodies of strings -/

namespace StringBody

/-- Whether a body holds no unescaped single quote and does not end in an escaping backslash;
`escaped` tells whether the character before was an escaping backslash. -/
def isClosedFrom : Bool → Text → Bool
  | escaped, [] => !escaped
  | true, _ :: rest => isClosedFrom false rest
  | false, c :: rest =>
    if c = '\\' then isClosedFrom true rest else c ≠ '\'' && isClosedFrom false rest

/-- The body of a string on one line. -/
def IsClosed (body : Text) : Prop := isClosedFrom false body = true ∧ '\n' ∉ body

/-- A body ends in front of the first quote that nothing escapes. -/
theorem isClosedFrom_append_inj {escaped : Bool} {left right rest others : Text}
    (closedLeft : isClosedFrom escaped left = true)
    (closedRight : isClosedFrom escaped right = true)
    (same : left ++ '\'' :: rest = right ++ '\'' :: others) : left = right ∧ rest = others := by
  have noQuote : ∀ {more : Text}, isClosedFrom false ('\'' :: more) = false := by
    intro more
    simp [isClosedFrom]
  induction left generalizing escaped right with
  | nil =>
      cases right with
      | nil => exact ⟨rfl, List.tail_eq_of_cons_eq same⟩
      | cons c more =>
          obtain ⟨rfl, -⟩ := List.cons_eq_cons.mp same
          cases escaped with
          | false => rw [noQuote] at closedRight; cases closedRight
          | true => cases closedLeft
  | cons c more ih =>
      cases right with
      | nil =>
          obtain ⟨rfl, -⟩ := List.cons_eq_cons.mp same
          cases escaped with
          | false => rw [noQuote] at closedLeft; cases closedLeft
          | true => cases closedRight
      | cons d others =>
          obtain ⟨rfl, sameBehind⟩ := List.cons_eq_cons.mp same
          have next : ∃ state, isClosedFrom state more = true ∧
              isClosedFrom state others = true := by
            cases escaped with
            | true => exact ⟨false, closedLeft, closedRight⟩
            | false =>
                by_cases escapes : c = '\\'
                · rw [isClosedFrom, if_pos escapes] at closedLeft closedRight
                  exact ⟨true, closedLeft, closedRight⟩
                · rw [isClosedFrom, if_neg escapes, Bool.and_eq_true] at closedLeft closedRight
                  exact ⟨false, closedLeft.2, closedRight.2⟩
          obtain ⟨state, moreClosed, othersClosed⟩ := next
          obtain ⟨rfl, restSame⟩ := ih moreClosed othersClosed sameBehind
          exact ⟨rfl, restSame⟩

end StringBody

/-! ## Names and numbers -/

namespace Syntax

/-- Characters of an identifier, those of its `\u` escapes included. -/
def isIdentifierChar (c : Char) : Bool := isIdentifierPart c || c ∈ ['\\', '\x7b', '\x7d']

def isNumberChar (c : Char) : Bool :=
  isAsciiDigit c || isAsciiLetter c || c ∈ ['_', '.', '+', '-']

/-- A text that is read as one identifier. -/
def IsIdentifier (text : Text) : Prop :=
  text ≠ [] ∧ Cursor.identifierLength text = text.length ∧ ∀ c ∈ text, isIdentifierChar c = true

instance (text : Text) : Decidable (IsIdentifier text) :=
  decidable_of_iff (text ≠ [] ∧ Cursor.identifierLength text = text.length ∧
    text.all isIdentifierChar = true) (by simp only [IsIdentifier, List.all_eq_true])

theorem isIdentifierChar_of_mem_brackets {c : Char} (bracket : c ∈ ['(', ')', ']']) :
    isIdentifierChar c = false := by
  simp only [List.mem_cons, List.not_mem_nil, or_false] at bracket
  rcases bracket with rfl | rfl | rfl <;> rfl

/-- A text that is read as one number. -/
def IsNumber (text : Text) : Prop := numberLength text = some text.length

/-- A number that may have a sign. -/
def IsSignedNumber (text : Text) : Prop :=
  IsNumber text ∨ ∃ sign digits, text = sign :: digits ∧ sign ∈ ['+', '-'] ∧ IsNumber digits

section Numbers

private theorem take_takeWhile {p : Char → Bool} (all : ∀ c, p c = true → isNumberChar c = true)
    (text : Text) : ∀ c ∈ text.take (text.takeWhile p).length, isNumberChar c = true := by
  rw [← List.prefix_iff_eq_take.mp (List.takeWhile_prefix p)]
  exact fun c member => all c (List.all_eq_true.mp (List.all_takeWhile) c member)

private theorem isNumberChar_of_isDigitPart {c : Char} (digit : isDigitPart c = true) :
    isNumberChar c = true := by
  simp only [isDigitPart, Bool.or_eq_true, decide_eq_true_eq] at digit
  rcases digit with digit | rfl
  · simp [isNumberChar, digit]
  · decide

private theorem take_add {text : Text} {first second : Nat}
    (opening : ∀ c ∈ text.take first, isNumberChar c = true)
    (behind : ∀ c ∈ (text.drop first).take second, isNumberChar c = true) :
    ∀ c ∈ text.take (first + second), isNumberChar c = true := by
  intro c member
  rw [List.take_add, List.mem_append] at member
  exact member.elim (opening c) (behind c)

private theorem take_fractionLength (text : Text) :
    ∀ c ∈ text.take (fractionLength text), isNumberChar c = true := by
  unfold fractionLength
  split
  · next rest =>
    have point : ∀ c ∈ List.take 1 ('.' :: rest), isNumberChar c = true := by
      simp
      decide
    exact take_add point (take_takeWhile (fun _ => isNumberChar_of_isDigitPart) rest)
  · simp

private theorem take_exponentLength (text : Text) :
    ∀ c ∈ text.take (exponentLength text), isNumberChar c = true := by
  have digits := take_takeWhile (fun _ => isNumberChar_of_isDigitPart)
  have single : ∀ {c : Char} {rest : Text}, isNumberChar c = true →
      ∀ d ∈ (c :: rest).take 1, isNumberChar d = true := by
    intro c rest number d member
    simp only [List.take_succ_cons, List.take_zero, List.mem_singleton] at member
    exact member ▸ number
  cases text with
  | nil => simp
  | cons c rest =>
      by_cases mark : c = 'e' ∨ c = 'E'
      · have markNumber : isNumberChar c = true := by rcases mark with rfl | rfl <;> decide
        simp only [exponentLength, Bool.or_eq_true, decide_eq_true_eq, if_pos mark]
        split
        · next digits' =>
          split
          · simp
          · exact take_add (take_add (single markNumber) (single (by decide))) (digits _)
        · next digits' =>
          split
          · simp
          · exact take_add (take_add (single markNumber) (single (by decide))) (digits _)
        · split
          · simp
          · exact take_add (single markNumber) (digits _)
      · simp [exponentLength, mark]

private theorem take_decimalLength (text : Text) :
    ∀ c ∈ text.take (decimalLength text), isNumberChar c = true := by
  have whole := take_takeWhile (fun _ => isNumberChar_of_isDigitPart) text
  simp only [decimalLength]
  split
  · next big =>
    refine take_add whole ?_
    obtain ⟨rest, behind⟩ := List.head?_eq_some_iff.mp big
    rw [behind]
    simp
    decide
  · exact take_add (take_add whole (take_fractionLength _))
      (by rw [← List.drop_drop]; exact take_exponentLength _)

theorem IsNumber.isNumberChar {text : Text} (number : IsNumber text) :
    ∀ c ∈ text, isNumberChar c = true := by
  have all : ∀ length, numberLength text = some length →
      ∀ c ∈ text.take length, Syntax.isNumberChar c = true := by
    intro length read
    unfold numberLength at read
    split at read
    · next c rest =>
      split at read
      · next mark =>
        obtain rfl := Option.some.inj read
        have fixed : ∀ text : Text, text.all Syntax.isNumberChar = true →
            ∀ d ∈ text, Syntax.isNumberChar d = true :=
          fun text all => List.all_eq_true.mp all
        refine @take_add ('0' :: c :: rest) 2 _ ?_ (take_takeWhile ?_ rest)
        · simp only [Bool.or_eq_true, decide_eq_true_eq] at mark
          rcases mark with ((((rfl | rfl) | rfl) | rfl) | rfl) | rfl <;> exact fixed _ rfl
        · intro d part
          simp only [Bool.or_eq_true, decide_eq_true_eq] at part
          rcases part with (digit | letter) | rfl
          · simp [Syntax.isNumberChar, digit]
          · simp [Syntax.isNumberChar, letter]
          · decide
      · obtain rfl := Option.some.inj read
        exact take_decimalLength _
    · split at read
      · obtain rfl := Option.some.inj read
        exact take_decimalLength _
      · cases read
    · split at read
      · obtain rfl := Option.some.inj read
        exact take_decimalLength _
      · cases read
    · cases read
  simpa using all _ number

theorem IsNumber.exists_cons {text : Text} (number : IsNumber text) :
    ∃ c rest, text = c :: rest ∧ (isAsciiDigit c = true ∨ c = '.') := by
  have opens : ∀ length, numberLength text = some length →
      ∃ c rest, text = c :: rest ∧ (isAsciiDigit c = true ∨ c = '.') := by
    intro length read
    unfold numberLength at read
    split at read
    · next c rest => exact ⟨'0', c :: rest, rfl, .inl rfl⟩
    · exact ⟨'.', _, rfl, .inr rfl⟩
    · split at read
      · next digit => exact ⟨_, _, rfl, .inl digit⟩
      · cases read
    · cases read
  exact opens _ number

theorem IsSignedNumber.isNumberChar {text : Text} (number : IsSignedNumber text) :
    ∀ c ∈ text, isNumberChar c = true := by
  rcases number with number | ⟨sign, digits, rfl, isSign, number⟩
  · exact number.isNumberChar
  · rw [List.forall_mem_cons]
    refine ⟨?_, number.isNumberChar⟩
    simp only [List.mem_cons, List.not_mem_nil, or_false] at isSign
    rcases isSign with rfl | rfl <;> decide

theorem IsSignedNumber.exists_cons {text : Text} (number : IsSignedNumber text) :
    ∃ c rest, text = c :: rest ∧ (isAsciiDigit c = true ∨ c ∈ ['.', '+', '-']) := by
  rcases number with number | ⟨sign, digits, rfl, isSign, -⟩
  · obtain ⟨c, rest, rfl, digit | rfl⟩ := number.exists_cons
    · exact ⟨c, rest, rfl, .inl digit⟩
    · exact ⟨'.', rest, rfl, .inr (by decide)⟩
  · exact ⟨sign, digits, rfl, .inr (List.mem_cons_of_mem _ isSign)⟩

theorem IsSignedNumber.ne_cons {text rest : Text} {c : Char} (number : IsSignedNumber text)
    (other : isAsciiDigit c = false ∧ c ∉ ['.', '+', '-']) : text ≠ c :: rest := by
  rintro rfl
  obtain ⟨d, more, same, digit | sign⟩ := number.exists_cons
  · obtain ⟨rfl, -⟩ := List.cons_eq_cons.mp same
    rw [other.1] at digit
    cases digit
  · obtain ⟨rfl, -⟩ := List.cons_eq_cons.mp same
    exact other.2 sign

end Numbers

end Syntax

/-! ## Literals and keys -/

namespace LiteralForm

/-- A literal is written as its kind is. -/
def Spells : LiteralForm → Text → Prop
  | .string, raw => StringBody.IsClosed raw
  | .number, raw => Syntax.IsSignedNumber raw ∧ raw.getLast? ≠ some 'n'
  | .bigint, raw => Syntax.IsSignedNumber raw ∧ raw.getLast? = some 'n'
  | .boolean, raw => raw = "true".toList ∨ raw = "false".toList
  | .null, raw => raw = "null".toList

/-- The kind of a literal that is no string. -/
def ofPlain (raw : Text) : LiteralForm :=
  if raw = "null".toList then .null
  else if raw = "true".toList ∨ raw = "false".toList then .boolean
  else if raw.getLast? = some 'n' then .bigint
  else .number

variable {kind : LiteralForm} {raw : Text}

theorem Spells.ofPlain_eq (spells : kind.Spells raw) (plain : kind ≠ .string) :
    ofPlain raw = kind := by
  have noWord : Syntax.IsSignedNumber raw →
      raw ≠ "null".toList ∧ ¬(raw = "true".toList ∨ raw = "false".toList) := by
    intro number
    refine ⟨number.ne_cons (by decide), ?_⟩
    rintro (word | word)
    · exact number.ne_cons (by decide) word
    · exact number.ne_cons (by decide) word
  cases kind with
  | string => exact absurd rfl plain
  | number =>
      obtain ⟨number, last⟩ := spells
      obtain ⟨notNull, notBoolean⟩ := noWord number
      rw [ofPlain, if_neg notNull, if_neg notBoolean, if_neg last]
  | bigint =>
      obtain ⟨number, last⟩ := spells
      obtain ⟨notNull, notBoolean⟩ := noWord number
      rw [ofPlain, if_neg notNull, if_neg notBoolean, if_pos last]
  | boolean => rcases spells with rfl | rfl <;> rfl
  | null =>
      obtain rfl : raw = _ := spells
      rfl

theorem Spells.isPlain (spells : kind.Spells raw) (plain : kind ≠ .string) :
    ∀ c ∈ raw, Syntax.isNumberChar c = true := by
  cases kind with
  | string => exact absurd rfl plain
  | number => exact spells.1.isNumberChar
  | bigint => exact spells.1.isNumberChar
  | boolean => rcases spells with rfl | rfl <;> exact List.all_eq_true.mp (by decide)
  | null =>
      obtain rfl : raw = _ := spells
      exact List.all_eq_true.mp (by decide)

theorem Spells.not_mem {c : Char} (spells : kind.Spells raw) (plain : kind ≠ .string)
    (foreign : Syntax.isNumberChar c = false) : c ∉ raw := by
  intro member
  rw [spells.isPlain plain c member] at foreign
  cases foreign

theorem literalCode_of_ne (plain : kind ≠ .string) : literalCode kind raw = raw := by
  cases kind with
  | string => exact absurd rfl plain
  | _ => rfl

private theorem Spells.append_ne_quote {rest others : Text} (spells : kind.Spells raw)
    (plain : kind ≠ .string) : literalCode kind raw ++ ')' :: rest ≠ '\'' :: others := by
  rw [literalCode_of_ne plain]
  intro same
  cases raw with
  | nil => simp at same
  | cons c more =>
      obtain ⟨rfl, -⟩ := List.cons_eq_cons.mp same
      exact spells.not_mem plain (by decide) List.mem_cons_self

/-- The source of a literal is read up to the parenthesis behind it. -/
theorem Spells.append_inj {other : LiteralForm} {otherRaw rest others : Text}
    (spells : kind.Spells raw) (otherSpells : other.Spells otherRaw)
    (same : literalCode kind raw ++ ')' :: rest = literalCode other otherRaw ++ ')' :: others) :
    kind = other ∧ raw = otherRaw ∧ rest = others := by
  by_cases string : kind = .string <;> by_cases otherString : other = .string
  · subst string otherString
    simp only [literalCode, List.cons_append, List.append_assoc, List.nil_append,
      List.cons.injEq, true_and] at same
    obtain ⟨rfl, behind⟩ := StringBody.isClosedFrom_append_inj spells.1 otherSpells.1 same
    exact ⟨rfl, rfl, List.tail_eq_of_cons_eq behind⟩
  · subst string
    exact absurd same.symm (otherSpells.append_ne_quote otherString)
  · subst otherString
    exact absurd same (spells.append_ne_quote string)
  · rw [literalCode_of_ne string, literalCode_of_ne otherString] at same
    obtain ⟨rfl, behind⟩ := Text.append_cons_inj (spells.not_mem string (by decide))
      (otherSpells.not_mem otherString (by decide)) same
    exact ⟨(spells.ofPlain_eq string).symm.trans (otherSpells.ofPlain_eq otherString), rfl, behind⟩

theorem Spells.append_ne_undefined {rest others : Text} (spells : kind.Spells raw) :
    literalCode kind raw ++ ')' :: rest ≠ "undefined".toList ++ ')' :: others := by
  intro same
  by_cases string : kind = .string
  · subst string
    exact absurd (List.head_eq_of_cons_eq same) (by decide)
  · rw [literalCode_of_ne string] at same
    obtain ⟨rfl, -⟩ := Text.append_cons_inj (spells.not_mem string (by decide)) (by decide) same
    cases kind with
    | string => exact string rfl
    | number => exact spells.1.ne_cons (by decide) rfl
    | bigint => exact spells.1.ne_cons (by decide) rfl
    | boolean => exact absurd spells (by unfold Spells; decide)
    | null => exact absurd spells (by unfold Spells; decide)

theorem Spells.inLine (spells : kind.Spells raw) : '\n' ∉ literalCode kind raw := by
  intro member
  by_cases string : kind = .string
  · subst string
    simp [literalCode, spells.2] at member
  · rw [literalCode_of_ne string] at member
    exact spells.not_mem string (by decide) member

end LiteralForm

/-- The key of a property is an identifier or a number unless it is quoted. -/
def Property.KeyIsSpelled (property : Property TypeExpr) : Prop :=
  if property.quoted then StringBody.IsClosed property.name
  else Syntax.IsIdentifier property.name ∨ Syntax.IsNumber property.name

/-- A key without quotes is an identifier or a number. -/
def Property.PlainKeyIsSpelled (property : Property TypeExpr) : Prop :=
  property.quoted = false → Syntax.IsIdentifier property.name ∨ Syntax.IsNumber property.name

section Keys

variable {left right : Property TypeExpr} {rest others : Text}

private theorem Property.KeyIsSpelled.not_mem {c : Char} (spelled : left.KeyIsSpelled)
    (plain : left.quoted = false)
    (foreign : Syntax.isIdentifierChar c = false ∧ Syntax.isNumberChar c = false) :
    c ∉ left.name := by
  intro member
  rw [KeyIsSpelled, if_neg (by simp [plain])] at spelled
  rcases spelled with ⟨-, -, identifier⟩ | number
  · rw [identifier c member] at foreign
    cases foreign.1
  · rw [number.isNumberChar c member] at foreign
    cases foreign.2

private theorem Property.KeyIsSpelled.append_ne_quote (spelled : left.KeyIsSpelled)
    (plain : left.quoted = false) : left.name ++ ':' :: rest ≠ '\'' :: others := by
  intro same
  cases name : left.name with
  | nil => simp [name] at same
  | cons c more =>
      rw [name] at same
      obtain ⟨rfl, -⟩ := List.cons_eq_cons.mp same
      exact spelled.not_mem plain (by decide) (name ▸ List.mem_cons_self)

/-- A key is read up to the colon behind it. -/
theorem Property.KeyIsSpelled.append_inj (leftSpelled : left.KeyIsSpelled)
    (rightSpelled : right.KeyIsSpelled)
    (same : keyCode left ++ ':' :: rest = keyCode right ++ ':' :: others) :
    left.name = right.name ∧ left.quoted = right.quoted ∧ rest = others := by
  cases leftQuoted : left.quoted <;> cases rightQuoted : right.quoted <;>
    simp only [keyCode, leftQuoted, rightQuoted, Bool.false_eq_true, ↓reduceIte, List.cons_append,
      List.append_assoc, List.nil_append, List.cons.injEq, true_and] at same
  · obtain ⟨name, behind⟩ := Text.append_cons_inj (leftSpelled.not_mem leftQuoted (by decide))
      (rightSpelled.not_mem rightQuoted (by decide)) same
    exact ⟨name, rfl, behind⟩
  · exact absurd same (leftSpelled.append_ne_quote leftQuoted)
  · exact absurd same.symm (rightSpelled.append_ne_quote rightQuoted)
  · rw [KeyIsSpelled, if_pos leftQuoted] at leftSpelled
    rw [KeyIsSpelled, if_pos rightQuoted] at rightSpelled
    obtain ⟨name, behind⟩ :=
      StringBody.isClosedFrom_append_inj leftSpelled.1 rightSpelled.1 same
    exact ⟨name, rfl, List.tail_eq_of_cons_eq behind⟩

theorem Property.KeyIsSpelled.inLine (spelled : left.KeyIsSpelled) : '\n' ∉ keyCode left := by
  intro member
  cases quoted : left.quoted with
  | false =>
      rw [keyCode, if_neg (by simp [quoted])] at member
      exact spelled.not_mem quoted (by decide) member
  | true =>
      rw [KeyIsSpelled, if_pos quoted] at spelled
      simp [keyCode, quoted, spelled.2] at member

end Keys

namespace TypeExpr

/-- All names, numbers and strings of an expression are spelled as what they are, and no part of it
is unclassified. -/
inductive IsSpelled : TypeExpr → Prop where
  | primitive {kind : PrimitiveType} {line : Option Int} : IsSpelled (.primitive kind line)
  | literal {kind : LiteralForm} {raw : Text} {line : Option Int} (spells : kind.Spells raw) :
      IsSpelled (.literal kind raw line)
  | object {properties : List (Property TypeExpr)} {line : Option Int}
      (keys : ∀ property ∈ properties, property.KeyIsSpelled)
      (types : ∀ property ∈ properties, IsSpelled property.type) :
      IsSpelled (.object properties line)
  | union {members : List TypeExpr} {line : Option Int}
      (types : ∀ member ∈ members, IsSpelled member) : IsSpelled (.union members line)
  | reference {name : Text} {origin : Option ImportedName} {line : Option Int}
      (identifier : Syntax.IsIdentifier name) : IsSpelled (.reference name origin line)

/-- A spelled type breaks no line. -/
theorem IsSpelled.allTexts {type : TypeExpr} (spelled : type.IsSpelled) :
    type.AllTexts ('\n' ∉ ·) := by
  induction spelled with
  | primitive => exact ⟨fun _ member => (nomatch member), fun _ member => (nomatch member)⟩
  | literal spells => exact allTexts_literal.mpr spells.inLine
  | object keys types ih =>
      exact allTexts_object.mpr fun property member => ⟨(keys property member).inLine,
        ih property member⟩
  | union types ih => exact allTexts_union.mpr ih
  | reference identifier =>
      refine allTexts_reference.mpr fun member => ?_
      exact absurd (identifier.2.2 _ member) (by decide)

end TypeExpr

end Companion
