import Companion.TypeExpr.Literal

/-!
# Numerals

Which texts of literal types read as numbers: a sign, blanks, a base mark, characters of numbers and
the mark of a big number, in this order. All of them but the characters may be missing.
-/

set_option autoImplicit false

namespace Companion.Literal

/-- The marks that may stand in front of the characters of a number. -/
def baseMarks : List Text := [[], "0x", "0X", "0o", "0O", "0b", "0B"]

/-- Characters of a number, and perhaps the mark of a big number. -/
def IsDigits (text : Text) : Prop :=
  ∃ digits mark : Text, text = digits ++ mark ∧ digits ≠ [] ∧
    (∀ c ∈ digits, isNumberPart c = true) ∧ mark ∈ [[], ['n']]

def IsNumeral (text : Text) : Prop :=
  ∃ sign blanks base digits : Text, text = sign ++ (blanks ++ (base ++ digits)) ∧
    sign ∈ [[], ['+'], ['-']] ∧ (∀ c ∈ blanks, isBlank c = true) ∧ base ∈ baseMarks ∧
    IsDigits digits

variable {text : Text}

theorem isBlank_eq_false_of_isNumberPart {c : Char} (part : isNumberPart c = true) :
    isBlank c = false := by
  have printed : 0x21 ≤ c.toNat ∧ c.toNat ≤ 0x7E := by
    simp only [isNumberPart, isAsciiDigit, Bool.or_eq_true, Bool.and_eq_true, decide_eq_true_eq,
      Char.le_def, UInt32.le_iff_toNat_le] at part
    unfold Char.toNat at part ⊢
    rcases part with (((((digit | small) | capital) | rfl) | rfl) | rfl) | rfl
    · exact ⟨by omega, by omega⟩
    · change 97 ≤ c.val.toNat ∧ c.val.toNat ≤ 102 at small
      exact ⟨by omega, by omega⟩
    · change 65 ≤ c.val.toNat ∧ c.val.toNat ≤ 70 at capital
      exact ⟨by omega, by omega⟩
    all_goals decide
  simp only [isBlank, Bool.or_eq_false_iff, Bool.and_eq_false_iff, decide_eq_false_iff_not,
    beq_eq_false_iff_ne]
  omega

theorem isDigits_iff : isDigits text = true ↔ IsDigits text := by
  simp only [isDigits, Bool.and_eq_true, Bool.not_eq_true', List.isEmpty_eq_false_iff,
    List.all_eq_true]
  constructor
  · intro accepted
    split at accepted
    · next big =>
      obtain ⟨digits, rfl⟩ := List.getLast?_eq_some_iff.mp big
      rw [List.dropLast_concat] at accepted
      exact ⟨digits, ['n'], rfl, accepted.1, accepted.2, by simp⟩
    · exact ⟨text, [], (List.append_nil text).symm, accepted.1, accepted.2, by simp⟩
  · intro reads
    obtain ⟨digits, mark, rfl, some, areParts, isMark⟩ := reads
    have unmarked : digits.getLast? ≠ Option.some 'n' := by
      intro big
      exact absurd (areParts 'n' (List.mem_of_getLast? big)) (by decide)
    simp only [List.mem_cons, List.not_mem_nil, or_false] at isMark
    cases isMark with
    | inl none =>
        subst none
        rw [List.append_nil, if_neg unmarked]
        exact ⟨some, areParts⟩
    | inr big =>
        subst big
        rw [if_pos List.getLast?_concat, List.dropLast_concat]
        exact ⟨some, areParts⟩

theorem isUnsigned_iff : isUnsigned text = true ↔
    ∃ base digits : Text, text = base ++ digits ∧ base ∈ baseMarks ∧ IsDigits digits := by
  unfold isUnsigned
  rw [Bool.or_eq_true, isDigits_iff]
  constructor
  · intro accepted
    cases accepted with
    | inl digits => exact ⟨[], text, rfl, by decide, digits⟩
    | inr based =>
        split at based
        · next mark rest =>
          rw [Bool.and_eq_true, decide_eq_true_eq, isDigits_iff] at based
          refine ⟨['0', mark], rest, rfl, ?_, based.2⟩
          have isMark := based.1
          simp only [List.mem_cons, List.not_mem_nil, or_false] at isMark
          rcases isMark with rfl | rfl | rfl | rfl | rfl | rfl <;> decide
        · cases based
  · intro reads
    obtain ⟨base, digits, rfl, isBase, areDigits⟩ := reads
    by_cases plain : base = []
    · subst plain
      exact .inl areDigits
    · right
      have cut : ∃ mark, base = ['0', mark] ∧ mark ∈ ['x', 'X', 'o', 'O', 'b', 'B'] := by
        simp only [baseMarks, List.mem_cons, List.not_mem_nil, or_false, plain, false_or] at isBase
        rcases isBase with rfl | rfl | rfl | rfl | rfl | rfl <;> exact ⟨_, rfl, by decide⟩
      obtain ⟨mark, rfl, isMark⟩ := cut
      simp only [List.cons_append, List.nil_append, Bool.and_eq_true, decide_eq_true_eq]
      exact ⟨isMark, isDigits_iff.mpr areDigits⟩

theorem trimStart_append_of_isUnsigned {blanks : Text} (areBlank : ∀ c ∈ blanks, isBlank c = true)
    (unsigned : isUnsigned text = true) : Text.trimStart (blanks ++ text) = text := by
  rw [Text.trimStart, List.dropWhile_append_of_pos areBlank]
  obtain ⟨base, digits, rfl, isBase, more, mark, rfl, some, areParts, -⟩ :=
    isUnsigned_iff.mp unsigned
  have opens : ∃ c rest, base ++ (more ++ mark) = c :: rest ∧ isBlank c = false := by
    cases base with
    | nil =>
        obtain ⟨c, rest, rfl⟩ := List.exists_cons_of_ne_nil some
        exact ⟨c, rest ++ mark, rfl, isBlank_eq_false_of_isNumberPart (areParts c List.mem_cons_self)⟩
    | cons c rest =>
        have zero : c = '0' := by
          simp only [baseMarks, List.mem_cons, List.not_mem_nil, or_false] at isBase
          grind
        exact ⟨c, _, rfl, zero ▸ rfl⟩
  obtain ⟨c, rest, shape, other⟩ := opens
  rw [shape, List.dropWhile_cons, other]
  rfl

theorem isNumber_iff : isNumber text = true ↔ IsNumeral text := by
  have blanks : ∀ text : Text, text = text.takeWhile isBlank ++ text.trimStart :=
    fun text => List.takeWhile_append_dropWhile.symm
  have areBlank : ∀ text : Text, ∀ c ∈ text.takeWhile isBlank, isBlank c = true :=
    fun text => List.all_eq_true.mp List.all_takeWhile
  unfold isNumber
  rw [Bool.or_eq_true]
  constructor
  · intro accepted
    cases accepted with
    | inl unsigned =>
        obtain ⟨base, digits, shape, isBase, areDigits⟩ := isUnsigned_iff.mp unsigned
        exact ⟨[], _, base, digits, shape ▸ blanks text, by simp, areBlank text, isBase, areDigits⟩
    | inr signed =>
        split at signed
        · next sign rest =>
          simp only [Bool.and_eq_true, Bool.or_eq_true, decide_eq_true_eq] at signed
          obtain ⟨base, digits, shape, isBase, areDigits⟩ := isUnsigned_iff.mp signed.2
          refine ⟨[sign], _, base, digits, congrArg (sign :: ·) (shape ▸ blanks rest), ?_,
            areBlank rest, isBase, areDigits⟩
          rcases signed.1 with rfl | rfl <;> simp
        · cases signed
  · intro reads
    obtain ⟨sign, blanks, base, digits, rfl, isSign, areBlank, isBase, areDigits⟩ := reads
    have unsigned : isUnsigned (base ++ digits) = true :=
      isUnsigned_iff.mpr ⟨base, digits, rfl, isBase, areDigits⟩
    have trimmed := trimStart_append_of_isUnsigned areBlank unsigned
    simp only [List.mem_cons, List.not_mem_nil, or_false] at isSign
    rcases isSign with rfl | rfl | rfl
    · left
      rw [List.nil_append, trimmed]
      exact unsigned
    · right
      simp [trimmed, unsigned]
    · right
      simp [trimmed, unsigned]

end Companion.Literal
