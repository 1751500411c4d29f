import Companion.Proofs.TypeExpr.StringValue

/-!
# Literals between other quotes

The body of a literal is a row of characters that stand for themselves and of characters behind a
backslash. Putting it between single quotes turns the single quotes of the first sort into the second
and leaves all else alone, so the literal goes on denoting the same, and there is nothing to be done a
second time.
-/

set_option autoImplicit false

namespace Companion.StringBody

/-- The body of a literal between two quotes: none of them stands in it without a backslash that
escapes it, and no backslash is left over to escape the closing one. -/
inductive IsBody (quote : Char) : Text → Prop where
  | nil : IsBody quote []
  | plain {c : Char} {rest : Text} :
      c ≠ '\\' → c ≠ quote → IsBody quote rest → IsBody quote (c :: rest)
  | escape {c : Char} {rest : Text} : IsBody quote rest → IsBody quote ('\\' :: c :: rest)

theorem betweenSingleQuotes_quote (rest : Text) :
    betweenSingleQuotes ('\'' :: rest) = '\\' :: '\'' :: betweenSingleQuotes rest := rfl

theorem betweenSingleQuotes_escape (c : Char) (rest : Text) :
    betweenSingleQuotes ('\\' :: c :: rest) = '\\' :: c :: betweenSingleQuotes rest := rfl

theorem betweenSingleQuotes_plain {c : Char} (noBackslash : c ≠ '\\') (noQuote : c ≠ '\'')
    (rest : Text) : betweenSingleQuotes (c :: rest) = c :: betweenSingleQuotes rest := by
  simp only [betweenSingleQuotes, escapeFrom, noBackslash, noQuote, if_false]

/-- What is escaped holds no quote to escape again. -/
theorem escapeFrom_escapeFrom (escaped : Bool) (text : Text) :
    escapeFrom escaped (escapeFrom escaped text) = escapeFrom escaped text := by
  induction text generalizing escaped with
  | nil => rfl
  | cons c rest ih =>
      cases escaped with
      | true => simp only [escapeFrom, ih]
      | false =>
          by_cases backslash : c = '\\'
          · simp only [escapeFrom, backslash, if_true, ih]
          · by_cases isQuote : c = '\''
            · simp [escapeFrom, isQuote, ih]
            · simp only [escapeFrom, backslash, isQuote, if_false, ih]

theorem isBody_betweenSingleQuotes {quote : Char} {body : Text} (isBody : IsBody quote body) :
    IsBody '\'' (betweenSingleQuotes body) := by
  induction isBody with
  | nil => exact .nil
  | escape _ ih => exact .escape ih
  | @plain c rest noBackslash _ _ ih =>
      by_cases isQuote : c = '\''
      · subst isQuote
        exact .escape ih
      · rw [betweenSingleQuotes_plain noBackslash isQuote]
        exact .plain noBackslash isQuote ih

namespace Escape

variable {quote other c : Char} {state next : Escape} {read : List Nat}

/-- The quotes of a literal matter where they stand only. -/
theorem step_eq_step (noQuote : c ≠ quote) (noOther : c ≠ other) :
    state.step quote c = state.step other c := by
  have plain_eq : plain quote c = plain other c := by
    simp only [plain, noQuote, noOther, false_or]
  cases state with
  | outside => exact plain_eq
  | zero => simp only [step, plain_eq]
  | carriageReturn => simp only [step, plain_eq]
  | digits missing => cases missing <;> rfl
  | opened => rfl
  | unicode => rfl
  | braces code => rfl

/-- Only a backslash opens an escape sequence. -/
theorem isOpened_of_step (noBackslash : c ≠ '\\')
    (steps : state.step quote c = some (read, next)) : next.isOpened = false := by
  cases step_cases steps with
  | inr reads => exact reads.closes
  | inl isPlain =>
      rw [isPlain.2] at steps
      cases plain_cases steps with
      | inl opens => exact absurd opens.1 noBackslash
      | inr reads =>
          obtain ⟨-, -, rfl⟩ := reads
          rfl

/-- In front of a character that may be escaped, a backslash can be read just where the character itself
can be read. -/
theorem step_backslash (closed : state.isOpened = false) :
    (state.step quote '\\' = some ([], opened) ∧
        ∀ quote, state.step quote '\'' = plain quote '\'') ∨
      state.step quote '\\' = none ∧ ∀ quote, state.step quote '\'' = none := by
  cases state with
  | outside => exact .inl ⟨rfl, fun _ => rfl⟩
  | opened => cases closed
  | zero => exact .inl ⟨rfl, fun _ => rfl⟩
  | carriageReturn => exact .inl ⟨rfl, fun _ => rfl⟩
  | digits missing code =>
      right
      cases missing with
      | zero => exact ⟨rfl, fun _ => rfl⟩
      | succ missing => exact ⟨rfl, fun _ => rfl⟩
  | unicode => exact .inr ⟨rfl, fun _ => rfl⟩
  | braces code => exact .inr ⟨rfl, fun _ => rfl⟩

end Escape

open Escape

variable {quote other c : Char} {state : Escape} {body rest more : Text}

theorem valueFrom_cons_congr (same : state.step quote c = state.step other c)
    (behind : ∀ read next, state.step other c = some (read, next) →
      valueFrom quote next rest = valueFrom other next more) :
    valueFrom quote state (c :: rest) = valueFrom other state (c :: more) := by
  cases steps : state.step other c with
  | none => simp only [valueFrom, same, steps, Option.bind_none]
  | some outcome =>
      have next := behind outcome.1 outcome.2 steps
      simp only [valueFrom, same, steps, Option.bind_some, next]

/-- Both values are read in step. The quote that is given a backslash is read as one escape sequence,
which only goes on in front of it; all else is read alike. -/
theorem valueFrom_betweenSingleQuotes (isBody : IsBody quote body) (isQuote : quote ≠ '\\')
    (closed : state.isOpened = false) :
    valueFrom '\'' state (betweenSingleQuotes body) = valueFrom quote state body := by
  induction isBody generalizing state with
  | nil => rfl
  | @escape c rest _ ih =>
      rw [betweenSingleQuotes_escape]
      apply valueFrom_cons_congr (step_eq_step (by decide) isQuote.symm)
      intro read next opens
      have backslash : (state.step quote '\\' = some ([], opened) ∧ _) ∨ _ := step_backslash closed
      obtain rfl : next = opened := by
        cases backslash with
        | inl steps => exact (Prod.mk.inj (Option.some.inj (steps.1.symm.trans opens))).2.symm
        | inr stops => cases stops.1.symm.trans opens
      have same : opened.step '\'' c = opened.step quote c := rfl
      apply valueFrom_cons_congr same
      intro read next reads
      exact ih (reads_escaped reads).closes
  | @plain c rest noBackslash noQuote _ ih =>
      by_cases single : c = '\''
      · subst single
        have denotes : plain quote '\'' = some (codeUnits '\''.toNat, outside) :=
          plain_eq noBackslash noQuote (by decide)
        have backslash : (state.step '\'' '\\' = some ([], opened) ∧ _) ∨ _ := step_backslash closed
        have behind : valueFrom '\'' outside (betweenSingleQuotes rest) = valueFrom quote outside rest :=
          ih rfl
        rw [betweenSingleQuotes_quote]
        cases backslash with
        | inl steps =>
            have opens : opened.step '\'' '\'' = some (codeUnits '\''.toNat, outside) := rfl
            simp only [valueFrom, steps.1, steps.2 quote, denotes, opens, behind, Option.bind_some,
              List.nil_append, Option.map_id']
        | inr stops => simp [valueFrom, stops.1, stops.2 quote]
      · rw [betweenSingleQuotes_plain noBackslash single]
        apply valueFrom_cons_congr (step_eq_step single noQuote)
        intro read next reads
        exact ih (isOpened_of_step noBackslash reads)

/-- The body of a literal between either sort of quotes is made the body of a literal between single
quotes that denotes the same. -/
theorem betweenSingleQuotes_keeps_value :
    (∀ quote ∈ ['\'', '"'], ∀ body, IsBody quote body →
      IsBody '\'' (betweenSingleQuotes body) ∧
        value? '\'' (betweenSingleQuotes body) = value? quote body) ∧
      ∀ text, betweenSingleQuotes (betweenSingleQuotes text) = betweenSingleQuotes text := by
  constructor
  · intro quote isQuote body isBody
    have noBackslash : quote ≠ '\\' := by
      rintro rfl
      exact absurd isQuote (by decide)
    exact ⟨isBody_betweenSingleQuotes isBody, valueFrom_betweenSingleQuotes isBody noBackslash rfl⟩
  · exact escapeFrom_escapeFrom false

/-- An escape sequence, a single quote that needs none, and an escaped double quote. -/
theorem betweenSingleQuotes_keeps_mixed_body :
    IsBody '"' "\\x41'\\\"" ∧ betweenSingleQuotes "\\x41'\\\"" = "\\x41\\'\\\"".toList ∧
      IsBody '\'' "\\x41\\'\\\"" ∧
      value? '\'' "\\x41\\'\\\"" = some (units "A'\"") := by
  have isBody : IsBody '"' "\\x41'\\\"" :=
    .escape (.plain (by decide) (by decide) (.plain (by decide) (by decide)
      (.plain (by decide) (by decide) (.escape .nil))))
  have rewritten : betweenSingleQuotes "\\x41'\\\"" = "\\x41\\'\\\"".toList := by decide
  have denotes : value? '"' "\\x41'\\\"" = some (units "A'\"") := by decide
  obtain ⟨kept, same⟩ := betweenSingleQuotes_keeps_value.1 '"' (by decide) _ isBody
  rw [rewritten] at kept same
  exact ⟨isBody, rewritten, kept, same.trans denotes⟩

end Companion.StringBody
