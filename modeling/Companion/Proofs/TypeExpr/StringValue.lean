import Companion.Proofs.TypeExpr.Spelling
import Companion.Value.Reader

/-!
# Values of string literals

What the body of a string literal denotes: a sequence of UTF-16 code units, read character by character
with a state that tells how far an escape sequence has been read. A body is no body of a literal if it
holds its quote, a line feed or a carriage return unescaped, or an escape sequence that is none.
-/

set_option autoImplicit false

namespace Companion.StringBody

/-- The UTF-16 code units of a code point. -/
def codeUnits (code : Nat) : List Nat :=
  if code < 0x10000 then [code]
  else [0xD800 + (code - 0x10000) / 0x400, 0xDC00 + (code - 0x10000) % 0x400]

def units (text : Text) : List Nat := text.flatMap fun c => codeUnits c.toNat

/-- How far an escape sequence has been read. -/
inductive Escape where
  | outside
  /-- Behind a backslash. -/
  | opened
  /-- Behind `\0`, which no digit may follow. -/
  | zero
  /-- Behind an escaped carriage return, which a line feed may follow. -/
  | carriageReturn
  /-- At hexadecimal digits, so many of them being missing behind the next one. -/
  | digits (missing code : Nat)
  /-- Behind `\u`. -/
  | unicode
  /-- Between the braces of `\u`, where at least one digit has to stand. -/
  | braces (code : Option Nat)
deriving DecidableEq

namespace Escape

def plain (quote c : Char) : Option (List Nat × Escape) :=
  if c = '\\' then some ([], opened)
  else if c = quote ∨ c = '\n' ∨ c = '\r' then none
  else some (codeUnits c.toNat, outside)

/-- A character behind a backslash. Line ends are dropped. -/
def escaped (c : Char) : Option (List Nat × Escape) :=
  if c = 'x' then some ([], digits 1 0)
  else if c = 'u' then some ([], unicode)
  else if c = '0' then some ([0], zero)
  else if isAsciiDigit c then none
  else if c = '\r' then some ([], carriageReturn)
  else if c = '\n' ∨ c = '\u2028' ∨ c = '\u2029' then some ([], outside)
  else
    let code :=
      match c with
      | 'b' => 0x8
      | 't' => 0x9
      | 'n' => 0xA
      | 'v' => 0xB
      | 'f' => 0xC
      | 'r' => 0xD
      | c => c.toNat
    some (codeUnits code, outside)

/-- The code units that the next character completes, and how far is read then. -/
def step (quote : Char) : Escape → Char → Option (List Nat × Escape)
  | outside, c => plain quote c
  | opened, c => escaped c
  | zero, c => if isAsciiDigit c then none else plain quote c
  | carriageReturn, c => if c = '\n' then some ([], outside) else plain quote c
  | digits 0 code, c => (Value.hexDigit? c).map fun digit => ([16 * code + digit], outside)
  | digits (missing + 1) code, c =>
    (Value.hexDigit? c).map fun digit => ([], digits missing (16 * code + digit))
  | unicode, c =>
    if c = '\x7b' then some ([], braces none)
    else (Value.hexDigit? c).map fun digit => ([], digits 2 digit)
  | braces code, c =>
    if c = '\x7d' then code.map fun code => (codeUnits code, outside)
    else (Value.hexDigit? c).bind fun digit =>
      let code := 16 * code.getD 0 + digit
      if code ≤ 0x10FFFF then some ([], braces (some code)) else none

def mayEnd : Escape → Bool
  | outside | zero | carriageReturn => true
  | _ => false

end Escape

def valueFrom (quote : Char) : Escape → Text → Option (List Nat)
  | state, [] => if state.mayEnd then some [] else none
  | state, c :: rest =>
    (state.step quote c).bind fun (units, next) => (valueFrom quote next rest).map (units ++ ·)

/-- What the literal with a body between two quotes denotes, if it is one. -/
def value? (quote : Char) (body : Text) : Option (List Nat) := valueFrom quote .outside body

open Escape

variable {quote c : Char} {state next : Escape} {body : Text} {value read : List Nat}

/-! ## Steps -/

theorem hexDigit?_ne {digit : Nat} (isDigit : Value.hexDigit? c = some digit) :
    c ≠ '\\' ∧ c ≠ '\'' := by
  constructor
  · intro same
    subst same
    cases isDigit
  · intro same
    subst same
    cases isDigit

theorem length_codeUnits (code : Nat) :
    1 ≤ (codeUnits code).length ∧ (codeUnits code).length ≤ 2 := by
  unfold codeUnits
  split
  · exact ⟨Nat.le_refl 1, Nat.le_succ 1⟩
  · exact ⟨Nat.le_succ 1, Nat.le_refl 2⟩

namespace Escape

def isOpened (state : Escape) : Bool := state = .opened

/-- The code units that an escape sequence may be longer than its last character: a code point in
braces may take two, its closing brace takes one. -/
def owed : Escape → Nat
  | .braces _ => 1
  | _ => 0

/-- A character that belongs to an escape sequence, whatever the quotes of the literal are. -/
structure Reads (state : Escape) (c : Char) (read : List Nat) (next : Escape) : Prop where
  steps : ∀ quote, state.step quote c = some (read, next)
  closes : next.isOpened = false
  clean : state.isOpened = false → c ≠ '\\' ∧ c ≠ '\''
  length : read.length + next.owed ≤ (codeUnits c.toNat).length + state.owed

theorem reads_escaped (steps : escaped c = some (read, next)) : opened.Reads c read next := by
  have oneUnit := (length_codeUnits c.toNat).1
  have outcome : next.isOpened = false ∧ next.owed = 0 ∧
      read.length ≤ (codeUnits c.toNat).length := by
    unfold escaped at steps
    split at steps
    · obtain ⟨rfl, rfl⟩ := Prod.mk.inj (Option.some.inj steps)
      exact ⟨rfl, rfl, Nat.zero_le _⟩
    · split at steps
      · obtain ⟨rfl, rfl⟩ := Prod.mk.inj (Option.some.inj steps)
        exact ⟨rfl, rfl, Nat.zero_le _⟩
      · split at steps
        · obtain ⟨rfl, rfl⟩ := Prod.mk.inj (Option.some.inj steps)
          exact ⟨rfl, rfl, oneUnit⟩
        · split at steps
          · cases steps
          · split at steps
            · obtain ⟨rfl, rfl⟩ := Prod.mk.inj (Option.some.inj steps)
              exact ⟨rfl, rfl, Nat.zero_le _⟩
            · split at steps
              · obtain ⟨rfl, rfl⟩ := Prod.mk.inj (Option.some.inj steps)
                exact ⟨rfl, rfl, Nat.zero_le _⟩
              · obtain ⟨rfl, rfl⟩ := Prod.mk.inj (Option.some.inj steps)
                refine ⟨rfl, rfl, ?_⟩
                split
                all_goals exact Nat.le_refl _
  exact ⟨fun _ => steps, outcome.1, nofun, by rw [outcome.2.1]; exact outcome.2.2⟩

theorem reads_digit {digit : Nat} (isDigit : Value.hexDigit? c = some digit)
    (steps : ∀ quote, state.step quote c = some (read, next)) (closes : next.isOpened = false)
    (length : read.length + next.owed ≤ 1 + state.owed) : state.Reads c read next := by
  refine ⟨steps, closes, fun _ => hexDigit?_ne isDigit, ?_⟩
  exact Nat.le_trans length (Nat.add_le_add_right (length_codeUnits c.toNat).1 _)

/-- A character is read outside of escape sequences, or it belongs to one. -/
theorem step_cases (steps : state.step quote c = some (read, next)) :
    (state.isOpened = false ∧ ∀ quote, state.step quote c = plain quote c) ∨
      state.Reads c read next := by
  cases state with
  | outside => exact .inl ⟨rfl, fun quote => rfl⟩
  | opened => exact .inr (reads_escaped steps)
  | zero =>
      cases digit : isAsciiDigit c with
      | true => simp [step, digit] at steps
      | false => exact .inl ⟨rfl, fun quote => by simp [step, digit]⟩
  | carriageReturn =>
      by_cases feed : c = '\n'
      · right
        subst feed
        obtain ⟨rfl, rfl⟩ := Prod.mk.inj (Option.some.inj steps)
        exact ⟨fun _ => rfl, rfl, fun _ => by decide, by decide⟩
      · exact .inl ⟨rfl, fun quote => by simp [step, feed]⟩
  | digits missing code =>
      right
      cases missing with
      | zero =>
          obtain ⟨digit, isDigit, made⟩ := Option.map_eq_some_iff.mp steps
          obtain ⟨rfl, rfl⟩ := Prod.mk.inj made
          exact reads_digit isDigit (fun _ => steps) rfl (Nat.le_refl 1)
      | succ missing =>
          obtain ⟨digit, isDigit, made⟩ := Option.map_eq_some_iff.mp steps
          obtain ⟨rfl, rfl⟩ := Prod.mk.inj made
          exact reads_digit isDigit (fun _ => steps) rfl (Nat.zero_le _)
  | unicode =>
      right
      by_cases opens : c = '\x7b'
      · subst opens
        obtain ⟨rfl, rfl⟩ := Prod.mk.inj (Option.some.inj steps)
        exact ⟨fun _ => rfl, rfl, fun _ => by decide, by decide⟩
      · obtain ⟨digit, isDigit, made⟩ := Option.map_eq_some_iff.mp
          ((if_neg opens).symm.trans steps)
        obtain ⟨rfl, rfl⟩ := Prod.mk.inj made
        exact reads_digit isDigit (fun _ => steps) rfl (Nat.zero_le _)
  | braces code =>
      right
      by_cases closes : c = '\x7d'
      · subst closes
        obtain ⟨point, -, made⟩ := Option.map_eq_some_iff.mp steps
        obtain ⟨rfl, rfl⟩ := Prod.mk.inj made
        exact ⟨fun _ => steps, rfl, fun _ => by decide, (length_codeUnits point).2⟩
      · obtain ⟨digit, isDigit, made⟩ := Option.bind_eq_some_iff.mp
          ((if_neg closes).symm.trans steps)
        dsimp only at made
        split at made
        · obtain ⟨rfl, rfl⟩ := Prod.mk.inj (Option.some.inj made)
          exact reads_digit isDigit (fun _ => steps) rfl (Nat.le_add_left _ _)
        · cases made

theorem plain_cases (steps : plain quote c = some (read, next)) :
    (c = '\\' ∧ read = [] ∧ next = .opened) ∨
      (c ≠ '\\' ∧ c ≠ quote ∧ c ≠ '\n' ∧ c ≠ '\r') ∧ read = codeUnits c.toNat ∧ next = .outside := by
  unfold plain at steps
  split at steps
  · next opens =>
    obtain ⟨rfl, rfl⟩ := Prod.mk.inj (Option.some.inj steps)
    exact .inl ⟨opens, rfl, rfl⟩
  · next other =>
    split at steps
    · cases steps
    · next allowed =>
      obtain ⟨rfl, rfl⟩ := Prod.mk.inj (Option.some.inj steps)
      simp only [not_or] at allowed
      exact .inr ⟨⟨other, allowed⟩, rfl, rfl⟩

theorem plain_eq (other : c ≠ '\\') (noQuote : c ≠ quote) (inLine : c ≠ '\n' ∧ c ≠ '\r') :
    plain quote c = some (codeUnits c.toNat, .outside) := by
  rw [plain, if_neg other, if_neg (by simp [noQuote, inLine])]

end Escape

/-! ## Values -/

theorem valueFrom_cons_eq_some_iff {rest : Text} :
    valueFrom quote state (c :: rest) = some value ↔ ∃ read next behind,
      state.step quote c = some (read, next) ∧ valueFrom quote next rest = some behind ∧
        value = read ++ behind := by
  simp only [valueFrom, Option.bind_eq_some_iff, Option.map_eq_some_iff, Prod.exists]
  constructor
  · intro reads
    obtain ⟨read, next, steps, behind, readsRest, whole⟩ := reads
    exact ⟨read, next, behind, steps, readsRest, whole.symm⟩
  · intro reads
    obtain ⟨read, next, behind, steps, readsRest, whole⟩ := reads
    exact ⟨read, next, steps, behind, readsRest, whole.symm⟩

/-- Between single quotes the value is the same, as long as no single quote stands outside of escape
sequences. -/
theorem valueFrom_single_iff (reads : valueFrom quote state body = some value) :
    valueFrom '\'' state body = some value ↔ isClosedFrom state.isOpened body = true := by
  induction body generalizing state value with
  | nil =>
      have closed : state.mayEnd = true → state.isOpened = false := by
        cases state <;> simp [mayEnd, isOpened]
      cases ends : state.mayEnd with
      | false => simp [valueFrom, ends] at reads
      | true =>
          rw [closed ends]
          exact iff_of_true reads rfl
  | cons c rest ih =>
      obtain ⟨read, next, behind, steps, readsRest, rfl⟩ := valueFrom_cons_eq_some_iff.mp reads
      have same := ih readsRest
      have continues : state.step '\'' c = some (read, next) →
          (valueFrom '\'' state (c :: rest) = some (read ++ behind) ↔
            valueFrom '\'' next rest = some behind) := by
        intro steps
        simp [valueFrom, steps]
      cases step_cases steps with
      | inl isPlain =>
          obtain ⟨closed, isPlain⟩ := isPlain
          rw [isPlain] at steps
          cases plain_cases steps with
          | inl opens =>
              obtain ⟨rfl, rfl, rfl⟩ := opens
              rw [continues ((isPlain _).trans steps), same, closed]
              simp [isClosedFrom, isOpened]
          | inr reads =>
              obtain ⟨⟨other, -, inLine⟩, rfl, rfl⟩ := reads
              by_cases isQuote : c = '\''
              · subst isQuote
                simp [valueFrom, isPlain, plain, closed, isClosedFrom]
              · rw [continues ((isPlain _).trans (plain_eq other isQuote inLine)), same, closed]
                simp [isClosedFrom, isOpened, other, isQuote]
      | inr escape =>
          rw [continues (escape.steps _), same, escape.closes]
          cases opened : state.isOpened with
          | true => rfl
          | false =>
              obtain ⟨noBackslash, noQuote⟩ := escape.clean opened
              simp [isClosedFrom, noBackslash, noQuote]

theorem value?_single_iff (reads : value? quote body = some value) :
    value? '\'' body = some value ↔ isClosedFrom false body = true :=
  valueFrom_single_iff reads

/-- Escape sequences are longer than what they denote. -/
theorem length_valueFrom (reads : valueFrom quote state body = some value) :
    value.length ≤ (units body).length + state.owed := by
  induction body generalizing state value with
  | nil =>
      cases ends : state.mayEnd with
      | false => simp [valueFrom, ends] at reads
      | true =>
          rw [valueFrom, if_pos ends] at reads
          obtain rfl := Option.some.inj reads
          exact Nat.zero_le _
  | cons c rest ih =>
      obtain ⟨read, next, behind, steps, readsRest, rfl⟩ := valueFrom_cons_eq_some_iff.mp reads
      have shorter := ih readsRest
      have length : read.length + next.owed ≤ (codeUnits c.toNat).length + state.owed := by
        cases step_cases steps with
        | inl isPlain =>
            rw [isPlain.2] at steps
            cases plain_cases steps with
            | inl opens =>
                obtain ⟨-, rfl, rfl⟩ := opens
                exact Nat.zero_le _
            | inr reads =>
                obtain ⟨-, rfl, rfl⟩ := reads
                exact Nat.le_add_right _ _
        | inr escape => exact escape.length
      rw [units, List.flatMap_cons, List.length_append, List.length_append, ← units]
      omega

/-- Only what needs no escape sequence denotes itself. -/
theorem value?_eq_units_iff : value? quote body = some (units body) ↔
    ∀ c ∈ body, c ≠ '\\' ∧ c ≠ quote ∧ c ≠ '\n' ∧ c ≠ '\r' := by
  induction body with
  | nil => exact iff_of_true rfl (List.forall_mem_nil _)
  | cons c rest ih =>
      rw [List.forall_mem_cons, ← ih]
      constructor
      · intro reads
        obtain ⟨read, next, behind, steps, readsRest, whole⟩ := valueFrom_cons_eq_some_iff.mp reads
        cases plain_cases steps with
        | inl opens =>
            obtain ⟨-, rfl, rfl⟩ := opens
            have shorter := length_valueFrom readsRest
            have some := (length_codeUnits c.toNat).1
            have lengths := congrArg List.length whole
            rw [units, List.flatMap_cons, ← units, List.length_append] at lengths
            simp only [owed, List.nil_append] at lengths shorter
            omega
        | inr reads =>
            obtain ⟨allowed, rfl, rfl⟩ := reads
            rw [units, List.flatMap_cons, ← units] at whole
            exact ⟨allowed, readsRest.trans (congrArg _ (List.append_cancel_left whole).symm)⟩
      · intro allowed
        obtain ⟨⟨other, noQuote, inLine⟩, reads⟩ := allowed
        rw [value?] at reads ⊢
        rw [valueFrom, step, plain_eq other noQuote inLine]
        simp [reads, units]

example : value? '\'' "it\\'s \\x41" = some (units "it's A") ∧ value? '\'' "./it's.ppx" = none ∧
    value? '"' "./it's.ppx" = some (units "./it's.ppx") := by decide

end Companion.StringBody
