import Companion.Proofs.Text.Words
import Companion.Syntax.Cursor
import Mathlib.Data.List.Infix

/-!
# White space and comments between tokens

What a cursor passes on its way to a token, said without a cursor: a run of white space, line comments
with their line ends, and block comments. It is passed in one go, and what it is made of tells whether it
is still such a run without its blanks.
-/

set_option autoImplicit false

namespace Companion.Syntax

inductive Trivium where
  | space (c : Char)
  | line (body : Text) (ending : Char)
  | block (body : Text)

namespace Trivium

def text : Trivium → Text
  | .space c => [c]
  | .line body ending => '/' :: '/' :: (body ++ [ending])
  | .block body => '/' :: '*' :: (body ++ ['*', '/'])

def IsFormed : Trivium → Prop
  | .space c => isSpace c = true
  | .line body ending => (∀ c ∈ body, endsLineComment c = false) ∧ endsLineComment ending = true
  | .block body => ¬['*', '/'] <:+: body

def isLine : Trivium → Bool
  | .line _ _ => true
  | _ => false

end Trivium

def IsTrivia (text : Text) : Prop :=
  ∃ pieces : List Trivium, (∀ piece ∈ pieces, piece.IsFormed) ∧ text = pieces.flatMap Trivium.text

/-- No white space and no comment opens the text. -/
def StartsToken (text : Text) : Prop := ∀ c ∈ text.head?, isSpace c = false ∧ c ≠ '/'

/-- A cursor behind another one, with the text between them. -/
structure Cursor.Passes (start : Cursor) (passed : Text) (stop : Cursor) : Prop where
  rest : start.rest = passed ++ stop.rest
  offset : stop.offset = start.offset + passed.length

variable {c : Char} {text passed rest body : Text} {start middle stop cursor : Cursor}
  {piece : Trivium} {pieces : List Trivium} {fuel : Nat}

namespace Cursor.Passes

theorem refl (cursor : Cursor) : cursor.Passes [] cursor := ⟨rfl, rfl⟩

theorem trans (first : start.Passes passed middle) (second : middle.Passes text stop) :
    start.Passes (passed ++ text) stop where
  rest := by rw [first.rest, second.rest, List.append_assoc]
  offset := by rw [second.offset, first.offset, List.length_append, Nat.add_assoc]

theorem textTo (passes : start.Passes passed stop) : start.textTo stop = passed := by
  rw [Cursor.textTo, passes.rest, passes.offset, Nat.add_sub_cancel_left, List.take_left]

theorem textTo_end (passes : start.Passes passed stop) (atEnd : stop.rest = []) :
    start.textTo stop = start.rest := by
  rw [passes.textTo, passes.rest, atEnd, List.append_nil]

end Cursor.Passes

namespace Cursor

theorem passes_skip (cursor : Cursor) (length : Nat) :
    cursor.Passes (cursor.rest.take length) (cursor.skip length) :=
  ⟨(List.take_append_drop length cursor.rest).symm, rfl⟩

theorem passes_passComment (cursor : Cursor) (length : Nat) :
    cursor.Passes (cursor.rest.take length) (cursor.passComment length) :=
  ⟨(List.take_append_drop length cursor.rest).symm, rfl⟩

theorem passes_advance (ahead : cursor.rest = c :: rest) : cursor.Passes [c] cursor.advance := by
  constructor <;> simp [advance, ahead]

/-! ## Comments -/

theorem isSpace_of_endsLineComment (ends : endsLineComment c = true) : isSpace c = true := by
  simp only [endsLineComment, Bool.or_eq_true, decide_eq_true_eq] at ends
  rcases ends with ((rfl | rfl) | code) | code
  · decide
  · decide
  · simp [isSpace, code]
  · simp [isSpace, code]

theorem blockCommentLength_cons (goesOn : ¬(c = '*' ∧ rest.head? = some '/')) :
    blockCommentLength (c :: rest) = (blockCommentLength rest).map (· + 1) := by
  rw [blockCommentLength.eq_def]
  split
  · next ends => cases ends
  · next ends =>
    obtain ⟨rfl, rfl⟩ := List.cons_eq_cons.mp ends
    exact absurd ⟨rfl, rfl⟩ goesOn
  · next same =>
    obtain ⟨rfl, rfl⟩ := List.cons_eq_cons.mp same
    rfl

theorem blockCommentLength_append (formed : ¬['*', '/'] <:+: body) (rest : Text) :
    blockCommentLength (body ++ '*' :: '/' :: rest) = some (body.length + 2) := by
  induction body with
  | nil => rfl
  | cons c more ih =>
      have inside : ¬['*', '/'] <:+: more :=
        fun inside => formed (inside.trans (List.suffix_cons c more).isInfix)
      have goesOn : ¬(c = '*' ∧ (more ++ '*' :: '/' :: rest).head? = some '/') := by
        intro ends
        obtain ⟨rfl, ends⟩ := ends
        cases more with
        | nil => cases ends
        | cons d others =>
            obtain rfl : d = '/' := Option.some.inj ends
            exact formed (List.prefix_append ['*', '/'] others).isInfix
      rw [List.cons_append, blockCommentLength_cons goesOn, ih inside]
      rfl

theorem commentLength_block (formed : ¬['*', '/'] <:+: body) (rest : Text) :
    commentLength ((Trivium.block body).text ++ rest) = some (Trivium.block body).text.length := by
  have opened : (Trivium.block body).text ++ rest = '/' :: '*' :: (body ++ '*' :: '/' :: rest) := by
    simp [Trivium.text]
  rw [opened, commentLength, blockCommentLength_append formed]
  simp [Trivium.text]

theorem commentLength_line (inLine : ∀ c ∈ body, endsLineComment c = false) (rest : Text)
    (ends : ∀ c ∈ rest.head?, endsLineComment c = true) :
    commentLength ('/' :: '/' :: (body ++ rest)) = some (2 + body.length) := by
  have passes : ∀ c ∈ body, (!endsLineComment c) = true := by simpa using inLine
  have taken : (body ++ rest).takeWhile (fun c => !endsLineComment c) = body := by
    rw [List.takeWhile_append_of_pos passes]
    cases rest with
    | nil => simp
    | cons c more => simp [ends c rfl]
  rw [commentLength, taken]

/-! ## Passing -/

theorem skipTriviaWithin_space (ahead : cursor.rest = c :: rest) (space : isSpace c = true) :
    skipTriviaWithin (fuel + 1) cursor = skipTriviaWithin fuel cursor.advance := by
  simp [skipTriviaWithin, ahead, space]

theorem skipTriviaWithin_comment {length : Nat} (comment : commentLength cursor.rest = some length) :
    skipTriviaWithin (fuel + 1) cursor = skipTriviaWithin fuel (cursor.passComment length) := by
  obtain ⟨rest, opened⟩ : ∃ rest, cursor.rest = '/' :: rest := by
    cases ahead : cursor.rest with
    | nil => rw [ahead] at comment; cases comment
    | cons c rest =>
        rw [ahead, commentLength.eq_def] at comment
        split at comment
        · next same => exact ⟨rest, by rw [(List.cons_eq_cons.mp same).1]⟩
        · next same => exact ⟨rest, by rw [(List.cons_eq_cons.mp same).1]⟩
        · cases comment
  have noSpace : isSpace '/' = false := by decide
  rw [opened] at comment
  simp [skipTriviaWithin, opened, noSpace, comment]

theorem skipTriviaWithin_token (starts : StartsToken cursor.rest) (fuel : Nat) :
    skipTriviaWithin fuel cursor = cursor := by
  cases fuel with
  | zero => rfl
  | succ fuel =>
      rw [skipTriviaWithin]
      cases ahead : cursor.rest with
      | nil => rfl
      | cons c rest =>
          obtain ⟨noSpace, noSlash⟩ := starts c (by rw [ahead]; rfl)
          have noComment : commentLength (c :: rest) = none := by
            rw [commentLength.eq_def]
            split
            · next same => exact absurd (List.cons_eq_cons.mp same).1 noSlash
            · next same => exact absurd (List.cons_eq_cons.mp same).1 noSlash
            · rfl
          simp [noSpace, noComment]

theorem skipTrivia_token (starts : StartsToken cursor.rest) : cursor.skipTrivia = cursor :=
  skipTriviaWithin_token starts _

theorem passes_passComment_append (ahead : cursor.rest = passed ++ rest) :
    cursor.Passes passed (cursor.passComment passed.length) := by
  have passes := passes_passComment cursor passed.length
  rwa [ahead, List.take_left] at passes

theorem Passes.rest_eq (passes : start.Passes passed stop) (ahead : start.rest = passed ++ rest) :
    stop.rest = rest :=
  List.append_cancel_left (passes.rest.symm.trans ahead)

/-- A piece is passed with at most as much fuel as it has characters. -/
theorem exists_skipTriviaWithin_piece (formed : piece.IsFormed) (ahead : cursor.rest = piece.text ++ rest)
    (enough : piece.text.length ≤ fuel) : ∃ stop fuel', cursor.Passes piece.text stop ∧
      fuel ≤ fuel' + piece.text.length ∧ skipTriviaWithin fuel cursor = skipTriviaWithin fuel' stop := by
  cases piece with
  | space c =>
      obtain ⟨less, rfl⟩ : ∃ less, fuel = less + 1 := Nat.exists_eq_add_of_le' enough
      exact ⟨_, less, passes_advance ahead, Nat.le_refl _, skipTriviaWithin_space ahead formed⟩
  | block body =>
      obtain ⟨less, rfl⟩ : ∃ less, fuel = less + 1 :=
        Nat.exists_eq_add_of_le' ((Nat.succ_le_succ (Nat.zero_le _)).trans enough)
      have comment : commentLength cursor.rest = some (Trivium.block body).text.length :=
        ahead ▸ commentLength_block formed rest
      refine ⟨_, less, passes_passComment_append ahead, ?_, skipTriviaWithin_comment comment⟩
      exact Nat.add_le_add_left (Nat.succ_le_succ (Nat.zero_le _)) less
  | line body ending =>
      obtain ⟨inLine, ends⟩ := formed
      obtain ⟨less, rfl⟩ : ∃ less, fuel = less + 2 :=
        Nat.exists_eq_add_of_le' ((Nat.le_add_left 2 _).trans enough)
      have opened : cursor.rest = ('/' :: '/' :: body) ++ ending :: rest := by
        simp [ahead, Trivium.text]
      have comment : commentLength cursor.rest = some ('/' :: '/' :: body).length := by
        rw [opened]
        exact (commentLength_line inLine _ (by simpa using ends)).trans (by simp; omega)
      have first := passes_passComment_append opened
      have second := passes_advance (first.rest_eq opened)
      refine ⟨_, less, first.trans second, ?_, ?_⟩
      · exact Nat.add_le_add_left (Nat.le_add_left 2 _) less
      · rw [skipTriviaWithin_comment comment,
          skipTriviaWithin_space (first.rest_eq opened) (isSpace_of_endsLineComment ends)]

theorem exists_skipTriviaWithin_pieces (formed : ∀ piece ∈ pieces, piece.IsFormed)
    (ahead : cursor.rest = pieces.flatMap Trivium.text ++ rest)
    (enough : (pieces.flatMap Trivium.text).length ≤ fuel) :
    ∃ stop fuel', cursor.Passes (pieces.flatMap Trivium.text) stop ∧
      fuel ≤ fuel' + (pieces.flatMap Trivium.text).length ∧
        skipTriviaWithin fuel cursor = skipTriviaWithin fuel' stop := by
  induction pieces generalizing cursor fuel with
  | nil => exact ⟨cursor, fuel, Passes.refl cursor, Nat.le_refl _, rfl⟩
  | cons piece more ih =>
      obtain ⟨formedFirst, formed⟩ := List.forall_mem_cons.mp formed
      simp only [List.flatMap_cons, List.append_assoc, List.length_append] at ahead enough ⊢
      have enoughFirst : piece.text.length ≤ fuel := by omega
      obtain ⟨middle, between, first, bound, same⟩ :=
        exists_skipTriviaWithin_piece formedFirst ahead enoughFirst
      have enoughBehind : (more.flatMap Trivium.text).length ≤ between := by omega
      obtain ⟨stop, fuel', second, boundBehind, sameBehind⟩ :=
        ih formed (first.rest_eq ahead) enoughBehind
      exact ⟨stop, fuel', first.trans second, by omega, same.trans sameBehind⟩

theorem exists_skipTrivia_eq (trivia : IsTrivia passed) (ahead : cursor.rest = passed ++ rest) :
    ∃ stop fuel, cursor.Passes passed stop ∧ stop.rest = rest ∧ rest.length ≤ fuel ∧
      cursor.skipTrivia = skipTriviaWithin fuel stop := by
  obtain ⟨pieces, formed, rfl⟩ := trivia
  have length := congrArg List.length ahead
  rw [List.length_append] at length
  have enough : (pieces.flatMap Trivium.text).length ≤ cursor.rest.length := by omega
  obtain ⟨stop, fuel, passes, bound, same⟩ := exists_skipTriviaWithin_pieces formed ahead enough
  exact ⟨stop, fuel, passes, passes.rest_eq ahead, by omega, same⟩

/-- White space and comments are passed up to the token behind them. -/
theorem passes_skipTrivia (trivia : IsTrivia passed) (starts : StartsToken rest)
    (ahead : cursor.rest = passed ++ rest) : cursor.Passes passed cursor.skipTrivia := by
  obtain ⟨stop, fuel, passes, behind, -, same⟩ := exists_skipTrivia_eq trivia ahead
  rw [← behind] at starts
  rw [same, skipTriviaWithin_token starts]
  exact passes

theorem exists_passes_skipTriviaWithin (fuel : Nat) (cursor : Cursor) :
    ∃ passed, cursor.Passes passed (skipTriviaWithin fuel cursor) := by
  induction fuel generalizing cursor with
  | zero => exact ⟨[], Passes.refl cursor⟩
  | succ fuel ih =>
      rw [skipTriviaWithin]
      split
      · exact ⟨[], Passes.refl cursor⟩
      · next c rest ahead =>
        split
        · obtain ⟨passed, behind⟩ := ih cursor.advance
          exact ⟨_, (passes_advance ahead).trans behind⟩
        · split
          · next length _ =>
            obtain ⟨passed, behind⟩ := ih (cursor.passComment length)
            exact ⟨_, (passes_passComment cursor length).trans behind⟩
          · exact ⟨[], Passes.refl cursor⟩

theorem exists_passes_skipTrivia (cursor : Cursor) : ∃ passed, cursor.Passes passed cursor.skipTrivia :=
  exists_passes_skipTriviaWithin cursor.rest.length cursor

/-- Without a line end a line comment goes on to the end. -/
theorem rest_skipTrivia_line (trivia : IsTrivia passed) (inLine : ∀ c ∈ rest, endsLineComment c = false)
    (ahead : cursor.rest = passed ++ '/' :: '/' :: rest) : cursor.skipTrivia.rest = [] := by
  obtain ⟨stop, fuel, -, behind, bound, same⟩ := exists_skipTrivia_eq trivia ahead
  obtain ⟨less, rfl⟩ : ∃ less, fuel = less + 1 :=
    Nat.exists_eq_add_of_le' ((Nat.succ_le_succ (Nat.zero_le _)).trans bound)
  have comment : commentLength stop.rest = some (2 + rest.length) := by
    have toEnd := commentLength_line inLine [] nofun
    rwa [List.append_nil, ← behind] at toEnd
  have none : (stop.passComment (2 + rest.length)).rest = [] := by
    have dropped : stop.rest.drop (2 + rest.length) = [] :=
      List.drop_eq_nil_of_le (by simp [behind]; omega)
    exact dropped
  have atEnd : StartsToken (stop.passComment (2 + rest.length)).rest := by
    rw [none]
    exact nofun
  rw [same, skipTriviaWithin_comment comment, skipTriviaWithin_token atEnd]
  exact none

end Cursor

/-! ## Without blanks -/

open Text

theorem isTrivia_nil : IsTrivia [] := ⟨[], List.forall_mem_nil _, rfl⟩

theorem IsTrivia.append (first : IsTrivia text) (second : IsTrivia rest) : IsTrivia (text ++ rest) := by
  obtain ⟨pieces, formed, rfl⟩ := first
  obtain ⟨more, formedMore, rfl⟩ := second
  exact ⟨pieces ++ more, List.forall_mem_append.mpr ⟨formed, formedMore⟩, List.flatMap_append.symm⟩

theorem Trivium.IsFormed.isTrivia (formed : piece.IsFormed) : IsTrivia piece.text :=
  ⟨[piece], List.forall_mem_singleton.mpr formed, (List.append_nil _).symm⟩

theorem isBlank_of_endsLineComment (ends : endsLineComment c = true) : isBlank c = true := by
  simp only [endsLineComment, Bool.or_eq_true, decide_eq_true_eq] at ends
  rcases ends with ((rfl | rfl) | code) | code
  · decide
  · decide
  · simp [isBlank, code]
  · simp [isBlank, code]

theorem inLine_squeeze (text : Text) : ∀ c ∈ squeeze text, endsLineComment c = false := by
  intro c member
  have visible : isBlank c = false := by simpa using (List.mem_filter.mp member).2
  cases ends : endsLineComment c with
  | false => rfl
  | true => exact absurd (isBlank_of_endsLineComment ends) (by simp [visible])

/-- No block comment ends earlier once its blanks are gone. -/
def StayClosed (pieces : List Trivium) : Prop :=
  ∀ body, .block body ∈ pieces → ¬['*', '/'] <:+: squeeze body

theorem isTrivia_squeeze_piece (formed : piece.IsFormed) (noLine : piece.isLine = false)
    (closed : StayClosed [piece]) : IsTrivia (squeeze piece.text) := by
  cases piece with
  | line body ending => cases noLine
  | space c =>
      cases blank : isBlank c with
      | true =>
          have none : squeeze [c] = [] := by simp [squeeze, blank]
          rw [Trivium.text, none]
          exact isTrivia_nil
      | false =>
          have same : squeeze [c] = [c] := by simp [squeeze, blank]
          rw [Trivium.text, same]
          exact formed.isTrivia
  | block body =>
      have squeezed : squeeze (Trivium.block body).text = (Trivium.block (squeeze body)).text := by
        have slash : isBlank '/' = false := by decide
        have star : isBlank '*' = false := by decide
        simp [Trivium.text, squeeze, slash, star]
      rw [squeezed]
      have formed : (Trivium.block (squeeze body)).IsFormed := closed body List.mem_cons_self
      exact formed.isTrivia

theorem isTrivia_squeeze (formed : ∀ piece ∈ pieces, piece.IsFormed)
    (noLine : ∀ piece ∈ pieces, piece.isLine = false) (closed : StayClosed pieces) :
    IsTrivia (squeeze (pieces.flatMap Trivium.text)) := by
  induction pieces with
  | nil => exact isTrivia_nil
  | cons piece more ih =>
      obtain ⟨formedFirst, formed⟩ := List.forall_mem_cons.mp formed
      obtain ⟨first, noLine⟩ := List.forall_mem_cons.mp noLine
      have closedFirst : StayClosed [piece] := fun body member =>
        closed body (List.mem_singleton.mp member ▸ List.mem_cons_self)
      have closedMore : StayClosed more := fun body member =>
        closed body (List.mem_cons_of_mem piece member)
      rw [List.flatMap_cons, squeeze, List.filter_append]
      exact (isTrivia_squeeze_piece formedFirst first closedFirst).append (ih formed noLine closedMore)

/-- A line comment loses its line end, so that nothing stands behind it any more. -/
theorem not_isTrivia_line (trivia : IsTrivia text) (inLine : ∀ c ∈ rest, endsLineComment c = false) :
    ¬IsTrivia (text ++ '/' :: '/' :: rest) := by
  intro whole
  have digit : StartsToken ['0'] := by simp [StartsToken, isSpace]
  let cursor : Cursor := ⟨text ++ '/' :: '/' :: rest ++ ['0'], 0, 1, []⟩
  have reached : cursor.skipTrivia.rest = ['0'] :=
    (Cursor.passes_skipTrivia whole digit rfl).rest_eq rfl
  have inLine : ∀ c ∈ rest ++ ['0'], endsLineComment c = false :=
    List.forall_mem_append.mpr ⟨inLine, List.forall_mem_singleton.mpr rfl⟩
  have swallowed : cursor.skipTrivia.rest = [] :=
    Cursor.rest_skipTrivia_line trivia inLine (by simp [cursor])
  rw [swallowed] at reached
  cases reached

theorem isTrivia_squeeze_iff (formed : ∀ piece ∈ pieces, piece.IsFormed) (closed : StayClosed pieces) :
    IsTrivia (squeeze (pieces.flatMap Trivium.text)) ↔ ∀ piece ∈ pieces, piece.isLine = false := by
  constructor
  · intro trivia
    by_contra someLine
    obtain ⟨piece, found⟩ : ∃ piece, pieces.find? Trivium.isLine = some piece := by
      simpa [← Option.isSome_iff_exists, List.find?_isSome] using someLine
    -- up to the first line comment, what is left is white space and comments
    obtain ⟨isLine, front, back, rfl, noLine⟩ := List.find?_eq_some_iff_append.mp found
    have before : IsTrivia (squeeze (front.flatMap Trivium.text)) :=
      isTrivia_squeeze (fun piece member => formed piece (List.mem_append_left _ member))
        (fun piece member => by simpa using noLine piece member)
        fun body member => closed body (List.mem_append_left _ member)
    cases piece with
    | space c => cases isLine
    | block body => cases isLine
    | line body ending =>
        have slash : isBlank '/' = false := by decide
        have cut : squeeze ((front ++ .line body ending :: back).flatMap Trivium.text) =
            squeeze (front.flatMap Trivium.text) ++
              '/' :: '/' :: squeeze (body ++ ending :: back.flatMap Trivium.text) := by
          simp [squeeze, Trivium.text, slash]
        exact not_isTrivia_line before (inLine_squeeze _) (cut ▸ trivia)
  · intro noLine
    exact isTrivia_squeeze formed noLine closed

end Companion.Syntax
