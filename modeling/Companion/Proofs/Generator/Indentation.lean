import Companion.Proofs.Generator.Binding
import Companion.Proofs.Generator.Layout
import Companion.Proofs.TypeExpr.Spelling

/-!
# Indentation

An expression consists of pieces: what opens an object, what closes one, line breaks and the texts in
between. The pieces say nothing about indentation, yet they decide it: each line is indented by two
spaces for every object that was opened on the lines above it and is still open, the object that the
line starts by closing not being counted. This is shown for pieces that are written one after the
other while the open objects are counted. The layout of a type is written that way at any depth, one
constituent after the other: a union and an optional value leave the depth as it is, and an object
comes back to it.
-/

set_option autoImplicit false

namespace Companion.Dialect

open Syntax

/-! ## Pieces -/

/-- What an expression consists of, the spaces at the start of its lines apart. -/
inductive Piece where
  | text (text : Text)
  /-- What opens an object. -/
  | opening
  /-- What closes an object. -/
  | closing
  | lineBreak
deriving DecidableEq, Repr

variable (dialect : Dialect)

/-- The pieces of the value of a property, given those of its type. -/
def valuePieces (optional : Bool) (pieces : List Piece) : List Piece :=
  if optional then .text dialect.optional.1 :: pieces ++ [.text dialect.optional.2] else pieces

/-- The pieces of the lines of a property, given its key and the pieces of its type. -/
def propertyPieces (key : Text) (optional : Bool) (pieces : List Piece) : List Piece :=
  .lineBreak :: .text (key ++ ": ".toList) :: dialect.valuePieces optional pieces ++
    [.text ",".toList]

mutual

/-- The pieces of a type. -/
def pieces : TypeExpr → List Piece
  | .primitive kind _ => [.text (dialect.primitive kind)]
  | .literal kind raw _ => [.text (dialect.literal kind (literalCode kind raw))]
  | .object properties _ =>
    .opening :: piecesOfProperties properties ++
      (if properties.isEmpty then [.closing] else [.lineBreak, .closing])
  | .union members _ =>
    .text dialect.union.1 :: List.intercalate [.text ", ".toList] (piecesOfMembers members) ++
      [.text dialect.union.2]
  | .reference name _ _ => [.text (dialect.companionName name ++ dialect.call)]
  | .unclassified _ => []

def piecesOfMembers : List TypeExpr → List (List Piece)
  | [] => []
  | member :: rest => pieces member :: piecesOfMembers rest

def piecesOfProperties : List (Property TypeExpr) → List Piece
  | [] => []
  | property :: rest => piecesOfProperty property ++ piecesOfProperties rest

def piecesOfProperty : Property TypeExpr → List Piece
  | ⟨name, type, optional, quoted⟩ =>
    dialect.propertyPieces (keyCode ⟨name, type, optional, quoted⟩) optional (pieces type)

end

theorem pieces_object (properties : List (Property TypeExpr)) (line : Option Int) :
    dialect.pieces (.object properties line) =
      .opening :: (properties.flatMap fun property => dialect.propertyPieces (keyCode property)
        property.optional (dialect.pieces property.type)) ++
      (if properties.isEmpty then [.closing] else [.lineBreak, .closing]) := by
  have each : dialect.piecesOfProperties properties =
      properties.flatMap fun property => dialect.propertyPieces (keyCode property)
        property.optional (dialect.pieces property.type) := by
    induction properties with
    | nil => rfl
    | cons property rest ih =>
        obtain ⟨name, type, optional, quoted⟩ := property
        rw [piecesOfProperties, ih, piecesOfProperty, List.flatMap_cons]
  rw [pieces, each]

theorem pieces_union (members : List TypeExpr) (line : Option Int) :
    dialect.pieces (.union members line) =
      .text dialect.union.1 ::
        List.intercalate [.text ", ".toList] (members.map dialect.pieces) ++
      [.text dialect.union.2] := by
  have each : dialect.piecesOfMembers members = members.map dialect.pieces := by
    induction members with
    | nil => rfl
    | cons member rest ih => rw [piecesOfMembers, ih, List.map_cons]
  rw [pieces, each]

/-! ## Lines of pieces -/

def pieceCode : Piece → Text
  | .text text => text
  | .opening => dialect.object.1
  | .closing => dialect.object.2
  | .lineBreak => ['\n']

/-- What stands on a line, the spaces at its start apart. -/
def rowCode (row : List Piece) : Text := row.flatMap dialect.pieceCode

/-- The number of objects that are opened and not closed. -/
def openObjects (pieces : List Piece) : Nat := pieces.count .opening - pieces.count .closing

/-- What is closed at the start of a line. -/
def closedFirst : List Piece → List Piece
  | .closing :: _ => [.closing]
  | _ => []

/-- Lines with two spaces for each object that is still open, given the pieces in front of them. -/
def indentedLines (before : List Piece) : List (List Piece) → List Text
  | [] => []
  | row :: rows =>
    (List.replicate (2 * openObjects (before ++ closedFirst row)) ' ' ++ dialect.rowCode row) ::
      indentedLines (before ++ row) rows

/-- A text that starts with a character other than white space. -/
def IsVisible (text : Text) : Prop := ∃ c rest, text = c :: rest ∧ isSpace c = false

theorem IsVisible.append {text : Text} (visible : IsVisible text) (rest : Text) :
    IsVisible (text ++ rest) := by
  obtain ⟨c, more, rfl, solid⟩ := visible
  exact ⟨c, more ++ rest, rfl, solid⟩

/-- All lines of some pieces but the first start with a visible character. -/
def ShowsLines (pieces : List Piece) : Prop :=
  ∀ row ∈ (pieces.splitOn .lineBreak).tail, IsVisible (dialect.rowCode row)

/-- The first line of a code is that of its pieces, and all other lines are indented. -/
def HasLines (before pieces : List Piece) (code : Text) : Prop :=
  ∃ row rows, pieces.splitOn .lineBreak = row :: rows ∧
    Text.splitOn '\n' code = dialect.rowCode row :: dialect.indentedLines (before ++ row) rows

/-- Each line of a code but the first has two spaces for every open object and then a visible
character; nowhere have more objects been closed than opened. -/
structure IsIndented (pieces : List Piece) (code : Text) : Prop where
  lines : dialect.HasLines [] pieces code
  visible : dialect.ShowsLines pieces
  balanced : ∀ before, before <+: pieces → before.count .closing ≤ before.count .opening

/-! ## Writing pieces -/

/-- Pieces written one after the other, with the number of open objects before and after. A line
break is followed by a visible text or by what closes an object. -/
inductive Writes : Nat → List Piece → Nat → Text → Prop where
  | nil {depth : Nat} : Writes depth [] depth []
  | text {depth after : Nat} {text code : Text} {pieces : List Piece} (inLine : '\n' ∉ text)
      (behind : Writes depth pieces after code) :
      Writes depth (.text text :: pieces) after (text ++ code)
  | opening {depth after : Nat} {code : Text} {pieces : List Piece}
      (behind : Writes (depth + 1) pieces after code) :
      Writes depth (.opening :: pieces) after (dialect.object.1 ++ code)
  | closing {depth after : Nat} {code : Text} {pieces : List Piece}
      (behind : Writes depth pieces after code) :
      Writes (depth + 1) (.closing :: pieces) after (dialect.object.2 ++ code)
  | breakText {depth after : Nat} {text code : Text} {pieces : List Piece}
      (visible : IsVisible text) (behind : Writes depth (.text text :: pieces) after code) :
      Writes depth (.lineBreak :: .text text :: pieces) after (lineBreak (2 * depth) ++ code)
  | breakClosing {depth after : Nat} {code : Text} {pieces : List Piece}
      (behind : Writes (depth + 1) (.closing :: pieces) after code) :
      Writes (depth + 1) (.lineBreak :: .closing :: pieces) after (lineBreak (2 * depth) ++ code)

variable {dialect}

namespace Writes

variable {depth middle after : Nat} {pieces others : List Piece} {text code rest : Text}

theorem append (first : dialect.Writes depth pieces middle code)
    (second : dialect.Writes middle others after rest) :
    dialect.Writes depth (pieces ++ others) after (code ++ rest) := by
  induction first with
  | nil => exact second
  | text inLine _ ih => exact List.append_assoc .. ▸ .text inLine (ih second)
  | opening _ ih => exact List.append_assoc .. ▸ .opening (ih second)
  | closing _ ih => exact List.append_assoc .. ▸ .closing (ih second)
  | breakText visible _ ih => exact List.append_assoc .. ▸ .breakText visible (ih second)
  | breakClosing _ ih => exact List.append_assoc .. ▸ .breakClosing (ih second)

theorem single (inLine : '\n' ∉ text) : dialect.Writes depth [.text text] depth text := by
  have written : dialect.Writes depth [.text text] depth (text ++ []) := .text inLine .nil
  rwa [List.append_nil] at written

theorem flatMap {α : Type} {toPieces : α → List Piece} {toCode : α → Text} {items : List α}
    (each : ∀ item ∈ items, dialect.Writes depth (toPieces item) depth (toCode item)) :
    dialect.Writes depth (items.flatMap toPieces) depth (items.flatMap toCode) := by
  induction items with
  | nil => exact .nil
  | cons item rest ih =>
      rw [List.forall_mem_cons] at each
      rw [List.flatMap_cons, List.flatMap_cons]
      exact each.1.append (ih each.2)

theorem join {α : Type} {toPieces : α → List Piece} {toCode : α → Text} {items : List α}
    (inLine : '\n' ∉ text)
    (each : ∀ item ∈ items, dialect.Writes depth (toPieces item) depth (toCode item)) :
    dialect.Writes depth (List.intercalate [.text text] (items.map toPieces)) depth
      (Text.join text (items.map toCode)) := by
  induction items with
  | nil => exact .nil
  | cons item rest ih =>
      rw [List.forall_mem_cons] at each
      cases rest with
      | nil => simpa using each.1
      | cons next more =>
          have others := ih each.2
          simp only [List.map_cons, List.intercalate_cons_cons, Text.join_cons_cons] at others ⊢
          exact (each.1.append (single inLine)).append others

private theorem count_le_of_prefix_cons {inner : Nat} {piece : Piece} {before : List Piece}
    (opens : before <+: piece :: pieces)
    (inside : ∀ more, more <+: pieces → more.count .closing ≤ inner + more.count .opening)
    (change : inner + [piece].count .closing ≤ depth + [piece].count .opening) :
    before.count .closing ≤ depth + before.count .opening := by
  rcases List.prefix_cons_iff.mp opens with rfl | ⟨more, rfl, opensRest⟩
  · simp
  · have bound := inside more opensRest
    rw [← List.singleton_append, List.count_append, List.count_append]
    omega

/-- Closing never goes beyond what has been opened. -/
theorem balanced (writes : dialect.Writes depth pieces after code) (before : List Piece)
    (opens : before <+: pieces) : before.count .closing ≤ depth + before.count .opening := by
  induction writes generalizing before with
  | nil => simp [List.prefix_nil.mp opens]
  | text _ _ ih => exact count_le_of_prefix_cons opens ih (by simp)
  | opening _ ih => exact count_le_of_prefix_cons opens ih (by simp)
  | closing _ ih => exact count_le_of_prefix_cons opens ih (by simp)
  | breakText _ _ ih => exact count_le_of_prefix_cons opens ih (by simp)
  | breakClosing _ ih => exact count_le_of_prefix_cons opens ih (by simp)

end Writes

/-! ## Reading lines -/

section Lines

variable {depth after : Nat} {before pieces : List Piece} {code : Text}

theorem splitOn_lineBreak (pieces : List Piece) :
    (Piece.lineBreak :: pieces).splitOn .lineBreak = [] :: pieces.splitOn .lineBreak := by
  rw [List.splitOn, List.splitOnP_cons_eq_if_modifyHead, if_pos (beq_self_eq_true _)]
  rfl

theorem splitOn_cons {piece : Piece} (inLine : piece ≠ .lineBreak) {row : List Piece}
    {rows : List (List Piece)} (split : pieces.splitOn .lineBreak = row :: rows) :
    (piece :: pieces).splitOn .lineBreak = (piece :: row) :: rows := by
  rw [List.splitOn, List.splitOnP_cons_eq_if_modifyHead, if_neg (by simpa using inLine)]
  exact congrArg (List.modifyHead (List.cons piece)) split

private theorem exists_splitOn_cons {piece : Piece} (inLine : piece ≠ .lineBreak)
    (pieces : List Piece) : ∃ row rows, pieces.splitOn .lineBreak = row :: rows ∧
      (piece :: pieces).splitOn .lineBreak = (piece :: row) :: rows := by
  obtain ⟨row, rows, split⟩ :=
    List.exists_cons_of_ne_nil (List.splitOn_ne_nil Piece.lineBreak pieces)
  exact ⟨row, rows, split, splitOn_cons inLine split⟩

theorem HasLines.cons {piece : Piece} (inLine : '\n' ∉ dialect.pieceCode piece)
    (lines : dialect.HasLines (before ++ [piece]) pieces code) :
    dialect.HasLines before (piece :: pieces) (dialect.pieceCode piece ++ code) := by
  obtain ⟨row, rows, rowsSplit, linesSplit⟩ := lines
  have noBreak : piece ≠ .lineBreak := by
    rintro rfl
    exact inLine List.mem_cons_self
  refine ⟨piece :: row, rows, splitOn_cons noBreak rowsSplit, ?_⟩
  rw [Text.splitOn_append inLine linesSplit, List.append_assoc]
  rfl

theorem HasLines.lineBreak {first : Piece} (noBreak : first ≠ .lineBreak)
    (opened : openObjects (before ++ closedFirst [first]) = depth)
    (lines : dialect.HasLines before (first :: pieces) code) :
    dialect.HasLines before (.lineBreak :: first :: pieces)
      (Dialect.lineBreak (2 * depth) ++ code) := by
  obtain ⟨row, rows, rowsSplit, linesSplit⟩ := lines
  obtain ⟨more, others, -, split⟩ := exists_splitOn_cons noBreak pieces
  obtain ⟨rfl, rfl⟩ := List.cons_eq_cons.mp (split.symm.trans rowsSplit)
  have closed : closedFirst (first :: more) = closedFirst [first] := by cases first <;> rfl
  have spaces : '\n' ∉ List.replicate (2 * depth) ' ' := by simp
  refine ⟨[], (first :: more) :: others, by rw [splitOn_lineBreak, rowsSplit], ?_⟩
  rw [Dialect.lineBreak, List.cons_append, Text.splitOn_cons_separator,
    Text.splitOn_append spaces linesSplit, List.append_nil, indentedLines, closed, opened]
  rfl

/-- Written pieces have the lines that the pieces in front of them give them, as long as those leave
as many objects open as are counted. -/
theorem Writes.hasLines (breaksNoLine : dialect.BreaksNoLine)
    (writes : dialect.Writes depth pieces after code)
    (opened : before.count .opening = depth + before.count .closing) :
    dialect.HasLines before pieces code := by
  induction writes generalizing before with
  | nil => exact ⟨[], [], rfl, rfl⟩
  | text inLine _ ih => exact .cons inLine (ih (by simpa using opened))
  | opening _ ih =>
      refine .cons breaksNoLine.object.1.not_mem (ih ?_)
      rw [List.count_append, List.count_append, opened]
      simp
      omega
  | closing _ ih =>
      refine .cons breaksNoLine.object.2.not_mem (ih ?_)
      rw [List.count_append, List.count_append, opened]
      simp
      omega
  | breakText _ _ ih =>
      refine .lineBreak (by simp) ?_ (ih opened)
      simp [openObjects, closedFirst, opened]
  | breakClosing _ ih =>
      refine .lineBreak (by simp) ?_ (ih opened)
      simp [openObjects, closedFirst, opened]
      omega

theorem showsLines_cons {piece : Piece} (inLine : piece ≠ .lineBreak) :
    dialect.ShowsLines (piece :: pieces) ↔ dialect.ShowsLines pieces := by
  obtain ⟨row, rows, split, splitCons⟩ := exists_splitOn_cons inLine pieces
  rw [ShowsLines, ShowsLines, split, splitCons, List.tail_cons, List.tail_cons]

theorem showsLines_lineBreak {first : Piece} (inLine : first ≠ .lineBreak)
    (visible : IsVisible (dialect.pieceCode first))
    (others : dialect.ShowsLines (first :: pieces)) :
    dialect.ShowsLines (.lineBreak :: first :: pieces) := by
  obtain ⟨row, rows, -, split⟩ := exists_splitOn_cons inLine pieces
  rw [ShowsLines, split] at others
  rw [ShowsLines, splitOn_lineBreak, split]
  exact List.forall_mem_cons.mpr ⟨visible.append (dialect.rowCode row), others⟩

theorem Writes.showsLines (closes : IsVisible dialect.object.2)
    (writes : dialect.Writes depth pieces after code) : dialect.ShowsLines pieces := by
  induction writes with
  | nil => simp [ShowsLines]
  | text _ _ ih => exact (showsLines_cons (by simp)).mpr ih
  | opening _ ih => exact (showsLines_cons (by simp)).mpr ih
  | closing _ ih => exact (showsLines_cons (by simp)).mpr ih
  | breakText visible _ ih => exact showsLines_lineBreak (by simp) visible ih
  | breakClosing _ ih => exact showsLines_lineBreak (by simp) closes ih

/-- What is written at depth zero is indented. -/
theorem Writes.isIndented (breaksNoLine : dialect.BreaksNoLine)
    (closes : IsVisible dialect.object.2) (writes : dialect.Writes 0 pieces after code) :
    dialect.IsIndented pieces code where
  lines := writes.hasLines breaksNoLine rfl
  visible := writes.showsLines closes
  balanced := fun before opens => by simpa using writes.balanced before opens

/-- No line of indented code is blank, so nesting it shifts all lines but the first. -/
theorem IsIndented.splitOn_nest (indented : dialect.IsIndented pieces code) {first : Text}
    {lines : List Text} (split : Text.splitOn '\n' code = first :: lines) (width : Nat) :
    Text.splitOn '\n' (code.nest width) =
      first :: lines.map (List.replicate width ' ' ++ ·) := by
  obtain ⟨row, rows, rowsSplit, linesSplit⟩ := indented.lines
  have visible := indented.visible
  rw [ShowsLines, rowsSplit, List.tail_cons] at visible
  obtain ⟨-, rfl⟩ := List.cons_eq_cons.mp (split.symm.trans linesSplit)
  have some : ∀ before, ∀ line ∈ dialect.indentedLines before rows, line ≠ [] := by
    clear rowsSplit linesSplit split
    induction rows with
    | nil => intro before line member; cases member
    | cons row rows ih =>
        rw [List.forall_mem_cons] at visible
        obtain ⟨⟨c, rest, code, -⟩, others⟩ := visible
        intro before
        rw [indentedLines, List.forall_mem_cons]
        exact ⟨by simp [code], ih others (before ++ row)⟩
  exact Text.splitOn_nest width split (some _)

end Lines

/-! ## Types -/

theorem isVisible_of_isIdentifier {text : Text} (identifier : IsIdentifier text) :
    IsVisible text := by
  obtain ⟨some, -, each⟩ := identifier
  obtain ⟨c, rest, rfl⟩ := List.exists_cons_of_ne_nil some
  refine ⟨c, rest, rfl, ?_⟩
  have first := each c List.mem_cons_self
  rw [isIdentifierChar, Bool.or_eq_true] at first
  rcases first with part | mark
  · simp only [isIdentifierPart, Bool.and_eq_true, Bool.not_eq_eq_eq_not, Bool.not_true] at part
    exact part.1.2
  · simp only [List.mem_cons, List.not_mem_nil, or_false, decide_eq_true_eq] at mark
    rcases mark with rfl | rfl | rfl <;> decide

theorem isVisible_of_isNumber {text : Text} (number : IsNumber text) : IsVisible text := by
  obtain ⟨c, rest, rfl, digit | rfl⟩ := number.exists_cons
  · refine ⟨c, rest, rfl, ?_⟩
    simp only [isAsciiDigit, Bool.and_eq_true, decide_eq_true_eq] at digit
    simp [isSpace]
    omega
  · exact ⟨'.', rest, rfl, by decide⟩

theorem isVisible_keyCode {property : Property TypeExpr} (spelled : property.PlainKeyIsSpelled) :
    IsVisible (keyCode property) := by
  cases quoted : property.quoted with
  | true => exact ⟨'\'', property.name ++ ['\''], by rw [keyCode, if_pos quoted]; rfl, by decide⟩
  | false =>
      rw [keyCode, if_neg (by simp [quoted])]
      exact (spelled quoted).elim isVisible_of_isIdentifier isVisible_of_isNumber

section Types

variable (breaksNoLine : dialect.BreaksNoLine)

include breaksNoLine

private theorem writes_value (optional : Bool) {depth : Nat} {pieces : List Piece} {code : Text}
    (writes : dialect.Writes depth pieces depth code) :
    dialect.Writes depth (dialect.valuePieces optional pieces) depth
      (dialect.propertyValue optional code) := by
  cases optional with
  | false => exact writes
  | true =>
      have front := Writes.text breaksNoLine.optional.1.not_mem writes
      exact front.append (.single breaksNoLine.optional.2.not_mem)

private theorem writes_property {property : Property TypeExpr} (inLine : '\n' ∉ keyCode property)
    (spelled : property.PlainKeyIsSpelled) {depth : Nat} {pieces : List Piece} {code : Text}
    (writes : dialect.Writes depth pieces depth code) :
    dialect.Writes depth (dialect.propertyPieces (keyCode property) property.optional pieces) depth
      (dialect.propertyLines (2 * depth) (keyCode property) property.optional code) := by
  have colon : '\n' ∉ keyCode property ++ ": ".toList := by simp [inLine]
  have opens := (isVisible_keyCode spelled).append ": ".toList
  have key := Writes.breakText opens
    (.text colon (writes_value breaksNoLine property.optional writes))
  have line := key.append (.single (by decide : '\n' ∉ ",".toList))
  simpa only [propertyPieces, propertyLines, List.append_assoc] using line

/-- The layout of a type at some depth is that of its pieces. -/
theorem writes_pieces {type : TypeExpr} (inLine : type.AllTexts ('\n' ∉ ·))
    (keys : ∀ property ∈ type.properties, property.PlainKeyIsSpelled) (depth : Nat) :
    dialect.Writes depth (dialect.pieces type) depth (dialect.layout (2 * depth) type) := by
  induction type generalizing depth with
  | primitive kind line => exact .single (breaksNoLine.primitive kind).not_mem
  | literal kind raw line =>
      rw [TypeExpr.allTexts_literal] at inLine
      obtain ⟨first, last, firstInLine, lastInLine, -, around⟩ := breaksNoLine.literal kind
      have clean : '\n' ∉ dialect.literal kind (literalCode kind raw) := by
        rcases around with around | ⟨-, fixed⟩
        · simp [around, firstInLine.not_mem, lastInLine.not_mem, inLine]
        · simp [fixed, firstInLine.not_mem, lastInLine.not_mem]
      exact .single clean
  | object properties line ih =>
      rw [TypeExpr.allTexts_object] at inLine
      rw [TypeExpr.forall_properties_object] at keys
      have lines : dialect.Writes (depth + 1)
          (properties.flatMap fun property => dialect.propertyPieces (keyCode property)
            property.optional (dialect.pieces property.type)) (depth + 1)
          (properties.flatMap fun property => dialect.propertyLines (2 * (depth + 1))
            (keyCode property) property.optional
            (dialect.layout (2 * (depth + 1)) property.type)) := by
        refine Writes.flatMap fun property member => ?_
        obtain ⟨spelled, inside⟩ := keys property member
        exact writes_property breaksNoLine (inLine property member).1 spelled
          (ih property member (inLine property member).2 inside (depth + 1))
      -- what closes the object is back at the depth at which it was opened
      have closes : dialect.Writes (depth + 1)
          (if properties.isEmpty then [.closing] else [.lineBreak, .closing]) depth
          ((if properties.isEmpty then [] else lineBreak (2 * depth)) ++ dialect.object.2) := by
        have closing : dialect.Writes (depth + 1) [.closing] depth (dialect.object.2 ++ []) :=
          .closing .nil
        rw [List.append_nil] at closing
        cases properties.isEmpty with
        | true => exact closing
        | false => exact .breakClosing closing
      rw [pieces_object, layout_object, List.cons_append, List.append_assoc, List.append_assoc]
      exact .opening (lines.append closes)
  | union members line ih =>
      rw [TypeExpr.allTexts_union] at inLine
      rw [TypeExpr.forall_properties_union] at keys
      have parts : dialect.Writes depth
          (List.intercalate [.text ", ".toList] (members.map dialect.pieces)) depth
          (Text.join ", ".toList (members.map (dialect.layout (2 * depth)))) := by
        refine Writes.join (by decide) fun member isMember => ?_
        exact ih member isMember (inLine member isMember) (keys member isMember) depth
      rw [pieces_union, layout_union, enclose, List.append_assoc]
      exact .text breaksNoLine.union.1.not_mem
        (parts.append (.single breaksNoLine.union.2.not_mem))
  | reference name origin line =>
      rw [TypeExpr.allTexts_reference] at inLine
      obtain ⟨first, firstInLine, around⟩ := breaksNoLine.companionName
      have clean : '\n' ∉ dialect.companionName name ++ dialect.call := by
        simp [around, firstInLine.not_mem, inLine, breaksNoLine.call.not_mem]
      exact .single clean
  | unclassified line => exact .nil

end Types

end Companion.Dialect

namespace Companion

open Dialect Syntax

theorem Library.isVisible_closing (library : Library) : IsVisible library.dialect.object.2 := by
  cases library <;> exact ⟨'\x7d', [')'], rfl, by decide⟩

section Library

variable (library : Library) {context : CompanionContext} {type : TypeExpr}

/-- With either library, the expression of a type whose names and strings break no line and whose
plain keys are identifiers or numbers is there as soon as its references can be expressed. All of
its lines but the first start with two spaces for each object that was opened above and is still
open behind what the line starts by closing, and then with a character other than white space. So
when the expression becomes the value of a property, optional or not, all of its lines but the first
are shifted by two spaces. -/
theorem Library.exists_isIndented (classified : type.IsClassified)
    (inLine : type.AllTexts ('\n' ∉ ·))
    (keys : ∀ property ∈ type.properties, property.PlainKeyIsSpelled)
    (expressible : ∀ reference ∈ type.references,
      ∃ part, library.dialect.reference context reference.1 reference.2 = .ok part) :
    ∃ expression, library.dialect.express context type = .ok expression ∧
      library.dialect.IsIndented (library.dialect.pieces type) expression.code ∧
      ∀ optional first lines,
        Text.splitOn '\n' (library.dialect.propertyValue optional expression.code) =
          first :: lines →
        Text.splitOn '\n' ((library.dialect.propertyValue optional expression.code).nest 2) =
          first :: lines.map ("  ".toList ++ ·) := by
  obtain ⟨expression, expressed⟩ := exists_express_eq_ok classified expressible
  have code : expression.code = library.dialect.layout 0 type := by
    rw [(expresses_of_express_eq_ok expressed).code, codeOf_eq_layout library.breaksNoLine inLine]
  have written := writes_pieces library.breaksNoLine inLine keys 0
  rw [← code] at written
  refine ⟨expression, expressed,
    written.isIndented library.breaksNoLine library.isVisible_closing, ?_⟩
  intro optional first lines split
  have value := writes_value library.breaksNoLine optional written
  exact (value.isIndented library.breaksNoLine library.isVisible_closing).splitOn_nest split 2

end Library

/-- Objects in a union, in an optional property and in one another. -/
def nestedObjects : TypeExpr :=
  .object [⟨"a", .union [
      .object [⟨"b", .primitive .string none, true, false⟩] none,
      .object [⟨"1e3", .object [] none, false, false⟩] none,
      .literal .string "\x7d)" none] none, true, false⟩,
    ⟨"c d", .reference "T" none none, false, true⟩] none

theorem exists_isIndented_nestedObjects :
    let dialect := Library.fastCheck.dialect
    let context : CompanionContext := ⟨"/", "a.ppx.ts", "a.ts", none, .ok⟩
    nestedObjects.IsClassified ∧ nestedObjects.AllTexts ('\n' ∉ ·) ∧
      (∀ property ∈ nestedObjects.properties, property.PlainKeyIsSpelled) ∧
      (∀ reference ∈ nestedObjects.references,
        ∃ part, dialect.reference context reference.1 reference.2 = .ok part) ∧
      ∃ expression, dialect.express context nestedObjects = .ok expression ∧
        Text.splitOn '\n' expression.code =
          ["fc.record(\x7b",
            "  a: fc.option(fc.oneof(fc.record(\x7b",
            "    b: fc.option(fc.string(), \x7b nil: undefined \x7d),",
            "  \x7d), fc.record(\x7b",
            "    1e3: fc.record(\x7b\x7d),",
            "  \x7d), fc.constant('\x7d)')), \x7b nil: undefined \x7d),",
            "  'c d': arbitraryT(),",
            "\x7d)"] := by
  intro dialect context
  have classified : nestedObjects.IsClassified := by
    simp [TypeExpr.IsClassified, TypeExpr.leaves, nestedObjects, TypeExpr.collect,
      TypeExpr.collectMembers_eq, TypeExpr.collectProperties_eq]
  have inLine : nestedObjects.AllTexts ('\n' ∉ ·) := ⟨by decide, by decide⟩
  have keys : ∀ property ∈ nestedObjects.properties, property.PlainKeyIsSpelled := by
    have identifiers : IsIdentifier ['a'] ∧ IsIdentifier ['b'] := by decide
    have number : IsNumber ['1', 'e', '3'] := by rfl
    simp [nestedObjects, Property.PlainKeyIsSpelled, TypeExpr.properties, TypeExpr.collect,
      TypeExpr.collectMembers_eq, TypeExpr.collectProperties_eq, identifiers, number]
  have expressible : ∀ reference ∈ nestedObjects.references,
      ∃ part, dialect.reference context reference.1 reference.2 = .ok part := by
    intro reference member
    obtain rfl := List.mem_singleton.mp member
    exact ⟨_, rfl⟩
  obtain ⟨expression, expressed, indented, -⟩ :=
    Library.exists_isIndented .fastCheck classified inLine keys expressible
  refine ⟨classified, inLine, keys, expressible, expression, expressed, ?_⟩
  obtain ⟨row, rows, split, lines⟩ := indented.lines
  obtain ⟨rfl, rfl⟩ := List.cons.inj split
  exact lines

end Companion
