import Companion.Proofs.Generator.Expression
import Companion.Proofs.Text.Lines
import Companion.Generator.Plugin

/-!
# Laying out expressions

An expression written in one pass: each line break is followed by the spaces of its depth, and a
function of the depth tells how names and strings are written. A change of texts that treats lines
one by one passes through a layout: it changes the depth and how names and strings are written,
nothing else. So what comes of writing the constituents first and indenting them afterwards, any
number of times, is a layout.
-/

set_option autoImplicit false

namespace Companion.Dialect

variable (dialect : Dialect)

/-- A line break with the spaces that open the next line. -/
def lineBreak (width : Nat) : Text := '\n' :: List.replicate width ' '

/-- The value of a property, given the expression of its type. -/
def propertyValue (optional : Bool) (code : Text) : Text :=
  if optional then enclose dialect.optional code else code

/-- The lines of a property, given its key and the expression of its type. -/
def propertyLines (width : Nat) (key : Text) (optional : Bool) (code : Text) : Text :=
  lineBreak width ++ key ++ ": ".toList ++ dialect.propertyValue optional code ++ ",".toList

section

variable (write : Nat → Text → Text)

mutual

/-- A type written in one pass, in lines that are indented by `width` spaces. -/
def layoutWith (width : Nat) : TypeExpr → Text
  | .primitive kind _ => dialect.primitive kind
  | .literal kind raw _ => dialect.literal kind (write width (literalCode kind raw))
  | .object properties _ =>
    dialect.object.1 ++ layoutProperties width properties ++
      (if properties.isEmpty then [] else lineBreak width) ++ dialect.object.2
  | .union members _ => enclose dialect.union (Text.join ", ".toList (layoutMembers width members))
  | .reference name _ _ => dialect.companionName (write width name) ++ dialect.call
  | .unclassified _ => []

def layoutMembers (width : Nat) : List TypeExpr → List Text
  | [] => []
  | member :: rest => layoutWith width member :: layoutMembers width rest

def layoutProperties (width : Nat) : List (Property TypeExpr) → Text
  | [] => []
  | property :: rest => layoutProperty width property ++ layoutProperties width rest

/-- A property on deeper lines, its key being written as the names of the object are. -/
def layoutProperty (width : Nat) : Property TypeExpr → Text
  | ⟨name, type, optional, quoted⟩ =>
    dialect.propertyLines (width + 2) (write width (keyCode ⟨name, type, optional, quoted⟩)) optional
      (layoutWith (width + 2) type)

end

theorem layoutWith_object (width : Nat) (properties : List (Property TypeExpr))
    (line : Option Int) : dialect.layoutWith write width (.object properties line) =
      dialect.object.1 ++ (properties.flatMap fun property =>
        dialect.propertyLines (width + 2) (write width (keyCode property)) property.optional
          (dialect.layoutWith write (width + 2) property.type)) ++
      (if properties.isEmpty then [] else lineBreak width) ++ dialect.object.2 := by
  have lines : dialect.layoutProperties write width properties =
      properties.flatMap fun property =>
        dialect.propertyLines (width + 2) (write width (keyCode property)) property.optional
          (dialect.layoutWith write (width + 2) property.type) := by
    induction properties with
    | nil => rfl
    | cons property rest ih =>
        obtain ⟨name, type, optional, quoted⟩ := property
        rw [layoutProperties, ih, layoutProperty, List.flatMap_cons]
  rw [layoutWith, lines]

theorem layoutWith_union (width : Nat) (members : List TypeExpr) (line : Option Int) :
    dialect.layoutWith write width (.union members line) =
      enclose dialect.union (Text.join ", ".toList (members.map (dialect.layoutWith write width))) := by
  have codes : dialect.layoutMembers write width members =
      members.map (dialect.layoutWith write width) := by
    induction members with
    | nil => rfl
    | cons member rest ih => rw [layoutMembers, ih, List.map_cons]
  rw [layoutWith, codes]

end

/-- A type written in one pass, names and strings as they are. -/
def layout (width : Nat) (type : TypeExpr) : Text :=
  dialect.layoutWith (fun _ text => text) width type

theorem layout_object (width : Nat) (properties : List (Property TypeExpr)) (line : Option Int) :
    dialect.layout width (.object properties line) =
      dialect.object.1 ++ (properties.flatMap fun property =>
        dialect.propertyLines (width + 2) (keyCode property) property.optional
          (dialect.layout (width + 2) property.type)) ++
      (if properties.isEmpty then [] else lineBreak width) ++ dialect.object.2 :=
  dialect.layoutWith_object _ width properties line

theorem layout_union (width : Nat) (members : List TypeExpr) (line : Option Int) :
    dialect.layout width (.union members line) =
      enclose dialect.union (Text.join ", ".toList (members.map (dialect.layout width))) :=
  dialect.layoutWith_union _ width members line

/-- How names and strings are written matters for those of the type only. -/
theorem layoutWith_eq_layout {write : Nat → Text → Text} {type : TypeExpr}
    (kept : type.AllTexts fun text => ∀ width, write width text = text) (width : Nat) :
    dialect.layoutWith write width type = dialect.layout width type := by
  unfold layout
  induction type generalizing width with
  | primitive kind line => rfl
  | literal kind raw line =>
      rw [TypeExpr.allTexts_literal] at kept
      rw [layoutWith, kept, layoutWith]
  | object properties line ih =>
      rw [TypeExpr.allTexts_object] at kept
      have each : ∀ property ∈ properties, dialect.propertyLines (width + 2)
          (write width (keyCode property)) property.optional
          (dialect.layoutWith write (width + 2) property.type) =
            dialect.propertyLines (width + 2) (keyCode property) property.optional
              (dialect.layoutWith (fun _ text => text) (width + 2) property.type) := by
        intro property member
        rw [(kept property member).1, ih property member (kept property member).2]
      rw [layoutWith_object, layoutWith_object, List.flatMap_def, List.map_congr_left each,
        List.flatMap_def]
  | union members line ih =>
      rw [TypeExpr.allTexts_union] at kept
      rw [layoutWith_union, layoutWith_union,
        List.map_congr_left fun member isMember => ih member isMember (kept member isMember) width]
  | reference name origin line =>
      rw [TypeExpr.allTexts_reference] at kept
      rw [layoutWith, kept, layoutWith]
  | unclassified line => rfl

/-! ## Dialects on one line -/

/-- What a dialect adds to names and strings breaks no line. -/
structure BreaksNoLine (dialect : Dialect) : Prop where
  primitive : ∀ kind, Text.InLine (dialect.primitive kind)
  literal : ∀ kind, ∃ first last, Text.InLine first ∧ Text.InLine last ∧ last ≠ [] ∧
    ((∀ source, dialect.literal kind source = first ++ source ++ last) ∨
      kind ≠ .string ∧ ∀ source, dialect.literal kind source = first ++ last)
  object : Text.InLine dialect.object.1 ∧ Text.InLine dialect.object.2
  optional : Text.InLine dialect.optional.1 ∧ Text.InLine dialect.optional.2
  union : Text.InLine dialect.union.1 ∧ Text.InLine dialect.union.2
  companionName : ∃ first, Text.InLine first ∧ ∀ name, dialect.companionName name = first ++ name
  call : Text.InLine dialect.call
  closing : dialect.object.2 ≠ [] ∧ dialect.union.2 ≠ [] ∧ dialect.call ≠ []

end Companion.Dialect

namespace Companion

theorem Library.breaksNoLine (library : Library) : library.dialect.BreaksNoLine := by
  have fixed : ∀ text : Text, text.all (fun c => !Text.isLineEnd c) = true → Text.InLine text := by
    intro text all c member
    simpa using List.all_eq_true.mp all c member
  cases library with
  | zod =>
      constructor
      case primitive =>
        rintro (_ | _ | _ | _)
        all_goals exact fixed _ (by decide)
      case literal =>
        rintro (_ | _ | _ | _ | _)
        case null =>
          exact ⟨"z.null(", ")", fixed _ (by decide), fixed _ (by decide), by decide,
            .inr ⟨by decide, fun source => rfl⟩⟩
        all_goals
          exact ⟨"z.literal(", ")", fixed _ (by decide), fixed _ (by decide), by decide,
            .inl fun source => rfl⟩
      case companionName => exact ⟨[], fixed _ (by decide), fun name => rfl⟩
      case call => exact fixed _ (by decide)
      case closing => decide
      all_goals exact ⟨fixed _ (by decide), fixed _ (by decide)⟩
  | fastCheck =>
      constructor
      case primitive =>
        rintro (_ | _ | _ | _)
        all_goals exact fixed _ (by decide)
      case literal =>
        intro kind
        exact ⟨"fc.constant(", ")", fixed _ (by decide), fixed _ (by decide), by decide,
          .inl fun source => rfl⟩
      case companionName => exact ⟨"arbitrary", fixed _ (by decide), fun name => rfl⟩
      case call => exact fixed _ (by decide)
      case closing => decide
      all_goals exact ⟨fixed _ (by decide), fixed _ (by decide)⟩

namespace Dialect

/-! ## Changes line by line -/

/-- A change of texts that leaves alone what stands on one line, puts a fixed number of spaces in
front of each line that is not blank, and changes names and strings on their own. -/
structure Passes (change : Text → Text) (shift : Nat) (before after : Nat → Text → Text) :
    Prop where
  inLine : ∀ {text : Text}, Text.InLine text → ∀ rest, change (text ++ rest) = text ++ change rest
  lineBreak : ∀ {text : Text}, Text.InLine text → text ≠ [] → ∀ width rest,
    change (lineBreak width ++ (text ++ rest)) = lineBreak (shift + width) ++ (text ++ change rest)
  text : ∀ {closing : Text}, Text.InLine closing → closing ≠ [] → ∀ width text rest,
    change (before width text ++ (closing ++ rest)) =
      after (shift + width) text ++ (closing ++ change rest)

section Passing

variable {dialect : Dialect} {change : Text → Text} {shift : Nat} {before after : Nat → Text → Text}

namespace Passes

/-- One text behind the other: each is changed on its own. -/
private theorem flatMap {α : Type} {inner outer : α → Text} (items : List α)
    (each : ∀ item ∈ items, ∀ rest, change (inner item ++ rest) = outer item ++ change rest)
    (rest : Text) : change (items.flatMap inner ++ rest) = items.flatMap outer ++ change rest := by
  induction items with
  | nil => rfl
  | cons item items ih =>
      rw [List.flatMap_cons, List.append_assoc, each item List.mem_cons_self,
        ih fun other member => each other (List.mem_cons_of_mem _ member), List.flatMap_cons,
        List.append_assoc]

variable (passes : Passes change shift before after)

include passes

private theorem join {separator : Text} (inLine : Text.InLine separator) {α : Type}
    {inner outer : α → Text} (items : List α)
    (each : ∀ item ∈ items, ∀ rest, change (inner item ++ rest) = outer item ++ change rest)
    (rest : Text) : change (Text.join separator (items.map inner) ++ rest) =
      Text.join separator (items.map outer) ++ change rest := by
  induction items with
  | nil => rfl
  | cons item items ih =>
      have first := each item List.mem_cons_self
      have others := ih fun other member => each other (List.mem_cons_of_mem _ member)
      cases items with
      | nil => exact first rest
      | cons next items =>
          simp only [List.map_cons, Text.join_cons_cons, List.append_assoc] at others ⊢
          rw [first, passes.inLine inLine, others]

private theorem propertyValue (breaksNoLine : dialect.BreaksNoLine) (optional : Bool)
    {inner outer : Text} (value : ∀ rest, change (inner ++ rest) = outer ++ change rest)
    (rest : Text) : change (dialect.propertyValue optional inner ++ rest) =
      dialect.propertyValue optional outer ++ change rest := by
  cases optional with
  | false => exact value rest
  | true =>
      simp only [Dialect.propertyValue, enclose, ↓reduceIte, List.append_assoc]
      rw [passes.inLine breaksNoLine.optional.1, value, passes.inLine breaksNoLine.optional.2]

private theorem indentedBreak (width : Nat) (rest : Text) :
    change (Dialect.lineBreak (width + 1) ++ rest) =
      Dialect.lineBreak (shift + (width + 1)) ++ change rest := by
  have deeper : ∀ width, Dialect.lineBreak (width + 1) = Dialect.lineBreak width ++ [' '] :=
    fun width => congrArg ('\n' :: ·) List.replicate_succ'
  have blank : Text.InLine [' '] := by
    intro c member
    rw [List.mem_singleton.mp member]
    rfl
  rw [deeper, List.append_assoc, passes.lineBreak blank (by simp), ← Nat.add_assoc, deeper,
    List.append_assoc]

private theorem propertyLines (breaksNoLine : dialect.BreaksNoLine) (width : Nat) (key : Text)
    (optional : Bool) {inner outer : Text}
    (value : ∀ rest, change (inner ++ rest) = outer ++ change rest) (rest : Text) :
    change (dialect.propertyLines (width + 2) (before width key) optional inner ++ rest) =
      dialect.propertyLines (shift + (width + 2)) (after (shift + width) key) optional outer ++
        change rest := by
  have colon : Text.InLine ": ".toList := by decide
  have comma : Text.InLine ",".toList := by decide
  simp only [Dialect.propertyLines, List.append_assoc]
  rw [passes.indentedBreak, passes.text colon (by decide),
    passes.propertyValue breaksNoLine optional value, passes.inLine comma]

private theorem literal (breaksNoLine : dialect.BreaksNoLine) (width : Nat) (kind : LiteralForm)
    (source rest : Text) : change (dialect.literal kind (before width source) ++ rest) =
      dialect.literal kind (after (shift + width) source) ++ change rest := by
  obtain ⟨first, last, firstInLine, lastInLine, some, around | ⟨-, fixed⟩⟩ :=
    breaksNoLine.literal kind
  · simp only [around, List.append_assoc]
    rw [passes.inLine firstInLine, passes.text lastInLine some]
  · simp only [fixed, List.append_assoc]
    rw [passes.inLine firstInLine, passes.inLine lastInLine]

/-- A layout that is changed line by line is a layout; what follows it is changed on its own. -/
theorem layoutWith (breaksNoLine : dialect.BreaksNoLine) (type : TypeExpr) (width : Nat)
    (rest : Text) : change (dialect.layoutWith before width type ++ rest) =
      dialect.layoutWith after (shift + width) type ++ change rest := by
  induction type generalizing width rest with
  | primitive kind line => exact passes.inLine (breaksNoLine.primitive kind) rest
  | literal kind raw line => exact passes.literal breaksNoLine width kind _ rest
  | object properties line ih =>
      have lines := flatMap properties fun property member =>
        passes.propertyLines breaksNoLine width (keyCode property) property.optional
          (ih property member (width + 2))
      have closes : ∀ rest, change ((if properties.isEmpty then [] else Dialect.lineBreak width) ++
          (dialect.object.2 ++ rest)) =
            (if properties.isEmpty then [] else Dialect.lineBreak (shift + width)) ++
              (dialect.object.2 ++ change rest) := by
        intro rest
        cases properties.isEmpty with
        | true => exact passes.inLine breaksNoLine.object.2 rest
        | false => exact passes.lineBreak breaksNoLine.object.2 breaksNoLine.closing.1 width rest
      simp only [layoutWith_object, List.append_assoc]
      rw [passes.inLine breaksNoLine.object.1, lines, closes]
      rfl
  | union members line ih =>
      have inLine : Text.InLine ", ".toList := by decide
      have parts := passes.join inLine members fun member isMember => ih member isMember width
      simp only [layoutWith_union, enclose, List.append_assoc]
      rw [passes.inLine breaksNoLine.union.1, parts, passes.inLine breaksNoLine.union.2]
  | reference name origin line =>
      obtain ⟨first, inLine, around⟩ := breaksNoLine.companionName
      simp only [Dialect.layoutWith, around, List.append_assoc]
      rw [passes.inLine inLine, passes.text breaksNoLine.call breaksNoLine.closing.2.2]
  | unclassified line => rfl

end Passes

end Passing

/-- A text in lines that are indented by `width` spaces. -/
def indented (width : Nat) (text : Text) : Text := Text.indentThrough width false text

theorem indented_indented (outer width : Nat) (text : Text) :
    indented (outer + width) text = indented outer (indented width text) :=
  (Text.indentThrough_indentThrough outer width false text).symm

theorem passes_indentFrom (outer : Nat) {before after : Nat → Text → Text}
    (composed : ∀ width text, after (outer + width) text = indented outer (before width text)) :
    Passes (Text.indentFrom outer false) outer before after where
  inLine := fun inLine => Text.indentFrom_false_append outer inLine.not_mem
  lineBreak := by
    intro text inLine some width rest
    have someLine : List.replicate width ' ' ++ text ≠ [] := by simp [some]
    have inOneLine : '\n' ∉ List.replicate width ' ' ++ text := by simp [inLine.not_mem]
    have line := Text.indentFrom_append outer someLine inOneLine true rest
    simp only [List.append_assoc, List.cons_append, Dialect.lineBreak, Text.indentFrom_lineFeed,
      ← List.replicate_append_replicate, ↓reduceIte] at line ⊢
    rw [line]
  text := by
    intro closing inLine some width text rest
    obtain ⟨c, more, rfl⟩ := List.exists_cons_of_ne_nil some
    have behind := Text.indentFrom_false_append outer inLine.not_mem rest
    rw [List.cons_append] at behind ⊢
    rw [Text.indentFrom_append_cons outer inLine.head_ne, composed, behind]
    rfl

theorem passes_normalizeLineEnds {before after : Nat → Text → Text}
    (composed : ∀ width text, after width text = (before width text).normalizeLineEnds) :
    Passes Text.normalizeLineEnds 0 before after where
  inLine := Text.normalizeLineEnds_append
  lineBreak := by
    intro text inLine some width rest
    have line : Text.InLine (List.replicate width ' ' ++ text) := by
      intro c member
      rcases List.mem_append.mp member with blank | inText
      · rw [List.eq_of_mem_replicate blank]
        rfl
      · exact inLine c inText
    have behind := Text.normalizeLineEnds_append line rest
    rw [List.append_assoc, List.append_assoc] at behind
    have feed : '\n' ≠ '\r' := by decide
    rw [Dialect.lineBreak, List.cons_append,
      Text.normalizeLineEnds_cons fun same => absurd same feed, behind, Nat.zero_add]
    rfl
  text := by
    intro closing inLine some width text rest
    obtain ⟨c, more, rfl⟩ := List.exists_cons_of_ne_nil some
    have behind := Text.normalizeLineEnds_append inLine rest
    rw [List.cons_append] at behind ⊢
    rw [Text.normalizeLineEnds_append_cons inLine.head_ne, behind, Nat.zero_add, composed]

/-! ## Companions -/

section Companions

variable {dialect : Dialect} (breaksNoLine : dialect.BreaksNoLine)

include breaksNoLine

theorem nest_layoutWith {before after : Nat → Text → Text} {outer : Nat}
    (composed : ∀ width text, after (outer + width) text = indented outer (before width text))
    (width : Nat) (type : TypeExpr) : (dialect.layoutWith before width type).nest outer =
      dialect.layoutWith after (outer + width) type := by
  have whole := (passes_indentFrom outer composed).layoutWith breaksNoLine type width []
  simpa [Text.nest_eq_indentFrom] using whole

/-- What is put together from constituents that are indented one by one is a layout in which the
strings are indented as often as the lines around them. -/
theorem codeOf_eq_layoutWith (type : TypeExpr) :
    dialect.codeOf type = dialect.layoutWith indented 0 type := by
  have unchanged : ∀ text, indented 0 text = text := Text.indentThrough_zero
  induction type with
  | primitive kind line => rfl
  | literal kind raw line => rw [codeOf, layoutWith, unchanged]
  | object properties line ih =>
      have each : ∀ property ∈ properties,
          ['\n'] ++ dialect.propertyLine property (dialect.codeOf property.type) =
            dialect.propertyLines 2 (indented 0 (keyCode property)) property.optional
              (dialect.layoutWith indented 2 property.type) := by
        intro property member
        have passes := passes_indentFrom 2 (indented_indented 2)
        have value := passes.propertyValue breaksNoLine property.optional
          (passes.layoutWith breaksNoLine property.type 0) []
        simp only [List.append_nil, Text.indentFrom_nil, ← Text.nest_eq_indentFrom] at value
        rw [ih property member, unchanged]
        exact congrArg (fun code => lineBreak 2 ++ keyCode property ++ ": ".toList ++ code ++
          ",".toList) value
      rw [codeOf_object, layoutWith_object, layOut]
      cases properties with
      | nil => simp [enclose]
      | cons property rest =>
          rw [if_neg (by simp), List.cons_append, Text.join_cons_eq_flatMap, List.flatMap_append,
            List.flatMap_map, List.flatMap_def, List.map_congr_left each]
          simp [List.flatMap_def, lineBreak]
  | union members line ih =>
      rw [codeOf_union, layoutWith_union, List.map_congr_left ih]
  | reference name origin line => rw [codeOf, layoutWith, unchanged]
  | unclassified line => rfl

/-- Unless a name or string has several lines, it stands in the code as it is. -/
theorem codeOf_eq_layout {type : TypeExpr} (inLine : type.AllTexts ('\n' ∉ ·)) :
    dialect.codeOf type = dialect.layout 0 type := by
  have kept : type.AllTexts fun text => ∀ width, indented width text = text :=
    inLine.imp fun text => Text.indentThrough_eq_self
  rw [codeOf_eq_layoutWith breaksNoLine, layoutWith_eq_layout dialect kept]

end Companions

end Dialect

end Companion
