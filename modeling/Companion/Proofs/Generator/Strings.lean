import Companion.Proofs.Generator.Layout
import Companion.Proofs.Generator.Plugin

/-!
# Strings of companions

What becomes of names and strings on the way into the statement that declares a companion. The
statement is laid out as it should be, and everything that stands on one line stands in it as it was
written. A string with a line end inside does not: the lines of a string literal are taken for lines
of code.
-/

set_option autoImplicit false

namespace Companion

/-! ## Occurrences -/

namespace Text

/-- Texts occur one behind the other. -/
def HoldsInOrder : List Text → Text → Prop
  | [], _ => True
  | part :: parts, text => ∃ before behind, text = before ++ part ++ behind ∧ HoldsInOrder parts behind

theorem HoldsInOrder.embed {parts : List Text} {text : Text} (holds : HoldsInOrder parts text)
    (first last : Text) : HoldsInOrder parts (first ++ text ++ last) := by
  induction parts generalizing first text with
  | nil => trivial
  | cons part parts ih =>
      obtain ⟨before, behind, rfl, others⟩ := holds
      exact ⟨first ++ before, behind ++ last, by simp only [List.append_assoc], by
        simpa using ih others []⟩

theorem HoldsInOrder.append {left right : List Text} {first second : Text}
    (holdsLeft : HoldsInOrder left first) (holdsRight : HoldsInOrder right second) :
    HoldsInOrder (left ++ right) (first ++ second) := by
  induction left generalizing first with
  | nil => simpa using holdsRight.embed first []
  | cons part parts ih =>
      obtain ⟨before, behind, rfl, others⟩ := holdsLeft
      exact ⟨before, behind ++ second, by simp only [List.append_assoc], ih others⟩

theorem holdsInOrder_singleton (first part last : Text) :
    HoldsInOrder [part] (first ++ part ++ last) := ⟨first, last, rfl, trivial⟩

theorem HoldsInOrder.flatMap {α : Type} {parts : α → List Text} {text : α → Text} {items : List α}
    (each : ∀ item ∈ items, HoldsInOrder (parts item) (text item)) :
    HoldsInOrder (items.flatMap parts) (items.flatMap text) := by
  induction items with
  | nil => trivial
  | cons item items ih =>
      rw [List.flatMap_cons, List.flatMap_cons]
      exact (each item List.mem_cons_self).append
        (ih fun other member => each other (List.mem_cons_of_mem _ member))

theorem HoldsInOrder.join {α : Type} {parts : α → List Text} {text : α → Text} {items : List α}
    (each : ∀ item ∈ items, HoldsInOrder (parts item) (text item)) (separator : Text) :
    HoldsInOrder (items.flatMap parts) (Text.join separator (items.map text)) := by
  cases items with
  | nil => trivial
  | cons item items =>
      have others : HoldsInOrder (items.flatMap parts)
          (items.flatMap fun other => separator ++ text other) :=
        HoldsInOrder.flatMap fun other member => by
          simpa using (each other (List.mem_cons_of_mem _ member)).embed separator []
      rw [List.flatMap_cons, List.map_cons, join_cons_eq_flatMap, List.flatMap_map]
      exact (each item List.mem_cons_self).append others

theorem HoldsInOrder.mem {parts : List Text} {text part : Text} (holds : HoldsInOrder parts text)
    (member : part ∈ parts) {c : Char} (inPart : c ∈ part) : c ∈ text := by
  induction parts generalizing text with
  | nil => cases member
  | cons first parts ih =>
      obtain ⟨before, behind, rfl, others⟩ := holds
      rcases List.mem_cons.mp member with rfl | member
      · exact List.mem_append_left _ (List.mem_append_right _ inPart)
      · exact List.mem_append_right _ (ih others member)

/-! ## Lengths -/

/-- A text is no longer than another one, and shorter if something is the case. -/
def IsOutgrown (short long : Text) (strictly : Prop) : Prop :=
  short.length ≤ long.length ∧ (strictly → short.length < long.length)

namespace IsOutgrown

variable {short long : Text} {strictly : Prop}

theorem refl (text : Text) : IsOutgrown text text False := ⟨Nat.le_refl _, False.elim⟩

theorem imp {other : Prop} (outgrown : IsOutgrown short long strictly) (within : other → strictly) :
    IsOutgrown short long other := ⟨outgrown.1, fun holds => outgrown.2 (within holds)⟩

theorem append {shortBehind longBehind : Text} {other : Prop}
    (outgrown : IsOutgrown short long strictly)
    (behind : IsOutgrown shortBehind longBehind other) :
    IsOutgrown (short ++ shortBehind) (long ++ longBehind) (strictly ∨ other) := by
  obtain ⟨le, lt⟩ := outgrown
  obtain ⟨leBehind, ltBehind⟩ := behind
  constructor
  · rw [List.length_append, List.length_append]
    exact Nat.add_le_add le leBehind
  · rw [List.length_append, List.length_append]
    rintro (holds | holds)
    · exact Nat.add_lt_add_of_lt_of_le (lt holds) leBehind
    · exact Nat.add_lt_add_of_le_of_lt le (ltBehind holds)

theorem embed (outgrown : IsOutgrown short long strictly) (first last : Text) :
    IsOutgrown (first ++ short ++ last) (first ++ long ++ last) strictly :=
  (((refl first).append outgrown).append (refl last)).imp fun holds => .inl (.inr holds)

variable {α : Type} {inner outer : α → Text} {holds : α → Prop} {items : List α}

theorem flatMap (each : ∀ item ∈ items, IsOutgrown (inner item) (outer item) (holds item)) :
    IsOutgrown (items.flatMap inner) (items.flatMap outer) (∃ item ∈ items, holds item) := by
  induction items with
  | nil => exact (refl []).imp (by simp)
  | cons item items ih =>
      rw [List.flatMap_cons, List.flatMap_cons]
      exact ((each item List.mem_cons_self).append
        (ih fun other member => each other (List.mem_cons_of_mem _ member))).imp (by simp)

theorem join (each : ∀ item ∈ items, IsOutgrown (inner item) (outer item) (holds item))
    (separator : Text) : IsOutgrown (Text.join separator (items.map inner))
      (Text.join separator (items.map outer)) (∃ item ∈ items, holds item) := by
  cases items with
  | nil => exact (refl []).imp (by simp)
  | cons item items =>
      have others : IsOutgrown (items.flatMap fun other => separator ++ inner other)
          (items.flatMap fun other => separator ++ outer other) (∃ other ∈ items, holds other) :=
        flatMap fun other member => by
          simpa using (each other (List.mem_cons_of_mem _ member)).embed separator []
      rw [List.map_cons, List.map_cons, join_cons_eq_flatMap, join_cons_eq_flatMap,
        List.flatMap_map, List.flatMap_map]
      exact ((each item List.mem_cons_self).append others).imp (by simp)

end IsOutgrown

end Text

namespace Dialect

variable {dialect : Dialect} (breaksNoLine : dialect.BreaksNoLine)

include breaksNoLine

section Layouts

variable {write : Nat → Text → Text} {type : TypeExpr}

omit breaksNoLine in
/-- A layout holds in order what it holds at each key and at each leaf. -/
theorem holdsInOrder_collect {atKey : Property TypeExpr → List Text}
    {atLeaf : TypeExpr → List Text} {required : Text → Prop}
    (key : ∀ property, (∀ text ∈ atKey property, required text) →
      ∀ width, Text.HoldsInOrder (atKey property) (write width (keyCode property)))
    (leaf : ∀ leaf, (∀ text ∈ atLeaf leaf, required text) →
      ∀ width, Text.HoldsInOrder (atLeaf leaf) (dialect.layoutWith write width leaf))
    (kept : ∀ text ∈ type.collect atKey atLeaf, required text) (width : Nat) :
    Text.HoldsInOrder (type.collect atKey atLeaf) (dialect.layoutWith write width type) := by
  induction type generalizing width with
  | primitive kind line => exact leaf _ kept width
  | literal kind raw line => exact leaf _ kept width
  | object properties line ih =>
      simp only [TypeExpr.collect_object, List.mem_flatMap, List.mem_append] at kept
      have each : ∀ property ∈ properties,
          Text.HoldsInOrder (atKey property ++ property.type.collect atKey atLeaf)
            (dialect.propertyLines (width + 2) (write width (keyCode property)) property.optional
              (dialect.layoutWith write (width + 2) property.type)) := by
        intro property member
        have name := (key property (fun text inKey => kept text ⟨property, member, .inl inKey⟩)
          width).embed (lineBreak (width + 2)) ": "
        have type := ih property member
          (fun text inType => kept text ⟨property, member, .inr inType⟩) (width + 2)
        have value : Text.HoldsInOrder (property.type.collect atKey atLeaf)
            (dialect.propertyValue property.optional
              (dialect.layoutWith write (width + 2) property.type) ++ ",") := by
          cases property.optional with
          | false => simpa [propertyValue] using type.embed [] ","
          | true =>
              have marked := (type.embed dialect.optional.1 dialect.optional.2).embed [] ","
              simpa [propertyValue, enclose] using marked
        simpa only [propertyLines, List.append_assoc] using name.append value
      have lines := Text.HoldsInOrder.flatMap each
      rw [layoutWith_object, List.append_assoc]
      simpa only [TypeExpr.collect_object] using lines.embed _ _
  | union members line ih =>
      simp only [TypeExpr.collect_union, List.mem_flatMap] at kept
      have parts := Text.HoldsInOrder.join (fun member isMember => ih member isMember
        (fun text inMember => kept text ⟨member, isMember, inMember⟩) width) ", "
      rw [layoutWith_union, enclose]
      simpa only [TypeExpr.collect_union] using parts.embed _ _
  | reference name origin line => exact leaf _ kept width
  | unclassified line => exact leaf _ kept width

/-- A layout holds the strings of its type as they are written, if that is what they are. -/
theorem holdsInOrder_layoutWith
    (kept : ∀ text ∈ type.strings, ∀ width, write width text = text) (width : Nat) :
    Text.HoldsInOrder type.strings (dialect.layoutWith write width type) := by
  refine holdsInOrder_collect ?_ ?_ kept width
  · intro property kept width
    cases quoted : property.quoted with
    | false => simp [TypeExpr.keyStrings, quoted, Text.HoldsInOrder]
    | true =>
        have isString : keyCode property ∈ TypeExpr.keyStrings property := by
          simp [TypeExpr.keyStrings, quoted]
        rw [kept _ isString, TypeExpr.keyStrings, if_pos quoted]
        simpa using Text.holdsInOrder_singleton [] (keyCode property) []
  · intro leaf kept width
    cases leaf with
    | literal kind raw line =>
        cases kind with
        | string =>
            obtain ⟨first, last, -, -, -, around | ⟨other, -⟩⟩ := breaksNoLine.literal .string
            · rw [layoutWith, kept _ (List.mem_singleton.mpr rfl), around]
              exact Text.holdsInOrder_singleton _ _ _
            · exact absurd rfl other
        | _ => trivial
    | _ => trivial

omit breaksNoLine in
theorem isOutgrown_propertyLines (dialect : Dialect) (width : Nat) (optional : Bool)
    {key longKey code longCode : Text} {inKey inCode : Prop}
    (keys : Text.IsOutgrown key longKey inKey) (codes : Text.IsOutgrown code longCode inCode) :
    Text.IsOutgrown (dialect.propertyLines width key optional code)
      (dialect.propertyLines width longKey optional longCode) (inKey ∨ inCode) := by
  have values : Text.IsOutgrown (dialect.propertyValue optional code)
      (dialect.propertyValue optional longCode) inCode := by
    cases optional with
    | false => exact codes
    | true => exact codes.embed dialect.optional.1 dialect.optional.2
  simpa [propertyLines] using
    (keys.embed (lineBreak width) ": ".toList).append (values.embed [] ",".toList)

theorem isOutgrown_literal (kind : LiteralForm) {source longSource : Text} {strictly : Prop}
    (sources : Text.IsOutgrown source longSource strictly) :
    Text.IsOutgrown (dialect.literal kind source) (dialect.literal kind longSource)
      (kind = .string ∧ strictly) := by
  obtain ⟨first, last, -, -, -, around | ⟨other, fixed⟩⟩ := breaksNoLine.literal kind
  · rw [around, around]
    exact (sources.embed first last).imp And.right
  · rw [fixed, fixed]
    exact (Text.IsOutgrown.refl _).imp fun holds => other holds.1

omit breaksNoLine in
theorem mem_strings_literal {kind : LiteralForm} {raw : Text} {line : Option Int} {text : Text} :
    text ∈ (TypeExpr.literal kind raw line).strings ↔
      kind = .string ∧ text = literalCode kind raw := by
  cases kind with
  | string => simp [TypeExpr.strings, TypeExpr.collect, TypeExpr.leafStrings]
  | _ => simp [TypeExpr.strings, TypeExpr.collect, TypeExpr.leafStrings]

omit breaksNoLine in
theorem eq_keyCode_of_mem_keyStrings {property : Property TypeExpr} {text : Text}
    (member : text ∈ TypeExpr.keyStrings property) : text = keyCode property := by
  rw [TypeExpr.keyStrings] at member
  split at member
  · exact List.mem_singleton.mp member
  · cases member

/-- A layout is at least as long as another one if each name and string is, and longer if some
string is longer wherever it stands. -/
theorem isOutgrown_layout {least : Nat}
    (grows : type.AllTexts fun text => ∀ width, least ≤ width →
      text.length ≤ (write width text).length) (width : Nat) (deep : least ≤ width) :
    Text.IsOutgrown (dialect.layout width type) (dialect.layoutWith write width type)
      (∃ text ∈ type.strings, ∀ width, least ≤ width →
        text.length < (write width text).length) := by
  have written {text : Text} {width : Nat} (deep : least ≤ width)
      (grown : ∀ width, least ≤ width → text.length ≤ (write width text).length) :
      Text.IsOutgrown text (write width text)
        (∀ width, least ≤ width → text.length < (write width text).length) :=
    ⟨grown width deep, fun longer => longer width deep⟩
  induction type generalizing width with
  | primitive kind line =>
      refine (Text.IsOutgrown.refl _).imp ?_
      rintro ⟨text, member, -⟩
      cases member
  | literal kind raw line =>
      refine (isOutgrown_literal breaksNoLine kind
        (written deep (TypeExpr.allTexts_literal.mp grows))).imp ?_
      rintro ⟨text, member, longer⟩
      obtain ⟨isString, rfl⟩ := mem_strings_literal.mp member
      exact ⟨isString, longer⟩
  | object properties line ih =>
      rw [TypeExpr.allTexts_object] at grows
      have lines := Text.IsOutgrown.flatMap fun property member =>
        isOutgrown_propertyLines dialect (width + 2) property.optional
          (written deep (grows property member).1)
          (ih property member (grows property member).2 (width + 2) (by omega))
      rw [layout_object, layoutWith_object]
      refine ((lines.embed dialect.object.1 _).append (.refl dialect.object.2)).imp ?_
      rintro ⟨text, member, longer⟩
      rw [TypeExpr.strings, TypeExpr.collect_object, List.mem_flatMap] at member
      obtain ⟨property, isProperty, inProperty⟩ := member
      refine .inl ⟨property, isProperty, ?_⟩
      cases List.mem_append.mp inProperty with
      | inl inKey =>
          obtain rfl := eq_keyCode_of_mem_keyStrings inKey
          exact .inl longer
      | inr inType => exact .inr ⟨text, inType, longer⟩
  | union members line ih =>
      rw [TypeExpr.allTexts_union] at grows
      have parts := Text.IsOutgrown.join
        (fun member isMember => ih member isMember (grows member isMember) width deep) ", "
      rw [layout_union, layoutWith_union]
      refine (parts.embed dialect.union.1 dialect.union.2).imp ?_
      rintro ⟨text, member, longer⟩
      rw [TypeExpr.strings, TypeExpr.collect_union, List.mem_flatMap] at member
      obtain ⟨member, isMember, inMember⟩ := member
      exact ⟨member, isMember, text, inMember, longer⟩
  | reference name origin line =>
      obtain ⟨first, -, around⟩ := breaksNoLine.companionName
      rw [layout, layoutWith, layoutWith, around, around]
      refine ((written deep (TypeExpr.allTexts_reference.mp grows)).embed first dialect.call).imp ?_
      rintro ⟨text, member, -⟩
      cases member
  | unclassified line =>
      refine (Text.IsOutgrown.refl _).imp ?_
      rintro ⟨text, member, -⟩
      cases member

end Layouts

/-! ## Statements -/

/-- Code ends in a parenthesis or bracket of its dialect. -/
theorem getLast?_codeOf_ne (type : TypeExpr) : (dialect.codeOf type).getLast? ≠ some '\r' := by
  rw [codeOf_eq_layoutWith breaksNoLine]
  obtain ⟨objectCloses, unionCloses, calls⟩ := breaksNoLine.closing
  cases type with
  | primitive kind line => exact (breaksNoLine.primitive kind).getLast?_ne
  | literal kind raw line =>
      obtain ⟨first, last, -, inLine, some, around | ⟨-, fixed⟩⟩ := breaksNoLine.literal kind
      · rw [layoutWith, around]
        exact inLine.getLast?_append_ne some
      · rw [layoutWith, fixed]
        exact inLine.getLast?_append_ne some
  | object properties line =>
      rw [layoutWith_object]
      exact breaksNoLine.object.2.getLast?_append_ne objectCloses
  | union members line =>
      rw [layoutWith_union]
      exact breaksNoLine.union.2.getLast?_append_ne unionCloses
  | reference name origin line => exact breaksNoLine.call.getLast?_append_ne calls
  | unclassified line => simp [layoutWith]

/-- A name or string in lines that are indented by `width` spaces, once the statement has been laid
out: each of its line ends starts a line of the statement. -/
def rewritten (width : Nat) (text : Text) : Text :=
  indented 2 (Text.normalizeLineEnds (indented (width - 2) text))

omit breaksNoLine in
theorem rewritten_eq_self {text : Text} (inLine : text.InLine) (width : Nat) :
    rewritten width text = text := by
  have unchanged := Text.normalizeLineEnds_append inLine []
  rw [List.append_nil, Text.normalizeLineEnds, List.append_nil] at unchanged
  rw [rewritten, indented, indented, Text.indentThrough_eq_self inLine.not_mem, unchanged,
    Text.indentThrough_eq_self inLine.not_mem]

omit breaksNoLine in
/-- Where line feeds are the only line ends, they are followed by the spaces of the line. -/
theorem rewritten_eq_indented {text : Text} (feeds : ∀ c ∈ text, Text.isLineEnd c = true → c = '\n')
    {width : Nat} (deep : 2 ≤ width) : rewritten width text = indented width text := by
  have unchanged : (indented (width - 2) text).normalizeLineEnds = indented (width - 2) text := by
    refine Text.normalizeLineEnds_eq_self fun c member ends => ?_
    rcases Text.mem_indentThrough member with inText | rfl
    · exact feeds c inText ends
    · cases ends
  rw [rewritten, unchanged, ← indented_indented, Nat.add_sub_cancel' deep]

/-- The laid-out code of a type is its layout with names and strings rewritten. -/
theorem indentLines_codeOf (type : TypeExpr) :
    (dialect.codeOf type).indentLines 2 = dialect.layoutWith rewritten 2 type := by
  have composed : ∀ width text, rewritten (2 + width) text =
      indented 2 (indented width text).normalizeLineEnds := by
    intro width text
    rw [rewritten, Nat.add_sub_cancel_left]
  have normalized : (dialect.codeOf type).normalizeLineEnds =
      dialect.layoutWith (fun width text => (indented width text).normalizeLineEnds) 0 type := by
    have whole := (passes_normalizeLineEnds fun width text =>
      (rfl : (indented width text).normalizeLineEnds = _)).layoutWith breaksNoLine type 0 []
    rw [codeOf_eq_layoutWith breaksNoLine]
    simpa [Text.normalizeLineEnds] using whole
  rw [Text.indentLines_eq_nest 2 (getLast?_codeOf_ne breaksNoLine type), normalized,
    nest_layoutWith breaksNoLine composed]

/-- Strings are what they are in the right place exactly when they break no line. -/
theorem layoutWith_rewritten_eq_layout_iff {type : TypeExpr}
    (names : ∀ text ∈ type.names, Text.InLine text) :
    dialect.layoutWith rewritten 2 type = dialect.layout 2 type ↔
      ∀ text ∈ type.strings, Text.InLine text := by
  constructor
  · intro same
    -- no line end but the line feed is left in the statement
    have feeds : ∀ text ∈ type.strings, ∀ c ∈ text, Text.isLineEnd c = true → c = '\n' := by
      intro text member c inText ends
      have inLayout : c ∈ dialect.layout 2 type :=
        (holdsInOrder_layoutWith breaksNoLine (fun _ _ _ => rfl) 2).mem member inText
      rw [← same, ← indentLines_codeOf breaksNoLine,
        Text.indentLines_eq_nest 2 (getLast?_codeOf_ne breaksNoLine type),
        Text.nest_eq_indentFrom] at inLayout
      rcases Text.mem_indentThrough ((Text.indentFrom_prefix_indentThrough 2 false _).subset
        inLayout) with inCode | rfl
      · exact Text.isLineEnd_of_mem_normalizeLineEnds inCode ends
      · cases ends
    -- and a line feed makes its string longer
    have grows : type.AllTexts fun text => ∀ width, 2 ≤ width →
        text.length ≤ (rewritten width text).length := by
      refine ⟨fun text member width deep => ?_, fun text member width deep => ?_⟩
      · exact Nat.le_of_eq (congrArg _ (rewritten_eq_self (names text member) width).symm)
      · rw [rewritten_eq_indented (feeds text member) deep]
        exact Nat.le_trans (Nat.le_add_right _ _) (Text.length_indentThrough width false text)
    intro text member c inText
    cases ends : Text.isLineEnd c with
    | false => rfl
    | true =>
        obtain rfl := feeds text member c inText ends
        have grown : ∀ width, 2 ≤ width → text.length < (rewritten width text).length := by
          intro width deep
          have added := Text.length_indentThrough width false text
          rw [if_pos (.inr inText)] at added
          rw [rewritten_eq_indented (feeds text member) deep, indented]
          omega
        have longer := (isOutgrown_layout breaksNoLine grows 2 (Nat.le_refl 2)).2
          ⟨text, member, grown⟩
        rw [same] at longer
        exact absurd longer (Nat.lt_irrefl _)
  · intro strings
    exact layoutWith_eq_layout dialect
      ⟨fun text member => rewritten_eq_self (names text member),
        fun text member => rewritten_eq_self (strings text member)⟩ 2

end Dialect

/-- The expression stands in the declaration as it is. -/
theorem Library.exists_declaration_eq (library : Library) (name : Text) :
    ∃ first last, ∀ expression,
      library.dialect.declaration name expression = first ++ expression ++ last := by
  cases library with
  | zod =>
      exact ⟨"export const " ++ name ++ " = \x7b\n  schema: () => ",
        ".transform((x): " ++ name ++ " => x),\n\x7d as const;", fun expression => by
          simp only [Library.dialect, Dialect.zod, List.append_assoc]⟩
  | fastCheck =>
      exact ⟨"export function arbitrary" ++ name ++ "(): Arbitrary<" ++ name ++ "> \x7b\n  return ",
        ";\n\x7d", fun expression => rfl⟩

/-- The companion of a type alias holds the strings of its type one behind the other, as they are
written, unless some string has a line end inside; and it is laid out with the strings as they are
exactly when no string has. -/
theorem Plugin.generate_keeps_strings_iff {plugin : Plugin} {context : CompanionContext}
    {declaration : Declaration} {type : TypeExpr} {artifact : Artifact}
    (aliased : declaration.type = some type)
    (generated : plugin.generate context declaration = .ok artifact) :
    ∃ statement,
      artifact.statements = [Dialect.aliasStatement declaration.name, statement] ∧
      ((∀ text ∈ type.strings, Text.InLine text) → Text.HoldsInOrder type.strings statement) ∧
      ((∀ text ∈ type.names, Text.InLine text) →
        (statement = plugin.library.dialect.declaration declaration.name
            (plugin.library.dialect.layout 2 type) ↔
          ∀ text ∈ type.strings, Text.InLine text)) := by
  obtain ⟨-, _, expression, specifier, declared, expressed, -, rfl⟩ :=
    generate_eq_ok_iff.mp generated
  obtain rfl := Option.some.inj (aliased.symm.trans declared)
  have breaksNoLine := plugin.library.breaksNoLine
  have code : plugin.library.dialect.companionStatement declaration.name expression.code =
      plugin.library.dialect.declaration declaration.name
        (plugin.library.dialect.layoutWith Dialect.rewritten 2 type) := by
    rw [Dialect.companionStatement, (Dialect.expresses_of_express_eq_ok expressed).code,
      Dialect.indentLines_codeOf breaksNoLine]
  obtain ⟨first, last, declares⟩ := plugin.library.exists_declaration_eq declaration.name
  refine ⟨_, rfl, fun strings => ?_, fun names => ?_⟩
  · have held := Dialect.holdsInOrder_layoutWith breaksNoLine (fun text member =>
      Dialect.rewritten_eq_self (strings text member)) 2
    rw [code, declares]
    exact held.embed first last
  · rw [code, ← Dialect.layoutWith_rewritten_eq_layout_iff breaksNoLine names, declares, declares]
    exact ⟨fun same => List.append_cancel_left (List.append_cancel_right same),
      fun same => by rw [same]⟩

/-- The type `\x7b 'a b': ';' \x7d` keeps its key and its literal. -/
theorem Plugin.generate_keeps_quoted_key :
    ∃ artifact statement,
      Plugin.generate ⟨"zod", .zod, .ok, .ok⟩ ⟨"/", "src/a.ppx.ts", "src/a.ts", none, .ok⟩
        ⟨"A", .typeAlias, "type_alias_declaration",
          some (.object [⟨"a b", .literal .string ";" none, false, true⟩] none), [], ⟨[], none⟩⟩ =
        .ok artifact ∧
      artifact.statements = ["export type A = $A;".toList, statement] ∧
      Text.HoldsInOrder ["'a b'".toList, "';'".toList] statement ∧
      statement = Dialect.zod.declaration "A" (Dialect.zod.layout 2
        (.object [⟨"a b", .literal .string ";" none, false, true⟩] none)) := by
  have strings : ∀ text ∈ TypeExpr.strings
      (.object [⟨"a b", .literal .string ";" none, false, true⟩] none), Text.InLine text := by
    decide
  have names : ∀ text ∈ TypeExpr.names
      (.object [⟨"a b", .literal .string ";" none, false, true⟩] none), Text.InLine text := by
    decide
  obtain ⟨artifact, generated⟩ : ∃ artifact,
      Plugin.generate ⟨"zod", .zod, .ok, .ok⟩ ⟨"/", "src/a.ppx.ts", "src/a.ts", none, .ok⟩
        ⟨"A", .typeAlias, "type_alias_declaration",
          some (.object [⟨"a b", .literal .string ";" none, false, true⟩] none), [], ⟨[], none⟩⟩ =
        .ok artifact := ⟨_, rfl⟩
  obtain ⟨statement, statements, held, laidOut⟩ :=
    Plugin.generate_keeps_strings_iff rfl generated
  exact ⟨artifact, statement, generated, statements, held strings, (laidOut names).mpr strings⟩

/-- A line separator in a string, which string literals may hold, becomes a line feed and two
spaces. -/
theorem Plugin.generate_breaks_string :
    ∃ artifact,
      Plugin.generate ⟨"zod", .zod, .ok, .ok⟩ ⟨"/", "src/a.ppx.ts", "src/a.ts", none, .ok⟩
        ⟨"A", .typeAlias, "type_alias_declaration", some (.literal .string "a\u2028b" none), [],
          ⟨[], none⟩⟩ = .ok artifact ∧
      TypeExpr.strings (.literal .string "a\u2028b" none) = ["'a\u2028b'".toList] ∧
      (∀ statement ∈ artifact.statements, Text.hasPart "'a\u2028b'" statement = false) ∧
      ∃ statement ∈ artifact.statements, Text.hasPart "'a\n  b'" statement = true :=
  ⟨_, rfl, rfl, by decide, by decide⟩

end Companion
