import Companion.Proofs.TypeExpr.Constituents
import Companion.Proofs.TypeExpr.Forms
import Companion.Syntax.Module

/-!
# Leaves of elaborated types

Elaboration keeps the leaves of a syntax tree: keywords, names and literals come out one by one and in
order, and so do the properties of its objects with their keys. What goes is only the grouping of
unions and the wrappers of types.
-/

set_option autoImplicit false

namespace Companion

open Syntax

/-! ## Texts up to quoting and blanks -/

/-- A string body with its escaped single quotes as plain ones; `escaped` tells whether the character
before was an escaping backslash, which is put back unless a single quote follows. -/
def StringBody.unescapeFrom : Bool → Text → Text
  | false, [] => []
  | true, [] => ['\\']
  | false, c :: rest => if c = '\\' then unescapeFrom true rest else c :: unescapeFrom false rest
  | true, c :: rest =>
    if c = '\'' then c :: unescapeFrom false rest else '\\' :: c :: unescapeFrom false rest

/-- Two bodies that differ in the quoting of single quotes only. -/
def StringBody.IsRequoted (body other : Text) : Prop :=
  unescapeFrom false body = unescapeFrom false other

instance (body other : Text) : Decidable (StringBody.IsRequoted body other) :=
  inferInstanceAs (Decidable (_ = _))

theorem StringBody.unescapeFrom_escapeFrom (escaped : Bool) (body : Text) :
    unescapeFrom escaped (escapeFrom escaped body) = unescapeFrom escaped body := by
  induction body generalizing escaped with
  | nil => cases escaped <;> rfl
  | cons c rest ih =>
      cases escaped with
      | true => simp only [escapeFrom, unescapeFrom, ih]
      | false =>
          by_cases backslash : c = '\\'
          · simp only [escapeFrom, unescapeFrom, backslash, if_true, ih]
          · by_cases quote : c = '\''
            · subst quote
              simp [escapeFrom, unescapeFrom, ih]
            · simp only [escapeFrom, unescapeFrom, backslash, quote, if_false, ih]

theorem StringBody.isRequoted_betweenSingleQuotes (body : Text) :
    IsRequoted body (betweenSingleQuotes body) :=
  (unescapeFrom_escapeFrom false body).symm

namespace Text

theorem squeeze_trimStart (text : Text) : squeeze (trimStart text) = squeeze text := by
  induction text with
  | nil => rfl
  | cons c rest ih =>
      rw [trimStart, List.dropWhile_cons]
      split
      · next blank => exact ih.trans (by simp [squeeze, blank])
      · rfl

theorem squeeze_reverse (text : Text) : squeeze text.reverse = (squeeze text).reverse :=
  List.filter_reverse

theorem squeeze_trim (text : Text) : squeeze (trim text) = squeeze text := by
  have front := squeeze_trimStart (trimStart text).reverse
  rw [trim, trimEnd, squeeze_reverse, ← trimStart, front, squeeze_reverse, List.reverse_reverse,
    squeeze_trimStart]

end Text

/-! ## Leaves of syntax trees -/

namespace Syntax.Node

/-- The nodes of types next below a node, from left to right. The key of a property and the name of
a generic type are none. -/
def typeParts (node : Node) : List Node :=
  match node.kind with
  | .predefinedType | .typeIdentifier | .literalType => []
  | .propertySignature => node.annotations
  | .genericType => node.arguments
  | _ => node.constituents

section Collecting

variable {α : Type} (atNode : Node → List α)

mutual

/-- What is found at the nodes of types of a tree, each node before those below it. -/
def collect : Node → List α
  | ⟨kind, field, named, text, line, children⟩ =>
    atNode ⟨kind, field, named, text, line, children⟩ ++
      match kind with
      | .predefinedType | .typeIdentifier | .literalType => []
      | .propertySignature => collectInRole .type children
      | .genericType => collectInRole .typeArguments children
      | _ => collectAll children

def collectAll : List Node → List α
  | [] => []
  | child :: rest =>
    if child.isConstituent then collect child ++ collectAll rest else collectAll rest

def collectInner : Node → List α
  | ⟨_, _, _, _, _, children⟩ => collectAll children

def collectInRole (role : Field) : List Node → List α
  | [] => []
  | child :: rest =>
    if child.field = some role then collectInner child else collectInRole role rest

end

theorem collectAll_eq (children : List Node) :
    collectAll atNode children = (children.filter isConstituent).flatMap (collect atNode) := by
  induction children with
  | nil => rfl
  | cons child rest ih =>
      rw [collectAll, List.filter_cons, ih]
      split
      · rfl
      · rfl

theorem collectInRole_eq (role : Field) (children : List Node) :
    collectInRole atNode role children =
      (((children.find? (·.field = some role)).map (·.constituents)).getD []).flatMap
        (collect atNode) := by
  induction children with
  | nil => rfl
  | cons child rest ih =>
      rw [collectInRole, List.find?_cons, ih]
      have inner : collectInner atNode child = child.constituents.flatMap (collect atNode) := by
        cases child with
        | mk kind field named text line children => exact collectAll_eq atNode children
      by_cases here : child.field = some role
      · simp [here, inner]
      · simp [here]

theorem collect_eq (node : Node) :
    collect atNode node = atNode node ++ node.typeParts.flatMap (collect atNode) := by
  cases node with
  | mk kind field named text line children =>
      conv => lhs; unfold collect
      rw [typeParts, annotations, arguments, child?, child?]
      congr 1
      dsimp only
      split
      · rfl
      · rfl
      · rfl
      · exact collectInRole_eq atNode .type children
      · exact collectInRole_eq atNode .typeArguments children
      · rw [collectAll_eq]
        cases kind <;> rfl

variable {atNode} {node inner : Node}

theorem collect_of_isLeafType (isLeaf : node.isLeafType = true) :
    collect atNode node = atNode node := by
  have parts : node.typeParts = [] := by
    simp only [isLeafType, Bool.or_eq_true, decide_eq_true_eq] at isLeaf
    unfold typeParts
    cases isLeaf with
    | inl isName =>
        cases isName with
        | inl kind => rw [kind]
        | inr kind => rw [kind]
    | inr kind => rw [kind]
  rw [collect_eq, parts, List.flatMap_nil, List.append_nil]

theorem collect_of_hasForm_wrapper (form : node.HasForm (.wrapper inner)) :
    collect atNode node = atNode node ++ collect atNode inner := by
  cases form with
  | parentheses kind holds => simp [collect_eq atNode node, typeParts, kind, holds]
  | readonly kind named holds => simp [collect_eq atNode node, typeParts, kind, holds]

theorem collect_of_objectType (kind : node.kind = .objectType) :
    collect atNode node = atNode node ++ node.constituents.flatMap (collect atNode) := by
  rw [collect_eq, typeParts, kind]

theorem collect_of_propertySignature (kind : node.kind = .propertySignature)
    (typed : node.annotations = [inner]) :
    collect atNode node = atNode node ++ collect atNode inner := by
  simp [collect_eq atNode node, typeParts, kind, typed]

/-- Nothing is found at the nodes that group the members of unions. -/
theorem collect_of_unionType (plain : ∀ node : Node, node.kind = .unionType → atNode node = [])
    (kind : node.kind = .unionType) :
    collect atNode node = node.unionMembers.flatMap (collect atNode) := by
  induction node using induction_below with
  | step node ih =>
      have grouped : ∀ child ∈ node.constituents,
          (asMembers child).flatMap (collect atNode) = collect atNode child := by
        intro child member
        unfold asMembers
        split
        · next nested => exact (ih child (isBelow_of_mem_constituents member) nested).symm
        · rw [List.flatMap_singleton]
      -- what a nested union collects is what its members collect, so flattening changes nothing
      rw [collect_eq, plain node kind, typeParts, kind, unionMembers_eq, List.flatMap_assoc]
      exact (List.flatMap_congr grouped).symm

end Collecting

/-- The keywords, names and literals of a type, from left to right. -/
def leafTypes : Node → List Node := collect fun node => if node.isLeafType then [node] else []

/-- The members of the objects of a type, each before those in its own type. -/
def signatures : Node → List Node :=
  collect fun node => if node.kind = .propertySignature then [node] else []

/-- The tokens of a literal type: its constituents, or the node if there are none. -/
def tokens (node : Node) : List Node :=
  match node.constituents with
  | [] => [node]
  | constituents => constituents

/-- What the grammar promises of one node. -/
structure IsShaped (node : Node) : Prop where
  annotated : node.kind = .propertySignature → node.child? .type ≠ none → node.annotations.length = 1
  union : node.kind = .unionType → node.constituents ≠ []
  literal : node.kind = .literalType → node.constituents.length ≤ 1

theorem IsShaped.annotations_eq {node inner : Node} (shaped : node.IsShaped)
    (kind : node.kind = .propertySignature) (typed : node.annotated? = some inner) :
    node.annotations = [inner] := by
  have one : node.annotations.length = 1 := by
    refine shaped.annotated kind fun missing => ?_
    simp [annotated?, annotations, missing] at typed
  obtain ⟨only, isOnly⟩ := List.length_eq_one_iff.mp one
  rw [annotated?, isOnly] at typed
  rw [isOnly, Option.some.inj typed]

/-- An annotation holds one type, a union at least one member, and a literal type one token. -/
def HasGrammarShape (node : Node) : Prop := ∀ part : Node, part.Within node → part.IsShaped

theorem IsShaped.tokens_eq {node : Node} (shaped : node.IsShaped) (kind : node.kind = .literalType) :
    node.tokens = [node.constituents.head?.getD node] := by
  have few := shaped.literal kind
  unfold tokens
  cases parts : node.constituents with
  | nil => rfl
  | cons token rest =>
      cases rest with
      | nil => rfl
      | cons next rest => simp [parts] at few

instance (node : Node) : Decidable node.IsShaped :=
  decidable_of_iff
    ((node.kind = .propertySignature → node.child? .type ≠ none → node.annotations.length = 1) ∧
      (node.kind = .unionType → node.constituents ≠ []) ∧
      (node.kind = .literalType → node.constituents.length ≤ 1))
    ⟨fun holds => ⟨holds.1, holds.2.1, holds.2.2⟩,
      fun shaped => ⟨shaped.annotated, shaped.union, shaped.literal⟩⟩

instance (node : Node) : Decidable node.HasGrammarShape :=
  decidable_of_iff (node.all fun part => decide part.IsShaped) (by simp [all_eq_true_iff, HasGrammarShape])

theorem HasGrammarShape.of_isBelow {node part : Node} (shaped : node.HasGrammarShape)
    (below : part.IsBelow node) : part.HasGrammarShape :=
  fun inner within => shaped inner (within.trans below.within)

theorem HasGrammarShape.unionMembers_ne_nil {node : Node} (shaped : node.HasGrammarShape)
    (kind : node.kind = .unionType) : node.unionMembers ≠ [] := by
  induction node using induction_below with
  | step node ih =>
      have some := (shaped node .root).union kind
      rw [unionMembers_eq]
      cases children : node.constituents with
      | nil => exact absurd children some
      | cons child rest =>
          have below : child.IsBelow node :=
            isBelow_of_mem_constituents (children ▸ List.mem_cons_self)
          have first : asMembers child ≠ [] := by
            unfold asMembers
            split
            · next nested => exact ih child below (shaped.of_isBelow below) nested
            · exact List.cons_ne_nil _ _
          simp [first]

end Syntax.Node

/-! ## Leaves of types -/

namespace TypeExpr

/-- The primitive types, literals and references of a type, from left to right. -/
def leaves : TypeExpr → List TypeExpr := collect (fun _ => []) fun leaf => [leaf]

/-- The properties of the objects of a type, each before those in its own type. -/
def properties : TypeExpr → List (Property TypeExpr) := collect (fun property => [property]) fun _ => []

theorem forall_properties_object {required : Property TypeExpr → Prop}
    {properties : List (Property TypeExpr)} {line : Option Int} :
    (∀ property ∈ TypeExpr.properties (.object properties line), required property) ↔
      ∀ property ∈ properties,
        required property ∧ ∀ inner ∈ property.type.properties, required inner := by
  simp only [TypeExpr.properties, collect_object, List.forall_mem_flatMap, List.forall_mem_append,
    List.forall_mem_singleton]

theorem forall_properties_union {required : Property TypeExpr → Prop} {members : List TypeExpr}
    {line : Option Int} :
    (∀ property ∈ TypeExpr.properties (.union members line), required property) ↔
      ∀ member ∈ members, ∀ property ∈ member.properties, required property := by
  simp only [TypeExpr.properties, collect_union, List.forall_mem_flatMap]

/-- All unions of a type have two members or more. -/
inductive UnionsBranch : TypeExpr → Prop where
  | primitive {kind : PrimitiveType} {line : Option Int} : UnionsBranch (.primitive kind line)
  | literal {kind : LiteralForm} {raw : Text} {line : Option Int} :
      UnionsBranch (.literal kind raw line)
  | reference {name : Text} {origin : Option ImportedName} {line : Option Int} :
      UnionsBranch (.reference name origin line)
  | object {properties : List (Property TypeExpr)} {line : Option Int}
      (types : ∀ property ∈ properties, UnionsBranch property.type) :
      UnionsBranch (.object properties line)
  | union {members : List TypeExpr} {line : Option Int} (several : 2 ≤ members.length)
      (types : ∀ member ∈ members, UnionsBranch member) : UnionsBranch (.union members line)

/-- What a leaf of a syntax tree stands for: a keyword for its primitive type, a name for a reference
to it, a string for a body with the same text up to quoting, and any other literal for its text
without blanks. -/
inductive IsReadFrom : Node → TypeExpr → Prop where
  | keyword {node : Node} {kind : PrimitiveType}
      (isName : node.kind = .predefinedType ∨ node.kind = .typeIdentifier)
      (text : node.text = kind.keyword) : IsReadFrom node (.primitive kind (some node.line))
  | name {node : Node} {origin : Option ImportedName} (isName : node.kind = .typeIdentifier)
      (plain : ∀ kind : PrimitiveType, node.text ≠ kind.keyword) :
      IsReadFrom node (.reference node.text origin (some node.line))
  | undefined {node token : Node} (isLiteral : node.kind = .literalType)
      (holds : node.tokens = [token])
      (text : token.text.squeeze = PrimitiveType.undefined.keyword) :
      IsReadFrom node (.primitive .undefined (some node.line))
  | string {node token : Node} {body : Text} (isLiteral : node.kind = .literalType)
      (holds : node.tokens = [token]) (isString : token.kind = .string)
      (text : StringBody.IsRequoted token.text.trim.inner body) :
      IsReadFrom node (.literal .string body (some node.line))
  | constant {node token : Node} {form : LiteralForm} (isLiteral : node.kind = .literalType)
      (holds : node.tokens = [token]) (noString : token.kind ≠ .string) (plain : form ≠ .string) :
      IsReadFrom node (.literal form token.text.squeeze (some node.line))

/-- A property has the key of a member of an object, up to quoting if it is quoted, and its optional
mark. -/
structure IsKeyedBy (member : Node) (property : Property TypeExpr) : Prop where
  key : ∃ key, member.child? .name = some key ∧
    if key.kind = .string then
      property.quoted = true ∧ StringBody.IsRequoted key.text.inner property.name
    else property.quoted = false ∧ property.name = key.text
  optional : property.optional = true ↔ ∃ mark ∈ member.children, mark.kind = .questionMark

/-- A type that loses nothing of the tree it is read from. -/
structure KeepsLeaves (node : Node) (type : TypeExpr) : Prop where
  leaves : List.Forall₂ IsReadFrom node.leafTypes type.leaves
  properties : List.Forall₂ IsKeyedBy node.signatures type.properties
  unions : type.UnionsBranch

@[simp] theorem collect_ofMembers {α : Type} (atKey : Property TypeExpr → List α)
    (atLeaf : TypeExpr → List α) (line : Int) (types : List TypeExpr) :
    collect atKey atLeaf (ofMembers line types) = types.flatMap (collect atKey atLeaf) := by
  unfold ofMembers
  split
  · rw [List.flatMap_singleton]
  · exact collect_union atKey atLeaf types _

variable {scope : Scope} {node : Node} {type : TypeExpr}

theorem IsReadFrom.isLeafType (read : IsReadFrom node type) : node.isLeafType = true := by
  cases read with
  | keyword isName text => cases isName with
    | inl kind => simp [Node.isLeafType, kind]
    | inr kind => simp [Node.isLeafType, kind]
  | name kind plain => simp [Node.isLeafType, kind]
  | undefined kind holds text => simp [Node.isLeafType, kind]
  | string kind holds isString text => simp [Node.isLeafType, kind]
  | constant kind holds noString plain => simp [Node.isLeafType, kind]

theorem IsReadFrom.keepsLeaves (read : IsReadFrom node type) : KeepsLeaves node type := by
  have isLeaf := read.isLeafType
  have leaf : node.leafTypes = [node] := by
    rw [Node.leafTypes, Node.collect_of_isLeafType isLeaf, if_pos isLeaf]
  have noSignature : node.signatures = [] := by
    rw [Node.signatures, Node.collect_of_isLeafType isLeaf, if_neg]
    intro kind
    simp [Node.isLeafType, kind] at isLeaf
  have leaves : type.leaves = [type] := by
    cases read <;> rfl
  have noProperty : type.properties = [] := by
    cases read <;> rfl
  constructor
  · rw [leaf, leaves]
    exact .cons read .nil
  · rw [noSignature, noProperty]
    exact .nil
  · cases read with
    | keyword => exact .primitive
    | name => exact .reference
    | undefined => exact .primitive
    | string => exact .literal
    | constant => exact .literal

theorem isReadFrom_of_elaborateName_eq_ok
    (isName : node.kind = .predefinedType ∨ node.kind = .typeIdentifier)
    (elaborated : elaborateName scope node = .ok type) : IsReadFrom node type := by
  cases elaborateName_eq_ok_cases elaborated with
  | inl isKeyword =>
      obtain ⟨kind, keyword, rfl⟩ := isKeyword
      have text := List.find?_some keyword
      exact .keyword isName (of_decide_eq_true text).symm
  | inr isReference =>
      obtain ⟨origin, isIdentifier, plain, -, rfl⟩ := isReference
      refine .name isIdentifier fun kind same => ?_
      have unknown := List.find?_eq_none.mp plain kind
      rw [same] at unknown
      cases kind <;> simp at unknown

private theorem isReadFrom_of_ofKeyword?_eq_some {token : Node}
    (isLiteral : node.kind = .literalType) (holds : node.tokens = [token])
    (noString : token.kind ≠ .string)
    (keyword : Literal.ofKeyword? token.text.trim (some node.line) = some type) :
    IsReadFrom node type := by
  -- the text of a keyword has blanks around it only, so squeezing is trimming
  have constant : ∀ {form : LiteralForm} {word : Text}, form ≠ .string →
      token.text.trim = word → word.squeeze = word →
      IsReadFrom node (.literal form word (some node.line)) := by
    intro form word plain same solid
    have text : token.text.squeeze = word := by rw [← Text.squeeze_trim, same, solid]
    exact text ▸ .constant isLiteral holds noString plain
  unfold Literal.ofKeyword? at keyword
  split at keyword
  · next same =>
    obtain rfl := Option.some.inj keyword
    refine .undefined isLiteral holds ?_
    rw [← Text.squeeze_trim, same]
    rfl
  · split at keyword
    · next same =>
      obtain rfl := Option.some.inj keyword
      exact constant (by decide) rfl (by rw [same]; rfl)
    · split at keyword
      · next same =>
        obtain rfl := Option.some.inj keyword
        refine constant (by decide) rfl ?_
        rw [Bool.or_eq_true, decide_eq_true_eq, decide_eq_true_eq] at same
        cases same with
        | inl same => rw [same]; rfl
        | inr same => rw [same]; rfl
      · cases keyword

theorem isReadFrom_of_elaborateLiteral_eq_ok (isLiteral : node.kind = .literalType)
    (shaped : node.IsShaped) (elaborated : elaborateLiteral scope node = .ok type) :
    IsReadFrom node type := by
  have holds := shaped.tokens_eq isLiteral
  unfold elaborateLiteral at elaborated
  generalize node.constituents.head?.getD node = token at holds elaborated
  dsimp only at elaborated
  split at elaborated
  · next isString =>
    obtain rfl := Except.ok.inj elaborated
    exact .string isLiteral holds isString (StringBody.isRequoted_betweenSingleQuotes _)
  · next noString =>
    split at elaborated
    · next keyword =>
      obtain rfl := Except.ok.inj elaborated
      exact isReadFrom_of_ofKeyword?_eq_some isLiteral holds noString keyword
    · split at elaborated
      · obtain rfl := Except.ok.inj elaborated
        rw [Literal.ofNumber, Text.squeeze_trim]
        exact .constant isLiteral holds noString (by split <;> decide)
      · cases elaborated

theorem isKeyedBy_of_readsProperty {related : Node → TypeExpr → Prop} {member : Node}
    {property : Property TypeExpr} (reads : ReadsProperty scope related member property) :
    IsKeyedBy member property where
  key := by
    obtain ⟨key, isKey, keyed⟩ := reads.keyed
    refine ⟨key, isKey, ?_⟩
    unfold keyOf at keyed
    split at keyed
    · next isString =>
      obtain ⟨name, quoted⟩ := Prod.mk.inj (Except.ok.inj keyed)
      rw [if_pos isString, ← name, ← quoted]
      exact ⟨rfl, StringBody.isRequoted_betweenSingleQuotes _⟩
    · next noString =>
      split at keyed
      · obtain ⟨name, quoted⟩ := Prod.mk.inj (Except.ok.inj keyed)
        rw [if_neg noString]
        exact ⟨quoted.symm, name.symm⟩
      · cases keyed
  optional := by
    rw [reads.optional, List.any_eq_true]
    simp

theorem unionsBranch_ofMembers {line : Int} {types : List TypeExpr} (some : types ≠ [])
    (branch : ∀ type ∈ types, UnionsBranch type) : UnionsBranch (ofMembers line types) := by
  cases types with
  | nil => exact absurd rfl some
  | cons first rest =>
      cases rest with
      | nil => exact branch first List.mem_cons_self
      | cons second rest => exact .union (by simp) branch

theorem KeepsLeaves.of_wrapper {inner : Node} (form : node.HasForm (.wrapper inner))
    (keeps : KeepsLeaves inner type) : KeepsLeaves node type := by
  have plain : node.isLeafType = false ∧ node.kind ≠ .propertySignature := by
    cases form with
    | parentheses kind holds => simp [Node.isLeafType, kind]
    | readonly kind named holds => simp [Node.isLeafType, kind]
  constructor
  · rw [Node.leafTypes, Node.collect_of_hasForm_wrapper form, plain.1]
    exact keeps.leaves
  · rw [Node.signatures, Node.collect_of_hasForm_wrapper form, if_neg plain.2]
    exact keeps.properties
  · exact keeps.unions

theorem keepsLeaves_union {types : List TypeExpr} (kind : node.kind = .unionType)
    (shaped : node.HasGrammarShape)
    (members : List.Forall₂ (fun member type => member.HasGrammarShape → KeepsLeaves member type)
      node.unionMembers types) : KeepsLeaves node (ofMembers node.line types) := by
  -- members of nested unions stand below the node too, and have its shape
  have each : List.Forall₂ KeepsLeaves node.unionMembers types := by
    refine ((List.forall₂_and_left _ _).mpr ⟨fun _ member => member, members⟩).imp ?_
    intro member type both
    exact both.2 (shaped.of_isBelow (Node.isBelow_of_mem_unionMembers both.1))
  constructor
  · rw [Node.leafTypes, Node.collect_of_unionType (fun node kind => by simp [Node.isLeafType, kind])
      kind, leaves, collect_ofMembers]
    exact List.rel_flatMap each fun _ _ keeps => keeps.leaves
  · rw [Node.signatures, Node.collect_of_unionType (fun node kind => by simp [kind]) kind, properties,
      collect_ofMembers]
    exact List.rel_flatMap each fun _ _ keeps => keeps.properties
  · apply unionsBranch_ofMembers
    · intro empty
      rw [empty, List.forall₂_nil_right_iff] at each
      exact shaped.unionMembers_ne_nil kind each
    · exact Failure.forall_of_forall₂ (fun _ _ keeps => keeps.unions) each

/-- What a property of an object keeps of the member that it is read from. -/
structure KeepsProperty (member : Node) (property : Property TypeExpr) : Prop where
  leaves : List.Forall₂ IsReadFrom member.leafTypes property.type.leaves
  properties : List.Forall₂ IsKeyedBy member.signatures (property :: property.type.properties)
  unions : property.type.UnionsBranch

theorem ReadsProperty.keepsProperty {member : Node} {property : Property TypeExpr}
    (reads : ReadsProperty scope (fun node type => node.HasGrammarShape → KeepsLeaves node type)
      member property) (shaped : member.HasGrammarShape) : KeepsProperty member property := by
  obtain ⟨inner, typed, keeps⟩ := reads.typed
  have kept := keeps (shaped.of_isBelow (Node.isBelow_of_annotated?_eq_some typed))
  have only := (shaped member .root).annotations_eq reads.isSignature typed
  constructor
  · have plain : member.isLeafType = false := by simp [Node.isLeafType, reads.isSignature]
    rw [Node.leafTypes, Node.collect_of_propertySignature reads.isSignature only, plain]
    exact kept.leaves
  · rw [Node.signatures, Node.collect_of_propertySignature reads.isSignature only,
      if_pos reads.isSignature]
    exact .cons (isKeyedBy_of_readsProperty reads) kept.properties
  · exact kept.unions

theorem keepsLeaves_object {properties : List (Property TypeExpr)} (kind : node.kind = .objectType)
    (shaped : node.HasGrammarShape)
    (members : List.Forall₂ (ReadsProperty scope fun node type =>
      node.HasGrammarShape → KeepsLeaves node type) node.constituents properties) :
    KeepsLeaves node (.object properties (some node.line)) := by
  have each : List.Forall₂ KeepsProperty node.constituents properties := by
    refine ((List.forall₂_and_left _ _).mpr ⟨fun _ member => member, members⟩).imp ?_
    intro member property both
    exact both.2.keepsProperty (shaped.of_isBelow (Node.isBelow_of_mem_constituents both.1))
  constructor
  · rw [Node.leafTypes, Node.collect_of_objectType kind, leaves, collect_object]
    simp only [Node.isLeafType, kind, reduceCtorEq, decide_false, Bool.or_self, Bool.false_eq_true,
      if_false, List.nil_append]
    exact List.rel_flatMap each fun _ _ keeps => keeps.leaves
  · rw [Node.signatures, Node.collect_of_objectType kind, TypeExpr.properties, collect_object]
    simp only [kind, reduceCtorEq, if_false, List.nil_append]
    exact List.rel_flatMap each fun _ _ keeps => keeps.properties
  · exact .object (Failure.forall_of_forall₂ (fun _ _ keeps => keeps.unions) each)

/-- Elaboration loses nothing: every keyword, name and literal of the tree and every property comes out
once and in its place, and unions branch. -/
theorem keepsLeaves_of_elaborate_eq_ok (shaped : node.HasGrammarShape)
    (elaborated : elaborate scope node = .ok type) : KeepsLeaves node type := by
  revert shaped
  refine elaborate_induction (motive := fun node type => node.HasGrammarShape → KeepsLeaves node type)
    ?name ?literal ?object ?union ?wrapper elaborated
  case name =>
    intro node type isName elaborated _
    exact (isReadFrom_of_elaborateName_eq_ok isName elaborated).keepsLeaves
  case literal =>
    intro node type isLiteral elaborated shaped
    exact (isReadFrom_of_elaborateLiteral_eq_ok isLiteral (shaped node .root) elaborated).keepsLeaves
  case object =>
    intro node properties kind members shaped
    exact keepsLeaves_object kind shaped members
  case union =>
    intro node types kind members shaped
    exact keepsLeaves_union kind shaped members
  case wrapper =>
    intro node inner type form keeps shaped
    exact (keeps (shaped.of_isBelow form.isBelow)).of_wrapper form

/-- An object type with a quoted key, wrappers, and a union in parentheses inside a union. -/
def recordType : Node :=
  let source := Syntax.Module.read "src/a.ppx.ts"
    "type T = \x7b 'it\\'s'?: Readonly<(A | (\"it's\" | - 1))>; b: string \x7d;\n"
  (source.statements.head?.bind fun statement => statement.declaration.child? .value).getD default

theorem keepsLeaves_recordType :
    recordType.HasGrammarShape ∧
      recordType.leafTypes.map (·.text) =
        ["A".toList, "\"it's\"".toList, "- 1".toList, "string".toList] ∧
      ∃ type, elaborate (.ofImports "src/a.ppx.ts" []) recordType = .ok type ∧
        KeepsLeaves recordType type := by
  obtain ⟨shaped, texts, built⟩ : recordType.HasGrammarShape ∧
      recordType.leafTypes.map (·.text) =
        ["A".toList, "\"it's\"".toList, "- 1".toList, "string".toList] ∧
      (elaborate (.ofImports "src/a.ppx.ts" []) recordType).toOption.isSome = true := by
    decide +kernel
  obtain ⟨type, found⟩ := Option.isSome_iff_exists.mp built
  have elaborated := Failure.toOption_eq_some_iff.mp found
  exact ⟨shaped, texts, type, elaborated, keepsLeaves_of_elaborate_eq_ok shaped elaborated⟩

end TypeExpr

end Companion
