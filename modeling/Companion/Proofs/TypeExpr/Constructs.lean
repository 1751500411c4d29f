import Companion.Proofs.TypeExpr.Forms

/-!
# Constructs

The constructs of a type are its nodes in type position and the members of its objects, each before what
stands inside it. Each of them can fail to be elaborated on its own account, and the first of these
failures is the one that the type fails with.
-/

set_option autoImplicit false

namespace Companion

open Syntax

/-! ## Constructs -/

/-- What stands in a type: a node in type position, or a member of an object. -/
inductive Construct where
  | type (node : Node)
  | member (node : Node)

namespace Syntax.Node

mutual

/-- The constructs of a type, from left to right. -/
def constructs : Node → List Construct
  | ⟨kind, field, named, text, line, children⟩ =>
    .type ⟨kind, field, named, text, line, children⟩ ::
      match kind with
      | .parenthesizedType | .unionType => constructsOfAll children
      | .genericType => constructsInRole .typeArguments children
      | .objectType => constructsOfMembers children
      | _ => []

def constructsOfAll : List Node → List Construct
  | [] => []
  | child :: rest =>
    if child.isConstituent then constructs child ++ constructsOfAll rest else constructsOfAll rest

def constructsOfFirst : List Node → List Construct
  | [] => []
  | child :: rest => if child.isConstituent then constructs child else constructsOfFirst rest

def constructsInside : Node → List Construct
  | ⟨_, _, _, _, _, children⟩ => constructsOfFirst children

def constructsInRole (role : Field) : List Node → List Construct
  | [] => []
  | child :: rest =>
    if child.field = some role then constructsInside child else constructsInRole role rest

def constructsOfMembers : List Node → List Construct
  | [] => []
  | child :: rest =>
    if child.isConstituent then constructsOfMember child ++ constructsOfMembers rest
    else constructsOfMembers rest

/-- A member, and what it is annotated with. -/
def constructsOfMember : Node → List Construct
  | ⟨kind, field, named, text, line, children⟩ =>
    .member ⟨kind, field, named, text, line, children⟩ :: constructsInRole .type children

end

def constructsOf? (node? : Option Node) : List Construct := (node?.map constructs).getD []

theorem constructsOfAll_eq (children : List Node) :
    constructsOfAll children = (children.filter isConstituent).flatMap constructs := by
  induction children with
  | nil => rfl
  | cons child rest ih =>
      rw [constructsOfAll, List.filter_cons, ih]
      split
      · rfl
      · rfl

theorem constructsOfFirst_eq (children : List Node) :
    constructsOfFirst children = constructsOf? (children.filter isConstituent).head? := by
  induction children with
  | nil => rfl
  | cons child rest ih =>
      rw [constructsOfFirst, List.filter_cons, ih]
      split
      · rfl
      · rfl

theorem constructsInRole_eq (role : Field) (children : List Node) :
    constructsInRole role children = constructsOf?
      (((children.find? (·.field = some role)).map (·.constituents)).getD []).head? := by
  induction children with
  | nil => rfl
  | cons child rest ih =>
      rw [constructsInRole, List.find?_cons, ih]
      have inside : constructsInside child = constructsOf? child.constituents.head? := by
        cases child with
        | mk kind field named text line children => exact constructsOfFirst_eq children
      by_cases here : child.field = some role
      · simp [here, inside]
      · simp [here]

theorem constructsOfMember_eq (member : Node) :
    constructsOfMember member = .member member :: constructsOf? member.annotated? := by
  cases member with
  | mk kind field named text line children =>
      rw [constructsOfMember, constructsInRole_eq]
      rfl

theorem constructsOfMembers_eq (children : List Node) :
    constructsOfMembers children = (children.filter isConstituent).flatMap constructsOfMember := by
  induction children with
  | nil => rfl
  | cons child rest ih =>
      rw [constructsOfMembers, List.filter_cons, ih]
      split
      · rfl
      · rfl

theorem constructs_eq (node : Node) :
    node.constructs = .type node ::
      match node.kind with
      | .parenthesizedType | .unionType => node.constituents.flatMap constructs
      | .genericType => constructsOf? node.arguments.head?
      | .objectType => node.constituents.flatMap constructsOfMember
      | _ => [] := by
  cases node with
  | mk kind field named text line children =>
      conv => lhs; unfold constructs
      congr 1
      dsimp only
      split
      · exact constructsOfAll_eq children
      · exact constructsOfAll_eq children
      · exact constructsInRole_eq .typeArguments children
      · exact constructsOfMembers_eq children
      · next other => cases kind <;> first | contradiction | rfl

/-- The token that a literal type is told by. -/
def literalToken (node : Node) : Node := node.constituents.head?.getD node

end Syntax.Node

namespace TypeExpr

variable {scope : Scope}

/-! ## The first failure -/

/-- What a construct is reported with, apart from what stands inside it. -/
def constructFailure? (scope : Scope) : Construct → Option Failure
  | .type node =>
    match node.typeForm with
    | .name => Failure.of? (elaborateName scope node)
    | .literal => Failure.of? (elaborateLiteral scope node)
    | .unsupported construct =>
      some (.unsupportedType construct ⟨scope.path, some node.line⟩)
    | _ => none
  | .member node =>
    if node.kind ≠ .propertySignature then
      some (.unsupportedType node.kind.name ⟨scope.path, some node.line⟩)
    else
      match node.child? .name with
      | none => some (.inconsistent (.propertyWithoutName scope.path node.line))
      | some key =>
        match keyOf scope key node.line with
        | .error failure => some failure
        | .ok (name, _) =>
          if node.annotated? = none then some (.untypedProperty name ⟨scope.path, some node.line⟩)
          else none

theorem findSome?_constructs_of_unionType {node : Node} (kind : node.kind = .unionType) :
    node.constructs.findSome? (constructFailure? scope) =
      node.unionMembers.findSome? fun member =>
        member.constructs.findSome? (constructFailure? scope) := by
  induction node using Node.induction_below with
  | step node ih =>
      have isUnion : constructFailure? scope (.type node) = none := by
        simp only [constructFailure?, Node.typeForm, kind]
      have each : ∀ child ∈ node.constituents,
          child.constructs.findSome? (constructFailure? scope) =
            (Node.asMembers child).findSome? fun member =>
              member.constructs.findSome? (constructFailure? scope) := by
        intro child member
        unfold Node.asMembers
        split
        · next nested => exact ih child (Node.isBelow_of_mem_constituents member) nested
        · rw [List.findSome?_singleton]
      rw [Node.constructs_eq, kind, List.findSome?_cons, isUnion, Failure.findSome?_flatMap,
        Node.unionMembers_eq, Failure.findSome?_flatMap]
      exact Failure.findSome?_congr each

private theorem of?_elaborateProperty {member : Node}
    (inside : ∀ inner, member.annotated? = some inner → Failure.of? (elaborate scope inner) =
      inner.constructs.findSome? (constructFailure? scope)) :
    Failure.of? (elaborateProperty scope member) =
      (Node.constructsOfMember member).findSome? (constructFailure? scope) := by
  rw [elaborateProperty_eq, Node.constructsOfMember_eq, List.findSome?_cons, constructFailure?]
  split
  · rfl
  · cases member.child? .name with
    | none => rfl
    | some key =>
        dsimp only
        cases keyOf scope key member.line with
        | error failure => rfl
        | ok named =>
            cases typed : member.annotated? with
            | none => rfl
            | some inner =>
                refine (Failure.of?_bind_ok _ _).trans ((inside inner typed).trans ?_)
                rfl

/-- A type fails to be elaborated with the first failure among those of its constructs. -/
theorem of?_elaborate (scope : Scope) (node : Node) :
    Failure.of? (elaborate scope node) =
      node.constructs.findSome? (constructFailure? scope) := by
  induction node using Node.induction_below with
  | step node ih =>
      have form := node.hasForm_typeForm
      have own : constructFailure? scope (.type node) =
        match node.typeForm with
        | .name => Failure.of? (elaborateName scope node)
        | .literal => Failure.of? (elaborateLiteral scope node)
        | .unsupported construct =>
          some (.unsupportedType construct ⟨scope.path, some node.line⟩)
        | _ => none := rfl
      rw [elaborate_eq]
      generalize node.typeForm = shape at form own
      cases form with
      | name kind =>
          have alone : node.constructs = [.type node] := by
            cases kind with
            | inl keyword => rw [Node.constructs_eq, keyword]
            | inr identifier => rw [Node.constructs_eq, identifier]
          rw [alone, List.findSome?_singleton, own]
      | literal kind =>
          rw [Node.constructs_eq, kind, List.findSome?_singleton, own]
      | object kind =>
          have each : ∀ member ∈ node.constituents,
              Failure.of? (elaborateProperty scope member) =
                (Node.constructsOfMember member).findSome? (constructFailure? scope) := by
            intro member isMember
            refine of?_elaborateProperty fun inner typed => ih inner ?_
            exact (Node.isBelow_of_annotated?_eq_some typed).trans
              (Node.isBelow_of_mem_constituents isMember)
          rw [Node.constructs_eq, kind, List.findSome?_cons, own, Failure.findSome?_flatMap]
          refine (Failure.of?_bind_ok _ _).trans ?_
          rw [Failure.of?_mapM]
          exact Failure.findSome?_congr each
      | union kind =>
          rw [findSome?_constructs_of_unionType kind]
          refine (Failure.of?_bind_ok _ _).trans ?_
          rw [Failure.of?_mapM]
          exact Failure.findSome?_congr fun member isMember =>
            ih member (Node.isBelow_of_mem_unionMembers isMember)
      | parentheses kind holds =>
          have below := (Node.HasForm.parentheses kind holds).isBelow
          rw [Node.constructs_eq, kind, holds, List.findSome?_cons, own]
          simpa using ih _ below
      | readonly kind named holds =>
          have below := (Node.HasForm.readonly kind named holds).isBelow
          rw [Node.constructs_eq, kind, holds, List.findSome?_cons, own]
          exact ih _ below
      | unsupported =>
          rw [Node.constructs_eq, List.findSome?_cons, own]
          rfl

end TypeExpr

end Companion
