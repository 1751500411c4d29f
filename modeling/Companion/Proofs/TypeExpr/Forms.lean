import Companion.Proofs.Failure
import Companion.Proofs.Syntax.Node
import Companion.TypeExpr.Elaboration

/-!
# Forms of types

What is read off a node in type position depends on its form: a name, a literal, an object with its
members, a union with its members, something that stands for the type inside, or a construct that is
not supported. A type expression is elaborated by recursion on these forms, and a member of an object
by recursion on the type that it is annotated with.
-/

set_option autoImplicit false

namespace Companion

namespace Syntax.Node

/-- What a node in type position is made of. -/
inductive TypeForm where
  | name
  | literal
  | object (members : List Node)
  | union (members : List Node)
  /-- Parentheses or `Readonly<…>` around a type. -/
  | wrapper (inner : Node)
  | unsupported (construct : Text)

/-- Whether a node is a keyword, a name or a literal. -/
def isLeafType (node : Node) : Bool :=
  node.kind = .predefinedType || node.kind = .typeIdentifier || node.kind = .literalType

def genericName (node : Node) : Text := ((node.child? .name).map (·.text)).getD []

def arguments (node : Node) : List Node :=
  ((node.child? .typeArguments).map (·.constituents)).getD []

def annotations (node : Node) : List Node := ((node.child? .type).map (·.constituents)).getD []

/-- The type that a property is annotated with. -/
def annotated? (node : Node) : Option Node := node.annotations.head?

def typeForm (node : Node) : TypeForm :=
  match node.kind with
  | .predefinedType | .typeIdentifier => .name
  | .literalType => .literal
  | .objectType => .object node.constituents
  | .unionType => .union node.unionMembers
  | .parenthesizedType =>
    match node.constituents with
    | [inner] => .wrapper inner
    | _ => .unsupported node.kind.name
  | .genericType =>
    if node.genericName ≠ TypeExpr.transparentGeneric then
      .unsupported ("generic_type " ++ node.genericName)
    else
      match node.arguments with
      | [inner] => .wrapper inner
      | arguments =>
        .unsupported ("generic_type " ++ node.genericName ++ " with " ++
          Text.ofNat arguments.length ++ " type arguments")
  | kind => .unsupported kind.name

variable {node inner part : Node}

private theorem exists_child?_of_mem_constituents {role : Field}
    (member : part ∈ ((node.child? role).map (·.constituents)).getD []) :
    ∃ holder, node.child? role = some holder ∧ part ∈ holder.constituents := by
  cases found : node.child? role with
  | none =>
      rw [found] at member
      cases member
  | some holder =>
      rw [found] at member
      exact ⟨holder, rfl, member⟩

private theorem isBelow_of_mem_constituents_child? {role : Field}
    (member : part ∈ ((node.child? role).map (·.constituents)).getD []) : part.IsBelow node := by
  obtain ⟨holder, found, inside⟩ := exists_child?_of_mem_constituents member
  exact (isBelow_of_mem_constituents inside).trans (isBelow_of_child?_eq_some found)

theorem isBelow_of_mem_arguments (member : part ∈ node.arguments) : part.IsBelow node :=
  isBelow_of_mem_constituents_child? member

theorem isBelow_of_mem_annotations (member : part ∈ node.annotations) : part.IsBelow node :=
  isBelow_of_mem_constituents_child? member

theorem isBelow_of_annotated?_eq_some (found : node.annotated? = some part) :
    part.IsBelow node :=
  isBelow_of_mem_annotations (List.mem_of_mem_head? found)

/-- The forms of types by the kinds of their nodes. -/
inductive HasForm (node : Node) : TypeForm → Prop where
  | name (kind : node.kind = .predefinedType ∨ node.kind = .typeIdentifier) : HasForm node .name
  | literal (kind : node.kind = .literalType) : HasForm node .literal
  | object (kind : node.kind = .objectType) : HasForm node (.object node.constituents)
  | union (kind : node.kind = .unionType) : HasForm node (.union node.unionMembers)
  | parentheses {inner : Node} (kind : node.kind = .parenthesizedType)
      (holds : node.constituents = [inner]) : HasForm node (.wrapper inner)
  | readonly {inner : Node} (kind : node.kind = .genericType)
      (named : node.genericName = TypeExpr.transparentGeneric) (holds : node.arguments = [inner]) :
      HasForm node (.wrapper inner)
  | unsupported {construct : Text} : HasForm node (.unsupported construct)

theorem hasForm_typeForm (node : Node) : node.HasForm node.typeForm := by
  unfold typeForm
  split
  · next kind => exact .name (.inl kind)
  · next kind => exact .name (.inr kind)
  · next kind => exact .literal kind
  · next kind => exact .object kind
  · next kind => exact .union kind
  · next kind =>
    split
    · next holds => exact .parentheses kind holds
    · exact .unsupported
  · next kind =>
    split
    · exact .unsupported
    · next named =>
      split
      · next holds => exact .readonly kind (Decidable.not_not.mp named) holds
      · exact .unsupported
  · exact .unsupported

theorem HasForm.isConstituent (form : node.HasForm (.wrapper inner)) :
    inner.isConstituent = true := by
  cases form with
  | parentheses kind holds =>
      have member : inner ∈ node.constituents := holds ▸ List.mem_singleton_self inner
      exact (List.mem_filter.mp member).2
  | readonly kind named holds =>
      have member : inner ∈ node.arguments := holds ▸ List.mem_singleton_self inner
      obtain ⟨holder, -, inside⟩ := exists_child?_of_mem_constituents member
      exact (List.mem_filter.mp inside).2

theorem HasForm.isBelow (form : node.HasForm (.wrapper inner)) : inner.IsBelow node := by
  cases form with
  | parentheses kind holds =>
      apply isBelow_of_mem_constituents
      rw [holds]
      exact List.mem_singleton_self inner
  | readonly kind named holds =>
      apply isBelow_of_mem_arguments
      rw [holds]
      exact List.mem_singleton_self inner

end Syntax.Node

namespace TypeExpr

open Syntax

variable (scope : Scope)

theorem elaborateFirst_eq (children : List Node) :
    elaborateFirst scope children =
      (children.filter Node.isConstituent).head?.map (elaborate scope) := by
  induction children with
  | nil => rfl
  | cons child rest ih =>
      rw [elaborateFirst, List.filter_cons]
      cases child.isConstituent with
      | false => exact ih
      | true => rfl

theorem elaborateInner_eq (node : Node) :
    elaborateInner scope node = node.constituents.head?.map (elaborate scope) := by
  cases node with
  | mk kind field named text line children => exact elaborateFirst_eq scope children

theorem elaborateInRole_eq (role : Field) (children : List Node) :
    elaborateInRole scope role children =
      (children.find? (·.field = some role)).bind fun holder =>
        holder.constituents.head?.map (elaborate scope) := by
  induction children with
  | nil => rfl
  | cons child rest ih =>
      rw [elaborateInRole, List.find?_cons, ih]
      by_cases here : child.field = some role
      · simp [here, elaborateInner_eq]
      · simp [here]

theorem elaborateProperties_eq (children : List Node) :
    elaborateProperties scope children =
      (children.filter Node.isConstituent).mapM (elaborateProperty scope) := by
  induction children with
  | nil => rfl
  | cons child rest ih =>
      rw [elaborateProperties, List.filter_cons]
      cases child.isConstituent with
      | false => exact ih
      | true =>
          rw [if_pos rfl, List.mapM_cons, ← ih]
          rfl

theorem elaborateMembers_eq (children : List Node)
    (nested : ∀ child ∈ children,
      elaborateNested scope child = child.unionMembers.mapM (elaborate scope)) :
    elaborateMembers scope children = (Node.unionMembersIn children).mapM (elaborate scope) := by
  induction children with
  | nil => rfl
  | cons child rest ih =>
      have others := ih fun child member => nested child (List.mem_cons_of_mem _ member)
      rw [elaborateMembers, Node.unionMembersIn, others, nested child List.mem_cons_self]
      cases child.isConstituent with
      | false => rfl
      | true =>
          simp only [Bool.not_true, Bool.false_eq_true, if_false]
          split
          · rw [List.mapM_append]
          · rw [List.mapM_cons]

/-- Nested unions are read as if their members stood in the outer one. -/
theorem elaborateNested_eq (node : Node) :
    elaborateNested scope node = node.unionMembers.mapM (elaborate scope) := by
  induction node using Node.induction_below with
  | step node ih =>
      cases node with
      | mk kind field named text line children =>
          exact elaborateMembers_eq scope children fun child isChild =>
            ih child ⟨child, isChild, .root⟩

/-- A type is elaborated according to its form. -/
theorem elaborate_eq (node : Node) :
    elaborate scope node =
      match node.typeForm with
      | .name => elaborateName scope node
      | .literal => elaborateLiteral scope node
      | .object members => do
        let properties ← members.mapM (elaborateProperty scope)
        return .object properties (some node.line)
      | .union members => do
        let types ← members.mapM (elaborate scope)
        return ofMembers node.line types
      | .wrapper inner => elaborate scope inner
      | .unsupported construct => scope.unsupported construct node.line := by
  cases node with
  | mk kind field named text line children =>
      -- the recursion goes through lists of children; these say what it makes of them
      have properties := elaborateProperties_eq scope children
      have members := elaborateNested_eq scope ⟨kind, field, named, text, line, children⟩
      have first := elaborateFirst_eq scope children
      have argument := elaborateInRole_eq scope .typeArguments children
      conv => lhs; unfold elaborate
      unfold Node.typeForm
      dsimp only
      split
      · rfl
      · rfl
      · rfl
      · rw [properties]
        rfl
      · rw [elaborateNested] at members
        rw [members]
      · rw [first, Node.constituents]
        dsimp only
        cases children.filter Node.isConstituent with
        | nil => rfl
        | cons inner rest =>
            cases rest with
            | nil => rfl
            | cons next rest => rfl
      · rw [argument]
        unfold Node.genericName Node.arguments Node.child?
        dsimp only
        split
        · rfl
        · cases children.find? (·.field = some .typeArguments) with
          | none => rfl
          | some holder =>
              dsimp only [Option.bind_some, Option.map_some, Option.getD_some]
              cases holder.constituents with
              | nil => rfl
              | cons inner rest =>
                  cases rest with
                  | nil => rfl
                  | cons next rest => rfl
      · cases kind <;> first | contradiction | rfl

/-- A member of an object is elaborated as a property with a key and a type, in this order. -/
theorem elaborateProperty_eq (node : Node) :
    elaborateProperty scope node =
      if node.kind ≠ .propertySignature then scope.unsupported node.kind.name node.line
      else
        match node.child? .name with
        | none => .error (.inconsistent (.propertyWithoutName scope.path node.line))
        | some key => do
          let (name, quoted) ← keyOf scope key node.line
          match node.annotated? with
          | none => .error (.untypedProperty name ⟨scope.path, some node.line⟩)
          | some inner => do
            let type ← elaborate scope inner
            return ⟨name, type, node.children.any fun child => child.kind = .questionMark, quoted⟩ := by
  cases node with
  | mk kind field named text line children =>
      have typed : elaborateInRole scope .type children =
          (Node.annotated? ⟨kind, field, named, text, line, children⟩).map (elaborate scope) := by
        rw [elaborateInRole_eq, Node.annotated?, Node.annotations, Node.child?]
        dsimp only
        cases children.find? (·.field = some .type) with
        | none => rfl
        | some holder => rfl
      rw [elaborateProperty, typed]
      cases Node.annotated? ⟨kind, field, named, text, line, children⟩ with
      | none => rfl
      | some inner => rfl

variable {scope}

/-- A property read off a member of an object, with a type that is related to the node that the member
is annotated with. -/
structure ReadsProperty (scope : Scope) (related : Node → TypeExpr → Prop) (member : Node)
    (property : Property TypeExpr) : Prop where
  isSignature : member.kind = .propertySignature
  keyed : ∃ key, member.child? .name = some key ∧
    keyOf scope key member.line = .ok (property.name, property.quoted)
  typed : ∃ inner, member.annotated? = some inner ∧ related inner property.type
  optional : property.optional = member.children.any fun child => child.kind = .questionMark

variable {node : Node} {type : TypeExpr}

/-- A name stands for the primitive type that it is the keyword of, or for what it is found to be. -/
theorem elaborateName_eq_ok_cases (elaborated : elaborateName scope node = .ok type) :
    (∃ kind, PrimitiveType.ofKeyword? node.text = some kind ∧
        type = .primitive kind (some node.line)) ∨
      ∃ origin, node.kind = .typeIdentifier ∧ PrimitiveType.ofKeyword? node.text = none ∧
        scope.find node.text = .ok origin ∧ type = .reference node.text origin (some node.line) := by
  unfold elaborateName at elaborated
  split at elaborated
  · next kind keyword => exact .inl ⟨kind, keyword, (Except.ok.inj elaborated).symm⟩
  · next plain =>
    split at elaborated
    · next isIdentifier =>
      rw [Failure.bind_eq_ok_iff] at elaborated
      obtain ⟨origin, found, success⟩ := elaborated
      exact .inr ⟨origin, isIdentifier, plain, found, (Except.ok.inj success).symm⟩
    · cases elaborated

/-- A literal type stands for `undefined` or for a literal. -/
theorem elaborateLiteral_eq_ok_cases (elaborated : elaborateLiteral scope node = .ok type) :
    (∃ line, type = .primitive .undefined line) ∨ ∃ form raw line, type = .literal form raw line := by
  unfold elaborateLiteral at elaborated
  dsimp only at elaborated
  split at elaborated
  · exact .inr ⟨_, _, _, (Except.ok.inj elaborated).symm⟩
  · split at elaborated
    · next keyword =>
      obtain rfl := Except.ok.inj elaborated
      unfold Literal.ofKeyword? at keyword
      split at keyword
      · exact .inl ⟨_, (Option.some.inj keyword).symm⟩
      · split at keyword
        · exact .inr ⟨_, _, _, (Option.some.inj keyword).symm⟩
        · split at keyword
          · exact .inr ⟨_, _, _, (Option.some.inj keyword).symm⟩
          · cases keyword
    · split at elaborated
      · exact .inr ⟨_, _, _, (Except.ok.inj elaborated).symm⟩
      · cases elaborated

theorem readsProperty_of_elaborateProperty_eq_ok {property : Property TypeExpr}
    (elaborated : elaborateProperty scope node = .ok property) :
    ReadsProperty scope (fun inner type => elaborate scope inner = .ok type) node property := by
  rw [elaborateProperty_eq] at elaborated
  split at elaborated
  · cases elaborated
  · next signature =>
    split at elaborated
    · cases elaborated
    · next key keyed =>
      rw [Failure.bind_eq_ok_iff] at elaborated
      obtain ⟨⟨name, quoted⟩, named, elaborated⟩ := elaborated
      dsimp only at elaborated
      split at elaborated
      · cases elaborated
      · next inner typed =>
        rw [Failure.bind_eq_ok_iff] at elaborated
        obtain ⟨type, isType, success⟩ := elaborated
        obtain rfl := Except.ok.inj success
        exact ⟨Decidable.not_not.mp signature, ⟨key, keyed, named⟩, ⟨inner, typed, isType⟩, rfl⟩

/-- Induction over the nodes that types are elaborated from. -/
theorem elaborate_induction {motive : Node → TypeExpr → Prop}
    (name : ∀ node type, node.kind = .predefinedType ∨ node.kind = .typeIdentifier →
      elaborateName scope node = .ok type → motive node type)
    (literal : ∀ node type, node.kind = .literalType → elaborateLiteral scope node = .ok type →
      motive node type)
    (object : ∀ node properties, node.kind = .objectType →
      List.Forall₂ (ReadsProperty scope motive) node.constituents properties →
      motive node (.object properties (some node.line)))
    (union : ∀ node types, node.kind = .unionType → List.Forall₂ motive node.unionMembers types →
      motive node (ofMembers node.line types))
    (wrapper : ∀ node inner type, node.HasForm (.wrapper inner) → motive inner type →
      motive node type)
    (elaborated : elaborate scope node = .ok type) : motive node type := by
  induction node using Node.induction_below generalizing type with
  | step node ih =>
      rw [elaborate_eq] at elaborated
      have form := node.hasForm_typeForm
      generalize node.typeForm = shape at form elaborated
      cases form with
      | name kind => exact name node type kind elaborated
      | literal kind => exact literal node type kind elaborated
      | object kind =>
          rw [Failure.bind_eq_ok_iff] at elaborated
          obtain ⟨properties, areProperties, success⟩ := elaborated
          obtain rfl := Except.ok.inj success
          apply object node properties kind
          have read := Failure.forall₂_of_mapM_eq_ok areProperties
          -- what is read together is also a constituent, and so its type stands below the node
          refine ((List.forall₂_and_left _ _).mpr ⟨fun _ member => member, read⟩).imp ?_
          intro member property both
          obtain ⟨isMember, elaborated⟩ := both
          have reads := readsProperty_of_elaborateProperty_eq_ok elaborated
          obtain ⟨inner, typed, isType⟩ := reads.typed
          have below := (Node.isBelow_of_annotated?_eq_some typed).trans
            (Node.isBelow_of_mem_constituents isMember)
          exact { reads with typed := ⟨inner, typed, ih inner below isType⟩ }
      | union kind =>
          rw [Failure.bind_eq_ok_iff] at elaborated
          obtain ⟨types, areTypes, success⟩ := elaborated
          obtain rfl := Except.ok.inj success
          apply union node types kind
          have read := Failure.forall₂_of_mapM_eq_ok areTypes
          refine ((List.forall₂_and_left _ _).mpr ⟨fun _ member => member, read⟩).imp ?_
          intro member type both
          exact ih member (Node.isBelow_of_mem_unionMembers both.1) both.2
      | parentheses kind holds =>
          have form : node.HasForm (.wrapper _) := .parentheses kind holds
          exact wrapper node _ type form (ih _ form.isBelow elaborated)
      | readonly kind named holds =>
          have form : node.HasForm (.wrapper _) := .readonly kind named holds
          exact wrapper node _ type form (ih _ form.isBelow elaborated)
      | unsupported => cases elaborated

end TypeExpr

end Companion
