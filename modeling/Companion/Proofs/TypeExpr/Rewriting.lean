import Companion.Proofs.TypeExpr.Meaning
import Mathlib.Logic.Relation

/-!
# Rewriting types

Parentheses and `Readonly<…>` around a type, comments and the grouping of unions may come and go
anywhere in a tree. No such step changes what the tree means, so equivalent trees mean the same.
-/

set_option autoImplicit false

namespace Companion

open Syntax

namespace Syntax.Node

/-- Where a node stands: where a type is expected, be it next below a union or not, as a part that
its parent looks into, or as a token, the text of which counts. -/
inductive Standing where
  | type
  | member
  | part
  | token
deriving DecidableEq

/-- Where a child of a node stands. -/
def standingIn (parent : Kind) (child : Node) : Standing :=
  match parent with
  | .unionType => .member
  | .objectType => .part
  | .propertySignature | .genericType => if child.field = some .name then .token else .part
  | .predefinedType | .typeIdentifier | .literalType => .token
  | _ => .type

/-- The kinds of nodes in which comments may come and go. -/
def mayHoldComments : List Kind :=
  [.parenthesizedType, .unionType, .objectType, .typeArguments, .typeClause]

/-- One rewriting step. The text of what has parts, the lines, and the role of a type in its parent
follow what is rewritten around them. -/
inductive Rewrite : Standing → Node → Node → Prop where
  /-- A type is put in parentheses or in `Readonly<…>`. Next below a union, a union stays what it is. -/
  | wrap {standing : Standing} {node wrapper : Node} (form : wrapper.HasForm (.wrapper node))
      (named : wrapper.named = true)
      (isType : standing = .type ∨ standing = .member ∧ node.kind ≠ .unionType) :
      Rewrite standing node wrapper
  /-- A comment is added. -/
  | comment {standing : Standing} {kind : Kind} {field : Option Field} {named : Bool} {text : Text}
      {line : Int} {before after : List Node} {comment : Node} (holds : kind ∈ mayHoldComments)
      (isComment : comment.kind = .comment) :
      Rewrite standing ⟨kind, field, named, text, line, before ++ after⟩
        ⟨kind, field, named, text, line, before ++ comment :: after⟩
  /-- The members of a union are grouped in another way. -/
  | regroup {standing : Standing} {node regrouped : Node} (kind : node.kind = .unionType)
      (otherKind : regrouped.kind = .unionType) (named : node.named = regrouped.named)
      (members : node.unionMembers = regrouped.unionMembers)
      (isType : standing = .type ∨ standing = .member) : Rewrite standing node regrouped
  | moved {standing : Standing} {node : Node} (line : Int) :
      Rewrite standing node { node with line := line }
  | placed {standing : Standing} {node : Node} (field : Option Field)
      (isType : standing = .type ∨ standing = .member) :
      Rewrite standing node { node with field := field }
  | respelled {standing : Standing} {node : Node} (text : Text) (noToken : standing ≠ .token)
      (hasParts : node.isLeafType = false) : Rewrite standing node { node with text := text }
  /-- A step below a node. -/
  | inside {standing : Standing} {kind : Kind} {field : Option Field} {named : Bool} {text : Text}
      {line : Int} {before after : List Node} {child changed : Node}
      (step : Rewrite (standingIn kind child) child changed) :
      Rewrite standing ⟨kind, field, named, text, line, before ++ child :: after⟩
        ⟨kind, field, named, text, line, before ++ changed :: after⟩

/-- Types that are rewritten into each other by any number of steps in either direction. -/
def Equivalent : Node → Node → Prop := Relation.EqvGen (Rewrite .type)

end Syntax.Node

namespace TypeExpr

variable (scope : Scope)

/-- What is kept of a part, into which its parent looks. -/
structure KeepsPart (node changed : Node) : Prop where
  kind : node.kind = changed.kind
  field : node.field = changed.field
  property : propertyMeaning scope node = propertyMeaning scope changed
  constituents : node.constituents.map (meaning scope) = changed.constituents.map (meaning scope)

/-- What is kept of a node, wherever it stands, and what more where it stands. -/
structure Keeps (standing : Node.Standing) (node changed : Node) : Prop where
  isConstituent : node.isConstituent = changed.isConstituent
  meaning : meaning scope node = TypeExpr.meaning scope changed
  members : standing = .member →
    node.asMembers.map (TypeExpr.meaning scope) = changed.asMembers.map (TypeExpr.meaning scope)
  part : standing = .part ∨ standing = .token → KeepsPart scope node changed
  text : standing = .token → node.text = changed.text

variable {scope} {standing : Node.Standing} {node changed : Node}

/-- A step that leaves the kind of a node and what is read off it. -/
theorem keeps_of_reading_eq (kind : node.kind = changed.kind) (named : node.named = changed.named)
    (same : reading scope node = reading scope changed)
    (part : standing = .part ∨ standing = .token → KeepsPart scope node changed)
    (text : standing = .token → node.text = changed.text) : Keeps scope standing node changed where
  isConstituent := by rw [Node.isConstituent, Node.isConstituent, kind, named]
  meaning := by rw [meaning_eq, meaning_eq, same]
  members := by
    intro _
    unfold Node.asMembers
    by_cases union : node.kind = .unionType
    · rw [if_pos union, if_pos (kind ▸ union)]
      simp only [reading, union, ← kind] at same
      exact Reading.union.inj same
    · rw [if_neg union, if_neg (kind ▸ union), List.map_singleton, List.map_singleton, meaning_eq,
        meaning_eq, same]
  part := part
  text := text

private theorem not_part_of_isType (isType : standing = .type ∨ standing = .member) :
    ¬(standing = .part ∨ standing = .token) := by
  cases isType with
  | inl isType => simp [isType]
  | inr isMember => simp [isMember]

theorem meaning_of_hasForm_wrapper {inner : Node} (form : node.HasForm (.wrapper inner)) :
    meaning scope node = meaning scope inner := by
  rw [meaning_eq]
  cases form with
  | parentheses kind holds => simp only [reading, kind, holds, List.map_singleton, Reading.outcome]
  | readonly kind named holds =>
      simp only [reading, kind, named, holds, List.map_singleton, Reading.outcome, ne_eq,
        not_true_eq_false, if_false]

theorem keeps_wrap {wrapper : Node} (form : wrapper.HasForm (.wrapper node))
    (named : wrapper.named = true)
    (isType : standing = .type ∨ standing = .member ∧ node.kind ≠ .unionType) :
    Keeps scope standing node wrapper where
  isConstituent := by
    rw [form.isConstituent]
    cases form with
    | parentheses kind holds => simp [Node.isConstituent, named, kind]
    | readonly kind _ holds => simp [Node.isConstituent, named, kind]
  meaning := (meaning_of_hasForm_wrapper form).symm
  members := by
    intro isMember
    have plain : node.kind ≠ .unionType := by
      cases isType with
      | inl isType => cases isMember.symm.trans isType
      | inr isMember => exact isMember.2
    -- neither is a union, so below one each of them is a single member
    have wrapped : wrapper.kind ≠ .unionType := by
      cases form with
      | parentheses kind holds => simp [kind]
      | readonly kind _ holds => simp [kind]
    rw [Node.asMembers, Node.asMembers, if_neg plain, if_neg wrapped, List.map_singleton,
      List.map_singleton, meaning_of_hasForm_wrapper form]
  part := fun isPart => absurd isPart (not_part_of_isType (isType.imp_right And.left))
  text := fun isToken => absurd (.inr isToken) (not_part_of_isType (isType.imp_right And.left))

/-- Where a type is expected, nothing is kept for a parent to look into. -/
theorem keeps_type (isType : standing = .type ∨ standing = .member) (kind : node.kind = changed.kind)
    (named : node.named = changed.named) (same : reading scope node = reading scope changed) :
    Keeps scope standing node changed := by
  apply keeps_of_reading_eq kind named same
  · exact fun isPart => absurd isPart (not_part_of_isType isType)
  · exact fun isToken => absurd (.inr isToken) (not_part_of_isType isType)

theorem keeps_regroup (kind : node.kind = .unionType) (otherKind : changed.kind = .unionType)
    (named : node.named = changed.named) (members : node.unionMembers = changed.unionMembers)
    (isType : standing = .type ∨ standing = .member) : Keeps scope standing node changed := by
  apply keeps_type isType (kind.trans otherKind.symm) named
  simp only [reading, kind, otherKind, members]

theorem keeps_moved (line : Int) : Keeps scope standing node { node with line := line } := by
  have same : reading scope node = reading scope { node with line := line } := by
    cases node
    rfl
  refine keeps_of_reading_eq rfl rfl same ?_ ?_
  · intro _
    exact ⟨rfl, rfl, propertyMeaning_congr rfl fun _ => ⟨rfl, rfl, rfl⟩, rfl⟩
  · exact fun _ => rfl

theorem keeps_placed (field : Option Field) (isType : standing = .type ∨ standing = .member) :
    Keeps scope standing node { node with field := field } := by
  refine keeps_type isType rfl rfl ?_
  cases node
  rfl

theorem keeps_respelled (text : Text) (noToken : standing ≠ .token)
    (hasParts : node.isLeafType = false) : Keeps scope standing node { node with text := text } := by
  have same : reading scope node = reading scope { node with text := text } := by
    cases node with
    | mk kind field named old line children =>
        cases kind with
        | predefinedType => cases hasParts
        | typeIdentifier => cases hasParts
        | literalType => cases hasParts
        | _ => rfl
  refine keeps_of_reading_eq rfl rfl same ?_ ?_
  · intro _
    exact ⟨rfl, rfl, propertyMeaning_congr rfl fun _ => ⟨rfl, rfl, rfl⟩, rfl⟩
  · exact fun isToken => absurd isToken noToken

section Children

variable {kind : Kind} {field : Option Field} {named : Bool} {text : Text} {line : Int}
  {before after : List Node} {child other : Node}

private theorem filter_comment (isComment : child.kind = .comment) :
    (before ++ child :: after).filter Node.isConstituent =
      (before ++ after).filter Node.isConstituent := by
  simp [Node.isConstituent, isComment]

theorem keeps_comment (holds : kind ∈ Node.mayHoldComments) (isComment : child.kind = .comment) :
    Keeps scope standing ⟨kind, field, named, text, line, before ++ after⟩
      ⟨kind, field, named, text, line, before ++ child :: after⟩ := by
  have constituents : Node.constituents ⟨kind, field, named, text, line, before ++ after⟩ =
      Node.constituents ⟨kind, field, named, text, line, before ++ child :: after⟩ :=
    (filter_comment isComment).symm
  have same : reading scope ⟨kind, field, named, text, line, before ++ after⟩ =
      reading scope ⟨kind, field, named, text, line, before ++ child :: after⟩ := by
    unfold reading
    rw [Node.unionMembers_eq, Node.unionMembers_eq, constituents]
    cases kind with
    | literalType => exact absurd holds (by decide)
    | genericType => exact absurd holds (by decide)
    | _ => rfl
  refine keeps_of_reading_eq rfl rfl same ?_ ?_
  · intro _
    refine ⟨rfl, rfl, propertyMeaning_congr rfl fun signature => ?_, by rw [constituents]⟩
    exact absurd holds (by rw [show kind = .propertySignature from signature]; decide)
  · exact fun _ => rfl

private theorem map_filter_inside {α : Type} (value : Node → α)
    (constituent : child.isConstituent = other.isConstituent) (same : value child = value other) :
    ((before ++ child :: after).filter Node.isConstituent).map value =
      ((before ++ other :: after).filter Node.isConstituent).map value := by
  rw [List.filter_append, List.filter_append, List.filter_cons, List.filter_cons, constituent]
  split
  · simp [same]
  · rfl

private theorem map_find?_inside {α : Type} (value : Node → α) {role : Field}
    (field : child.field = other.field) (same : child.field = some role → value child = value other) :
    ((before ++ child :: after).find? (·.field = some role)).map value =
      ((before ++ other :: after).find? (·.field = some role)).map value := by
  rw [List.find?_append, List.find?_append, List.find?_cons, List.find?_cons, field]
  cases before.find? (·.field = some role) with
  -- an earlier child in this role hides the changed one
  | some found => rfl
  | none =>
      by_cases here : other.field = some role
      · simp [here, same (field.trans here)]
      · simp [here]

private theorem map_constituents_child? {α : Type} (value : Node → α) (role : Field) (node : Node) :
    (((node.child? role).map (·.constituents)).getD []).map value =
      ((node.child? role).map fun holder => holder.constituents.map value).getD [] := by
  cases node.child? role <;> rfl

/-- The children of a construct that looks into them by their roles are kept as its parts; its name
is kept as a token. -/
private theorem keepsPart_child (keeps : Keeps scope (Node.standingIn kind child) child other)
    (looksInside : kind = .propertySignature ∨ kind = .genericType) :
    KeepsPart scope child other ∧ (child.field = some .name → tokenOf child = tokenOf other) := by
  have standing : Node.standingIn kind child = if child.field = some .name then .token else .part := by
    cases looksInside with
    | inl signature => rw [signature]; rfl
    | inr generic => rw [generic]; rfl
  rw [standing] at keeps
  by_cases named : child.field = some .name
  · rw [if_pos named] at keeps
    have part := keeps.part (.inr rfl)
    exact ⟨part, fun _ => Prod.ext part.kind (keeps.text rfl)⟩
  · rw [if_neg named] at keeps
    exact ⟨keeps.part (.inl rfl), fun isNamed => absurd isNamed named⟩

private theorem child?_constituents_inside (part : KeepsPart scope child other) (role : Field) :
    (((Node.child? ⟨kind, field, named, text, line, before ++ child :: after⟩ role).map
        (·.constituents)).getD []).map (meaning scope) =
      (((Node.child? ⟨kind, field, named, text, line, before ++ other :: after⟩ role).map
        (·.constituents)).getD []).map (meaning scope) := by
  rw [map_constituents_child?, map_constituents_child?]
  exact congrArg (·.getD []) (map_find?_inside (fun holder => holder.constituents.map (meaning scope))
    part.field fun _ => part.constituents)

private theorem reading_inside (keeps : Keeps scope (Node.standingIn kind child) child other) :
    reading scope ⟨kind, field, named, text, line, before ++ child :: after⟩ =
      reading scope ⟨kind, field, named, text, line, before ++ other :: after⟩ := by
  have constituent := keeps.isConstituent
  cases kind with
  | literalType =>
      have token : tokenOf child = tokenOf other :=
        Prod.ext (keeps.part (.inr rfl)).kind (keeps.text rfl)
      exact congrArg (fun tokens : List (Kind × Text) =>
        Reading.literal (tokens.head?.getD (.literalType, text)).1
          (tokens.head?.getD (.literalType, text)).2) (map_filter_inside tokenOf constituent token)
  | objectType =>
      exact congrArg Reading.object
        (map_filter_inside (propertyMeaning scope) constituent (keeps.part (.inl rfl)).property)
  | unionType =>
      -- what a nested union brings in is kept as a list, not member by member
      refine congrArg Reading.union ?_
      rw [Node.unionMembers_eq, Node.unionMembers_eq, List.map_flatMap, List.map_flatMap,
        List.flatMap_def, List.flatMap_def]
      exact congrArg List.flatten (map_filter_inside (fun child => child.asMembers.map (meaning scope))
        constituent (keeps.members rfl))
  | parenthesizedType =>
      exact congrArg Reading.parentheses (map_filter_inside (meaning scope) constituent keeps.meaning)
  | genericType =>
      -- the child may be the name or hold the arguments; its role tells which of both it touches
      obtain ⟨part, token⟩ := keepsPart_child keeps (.inr rfl)
      refine congrArg₂ Reading.generic ?_ (child?_constituents_inside part .typeArguments)
      exact congrArg (·.getD []) (map_find?_inside (·.text) part.field fun named =>
        congrArg Prod.snd (token named))
  | _ => rfl

theorem keeps_inside (keeps : Keeps scope (Node.standingIn kind child) child other) :
    Keeps scope standing ⟨kind, field, named, text, line, before ++ child :: after⟩
      ⟨kind, field, named, text, line, before ++ other :: after⟩ := by
  refine keeps_of_reading_eq rfl rfl (reading_inside keeps) ?_ fun _ => rfl
  intro _
  refine ⟨rfl, rfl, propertyMeaning_congr rfl fun signature => ?_,
    map_filter_inside (meaning scope) keeps.isConstituent keeps.meaning⟩
  obtain ⟨part, token⟩ := keepsPart_child keeps (.inl signature)
  refine ⟨map_find?_inside tokenOf part.field token, child?_constituents_inside part .type, ?_⟩
  simp [part.kind]

end Children

/-- A rewriting step keeps what counts where it is made. -/
theorem keeps_of_rewrite (scope : Scope) (step : Node.Rewrite standing node changed) :
    Keeps scope standing node changed := by
  induction step with
  | wrap form named isType => exact keeps_wrap form named isType
  | comment holds isComment => exact keeps_comment holds isComment
  | regroup kind otherKind named members isType =>
      exact keeps_regroup kind otherKind named members isType
  | moved line => exact keeps_moved line
  | placed field isType => exact keeps_placed field isType
  | respelled text noToken hasParts => exact keeps_respelled text noToken hasParts
  | inside step ih => exact keeps_inside ih

/-- Equivalent nodes mean the same in every scope. -/
theorem meaning_eq_of_equivalent (scope : Scope) (equivalent : node.Equivalent changed) :
    meaning scope node = meaning scope changed := by
  induction equivalent with
  | rel node changed step => exact (keeps_of_rewrite scope step).meaning
  | refl node => rfl
  | symm node changed _ ih => exact ih.symm
  | trans node middle changed _ _ first second => exact first.trans second

/-- Wrappers, comments and grouping do not change what is elaborated: two equivalent nodes give types
that are equal but for their lines, or they fail both, in the same failure but for the line. -/
theorem elaborate_of_equivalent (scope : Scope) (equivalent : node.Equivalent changed) :
    (∃ type other, elaborate scope node = .ok type ∧ elaborate scope changed = .ok other ∧
      type.withoutLines = other.withoutLines) ∨
    ∃ failure other, elaborate scope node = .error failure ∧
      elaborate scope changed = .error other ∧ failure.withoutLine = other.withoutLine := by
  have same := meaning_eq_of_equivalent scope equivalent
  unfold meaning at same
  cases first : elaborate scope node with
  | ok type =>
      cases second : elaborate scope changed with
      | ok other =>
          rw [first, second] at same
          exact .inl ⟨type, other, rfl, rfl, Except.ok.inj same⟩
      | error failure =>
          rw [first, second] at same
          cases same
  | error failure =>
      cases second : elaborate scope changed with
      | ok other =>
          rw [first, second] at same
          cases same
      | error other =>
          rw [first, second] at same
          exact .inr ⟨failure, other, rfl, rfl, Except.error.inj same⟩

end TypeExpr

namespace Syntax.Node

def nameType (text : Text) : Node := { kind := .typeIdentifier, text := text }

def unionType (members : List Node) : Node := { kind := .unionType, children := members }

def readonlyType (inner : Node) : Node :=
  { kind := .genericType
    children := [{ kind := .typeIdentifier, field := some .name, text := "Readonly" },
      { kind := .typeArguments, field := some .typeArguments, children := [inner] }] }

def propertyKey : Node := { kind := .propertyIdentifier, field := some .name, text := "a" }

def typeClause (children : List Node) : Node :=
  { kind := .typeClause, field := some .type, children := children }

/-- An object type with one property. -/
def recordOf (annotated : List Node) : Node :=
  { kind := .objectType
    children := [{ kind := .propertySignature, children := [propertyKey, typeClause annotated] }] }

theorem rewrite_recordOf {annotated changed : List Node}
    (step : Rewrite .part (typeClause annotated) (typeClause changed)) :
    Rewrite .type (recordOf annotated) (recordOf changed) :=
  @Rewrite.inside .type .objectType none true [] 1 [] [] _ _
    (@Rewrite.inside .part .propertySignature none true [] 1 [propertyKey] [] _ _ step)

theorem rewrite_recordOf_type {node changed : Node} (step : Rewrite .type node changed) :
    Rewrite .type (recordOf [node]) (recordOf [changed]) :=
  rewrite_recordOf (@Rewrite.inside .part .typeClause _ true [] 1 [] [] _ _ step)

end Syntax.Node

open Syntax.Node in
/-- The types `{ a: B | C | D }` and `{ a: Readonly<B | C | D> }`, the latter with a comment and its
union grouped to the right. -/
theorem TypeExpr.elaborate_of_equivalent_recordOf :
    let leaning := unionType [unionType [nameType "B", nameType "C"], nameType "D"]
    let regrouped := unionType [nameType "B", unionType [nameType "C", nameType "D"]]
    let wrapped := recordOf [{ kind := .comment }, readonlyType regrouped]
    (recordOf [leaning]).Equivalent wrapped ∧
      ∃ type other, elaborate (.ofImports "src/a.ppx.ts" []) (recordOf [leaning]) = .ok type ∧
        elaborate (.ofImports "src/a.ppx.ts" []) wrapped = .ok other ∧
        type.withoutLines = other.withoutLines := by
  intro leaning regrouped wrapped
  have regroup : Rewrite .type (recordOf [leaning]) (recordOf [regrouped]) :=
    rewrite_recordOf_type (.regroup rfl rfl rfl rfl (.inl rfl))
  have wrap : Rewrite .type (recordOf [regrouped]) (recordOf [readonlyType regrouped]) :=
    rewrite_recordOf_type (.wrap (.readonly rfl rfl rfl) rfl (.inl rfl))
  have comment : Rewrite .type (recordOf [readonlyType regrouped]) wrapped :=
    rewrite_recordOf (@Rewrite.comment .part .typeClause _ true [] 1 [] _ _ (by decide) rfl)
  have equivalent : (recordOf [leaning]).Equivalent wrapped :=
    .trans _ _ _ (.rel _ _ regroup) (.trans _ _ _ (.rel _ _ wrap) (.rel _ _ comment))
  refine ⟨equivalent, ?_⟩
  cases elaborate_of_equivalent (.ofImports "src/a.ppx.ts" []) equivalent with
  | inl both => exact both
  | inr neither =>
      obtain ⟨failure, other, fails, -⟩ := neither
      cases fails

end Companion
