import Companion.Declaration
import Companion.Proofs.TypeExpr.Constituents
import Companion.Proofs.TypeExpr.Forms

/-!
# References of elaborated types

Each reference of an elaborated type carries what its name is found to be in the scope, wherever it
stands in the type.
-/

set_option autoImplicit false

namespace Companion.TypeExpr

open Syntax

/-- Each reference of a type carries the import that binds its name in the scope. -/
def IsResolved (scope : Scope) (type : TypeExpr) : Prop :=
  ∀ reference ∈ type.references, scope.find reference.1 = .ok reference.2

variable {scope : Scope}

theorem isResolved_object {properties : List (Property TypeExpr)} {line : Option Int}
    (resolved : ∀ property ∈ properties, IsResolved scope property.type) :
    IsResolved scope (.object properties line) := by
  intro reference member
  simp only [references, collect_object, List.nil_append, List.mem_flatMap] at member
  obtain ⟨property, isProperty, inType⟩ := member
  exact resolved property isProperty reference inType

theorem isResolved_union {members : List TypeExpr} {line : Option Int}
    (resolved : ∀ member ∈ members, IsResolved scope member) :
    IsResolved scope (.union members line) := by
  intro reference member
  simp only [references, collect_union, List.mem_flatMap] at member
  obtain ⟨type, isMember, inType⟩ := member
  exact resolved type isMember reference inType

theorem isResolved_ofMembers {members : List TypeExpr} {line : Int}
    (resolved : ∀ member ∈ members, IsResolved scope member) :
    IsResolved scope (ofMembers line members) := by
  unfold ofMembers
  split
  · next member => exact resolved member List.mem_cons_self
  · exact isResolved_union resolved

theorem isResolved_of_elaborateName_eq_ok {node : Node} {type : TypeExpr}
    (elaborated : elaborateName scope node = .ok type) : IsResolved scope type := by
  intro reference member
  cases elaborateName_eq_ok_cases elaborated with
  | inl isKeyword =>
      obtain ⟨kind, -, rfl⟩ := isKeyword
      cases member
  | inr isName =>
      obtain ⟨origin, -, -, found, rfl⟩ := isName
      obtain rfl := List.mem_singleton.mp member
      exact found

theorem isResolved_of_elaborateLiteral_eq_ok {node : Node} {type : TypeExpr}
    (elaborated : elaborateLiteral scope node = .ok type) : IsResolved scope type := by
  intro reference member
  cases elaborateLiteral_eq_ok_cases elaborated with
  | inl isUndefined =>
      obtain ⟨line, rfl⟩ := isUndefined
      cases member
  | inr isLiteral =>
      obtain ⟨form, raw, line, rfl⟩ := isLiteral
      cases member

/-- What is elaborated is resolved. -/
theorem isResolved_of_elaborate_eq_ok {node : Node} {type : TypeExpr}
    (elaborated : elaborate scope node = .ok type) : IsResolved scope type := by
  refine elaborate_induction (motive := fun _ type => IsResolved scope type) ?name ?literal ?object
    ?union ?wrapper elaborated
  case name => exact fun node type _ elaborated => isResolved_of_elaborateName_eq_ok elaborated
  case literal => exact fun node type _ elaborated => isResolved_of_elaborateLiteral_eq_ok elaborated
  case object =>
    intro node properties _ members
    refine isResolved_object (Failure.forall_of_forall₂ ?_ members)
    intro member property reads
    obtain ⟨inner, -, resolved⟩ := reads.typed
    exact resolved
  case union =>
    intro node types _ members
    exact isResolved_ofMembers (Failure.forall_of_forall₂ (fun _ _ resolved => resolved) members)
  case wrapper => exact fun node inner type _ resolved => resolved

/-- The type that an alias stands for is resolved. -/
theorem isResolved_of_ofStatement_eq_ok {statement : MarkedStatement} {declaration : Declaration}
    (declared : Declaration.ofStatement scope statement = .ok declaration) {type : TypeExpr}
    (typed : declaration.type = some type) : IsResolved scope type := by
  unfold Declaration.ofStatement Declaration.ofNode at declared
  dsimp only at declared
  split at declared
  · rw [Failure.bind_eq_ok_iff] at declared
    obtain ⟨aliased, isAliased, success⟩ := declared
    obtain rfl := Except.ok.inj success
    obtain rfl := Option.some.inj typed
    unfold Declaration.aliasType at isAliased
    split at isAliased
    · cases isAliased
    · split at isAliased
      · cases isAliased
      · next value _ => exact isResolved_of_elaborate_eq_ok isAliased
  · obtain rfl := Except.ok.inj declared
    cases typed

end Companion.TypeExpr
