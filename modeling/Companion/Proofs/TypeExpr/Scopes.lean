import Companion.Declaration
import Companion.Proofs.TypeExpr.Forms

/-!
# Scopes alike

What a syntax node stands for depends on its scope through the names that are looked up in it and
nothing else: the path of the module is only named in failures. So two scopes in which every name is
found to be the same give the same types, or failures both.
-/

set_option autoImplicit false

namespace Companion

open Syntax Failure

namespace Imports

/-- Wherever a module is, its names are imported from the same modules. -/
theorem find_alike (path other name : Text) (statements : List Node) :
    Alike Eq (find path name statements) (find other name statements) := by
  have moduleSpecifier_alike : ∀ statement,
      Alike Eq (moduleSpecifier path statement) (moduleSpecifier other statement) := by
    intro statement
    unfold moduleSpecifier
    cases statement.child? .source with
    | none => exact .error _ _
    | some source =>
        dsimp only
        split
        · exact .error _ _
        · split
          · exact .error _ _
          · exact .ok rfl
  induction statements with
  | nil => exact .ok rfl
  | cons statement rest ih =>
      rw [find, find]
      cases importedAs name statement with
      | none => exact ih
      | some imported =>
          exact (moduleSpecifier_alike statement).bind_same fun specifier => .ok rfl

end Imports

namespace TypeExpr

/-- Every name is found to be the same in both scopes, if it is found at all. -/
def Scope.Alike (scope other : Scope) : Prop :=
  ∀ name, Failure.Alike Eq (scope.find name) (other.find name)

theorem scope_ofImports_alike (path other : Text) (statements : List Node) :
    (Scope.ofImports path statements).Alike (Scope.ofImports other statements) :=
  fun name => Imports.find_alike path other name statements

variable {scope other : Scope}

theorem elaborateName_alike (alike : scope.Alike other) (node : Node) :
    Failure.Alike Eq (elaborateName scope node) (elaborateName other node) := by
  unfold elaborateName
  cases PrimitiveType.ofKeyword? node.text with
  | some kind => exact .ok rfl
  | none =>
      dsimp only
      split
      · exact (alike node.text).bind_same fun origin => .ok rfl
      · exact .error _ _

theorem elaborateLiteral_alike (scope other : Scope) (node : Node) :
    Failure.Alike Eq (elaborateLiteral scope node) (elaborateLiteral other node) := by
  simp only [elaborateLiteral]
  split
  · exact .ok rfl
  · split
    · exact .ok rfl
    · split
      · exact .ok rfl
      · exact .error _ _

theorem keyOf_alike (scope other : Scope) (key : Node) (line : Int) :
    Failure.Alike Eq (keyOf scope key line) (keyOf other key line) := by
  unfold keyOf
  split
  · exact .ok rfl
  · split
    · exact .ok rfl
    · exact .error _ _

private theorem elaborateProperty_alike (node : Node)
    (typed : ∀ inner, node.annotated? = some inner →
      Failure.Alike Eq (elaborate scope inner) (elaborate other inner)) :
    Failure.Alike Eq (elaborateProperty scope node) (elaborateProperty other node) := by
  rw [elaborateProperty_eq, elaborateProperty_eq]
  split
  · exact .error _ _
  · cases node.child? .name with
    | none => exact .error _ _
    | some key =>
        apply (keyOf_alike scope other key node.line).bind_same
        intro keyed
        cases annotated : node.annotated? with
        | none => exact .error _ _
        | some inner => exact (typed inner annotated).bind_same fun type => .ok rfl

/-- Every node stands for the same in both scopes. -/
theorem elaborate_alike (alike : scope.Alike other) (node : Node) :
    Failure.Alike Eq (elaborate scope node) (elaborate other node) := by
  induction node using Node.induction_below with
  | step node ih =>
      rw [elaborate_eq, elaborate_eq]
      have form := node.hasForm_typeForm
      generalize node.typeForm = shape at form ⊢
      cases form with
      | name kind => exact elaborateName_alike alike node
      | literal kind => exact elaborateLiteral_alike scope other node
      | object kind =>
          have properties : Failure.Alike Eq (node.constituents.mapM (elaborateProperty scope))
              (node.constituents.mapM (elaborateProperty other)) := by
            refine Failure.Alike.mapM fun member isMember => ?_
            refine elaborateProperty_alike member fun inner annotated => ?_
            exact ih inner ((Node.isBelow_of_annotated?_eq_some annotated).trans
              (Node.isBelow_of_mem_constituents isMember))
          exact properties.bind_same fun properties => .ok rfl
      | union kind =>
          have types : Failure.Alike Eq (node.unionMembers.mapM (elaborate scope))
              (node.unionMembers.mapM (elaborate other)) :=
            Failure.Alike.mapM fun member isMember =>
              ih member (Node.isBelow_of_mem_unionMembers isMember)
          exact types.bind_same fun types => .ok rfl
      | parentheses kind holds => exact ih _ (Node.HasForm.parentheses kind holds).isBelow
      | readonly kind named holds => exact ih _ (Node.HasForm.readonly kind named holds).isBelow
      | unsupported => exact .error _ _

end TypeExpr

/-- The same declaration, perhaps in another place. -/
def Declaration.IsMovedTo (declaration other : Declaration) : Prop :=
  ∃ location, other = { declaration with location := location }

/-- What a statement declares is the same in both scopes but for the place. -/
theorem Declaration.ofStatement_alike {scope other : TypeExpr.Scope} (alike : scope.Alike other)
    (statement : MarkedStatement) :
    Failure.Alike IsMovedTo (ofStatement scope statement) (ofStatement other statement) := by
  have aliasType_alike : ∀ node,
      Failure.Alike Eq (aliasType scope node) (aliasType other node) := by
    intro node
    unfold aliasType
    split
    · exact .error _ _
    · cases node.child? .value with
      | none => exact .error _ _
      | some value => exact TypeExpr.elaborate_alike alike value
  unfold ofStatement ofNode
  dsimp only
  split
  · exact (aliasType_alike _).bind_same fun type => .ok ⟨_, rfl⟩
  · exact .ok ⟨_, rfl⟩

end Companion
