import Companion.Proofs.Generator.Plugin
import Companion.Proofs.TypeExpr.Constituents
import Companion.Proofs.TypeExpr.Scopes

/-! What a companion is generated for matters through the names looked up, the specifiers of companions
and the way from the file to its module. Where these are the same, so is the companion. -/

set_option autoImplicit false

namespace Companion

open Failure

/-- Names are bound alike, and companions have the same specifiers. -/
structure CompanionContext.Alike (context other : CompanionContext) : Prop where
  binding : ∀ name origin,
    Failure.Alike Eq (context.binding name origin) (other.binding name origin)
  specifier : ∀ specifier,
    Failure.Alike Eq (context.companionSpecifier specifier) (other.companionSpecifier specifier)

namespace Dialect

variable {dialect : Dialect} {context other : CompanionContext}

theorem reference_alike (alike : context.Alike other) (name : Text)
    (origin : Option ImportedName) :
    Failure.Alike Eq (dialect.reference context name origin)
      (dialect.reference other name origin) := by
  unfold reference
  apply (alike.binding name origin).bind_same
  intro found
  cases found with
  | none => exact .ok rfl
  | some binding => exact (alike.specifier binding.specifier).bind_same fun specifier => .ok rfl

theorem express_alike (alike : context.Alike other) (type : TypeExpr) :
    Failure.Alike Eq (dialect.express context type) (dialect.express other type) := by
  induction type with
  | primitive kind line => exact .ok rfl
  | literal kind raw line => exact .ok rfl
  | object properties line ih =>
      have lines : Failure.Alike Eq (dialect.expressProperties context properties)
          (dialect.expressProperties other properties) := by
        induction properties with
        | nil => exact .ok rfl
        | cons property rest others =>
            obtain ⟨name, type, optional, quoted⟩ := property
            have value := ih _ List.mem_cons_self
            have more := others fun property member => ih property (List.mem_cons_of_mem _ member)
            rw [expressProperties, expressProperties, expressProperty, expressProperty]
            apply Failure.Alike.bind_same (value.bind_same fun value => .ok rfl)
            exact fun line => more.bind_same fun lines => .ok rfl
      rw [express, express]
      exact lines.bind_same fun lines => .ok rfl
  | union members line ih =>
      have parts : Failure.Alike Eq (dialect.expressMembers context members)
          (dialect.expressMembers other members) := by
        induction members with
        | nil => exact .ok rfl
        | cons member rest others =>
            have part := ih _ List.mem_cons_self
            have more := others fun member isMember => ih member (List.mem_cons_of_mem _ isMember)
            rw [expressMembers, expressMembers]
            exact part.bind_same fun part => more.bind_same fun parts => .ok rfl
      rw [express, express]
      exact parts.bind_same fun parts => .ok rfl
  | reference name origin line => exact reference_alike alike name origin
  | unclassified line => exact .error _ _

end Dialect

/-- The companion of a declaration does not depend on where its module is, as long as the file that
it goes into lies in the same direction. -/
theorem Plugin.generate_alike {plugin : Plugin} {context other : CompanionContext}
    (alike : context.Alike other)
    (imported :
      Specifier.relativeImport context.working context.sourceFile context.companionPath =
        Specifier.relativeImport other.working other.sourceFile other.companionPath)
    {declaration moved : Declaration} (isMoved : declaration.IsMovedTo moved) :
    Failure.Alike Eq (plugin.generate context declaration) (plugin.generate other moved) := by
  obtain ⟨location, rfl⟩ := isMoved
  unfold generate
  rw [imported]
  dsimp only
  by_cases kind : declaration.kind ≠ .typeAlias
  · rw [if_pos kind, if_pos kind]
    exact .error _ _
  · rw [if_neg kind, if_neg kind]
    cases declaration.type with
    | none => exact .error _ _
    | some type =>
        apply (Dialect.express_alike alike type).bind_same
        intro expression
        exact (Failure.Alike.refl _).bind_same fun specifier => .ok rfl

end Companion
