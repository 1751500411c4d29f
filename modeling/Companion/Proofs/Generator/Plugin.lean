import Companion.Generator.Plugin
import Companion.Proofs.Failure

/-! What a plugin generates: exactly when there is a fragment, and what it consists of. -/

set_option autoImplicit false

namespace Companion.Plugin

/-- The fragment of a declaration, given the expression of its type and the specifier of its
module. -/
def fragment (plugin : Plugin) (declaration : Declaration) (expression : Code) (specifier : Text) :
    Artifact where
  imports := plugin.library.dialect.libraryImports ++ [typeImport declaration.name specifier] ++
    expression.imports.map NamedImport.render
  statements := [Dialect.aliasStatement declaration.name,
    plugin.library.dialect.companionStatement declaration.name expression.code]

theorem generate_eq_ok_iff {plugin : Plugin} {context : CompanionContext} {declaration : Declaration}
    {artifact : Artifact} :
    plugin.generate context declaration = .ok artifact ↔
      declaration.kind = .typeAlias ∧ ∃ type expression specifier,
        declaration.type = some type ∧
        plugin.library.dialect.express context type = .ok expression ∧
        Specifier.relativeImport context.working context.sourceFile context.companionPath =
          .ok specifier ∧
        artifact = plugin.fragment declaration expression specifier := by
  unfold generate
  by_cases kind : declaration.kind = .typeAlias
  · cases declared : declaration.type with
    | none => simp [kind, throw, throwThe, MonadExceptOf.throw]
    | some type =>
        simp only [kind, ne_eq, not_true_eq_false, ↓reduceIte, Failure.bind_eq_ok_iff]
        simp only [pure, Except.pure, Except.ok.injEq, Option.some.injEq, true_and]
        constructor
        · rintro ⟨expression, expressed, specifier, imported, rfl⟩
          exact ⟨type, expression, specifier, rfl, expressed, imported, rfl⟩
        · rintro ⟨_, expression, specifier, rfl, expressed, imported, rfl⟩
          exact ⟨expression, expressed, specifier, imported, rfl⟩
  · simp [kind, bind, Except.bind, throw, throwThe, MonadExceptOf.throw]

end Companion.Plugin
