import Companion.TypeExpr.Elaboration

/-!
# Resolvers with a memory

A resolver remembers what it answered. It only remembers what the imports of its module say, so asking
it before changes no later answer, and a type can be read against it at any time.
-/

set_option autoImplicit false

namespace Companion.Imports.Resolver

open Syntax

/-- The resolver after some names have been looked up. -/
def after (resolver : Resolver) (asked : List Text) : Resolver :=
  asked.foldl (fun resolver name => (resolver.find name).2) resolver

/-- What the resolver answers next. -/
def answer (resolver : Resolver) (name : Text) : Except Failure (Option ImportedName) :=
  (resolver.find name).1

/-- The scope in which names are looked up with the resolver. -/
def scope (resolver : Resolver) : TypeExpr.Scope := ⟨resolver.path, resolver.answer⟩

/-! ## Memories -/

/-- What the resolver remembers is what its imports say. -/
def IsFaithful (resolver : Resolver) : Prop :=
  ∀ name answer, resolver.known.lookup name = some answer →
    Imports.find resolver.path name resolver.statements = .ok answer

variable {resolver : Resolver} {source : Module}

theorem path_find (resolver : Resolver) (name : Text) :
    (resolver.find name).2.path = resolver.path := by
  unfold find
  cases resolver.known.lookup name with
  | some found => rfl
  | none => cases Imports.find resolver.path name resolver.statements <;> rfl

theorem statements_find (resolver : Resolver) (name : Text) :
    (resolver.find name).2.statements = resolver.statements := by
  unfold find
  cases resolver.known.lookup name with
  | some found => rfl
  | none => cases Imports.find resolver.path name resolver.statements <;> rfl

theorem IsFaithful.answer_eq (faithful : resolver.IsFaithful) (name : Text) :
    resolver.answer name = Imports.find resolver.path name resolver.statements := by
  unfold answer find
  cases known : resolver.known.lookup name with
  | some found => exact (faithful name found known).symm
  | none =>
      dsimp only
      cases Imports.find resolver.path name resolver.statements with
      | error failure => rfl
      | ok found => rfl

/-- A lookup adds what the imports say, or nothing when it fails. -/
theorem IsFaithful.find (faithful : resolver.IsFaithful) (name : Text) :
    (resolver.find name).2.IsFaithful := by
  unfold Resolver.find
  cases resolver.known.lookup name with
  | some found => exact faithful
  | none =>
      dsimp only
      cases looked : Imports.find resolver.path name resolver.statements with
      | error failure => exact faithful
      | ok found =>
          intro other answer known
          rw [List.lookup_cons] at known
          split at known
          · next same =>
            rw [beq_iff_eq.mp same, ← Option.some.inj known]
            exact looked
          · exact faithful other answer known

/-! ## Resolvers of modules -/

/-- The answers that a resolver of a module remembers are those that the imports give. -/
structure Recalls (resolver : Resolver) (source : Module) : Prop where
  path : resolver.path = source.path
  statements : resolver.statements = source.imports
  known : ∀ name answer, resolver.known.lookup name = some answer →
    Imports.find source.path name source.imports = .ok answer

theorem recalls_ofModule (source : Module) : (ofModule source).Recalls source :=
  ⟨rfl, rfl, fun _ _ found => nomatch found⟩

theorem Recalls.isFaithful (recalls : resolver.Recalls source) : resolver.IsFaithful := by
  unfold IsFaithful
  rw [recalls.path, recalls.statements]
  exact recalls.known

theorem Recalls.answer_eq (recalls : resolver.Recalls source) (name : Text) :
    resolver.answer name = Imports.find source.path name source.imports := by
  rw [recalls.isFaithful.answer_eq, recalls.path, recalls.statements]

theorem Recalls.find (recalls : resolver.Recalls source) (name : Text) :
    (resolver.find name).2.Recalls source := by
  have path := (path_find resolver name).trans recalls.path
  have statements := (statements_find resolver name).trans recalls.statements
  have known := recalls.isFaithful.find name
  unfold IsFaithful at known
  rw [path, statements] at known
  exact ⟨path, statements, known⟩

theorem Recalls.after (recalls : resolver.Recalls source) (asked : List Text) :
    (resolver.after asked).Recalls source := by
  induction asked generalizing resolver with
  | nil => exact recalls
  | cons name rest ih => exact ih (recalls.find name)

/-- Whatever a resolver was asked before, it answers as the imports of its module say. -/
theorem answer_after_ofModule (source : Module) (asked : List Text) :
    ((ofModule source).after asked).answer = fun name =>
      Imports.find source.path name source.imports :=
  funext ((recalls_ofModule source).after asked).answer_eq

theorem scope_after_ofModule (source : Module) (asked : List Text) :
    ((ofModule source).after asked).scope = .ofImports source.path source.imports := by
  rw [scope, answer_after_ofModule, ((recalls_ofModule source).after asked).path]
  rfl

end Companion.Imports.Resolver
