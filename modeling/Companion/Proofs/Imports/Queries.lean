import Companion.Proofs.Imports
import Companion.Proofs.Imports.Statements

/-!
# Questions to a resolver

A resolver is asked for bindings and for modules in any order. It remembers nothing but what the
imports say, so each answer is the one that it would give if it were asked nothing else, and that one
is settled by a single specifier: the first one in source order with the name as its local name, in
whichever statement and in whichever of its lists it stands. The source of an import statement counts
for the names that it settles and for no others.
-/

set_option autoImplicit false

namespace Companion.Imports

open Syntax

variable {path name imported : Text} {statement : Node} {statements : List Node}

/-! ## The specifier that settles a name -/

/-- All specifiers in source order, each with the statement that holds it. -/
def placedSpecifiers (statements : List Node) : List (Node × Node) :=
  statements.flatMap fun statement => (specifiers statement).map fun specifier =>
    (statement, specifier)

/-- What a specifier is imported as, if its local name is the given one. -/
def importedBy (name : Text) (specifier : Node) : Option Text :=
  match specifierNames specifier with
  | some (imported, localName) => if localName = name then some imported else none
  | none => none

theorem importedBy_eq_some_iff {specifier : Node} :
    importedBy name specifier = some imported ↔
      specifierNames specifier = some (imported, name) := by
  unfold importedBy
  cases names : specifierNames specifier with
  | none => simp
  | some found =>
      obtain ⟨exported, localName⟩ := found
      by_cases same : localName = name <;> simp [same]

theorem importedBy_eq_none_iff {specifier : Node} :
    importedBy name specifier = none ↔
      ∀ imported, specifierNames specifier ≠ some (imported, name) := by
  rw [Option.eq_none_iff_forall_ne_some]
  simp only [ne_eq, importedBy_eq_some_iff]

/-- The first specifier with a local name stands in the statement and imports `imported`. -/
def IsSettledBy (name imported : Text) (statements : List Node) (statement : Node) : Prop :=
  ∃ before specifier after,
    placedSpecifiers statements = before ++ (statement, specifier) :: after ∧
    specifierNames specifier = some (imported, name) ∧
    ∀ other ∈ before, ∀ exported, specifierNames other.2 ≠ some (exported, name)

/-- What the imports of a module say about a name. -/
inductive Tells (path name : Text) (statements : List Node) :
    Except Failure (Option ImportedName) → Prop where
  | unbound
      (unbound : ∀ entry ∈ placedSpecifiers statements, ∀ imported,
        specifierNames entry.2 ≠ some (imported, name)) :
      Tells path name statements (.ok none)
  | bound {imported specifier : Text} {statement : Node}
      (settled : IsSettledBy name imported statements statement)
      (names : NamesModule specifier statement) :
      Tells path name statements (.ok (some ⟨name, imported, specifier⟩))
  | malformed {imported : Text} {statement : Node} {failure : Failure}
      (settled : IsSettledBy name imported statements statement)
      (malformed : IsMalformed path statement failure) :
      Tells path name statements (.error failure)

/-- The statement and the imported name of the first specifier with a local name. -/
def settling? (name : Text) (statements : List Node) : Option (Node × Text) :=
  (placedSpecifiers statements).findSome? fun entry =>
    (importedBy name entry.2).map fun imported => (entry.1, imported)

theorem importedAs_eq (name : Text) (statement : Node) :
    importedAs name statement = (specifiers statement).findSome? (importedBy name) := rfl

theorem settling?_cons (name : Text) (statement : Node) (rest : List Node) :
    settling? name (statement :: rest) =
      ((importedAs name statement).map fun imported => (statement, imported)).or
        (settling? name rest) := by
  rw [settling?, placedSpecifiers, List.flatMap_cons, List.findSome?_append, List.findSome?_map,
    importedAs_eq, List.map_findSome?]
  rfl

/-- A lookup is decided by the first specifier with the name. -/
theorem find_eq_settling? (path name : Text) (statements : List Node) :
    find path name statements =
      match settling? name statements with
      | some (statement, imported) =>
        (moduleSpecifier path statement).map fun specifier => some ⟨name, imported, specifier⟩
      | none => .ok none := by
  induction statements with
  | nil => rfl
  | cons statement rest ih =>
      rw [settling?_cons, find]
      cases importedAs name statement with
      | none => exact ih
      | some imported =>
          dsimp only [Option.map_some, Option.some_or]
          cases moduleSpecifier path statement <;> rfl

theorem settling?_eq_some_iff :
    settling? name statements = some (statement, imported) ↔
      IsSettledBy name imported statements statement := by
  unfold settling? IsSettledBy
  rw [List.findSome?_eq_some_iff]
  simp only [Option.map_eq_some_iff, Option.map_eq_none_iff, importedBy_eq_none_iff,
    importedBy_eq_some_iff, Prod.mk.injEq]
  constructor
  · intro found
    obtain ⟨before, entry, after, shape, ⟨exported, names, rfl, rfl⟩, others⟩ := found
    exact ⟨before, entry.2, after, shape, names, others⟩
  · intro settled
    obtain ⟨before, specifier, after, shape, names, others⟩ := settled
    exact ⟨before, (statement, specifier), after, shape, ⟨imported, names, rfl, rfl⟩, others⟩

theorem settling?_eq_none_iff :
    settling? name statements = none ↔
      ∀ entry ∈ placedSpecifiers statements, ∀ imported,
        specifierNames entry.2 ≠ some (imported, name) := by
  simp only [settling?, List.findSome?_eq_none_iff, Option.map_eq_none_iff, importedBy_eq_none_iff]

theorem tells_find (path name : Text) (statements : List Node) :
    Tells path name statements (find path name statements) := by
  rw [find_eq_settling?]
  cases first : settling? name statements with
  | none => exact .unbound (settling?_eq_none_iff.mp first)
  | some found =>
      obtain ⟨statement, imported⟩ := found
      have settled := settling?_eq_some_iff.mp first
      dsimp only
      cases read : moduleSpecifier path statement with
      | ok specifier => exact .bound settled (moduleSpecifier_eq_ok_iff.mp read)
      | error failure => exact .malformed settled (moduleSpecifier_eq_error_iff.mp read)

theorem find_eq_of_tells {outcome : Except Failure (Option ImportedName)}
    (told : Tells path name statements outcome) : find path name statements = outcome := by
  rw [find_eq_settling?]
  cases told with
  | unbound unbound => rw [settling?_eq_none_iff.mpr unbound]
  | bound settled names =>
      rw [settling?_eq_some_iff.mpr settled]
      dsimp only
      rw [moduleSpecifier_eq_ok_iff.mpr names]
      rfl
  | malformed settled malformed =>
      rw [settling?_eq_some_iff.mpr settled]
      dsimp only
      rw [moduleSpecifier_eq_error_iff.mpr malformed]
      rfl

theorem find_eq_iff_tells {outcome : Except Failure (Option ImportedName)} :
    find path name statements = outcome ↔ Tells path name statements outcome := by
  constructor
  · intro found
    exact found ▸ tells_find path name statements
  · exact find_eq_of_tells

/-! ## Statements that settle a name and others -/

/-- Behind some statements, this one holds the first specifier with a local name. -/
def HoldsFirst (name : Text) (before : List Node) (statement : Node) : Prop :=
  (∀ other ∈ before, ¬ Binds name other) ∧ Binds name statement

theorem settling?_append_cons_of_not_holdsFirst {before after : List Node} {other : Node}
    (notFirst : ¬ HoldsFirst name before statement)
    (same : specifiers other = specifiers statement) :
    settling? name (before ++ other :: after) = settling? name (before ++ statement :: after) := by
  induction before with
  | nil =>
      have unbound : ¬ Binds name statement := fun binds =>
        notFirst ⟨List.forall_mem_nil _, binds⟩
      have passed := importedAs_eq_none_iff.mpr unbound
      have otherPassed : importedAs name other = none := by
        rw [importedAs_eq, same, ← importedAs_eq]
        exact passed
      rw [List.nil_append, List.nil_append, settling?_cons, settling?_cons, passed, otherPassed]
      rfl
  | cons first rest ih =>
      rw [List.cons_append, List.cons_append, settling?_cons, settling?_cons]
      cases binds : importedAs name first with
      | some imported => rfl
      | none =>
          have unbound := importedAs_eq_none_iff.mp binds
          rw [ih fun holds => notFirst ⟨List.forall_mem_cons.mpr ⟨unbound, holds.1⟩, holds.2⟩]

theorem find_of_not_holdsFirst {before after : List Node} {other : Node} (path : Text)
    (notFirst : ¬ HoldsFirst name before statement)
    (same : specifiers other = specifiers statement) :
    find path name (before ++ other :: after) = find path name (before ++ statement :: after) := by
  rw [find_eq_settling?, find_eq_settling?, settling?_append_cons_of_not_holdsFirst notFirst same]

theorem HoldsFirst.find_eq {before : List Node} (first : HoldsFirst name before statement)
    (path : Text) (after : List Node) :
    ∃ imported, find path name (before ++ statement :: after) =
      (moduleSpecifier path statement).map fun specifier => some ⟨name, imported, specifier⟩ :=
  find_of_isFirstBinding path ⟨before, after, rfl, first.1, first.2⟩

theorem HoldsFirst.of_specifiers_eq {before : List Node} {other : Node}
    (first : HoldsFirst name before statement) (same : specifiers other = specifiers statement) :
    HoldsFirst name before other := by
  refine ⟨first.1, ?_⟩
  unfold Binds
  rw [same]
  exact first.2

namespace Resolver

/-! ## Questions -/

/-- A resolver that has not been asked yet. -/
def fresh (path : Text) (statements : List Node) : Resolver := ⟨path, statements, []⟩

/-- What a resolver is asked: the import that binds a name, or the module that it comes from. -/
inductive Query where
  | binding (name : Text)
  | module (name : Text)
deriving DecidableEq, Repr

def Query.localName : Query → Text
  | binding name => name
  | module name => name

inductive Answer where
  | binding (found : Except Failure (Option ImportedName))
  | module (found : Except Failure (Option Text))

def Answer.failure? : Answer → Option Failure
  | binding found => Failure.of? found
  | module found => Failure.of? found

def ask (resolver : Resolver) : Query → Answer × Resolver
  | .binding name =>
    let (found, resolver) := resolver.find name
    (.binding found, resolver)
  | .module name =>
    let (found, resolver) := resolver.moduleOf name
    (.module found, resolver)

/-- The answers to questions that are asked one after the other. -/
def answers : Resolver → List Query → List Answer
  | _, [] => []
  | resolver, query :: rest =>
    let (answer, resolver) := resolver.ask query
    answer :: answers resolver rest

/-- The answer that follows from what the imports say about the name asked for. -/
def Query.answer (query : Query) (found : Except Failure (Option ImportedName)) : Answer :=
  match query with
  | binding _ => .binding found
  | module _ => .module (found.map fun binding => binding.map (·.specifier))

theorem Query.failure?_answer (query : Query) (found : Except Failure (Option ImportedName)) :
    (query.answer found).failure? = Failure.of? found := by
  cases query with
  | binding name => rfl
  | module name => cases found <;> rfl

theorem isFaithful_fresh (path : Text) (statements : List Node) :
    (fresh path statements).IsFaithful := fun _ _ found => nomatch found

/-! ## Answers -/

variable {resolver : Resolver}

theorem snd_ask (resolver : Resolver) (query : Query) :
    (resolver.ask query).2 = (resolver.find query.localName).2 := by
  cases query <;> rfl

theorem IsFaithful.ask_eq (faithful : resolver.IsFaithful) (query : Query) :
    (resolver.ask query).1 =
      query.answer (Imports.find resolver.path query.localName resolver.statements) := by
  have found := faithful.answer_eq query.localName
  unfold Resolver.answer at found
  rw [← found]
  cases query <;> rfl

/-- Each answer of a faithful resolver is the one that its imports give. -/
theorem IsFaithful.answers_eq (faithful : resolver.IsFaithful) (queries : List Query) :
    resolver.answers queries = queries.map fun query =>
      query.answer (Imports.find resolver.path query.localName resolver.statements) := by
  induction queries generalizing resolver with
  | nil => rfl
  | cons query rest ih =>
      have next : (resolver.ask query).2.IsFaithful := by
        rw [snd_ask]
        exact faithful.find query.localName
      have path : (resolver.ask query).2.path = resolver.path := by
        rw [snd_ask, path_find]
      have statements : (resolver.ask query).2.statements = resolver.statements := by
        rw [snd_ask, statements_find]
      have others := ih next
      rw [path, statements] at others
      rw [answers, List.map_cons, ← faithful.ask_eq query, ← others]

theorem ask_fresh (path : Text) (statements : List Node) (query : Query) :
    ((fresh path statements).ask query).1 =
      query.answer (Imports.find path query.localName statements) :=
  (isFaithful_fresh path statements).ask_eq query

theorem failure?_ask_fresh (path : Text) (statements : List Node) (query : Query) :
    ((fresh path statements).ask query).1.failure? =
      Failure.of? (Imports.find path query.localName statements) := by
  rw [ask_fresh, Query.failure?_answer]

/-- A statement without a usable source fails the questions about the names that it settles. -/
theorem failure?_of_holdsFirst {before : List Node} {statement : Node} {query : Query}
    (first : HoldsFirst query.localName before statement) {path : Text} {failure : Failure}
    (malformed : IsMalformed path statement failure) (after : List Node) :
    ((fresh path (before ++ statement :: after)).ask query).1.failure? = some failure := by
  obtain ⟨imported, decides⟩ := first.find_eq path after
  rw [failure?_ask_fresh, decides, moduleSpecifier_eq_error_iff.mpr malformed]
  rfl

theorem failure?_of_hasUsableSource {before : List Node} {statement : Node} {query : Query}
    (first : HoldsFirst query.localName before statement) (usable : HasUsableSource statement)
    (path : Text) (after : List Node) :
    ((fresh path (before ++ statement :: after)).ask query).1.failure? = none := by
  obtain ⟨imported, decides⟩ := first.find_eq path after
  obtain ⟨specifier, names⟩ := usable
  rw [failure?_ask_fresh, decides, moduleSpecifier_eq_ok_iff.mpr names]
  rfl

/-- Questions asked in any order are answered as if each were the only one, by what the first
specifier with the name and the source of its statement tell. A source that cannot be used matters
to the questions that its statement settles, which fail for it, and to no others: they are answered
as with any usable source in its place. -/
theorem answers_independent (path : Text) (statements : List Node) (queries : List Query) :
    (fresh path statements).answers queries =
        queries.map (fun query => ((fresh path statements).ask query).1) ∧
    (∀ query : Query, ∃ found,
      (∀ other, Tells path query.localName statements other ↔ other = found) ∧
        ((fresh path statements).ask query).1 = query.answer found) ∧
    ∀ before statement after, statements = before ++ statement :: after →
      ¬ HasUsableSource statement → ∀ query : Query,
        (HoldsFirst query.localName before statement →
          ∃ failure, IsMalformed path statement failure ∧
            ((fresh path statements).ask query).1.failure? = some failure) ∧
        ∀ mended, HasUsableSource mended → specifiers mended = specifiers statement →
          (((fresh path statements).ask query).1 ≠
              ((fresh path (before ++ mended :: after)).ask query).1 ↔
            HoldsFirst query.localName before statement) := by
  refine ⟨?_, ?_, ?_⟩
  · rw [(isFaithful_fresh path statements).answers_eq]
    exact List.map_congr_left fun query _ => (ask_fresh path statements query).symm
  · intro query
    refine ⟨Imports.find path query.localName statements, fun other => ?_,
      ask_fresh path statements query⟩
    rw [← find_eq_iff_tells]
    exact eq_comm
  · intro before statement after shape unusable query
    subst shape
    obtain ⟨failure, malformed⟩ := exists_isMalformed path unusable
    constructor
    · intro first
      exact ⟨failure, malformed, failure?_of_holdsFirst first malformed after⟩
    · intro mended usable same
      constructor
      · intro different
        by_contra notFirst
        apply different
        rw [ask_fresh, ask_fresh, find_of_not_holdsFirst path notFirst same]
      · intro first equal
        have fails := failure?_of_holdsFirst first malformed after
        have succeeds := failure?_of_hasUsableSource (first.of_specifiers_eq same) usable path after
        rw [equal, succeeds] at fails
        cases fails

/-- An import statement with named imports and a source. -/
def importOf (names : List Text) (source : Text) : Node where
  kind := .importStatement
  children := [
    { kind := .importClause
      children := [{
        kind := .namedImports
        children := names.map fun name =>
          { kind := .importSpecifier
            children := [{ kind := .identifier, field := some .name, text := name }] } }] },
    { kind := .string, field := some .source, text := source }]

/-- The empty source of the first import fails the questions about `A`, also when they are repeated,
and not those about `B`. -/
theorem answers_independent_emptySource :
    let statements := [importOf ["A"] "''", importOf ["A", "B"] "'./b'"]
    (fresh "a.ts" statements).answers [.module "B", .binding "A", .module "A", .module "B"] =
        [.module (.ok (some "./b")),
          .binding (.error (.inconsistent (.malformedImportSource "''" "a.ts" 1))),
          .module (.error (.inconsistent (.malformedImportSource "''" "a.ts" 1))),
          .module (.ok (some "./b"))] ∧
      HoldsFirst "A" [] (importOf ["A"] "''") ∧ ¬ HasUsableSource (importOf ["A"] "''") ∧
      ((fresh "a.ts" statements).ask (.binding "B")).1 =
        ((fresh "a.ts" [importOf ["A"] "'./a'", importOf ["A", "B"] "'./b'"]).ask
          (.binding "B")).1 := by
  intro statements
  obtain ⟨alone, -, sources⟩ := answers_independent "a.ts" statements
    [.module "B", .binding "A", .module "A", .module "B"]
  have holds : HoldsFirst "A" [] (importOf ["A"] "''") := by
    refine ⟨List.forall_mem_nil _, ?_⟩
    exact ⟨_, List.mem_singleton_self _, "A", rfl⟩
  have unusable : ¬ HasUsableSource (importOf ["A"] "''") := by
    have malformed : IsMalformed "a.ts" (importOf ["A"] "''")
        (.inconsistent (.malformedImportSource "''" "a.ts" 1)) :=
      moduleSpecifier_eq_error_iff.mp rfl
    exact malformed.not_hasUsableSource
  have usable : HasUsableSource (importOf ["A"] "'./a'") := by
    have read : moduleSpecifier "a.ts" (importOf ["A"] "'./a'") = .ok "./a" := rfl
    exact ⟨"./a", moduleSpecifier_eq_ok_iff.mp read⟩
  obtain ⟨-, matters⟩ := sources [] _ _ rfl unusable (.binding "B")
  have other : ¬ HoldsFirst "B" [] (importOf ["A"] "''") := by
    intro first
    obtain ⟨-, specifier, member, imported, names⟩ := first
    obtain rfl := List.mem_singleton.mp member
    cases names
  refine ⟨alone.trans rfl, holds, unusable, ?_⟩
  by_contra different
  exact other ((matters _ usable rfl).mp different)

end Resolver

end Companion.Imports
