import Companion.Proofs.Generator.Binding
import Companion.Proofs.Generator.Strings
import Companion.Proofs.Imports.Statements
import Mathlib.Data.List.ReduceOption

/-!
# Imports of companions

Whichever dialect a type is written in, the references that are bound are the same, and they are bound
to the same imports. Each of them brings one import under the name that its code calls, and nothing
else is imported with an expression.
-/

set_option autoImplicit false

namespace Companion

namespace TypeExpr

/-- The origins of references are imports under the name that is referred to. -/
def NamesOrigins (type : TypeExpr) : Prop :=
  ∀ reference ∈ type.references, ∀ binding, reference.2 = some binding →
    binding.localName = reference.1

theorem map_collect {α β : Type} {atKey : Property TypeExpr → List α} {atLeaf : TypeExpr → List α}
    (write : α → β) (type : TypeExpr) : (type.collect atKey atLeaf).map write =
      type.collect (fun property => (atKey property).map write) fun leaf =>
        (atLeaf leaf).map write := by
  induction type with
  | primitive kind line => rfl
  | literal kind raw line => rfl
  | object properties line ih =>
      rw [collect_object, collect_object, List.map_flatMap, List.flatMap_def, List.flatMap_def]
      congr 1
      refine List.map_congr_left fun property member => ?_
      rw [List.map_append, ih property member]
  | union members line ih =>
      rw [collect_union, collect_union, List.map_flatMap, List.flatMap_def, List.flatMap_def,
        List.map_congr_left ih]
  | reference name origin line => rfl
  | unclassified line => rfl

end TypeExpr

namespace CompanionContext

/-- The context as it is for a generator that maps the specifiers of modules in a given way. -/
def mapping (context : CompanionContext) (module : Text → Text) : CompanionContext :=
  { context with companionSpecifier := fun specifier => .ok (module specifier) }

/-- If names are looked up, it is in the imports of a module, all of which have usable sources. What
was looked up before does not matter. -/
def LooksUpUsableImports (context : CompanionContext) : Prop :=
  ∀ find, context.find = some find → ∃ source asked,
    find = ((Imports.Resolver.ofModule source).after asked).answer ∧
      ∀ statement ∈ source.imports, Imports.HasUsableSource statement

variable {context : CompanionContext} {name : Text} {origin : Option ImportedName}

theorem LooksUpUsableImports.exists_binding_eq_ok (looksUp : context.LooksUpUsableImports)
    (name : Text) (origin : Option ImportedName) :
    ∃ found, context.binding name origin = .ok found := by
  unfold binding
  cases origin with
  | some binding => exact ⟨some binding, rfl⟩
  | none =>
      cases asks : context.find with
      | none => exact ⟨none, rfl⟩
      | some find =>
          obtain ⟨source, asked, rfl, usable⟩ := looksUp find asks
          rw [Imports.Resolver.answer_after_ofModule]
          exact Imports.exists_find_eq_ok source.path name usable

theorem LooksUpUsableImports.localName_eq (looksUp : context.LooksUpUsableImports)
    (named : ∀ binding, origin = some binding → binding.localName = name) {binding : ImportedName}
    (bound : context.binding name origin = .ok (some binding)) : binding.localName = name := by
  unfold CompanionContext.binding at bound
  cases origin with
  | some other =>
      obtain rfl := Option.some.inj (Except.ok.inj bound)
      exact named other rfl
  | none =>
      cases asks : context.find with
      | none =>
          rw [asks] at bound
          cases bound
      | some find =>
          obtain ⟨source, asked, rfl, usable⟩ := looksUp find asks
          rw [asks, Imports.Resolver.answer_after_ofModule] at bound
          exact Imports.localName_of_find_eq_ok bound

end CompanionContext

namespace Dialect

variable {dialect : Dialect} {context : CompanionContext} {type : TypeExpr}

/-! ## Failures -/

/-- What becomes of a leaf that no dialect can express. -/
def leafFailure (sourceFile : Text) : TypeExpr → Option Failure
  | .unclassified line => some (.unsupportedType "TypeExpression" ⟨sourceFile, line⟩)
  | _ => none

/-- Where all references can be written, the first leaf that cannot decides, in every dialect. -/
theorem of?_express (bound : ∀ reference ∈ type.references,
      ∃ part, dialect.reference context reference.1 reference.2 = .ok part) :
    Failure.of? (dialect.express context type) =
      type.leaves.findSome? (leafFailure context.sourceFile) := by
  unfold TypeExpr.leaves
  induction type with
  | primitive kind line => rfl
  | literal kind raw line => rfl
  | object properties line ih =>
      have each : ∀ property ∈ properties,
          Failure.of? (dialect.expressProperty context property) =
            (property.type.collect (fun _ => []) fun leaf => [leaf]).findSome?
              (leafFailure context.sourceFile) := by
        intro property member
        obtain ⟨name, type, optional, quoted⟩ := property
        have inside := ih _ member fun reference isReference =>
          bound reference (TypeExpr.mem_references_object.mpr ⟨_, member, isReference⟩)
        rw [expressProperty, ← inside]
        exact Failure.of?_bind_ok _ _
      rw [express, expressProperties_eq, TypeExpr.collect_object, Failure.findSome?_flatMap]
      refine (Failure.of?_bind_ok _ _).trans ?_
      rw [Failure.of?_mapM, Failure.findSome?_congr each]
      simp only [List.nil_append]
  | union members line ih =>
      have each : ∀ member ∈ members, Failure.of? (dialect.express context member) =
          (member.collect (fun _ => []) fun leaf => [leaf]).findSome?
            (leafFailure context.sourceFile) := fun member isMember =>
        ih member isMember fun reference isReference =>
          bound reference (TypeExpr.mem_references_union.mpr ⟨member, isMember, isReference⟩)
      rw [express, expressMembers_eq, TypeExpr.collect_union, Failure.findSome?_flatMap]
      refine (Failure.of?_bind_ok _ _).trans ?_
      rw [Failure.of?_mapM, Failure.findSome?_congr each]
  | reference name origin line =>
      obtain ⟨part, refers⟩ := bound (name, origin) List.mem_cons_self
      rw [express, refers]
      rfl
  | unclassified line => rfl

theorem findSome?_leafFailure_eq_none_iff {sourceFile : Text} :
    type.leaves.findSome? (leafFailure sourceFile) = none ↔ type.IsClassified := by
  rw [List.findSome?_eq_none_iff]
  constructor
  · intro none line member
    cases none _ member
  · intro classified leaf member
    cases leaf with
    | unclassified line => exact absurd member (classified line)
    | _ => rfl

/-! ## Bindings -/

def companionImport (dialect : Dialect) (module : Text → Text) (binding : ImportedName) :
    NamedImport :=
  ⟨dialect.companionName binding.imported, dialect.companionName binding.localName,
    module binding.specifier⟩

def callOf (dialect : Dialect) (name : Text) : Text := dialect.companionName name ++ dialect.call

variable {module : Text → Text}

@[simp] theorem binding_mapping (name : Text) (origin : Option ImportedName) :
    (context.mapping module).binding name origin = context.binding name origin := by
  cases origin <;> rfl

theorem exists_reference_mapping_eq_ok {name : Text} {origin found : Option ImportedName}
    (bound : context.binding name origin = .ok found) :
    ∃ part, dialect.reference (context.mapping module) name origin = .ok part :=
  exists_reference_eq_ok ((binding_mapping name origin).trans bound) fun _ => ⟨_, rfl⟩

theorem Brings.eq_map {references : List (Text × Option ImportedName)}
    {found : List (Option ImportedName)} {imports : List NamedImport}
    (bound : references.mapM (fun reference => context.binding reference.1 reference.2) = .ok found)
    (brings : dialect.Brings (context.mapping module) references imports) :
    imports = found.reduceOption.map (dialect.companionImport module) := by
  induction references generalizing found imports with
  | nil =>
      obtain ⟨parts, made, rfl⟩ := brings
      obtain rfl := Except.ok.inj made
      obtain rfl := Except.ok.inj bound
      rfl
  | cons reference rest ih =>
      obtain ⟨parts, made, rfl⟩ := brings
      rw [List.mapM_cons, Failure.bind_eq_ok_iff] at made bound
      obtain ⟨part, refers, made⟩ := made
      rw [Failure.bind_eq_ok_iff] at made
      obtain ⟨others, madeOthers, success⟩ := made
      obtain rfl := Except.ok.inj success
      obtain ⟨binding, isBound, bound⟩ := bound
      rw [Failure.bind_eq_ok_iff] at bound
      obtain ⟨foundOthers, boundOthers, success⟩ := bound
      obtain rfl := Except.ok.inj success
      rw [List.flatMap_cons, ih boundOthers ⟨others, madeOthers, rfl⟩]
      cases reference_eq_ok_iff.mp refers with
      | inl unbound =>
          obtain ⟨isNone, rfl⟩ := unbound
          rw [binding_mapping, isBound] at isNone
          obtain rfl := Except.ok.inj isNone
          rfl
      | inr bound =>
          obtain ⟨other, specifier, isSome, mapped, rfl⟩ := bound
          rw [binding_mapping, isBound] at isSome
          obtain rfl := Except.ok.inj isSome
          obtain rfl := Except.ok.inj mapped
          rw [List.reduceOption_cons_of_some]
          rfl

theorem holdsInOrder_calls (breaksNoLine : dialect.BreaksNoLine)
    (names : ∀ reference ∈ type.references, '\n' ∉ reference.1) :
    Text.HoldsInOrder (type.references.map fun reference => dialect.callOf reference.1)
      (dialect.codeOf type) := by
  obtain ⟨first, inLine, around⟩ := breaksNoLine.companionName
  have kept : ∀ text ∈ type.references.map fun reference => dialect.callOf reference.1,
      '\n' ∉ text := by
    intro text member
    obtain ⟨reference, isReference, rfl⟩ := List.mem_map.mp member
    simp [callOf, around, inLine.not_mem, names reference isReference, breaksNoLine.call.not_mem]
  unfold TypeExpr.references at kept ⊢
  rw [TypeExpr.map_collect] at kept ⊢
  rw [codeOf_eq_layoutWith breaksNoLine]
  refine holdsInOrder_collect ?_ ?_ kept 0
  · exact fun property _ width => True.intro
  intro leaf kept width
  cases leaf with
  | reference name origin line =>
      have clean := kept _ List.mem_cons_self
      have inName : '\n' ∉ name := by
        intro member
        simp [callOf, around, member] at clean
      rw [layoutWith, indented, Text.indentThrough_eq_self inName]
      exact ⟨[], [], (List.append_nil _).symm, trivial⟩
  | _ => trivial

/-- What comes of a type in one dialect when all imports can be used. -/
theorem express_mapping (breaksNoLine : dialect.BreaksNoLine) (module : Text → Text)
    {found : List (Option ImportedName)}
    (bound : type.references.mapM (fun reference => context.binding reference.1 reference.2) =
      .ok found) :
    Failure.of? (dialect.express (context.mapping module) type) =
        type.leaves.findSome? (leafFailure context.sourceFile) ∧
      ∀ expression, dialect.express (context.mapping module) type = .ok expression →
        expression.imports = found.reduceOption.map (dialect.companionImport module) ∧
          expression.code = dialect.layoutWith indented 0 type ∧
          ((∀ reference ∈ type.references, '\n' ∉ reference.1) →
            Text.HoldsInOrder (type.references.map fun reference => dialect.callOf reference.1)
              expression.code) := by
  constructor
  · refine of?_express fun reference isReference => ?_
    obtain ⟨found, -, isBound⟩ := Failure.exists_of_mapM_eq_ok bound isReference
    exact exists_reference_mapping_eq_ok isBound
  · intro expression expressed
    obtain ⟨code, imports⟩ := expresses_of_express_eq_ok expressed
    exact ⟨imports.eq_map bound, code.trans (codeOf_eq_layoutWith breaksNoLine type),
      fun names => code ▸ holdsInOrder_calls breaksNoLine names⟩

/-- A type can be written in both dialects or, for the same reason, in neither. In both of them its
imports are those of the references that are bound, in the order of the references, and each import is
under the name that the code calls for its reference: the code is the layout, in which the call stands
where the type has the reference. -/
theorem express_imports_bindings {context : CompanionContext} {type : TypeExpr}
    (named : type.NamesOrigins) (looksUp : context.LooksUpUsableImports)
    (zodModule fastCheckModule : Text → Text) :
    let inZod := Dialect.zod.express (context.mapping zodModule) type
    let inFastCheck := Dialect.fastCheck.express (context.mapping fastCheckModule) type
    ((∃ expression, inZod = .ok expression) ↔ type.IsClassified) ∧
    ((∃ expression, inFastCheck = .ok expression) ↔ type.IsClassified) ∧
    (¬ type.IsClassified → ∃ line, .unclassified line ∈ type.leaves ∧
      inZod = .error (.unsupportedType "TypeExpression" ⟨context.sourceFile, line⟩) ∧
      inFastCheck = .error (.unsupportedType "TypeExpression" ⟨context.sourceFile, line⟩)) ∧
    ∃ found, type.references.mapM (fun reference => context.binding reference.1 reference.2) =
        .ok found ∧
      List.Forall₂ (fun reference bound => ∀ binding, bound = some binding →
        binding.localName = reference.1) type.references found ∧
      (∀ expression, inZod = .ok expression →
        expression.imports = found.reduceOption.map (fun binding =>
          ⟨binding.imported, binding.localName, zodModule binding.specifier⟩) ∧
        expression.code = Dialect.zod.layoutWith indented 0 type ∧
        ((∀ reference ∈ type.references, '\n' ∉ reference.1) →
          Text.HoldsInOrder
            (type.references.map fun reference => reference.1 ++ ".schema()".toList)
            expression.code)) ∧
      ∀ expression, inFastCheck = .ok expression →
        expression.imports = found.reduceOption.map (fun binding =>
          ⟨"arbitrary".toList ++ binding.imported, "arbitrary".toList ++ binding.localName,
            fastCheckModule binding.specifier⟩) ∧
        expression.code = Dialect.fastCheck.layoutWith indented 0 type ∧
        ((∀ reference ∈ type.references, '\n' ∉ reference.1) →
          Text.HoldsInOrder
            (type.references.map fun reference =>
              "arbitrary".toList ++ reference.1 ++ "()".toList)
            expression.code) := by
  intro inZod inFastCheck
  obtain ⟨found, bound⟩ : ∃ found, type.references.mapM
      (fun reference => context.binding reference.1 reference.2) = .ok found :=
    Failure.exists_mapM_eq_ok fun reference _ =>
      looksUp.exists_binding_eq_ok reference.1 reference.2
  obtain ⟨zodFails, zodExpresses⟩ := express_mapping Library.zod.breaksNoLine zodModule bound
  obtain ⟨fastCheckFails, fastCheckExpresses⟩ :=
    express_mapping Library.fastCheck.breaksNoLine fastCheckModule bound
  have succeeds : ∀ outcome : Except Failure Code, Failure.of? outcome =
      type.leaves.findSome? (leafFailure context.sourceFile) →
      ((∃ expression, outcome = .ok expression) ↔ type.IsClassified) := by
    intro outcome fails
    rw [← findSome?_leafFailure_eq_none_iff, ← fails]
    cases outcome <;> simp
  have localNames : List.Forall₂ (fun reference bound => ∀ binding, bound = some binding →
      binding.localName = reference.1) type.references found := by
    refine ((List.forall₂_and_left _ _).mpr
      ⟨fun _ member => member, Failure.forall₂_of_mapM_eq_ok bound⟩).imp ?_
    intro reference bound both binding isSome
    exact looksUp.localName_eq (named reference both.1) (both.2.trans (congrArg _ isSome))
  refine ⟨succeeds _ zodFails, succeeds _ fastCheckFails, ?_, found, bound, localNames,
    zodExpresses, fastCheckExpresses⟩
  intro other
  cases fails : type.leaves.findSome? (leafFailure context.sourceFile) with
  | none => exact absurd (findSome?_leafFailure_eq_none_iff.mp fails) other
  | some failure =>
      obtain ⟨leaf, member, isFailure⟩ := List.exists_of_findSome?_eq_some fails
      cases leaf with
      | unclassified line =>
          obtain rfl := Option.some.inj isFailure
          exact ⟨line, member, Failure.of?_eq_some_iff.mp (zodFails.trans fails),
            Failure.of?_eq_some_iff.mp (fastCheckFails.trans fails)⟩
      | _ => cases isFailure

/-- A reference that is still to be looked up, twice, and one that carries its origin. -/
def importingUnion : TypeExpr :=
  .union [.reference "B" none none, .object [⟨"c", .reference "C" (some ⟨"C", "E", "./e.ppx"⟩) none,
    true, false⟩, ⟨"d", .reference "D" none none, false, false⟩] none, .reference "B" none none] none

def importingContext : CompanionContext :=
  Plugin.importingPipeline.context Plugin.importingModule ⟨"zod", .zod, .ok, .ok⟩ "src/a.ts"

theorem express_imports_bindings_importingUnion :
    ∃ expression, Dialect.fastCheck.express (importingContext.mapping id) importingUnion =
        .ok expression ∧
      expression.imports = [⟨"arbitraryB", "arbitraryB", "./b.ppx"⟩,
        ⟨"arbitraryE", "arbitraryC", "./e.ppx"⟩, ⟨"arbitraryB", "arbitraryB", "./b.ppx"⟩] ∧
      Text.HoldsInOrder ["arbitraryB()".toList, "arbitraryC()".toList, "arbitraryD()".toList,
        "arbitraryB()".toList] expression.code := by
  have named : importingUnion.NamesOrigins := by
    intro reference member binding isSome
    have origins : ∀ reference ∈ importingUnion.references,
        reference.2 = none ∨ reference.2.map (·.localName) = some reference.1 := by decide
    simpa [isSome] using origins reference member
  have looksUp : importingContext.LooksUpUsableImports := by
    intro find asks
    have isAnswer := Imports.Resolver.answer_after_ofModule Plugin.importingModule []
    refine ⟨_, [], (Option.some.inj asks).symm.trans isAnswer.symm, fun statement member => ?_⟩
    have read : ∀ statement ∈ Plugin.importingModule.imports,
        (Imports.moduleSpecifier [] statement).toOption.isSome = true := by decide +kernel
    obtain ⟨specifier, isSpecifier⟩ := Option.isSome_iff_exists.mp (read statement member)
    exact ⟨specifier,
      Imports.moduleSpecifier_eq_ok_iff.mp (Failure.toOption_eq_some_iff.mp isSpecifier)⟩
  have noFailure : importingUnion.leaves.findSome? (leafFailure []) = none := rfl
  have classified := findSome?_leafFailure_eq_none_iff.mp noFailure
  obtain ⟨-, succeeds, -, found, bound, -, -, binds⟩ :=
    express_imports_bindings named looksUp id id
  obtain ⟨expression, expressed⟩ := succeeds.mpr classified
  obtain ⟨imports, -, calls⟩ := binds expression expressed
  have isFound : (importingUnion.references.mapM fun reference =>
      importingContext.binding reference.1 reference.2).toOption.map List.reduceOption =
        some [⟨"B", "B", "./b.ppx"⟩, ⟨"C", "E", "./e.ppx"⟩, ⟨"B", "B", "./b.ppx"⟩] := by
    decide +kernel
  rw [bound] at isFound
  refine ⟨expression, expressed, ?_, calls (by decide)⟩
  rw [imports, Option.some.inj isFound]
  rfl

end Dialect

end Companion
