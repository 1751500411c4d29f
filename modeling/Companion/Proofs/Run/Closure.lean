import Companion.Proofs.Generator.Expression
import Companion.Proofs.Imports.Statements
import Companion.Proofs.Run.Writing
import Companion.Proofs.TypeExpr.Elaboration

/-!
# Names in generated files

Which of the companions that a generated file calls are bound in it. The import statements of its
module alone decide whether a reference comes with an import, the requests decide what is declared in
a file, and nothing compares the two.
-/

set_option autoImplicit false

namespace Companion

/-- The names that the imports of a library bind. -/
def Library.importedNames : Library → List Text
  | zod => ["z"]
  | fastCheck => ["fc", "Arbitrary"]

namespace Pipeline

/-- Asking again for what a reference has been found to be gives the same answer. -/
theorem binding_context {source : Syntax.Module} {name : Text} {origin : Option ImportedName}
    (found : Imports.find source.path name source.imports = .ok origin) (pipeline : Pipeline)
    (plugin : Plugin) (target : Text) :
    (pipeline.context source plugin target).binding name origin = .ok origin := by
  cases origin with
  | none => exact found
  | some binding => rfl

/-- A reference that is looked up in its module comes without an import, or with that of the companion
of what its name is imported as. -/
theorem reference_cases {pipeline : Pipeline} {source : Syntax.Module} {plugin : Plugin}
    {target : Text}
    {reference : Text × Option ImportedName}
    (found : Imports.find source.path reference.1 source.imports = .ok reference.2) {part : Code}
    (refers : plugin.library.dialect.reference (pipeline.context source plugin target) reference.1
      reference.2 = .ok part) :
    (reference.2 = none ∧ part.imports = []) ∨
      ∃ binding specifier, reference.2 = some binding ∧
        plugin.companionSpecifier binding.specifier = .ok specifier ∧
        part.imports = [⟨plugin.library.dialect.companionName binding.imported,
          plugin.library.dialect.companionName reference.1, specifier⟩] := by
  have asked := binding_context found pipeline plugin target
  rcases Dialect.reference_eq_ok_iff.mp refers with ⟨unbound, rfl⟩ |
    ⟨binding, specifier, bound, mapped, rfl⟩
  · exact .inl ⟨Except.ok.inj (asked.symm.trans unbound), rfl⟩
  · have origin : reference.2 = some binding := Except.ok.inj (asked.symm.trans bound)
    rw [Imports.localName_of_find_eq_ok (origin ▸ found)]
    exact .inr ⟨binding, specifier, origin, mapped, rfl⟩

theorem declared_of_mem_statementRequests {source : Syntax.Module} {statement : MarkedStatement}
    {asked : ModuleRequest} (member : asked ∈ statementRequests source statement) :
    asked.source = source ∧ declared source statement = .ok asked.request.declaration := by
  unfold statementRequests at member
  split at member
  · next declaration declares =>
    obtain ⟨request, isRequest, rfl⟩ := List.mem_map.mp member
    obtain ⟨directive, _, inDirective⟩ := List.mem_flatMap.mp isRequest
    obtain ⟨name, _, rfl⟩ := List.mem_map.mp inDirective
    exact ⟨rfl, declares⟩
  · cases member

variable {σ : Type} [FileStore σ]

theorem exists_declared_of_mem_requests {pipeline : Pipeline} {store : σ} {asked : ModuleRequest}
    (member : asked ∈ pipeline.requests store) :
    ∃ statement, declared asked.source statement = .ok asked.request.declaration := by
  obtain ⟨path, _, atPath⟩ := List.mem_flatMap.mp member
  unfold requestsAt at atPath
  split at atPath
  · obtain ⟨statement, _, inStatement⟩ := List.mem_flatMap.mp atPath
    obtain ⟨source, declares⟩ := declared_of_mem_statementRequests inStatement
    exact ⟨statement, source ▸ declares⟩
  · cases atPath

end Pipeline

namespace Fulfilment

variable {pipeline : Pipeline}

/-- The name that a companion of the same library has. -/
def companionName (met : Fulfilment pipeline) (name : Text) : Text :=
  met.plugin.library.dialect.companionName name

def find (met : Fulfilment pipeline) (name : Text) : Except Failure (Option ImportedName) :=
  Imports.find met.source.path name met.source.imports

/-- The names that a companion has in its file whatever its type: the type, the companion, the type
as it is imported, and what its library needs. -/
def ownNames (met : Fulfilment pipeline) : List Text :=
  let name := met.request.declaration.name
  [name, met.companionName name, '$' :: name] ++ met.plugin.library.importedNames

/-- All names that the statements of a companion declare and its imports bind. -/
def names (met : Fulfilment pipeline) : List Text :=
  met.ownNames ++ met.expression.imports.map (·.localName)

/-- The names that are declared or bound in the file at a path. -/
def namesAt (path : Text) (fulfilled : List (Fulfilment pipeline)) : List Text :=
  (fulfilled.filter (·.target = path)).flatMap (·.names)

/-- The references of a companion carry what their names are found to be in its module. -/
def IsResolved (met : Fulfilment pipeline) : Prop :=
  ∀ reference ∈ met.type.references, met.find reference.1 = .ok reference.2

theorem isResolved_of_mem_requests {σ : Type} [FileStore σ] {store : σ}
    {met : Fulfilment pipeline} (asked : met.toModuleRequest ∈ pipeline.requests store) :
    met.IsResolved := by
  obtain ⟨statement, declares⟩ := Pipeline.exists_declared_of_mem_requests asked
  exact TypeExpr.isResolved_of_ofStatement_eq_ok declares met.typed

variable {met : Fulfilment pipeline}

theorem IsResolved.reference_cases (resolved : met.IsResolved)
    {reference : Text × Option ImportedName} (member : reference ∈ met.type.references) {part : Code}
    (refers : met.plugin.library.dialect.reference
      (pipeline.context met.source met.plugin met.target) reference.1 reference.2 = .ok part) :
    (reference.2 = none ∧ part.imports = []) ∨
      ∃ binding specifier, reference.2 = some binding ∧
        met.plugin.companionSpecifier binding.specifier = .ok specifier ∧
        part.imports = [⟨met.companionName binding.imported, met.companionName reference.1,
          specifier⟩] :=
  Pipeline.reference_cases (resolved reference member) refers

/-- The names that the references of a companion bring into its file are those of the companions of
imported types. -/
theorem IsResolved.mem_map_localName_iff (resolved : met.IsResolved) {identifier : Text} :
    identifier ∈ met.expression.imports.map (·.localName) ↔
      ∃ reference ∈ met.type.references, reference.2 ≠ none ∧
        met.companionName reference.1 = identifier := by
  have brings := (Dialect.expresses_of_express_eq_ok met.expressed).imports
  constructor
  · intro bound
    obtain ⟨line, isLine, rfl⟩ := List.mem_map.mp bound
    obtain ⟨reference, member, part, refers, inside⟩ := brings.exists_reference isLine
    rcases resolved.reference_cases member refers with ⟨_, imports⟩ |
      ⟨binding, specifier, origin, _, imports⟩
    · rw [imports] at inside
      cases inside
    · rw [imports] at inside
      obtain rfl := List.mem_singleton.mp inside
      exact ⟨reference, member, by simp [origin], rfl⟩
  · rintro ⟨reference, member, imported, rfl⟩
    obtain ⟨part, refers, inside⟩ := brings.exists_part member
    rcases resolved.reference_cases member refers with ⟨plain, _⟩ |
      ⟨binding, specifier, _, _, imports⟩
    · exact absurd plain imported
    · have isLine := imports ▸ List.mem_singleton_self _
      exact List.mem_map.mpr ⟨_, inside _ isLine, rfl⟩

theorem plugin_eq_of_generator_eq {other : Fulfilment pipeline}
    (generator : other.request.generator = met.request.generator) : other.plugin = met.plugin := by
  have registered := other.registered
  rw [generator, met.registered] at registered
  exact (Option.some.inj registered).symm

theorem target_eq_of_source_eq {other : Fulfilment pipeline} (source : other.source = met.source)
    (generator : other.request.generator = met.request.generator) : other.target = met.target := by
  have placed := other.placed
  rw [plugin_eq_of_generator_eq generator, source, met.placed] at placed
  exact (Except.ok.inj placed).symm

end Fulfilment

theorem FileSet.Collects.exists_file {pipeline : Pipeline} {files : FileSet}
    {fulfilled : List (Fulfilment pipeline)} (collects : files.Collects fulfilled)
    {met : Fulfilment pipeline} (member : met ∈ fulfilled) :
    ∃ file, (met.target, file) ∈ files.entries ∧
      ∀ other ∈ fulfilled, other.target = met.target →
        (∀ statement ∈ other.statements, statement ∈ file.statements) ∧
        ∀ line ∈ other.imports, line ∈ file.imports := by
  have listed : met.target ∈ files.paths := by
    rw [collects.paths, Text.mem_distinct]
    exact List.mem_map_of_mem member
  obtain ⟨⟨path, file⟩, isEntry, rfl : path = met.target⟩ := List.mem_map.mp listed
  refine ⟨file, isEntry, fun other isOther here => ?_⟩
  have isThere : other ∈ fulfilled.filter (·.target = met.target) :=
    List.mem_filter.mpr ⟨isOther, decide_eq_true here⟩
  constructor
  · intro statement inside
    rw [collects.statements _ isEntry]
    exact List.mem_flatMap.mpr ⟨other, isThere, inside⟩
  · intro line inside
    rw [collects.imports _ isEntry, Text.mem_distinct]
    exact List.mem_flatMap.mpr ⟨other, isThere, inside⟩

namespace Fulfilment

variable {pipeline : Pipeline}

/-- What becomes of a name that a companion refers to in the file of the companion. -/
structure Refers (met : Fulfilment pipeline) (fulfilled : List (Fulfilment pipeline))
    (file : Artifact) (name : Text) : Prop where
  /-- Where the module has an import for the name, the file has one for the companion. -/
  imported : ∀ binding, met.find name = .ok (some binding) →
    ∃ specifier, met.plugin.companionSpecifier binding.specifier = .ok specifier ∧
      NamedImport.render ⟨met.companionName binding.imported, met.companionName name, specifier⟩ ∈
        file.imports
  /-- Where the module asks the same generator for a type of this name, the file declares its
  companion. -/
  declared : ∀ other ∈ fulfilled, other.source = met.source →
    other.request.generator = met.request.generator → other.request.declaration.name = name →
    met.plugin.library.dialect.companionStatement name other.expression.code ∈ file.statements
  /-- Without an import the companion is called all the same. -/
  plain : met.find name = .ok none →
    met.plugin.library.dialect.reference (pipeline.context met.source met.plugin met.target) name
      none = .ok ⟨met.companionName name ++ met.plugin.library.dialect.call, []⟩
  /-- The name of the companion is bound in the file just if something in the file has this name or
  refers by it to an imported type. -/
  bound : met.companionName name ∈ namesAt met.target fulfilled ↔
    ∃ other ∈ fulfilled, other.target = met.target ∧
      (met.companionName name ∈ other.ownNames ∨
        ∃ reference ∈ other.type.references,
          (∃ binding, other.find reference.1 = .ok (some binding)) ∧
            other.companionName reference.1 = met.companionName name)

theorem mem_namesAt_iff {fulfilled : List (Fulfilment pipeline)}
    (resolved : ∀ met ∈ fulfilled, met.IsResolved) {path identifier : Text} :
    identifier ∈ namesAt path fulfilled ↔
      ∃ other ∈ fulfilled, other.target = path ∧
        (identifier ∈ other.ownNames ∨
          ∃ reference ∈ other.type.references,
            (∃ binding, other.find reference.1 = .ok (some binding)) ∧
              other.companionName reference.1 = identifier) := by
  have imported : ∀ other ∈ fulfilled, ∀ reference ∈ other.type.references,
      (∃ binding, other.find reference.1 = .ok (some binding)) ↔ reference.2 ≠ none := by
    intro other isOther reference member
    rw [resolved other isOther reference member]
    cases reference.2 <;> simp
  have split : ∀ other ∈ fulfilled, (identifier ∈ other.names ↔ identifier ∈ other.ownNames ∨
      ∃ reference ∈ other.type.references,
        (∃ binding, other.find reference.1 = .ok (some binding)) ∧
          other.companionName reference.1 = identifier) := by
    intro other isOther
    rw [names, List.mem_append, (resolved other isOther).mem_map_localName_iff]
    apply or_congr_right
    constructor
    · rintro ⟨reference, member, isImported, same⟩
      exact ⟨reference, member, (imported other isOther reference member).mpr isImported, same⟩
    · rintro ⟨reference, member, isImported, same⟩
      exact ⟨reference, member, (imported other isOther reference member).mp isImported, same⟩
  unfold namesAt
  simp only [List.mem_flatMap, List.mem_filter, decide_eq_true_eq]
  constructor
  · rintro ⟨other, ⟨isOther, here⟩, inside⟩
    exact ⟨other, isOther, here, (split other isOther).mp inside⟩
  · rintro ⟨other, isOther, here, reason⟩
    exact ⟨other, ⟨isOther, here⟩, (split other isOther).mpr reason⟩

/-- What becomes of each reference of a companion, given what its file holds. -/
theorem refers_of_mem_references {fulfilled : List (Fulfilment pipeline)}
    (resolved : ∀ met ∈ fulfilled, met.IsResolved) {met : Fulfilment pipeline}
    (member : met ∈ fulfilled) {file : Artifact}
    (inFile : ∀ other ∈ fulfilled, other.target = met.target →
      (∀ statement ∈ other.statements, statement ∈ file.statements) ∧
      ∀ line ∈ other.imports, line ∈ file.imports)
    {reference : Text × Option ImportedName} (isReference : reference ∈ met.type.references) :
    met.Refers fulfilled file reference.1 where
  imported := by
    intro binding isBinding
    have expresses := Dialect.expresses_of_express_eq_ok met.expressed
    obtain ⟨part, refers, inside⟩ := expresses.imports.exists_part isReference
    have found := resolved met member reference isReference
    have origin : reference.2 = some binding := Except.ok.inj (found.symm.trans isBinding)
    rcases (resolved met member).reference_cases isReference refers with ⟨plain, _⟩ |
      ⟨other, specifier, isOther, mapped, imports⟩
    · rw [origin] at plain
      cases plain
    · obtain rfl := Option.some.inj (origin.symm.trans isOther)
      refine ⟨specifier, mapped, (inFile met member rfl).2 _ ?_⟩
      have isLine := inside _ (imports ▸ List.mem_singleton_self _)
      exact List.mem_append_right _ (List.mem_map_of_mem isLine)
  declared := by
    intro other isOther source generator named
    have here := target_eq_of_source_eq source generator
    rw [← named, ← plugin_eq_of_generator_eq generator]
    exact (inFile other isOther here).1 _ (List.mem_cons_of_mem _ List.mem_cons_self)
  plain := fun unbound => Dialect.reference_eq_ok_iff.mpr
    (.inl ⟨Pipeline.binding_context unbound pipeline met.plugin met.target, rfl⟩)
  bound := mem_namesAt_iff resolved

end Fulfilment

namespace Pipeline

variable {pipeline : Pipeline} {respond : Responder} {store : MemoryFiles}

/-- A run that succeeds has called a companion for each reference, at any depth of any type. It has
an import in the file where the module has one for the type, a declaration where the module asks the
same generator for it, and is bound in no case but those of `Fulfilment.Refers.bound`. -/
theorem run_binds_companion_iff {written : List Text}
    (success : (pipeline.run respond store).result = .ok written) :
    ∃ (fulfilled : List (Fulfilment pipeline)) (files : FileSet),
      fulfilled.map (·.toModuleRequest) = pipeline.requests store ∧
      pipeline.generate store = .ok files ∧ files.paths = written ∧ files.Collects fulfilled ∧
      ∀ met ∈ fulfilled, ∃ file, (met.target, file) ∈ files.entries ∧
        met.plugin.library.dialect.companionStatement met.request.declaration.name
          (met.plugin.library.dialect.codeOf met.type) ∈ file.statements ∧
        ∀ reference ∈ met.type.references, met.find reference.1 = .ok reference.2 ∧
          met.Refers fulfilled file reference.1 := by
  obtain ⟨fulfilled, files, texts, requested, generated, rendered, paths, _, _⟩ := run_eq_ok success
  have collects : files.Collects fulfilled := by
    obtain ⟨-, others, sameRequests, collected⟩ :=
      ((generate_meets_requests pipeline store).1 files).mp generated
    rwa [Fulfilment.eq_of_map_toModuleRequest_eq (sameRequests.trans requested.symm)] at collected
  have resolved : ∀ met ∈ fulfilled, met.IsResolved := by
    intro met member
    have asked : met.toModuleRequest ∈ pipeline.requests store :=
      requested ▸ List.mem_map_of_mem member
    exact Fulfilment.isResolved_of_mem_requests asked
  refine ⟨fulfilled, files, requested, generated, ?_, collects, ?_⟩
  · rw [paths, render_paths rendered]
  intro met member
  obtain ⟨file, isEntry, inFile⟩ := collects.exists_file member
  refine ⟨file, isEntry, ?_, fun reference isReference => ⟨resolved met member reference isReference,
    Fulfilment.refers_of_mem_references resolved member inFile isReference⟩⟩
  rw [← (Dialect.expresses_of_express_eq_ok met.expressed).code]
  exact (inFile met member rfl).1 _ (List.mem_cons_of_mem _ List.mem_cons_self)

/-- Files with one module, whose types refer to each other and to an imported type. -/
def linkedModule : MemoryFiles :=
  .ofList [("src/a.ppx.ts", "import \x7b C \x7d from './c.ppx';\n\n/** @ts-ppx(zod) */\n" ++
    "export type A = B | C;\n\n/** @ts-ppx(zod) */\nexport type B = string;\n")]

/-- When each reference is to an imported type or to a type that the same generator is asked for,
everything that is called in a file is bound there. -/
theorem run_binds_linked_companions :
    ∃ settings pipeline,
      ({ sourceRoot := .string "src" } : Config).runSettings none = .ok settings ∧
      ofConfig settings = .ok pipeline ∧
      (pipeline.run (fun _ => .timedOut) linkedModule).result = .ok ["src/a.ts".toList] ∧
      ∃ (fulfilled : List (Fulfilment pipeline)) (files : FileSet),
        pipeline.generate linkedModule = .ok files ∧ files.Collects fulfilled ∧
        ∀ met ∈ fulfilled, ∀ reference ∈ met.type.references,
          met.companionName reference.1 ∈ Fulfilment.namesAt met.target fulfilled := by
  obtain ⟨settings, pipeline, configured, settled, success, linked⟩ : ∃ settings pipeline,
      ({ sourceRoot := .string "src" } : Config).runSettings none = .ok settings ∧
      ofConfig settings = .ok pipeline ∧
      (pipeline.run (fun _ => .timedOut) linkedModule).result = .ok ["src/a.ts".toList] ∧
      ∀ asked ∈ (pipeline.requests linkedModule).map (·.request),
        ∀ type ∈ asked.declaration.type.toList, ∀ reference ∈ type.references,
          reference.2.isSome ∨ ∃ other ∈ (pipeline.requests linkedModule).map (·.request),
            other.generator = asked.generator ∧ other.declaration.name = reference.1 :=
    ⟨_, _, rfl, rfl, by decide +kernel, by decide +kernel⟩
  refine ⟨settings, pipeline, configured, settled, success, ?_⟩
  obtain ⟨fulfilled, files, requested, generated, paths, collects, each⟩ :=
    run_binds_companion_iff success
  refine ⟨fulfilled, files, generated, collects, fun met member reference isReference => ?_⟩
  obtain ⟨file, -, -, served⟩ := each met member
  obtain ⟨found, refers⟩ := served reference isReference
  have sameTarget : ∀ other ∈ fulfilled, other.target = "src/a.ts".toList := by
    intro other isOther
    have listed : other.target ∈ files.paths := by
      rw [collects.paths, Text.mem_distinct]
      exact List.mem_map_of_mem isOther
    rw [paths] at listed
    exact List.mem_singleton.mp listed
  have asked : (pipeline.requests linkedModule).map (·.request) = fulfilled.map (·.request) := by
    rw [← requested, List.map_map]
    rfl
  rw [asked] at linked
  apply refers.bound.mpr
  rcases linked _ (List.mem_map_of_mem member) met.type (by simp [met.typed]) reference isReference
    with isImported | ⟨_, isAsked, generator, named⟩
  · obtain ⟨binding, origin⟩ := Option.isSome_iff_exists.mp isImported
    exact ⟨met, member, rfl, .inr ⟨reference, isReference, ⟨binding, origin ▸ found⟩, rfl⟩⟩
  · obtain ⟨other, isOther, rfl⟩ := List.mem_map.mp isAsked
    have plugin := Fulfilment.plugin_eq_of_generator_eq generator
    refine ⟨other, isOther, (sameTarget other isOther).trans (sameTarget met member).symm, .inl ?_⟩
    simp [Fulfilment.ownNames, Fulfilment.companionName, plugin, named]

/-- A reference to a type of the module that no generator is asked for ends up unbound: neither the
imports nor the statements of the file make the name known. -/
theorem run_calls_unbound_companion :
    ∃ settings pipeline,
      ({ sourceRoot := .string "src" } : Config).runSettings none = .ok settings ∧
      ofConfig settings = .ok pipeline ∧
      ∃ store : MemoryFiles,
        store = .ofList [("src/a.ppx.ts",
          "type B = string;\n/** @ts-ppx(zod) */\nexport type A = B;\n")] ∧
        (pipeline.run (fun _ => .timedOut) store).result = .ok ["src/a.ts".toList] ∧
        pipeline.generate store = .ok ⟨[("src/a.ts".toList, ⟨
          ["import \x7b z \x7d from 'zod';".toList,
            "import \x7b type A as $A \x7d from './a.ppx';".toList],
          ["export type A = $A;".toList,
            ("export const A = \x7b\n  schema: () => B.schema().transform((x): A => x),\n" ++
              "\x7d as const;").toList]⟩)]⟩ :=
  ⟨_, _, rfl, rfl, _, rfl, by decide +kernel, by decide +kernel⟩

end Pipeline

end Companion
