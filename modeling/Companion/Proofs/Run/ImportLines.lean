import Companion.Proofs.Generator.Plugin
import Companion.Proofs.Run.Closure
import Companion.Proofs.TypeExpr.StringValue

/-!
# Import lines

The import lines of a companion name modules by string literals between single quotes. The bodies of
these literals are put there as they are: the path of the module, and the specifiers that its own imports
are mapped to, which the module may have between quotes of the other kind. So a body need not denote what
it stands for.
-/

set_option autoImplicit false

namespace Companion

open StringBody Syntax

/-! ## Lines -/

/-- The statement that imports something from the module named by the literal with a body. -/
def importLine (clause body : Text) : Text := "import " ++ clause ++ " from '" ++ body ++ "';"

def braced (binding : Text) : Text := "\x7b " ++ binding ++ " \x7d"

theorem importLine_braced (binding body : Text) : importLine (braced binding) body =
    "import \x7b ".toList ++ binding ++ " \x7d from '".toList ++ body ++ "';".toList := by
  have opening : "import \x7b ".toList = "import ".toList ++ "\x7b ".toList := by decide
  have closing : " \x7d from '".toList = " \x7d".toList ++ " from '".toList := by decide
  unfold importLine braced
  rw [opening, closing]
  simp only [List.append_assoc]

def NamedImport.clause (line : NamedImport) : Text :=
  braced (if line.exported = line.localName then line.exported
    else line.exported ++ " as " ++ line.localName)

theorem NamedImport.render_eq (line : NamedImport) :
    line.render = importLine line.clause line.specifier :=
  (importLine_braced _ line.specifier).symm

namespace Plugin

def typeClause (name : Text) : Text := braced ("type " ++ name ++ " as $" ++ name)

theorem typeImport_eq (name specifier : Text) :
    typeImport name specifier = importLine (typeClause name) specifier := by
  have opening : "import \x7b type ".toList = "import \x7b ".toList ++ "type ".toList := by decide
  unfold typeImport typeClause
  rw [importLine_braced, opening]
  simp only [List.append_assoc]

end Plugin

/-- What a library needs, and the modules that have it. -/
def Library.needs : Library → List (Text × Text)
  | zod => [("\x7b z \x7d", "zod")]
  | fastCheck => [("fc", "fast-check"), ("type \x7b Arbitrary \x7d", "fast-check")]

theorem Library.libraryImports_eq (library : Library) :
    library.dialect.libraryImports = library.needs.map fun need => importLine need.1 need.2 := by
  cases library <;> decide

/-! ## Bodies -/

/-- A text that needs no escape sequence between single quotes. -/
def IsVerbatim (body : Text) : Prop := ∀ c ∈ body, c ≠ '\\' ∧ c ≠ '\'' ∧ c ≠ '\n' ∧ c ≠ '\r'

instance (body : Text) : Decidable (IsVerbatim body) :=
  List.decidableBAll (fun c => c ≠ '\\' ∧ c ≠ '\'' ∧ c ≠ '\n' ∧ c ≠ '\r') body

theorem Library.isVerbatim_of_mem_needs (library : Library) :
    ∀ need ∈ library.needs, IsVerbatim need.2 := by
  cases library <;> decide

namespace Plugin

/-- The first statement of a module that binds a name has a specifier between two quotes, which is
mapped to the specifier of the companions. -/
def MapsImport (plugin : Plugin) (source : Syntax.Module) (name : Text) (quote : Char)
    (mapped : Text) : Prop :=
  ∃ statement literal specifier, Imports.IsFirstBinding name source.imports statement ∧
    statement.child? .source = some literal ∧ literal.kind = .string ∧
    literal.text = quote :: specifier ++ [quote] ∧ plugin.companionSpecifier specifier = .ok mapped

variable {pipeline : Pipeline} {plugin : Plugin} {source : Syntax.Module} {target : Text}
  {type : TypeExpr}

theorem mapsImport_of_find_eq_ok {name mapped : Text} {binding : ImportedName}
    (found : Imports.find source.path name source.imports = .ok (some binding))
    (maps : plugin.companionSpecifier binding.specifier = .ok mapped) :
    ∃ quote, plugin.MapsImport source name quote mapped := by
  obtain ⟨-, statement, first, literal, isSource, isString, -, quote, quoted⟩ :=
    Imports.isFirstBinding_of_find_eq_ok found
  exact ⟨quote, statement, literal, _, first, isSource, isString, quoted, maps⟩

theorem exists_mapsImport_of_mem_imports {expression : Code}
    (resolved : ∀ reference ∈ type.references,
      Imports.find source.path reference.1 source.imports = .ok reference.2)
    (expressed : plugin.library.dialect.express (pipeline.context source plugin target) type =
      .ok expression) {line : NamedImport} (isLine : line ∈ expression.imports) :
    ∃ reference ∈ type.references, ∃ quote,
      plugin.MapsImport source reference.1 quote line.specifier := by
  have brings := (Dialect.expresses_of_express_eq_ok expressed).imports
  obtain ⟨reference, member, part, refers, inside⟩ := brings.exists_reference isLine
  have found := resolved reference member
  cases Pipeline.reference_cases found refers with
  | inl unbound =>
      rw [unbound.2] at inside
      cases inside
  | inr bound =>
      obtain ⟨binding, mapped, origin, maps, imports⟩ := bound
      rw [imports] at inside
      obtain rfl := List.mem_singleton.mp inside
      exact ⟨reference, member, mapsImport_of_find_eq_ok (origin ▸ found) maps⟩

/-- What the import lines of a companion name between their single quotes: the modules of its library,
the path of its own module, which has to need no escape sequence to be what is named, and the specifiers
that the imports of the module are mapped to. These denote what they denote between the quotes of the
module just if all single quotes in them are escaped, and are what is named just if they need no escape
sequence. -/
theorem generate_importLines_denote_iff {statement : MarkedStatement} {declaration : Declaration}
    {artifact : Artifact}
    (declared : Declaration.ofStatement (.ofImports source.path source.imports) statement =
      .ok declaration)
    (typed : declaration.type = some type)
    (generated : plugin.generate (pipeline.context source plugin target) declaration =
      .ok artifact) :
    ∃ (relative : Text) (lines : List NamedImport),
      Specifier.relativeImport pipeline.working source.path target = .ok relative ∧
      artifact.imports = (plugin.library.needs.map fun need => importLine need.1 need.2) ++
        importLine (typeClause declaration.name) relative ::
          lines.map (fun line => importLine line.clause line.specifier) ∧
      (∀ need ∈ plugin.library.needs, value? '\'' need.2 = some (units need.2)) ∧
      (value? '\'' relative = some (units relative) ↔ IsVerbatim relative) ∧
      ∀ line ∈ lines, ∃ reference ∈ type.references, ∃ quote,
        plugin.MapsImport source reference.1 quote line.specifier ∧
        (∀ value, value? quote line.specifier = some value →
          (value? '\'' line.specifier = some value ↔
            isClosedFrom false line.specifier = true)) ∧
        (value? '\'' line.specifier = some (units line.specifier) ↔
          IsVerbatim line.specifier) := by
  obtain ⟨-, _, expression, relative, isType, expressed, placed, rfl⟩ :=
    generate_eq_ok_iff.mp generated
  obtain rfl := Option.some.inj (typed.symm.trans isType)
  refine ⟨relative, expression.imports, placed, ?_, ?_, value?_eq_units_iff, ?_⟩
  · have rendered : NamedImport.render = fun line => importLine line.clause line.specifier :=
      funext NamedImport.render_eq
    simp only [fragment, Library.libraryImports_eq, typeImport_eq, rendered, List.append_assoc,
      List.singleton_append]
  · intro need isNeed
    exact value?_eq_units_iff.mpr (plugin.library.isVerbatim_of_mem_needs need isNeed)
  · intro line isLine
    have resolved := TypeExpr.isResolved_of_ofStatement_eq_ok declared typed
    obtain ⟨reference, member, quote, maps⟩ :=
      exists_mapsImport_of_mem_imports resolved expressed isLine
    exact ⟨reference, member, quote, maps, fun _ reads => value?_single_iff reads,
      value?_eq_units_iff⟩

/-- A module that has the specifier of another one between double quotes. -/
def quotingModule : Syntax.Module :=
  .read "src/a.ppx.ts"
    "import \x7b B \x7d from \"./b.ppx\";\n/** @ts-ppx(zod) */\nexport type A = B;\n"

/-- A run from a directory of the root. -/
def quotingPipeline : Pipeline := { root := .path "src", working := "/work" }

/-- The companion goes into a directory beside the working directory. -/
theorem generate_importLines_denote_quotingModule :
    ∃ statement ∈ (quotingModule.annotated Directive.usualTag).toOption.getD [],
      ∃ declaration artifact,
        Declaration.ofStatement (.ofImports quotingModule.path quotingModule.imports) statement =
          .ok declaration ∧
        Plugin.generate ⟨"zod", .zod, .ok, .ok⟩
          (quotingPipeline.context quotingModule ⟨"zod", .zod, .ok, .ok⟩ "/out/a.ts") declaration =
            .ok artifact ∧
        artifact.imports = [importLine "\x7b z \x7d" "zod",
          importLine (typeClause "A") "../work/src/a.ppx", importLine "\x7b B \x7d" "./b.ppx"] ∧
        Plugin.MapsImport ⟨"zod", .zod, .ok, .ok⟩ quotingModule "B" '"' "./b.ppx" ∧
        value? '\'' "../work/src/a.ppx" = some (units "../work/src/a.ppx") ∧
        value? '\'' "./b.ppx" = some (units "./b.ppx") := by
  have built : (((quotingModule.annotated Directive.usualTag).toOption.getD []).head?.bind
      fun statement => (Declaration.ofStatement
        (.ofImports quotingModule.path quotingModule.imports) statement).toOption.bind
      fun declaration => (Plugin.generate ⟨"zod", .zod, .ok, .ok⟩
        (quotingPipeline.context quotingModule ⟨"zod", .zod, .ok, .ok⟩ "/out/a.ts")
        declaration).toOption.map
      fun artifact => (declaration.type.map TypeExpr.references, artifact.imports)) =
        some (some [("B".toList, some ⟨"B", "B", "./b.ppx"⟩)],
          [importLine "\x7b z \x7d" "zod", importLine (typeClause "A") "../work/src/a.ppx",
            importLine "\x7b B \x7d" "./b.ppx"]) := by
    decide +kernel
  obtain ⟨statement, first, built⟩ := Option.bind_eq_some_iff.mp built
  obtain ⟨declaration, declares, built⟩ := Option.bind_eq_some_iff.mp built
  obtain ⟨artifact, generates, built⟩ := Option.map_eq_some_iff.mp built
  obtain ⟨references, imports⟩ := Prod.mk.inj built
  obtain ⟨type, typed, references⟩ := Option.map_eq_some_iff.mp references
  have declared := Failure.toOption_eq_some_iff.mp declares
  have generated := Failure.toOption_eq_some_iff.mp generates
  obtain ⟨relative, lines, placed, listed, -, own, each⟩ :=
    generate_importLines_denote_iff declared typed generated
  obtain rfl : "../work/src/a.ppx".toList = relative := Except.ok.inj placed
  -- The only line behind those of the library and of the type is that of the one reference.
  obtain ⟨line, rfl⟩ : ∃ line, lines = [line] := by
    have counted := congrArg List.length (imports.symm.trans listed)
    refine List.length_eq_one_iff.mp ?_
    simpa [Library.needs] using counted.symm
  obtain ⟨reference, member, quote, maps, -, denotes⟩ := each line List.mem_cons_self
  rw [references] at member
  obtain rfl := List.mem_singleton.mp member
  obtain ⟨statement, literal, specifier, ⟨before, after, isImport, -⟩, isSource, -, text, mapped⟩ :=
    id maps
  have sources : ∀ statement ∈ quotingModule.imports,
      (statement.child? .source).map (·.text) = some "\"./b.ppx\"".toList := by decide +kernel
  have quoted := sources statement (by simp [isImport])
  rw [isSource, Option.map_some, Option.some.injEq, text] at quoted
  obtain ⟨rfl, behind⟩ := List.cons_eq_cons.mp quoted
  have same : specifier = "./b.ppx".toList := (List.append_left_inj ['"']).mp behind
  have same := same.symm.trans (Except.ok.inj mapped)
  rw [← same] at maps denotes
  exact ⟨_, List.mem_of_mem_head? first, declaration, artifact, declared, generated, imports, maps,
    own.mpr (by decide), denotes.mpr (by decide)⟩

end Plugin

namespace Pipeline

/-- A single quote in a specifier between double quotes needs no backslash. In the companion it ends the
literal. -/
theorem run_breaks_import_line :
    ∃ settings pipeline,
      ({ sourceRoot := .string "src" } : Config).runSettings none = .ok settings ∧
      ofConfig settings = .ok pipeline ∧
      ∃ store : MemoryFiles,
        store = .ofList [("src/a.ppx.ts",
          "import \x7b B \x7d from \"./it's.ppx\";\n/** @ts-ppx(zod) */\nexport type A = B;\n")] ∧
        pipeline.generate store = .ok ⟨[("src/a.ts".toList, ⟨
          ["import \x7b z \x7d from 'zod';".toList,
            importLine (Plugin.typeClause "A") "./a.ppx", importLine "\x7b B \x7d" "./it's"],
          ["export type A = $A;".toList,
            ("export const A = \x7b\n  schema: () => B.schema().transform((x): A => x),\n" ++
              "\x7d as const;").toList]⟩)]⟩ ∧
        value? '"' "./it's" = some (units "./it's") ∧ value? '\'' "./it's" = none :=
  ⟨_, _, rfl, rfl, _, rfl, by decide +kernel, by decide, by decide⟩

end Pipeline

end Companion
