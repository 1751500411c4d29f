import Companion.Config.Settings
import Companion.Proofs.Failure
import Companion.Proofs.Specifier
import Companion.Run.Generation

/-! References to imported types: which import they bring, and whether its specifier denotes the file
with the companions of the imported module. -/

set_option autoImplicit false

namespace Companion

/-- A reference to an imported type brings one import, of the companion. -/
theorem Dialect.reference_eq_ok {dialect : Dialect} {context : CompanionContext} {name : Text}
    {origin : Option ImportedName} {binding : ImportedName} {specifier : Text}
    (bound : context.binding name origin = .ok (some binding))
    (mapped : context.companionSpecifier binding.specifier = .ok specifier) :
    dialect.reference context name origin =
      .ok ⟨dialect.companionName name ++ dialect.call,
        [⟨dialect.companionName binding.imported, dialect.companionName binding.localName,
          specifier⟩]⟩ := by
  simp only [reference, bound, mapped, bind, Except.bind]
  rfl

namespace GeneratorSettings

/-- What a configured generator does with paths and specifiers. -/
theorem plugin_maps {settings : GeneratorSettings} {plugin : Plugin}
    (configured : settings.plugin = .ok plugin) :
    plugin.companionPath = settings.fileRelocation.apply ∧
      plugin.companionSpecifier = settings.specifierRelocation.apply := by
  unfold GeneratorSettings.plugin at configured
  split at configured
  · cases configured
  · split at configured
    · obtain rfl := Except.ok.inj configured
      exact ⟨rfl, rfl⟩
    · cases configured

theorem plugin_maps_of_relocation? {settings : GeneratorSettings} {plugin : Plugin}
    {files specifiers : Relocation} (configured : settings.plugin = .ok plugin)
    (filesAre : settings.fileRelocation.relocation? = some files)
    (specifiersAre : settings.specifierRelocation.relocation? = some specifiers) :
    (∀ path, plugin.companionPath path = .ok (files.apply path)) ∧
      ∀ specifier, plugin.companionSpecifier specifier = .ok (specifiers.apply specifier) := by
  obtain ⟨mapsPaths, mapsSpecifiers⟩ := plugin_maps configured
  simp [mapsPaths, mapsSpecifiers, RelocationSettings.apply, filesAre, specifiersAre]

/-- The generator of random values that is configured by default. -/
theorem fastCheck_of_mem_defaults {settings : GeneratorSettings} {plugin : Plugin}
    (usual : settings ∈ defaults) (configured : settings.plugin = .ok plugin)
    (library : plugin.library = .fastCheck) :
    (∀ path, plugin.companionPath path =
        .ok ((Relocation.usual (some "testing".toList)).apply path)) ∧
      ∀ specifier,
        plugin.companionSpecifier specifier = .ok ((Relocation.usual none).apply specifier) := by
  simp only [defaults, List.mem_cons, List.not_mem_nil, or_false] at usual
  rcases usual with rfl | rfl
  · obtain rfl := Except.ok.inj configured
    cases library
  · obtain rfl := Except.ok.inj configured
    exact ⟨fun _ => rfl, fun _ => rfl⟩

/-- Where the default generator of random values sends the references of a module to an imported
module: the import of the companion denotes the file generated for the imported module just if the
specifier leads from the one `testing` directory to the other. -/
theorem fastCheck_import_denotes_companion_iff {settings : GeneratorSettings} {plugin : Plugin}
    {module imported specifier : Text} (usual : settings ∈ defaults)
    (configured : settings.plugin = .ok plugin) (library : plugin.library = .fastCheck)
    (isModule : Path.IsModuleFile module) (isImported : Path.IsModuleFile imported)
    (relative : Specifier.IsRelative specifier)
    (denotes : Specifier.denoted module specifier = imported) :
    ∃ file companion companionSpecifier,
      plugin.companionPath module = .ok file ∧ plugin.companionPath imported = .ok companion ∧
      plugin.companionSpecifier specifier = .ok companionSpecifier ∧
      (∀ (pipeline : Pipeline) (source : Syntax.Module) (name : Text)
          (origin : Option ImportedName) (binding : ImportedName),
        (pipeline.context source plugin file).binding name origin = .ok (some binding) →
        binding.specifier = specifier →
        plugin.library.dialect.reference (pipeline.context source plugin file) name origin =
          .ok ⟨"arbitrary".toList ++ name ++ "()".toList,
            [⟨"arbitrary".toList ++ binding.imported, "arbitrary".toList ++ binding.localName,
              companionSpecifier⟩]⟩) ∧
      (Specifier.denoted file companionSpecifier = Path.normalize companion ↔
        Specifier.LeadsToSubdirectory "testing" file specifier) := by
  obtain ⟨paths, specifiers⟩ := fastCheck_of_mem_defaults usual configured library
  refine ⟨_, _, _, paths module, paths imported, specifiers specifier, ?_, ?_⟩
  · intro pipeline source name origin binding bound same
    subst same
    rw [library]
    exact Dialect.reference_eq_ok bound (specifiers binding.specifier)
  · exact Specifier.denoted_relocated_iff (by decide) (by decide) isModule isImported relative
      denotes

/-- Modules of the same directory find each other's companions. -/
theorem fastCheck_import_denotes_sibling_companion :
    ∃ settings ∈ defaults, ∃ plugin, settings.plugin = .ok plugin ∧ plugin.library = .fastCheck ∧
      Path.IsModuleFile "src/a.ppx.ts" ∧ Path.IsModuleFile "src/b.ppx.ts" ∧
      Specifier.IsRelative "./b.ppx" ∧
      Specifier.denoted "src/a.ppx.ts" "./b.ppx" = "src/b.ppx.ts".toList ∧
      ∃ file companion companionSpecifier,
        plugin.companionPath "src/a.ppx.ts" = .ok file ∧
        plugin.companionPath "src/b.ppx.ts" = .ok companion ∧
        plugin.companionSpecifier "./b.ppx" = .ok companionSpecifier ∧
        Specifier.denoted file companionSpecifier = Path.normalize companion := by
  have isModule : Path.IsModuleFile "src/a.ppx.ts" := by decide
  have isImported : Path.IsModuleFile "src/b.ppx.ts" := by decide
  have relative : Specifier.IsRelative "./b.ppx" := by decide
  have denotes : Specifier.denoted "src/a.ppx.ts" "./b.ppx" = "src/b.ppx.ts".toList := by decide
  refine ⟨_, List.mem_cons_of_mem _ List.mem_cons_self, _, rfl, rfl, isModule, isImported, relative,
    denotes, ?_⟩
  obtain ⟨file, companion, companionSpecifier, placed, placedCompanion, mapped, _, found⟩ :=
    fastCheck_import_denotes_companion_iff (List.mem_cons_of_mem _ List.mem_cons_self) rfl rfl
      isModule isImported relative denotes
  refine ⟨file, companion, companionSpecifier, placed, placedCompanion, mapped, found.mpr ?_⟩
  obtain rfl := Except.ok.inj placed
  decide

/-- Modules of different directories do not: the specifier leads from `src/x/testing` to a directory
`src/x/y` instead of `src/y/testing`. -/
theorem fastCheck_import_misses_companion :
    ∃ settings ∈ defaults, ∃ plugin, settings.plugin = .ok plugin ∧ plugin.library = .fastCheck ∧
      Path.IsModuleFile "src/x/a.ppx.ts" ∧ Path.IsModuleFile "src/y/b.ppx.ts" ∧
      Specifier.IsRelative "../y/b.ppx" ∧
      Specifier.denoted "src/x/a.ppx.ts" "../y/b.ppx" = "src/y/b.ppx.ts".toList ∧
      plugin.companionPath "src/x/a.ppx.ts" = .ok "src/x/testing/a.ts".toList ∧
      plugin.companionPath "src/y/b.ppx.ts" = .ok "src/y/testing/b.ts".toList ∧
      plugin.companionSpecifier "../y/b.ppx" = .ok "../y/b".toList ∧
      Specifier.denoted "src/x/testing/a.ts" "../y/b" = "src/x/y/b.ts".toList ∧
      "src/x/y/b.ts".toList ≠ Path.normalize "src/y/testing/b.ts" := by
  exact ⟨_, List.mem_cons_of_mem _ List.mem_cons_self, _, rfl, rfl, by decide, by decide,
    by decide, by decide, rfl, rfl, rfl, by decide, by decide⟩

/-- A generator of validators that renames modules and specifiers in the same way, in place and
without touching the ending of a file: the import that a reference to an imported type brings denotes
the file generated for the imported module. -/
theorem zod_import_denotes_companion {settings : GeneratorSettings} {plugin : Plugin}
    {relocation : Relocation} (renames : relocation.RenamesFiles)
    (configured : settings.plugin = .ok plugin) (library : plugin.library = .zod)
    (files : settings.fileRelocation.relocation? = some relocation)
    (specifiers : settings.specifierRelocation.relocation? = some relocation)
    {module imported specifier : Text} (isModule : Path.IsTypeScriptFile module)
    (isImported : Path.IsTypeScriptFile imported) (relative : Specifier.IsRelative specifier)
    (denotes : Specifier.denoted module specifier = imported)
    (named : Path.IsName (relocation.renameBase (Path.base specifier))) :
    ∃ file companion companionSpecifier,
      plugin.companionPath module = .ok file ∧ plugin.companionPath imported = .ok companion ∧
      plugin.companionSpecifier specifier = .ok companionSpecifier ∧
      (∀ (pipeline : Pipeline) (source : Syntax.Module) (name : Text)
          (origin : Option ImportedName) (binding : ImportedName),
        (pipeline.context source plugin file).binding name origin = .ok (some binding) →
        binding.specifier = specifier →
        plugin.library.dialect.reference (pipeline.context source plugin file) name origin =
          .ok ⟨name ++ ".schema()".toList,
            [⟨binding.imported, binding.localName, companionSpecifier⟩]⟩) ∧
      Specifier.denoted file companionSpecifier = Path.normalize companion := by
  obtain ⟨paths, mapped⟩ := plugin_maps_of_relocation? configured files specifiers
  refine ⟨_, _, _, paths module, paths imported, mapped specifier, ?_, ?_⟩
  · intro pipeline source name origin binding bound same
    subst same
    rw [library]
    exact Dialect.reference_eq_ok bound (mapped binding.specifier)
  · exact Specifier.denoted_renamed renames isModule isImported.1 relative denotes named

/-- With the usual names, from one directory to another. -/
theorem zod_import_denotes_companion_elsewhere :
    ∃ settings ∈ defaults, ∃ plugin, settings.plugin = .ok plugin ∧ plugin.library = .zod ∧
      Path.IsTypeScriptFile "src/x/a.ppx.ts" ∧ Path.IsTypeScriptFile "src/y/b.ppx.ts" ∧
      Specifier.IsRelative "../y/b.ppx" ∧
      Specifier.denoted "src/x/a.ppx.ts" "../y/b.ppx" = "src/y/b.ppx.ts".toList ∧
      ∃ file companion companionSpecifier,
        plugin.companionPath "src/x/a.ppx.ts" = .ok file ∧
        plugin.companionPath "src/y/b.ppx.ts" = .ok companion ∧
        plugin.companionSpecifier "../y/b.ppx" = .ok companionSpecifier ∧
        Specifier.denoted file companionSpecifier = Path.normalize companion := by
  have isModule : Path.IsTypeScriptFile "src/x/a.ppx.ts" := by decide
  have isImported : Path.IsTypeScriptFile "src/y/b.ppx.ts" := by decide
  have relative : Specifier.IsRelative "../y/b.ppx" := by decide
  have denotes : Specifier.denoted "src/x/a.ppx.ts" "../y/b.ppx" = "src/y/b.ppx.ts".toList := by
    decide
  let settings : GeneratorSettings := { name := .string "zod" }
  obtain ⟨plugin, configured, library⟩ :
      ∃ plugin, settings.plugin = .ok plugin ∧ plugin.library = .zod := ⟨_, rfl, rfl⟩
  refine ⟨settings, List.mem_cons_self, plugin, configured, library, isModule, isImported, relative,
    denotes, ?_⟩
  obtain ⟨file, companion, companionSpecifier, placed, placedCompanion, mapped, -, found⟩ :=
    zod_import_denotes_companion Relocation.usual_none_renamesFiles configured library rfl rfl
      isModule isImported relative denotes (by decide)
  exact ⟨file, companion, companionSpecifier, placed, placedCompanion, mapped, found⟩

end GeneratorSettings

end Companion
