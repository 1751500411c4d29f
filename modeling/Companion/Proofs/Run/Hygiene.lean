import Companion.Proofs.Output.Names
import Companion.Proofs.Run.Closure
import Mathlib.Data.List.Flatten

/-!
# Names apart

In a file that holds the companions of one module, made by one plugin, no name stands for two things.
Each import line is determined by the name that it binds, so lines that bind the same name are the
same line, of which one is kept; and the names of types, of companions, and of what is imported cannot
meet, since each of them is told from the others by how it begins or by where it comes from.
-/

set_option autoImplicit false

namespace Companion

open Artifact

/-! ## Names of a module -/

/-- The names under which a statement declares a type alias: one or none. -/
def Syntax.Statement.aliasNames (statement : Statement) : List Text :=
  if statement.declaration.kind = .typeAliasDeclaration then
    [Declaration.nameOf statement.declaration] else []

namespace Syntax.Module

/-- The names of the type aliases of a module. -/
def aliasNames (source : Module) : List Text := source.statements.flatMap (·.aliasNames)

/-- The names in the import lists of a module: what is imported and its local name. -/
def importedNames (source : Module) : List (Text × Text) :=
  (source.imports.flatMap Imports.specifiers).filterMap Imports.specifierNames

def localNames (source : Module) : List Text := source.importedNames.map (·.2)

end Syntax.Module

/-- An identifier that the generated names and those of the libraries leave alone. -/
structure IsUsualName (name : Text) : Prop where
  identifier : Syntax.IsIdentifier name
  noDollar : name.startsWith "$" = false
  noArbitrary : name.startsWith "arbitrary" = false
  free : name ∉ ["z".toList, "fc".toList, "Arbitrary".toList]

theorem isUsualName_iff {name : Text} : IsUsualName name ↔ Syntax.IsIdentifier name ∧
    name.startsWith "$" = false ∧ name.startsWith "arbitrary" = false ∧
      ["z".toList, "fc".toList, "Arbitrary".toList].contains name = false := by
  have isFree : ["z".toList, "fc".toList, "Arbitrary".toList].contains name = false ↔
      name ∉ ["z".toList, "fc".toList, "Arbitrary".toList] := by
    rw [← Bool.not_eq_true, List.contains_iff_mem]
  rw [isFree]
  constructor
  · intro usual
    exact ⟨usual.identifier, usual.noDollar, usual.noArbitrary, usual.free⟩
  · intro usual
    obtain ⟨identifier, noDollar, noArbitrary, free⟩ := usual
    exact ⟨identifier, noDollar, noArbitrary, free⟩

instance (name : Text) : Decidable (IsUsualName name) := decidable_of_iff _ isUsualName_iff.symm

/-- The type aliases of a module and the local names of its imports are pairwise distinct, and each of
them is a usual name. An imported name may be a string, as import lists allow. -/
structure Syntax.Module.NamesTypesApart (source : Syntax.Module) : Prop where
  apart : (source.aliasNames ++ source.localNames).Nodup
  usual : ∀ name ∈ source.aliasNames ++ source.localNames, IsUsualName name
  listed : ∀ names ∈ source.importedNames, IsListName names.1

theorem Imports.mem_importedNames_of_find_eq_ok {source : Syntax.Module} {name : Text}
    {binding : ImportedName}
    (found : find source.path name source.imports = .ok (some binding)) :
    (binding.imported, name) ∈ source.importedNames := by
  have among : ∀ statements : List Syntax.Node,
      find source.path name statements = .ok (some binding) →
      (binding.imported, name) ∈ (statements.flatMap specifiers).filterMap specifierNames := by
    intro statements found
    induction statements with
    | nil => cases found
    | cons statement rest ih =>
        rw [List.flatMap_cons, List.filterMap_append, List.mem_append]
        rw [find] at found
        split at found
        · next imported isImported =>
          rw [Failure.bind_eq_ok_iff] at found
          obtain ⟨specifier, _, success⟩ := found
          obtain rfl := Option.some.inj (Except.ok.inj success)
          obtain ⟨node, isSpecifier, names⟩ := List.exists_of_findSome?_eq_some isImported
          left
          refine List.mem_filterMap.mpr ⟨node, isSpecifier, ?_⟩
          split at names
          · next first second read =>
            split at names
            · next same =>
              rw [read, Option.some.inj names, same]
            · cases names
          · cases names
        · exact .inr (ih found)
  exact among source.imports found

/-! ## Names of companions -/

namespace Library

variable (library : Library) {name other : Text}

theorem companionName_injective : Function.Injective library.dialect.companionName := by
  intro left right same
  cases library with
  | zod => exact same
  | fastCheck => exact List.append_cancel_left same

theorem companionName_ne_dollar (usual : IsUsualName name) :
    library.dialect.companionName name ≠ '$' :: other := by
  intro same
  cases library with
  | zod =>
      have dollar := usual.noDollar
      rw [show name = '$' :: other from same] at dollar
      simp [Text.startsWith] at dollar
  | fastCheck => exact absurd (List.head_eq_of_cons_eq same) (by decide)

theorem dollar_notMem_importedNames : '$' :: name ∉ library.importedNames := by
  cases library <;> simp [importedNames]

theorem companionName_notMem_importedNames (usual : IsUsualName name) :
    library.dialect.companionName name ∉ library.importedNames := by
  intro member
  cases library with
  | zod =>
      have same : name = "z".toList := List.mem_singleton.mp member
      exact usual.free (same ▸ List.mem_cons_self)
  | fastCheck =>
      simp [importedNames, dialect, Dialect.fastCheck] at member

theorem notMem_importedNames (usual : IsUsualName name) : name ∉ library.importedNames := by
  intro member
  apply usual.free
  cases library with
  | zod => exact List.mem_cons.mpr (.inl (List.mem_singleton.mp member))
  | fastCheck => exact List.mem_cons_of_mem _ member

theorem eq_of_companionName_eq (usual : IsUsualName name)
    (same : library.dialect.companionName other = name) : other = name := by
  cases library with
  | zod => exact same
  | fastCheck =>
      have noArbitrary := usual.noArbitrary
      rw [← same] at noArbitrary
      simp [Text.startsWith, dialect, Dialect.fastCheck] at noArbitrary

theorem isWord_companionName {exported : Text} (listed : IsListName exported) :
    CodeWord.IsWord (library.dialect.companionName exported) := by
  cases library with
  | zod => exact listed.isWord
  | fastCheck => exact CodeWord.IsWord.append rfl listed.isWord

theorem companionName_ne_brace {exported : Text} (listed : IsListName exported) :
    library.dialect.companionName exported ≠ ['\x7d'] := by
  cases library with
  | zod => exact listed.ne_brace
  | fastCheck => exact fun same => absurd (List.head_eq_of_cons_eq same) (by decide)

theorem keyword_ne_type : library.keyword ≠ ['t', 'y', 'p', 'e'] := by
  cases library <;> decide

theorem map_boundName_libraryImports :
    library.dialect.libraryImports.map boundName = library.importedNames.map some := by
  cases library <;> decide

end Library

/-! ## Import lines -/

namespace Syntax.Module.NamesTypesApart

variable {source : Syntax.Module} {name : Text}

theorem usual_alias (names : source.NamesTypesApart) (own : name ∈ source.aliasNames) :
    IsUsualName name :=
  names.usual name (List.mem_append_left _ own)

theorem usual_local (names : source.NamesTypesApart) (isLocal : name ∈ source.localNames) :
    IsUsualName name :=
  names.usual name (List.mem_append_right _ isLocal)

theorem local_ne_alias (names : source.NamesTypesApart) {declared : Text}
    (isLocal : name ∈ source.localNames) (own : declared ∈ source.aliasNames) : name ≠ declared := by
  rintro rfl
  exact (List.nodup_append.mp names.apart).2.2 name own name isLocal rfl

end Syntax.Module.NamesTypesApart

namespace Pipeline

/-- The import lines that a companion may come with, and the name that each of them binds. -/
inductive ImportLine (working : Text) (source : Syntax.Module) (plugin : Plugin) (target : Text) :
    Text → Text → Prop
  | library {line name : Text} (member : line ∈ plugin.library.dialect.libraryImports)
      (bound : boundName line = some name) : ImportLine working source plugin target line name
  | type {name specifier : Text} (own : name ∈ source.aliasNames)
      (found : Specifier.relativeImport working source.path target = .ok specifier) :
      ImportLine working source plugin target (Plugin.typeImport name specifier) ('$' :: name)
  | companion {name specifier : Text} {binding : ImportedName}
      (found : Imports.find source.path name source.imports = .ok (some binding))
      (mapped : plugin.companionSpecifier binding.specifier = .ok specifier) :
      ImportLine working source plugin target
        (NamedImport.render ⟨plugin.library.dialect.companionName binding.imported,
          plugin.library.dialect.companionName name, specifier⟩)
        (plugin.library.dialect.companionName name)

variable {source : Syntax.Module} {plugin : Plugin}
  {working target line other name otherName : Text}

theorem mem_localNames_of_find_eq_ok {binding : ImportedName}
    (found : Imports.find source.path name source.imports = .ok (some binding)) :
    name ∈ source.localNames :=
  List.mem_map_of_mem (Imports.mem_importedNames_of_find_eq_ok found)

theorem mem_importedNames_of_boundName {library : Library}
    (member : line ∈ library.dialect.libraryImports) (bound : boundName line = some name) :
    name ∈ library.importedNames := by
  have among : some name ∈ library.dialect.libraryImports.map boundName :=
    bound ▸ List.mem_map_of_mem member
  rw [library.map_boundName_libraryImports] at among
  simpa using among

namespace ImportLine

theorem boundName_eq (names : source.NamesTypesApart)
    (isLine : ImportLine working source plugin target line name) : boundName line = some name := by
  cases isLine with
  | library _ bound => exact bound
  | type own _ => exact boundName_typeImport (names.usual_alias own).identifier _
  | companion found _ =>
      have listed := names.listed _ (Imports.mem_importedNames_of_find_eq_ok found)
      have given : IsListName _ :=
        .inl (names.usual_local (mem_localNames_of_find_eq_ok found)).identifier
      exact boundName_render (plugin.library.isWord_companionName listed)
        (plugin.library.companionName_ne_brace listed) (plugin.library.isWord_companionName given)
        (plugin.library.companionName_ne_brace given)

/-- An import line is determined by the name that it binds. -/
theorem line_eq (names : source.NamesTypesApart)
    (isLine : ImportLine working source plugin target line name)
    (isOther : ImportLine working source plugin target other otherName) (same : name = otherName) :
    line = other := by
  cases isLine with
  | library member bound =>
      have imported := mem_importedNames_of_boundName member bound
      cases isOther with
      | library otherMember otherBound =>
          have unique : (plugin.library.dialect.libraryImports.map boundName).Nodup := by
            cases plugin.library <;> decide
          exact List.inj_on_of_nodup_map unique member otherMember
            (bound.trans (same ▸ otherBound.symm))
      | type own found => exact absurd (same ▸ imported) plugin.library.dollar_notMem_importedNames
      | companion found mapped =>
          have usual := names.usual_local (mem_localNames_of_find_eq_ok found)
          exact absurd (same ▸ imported) (plugin.library.companionName_notMem_importedNames usual)
  | type own found =>
      cases isOther with
      | library otherMember otherBound =>
          have imported := mem_importedNames_of_boundName otherMember otherBound
          exact absurd (same ▸ imported) plugin.library.dollar_notMem_importedNames
      | type otherOwn otherFound =>
          rw [List.tail_eq_of_cons_eq same, Except.ok.inj (found.symm.trans otherFound)]
      | companion otherFound mapped =>
          have usual := names.usual_local (mem_localNames_of_find_eq_ok otherFound)
          exact absurd same.symm (plugin.library.companionName_ne_dollar usual)
  | companion found mapped =>
      have usual := names.usual_local (mem_localNames_of_find_eq_ok found)
      cases isOther with
      | library otherMember otherBound =>
          have imported := mem_importedNames_of_boundName otherMember otherBound
          exact absurd (same ▸ imported) (plugin.library.companionName_notMem_importedNames usual)
      | type own otherFound => exact absurd same (plugin.library.companionName_ne_dollar usual)
      | companion otherFound otherMapped =>
          obtain rfl := plugin.library.companionName_injective same
          obtain rfl := Option.some.inj (Except.ok.inj (found.symm.trans otherFound))
          rw [Except.ok.inj (mapped.symm.trans otherMapped)]

/-- What an import line binds is neither a type nor a companion of its module. -/
theorem name_ne (names : source.NamesTypesApart)
    (isLine : ImportLine working source plugin target line name) {declared : Text}
    (own : declared ∈ source.aliasNames) :
    name ≠ declared ∧ name ≠ plugin.library.dialect.companionName declared := by
  have usual := names.usual_alias own
  cases isLine with
  | library member bound =>
      have imported := mem_importedNames_of_boundName member bound
      exact ⟨fun same => plugin.library.notMem_importedNames usual (same ▸ imported),
        fun same => plugin.library.companionName_notMem_importedNames usual (same ▸ imported)⟩
  | @type aliased _ _ _ =>
      refine ⟨fun same => ?_, fun same => plugin.library.companionName_ne_dollar usual same.symm⟩
      have dollar := usual.noDollar
      rw [← same] at dollar
      simp [Text.startsWith] at dollar
  | companion found _ =>
      have isLocal := mem_localNames_of_find_eq_ok found
      have differs := names.local_ne_alias isLocal own
      exact ⟨fun same => differs (plugin.library.eq_of_companionName_eq usual same),
        fun same => differs (plugin.library.companionName_injective same)⟩

end ImportLine

/-! ## Companions of a module -/

/-- What a plugin generates for those of some requests that ask for it, each fragment with its
declaration; a request that fails leaves nothing. -/
def companionsOf (pipeline : Pipeline) (source : Syntax.Module) (plugin : Plugin) (target : Text)
    (requests : List ModuleRequest) : List (Declaration × Artifact) :=
  (requests.filter (·.request.generator = plugin.name)).filterMap fun asked =>
    (plugin.generate (pipeline.context source plugin target) asked.request.declaration).toOption.map
      fun fragment => (asked.request.declaration, fragment)

/-- The companions that a plugin generates for a module. -/
def companions (pipeline : Pipeline) (source : Syntax.Module) (plugin : Plugin) (target : Text) :
    List (Declaration × Artifact) :=
  pipeline.companionsOf source plugin target (pipeline.moduleRequests source)

/-- No declaration of the module asks for the plugin twice. -/
def AsksOnce (pipeline : Pipeline) (source : Syntax.Module) (plugin : Plugin) : Prop :=
  ∀ statement ∈ pipeline.marked source,
    ((statementRequests source statement).filter (·.request.generator = plugin.name)).length ≤ 1

variable {pipeline : Pipeline}

theorem mem_companionsOf_iff {requests : List ModuleRequest} {declaration : Declaration}
    {fragment : Artifact} :
    (declaration, fragment) ∈ pipeline.companionsOf source plugin target requests ↔
      ∃ asked ∈ requests, asked.request.generator = plugin.name ∧
        asked.request.declaration = declaration ∧
        plugin.generate (pipeline.context source plugin target) declaration = .ok fragment := by
  simp only [companionsOf, List.mem_filterMap, List.mem_filter, decide_eq_true_eq,
    Option.map_eq_some_iff, Failure.toOption_eq_some_iff, Prod.mk.injEq]
  constructor
  · intro found
    obtain ⟨asked, ⟨member, names⟩, _, generated, rfl, rfl⟩ := found
    exact ⟨asked, member, names, rfl, generated⟩
  · intro found
    obtain ⟨asked, member, names, rfl, generated⟩ := found
    exact ⟨asked, ⟨member, names⟩, fragment, generated, rfl, rfl⟩

theorem companionsOf_flatMap {α : Type} (items : List α) (requests : α → List ModuleRequest) :
    pipeline.companionsOf source plugin target (items.flatMap requests) =
      items.flatMap fun item => pipeline.companionsOf source plugin target (requests item) := by
  simp only [companionsOf, List.filter_flatMap, List.filterMap_flatMap]

/-- What declares an alias is an alias declaration of the same name. -/
theorem alias_of_declared {statement : MarkedStatement} {declaration : Declaration}
    (declares : declared source statement = .ok declaration) (kind : declaration.kind = .typeAlias) :
    statement.statement.declaration.kind = .typeAliasDeclaration ∧
      declaration.name = Declaration.nameOf statement.statement.declaration := by
  have ofSyntax : ∀ kind, DeclarationForm.ofSyntax kind = .typeAlias →
      kind = .typeAliasDeclaration := by
    intro kind
    cases kind <;> simp [DeclarationForm.ofSyntax]
  unfold declared Declaration.ofStatement Declaration.ofNode at declares
  dsimp only at declares
  split at declares
  · next isAlias =>
    rw [Failure.bind_eq_ok_iff] at declares
    obtain ⟨type, _, success⟩ := declares
    obtain rfl := Except.ok.inj success
    exact ⟨ofSyntax _ isAlias, rfl⟩
  · next isOther =>
    obtain rfl := Except.ok.inj declares
    exact absurd kind isOther

theorem names_companionsOf_sublist {statement : MarkedStatement}
    (once : ((statementRequests source statement).filter
      (·.request.generator = plugin.name)).length ≤ 1) :
    ((pipeline.companionsOf source plugin target (statementRequests source statement)).map
      (·.1.name)).Sublist statement.statement.aliasNames := by
  have each : ∀ companion ∈
      pipeline.companionsOf source plugin target (statementRequests source statement),
      statement.statement.aliasNames = [companion.1.name] := by
    intro companion member
    obtain ⟨asked, isAsked, _, same, generated⟩ := mem_companionsOf_iff.mp member
    have declares := (declared_of_mem_statementRequests isAsked).2
    have kind := (Plugin.generate_eq_ok_iff.mp generated).1
    obtain ⟨isAlias, name⟩ := alias_of_declared (same ▸ declares) kind
    rw [Syntax.Statement.aliasNames, if_pos isAlias, name]
  have atMostOne : (pipeline.companionsOf source plugin target
      (statementRequests source statement)).length ≤ 1 :=
    (List.length_filterMap_le _ _).trans once
  cases found : pipeline.companionsOf source plugin target (statementRequests source statement) with
  | nil => exact List.nil_sublist _
  | cons companion rest =>
      rw [found] at each atMostOne
      obtain rfl : rest = [] := List.length_eq_zero_iff.mp (by simpa using atMostOne)
      rw [each companion List.mem_cons_self]
      exact List.Sublist.refl _

/-- The companions of a module are those of different aliases, in their order. -/
theorem names_companions_sublist (once : pipeline.AsksOnce source plugin) :
    ((pipeline.companions source plugin target).map (·.1.name)).Sublist source.aliasNames := by
  unfold AsksOnce marked at once
  rw [companions, moduleRequests, companionsOf_flatMap, List.map_flatMap, marked,
    List.filterMap_eq_flatMap_toList, List.flatMap_assoc]
  apply List.Sublist.flatMap_right
  intro statement member
  dsimp only
  split
  · exact List.nil_sublist _
  · next directives =>
    rw [Option.toList_some, List.flatMap_singleton]
    apply names_companionsOf_sublist
    exact once _ (List.mem_filterMap.mpr ⟨statement, member, if_neg directives⟩)

/-- Every import line of a companion is one of those that companions may come with. -/
theorem exists_importLine (once : pipeline.AsksOnce source plugin)
    {companion : Declaration × Artifact} (member : companion ∈ pipeline.companions source plugin target)
    (isImport : line ∈ companion.2.imports) :
    ∃ name, ImportLine pipeline.working source plugin target line name := by
  have own : companion.1.name ∈ source.aliasNames :=
    (names_companions_sublist once).subset (List.mem_map_of_mem member)
  obtain ⟨asked, isAsked, _, same, generated⟩ := mem_companionsOf_iff.mp member
  obtain ⟨_, type, expression, specifier, typed, expressed, found, made⟩ :=
    Plugin.generate_eq_ok_iff.mp generated
  rw [made, Plugin.fragment] at isImport
  rcases List.mem_append.mp isImport with member | member
  · rcases List.mem_append.mp member with member | member
    · have bound : boundName line ∈ plugin.library.importedNames.map some :=
        plugin.library.map_boundName_libraryImports ▸ List.mem_map_of_mem member
      obtain ⟨name, _, bound⟩ := List.mem_map.mp bound
      exact ⟨name, .library member bound.symm⟩
    · obtain rfl := List.mem_singleton.mp member
      exact ⟨_, .type own found⟩
  · obtain ⟨named, isNamed, rfl⟩ := List.mem_map.mp member
    obtain ⟨reference, isReference, part, refers, inside⟩ :=
      (Dialect.expresses_of_express_eq_ok expressed).imports.exists_reference isNamed
    obtain ⟨statement, _, inStatement⟩ := List.mem_flatMap.mp isAsked
    have declares := (declared_of_mem_statementRequests inStatement).2
    have resolved := TypeExpr.isResolved_of_ofStatement_eq_ok (same ▸ declares) typed reference
      isReference
    rcases reference_cases resolved refers with ⟨_, imports⟩ |
      ⟨binding, mappedSpecifier, origin, mapped, imports⟩
    · rw [imports] at inside
      cases inside
    · rw [imports] at inside
      obtain rfl := List.mem_singleton.mp inside
      exact ⟨_, .companion (origin ▸ resolved) mapped⟩

theorem exported_statements (names : source.NamesTypesApart) (once : pipeline.AsksOnce source plugin)
    {companion : Declaration × Artifact}
    (member : companion ∈ pipeline.companions source plugin target) :
    companion.2.statements.filterMap exported = [("type".toList, companion.1.name),
      (plugin.library.keyword, plugin.library.dialect.companionName companion.1.name)] := by
  have own : companion.1.name ∈ source.aliasNames :=
    (names_companions_sublist once).subset (List.mem_map_of_mem member)
  have identifier := (names.usual_alias own).identifier
  obtain ⟨_, _, _, _, generated⟩ := mem_companionsOf_iff.mp member
  obtain ⟨_, _, expression, _, _, _, _, made⟩ := Plugin.generate_eq_ok_iff.mp generated
  rw [made]
  simp only [Plugin.fragment, List.filterMap_cons, List.filterMap_nil,
    exported_aliasStatement identifier,
    exported_companionStatement plugin.library identifier expression.code]

end Pipeline

/-! ## Names of a file -/

/-- In a file no name stands for two things: every import line binds one name, and no other line binds
it; nothing that is imported is also exported; the types and the values that are declared are the given
ones, each of which is declared once. -/
structure Artifact.KeepsNamesApart (file : Artifact) (types values : List Text) : Prop where
  binds : ∀ line ∈ file.imports, (boundName line).isSome = true
  boundOnce : (file.imports.map boundName).Nodup
  notExported : ∀ line ∈ file.imports, ∀ name, boundName line = some name →
    name ∉ file.exportedTypes ∧ name ∉ file.exportedValues
  exportedTypes : file.exportedTypes = types
  exportedValues : file.exportedValues = values
  typesOnce : types.Nodup
  valuesOnce : values.Nodup

namespace Pipeline

variable {source : Syntax.Module} {plugin : Plugin} {target : Text} {pipeline : Pipeline}

section File

variable (names : source.NamesTypesApart) (once : pipeline.AsksOnce source plugin)
  {order : List (Declaration × Artifact)}
  (isCompanion : ∀ companion ∈ order, companion ∈ pipeline.companions source plugin target)

include once isCompanion

/-- Each import line of a file of companions is one that companions may come with. -/
theorem exists_importLine_of_mem_concat {line : Text}
    (member : line ∈ (Artifact.concat (order.map (·.2))).imports) :
    ∃ name, ImportLine pipeline.working source plugin target line name := by
  rw [FileSet.concat_eq_gather, FileSet.gather, Text.mem_distinct] at member
  obtain ⟨fragment, isFragment, inside⟩ := List.mem_flatMap.mp member
  obtain ⟨companion, inOrder, rfl⟩ := List.mem_map.mp isFragment
  exact exists_importLine once (isCompanion companion inOrder) inside

include names

/-- A file of companions exports each type and its companion. -/
theorem exported_concat :
    (Artifact.concat (order.map (·.2))).statements.filterMap exported =
      order.flatMap fun companion => [("type".toList, companion.1.name),
        (plugin.library.keyword, plugin.library.dialect.companionName companion.1.name)] := by
  rw [FileSet.concat_eq_gather, FileSet.gather, List.filterMap_flatMap, List.flatMap_map]
  exact List.flatMap_congr fun companion member =>
    exported_statements names once (isCompanion companion member)

theorem exportedTypes_concat :
    (Artifact.concat (order.map (·.2))).exportedTypes = order.map (·.1.name) := by
  have keyword := plugin.library.keyword_ne_type
  rw [Artifact.exportedTypes, exported_concat names once isCompanion, List.filter_flatMap,
    List.map_flatMap, List.map_eq_flatMap]
  exact List.flatMap_congr fun companion _ => by simp [keyword]

theorem exportedValues_concat :
    (Artifact.concat (order.map (·.2))).exportedValues =
      order.map fun companion => plugin.library.dialect.companionName companion.1.name := by
  have keyword := plugin.library.keyword_ne_type
  rw [Artifact.exportedValues, exported_concat names once isCompanion, List.filter_flatMap,
    List.map_flatMap, List.map_eq_flatMap]
  exact List.flatMap_congr fun companion _ => by simp [keyword]

end File

/-- In whatever order the companions of a module are put into one file, no name stands for two things
there. -/
theorem companions_keep_names_apart (names : source.NamesTypesApart)
    (once : pipeline.AsksOnce source plugin) {order : List (Declaration × Artifact)}
    (merged : order.Perm (pipeline.companions source plugin target)) :
    (Artifact.concat (order.map (·.2))).KeepsNamesApart (order.map (·.1.name))
      (order.map fun companion => plugin.library.dialect.companionName companion.1.name) := by
  have isCompanion : ∀ companion ∈ order, companion ∈ pipeline.companions source plugin target :=
    fun companion => merged.mem_iff.mp
  have sublist : ((pipeline.companions source plugin target).map (·.1.name)).Sublist
      source.aliasNames := names_companions_sublist once
  have typesOnce : (order.map (·.1.name)).Nodup :=
    (merged.map (·.1.name)).nodup_iff.mpr (sublist.nodup (List.nodup_append.mp names.apart).1)
  have own : ∀ companion ∈ order, companion.1.name ∈ source.aliasNames := fun companion member =>
    sublist.subset (List.mem_map_of_mem (isCompanion companion member))
  have lines : ∀ line ∈ (Artifact.concat (order.map (·.2))).imports,
      ∃ name, ImportLine pipeline.working source plugin target line name :=
    fun line => exists_importLine_of_mem_concat once isCompanion
  have types := exportedTypes_concat names once isCompanion
  have values := exportedValues_concat names once isCompanion
  refine ⟨?_, ?_, ?_, types, values, typesOnce, ?_⟩
  · intro line member
    obtain ⟨name, isLine⟩ := lines line member
    rw [isLine.boundName_eq names, Option.isSome_some]
  · have unique : (Artifact.concat (order.map (·.2))).imports.Nodup := by
      rw [FileSet.concat_eq_gather]
      exact Text.nodup_distinct _
    refine unique.map_on fun line isLine other isOther same => ?_
    obtain ⟨name, isLine⟩ := lines line isLine
    obtain ⟨otherName, isOther⟩ := lines other isOther
    rw [isLine.boundName_eq names, isOther.boundName_eq names] at same
    exact isLine.line_eq names isOther (Option.some.inj same)
  · intro line member name bound
    obtain ⟨lineName, isLine⟩ := lines line member
    obtain rfl := Option.some.inj ((isLine.boundName_eq names).symm.trans bound)
    constructor
    · rw [types]
      intro exported
      obtain ⟨companion, inOrder, same⟩ := List.mem_map.mp exported
      exact (isLine.name_ne names (own companion inOrder)).1 same.symm
    · rw [values]
      intro exported
      obtain ⟨companion, inOrder, same⟩ := List.mem_map.mp exported
      exact (isLine.name_ne names (own companion inOrder)).2 same.symm
  · have valuesOnce := typesOnce.map plugin.library.companionName_injective
    rw [List.map_map] at valuesOnce
    exact valuesOnce

/-- Two aliases that refer to each other and both to an imported type. -/
def crossedModule : Syntax.Module :=
  .read "src/a.ppx.ts" ("import \x7b D as C \x7d from './c.ppx';\n\n/** @ts-ppx(fast-check) */\n" ++
    "export type A = B | C;\n\n/** @ts-ppx(fast-check) */\nexport type B = C | A;\n")

theorem crossedModule_namesTypesApart : crossedModule.NamesTypesApart := by
  obtain ⟨own, imported⟩ : crossedModule.aliasNames = ["A".toList, "B".toList] ∧
      crossedModule.importedNames = [("D".toList, "C".toList)] := by decide +kernel
  refine ⟨?_, ?_, ?_⟩ <;> simp only [Syntax.Module.localNames, own, imported] <;> decide

/-- With the usual settings, the later fragment first. -/
theorem companions_keep_names_apart_crossed :
    ∃ settings pipeline plugin file,
      ({ sourceRoot := .string "src" } : Config).runSettings none = .ok settings ∧
      ofConfig settings = .ok pipeline ∧ pipeline.plugin? "fast-check" = some plugin ∧
      file = Artifact.concat
        ((pipeline.companions crossedModule plugin "src/testing/a.ts").reverse.map (·.2)) ∧
      file.imports.length = 5 ∧
      file.KeepsNamesApart ["B".toList, "A".toList]
        ["arbitraryB".toList, "arbitraryA".toList] := by
  obtain ⟨settings, pipeline, plugin, configured, settled, chosen, once, types, values, imports⟩ :
      ∃ settings pipeline plugin,
        ({ sourceRoot := .string "src" } : Config).runSettings none = .ok settings ∧
        ofConfig settings = .ok pipeline ∧ pipeline.plugin? "fast-check" = some plugin ∧
        (∀ statement ∈ pipeline.marked crossedModule, ((statementRequests crossedModule
          statement).filter (·.request.generator = plugin.name)).length ≤ 1) ∧
        (pipeline.companions crossedModule plugin "src/testing/a.ts").reverse.map (·.1.name) =
          ["B".toList, "A".toList] ∧
        ((pipeline.companions crossedModule plugin "src/testing/a.ts").reverse.map fun companion =>
          plugin.library.dialect.companionName companion.1.name) =
          ["arbitraryB".toList, "arbitraryA".toList] ∧
        (Artifact.concat ((pipeline.companions crossedModule plugin
          "src/testing/a.ts").reverse.map (·.2))).imports.length = 5 :=
    ⟨_, _, _, rfl, rfl, rfl, by decide +kernel⟩
  refine ⟨settings, pipeline, plugin, _, configured, settled, chosen, rfl, imports, ?_⟩
  have apart := companions_keep_names_apart crossedModule_namesTypesApart once
    (List.reverse_perm (pipeline.companions crossedModule plugin "src/testing/a.ts"))
  rw [types, values] at apart
  exact apart

end Pipeline

end Companion
