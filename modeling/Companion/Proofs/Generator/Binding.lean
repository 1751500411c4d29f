import Companion.Proofs.Generator.Reference
import Companion.Proofs.Imports
import Companion.Proofs.TypeExpr.Elaboration
import Companion.Proofs.TypeExpr.Leaves
import Companion.Run.Generation

/-!
# Binding references

References are bound twice: when a type is elaborated, and again when it is expressed, unless the first
binding is kept. Both bindings agree, so it does not matter which of them a generator goes by; and no
type that can be elaborated is left unexpressed.
-/

set_option autoImplicit false

namespace Companion

open Syntax

namespace TypeExpr

variable {reference : Text × Option ImportedName} {line : Option Int}

theorem mem_references_object {properties : List (Property TypeExpr)} :
    reference ∈ (TypeExpr.object properties line).references ↔
      ∃ property ∈ properties, reference ∈ property.type.references := by
  simp [references]

theorem mem_references_union {members : List TypeExpr} :
    reference ∈ (TypeExpr.union members line).references ↔
      ∃ member ∈ members, reference ∈ member.references := by
  simp [references]

/-- No part of a type is unclassified. -/
def IsClassified (type : TypeExpr) : Prop := ∀ line, .unclassified line ∉ type.leaves

theorem isClassified_object {properties : List (Property TypeExpr)} :
    IsClassified (.object properties line) ↔
      ∀ property ∈ properties, property.type.IsClassified := by
  simp only [IsClassified, leaves, collect_object, List.nil_append, List.mem_flatMap, not_exists,
    not_and]
  exact ⟨fun holds property member line => holds line property member,
    fun holds line property member => holds property member line⟩

theorem isClassified_flatMap {members : List TypeExpr} :
    (∀ line, .unclassified line ∉ members.flatMap leaves) ↔
      ∀ member ∈ members, member.IsClassified := by
  simp only [List.mem_flatMap, not_exists, not_and]
  exact ⟨fun holds member isMember line => holds line member isMember,
    fun holds line member isMember => holds member isMember line⟩

theorem isClassified_union {members : List TypeExpr} :
    IsClassified (.union members line) ↔ ∀ member ∈ members, member.IsClassified := by
  rw [← isClassified_flatMap, IsClassified, leaves, collect_union]

theorem isClassified_ofMembers {members : List TypeExpr} {line : Int} :
    IsClassified (ofMembers line members) ↔ ∀ member ∈ members, member.IsClassified := by
  rw [← isClassified_flatMap, IsClassified, leaves, collect_ofMembers]

variable {scope : Scope} {node : Node} {type : TypeExpr}

private theorem isClassified_of_leaves_eq (leaves : type.leaves = [type])
    (other : ∀ line, type ≠ .unclassified line) : type.IsClassified := by
  intro line member
  rw [leaves] at member
  exact other line (List.mem_singleton.mp member).symm

private theorem isClassified_of_elaborateName_eq_ok
    (elaborated : elaborateName scope node = .ok type) : type.IsClassified := by
  cases elaborateName_eq_ok_cases elaborated with
  | inl isKeyword =>
      obtain ⟨kind, -, rfl⟩ := isKeyword
      exact isClassified_of_leaves_eq rfl fun line => TypeExpr.noConfusion
  | inr isName =>
      obtain ⟨origin, -, -, -, rfl⟩ := isName
      exact isClassified_of_leaves_eq rfl fun line => TypeExpr.noConfusion

private theorem isClassified_of_elaborateLiteral_eq_ok
    (elaborated : elaborateLiteral scope node = .ok type) : type.IsClassified := by
  cases elaborateLiteral_eq_ok_cases elaborated with
  | inl isUndefined =>
      obtain ⟨line, rfl⟩ := isUndefined
      exact isClassified_of_leaves_eq rfl fun line => TypeExpr.noConfusion
  | inr isLiteral =>
      obtain ⟨form, raw, line, rfl⟩ := isLiteral
      exact isClassified_of_leaves_eq rfl fun line => TypeExpr.noConfusion

/-- What is elaborated is classified. -/
theorem isClassified_of_elaborate_eq_ok (elaborated : elaborate scope node = .ok type) :
    type.IsClassified := by
  refine elaborate_induction (motive := fun _ type => type.IsClassified) ?name ?literal ?object ?union
    ?wrapper elaborated
  case name => exact fun node type _ elaborated => isClassified_of_elaborateName_eq_ok elaborated
  case literal => exact fun node type _ elaborated => isClassified_of_elaborateLiteral_eq_ok elaborated
  case object =>
    intro node properties _ members
    refine isClassified_object.mpr (Failure.forall_of_forall₂ ?_ members)
    intro member property reads
    obtain ⟨inner, -, classified⟩ := reads.typed
    exact classified
  case union =>
    intro node types _ members
    exact isClassified_ofMembers.mpr (Failure.forall_of_forall₂ (fun _ _ classified => classified) members)
  case wrapper => exact fun node inner type _ classified => classified

end TypeExpr

/-! ## Expressing -/

namespace Dialect

variable {dialect : Dialect} {context other : CompanionContext}

theorem expressMembers_eq (dialect : Dialect) (context : CompanionContext) (members : List TypeExpr) :
    dialect.expressMembers context members = members.mapM (dialect.express context) := by
  induction members with
  | nil => rfl
  | cons member rest ih =>
      rw [expressMembers, List.mapM_cons, ih]

theorem expressProperties_eq (dialect : Dialect) (context : CompanionContext)
    (properties : List (Property TypeExpr)) :
    dialect.expressProperties context properties =
      properties.mapM (dialect.expressProperty context) := by
  induction properties with
  | nil => rfl
  | cons property rest ih =>
      rw [expressProperties, List.mapM_cons, ih]

/-- A type is expressed in the same way wherever its references are, whatever becomes of its origins. -/
theorem express_mapMarks {onOrigin : Option ImportedName → Option ImportedName}
    (sourceFile : context.sourceFile = other.sourceFile) {type : TypeExpr}
    (same : ∀ reference ∈ type.references, dialect.reference context reference.1 reference.2 =
      dialect.reference other reference.1 (onOrigin reference.2)) :
    dialect.express context type = dialect.express other (type.mapMarks id onOrigin) := by
  induction type with
  | primitive kind line => rfl
  | literal kind raw line => rfl
  | object properties line ih =>
      have each : ∀ property ∈ properties, dialect.expressProperty context property =
          dialect.expressProperty other
            { property with type := property.type.mapMarks id onOrigin } := by
        intro property member
        obtain ⟨name, type, optional, quoted⟩ := property
        rw [expressProperty, expressProperty, ih _ member]
        · rfl
        · intro reference isReference
          exact same reference (TypeExpr.mem_references_object.mpr ⟨_, member, isReference⟩)
      rw [TypeExpr.mapMarks_object, express, express, expressProperties_eq, expressProperties_eq,
        List.mapM_map, Failure.mapM_congr each]
      rfl
  | union members line ih =>
      have each : ∀ member ∈ members, dialect.express context member =
          dialect.express other (member.mapMarks id onOrigin) := by
        intro member isMember
        refine ih member isMember fun reference isReference => same reference ?_
        exact TypeExpr.mem_references_union.mpr ⟨member, isMember, isReference⟩
      rw [TypeExpr.mapMarks_union, express, express, expressMembers_eq, expressMembers_eq,
        List.mapM_map, Failure.mapM_congr each]
      rfl
  | reference name origin line => exact same (name, origin) List.mem_cons_self
  | unclassified line => simp only [express, TypeExpr.mapMarks, sourceFile, id]

theorem exists_express_eq_ok {type : TypeExpr} (classified : type.IsClassified)
    (bound : ∀ reference ∈ type.references,
      ∃ part, dialect.reference context reference.1 reference.2 = .ok part) :
    ∃ expression, dialect.express context type = .ok expression := by
  induction type with
  | primitive kind line => exact ⟨_, rfl⟩
  | literal kind raw line => exact ⟨_, rfl⟩
  | object properties line ih =>
      have each : ∀ property ∈ properties,
          ∃ line, dialect.expressProperty context property = .ok line := by
        intro property member
        obtain ⟨name, type, optional, quoted⟩ := property
        have inside := TypeExpr.isClassified_object.mp classified _ member
        obtain ⟨value, expressed⟩ := ih _ member inside fun reference isReference =>
          bound reference (TypeExpr.mem_references_object.mpr ⟨_, member, isReference⟩)
        rw [expressProperty, expressed]
        exact ⟨_, rfl⟩
      obtain ⟨lines, expressed⟩ := Failure.exists_mapM_eq_ok each
      rw [express, expressProperties_eq, expressed]
      exact ⟨_, rfl⟩
  | union members line ih =>
      have each : ∀ member ∈ members, ∃ part, dialect.express context member = .ok part := by
        intro member isMember
        have inside := TypeExpr.isClassified_union.mp classified member isMember
        exact ih member isMember inside fun reference isReference =>
          bound reference (TypeExpr.mem_references_union.mpr ⟨member, isMember, isReference⟩)
      obtain ⟨parts, expressed⟩ := Failure.exists_mapM_eq_ok each
      rw [express, expressMembers_eq, expressed]
      exact ⟨_, rfl⟩
  | reference name origin line => exact bound (name, origin) List.mem_cons_self
  | unclassified line => exact absurd List.mem_cons_self (classified line)

section References

variable {name : Text} {origin otherOrigin found : Option ImportedName}

theorem reference_congr (bound : context.binding name origin = other.binding name otherOrigin)
    (specifiers : context.companionSpecifier = other.companionSpecifier) :
    dialect.reference context name origin = dialect.reference other name otherOrigin := by
  unfold reference
  rw [bound, specifiers]

theorem exists_reference_eq_ok (bound : context.binding name origin = .ok found)
    (maps : ∀ specifier, ∃ mapped, context.companionSpecifier specifier = .ok mapped) :
    ∃ part, dialect.reference context name origin = .ok part := by
  unfold reference
  rw [bound]
  cases found with
  | none => exact ⟨_, rfl⟩
  | some binding =>
      obtain ⟨specifier, mapped⟩ := maps binding.specifier
      exact ⟨⟨dialect.companionName name ++ dialect.call,
        [⟨dialect.companionName binding.imported, dialect.companionName binding.localName,
          specifier⟩]⟩, by simp [bind, Except.bind, pure, Except.pure, mapped]⟩

end References

end Dialect

namespace CompanionContext

variable (context : CompanionContext) {name : Text} {origin : Option ImportedName}

/-- A reference that carries what its name is found to be is bound to just that. -/
theorem binding_of_find {find : Text → Except Failure (Option ImportedName)}
    (found : find name = .ok origin) :
    { context with find := some find }.binding name origin = .ok origin := by
  cases origin with
  | none => exact found
  | some binding => rfl

theorem binding_without_find : { context with find := none }.binding name origin = .ok origin := by
  cases origin with
  | none => rfl
  | some binding => rfl

end CompanionContext

/-- A plugin maps the specifier of every module. -/
def Plugin.MapsSpecifiers (plugin : Plugin) : Prop :=
  ∀ specifier, ∃ mapped, plugin.companionSpecifier specifier = .ok mapped

namespace GeneratorSettings

/-- A configured plugin maps specifiers if the relocation it was given is one. -/
theorem mapsSpecifiers_of_relocation? {settings : GeneratorSettings} {plugin : Plugin}
    {relocation : Relocation} (configured : settings.plugin = .ok plugin)
    (isRelocation : settings.specifierRelocation.relocation? = some relocation) :
    plugin.MapsSpecifiers := by
  intro specifier
  rw [(plugin_maps configured).2, RelocationSettings.apply, isRelocation]
  exact ⟨_, rfl⟩

/-- The usual plugins can be configured and map specifiers. -/
theorem exists_plugin_of_mem_defaults {settings : GeneratorSettings} (usual : settings ∈ defaults) :
    ∃ plugin, settings.plugin = .ok plugin ∧ plugin.MapsSpecifiers := by
  obtain ⟨⟨plugin, configured⟩, relocation, isRelocation⟩ :
      (∃ plugin, settings.plugin = .ok plugin) ∧
        ∃ relocation, settings.specifierRelocation.relocation? = some relocation := by
    simp only [defaults, List.mem_cons, List.not_mem_nil, or_false] at usual
    cases usual with
    | inl same => exact same ▸ ⟨⟨_, rfl⟩, _, rfl⟩
    | inr same => exact same ▸ ⟨⟨_, rfl⟩, _, rfl⟩
  exact ⟨plugin, configured, mapsSpecifiers_of_relocation? configured isRelocation⟩

end GeneratorSettings

namespace Plugin

/-- What a plugin makes of a type in a module when names are looked up in a given way, if at all. -/
def expression (plugin : Plugin) (pipeline : Pipeline) (source : Syntax.Module) (target : Text)
    (find : Option (Text → Except Failure (Option ImportedName))) (type : TypeExpr) :
    Except Failure Code :=
  plugin.library.dialect.express { pipeline.context source plugin target with find := find } type

variable {pipeline : Pipeline} {source : Syntax.Module} {scope : TypeExpr.Scope} {type : TypeExpr}

/-- Origins may be erased as long as names can be looked up. -/
theorem expression_withoutOrigins (plugin : Plugin) (target : Text)
    (resolved : type.IsResolved scope) :
    plugin.expression pipeline source target (some scope.find) type.withoutOrigins =
      plugin.expression pipeline source target (some scope.find) type := by
  refine (Dialect.express_mapMarks rfl fun reference isReference => ?_).symm
  have found := resolved reference isReference
  exact Dialect.reference_congr ((CompanionContext.binding_of_find _ found).trans found.symm) rfl

/-- Names need not be looked up as long as references keep their origins. -/
theorem expression_none (plugin : Plugin) (target : Text) (resolved : type.IsResolved scope) :
    plugin.expression pipeline source target none type =
      plugin.expression pipeline source target (some scope.find) type := by
  have same : plugin.expression pipeline source target none type =
      plugin.expression pipeline source target (some scope.find) (type.mapMarks id id) := by
    refine Dialect.express_mapMarks ?_ fun reference isReference => ?_
    · rfl
    have found := resolved reference isReference
    refine Dialect.reference_congr ?_ rfl
    rw [CompanionContext.binding_without_find, id, CompanionContext.binding_of_find _ found]
  rw [same, TypeExpr.mapMarks_id]

theorem exists_expression_eq_ok {plugin : Plugin} (maps : plugin.MapsSpecifiers) (target : Text)
    (classified : type.IsClassified) (resolved : type.IsResolved scope) :
    ∃ expression,
      plugin.expression pipeline source target (some scope.find) type = .ok expression := by
  refine Dialect.exists_express_eq_ok classified fun reference isReference => ?_
  have found := resolved reference isReference
  exact Dialect.exists_reference_eq_ok (CompanionContext.binding_of_find _ found) maps

open Imports.Resolver in
/-- Every type that can be elaborated against the imports of its module is expressed by both usual
plugins, and in one and the same way, code and imports: with origins and resolver, by the origins
alone, and by the resolver alone. What the resolver was asked before does not matter. A plugin that is
configured otherwise fails in all three ways alike, and only if there are specifiers it does not map. -/
theorem exists_expression_of_elaborate_eq_ok {asked : List Text} {node : Node}
    (elaborated : TypeExpr.elaborate ((ofModule source).after asked).scope node = .ok type)
    (pipeline : Pipeline) (target : Text) (askedLater : List Text) :
    let find := some ((ofModule source).after askedLater).answer
    (∀ settings ∈ GeneratorSettings.defaults, ∃ plugin expression, settings.plugin = .ok plugin ∧
      plugin.expression pipeline source target find type = .ok expression ∧
      plugin.expression pipeline source target none type = .ok expression ∧
      plugin.expression pipeline source target find type.withoutOrigins = .ok expression) ∧
    ∀ plugin : Plugin,
      plugin.expression pipeline source target none type =
        plugin.expression pipeline source target find type ∧
      plugin.expression pipeline source target find type.withoutOrigins =
        plugin.expression pipeline source target find type ∧
      (plugin.MapsSpecifiers →
        ∃ expression, plugin.expression pipeline source target find type = .ok expression) := by
  -- what either resolver remembers makes no difference to its answers
  rw [scope_after_ofModule] at elaborated
  rw [answer_after_ofModule]
  have resolved := TypeExpr.isResolved_of_elaborate_eq_ok elaborated
  have classified := TypeExpr.isClassified_of_elaborate_eq_ok elaborated
  refine ⟨fun settings usual => ?_, fun plugin => ⟨expression_none plugin target resolved,
    expression_withoutOrigins plugin target resolved,
    fun maps => exists_expression_eq_ok maps target classified resolved⟩⟩
  obtain ⟨plugin, configured, maps⟩ := GeneratorSettings.exists_plugin_of_mem_defaults usual
  obtain ⟨expression, expressed⟩ := exists_expression_eq_ok maps target classified resolved
  exact ⟨plugin, expression, configured, expressed,
    (expression_none plugin target resolved).trans expressed,
    (expression_withoutOrigins plugin target resolved).trans expressed⟩

/-- A module with an imported name, a local one and a name that is imported under another one. -/
def importingModule : Syntax.Module :=
  .read "src/a.ppx.ts" ("import \x7b B, E as C \x7d from './b.ppx';\n" ++
    "type A = \x7b b?: B; c: C | D \x7d;\n")

def importingPipeline : Pipeline := { root := .path "src", working := "/work" }

def importingType : Node :=
  ((importingModule.statements.drop 1).head?.bind fun statement =>
    statement.declaration.child? .value).getD default

open Imports.Resolver in
theorem exists_expression_importingType :
    ∃ type, TypeExpr.elaborate ((ofModule importingModule).after ["D".toList]).scope importingType =
        .ok type ∧
      type.references = [("B".toList, some ⟨"B", "B", "./b.ppx"⟩),
        ("C".toList, some ⟨"C", "E", "./b.ppx"⟩), ("D".toList, none)] ∧
      ∀ settings ∈ GeneratorSettings.defaults, ∃ plugin expression, settings.plugin = .ok plugin ∧
        plugin.expression importingPipeline importingModule "src/a.ts"
          (some (ofModule importingModule).answer) type = .ok expression ∧
        plugin.expression importingPipeline importingModule "src/a.ts" none type =
          .ok expression ∧
        plugin.expression importingPipeline importingModule "src/a.ts"
          (some (ofModule importingModule).answer) type.withoutOrigins = .ok expression := by
  have built : (TypeExpr.elaborate ((ofModule importingModule).after ["D".toList]).scope
      importingType).toOption.map TypeExpr.references =
        some [("B".toList, some ⟨"B", "B", "./b.ppx"⟩),
          ("C".toList, some ⟨"C", "E", "./b.ppx"⟩), ("D".toList, none)] := by
    decide +kernel
  obtain ⟨type, found, references⟩ := Option.map_eq_some_iff.mp built
  have elaborated := Failure.toOption_eq_some_iff.mp found
  exact ⟨type, elaborated, references,
    (exists_expression_of_elaborate_eq_ok elaborated importingPipeline "src/a.ts" []).1⟩

end Plugin

end Companion
