import Companion.Proofs.Config.Relocation
import Companion.Proofs.Files.Home
import Companion.Proofs.Generator.Contexts
import Companion.Proofs.Run.Requests
import Mathlib.Data.List.Forall2

/-!
# Modules under another directory

What comes of a module when it is put behind a home: the same directives, the same declarations and
the same companions, whose files are put behind the home as well. Nothing but these paths and the
texts of failures is different.
-/

set_option autoImplicit false

namespace Companion

open Failure Companion.Path

/-! ## Directives -/

namespace Directive

theorem ofComment_alike (name comment : Text) {location other : Location}
    (sameLine : location.line = other.line) :
    Alike Eq (ofComment name comment location) (ofComment name comment other) := by
  unfold ofComment
  cases DocComment.body comment with
  | none => exact .ok rfl
  | some body =>
      apply Alike.mapM
      intro tag _
      unfold ofPayload tagLocation
      cases payloadNames tag.payload.collapse with
      | none => exact .error _ _
      | some names =>
          dsimp only
          rw [sameLine]
          exact .ok rfl

end Directive

namespace Syntax.Module

/-- The same module at another path. -/
def movedTo (source : Module) (path : Text) : Module := { source with path := path }

/-- A reader that takes the path over and for which the directories above a module do not matter. -/
structure IgnoresDirectories (reader : Text → Text → Module) : Prop where
  path : ∀ path text, (reader path text).path = path
  moved : ∀ {home : List Text}, home ≠ [] → (∀ name ∈ home, IsName name) → ∀ {path : Text},
    isAbsolute path = false → ∀ text, reader (join (ofNames false home) path) text =
      (reader path text).movedTo (join (ofNames false home) path)

theorem ignoresDirectories_read : IgnoresDirectories read where
  path _ _ := rfl
  moved {home} someHome areHome path relative text := by
    have sameEnding : (join (ofNames false home) path).endsWith ".tsx" =
        path.endsWith ".tsx" := by
      rw [join_home someHome areHome relative, Bool.eq_iff_iff, Text.endsWith, Text.endsWith,
        List.isSuffixOf_iff_suffix, List.isSuffixOf_iff_suffix]
      -- an ending without a slash does not reach back into the home
      constructor
      · intro ends
        rcases List.suffix_or_suffix_of_suffix ends (List.suffix_append _ ('/' :: path)) with
          inside | excess
        · rcases List.suffix_cons_iff.mp inside with whole | inPath
          · exact absurd whole (by simp)
          · exact inPath
        · exact absurd (excess.subset List.mem_cons_self) (by decide)
      · intro ends
        exact ends.trans ((List.suffix_cons '/' path).trans (List.suffix_append _ _))
    unfold read movedTo
    rw [sameEnding]

variable (source : Module) (path : Text)

theorem commentsBefore_movedTo (statement : Statement) :
    (source.movedTo path).commentsBefore statement = source.commentsBefore statement := by
  have chain : ∀ (place : Nat) (found comments : List Comment),
      (source.movedTo path).commentChain place found comments =
        source.commentChain place found comments := by
    intro place found comments
    induction comments generalizing place found with
    | nil => rfl
    | cons comment before ih =>
        rw [commentChain, commentChain, ih]
        rfl
  exact chain _ _ _

theorem directivesOf_alike (name : Text) (statement : Statement) :
    Alike Eq (source.directivesOf name statement)
      ((source.movedTo path).directivesOf name statement) := by
  unfold directivesOf
  rw [commentsBefore_movedTo]
  have each : ∀ comment ∈ source.commentsBefore statement,
      Alike Eq (Directive.ofComment name comment.text ⟨source.path, some comment.line⟩)
        (Directive.ofComment name comment.text ⟨path, some comment.line⟩) :=
    fun comment _ => Directive.ofComment_alike name comment.text rfl
  exact (Alike.mapM each).bind_same fun found => .ok rfl

theorem annotated_alike (name : Text) :
    Alike Eq (source.annotated name) ((source.movedTo path).annotated name) := by
  have each : ∀ statements : List Statement,
      Alike Eq (source.annotatedIn name statements)
        ((source.movedTo path).annotatedIn name statements) := by
    intro statements
    induction statements with
    | nil => exact .ok rfl
    | cons statement rest ih =>
        rw [annotatedIn, annotatedIn]
        exact (directivesOf_alike source path name statement).bind_same fun directives =>
          ih.bind_same fun more => .ok rfl
  exact each source.statements

end Syntax.Module

/-! ## Places of companions -/

/-- Whatever relocation is meant, it leaves files in their directory or moves them below it. -/
def RelocationSettings.StaysBelow (settings : RelocationSettings) : Prop :=
  ∀ relocation, settings.relocation? = some relocation → relocation.StaysBelow

/-- The companions of a module go into its directory or below it. -/
def Plugin.StaysBelow (plugin : Plugin) : Prop :=
  ∃ settings : RelocationSettings, settings.StaysBelow ∧ plugin.companionPath = settings.apply

/-- The path of an entry of a directory, which need not be a name of its own. -/
def Path.IsEntry (path : Text) : Prop := ∃ directories last, directories ≠ [] ∧
  (∀ name ∈ directories, IsName name) ∧ '/' ∉ last ∧ path = ofNames false (directories ++ [last])

theorem Path.IsEntry.isInside {path : Text} (entry : IsEntry path) : IsInside path := by
  obtain ⟨directories, last, some, areDirectories, clean, rfl⟩ := entry
  exact exists_leadsTo_ofNames some areDirectories clean

section Home

variable {home : List Text} (someHome : home ≠ []) (areHome : ∀ name ∈ home, IsName name)

include someHome areHome

theorem Plugin.StaysBelow.companionPath_alike {plugin : Plugin} (stays : plugin.StaysBelow)
    {path : Text} (nested : IsNested path) :
    Alike (fun target moved => moved = join (ofNames false home) target ∧ IsEntry target)
      (plugin.companionPath path) (plugin.companionPath (join (ofNames false home) path)) := by
  obtain ⟨settings, below, places⟩ := stays
  obtain ⟨directories, file, some, areNames, rfl⟩ := nested
  obtain ⟨areDirectories, areFile⟩ := List.forall_mem_append.mp areNames
  have isFile : IsName file := areFile file List.mem_cons_self
  rw [places]
  unfold RelocationSettings.apply
  cases meant : settings.relocation? with
  | none => exact .error _ _
  | some relocation =>
      obtain ⟨moved, areMoved, applies⟩ := (below relocation meant).exists_apply
      obtain ⟨clean, target⟩ := applies directories file some areDirectories isFile.2.2.2
      obtain ⟨-, movedTarget⟩ := applies (home ++ directories) file (by simp [some])
        (List.forall_mem_append.mpr ⟨areHome, areDirectories⟩) isFile.2.2.2
      have areTargets : ∀ name ∈ directories ++ moved, IsName name :=
        List.forall_mem_append.mpr ⟨areDirectories, areMoved⟩
      refine .ok ⟨?_, directories ++ moved, _, by simp [some], areTargets, clean, target⟩
      rw [join_home_concat someHome areHome some areDirectories, movedTarget, target,
        join_home_concat someHome areHome (by simp [some]) areTargets, ← List.append_assoc home]

theorem relativeImport_moved {path target : Text} (nested : IsNested path) (entry : IsEntry target)
    (working : Text) :
    Specifier.relativeImport working path target = Specifier.relativeImport working
      (join (ofNames false home) path) (join (ofNames false home) target) := by
  obtain ⟨names, module, someNames, areNames, rfl⟩ := nested
  obtain ⟨directories, file, some, areDirectories, clean, rfl⟩ := entry
  obtain ⟨areDirectoryNames, -⟩ := List.forall_mem_append.mp areNames
  rw [join_home_concat someHome areHome someNames areDirectoryNames,
    join_home_concat someHome areHome some areDirectories, List.append_assoc, List.append_assoc,
    relativeImport_home areHome areNames some areDirectories clean working]

end Home

/-! ## Events -/

/-- The same event behind a home: its paths are put there, and its failure may be another one. -/
inductive Event.IsMovedTo (home : List Text) : Event → Event → Prop where
  | scanning (path : Text) :
      IsMovedTo home (.scanning path) (.scanning (join (ofNames false home) path))
  | generating (generator declaration target : Text) :
      IsMovedTo home (.generating generator declaration target)
        (.generating generator declaration (join (ofNames false home) target))
  | produced {target : Text} (inside : IsInside target) (fragment : Artifact) :
      IsMovedTo home (.produced target fragment)
        (.produced (join (ofNames false home) target) fragment)
  | failed (failure other : Failure) : IsMovedTo home (.failed failure) (.failed other)

/-- The same request, for the declaration elsewhere. -/
structure Request.IsMovedTo (request other : Request) : Prop where
  declaration : request.declaration.IsMovedTo other.declaration
  generator : other.generator = request.generator

theorem Declaration.IsMovedTo.requests {declaration moved : Declaration}
    (isMoved : declaration.IsMovedTo moved) :
    List.Forall₂ Request.IsMovedTo declaration.requests moved.requests := by
  obtain ⟨location, rfl⟩ := isMoved
  refine List.rel_flatMap (List.forall₂_same.mpr fun directive _ => rfl) ?_
  rintro directive _ rfl
  rw [List.forall₂_map_left_iff, List.forall₂_map_right_iff]
  exact List.forall₂_same.mpr fun name _ => ⟨⟨location, rfl⟩, rfl⟩

namespace Pipeline

variable {pipeline : Pipeline} {home : List Text} (someHome : home ≠ [])
  (areHome : ∀ name ∈ home, IsName name) (stays : ∀ plugin ∈ pipeline.plugins, plugin.StaysBelow)
  {source : Syntax.Module} (nested : IsNested source.path)

theorem context_alike (pipeline : Pipeline) (source : Syntax.Module) (path : Text)
    (plugin : Plugin) (target other : Text) :
    (pipeline.context source plugin target).Alike
      (pipeline.context (source.movedTo path) plugin other) where
  binding name origin := by
    cases origin with
    | some origin => exact .ok rfl
    | none => exact Imports.find_alike source.path path name source.imports
  specifier _ := Alike.refl _

include someHome areHome stays nested

/-- A request ends in the same companion, or in a failure both times. -/
theorem requestEvents_moved {request other : Request} (isMoved : request.IsMovedTo other) :
    List.Forall₂ (Event.IsMovedTo home) (pipeline.requestEvents source request)
      (pipeline.requestEvents (source.movedTo (join (ofNames false home) source.path)) other) := by
  obtain ⟨declared, generator⟩ := isMoved
  have sameName : other.declaration.name = request.declaration.name := by
    obtain ⟨location, shape⟩ := declared
    rw [shape]
  unfold requestEvents
  rw [generator]
  cases registered : pipeline.plugin? request.generator with
  | none => exact .cons (.failed _ _) .nil
  | some plugin =>
      dsimp only
      have places : Alike (fun target moved =>
          moved = join (ofNames false home) target ∧ IsEntry target)
          (plugin.companionPath source.path)
          (plugin.companionPath (source.movedTo (join (ofNames false home) source.path)).path) :=
        (stays plugin (List.mem_of_find?_eq_some registered)).companionPath_alike
          someHome areHome nested
      rcases places.outcomes with ⟨failure, other, failed, movedFailed⟩ |
        ⟨target, _, ⟨rfl, entry⟩, placed, movedPlaced⟩
      · rw [failed, movedFailed]
        exact .cons (.failed _ _) .nil
      · rw [placed, movedPlaced]
        dsimp only
        have generated : Alike Eq
            (plugin.generate (pipeline.context source plugin target) request.declaration)
            (plugin.generate (pipeline.context
              (source.movedTo (join (ofNames false home) source.path)) plugin
              (join (ofNames false home) target)) other.declaration) :=
          Plugin.generate_alike (context_alike pipeline source _ plugin target _)
            (relativeImport_moved someHome areHome nested entry pipeline.working) declared
        -- no two paths meet behind the home, so both requests overwrite their module or neither does
        by_cases same : target = source.path
        · have movedSame : join (ofNames false home) target =
              (source.movedTo (join (ofNames false home) source.path)).path := congrArg _ same
          rw [if_pos same, if_pos movedSame]
          exact .cons (.failed _ _) .nil
        · have movedApart : join (ofNames false home) target ≠
              (source.movedTo (join (ofNames false home) source.path)).path :=
            fun moved => same (join_home_injective someHome areHome moved)
          rw [if_neg same, if_neg movedApart, sameName]
          refine .cons (.generating _ _ _) ?_
          rcases generated.outcomes with ⟨failure, otherFailure, failed, movedFailed⟩ |
            ⟨fragment, _, rfl, companion, movedCompanion⟩
          · rw [failed, movedFailed]
            exact .cons (.failed _ _) .nil
          · rw [companion, movedCompanion]
            exact .cons (.produced entry.isInside _) .nil

theorem statementEvents_moved (statement : MarkedStatement) :
    List.Forall₂ (Event.IsMovedTo home) (pipeline.statementEvents source statement)
      (pipeline.statementEvents (source.movedTo (join (ofNames false home) source.path))
        statement) := by
  have declares : Alike Declaration.IsMovedTo (declared source statement)
      (declared (source.movedTo (join (ofNames false home) source.path)) statement) :=
    Declaration.ofStatement_alike (TypeExpr.scope_ofImports_alike _ _ source.imports) statement
  unfold statementEvents
  rw [← declared, ← declared]
  rcases declares.outcomes with ⟨failure, other, failed, movedFailed⟩ |
    ⟨declaration, other, isMoved, found, movedFound⟩
  · rw [failed, movedFailed]
    exact .cons (.failed _ _) .nil
  · rw [found, movedFound]
    exact List.rel_flatMap isMoved.requests fun request other isMovedRequest =>
      requestEvents_moved someHome areHome stays nested isMovedRequest

theorem moduleEvents_moved :
    List.Forall₂ (Event.IsMovedTo home) (pipeline.moduleEvents source)
      (pipeline.moduleEvents (source.movedTo (join (ofNames false home) source.path))) := by
  have scanned : Alike Eq (pipeline.annotated source)
      (pipeline.annotated (source.movedTo (join (ofNames false home) source.path))) := by
    unfold annotated
    cases pipeline.tag with
    | none => exact .ok rfl
    | some tag => exact Syntax.Module.annotated_alike source _ tag
  unfold moduleEvents
  rcases scanned.outcomes with ⟨failure, other, failed, movedFailed⟩ |
    ⟨statements, _, rfl, found, movedFound⟩
  · rw [failed, movedFailed]
    exact .cons (.failed _ _) .nil
  · rw [found, movedFound]
    refine List.rel_flatMap (List.forall₂_same.mpr fun statement _ => rfl) ?_
    intro statement other same
    subst same
    exact statementEvents_moved someHome areHome stays nested statement

end Pipeline

end Companion
