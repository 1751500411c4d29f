import Companion.Proofs.Run.Requests

/-! Generating meets the requests of a run in order. The events of a run are followed level by level
- request, statement, module, path, all paths - beside the steps and the requests of that level; one
relation is kept at every level and put together by its laws for lists. -/

set_option autoImplicit false

namespace Companion

namespace Event

/-- The failure that an event reports. -/
def failure? : Event → Option Failure
  | failed failure => some failure
  | _ => none

/-- The fragment that an event brings, with its file. -/
def placement? : Event → Option FileSet.Placement
  | produced target fragment => some (target, fragment)
  | _ => none

/-- Collecting ends in the first failure, or has added all fragments in order. -/
theorem collect_eq (files : FileSet) (events : List Event) :
    collect files events =
      match events.findSome? failure? with
      | some failure => .error failure
      | none => .ok ((events.filterMap placement?).foldl
          (fun files placement => files.add placement.1 placement.2) files) := by
  induction events generalizing files with
  | nil => rfl
  | cons event rest ih =>
      cases event with
      | scanning path => exact ih files
      | generating generator declaration target => exact ih files
      | produced target fragment => exact ih (files.add target fragment)
      | failed failure => rfl

end Event

namespace Pipeline

variable {σ : Type} [FileStore σ]

/-- Events tell of steps and requests: they report the failure of the first step that fails, and
when no step does, the fragments that they bring are the companions of the requests, in order. -/
structure TellsOf (pipeline : Pipeline) (store : σ) (events : List Event) (steps : List Step)
    (requests : List ModuleRequest) : Prop where
  failure : events.findSome? Event.failure? = steps.findSome? (·.failure? pipeline store)
  fragments : steps.findSome? (·.failure? pipeline store) = none →
    ∃ fulfilled : List (Fulfilment pipeline),
      fulfilled.map (·.toModuleRequest) = requests ∧
        events.filterMap Event.placement? = fulfilled.map (·.placement)

namespace TellsOf

variable {pipeline : Pipeline} {store : σ}

theorem nil : TellsOf pipeline store [] [] [] := ⟨rfl, fun _ => ⟨[], rfl, rfl⟩⟩

/-- A failure is told of by the step that fails, whatever would have come next. -/
theorem failed {failure : Failure} {step : Step} {rest : List Step} {requests : List ModuleRequest}
    (fails : step.failure? pipeline store = some failure) :
    TellsOf pipeline store [.failed failure] (step :: rest) requests := by
  constructor
  · simp [List.findSome?_cons, Event.failure?, fails]
  · intro success
    simp [fails] at success

/-- The one fragment of a request that is met. -/
theorem produced (met : Fulfilment pipeline) :
    TellsOf pipeline store [.produced met.target (met.plugin.fragment met.request.declaration
      met.expression met.specifier)] [] [met.toModuleRequest] :=
  ⟨rfl, fun _ => ⟨[met], rfl, rfl⟩⟩

/-- Events that only say what is going on tell of nothing. -/
theorem remark {event : Event} {events : List Event} {steps : List Step}
    {requests : List ModuleRequest} (noFailure : event.failure? = none)
    (noFragment : event.placement? = none) (rest : TellsOf pipeline store events steps requests) :
    TellsOf pipeline store (event :: events) steps requests := by
  obtain ⟨failure, fragments⟩ := rest
  constructor
  · rw [List.findSome?_cons, noFailure, failure]
  · rwa [List.filterMap_cons_none noFragment]

/-- Steps that succeed and bring nothing need not be told of. -/
theorem skip {step : Step} {events : List Event} {steps : List Step}
    {requests : List ModuleRequest} (passes : step.failure? pipeline store = none)
    (rest : TellsOf pipeline store events steps requests) :
    TellsOf pipeline store events (step :: steps) requests := by
  obtain ⟨failure, fragments⟩ := rest
  constructor
  · rw [List.findSome?_cons, passes, failure]
  · intro success
    rw [List.findSome?_cons, passes] at success
    exact fragments success

theorem append {leftEvents rightEvents : List Event} {leftSteps rightSteps : List Step}
    {leftRequests rightRequests : List ModuleRequest}
    (left : TellsOf pipeline store leftEvents leftSteps leftRequests)
    (right : TellsOf pipeline store rightEvents rightSteps rightRequests) :
    TellsOf pipeline store (leftEvents ++ rightEvents) (leftSteps ++ rightSteps)
      (leftRequests ++ rightRequests) := by
  constructor
  · rw [List.findSome?_append, List.findSome?_append, left.failure, right.failure]
  · intro success
    rw [List.findSome?_append, Option.or_eq_none_iff] at success
    obtain ⟨leftMet, leftSame, leftFragments⟩ := left.fragments success.1
    obtain ⟨rightMet, rightSame, rightFragments⟩ := right.fragments success.2
    exact ⟨leftMet ++ rightMet, by simp [leftSame, rightSame],
      by simp [leftFragments, rightFragments]⟩

theorem flatMap {α : Type} (items : List α) {events : α → List Event} {steps : α → List Step}
    {requests : α → List ModuleRequest}
    (each : ∀ item ∈ items, TellsOf pipeline store (events item) (steps item) (requests item)) :
    TellsOf pipeline store (items.flatMap events) (items.flatMap steps)
      (items.flatMap requests) := by
  induction items with
  | nil => exact nil
  | cons item rest ih =>
      exact (each item List.mem_cons_self).append
        (ih fun other member => each other (List.mem_cons_of_mem _ member))

end TellsOf

variable (pipeline : Pipeline) (store : σ) (source : Syntax.Module)

theorem requestEvents_tellsOf (request : Request) :
    TellsOf pipeline store (pipeline.requestEvents source request)
      (pipeline.requestSteps source request) [⟨source, request⟩] := by
  unfold requestEvents requestSteps
  cases registered : pipeline.plugin? request.generator with
  | none =>
      apply TellsOf.failed
      simp [Step.failure?, registered]
  | some plugin =>
      apply TellsOf.skip (by simp [Step.failure?, registered])
      dsimp only
      cases placed : plugin.companionPath source.path with
      | error failure =>
          apply TellsOf.failed
          simp [Step.failure?, placed]
      | ok target =>
          dsimp only
          split
          · next same =>
              apply TellsOf.failed
              simp [Step.failure?, placed, same]
          · next apart =>
              apply TellsOf.skip (by simp [Step.failure?, placed, apart])
              apply TellsOf.remark rfl rfl
              cases generated :
                  plugin.generate (pipeline.context source plugin target) request.declaration with
              | error failure =>
                  apply TellsOf.failed
                  simp [Step.failure?, generated]
              | ok fragment =>
                  apply TellsOf.skip (by simp [Step.failure?, generated])
                  obtain ⟨isAlias, type, expression, specifier, typed, expressed, imported, rfl⟩ :=
                    Plugin.generate_eq_ok_iff.mp generated
                  exact TellsOf.produced
                    { source, request, plugin, target, type, expression, specifier, registered,
                      placed, apart, isAlias, typed, expressed, imported }

theorem statementEvents_tellsOf (statement : MarkedStatement) :
    TellsOf pipeline store (pipeline.statementEvents source statement)
      (pipeline.statementSteps source statement) (statementRequests source statement) := by
  unfold statementEvents statementSteps statementRequests
  rw [← declared]
  cases declaring : declared source statement with
  | error failure =>
      apply TellsOf.failed
      simp [Step.failure?, declaring]
  | ok declaration =>
      apply TellsOf.skip (by simp [Step.failure?, declaring])
      dsimp only
      rw [List.map_eq_flatMap]
      exact TellsOf.flatMap _ fun request _ => requestEvents_tellsOf pipeline store source request

/-- Reading the comments in front of a statement, one after the other. -/
private theorem directivesOf_eq {tag : Text} (tagged : pipeline.tag = some tag)
    (statement : Syntax.Statement) :
    source.directivesOf tag statement =
      match (source.commentsBefore statement).findSome? fun comment =>
        Failure.of? (pipeline.directivesIn source comment) with
      | some failure => .error failure
      | none => .ok (pipeline.directivesBefore source statement) := by
  have each : ∀ comment : Syntax.Comment,
      Directive.ofComment tag comment.text ⟨source.path, some comment.line⟩ =
        pipeline.directivesIn source comment := by
    intro comment
    simp [directivesIn, tagged]
  simp only [Syntax.Module.directivesOf, each]
  cases first : (source.commentsBefore statement).findSome? fun comment =>
      Failure.of? (pipeline.directivesIn source comment) with
  | some failure =>
      rw [← Failure.of?_mapM, Failure.of?_eq_some_iff] at first
      rw [first]
      rfl
  | none =>
      rw [Failure.mapM_eq_ok [] first]
      simp [bind, Except.bind, pure, Except.pure, directivesBefore, List.flatMap_def]

/-- Reading the comments in front of all statements of a list. -/
private theorem annotatedIn_eq {tag : Text} (tagged : pipeline.tag = some tag)
    (statements : List Syntax.Statement) :
    source.annotatedIn tag statements =
      match (statements.flatMap source.commentsBefore).findSome? fun comment =>
        Failure.of? (pipeline.directivesIn source comment) with
      | some failure => .error failure
      | none => .ok (statements.filterMap fun statement =>
          if (pipeline.directivesBefore source statement).isEmpty then none
          else some ⟨statement, pipeline.directivesBefore source statement⟩) := by
  induction statements with
  | nil => rfl
  | cons statement rest ih =>
      simp only [Syntax.Module.annotatedIn, directivesOf_eq pipeline source tagged, ih,
        List.flatMap_cons, List.findSome?_append, List.filterMap_cons]
      cases (source.commentsBefore statement).findSome? fun comment =>
          Failure.of? (pipeline.directivesIn source comment) with
      | some failure => rfl
      | none =>
          cases (rest.flatMap source.commentsBefore).findSome? fun comment =>
              Failure.of? (pipeline.directivesIn source comment) with
          | some failure => rfl
          | none =>
              by_cases plain : (pipeline.directivesBefore source statement).isEmpty = true <;>
                simp [plain, bind, Except.bind, pure, Except.pure]

/-- Annotated statements are found unless a comment in front of some statement cannot be read. -/
theorem annotated_eq :
    pipeline.annotated source =
      match (source.statements.flatMap source.commentsBefore).findSome? fun comment =>
        Failure.of? (pipeline.directivesIn source comment) with
      | some failure => .error failure
      | none => .ok (pipeline.marked source) := by
  unfold annotated
  cases tagged : pipeline.tag with
  | none =>
      have silent : ∀ comment, pipeline.directivesIn source comment = .ok [] := by
        intro comment
        simp [directivesIn, tagged]
      have unmarked : pipeline.marked source = [] := by
        simp [marked, directivesBefore, silent, Except.toOption]
      simp [silent, unmarked, List.findSome?_eq_none_iff.mpr]
  | some tag => exact annotatedIn_eq pipeline source tagged source.statements

theorem moduleEvents_tellsOf :
    TellsOf pipeline store (pipeline.moduleEvents source) (pipeline.moduleSteps source)
      (pipeline.moduleRequests source) := by
  have scans : ((source.statements.flatMap source.commentsBefore).map
      (Step.scanning source)).findSome? (·.failure? pipeline store) =
      (source.statements.flatMap source.commentsBefore).findSome? fun comment =>
        Failure.of? (pipeline.directivesIn source comment) := by
    rw [List.findSome?_map]
    rfl
  unfold moduleEvents moduleSteps
  rw [annotated_eq]
  cases first : (source.statements.flatMap source.commentsBefore).findSome? fun comment =>
      Failure.of? (pipeline.directivesIn source comment) with
  | some failure =>
      rw [first] at scans
      constructor
      · rw [List.findSome?_append, scans]
        rfl
      · intro success
        rw [List.findSome?_append, scans] at success
        simp at success
  | none =>
      rw [first] at scans
      have scanned : TellsOf pipeline store [] ((source.statements.flatMap
          source.commentsBefore).map (Step.scanning source)) [] :=
        ⟨scans.symm, fun _ => ⟨[], rfl, rfl⟩⟩
      exact scanned.append
        (TellsOf.flatMap _ fun statement _ => statementEvents_tellsOf pipeline store source statement)

theorem pathEvents_tellsOf (path : Text) :
    TellsOf pipeline store (pipeline.pathEvents store path) (pipeline.pathSteps store path)
      (pipeline.requestsAt store path) := by
  unfold pathEvents pathSteps requestsAt
  apply TellsOf.remark rfl rfl
  cases reading : FileStore.read store path with
  | error failure =>
      apply TellsOf.failed
      simp [Step.failure?, reading]
  | ok text =>
      apply TellsOf.skip (by simp [Step.failure?, reading])
      exact moduleEvents_tellsOf pipeline store (pipeline.readModule path text)

/-- The whole run: its events tell of all of its steps and requests. -/
theorem events_tellsOf :
    TellsOf pipeline store (pipeline.events store) (pipeline.steps store)
      (pipeline.requests store) := by
  unfold events steps requests modulePaths
  cases discovering : pipeline.discover store with
  | error failure =>
      apply TellsOf.failed
      simp [Step.failure?, discovering]
  | ok paths =>
      apply TellsOf.skip (by simp [Step.failure?, discovering])
      exact TellsOf.flatMap _ fun path _ => pathEvents_tellsOf pipeline store path

end Pipeline

namespace Fulfilment

variable {pipeline : Pipeline}

/-- A request is met in one way only. -/
theorem eq_of_toModuleRequest_eq {left right : Fulfilment pipeline}
    (same : left.toModuleRequest = right.toModuleRequest) : left = right := by
  obtain ⟨request, plugin, target, type, expression, specifier, registered, placed, apart,
    isAlias, typed, expressed, imported⟩ := left
  obtain ⟨_, plugin', target', type', expression', specifier', registered', placed', _, _, typed',
    expressed', imported'⟩ := right
  cases same
  obtain rfl : plugin = plugin' := Option.some.inj (registered.symm.trans registered')
  obtain rfl : target = target' := Except.ok.inj (placed.symm.trans placed')
  obtain rfl : type = type' := Option.some.inj (typed.symm.trans typed')
  obtain rfl : expression = expression' := Except.ok.inj (expressed.symm.trans expressed')
  obtain rfl : specifier = specifier' := Except.ok.inj (imported.symm.trans imported')
  rfl

theorem eq_of_map_toModuleRequest_eq {left right : List (Fulfilment pipeline)}
    (same : left.map (·.toModuleRequest) = right.map (·.toModuleRequest)) : left = right :=
  (List.map_inj_right fun _ _ => eq_of_toModuleRequest_eq).mp same

end Fulfilment

namespace FileSet

variable {pipeline : Pipeline}

private theorem fragmentsAt_placements (path : Text) (fulfilled : List (Fulfilment pipeline)) :
    fragmentsAt path (fulfilled.map (·.placement)) =
      (fulfilled.filter (·.target = path)).map fun met => ⟨met.imports, met.statements⟩ := by
  induction fulfilled with
  | nil => rfl
  | cons met rest ih =>
      by_cases here : met.target = path <;>
        simp_all [fragmentsAt, Fulfilment.placement]

private theorem gather_fragmentsAt_placements (path : Text)
    (fulfilled : List (Fulfilment pipeline)) :
    gather (fragmentsAt path (fulfilled.map (·.placement))) =
      ⟨Text.distinct ((fulfilled.filter (·.target = path)).flatMap (·.imports)),
        (fulfilled.filter (·.target = path)).flatMap (·.statements)⟩ := by
  rw [fragmentsAt_placements]
  simp [gather, List.flatMap_map]

/-- Nothing is left open: which files hold what has been generated is settled. -/
theorem collects_iff {files : FileSet} {fulfilled : List (Fulfilment pipeline)} :
    files.Collects fulfilled ↔ files = ofPlacements (fulfilled.map (·.placement)) := by
  constructor
  · rintro ⟨paths, statements, imports⟩
    obtain ⟨entries⟩ := files
    have held : ∀ entry ∈ entries,
        (entry.1, gather (fragmentsAt entry.1 (fulfilled.map (·.placement)))) = id entry := by
      intro entry member
      rw [gather_fragmentsAt_placements, ← imports entry member, ← statements entry member]
      rfl
    have placed : (fulfilled.map (·.placement)).map (·.1) = fulfilled.map (·.target) := by
      rw [List.map_map]
      rfl
    rw [ofPlacements, placed, ← paths, FileSet.paths, List.map_map, FileSet.mk.injEq]
    exact ((List.map_congr_left held).trans (List.map_id entries)).symm
  · rintro rfl
    constructor
    · rw [paths_ofPlacements, List.map_map]
      rfl
    · intro entry member
      rw [mem_entries_ofPlacements member, gather_fragmentsAt_placements]
    · intro entry member
      rw [mem_entries_ofPlacements member, gather_fragmentsAt_placements]

end FileSet

namespace Pipeline

variable {σ : Type} [FileStore σ]

/-- Generating ends in the first failure of a step, or all requests are met and their companions are
collected. -/
theorem generate_cases (pipeline : Pipeline) (store : σ) :
    (∃ failure, (pipeline.steps store).findSome? (·.failure? pipeline store) = some failure ∧
        pipeline.generate store = .error failure) ∨
      ((pipeline.steps store).findSome? (·.failure? pipeline store) = none ∧
        ∃ fulfilled : List (Fulfilment pipeline),
          fulfilled.map (·.toModuleRequest) = pipeline.requests store ∧
          pipeline.generate store = .ok (.ofPlacements (fulfilled.map (·.placement)))) := by
  obtain ⟨told, fragments⟩ := events_tellsOf pipeline store
  unfold generate
  rw [Event.collect_eq, told]
  cases first : (pipeline.steps store).findSome? (·.failure? pipeline store) with
  | some failure => exact .inl ⟨failure, rfl, rfl⟩
  | none =>
      obtain ⟨fulfilled, met, placements⟩ := fragments first
      refine .inr ⟨rfl, fulfilled, met, ?_⟩
      rw [placements, FileSet.foldl_add]

/-- Generating succeeds exactly when every step succeeds, with the files that hold the companions of
all requests. It ends in a failure exactly when some step fails, with the failure of the first one. -/
theorem generate_meets_requests (pipeline : Pipeline) (store : σ) :
    (∀ files, pipeline.generate store = .ok files ↔
      (∀ step ∈ pipeline.steps store, step.failure? pipeline store = none) ∧
        ∃ fulfilled : List (Fulfilment pipeline),
          fulfilled.map (·.toModuleRequest) = pipeline.requests store ∧
            files.Collects fulfilled) ∧
      ∀ failure, pipeline.generate store = .error failure ↔
        (pipeline.steps store).findSome? (·.failure? pipeline store) = some failure := by
  rw [← List.findSome?_eq_none_iff]
  rcases generate_cases pipeline store with ⟨failure, first, outcome⟩ |
    ⟨none, fulfilled, met, outcome⟩
  · rw [first, outcome]
    simp
  · rw [none, outcome]
    refine ⟨fun files => ?_, fun failure => by simp⟩
    constructor
    · intro success
      exact ⟨rfl, fulfilled, met, FileSet.collects_iff.mpr (Except.ok.inj success).symm⟩
    · rintro ⟨-, others, sameRequests, collected⟩
      have same : others = fulfilled :=
        Fulfilment.eq_of_map_toModuleRequest_eq (sameRequests.trans met.symm)
      rw [FileSet.collects_iff.mp collected, same]

end Pipeline

end Companion
