import Companion.Proofs.Run.Generation

/-! Modules without directives leave no trace. What is generated depends on the texts of the modules
that carry directives and on the order in which they are found, and on nothing else. -/

set_option autoImplicit false

namespace Companion

namespace Event

theorem collect_append (files : FileSet) (left right : List Event) :
    collect files (left ++ right) =
      collect files left >>= fun files => collect files right := by
  induction left generalizing files with
  | nil => rfl
  | cons event rest ih =>
      cases event with
      | scanning path => exact ih files
      | generating generator declaration target => exact ih files
      | produced target fragment => exact ih (files.add target fragment)
      | failed failure => rfl

/-- Paths at which nothing happens but scanning may be left out. -/
theorem collect_flatMap_filter {events : Text → List Event} {matters : Text → Bool}
    {paths : List Text}
    (idle : ∀ path ∈ paths, matters path = false → events path = [.scanning path])
    (files : FileSet) :
    collect files (paths.flatMap events) =
      collect files ((paths.filter matters).flatMap events) := by
  induction paths generalizing files with
  | nil => rfl
  | cons path rest ih =>
      have others := ih fun other member => idle other (List.mem_cons_of_mem _ member)
      cases decision : matters path with
      | false =>
          rw [List.flatMap_cons, idle path List.mem_cons_self decision,
            List.filter_cons_of_neg (Bool.eq_false_iff.mp decision)]
          exact others files
      | true =>
          rw [List.filter_cons_of_pos decision, List.flatMap_cons, List.flatMap_cons,
            collect_append, collect_append]
          simp only [others]

end Event

namespace Pipeline

variable {σ τ : Type} [FileStore σ] [FileStore τ] {pipeline : Pipeline}

/-- Whether a module carries a directive when it is scanned. So do those that cannot be read or
scanned, which stop a run. -/
def carries (pipeline : Pipeline) (store : σ) (path : Text) : Bool :=
  match FileStore.read store path with
  | .ok text =>
    match pipeline.annotated (pipeline.readModule path text) with
    | .ok statements => !statements.isEmpty
    | .error _ => true
  | .error _ => true

theorem carries_congr {before : σ} {after : τ} {path : Text}
    (same : FileStore.read after path = FileStore.read before path) :
    pipeline.carries after path = pipeline.carries before path := by
  rw [carries, carries, same]

theorem pathEvents_eq_scanning {store : σ} {path : Text}
    (silent : pipeline.carries store path = false) :
    pipeline.pathEvents store path = [.scanning path] := by
  unfold carries at silent
  unfold pathEvents
  cases reading : FileStore.read store path with
  | error failure => simp [reading] at silent
  | ok text =>
      rw [reading] at silent
      dsimp only at silent ⊢
      unfold moduleEvents
      split at silent
      · next found =>
        rw [found]
        cases List.isEmpty_iff.mp ((Bool.not_eq_false' _).mp silent)
        rfl
      · cases silent

/-- Only modules that carry directives ask for companions. -/
theorem carries_of_requestsAt_ne_nil {store : σ} {path : Text}
    (asks : pipeline.requestsAt store path ≠ []) : pipeline.carries store path = true := by
  unfold requestsAt at asks
  unfold carries
  cases reading : FileStore.read store path with
  | error failure => rfl
  | ok text =>
      rw [reading] at asks
      dsimp only at asks ⊢
      rw [annotated_eq]
      split
      · next found =>
        split at found
        · cases found
        · obtain rfl := Except.ok.inj found
          rw [Bool.not_eq_true', List.isEmpty_eq_false_iff]
          rintro none
          exact asks (by rw [moduleRequests, none]; rfl)
      · rfl

/-- Two stores give the same files, or the same failure, when the same modules that carry directives
are found in the same order and hold the same texts. -/
theorem generate_congr {before : σ} {after : τ} {paths others : List Text}
    (foundBefore : pipeline.discover before = .ok paths)
    (foundAfter : pipeline.discover after = .ok others)
    (same : others.filter (pipeline.carries after) = paths.filter (pipeline.carries before))
    (texts : ∀ path ∈ paths, pipeline.carries before path = true →
      FileStore.read after path = FileStore.read before path) :
    pipeline.generate after = pipeline.generate before := by
  have events : ∀ path ∈ paths.filter (pipeline.carries before),
      pipeline.pathEvents after path = pipeline.pathEvents before path := by
    intro path member
    obtain ⟨isPath, isCarrier⟩ := List.mem_filter.mp member
    rw [pathEvents, pathEvents, texts path isPath isCarrier]
  have silentBefore : ∀ path ∈ paths, pipeline.carries before path = false →
      pipeline.pathEvents before path = [.scanning path] := fun _ _ => pathEvents_eq_scanning
  have silentAfter : ∀ path ∈ others, pipeline.carries after path = false →
      pipeline.pathEvents after path = [.scanning path] := fun _ _ => pathEvents_eq_scanning
  unfold generate Pipeline.events
  rw [foundBefore, foundAfter]
  dsimp only
  rw [Event.collect_flatMap_filter silentBefore, Event.collect_flatMap_filter silentAfter, same,
    List.flatMap_def, List.flatMap_def, List.map_congr_left events]

end Pipeline

end Companion
