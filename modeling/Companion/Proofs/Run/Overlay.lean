import Companion.Proofs.Files.AtomicWrite
import Companion.Proofs.Run.Writing

/-!
# Runs on disk

A run reads, renders and formats everything before it writes the first file, and each write is whole
or without effect on files. So after a run, however it ended, the files are the old ones overlaid with
the first of the texts to be written: all of them after a success, none if it failed before writing.
-/

set_option autoImplicit false

namespace Companion

namespace Disk

/-- Files with whole texts put at the places that some paths name, one after the other. -/
def overlay (disk : Disk) (texts : List (Text × Text)) (files : List (Place × Bytes)) :
    List (Place × Bytes) :=
  texts.foldl (fun files file => putFile (disk.placeOf file.1) (Utf8.encode file.2) files) files

/-- An overlaid place holds the last text for it, and any other place what it held before. -/
theorem lookup_overlay (disk : Disk) (texts : List (Text × Text)) (files : List (Place × Bytes))
    (place : Place) :
    (disk.overlay texts files).lookup place =
      ((texts.reverse.find? fun file => disk.placeOf file.1 = place).map
        (Utf8.encode ·.2)).or (files.lookup place) := by
  induction texts using List.reverseRecOn with
  | nil => rfl
  | append_singleton texts file ih =>
      have last : disk.overlay (texts ++ [file]) files =
          putFile (disk.placeOf file.1) (Utf8.encode file.2) (disk.overlay texts files) :=
        List.foldl_concat ..
      rw [last, lookup_putFile, ih, List.reverse_append, List.reverse_singleton,
        List.singleton_append, List.find?_cons]
      by_cases here : place = disk.placeOf file.1
      · simp [here]
      · simp [here, Ne.symm here]

end Disk

namespace FaultyDisk

open Disk

/-- What can be said after a run has tried to write some texts: the first `count` of them overlay the
files, and apart from that there may be more directories. -/
structure IsOverlaid (before after : FaultyDisk) (texts : List (Text × Text)) (count : Nat) :
    Prop where
  files : after.disk.files = before.disk.overlay (texts.take count) before.disk.files
  working : after.disk.working = before.disk.working
  directories : before.disk.directories <+: after.disk.directories

variable {store : FaultyDisk}

/-- A write meets the faults that are next. -/
theorem write_eq (store : FaultyDisk) (path text : Text) :
    FileStore.write store path text =
      ((AtomicWrite.write (store.faults.headD {}) acceptAll store.disk path text).1,
        ⟨(AtomicWrite.write (store.faults.headD {}) acceptAll store.disk path text).2,
          store.faults.tail⟩) := rfl

/-- Writing texts in order overlays the files with all of them, or fails at one of them and overlays
the files with those before it. -/
theorem writeAll_overlays (store : FaultyDisk) (texts : List (Text × Text)) :
    ∃ count, store.IsOverlaid (FileStore.writeAll store texts).2.2 texts count ∧
      (((FileStore.writeAll store texts).1 = .ok () ∧ count = texts.length) ∨
        ∃ failure, (FileStore.writeAll store texts).1 = .error failure ∧ count < texts.length) := by
  induction texts generalizing store with
  | nil => exact ⟨0, ⟨rfl, rfl, List.prefix_rfl⟩, .inl ⟨rfl, rfl⟩⟩
  | cons file rest ih =>
      obtain ⟨between, extended, outcome⟩ := AtomicWrite.write_cases (store.faults.headD {})
        acceptAll store.disk file.1 file.2
      rcases outcome with ⟨failure, failed⟩ | written
      · have step : FileStore.write store file.1 file.2 =
            (.error failure, ⟨between, store.faults.tail⟩) := by
          rw [write_eq, failed]
        rw [FileStore.writeAll, step]
        exact ⟨0, ⟨extended.files, extended.working, extended.directories⟩,
          .inr ⟨failure, rfl, Nat.zero_lt_succ _⟩⟩
      · have step : FileStore.write store file.1 file.2 =
            (.ok (), ⟨between.withFile (store.disk.placeOf file.1) (Utf8.encode file.2),
              store.faults.tail⟩) := by
          rw [write_eq, written]
        obtain ⟨count, overlaid, outcome⟩ := ih ⟨between.withFile (store.disk.placeOf file.1)
          (Utf8.encode file.2), store.faults.tail⟩
        rw [FileStore.writeAll, step]
        refine ⟨count + 1, ⟨?_, ?_, ?_⟩, ?_⟩
        · have samePlaces : (between.withFile (store.disk.placeOf file.1)
              (Utf8.encode file.2)).placeOf = store.disk.placeOf := by
            funext path
            exact extended.placeOf_eq path
          have later := overlaid.files
          dsimp only at later
          rw [Disk.overlay, samePlaces] at later
          rw [later, List.take_succ_cons, Disk.overlay, List.foldl_cons, ← extended.files]
          rfl
        · exact overlaid.working.trans extended.working
        · exact extended.directories.trans overlaid.directories
        · rcases outcome with ⟨success, all⟩ | ⟨failure, failed, some⟩
          · exact .inl ⟨success, congrArg (· + 1) all⟩
          · exact .inr ⟨failure, failed, Nat.succ_lt_succ some⟩

end FaultyDisk

namespace Pipeline

open Disk

/-- A run on disk leaves whole files, whatever the system refuses: either it fails before it writes
and nothing at all has changed, or the files are overlaid with the first texts of those that it has
rendered, with all of them if it succeeds and not with all if it fails. No other file is there, has
changed or is gone. -/
theorem run_overlays (pipeline : Pipeline) (respond : Responder) (store : FaultyDisk) :
    (∃ failure, (pipeline.prepare respond store).result = .error failure ∧
        (pipeline.run respond store).result = .error failure ∧
        (pipeline.run respond store).store = store) ∨
      ∃ files texts count, pipeline.generate store = .ok files ∧
        (pipeline.render respond files).result = .ok texts ∧ texts.map (·.1) = files.paths ∧
        store.IsOverlaid (pipeline.run respond store).store texts count ∧
        (((pipeline.run respond store).result = .ok (texts.map (·.1)) ∧ count = texts.length) ∨
          ∃ failure, (pipeline.run respond store).result = .error failure ∧
            count < texts.length) := by
  unfold run
  dsimp only
  cases prepared : (pipeline.prepare respond store).result with
  | error failure => exact .inl ⟨failure, rfl, rfl, rfl⟩
  | ok texts =>
      have parts := prepared
      rw [prepare_result, Failure.bind_eq_ok_iff] at parts
      obtain ⟨files, generated, rendered⟩ := parts
      obtain ⟨count, overlaid, outcome⟩ := FaultyDisk.writeAll_overlays store texts
      refine .inr ⟨files, texts, count, generated, rendered, render_paths rendered, overlaid, ?_⟩
      dsimp only
      rcases outcome with ⟨success, all⟩ | ⟨failure, failed, some⟩
      · exact .inl ⟨by rw [success]; rfl, all⟩
      · exact .inr ⟨failure, by rw [failed]; rfl, some⟩

/-- A disk with one module on which the second file of a run cannot be put in place. -/
def refusingSecond : FaultyDisk where
  disk := .ofEntries [] [("src/a.ppx.ts",
    Utf8.encode "/** @ts-ppx(zod, fast-check) */\nexport type A = string;\n")]
  faults := [{}, { replace := some .permissionDenied }]

/-- The first file stays, and so does the directory made for the second one. -/
example :
    ∃ settings pipeline,
      ({ sourceRoot := .string "src" } : Config).runSettings none = .ok settings ∧
      ofConfig settings = .ok pipeline ∧
      (pipeline.run (fun _ => .timedOut) refusingSecond).result =
        .error (.system .permissionDenied) ∧
      (pipeline.run (fun _ => .timedOut) refusingSecond).store.disk.files.map (pathOf ·.1) =
        ["src/a.ppx.ts".toList, "src/a.ts".toList] ∧
      (pipeline.run (fun _ => .timedOut) refusingSecond).store.disk.directories.map pathOf =
        ["src".toList, "src/testing".toList] :=
  ⟨_, _, rfl, rfl, by decide +kernel, by decide +kernel, by decide +kernel⟩

end Pipeline

end Companion
