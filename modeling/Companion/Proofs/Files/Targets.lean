import Companion.Proofs.Files.Disk
import Companion.Proofs.Files.Ways
import Companion.Proofs.Text.Utf8

/-!
# Targets on disk

What a path must be for a file to be written there: it stays in the tree, meets no file on its way,
names no directory, and its names and the paths that are made of them are short enough. A write then
makes what is missing and succeeds, the tree stays a tree, and other such paths stay such.
-/

set_option autoImplicit false

namespace Companion.Disk

open Companion.Path

/-! ## Admitted targets -/

/-- A relative path in the tree that is free for a file: it names no directory, and its way leads
through no file, be it there or among the targets. -/
structure IsFree (disk : Disk) (targets : List Text) (target : Text) : Prop where
  relative : isAbsolute target = false
  inside : up ∉ components target
  noDirectory : disk.isDirectory (disk.placeOf target) = false
  noFileAbove : ∀ front, front <+: names target → front ≠ names target →
    disk.isFile (reached front) = false ∧ ∀ other ∈ targets, disk.placeOf other ≠ reached front

/-- A free target whose names are not too long, the last one with room for that of a temporary
file, and of which neither the path nor that of the temporary file is refused. -/
structure Admits (disk : Disk) (targets : List Text) (target : Text) : Prop
    extends disk.IsFree targets target where
  short : ∀ name ∈ names target, (Utf8.encode name).length ≤ 255
  room : ∀ last ∈ (names target).getLast?, (Utf8.encode last).length ≤ 241
  passes : refusal? (tidy target) = none
  passesBeside : refusal? (AtomicWrite.temporaryPath disk target) = none

variable {disk later : Disk} {targets front : List Text} {target text last : Text}

theorem isFree_iff : disk.IsFree targets target ↔
    isAbsolute target = false ∧ (∀ name ∈ components target, name ≠ up) ∧
      disk.isDirectory (disk.placeOf target) = false ∧
      ∀ front ∈ (names target).inits, front ≠ names target →
        disk.isFile (reached front) = false ∧ ∀ other ∈ targets, disk.placeOf other ≠ reached front := by
  simp only [List.mem_inits]
  constructor
  · rintro ⟨relative, inside, noDirectory, noFileAbove⟩
    exact ⟨relative, fun name member same => inside (same ▸ member), noDirectory, noFileAbove⟩
  · rintro ⟨relative, inside, noDirectory, noFileAbove⟩
    exact ⟨relative, fun member => inside up member rfl, noDirectory, noFileAbove⟩

instance : Decidable (disk.IsFree targets target) := decidable_of_iff' _ isFree_iff

theorem admits_iff : disk.Admits targets target ↔
    disk.IsFree targets target ∧ (∀ name ∈ names target, (Utf8.encode name).length ≤ 255) ∧
      (∀ last ∈ (names target).getLast?, (Utf8.encode last).length ≤ 241) ∧
      refusal? (tidy target) = none ∧
      refusal? (AtomicWrite.temporaryPath disk target) = none :=
  ⟨fun ⟨free, short, room, passes, beside⟩ => ⟨free, short, room, passes, beside⟩,
    fun ⟨free, short, room, passes, beside⟩ => ⟨free, short, room, passes, beside⟩⟩

instance : Decidable (disk.Admits targets target) := decidable_of_iff' _ admits_iff

theorem not_mem_slash_of_mem_names {path name : Text} (member : name ∈ names path) : '/' ∉ name :=
  Text.not_mem_of_mem_splitOn (List.mem_filter.mp member).1

/-- The places on a way are made of the names on it. -/
theorem mem_of_mem_reached {way : List Text} {name : Text} (areSteps : ∀ name ∈ way, IsStep name)
    (member : name ∈ reached way) : name ∈ way ∧ name ≠ up := by
  induction way using List.reverseRecOn with
  | nil => cases member
  | append_singleton front other ih =>
      have areFront : ∀ name ∈ front, IsStep name :=
        fun name inside => areSteps name (List.mem_append_left _ inside)
      rw [reached_concat] at member
      by_cases isUp : other = up
      · subst isUp
        obtain ⟨inside, notUp⟩ := ih areFront (List.dropLast_subset _ member)
        exact ⟨List.mem_append_left _ inside, notUp⟩
      · rw [enterName_of_ne_up (areSteps other (by simp)) isUp] at member
        rcases List.mem_append.mp member with before | isLast
        · obtain ⟨inside, notUp⟩ := ih areFront before
          exact ⟨List.mem_append_left _ inside, notUp⟩
        · rw [List.mem_singleton.mp isLast]
          exact ⟨by simp, isUp⟩

/-- A proper start of all names opens those before the last one. -/
private theorem prefix_iff_proper {first : List Text} (shape : names target = front ++ [last]) :
    first <+: front ↔ first <+: names target ∧ first ≠ names target := by
  rw [shape, List.prefix_concat_iff]
  constructor
  · intro opens
    refine ⟨.inr opens, ?_⟩
    rintro rfl
    have longer := opens.length_le
    rw [List.length_append, List.length_singleton] at longer
    omega
  · rintro ⟨whole | opens, proper⟩
    · exact absurd whole proper
    · exact opens

namespace IsFree

theorem staysInside (free : disk.IsFree targets target) : StaysInside (names target) :=
  (staysInside_iff free.relative).mpr free.inside

/-- A free target ends in a name. -/
theorem exists_names_eq_concat (free : disk.IsFree targets target)
    (working : disk.working = none) (member : target ∈ targets) :
    ∃ front last, names target = front ++ [last] ∧ last ≠ up := by
  have place := placeOf_eq_reached working free.relative
  rcases List.eq_nil_or_concat (names target) with none | ⟨front, last, shape⟩
  · have directory := free.noDirectory
    rw [place, none] at directory
    cases directory
  rw [List.concat_eq_append] at shape
  refine ⟨front, last, shape, ?_⟩
  rintro rfl
  -- the step up would end at a place that the way has come through
  have inside := free.staysInside
  rw [shape] at inside
  obtain ⟨init, name, before⟩ := (List.eq_nil_or_concat (reached front)).resolve_left
    inside.reached_ne_nil
  rw [List.concat_eq_append] at before
  obtain ⟨first, opens, reaches⟩ := exists_reached_above
    (fun other isOther =>
      areSteps_names target other (shape ▸ List.mem_append_left _ isOther)) before
  obtain ⟨early, proper⟩ := (prefix_iff_proper shape).mp opens
  have ends : disk.placeOf target = reached first := by
    rw [place, shape, reached_concat, enterName_up, before, List.dropLast_concat, reaches]
  exact (free.noFileAbove first early proper).2 target member ends

theorem isOpen (free : disk.IsFree targets target) (shape : names target = front ++ [last])
    (short : ∀ name ∈ front, isLongName name = false) : disk.IsOpen front where
  areSteps := fun name member =>
    ⟨areSteps_names target name (shape ▸ List.mem_append_left _ member),
      short name member⟩
  inside := free.staysInside.of_prefix (shape ▸ List.prefix_append _ _)
  free := fun first opens =>
    have ⟨early, proper⟩ := (prefix_iff_proper shape).mp opens
    (free.noFileAbove first early proper).1

end IsFree

/-! ## After a write -/

/-- The disk after the write of a target: there are directories on its way, and the file holds the
bytes. -/
structure IsWritten (disk : Disk) (target : Text) (bytes : Bytes) (later : Disk) : Prop where
  working : later.working = disk.working
  outer : later.outer = disk.outer
  file? : ∀ place, later.file? place =
    if place = disk.placeOf target then some bytes else disk.file? place
  isDirectory : ∀ place, later.isDirectory place = true ↔ disk.isDirectory place = true ∨
    ∃ front, front <+: names target ∧ front ≠ names target ∧ reached front = place

/-- Writing an admitted target succeeds. -/
theorem Admits.write (working : disk.working = none) (admits : disk.Admits targets target)
    (member : target ∈ targets) (text : Text) :
    ∃ later, AtomicWrite.write {} acceptAll disk target text = (.ok (), later) ∧
      disk.IsWritten target (Utf8.encode text) later := by
  obtain ⟨front, last, shape, notUp⟩ := admits.exists_names_eq_concat working member
  have isStep : IsStep last := areSteps_names target last (by simp [shape])
  have place : disk.placeOf target = reached front ++ [last] := by
    rw [placeOf_eq_reached working admits.relative, shape, reached_concat,
      enterName_of_ne_up isStep notUp]
  have isOpen : disk.IsOpen front := by
    refine admits.isOpen shape fun name inside => ?_
    have short := admits.short name (shape ▸ List.mem_append_left _ inside)
    simpa [isLongName] using short
  obtain ⟨between, ensured, into⟩ := AtomicWrite.ensureDirectory_of_isOpen isOpen
  have start := start_of_relative working admits.relative
  have found := into.isPaved.follow (into.isOpen isOpen)
  have fits : isLongName (AtomicWrite.temporaryName last 0) = false := by
    have room := admits.room last (by simp [shape])
    simp only [isLongName, AtomicWrite.length_encode_temporaryName, decide_eq_false_iff_not]
    omega
  have noDirectory : between.isDirectory (reached front ++ [last]) = false := by
    rw [Bool.eq_false_iff, ne_eq, into.directories]
    rintro (before | ⟨first, opens, reaches⟩)
    · rw [← place, admits.noDirectory] at before
      cases before
    · obtain ⟨early, proper⟩ := (prefix_iff_proper shape).mp opens
      exact (admits.noFileAbove first early proper).2 target member (place.trans reaches.symm)
  refine ⟨between.withFile (reached front ++ [last]) (Utf8.encode text), ?_, ?_⟩
  · have beside := admits.passesBeside
    rw [← into.extended.temporaryPath_eq] at beside
    rw [AtomicWrite.write, start, shape, List.dropLast_concat, refusal?_parent admits.passes]
    dsimp only
    rw [ensured]
    dsimp only
    rw [beside, found]
    exact AtomicWrite.writeIn_eq_ok admits.passes (by simp [shape]) fits notUp noDirectory text
  · refine ⟨into.extended.working, into.extended.outer, fun other => ?_, fun other => ?_⟩
    · rw [Disk.file?, withFile, lookup_putFile, into.extended.files, place]
      rfl
    · have directories := into.directories other
      simp only [prefix_iff_proper shape, and_assoc] at directories
      exact directories

namespace IsWritten

variable {bytes : Bytes}

theorem isFile_iff (written : disk.IsWritten target bytes later) {place : Place} :
    later.isFile place = true ↔ place = disk.placeOf target ∨ disk.isFile place = true := by
  rw [isFile, isFile, written.file?]
  by_cases here : place = disk.placeOf target <;> simp [here]

theorem placeOf_eq (written : disk.IsWritten target bytes later) (path : Text) :
    later.placeOf path = disk.placeOf path := by
  rw [placeOf, placeOf, written.working]

/-- What is there was there, or it is on the way to the file or the file itself. -/
theorem isThere_cases (written : disk.IsWritten target bytes later) (working : disk.working = none)
    (relative : isAbsolute target = false) {place : Place} (there : later.IsThere place) :
    disk.IsThere place ∨ ∃ front, front <+: names target ∧ reached front = place := by
  rcases there with directory | file
  · rcases (written.isDirectory place).mp directory with before | ⟨front, opens, -, reaches⟩
    · exact .inl (.inl before)
    · exact .inr ⟨front, opens, reaches⟩
  · rcases written.isFile_iff.mp file with rfl | before
    · exact .inr ⟨names target, List.prefix_rfl, (placeOf_eq_reached working relative).symm⟩
    · exact .inl (.inr before)

/-- A write keeps a tree a tree. -/
theorem isTree (written : disk.IsWritten target bytes later) (tree : disk.IsTree)
    (admits : disk.Admits targets target) (member : target ∈ targets) : later.IsTree := by
  have areSteps := areSteps_names target
  refine .of_isThere (written.working.trans tree.working) ?_ ?_ ?_
  · intro place there name inside
    rcases written.isThere_cases tree.working admits.relative there with before | ⟨front, opens, rfl⟩
    · exact tree.named_of_isThere before name inside
    · obtain ⟨isNamed, notUp⟩ :=
        mem_of_mem_reached (fun other isOther => areSteps other (opens.subset isOther)) inside
      have inTarget := opens.subset isNamed
      have isStep := areSteps name inTarget
      have short := admits.short name inTarget
      exact ⟨⟨isStep.1, isStep.2, notUp, not_mem_slash_of_mem_names inTarget⟩,
        by simpa [isLongName] using short⟩
  · intro place there
    rw [written.isDirectory]
    rcases written.isThere_cases tree.working admits.relative there with before | ⟨front, opens, rfl⟩
    · exact .inl (tree.isDirectory_dropLast before)
    · rcases List.eq_nil_or_concat (reached front) with none | ⟨init, name, shape⟩
      · exact .inl (by rw [none]; rfl)
      rw [List.concat_eq_append] at shape
      obtain ⟨first, early, reaches⟩ :=
        exists_reached_above (fun other isOther => areSteps other (opens.subset isOther)) shape
      refine .inr ⟨first, early.trans opens, ?_, by rw [reaches, shape, List.dropLast_concat]⟩
      rintro rfl
      -- the way would end above its own end
      rw [← early.eq_of_length_le opens.length_le, reaches] at shape
      simp at shape
  · intro place file
    rw [Bool.eq_false_iff, ne_eq, written.isDirectory]
    rcases written.isFile_iff.mp file with rfl | before
    · rintro (directory | ⟨front, opens, proper, reaches⟩)
      · rw [admits.noDirectory] at directory
        cases directory
      · exact (admits.noFileAbove front opens proper).2 target member reaches.symm
    · rintro (directory | ⟨front, opens, proper, rfl⟩)
      · rw [tree.isDirectory_of_isFile before] at directory
        cases directory
      · rw [(admits.noFileAbove front opens proper).1] at before
        cases before

/-- Other targets are admitted as before. -/
theorem admits (written : disk.IsWritten target bytes later) (member : target ∈ targets)
    (free : disk.IsFree targets target) {other : Text} (isOther : other ∈ targets)
    (admits : disk.Admits targets other) : later.Admits targets other where
  relative := admits.relative
  inside := admits.inside
  noDirectory := by
    rw [written.placeOf_eq, Bool.eq_false_iff, ne_eq, written.isDirectory]
    rintro (before | ⟨front, opens, proper, reaches⟩)
    · rw [admits.noDirectory] at before
      cases before
    · exact (free.noFileAbove front opens proper).2 other isOther reaches.symm
  noFileAbove := by
    intro front opens proper
    obtain ⟨noFile, apart⟩ := admits.noFileAbove front opens proper
    refine ⟨?_, fun third isThird => written.placeOf_eq third ▸ apart third isThird⟩
    rw [Bool.eq_false_iff, ne_eq, written.isFile_iff]
    rintro (here | before)
    · exact apart target member here.symm
    · rw [noFile] at before
      cases before
  short := admits.short
  room := admits.room
  passes := admits.passes
  passesBeside := by
    rw [AtomicWrite.temporaryPath, workingPath, written.working, written.outer]
    exact admits.passesBeside

end IsWritten

end Companion.Disk
