import Companion.Proofs.Files.AtomicWrite
import Companion.Proofs.Path.Normal
import Mathlib.Data.List.Induction
import Mathlib.Data.List.Infix

/-!
# Ways on disk

A way is followed name by name; it may take steps up and lead through directories that are missing.
When it stays in the tree and meets no file, the missing directories can be made one after the other,
and then there are directories at all places that it comes through.
-/

set_option autoImplicit false

namespace Companion

namespace Disk

open Companion.Path

/-! ## Ways -/

/-- The place that names lead to from the top. -/
def reached (way : List Text) : Place := way.foldl enterName []

@[simp] theorem reached_nil : reached [] = [] := rfl

@[simp] theorem reached_concat (way : List Text) (name : Text) :
    reached (way ++ [name]) = enterName (reached way) name :=
  List.foldl_concat ..

theorem enterName_up (place : Place) : enterName place up = place.dropLast := rfl

variable {disk later : Disk} {way front : List Text} {name : Text} {place : Place}

/-- A way comes through all places above the one that it leads to. -/
theorem exists_reached_above {rest : Place} (areSteps : ∀ name ∈ way, IsStep name)
    (leads : reached way = place ++ rest) : ∃ front, front <+: way ∧ reached front = place := by
  induction way using List.reverseRecOn generalizing rest with
  | nil =>
      rw [reached_nil, eq_comm, List.append_eq_nil_iff] at leads
      exact ⟨[], List.prefix_rfl, leads.1.symm⟩
  | append_singleton front name ih =>
      have areFront : ∀ name ∈ front, IsStep name :=
        fun other member => areSteps other (List.mem_append_left _ member)
      have earlier : ∀ {rest : Place}, reached front = place ++ rest →
          ∃ first, first <+: front ++ [name] ∧ reached first = place := by
        intro rest shape
        obtain ⟨first, opens, reaches⟩ := ih areFront shape
        exact ⟨first, opens.trans (List.prefix_append _ _), reaches⟩
      by_cases isUp : name = up
      · subst isUp
        rw [reached_concat, enterName_up] at leads
        rcases List.eq_nil_or_concat (reached front) with none | ⟨init, last, shape⟩
        · rw [none, List.dropLast_nil, eq_comm, List.append_eq_nil_iff] at leads
          exact ⟨[], List.nil_prefix, leads.1.symm⟩
        · rw [List.concat_eq_append] at shape
          rw [shape, List.dropLast_concat] at leads
          exact earlier (by rw [shape, leads, List.append_assoc])
      · have entered := enterName_of_ne_up (areSteps name (by simp)) isUp (reached front)
        rcases List.eq_nil_or_concat rest with rfl | ⟨init, last, rfl⟩
        · exact ⟨front ++ [name], List.prefix_rfl, by rw [leads, List.append_nil]⟩
        · rw [reached_concat, entered, List.concat_eq_append, ← List.append_assoc] at leads
          exact earlier (List.append_inj_left' leads rfl)

/-! ## Staying in the tree -/

/-- A step up that leads out of the tree is never taken back. -/
theorem up_mem_foldl_push {stack : List Text} (member : up ∈ stack) (way : List Text) :
    up ∈ way.foldl (push false) stack := by
  induction way generalizing stack with
  | nil => exact member
  | cons name rest ih =>
      apply ih
      unfold push
      split
      · exact member
      · split
        · exact List.mem_cons_of_mem _ member
        · next isUp =>
          rw [ne_eq, not_not] at isUp
          split
          · cases member
          · split
            · exact isUp ▸ List.mem_cons_self
            · next different =>
              exact (List.mem_cons.mp member).resolve_left fun same => different same.symm

/-- The names never lead out of the tree. -/
def StaysInside (way : List Text) : Prop := up ∉ way.foldl (push false) []

theorem StaysInside.of_prefix (inside : StaysInside way) (opens : front <+: way) :
    StaysInside front := by
  obtain ⟨rest, rfl⟩ := opens
  intro climbs
  rw [StaysInside, List.foldl_append] at inside
  exact inside (up_mem_foldl_push climbs rest)

/-- Entering names in the tree is walking along them. -/
theorem StaysInside.reached_eq (inside : StaysInside way) :
    reached way = (way.foldl (push false) []).reverse := by
  induction way using List.reverseRecOn with
  | nil => rfl
  | append_singleton front name ih =>
      rw [reached_concat, ih (inside.of_prefix (List.prefix_append _ _)), List.foldl_concat]
      rw [StaysInside, List.foldl_concat] at inside
      generalize front.foldl (push false) [] = stack at inside ⊢
      by_cases stays : name = [] ∨ name = ['.']
      · rcases stays with rfl | rfl <;> simp [enterName]
      · have isStep : IsStep name := not_or.mp stays
        by_cases isUp : name = up
        · subst isUp
          cases stack with
          | nil => exact absurd List.mem_cons_self inside
          | cons last rest =>
              have different : last ≠ up := by
                rintro rfl
                rw [push_up_up] at inside
                exact inside List.mem_cons_self
              have taken : push false (last :: rest) up = rest := by simp [push, different]
              rw [enterName_up, taken, List.reverse_cons, List.dropLast_concat]
        · have entered : push false stack name = name :: stack := by
            simp [push, isStep.1, isStep.2, isUp]
          rw [enterName_of_ne_up isStep isUp, entered, List.reverse_cons]

theorem StaysInside.reached_ne_nil (inside : StaysInside (way ++ [up])) : reached way ≠ [] := by
  rw [(inside.of_prefix (List.prefix_append _ _)).reached_eq, ne_eq, List.reverse_eq_nil_iff]
  intro none
  rw [StaysInside, List.foldl_concat, none] at inside
  exact inside List.mem_cons_self

/-- The names of a path are all that its components depend on. -/
theorem foldl_push_names_eq (path : Text) :
    (names path).foldl (push false) [] = Path.follow false [] path :=
  foldl_names (push_empty false) (push_dot false) [] path

/-- A path that stays in the tree names the place of its components. -/
theorem components_eq_reached {path : Text} (relative : isAbsolute path = false)
    (inside : StaysInside (names path)) : components path = reached (names path) := by
  rw [inside.reached_eq, foldl_push_names_eq, components_eq, relative]

theorem staysInside_iff {path : Text} (relative : isAbsolute path = false) :
    StaysInside (names path) ↔ up ∉ components path := by
  rw [StaysInside, foldl_push_names_eq, components_eq, relative, List.mem_reverse]

theorem placeOf_eq_reached {path : Text} (working : disk.working = none)
    (relative : isAbsolute path = false) : disk.placeOf path = reached (names path) := by
  rw [reached, foldl_enterName_names, placeOf, relative, working]
  rfl

/-! ## Open ways -/

/-- The way stays in the tree and meets no file. -/
structure IsOpen (disk : Disk) (way : List Text) : Prop where
  areSteps : ∀ name ∈ way, IsStep name ∧ isLongName name = false
  inside : StaysInside way
  free : ∀ front, front <+: way → disk.isFile (reached front) = false

theorem IsOpen.of_prefix (isOpen : disk.IsOpen way) (opens : front <+: way) :
    disk.IsOpen front where
  areSteps := fun name member => isOpen.areSteps name (opens.subset member)
  inside := isOpen.inside.of_prefix opens
  free := fun first firstOpens => isOpen.free first (firstOpens.trans opens)

/-- There are directories all along the way. -/
def IsPaved (disk : Disk) (way : List Text) : Prop :=
  ∀ front, front <+: way → disk.isDirectory (reached front) = true

theorem isPaved_concat_iff : disk.IsPaved (front ++ [name]) ↔
    disk.IsPaved front ∧ disk.isDirectory (reached (front ++ [name])) = true := by
  constructor
  · intro paved
    exact ⟨fun first opens => paved first (opens.trans (List.prefix_append _ _)),
      paved _ List.prefix_rfl⟩
  · rintro ⟨paved, last⟩ first opens
    rcases List.prefix_concat_iff.mp opens with rfl | earlier
    · exact last
    · exact paved first earlier

/-- Behind directories an open way leads on to one or to where nothing is yet. -/
theorem IsPaved.step (paved : disk.IsPaved front) (isOpen : disk.IsOpen (front ++ [name])) :
    (disk.isDirectory (reached (front ++ [name])) = true ∧
        disk.step (.inside (reached front)) name = .ok (.inside (reached (front ++ [name])))) ∨
      (disk.isDirectory (reached (front ++ [name])) = false ∧
        reached (front ++ [name]) = reached front ++ [name] ∧
        disk.step (.inside (reached front)) name = .error .missing) := by
  obtain ⟨isStep, short⟩ := isOpen.areSteps name (by simp)
  have directory : disk.isDirectory (reached front) = true := paved front List.prefix_rfl
  by_cases isUp : name = up
  · subst isUp
    have some := isOpen.inside.reached_ne_nil
    obtain ⟨init, last, shape⟩ := (List.eq_nil_or_concat (reached front)).resolve_left some
    rw [List.concat_eq_append] at shape
    obtain ⟨first, opens, reaches⟩ := exists_reached_above
      (fun other member => (isOpen.areSteps other (List.mem_append_left _ member)).1) shape
    have above : reached (front ++ [up]) = init := by
      rw [reached_concat, enterName_up, shape, List.dropLast_concat]
    have notTop : ((reached front).isEmpty && !disk.isRooted) = false := by simp [some]
    refine .inl ⟨by rw [above, ← reaches]; exact paved first opens, ?_⟩
    simp only [Disk.step, directory, notTop, Bool.not_true, Bool.false_eq_true, ↓reduceIte]
    rw [above, shape, List.dropLast_concat]
    rfl
  · have entered : reached (front ++ [name]) = reached front ++ [name] := by
      rw [reached_concat, enterName_of_ne_up isStep isUp]
    have noFile : disk.isFile (reached front ++ [name]) = false :=
      entered ▸ isOpen.free _ List.prefix_rfl
    have step := step_entry directory isStep isUp short
    rw [noFile, Bool.or_false] at step
    rw [entered, step]
    by_cases there : disk.isDirectory (reached front ++ [name]) = true
    · exact .inl ⟨there, if_pos there⟩
    · exact .inr ⟨Bool.eq_false_iff.mpr there, rfl, if_neg there⟩

theorem follow_concat (disk : Disk) (spot : Spot) (front : List Text) (name : Text) :
    disk.follow spot (front ++ [name]) =
      match disk.follow spot front with
      | .ok next => disk.step next name
      | .error failure => .error failure := by
  induction front generalizing spot with
  | nil =>
      rw [List.nil_append, follow]
      cases step : disk.step spot name <;> simp [follow, step]
  | cons first rest ih =>
      rw [List.cons_append, follow, follow]
      cases disk.step spot first with
      | ok next => exact ih next
      | error failure => rfl

/-- An open way leads along directories to the last of them or ends where one is missing. -/
theorem IsOpen.follow_cases (isOpen : disk.IsOpen way) :
    (disk.IsPaved way ∧ disk.follow (.inside []) way = .ok (.inside (reached way))) ∨
      disk.follow (.inside []) way = .error .missing := by
  induction way using List.reverseRecOn with
  | nil =>
      refine .inl ⟨fun front opens => ?_, rfl⟩
      rw [List.prefix_nil.mp opens]
      rfl
  | append_singleton front name ih =>
      rw [follow_concat]
      rcases ih (isOpen.of_prefix (List.prefix_append _ _)) with ⟨paved, found⟩ | missing
      · rw [found]
        dsimp only
        rcases paved.step isOpen with ⟨there, step⟩ | ⟨-, -, step⟩
        · exact .inl ⟨isPaved_concat_iff.mpr ⟨paved, there⟩, step⟩
        · exact .inr step
      · rw [missing]
        exact .inr rfl

theorem IsPaved.follow (paved : disk.IsPaved way) (isOpen : disk.IsOpen way) :
    disk.follow (.inside []) way = .ok (.inside (reached way)) := by
  induction way using List.reverseRecOn with
  | nil => rfl
  | append_singleton front name ih =>
      obtain ⟨pavedFront, there⟩ := isPaved_concat_iff.mp paved
      rw [follow_concat, ih pavedFront (isOpen.of_prefix (List.prefix_append _ _))]
      dsimp only
      rcases pavedFront.step isOpen with ⟨-, step⟩ | ⟨absent, -⟩
      · exact step
      · rw [there] at absent
        cases absent

/-! ## Making directories -/

/-- The disk has got directories at all places of a way, and no others. -/
structure IsPavedInto (disk : Disk) (way : List Text) (later : Disk) : Prop where
  extended : disk.IsExtendedBy later
  directories : ∀ place, later.isDirectory place = true ↔
    disk.isDirectory place = true ∨ ∃ front, front <+: way ∧ reached front = place

theorem IsPaved.isPavedInto (paved : disk.IsPaved way) : disk.IsPavedInto way disk where
  extended := .refl disk
  directories := by
    intro place
    refine ⟨.inl, ?_⟩
    rintro (before | ⟨front, opens, rfl⟩)
    · exact before
    · exact paved front opens

theorem IsPavedInto.isPaved (into : disk.IsPavedInto way later) : later.IsPaved way :=
  fun front opens => (into.directories _).mpr (.inr ⟨front, opens, rfl⟩)

theorem IsPavedInto.isOpen (into : disk.IsPavedInto front later) (isOpen : disk.IsOpen way) :
    later.IsOpen way where
  areSteps := isOpen.areSteps
  inside := isOpen.inside
  free := by
    intro first opens
    rw [isFile, file?, into.extended.files]
    exact isOpen.free first opens

theorem IsPavedInto.trans {last : Disk} (into : disk.IsPavedInto front later)
    (next : later.IsPavedInto way last) (opens : front <+: way) :
    disk.IsPavedInto way last where
  extended := into.extended.trans next.extended
  directories := by
    intro place
    rw [next.directories, into.directories, or_assoc]
    refine or_congr_right ⟨?_, .inr⟩
    rintro (⟨first, firstOpens, reaches⟩ | found)
    · exact ⟨first, firstOpens.trans opens, reaches⟩
    · exact found

theorem isDirectory_withDirectory_iff {other : Place} :
    (disk.withDirectory place).isDirectory other = true ↔
      disk.isDirectory other = true ∨ other = place := by
  unfold withDirectory
  split
  · next there =>
    refine ⟨.inl, ?_⟩
    rintro (before | rfl)
    · exact before
    · exact there
  · simp [isDirectory, or_assoc]

theorem IsPaved.withDirectory (paved : disk.IsPaved front)
    (entered : reached (front ++ [name]) = reached front ++ [name]) :
    disk.IsPavedInto (front ++ [name]) (disk.withDirectory (reached front ++ [name])) where
  extended := .withDirectory disk _
  directories := by
    intro place
    rw [isDirectory_withDirectory_iff]
    constructor
    · rintro (before | rfl)
      · exact .inl before
      · exact .inr ⟨front ++ [name], List.prefix_rfl, entered⟩
    · rintro (before | ⟨first, opens, rfl⟩)
      · exact .inl before
      · rcases List.prefix_concat_iff.mp opens with rfl | earlier
        · exact .inr entered
        · exact .inl (paved first earlier)

/-- Behind directories the last directory of an open way is made, or it is there. -/
theorem IsPaved.makeDirectory (paved : disk.IsPaved front)
    (isOpen : disk.IsOpen (front ++ [name])) :
    (∃ later, disk.makeDirectory (.inside []) front name = .ok later ∧
        disk.IsPavedInto (front ++ [name]) later) ∨
      (disk.makeDirectory (.inside []) front name = .error .fileExists ∧
        disk.IsPaved (front ++ [name])) := by
  have found := paved.follow (isOpen.of_prefix (List.prefix_append _ _))
  rcases paved.step isOpen with ⟨there, step⟩ | ⟨-, entered, step⟩
  · exact .inr ⟨by simp only [Disk.makeDirectory, found, step],
      isPaved_concat_iff.mpr ⟨paved, there⟩⟩
  · exact .inl ⟨_, by simp only [Disk.makeDirectory, found, step], paved.withDirectory entered⟩

end Disk

namespace AtomicWrite

open Disk

variable {disk : Disk} {way : List Text}

theorem leadsToDirectory_of_isPaved (paved : disk.IsPaved way) (isOpen : disk.IsOpen way) :
    leadsToDirectory disk (.inside []) way.reverse = true := by
  rw [leadsToDirectory, List.reverse_reverse, paved.follow isOpen]
  exact paved way List.prefix_rfl

/-- The directories of an open way can be made. -/
theorem ensureDirectory_of_isOpen (isOpen : disk.IsOpen way) :
    ∃ later, ensureDirectory {} disk (.inside []) way.reverse = (.ok (), later) ∧
      disk.IsPavedInto way later := by
  induction way using List.reverseRecOn with
  | nil =>
      refine ⟨disk, rfl, IsPaved.isPavedInto fun front opens => ?_⟩
      rw [List.prefix_nil.mp opens]
      rfl
  | append_singleton front name ih =>
      have isOpenFront := isOpen.of_prefix (List.prefix_append _ _)
      have made : ∀ (again : Bool) (disk : Disk), makeOne {} again disk (.inside []) name
          front.reverse = disk.makeDirectory (.inside []) front name := by
        intro again disk
        rw [makeOne, List.reverse_reverse]
      rw [List.reverse_concat, ensureDirectory, made]
      rcases isOpenFront.follow_cases with ⟨paved, -⟩ | missing
      · rcases paved.makeDirectory isOpen with ⟨later, success, into⟩ | ⟨exists_, pavedAll⟩
        · rw [success]
          exact ⟨later, rfl, into⟩
        · have leads := leadsToDirectory_of_isPaved pavedAll isOpen
          rw [List.reverse_concat] at leads
          rw [exists_]
          dsimp only
          rw [if_pos leads]
          exact ⟨disk, rfl, pavedAll.isPavedInto⟩
      · -- a directory on the way is missing, so that those above come first
        obtain ⟨between, ensured, into⟩ := ih isOpenFront
        have refused : disk.makeDirectory (.inside []) front name = .error .missing := by
          rw [makeDirectory, missing]
        rw [refused]
        dsimp only
        rw [ensured]
        dsimp only
        rw [made]
        have opens := List.prefix_append front [name]
        rcases into.isPaved.makeDirectory (into.isOpen isOpen) with
          ⟨later, success, next⟩ | ⟨exists_, pavedAll⟩
        · rw [success]
          exact ⟨later, rfl, into.trans next opens⟩
        · have leads := leadsToDirectory_of_isPaved pavedAll (into.isOpen isOpen)
          rw [List.reverse_concat] at leads
          rw [exists_]
          dsimp only
          rw [leads]
          exact ⟨between, rfl, into.trans pavedAll.isPavedInto opens⟩

end AtomicWrite

end Companion
