import Companion.Output.Artifact
import Companion.Proofs.CommandLine.CommandText
import Companion.Proofs.Syntax.Trivia
import Companion.Proofs.Text.Pieces

/-!
# The header as a comment

The header of generated files names the command, with the texts of its parameters as they were given.
It is a comment on a line of its own exactly if the command is one line, and the command is one line
exactly if each text can be looked up and no line ends in what is shown for it.
-/

set_option autoImplicit false

namespace Companion.CommandText

open Syntax

variable {lookup : Lookup} {parameter : Parameter} {values : List (Text × Value)}
  {pieces : List Text}

/-- A text in which no line ends. -/
def IsUnbroken (text : Text) : Prop := ∀ c ∈ text, endsLineComment c = false

instance (text : Text) : Decidable (IsUnbroken text) :=
  List.decidableBAll (fun c => endsLineComment c = false) text

/-- A header that is the first line of every file made with it and nothing but a comment. -/
structure IsLineComment (comment : Text) : Prop where
  opens : ['/', '/'] <+: comment
  unbroken : IsUnbroken comment
  /-- Nothing else of a file belongs to the comment that opens it. -/
  firstLine : ∀ artifact : Artifact,
    commentLength (artifact.render (some comment)) = some comment.length
  rest : ∀ artifact : Artifact,
    artifact.render (some comment) = comment ++ '\n' :: artifact.render none

/-! ## The header and the command -/

theorem isUnbroken_append {left right : Text} :
    IsUnbroken (left ++ right) ↔ IsUnbroken left ∧ IsUnbroken right :=
  List.forall_mem_append

theorem isUnbroken_join :
    IsUnbroken (Text.join [' '] pieces) ↔ ∀ piece ∈ pieces, IsUnbroken piece := by
  constructor
  · intro unbroken piece member c inPiece
    exact unbroken c (Text.mem_join member inPiece)
  · intro each c inside
    cases Text.exists_of_mem_join inside with
    | inl separates =>
        obtain rfl := List.mem_singleton.mp separates
        decide
    | inr inPiece =>
        obtain ⟨piece, member, inside⟩ := inPiece
        exact each piece member c inside

theorem render_some_header (artifact : Artifact) {line : Text} (someLine : line ≠ []) :
    artifact.render (some line) = line ++ '\n' :: artifact.render none := by
  have text : (if line.isEmpty then [] else [line]) = [line] := by simp [someLine]
  simp only [Artifact.render, text, List.nil_append, List.append_assoc]
  rw [Text.join_append (List.cons_ne_nil line []) (by simp)]
  simp

theorem isLineComment_header_iff (command : Text) :
    IsLineComment (header command) ↔ IsUnbroken command := by
  constructor
  · exact fun comment => (isUnbroken_append.mp comment.unbroken).2
  · intro unbroken
    have inBody : IsUnbroken (" Generated by ts_ppx v0.1.0 : ".toList ++ command) :=
      isUnbroken_append.mpr ⟨by decide, unbroken⟩
    have text : header command = '/' :: '/' :: (" Generated by ts_ppx v0.1.0 : ".toList ++ command) :=
      rfl
    have rest : ∀ artifact : Artifact, artifact.render (some (header command)) =
        header command ++ '\n' :: artifact.render none :=
      fun artifact => render_some_header artifact (text ▸ List.cons_ne_nil _ _)
    refine ⟨⟨_, text.symm⟩, isUnbroken_append.mpr ⟨by decide, unbroken⟩, ?_, rest⟩
    intro artifact
    have opened := Cursor.commentLength_line inBody ('\n' :: artifact.render none)
      (by simp [endsLineComment])
    rw [rest, text, List.cons_append, List.cons_append, opened, List.length_cons, List.length_cons,
      Nat.add_comm 2]

/-! ## The words of the command -/

/-- A text that can be looked up, no line ending in what is shown for it. -/
def IsShownUnbroken (lookup : Lookup) (text : Text) : Prop :=
  ∃ shown, showText lookup text = .ok shown ∧ IsUnbroken shown

/-- Words that can be made, no line ending in them. -/
def AreUnbroken (outcome : Except Failure (List Text)) : Prop :=
  ∃ words, outcome = .ok words ∧ ∀ word ∈ words, IsUnbroken word

theorem isUnbroken_of_mem_flags {flag : Text} (member : flag ∈ parameter.flags) : IsUnbroken flag := by
  have every : ∀ parameter ∈ Parameter.all, ∀ flag ∈ parameter.flags, IsUnbroken flag := by decide
  exact every parameter (by cases parameter <;> decide) flag member

/-- The words for a parameter are unbroken if what is shown for its texts is. -/
theorem isUnbroken_spell_iff {parameters : Parameters} {shown : List Text}
    (none : parameter.isSwitch = true → shown = []) :
    (∀ word ∈ spell parameters parameter shown, IsUnbroken word) ↔ ∀ text ∈ shown, IsUnbroken text := by
  unfold spell
  cases flags : parameter.flags with
  | nil => rfl
  | cons flag others =>
      have unbroken : IsUnbroken flag := isUnbroken_of_mem_flags (flags ▸ List.mem_cons_self)
      cases isSwitch : parameter.isSwitch with
      | true =>
          rw [none isSwitch]
          cases isOn parameters parameter <;> simp [unbroken]
      | false =>
          change (∀ word ∈ shown.flatMap fun text => [flag, text], IsUnbroken word) ↔ _
          rw [List.forall_mem_flatMap]
          refine forall₂_congr fun text _ => ?_
          rw [List.forall_mem_cons, List.forall_mem_singleton, and_iff_right unbroken]

theorem areUnbroken_wordsOf_iff (parameters : Parameters) (parameter : Parameter) :
    AreUnbroken (wordsOf lookup (valuesOf parameters) parameter) ↔
      ∀ text ∈ textsOf parameters parameter, IsShownUnbroken lookup text := by
  have none : ∀ {shown}, (textsOf parameters parameter).mapM (showText lookup) = .ok shown →
      parameter.isSwitch = true → shown = [] := by
    intro shown found isSwitch
    rw [textsOf_of_isSwitch isSwitch] at found
    exact (Except.ok.inj found).symm
  unfold AreUnbroken IsShownUnbroken
  rw [wordsOf_eq, ← Failure.exists_mapM_and_forall_iff]
  constructor
  · intro made
    obtain ⟨words, made, unbroken⟩ := made
    obtain ⟨shown, found, made⟩ := Failure.bind_eq_ok_iff.mp made
    obtain rfl := Except.ok.inj made
    exact ⟨shown, found, (isUnbroken_spell_iff (none found)).mp unbroken⟩
  · intro made
    obtain ⟨shown, found, unbroken⟩ := made
    exact ⟨_, by rw [found]; rfl, (isUnbroken_spell_iff (none found)).mpr unbroken⟩

theorem isUnbroken_command_iff (parts : List (Parameter × List Text)) :
    IsUnbroken (Text.join [' '] ("ts_ppx".toList :: (parts.filter (fun part => part.1.isPositional) ++
      parts.filter fun part => !part.1.isPositional).flatMap (·.2))) ↔
        ∀ part ∈ parts, ∀ word ∈ part.2, IsUnbroken word := by
  have named : IsUnbroken "ts_ppx" := by decide
  have ordered : ∀ part, part ∈ parts.filter (fun part => part.1.isPositional) ++
      (parts.filter fun part => !part.1.isPositional) ↔ part ∈ parts := by
    intro part
    cases positional : part.1.isPositional <;> simp [positional]
  rw [isUnbroken_join, List.forall_mem_cons, List.forall_mem_flatMap, and_iff_right named]
  simp only [ordered]

theorem render_isUnbroken_iff :
    (∃ command, render lookup values = .ok command ∧ IsUnbroken command) ↔
      ∀ parameter ∈ Parameter.all, AreUnbroken (wordsOf lookup values parameter) := by
  constructor
  · intro made parameter member
    obtain ⟨command, made, unbroken⟩ := made
    obtain ⟨parts, found, made⟩ := Failure.bind_eq_ok_iff.mp made
    obtain rfl := Except.ok.inj made
    obtain ⟨part, isPart, found⟩ := Failure.exists_of_mapM_eq_ok found member
    obtain ⟨words, wordsFound, same⟩ := Failure.bind_eq_ok_iff.mp found
    obtain rfl := Except.ok.inj same
    exact ⟨words, wordsFound, (isUnbroken_command_iff parts).mp unbroken (parameter, words) isPart⟩
  · intro each
    have every : ∀ parameter ∈ Parameter.all, ∃ part : Parameter × List Text,
        (wordsOf lookup values parameter >>= fun words => pure (parameter, words)) =
            (.ok part : Except Failure (Parameter × List Text)) ∧
          ∀ word ∈ part.2, IsUnbroken word := by
      intro parameter member
      obtain ⟨words, found, unbroken⟩ := each parameter member
      exact ⟨(parameter, words), by rw [found]; rfl, unbroken⟩
    obtain ⟨parts, found, unbroken⟩ := Failure.exists_mapM_and_forall_iff.mpr every
    refine ⟨_, ?_, (isUnbroken_command_iff parts).mpr unbroken⟩
    unfold render
    rw [found]
    rfl

/-- The header is a comment on a line of its own, in every file, exactly if each text that is given
can be looked up and no line ends in what is shown for it. -/
theorem header_isLineComment_iff (lookup : Lookup) (parameters : Parameters) :
    (∃ command, render lookup (valuesOf parameters) = .ok command ∧ IsLineComment (header command)) ↔
      ∀ text ∈ Parameter.all.flatMap (textsOf parameters), IsShownUnbroken lookup text := by
  calc (∃ command, render lookup (valuesOf parameters) = .ok command ∧
          IsLineComment (header command))
      ↔ ∃ command, render lookup (valuesOf parameters) = .ok command ∧ IsUnbroken command :=
        exists_congr fun command => and_congr_right' (isLineComment_header_iff command)
    _ ↔ ∀ parameter ∈ Parameter.all, AreUnbroken (wordsOf lookup (valuesOf parameters) parameter) :=
        render_isUnbroken_iff
    _ ↔ ∀ parameter ∈ Parameter.all, ∀ text ∈ textsOf parameters parameter,
          IsShownUnbroken lookup text :=
        forall₂_congr fun parameter _ => areUnbroken_wordsOf_iff parameters parameter
    _ ↔ ∀ text ∈ Parameter.all.flatMap (textsOf parameters), IsShownUnbroken lookup text :=
        List.forall_mem_flatMap.symm

/-- A pattern over two lines: the second line of the generated file is the rest of the command. -/
theorem header_of_broken_pattern :
    let disk := Disk.ofEntries [] [("src/a.ppx.ts".toList, [])]
    let parameters : Parameters :=
      { pattern := some "\n|ppx", addGenerationComment := true, sourceRoot := some "src" }
    let artifact : Artifact :=
      ⟨["import { z } from 'zod';"], ["export const A = 1;"]⟩
    ∃ command, render (lookupOn disk) (valuesOf parameters) = .ok command ∧
      Text.splitOn '\n' (artifact.render (some (header command))) =
        ["// Generated by ts_ppx v0.1.0 : ts_ppx src --pattern ".toList,
          "|ppx --add-generation-comment".toList, "import { z } from 'zod';".toList, [],
          "export const A = 1;".toList, []] ∧
      ¬ IsLineComment (header command) := by
  intro disk parameters artifact
  refine ⟨"ts_ppx src --pattern \n|ppx --add-generation-comment", by rfl, by rfl, ?_⟩
  exact fun comment => absurd ((isLineComment_header_iff _).mp comment) (by decide)

end Companion.CommandText
