import Companion.Proofs.Path.Way
import Companion.Proofs.Specifier

/-!
# Relative specifiers

The specifier by which a file imports a module leads back from the directory of the file to the module
once the ending that was dropped is put behind it, as long as the module does not lie above the file.
Of the paths themselves this holds if both start at the same place, the root or the working directory;
of their absolute forms it always does.
-/

set_option autoImplicit false

namespace Companion.Path

/-- Two paths start at the same root, or at a working directory that neither of them leaves. Two opening
slashes are a root of their own. -/
structure ShareOrigin (path other : Text) : Prop where
  opens : rootSlashes path = rootSlashes other
  stays : isAbsolute path = false →
    (components path).head? ≠ some up ∧ (components other).head? ≠ some up

def IsAtOrAbove (path directory : Text) : Prop := components path <+: components directory

instance (path directory : Text) : Decidable (IsAtOrAbove path directory) :=
  inferInstanceAs (Decidable (_ <+: _))

theorem ShareOrigin.areNames {path other : Text} (shared : ShareOrigin path other) :
    (∀ name ∈ components path, IsName name) ∧ ∀ name ∈ components other, IsName name := by
  have same := isAbsolute_congr shared.opens
  cases absolute : isAbsolute path with
  | true => exact ⟨isName_of_isAbsolute absolute, isName_of_isAbsolute (same ▸ absolute)⟩
  | false =>
      obtain ⟨stays, otherStays⟩ := shared.stays absolute
      exact ⟨areNames_of_head?_ne stays, areNames_of_head?_ne otherStays⟩

end Companion.Path

namespace Companion.Specifier

open Companion.Path (IsName IsAtOrAbove ShareOrigin up)

/-! ## Endings -/

/-- The ending of a TypeScript file that a name has, if it has one. -/
def extension (name : Text) : Text :=
  if Text.endsWith name ".ts" then ".ts" else if Text.endsWith name ".tsx" then ".tsx" else []

theorem extension_suffix (name : Text) : extension name <:+ name := by
  unfold extension
  split
  · next ends => exact List.isSuffixOf_iff_suffix.mp ends
  · split
    · next ends => exact List.isSuffixOf_iff_suffix.mp ends
    · exact List.nil_suffix

private theorem endsWith_reverse (stem ending : Text) :
    Text.endsWith stem.reverse ending = ending.reverse.isPrefixOf stem := by
  rw [Text.endsWith, List.isSuffixOf, List.reverse_reverse]

theorem dropExtension_append_extension {path : Text} (final : path.getLast? ≠ some '\n') :
    dropExtension path ++ extension path = path := by
  obtain ⟨stem, rfl⟩ : ∃ stem : Text, path = stem.reverse := ⟨path.reverse, by simp⟩
  rw [List.getLast?_reverse] at final
  rw [extension, endsWith_reverse, endsWith_reverse, dropExtension, List.reverse_reverse]
  split
  next _ body final' unfinished =>
    obtain ⟨rfl, rfl⟩ : stem = body ∧ [] = final' := by
      split at unfinished
      · exact absurd rfl final
      · exact Prod.mk.inj unfinished
    split
    next => simp
    next => simp
    next noTs noTsx =>
      have notTs : ¬ (".ts" : Text).reverse.isPrefixOf stem := by
        intro ends
        obtain ⟨rest, rfl⟩ := List.isPrefixOf_iff_prefix.mp ends
        exact noTs rest rfl
      have notTsx : ¬ (".tsx" : Text).reverse.isPrefixOf stem := by
        intro ends
        obtain ⟨rest, rfl⟩ := List.isPrefixOf_iff_prefix.mp ends
        exact noTsx rest rfl
      rw [if_neg notTs, if_neg notTsx, List.append_nil]

theorem extension_append_slash (front last : Text) :
    extension (front ++ '/' :: last) = extension last := by
  have inLast : ∀ ending : Text, '/' ∉ ending →
      Text.endsWith (front ++ '/' :: last) ending = Text.endsWith last ending := by
    intro ending clean
    rw [Bool.eq_iff_iff, Text.endsWith, Text.endsWith, List.isSuffixOf_iff_suffix,
      List.isSuffixOf_iff_suffix]
    have inside : last <:+ front ++ '/' :: last :=
      (List.suffix_cons '/' last).trans (List.suffix_append front _)
    constructor
    · intro ends
      cases List.suffix_or_suffix_of_suffix ends inside with
      | inl within => exact within
      | inr beyond =>
          -- an ending that goes on to the left of the last component has a slash
          obtain ⟨more, rfl⟩ := beyond
          obtain ⟨before, shape⟩ := ends
          have cut : before ++ more = front ++ ['/'] := by
            refine (List.append_left_inj last).mp ?_
            simp [shape]
          cases more using List.reverseRecOn with
          | nil => exact List.suffix_refl _
          | append_singleton more c =>
              rw [← List.append_assoc] at cut
              have slash : c = '/' := List.singleton_inj.mp (List.append_inj' cut rfl).2
              simp [slash] at clean
    · exact fun ends => ends.trans inside
  rw [extension, extension, inLast _ (by decide), inLast _ (by decide)]

/-! ## Marked ways -/

theorem eq_of_prefix_join {mark next : Text} {rest : List Text} (cleanMark : '/' ∉ mark)
    (clean : '/' ∉ next) (opens : mark ++ ['/'] <+: Text.join ['/'] (next :: rest)) :
    mark = next := by
  obtain ⟨behind, shape⟩ := opens
  rw [List.append_assoc, List.singleton_append, Text.join_cons_eq_flatMap] at shape
  cases rest with
  | nil =>
      rw [List.flatMap_nil, List.append_nil] at shape
      exact absurd (shape ▸ List.mem_append_right _ List.mem_cons_self) clean
  | cons other others =>
      rw [List.flatMap_cons, List.append_assoc, List.singleton_append] at shape
      exact (Text.append_cons_inj cleanMark clean shape).1

theorem relativeMark_of_isName {next : Text} (name : IsName next) (rest : List Text) :
    relativeMark (Text.join ['/'] (next :: rest)) = Text.join ['/'] (['.'] :: next :: rest) := by
  have unmarked : ∀ mark : Text, '/' ∉ mark → next ≠ mark →
      Text.startsWith (Text.join ['/'] (next :: rest)) (mark ++ ['/']) = false := by
    intro mark cleanMark other
    rw [Bool.eq_false_iff]
    intro opens
    have same := eq_of_prefix_join cleanMark name.2.2.2 (List.isPrefixOf_iff_prefix.mp opens)
    exact other same.symm
  have notUp : Text.startsWith (Text.join ['/'] (next :: rest)) "../" = false :=
    unmarked up (by decide) name.2.2.1
  have notHere : Text.startsWith (Text.join ['/'] (next :: rest)) "./" = false :=
    unmarked ['.'] (by decide) name.2.1
  rw [relativeMark, notUp, notHere]
  rfl

theorem relativeMark_up {rest : List Text} (some : rest ≠ []) :
    relativeMark (Text.join ['/'] (up :: rest)) = Text.join ['/'] (up :: rest) := by
  have opens : Text.startsWith (Text.join ['/'] (up :: rest)) "../" = true := by
    obtain ⟨next, more, rfl⟩ := List.exists_cons_of_ne_nil some
    rw [Text.join_cons_cons, List.append_assoc]
    exact List.isPrefixOf_iff_prefix.mpr ⟨_, rfl⟩
  rw [relativeMark, opens]
  rfl

/-- A marked way opens with steps up, or with a step that stays. -/
theorem exists_relativeMark_eq {down : List Text} (some : down ≠ [])
    (areDown : ∀ name ∈ down, IsName name) (count : Nat) :
    ∃ mark steps, (mark = ['.'] ∨ mark = up) ∧ (∀ step ∈ steps, step = up) ∧
      relativeMark (Text.join ['/'] (List.replicate count up ++ down)) =
        Text.join ['/'] (mark :: steps ++ down) ∧
      ∀ rooted stack, (mark :: steps).foldl (Path.push rooted) stack =
        (List.replicate count up).foldl (Path.push rooted) stack := by
  cases count with
  | zero =>
      obtain ⟨next, rest, rfl⟩ := List.exists_cons_of_ne_nil some
      have marked := relativeMark_of_isName (areDown next List.mem_cons_self) rest
      exact ⟨['.'], [], .inl rfl, List.forall_mem_nil _, marked, fun rooted stack => by simp⟩
  | succ count =>
      have goesOn : List.replicate count up ++ down ≠ [] := by simp [some]
      have marked := relativeMark_up goesOn
      exact ⟨up, List.replicate count up, .inr rfl, fun step => List.eq_of_mem_replicate, marked,
        fun rooted stack => rfl⟩

/-- The marked way from a directory to a path behind or beside it ends in the last component of the
path, and walked from the directory it leads to the path. -/
theorem exists_markedWay {target start : List Text} (areTarget : ∀ name ∈ target, IsName name)
    (areStart : ∀ name ∈ start, IsName name) (apart : ¬ target <+: start) :
    ∃ mark steps front last, (mark = ['.'] ∨ mark = up) ∧ target = front ++ [last] ∧
      relativeMark (Path.wayTo target start) =
        Text.join ['/'] (mark :: steps) ++ '/' :: last ∧
      ∀ rooted, Path.follow rooted start.reverse (relativeMark (Path.wayTo target start)) =
        target.reverse := by
  obtain ⟨common, passed, down, rfl, rfl, someDown, way⟩ := Path.exists_wayTo_eq apart
  have areDown : ∀ name ∈ down, IsName name := fun name member =>
    areTarget name (List.mem_append_right _ member)
  have arePassed : ∀ name ∈ passed, IsName name := fun name member =>
    areStart name (List.mem_append_right _ member)
  obtain ⟨mark, steps, isMark, areUp, marked, sameSteps⟩ :=
    exists_relativeMark_eq someDown areDown passed.length
  obtain ⟨front, last, rfl⟩ : ∃ front last, down = front ++ [last] :=
    ⟨_, _, (List.dropLast_concat_getLast someDown).symm⟩
  have clean : ∀ part ∈ mark :: steps ++ (front ++ [last]), '/' ∉ part := by
    intro part member
    cases List.mem_append.mp member with
    | inl isStep =>
        have isStep : part = ['.'] ∨ part = up := by
          cases isStep with
          | head => exact isMark
          | tail _ above => exact .inr (areUp part above)
        cases isStep with
        | inl here => exact here ▸ by decide
        | inr above => exact above ▸ by decide
    | inr isDown => exact (areDown part isDown).2.2.2
  refine ⟨mark, steps ++ front, common ++ front, last, isMark, by simp, ?_, ?_⟩
  · rw [way, marked, ← List.append_assoc, Text.join_append (by simp) (by simp)]
    simp
  · intro rooted
    rw [way, marked, Path.follow, Text.splitOn_join (by simp) clean, List.foldl_append, sameSteps,
      ← List.foldl_append, Path.foldl_push_way rooted arePassed areDown]

theorem isRelative_of_mark {mark : Text} (isMark : mark = ['.'] ∨ mark = up) (more : List Text)
    (stem : Text) : IsRelative (Text.join ['/'] (mark :: more) ++ '/' :: stem) := by
  rw [Text.join_cons_eq_flatMap, List.append_assoc]
  obtain ⟨behind, shape⟩ : ∃ behind : Text,
      more.flatMap (['/'] ++ ·) ++ '/' :: stem = '/' :: behind := by
    cases more with
    | nil => exact ⟨stem, rfl⟩
    | cons next rest => exact ⟨_, rfl⟩
  rw [shape]
  cases isMark with
  | inl here => exact .inl (here ▸ List.isPrefixOf_iff_prefix.mpr ⟨behind, rfl⟩)
  | inr above => exact .inr (above ▸ List.isPrefixOf_iff_prefix.mpr ⟨behind, rfl⟩)

/-! ## The way back -/

theorem components_importingDirectory (file : Text) :
    Path.components (importingDirectory file) = Path.components (Path.directory file) := by
  rw [importingDirectory]
  cases Path.directory file with
  | nil => rfl
  | cons c rest => rfl

theorem rootSlashes_importingDirectory (file : Text) :
    Path.rootSlashes (importingDirectory file) = Path.rootSlashes file := by
  rw [importingDirectory, ← Path.rootSlashes_directory file]
  cases Path.directory file with
  | nil => rfl
  | cons c rest => rfl

theorem base_normalize {path last : Text} {front : List Text}
    (shape : Path.components path = front ++ [last]) : Path.base (Path.normalize path) = last := by
  have member : last ∈ Path.components path := by simp [shape]
  have clean : '/' ∉ last := (Path.isPart_of_mem_components member).2
  have some : Path.components path ≠ [] := by simp [shape]
  rw [Path.normalize_eq_of_components some, shape]
  by_cases alone : front = []
  · subst alone
    rcases Path.rootSlashes_cases path with ⟨-, opens⟩ | ⟨-, opens | opens⟩ <;> rw [opens]
    · exact Path.base_of_not_mem clean
    · exact Path.base_append_slash clean []
    · exact Path.base_append_slash clean ['/']
  · rw [Text.join_append alone (by simp), List.append_assoc, ← List.append_assoc]
    exact Path.base_append_slash clean _

private theorem getLast?_append_slash_ne {front last : Text} (some : last ≠ []) {c : Char}
    (absent : c ∉ last) : (front ++ '/' :: last).getLast? ≠ Option.some c := by
  intro ends
  rw [List.append_cons, List.getLast?_append] at ends
  cases final : last.getLast? with
  | none => exact some (List.getLast?_eq_none_iff.mp final)
  | some other =>
      rw [final, Option.some_or] at ends
      exact absent (List.mem_of_getLast? (final.trans ends))

/-- The marked way without the ending of its last component is a relative specifier. With the ending it
is the marked way again, which leads to the path. -/
theorem exists_dropExtension_eq {target start : List Text} (areTarget : ∀ name ∈ target, IsName name)
    (areStart : ∀ name ∈ start, IsName name) (apart : ¬ target <+: start)
    (clean : ∀ name ∈ target, '\n' ∉ name) :
    ∃ front last, target = front ++ [last] ∧
      IsRelative (dropExtension (relativeMark (Path.wayTo target start))) ∧
      Path.isAbsolute (relativeMark (Path.wayTo target start)) = false ∧
      dropExtension (relativeMark (Path.wayTo target start)) ++ extension last =
        relativeMark (Path.wayTo target start) ∧
      ∀ rooted, Path.follow rooted start.reverse (relativeMark (Path.wayTo target start)) =
        target.reverse := by
  obtain ⟨mark, steps, front, last, isMark, isLast, way, leads⟩ :=
    exists_markedWay areTarget areStart apart
  have member : last ∈ target := by simp [isLast]
  have back : dropExtension (Text.join ['/'] (mark :: steps) ++ '/' :: last) ++ extension last =
      Text.join ['/'] (mark :: steps) ++ '/' :: last := by
    rw [← extension_append_slash]
    exact dropExtension_append_extension
      (getLast?_append_slash_ne (areTarget last member).1 (clean last member))
  obtain ⟨stem, ends⟩ := extension_suffix last
  have shorter : dropExtension (Text.join ['/'] (mark :: steps) ++ '/' :: last) =
      Text.join ['/'] (mark :: steps) ++ '/' :: stem := by
    refine (List.append_left_inj (extension last)).mp ?_
    rw [back, List.append_assoc, List.cons_append, ends]
  refine ⟨front, last, isLast, ?_, ?_, by rw [way, back], leads⟩
  · rw [way, shorter]
    exact isRelative_of_mark isMark steps stem
  · rw [way]
    exact (isRelative_of_mark isMark steps last).isAbsolute_eq_false

/-- The specifier of a module, with the ending that its file has, leads back to the file. -/
theorem relativeImport_points_back {source file : Text} (some : source ≠ []) (clean : '\n' ∉ source)
    (shared : ShareOrigin source file)
    (apart : ¬ IsAtOrAbove source (importingDirectory file)) (working : Text) :
    ∃ specifier, relativeImport working source file = .ok specifier ∧ IsRelative specifier ∧
      Path.normalize (Path.join (importingDirectory file)
        (specifier ++ extension (Path.base (Path.normalize source)))) = Path.normalize source := by
  obtain ⟨sourceNames, fileNames⟩ := shared.areNames
  have directoryNames := Path.areNames_directory fileNames
  rw [← components_importingDirectory] at directoryNames
  have sameSlashes : Path.rootSlashes (importingDirectory file) = Path.rootSlashes source := by
    rw [rootSlashes_importingDirectory, shared.opens]
  have way := Path.relative_eq_wayTo (Path.isAbsolute_congr sameSlashes).symm sourceNames
    directoryNames working
  obtain ⟨front, last, isLast, isRelative, relative, back, leads⟩ :=
    exists_dropExtension_eq sourceNames directoryNames apart fun name member inside =>
      clean (Path.mem_of_mem_components member inside)
  refine ⟨_, if_neg (by simp [some]), by rwa [way], ?_⟩
  rw [base_normalize isLast, way, back]
  apply Path.normalize_congr
  · rw [Path.rootSlashes_join relative, sameSlashes]
  · rw [Path.components_join relative, leads, List.reverse_reverse]

theorem relativeImport_points_back_beside : ∃ specifier,
    relativeImport "/work" "lib/../src/.ts/a.ppx.ts" "src/testing/a.ts" = .ok specifier ∧
      IsRelative specifier ∧
      Path.normalize (Path.join "src/testing" (specifier ++ (".ts" : Text))) =
        "src/.ts/a.ppx.ts".toList :=
  relativeImport_points_back (by decide) (by decide) ⟨by decide, by decide⟩ (by decide) "/work"

/-- Behind two opening slashes lies another root, to which no relative specifier leads. -/
theorem relativeImport_other_root :
    ("//a/b.ts" : Text) ≠ [] ∧ '\n' ∉ "//a/b.ts".toList ∧ '\n' ∉ "/a/c.ts".toList ∧
      Path.isAbsolute "//a/b.ts" = true ∧ Path.isAbsolute "/a/c.ts" = true ∧
      ¬ IsAtOrAbove "//a/b.ts" (importingDirectory "/a/c.ts") ∧
      relativeImport "/" "//a/b.ts" "/a/c.ts" = .ok "./b" ∧
      ∀ ending ∈ ([[], ".ts", ".tsx"] : List Text),
        Path.normalize (Path.join (importingDirectory "/a/c.ts") ("./b" ++ ending)) ≠
          Path.normalize "//a/b.ts" := by
  decide

/-- Seen from an absolute working directory, the specifier leads back to the module whatever kinds the
two paths are of. -/
theorem relativeImport_leads_back {working source file : Text}
    (rooted : Path.isAbsolute working = true) (some : source ≠ [])
    (clean : '\n' ∉ Path.join working source)
    (apart : ¬ IsAtOrAbove (Path.absolute working source)
      (Path.absolute working (importingDirectory file))) :
    ∃ specifier, relativeImport working source file = .ok specifier ∧ IsRelative specifier ∧
      Path.components (Path.join (Path.absolute working (importingDirectory file))
        (specifier ++ extension (Path.base (Path.absolute working source)))) =
          Path.components (Path.absolute working source) := by
  have areTarget := Path.areNames_absolute rooted source
  have areStart := Path.areNames_absolute rooted (importingDirectory file)
  obtain ⟨front, last, isLast, isRelative, relative, back, leads⟩ :=
    exists_dropExtension_eq areTarget areStart apart fun name member inside => by
      rw [Path.absolute, Path.components_normalize] at member
      exact clean (Path.mem_of_mem_components member inside)
  have isBase : Path.base (Path.absolute working source) = last := by
    rw [← base_normalize isLast, Path.absolute, Path.normalize_normalize]
  refine ⟨_, if_neg (by simp [some]), isRelative, ?_⟩
  rw [isBase, Path.relative, back, Path.components_join relative, leads, List.reverse_reverse]

example : relativeImport "/home/work" "src/a.ppx.ts" "/out/a.ts" =
    .ok "../home/work/src/a.ppx" := by
  decide

end Companion.Specifier
