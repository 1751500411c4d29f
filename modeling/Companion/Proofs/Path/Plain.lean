import Companion.Proofs.Path.Parts

/-!
# Plain paths

Paths put together from components, and among them the plain ones, which consist of names only. A
plain path is its own normal form; its parts and its continuations by names are plain.
-/

set_option autoImplicit false

namespace Companion.Path

/-- The path with given components, seen from the root or from a working directory. -/
def ofNames (rooted : Bool) (names : List Text) : Text :=
  (if rooted then ['/'] else []) ++ Text.join ['/'] names

/-- The components of a path as they are spelled, without the slash of the root. -/
def spelled (path : Text) : List Text :=
  Text.splitOn '/' (if isAbsolute path then path.drop 1 else path)

/-- Every component of the path is a name. -/
def IsPlain (path : Text) : Prop := ∀ name ∈ spelled path, IsName name

instance (path : Text) : Decidable (IsPlain path) :=
  inferInstanceAs (Decidable (∀ name ∈ spelled path, IsName name))

/-- What can stand between slashes and be found again there. -/
def IsPart (component : Text) : Prop := component ≠ [] ∧ '/' ∉ component

theorem IsName.isPart {component : Text} (name : IsName component) : IsPart component :=
  ⟨name.1, name.2.2.2⟩

variable {rooted : Bool} {names : List Text}

theorem areNames_concat {name : Text} (areNames : ∀ name ∈ names, IsName name)
    (isName : IsName name) : ∀ part ∈ names ++ [name], IsName part := by
  intro part member
  rcases List.mem_append.mp member with inside | isLast
  · exact areNames part inside
  · exact List.mem_singleton.mp isLast ▸ isName

/-! ## Telling paths by their components -/

theorem splitOn_join_names (some : names ≠ []) (areNames : ∀ name ∈ names, IsName name) :
    Text.splitOn '/' (Text.join ['/'] names) = names :=
  Text.splitOn_join some fun name member => (areNames name member).2.2.2

theorem isAbsolute_join_parts (areParts : ∀ part ∈ names, IsPart part) :
    isAbsolute (Text.join ['/'] names) = false := by
  cases names with
  | nil => rfl
  | cons name rest =>
      obtain ⟨some, clean⟩ := areParts name List.mem_cons_self
      obtain ⟨c, more, rfl⟩ := List.exists_cons_of_ne_nil some
      have different : c ≠ '/' := fun same => clean (same ▸ List.mem_cons_self)
      cases rest <;> simp [isAbsolute, different]

theorem isAbsolute_ofNames (areParts : ∀ part ∈ names, IsPart part) :
    isAbsolute (ofNames rooted names) = rooted := by
  cases rooted with
  | true => rfl
  | false => exact isAbsolute_join_parts areParts

theorem rootSlashes_ofNames (areParts : ∀ part ∈ names, IsPart part) :
    rootSlashes (ofNames rooted names) = if rooted then ['/'] else [] := by
  cases rooted with
  | true => exact rootSlashes_slash (isAbsolute_join_parts areParts)
  | false => exact rootSlashes_of_relative (isAbsolute_join_parts areParts)

theorem spelled_ofNames (some : names ≠ []) (areParts : ∀ part ∈ names, IsPart part) :
    spelled (ofNames rooted names) = names := by
  have split := Text.splitOn_join some fun part member => (areParts part member).2
  unfold spelled
  rw [isAbsolute_ofNames areParts]
  cases rooted <;> exact split

theorem spelled_ofNames_append_slash (some : names ≠ []) (areParts : ∀ part ∈ names, IsPart part)
    (way : Text) : spelled (ofNames rooted names ++ '/' :: way) = names ++ Text.splitOn '/' way := by
  have split : Text.splitOn '/' (Text.join ['/'] names ++ '/' :: way) =
      names ++ Text.splitOn '/' way := by
    rw [Text.splitOn_append_separator, Text.splitOn_join some fun part member =>
      (areParts part member).2]
  cases rooted with
  | true => exact split
  | false =>
      have someText : Text.join ['/'] names ≠ [] := by
        intro none
        have pieces := Text.splitOn_join some fun part member => (areParts part member).2
        rw [none, Text.splitOn_nil] at pieces
        exact (areParts [] (pieces ▸ List.mem_cons_self)).1 rfl
      have relative : isAbsolute (Text.join ['/'] names ++ '/' :: way) = false :=
        (isAbsolute_append someText _).trans (isAbsolute_join_parts areParts)
      unfold spelled
      rw [show ofNames false names = Text.join ['/'] names from rfl, relative]
      exact split

theorem ofNames_injective {otherRooted : Bool} {others : List Text} (some : names ≠ [])
    (someOther : others ≠ []) (areParts : ∀ part ∈ names, IsPart part)
    (areOthers : ∀ part ∈ others, IsPart part)
    (same : ofNames rooted names = ofNames otherRooted others) :
    rooted = otherRooted ∧ names = others := by
  constructor
  · exact (isAbsolute_ofNames areParts).symm.trans (same ▸ isAbsolute_ofNames areOthers)
  · exact (spelled_ofNames some areParts).symm.trans (same ▸ spelled_ofNames someOther areOthers)

theorem isPlain_iff {path : Text} : IsPlain path ↔
    ∃ rooted names, names ≠ [] ∧ (∀ name ∈ names, IsName name) ∧ path = ofNames rooted names := by
  constructor
  · intro plain
    refine ⟨isAbsolute path, spelled path, Text.splitOn_ne_nil _ _, plain, ?_⟩
    rw [ofNames, spelled, Text.join_splitOn]
    cases path with
    | nil => rfl
    | cons c rest =>
        by_cases slash : c = '/' <;> simp [isAbsolute, slash]
  · rintro ⟨rooted, names, some, areNames, rfl⟩
    rw [IsPlain, spelled_ofNames some fun name member => (areNames name member).isPart]
    exact areNames

/-! ## The last component -/

theorem ofNames_singleton (last : Text) : ofNames rooted [last] = ofNames rooted [] ++ last := by
  simp [ofNames]

theorem ofNames_concat {last : Text} (some : names ≠ []) :
    ofNames rooted (names ++ [last]) = ofNames rooted names ++ '/' :: last := by
  rw [ofNames, ofNames, Text.join_append some (by simp)]
  simp

theorem ofNames_append_last (last ending : Text) :
    ofNames rooted (names ++ [last ++ ending]) = ofNames rooted (names ++ [last]) ++ ending := by
  rw [ofNames, Text.join_append_last, ofNames, List.append_assoc]

/-- Components put together end inside the last one. -/
theorem exists_join_eq_concat {parts : List Text} (some : parts ≠ [])
    (areParts : ∀ part ∈ parts, IsPart part) :
    ∃ front c, c ≠ '/' ∧ Text.join ['/'] parts = front ++ [c] := by
  obtain ⟨init, last, shape⟩ := (List.eq_nil_or_concat parts).resolve_left some
  rw [List.concat_eq_append] at shape
  subst shape
  obtain ⟨someLast, clean⟩ := areParts last (by simp)
  obtain ⟨start, c, shape⟩ := (List.eq_nil_or_concat last).resolve_left someLast
  rw [List.concat_eq_append] at shape
  subst shape
  have different : c ≠ '/' := by
    rintro rfl
    simp at clean
  exact ⟨Text.join ['/'] (init ++ [start]), c, different, Text.join_append_last ['/'] init start [c]⟩

/-- A path of names ends inside a name. -/
theorem exists_ofNames_eq_concat (rooted : Bool) (some : names ≠ [])
    (areNames : ∀ name ∈ names, IsName name) :
    ∃ front c, c ≠ '/' ∧ ofNames rooted names = front ++ [c] := by
  obtain ⟨front, c, different, shape⟩ :=
    exists_join_eq_concat some fun name member => (areNames name member).isPart
  exact ⟨_, c, different, by rw [ofNames, shape, List.append_assoc]⟩

/-- A name continues a plain path. -/
theorem join_ofNames (areNames : ∀ name ∈ names, IsName name) {next : Text} (name : IsName next) :
    join (ofNames rooted names) next = ofNames rooted (names ++ [next]) := by
  rw [join_of_relative (isAbsolute_of_not_mem name.2.2.2)]
  by_cases none : names = []
  · subst none
    rw [List.nil_append, ofNames_singleton]
    cases rooted <;> rfl
  · obtain ⟨front, c, different, shape⟩ := exists_ofNames_eq_concat rooted none areNames
    rw [ofNames_concat none, shape, if_neg (by simp [different])]

theorem directory_ofNames (areNames : ∀ name ∈ names, IsName name) {last : Text}
    (clean : '/' ∉ last) : directory (ofNames rooted (names ++ [last])) = ofNames rooted names := by
  by_cases none : names = []
  · subst none
    rw [List.nil_append, ofNames_singleton]
    cases rooted with
    | true => exact directory_append_slash clean []
    | false => exact directory_of_not_mem clean
  · obtain ⟨front, c, different, shape⟩ := exists_ofNames_eq_concat rooted none areNames
    rw [ofNames_concat none, directory_append_slash clean, shape, if_neg (by simp [different]),
      dropFinalSlashes_concat different]

theorem base_ofNames {last : Text} (clean : '/' ∉ last) :
    base (ofNames rooted (names ++ [last])) = last := by
  by_cases none : names = []
  · subst none
    rw [List.nil_append, ofNames_singleton]
    cases rooted with
    | true => exact base_append_slash clean []
    | false => exact base_of_not_mem clean
  · rw [ofNames_concat none, base_append_slash clean]

/-! ## Normal forms -/

theorem follow_ofNames (areNames : ∀ name ∈ names, IsName name) (anywhere : Bool)
    (stack : List Text) :
    follow anywhere stack (ofNames rooted names) = names.reverse ++ stack := by
  cases rooted with
  | true => exact (follow_slash anywhere stack _).trans (follow_names areNames anywhere stack)
  | false => exact follow_names areNames anywhere stack

theorem components_ofNames (areNames : ∀ name ∈ names, IsName name) :
    components (ofNames rooted names) = names := by
  rw [components_eq, follow_ofNames areNames]
  simp

/-- The components of a normal form can be found again. -/
theorem isPart_of_mem_components {path component : Text} (member : component ∈ components path) :
    IsPart component := by
  obtain ⟨count, names, areNames, shape⟩ := exists_way path
  rw [shape, List.mem_append] at member
  rcases member with isUp | isNamed
  · rw [List.eq_of_mem_replicate isUp]
    exact ⟨by simp, by simp⟩
  · exact (areNames component isNamed).isPart

theorem normalize_eq_ofNames {path : Text}
    (root : rootSlashes path = if rooted then ['/'] else []) (some : components path ≠ []) :
    normalize path = ofNames rooted (components path) := by
  have notEmpty : (ofNames rooted (components path)).isEmpty = false := by
    obtain ⟨first, rest, shape⟩ := List.exists_cons_of_ne_nil some
    have isPart : IsPart first := isPart_of_mem_components (shape ▸ List.mem_cons_self)
    obtain ⟨c, more, rfl⟩ := List.exists_cons_of_ne_nil isPart.1
    cases rooted <;> cases rest <;> simp [ofNames, shape]
  have normal : rootSlashes path ++ Text.join ['/'] (components path) =
      ofNames rooted (components path) := by
    rw [root]
    rfl
  rw [normalize, normal, notEmpty]
  rfl

/-- A path that is not empty and consists of names is its own normal form. -/
theorem normalize_ofNames (some : names ≠ []) (areNames : ∀ name ∈ names, IsName name) :
    normalize (ofNames rooted names) = ofNames rooted names := by
  have same : components (ofNames rooted names) = names := components_ofNames areNames
  have root : rootSlashes (ofNames rooted names) = if rooted then ['/'] else [] :=
    rootSlashes_ofNames fun name member => (areNames name member).isPart
  have someComponents : components (ofNames rooted names) ≠ [] := by rwa [same]
  rw [normalize_eq_ofNames root someComponents, same]

theorem IsPlain.normalize_eq {path : Text} (plain : IsPlain path) : normalize path = path := by
  obtain ⟨rooted, names, some, areNames, rfl⟩ := isPlain_iff.mp plain
  exact normalize_ofNames some areNames

/-- When a normal form with an ending is a given path. -/
theorem normalize_append_eq_ofNames_iff {path last ending : Text} {otherRooted : Bool}
    (root : rootSlashes path = if rooted then ['/'] else []) (endingIsPart : IsPart ending)
    (areParts : ∀ part ∈ names ++ [last], IsPart part)
    (apart : names ≠ [] ∨ last ≠ ending ∧ last ≠ '.' :: ending) :
    normalize path ++ ending = ofNames otherRooted (names ++ [last]) ↔
      rooted = otherRooted ∧ ∃ stem, last = stem ++ ending ∧ components path = names ++ [stem] := by
  by_cases none : components path = []
  · -- the ending then stands alone, or behind the dot of the empty path
    have isEnding : ∃ short, IsPart short ∧ (short = ending ∨ short = '.' :: ending) ∧
        normalize path ++ ending = ofNames rooted [short] := by
      cases rooted with
      | true => exact ⟨ending, endingIsPart, .inl rfl, by simp [normalize, root, none, ofNames]⟩
      | false =>
          refine ⟨'.' :: ending, ⟨by simp, by simpa using endingIsPart.2⟩, .inr rfl, ?_⟩
          simp [normalize, root, none, ofNames]
    obtain ⟨short, shortIsPart, isShort, shape⟩ := isEnding
    rw [shape]
    constructor
    · intro same
      have isNames := (ofNames_injective (by simp) (by simp) (by simpa using shortIsPart) areParts
        same).2
      have empty : names = [] := by
        have lengths := congrArg List.length isNames
        simpa using lengths
      subst empty
      obtain rfl : short = last := by simpa using isNames
      rcases apart with some | ⟨notEnding, notDot⟩
      · exact absurd rfl some
      · exact absurd isShort (not_or.mpr ⟨notEnding, notDot⟩)
    · rintro ⟨_, stem, _, found⟩
      rw [none] at found
      simp at found
  · obtain ⟨init, stem, shape⟩ := (List.eq_nil_or_concat (components path)).resolve_left none
    rw [List.concat_eq_append] at shape
    have areComponents : ∀ part ∈ init ++ [stem ++ ending], IsPart part := by
      intro part member
      rcases List.mem_append.mp member with inside | isLast
      · exact isPart_of_mem_components (shape ▸ List.mem_append_left _ inside)
      · have stemMember : stem ∈ components path := by simp [shape]
        have stemIsPart : IsPart stem := isPart_of_mem_components stemMember
        rw [List.mem_singleton.mp isLast]
        exact ⟨by simp [stemIsPart.1], by simp [stemIsPart.2, endingIsPart.2]⟩
    rw [normalize_eq_ofNames root none, shape, ← ofNames_append_last]
    constructor
    · intro same
      obtain ⟨sameRoot, sameNames⟩ :=
        ofNames_injective (by simp) (by simp) areComponents areParts same
      obtain ⟨rfl, sameLast⟩ := List.append_inj' sameNames rfl
      exact ⟨sameRoot, stem, by simpa using sameLast.symm, rfl⟩
    · rintro ⟨rfl, other, rfl, found⟩
      obtain ⟨rfl, sameStem⟩ := List.append_inj' found rfl
      obtain rfl : stem = other := by simpa using sameStem
      rfl

end Companion.Path
