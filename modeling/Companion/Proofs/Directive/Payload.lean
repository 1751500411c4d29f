import Companion.Directive
import Companion.Proofs.Text.Words

/-!
# Payloads of directives

A payload lists generators: names in parentheses with commas between them. Blanks count little: runs of
them are single spaces, and those around a name, a comma or the parentheses are none. Every list of names
can be laid out, and is read back, in all the ways that differ in blanks.
-/

set_option autoImplicit false

namespace Companion.Directive

open Text

/-- A text that lists segments which are not blank. -/
structure Lists (segments : List Text) (text : Text) : Prop where
  some : segments ≠ []
  apart : ∀ segment ∈ segments, ',' ∉ segment
  visible : ∀ segment ∈ segments, ∃ c ∈ segment, isBlank c = false
  listed : text = '(' :: (join [','] segments ++ [')'])

/-- The names that directives can give generators. -/
structure IsGeneratorName (name : Text) : Prop where
  some : name ≠ []
  apart : ',' ∉ name
  spaced : IsSpaced name

/-- A name with blanks around it. -/
def IsPadded (name piece : Text) : Prop :=
  ∃ front back, AreBlank front ∧ AreBlank back ∧ piece = front ++ (name ++ back)

/-- A payload that lists names, laid out with blanks around names, commas and parentheses. -/
def LaysOut (names : List Text) (payload : Text) : Prop :=
  ∃ front pieces back, AreBlank front ∧ AreBlank back ∧ List.Forall₂ IsPadded names pieces ∧
    payload = front ++ '(' :: (join [','] pieces ++ ')' :: back)

variable {text payload : Text} {names segments : List Text}

/-! ## Reading -/

theorem payloadNames_parenthesized (inner : Text) :
    payloadNames ('(' :: (inner ++ [')'])) =
      if [] ∈ (splitOn ',' inner).map trim then none else some ((splitOn ',' inner).map trim) := by
  have opens : startsWith ('(' :: (inner ++ [')'])) "(" = true := by simp [startsWith]
  have closes : endsWith ('(' :: (inner ++ [')'])) ")" = true :=
    List.isSuffixOf_iff_suffix.mpr (List.suffix_append ('(' :: inner) [')'])
  have between : Text.inner ('(' :: (inner ++ [')'])) = inner := by simp [Text.inner]
  rw [payloadNames, opens, closes, between]
  simp [List.any_eq_true]

theorem exists_parenthesized (listed : payloadNames text = some names) :
    ∃ inner, text = '(' :: (inner ++ [')']) := by
  unfold payloadNames at listed
  split at listed
  · next parenthesized =>
    obtain ⟨opens, closes⟩ := Bool.and_eq_true_iff.mp parenthesized
    obtain ⟨rest, rfl⟩ := List.isPrefixOf_iff_prefix.mp opens
    obtain ⟨front, whole⟩ := List.isSuffixOf_iff_suffix.mp closes
    cases front with
    | nil => cases whole
    | cons c inner =>
        obtain ⟨rfl, -⟩ := List.cons_eq_cons.mp whole
        exact ⟨inner, whole.symm⟩
  · cases listed

theorem payloadNames_eq_some_iff : payloadNames text = some names ↔
    ∃ segments, Lists segments text ∧ names = segments.map trim := by
  have visible_iff : ∀ segment, trim segment ≠ [] ↔ ∃ c ∈ segment, isBlank c = false := by
    intro segment
    simp [trim_eq_nil_iff, AreBlank]
  constructor
  · intro listed
    obtain ⟨inner, rfl⟩ := exists_parenthesized listed
    rw [payloadNames_parenthesized] at listed
    split at listed
    · cases listed
    · next visible =>
      refine ⟨splitOn ',' inner, ⟨splitOn_ne_nil ',' inner, ?_, ?_, ?_⟩, (Option.some.inj listed).symm⟩
      · exact fun segment => not_mem_of_mem_splitOn
      · intro segment member
        exact (visible_iff segment).mp fun none => visible (List.mem_map.mpr ⟨segment, member, none⟩)
      · rw [join_splitOn]
  · intro lists
    obtain ⟨segments, lists, rfl⟩ := lists
    have visible : [] ∉ segments.map trim := by
      intro blank
      obtain ⟨segment, member, none⟩ := List.mem_map.mp blank
      exact (visible_iff segment).mpr (lists.visible segment member) none
    rw [lists.listed, payloadNames_parenthesized, splitOn_join lists.some lists.apart, if_neg visible]

/-! ## Blanks -/

theorem collapse_parenthesized {front back : Text} (areFront : AreBlank front)
    (areBack : AreBlank back) (inner : Text) :
    collapse (front ++ '(' :: (inner ++ ')' :: back)) = '(' :: (singleSpaced inner ++ [')']) := by
  have opening : isBlank '(' = false := by decide
  have closing : isBlank ')' = false := by decide
  have spaced : singleSpaced (front ++ '(' :: (inner ++ ')' :: back)) =
      singleSpaced front ++ '(' :: (singleSpaced inner ++ ')' :: singleSpaced back) := by
    rw [singleSpaced_append_cons front _ opening, singleSpaced_append_cons inner _ closing]
  have ending : '(' :: (singleSpaced inner ++ ')' :: singleSpaced back) =
      ('(' :: singleSpaced inner ++ [')']) ++ singleSpaced back := by simp
  rw [collapse_eq_trim, spaced, trim, trimStart_append_of_areBlank (areBlank_singleSpaced areFront),
    trimStart_cons _ opening, ending, trimEnd_append_of_areBlank (areBlank_singleSpaced areBack),
    trimEnd_concat _ closing]
  rfl

/-- The segments of a list whose blanks are collapsed are names. -/
theorem map_trim_singleSpaced (inner : Text) :
    (splitOn ',' (singleSpaced inner)).map trim = (splitOn ',' inner).map collapse := by
  have comma : isBlank ',' = false := by decide
  rw [splitOn_singleSpaced comma, List.map_map]
  exact List.map_congr_left fun piece _ => (collapse_eq_trim piece).symm

/-- Collapsing a second time changes nothing, so neither does spacing the list. -/
theorem singleSpaced_inner {inner : Text} (collapsed : collapse payload = '(' :: (inner ++ [')'])) :
    singleSpaced inner = inner := by
  have none : AreBlank [] := List.forall_mem_nil _
  have again : collapse (collapse payload) = collapse payload := by
    simpa using (isSpaced_collapse payload).collapse_eq none none
  have spaced : collapse ('(' :: (inner ++ [')'])) = '(' :: (singleSpaced inner ++ [')']) :=
    collapse_parenthesized none none inner
  rw [collapsed, spaced] at again
  exact List.append_cancel_right (List.tail_eq_of_cons_eq again)

theorem isGeneratorName_of_mem (listed : payloadNames payload.collapse = some names) :
    names ≠ [] ∧ ∀ name ∈ names, IsGeneratorName name := by
  obtain ⟨inner, collapsed⟩ := exists_parenthesized listed
  rw [collapsed, payloadNames_parenthesized] at listed
  split at listed
  · cases listed
  · next visible =>
    obtain rfl := Option.some.inj listed
    have spaced := map_trim_singleSpaced inner
    rw [singleSpaced_inner collapsed] at spaced
    refine ⟨by simp [splitOn_ne_nil], ?_⟩
    intro name member
    refine ⟨fun none => visible (none ▸ member), ?_, ?_⟩
    · obtain ⟨segment, isSegment, rfl⟩ := List.mem_map.mp member
      exact fun comma => not_mem_of_mem_splitOn isSegment (mem_of_mem_trim comma)
    · rw [spaced] at member
      obtain ⟨segment, -, rfl⟩ := List.mem_map.mp member
      exact isSpaced_collapse segment

theorem collapse_of_isPadded {name piece : Text} (isName : IsGeneratorName name)
    (padded : IsPadded name piece) : collapse piece = name ∧ ',' ∉ piece := by
  obtain ⟨front, back, areFront, areBack, rfl⟩ := padded
  refine ⟨isName.spaced.collapse_eq areFront areBack, ?_⟩
  intro comma
  have visible : isBlank ',' = false := by decide
  rw [List.mem_append, List.mem_append] at comma
  rcases comma with comma | comma | comma
  · exact absurd (areFront ',' comma) (by simp [visible])
  · exact isName.apart comma
  · exact absurd (areBack ',' comma) (by simp [visible])

theorem collapse_of_arePadded {pieces : List Text} (areNames : ∀ name ∈ names, IsGeneratorName name)
    (padded : List.Forall₂ IsPadded names pieces) :
    pieces.map collapse = names ∧ ∀ piece ∈ pieces, ',' ∉ piece := by
  induction padded with
  | nil => exact ⟨rfl, List.forall_mem_nil _⟩
  | cons first rest ih =>
      obtain ⟨isName, areNames⟩ := List.forall_mem_cons.mp areNames
      obtain ⟨same, apart⟩ := collapse_of_isPadded isName first
      obtain ⟨others, othersApart⟩ := ih areNames
      refine ⟨?_, List.forall_mem_cons.mpr ⟨apart, othersApart⟩⟩
      rw [List.map_cons, same, others]

theorem payloadNames_of_laysOut (nonempty : names ≠ [])
    (areNames : ∀ name ∈ names, IsGeneratorName name) (laysOut : LaysOut names payload) :
    payloadNames payload.collapse = some names := by
  obtain ⟨front, pieces, back, areFront, areBack, padded, rfl⟩ := laysOut
  obtain ⟨same, apart⟩ := collapse_of_arePadded areNames padded
  have some : pieces ≠ [] := by
    rintro rfl
    exact nonempty same.symm
  have visible : [] ∉ names := fun member => (areNames [] member).some rfl
  rw [collapse_parenthesized areFront areBack, payloadNames_parenthesized, map_trim_singleSpaced,
    splitOn_join some apart, same, if_neg visible]

/-- The names of a directive: its payload, with single spaces for runs of blanks and none at the ends, is
a list of segments that are not blank; the names are the segments without the blanks around them. Read so,
names hold no commas and no blanks but single spaces between words, and every layout of such names is read
as them. -/
theorem ofPayload_reads_lists (payload : Text) (location : Location) :
    (∀ directive, ofPayload payload location = .ok directive ↔ ∃ words segments,
      HasWords words payload ∧ Lists segments (join [' '] words) ∧
        directive = ⟨segments.map trim, location.line⟩) ∧
    (∀ directive, ofPayload payload location = .ok directive →
      directive.generators ≠ [] ∧ ∀ name ∈ directive.generators, IsGeneratorName name) ∧
    ∀ names, names ≠ [] → (∀ name ∈ names, IsGeneratorName name) → LaysOut names payload →
      ofPayload payload location = .ok ⟨names, location.line⟩ := by
  have read_iff : ∀ directive, ofPayload payload location = .ok directive ↔
      ∃ names, payloadNames payload.collapse = some names ∧ directive = ⟨names, location.line⟩ := by
    intro directive
    unfold ofPayload
    cases payloadNames payload.collapse with
    | none => simp
    | some names => simp [eq_comm]
  refine ⟨?_, ?_, ?_⟩
  · intro directive
    rw [read_iff]
    constructor
    · intro reads
      obtain ⟨names, listed, rfl⟩ := reads
      obtain ⟨segments, lists, rfl⟩ := payloadNames_eq_some_iff.mp listed
      exact ⟨words payload, segments, hasWords_words payload, lists, rfl⟩
    · intro reads
      obtain ⟨_, segments, has, lists, rfl⟩ := reads
      obtain rfl := has.words_eq
      exact ⟨_, payloadNames_eq_some_iff.mpr ⟨segments, lists, rfl⟩, rfl⟩
  · intro directive reads
    obtain ⟨names, listed, rfl⟩ := (read_iff directive).mp reads
    exact isGeneratorName_of_mem listed
  · intro names nonempty areNames laysOut
    exact (read_iff _).mpr ⟨names, payloadNames_of_laysOut nonempty areNames laysOut, rfl⟩

/-- Names may hold parentheses, and a line end is a blank like any other. -/
theorem ofPayload_reads_layout :
    LaysOut ["zod", "a (b", "zod"] "\n( zod ,\u2028a (b,zod)\t" ∧
      ofPayload "\n( zod ,\u2028a (b,zod)\t" ⟨"a.ts", some 3⟩ = .ok ⟨["zod", "a (b", "zod"], some 3⟩ := by
  have isZod : IsGeneratorName "zod" := ⟨by decide, by decide, ["zod"], by decide, rfl⟩
  have isPair : IsGeneratorName "a (b" := ⟨by decide, by decide, ["a", "(b"], by decide, rfl⟩
  have padded : List.Forall₂ IsPadded ["zod".toList, "a (b".toList, "zod".toList]
      [" zod ".toList, "\u2028a (b".toList, "zod".toList] :=
    .cons ⟨[' '], [' '], by decide, by decide, rfl⟩
      (.cons ⟨['\u2028'], [], by decide, by decide, rfl⟩
        (.cons ⟨[], [], by decide, by decide, rfl⟩ .nil))
  have laysOut : LaysOut ["zod", "a (b", "zod"] "\n( zod ,\u2028a (b,zod)\t" :=
    ⟨['\n'], _, ['\t'], by decide, by decide, padded, rfl⟩
  have areNames : ∀ name ∈ ["zod".toList, "a (b".toList, "zod".toList], IsGeneratorName name :=
    List.forall_mem_cons.mpr ⟨isZod, List.forall_mem_cons.mpr ⟨isPair,
      List.forall_mem_cons.mpr ⟨isZod, List.forall_mem_nil _⟩⟩⟩
  exact ⟨laysOut, (ofPayload_reads_lists _ _).2.2 _ (by decide) areNames laysOut⟩

end Companion.Directive
