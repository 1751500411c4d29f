import Companion.Proofs.Directive.Payload
import Companion.Proofs.Directive.Tags

/-!
# Comments that are laid out line by line

A comment is laid out with one line for each directive and for each text between directives. Reading it
gives its directives back, each with the line on which its tag stands: the lines of the body, from which
asterisks and blanks are stripped, are the lines of the comment, and nothing but blanks stands between a
directive and the next tag.
-/

set_option autoImplicit false

namespace Companion.DocComment

open Text Directive

inductive Line where
  | directive (generators : List Text)
  | other (text : Text)

namespace Line

/-- What a line says; directives are those of the tags named `name`. -/
def text (name : Text) : Line → Text
  | .directive generators => '@' :: (name ++ '(' :: (join ", " generators ++ [')']))
  | .other text => text

def source (name : Text) (line : Line) : Text := " * " ++ (line.text name ++ "\n")

end Line

/-- The comment that consists of some lines. -/
def render (name : Text) (lines : List Line) : Text :=
  "/**\n" ++ (lines.flatMap (Line.source name) ++ " */")

/-- Blank lines only, up to a line that starts with a tag or to the end. -/
inductive OnlyBlanksAhead : List Line → Prop where
  | none : OnlyBlanksAhead []
  | directive {generators : List Text} {rest : List Line} :
      OnlyBlanksAhead (.directive generators :: rest)
  | tag {text : Text} {rest : List Line} : StartsWithTag text → OnlyBlanksAhead (.other text :: rest)
  | blank {text : Text} {rest : List Line} :
      AreBlank text → OnlyBlanksAhead rest → OnlyBlanksAhead (.other text :: rest)

/-- The generators of a directive that holds no tag but its own. -/
structure AreGenerators (generators : List Text) : Prop where
  some : generators ≠ []
  names : ∀ generator ∈ generators, IsGeneratorName generator
  noTag : ∀ generator ∈ generators, '@' ∉ generator

/-- Directives of the tags named `name` between lines without such tags. -/
inductive IsArranged (name : Text) : List Line → Prop where
  | nil : IsArranged name []
  | directive {generators : List Text} {rest : List Line} :
      AreGenerators generators → OnlyBlanksAhead rest → IsArranged name rest →
      IsArranged name (.directive generators :: rest)
  | other {text : Text} {rest : List Line} :
      '\n' ∉ text → ¬HoldsTag name text → IsArranged name rest → IsArranged name (.other text :: rest)

/-- The directives of some lines of a comment. Each is on the line that the line ends in front of its at
sign make it; `above` is the comment up to these lines. -/
def directives (name : Text) (location : Location) : Text → List Line → List Directive
  | _, [] => []
  | above, .directive generators :: rest =>
    ⟨generators, location.line.map (· + (List.count '\n' (above ++ " * ") : Int))⟩ ::
      directives name location (above ++ Line.source name (.directive generators)) rest
  | above, .other text :: rest => directives name location (above ++ Line.source name (.other text)) rest

variable {name text : Text} {line : Line} {lines rest : List Line} {generators : List Text}

/-! ## From a comment to its body -/

theorem stripLine_asterisk (text : Text) : stripLine (' ' :: '*' :: ' ' :: text) = trim text := by
  have space : AreBlank [' '] := by decide
  have asterisk : isBlank '*' = false := by decide
  have behind (rest : Text) : trimStart (' ' :: rest) = trimStart rest :=
    trimStart_append_of_areBlank space
  have trimmed : trim (' ' :: '*' :: ' ' :: text) = '*' :: trimEnd (' ' :: text) := by
    rw [trim, behind, trimStart_cons _ asterisk]
    exact trimEnd_append_cons [] _ asterisk
  rw [stripLine, trimmed]
  exact (trim_trimEnd _).trans (congrArg trimEnd (behind text))

theorem not_mem_listed {c : Char} (notInNames : ∀ generator ∈ generators, c ∉ generator)
    (other : c ∉ ['(', ',', ' ', ')']) : c ∉ '(' :: (join ", " generators ++ [')']) := by
  simp only [List.mem_cons, List.not_mem_nil, or_false, not_or] at other
  obtain ⟨opening, comma, space, closing⟩ := other
  have notJoined : c ∉ join ", " generators := by
    intro inside
    cases exists_of_mem_join inside with
    | inl separates => exact absurd separates (by simp [comma, space])
    | inr inside =>
        obtain ⟨generator, isGenerator, inside⟩ := inside
        exact notInNames generator isGenerator inside
  exact List.not_mem_cons_of_ne_of_not_mem opening (List.not_mem_append notJoined (by simp [closing]))

theorem AreGenerators.inLine (areGenerators : AreGenerators generators) (isName : IsTagName name) :
    '\n' ∉ (Line.directive generators).text name := by
  have notInNames : ∀ generator ∈ generators, '\n' ∉ generator := by
    intro generator member inside
    have space := (areGenerators.names generator member).spaced.eq_space inside (by decide)
    cases space
  exact List.not_mem_cons_of_ne_of_not_mem (by decide)
    (List.not_mem_append (isName.not_mem (by decide)) (not_mem_listed notInNames (by decide)))

theorem IsArranged.inLine (arranged : IsArranged name lines) (isName : IsTagName name) :
    ∀ line ∈ lines, '\n' ∉ line.text name := by
  induction arranged with
  | nil => exact List.forall_mem_nil _
  | other here _ _ ih => exact List.forall_mem_cons.mpr ⟨here, ih⟩
  | directive areGenerators _ _ ih => exact List.forall_mem_cons.mpr ⟨areGenerators.inLine isName, ih⟩

def bodyLines (name : Text) (lines : List Line) : Text :=
  lines.flatMap fun line => trim (line.text name) ++ ['\n']

theorem join_stripLine (inLine : ∀ line ∈ lines, '\n' ∉ line.text name) :
    join ['\n'] ((splitOn '\n' (lines.flatMap (Line.source name) ++ [' '])).map stripLine) =
      bodyLines name lines := by
  induction lines with
  | nil => rfl
  | cons line rest ih =>
      obtain ⟨here, inLine⟩ := List.forall_mem_cons.mp inLine
      have apart : (line :: rest).flatMap (Line.source name) ++ [' '] =
          (' ' :: '*' :: ' ' :: line.text name) ++
            '\n' :: (rest.flatMap (Line.source name) ++ [' ']) := by
        simp [Line.source]
      have sameLine : '\n' ∉ ' ' :: '*' :: ' ' :: line.text name := by simp [here]
      have some : (splitOn '\n' (rest.flatMap (Line.source name) ++ [' '])).map stripLine ≠ [] := by
        simp [splitOn_ne_nil]
      rw [apart, splitOn_append_separator, splitOn_eq_singleton sameLine, List.map_append,
        join_append (by simp) some, ih inLine]
      simp [stripLine_asterisk, bodyLines]

theorem body_delimited (between : Text) : body ("/**" ++ (between ++ "*/")) =
    some (join ['\n'] ((splitOn '\n' between).map stripLine)) := by
  have opens : startsWith ("/**" ++ (between ++ "*/")) "/**" = true :=
    List.isPrefixOf_iff_prefix.mpr (List.prefix_append _ _)
  have closes : endsWith ("/**" ++ (between ++ "*/")) "*/" = true :=
    List.isSuffixOf_iff_suffix.mpr ⟨"/**" ++ between, List.append_assoc _ _ _⟩
  have inside : ((("/**".toList ++ (between ++ "*/")).drop 3).dropLast).dropLast = between := by
    simp
  rw [body, opens, closes, inside]
  simp

theorem body_render (inLine : ∀ line ∈ lines, '\n' ∉ line.text name) :
    body (render name lines) = some ('\n' :: bodyLines name lines) := by
  have whole : render name lines =
      "/**" ++ (('\n' :: (lines.flatMap (Line.source name) ++ [' '])) ++ "*/") := by
    simp [render]
  have some : (splitOn '\n' (lines.flatMap (Line.source name) ++ [' '])).map stripLine ≠ [] := by
    simp [splitOn_ne_nil]
  have first := join_append (List.cons_ne_nil (stripLine []) []) some ['\n']
  rw [join_stripLine inLine] at first
  rw [whole, body_delimited, splitOn_cons_separator]
  exact congrArg Option.some first

/-! ## From a body to its tags -/

/-- What is read of the lines below a line goes behind the last tag on it. -/
theorem readTags_bodyLines (inLine : '\n' ∉ line.text name) (above : Nat) :
    readTags true above (bodyLines name (line :: rest)) =
      joined (readTags true above (trim (line.text name)))
        ('\n' :: (readTags true (above + 1) (bodyLines name rest)).1,
          (readTags true (above + 1) (bodyLines name rest)).2) := by
  have sameLine : '\n' ∉ trim (line.text name) := fun inside => inLine (mem_of_mem_trim inside)
  rw [← readTags_append_line true above sameLine]
  simp [bodyLines]

theorem readTags_of_startsWithTag (starts : StartsWithTag text) (above : Nat) :
    ∃ tag tags, readTags true above (trim text) = ([], tag :: tags) := by
  obtain ⟨front, letter, back, areFront, isLetter, rfl⟩ := starts
  have visible : isBlank letter = false := by
    by_contra blank
    have noPart := isTagPart_of_isBlank (Bool.eq_true_of_not_eq_false blank)
    rw [isTagPart_of_isAsciiLetter isLetter] at noPart
    cases noPart
  have opening : isBlank '@' = false := by decide
  have trimmed : trim (front ++ '@' :: letter :: back) = '@' :: letter :: trimEnd back := by
    rw [trim, trimStart_append_of_areBlank areFront, trimStart_cons _ opening]
    exact trimEnd_append_cons ['@'] back visible
  rw [trimmed, readTags_cons]
  simp [isLetter]

theorem fst_readTags_bodyLines (starts : StartsWithTag (line.text name))
    (inLine : '\n' ∉ line.text name) (above : Nat) :
    (readTags true above (bodyLines name (line :: rest))).1 = [] := by
  obtain ⟨tag, tags, read⟩ := readTags_of_startsWithTag starts above
  rw [readTags_bodyLines inLine, read]
  rfl

theorem startsWithTag_directive (isName : IsTagName name) (generators : List Text) :
    StartsWithTag ((Line.directive generators).text name) := by
  obtain ⟨letter, rest, rfl, isLetter, -⟩ := isName
  exact ⟨[], letter, _, List.forall_mem_nil _, isLetter, rfl⟩

/-- No text but blanks goes behind a tag above. -/
theorem OnlyBlanksAhead.areBlank (ahead : OnlyBlanksAhead lines) (isName : IsTagName name)
    (inLine : ∀ line ∈ lines, '\n' ∉ line.text name) (above : Nat) :
    AreBlank (readTags true above (bodyLines name lines)).1 := by
  induction ahead generalizing above with
  | none => exact List.forall_mem_nil _
  | directive =>
      rw [fst_readTags_bodyLines (startsWithTag_directive isName _) (inLine _ List.mem_cons_self)]
      exact List.forall_mem_nil _
  | @tag text rest starts =>
      have startsLine : StartsWithTag ((Line.other text).text name) := starts
      rw [fst_readTags_bodyLines startsLine (inLine _ List.mem_cons_self)]
      exact List.forall_mem_nil _
  | blank areBlank _ ih =>
      obtain ⟨here, inLine⟩ := List.forall_mem_cons.mp inLine
      rw [readTags_bodyLines here, Line.text, trim_eq_nil_iff.mpr areBlank]
      exact List.forall_mem_cons.mpr ⟨by decide, ih inLine (above + 1)⟩

theorem trim_directive (name : Text) (generators : List Text) :
    trim ((Line.directive generators).text name) = (Line.directive generators).text name := by
  have opening : isBlank '@' = false := by decide
  have closing : isBlank ')' = false := by decide
  have apart : (Line.directive generators).text name =
      ('@' :: (name ++ '(' :: join ", " generators)) ++ [')'] := by simp [Line.text]
  rw [apart, trim, List.cons_append, trimStart_cons _ opening, ← List.cons_append]
  exact trimEnd_concat _ closing

/-- The payload of a directive goes on over the line end, up to the next tag. -/
theorem readTags_directive (isName : IsTagName name) (areGenerators : AreGenerators generators)
    (above : Nat) : readTags true above (bodyLines name (.directive generators :: rest)) =
      ([], ⟨name, above, '(' :: (join ", " generators ++
        ')' :: '\n' :: (readTags true (above + 1) (bodyLines name rest)).1)⟩ ::
          (readTags true (above + 1) (bodyLines name rest)).2) := by
  have absent : '@' ∉ '(' :: (join ", " generators ++ [')']) :=
    not_mem_listed areGenerators.noTag (by decide)
  have ends : ∀ c ∈ ('(' :: (join ", " generators ++ [')'])).head?, isTagPart c = false := by
    simp +decide
  rw [readTags_bodyLines (areGenerators.inLine isName), trim_directive, Line.text,
    readTags_tag above isName absent ends]
  simp [joined, putBehind]

/-! ## From tags to directives -/

theorem laysOut_generators {back : Text} (nonempty : generators ≠ []) (areBack : AreBlank back) :
    LaysOut generators ('(' :: (join ", " generators ++ ')' :: back)) := by
  obtain ⟨first, more, rfl⟩ := List.exists_cons_of_ne_nil nonempty
  have noBlanks : AreBlank [] := List.forall_mem_nil _
  have padded : List.Forall₂ IsPadded (first :: more) (first :: more.map (' ' :: ·)) := by
    refine .cons ⟨[], [], noBlanks, noBlanks, (List.append_nil first).symm⟩ ?_
    rw [List.forall₂_map_right_iff, List.forall₂_same]
    exact fun name _ => ⟨[' '], [], by decide, noBlanks, by simp⟩
  have spaced : join ", " (first :: more) = join [','] (first :: more.map (' ' :: ·)) := by
    simp [join_cons_eq_flatMap, List.flatMap_map]
  exact ⟨[], _, back, noBlanks, areBack, padded, by rw [spaced]; rfl⟩

theorem ofPayload_generators {back : Text} (areGenerators : AreGenerators generators)
    (areBack : AreBlank back) (location : Location) :
    ofPayload ('(' :: (join ", " generators ++ ')' :: back)) location =
      .ok ⟨generators, location.line⟩ := by
  have listed := payloadNames_of_laysOut areGenerators.some areGenerators.names
    (laysOut_generators areGenerators.some areBack)
  rw [ofPayload, listed]

theorem joined_snd (front back : Text × List Tag) :
    (joined front back).2 = putBehind back.1 front.2 ++ back.2 := by
  obtain ⟨text, tags⟩ := front
  cases tags <;> rfl

theorem count_source (inLine : '\n' ∉ line.text name) (above : Text) :
    List.count '\n' (above ++ line.source name) = List.count '\n' above + 1 := by
  simp [Line.source, List.count_append, List.count_eq_zero.mpr inLine]

theorem mapM_ofPayload_bodyLines (isName : IsTagName name) (arranged : IsArranged name lines)
    (location : Location) (above : Text) :
    ((readTags true (List.count '\n' above) (bodyLines name lines)).2.filter (·.name = name)).mapM
      (fun tag => ofPayload tag.payload (tagLocation location tag)) =
        .ok (directives name location above lines) := by
  induction arranged generalizing above with
  | nil => rfl
  | @other text rest here noTag _ ih =>
      have others : ∀ tag ∈ (readTags true (List.count '\n' above) (trim text)).2, tag.name ≠ name := by
        intro tag member same
        exact noTag (HoldsTag.of_trim (same ▸ holdsTagFrom_of_mem_readTags member))
      have sameLine : '\n' ∉ (Line.other text).text name := here
      have below := ih (above ++ Line.source name (.other text))
      rw [count_source sameLine] at below
      rw [readTags_bodyLines sameLine, joined_snd, List.filter_append, Line.text,
        filter_putBehind _ others]
      exact below
  | @directive generators rest areGenerators ahead arranged ih =>
      have below := ih (above ++ Line.source name (.directive generators))
      rw [count_source (areGenerators.inLine isName)] at below
      have areBlank :
          AreBlank ('\n' :: (readTags true (List.count '\n' above + 1) (bodyLines name rest)).1) :=
        List.forall_mem_cons.mpr ⟨by decide, ahead.areBlank isName (arranged.inLine isName) _⟩
      have payload := ofPayload_generators areGenerators areBlank
      have sameLine : List.count '\n' (above ++ " * ") = List.count '\n' above := by simp
      rw [readTags_directive isName areGenerators, List.filter_cons_of_pos (by simp), List.mapM_cons,
        payload, below, directives, sameLine]
      rfl

/-- A comment whose lines are arranged is read as its directives, in order, each with its names and with
the line of its tag. -/
theorem ofComment_render (isName : IsTagName name) (arranged : IsArranged name lines)
    (location : Location) : ofComment name (render name lines) location =
      .ok (directives name location "/**\n" lines) := by
  rw [ofComment, body_render (arranged.inLine isName)]
  exact mapM_ofPayload_bodyLines isName arranged location "/**\n"

/-- Signs in words and tags with longer names are no directives, and another tag ends a directive. -/
def exampleLines : List Line :=
  [.other "Mail a@ts-ppx(b) or @ts-ppx-later(c).", .directive ["zod", "a (b"], .other "", .other "\t",
    .other " @deprecated", .other "since @version 2", .directive ["zod"]]

theorem ofComment_render_exampleLines :
    IsTagName Directive.usualTag ∧ IsArranged Directive.usualTag exampleLines ∧
      ofComment Directive.usualTag (render Directive.usualTag exampleLines) ⟨"a.ts", some 3⟩ =
        .ok [⟨["zod", "a (b"], some 5⟩, ⟨["zod"], some 10⟩] := by
  have isName : IsTagName Directive.usualTag := ⟨'t', _, rfl, by decide, List.all_eq_true.mp (by decide)⟩
  have isZod : IsGeneratorName "zod" := ⟨by decide, by decide, ["zod"], by decide, rfl⟩
  have isPair : IsGeneratorName "a (b" := ⟨by decide, by decide, ["a", "(b"], by decide, rfl⟩
  have last : AreGenerators ["zod".toList] :=
    ⟨by decide, List.forall_mem_singleton.mpr isZod, by decide⟩
  have first : AreGenerators ["zod".toList, "a (b".toList] :=
    ⟨by decide, List.forall_mem_cons.mpr ⟨isZod, List.forall_mem_singleton.mpr isPair⟩, by decide⟩
  have ahead : OnlyBlanksAhead (exampleLines.drop 2) :=
    .blank (by decide) (.blank (by decide) (.tag ⟨[' '], 'd', _, by decide, by decide, rfl⟩))
  have arranged : IsArranged Directive.usualTag exampleLines :=
    .other (by decide) (by decide +kernel) (.directive first ahead
      (.other (by decide) (by decide +kernel) (.other (by decide) (by decide +kernel)
        (.other (by decide) (by decide +kernel) (.other (by decide) (by decide +kernel)
          (.directive last .none .nil))))))
  refine ⟨isName, arranged, (ofComment_render isName arranged _).trans ?_⟩
  decide +kernel

end Companion.DocComment
