import Companion.Generator.Plugin
import Companion.Proofs.TypeExpr.Spelling
import Mathlib.Data.List.TakeWhile

/-!
# Names in code

Which name an import line binds and which name a statement exports, read off the code itself. Code is
read word by word: words are parted by blanks, but for the blanks inside of strings.
-/

set_option autoImplicit false

namespace Companion

namespace CodeWord

/-- Where a character stands: in code, in a string, or in a string behind a backslash. -/
inductive Place where
  | code
  | string (quote : Char)
  | escaped (quote : Char)
deriving DecidableEq

def Place.next : Place → Char → Place
  | code, c => if c = '\'' ∨ c = '"' then string c else code
  | string quote, c => if c = '\\' then escaped quote else if c = quote then code else string quote
  | escaped quote, _ => string quote

/-- Whether a character parts words. -/
def Place.parts (place : Place) (c : Char) : Prop := place = code ∧ c = ' '

instance (place : Place) (c : Char) : Decidable (place.parts c) :=
  inferInstanceAs (Decidable (place = .code ∧ c = ' '))

/-- The words of a text whose first character stands at a place. -/
def wordsFrom : Place → Text → List Text
  | _, [] => [[]]
  | place, c :: rest =>
    if place.parts c then [] :: wordsFrom .code rest
    else (wordsFrom (place.next c) rest).modifyHead (c :: ·)

/-- The words of a piece of code. -/
def words (text : Text) : List Text := wordsFrom .code text

/-- The place behind a text that no blank parts. -/
def through : Place → Text → Option Place
  | place, [] => some place
  | place, c :: rest => if place.parts c then none else through (place.next c) rest

/-- A text that is part of one word and behind which code goes on. -/
def IsWord (text : Text) : Prop := through .code text = some .code

theorem through_append (place : Place) (left right : Text) :
    through place (left ++ right) = (through place left).bind fun stop => through stop right := by
  induction left generalizing place with
  | nil => rfl
  | cons c rest ih =>
      rw [List.cons_append, through, through]
      split
      · rfl
      · exact ih _

theorem IsWord.append {left right : Text} (isLeft : IsWord left) (isRight : IsWord right) :
    IsWord (left ++ right) := by
  rw [IsWord, through_append, isLeft]
  exact isRight

theorem wordsFrom_append {place stop : Place} {text : Text} (passes : through place text = some stop)
    (rest : Text) :
    wordsFrom place (text ++ rest) = (wordsFrom stop rest).modifyHead (text ++ ·) := by
  induction text generalizing place with
  | nil =>
      obtain rfl := Option.some.inj passes
      rw [List.nil_append]
      cases wordsFrom place rest <;> rfl
  | cons c more ih =>
      rw [through] at passes
      split at passes
      · cases passes
      · next within =>
        rw [List.cons_append, wordsFrom, if_neg within, ih passes, List.modifyHead_modifyHead]
        rfl

/-- A word ends at a blank. -/
theorem words_append_blank {text : Text} (isWord : IsWord text) (rest : Text) :
    words (text ++ ' ' :: rest) = text :: words rest := by
  rw [words, wordsFrom_append isWord, wordsFrom, if_pos ⟨rfl, rfl⟩, List.modifyHead_cons,
    List.append_nil, words]

/-- Words with a blank behind each, and what comes behind them. -/
def spaced : List Text → Text → Text
  | [], rest => rest
  | word :: more, rest => word ++ ' ' :: spaced more rest

theorem words_spaced {given : List Text} (areWords : ∀ word ∈ given, IsWord word) (rest : Text) :
    words (spaced given rest) = given ++ words rest := by
  induction given with
  | nil => rfl
  | cons word more ih =>
      obtain ⟨isWord, areWords⟩ := List.forall_mem_cons.mp areWords
      rw [spaced, words_append_blank isWord, ih areWords, List.cons_append]

theorem isWord_of_plain {text : Text} (plain : ∀ c ∈ text, c ∉ [' ', '\'', '"']) :
    IsWord text := by
  induction text with
  | nil => rfl
  | cons c rest ih =>
      have here := plain c List.mem_cons_self
      simp only [List.mem_cons, List.not_mem_nil, or_false, not_or] at here
      obtain ⟨noBlank, noQuote, noDoubleQuote⟩ := here
      have inCode : Place.next .code c = .code := if_neg (not_or.mpr ⟨noQuote, noDoubleQuote⟩)
      rw [IsWord, through, if_neg fun parts => noBlank parts.2, inCode]
      exact ih fun other member => plain other (List.mem_cons_of_mem _ member)

theorem isWord_of_isIdentifier {name : Text} (identifier : Syntax.IsIdentifier name) :
    IsWord name := by
  apply isWord_of_plain
  intro c member mark
  have isChar := identifier.2.2 c member
  simp only [List.mem_cons, List.not_mem_nil, or_false] at mark
  rcases mark with rfl | rfl | rfl <;> exact absurd isChar (by decide)

theorem through_string {quote c : Char} (escape : c ≠ '\\') (differs : c ≠ quote) (rest : Text) :
    through (.string quote) (c :: rest) = through (.string quote) rest := by
  rw [through, if_neg (by simp [Place.parts]), Place.next, if_neg escape, if_neg differs]

theorem through_escape {quote : Char} (c : Char) (rest : Text) :
    through (.string quote) ('\\' :: c :: rest) = through (.string quote) rest := by
  simp [through, Place.parts, Place.next]

theorem through_of_stringTail {quote : Char} (plain : quote ≠ '\\') (feed : quote ≠ '\n')
    {body : Text} (closed : Syntax.stringTail quote body = some body.length) :
    through (.string quote) body = some .code := by
  fun_induction Syntax.stringTail quote body with
  | case1 => cases closed
  | case2 => cases closed
  | case3 rest ih =>
      rw [through_escape, through_string (by decide) feed.symm]
      exact ih (by simpa using closed)
  | case4 rest ih =>
      rw [through_escape, through_string (by decide) feed.symm]
      exact ih (by simpa using closed)
  | case5 c rest _ _ ih =>
      rw [through_escape]
      exact ih (by simpa using closed)
  | case6 rest =>
      obtain rfl : rest = [] := by simpa using closed
      simp [through, Place.parts, Place.next, plain]
  | case7 => cases closed
  | case8 c rest alone _ _ escape differs _ ih =>
      have noEscape : c ≠ '\\' := by
        intro same
        cases rest with
        | nil => exact alone same rfl
        | cons next more => exact escape next more same rfl
      rw [through_string noEscape differs]
      exact ih (by simpa using closed)

theorem isWord_of_stringLength {text : Text}
    (closed : Syntax.stringLength text = some text.length) : IsWord text := by
  unfold Syntax.stringLength at closed
  split at closed
  · exact through_of_stringTail (by decide) (by decide) (by simpa using closed)
  · exact through_of_stringTail (by decide) (by decide) (by simpa using closed)
  · cases closed

end CodeWord

/-- A name as the lists of imports and exports have it: an identifier or a string. -/
def IsListName (name : Text) : Prop :=
  Syntax.IsIdentifier name ∨ Syntax.stringLength name = some name.length

instance (name : Text) : Decidable (IsListName name) :=
  inferInstanceAs (Decidable (_ ∨ _))

open CodeWord

theorem IsListName.isWord {name : Text} (listed : IsListName name) : IsWord name :=
  listed.elim isWord_of_isIdentifier isWord_of_stringLength

theorem IsListName.ne_brace {name : Text} (listed : IsListName name) : name ≠ ['\x7d'] := by
  rintro rfl
  exact absurd listed (by decide)

namespace Artifact

/-- The name that an import line of one name binds: the last word between the braces, or without
braces the word behind the first one. -/
def boundName (line : Text) : Option Text :=
  let clause := (words line).tail.takeWhile (· ≠ ['\x7d'])
  if ['\x7b'] ∈ clause then clause.getLast? else clause.head?

/-- What an exporting statement declares: the keyword and the name. -/
def exported (statement : Text) : Option (Text × Text) :=
  match words statement with
  | lead :: keyword :: name :: _ =>
    if lead = "export".toList then some (keyword, name.takeWhile (· ≠ '(')) else none
  | _ => none

/-- The types that the statements of a file declare. -/
def exportedTypes (file : Artifact) : List Text :=
  ((file.statements.filterMap exported).filter (·.1 = "type".toList)).map (·.2)

/-- The values that the statements of a file declare. -/
def exportedValues (file : Artifact) : List Text :=
  ((file.statements.filterMap exported).filter (·.1 ≠ "type".toList)).map (·.2)

theorem boundName_spaced {opening last : Text} {clause : List Text}
    (isOpening : IsWord opening) (areWords : ∀ word ∈ clause ++ [last], IsWord word)
    (braced : ['\x7b'] ∈ clause) (within : ['\x7d'] ∉ clause ++ [last]) (rest : Text) :
    boundName (spaced (opening :: (clause ++ [last] ++ [['\x7d']])) rest) = some last := by
  have all : ∀ word ∈ opening :: (clause ++ [last] ++ [['\x7d']]), IsWord word := by
    rw [List.forall_mem_cons, List.forall_mem_append, List.forall_mem_singleton]
    exact ⟨isOpening, areWords, rfl⟩
  have isClause : (words (spaced (opening :: (clause ++ [last] ++ [['\x7d']]))
      rest)).tail.takeWhile (· ≠ ['\x7d']) = clause ++ [last] := by
    rw [words_spaced all, List.cons_append, List.tail_cons, List.append_assoc,
      List.takeWhile_append_of_pos, List.singleton_append, List.takeWhile_cons_of_neg (by simp),
      List.append_nil]
    intro word member
    have differs : word ≠ ['\x7d'] := fun same => within (same ▸ member)
    simpa using differs
  rw [boundName, isClause, if_pos (List.mem_append_left _ braced), List.getLast?_concat]

variable {name : Text}

theorem boundName_typeImport (identifier : Syntax.IsIdentifier name) (specifier : Text) :
    boundName (Plugin.typeImport name specifier) = some ('$' :: name) := by
  have isName := isWord_of_isIdentifier identifier
  have isImported : IsWord ('$' :: name) := IsWord.append (rfl : IsWord ['$']) isName
  have notBrace := IsListName.ne_brace (.inl identifier)
  have line : Plugin.typeImport name specifier = spaced ("import".toList ::
      ([['\x7b'], "type".toList, name, "as".toList] ++ ['$' :: name] ++ [['\x7d']]))
      ("from '".toList ++ specifier ++ "';".toList) := by
    unfold Plugin.typeImport
    simp only [List.append_assoc]
    rfl
  rw [line]
  refine boundName_spaced (by rfl) ?_ List.mem_cons_self ?_ _
  · simp only [List.cons_append, List.nil_append, List.forall_mem_cons]
    exact ⟨rfl, rfl, isName, rfl, isImported, nofun⟩
  · simp [notBrace.symm]

theorem boundName_render {line : NamedImport} (exported : IsWord line.exported)
    (exportedNotBrace : line.exported ≠ ['\x7d']) (given : IsWord line.localName)
    (givenNotBrace : line.localName ≠ ['\x7d']) : boundName line.render = some line.localName := by
  by_cases same : line.exported = line.localName
  · have text : line.render = spaced ("import".toList ::
        ([['\x7b']] ++ [line.localName] ++ [['\x7d']]))
        ("from '".toList ++ line.specifier ++ "';".toList) := by
      unfold NamedImport.render
      rw [if_pos same, same]
      simp only [List.append_assoc]
      rfl
    rw [text]
    refine boundName_spaced (by rfl) ?_ List.mem_cons_self ?_ _
    · simp only [List.cons_append, List.nil_append, List.forall_mem_cons]
      exact ⟨rfl, given, nofun⟩
    · simp [givenNotBrace.symm]
  · have text : line.render = spaced ("import".toList ::
        ([['\x7b'], line.exported, "as".toList] ++ [line.localName] ++ [['\x7d']]))
        ("from '".toList ++ line.specifier ++ "';".toList) := by
      unfold NamedImport.render
      rw [if_neg same]
      simp only [List.append_assoc]
      rfl
    rw [text]
    refine boundName_spaced (by rfl) ?_ List.mem_cons_self ?_ _
    · simp only [List.cons_append, List.nil_append, List.forall_mem_cons]
      exact ⟨rfl, exported, rfl, given, nofun⟩
    · simp [exportedNotBrace.symm, givenNotBrace.symm]

theorem exported_spaced {keyword word name : Text} (isKeyword : IsWord keyword)
    (isWord : IsWord word) (named : word.takeWhile (· ≠ '(') = name) (rest : Text) :
    exported (spaced ["export".toList, keyword, word] rest) = some (keyword, name) := by
  have all : ∀ part ∈ ["export".toList, keyword, word], IsWord part := by
    simp only [List.forall_mem_cons]
    exact ⟨rfl, isKeyword, isWord, nofun⟩
  rw [exported, words_spaced all, ← named]
  rfl

theorem takeWhile_identifier (identifier : Syntax.IsIdentifier name) :
    name.takeWhile (· ≠ '(') = name := by
  apply List.takeWhile_eq_self_iff.mpr
  intro c member
  apply decide_eq_true
  rintro rfl
  exact absurd (identifier.2.2 _ member) (by decide)

theorem exported_aliasStatement (identifier : Syntax.IsIdentifier name) :
    exported (Dialect.aliasStatement name) = some ("type".toList, name) := by
  have text : Dialect.aliasStatement name = spaced ["export".toList, "type".toList, name]
      ("= $".toList ++ name ++ [';']) := by
    unfold Dialect.aliasStatement
    simp only [List.append_assoc]
    rfl
  rw [text]
  exact exported_spaced (by rfl) (isWord_of_isIdentifier identifier) (takeWhile_identifier identifier) _

end Artifact

/-- The keyword that declares a companion. -/
def Library.keyword : Library → Text
  | zod => "const"
  | fastCheck => "function"

theorem Artifact.exported_companionStatement (library : Library) {name : Text}
    (identifier : Syntax.IsIdentifier name) (expression : Text) :
    exported (library.dialect.companionStatement name expression) =
      some (library.keyword, library.dialect.companionName name) := by
  have isName := isWord_of_isIdentifier identifier
  have noBracket := takeWhile_identifier identifier
  cases library with
  | zod =>
      have text : Dialect.zod.companionStatement name expression =
          spaced ["export".toList, "const".toList, name]
            ("= \x7b\n  schema: () => ".toList ++ expression.indentLines 2 ++
              ".transform((x): ".toList ++ name ++ " => x),\n\x7d as const;".toList) := by
        unfold Dialect.companionStatement Dialect.zod
        simp only [List.append_assoc]
        rfl
      exact text ▸ exported_spaced (by rfl) isName noBracket _
  | fastCheck =>
      have text : Dialect.fastCheck.companionStatement name expression =
          spaced ["export".toList, "function".toList, "arbitrary".toList ++ (name ++ "():".toList)]
            ("Arbitrary<".toList ++ name ++ "> \x7b\n  return ".toList ++
              expression.indentLines 2 ++ ";\n\x7d".toList) := by
        unfold Dialect.companionStatement Dialect.fastCheck spaced spaced spaced spaced
        simp only [List.append_assoc]
        rfl
      have isWord : IsWord ("arbitrary".toList ++ (name ++ "():".toList)) :=
        IsWord.append rfl (isName.append rfl)
      have named : ("arbitrary".toList ++ (name ++ "():".toList)).takeWhile (· ≠ '(') =
          "arbitrary".toList ++ name := by
        rw [List.takeWhile_append_of_pos (List.all_eq_true.mp (by rfl)),
          List.takeWhile_append_of_pos (List.takeWhile_eq_self_iff.mp noBracket)]
        exact congrArg ("arbitrary".toList ++ ·) (List.append_nil name)
      exact text ▸ exported_spaced (by rfl) isWord named _

end Companion
