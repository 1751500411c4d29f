import Companion.Failure
import Companion.Text.Blank
import Companion.Text.Word
import Companion.Syntax.Module

/-!
# Directives

A directive asks for companions of the declaration below it. It stands in a documentation comment: a
tag, then a parenthesised list of generator names. A comment may hold any number of directives and
of other tags; the payload of a tag reaches to the next tag.
-/

set_option autoImplicit false

namespace Companion

/-- The generators asked for, in order, and the line of the tag if it is known. -/
structure Directive where
  generators : List Text
  line : Option Int := none
deriving DecidableEq, Repr

namespace DocComment

/-- A line of a comment without the blanks around it and without its leading asterisk. -/
def stripLine (line : Text) : Text :=
  match line.trim with
  | '*' :: rest => Text.trim rest
  | trimmed => trimmed

/-- What a documentation comment says, line by line; other comments say nothing. -/
def body (comment : Text) : Option Text :=
  if comment.startsWith "/**" && comment.endsWith "*/" && 5 ≤ comment.length then
    let between := (comment.drop 3).dropLast.dropLast
    some (Text.join ['\n'] ((Text.splitOn '\n' between).map stripLine))
  else none

/-- A tag of a comment: its name, the number of lines above it and the text behind it up to the next
tag. -/
structure Tag where
  name : Text
  linesAbove : Nat
  payload : Text
deriving DecidableEq, Repr

/-- Characters of a tag name behind its first letter. -/
def isTagPart (c : Char) : Bool := isWordChar c || c = '-'

/-- The text in front of the first tag, and the tags. A tag is an at sign and a letter at the start
of the body or behind a blank; `opens` says that the text starts at such a place, `above` counts the
lines above it. -/
def readTags (opens : Bool) (above : Nat) : Text → Text × List Tag
  | [] => ([], [])
  | c :: rest =>
    let (text, tags) := readTags (isBlank c) (if c = '\n' then above + 1 else above) rest
    if opens && c = '@' && rest.head?.any isAsciiLetter then
      ([], ⟨text.takeWhile isTagPart, above, text.dropWhile isTagPart⟩ :: tags)
    else (c :: text, tags)

def tags (body : Text) : List Tag := (readTags true 0 body).2

end DocComment

namespace Directive

/-- The names between the parentheses of a payload whose blanks are collapsed. -/
def payloadNames (text : Text) : Option (List Text) :=
  if text.startsWith "(" && text.endsWith ")" then
    let names := (Text.splitOn ',' text.inner).map Text.trim
    if names.any List.isEmpty then none else some names
  else none

/-- Reads the payload of a directive tag at a location: `(`, names separated by commas, `)`, with
blanks anywhere around the names. -/
def ofPayload (payload : Text) (location : Location) : Except Failure Directive :=
  match payloadNames payload.collapse with
  | some names => .ok ⟨names, location.line⟩
  | none => .error (.malformedDirective payload location)

/-- The location of a tag in a comment that starts at a location. -/
def tagLocation (location : Location) (tag : DocComment.Tag) : Location :=
  { location with line := location.line.map (· + (tag.linesAbove : Int)) }

/-- The directives of a comment, those of the tags named `name`. -/
def ofComment (name comment : Text) (location : Location) : Except Failure (List Directive) :=
  match DocComment.body comment with
  | none => .ok []
  | some body =>
    ((DocComment.tags body).filter (·.name = name)).mapM fun tag =>
      ofPayload tag.payload (tagLocation location tag)

/-- The tag that marks a directive unless another one is chosen. -/
def usualTag : Text := "ts-ppx"

end Directive

/-- A statement and the directives of the comments that lead it; there is at least one. -/
structure MarkedStatement where
  statement : Syntax.Statement
  directives : List Directive
deriving Repr

namespace Syntax.Module

def directivesOf (source : Module) (name : Text) (statement : Statement) :
    Except Failure (List Directive) := do
  let found ← (source.commentsBefore statement).mapM fun comment =>
    Directive.ofComment name comment.text ⟨source.path, some comment.line⟩
  return found.flatten

def annotatedIn (source : Module) (name : Text) : List Statement →
    Except Failure (List MarkedStatement)
  | [] => .ok []
  | statement :: rest => do
    let directives ← source.directivesOf name statement
    let more ← annotatedIn source name rest
    return if directives.isEmpty then more else ⟨statement, directives⟩ :: more

/-- The statements of a module that carry directives, in source order; the first malformed directive
fails the whole module. -/
def annotated (source : Module) (name : Text) : Except Failure (List MarkedStatement) :=
  source.annotatedIn name source.statements

end Syntax.Module

end Companion
