import Companion.Syntax.StatementReader

/-!
# Source modules

A source module is read into its statements and its comments. A comment leads a statement when only
ASCII blanks and further leading comments stand between them; comments at the end of the statement
before are considered like any other.
-/

set_option autoImplicit false

namespace Companion.Syntax

/-- A top-level statement: where it starts, its node, and the declaration it stands for, which is
the exported one for an export of a declaration and the statement itself otherwise. -/
structure Statement where
  start : Nat
  node : Node
  declaration : Node
deriving Repr

/-- What a statement declares. -/
def declarationOf (node : Node) : Node :=
  if node.kind = .exportStatement then (node.child? .declaration).getD node else node

structure Module where
  path : Text
  text : Text
  statements : List Statement := []
  comments : List Comment := []
deriving Repr

namespace Module

/-- Reads a source text; mark-up is allowed in files whose name ends in `.tsx`. -/
def read (path text : Text) : Module :=
  let markup := path.endsWith ".tsx"
  let (first, cursor) := readInterpreterLine { rest := text }
  let (read, stop) := readStatements markup (text.length + 1) first cursor
  { path := path
    text := text
    statements := read.map fun (start, node) => ⟨start, node, declarationOf node⟩
    comments := stop.comments.reverse }

def imports (source : Module) : List Node :=
  (source.statements.filter fun statement => statement.node.kind = .importStatement).map (·.node)

/-- Whether only ASCII blanks stand between two places of the module's text. -/
def isBlankBetween (source : Module) (start stop : Nat) : Bool :=
  ((source.text.drop start).take (stop - start)).all isAsciiBlank

/-- The comments directly in front of a place, the nearest one first in `comments`; the result is in
source order. -/
def commentChain (source : Module) : Nat → List Comment → List Comment → List Comment
  | _, found, [] => found
  | place, found, comment :: before =>
    if source.isBlankBetween comment.stop place then
      commentChain source comment.start (comment :: found) before
    else found

/-- The comments that lead a statement, in source order. -/
def commentsBefore (source : Module) (statement : Statement) : List Comment :=
  source.commentChain statement.start []
    (source.comments.filter fun comment => comment.stop ≤ statement.start).reverse

end Module

end Companion.Syntax
