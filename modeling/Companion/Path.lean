import Companion.Text.Basic

/-!
# Paths

Slash-separated paths as plain texts: splitting, joining, normal forms, and the way from one
directory to a path. Nothing here looks at a disk. The normal form of a relative path may open with
steps up; where they lead depends on the working directory, from which its absolute form is seen.
-/

set_option autoImplicit false

namespace Companion.Path

/-- Position just behind the last slash, counted from the start; `position` counts the characters
read before. -/
def afterLastSlash : Nat → Nat → Text → Nat
  | _, found, [] => found
  | position, found, c :: rest =>
    afterLastSlash (position + 1) (if c = '/' then position + 1 else found) rest

def dropFinalSlashes (path : Text) : Text := (path.reverse.dropWhile (· = '/')).reverse

/-- The directory part and the last component. Slashes at the end of the directory part are dropped
unless it consists of slashes only. -/
def split (path : Text) : Text × Text :=
  let position := afterLastSlash 0 0 path
  let head := path.take position
  (if head.all (· = '/') then head else dropFinalSlashes head, path.drop position)

def directory (path : Text) : Text := (split path).1

def base (path : Text) : Text := (split path).2

/-- Continues a path by another one; an absolute second path stands alone. -/
def join (path next : Text) : Text :=
  if next.head? = some '/' then next
  else if path.isEmpty || path.getLast? = some '/' then path ++ next
  else path ++ '/' :: next

def isAbsolute (path : Text) : Bool := path.head? = some '/'

/-- The slashes that open a normal form: two are kept as two, any other positive number is one. -/
def rootSlashes : Text → Text
  | ['/', '/'] => ['/', '/']
  | '/' :: '/' :: c :: _ => if c = '/' then ['/'] else ['/', '/']
  | '/' :: _ => ['/']
  | _ => []

/-- Adds a component to a normal list of components, the last one first: a step up removes the
component before it, stays when there is nothing to remove, and is dropped at the root. -/
def push (rooted : Bool) (stack : List Text) (component : Text) : List Text :=
  if component = [] || component = ['.'] then stack
  else if component ≠ ['.', '.'] then component :: stack
  else
    match stack with
    | [] => if rooted then [] else [component]
    | last :: rest => if last = ['.', '.'] then component :: last :: rest else rest

def components (path : Text) : List Text :=
  ((Text.splitOn '/' path).foldl (push (isAbsolute path)) []).reverse

/-- The normal form of a path: no empty or `.` component, no step up behind a name. -/
def normalize (path : Text) : Text :=
  let normal := rootSlashes path ++ Text.join ['/'] (components path)
  if normal.isEmpty then ['.'] else normal

/-- What is left of two lists of components behind their common start. -/
def dropCommon : List Text → List Text → List Text × List Text
  | left :: lefts, right :: rights =>
    if left = right then dropCommon lefts rights else (left :: lefts, right :: rights)
  | lefts, rights => (lefts, rights)

/-- The way from a directory to a path, both given by normal components: up from the directory to
the last common ancestor, then down. -/
def wayTo (target start : List Text) : Text :=
  let (down, up) := dropCommon target start
  let way := up.map (fun _ => ['.', '.']) ++ down
  if way.isEmpty then ['.'] else Text.join ['/'] way

/-- The normal form of a path seen from a working directory. -/
def absolute (working path : Text) : Text := normalize (join working path)

/-- The relative path of `path` from the directory `start`, both seen from a working directory. -/
def relative (working path start : Text) : Text :=
  wayTo (components (absolute working path)) (components (absolute working start))

end Companion.Path
