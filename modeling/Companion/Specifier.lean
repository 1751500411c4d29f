import Companion.Path
import Companion.Failure

/-!
# Module specifiers

The specifier by which one module imports another, and the import statement of a single name.
-/

set_option autoImplicit false

namespace Companion.Specifier

/-- Drops a `.ts` or `.tsx` ending, also in front of one final line feed. -/
def dropExtension (path : Text) : Text :=
  let (stem, final) :=
    match path.reverse with
    | '\n' :: rest => (rest, ['\n'])
    | rest => (rest, [])
  match stem with
  | 's' :: 't' :: '.' :: rest => rest.reverse ++ final
  | 'x' :: 's' :: 't' :: '.' :: rest => rest.reverse ++ final
  | _ => path

/-- Marks a path as relative to the importing file. -/
def relativeMark (path : Text) : Text :=
  if path.startsWith "../" || path.startsWith "./" then path else "./" ++ path

def importingDirectory (file : Text) : Text :=
  let directory := Path.directory file
  if directory.isEmpty then ['.'] else directory

/-- The specifier by which `file` imports the module at `source`, both seen from a working
directory. -/
def relativeImport (working source file : Text) : Except Failure Text :=
  if source.isEmpty then .error .emptyPath
  else .ok (dropExtension (relativeMark (Path.relative working source (importingDirectory file))))

end Companion.Specifier

namespace Companion

/-- The import of one name from a module, perhaps under a name of its own. -/
structure NamedImport where
  exported : Text
  localName : Text
  specifier : Text
deriving DecidableEq, Repr

def NamedImport.render (line : NamedImport) : Text :=
  let binding :=
    if line.exported = line.localName then line.exported
    else line.exported ++ " as " ++ line.localName
  "import \x7b " ++ binding ++ " \x7d from '" ++ line.specifier ++ "';"

end Companion
