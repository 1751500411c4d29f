import Companion.Files.Memory
import Companion.Imports
import Companion.Main
import Companion.Proofs.Generator.Reference
import Companion.Proofs.Run.Writing
import Companion.Proofs.TypeExpr.Constituents
import Companion.Proofs.Generator.Expression
import Companion.Proofs.Generator.Layout
import Companion.Proofs.TypeExpr.Spelling
import Companion.Proofs.Generator.Readability
import Companion.Proofs.Generator.Strings
import Companion.Proofs.TypeExpr.Elaboration
import Companion.Proofs.Run.Closure
import Companion.Proofs.Files.Tree
import Companion.Proofs.Files.Walk
import Companion.Proofs.Run.Directives
import Companion.Proofs.Run.Rerun
import Companion.Proofs.Run.Interference
import Companion.Proofs.Output.Names
import Companion.Proofs.Run.Hygiene
import Companion.Proofs.TypeExpr.Scopes
import Companion.Proofs.Generator.Contexts
import Companion.Proofs.Path.Home
import Companion.Proofs.Files.Home
import Companion.Proofs.Run.Places
import Companion.Proofs.Run.Relocation
import Companion.Proofs.Path.Forms
import Companion.Proofs.Run.Discovery
import Companion.Proofs.Files.Descent
import Companion.Proofs.Files.AtomicWrite
import Companion.Proofs.Run.Overlay
import Companion.Proofs.Files.Disk
import Companion.Proofs.Text.Utf8
import Companion.Proofs.Files.Targets
import Companion.Proofs.Files.Mirror
import Companion.Proofs.Run.Mirror
import Companion.Proofs.Directive
import Companion.Proofs.Syntax.Node
import Companion.Proofs.TypeExpr.Forms
import Companion.Proofs.TypeExpr.Leaves
import Companion.Proofs.Generator.Binding
import Companion.Proofs.TypeExpr.Rewriting
import Companion.Proofs.Specifier.Relative
import Companion.Proofs.Generator.Imports
import Companion.Proofs.TypeExpr.Supported
import Companion.Proofs.Run.ImportLines
import Companion.Proofs.TypeExpr.Requoting
import Companion.Proofs.Directive.Payload
import Companion.Proofs.Directive.Tags
import Companion.Proofs.Directive.Comments
import Companion.Proofs.Imports.Queries
import Companion.Proofs.Files.Consistency
import Companion.Proofs.Files.WriteSequence
import Companion.Proofs.Output.Merging
import Companion.Proofs.Syntax.Trivia
import Companion.Proofs.Syntax.Numerals
import Companion.Proofs.TypeExpr.NumberLiterals
import Companion.Proofs.Formatter.Prettier
import Companion.Proofs.Formatter.Worlds
import Companion.Proofs.Program.Shell
import Companion.Proofs.Config.UnknownNames
import Companion.Proofs.CommandLine.Header
import Companion.Proofs.CommandLine.Reading
import Companion.Proofs.Generator.Indentation
