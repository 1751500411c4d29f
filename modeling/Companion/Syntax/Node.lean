import Companion.Syntax.Kind

/-!
# Syntax nodes

The tree that a source module is read into: every node has a kind, the text it covers, the line it
starts on and its children in source order. Nothing restricts which children a node has; what the
grammar promises is said where it is needed.
-/

set_option autoImplicit false

namespace Companion.Syntax

/-- A node of a syntax tree. Punctuation is not `named`. -/
structure Node where
  kind : Kind
  field : Option Field := none
  named : Bool := true
  text : Text := []
  line : Int := 1
  children : List Node := []
deriving Repr, Inhabited

namespace Node

def child? (node : Node) (role : Field) : Option Node :=
  node.children.find? fun child => child.field = some role

/-- Whether a node counts as a constituent: punctuation and comments do not. -/
def isConstituent (node : Node) : Bool := node.named && node.kind ≠ .comment

def constituents (node : Node) : List Node := node.children.filter isConstituent

def childrenOf (node : Node) (kind : Kind) : List Node :=
  node.children.filter fun child => child.named && child.kind = kind

/-- The node in a role. -/
def withField (node : Node) (role : Field) : Node := { node with field := some role }

end Node

end Companion.Syntax
