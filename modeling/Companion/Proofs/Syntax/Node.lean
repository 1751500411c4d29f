import Companion.Syntax.Node

/-!
# Nodes below nodes

What holds of a node whenever it holds of all nodes below it holds of every node. Below a union stand
its members: the constituents of the union and of the unions nested directly in it, from left to
right.
-/

set_option autoImplicit false

namespace Companion.Syntax.Node

/-- A node of a tree: the root or a node of the tree of a child. -/
inductive Within (part : Node) : Node → Prop where
  | root : Within part part
  | child {node child : Node} (isChild : child ∈ node.children) (within : Within part child) :
      Within part node

theorem Within.trans {part middle node : Node} (inner : part.Within middle)
    (outer : middle.Within node) : part.Within node := by
  induction outer with
  | root => exact inner
  | child isChild _ ih => exact .child isChild ih

/-- A node of a tree that is not the root. -/
def IsBelow (part node : Node) : Prop := ∃ child ∈ node.children, part.Within child

theorem IsBelow.within {part node : Node} (below : part.IsBelow node) : part.Within node := by
  obtain ⟨child, isChild, within⟩ := below
  exact .child isChild within

theorem IsBelow.trans {part middle node : Node} (inner : part.IsBelow middle)
    (outer : middle.IsBelow node) : part.IsBelow node := by
  obtain ⟨child, isChild, within⟩ := outer
  exact ⟨child, isChild, inner.within.trans within⟩

theorem isBelow_of_mem_constituents {part node : Node} (member : part ∈ node.constituents) :
    part.IsBelow node :=
  ⟨part, (List.mem_filter.mp member).1, .root⟩

theorem isBelow_of_child?_eq_some {part node : Node} {role : Field}
    (found : node.child? role = some part) : part.IsBelow node :=
  ⟨part, List.mem_of_find?_eq_some found, .root⟩

/-- Induction over the nodes of a tree from below. -/
theorem induction_below {motive : Node → Prop}
    (step : ∀ node, (∀ part, part.IsBelow node → motive part) → motive node) (node : Node) :
    motive node := by
  -- the recursor stops at the children, so the motive has to speak of the whole tree of each
  have all : ∀ part : Node, part.Within node → motive part :=
    Node.rec (motive_1 := fun node => ∀ part : Node, part.Within node → motive part)
      (motive_2 := fun children => ∀ child ∈ children, ∀ part : Node, part.Within child → motive part)
      (fun _ _ _ _ _ children below part within => by
        cases within with
        | root =>
            apply step
            intro part isBelow
            obtain ⟨child, isChild, within⟩ := isBelow
            exact below child isChild part within
        | child isChild within => exact below _ isChild part within)
      (fun _ member => nomatch member)
      (fun _ _ first others child member => by
        cases member with
        | head => exact first
        | tail _ member => exact others child member)
      node
  exact all node .root

section Testing

variable (test : Node → Bool)

mutual

/-- Whether all nodes of a tree pass a test. -/
def all : Node → Bool
  | ⟨kind, field, named, text, line, children⟩ =>
    test ⟨kind, field, named, text, line, children⟩ && allIn children

def allIn : List Node → Bool
  | [] => true
  | child :: rest => child.all && allIn rest

end

theorem allIn_eq (children : List Node) : allIn test children = children.all (all test) := by
  induction children with
  | nil => rfl
  | cons child rest ih => rw [allIn, List.all_cons, ih]

theorem all_eq_true_iff (node : Node) :
    all test node = true ↔ ∀ part : Node, part.Within node → test part = true := by
  induction node using induction_below with
  | step node ih =>
      have unfolded : all test node = (test node && node.children.all (all test)) := by
        cases node with
        | mk kind field named text line children => rw [all, allIn_eq]
      rw [unfolded, Bool.and_eq_true, List.all_eq_true]
      constructor
      · intro passes part within
        cases within with
        | root => exact passes.1
        | child isChild within =>
            exact (ih _ ⟨_, isChild, .root⟩).mp (passes.2 _ isChild) part within
      · intro passes
        refine ⟨passes node .root, fun child isChild => ?_⟩
        exact (ih child ⟨child, isChild, .root⟩).mpr fun part within =>
          passes part (.child isChild within)

end Testing

mutual

/-- The members of a union, those of a nested union in place of the nested union. -/
def unionMembers : Node → List Node
  | ⟨_, _, _, _, _, children⟩ => unionMembersIn children

def unionMembersIn : List Node → List Node
  | [] => []
  | child :: rest =>
    if !child.isConstituent then unionMembersIn rest
    else if child.kind = .unionType then child.unionMembers ++ unionMembersIn rest
    else child :: unionMembersIn rest

end

/-- What a constituent of a union brings in. -/
def asMembers (child : Node) : List Node :=
  if child.kind = .unionType then child.unionMembers else [child]

theorem unionMembersIn_eq (children : List Node) :
    unionMembersIn children = (children.filter isConstituent).flatMap asMembers := by
  induction children with
  | nil => rfl
  | cons child rest ih =>
      rw [unionMembersIn, List.filter_cons]
      cases child.isConstituent with
      | false => exact ih
      | true =>
          simp only [Bool.not_true, Bool.false_eq_true, if_false, if_true, List.flatMap_cons, ← ih,
            asMembers]
          split
          · rfl
          · rfl

theorem unionMembers_eq (node : Node) : node.unionMembers = node.constituents.flatMap asMembers := by
  cases node with
  | mk kind field named text line children => exact unionMembersIn_eq children

theorem isBelow_of_mem_unionMembers {node member : Node} (isMember : member ∈ node.unionMembers) :
    member.IsBelow node := by
  induction node using induction_below with
  | step node ih =>
      rw [unionMembers_eq, List.mem_flatMap] at isMember
      obtain ⟨child, isChild, member⟩ := isMember
      have childBelow := isBelow_of_mem_constituents isChild
      unfold asMembers at member
      split at member
      · exact (ih child childBelow member).trans childBelow
      · exact List.mem_singleton.mp member ▸ childBelow

end Companion.Syntax.Node
