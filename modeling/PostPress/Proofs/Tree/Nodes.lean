import PostPress.Tree.Basic

/-!
# PostPress.Proofs.Tree.Nodes

**The nodes of a tree** at any depth, in document order, so that what is said of all nodes
or of those of one kind is said of a list (`Node.nodes`); and the node at a place, which is
given by the indices of the children on the way down to it (`Node.at?`).
-/

namespace PostPress.Node

mutual

/-- The nodes of a tree in document order: a node before its children. -/
def nodes : Node → List Node
  | .text value => [.text value]
  | .root children => .root children :: nodesList children
  | .element tag attrs children => .element tag attrs children :: nodesList children
  | .foreign name children => .foreign name children :: nodesList children

/-- The nodes of some trees. -/
def nodesList : List Node → List Node
  | [] => []
  | node :: rest => nodes node ++ nodesList rest

end

theorem nodes_eq (node : Node) : node.nodes = node :: nodesList node.children := by
  cases node <;> rfl

@[simp] theorem nodesList_append (as bs : List Node) :
    nodesList (as ++ bs) = nodesList as ++ nodesList bs := by
  induction as with
  | nil => rfl
  | cons node rest ih => rw [List.cons_append, nodesList, ih, nodesList, List.append_assoc]

theorem nodesList_eq_flatMap (trees : List Node) : nodesList trees = trees.flatMap nodes := by
  induction trees with
  | nil => rfl
  | cons tree rest ih => rw [nodesList, ih, List.flatMap_cons]

theorem nodesList_singleton (tree : Node) : nodesList [tree] = tree.nodes := List.append_nil _

/-- The node at a place, if there is one. -/
def at? : Node → List Nat → Option Node
  | node, [] => some node
  | node, index :: path => node.children[index]?.bind fun child => child.at? path

theorem at?_cons {node child : Node} {index : Nat} (h : node.children[index]? = some child)
    (path : List Nat) : node.at? (index :: path) = child.at? path := by
  rw [at?, h, Option.bind_some]

/-- A node is an element of one tag at most. -/
theorem tag_unique {node : Node} {tag other : String} (h : node.isElement tag = true)
    (h' : node.isElement other = true) : tag = other :=
  Option.some.inj ((beq_iff_eq.1 h).symm.trans (beq_iff_eq.1 h'))

/-- The ids of some nodes. -/
def ids (nodes : List Node) : List String := nodes.filterMap (·.attr? "id")

theorem ids_cons (node : Node) (rest : List Node) :
    ids (node :: rest) = (node.attr? "id").toList ++ ids rest := by
  rw [ids, List.filterMap_cons]
  cases node.attr? "id" <;> rfl

end PostPress.Node
