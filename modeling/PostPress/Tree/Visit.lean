import PostPress.Tree.Basic

/-!
# PostPress.Tree.Visit

Walks over a document tree in document order (a node before its children).
Nodes that the test rejects are not reported, their children still are.

* `Node.visit` — reads a tree: the visitor sees a node, its index and its
  parent, and says whether to descend;
* `Node.visitMut?` — edits a tree: the visitor gets a `Slot`, puts a node
  there, and the walk goes on in whatever occupies the slot then. A visitor may
  put ever larger trees, so the walk is given a number of levels, and ends
  without a result when it would go below them.
-/

namespace PostPress

/-- What a walk does after a visit. -/
inductive Visit
  /-- Go on with the children of the node in the slot. -/
  | descend
  /-- Leave its children out. -/
  | skip
deriving DecidableEq, Repr

/-- The parent of a visited node, as seen from the child: its kind and how many
children it has. -/
inductive Parent
  /-- A root. -/
  | root (size : Nat)
  /-- An element. -/
  | element (tag : String) (size : Nat)
  /-- A foreign node. -/
  | foreign (name : String) (size : Nat)
deriving DecidableEq, Repr

namespace Parent

/-- The tag of a parent that is an element. -/
def tag? : Parent → Option String
  | .element tag _ => some tag
  | _ => none

/-- How many children the parent has, the visited node included. -/
def size : Parent → Nat
  | .root size | .element _ size | .foreign _ size => size

/-- A node as the parent of its children; a text is no parent. -/
def ofNode? : Node → Option Parent
  | .text _ => none
  | .root children => some (.root children.length)
  | .element tag _ children => some (.element tag children.length)
  | .foreign name children => some (.foreign name children.length)

end Parent

/-- A place in a tree that a visitor can change. -/
structure Slot where
  /-- The node that occupies the place. -/
  node : Node
  /-- The index among the parent's children and the parent; nothing at the top. -/
  position : Option (Nat × Parent)
deriving DecidableEq, Repr

namespace Slot

/-- The index of the slot in its parent. -/
def index? (slot : Slot) : Option Nat := slot.position.map (·.1)

/-- The parent of the slot. -/
def parent? (slot : Slot) : Option Parent := slot.position.map (·.2)

/-- Put `node` into the slot, giving the displaced node. The top of a tree has
no parent to hold a replacement: there the request is refused, and nothing
changes. -/
def replace (slot : Slot) (node : Node) : Slot × Option Node :=
  match slot.position with
  | none => (slot, none)
  | some _ => ({ slot with node }, some slot.node)

end Slot

universe u

/-- What a visitor leaves behind: its state, the node in the slot, and where the
walk goes. -/
structure Visited (σ : Type u) where
  /-- The state for the next visit. -/
  state : σ
  /-- The node that now occupies the slot. -/
  node : Node
  /-- Whether the children of that node are walked. -/
  next : Visit

/-- A visitor of slots with a state. -/
abbrev Visitor (σ : Type u) := σ → Slot → Visited σ

variable {σ : Type u}

/-- Walk the children of one parent from left to right, threading the state. -/
def visitChildren (walk : σ → Slot → Option (σ × Node)) (parent : Parent) :
    Nat → σ → List Node → Option (σ × List Node)
  | _, state, [] => some (state, [])
  | index, state, child :: rest => do
      let (state, child) ← walk state ⟨child, some (index, parent)⟩
      let (state, rest) ← visitChildren walk parent (index + 1) state rest
      return (state, child :: rest)

/-- Walk the tree in a slot through at most `levels` levels; without a result if
there are nodes below them to walk. -/
def walkSlot (test : Node → Bool) (visitor : Visitor σ) :
    (levels : Nat) → σ → Slot → Option (σ × Node)
  | 0, _, _ => none
  | levels + 1, state, slot =>
      let visited : Visited σ :=
        if test slot.node then visitor state slot else ⟨state, slot.node, .descend⟩
      match visited.next, Parent.ofNode? visited.node with
      | .skip, _ | .descend, none => some (visited.state, visited.node)
      | .descend, some parent =>
          (visitChildren (walkSlot test visitor levels) parent 0 visited.state
            visited.node.children).map fun (state, children) =>
              (state, visited.node.withChildren children)

namespace Node

/-- Walk a tree through at most `levels` levels, with a visitor that may replace
the nodes that pass the test. -/
def visitMut? (test : Node → Bool) (visitor : Visitor σ) (levels : Nat) (state : σ)
    (tree : Node) : Option (σ × Node) :=
  walkSlot test visitor levels state ⟨tree, none⟩

/-- Walk a tree with a visitor that never puts a taller node into a slot it
descends into, so that the levels of the tree are enough. -/
def visitMut (test : Node → Bool) (visitor : Visitor σ) (state : σ) (tree : Node) : σ × Node :=
  (tree.visitMut? test visitor tree.height state).getD (state, tree)

/-- Report one node if it passes the test. -/
def reportTo (test : Node → Bool) (visitor : σ → Node → Option Nat → Option Node → σ × Visit)
    (state : σ) (index : Option Nat) (parent : Option Node) (node : Node) : σ × Visit :=
  if test node then visitor state node index parent else (state, .descend)

mutual

/-- Walk a tree without changing it: every node that passes the test is reported
with its index and its parent, and the visitor says whether to descend. -/
def visitFrom (test : Node → Bool) (visitor : σ → Node → Option Nat → Option Node → σ × Visit)
    (state : σ) (index : Option Nat) (parent : Option Node) : Node → σ
  | .text value => (reportTo test visitor state index parent (.text value)).1
  | .root children =>
      match reportTo test visitor state index parent (.root children) with
      | (state, .skip) => state
      | (state, .descend) => visitList test visitor state 0 (.root children) children
  | .element tag attrs children =>
      match reportTo test visitor state index parent (.element tag attrs children) with
      | (state, .skip) => state
      | (state, .descend) => visitList test visitor state 0 (.element tag attrs children) children
  | .foreign name children =>
      match reportTo test visitor state index parent (.foreign name children) with
      | (state, .skip) => state
      | (state, .descend) => visitList test visitor state 0 (.foreign name children) children

/-- Walk the children of one parent, from left to right. -/
def visitList (test : Node → Bool) (visitor : σ → Node → Option Nat → Option Node → σ × Visit)
    (state : σ) (index : Nat) (parent : Node) : List Node → σ
  | [] => state
  | child :: rest =>
      visitList test visitor (visitFrom test visitor state (some index) (some parent) child)
        (index + 1) parent rest

end

/-- Walk a tree without changing it; the top is reported without index and
parent. -/
def visit (test : Node → Bool) (visitor : σ → Node → Option Nat → Option Node → σ × Visit)
    (state : σ) (tree : Node) : σ :=
  visitFrom test visitor state none none tree

end Node

end PostPress
