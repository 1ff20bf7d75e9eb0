import PostPress.Proofs.Tree.Everywhere
import PostPress.Proofs.Tree.Nodes

/-!
# PostPress.Proofs.Tree.Path

**Places of a tree.** A place is given by the indices of the children on the way down to it,
so the places of a tree in document order are its paths in lexicographic order.

* `Node.paths` — the paths of all nodes of a tree, in document order;
* `Node.childSlot?`, `Slot.at?` — the slot at a path: the node there, its index and its parent.
-/

namespace PostPress

namespace Node

/-! ### Paths in document order -/

mutual

/-- The paths of the nodes of a tree in document order. -/
def paths : Node → List (List Nat)
  | .text _ => [[]]
  | .root children | .element _ _ children | .foreign _ children => [] :: pathsFrom 0 children

/-- The paths of the nodes in some trees whose indices start from this one. -/
def pathsFrom (index : Nat) : List Node → List (List Nat)
  | [] => []
  | node :: rest => (paths node).map (index :: ·) ++ pathsFrom (index + 1) rest

end

theorem paths_eq (node : Node) : node.paths = [] :: pathsFrom 0 node.children := by
  cases node <;> rfl

theorem mem_pathsFrom_iff {index : Nat} {nodes : List Node} {path : List Nat} :
    path ∈ pathsFrom index nodes ↔ ∃ i child below, nodes[i]? = some child ∧
      path = (index + i) :: below ∧ below ∈ child.paths := by
  induction nodes generalizing index with
  | nil => simp [pathsFrom]
  | cons node rest ih =>
      rw [pathsFrom, List.mem_append, List.mem_map, ih]
      constructor
      · rintro (⟨below, hbelow, rfl⟩ | ⟨i, child, below, hchild, rfl, hbelow⟩)
        · exact ⟨0, node, below, rfl, rfl, hbelow⟩
        · exact ⟨i + 1, child, below, hchild, by rw [Nat.add_right_comm, Nat.add_assoc], hbelow⟩
      · rintro ⟨i, child, below, hchild, rfl, hbelow⟩
        cases i with
        | zero =>
            obtain rfl : node = child := Option.some.inj hchild
            exact .inl ⟨below, hbelow, rfl⟩
        | succ i =>
            exact .inr ⟨i, child, below, hchild, by rw [Nat.add_right_comm, Nat.add_assoc], hbelow⟩

/-- The paths of a tree are those at which there is a node. -/
theorem mem_paths_iff {node : Node} {path : List Nat} :
    path ∈ node.paths ↔ ∃ found, node.at? path = some found := by
  induction node using induction_children generalizing path with
  | step node ih =>
      rw [paths_eq, List.mem_cons, mem_pathsFrom_iff]
      cases path with
      | nil => simp [at?]
      | cons index path =>
          constructor
          · rintro (h | ⟨i, child, below, hchild, hpath, hbelow⟩)
            · exact absurd h (List.cons_ne_nil index path)
            · obtain ⟨rfl, rfl⟩ := List.cons.inj hpath
              rw [Nat.zero_add, at?_cons hchild]
              exact (ih child (List.mem_of_getElem? hchild)).1 hbelow
          · rintro ⟨found, hfound⟩
            obtain ⟨child, hchild, hfound⟩ := Option.bind_eq_some_iff.1 hfound
            refine .inr ⟨index, child, path, hchild, by rw [Nat.zero_add], ?_⟩
            exact (ih child (List.mem_of_getElem? hchild)).2 ⟨found, hfound⟩

theorem pairwise_pathsFrom {index : Nat} {nodes : List Node}
    (h : ∀ node ∈ nodes, node.paths.Pairwise (· < ·)) :
    (pathsFrom index nodes).Pairwise (· < ·) := by
  induction nodes generalizing index with
  | nil => exact .nil
  | cons node rest ih =>
      rw [pathsFrom, List.pairwise_append, List.pairwise_map]
      refine ⟨(h node List.mem_cons_self).imp fun hlt => List.cons_lt_cons_iff.2 (.inr ⟨rfl, hlt⟩),
        ih fun other hother => h other (List.mem_cons_of_mem _ hother), ?_⟩
      -- What is below later children comes after what is below earlier ones.
      intro path hpath later hlater
      obtain ⟨below, -, rfl⟩ := List.mem_map.1 hpath
      obtain ⟨i, child, other, -, rfl, -⟩ := mem_pathsFrom_iff.1 hlater
      exact List.cons_lt_cons_iff.2 (.inl (by omega))

/-- In document order a path comes before the paths below it, and these before the paths of
later siblings. -/
theorem pairwise_paths (node : Node) : node.paths.Pairwise (· < ·) := by
  induction node using induction_children with
  | step node ih =>
      rw [paths_eq, List.pairwise_cons]
      refine ⟨fun path hpath => ?_, pairwise_pathsFrom ih⟩
      obtain ⟨i, child, below, -, rfl, -⟩ := mem_pathsFrom_iff.1 hpath
      exact List.nil_lt_cons _ _

/-! ### Slots -/

/-- The slot of a child. -/
def childSlot? (node : Node) (index : Nat) : Option Slot :=
  (Parent.ofNode? node).bind fun parent =>
    node.children[index]?.map fun child => ⟨child, some (index, parent)⟩

theorem childSlot?_eq_some_iff {node : Node} {index : Nat} {slot : Slot} :
    node.childSlot? index = some slot ↔ ∃ parent child, Parent.ofNode? node = some parent ∧
      node.children[index]? = some child ∧ slot = ⟨child, some (index, parent)⟩ := by
  simp only [childSlot?, Option.bind_eq_some_iff, Option.map_eq_some_iff]
  constructor
  · rintro ⟨parent, hparent, child, hchild, rfl⟩
    exact ⟨parent, child, hparent, hchild, rfl⟩
  · rintro ⟨parent, child, hparent, hchild, rfl⟩
    exact ⟨parent, hparent, child, hchild, rfl⟩

/-- What has a child is a parent. -/
theorem exists_ofNode?_of_getElem? {node child : Node} {index : Nat}
    (h : node.children[index]? = some child) : ∃ parent, Parent.ofNode? node = some parent := by
  cases hnode : Parent.ofNode? node with
  | none => simp [Parent.children_eq_nil hnode] at h
  | some parent => exact ⟨parent, rfl⟩

theorem node_of_childSlot? (node : Node) (index : Nat) :
    (node.childSlot? index).map Slot.node = node.children[index]? := by
  cases hchild : node.children[index]? with
  | none => simp [childSlot?, hchild]
  | some child =>
      obtain ⟨parent, hparent⟩ := exists_ofNode?_of_getElem? hchild
      simp [childSlot?, hchild, hparent]

/-- Slots of children depend on the children and on what their parent looks like to them. -/
theorem childSlot?_withChildren {node : Node} {children : List Node} {index : Nat}
    (h : children.length = node.children.length) :
    (node.withChildren children).childSlot? index = (Parent.ofNode? node).bind fun parent =>
      children[index]?.map fun child => ⟨child, some (index, parent)⟩ := by
  rw [childSlot?, Parent.ofNode?_withChildren h]
  cases hnode : Parent.ofNode? node with
  | none => rfl
  | some parent => rw [Node.children_withChildren (Parent.hasChildList hnode)]

end Node

namespace Slot

/-- The slot at a path below a slot. -/
def at? : Slot → List Nat → Option Slot
  | slot, [] => some slot
  | slot, index :: path => (slot.node.childSlot? index).bind fun child => child.at? path

/-- The node at a path is the one in the slot at that path. -/
theorem node_at? (slot : Slot) (path : List Nat) :
    (slot.at? path).map Slot.node = slot.node.at? path := by
  induction path generalizing slot with
  | nil => rfl
  | cons index path ih =>
      rw [at?, Node.at?, ← Node.node_of_childSlot?]
      cases slot.node.childSlot? index with
      | none => rfl
      | some child => exact ih child

theorem node_of_at? {slot found : Slot} {path : List Nat} (h : slot.at? path = some found) :
    slot.node.at? path = some found.node := by
  rw [← node_at?, h, Option.map_some]

end Slot

end PostPress
