import PostPress.Tree.Visit

/-!
# PostPress.Normalize

Foreign inline nodes that stand for formatting become elements: `u` is an
underline, `s` and `del` are a deletion. Their children move over as they are;
nodes of any other name stay.
-/

namespace PostPress

/-- The element that stands for a foreign node of this name. -/
def canonicalTag (name : String) : Option String :=
  match name with
  | "u" => some "u"
  | "del" | "s" => some "del"
  | _ => none

/-- Put the element for a foreign node into its slot. The children are taken out
of the node first, so the top of a tree, where the replacement is refused, is
left without them. -/
def normalizeVisitor : Visitor Unit := fun _ slot =>
  match slot.node with
  | .foreign name children =>
      match canonicalTag name with
      | none => ⟨(), slot.node, .descend⟩
      | some tag =>
          let emptied : Slot := { slot with node := .foreign name [] }
          ⟨(), (emptied.replace (.plain tag children)).1.node, .descend⟩
  | node => ⟨(), node, .descend⟩

/-- The tree with an element for every foreign node that stands for one. -/
def normalize (tree : Node) : Node :=
  (tree.visitMut Node.isForeign normalizeVisitor ()).2

end PostPress
