import PostPress.Embed.Link
import PostPress.Footnote
import PostPress.Tree.Visit

/-!
# PostPress.Embed.Placement

Links to hosted videos and files give way to their players; every other link is
made safe to follow.

1. A paragraph whose only child is such a link is replaced as a whole.
2. Such a link beside other content of a paragraph stays a link.
3. Any other such link is replaced by the player.

A link that stays opens in a new context, except those between footnotes and
their references.
-/

namespace PostPress

namespace Embed

/-- The resource that an anchor links to. -/
def ofAnchor? (node : Node) : Option Embed :=
  if node.isElement "a" then node.attr? "href" >>= classify else none

/-- Whether an anchor joins a text and a footnote. -/
def isFootnoteLink (node : Node) : Bool :=
  node.attributes.contains Footnote.referenceMark ||
    node.attributes.contains Footnote.backReferenceMark

/-- The anchor opening in a new context, which cannot reach back. -/
def makeSafe (node : Node) : Node :=
  (node.setAttr "target" (.text "_blank")).setAttr "rel" (.text "noopener noreferrer")

/-- Whether a slot is one of several in a paragraph. -/
def sharesParagraph (slot : Slot) : Bool :=
  match slot.parent? with
  | some (.element tag size) => tag == "p" && decide (1 < size)
  | _ => false

/-- The resource whose player takes the place of the node in a slot. -/
def replacing? (slot : Slot) : Option Embed :=
  match slot.node with
  | .element "p" _ [only] => ofAnchor? only
  | node => if sharesParagraph slot then none else ofAnchor? node

/-- Visit one anchor or paragraph; the state counts the players. -/
def placeVisitor : Visitor Nat := fun count slot =>
  let kept : Visited Nat :=
    ⟨count,
      if slot.node.isElement "a" && (slot.node.attr? "href").isSome && !isFootnoteLink slot.node
      then makeSafe slot.node else slot.node, .descend⟩
  match replacing? slot with
  | none => kept
  | some embed =>
      match slot.replace embed.toNode with
      | (_, none) => kept
      | (slot, some _) => ⟨count + 1, slot.node, .skip⟩

end Embed

/-- Put players for links to hosted videos and files: how many, and the tree. -/
def placeEmbeds (tree : Node) : Nat × Node :=
  tree.visitMut (fun node => node.isElement "a" || node.isElement "p") Embed.placeVisitor 0

end PostPress
