import PostPress.Proofs.Embed.Placement
import PostPress.Proofs.Normalize
import PostPress.Proofs.Pipeline.Heading

/-!
# PostPress.Proofs.Pipeline.Settled

**Trees that the stages leave as they are.** After a stage its work is done at every
place of the tree, and where it is done the stage changes nothing: no foreign node is left
that stands for formatting (`Node.IsNormal`), and no link that gives way to a player or has
to be made safe (`Node.IsPlaced`).

* `Node.IsSettled` — both, as far as a pipeline has the stages.

`Pipeline.settled_placed` and `Pipeline.placed_eq_self` put this together: what the first
two stages leave, they leave as it is.
-/

namespace PostPress

/-- A place where nothing is left to do before the ids, with players or without. -/
def Node.IsSettled (embeds : Bool) (parent : Option Parent) (node : Node) : Prop :=
  node.IsNormal parent ∧ (embeds = true → node.IsPlaced parent)

namespace Node

theorem IsSettled.of_not_anchor {embeds : Bool} {parent : Option Parent} {node : Node}
    (hanchor : node.isElement "a" = false) (hforeign : node.isForeign = false) :
    node.IsSettled embeds parent :=
  ⟨Node.isNormal_of_not_foreign hforeign, fun _ => .of_not_anchor hanchor⟩

theorem IsSettled.withChildren {embeds : Bool} {parent : Option Parent} {node : Node}
    {children : List Node} (h : node.IsSettled embeds parent)
    (hlength : children.length = node.children.length) :
    (node.withChildren children).IsSettled embeds parent :=
  ⟨h.1.withChildren hlength, fun hembeds => (h.2 hembeds).withChildren children⟩

end Node

/-- Making a node safe leaves it normal. -/
theorem isNormal_secured {parent : Option Parent} {node : Node} (h : node.IsNormal parent) :
    (Embed.secured node).IsNormal parent := by
  cases node with
  | foreign name children => exact h
  | text _ | root _ | element _ _ _ =>
      refine Node.isNormal_of_not_foreign ?_
      rw [Embed.secured_eq (f := Node.isForeign)
        fun node => by rw [Embed.makeSafe, Node.isForeign_setAttr, Node.isForeign_setAttr]]
      rfl

/-- Placing players keeps a tree normal, and leaves nothing to do. -/
theorem everywhere_placeEmbeds {tree : Node} (h : Everywhere Node.IsNormal none tree) :
    Everywhere (Node.IsSettled true) none (placeEmbeds tree).2 := by
  refine (Embed.everywhere_placeEmbeds_of (fun _ _ _ => Node.isNormal_of_not_foreign) ?_ h).mono
    fun _ _ h => ⟨h.1, fun _ => h.2⟩
  intro _ _ _ hnormal hlength
  refine (isNormal_secured hnormal).withChildren ?_
  rw [hlength, Embed.children_secured]

namespace Pipeline

variable (p : Pipeline)

/-- What the headings are read of is settled. -/
theorem settled_placed (tree : Node) :
    Everywhere (Node.IsSettled p.embeds) none (p.placed tree) := by
  have hnormal := everywhere_normalize tree
  unfold placed
  cases p.embeds with
  | true => exact everywhere_placeEmbeds hnormal
  | false => exact hnormal.mono fun _ _ h => ⟨h, nofun⟩

/-- A settled tree is left as it is. -/
theorem placed_eq_self {tree : Node} (h : Everywhere (Node.IsSettled p.embeds) none tree) :
    p.placed tree = tree := by
  have hnormal : normalize tree = tree := normalize_eq_self (h.mono fun _ _ h => h.1)
  unfold placed
  rw [hnormal]
  split
  · next hembeds => rw [placeEmbeds_eq_self (h.mono fun _ _ h => h.2 hembeds)]
  · rfl

end Pipeline

end PostPress
