import PostPress.Proofs.Tree.Heading
import PostPress.Proofs.Tree.Walk

/-!
# PostPress.Proofs.Tree.Everywhere

**What holds at every place of a tree.** A place is a node with its parent, as a visitor
sees it.

* `Everywhere` — a property of a node and of all that is below it;
* `walk_eq_self` — a walk changes nothing if its visits change nothing;
* `Visitor.Brings`, `everywhere_walk` — what every visit brings about holds at every
  place of the tree that the walk leaves.

Together they say when a second walk changes nothing: if what the first one brings about
is what the visits of the second one leave as it is.
-/

namespace PostPress

universe u

variable {σ : Type u}

/-- A property holds of a node at a place, and of all nodes below it at theirs. -/
inductive Everywhere (P : Option Parent → Node → Prop) : Option Parent → Node → Prop
  /-- It holds of the node, and below it. -/
  | intro {parent : Option Parent} {node : Node} (here : P parent node)
      (below : ∀ child ∈ node.children, Everywhere P (Parent.ofNode? node) child) :
      Everywhere P parent node

namespace Everywhere

variable {P Q : Option Parent → Node → Prop} {parent : Option Parent} {node child : Node}

theorem here (h : Everywhere P parent node) : P parent node := by
  cases h
  assumption

theorem of_mem (h : Everywhere P parent node) (hchild : child ∈ node.children) :
    Everywhere P (Parent.ofNode? node) child := by
  cases h with
  | intro _ below => exact below child hchild

theorem mono (h : Everywhere P parent node) (hsub : ∀ parent node, P parent node → Q parent node) :
    Everywhere Q parent node := by
  induction h with
  | intro here _ ih => exact .intro (hsub _ _ here) ih

/-- What holds of every node holds everywhere. -/
theorem of_forall (h : ∀ parent node, P parent node) (parent : Option Parent) (node : Node) :
    Everywhere P parent node := by
  induction node using Node.induction_children generalizing parent with
  | step node ih => exact .intro (h parent node) fun child hchild => ih child hchild _

end Everywhere

/-! ### Walks that change nothing -/

variable {test : Node → Bool} {visitor : Visitor σ}

theorem walkList_eq_self {parent : Parent} {children : List Node}
    (hchildren : ∀ child ∈ children, ∀ state index,
      walk test visitor state ⟨child, some (index, parent)⟩ = (state, child))
    (index : Nat) (state : σ) :
    walkList test visitor parent index state children = (state, children) := by
  induction children generalizing index state with
  | nil => rfl
  | cons child rest ih =>
      have hrest := ih (fun other hother => hchildren other (List.mem_cons_of_mem _ hother))
        (index + 1) state
      simp only [walkList, hchildren child List.mem_cons_self, hrest]

theorem Node.withChildren_children (node : Node) : node.withChildren node.children = node := by
  cases node <;> rfl

/-- A walk changes nothing in a tree where no visit changes anything. -/
theorem walk_eq_self {P : Option Parent → Node → Prop} (hshrinks : visitor.Shrinks test)
    (hleaves : ∀ state slot, Everywhere P slot.parent? slot.node →
      visitor.tested test state slot = ⟨state, slot.node, .descend⟩)
    {parent : Option Parent} {node : Node} (h : Everywhere P parent node) (state : σ)
    {position : Option (Nat × Parent)} (hposition : position.map (·.2) = parent) :
    walk test visitor state ⟨node, position⟩ = (state, node) := by
  induction h generalizing state position with
  | @intro parent node here below ih =>
      subst hposition
      have hvisit := hleaves state ⟨node, position⟩ (.intro here below)
      simp only [walk_eq hshrinks, walkStep, hvisit, Visited.parent?]
      cases hparent : Parent.ofNode? node with
      | none => rfl
      | some parent =>
          have hchild : ∀ child ∈ node.children, ∀ state index,
              walk test visitor state ⟨child, some (index, parent)⟩ = (state, child) :=
            fun child hchild state _ => ih child hchild state hparent.symm
          simp only [walkList_eq_self hchild, node.withChildren_children]

/-! ### What walks bring about -/

theorem Visit.skip_ne_descend : Visit.skip ≠ .descend := Visit.noConfusion

theorem length_walkList (parent : Parent) (index : Nat) (state : σ) (children : List Node) :
    (walkList test visitor parent index state children).2.length = children.length := by
  induction children generalizing index state with
  | nil => rfl
  | cons child rest ih =>
      rw [walkList]
      exact congrArg Nat.succ (ih _ _)

/-- What a walk leaves among the children of a node, it leaves in the slot of a child. -/
theorem exists_of_mem_walkList {parent : Parent} {index : Nat} {state : σ} {children : List Node}
    {node : Node} (h : node ∈ (walkList test visitor parent index state children).2) :
    ∃ child ∈ children, ∃ state index,
      node = (walk test visitor state ⟨child, some (index, parent)⟩).2 := by
  induction children generalizing index state with
  | nil => exact absurd h List.not_mem_nil
  | cons child rest ih =>
      rw [walkList] at h
      rcases List.mem_cons.1 h with rfl | h
      · exact ⟨child, List.mem_cons_self, state, index, rfl⟩
      · obtain ⟨other, hother, hwalk⟩ := ih h
        exact ⟨other, List.mem_cons_of_mem _ hother, hwalk⟩

/-- A visitor brings about a property, of trees that have another one before: the walk
goes on in nodes that have the earlier property below them, and what it leaves has the
later one. -/
structure Visitor.Brings (visitor : Visitor σ) (test : Node → Bool)
    (P Q : Option Parent → Node → Prop) : Prop where
  /-- The walk puts no taller nodes where it goes on. -/
  shrinks : visitor.Shrinks test
  /-- Where the walk does not go on, the later property holds. -/
  skipped : ∀ {state : σ} {slot : Slot}, Everywhere P slot.parent? slot.node →
    (visitor.tested test state slot).next = .skip →
      Everywhere Q slot.parent? (visitor.tested test state slot).node
  /-- Where it goes on, the earlier one holds below. -/
  below : ∀ {state : σ} {slot : Slot}, Everywhere P slot.parent? slot.node →
    (visitor.tested test state slot).next = .descend →
      ∀ child ∈ (visitor.tested test state slot).node.children,
        Everywhere P (Parent.ofNode? (visitor.tested test state slot).node) child
  /-- There the later one holds of the node, whatever becomes of its children. -/
  descended : ∀ {state : σ} {slot : Slot}, Everywhere P slot.parent? slot.node →
    (visitor.tested test state slot).next = .descend →
      ∀ children : List Node,
        children.length = (visitor.tested test state slot).node.children.length →
          Q slot.parent? ((visitor.tested test state slot).node.withChildren children)

theorem Parent.ofNode?_withChildren {node : Node} {children : List Node}
    (h : children.length = node.children.length) :
    Parent.ofNode? (node.withChildren children) = Parent.ofNode? node := by
  cases node with
  | text _ => rfl
  | root _ => exact congrArg (some ∘ Parent.root) h
  | element tag _ _ => exact congrArg (some ∘ Parent.element tag) h
  | foreign name _ => exact congrArg (some ∘ Parent.foreign name) h

theorem Parent.children_eq_nil {node : Node} (h : Parent.ofNode? node = none) :
    node.children = [] := by
  cases node with
  | text _ => rfl
  | root _ | element _ _ _ | foreign _ _ => exact absurd h nofun

theorem Parent.hasChildList {node : Node} {parent : Parent} (h : Parent.ofNode? node = some parent) :
    node.hasChildList = true := by
  cases node with
  | text _ => exact absurd h nofun
  | root _ | element _ _ _ | foreign _ _ => rfl

/-- **What every visit brings about** holds everywhere after the walk. -/
theorem everywhere_walk {P Q : Option Parent → Node → Prop} (hbrings : visitor.Brings test P Q)
    (slot : Slot) (h : Everywhere P slot.parent? slot.node) (state : σ) :
    Everywhere Q slot.parent? (walk test visitor state slot).2 := by
  -- A visit may put another node into the slot, so the induction is on the height of what
  -- the walk goes into, not on the tree that is given.
  obtain ⟨levels, hlevels⟩ : ∃ levels, slot.node.height ≤ levels := ⟨_, Nat.le_refl _⟩
  induction levels generalizing slot state with
  | zero => exact absurd slot.node.height_pos (Nat.not_lt.2 hlevels)
  | succ levels ih =>
      simp only [walk_eq hbrings.shrinks, walkStep]
      cases hnext : (visitor.tested test state slot).next with
      | skip =>
          have hparent : (visitor.tested test state slot).parent? = none := by
            rw [Visited.parent?, hnext]
          rw [hparent]
          exact hbrings.skipped h hnext
      | descend =>
          have hparent : (visitor.tested test state slot).parent? =
              Parent.ofNode? (visitor.tested test state slot).node := by
            rw [Visited.parent?, hnext]
          have hdescended := hbrings.descended h hnext
          have hbelow := hbrings.below h hnext
          have hheight := Nat.le_trans (hbrings.shrinks.tested hnext) hlevels
          rw [hparent]
          generalize visitor.tested test state slot = visited at *
          obtain ⟨state, node, next⟩ := visited
          cases hnode : Parent.ofNode? node with
          | none =>
              have hchildren : node.children = [] := Parent.children_eq_nil hnode
              have hhere := hdescended node.children rfl
              rw [node.withChildren_children] at hhere
              exact .intro hhere fun child hchild => by simp [hchildren] at hchild
          | some parent =>
              refine .intro (hdescended _ (length_walkList ..)) fun child hchild => ?_
              rw [Node.children_withChildren (Parent.hasChildList hnode)] at hchild
              obtain ⟨found, hfound, state', index, rfl⟩ := exists_of_mem_walkList hchild
              have hlt := Node.height_lt_of_mem hfound
              have hinside : Everywhere P (some parent) found := hnode ▸ hbelow found hfound
              rw [Parent.ofNode?_withChildren (length_walkList ..), hnode]
              exact ih ⟨found, some (index, parent)⟩ hinside state'
                (Nat.le_of_lt_succ (Nat.lt_of_lt_of_le hlt hheight))

end PostPress
