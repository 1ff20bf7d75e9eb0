import Mathlib.Data.List.Forall2
import PostPress.Tree.Visit

/-!
# PostPress.Proofs.Tree.Walk

**Walks without levels.** An editing walk is bounded by a number of levels. Here
it gets two readings that do not mention them:

* `walkSlot_rel` — what every visit does to the node in its slot, the walk does to
  the whole tree, for relations that hold of a node as soon as they hold of its
  children;
* `walk` — the walk of a visitor that never puts a taller node into a slot the
  walk descends into (`Visitor.Shrinks`). The levels of the tree are enough for
  it, and `walk_eq` says what it does slot by slot.
-/

namespace PostPress

universe u

variable {σ : Type u}

/-! ### One slot -/

/-- The parent whose children are walked after a visit, if any are. -/
def Visited.parent? (visited : Visited σ) : Option Parent :=
  match visited.next with
  | .skip => none
  | .descend => Parent.ofNode? visited.node

/-- A visit of a slot whose node may fail the test. -/
def Visitor.tested (test : Node → Bool) (visitor : Visitor σ) : Visitor σ := fun state slot =>
  if test slot.node then visitor state slot else ⟨state, slot.node, .descend⟩

theorem Visited.ofNode?_of_parent? {visited : Visited σ} {parent : Parent}
    (h : visited.parent? = some parent) :
    visited.next = .descend ∧ Parent.ofNode? visited.node = some parent := by
  obtain ⟨state, node, next⟩ := visited
  cases next with
  | skip => exact absurd h nofun
  | descend => exact ⟨rfl, h⟩

theorem walkSlot_succ (test : Node → Bool) (visitor : Visitor σ) (levels : Nat) (state : σ)
    (slot : Slot) :
    walkSlot test visitor (levels + 1) state slot =
      match (visitor.tested test state slot).parent? with
      | none =>
          some ((visitor.tested test state slot).state, (visitor.tested test state slot).node)
      | some parent =>
          (visitChildren (walkSlot test visitor levels) parent 0
            (visitor.tested test state slot).state
            (visitor.tested test state slot).node.children).map fun (last, children) =>
              (last, (visitor.tested test state slot).node.withChildren children) := by
  rw [walkSlot]
  unfold Visitor.tested
  generalize (if test slot.node = true then visitor state slot else _) = visited
  obtain ⟨state, node, next⟩ := visited
  cases next <;> cases node <;> rfl

/-- A walk of some children walks the first one, and the others in the state which that
leaves. -/
theorem visitChildren_cons_eq_some_iff {walk : σ → Slot → Option (σ × Node)} {parent : Parent}
    {index : Nat} {state last : σ} {first : Node} {rest children' : List Node} :
    visitChildren walk parent index state (first :: rest) = some (last, children') ↔
      ∃ between first' rest', walk state ⟨first, some (index, parent)⟩ = some (between, first') ∧
        visitChildren walk parent (index + 1) between rest = some (last, rest') ∧
        children' = first' :: rest' := by
  simp only [visitChildren, Option.bind_eq_bind, Option.bind_eq_some_iff]
  constructor
  · rintro ⟨⟨between, first'⟩, hfirst, ⟨last, rest'⟩, hrest, h⟩
    obtain ⟨rfl, rfl⟩ := Prod.mk.inj (Option.some.inj h)
    exact ⟨between, first', rest', hfirst, hrest, rfl⟩
  · rintro ⟨between, first', rest', hfirst, hrest, rfl⟩
    exact ⟨(between, first'), hfirst, (last, rest'), hrest, rfl⟩

/-! ### What every visit does, the walk does -/

/-- The children that a walk leaves are related to those it found, if it relates
the nodes of slots. -/
theorem visitChildren_rel {R : Node → Node → Prop} {walk : σ → Slot → Option (σ × Node)}
    (hwalk : ∀ {state slot state' node'}, walk state slot = some (state', node') →
      R slot.node node')
    {parent : Parent} {index : Nat} {state state' : σ} {children children' : List Node}
    (h : visitChildren walk parent index state children = some (state', children')) :
    List.Forall₂ R children children' := by
  induction children generalizing index state children' with
  | nil =>
      simp only [visitChildren, Option.some.injEq, Prod.mk.injEq] at h
      obtain ⟨-, rfl⟩ := h
      exact .nil
  | cons child rest ih =>
      obtain ⟨between, child', rest', hchild, hrest, rfl⟩ := visitChildren_cons_eq_some_iff.1 h
      exact .cons (hwalk hchild) (ih hrest)

section Relation

variable {R : Node → Node → Prop} (hrefl : ∀ node, R node node)
  (htrans : ∀ {a b c}, R a b → R b c → R a c)
  (hchildren : ∀ {node children}, List.Forall₂ R node.children children →
    R node (node.withChildren children))
  {test : Node → Bool} {visitor : Visitor σ}
  (hvisit : ∀ state slot, R slot.node (visitor state slot).node)

include hrefl htrans hchildren hvisit

/-- A relation that holds between a slot before and after each visit, and passes
from the children to the node, holds between the trees before and after a walk. -/
theorem walkSlot_rel {levels : Nat} {state state' : σ} {slot : Slot} {node' : Node}
    (h : walkSlot test visitor levels state slot = some (state', node')) : R slot.node node' := by
  induction levels generalizing state slot state' node' with
  | zero => exact absurd h nofun
  | succ levels ih =>
      have htested : R slot.node (visitor.tested test state slot).node := by
        unfold Visitor.tested
        split
        · exact hvisit state slot
        · exact hrefl slot.node
      rw [walkSlot_succ] at h
      split at h
      · obtain ⟨-, rfl⟩ := Prod.mk.inj (Option.some.inj h)
        exact htested
      · obtain ⟨⟨state₁, children⟩, hlist, h⟩ := Option.map_eq_some_iff.1 h
        obtain ⟨-, rfl⟩ := Prod.mk.inj h
        exact htrans htested (hchildren (visitChildren_rel ih hlist))

theorem Node.visitMut_rel (state : σ) (tree : Node) :
    R tree (tree.visitMut test visitor state).2 := by
  unfold Node.visitMut Node.visitMut?
  cases h : walkSlot test visitor tree.height state ⟨tree, none⟩ with
  | none => exact hrefl tree
  | some result => exact walkSlot_rel hrefl htrans hchildren hvisit h

end Relation

/-! ### Enough levels -/

theorem Node.height_pos (node : Node) : 0 < node.height := by
  cases node <;> simp [Node.height]

theorem Node.height_le_heightList {node : Node} {nodes : List Node} (h : node ∈ nodes) :
    node.height ≤ Node.heightList nodes := by
  induction nodes with
  | nil => exact absurd h List.not_mem_nil
  | cons head rest ih =>
      rw [Node.heightList]
      rcases List.mem_cons.1 h with rfl | h
      · exact Nat.le_max_left ..
      · exact Nat.le_trans (ih h) (Nat.le_max_right ..)

/-- A child has fewer levels than its parent. -/
theorem Node.height_lt_of_mem {node child : Node} (h : child ∈ node.children) :
    child.height < node.height := by
  cases node with
  | text _ => exact absurd h List.not_mem_nil
  | root _ | element _ _ _ | foreign _ _ =>
      exact Nat.lt_succ_of_le (Node.height_le_heightList h)

/-- Induction on a tree: what holds of a node as soon as it holds of its children, holds of
every node. -/
theorem Node.induction_children {motive : Node → Prop}
    (step : ∀ node : Node, (∀ child ∈ node.children, motive child) → motive node)
    (node : Node) : motive node := by
  obtain ⟨levels, hlevels⟩ : ∃ levels, node.height ≤ levels := ⟨_, Nat.le_refl _⟩
  induction levels generalizing node with
  | zero => exact absurd node.height_pos (Nat.not_lt.2 hlevels)
  | succ levels ih =>
      refine step node fun child hchild => ih child ?_
      exact Nat.le_of_lt_succ (Nat.lt_of_lt_of_le (Node.height_lt_of_mem hchild) hlevels)

/-- A visitor that puts no taller node into a slot that the walk descends into. -/
def Visitor.Shrinks (test : Node → Bool) (visitor : Visitor σ) : Prop :=
  ∀ state slot, test slot.node = true → (visitor state slot).next = .descend →
    (visitor state slot).node.height ≤ slot.node.height

theorem Visitor.Shrinks.tested {test : Node → Bool} {visitor : Visitor σ}
    (h : visitor.Shrinks test) {state : σ} {slot : Slot}
    (hnext : (visitor.tested test state slot).next = .descend) :
    (visitor.tested test state slot).node.height ≤ slot.node.height := by
  unfold Visitor.tested at hnext ⊢
  split at hnext
  · next htest =>
      rw [if_pos htest]
      exact h state slot htest hnext
  · next htest => exact Nat.le_of_eq (by rw [if_neg htest])

/-- The walk of the tree in a slot, through as many levels as the tree has. -/
def walk (test : Node → Bool) (visitor : Visitor σ) (state : σ) (slot : Slot) : σ × Node :=
  (walkSlot test visitor slot.node.height state slot).getD (state, slot.node)

/-- The walk of the children of one parent from left to right. -/
def walkList (test : Node → Bool) (visitor : Visitor σ) (parent : Parent) :
    Nat → σ → List Node → σ × List Node
  | _, state, [] => (state, [])
  | index, state, child :: rest =>
      let (state, child) := walk test visitor state ⟨child, some (index, parent)⟩
      let (state, rest) := walkList test visitor parent (index + 1) state rest
      (state, child :: rest)

variable {test : Node → Bool} {visitor : Visitor σ}

theorem visitChildren_eq_some_walkList {levels : Nat} {parent : Parent}
    {index : Nat} {state : σ} {children : List Node}
    (hslot : ∀ child ∈ children, ∀ state index,
      walkSlot test visitor levels state ⟨child, some (index, parent)⟩ =
        some (walk test visitor state ⟨child, some (index, parent)⟩)) :
    visitChildren (walkSlot test visitor levels) parent index state children =
      some (walkList test visitor parent index state children) := by
  induction children generalizing index state with
  | nil => rfl
  | cons child rest ih =>
      have hrest : ∀ index state, visitChildren (walkSlot test visitor levels) parent index state
          rest = some (walkList test visitor parent index state rest) := fun _ _ =>
        ih fun c hc => hslot c (List.mem_cons_of_mem _ hc)
      simp [visitChildren, walkList, hslot child List.mem_cons_self, hrest]

/-- What a walk does to one slot: the visit, and then the walk of the children. -/
def walkStep (test : Node → Bool) (visitor : Visitor σ) (state : σ) (slot : Slot) : σ × Node :=
  let visited := visitor.tested test state slot
  match visited.parent? with
  | none => (visited.state, visited.node)
  | some parent =>
      let (state, children) := walkList test visitor parent 0 visited.state visited.node.children
      (state, visited.node.withChildren children)

/-- As many levels as the tree has are enough, and more make no difference. -/
theorem walkSlot_eq_some_walkStep (hshrinks : visitor.Shrinks test) {levels : Nat} {state : σ}
    {slot : Slot} (hlevels : slot.node.height ≤ levels) :
    walkSlot test visitor levels state slot = some (walkStep test visitor state slot) := by
  induction levels using Nat.strongRecOn generalizing state slot with
  | ind levels ih =>
      obtain ⟨levels, rfl⟩ := Nat.exists_eq_add_one_of_ne_zero
        (Nat.ne_of_gt (Nat.lt_of_lt_of_le slot.node.height_pos hlevels))
      rw [walkSlot_succ]
      simp only [walkStep]
      cases hparent : (visitor.tested test state slot).parent? with
      | none => simp only
      | some parent =>
          have hnode := hshrinks.tested (Visited.ofNode?_of_parent? hparent).1
          -- Both this walk and the one through the levels of a child do the same step.
          have hslot : ∀ child ∈ (visitor.tested test state slot).node.children, ∀ state index,
              walkSlot test visitor levels state ⟨child, some (index, parent)⟩ =
                some (walk test visitor state ⟨child, some (index, parent)⟩) := by
            intro child hc state index
            have hlt := Node.height_lt_of_mem hc
            rw [walk, ih levels (by omega) (by simp only; omega),
              ih child.height (by omega) (Nat.le_refl _), Option.getD_some]
          simp only [visitChildren_eq_some_walkList hslot, Option.map_some]

/-- **Unfolding.** A walk visits the node in the slot and walks the children of
what the visit left there. -/
theorem walk_eq (hshrinks : visitor.Shrinks test) (state : σ) (slot : Slot) :
    walk test visitor state slot = walkStep test visitor state slot := by
  rw [walk, walkSlot_eq_some_walkStep hshrinks (Nat.le_refl _), Option.getD_some]

/-! ### Walks that map -/

/-- If a walk does the same to each child whatever its state is, it maps the children. -/
theorem walkList_nodes {f : Node → Node} {parent : Parent} {children : List Node}
    (h : ∀ child ∈ children, ∀ state index,
      (walk test visitor state ⟨child, some (index, parent)⟩).2 = f child)
    (index : Nat) (state : σ) :
    (walkList test visitor parent index state children).2 = children.map f := by
  induction children generalizing index state with
  | nil => rfl
  | cons child rest ih =>
      rw [walkList, List.map_cons, ← h child List.mem_cons_self state index]
      exact congrArg _ (ih (fun other hother => h other (List.mem_cons_of_mem _ hother)) _ _)

end PostPress
