import PostPress.Tree.Basic

/-!
# PostPress.Proofs.Tree.Heading

**The headings of a tree.** Three readings of a tree, and how they agree:

* `headings` — every heading, in document order;
* `outermostHeadings` — only those that do not lie below another one;
* `headingNesting` — how many headings lie on one way down, at most.

Where headings do not nest (`HeadingsApart`), the first two are the same. The
nesting is one number, so that a function on trees keeps headings apart as soon
as it does not raise it.

* `headingsOutside` — only those that do not lie below a node of a certain kind.
-/

namespace PostPress

/-- There are six tags of headings. -/
theorem mem_of_headingLevel {tag : String} (h : (headingLevel tag).isSome = true) :
    tag ∈ ["h1", "h2", "h3", "h4", "h5", "h6"] := by
  unfold headingLevel at h
  split at h <;> simp_all

namespace Node

/-! ### Headings in document order -/

mutual

/-- The headings of a tree in document order. -/
def headings : Node → List Node
  | .text _ => []
  | .root children | .foreign _ children => headingsList children
  | .element tag attrs children =>
      if (headingLevel tag).isSome then .element tag attrs children :: headingsList children
      else headingsList children

/-- The headings of the trees of a list. -/
def headingsList : List Node → List Node
  | [] => []
  | node :: rest => headings node ++ headingsList rest

end

mutual

/-- The headings of a tree that do not lie below another one, in document order. -/
def outermostHeadings : Node → List Node
  | .text _ => []
  | .root children | .foreign _ children => outermostHeadingsList children
  | .element tag attrs children =>
      if (headingLevel tag).isSome then [.element tag attrs children]
      else outermostHeadingsList children

/-- The outermost headings of the trees of a list. -/
def outermostHeadingsList : List Node → List Node
  | [] => []
  | node :: rest => outermostHeadings node ++ outermostHeadingsList rest

end

mutual

/-- How many headings lie on one way down from the top, at most. -/
def headingNesting : Node → Nat
  | .text _ => 0
  | .root children | .foreign _ children => headingNestingList children
  | .element tag _ children =>
      (if (headingLevel tag).isSome then 1 else 0) + headingNestingList children

/-- How many headings lie on one way down in the trees of a list, at most. -/
def headingNestingList : List Node → Nat
  | [] => 0
  | node :: rest => max (headingNesting node) (headingNestingList rest)

end

mutual

/-- The headings of a tree that do not lie below a closed node, in document order. -/
def headingsOutside (closed : Node → Bool) : Node → List Node
  | .text _ => []
  | .root children =>
      if closed (.root children) then [] else headingsOutsideList closed children
  | .foreign name children =>
      if closed (.foreign name children) then [] else headingsOutsideList closed children
  | .element tag attrs children =>
      (if (headingLevel tag).isSome then [.element tag attrs children] else []) ++
        if closed (.element tag attrs children) then [] else headingsOutsideList closed children

/-- The headings of the trees of a list that do not lie below a closed node. -/
def headingsOutsideList (closed : Node → Bool) : List Node → List Node
  | [] => []
  | node :: rest => headingsOutside closed node ++ headingsOutsideList closed rest

end

/-- No heading lies below another one. -/
def HeadingsApart (tree : Node) : Prop := tree.headingNesting ≤ 1

instance (tree : Node) : Decidable tree.HeadingsApart :=
  inferInstanceAs (Decidable (tree.headingNesting ≤ 1))

/-! ### One node at a time -/

theorem headingNesting_eq (node : Node) :
    node.headingNesting =
      (if node.headingLevel?.isSome then 1 else 0) + headingNestingList node.children := by
  cases node with
  | element _ _ _ => rfl
  | text _ | root _ | foreign _ _ => exact (Nat.zero_add _).symm

theorem outermostHeadings_of_heading {node : Node} (h : node.headingLevel?.isSome = true) :
    node.outermostHeadings = [node] := by
  cases node with
  | element tag attrs children => exact if_pos h
  | text _ | root _ | foreign _ _ => exact absurd h Bool.false_ne_true

theorem outermostHeadings_of_not_heading {node : Node} (h : ¬node.headingLevel?.isSome = true) :
    node.outermostHeadings = outermostHeadingsList node.children := by
  cases node with
  | element tag attrs children => exact if_neg h
  | text _ | root _ | foreign _ _ => rfl

@[simp] theorem headingLevel?_withChildren (node : Node) (children : List Node) :
    (node.withChildren children).headingLevel? = node.headingLevel? := by
  cases node <;> rfl

theorem children_withChildren {node : Node} (h : node.hasChildList = true) (children : List Node) :
    (node.withChildren children).children = children := by
  cases node with
  | text _ => exact absurd h Bool.false_ne_true
  | root _ | element _ _ _ | foreign _ _ => rfl

theorem headingsList_eq_flatMap (nodes : List Node) :
    headingsList nodes = nodes.flatMap headings := by
  induction nodes with
  | nil => rfl
  | cons node rest ih => rw [headingsList, ih, List.flatMap_cons]

theorem outermostHeadingsList_eq_flatMap (nodes : List Node) :
    outermostHeadingsList nodes = nodes.flatMap outermostHeadings := by
  induction nodes with
  | nil => rfl
  | cons node rest ih => rw [outermostHeadingsList, ih, List.flatMap_cons]

@[simp] theorem headingsList_append (as bs : List Node) :
    headingsList (as ++ bs) = headingsList as ++ headingsList bs := by
  simp only [headingsList_eq_flatMap, List.flatMap_append]

@[simp] theorem headingNestingList_append (as bs : List Node) :
    headingNestingList (as ++ bs) = max (headingNestingList as) (headingNestingList bs) := by
  induction as with
  | nil => exact (Nat.zero_max _).symm
  | cons node rest ih =>
      rw [List.cons_append, headingNestingList, ih, headingNestingList, Nat.max_assoc]

/-! ### Where headings do not nest -/

mutual

theorem headings_eq_nil : ∀ {node : Node}, node.headingNesting = 0 → node.headings = []
  | .text _, _ => rfl
  | .root _, h | .foreign _ _, h => headingsList_eq_nil h
  | .element tag _ children, h => by
      rw [headingNesting, Nat.add_eq_zero_iff] at h
      rw [headings, if_neg (fun htag => by simp [htag] at h), headingsList_eq_nil h.2]

theorem headingsList_eq_nil : ∀ {nodes : List Node},
    headingNestingList nodes = 0 → headingsList nodes = []
  | [], _ => rfl
  | node :: rest, h => by
      rw [headingNestingList, Nat.max_eq_zero_iff] at h
      rw [headingsList, headings_eq_nil h.1, headingsList_eq_nil h.2, List.append_nil]

end

mutual

/-- Every heading is an outermost one if headings do not nest. -/
theorem outermostHeadings_eq_headings : ∀ {node : Node}, node.headingNesting ≤ 1 →
    node.outermostHeadings = node.headings
  | .text _, _ => rfl
  | .root _, h | .foreign _ _, h => outermostHeadingsList_eq_headingsList h
  | .element tag attrs children, h => by
      rw [headingNesting] at h
      rw [outermostHeadings, headings]
      by_cases htag : (headingLevel tag).isSome = true
      · rw [if_pos htag] at h
        -- A heading has used up the one level, so there is none below it.
        have hbelow : headingNestingList children = 0 := by omega
        rw [if_pos htag, if_pos htag, headingsList_eq_nil hbelow]
      · rw [if_neg htag, if_neg htag]
        exact outermostHeadingsList_eq_headingsList (by omega)

theorem outermostHeadingsList_eq_headingsList : ∀ {nodes : List Node},
    headingNestingList nodes ≤ 1 → outermostHeadingsList nodes = headingsList nodes
  | [], _ => rfl
  | node :: rest, h => by
      rw [headingNestingList, Nat.max_le] at h
      rw [outermostHeadingsList, headingsList, outermostHeadings_eq_headings h.1,
        outermostHeadingsList_eq_headingsList h.2]

end

/-! ### Headings below closed nodes -/

mutual

theorem headingsOutside_sublist (closed : Node → Bool) :
    ∀ node : Node, (node.headingsOutside closed).Sublist node.headings
  | .text _ => .refl []
  | .root children | .foreign _ children => by
      rw [headingsOutside, headings]
      split
      · exact List.nil_sublist _
      · exact headingsOutsideList_sublist closed children
  | .element tag attrs children => by
      have hbelow : List.Sublist (if closed (.element tag attrs children) then []
          else headingsOutsideList closed children) (headingsList children) := by
        split
        · exact List.nil_sublist _
        · exact headingsOutsideList_sublist closed children
      rw [headingsOutside, headings]
      split
      · exact hbelow.cons_cons _
      · exact hbelow

theorem headingsOutsideList_sublist (closed : Node → Bool) :
    ∀ nodes : List Node, (headingsOutsideList closed nodes).Sublist (headingsList nodes)
  | [] => .refl []
  | node :: rest =>
      (headingsOutside_sublist closed node).append (headingsOutsideList_sublist closed rest)

end

/-! ### Changes that leave the headings where they are -/

@[simp] theorem headingLevel?_setAttr (name : String) (value : AttrValue) (node : Node) :
    (node.setAttr name value).headingLevel? = node.headingLevel? := by
  cases node <;> rfl

@[simp] theorem children_setAttr (name : String) (value : AttrValue) (node : Node) :
    (node.setAttr name value).children = node.children := by
  cases node <;> rfl

@[simp] theorem headingNesting_setAttr (name : String) (value : AttrValue) (node : Node) :
    (node.setAttr name value).headingNesting = node.headingNesting := by
  rw [headingNesting_eq, headingLevel?_setAttr, children_setAttr, ← headingNesting_eq]

/-- Children that nest less make a node that nests less. -/
theorem headingNesting_withChildren_le {node : Node} {children : List Node}
    (h : headingNestingList children ≤ headingNestingList node.children) :
    (node.withChildren children).headingNesting ≤ node.headingNesting := by
  cases node with
  | text _ => exact Nat.le_refl _
  | root _ | foreign _ _ => exact h
  | element tag attrs _ => exact Nat.add_le_add_left h _

end Node

end PostPress
