import PostPress.Proofs.Embed.Replacement
import PostPress.Proofs.Heading.Ids
import PostPress.Proofs.Normalize

/-!
# PostPress.Proofs.Pipeline.Order

**Formatting can become elements first or last.** The visits of the later stages look at
tags, attributes and texts, and at the kind and the size of the parent. Formatting changes
none of what they ask for: its elements are neither anchors nor paragraphs nor headings, they
have no attributes, and the texts below them stay.

* `Parent.formatted`, `Slot.formatted` — what a visitor sees of the formatted tree;
* `Visitor.IgnoresFormatting` — a visitor that does the same there.

The walk of such a visitor does the same in the formatted tree, and leaves the formatted
result (`walk_slot_formatted`). Placing players and collecting the outline are walks of this
kind (`ignoresFormatting_placeVisitor`, `ignoresFormatting_headingVisitor`).
-/

namespace PostPress

universe u

variable {σ : Type u}

/-! ### What visitors see -/

/-- The parent in the formatted tree: an element if it stands for formatting. -/
def Parent.formatted : Parent → Parent
  | .root size => .root size
  | .element tag size => .element tag size
  | .foreign name size =>
      match canonicalTag name with
      | some tag => .element tag size
      | none => .foreign name size

/-- The same slot in the formatted tree. -/
def Slot.formatted (slot : Slot) : Slot :=
  ⟨slot.node.formatted, slot.position.map fun (index, parent) => (index, parent.formatted)⟩

/-- A visitor that does the same in the formatted tree. What it puts there is formatted. -/
def Visitor.IgnoresFormatting (visitor : Visitor σ) (test : Node → Bool) : Prop :=
  ∀ state slot, visitor.tested test state slot.formatted =
    ⟨(visitor.tested test state slot).state, (visitor.tested test state slot).node.formatted,
      (visitor.tested test state slot).next⟩

theorem mem_of_canonicalTag {name tag : String} (h : canonicalTag name = some tag) :
    tag ∈ ["u", "del"] := by
  unfold canonicalTag at h
  split at h
  · exact Option.some.inj h ▸ by decide
  · exact Option.some.inj h ▸ by decide
  · exact Option.some.inj h ▸ by decide
  · exact absurd h nofun

theorem Slot.parent?_formatted (slot : Slot) :
    slot.formatted.parent? = slot.parent?.map Parent.formatted := by
  obtain ⟨node, position⟩ := slot
  cases position <;> rfl

namespace Node

/-- Formatting becomes an element that is an underline or a deletion. -/
theorem IsFormatting.formatted {node : Node} (h : node.IsFormatting) :
    ∃ name children, ∃ tag ∈ ["u", "del"], node = .foreign name children ∧
      canonicalTag name = some tag ∧ node.formatted = .plain tag (children.map Node.formatted) := by
  obtain ⟨name, hmem, children, rfl⟩ := h
  obtain ⟨tag, htag, hinline⟩ := ofInline_of_mem hmem (children.map Node.formatted)
  refine ⟨name, children, tag, mem_of_canonicalTag htag, rfl, htag, ?_⟩
  rw [Node.formatted, formattedList_eq_map, hinline]

/-- What is the same for a node with other children, and for formatting and its element, is
the same for the formatted node. -/
theorem formatted_eq {α : Type} {f : Node → α}
    (hchildren : ∀ node children, f (node.withChildren children) = f node)
    (htag : ∀ name children below, ∀ tag ∈ ["u", "del"],
      f (.plain tag below) = f (.foreign name children))
    (node : Node) : f node.formatted = f node := by
  by_cases h : node.IsFormatting
  · obtain ⟨name, children, tag, hmem, rfl, -, hformatted⟩ := h.formatted
    rw [hformatted, htag name children _ tag hmem]
  · rw [formatted_of_not_isFormatting h, hchildren]

theorem formatted_withChildren (node : Node) (children : List Node) :
    (node.withChildren children).formatted =
      node.formatted.withChildren (children.map formatted) := by
  cases node with
  | text _ => rfl
  | root _ => exact congrArg root (formattedList_eq_map children)
  | element tag attrs _ => exact congrArg (element tag attrs) (formattedList_eq_map children)
  | foreign name below =>
      rw [withChildren, formatted, formatted, formattedList_eq_map]
      unfold ofInline
      split <;> rfl

theorem ofNode?_formatted (node : Node) :
    Parent.ofNode? node.formatted = (Parent.ofNode? node).map Parent.formatted := by
  by_cases h : node.IsFormatting
  · obtain ⟨name, children, tag, -, rfl, htag, hformatted⟩ := h.formatted
    simp [hformatted, plain, Parent.ofNode?, Parent.formatted, htag]
  · rw [formatted_of_not_isFormatting h, Parent.ofNode?_withChildren (List.length_map _)]
    cases node with
    | text _ | root _ | element _ _ _ => rfl
    | foreign name children =>
        rw [isFormatting_foreign_iff] at h
        simp [Parent.ofNode?, Parent.formatted, (ofInline_of_notMem h []).1]

theorem textContentList_map {f : Node → Node} {nodes : List Node}
    (h : ∀ node ∈ nodes, (f node).textContent = node.textContent) :
    textContentList (nodes.map f) = textContentList nodes := by
  induction nodes with
  | nil => rfl
  | cons node rest ih =>
      rw [List.map_cons, textContentList, textContentList, h node List.mem_cons_self,
        ih fun other hother => h other (List.mem_cons_of_mem _ hother)]

theorem textContent_of_hasChildList {node : Node} (h : node.hasChildList = true) :
    node.textContent = textContentList node.children := by
  cases node with
  | text _ => exact absurd h Bool.false_ne_true
  | root _ | element _ _ _ | foreign _ _ => rfl

theorem hasChildList_formatted (node : Node) : node.formatted.hasChildList = node.hasChildList :=
  formatted_eq (fun node _ => by cases node <;> rfl) (fun _ _ _ _ _ => rfl) node

theorem textContent_formatted (node : Node) : node.formatted.textContent = node.textContent := by
  induction node using induction_children with
  | step node ih =>
      by_cases h : node.hasChildList = true
      · rw [textContent_of_hasChildList ((hasChildList_formatted node).trans h),
          children_formatted, textContentList_map ih, textContent_of_hasChildList h]
      · cases node with
        | text _ => rfl
        | root _ | element _ _ _ | foreign _ _ => exact absurd rfl h

end Node

/-! ### Walks -/

section Walks

variable {test : Node → Bool} {visitor : Visitor σ}

/-- If a walk of each child does the same in the formatted tree, so does a walk of the
children. -/
theorem walkList_formatted {parent parent' : Parent} {children : List Node}
    (h : ∀ child ∈ children, ∀ state index,
      walk test visitor state ⟨child.formatted, some (index, parent')⟩ =
        ((walk test visitor state ⟨child, some (index, parent)⟩).1,
          (walk test visitor state ⟨child, some (index, parent)⟩).2.formatted))
    (index : Nat) (state : σ) :
    walkList test visitor parent' index state (children.map Node.formatted) =
      ((walkList test visitor parent index state children).1,
        (walkList test visitor parent index state children).2.map Node.formatted) := by
  induction children generalizing index state with
  | nil => rfl
  | cons child rest ih =>
      have hrest := ih fun other hother => h other (List.mem_cons_of_mem _ hother)
      simp only [List.map_cons, walkList, h child List.mem_cons_self, hrest]

/-- The walk of a visitor that ignores formatting does the same in the formatted tree, and
leaves the formatted result there. -/
theorem walk_slot_formatted (hshrinks : visitor.Shrinks test)
    (hignores : visitor.IgnoresFormatting test) (state : σ) (slot : Slot) :
    walk test visitor state slot.formatted =
      ((walk test visitor state slot).1, (walk test visitor state slot).2.formatted) := by
  -- The walk goes on in what the visit leaves, so the induction is on the height of that.
  obtain ⟨levels, hlevels⟩ : ∃ levels, slot.node.height ≤ levels := ⟨_, Nat.le_refl _⟩
  induction levels generalizing slot state with
  | zero => exact absurd slot.node.height_pos (Nat.not_lt.2 hlevels)
  | succ levels ih =>
      have hheight : (visitor.tested test state slot).next = .descend →
          (visitor.tested test state slot).node.height ≤ slot.node.height := hshrinks.tested
      simp only [walk_eq hshrinks, walkStep, hignores state slot]
      generalize visitor.tested test state slot = visited at *
      obtain ⟨state, node, next⟩ := visited
      cases next with
      | skip => rfl
      | descend =>
          simp only [Visited.parent?, Node.ofNode?_formatted, Node.children_formatted]
          cases hnode : Parent.ofNode? node with
          | none => rfl
          | some parent =>
              have hlower : ∀ child ∈ node.children, child.height ≤ levels := fun child hchild => by
                have hlt := Node.height_lt_of_mem hchild
                have hnode := hheight rfl
                simp only at hnode
                omega
              have hbelow := walkList_formatted (fun child hchild state index =>
                ih state ⟨child, some (index, parent)⟩ (hlower child hchild)) 0 state
              simp only [Option.map_some, hbelow, Node.formatted_withChildren]

end Walks

/-! ### Players -/

namespace Embed

theorem ofAnchor?_formatted (node : Node) : ofAnchor? node.formatted = ofAnchor? node := by
  refine Node.formatted_eq Node.ofAnchor?_withChildren (fun name children below tag htag => ?_) node
  rcases List.mem_pair.1 htag with rfl | rfl
  · rfl
  · rfl

theorem opens_formatted (node : Node) : opens node.formatted = opens node :=
  Node.formatted_eq (fun node _ => by cases node <;> rfl)
    (fun _ _ _ _ _ => by simp [opens, Node.plain, Node.attr?, Node.attributes]) node

theorem secured_formatted (node : Node) : secured node.formatted = (secured node).formatted := by
  unfold secured
  rw [opens_formatted]
  split
  · next hopens =>
      obtain ⟨attrs, children, rfl⟩ := exists_of_opens hopens
      rfl
  · rfl

theorem linksTo_formatted {node : Node} {embed : Embed} :
    LinksTo node.formatted embed ↔ LinksTo node embed := by
  rw [← ofAnchor?_eq_some_iff, ofAnchor?_formatted, ofAnchor?_eq_some_iff]

theorem inParagraph_formatted (parent : Parent) :
    InParagraph (some parent.formatted) ↔ InParagraph (some parent) := by
  cases parent with
  | root _ | element _ _ => rfl
  | foreign name size =>
      rw [Parent.formatted]
      cases htag : canonicalTag name with
      | none => rfl
      | some tag =>
          -- Neither an underline nor a deletion is a paragraph.
          refine iff_of_false ?_ ?_
          · rintro ⟨other, hsame, -⟩
            obtain ⟨rfl, -⟩ := Parent.element.inj (Option.some.inj hsame)
            exact absurd (mem_of_canonicalTag htag) (by decide)
          · rintro ⟨other, hsame, -⟩
            exact absurd (Option.some.inj hsame) nofun

/-- A paragraph in the formatted tree was one before. -/
theorem exists_of_formatted_eq_paragraph {node : Node} {attrs : Attributes} {children : List Node}
    (h : node.formatted = .element "p" attrs children) :
    ∃ below, node = .element "p" attrs below ∧ children = below.map Node.formatted := by
  by_cases hformatting : node.IsFormatting
  · obtain ⟨name, below, tag, hmem, rfl, -, hformatted⟩ := hformatting.formatted
    rw [hformatted] at h
    obtain ⟨rfl, -⟩ := Node.element.inj h
    exact absurd hmem (by decide)
  · rw [Node.formatted_of_not_isFormatting hformatting] at h
    cases node with
    | text _ | root _ | foreign _ _ => exact absurd h nofun
    | element tag _ below =>
        obtain ⟨rfl, rfl, rfl⟩ := Node.element.inj h
        exact ⟨below, rfl, rfl⟩

theorem givesWay_formatted {embed : Embed} {parent : Parent} {node : Node} :
    GivesWay embed (some parent.formatted) node.formatted ↔ GivesWay embed (some parent) node := by
  constructor
  · generalize hafter : node.formatted = after
    rintro (⟨hlink⟩ | ⟨hlink, hapart⟩)
    · obtain ⟨below, rfl, hbelow⟩ := exists_of_formatted_eq_paragraph hafter
      obtain ⟨only, rfl, rfl⟩ := List.map_eq_singleton_iff.1 hbelow.symm
      exact .paragraph (linksTo_formatted.1 hlink)
    · subst hafter
      exact .link (linksTo_formatted.1 hlink) fun h => hapart ((inParagraph_formatted parent).2 h)
  · rintro (⟨hlink⟩ | ⟨hlink, hapart⟩)
    · exact .paragraph (linksTo_formatted.2 hlink)
    · exact .link (linksTo_formatted.2 hlink) fun h => hapart ((inParagraph_formatted parent).1 h)

/-- The same nodes give way to the same players. -/
theorem player?_formatted (parent : Option Parent) (node : Node) :
    player? (parent.map Parent.formatted) node.formatted = player? parent node := by
  cases parent with
  | none => rfl
  | some parent =>
      refine Option.ext fun embed => ?_
      rw [Option.map_some, player?_eq_some_iff, givesWay_formatted, player?_eq_some_iff]

theorem ignoresFormatting_placeVisitor : placeVisitor.IgnoresFormatting isVisited := by
  intro count slot
  rw [tested_placeVisitor, tested_placeVisitor, Slot.parent?_formatted]
  simp only [Slot.formatted, player?_formatted]
  cases player? slot.parent? slot.node with
  | some embed => rfl
  | none => rw [secured_formatted]

end Embed

/-- Players are placed alike in the formatted tree. -/
theorem placeEmbeds_formatted (tree : Node) :
    placeEmbeds tree.formatted = ((placeEmbeds tree).1, (placeEmbeds tree).2.formatted) :=
  walk_slot_formatted Embed.shrinks_placeVisitor Embed.ignoresFormatting_placeVisitor 0 ⟨tree, none⟩

theorem isForeign_placeEmbeds (tree : Node) : (placeEmbeds tree).2.isForeign = tree.isForeign := by
  rw [placeEmbeds_eq, Node.withPlayers_of_none rfl]
  cases tree with
  | text _ | root _ | foreign _ _ => rfl
  | element tag attrs children =>
      rw [Embed.secured]
      split <;> rfl

/-! ### Headings -/

namespace HeadingState

theorem isHeading_formatted (node : Node) : node.formatted.isHeading = node.isHeading := by
  refine Node.formatted_eq (fun node _ => by cases node <;> rfl)
    (fun name children below tag htag => ?_) node
  rcases List.mem_pair.1 htag with rfl | rfl
  · rfl
  · rfl

theorem exists_of_isHeading {node : Node} (h : node.isHeading = true) :
    ∃ tag attrs children, node = .element tag attrs children := by
  cases node with
  | element tag attrs children => exact ⟨tag, attrs, children, rfl⟩
  | text _ | root _ | foreign _ _ => exact absurd h Bool.false_ne_true

/-- A heading gets the same id in the formatted tree: its attributes and its text are the
same. -/
theorem assign_formatted (state : HeadingState) {heading : Node} (h : heading.isHeading = true) :
    state.assign heading.formatted = state.assign heading := by
  obtain ⟨tag, attrs, children, rfl⟩ := exists_of_isHeading h
  unfold assign
  rw [Node.textContent_formatted]
  rfl

theorem visitor_formatted (state : HeadingState) {heading : Node} (h : heading.isHeading = true)
    (position position' : Option (Nat × Parent)) :
    visitor state ⟨heading.formatted, position'⟩ =
      ⟨(visitor state ⟨heading, position⟩).state, (visitor state ⟨heading, position⟩).node.formatted,
        (visitor state ⟨heading, position⟩).next⟩ := by
  have hassign := state.assign_formatted h
  have htext := heading.textContent_formatted
  obtain ⟨tag, attrs, children, rfl⟩ := exists_of_isHeading h
  obtain ⟨depth, hdepth⟩ := Option.isSome_iff_exists.1 h
  have hdepth' : (Node.element tag attrs children).formatted.headingLevel? = some depth := hdepth
  simp only [visitor, hdepth, hdepth', hassign, htext]
  split <;> rfl

theorem ignoresFormatting_visitor : visitor.IgnoresFormatting Node.isHeading := by
  rintro state ⟨node, position⟩
  unfold Visitor.tested
  simp only [Slot.formatted, isHeading_formatted]
  split
  · next h => exact visitor_formatted state h position _
  · rfl

end HeadingState

/-- The formatted tree has the same outline, and its headings get the same ids. -/
theorem extractToc_formatted (tree : Node) :
    extractToc tree.formatted = ((extractToc tree).1, (extractToc tree).2.formatted) := by
  have hwalk := walk_slot_formatted shrinks_headingVisitor
    HeadingState.ignoresFormatting_visitor .empty ⟨tree, none⟩
  exact congrArg (fun result => (result.1.outline.finish, result.2)) hwalk

theorem isForeign_extractToc (tree : Node) : (extractToc tree).2.isForeign = tree.isForeign := by
  have hmask : ∀ node : Node, node.maskHeadingIds.isForeign = node.isForeign := by
    intro node
    cases node with
    | text _ | root _ | foreign _ _ => rfl
    | element tag attrs children =>
        rw [Node.maskHeadingIds]
        split <;> rfl
  rw [← hmask, (extractToc_eq tree).2.2, hmask]

/-! ### First or last -/

theorem normalize_of_not_isForeign {tree : Node} (h : tree.isForeign = false) :
    normalize tree = tree.formatted := (normalize_eq_formatted h).1

/-- **Order.** For every tree whose top is not foreign, it makes no difference whether
formatting becomes elements before or after the two later stages: the same tree is left and as
many players are placed, and the outline is the same and so is the tree with its ids. -/
theorem normalize_comm {tree : Node} (h : tree.isForeign = false) :
    placeEmbeds (normalize tree) = ((placeEmbeds tree).1, normalize (placeEmbeds tree).2) ∧
      extractToc (normalize tree) = ((extractToc tree).1, normalize (extractToc tree).2) := by
  have hplaced := (isForeign_placeEmbeds tree).trans h
  have hlabelled := (isForeign_extractToc tree).trans h
  rw [normalize_of_not_isForeign h, normalize_of_not_isForeign hplaced,
    normalize_of_not_isForeign hlabelled]
  exact ⟨placeEmbeds_formatted tree, extractToc_formatted tree⟩

/-- A link inside a deletion, beside one in a paragraph of its own with a deletion in it, and a
heading with an underline. -/
theorem normalize_comm_nested :
    let link : Node := .element "a"
      ((∅ : Attributes).insert "href" (.text "https://youtu.be/dQw4w9WgXcQ")) [.foreign "s" []]
    let tree : Node := .root [.foreign "del" [link], .plain "p" [link],
      .plain "h2" [.foreign "u" [.text "Setup"]]]
    let player := (Embed.mk .youTube "dQw4w9WgXcQ").toNode
    tree.isForeign = false ∧
      placeEmbeds (normalize tree) = ((placeEmbeds tree).1, normalize (placeEmbeds tree).2) ∧
      extractToc (normalize tree) = ((extractToc tree).1, normalize (extractToc tree).2) ∧
      placeEmbeds (normalize tree) =
        (2, .root [.plain "del" [player], player, .plain "h2" [.plain "u" [.text "Setup"]]]) := by
  intro link tree player
  have htop : tree.isForeign = false := rfl
  obtain ⟨hplaced, hlabelled⟩ := normalize_comm htop
  refine ⟨htop, hplaced, hlabelled, ?_⟩
  rw [hplaced]
  decide +kernel

end PostPress
