import PostPress.Pipeline
import PostPress.Proofs.Heading.Ids
import PostPress.Proofs.Markdown.Heading

/-!
# PostPress.Proofs.Pipeline.Heading

**Headings on their way to the sanitizer.** No stage puts a heading below another
one: foreign nodes become elements that are no headings, players have none, and
the ids change attributes only. So a source without headings inside headings
reaches the sanitizer without them, and the outline, which does not look into
headings, misses none of its headings.
-/

namespace PostPress

universe u

variable {σ : Type u}

namespace Node

/-! ### Walks -/

theorem headingNestingList_le_of_forall₂ {nodes nodes' : List Node}
    (h : List.Forall₂ (fun node node' => node'.headingNesting ≤ node.headingNesting) nodes nodes') :
    headingNestingList nodes' ≤ headingNestingList nodes := by
  induction h with
  | nil => exact Nat.le_refl 0
  | cons hnode _ ih => exact max_le_max hnode ih

/-- A walk whose visits do not nest headings deeper does not do so. -/
theorem headingNesting_visitMut_le {test : Node → Bool} {visitor : Visitor σ}
    (hvisit : ∀ state slot,
      (visitor state slot).node.headingNesting ≤ slot.node.headingNesting)
    (state : σ) (tree : Node) :
    (tree.visitMut test visitor state).2.headingNesting ≤ tree.headingNesting := by
  refine visitMut_rel (R := fun node node' => node'.headingNesting ≤ node.headingNesting)
    (fun _ => Nat.le_refl _) ?_ ?_ hvisit state tree
  · intro a b c hab hbc
    exact Nat.le_trans hbc hab
  · intro node children hchildren
    exact headingNesting_withChildren_le (headingNestingList_le_of_forall₂ hchildren)

end Node

/-! ### The stages -/

theorem headingLevel_canonicalTag {name tag : String} (h : canonicalTag name = some tag) :
    headingLevel tag = none := by
  unfold canonicalTag at h
  split at h
  · obtain rfl := Option.some.inj h
    rfl
  · obtain rfl := Option.some.inj h
    rfl
  · obtain rfl := Option.some.inj h
    rfl
  · exact absurd h nofun

theorem headingNesting_normalizeVisitor_le (state : Unit) (slot : Slot) :
    (normalizeVisitor state slot).node.headingNesting ≤ slot.node.headingNesting := by
  obtain ⟨node, position⟩ := slot
  cases node with
  | text _ | root _ | element _ _ _ => exact Nat.le_refl _
  | foreign name children =>
      unfold normalizeVisitor
      cases htag : canonicalTag name with
      | none => exact Nat.le_of_eq (by simp [htag])
      | some tag =>
          have hlevel := headingLevel_canonicalTag htag
          cases position <;>
            simp [htag, Slot.replace, Node.headingNesting, Node.plain, hlevel,
              Node.headingNestingList]

theorem headingNesting_normalize_le (tree : Node) :
    (normalize tree).headingNesting ≤ tree.headingNesting :=
  Node.headingNesting_visitMut_le headingNesting_normalizeVisitor_le () tree

theorem headingNesting_makeSafe (node : Node) :
    (Embed.makeSafe node).headingNesting = node.headingNesting := by
  rw [Embed.makeSafe, Node.headingNesting_setAttr, Node.headingNesting_setAttr]

theorem headingNesting_toNode (embed : Embed) : embed.toNode.headingNesting = 0 := by
  simp [Embed.toNode, Node.headingNesting, Node.headingNestingList, headingLevel]

theorem headingNesting_placeVisitor_le (count : Nat) (slot : Slot) :
    (Embed.placeVisitor count slot).node.headingNesting ≤ slot.node.headingNesting := by
  have hkept : ∀ leaves : Bool,
      (if leaves then Embed.makeSafe slot.node else slot.node).headingNesting ≤
        slot.node.headingNesting := by
    intro leaves
    cases leaves with
    | true => exact Nat.le_of_eq (headingNesting_makeSafe slot.node)
    | false => exact Nat.le_refl _
  simp only [Embed.placeVisitor]
  cases Embed.replacing? slot with
  | none => exact hkept _
  | some embed =>
      -- At the top of a tree the player is refused, and the node stays.
      obtain ⟨node, _ | position⟩ := slot
      · exact hkept _
      · exact (headingNesting_toNode embed).trans_le (Nat.zero_le _)

theorem headingNesting_placeEmbeds_le (tree : Node) :
    (placeEmbeds tree).2.headingNesting ≤ tree.headingNesting :=
  Node.headingNesting_visitMut_le headingNesting_placeVisitor_le 0 tree

theorem headingNesting_headingVisitor_le (state : HeadingState) (slot : Slot) :
    (HeadingState.visitor state slot).node.headingNesting ≤ slot.node.headingNesting := by
  unfold HeadingState.visitor
  split
  · exact Nat.le_refl _
  · simp only []
    split
    · exact Nat.le_of_eq (Node.headingNesting_setAttr ..)
    · exact Nat.le_refl _

theorem headingNesting_extractToc_le (tree : Node) :
    (extractToc tree).2.headingNesting ≤ tree.headingNesting :=
  Node.headingNesting_visitMut_le headingNesting_headingVisitor_le .empty tree

namespace Pipeline

/-! ### The outline -/

/-- The tree of which the headings are read. -/
def placed (p : Pipeline) (tree : Node) : Node :=
  if p.embeds then (placeEmbeds (normalize tree)).2 else normalize tree

theorem prepare_eq (p : Pipeline) (tree : Node) : p.prepare tree = extractToc (p.placed tree) := rfl

theorem headingNesting_placed_le (p : Pipeline) (tree : Node) :
    (p.placed tree).headingNesting ≤ tree.headingNesting := by
  have hnormalize := headingNesting_normalize_le tree
  unfold placed
  split
  · exact Nat.le_trans (headingNesting_placeEmbeds_le _) hnormalize
  · exact hnormalize

section Apart

variable (p : Pipeline) {tree : Node} (h : tree.HeadingsApart)

include h

/-- What reaches the sanitizer has no headings inside headings. -/
theorem headingsApart_prepare : (p.prepare tree).2.HeadingsApart := by
  have hplaced := Nat.le_trans (p.headingNesting_placed_le tree) h
  exact Nat.le_trans (headingNesting_extractToc_le (p.placed tree)) hplaced

/-- The headings that reach the sanitizer are those of the outline. -/
theorem headings_prepare :
    (p.prepare tree).2.headings.map (fun heading =>
        (heading.attr? "id", heading.headingLevel?, Text.trim heading.textContent)) =
      (TocEntry.preorderList (p.prepare tree).1).map
        (fun entry => (some entry.id, some entry.depth, entry.text)) := by
  rw [← Node.outermostHeadings_eq_headings (p.headingsApart_prepare h), prepare_eq]
  exact outermostHeadings_extractToc (p.placed tree)

theorem attr?_id_headings_prepare :
    (p.prepare tree).2.headings.map (·.attr? "id") = (flattenIds (p.prepare tree).1).map some := by
  rw [← Node.outermostHeadings_eq_headings (p.headingsApart_prepare h), prepare_eq]
  exact attr?_id_extractToc (p.placed tree)

end Apart

/-- **Every heading is in the outline.** A source without headings inside headings
becomes, whatever the configuration, a tree without them; its headings have
different ids that are not empty, and the outline tells in document order the id,
the level and the text of each. -/
theorem process_toTree_headings (config : Config) {construct : Markdown.Construct}
    (h : construct.HeadingsApart) :
    ∃ rendered, (withSanitizer config .ok).process construct.toTree = .ok rendered ∧
      rendered.tree.HeadingsApart ∧
      rendered.tree.headings.map (fun heading =>
          (heading.attr? "id", heading.headingLevel?, Text.trim heading.textContent)) =
        (TocEntry.preorderList rendered.toc).map
          (fun entry => (some entry.id, some entry.depth, entry.text)) ∧
      (∀ heading ∈ rendered.tree.headings, ∃ id, heading.attr? "id" = some id ∧ id ≠ "") ∧
      (rendered.tree.headings.map (·.attr? "id")).Nodup := by
  have htree : construct.toTree.HeadingsApart := Nat.le_trans construct.headingNesting_toTree_le h
  let p := withSanitizer config .ok
  have hids := p.attr?_id_headings_prepare htree
  refine ⟨⟨(p.prepare construct.toTree).2, (p.prepare construct.toTree).1⟩, rfl,
    p.headingsApart_prepare htree, p.headings_prepare htree, ?_, ?_⟩
  · intro heading hheading
    obtain ⟨id, hid, hattr⟩ := List.mem_map.1 (hids ▸ List.mem_map_of_mem hheading)
    exact ⟨id, hattr.symm, ne_empty_of_mem_extractToc _ id hid⟩
  · rw [hids]
    exact (nodup_extractToc _).map (Option.some_injective _)

/-- Headings in a quotation, an item, a component and a footnote, two of one text. -/
theorem process_toTree_headings_nested :
    let heading (text : String) : Markdown.Construct := .heading 2 [.text text]
    let construct : Markdown.Construct := .document
      [.quote [heading "A"], .list none false [.item none false [heading "B"]],
        .component (some "Box") [heading "A"], .paragraph [.footnoteReference "n" none],
        .footnoteDefinition "n" [.heading 9 [.text "N"]]]
    construct.HeadingsApart ∧
      ∃ rendered, (withSanitizer .default .ok).process construct.toTree = .ok rendered ∧
        (rendered.tree.headings.map (·.attr? "id")).Nodup ∧
        rendered.tree.headings.map (fun heading => (heading.attr? "id", heading.headingLevel?)) =
          [(some "a", some 2), (some "b", some 2), (some "a-1", some 2), (some "n", some 6)] := by
  intro heading construct
  have h : construct.HeadingsApart := by decide +kernel
  obtain ⟨rendered, hprocess, -, -, -, hnodup⟩ := process_toTree_headings .default h
  refine ⟨h, rendered, hprocess, hnodup, ?_⟩
  obtain rfl := Except.ok.inj hprocess
  decide +kernel

end Pipeline

end PostPress
