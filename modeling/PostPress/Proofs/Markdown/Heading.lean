import Mathlib.Tactic.IntervalCases
import PostPress.Markdown.Tree
import PostPress.Proofs.Tree.Heading

/-!
# PostPress.Proofs.Markdown.Heading

**Headings of a source.** The headings of the tree of a document nest no deeper
than those of its constructs (`headingNesting_toTree_le`). So a source without
headings inside headings becomes a tree without them, its footnotes included:
these are constructs of the document too, wherever the tree has them.
-/

namespace PostPress.Markdown

open Node (headingNestingList headingNestingList_append)

namespace Construct

/-! ### Headings of constructs -/

mutual

/-- How many headings lie on one way down from a construct, at most. -/
def headingNesting : Construct → Nat
  | .heading _ children => 1 + headingNestingAll children
  | .document children | .paragraph children | .quote children | .list _ _ children
  | .item _ _ children | .table _ children | .row children | .cell children
  | .footnoteDefinition _ children | .emphasis children | .strong children
  | .strikethrough children | .link _ _ children | .linkReference _ children
  | .component _ children => headingNestingAll children
  | .thematicBreak | .codeBlock .. | .definition .. | .metadata _ | .text _ | .codeSpan _
  | .lineBreak | .image .. | .imageReference .. | .footnoteReference .. | .expression _ => 0

/-- How many headings lie on one way down in the constructs of a list, at most. -/
def headingNestingAll : List Construct → Nat
  | [] => 0
  | construct :: rest => max (headingNesting construct) (headingNestingAll rest)

end

/-- No heading lies below another one. -/
def HeadingsApart (construct : Construct) : Prop := construct.headingNesting ≤ 1

instance (construct : Construct) : Decidable construct.HeadingsApart :=
  inferInstanceAs (Decidable (construct.headingNesting ≤ 1))

/-! ### Nodes of single constructs -/

theorem headingLevel_headingTag (depth : Nat) :
    (headingLevel (headingTag depth)).isSome = true := by
  have hlow : 1 ≤ max 1 (min depth 6) := Nat.le_max_left ..
  have hhigh : max 1 (min depth 6) ≤ 6 := by omega
  unfold headingTag
  generalize max 1 (min depth 6) = level at hlow hhigh
  interval_cases level <;> rfl

/-- A heading is one level more, and no other tag of a source is. -/
theorem headingNestingList_headingTag (depth : Nat) (nodes : List Node) :
    headingNestingList [.plain (headingTag depth) nodes] = 1 + headingNestingList nodes := by
  simp [headingNestingList, Node.headingNesting, Node.plain, headingLevel_headingTag]

theorem headingNesting_plain {tag : String} (h : headingLevel tag = none) (nodes : List Node) :
    (Node.plain tag nodes).headingNesting = headingNestingList nodes := by
  simp [Node.headingNesting, Node.plain, h]

theorem headingNestingList_element {tag : String} (h : headingLevel tag = none)
    (attrs : Attributes) (nodes : List Node) :
    headingNestingList [.element tag attrs nodes] = headingNestingList nodes := by
  simp [headingNestingList, Node.headingNesting, h]

theorem headingNestingList_codeNode (language : Option String) (value : String) :
    headingNestingList [codeNode language value] = 0 := by
  simp [codeNode, headingNestingList, Node.headingNesting, Node.plain, headingLevel]

theorem headingNesting_itemNode (checked : Option Bool) (nodes : List Node) :
    (itemNode checked nodes).headingNesting = headingNestingList nodes := by
  cases checked <;>
    simp [itemNode, taskNodes, headingNestingList, Node.headingNesting, Node.plain, headingLevel]

theorem headingNestingList_listNode (start : Option Nat) (hasTasks : Bool) (items : List Node) :
    headingNestingList [listNode start hasTasks items] = headingNestingList items := by
  cases start <;> exact headingNestingList_element rfl _ items

theorem headingNesting_cellNode {tag : String} (h : headingLevel tag = none)
    (alignment : Option Alignment) (nodes : List Node) :
    (cellNode tag alignment nodes).headingNesting = headingNestingList nodes := by
  cases alignment <;> simp [cellNode, Node.headingNesting, Node.plain, h]

theorem headingNestingList_tableNode (head body : List Node) :
    headingNestingList [tableNode head body] =
      max (headingNestingList head) (headingNestingList body) := by
  cases body <;>
    simp [tableNode, headingNestingList, Node.headingNesting, Node.plain, headingLevel]

theorem headingNestingList_imageNode (target : Target) (alt : String) :
    headingNestingList [imageNode target alt] = 0 :=
  headingNestingList_element rfl _ []

theorem headingNestingList_reference (number : Nat) (first : Bool) :
    headingNestingList [Footnote.reference number first] = 0 := by
  cases first <;>
    simp [Footnote.reference, headingNestingList, Node.headingNesting, Node.plain, headingLevel]

/-! ### Conversion -/

mutual

/-- **Conversion does not nest headings.** By induction on the constructs, one
part for each of the five conversions that call each other. -/
theorem headingNestingList_convert_le (references : References) (tight : Bool) :
    ∀ (construct : Construct) (seen : List Nat),
      headingNestingList (construct.convert references tight seen).1 ≤ construct.headingNesting
  | .document children, seen => by
      rw [convert, Prod.map_fst, headingNesting]
      simpa [headingNestingList, Node.headingNesting] using
        headingNestingList_convertAll_le references false children seen
  | .paragraph children, seen => by
      have h := headingNestingList_convertAll_le references false children seen
      rw [convert, Prod.map_fst, headingNesting]
      split
      · exact h
      · rwa [Node.plain, headingNestingList_element rfl]
  | .heading depth children, seen => by
      rw [convert, Prod.map_fst, headingNesting, headingNestingList_headingTag]
      exact Nat.add_le_add_left (headingNestingList_convertAll_le references false children seen) 1
  | .quote children, seen | .emphasis children, seen | .strong children, seen
  | .strikethrough children, seen | .link _ _ children, seen => by
      rw [convert, Prod.map_fst, headingNesting]
      refine le_of_eq_of_le (headingNestingList_element rfl _ _) ?_
      exact headingNestingList_convertAll_le references false children seen
  | .list start spread children, seen => by
      rw [convert, Prod.map_fst, headingNesting, headingNestingList_listNode]
      exact headingNestingList_convertItems_le references _ children seen
  | .table columns children, seen => by
      rw [headingNesting]
      cases children with
      | nil => exact Nat.le_refl 0
      | cons first rows =>
          have hrows := fun seen => headingNestingList_convertRows_le references columns rows seen
          cases first with
          | row cells =>
              rw [convert, Prod.map_fst, headingNestingList_tableNode, Node.plain,
                headingNestingList_element rfl, headingNestingAll, headingNesting]
              exact max_le_max
                (headingNestingList_convertCells_le references rfl columns cells seen) (hrows _)
          | _ =>
              -- What is no row has no part in the table, only in the bound.
              refine Nat.le_trans ?_ (Nat.le_max_right ..)
              refine le_of_eq_of_le (headingNestingList_tableNode [] _) ?_
              exact Nat.max_le.2 ⟨Nat.zero_le _, hrows seen⟩
  | .linkReference identifier children, seen => by
      have h := headingNestingList_convertAll_le references false children seen
      rw [convert, Prod.map_fst, headingNesting]
      split
      · exact le_of_eq_of_le (headingNestingList_element rfl _ _) h
      · exact h
  | .imageReference identifier alt, seen => by
      rw [convert, headingNesting]
      split
      · exact Nat.le_of_eq (headingNestingList_imageNode _ alt)
      · exact Nat.le_refl 0
  | .footnoteReference identifier label, seen => by
      rw [convert, headingNesting]
      split
      · split <;> exact Nat.le_of_eq (headingNestingList_reference _ _)
      · exact Nat.le_refl 0
  | .component name children, seen => by
      have h := headingNestingList_convertAll_le references false children seen
      rw [convert, Prod.map_fst, headingNesting]
      cases name with
      | none => exact h
      | some name => simpa [headingNestingList, Node.headingNesting] using h
  | .thematicBreak, _ | .codeSpan _, _ | .lineBreak, _ | .text _, _ =>
      Nat.le_of_eq rfl
  | .codeBlock language value, _ => Nat.le_of_eq (headingNestingList_codeNode language value)
  | .image url title alt, _ => Nat.le_of_eq (headingNestingList_imageNode ⟨url, title⟩ alt)
  | .item .., _ | .row _, _ | .cell _, _ | .definition .., _ | .footnoteDefinition .., _
  | .metadata _, _ | .expression _, _ => Nat.zero_le _

theorem headingNestingList_convertAll_le (references : References) (tight : Bool) :
    ∀ (constructs : List Construct) (seen : List Nat),
      headingNestingList (convertAll references tight constructs seen).1 ≤
        headingNestingAll constructs
  | [], _ => Nat.le_refl 0
  | construct :: rest, seen => by
      rw [convertAll, Prod.map_fst, headingNestingList_append, headingNestingAll]
      exact max_le_max (headingNestingList_convert_le references tight construct seen)
        (headingNestingList_convertAll_le references tight rest _)

theorem headingNestingList_convertItems_le (references : References) (tight : Bool) :
    ∀ (constructs : List Construct) (seen : List Nat),
      headingNestingList (convertItems references tight constructs seen).1 ≤
        headingNestingAll constructs
  | [], _ => Nat.le_refl 0
  | construct :: rest, seen => by
      have hrest := fun seen => headingNestingList_convertItems_le references tight rest seen
      cases construct with
      | item checked _ children =>
          rw [convertItems, Prod.map_fst, headingNestingList, headingNesting_itemNode,
            headingNestingAll, headingNesting]
          exact max_le_max (headingNestingList_convertAll_le references tight children seen)
            (hrest _)
      | _ => exact Nat.le_trans (hrest seen) (Nat.le_max_right ..)

theorem headingNestingList_convertRows_le (references : References)
    (columns : List (Option Alignment)) : ∀ (constructs : List Construct) (seen : List Nat),
      headingNestingList (convertRows references columns constructs seen).1 ≤
        headingNestingAll constructs
  | [], _ => Nat.le_refl 0
  | construct :: rest, seen => by
      have hrest := fun seen => headingNestingList_convertRows_le references columns rest seen
      cases construct with
      | row cells =>
          rw [convertRows, Prod.map_fst, headingNestingList, headingNesting_plain rfl,
            headingNestingAll, headingNesting]
          exact max_le_max
            (headingNestingList_convertCells_le references rfl columns cells seen) (hrest _)
      | _ => exact Nat.le_trans (hrest seen) (Nat.le_max_right ..)

theorem headingNestingList_convertCells_le (references : References) {tag : String}
    (htag : headingLevel tag = none) : ∀ (columns : List (Option Alignment))
      (constructs : List Construct) (seen : List Nat),
      headingNestingList (convertCells references tag columns constructs seen).1 ≤
        headingNestingAll constructs
  | _, [], _ => by rw [convertCells]; exact Nat.le_refl 0
  | columns, construct :: rest, seen => by
      have hrest := fun seen =>
        headingNestingList_convertCells_le references htag columns.tail rest seen
      cases construct with
      | cell children =>
          rw [convertCells, Prod.map_fst, headingNestingList, headingNesting_cellNode htag,
            headingNestingAll, headingNesting]
          exact max_le_max (headingNestingList_convertAll_le references false children seen)
            (hrest _)
      | _ => exact Nat.le_trans (hrest seen) (Nat.le_max_right ..)

end

/-! ### Footnotes -/

mutual

/-- What a footnote says is a part of the construct that defines it. -/
theorem headingNestingAll_le_of_mem_notes : ∀ {construct : Construct} {identifier : String}
    {content : List Construct}, (identifier, content) ∈ construct.notes →
      headingNestingAll content ≤ construct.headingNesting
  | .footnoteDefinition _ children, identifier, content, h => by
      rw [headingNesting]
      rcases List.mem_cons.1 h with h | h
      · obtain ⟨-, rfl⟩ := Prod.mk.inj h
        exact Nat.le_refl _
      · exact headingNestingAll_le_of_mem_notesList h
  | .heading _ children, _, _, h =>
      Nat.le_trans (headingNestingAll_le_of_mem_notesList h) (Nat.le_add_left ..)
  | .document _, _, _, h | .paragraph _, _, _, h | .quote _, _, _, h | .list .., _, _, h
  | .item .., _, _, h | .table .., _, _, h | .row _, _, _, h | .cell _, _, _, h
  | .emphasis _, _, _, h | .strong _, _, _, h | .strikethrough _, _, _, h | .link .., _, _, h
  | .linkReference .., _, _, h | .component .., _, _, h =>
      headingNestingAll_le_of_mem_notesList h
  | .thematicBreak, _, _, h | .codeBlock .., _, _, h | .definition .., _, _, h
  | .metadata _, _, _, h | .text _, _, _, h | .codeSpan _, _, _, h | .lineBreak, _, _, h
  | .image .., _, _, h | .imageReference .., _, _, h | .footnoteReference .., _, _, h
  | .expression _, _, _, h => absurd h List.not_mem_nil

theorem headingNestingAll_le_of_mem_notesList : ∀ {constructs : List Construct}
    {identifier : String} {content : List Construct}, (identifier, content) ∈ notesList constructs →
      headingNestingAll content ≤ headingNestingAll constructs
  | [], _, _, h => absurd h List.not_mem_nil
  | construct :: rest, identifier, content, h => by
      rw [headingNestingAll]
      rcases List.mem_append.1 h with h | h
      · exact Nat.le_trans (headingNestingAll_le_of_mem_notes h) (Nat.le_max_left ..)
      · exact Nat.le_trans (headingNestingAll_le_of_mem_notesList h) (Nat.le_max_right ..)

end

theorem headingNesting_backReference (number : Nat) :
    (Footnote.backReference number).headingNesting = 0 := by
  simp [Footnote.backReference, Node.headingNesting, headingNestingList, headingLevel]

theorem headingNestingList_closeContent (number : Nat) (content : List Node) :
    headingNestingList (Footnote.closeContent number content) = headingNestingList content := by
  induction content using Footnote.closeContent.induct with
  | case1 => simp [Footnote.closeContent, headingNestingList, headingNesting_backReference]
  | case2 attrs children =>
      simp [Footnote.closeContent, headingNestingList, Node.headingNesting, headingLevel,
        headingNesting_backReference]
  | case3 node hnot =>
      -- The last node is no paragraph: the link stands behind it.
      rw [Footnote.closeContent.eq_3 number node hnot]
      simp [headingNestingList, headingNesting_backReference]
  | case4 node rest hnot hrest ih =>
      rw [Footnote.closeContent.eq_4 number node rest hnot hrest, headingNestingList, ih,
        headingNestingList]

theorem headingNesting_item (number : Nat) (content : List Node) :
    (Footnote.item number content).headingNesting = headingNestingList content := by
  rw [← headingNestingList_closeContent number]
  exact Nat.zero_add _

theorem headingNestingList_sectionOf (items : List Node) :
    headingNestingList [Footnote.sectionOf items] = headingNestingList items := by
  simp [Footnote.sectionOf, headingNestingList, Node.headingNesting, Node.plain, headingLevel]

/-- The footnotes at the end of a document nest headings no deeper than what they
were defined with. -/
theorem headingNestingList_convertNotes_le {references : References} {bound : Nat}
    (h : ∀ identifier content, (identifier, content) ∈ references.notes →
      headingNestingAll content ≤ bound)
    (number : Nat) (identifiers : List String) (seen : List Nat) :
    headingNestingList (convertNotes references number identifiers seen) ≤ bound := by
  induction identifiers generalizing number seen with
  | nil => exact Nat.zero_le bound
  | cons identifier rest ih =>
      rw [convertNotes]
      split
      · next content hlookup =>
          have hmem : (identifier, content) ∈ references.notes :=
            NameMap.mem_of_lookup_eq_some hlookup
          have hitem := headingNestingList_convertAll_le references false content seen
          rw [headingNestingList, headingNesting_item]
          exact Nat.max_le.2 ⟨Nat.le_trans hitem (h identifier content hmem), ih _ _⟩
      · exact ih (number + 1) seen

/-! ### Documents -/

theorem headingNestingList_bodyNodes_le (nodes : List Node) :
    headingNestingList (bodyNodes nodes) ≤ headingNestingList nodes := by
  induction nodes using bodyNodes.induct with
  | case1 => exact Nat.le_refl 0
  | case2 children => simp [bodyNodes, headingNestingList, Node.headingNesting]
  | case3 node hnot => rw [bodyNodes.eq_3 node hnot]
  | case4 node rest hroot hnot ih =>
      rw [bodyNodes.eq_4 node rest hroot hnot]
      exact Nat.le_trans ih (Nat.le_max_right ..)

/-- **The tree of a document nests no more headings than its source.** -/
theorem headingNesting_toTree_le (construct : Construct) :
    construct.toTree.headingNesting ≤ construct.headingNesting := by
  have hbody := Nat.le_trans (headingNestingList_bodyNodes_le _)
    (headingNestingList_convert_le (.ofConstruct construct) false construct [])
  have hnotes : ∀ identifier content,
      (identifier, content) ∈ (References.ofConstruct construct).notes →
        headingNestingAll content ≤ construct.headingNesting :=
    fun _ _ => headingNestingAll_le_of_mem_notes
  have hitems := headingNestingList_convertNotes_le hnotes 1
    (References.ofConstruct construct).order
    (construct.convert (.ofConstruct construct) false []).2
  rw [toTree, Node.headingNesting, headingNestingList_append]
  refine Nat.max_le.2 ⟨hbody, ?_⟩
  split
  · exact Nat.zero_le _
  · rwa [headingNestingList_sectionOf]

end Construct

end PostPress.Markdown
