import PostPress.Heading.Outline
import PostPress.Heading.Slug
import PostPress.Tree.Visit

/-!
# PostPress.Heading.Extract

Giving every heading of a document a unique id, and collecting the outline.

A heading that comes with a plain, non-empty id keeps it unless an earlier
heading owns it; the others get a slug of their text. Headings do not nest: what
lies below a heading is not looked at.
-/

namespace PostPress

/-- Ids taken so far, and the outline so far. -/
structure HeadingState where
  /-- The ids of the document. -/
  slugger : Slugger
  /-- The outline in the making. -/
  outline : OutlineBuilder

namespace HeadingState

/-- No heading has been seen. -/
def empty : HeadingState := ⟨.empty, .empty⟩

/-- The id that the next heading gets, and whether its element has to be
changed to carry it. -/
def assign (state : HeadingState) (heading : Node) : String × Slugger × Bool :=
  match heading.attr? "id" with
  | some own =>
      if own = "" then
        let (id, slugger) := state.slugger.slug heading.textContent
        (id, slugger, true)
      else
        let (id, slugger) := state.slugger.unique own
        (id, slugger, id != own)
  | none =>
      let (id, slugger) := state.slugger.slug heading.textContent
      (id, slugger, true)

/-- Visit one heading. -/
def visitor : Visitor HeadingState := fun state slot =>
  match slot.node.headingLevel? with
  | none => ⟨state, slot.node, .skip⟩
  | some depth =>
      let (id, slugger, changed) := state.assign slot.node
      let entry : TocEntry := ⟨Text.trim slot.node.textContent, depth, id, []⟩
      ⟨⟨slugger, state.outline.push entry⟩,
        if changed then slot.node.setAttr "id" (.text id) else slot.node, .skip⟩

end HeadingState

/-- Give the headings of a tree their ids; the outline and the tree. -/
def extractToc (tree : Node) : List TocEntry × Node :=
  let (state, tree) :=
    tree.visitMut (fun node => node.headingLevel?.isSome) HeadingState.visitor .empty
  (state.outline.finish, tree)

end PostPress
