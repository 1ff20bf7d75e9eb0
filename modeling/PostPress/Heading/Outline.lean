import PostPress.Text.Percent

/-!
# PostPress.Heading.Outline

The outline of a document: its headings as a forest, each below the nearest
earlier one of smaller depth.

* `TocEntry`, `flattenIds` — an entry with the entries below it, and all ids in
  document order;
* `OutlineBuilder` — takes the headings one by one and keeps a stack of those
  that are still open.
-/

namespace PostPress

/-- One heading in the outline. -/
structure TocEntry where
  /-- The text of the heading. -/
  text : String
  /-- Its level. -/
  depth : Nat
  /-- The id of the heading element. -/
  id : String
  /-- The deeper headings that follow, in document order. -/
  children : List TocEntry
deriving Inhabited, Repr

namespace TocEntry

/-- The link to the heading within the document. -/
def href (entry : TocEntry) : String := "#" ++ Text.encodeFragment entry.id

/-- The entry with one more below it, after the others. -/
def adopt (entry child : TocEntry) : TocEntry :=
  { entry with children := entry.children ++ [child] }

mutual

/-- The ids of an entry and those below it, in document order. -/
def ids : TocEntry → List String
  | ⟨_, _, id, children⟩ => id :: idsList children

/-- The ids of a forest, in document order. -/
def idsList : List TocEntry → List String
  | [] => []
  | entry :: rest => ids entry ++ idsList rest

end

end TocEntry

/-- All ids of an outline, in document order. -/
def flattenIds (entries : List TocEntry) : List String := TocEntry.idsList entries

/-- An outline in the making. -/
structure OutlineBuilder where
  /-- The open entries, innermost first. -/
  stack : List TocEntry
  /-- The finished entries at the top level, in document order. -/
  roots : List TocEntry
deriving Inhabited, Repr

namespace OutlineBuilder

/-- Nothing has been added. -/
def empty : OutlineBuilder := ⟨[], []⟩

/-- Close the entry `done`, and after it every open entry that `closes` holds
of: each goes below the next open one, or to the roots. -/
def close (closes : TocEntry → Bool) (done : TocEntry) :
    (stack roots : List TocEntry) → OutlineBuilder
  | [], roots => ⟨[], roots ++ [done]⟩
  | parent :: rest, roots =>
      if closes parent then close closes (parent.adopt done) rest roots
      else ⟨parent.adopt done :: rest, roots⟩

/-- Close the open entries from the innermost outward while `closes` holds. -/
def closeWhile (closes : TocEntry → Bool) (b : OutlineBuilder) : OutlineBuilder :=
  match b.stack with
  | [] => b
  | top :: rest => if closes top then close closes top rest b.roots else b

/-- Add the next heading: every open entry of the same or a greater depth is
closed, and the new one is opened below what is left. -/
def push (b : OutlineBuilder) (entry : TocEntry) : OutlineBuilder :=
  let b := b.closeWhile fun «open» => entry.depth ≤ «open».depth
  { b with stack := entry :: b.stack }

/-- Close everything: the outline. -/
def finish (b : OutlineBuilder) : List TocEntry := (b.closeWhile fun _ => true).roots

/-- The outline of headings given in document order. -/
def outline (entries : List TocEntry) : List TocEntry := (entries.foldl push empty).finish

end OutlineBuilder

end PostPress
