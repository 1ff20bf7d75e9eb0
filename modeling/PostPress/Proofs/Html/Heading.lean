import PostPress.Html.Markup
import PostPress.Html.Writer

/-!
# PostPress.Proofs.Html.Heading

**Headings of markup.** A `HeadingMark` is what markup tells about a heading: the
elements around it, its name and its ids. A tree of markup has its marks, and a
tree of nodes has those that it is written with; a reader that gets the headings
right gives the same ones back.
-/

namespace PostPress

namespace Html

/-- A heading as it stands in markup. -/
structure HeadingMark where
  /-- The elements around it, from the outside. -/
  around : List (Space × String)
  /-- Its vocabulary and its name. -/
  name : Space × String
  /-- The values of its ids. -/
  ids : List String
deriving DecidableEq, Repr

/-- The same heading with one more element around it. -/
def HeadingMark.within (outer : Space × String) (mark : HeadingMark) : HeadingMark :=
  { mark with around := outer :: mark.around }

/-- The values of the ids among some attributes. -/
def idsOf (attrs : List Attribute) : List String :=
  (attrs.filter (·.name == "id")).map Attribute.value

namespace Markup

mutual

/-- The headings of a tree of markup, in document order. -/
def headingMarks : Markup → List HeadingMark
  | .text _ | .comment => []
  | .element space name attrs children =>
      (if (headingLevel name).isSome then [⟨[], (space, name), idsOf attrs⟩] else []) ++
        (headingMarksList children).map (.within (space, name))

/-- The headings of some trees of markup. -/
def headingMarksList : List Markup → List HeadingMark
  | [] => []
  | node :: rest => headingMarks node ++ headingMarksList rest

end

@[simp] theorem headingMarksList_append (as bs : List Markup) :
    headingMarksList (as ++ bs) = headingMarksList as ++ headingMarksList bs := by
  induction as with
  | nil => rfl
  | cons node rest ih => rw [List.cons_append, headingMarksList, ih, headingMarksList,
      List.append_assoc]

end Markup

/-- The elements in which markup has no other elements: nothing is written into
them, what is written there is read as text, or it is kept apart from the tree. -/
def closedElements : List String := voidElements ++ rawElements ++ ["title", "textarea", "template"]

end Html

/-- The value of the id among the attributes of an element, as it is read in markup:
there the case of a name does not matter, and the first attribute of a name counts. -/
def Attributes.idText? (attrs : Attributes) : Option String :=
  (attrs.entries.find? fun entry => Text.asciiLower entry.1 == "id").map fun entry =>
    entry.2.asText

namespace Node

open Html

mutual

/-- The headings of a node as they stand in its markup. -/
def headingMarks : Node → List HeadingMark
  | .text _ => []
  | .root children | .foreign _ children => headingMarksList children
  | .element tag attrs children =>
      (if (headingLevel tag).isSome then [⟨[], (.html, tag), attrs.idText?.toList⟩] else []) ++
        if closedElements.contains (Text.asciiLower tag) then []
        else (headingMarksList children).map (.within (.html, Text.asciiLower tag))

/-- The headings of some nodes as they stand in their markup. -/
def headingMarksList : List Node → List HeadingMark
  | [] => []
  | node :: rest => headingMarks node ++ headingMarksList rest

end

theorem headingMarksList_append (as bs : List Node) :
    headingMarksList (as ++ bs) = headingMarksList as ++ headingMarksList bs := by
  induction as with
  | nil => rfl
  | cons node rest ih => rw [List.cons_append, headingMarksList, ih, headingMarksList,
      List.append_assoc]

end Node

end PostPress
