import PostPress.Tree.Basic

/-!
# PostPress.Footnote

Footnotes in a document tree: numbered references in the text, and a section
with the footnotes at the end. A reference links to its footnote, and a footnote
back to the first reference with its number.
-/

namespace PostPress

namespace Footnote

/-- The attribute that marks the link from a text to its footnote. -/
def referenceMark : String := "data-footnote-ref"

/-- The attribute that marks the link from a footnote back to the text. -/
def backReferenceMark : String := "data-footnote-backref"

/-- The id of a footnote. -/
def noteId (number : Nat) : String := "fn-" ++ number.repr

/-- The id of the first reference to a footnote. -/
def referenceId (number : Nat) : String := "fnref-" ++ number.repr

/-- A reference to a footnote. Only the first one with its number has an id. -/
def reference (number : Nat) (first : Bool) : Node :=
  let attrs := Attributes.ofList
    [("href", .text ("#" ++ noteId number)), (referenceMark, .text "")]
  let attrs := if first then attrs.insert "id" (.text (referenceId number)) else attrs
  .plain "sup" [.element "a" attrs [.text number.repr]]

/-- The link from a footnote back to its first reference. -/
def backReference (number : Nat) : Node :=
  .element "a"
    (.ofList [("href", .text ("#" ++ referenceId number)),
      ("aria-label", .text ("Back to reference " ++ number.repr)),
      (backReferenceMark, .text "")])
    [.text "↩"]

/-- The content of a footnote with its link back: at the end of the last
paragraph, or behind all if the content does not end with one. -/
def closeContent (number : Nat) : List Node → List Node
  | [] => [backReference number]
  | [.element "p" attrs children] =>
      [.element "p" attrs (children ++ [.text " ", backReference number])]
  | [node] => [node, backReference number]
  | node :: rest => node :: closeContent number rest

/-- A footnote. -/
def item (number : Nat) (content : List Node) : Node :=
  .element "li" (.ofList [("id", .text (noteId number))]) (closeContent number content)

/-- The section with all footnotes. -/
def sectionOf (items : List Node) : Node :=
  .element "section" (.ofList [("class", .tokens ["footnotes"])]) [.plain "ol" items]

end Footnote

end PostPress
