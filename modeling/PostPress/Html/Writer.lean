import PostPress.Tree.Basic

/-!
# PostPress.Html.Writer

Writing a tree as HTML. Void elements have no end tag, boolean attributes
without a value are written bare, roots and foreign nodes leave only their
children.

* `toHtml` — with a newline after every block element;
* `toCompactHtml` — without, so that reading it back gives no text that was not
  in the tree.
-/

namespace PostPress

namespace Html

/-- Elements that have neither children nor an end tag. -/
def voidElements : List String :=
  ["area", "base", "br", "col", "embed", "hr", "img", "input", "link", "meta", "source", "track",
   "wbr"]

/-- Elements that are followed by a newline. -/
def blockElements : List String :=
  ["blockquote", "div", "figure", "h1", "h2", "h3", "h4", "h5", "h6", "hr", "iframe", "li", "nav",
   "ol", "p", "pre", "section", "table", "tbody", "thead", "tr", "ul"]

/-- Attributes that are written without a value when it is empty. -/
def booleanAttributes : List String := ["allowfullscreen", "checked", "disabled", "itemscope"]

/-- A character of a text in markup. -/
def escapeTextChar (c : Char) : List Char :=
  match c with
  | '&' => "&amp;".toList
  | '<' => "&lt;".toList
  | '>' => "&gt;".toList
  | c => [c]

/-- A character of an attribute value in markup. -/
def escapeAttrChar (c : Char) : List Char :=
  if c = '"' then "&quot;".toList else escapeTextChar c

/-- A text in markup. -/
def escapeText (text : String) : List Char := text.toList.flatMap escapeTextChar

/-- An attribute value in markup, without the quotes. -/
def escapeAttr (text : String) : List Char := text.toList.flatMap escapeAttrChar

/-- One attribute of a start tag, with the space before it. -/
def writeAttribute (entry : String × AttrValue) : List Char :=
  let (name, value) := entry
  if value.asText = "" && booleanAttributes.contains name then ' ' :: name.toList
  else ' ' :: name.toList ++ '=' :: '"' :: escapeAttr value.asText ++ ['"']

/-- A start tag. -/
def writeStartTag (tag : String) (attrs : Attributes) : List Char :=
  '<' :: tag.toList ++ attrs.entries.flatMap writeAttribute ++ ['>']

/-- What follows an element. -/
def afterElement (newlines : Bool) (tag : String) : List Char :=
  if newlines && blockElements.contains tag then ['\n'] else []

mutual

/-- A node as markup. -/
def writeNode (newlines : Bool) : Node → List Char
  | .text value => escapeText value
  | .root children => writeNodes newlines children
  | .foreign _ children => writeNodes newlines children
  | .element tag attrs children =>
      writeStartTag tag attrs ++
        (if voidElements.contains tag then []
         else writeNodes newlines children ++ '<' :: '/' :: tag.toList ++ ['>']) ++
        afterElement newlines tag

/-- Nodes as markup, one after the other. -/
def writeNodes (newlines : Bool) : List Node → List Char
  | [] => []
  | node :: rest => writeNode newlines node ++ writeNodes newlines rest

end

end Html

/-- A tree as HTML, with a newline after every block element. -/
def toHtml (tree : Node) : String := String.ofList (Html.writeNode true tree)

/-- A tree as HTML, without newlines of its own. -/
def toCompactHtml (tree : Node) : String := String.ofList (Html.writeNode false tree)

end PostPress
