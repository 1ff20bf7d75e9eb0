import PostPress.Html.Dom

/-!
# PostPress.Html.Markup

Writing a tree of markup as HTML again. The text of elements that hold nothing
but text is written as it is.
-/

namespace PostPress.Html

/-- Elements whose text is written as it is. -/
def rawElements : List String :=
  ["style", "script", "xmp", "iframe", "noembed", "noframes", "plaintext", "noscript"]

/-- Elements that are written without content and end tag. -/
def emptyElements : List String :=
  ["area", "base", "basefont", "bgsound", "br", "col", "embed", "frame", "hr", "img", "input",
   "keygen", "link", "meta", "param", "source", "track", "wbr"]

/-- A character of a text or of an attribute value. -/
def escapeMarkupChar (inAttribute : Bool) (c : Char) : List Char :=
  match c with
  | '&' => "&amp;".toList
  | '\u00a0' => "&nbsp;".toList
  | '"' => if inAttribute then "&quot;".toList else ['"']
  | '<' => if inAttribute then ['<'] else "&lt;".toList
  | '>' => if inAttribute then ['>'] else "&gt;".toList
  | c => [c]

/-- What stands before the name of an attribute. -/
def attributePrefix (attr : Attribute) : List Char :=
  match attr.space with
  | .none => []
  | .xlink => "xlink:".toList
  | .xml => "xml:".toList
  | .xmlns => if attr.name = "xmlns" then [] else "xmlns:".toList

/-- An attribute in a start tag. -/
def writeMarkupAttribute (attr : Attribute) : List Char :=
  ' ' :: attributePrefix attr ++ attr.name.toList ++ '=' :: '"' ::
    attr.value.toList.flatMap (escapeMarkupChar true) ++ ['"']

mutual

/-- A tree as HTML; `raw` says whether its text is written as it is. -/
def Markup.write (raw : Bool) : Markup → List Char
  | .comment => []
  | .text chars => if raw then chars else chars.flatMap (escapeMarkupChar false)
  | .element space name attrs children =>
      '<' :: name.toList ++ attrs.flatMap writeMarkupAttribute ++ '>' ::
        (if space = .html && emptyElements.contains name then []
         else Markup.writeList (space = .html && rawElements.contains name) children ++
          '<' :: '/' :: name.toList ++ ['>'])

/-- Trees as HTML, one after the other. -/
def Markup.writeList (raw : Bool) : List Markup → List Char
  | [] => []
  | node :: rest => Markup.write raw node ++ Markup.writeList raw rest

end

end PostPress.Html
