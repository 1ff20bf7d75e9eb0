import PostPress.Heading.Outline
import PostPress.Html.Writer

/-!
# PostPress.Html.Navigation

An outline as a navigation block: nested lists of links, the entry of the active
heading marked with a class.
-/

namespace PostPress

namespace Html

/-- The mark of the link to the active heading. -/
def activeMark (active : Option String) (id : String) : List Char :=
  if active = some id then " class=\"active\"".toList else []

/-- The link to a heading. -/
def writeTocLink (active : Option String) (entry : TocEntry) : List Char :=
  "<a href=\"".toList ++ escapeAttr entry.href ++ '"' :: activeMark active entry.id ++
    '>' :: escapeText entry.text ++ "</a>".toList

mutual

/-- One item of a navigation list. -/
def writeTocItem (active : Option String) : TocEntry → List Char
  | ⟨text, depth, id, children⟩ =>
      "<li>".toList ++ writeTocLink active ⟨text, depth, id, []⟩ ++
        (if children.isEmpty then []
         else "\n<ul>\n".toList ++ writeTocItems active children ++ "</ul>\n".toList) ++
        "</li>\n".toList

/-- The items of a navigation list. -/
def writeTocItems (active : Option String) : List TocEntry → List Char
  | [] => []
  | entry :: rest => writeTocItem active entry ++ writeTocItems active rest

end

end Html

/-- An outline as a navigation block. -/
def tocToHtml (entries : List TocEntry) (active : Option String) : String :=
  String.ofList <|
    "<nav class=\"toc\">\n".toList ++
      (if entries.isEmpty then []
       else "<ul>\n".toList ++ Html.writeTocItems active entries ++ "</ul>\n".toList) ++
      "</nav>\n".toList

end PostPress
