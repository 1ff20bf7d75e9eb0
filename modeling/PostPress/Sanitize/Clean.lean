import PostPress.Html.Markup
import PostPress.Sanitize.Namespace
import PostPress.Sanitize.Schema
import PostPress.Url.Scheme

/-!
# PostPress.Sanitize.Clean

Cleaning a tree of markup by an allow-list.

* `CleanRules` — which elements go with their content, which are kept, and with
  which attributes;
* `clean` — the tree with only what the rules keep: an element that is not kept
  leaves its children.
-/

namespace PostPress.Sanitize

open Html

/-- Rules for cleaning markup. -/
structure CleanRules where
  /-- The elements that are kept. -/
  tags : NameSet
  /-- The elements that go with their content. -/
  withContent : List String
  /-- The attributes kept on every element. -/
  genericAttributes : NameSet
  /-- The attributes kept on single elements. -/
  tagAttributes : NameMap NameSet
  /-- The URL schemes that an attribute known to hold a URL may have. -/
  urlSchemes : List String
  /-- A last look at an attribute that is otherwise kept, by element, name and
  value. -/
  keeps : (tag name value : String) → Bool

/-- Whether an attribute of an element is known to hold a URL. -/
def holdsUrl (tag name : String) : Bool :=
  name == "href" || name == "src" || (tag == "form" && name == "action") ||
    (tag == "object" && name == "data") ||
    ((tag == "button" || tag == "input") && name == "formaction") ||
    (tag == "a" && name == "ping") || (tag == "video" && name == "poster")

/-- Whether a URL is relative or of one of the schemes. -/
def urlAllowed (schemes : List String) (value : String) : Bool :=
  match Url.read value with
  | .absolute scheme => schemes.contains scheme
  | .relative => true
  | .invalid => false

namespace CleanRules

/-- Whether an attribute is listed for an element. -/
def lists (rules : CleanRules) (tag name : String) : Bool :=
  rules.genericAttributes.contains name ||
    ((rules.tagAttributes.get? tag).map fun names => names.contains name).getD false

/-- Whether an attribute of an element is kept. -/
def keepsAttribute (rules : CleanRules) (tag : String) (attr : Attribute) : Bool :=
  rules.lists tag attr.name &&
    (!holdsUrl tag attr.name || urlAllowed rules.urlSchemes attr.value) &&
    rules.keeps tag attr.name attr.value

mutual

/-- A node, in an element of the vocabulary and name `parent`, as the rules leave
it. -/
def cleanNode (rules : CleanRules) (parent : Space × String) : Markup → List Markup
  | .comment => []
  | .text chars => [.text chars]
  | .element space name attrs children =>
      if rules.withContent.contains name || !fits parent (space, name) then []
      else if rules.tags.contains name then
        [.element space name (attrs.filter (rules.keepsAttribute name))
          (cleanList rules (space, name) children)]
      else cleanList rules parent children

/-- Nodes as the rules leave them. -/
def cleanList (rules : CleanRules) (parent : Space × String) : List Markup → List Markup
  | [] => []
  | node :: rest => cleanNode rules parent node ++ cleanList rules parent rest

end

/-- The nodes of a fragment as the rules leave them. -/
def clean (rules : CleanRules) (nodes : List Markup) : List Markup :=
  rules.cleanList (.html, "html") nodes

end CleanRules

end PostPress.Sanitize
