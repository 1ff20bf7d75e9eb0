import PostPress.Html.Construction
import PostPress.Html.Writer
import PostPress.Sanitize.Clean

/-!
# PostPress.Sanitize.Sanitizer

Sanitizing a document tree: it is written as HTML, read as markup, cleaned by an
allow-list, written again, and the body of that is the result.

* `unwrapForeign` — foreign nodes and inner roots leave their children, unless
  they are named like a tag that goes with its content;
* `Schema.sanitize` — the whole way; it refuses allow-lists that contradict
  themselves.
-/

namespace PostPress

open Html Sanitize

/-- A way to read HTML markup. -/
structure HtmlReader where
  /-- Read a part of a document, inside a `div`. -/
  fragment : List Char → List Markup
  /-- Read a whole document; the nodes of its body. -/
  document : List Char → List Markup

/-- Reading HTML by the rules of tree construction. -/
def HtmlReader.standard : HtmlReader := ⟨readFragment, readDocument⟩

/-- Why a tree cannot be sanitized. -/
inductive SanitizeError
  /-- A tag goes with its content, and has a list of attributes. -/
  | attributesOfStrippedTag (tag : String)
deriving DecidableEq, Repr

namespace Schema

mutual

/-- A node without foreign nodes and roots. -/
def unwrapNode (schema : Schema) : Node → List Node
  | .text value => [.text value]
  | .root children => schema.unwrapForeign children
  | .element tag attrs children => [.element tag attrs (schema.unwrapForeign children)]
  | .foreign name children =>
      if schema.strip.contains (Text.asciiLower name) then [] else schema.unwrapForeign children

/-- Nodes without foreign nodes and roots. -/
def unwrapForeign (schema : Schema) : List Node → List Node
  | [] => []
  | node :: rest => schema.unwrapNode node ++ schema.unwrapForeign rest

end

/-- Whether a URL is relative or of a scheme of a set. -/
def schemeAllowed (schemes : NameSet) (value : String) : Bool :=
  match Url.read value with
  | .absolute scheme => schemes.contains scheme
  | .relative => true
  | .invalid => false

/-- A last look at an attribute: event handlers go, and URLs of schemes that are
not listed for the attribute. -/
def keepsAttribute (schema : Schema) (tag name value : String) : Bool :=
  !"on".toList.isPrefixOf name.toList &&
    match schema.protocolsFor tag name with
    | some schemes => schemeAllowed schemes value
    | none => true

/-- The tags that go with their content: those of `strip` that are not allowed. -/
def withContent (schema : Schema) : List String :=
  schema.strip.toList.filter (!schema.tagNames.contains ·)

/-- The lists of attributes of single tags. -/
def tagAttributes (schema : Schema) : NameMap NameSet :=
  .ofList (schema.attributes.entries.filter (·.1 ≠ anyTag))

/-- The rules by which markup is cleaned. A tag that goes with its content must
not have a list of attributes. -/
def cleanRules (schema : Schema) : Except SanitizeError CleanRules :=
  match schema.withContent.find? schema.tagAttributes.contains with
  | some tag => .error (.attributesOfStrippedTag tag)
  | none =>
      .ok
        { tags := schema.tagNames
          withContent := schema.withContent
          genericAttributes := (schema.attributes.get? anyTag).getD ∅
          tagAttributes := schema.tagAttributes
          urlSchemes := schema.protocols.values.flatMap NameSet.toList
          keeps := schema.keepsAttribute }

end Schema

/-- The attribute of a document element for one of markup; classes become
tokens. -/
def attrOfMarkup (attr : Attribute) : String × AttrValue :=
  (attr.name,
    if attr.name = "class" then .tokens (Text.words attr.value) else .text attr.value)

mutual

/-- A node of a document from one of markup. -/
def nodeOfMarkup : Markup → List Node
  | .comment => []
  | .text chars => [.text (String.ofList chars)]
  | .element _ name attrs children =>
      [.element name (.ofList (attrs.map attrOfMarkup)) (nodesOfMarkup children)]

/-- Nodes of a document from those of markup. -/
def nodesOfMarkup : List Markup → List Node
  | [] => []
  | node :: rest => nodeOfMarkup node ++ nodesOfMarkup rest

end

/-- The nodes to be sanitized. -/
def Node.topNodes : Node → List Node
  | .root children => children
  | node => [node]

namespace Schema

/-- The markup that a tree is cleaned to. -/
def cleanedMarkup (schema : Schema) (reader : HtmlReader) (rules : CleanRules) (tree : Node) :
    List Char :=
  Markup.writeList false
    (rules.clean (reader.fragment (writeNodes false (schema.unwrapForeign tree.topNodes))))

/-- Sanitize a tree, reading markup in a given way. -/
def sanitizeWith (schema : Schema) (reader : HtmlReader) (tree : Node) :
    Except SanitizeError Node :=
  schema.cleanRules.map fun rules =>
    .root (nodesOfMarkup (reader.document (schema.cleanedMarkup reader rules tree)))

/-- Sanitize a tree. -/
def sanitize (schema : Schema) (tree : Node) : Except SanitizeError Node :=
  schema.sanitizeWith .standard tree

end Schema

end PostPress
