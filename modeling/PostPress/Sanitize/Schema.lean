import PostPress.Collections.NameMap
import PostPress.Text.Blank

/-!
# PostPress.Sanitize.Schema

What a sanitizer lets through.

* `Schema` — tags, attributes for each tag, URL schemes for each attribute, and
  tags that go with their content;
* `SchemaExtension` — additions, and `Schema.extend` that makes them; names are
  put in lower case then.
-/

namespace PostPress

/-- The key of the attributes that are allowed on every tag. -/
def anyTag : String := "*"

/-- An allow-list. Tags outside it are replaced by their children. -/
structure Schema where
  /-- The allowed tags. -/
  tagNames : NameSet
  /-- The allowed attributes of each tag, and of all tags under `anyTag`. -/
  attributes : NameMap NameSet
  /-- The allowed URL schemes of attributes, by `attribute` or `tag.attribute`. -/
  protocols : NameMap NameSet
  /-- Tags that are removed with everything inside. -/
  strip : NameSet
deriving DecidableEq, Repr

/-- Additions to an allow-list. -/
structure SchemaExtension where
  /-- More tags. -/
  tagNames : List String
  /-- More attributes, by tag. -/
  attributes : NameMap (List String)
  /-- Lists of URL schemes that take the place of those for the same key. -/
  protocols : NameMap (List String)
deriving DecidableEq, Repr

namespace Schema

/-- Nothing is allowed, nothing is removed with its content. -/
def empty : Schema := ⟨∅, ∅, ∅, ∅⟩

/-- The tags of the common allow-list. -/
def defaultTags : List String :=
  ["h1", "h2", "h3", "h4", "h5", "h6", "br", "b", "i", "strong", "em", "a", "pre", "code", "img",
   "tt", "div", "ins", "del", "sup", "sub", "p", "ol", "ul", "table", "thead", "tbody", "tfoot",
   "blockquote", "dl", "dt", "dd", "kbd", "q", "samp", "var", "hr", "ruby", "rt", "rp", "li",
   "tr", "td", "th", "s", "strike", "summary", "details", "caption", "figure", "figcaption",
   "abbr", "bdo", "cite", "dfn", "mark", "small", "span", "time", "wbr", "input"]

/-- The attributes that the common allow-list has for every tag. -/
def defaultGlobalAttributes : List String :=
  ["abbr", "align", "alt", "aria-describedby", "aria-hidden", "aria-label", "aria-labelledby",
   "axis", "border", "cellpadding", "cellspacing", "colspan", "datetime", "dir", "headers",
   "height", "hreflang", "id", "lang", "rowspan", "scope", "span", "start", "summary", "title",
   "valign", "width"]

/-- The attributes that the common allow-list has for single tags. -/
def defaultTagAttributes : List (String × List String) :=
  [("a", ["href"]), ("img", ["src", "longdesc"]), ("blockquote", ["cite"]), ("del", ["cite"]),
   ("ins", ["cite"]), ("q", ["cite"]), ("code", ["class"]), ("ul", ["class"]), ("ol", ["class"]),
   ("li", ["class"]), ("input", ["type", "checked", "disabled"]),
   ("div", ["itemscope", "itemtype"])]

/-- The URL schemes of the common allow-list. -/
def defaultProtocols : List (String × List String) :=
  [("href", ["http", "https", "mailto"]), ("src", ["http", "https"]), ("cite", ["http", "https"]),
   ("longdesc", ["http", "https"])]

/-- The common allow-list. -/
def default : Schema where
  tagNames := .ofList defaultTags
  attributes :=
    .ofList (((anyTag, defaultGlobalAttributes) :: defaultTagAttributes).map fun (tag, names) =>
      (tag, NameSet.ofList names))
  protocols := .ofList (defaultProtocols.map fun (key, schemes) => (key, NameSet.ofList schemes))
  strip := .ofList ["script", "style"]

instance : Inhabited Schema := ⟨empty⟩

/-- Add attributes for one tag. -/
def extendAttributes (attributes : NameMap NameSet) (entry : String × List String) :
    NameMap NameSet :=
  let tag := Text.asciiLower entry.1
  attributes.insert tag
    (((attributes.get? tag).getD ∅).insertMany (entry.2.map Text.asciiLower))

/-- Set the URL schemes of one key. -/
def extendProtocols (protocols : NameMap NameSet) (entry : String × List String) :
    NameMap NameSet :=
  protocols.insert (Text.asciiLower entry.1) (.ofList (entry.2.map Text.asciiLower))

/-- Make additions: tags and attributes are only ever added, the schemes of a key
are replaced. -/
def extend (schema : Schema) (extension : SchemaExtension) : Schema where
  tagNames := schema.tagNames.insertMany (extension.tagNames.map Text.asciiLower)
  attributes := extension.attributes.entries.foldl extendAttributes schema.attributes
  protocols := extension.protocols.entries.foldl extendProtocols schema.protocols
  strip := schema.strip

/-- Whether a tag is allowed. -/
def allowsTag (schema : Schema) (tag : String) : Bool := schema.tagNames.contains tag

/-- Whether an attribute is listed under a key. -/
def lists (schema : Schema) (key name : String) : Bool :=
  ((schema.attributes.get? key).map fun names => names.contains name).getD false

/-- Whether an attribute is allowed on a tag. -/
def allowsAttribute (schema : Schema) (tag name : String) : Bool :=
  schema.lists tag name || schema.lists anyTag name

/-- The URL schemes allowed for an attribute of a tag, if it is restricted; what
is said for the tag counts before what is said for all tags. -/
def protocolsFor (schema : Schema) (tag name : String) : Option NameSet :=
  (schema.protocols.get? (tag ++ "." ++ name)).or (schema.protocols.get? name)

end Schema

namespace SchemaExtension

/-- No additions. -/
def empty : SchemaExtension := ⟨[], ∅, ∅⟩

instance : Inhabited SchemaExtension := ⟨empty⟩

/-- The elements that normalized foreign nodes become. -/
def formatting : SchemaExtension :=
  ⟨["u", "del"], .ofList [("del", ["class", "id"]), ("u", ["class", "id"])], ∅⟩

/-- The block of footnotes at the end of a document. -/
def footnotes : SchemaExtension := ⟨["section"], .ofList [("section", ["class"])], ∅⟩

/-- Players for hosted videos and files, and links that are safe to follow. -/
def embeds : SchemaExtension where
  tagNames := ["div", "iframe"]
  attributes := .ofList
    [("a", ["target", "rel"]), ("div", ["class"]),
     ("iframe",
       ["src", "width", "height", "allow", "allowfullscreen", "frameborder", "class", "style"])]
  protocols := .ofList [("iframe.src", ["https"])]

/-- Both additions in one: tags and attributes of the first before those of the
second, the schemes of the second where both have a key. -/
def merge (first second : SchemaExtension) : SchemaExtension where
  tagNames := first.tagNames ++ second.tagNames
  attributes := second.attributes.entries.foldl
    (fun merged (tag, names) => merged.insert tag (((merged.get? tag).getD []) ++ names))
    first.attributes
  protocols := first.protocols.union second.protocols

end SchemaExtension

end PostPress
