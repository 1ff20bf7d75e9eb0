import PostPress.Collections.NameMap
import PostPress.Text.Blank

/-!
# PostPress.Tree.Basic

The document tree. A document is a root that owns its children outright; a
`foreign` node is an inline construct that has not been given an element yet,
known by its name only.

* `AttrValue`, `Attributes` — an attribute is a text or a list of tokens;
* `Node` — text, root, element, foreign node;
* `Node.textContent`, `Node.children`, `Node.setAttr` — reading and changing one
  node.
-/

namespace PostPress

/-- The value of an attribute: one text, or a list of tokens such as the classes
of an element. -/
inductive AttrValue
  /-- A plain value. -/
  | text (value : String)
  /-- A list of tokens. -/
  | tokens (items : List String)
deriving DecidableEq, Repr

namespace AttrValue

/-- The value as it stands in markup, tokens separated by one space. -/
def asText : AttrValue → String
  | .text value => value
  | .tokens items => " ".intercalate items

/-- The value if it is a plain one. -/
def plain? : AttrValue → Option String
  | .text value => some value
  | .tokens _ => none

end AttrValue

/-- The attributes of an element, ordered by name. -/
abbrev Attributes := NameMap AttrValue

/-- A node of the document tree. -/
inductive Node
  /-- A run of text. -/
  | text (value : String)
  /-- The top of a document. -/
  | root (children : List Node)
  /-- An element. -/
  | element (tag : String) (attrs : Attributes) (children : List Node)
  /-- An inline construct without an element of its own, known by its name. -/
  | foreign (name : String) (children : List Node)
deriving Inhabited, Repr

namespace Node

mutual

/-- Equality of nodes can be decided. -/
def decEq : (a b : Node) → Decidable (a = b)
  | .text v, .text w => if h : v = w then isTrue (h ▸ rfl) else isFalse fun e => h (Node.text.inj e)
  | .root cs, .root ds =>
      match decEqList cs ds with
      | isTrue h => isTrue (h ▸ rfl)
      | isFalse h => isFalse fun e => h (Node.root.inj e)
  | .element t as cs, .element u bs ds =>
      if ht : t = u then
        if ha : as = bs then
          match decEqList cs ds with
          | isTrue hc => isTrue (ht ▸ ha ▸ hc ▸ rfl)
          | isFalse hc => isFalse fun e => hc (Node.element.inj e).2.2
        else isFalse fun e => ha (Node.element.inj e).2.1
      else isFalse fun e => ht (Node.element.inj e).1
  | .foreign n cs, .foreign m ds =>
      if hn : n = m then
        match decEqList cs ds with
        | isTrue hc => isTrue (hn ▸ hc ▸ rfl)
        | isFalse hc => isFalse fun e => hc (Node.foreign.inj e).2
      else isFalse fun e => hn (Node.foreign.inj e).1
  | .text _, .root _ | .text _, .element .. | .text _, .foreign .. => isFalse nofun
  | .root _, .text _ | .root _, .element .. | .root _, .foreign .. => isFalse nofun
  | .element .., .text _ | .element .., .root _ | .element .., .foreign .. => isFalse nofun
  | .foreign .., .text _ | .foreign .., .root _ | .foreign .., .element .. => isFalse nofun

/-- Equality of lists of nodes can be decided. -/
def decEqList : (as bs : List Node) → Decidable (as = bs)
  | [], [] => isTrue rfl
  | [], _ :: _ => isFalse nofun
  | _ :: _, [] => isFalse nofun
  | a :: as, b :: bs =>
      match decEq a b with
      | isFalse h => isFalse fun e => h (List.cons.inj e).1
      | isTrue h =>
          match decEqList as bs with
          | isFalse hs => isFalse fun e => hs (List.cons.inj e).2
          | isTrue hs => isTrue (h ▸ hs ▸ rfl)

end

instance : DecidableEq Node := decEq

/-- The children of a node; a text has none. -/
def children : Node → List Node
  | .text _ => []
  | .root children | .element _ _ children | .foreign _ children => children

/-- Whether a node has a list of children: all but texts have one. -/
def hasChildList : Node → Bool
  | .text _ => false
  | _ => true

/-- The node with other children; a text stays as it is. -/
def withChildren (children : List Node) : Node → Node
  | .text value => .text value
  | .root _ => .root children
  | .element tag attrs _ => .element tag attrs children
  | .foreign name _ => .foreign name children

/-- The tag of an element. -/
def tag? : Node → Option String
  | .element tag _ _ => some tag
  | _ => none

/-- Whether a node is an element with this tag. -/
def isElement (node : Node) (tag : String) : Bool := node.tag? == some tag

/-- Whether a node is a foreign one. -/
def isForeign : Node → Bool
  | .foreign .. => true
  | _ => false

/-- The attributes of an element; other nodes have none. -/
def attributes : Node → Attributes
  | .element _ attrs _ => attrs
  | _ => ∅

/-- The value of an attribute whose value is plain. -/
def attr? (node : Node) (name : String) : Option String :=
  node.attributes.get? name >>= AttrValue.plain?

/-- Give an element an attribute, replacing one of that name; other nodes stay
as they are. -/
def setAttr (name : String) (value : AttrValue) : Node → Node
  | .element tag attrs children => .element tag (attrs.insert name value) children
  | node => node

/-- The classes of an element: the tokens of `class`, or the words of a plain
value. -/
def classes (node : Node) : List String :=
  match node.attributes.get? "class" with
  | some (.tokens items) => items
  | some (.text value) => Text.words value
  | none => []

/-- Whether an element has a class. -/
def hasClass (node : Node) (name : String) : Bool := node.classes.contains name

mutual

/-- The texts below a node, joined in document order. -/
def textContent : Node → String
  | .text value => value
  | .root children | .element _ _ children | .foreign _ children => textContentList children

/-- The texts below the nodes of a list, joined in document order. -/
def textContentList : List Node → String
  | [] => ""
  | node :: rest => textContent node ++ textContentList rest

end

mutual

/-- How many levels a tree has. -/
def height : Node → Nat
  | .text _ => 1
  | .root children | .element _ _ children | .foreign _ children => heightList children + 1

/-- The greatest number of levels of the trees in a list. -/
def heightList : List Node → Nat
  | [] => 0
  | node :: rest => max (height node) (heightList rest)

end

end Node

/-- The level of a heading tag, from `h1` to `h6`. -/
def headingLevel (tag : String) : Option Nat :=
  match tag with
  | "h1" => some 1
  | "h2" => some 2
  | "h3" => some 3
  | "h4" => some 4
  | "h5" => some 5
  | "h6" => some 6
  | _ => none

/-- The level of a heading element. -/
def Node.headingLevel? (node : Node) : Option Nat := node.tag? >>= headingLevel

/-- An element without attributes. -/
def Node.plain (tag : String) (children : List Node) : Node := .element tag ∅ children

/-- Attributes from a list of names and values, plain or tokens. -/
def Attributes.ofList (pairs : List (String × AttrValue)) : Attributes := NameMap.ofList pairs

end PostPress
