import PostPress.Html.Dom

/-!
# PostPress.Html.Construction.State

The state in which markup is made into a tree: the open elements, the formatting
elements that are to be opened again, the insertion mode, and the tree so far.

* `Mode`, `Builder` — the state;
* `Builder.inScope`, `Builder.popUntil`, `Builder.closeImplied` — the stack of
  open elements;
* `Builder.insert`, `Builder.insertText` — putting elements and texts into the
  tree, before a table if its place is inside one.
-/

namespace PostPress.Html

/-- Where in a document the next token is expected. -/
inductive Mode
  /-- Before anything. -/
  | initial
  /-- Before the `html` element. -/
  | beforeHtml
  /-- Before the head. -/
  | beforeHead
  /-- In the head. -/
  | inHead
  /-- Between the head and the body. -/
  | afterHead
  /-- In the body. -/
  | inBody
  /-- In an element that holds only text. -/
  | text
  /-- In a table. -/
  | inTable
  /-- In text directly in a table. -/
  | inTableText
  /-- In the caption of a table. -/
  | inCaption
  /-- In a group of columns. -/
  | inColumnGroup
  /-- In a group of rows. -/
  | inTableBody
  /-- In a row. -/
  | inRow
  /-- In a cell. -/
  | inCell
  /-- In a template. -/
  | inTemplate
  /-- After the body. -/
  | afterBody
  /-- In a set of frames. -/
  | inFrameset
  /-- After a set of frames. -/
  | afterFrameset
  /-- After the document. -/
  | afterAfterBody
  /-- After a document of frames. -/
  | afterAfterFrameset
deriving DecidableEq, Repr

/-- An entry of the list of formatting elements. -/
inductive Formatting
  /-- The beginning of what a cell, a caption, an object or a template holds. -/
  | marker
  /-- An element, with its start tag. -/
  | element (id : Nat) (name : String) (attrs : List Attribute)
deriving DecidableEq, Repr

/-- The state of tree construction. -/
structure Builder where
  /-- The tree so far. -/
  dom : Dom
  /-- The insertion mode. -/
  mode : Mode
  /-- The mode to go back to after text. -/
  returnMode : Mode
  /-- The modes of the open templates, innermost first. -/
  templateModes : List Mode
  /-- The open elements, innermost first. -/
  stack : List Nat
  /-- The formatting elements, latest first. -/
  formatting : List Formatting
  /-- The head element. -/
  head : Option Nat
  /-- The open form. -/
  form : Option Nat
  /-- Whether a set of frames may still take the place of the body. -/
  framesetOk : Bool
  /-- Whether content that cannot be in a table is put before it. -/
  fostering : Bool
  /-- The text directly in a table that has not been put anywhere. -/
  tableText : List (List Char)
  /-- Whether a line feed at the beginning of the next text is dropped. -/
  dropNewline : Bool
  /-- Whether the markup is a part of a document, to be put into a `div`. -/
  isFragment : Bool
  /-- Whether a paragraph may hold a table. -/
  tableInParagraph : Bool
  /-- Whether the encoding of a MathML annotation lets it hold HTML. -/
  annotationsHoldHtml : Bool
  /-- How the text that follows is read. -/
  textMode : TextMode
  /-- Whether construction has ended. -/
  stopped : Bool

namespace Builder

/-- Go on in another mode. -/
def goTo (b : Builder) (mode : Mode) : Builder := { b with mode }

/-- No set of frames may take the place of the body any more. -/
def noFrameset (b : Builder) : Builder := { b with framesetOk := false }

/-! ### The stack of open elements -/

/-- Put an element on the stack. -/
def pushOpen (b : Builder) (id : Nat) : Builder := { b with stack := id :: b.stack }

/-- Close the innermost element. -/
def pop (b : Builder) : Builder := { b with stack := b.stack.drop 1 }

/-- The vocabulary and the name of the innermost element. -/
def current? (b : Builder) : Option (Space × String) :=
  match b.stack with
  | [] => none
  | id :: _ => b.dom.name? id

/-- The name of an HTML element; nothing for other nodes. -/
def htmlName? (b : Builder) (id : Nat) : Option String :=
  match b.dom.name? id with
  | some (.html, name) => some name
  | _ => none

/-- Whether a node is an HTML element of one of the names. -/
def isHtml (b : Builder) (names : List String) (id : Nat) : Bool :=
  match b.htmlName? id with
  | some name => names.contains name
  | none => false

/-- Whether the innermost element is an HTML element of one of the names. -/
def currentIs (b : Builder) (names : List String) : Bool :=
  match b.stack with
  | [] => false
  | id :: _ => b.isHtml names id

/-- Whether an HTML element of a name is open. -/
def isOpen (b : Builder) (name : String) : Bool := b.stack.any (b.isHtml [name])

/-- A MathML element that holds text of the surrounding vocabulary. -/
def isMathText (name : Space × String) : Bool :=
  name.1 == .mathml && ["mi", "mo", "mn", "ms", "mtext"].contains name.2

/-- An SVG element that holds HTML. -/
def isSvgHtml (name : Space × String) : Bool :=
  name.1 == .svg && ["foreignObject", "desc", "title"].contains name.2

/-- The HTML elements that end every scope but that of tables. -/
def scopeEnds : List String :=
  ["applet", "caption", "html", "table", "td", "th", "marquee", "object", "select", "template"]

/-- Whether an element ends the scope in which elements are looked for. -/
def endsScope (b : Builder) (more : List String) (id : Nat) : Bool :=
  match b.dom.name? id with
  | none => false
  | some (.html, name) => scopeEnds.contains name || more.contains name
  | some name => isMathText name || isSvgHtml name

/-- Whether an element with a property is found before one that ends the search. -/
def searchScope (wanted ends : Nat → Bool) : List Nat → Bool
  | [] => false
  | id :: rest =>
      if wanted id then true else if ends id then false else searchScope wanted ends rest

/-- Whether an HTML element of one of the names is in scope. -/
def inScope (b : Builder) (names : List String) : Bool :=
  searchScope (b.isHtml names) (b.endsScope []) b.stack

/-- Whether one element is in scope. -/
def nodeInScope (b : Builder) (node : Nat) : Bool :=
  searchScope (· == node) (b.endsScope []) b.stack

/-- The scope that a button ends, too. -/
def inButtonScope (b : Builder) (names : List String) : Bool :=
  searchScope (b.isHtml names) (b.endsScope ["button"]) b.stack

/-- The scope that a list ends, too. -/
def inListScope (b : Builder) (names : List String) : Bool :=
  searchScope (b.isHtml names) (b.endsScope ["ol", "ul"]) b.stack

/-- The scope that only a table ends. -/
def inTableScope (b : Builder) (names : List String) : Bool :=
  searchScope (b.isHtml names) (b.isHtml ["html", "table", "template"]) b.stack

/-- Close the innermost element of one of the names, and all in it. -/
def popUntil (b : Builder) (names : List String) : Builder :=
  { b with stack := (b.stack.dropWhile fun id => !b.isHtml names id).drop 1 }

/-- Close one element, and all in it. -/
def popThrough (b : Builder) (node : Nat) : Builder :=
  { b with stack := (b.stack.dropWhile (· ≠ node)).drop 1 }

/-- Close elements up to one of the names, which stays open. -/
def clearTo (b : Builder) (names : List String) : Builder :=
  { b with stack := b.stack.dropWhile fun id => !b.isHtml names id }

/-- Elements whose end need not be written. -/
def impliedEnds : List String :=
  ["dd", "dt", "li", "optgroup", "option", "p", "rb", "rp", "rt", "rtc"]

/-- Close elements whose end need not be written, but none of these names. -/
def closeImplied (b : Builder) (but : List String) : Builder :=
  let closes (id : Nat) : Bool := b.isHtml impliedEnds id && !b.isHtml but id
  { b with stack := b.stack.dropWhile closes }

/-- Close elements that need not be closed, among them parts of tables. -/
def closeImpliedThoroughly (b : Builder) : Builder :=
  let names :=
    impliedEnds ++ ["caption", "colgroup", "tbody", "td", "tfoot", "th", "thead", "tr"]
  { b with stack := b.stack.dropWhile (b.isHtml names) }

/-- Close a paragraph. -/
def closeParagraph (b : Builder) : Builder := (b.closeImplied ["p"]).popUntil ["p"]

/-- Close a paragraph if there is one in the scope of buttons. -/
def endParagraph (b : Builder) : Builder :=
  if b.inButtonScope ["p"] then b.closeParagraph else b

/-- Take one element off the stack. -/
def removeOpen (b : Builder) (node : Nat) : Builder :=
  { b with stack := b.stack.filter (· ≠ node) }

/-! ### Putting nodes into the tree -/

/-- A place in the tree. -/
inductive Place
  /-- Behind the children of a node. -/
  | inside (node : Nat)
  /-- Before a table, or behind the children of the element it was opened in if
  the table is not in the tree. -/
  | beforeTable (table outer : Nat)

/-- The place for what cannot be in a table: in the innermost template, or before
the innermost table. -/
def fosterPlace (b : Builder) : List Nat → Place
  | [] => .inside (b.stack.getLast?.getD Dom.document)
  | id :: rest =>
      if b.isHtml ["template"] id then .inside (b.dom.contentOf id)
      else if b.isHtml ["table"] id then .beforeTable id (rest.head?.getD id)
      else b.fosterPlace rest

/-- The place for a node that is to be put into `target`. -/
def placeIn (b : Builder) (target : Nat) : Place :=
  if b.fostering && b.isHtml ["table", "tbody", "tfoot", "thead", "tr"] target then
    b.fosterPlace b.stack
  else .inside (b.dom.contentOf target)

/-- The place for the next node. -/
def place (b : Builder) : Place := b.placeIn (b.stack.head?.getD Dom.document)

/-- Put a node into a place. -/
def putAt (b : Builder) (place : Place) (id : Nat) : Builder :=
  match place with
  | .inside node => { b with dom := b.dom.append node id }
  | .beforeTable table outer =>
      if (b.dom.parent? table).isSome then { b with dom := b.dom.insertBefore table id }
      else { b with dom := b.dom.append outer id }

/-- Put characters into the tree. -/
def insertText (b : Builder) (chars : List Char) : Builder :=
  match b.place with
  | .inside node => { b with dom := b.dom.appendText node chars }
  | .beforeTable table outer =>
      if (b.dom.parent? table).isSome then { b with dom := b.dom.insertTextBefore table chars }
      else { b with dom := b.dom.appendText outer chars }

/-- Put a comment into the tree. -/
def insertComment (b : Builder) : Builder :=
  let (id, dom) := b.dom.create .comment
  { b with dom }.putAt b.place id

/-- Put an element into the tree, without opening it. -/
def insertClosed (b : Builder) (space : Space) (name : String) (attrs : List Attribute) :
    Nat × Builder :=
  let (id, dom) := b.dom.createElement space name attrs
  (id, { b with dom }.putAt b.place id)

/-- Put an HTML element into the tree and open it. -/
def insertNode (b : Builder) (name : String) (attrs : List Attribute) : Nat × Builder :=
  let (id, b) := b.insertClosed .html name attrs
  (id, b.pushOpen id)

/-- Put an HTML element into the tree and open it. -/
def insert (b : Builder) (name : String) (attrs : List Attribute) : Builder :=
  (b.insertNode name attrs).2

/-- Put an HTML element without content into the tree. -/
def insertVoid (b : Builder) (name : String) (attrs : List Attribute) : Builder :=
  (b.insertClosed .html name attrs).2

/-- Open an element that holds only text. -/
def insertTextElement (b : Builder) (name : String) (attrs : List Attribute)
    (textMode : TextMode) : Builder :=
  { b.insert name attrs with textMode, returnMode := b.mode, mode := .text }

/-! ### Resetting the mode -/

/-- The mode that follows from the open elements. -/
def modeFor (b : Builder) : List Nat → Mode
  | [] => .inBody
  | id :: rest =>
      let isLast := rest.isEmpty
      -- The outermost element of a fragment stands for the `div` around it.
      match if isLast && b.isFragment then some "div" else b.htmlName? id with
      | some "td" | some "th" => if isLast then .inBody else .inCell
      | some "tr" => .inRow
      | some "tbody" | some "thead" | some "tfoot" => .inTableBody
      | some "caption" => .inCaption
      | some "colgroup" => .inColumnGroup
      | some "table" => .inTable
      | some "template" => b.templateModes.head?.getD .inTemplate
      | some "head" => if isLast then .inBody else .inHead
      | some "body" => .inBody
      | some "frameset" => .inFrameset
      | some "html" => if b.head.isNone then .beforeHead else .afterHead
      | _ => if isLast then .inBody else b.modeFor rest

/-- Set the mode that follows from the open elements. -/
def resetMode (b : Builder) : Builder := b.goTo (b.modeFor b.stack)

end Builder

end PostPress.Html
