import PostPress.Html.Token

/-!
# PostPress.Html.Dom

The tree that markup is read into. Its nodes are numbered in the order of their
creation and know their parent, so that a node can be moved while the tree is
under construction.

* `Dom` — the nodes, with `append`, `insertBefore`, `detach` and the like;
* `Markup` — a finished tree.
-/

namespace PostPress.Html

/-- The vocabulary of an element. -/
inductive Space
  /-- HTML. -/
  | html
  /-- SVG. -/
  | svg
  /-- MathML. -/
  | mathml
deriving DecidableEq, Repr

/-- What a node of a tree under construction is. -/
inductive DomKind
  /-- The document, or the content of a template. -/
  | fragment
  /-- An element; a template has a node for its content if that is kept apart. -/
  | element (space : Space) (name : String) (attrs : List Attribute) (content : Option Nat)
  /-- A text. -/
  | text (chars : List Char)
  /-- A comment. -/
  | comment
deriving Repr

/-- A node of a tree under construction. -/
structure DomNode where
  /-- What the node is. -/
  kind : DomKind
  /-- The number of its parent. -/
  parent : Option Nat
  /-- The numbers of its children. -/
  children : List Nat
deriving Repr

/-- A tree under construction. -/
structure Dom where
  /-- The nodes by number. -/
  nodes : Array DomNode
  /-- Whether the content of templates is kept apart from the tree. -/
  templatesApart : Bool
deriving Repr

/-- The number of the document. -/
def Dom.document : Nat := 0

namespace Dom

/-- A tree of nothing but the document. -/
def empty (templatesApart : Bool) : Dom := ⟨#[⟨.fragment, none, []⟩], templatesApart⟩

/-- The node of a number. -/
def node (dom : Dom) (id : Nat) : DomNode := dom.nodes.getD id ⟨.comment, none, []⟩

/-- Change the node of a number. -/
def modify (dom : Dom) (id : Nat) (f : DomNode → DomNode) : Dom :=
  { dom with nodes := dom.nodes.modify id f }

/-- Add a node without a parent. -/
def create (dom : Dom) (kind : DomKind) : Nat × Dom :=
  (dom.nodes.size, { dom with nodes := dom.nodes.push ⟨kind, none, []⟩ })

/-- Add an element without a parent. -/
def createElement (dom : Dom) (space : Space) (name : String) (attrs : List Attribute) :
    Nat × Dom :=
  if dom.templatesApart && space = .html && name = "template" then
    let (content, dom) := dom.create .fragment
    dom.create (.element space name attrs (some content))
  else dom.create (.element space name attrs none)

/-- The parent of a node. -/
def parent? (dom : Dom) (id : Nat) : Option Nat := (dom.node id).parent

/-- The vocabulary and the name of an element. -/
def name? (dom : Dom) (id : Nat) : Option (Space × String) :=
  match (dom.node id).kind with
  | .element space name _ _ => some (space, name)
  | _ => none

/-- The attributes of an element. -/
def attributes (dom : Dom) (id : Nat) : List Attribute :=
  match (dom.node id).kind with
  | .element _ _ attrs _ => attrs
  | _ => []

/-- The node that holds what is put into an element: itself, or the content of a
template. -/
def contentOf (dom : Dom) (id : Nat) : Nat :=
  match (dom.node id).kind with
  | .element _ _ _ (some content) => content
  | _ => id

/-- Give an element the attributes of a list that it does not have yet. -/
def addMissing (dom : Dom) (id : Nat) (attrs : List Attribute) : Dom :=
  dom.modify id fun node =>
    match node.kind with
    | .element space name own content =>
        let added := attrs.filter fun attr =>
          !own.any fun o => o.name == attr.name && o.space == attr.space
        { node with kind := .element space name (own ++ added) content }
    | _ => node

/-- Take a node out of its parent. -/
def detach (dom : Dom) (id : Nat) : Dom :=
  match dom.parent? id with
  | none => dom
  | some parent =>
      (dom.modify parent fun p => { p with children := p.children.filter (· ≠ id) }).modify id
        fun node => { node with parent := none }

/-- Put a node behind the children of another. -/
def append (dom : Dom) (parent id : Nat) : Dom :=
  ((dom.detach id).modify parent fun p => { p with children := p.children ++ [id] }).modify id
    fun node => { node with parent := some parent }

/-- Add characters to a text. -/
def extendText (dom : Dom) (id : Nat) (chars : List Char) : Dom :=
  dom.modify id fun node =>
    match node.kind with
    | .text own => { node with kind := .text (own ++ chars) }
    | _ => node

/-- Whether a node is a text. -/
def isText (dom : Dom) (id : Nat) : Bool :=
  match (dom.node id).kind with
  | .text _ => true
  | _ => false

/-- Put characters behind the children of a node, into the last one if that is a
text. -/
def appendText (dom : Dom) (parent : Nat) (chars : List Char) : Dom :=
  match (dom.node parent).children.getLast? with
  | some last =>
      if dom.isText last then dom.extendText last chars
      else
        let (id, dom) := dom.create (.text chars)
        dom.append parent id
  | none =>
      let (id, dom) := dom.create (.text chars)
      dom.append parent id

/-- A list with an element put right before another one. -/
def insertBeforeIn (sibling id : Nat) : List Nat → List Nat
  | [] => []
  | c :: rest => if c = sibling then id :: c :: rest else c :: insertBeforeIn sibling id rest

/-- Put a node right before a sibling; nothing happens if that has no parent. -/
def insertBefore (dom : Dom) (sibling id : Nat) : Dom :=
  match dom.parent? sibling with
  | none => dom
  | some parent =>
      ((dom.detach id).modify parent fun p =>
        { p with children := insertBeforeIn sibling id p.children }).modify id
          fun node => { node with parent := some parent }

/-- The child right before another one. -/
def previousIn (sibling : Nat) : List Nat → Option Nat
  | c :: d :: rest => if d = sibling then some c else previousIn sibling (d :: rest)
  | _ => none

/-- Put characters right before a sibling, into the text before it if there is
one. -/
def insertTextBefore (dom : Dom) (sibling : Nat) (chars : List Char) : Dom :=
  match dom.parent? sibling with
  | none => dom
  | some parent =>
      match previousIn sibling (dom.node parent).children with
      | some before =>
          if dom.isText before then dom.extendText before chars
          else
            let (id, dom) := dom.create (.text chars)
            dom.insertBefore sibling id
      | none =>
          let (id, dom) := dom.create (.text chars)
          dom.insertBefore sibling id

/-- Move the children of a node behind those of another. -/
def moveChildren (dom : Dom) (source target : Nat) : Dom :=
  let moved := (dom.node source).children
  let dom := moved.foldl (fun dom id => dom.modify id fun n => { n with parent := some target }) dom
  (dom.modify source fun n => { n with children := [] }).modify target fun n =>
    { n with children := n.children ++ moved }

end Dom

/-- A finished tree of markup. -/
inductive Markup
  /-- An element. -/
  | element (space : Space) (name : String) (attrs : List Attribute) (children : List Markup)
  /-- A text. -/
  | text (chars : List Char)
  /-- A comment. -/
  | comment
deriving Inhabited, Repr

namespace Dom

/-- The finished tree of a node, through at most `depth` levels. -/
def toMarkup (dom : Dom) : (depth : Nat) → Nat → List Markup
  | 0, _ => []
  | depth + 1, id =>
      match (dom.node id).kind with
      | .fragment => []
      | .comment => [.comment]
      | .text chars => [.text chars]
      | .element space name attrs _ =>
          [.element space name attrs ((dom.node id).children.flatMap (dom.toMarkup depth))]

/-- The finished trees of the children of a node. No path is longer than there
are nodes. -/
def childrenToMarkup (dom : Dom) (id : Nat) : List Markup :=
  (dom.node id).children.flatMap (dom.toMarkup dom.nodes.size)

end Dom

end PostPress.Html
