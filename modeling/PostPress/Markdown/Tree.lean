import PostPress.Footnote
import PostPress.Markdown.Construct
import PostPress.Markdown.Target

/-!
# PostPress.Markdown.Tree

From the constructs of a source to a document tree.

* `References` — the targets of a document, and its footnotes in the order of
  their first references;
* `Construct.convert` — a construct as nodes;
* `Construct.toTree` — a document as a tree, its footnotes in a section at the
  end.

Definitions, expressions and data about the document leave no nodes. A component
becomes a foreign node, a fragment just what it wraps.
-/

namespace PostPress.Markdown

namespace Construct

/-! ### What a document defines -/

mutual

/-- The targets that a construct defines, in document order. -/
def targets : Construct → List (String × Target)
  | .definition identifier url title => [(identifier, ⟨url, title⟩)]
  | .document children | .paragraph children | .heading _ children | .quote children
  | .list _ _ children | .item _ _ children | .table _ children | .row children | .cell children
  | .footnoteDefinition _ children | .emphasis children | .strong children
  | .strikethrough children | .link _ _ children | .linkReference _ children
  | .component _ children => targetsList children
  | .thematicBreak | .codeBlock .. | .metadata _ | .text _ | .codeSpan _ | .lineBreak
  | .image .. | .imageReference .. | .footnoteReference .. | .expression _ => []

/-- The targets that the constructs of a list define. -/
def targetsList : List Construct → List (String × Target)
  | [] => []
  | construct :: rest => targets construct ++ targetsList rest

end

mutual

/-- The footnotes that a construct defines, in document order. -/
def notes : Construct → List (String × List Construct)
  | .footnoteDefinition identifier children => (identifier, children) :: notesList children
  | .document children | .paragraph children | .heading _ children | .quote children
  | .list _ _ children | .item _ _ children | .table _ children | .row children | .cell children
  | .emphasis children | .strong children | .strikethrough children | .link _ _ children
  | .linkReference _ children | .component _ children => notesList children
  | .thematicBreak | .codeBlock .. | .definition .. | .metadata _ | .text _ | .codeSpan _
  | .lineBreak | .image .. | .imageReference .. | .footnoteReference .. | .expression _ => []

/-- The footnotes that the constructs of a list define. -/
def notesList : List Construct → List (String × List Construct)
  | [] => []
  | construct :: rest => notes construct ++ notesList rest

end

mutual

/-- The identifiers of the references to footnotes in a construct, in document
order. -/
def noteReferences : Construct → List String
  | .footnoteReference identifier _ => [identifier]
  | .document children | .paragraph children | .heading _ children | .quote children
  | .list _ _ children | .item _ _ children | .table _ children | .row children | .cell children
  | .footnoteDefinition _ children | .emphasis children | .strong children
  | .strikethrough children | .link _ _ children | .linkReference _ children
  | .component _ children => noteReferencesList children
  | .thematicBreak | .codeBlock .. | .definition .. | .metadata _ | .text _ | .codeSpan _
  | .lineBreak | .image .. | .imageReference .. | .expression _ => []

/-- The identifiers of the references to footnotes in the constructs of a list. -/
def noteReferencesList : List Construct → List String
  | [] => []
  | construct :: rest => noteReferences construct ++ noteReferencesList rest

end

end Construct

/-- What the references of a document lead to. -/
structure References where
  /-- The targets. The first one of an identifier counts. -/
  targets : List (String × Target)
  /-- The footnotes. The first one of an identifier counts. -/
  notes : List (String × List Construct)
  /-- The identifiers of the footnotes that are referred to, in the order of
  their first references. -/
  order : List String

namespace References

/-- The references of a document. -/
def ofConstruct (construct : Construct) : References :=
  let notes := construct.notes
  let order := construct.noteReferences.eraseDups.filter fun identifier =>
    (notes.lookup identifier).isSome
  ⟨construct.targets, notes, order⟩

/-- The number of a footnote. -/
def number? (references : References) (identifier : String) : Option Nat :=
  (references.order.findIdx? (· == identifier)).map (· + 1)

end References

/-! ### Nodes of single constructs -/

/-- The attributes of a link or an image at a target. -/
def targetAttributes (name : String) (target : Target) : Attributes :=
  let attrs := Attributes.ofList [(name, .text target.url)]
  match target.title with
  | some title => attrs.insert "title" (.text title)
  | none => attrs

/-- A link to a target. -/
def linkNode (target : Target) (children : List Node) : Node :=
  .element "a" (targetAttributes "href" target) children

/-- The image at a target, with the text that stands for it. -/
def imageNode (target : Target) (alt : String) : Node :=
  .element "img" ((targetAttributes "src" target).insert "alt" (.text alt)) []

/-- A block of code. A line end closes its last line. -/
def codeNode (language : Option String) (value : String) : Node :=
  let attrs : Attributes :=
    match language.filter fun name => !name.isEmpty with
    | some name => .ofList [("class", .tokens ["language-" ++ name])]
    | none => ∅
  .plain "pre" [.element "code" attrs [.text (value ++ "\n")]]

/-- The tag of a heading; one that is too deep is as deep as possible. -/
def headingTag (depth : Nat) : String := "h" ++ (max 1 (min depth 6)).repr

/-- The box in front of a task, and the space behind it. -/
def taskNodes (checked : Bool) : List Node :=
  let attrs := Attributes.ofList [("type", .text "checkbox"), ("disabled", .text "")]
  let attrs := if checked then attrs.insert "checked" (.text "") else attrs
  [.element "input" attrs [], .text " "]

/-- An item of a list. -/
def itemNode (checked : Option Bool) (children : List Node) : Node :=
  match checked with
  | some checked =>
      .element "li" (.ofList [("class", .tokens ["task-list-item"])])
        (taskNodes checked ++ children)
  | none => .plain "li" children

/-- Whether a construct is an item that is a task. -/
def isTask : Construct → Bool
  | .item (some _) _ _ => true
  | _ => false

/-- Whether a construct is an item with a blank line between its parts. -/
def isSpreadItem : Construct → Bool
  | .item _ spread _ => spread
  | _ => false

/-- A list: ordered if it starts with a number, which is written unless it is
one, and of tasks if an item is one. -/
def listNode (start : Option Nat) (hasTasks : Bool) (items : List Node) : Node :=
  let attrs : Attributes :=
    match start with
    | some number => if number = 1 then ∅ else .ofList [("start", .text number.repr)]
    | none => ∅
  let attrs :=
    if hasTasks then attrs.insert "class" (.tokens ["contains-task-list"]) else attrs
  .element (if start.isSome then "ol" else "ul") attrs items

/-- The name of an alignment. -/
def Alignment.name : Alignment → String
  | .left => "left"
  | .right => "right"
  | .center => "center"

/-- A cell of a table. -/
def cellNode (tag : String) (alignment : Option Alignment) (children : List Node) : Node :=
  match alignment with
  | some alignment => .element tag (.ofList [("align", .text alignment.name)]) children
  | none => .plain tag children

/-- A table of the rows of its head and of its body. -/
def tableNode (head body : List Node) : Node :=
  .plain "table" (.plain "thead" head :: if body.isEmpty then [] else [.plain "tbody" body])

/-! ### Conversion -/

namespace Construct

mutual

/-- A construct as nodes. `tight` says that it is a part of an item in a list
without blank lines, where paragraphs are just their text. `seen` holds the
numbers of the footnotes that were referred to before; the new ones are added. -/
def convert (references : References) (tight : Bool) : Construct → List Nat →
    List Node × List Nat
  | .document children, seen => (convertAll references false children seen).map ([.root ·]) id
  | .paragraph children, seen =>
      (convertAll references false children seen).map
        (fun nodes => if tight then nodes else [.plain "p" nodes]) id
  | .heading depth children, seen =>
      (convertAll references false children seen).map ([.plain (headingTag depth) ·]) id
  | .thematicBreak, seen => ([.plain "hr" []], seen)
  | .codeBlock language value, seen => ([codeNode language value], seen)
  | .quote children, seen =>
      (convertAll references false children seen).map ([.plain "blockquote" ·]) id
  | .list start spread children, seen =>
      let tight := !(spread || children.any isSpreadItem)
      (convertItems references tight children seen).map
        ([listNode start (children.any isTask) ·]) id
  | .item .., seen | .row _, seen | .cell _, seen => ([], seen)
  | .table columns children, seen =>
      match children with
      | .row cells :: rows =>
          let (head, seen) := convertCells references "th" columns cells seen
          (convertRows references columns rows seen).map
            ([tableNode [.plain "tr" head] ·]) id
      | _ :: rows => (convertRows references columns rows seen).map ([tableNode [] ·]) id
      | [] => ([tableNode [] []], seen)
  | .definition .., seen | .footnoteDefinition .., seen | .metadata _, seen
  | .expression _, seen => ([], seen)
  | .text value, seen => ([.text value], seen)
  | .emphasis children, seen =>
      (convertAll references false children seen).map ([.plain "em" ·]) id
  | .strong children, seen =>
      (convertAll references false children seen).map ([.plain "strong" ·]) id
  | .strikethrough children, seen =>
      (convertAll references false children seen).map ([.plain "del" ·]) id
  | .codeSpan value, seen => ([.plain "code" [.text value]], seen)
  | .lineBreak, seen => ([.plain "br" []], seen)
  | .link url title children, seen =>
      (convertAll references false children seen).map ([linkNode ⟨url, title⟩ ·]) id
  | .image url title alt, seen => ([imageNode ⟨url, title⟩ alt], seen)
  | .linkReference identifier children, seen =>
      (convertAll references false children seen).map
        (fun nodes =>
          match references.targets.lookup identifier with
          | some target => [linkNode target nodes]
          | none => nodes) id
  | .imageReference identifier alt, seen =>
      match references.targets.lookup identifier with
      | some target => ([imageNode target alt], seen)
      | none => ([.text alt], seen)
  | .footnoteReference identifier label, seen =>
      match references.number? identifier with
      | some number =>
          if seen.contains number then ([Footnote.reference number false], seen)
          else ([Footnote.reference number true], number :: seen)
      | none => ([.text ("[^" ++ label.getD identifier ++ "]")], seen)
  | .component name children, seen =>
      (convertAll references false children seen).map
        (fun nodes =>
          match name with
          | some name => [.foreign name nodes]
          | none => nodes) id

/-- Constructs as nodes. -/
def convertAll (references : References) (tight : Bool) : List Construct → List Nat →
    List Node × List Nat
  | [], seen => ([], seen)
  | construct :: rest, seen =>
      let (nodes, seen) := convert references tight construct seen
      (convertAll references tight rest seen).map (nodes ++ ·) id

/-- The items of a list as nodes. -/
def convertItems (references : References) (tight : Bool) : List Construct → List Nat →
    List Node × List Nat
  | [], seen => ([], seen)
  | .item checked _ children :: rest, seen =>
      let (nodes, seen) := convertAll references tight children seen
      (convertItems references tight rest seen).map (itemNode checked nodes :: ·) id
  | _ :: rest, seen => convertItems references tight rest seen

/-- The rows below the head of a table as nodes. -/
def convertRows (references : References) (columns : List (Option Alignment)) :
    List Construct → List Nat → List Node × List Nat
  | [], seen => ([], seen)
  | .row cells :: rest, seen =>
      let (nodes, seen) := convertCells references "td" columns cells seen
      (convertRows references columns rest seen).map (.plain "tr" nodes :: ·) id
  | _ :: rest, seen => convertRows references columns rest seen

/-- The cells of a row as nodes, aligned like their columns. -/
def convertCells (references : References) (tag : String) :
    List (Option Alignment) → List Construct → List Nat → List Node × List Nat
  | _, [], seen => ([], seen)
  | columns, .cell children :: rest, seen =>
      let (nodes, seen) := convertAll references false children seen
      (convertCells references tag columns.tail rest seen).map
        (cellNode tag columns.head?.join nodes :: ·) id
  | columns, _ :: rest, seen => convertCells references tag columns.tail rest seen

end

/-- The footnotes with the given identifiers as items, numbered from a number. -/
def convertNotes (references : References) : Nat → List String → List Nat → List Node
  | _, [], _ => []
  | number, identifier :: rest, seen =>
      match references.notes.lookup identifier with
      | some content =>
          let (nodes, seen) := convertAll references false content seen
          Footnote.item number nodes :: convertNotes references (number + 1) rest seen
      | none => convertNotes references (number + 1) rest seen

/-- The body of a document as a tree: its last node stands for all. -/
def bodyNodes : List Node → List Node
  | [] => []
  | [.root children] => children
  | [node] => [node]
  | _ :: rest => bodyNodes rest

/-- A document as a tree. -/
def toTree (construct : Construct) : Node :=
  let references := References.ofConstruct construct
  let (nodes, seen) := construct.convert references false []
  let items := convertNotes references 1 references.order seen
  .root (bodyNodes nodes ++
    if references.order.isEmpty then [] else [Footnote.sectionOf items])

end Construct

end PostPress.Markdown
