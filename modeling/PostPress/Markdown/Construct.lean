/-!
# PostPress.Markdown.Construct

What the source of a document says, before it becomes a document tree: the
constructs of Markdown, with components and expressions among them.

* `Alignment` — the alignment of a table column;
* `Construct` — a construct and what it holds;
* `Construct.plainText` — the text of a construct without its markup.
-/

namespace PostPress.Markdown

/-- The side to which the cells of a table column are aligned. -/
inductive Alignment
  /-- To the left. -/
  | left
  /-- To the right. -/
  | right
  /-- To the middle. -/
  | center
deriving DecidableEq, Repr

/-- A construct of the source. Identifiers name the target of a reference, or a
footnote; two labels that differ in case or blanks only have one identifier. -/
inductive Construct
  /-- A whole document. -/
  | document (children : List Construct)
  /-- A paragraph. -/
  | paragraph (children : List Construct)
  /-- A heading. -/
  | heading (depth : Nat) (children : List Construct)
  /-- A line across the page. -/
  | thematicBreak
  /-- A block of code, with the language it is said to be in. -/
  | codeBlock (language : Option String) (value : String)
  /-- A quotation. -/
  | quote (children : List Construct)
  /-- A list of items; the items of an ordered list are counted from a number. A
  list is spread if a blank line stands between two of its items. -/
  | list (start : Option Nat) (spread : Bool) (children : List Construct)
  /-- An item of a list, which may be a task that is done or not. An item is
  spread if a blank line stands between two of its parts. -/
  | item (checked : Option Bool) (spread : Bool) (children : List Construct)
  /-- A table, with the alignment of each column. -/
  | table (columns : List (Option Alignment)) (children : List Construct)
  /-- A row of a table. -/
  | row (children : List Construct)
  /-- A cell of a table. -/
  | cell (children : List Construct)
  /-- The target that references to an identifier lead to. -/
  | definition (identifier url : String) (title : Option String)
  /-- The text of a footnote. -/
  | footnoteDefinition (identifier : String) (children : List Construct)
  /-- Data about the document, in front of it. -/
  | metadata (value : String)
  /-- A run of text. -/
  | text (value : String)
  /-- Emphasised text. -/
  | emphasis (children : List Construct)
  /-- Strongly emphasised text. -/
  | strong (children : List Construct)
  /-- Struck text. -/
  | strikethrough (children : List Construct)
  /-- Code within a line. -/
  | codeSpan (value : String)
  /-- A line break. -/
  | lineBreak
  /-- A link. -/
  | link (url : String) (title : Option String) (children : List Construct)
  /-- An image, with the text that stands for it. -/
  | image (url : String) (title : Option String) (alt : String)
  /-- A link to the target of an identifier. -/
  | linkReference (identifier : String) (children : List Construct)
  /-- An image at the target of an identifier. -/
  | imageReference (identifier alt : String)
  /-- A reference to a footnote, with the label as it is written. -/
  | footnoteReference (identifier : String) (label : Option String)
  /-- A component and what it wraps; a fragment has no name. -/
  | component (name : Option String) (children : List Construct)
  /-- An expression that a program would evaluate. -/
  | expression (value : String)
deriving Repr, Inhabited

namespace Construct

/-- The constructs directly inside a construct. -/
def children : Construct → List Construct
  | .document children | .paragraph children | .heading _ children | .quote children
  | .list _ _ children | .item _ _ children | .table _ children | .row children | .cell children
  | .footnoteDefinition _ children | .emphasis children | .strong children
  | .strikethrough children | .link _ _ children | .linkReference _ children
  | .component _ children => children
  | .thematicBreak | .codeBlock .. | .definition .. | .metadata _ | .text _ | .codeSpan _
  | .lineBreak | .image .. | .imageReference .. | .footnoteReference .. | .expression _ => []

mutual

/-- The text of a construct without its markup. Images and references to
footnotes have none. -/
def plainText : Construct → String
  | .text value | .codeSpan value | .codeBlock _ value | .expression value | .metadata value =>
      value
  | .document children | .paragraph children | .heading _ children | .quote children
  | .list _ _ children | .item _ _ children | .table _ children | .row children | .cell children
  | .footnoteDefinition _ children | .emphasis children | .strong children
  | .strikethrough children | .link _ _ children | .linkReference _ children
  | .component _ children => plainTextList children
  | .thematicBreak | .definition .. | .lineBreak | .image .. | .imageReference ..
  | .footnoteReference .. => ""

/-- The texts of the constructs in a list, joined. -/
def plainTextList : List Construct → String
  | [] => ""
  | construct :: rest => plainText construct ++ plainTextList rest

end

end Construct

end PostPress.Markdown
