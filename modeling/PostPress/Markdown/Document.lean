import PostPress.Markdown.Block.Reader
import PostPress.Markdown.Inline.Scan

/-!
# PostPress.Markdown.Document

Reading the source of a document.

* `Metadata.ofLines` — the data in front of a document, between two fences;
* `Known.ofBlocks` — the labels that a document defines;
* `readTask` — the mark of a task in front of a paragraph;
* `read` — a source as a construct.

Texts are read after all blocks, since a label may be used before it is defined.
-/

namespace PostPress.Markdown

/-! ### Metadata -/

/-- The data in front of a document. -/
inductive Metadata
  /-- There is none. -/
  | absent
  /-- It begins, but does not end. -/
  | unclosed
  /-- It is there, and lines follow. -/
  | found (value : String) (rest : List Line)

/-- Whether a line is a fence around data: three marks, and a gap behind them. -/
def isMetadataFence (mark : Char) (line : Line) : Bool :=
  line.text.take 3 == [mark, mark, mark] && isGapOnly (line.text.drop 3)

/-- The data that lines begin with. Two lines of three hyphens, or of three plus
signs, stand around it. -/
def Metadata.ofLines : List Line → Metadata
  | [] => .absent
  | first :: rest =>
      match ['-', '+'].find? fun mark => isMetadataFence mark first with
      | none => .absent
      | some mark =>
          let inner := rest.takeWhile fun line => !isMetadataFence mark line
          match rest.drop inner.length with
          | _ :: after => .found (String.ofList (Line.joinOpen inner)) after
          | [] => if first.ending.isEmpty then .absent else .unclosed

/-! ### Labels -/

mutual

/-- The identifiers of the definitions, and of the footnotes, in a block. -/
def collectLabels : Block → List String × List String
  | .definition definition => ([identifier definition.label], [])
  | .footnote label children =>
      let (links, notes) := collectLabelsList children
      (links, identifier label :: notes)
  | .quote children | .list _ _ children | .item _ children => collectLabelsList children
  | .paragraph _ | .heading .. | .thematicBreak | .code .. | .table .. | .flow _ => ([], [])

/-- The identifiers of the definitions, and of the footnotes, in blocks. -/
def collectLabelsList : List Block → List String × List String
  | [] => ([], [])
  | block :: rest =>
      let (links, notes) := collectLabels block
      let (moreLinks, moreNotes) := collectLabelsList rest
      (links ++ moreLinks, notes ++ moreNotes)

end

/-- What the blocks of a document define. -/
def Known.ofBlocks (blocks : List Block) : Known :=
  let (links, notes) := collectLabelsList blocks
  ⟨links, notes, false⟩

/-! ### Tasks -/

/-- The mark of a task in front of a text, and the text after it: whether the
task is done, in brackets, with a blank and more text behind them. -/
def readTask : List Char → Option (Bool × List Char)
  | '[' :: c :: ']' :: rest =>
      let checked? :=
        if c = 'x' ∨ c = 'X' then some true
        else if isSpacing c then some false
        else none
      let follows :=
        match rest with
        | next :: _ => isLineEnd next || (isGap next && !isGapOnly rest)
        | [] => false
      if follows then checked?.map fun checked => (checked, rest) else none
  | _ => none

/-- The mark of the task that an item is: in front of its first paragraph, which
nothing but definitions precede. -/
def itemTask : List Block → Option Bool
  | .definition _ :: rest => itemTask rest
  | .paragraph passage :: _ => (readTask passage.chars).map Prod.fst
  | _ => none

/-- A text without the blank in front. -/
def dropBlank (text : List Char) : List Char :=
  match lineEnd? text, text with
  | some (_, rest), _ => rest
  | none, c :: rest => if isGap c then rest else c :: rest
  | none, [] => []

/-- Constructs without the blank in front of the first one, a text that is empty
without it left out. -/
def dropFirstBlank : List Construct → List Construct
  | .text value :: rest =>
      match dropBlank value.toList with
      | [] => rest
      | chars => .text (String.ofList chars) :: rest
  | constructs => constructs

/-- Where a block stands, as far as the mark of a task in it goes. -/
inductive Place
  /-- First in an item. -/
  | itemStart
  /-- In an item, with nothing but definitions before it. -/
  | afterDefinitions
  /-- Anywhere else. -/
  | elsewhere
deriving DecidableEq, Repr

/-- The place after a block. -/
def Place.next (place : Place) : Block → Place
  | .definition _ => if place = .elsewhere then .elsewhere else .afterDefinitions
  | _ => .elsewhere

/-- The text of a paragraph as constructs. The mark of a task is no part of it,
nor is the blank behind the mark if the paragraph is first in its item. -/
def readParagraph (known : Known) (place : Place) (passage : Passage) :
    Except SourceError (List Construct) :=
  match if place = .elsewhere then none else readTask passage.chars with
  | some (_, rest) => do
      let constructs ← tokenize known (passage.withEnd rest) >>= finish ⟨false, true⟩ false
      return if place = .itemStart then dropFirstBlank constructs else constructs
  | none => readInline known passage

/-! ### Blocks -/

/-- The rows of a table as constructs. -/
def readRows (known : Known) (rows : List (List Passage)) :
    Except SourceError (List Construct) :=
  rows.mapM fun cells =>
    (cells.mapM fun cell => (readInline { known with inTable := true } cell).map .cell).map .row

mutual

/-- A block as a construct or a tag. -/
def readBlock (known : Known) (place : Place) : Block → Except SourceError Piece
  | .paragraph text => do return .construct (.paragraph (← readParagraph known place text))
  | .heading depth text => do return .construct (.heading depth (← readInline known text))
  | .thematicBreak => .ok (.construct .thematicBreak)
  | .code language value => .ok (.construct (.codeBlock language value))
  | .quote children => do
      return .construct (.quote (← nest (← readBlockList known .elsewhere children)))
  | .list start spread items => do
      return .construct (.list start spread (← nest (← readBlockList known .elsewhere items)))
  | .item spread children => do
      let constructs ← nest (← readBlockList known .itemStart children)
      return .construct (.item (itemTask children) spread constructs)
  | .definition definition =>
      .ok (.construct (.definition (identifier definition.label) definition.target.url
        definition.target.title))
  | .footnote label children => do
      let constructs ← nest (← readBlockList known .elsewhere children)
      return .construct (.footnoteDefinition (identifier label) constructs)
  | .table columns rows => do return .construct (.table columns (← readRows known rows))
  | .flow (.tag tag) => .ok (.tag tag)
  | .flow (.expression value) => .ok (.construct (.expression value))

/-- Blocks as constructs and tags. -/
def readBlockList (known : Known) (place : Place) :
    List Block → Except SourceError (List Piece)
  | [] => .ok []
  | block :: rest => do
      let piece ← readBlock known place block
      return piece :: (← readBlockList known (place.next block) rest)

end

/-! ### Documents -/

/-- The mark that may stand in front of a text to tell how it is encoded. -/
def byteOrderMark : Char := '\ufeff'

/-- A source as a construct. Where data begins but does not end, the lines are in no
containers. -/
def read (source : String) : Except SourceError Construct := do
  let chars :=
    match source.toList with
    | c :: rest => if c = byteOrderMark then rest else c :: rest
    | [] => []
  let lines := Line.split chars
  let (metadata, blocks) : List Construct × List Block ←
    match Metadata.ofLines lines with
    | .absent => (readBlocks lines).map ([], ·)
    | .unclosed => (readPlainBlocks lines).map ([], ·)
    | .found value rest => (readBlocks rest).map ([.metadata value], ·)
  let constructs ← nest (← readBlockList (Known.ofBlocks blocks) .elsewhere blocks)
  return .document (metadata ++ constructs)

end PostPress.Markdown
