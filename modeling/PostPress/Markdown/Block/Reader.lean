import PostPress.Markdown.Block.Container

/-!
# PostPress.Markdown.Block.Reader

Reading the lines of a document into blocks.

* `Leaf`, `Reader` — the block that the next line may go on with, and all that is
  open between two lines;
* `Reader.addText`, `Reader.addLine` — a line within its containers;
* `Reader.read` — a line of the source;
* `readBlocks`, `readPlainBlocks` — lines as blocks, with containers or without.

A line first keeps containers open, then may begin new ones; the rest of it
belongs to the innermost one. A line of plain text goes on with a paragraph even
outside the containers of the paragraph.
-/

namespace PostPress.Markdown

/-- The block that the next line may go on with. -/
inductive Leaf
  /-- None. -/
  | none
  /-- Text: an underline above it that underlines nothing, and its lines, last one
  first. Each says whether it could head a table. -/
  | text (above : Option InnerLine) (lines : List (InnerLine × Bool))
  /-- None, after the underline of a heading. -/
  | underlined
  /-- A table: the alignments of the columns, and the rows, last one first. -/
  | table (columns : List (Option Alignment)) (rows : List (List Passage))
  /-- Code: its fence, the code so far, and the end of the last line. -/
  | code (fence : Fence) (body ending : List Char)
deriving Repr

namespace Leaf

/-- Whether a line of plain text outside the containers goes on inside. -/
def acceptsLazy : Leaf → Bool
  | .text .. | .underlined => true
  | _ => false

/-- Whether the leaf is code. -/
def isCode : Leaf → Bool
  | .code .. => true
  | _ => false

end Leaf

/-- What is open between two lines. -/
structure Reader where
  /-- The innermost container. -/
  frame : Frame
  /-- The containers around it, innermost first. -/
  outer : List Frame
  /-- The block that the next line may go on with. -/
  leaf : Leaf
  /-- Lines of tags and expressions that are not complete, last one first. -/
  flow : List InnerLine
  /-- Whether the last line was blank; if so, whether it was the first one of an
  item. -/
  blank : Option Bool
  /-- Whether a list in the next line would interrupt text. Tags and expressions do
  not change this, nor do containers that begin. -/
  inText : Bool
deriving Repr

/-- A text without one line end in front. -/
def dropLineEnd (text : List Char) : List Char :=
  match lineEnd? text with
  | some (_, rest) => rest
  | none => text

/-- A text without one line end behind it. -/
def dropLastLineEnd (text : List Char) : List Char :=
  match text.reverse with
  | '\n' :: '\r' :: rest | '\n' :: rest | '\r' :: rest => rest.reverse
  | _ => text

/-- How often lines can be taken for flow and turn out to be none. -/
def flowRounds (lines : Nat) : Nat := 3 * (lines + 2) * (lines + 2)

/-- The blocks that lines of text make up: those before the last paragraph, and that
paragraph. Definitions stand in front of it, and an underline above them is a
paragraph; above the paragraph it is part of it. -/
def blocksOfText (above : Option InnerLine) (lines : List InnerLine) :
    List Block × Option Passage :=
  let passage := Passage.ofLines lines
  let (definitions, rest) := takeDefinitions passage.chars
  let blocks := definitions.map Block.definition
  let paragraph := if rest.isEmpty then none else some (passage.withEnd rest)
  match above with
  | none => (blocks, paragraph)
  | some line =>
      if blocks.isEmpty then ([], some (.ofLines (line :: lines)))
      else (.paragraph (.ofLines [line]) :: blocks, paragraph)

namespace Reader

/-- The reader before the first line. -/
def start : Reader := ⟨.new .document, [], .none, [], none, false⟩

/-- The reader with another block. -/
def push (reader : Reader) (block : Block) : Reader :=
  { reader with frame := reader.frame.push block }

/-- The reader with other blocks. -/
def pushAll (reader : Reader) (blocks : List Block) : Reader := blocks.foldl push reader

/-! ### Completing blocks -/

/-- The reader with the lines of a text, last one first, as blocks. -/
def pushText (reader : Reader) (above : Option InnerLine) (lines : List (InnerLine × Bool)) :
    Reader :=
  let (blocks, paragraph) := blocksOfText above (lines.reverse.map Prod.fst)
  reader.pushAll (blocks ++ (paragraph.map Block.paragraph).toList)

/-- The reader with its leaf complete. The end of the last line belongs to code
unless the next line is outside the containers. -/
def endLeaf (reader : Reader) (outside : Bool) : Reader :=
  let done := { reader with leaf := .none }
  match reader.leaf with
  | .none | .underlined => done
  | .text above lines => done.pushText above lines
  | .table columns rows => done.push (.table columns rows.reverse)
  | .code fence body ending =>
      let body := if outside then body else body ++ ending
      done.push (.code fence.language (String.ofList (dropLastLineEnd (dropLineEnd body))))

/-! ### Lines within their containers -/

/-- The reader after a blank line before which no container ended. -/
def settleBlank (reader : Reader) : Reader :=
  match reader.blank with
  | some false => { reader with frame := reader.frame.noteBlank true, blank := none }
  | _ => { reader with blank := none }

/-- The reader after a line that is no text. -/
def leaveText (reader : Reader) : Reader := { reader with inText := false }

/-- The reader with a line of plain text. -/
def addText (reader : Reader) (line : InnerLine) (row : Bool) : Reader :=
  match reader.leaf with
  | .text above lines => { reader with leaf := .text above ((line, row) :: lines), inText := true }
  | _ => { reader.endLeaf false with leaf := .text none [(line, row)], inText := true }

/-- The reader with the underline of a heading. Below nothing but definitions, and
below another underline, it is plain text. -/
def addUnderline (reader : Reader) (depth : Nat) (line : InnerLine) : Reader :=
  let asText (reader : Reader) : Reader := { reader with leaf := .text (some line) [] }
  let reader := reader.leaveText
  match reader.leaf with
  | .text above lines =>
      let (blocks, paragraph) := blocksOfText above (lines.reverse.map Prod.fst)
      let reader := reader.pushAll blocks
      match paragraph with
      | some passage => { reader.push (.heading depth passage) with leaf := .underlined }
      | none => asText reader
  | _ => asText reader

/-- The table that a row of alignments begins below the last line of text. -/
def beginTable? (reader : Reader) (text : List Char) : Option Reader :=
  match reader.leaf with
  | .text above ((head, true) :: lines) =>
      (headCells head.cursor.before head.text).bind fun cells =>
        (readDelimiters text).bind fun columns =>
          if columns.length = cells.length then
            let reader := { reader.leaveText with leaf := .none }
            let reader :=
              if above.isNone && lines.isEmpty then reader else reader.pushText above lines
            some { reader with leaf := .table columns [cells] }
          else none
  | _ => none

/-- Whether the last line was the first one of an item that is empty. -/
def atEmptyItem (reader : Reader) : Bool :=
  match reader.frame.container with
  | .item _ _ empty => empty
  | _ => false

/-- The reader with a line that begins neither code nor flow, and is no part of
them. -/
def addOpening (reader : Reader) (line : InnerLine) (opening : Opening) : Reader :=
  match opening with
  | .blank => { (reader.endLeaf false).leaveText with blank := some reader.atEmptyItem }
  | .heading depth text => (reader.endLeaf false).leaveText.push (.heading depth text)
  | .thematicBreak => (reader.endLeaf false).leaveText.push .thematicBreak
  | .fence fence => { reader.endLeaf false with leaf := .code fence [] line.ending }
  | .text row =>
      match row, reader.leaf with
      | true, .table columns rows =>
          let cells := splitCells line.cursor.before line.text
          { reader with leaf := .table columns (cells :: rows) }
      | row, _ => reader.addText line row
  | .flow => reader

/-- The reader with tags and expressions that fill whole lines. -/
def pushFlow (reader : Reader) (parts : List FlowPart) : Reader :=
  (reader.endLeaf false).pushAll (parts.map Block.flow)

mutual

/-- The reader with a line within its containers. Lines that turn out not to be
flow are added again, the first one as text; every round leaves out one line,
which bounds the rounds. -/
def addLine : Nat → Reader → InnerLine → Except SourceError Reader
  | 0, reader, _ => .ok reader
  | fuel + 1, reader, line => do
      let reader := reader.settleBlank
      if !reader.flow.isEmpty then addFlow fuel reader (line :: reader.flow)
      else
        match reader.leaf, readUnderline line.text with
        | .code fence body last, _ =>
            if fence.isClosedBy line.text then return (reader.endLeaf false).leaveText
            else
              let body := body ++ last ++ (line.cursor.advance fence.indent).rest
              return { reader with leaf := .code fence body line.ending }
        | leaf, underline =>
            match reader.beginTable? line.text, underline.filter fun _ => leaf.acceptsLazy with
            | some reader, _ => return reader
            | none, some depth => return reader.addUnderline depth line
            | none, none =>
                match ← readOpening line with
                | .flow => addFlow fuel reader [line]
                | opening => return reader.addOpening line opening

/-- The reader with lines of tags and expressions, last one first. -/
def addFlow : Nat → Reader → List InnerLine → Except SourceError Reader
  | 0, reader, _ => .ok reader
  | fuel + 1, reader, lines =>
      match readFlow (InnerLine.join lines.reverse) with
      | .found parts => .ok ({ reader with flow := [] }.pushFlow parts)
      | .unfinished | .unclosed => .ok { reader with flow := lines }
      | .malformed => .error .malformedTag
      | .absent => addFlowAsText fuel { reader with flow := [] } lines.reverse

/-- The reader with lines that were taken for flow, the first one as text. -/
def addFlowAsText : Nat → Reader → List InnerLine → Except SourceError Reader
  | 0, reader, _ | _, reader, [] => .ok reader
  | fuel + 1, reader, first :: rest =>
      addLines fuel (reader.addText first (mayBeRow first.text)) rest

/-- The reader with other lines. -/
def addLines : Nat → Reader → List InnerLine → Except SourceError Reader
  | 0, reader, _ | _, reader, [] => .ok reader
  | fuel + 1, reader, line :: rest => do addLines fuel (← addLine fuel reader line) rest

end

/-! ### Containers -/

/-- The reader with its innermost containers complete. -/
def closeFrames : Nat → Reader → Reader
  | 0, reader => reader
  | count + 1, reader =>
      match reader.outer with
      | [] => reader
      | frame :: outer =>
          closeFrames count { reader with frame := frame.pushFrame reader.frame, outer := outer }

/-- Whether a blank line in front of which so many containers end could spread a
list. The only line of an empty item does not, nor does the last one of a
quotation that ends its item. -/
def blankCounts (reader : Reader) (first : Bool) (count : Nat) : Bool :=
  !(first && count == 1) && !(reader.frame.container == .quote && count == 2)

/-- The reader with so many containers complete, and a blank line before them
counted where it stands. -/
def close (reader : Reader) (count : Nat) (outside : Bool) : Reader :=
  let reader := reader.endLeaf outside
  if count = 0 then reader.settleBlank
  else
    let closed := (closeFrames count reader).leaveText
    match closed.blank with
    | some first =>
        let counts := reader.blankCounts first count
        { closed with frame := closed.frame.noteBlank counts, blank := none }
    | none => closed

/-- The reader with so many containers complete, before a new one. Code that is open
until an item ends all containers hides the end of the item before it. -/
def closeFor (reader : Reader) (next : Container) (count : Nat) : Reader :=
  let hidden :=
    reader.leaf.isCode && next.isItem && count != 0 && count == reader.outer.length
  let closed := reader.close count false
  if hidden then { closed with frame := closed.frame.joinItems } else closed

/-- The reader inside another container. -/
def enter (reader : Reader) (container : Container) : Reader :=
  { reader with frame := .new container, outer := reader.frame :: reader.outer }

/-- The reader inside all containers that begin at a place, and the place after
them. Each takes a character, so the length bounds their number. -/
def enterAll (interrupting : Bool) : Nat → Reader → Cursor → Reader × Cursor
  | 0, reader, cursor => (reader, cursor)
  | fuel + 1, reader, cursor =>
      match Container.read interrupting cursor with
      | some (container, cursor) => enterAll interrupting fuel (reader.enter container) cursor
      | none => (reader, cursor)

/-- How many of some containers a line keeps open, outermost first, and the place
after the part that does. Containers that go on are not empty any more. -/
def continueFrames (cursor : Cursor) : List Frame → List Frame × List Frame × Cursor
  | [] => ([], [], cursor)
  | frame :: rest =>
      match frame.container.continued? cursor with
      | some after =>
          let container :=
            if cursor.isBlank then frame.container else frame.container.filled
          let (kept, left, after) := continueFrames after rest
          ({ frame with container := container } :: kept, left, after)
      | none => ([], frame :: rest, cursor)

/-- The reader after the part of a line that keeps containers open: how many it
does not keep open, and the place after that part. -/
def matchLine (reader : Reader) (line : Line) : Reader × Nat × Cursor :=
  let (kept, left, cursor) :=
    continueFrames (.start line.text) (reader.frame :: reader.outer).reverse
  match (kept ++ left).reverse with
  | frame :: outer => ({ reader with frame := frame, outer := outer }, left.length, cursor)
  | [] => (reader, 0, cursor)

/-- The text that a line outside the innermost containers goes on with, and whether
it may be a row of a table. The last line of the source must be sure to be text. -/
def lazyText? (reader : Reader) (line : InnerLine) : Except SourceError (Option Bool) := do
  match ← readOpening line with
  | .text row =>
      let sure := !(line.ending.isEmpty && isUndecided line.text)
      return if reader.leaf.acceptsLazy && sure then some row else none
  | _ => return none

/-- The reader with a line of the source. -/
def read (reader : Reader) (line : Line) : Except SourceError Reader := do
  let (reader, left, cursor) := reader.matchLine line
  let fuel := flowRounds reader.flow.length
  let inner : InnerLine := ⟨cursor, line.ending⟩
  if !reader.flow.isEmpty then
    if left = 0 then addLine fuel reader inner else .error .lazyLine
  else if left == 0 && reader.leaf.isCode then addLine fuel reader inner
  else
    let interrupting := left == 0 && reader.inText
    match Container.read interrupting cursor with
    | some (container, cursor) =>
        let reader := (reader.closeFor container left).enter container
        let (reader, cursor) := enterAll interrupting cursor.rest.length reader cursor
        addLine fuel reader ⟨cursor, line.ending⟩
    | none =>
        if left = 0 then addLine fuel reader inner
        else
          match ← reader.lazyText? inner with
          | some row => return reader.addText inner row
          | none => return (← addLine fuel (reader.close left true) inner).leaveText

/-! ### The end -/

/-- The reader without incomplete flow, which is text if nothing more comes. -/
def settleFlow : Nat → Reader → Except SourceError Reader
  | 0, reader => .ok reader
  | fuel + 1, reader => do
      let lines := reader.flow.reverse
      if lines.isEmpty then return reader
      else
        let _ ← (readFlow (InnerLine.join lines)).settle
        let reader ← addFlowAsText (flowRounds lines.length) { reader with flow := [] } lines
        settleFlow fuel reader

/-- The blocks that a reader has read, if no line follows. -/
def finish (reader : Reader) : Except SourceError (List Block) := do
  let reader ← settleFlow (reader.flow.length + 1) reader
  return (reader.close reader.outer.length false).frame.endList.blocks.reverse

end Reader

/-- Lines as blocks. -/
def readBlocks (lines : List Line) : Except SourceError (List Block) :=
  lines.foldlM Reader.read Reader.start >>= Reader.finish

/-- Lines as blocks, none of them in a container. -/
def readPlainBlocks (lines : List Line) : Except SourceError (List Block) :=
  let read (reader : Reader) (line : Line) : Except SourceError Reader :=
    reader.addLine (flowRounds reader.flow.length) (.ofLine line)
  lines.foldlM read Reader.start >>= Reader.finish

end PostPress.Markdown
