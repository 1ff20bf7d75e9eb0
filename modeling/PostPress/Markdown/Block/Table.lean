import PostPress.Markdown.Construct
import PostPress.Markdown.Passage

/-!
# PostPress.Markdown.Block.Table

The rows of tables.

* `splitCells` — the cells of a row, between bars;
* `headCells` — the cells of a row that may head a table;
* `readDelimiters` — the alignments that the row below it gives.
-/

namespace PostPress.Markdown

/-- The parts of a row between its bars. A bar behind a backslash belongs to a
part. -/
def splitBars : List Char → List (List Char)
  | [] => [[]]
  | '|' :: rest => [] :: splitBars rest
  | '\\' :: c :: rest =>
      if c = '|' ∨ c = '\\' then
        match splitBars rest with
        | part :: parts => ('\\' :: c :: part) :: parts
        | [] => [['\\', c]]
      else
        match splitBars (c :: rest) with
        | part :: parts => ('\\' :: part) :: parts
        | [] => [['\\']]
  | c :: rest =>
      match splitBars rest with
      | part :: parts => (c :: part) :: parts
      | [] => [[c]]

/-- A text without the gaps at its ends. -/
def trimGaps (text : List Char) : List Char :=
  ((skipGap text).reverse.dropWhile isGap).reverse

/-- A part of a row as a cell, told what stands around the part: its text lies
between them, unless gaps do. -/
def cellOfPart (before : Option Char) (part : List Char) (after : Option Char) : Passage :=
  .within (if part.head?.any isGap then none else before) (trimGaps part)
    (if part.getLast?.any isGap then none else after)

/-- The parts of a row as cells, told what stands before the first one. -/
def cellsOfParts (before : Option Char) : List (List Char) → List Passage
  | [] => []
  | [part] => [cellOfPart before part none]
  | part :: parts => cellOfPart before part (some '|') :: cellsOfParts (some '|') parts

/-- The cells of a row, told what stands before it. Nothing before the first bar,
or after the last one, is no cell; but a row has one cell at least. -/
def splitCells (before : Option Char) (row : List Char) : List Passage :=
  let cells := cellsOfParts before (splitBars row)
  let isEmpty (cell : Option Passage) : Bool := cell.any fun cell => cell.chars.isEmpty
  let cells := if 1 < cells.length && isEmpty cells.head? then cells.tail else cells
  if 1 < cells.length && isEmpty cells.getLast? then cells.dropLast else cells

/-- The cells of a row that may head a table: it holds more than one bar. -/
def headCells (before : Option Char) (row : List Char) : Option (List Passage) :=
  if trimGaps row = ['|'] then none else some (splitCells before row)

/-- The alignment that a cell of the row below the head gives: hyphens, with a
colon at each end that the column is aligned to. -/
def readDelimiter (cell : List Char) : Option (Option Alignment) :=
  let (left, rest) :=
    match cell with
    | ':' :: rest => (true, rest)
    | rest => (false, rest)
  let hyphens := rest.takeWhile (· = '-')
  if hyphens.isEmpty then none
  else
    match left, rest.drop hyphens.length with
    | false, [] => some none
    | true, [] => some (some .left)
    | false, [':'] => some (some .right)
    | true, [':'] => some (some .center)
    | _, _ => none

/-- The alignments that a row gives. It needs a bar or a colon, since it would
be the underline of a heading otherwise. -/
def readDelimiters (row : List Char) : Option (List (Option Alignment)) :=
  if row.any fun c => c = ':' ∨ c = '|' then
    match (splitCells none row).mapM fun cell => readDelimiter cell.chars with
    | some [] => none
    | alignments => alignments
  else none

end PostPress.Markdown
