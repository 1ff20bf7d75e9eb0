import PostPress.Markdown.Escape
import PostPress.Markdown.Passage
import PostPress.Markdown.Tag

/-!
# PostPress.Markdown.Block.Opening

What a line begins, told from the line alone.

* `Opening` — the kinds of lines;
* `readOpening` — the kind of a line;
* `readUnderline` — the underline of a heading;
* `isUndecided` — whether a line could be the beginning of another kind.
-/

namespace PostPress.Markdown

/-- The fence of a block of code. -/
structure Fence where
  /-- The mark it is made of. -/
  mark : Char
  /-- How many marks there are. -/
  size : Nat
  /-- The size of the gap in front of it, which the lines of code do not need. -/
  indent : Nat
  /-- What stands behind it. -/
  info : List Char
deriving DecidableEq, Repr

/-- What a line begins. -/
inductive Opening
  /-- Nothing: the line is blank. -/
  | blank
  /-- A heading. -/
  | heading (depth : Nat) (text : Passage)
  /-- A line across the page. -/
  | thematicBreak
  /-- A block of code. -/
  | fence (fence : Fence)
  /-- Tags and expressions, which may go on in the next lines. -/
  | flow
  /-- Text, which may be a row of a table as well. -/
  | text (row : Bool)
deriving Repr

/-! ### Headings -/

/-- The deepest heading. -/
def deepestHeading : Nat := 6

/-- A character that can close a heading, or stand in front of its text. -/
def isHeadingMark (c : Char) : Bool := isGap c || c == '#'

/-- The text of a heading: without marks in front of it, and without the words
behind it that are only marks. -/
def headingText (text : List Char) : Passage :=
  let front := text.dropWhile isHeadingMark
  let core := (front.reverse.dropWhile isHeadingMark).reverse
  let marks := (front.drop core.length).takeWhile (· == '#')
  .within (text.takeWhile isHeadingMark).getLast? (core ++ marks) none

/-- A heading: one to six number signs, and a gap behind them. -/
def readHeading (text : List Char) : Option Opening :=
  let depth := (text.takeWhile (· = '#')).length
  let rest := text.drop depth
  if 0 < depth ∧ depth ≤ deepestHeading ∧ (rest.head?.elim true isGap) then
    some (.heading depth (headingText rest))
  else none

/-- The depth of the heading that a line underlines. -/
def readUnderline (text : List Char) : Option Nat :=
  match skipGap text with
  | c :: rest =>
      if (c = '=' ∨ c = '-') ∧ isGapOnly (rest.dropWhile (· = c)) then
        some (if c = '=' then 1 else 2)
      else none
  | [] => none

/-- Whether a line is three or more equal marks, gaps between them. -/
def isThematicBreak (text : List Char) : Bool :=
  match skipGap text with
  | c :: rest =>
      (c == '*' || c == '-' || c == '_') && rest.all (fun d => d == c || isGap d) &&
        2 ≤ rest.count c
  | [] => false

/-! ### Code -/

/-- The fewest marks of a fence. -/
def fenceWidth : Nat := 3

/-- A fence: three or more backticks or tildes. What stands behind backticks
holds none, as it would be code within a line otherwise. -/
def readFence (cursor : Cursor) : Option Fence :=
  let start := cursor.skip
  match start.rest with
  | mark :: _ =>
      let size := (start.rest.takeWhile (· = mark)).length
      let info := skipGap (start.rest.drop size)
      if (mark = '`' ∨ mark = '~') ∧ fenceWidth ≤ size ∧ ¬(mark = '`' ∧ info.contains '`') then
        some ⟨mark, size, cursor.distance start, info⟩
      else none
  | [] => none

/-- Whether a line closes a block of code. -/
def Fence.isClosedBy (fence : Fence) (text : List Char) : Bool :=
  let rest := skipGap text
  let marks := rest.takeWhile (· = fence.mark)
  fence.size ≤ marks.length && isGapOnly (rest.drop marks.length)

/-- The language behind a fence: its first word. -/
def Fence.language (fence : Fence) : Option String :=
  let word := fence.info.takeWhile fun c => !isGap c
  if word.isEmpty then none else some (unescape word)

/-! ### Lines -/

/-- Whether a line begins with tags or expressions that do not end, or fill it. A
line with an invalid tag makes the source invalid. -/
def beginsFlow (line : InnerLine) : Except SourceError Bool :=
  match readFlow (line.text ++ line.ending) with
  | .malformed => .error .malformedTag
  | .absent => .ok false
  | .found _ | .unfinished | .unclosed => .ok true

/-- Characters that begin lines which are no rows of tables, unless a gap stands
before them. -/
def rowlessCharacters : List Char := ['#', '`', '~', '$', '*', '_', '{', 'e', 'i']

/-- Whether a line of text may be a row of a table. -/
def mayBeRow (text : List Char) : Bool :=
  text.head?.elim false fun c => !rowlessCharacters.contains c

/-- What a line begins. -/
def readOpening (line : InnerLine) : Except SourceError Opening := do
  let text := line.text
  if isGapOnly text then return .blank
  if let some fence := readFence line.cursor then return .fence fence
  if ← beginsFlow line then return .flow
  if let some heading := readHeading (skipGap text) then return heading
  if isThematicBreak text then return .thematicBreak
  return .text (mayBeRow text)

/-- Whether a line of text would be a fence or a line across the page if more of
its marks followed. -/
def isUndecided (text : List Char) : Bool :=
  match skipGap text with
  | c :: rest =>
      if c = '`' ∨ c = '~' then rest.all (· = c)
      else (c == '*' || c == '-' || c == '_') && rest.all fun d => d == c || isGap d
  | [] => false

end PostPress.Markdown
