/-!
# PostPress.Markdown.Line

The lines of a source, and walking along the gap in front of a line.

* `Line`, `Line.split` — a source as lines, each with the line end as it is
  written: a line feed, a carriage return, or both;
* `Cursor` — a place in a line where spaces and tabs are counted in columns, so
  that a tab can be taken in part.
-/

namespace PostPress.Markdown

/-- A space or a tab, which separate the parts of a line. -/
def isGap (c : Char) : Bool := c == ' ' || c == '\t'

/-- A character of a line end. -/
def isLineEnd (c : Char) : Bool := c == '\n' || c == '\r'

/-- A space, a tab or a character of a line end. -/
def isSpacing (c : Char) : Bool := isGap c || isLineEnd c

/-- The line end in front of a text, and what follows it. -/
def lineEnd? : List Char → Option (List Char × List Char)
  | '\r' :: '\n' :: rest => some (['\r', '\n'], rest)
  | '\r' :: rest => some (['\r'], rest)
  | '\n' :: rest => some (['\n'], rest)
  | _ => none

/-- A text without the gap in front. -/
def skipGap (text : List Char) : List Char := text.dropWhile isGap

/-- Whether a text is nothing but a gap. -/
def isGapOnly (text : List Char) : Bool := text.all isGap

/-- A text without the gap in front, one line end and the gap after it. -/
def skipGapAndLineEnd (text : List Char) : List Char :=
  let rest := skipGap text
  match lineEnd? rest with
  | some (_, after) => skipGap after
  | none => rest

/-- A line of the source. -/
structure Line where
  /-- The characters of the line. -/
  text : List Char
  /-- The line end, empty at the end of the source. -/
  ending : List Char
deriving Repr, Inhabited

namespace Line

/-- The lines of a text. A text that ends with a line end has no line after it. -/
def split : List Char → List Line
  | [] => []
  | '\r' :: '\n' :: rest => ⟨[], ['\r', '\n']⟩ :: split rest
  | '\r' :: rest => ⟨[], ['\r']⟩ :: split rest
  | '\n' :: rest => ⟨[], ['\n']⟩ :: split rest
  | c :: rest =>
      match split rest, rest with
      | line :: lines, next :: _ =>
          if isLineEnd next then ⟨[c], line.ending⟩ :: lines
          else ⟨c :: line.text, line.ending⟩ :: lines
      | lines, _ => ⟨[c], []⟩ :: lines

/-- The text that lines make up, without the end of the last one. -/
def joinOpen : List Line → List Char
  | [] => []
  | [line] => line.text
  | line :: lines => line.text ++ line.ending ++ joinOpen lines

end Line

/-- A place in a line. A tab that is taken in part stands before the place. -/
structure Cursor where
  /-- The rest of the line. -/
  rest : List Char
  /-- The column of the place. -/
  column : Nat
  /-- The columns that are left of a tab taken in part. -/
  owed : Nat
  /-- The columns that are taken of it. -/
  taken : Nat
  /-- The character before the place, if it is in the line. -/
  before : Option Char
deriving Repr, Inhabited

namespace Cursor

/-- The start of a line. -/
def start (text : List Char) : Cursor := ⟨text, 0, 0, 0, none⟩

/-- The columns from one tab stop to the next. -/
def tabWidth : Nat := 4

/-- Whether a tab is taken in part. -/
def splitsTab (cursor : Cursor) : Bool := cursor.owed != 0

/-- The rest of the line, spaces for what is left of a tab. -/
def text (cursor : Cursor) : List Char := List.replicate cursor.owed ' ' ++ cursor.rest

/-- Whether nothing but a gap follows. -/
def isBlank (cursor : Cursor) : Bool := isGapOnly cursor.rest

/-- The place after at most so many columns of gap. -/
def advance : Nat → Cursor → Cursor
  | 0, cursor => cursor
  | columns + 1, ⟨rest, column, owed + 1, taken, before⟩ =>
      advance columns ⟨rest, column + 1, owed, taken + 1, before⟩
  | columns + 1, ⟨' ' :: rest, column, 0, _, _⟩ =>
      advance columns ⟨rest, column + 1, 0, 0, some ' '⟩
  | columns + 1, ⟨'\t' :: rest, column, 0, _, _⟩ =>
      advance columns ⟨rest, column + 1, tabWidth - 1 - column % tabWidth, 1, some '\t'⟩
  | _ + 1, cursor => cursor

/-- The place after all of the gap. -/
def skip (cursor : Cursor) : Cursor :=
  advance (cursor.owed + tabWidth * cursor.rest.length) cursor

/-- The place after characters that are no tabs. -/
def take (count : Nat) (cursor : Cursor) : Cursor :=
  ⟨cursor.rest.drop count, cursor.column + count, 0, 0,
    (cursor.rest.take count).getLast?.or cursor.before⟩

/-- The columns of gap in front. -/
def indent (cursor : Cursor) : Nat := cursor.skip.column - cursor.column

/-- How many characters lie between two places. What is left of a tab at the first
one counts as what its part leaves of four characters, wherever the tab stop is. -/
def distance (first second : Cursor) : Nat :=
  (if first.splitsTab then tabWidth - first.taken else 0) + first.rest.length -
    second.rest.length

end Cursor

end PostPress.Markdown
