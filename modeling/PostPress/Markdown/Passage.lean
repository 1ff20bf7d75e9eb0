import PostPress.Markdown.Line

/-!
# PostPress.Markdown.Passage

Text of one or more lines, as a paragraph, a heading or a table cell holds it.

* `InnerLine` — a line from where its containers end;
* `Passage` — a text, with what stands around it and in front of its lines;
* `Passage.ofLines` — lines as a passage.

What matters about the signs of containers in front of a line is the last
character, and whether it is a tab that they took in part.
-/

namespace PostPress.Markdown

/-- What stands in front of a line of text. -/
structure Margin where
  /-- The character right before the line, if there is one. -/
  before : Option Char
  /-- Whether it is a tab that the containers took in part. -/
  splitTab : Bool
deriving DecidableEq, Repr, Inhabited

/-- A line from where its containers end. -/
structure InnerLine where
  /-- Where the containers end. -/
  cursor : Cursor
  /-- The line end, empty at the end of the source. -/
  ending : List Char
deriving Repr, Inhabited

namespace InnerLine

/-- A line without containers. -/
def ofLine (line : Line) : InnerLine := ⟨.start line.text, line.ending⟩

/-- The characters of a line, spaces for what is left of a tab. -/
def text (line : InnerLine) : List Char := line.cursor.text

/-- What stands in front of a line. -/
def margin (line : InnerLine) : Margin := ⟨line.cursor.before, line.cursor.splitsTab⟩

/-- The text that lines make up, spaces for what is left of their tabs. -/
def join (lines : List InnerLine) : List Char :=
  lines.flatMap fun line => line.text ++ line.ending

end InnerLine

/-- A text, with what stands around it. -/
structure Passage where
  /-- The text. -/
  chars : List Char
  /-- What stands in front of its lines, each with the length of the text from
  there on. -/
  margins : List (Nat × Margin)
  /-- The character right after the text, unless it ends its line. -/
  after : Option Char
deriving Repr, Inhabited

namespace Passage

/-- A text within a line, between two characters. -/
def within (before : Option Char) (chars : List Char) (after : Option Char) : Passage :=
  ⟨chars, [(chars.length, ⟨before, false⟩)], after⟩

/-- The text that lines make up, without the end of the last one. -/
def ofLines : List InnerLine → Passage
  | [] => ⟨[], [], none⟩
  | [line] => ⟨line.cursor.rest, [(line.cursor.rest.length, line.margin)], none⟩
  | line :: rest =>
      let passage := ofLines rest
      let chars := line.cursor.rest ++ line.ending ++ passage.chars
      ⟨chars, (chars.length, line.margin) :: passage.margins, none⟩

/-- The passage of a text that ends it. -/
def withEnd (passage : Passage) (chars : List Char) : Passage := { passage with chars := chars }

/-- What stands in front of the last so many characters, if a line begins there. -/
def margin? (passage : Passage) (length : Nat) : Option Margin :=
  passage.margins.lookup length

end Passage

end PostPress.Markdown
