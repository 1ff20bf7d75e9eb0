import PostPress.Markdown.Block.Frame

/-!
# PostPress.Markdown.Block.Container

The beginnings of lines that belong to containers.

* `Container.continued?` — the place in a line after the part that keeps a
  container open;
* `Container.read` — the container that begins in a line.

A gap of any width may stand before a container.
-/

namespace PostPress.Markdown

namespace Container

/-- The columns that the lines of a footnote are indented by. -/
def noteIndent : Nat := 4

/-- The widest gap behind the marker of an item that belongs to the marker. -/
def widestGap : Nat := 4

/-- The most digits of the number of an item. -/
def longestNumber : Nat := 9

/-- The place after a sign of quotation, and after one column of gap. -/
def afterQuote? (cursor : Cursor) : Option Cursor :=
  let cursor := cursor.skip
  match cursor.rest with
  | '>' :: _ => some ((cursor.take 1).advance 1)
  | _ => none

/-- The place after the part of a line that keeps a container open. A blank line
keeps items and footnotes open, but not an item that is empty. -/
def continued? (cursor : Cursor) : Container → Option Cursor
  | .document => some cursor
  | .quote => afterQuote? cursor
  | .item _ width empty =>
      if cursor.isBlank then if empty then none else some (cursor.advance width)
      else if width ≤ cursor.indent then some (cursor.advance width)
      else none
  | .footnote _ =>
      if cursor.isBlank ∨ noteIndent ≤ cursor.indent then some (cursor.advance noteIndent)
      else none

/-- Whether a container is an item of a list. -/
def isItem : Container → Bool
  | .item .. => true
  | _ => false

/-- The container after a line that is not blank. -/
def filled : Container → Container
  | .item marker width _ => .item marker width false
  | container => container

/-! ### New containers -/

/-- The marker in front of a text, and how long it is. A list that interrupts a
paragraph begins with the number one. -/
def readMarker (interrupting : Bool) : List Char → Option (Marker × Nat)
  | c :: rest =>
      if c = '+' then some (⟨c, none⟩, 1)
      else if c = '*' ∨ c = '-' then
        if isThematicBreak (c :: rest) then none else some (⟨c, none⟩, 1)
      else
        let digits := (c :: rest).takeWhile Char.isDigit
        let allowed := if interrupting then digits = ['1'] else 0 < digits.length
        match (c :: rest).drop digits.length with
        | sign :: _ =>
            if allowed ∧ digits.length ≤ longestNumber ∧ (sign = '.' ∨ sign = ')') then
              some (⟨sign, some (Text.numeral 10 digits)⟩, digits.length + 1)
            else none
        | [] => none
  | [] => none

/-- The item that begins at a place, and the place after its marker. An item
that interrupts a paragraph is not empty. -/
def readItem (interrupting : Bool) (cursor : Cursor) : Option (Container × Cursor) :=
  let start := cursor.skip
  (readMarker interrupting start.rest).bind fun (marker, size) =>
    let after := start.take size
    if after.isBlank then
      if interrupting then none else some (.item marker (cursor.distance after + 1) true, after)
    else
      let gap := after.indent
      if gap = 0 then none
      else
        let next := if gap ≤ widestGap then after.skip else after.advance 1
        some (.item marker (cursor.distance next) false, next)

/-- The label of a footnote, without blanks. -/
def readNoteLabel (text : List Char) : Option (List Char × List Char) :=
  (readLabel text).filter fun (label, _) => !label.any isGap

/-- The footnote that begins at a place, and the place after its label. -/
def readFootnote (cursor : Cursor) : Option (Container × Cursor) :=
  let start := cursor.skip
  match start.rest with
  | '[' :: '^' :: rest =>
      (readNoteLabel rest).bind fun (label, rest) =>
        match rest with
        | ':' :: rest =>
            some (.footnote label, (start.take (start.rest.length - rest.length)).skip)
        | _ => none
  | _ => none

/-- The container that begins at a place, and the place after its beginning. -/
def read (interrupting : Bool) (cursor : Cursor) : Option (Container × Cursor) :=
  ((afterQuote? cursor).map fun after => (.quote, after)).or
    ((readItem interrupting cursor).or (readFootnote cursor))

end Container

end PostPress.Markdown
