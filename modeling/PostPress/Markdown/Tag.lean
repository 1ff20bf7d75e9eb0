import PostPress.Markdown.Construct
import PostPress.Markdown.Error
import PostPress.Markdown.Line
import PostPress.Text.Blank
import PostPress.Text.Identifier

/-!
# PostPress.Markdown.Tag

The tags of components, and expressions in braces.

* `Tag`, `Reading` — a tag, and what can become of reading something that may go
  on in later lines;
* `readTag`, `readBraces` — the tag after `<`, the expression after an opening
  brace;
* `readFlow` — the tags and expressions that fill whole lines;
* `nest` — constructs with tags among them, as constructs inside components.

An angle bracket begins a tag unless a gap follows it. From there on every
character must fit, since there is no other meaning that it could have.
-/

namespace PostPress.Markdown

/-- What a tag does. -/
inductive TagRole
  /-- It opens a component. -/
  | opening
  /-- It closes a component. -/
  | closing
  /-- It is a component that wraps nothing. -/
  | selfClosing
deriving DecidableEq, Repr

/-- A tag; that of a fragment has no name. -/
structure Tag where
  /-- What it does. -/
  role : TagRole
  /-- The name of the component. -/
  name : Option String
deriving DecidableEq, Repr

/-- What becomes of reading a part of a text. -/
inductive Reading (α : Type)
  /-- It is there. -/
  | found (value : α)
  /-- It is not there. -/
  | absent
  /-- The text ends before it does. Without more text it is not there. -/
  | unfinished
  /-- The text ends inside braces or quotation marks. Without more text the
  source is invalid. -/
  | unclosed
  /-- The source is invalid. -/
  | malformed
deriving Repr

namespace Reading

/-- Go on with what is found. -/
def bind {α β : Type} : Reading α → (α → Reading β) → Reading β
  | .found value, next => next value
  | .absent, _ => .absent
  | .unfinished, _ => .unfinished
  | .unclosed, _ => .unclosed
  | .malformed, _ => .malformed

instance : Monad Reading where
  pure := .found
  bind := Reading.bind

/-- The outcome if no text follows. -/
def settle {α : Type} : Reading α → Except SourceError (Option α)
  | .found value => .ok (some value)
  | .absent | .unfinished => .ok none
  | .unclosed => .error .unclosedExpression
  | .malformed => .error .malformedTag

end Reading

/-- A text without the blanks in front. -/
def skipBlanks (text : List Char) : List Char := text.dropWhile Text.isBlank

/-! ### Braces -/

/-- The characters up to the brace that closes so many open ones. Strings and
comments in between are not understood. -/
def readBraces (depth : Nat) : List Char → Reading (List Char × List Char)
  | [] => .unclosed
  | c :: rest =>
      if c = '}' ∧ depth = 0 then .found ([], rest)
      else
        let depth := if c = '{' then depth + 1 else if c = '}' then depth - 1 else depth
        (readBraces depth rest).bind fun (chars, rest) => .found (c :: chars, rest)

/-! ### Tags -/

/-- A character that can go on with a name. -/
def isNameContinue (c : Char) : Bool := Text.isIdentifierContinue c || c == '-'

/-- A name that a blank or one of some marks must follow, and the text after the
blanks. -/
def readName (marks : List Char) : List Char → Reading (List Char × List Char)
  | [] => .unfinished
  | c :: rest =>
      if Text.isIdentifierStart c then
        let after := rest.dropWhile isNameContinue
        match after with
        | [] => .unfinished
        | next :: _ =>
            if Text.isBlank next || marks.contains next then
              .found (c :: rest.takeWhile isNameContinue, skipBlanks after)
            else .malformed
      else .malformed

/-- The members of a name: more names, each behind a point. Every one takes
characters, so the length bounds their number. -/
def readMembers : Nat → List Char → Reading (List Char × List Char)
  | fuel + 1, '.' :: rest => do
      let (name, rest) ← readName ['/', '>', '{', '.'] (skipBlanks rest)
      let (members, rest) ← readMembers fuel rest
      return ('.' :: name ++ members, rest)
  | _, text => .found ([], text)

/-- The whole name of a component: a name with members, or one in a name space. -/
def readTagName (text : List Char) : Reading (List Char × List Char) := do
  let (name, rest) ← readName ['/', '>', '{', '.', ':'] text
  match rest with
  | ':' :: rest =>
      let (localName, rest) ← readName ['/', '>', '{'] (skipBlanks rest)
      return (name ++ ':' :: localName, rest)
  | rest =>
      let (members, rest) ← readMembers rest.length rest
      return (name ++ members, rest)

/-- What follows the value of an attribute. A character that begins no value is
wrong only if another one follows. -/
def skipValue : List Char → Reading (List Char)
  | [] => .unfinished
  | '{' :: rest => do
      let (_, rest) ← readBraces 0 rest
      return skipBlanks rest
  | c :: rest =>
      if c = '"' ∨ c = '\'' then
        match rest.dropWhile (· ≠ c) with
        | [] => .unclosed
        | _ :: rest => .found (skipBlanks rest)
      else if rest.isEmpty then .unfinished
      else .malformed

/-- What follows a second name behind a colon, if there is one. -/
def skipLocalName : List Char → Reading (List Char)
  | ':' :: rest => do
      let (_, rest) ← readName ['/', '>', '{', '='] (skipBlanks rest)
      return rest
  | text => .found text

/-- What follows an attribute with a name. -/
def skipAttribute (text : List Char) : Reading (List Char) := do
  let (_, rest) ← readName ['/', '>', '{', ':', '='] text
  let rest ← skipLocalName rest
  match rest with
  | '=' :: rest => skipValue (skipBlanks rest)
  | rest => return rest

/-- The end of a tag after its attributes: whether the tag closes itself, and
what follows it. Every attribute takes characters, so the length bounds their
number. -/
def readTagEnd : Nat → List Char → Reading (Bool × List Char)
  | 0, _ | _, [] => .unfinished
  | _ + 1, '>' :: rest => .found (false, rest)
  | _ + 1, '/' :: rest =>
      match skipBlanks rest with
      | [] => .unfinished
      | '>' :: rest => .found (true, rest)
      | _ => .malformed
  | fuel + 1, '{' :: rest => do
      let (_, rest) ← readBraces 0 rest
      readTagEnd fuel (skipBlanks rest)
  | fuel + 1, text => do
      let rest ← skipAttribute text
      readTagEnd fuel rest

/-- A closing tag after its slash. Attributes are wrong in it, but only once the
tag ends. -/
def readClosingTag : List Char → Reading (Tag × List Char)
  | [] => .unfinished
  | '>' :: rest => .found (⟨.closing, none⟩, rest)
  | text => do
      let (name, rest) ← readTagName text
      match rest with
      | '>' :: rest => return (⟨.closing, some (String.ofList name)⟩, rest)
      | rest => do
          let _ ← readTagEnd (rest.length + 1) rest
          .malformed

/-- The tag after `<`. -/
def readTag (text : List Char) : Reading (Tag × List Char) :=
  match text with
  | [] => .unfinished
  | c :: _ =>
      if isSpacing c then .absent
      else
        match skipBlanks text with
        | [] => .unfinished
        | '>' :: rest => .found (⟨.opening, none⟩, rest)
        | '/' :: rest => readClosingTag (skipBlanks rest)
        | text => do
            let (name, rest) ← readTagName text
            let (closed, rest) ← readTagEnd (rest.length + 1) rest
            return (⟨if closed then .selfClosing else .opening, some (String.ofList name)⟩, rest)

/-! ### Whole lines -/

/-- A part of a line that holds nothing but tags and expressions. -/
inductive FlowPart
  /-- A tag. -/
  | tag (tag : Tag)
  /-- An expression. -/
  | expression (value : String)
deriving DecidableEq, Repr

/-- Tags and expressions up to the end of a line, gaps between them. Two
expressions in a row are no flow. Every part takes characters, so the length
bounds their number. -/
def readFlowFrom : Nat → Bool → List Char → Reading (List FlowPart)
  | fuel + 1, _, '<' :: rest => do
      let (tag, rest) ← readTag rest
      let parts ← readFlowFrom fuel true (skipGap rest)
      return .tag tag :: parts
  | fuel + 1, true, '{' :: rest => do
      let (value, rest) ← readBraces 0 rest
      let parts ← readFlowFrom fuel false (skipGap rest)
      return .expression (String.ofList value) :: parts
  | _, _, text => if text.isEmpty || (lineEnd? text).isSome then .found [] else .absent

/-- The tags and expressions that a text consists of, up to a line end. -/
def readFlow (text : List Char) : Reading (List FlowPart) :=
  match skipGap text with
  | '<' :: rest => readFlowFrom text.length true ('<' :: rest)
  | '{' :: rest => readFlowFrom text.length true ('{' :: rest)
  | _ => .absent

/-! ### Nesting -/

/-- A construct, or what stands between constructs. -/
inductive Piece
  /-- A construct. -/
  | construct (construct : Construct)
  /-- A tag. -/
  | tag (tag : Tag)
  /-- A line end. -/
  | lineEnd (chars : List Char)
deriving Repr

/-- The name of a tag as a reason gives it. -/
def tagLabel (name : Option String) : String := name.getD ""

/-- A construct after others, last one first: two texts in a row are one. -/
def pushConstruct (construct : Construct) (done : List Construct) : List Construct :=
  match construct, done with
  | .text value, .text before :: done => .text (before ++ value) :: done
  | construct, done => construct :: done

/-- The pieces as constructs inside components. `opened` holds the components that
are open, the innermost first, each with what stands before it; `done` holds
what the innermost one wraps so far. Both hold the last construct first. A line
end is text, but not directly in a component. -/
def nestFrom (opened : List (Option String × List Construct)) (done : List Construct) :
    List Piece → Except SourceError (List Construct)
  | [] =>
      match opened with
      | [] => .ok done.reverse
      | (name, _) :: _ => .error (.unclosedTag (tagLabel name))
  | .construct construct :: rest => nestFrom opened (pushConstruct construct done) rest
  | .lineEnd chars :: rest =>
      if opened.isEmpty then
        nestFrom opened (pushConstruct (.text (String.ofList chars)) done) rest
      else nestFrom opened done rest
  | .tag ⟨.selfClosing, name⟩ :: rest => nestFrom opened (.component name [] :: done) rest
  | .tag ⟨.opening, name⟩ :: rest => nestFrom ((name, done) :: opened) [] rest
  | .tag ⟨.closing, name⟩ :: rest =>
      match opened with
      | (openName, before) :: opened =>
          if openName = name then nestFrom opened (.component name done.reverse :: before) rest
          else .error (.unexpectedClosingTag (tagLabel name))
      | [] => .error (.unexpectedClosingTag (tagLabel name))

/-- The pieces as constructs inside components. Every component is closed by a
tag of its name, and those that are opened inside it are closed before. -/
def nest (pieces : List Piece) : Except SourceError (List Construct) := nestFrom [] [] pieces

end PostPress.Markdown
