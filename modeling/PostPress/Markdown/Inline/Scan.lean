import PostPress.Markdown.Inline.Emphasis
import PostPress.Markdown.Passage

/-!
# PostPress.Markdown.Inline.Scan

Reading the text of a paragraph, a heading or a table cell.

* `Known` — the labels that have a definition, and where the text stands;
* `readCodeSpan` — code between backticks;
* `readReference` — what a label in brackets refers to;
* `readInline` — a text as constructs.

Brackets are matched while reading: what stands between two of them becomes a
link, an image or a reference to a footnote at the closing one. A link cannot
hold another one, so the brackets around a link are only brackets.
-/

namespace PostPress.Markdown

/-- What reading a text depends on. -/
structure Known where
  /-- The identifiers with a target. -/
  links : List String
  /-- The identifiers with a footnote. -/
  notes : List String
  /-- Whether the text stands in a table, where a bar in code is written behind
  a backslash. -/
  inTable : Bool

/-! ### Code -/

/-- The characters before the next run of exactly so many backticks, and what
follows it. `run` counts the backticks right before the text. -/
def splitAtBackticks (size run : Nat) : List Char → Option (List Char × List Char)
  | [] => if run = size then some ([], []) else none
  | '`' :: rest =>
      (splitAtBackticks size (run + 1) rest).map fun (chars, rest) => ('`' :: chars, rest)
  | c :: rest =>
      if run = size then some ([], c :: rest)
      else (splitAtBackticks size 0 rest).map fun (chars, rest) => (c :: chars, rest)

/-- Code in a table with its bars as they are meant. -/
def unescapeBars : List Char → List Char
  | '\\' :: '|' :: rest => '|' :: unescapeBars rest
  | c :: rest => c :: unescapeBars rest
  | [] => []

/-- Code without one space at each end, if it holds more than spaces. -/
def trimPadding (code : List Char) : List Char :=
  let inner := code.tail.dropLast
  if code.head? = some ' ' ∧ code.getLast? = some ' ' ∧ inner.any (· ≠ ' ') then inner else code

/-- The code that a text begins with: the run of backticks, the code, and what
follows. -/
def readCodeSpan (text : List Char) : Option (List Char × List Char) :=
  let size := (text.takeWhile (· = '`')).length
  (splitAtBackticks size 0 (text.drop size)).map fun (chars, rest) =>
    (chars.take (chars.length - size), rest)

/-! ### Brackets -/

/-- What a bracket opens. -/
inductive BracketKind
  /-- The text of a link. -/
  | link
  /-- The text that stands for an image. -/
  | image
  /-- The label of a footnote. -/
  | note
deriving DecidableEq, Repr

/-- A bracket that is open. -/
structure Bracket where
  /-- What it opens. -/
  kind : BracketKind
  /-- Whether it can still open a link. -/
  active : Bool
  /-- The tokens before it, last one first. -/
  before : List Token
  /-- The source after it. -/
  source : List Char

namespace Bracket

/-- The bracket as it is written. -/
def written (bracket : Bracket) : List Char :=
  match bracket.kind with
  | .link => ['[']
  | .image => ['!', '[']
  | .note => ['[', '^']

/-- The bracket after a link that stands inside it. -/
def afterLink (bracket : Bracket) : Bracket :=
  if bracket.kind = .image then bracket else { bracket with active := false }

/-- The tokens of a bracket that opens nothing, last one first. -/
def asText (bracket : Bracket) (inner : List Token) : List Token :=
  inner ++ .text bracket.written :: bracket.before

end Bracket

/-- What a label leads to. -/
inductive Destination
  /-- A target right behind it. -/
  | resource (resource : Resource)
  /-- The target of an identifier. -/
  | identifier (id : String)

/-- What the label with an identifier leads to, told from the text after its
closing bracket, and what follows. In front of another bracket a label does not
stand for itself, unless the other one is empty. -/
def readReference (known : Known) (id : String) (after : List Char) :
    Option (Destination × List Char) :=
  let shortcut : Option (Destination × List Char) :=
    if known.links.contains id then some (.identifier id, after) else none
  match after with
  | '(' :: rest =>
      ((readResource rest).map fun (resource, rest) => (.resource resource, rest)).or shortcut
  | '[' :: rest =>
      let full : Option (Destination × List Char) := (readLabel rest).bind fun (label, rest) =>
        if known.links.contains (identifier label) then
          some (.identifier (identifier label), rest)
        else none
      let collapsed : Option (Destination × List Char) :=
        match rest with
        | ']' :: rest => shortcut.map fun (destination, _) => (destination, rest)
        | _ => none
      full.or collapsed
  | _ => shortcut

/-- The token of a label and what it leads to. -/
def buildReference (kind : BracketKind) (destination : Destination) (inner : List Token) :
    Except SourceError Token := do
  if kind = .image then
    let children ← finish .none false inner
    let alt := Construct.plainTextList children
    match destination with
    | .resource resource => return .image resource alt
    | .identifier id => return .construct (.imageReference id alt)
  else
    let children ← finish .none true inner
    match destination with
    | .resource resource =>
        return .construct (.link resource.target.url resource.target.title children)
    | .identifier id => return .construct (.linkReference id children)

/-- The token that a closing bracket completes, and what follows. `inner`
are the tokens since the open bracket, last one first; a footnote without a
definition is tried as a link. -/
def closeBracket (known : Known) (bracket : Bracket) (inner : List Token) (after : List Char) :
    Except SourceError (Option (Token × List Char)) :=
  let label := bracket.source.take (bracket.source.length - (after.length + 1))
  let id := identifier label
  if !bracket.active then .ok none
  else if bracket.kind = .note ∧ known.notes.contains id then
    .ok (some (.construct (.footnoteReference id (some (unescape label))), after))
  else
    let (id, inner) :=
      if bracket.kind = .note then ("^" ++ id, .text ['^'] :: inner.reverse)
      else (id, inner.reverse)
    match readReference known id after with
    | some (destination, rest) =>
        (buildReference bracket.kind destination inner).map fun token => some (token, rest)
    | none => .ok none

/-! ### Texts -/

/-- What has been read of a text. -/
structure Scan where
  /-- The tokens since the innermost open bracket, last one first. -/
  tokens : List Token
  /-- The brackets that are open, innermost first. -/
  brackets : List Bracket

namespace Scan

/-- Go on with a token. -/
def push (scan : Scan) (token : Token) : Scan := { scan with tokens := token :: scan.tokens }

/-- Go on with an open bracket. -/
def enter (scan : Scan) (kind : BracketKind) (source : List Char) : Scan :=
  ⟨[], ⟨kind, true, scan.tokens, source⟩ :: scan.brackets⟩

/-- Go on with a closing bracket. -/
def leave (known : Known) (scan : Scan) (after : List Char) :
    Except SourceError (Scan × List Char) :=
  match scan.brackets with
  | [] => .ok (scan.push (.text [']']), after)
  | bracket :: outer => do
      match ← closeBracket known bracket scan.tokens after with
      | some (token, rest) =>
          let outer := if bracket.kind = .image then outer else outer.map Bracket.afterLink
          return (⟨token :: bracket.before, outer⟩, rest)
      | none => return (⟨.text [']'] :: bracket.asText scan.tokens, outer⟩, after)

/-- All tokens in order, open brackets as text. -/
def toTokens (scan : Scan) : List Token :=
  (scan.brackets.foldl (fun tokens bracket => bracket.asText tokens) scan.tokens).reverse

end Scan

/-- The characters that a part of a text depends on, besides its own. -/
structure Neighbours where
  /-- The one before the part. -/
  before : Option Char
  /-- The one before the part, unless the part begins the text. -/
  inText : Option Char
  /-- The one after the text. -/
  after : Option Char

/-- The tag that a text begins with. One that the text ends within is no tag, but
it is wrong if more follows in the line. -/
def readInlineTag (after : Option Char) (text : List Char) :
    Except SourceError (Option (Tag × List Char)) :=
  match readTag text, after with
  | .unfinished, some _ => .error .malformedTag
  | reading, _ => reading.settle

/-- The token that a text begins with, apart from brackets, and what follows. -/
def readToken (known : Known) (neighbours : Neighbours) (c : Char) (rest : List Char) :
    Except SourceError (Token × List Char) :=
  let asText : Token × List Char := (.text [c], rest)
  match c with
  | '\n' | '\r' =>
      match lineEnd? (c :: rest) with
      | some (ending, rest) => .ok (.lineEnd ending, rest)
      | none => .ok asText
  | '`' =>
      let marks := (c :: rest).takeWhile (· = '`')
      match readCodeSpan (c :: rest) with
      | some (code, rest) =>
          let code := if known.inTable then unescapeBars code else code
          .ok (.construct (.codeSpan (String.ofList (trimPadding code))), rest)
      | none => .ok (.text marks, (c :: rest).drop marks.length)
  | '&' =>
      match reference? rest with
      | some (chars, rest) => .ok (.literal chars, rest)
      | none => .ok asText
  | '*' | '_' | '~' =>
      let marks := rest.takeWhile (· = c)
      let rest := rest.drop marks.length
      let run :=
        .between c (marks.length + 1) neighbours.before (rest.head?.or neighbours.after)
      .ok (.delimiters run, rest)
  | '<' => do
      match ← readInlineTag neighbours.after rest with
      | some (tag, rest) => return (.piece (.tag tag), rest)
      | none => return asText
  | '{' => do
      match ← (readBraces 0 rest).settle with
      | some (value, rest) => return (.construct (.expression (String.ofList value)), rest)
      | none => return asText
  | '\\' =>
      match rest with
      | next :: after =>
          if Text.isAsciiPunctuation next then .ok (.literal [next], after)
          else if isLineEnd next then .ok (.lineBreak, rest)
          else .ok asText
      | [] => .ok asText
  | 'h' | 'H' | 'w' | 'W' =>
      match readAddress neighbours.inText (c :: rest) with
      | some (text, url, rest) => .ok (.construct (.link url none [.text text]), rest)
      | none => .ok asText
  | _ => .ok asText

/-- One step of reading a text. -/
def scanStep (known : Known) (neighbours : Neighbours) (scan : Scan) (c : Char)
    (rest : List Char) : Except SourceError (Scan × List Char) :=
  match c, rest with
  | '!', '[' :: '^' :: _ => .ok (scan.push (.text ['!']), rest)
  | '!', '[' :: rest => .ok (scan.enter .image rest, rest)
  | '[', '^' :: rest => .ok (scan.enter .note rest, rest)
  | '[', rest => .ok (scan.enter .link rest, rest)
  | ']', rest => scan.leave known rest
  | c, rest => do
      let (token, rest) ← readToken known neighbours c rest
      return (scan.push token, rest)

/-- The last character of a text that was read up to some rest. -/
def lastRead (text rest : List Char) : Option Char :=
  (text.take (text.length - rest.length)).getLast?

/-- The rest of a passage as tokens. `previous` is the character that was read
last. Every step takes at least one character, so the length bounds their
number. -/
def scanPassage (known : Known) (passage : Passage) :
    Nat → Option Char → Scan → List Char → Except SourceError (List Token)
  | 0, _, scan, _ | _, _, scan, [] => .ok scan.toTokens
  | fuel + 1, previous, scan, c :: rest => do
      let margin := passage.margin? (rest.length + 1)
      let before := margin.elim previous Margin.before
      let neighbours : Neighbours := ⟨before, previous.bind fun _ => before, passage.after⟩
      let scan := if margin.any Margin.splitTab then scan.push .splitTab else scan
      let (scan, after) ← scanStep known neighbours scan c rest
      scanPassage known passage fuel (lastRead (c :: rest) after) scan after

/-- A passage as tokens. -/
def tokenize (known : Known) (passage : Passage) : Except SourceError (List Token) :=
  scanPassage known passage passage.chars.length none ⟨[], []⟩ passage.chars

/-- A passage as constructs. -/
def readInline (known : Known) (passage : Passage) : Except SourceError (List Construct) :=
  tokenize known passage >>= finish .both false

end PostPress.Markdown
