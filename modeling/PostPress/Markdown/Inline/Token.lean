import PostPress.Markdown.Autolink
import PostPress.Markdown.Tag
import PostPress.Markdown.Target

/-!
# PostPress.Markdown.Inline.Token

What the text of a paragraph is cut into, and putting it together again.

* `Token` — text, a line end, a run of delimiters, an image, a tag, or a construct
  that is complete;
* `Ends` — which ends of a text lose their gap;
* `assemble` — tokens without delimiters as constructs.

Gaps around line ends are no text; two spaces or more in front of a line end
break the line. In front of a line that begins within a tab, the last character of
the gap is text.
-/

namespace PostPress.Markdown

/-- A run of equal marks that may begin or end emphasised text. -/
structure DelimiterRun where
  /-- The mark: an asterisk, an underscore or a tilde. -/
  mark : Char
  /-- How many marks there are. -/
  size : Nat
  /-- Whether emphasised text may begin after the run. -/
  canOpen : Bool
  /-- Whether emphasised text may end before the run. -/
  canClose : Bool
deriving DecidableEq, Repr

/-- A part of the text of a paragraph. -/
inductive Token
  /-- Characters as they are written. -/
  | text (chars : List Char)
  /-- Characters that are written in another way; gaps among them stay. -/
  | literal (chars : List Char)
  /-- A line end. -/
  | lineEnd (chars : List Char)
  /-- A line break; the line end after it is part of it. -/
  | lineBreak
  /-- The rest of a tab that a line begins within. -/
  | splitTab
  /-- A run of delimiters. -/
  | delimiters (run : DelimiterRun)
  /-- An image where a resource leads, and the text that stands for it. -/
  | image (resource : Resource) (alt : String)
  /-- A construct, or a tag between constructs. -/
  | piece (piece : Piece)
deriving Repr

/-- A construct as a token. -/
def Token.construct (construct : Construct) : Token := .piece (.construct construct)

/-- Which ends of a text lose their gap. -/
structure Ends where
  /-- The beginning. -/
  first : Bool
  /-- The end. -/
  last : Bool
deriving DecidableEq, Repr

/-- Neither end of a text. -/
def Ends.none : Ends := ⟨false, false⟩

/-- Both ends of a text. -/
def Ends.both : Ends := ⟨true, true⟩

/-! ### Text -/

/-- Delimiters that delimit nothing as text, and neighbouring texts as one. -/
def mergeText : List Token → List Token
  | [] => []
  | token :: rest =>
      let token : Token :=
        match token with
        | .delimiters run => .text (List.replicate run.size run.mark)
        | token => token
      match token, mergeText rest with
      | .text chars, .text more :: rest => .text (chars ++ more) :: rest
      | token, rest => token :: rest

/-- A text without the gap behind it. -/
def trimEnd (chars : List Char) : List Char :=
  (chars.reverse.dropWhile isGap).reverse

/-- The fewest spaces that break a line. -/
def breakWidth : Nat := 2

/-- A text before a line end: without its gap, and a line break if the gap is
made of enough spaces. -/
def breakText (chars : List Char) : List Token :=
  let kept := trimEnd chars
  let gap := chars.drop kept.length
  let text : List Token := if kept.isEmpty then [] else [.text kept]
  if breakWidth ≤ gap.length && gap.all (· == ' ') then text ++ [.lineBreak] else text

/-- Where in its line a token stands. -/
inductive LinePlace
  /-- At the beginning, where a gap is no text. -/
  | start
  /-- At the beginning of a line that begins within a tab. -/
  | inTab
  /-- Behind something, or where a gap is text. -/
  | inside
deriving DecidableEq, Repr

/-- A text without the gap in front that is no text there. Within a tab, the last
character of the gap stays if more than the gap is there. -/
def LinePlace.trim (chars : List Char) : LinePlace → List Char
  | .start => skipGap chars
  | .inTab =>
      let body := skipGap chars
      if body.isEmpty then []
      else (chars.take (chars.length - body.length)).getLastD '\t' :: body
  | .inside => chars

/-- Tokens without gaps around their line ends. `last` says whether the end is
trimmed as well. -/
def trimText (last : Bool) : LinePlace → List Token → List Token
  | _, [] => []
  | place, .text chars :: rest =>
      match rest with
      | .lineEnd _ :: _ =>
          match breakText chars with
          | .text chars :: more => .text (place.trim chars) :: more ++ trimText last .inside rest
          | trimmed => trimmed ++ trimText last .inside rest
      | _ =>
          let chars := if last && rest.isEmpty then trimEnd chars else chars
          .text (place.trim chars) :: trimText last .inside rest
  | _, .lineEnd chars :: rest => .lineEnd chars :: trimText last .start rest
  | _, .splitTab :: rest => trimText last .inTab rest
  | _, token :: rest => token :: trimText last .inside rest

/-- Tokens without the line ends that belong to line breaks. -/
def dropBrokenEnds : List Token → List Token
  | .lineBreak :: .lineEnd _ :: rest => .lineBreak :: dropBrokenEnds rest
  | token :: rest => token :: dropBrokenEnds rest
  | [] => []

/-! ### Assembling -/

/-- A text as pieces, its mail addresses as links. -/
def linkEmails (chars : List Char) : List Token :=
  (splitEmails chars).map fun
    | .plain chars => .literal chars
    | .address text url => .construct (.link url none [.text text])

/-- The destination or the title of an image: as it is written if a mail address
stands in it, which is no part of a link. -/
def imageText (inLink : Bool) (chars : List Char) : String :=
  let hasMail := (splitEmails chars).any fun
    | .plain _ => false
    | .address .. => true
  if !inLink && hasMail then String.ofList chars else unescape chars

/-- An image where a resource leads. -/
def imageOf (inLink : Bool) (resource : Resource) (alt : String) : Construct :=
  .image (imageText inLink resource.destination)
    ((resource.title.filter fun chars => !chars.isEmpty).map (imageText inLink)) alt

/-- Characters as pieces. -/
def textPieces (chars : List Char) : List Piece :=
  if chars.isEmpty then [] else [.construct (.text (String.ofList chars))]

/-- A token as pieces. Inside a link, mail addresses are plain text. -/
def Token.toPieces (inLink : Bool) : Token → List Piece
  | .text chars | .literal chars => textPieces chars
  | .lineEnd chars => [.lineEnd chars]
  | .lineBreak => [.construct .lineBreak]
  | .splitTab => []
  | .delimiters run => textPieces (List.replicate run.size run.mark)
  | .image resource alt => [.construct (imageOf inLink resource alt)]
  | .piece part => [part]

/-- Tokens as constructs. Inside a link, mail addresses are plain text. -/
def assemble (ends : Ends) (inLink : Bool) (tokens : List Token) :
    Except SourceError (List Construct) :=
  let place : LinePlace := if ends.first then .start else .inside
  let trimmed := dropBrokenEnds (trimText ends.last place (mergeText tokens))
  let linked :=
    if inLink then trimmed
    else trimmed.flatMap fun
      | .text chars => linkEmails chars
      | token => [token]
  nest (linked.flatMap (·.toPieces inLink))

end PostPress.Markdown
