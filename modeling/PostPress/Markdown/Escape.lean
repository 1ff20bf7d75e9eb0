import PostPress.Markdown.Line
import PostPress.Text.Punctuation
import PostPress.Text.Digit
import PostPress.Text.Reference

/-!
# PostPress.Markdown.Escape

Characters that are written in another way: as a character reference, or behind
a backslash.

* `reference?` — the reference after an ampersand;
* `unescape` — a text such as a title or a destination, references and escapes
  replaced.
-/

namespace PostPress.Markdown

/-- The character that stands for one that cannot be. -/
def replacement : Char := '\ufffd'

/-- A code point that no number may denote: a control character other than tab,
line feed, form feed and carriage return, or one that is no character. -/
def isForbiddenCode (code : Nat) : Bool :=
  Text.inRanges [(0x0, 0x8), (0xB, 0xB), (0xE, 0x1F), (0x7F, 0x9F), (0xD800, 0xDFFF),
    (0xFDD0, 0xFDEF)] code || 0xFFFE ≤ code % 0x10000 || 0x10FFFF < code

/-- The character of a number. -/
def numberedCharacter (code : Nat) : Char :=
  if isForbiddenCode code then replacement else Char.ofNat code

/-- A number of at most so many digits, and the semicolon after it. -/
def readNumber (base digits : Nat) (text : List Char) : Option (List Char × List Char) :=
  let run := text.takeWhile (Text.isDigitOf base)
  match text.dropWhile (Text.isDigitOf base) with
  | ';' :: rest =>
      if run.isEmpty ∨ digits < run.length then none
      else some ([numberedCharacter (Text.numeral base run)], rest)
  | _ => none

/-- The longest name of a reference. -/
def longestName : Nat := 31

/-- The characters of the reference after an ampersand, and what follows its
semicolon. -/
def reference? : List Char → Option (List Char × List Char)
  | '#' :: 'x' :: rest | '#' :: 'X' :: rest => readNumber 16 6 rest
  | '#' :: rest => readNumber 10 7 rest
  | text =>
      let name := text.takeWhile Char.isAlphanum
      match text.dropWhile Char.isAlphanum with
      | ';' :: rest =>
          if longestName < name.length then none
          else (Text.namedReference? name).map fun chars => (chars, rest)
      | _ => none

/-- A text without the gaps on both sides of its line ends. -/
def trimLines : List Char → List Char
  | [] => []
  | c :: rest =>
      let rest := trimLines rest
      if isLineEnd c then c :: skipGap rest
      else
        match rest with
        | next :: _ => if isGap c && isLineEnd next then rest else c :: rest
        | [] => [c]

/-- A text with its references and escapes replaced. Every replacement takes at
least one character, so the length bounds their number. -/
def unescapeFrom : Nat → List Char → List Char
  | 0, text => text
  | _ + 1, [] => []
  | fuel + 1, '\\' :: c :: rest =>
      if Text.isAsciiPunctuation c then c :: unescapeFrom fuel rest
      else '\\' :: unescapeFrom fuel (c :: rest)
  | fuel + 1, '&' :: rest =>
      match reference? rest with
      | some (chars, rest) => chars ++ unescapeFrom fuel rest
      | none => '&' :: unescapeFrom fuel rest
  | fuel + 1, c :: rest => c :: unescapeFrom fuel rest

/-- A text with its references and escapes replaced, and without gaps around its
line ends. -/
def unescape (text : List Char) : String :=
  String.ofList (unescapeFrom text.length (trimLines text))

end PostPress.Markdown
