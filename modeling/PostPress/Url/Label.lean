import PostPress.Url.Composition
import PostPress.Url.Direction
import PostPress.Url.Host
import PostPress.Url.Punycode

/-!
# PostPress.Url.Label

The labels of domain names, which are the parts between the dots.

* `unicodeLabel?` — the characters that a label stands for;
* `isLabel`, `isOrdered` — which labels there are, and which of them a name may
  hold that has letters written from the right;
* `isName` — which domain names there are.
-/

namespace PostPress.Url

/-- The characters that a label stands for. What is written in ASCII behind
`xn--` holds some other character, none that stands for another one, and no two
that are one together. -/
def unicodeLabel? : List Char → Option (List Char)
  | 'x' :: 'n' :: '-' :: '-' :: text =>
      (decodePunycode text).filter fun label =>
        label.any (0x80 ≤ ·.toNat) && label.all standsForItself && isComposed label
  | label => some label

/-- The letter that a text begins with, as far as joining goes. -/
def firstLetter? (text : List Char) : Option Char := (text.dropWhile isTransparent).head?

/-- Whether joiners stand where they are read: behind a mark that silences a
vowel, or, keeping apart, between two letters that would be written together.
`before` is the text before, last character first. -/
def hasValidJoiners : (before : List Char) → List Char → Bool
  | _, [] => true
  | before, c :: rest =>
      (!isJoiner c || before.head?.any isVirama ||
          (c == '\u200c' && (firstLetter? before).any joinsAfter &&
            (firstLetter? rest).any joinsBefore)) &&
        hasValidJoiners (c :: before) rest

/-- Whether a text is a label: it does not begin with a mark. -/
def isLabel (label : List Char) : Bool :=
  !label.head?.any isMark && hasValidJoiners [] label

/-- Whether a label has characters written from the right. -/
def hasRight (label : List Char) : Bool :=
  label.any fun c => direction c == .right || direction c == .arabicDigit

/-- Whether the order of a label's characters is plain: it begins with a letter,
holds no letter of the other direction, and ends in a letter or digit; one that is
written from the right does not mix digits of two kinds. -/
def isOrdered (label : List Char) : Bool :=
  let directions := label.map direction
  match directions, directions.reverse.dropWhile (· == .mark) with
  | .left :: _, last :: _ =>
      !hasRight label && (last == .left || last == .digit)
  | .right :: _, last :: _ =>
      !directions.contains .left &&
        (last == .right || last == .digit || last == .arabicDigit) &&
        !(directions.contains .digit && directions.contains .arabicDigit)
  | [], _ => true
  | _, _ => false

/-- Whether a text is a domain name. -/
def isName (domain : List Char) : Bool :=
  match (splitAt '.' domain).mapM unicodeLabel? with
  | none => false
  | some labels => labels.all isLabel && (!labels.any hasRight || labels.all isOrdered)

end PostPress.Url
