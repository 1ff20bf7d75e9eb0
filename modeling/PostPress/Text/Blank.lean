import PostPress.Text.CodePoint

/-!
# PostPress.Text.Blank

White space, and cutting text at it.

* `isBlank` — the Unicode property White_Space;
* `splitWhere`, `pieces` — cut a text at every separator, with and without the
  empty parts;
* `trim`, `words` — the ends of a text without blanks, and its words.
-/

namespace PostPress.Text

/-- A white space character of any script. -/
def isBlank (c : Char) : Bool :=
  inRanges
    [(0x9, 0xD), (0x20, 0x20), (0x85, 0x85), (0xA0, 0xA0), (0x1680, 0x1680), (0x2000, 0x200A),
     (0x2028, 0x2029), (0x202F, 0x202F), (0x205F, 0x205F), (0x3000, 0x3000)] c.toNat

/-- The parts between the separators, empty ones included: there is one part
more than there are separators. -/
def splitWhere (isSeparator : Char → Bool) : List Char → List (List Char)
  | [] => [[]]
  | c :: rest =>
      match isSeparator c, splitWhere isSeparator rest with
      | true, parts => [] :: parts
      | false, [] => [[c]]
      | false, part :: parts => (c :: part) :: parts

/-- The parts between the separators that are not empty. -/
def pieces (isSeparator : Char → Bool) (text : List Char) : List (List Char) :=
  (splitWhere isSeparator text).filter (!·.isEmpty)

/-- A text without the leading and trailing characters of a class. -/
def trimWhere (isTrimmed : Char → Bool) (text : List Char) : List Char :=
  ((text.dropWhile isTrimmed).reverse.dropWhile isTrimmed).reverse

/-- A text without blanks at its ends. -/
def trim (text : String) : String := String.ofList (trimWhere isBlank text.toList)

/-- The words of a text: its longest runs without a blank. -/
def words (text : String) : List String := (pieces isBlank text.toList).map String.ofList

/-- Lower case for ASCII letters, every other character as it is. -/
def asciiLower (text : String) : String := String.ofList (text.toList.map Char.toLower)

/-- Whether `part` stands somewhere in a text. -/
def occursIn (part : List Char) : List Char → Bool
  | [] => part.isEmpty
  | c :: rest => part.isPrefixOf (c :: rest) || occursIn part rest

end PostPress.Text
