import PostPress.Markdown.Line
import PostPress.Text.Lowercase
import PostPress.Text.Uppercase

/-!
# PostPress.Markdown.Label

The labels that references and definitions carry, in brackets.

* `identifier` — what two labels must agree in to mean the same target;
* `readLabel` — the label after an opening bracket.
-/

namespace PostPress.Markdown

/-- The words of a label, separated by spacing. -/
def labelWords : List Char → List (List Char)
  | [] => []
  | c :: rest =>
      if isSpacing c then labelWords rest
      else
        match rest with
        | next :: _ =>
            if isSpacing next then [c] :: labelWords rest
            else
              match labelWords rest with
              | word :: words => (c :: word) :: words
              | [] => [[c]]
        | [] => [[c]]

/-- The identifier of a label: its words with one space between them, in upper
case. Letters whose upper-case form is shared go through lower case first. -/
def identifier (label : List Char) : String :=
  let words := [' '].intercalate (labelWords label)
  String.ofList ((words.flatMap Text.lowercase).flatMap Text.uppercase)

/-- The longest label. -/
def longestLabel : Nat := 999

/-- The characters of a label up to its closing bracket, and what follows. A
bracket or a backslash may be written behind a backslash. -/
def splitLabel : List Char → Option (List Char × List Char)
  | [] => none
  | ']' :: rest => some ([], rest)
  | '[' :: _ => none
  | '\\' :: c :: rest =>
      if c = '[' ∨ c = ']' ∨ c = '\\' then
        (splitLabel rest).map fun (label, rest) => ('\\' :: c :: label, rest)
      else
        (splitLabel (c :: rest)).map fun (label, rest) => ('\\' :: label, rest)
  | c :: rest => (splitLabel rest).map fun (label, rest) => (c :: label, rest)

/-- The label after an opening bracket: not blank, and not too long. -/
def readLabel (text : List Char) : Option (List Char × List Char) :=
  (splitLabel text).filter fun (label, _) =>
    !label.all isSpacing && label.length ≤ longestLabel

end PostPress.Markdown
