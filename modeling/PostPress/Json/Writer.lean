import PostPress.Heading.Outline
import PostPress.Json.Value

/-!
# PostPress.Json.Writer

Writing an outline as JSON, laid out for readers: two spaces for each level,
one item or field on a line. An entry has the fields `text`, `depth`, `id` and,
if it has entries below, `children`.
-/

namespace PostPress

namespace Json

/-- A digit of an escape, in lower case. -/
def escapeDigit (n : Nat) : Char := if n < 10 then Char.ofNat (48 + n) else Char.ofNat (87 + n)

/-- A character inside a string. -/
def escapeChar (c : Char) : List Char :=
  match c with
  | '"' => ['\\', '"']
  | '\\' => ['\\', '\\']
  | '\x08' => ['\\', 'b']
  | '\x0c' => ['\\', 'f']
  | '\n' => ['\\', 'n']
  | '\r' => ['\\', 'r']
  | '\t' => ['\\', 't']
  | c =>
      if c.toNat < 0x20 then
        ['\\', 'u', '0', '0', escapeDigit (c.toNat / 16), escapeDigit (c.toNat % 16)]
      else [c]

/-- A text as a string. -/
def writeString (text : String) : List Char := '"' :: text.toList.flatMap escapeChar ++ ['"']

/-- The beginning of a line at a level. -/
def newline (level : Nat) : List Char := '\n' :: List.replicate (2 * level) ' '

/-- A field whose value is already written. -/
def writeField (level : Nat) (name : String) (value : List Char) : List Char :=
  newline level ++ writeString name ++ ':' :: ' ' :: value

end Json

mutual

/-- An entry of an outline, at a level. -/
def TocEntry.writeJson (level : Nat) : TocEntry → List Char
  | ⟨text, depth, id, children⟩ =>
      '{' :: Json.writeField (level + 1) "text" (Json.writeString text) ++
        ',' :: Json.writeField (level + 1) "depth" depth.repr.toList ++
        ',' :: Json.writeField (level + 1) "id" (Json.writeString id) ++
        (if children.isEmpty then []
         else ',' :: Json.writeField (level + 1) "children"
            ('[' :: TocEntry.writeJsonItems (level + 2) true children ++
              Json.newline (level + 1) ++ [']'])) ++
        Json.newline level ++ ['}']

/-- The entries of a list, each on a line of its own. -/
def TocEntry.writeJsonItems (level : Nat) (isFirst : Bool) : List TocEntry → List Char
  | [] => []
  | entry :: rest =>
      (if isFirst then [] else [',']) ++ Json.newline level ++
        TocEntry.writeJson level entry ++ TocEntry.writeJsonItems level false rest

end

/-- An outline as JSON. -/
def tocToJson (entries : List TocEntry) : String :=
  String.ofList <|
    if entries.isEmpty then ['[', ']']
    else '[' :: TocEntry.writeJsonItems 1 true entries ++ Json.newline 0 ++ [']']

end PostPress
