import PostPress.Markdown.Escape
import PostPress.Markdown.Label

/-!
# PostPress.Markdown.Target

Where links and images lead: a destination with an optional title.

* `Target` — a destination and a title, escapes replaced;
* `Resource`, `readResource` — the target in parentheses right after a label, as
  it is written;
* `readDefinition`, `takeDefinitions` — the targets that are given to labels in
  front of a paragraph.
-/

namespace PostPress.Markdown

/-- A destination and a title. -/
structure Target where
  /-- The destination. -/
  url : String
  /-- The title. -/
  title : Option String
deriving DecidableEq, Repr

/-! ### Destinations and titles -/

/-- The characters of a destination in angle brackets, after the first one. -/
def readEnclosed : List Char → Option (List Char × List Char)
  | '>' :: rest => some ([], rest)
  | '\\' :: c :: rest =>
      if c = '<' ∨ c = '>' ∨ c = '\\' then
        (readEnclosed rest).map fun (chars, rest) => ('\\' :: c :: chars, rest)
      else (readEnclosed (c :: rest)).map fun (chars, rest) => ('\\' :: chars, rest)
  | c :: rest =>
      if isLineEnd c ∨ c = '<' then none
      else (readEnclosed rest).map fun (chars, rest) => (c :: chars, rest)
  | [] => none

/-- A control character of ASCII that cannot stand in a bare destination. -/
def isControl (c : Char) : Bool := Text.inRanges [(0x1, 0x1F), (0x7F, 0x7F)] c.toNat

/-- The characters of a destination without angle brackets, inside so many
parentheses of its own. At most `limit` of them may be open. -/
def readBare (limit depth : Nat) : List Char → Option (List Char × List Char)
  | [] => if depth = 0 then some ([], []) else none
  | '\\' :: c :: rest =>
      if c = '(' ∨ c = ')' ∨ c = '\\' then
        (readBare limit depth rest).map fun (chars, rest) => ('\\' :: c :: chars, rest)
      else (readBare limit depth (c :: rest)).map fun (chars, rest) => ('\\' :: chars, rest)
  | c :: rest =>
      if depth = 0 ∧ (isSpacing c ∨ c = ')') then some ([], c :: rest)
      else
        let next : Option Nat :=
          if c = '(' then if depth < limit then some (depth + 1) else none
          else if c = ')' then some (depth - 1)
          else if isControl c ∨ c = ' ' then none
          else some depth
        next.bind fun depth =>
          (readBare limit depth rest).map fun (chars, rest) => (c :: chars, rest)

/-- A destination, with or without angle brackets. Only in angle brackets it may
be empty. -/
def readDestination (limit : Nat) : List Char → Option (List Char × List Char)
  | '<' :: rest => readEnclosed rest
  | [] => none
  | c :: rest =>
      if isControl c ∨ c = ' ' ∨ c = ')' then none else readBare limit 0 (c :: rest)

/-- The characters of a title up to its closing mark. -/
def readQuoted (mark : Char) : List Char → Option (List Char × List Char)
  | [] => none
  | '\\' :: c :: rest =>
      if c = mark ∨ c = '\\' then
        (readQuoted mark rest).map fun (chars, rest) => ('\\' :: c :: chars, rest)
      else (readQuoted mark (c :: rest)).map fun (chars, rest) => ('\\' :: chars, rest)
  | c :: rest =>
      if c = mark then some ([], rest)
      else (readQuoted mark rest).map fun (chars, rest) => (c :: chars, rest)

/-- A title, in quotation marks or in parentheses. -/
def readTitle : List Char → Option (List Char × List Char)
  | '"' :: rest => readQuoted '"' rest
  | '\'' :: rest => readQuoted '\'' rest
  | '(' :: rest => readQuoted ')' rest
  | _ => none

/-- The target of a destination and a title; an empty title is none. -/
def Target.ofSource (destination : List Char) (title : Option (List Char)) : Target :=
  ⟨unescape destination, (title.filter fun chars => !chars.isEmpty).map unescape⟩

/-! ### Resources -/

/-- A destination and a title as they are written. -/
structure Resource where
  /-- The destination. -/
  destination : List Char
  /-- The title. -/
  title : Option (List Char)
deriving DecidableEq, Repr

/-- The target that a resource gives. -/
def Resource.target (resource : Resource) : Target :=
  .ofSource resource.destination resource.title

/-- The most parentheses that may be open in the destination of a resource. -/
def resourceDepth : Nat := 32

/-- The end of a resource. -/
def closeResource (resource : Resource) : List Char → Option (Resource × List Char)
  | ')' :: rest => some (resource, rest)
  | _ => none

/-- The resource in parentheses, after the opening one. -/
def readResource (text : List Char) : Option (Resource × List Char) :=
  let inner := skipGapAndLineEnd text
  match inner with
  | ')' :: rest => some (⟨[], none⟩, rest)
  | _ =>
      (readDestination resourceDepth inner).bind fun (destination, rest) =>
        let between := skipGapAndLineEnd rest
        let spaced := match rest with
          | c :: _ => isSpacing c
          | [] => false
        match spaced, between with
        | true, '"' :: _ | true, '\'' :: _ | true, '(' :: _ =>
            (readTitle between).bind fun (title, rest) =>
              closeResource ⟨destination, some title⟩ (skipGapAndLineEnd rest)
        | _, _ => closeResource ⟨destination, none⟩ between

/-! ### Definitions -/

/-- A definition: a label and the target it is given. -/
structure Definition where
  /-- The label. -/
  label : List Char
  /-- The target. -/
  target : Target
deriving DecidableEq, Repr

/-- What follows the rest of a line that holds nothing but a gap. -/
def endLine? (text : List Char) : Option (List Char) :=
  match skipGap text with
  | [] => some []
  | rest => (lineEnd? rest).map Prod.snd

/-- A title after the destination of a definition, alone up to the end of its
line. -/
def readDefinitionTitle : List Char → Option (List Char × List Char)
  | c :: rest =>
      if isSpacing c then
        (readTitle (skipGapAndLineEnd (c :: rest))).bind fun (title, rest) =>
          (endLine? rest).map fun rest => (title, rest)
      else none
  | [] => none

/-- The definition that a text begins with, and the lines after it. If what
follows the destination is no title, the destination must end its line. -/
def readDefinition (text : List Char) : Option (Definition × List Char) :=
  match skipGap text with
  | '[' :: rest =>
      (readLabel rest).bind fun (label, rest) =>
        match rest with
        | ':' :: rest =>
            (readDestination rest.length (skipGapAndLineEnd rest)).bind fun (destination, rest) =>
              match readDefinitionTitle rest with
              | some (title, rest) => some (⟨label, .ofSource destination (some title)⟩, rest)
              | none =>
                  (endLine? rest).map fun rest => (⟨label, .ofSource destination none⟩, rest)
        | _ => none
  | _ => none

/-- The definitions in front of a text, and the text after them. Every
definition takes characters, so the length bounds their number. -/
def takeDefinitionsFrom : Nat → List Char → List Definition × List Char
  | 0, text => ([], text)
  | fuel + 1, text =>
      match readDefinition text with
      | some (definition, rest) =>
          let (definitions, rest) := takeDefinitionsFrom fuel rest
          (definition :: definitions, rest)
      | none => ([], text)

/-- The definitions in front of a text, and the text after them. -/
def takeDefinitions (text : List Char) : List Definition × List Char :=
  takeDefinitionsFrom text.length text

end PostPress.Markdown
