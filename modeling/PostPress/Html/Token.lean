import PostPress.Text.Digit
import PostPress.Text.Reference

/-!
# PostPress.Html.Token

Cutting HTML markup into tokens.

* `Token`, `TextMode` — what the markup is cut into, and how text is read: an
  element such as `textarea` or `script` changes it for its content;
* `nextToken` — the first token of some markup, and the markup after it.

A character that is not a blank and one that is come in different tokens, since
blanks are treated differently between elements. Every token but the last one
takes at least one character.
-/

namespace PostPress.Html

/-- The vocabulary an attribute belongs to, apart from the common one. -/
inductive AttrSpace
  /-- No vocabulary of its own. -/
  | none
  /-- XLink. -/
  | xlink
  /-- XML. -/
  | xml
  /-- XML namespaces. -/
  | xmlns
deriving DecidableEq, Repr

/-- An attribute of a tag. -/
structure Attribute where
  /-- The vocabulary of the name. -/
  space : AttrSpace
  /-- The name within the vocabulary. -/
  name : String
  /-- The value, references replaced. -/
  value : String
deriving DecidableEq, Repr

/-- A token of HTML markup. -/
inductive Token
  /-- A start tag. -/
  | startTag (name : String) (attrs : List Attribute) (selfClosing : Bool)
  /-- An end tag. -/
  | endTag (name : String)
  /-- Characters that are not blanks. -/
  | text (chars : List Char)
  /-- Blanks. -/
  | blank (chars : List Char)
  /-- The character U+0000. -/
  | null
  /-- A comment, or what is read as one. -/
  | comment
  /-- A document type. -/
  | doctype
  /-- The end of the markup. -/
  | eof
deriving DecidableEq, Repr

/-- How text is read. -/
inductive TextMode
  /-- With tags and references. -/
  | data
  /-- With references, up to the end tag of an element. -/
  | references (element : String)
  /-- As it is, up to the end tag of an element. -/
  | raw (element : String)
  /-- As it is, up to the end tag of a script, which may stand inside a comment. -/
  | script
  /-- As it is, up to the end. -/
  | plaintext
deriving DecidableEq, Repr

/-- A blank within a tag and between elements. -/
def isTagBlank (c : Char) : Bool := c == '\t' || c == '\n' || c == '\x0c' || c == ' '

/-- A blank within text. -/
def isTextBlank (c : Char) : Bool := isTagBlank c || c == '\r'

/-- The character that stands for one that cannot be. -/
def replacement : Char := '\ufffd'

/-- Markup with line feeds for all line ends. -/
def normalizeNewlines : List Char → List Char
  | [] => []
  | '\r' :: '\n' :: rest => '\n' :: normalizeNewlines rest
  | '\r' :: rest => '\n' :: normalizeNewlines rest
  | c :: rest => c :: normalizeNewlines rest

/-! ### Character references -/

/-- The characters that the numbers from 0x80 to 0x9F stand for, as in the code
page that such references come from. -/
def windowsCharacters : List Nat :=
  [0x20AC, 0x81, 0x201A, 0x192, 0x201E, 0x2026, 0x2020, 0x2021, 0x2C6, 0x2030, 0x160, 0x2039,
   0x152, 0x8D, 0x17D, 0x8F, 0x90, 0x2018, 0x2019, 0x201C, 0x201D, 0x2022, 0x2013, 0x2014, 0x2DC,
   0x2122, 0x161, 0x203A, 0x153, 0x9D, 0x17E, 0x178]

/-- The character that a numeric reference stands for. -/
def numberedCharacter (code : Nat) : Char :=
  if code = 0 ∨ 0x10FFFF < code ∨ (0xD800 ≤ code ∧ code < 0xE000) then replacement
  else if 0x80 ≤ code ∧ code < 0xA0 then
    Char.ofNat ((windowsCharacters[code - 0x80]?).getD code)
  else Char.ofNat code

/-- A numeric reference after `&#` or `&#x`. -/
def readNumeric (base : Nat) (text : List Char) : Option (Char × List Char) :=
  let digits := text.takeWhile (Text.isDigitOf base)
  if digits.isEmpty then none
  else
    let rest := text.dropWhile (Text.isDigitOf base)
    let rest :=
      match rest with
      | ';' :: rest => rest
      | rest => rest
    some (numberedCharacter (Text.numeral base digits), rest)

/-- A named reference after `&`. In an attribute a name without a semicolon does
not count before a letter, a digit or `=`. -/
def readNamed (inAttribute : Bool) (text : List Char) : Option (List Char × List Char) :=
  let run := text.takeWhile Char.isAlphanum
  let rest := text.dropWhile Char.isAlphanum
  let whole :=
    match rest with
    | ';' :: rest => (Text.namedReference? run).map fun chars => (chars, rest)
    | _ => none
  whole.or <| (Text.legacyReference? run).bind fun (length, chars) =>
    let after := text.drop length
    let blocked :=
      match after with
      | c :: _ => c.isAlphanum || c == '='
      | [] => false
    if inAttribute && blocked then none else some (chars, after)

/-- A reference after `&`, or the ampersand itself. -/
def readReference (inAttribute : Bool) (text : List Char) : List Char × List Char :=
  let result : Option (List Char × List Char) :=
    match text with
    | '#' :: c :: rest =>
        let number :=
          if c = 'x' ∨ c = 'X' then readNumeric 16 rest else readNumeric 10 (c :: rest)
        number.map fun (char, rest) => ([char], rest)
    | text => readNamed inAttribute text
  result.getD (['&'], text)

/-- Text with its references replaced, within `fuel` characters. -/
def replaceReferences (inAttribute : Bool) : (fuel : Nat) → List Char → List Char
  | 0, _ | _, [] => []
  | fuel + 1, '&' :: rest =>
      let (chars, rest) := readReference inAttribute rest
      chars ++ replaceReferences inAttribute fuel rest
  | fuel + 1, c :: rest =>
      (if c = '\x00' then replacement else c) :: replaceReferences inAttribute fuel rest

/-- The value of an attribute from its text. -/
def attributeValue (text : List Char) : String :=
  String.ofList (replaceReferences true text.length text)

/-! ### Tags -/

/-- A name in a tag: in lower case, and without U+0000. -/
def tagName (text : List Char) : String :=
  String.ofList (text.map fun c => if c = '\x00' then replacement else c.toLower)

/-- The value of an attribute, after `=` and blanks. -/
def readValue (text : List Char) : Option (List Char × List Char) :=
  match text with
  | [] => none
  | '"' :: rest =>
      match rest.dropWhile (· ≠ '"') with
      | [] => none
      | _ :: after => some (rest.takeWhile (· ≠ '"'), after)
  | '\'' :: rest =>
      match rest.dropWhile (· ≠ '\'') with
      | [] => none
      | _ :: after => some (rest.takeWhile (· ≠ '\''), after)
  | text =>
      let isEnd (c : Char) : Bool := isTagBlank c || c == '>'
      some (text.takeWhile (!isEnd ·), text.dropWhile (!isEnd ·))

/-- The name of an attribute; an equals sign may begin it. -/
def readName : List Char → List Char × List Char
  | [] => ([], [])
  | c :: rest =>
      let isEnd (c : Char) : Bool := isTagBlank c || c == '/' || c == '>' || c == '='
      (c :: rest.takeWhile (!isEnd ·), rest.dropWhile (!isEnd ·))

/-- Add an attribute unless there is one of its name. -/
def addAttribute (attrs : List Attribute) (name : String) (value : String) : List Attribute :=
  if attrs.any (·.name == name) then attrs else attrs ++ [⟨.none, name, value⟩]

/-- The attributes of a tag up to its end, and whether it closes itself; nothing
if the markup ends before. -/
def readAttributes : (fuel : Nat) → List Attribute → List Char →
    Option (List Attribute × Bool × List Char)
  | 0, _, _ => none
  | fuel + 1, attrs, text =>
      match text.dropWhile isTagBlank with
      | [] => none
      | '>' :: rest => some (attrs, false, rest)
      | '/' :: '>' :: rest => some (attrs, true, rest)
      | '/' :: rest => readAttributes fuel attrs rest
      | text =>
          let (name, rest) := readName text
          match rest.dropWhile isTagBlank with
          | '=' :: rest =>
              match readValue (rest.dropWhile isTagBlank) with
              | none => none
              | some (value, rest) =>
                  let attrs := addAttribute attrs (tagName name) (attributeValue value)
                  readAttributes fuel attrs rest
          | rest => readAttributes fuel (addAttribute attrs (tagName name) "") rest

/-- A tag from its name on; nothing if the markup ends inside. -/
def readTag (isEnd : Bool) (text : List Char) : Option (Token × List Char) :=
  let isNameEnd (c : Char) : Bool := isTagBlank c || c == '/' || c == '>'
  let name := tagName (text.takeWhile (!isNameEnd ·))
  let rest := text.dropWhile (!isNameEnd ·)
  (readAttributes (rest.length + 1) [] rest).map fun (attrs, selfClosing, rest) =>
    (if isEnd then .endTag name else .startTag name attrs selfClosing, rest)

/-! ### Comments and text -/

/-- What follows the first `>`. -/
def afterAngle (text : List Char) : List Char := (text.dropWhile (· ≠ '>')).drop 1

/-- What follows the end of a comment. -/
def afterComment : List Char → List Char
  | [] => []
  | '-' :: '-' :: '>' :: rest => rest
  | '-' :: '-' :: '!' :: '>' :: rest => rest
  | _ :: rest => afterComment rest

/-- The content of a section of character data, and what follows it. -/
def readCharacterData : List Char → List Char × List Char
  | [] => ([], [])
  | ']' :: ']' :: '>' :: rest => ([], rest)
  | c :: rest =>
      let (chars, rest) := readCharacterData rest
      (c :: chars, rest)

/-- What `<!` begins. -/
def readDeclaration (allowCharacterData : Bool) : List Char → Token × List Char
  | '-' :: '-' :: '>' :: rest => (.comment, rest)
  | '-' :: '-' :: '-' :: '>' :: rest => (.comment, rest)
  | '-' :: '-' :: rest => (.comment, afterComment rest)
  | text =>
      if (text.take 7).map Char.toLower = "doctype".toList then (.doctype, afterAngle text)
      else if allowCharacterData && text.take 7 = "[CDATA[".toList then
        let (chars, rest) := readCharacterData (text.drop 7)
        (.text chars, rest)
      else (.comment, afterAngle text)

/-- A run of characters as a token. -/
def textToken (chars : List Char) : Token :=
  if chars.all isTextBlank then .blank chars else .text chars

/-- Whether markup begins with the end tag of an element. -/
def startsEndTag (element : String) (text : List Char) : Bool :=
  match text with
  | '<' :: '/' :: rest =>
      let name := element.toList
      (rest.take name.length).map Char.toLower == name &&
        match rest.drop name.length with
        | c :: _ => isTagBlank c || c == '/' || c == '>'
        | [] => false
  | _ => false

/-- The text up to the end tag of an element. -/
def readUntilEndTag (element : String) : List Char → List Char × List Char
  | [] => ([], [])
  | c :: rest =>
      if startsEndTag element (c :: rest) then ([], c :: rest)
      else
        let (chars, rest) := readUntilEndTag element rest
        (c :: chars, rest)

/-- Where in a script the reader is. -/
inductive ScriptState
  /-- Outside of comments. -/
  | plain
  /-- In a comment. -/
  | escaped
  /-- In a script element that a comment holds. -/
  | doubleEscaped
deriving DecidableEq

/-- Whether markup begins with a tag of a script after these characters. -/
def startsScriptTag (opening : List Char) (text : List Char) : Bool :=
  let name := opening ++ "script".toList
  (text.take name.length).map Char.toLower == name &&
    match text.drop name.length with
    | c :: _ => isTagBlank c || c == '/' || c == '>'
    | [] => false

/-- The text up to the end tag of a script; `dashes` says how many hyphens stand
right before. A comment in a script begins with `<!--` and ends with `-->`, and
may hold a script element with its end tag. -/
def readScript (state : ScriptState) (dashes : Nat) : List Char → List Char × List Char
  | [] => ([], [])
  | c :: rest =>
      let text := c :: rest
      let isEnd := startsEndTag "script" text
      let closesComment := c = '>' ∧ 2 ≤ dashes
      let state' : Option ScriptState :=
        match state with
        | .plain =>
            if isEnd then none
            else if "<!--".toList.isPrefixOf text then some .escaped
            else some .plain
        | .escaped =>
            if isEnd then none
            else if closesComment then some .plain
            else if startsScriptTag ['<'] text then some .doubleEscaped
            else some .escaped
        | .doubleEscaped =>
            if closesComment then some .plain
            else if isEnd then some .escaped
            else some .doubleEscaped
      match state' with
      | none => ([], text)
      | some state =>
          let (chars, rest) := readScript state (if c = '-' then dashes + 1 else 0) rest
          (c :: chars, rest)

/-- Raw text as it is kept: without U+0000. -/
def rawText (chars : List Char) : List Char :=
  chars.map fun c => if c = '\x00' then replacement else c

/-- What `<` begins; nothing if it is passed over without a token. -/
def readMarkup (allowCharacterData : Bool) (text : List Char) : Option Token × List Char :=
  match text with
  | '!' :: rest =>
      let (token, rest) := readDeclaration allowCharacterData rest
      (some token, rest)
  | '/' :: [] => (some (.text ['<', '/']), [])
  | '/' :: '>' :: rest => (none, rest)
  | '/' :: c :: rest =>
      if c.isAlpha then
        match readTag true (c :: rest) with
        | some (token, rest) => (some token, rest)
        | none => (none, [])
      else (some .comment, afterAngle (c :: rest))
  | '?' :: rest => (some .comment, afterAngle rest)
  | c :: rest =>
      if c.isAlpha then
        match readTag false (c :: rest) with
        | some (token, rest) => (some token, rest)
        | none => (none, [])
      else (some (.text ['<']), text)
  | [] => (some (.text ['<']), [])

/-- The end tag of an element at the front of markup. -/
def readElementEnd (text : List Char) : Option Token × List Char :=
  match readTag true (text.drop 2) with
  | some (token, rest) => (some token, rest)
  | none => (none, [])

/-- Text up to the end tag of an element, or the end tag if it comes first. -/
def readRaw (split : List Char → List Char × List Char) (finish : List Char → List Char)
    (text : List Char) : Option Token × List Char :=
  match split text with
  | ([], []) => (some .eof, [])
  | ([], rest) => readElementEnd rest
  | (chars, rest) => (some (.text (finish chars)), rest)

/-- The first token of some markup, and what follows it; no token if something is
passed over. Sections of character data are known only in foreign elements. -/
def nextToken (mode : TextMode) (allowCharacterData : Bool) (text : List Char) :
    Option Token × List Char :=
  match mode with
  | .references element =>
      let replace (chars : List Char) : List Char := replaceReferences false chars.length chars
      readRaw (readUntilEndTag element) replace text
  | .raw element => readRaw (readUntilEndTag element) rawText text
  | .script => readRaw (readScript .plain 0) rawText text
  | .plaintext =>
      match text with
      | [] => (some .eof, [])
      | text => (some (.text (rawText text)), [])
  | .data =>
      match text with
      | [] => (some .eof, [])
      | '<' :: rest => readMarkup allowCharacterData rest
      | '&' :: rest =>
          let (chars, rest) := readReference false rest
          (some (textToken chars), rest)
      | '\x00' :: rest => (some .null, rest)
      | c :: rest =>
          let goesOn (d : Char) : Bool :=
            d ≠ '<' && d ≠ '&' && d ≠ '\x00' && isTextBlank d == isTextBlank c
          (some (textToken (c :: rest.takeWhile goesOn)), rest.dropWhile goesOn)

end PostPress.Html
