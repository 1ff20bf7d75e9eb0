import PostPress.Markdown.Line
import PostPress.Text.Blank
import PostPress.Text.Punctuation

/-!
# PostPress.Markdown.Autolink

Addresses that are links as they stand, without any marks.

* `readAddress` — an address that begins with `http://`, `https://` or `www.`;
* `splitEmails` — the electronic mail addresses in a text.

Punctuation at the end of an address does not belong to it, nor does a closing
parenthesis that nothing in the address opens.
-/

namespace PostPress.Markdown

/-- A character that is neither a blank nor punctuation. -/
def isWordCharacter (c : Char) : Bool := !Text.isBlank c && !Text.isPunctuation c

/-! ### The end of an address -/

/-- Where a run of trailing punctuation stands. -/
inductive TrailState
  /-- Between two marks. -/
  | plain
  /-- After an ampersand. -/
  | referenceStart
  /-- Within the name of a reference. -/
  | referenceName

/-- Marks that can trail an address. -/
def trailingMarks : List Char :=
  ['!', '"', '\'', ')', '*', ',', '.', ':', ';', '?', '_', '~']

/-- Whether nothing but trailing punctuation stands before the next blank, the
next angle bracket or the end. A reference counts as punctuation, and so does a
bracket unless a target follows it. -/
def isTrail : TrailState → List Char → Bool
  | .plain, [] => true
  | _, [] => false
  | .plain, c :: rest =>
      if trailingMarks.contains c then isTrail .plain rest
      else if c = '&' then isTrail .referenceStart rest
      else if c = '<' then true
      else if c = ']' then
        match rest with
        | [] => true
        | next :: _ => isSpacing next || next == '(' || next == '[' || isTrail .plain rest
      else Text.isBlank c
  | .referenceStart, c :: rest => c.isAlpha && isTrail .referenceName rest
  | .referenceName, c :: rest =>
      if c.isAlpha then isTrail .referenceName rest else c == ';' && isTrail .plain rest

/-- The characters of a path, of which so many parentheses were opened and
closed before. -/
def takePath (opened closed : Nat) : List Char → List Char
  | [] => []
  | c :: rest =>
      if Text.isBlank c then []
      else if c = '(' then c :: takePath (opened + 1) closed rest
      else if c = '&' ∨ c = '<' ∨ c = ']' ∨ trailingMarks.contains c then
        if isTrail .plain (c :: rest) ∧ ¬(c = ')' ∧ closed < opened) then []
        else c :: takePath opened (if c = ')' then closed + 1 else closed) rest
      else c :: takePath opened closed rest

/-! ### Domains -/

/-- The characters of a domain. `seen` says whether it holds more than
punctuation, `last` and `beforeLast` whether an underscore stands in these
segments. The last two segments hold none. -/
def takeDomain (seen last beforeLast : Bool) : List Char → Option (List Char)
  | [] => if seen && !last && !beforeLast then some [] else none
  | c :: rest =>
      let done := if seen && !last && !beforeLast then some [] else none
      if c = '.' ∨ c = '_' then
        if isTrail .plain (c :: rest) then done
        else if c = '_' then (takeDomain seen true beforeLast rest).map (c :: ·)
        else (takeDomain seen false last rest).map (c :: ·)
      else if c = '-' then (takeDomain seen last beforeLast rest).map (c :: ·)
      else if isWordCharacter c then (takeDomain true last beforeLast rest).map (c :: ·)
      else done

/-- A domain with a path, and what follows. -/
def readDomain (text : List Char) : Option (List Char × List Char) :=
  (takeDomain false false false text).map fun domain =>
    let after := text.drop domain.length
    let path := takePath 0 0 after
    (domain ++ path, after.drop path.length)

/-- Whether an address with a protocol may begin after a character. -/
def mayPrecedeProtocol : Option Char → Bool
  | some c => !c.isAlpha
  | none => true

/-- Whether an address with `www.` may begin after a character. -/
def mayPrecedeWww : Option Char → Bool
  | some c => isSpacing c || ['(', '*', '_', '[', ']', '~'].contains c
  | none => true

/-- The address after the letters of its protocol. -/
def readAfterProtocol : List Char → Option (List Char × List Char)
  | ':' :: '/' :: '/' :: rest =>
      (readDomain rest).map fun (address, rest) => (':' :: '/' :: '/' :: address, rest)
  | _ => none

/-- The address that a text begins with, what it leads to, and what follows it.
`previous` is the character before. -/
def readAddress (previous : Option Char) (text : List Char) :
    Option (String × String × List Char) :=
  let letters := text.takeWhile Char.isAlpha
  let lower := letters.map Char.toLower
  if lower = ['h', 't', 't', 'p'] ∨ lower = ['h', 't', 't', 'p', 's'] then
    if mayPrecedeProtocol previous then
      (readAfterProtocol (text.drop letters.length)).map fun (address, rest) =>
        let address := String.ofList (letters ++ address)
        (address, address, rest)
    else none
  else
    match (text.take 5).map Char.toLower with
    | 'w' :: 'w' :: 'w' :: '.' :: _ :: _ =>
        if mayPrecedeWww previous then
          (readDomain text).map fun (address, rest) =>
            let address := String.ofList address
            (address, "http://" ++ address, rest)
        else none
    | _ => none

/-! ### Electronic mail -/

/-- A part of a text: plain, or a link. -/
inductive Stretch
  /-- Plain text. -/
  | plain (chars : List Char)
  /-- An address and what it leads to. -/
  | address (text url : String)
deriving Repr

/-- A character that can stand before the sign of a mail address. -/
def isMailboxCharacter (c : Char) : Bool :=
  c.isAlphanum || c == '+' || c == '-' || c == '.' || c == '_'

/-- A domain of a mail address: letters, digits, hyphens and underscores, and
points before a letter or a digit. -/
def takeMailDomain (slashes : Bool) : List Char → List Char
  | [] => []
  | c :: rest =>
      if c.isAlphanum || c == '-' || c == '_' || (slashes && c == '/') then
        c :: takeMailDomain slashes rest
      else if c = '.' then
        match rest with
        | next :: _ => if next.isAlphanum then c :: takeMailDomain slashes rest else []
        | [] => []
      else []

/-- Whether a mail domain is one: it holds a point and ends with a letter. -/
def isMailDomain (domain : List Char) : Bool :=
  domain.contains '.' && (domain.getLast?.elim false fun c => c == '.' || c.isAlpha)

/-- The mail address around a sign that stands after some text, which is given
last character first: the text before the address, the address and what it leads
to, and what follows. -/
def readMail (before after : List Char) :
    Option (List Char × String × String × List Char) :=
  let mailbox := before.takeWhile isMailboxCharacter
  let outer := before.dropWhile isMailboxCharacter
  if mailbox.isEmpty ∨ outer.head? = some '/' then none
  else
    let (protocol, outer) :=
      match outer with
      | ':' :: letters =>
          let name := (letters.takeWhile Char.isAlphanum).reverse
          let lower := String.ofList (name.map Char.toLower)
          if lower = "xmpp" ∨ lower = "mailto" then
            (some (lower, name ++ [':']), letters.dropWhile Char.isAlphanum)
          else (none, outer)
      | _ => (none, outer)
    let domain := takeMailDomain (protocol.elim false fun (lower, _) => lower == "xmpp") after
    if isMailDomain domain then
      let address := mailbox.reverse ++ '@' :: domain
      let rest := after.drop domain.length
      match protocol with
      | some (_, name) =>
          let address := String.ofList (name ++ address)
          some (outer, address, address, rest)
      | none =>
          let address := String.ofList address
          some (outer, address, "mailto:" ++ address, rest)
    else none

/-- Plain text as a stretch, if there is any; the text is given last character
first. -/
def plainStretch (chars : List Char) : List Stretch :=
  if chars.isEmpty then [] else [.plain chars.reverse]

/-- A text cut at its mail addresses. `before` is the text since the last one,
last character first. Every step takes a character, so the length bounds their
number. -/
def splitEmailsFrom : Nat → List Char → List Char → List Stretch
  | 0, before, _ => plainStretch before
  | _ + 1, before, [] => plainStretch before
  | fuel + 1, before, '@' :: rest =>
      match readMail before rest with
      | some (outer, address, url, rest) =>
          plainStretch outer ++ .address address url ::
            match rest with
            | next :: rest => splitEmailsFrom fuel [next] rest
            | [] => []
      | none => splitEmailsFrom fuel ('@' :: before) rest
  | fuel + 1, before, c :: rest => splitEmailsFrom fuel (c :: before) rest

/-- A text cut at its mail addresses. -/
def splitEmails (text : List Char) : List Stretch := splitEmailsFrom (text.length + 1) [] text

end PostPress.Markdown
