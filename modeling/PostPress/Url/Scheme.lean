import PostPress.Url.Label

/-!
# PostPress.Url.Scheme

Whether a text is an absolute URL, and of which scheme; a relative one; or none
at all.
-/

namespace PostPress.Url

/-- What a text is, read as a URL without a base. -/
inductive Reading
  /-- An absolute URL with this scheme, in lower case. -/
  | absolute (scheme : String)
  /-- A URL relative to another one. -/
  | relative
  /-- No URL. -/
  | invalid
deriving DecidableEq, Repr

/-- A character that is trimmed from the ends of a URL. -/
def isTrimmed (c : Char) : Bool := c.toNat ≤ 0x20

/-- A character that is passed over in a URL. -/
def isIgnored (c : Char) : Bool := c == '\t' || c == '\n' || c == '\r'

/-- The characters of a URL that count. -/
def relevant (text : List Char) : List Char :=
  (((text.dropWhile isTrimmed).reverse.dropWhile isTrimmed).reverse).filter (!isIgnored ·)

/-- A character of a scheme. -/
def isSchemeChar (c : Char) : Bool := c.isAlphanum || c == '+' || c == '-' || c == '.'

/-- The scheme of a URL and what follows its colon. -/
def cutScheme (url : List Char) : Option (String × List Char) :=
  match url with
  | c :: _ =>
      if c.isAlpha then
        match url.dropWhile isSchemeChar with
        | ':' :: rest => some (String.ofList ((url.takeWhile isSchemeChar).map Char.toLower), rest)
        | _ => none
      else none
  | [] => none

/-- Schemes whose URLs always have a host. -/
def hostSchemes : List String := ["http", "https", "ws", "wss", "ftp"]

/-- Whether a host of a scheme that has domain names is valid. -/
def isDomain (host : List Char) : Bool :=
  match host with
  | '[' :: rest => rest.getLast? == some ']' && isIpv6 rest.dropLast
  | host =>
      let bytes := percentDecode host
      match (decodeUtf8 bytes.length bytes).mapM domainImage with
      | none => false
      | some parts =>
          let domain := composeStroke parts.flatten
          !domain.isEmpty && !domain.any isForbiddenInDomain && isName domain &&
            (!endsInNumber domain || isIpv4 domain)

/-- Whether a host of any other scheme is valid. -/
def isOpaqueHost (host : List Char) : Bool :=
  match host with
  | '[' :: rest => rest.getLast? == some ']' && isIpv6 rest.dropLast
  | host => !host.any isForbiddenInOpaque

/-- The host of an authority: up to a colon that is not within brackets. -/
def cutHost (inBrackets : Bool) : List Char → List Char × List Char
  | [] => ([], [])
  | c :: rest =>
      if c = ':' ∧ inBrackets = false then ([], c :: rest)
      else
        let inBrackets := if c = '[' then true else if c = ']' then false else inBrackets
        let (host, rest) := cutHost inBrackets rest
        (c :: host, rest)

/-- Whether what follows a host is a number behind a colon, up to a backslash, or
nothing. -/
def isPortNumber : List Char → Bool
  | [] => true
  | ':' :: rest =>
      let digits := rest.takeWhile (· ≠ '\\')
      digits.all Char.isDigit && Text.numeral 10 digits < 65536
  | _ => false

/-- A character that ends an authority; a backslash does if the scheme has domain
names. -/
def endsAuthority (isSpecial : Bool) (c : Char) : Bool :=
  c == '/' || c == '?' || c == '#' || (isSpecial && c == '\\')

/-- Whether there may be no host behind what stands before the last at sign of an
authority: nothing, or a colon alone, is no user. But nothing at all in front of
the sign needs a host, unless the URL ends there. -/
def mayLackHost (isLast : Bool) : (beforeSigns : List (List Char)) → Bool
  | [] => true
  | [[]] => isLast
  | [[':']] => true
  | _ => false

/-- Whether what follows two slashes begins with a valid authority. -/
def hasValidAuthority (isSpecial : Bool) (text : List Char) : Bool :=
  let authority := text.takeWhile (!endsAuthority isSpecial ·)
  let parts := splitAt '@' authority
  let (host, port) := cutHost false (parts.getLast?.getD [])
  if host.isEmpty then
    !isSpecial && port.isEmpty && mayLackHost (authority.length == text.length) parts.dropLast
  else (if isSpecial then isDomain host else isOpaqueHost host) && isPortNumber port

/-- Whether a text is the letter of a drive, with a colon or a bar behind it. -/
def isDriveLetter : List Char → Bool
  | [c, mark] => c.isAlpha && (mark == ':' || mark == '|')
  | _ => false

/-- Whether what follows the colon of a file's URL is valid. Two slashes have a host
behind them, unless it is left out or the letter of a drive. -/
def isFilePath : List Char → Bool
  | first :: second :: rest =>
      let isSlash (c : Char) : Bool := c == '/' || c == '\\'
      let host := rest.takeWhile (!endsAuthority true ·)
      !isSlash first || !isSlash second || host.isEmpty || isDriveLetter host || isDomain host
  | _ => true

/-- Read a text as a URL. -/
def read (text : String) : Reading :=
  match cutScheme (relevant text.toList) with
  | none => .relative
  | some (scheme, rest) =>
      let valid :=
        if hostSchemes.contains scheme then
          hasValidAuthority true (rest.dropWhile fun c => c == '/' || c == '\\')
        else if scheme = "file" then isFilePath rest
        else
          match rest with
          | '/' :: '/' :: rest => hasValidAuthority false rest
          | _ => true
      if valid then .absolute scheme else .invalid

end PostPress.Url
