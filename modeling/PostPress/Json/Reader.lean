import PostPress.Json.Value
import PostPress.Text.Digit

/-!
# PostPress.Json.Reader

Reading JSON, strictly: no comments, no trailing commas, no text after the
value, no leading zeros, no control characters inside strings. Reading takes at
most as many steps as the text has characters, so the length bounds it.
-/

namespace PostPress

namespace Json

/-- A character that may stand between the parts of a value. -/
def isSpace (c : Char) : Bool := c == ' ' || c == '\n' || c == '\t' || c == '\r'

/-- A text without the space in front. -/
def skipSpace (text : List Char) : List Char := text.dropWhile isSpace

/-- The longest run of digits in front, and what follows. -/
def readDigits (text : List Char) : List Nat × List Char :=
  ((text.takeWhile Char.isDigit).filterMap (Text.digitValue? 10), text.dropWhile Char.isDigit)

/-- The fraction of a number: a point with digits after it, or nothing. -/
def readFraction : List Char → Option (List Nat × List Char)
  | '.' :: rest =>
      match readDigits rest with
      | ([], _) => none
      | result => some result
  | text => some ([], text)

/-- The exponent of a number: a letter, a sign and digits, or nothing. -/
def readExponent : List Char → Option (Option Int × List Char)
  | c :: rest =>
      if c = 'e' ∨ c = 'E' then
        let (negative, digits) :=
          match rest with
          | '-' :: digits => (true, digits)
          | '+' :: digits => (false, digits)
          | digits => (false, digits)
        match readDigits digits with
        | ([], _) => none
        | (digits, rest) =>
            let value : Nat := digits.foldl (fun value digit => value * 10 + digit) 0
            some (some (if negative then -value else value), rest)
      else some (none, c :: rest)
  | [] => some (none, [])

/-- A number without its sign. -/
def readUnsigned (negative : Bool) (text : List Char) : Option (JsonNumber × List Char) := do
  let (integer, rest) ←
    match readDigits text with
    | ([], _) => none
    | (0 :: _ :: _, _) => none
    | result => some result
  let (fraction, rest) ← readFraction rest
  let (exponent, rest) ← readExponent rest
  return (⟨negative, integer, fraction, exponent⟩, rest)

/-- A number. -/
def readNumber : List Char → Option (JsonNumber × List Char)
  | '-' :: rest => readUnsigned true rest
  | text => readUnsigned false text

/-- One unit of sixteen bits in a string: a character, or half of one that is
written as an escape. -/
inductive StringUnit
  /-- A character. -/
  | char (c : Char)
  /-- The first half of a character beyond the sixteen-bit range. -/
  | leading (code : Nat)
  /-- The second half. -/
  | trailing (code : Nat)

/-- The four hexadecimal digits of an escape. -/
def readHex4 : List Char → Option (Nat × List Char)
  | a :: b :: c :: d :: rest => do
      let a ← Text.digitValue? 16 a
      let b ← Text.digitValue? 16 b
      let c ← Text.digitValue? 16 c
      let d ← Text.digitValue? 16 d
      return (a * 4096 + b * 256 + c * 16 + d, rest)
  | _ => none

/-- What follows the backslash of an escape. -/
def readEscape : List Char → Option (StringUnit × List Char)
  | '"' :: rest => some (.char '"', rest)
  | '\\' :: rest => some (.char '\\', rest)
  | '/' :: rest => some (.char '/', rest)
  | 'b' :: rest => some (.char '\x08', rest)
  | 'f' :: rest => some (.char '\x0c', rest)
  | 'n' :: rest => some (.char '\n', rest)
  | 'r' :: rest => some (.char '\r', rest)
  | 't' :: rest => some (.char '\t', rest)
  | 'u' :: rest =>
      (readHex4 rest).map fun (code, rest) =>
        if 0xD800 ≤ code ∧ code < 0xDC00 then (.leading code, rest)
        else if 0xDC00 ≤ code ∧ code < 0xE000 then (.trailing code, rest)
        else (.char (Char.ofNat code), rest)
  | _ => none

/-- The units of a string whose opening quote has been read, within `fuel`
characters. -/
def readUnits : (fuel : Nat) → List Char → Option (List StringUnit × List Char)
  | 0, _ | _, [] => none
  | _ + 1, '"' :: rest => some ([], rest)
  | fuel + 1, '\\' :: rest => do
      let (unit, rest) ← readEscape rest
      let (units, rest) ← readUnits fuel rest
      return (unit :: units, rest)
  | fuel + 1, c :: rest =>
      if c.toNat < 0x20 then none
      else do
        let (units, rest) ← readUnits fuel rest
        return (.char c :: units, rest)

/-- The characters of units; nothing if a half stands alone. -/
def joinUnits : List StringUnit → Option (List Char)
  | [] => some []
  | .char c :: rest => (joinUnits rest).map (c :: ·)
  | .leading high :: .trailing low :: rest =>
      (joinUnits rest).map
        (Char.ofNat (0x10000 + (high - 0xD800) * 0x400 + (low - 0xDC00)) :: ·)
  | .leading _ :: _ => none
  | .trailing _ :: _ => none

/-- The text of a string whose opening quote has been read; nothing inside if it
is broken. -/
def readString (text : List Char) : Option (Option String × List Char) :=
  (readUnits text.length text).map fun (units, rest) =>
    ((joinUnits units).map String.ofList, rest)

mutual

/-- A value, with space in front. -/
def readValue : (fuel : Nat) → List Char → Option (Json × List Char)
  | 0, _ => none
  | fuel + 1, text =>
      match skipSpace text with
      | 'n' :: 'u' :: 'l' :: 'l' :: rest => some (.null, rest)
      | 't' :: 'r' :: 'u' :: 'e' :: rest => some (.bool true, rest)
      | 'f' :: 'a' :: 'l' :: 's' :: 'e' :: rest => some (.bool false, rest)
      | '"' :: rest =>
          (readString rest).map fun (value, rest) =>
            ((value.map Json.string).getD .brokenString, rest)
      | '[' :: rest =>
          match skipSpace rest with
          | ']' :: rest => some (.array [], rest)
          | rest => (readItems fuel rest).map fun (items, rest) => (.array items, rest)
      | '{' :: rest =>
          match skipSpace rest with
          | '}' :: rest => some (.object [], rest)
          | rest => (readFields fuel rest).map fun (fields, rest) => (.object fields, rest)
      | text => (readNumber text).map fun (value, rest) => (.number value, rest)

/-- The values of a list up to its closing bracket; there is at least one. -/
def readItems : (fuel : Nat) → List Char → Option (List Json × List Char)
  | 0, _ => none
  | fuel + 1, text => do
      let (item, rest) ← readValue fuel text
      match skipSpace rest with
      | ']' :: rest => return ([item], rest)
      | ',' :: rest =>
          let (items, rest) ← readItems fuel rest
          return (item :: items, rest)
      | _ => none

/-- The fields of an object up to its closing brace; there is at least one. -/
def readFields : (fuel : Nat) → List Char →
    Option (List (Option String × Json) × List Char)
  | 0, _ => none
  | fuel + 1, text =>
      match skipSpace text with
      | '"' :: rest => do
          let (name, rest) ← readString rest
          match skipSpace rest with
          | ':' :: rest =>
              let (value, rest) ← readValue fuel rest
              match skipSpace rest with
              | '}' :: rest => return ([(name, value)], rest)
              | ',' :: rest =>
                  let (fields, rest) ← readFields fuel rest
                  return ((name, value) :: fields, rest)
              | _ => none
          | _ => none
      | _ => none

end

/-- The value that a text is; nothing if it is none, or if anything but space
follows. -/
def read? (text : String) : Option Json :=
  let chars := text.toList
  match readValue (2 * chars.length + 2) chars with
  | some (value, rest) => if (skipSpace rest).isEmpty then some value else none
  | none => none

end Json

end PostPress
