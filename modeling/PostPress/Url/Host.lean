import PostPress.Text.Digit

/-!
# PostPress.Url.Host

Hosts of URLs: domain names, IPv4 and IPv6 addresses, and opaque hosts. Only
whether a host is valid is of interest here.
-/

namespace PostPress.Url

/-- The parts of a text between the occurrences of a character. -/
def splitAt (separator : Char) : List Char → List (List Char)
  | [] => [[]]
  | c :: rest =>
      match splitAt separator rest with
      | [] => [[c]]
      | part :: parts => if c = separator then [] :: part :: parts else (c :: part) :: parts

/-! ### IPv4 -/

/-- The number of a part of an IPv4 address: octal after `0`, hexadecimal after
`0x`, otherwise decimal. -/
def ipv4Number? (part : List Char) : Option Nat :=
  let read (base : Nat) (digits : List Char) : Option Nat :=
    if digits.all (Text.isDigitOf base) then some (Text.numeral base digits) else none
  match part with
  | [] => none
  | '0' :: 'x' :: digits | '0' :: 'X' :: digits => read 16 digits
  | ['0'] => some 0
  | '0' :: digits => read 8 digits
  | digits => read 10 digits

/-- The parts of a domain name; a dot at its end is not counted. -/
def domainParts (domain : List Char) : List (List Char) :=
  let parts := splitAt '.' domain
  match parts.reverse with
  | [] :: last :: rest => (last :: rest).reverse
  | _ => parts

/-- Whether a domain name has to be an IPv4 address: its last part is a number. -/
def endsInNumber (domain : List Char) : Bool :=
  match (domainParts domain).getLast? with
  | none | some [] => false
  | some last => last.all Char.isDigit || (ipv4Number? last).isSome

/-- Whether a domain name is an IPv4 address. -/
def isIpv4 (domain : List Char) : Bool :=
  let parts := domainParts domain
  match parts.mapM ipv4Number? with
  | none => false
  | some numbers =>
      match numbers.reverse with
      | [] => false
      | last :: others =>
          others.length ≤ 3 && others.all (· ≤ 255) && last < Nat.pow 256 (4 - others.length)

/-! ### IPv6 -/

/-- A number of an IPv4 address within an IPv6 address: up to 255, without
leading zeros. -/
def isPlainOctet (part : List Char) : Bool :=
  !part.isEmpty && part.length ≤ 3 && part.all Char.isDigit && Text.numeral 10 part ≤ 255 &&
    (part.length = 1 || part.head? ≠ some '0')

/-- How many groups of sixteen bits the parts between colons make; an IPv4 address
may stand at the end. -/
def ipv6Groups? (mayEndInIpv4 : Bool) : List (List Char) → Option Nat
  | [] => some 0
  | [part] =>
      if part.contains '.' then
        let octets := splitAt '.' part
        if mayEndInIpv4 && octets.length = 4 && octets.all isPlainOctet then some 2 else none
      else if !part.isEmpty && part.length ≤ 4 && part.all (Text.isDigitOf 16) then some 1
      else none
  | part :: rest =>
      if !part.isEmpty && part.length ≤ 4 && part.all (Text.isDigitOf 16) then
        (ipv6Groups? mayEndInIpv4 rest).map (· + 1)
      else none

/-- A text cut at the first double colon. -/
def cutAtDoubleColon : List Char → Option (List Char × List Char)
  | ':' :: ':' :: rest => some ([], rest)
  | c :: rest => (cutAtDoubleColon rest).map fun (before, after) => (c :: before, after)
  | [] => none

/-- The parts of one side of a double colon. -/
def ipv6Side (side : List Char) : List (List Char) := if side.isEmpty then [] else splitAt ':' side

/-- Whether a text is an IPv6 address. -/
def isIpv6 (text : List Char) : Bool :=
  match cutAtDoubleColon text with
  | none => ipv6Groups? true (ipv6Side text) == some 8
  | some (before, after) =>
      match ipv6Groups? false (ipv6Side before), ipv6Groups? true (ipv6Side after) with
      | some m, some n => m + n ≤ 7
      | _, _ => false

/-! ### Domain names -/

/-- An ASCII character that no domain name holds. -/
def isForbiddenInDomain (c : Char) : Bool :=
  c.toNat ≤ 0x20 || c.toNat = 0x7F || "%#/:<>?@[\\]^|".toList.contains c

/-- An ASCII character that no opaque host holds. -/
def isForbiddenInOpaque (c : Char) : Bool := "\x00\t\n\r #/:<>?@[\\]^|".toList.contains c

/-- A text with its percent escapes replaced by bytes. -/
def percentDecode : List Char → List UInt8
  | '%' :: a :: b :: rest =>
      match Text.digitValue? 16 a, Text.digitValue? 16 b with
      | some high, some low => (high * 16 + low).toUInt8 :: percentDecode rest
      | _, _ => 0x25 :: percentDecode (a :: b :: rest)
  | c :: rest => String.utf8EncodeChar c ++ percentDecode rest
  | [] => []

/-- The characters of bytes in UTF-8; what is none becomes the replacement
character. -/
def decodeUtf8 : (fuel : Nat) → List UInt8 → List Char
  | 0, _ | _, [] => []
  | fuel + 1, b :: rest =>
      let tail (n : Nat) : Option Nat :=
        let following := rest.take n
        if following.length = n && following.all (fun x => 0x80 ≤ x && x < 0xC0) then
          some (following.foldl (fun v x => v * 64 + (x.toNat - 0x80)) 0)
        else none
      let char (n lead low high : Nat) : List Char :=
        match tail n with
        | some v =>
            let code := lead * Nat.pow 64 n + v
            if low ≤ code ∧ code ≤ high ∧ ¬ (0xD800 ≤ code ∧ code < 0xE000) then
              Char.ofNat code :: decodeUtf8 fuel (rest.drop n)
            else '\ufffd' :: decodeUtf8 fuel rest
        | none => '\ufffd' :: decodeUtf8 fuel rest
      if b < 0x80 then Char.ofNat b.toNat :: decodeUtf8 fuel rest
      else if 0xC2 ≤ b && b < 0xE0 then char 1 (b.toNat - 0xC0) 0x80 0x7FF
      else if 0xE0 ≤ b && b < 0xF0 then char 2 (b.toNat - 0xE0) 0x800 0xFFFF
      else if 0xF0 ≤ b && b < 0xF5 then char 3 (b.toNat - 0xF0) 0x10000 0x10FFFF
      else '\ufffd' :: decodeUtf8 fuel rest

end PostPress.Url
