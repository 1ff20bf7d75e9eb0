import PostPress.Text.Digit

/-!
# PostPress.Text.Percent

Percent-encoding of a URL fragment: the UTF-8 bytes of a text, where control
characters, the space, `"`, `<`, `>`, the backtick and all bytes beyond ASCII
are written as `%` and two capital hexadecimal digits.
-/

namespace PostPress.Text

/-- Whether a byte of a fragment has to be escaped. -/
def isFragmentEscaped (byte : UInt8) : Bool :=
  byte < 0x20 || byte > 0x7E || byte == 0x20 || byte == 0x22 || byte == 0x3C || byte == 0x3E ||
    byte == 0x60

/-- One byte of a fragment as text. -/
def encodeFragmentByte (byte : UInt8) : List Char :=
  if isFragmentEscaped byte then
    ['%', hexDigit (byte.toNat / 16), hexDigit (byte.toNat % 16)]
  else [Char.ofNat byte.toNat]

/-- A text as a URL fragment. -/
def encodeFragment (text : String) : String :=
  String.ofList (text.toList.flatMap fun c => (String.utf8EncodeChar c).flatMap encodeFragmentByte)

end PostPress.Text
