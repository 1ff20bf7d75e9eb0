/-!
# PostPress.Url.Punycode

Characters beyond ASCII written in ASCII, as in the labels of domain names.

* `readDelta` — how far the next character lies behind the last one;
* `decodePunycode` — the characters of a text.

The text holds the ASCII characters first, up to its last hyphen. Numbers follow,
one for each other character, in the order of their code points: each says how
many pairs of a code point and a place are passed over.
-/

namespace PostPress.Url

/-- The value of a digit in base 36: letters first. -/
def base36? (c : Char) : Option Nat :=
  if 'a' ≤ c ∧ c ≤ 'z' then some (c.toNat - 0x61)
  else if 'A' ≤ c ∧ c ≤ 'Z' then some (c.toNat - 0x41)
  else if c.isDigit then some (c.toNat - 0x30 + 26)
  else none

/-- A number, its lowest digit first, and what follows it. A digit below the
threshold of its place is the last one. -/
def readDelta (bias : Nat) : (place weight value : Nat) → List Char → Option (Nat × List Char)
  | _, _, _, [] => none
  | place, weight, value, c :: rest => do
      let digit ← base36? c
      let threshold := max 1 (min 26 (36 * place - bias))
      let value := value + digit * weight
      if digit < threshold then some (value, rest)
      else readDelta bias (place + 1) (weight * (36 - threshold)) value rest

/-- How often a number can be divided by 35 before it is at most 455, and the
quotient. -/
def scaleDown (delta : Nat) : Nat × Nat :=
  if 455 < delta then
    let (times, delta) := scaleDown (delta / 35)
    (times + 1, delta)
  else (0, delta)
termination_by delta

/-- The bias of the thresholds after a number, with so many characters in place. -/
def nextBias (delta characters : Nat) (isFirst : Bool) : Nat :=
  let delta := if isFirst then delta / 700 else delta / 2
  let (times, delta) := scaleDown (delta + delta / characters)
  36 * times + 36 * delta / (delta + 38)

/-- The characters, with those that the numbers of a text insert. `code` and
`place` are where the last one went. Each number takes a character of the text,
so the length bounds their count. -/
def insertDeltas : (fuel code place bias : Nat) → List Char → List Char → Option (List Char)
  | _, _, _, _, characters, [] => some characters
  | 0, _, _, _, _, _ => none
  | fuel + 1, code, place, bias, characters, digits => do
      let (delta, digits) ← readDelta bias 1 1 0 digits
      let count := characters.length + 1
      let code := code + (place + delta) / count
      let place := (place + delta) % count
      if Nat.isValidChar code then
        let characters := characters.take place ++ Char.ofNat code :: characters.drop place
        insertDeltas fuel code (place + 1) (nextBias delta count (count == 1)) characters digits
      else none

/-- The characters that a text stands for. -/
def decodePunycode (text : List Char) : Option (List Char) :=
  let digits := (text.reverse.takeWhile (· ≠ '-')).reverse
  let characters := text.take (text.length - digits.length - 1)
  insertDeltas digits.length 0x80 0 72 characters digits

end PostPress.Url
