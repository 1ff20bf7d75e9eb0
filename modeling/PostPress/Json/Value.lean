import PostPress.Number.Binary64

/-!
# PostPress.Json.Value

JSON values. Numbers are kept as they are written; a string whose escapes do not
make a text (a lone surrogate) is a value of its own kind, and a name like it no
name, since a reader may pass over either.
-/

namespace PostPress

/-- A number as it is written. -/
structure JsonNumber where
  /-- Whether it has a minus sign. -/
  negative : Bool
  /-- The digits before the point. -/
  integer : List Nat
  /-- The digits after the point; none if there is no point. -/
  fraction : List Nat
  /-- The exponent of ten, if one is written. -/
  exponent : Option Int
deriving DecidableEq, Repr

/-- A JSON value. -/
inductive Json
  /-- The value `null`. -/
  | null
  /-- A truth value. -/
  | bool (value : Bool)
  /-- A number. -/
  | number (value : JsonNumber)
  /-- A string. -/
  | string (value : String)
  /-- A string with an escape of half a character. -/
  | brokenString
  /-- A list of values. -/
  | array (items : List Json)
  /-- Named values, in the order in which they are written. A name with an escape
  of half a character is none. -/
  | object (fields : List (Option String × Json))
deriving Inhabited, Repr

namespace JsonNumber

/-- Add digits to a significand while it fits 64 bits: the significand, and how
many digits were added. -/
def accumulate : Nat → List Nat → Nat × Nat
  | significand, [] => (significand, 0)
  | significand, digit :: rest =>
      if significand * 10 + digit < Nat.pow 2 64 then
        let (result, count) := accumulate (significand * 10 + digit) rest
        (result, count + 1)
      else (significand, 0)

/-- The double that the number denotes: the leading digits, as many as fit 64
bits, scaled by a power of ten. Nothing if it is too large for a double. -/
def toBinary64? (n : JsonNumber) : Option Binary64 :=
  let (whole, taken) := accumulate 0 n.integer
  let dropped := n.integer.length - taken
  let (significand, places) := accumulate whole n.fraction
  let exponent : Int := dropped - places + n.exponent.getD 0
  (Binary64.scaled? significand.toUInt64 exponent).map fun magnitude =>
    if n.negative then magnitude.neg else magnitude

/-- The number as a natural number, if it is written as one. -/
def toNat? (n : JsonNumber) : Option Nat :=
  if n.negative || !n.fraction.isEmpty || n.exponent.isSome then none
  else some (n.integer.foldl (fun value digit => value * 10 + digit) 0)

end JsonNumber

namespace Json

/-- The text of a string. -/
def string? : Json → Option String
  | .string value => some value
  | _ => none

/-- The value of the last field of a name. -/
def field? (json : Json) (name : String) : Option Json :=
  match json with
  | .object fields => fields.reverse.lookup (some name)
  | _ => none

end Json

end PostPress
