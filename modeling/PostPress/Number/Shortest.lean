import PostPress.Number.Binary64

/-!
# PostPress.Number.Shortest

The shortest decimal that reads back as a given double, and of the shortest ones
the nearest, the larger one of two; written without an exponent.

A positive double is `m · 2^q`. All reals between its midpoints to the two
neighbouring doubles round to it, and the midpoints themselves do if `m` is even.
For one, two, … seventeen digits the two neighbours of the double on that decimal
grid are tried in exact arithmetic.
-/

namespace PostPress

namespace Binary64

/-- The integer significand and the exponent of two of a finite double. -/
def decompose (b : Binary64) : Nat × Int :=
  let fraction := b.magnitude % Nat.pow 2 52
  let exponent : Nat := b.magnitude / Nat.pow 2 52
  if exponent = 0 then (fraction, -1074) else (fraction + Nat.pow 2 52, (exponent : Int) - 1075)

/-- A positive double with the interval that rounds to it, as numerators over one
denominator. -/
structure Neighbourhood where
  /-- Four times the lower end. -/
  low : Nat
  /-- Four times the value. -/
  value : Nat
  /-- Four times the upper end. -/
  high : Nat
  /-- The denominator. -/
  denominator : Nat
  /-- Whether the ends belong to the interval. -/
  closed : Bool

/-- The neighbourhood of a positive finite double. -/
def neighbourhood (b : Binary64) : Neighbourhood :=
  let (m, q) := b.decompose
  -- Below a power of two the doubles lie twice as close.
  let below := if m = Nat.pow 2 52 ∧ -1074 < q then 1 else 2
  let scale := Nat.pow 2 q.toNat
  ⟨(4 * m - below) * scale, 4 * m * scale, (4 * m + 2) * scale, 4 * Nat.pow 2 (-q).toNat, m % 2 = 0⟩

namespace Neighbourhood

/-- Whether the decimal `digits · 10^exponent` rounds to the double. -/
def admits (n : Neighbourhood) (digits : Nat) (exponent : Int) : Bool :=
  let scaled := digits * Nat.pow 10 exponent.toNat * n.denominator
  let low := n.low * Nat.pow 10 (-exponent).toNat
  let high := n.high * Nat.pow 10 (-exponent).toNat
  if n.closed then low ≤ scaled && scaled ≤ high else low < scaled && scaled < high

/-- The multiple of `10^exponent` that rounds to the double and lies nearest to
it, if there is one; of two that lie as near the larger. -/
def onGrid? (n : Neighbourhood) (exponent : Int) : Option Nat :=
  let numerator := n.value * Nat.pow 10 (-exponent).toNat
  let denominator := n.denominator * Nat.pow 10 exponent.toNat
  let below := numerator / denominator
  let rest := numerator % denominator
  match n.admits below exponent, n.admits (below + 1) exponent with
  | true, true => if 2 * rest < denominator then some below else some (below + 1)
  | true, false => some below
  | false, true => some (below + 1)
  | false, false => none

end Neighbourhood

/-- The exponent `e` of ten with `10^(e-1) ≤ value < 10^e`, found from below
within `fuel` steps. -/
def decimalExponent (numerator denominator : Nat) : (fuel : Nat) → Int → Int
  | 0, e => e
  | fuel + 1, e =>
      if numerator * Nat.pow 10 (-e).toNat < denominator * Nat.pow 10 e.toNat then e
      else decimalExponent numerator denominator fuel (e + 1)

/-- The digits of a positive finite double and the exponent of ten of the last
one. -/
def shortest (b : Binary64) : Nat × Int :=
  let n := b.neighbourhood
  let e := decimalExponent n.value n.denominator 640 (-324)
  ((List.range' 1 17).findSome? fun (count : Nat) =>
      let exponent := e - count
      (n.onGrid? exponent).map fun digits => (digits, exponent)).getD (0, 0)

/-- A decimal without its trailing zeros. -/
def stripZeros : (fuel : Nat) → Nat → Int → Nat × Int
  | 0, digits, exponent => (digits, exponent)
  | fuel + 1, digits, exponent =>
      if digits ≠ 0 ∧ digits % 10 = 0 then stripZeros fuel (digits / 10) (exponent + 1)
      else (digits, exponent)

/-- A decimal in positional notation. -/
def positional (digits : Nat) (exponent : Int) : String :=
  if 0 ≤ exponent then digits.repr ++ String.ofList (List.replicate exponent.toNat '0')
  else
    let places := (-exponent).toNat
    let text := digits.repr.toList
    let padded := List.replicate (places + 1 - text.length) '0' ++ text
    String.ofList (padded.take (padded.length - places) ++ '.' ::
      padded.drop (padded.length - places))

/-- The shortest text that reads back as the double, without an exponent. -/
def toText (b : Binary64) : String :=
  if b.isNaN then "NaN"
  else
    let sign := if b.isNegative then "-" else ""
    if b.isInfinite then sign ++ "inf"
    else if b.magnitude = 0 then sign ++ "0"
    else
      let (digits, exponent) := b.shortest
      let (digits, exponent) := stripZeros 20 digits exponent
      sign ++ positional digits exponent

end Binary64

end PostPress
