import PostPress.Number.Binary64

/-!
# PostPress.Scroll.Coordinate

Positions on a page. The band, the layout and the tracker work over any type of
coordinates: the rationals, where arithmetic is exact, and doubles, where it is
rounded and a value may be no number at all.
-/

namespace PostPress

universe u

/-- Numbers that serve as positions and lengths. -/
class Coordinate (K : Type u) where
  /-- The number `numerator · 10^(-places)`. -/
  ofDecimal : (numerator : Nat) → (places : Nat) → K
  /-- The sum. -/
  add : K → K → K
  /-- The difference. -/
  sub : K → K → K
  /-- The product. -/
  mul : K → K → K
  /-- The quotient. -/
  div : K → K → K
  /-- The absolute value. -/
  abs : K → K
  /-- Whether the first number is at most the second. -/
  le : K → K → Bool
  /-- Whether the first number is less than the second. -/
  lt : K → K → Bool
  /-- Whether a value is comparable to itself, as every number is. -/
  isNumber : K → Bool
  /-- The order in which values are sorted: all of them are comparable in it. -/
  compare : K → K → Ordering

namespace Coordinate

variable {K : Type u} [Coordinate K]

/-- Zero. -/
def zero : K := ofDecimal 0 0

/-- One. -/
def one : K := ofDecimal 1 0

/-- The greater of two numbers; of a number and a value that is none, the number. -/
def max (a b : K) : K :=
  if !isNumber a then b else if !isNumber b then a else if lt b a then a else b

/-- The lesser of two numbers; of a number and a value that is none, the number. -/
def min (a b : K) : K :=
  if !isNumber a then b else if !isNumber b then a else if lt a b then a else b

/-- The number between zero and one that is nearest. -/
def clampUnit (a : K) : K := if lt a zero then zero else if lt one a then one else a

end Coordinate

instance : Coordinate Rat where
  ofDecimal numerator places := (numerator : Rat) / (Nat.pow 10 places : Nat)
  add := (· + ·)
  sub := (· - ·)
  mul := (· * ·)
  div := (· / ·)
  abs a := if a < 0 then -a else a
  le a b := decide (a ≤ b)
  lt a b := decide (a < b)
  isNumber _ := true
  compare a b := if a < b then .lt else if a = b then .eq else .gt

instance : Coordinate Binary64 where
  ofDecimal numerator places := (Binary64.ofNat numerator).div (Binary64.tenTo places)
  add := Binary64.add
  sub := Binary64.sub
  mul := Binary64.mul
  div := Binary64.div
  abs := Binary64.abs
  le := Binary64.le
  lt := Binary64.lt
  isNumber a := !a.isNaN
  compare a b :=
    if a.totalKey < b.totalKey then .lt else if a.totalKey = b.totalKey then .eq else .gt

end PostPress
