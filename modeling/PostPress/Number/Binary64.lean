/-!
# PostPress.Number.Binary64

Double-precision numbers by their bits. Two NaNs are told apart by their bits,
since the total order on doubles does so: an operation hands a NaN operand on,
and a NaN that comes out of numbers has its sign bit set.

* arithmetic: `add`, `sub`, `mul`, `div`, `neg`, `abs`;
* order: `le`, `lt` and `beq` as numbers, `totalKey` for the order of all bit
  patterns.
-/

namespace PostPress

/-- A double-precision number. -/
structure Binary64 where
  /-- Sign, exponent and significand. -/
  bits : UInt64
deriving DecidableEq, Repr, Inhabited

namespace Binary64

/-- The number of a machine float. -/
def ofFloat (f : Float) : Binary64 := ⟨f.toBits⟩

/-- The machine float of a number; NaNs lose their bits. -/
def toFloat (b : Binary64) : Float := Float.ofBits b.bits

/-- The bits without the sign. -/
def magnitude (b : Binary64) : Nat := (b.bits &&& 0x7FFFFFFFFFFFFFFF).toNat

/-- Whether the sign bit is set. -/
def isNegative (b : Binary64) : Bool := b.bits ≥ 0x8000000000000000

/-- The bits of infinity. -/
def infinityBits : Nat := 0x7FF0000000000000

/-- Whether the bits stand for no number. -/
def isNaN (b : Binary64) : Bool := infinityBits < b.magnitude

/-- Whether the number is infinite, of either sign. -/
def isInfinite (b : Binary64) : Bool := b.magnitude == infinityBits

/-- Infinity. -/
def infinity : Binary64 := ⟨0x7FF0000000000000⟩

/-- The NaN that is written as such. -/
def nan : Binary64 := ⟨0x7FF8000000000000⟩

/-- The NaN that an operation on numbers gives when it has no result. -/
def undefinedResult : Binary64 := ⟨0xFFF8000000000000⟩

/-- The operand NaN as a result: its quiet bit is set. -/
def quiet (b : Binary64) : Binary64 := ⟨b.bits ||| 0x0008000000000000⟩

/-- An operation on two numbers, with what it does about NaNs. -/
def lift₂ (operation : Float → Float → Float) (a b : Binary64) : Binary64 :=
  if a.isNaN then a.quiet
  else if b.isNaN then b.quiet
  else
    let result := ofFloat (operation a.toFloat b.toFloat)
    if result.isNaN then undefinedResult else result

/-- The sum, rounded to nearest. -/
def add : Binary64 → Binary64 → Binary64 := lift₂ (· + ·)

/-- The difference, rounded to nearest. -/
def sub : Binary64 → Binary64 → Binary64 := lift₂ (· - ·)

/-- The product, rounded to nearest. -/
def mul : Binary64 → Binary64 → Binary64 := lift₂ (· * ·)

/-- The quotient, rounded to nearest. -/
def div : Binary64 → Binary64 → Binary64 := lift₂ (· / ·)

/-- The number with the opposite sign. -/
def neg (b : Binary64) : Binary64 := ⟨b.bits ^^^ 0x8000000000000000⟩

/-- The number without its sign. -/
def abs (b : Binary64) : Binary64 := ⟨b.bits &&& 0x7FFFFFFFFFFFFFFF⟩

/-- The place of a number among the numbers; both zeros have one place. -/
def key (b : Binary64) : Int := if b.isNegative then -b.magnitude else b.magnitude

/-- At most, as numbers; a NaN is not comparable. -/
def le (a b : Binary64) : Bool := !a.isNaN && !b.isNaN && a.key ≤ b.key

/-- Less than, as numbers; a NaN is not comparable. -/
def lt (a b : Binary64) : Bool := !a.isNaN && !b.isNaN && a.key < b.key

/-- Equal as numbers; a NaN is not equal to itself. -/
def beq (a b : Binary64) : Bool := !a.isNaN && !b.isNaN && a.key == b.key

/-- The place of a bit pattern in the total order of doubles. -/
def totalKey (b : Binary64) : Int := if b.isNegative then -b.magnitude - 1 else b.magnitude

/-- The nearest double to a number that fits 64 bits. -/
def ofUInt64 (n : UInt64) : Binary64 := ofFloat n.toFloat

/-- The nearest double to a natural number that fits 64 bits. -/
def ofNat (n : Nat) : Binary64 := ofUInt64 n.toUInt64

/-- The nearest double to a power of ten. -/
def tenTo (exponent : Nat) : Binary64 := ofFloat (Float.ofScientific 1 false exponent)

/-- A significand times a power of ten: scaled by one multiplication or division,
by several divisions if the power of ten has no double. Nothing if the result is
too large. -/
def scaled? (significand : UInt64) (exponent : Int) : Option Binary64 :=
  let s := ofUInt64 significand
  if 0 ≤ exponent then
    if exponent ≤ 308 then
      let result := s.mul (tenTo exponent.toNat)
      if result.isInfinite then none else some result
    else if significand = 0 then some s
    else none
  else
    let steps := ((-exponent).toNat - 1) / 308
    -- Two divisions by the largest power of ten leave nothing of any significand.
    let shrunk := (List.replicate (min steps 3) ()).foldl (fun r _ => r.div (tenTo 308)) s
    if 3 < steps then some shrunk
    else some (shrunk.div (tenTo ((-exponent).toNat - 308 * steps)))

end Binary64

end PostPress
