set_option autoImplicit false
set_option relaxedAutoImplicit false

/-!
# Doubles as exact numbers

Every finite double is a whole number of *units*, where the unit `2 ^ (-1074)` is the smallest
positive double. Comparison, rounding and remainders are stated on that whole number, so no step
of them loses anything.

## Main definitions

* `RegisterMachine.Exact` — what a double stands for.
* `RegisterMachine.Double.exact` — the reading of a double.
* `RegisterMachine.Double.nearest?` — the double nearest to a fraction.
* `RegisterMachine.Exact.compare` — the order of exact numbers, in which `nan` has no place.
* `RegisterMachine.Exact.toInt?` — the integer that an exact number equals, if it is one.
-/

namespace RegisterMachine

/-- What a double stands for. A finite one is a signed whole number of units; zero has a sign. -/
inductive Exact
  | nan
  | infinite (negative : Bool)
  | finite (negative : Bool) (units : Nat)
  deriving DecidableEq, Repr

/-- How many units make one. -/
def unitsPerOne : Nat := 1 <<< 1074

namespace Exact

/-- An integer as an exact number. -/
def ofInt (n : Int) : Exact :=
  .finite (n < 0) (n.natAbs * unitsPerOne)

/-- The signed number of units. -/
def signed (negative : Bool) (units : Nat) : Int :=
  if negative then -(units : Int) else units

/-- Whether the number is finite. -/
def isFinite : Exact → Bool
  | .finite _ _ => true
  | _ => false

/-- The order of two exact numbers. Nothing compares with `nan`, and the two zeros are equal. -/
def compare : Exact → Exact → Option Ordering
  | .nan, _ => none
  | _, .nan => none
  | .infinite s, .infinite t => some (Ord.compare t s)
  | .infinite s, .finite _ _ => some (if s then .lt else .gt)
  | .finite _ _, .infinite t => some (if t then .gt else .lt)
  | .finite s m, .finite t n => some (Ord.compare (signed s m) (signed t n))

/-- The greatest integer that is not above a finite number. -/
def floor? : Exact → Option Int
  | .finite negative units => some ((signed negative units).fdiv unitsPerOne)
  | _ => none

/-- The integer that the number equals, if it is one. -/
def toInt? : Exact → Option Int
  | .finite negative units =>
    if units % unitsPerOne = 0 then some (signed negative (units / unitsPerOne)) else none
  | _ => none

end Exact

namespace Double

/-- The weight of the sign bit of a double. -/
def signBitWeight : Nat := 0x8000000000000000

/-- The weight of the leading bit of a significand. That bit is not stored; the stored bit of this
weight is the lowest one of the exponent. -/
def leadingBit : Nat := 0x10000000000000

/-- The bits of infinity below its sign. -/
def infinityBits : Nat := 0x7FF0000000000000

/-- The bits of a double below its sign. -/
def magnitudeBits (x : Float) : Nat :=
  x.toBits.toNat % signBitWeight

/-- Whether the sign bit is set. -/
def signBit (x : Float) : Bool :=
  signBitWeight ≤ x.toBits.toNat

/-- The significand of a finite double, with its leading bit. -/
def significand (x : Float) : Nat :=
  if magnitudeBits x < leadingBit then magnitudeBits x
  else leadingBit + magnitudeBits x % leadingBit

/-- The place of the last bit of the significand, counted from the unit. -/
def scale (x : Float) : Nat :=
  magnitudeBits x / leadingBit - 1

/-- The reading of a double. -/
def exact (x : Float) : Exact :=
  if magnitudeBits x < infinityBits then .finite (signBit x) (significand x <<< scale x)
  else if magnitudeBits x = infinityBits then .infinite (signBit x)
  else .nan

/-- The double with a sign and the given bits below it. -/
def ofMagnitude (negative : Bool) (bits : Nat) : Float :=
  Float.ofBits (UInt64.ofNat (if negative then signBitWeight + bits else bits))

/-- Infinity with a sign. -/
def infinity (negative : Bool) : Float :=
  ofMagnitude negative infinityBits

/-- Zero with a sign. -/
def zero (negative : Bool) : Float :=
  ofMagnitude negative 0

/-- The value that is not a number. -/
def nan : Float :=
  ofMagnitude false 0x7FF8000000000000

/-- The whole number nearest to a fraction; of two equally near ones, the even one. -/
def roundDiv (num den : Nat) : Nat :=
  let quotient := num / den
  let rest := num % den
  if 2 * rest < den then quotient
  else if den < 2 * rest then quotient + 1
  else quotient + quotient % 2

/-- The double nearest to the fraction of two naturals with the given sign; of two equally near
ones, the one with the even significand. There is none if the fraction rounds beyond the largest
double. The bits of a double, read as a number, are its significand plus `2 ^ 52` times the place
of its last bit, also when rounding carries into the next power of two. -/
def nearest? (negative : Bool) (num den : Nat) : Option Float :=
  let scaled := num * unitsPerOne
  let place := (scaled / den).log2 - 52
  let bits := place * leadingBit + roundDiv scaled (den <<< place)
  if bits < infinityBits then some (ofMagnitude negative bits) else none

/-- The double nearest to an integer, if there is one. -/
def ofInt? (n : Int) : Option Float :=
  nearest? (n < 0) n.natAbs 1

/-- The double nearest to a signed number of units, infinity if it is too large. -/
def ofUnits (negative : Bool) (units : Nat) : Float :=
  (nearest? negative units unitsPerOne).getD (infinity negative)

/-- The integer that a double equals, if it is one. -/
def toInt? (x : Float) : Option Int :=
  (exact x).toInt?

end Double

end RegisterMachine
