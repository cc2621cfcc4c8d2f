import RegisterMachine.Double.Basic

set_option autoImplicit false
set_option relaxedAutoImplicit false

/-!
# Floored division of doubles

The remainder that takes the sign of the divisor, and the floored quotient that goes with it. Both
start from the exact remainder that takes the sign of the dividend.

## Main definitions

* `RegisterMachine.Double.truncatedRemainder` — the exact remainder with the dividend's sign.
* `RegisterMachine.Double.flooredRemainder` — the remainder with the divisor's sign.
* `RegisterMachine.Double.flooredQuotient` — the quotient, rounded down.
-/

namespace RegisterMachine.Double

/-- What is left of `x` after taking away as many whole `y` as fit, with the sign of `x`. -/
def truncatedRemainder (x y : Float) : Float :=
  match exact x, exact y with
  | .finite s m, .finite _ n => if n = 0 then nan else ofUnits s (m % n)
  | .finite _ _, .infinite _ => x
  | _, _ => nan

/-- A double with the sign of another. -/
def zeroLike (x : Float) : Float :=
  zero (signBit x)

/-- Whether a double is zero, with either sign. -/
def isZero (x : Float) : Bool :=
  x == zero false

/-- Whether a double is below zero. -/
def isBelowZero (x : Float) : Bool :=
  x < zero false

/-- One. -/
def one : Float := 1.0

/-- One half. -/
def half : Float := 0.5

/-- The remainder of a division by a divisor that is not zero, with the divisor's sign. -/
def flooredRemainder (x y : Float) : Float :=
  let rest := truncatedRemainder x y
  if isZero rest then zeroLike y
  else if isBelowZero y != isBelowZero rest then rest + y
  else rest

/-- The greatest whole double that is not above a double. -/
def floor (x : Float) : Float :=
  match (exact x).floor? with
  | some n => ofUnits (n < 0) (n.natAbs * unitsPerOne)
  | none => x

/-- The quotient of a division by a divisor that is not zero, rounded down. The division is done
on what is left after the remainder is taken away, so it is nearly whole before it is rounded. -/
def flooredQuotient (x y : Float) : Float :=
  let rest := truncatedRemainder x y
  let whole := (x - rest) / y
  let quotient :=
    if !isZero rest && isBelowZero y != isBelowZero rest then whole - one else whole
  if isZero quotient then zeroLike (x / y)
  else
    let below := floor quotient
    if half < quotient - below then below + one else below

end RegisterMachine.Double
