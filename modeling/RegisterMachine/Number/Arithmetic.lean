import RegisterMachine.Double.Division
import RegisterMachine.Fault

set_option autoImplicit false
set_option relaxedAutoImplicit false

/-!
# Arithmetic

Sums, differences and products of integers wrap to 64 bits; quotients and remainders are exact.
With a double on either side the other side is converted and the result is a double, except that
a floored quotient is an integer whenever it is finite.

## Main definitions

* `RegisterMachine.wrap` — the signed 64-bit integer with the same low bits.
* `RegisterMachine.Number.add`, `sub`, `mul`, `div`, `idiv`, `mod`, `pow`, `sqrt`, `inc`, `dec` —
  the arithmetic operations.

## References

* [Spec] The expanded specification of the machine. (§4.7, "Execution Engine".)
-/

namespace RegisterMachine

/-- The number of different 64-bit words. -/
def wordCount : Nat := 0x10000000000000000

/-- The signed 64-bit integer with the same low bits. [Spec, §4.7] -/
def wrap (n : Int) : Int :=
  n.bmod wordCount

/-- A double that has been rounded to, unless there is none. -/
def unlessTooLarge (e : RangeError) : Option Float → Except Cause Float
  | some x => .ok x
  | none => .error (.outOfRange e)

/-- The double nearest to a scalar. -/
def Scalar.toDouble : Scalar → Except Cause Float
  | .double x => .ok x
  | .int n => unlessTooLarge .integerTooLarge (Double.ofInt? n)

namespace Number

/-- Applies the integer operation to two integers and wraps, and the operation on doubles to all
other pairs. The left side is converted first. -/
def lift (onInts : Int → Int → Int) (onDoubles : Float → Float → Float) (a b : Number) :
    Except Cause Number :=
  match a.scalar, b.scalar with
  | .int m, .int n => .ok (.int (wrap (onInts m n)))
  | s, t => do
    let x ← s.toDouble
    let y ← t.toDouble
    return .double (onDoubles x y)

/-- The sum. -/
def add : Number → Number → Except Cause Number :=
  lift (· + ·) (· + ·)

/-- The difference. -/
def sub : Number → Number → Except Cause Number :=
  lift (· - ·) (· - ·)

/-- The product. -/
def mul : Number → Number → Except Cause Number :=
  lift (· * ·) (· * ·)

/-- The number after this one. -/
def inc (a : Number) : Except Cause Number :=
  add a (.int 1)

/-- The number before this one. -/
def dec (a : Number) : Except Cause Number :=
  sub a (.int 1)

/-- The double nearest to the quotient of two integers. -/
def divideInts (m n : Int) : Except Cause Number :=
  .double <$> unlessTooLarge .quotientTooLarge
    (Double.nearest? ((m < 0) != (n < 0)) m.natAbs n.natAbs)

/-- The quotient, always a double. -/
def div (a b : Number) : Except Cause Number :=
  if b.isZero then .error .divisionByZero
  else match a.scalar, b.scalar with
    | .int m, .int n => divideInts m n
    | s, t => do
      let x ← s.toDouble
      let y ← t.toDouble
      return .double (x / y)

/-- A floored quotient of doubles as a number: an integer if it is finite. -/
def ofQuotient (x : Float) : Number :=
  match (Double.exact x).floor? with
  | some n => .int n
  | none => .double x

/-- The quotient, rounded down. [Spec, §4.7] -/
def idiv (a b : Number) : Except Cause Number :=
  if b.isZero then .error .divisionByZero
  else match a.scalar, b.scalar with
    | .int m, .int n => .ok (.int (m.fdiv n))
    | s, t => do
      let x ← s.toDouble
      let y ← t.toDouble
      return ofQuotient (Double.flooredQuotient x y)

/-- The remainder that goes with the rounded quotient; it takes the sign of the divisor. -/
def mod (a b : Number) : Except Cause Number :=
  if b.isZero then .error .divisionByZero
  else match a.scalar, b.scalar with
    | .int m, .int n => .ok (.int (m.fmod n))
    | s, t => do
      let x ← s.toDouble
      let y ← t.toDouble
      return .double (Double.flooredRemainder x y)

/-- A power of finite doubles: infinity if it is too large, whatever its sign, and not a number if
it is undefined or the reciprocal of zero. -/
def powDoubles (x y : Float) : Float :=
  let result := x.pow y
  if !x.isFinite || !y.isFinite || result.isFinite then result
  else if result.isNaN || Double.isZero x then Double.nan
  else Double.infinity false

/-- The power, always a double; infinity if a side is too large to be a double. -/
def pow (a b : Number) : Except Cause Number :=
  match a.scalar.toDouble, b.scalar.toDouble with
  | .ok x, .ok y => .ok (.double (powDoubles x y))
  | _, _ => .ok (.double (Double.infinity false))

/-- The square root, always a double; not a number below zero. -/
def sqrt (a : Number) : Except Cause Number :=
  if a.isNegative then .ok (.double Double.nan)
  else do
    let x ← a.scalar.toDouble
    return .double x.sqrt

end Number

end RegisterMachine
