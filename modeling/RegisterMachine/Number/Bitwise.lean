import RegisterMachine.Number.Arithmetic

set_option autoImplicit false
set_option relaxedAutoImplicit false

/-!
# Bitwise operations

Operations on the 64-bit words of integral numbers. Shift counts may be negative, which shifts the
other way, and a count of 64 or more leaves nothing.

## Main definitions

* `RegisterMachine.Number.toInt` — the integer that a bitwise operation works on.
* `RegisterMachine.Number.and`, `or`, `xor`, `not`, `shl`, `shr` — the bitwise operations.

## References

* [Spec] The expanded specification of the machine. (§4.7, "Execution Engine".)
-/

namespace RegisterMachine.Number

/-- The integer that a bitwise operation works on. [Spec, §4.7] -/
def toInt (a : Number) : Except Cause Int :=
  match a.scalar with
  | .int n => .ok n
  | .double x =>
    match Double.toInt? x with
    | some n => .ok n
    | none => .error (.notInteger x)

/-- The low 64 bits of an integer. -/
def word (n : Int) : BitVec 64 :=
  BitVec.ofInt 64 n

/-- Applies an operation on words to two numbers. -/
def onWords (op : BitVec 64 → BitVec 64 → BitVec 64) (a b : Number) : Except Cause Number := do
  let m ← a.toInt
  let n ← b.toInt
  return .int (op (word m) (word n)).toInt

/-- The bits set in both words. -/
def and : Number → Number → Except Cause Number :=
  onWords (· &&& ·)

/-- The bits set in either word. -/
def or : Number → Number → Except Cause Number :=
  onWords (· ||| ·)

/-- The bits set in exactly one word. -/
def xor : Number → Number → Except Cause Number :=
  onWords (· ^^^ ·)

/-- The bits not set in the word. -/
def not (a : Number) : Except Cause Number := do
  let n ← a.toInt
  return .int (~~~word n).toInt

/-- The word of a number, shifted by a count of at least zero to the left or to the right. Nothing
is left of any number after 64 places. -/
def shiftWord (left : Bool) (a : Number) (count : Nat) : Except Cause Number :=
  if 64 ≤ count then .ok (.int 0)
  else do
    let w := word (← a.toInt)
    return .int (if left then w <<< count else w >>> count).toInt

/-- Shifts by a count that may be negative. [Spec, §4.7] -/
def shift (left : Bool) (a b : Number) : Except Cause Number := do
  let count ← b.toInt
  if count < 0 then shiftWord (!left) a count.natAbs else shiftWord left a count.natAbs

/-- The word shifted to the left. -/
def shl : Number → Number → Except Cause Number :=
  shift true

/-- The word shifted to the right, zeros coming in. -/
def shr : Number → Number → Except Cause Number :=
  shift false

end RegisterMachine.Number
