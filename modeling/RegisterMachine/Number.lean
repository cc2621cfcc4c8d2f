import RegisterMachine.Double.Layout
import RegisterMachine.Number.Limits

set_option autoImplicit false
set_option relaxedAutoImplicit false

/-!
# Numbers

What registers and memory cells hold: integers of any size, doubles, and truth values, which count
as one and zero.

## Main definitions

* `RegisterMachine.Number` — the values of the machine.
* `RegisterMachine.Scalar` — a number for arithmetic, with truth values read as integers.
* `RegisterMachine.Number.compare` — the exact order, across integers and doubles.
* `RegisterMachine.Number.text` — the text of a number in displays and messages.
* `RegisterMachine.Number.printed` — the text of a number in program output.
-/

namespace RegisterMachine

/-- A value of the machine. -/
inductive Number
  | int (n : Int)
  | double (x : Float)
  | truth (b : Bool)
  deriving DecidableEq, Repr

/-- A number for arithmetic. -/
inductive Scalar
  | int (n : Int)
  | double (x : Float)
  deriving DecidableEq, Repr

namespace Number

instance : Inhabited Number := ⟨.int 0⟩

/-- Zero, the content of a fresh register or cell. -/
def zero : Number := .int 0

/-- Truth values count as one and zero. -/
def scalar : Number → Scalar
  | .int n => .int n
  | .double x => .double x
  | .truth b => .int (if b then 1 else 0)

/-- A number as an exact number. -/
def exact (a : Number) : Exact :=
  match a.scalar with
  | .int n => .ofInt n
  | .double x => Double.exact x

/-- The exact order of two numbers; there is none if either is not a number. -/
def compare (a b : Number) : Option Ordering :=
  a.exact.compare b.exact

/-- Whether a number equals zero; of the doubles, those with no bit set below the sign. -/
def isZero (a : Number) : Bool :=
  match a.scalar with
  | .int n => n = 0
  | .double x => Double.magnitudeBits x = 0

/-- Whether a number is below zero. -/
def isNegative (a : Number) : Bool :=
  a.compare zero = some .lt

/-- Whether a number is above zero. -/
def isPositive (a : Number) : Bool :=
  a.compare zero = some .gt

/-- The text of a truth value in displays and messages. -/
def truthText (b : Bool) : String :=
  if b then "True" else "False"

/-- The text of a number in displays and messages, unless it is too long. -/
def text : Number → Except RangeError String
  | .int n => decimalText n
  | .double x => .ok (Double.text x)
  | .truth b => .ok (truthText b)

/-- The text of a number in program output, where truth values are printed as integers, unless it
is too long. -/
def printed (a : Number) : Except RangeError String :=
  match a.scalar with
  | .int n => decimalText n
  | .double x => .ok (Double.text x)

end Number

end RegisterMachine
