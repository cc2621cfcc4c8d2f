set_option autoImplicit false
set_option relaxedAutoImplicit false

/-!
# Limits of numbers

An integer may lie beyond all doubles, a duration beyond 64 bits, and a decimal text beyond the
number of digits that are read or written.

## Main definitions

* `RegisterMachine.DigitLimit` — a decimal text with too many digits to be read.
* `RegisterMachine.RangeError` — a value that has no representation where it is needed.
* `RegisterMachine.decimalText` — the decimal text of an integer, if it is not too long.
-/

namespace RegisterMachine

/-- A decimal integer with more digits than a conversion takes. -/
structure DigitLimit where
  digits : Nat
  deriving DecidableEq, Repr

namespace DigitLimit

/-- The most digits that a conversion between decimal text and an integer takes. -/
def limit : Nat := 4300

/-- The wording of the refusal of an overlong decimal integer. -/
def message (e : DigitLimit) : String :=
  "Exceeds the limit (" ++ toString limit ++ " digits) for integer string conversion: value has "
    ++ toString e.digits ++ " digits; use sys.set_int_max_str_digits() to increase the limit"

/-- The wording of the refusal to write an overlong integer in decimal. -/
def writingMessage : String :=
  "Exceeds the limit (" ++ toString limit ++ " digits) for integer string conversion; "
    ++ "use sys.set_int_max_str_digits() to increase the limit"

end DigitLimit

/-- A value that has no representation where it is needed. -/
inductive RangeError
  /-- An integer is beyond all doubles. -/
  | integerTooLarge
  /-- A quotient of integers is beyond all doubles. -/
  | quotientTooLarge
  /-- An integer has more digits than are written in decimal. -/
  | integerTooLong
  /-- A duration has more nanoseconds than 64 bits hold. -/
  | durationTooLong
  /-- A duration has so many nanoseconds that 64 bits read them as a negative number. -/
  | durationWraps
  deriving DecidableEq, Repr

/-- The wording of a range error. -/
def RangeError.message : RangeError → String
  | .integerTooLarge => "int too large to convert to float"
  | .quotientTooLarge => "integer division result too large for a float"
  | .integerTooLong => DigitLimit.writingMessage
  | .durationTooLong => "timestamp too large to convert to C _PyTime_t"
  | .durationWraps => "sleep length must be non-negative"

/-- The decimal text of an integer, unless it has more digits than a conversion takes. -/
def decimalText (n : Int) : Except RangeError String :=
  if Nat.pow 10 DigitLimit.limit ≤ n.natAbs then .error .integerTooLong else .ok (toString n)

end RegisterMachine
