import RegisterMachine.Double.Basic
import RegisterMachine.Text.DecimalDigit

set_option autoImplicit false
set_option relaxedAutoImplicit false

/-!
# Decimals

Reading decimal floating-point text: digits with an optional point and an optional exponent. The
value is the double nearest to the exact decimal.

## Main definitions

* `RegisterMachine.Decimal` — a natural number times a power of ten.
* `RegisterMachine.Decimal.read?` — the decimal that unsigned text denotes.
* `RegisterMachine.Decimal.toDouble` — the double nearest to a decimal.
-/

namespace RegisterMachine

open Text

/-- A natural number times a power of ten. -/
structure Decimal where
  coefficient : Nat
  exponent : Int
  deriving DecidableEq, Repr

namespace Decimal

/-- A sign, if the text starts with one, and what follows it. -/
def splitSign : List Char → Bool × List Char
  | '-' :: rest => (true, rest)
  | '+' :: rest => (false, rest)
  | cs => (false, cs)

/-- An exponent part: nothing, or the letter, an optional sign and at least one digit. -/
def readExponent? : List Char → Option Int
  | [] => some 0
  | c :: rest =>
    if c = 'e' || c = 'E' then
      let (negative, digits) := splitSign rest
      if !digits.isEmpty && digits.all isDigit then
        let n := (decimalValue digits : Int)
        some (if negative then -n else n)
      else none
    else none

/-- The digits at the start of the text behind a point, and what follows them; no digits if there
is no point. -/
def splitFraction : List Char → List Char × List Char
  | '.' :: rest => (rest.takeWhile isDigit, rest.dropWhile isDigit)
  | cs => ([], cs)

/-- The decimal that unsigned text denotes: digits, an optional point with more digits behind it
and an optional exponent, with a digit on at least one side of the point. -/
def read? (cs : List Char) : Option Decimal :=
  let whole := cs.takeWhile isDigit
  let (fraction, rest) := splitFraction (cs.dropWhile isDigit)
  if whole.isEmpty && fraction.isEmpty then none
  else (readExponent? rest).map fun exponent =>
    ⟨decimalValue (whole ++ fraction), exponent - fraction.length⟩

/-- The double nearest to a decimal with a sign, infinity if it is too large. Exponents so extreme
that the answer is plain are not raised to a power. -/
def toDouble (negative : Bool) (d : Decimal) : Float :=
  if d.coefficient = 0 then Double.zero negative
  else if 400 < d.exponent then Double.infinity negative
  else if d.exponent < -(d.coefficient.log2 : Int) - 401 then Double.zero negative
  else
    (Double.nearest? negative (d.coefficient * Nat.pow 10 d.exponent.toNat)
      (Nat.pow 10 (-d.exponent).toNat)).getD (Double.infinity negative)

end Decimal

end RegisterMachine
