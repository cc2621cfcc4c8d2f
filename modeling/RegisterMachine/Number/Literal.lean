import RegisterMachine.Double.Decimal
import RegisterMachine.Number.Arithmetic

set_option autoImplicit false
set_option relaxedAutoImplicit false

/-!
# Numeric literals

Reading the text of a number: hexadecimal integers of any length, which wrap to 64 bits, decimal
integers, which turn into doubles beyond 64 bits, and decimal floating-point numbers. Underscores
are ignored wherever they stand, and one line feed is allowed at the end.

## Main definitions

* `RegisterMachine.Literal.read` — the number that text denotes, if it denotes one.
* `RegisterMachine.Literal.require` — the number that text has to denote.

## References

* [Spec] The expanded specification of the machine. (§4.1, "Numeric Literal Resolver".)
-/

namespace RegisterMachine.Literal

open Text

/-- The text with its underscores removed. -/
def ungrouped (cs : List Char) : List Char :=
  cs.filter (· ≠ '_')

/-- The text without one line feed at its end. -/
def beforeFinalBreak (cs : List Char) : List Char :=
  if cs.getLast? = some '\n' then cs.dropLast else cs

/-- What follows the mark of a hexadecimal number, if the text starts with one. -/
def afterHexMark? : List Char → Option (List Char)
  | '0' :: 'x' :: rest => some rest
  | '0' :: 'X' :: rest => some rest
  | _ => none

/-- Whether a text is a non-empty string of characters of a class, up to a final line feed. -/
def isRun (p : Char → Bool) (cs : List Char) : Bool :=
  let run := beforeFinalBreak cs
  !run.isEmpty && run.all p

/-- The last characters of a text. -/
def takeLast (n : Nat) (cs : List Char) : List Char :=
  cs.drop (cs.length - n)

/-- An integer with a sign. -/
def applySign (negative : Bool) (n : Int) : Int :=
  if negative then -n else n

/-- The number that hexadecimal digits denote. The last sixteen characters decide, because all
before them is a multiple of the number of words. -/
def readHex? (negative : Bool) (digits : List Char) : Option Number :=
  if isRun isHexDigit digits then
    let low := wrap (hexadecimalValue (beforeFinalBreak (takeLast 16 digits)))
    some (.int (wrap (applySign negative low)))
  else none

/-- The most digits that a decimal integer within 64 bits has. -/
def maxIntegerDigits : Nat := 19

/-- The range of signed 64-bit integers. -/
def inWordRange (n : Int) : Bool :=
  -0x8000000000000000 ≤ n && n < 0x8000000000000000

/-- The number that decimal digits denote: an integer within 64 bits, otherwise a double. Zeros in
front are not counted against the length of an integer. -/
def readInteger (negative : Bool) (digits : List Char) : Except DigitLimit Number :=
  let run := beforeFinalBreak digits
  let magnitude := decimalValue run
  let asDouble := Number.double (Decimal.toDouble negative ⟨magnitude, 0⟩)
  if maxIntegerDigits < (digits.dropWhile (· = '0')).length then .ok asDouble
  else if DigitLimit.limit < run.length then .error ⟨run.length⟩
  else
    let n := applySign negative magnitude
    .ok (if inWordRange n then .int n else asDouble)

/-- The number that text denotes, or nothing if it is no numeric literal. [Spec, §4.1] -/
def readChars (cs : List Char) : Except DigitLimit (Option Number) :=
  let (negative, body) := Decimal.splitSign (ungrouped cs)
  match afterHexMark? body with
  | some digits => .ok (readHex? negative digits)
  | none =>
    if isRun isDigit body then (readInteger negative body).map some
    else
      .ok ((Decimal.read? (beforeFinalBreak body)).map fun d =>
        .double (Decimal.toDouble negative d))

/-- The number that text denotes, or nothing if it is no numeric literal. -/
def read (text : String) : Except DigitLimit (Option Number) :=
  readChars text.toList

/-- Why text is refused where a number has to stand. -/
inductive Refusal
  /-- The text is a decimal integer with too many digits. -/
  | digitLimit (e : DigitLimit)
  /-- The text is no numeric literal. -/
  | cause (cause : Cause)
  deriving DecidableEq, Repr

/-- The number that text has to denote. -/
def require (text : String) : Except Refusal Number :=
  match read text with
  | .ok (some value) => .ok value
  | .ok none => .error (.cause (.invalidValue text))
  | .error e => .error (.digitLimit e)

end RegisterMachine.Literal
