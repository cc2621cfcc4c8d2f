import RegisterMachine.Number.Literal
import RegisterMachine.Text.Blank

set_option autoImplicit false
set_option relaxedAutoImplicit false

/-!
# Integer arguments

Reading an integer from a command line: decimal with an optional sign, or hexadecimal after its
mark and then without a sign. Underscores and blanks around the number are ignored. Hexadecimal
text may denote an integer that is too long to be shown in decimal.

## Main definitions

* `RegisterMachine.CommandLine.IntegerError` — why a text is refused.
* `RegisterMachine.CommandLine.readInteger` — the integer that a text denotes.
-/

namespace RegisterMachine.CommandLine

open Text

/-- Why a text is refused as an integer. -/
inductive IntegerError
  | invalid (base : Nat) (text : String)
  | digitLimit (e : DigitLimit)
  deriving DecidableEq, Repr

/-- How much of a refused text a message quotes. -/
def quoteLimit : Nat := 200

/-- The wording of a refusal; long texts are cut. -/
def IntegerError.message : IntegerError → String
  | .invalid base text =>
    "invalid literal for int() with base " ++ toString base ++ ": "
      ++ String.ofList ((quoted text).toList.take quoteLimit)
  | .digitLimit e => e.message

/-- The blanks that a number may have around it; the information separators are no such blanks. -/
def isNumberBlank (c : Char) : Bool :=
  isBlank c && !(0x1C ≤ c.toNat && c.toNat ≤ 0x1F)

/-- What a digit of a hexadecimal argument is worth: decimal digits of any script count too. -/
def argumentHexValue? (c : Char) : Option Nat :=
  (hexValue? c).or (digitValue? c)

/-- The integer that hexadecimal digits denote. -/
def readHexDigits? (digits : List Char) : Option Int :=
  if digits.isEmpty then none
  else (digits.mapM argumentHexValue?).map fun values =>
    ((values.foldl (fun n v => 16 * n + v) 0 : Nat) : Int)

/-- The integer that decimal text with an optional sign denotes. Whatever follows the digits, too
many of them are refused first. -/
def readDecimal (text : String) (cs : List Char) : Except IntegerError Int :=
  let (negative, body) := Decimal.splitSign cs
  let digits := body.takeWhile isDigit
  if DigitLimit.limit < digits.length then .error (.digitLimit ⟨digits.length⟩)
  else if digits.isEmpty || digits.length < body.length then .error (.invalid 10 text)
  else .ok (Literal.applySign negative (decimalValue digits))

/-- The integer that a text denotes. -/
def readInteger (value : String) : Except IntegerError Int :=
  let cs := Literal.ungrouped (trim value.toList)
  let text := String.ofList cs
  match Literal.afterHexMark? cs with
  | some digits =>
    match readHexDigits? (dropEndWhile isNumberBlank digits) with
    | some n => .ok n
    | none => .error (.invalid 16 text)
  | none => readDecimal text (dropEndWhile isNumberBlank (cs.dropWhile isNumberBlank))

end RegisterMachine.CommandLine
