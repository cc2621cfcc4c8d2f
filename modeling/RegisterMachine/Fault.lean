import RegisterMachine.Number
import RegisterMachine.Text.Quoted

set_option autoImplicit false
set_option relaxedAutoImplicit false

/-!
# Faults

An operation fails for a `Cause`. A program is stopped by a `Fault`: a kind, a message and the
source line it belongs to.

## Main definitions

* `RegisterMachine.Cause` — why an operation fails.
* `RegisterMachine.Cause.message` — the wording of each cause.
* `RegisterMachine.Cause.isFault` — whether a cause stops the program by a fault.
* `RegisterMachine.FaultKind` — the classes of faults.
* `RegisterMachine.Fault` — a fault with its place in the source.
* `RegisterMachine.Fault.report` — a fault as it is shown to the user.

## References

* [Spec] The expanded specification of the machine. (§7, "Errors".)
-/

namespace RegisterMachine

/-- The classes of faults. [Spec, §7] -/
inductive FaultKind
  | machineFault
  | invalidLiteral
  | invalidRegister
  | invalidTarget
  | memoryOutOfBounds
  | missingOperand
  | unknownInstruction
  | invalidLabel
  | aliasCycle
  | divisionByZero
  | integerRequired
  | numberOutOfRange
  | linkError
  | duplicateLabel
  deriving DecidableEq, Repr

/-- Whether a fault of this kind arises before the program runs. -/
def FaultKind.isLinkError : FaultKind → Bool
  | .linkError | .duplicateLabel => true
  | _ => false

/-- Why an operation fails. -/
inductive Cause
  /-- The text is neither a known operand nor a number. -/
  | invalidValue (text : String)
  /-- No register has this name. -/
  | invalidRegister (name : String)
  /-- The operand cannot be written to. -/
  | invalidTarget (text : String)
  /-- The operand cannot be given an alias meaning. -/
  | notAliasable (text : String)
  /-- An address is not a number. -/
  | addressNotNumber (shown : String)
  /-- An address is not whole. -/
  | addressNotWhole (x : Float)
  /-- An address lies outside memory. -/
  | addressOutOfRange (address capacity : Int)
  /-- An instruction has too few operands. -/
  | missingOperand (mnemonic : String) (required given : Nat)
  /-- No instruction has this mnemonic. -/
  | unknownInstruction (mnemonic : String)
  /-- A jump target is not a label. -/
  | undefinedLabel (text : String)
  /-- An alias would be followed beyond the limit. -/
  | aliasTooDeep (name : String) (limit : Int)
  /-- A divisor is zero. -/
  | divisionByZero
  /-- A bitwise operation meets a number that is no integer. -/
  | notInteger (x : Float)
  /-- A number has no representation where it is needed. -/
  | outOfRange (e : RangeError)
  /-- No event of the awaited name is queued. -/
  | eventsDrained (name : String)
  /-- No instruction has this number. -/
  | noInstruction (index : Int)
  /-- An access needs more frames than are left on the stack. -/
  | stackExhausted
  deriving DecidableEq, Repr

namespace Cause

/-- The class of fault that a cause leads to. -/
def kind : Cause → FaultKind
  | .invalidValue _ => .invalidLiteral
  | .invalidRegister _ => .invalidRegister
  | .invalidTarget _ => .invalidTarget
  | .notAliasable _ => .invalidTarget
  | .addressNotNumber _ => .memoryOutOfBounds
  | .addressNotWhole _ => .memoryOutOfBounds
  | .addressOutOfRange _ _ => .memoryOutOfBounds
  | .missingOperand _ _ _ => .missingOperand
  | .unknownInstruction _ => .unknownInstruction
  | .undefinedLabel _ => .invalidLabel
  | .aliasTooDeep _ _ => .aliasCycle
  | .divisionByZero => .divisionByZero
  | .notInteger _ => .integerRequired
  | .outOfRange _ => .numberOutOfRange
  | .eventsDrained _ => .machineFault
  | .noInstruction _ => .machineFault
  | .stackExhausted => .machineFault

/-- The wording of a cause. -/
def message : Cause → String
  | .invalidValue text => "Invalid value: '" ++ text ++ "'"
  | .invalidRegister name => "Invalid register: '" ++ name ++ "'"
  | .invalidTarget text => "Invalid address: '" ++ text ++ "'"
  | .notAliasable text => "Cannot alias '" ++ text ++ "'"
  | .addressNotNumber shown => "Memory address must be a number, got " ++ shown
  | .addressNotWhole x => "Memory address " ++ Double.text x ++ " is not an integer"
  | .addressOutOfRange address capacity =>
    "Memory address overflow: " ++ toString address ++ " (capacity " ++ toString capacity ++ ")"
  | .missingOperand mnemonic required given =>
    mnemonic ++ " expects " ++ toString required ++ " operand(s), got " ++ toString given
  | .unknownInstruction mnemonic => "Unknown instruction: " ++ mnemonic
  | .undefinedLabel text => "Invalid label: '" ++ text ++ "'"
  | .aliasTooDeep name limit =>
    "Alias '" ++ name ++ "' exceeds " ++ toString limit ++ " levels of indirection"
  | .divisionByZero => "Attempt to divide by zero"
  | .notInteger x => "Number has no integer representation: " ++ Double.text x
  | .outOfRange e => "Number out of range: " ++ e.message
  | .eventsDrained name => "Event queue drained while waiting for " ++ Text.quoted name
  | .noInstruction _ => "list index out of range"
  | .stackExhausted => "maximum recursion depth exceeded"

/-- Whether a program that meets the cause is stopped by a fault. The others are errors of the
machine itself, and break its step off. [Spec, §7] -/
def isFault : Cause → Bool
  | .eventsDrained _ | .noInstruction _ | .stackExhausted => false
  | _ => true

end Cause

/-- A fault with its place in the source; line `0` means that it has no place yet. -/
structure Fault where
  kind : FaultKind
  message : String
  line : Int := 0
  source : String := ""
  deriving DecidableEq, Repr

namespace Fault

/-- The fault that a cause leads to, without a place. -/
def ofCause (cause : Cause) : Fault :=
  { kind := cause.kind, message := cause.message }

/-- Gives a fault its place in the source; the first place stays. -/
def locate (fault : Fault) (line : Int) (source : String) : Fault :=
  if fault.line = 0 then { fault with line, source } else fault

/-- A fault as it is shown to the user: its source line, if it has one, above the message. -/
def report (fault : Fault) : String :=
  if fault.line = 0 then fault.message
  else "Line " ++ toString fault.line ++ ": " ++ fault.source ++ "\n" ++ fault.message

end Fault

end RegisterMachine
