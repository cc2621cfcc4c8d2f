import RegisterMachine.Fault
import RegisterMachine.Text.LowerCase

set_option autoImplicit false
set_option relaxedAutoImplicit false

/-!
# Registers

The machine has numbered general registers, six flags and a register that is always zero. All
answer to one kind of name, in any letter case.

## Main definitions

* `RegisterMachine.Flag`, `RegisterMachine.Flags` — the flags and their values.
* `RegisterMachine.RegisterName` — the names, and the register that a name denotes.
* `RegisterMachine.Registers` — the contents of the registers.
* `RegisterMachine.Registers.display` — all registers on one line.

## References

* [Spec] The expanded specification of the machine. (§4.3, "Register & Flag Bank".)
-/

namespace RegisterMachine

/-- A flag. Comparisons set the first three; programs may set any of them. -/
inductive Flag
  | eq | lt | gt | carry | overflow | negative
  deriving DecidableEq, Repr

namespace Flag

/-- All flags, in the order in which they are displayed. -/
def all : List Flag := [.eq, .lt, .gt, .carry, .overflow, .negative]

/-- The name of a flag. -/
def text : Flag → String
  | .eq => "eq"
  | .lt => "lt"
  | .gt => "gt"
  | .carry => "carry"
  | .overflow => "overflow"
  | .negative => "negative"

/-- The letter that displays a flag that is set. -/
def letter : Flag → Char
  | .eq => 'E'
  | .lt => 'L'
  | .gt => 'G'
  | .carry => 'C'
  | .overflow => 'O'
  | .negative => 'N'

end Flag

/-- The values of the flags. -/
structure Flags where
  eq : Bool := false
  lt : Bool := false
  gt : Bool := false
  carry : Bool := false
  overflow : Bool := false
  negative : Bool := false
  deriving DecidableEq, Repr

namespace Flags

/-- The value of a flag. -/
def get (flags : Flags) : Flag → Bool
  | .eq => flags.eq
  | .lt => flags.lt
  | .gt => flags.gt
  | .carry => flags.carry
  | .overflow => flags.overflow
  | .negative => flags.negative

/-- The flags with one of them changed. -/
def set (flags : Flags) (value : Bool) : Flag → Flags
  | .eq => { flags with eq := value }
  | .lt => { flags with lt := value }
  | .gt => { flags with gt := value }
  | .carry => { flags with carry := value }
  | .overflow => { flags with overflow := value }
  | .negative => { flags with negative := value }

/-- The flags after a comparison of two numbers: at most one of the first three is set, and none
if a side is not a number. -/
def compare (flags : Flags) (a b : Number) : Flags :=
  let order := a.compare b
  { flags with eq := order = some .eq, lt := order = some .lt, gt := order = some .gt }

/-- One character for each flag: its letter if it is set, otherwise a point. [Spec, §4.3] -/
def display (flags : Flags) : String :=
  String.ofList (Flag.all.map fun flag => if flags.get flag then flag.letter else '.')

end Flags

/-- What a register name denotes. -/
inductive RegisterName
  | general (index : Nat)
  | flag (flag : Flag)
  | zero
  deriving DecidableEq, Repr

namespace RegisterName

/-- The lower-case name of a register. -/
def text : RegisterName → String
  | .general index => "r" ++ toString index
  | .flag f => f.text
  | .zero => "zero"

/-- The index that follows the letter of a general register; only the canonical spelling of a
number comes back from it. -/
def indexOf (digits : List Char) : Nat :=
  digits.foldl (fun n c => 10 * n + (c.toNat - '0'.toNat)) 0

/-- The names that a lower-case text may be. -/
def candidates (text : String) : List RegisterName :=
  .zero :: Flag.all.map .flag ++ [.general (indexOf (text.toList.drop 1))]

/-- The register whose lower-case name is the text. -/
def ofText? (text : String) : Option RegisterName :=
  (candidates text).find? (·.text = text)

/-- Whether a machine with so many general registers has the register. -/
def isWithin (count : Nat) : RegisterName → Bool
  | .general index => index < count
  | _ => true

/-- The register that a name in any letter case denotes in a machine with so many general
registers. -/
def find? (count : Nat) (name : String) : Option RegisterName :=
  (ofText? (Text.lower name)).filter (·.isWithin count)

/-- All registers of a machine with so many general registers. -/
def all (count : Nat) : List RegisterName :=
  (List.range count).map .general ++ Flag.all.map .flag ++ [.zero]

end RegisterName

/-- The contents of the registers. [Spec, §4.3] -/
structure Registers where
  general : Array Number
  flags : Flags := {}
  deriving DecidableEq, Repr

namespace Registers

/-- So many general registers, all zero, and no flag set. -/
def fresh (count : Nat) : Registers :=
  { general := Array.replicate count Number.zero }

/-- The content of a register, if there is one; flags read as one or zero. -/
def get? (registers : Registers) : RegisterName → Option Number
  | .general index => registers.general[index]?
  | .flag flag => some (.int (if registers.flags.get flag then 1 else 0))
  | .zero => some .zero

/-- The registers after a write, if the written register exists. A flag takes whether the number
differs from zero, and the register that is always zero ignores the write. -/
def set? (registers : Registers) (name : RegisterName) (value : Number) : Option Registers :=
  match name with
  | .general index =>
    if index < registers.general.size then
      some { registers with general := registers.general.setIfInBounds index value }
    else none
  | .flag flag => some { registers with flags := registers.flags.set (!value.isZero) flag }
  | .zero => some registers

/-- The registers after a comparison of two numbers. -/
def compare (registers : Registers) (a b : Number) : Registers :=
  { registers with flags := registers.flags.compare a b }

/-- The content of the register with a name in any letter case. -/
def read (registers : Registers) (name : String) : Except Cause Number :=
  match (RegisterName.find? registers.general.size name).bind registers.get? with
  | some value => .ok value
  | none => .error (.invalidRegister name)

/-- The registers after a write to the register with a name in any letter case. -/
def write (registers : Registers) (name : String) (value : Number) : Except Cause Registers :=
  match (RegisterName.find? registers.general.size name).bind (registers.set? · value) with
  | some registers => .ok registers
  | none => .error (.invalidRegister name)

/-- All general registers and the flags on one line, unless a number is too long. -/
def display (registers : Registers) : Except RangeError String := do
  let shown ← registers.general.toList.zipIdx.mapM fun (value, index) => do
    return (RegisterName.general index).text ++ "=" ++ (← value.text)
  return " ".intercalate shown ++ " [" ++ registers.flags.display ++ "]"

end Registers

end RegisterMachine
