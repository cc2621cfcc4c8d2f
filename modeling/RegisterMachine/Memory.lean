import RegisterMachine.Fault

set_option autoImplicit false
set_option relaxedAutoImplicit false

/-!
# Memory

A fixed number of cells, all zero at first. A cell is addressed by an integer or by a double of
integral value.

## Main definitions

* `RegisterMachine.Memory` — the cells.
* `RegisterMachine.Memory.allocate` — fresh cells, if there is room for them.
* `RegisterMachine.Address` — what an access may be given as its address.
* `RegisterMachine.Memory.index` — the cell that an address denotes.
* `RegisterMachine.Memory.read`, `RegisterMachine.Memory.write` — access to one cell.
* `RegisterMachine.Memory.dump` — the cells that are not zero, one on a line.

## References

* [Spec] The expanded specification of the machine. (§4.4, "Memory".)
-/

namespace RegisterMachine

/-- What an access may be given as its address; text is always refused. -/
inductive Address
  | number (a : Number)
  | text (s : String)
  deriving DecidableEq, Repr

/-- Why a memory cannot be provided: its size is beyond 64 bits, or beyond what there is. -/
inductive AllocationError
  | sizeTooLarge
  | exhausted
  deriving DecidableEq, Repr

/-- The wording of the refusal of a memory; there is none for lack of space. -/
def AllocationError.message : AllocationError → String
  | .sizeTooLarge => "cannot fit 'int' into an index-sized integer"
  | .exhausted => ""

/-- The cells of the memory. There are as many as the capacity says, and none if it is negative. -/
structure Memory where
  capacity : Int
  cells : Array Number
  size_eq : cells.size = capacity.toNat
  deriving DecidableEq, Repr

namespace Memory

/-- So many cells, all zero. -/
def fresh (capacity : Int) : Memory :=
  ⟨capacity, Array.replicate capacity.toNat Number.zero, Array.size_replicate⟩

/-- The most cells that are provided. -/
def maxCapacity : Int := 10000000000

/-- Whether a capacity is a signed 64-bit integer. -/
def isWordSized (capacity : Int) : Bool :=
  -0x8000000000000000 ≤ capacity && capacity < 0x8000000000000000

/-- So many cells, all zero, if they can be provided. -/
def allocate (capacity : Int) : Except AllocationError Memory :=
  if !isWordSized capacity then .error .sizeTooLarge
  else if maxCapacity < capacity then .error .exhausted
  else .ok (fresh capacity)

/-- The cell with an integer address, if there is one. The refusal of an address shows it, so an
address may be too long for that. -/
def indexOfInt (memory : Memory) (address : Int) : Except Cause Nat :=
  if 0 ≤ address && address < memory.capacity then .ok address.toNat
  else match decimalText address with
    | .ok _ => .error (.addressOutOfRange address memory.capacity)
    | .error e => .error (.outOfRange e)

/-- The cell that an address denotes, if there is one. Truth values are not taken as addresses.
[Spec, §4.4] -/
def index (memory : Memory) : Address → Except Cause Nat
  | .text s => .error (.addressNotNumber (Text.quoted s))
  | .number (.truth b) => .error (.addressNotNumber (Number.truthText b))
  | .number (.int n) => memory.indexOfInt n
  | .number (.double x) =>
    match Double.toInt? x with
    | some n => memory.indexOfInt n
    | none => .error (.addressNotWhole x)

/-- The content of a cell. -/
def read (memory : Memory) (address : Address) : Except Cause Number := do
  let i ← memory.index address
  return memory.cells[i]?.getD .zero

/-- The memory with another content in one cell. -/
def set (memory : Memory) (i : Nat) (value : Number) : Memory where
  capacity := memory.capacity
  cells := memory.cells.setIfInBounds i value
  size_eq := by rw [Array.size_setIfInBounds, memory.size_eq]

/-- The memory after a write to a cell. -/
def write (memory : Memory) (address : Address) (value : Number) : Except Cause Memory := do
  let i ← memory.index address
  return memory.set i value

/-- The line that shows a cell. -/
def cellLine (i : Nat) (value : Number) : Except RangeError String := do
  return "[" ++ toString i ++ "] = " ++ (← value.text)

/-- The lines of the cells below an address that are not zero, in front of other lines. -/
def linesBelow (memory : Memory) : Nat → List String → Except RangeError (List String)
  | 0, lines => .ok lines
  | i + 1, lines => do
    let value := memory.cells[i]?.getD .zero
    if value.isZero then linesBelow memory i lines
    else linesBelow memory i ((← cellLine i value) :: lines)

/-- The cells that are not zero, one on a line, unless a number is too long. [Spec, §4.4] -/
def dump (memory : Memory) : Except RangeError String := do
  return "\n".intercalate (← memory.linesBelow memory.cells.size [])

end Memory

end RegisterMachine
