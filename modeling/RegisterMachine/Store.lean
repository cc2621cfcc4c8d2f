import RegisterMachine.Action
import RegisterMachine.AliasTable
import RegisterMachine.Memory

set_option autoImplicit false
set_option relaxedAutoImplicit false

/-!
# The store

Registers, memory and aliases together, read and written through operands. A symbol is followed
through the alias table, each step a *hop*; a hop beyond the limit is refused, so that tables with
cycles do no harm.

## Main definitions

* `RegisterMachine.Store` — registers, memory and aliases.
* `RegisterMachine.Store.read` — the number that an operand denotes.
* `RegisterMachine.Store.write` — writes to what an operand denotes.
* `RegisterMachine.Stack` — how many frames are left to an access.
* `RegisterMachine.Store.readOn`, `RegisterMachine.Store.writeOn` — accesses on a stack.

## Design and deviations

* An access is recursive: it takes a *frame* of the stack for each operand that it comes to, and
  keeps it until the operands behind that one have been accessed. `Store.read` and `Store.write`
  assume a stack that always has room, as [Spec, §4.2] does, which limits the hops only.
  `Store.readOn` and `Store.writeOn` are the accesses on a given stack, where an access that finds
  no room is broken off by a cause that is no fault.
* Only those frames are counted. The stack is what the caller has left to an access, less the few
  frames in which registers, memory and aliases are looked up.

## References

* [Spec] The expanded specification of the machine. (§4.2, "Operand Resolution".)
-/

namespace RegisterMachine

/-- The stack that is left to an access. -/
inductive Stack
  /-- There is always room for one frame more. -/
  | unbounded
  /-- There is room for so many frames. -/
  | bounded (frames : Nat)
  deriving DecidableEq, Repr

/-- The stack with one frame less left on it, if there is one. -/
def Stack.enter? : Stack → Option Stack
  | .unbounded => some .unbounded
  | .bounded 0 => none
  | .bounded (left + 1) => some (.bounded left)

/-- Registers, memory and aliases, with the greatest number of hops; a negative limit allows
none. -/
structure Store where
  registers : Registers
  memory : Memory
  aliases : AliasTable := .empty
  aliasLimit : Int
  deriving DecidableEq, Repr

namespace Store

/-- A store of the given sizes, with all numbers zero and no aliases. -/
def fresh (registerCount : Nat) (memorySize aliasLimit : Int) : Store :=
  { registers := .fresh registerCount, memory := .fresh memorySize, aliasLimit }

/-- How many hops an operand may be followed. -/
def hops (store : Store) : Nat :=
  store.aliasLimit.toNat

/-! ## Reading -/

/-- The number that an operand denotes, read on a stack, where `follow` reads the target of a
defined symbol on the rest of the stack. -/
def readVia (store : Store) (follow : Stack → String → Operand → Except Cause Number)
    (stack : Stack) (operand : Operand) : Except Cause Number :=
  match stack.enter? with
  | none => .error .stackExhausted
  | some rest =>
    match operand with
    | .indirect _ inner => do store.memory.read (.number (← store.readVia follow rest inner))
    | .register text => store.registers.read (Text.lower text)
    | .literal _ value => .ok value
    | .symbol name =>
      match store.aliases.lookup name with
      | some target => follow rest name target
      | none => .error (.invalidValue name)

/-- The number that an operand denotes, read on a stack with so many hops left. -/
def readOnWithin (store : Store) : Stack → Nat → Operand → Except Cause Number
  | stack, 0, operand =>
    store.readVia (fun _ name _ => .error (.aliasTooDeep name store.aliasLimit)) stack operand
  | stack, hops + 1, operand =>
    store.readVia (fun rest _ target => store.readOnWithin rest hops target) stack operand

/-- The number that an operand denotes, read on a stack. [Spec, §4.2] -/
def readOn (store : Store) (stack : Stack) (operand : Operand) : Except Cause Number :=
  store.readOnWithin stack store.hops operand

/-- The number that an operand denotes, with so many hops left. -/
def readWithin (store : Store) (hops : Nat) (operand : Operand) : Except Cause Number :=
  store.readOnWithin .unbounded hops operand

/-- The number that an operand denotes. -/
def read (store : Store) (operand : Operand) : Except Cause Number :=
  store.readWithin store.hops operand

section ReadOnWithin

variable (store : Store) {stack rest : Stack} (hops : Nat) (text name : String)

theorem readOnWithin_of_enter?_eq_none (hframe : stack.enter? = none) (operand : Operand) :
    store.readOnWithin stack hops operand = .error .stackExhausted := by
  cases hops <;> rw [readOnWithin, readVia, hframe]

theorem readOnWithin_indirect (hframe : stack.enter? = some rest) (inner : Operand) :
    store.readOnWithin stack hops (.indirect text inner) =
      (do store.memory.read (.number (← store.readOnWithin rest hops inner))) := by
  cases hops <;> rw [readOnWithin, readVia, hframe] <;> rfl

theorem readOnWithin_register (hframe : stack.enter? = some rest) :
    store.readOnWithin stack hops (.register text) = store.registers.read (Text.lower text) := by
  cases hops <;> rw [readOnWithin, readVia, hframe] <;> rfl

theorem readOnWithin_literal (hframe : stack.enter? = some rest) (value : Number) :
    store.readOnWithin stack hops (.literal text value) = .ok value := by
  cases hops <;> rw [readOnWithin, readVia, hframe] <;> rfl

theorem readOnWithin_symbol_of_undefined (hframe : stack.enter? = some rest)
    (h : store.aliases.lookup name = none) :
    store.readOnWithin stack hops (.symbol name) = .error (.invalidValue name) := by
  cases hops <;> rw [readOnWithin, readVia, hframe] <;> simp only [h]

theorem readOnWithin_zero_symbol (hframe : stack.enter? = some rest) {target : Operand}
    (h : store.aliases.lookup name = some target) :
    store.readOnWithin stack 0 (.symbol name) = .error (.aliasTooDeep name store.aliasLimit) := by
  rw [readOnWithin, readVia, hframe]
  simp only [h]

theorem readOnWithin_succ_symbol (hframe : stack.enter? = some rest) {target : Operand}
    (h : store.aliases.lookup name = some target) :
    store.readOnWithin stack (hops + 1) (.symbol name) = store.readOnWithin rest hops target := by
  rw [readOnWithin, readVia, hframe]
  simp only [h]

end ReadOnWithin

section ReadWithin

variable (store : Store) (hops : Nat) (text name : String)

theorem readWithin_indirect (inner : Operand) :
    store.readWithin hops (.indirect text inner) =
      (do store.memory.read (.number (← store.readWithin hops inner))) :=
  store.readOnWithin_indirect hops text rfl inner

theorem readWithin_register :
    store.readWithin hops (.register text) = store.registers.read (Text.lower text) :=
  store.readOnWithin_register hops text rfl

theorem readWithin_literal (value : Number) :
    store.readWithin hops (.literal text value) = .ok value :=
  store.readOnWithin_literal hops text rfl value

theorem readWithin_symbol_of_undefined (h : store.aliases.lookup name = none) :
    store.readWithin hops (.symbol name) = .error (.invalidValue name) :=
  store.readOnWithin_symbol_of_undefined hops name rfl h

theorem readWithin_zero_symbol {target : Operand} (h : store.aliases.lookup name = some target) :
    store.readWithin 0 (.symbol name) = .error (.aliasTooDeep name store.aliasLimit) :=
  store.readOnWithin_zero_symbol name rfl h

theorem readWithin_succ_symbol {target : Operand} (h : store.aliases.lookup name = some target) :
    store.readWithin (hops + 1) (.symbol name) = store.readWithin hops target :=
  store.readOnWithin_succ_symbol hops name rfl h

end ReadWithin

/-! ## Writing -/

/-- Writes to the memory cell with an address. -/
def writeCell (address value : Number) : Action Store Unit :=
  .update fun store => do
    return { store with memory := ← store.memory.write (.number address) value }

/-- Writes to the register with a name in any letter case. -/
def writeRegister (name : String) (value : Number) : Action Store Unit :=
  .update fun store => do return { store with registers := ← store.registers.write name value }

/-- Writes to what an operand denotes, on a stack and with so many hops left for an address, where
`follow` writes to the target of a defined symbol on the rest of the stack. -/
def writeVia (value : Number) (hops : Nat) (follow : Stack → String → Operand → Action Store Unit)
    (stack : Stack) (operand : Operand) : Action Store Unit :=
  match stack.enter? with
  | none => throw .stackExhausted
  | some rest =>
    match operand with
    | .indirect _ inner => do
      let address ← Action.query (·.readOnWithin rest hops inner)
      writeCell address value
    | .register text => writeRegister (Text.lower text) value
    | .literal text _ => throw (.invalidTarget text)
    | .symbol name => do
      match (← get).aliases.lookup name with
      | some target => follow rest name target
      | none => throw (.invalidTarget name)

/-- Writes to what an operand denotes, on a stack with so many hops left. -/
def writeOnWithin (value : Number) : Stack → Nat → Operand → Action Store Unit
  | stack, 0, operand =>
    writeVia value 0 (fun _ name _ => do throw (.aliasTooDeep name (← get).aliasLimit)) stack
      operand
  | stack, hops + 1, operand =>
    writeVia value (hops + 1) (fun rest _ target => writeOnWithin value rest hops target) stack
      operand

/-- Writes to what an operand denotes, on a stack. [Spec, §4.2] -/
def writeOn (stack : Stack) (operand : Operand) (value : Number) : Action Store Unit := do
  writeOnWithin value stack (← get).hops operand

/-- Writes to what an operand denotes, with so many hops left. -/
def writeWithin (value : Number) (hops : Nat) (operand : Operand) : Action Store Unit :=
  writeOnWithin value .unbounded hops operand

/-- Writes to what an operand denotes. -/
def write (operand : Operand) (value : Number) : Action Store Unit := do
  writeWithin value (← get).hops operand

section WriteOnWithin

variable (value : Number) {stack rest : Stack} (hops : Nat) (text name : String) (store : Store)

theorem writeOnWithin_of_enter?_eq_none (hframe : stack.enter? = none) (operand : Operand) :
    writeOnWithin value stack hops operand = throw .stackExhausted := by
  cases hops <;> cases operand <;> simp [writeOnWithin, writeVia, hframe]

theorem writeOnWithin_indirect (hframe : stack.enter? = some rest) (inner : Operand) :
    writeOnWithin value stack hops (.indirect text inner) =
      (do writeCell (← Action.query (·.readOnWithin rest hops inner)) value) := by
  cases hops <;> simp [writeOnWithin, writeVia, hframe]

theorem writeOnWithin_register (hframe : stack.enter? = some rest) :
    writeOnWithin value stack hops (.register text) = writeRegister (Text.lower text) value := by
  cases hops <;> simp [writeOnWithin, writeVia, hframe]

theorem writeOnWithin_literal (hframe : stack.enter? = some rest) (number : Number) :
    writeOnWithin value stack hops (.literal text number) = throw (.invalidTarget text) := by
  cases hops <;> simp [writeOnWithin, writeVia, hframe]

theorem writeOnWithin_symbol_of_undefined (hframe : stack.enter? = some rest)
    (h : store.aliases.lookup name = none) :
    writeOnWithin value stack hops (.symbol name) store =
      .error (.invalidTarget name) store := by
  cases hops <;> simp [writeOnWithin, writeVia, hframe, h]

theorem writeOnWithin_zero_symbol (hframe : stack.enter? = some rest) {target : Operand}
    (h : store.aliases.lookup name = some target) :
    writeOnWithin value stack 0 (.symbol name) store =
      .error (.aliasTooDeep name store.aliasLimit) store := by
  simp [writeOnWithin, writeVia, hframe, h]

theorem writeOnWithin_succ_symbol (hframe : stack.enter? = some rest) {target : Operand}
    (h : store.aliases.lookup name = some target) :
    writeOnWithin value stack (hops + 1) (.symbol name) store =
      writeOnWithin value rest hops target store := by
  simp [writeOnWithin, writeVia, hframe, h]

end WriteOnWithin

section WriteWithin

variable (value : Number) (hops : Nat) (text name : String) (store : Store)

theorem writeWithin_indirect (inner : Operand) :
    writeWithin value hops (.indirect text inner) =
      (do writeCell (← Action.query (·.readWithin hops inner)) value) :=
  writeOnWithin_indirect value hops text rfl inner

theorem writeWithin_register :
    writeWithin value hops (.register text) = writeRegister (Text.lower text) value :=
  writeOnWithin_register value hops text rfl

theorem writeWithin_literal (number : Number) :
    writeWithin value hops (.literal text number) = throw (.invalidTarget text) :=
  writeOnWithin_literal value hops text rfl number

theorem writeWithin_symbol_of_undefined (h : store.aliases.lookup name = none) :
    writeWithin value hops (.symbol name) store = .error (.invalidTarget name) store :=
  writeOnWithin_symbol_of_undefined value hops name store rfl h

theorem writeWithin_zero_symbol {target : Operand} (h : store.aliases.lookup name = some target) :
    writeWithin value 0 (.symbol name) store =
      .error (.aliasTooDeep name store.aliasLimit) store :=
  writeOnWithin_zero_symbol value name store rfl h

theorem writeWithin_succ_symbol {target : Operand} (h : store.aliases.lookup name = some target) :
    writeWithin value (hops + 1) (.symbol name) store = writeWithin value hops target store :=
  writeOnWithin_succ_symbol value hops name store rfl h

end WriteWithin

/-- Writes the value of one operand to another, on a stack. -/
def copyOn (stack : Stack) (target source : Operand) : Action Store Unit := do
  writeOn stack target (← Action.query (·.readOn stack source))

@[simp]
theorem readOn_unbounded (store : Store) (operand : Operand) :
    store.readOn .unbounded operand = store.read operand := rfl

@[simp]
theorem writeOn_unbounded (operand : Operand) (value : Number) :
    writeOn .unbounded operand value = write operand value := rfl

end Store

end RegisterMachine
