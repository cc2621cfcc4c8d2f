import RegisterMachine.Host
import RegisterMachine.Log
import RegisterMachine.Opcode
import RegisterMachine.Program
import RegisterMachine.Store

set_option autoImplicit false
set_option relaxedAutoImplicit false

/-!
# The machine

A machine executes a program step by step. The program counter is the number of the instruction
executed last; a step moves on to the next one, and a jump sets the counter to just before its
target. An instruction that fails stops the machine and is reported; what it has done before it
fails stays done. An error that is no fault of the program breaks the step off.

A step is made on the stack that its caller has left to it, on which the operands of the instruction
are accessed. The stack of the caller may be too small for that (`Stack`): then the step is broken
off too, by an error that no step catches. `Machine.step` and `Machine.run` assume a stack that
always has room.

## Main definitions

* `RegisterMachine.RunState`, `RegisterMachine.StopReason` — whether a machine runs, and why it
  stopped.
* `RegisterMachine.Machine` — a program with the state of its execution.
* `RegisterMachine.Machine.performOn` — the effect of an instruction.
* `RegisterMachine.Machine.stepOn` — the execution of one instruction.
* `RegisterMachine.Machine.runOn` — execution until the machine stops.
* `RegisterMachine.Machine.step`, `RegisterMachine.Machine.run` — the same on a stack that always
  has room.
* `RegisterMachine.Machine.call` — a step by a caller that goes on after an error has escaped.

## References

* [Spec] The expanded specification of the machine. (§4.7, "Execution Engine".)
-/

namespace RegisterMachine

/-- Whether a machine runs. -/
inductive RunState
  /-- Steps are executed. -/
  | running
  /-- The program halted or came to its end. -/
  | halted
  /-- An instruction failed. -/
  | faulted
  deriving DecidableEq, Repr

/-- The name of a state. -/
def RunState.name : RunState → String
  | .running => "RUNNING"
  | .halted => "HALTED"
  | .faulted => "FAULTED"

/-- Why a machine stopped. -/
inductive StopReason
  /-- An instruction halted the machine. -/
  | halt
  /-- The program counter went past the last instruction. -/
  | programEnd
  /-- An instruction failed. -/
  | fault
  deriving DecidableEq, Repr

/-- The name of a reason for stopping. -/
def StopReason.name : StopReason → String
  | .halt => "HALT"
  | .programEnd => "END"
  | .fault => "FAULT"

/-- Why there is no machine for a source text. -/
inductive LoadError
  | link (e : LinkError)
  | allocation (e : AllocationError)
  deriving DecidableEq, Repr

/-- A program with the state of its execution. An error that is no fault of the program may escape
from a step; the machine is then not stepped on. -/
structure Machine where
  program : Program
  store : Store
  host : Host
  trace : Bool
  pc : Int := 0
  state : RunState := .running
  stopReason? : Option StopReason := none
  fault? : Option Fault := none
  steps : Nat := 0
  log : Array Log.Record := #[]
  escaped? : Option Cause := none
  deriving DecidableEq, Repr

namespace Machine

/-- A machine of the given configuration before its first step. -/
def fresh (config : Config) (host : Host) (program : Program) : Machine :=
  { program
    host
    store := .fresh config.registerCount config.memorySize config.aliasDepthLimit
    trace := config.trace }

/-- Whether a step would be executed. -/
def isRunning (machine : Machine) : Bool :=
  machine.state = .running && machine.escaped?.isNone

/-- The instruction at the program counter, unless that is outside the program. -/
def current? (machine : Machine) : Option Instruction :=
  if 1 ≤ machine.pc && machine.pc ≤ machine.program.size then machine.program.fetch? machine.pc
  else none

/-- The machine with a record added to its log. -/
def report (machine : Machine) (record : Log.Record) : Machine :=
  { machine with log := machine.log.push record }

/-- The machine after its host has printed a text. -/
def print (machine : Machine) (text : String) : Machine :=
  { machine with host := machine.host.write text }

/-- The machine stopped in a state for a reason. -/
def stop (machine : Machine) (state : RunState) (reason : StopReason) : Machine :=
  { machine with state, stopReason? := some reason }

/-! ## Instructions -/

/-- An action on the store of a machine. -/
def onStore {α : Type} : Action Store α → Action Machine α :=
  .within store fun machine store => { machine with store }

section Operands

variable (stack : Stack)

/-- The number that an operand denotes. -/
def value (operand : Operand) : Action Machine Number :=
  .query (·.store.readOn stack operand)

/-- The text that prints the number that an operand denotes. -/
def printed (store : Store) (operand : Operand) : Except Cause String := do
  (← store.readOn stack operand).printed.mapError .outOfRange

/-- Prints the values of operands, with tabulators between them. -/
def out (operands : List Operand) : Action Machine Unit := do
  let texts ← Action.query fun machine => operands.mapM (printed stack machine.store)
  modify (·.print ("\t".intercalate texts))

/-- Stores a number in what an operand denotes. -/
def assign (target : Operand) (value : Number) : Action Machine Unit :=
  onStore (Store.writeOn stack target value)

/-- Stores the number that an operand denotes in what another one denotes. -/
def move (target source : Operand) : Action Machine Unit := do
  assign stack target (← value stack source)

end Operands

/-- Makes a symbol an alias of an operand. -/
def defineAlias (name target : Operand) : Action Machine Unit :=
  match name with
  | .symbol text => onStore <| modify fun store =>
    { store with aliases := store.aliases.define text target }
  | other => throw (.notAliasable other.text)

/-- The lines that show aliases. -/
def aliasLines (aliases : AliasTable) : List String :=
  aliases.entries.map fun (name, target) => "Alias " ++ name ++ " -> " ++ target.text

/-- Prints the state of the machine: registers, aliases, and memory unless it is all zero. -/
def showState : Action Machine Unit := do
  let registers ← Action.query fun machine =>
    machine.store.registers.display.mapError .outOfRange
  modify (·.print ("Registers: " ++ registers))
  modify fun machine => (aliasLines machine.store.aliases).foldl print machine
  let dump ← Action.query fun machine => machine.store.memory.dump.mapError .outOfRange
  if dump.isEmpty then return
  modify (·.print ("Memory:\n" ++ dump))

/-- Pauses for some seconds. -/
def sleep (seconds : Number) : Action Machine Unit :=
  .update fun machine => do return { machine with host := ← machine.host.sleep seconds }

/-- Pauses for the seconds that an operand denotes. -/
def pause (stack : Stack) (operand : Operand) : Action Machine Unit := do
  sleep (← value stack operand)

/-- Queues an event. -/
def pushEvent (name : String) : Action Machine Unit :=
  modify fun machine => { machine with host := machine.host.push name }

/-- Awaits an event. All events in front of it are lost, also if it is not there. -/
def pullEvent (name : String) : Action Machine Unit := fun machine =>
  let (host, pulled) := machine.host.pull name
  let records := pulled.discarded.map (Log.Record.discarded · name)
  let next := { machine with host, log := machine.log ++ records.toArray }
  if pulled.delivered then .ok () next else .error (.eventsDrained name) next

/-- Queues an event and awaits it. -/
def exchange (name : String) : Action Machine Unit := do
  pushEvent name
  pullEvent name

/-- Compares two operands and sets the flags. -/
def compare (stack : Stack) (a b : Operand) : Action Machine Unit := do
  let x ← value stack a
  let y ← value stack b
  onStore <| modify fun store => { store with registers := store.registers.compare x y }

/-- Goes to just before the instruction that a label names. -/
def jumpTo (label : String) : Action Machine Unit :=
  .update fun machine =>
    match machine.program.labelIndex? label with
    | some index => .ok { machine with pc := index - 1 }
    | none => .error (.undefinedLabel label)

/-- Goes to just before the instruction that a label names, if a condition holds. -/
def branch (condition : Condition) (label : Operand) : Action Machine Unit := do
  if condition.holds (← get).store.registers.flags then jumpTo label.text

section Operations

variable (stack : Stack)

/-- Stores the result of an operation on two operands in the first. -/
def applyBinary (op : BinaryOp) (a b : Operand) : Action Machine Unit := do
  let x ← value stack a
  let y ← value stack b
  assign stack a (← Action.query fun _ => op.apply x y)

/-- Stores the result of an operation on an operand in it. -/
def applyUnary (op : UnaryOp) (a : Operand) : Action Machine Unit := do
  let x ← value stack a
  assign stack a (← Action.query fun _ => op.apply x)

/-- The effect of an instruction on its operands. Operands beyond the arity mean nothing except to
`out`; too few are refused. [Spec, §4.7] -/
def performOn (mnemonic : String) : Opcode → List Operand → Action Machine Unit
  | .out, operands => out stack operands
  | .mov, target :: source :: _ => move stack target source
  | .als, name :: target :: _ => defineAlias name target
  | .dbg, _ => showState
  | .hlt, _ => modify (·.stop .halted .halt)
  | .slp, seconds :: _ => pause stack seconds
  | .nop, _ => exchange "nop"
  | .cmp, a :: b :: _ => compare stack a b
  | .jump condition, label :: _ => branch condition label
  | .binary op, a :: b :: _ => applyBinary stack op a b
  | .unary op, a :: _ => applyUnary stack op a
  | opcode, operands => throw (.missingOperand mnemonic opcode.arity operands.length)

/-- The effect of an instruction, if its mnemonic is known. -/
def executeOn (instruction : Instruction) : Action Machine Unit :=
  match Opcode.ofMnemonic? instruction.mnemonic with
  | some opcode => performOn stack instruction.mnemonic opcode instruction.operands
  | none => throw (.unknownInstruction instruction.mnemonic)

end Operations

/-! ## Steps and runs -/

/-- The machine after an error that is no fault of the program has broken a step off. -/
def breakOff (machine : Machine) (cause : Cause) : Machine :=
  { machine with escaped? := some cause }

/-- Records the instruction about to be executed, if the machine records a trace. -/
def tracing (machine : Machine) (instruction : Instruction) : Except RangeError Machine := do
  if machine.trace then
    let registers ← machine.store.registers.display
    return machine.report (.executing machine.pc instruction.line instruction.source registers)
  else return machine

/-- The machine stopped by the failure of an instruction: the fault is recorded and printed.
[Spec, §4.7] -/
def fail (machine : Machine) (instruction : Instruction) (cause : Cause) : Machine :=
  let fault := (Fault.ofCause cause).locate instruction.line instruction.source
  let stopped := { machine with fault? := some fault }.stop .faulted .fault
  (stopped.report (.faulted instruction.line fault.message)).print fault.report

section Steps

variable (stack : Stack)

/-- Executes an instruction. -/
def executeTracedOn (machine : Machine) (instruction : Instruction) : Machine :=
  match executeOn stack instruction machine with
  | .ok _ next => { next with steps := next.steps + 1 }
  | .error cause next =>
    if cause.isFault then next.fail instruction cause else next.breakOff cause

/-- Executes an instruction, with a record in the trace. -/
def executeInstructionOn (machine : Machine) (instruction : Instruction) : Machine :=
  match machine.tracing instruction with
  | .ok traced => executeTracedOn stack traced instruction
  | .error e => machine.breakOff (.outOfRange e)

/-- Executes the next instruction, or ends if there is none. A machine that does not run stays as it
is. [Spec, §4.7] -/
def stepOn (machine : Machine) : Machine :=
  if machine.isRunning then
    let next := { machine with pc := machine.pc + 1 }
    if (next.program.size : Int) < next.pc then next.stop .halted .programEnd
    else match next.program.fetch? next.pc with
      | some instruction => executeInstructionOn stack next instruction
      | none => next.breakOff (.noInstruction next.pc)
  else machine

/-- Executes at most so many steps. -/
def runForOn : Nat → Machine → Machine
  | 0, machine => machine
  | n + 1, machine => if machine.isRunning then runForOn n (stepOn stack machine) else machine

end Steps

/-- Records that a run begins. -/
def begin (machine : Machine) : Machine :=
  machine.report (.running machine.program.size)

/-- Records that a run has ended, if it has. -/
def finish (machine : Machine) : Machine :=
  match machine.stopReason? with
  | some reason => machine.report (.stopped reason.name machine.steps)
  | none => machine

/-- Executes steps until the machine stops, at most so many. [Spec, §4.7] -/
def runOn (stack : Stack) (fuel : Nat) (machine : Machine) : Machine :=
  (runForOn stack fuel machine.begin).finish

/-- The machine without note of an error that has escaped. -/
def resume (machine : Machine) : Machine :=
  { machine with escaped? := none }

/-- A call of a step by a caller that goes on if an error has escaped from the last one. -/
def call (stack : Stack) (machine : Machine) : Machine :=
  stepOn stack machine.resume

/-! ## On a stack that always has room -/

/-- The effect of an instruction on its operands. -/
def perform (mnemonic : String) (opcode : Opcode) (operands : List Operand) : Action Machine Unit :=
  performOn .unbounded mnemonic opcode operands

/-- The effect of an instruction, if its mnemonic is known. -/
def execute (instruction : Instruction) : Action Machine Unit :=
  executeOn .unbounded instruction

/-- Executes an instruction. -/
def executeTraced (machine : Machine) (instruction : Instruction) : Machine :=
  executeTracedOn .unbounded machine instruction

/-- Executes an instruction, with a record in the trace. -/
def executeInstruction (machine : Machine) (instruction : Instruction) : Machine :=
  executeInstructionOn .unbounded machine instruction

/-- Executes the next instruction, or ends if there is none. -/
def step (machine : Machine) : Machine :=
  stepOn .unbounded machine

/-- Executes at most so many steps. -/
def runFor (n : Nat) (machine : Machine) : Machine :=
  runForOn .unbounded n machine

/-- Executes steps until the machine stops, at most so many. -/
def run (fuel : Nat) (machine : Machine) : Machine :=
  runOn .unbounded fuel machine

section Unbounded

variable (machine : Machine) (instruction : Instruction) (fuel : Nat)

theorem execute_def :
    execute instruction = match Opcode.ofMnemonic? instruction.mnemonic with
      | some opcode => perform instruction.mnemonic opcode instruction.operands
      | none => throw (.unknownInstruction instruction.mnemonic) := rfl

theorem executeTraced_def :
    machine.executeTraced instruction = match execute instruction machine with
      | .ok _ next => { next with steps := next.steps + 1 }
      | .error cause next =>
        if cause.isFault then next.fail instruction cause else next.breakOff cause := rfl

theorem executeInstruction_def :
    machine.executeInstruction instruction = match machine.tracing instruction with
      | .ok traced => traced.executeTraced instruction
      | .error e => machine.breakOff (.outOfRange e) := rfl

theorem step_def :
    machine.step =
      if machine.isRunning then
        let next := { machine with pc := machine.pc + 1 }
        if (next.program.size : Int) < next.pc then next.stop .halted .programEnd
        else match next.program.fetch? next.pc with
          | some instruction => next.executeInstruction instruction
          | none => next.breakOff (.noInstruction next.pc)
      else machine := rfl

theorem run_def : machine.run fuel = (runFor fuel machine.begin).finish := rfl

end Unbounded

/-- The machine that a source text denotes, with linking recorded in its log. The memory must be
one that can be provided. -/
def load (config : Config) (host : Host) (source : String) : Except LoadError Machine := do
  let program ← (Program.link config source).mapError .link
  let _ ← (Memory.allocate config.memorySize).mapError .allocation
  let machine := fresh config host program
  return machine.report (.linked program.size program.labels.size)

/-- Links a source text and executes it, at most so many steps. -/
def runSource (fuel : Nat) (config : Config) (host : Host) (source : String) :
    Except LoadError Machine := do
  return (← load config host source).run fuel

end Machine

end RegisterMachine
