import RegisterMachine.Config
import RegisterMachine.Operand
import RegisterMachine.Program.Line

set_option autoImplicit false
set_option relaxedAutoImplicit false

/-!
# Programs

A program is a list of instructions, numbered from one, and labels that name places between them.
Linking reads a source text line by line. A label is bound to the number of the next instruction,
so it may stand behind the last one.

## Main definitions

* `RegisterMachine.Instruction`, `RegisterMachine.Label`, `RegisterMachine.Program`.
* `RegisterMachine.LinkError` — why a source text is refused.
* `RegisterMachine.Program.link` — the program that a source text denotes.

## References

* [Spec] The expanded specification of the machine. (§4.6, "Parser/Linker".)
-/

namespace RegisterMachine

/-- An instruction, with the number and the text of its line. -/
structure Instruction where
  mnemonic : String
  operands : List Operand
  line : Nat
  source : String
  deriving DecidableEq, Repr

/-- A label, with the number of the instruction behind it and the number of its line. -/
structure Label where
  name : String
  index : Nat
  line : Nat
  deriving DecidableEq, Repr

/-- Instructions and labels, in the order of the source. -/
structure Program where
  instructions : Array Instruction := #[]
  labels : Array Label := #[]
  deriving DecidableEq, Repr

/-- Why a source text is refused. -/
inductive LinkError
  | fault (fault : Fault)
  | digitLimit (e : DigitLimit)
  deriving DecidableEq, Repr

namespace Program

/-- The number of instructions. -/
def size (program : Program) : Nat :=
  program.instructions.size

/-- The instruction with a number. The first one has number one; the numbers from zero down belong
to the last instruction and those in front of it. -/
def fetch? (program : Program) (index : Int) : Option Instruction :=
  if 0 < index then program.instructions[(index - 1).toNat]?
  else if 0 < program.size + index then program.instructions[(program.size + index - 1).toNat]?
  else none

/-- The label with a name. -/
def findLabel? (program : Program) (name : String) : Option Label :=
  program.labels.find? (·.name = name)

/-- The number that a label is bound to. -/
def labelIndex? (program : Program) (name : String) : Option Nat :=
  (program.findLabel? name).map (·.index)

/-- The refusal of a line. -/
def refuse (kind : FaultKind) (message : String) (line : Nat) (source : String) : LinkError :=
  .fault { kind, message, line, source }

/-- The program with one more label, which must have a new name that is not empty. -/
def addLabel (program : Program) (line : Nat) (source name : String) :
    Except LinkError Program :=
  if name.isEmpty then .error (refuse .invalidLabel "Empty label name" line source)
  else match program.findLabel? name with
    | some first =>
      let message := "Duplicate label '" ++ name ++ "' (first defined on line "
        ++ toString first.line ++ ")"
      .error (refuse .duplicateLabel message line source)
    | none =>
      .ok { program with labels := program.labels.push ⟨name, program.size + 1, line⟩ }

/-- Whether the first two of a list of operands are one symbol. [Spec, §4.6] -/
def isSelfAlias : List Operand → Bool
  | .symbol name :: .symbol target :: _ => name = target
  | _ => false

/-- The program with one more instruction, which must not alias a symbol to itself. -/
def addInstruction (program : Program) (instruction : Instruction) : Except LinkError Program :=
  if instruction.mnemonic = "als" && isSelfAlias instruction.operands then
    let name := (instruction.operands.head?.map Operand.text).getD ""
    .error (refuse .aliasCycle ("Alias '" ++ name ++ "' refers to itself") instruction.line
      instruction.source)
  else .ok { program with instructions := program.instructions.push instruction }

/-- The operands that arguments denote. -/
def readOperands (registerCount : Nat) (arguments : List String) :
    Except LinkError (List Operand) :=
  match arguments.mapM (Operand.ofText registerCount) with
  | .ok operands => .ok operands
  | .error e => .error (.digitLimit e)

/-- The program with one more line. -/
def addLine (registerCount : Nat) (program : Program) (number : Nat) (line : Line) :
    Except LinkError Program :=
  match line.statement with
  | .label name => program.addLabel number line.text name
  | .instruction mnemonic arguments => do
    let operands ← readOperands registerCount arguments
    program.addInstruction
      { mnemonic := Text.lower mnemonic, operands, line := number, source := line.text }

/-- The lines of a source text that say something, with their numbers; the first line of the text
has number one. -/
def numberedLines (source : String) : List (Nat × Line) :=
  (Text.lines source.toList).zipIdx.filterMap fun (cs, i) =>
    (Line.ofChars? cs).map fun line => (i + 1, line)

/-- The program that a source text denotes in a machine of the given configuration. [Spec, §4.6] -/
def link (config : Config) (source : String) : Except LinkError Program :=
  (numberedLines source).foldlM
    (fun program (number, line) => program.addLine config.registerCount number line) {}

end Program

end RegisterMachine
