import RegisterMachine.Number.Bitwise
import RegisterMachine.Register

set_option autoImplicit false
set_option relaxedAutoImplicit false

/-!
# Instruction codes

The instructions of the machine, by family: operations with one or two operands that store a
result in the first, jumps under a condition, and the others.

## Main definitions

* `RegisterMachine.BinaryOp`, `RegisterMachine.UnaryOp` — the operations, and how they compute.
* `RegisterMachine.Condition` — when a jump is taken.
* `RegisterMachine.Opcode` — all instructions.
* `RegisterMachine.Opcode.ofMnemonic?` — the instruction with a mnemonic.
* `RegisterMachine.Opcode.arity` — the least number of operands.

## References

* [Spec] The expanded specification of the machine. (§4.7, "Execution Engine".)
-/

namespace RegisterMachine

/-- An operation on two numbers. -/
inductive BinaryOp
  | add | sub | mul | div | idiv | mod | pow | and | or | xor | shl | shr
  deriving DecidableEq, Repr

namespace BinaryOp

/-- The result of an operation on two numbers. -/
def apply : BinaryOp → Number → Number → Except Cause Number
  | .add => Number.add
  | .sub => Number.sub
  | .mul => Number.mul
  | .div => Number.div
  | .idiv => Number.idiv
  | .mod => Number.mod
  | .pow => Number.pow
  | .and => Number.and
  | .or => Number.or
  | .xor => Number.xor
  | .shl => Number.shl
  | .shr => Number.shr

/-- The operation with a mnemonic. -/
def ofMnemonic? : String → Option BinaryOp
  | "add" => some .add
  | "sub" => some .sub
  | "mul" => some .mul
  | "div" => some .div
  | "idiv" => some .idiv
  | "mod" => some .mod
  | "pow" => some .pow
  | "and" => some .and
  | "or" => some .or
  | "xor" => some .xor
  | "shl" => some .shl
  | "shr" => some .shr
  | _ => none

end BinaryOp

/-- An operation on one number. -/
inductive UnaryOp
  | sqrt | inc | dec | not
  deriving DecidableEq, Repr

namespace UnaryOp

/-- The result of an operation on one number. -/
def apply : UnaryOp → Number → Except Cause Number
  | .sqrt => Number.sqrt
  | .inc => Number.inc
  | .dec => Number.dec
  | .not => Number.not

/-- The operation with a mnemonic. -/
def ofMnemonic? : String → Option UnaryOp
  | "sqrt" => some .sqrt
  | "inc" => some .inc
  | "dec" => some .dec
  | "not" => some .not
  | _ => none

end UnaryOp

/-- When a jump is taken. -/
inductive Condition
  | always | equal | notEqual | less | lessEqual | greater | greaterEqual
  deriving DecidableEq, Repr

namespace Condition

/-- Whether a condition holds for the flags left by a comparison. -/
def holds (flags : Flags) : Condition → Bool
  | .always => true
  | .equal => flags.eq
  | .notEqual => !flags.eq
  | .less => flags.lt
  | .lessEqual => flags.lt || flags.eq
  | .greater => flags.gt
  | .greaterEqual => flags.gt || flags.eq

/-- The condition of a jump with a mnemonic. -/
def ofMnemonic? : String → Option Condition
  | "jmp" => some .always
  | "je" => some .equal
  | "jne" => some .notEqual
  | "jl" => some .less
  | "jle" => some .lessEqual
  | "jg" => some .greater
  | "jge" => some .greaterEqual
  | _ => none

end Condition

/-- An instruction of the machine. [Spec, §4.7] -/
inductive Opcode
  /-- Prints all operands. -/
  | out
  /-- Stores the second operand in the first. -/
  | mov
  /-- Makes the first operand an alias of the second. -/
  | als
  /-- Prints the state of the machine. -/
  | dbg
  /-- Halts. -/
  | hlt
  /-- Pauses for the operand's seconds. -/
  | slp
  /-- Queues an event and awaits it. -/
  | nop
  /-- Compares two operands and sets the flags. -/
  | cmp
  /-- Jumps to the label named by the operand if the condition holds. -/
  | jump (condition : Condition)
  /-- Stores the result of an operation on both operands in the first. -/
  | binary (op : BinaryOp)
  /-- Stores the result of an operation on the operand in it. -/
  | unary (op : UnaryOp)
  deriving DecidableEq, Repr

namespace Opcode

/-- The instructions that belong to no family. -/
def ofPlainMnemonic? : String → Option Opcode
  | "out" => some .out
  | "mov" => some .mov
  | "als" => some .als
  | "dbg" => some .dbg
  | "hlt" => some .hlt
  | "slp" => some .slp
  | "nop" => some .nop
  | "cmp" => some .cmp
  | _ => none

/-- The instruction with a mnemonic. -/
def ofMnemonic? (mnemonic : String) : Option Opcode :=
  ofPlainMnemonic? mnemonic <|>
    (Condition.ofMnemonic? mnemonic).map .jump <|>
    (BinaryOp.ofMnemonic? mnemonic).map .binary <|>
    (UnaryOp.ofMnemonic? mnemonic).map .unary

/-- The least number of operands of an instruction. [Spec, §4.7] -/
def arity : Opcode → Nat
  | .out | .dbg | .hlt | .nop => 0
  | .slp | .jump _ | .unary _ => 1
  | .mov | .als | .cmp | .binary _ => 2

end Opcode

end RegisterMachine
