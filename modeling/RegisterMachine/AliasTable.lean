import RegisterMachine.Operand

set_option autoImplicit false
set_option relaxedAutoImplicit false

/-!
# Aliases

A table of names with the operands they stand for. A name keeps its place when it is given a new
meaning.

## Main definitions

* `RegisterMachine.AliasTable` — names and their targets, in the order of first definition.
* `RegisterMachine.AliasTable.define`, `RegisterMachine.AliasTable.lookup` — its operations.

## References

* [Spec] The expanded specification of the machine. (§4.5, "Alias Table".)
-/

namespace RegisterMachine

/-- Names and their targets, in the order of first definition. [Spec, §4.5] -/
structure AliasTable where
  entries : List (String × Operand) := []
  deriving DecidableEq, Repr

namespace AliasTable

/-- The table without names. -/
def empty : AliasTable := {}

/-- The target of a name, if it is defined. -/
def lookup (aliases : AliasTable) (name : String) : Option Operand :=
  aliases.entries.lookup name

/-- Entries with one changed or, if its name is new, added at the end. -/
def defineIn (name : String) (target : Operand) : List (String × Operand) → List (String × Operand)
  | [] => [(name, target)]
  | entry :: rest =>
    if entry.1 = name then (name, target) :: rest else entry :: defineIn name target rest

/-- The table after a definition. -/
def define (aliases : AliasTable) (name : String) (target : Operand) : AliasTable :=
  ⟨defineIn name target aliases.entries⟩

end AliasTable

end RegisterMachine
