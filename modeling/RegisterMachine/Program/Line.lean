import RegisterMachine.Text.Lines

set_option autoImplicit false
set_option relaxedAutoImplicit false

/-!
# Source lines

A line holds a label, an instruction or nothing. Everything from a semicolon on is a comment. An
instruction is a mnemonic and its arguments, which are separated by commas; blanks between them
mean nothing.

## Main definitions

* `RegisterMachine.Statement` — what a line says.
* `RegisterMachine.Line` — a line that says something, with its text.
* `RegisterMachine.Line.ofText?` — the line that a text holds.

## References

* [Spec] The expanded specification of the machine. (§4.6, "Parser/Linker".)
-/

namespace RegisterMachine

open Text

/-- What a line says. -/
inductive Statement
  | label (name : String)
  | instruction (mnemonic : String) (arguments : List String)
  deriving DecidableEq, Repr

/-- A line that says something. Its text has no comment and no blanks at its ends. -/
structure Line where
  text : String
  statement : Statement
  deriving DecidableEq, Repr

namespace Line

/-- A line without its comment and without blanks at its ends. -/
def stripped (cs : List Char) : List Char :=
  trim (cs.takeWhile (· ≠ ';'))

/-- The arguments in what follows a mnemonic: the words are joined and then split at commas, and
empty arguments are dropped. -/
def arguments (rest : List (List Char)) : List String :=
  (fields (· = ',') rest.flatten).map String.ofList

/-- What a line says, by its words: a first word that ends with a colon is a label, and the rest of
its line is ignored. -/
def statementOf (head : List Char) (rest : List (List Char)) : Statement :=
  if head.getLast? = some ':' then .label (String.ofList head.dropLast)
  else .instruction (String.ofList head) (arguments rest)

/-- The line that characters hold, unless they say nothing. -/
def ofChars? (cs : List Char) : Option Line :=
  let body := stripped cs
  match words body with
  | [] => none
  | head :: rest => some ⟨String.ofList body, statementOf head rest⟩

/-- The line that a text holds, unless it says nothing. [Spec, §4.6] -/
def ofText? (text : String) : Option Line :=
  ofChars? text.toList

end Line

end RegisterMachine
