import RegisterMachine.Number.Literal
import RegisterMachine.Register

set_option autoImplicit false
set_option relaxedAutoImplicit false

/-!
# Operands

An operand is classified once, by its text: something in brackets, a register, a number, or else a
symbol, which names an alias or a label. Brackets are read from the outside in, one pair in the
other; the stack is assumed to have room for as many pairs as there are.

## Main definitions

* `RegisterMachine.Operand` — the four kinds of operands.
* `RegisterMachine.Operand.text` — the text that an operand was read from.
* `RegisterMachine.Operand.ofText` — the operand that a text denotes.

## References

* [Spec] The expanded specification of the machine. (§4.2, "Operand Resolution".)
-/

namespace RegisterMachine

/-- What an instruction works on, with the text it was read from. [Spec, §4.2] -/
inductive Operand
  /-- The memory cell whose address is the value of the inner operand. -/
  | indirect (text : String) (inner : Operand)
  /-- The register with a name in any letter case. -/
  | register (text : String)
  /-- A number. -/
  | literal (text : String) (value : Number)
  /-- A name that gets its meaning when it is used. -/
  | symbol (text : String)
  deriving DecidableEq, Repr

namespace Operand

/-- The text that an operand was read from. -/
def text : Operand → String
  | .indirect text _ => text
  | .register text => text
  | .literal text _ => text
  | .symbol text => text

/-- Whether an operand is a symbol. -/
def isSymbol : Operand → Bool
  | .symbol _ => true
  | _ => false

/-- What stands between the outer brackets of a text, if it has them. The inner text holds no line
feed, and one may follow the closing bracket. -/
def bracketed? (cs : List Char) : Option (List Char) :=
  match Literal.beforeFinalBreak cs with
  | '[' :: rest =>
    if rest.getLast? = some ']' && !rest.dropLast.contains '\n' then some rest.dropLast else none
  | _ => none

theorem length_beforeFinalBreak_le (cs : List Char) :
    (Literal.beforeFinalBreak cs).length ≤ cs.length := by
  unfold Literal.beforeFinalBreak
  split <;> simp

theorem length_bracketed?_lt {cs inner : List Char} (h : bracketed? cs = some inner) :
    inner.length < cs.length := by
  unfold bracketed? at h
  split at h
  · next rest heq =>
    have hle := length_beforeFinalBreak_le cs
    rw [heq] at hle
    split at h
    · cases h
      simp only [List.length_dropLast, List.length_cons] at hle ⊢
      omega
    · cases h
  · cases h

/-- The operand that a text without brackets denotes. -/
def ofPlainText (count : Nat) (text : String) : Except DigitLimit Operand :=
  if (RegisterName.find? count text).isSome then .ok (.register text)
  else do
    match ← Literal.read text with
    | some value => return .literal text value
    | none => return .symbol text

/-- The operand that characters denote in a machine with so many general registers. What stands
inside of brackets is read by the same rule, for which there is assumed to be room, however deep the
brackets nest. -/
def ofChars (count : Nat) (cs : List Char) : Except DigitLimit Operand :=
  match _h : bracketed? cs with
  | some inner => do return .indirect (String.ofList cs) (← ofChars count inner)
  | none => ofPlainText count (String.ofList cs)
termination_by cs.length
decreasing_by exact length_bracketed?_lt _h

/-- The operand that a text denotes in a machine with so many general registers. [Spec, §4.2] -/
def ofText (count : Nat) (text : String) : Except DigitLimit Operand :=
  ofChars count text.toList

end Operand

end RegisterMachine
