import RegisterMachine.Action
import RegisterMachine.Operand
import RegisterMachine.Proofs.Register
import Mathlib.Data.Finset.Dedup

set_option autoImplicit false
set_option relaxedAutoImplicit false

/-!
# Operands among register names

Which operand a text denotes depends on the registers only by their names. So operands can be read
among any names, and a machine reads them among those of its registers.

## Main definitions

* `RegisterMachine.RegisterName.names` — the names of the registers of a machine.
* `RegisterMachine.Operand.ofTextAmong` — the operand that a text denotes if the registers have
  certain names.

## Main results

* `RegisterMachine.Operand.ofPlainTextAmong_eq_ok_iff`,
  `RegisterMachine.Operand.ofPlainTextAmong_eq_error_iff` — what a text without brackets denotes.
* `RegisterMachine.Operand.ofTextAmong_names` — the names of a machine with so many registers.
-/

namespace RegisterMachine

/-- The names of all registers of a machine with so many general registers. -/
def RegisterName.names (count : Nat) : Finset String :=
  ((all count).map text).toFinset

/-- A text denotes a register if its lower-case spelling is the name of one. -/
lemma RegisterName.isSome_find?_iff {count : Nat} {text : String} :
    (find? count text).isSome ↔ Text.lower text ∈ names count := by
  simp [Option.isSome_iff_exists, find?_eq_some_iff, names]

/-- A text denotes no register if its lower-case spelling is the name of none. -/
lemma RegisterName.find?_eq_none_iff {count : Nat} {text : String} :
    find? count text = none ↔ Text.lower text ∉ names count := by
  rw [← isSome_find?_iff, Option.not_isSome_iff_eq_none]

namespace Operand

variable {names : Finset String} {text : String} {operand : Operand} {cs inside : List Char}

/-! ## Reading among names -/

/-- The operand that a text without brackets denotes if the registers have these names. -/
def ofPlainTextAmong (names : Finset String) (text : String) : Except DigitLimit Operand :=
  if Text.lower text ∈ names then .ok (.register text)
  else do
    match ← Literal.read text with
    | some value => return .literal text value
    | none => return .symbol text

/-- The operand that characters denote if the registers have these names. -/
def ofCharsAmong (names : Finset String) (cs : List Char) : Except DigitLimit Operand :=
  match _h : bracketed? cs with
  | some inner => do return .indirect (String.ofList cs) (← ofCharsAmong names inner)
  | none => ofPlainTextAmong names (String.ofList cs)
termination_by cs.length
decreasing_by exact length_bracketed?_lt _h

/-- The operand that a text denotes if the registers have these names. -/
def ofTextAmong (names : Finset String) (text : String) : Except DigitLimit Operand :=
  ofCharsAmong names text.toList

/-- A text in brackets denotes the cell whose address its inner text denotes. -/
lemma ofCharsAmong_of_bracketed (h : bracketed? cs = some inside) :
    ofCharsAmong names cs =
      (do return .indirect (String.ofList cs) (← ofCharsAmong names inside)) := by
  rw [ofCharsAmong]
  split <;> simp_all

/-- A text without brackets denotes a register, a number or a symbol. -/
lemma ofCharsAmong_of_not_bracketed (h : bracketed? cs = none) :
    ofCharsAmong names cs = ofPlainTextAmong names (String.ofList cs) := by
  rw [ofCharsAmong]
  split <;> simp_all

/-- What a text without brackets denotes: a register before a number, and a number before a
symbol. -/
lemma ofPlainTextAmong_eq_ok_iff :
    ofPlainTextAmong names text = .ok operand ↔
      (Text.lower text ∈ names ∧ operand = .register text) ∨
      (Text.lower text ∉ names ∧
        ((∃ value, Literal.read text = .ok (some value) ∧ operand = .literal text value) ∨
          (Literal.read text = .ok none ∧ operand = .symbol text))) := by
  unfold ofPlainTextAmong
  by_cases hname : Text.lower text ∈ names
  · simp [hname, eq_comm]
  · cases hread : Literal.read text with
    | error e => simp [hname]
    | ok value? => cases value? <;> simp [hname]

/-- A text without brackets denotes no operand if it is no name and cannot be read. -/
lemma ofPlainTextAmong_eq_error_iff {e : DigitLimit} :
    ofPlainTextAmong names text = .error e ↔
      Text.lower text ∉ names ∧ Literal.read text = .error e := by
  unfold ofPlainTextAmong
  by_cases hname : Text.lower text ∈ names
  · simp [hname]
  · cases hread : Literal.read text with
    | error digits => simp [hname]
    | ok value? => cases value? <;> simp [hname]

/-! ## The names of a machine -/

/-- A machine reads a text without brackets among the names of its registers. -/
lemma ofPlainTextAmong_names (count : Nat) (text : String) :
    ofPlainTextAmong (RegisterName.names count) text = ofPlainText count text := by
  rw [ofPlainTextAmong, ofPlainText]
  exact if_congr RegisterName.isSome_find?_iff.symm rfl rfl

/-- A machine reads characters among the names of its registers. -/
lemma ofCharsAmong_names (count : Nat) (cs : List Char) :
    ofCharsAmong (RegisterName.names count) cs = ofChars count cs := by
  induction cs using ofChars.induct with
  | case1 cs inside hbracket ih =>
    rw [ofCharsAmong_of_bracketed hbracket, ih]
    conv_rhs => rw [ofChars]
    split <;> simp_all
  | case2 cs hbracket =>
    rw [ofCharsAmong_of_not_bracketed hbracket, ofPlainTextAmong_names, ofChars]
    split <;> simp_all

/-- **A machine reads operands among the names of its registers.** -/
lemma ofTextAmong_names (count : Nat) (text : String) :
    ofTextAmong (RegisterName.names count) text = ofText count text :=
  ofCharsAmong_names count text.toList

end Operand

end RegisterMachine
