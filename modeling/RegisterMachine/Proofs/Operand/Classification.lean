import RegisterMachine.Action
import RegisterMachine.Proofs.Operand.Names

set_option autoImplicit false
set_option relaxedAutoImplicit false

/-!
# Classification of operands

An operand that was read from a text keeps that text, and reading its text again gives the same
operand. Each kind of operand says of its text what it was classified by.

## Main definitions

* `RegisterMachine.Operand.IsReading` — the operand is the one that its own text denotes.

## Main results

* `RegisterMachine.Operand.text_of_ofText`, `RegisterMachine.Operand.isReading_of_ofText` — reading
  keeps the text.
* `RegisterMachine.Operand.isReading_indirect_iff` and its siblings — what each kind of operand says
  of its text.
-/

namespace RegisterMachine

namespace Operand

variable {count : Nat} {text : String} {operand inner : Operand}

/-! ## Reading keeps the text -/

/-- The operand is the one that its own text denotes, in a machine with so many registers. -/
def IsReading (count : Nat) (operand : Operand) : Prop :=
  ofText count operand.text = .ok operand

/-- A text in brackets denotes the cell whose address its inner text denotes. -/
lemma ofChars_of_bracketed {cs inner : List Char} (h : bracketed? cs = some inner) :
    ofChars count cs = (do return .indirect (String.ofList cs) (← ofChars count inner)) := by
  rw [← ofCharsAmong_names, ofCharsAmong_of_bracketed h, ofCharsAmong_names]

/-- A text without brackets denotes a register, a number or a symbol. -/
lemma ofChars_of_not_bracketed {cs : List Char} (h : bracketed? cs = none) :
    ofChars count cs = ofPlainText count (String.ofList cs) := by
  rw [← ofCharsAmong_names, ofCharsAmong_of_not_bracketed h, ofPlainTextAmong_names]

/-- What a text without brackets denotes: a register before a number, and a number before a
symbol. -/
lemma ofPlainText_eq_ok_iff :
    ofPlainText count text = .ok operand ↔
      ((RegisterName.find? count text).isSome ∧ operand = .register text) ∨
      (RegisterName.find? count text = none ∧
        ((∃ value, Literal.read text = .ok (some value) ∧ operand = .literal text value) ∨
          (Literal.read text = .ok none ∧ operand = .symbol text))) := by
  rw [← ofPlainTextAmong_names, ofPlainTextAmong_eq_ok_iff, RegisterName.isSome_find?_iff,
    RegisterName.find?_eq_none_iff]

/-- An operand has the text it was read from. -/
lemma text_of_ofChars {cs : List Char} (h : ofChars count cs = .ok operand) :
    operand.text = String.ofList cs := by
  cases hbracket : bracketed? cs with
  | some inside =>
    rw [ofChars_of_bracketed hbracket] at h
    simp only [Except.bind_eq_ok, Except.pure_eq_ok] at h
    obtain ⟨_, -, rfl⟩ := h
    rfl
  | none =>
    rw [ofChars_of_not_bracketed hbracket, ofPlainText_eq_ok_iff] at h
    obtain ⟨-, rfl⟩ | ⟨-, ⟨_, -, rfl⟩ | ⟨-, rfl⟩⟩ := h <;> rfl

/-- An operand has the text it was read from. -/
lemma text_of_ofText (h : ofText count text = .ok operand) : operand.text = text := by
  rw [text_of_ofChars h, String.ofList_toList]

/-- Reading the text of an operand again gives the operand. -/
lemma isReading_of_ofText (h : ofText count text = .ok operand) : operand.IsReading count := by
  rw [IsReading, text_of_ofText h, h]

/-! ## What the kinds of operands say of their texts -/

/-- A cell stands in brackets, and its address is the reading of what they hold. -/
lemma isReading_indirect_iff :
    (indirect text inner).IsReading count ↔
      bracketed? text.toList = some inner.text.toList ∧ inner.IsReading count := by
  change ofChars count text.toList = .ok (indirect text inner) ↔ _
  cases hbracket : bracketed? text.toList with
  | some inside =>
    simp only [ofChars_of_bracketed hbracket, Except.bind_eq_ok, Except.pure_eq_ok,
      String.ofList_toList, indirect.injEq, true_and, exists_eq_right', Option.some.injEq]
    constructor
    · intro h
      have htext : inner.text.toList = inside := by rw [text_of_ofChars h, String.toList_ofList]
      exact ⟨htext.symm, by rw [IsReading, ofText, htext, h]⟩
    · rintro ⟨rfl, h⟩
      exact h
  | none => simp [ofChars_of_not_bracketed hbracket, ofPlainText_eq_ok_iff]

/-- A register is named by its text. -/
lemma isReading_register_iff :
    (register text).IsReading count ↔
      bracketed? text.toList = none ∧ (RegisterName.find? count text).isSome := by
  change ofChars count text.toList = .ok (register text) ↔ _
  cases hbracket : bracketed? text.toList with
  | some inside => simp [ofChars_of_bracketed hbracket]
  | none => simp [ofChars_of_not_bracketed hbracket, ofPlainText_eq_ok_iff]

/-- A literal names no register, and its text denotes its value. -/
lemma isReading_literal_iff {value : Number} :
    (literal text value).IsReading count ↔
      bracketed? text.toList = none ∧ RegisterName.find? count text = none ∧
        Literal.read text = .ok (some value) := by
  change ofChars count text.toList = .ok (literal text value) ↔ _
  cases hbracket : bracketed? text.toList with
  | some inside => simp [ofChars_of_bracketed hbracket]
  | none => simp [ofChars_of_not_bracketed hbracket, ofPlainText_eq_ok_iff]

/-- A symbol names no register, and its text denotes no number. -/
lemma isReading_symbol_iff :
    (symbol text).IsReading count ↔
      bracketed? text.toList = none ∧ RegisterName.find? count text = none ∧
        Literal.read text = .ok none := by
  change ofChars count text.toList = .ok (symbol text) ↔ _
  cases hbracket : bracketed? text.toList with
  | some inside => simp [ofChars_of_bracketed hbracket]
  | none => simp [ofChars_of_not_bracketed hbracket, ofPlainText_eq_ok_iff]

end Operand

end RegisterMachine
