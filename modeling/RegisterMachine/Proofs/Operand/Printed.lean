import RegisterMachine.Proofs.Number.DecimalInteger
import RegisterMachine.Proofs.Program.Line

set_option autoImplicit false
set_option relaxedAutoImplicit false

/-!
# Integers as operands

An integer is written as its decimal digits, behind a minus if it is negative. An integer of 64 bits
is read back from that, the least one as well, whose digits alone denote a double.

## Main definitions

* `RegisterMachine.Literal.Sign.ofInt` — the sign in front of an integer.

## Main results

* `RegisterMachine.Literal.toList_toString` — how integers are written.
* `RegisterMachine.Literal.read_toString` — an integer of 64 bits is read back.
* `RegisterMachine.Operand.ofText_toString` — it is so as an operand.
-/

namespace RegisterMachine

open Text

variable {n : Int} {c : Char}

/-! ## Literals -/

namespace Literal

/-- The sign in front of an integer. -/
def Sign.ofInt (n : Int) : Sign :=
  if n < 0 then .minus else .absent

/-- An integer is its magnitude behind its sign. -/
lemma Sign.apply_ofInt (n : Int) : (Sign.ofInt n).apply n.natAbs = n := by
  unfold ofInt
  split
  · change -(n.natAbs : Int) = n
    omega
  · change (n.natAbs : Int) = n
    omega

/-- **An integer is written as a sign and decimal digits.** -/
lemma toList_toString (n : Int) :
    (toString n).toList = (Sign.ofInt n).chars ++ Nat.toDigits 10 n.natAbs := by
  have hdigits (m : Nat) : m.repr.toList = Nat.toDigits 10 m := by
    rw [← Nat.toString_eq_repr, Nat.toString_eq_ofList_toDigits, String.toList_ofList]
  rw [Int.toString_eq_repr, Int.repr_eq_if]
  by_cases h : n < 0
  · have hnat : (-n).toNat = n.natAbs := by omega
    rw [if_neg (by omega), Sign.ofInt, if_pos h, hnat, String.toList_append, hdigits]
    rfl
  · have hnat : n.toNat = n.natAbs := by omega
    rw [if_pos (by omega), Sign.ofInt, if_neg h, hnat, hdigits]
    rfl

/-- The digits of an integer are ASCII digits. -/
lemma isDigit_of_mem_toDigits {magnitude : Nat} (h : c ∈ Nat.toDigits 10 magnitude) : c.isDigit :=
  Nat.isDigit_of_mem_toDigits (by decide) (by decide) h

/-- The characters of an integer lie between the minus and the last digit. -/
lemma toNat_of_mem_toString (h : c ∈ (toString n).toList) : 0x2D ≤ c.toNat ∧ c.toNat ≤ 0x39 := by
  rw [toList_toString, List.mem_append] at h
  rcases h with hsign | hdigit
  · obtain rfl : c = '-' := by
      unfold Sign.ofInt at hsign
      split at hsign
      · exact List.mem_singleton.1 hsign
      · cases hsign
    decide
  · have hdigit := isDigit_of_mem_toDigits hdigit
    simp only [Char.isDigit, Bool.and_eq_true, decide_eq_true_eq] at hdigit
    have hlower : 0x30 ≤ c.toNat := hdigit.1
    have hupper : c.toNat ≤ 0x39 := hdigit.2
    omega

/-- No other characters stand in an integer. -/
lemma not_mem_toString (h : ¬ (0x2D ≤ c.toNat ∧ c.toNat ≤ 0x39)) : c ∉ (toString n).toList :=
  fun hc => h (toNat_of_mem_toString hc)

/-- The characters of an integer are settled, and no blanks. -/
lemma isPartner_of_mem_toString (h : c ∈ (toString n).toList) : IsPartner c := by
  have hrange := toNat_of_mem_toString h
  refine isPartner_of_forall (fun hascii => by omega) ?_
  simp only [reservedRanges, List.forall_mem_cons]
  refine ⟨?_, ?_, ?_, ?_, ?_, ?_, ?_, ?_, ?_, ?_, ?_, ?_, ?_, List.forall_mem_nil _⟩ <;> omega

/-- **An integer of 64 bits is read back.** -/
lemma read_toString (h : inWordRange n) : read (toString n) = .ok (some (.int n)) := by
  have hne : Nat.toDigits 10 n.natAbs ≠ [] := Nat.toDigits_ne_nil
  have hlength : (Nat.toDigits 10 n.natAbs).length ≤ maxIntegerDigits := by
    rw [Nat.length_toDigits_le_iff (by decide) (by decide)]
    have hbounds := inWordRange_iff.1 h
    have hpow : 10 ^ maxIntegerDigits = 10000000000000000000 := by decide
    omega
  have hwritten : ungrouped (toString n).toList =
      (Sign.ofInt n).chars ++ Nat.toDigits 10 n.natAbs := by
    rw [← toList_toString]
    refine List.filter_eq_self.2 fun c hc => decide_eq_true fun heq => ?_
    exact not_mem_toString (by decide) (heq ▸ hc)
  have hvalue : (Sign.ofInt n).apply (decimalValue (Nat.toDigits 10 n.natAbs)) = n := by
    rw [decimalValue_eq_ofDigitChars fun c => isDigit_of_mem_toDigits,
      Nat.ofDigitChars_ten_toDigits, Sign.apply_ofInt]
  rw [read_of_ascii hne (fun c => isDigit_of_mem_toDigits)
    (Nat.le_trans hlength (by decide)) hwritten, Sign.number, hvalue, if_pos h]

end Literal

/-! ## Operands -/

namespace Operand

/-- A text that starts with no bracket has none around it. -/
lemma bracketed?_eq_none {cs : List Char} (hbreak : '\n' ∉ cs) (hhead : '[' ∉ cs) :
    bracketed? cs = none := by
  rw [bracketed?, Literal.beforeFinalBreak_of_not_mem hbreak]
  split
  · exact absurd List.mem_cons_self hhead
  · rfl

/-- **An integer of 64 bits is read back as an operand.** -/
lemma ofText_toString (h : Literal.inWordRange n) (count : Nat) :
    ofText count (toString n) = .ok (.literal (toString n) (.int n)) := by
  have hbracket : bracketed? (toString n).toList = none :=
    bracketed?_eq_none (Literal.not_mem_toString (by decide)) (Literal.not_mem_toString (by decide))
  have hname : RegisterName.find? count (toString n) = none := by
    refine RegisterName.find?_eq_none_of_head?
      (fun c hc => (Literal.isPartner_of_mem_toString hc).isSettled) fun c hc => ?_
    have hrange := Literal.toNat_of_mem_toString (List.mem_of_mem_head? hc)
    omega
  rw [ofText, ofChars_of_not_bracketed hbracket, String.ofList_toList, ofPlainText, hname,
    Literal.read_toString h]
  rfl

end Operand

/-- An integer may stand between commas. -/
lemma Line.isOperandText_toString (n : Int) : Line.IsOperandText (toString n) where
  isToken := {
    ne_nil := by
      rw [Literal.toList_toString]
      exact List.append_ne_nil_of_right_ne_nil _ Nat.toDigits_ne_nil
    not_isBlank := fun _ hc => (Literal.isPartner_of_mem_toString hc).not_isBlank
    no_comment := fun _ hc => (Literal.isPartner_of_mem_toString hc).ne_semicolon }
  no_comma := fun _ hc heq => Literal.not_mem_toString (by decide) (heq ▸ hc)

end RegisterMachine
