import RegisterMachine.Text.DecimalDigit
import Mathlib.Data.Nat.Digits.Lemmas

set_option autoImplicit false
set_option relaxedAutoImplicit false

/-!
# Positional notation

Digits are read from the left, and each step makes room for one digit more. So the number that they
denote is the sum of their values, each times the power of the base that its place stands for. Zeros
in front add nothing to it, whatever script they are from.

## Main definitions

* `RegisterMachine.Text.placeValues` — the values of digits, from the last place on.

## Main results

* `RegisterMachine.Text.decimalValue_eq_ofDigits`, `hexadecimalValue_eq_ofDigits` — the numbers that
  digits denote, by places.
* `RegisterMachine.Text.decimalValue_zeros_append` — zeros in front add nothing.
* `RegisterMachine.Text.pow_le_decimalValue` — a first digit that is no zero makes a number large.
-/

namespace RegisterMachine.Text

/-! ## Places -/

section Places

variable (base : Nat) (value? : Char → Option Nat)

/-- The values of digits, from the last place on. -/
def placeValues (digits : List Char) : List Nat :=
  (digits.map fun c => (value? c).getD 0).reverse

@[simp]
lemma length_placeValues (digits : List Char) :
    (placeValues value? digits).length = digits.length := by
  simp [placeValues]

/-- The places behind come first. -/
lemma placeValues_append (front back : List Char) :
    placeValues value? (front ++ back) = placeValues value? back ++ placeValues value? front := by
  simp [placeValues]

/-- Reading digits from the left gives the number that has them at its places. -/
lemma foldl_eq_ofDigits (digits : List Char) :
    digits.foldl (fun n c => base * n + (value? c).getD 0) 0 =
      Nat.ofDigits base (placeValues value? digits) := by
  rw [Nat.ofDigits_eq_foldr, placeValues, ← List.map_reverse, List.foldr_map,
    List.foldl_eq_foldr_reverse]
  simp only [Nat.cast_id, Nat.add_comm]

/-- Digits in front of others count as many powers of the base more as there are others. -/
lemma ofDigits_placeValues_append (front back : List Char) :
    Nat.ofDigits base (placeValues value? (front ++ back)) =
      base ^ back.length * Nat.ofDigits base (placeValues value? front) +
        Nat.ofDigits base (placeValues value? back) := by
  rw [placeValues_append, Nat.ofDigits_append, length_placeValues, Nat.add_comm]

end Places

/-! ## Decimal digits -/

variable {c : Char} {digits zeros : List Char}

/-- **The number that decimal digits denote, by places.** -/
lemma decimalValue_eq_ofDigits (digits : List Char) :
    decimalValue digits = Nat.ofDigits 10 (placeValues digitValue? digits) :=
  foldl_eq_ofDigits 10 digitValue? digits

lemma decimalValue_append (front back : List Char) :
    decimalValue (front ++ back) = 10 ^ back.length * decimalValue front + decimalValue back := by
  simp only [decimalValue_eq_ofDigits]
  exact ofDigits_placeValues_append 10 digitValue? front back

lemma decimalValue_cons (c : Char) (digits : List Char) :
    decimalValue (c :: digits) =
      10 ^ digits.length * (digitValue? c).getD 0 + decimalValue digits := by
  have hone : decimalValue [c] = (digitValue? c).getD 0 := by simp [decimalValue]
  rw [← List.singleton_append, decimalValue_append, hone]

/-- Zeros of any script denote zero. -/
lemma decimalValue_zeros (h : ∀ c ∈ zeros, digitValue? c = some 0) : decimalValue zeros = 0 := by
  induction zeros with
  | nil => exact decimalValue_nil
  | cons c zeros ih =>
    rw [List.forall_mem_cons] at h
    rw [decimalValue_cons, h.1, ih h.2]
    rfl

/-- **Zeros in front add nothing.** -/
lemma decimalValue_zeros_append (h : ∀ c ∈ zeros, digitValue? c = some 0) (digits : List Char) :
    decimalValue (zeros ++ digits) = decimalValue digits := by
  rw [decimalValue_append, decimalValue_zeros h, Nat.mul_zero, Nat.zero_add]

/-- **A first digit that is no zero makes a number large.** -/
lemma pow_le_decimalValue {value : Nat} (h : digitValue? c = some value) (hpos : 0 < value) :
    10 ^ digits.length ≤ decimalValue (c :: digits) := by
  rw [decimalValue_cons, h]
  exact Nat.le_add_right_of_le (Nat.le_mul_of_pos_right _ hpos)

/-- The value of an ASCII digit. -/
lemma digitValue?_of_isDigit (h : c.isDigit) : digitValue? c = some (c.toNat - '0'.toNat) := by
  have hrange : 0x30 ≤ c.toNat ∧ c.toNat < 0x30 + 10 := by
    simp only [Char.isDigit, Bool.and_eq_true, decide_eq_true_eq, ge_iff_le,
      UInt32.le_iff_toNat_le] at h
    change 48 ≤ c.toNat ∧ c.toNat ≤ 57 at h
    omega
  have hfind : digitZeros.find? (fun base => base ≤ c.toNat && c.toNat < base + 10) = some 0x30 :=
    List.find?_cons_of_pos (by simpa using hrange)
  rw [digitValue?, hfind]
  rfl

/-- ASCII digits denote the number that the library reads from them. -/
lemma decimalValue_eq_ofDigitChars (h : ∀ c ∈ digits, c.isDigit) :
    decimalValue digits = Nat.ofDigitChars 10 digits 0 := by
  refine List.foldl_ext _ _ _ fun n c hc => ?_
  rw [digitValue?_of_isDigit (h c hc)]
  rfl

/-! ## Hexadecimal digits -/

/-- **The number that hexadecimal digits denote, by places.** -/
lemma hexadecimalValue_eq_ofDigits (digits : List Char) :
    hexadecimalValue digits = Nat.ofDigits 16 (placeValues hexValue? digits) :=
  foldl_eq_ofDigits 16 hexValue? digits

lemma hexadecimalValue_append (front back : List Char) :
    hexadecimalValue (front ++ back) =
      16 ^ back.length * hexadecimalValue front + hexadecimalValue back := by
  simp only [hexadecimalValue_eq_ofDigits]
  exact ofDigits_placeValues_append 16 hexValue? front back

end RegisterMachine.Text
