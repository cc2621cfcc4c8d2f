import RegisterMachine.Number.Bitwise
import RegisterMachine.Number.Literal
import Mathlib.Tactic.Common

set_option autoImplicit false
set_option relaxedAutoImplicit false

/-!
# The range of numbers

A number is in range if it is a double or an integer that is no larger than the largest double.
Every operation stays in this range: most wrap to 64 bits, an integer that comes from a double is
as large as the double at most, and quotients and remainders of integers do not grow. A number in
range is short enough to be written in decimal. Words are the numbers in the smaller range that
operations wrap to.

## Main definitions

* `RegisterMachine.Double.largest` — the largest finite double.
* `RegisterMachine.Number.InRange` — no truth value, and no integer above the largest double.
* `RegisterMachine.Number.IsWord` — no truth value, and no integer of more than 64 bits.

## Main results

* `RegisterMachine.Number.InRange.exists_text` — a number in range can be written.
* `RegisterMachine.Number.inRange_ofQuotient` — a rounded double is in range.
* `RegisterMachine.Number.IsWord.inRange` — a word is in range.
* `RegisterMachine.Literal.isWord_of_read` — a literal is a word.
-/

namespace RegisterMachine

/-! ## Integers that doubles equal -/

lemma unitsPerOne_pos : 0 < unitsPerOne := by
  decide +kernel

namespace Double

/-- The largest finite double, which is a whole number. -/
def largest : Nat := 0x1FFFFFFFFFFFFF <<< 971

/-- A 64-bit integer is below the largest double. -/
lemma word_le_largest : 0x8000000000000000 ≤ largest := by
  decide +kernel

/-- The largest double has fewer digits than a conversion takes. -/
lemma largest_lt_limit : largest < Nat.pow 10 DigitLimit.limit := by
  decide +kernel

/-- A significand has 53 bits. -/
lemma significand_le (x : Float) : significand x ≤ 0x1FFFFFFFFFFFFF := by
  unfold significand leadingBit
  split <;> omega

/-- The last bit of a finite double has its place below the 2046th. -/
lemma scale_le {x : Float} (h : magnitudeBits x < infinityBits) : scale x ≤ 2045 := by
  unfold scale leadingBit
  unfold infinityBits at h
  omega

/-- Shifts to the left are monotonic in both arguments. -/
lemma shiftLeft_le_shiftLeft {m n i j : Nat} (hm : m ≤ n) (hi : i ≤ j) : m <<< i ≤ n <<< j := by
  rw [Nat.shiftLeft_eq, Nat.shiftLeft_eq]
  exact Nat.mul_le_mul hm (Nat.pow_le_pow_right (by decide) hi)

/-- A finite double is not above the largest one. -/
lemma units_le {x : Float} {negative : Bool} {units : Nat}
    (h : exact x = .finite negative units) : units ≤ largest * unitsPerOne := by
  unfold exact at h
  split at h
  · next hfinite =>
    obtain ⟨-, rfl⟩ : signBit x = negative ∧ significand x <<< scale x = units := by simpa using h
    have hlargest : 0x1FFFFFFFFFFFFF <<< 2045 = largest * unitsPerOne := by decide +kernel
    rw [← hlargest]
    exact shiftLeft_le_shiftLeft (significand_le x) (scale_le hfinite)
  · split at h <;> cases h

end Double

namespace Exact

variable {negative : Bool} {units bound : Nat} {n : Int}

lemma natAbs_signed : (signed negative units).natAbs = units := by
  cases negative <;> simp [signed]

/-- Rounding down does not go beyond a whole bound. -/
lemma natAbs_floor_le (hunits : units ≤ bound * unitsPerOne)
    (h : (finite negative units).floor? = some n) : n.natAbs ≤ bound := by
  obtain rfl : (signed negative units).fdiv unitsPerOne = n := Option.some.inj h
  have hpos : (0 : Int) < unitsPerOne := Int.natCast_pos.2 unitsPerOne_pos
  have hsigned : (signed negative units).natAbs ≤ bound * unitsPerOne := by
    rwa [natAbs_signed]
  have hcast : ((bound * unitsPerOne : Nat) : Int) = bound * unitsPerOne := by push_cast; rfl
  rw [Int.fdiv_eq_ediv_of_nonneg _ (Int.le_of_lt hpos)]
  have hupper : signed negative units / (unitsPerOne : Int) ≤ bound :=
    Int.ediv_le_of_le_mul hpos (by omega)
  have hlower : -(bound : Int) ≤ signed negative units / (unitsPerOne : Int) :=
    Int.le_ediv_of_mul_le hpos (by rw [Int.neg_mul]; omega)
  omega

end Exact

/-! ## Numbers in range -/

namespace Number

/-- What the machine holds: integers that are no larger than the largest double, and doubles. -/
inductive InRange : Number → Prop
  | int {n : Int} (h : n.natAbs ≤ Double.largest) : InRange (.int n)
  | double (x : Float) : InRange (.double x)

/-- A number in range that is read as an integer is that integer, since it is no truth value. -/
lemma InRange.eq_int {a : Number} (h : a.InRange) {n : Int} (hscalar : a.scalar = .int n) :
    a = .int n := by
  cases h with
  | @int m h => simpa [scalar] using hscalar
  | double x => simp [scalar] at hscalar

/-- What operations wrap to: signed integers of 64 bits, and doubles, which are left as they are. -/
inductive IsWord : Number → Prop
  | int {n : Int} (h : -0x8000000000000000 ≤ n ∧ n ≤ 0x7FFFFFFFFFFFFFFF) : IsWord (.int n)
  | double (x : Float) : IsWord (.double x)

/-- A word is in range. -/
lemma IsWord.inRange {a : Number} (h : a.IsWord) : a.InRange := by
  cases h with
  | @int n h => exact .int (Nat.le_trans (by omega) Double.word_le_largest)
  | double x => exact .double x

/-- A wrapped integer is a word. -/
lemma isWord_wrap (n : Int) : (Number.int (wrap n)).IsWord := by
  have hlower : -((wordCount : Int) / 2) ≤ wrap n := Int.le_bmod (by decide)
  have hupper : wrap n < ((wordCount : Int) + 1) / 2 := Int.bmod_lt (by decide)
  have hcount : (wordCount : Int) = 0x10000000000000000 := rfl
  rw [hcount] at hlower hupper
  exact .int (by omega)

/-- Wrapping leaves integers of 64 bits as they are. -/
lemma wrap_of_range {n : Int} (h : -0x8000000000000000 ≤ n ∧ n ≤ 0x7FFFFFFFFFFFFFFF) :
    wrap n = n := by
  have hcount : (wordCount : Int) = 0x10000000000000000 := rfl
  exact Int.bmod_eq_of_le (by omega) (by omega)

/-- The signed reading of 64 bits is a word. -/
lemma isWord_toInt (w : BitVec 64) : (Number.int w.toInt).IsWord := by
  have hlower := BitVec.le_toInt w
  have hupper := BitVec.toInt_lt (x := w)
  exact .int (by omega)

/-- A rounded double is in range. -/
lemma inRange_ofQuotient (x : Float) : (ofQuotient x).InRange := by
  unfold ofQuotient
  split
  · next n h =>
    cases hexact : Double.exact x with
    | finite negative units =>
      rw [hexact] at h
      exact .int (Exact.natAbs_floor_le (Double.units_le hexact) h)
    | infinite negative => simp [hexact, Exact.floor?] at h
    | nan => simp [hexact, Exact.floor?] at h
  · exact .double x

/-- An integer that doubles reach has few enough digits to be written. -/
lemma decimalText_of_le {n : Int} (h : n.natAbs ≤ Double.largest) :
    decimalText n = .ok (toString n) := by
  have hlt : n.natAbs < Nat.pow 10 DigitLimit.limit := Nat.lt_of_le_of_lt h Double.largest_lt_limit
  rw [decimalText, if_neg (Nat.not_le.2 hlt)]

/-- A number in range can be written in displays and messages. -/
lemma InRange.exists_text {a : Number} (h : a.InRange) : ∃ shown, a.text = .ok shown := by
  cases h with
  | int h => exact ⟨_, decimalText_of_le h⟩
  | double x => exact ⟨_, rfl⟩

/-- A number in range can be printed. It is no truth value, so it is printed as it is shown. -/
lemma InRange.exists_printed {a : Number} (h : a.InRange) : ∃ shown, a.printed = .ok shown := by
  have hprinted : a.printed = a.text := by
    cases h <;> rfl
  rw [hprinted]
  exact h.exists_text

end Number

/-! ## Literals -/

namespace Literal

variable {value : Number}

lemma inWordRange_iff {n : Int} :
    inWordRange n ↔ -0x8000000000000000 ≤ n ∧ n ≤ 0x7FFFFFFFFFFFFFFF := by
  simp only [inWordRange, Bool.and_eq_true, decide_eq_true_eq]
  omega

/-- A decimal integer is a word. -/
lemma isWord_of_readInteger {negative : Bool} {digits : List Char}
    (h : readInteger negative digits = .ok value) : value.IsWord := by
  unfold readInteger at h
  dsimp only at h
  split at h
  · cases h
    exact .double _
  · split at h
    · cases h
    · split at h
      · next hword =>
        cases h
        exact .int (inWordRange_iff.1 hword)
      · cases h
        exact .double _

/-- **A literal is a word.** -/
lemma isWord_of_read {text : String} (h : read text = .ok (some value)) : value.IsWord := by
  unfold read readChars at h
  generalize Decimal.splitSign (ungrouped text.toList) = signed at h
  obtain ⟨negative, body⟩ := signed
  dsimp only at h
  split at h
  · next digits _ =>
    have hhex : readHex? negative digits = some value := Except.ok.inj h
    unfold readHex? at hhex
    split at hhex
    · cases hhex
      exact Number.isWord_wrap _
    · cases hhex
  · split at h
    · cases hread : readInteger negative body with
      | ok n =>
        obtain rfl : n = value := by simpa [hread, Except.map] using h
        exact isWord_of_readInteger hread
      | error e => simp [hread, Except.map] at h
    · obtain ⟨d, -, rfl⟩ := Option.map_eq_some_iff.1 (Except.ok.inj h)
      exact .double _

end Literal

end RegisterMachine
