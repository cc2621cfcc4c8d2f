import RegisterMachine.Proofs.Number.Grammar
import RegisterMachine.Proofs.Text.Positional
import Mathlib.Data.Int.ModEq

set_option autoImplicit false
set_option relaxedAutoImplicit false

/-!
# Hexadecimal literals

A hexadecimal literal denotes an integer of 64 bits, however many digits it has: the one that is
congruent, modulo the number of words, to what all of its digits denote behind its sign. The reader
looks at the last sixteen digits only, because those in front of them are multiples of the number of
words.

## Main results

* `RegisterMachine.wrap_modEq` — wrapping does not change the residue.
* `RegisterMachine.Literal.hexadecimalValue_takeLast_modEq` — the last sixteen digits decide.
* `RegisterMachine.Literal.hexadecimals_wrap_exactly` — what a hexadecimal literal denotes.
-/

namespace RegisterMachine

/-- Wrapping does not change the residue. -/
lemma wrap_modEq (n : Int) : wrap n ≡ n [ZMOD wordCount] :=
  Int.bmod_emod

/-- Integers of one residue are wrapped to the same. -/
lemma wrap_congr {m n : Int} (h : m ≡ n [ZMOD wordCount]) : wrap m = wrap n := by
  calc wrap m
    _ = Int.bmod (m % wordCount) wordCount := (Int.emod_bmod m wordCount).symm
    _ = Int.bmod (n % wordCount) wordCount := by rw [h]
    _ = wrap n := Int.emod_bmod n wordCount

namespace Literal

open Text

variable {digits : List Char}

/-- An integer behind a sign has a residue by that of the integer. -/
lemma Sign.apply_modEq (sign : Sign) {m n modulus : Int} (h : m ≡ n [ZMOD modulus]) :
    sign.apply m ≡ sign.apply n [ZMOD modulus] := by
  cases sign with
  | minus => exact h.neg
  | absent | plus => exact h

/-- **The last sixteen digits decide.** Those in front of them, if there are any, denote a multiple
of the number of words. -/
lemma hexadecimalValue_takeLast_modEq (digits : List Char) :
    (hexadecimalValue (takeLast 16 digits) : Int) ≡ hexadecimalValue digits [ZMOD wordCount] := by
  obtain ⟨front, hfront⟩ : ∃ front, front = digits.take (digits.length - 16) := ⟨_, rfl⟩
  have hsplit : digits = front ++ takeLast 16 digits := by
    rw [hfront, takeLast, List.take_append_drop]
  have hmultiple : wordCount ∣ 16 ^ (takeLast 16 digits).length * hexadecimalValue front := by
    by_cases hlong : 16 ≤ digits.length
    · have hlength : (takeLast 16 digits).length = 16 := by
        rw [takeLast, List.length_drop]
        omega
      rw [hlength]
      exact Dvd.intro _ rfl
    · have hnil : front = [] := by
        rw [hfront, Nat.sub_eq_zero_of_le (by omega), List.take_zero]
      rw [hnil, hexadecimalValue_nil, Nat.mul_zero]
      exact Nat.dvd_zero _
  refine Int.natCast_modEq_iff.2 (Nat.ModEq.symm ?_)
  calc hexadecimalValue digits
    _ = 16 ^ (takeLast 16 digits).length * hexadecimalValue front +
          hexadecimalValue (takeLast 16 digits) := by rw [← hexadecimalValue_append, ← hsplit]
    _ ≡ 0 + hexadecimalValue (takeLast 16 digits) [MOD wordCount] :=
      (Nat.modEq_zero_iff_dvd.2 hmultiple).add_right _
    _ = hexadecimalValue (takeLast 16 digits) := Nat.zero_add _

/-- What hexadecimal digits behind a sign are read as. -/
lemma readHex?_of_isDigits (h : IsDigits isHexDigit digits) (negative : Bool) :
    readHex? negative digits =
      some (.int (wrap (applySign negative (wrap (hexadecimalValue (takeLast 16 digits)))))) := by
  have hbreak : '\n' ∉ digits := h.not_mem (by decide)
  have hlast : '\n' ∉ takeLast 16 digits := fun hmem => hbreak (List.mem_of_mem_drop hmem)
  rw [readHex?, if_pos ((isRun_iff hbreak).2 h), beforeFinalBreak_of_not_mem hlast]

/-- Behind a sign and the mark of hexadecimal numbers, digits are read as such. -/
lemma readChars_of_mark {cs : List Char} {sign : Sign} {mark : Char}
    (hmark : mark = 'x' ∨ mark = 'X')
    (hwritten : ungrouped cs = sign.chars ++ '0' :: mark :: digits) :
    readChars cs = .ok (readHex? sign.isMinus digits) := by
  have hsign : HasNoSign ('0' :: mark :: digits) := by constructor <;> simp
  rw [readChars, hwritten, splitSign_chars_append sign hsign]
  rcases hmark with rfl | rfl <;> rfl

/-- **Hexadecimal literals wrap exactly.** A text that is, without its underscores, a sign that may
be left out, the mark of hexadecimal numbers and one hexadecimal digit or more denotes the integer
of 64 bits that is congruent, modulo the number of words, to what all of its digits denote behind
the sign. There is no limit to the number of digits.

**Proof sketch.** The last sixteen digits have the residue of all digits
(`hexadecimalValue_takeLast_modEq`), wrapping and the sign keep it, and what is wrapped in the end
is an integer of 64 bits. -/
theorem hexadecimals_wrap_exactly (text : String) (sign : Sign) {mark : Char} {digits : List Char}
    (hmark : mark = 'x' ∨ mark = 'X') (hdigits : IsDigits isHexDigit digits)
    (hwritten : ungrouped text.toList = sign.chars ++ '0' :: mark :: digits) :
    ∃ n : Int, read text = .ok (some (.int n)) ∧
      -0x8000000000000000 ≤ n ∧ n ≤ 0x7FFFFFFFFFFFFFFF ∧
      n ≡ sign.apply (Nat.ofDigits 16 (placeValues hexValue? digits) : Nat)
        [ZMOD 0x10000000000000000] := by
  let low : Int := wrap (hexadecimalValue (takeLast 16 digits))
  have hread : read text = .ok (some (.int (wrap (sign.apply low)))) := by
    rw [read, readChars_of_mark hmark hwritten, readHex?_of_isDigits hdigits, applySign_isMinus]
  have hlow : low ≡ hexadecimalValue digits [ZMOD wordCount] :=
    (wrap_modEq _).trans (hexadecimalValue_takeLast_modEq digits)
  cases Number.isWord_wrap (sign.apply low) with
  | int hrange =>
    refine ⟨_, hread, hrange.1, hrange.2, ?_⟩
    rw [← hexadecimalValue_eq_ofDigits]
    exact (wrap_modEq _).trans (sign.apply_modEq hlow)

/-- One digit more than a word has, all but the last from the bits that are dropped or from the sign
bit: the negated integer is below the least of 64 bits, and comes out as the largest. -/
theorem hexadecimals_wrap_exactly_of_largest :
    ungrouped "-0X1_8000_0000_0000_0001".toList =
        Sign.minus.chars ++ '0' :: 'X' :: "18000000000000001".toList ∧
      Nat.ofDigits 16 (placeValues hexValue? "18000000000000001".toList) = 0x18000000000000001 ∧
      read "-0X1_8000_0000_0000_0001" = .ok (some (.int 0x7FFFFFFFFFFFFFFF)) := by
  have hwritten : ungrouped "-0X1_8000_0000_0000_0001".toList =
      Sign.minus.chars ++ '0' :: 'X' :: "18000000000000001".toList := by decide
  have hdigits : IsDigits isHexDigit "18000000000000001".toList := by decide
  have hvalue : Nat.ofDigits 16 (placeValues hexValue? "18000000000000001".toList) =
      0x18000000000000001 := by decide
  obtain ⟨n, hread, hlower, hupper, hmod⟩ :=
    hexadecimals_wrap_exactly "-0X1_8000_0000_0000_0001" .minus (.inr rfl) hdigits hwritten
  refine ⟨hwritten, hvalue, ?_⟩
  rw [hvalue] at hmod
  obtain rfl : n = 0x7FFFFFFFFFFFFFFF := by
    change n % 0x10000000000000000 = -0x18000000000000001 % 0x10000000000000000 at hmod
    omega
  exact hread

end Literal

end RegisterMachine
