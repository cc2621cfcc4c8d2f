import RegisterMachine.CommandLine.IntegerArgument
import RegisterMachine.Proofs.Number.DecimalInteger
import RegisterMachine.Proofs.Number.Hexadecimal
import RegisterMachine.Proofs.Text.Blank

set_option autoImplicit false
set_option relaxedAutoImplicit false

/-!
# Integer arguments and integer literals

Integers are read in two places: on a command line and in a program. Both readers leave underscores
out and know hexadecimal and decimal integers, but they are written apart. The one of command lines
keeps all hexadecimal digits, where the one of programs looks at the last sixteen, and it takes a
sign in front of decimal digits only.

## Main definitions

* `RegisterMachine.CommandLine.IsSignedHexadecimal` — hexadecimal numbers behind a sign.

## Main results

* `RegisterMachine.CommandLine.readHexDigits?_of_isDigits`,
  `RegisterMachine.CommandLine.readDecimal_of_isDigits` — what digits of an argument are read as.
* `RegisterMachine.CommandLine.readInteger_of_isSignedHexadecimal` — what command lines do not take.
* `RegisterMachine.CommandLine.arguments_agree_with_literals` — an integer of a program is the same
  integer on a command line.
-/

namespace RegisterMachine.CommandLine

open Text
open Literal (Sign IsDigits IsUnsigned IsWritten HasNoSign ungrouped unsigned afterHexMark?)

variable {digits : List Char} {sign : Sign} {text : String}

/-! ## Digits -/

/-- The values of hexadecimal digits are those that literals give them. -/
lemma mapM_argumentHexValue? (h : ∀ c ∈ digits, isHexDigit c) :
    digits.mapM argumentHexValue? = some (digits.map fun c => (hexValue? c).getD 0) := by
  induction digits with
  | nil => rfl
  | cons c digits ih =>
    obtain ⟨hc, hdigits⟩ := List.forall_mem_cons.1 h
    obtain ⟨value, hvalue⟩ := Option.isSome_iff_exists.1 hc
    have hargument : argumentHexValue? c = some value := by
      rw [argumentHexValue?, hvalue, Option.some_or]
    simp [hargument, ih hdigits, hvalue]

/-- Hexadecimal digits are read as what all of them denote. -/
lemma readHexDigits?_of_isDigits (h : IsDigits isHexDigit digits) :
    readHexDigits? digits = some (hexadecimalValue digits : Int) := by
  rw [readHexDigits?, if_neg (by simpa using h.ne_nil), mapM_argumentHexValue? h.all,
    Option.map_some, List.foldl_map]
  rfl

/-- Decimal digits behind a sign are read as what they denote, unless there are too many. -/
lemma readDecimal_of_isDigits (h : IsDigits isDigit digits) (sign : Sign) (text : String) :
    readDecimal text (sign.chars ++ digits) =
      if DigitLimit.limit < digits.length then .error (.digitLimit ⟨digits.length⟩)
      else .ok (sign.apply (decimalValue digits)) := by
  have hdigits : digits.takeWhile isDigit = digits := List.takeWhile_eq_self_iff.2 h.all
  have hnone : ¬ (digits.isEmpty || decide (digits.length < digits.length)) := by
    simpa using h.ne_nil
  rw [readDecimal, Literal.splitSign_chars_append sign h.hasNoSign]
  simp only [hdigits, if_neg hnone, Literal.applySign_isMinus]

/-- A text with the mark of hexadecimal numbers is refused as a decimal integer. -/
lemma readDecimal_of_mark {mark : Char} (hmark : mark = 'x' ∨ mark = 'X') (sign : Sign)
    (text : String) (rest : List Char) :
    readDecimal text (sign.chars ++ '0' :: mark :: rest) = .error (.invalid 10 text) := by
  have hsign : HasNoSign ('0' :: mark :: rest) := by constructor <;> simp
  have hzero : isDigit '0' = true := by decide
  have hletter : isDigit mark = false := by rcases hmark with rfl | rfl <;> decide
  have hdigits : ('0' :: mark :: rest).takeWhile isDigit = ['0'] := by
    rw [List.takeWhile_cons_of_pos hzero, List.takeWhile_cons_of_neg (by simp [hletter])]
  rw [readDecimal, Literal.splitSign_chars_append sign hsign]
  simp only [hdigits]
  rw [if_neg (by decide), if_pos (by simp)]

/-! ## Texts without blanks -/

/-- A hexadecimal number behind a sign that is not left out. -/
def IsSignedHexadecimal (cs : List Char) : Prop :=
  ∃ (sign : Sign) (body : List Char),
    sign ≠ .absent ∧ cs = sign.chars ++ body ∧ IsUnsigned .hexadecimal body

section NotBlank

variable (hblank : ∀ c ∈ text.toList, isBlank c = false)

include hblank

/-- In a text without blanks there are none around the number either. -/
lemma isNumberBlank_ungrouped : ∀ c ∈ ungrouped text.toList, isNumberBlank c = false := by
  intro c hc
  rw [isNumberBlank, hblank c (List.mem_of_mem_filter hc), Bool.false_and]

/-- Behind the mark of hexadecimal numbers, a text without blanks is read as the digits. -/
lemma readInteger_of_mark (hmark : afterHexMark? (ungrouped text.toList) = some digits)
    (hdigits : IsDigits isHexDigit digits) :
    readInteger text = .ok (hexadecimalValue digits : Int) := by
  obtain ⟨mark, -, hwritten⟩ := Literal.exists_mark hmark
  have hclean : ∀ c ∈ digits, isNumberBlank c = false := fun c hc =>
    isNumberBlank_ungrouped hblank c (by simp [hwritten, hc])
  rw [readInteger, trim_eq_self hblank]
  simp only [hmark, dropEndWhile_eq_self hclean, readHexDigits?_of_isDigits hdigits]

/-- Without that mark, a text without blanks is read as a decimal integer. -/
lemma readInteger_of_no_mark (hmark : afterHexMark? (ungrouped text.toList) = none) :
    readInteger text =
      readDecimal (String.ofList (ungrouped text.toList)) (ungrouped text.toList) := by
  have hclean := isNumberBlank_ungrouped hblank
  rw [readInteger, trim_eq_self hblank]
  simp only [hmark, dropWhile_eq_self hclean, dropEndWhile_eq_self hclean]

/-- **A sign in front of a hexadecimal number is not taken.** -/
lemma readInteger_of_isSignedHexadecimal (h : IsSignedHexadecimal (ungrouped text.toList)) :
    readInteger text = .error (.invalid 10 (String.ofList (ungrouped text.toList))) := by
  obtain ⟨sign, body, hsign, hwritten, hbody⟩ := h
  obtain ⟨digits, hmark, -⟩ := Literal.isUnsigned_hexadecimal_iff.1 hbody
  obtain ⟨mark, hletter, rfl⟩ := Literal.exists_mark hmark
  have hnone : afterHexMark? (ungrouped text.toList) = none := by
    rw [hwritten]
    cases sign with
    | absent => exact absurd rfl hsign
    | plus | minus => rfl
  rw [readInteger_of_no_mark hblank hnone, hwritten]
  exact readDecimal_of_mark hletter sign _ digits

/-- A decimal integer that a program may have is the same integer on a command line. -/
lemma readInteger_of_integer {v : Int} (hread : Literal.read text = .ok (some (.int v)))
    (hform : IsWritten .integer (ungrouped text.toList)) : readInteger text = .ok v := by
  obtain ⟨sign, digits, hwritten, hunsigned⟩ := hform
  have hdigits := Literal.isUnsigned_integer_iff.1 hunsigned
  have hnone : afterHexMark? (ungrouped text.toList) = none := by
    rw [hwritten]
    cases sign with
    | plus | minus => rfl
    | absent =>
      refine Option.eq_none_iff_forall_ne_some.2 fun behind hmark => ?_
      exact Literal.not_isUnsigned_decimal_of_afterHexMark? hmark hunsigned.decimal_of_integer
  rw [Literal.read, Literal.readChars_of_isDigits hdigits hwritten,
    Literal.readInteger_of_isDigits hdigits] at hread
  rw [readInteger_of_no_mark hblank hnone, hwritten, readDecimal_of_isDigits hdigits]
  -- an integer comes out of the last of the three ways to read digits only
  split at hread
  · cases hread
  · split at hread
    · cases hread
    · next hlimit =>
      rw [if_neg hlimit]
      unfold Literal.Sign.number at hread
      split at hread
      · cases hread
        rfl
      · cases hread

/-- A hexadecimal number of a program, without a sign, is an integer on a command line that wraps to
the same. -/
lemma exists_readInteger_of_hexadecimal {v : Int}
    (hread : Literal.read text = .ok (some (.int v)))
    (hform : IsUnsigned .hexadecimal (ungrouped text.toList)) :
    ∃ n, readInteger text = .ok n ∧ wrap n = v := by
  obtain ⟨digits, hmark, hdigits⟩ := Literal.isUnsigned_hexadecimal_iff.1 hform
  obtain ⟨mark, hletter, hwritten⟩ := Literal.exists_mark hmark
  have hvalue : wrap (wrap (hexadecimalValue (Literal.takeLast 16 digits))) = v := by
    have habsent : ungrouped text.toList = Sign.absent.chars ++ '0' :: mark :: digits := hwritten
    rw [Literal.read, Literal.readChars_of_mark hletter habsent,
      Literal.readHex?_of_isDigits hdigits, Literal.applySign_isMinus] at hread
    simpa [Sign.apply] using hread
  refine ⟨_, readInteger_of_mark hblank hmark hdigits, ?_⟩
  rw [← hvalue]
  exact (wrap_congr
    ((wrap_modEq _).trans (Literal.hexadecimalValue_takeLast_modEq digits))).symm

end NotBlank

/-- **An integer of a program is the same integer on a command line.** If a text without blanks is
an integer literal, it is an integer argument as well, unless it is a hexadecimal number behind a
sign, and the argument wraps to the literal. A decimal integer denotes the literal itself. A
hexadecimal number behind a sign is refused on a command line, with all of the text in the message.

**Proof sketch.** A literal that denotes an integer is hexadecimal or decimal
(`reads_of_readChars`). Behind the mark of hexadecimal numbers the argument is what all digits
denote, and the literal what the last sixteen do, which has the same residue. Decimal digits that
denote an integer of 64 bits are not too many, and have the same value for both readers. -/
theorem arguments_agree_with_literals (text : String) (v : Int)
    (hblank : ∀ c ∈ text.toList, isBlank c = false)
    (hread : Literal.read text = .ok (some (.int v))) :
    let written := ungrouped text.toList
    (¬ IsSignedHexadecimal written → ∃ n, readInteger text = .ok n ∧ wrap n = v) ∧
    (IsWritten .integer written → readInteger text = .ok v) ∧
    (IsSignedHexadecimal written →
      readInteger text = .error (.invalid 10 (String.ofList written))) := by
  intro written
  have hinteger : IsWritten .integer written → readInteger text = .ok v :=
    readInteger_of_integer hblank hread
  refine ⟨fun hsigned => ?_, hinteger, readInteger_of_isSignedHexadecimal hblank⟩
  have hbreak : '\n' ∉ text.toList := fun hmem => absurd (hblank _ hmem) (by decide)
  obtain ⟨sign, hsign, -⟩ := Literal.exists_sign written
  obtain hform | hform := (Literal.reads_of_readChars hbreak hread).form_of_int
  · have habsent : sign = .absent := by
      by_contra hne
      exact hsigned ⟨sign, _, hne, hsign, hform⟩
    have hunsigned : written = unsigned text.toList := by
      rw [hsign, habsent]
      rfl
    rw [← hunsigned] at hform
    exact exists_readInteger_of_hexadecimal hblank hread hform
  · refine ⟨v, hinteger ⟨sign, _, hsign, hform⟩, ?_⟩
    cases Literal.isWord_of_read hread with
    | int hrange => exact Number.wrap_of_range hrange

/-- A hexadecimal number of more digits than a word has is kept on a command line, and wraps to what
a program reads. Decimal digits may be of any script. A sign in front of a hexadecimal number is
read in a program only. -/
theorem arguments_agree_with_literals_of_long_hexadecimal :
    (∃ n, readInteger "0X1_8000_0000_0000_0001" = .ok n ∧ wrap n = -0x7FFFFFFFFFFFFFFF) ∧
      readInteger "-٠_42" = .ok (-42) ∧
      readInteger "-0x_1" = .error (.invalid 10 "-0x1") ∧
      Literal.read "-0x_1" = .ok (some (.int (-1))) := by
  have hlong : ungrouped "0X1_8000_0000_0000_0001".toList = "0X18000000000000001".toList := by
    decide
  have hdecimal : ungrouped "-٠_42".toList = Sign.minus.chars ++ ['٠', '4', '2'] := by decide
  have hsigned : ungrouped "-0x_1".toList = Sign.minus.chars ++ ['0', 'x', '1'] := by decide
  have hread : Literal.read "-0x_1" = .ok (some (.int (-1))) := by decide +kernel
  obtain ⟨hagree, -, -⟩ := arguments_agree_with_literals "0X1_8000_0000_0000_0001"
    (-0x7FFFFFFFFFFFFFFF) (List.forall_iff_forall_mem.1 (by decide)) (by decide +kernel)
  obtain ⟨-, hexact, -⟩ := arguments_agree_with_literals "-٠_42" (-42)
    (List.forall_iff_forall_mem.1 (by decide)) (by decide +kernel)
  obtain ⟨-, -, hrefused⟩ := arguments_agree_with_literals "-0x_1" (-1)
    (List.forall_iff_forall_mem.1 (by decide)) hread
  refine ⟨hagree ?_, hexact ⟨.minus, _, hdecimal, .integer (by decide)⟩,
    hrefused ⟨.minus, _, by decide, hsigned, .hexadecimal (.inl rfl) (by decide)⟩, hread⟩
  rintro ⟨sign, body, hsign, hwritten, -⟩
  rw [hlong] at hwritten
  cases sign with
  | absent => exact hsign rfl
  | plus | minus => cases hwritten

end RegisterMachine.CommandLine
