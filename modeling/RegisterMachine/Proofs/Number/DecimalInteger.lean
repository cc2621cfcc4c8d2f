import RegisterMachine.Proofs.Number.Grammar
import RegisterMachine.Proofs.Text.Positional

set_option autoImplicit false
set_option relaxedAutoImplicit false

/-!
# Decimal integers

Decimal digits denote an integer if it has 64 bits, and the double nearest to it otherwise. The
reader looks at the number of digits first, without the ASCII zeros in front, and at the integer
only if there are few enough of them. Behind ASCII digits this shortcut changes nothing, because more
digits than the largest integer of 64 bits has make a larger one.

## Main definitions

* `RegisterMachine.Literal.stripped` — digits without the ASCII zeros in front.
* `RegisterMachine.Literal.Sign.number` — the number that a magnitude behind a sign stands for.
* `RegisterMachine.Literal.readByRange` — the reader without its shortcut.
* `RegisterMachine.Decimal.readDouble?` — the double that decimal text denotes.

## Main results

* `RegisterMachine.Literal.readChars_of_isDigits`,
  `RegisterMachine.Literal.readInteger_of_isDigits` — what decimal digits are read as.
* `RegisterMachine.Literal.not_inWordRange_of_long` — the shortcut meets no integer of 64 bits.
* `RegisterMachine.Literal.decimal_integers_are_exact` — what ASCII digits denote.
-/

namespace RegisterMachine

open Text

/-- The double that decimal text with a sign, which may be left out, denotes. -/
def Decimal.readDouble? (cs : List Char) : Option Float :=
  let (negative, body) := splitSign cs
  (read? body).map (toDouble negative)

namespace Literal

variable {digits : List Char} {sign : Sign}

/-! ## Magnitudes behind a sign -/

/-- The double nearest to a magnitude behind a sign. -/
def Sign.double (sign : Sign) (magnitude : Nat) : Number :=
  .double (Decimal.toDouble sign.isMinus ⟨magnitude, 0⟩)

/-- The number that a magnitude behind a sign stands for: an integer of 64 bits, or a double. -/
def Sign.number (sign : Sign) (magnitude : Nat) : Number :=
  if inWordRange (sign.apply magnitude) then .int (sign.apply magnitude) else sign.double magnitude

lemma Sign.natAbs_apply (sign : Sign) (magnitude : Nat) :
    (sign.apply magnitude).natAbs = magnitude := by
  cases sign with
  | minus => exact (Int.natAbs_neg _).trans (Int.natAbs_natCast _)
  | absent | plus => exact Int.natAbs_natCast _

/-- A magnitude that is not zero is negative behind a minus. -/
lemma Sign.apply_neg_iff (sign : Sign) {magnitude : Nat} (h : 0 < magnitude) :
    sign.apply magnitude < 0 ↔ sign.isMinus := by
  cases sign with
  | minus =>
    simp only [isMinus, iff_true]
    exact Int.neg_neg_of_pos (Int.natCast_pos.2 h)
  | absent | plus =>
    simp only [isMinus, Bool.false_eq_true, iff_false]
    exact Int.not_lt.2 (Int.natCast_nonneg _)

/-- A magnitude beyond 64 bits is beyond them behind any sign. -/
lemma not_inWordRange_of_lt (sign : Sign) {magnitude : Nat} (h : 0x8000000000000000 < magnitude) :
    ¬ inWordRange (sign.apply magnitude) := by
  have habs := sign.natAbs_apply magnitude
  rw [inWordRange_iff]
  omega

/-- Beyond 64 bits, the double is the one nearest to the integer, or infinity beyond all doubles. -/
lemma toDouble_eq_of_not_inWordRange {magnitude : Nat}
    (h : ¬ inWordRange (sign.apply magnitude)) :
    Decimal.toDouble sign.isMinus ⟨magnitude, 0⟩ =
      (Double.ofInt? (sign.apply magnitude)).getD
        (Double.infinity (sign.apply magnitude < 0)) := by
  have hpos : 0 < magnitude := by
    refine Nat.pos_of_ne_zero fun hzero => h ?_
    subst hzero
    cases sign <;> decide
  have hneg : decide (sign.apply magnitude < 0) = sign.isMinus := by
    rw [Bool.eq_iff_iff, decide_eq_true_eq, sign.apply_neg_iff hpos]
  -- the exponent is zero, which is neither of the extreme ones
  have hlow : ¬ (0 : Int) < -(magnitude.log2 : Int) - 401 := by omega
  have hhigh : ¬ (400 : Int) < 0 := by decide
  rw [Double.ofInt?, hneg, sign.natAbs_apply, Decimal.toDouble, if_neg hpos.ne', if_neg hhigh,
    if_neg hlow]
  exact congrArg (fun m => (Double.nearest? sign.isMinus m 1).getD _) (Nat.mul_one magnitude)

/-! ## Digits -/

/-- Digits from the first that is no ASCII zero on. -/
def stripped (digits : List Char) : List Char :=
  digits.dropWhile (· = '0')

/-- The ASCII zeros in front of digits add nothing to them. -/
lemma decimalValue_stripped (digits : List Char) :
    decimalValue (stripped digits) = decimalValue digits := by
  have hzeros : ∀ c ∈ digits.takeWhile (· = '0'), digitValue? c = some 0 := by
    intro c hc
    obtain rfl : c = '0' := by simpa using List.mem_takeWhile_imp hc
    decide
  rw [stripped, ← decimalValue_zeros_append hzeros, List.takeWhile_append_dropWhile]

/-- What is left of ASCII digits starts with one that is no zero. -/
lemma pow_le_decimalValue_of_stripped (hascii : ∀ c ∈ digits, c.isDigit) {length : Nat}
    (h : length < (stripped digits).length) : 10 ^ length ≤ decimalValue digits := by
  obtain ⟨first, rest, hstripped⟩ := List.exists_cons_of_length_pos (Nat.zero_lt_of_lt h)
  have hfirst : first.isDigit := by
    refine hascii first ((List.dropWhile_suffix (· = '0')).subset ?_)
    rw [← stripped, hstripped]
    exact List.mem_cons_self
  have hne : first ≠ '0' := by
    have hhead := List.head?_dropWhile_not (· = '0') digits
    rw [← stripped, hstripped] at hhead
    simpa using hhead
  have hpos : 0 < first.toNat - '0'.toNat := by
    refine Nat.sub_pos_of_lt (Nat.lt_of_le_of_ne ?_ fun heq => hne (Char.toNat_inj.1 heq.symm))
    simp only [Char.isDigit, Bool.and_eq_true, decide_eq_true_eq] at hfirst
    exact hfirst.1
  rw [hstripped, List.length_cons] at h
  calc 10 ^ length
    _ ≤ 10 ^ rest.length := Nat.pow_le_pow_right (by decide) (Nat.le_of_lt_succ h)
    _ ≤ decimalValue (first :: rest) := pow_le_decimalValue (digitValue?_of_isDigit hfirst) hpos
    _ = decimalValue digits := by rw [← hstripped, decimalValue_stripped]

/-- **The shortcut meets no integer of 64 bits** behind ASCII digits. -/
lemma not_inWordRange_of_long (hascii : ∀ c ∈ digits, c.isDigit) (sign : Sign)
    (h : maxIntegerDigits < (stripped digits).length) :
    ¬ inWordRange (sign.apply (decimalValue digits)) := by
  have hpow : 10 ^ maxIntegerDigits ≤ decimalValue digits :=
    pow_le_decimalValue_of_stripped hascii h
  exact not_inWordRange_of_lt sign (Nat.lt_of_lt_of_le (by decide) hpow)

/-! ## Reading -/

/-- Behind a sign, decimal digits are read as an integer. -/
lemma readChars_of_isDigits {cs : List Char} (hdigits : IsDigits isDigit digits)
    (hwritten : ungrouped cs = sign.chars ++ digits) :
    readChars cs = (readInteger sign.isMinus digits).map some := by
  have hrun : isRun isDigit digits := (isRun_iff (hdigits.not_mem (by decide))).2 hdigits
  rw [readChars, hwritten, splitSign_chars_append sign hdigits.hasNoSign]
  dsimp only
  cases hmark : afterHexMark? digits with
  | some behind => simp [isRun_eq_false_of_afterHexMark? hmark] at hrun
  | none => exact if_pos hrun

/-- What decimal digits are read as. -/
lemma readInteger_of_isDigits (hdigits : IsDigits isDigit digits) (sign : Sign) :
    readInteger sign.isMinus digits =
      if maxIntegerDigits < (stripped digits).length then .ok (sign.double (decimalValue digits))
      else if DigitLimit.limit < digits.length then .error ⟨digits.length⟩
      else .ok (sign.number (decimalValue digits)) := by
  rw [readInteger, beforeFinalBreak_of_not_mem (hdigits.not_mem (by decide)), applySign_isMinus]
  rfl

section Text

variable {text : String} (hdigits : IsDigits isDigit digits)
  (hwritten : ungrouped text.toList = sign.chars ++ digits)

include hdigits hwritten

/-- Digits that are many without the ASCII zeros in front denote a double. -/
lemma read_of_long (hlong : maxIntegerDigits < (stripped digits).length) :
    read text = .ok (some (sign.double (decimalValue digits))) := by
  rw [read, readChars_of_isDigits hdigits hwritten, readInteger_of_isDigits hdigits, if_pos hlong]
  rfl

/-- Digits that are too many with these zeros only are refused. -/
lemma read_of_overlong (hshort : (stripped digits).length ≤ maxIntegerDigits)
    (hlimit : DigitLimit.limit < digits.length) : read text = .error ⟨digits.length⟩ := by
  rw [read, readChars_of_isDigits hdigits hwritten, readInteger_of_isDigits hdigits,
    if_neg (Nat.not_lt.2 hshort), if_pos hlimit]
  rfl

/-- All other digits denote an integer of 64 bits, or a double. -/
lemma read_of_short (hshort : (stripped digits).length ≤ maxIntegerDigits)
    (hlimit : digits.length ≤ DigitLimit.limit) :
    read text = .ok (some (sign.number (decimalValue digits))) := by
  rw [read, readChars_of_isDigits hdigits hwritten, readInteger_of_isDigits hdigits,
    if_neg (Nat.not_lt.2 hshort), if_neg (Nat.not_lt.2 hlimit)]
  rfl

end Text

/-- The number that decimal digits denote, unless there are too many: the reader without a look at
their number in front. -/
def readByRange (sign : Sign) (digits : List Char) : Except DigitLimit Number :=
  if DigitLimit.limit < digits.length then .error ⟨digits.length⟩
  else .ok (sign.number (decimalValue digits))

/-- ASCII digits are decimal digits. -/
lemma isDigits_of_ascii (hne : digits ≠ []) (hascii : ∀ c ∈ digits, c.isDigit) :
    IsDigits isDigit digits := by
  refine ⟨hne, fun c hc => ?_⟩
  rw [isDigit, digitValue?_of_isDigit (hascii c hc), Option.isSome_some]

/-- **The shortcut changes nothing** behind ASCII digits that are not too many. -/
lemma readInteger_eq_readByRange (hne : digits ≠ []) (hascii : ∀ c ∈ digits, c.isDigit)
    (hlength : digits.length ≤ DigitLimit.limit) (sign : Sign) :
    readInteger sign.isMinus digits = readByRange sign digits := by
  have hdigits := isDigits_of_ascii hne hascii
  have hlimit : ¬ DigitLimit.limit < digits.length := Nat.not_lt.2 hlength
  rw [readInteger_of_isDigits hdigits, readByRange, if_neg hlimit]
  split
  · next hlong => rw [Sign.number, if_neg (not_inWordRange_of_long hascii sign hlong)]
  · rfl

/-- ASCII digits that are not too many denote an integer of 64 bits, or a double. -/
lemma read_of_ascii {text : String} (hne : digits ≠ []) (hascii : ∀ c ∈ digits, c.isDigit)
    (hlength : digits.length ≤ DigitLimit.limit)
    (hwritten : ungrouped text.toList = sign.chars ++ digits) :
    read text = .ok (some (sign.number (decimalValue digits))) := by
  rw [read, readChars_of_isDigits (isDigits_of_ascii hne hascii) hwritten,
    readInteger_eq_readByRange hne hascii hlength, readByRange, if_neg (Nat.not_lt.2 hlength)]
  rfl

/-- Decimal digits behind a sign denote a double as well. -/
lemma readDouble?_of_isDigits (hdigits : IsDigits isDigit digits) (sign : Sign) :
    Decimal.readDouble? (sign.chars ++ digits) =
      some (Decimal.toDouble sign.isMinus ⟨decimalValue digits, 0⟩) := by
  have htake : digits.takeWhile isDigit = digits := List.takeWhile_eq_self_iff.2 hdigits.all
  have hdrop : digits.dropWhile isDigit = [] := List.dropWhile_eq_nil_iff.2 hdigits.all
  have hempty : Decimal.splitFraction [] = ([], []) := rfl
  have hexponent : Decimal.readExponent? [] = some 0 := rfl
  rw [Decimal.readDouble?, splitSign_chars_append sign hdigits.hasNoSign]
  simp [Decimal.read?, htake, hdrop, hempty, hexponent, hdigits.ne_nil]

/-- **Decimal integers are exact within 64 bits.** A text that is, without its underscores, a sign
that may be left out and ASCII digits, as many as are read at most, denotes the integer that the
digits denote behind the sign if it has 64 bits, and otherwise the double that the text denotes as a
decimal, which is the one nearest to the integer, or infinity beyond all doubles. The shortcut for
many digits meets no integer of 64 bits, and the reader without it gives the same.

**Proof sketch.** More digits than the shortcut admits, the first of which is no zero, denote at
least the power of ten with that many zeros (`pow_le_decimalValue_of_stripped`), which is beyond 64
bits behind any sign. So the test of the range decides alone (`readInteger_eq_readByRange`). -/
theorem decimal_integers_are_exact (text : String) (sign : Sign) {digits : List Char}
    (hne : digits ≠ []) (hascii : ∀ c ∈ digits, c.isDigit)
    (hlength : digits.length ≤ DigitLimit.limit)
    (hwritten : ungrouped text.toList = sign.chars ++ digits) :
    let n : Int := sign.apply (Nat.ofDigitChars 10 digits 0)
    let inRange : Prop := -0x8000000000000000 ≤ n ∧ n ≤ 0x7FFFFFFFFFFFFFFF
    (inRange → read text = .ok (some (.int n))) ∧
    (¬ inRange → ∃ x, read text = .ok (some (.double x)) ∧
      Decimal.readDouble? (sign.chars ++ digits) = some x ∧
      x = (Double.ofInt? n).getD (Double.infinity (n < 0))) ∧
    (maxIntegerDigits < (stripped digits).length → ¬ inRange) ∧
    readInteger sign.isMinus digits = readByRange sign digits := by
  intro n inRange
  have hdigits := isDigits_of_ascii hne hascii
  have hn : n = sign.apply (decimalValue digits) := by rw [decimalValue_eq_ofDigitChars hascii]
  have hrange : inRange ↔ inWordRange (sign.apply (decimalValue digits)) := by
    rw [inWordRange_iff, ← hn]
  have hshortcut := readInteger_eq_readByRange hne hascii hlength sign
  have hread := read_of_ascii hne hascii hlength hwritten
  refine ⟨fun h => ?_, fun h => ?_, fun hlong => ?_, hshortcut⟩
  · rw [hread, Sign.number, if_pos (hrange.1 h), hn]
  · have hout := mt hrange.2 h
    refine ⟨_, ?_, readDouble?_of_isDigits hdigits sign, ?_⟩
    · rw [hread, Sign.number, if_neg hout, Sign.double]
    · rw [hn, toDouble_eq_of_not_inWordRange hout]
  · exact mt hrange.1 (not_inWordRange_of_long hascii sign hlong)

/-- The least integer of 64 bits is read with zeros and underscores in front, and the one below it,
with the same number of digits, as a double. -/
theorem decimal_integers_are_exact_of_least :
    ungrouped "-00_9223372036854775808".toList =
        Sign.minus.chars ++ "009223372036854775808".toList ∧
      Nat.ofDigitChars 10 "009223372036854775808".toList 0 = 0x8000000000000000 ∧
      read "-00_9223372036854775808" = .ok (some (.int (-0x8000000000000000))) ∧
      read "-9223372036854775809" =
        .ok (some (.double (Double.ofMagnitude true 0x43E0000000000000))) := by
  have hwritten : ungrouped "-00_9223372036854775808".toList =
      Sign.minus.chars ++ "009223372036854775808".toList := by decide
  have hvalue : Nat.ofDigitChars 10 "009223372036854775808".toList 0 = 0x8000000000000000 := by
    decide
  have hbelow : ungrouped "-9223372036854775809".toList =
      Sign.minus.chars ++ "9223372036854775809".toList := by decide
  have hbelowValue : Nat.ofDigitChars 10 "9223372036854775809".toList 0 = 0x8000000000000001 := by
    decide
  obtain ⟨hint, -⟩ := decimal_integers_are_exact "-00_9223372036854775808" .minus (by decide)
    (List.all_eq_true.1 (by decide)) (by decide) hwritten
  obtain ⟨-, hdouble, -⟩ := decimal_integers_are_exact "-9223372036854775809" .minus (by decide)
    (List.all_eq_true.1 (by decide)) (by decide) hbelow
  rw [hvalue] at hint
  rw [hbelowValue] at hdouble
  refine ⟨hwritten, hvalue, hint (by decide), ?_⟩
  obtain ⟨x, hx, -, hnearest⟩ := hdouble (by decide)
  obtain rfl : x = Double.ofMagnitude true 0x43E0000000000000 := hnearest.trans (by decide +kernel)
  exact hx

end Literal

end RegisterMachine
