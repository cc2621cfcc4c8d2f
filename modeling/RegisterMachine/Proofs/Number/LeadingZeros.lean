import RegisterMachine.Proofs.Number.DecimalInteger

set_option autoImplicit false
set_option relaxedAutoImplicit false

/-!
# Zeros in front of decimal digits

Zeros in front of decimal digits do not change the number that the digits denote. The reader agrees
with two exceptions, both of them for digits whose number it counts. The zeros of other scripts
count as if they were significant, so that enough of them turn an integer into a double. And zeros
of any kind count against the number of digits that are read at most.

## Main definitions

* `RegisterMachine.Literal.ZerosMatter` — zeros for which digits are not read as the same number.

## Main results

* `RegisterMachine.Literal.zeros_matter_if_counted` — when zeros in front change what is read.
* `RegisterMachine.Literal.foreign_zeros_make_double` — an integer that they turn into a double.
-/

namespace RegisterMachine.Literal

open Text

variable {zeros digits : List Char} {sign : Sign}

/-- Zeros for which the digits behind them are not read as the number that they are read as
alone. -/
inductive ZerosMatter (sign : Sign) (zeros digits : List Char) : Prop
  /-- The digits alone are too many, although few of them are significant. -/
  | unreadable (hshort : (stripped digits).length ≤ maxIntegerDigits)
      (hlimit : DigitLimit.limit < digits.length)
  /-- With the zeros the digits are too many, although few of them are significant. -/
  | overlong (hshort : (stripped (zeros ++ digits)).length ≤ maxIntegerDigits)
      (hlimit : DigitLimit.limit < (zeros ++ digits).length)
  /-- With the zeros, not all of which are stripped, an integer of 64 bits has too many significant
  digits for one. -/
  | foreign (hshort : (stripped digits).length ≤ maxIntegerDigits)
      (hlong : maxIntegerDigits < (stripped (zeros ++ digits)).length)
      (hrange : inWordRange (sign.apply (decimalValue digits)))

/-- Zeros of the ASCII script are stripped. -/
lemma stripped_append (h : ∀ c ∈ zeros, c = '0') (digits : List Char) :
    stripped (zeros ++ digits) = stripped digits :=
  List.dropWhile_append_of_pos (by simpa using h)

/-- No digit is stripped that would not be stripped without zeros in front. -/
lemma length_stripped_le (zeros digits : List Char) :
    (stripped digits).length ≤ (stripped (zeros ++ digits)).length := by
  unfold stripped
  rw [List.dropWhile_append]
  split
  · exact Nat.le_refl _
  · rw [List.length_append]
    exact Nat.le_add_left_of_le (List.length_dropWhile_le _ _)

/-- Digits with zeros in front are digits. -/
lemma IsDigits.zeros_append (h : IsDigits isDigit digits)
    (hzeros : ∀ c ∈ zeros, digitValue? c = some 0) : IsDigits isDigit (zeros ++ digits) := by
  refine ⟨by simp [h.ne_nil], fun c hc => ?_⟩
  rcases List.mem_append.1 hc with hzero | hdigit
  · rw [isDigit, hzeros c hzero, Option.isSome_some]
  · exact h.all c hdigit

/-- ASCII zeros do not matter up to the number of digits that are read. -/
lemma not_zerosMatter_of_ascii (h : ∀ c ∈ zeros, c = '0')
    (hlength : (zeros ++ digits).length ≤ DigitLimit.limit) : ¬ ZerosMatter sign zeros digits := by
  rintro (⟨-, hlimit⟩ | ⟨-, hlimit⟩ | ⟨hshort, hlong, -⟩)
  · rw [List.length_append] at hlength
    omega
  · omega
  · rw [stripped_append h] at hlong
    omega

section Texts

variable {text padded : String} (hdigits : IsDigits isDigit digits)
  (hzeros : ∀ c ∈ zeros, digitValue? c = some 0)
  (htext : ungrouped text.toList = sign.chars ++ digits)
  (hpadded : ungrouped padded.toList = sign.chars ++ (zeros ++ digits))

include hdigits hzeros hpadded

/-- What digits with zeros in front are read as: their magnitude is that of the digits, and their
numbers count. -/
lemma read_padded :
    read padded =
      if maxIntegerDigits < (stripped (zeros ++ digits)).length then
        .ok (some (sign.double (decimalValue digits)))
      else if DigitLimit.limit < (zeros ++ digits).length then .error ⟨(zeros ++ digits).length⟩
      else .ok (some (sign.number (decimalValue digits))) := by
  have hall := hdigits.zeros_append hzeros
  rw [← decimalValue_zeros_append hzeros digits]
  split
  · next hlong => exact read_of_long hall hpadded hlong
  · next hshort =>
    split
    · next hlimit => exact read_of_overlong hall hpadded (Nat.not_lt.1 hshort) hlimit
    · next hlimit => exact read_of_short hall hpadded (Nat.not_lt.1 hshort) (Nat.not_lt.1 hlimit)

include htext

/-- Zeros do not matter if both texts denote the same number. -/
lemma not_zerosMatter_of_read {value : Number} (hread : read text = .ok (some value))
    (hsame : read padded = .ok (some value)) : ¬ ZerosMatter sign zeros digits := by
  rw [read_padded hdigits hzeros hpadded] at hsame
  rintro (⟨hshort, hlimit⟩ | ⟨hshort, hlimit⟩ | ⟨hshort, hlong, hrange⟩)
  · cases hread.symm.trans (read_of_overlong hdigits htext hshort hlimit)
  · rw [if_neg (Nat.not_lt.2 hshort), if_pos hlimit] at hsame
    cases hsame
  · rcases Nat.lt_or_ge DigitLimit.limit digits.length with hlimit | hlimit
    · cases hread.symm.trans (read_of_overlong hdigits htext hshort hlimit)
    · -- the digits alone denote an integer, and with the zeros a double
      rw [read_of_short hdigits htext hshort hlimit, Sign.number, if_pos hrange] at hread
      rw [if_pos hlong] at hsame
      cases hread.trans hsame.symm

/-- If zeros do not matter, both texts denote the same number. -/
lemma exists_read_of_not_zerosMatter (h : ¬ ZerosMatter sign zeros digits) :
    ∃ value, read text = .ok (some value) ∧ read padded = .ok (some value) := by
  have hle := length_stripped_le zeros digits
  rw [read_padded hdigits hzeros hpadded]
  rcases Nat.lt_or_ge maxIntegerDigits (stripped digits).length with hlong | hshort
  · exact ⟨_, read_of_long hdigits htext hlong, if_pos (Nat.lt_of_lt_of_le hlong hle)⟩
  · have hreadable : digits.length ≤ DigitLimit.limit :=
      Nat.not_lt.1 fun hlimit => h (.unreadable hshort hlimit)
    refine ⟨_, read_of_short hdigits htext hshort hreadable, ?_⟩
    split
    · next hlong => rw [Sign.number, if_neg fun hrange => h (.foreign hshort hlong hrange)]
    · next hshort => exact if_neg fun hlimit => h (.overlong (Nat.not_lt.1 hshort) hlimit)

end Texts

/-- **Zeros in front of decimal digits matter only where they are counted.** Two texts that are,
without their underscores, the same sign and decimal digits, one of them with zeros in front of the
digits, denote the same number, unless the digits without ASCII zeros are few enough for an integer
of 64 bits and one of the texts has more digits than are read, or the digits denote such an integer
and are too many for one with the zeros, from the first zero of another script on. In particular,
ASCII zeros do not matter up to the number of digits that are read.

**Proof sketch.** Zeros add nothing to what digits denote, so that both texts are read as the same
magnitude. What it is read as depends on the number of significant digits and of all digits, and
stays the same if both numbers stay within their limits, or if it is a double in any case. -/
theorem zeros_matter_if_counted (text padded : String) (sign : Sign) {zeros digits : List Char}
    (hdigits : IsDigits isDigit digits) (hzeros : ∀ c ∈ zeros, digitValue? c = some 0)
    (htext : ungrouped text.toList = sign.chars ++ digits)
    (hpadded : ungrouped padded.toList = sign.chars ++ (zeros ++ digits)) :
    (read padded =
      if maxIntegerDigits < (stripped (zeros ++ digits)).length then
        .ok (some (sign.double (decimalValue digits)))
      else if DigitLimit.limit < (zeros ++ digits).length then .error ⟨(zeros ++ digits).length⟩
      else .ok (some (sign.number (decimalValue digits)))) ∧
    ((∃ value, read text = .ok (some value) ∧ read padded = .ok (some value)) ↔
      ¬ ZerosMatter sign zeros digits) ∧
    ((∀ c ∈ zeros, c = '0') → (zeros ++ digits).length ≤ DigitLimit.limit →
      ¬ ZerosMatter sign zeros digits) := by
  refine ⟨read_padded hdigits hzeros hpadded, ⟨?_, ?_⟩, not_zerosMatter_of_ascii⟩
  · rintro ⟨value, hread, hsame⟩
    exact not_zerosMatter_of_read hdigits hzeros htext hpadded hread hsame
  · exact exists_read_of_not_zerosMatter hdigits hzeros htext hpadded

/-- A zero of another script among few digits does not matter. -/
theorem zeros_matter_if_counted_of_few :
    ungrouped "-0_٠7".toList = Sign.minus.chars ++ (['0', '٠'] ++ ['7']) ∧
      digitValue? '٠' = some 0 ∧ read "-7" = .ok (some (.int (-7))) ∧
      read "-0_٠7" = .ok (some (.int (-7))) := by
  have htext : ungrouped "-7".toList = Sign.minus.chars ++ ['7'] := by decide
  have hpadded : ungrouped "-0_٠7".toList = Sign.minus.chars ++ (['0', '٠'] ++ ['7']) := by decide
  have hzero : digitValue? '٠' = some 0 := by decide
  have hdigits : IsDigits isDigit ['7'] := by decide
  have hzeros : ∀ c ∈ ['0', '٠'], digitValue? c = some 0 := by
    rw [List.forall_mem_cons, List.forall_mem_singleton]
    exact ⟨by decide, hzero⟩
  obtain ⟨-, hsame, -⟩ := zeros_matter_if_counted "-7" "-0_٠7" .minus hdigits hzeros htext hpadded
  have hnot : ¬ ZerosMatter .minus ['0', '٠'] ['7'] := by
    rintro (⟨-, hlimit⟩ | ⟨-, hlimit⟩ | ⟨-, hlong, -⟩)
    · exact absurd hlimit (by decide)
    · exact absurd hlimit (by decide)
    · exact absurd hlong (by decide)
  have hread : read "-7" = .ok (some (.int (-7))) := by decide +kernel
  obtain ⟨value, hvalue, hvaluePadded⟩ := hsame.2 hnot
  rw [hread] at hvalue
  cases hvalue
  exact ⟨hpadded, hzero, hread, hvaluePadded⟩

/-- **Zeros of another script turn an integer into a double**, and too many zeros of any kind make
it unreadable, although they are worth nothing. -/
theorem foreign_zeros_make_double :
    let foreign := List.replicate 19 '٠'
    let many := List.replicate 4300 '0'
    (∀ c ∈ foreign ++ many, digitValue? c = some 0) ∧
      read (String.ofList ['5']) = .ok (some (.int 5)) ∧
      read (String.ofList (foreign ++ ['5'])) =
        .ok (some (.double (Double.ofMagnitude false 0x4014000000000000))) ∧
      read (String.ofList (many ++ ['5'])) = .error ⟨4301⟩ ∧
      read (String.ofList (foreign ++ ['5'])) ≠ read (String.ofList ['5']) := by
  intro foreign many
  have hreplicate {n : Nat} {zero : Char} (h : digitValue? zero = some 0) :
      ∀ c ∈ List.replicate n zero, digitValue? c = some 0 := by
    intro c hc
    rw [List.eq_of_mem_replicate hc, h]
  have hforeign : ∀ c ∈ foreign, digitValue? c = some 0 := hreplicate (by decide)
  have hmany : ∀ c ∈ many, digitValue? c = some 0 := hreplicate (by decide)
  have hfive : read (String.ofList ['5']) = .ok (some (.int 5)) := by decide +kernel
  have hdouble : read (String.ofList (foreign ++ ['5'])) =
      .ok (some (.double (Double.ofMagnitude false 0x4014000000000000))) := by decide +kernel
  have hdigits : IsDigits isDigit (many ++ ['5']) := by
    have hlast : IsDigits isDigit ['5'] := by decide
    exact hlast.zeros_append hmany
  have hwritten : ungrouped (String.ofList (many ++ ['5'])).toList =
      Sign.absent.chars ++ (many ++ ['5']) := by
    rw [String.toList_ofList]
    exact List.filter_eq_self.2 fun c hc => by
      rcases List.mem_append.1 hc with hmem | hmem
      · simp [List.eq_of_mem_replicate hmem]
      · simp [List.mem_singleton.1 hmem]
  have hlength : (many ++ ['5']).length = 4301 := by
    rw [List.length_append, List.length_replicate]
    rfl
  have hstripped : stripped (many ++ ['5']) = ['5'] :=
    stripped_append (fun c hc => List.eq_of_mem_replicate hc) ['5']
  have hoverlong := read_of_overlong hdigits hwritten (by rw [hstripped]; decide)
    (by rw [hlength]; decide)
  refine ⟨?_, hfive, hdouble, by rw [hoverlong, hlength], ?_⟩
  · rw [List.forall_mem_append]
    exact ⟨hforeign, hmany⟩
  · rw [hfive, hdouble]
    simp

end RegisterMachine.Literal
