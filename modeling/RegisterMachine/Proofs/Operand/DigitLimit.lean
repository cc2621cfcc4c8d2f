import RegisterMachine.Proofs.Operand.Classification

set_option autoImplicit false
set_option relaxedAutoImplicit false

/-!
# Operands beyond the digit limit

The only texts that denote no operand are decimal integers with too many digits. A long integer
whose digits are not mostly zeros in front is read as a double instead, so almost all digits of such
a text are zeros.

## Main definitions

* `RegisterMachine.Literal.integerDigits` — the digits of a decimal integer.
* `RegisterMachine.Operand.innermost` — what stands within all brackets of a text.
* `RegisterMachine.Operand.IsOverlong` — texts that denote no operand.

## Main results

* `RegisterMachine.Literal.readChars_eq_error_iff` — the texts that cannot be read.
* `RegisterMachine.Operand.ofText_eq_error_iff` — the texts that denote no operand.
* `RegisterMachine.Operand.isOverlong_zeros` — rows of zeros are among them.
-/

namespace RegisterMachine

open Text

/-! ## Decimal integers -/

namespace Literal

variable {cs : List Char} {e : DigitLimit}

/-- What follows the sign of a text, without underscores. -/
def unsigned (cs : List Char) : List Char :=
  (Decimal.splitSign (ungrouped cs)).2

/-- The digits of a text that is a decimal integer; no characters if it is none. -/
def integerDigits (cs : List Char) : List Char :=
  if isRun isDigit (unsigned cs) then beforeFinalBreak (unsigned cs) else []

/-- The digits of an integer from the first that is no ASCII zero on. A line feed behind them
counts. -/
def significantDigits (cs : List Char) : List Char :=
  (unsigned cs).dropWhile (· = '0')

/-- Only a line feed is cut off at the end of a text. -/
lemma mem_beforeFinalBreak {c : Char} (h : c ∈ cs) (hc : c ≠ '\n') : c ∈ beforeFinalBreak cs := by
  unfold beforeFinalBreak
  split
  · next hlast =>
    obtain ⟨front, rfl⟩ := List.getLast?_eq_some_iff.1 hlast
    rw [List.dropLast_concat]
    rw [List.mem_append, List.mem_singleton] at h
    exact h.resolve_right hc
  · exact h

/-- Nothing is cut off a text without a line feed. -/
lemma beforeFinalBreak_of_not_mem (h : '\n' ∉ cs) : beforeFinalBreak cs = cs :=
  if_neg fun hlast => h (List.mem_of_getLast? hlast)

/-- The mark of a hexadecimal number is a zero and one of two letters. -/
lemma exists_mark {digits : List Char} (h : afterHexMark? cs = some digits) :
    ∃ mark, (mark = 'x' ∨ mark = 'X') ∧ cs = '0' :: mark :: digits := by
  unfold afterHexMark? at h
  split at h
  · obtain rfl := Option.some.inj h
    exact ⟨'x', .inl rfl, rfl⟩
  · obtain rfl := Option.some.inj h
    exact ⟨'X', .inr rfl, rfl⟩
  · cases h

/-- A text that starts like a hexadecimal number is no decimal integer. -/
lemma isRun_eq_false_of_afterHexMark? {digits : List Char} (h : afterHexMark? cs = some digits) :
    isRun isDigit cs = false := by
  obtain ⟨mark, hmark, rfl⟩ := exists_mark h
  have hletter : mark ≠ '\n' ∧ isDigit mark = false := by
    rcases hmark with rfl | rfl <;> decide
  have hall : (beforeFinalBreak ('0' :: mark :: digits)).all isDigit = false :=
    List.all_eq_false.2 ⟨mark, mem_beforeFinalBreak (by simp) hletter.1, by simp [hletter.2]⟩
  simp [isRun, hall]

/-- An integer with too many digits cannot be read, unless it has too many from the first on that is
no zero. -/
lemma readInteger_eq_error_iff {negative : Bool} {digits : List Char} :
    readInteger negative digits = .error e ↔
      DigitLimit.limit < (beforeFinalBreak digits).length ∧
        (digits.dropWhile (· = '0')).length ≤ maxIntegerDigits ∧
        e = ⟨(beforeFinalBreak digits).length⟩ := by
  simp only [readInteger]
  split
  · next hlong =>
    simp only [reduceCtorEq, false_iff]
    omega
  · next hshort =>
    split
    · next hlimit =>
      simp only [Except.error.injEq]
      exact ⟨fun h => ⟨hlimit, by omega, h.symm⟩, fun h => h.2.2.symm⟩
    · next hlimit =>
      simp only [reduceCtorEq, false_iff]
      exact fun h => hlimit h.1

/-- **A text cannot be read if it is a decimal integer with too many digits**, unless it has too
many from the first on that is no zero. -/
lemma readChars_eq_error_iff :
    readChars cs = .error e ↔
      DigitLimit.limit < (integerDigits cs).length ∧
        (significantDigits cs).length ≤ maxIntegerDigits ∧ e = ⟨(integerDigits cs).length⟩ := by
  have hsplit : Decimal.splitSign (ungrouped cs) =
      ((Decimal.splitSign (ungrouped cs)).1, unsigned cs) := rfl
  rw [readChars, hsplit]
  unfold integerDigits significantDigits
  cases hmark : afterHexMark? (unsigned cs) with
  | some digits => simp [hmark, isRun_eq_false_of_afterHexMark? hmark]
  | none =>
    cases hrun : isRun isDigit (unsigned cs) with
    | false => simp [hmark, hrun]
    | true =>
      simp only [hmark, hrun, if_true]
      rw [← readInteger_eq_error_iff]
      cases readInteger (Decimal.splitSign (ungrouped cs)).1 (unsigned cs) <;> simp [Except.map]

end Literal

/-! ## Operands -/

namespace Operand

variable {count : Nat} {text : String} {e : DigitLimit}

/-- What stands within all brackets of a text. -/
def innermost (cs : List Char) : List Char :=
  match _h : bracketed? cs with
  | some inner => innermost inner
  | none => cs
termination_by cs.length
decreasing_by exact length_bracketed?_lt _h

/-- What stands within all brackets of a text in brackets stands within those of the inner text. -/
lemma innermost_of_bracketed {cs inside : List Char} (h : bracketed? cs = some inside) :
    innermost cs = innermost inside := by
  rw [innermost]
  split <;> simp_all

/-- A text without brackets stands within all of them. -/
lemma innermost_of_not_bracketed {cs : List Char} (h : bracketed? cs = none) :
    innermost cs = cs := by
  rw [innermost]
  split <;> simp_all

/-- The text within all brackets names no register and is a decimal integer with too many digits,
not too many of which are left without the zeros in front. -/
structure IsOverlong (count : Nat) (text : String) : Prop where
  find?_eq_none : RegisterName.find? count (String.ofList (innermost text.toList)) = none
  limit_lt : DigitLimit.limit < (Literal.integerDigits (innermost text.toList)).length
  significant_le :
    (Literal.significantDigits (innermost text.toList)).length ≤ Literal.maxIntegerDigits

/-- Among any names, a text denotes no operand if the text within all brackets is no name and cannot
be read. -/
lemma ofCharsAmong_eq_error_iff {names : Finset String} {cs : List Char} :
    ofCharsAmong names cs = .error e ↔
      Text.lower (String.ofList (innermost cs)) ∉ names ∧
        Literal.readChars (innermost cs) = .error e := by
  induction cs using innermost.induct with
  | case1 cs inside hbracket ih =>
    rw [ofCharsAmong_of_bracketed hbracket, innermost_of_bracketed hbracket, ← ih]
    simp
  | case2 cs hbracket =>
    rw [ofCharsAmong_of_not_bracketed hbracket, innermost_of_not_bracketed hbracket,
      ofPlainTextAmong_eq_error_iff, Literal.read, String.toList_ofList]

/-- A text denotes no operand if the text within all brackets denotes none. -/
lemma ofChars_eq_error_iff {cs : List Char} :
    ofChars count cs = .error e ↔
      RegisterName.find? count (String.ofList (innermost cs)) = none ∧
        Literal.readChars (innermost cs) = .error e := by
  rw [← ofCharsAmong_names, ofCharsAmong_eq_error_iff, RegisterName.find?_eq_none_iff]

/-- **A text denotes no operand if it is overlong.** -/
lemma ofText_eq_error_iff :
    ofText count text = .error e ↔
      IsOverlong count text ∧
        e = ⟨(Literal.integerDigits (innermost text.toList)).length⟩ := by
  rw [ofText, ofChars_eq_error_iff, Literal.readChars_eq_error_iff]
  constructor
  · rintro ⟨hfind, hlimit, hsignificant, rfl⟩
    exact ⟨⟨hfind, hlimit, hsignificant⟩, rfl⟩
  · rintro ⟨⟨hfind, hlimit, hsignificant⟩, rfl⟩
    exact ⟨hfind, hlimit, hsignificant, rfl⟩

/-- **A text denotes an operand unless it is overlong.** -/
lemma exists_ofText_iff :
    (∃ operand, ofText count text = .ok operand) ↔ ¬ IsOverlong count text := by
  cases hread : ofText count text with
  | ok operand =>
    simp only [Except.ok.injEq, exists_eq', true_iff]
    intro hoverlong
    rw [ofText_eq_error_iff.2 ⟨hoverlong, rfl⟩] at hread
    cases hread
  | error e => simp [(ofText_eq_error_iff.1 hread).1]

/-! ## Zeros -/

/-- A row of zeros names no register. -/
lemma find?_zeros (n : Nat) :
    RegisterName.find? count (String.ofList (List.replicate n '0')) = none := by
  refine RegisterName.find?_eq_none_of_head? (fun c hc => ?_) fun c hc => ?_
  · rw [String.toList_ofList] at hc
    rw [List.eq_of_mem_replicate hc]
    constructor <;> decide +kernel
  · rw [String.toList_ofList] at hc
    rw [List.eq_of_mem_replicate (List.mem_of_mem_head? hc)]
    decide

/-- A row of zeros ends with no line feed. -/
lemma beforeFinalBreak_zeros (n : Nat) :
    Literal.beforeFinalBreak (List.replicate n '0') = List.replicate n '0' :=
  Literal.beforeFinalBreak_of_not_mem (by simp)

/-- A row of zeros has no brackets. -/
lemma innermost_zeros (n : Nat) : innermost (List.replicate n '0') = List.replicate n '0' := by
  refine innermost_of_not_bracketed ?_
  rw [bracketed?, beforeFinalBreak_zeros]
  cases n <;> rfl

/-- A row of zeros has no sign and no underscores. -/
lemma unsigned_zeros (n : Nat) :
    Literal.unsigned (List.replicate n '0') = List.replicate n '0' := by
  have hungrouped : Literal.ungrouped (List.replicate n '0') = List.replicate n '0' := by
    simp [Literal.ungrouped]
  rw [Literal.unsigned, hungrouped]
  cases n <;> rfl

/-- All zeros of a row are digits. -/
lemma integerDigits_zeros (n : Nat) :
    Literal.integerDigits (List.replicate n '0') = List.replicate n '0' := by
  have hdigit : isDigit '0' := by decide +kernel
  rw [Literal.integerDigits, unsigned_zeros, beforeFinalBreak_zeros]
  cases n <;> simp [Literal.isRun, beforeFinalBreak_zeros, hdigit]

/-- **A row of zeros beyond the limit is overlong**, although it denotes a small number. -/
lemma isOverlong_zeros {n : Nat} (h : DigitLimit.limit < n) :
    IsOverlong count (String.ofList (List.replicate n '0')) := by
  refine ⟨?_, ?_, ?_⟩ <;> rw [String.toList_ofList, innermost_zeros]
  · exact find?_zeros n
  · rw [integerDigits_zeros, List.length_replicate]
    exact h
  · rw [Literal.significantDigits, unsigned_zeros]
    simp

end Operand

end RegisterMachine
