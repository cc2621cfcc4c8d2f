import RegisterMachine.Proofs.Number.Range
import RegisterMachine.Proofs.Operand.DigitLimit
import Mathlib.Data.List.TakeWhile

set_option autoImplicit false
set_option relaxedAutoImplicit false

/-!
# The grammar of numeric literals

A numeric literal is a sign, which may be left out, and one of three forms behind it: hexadecimal
digits after their mark, decimal digits, or decimal digits with a point or an exponent. The grammar
says how texts of these forms are put together, and the reader accepts exactly these texts.

## Main definitions

* `RegisterMachine.Literal.Sign` — a sign, which may be left out.
* `RegisterMachine.Literal.IsDigits` — one digit or more.
* `RegisterMachine.Literal.IsMantissa`, `RegisterMachine.Literal.IsExponent` — the parts of a
  decimal floating-point number.
* `RegisterMachine.Literal.IsWritten` — the texts of each form.

## Main results

* `RegisterMachine.Literal.isWritten_iff` — what stands behind the sign decides.
* `RegisterMachine.Literal.exists_read?_iff` — decimals are read if they are of the decimal form.
* `RegisterMachine.Literal.literals_are_signed_forms` — a text is a literal if it is of one of the
  forms.
-/

namespace RegisterMachine.Literal

open Text

/-! ## Parts of a literal -/

/-- A sign, which may be left out. -/
inductive Sign
  | absent
  | plus
  | minus
  deriving DecidableEq, Repr

namespace Sign

/-- How a sign is written. -/
def chars : Sign → List Char
  | absent => []
  | plus => ['+']
  | minus => ['-']

/-- Whether a sign makes numbers negative. -/
def isMinus : Sign → Bool
  | minus => true
  | _ => false

/-- An integer behind a sign. -/
def apply : Sign → Int → Int
  | minus, n => -n
  | _, n => n

end Sign

/-- One digit or more, of some class of digits. -/
structure IsDigits (p : Char → Bool) (cs : List Char) : Prop where
  ne_nil : cs ≠ []
  all : ∀ c ∈ cs, p c

instance (p : Char → Bool) (cs : List Char) : Decidable (IsDigits p cs) :=
  decidable_of_iff (cs ≠ [] ∧ cs.all p)
    ⟨fun ⟨hne, hall⟩ => ⟨hne, List.all_eq_true.1 hall⟩,
      fun ⟨hne, hall⟩ => ⟨hne, List.all_eq_true.2 hall⟩⟩

/-- Decimal digits, with a point behind them, between them or in front of them, or without one. -/
inductive IsMantissa : List Char → Prop
  | whole {digits : List Char} (hdigits : IsDigits isDigit digits) : IsMantissa digits
  | pointed {digits fraction : List Char} (hdigits : IsDigits isDigit digits)
      (hfraction : ∀ c ∈ fraction, isDigit c) : IsMantissa (digits ++ '.' :: fraction)
  | fraction {fraction : List Char} (hfraction : IsDigits isDigit fraction) :
      IsMantissa ('.' :: fraction)

/-- Nothing, or the letter of an exponent, a sign and decimal digits. -/
inductive IsExponent : List Char → Prop
  | absent : IsExponent []
  | present {letter : Char} {digits : List Char} (sign : Sign)
      (hletter : letter = 'e' ∨ letter = 'E') (hdigits : IsDigits isDigit digits) :
      IsExponent (letter :: (sign.chars ++ digits))

/-- The forms of literals. -/
inductive Form
  | hexadecimal
  | integer
  | decimal
  deriving DecidableEq, Repr

/-- The texts of each form, without a sign. An integer is a decimal as well. -/
inductive IsUnsigned : Form → List Char → Prop
  | hexadecimal {mark : Char} {digits : List Char} (hmark : mark = 'x' ∨ mark = 'X')
      (hdigits : IsDigits isHexDigit digits) : IsUnsigned .hexadecimal ('0' :: mark :: digits)
  | integer {digits : List Char} (hdigits : IsDigits isDigit digits) : IsUnsigned .integer digits
  | decimal {mantissa exponent : List Char} (hmantissa : IsMantissa mantissa)
      (hexponent : IsExponent exponent) : IsUnsigned .decimal (mantissa ++ exponent)

/-- The texts of each form, with a sign that may be left out. -/
def IsWritten (form : Form) (cs : List Char) : Prop :=
  ∃ (sign : Sign) (body : List Char), cs = sign.chars ++ body ∧ IsUnsigned form body

variable {cs body digits : List Char} {form : Form} {p : Char → Bool}

/-! ## Signs -/

/-- A text starts with no sign. -/
def HasNoSign (cs : List Char) : Prop :=
  cs.head? ≠ some '+' ∧ cs.head? ≠ some '-'

/-- A sign is split off what follows it, if no other sign does. -/
lemma splitSign_chars_append (sign : Sign) (h : HasNoSign body) :
    Decimal.splitSign (sign.chars ++ body) = (sign.isMinus, body) := by
  cases sign with
  | plus | minus => rfl
  | absent =>
    change Decimal.splitSign body = (false, body)
    unfold Decimal.splitSign
    split
    · simp [HasNoSign] at h
    · simp [HasNoSign] at h
    · rfl

/-- Every text is a sign, which may be left out, and what is split off it. -/
lemma exists_sign (cs : List Char) :
    ∃ sign : Sign, cs = sign.chars ++ (Decimal.splitSign cs).2 ∧
      (Decimal.splitSign cs).1 = sign.isMinus := by
  unfold Decimal.splitSign
  split
  · exact ⟨.minus, rfl, rfl⟩
  · exact ⟨.plus, rfl, rfl⟩
  · exact ⟨.absent, rfl, rfl⟩

lemma applySign_isMinus (sign : Sign) (n : Int) : applySign sign.isMinus n = sign.apply n := by
  cases sign <;> rfl

/-! ## Digits -/

/-- What is no digit of the class is not among the digits. -/
lemma IsDigits.not_mem {c : Char} (h : IsDigits p digits) (hc : p c = false) : c ∉ digits :=
  fun hmem => absurd (h.all c hmem) (by simp [hc])

/-- Decimal digits start with no sign. -/
lemma IsDigits.hasNoSign (h : IsDigits isDigit digits) : HasNoSign digits := by
  obtain ⟨first, rest, rfl⟩ := List.exists_cons_of_ne_nil h.ne_nil
  have hfirst : isDigit first := h.all first (by simp)
  constructor
  · rintro ⟨rfl⟩
    exact absurd hfirst (by decide)
  · rintro ⟨rfl⟩
    exact absurd hfirst (by decide)

/-- Runs of a class in a text without a line feed are digits of the class. -/
lemma isRun_iff (h : '\n' ∉ cs) : isRun p cs ↔ IsDigits p cs := by
  rw [isRun, beforeFinalBreak_of_not_mem h, Bool.and_eq_true, Bool.not_eq_true',
    List.isEmpty_eq_false_iff, List.all_eq_true]
  exact ⟨fun h => ⟨h.1, h.2⟩, fun h => ⟨h.ne_nil, h.all⟩⟩

/-- Digits end before what starts with none. -/
lemma span_digits {front back : List Char} (hfront : ∀ c ∈ front, isDigit c)
    (hback : ∀ c, back.head? = some c → isDigit c = false) :
    (front ++ back).takeWhile isDigit = front ∧ (front ++ back).dropWhile isDigit = back := by
  rw [List.takeWhile_append_of_pos hfront, List.dropWhile_append_of_pos hfront]
  cases back with
  | nil => simp
  | cons c back => simp [hback c rfl]

/-! ## Decimals -/

/-- What is read as an exponent is written as one. -/
lemma exists_readExponent?_iff : (∃ n, Decimal.readExponent? cs = some n) ↔ IsExponent cs := by
  constructor
  · rintro ⟨n, h⟩
    unfold Decimal.readExponent? at h
    split at h
    · exact .absent
    · next letter rest =>
      split at h
      · next hletter =>
        obtain ⟨sign, hrest, -⟩ := exists_sign rest
        dsimp only at h
        split at h
        · next hdigits =>
          rw [Bool.and_eq_true, Bool.not_eq_true', List.isEmpty_eq_false_iff,
            List.all_eq_true] at hdigits
          rw [hrest]
          exact .present sign (by simpa using hletter) ⟨hdigits.1, hdigits.2⟩
        · cases h
      · cases h
  · rintro (_ | ⟨sign, hletter, hdigits⟩)
    · exact ⟨0, rfl⟩
    · rw [Decimal.readExponent?, if_pos (by simpa using hletter),
        splitSign_chars_append sign hdigits.hasNoSign]
      exact ⟨_, if_pos (by simpa using ⟨hdigits.ne_nil, hdigits.all⟩)⟩

/-- An exponent starts with no digit, and with no point. -/
lemma IsExponent.head?_ne {exponent : List Char} (h : IsExponent exponent) :
    (∀ c, exponent.head? = some c → isDigit c = false) ∧ exponent.head? ≠ some '.' := by
  cases h with
  | absent => simp
  | present sign hletter hdigits =>
    rcases hletter with rfl | rfl <;> simp <;> decide

/-- The fraction of a text that starts with no point is empty. -/
lemma splitFraction_of_head?_ne (h : cs.head? ≠ some '.') :
    Decimal.splitFraction cs = ([], cs) := by
  unfold Decimal.splitFraction
  split
  · simp at h
  · rfl

/-- The fraction of a text that starts with a point is all digits behind it. -/
lemma splitFraction_point {fraction behind : List Char} (hfraction : ∀ c ∈ fraction, isDigit c)
    (hbehind : ∀ c, behind.head? = some c → isDigit c = false) :
    Decimal.splitFraction ('.' :: (fraction ++ behind)) = (fraction, behind) := by
  obtain ⟨htake, hdrop⟩ := span_digits hfraction hbehind
  rw [Decimal.splitFraction, htake, hdrop]

/-- What stands in front of the rest of a text is its fraction, with the point, or nothing. -/
lemma exists_splitFraction (cs : List Char) :
    ∃ fraction rest, Decimal.splitFraction cs = (fraction, rest) ∧ (∀ c ∈ fraction, isDigit c) ∧
      (cs = '.' :: (fraction ++ rest) ∨ fraction = [] ∧ cs = rest) := by
  unfold Decimal.splitFraction
  split
  · next behind =>
    refine ⟨_, _, rfl, fun _ => List.mem_takeWhile_imp, .inl ?_⟩
    rw [List.takeWhile_append_dropWhile]
  · exact ⟨[], cs, rfl, by simp, .inr ⟨rfl, rfl⟩⟩

/-- What is read as a decimal is written as one. -/
lemma isUnsigned_of_read? {d : Decimal} (h : Decimal.read? cs = some d) :
    IsUnsigned .decimal cs := by
  have hsplit := List.takeWhile_append_dropWhile (p := isDigit) (l := cs)
  have hwhole : ∀ c ∈ cs.takeWhile isDigit, isDigit c := fun _ => List.mem_takeWhile_imp
  unfold Decimal.read? at h
  generalize cs.takeWhile isDigit = whole at h hsplit hwhole
  generalize cs.dropWhile isDigit = behind at h hsplit
  obtain ⟨fraction, rest, hfraction, hdigits, hbehind⟩ := exists_splitFraction behind
  rw [hfraction] at h
  dsimp only at h
  split at h
  · cases h
  · next hne =>
    obtain ⟨exponent, hexponent, -⟩ := Option.map_eq_some_iff.1 h
    have hexponent := exists_readExponent?_iff.1 ⟨exponent, hexponent⟩
    rw [← hsplit]
    rcases hbehind with rfl | ⟨rfl, rfl⟩
    · rw [← List.cons_append, ← List.append_assoc]
      refine .decimal ?_ hexponent
      cases whole with
      | nil => exact .fraction ⟨by simpa using hne, hdigits⟩
      | cons first others => exact .pointed ⟨by simp, hwhole⟩ hdigits
    · exact .decimal (.whole ⟨by simpa using hne, hwhole⟩) hexponent

/-- What is written as a decimal is read as one. -/
lemma exists_read?_of_isUnsigned (h : IsUnsigned .decimal cs) :
    ∃ d, Decimal.read? cs = some d := by
  obtain _ | _ | ⟨hmantissa, hexponent⟩ := h
  obtain ⟨hdigit, hpoint⟩ := hexponent.head?_ne
  obtain ⟨n, hn⟩ := exists_readExponent?_iff.2 hexponent
  have hdot : isDigit '.' = false := by decide
  have hstart : ∀ rest c, List.head? ('.' :: rest) = some c → isDigit c = false := by
    rintro rest c ⟨rfl⟩
    exact hdot
  unfold Decimal.read?
  cases hmantissa with
  | whole hdigits =>
    obtain ⟨htake, hdrop⟩ := span_digits hdigits.all hdigit
    simp [htake, hdrop, splitFraction_of_head?_ne hpoint, hn, hdigits.ne_nil]
  | pointed hdigits hfraction =>
    obtain ⟨htake, hdrop⟩ := span_digits hdigits.all (hstart _)
    rw [List.append_assoc, List.cons_append, htake, hdrop, splitFraction_point hfraction hdigit]
    simp [hn, hdigits.ne_nil]
  | fraction hfraction =>
    rw [List.cons_append, List.takeWhile_cons_of_neg (by simp [hdot]),
      List.dropWhile_cons_of_neg (by simp [hdot]), splitFraction_point hfraction.all hdigit]
    simp [hn, hfraction.ne_nil]

/-- **Decimals are read if they are written as such.** -/
lemma exists_read?_iff : (∃ d, Decimal.read? cs = some d) ↔ IsUnsigned .decimal cs :=
  ⟨fun ⟨_, h⟩ => isUnsigned_of_read? h, exists_read?_of_isUnsigned⟩

/-! ## What stands behind the sign -/

/-- What stands behind the mark of a hexadecimal number decides whether it is one. -/
lemma isUnsigned_hexadecimal_iff :
    IsUnsigned .hexadecimal body ↔
      ∃ digits, afterHexMark? body = some digits ∧ IsDigits isHexDigit digits := by
  constructor
  · rintro (⟨hmark, hdigits⟩ | _ | _)
    rcases hmark with rfl | rfl <;> exact ⟨_, rfl, hdigits⟩
  · rintro ⟨digits, h, hdigits⟩
    obtain ⟨mark, hmark, rfl⟩ := exists_mark h
    exact .hexadecimal hmark hdigits

lemma isUnsigned_integer_iff : IsUnsigned .integer body ↔ IsDigits isDigit body :=
  ⟨fun | .integer hdigits => hdigits, .integer⟩

/-- An integer is a decimal as well. -/
lemma IsUnsigned.decimal_of_integer (h : IsUnsigned .integer body) : IsUnsigned .decimal body := by
  have hdecimal := IsUnsigned.decimal (.whole (isUnsigned_integer_iff.1 h)) .absent
  rwa [List.append_nil] at hdecimal

/-- A text that starts like a hexadecimal number is no decimal. -/
lemma not_isUnsigned_decimal_of_afterHexMark? (h : afterHexMark? body = some digits) :
    ¬ IsUnsigned .decimal body := by
  obtain ⟨mark, hmark, rfl⟩ := exists_mark h
  have hread : Decimal.read? ('0' :: mark :: digits) = none := by
    have hzero : isDigit '0' = true := by decide
    have hletter : isDigit mark = false := by rcases hmark with rfl | rfl <;> decide
    rcases hmark with rfl | rfl <;>
      simp [Decimal.read?, Decimal.splitFraction, Decimal.readExponent?, hzero, hletter]
  rw [← exists_read?_iff, hread]
  simp

/-- A text of one of the forms starts with no sign. -/
lemma IsUnsigned.hasNoSign (h : IsUnsigned form body) : HasNoSign body := by
  cases h with
  | hexadecimal => constructor <;> simp
  | integer hdigits => exact hdigits.hasNoSign
  | decimal hmantissa =>
    cases hmantissa with
    | whole hdigits | pointed hdigits =>
      obtain ⟨first, rest, rfl⟩ := List.exists_cons_of_ne_nil hdigits.ne_nil
      exact hdigits.hasNoSign
    | fraction => constructor <;> simp

/-- **What stands behind the sign decides of which form a text is.** -/
lemma isWritten_iff : IsWritten form cs ↔ IsUnsigned form (Decimal.splitSign cs).2 := by
  constructor
  · rintro ⟨sign, body, rfl, hbody⟩
    rwa [splitSign_chars_append sign hbody.hasNoSign]
  · intro h
    obtain ⟨sign, hsign, -⟩ := exists_sign cs
    exact ⟨sign, _, hsign, h⟩

/-- What stands behind the sign is from the text. -/
lemma unsigned_sublist (cs : List Char) : (unsigned cs).Sublist cs := by
  obtain ⟨sign, hsign, -⟩ := exists_sign (ungrouped cs)
  have hsuffix : (unsigned cs).Sublist (ungrouped cs) := by
    rw [hsign]
    exact List.sublist_append_right _ _
  exact hsuffix.trans List.filter_sublist

/-! ## Reading -/

/-- What is read from a text, by the form of what stands behind its sign. -/
inductive Reads (body : List Char) : Option Number → Prop
  | hexadecimal (hform : IsUnsigned .hexadecimal body) (n : Int) : Reads body (some (.int n))
  | integer (hform : IsUnsigned .integer body) (value : Number) : Reads body (some value)
  | decimal (hform : IsUnsigned .decimal body) (hinteger : ¬ IsUnsigned .integer body) (x : Float) :
      Reads body (some (.double x))
  | none (hform : ∀ form, ¬ IsUnsigned form body) : Reads body none

namespace Reads

variable {value? : Option Number}

/-- Something is read if and only if the text is of one of the forms. -/
lemma exists_value_iff (h : Reads body value?) :
    (∃ value, value? = some value) ↔ ∃ form, IsUnsigned form body := by
  cases h with
  | hexadecimal hform | integer hform | decimal hform =>
    exact ⟨fun _ => ⟨_, hform⟩, fun _ => ⟨_, rfl⟩⟩
  | none hform => simpa using hform

/-- An integer is read from one of the first two forms. -/
lemma form_of_int {n : Int} (h : Reads body (some (.int n))) :
    IsUnsigned .hexadecimal body ∨ IsUnsigned .integer body := by
  cases h with
  | hexadecimal hform => exact .inl hform
  | integer hform => exact .inr hform

/-- A double is read from a decimal that is no integer. -/
lemma exists_double (h : Reads body value?) (hdecimal : IsUnsigned .decimal body)
    (hinteger : ¬ IsUnsigned .integer body) : ∃ x, value? = some (.double x) := by
  cases h with
  | hexadecimal hform =>
    obtain ⟨digits, hmark, -⟩ := isUnsigned_hexadecimal_iff.1 hform
    exact absurd hdecimal (not_isUnsigned_decimal_of_afterHexMark? hmark)
  | integer hform => exact absurd hform hinteger
  | decimal _ _ x => exact ⟨x, rfl⟩
  | none hform => exact absurd hdecimal (hform .decimal)

end Reads

/-- A text with the mark of a hexadecimal number is read by the digits behind the mark. -/
lemma reads_readHex? (hmark : afterHexMark? body = some digits) (hbreak : '\n' ∉ body)
    (negative : Bool) : Reads body (readHex? negative digits) := by
  have hdigits : isRun isHexDigit digits ↔ IsDigits isHexDigit digits := by
    obtain ⟨mark, -, rfl⟩ := exists_mark hmark
    exact isRun_iff fun h => hbreak (by simp [h])
  unfold readHex?
  split
  · next hrun =>
    exact .hexadecimal (isUnsigned_hexadecimal_iff.2 ⟨digits, hmark, hdigits.1 hrun⟩) _
  · next hrun =>
    have hdecimal := not_isUnsigned_decimal_of_afterHexMark? hmark
    refine .none fun form hform => ?_
    cases form with
    | hexadecimal =>
      obtain ⟨digits', hmark', hdigits'⟩ := isUnsigned_hexadecimal_iff.1 hform
      obtain rfl := Option.some.inj (hmark.symm.trans hmark')
      exact hrun (hdigits.2 hdigits')
    | integer => exact hdecimal hform.decimal_of_integer
    | decimal => exact hdecimal hform

/-- A text without that mark that is no integer is read as a decimal, or not at all. -/
lemma reads_read? (hmark : afterHexMark? body = none) (hinteger : ¬ IsUnsigned .integer body)
    (negative : Bool) :
    Reads body ((Decimal.read? body).map fun d => .double (Decimal.toDouble negative d)) := by
  cases hread : Decimal.read? body with
  | some d => exact .decimal (exists_read?_iff.1 ⟨d, hread⟩) hinteger _
  | none =>
    refine .none fun form hform => ?_
    cases form with
    | hexadecimal =>
      obtain ⟨digits, hmark', -⟩ := isUnsigned_hexadecimal_iff.1 hform
      cases hmark.symm.trans hmark'
    | integer => exact hinteger hform
    | decimal =>
      obtain ⟨d, hd⟩ := exists_read?_iff.2 hform
      cases hread.symm.trans hd

/-- **What is read from a text without a line feed is read by its form.** -/
lemma reads_of_readChars {value? : Option Number} (hbreak : '\n' ∉ cs)
    (h : readChars cs = .ok value?) : Reads (unsigned cs) value? := by
  have hunsigned : '\n' ∉ unsigned cs := fun h => hbreak ((unsigned_sublist cs).subset h)
  have hfinal := beforeFinalBreak_of_not_mem hunsigned
  obtain ⟨negative, hsplit⟩ : ∃ negative,
      Decimal.splitSign (ungrouped cs) = (negative, unsigned cs) := ⟨_, rfl⟩
  rw [readChars, hsplit] at h
  generalize unsigned cs = body at hunsigned hfinal h
  dsimp only at h
  split at h
  · next digits hmark =>
    obtain rfl := Except.ok.inj h
    exact reads_readHex? hmark hunsigned negative
  · next hmark =>
    have hinteger : isRun isDigit body ↔ IsUnsigned .integer body := by
      rw [isRun_iff hunsigned, isUnsigned_integer_iff]
    split at h
    · next hrun =>
      cases hvalue : readInteger negative body with
      | ok value =>
        rw [hvalue] at h
        obtain rfl := Except.ok.inj h
        exact .integer (hinteger.1 hrun) value
      | error e =>
        rw [hvalue] at h
        cases h
    · next hrun =>
      rw [hfinal] at h
      obtain rfl := Except.ok.inj h
      exact reads_read? hmark (mt hinteger.2 hrun) negative

/-- The digits of an integer are no more than the characters of the text. -/
lemma length_integerDigits_le (hbreak : '\n' ∉ cs) : (integerDigits cs).length ≤ cs.length := by
  have hunsigned : '\n' ∉ unsigned cs := fun h => hbreak ((unsigned_sublist cs).subset h)
  rw [integerDigits, beforeFinalBreak_of_not_mem hunsigned]
  split
  · exact (unsigned_sublist cs).length_le
  · exact Nat.zero_le _

/-- **A text without a line feed is read by its form**, unless it is overlong. -/
lemma exists_reads (hbreak : '\n' ∉ cs) (hlength : cs.length ≤ DigitLimit.limit) :
    ∃ value?, readChars cs = .ok value? ∧ Reads (unsigned cs) value? := by
  cases hread : readChars cs with
  | ok value? => exact ⟨value?, rfl, reads_of_readChars hbreak hread⟩
  | error e =>
    obtain ⟨hlong, -⟩ := readChars_eq_error_iff.1 hread
    exact absurd ((length_integerDigits_le hbreak).trans hlength) (Nat.not_le.2 hlong)

/-- **Literals are the texts of three forms.** A text without a line feed, and of no more characters
than an integer may have digits, denotes a number if and only if it is, without its underscores, a
sign that may be left out and behind it hexadecimal digits with their mark, decimal digits, or
decimal digits with a point or an exponent. It denotes an integer only if it is of one of the first
two forms, and a double if it is of the third and not of the second. A text of no form denotes
nothing, and is refused as an invalid literal where a number has to stand.

**Proof sketch.** No text of the forms starts with a sign, so that what stands behind the sign that
is split off decides (`isWritten_iff`). It is read by its form (`exists_reads`): the mark of
hexadecimal numbers keeps them from being decimals, and the reader of decimals takes each part of
one up to where the part ends (`exists_read?_iff`). -/
theorem literals_are_signed_forms (text : String) (hbreak : '\n' ∉ text.toList)
    (hlength : text.length ≤ DigitLimit.limit) :
    let written := ungrouped text.toList
    ((∃ value, read text = .ok (some value) ∧ require text = .ok value) ↔
      ∃ form, IsWritten form written) ∧
    (∀ value, read text = .ok (some value) →
      (∃ n, value = .int n ∧ (IsWritten .hexadecimal written ∨ IsWritten .integer written)) ∨
        ∃ x, value = .double x) ∧
    (IsWritten .decimal written → ¬ IsWritten .integer written →
      ∃ x, read text = .ok (some (.double x))) ∧
    ((¬ ∃ form, IsWritten form written) →
      read text = .ok none ∧ require text = .error (.cause (.invalidValue text)) ∧
        (Cause.invalidValue text).kind = .invalidLiteral) := by
  intro written
  obtain ⟨value?, hread, hreads⟩ := exists_reads hbreak (String.length_toList.trans_le hlength)
  change read text = .ok value? at hread
  have hform : ∀ form, IsWritten form written ↔ IsUnsigned form (unsigned text.toList) :=
    fun form => isWritten_iff
  have hvalue : ∀ value, read text = .ok (some value) ↔ value? = some value := by simp [hread]
  simp only [hform]
  refine ⟨?_, fun value hvalue => ?_, fun hdecimal hinteger => ?_, fun hnone => ?_⟩
  · rw [← hreads.exists_value_iff]
    refine exists_congr fun value => ?_
    rw [require, ← hvalue]
    refine and_iff_left_of_imp fun h => ?_
    rw [h]
  · have hword := isWord_of_read hvalue
    rw [hread] at hvalue
    obtain rfl := Except.ok.inj hvalue
    cases hword with
    | int => exact .inl ⟨_, rfl, hreads.form_of_int⟩
    | double x => exact .inr ⟨x, rfl⟩
  · obtain ⟨x, hx⟩ := hreads.exists_double hdecimal hinteger
    exact ⟨x, (hvalue _).2 hx⟩
  · rw [← hreads.exists_value_iff] at hnone
    obtain rfl : value? = none :=
      Option.eq_none_iff_forall_ne_some.2 fun value hvalue => hnone ⟨value, hvalue⟩
    exact ⟨hread, by rw [require, hread], rfl⟩

/-- A decimal may have a point with nothing behind it, digits of any script and underscores
anywhere; the mark of a hexadecimal number alone is a literal of no form. -/
theorem literals_are_signed_forms_of_point :
    (∃ x, read "-٣_.e_+07" = .ok (some (.double x))) ∧
      (¬ ∃ form, IsWritten form (ungrouped "0_x".toList)) ∧
        require "0_x" = .error (.cause (.invalidValue "0_x")) := by
  have hthree : IsDigits isDigit ['٣'] := by decide
  have hseven : IsDigits isDigit ['0', '7'] := by decide
  have hwritten : ungrouped "-٣_.e_+07".toList = ['-', '٣', '.', 'e', '+', '0', '7'] := by decide
  have hmantissa : IsMantissa ['٣', '.'] := .pointed hthree (List.forall_mem_nil _)
  have hexponent : IsExponent ['e', '+', '0', '7'] := .present .plus (.inl rfl) hseven
  have hpoint : IsWritten .decimal (ungrouped "-٣_.e_+07".toList) := by
    rw [hwritten]
    exact ⟨.minus, _, rfl, .decimal hmantissa hexponent⟩
  have hmark : read "0_x" = .ok none := by decide +kernel
  obtain ⟨-, -, hdouble, -⟩ := literals_are_signed_forms "-٣_.e_+07" (by decide) (by decide)
  obtain ⟨hform, -, -, hnone⟩ := literals_are_signed_forms "0_x" (by decide) (by decide)
  have hnot : ¬ ∃ form, IsWritten form (ungrouped "0_x".toList) := by
    rw [← hform, hmark]
    simp
  refine ⟨hdouble hpoint ?_, hnot, (hnone hnot).2.1⟩
  rw [isWritten_iff, isUnsigned_integer_iff, hwritten]
  decide

end RegisterMachine.Literal
