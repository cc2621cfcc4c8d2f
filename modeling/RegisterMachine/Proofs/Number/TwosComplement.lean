import RegisterMachine.Opcode
import RegisterMachine.Proofs.Number.Range
import Mathlib.Data.Int.Bitwise
import Mathlib.Data.Int.ModEq

set_option autoImplicit false
set_option relaxedAutoImplicit false

/-!
# Two's complement

The operations on integers that keep to 64 bits compute with the two's complement words of their
operands: a result is the signed reading of a word, and it depends on the words of the operands
alone. Only a shift count is looked at as a whole. Expressions over these operations can therefore
be evaluated with words from the leaves up. The operations on bits are those of integers with
infinitely many bits, wrapped in the end.

## Main definitions

* `RegisterMachine.Word.shiftLeft`, `RegisterMachine.Word.shiftRight` — a word shifted by a signed
  count.
* `RegisterMachine.WordBinary`, `RegisterMachine.WordUnary` — the operations that keep to 64 bits,
  and what they mean on words.
* `RegisterMachine.Expression` — trees of such operations over 64-bit integers.

## Main results

* `RegisterMachine.Number.and_int`, `or_int`, `xor_int`, `not_int`, `shl_int_of_nonneg`,
  `shr_int_of_nonneg` — the operations on bits by those of the integers.
* `RegisterMachine.Expression.integers_are_words` — expressions evaluate as on words, and
  operations depend on their operands modulo the number of words.
-/

namespace RegisterMachine

/-! ## Words of integers -/

namespace Number

variable {m n : Int}

/-- The signed reading of the word of an integer is the wrapped integer. -/
lemma toInt_word (n : Int) : (word n).toInt = wrap n :=
  BitVec.toInt_ofInt n

/-- The word of a signed reading is the word that was read. -/
@[simp] lemma word_toInt (w : BitVec 64) : word w.toInt = w :=
  BitVec.ofInt_toInt

/-- The word of an unsigned reading is the word that was read. -/
lemma word_toNat (w : BitVec 64) : word w.toNat = w := by
  rw [word, BitVec.ofInt_natCast, BitVec.ofNat_toNat, BitVec.setWidth_eq]

lemma word_add (m n : Int) : word (m + n) = word m + word n :=
  BitVec.ofInt_add m n

lemma word_mul (m n : Int) : word (m * n) = word m * word n :=
  BitVec.ofInt_mul m n

lemma word_sub (m n : Int) : word (m - n) = word m - word n := by
  rw [Int.sub_eq_add_neg, word_add, BitVec.sub_eq_add_neg]
  exact congrArg _ BitVec.ofInt_neg

/-- An integer of 64 bits is the signed reading of its word. -/
lemma toInt_word_of_range (h : -0x8000000000000000 ≤ n ∧ n ≤ 0x7FFFFFFFFFFFFFFF) :
    (word n).toInt = n := by
  rw [toInt_word, wrap_of_range h]

/-- Integers that are congruent have one word. -/
lemma word_congr (h : m ≡ n [ZMOD wordCount]) : word m = word n := by
  refine BitVec.eq_of_toNat_eq ?_
  rw [word, word, BitVec.toNat_ofInt, BitVec.toNat_ofInt]
  exact congrArg Int.toNat h

/-- The word of an integer has the lowest of its infinitely many bits. -/
lemma getLsbD_word (n : Int) (i : Nat) : (word n).getLsbD i = (decide (i < 64) && n.testBit i) := by
  cases n with
  | ofNat n => exact BitVec.getLsbD_ofNat 64 n i
  | negSucc n =>
    rw [word, BitVec.ofInt_negSucc_eq_not_ofNat, BitVec.getLsbD_not, BitVec.getLsbD_ofNat]
    cases decide (i < 64) <;> rfl

/-! ## Operations on bits -/

lemma word_land (m n : Int) : word (Int.land m n) = word m &&& word n := by
  refine BitVec.eq_of_getLsbD_eq fun i hi => ?_
  simp only [getLsbD_word, BitVec.getLsbD_and, Int.testBit_land, hi, decide_true, Bool.true_and]

lemma word_lor (m n : Int) : word (Int.lor m n) = word m ||| word n := by
  refine BitVec.eq_of_getLsbD_eq fun i hi => ?_
  simp only [getLsbD_word, BitVec.getLsbD_or, Int.testBit_lor, hi, decide_true, Bool.true_and]

lemma word_xor (m n : Int) : word (Int.xor m n) = word m ^^^ word n := by
  refine BitVec.eq_of_getLsbD_eq fun i hi => ?_
  simp only [getLsbD_word, BitVec.getLsbD_xor, Int.testBit_lxor, hi, decide_true, Bool.true_and]

lemma word_lnot (n : Int) : word (Int.lnot n) = ~~~word n := by
  refine BitVec.eq_of_getLsbD_eq fun i hi => ?_
  simp only [getLsbD_word, BitVec.getLsbD_not, Int.testBit_lnot, hi, decide_true, Bool.true_and]

/-- The bits of both integers, wrapped. -/
theorem and_int (m n : Int) : and (.int m) (.int n) = .ok (.int (wrap (Int.land m n))) := by
  rw [← toInt_word, word_land]
  rfl

/-- The bits of either integer, wrapped. -/
theorem or_int (m n : Int) : or (.int m) (.int n) = .ok (.int (wrap (Int.lor m n))) := by
  rw [← toInt_word, word_lor]
  rfl

/-- The bits of exactly one of the integers, wrapped. -/
theorem xor_int (m n : Int) : xor (.int m) (.int n) = .ok (.int (wrap (Int.xor m n))) := by
  rw [← toInt_word, word_xor]
  rfl

/-- The bits that an integer does not have, wrapped. -/
theorem not_int (n : Int) : not (.int n) = .ok (.int (wrap (Int.lnot n))) := by
  rw [← toInt_word, word_lnot]
  rfl

end Number

/-! ## Shifts -/

namespace Word

/-- The word shifted to the left by a signed count, the other way if the count is negative. -/
def shiftLeft (w : BitVec 64) (count : Int) : BitVec 64 :=
  if 0 ≤ count then w <<< count.toNat else w >>> count.natAbs

/-- The word shifted to the right by a signed count, zeros coming in, the other way if the count is
negative. -/
def shiftRight (w : BitVec 64) (count : Int) : BitVec 64 :=
  if 0 ≤ count then w >>> count.toNat else w <<< count.natAbs

/-- Nothing is left of a word after 64 places, either way. -/
lemma shift_eq_zero (w : BitVec 64) {count : Int} (h : 64 ≤ count.natAbs) :
    shiftLeft w count = 0 ∧ shiftRight w count = 0 := by
  unfold shiftLeft shiftRight
  split
  · have hcount : 64 ≤ count.toNat := by omega
    exact ⟨BitVec.shiftLeft_eq_zero hcount, BitVec.ushiftRight_eq_zero hcount⟩
  · exact ⟨BitVec.ushiftRight_eq_zero h, BitVec.shiftLeft_eq_zero h⟩

end Word

namespace Number

/-- The bound that a shift tests makes no difference: a word has no bits from there on. -/
lemma shiftWord_int (left : Bool) (m : Int) (count : Nat) :
    shiftWord left (.int m) count =
      .ok (.int (if left then word m <<< count else word m >>> count).toInt) := by
  unfold shiftWord
  split
  · next hcount =>
    rw [BitVec.shiftLeft_eq_zero hcount, BitVec.ushiftRight_eq_zero hcount, ite_self]
    rfl
  · rfl

/-- A shift by a count of either sign. -/
lemma shift_int (left : Bool) (m n : Int) :
    shift left (.int m) (.int n) = .ok (.int
      (if left then Word.shiftLeft (word m) n else Word.shiftRight (word m) n).toInt) := by
  have hshift : shift left (.int m) (.int n) =
      if n < 0 then shiftWord (!left) (.int m) n.natAbs else shiftWord left (.int m) n.natAbs := rfl
  rw [hshift, Word.shiftLeft, Word.shiftRight]
  by_cases hn : n < 0
  · have hnonneg : ¬ 0 ≤ n := Int.not_le.2 hn
    rw [if_pos hn, if_neg hnonneg, if_neg hnonneg, shiftWord_int]
    cases left <;> rfl
  · have hnonneg : 0 ≤ n := Int.not_lt.1 hn
    obtain ⟨count, rfl⟩ := Int.eq_ofNat_of_zero_le hnonneg
    rw [if_neg hn, if_pos hnonneg, if_pos hnonneg, shiftWord_int]
    cases left <;> rfl

lemma shl_int (m n : Int) : shl (.int m) (.int n) = .ok (.int (Word.shiftLeft (word m) n).toInt) :=
  shift_int true m n

lemma shr_int (m n : Int) :
    shr (.int m) (.int n) = .ok (.int (Word.shiftRight (word m) n).toInt) :=
  shift_int false m n

/-- A shift to the left multiplies by a power of two and wraps. -/
theorem shl_int_of_nonneg (m : Int) (count : Nat) :
    shl (.int m) (.int count) = .ok (.int (wrap (m * (1 <<< count : Nat)))) := by
  have hpower : word (1 <<< count : Nat) = BitVec.twoPow 64 count := by
    rw [word, BitVec.ofInt_natCast, BitVec.twoPow]
    exact BitVec.eq_of_toNat_eq (by rw [BitVec.toNat_ofNat, BitVec.toNat_shiftLeft]; rfl)
  rw [shl_int, Word.shiftLeft, if_pos (Int.natCast_nonneg count), Int.toNat_natCast,
    BitVec.shiftLeft_eq_mul_twoPow, ← hpower, ← word_mul, toInt_word]

/-- A shift to the right divides the unsigned reading of the word by a power of two, rounding
down, and wraps. -/
theorem shr_int_of_nonneg (m : Int) (count : Nat) :
    shr (.int m) (.int count) = .ok (.int (wrap (m % wordCount / (1 <<< count : Nat)))) := by
  have hunsigned : m % wordCount = (word m).toNat := by
    rw [word, BitVec.toNat_ofInt]
    exact (Int.toNat_of_nonneg (Int.emod_nonneg m (by decide))).symm
  have hword : word m >>> count = word (m % wordCount / (1 <<< count : Nat)) := by
    rw [hunsigned, ← Int.natCast_ediv, Nat.one_shiftLeft, ← Nat.shiftRight_eq_div_pow,
      ← BitVec.toNat_ushiftRight]
    exact (word_toNat _).symm
  rw [shr_int, Word.shiftRight, if_pos (Int.natCast_nonneg count), Int.toNat_natCast, hword,
    toInt_word]

end Number

/-! ## The operations -/

/-- The operations on two numbers that take integers to integers of 64 bits. -/
inductive WordBinary
  | add | sub | mul | and | or | xor | shl | shr
  deriving DecidableEq, Repr

namespace WordBinary

/-- The operation of the machine. -/
def code : WordBinary → BinaryOp
  | .add => .add
  | .sub => .sub
  | .mul => .mul
  | .and => .and
  | .or => .or
  | .xor => .xor
  | .shl => .shl
  | .shr => .shr

/-- Whether the second operand is a count of places. -/
def isShift : WordBinary → Bool
  | .shl | .shr => true
  | _ => false

/-- What the operation does to words. A shift count is the signed reading of its word. -/
def meaning : WordBinary → BitVec 64 → BitVec 64 → BitVec 64
  | .add, v, w => v + w
  | .sub, v, w => v - w
  | .mul, v, w => v * w
  | .and, v, w => v &&& w
  | .or, v, w => v ||| w
  | .xor, v, w => v ^^^ w
  | .shl, v, w => Word.shiftLeft v w.toInt
  | .shr, v, w => Word.shiftRight v w.toInt

/-- An operation that is no shift computes with the words of integers of any size. -/
lemma apply_int {op : WordBinary} (h : op.isShift = false) (m n : Int) :
    op.code.apply (.int m) (.int n) =
      .ok (.int (op.meaning (Number.word m) (Number.word n)).toInt) := by
  cases op with
  | add =>
    have hwrap : Number.add (.int m) (.int n) = .ok (.int (wrap (m + n))) := rfl
    rw [code, BinaryOp.apply, hwrap, ← Number.toInt_word, Number.word_add, meaning]
  | sub =>
    have hwrap : Number.sub (.int m) (.int n) = .ok (.int (wrap (m - n))) := rfl
    rw [code, BinaryOp.apply, hwrap, ← Number.toInt_word, Number.word_sub, meaning]
  | mul =>
    have hwrap : Number.mul (.int m) (.int n) = .ok (.int (wrap (m * n))) := rfl
    rw [code, BinaryOp.apply, hwrap, ← Number.toInt_word, Number.word_mul, meaning]
  | and | or | xor => rfl
  | shl | shr => cases h

/-- On the signed readings of words, an operation computes what it means. -/
lemma apply_toInt (op : WordBinary) (v w : BitVec 64) :
    op.code.apply (.int v.toInt) (.int w.toInt) = .ok (.int (op.meaning v w).toInt) := by
  cases hop : op.isShift with
  | false => rw [apply_int hop, Number.word_toInt, Number.word_toInt]
  | true =>
    cases op with
    | shl => rw [code, BinaryOp.apply, Number.shl_int, Number.word_toInt, meaning]
    | shr => rw [code, BinaryOp.apply, Number.shr_int, Number.word_toInt, meaning]
    | add | sub | mul | and | or | xor => cases hop

/-- An operation depends on its operands only modulo the number of words, a shift on its first
operand. -/
lemma apply_congr (op : WordBinary) {m m' n n' : Int} (hm : m ≡ m' [ZMOD wordCount])
    (hn : if op.isShift then n = n' else n ≡ n' [ZMOD wordCount]) :
    op.code.apply (.int m) (.int n) = op.code.apply (.int m') (.int n') := by
  cases hop : op.isShift with
  | false =>
    rw [hop] at hn
    rw [apply_int hop, apply_int hop, Number.word_congr hm, Number.word_congr hn]
  | true =>
    rw [hop] at hn
    obtain rfl : n = n' := hn
    cases op with
    | shl => rw [code, BinaryOp.apply, Number.shl_int, Number.shl_int, Number.word_congr hm]
    | shr => rw [code, BinaryOp.apply, Number.shr_int, Number.shr_int, Number.word_congr hm]
    | add | sub | mul | and | or | xor => cases hop

end WordBinary

/-- The operations on one number that take integers to integers of 64 bits. -/
inductive WordUnary
  | inc | dec | not
  deriving DecidableEq, Repr

namespace WordUnary

/-- The operation of the machine. -/
def code : WordUnary → UnaryOp
  | .inc => .inc
  | .dec => .dec
  | .not => .not

/-- What the operation does to words. -/
def meaning : WordUnary → BitVec 64 → BitVec 64
  | .inc, w => w + 1
  | .dec, w => w - 1
  | .not, w => ~~~w

/-- An operation on one number computes with the words of integers of any size. -/
lemma apply_int (op : WordUnary) (n : Int) :
    op.code.apply (.int n) = .ok (.int (op.meaning (Number.word n)).toInt) := by
  cases op with
  | inc =>
    have hshift : WordBinary.add.isShift = false := rfl
    exact WordBinary.apply_int hshift n 1
  | dec =>
    have hshift : WordBinary.sub.isShift = false := rfl
    exact WordBinary.apply_int hshift n 1
  | not => rfl

end WordUnary

/-! ## Expressions -/

/-- An expression over integers of 64 bits. -/
inductive Expression
  | leaf (n : { n : Int // -0x8000000000000000 ≤ n ∧ n ≤ 0x7FFFFFFFFFFFFFFF })
  | unary (op : WordUnary) (e : Expression)
  | binary (op : WordBinary) (e₁ e₂ : Expression)

namespace Expression

/-- The value of an expression, computed with the operations of the machine. -/
def value : Expression → Except Cause Number
  | .leaf n => .ok (.int n)
  | .unary op e => do
    let a ← e.value
    op.code.apply a
  | .binary op e₁ e₂ => do
    let a ← e₁.value
    let b ← e₂.value
    op.code.apply a b

/-- The value of an expression, computed with words. -/
def word : Expression → BitVec 64
  | .leaf n => Number.word n
  | .unary op e => op.meaning e.word
  | .binary op e₁ e₂ => op.meaning e₁.word e₂.word

/-- The value of an expression is the signed reading of its word. -/
lemma value_eq (e : Expression) : e.value = .ok (.int e.word.toInt) := by
  induction e with
  | leaf n => rw [value, word, Number.toInt_word_of_range n.2]
  | unary op e ih =>
    have hvalue : (unary op e).value = op.code.apply (.int e.word.toInt) := by
      rw [value, ih]
      rfl
    rw [hvalue, WordUnary.apply_int, Number.word_toInt, word]
  | binary op e₁ e₂ ih₁ ih₂ =>
    have hvalue : (binary op e₁ e₂).value =
        op.code.apply (.int e₁.word.toInt) (.int e₂.word.toInt) := by
      rw [value, ih₁, ih₂]
      rfl
    rw [hvalue, WordBinary.apply_toInt, word]

/-- **The integers of the machine are words.** Every expression of operations that keep to 64 bits
has a value, the signed reading of the word that the same expression has when it is evaluated with
words, and so an integer of 64 bits; shifts by 64 places or more leave nothing of a word. On
integers of any size each of the operations depends on its operands only modulo the number of words,
a shift so on its first operand.

**Proof sketch.** The word of an integer is its residue, so that sums, differences and products of
words are the words of those of integers, and the signed reading is what wrapping leaves. A shift
by 64 places or more, where the operation answers zero at once, leaves no bit of a word. Induction
on the expression does the rest, since the word of a signed reading is the word that was read. -/
theorem integers_are_words :
    (∀ e : Expression, e.value = .ok (.int e.word.toInt) ∧
      -0x8000000000000000 ≤ e.word.toInt ∧ e.word.toInt ≤ 0x7FFFFFFFFFFFFFFF) ∧
    (∀ (w : BitVec 64) (count : Int), 64 ≤ count.natAbs →
      Word.shiftLeft w count = 0 ∧ Word.shiftRight w count = 0) ∧
    (∀ (op : WordBinary) (m m' n n' : Int), m ≡ m' [ZMOD wordCount] →
      (if op.isShift then n = n' else n ≡ n' [ZMOD wordCount]) →
        op.code.apply (.int m) (.int n) = op.code.apply (.int m') (.int n')) ∧
    (∀ (op : WordUnary) (n n' : Int), n ≡ n' [ZMOD wordCount] →
      op.code.apply (.int n) = op.code.apply (.int n')) := by
  refine ⟨fun e => ⟨e.value_eq, ?_⟩, fun w _ hcount => Word.shift_eq_zero w hcount,
    fun op m m' n n' hm hn => op.apply_congr hm hn, fun op n n' hn => ?_⟩
  · cases Number.isWord_toInt e.word with
    | int h => exact h
  · rw [op.apply_int, op.apply_int, Number.word_congr hn]

/-- The number below the least one is the largest, whose bits a negative count shifts to the left;
and no operation sees what a multiple of the number of words adds to its first operand. -/
theorem integers_are_words_of_least :
    let least : Expression := .leaf ⟨-0x8000000000000000, by decide⟩
    let e : Expression := .binary .shr (.unary .dec least) (.leaf ⟨-1, by decide⟩)
    e.value = .ok (.int (-2)) ∧
      0x10000000000000001 ≡ 1 [ZMOD wordCount] ∧ -0x10000000000000000 ≡ 0 [ZMOD wordCount] ∧
      BinaryOp.add.apply (.int 0x10000000000000001) (.int (-0x10000000000000000)) =
        BinaryOp.add.apply (.int 1) (.int 0) ∧
      BinaryOp.shr.apply (.int 0x10000000000000001) (.int 0x3F) =
        BinaryOp.shr.apply (.int 1) (.int 0x3F) ∧
      UnaryOp.inc.apply (.int (-0x10000000000000000)) = UnaryOp.inc.apply (.int 0) := by
  intro least e
  obtain ⟨hvalue, -, hbinary, hunary⟩ := integers_are_words
  have hword : e.word.toInt = -2 := by decide +kernel
  have hone : 0x10000000000000001 ≡ 1 [ZMOD wordCount] := by decide
  have hzero : -0x10000000000000000 ≡ 0 [ZMOD wordCount] := by decide
  refine ⟨?_, hone, hzero, hbinary .add _ _ _ _ hone hzero, hbinary .shr _ _ _ _ hone rfl,
    hunary .inc _ _ hzero⟩
  rw [(hvalue e).1, hword]

end Expression

end RegisterMachine
