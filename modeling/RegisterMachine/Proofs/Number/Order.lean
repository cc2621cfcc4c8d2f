import RegisterMachine.Opcode
import RegisterMachine.Proofs.Number.Range
import Mathlib.Data.EReal.Basic
import Mathlib.Order.Compare

set_option autoImplicit false
set_option relaxedAutoImplicit false

/-!
# The order of numbers

The value of a number is a real number or one of two infinities, and what is not a number has no
value. Numbers are compared by their values, so that a comparison across integers and doubles is
exact, and of what is not a number no relation holds but inequality.

## Main definitions

* `RegisterMachine.Number.value?` — the value of a number.
* `RegisterMachine.Number.Related` — numbers whose values are in a relation.
* `RegisterMachine.Condition.Relates` — the relation that a condition tests.

## Main results

* `RegisterMachine.Number.compare_eq_some_iff` — numbers are compared by their values.
* `RegisterMachine.Condition.holds_compare_iff` — a condition holds for the flags of a comparison if
  and only if the numbers are in its relation.
-/

namespace RegisterMachine

/-! ## Values -/

namespace Exact

/-- The value of an exact number, if it is a number: so many units, of which `unitsPerOne` make
one. -/
noncomputable def value? : Exact → Option EReal
  | .nan => none
  | .infinite negative => some (if negative then ⊥ else ⊤)
  | .finite negative units => some ((signed negative units / unitsPerOne : ℝ) : EReal)

/-- Whole numbers of units are in the order of their values. -/
lemma compares_units_iff {order : Ordering} {m n : Int} :
    order.Compares (((m : ℝ) / unitsPerOne : ℝ) : EReal) ((n : ℝ) / unitsPerOne : ℝ) ↔
      order.Compares m n := by
  have hpos : (0 : ℝ) < unitsPerOne := Nat.cast_pos.2 unitsPerOne_pos
  cases order with
  | lt =>
    change ((_ : ℝ) : EReal) < (_ : ℝ) ↔ m < n
    rw [EReal.coe_lt_coe_iff, div_lt_div_iff_of_pos_right hpos, Int.cast_lt]
  | eq =>
    change ((_ : ℝ) : EReal) = (_ : ℝ) ↔ m = n
    rw [EReal.coe_eq_coe_iff, div_left_inj' hpos.ne', Int.cast_inj]
  | gt =>
    change ((_ : ℝ) : EReal) < (_ : ℝ) ↔ n < m
    rw [EReal.coe_lt_coe_iff, div_lt_div_iff_of_pos_right hpos, Int.cast_lt]

/-- **Exact numbers are compared by their values**, and not at all if one of them is no number. -/
lemma compare_eq_some_iff {x y : Exact} {order : Ordering} :
    x.compare y = some order ↔
      ∃ v w, x.value? = some v ∧ y.value? = some w ∧ order.Compares v w := by
  cases x with
  | nan => simp [compare, value?]
  | infinite s =>
    cases y with
    | nan => simp [compare, value?]
    | infinite t =>
      cases s <;> cases t <;> cases order <;> simp [compare, value?, Ordering.Compares] <;> rfl
    | finite t n => cases s <;> cases order <;> simp [compare, value?, Ordering.Compares]
  | finite s m =>
    cases y with
    | nan => simp [compare, value?]
    | infinite t => cases t <;> cases order <;> simp [compare, value?, Ordering.Compares]
    | finite t n =>
      have horder : Ord.compare (signed s m) (signed t n) = order ↔
          order.Compares (signed s m) (signed t n) := compare_iff _ _
      simp [compare, value?, horder, compares_units_iff]

/-- The sign of an integer and the number of its units together are the integer in units. -/
lemma signed_natAbs (n : Int) (units : Nat) :
    signed (n < 0) (n.natAbs * units) = n * units := by
  unfold signed
  push_cast
  split
  · next hneg =>
    rw [abs_of_neg (of_decide_eq_true hneg), neg_mul, neg_neg]
  · next hneg =>
    have hnonneg : 0 ≤ n := by simpa using hneg
    rw [abs_of_nonneg hnonneg]

/-- No units and only these have the value zero. -/
lemma value?_finite_eq_zero_iff {negative : Bool} {units : Nat} :
    (finite negative units).value? = some 0 ↔ units = 0 := by
  have hpos : (unitsPerOne : ℝ) ≠ 0 := Nat.cast_ne_zero.2 unitsPerOne_pos.ne'
  rw [value?, Option.some.injEq, EReal.coe_eq_zero, div_eq_zero_iff, or_iff_left hpos,
    Int.cast_eq_zero]
  cases negative <;> simp [signed]

end Exact

/-- A double has no bit set below its sign if its value is zero. -/
lemma Double.magnitudeBits_eq_zero_iff {x : Float} :
    magnitudeBits x = 0 ↔ (exact x).value? = some 0 := by
  unfold exact
  split
  · have hleading : leadingBit ≠ 0 := by decide
    rw [Exact.value?_finite_eq_zero_iff, Nat.shiftLeft_eq_zero_iff, significand]
    split
    · rfl
    · next hnormal =>
      refine iff_of_false (fun hzero => hnormal ?_) ?_ <;> omega
  · next hlarge =>
    have hbits : magnitudeBits x ≠ 0 := by
      have hinfinity : infinityBits ≠ 0 := by decide
      omega
    refine iff_of_false hbits ?_
    split
    · cases signBit x <;> simp [Exact.value?]
    · simp [Exact.value?]

namespace Number

variable {a b : Number}

/-- The value of a number, if it is one. -/
noncomputable def value? (a : Number) : Option EReal :=
  a.exact.value?

/-- The value of an integer is the integer. -/
@[simp]
lemma value?_int (n : Int) : (Number.int n).value? = some ((n : ℝ) : EReal) := by
  have hpos : (unitsPerOne : ℝ) ≠ 0 := Nat.cast_ne_zero.2 unitsPerOne_pos.ne'
  change (Exact.ofInt n).value? = _
  rw [Exact.ofInt, Exact.value?, Exact.signed_natAbs]
  push_cast
  rw [mul_div_cancel_right₀ _ hpos]

/-- A number equals zero if its value is zero, so that both zeros of the doubles do. -/
lemma isZero_iff : a.isZero ↔ a.value? = some 0 := by
  have hint : ∀ n : Int, (Number.int n).isZero ↔ (Number.int n).value? = some 0 := by
    intro n
    rw [value?_int]
    simp [isZero, scalar]
  cases a with
  | int n => exact hint n
  | truth b => exact hint _
  | double x => exact decide_eq_true_iff.trans Double.magnitudeBits_eq_zero_iff

/-- **Numbers are compared by their values**, integers and doubles alike. -/
lemma compare_eq_some_iff {order : Ordering} :
    a.compare b = some order ↔
      ∃ v w, a.value? = some v ∧ b.value? = some w ∧ order.Compares v w :=
  Exact.compare_eq_some_iff

/-- Both are numbers, and their values are in a relation. -/
def Related (r : EReal → EReal → Prop) (a b : Number) : Prop :=
  ∃ v w, a.value? = some v ∧ b.value? = some w ∧ r v w

end Number

/-! ## Conditions -/

namespace Condition

/-- The relation that a condition tests. Of what is not a number only inequality holds. -/
def Relates (a b : Number) : Condition → Prop
  | .always => True
  | .equal => Number.Related (· = ·) a b
  | .notEqual => ¬ Number.Related (· = ·) a b
  | .less => Number.Related (· < ·) a b
  | .lessEqual => Number.Related (· ≤ ·) a b
  | .greater => Number.Related (· > ·) a b
  | .greaterEqual => Number.Related (· ≥ ·) a b

variable {flags others : Flags}

/-- **A condition holds for the flags of a comparison** if and only if the numbers that were
compared are in its relation. -/
lemma holds_compare_iff (flags : Flags) (a b : Number) (condition : Condition) :
    condition.holds (flags.compare a b) ↔ condition.Relates a b := by
  have hlt : a.compare b = some .lt ↔ Number.Related (· < ·) a b := Number.compare_eq_some_iff
  have heq : a.compare b = some .eq ↔ Number.Related (· = ·) a b := Number.compare_eq_some_iff
  have hgt : a.compare b = some .gt ↔ Number.Related (· > ·) a b := Number.compare_eq_some_iff
  cases condition with
  | always => simp [holds, Relates]
  | equal => simp [holds, Relates, Flags.compare, heq]
  | notEqual => simp [holds, Relates, Flags.compare, heq]
  | less => simp [holds, Relates, Flags.compare, hlt]
  | greater => simp [holds, Relates, Flags.compare, hgt]
  | lessEqual =>
    simp only [holds, Flags.compare, Bool.or_eq_true, decide_eq_true_eq, hlt, heq, Relates]
    simp only [Number.Related, le_iff_lt_or_eq, ← exists_or, ← and_or_left]
  | greaterEqual =>
    simp only [holds, Flags.compare, Bool.or_eq_true, decide_eq_true_eq, hgt, heq, Relates]
    simp only [Number.Related, ge_iff_le, gt_iff_lt, le_iff_lt_or_eq, ← exists_or, ← and_or_left,
      eq_comm]

instance (a b : Number) (condition : Condition) : Decidable (condition.Relates a b) :=
  decidable_of_iff _ (holds_compare_iff {} a b condition)

/-- A condition looks at the flags that comparisons set. -/
lemma holds_congr (heq : others.eq = flags.eq) (hlt : others.lt = flags.lt)
    (hgt : others.gt = flags.gt) (condition : Condition) :
    condition.holds others = condition.holds flags := by
  cases condition <;> simp only [holds, heq, hlt, hgt]

end Condition

end RegisterMachine
