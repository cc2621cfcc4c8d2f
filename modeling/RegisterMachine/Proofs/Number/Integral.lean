import RegisterMachine.Action
import RegisterMachine.Proofs.Number.Order

set_option autoImplicit false
set_option relaxedAutoImplicit false

/-!
# Numbers that are integers

The operations on bits work on integers, among them the doubles whose value is an integer. They
refuse all other numbers, with one exception: a count that shifts every bit out leaves zero, and the
number that is shifted is not looked at.

## Main definitions

* `RegisterMachine.NeedsInteger` — what fails because a number is no integer.
* `RegisterMachine.Number.IsIntegral` — the numbers whose value is an integer.
* `RegisterMachine.Number.ShiftsOut` — the counts that shift every bit out.

## Main results

* `RegisterMachine.Number.toInt_eq_ok_iff` — the integer that an operation on bits works on is the
  value of the number.
* `RegisterMachine.Number.bitwise_operations_need_integers` — which numbers are refused.
* `RegisterMachine.Number.fraction_is_shifted_out` — the exception.
-/

namespace RegisterMachine

/-! ## Integers as values -/

namespace Exact

/-- Units in whole ones keep their sign. -/
lemma signed_mul (negative : Bool) (m n : Nat) :
    signed negative (m * n) = signed negative m * n := by
  cases negative <;> simp [signed]

/-- **An exact number equals an integer if its value is that integer.** -/
lemma toInt?_eq_some_iff {x : Exact} {n : Int} :
    x.toInt? = some n ↔ x.value? = some ((n : ℝ) : EReal) := by
  cases x with
  | nan => simp [toInt?, value?]
  | infinite negative => cases negative <;> simp [toInt?, value?]
  | finite negative units =>
    have hpos : (0 : Int) < unitsPerOne := Int.natCast_pos.2 unitsPerOne_pos
    have hunits : (unitsPerOne : ℝ) ≠ 0 := Nat.cast_ne_zero.2 unitsPerOne_pos.ne'
    have hvalue : (finite negative units).value? = some ((n : ℝ) : EReal) ↔
        signed negative units = n * unitsPerOne := by
      rw [value?, Option.some.injEq, EReal.coe_eq_coe_iff, div_eq_iff hunits]
      exact_mod_cast Iff.rfl
    rw [hvalue, toInt?]
    constructor
    · intro h
      split at h
      · next hwhole =>
        obtain rfl := Option.some.inj h
        rw [← signed_mul, Nat.div_mul_cancel (Nat.dvd_of_mod_eq_zero hwhole)]
      · cases h
    · intro h
      -- the units are whole ones, as many as the integer says
      have hwhole : units = n.natAbs * unitsPerOne := by
        have habs := congrArg Int.natAbs h
        rwa [natAbs_signed, Int.natAbs_mul, Int.natAbs_natCast] at habs
      rw [hwhole, signed_mul] at h
      rw [hwhole, if_pos (Nat.mul_mod_left _ _), Nat.mul_div_cancel _ unitsPerOne_pos,
        Int.eq_of_mul_eq_mul_right hpos.ne' h]

end Exact

/-! ## Refusals -/

/-- A computation fails because a number is no integer. -/
def NeedsInteger {α : Type} (outcome : Except Cause α) : Prop :=
  ∃ cause, outcome = .error cause ∧ cause.kind = .integerRequired

section NeedsInteger

variable {α β : Type}

@[simp]
lemma needsInteger_ok (value : α) : ¬ NeedsInteger (.ok value) := by
  simp [NeedsInteger]

@[simp]
lemma needsInteger_pure (value : α) : ¬ NeedsInteger (pure value) :=
  needsInteger_ok value

/-- A sequence fails for this in its first part, or in its second if the first succeeds. -/
@[simp]
lemma needsInteger_bind (first : Except Cause α) (next : α → Except Cause β) :
    NeedsInteger (first >>= next) ↔
      NeedsInteger first ∨ ∃ value, first = .ok value ∧ NeedsInteger (next value) := by
  cases first with
  | ok value =>
    change NeedsInteger (next value) ↔ _
    simp
  | error cause =>
    change NeedsInteger (.error cause : Except Cause β) ↔ _
    simp [NeedsInteger]

end NeedsInteger

namespace Number

variable {a b : Number} {n : Int}

/-- The value of a number is an integer. -/
def IsIntegral (a : Number) : Prop :=
  ∃ n : Int, a.value? = some ((n : ℝ) : EReal)

/-- A count of 64 places or more, in either direction. -/
def ShiftsOut (b : Number) : Prop :=
  ∃ count : Int, b.value? = some ((count : ℝ) : EReal) ∧ 64 ≤ count.natAbs

/-- **The integer that an operation on bits works on is the value of the number.** -/
lemma toInt_eq_ok_iff : a.toInt = .ok n ↔ a.value? = some ((n : ℝ) : EReal) := by
  have hint : ∀ m : Int, (.ok m : Except Cause Int) = .ok n ↔
      (Number.int m).value? = some ((n : ℝ) : EReal) := by
    intro m
    rw [value?_int]
    simp
  cases a with
  | int m => exact hint m
  | truth b => exact hint _
  | double x =>
    have hdouble : (Number.double x).toInt = .ok n ↔ Double.toInt? x = some n := by
      simp only [toInt, scalar]
      cases Double.toInt? x <;> simp
    rw [hdouble]
    exact Exact.toInt?_eq_some_iff

lemma exists_toInt_iff : (∃ n, a.toInt = .ok n) ↔ a.IsIntegral := by
  simp only [toInt_eq_ok_iff, IsIntegral]

lemma isOk_toInt_iff : a.toInt.isOk ↔ a.IsIntegral := by
  rw [← exists_toInt_iff]
  cases a.toInt <;> simp [Except.isOk, Except.toBool]

instance (a : Number) : Decidable a.IsIntegral :=
  decidable_of_iff _ isOk_toInt_iff

/-- A number is refused where an integer is needed if and only if it is none. -/
@[simp]
lemma needsInteger_toInt : NeedsInteger a.toInt ↔ ¬ a.IsIntegral := by
  have hcause : ∀ cause, a.toInt = .error cause → cause.kind = .integerRequired := by
    intro cause h
    unfold toInt at h
    split at h
    · cases h
    · split at h <;> cases h
      rfl
  rw [← exists_toInt_iff]
  cases htoInt : a.toInt with
  | ok n => simp
  | error cause => simpa [NeedsInteger] using hcause cause htoInt

/-! ## Operations on bits -/

/-- An operation on words is refused a number if one of the two is no integer. -/
lemma needsInteger_onWords {op : BitVec 64 → BitVec 64 → BitVec 64} :
    NeedsInteger (onWords op a b) ↔ ¬ a.IsIntegral ∨ ¬ b.IsIntegral := by
  simp only [onWords, needsInteger_bind, needsInteger_toInt, needsInteger_pure, and_false,
    exists_false, or_false, exists_and_right, exists_toInt_iff]
  tauto

/-- A complement is refused the number if it is no integer. -/
lemma needsInteger_not : NeedsInteger (not a) ↔ ¬ a.IsIntegral := by
  simp [not, -bind_pure_comp]

/-- A shift by fewer than 64 places is refused the number if it is no integer. -/
lemma needsInteger_shiftWord {left : Bool} {count : Nat} (h : count < 64) :
    NeedsInteger (shiftWord left a count) ↔ ¬ a.IsIntegral := by
  simp [shiftWord, Nat.not_le.2 h, -bind_pure_comp]

/-- A count that shifts every bit out leaves zero of any number. -/
lemma shift_of_shiftsOut {left : Bool} (h : b.ShiftsOut) : shift left a b = .ok (.int 0) := by
  obtain ⟨count, hvalue, hcount⟩ := h
  simp only [shift, Except.bind_eq_ok]
  refine ⟨count, toInt_eq_ok_iff.2 hvalue, ?_⟩
  split <;> rw [shiftWord, if_pos hcount]

/-- A count that shifts every bit out is an integer. -/
lemma ShiftsOut.isIntegral (h : b.ShiftsOut) : b.IsIntegral := by
  obtain ⟨count, hvalue, -⟩ := h
  exact ⟨count, hvalue⟩

/-- A shift is refused the count if it is no integer, and the number that is shifted if it is none,
unless every bit is shifted out. -/
lemma needsInteger_shift {left : Bool} :
    NeedsInteger (shift left a b) ↔
      (¬ a.IsIntegral ∧ ¬ b.ShiftsOut) ∨ ¬ b.IsIntegral := by
  by_cases hout : b.ShiftsOut
  · simp [shift_of_shiftsOut hout, hout, hout.isIntegral]
  · have hword : ∀ count : Int, b.toInt = .ok count →
        (NeedsInteger (if count < 0 then shiftWord (!left) a count.natAbs
          else shiftWord left a count.natAbs) ↔ ¬ a.IsIntegral) := by
      intro count hcount
      have hlt : count.natAbs < 64 :=
        Nat.lt_of_not_le fun hle => hout ⟨count, toInt_eq_ok_iff.1 hcount, hle⟩
      split <;> exact needsInteger_shiftWord hlt
    simp only [shift, needsInteger_bind, needsInteger_toInt]
    rw [exists_congr fun count => and_congr_right (hword count), exists_and_right,
      exists_toInt_iff]
    tauto

/-- **Operations on bits need integers.** They refuse the doubles that are not whole, the infinities
and what is not a number, wherever they stand, and nothing else. The exception is a shift by 64
places or more, in either direction: it leaves zero of any number, be it an integer or not.

**Proof sketch.** The integer that an operation works on is the value of the number
(`toInt_eq_ok_iff`), so that there is one if and only if the value is an integer
(`needsInteger_toInt`). A shift takes its count first, and looks at the number only if something of
it is left (`needsInteger_shift`). -/
theorem bitwise_operations_need_integers (a b : Number) :
    (∀ op ∈ [BinaryOp.and, .or, .xor],
      (NeedsInteger (op.apply a b) ↔ ¬ a.IsIntegral ∨ ¬ b.IsIntegral)) ∧
    (NeedsInteger (UnaryOp.not.apply a) ↔ ¬ a.IsIntegral) ∧
    ∀ op ∈ [BinaryOp.shl, .shr],
      (NeedsInteger (op.apply a b) ↔ (¬ a.IsIntegral ∧ ¬ b.ShiftsOut) ∨ ¬ b.IsIntegral) ∧
      (b.ShiftsOut → op.apply a b = .ok (.int 0)) := by
  refine ⟨fun op hop => ?_, needsInteger_not, fun op hop => ?_⟩
  · simp only [List.mem_cons, List.not_mem_nil, or_false] at hop
    rcases hop with rfl | rfl | rfl <;> exact needsInteger_onWords
  · simp only [List.mem_cons, List.not_mem_nil, or_false] at hop
    rcases hop with rfl | rfl <;> exact ⟨needsInteger_shift, shift_of_shiftsOut⟩

/-- **A fraction is not refused by a shift that leaves nothing of it**, in either direction. -/
theorem fraction_is_shifted_out :
    let half : Number := .double (Double.ofMagnitude false 0x3FE0000000000000)
    ¬ half.IsIntegral ∧ ∀ op ∈ [BinaryOp.shl, .shr], ∀ count ∈ [Number.int 64, .int (-64)],
      op.apply half count = .ok (.int 0) ∧ ¬ NeedsInteger (op.apply half count) := by
  intro half
  refine ⟨by decide +kernel, fun op hop count hcount => ?_⟩
  have hzero : op.apply half count = .ok (.int 0) := by
    simp only [List.mem_cons, List.not_mem_nil, or_false] at hop hcount
    rcases hop with rfl | rfl <;> rcases hcount with rfl | rfl <;> rfl
  exact ⟨hzero, by simp [hzero]⟩

end Number

end RegisterMachine
