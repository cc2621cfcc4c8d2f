import RegisterMachine.Proofs.Double.Rounding
import RegisterMachine.Proofs.Opcode

set_option autoImplicit false
set_option relaxedAutoImplicit false

/-!
# Failures of operations

Why an operation on numbers in range fails: a divisor is zero, or a bitwise operation meets a number
that is no integer. No conversion fails on the way, because every number in range rounds to a
double, and so does every quotient of integers in range.

## Main definitions

* `RegisterMachine.Number.Undefined` — the two causes.

## Main results

* `RegisterMachine.Number.InRange.exists_toDouble` — a number in range rounds to a double.
* `RegisterMachine.BinaryOp.undefined_of_apply`, `RegisterMachine.UnaryOp.undefined_of_apply` — why
  an operation fails.
-/

namespace RegisterMachine

namespace Number

variable {a b : Number} {cause : Cause}

/-- Why an operation on numbers in range may have no result. -/
inductive Undefined : Cause → Prop
  | divisionByZero : Undefined .divisionByZero
  | notInteger (x : Float) : Undefined (.notInteger x)

/-! ## Conversions -/

/-- A double that there is can be taken. -/
lemma unlessTooLarge_of_some {e : RangeError} {rounded : Option Float} {x : Float}
    (h : rounded = some x) : unlessTooLarge e rounded = .ok x := by
  rw [h]
  rfl

/-- **A number in range rounds to a double.** -/
lemma InRange.exists_toDouble (h : a.InRange) : ∃ x, a.scalar.toDouble = .ok x := by
  cases h with
  | int h =>
    obtain ⟨x, hx⟩ := Double.exists_ofInt? h
    exact ⟨x, unlessTooLarge_of_some hx⟩
  | double x => exact ⟨x, rfl⟩

/-- An operation on two numbers in range as doubles has a result. -/
lemma exists_doubles (ha : a.InRange) (hb : b.InRange) (f : Float → Float → Number) :
    ∃ result, (do return f (← a.scalar.toDouble) (← b.scalar.toDouble)) =
      (.ok result : Except Cause Number) := by
  obtain ⟨x, hx⟩ := ha.exists_toDouble
  obtain ⟨y, hy⟩ := hb.exists_toDouble
  exact ⟨f x y, by simp [hx, hy]⟩

/-! ## Arithmetic -/

/-- A lifted operation has a result. -/
lemma exists_lift (ha : a.InRange) (hb : b.InRange) (onInts : Int → Int → Int)
    (onDoubles : Float → Float → Float) : ∃ result, lift onInts onDoubles a b = .ok result := by
  unfold lift
  split
  · exact ⟨_, rfl⟩
  · exact exists_doubles ha hb fun x y => .double (onDoubles x y)

/-- An integer quotient has a divisor that is not zero. -/
lemma natAbs_pos_of_isZero {n : Int} (hscalar : b.scalar = .int n) (hb : ¬ b.isZero) :
    0 < n.natAbs := by
  have hne : n ≠ 0 := by
    rintro rfl
    simp [isZero, hscalar] at hb
  omega

/-- A quotient of integers in range rounds to a double, since it is not above the dividend. -/
lemma exists_divideInts {m n : Int} (hm : m.natAbs ≤ Double.largest) (hn : 0 < n.natAbs) :
    ∃ result, divideInts m n = .ok result := by
  have hle : m.natAbs ≤ Double.largest * n.natAbs :=
    Nat.le_trans hm (Nat.le_mul_of_pos_right _ hn)
  obtain ⟨x, hx⟩ := Double.exists_nearest? ((m < 0) != (n < 0)) hn hle
  refine ⟨.double x, ?_⟩
  rw [divideInts, unlessTooLarge_of_some hx]
  rfl

/-- A kind of division fails only if the divisor is zero, when it has a result for all integers in
range whose divisor is not zero. -/
lemma undefined_of_divide (ha : a.InRange) (hb : b.InRange)
    (onInts : Int → Int → Except Cause Number) (onDoubles : Float → Float → Number)
    (hints : ∀ m n : Int, m.natAbs ≤ Double.largest → 0 < n.natAbs → ∃ result,
      onInts m n = .ok result)
    (h : (if b.isZero then .error .divisionByZero
      else match a.scalar, b.scalar with
        | .int m, .int n => onInts m n
        | s, t => do return onDoubles (← s.toDouble) (← t.toDouble)) = .error cause) :
    Undefined cause := by
  split at h
  · cases h
    exact .divisionByZero
  · next hzero =>
    -- with a divisor that is not zero there is a result
    exfalso
    split at h
    · next m n hm hn =>
      obtain ⟨result, hresult⟩ := hints m n (ha.natAbs_le hm) (natAbs_pos_of_isZero hn hzero)
      cases hresult.symm.trans h
    · obtain ⟨result, hresult⟩ := exists_doubles ha hb onDoubles
      cases hresult.symm.trans h

/-- A division fails only if the divisor is zero. -/
lemma undefined_of_div (ha : a.InRange) (hb : b.InRange) (h : div a b = .error cause) :
    Undefined cause :=
  undefined_of_divide ha hb divideInts (fun x y => .double (x / y))
    (fun _ _ => exists_divideInts) h

/-- A division that is rounded down fails only if the divisor is zero. -/
lemma undefined_of_idiv (ha : a.InRange) (hb : b.InRange) (h : idiv a b = .error cause) :
    Undefined cause :=
  undefined_of_divide ha hb (fun m n => .ok (.int (m.fdiv n)))
    (fun x y => ofQuotient (Double.flooredQuotient x y)) (fun _ _ _ _ => ⟨_, rfl⟩) h

/-- A division with remainder fails only if the divisor is zero. -/
lemma undefined_of_mod (ha : a.InRange) (hb : b.InRange) (h : mod a b = .error cause) :
    Undefined cause :=
  undefined_of_divide ha hb (fun m n => .ok (.int (m.fmod n)))
    (fun x y => .double (Double.flooredRemainder x y)) (fun _ _ _ _ => ⟨_, rfl⟩) h

/-- A number in range has a square root. -/
lemma exists_sqrt (ha : a.InRange) : ∃ result, sqrt a = .ok result := by
  unfold sqrt
  split
  · exact ⟨_, rfl⟩
  · obtain ⟨x, hx⟩ := ha.exists_toDouble
    exact ⟨.double x.sqrt, by simp [hx]⟩

/-! ## Bitwise operations -/

/-- A number that is no integer is why there is no integer. -/
lemma undefined_of_toInt (h : toInt a = .error cause) : Undefined cause := by
  unfold toInt at h
  split at h
  · cases h
  · split at h
    · cases h
    · cases h
      exact .notInteger _

/-- An operation on words fails only if a number is no integer. -/
lemma undefined_of_onWords {op : BitVec 64 → BitVec 64 → BitVec 64}
    (h : onWords op a b = .error cause) : Undefined cause := by
  simp only [onWords, bind_pure_comp, Except.bind_eq_error, Except.map_eq_error] at h
  obtain h | ⟨_, -, h⟩ := h <;> exact undefined_of_toInt h

/-- A complement fails only if the number is no integer. -/
lemma undefined_of_not (h : not a = .error cause) : Undefined cause := by
  simp only [not, bind_pure_comp, Except.map_eq_error] at h
  exact undefined_of_toInt h

/-- A shift fails only if a number is no integer. -/
lemma undefined_of_shift {left : Bool} (h : shift left a b = .error cause) :
    Undefined cause := by
  have hword : ∀ left count, shiftWord left a count = .error cause → Undefined cause := by
    intro left count hshift
    unfold shiftWord at hshift
    split at hshift
    · cases hshift
    · simp only [bind_pure_comp, Except.map_eq_error] at hshift
      exact undefined_of_toInt hshift
  simp only [shift, Except.bind_eq_error] at h
  obtain h | ⟨count, -, h⟩ := h
  · exact undefined_of_toInt h
  · split at h <;> exact hword _ _ h

end Number

/-! ## Operations by their codes -/

open Number

/-- **An operation on two numbers in range fails only if a divisor is zero or a number is no
integer.** -/
lemma BinaryOp.undefined_of_apply {op : BinaryOp} {a b : Number} {cause : Cause}
    (ha : a.InRange) (hb : b.InRange) (h : op.apply a b = .error cause) : Undefined cause := by
  have hlift : ∀ onInts onDoubles, lift onInts onDoubles a b ≠ .error cause := by
    intro onInts onDoubles
    obtain ⟨result, hresult⟩ := exists_lift ha hb onInts onDoubles
    simp [hresult]
  cases op with
  | add | sub | mul => exact absurd h (hlift _ _)
  | div => exact undefined_of_div ha hb h
  | idiv => exact undefined_of_idiv ha hb h
  | mod => exact undefined_of_mod ha hb h
  | pow => exact absurd h pow_ne_error
  | and | or | xor => exact undefined_of_onWords h
  | shl | shr => exact undefined_of_shift h

/-- **An operation on a number in range fails only if the number is no integer.** -/
lemma UnaryOp.undefined_of_apply {op : UnaryOp} {a : Number} {cause : Cause} (ha : a.InRange)
    (h : op.apply a = .error cause) : Undefined cause := by
  have hone : (Number.int 1).InRange := .int (by decide +kernel)
  have hlift : ∀ onInts onDoubles, lift onInts onDoubles a (.int 1) ≠ .error cause := by
    intro onInts onDoubles
    obtain ⟨result, hresult⟩ := exists_lift ha hone onInts onDoubles
    simp [hresult]
  cases op with
  | sqrt =>
    obtain ⟨result, hresult⟩ := exists_sqrt ha
    cases hresult.symm.trans h
  | inc | dec => exact absurd h (hlift _ _)
  | not => exact undefined_of_not h

end RegisterMachine
