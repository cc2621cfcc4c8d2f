import RegisterMachine.Action
import RegisterMachine.Opcode
import RegisterMachine.Proofs.Number.Range

set_option autoImplicit false
set_option relaxedAutoImplicit false

/-!
# Results of operations

Operations on numbers in range have results in range, and all their failures are faults of the
program. Results are words, except for those of one operation.

## Main results

* `RegisterMachine.BinaryOp.inRange_of_apply` — results are in range.
* `RegisterMachine.BinaryOp.isWord_of_apply`, `RegisterMachine.UnaryOp.isWord_of_apply`,
  `RegisterMachine.Number.isWord_of_idiv` — which results are words.
* `RegisterMachine.BinaryOp.isFault_of_apply`, `RegisterMachine.UnaryOp.isFault_of_apply` — failures
  are faults.
* `RegisterMachine.Opcode.eq_mnemonic` — an instruction has one mnemonic.
-/

namespace RegisterMachine

namespace Number

variable {a b result : Number} {cause : Cause}

/-- An operation on two scalars as doubles gives what it gives on some doubles. -/
lemma exists_of_doubles {s t : Scalar} {f : Float → Float → Number}
    (h : (do return f (← s.toDouble) (← t.toDouble)) = (.ok result : Except Cause Number)) :
    ∃ x y, result = f x y := by
  simp only [Except.bind_eq_ok, Except.pure_eq_ok] at h
  obtain ⟨x, -, y, -, rfl⟩ := h
  exact ⟨x, y, rfl⟩

/-! ## Results -/

/-- The result of a lifted operation is wrapped or a double. -/
lemma isWord_of_lift {onInts : Int → Int → Int} {onDoubles : Float → Float → Float}
    (h : lift onInts onDoubles a b = .ok result) : result.IsWord := by
  unfold lift at h
  split at h
  · cases h
    exact isWord_wrap _
  · obtain ⟨_, _, rfl⟩ := exists_of_doubles h
    exact .double _

/-- A quotient is a double. -/
lemma isWord_of_div (h : div a b = .ok result) : result.IsWord := by
  unfold div divideInts at h
  split at h
  · cases h
  · split at h
    · obtain ⟨_, -, rfl⟩ := Except.map_eq_ok.1 h
      exact .double _
    · obtain ⟨_, _, rfl⟩ := exists_of_doubles h
      exact .double _

/-- A scalar integer is in range if the number it is read from is. -/
lemma InRange.natAbs_le (h : a.InRange) {n : Int} (hscalar : a.scalar = .int n) :
    n.natAbs ≤ Double.largest := by
  obtain rfl := h.eq_int hscalar
  cases h with
  | int h => exact h

/-- A scalar integer has 64 bits if the number it is read from is a word. -/
lemma IsWord.bounds (h : a.IsWord) {n : Int} (hscalar : a.scalar = .int n) :
    -0x8000000000000000 ≤ n ∧ n ≤ 0x7FFFFFFFFFFFFFFF := by
  obtain rfl := h.inRange.eq_int hscalar
  cases h with
  | int h => exact h

/-- A quotient that is rounded down is a rounded double, or one of integers whose divisor is not
zero. -/
lemma exists_of_idiv (h : idiv a b = .ok result) :
    (∃ m n : Int, a.scalar = .int m ∧ b.scalar = .int n ∧ n ≠ 0 ∧ result = .int (m.fdiv n)) ∨
    (∃ x, result = ofQuotient x) ∧ ((∃ x, a = .double x) ∨ ∃ y, b = .double y) := by
  unfold idiv at h
  split at h
  · cases h
  · next hzero =>
    split at h
    · next m n hm hn =>
      cases h
      have hne : n ≠ 0 := by
        rintro rfl
        simp [isZero, hn] at hzero
      exact .inl ⟨m, n, hm, hn, hne, rfl⟩
    · next hints =>
      obtain ⟨_, _, rfl⟩ := exists_of_doubles h
      refine .inr ⟨⟨_, rfl⟩, ?_⟩
      cases a with
      | double x => exact .inl ⟨x, rfl⟩
      | int | truth =>
        cases b with
        | double y => exact .inr ⟨y, rfl⟩
        | int | truth => exact absurd rfl (hints _ _ rfl)

/-- A quotient that is rounded down does not grow. -/
lemma inRange_of_idiv (ha : a.InRange) (h : idiv a b = .ok result) : result.InRange := by
  obtain ⟨m, n, hm, -, -, rfl⟩ | ⟨⟨x, rfl⟩, -⟩ := exists_of_idiv h
  · exact .int (Nat.le_trans (Int.natAbs_fdiv_le_natAbs m n) (ha.natAbs_le hm))
  · exact inRange_ofQuotient x

/-- The remainder that goes with the rounded quotient lies between zero and the divisor. -/
lemma fmod_between (m : Int) {n : Int} (hn : n ≠ 0) :
    (0 ≤ m.fmod n ∧ m.fmod n < n) ∨ (n < m.fmod n ∧ m.fmod n ≤ 0) := by
  have hnonneg := Int.emod_nonneg m hn
  have hlt := Int.emod_lt m hn
  rw [Int.fmod_eq_emod]
  split <;> omega

/-- **A quotient of words that is rounded down is a word**, except that of the least integer and
minus one, and those of doubles.

**Proof sketch.** A quotient of integers is not larger than the dividend, so it has 64 bits unless
it is one above the greatest integer. The dividend is then that many times the divisor, up to a
remainder that lies between zero and the divisor, which leaves one pair of integers. -/
lemma isWord_of_idiv (ha : a.IsWord) (hb : b.IsWord) (h : idiv a b = .ok result) :
    result.IsWord ∨ (a = .int (-0x8000000000000000) ∧ b = .int (-1)) ∨
      (∃ x, a = .double x) ∨ ∃ y, b = .double y := by
  obtain ⟨m, n, hm, hn, hne, rfl⟩ | ⟨-, hdouble⟩ := exists_of_idiv h
  · have hbounds := ha.bounds hm
    have hle := Int.natAbs_fdiv_le_natAbs m n
    by_cases hwide : m.fdiv n = 0x8000000000000000
    · have hbetween := fmod_between m hne
      have hdivision := Int.mul_fdiv_add_fmod m n
      rw [hwide] at hdivision
      obtain ⟨rfl, rfl⟩ : m = -0x8000000000000000 ∧ n = -1 := by omega
      exact .inr (.inl ⟨ha.inRange.eq_int hm, hb.inRange.eq_int hn⟩)
    · exact .inl (.int (by omega))
  · exact .inr (.inr hdouble)

/-- A remainder is a double, or lies between zero and the divisor. -/
lemma exists_of_mod (h : mod a b = .ok result) : (∃ x, result = .double x) ∨
    ∃ r n : Int, b.scalar = .int n ∧ result = .int r ∧
      ((0 ≤ r ∧ r < n) ∨ (n < r ∧ r ≤ 0)) := by
  unfold mod at h
  split at h
  · cases h
  · next hzero =>
    split at h
    · next m n hm hn =>
      cases h
      -- a divisor that is zero has been refused
      have hne : n ≠ 0 := by
        rintro rfl
        simp [isZero, hn] at hzero
      exact .inr ⟨_, n, hn, rfl, fmod_between m hne⟩
    · obtain ⟨_, _, rfl⟩ := exists_of_doubles h
      exact .inl ⟨_, rfl⟩

/-- A remainder is no larger than the divisor. -/
lemma inRange_of_mod (hb : b.InRange) (h : mod a b = .ok result) : result.InRange := by
  obtain ⟨x, rfl⟩ | ⟨r, n, hn, rfl, hbetween⟩ := exists_of_mod h
  · exact .double x
  · have hbound := hb.natAbs_le hn
    exact .int (by omega)

/-- A remainder is a word if the divisor is. -/
lemma isWord_of_mod (hb : b.IsWord) (h : mod a b = .ok result) : result.IsWord := by
  obtain ⟨x, rfl⟩ | ⟨r, n, hn, rfl, hbetween⟩ := exists_of_mod h
  · exact .double x
  · have hbounds := hb.bounds hn
    exact .int (by omega)

/-- A power is a double. -/
lemma isWord_of_pow (h : pow a b = .ok result) : result.IsWord := by
  unfold pow at h
  split at h <;> cases h <;> exact .double _

/-- A square root is a double. -/
lemma isWord_of_sqrt (h : sqrt a = .ok result) : result.IsWord := by
  unfold sqrt at h
  split at h
  · cases h
    exact .double _
  · simp only [Except.bind_eq_ok, Except.pure_eq_ok] at h
    obtain ⟨_, -, rfl⟩ := h
    exact .double _

/-- The result of an operation on words is a word. -/
lemma isWord_of_onWords {op : BitVec 64 → BitVec 64 → BitVec 64}
    (h : onWords op a b = .ok result) : result.IsWord := by
  simp only [onWords, Except.bind_eq_ok, Except.pure_eq_ok] at h
  obtain ⟨_, -, _, -, rfl⟩ := h
  exact isWord_toInt _

/-- The complement of a word is a word. -/
lemma isWord_of_not (h : not a = .ok result) : result.IsWord := by
  simp only [not, Except.bind_eq_ok, Except.pure_eq_ok] at h
  obtain ⟨_, -, rfl⟩ := h
  exact isWord_toInt _

/-- A shifted word is a word. -/
lemma isWord_of_shiftWord {left : Bool} {count : Nat}
    (h : shiftWord left a count = .ok result) : result.IsWord := by
  unfold shiftWord at h
  split at h
  · cases h
    exact .int (by decide)
  · simp only [Except.bind_eq_ok, Except.pure_eq_ok] at h
    obtain ⟨_, -, rfl⟩ := h
    exact isWord_toInt _

/-- A shifted word is a word. -/
lemma isWord_of_shift {left : Bool} (h : shift left a b = .ok result) : result.IsWord := by
  simp only [shift, Except.bind_eq_ok] at h
  obtain ⟨count, -, h⟩ := h
  split at h <;> exact isWord_of_shiftWord h

/-! ## Failures are faults -/

/-- A double that there is none of is a fault. -/
lemma isFault_of_unlessTooLarge {e : RangeError} {rounded : Option Float}
    (h : unlessTooLarge e rounded = .error cause) : cause.isFault := by
  cases rounded with
  | some x => cases h
  | none =>
    cases h
    rfl

/-- A conversion to a double fails by a fault. -/
lemma isFault_of_toDouble {s : Scalar} (h : s.toDouble = .error cause) : cause.isFault := by
  cases s with
  | double x => cases h
  | int n => exact isFault_of_unlessTooLarge h

/-- An operation on two scalars as doubles fails by a fault. -/
lemma isFault_of_doubles {s t : Scalar} {f : Float → Float → Number}
    (h : (do return f (← s.toDouble) (← t.toDouble)) = Except.error cause) : cause.isFault := by
  simp only [bind_pure_comp, Except.bind_eq_error, Except.map_eq_error] at h
  obtain h | ⟨_, -, h⟩ := h <;> exact isFault_of_toDouble h

/-- A lifted operation fails by a fault. -/
lemma isFault_of_lift {onInts : Int → Int → Int} {onDoubles : Float → Float → Float}
    (h : lift onInts onDoubles a b = .error cause) : cause.isFault := by
  unfold lift at h
  split at h
  · cases h
  · exact isFault_of_doubles h

/-- A division fails by a fault. -/
lemma isFault_of_div (h : div a b = .error cause) : cause.isFault := by
  unfold div divideInts at h
  split at h
  · cases h
    rfl
  · split at h
    · exact isFault_of_unlessTooLarge (Except.map_eq_error.1 h)
    · exact isFault_of_doubles h

/-- A division that is rounded down fails by a fault. -/
lemma isFault_of_idiv (h : idiv a b = .error cause) : cause.isFault := by
  unfold idiv at h
  split at h
  · cases h
    rfl
  · split at h
    · cases h
    · exact isFault_of_doubles h

/-- A division with remainder fails by a fault. -/
lemma isFault_of_mod (h : mod a b = .error cause) : cause.isFault := by
  unfold mod at h
  split at h
  · cases h
    rfl
  · split at h
    · cases h
    · exact isFault_of_doubles h

/-- A power does not fail. -/
lemma pow_ne_error : pow a b ≠ .error cause := by
  unfold pow
  split <;> simp

/-- A square root fails by a fault. -/
lemma isFault_of_sqrt (h : sqrt a = .error cause) : cause.isFault := by
  unfold sqrt at h
  split at h
  · cases h
  · simp only [bind_pure_comp, Except.map_eq_error] at h
    exact isFault_of_toDouble h

/-- A number that is no integer is a fault of a bitwise operation. -/
lemma isFault_of_toInt (h : toInt a = .error cause) : cause.isFault := by
  unfold toInt at h
  split at h
  · cases h
  · split at h
    · cases h
    · cases h
      rfl

/-- An operation on words fails by a fault. -/
lemma isFault_of_onWords {op : BitVec 64 → BitVec 64 → BitVec 64}
    (h : onWords op a b = .error cause) : cause.isFault := by
  simp only [onWords, bind_pure_comp, Except.bind_eq_error, Except.map_eq_error] at h
  obtain h | ⟨_, -, h⟩ := h <;> exact isFault_of_toInt h

/-- A complement fails by a fault. -/
lemma isFault_of_not (h : not a = .error cause) : cause.isFault := by
  simp only [not, bind_pure_comp, Except.map_eq_error] at h
  exact isFault_of_toInt h

/-- A shift fails by a fault. -/
lemma isFault_of_shiftWord {left : Bool} {count : Nat}
    (h : shiftWord left a count = .error cause) : cause.isFault := by
  unfold shiftWord at h
  split at h
  · cases h
  · simp only [bind_pure_comp, Except.map_eq_error] at h
    exact isFault_of_toInt h

/-- A shift fails by a fault. -/
lemma isFault_of_shift {left : Bool} (h : shift left a b = .error cause) : cause.isFault := by
  simp only [shift, Except.bind_eq_error] at h
  obtain h | ⟨count, -, h⟩ := h
  · exact isFault_of_toInt h
  · split at h <;> exact isFault_of_shiftWord h

end Number

/-! ## Operations by their codes -/

namespace BinaryOp

variable {op : BinaryOp} {a b result : Number} {cause : Cause}

/-- **The result of an operation on two numbers is a word**, whatever the numbers are, unless it is
a quotient that is rounded down or a remainder. -/
lemma isWord_of_apply (hidiv : op ≠ .idiv) (hmod : op ≠ .mod) (h : op.apply a b = .ok result) :
    result.IsWord := by
  cases op with
  | add | sub | mul => exact Number.isWord_of_lift h
  | div => exact Number.isWord_of_div h
  | idiv => exact absurd rfl hidiv
  | mod => exact absurd rfl hmod
  | pow => exact Number.isWord_of_pow h
  | and | or | xor => exact Number.isWord_of_onWords h
  | shl | shr => exact Number.isWord_of_shift h

/-- **The result of an operation on two numbers in range is in range.** -/
lemma inRange_of_apply (ha : a.InRange) (hb : b.InRange) (h : op.apply a b = .ok result) :
    result.InRange := by
  by_cases hidiv : op = .idiv
  · subst hidiv
    exact Number.inRange_of_idiv ha h
  · by_cases hmod : op = .mod
    · subst hmod
      exact Number.inRange_of_mod hb h
    · exact (isWord_of_apply hidiv hmod h).inRange

/-- **An operation on two numbers fails by a fault of the program.** -/
lemma isFault_of_apply (h : op.apply a b = .error cause) : cause.isFault := by
  cases op with
  | add | sub | mul => exact Number.isFault_of_lift h
  | div => exact Number.isFault_of_div h
  | idiv => exact Number.isFault_of_idiv h
  | mod => exact Number.isFault_of_mod h
  | pow => exact absurd h Number.pow_ne_error
  | and | or | xor => exact Number.isFault_of_onWords h
  | shl | shr => exact Number.isFault_of_shift h

end BinaryOp

namespace UnaryOp

variable {op : UnaryOp} {a result : Number} {cause : Cause}

/-- **The result of an operation on one number is a word.** -/
lemma isWord_of_apply (h : op.apply a = .ok result) : result.IsWord := by
  cases op with
  | sqrt => exact Number.isWord_of_sqrt h
  | inc | dec => exact Number.isWord_of_lift h
  | not => exact Number.isWord_of_not h

/-- **An operation on one number fails by a fault of the program.** -/
lemma isFault_of_apply (h : op.apply a = .error cause) : cause.isFault := by
  cases op with
  | sqrt => exact Number.isFault_of_sqrt h
  | inc | dec => exact Number.isFault_of_lift h
  | not => exact Number.isFault_of_not h

end UnaryOp

/-! ## Mnemonics -/

/-- The mnemonic of an operation on two numbers. -/
def BinaryOp.mnemonic : BinaryOp → String
  | .add => "add"
  | .sub => "sub"
  | .mul => "mul"
  | .div => "div"
  | .idiv => "idiv"
  | .mod => "mod"
  | .pow => "pow"
  | .and => "and"
  | .or => "or"
  | .xor => "xor"
  | .shl => "shl"
  | .shr => "shr"

/-- The mnemonic of an operation on one number. -/
def UnaryOp.mnemonic : UnaryOp → String
  | .sqrt => "sqrt"
  | .inc => "inc"
  | .dec => "dec"
  | .not => "not"

/-- The mnemonic of a jump under a condition. -/
def Condition.mnemonic : Condition → String
  | .always => "jmp"
  | .equal => "je"
  | .notEqual => "jne"
  | .less => "jl"
  | .lessEqual => "jle"
  | .greater => "jg"
  | .greaterEqual => "jge"

namespace Opcode

/-- The mnemonic of an instruction. -/
def mnemonic : Opcode → String
  | .out => "out"
  | .mov => "mov"
  | .als => "als"
  | .dbg => "dbg"
  | .hlt => "hlt"
  | .slp => "slp"
  | .nop => "nop"
  | .cmp => "cmp"
  | .jump condition => condition.mnemonic
  | .binary op => op.mnemonic
  | .unary op => op.mnemonic

/-- **An instruction has one mnemonic.** -/
lemma eq_mnemonic {name : String} {opcode : Opcode} (h : ofMnemonic? name = some opcode) :
    name = opcode.mnemonic := by
  simp only [ofMnemonic?, Option.orElse_eq_orElse, Option.orElse_eq_or, Option.or_eq_some_iff,
    Option.map_eq_some_iff] at h
  obtain h | ⟨-, ⟨condition, h, rfl⟩ | ⟨-, ⟨op, h, rfl⟩ | ⟨-, op, h, rfl⟩⟩⟩ := h
  · unfold ofPlainMnemonic? at h
    split at h <;> cases h <;> rfl
  · unfold Condition.ofMnemonic? at h
    split at h <;> cases h <;> rfl
  · unfold BinaryOp.ofMnemonic? at h
    split at h <;> cases h <;> rfl
  · unfold UnaryOp.ofMnemonic? at h
    split at h <;> cases h <;> rfl

end Opcode

end RegisterMachine
